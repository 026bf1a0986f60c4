import GstSvpExt.SecapiV2Ledger
import GstSvpExt.SecapiV3Ledger

/-!
# One status for two allocators

`svp_allocate_secure_buffers` (`gst_svp_meta.cpp:335-339`) returns what the registered hook returns,
and the hook is `svp_allocate_secure_buffers_v2_secapi_impl` or
`svp_allocate_secure_buffers_v3_impl_default`. A caller can only read success from that number. The
v3 allocator returns it (`allocateV3_status`), save where `malloc` answers `NULL`, which it then
writes through; the v2 allocator ends in `return 1` whatever happened before (`secapi_status`).
-/

namespace GstSvpExt

variable {P M D T H : Type}

/-- Every requested allocation succeeded, and so did the creation of the buffer and the write of a
requested input. -/
def V3AllocateAnswers.AllDone (a : V3AllocateAnswers P M D) {S : Type} (ppInBuf ppOutBuf : Option S) : Prop :=
  (ppOutBuf.isSome → a.out.memoryAlloc.isSome) ∧
    (ppInBuf.isSome → a.inp.memoryAlloc.isSome ∧ a.bufferCreate.isSome ∧ a.bufferWrite = true)

instance (a : V3AllocateAnswers P M D) {S : Type} (ppInBuf ppOutBuf : Option S) :
    Decidable (a.AllDone ppInBuf ppOutBuf) :=
  inferInstanceAs (Decidable (_ ∧ _))

/-- A `malloc` that the v3 allocator reaches answers `NULL`: the one for the output, or the one for
the input after an output that is allocated or not asked for. -/
def V3AllocateAnswers.MallocNull (a : V3AllocateAnswers P M D) {S : Type} (ppInBuf ppOutBuf : Option S) : Prop :=
  (ppOutBuf.isSome ∧ a.out.malloc = none) ∨
    (ppInBuf.isSome ∧ (ppOutBuf.isSome → a.out.memoryAlloc.isSome) ∧ a.inp.malloc = none)

section
variable [DecidableEq P] [DecidableEq M]

/-- A cleanup of the output, then of the input, is defined on two live handles. -/
theorem freeBoth_defined {memoryFree : M → Bool} {w : V3World P M D T} {slot : Slot} {pp : Option Slot}
    {p : P} (hs : w.slots slot = some p) (hl : w.Live p)
    (hpp : ∀ s ∈ pp, s ≠ slot ∧ ∃ q, w.slots s = some q ∧ q ≠ p ∧ w.Live q) :
    ∃ w1 w2, freeV3Memory memoryFree w pp = some w1 ∧ freeV3Memory memoryFree w1 (some slot) = some w2 := by
  have hin : ∀ w1 : V3World P M D T, w1.slots slot = some p → w1.structs p = w.structs p →
      ∃ w2, freeV3Memory memoryFree w1 (some slot) = some w2 := by
    intro w1 hs1 hp1
    obtain ⟨n, m, hl⟩ := hl
    exact ⟨_, freeV3Memory_done hs1 (hp1.trans hl)⟩
  cases pp with
  | none =>
    obtain ⟨w2, h2⟩ := hin w hs rfl
    exact ⟨w, w2, rfl, h2⟩
  | some s =>
    obtain ⟨hne, q, hq, hqp, hlq⟩ := hpp s rfl
    obtain ⟨w1, new, h1, -, -, hst, hsl⟩ := freeV3Memory_frees memoryFree s (w := w)
      (by rw [hq]; rintro r hr; rw [← Option.some.inj hr]; exact hlq)
    obtain ⟨w2, h2⟩ := hin w1 ((hsl slot hne.symm).trans hs) (hst p (by rw [hq]; simpa using hqp))
    exact ⟨w1, w2, h1, h2⟩

/-- The copy of the input data returns 1 exactly when the buffer was created and written. -/
theorem fillInBufV3_status (a : V3AllocateAnswers P M D) (w : V3World P M D T) {slot : Slot}
    (pp : Option Slot) (data : List UInt8) {n : Nat} {p : P} {m : M} {bytes : List UInt8}
    (hs : w.slots slot = some p) (hp : w.structs p = some ⟨n, some m⟩) (hm : w.memory m = some bytes)
    (hb : bytes.length = n) (hd : n ≤ data.length)
    (hpp : ∀ s ∈ pp, s ≠ slot ∧ ∃ q, w.slots s = some q ∧ q ≠ p ∧ w.Live q) :
    ∃ w', fillInBufV3 a w (some slot) pp data n =
      some (if a.bufferCreate.isSome ∧ a.bufferWrite = true then 1 else 0, w') := by
  have hread : Bytes.read data 0 n = some (data.take n) := Bytes.read_eq_some.2 ⟨by omega, rfl⟩
  have hlive : ∀ c : List (V3Call P M D T), ∃ w1 w2,
      freeV3Memory a.memoryFree { w with calls := c } pp = some w1 ∧
        freeV3Memory a.memoryFree w1 (some slot) = some w2 :=
    fun c => freeBoth_defined (w := { w with calls := c }) hs ⟨n, m, hp⟩ hpp
  cases hc : a.bufferCreate with
  | none =>
    obtain ⟨w1, w2, h1, h2⟩ := hlive (w.calls ++ [.bufferCreate m n none])
    exact ⟨w2, by simp [fillInBufV3, hs, hp, hc, h1, h2]⟩
  | some d =>
    cases hw : a.bufferWrite with
    | true =>
      obtain ⟨contents, hcw⟩ := Bytes.exists_write bytes 0 (data.take n)
        (by rw [List.length_take]; omega)
      exact ⟨_, by simp [fillInBufV3, hs, hp, hm, hc, hw, hread, hcw]; rfl⟩
    | false =>
      obtain ⟨w1, w2, h1, h2⟩ := hlive (w.calls ++ [.bufferCreate m n (some d),
        .bufferWrite d (data.take n) false])
      exact ⟨w2, by simp [fillInBufV3, hs, hp, hc, hw, hread, h1, h2]⟩

/-- The input stage, on an output handle that is live or was not asked for. -/
theorem allocateInBufV3_status (a : V3AllocateAnswers P M D) (w : V3World P M D T) (ppInBuf pp : Option Slot)
    {data : List UInt8} {n : Nat} (hd : n ≤ data.length) (hmalloc : ppInBuf.isSome → a.inp.malloc.isSome)
    (hpp : ∀ slot ∈ ppInBuf, ∀ s ∈ pp, s ≠ slot ∧ ∃ q, w.slots s = some q ∧ a.inp.malloc ≠ some q ∧ w.Live q) :
    ∃ w', allocateInBufV3 a w ppInBuf pp (some data) n =
      some (if ppInBuf.isSome → a.inp.memoryAlloc.isSome ∧ a.bufferCreate.isSome ∧ a.bufferWrite = true
        then 1 else 0, w') := by
  cases ppInBuf with
  | none => exact ⟨w, by simp [allocateInBufV3]⟩
  | some slot =>
    obtain ⟨p, hp⟩ := Option.isSome_iff_exists.1 (hmalloc rfl)
    cases hm : a.inp.memoryAlloc with
    | none =>
      -- the new struct is freed again, then the output
      have hfree : ∃ w2, freeV3Memory a.memoryFree { w with
          structs := Function.update w.structs p none
          calls := w.calls ++ [.malloc (some p), .memoryAlloc n none, .free (some p)] } pp = some w2 := by
        cases pp with
        | none => exact ⟨_, rfl⟩
        | some s =>
          obtain ⟨-, q, hq, hqp, k, m, hl⟩ := hpp slot rfl s rfl
          have hne : q ≠ p := fun e => hqp (by rw [hp, e])
          exact ⟨_, freeV3Memory_done hq ((Function.update_of_ne hne _ _).trans hl)⟩
      obtain ⟨w2, h2⟩ := hfree
      exact ⟨w2, by simp [allocateInBufV3, allocateV3Memory_failed hp hm, h2]⟩
    | some m =>
      obtain ⟨w', h'⟩ := fillInBufV3_status a
        { structs := Function.update w.structs p (some ⟨n, some m⟩)
          memory := Function.update w.memory m (some ((List.range n).map a.inp.fill))
          slots := Function.update w.slots slot (some p)
          calls := w.calls ++ [.malloc (some p), .memoryAlloc n (some m)] }
        pp data (Function.update_self slot _ _) (Function.update_self p _ _) (Function.update_self m _ _)
        (by simp) hd (by
          intro s hs
          obtain ⟨hne, q, hq, hqp, k, m', hl⟩ := hpp slot rfl s hs
          have hqp : q ≠ p := fun e => hqp (by rw [hp, e])
          exact ⟨hne, q, (Function.update_of_ne hne _ _).trans hq, hqp, k, m',
            (Function.update_of_ne hqp _ _).trans hl⟩)
      exact ⟨w', by simp [allocateInBufV3, allocateV3Memory_done hp hm, h']⟩

/-- **The v3 status.** Where no `malloc` it reaches answers `NULL`, the v3 allocator returns 1 if every
requested step succeeded and 0 otherwise. -/
theorem allocateV3_status (a : V3AllocateAnswers P M D) (w : V3World P M D T) {ppInBuf ppOutBuf : Option Slot}
    {data : List UInt8} {n : Nat} (hnull : ¬ a.MallocNull ppInBuf ppOutBuf)
    (hapart : ppInBuf.isSome → ppOutBuf.isSome → ∀ p, a.out.malloc = some p → a.inp.malloc ≠ some p)
    (hslots : ∀ s ∈ ppInBuf, ppOutBuf ≠ some s) (hd : n ≤ data.length) :
    ∃ w', svpAllocateSecureBuffersV3ImplDefault a w ppInBuf ppOutBuf (some data) n =
      some (if a.AllDone ppInBuf ppOutBuf then 1 else 0, w') := by
  simp only [V3AllocateAnswers.MallocNull, not_or, not_and, ← ne_eq, ← Option.isSome_iff_ne_none] at hnull
  obtain ⟨hout, hin⟩ := hnull
  cases ppOutBuf with
  | none =>
    obtain ⟨w', h'⟩ := allocateInBufV3_status a w ppInBuf none hd
      (fun h => hin h (by simp)) (by simp)
    exact ⟨w', by simp [svpAllocateSecureBuffersV3ImplDefault, allocateOutBufV3, V3AllocateAnswers.AllDone, h']⟩
  | some so =>
    obtain ⟨p, hp⟩ := Option.isSome_iff_exists.1 (hout rfl)
    cases hm : a.out.memoryAlloc with
    | none =>
      exact ⟨_, by
        simp [svpAllocateSecureBuffersV3ImplDefault, allocateOutBufV3, V3AllocateAnswers.AllDone,
          allocateV3Memory_failed hp hm, hm]; rfl⟩
    | some m =>
      obtain ⟨w', h'⟩ := allocateInBufV3_status a
        { structs := Function.update w.structs p (some ⟨n, some m⟩)
          memory := Function.update w.memory m (some ((List.range n).map a.out.fill))
          slots := Function.update w.slots so (some p)
          calls := w.calls ++ [.malloc (some p), .memoryAlloc n (some m)] }
        ppInBuf (some so) hd (fun h => hin h (by simp [hm])) (by
          intro slot hslot s hs
          obtain rfl : s = so := (Option.mem_some_iff.1 hs).symm
          refine ⟨fun e => hslots slot hslot (by rw [e]), p, by simp, ?_, n, m, by simp⟩
          exact hapart (Option.isSome_of_mem hslot) rfl p hp)
      exact ⟨w', by
        simp [svpAllocateSecureBuffersV3ImplDefault, allocateOutBufV3, V3AllocateAnswers.AllDone,
          allocateV3Memory_done hp hm, hm, h']⟩

/-- A `malloc` that answers `NULL` is written through. -/
theorem allocateV3_null {a : V3AllocateAnswers P M D} {w : V3World P M D T} {ppInBuf ppOutBuf : Option Slot}
    {pInData : Option (List UInt8)} {n : Nat} (hnull : a.MallocNull ppInBuf ppOutBuf) :
    svpAllocateSecureBuffersV3ImplDefault a w ppInBuf ppOutBuf pInData n = none := by
  rcases hnull with ⟨hs, hm⟩ | ⟨hs, ho, hm⟩
  · obtain ⟨so, rfl⟩ := Option.isSome_iff_exists.1 hs
    simp [svpAllocateSecureBuffersV3ImplDefault, allocateOutBufV3, allocateV3Memory, hm]
  · obtain ⟨si, rfl⟩ := Option.isSome_iff_exists.1 hs
    cases ppOutBuf with
    | none => simp [svpAllocateSecureBuffersV3ImplDefault, allocateOutBufV3, allocateInBufV3, allocateV3Memory, hm]
    | some so =>
      obtain ⟨m, ho⟩ := Option.isSome_iff_exists.1 (ho rfl)
      cases hp : a.out.malloc with
      | none => simp [svpAllocateSecureBuffersV3ImplDefault, allocateOutBufV3, allocateV3Memory, hp]
      | some p =>
        simp [svpAllocateSecureBuffersV3ImplDefault, allocateOutBufV3, allocateInBufV3, allocateV3Memory, hm, hp, ho]

/-! ## The contract -/

/-- The hook returned, with a number other than 0 exactly when everything asked for was done. -/
def Reports (ret : Option UInt32) (done : Prop) : Prop := ∃ r, ret = some r ∧ (r ≠ 0 ↔ done)

/-- The platform answers both allocators alike, and the v3 buffer is created. -/
def SameOutcomes (a : AllocateAnswers H) (b : V3AllocateAnswers P M D) : Prop :=
  a.mallocOut.isSome = b.out.memoryAlloc.isSome ∧ a.mallocIn.isSome = b.inp.memoryAlloc.isSome ∧
    a.write = b.bufferWrite ∧ b.bufferCreate.isSome

/-- Both allocators report what they did, and where the platform answers alike they report alike. -/
structure StatusContract (a : AllocateAnswers H) (b : V3AllocateAnswers P M D) (v : SecWorld H T)
    (w : V3World P M D T) (ppInBuf ppOutBuf : Option Nat) (pInData : List UInt8) (nDataLen : Nat) : Prop where
  v2 : Reports (some (svpAllocateSecureBuffersV2SecapiImpl a v ppInBuf ppOutBuf (some pInData) nDataLen).1)
    (a.AllDone ppInBuf ppOutBuf)
  v3 : Reports ((svpAllocateSecureBuffersV3ImplDefault b w (ppInBuf.map .caller) (ppOutBuf.map .caller)
    (some pInData) nDataLen).map Prod.fst) (b.AllDone ppInBuf ppOutBuf)
  same : SameOutcomes a b →
    some (svpAllocateSecureBuffersV2SecapiImpl a v ppInBuf ppOutBuf (some pInData) nDataLen).1 =
      (svpAllocateSecureBuffersV3ImplDefault b w (ppInBuf.map .caller) (ppOutBuf.map .caller)
        (some pInData) nDataLen).map Prod.fst

omit [DecidableEq P] [DecidableEq M] in
theorem SameOutcomes.allDone {a : AllocateAnswers H} {b : V3AllocateAnswers P M D} (h : SameOutcomes a b)
    (ppInBuf ppOutBuf : Option Nat) : a.AllDone ppInBuf ppOutBuf ↔ b.AllDone ppInBuf ppOutBuf := by
  obtain ⟨ho, hi, hw, hc⟩ := h
  simp only [AllocateAnswers.AllDone, V3AllocateAnswers.AllDone, ho, hi, hw, hc, true_and]

/-- **The status contract.** The two allocators keep it exactly where every requested step of the v2
allocator succeeds and no `malloc` that the v3 allocator reaches answers `NULL`. -/
theorem secapi_status (a : AllocateAnswers H) (b : V3AllocateAnswers P M D) (v : SecWorld H T)
    (w : V3World P M D T) (ppInBuf ppOutBuf : Option Nat) (pInData : List UInt8) (nDataLen : Nat)
    (hslots : ∀ s ∈ ppInBuf, ppOutBuf ≠ some s) (hdata : nDataLen ≤ pInData.length)
    (hapart : ppInBuf.isSome → ppOutBuf.isSome → ∀ p, b.out.malloc = some p → b.inp.malloc ≠ some p) :
    StatusContract a b v w ppInBuf ppOutBuf pInData nDataLen ↔
      a.AllDone ppInBuf ppOutBuf ∧ ¬ b.MallocNull ppInBuf ppOutBuf := by
  have hall : b.AllDone (ppInBuf.map Slot.caller) (ppOutBuf.map Slot.caller) ↔ b.AllDone ppInBuf ppOutBuf := by
    simp only [V3AllocateAnswers.AllDone, Option.isSome_map]
  have hnull : b.MallocNull (ppInBuf.map Slot.caller) (ppOutBuf.map Slot.caller) ↔
      b.MallocNull ppInBuf ppOutBuf := by
    simp only [V3AllocateAnswers.MallocNull, Option.isSome_map]
  constructor
  · intro h
    constructor
    · obtain ⟨r, hr, hiff⟩ := h.v2
      have h1 : r = 1 := (Option.some.inj hr).symm
      exact hiff.1 (by rw [h1]; decide)
    · intro hn
      obtain ⟨r, hr, -⟩ := h.v3
      rw [allocateV3_null (hnull.2 hn)] at hr
      exact absurd hr (by simp)
  · rintro ⟨hdone, hn⟩
    have hslots' : ∀ s ∈ ppInBuf.map Slot.caller, ppOutBuf.map Slot.caller ≠ some s := by
      intro s hs ho
      obtain ⟨i, hi, rfl⟩ := Option.map_eq_some_iff.1 hs
      obtain ⟨j, hj, he⟩ := Option.map_eq_some_iff.1 ho
      exact hslots i hi (by rw [hj, Slot.caller.inj he])
    obtain ⟨w', h3⟩ := allocateV3_status b w (fun h => hn (hnull.1 h)) (by simpa using hapart) hslots' hdata
    refine ⟨⟨1, rfl, by simpa using hdone⟩, ⟨_, by rw [h3]; rfl, ?_⟩, ?_⟩
    · rw [← hall]
      split
      · rename_i hd; simp [hd]
      · rename_i hd; simp [hd]
    · intro hs
      have hd := hall.2 ((hs.allDone ppInBuf ppOutBuf).1 hdone)
      rw [h3]
      simp [hd, svpAllocateSecureBuffersV2SecapiImpl]

end

/-- Both buffers, every step succeeding. -/
theorem secapi_status_all_done :
    StatusContract (T := Unit) ⟨some 1, some 2, true⟩
      ⟨⟨some 1, some 11, fun _ => 0⟩, ⟨some 2, some 12, fun _ => 0⟩, some (), true, fun _ => true⟩
      ⟨fun _ => none, []⟩ ⟨fun _ => none, fun _ => none, fun _ => none, []⟩ (some 0) (some 1) [7] 1 :=
  (secapi_status _ _ _ _ _ _ _ _ (by simp) (by simp) (by simp)).2
    ⟨by decide, by simp [V3AllocateAnswers.MallocNull]⟩

/-- Only an output is asked for and its allocation fails: v2 returns 1, v3 returns 0. -/
theorem secapi_v2_status_not_reported :
    ¬ ∀ (a : AllocateAnswers Nat) (b : V3AllocateAnswers Nat Nat Unit) (v : SecWorld Nat Unit)
        (w : V3World Nat Nat Unit Unit) (ppInBuf ppOutBuf : Option Nat) (pInData : List UInt8) (nDataLen : Nat),
      (∀ s ∈ ppInBuf, ppOutBuf ≠ some s) → nDataLen ≤ pInData.length →
      (ppInBuf.isSome → ppOutBuf.isSome → ∀ p, b.out.malloc = some p → b.inp.malloc ≠ some p) →
        StatusContract a b v w ppInBuf ppOutBuf pInData nDataLen := by
  intro h
  obtain ⟨r, hr, hiff⟩ := (h ⟨none, none, false⟩
    ⟨⟨some 1, none, fun _ => 0⟩, ⟨none, none, fun _ => 0⟩, none, false, fun _ => true⟩
    ⟨fun _ => none, []⟩ ⟨fun _ => none, fun _ => none, fun _ => none, []⟩ none (some 1) [7] 1
    (by simp) (by simp) (by simp)).v2
  have h1 : r = 1 := (Option.some.inj hr).symm
  have hdone := hiff.1 (by rw [h1]; decide)
  revert hdone
  decide

end GstSvpExt
