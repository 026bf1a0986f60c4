import GstSvpExt.Runs
import GstSvpExt.SecapiV3Alloc

/-!
# The SecAPI v3 allocator and its disposal (`gst_svp_secure_buffers_secapi.cpp:160-285`)

`svp_allocate_secure_buffers_v3_impl_default` either leaves every requested out parameter with its
own fresh handle, or leaves the heap as it was (`allocate_exit`). What it does not keep is its out
parameters: `allocate_v3_memory` leaves `*outBuffer` alone when it fails, so a variable that still
holds the address of a struct given back earlier can point to the struct that this call obtained at the
same address and freed (`svp_allocate_v3_all_or_nothing`). What it hands out is disposed of in two ways,
plain `free` for the output and `free_v3_memory` for the input; one disposal frees exactly the structs
it is given (`V3Disposal.frees`), whichever way each goes.
-/

namespace GstSvpExt

open Ledger

variable {P M D T : Type}

/-! ## What the caller sees -/

/-- The out parameters that are not `NULL`. -/
def outParams (ppInBuf ppOutBuf : Option Slot) : List Slot := ppInBuf.toList ++ ppOutBuf.toList

/-- The output is allocated or not asked for, and the input is asked for. -/
def V3AllocateAnswers.ReachesIn (a : V3AllocateAnswers P M D) (ppInBuf ppOutBuf : Option Slot) : Prop :=
  (ppOutBuf.isSome → a.out.memoryAlloc.isSome) ∧ ppInBuf.isSome

instance (a : V3AllocateAnswers P M D) (ppInBuf ppOutBuf : Option Slot) : Decidable (a.ReachesIn ppInBuf ppOutBuf) :=
  inferInstanceAs (Decidable (_ ∧ _))

/-- The structs that `malloc` answers with for the output. -/
def V3AllocateAnswers.outStructs (a : V3AllocateAnswers P M D) (ppOutBuf : Option Slot) : List P :=
  if ppOutBuf.isSome then a.out.malloc.toList else []

/-- The structs that `malloc` answers with in the whole call. -/
def V3AllocateAnswers.structs (a : V3AllocateAnswers P M D) (ppInBuf ppOutBuf : Option Slot) : List P :=
  a.outStructs ppOutBuf ++ if a.ReachesIn ppInBuf ppOutBuf then a.inp.malloc.toList else []

/-- `malloc` answers with a struct that is not live, `sa_svp_memory_alloc` with a memory that is not
live, or with a failure. -/
structure FreshAnswers (a : V3MemoryAnswers P M) (w : V3World P M D T) : Prop where
  malloc : ∃ p, a.malloc = some p ∧ w.structs p = none
  memoryAlloc : ∀ m, a.memoryAlloc = some m → w.memory m = none

/-- The answers to the allocations that are made are fresh, and each its own. -/
structure V3Fresh (a : V3AllocateAnswers P M D) (w : V3World P M D T) (ppInBuf ppOutBuf : Option Slot) :
    Prop where
  out : ppOutBuf.isSome → FreshAnswers a.out w
  inp : a.ReachesIn ppInBuf ppOutBuf → FreshAnswers a.inp w
  apart : a.ReachesIn ppInBuf ppOutBuf → ppOutBuf.isSome → a.inp.malloc ≠ a.out.malloc ∧
    ∀ m, a.inp.memoryAlloc = some m → a.out.memoryAlloc ≠ some m

/-- The handle `h` is live in `w'`, was not live in `w`, and its variable points to it. -/
structure FreshHandle (w w' : V3World P M D T) (n : Nat) (h : Held P M) : Prop where
  slot : w'.slots h.slot = some h.p
  struct : w.structs h.p = none ∧ w'.structs h.p = some ⟨n, some h.m⟩
  memory : w.memory h.m = none ∧ w'.memory h.m = some h.bytes ∧ h.bytes.length = n

/-- Each requested out parameter has its own fresh handle of size `n`, the input one with the data;
what was live before is as it was. -/
structure V3Allocated (w w' : V3World P M D T) (ppInBuf ppOutBuf : Option Slot)
    (pInData : Option (List UInt8)) (n : Nat) (ki ko : Option (Held P M)) : Prop where
  inBuf : ki.map Held.slot = ppInBuf
  outBuf : ko.map Held.slot = ppOutBuf
  fresh : ∀ h ∈ ki.toList ++ ko.toList, FreshHandle w w' n h
  own : (ki.toList ++ ko.toList).Pairwise fun h k => h.p ≠ k.p ∧ h.m ≠ k.m
  data : ∀ h ∈ ki, ∀ data ∈ pInData, h.bytes = data.take n
  structs : ∀ q, (∀ h ∈ ki.toList ++ ko.toList, h.p ≠ q) → w'.structs q = w.structs q
  memory : ∀ m, (∀ h ∈ ki.toList ++ ko.toList, h.m ≠ m) → w'.memory m = w.memory m

/-- The heap is as before; what the calls `new` obtained they freed, each once, and no out parameter
points to a struct they freed. -/
structure V3RolledBack (w w' : V3World P M D T) (new : List (V3Call P M D T))
    (ppInBuf ppOutBuf : Option Slot) : Prop where
  structs : w'.structs = w.structs
  memory : w'.memory = w.memory
  structsOnce : (acquired (structActs new)).Nodup ∧ (acquired (structActs new)).Perm (released (structActs new))
  memoryOnce : (acquired (memoryActs new)).Nodup ∧ (acquired (memoryActs new)).Perm (released (memoryActs new))
  params : ∀ s ∈ outParams ppInBuf ppOutBuf, ∀ p ∈ released (structActs new), w'.slots s ≠ some p

section
variable [DecidableEq P] [DecidableEq M]

/-! ## The exits of the allocator -/

/-- The output stage: it holds the buffer that was asked for, or nothing if it failed, and it obtained
only what the platform answered. -/
structure OutStage (a : V3AllocateAnswers P M D) (w w' : V3World P M D T) (ppOutBuf : Option Slot) (n : Nat)
    (ok : Bool) (new : List (V3Call P M D T)) (ko : Option (Held P M)) (gotM : List M) : Prop where
  run : allocateOutBufV3 a w ppOutBuf n = some (ok, w')
  ok_iff : ok = true ↔ (ppOutBuf.isSome → a.out.memoryAlloc.isSome)
  holding : Holding w w' new n ko.toList (a.outStructs ppOutBuf) gotM
  stored : if ok then ko.map Held.slot = ppOutBuf else ko = none
  nodupM : gotM.Nodup
  gotM : ∀ m ∈ gotM, ppOutBuf.isSome ∧ a.out.memoryAlloc = some m

/-- An exit of the whole allocator: it holds all that was asked for, or nothing. -/
structure V3Exit (a : V3AllocateAnswers P M D) (w w' : V3World P M D T) (ppInBuf ppOutBuf : Option Slot)
    (pInData : Option (List UInt8)) (n : Nat) (ret : UInt32) (new : List (V3Call P M D T)) (gotM : List M) :
    Prop where
  run : svpAllocateSecureBuffersV3ImplDefault a w ppInBuf ppOutBuf pInData n = some (ret, w')
  nodupM : gotM.Nodup
  held : (ret = 1 ∧ ∃ ki ko : Option (Held P M), ki.map Held.slot = ppInBuf ∧ ko.map Held.slot = ppOutBuf ∧
      (∀ h ∈ ki, ∀ data ∈ pInData, h.bytes = data.take n) ∧
      Holding w w' new n (ki.toList ++ ko.toList) (a.structs ppInBuf ppOutBuf) gotM) ∨
    (ret = 0 ∧ Holding w w' new n [] (a.structs ppInBuf ppOutBuf) gotM)

section
variable {a : V3AllocateAnswers P M D} {w w1 : V3World P M D T} {ppInBuf ppOutBuf : Option Slot} {n : Nat}
  {ok : Bool} {new : List (V3Call P M D T)} {ko : Option (Held P M)} {gotM : List M}

omit [DecidableEq P] [DecidableEq M] in
/-- Where the input is not reached, only the output's struct is obtained. -/
theorem structs_of_not_reached (h : ¬ a.ReachesIn ppInBuf ppOutBuf) :
    a.structs ppInBuf ppOutBuf = a.outStructs ppOutBuf := by
  rw [V3AllocateAnswers.structs, if_neg h, List.append_nil]

omit [DecidableEq P] [DecidableEq M] in
theorem structs_of_reached (h : a.ReachesIn ppInBuf ppOutBuf) {p : P} (hp : a.inp.malloc = some p) :
    a.structs ppInBuf ppOutBuf = a.outStructs ppOutBuf ++ [p] := by
  rw [V3AllocateAnswers.structs, if_pos h, hp, Option.toList_some]

omit [DecidableEq P] [DecidableEq M] in
theorem mem_outStructs {p : P} : p ∈ a.outStructs ppOutBuf ↔ ppOutBuf.isSome ∧ a.out.malloc = some p := by
  unfold V3AllocateAnswers.outStructs
  split
  · rename_i h
    simp [h]
  · rename_i h
    simp [h]

omit [DecidableEq P] [DecidableEq M] in
/-- The input's struct is not the output's. -/
theorem V3Fresh.malloc_notMem (hf : V3Fresh a w ppInBuf ppOutBuf) (hin : a.ReachesIn ppInBuf ppOutBuf) {p : P}
    (hp : a.inp.malloc = some p) : p ∉ a.outStructs ppOutBuf := by
  intro hmem
  obtain ⟨hsome, hmp⟩ := mem_outStructs.1 hmem
  exact (hf.apart hin hsome).1 (hp.trans hmp.symm)

omit [DecidableEq P] [DecidableEq M] in
/-- The structs of one call are different, and none of them was live. -/
theorem V3Fresh.structs (hf : V3Fresh a w ppInBuf ppOutBuf) :
    (a.structs ppInBuf ppOutBuf).Nodup ∧ ∀ p ∈ a.structs ppInBuf ppOutBuf, w.structs p = none := by
  have hnd : (a.outStructs ppOutBuf).Nodup := by
    unfold V3AllocateAnswers.outStructs
    split
    · cases a.out.malloc <;> simp
    · exact List.nodup_nil
  have hout : ∀ p ∈ a.outStructs ppOutBuf, w.structs p = none := by
    intro p hp
    obtain ⟨hsome, hmp⟩ := mem_outStructs.1 hp
    obtain ⟨q, hq, hwq⟩ := (hf.out hsome).malloc
    rw [hmp, Option.some.injEq] at hq
    rw [hq, hwq]
  by_cases hin : a.ReachesIn ppInBuf ppOutBuf
  · obtain ⟨p, hp, hwp⟩ := (hf.inp hin).malloc
    rw [structs_of_reached hin hp]
    refine ⟨nodup_snoc (hf.malloc_notMem hin hp) hnd, ?_⟩
    intro q hq
    rcases List.mem_append.1 hq with hq | hq
    · exact hout q hq
    · rw [List.mem_singleton.1 hq, hwp]
  · rw [structs_of_not_reached hin]
    exact ⟨hnd, hout⟩

/-- The input's memory is none that the output stage obtained. -/
theorem OutStage.memoryAlloc_notMem (h : OutStage a w w1 ppOutBuf n ok new ko gotM)
    (hf : V3Fresh a w ppInBuf ppOutBuf) (hin : a.ReachesIn ppInBuf ppOutBuf) {m : M}
    (hm : a.inp.memoryAlloc = some m) : m ∉ gotM := by
  intro hmem
  obtain ⟨hsome, hmm⟩ := h.gotM m hmem
  exact (hf.apart hin hsome).2 m hm hmm

/-- The output allocation, skipped when there is no output parameter. -/
theorem allocate_out (hf : V3Fresh a w ppInBuf ppOutBuf) (n : Nat) :
    ∃ w' ok new ko gotM, OutStage a w w' ppOutBuf n ok new ko gotM := by
  cases ppOutBuf with
  | none =>
    refine ⟨w, true, [], none, [], ?_⟩
    constructor
    case run => rfl
    case holding => exact Holding.start w n
    case stored => rfl
    all_goals simp
  | some slot =>
    obtain ⟨p, hp, hwp⟩ := (hf.out rfl).malloc
    have hgot : a.outStructs (some slot) = [p] := by
      rw [V3AllocateAnswers.outStructs, if_pos Option.isSome_some, hp, Option.toList_some]
    cases hm : a.out.memoryAlloc with
    | none =>
      obtain ⟨w', new, he, hh⟩ := (Holding.start w n).allocate_fails slot hp hm hwp (by simp)
      refine ⟨w', false, new, none, [], ?_⟩
      constructor
      case run => exact he
      case holding => exact hgot ▸ hh
      case stored => rfl
      all_goals simp [hm]
    | some m =>
      obtain ⟨w', new, bytes, he, hh⟩ := (Holding.start w n).allocate slot hp hm (by simp) hwp
        (by simp) ((hf.out rfl).memoryAlloc m hm) (by simp)
      refine ⟨w', true, new, some ⟨slot, p, m, bytes⟩, [m], ?_⟩
      constructor
      case run => exact he
      case holding => exact hgot ▸ hh
      case stored => rfl
      all_goals simp [hm]

/-- The input stage, after an output that is held or was not asked for. -/
theorem OutStage.input (h : OutStage a w w1 ppOutBuf n true new ko gotM) {slot : Slot}
    {pInData : Option (List UInt8)} (hf : V3Fresh a w (some slot) ppOutBuf)
    (hfree : ∀ m, a.memoryFree m = true) (hslot : ppOutBuf ≠ some slot)
    (hdata : ∀ data ∈ pInData, n ≤ data.length) :
    ∃ w' ret new' gotM', V3Exit a w w' (some slot) ppOutBuf pInData n ret new' gotM' := by
  have hko : ko.map Held.slot = ppOutBuf := h.stored
  have hrun := h.run
  have hin : a.ReachesIn (some slot) ppOutBuf := ⟨h.ok_iff.1 rfl, rfl⟩
  obtain ⟨p, hp, hwp⟩ := (hf.inp hin).malloc
  have hpg := hf.malloc_notMem hin hp
  have hgot := structs_of_reached hin hp
  cases hm : a.inp.memoryAlloc with
  | none =>
    -- the output is given up again
    obtain ⟨w2, new2, he2, hh2⟩ := h.holding.allocate_fails slot hp hm hwp hpg
    have hh2' : Holding w w2 new2 n (ko.toList ++ []) (a.outStructs ppOutBuf ++ [p]) gotM := by simpa using hh2
    obtain ⟨w3, new3, he3, hh3⟩ := hh2'.freeOpt hfree
    rw [hko] at he3
    refine ⟨w3, 0, new3, gotM, ?_, h.nodupM, Or.inr ⟨rfl, hgot ▸ hh3⟩⟩
    simp [svpAllocateSecureBuffersV3ImplDefault, allocateInBufV3, hrun, he2, he3]
  | some m =>
    have hmg : m ∉ gotM := h.memoryAlloc_notMem hf hin hm
    have hnM : (gotM ++ [m]).Nodup := nodup_snoc hmg h.nodupM
    have hslots : ∀ k ∈ ko.toList, k.slot ≠ slot := by
      intro k hk e
      rw [Option.mem_toList] at hk
      refine hslot ?_
      rw [← hko, Option.mem_def.1 hk, Option.map_some, e]
    obtain ⟨w2, new2, bytes, he2, hh2⟩ := h.holding.allocate slot hp hm hslots hwp hpg
      ((hf.inp hin).memoryAlloc m hm) hmg
    cases pInData with
    | none =>
      refine ⟨w2, 1, new2, gotM ++ [m], ?_, hnM,
        Or.inl ⟨rfl, some ⟨slot, p, m, bytes⟩, ko, rfl, hko, by simp, hgot ▸ hh2⟩⟩
      simp [svpAllocateSecureBuffersV3ImplDefault, allocateInBufV3, hrun, he2]
    | some data =>
      obtain ⟨ret, w3, new3, he3, hh3⟩ := hh2.fill hfree (hdata data rfl)
      rw [hko] at he3
      rw [← hgot] at hh3
      refine ⟨w3, ret, new3, gotM ++ [m], ?_, hnM, ?_⟩
      · simp [svpAllocateSecureBuffersV3ImplDefault, allocateInBufV3, hrun, he2, he3]
      · rcases hh3 with ⟨hr, hh3⟩ | ⟨hr, hh3⟩
        · exact Or.inl ⟨hr, some ⟨slot, p, m, data.take n⟩, ko, rfl, hko, by simp, hh3⟩
        · exact Or.inr ⟨hr, hh3⟩

/-- Every run of the allocator on fresh answers is one of its exits. -/
theorem allocate_exit {pInData : Option (List UInt8)} (hf : V3Fresh a w ppInBuf ppOutBuf)
    (hfree : ∀ m, a.memoryFree m = true) (hslots : ∀ s ∈ ppInBuf, ppOutBuf ≠ some s)
    (hdata : ∀ data ∈ pInData, n ≤ data.length) :
    ∃ w' ret new gotM, V3Exit a w w' ppInBuf ppOutBuf pInData n ret new gotM := by
  obtain ⟨w1, ok, new, ko, gotM, h⟩ := allocate_out hf n
  cases ok with
  | false =>
    obtain rfl : ko = none := h.stored
    have hin : ¬ a.ReachesIn ppInBuf ppOutBuf := fun hin => Bool.false_ne_true (h.ok_iff.2 hin.1)
    refine ⟨w1, 0, new, gotM, ?_, h.nodupM, Or.inr ⟨rfl, structs_of_not_reached hin ▸ h.holding⟩⟩
    simp [svpAllocateSecureBuffersV3ImplDefault, h.run]
  | true =>
    cases ppInBuf with
    | none =>
      have hin : ¬ a.ReachesIn none ppOutBuf := fun hin => Bool.false_ne_true hin.2
      refine ⟨w1, 1, new, gotM, ?_, h.nodupM,
        Or.inl ⟨rfl, none, ko, rfl, h.stored, by simp, structs_of_not_reached hin ▸ h.holding⟩⟩
      simp [svpAllocateSecureBuffersV3ImplDefault, allocateInBufV3, h.run]
    | some slot => exact h.input hf hfree (hslots slot rfl) hdata

end

/-! ## What a failing call leaves in the out parameters -/

section
variable {w w' : V3World P M D T} {n : Nat}

/-- `allocate_v3_memory` stores the struct only where it succeeds. -/
theorem allocateV3Memory_slots {a : V3MemoryAnswers P M} {slot : Slot} {ok : Bool}
    (h : allocateV3Memory a w (some slot) n = some (ok, w')) :
    ok = a.memoryAlloc.isSome ∧ ∀ s, w'.slots s = if ok = true ∧ slot = s then a.malloc else w.slots s := by
  obtain ⟨p, hp, ⟨hm, rfl, rfl⟩ | ⟨m, hm, rfl, rfl⟩⟩ := allocateV3Memory_cases h
  · exact ⟨by rw [hm]; rfl, fun s => rfl⟩
  · refine ⟨by rw [hm]; rfl, ?_⟩
    intro s
    simp only [true_and, Function.update_apply, hp, eq_comm]

/-- `free_v3_memory` leaves `NULL` in the variable. -/
theorem freeV3Memory_slots {memoryFree : M → Bool} {buffer : Option Slot}
    (h : freeV3Memory memoryFree w buffer = some w') (s : Slot) :
    w'.slots s = if buffer = some s then none else w.slots s := by
  obtain ⟨hnull, rfl⟩ | ⟨slot, p, m, rfl, -, rfl⟩ := freeV3Memory_cases h
  · split
    · rename_i hs
      rwa [hs] at hnull
    · rfl
  · simp only [Function.update_apply, Option.some.injEq, eq_comm]

/-- A copy of the input data that fails leaves `NULL` in both. -/
theorem fillInBufV3_slots {a : V3AllocateAnswers P M D} {ppInBuf ppOutBuf : Option Slot} {data : List UInt8}
    (h : fillInBufV3 a w ppInBuf ppOutBuf data n = some (0, w')) :
    ∀ s ∈ outParams ppInBuf ppOutBuf, w'.slots s = none := by
  have hboth : ∀ {w1 : V3World P M D T}, (do
      let w2 ← freeV3Memory a.memoryFree w1 ppOutBuf
      let w3 ← freeV3Memory a.memoryFree w2 ppInBuf
      some ((0 : UInt32), w3)) = some (0, w') → ∀ s ∈ outParams ppInBuf ppOutBuf, w'.slots s = none := by
    intro w1 h s hs
    simp only [Option.bind_eq_bind, Option.bind_eq_some_iff] at h
    obtain ⟨w2, h2, w3, h3, h⟩ := h
    obtain ⟨-, rfl⟩ : (0 : UInt32) = 0 ∧ w3 = w' := Prod.mk.inj (Option.some.inj h)
    rw [freeV3Memory_slots h3, freeV3Memory_slots h2]
    simp only [outParams, List.mem_append, Option.mem_toList] at hs
    rcases hs with hs | hs
    · rw [if_pos hs]
    · rw [if_pos hs, ite_self]
  unfold fillInBufV3 at h
  simp only [Option.bind_eq_bind, Option.bind_eq_some_iff] at h
  obtain ⟨p, -, buf, -, m, -, h⟩ := h
  cases hd : a.bufferCreate with
  | none =>
    rw [hd] at h
    exact hboth h
  | some d =>
    rw [hd] at h
    simp only [Option.bind_eq_some_iff] at h
    obtain ⟨bytes, -, h⟩ := h
    split at h
    · simp only [Option.bind_eq_some_iff] at h
      obtain ⟨contents, -, contents', -, h⟩ := h
      cases (Prod.mk.inj (Option.some.inj h)).1
    · exact hboth h

/-- **The out parameters after a call.** A failing `sa_svp_memory_alloc` leaves the variable of its buffer as
it found it, that of the input also for the output; all other failures leave `NULL`. -/
theorem allocate_slots {a : V3AllocateAnswers P M D} {ppInBuf ppOutBuf : Option Slot}
    {pInData : Option (List UInt8)} {ret : UInt32} (hslots : ∀ s ∈ ppInBuf, ppOutBuf ≠ some s)
    (h : svpAllocateSecureBuffersV3ImplDefault a w ppInBuf ppOutBuf pInData n = some (ret, w')) :
    (ret = 0 ∧ ppOutBuf.isSome ∧ a.out.memoryAlloc = none ∧ w'.slots = w.slots) ∨
      (ret = 0 ∧ a.ReachesIn ppInBuf ppOutBuf ∧ a.inp.memoryAlloc = none ∧
        (∀ s ∈ ppInBuf, w'.slots s = w.slots s) ∧ ∀ s ∈ ppOutBuf, w'.slots s = none) ∨
      ((ppOutBuf.isSome → a.out.memoryAlloc.isSome) ∧ (ppInBuf.isSome → a.inp.memoryAlloc.isSome) ∧
        (ret = 0 → ∀ s ∈ outParams ppInBuf ppOutBuf, w'.slots s = none)) := by
  simp only [svpAllocateSecureBuffersV3ImplDefault, Option.bind_eq_bind, Option.bind_eq_some_iff] at h
  obtain ⟨⟨ok, w1⟩, h1, h⟩ := h
  have hout : (ok = true ↔ (ppOutBuf.isSome → a.out.memoryAlloc.isSome)) ∧
      ∀ s, (ok = true → ppOutBuf ≠ some s) → w1.slots s = w.slots s := by
    cases ppOutBuf with
    | none =>
      obtain ⟨rfl, rfl⟩ : true = ok ∧ w = w1 := Prod.mk.inj (Option.some.inj h1)
      exact ⟨by simp, fun _ _ => rfl⟩
    | some so =>
      obtain ⟨hok, hw1⟩ := allocateV3Memory_slots h1
      refine ⟨by simp [hok], ?_⟩
      intro s hs
      rw [hw1 s, if_neg]
      rintro ⟨ht, rfl⟩
      exact hs ht rfl
  cases ok with
  | false =>
    obtain ⟨rfl, rfl⟩ : 0 = ret ∧ w1 = w' := Prod.mk.inj (Option.some.inj h)
    have hfailed : ppOutBuf.isSome ∧ a.out.memoryAlloc = none := by simpa using hout.1
    exact Or.inl ⟨rfl, hfailed.1, hfailed.2, funext fun s => hout.2 s fun ht => absurd ht Bool.false_ne_true⟩
  | true =>
    have hreached := hout.1.1 rfl
    change allocateInBufV3 a w1 ppInBuf ppOutBuf pInData n = some (ret, w') at h
    cases ppInBuf with
    | none =>
      obtain ⟨rfl, -⟩ : 1 = ret ∧ w1 = w' := Prod.mk.inj (Option.some.inj h)
      exact Or.inr (Or.inr ⟨hreached, fun h => absurd h Bool.false_ne_true, fun h => absurd h (by decide)⟩)
    | some si =>
      simp only [allocateInBufV3, Option.bind_eq_bind, Option.bind_eq_some_iff] at h
      obtain ⟨⟨inOk, w2⟩, h2, h⟩ := h
      obtain ⟨hok, hw2⟩ := allocateV3Memory_slots h2
      cases inOk with
      | false =>
        have hnone : a.inp.memoryAlloc = none := by simpa using hok.symm
        rw [if_pos rfl] at h
        obtain ⟨w3, h3, h⟩ := Option.bind_eq_some_iff.1 h
        obtain ⟨rfl, rfl⟩ : 0 = ret ∧ w3 = w' := Prod.mk.inj (Option.some.inj h)
        refine Or.inr (Or.inl ⟨rfl, ⟨hreached, rfl⟩, hnone, ?_, ?_⟩)
        · rintro s hs
          rw [freeV3Memory_slots h3, if_neg (hslots s hs), hw2 s, if_neg (by simp), hout.2 s fun _ => hslots s hs]
        · intro s hs
          rw [freeV3Memory_slots h3, if_pos (Option.mem_def.1 hs)]
      | true =>
        refine Or.inr (Or.inr ⟨hreached, fun _ => hok.symm, ?_⟩)
        rintro rfl
        cases pInData with
        | none => cases (Prod.mk.inj (Option.some.inj h)).1
        | some data =>
          change fillInBufV3 a w2 (some si) ppOutBuf data n = some (0, w') at h
          exact fillInBufV3_slots h

end

variable {w w' : V3World P M D T} {new : List (V3Call P M D T)} {n : Nat} {gotP : List P} {gotM : List M}

/-- Holding all that was asked for is what the caller sees on success. -/
theorem Holding.allocated {ki ko : Option (Held P M)} (h : Holding w w' new n (ki.toList ++ ko.toList) gotP gotM)
    {pInData : Option (List UInt8)} (hdata : ∀ h ∈ ki, ∀ data ∈ pInData, h.bytes = data.take n) :
    V3Allocated w w' (ki.map Held.slot) (ko.map Held.slot) pInData n ki ko where
  inBuf := rfl
  outBuf := rfl
  fresh := fun k hk =>
    ⟨h.slots k hk, (h.structs k hk).symm, (h.memory k hk).2.2, (h.memory k hk).1, (h.memory k hk).2.1⟩
  own := h.distinct.imp fun hd => hd.2
  data := hdata
  structs := h.structsElse
  memory := h.memoryElse

/-- Holding nothing is the state before the call, and what the calls freed is what they obtained. -/
theorem Holding.nothing (h : Holding w w' new n [] gotP gotM) (hnP : gotP.Nodup) (hnM : gotM.Nodup) :
    w'.structs = w.structs ∧ w'.memory = w.memory ∧
      ((acquired (structActs new)).Nodup ∧ (acquired (structActs new)).Perm (released (structActs new))) ∧
      ((acquired (memoryActs new)).Nodup ∧ (acquired (memoryActs new)).Perm (released (memoryActs new))) ∧
      ∀ p, p ∈ released (structActs new) ↔ p ∈ gotP := by
  obtain ⟨liveP, hlP, heP⟩ := h.ledgerP
  obtain ⟨liveM, hlM, heM⟩ := h.ledgerM
  have hP := follow_empty (heP.eq_nil ▸ hlP)
  have hM := follow_empty (heM.eq_nil ▸ hlM)
  refine ⟨funext fun q => h.structsElse q (by simp), funext fun m => h.memoryElse m (by simp),
    ⟨h.gotP ▸ hnP, hP⟩, ⟨h.gotM ▸ hnM, hM⟩, ?_⟩
  intro p
  rw [← hP.mem_iff, h.gotP]

/-! ## Disposal -/

/-- A handle struct that is live and has its memory. -/
def V3World.Live (w : V3World P M D T) (p : P) : Prop := ∃ n m, w.structs p = some ⟨n, some m⟩

/-- A call that gives handles back: the release function with its two pointers, or `free_v3_memory`
on a variable. -/
inductive V3Disposal (P M T : Type)
  | release (a : TokenAnswers T) (memoryFree : M → Bool) (tokenSize : Nat) (pInBuf pOutBuf : Option P)
      (pDataOut : Option Nat) (nDataOutMax : Nat)
  | free (memoryFree : M → Bool) (slot : Slot)

/-- The structs that the call is given. -/
def V3Disposal.given (w : V3World P M D T) : V3Disposal P M T → List P
  | .release _ _ _ pInBuf pOutBuf _ _ => pOutBuf.toList ++ pInBuf.toList
  | .free _ slot => (w.slots slot).toList

/-- The copy of a release has something to copy from. -/
def V3Disposal.CopyDefined : V3Disposal P M T → Prop
  | .release a _ tokenSize _ _ pDataOut _ => GstSvpExt.CopyDefined a tokenSize pDataOut
  | .free .. => True

/-- And somewhere to copy to. -/
def V3Disposal.CopyFits : V3Disposal P M T → Prop
  | .release a _ tokenSize _ _ pDataOut nDataOutMax => GstSvpExt.CopyFits a tokenSize pDataOut nDataOutMax
  | .free .. => True

omit [DecidableEq P] [DecidableEq M] in
theorem V3Disposal.CopyFits.defined {d : V3Disposal P M T} (h : d.CopyFits) : d.CopyDefined := by
  cases d with
  | release => exact h.1
  | free => trivial

def V3Disposal.call (w : V3World P M D T) : V3Disposal P M T → Option (V3World P M D T)
  | .release a memoryFree tokenSize pInBuf pOutBuf pDataOut nDataOutMax =>
    (svpReleaseSecureBuffersV3ImplDefault a memoryFree tokenSize w pInBuf pOutBuf pDataOut nDataOutMax).map
      Prod.snd
  | .free memoryFree slot => freeV3Memory memoryFree w (some slot)

/-- `free_v3_memory` on a variable that is `NULL` or points to a live handle. -/
theorem freeV3Memory_frees (memoryFree : M → Bool) (slot : Slot) (hl : ∀ p ∈ w.slots slot, w.Live p) :
    ∃ w' new, freeV3Memory memoryFree w (some slot) = some w' ∧ w'.calls = w.calls ++ new ∧
      released (structActs new) = (w.slots slot).toList ∧
      (∀ q ∉ w.slots slot, w'.structs q = w.structs q) ∧ ∀ s ≠ slot, w'.slots s = w.slots s := by
  cases hs : w.slots slot with
  | none => exact ⟨w, [], by simp [freeV3Memory, hs], by simp, rfl, fun _ _ => rfl, fun _ _ => rfl⟩
  | some p =>
    obtain ⟨n, m, hp⟩ := hl p hs
    refine ⟨_, _, freeV3Memory_done hs hp, rfl, by simp [structActs], ?_, ?_⟩
    · intro q hq
      exact Function.update_of_ne (fun e => hq (by rw [e]; rfl)) _ _
    · intro s hne
      exact Function.update_of_ne hne _ _

omit [DecidableEq P] [DecidableEq M] in
theorem structActs_releaseOut (a : TokenAnswers T) (tokenSize : Nat) (pOutBuf : Option P) (pDataOut : Option Nat) :
    structActs (releaseOutCalls a tokenSize pOutBuf pDataOut : List (V3Call P M D T)) =
      pOutBuf.toList.map .release := by
  cases pOutBuf <;> cases pDataOut <;> rfl

omit [DecidableEq M] in
/-- The output's part of a release frees the output, and puts the input where its turn comes. -/
theorem releaseOut_frees {a : TokenAnswers T} {tokenSize : Nat} {pInBuf pOutBuf : Option P} {pDataOut : Option Nat}
    (h : releaseOutBufV3 a tokenSize w pInBuf pOutBuf pDataOut = some w') :
    ∃ new, w'.calls = w.calls ++ new ∧ released (structActs new) = pOutBuf.toList ∧
      (∀ q ∉ pOutBuf, w'.structs q = w.structs q) ∧ w'.slots .pInBuf = pInBuf := by
  obtain ⟨-, rfl⟩ := releaseOutBufV3_eq_some.1 h
  refine ⟨_, rfl, ?_, ?_, by simp⟩
  · rw [structActs_releaseOut]
    cases pOutBuf <;> rfl
  · intro q hq
    cases pOutBuf with
    | none => rfl
    | some p => exact Function.update_of_ne (fun e => hq (by rw [e]; rfl)) _ _

/-- The release function on two different live handles, either of them possibly `NULL`: the output
goes to `free`, the input to `free_v3_memory`. -/
theorem release_frees {a : TokenAnswers T} (memoryFree : M → Bool) {tokenSize : Nat}
    {pInBuf pOutBuf : Option P} {pDataOut : Option Nat} (nDataOutMax : Nat) (hc : CopyDefined a tokenSize pDataOut)
    (hl : ∀ p ∈ pInBuf, w.Live p) (hne : ∀ p ∈ pInBuf, p ∉ pOutBuf) :
    ∃ w' new, svpReleaseSecureBuffersV3ImplDefault a memoryFree tokenSize w pInBuf pOutBuf pDataOut
        nDataOutMax = some (0, w') ∧ w'.calls = w.calls ++ new ∧
      released (structActs new) = pOutBuf.toList ++ pInBuf.toList ∧
      ∀ q ∉ pOutBuf.toList ++ pInBuf.toList, w'.structs q = w.structs q := by
  obtain ⟨w1, h1⟩ : ∃ w1, releaseOutBufV3 a tokenSize w pInBuf pOutBuf pDataOut = some w1 :=
    ⟨_, releaseOutBufV3_eq_some.2 ⟨hc, rfl⟩⟩
  obtain ⟨new1, hc1, hr1, hs1, hslot⟩ := releaseOut_frees h1
  cases pInBuf with
  | none =>
    refine ⟨w1, new1, release_v3_eq_some.2 ⟨rfl, w1, h1, rfl⟩, hc1, by simpa using hr1, ?_⟩
    intro q hq
    exact hs1 q (by simpa using hq)
  | some p =>
    obtain ⟨n, m, hlive⟩ := hl p rfl
    obtain ⟨w', new2, he, hc2, hr2, hs2, -⟩ := freeV3Memory_frees memoryFree .pInBuf (w := w1) (by
      rw [hslot]
      rintro q hq
      obtain rfl := Option.some.inj hq
      exact ⟨n, m, (hs1 p (hne p rfl)).trans hlive⟩)
    refine ⟨w', new1 ++ new2, release_v3_eq_some.2 ⟨rfl, w1, h1, he⟩, ?_, ?_, ?_⟩
    · rw [hc2, hc1, List.append_assoc]
    · rw [structActs_append, released_append, hr1, hr2, hslot]
    · intro q hq
      rw [List.mem_append, not_or, Option.mem_toList] at hq
      rw [hs2 q (by rw [hslot]; simpa [eq_comm] using hq.2), hs1 q hq.1]

/-- The copy of a disposal that returns had something to copy from. -/
theorem V3Disposal.copyDefined {d : V3Disposal P M T} (h : d.call w = some w') : d.CopyDefined := by
  cases d with
  | release a memoryFree tokenSize pInBuf pOutBuf pDataOut nDataOutMax =>
    obtain ⟨⟨ret, w''⟩, h, -⟩ := Option.map_eq_some_iff.1 h
    obtain ⟨-, w1, h1, -⟩ := release_v3_eq_some.1 h
    exact (releaseOutBufV3_eq_some.1 h1).1
  | free memoryFree slot => trivial

/-- **A disposal frees what it is given.** On live handles, none of them twice, it is defined if its copy
is, frees each once and leaves the other structs alone. -/
theorem V3Disposal.frees {d : V3Disposal P M T} (hc : d.CopyDefined) (hl : ∀ p ∈ d.given w, w.Live p)
    (hn : (d.given w).Nodup) :
    ∃ w' new, d.call w = some w' ∧ w'.calls = w.calls ++ new ∧ released (structActs new) = d.given w ∧
      ∀ q ∉ d.given w, w'.structs q = w.structs q := by
  cases d with
  | release a memoryFree tokenSize pInBuf pOutBuf pDataOut nDataOutMax =>
    simp only [given, List.mem_append, Option.mem_toList] at hl hn
    have hne : ∀ p ∈ pInBuf, p ∉ pOutBuf := fun p hi ho =>
      (List.nodup_append.1 hn).2.2 p (Option.mem_toList.2 ho) p (Option.mem_toList.2 hi) rfl
    obtain ⟨w', new, he, hcalls, hr, hq⟩ := release_frees memoryFree nDataOutMax hc
      (fun p hp => hl p (Or.inr hp)) hne
    exact ⟨w', new, by rw [call, he]; rfl, hcalls, hr, hq⟩
  | free memoryFree slot =>
    simp only [given, Option.mem_toList] at hl ⊢
    obtain ⟨w', new, he, hcalls, hr, hq, -⟩ := freeV3Memory_frees memoryFree slot hl
    exact ⟨w', new, he, hcalls, hr, hq⟩

/-- One disposal by a caller that keeps the list of the handles it still owns. -/
def disposeStep (s : V3World P M D T × List P) (d : V3Disposal P M T) : Option (V3World P M D T × List P) :=
  (d.call s.1).map fun w => (w, s.2.filter (· ∉ d.given s.1))

/-- The caller passes handles it owns, none twice. -/
def DisposalLegal (s : V3World P M D T × List P) (d : V3Disposal P M T) : Prop :=
  (d.given s.1).Nodup ∧ ∀ p ∈ d.given s.1, p ∈ s.2

/-- Since `w` the disposals freed only what was owned then, each struct once; what is still owned is
live and was not freed. -/
def Disposed (w : V3World P M D T) (owned : List P) (s : V3World P M D T × List P) : Prop :=
  ∃ later, s.1.calls = w.calls ++ later ∧ (released (structActs later)).Nodup ∧
    (∀ p ∈ released (structActs later), p ∈ owned) ∧
    ∀ p ∈ s.2, p ∈ owned ∧ s.1.Live p ∧ p ∉ released (structActs later)

theorem disposeStep_keeps {owned : List P} {s s' : V3World P M D T × List P} {d : V3Disposal P M T}
    (hi : Disposed w owned s) (hl : DisposalLegal s d) (h : disposeStep s d = some s') : Disposed w owned s' := by
  obtain ⟨later, hc, hn, ho, hs⟩ := hi
  obtain ⟨w', hcall, rfl⟩ := Option.map_eq_some_iff.1 h
  obtain ⟨w'', new, he, hcn, hr, hq⟩ :=
    V3Disposal.frees (V3Disposal.copyDefined hcall) (fun p hp => (hs p (hl.2 p hp)).2.1) hl.1
  obtain rfl : w' = w'' := Option.some.inj (hcall.symm.trans he)
  refine ⟨later ++ new, ?_, ?_, ?_, ?_⟩
  · rw [hcn, hc, List.append_assoc]
  · rw [structActs_append, released_append, hr, List.nodup_append]
    exact ⟨hn, hl.1, fun p hp q hq e => (hs q (hl.2 q hq)).2.2 (e ▸ hp)⟩
  · intro p hp
    rw [structActs_append, released_append, hr, List.mem_append] at hp
    exact hp.elim (ho p) fun h => (hs p (hl.2 p h)).1
  · intro p hp
    simp only [List.mem_filter, decide_eq_true_eq] at hp
    obtain ⟨hown, ⟨n, m, hlive⟩, hnot⟩ := hs p hp.1
    refine ⟨hown, ⟨n, m, (hq p hp.2).trans hlive⟩, ?_⟩
    rw [structActs_append, released_append, hr, List.mem_append, not_or]
    exact ⟨hnot, hp.2⟩

/-- A legal disposal is defined if its copy is. -/
theorem disposeStep_defined {owned : List P} {s : V3World P M D T × List P} {d : V3Disposal P M T}
    (hi : Disposed w owned s) (hl : DisposalLegal s d) (hc : d.CopyDefined) : ∃ s', disposeStep s d = some s' := by
  obtain ⟨later, -, -, -, hs⟩ := hi
  obtain ⟨w', new, he, -⟩ := V3Disposal.frees hc (fun p hp => (hs p (hl.2 p hp)).2.1) hl.1
  exact ⟨_, by rw [disposeStep, he, Option.map_some]⟩

/-- From any state, disposals of live handles free none of them twice, and are defined where their copies
have what they need. -/
theorem dispose_run {owned : List P} (hlive : ∀ p ∈ owned, w.Live p) {ds : List (V3Disposal P M T)}
    (hl : Runs.Along disposeStep DisposalLegal (w, owned) ds) :
    (∀ s, Runs.run disposeStep (w, owned) ds = some s → Disposed w owned s) ∧
      ((∀ d ∈ ds, d.CopyFits) → ∃ s, Runs.run disposeStep (w, owned) ds = some s) := by
  have hstart : Disposed w owned (w, owned) :=
    ⟨[], by simp, by simp [structActs], by simp [structActs], fun p hp => ⟨hp, hlive p hp, by simp [structActs]⟩⟩
  constructor
  · intro s hrun
    exact Runs.run_preserves (fun _ _ _ hi hl h => disposeStep_keeps hi hl h) hstart hl hrun
  · intro hfits
    have hcopies : Runs.Along disposeStep (fun _ d => d.CopyFits) (w, owned) ds :=
      Runs.along_of_forall fun d hd _ => hfits d hd
    obtain ⟨s, hrun, -⟩ := Runs.run_total (I := Disposed w owned) (by
      rintro s d hi ⟨hl, hc⟩
      obtain ⟨s', hs⟩ := disposeStep_defined hi hl hc.defined
      exact ⟨s', hs, disposeStep_keeps hi hl hs⟩) hstart (Runs.along_and hl hcopies)
    exact ⟨s, hrun⟩

/-- What an allocation freed was not live before it and is not live after it. -/
theorem Holding.freed_dead {held : List (Held P M)} (h : Holding w w' new n held gotP gotM) (hnP : gotP.Nodup)
    (hgot : ∀ p ∈ gotP, w.structs p = none) :
    (released (structActs new)).Nodup ∧ ∀ p ∈ released (structActs new), w'.structs p = none := by
  obtain ⟨live, hl, hlp⟩ := h.ledgerP
  obtain ⟨hr, -, hdis, hiff⟩ := follow_once hl (h.gotP ▸ hnP)
  refine ⟨hr, ?_⟩
  intro p hp
  have hin : p ∈ gotP := h.gotP ▸ (hiff p).2 (Or.inr hp)
  rw [h.structsElse p fun k hk e => hdis p (hlp.mem_iff.2 (List.mem_map.2 ⟨k, hk, e⟩)) hp, hgot p hin]

/-! ## All or nothing -/

/-- The allocation returns, and either gives every requested out parameter its own fresh handle or leaves the
heap as it was; and whatever live handles the caller then disposes of, in whichever way, no struct is freed
twice, the allocation's own frees included. -/
def V3AllOrNothing (a : V3AllocateAnswers P M D) (w : V3World P M D T) (ppInBuf ppOutBuf : Option Slot)
    (pInData : Option (List UInt8)) (nDataLen : Nat) : Prop :=
  ∃ ret w' new, svpAllocateSecureBuffersV3ImplDefault a w ppInBuf ppOutBuf pInData nDataLen = some (ret, w') ∧
    w'.calls = w.calls ++ new ∧
    ((ret = 1 ∧ ∃ ki ko, V3Allocated w w' ppInBuf ppOutBuf pInData nDataLen ki ko) ∨
      (ret = 0 ∧ V3RolledBack w w' new ppInBuf ppOutBuf)) ∧
    ∀ (owned : List P) (ds : List (V3Disposal P M T)), (∀ p ∈ owned, w'.Live p) →
      Runs.Along disposeStep DisposalLegal (w', owned) ds →
      (∀ s, Runs.run disposeStep (w', owned) ds = some s → ∃ later, s.1.calls = w'.calls ++ later ∧
        (released (structActs (new ++ later))).Nodup) ∧
      ((∀ d ∈ ds, d.CopyFits) → ∃ s, Runs.run disposeStep (w', owned) ds = some s)

omit [DecidableEq P] [DecidableEq M] in
/-- No out parameter that a failing `sa_svp_memory_alloc` leaves alone already held the address of a struct
that the call obtains. -/
structure NoStaleOut (a : V3AllocateAnswers P M D) (w : V3World P M D T) (ppInBuf ppOutBuf : Option Slot) :
    Prop where
  out : ppOutBuf.isSome → a.out.memoryAlloc = none → ∀ s ∈ outParams ppInBuf ppOutBuf, w.slots s ≠ a.out.malloc
  inp : a.ReachesIn ppInBuf ppOutBuf → a.inp.memoryAlloc = none → ∀ s ∈ ppInBuf,
    w.slots s ≠ a.inp.malloc ∧ (ppOutBuf.isSome → w.slots s ≠ a.out.malloc)

/-- After a failing call no out parameter points to a struct that the call obtained exactly if none held
its address before. -/
theorem failed_slots_iff {a : V3AllocateAnswers P M D} {ppInBuf ppOutBuf : Option Slot}
    {pInData : Option (List UInt8)} (hfresh : V3Fresh a w ppInBuf ppOutBuf)
    (hslots : ∀ s ∈ ppInBuf, ppOutBuf ≠ some s)
    (h : svpAllocateSecureBuffersV3ImplDefault a w ppInBuf ppOutBuf pInData n = some (0, w')) :
    (∀ s ∈ outParams ppInBuf ppOutBuf, ∀ p ∈ a.structs ppInBuf ppOutBuf, w'.slots s ≠ some p) ↔
      NoStaleOut a w ppInBuf ppOutBuf := by
  rcases allocate_slots hslots h with ⟨-, hsome, hfail, hw⟩ | ⟨-, hin, hfail, hwi, hwo⟩ | ⟨hout, hinp, hw⟩
  · -- the output failed: only its struct was obtained
    have hnot : ¬ a.ReachesIn ppInBuf ppOutBuf := fun hin => by simpa [hfail] using hin.1 hsome
    obtain ⟨p, hp, -⟩ := (hfresh.out hsome).malloc
    have hgot : a.structs ppInBuf ppOutBuf = [p] := by
      rw [structs_of_not_reached hnot, V3AllocateAnswers.outStructs, if_pos hsome, hp, Option.toList_some]
    rw [hgot, hw]
    constructor
    · intro hs
      refine ⟨fun _ _ s hmem => ?_, fun hin => absurd hin hnot⟩
      rw [hp]
      exact hs s hmem p (List.mem_singleton_self p)
    · intro hs s hmem q hq
      rw [List.mem_singleton.1 hq, ← hp]
      exact hs.out hsome hfail s hmem
  · -- the input failed: its variable is as before, and that of the output is cleared
    obtain ⟨p, hp, -⟩ := (hfresh.inp hin).malloc
    rw [structs_of_reached hin hp]
    constructor
    · intro hs
      refine ⟨fun hsome hnone => by simpa [hnone] using hin.1 hsome, fun _ _ s hmem => ?_⟩
      have hparam : s ∈ outParams ppInBuf ppOutBuf := List.mem_append_left _ (Option.mem_toList.2 hmem)
      rw [← hwi s hmem]
      refine ⟨hp ▸ hs s hparam p (List.mem_append_right _ (List.mem_singleton_self p)), ?_⟩
      intro hsome
      obtain ⟨q, hq, -⟩ := (hfresh.out hsome).malloc
      exact hq ▸ hs s hparam q (List.mem_append_left _ (mem_outStructs.2 ⟨hsome, hq⟩))
    · intro hs s hparam q hq
      rcases List.mem_append.1 hparam with hmem | hmem
      · have hmem := Option.mem_toList.1 hmem
        obtain ⟨hi, ho⟩ := hs.inp hin hfail s hmem
        rw [hwi s hmem]
        rcases List.mem_append.1 hq with hq | hq
        · obtain ⟨hsome, hq⟩ := mem_outStructs.1 hq
          exact hq ▸ ho hsome
        · rw [List.mem_singleton.1 hq, ← hp]
          exact hi
      · rw [hwo s (Option.mem_toList.1 hmem)]
        exact (Option.some_ne_none q).symm
  · -- both were obtained, and a failing copy clears both
    constructor
    · intro _
      refine ⟨fun hsome hnone => by simpa [hnone] using hout hsome, fun hin hnone => ?_⟩
      simpa [hnone] using hinp hin.2
    · intro _ s hmem p _
      rw [hw rfl s hmem]
      exact (Option.some_ne_none p).symm

/-- A call that obtained all that it asked for left no variable alone. -/
theorem noStaleOut_of_obtained {a : V3AllocateAnswers P M D} {ppInBuf ppOutBuf : Option Slot}
    {pInData : Option (List UInt8)} (hslots : ∀ s ∈ ppInBuf, ppOutBuf ≠ some s)
    (h : svpAllocateSecureBuffersV3ImplDefault a w ppInBuf ppOutBuf pInData n = some (1, w')) :
    NoStaleOut a w ppInBuf ppOutBuf := by
  rcases allocate_slots hslots h with ⟨h10, -⟩ | ⟨h10, -⟩ | ⟨hout, hinp, -⟩
  · cases h10
  · cases h10
  · refine ⟨fun hsome hnone => by simpa [hnone] using hout hsome, fun hin hnone => ?_⟩
    simpa [hnone] using hinp hin.2

/-- **All or nothing.** On fresh answers the v3 allocator is all or nothing exactly where no out parameter
that it leaves alone is stale. -/
theorem svp_allocate_v3_all_or_nothing (a : V3AllocateAnswers P M D) (w : V3World P M D T)
    (ppInBuf ppOutBuf : Option Slot) (pInData : Option (List UInt8)) (nDataLen : Nat)
    (hfresh : V3Fresh a w ppInBuf ppOutBuf) (hfree : ∀ m, a.memoryFree m = true)
    (hslots : ∀ s ∈ ppInBuf, ppOutBuf ≠ some s) (hdata : ∀ data ∈ pInData, nDataLen ≤ data.length) :
    V3AllOrNothing a w ppInBuf ppOutBuf pInData nDataLen ↔ NoStaleOut a w ppInBuf ppOutBuf := by
  obtain ⟨w', ret, new, gotM, he, hnM, hexit⟩ := allocate_exit hfresh hfree hslots hdata
  obtain ⟨hnP, hgot⟩ := hfresh.structs
  obtain ⟨held, hh⟩ : ∃ held, Holding w w' new nDataLen held (a.structs ppInBuf ppOutBuf) gotM := by
    rcases hexit with ⟨-, ki, ko, -, -, -, hh⟩ | ⟨-, hh⟩
    · exact ⟨_, hh⟩
    · exact ⟨_, hh⟩
  constructor
  · rintro ⟨ret', w'', new', he', hc', hcase, -⟩
    obtain ⟨rfl, rfl⟩ := Prod.mk.inj (Option.some.inj (he'.symm.trans he))
    obtain rfl : new' = new := List.append_cancel_left (hc'.symm.trans hh.calls)
    rcases hexit with ⟨rfl, -⟩ | ⟨rfl, hh⟩
    · exact noStaleOut_of_obtained hslots he
    · obtain ⟨-, -, -, -, hfreed⟩ := hh.nothing hnP hnM
      rcases hcase with ⟨h01, -⟩ | ⟨-, hback⟩
      · cases h01
      · exact (failed_slots_iff hfresh hslots he).1 fun s hs p hp => hback.params s hs p ((hfreed p).2 hp)
  · intro hstale
    refine ⟨ret, w', new, he, hh.calls, ?_, ?_⟩
    · rcases hexit with ⟨hr, ki, ko, rfl, rfl, hd, hh⟩ | ⟨rfl, hh⟩
      · exact Or.inl ⟨hr, ki, ko, hh.allocated hd⟩
      · obtain ⟨hstructs, hmemory, honceP, honceM, hfreed⟩ := hh.nothing hnP hnM
        refine Or.inr ⟨rfl, hstructs, hmemory, honceP, honceM, ?_⟩
        intro s hs p hp
        exact (failed_slots_iff hfresh hslots he).2 hstale s hs p ((hfreed p).1 hp)
    · intro owned ds hlive hl
      obtain ⟨hn, hdead⟩ := hh.freed_dead hnP hgot
      obtain ⟨hdisposed, hdefined⟩ := dispose_run hlive hl
      refine ⟨?_, hdefined⟩
      intro s hrun
      obtain ⟨later, hc, hnl, hown, -⟩ := hdisposed s hrun
      refine ⟨later, hc, ?_⟩
      rw [structActs_append, released_append, List.nodup_append]
      refine ⟨hn, hnl, ?_⟩
      intro p hp q hq e
      obtain ⟨n, m, hlq⟩ := hlive q (hown q hq)
      rw [← e, hdead p hp] at hlq
      exact absurd hlq (Option.some_ne_none _).symm

end

/-- Two buffers on an empty heap, with the write of the input data failing, into variables that hold the
addresses that `malloc` then answers with. -/
theorem svp_allocate_v3_write_fails :
    V3AllOrNothing (T := Unit)
      ⟨⟨some 1, some 11, fun _ => 0⟩, ⟨some 2, some 12, fun _ => 0⟩, some (), false, fun _ => true⟩
      ⟨fun _ => none, fun _ => none, fun slot => if slot = .caller 0 then some 1 else some 2, []⟩
      (some (.caller 0)) (some (.caller 1)) (some [7, 8]) 2 :=
  (svp_allocate_v3_all_or_nothing _ _ _ _ _ _
    ⟨fun _ => ⟨⟨1, rfl, rfl⟩, fun _ _ => rfl⟩, fun _ => ⟨⟨2, rfl, rfl⟩, fun _ _ => rfl⟩, fun _ _ => by simp⟩
    (fun _ => rfl) (by simp) (by simp)).2 ⟨by simp, by simp⟩

/-- An output is allocated and released, and its variable used again: `malloc` answers with the address
that was freed, `sa_svp_memory_alloc` fails, and the call returns 0 with the variable at the struct it
freed. -/
theorem svp_allocate_v3_stale_out :
    ∃ w₁ w₂ : V3World Nat Nat Nat Nat,
      svpAllocateSecureBuffersV3ImplDefault
          ⟨⟨some 1, some 11, fun _ => 0⟩, ⟨none, none, fun _ => 0⟩, none, true, fun _ => true⟩
          ⟨fun _ => none, fun _ => none, fun _ => none, []⟩ none (some (.caller 0)) none 4 = some (1, w₁) ∧
        svpReleaseSecureBuffersV3ImplDefault ⟨some 7, true⟩ (fun _ => true) 8 w₁ none (w₁.slots (.caller 0))
          (some 0) 8 = some (0, w₂) ∧
        V3Fresh ⟨⟨some 1, none, fun _ => 0⟩, ⟨none, none, fun _ => 0⟩, (none : Option Nat), true, fun _ => true⟩ w₂
          none (some (.caller 0)) ∧
        ¬ V3AllOrNothing ⟨⟨some 1, none, fun _ => 0⟩, ⟨none, none, fun _ => 0⟩, none, true, fun _ => true⟩ w₂
          none (some (.caller 0)) none 4 := by
  refine ⟨_, _, rfl, rfl, ⟨fun _ => ⟨⟨1, rfl, rfl⟩, by simp⟩, ?_, ?_⟩, ?_⟩
  · exact fun h => absurd h.2 Bool.false_ne_true
  · exact fun h => absurd h.2 Bool.false_ne_true
  rintro ⟨ret, w', new, he, hc, hcase, -⟩
  obtain ⟨rfl, rfl⟩ := Prod.mk.inj (Option.some.inj he)
  rcases hcase with ⟨h10, -⟩ | ⟨-, hback⟩
  · cases h10
  · have hnew : new = [.malloc (some 1), .memoryAlloc 4 none, .free (some 1)] := (List.append_cancel_left hc).symm
    exact hback.params (.caller 0) (by simp [outParams]) 1 (by rw [hnew]; simp [structActs]) rfl

end GstSvpExt
