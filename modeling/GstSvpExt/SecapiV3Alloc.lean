import GstSvpExt.Ledger
import GstSvpExt.SecapiV3

/-!
# All or nothing: the SecAPI v3 allocator

`Holding w w' new n held` says where an allocation that started in `w` stands: `w'` is `w` plus the
buffers `held`, each with its own fresh struct and memory, and the calls `new` made on the way
balance to exactly these on a ledger of structs and on one of memories. Allocating adds a buffer,
freeing removes one (`Holding.allocate`, `Holding.allocate_fails`, `Holding.free`), so every exit of
`svp_allocate_secure_buffers_v3_impl_default` is either a `Holding` of all that was asked for or a
`Holding` of nothing, which is `w` again.
-/

namespace GstSvpExt

open Ledger

variable {P M D T : Type}

/-- Structs that the calls obtained from `malloc` or gave to `free`. -/
def structActs (calls : List (V3Call P M D T)) : List (Act P) := calls.filterMap fun
  | .malloc (some p) => some (.acquire p)
  | .free (some p) => some (.release p)
  | _ => none

/-- Secure memories that the calls obtained or freed. -/
def memoryActs (calls : List (V3Call P M D T)) : List (Act M) := calls.filterMap fun
  | .memoryAlloc _ (some m) => some (.acquire m)
  | .memoryFree m _ => some (.release m)
  | _ => none

@[simp] theorem structActs_append (c d : List (V3Call P M D T)) :
    structActs (c ++ d) = structActs c ++ structActs d := by
  simp [structActs]

@[simp] theorem memoryActs_append (c d : List (V3Call P M D T)) :
    memoryActs (c ++ d) = memoryActs c ++ memoryActs d := by
  simp [memoryActs]

/-- A buffer that the allocator holds: where its handle is stored, the struct, and its memory. -/
structure Held (P M : Type) where
  slot : Slot
  p : P
  m : M
  bytes : List UInt8

section
variable [DecidableEq P] [DecidableEq M]

/-- `w'` is `w` plus the buffers `held` of size `n`; `new` are the calls from `w` to `w'`, which
obtained the structs `gotP` and the memories `gotM`. -/
structure Holding (w w' : V3World P M D T) (new : List (V3Call P M D T)) (n : Nat)
    (held : List (Held P M)) (gotP : List P) (gotM : List M) : Prop where
  calls : w'.calls = w.calls ++ new
  structs : ∀ h ∈ held, w'.structs h.p = some ⟨n, some h.m⟩ ∧ w.structs h.p = none
  structsElse : ∀ q, (∀ h ∈ held, h.p ≠ q) → w'.structs q = w.structs q
  memory : ∀ h ∈ held, w'.memory h.m = some h.bytes ∧ h.bytes.length = n ∧ w.memory h.m = none
  memoryElse : ∀ m, (∀ h ∈ held, h.m ≠ m) → w'.memory m = w.memory m
  slots : ∀ h ∈ held, w'.slots h.slot = some h.p
  slotsElse : ∀ s, (∀ h ∈ held, h.slot ≠ s) → w'.slots s = none ∨ w'.slots s = w.slots s
  distinct : held.Pairwise fun h k => h.slot ≠ k.slot ∧ h.p ≠ k.p ∧ h.m ≠ k.m
  ledgerP : ∃ live, follow [] (structActs new) = some live ∧ live.Perm (held.map Held.p)
  ledgerM : ∃ live, follow [] (memoryActs new) = some live ∧ live.Perm (held.map Held.m)
  gotP : acquired (structActs new) = gotP
  gotM : acquired (memoryActs new) = gotM

variable {w w' : V3World P M D T} {new : List (V3Call P M D T)} {n : Nat} {held held' : List (Held P M)}
  {gotP : List P} {gotM : List M}

theorem Holding.start (w : V3World P M D T) (n : Nat) : Holding w w [] n [] [] [] where
  calls := by simp
  structs := by simp
  structsElse := fun _ _ => rfl
  memory := by simp
  memoryElse := fun _ _ => rfl
  slots := by simp
  slotsElse := fun _ _ => Or.inr rfl
  distinct := List.Pairwise.nil
  ledgerP := ⟨[], rfl, List.Perm.nil⟩
  ledgerM := ⟨[], rfl, List.Perm.nil⟩
  gotP := rfl
  gotM := rfl

theorem Holding.perm (h : Holding w w' new n held gotP gotM) (hp : held.Perm held') :
    Holding w w' new n held' gotP gotM where
  calls := h.calls
  structs := fun k hk => h.structs k (hp.mem_iff.2 hk)
  structsElse := fun q hq => h.structsElse q fun k hk => hq k (hp.mem_iff.1 hk)
  memory := fun k hk => h.memory k (hp.mem_iff.2 hk)
  memoryElse := fun m hm => h.memoryElse m fun k hk => hm k (hp.mem_iff.1 hk)
  slots := fun k hk => h.slots k (hp.mem_iff.2 hk)
  slotsElse := fun s hs => h.slotsElse s fun k hk => hs k (hp.mem_iff.1 hk)
  distinct := (hp.pairwise_iff fun ⟨h1, h2, h3⟩ => ⟨h1.symm, h2.symm, h3.symm⟩).1 h.distinct
  ledgerP := by
    obtain ⟨live, hl, hlp⟩ := h.ledgerP
    exact ⟨live, hl, hlp.trans (hp.map _)⟩
  ledgerM := by
    obtain ⟨live, hl, hlp⟩ := h.ledgerM
    exact ⟨live, hl, hlp.trans (hp.map _)⟩
  gotP := h.gotP
  gotM := h.gotM

/-- A successful `allocate_v3_memory` with fresh answers adds a buffer. -/
theorem Holding.allocate (h : Holding w w' new n held gotP gotM) {a : V3MemoryAnswers P M} (slot : Slot)
    {p : P} {m : M} (hp : a.malloc = some p) (hm : a.memoryAlloc = some m)
    (hslot : ∀ k ∈ held, k.slot ≠ slot) (hwp : w.structs p = none) (hpg : p ∉ gotP)
    (hwm : w.memory m = none) (hmg : m ∉ gotM) :
    ∃ w'' new' bytes, allocateV3Memory a w' (some slot) n = some (true, w'') ∧
      Holding w w'' new' n (⟨slot, p, m, bytes⟩ :: held) (gotP ++ [p]) (gotM ++ [m]) := by
  -- what is held was obtained, so the fresh answers are not held
  have hP : p ∉ held.map Held.p := fun hin => hpg (h.gotP ▸ owned_acquired h.ledgerP hin)
  have hM : m ∉ held.map Held.m := fun hin => hmg (h.gotM ▸ owned_acquired h.ledgerM hin)
  have hkp : ∀ k ∈ held, k.p ≠ p := fun k hk e => hP (List.mem_map.2 ⟨k, hk, e⟩)
  have hkm : ∀ k ∈ held, k.m ≠ m := fun k hk e => hM (List.mem_map.2 ⟨k, hk, e⟩)
  refine ⟨_, new ++ [.malloc (some p), .memoryAlloc n (some m)], (List.range n).map a.fill,
    allocateV3Memory_done hp hm w' slot n, ?_⟩
  constructor
  case calls => simp [h.calls]
  case structs =>
    intro k hk
    rcases List.mem_cons.1 hk with rfl | hk
    · simp [hwp]
    · simp [Function.update_of_ne (hkp k hk), h.structs k hk]
  case structsElse =>
    intro q hq
    have hqp : q ≠ p := fun e => hq _ List.mem_cons_self e.symm
    simp only [Function.update_of_ne hqp]
    exact h.structsElse q fun k hk => hq k (List.mem_cons_of_mem _ hk)
  case memory =>
    intro k hk
    rcases List.mem_cons.1 hk with rfl | hk
    · simp [hwm]
    · simp [Function.update_of_ne (hkm k hk), h.memory k hk]
  case memoryElse =>
    intro q hq
    have hqm : q ≠ m := fun e => hq _ List.mem_cons_self e.symm
    simp only [Function.update_of_ne hqm]
    exact h.memoryElse q fun k hk => hq k (List.mem_cons_of_mem _ hk)
  case slots =>
    intro k hk
    rcases List.mem_cons.1 hk with rfl | hk
    · simp
    · simp [Function.update_of_ne (hslot k hk), h.slots k hk]
  case slotsElse =>
    intro s hs
    have hss : s ≠ slot := fun e => hs _ List.mem_cons_self e.symm
    simp only [Function.update_of_ne hss]
    exact h.slotsElse s fun k hk => hs k (List.mem_cons_of_mem _ hk)
  case distinct =>
    exact List.pairwise_cons.2 ⟨fun k hk => ⟨(hslot k hk).symm, (hkp k hk).symm, (hkm k hk).symm⟩, h.distinct⟩
  case ledgerP =>
    rw [structActs_append]
    exact owned_acquire h.ledgerP hP
  case ledgerM =>
    rw [memoryActs_append]
    exact owned_acquire h.ledgerM hM
  case gotP => rw [structActs_append, acquired_append, h.gotP]; rfl
  case gotM => rw [memoryActs_append, acquired_append, h.gotM]; rfl

/-- A failing `sa_svp_memory_alloc` leaves what is held as it was: the new struct is freed again. -/
theorem Holding.allocate_fails (h : Holding w w' new n held gotP gotM) {a : V3MemoryAnswers P M}
    (slot : Slot) {p : P} (hp : a.malloc = some p) (hm : a.memoryAlloc = none)
    (hwp : w.structs p = none) (hpg : p ∉ gotP) :
    ∃ w'' new', allocateV3Memory a w' (some slot) n = some (false, w'') ∧
      Holding w w'' new' n held (gotP ++ [p]) gotM := by
  have hP : p ∉ held.map Held.p := fun hin => hpg (h.gotP ▸ owned_acquired h.ledgerP hin)
  have hkp : ∀ k ∈ held, k.p ≠ p := fun k hk e => hP (List.mem_map.2 ⟨k, hk, e⟩)
  have hsame : Function.update w'.structs p none = w'.structs :=
    Function.update_eq_self_iff.2 ((h.structsElse p hkp).trans hwp).symm
  refine ⟨_, new ++ [.malloc (some p), .memoryAlloc n none, .free (some p)],
    allocateV3Memory_failed hp hm w' slot n, ?_⟩
  rw [hsame]
  constructor
  case calls => simp [h.calls]
  case ledgerP =>
    have hnew : structActs (new ++ [.malloc (some p), .memoryAlloc n none, .free (some p)]) =
        structActs new ++ [.acquire p] ++ [.release p] := by
      rw [structActs_append, List.append_assoc]
      rfl
    rw [hnew]
    exact owned_release (owned_acquire h.ledgerP hP)
  case ledgerM => simpa [memoryActs] using h.ledgerM
  case gotP => rw [structActs_append, acquired_append, h.gotP]; rfl
  case gotM => rw [memoryActs_append, acquired_append, h.gotM]; simp [memoryActs]
  case structs => exact h.structs
  case structsElse => exact h.structsElse
  case memory => exact h.memory
  case memoryElse => exact h.memoryElse
  case slots => exact h.slots
  case slotsElse => exact h.slotsElse
  case distinct => exact h.distinct

/-- `free_v3_memory` on the variable of a held buffer gives that buffer up. -/
theorem Holding.free {k : Held P M} (h : Holding w w' new n (k :: held) gotP gotM) {memoryFree : M → Bool}
    (hf : ∀ m, memoryFree m = true) :
    ∃ w'' new', freeV3Memory memoryFree w' (some k.slot) = some w'' ∧
      Holding w w'' new' n held gotP gotM := by
  obtain ⟨hk, hrest⟩ := List.pairwise_cons.1 h.distinct
  have hmem : k ∈ k :: held := List.mem_cons_self
  refine ⟨_, new ++ [.memoryFree k.m true, .free (some k.p)],
    freeV3Memory_done (h.slots k hmem) (h.structs k hmem).1, ?_⟩
  simp only [hf, if_true]
  constructor
  case calls => simp [h.calls]
  case structs =>
    intro j hj
    simp [Function.update_of_ne (hk j hj).2.1.symm, h.structs j (List.mem_cons_of_mem _ hj)]
  case structsElse =>
    intro q hq
    by_cases hqk : q = k.p
    · subst hqk; simp [(h.structs k hmem).2]
    · simp only [Function.update_of_ne hqk]
      exact h.structsElse q (List.forall_mem_cons.2 ⟨Ne.symm hqk, hq⟩)
  case memory =>
    intro j hj
    simp [Function.update_of_ne (hk j hj).2.2.symm, h.memory j (List.mem_cons_of_mem _ hj)]
  case memoryElse =>
    intro q hq
    by_cases hqk : q = k.m
    · subst hqk; simp [(h.memory k hmem).2.2]
    · simp only [Function.update_of_ne hqk]
      exact h.memoryElse q (List.forall_mem_cons.2 ⟨Ne.symm hqk, hq⟩)
  case slots =>
    intro j hj
    simp [Function.update_of_ne (hk j hj).1.symm, h.slots j (List.mem_cons_of_mem _ hj)]
  case slotsElse =>
    intro s hs
    by_cases hsk : s = k.slot
    · subst hsk; simp
    · simp only [Function.update_of_ne hsk]
      exact h.slotsElse s (List.forall_mem_cons.2 ⟨Ne.symm hsk, hs⟩)
  case distinct => exact hrest
  case ledgerP =>
    rw [structActs_append]
    exact owned_release h.ledgerP
  case ledgerM =>
    rw [memoryActs_append]
    exact owned_release h.ledgerM
  case gotP => rw [structActs_append, acquired_append, h.gotP]; simp [structActs]
  case gotM => rw [memoryActs_append, acquired_append, h.gotM]; simp [memoryActs]

/-- Calls that touch neither a struct nor a memory. -/
theorem Holding.quiet (h : Holding w w' new n held gotP gotM) {c : List (V3Call P M D T)}
    (hs : structActs c = []) (hm : memoryActs c = []) :
    Holding w { w' with calls := w'.calls ++ c } (new ++ c) n held gotP gotM where
  calls := by simp [h.calls]
  structs := h.structs
  structsElse := h.structsElse
  memory := h.memory
  memoryElse := h.memoryElse
  slots := h.slots
  slotsElse := h.slotsElse
  distinct := h.distinct
  ledgerP := by simpa [hs] using h.ledgerP
  ledgerM := by simpa [hm] using h.ledgerM
  gotP := by simpa [hs] using h.gotP
  gotM := by simpa [hm] using h.gotM

/-- Writing into a held memory changes nothing else. -/
theorem Holding.write {k : Held P M} (h : Holding w w' new n (k :: held) gotP gotM) {bytes : List UInt8}
    (hb : bytes.length = n) :
    Holding w { w' with memory := Function.update w'.memory k.m (some bytes) } new n
      ({ k with bytes } :: held) gotP gotM := by
  obtain ⟨hk, hrest⟩ := List.pairwise_cons.1 h.distinct
  constructor
  case calls => exact h.calls
  case structs =>
    intro j hj
    rcases List.mem_cons.1 hj with rfl | hj
    · exact h.structs k List.mem_cons_self
    · exact h.structs j (List.mem_cons_of_mem _ hj)
  case structsElse =>
    intro q hq
    obtain ⟨hqk, hq⟩ := List.forall_mem_cons.1 hq
    exact h.structsElse q (List.forall_mem_cons.2 ⟨hqk, hq⟩)
  case memory =>
    intro j hj
    rcases List.mem_cons.1 hj with rfl | hj
    · simp [hb, (h.memory k List.mem_cons_self).2.2]
    · simp [Function.update_of_ne (hk j hj).2.2.symm, h.memory j (List.mem_cons_of_mem _ hj)]
  case memoryElse =>
    intro q hq
    obtain ⟨hqk, hq⟩ := List.forall_mem_cons.1 hq
    have hne : q ≠ k.m := Ne.symm hqk
    simp only [Function.update_of_ne hne]
    exact h.memoryElse q (List.forall_mem_cons.2 ⟨hqk, hq⟩)
  case slots =>
    intro j hj
    rcases List.mem_cons.1 hj with rfl | hj
    · exact h.slots k List.mem_cons_self
    · exact h.slots j (List.mem_cons_of_mem _ hj)
  case slotsElse =>
    intro s hs
    obtain ⟨hsk, hs⟩ := List.forall_mem_cons.1 hs
    exact h.slotsElse s (List.forall_mem_cons.2 ⟨hsk, hs⟩)
  case distinct => exact List.pairwise_cons.2 ⟨hk, hrest⟩
  case ledgerP => exact h.ledgerP
  case ledgerM => exact h.ledgerM
  case gotP => exact h.gotP
  case gotM => exact h.gotM

/-- `free_v3_memory(ppOutBuf)` with or without an output buffer. -/
theorem Holding.freeOpt {k : Option (Held P M)} (h : Holding w w' new n (k.toList ++ held) gotP gotM)
    {memoryFree : M → Bool} (hf : ∀ m, memoryFree m = true) :
    ∃ w'' new', freeV3Memory memoryFree w' (k.map Held.slot) = some w'' ∧
      Holding w w'' new' n held gotP gotM := by
  cases k with
  | none => exact ⟨w', new, rfl, h⟩
  | some k => exact h.free hf

/-- Freeing the output, then the input, leaves nothing held. -/
theorem Holding.freeBoth {k : Held P M} {ko : Option (Held P M)}
    (h : Holding w w' new n (k :: ko.toList) gotP gotM) {memoryFree : M → Bool}
    (hf : ∀ m, memoryFree m = true) :
    ∃ w'' new', ((freeV3Memory memoryFree w' (ko.map Held.slot)).bind fun w1 =>
      freeV3Memory memoryFree w1 (some k.slot)) = some w'' ∧ Holding w w'' new' n [] gotP gotM := by
  have hperm : (k :: ko.toList).Perm (ko.toList ++ [k]) := by
    cases ko with
    | none => exact List.Perm.refl _
    | some j => exact List.Perm.swap j k []
  obtain ⟨w1, new1, h1, hh1⟩ := (h.perm hperm).freeOpt hf
  obtain ⟨w2, new2, h2, hh2⟩ := hh1.free hf
  exact ⟨w2, new2, by rw [h1, Option.bind_some, h2], hh2⟩

/-- The copy of the input data: it ends with both buffers held and the input holding the data, or
with nothing held. -/
theorem Holding.fill {k : Held P M} {ko : Option (Held P M)}
    (h : Holding w w' new n (k :: ko.toList) gotP gotM) {a : V3AllocateAnswers P M D}
    (hf : ∀ m, a.memoryFree m = true) {data : List UInt8} (hd : n ≤ data.length) :
    ∃ ret w'' new', fillInBufV3 a w' (some k.slot) (ko.map Held.slot) data n = some (ret, w'') ∧
      ((ret = 1 ∧ Holding w w'' new' n ({ k with bytes := data.take n } :: ko.toList) gotP gotM) ∨
        (ret = 0 ∧ Holding w w'' new' n [] gotP gotM)) := by
  have hmem : k ∈ k :: ko.toList := List.mem_cons_self
  have hread : Bytes.read data 0 n = some (data.take n) := Bytes.read_eq_some.2 ⟨by omega, rfl⟩
  have hlen : (data.take n).length = n := by rw [List.length_take]; omega
  have hstart : (w'.slots k.slot).bind w'.structs = some ⟨n, some k.m⟩ := by
    rw [h.slots k hmem, Option.bind_some, (h.structs k hmem).1]
  have h1 := h.quiet (c := [.bufferCreate k.m n a.bufferCreate]) rfl rfl
  cases hc : a.bufferCreate with
  | none =>
    obtain ⟨w2, new2, he, hh⟩ := h1.freeBoth hf
    refine ⟨0, w2, new2, ?_, Or.inr ⟨rfl, hh⟩⟩
    simp only [hc] at he
    obtain ⟨w1, he1, he2⟩ := Option.bind_eq_some_iff.1 he
    simp [fillInBufV3, h.slots k hmem, (h.structs k hmem).1, hc, he1, he2]
  | some d =>
    have h2 := h1.quiet (c := [.bufferWrite d (data.take n) a.bufferWrite]) rfl rfl
    cases hw : a.bufferWrite with
    | true =>
      obtain ⟨contents, hcw⟩ := Bytes.exists_write k.bytes 0 (data.take n)
        (by rw [hlen, (h.memory k hmem).2.1]; omega)
      have hall : contents = data.take n := by
        obtain ⟨-, rfl⟩ := Bytes.write_eq_some.1 hcw
        rw [List.drop_of_length_le (by rw [hlen, (h.memory k hmem).2.1]; omega)]
        simp
      subst hall
      refine ⟨1, _, _, ?_, Or.inl ⟨rfl, h2.write hlen⟩⟩
      simp [fillInBufV3, h.slots k hmem, (h.structs k hmem).1, (h.memory k hmem).1, hc, hw, hread, hcw]
    | false =>
      obtain ⟨w2, new2, he, hh⟩ := h2.freeBoth hf
      refine ⟨0, w2, new2, ?_, Or.inr ⟨rfl, hh⟩⟩
      simp only [hc, hw] at he
      obtain ⟨w1, he1, he2⟩ := Option.bind_eq_some_iff.1 he
      simp only [List.append_assoc, List.cons_append, List.nil_append] at he1
      simp [fillInBufV3, h.slots k hmem, (h.structs k hmem).1, hc, hw, hread, he1, he2]

end

end GstSvpExt
