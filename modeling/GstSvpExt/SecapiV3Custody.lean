import GstSvpExt.SecapiV3Buffers
import GstSvpExt.SecapiV3Ledger

/-!
# Custody of SecAPI v3 memory over whole runs (`gst_svp_secure_buffers_secapi.cpp:160-285`)

The release function gives an output's memory to `svp_buffer_to_token` and `free`s only the struct, an
input's memory it frees. `V3Books` is the caller's account of this: the handles it `owned`, each with the
contents its allocation left, and those it `sent`. `V3Kept` says that the account is right: the heaps hold
what is in the books and nothing else, and the books say where everything that was obtained went.
-/

namespace GstSvpExt

open Ledger Runs

variable {P M D T : Type}

/-! ## The books -/

/-- The handle in a variable, with what its memory holds. -/
def V3World.handle (w : V3World P M D T) (slot : Slot) : Option (Held P M) := do
  let p ← w.slots slot
  let buf ← w.structs p
  let m ← buf.svpMemory
  let bytes ← w.memory m
  some ⟨slot, p, m, bytes⟩

structure V3Books (P M D T : Type) where
  world : V3World P M D T
  owned : List (Held P M)
  sent : List (Held P M)

section
variable [DecidableEq P] [DecidableEq M]

/-- One call, and its entry: an allocation that succeeds brings the handles in its out parameters, a
release takes the output to the tokens and the input away. -/
def booksStep (s : V3Books P M D T) : V3Event P M D T → Option (V3Books P M D T)
  | .allocate a ppInBuf ppOutBuf pInData nDataLen => do
    let (ret, world) ← svpAllocateSecureBuffersV3ImplDefault a s.world ppInBuf ppOutBuf pInData nDataLen
    let got := if ret = 0 then [] else (outParams ppInBuf ppOutBuf).filterMap world.handle
    some { s with world, owned := got ++ s.owned }
  | .release a memoryFree tokenSize pInBuf pOutBuf pDataOut nDataOutMax => do
    let (_, world) ←
      svpReleaseSecureBuffersV3ImplDefault a memoryFree tokenSize s.world pInBuf pOutBuf pDataOut nDataOutMax
    some {
      world
      owned := (s.owned.filter fun h => some h.p ≠ pOutBuf).filter fun h => some h.p ≠ pInBuf
      sent := (s.owned.filter fun h => some h.p = pOutBuf) ++ s.sent }

/-- The platform's `malloc`s succeed with fresh structs, its memory allocations are fresh or fail, its frees
succeed; the caller names two different variables and data that it can be read for; it releases handles
it owns, not one of them twice, and a release that copies has the token's storage and room for the token. -/
def V3Legal (s : V3Books P M D T) : V3Event P M D T → Prop
  | .allocate a ppInBuf ppOutBuf pInData nDataLen =>
    V3Fresh a s.world ppInBuf ppOutBuf ∧ (∀ m, a.memoryFree m = true) ∧ (∀ slot ∈ ppInBuf, ppOutBuf ≠ some slot) ∧
      ∀ data ∈ pInData, nDataLen ≤ data.length
  | .release a memoryFree tokenSize pInBuf pOutBuf pDataOut nDataOutMax =>
    (∀ m, memoryFree m = true) ∧ (∀ p ∈ pInBuf, p ∉ pOutBuf) ∧
      (∀ p, p ∈ pInBuf ∨ p ∈ pOutBuf → p ∈ s.owned.map Held.p) ∧ CopyFits a tokenSize pDataOut nDataOutMax

/-- Empty heaps and no handle. -/
def booksStart : V3Books P M D T := ⟨⟨fun _ => none, fun _ => none, fun _ => none, []⟩, [], []⟩

/-- The structs whose memory was given to `svp_buffer_to_token`. -/
def tokenised (calls : List (V3Call P M D T)) : List P := calls.filterMap fun
  | .token (.bufferToToken pOutBuf _ _) => pOutBuf
  | _ => none

omit [DecidableEq P] [DecidableEq M] in
theorem tokenised_append (calls calls' : List (V3Call P M D T)) :
    tokenised (calls ++ calls') = tokenised calls ++ tokenised calls' := by
  simp [tokenised]

/-- The live structs are those of the owned handles, each with its own memory; the live memories are
theirs and those sent, each as its allocation left it. On the ledgers of what was obtained and freed
nothing else is live, and what was sent is what was given to `svp_buffer_to_token`. -/
structure V3Kept (s : V3Books P M D T) : Prop where
  structs : ∀ h ∈ s.owned, s.world.structs h.p = some ⟨h.bytes.length, some h.m⟩
  structsElse : ∀ p ∉ s.owned.map Held.p, s.world.structs p = none
  memory : ∀ h ∈ s.owned ++ s.sent, s.world.memory h.m = some h.bytes
  memoryElse : ∀ m ∉ (s.owned ++ s.sent).map Held.m, s.world.memory m = none
  ownStruct : (s.owned.map Held.p).Nodup
  ownMemory : ((s.owned ++ s.sent).map Held.m).Nodup
  ledgerP : ∃ live, follow [] (structActs s.world.calls) = some live ∧ live.Perm (s.owned.map Held.p)
  ledgerM : ∃ live, follow [] (memoryActs s.world.calls) = some live ∧ live.Perm ((s.owned ++ s.sent).map Held.m)
  sent : (tokenised s.world.calls).Perm (s.sent.map Held.p)

/-! ## What an allocation calls -/

/-- Between the two states only calls with the property are made. -/
def Makes (L : V3Call P M D T → Prop) (w w' : V3World P M D T) : Prop :=
  ∃ new, w'.calls = w.calls ++ new ∧ ∀ c ∈ new, L c

/-- A call of the allocator, which obtains memory only from the answers `got`. -/
def AllocatorCall (got : M → Prop) : V3Call P M D T → Prop
  | .memoryAlloc _ m => ∀ m' ∈ m, got m'
  | .token _ => False
  | _ => True

section
variable {L : V3Call P M D T → Prop} {w w1 w2 w' : V3World P M D T} {got : M → Prop}

omit [DecidableEq P] [DecidableEq M] in
theorem Makes.refl (w : V3World P M D T) : Makes L w w := ⟨[], by simp, by simp⟩

omit [DecidableEq P] [DecidableEq M] in
theorem Makes.trans (h1 : Makes L w w1) (h2 : Makes L w1 w2) : Makes L w w2 := by
  obtain ⟨new1, hc1, hl1⟩ := h1
  obtain ⟨new2, hc2, hl2⟩ := h2
  refine ⟨new1 ++ new2, by rw [hc2, hc1, List.append_assoc], ?_⟩
  intro c hc
  exact (List.mem_append.1 hc).elim (hl1 c) (hl2 c)

theorem allocateV3Memory_makes {a : V3MemoryAnswers P M} {buffer : Option Slot} {n : Nat} {ok : Bool}
    (hgot : ∀ slot ∈ buffer, ∀ m ∈ a.memoryAlloc, got m) (h : allocateV3Memory a w buffer n = some (ok, w')) :
    Makes (AllocatorCall got) w w' := by
  cases buffer with
  | none =>
    obtain ⟨-, rfl⟩ := Prod.mk.inj (Option.some.inj h)
    exact Makes.refl w
  | some slot =>
    obtain ⟨p, -, ⟨-, -, rfl⟩ | ⟨m, hm, -, rfl⟩⟩ := allocateV3Memory_cases h
    · exact ⟨_, rfl, by simp [AllocatorCall]⟩
    · exact ⟨_, rfl, by simp [AllocatorCall, hgot slot rfl m hm]⟩

theorem freeV3Memory_makes {memoryFree : M → Bool} {buffer : Option Slot}
    (h : freeV3Memory memoryFree w buffer = some w') : Makes (AllocatorCall got) w w' := by
  obtain ⟨-, rfl⟩ | ⟨slot, p, m, -, -, rfl⟩ := freeV3Memory_cases h
  · exact Makes.refl _
  · exact ⟨_, rfl, by simp [AllocatorCall]⟩

/-- The two frees of a failing exit. -/
theorem freeBoth_makes {memoryFree : M → Bool} {b b' : Option Slot} {r r' : UInt32}
    (h : (do
      let w1 ← freeV3Memory memoryFree w b
      let w2 ← freeV3Memory memoryFree w1 b'
      some (r, w2)) = some (r', w')) : Makes (AllocatorCall got) w w' := by
  simp only [Option.bind_eq_bind, Option.bind_eq_some_iff] at h
  obtain ⟨w1, h1, w2, h2, h⟩ := h
  obtain ⟨-, rfl⟩ : r = r' ∧ w2 = w' := Prod.mk.inj (Option.some.inj h)
  exact (freeV3Memory_makes h1).trans (freeV3Memory_makes h2)

theorem fillInBufV3_makes {a : V3AllocateAnswers P M D} {ppInBuf ppOutBuf : Option Slot} {data : List UInt8}
    {n : Nat} {ret : UInt32} (h : fillInBufV3 a w ppInBuf ppOutBuf data n = some (ret, w')) :
    Makes (AllocatorCall got) w w' := by
  unfold fillInBufV3 at h
  simp only [Option.bind_eq_bind, Option.bind_eq_some_iff] at h
  obtain ⟨p, -, buf, -, m, -, h⟩ := h
  rcases hd : a.bufferCreate with _ | d <;> rw [hd] at h
  · have hcreate : Makes (AllocatorCall got) w { w with calls := w.calls ++ [.bufferCreate m buf.size none] } :=
      ⟨_, rfl, by simp [AllocatorCall]⟩
    exact hcreate.trans (freeBoth_makes h)
  · simp only [Option.bind_eq_some_iff] at h
    obtain ⟨bytes, -, h⟩ := h
    have hcreate : ∀ memory, Makes (AllocatorCall got) w { w with
        memory := memory
        calls := w.calls ++ [.bufferCreate m buf.size (some d)] ++ [.bufferWrite d bytes a.bufferWrite] } :=
      fun _ => ⟨_, List.append_assoc .., by simp [AllocatorCall]⟩
    split at h
    · simp only [Option.bind_eq_some_iff] at h
      obtain ⟨contents, -, contents', -, h⟩ := h
      obtain ⟨-, rfl⟩ : 1 = ret ∧ _ = w' := Prod.mk.inj (Option.some.inj h)
      exact hcreate _
    · exact (hcreate w.memory).trans (freeBoth_makes h)

theorem allocateInBufV3_makes {a : V3AllocateAnswers P M D} {ppInBuf ppOutBuf : Option Slot}
    {pInData : Option (List UInt8)} {n : Nat} {ret : UInt32} (hgot : ∀ slot ∈ ppInBuf, ∀ m ∈ a.inp.memoryAlloc, got m)
    (h : allocateInBufV3 a w ppInBuf ppOutBuf pInData n = some (ret, w')) : Makes (AllocatorCall got) w w' := by
  unfold allocateInBufV3 at h
  cases ppInBuf with
  | none =>
    obtain ⟨-, rfl⟩ := Prod.mk.inj (Option.some.inj h)
    exact Makes.refl w
  | some slot =>
    simp only [Option.bind_eq_bind, Option.bind_eq_some_iff] at h
    obtain ⟨⟨ok, w1⟩, h1, h⟩ := h
    have hin : Makes (AllocatorCall got) w w1 := allocateV3Memory_makes hgot h1
    split at h
    · simp only [Option.bind_eq_some_iff] at h
      obtain ⟨w2, h2, h⟩ := h
      obtain ⟨-, rfl⟩ : 0 = ret ∧ w2 = w' := Prod.mk.inj (Option.some.inj h)
      exact hin.trans (freeV3Memory_makes h2)
    · cases pInData with
      | none =>
        obtain ⟨-, rfl⟩ : 1 = ret ∧ w1 = w' := Prod.mk.inj (Option.some.inj h)
        exact hin
      | some data => exact hin.trans (fillInBufV3_makes h)

/-- The allocator obtains what the platform answered to a request that was made, and uses no token. -/
theorem svp_allocate_v3_makes {a : V3AllocateAnswers P M D} {ppInBuf ppOutBuf : Option Slot}
    {pInData : Option (List UInt8)} {n : Nat} {ret : UInt32}
    (hout : ∀ slot ∈ ppOutBuf, ∀ m ∈ a.out.memoryAlloc, got m)
    (hinp : a.ReachesIn ppInBuf ppOutBuf → ∀ m ∈ a.inp.memoryAlloc, got m)
    (h : svpAllocateSecureBuffersV3ImplDefault a w ppInBuf ppOutBuf pInData n = some (ret, w')) :
    Makes (AllocatorCall got) w w' := by
  simp only [svpAllocateSecureBuffersV3ImplDefault, Option.bind_eq_bind, Option.bind_eq_some_iff] at h
  obtain ⟨⟨ok, w1⟩, h1, h⟩ := h
  have hfirst : Makes (AllocatorCall got) w w1 := by
    cases ppOutBuf with
    | none =>
      obtain ⟨-, rfl⟩ := Prod.mk.inj (Option.some.inj h1)
      exact Makes.refl w
    | some slot => exact allocateV3Memory_makes hout h1
  have hok := (allocateOutBufV3_creates h1).1
  cases ok with
  | false =>
    obtain ⟨-, rfl⟩ : 0 = ret ∧ w1 = w' := Prod.mk.inj (Option.some.inj h)
    exact hfirst
  | true =>
    refine hfirst.trans (allocateInBufV3_makes (fun slot hs => hinp ⟨?_, Option.isSome_of_mem hs⟩) h)
    intro hsome
    cases ppOutBuf with
    | none => cases hsome
    | some so => exact hok.symm

omit [DecidableEq P] [DecidableEq M] in
theorem AllocatorCall.acquired {new : List (V3Call P M D T)} (h : ∀ c ∈ new, AllocatorCall got c) :
    ∀ m ∈ acquired (memoryActs new), got m := by
  induction new with
  | nil => simp [memoryActs]
  | cons c new ih =>
    rw [← List.singleton_append, memoryActs_append, acquired_append]
    intro m hm
    rcases List.mem_append.1 hm with hm | hm
    · have hc := h c List.mem_cons_self
      cases c with
      | memoryAlloc size m' =>
        cases m' with
        | none => simp [memoryActs] at hm
        | some m' =>
          simp only [memoryActs, List.filterMap_cons, List.filterMap_nil, acquired_acquire, acquired_nil,
            List.mem_singleton] at hm
          exact hc m (by rw [hm]; rfl)
      | malloc p => cases p <;> simp [memoryActs] at hm
      | free p => cases p <;> simp [memoryActs] at hm
      | _ => simp [memoryActs] at hm
    · exact ih (fun c hc => h c (List.mem_cons_of_mem _ hc)) m hm

omit [DecidableEq P] [DecidableEq M] in
theorem AllocatorCall.tokenised {new : List (V3Call P M D T)} (h : ∀ c ∈ new, AllocatorCall got c) :
    tokenised new = [] := by
  rw [GstSvpExt.tokenised, List.filterMap_eq_nil_iff]
  intro c hc
  have hl := h c hc
  cases c with
  | token => exact hl.elim
  | _ => rfl

end

/-! ## Keeping the books -/

section
variable {s : V3Books P M D T} {w' : V3World P M D T}

theorem booksStart_kept : V3Kept (booksStart : V3Books P M D T) := by
  constructor
  case ledgerP => exact ⟨[], rfl, List.Perm.nil⟩
  case ledgerM => exact ⟨[], rfl, List.Perm.nil⟩
  all_goals simp [booksStart, tokenised]

omit [DecidableEq M] in
/-- One owned handle apart from the others. -/
theorem held_perm {owned : List (Held P M)} (hn : (owned.map Held.p).Nodup) {k : Held P M} (hk : k ∈ owned) :
    owned.Perm (k :: owned.filter fun h => some h.p ≠ some k.p) := by
  induction owned with
  | nil => cases hk
  | cons h owned ih =>
    rw [List.map_cons, List.nodup_cons] at hn
    rcases List.mem_cons.1 hk with rfl | hk
    · rw [List.filter_cons_of_neg (by simp), List.filter_eq_self.2]
      intro h' hh'
      have hne : h'.p ≠ k.p := fun e => hn.1 (e ▸ List.mem_map_of_mem hh')
      simpa using hne
    · have hne : h.p ≠ k.p := fun e => hn.1 (e ▸ List.mem_map_of_mem hk)
      rw [List.filter_cons_of_pos (by simpa using hne)]
      exact ((ih hn.2 hk).cons h).trans (List.Perm.swap ..)

omit [DecidableEq M] in
/-- The handles with a struct are one handle. -/
theorem held_filter {owned : List (Held P M)} (hn : (owned.map Held.p).Nodup) {k : Held P M} (hk : k ∈ owned) :
    (owned.filter fun h => some h.p = some k.p) = [k] := by
  have hp := (held_perm hn hk).filter fun h => some h.p = some k.p
  have hnone : ((owned.filter fun h => some h.p ≠ some k.p).filter fun h => some h.p = some k.p) = [] := by
    rw [List.filter_eq_nil_iff]
    intro h hh
    simpa using (List.mem_filter.1 hh).2
  rw [List.filter_cons_of_pos (by simp), hnone] at hp
  exact List.perm_singleton.1 hp

/-- New handles, obtained from platform answers that were fresh. -/
theorem V3Kept.hold {new : List (V3Call P M D T)} {n : Nat} {held : List (Held P M)} {gotP : List P} {gotM : List M}
    (h : V3Kept s) (hh : Holding s.world w' new n held gotP gotM) (hP : ∀ p ∈ gotP, s.world.structs p = none)
    (hM : ∀ m ∈ gotM, s.world.memory m = none) (ht : tokenised new = []) :
    V3Kept { s with world := w', owned := held ++ s.owned } := by
  have hPowned : ∀ p, s.world.structs p = none → p ∉ s.owned.map Held.p := by
    intro p hp hin
    obtain ⟨k, hk, rfl⟩ := List.mem_map.1 hin
    rw [h.structs k hk] at hp
    cases hp
  have hMowned : ∀ m, s.world.memory m = none → m ∉ (s.owned ++ s.sent).map Held.m := by
    intro m hm hin
    obtain ⟨k, hk, rfl⟩ := List.mem_map.1 hin
    rw [h.memory k hk] at hm
    cases hm
  constructor
  case structs =>
    intro k hk
    rcases List.mem_append.1 hk with hk | hk
    · rw [(hh.structs k hk).1, (hh.memory k hk).2.1]
    · rw [hh.structsElse, h.structs k hk]
      intro j hj e
      exact hPowned j.p (hh.structs j hj).2 (e ▸ List.mem_map_of_mem hk)
  case structsElse =>
    intro p hp
    rw [List.map_append, List.mem_append, not_or] at hp
    rw [hh.structsElse p fun k hk e => hp.1 (e ▸ List.mem_map_of_mem hk)]
    exact h.structsElse p hp.2
  case memory =>
    intro k hk
    rw [List.append_assoc, List.mem_append] at hk
    rcases hk with hk | hk
    · exact (hh.memory k hk).1
    · rw [hh.memoryElse, h.memory k hk]
      intro j hj e
      exact hMowned j.m (hh.memory j hj).2.2 (e ▸ List.mem_map_of_mem hk)
  case memoryElse =>
    intro m hm
    rw [List.append_assoc, List.map_append, List.mem_append, not_or] at hm
    rw [hh.memoryElse m fun k hk e => hm.1 (e ▸ List.mem_map_of_mem hk)]
    exact h.memoryElse m hm.2
  case ownStruct =>
    rw [List.map_append, List.nodup_append]
    refine ⟨List.pairwise_map.2 (hh.distinct.imp fun hd => hd.2.1), h.ownStruct, ?_⟩
    rintro p hp q hq rfl
    obtain ⟨k, hk, rfl⟩ := List.mem_map.1 hp
    exact hPowned k.p (hh.structs k hk).2 hq
  case ownMemory =>
    rw [List.append_assoc, List.map_append, List.nodup_append]
    refine ⟨List.pairwise_map.2 (hh.distinct.imp fun hd => hd.2.2), h.ownMemory, ?_⟩
    rintro m hm q hq rfl
    obtain ⟨k, hk, rfl⟩ := List.mem_map.1 hm
    exact hMowned k.m (hh.memory k hk).2.2 hq
  case ledgerP =>
    rw [hh.calls, structActs_append, List.map_append]
    exact owned_append h.ledgerP hh.ledgerP fun p hp => hPowned p (hP p (hh.gotP ▸ hp))
  case ledgerM =>
    rw [hh.calls, memoryActs_append, List.append_assoc, List.map_append]
    exact owned_append h.ledgerM hh.ledgerM fun m hm => hMowned m (hM m (hh.gotM ▸ hm))
  case sent =>
    have hcalls : tokenised w'.calls = tokenised s.world.calls := by
      rw [hh.calls, tokenised_append, ht, List.append_nil]
    rw [hcalls]
    exact h.sent

/-- A handle leaves the books when its struct is freed, whatever becomes of its memory. -/
theorem V3Kept.drop_struct {k : Held P M} (h : V3Kept s) (hk : k ∈ s.owned) :
    (∀ j ∈ s.owned.filter fun h => some h.p ≠ some k.p,
        Function.update s.world.structs k.p none j.p = some ⟨j.bytes.length, some j.m⟩) ∧
      (∀ p ∉ (s.owned.filter fun h => some h.p ≠ some k.p).map Held.p,
        Function.update s.world.structs k.p none p = none) ∧
      ((s.owned.filter fun h => some h.p ≠ some k.p).map Held.p).Nodup ∧
      ∃ live, follow [] (structActs s.world.calls ++ [.release k.p]) = some live ∧
        live.Perm ((s.owned.filter fun h => some h.p ≠ some k.p).map Held.p) := by
  have hperm := (held_perm h.ownStruct hk).map Held.p
  refine ⟨?_, ?_, h.ownStruct.sublist (List.filter_sublist.map Held.p), ?_⟩
  · intro j hj
    obtain ⟨hj, hne⟩ := List.mem_filter.1 hj
    have hne : j.p ≠ k.p := by simpa using hne
    rw [Function.update_of_ne hne, h.structs j hj]
  · intro p hp
    by_cases hpk : p = k.p
    · rw [hpk, Function.update_self]
    · rw [Function.update_of_ne hpk]
      refine h.structsElse p ?_
      rw [hperm.mem_iff, List.map_cons, List.mem_cons, not_or]
      exact ⟨hpk, hp⟩
  · obtain ⟨live, hf, hl⟩ := h.ledgerP
    exact owned_release ⟨live, hf, hl.trans hperm⟩

omit [DecidableEq P] [DecidableEq M] in
/-- The output's part of a release frees no memory, and gives the output's to the token. -/
theorem releaseOut_memory (a : TokenAnswers T) (tokenSize : Nat) (pOutBuf : Option P) (pDataOut : Option Nat) :
    memoryActs (releaseOutCalls a tokenSize pOutBuf pDataOut : List (V3Call P M D T)) = [] ∧
      tokenised (releaseOutCalls a tokenSize pOutBuf pDataOut : List (V3Call P M D T)) = pOutBuf.toList := by
  cases pOutBuf <;> cases pDataOut <;> exact ⟨rfl, rfl⟩

/-- The output's memory goes to the token with its contents; its struct is freed. -/
theorem V3Kept.send {k : Held P M} (h : V3Kept s) (hk : k ∈ s.owned) {a : TokenAnswers T} {tokenSize : Nat}
    {pInBuf : Option P} {pDataOut : Option Nat}
    (hr : releaseOutBufV3 a tokenSize s.world pInBuf (some k.p) pDataOut = some w') :
    V3Kept {
      world := w'
      owned := s.owned.filter fun h => some h.p ≠ some k.p
      sent := k :: s.sent } := by
  have hperm := held_perm h.ownStruct hk
  obtain ⟨hstructs, hstructsElse, hown, hledger⟩ := h.drop_struct hk
  have hboth : ((s.owned.filter fun h => some h.p ≠ some k.p) ++ k :: s.sent).Perm (s.owned ++ s.sent) :=
    List.perm_middle.trans (hperm.symm.append_right s.sent)
  have hmemory := hboth.map Held.m
  obtain ⟨-, rfl⟩ := releaseOutBufV3_eq_some.1 hr
  obtain ⟨hM, ht⟩ := releaseOut_memory (M := M) (D := D) a tokenSize (some k.p) pDataOut
  constructor
  case structs => exact hstructs
  case structsElse => exact hstructsElse
  case memory => exact fun j hj => h.memory j (hboth.mem_iff.1 hj)
  case memoryElse => exact fun m hm => h.memoryElse m fun hin => hm (hmemory.mem_iff.2 hin)
  case ownStruct => exact hown
  case ownMemory => exact hmemory.nodup_iff.2 h.ownMemory
  case ledgerP =>
    rw [structActs_append, structActs_releaseOut]
    exact hledger
  case ledgerM =>
    rw [memoryActs_append, hM, List.append_nil]
    obtain ⟨live, hf, hl⟩ := h.ledgerM
    exact ⟨live, hf, hl.trans hmemory.symm⟩
  case sent =>
    rw [tokenised_append, ht, List.map_cons]
    exact (List.perm_append_singleton ..).trans (h.sent.cons k.p)

/-- Without an output only the token storage is used. -/
theorem V3Kept.send_none (h : V3Kept s) {a : TokenAnswers T} {tokenSize : Nat} {pInBuf : Option P}
    {pDataOut : Option Nat} (hr : releaseOutBufV3 a tokenSize s.world pInBuf none pDataOut = some w') :
    V3Kept { s with world := w' } := by
  obtain ⟨-, rfl⟩ := releaseOutBufV3_eq_some.1 hr
  obtain ⟨hM, ht⟩ := releaseOut_memory (P := P) (M := M) (D := D) a tokenSize none pDataOut
  constructor
  case structs => exact h.structs
  case structsElse => exact h.structsElse
  case memory => exact h.memory
  case memoryElse => exact h.memoryElse
  case ownStruct => exact h.ownStruct
  case ownMemory => exact h.ownMemory
  case ledgerP =>
    rw [structActs_append, structActs_releaseOut]
    exact (List.append_nil (structActs s.world.calls)).symm ▸ h.ledgerP
  case ledgerM =>
    rw [memoryActs_append, hM, List.append_nil]
    exact h.ledgerM
  case sent =>
    rw [tokenised_append, ht]
    exact (List.append_nil (tokenised s.world.calls)).symm ▸ h.sent

/-- The input's memory and struct are freed. -/
theorem V3Kept.free {k : Held P M} (h : V3Kept s) (hk : k ∈ s.owned) {memoryFree : M → Bool}
    (hfree : memoryFree k.m = true) {slot : Slot} (hslot : s.world.slots slot = some k.p) :
    ∃ world, freeV3Memory memoryFree s.world (some slot) = some world ∧
      V3Kept { s with world, owned := s.owned.filter fun h => some h.p ≠ some k.p } := by
  have hperm := held_perm h.ownStruct hk
  have hmemory : ((s.owned ++ s.sent).map Held.m).Perm
      (k.m :: ((s.owned.filter fun h => some h.p ≠ some k.p) ++ s.sent).map Held.m) :=
    (hperm.append_right s.sent).map Held.m
  have hnd := List.nodup_cons.1 (hmemory.nodup_iff.1 h.ownMemory)
  obtain ⟨hstructs, hstructsElse, hown, hledger⟩ := h.drop_struct hk
  refine ⟨_, freeV3Memory_done hslot (h.structs k hk), ?_⟩
  constructor
  case structs => exact hstructs
  case structsElse => exact hstructsElse
  case memory =>
    intro j hj
    have hne : j.m ≠ k.m := fun e => hnd.1 (e ▸ List.mem_map_of_mem hj)
    have hin : j ∈ s.owned ++ s.sent :=
      (List.mem_append.1 hj).elim (fun hj => List.mem_append_left _ (List.mem_filter.1 hj).1) (List.mem_append_right _)
    simp only [hfree, if_true]
    rw [Function.update_of_ne hne, h.memory j hin]
  case memoryElse =>
    intro m hm
    simp only [hfree, if_true]
    by_cases hmk : m = k.m
    · exact hmk ▸ Function.update_self ..
    · rw [Function.update_of_ne hmk]
      refine h.memoryElse m ?_
      rw [hmemory.mem_iff, List.mem_cons, not_or]
      exact ⟨hmk, hm⟩
  case ownStruct => exact hown
  case ownMemory => exact hnd.2
  case ledgerP =>
    rw [structActs_append]
    exact hledger
  case ledgerM =>
    rw [memoryActs_append]
    obtain ⟨live, hf, hl⟩ := h.ledgerM
    exact owned_release ⟨live, hf, hl.trans hmemory⟩
  case sent =>
    rw [tokenised_append]
    exact (List.append_nil (tokenised s.world.calls)).symm ▸ h.sent

/-! ## One call -/

omit [DecidableEq P] [DecidableEq M] in
/-- The variable of a held buffer has its handle in it. -/
theorem Holding.handle {w : V3World P M D T} {new : List (V3Call P M D T)} {n : Nat} {held : List (Held P M)}
    {gotP : List P} {gotM : List M} [DecidableEq P] [DecidableEq M] (h : Holding w w' new n held gotP gotM)
    {k : Held P M} (hk : k ∈ held) : w'.handle k.slot = some k := by
  simp [V3World.handle, h.slots k hk, (h.structs k hk).1, (h.memory k hk).1]

theorem V3Kept.allocate {a : V3AllocateAnswers P M D} {ppInBuf ppOutBuf : Option Slot}
    {pInData : Option (List UInt8)} {n : Nat} (h : V3Kept s)
    (hl : V3Legal s (.allocate a ppInBuf ppOutBuf pInData n)) :
    ∃ s', booksStep s (.allocate a ppInBuf ppOutBuf pInData n) = some s' ∧ V3Kept s' := by
  obtain ⟨hfresh, hfree, hslots, hdata⟩ := hl
  obtain ⟨w', ret, new, gotM, hexit⟩ := allocate_exit hfresh hfree hslots hdata
  have hstep : booksStep s (.allocate a ppInBuf ppOutBuf pInData n) = some { s with
      world := w'
      owned := (if ret = 0 then [] else (outParams ppInBuf ppOutBuf).filterMap w'.handle) ++ s.owned } := by
    simp [booksStep, hexit.run]
  refine ⟨_, hstep, ?_⟩
  -- what the allocator obtained was fresh, and it used no token
  have hmakes : Makes (AllocatorCall fun m => s.world.memory m = none) s.world w' :=
    svp_allocate_v3_makes (fun slot hs => (hfresh.out (Option.isSome_of_mem hs)).memoryAlloc)
      (fun hin => (hfresh.inp hin).memoryAlloc) hexit.run
  obtain ⟨made, hcalls, hmade⟩ := hmakes
  have hP := hfresh.structs.2
  rcases hexit.held with ⟨rfl, ki, ko, rfl, rfl, -, hh⟩ | ⟨rfl, hh⟩
  · obtain rfl : made = new := List.append_cancel_left (hcalls.symm.trans hh.calls)
    have hgot : (outParams (ki.map Held.slot) (ko.map Held.slot)).filterMap w'.handle = ki.toList ++ ko.toList := by
      have hi : ∀ k ∈ ki, w'.handle k.slot = some k := fun k hk =>
        hh.handle (List.mem_append_left _ (Option.mem_toList.2 hk))
      have ho : ∀ k ∈ ko, w'.handle k.slot = some k := fun k hk =>
        hh.handle (List.mem_append_right _ (Option.mem_toList.2 hk))
      cases ki <;> cases ko <;> simp_all [outParams]
    rw [if_neg (by decide), hgot]
    exact h.hold hh hP (hh.gotM ▸ AllocatorCall.acquired hmade) (AllocatorCall.tokenised hmade)
  · obtain rfl : made = new := List.append_cancel_left (hcalls.symm.trans hh.calls)
    rw [if_pos rfl]
    exact h.hold hh hP (hh.gotM ▸ AllocatorCall.acquired hmade) (AllocatorCall.tokenised hmade)

/-- The output's part of a release. -/
theorem V3Kept.release_out (h : V3Kept s) {a : TokenAnswers T} {tokenSize : Nat} {pInBuf pOutBuf : Option P}
    {pDataOut : Option Nat} (hown : ∀ p ∈ pOutBuf, p ∈ s.owned.map Held.p)
    (hr : releaseOutBufV3 a tokenSize s.world pInBuf pOutBuf pDataOut = some w') :
    V3Kept {
      world := w'
      owned := s.owned.filter fun h => some h.p ≠ pOutBuf
      sent := (s.owned.filter fun h => some h.p = pOutBuf) ++ s.sent } := by
  cases pOutBuf with
  | none =>
    have hall : (s.owned.filter fun h => some h.p ≠ none) = s.owned := List.filter_eq_self.2 (by simp)
    have hnone : (s.owned.filter fun h => some h.p = none) = [] := List.filter_eq_nil_iff.2 (by simp)
    rw [hall, hnone]
    exact h.send_none hr
  | some p =>
    obtain ⟨k, hk, rfl⟩ := List.mem_map.1 (hown p rfl)
    rw [held_filter h.ownStruct hk]
    exact h.send hk hr

theorem V3Kept.release {a : TokenAnswers T} {memoryFree : M → Bool} {tokenSize : Nat} {pInBuf pOutBuf : Option P}
    {pDataOut : Option Nat} {nDataOutMax : Nat} (h : V3Kept s)
    (hl : V3Legal s (.release a memoryFree tokenSize pInBuf pOutBuf pDataOut nDataOutMax : V3Event P M D T)) :
    ∃ s', booksStep s (.release a memoryFree tokenSize pInBuf pOutBuf pDataOut nDataOutMax) = some s' ∧
      V3Kept s' := by
  obtain ⟨hfree, hne, hown, hcopy⟩ := hl
  obtain ⟨w1, h1⟩ : ∃ w1, releaseOutBufV3 a tokenSize s.world pInBuf pOutBuf pDataOut = some w1 :=
    ⟨_, releaseOutBufV3_eq_some.2 ⟨hcopy.1, rfl⟩⟩
  have hout := h.release_out (fun p hp => hown p (Or.inr hp)) h1
  cases pInBuf with
  | none =>
    have hrun : svpReleaseSecureBuffersV3ImplDefault a memoryFree tokenSize s.world none pOutBuf pDataOut
        nDataOutMax = some (0, w1) := release_v3_eq_some.2 ⟨rfl, w1, h1, rfl⟩
    refine ⟨_, by rw [booksStep, hrun]; rfl, ?_⟩
    have hall : ∀ l : List (Held P M), (l.filter fun h => some h.p ≠ none) = l :=
      fun l => List.filter_eq_self.2 (by simp)
    rw [hall]
    exact hout
  | some p =>
    obtain ⟨k, hk, rfl⟩ := List.mem_map.1 (hown p (Or.inl rfl))
    have hkout : k ∈ s.owned.filter fun h => some h.p ≠ pOutBuf :=
      List.mem_filter.2 ⟨hk, decide_eq_true fun e => hne k.p rfl e.symm⟩
    obtain ⟨-, -, -, -, hslot⟩ := releaseOut_frees h1
    obtain ⟨world, hfreed, hkept⟩ := hout.free hkout (hfree k.m) hslot
    have hrun : svpReleaseSecureBuffersV3ImplDefault a memoryFree tokenSize s.world (some k.p) pOutBuf pDataOut
        nDataOutMax = some (0, world) := release_v3_eq_some.2 ⟨rfl, w1, h1, hfreed⟩
    exact ⟨_, by rw [booksStep, hrun]; rfl, hkept⟩

/-- **Custody.** However allocations and releases follow each other, each of them runs, and the books
are right after it: every live struct and memory is in the books, handles never share one, what is in
custody still has the contents its allocation left, and each memory obtained was freed once, is owned or
was sent. -/
theorem v3_custody (es : List (V3Event P M D T)) (hl : Along booksStep V3Legal booksStart es) :
    ∃ s, run booksStep (booksStart : V3Books P M D T) es = some s ∧ V3Kept s := by
  refine run_total (I := V3Kept) ?_ booksStart_kept hl
  intro s e hkept hlegal
  cases e with
  | allocate a ppInBuf ppOutBuf pInData n => exact hkept.allocate hlegal
  | release a memoryFree tokenSize pInBuf pOutBuf pDataOut nDataOutMax => exact hkept.release hlegal

end

end

/-- Two buffers with data, both released. -/
theorem v3_custody_released :
    ∃ s, run booksStep (booksStart : V3Books Nat Nat Nat Nat)
        [.allocate ⟨⟨some 1, some 11, fun _ => 0⟩, ⟨some 2, some 12, fun _ => 0⟩, some 5, true, fun _ => true⟩
            (some (.caller 0)) (some (.caller 1)) (some [7, 8]) 2,
          .release ⟨some 7, true⟩ (fun _ => true) 8 (some 2) (some 1) (some 0) 8] = some s ∧ V3Kept s := by
  refine v3_custody _ ⟨⟨⟨?_, ?_, ?_⟩, fun _ => rfl, by simp, by simp⟩, ?_⟩
  · exact fun _ => ⟨⟨1, rfl, rfl⟩, fun _ _ => rfl⟩
  · exact fun _ => ⟨⟨2, rfl, rfl⟩, fun _ _ => rfl⟩
  · exact fun _ _ => by simp
  · rintro s hs
    obtain rfl := Option.some.inj hs
    refine ⟨⟨fun _ => rfl, by simp, ?_, fun _ => Or.inr rfl, fun _ => Nat.le_refl 8⟩, fun _ _ => trivial⟩
    intro p hp
    change p ∈ [2, 1]
    simpa [eq_comm] using hp

end GstSvpExt
