import GstSvpExt.Ledger
import GstSvpExt.Runs
import GstSvpExt.SecapiV2

/-!
# Who owns a SecAPI v2 handle

A run of the v2 hooks by a caller that passes only handles it received and still owns. `secActs`
reads the recorded calls as acts on an ownership ledger. The allocator keeps the ledger in every
combination of answers but two (`allocate_ok`, `secCallOk_iff`): when the second `SecOpaqueBuffer_Malloc` fails
after the first succeeded, `pDataOut` is freed at `:63` and again at `:105`; and when both out
parameters are one variable, the second store at `:112` drops the input handle.
-/

namespace GstSvpExt

open Ledger

variable {H T : Type}

/-- The handles of a list of calls that came out of `SecOpaqueBuffer_Malloc` or went into
`SecOpaqueBuffer_Free`. -/
def secActs (calls : List (SecCall H T)) : List (Act H) := calls.filterMap fun
  | .malloc _ (some h) => some (.acquire h)
  | .free h => some (.release h)
  | _ => none

/-- Handles that `SecOpaqueBuffer_Malloc` returned. -/
def obtained (calls : List (SecCall H T)) : List H := acquired (secActs calls)

/-- Handles passed to `SecOpaqueBuffer_Free`. -/
def freed (calls : List (SecCall H T)) : List H := released (secActs calls)

@[simp] theorem secActs_append (c d : List (SecCall H T)) : secActs (c ++ d) = secActs c ++ secActs d := by
  simp [secActs]

@[simp] theorem secActs_nil : secActs ([] : List (SecCall H T)) = [] := rfl

@[simp] theorem secActs_malloc (n : Nat) (p : Option H) (c : List (SecCall H T)) :
    secActs (.malloc n p :: c) = p.toList.map .acquire ++ secActs c := by
  cases p <;> rfl

@[simp] theorem secActs_write (h : H) (n m : Nat) (d : Option (List UInt8)) (ok : Bool)
    (c : List (SecCall H T)) : secActs (.write h n d m ok :: c) = secActs c := rfl

/-- A call of one of the three hooks. -/
inductive SecOp (H T : Type)
  | allocate (a : AllocateAnswers H) (ppInBuf ppOutBuf : Option Nat) (pInData : Option (List UInt8))
      (nDataLen : Nat)
  | release (a : TokenAnswers T) (tokenSize : Nat) (pInBuf pOutBuf : Option H) (pDataOut : Option Nat)
      (nDataOutMax : Nat)
  | free (pContext : Option Nat) (pBuf : Option H)

/-- The world, and the handles that the caller received and has not given away. -/
structure SecState (H T : Type) where
  world : SecWorld H T
  owned : List H

/-- The handles an out parameter holds. -/
def slotHandles (slots : Nat → Option H) (pp : Option Nat) : List H := (pp.bind slots).toList

section
variable [DecidableEq H]

/-- One call: an allocation hands over what its out parameters hold, a release takes both buffers, a
free takes its buffer if it returns `TRUE`. -/
def secStep (s : SecState H T) : SecOp H T → Option (SecState H T)
  | .allocate a ppInBuf ppOutBuf pInData nDataLen =>
    let w := (svpAllocateSecureBuffersV2SecapiImpl a s.world ppInBuf ppOutBuf pInData nDataLen).2
    some ⟨w, slotHandles w.slots ppInBuf ++ slotHandles w.slots ppOutBuf ++ s.owned⟩
  | .release a tokenSize pInBuf pOutBuf pDataOut nDataOutMax => do
    let (_, w) ← svpReleaseSecureBuffersV2SecapiImpl a tokenSize s.world pInBuf pOutBuf pDataOut nDataOutMax
    some ⟨w, s.owned.filter fun h => some h ≠ pInBuf ∧ some h ≠ pOutBuf⟩
  | .free pContext pBuf =>
    let r := svpFreeSecureBufferV2SecapiImpl s.world pContext pBuf
    some ⟨r.2, if r.1 then s.owned.filter fun h => some h ≠ pBuf else s.owned⟩

/-- What the environment and the caller promise of one call: handles are fresh, and the caller
passes only what it owns. -/
def SecLegal (s : SecState H T) : SecOp H T → Prop
  | .allocate a _ _ _ _ =>
    (∀ h, a.mallocOut = some h → h ∉ obtained s.world.calls) ∧
    (∀ h, a.mallocIn = some h → h ∉ obtained s.world.calls ∧ a.mallocOut ≠ some h)
  | .release _ _ pInBuf pOutBuf _ _ =>
    (∀ h, pInBuf = some h → h ∈ s.owned) ∧ (∀ h, pOutBuf = some h → h ∈ s.owned)
  | .free _ pBuf => ∀ h, pBuf = some h → h ∈ s.owned

/-- The out parameter holds the handle. -/
def Holds (slots : Nat → Option H) (pp : Option Nat) (h : H) : Prop := ∃ p, pp = some p ∧ slots p = some h

/-- What the ledger promises of one call: no handle has been freed twice when it returns, and of an
allocation that no freed handle is in an out parameter and that every handle it obtained is in
exactly one out parameter and not freed, or freed once. -/
def SecCallOk (s : SecState H T) (op : SecOp H T) : Prop :=
  ∀ s', secStep s op = some s' →
    (∀ h, (freed s'.world.calls).count h ≤ 1) ∧
    match op with
    | .allocate a ppInBuf ppOutBuf pInData nDataLen =>
      (∀ h, Holds s'.world.slots ppInBuf h ∨ Holds s'.world.slots ppOutBuf h →
        h ∉ freed s'.world.calls) ∧
      ∀ h ∈ obtained (allocateLocalsV2 (T := T) a ppInBuf ppOutBuf pInData nDataLen).calls,
        (¬ (Holds s'.world.slots ppInBuf h ↔ Holds s'.world.slots ppOutBuf h) ∧
          h ∉ freed s'.world.calls) ∨
        (freed s'.world.calls).count h = 1
    | _ => True

/-- The condition on one call: not a failing input allocation after a successful output allocation,
and not one variable for both buffers in an allocation that succeeds. -/
def SecCallSound : SecOp H T → Prop
  | .allocate a ppInBuf ppOutBuf _ _ =>
    ¬ (ppOutBuf.isSome ∧ ppInBuf.isSome ∧ a.mallocOut.isSome ∧ a.mallocIn = none) ∧
    ¬ (ppInBuf = ppOutBuf ∧ ppInBuf.isSome ∧ a.mallocOut.isSome ∧ a.mallocIn.isSome ∧ a.write = true)
  | _ => True

end

/-! ## One allocation -/

@[simp] theorem secActs_freeIfSet (p : Option H) :
    secActs (freeIfSet p : List (SecCall H T)) = p.toList.map .release := by
  cases p <;> rfl

/-- Every requested allocation, and the write of a requested input buffer, succeeded. -/
def AllocateAnswers.AllDone (a : AllocateAnswers H) (ppInBuf ppOutBuf : Option Nat) : Prop :=
  (ppOutBuf.isSome → a.mallocOut.isSome) ∧ (ppInBuf.isSome → a.mallocIn.isSome ∧ a.write = true)

instance (a : AllocateAnswers H) (ppInBuf ppOutBuf : Option Nat) : Decidable (a.AllDone ppInBuf ppOutBuf) :=
  inferInstanceAs (Decidable (_ ∧ _))

/-- What the allocator stores: the requested handles if everything succeeded, otherwise `NULL`. -/
theorem allocate_stored (a : AllocateAnswers H) (ppInBuf ppOutBuf : Option Nat)
    (pInData : Option (List UInt8)) (nDataLen : Nat) :
    let l := allocateLocalsV2 (T := T) a ppInBuf ppOutBuf pInData nDataLen
    l.pDataIn = (if a.AllDone ppInBuf ppOutBuf ∧ ppInBuf.isSome then a.mallocIn else none) ∧
      l.pDataOut = (if a.AllDone ppInBuf ppOutBuf ∧ ppOutBuf.isSome then a.mallocOut else none) := by
  obtain ⟨mo, mi, wr⟩ := a
  cases ppOutBuf <;> cases ppInBuf <;> cases mo <;> cases mi <;> cases wr <;>
    simp [allocateLocalsV2, mallocOutV2, mallocInV2, writeInV2, AllocateAnswers.AllDone]

theorem obtained_writeInV2 (a : AllocateAnswers H) (pInData : Option (List UInt8)) (nDataIn : Nat)
    (l : AllocateLocals H T) : obtained (writeInV2 a pInData nDataIn l).calls = obtained l.calls := by
  have hfree : ∀ p : Option H, acquired (p.toList.map Act.release) = [] := fun p => by cases p <;> rfl
  unfold writeInV2
  split
  · split
    · split <;> simp [obtained, hfree]
    · rfl
  · simp [obtained, hfree]

/-- The handles an allocation obtains are among the answers of its two `SecOpaqueBuffer_Malloc`. -/
theorem obtained_allocate (a : AllocateAnswers H) (ppInBuf ppOutBuf : Option Nat)
    (pInData : Option (List UInt8)) (nDataLen : Nat) :
    (obtained (allocateLocalsV2 (T := T) a ppInBuf ppOutBuf pInData nDataLen).calls).Sublist
      (a.mallocOut.toList ++ a.mallocIn.toList) := by
  rw [allocateLocalsV2, obtained_writeInV2]
  obtain ⟨mo, mi, wr⟩ := a
  cases ppOutBuf <;> cases ppInBuf <;> cases mo <;> cases mi <;>
    simp [mallocOutV2, mallocInV2, obtained, secActs_freeIfSet]

/-- What an out parameter holds after an allocation is one of the two handles it stored. -/
theorem holds_storeSlot {slots : Nat → Option H} {ppInBuf ppOutBuf : Option Nat} {pIn pOut : Option H}
    {h : H} (hh : Holds (storeSlot (storeSlot slots ppInBuf pIn) ppOutBuf pOut) ppInBuf h ∨
      Holds (storeSlot (storeSlot slots ppInBuf pIn) ppOutBuf pOut) ppOutBuf h) :
    h ∈ pIn.toList ++ pOut.toList := by
  simp only [List.mem_append, Option.mem_toList]
  rcases hh with ⟨p, rfl, hp⟩ | ⟨p, rfl, hp⟩
  · cases ppOutBuf with
    | none => left; simpa [storeSlot] using hp
    | some q =>
      by_cases hq : p = q
      · right; subst hq; simpa [storeSlot] using hp
      · left; simpa [storeSlot, Function.update_of_ne hq] using hp
  · right; simpa [storeSlot] using hp

/-- Two distinct handles stored through two distinct variables are each in exactly one of them. -/
theorem held_once {slots : Nat → Option H} {ppInBuf ppOutBuf : Option Nat} {pIn pOut : Option H} {h : H}
    (hin : pIn.isSome → ppInBuf.isSome) (hout : pOut.isSome → ppOutBuf.isSome)
    (hne : ∀ h, pIn = some h → pOut ≠ some h) (hpp : ppInBuf.isSome → ppInBuf ≠ ppOutBuf)
    (hh : h ∈ pIn.toList ++ pOut.toList) :
    ¬ (Holds (storeSlot (storeSlot slots ppInBuf pIn) ppOutBuf pOut) ppInBuf h ↔
      Holds (storeSlot (storeSlot slots ppInBuf pIn) ppOutBuf pOut) ppOutBuf h) := by
  have hI : Holds (storeSlot (storeSlot slots ppInBuf pIn) ppOutBuf pOut) ppInBuf h ↔
      ppInBuf.isSome ∧ pIn = some h := by
    cases ppInBuf with
    | none => simp [Holds]
    | some p =>
      cases ppOutBuf with
      | none => simp [Holds, storeSlot]
      | some q =>
        have hpq : p ≠ q := fun e => hpp rfl (by rw [e])
        simp [Holds, storeSlot, Function.update_of_ne hpq]
  have hO : Holds (storeSlot (storeSlot slots ppInBuf pIn) ppOutBuf pOut) ppOutBuf h ↔
      ppOutBuf.isSome ∧ pOut = some h := by
    cases ppOutBuf <;> simp [Holds, storeSlot]
  rw [hI, hO]
  simp only [List.mem_append, Option.mem_toList] at hh
  rcases hh with hh | hh
  · intro hiff
    exact hne h hh (hiff.1 ⟨hin (by simp [hh]), hh⟩).2
  · intro hiff
    exact hne h (hiff.2 ⟨hout (by simp [hh]), hh⟩).2 hh

theorem mem_slotHandles {slots : Nat → Option H} {pp : Option Nat} {h : H} :
    h ∈ slotHandles slots pp ↔ Holds slots pp h := by
  cases pp <;> simp [slotHandles, Holds]

section
variable [DecidableEq H]

/-- Freeing what a local holds takes it off the front of the live list. -/
theorem follow_freeIfSet (p : Option H) (live : List H) :
    follow (p.toList ++ live) (secActs (freeIfSet p : List (SecCall H T))) = some live := by
  cases p <;> simp [follow, act]

/-- Between two blocks of the allocator: the ledger's live handles are the ones that the locals
hold, and none is held once a call has failed. -/
structure LocalsOk (l : AllocateLocals H T) : Prop where
  ledger : follow [] (secActs l.calls) = some (l.pDataIn.toList ++ l.pDataOut.toList)
  failed : l.secRes = false → l.pDataIn = none ∧ l.pDataOut = none

theorem mallocOutV2_ok (a : AllocateAnswers H) (ppOutBuf : Option Nat) (nDataIn : Nat) :
    LocalsOk (mallocOutV2 a ppOutBuf nDataIn : AllocateLocals H T) := by
  unfold mallocOutV2
  split
  · cases ho : a.mallocOut <;> constructor <;> simp [follow, act]
  · constructor <;> simp

theorem mallocInV2_ok {a : AllocateAnswers H} {ppInBuf : Option Nat} {nDataIn : Nat}
    {l : AllocateLocals H T} (hl : LocalsOk l) (hin : l.pDataIn = none)
    (hne : ∀ h, a.mallocIn = some h → l.pDataOut ≠ some h)
    (hok : l.secRes = true → ppInBuf.isSome → a.mallocIn = none → l.pDataOut = none) :
    LocalsOk (mallocInV2 a ppInBuf nDataIn l) := by
  unfold mallocInV2
  split
  · rename_i hc
    simp only [Bool.and_eq_true] at hc
    have hlive := hl.ledger
    rw [hin] at hlive
    split
    · rename_i h hm
      have hh : h ∉ l.pDataOut.toList := by
        simpa [Option.mem_toList] using hne h hm
      refine ⟨?_, fun hf => by simp [hc.1] at hf⟩
      rw [secActs_append, follow_append, hlive]
      simpa [follow, act] using hh
    · rename_i hm
      have hout := hok hc.1 hc.2 hm
      refine ⟨?_, fun _ => ⟨hin, hout⟩⟩
      simpa [hin, hout] using hlive
  · exact hl

theorem writeInV2_ok {a : AllocateAnswers H} {pInData : Option (List UInt8)} {nDataIn : Nat}
    {l : AllocateLocals H T} (hl : LocalsOk l) : LocalsOk (writeInV2 a pInData nDataIn l) := by
  have hlive := hl.ledger
  unfold writeInV2
  split
  · split
    · rename_i h hin
      split
      · exact ⟨by simpa using hlive, hl.failed⟩
      · refine ⟨?_, fun _ => ⟨rfl, rfl⟩⟩
        -- both locals are freed, input first
        simp only [secActs_append, follow_append, hlive, secActs_write, secActs_nil, follow_nil,
          Option.bind_some, follow_freeIfSet]
        simpa using follow_freeIfSet (T := T) l.pDataOut []
    · exact hl
  · rename_i hf
    obtain ⟨hin, hout⟩ := hl.failed (by simpa using hf)
    refine ⟨?_, fun _ => ⟨rfl, rfl⟩⟩
    simpa [hin, hout] using hlive

/-- Under fresh answers and without the failing second allocation, the ledger follows the whole
allocation, and what is live at its end is what it stores through its out parameters. -/
theorem allocate_ok {a : AllocateAnswers H} {ppInBuf ppOutBuf : Option Nat}
    (pInData : Option (List UInt8)) (nDataLen : Nat)
    (hne : ∀ h, a.mallocIn = some h → a.mallocOut ≠ some h)
    (hok : ¬ (ppOutBuf.isSome ∧ ppInBuf.isSome ∧ a.mallocOut.isSome ∧ a.mallocIn = none)) :
    LocalsOk (allocateLocalsV2 (T := T) a ppInBuf ppOutBuf pInData nDataLen) := by
  have hout : (mallocOutV2 (T := T) a ppOutBuf nDataLen).pDataOut =
      if ppOutBuf.isSome then a.mallocOut else none := by
    unfold mallocOutV2; split <;> rfl
  have hin : (mallocOutV2 (T := T) a ppOutBuf nDataLen).pDataIn = none := by
    unfold mallocOutV2; split <;> rfl
  refine writeInV2_ok (mallocInV2_ok (mallocOutV2_ok a ppOutBuf nDataLen) hin ?_ ?_)
  · intro h hm
    rw [hout]
    split
    · exact hne h hm
    · simp
  · intro _ hi hm
    rw [hout]
    split
    · rename_i ho
      cases hmo : a.mallocOut with
      | none => rfl
      | some o => exact absurd ⟨ho, hi, by simp [hmo], hm⟩ hok
    · rfl

/-! ## Runs -/

/-- The run so far can be followed by the ledger, every handle that the caller owns is live, and no
handle was handed out twice. -/
structure SecInv (s : SecState H T) (live : List H) : Prop where
  ledger : follow [] (secActs s.world.calls) = some live
  owned : ∀ h ∈ s.owned, h ∈ live
  fresh : (obtained s.world.calls).Nodup

theorem SecInv.once {s : SecState H T} {live : List H} (hi : SecInv s live) :
    (freed s.world.calls).Nodup ∧ live.Nodup ∧ (∀ h ∈ live, h ∉ freed s.world.calls) ∧
      ∀ h, h ∈ obtained s.world.calls ↔ h ∈ live ∨ h ∈ freed s.world.calls :=
  follow_once hi.ledger hi.fresh

/-- An allocation with sound answers keeps the ledger. -/
theorem allocate_keeps {s : SecState H T} {live : List H} {a : AllocateAnswers H}
    {ppInBuf ppOutBuf : Option Nat} {pInData : Option (List UInt8)} {nDataLen : Nat}
    (hi : SecInv s live) (hlegal : SecLegal s (.allocate a ppInBuf ppOutBuf pInData nDataLen))
    (hok : ¬ (ppOutBuf.isSome ∧ ppInBuf.isSome ∧ a.mallocOut.isSome ∧ a.mallocIn = none)) {s' : SecState H T}
    (hs : secStep s (.allocate a ppInBuf ppOutBuf pInData nDataLen) = some s') :
    ∃ kept, SecInv s' (kept ++ live) ∧
      kept = (allocateLocalsV2 (T := T) a ppInBuf ppOutBuf pInData nDataLen).pDataIn.toList ++
        (allocateLocalsV2 (T := T) a ppInBuf ppOutBuf pInData nDataLen).pDataOut.toList := by
  obtain ⟨hfo, hfi⟩ := hlegal
  have hl := allocate_ok (T := T) pInData nDataLen (fun h hm => (hfi h hm).2) hok
  have hsub := obtained_allocate (T := T) a ppInBuf ppOutBuf pInData nDataLen
  simp only [secStep, svpAllocateSecureBuffersV2SecapiImpl, Option.some.injEq] at hs
  generalize allocateLocalsV2 (T := T) a ppInBuf ppOutBuf pInData nDataLen = l at *
  -- what this call obtains was never handed out before
  have hnew : ∀ h ∈ obtained l.calls, h ∉ obtained s.world.calls := by
    intro h hm
    have := hsub.subset hm
    simp only [List.mem_append, Option.mem_toList] at this
    rcases this with ho | hn
    · exact hfo h ho
    · exact (hfi h hn).1
  have hnd : (a.mallocOut.toList ++ a.mallocIn.toList).Nodup := by
    cases ho : a.mallocOut with
    | none => cases a.mallocIn <;> simp
    | some o =>
      cases hn : a.mallocIn with
      | none => simp
      | some i =>
        have := (hfi i hn).2
        rw [ho] at this
        simpa using this
  refine ⟨_, ⟨?_, ?_, ?_⟩, rfl⟩
  · rw [← hs]
    simp only [secActs_append, follow_append, hi.ledger, Option.bind_some]
    have hbase : ∀ h ∈ acquired (secActs l.calls), h ∉ live := fun h hm hlive =>
      hnew h hm ((hi.once.2.2.2 h).2 (Or.inl hlive))
    exact follow_frame hl.ledger hbase
  · intro h hm
    rw [← hs] at hm
    simp only [List.mem_append, mem_slotHandles] at hm
    rcases hm with hm | hm
    · exact List.mem_append_left _ (holds_storeSlot hm)
    · exact List.mem_append_right _ (hi.owned h hm)
  · rw [← hs]
    simp only [obtained, secActs_append, acquired_append]
    exact List.nodup_append.2 ⟨hi.fresh, hnd.sublist hsub, fun x hx y hy e => hnew y hy (e ▸ hx)⟩

/-- A free of a handle the caller owns keeps the ledger. -/
theorem free_keeps {s : SecState H T} {live : List H} {h : H} {calls : List (SecCall H T)}
    {owned : List H} (hi : SecInv s live) (hh : h ∈ s.owned) (hc : secActs calls = [.release h])
    (ho : ∀ g ∈ owned, g ∈ s.owned ∧ g ≠ h) :
    SecInv ⟨{ s.world with calls := s.world.calls ++ calls }, owned⟩ (live.erase h) := by
  refine ⟨?_, ?_, ?_⟩
  · simp only [secActs_append, follow_append, hi.ledger, Option.bind_some, hc]
    simp [follow, act, hi.owned h hh]
  · intro g hg
    obtain ⟨h1, h2⟩ := ho g hg
    exact (List.mem_erase_of_ne h2).2 (hi.owned g h1)
  · simpa [obtained, hc] using hi.fresh

/-- What one call under the condition keeps. -/
theorem secStep_keeps {s s' : SecState H T} {op : SecOp H T} (hi : ∃ live, SecInv s live)
    (hlegal : SecLegal s op) (hok : SecCallSound op) (hs : secStep s op = some s') :
    ∃ live, SecInv s' live := by
  obtain ⟨live, hi⟩ := hi
  cases op with
  | allocate a ppInBuf ppOutBuf pInData nDataLen =>
    obtain ⟨kept, hk, -⟩ := allocate_keeps hi hlegal hok.1 hs
    exact ⟨_, hk⟩
  | release a tokenSize pInBuf pOutBuf pDataOut nDataOutMax =>
    obtain ⟨r, hr, hs⟩ := Option.bind_eq_some_iff.1 hs
    obtain ⟨-, rfl⟩ := release_v2_eq_some.1 hr
    obtain rfl := Option.some.inj hs
    cases pInBuf with
    | none =>
      refine ⟨live, by simpa [freeIfSet, secActs] using hi.ledger, ?_, ?_⟩
      · intro h hm
        exact hi.owned h (List.mem_filter.1 hm).1
      · simpa [freeIfSet, secActs, obtained] using hi.fresh
    | some i =>
      refine ⟨_, free_keeps hi (hlegal.1 i rfl) rfl ?_⟩
      intro g hg
      obtain ⟨h1, h2⟩ := List.mem_filter.1 hg
      simp only [decide_eq_true_eq] at h2
      exact ⟨h1, fun e => h2.1 (by rw [e])⟩
  | free pContext pBuf =>
    simp only [secStep, Option.some.injEq] at hs
    subst hs
    cases pContext with
    | none => exact ⟨live, by simpa [svpFreeSecureBufferV2SecapiImpl] using hi⟩
    | some c =>
      cases pBuf with
      | none => exact ⟨live, by simpa [svpFreeSecureBufferV2SecapiImpl] using hi⟩
      | some h =>
        refine ⟨_, free_keeps hi (hlegal h rfl) rfl ?_⟩
        intro g hg
        obtain ⟨h1, h2⟩ := List.mem_filter.1 hg
        exact ⟨h1, fun e => by simp [e] at h2⟩

omit [DecidableEq H] in
/-- A handle that a local still holds at the end is stored in exactly one out parameter. -/
theorem allocate_held_once {a : AllocateAnswers H} {ppInBuf ppOutBuf : Option Nat} {pInData : Option (List UInt8)}
    {nDataLen : Nat} (slots : Nat → Option H) (hne : ∀ h, a.mallocIn = some h → a.mallocOut ≠ some h)
    (hok : SecCallSound (T := T) (.allocate a ppInBuf ppOutBuf pInData nDataLen)) {h : H}
    (hm : h ∈ (allocateLocalsV2 (T := T) a ppInBuf ppOutBuf pInData nDataLen).pDataIn.toList ++
      (allocateLocalsV2 (T := T) a ppInBuf ppOutBuf pInData nDataLen).pDataOut.toList) :
    ¬ (Holds (storeSlot (storeSlot slots ppInBuf
          (allocateLocalsV2 (T := T) a ppInBuf ppOutBuf pInData nDataLen).pDataIn) ppOutBuf
          (allocateLocalsV2 (T := T) a ppInBuf ppOutBuf pInData nDataLen).pDataOut) ppInBuf h ↔
        Holds (storeSlot (storeSlot slots ppInBuf
          (allocateLocalsV2 (T := T) a ppInBuf ppOutBuf pInData nDataLen).pDataIn) ppOutBuf
          (allocateLocalsV2 (T := T) a ppInBuf ppOutBuf pInData nDataLen).pDataOut) ppOutBuf h) := by
  obtain ⟨hin, hout⟩ := allocate_stored (T := T) a ppInBuf ppOutBuf pInData nDataLen
  have hdone : a.AllDone ppInBuf ppOutBuf := by
    by_contra hd
    simp [hin, hout, hd] at hm
  refine held_once ?_ ?_ ?_ ?_ hm
  · rw [hin]; split
    · rename_i hc; exact fun _ => hc.2
    · simp
  · rw [hout]; split
    · rename_i hc; exact fun _ => hc.2
    · simp
  · intro g hg
    rw [hin] at hg; rw [hout]
    split at hg
    · split
      · exact hne g hg
      · simp
    · simp at hg
  · intro hsome he
    obtain ⟨h1, h2⟩ := hdone
    exact hok.2 ⟨he, hsome, h1 (he ▸ hsome), (h2 hsome).1, (h2 hsome).2⟩

/-- An allocation whose answers meet the condition leaves every handle it obtained in exactly one
out parameter or freed once, and no freed handle in either. -/
theorem allocate_accounts {s s' : SecState H T} {live : List H} {a : AllocateAnswers H}
    {ppInBuf ppOutBuf : Option Nat} {pInData : Option (List UInt8)} {nDataLen : Nat}
    (hi : SecInv s live) (hlegal : SecLegal s (.allocate a ppInBuf ppOutBuf pInData nDataLen))
    (hok : SecCallSound (T := T) (.allocate a ppInBuf ppOutBuf pInData nDataLen))
    (hs : secStep s (.allocate a ppInBuf ppOutBuf pInData nDataLen) = some s') :
    SecCallOk s (.allocate a ppInBuf ppOutBuf pInData nDataLen) := by
  obtain ⟨kept, hk, hkept⟩ := allocate_keeps hi hlegal hok.1 hs
  obtain ⟨hnd, -, hlive, -⟩ := hk.once
  intro t ht
  obtain rfl : s' = t := Option.some.inj (hs.symm.trans ht)
  have hslots : s'.world.slots = storeSlot (storeSlot s.world.slots ppInBuf
      (allocateLocalsV2 (T := T) a ppInBuf ppOutBuf pInData nDataLen).pDataIn) ppOutBuf
      (allocateLocalsV2 (T := T) a ppInBuf ppOutBuf pInData nDataLen).pDataOut := by
    simp only [secStep, svpAllocateSecureBuffersV2SecapiImpl, Option.some.injEq] at hs
    rw [← hs]
  have hcalls : freed s'.world.calls = freed s.world.calls ++
      freed (allocateLocalsV2 (T := T) a ppInBuf ppOutBuf pInData nDataLen).calls := by
    simp only [secStep, svpAllocateSecureBuffersV2SecapiImpl, Option.some.injEq] at hs
    rw [← hs]; simp [freed]
  refine ⟨fun h => List.nodup_iff_count_le_one.1 hnd h, ?_, ?_⟩
  · intro h hh
    rw [hslots] at hh
    exact hlive h (List.mem_append_left _ (hkept ▸ holds_storeSlot hh))
  · intro h hh
    -- the call's own ledger: a handle obtained here is held by a local or freed here
    have hl := allocate_ok (T := T) pInData nDataLen (fun h hm => (hlegal.2 h hm).2) hok.1
    have hperm := follow_perm hl.ledger
    have hmem := hperm.mem_iff.1 (List.mem_append_right [] hh)
    rw [List.mem_append, ← hkept] at hmem
    rcases hmem with hm | hm
    · left
      refine ⟨?_, hlive h (List.mem_append_left _ hm)⟩
      rw [hkept] at hm
      rw [hslots]
      exact allocate_held_once s.world.slots (fun g hg => (hlegal.2 g hg).2) hok hm
    · right
      have hpos : h ∈ freed s'.world.calls := by
        rw [hcalls]; exact List.mem_append_right _ hm
      exact List.count_eq_one_of_mem hnd hpos

/-- One legal call under the invariant keeps the ledger exactly under the condition. -/
theorem secCallOk_iff {s : SecState H T} {op : SecOp H T} (hi : ∃ live, SecInv s live)
    (hlegal : SecLegal s op) : SecCallOk s op ↔ SecCallSound op := by
  constructor
  · intro hok
    cases op with
    | release a tokenSize pInBuf pOutBuf pDataOut nDataOutMax => trivial
    | free pContext pBuf => trivial
    | allocate a ppInBuf ppOutBuf pInData nDataLen =>
      obtain ⟨hcount, -, hobt⟩ := hok _ rfl
      constructor
      · -- the second allocation failed: `pDataOut` is in the log of frees twice
        rintro ⟨ho, hp, hm, hn⟩
        obtain ⟨o, hmo⟩ := Option.isSome_iff_exists.1 hm
        have hfreed : freed (allocateLocalsV2 (T := T) a ppInBuf ppOutBuf pInData nDataLen).calls = [o, o] := by
          simp [allocateLocalsV2, mallocOutV2, mallocInV2, writeInV2, ho, hp, hmo, hn, freed]
        have hc := hcount o
        simp only [svpAllocateSecureBuffersV2SecapiImpl, freed, secActs_append, released_append] at hc hfreed
        rw [hfreed] at hc
        simp at hc
      · -- one variable for both: the input handle is stored nowhere and freed nowhere
        rintro ⟨rfl, hp, hm, hn, hw⟩
        obtain ⟨o, hmo⟩ := Option.isSome_iff_exists.1 hm
        obtain ⟨i, hmi⟩ := Option.isSome_iff_exists.1 hn
        have hcalls : secActs (allocateLocalsV2 (T := T) a ppInBuf ppInBuf pInData nDataLen).calls =
            [.acquire o, .acquire i] := by
          simp [allocateLocalsV2, mallocOutV2, mallocInV2, writeInV2, hp, hmo, hmi, hw]
        rcases hobt i (by rw [obtained, hcalls]; simp) with ⟨hx, -⟩ | hx
        · exact hx Iff.rfl
        · have hin : i ∈ freed s.world.calls := by
            simp only [svpAllocateSecureBuffersV2SecapiImpl, freed, secActs_append, released_append,
              hcalls, released_acquire, released_nil, List.append_nil] at hx
            exact List.count_pos_iff.1 (by rw [freed, hx]; exact Nat.one_pos)
          obtain ⟨live, hi⟩ := hi
          exact (hlegal.2 i hmi).1 ((hi.once.2.2.2 i).2 (Or.inr hin))
  · intro hok
    cases op with
    | allocate a ppInBuf ppOutBuf pInData nDataLen =>
      obtain ⟨live, hi⟩ := hi
      exact allocate_accounts hi hlegal hok rfl
    | release a tokenSize pInBuf pOutBuf pDataOut nDataOutMax =>
      intro s' hs
      obtain ⟨live', hi'⟩ := secStep_keeps hi hlegal hok hs
      exact ⟨fun h => List.nodup_iff_count_le_one.1 hi'.once.1 h, trivial⟩
    | free pContext pBuf =>
      intro s' hs
      obtain ⟨live', hi'⟩ := secStep_keeps hi hlegal hok hs
      exact ⟨fun h => List.nodup_iff_count_le_one.1 hi'.once.1 h, trivial⟩

/-- Before the first call nothing was obtained; the caller's variables hold anything. -/
def secInit (slots : Nat → Option H) : SecState H T := ⟨⟨slots, []⟩, []⟩

/-- **The v2 ledger.** In a run of legal calls, every call keeps the ledger if and only if no
allocation of the run has its input allocation fail after its output allocation succeeded, and none
succeeds with one variable for both buffers. -/
theorem secapi_v2_ledger (slots : Nat → Option H) (ops : List (SecOp H T))
    (hlegal : Runs.Along secStep SecLegal (secInit slots) ops) :
    Runs.Along secStep SecCallOk (secInit slots) ops ↔
      Runs.Along secStep (fun _ op => SecCallSound op) (secInit slots) ops := by
  refine Runs.along_congr (I := fun s => ∃ live, SecInv s live) ?_ ?_ ?_ hlegal
  · intro s op s' hi hl hok hs
    exact secStep_keeps hi hl ((secCallOk_iff hi hl).1 hok) hs
  · intro s op hi hl
    exact secCallOk_iff hi hl
  · exact ⟨[], rfl, fun h hm => by simp [secInit] at hm, by simp [secInit, obtained]⟩

end

/-- Both buffers are allocated and written, then released: a run within the condition. -/
theorem secapi_v2_ledger_playback :
    Runs.Along secStep SecCallOk (secInit (T := Unit) fun _ => none)
      [.allocate ⟨some 1, some 2, true⟩ (some 0) (some 1) (some [7]) 1,
        .release ⟨some (), true⟩ 8 (some 2) (some 1) (some 0) 8] :=
  (secapi_v2_ledger _ _ (by simp [Runs.Along, secStep, SecLegal, secInit, obtained,
    svpAllocateSecureBuffersV2SecapiImpl, allocateLocalsV2, mallocOutV2, mallocInV2, writeInV2,
    slotHandles, storeSlot])).2 (by simp [Runs.Along, SecCallSound])

/-- The second `SecOpaqueBuffer_Malloc` fails: handle 1 is freed twice. -/
theorem secapi_v2_double_free :
    ¬ ∀ (slots : Nat → Option Nat) (ops : List (SecOp Nat Unit)),
      Runs.Along secStep SecLegal (secInit slots) ops →
        Runs.Along secStep SecCallOk (secInit slots) ops := by
  intro h
  have hrun := h (fun _ => none) [.allocate ⟨some 1, none, true⟩ (some 0) (some 1) (some [7]) 1]
    (by simp [Runs.Along, SecLegal, secInit, obtained])
  have hcount := (hrun.1 _ rfl).1 1
  revert hcount
  decide

end GstSvpExt
