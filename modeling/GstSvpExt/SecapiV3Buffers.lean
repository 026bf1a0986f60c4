import GstSvpExt.Runs
import GstSvpExt.SecapiV3

/-!
# The `sa_svp_buffer` handles of SecAPI v3 (`gst_svp_secure_buffers_secapi.cpp:200-285`)

| here | there |
| --- | --- |
| `BufferAct.create`     | `sa_svp_buffer_create` (`:236`), the only call of the code on such a handle besides the write |
| `BufferAct.close`      | `sa_svp_buffer_release` and `sa_svp_buffer_free`, which the code never calls |
| `BufferAct.freeMemory` | `sa_svp_memory_free` (`:191`) |

The local `dest` of the allocator goes out of scope with its handle open. After a run of allocations
and releases as many handles are open as its allocations created (`open_after_run`), so nothing is
open after every call only where no call creates one (`v3_buffer_conservation`).
-/

namespace GstSvpExt

variable {P M D T : Type}

/-! ## Open handles -/

/-- What the SecAPI does with the handle `d` on the memory `m`. -/
inductive BufferAct (M D : Type)
  | create (d : D) (m : M)
  | close (d : D)
  | freeMemory (m : M)
deriving DecidableEq, Repr

def V3Call.bufferAct : V3Call P M D T → Option (BufferAct M D)
  | .bufferCreate m _ (some d) => some (.create d m)
  | .memoryFree m true => some (.freeMemory m)
  | _ => none

/-- The call opens a handle. -/
def V3Call.creates : V3Call P M D T → Bool
  | .bufferCreate _ _ d => d.isSome
  | _ => false

section
variable [DecidableEq M] [DecidableEq D]

/-- The open handles with the memory each refers to; undefined where a handle is closed that is not
open, and where memory is freed under an open handle. -/
def bufferStep (opened : List (D × M)) : BufferAct M D → Option (List (D × M))
  | .create d m => some ((d, m) :: opened)
  | .close d => if d ∈ opened.map Prod.fst then some (opened.eraseP fun h => h.1 = d) else none
  | .freeMemory m => if m ∈ opened.map Prod.snd then none else some opened

/-- The handles that the calls made so far leave open. -/
def V3World.openBuffers (w : V3World P M D T) : Option (List (D × M)) :=
  Runs.run bufferStep [] (w.calls.filterMap V3Call.bufferAct)

/-- The calls of the code close nothing: every handle that they create stays open. -/
theorem bufferStep_run_length {opened opened' : List (D × M)} {calls : List (V3Call P M D T)}
    (h : Runs.run bufferStep opened (calls.filterMap V3Call.bufferAct) = some opened') :
    opened'.length = opened.length + calls.countP V3Call.creates := by
  induction calls generalizing opened with
  | nil =>
    obtain rfl : opened = opened' := by simpa using h
    simp
  | cons c calls ih =>
    rw [List.countP_cons]
    rcases c with _ | _ | _ | ⟨m, _ | _⟩ | ⟨m, n, _ | d⟩ | _ | _
    case memoryFree.true =>
      simp only [List.filterMap_cons, V3Call.bufferAct, Runs.run_cons, bufferStep] at h
      split at h
      · exact absurd h (by simp)
      · exact ih h
    case bufferCreate.some =>
      have h1 : opened'.length = ((d, m) :: opened).length + calls.countP V3Call.creates := ih h
      simp only [List.length_cons, V3Call.creates, Option.isSome_some, if_true] at h1 ⊢
      omega
    all_goals exact ih h

/-- With no handle open and none created, memory is freed under none. -/
theorem bufferStep_run_nothing {calls : List (V3Call P M D T)} (h : calls.countP V3Call.creates = 0) :
    Runs.run bufferStep ([] : List (D × M)) (calls.filterMap V3Call.bufferAct) = some [] := by
  induction calls with
  | nil => rfl
  | cons c calls ih =>
    rw [List.countP_cons] at h
    have h1 := ih (by omega)
    rcases c with _ | _ | _ | ⟨m, _ | _⟩ | ⟨m, n, _ | d⟩ | _ | _
    case bufferCreate.some => simp [V3Call.creates] at h
    all_goals exact h1

/-- The calls made since the state `w`, where nothing is open, leave nothing open if and only if they
create nothing. -/
theorem openBuffers_extend {w w' : V3World P M D T} {new : List (V3Call P M D T)}
    (hw : w.openBuffers = some []) (hc : w'.calls = w.calls ++ new) :
    w'.openBuffers = some [] ↔ new.countP V3Call.creates = 0 := by
  have he : w'.openBuffers = Runs.run bufferStep [] (new.filterMap V3Call.bufferAct) := by
    unfold V3World.openBuffers at hw ⊢
    rw [hc, List.filterMap_append, Runs.run_append, hw, Option.bind_some]
  rw [he]
  constructor
  · intro h
    have hl := bufferStep_run_length h
    simpa using hl.symm
  · exact bufferStep_run_nothing

end

/-! ## What each function creates -/

/-- The calls between the two states create `k` handles. -/
def Creates (w w' : V3World P M D T) (k : Nat) : Prop :=
  ∃ new, w'.calls = w.calls ++ new ∧ new.countP V3Call.creates = k

theorem Creates.refl (w : V3World P M D T) : Creates w w 0 := ⟨[], by simp, rfl⟩

theorem Creates.trans {w w1 w2 : V3World P M D T} {j k : Nat} (h1 : Creates w w1 j) (h2 : Creates w1 w2 k) :
    Creates w w2 (j + k) := by
  obtain ⟨new1, hc1, hk1⟩ := h1
  obtain ⟨new2, hc2, hk2⟩ := h2
  refine ⟨new1 ++ new2, ?_, ?_⟩
  · rw [hc2, hc1, List.append_assoc]
  · rw [List.countP_append, hk1, hk2]

section
variable [DecidableEq P] [DecidableEq M] {w w' : V3World P M D T}

theorem allocateV3Memory_creates {a : V3MemoryAnswers P M} {slot : Slot} {n : Nat} {ok : Bool}
    (h : allocateV3Memory a w (some slot) n = some (ok, w')) :
    ok = a.memoryAlloc.isSome ∧ Creates w w' 0 := by
  obtain ⟨p, -, ⟨hm, rfl, rfl⟩ | ⟨m, hm, rfl, rfl⟩⟩ := allocateV3Memory_cases h
  · exact ⟨by rw [hm]; rfl, _, rfl, rfl⟩
  · exact ⟨by rw [hm]; rfl, _, rfl, rfl⟩

theorem freeV3Memory_creates {memoryFree : M → Bool} {buffer : Option Slot}
    (h : freeV3Memory memoryFree w buffer = some w') : Creates w w' 0 := by
  obtain ⟨-, rfl⟩ | ⟨slot, p, m, -, -, rfl⟩ := freeV3Memory_cases h
  · exact Creates.refl _
  · exact ⟨_, rfl, rfl⟩

/-- The two frees of a failing exit. -/
theorem freeBoth_creates {memoryFree : M → Bool} {b b' : Option Slot} {r r' : UInt32}
    (h : (do
      let w1 ← freeV3Memory memoryFree w b
      let w2 ← freeV3Memory memoryFree w1 b'
      some (r, w2)) = some (r', w')) : Creates w w' 0 := by
  simp only [Option.bind_eq_bind, Option.bind_eq_some_iff] at h
  obtain ⟨w1, h1, w2, h2, h⟩ := h
  obtain ⟨-, rfl⟩ : r = r' ∧ w2 = w' := Prod.mk.inj (Option.some.inj h)
  exact (freeV3Memory_creates h1).trans (freeV3Memory_creates h2)

/-- A handle is created where `sa_svp_buffer_create` succeeds, whatever becomes of the write. -/
theorem fillInBufV3_creates {a : V3AllocateAnswers P M D} {ppInBuf ppOutBuf : Option Slot} {data : List UInt8}
    {n : Nat} {ret : UInt32} (h : fillInBufV3 a w ppInBuf ppOutBuf data n = some (ret, w')) :
    Creates w w' (if a.bufferCreate.isSome then 1 else 0) := by
  unfold fillInBufV3 at h
  simp only [Option.bind_eq_bind, Option.bind_eq_some_iff] at h
  obtain ⟨p, -, buf, -, m, -, h⟩ := h
  rcases hd : a.bufferCreate with _ | d <;> rw [hd] at h
  · have hcreate : Creates w { w with calls := w.calls ++ [.bufferCreate m buf.size none] } 0 := ⟨_, rfl, rfl⟩
    exact hcreate.trans (freeBoth_creates h)
  · simp only [Option.bind_eq_some_iff] at h
    obtain ⟨bytes, -, h⟩ := h
    have hcreate : ∀ memory, Creates w { w with
        memory := memory
        calls := w.calls ++ [.bufferCreate m buf.size (some d)] ++ [.bufferWrite d bytes a.bufferWrite] } 1 :=
      fun _ => ⟨_, List.append_assoc .., rfl⟩
    split at h
    · simp only [Option.bind_eq_some_iff] at h
      obtain ⟨contents, -, contents', -, h⟩ := h
      obtain ⟨-, rfl⟩ : 1 = ret ∧ _ = w' := Prod.mk.inj (Option.some.inj h)
      exact hcreate _
    · exact (hcreate w.memory).trans (freeBoth_creates h)

/-- The allocation gets as far as `sa_svp_buffer_create`, and that succeeds. -/
def allocateCreates (a : V3AllocateAnswers P M D) (ppInBuf ppOutBuf : Option Slot)
    (pInData : Option (List UInt8)) : Bool :=
  (ppOutBuf.isNone || a.out.memoryAlloc.isSome) && ppInBuf.isSome && a.inp.memoryAlloc.isSome &&
    pInData.isSome && a.bufferCreate.isSome

theorem allocateOutBufV3_creates {a : V3AllocateAnswers P M D} {ppOutBuf : Option Slot} {n : Nat} {ok : Bool}
    (h : allocateOutBufV3 a w ppOutBuf n = some (ok, w')) :
    ok = (ppOutBuf.isNone || a.out.memoryAlloc.isSome) ∧ Creates w w' 0 := by
  rcases ppOutBuf with _ | slot
  · obtain ⟨rfl, rfl⟩ : true = ok ∧ w = w' := by simpa [allocateOutBufV3] using h
    exact ⟨rfl, Creates.refl w⟩
  · exact allocateV3Memory_creates h

theorem allocateInBufV3_creates {a : V3AllocateAnswers P M D} {ppInBuf ppOutBuf : Option Slot}
    {pInData : Option (List UInt8)} {n : Nat} {ret : UInt32}
    (h : allocateInBufV3 a w ppInBuf ppOutBuf pInData n = some (ret, w')) :
    Creates w w' (if ppInBuf.isSome && a.inp.memoryAlloc.isSome && pInData.isSome && a.bufferCreate.isSome
      then 1 else 0) := by
  rcases ppInBuf with _ | slot
  · obtain ⟨-, rfl⟩ : 1 = ret ∧ w = w' := by simpa [allocateInBufV3] using h
    exact Creates.refl w
  · simp only [allocateInBufV3, Option.bind_eq_bind, Option.bind_eq_some_iff] at h
    obtain ⟨⟨inOk, w1⟩, h1, h⟩ := h
    obtain ⟨hok, hw1⟩ := allocateV3Memory_creates h1
    simp only [Option.isSome_some, Bool.true_and, ← hok]
    cases inOk with
    | false =>
      simp only [if_true, Option.bind_eq_some_iff] at h
      obtain ⟨w2, h2, h⟩ := h
      obtain ⟨-, rfl⟩ : 0 = ret ∧ w2 = w' := Prod.mk.inj (Option.some.inj h)
      exact hw1.trans (freeV3Memory_creates h2)
    | true =>
      rcases pInData with _ | data
      · obtain ⟨-, rfl⟩ : 1 = ret ∧ w1 = w' := Prod.mk.inj (Option.some.inj h)
        exact hw1
      · have h2 := hw1.trans (fillInBufV3_creates h)
        rwa [Nat.zero_add] at h2

theorem svp_allocate_v3_creates {a : V3AllocateAnswers P M D} {ppInBuf ppOutBuf : Option Slot}
    {pInData : Option (List UInt8)} {n : Nat} {ret : UInt32}
    (h : svpAllocateSecureBuffersV3ImplDefault a w ppInBuf ppOutBuf pInData n = some (ret, w')) :
    Creates w w' (if allocateCreates a ppInBuf ppOutBuf pInData then 1 else 0) := by
  simp only [svpAllocateSecureBuffersV3ImplDefault, Option.bind_eq_bind, Option.bind_eq_some_iff] at h
  obtain ⟨⟨outOk, w1⟩, h1, h⟩ := h
  obtain ⟨hok, hw1⟩ := allocateOutBufV3_creates h1
  unfold allocateCreates
  rw [← hok]
  cases outOk with
  | false =>
    obtain ⟨-, rfl⟩ : 0 = ret ∧ w1 = w' := Prod.mk.inj (Option.some.inj h)
    exact hw1
  | true =>
    have h2 := hw1.trans (allocateInBufV3_creates h)
    simpa only [Nat.zero_add, Bool.true_and] using h2

omit [DecidableEq M] in
theorem releaseOutBufV3_creates {a : TokenAnswers T} {tokenSize : Nat} {pInBuf pOutBuf : Option P}
    {pDataOut : Option Nat} (h : releaseOutBufV3 a tokenSize w pInBuf pOutBuf pDataOut = some w') :
    Creates w w' 0 := by
  obtain ⟨-, rfl⟩ := releaseOutBufV3_eq_some.1 h
  refine ⟨_, rfl, ?_⟩
  cases pDataOut <;> rfl

theorem svp_release_v3_creates {a : TokenAnswers T} {memoryFree : M → Bool} {tokenSize : Nat}
    {pInBuf pOutBuf : Option P} {pDataOut : Option Nat} {nDataOutMax : Nat} {ret : UInt32}
    (h : svpReleaseSecureBuffersV3ImplDefault a memoryFree tokenSize w pInBuf pOutBuf pDataOut nDataOutMax =
      some (ret, w')) : Creates w w' 0 := by
  obtain ⟨-, w1, h1, h2⟩ := release_v3_eq_some.1 h
  have hout := releaseOutBufV3_creates h1
  rcases pInBuf with _ | p
  · obtain rfl := Option.some.inj h2
    exact hout
  · rw [if_pos Option.isSome_some] at h2
    exact hout.trans (freeV3Memory_creates h2)

/-! ## Runs -/

/-- One call of the two functions, with what the platform answers to it. -/
inductive V3Event (P M D T : Type)
  | allocate (a : V3AllocateAnswers P M D) (ppInBuf ppOutBuf : Option Slot) (pInData : Option (List UInt8))
      (nDataLen : Nat)
  | release (a : TokenAnswers T) (memoryFree : M → Bool) (tokenSize : Nat) (pInBuf pOutBuf : Option P)
      (pDataOut : Option Nat) (nDataOutMax : Nat)

def v3Step (w : V3World P M D T) : V3Event P M D T → Option (V3World P M D T)
  | .allocate a ppInBuf ppOutBuf pInData nDataLen =>
    (svpAllocateSecureBuffersV3ImplDefault a w ppInBuf ppOutBuf pInData nDataLen).map Prod.snd
  | .release a memoryFree tokenSize pInBuf pOutBuf pDataOut nDataOutMax =>
    (svpReleaseSecureBuffersV3ImplDefault a memoryFree tokenSize w pInBuf pOutBuf pDataOut nDataOutMax).map
      Prod.snd

/-- The call creates a handle. -/
def V3Event.creates : V3Event P M D T → Bool
  | .allocate a ppInBuf ppOutBuf pInData _ => allocateCreates a ppInBuf ppOutBuf pInData
  | .release .. => false

theorem v3Step_creates {e : V3Event P M D T} (h : v3Step w e = some w') :
    Creates w w' (if e.creates then 1 else 0) := by
  cases e with
  | allocate a ppInBuf ppOutBuf pInData nDataLen =>
    simp only [v3Step, Option.map_eq_some_iff] at h
    obtain ⟨⟨ret, w1⟩, h, rfl⟩ := h
    exact svp_allocate_v3_creates h
  | release a memoryFree tokenSize pInBuf pOutBuf pDataOut nDataOutMax =>
    simp only [v3Step, Option.map_eq_some_iff] at h
    obtain ⟨⟨ret, w1⟩, h, rfl⟩ := h
    exact svp_release_v3_creates h

/-- A run creates one handle for each of its calls that creates one. -/
theorem v3_run_creates {es : List (V3Event P M D T)} (h : Runs.run v3Step w es = some w') :
    Creates w w' (es.countP V3Event.creates) := by
  induction es generalizing w with
  | nil =>
    obtain rfl := Option.some.inj h
    exact Creates.refl w
  | cons e es ih =>
    simp only [Runs.run_cons, Option.bind_eq_some_iff] at h
    obtain ⟨w1, h1, h⟩ := h
    have h2 := (v3Step_creates h1).trans (ih h)
    rwa [List.countP_cons, Nat.add_comm]

variable [DecidableEq D]

/-- **Nothing is closed.** If no memory was freed under an open handle, a run leaves as many handles
open as its calls created. -/
theorem open_after_run {es : List (V3Event P M D T)} {opened : List (D × M)} (hw : w.openBuffers = some [])
    (h : Runs.run v3Step w es = some w') (ho : w'.openBuffers = some opened) :
    opened.length = es.countP V3Event.creates := by
  obtain ⟨new, hc, hk⟩ := v3_run_creates h
  unfold V3World.openBuffers at hw ho
  rw [hc, List.filterMap_append, Runs.run_append, hw, Option.bind_some] at ho
  rw [bufferStep_run_length ho, hk, List.length_nil, Nat.zero_add]

/-- **Handles are conserved only where none is created.** In a run from a state with no open handle,
every call leaves no handle open and frees no memory under one if and only if no call of the run
creates a handle. -/
theorem v3_buffer_conservation (w : V3World P M D T) (es : List (V3Event P M D T))
    (hw : w.openBuffers = some []) (hrun : (Runs.run v3Step w es).isSome) :
    Runs.Along v3Step (fun w e => ∀ w', v3Step w e = some w' → w'.openBuffers = some []) w es ↔
      ∀ e ∈ es, e.creates = false := by
  rw [← Runs.along_iff_forall hrun]
  refine Runs.along_congr (I := fun w => w.openBuffers = some []) ?_ ?_ hw (Runs.along_defined hrun)
  · intro w e w' _ _ hclosed he
    exact hclosed w' he
  · intro w e hw hdef
    obtain ⟨w', he⟩ := Option.isSome_iff_exists.1 hdef
    obtain ⟨new, hc, hk⟩ := v3Step_creates he
    simp only [he, Option.some.injEq, forall_eq']
    rw [openBuffers_extend hw hc, hk]
    cases e.creates <;> simp

end

/-- Memory for both buffers without data, and both given back. -/
theorem v3_buffer_conservation_no_data :
    Runs.Along v3Step (fun w e => ∀ w', v3Step w e = some w' → w'.openBuffers = some [])
      (⟨fun _ => none, fun _ => none, fun _ => none, []⟩ : V3World Nat Nat Nat Nat)
      [.allocate ⟨⟨some 1, some 11, fun _ => 0⟩, ⟨some 2, some 12, fun _ => 0⟩, some 5, true, fun _ => true⟩
          (some (.caller 0)) (some (.caller 1)) none 4,
        .release ⟨some 7, true⟩ (fun _ => true) 8 (some 2) (some 1) (some 0) 8] :=
  (v3_buffer_conservation _ _ rfl rfl).2 (by simp [V3Event.creates, allocateCreates])

/-- With data: an allocation that succeeds returns with its handle open, one whose write fails has
freed the memory under it. -/
theorem v3_buffer_left_open :
    (∃ w', v3Step (⟨fun _ => none, fun _ => none, fun _ => none, []⟩ : V3World Nat Nat Nat Nat)
        (.allocate ⟨⟨some 1, some 11, fun _ => 0⟩, ⟨some 2, some 12, fun _ => 0⟩, some 5, true, fun _ => true⟩
          (some (.caller 0)) none (some [7, 8]) 2) = some w' ∧ w'.openBuffers = some [(5, 12)]) ∧
      ∃ w', v3Step (⟨fun _ => none, fun _ => none, fun _ => none, []⟩ : V3World Nat Nat Nat Nat)
        (.allocate ⟨⟨some 1, some 11, fun _ => 0⟩, ⟨some 2, some 12, fun _ => 0⟩, some 5, false, fun _ => true⟩
          (some (.caller 0)) none (some [7, 8]) 2) = some w' ∧ w'.openBuffers = none := by
  refine ⟨⟨_, rfl, ?_⟩, ⟨_, rfl, ?_⟩⟩
  · decide
  · decide

end GstSvpExt
