import Mathlib.Data.List.Basic
import Mathlib.Tactic.Common

/-!
# What a scoped lock is for

A thread opens scopes of two kinds, nested in any way. While it enters one it may fail a number of tries;
then it has acquired the mutex once more than it has scopes, and the body runs, or it gives up and the
body does not. `ScopeStep` is everything that one step of a thread may do, whatever mutex and whatever
build variant is under it, and `ScopeThread.Ok` is what such steps keep. How an attempt with a timeout
ends depends on the answers of its tries alone (`TryOutcome`).
-/

namespace GstSvpExt

/-- `SCOPED_LOCK()` or `SCOPED_TRY_LOCK(timeoutMS, failRetVal)`. -/
inductive ScopeKind
  | scopedLock
  | scopedTryLock (timeoutMS : Nat)
deriving DecidableEq, Repr

/-- In the body of the innermost scope (outside any if there is none), or on the way into a new one:
before or after the mutex was acquired for it. -/
inductive ScopePhase
  | body
  | entering (k : ScopeKind) (acquired : Bool)
deriving DecidableEq, Repr

/-- One thread: its open scopes, innermost first, where it is, how often it holds the mutex, and the
answers of the tries since it last started to enter a scope. -/
structure ScopeThread where
  scopes : List ScopeKind
  phase : ScopePhase
  count : Nat
  tries : List Bool
deriving DecidableEq, Repr

/-- One step of a thread. -/
inductive ScopeStep : ScopeThread → ScopeThread → Prop
  | start (scopes count tries k) :
    ScopeStep ⟨scopes, .body, count, tries⟩ ⟨scopes, .entering k false, count, []⟩
  | wait (scopes count tries k acquired) :
    ScopeStep ⟨scopes, .entering k acquired, count, tries⟩ ⟨scopes, .entering k acquired, count, tries⟩
  | tryFails (scopes count tries) {timeoutMS : Nat} (h : tries.length < timeoutMS) :
    ScopeStep ⟨scopes, .entering (.scopedTryLock timeoutMS) false, count, tries⟩
      ⟨scopes, .entering (.scopedTryLock timeoutMS) false, count, tries ++ [false]⟩
  | trySucceeds (scopes count tries) {timeoutMS : Nat} (h : tries.length < timeoutMS) :
    ScopeStep ⟨scopes, .entering (.scopedTryLock timeoutMS) false, count, tries⟩
      ⟨scopes, .entering (.scopedTryLock timeoutMS) true, count + 1, tries ++ [true]⟩
  | deepen (scopes count tries k) :
    ScopeStep ⟨scopes, .entering k true, count, tries⟩ ⟨scopes, .entering k true, count + 1, tries⟩
  | lockEnters (scopes count tries) :
    ScopeStep ⟨scopes, .entering .scopedLock false, count, tries⟩
      ⟨.scopedLock :: scopes, .body, count + 1, tries⟩
  | tryEnters (scopes count tries timeoutMS) :
    ScopeStep ⟨scopes, .entering (.scopedTryLock timeoutMS) true, count, tries⟩
      ⟨.scopedTryLock timeoutMS :: scopes, .body, scopes.length + 1, tries⟩
  | givesUp (scopes count tries) {timeoutMS : Nat} (h : tries.length = timeoutMS) :
    ScopeStep ⟨scopes, .entering (.scopedTryLock timeoutMS) false, count, tries⟩ ⟨scopes, .body, count, tries⟩
  | leave (k scopes count tries) :
    ScopeStep ⟨k :: scopes, .body, count + 1, tries⟩ ⟨scopes, .body, count, tries⟩

/-- In a body the thread holds the mutex once for each open scope. Before it is acquired again nothing
changes and the tries so far failed, no more than the timeout allows; after that the thread holds it
more often than it has scopes, by a try that succeeded in time. -/
def ScopeThread.Ok (v : ScopeThread) : Prop :=
  match v.phase with
  | .body => v.count = v.scopes.length
  | .entering .scopedLock acquired => acquired = false ∧ v.count = v.scopes.length
  | .entering (.scopedTryLock timeoutMS) false =>
    v.count = v.scopes.length ∧ v.tries.length ≤ timeoutMS ∧ v.tries = List.replicate v.tries.length false
  | .entering (.scopedTryLock timeoutMS) true =>
    v.scopes.length < v.count ∧ ∃ n < timeoutMS, v.tries = List.replicate n false ++ [true]

theorem ScopeThread.Ok.body {v : ScopeThread} (h : v.Ok) (hp : v.phase = .body) : v.count = v.scopes.length := by
  unfold ScopeThread.Ok at h
  rwa [hp] at h

theorem ScopeThread.Ok.waiting {v : ScopeThread} (h : v.Ok) {k : ScopeKind} (hp : v.phase = .entering k false) :
    v.count = v.scopes.length := by
  unfold ScopeThread.Ok at h
  rw [hp] at h
  cases k with
  | scopedLock => exact h.2
  | scopedTryLock timeoutMS => exact h.1

theorem ScopeThread.Ok.acquired {v : ScopeThread} (h : v.Ok) {k : ScopeKind} (hp : v.phase = .entering k true) :
    v.scopes.length < v.count := by
  unfold ScopeThread.Ok at h
  rw [hp] at h
  cases k with
  | scopedLock => exact absurd h.1 (by simp)
  | scopedTryLock timeoutMS => exact h.1

theorem ScopeThread.Ok.length_le {v : ScopeThread} (h : v.Ok) : v.scopes.length ≤ v.count := by
  rcases hp : v.phase with _ | ⟨k, _ | _⟩
  · exact Nat.le_of_eq (h.body hp).symm
  · exact Nat.le_of_eq (h.waiting hp).symm
  · exact Nat.le_of_lt (h.acquired hp)

theorem ScopeStep.ok {v v' : ScopeThread} (h : ScopeStep v v') (hok : v.Ok) : v'.Ok := by
  cases h with
  | start scopes count tries k =>
    cases k with
    | scopedLock => exact ⟨rfl, hok⟩
    | scopedTryLock timeoutMS => exact ⟨hok, Nat.zero_le _, rfl⟩
  | wait => exact hok
  | tryFails scopes count tries h =>
    obtain ⟨hc, -, ht⟩ := hok
    refine ⟨hc, ?_, ?_⟩
    · show (tries ++ [false]).length ≤ _
      rw [List.length_append, List.length_singleton]
      exact h
    · show tries ++ [false] = List.replicate (tries ++ [false]).length false
      rw [List.length_append, List.length_singleton, List.replicate_succ', ← ht]
  | trySucceeds scopes count tries h =>
    obtain ⟨hc, -, ht⟩ := hok
    refine ⟨?_, tries.length, h, congrArg (· ++ [true]) ht⟩
    show scopes.length < count + 1
    exact Nat.lt_succ_of_le (Nat.le_of_eq hc.symm)
  | deepen scopes count tries k =>
    cases k with
    | scopedLock => exact absurd hok.1 (by simp)
    | scopedTryLock timeoutMS => exact ⟨Nat.lt_succ_of_lt hok.1, hok.2⟩
  | lockEnters scopes count tries => exact congrArg (· + 1) hok.2
  | tryEnters scopes count tries timeoutMS => exact rfl
  | givesUp scopes count tries h => exact hok.1
  | leave k scopes count tries => exact Nat.succ.inj hok

/-- How an attempt of at most `timeoutMS` tries ends: acquired by the first try that succeeds, given up
when all failed. -/
def TryOutcome (timeoutMS : Nat) (tries : List Bool) (acquired : Bool) : Prop :=
  if acquired then ∃ n < timeoutMS, tries = List.replicate n false ++ [true]
  else tries = List.replicate timeoutMS false

/-- The step ends an attempt with a timeout: the body is entered, or not. -/
def Finishes (v v' : ScopeThread) (timeoutMS : Nat) (acquired : Bool) : Prop :=
  (∃ b, v.phase = .entering (.scopedTryLock timeoutMS) b) ∧ v'.phase = .body ∧
    v'.scopes = if acquired then .scopedTryLock timeoutMS :: v.scopes else v.scopes

/-- Before it acquired the mutex a thread does not unlock, and giving up leaves the count. -/
theorem ScopeStep.failing {v v' : ScopeThread} (h : ScopeStep v v') {k : ScopeKind}
    (hp : v.phase = .entering k false) :
    v.count ≤ v'.count ∧ ∀ timeoutMS, Finishes v v' timeoutMS false → v'.count = v.count := by
  cases h with
  | wait | tryFails | givesUp => exact ⟨Nat.le_refl _, fun _ _ => rfl⟩
  | trySucceeds => exact ⟨Nat.le_succ _, fun _ hf => absurd hf.2.1 (by simp)⟩
  | lockEnters =>
    refine ⟨Nat.le_succ _, ?_⟩
    rintro timeoutMS ⟨⟨b, hb⟩, -⟩
    exact absurd hb (by simp)
  | start | deepen | tryEnters | leave => exact absurd hp (by simp)

theorem ScopeStep.outcome {v v' : ScopeThread} (h : ScopeStep v v') (hok : v.Ok) {timeoutMS : Nat}
    {acquired : Bool} (hf : Finishes v v' timeoutMS acquired) : TryOutcome timeoutMS v'.tries acquired := by
  obtain ⟨⟨b, hp⟩, hbody, hs⟩ := hf
  cases h with
  | tryEnters scopes count tries T =>
    obtain ⟨rfl, rfl⟩ : T = timeoutMS ∧ true = b := by simpa using hp
    cases acquired with
    | true => exact hok.2
    | false => exact absurd (congrArg List.length hs) (by simp)
  | givesUp scopes count tries h =>
    obtain ⟨rfl, rfl⟩ : _ = timeoutMS ∧ false = b := by simpa using hp
    cases acquired with
    | true => exact absurd (congrArg List.length hs) (by simp)
    | false => exact h ▸ hok.2.2
  | _ => simp at hp hbody

theorem replicate_eq_map_range {n : Nat} {b : Bool} {answers : Nat → Bool} :
    List.replicate n b = (List.range n).map answers ↔ ∀ i < n, answers i = b := by
  rw [eq_comm, List.eq_replicate_iff]
  simp

/-- What the answers were, in order: a success after failures, or failures until the timeout. -/
theorem TryOutcome.answered {timeoutMS : Nat} {answers : Nat → Bool} {tries : List Bool} {acquired : Bool}
    (h : TryOutcome timeoutMS tries acquired) (ha : tries = (List.range tries.length).map answers) :
    ∃ n, (∀ i < n, answers i = false) ∧
      ((acquired = true ∧ n < timeoutMS ∧ answers n = true ∧ tries = List.replicate n false ++ [true]) ∨
        (acquired = false ∧ n = timeoutMS ∧ tries = List.replicate n false)) := by
  unfold TryOutcome at h
  cases acquired with
  | true =>
    obtain ⟨n, hn, rfl⟩ := h
    rw [List.length_append, List.length_replicate, List.length_singleton, List.range_succ, List.map_append] at ha
    obtain ⟨hf, ht⟩ := List.append_inj ha (by simp)
    refine ⟨n, replicate_eq_map_range.1 hf, Or.inl ⟨rfl, hn, ?_, rfl⟩⟩
    simpa using ht.symm
  | false =>
    obtain rfl : tries = List.replicate timeoutMS false := h
    rw [List.length_replicate] at ha
    exact ⟨timeoutMS, replicate_eq_map_range.1 ha, Or.inr ⟨rfl, rfl, rfl⟩⟩

/-- **The tries decide.** Two attempts with one timeout whose tries are answered alike make the same
tries and end alike. -/
theorem TryOutcome.agree {timeoutMS : Nat} {answers : Nat → Bool} {tries tries' : List Bool} {b b' : Bool}
    (h : TryOutcome timeoutMS tries b) (h' : TryOutcome timeoutMS tries' b')
    (ha : tries = (List.range tries.length).map answers)
    (ha' : tries' = (List.range tries'.length).map answers) : tries = tries' ∧ b = b' := by
  obtain ⟨n, hn, hend⟩ := h.answered ha
  obtain ⟨n', hn', hend'⟩ := h'.answered ha'
  -- the first success is at one place, or there is none before the timeout
  have hle : ∀ {i j : Nat}, (∀ k < i, answers k = false) → answers j = true → i ≤ j := by
    intro i j hi hj
    by_contra hlt
    rw [hi j (Nat.lt_of_not_le hlt)] at hj
    exact absurd hj Bool.false_ne_true
  rcases hend with ⟨rfl, hT, ht, rfl⟩ | ⟨rfl, hT, rfl⟩ <;>
    rcases hend' with ⟨rfl, hT', ht', rfl⟩ | ⟨rfl, hT', rfl⟩
  · obtain rfl : n = n' := Nat.le_antisymm (hle hn ht') (hle hn' ht)
    exact ⟨rfl, rfl⟩
  · have := hle hn' ht
    omega
  · have := hle hn ht'
    omega
  · rw [hT, hT']
    exact ⟨rfl, rfl⟩

end GstSvpExt
