import GstSvpExt.ScopedLockSteps

/-!
# Both build variants of the scoped locks are scoped locks

Any number of threads, interleaved in any way. No step of another thread changes what a scoped lock sees
of a thread, so in every state of every run a thread holds the mutex in a body exactly as often as it has
open scopes (`ScopedLocking`). The `std` variant is a scoped lock. The `pthread` variant is one as long as
its lazy initialisation is not entered twice: it is not atomic, and where two threads both find the flag
unset the second one makes a free mutex of one that is held (`pthread_bodies_overlap`).
-/

namespace GstSvpExt

variable {τ : Type*} [DecidableEq τ]

/-! ## What a scoped lock promises -/

section
variable {C : Type*}

/-- A run of the program from `start` in which every step is legal ends in `c`. -/
def Reaches (step : C → τ × ScopeAct → Option C) (legal : C → τ × ScopeAct → Prop) (start : C)
    (es : List (τ × ScopeAct)) (c : C) : Prop :=
  Runs.Along step legal start es ∧ Runs.run step start es = some c

/-- A legal step of `t`, from a state that is reached. -/
def Takes (step : C → τ × ScopeAct → Option C) (legal : C → τ × ScopeAct → Prop) (start : C) (t : τ)
    (c c' : C) : Prop :=
  ∃ es a, Reaches step legal start es c ∧ legal c (t, a) ∧ step c (t, a) = some c'

/-- Scopes are balanced and exclude each other, in every state of every run.
* `owned`, `apart`: a body runs only while its thread holds the mutex, so only one thread is in bodies;
* `counted`: in a body the thread holds the mutex once for each open scope;
* `kept`: between a try that succeeded and the body it holds the mutex all the time;
* `failing`: before it acquired the mutex it never unlocks, and giving up leaves the count and opens nothing;
* `balanced`: wherever a thread is back at the scopes it had, it holds the mutex as often as then;
* `refines`, `others`: a step is one of a scoped lock, and the threads that do not take it are as before. -/
structure ScopedLocking (step : C → τ × ScopeAct → Option C) (legal : C → τ × ScopeAct → Prop) (start : C)
    (view : C → τ → ScopeThread) : Prop where
  owned : ∀ es c t, Reaches step legal start es c → (view c t).scopes ≠ [] → 0 < (view c t).count
  apart : ∀ es c t u, Reaches step legal start es c → (view c t).scopes ≠ [] → (view c u).scopes ≠ [] → t = u
  counted : ∀ es c t, Reaches step legal start es c → (view c t).phase = .body →
    (view c t).count = (view c t).scopes.length
  kept : ∀ es c t k, Reaches step legal start es c → (view c t).phase = .entering k true → 0 < (view c t).count
  failing : ∀ c c' t k, Takes step legal start t c c' → (view c t).phase = .entering k false →
    (view c t).count ≤ (view c' t).count ∧ ∀ timeoutMS, Finishes (view c t) (view c' t) timeoutMS false →
      (view c' t).count = (view c t).count
  balanced : ∀ es es' c c' t, Reaches step legal start es c → Reaches step legal start (es ++ es') c' →
    (view c t).phase = .body → (view c' t).phase = .body → (view c' t).scopes = (view c t).scopes →
    (view c' t).count = (view c t).count
  refines : ∀ c c' t, Takes step legal start t c c' → ScopeStep (view c t) (view c' t)
  others : ∀ c c' t u, Takes step legal start t c c' → u ≠ t → view c' u = view c u

variable {step : C → τ × ScopeAct → Option C} {legal : C → τ × ScopeAct → Prop} {start : C}
  {view : C → τ → ScopeThread}

omit [DecidableEq τ] in
/-- What a scoped lock promises follows from its steps and from mutual exclusion of the mutex. -/
theorem scopedLocking_of_steps (hok : ∀ es c t, Reaches step legal start es c → (view c t).Ok)
    (hunique : ∀ es c t u, Reaches step legal start es c → 0 < (view c t).count → 0 < (view c u).count → t = u)
    (hrefines : ∀ c c' t, Takes step legal start t c c' → ScopeStep (view c t) (view c' t))
    (hothers : ∀ c c' t u, Takes step legal start t c c' → u ≠ t → view c' u = view c u) :
    ScopedLocking step legal start view := by
  have howned : ∀ es c t, Reaches step legal start es c → (view c t).scopes ≠ [] → 0 < (view c t).count := by
    intro es c t hr hs
    exact Nat.lt_of_lt_of_le (List.length_pos_iff.2 hs) (hok es c t hr).length_le
  refine ⟨howned, ?_, fun es c t hr hp => (hok es c t hr).body hp, ?_, ?_, ?_, hrefines, hothers⟩
  · intro es c t u hr ht hu
    exact hunique es c t u hr (howned es c t hr ht) (howned es c u hr hu)
  · intro es c t k hr hp
    exact Nat.lt_of_le_of_lt (Nat.zero_le _) ((hok es c t hr).acquired hp)
  · intro c c' t k ht hp
    exact (hrefines c c' t ht).failing hp
  · intro es es' c c' t hr hr' hp hp' hs
    rw [(hok _ c' t hr').body hp', (hok es c t hr).body hp, hs]

/-- An attempt of `t` with a timeout ends: its tries were answered so, and the body is entered or not. -/
def Ends (step : C → τ × ScopeAct → Option C) (legal : C → τ × ScopeAct → Prop) (start : C)
    (view : C → τ → ScopeThread) (t : τ) (timeoutMS : Nat) (tries : List Bool) (acquired : Bool) : Prop :=
  ∃ c c', Takes step legal start t c c' ∧ Finishes (view c t) (view c' t) timeoutMS acquired ∧
    (view c' t).tries = tries

omit [DecidableEq τ] in
theorem Ends.outcome (hok : ∀ es c t, Reaches step legal start es c → (view c t).Ok)
    (hs : ScopedLocking step legal start view) {t : τ} {timeoutMS : Nat} {tries : List Bool} {acquired : Bool}
    (h : Ends step legal start view t timeoutMS tries acquired) : TryOutcome timeoutMS tries acquired := by
  obtain ⟨c, c', ht, hf, rfl⟩ := h
  obtain ⟨es, a, hr, -, -⟩ := id ht
  exact (hs.refines c c' t ht).outcome (hok es c t hr) hf

end

/-! ## The two variants -/

def stdViews (c : Threads τ (RecursiveMutex τ) StdThread) (t : τ) : ScopeThread :=
  stdView t c.shared (c.thread t)

def pthreadViews (c : Threads τ (PthreadStatics τ) PthreadThread) (t : τ) : ScopeThread :=
  pthreadView t c.shared (c.thread t)

theorem std_reaches {es : List (τ × ScopeAct)} {c : Threads τ (RecursiveMutex τ) StdThread}
    (h : Reaches (Threads.step stdAct) (Threads.Legal fun _ _ _ => True) stdStart es c) : c.All StdInv := by
  refine Threads.run_invariant ?_ ?_ ?_ h.1 h.2
  · intro t s l a s' l' hi _ h
    exact (stdAct_refines hi h).inv
  · intro t u s l lu a s' l' hu hi hiu _ h
    exact (stdAct_refines hi h).inv_other hu hiu
  · intro t
    exact ⟨RecursiveMutex.held_free t, trivial⟩

theorem std_scopedLocking :
    ScopedLocking (Threads.step stdAct) (Threads.Legal fun _ _ _ => True) (stdStart (τ := τ)) stdViews := by
  refine scopedLocking_of_steps (fun es c t hr => (std_reaches hr t).ok) ?_ ?_ ?_
  · intro es c t u _ ht hu
    exact RecursiveMutex.held_unique ht hu
  · rintro c c' t ⟨es, a, hr, -, hs⟩
    obtain ⟨m, l, ha, rfl⟩ := Threads.step_eq_some.1 hs
    simp only [stdViews, Function.update_self]
    exact (stdAct_refines (std_reaches hr t) ha).step
  · rintro c c' t u ⟨es, a, hr, -, hs⟩ hu
    obtain ⟨m, l, ha, rfl⟩ := Threads.step_eq_some.1 hs
    simp only [stdViews, stdView, Function.update_of_ne hu, (stdAct_refines (std_reaches hr t) ha).others u hu]

theorem pthread_reaches {es : List (τ × ScopeAct)} {c : Threads τ (PthreadStatics τ) PthreadThread}
    (h : Reaches (Threads.step pthreadAct) (Threads.Legal PthreadLegal) pthreadStart es c) :
    c.All PthreadInv := by
  refine Threads.run_invariant ?_ ?_ ?_ h.1 h.2
  · intro t s l a s' l' hi hl h
    exact (pthreadAct_refines hi hl h).inv
  · intro t u s l lu a s' l' hu hi hiu hl h
    exact (pthreadAct_refines hi hl h).inv_other hu hiu
  · intro t
    refine ⟨rfl, trivial, fun _ => ⟨rfl, rfl⟩, ?_, by simp [pthreadStart]⟩
    rintro (h | ⟨k, h⟩)
    · exact absurd h (by simp [pthreadStart])
    · exact absurd h (by simp [pthreadStart])

theorem pthread_scopedLocking :
    ScopedLocking (Threads.step pthreadAct) (Threads.Legal PthreadLegal) (pthreadStart (τ := τ)) pthreadViews := by
  refine scopedLocking_of_steps (fun es c t hr => (pthread_reaches hr t).ok) ?_ ?_ ?_
  · intro es c t u _ ht hu
    simp only [pthreadViews, pthreadView, PthreadStatics.held] at ht hu
    rcases hm : c.shared.lock with _ | m <;> rw [hm] at ht hu
    · exact absurd ht (Nat.lt_irrefl 0)
    · exact RecursiveMutex.held_unique ht hu
  · rintro c c' t ⟨es, a, hr, hl, hs⟩
    obtain ⟨s, l, ha, rfl⟩ := Threads.step_eq_some.1 hs
    simp only [pthreadViews, Function.update_self]
    exact (pthreadAct_refines (pthread_reaches hr t) hl ha).step
  · rintro c c' t u ⟨es, a, hr, hl, hs⟩ hu
    obtain ⟨s, l, ha, rfl⟩ := Threads.step_eq_some.1 hs
    have hk := pthreadAct_refines (pthread_reaches hr t) hl ha
    simp only [pthreadViews, pthreadView, Function.update_of_ne hu, hk.held_other hu (pthread_reaches hr u)]

/-- **Scoped locks.** Any number of threads, any interleaving, any nesting. -/
theorem scoped_lock :
    ScopedLocking (Threads.step stdAct) (Threads.Legal fun _ _ _ => True) (stdStart (τ := τ)) stdViews ∧
    ScopedLocking (Threads.step pthreadAct) (Threads.Legal PthreadLegal) (pthreadStart (τ := τ)) pthreadViews ∧
    ∀ (t u : τ) (timeoutMS : Nat) (answers : Nat → Bool) (tries tries' : List Bool) (acquired acquired' : Bool),
      Ends (Threads.step stdAct) (Threads.Legal fun _ _ _ => True) (stdStart (τ := τ)) stdViews t timeoutMS
        tries acquired →
      Ends (Threads.step pthreadAct) (Threads.Legal PthreadLegal) (pthreadStart (τ := τ)) pthreadViews u
        timeoutMS tries' acquired' →
      tries = (List.range tries.length).map answers → tries' = (List.range tries'.length).map answers →
      tries = tries' ∧ acquired = acquired' := by
  refine ⟨std_scopedLocking, pthread_scopedLocking, ?_⟩
  intro t u timeoutMS answers tries tries' acquired acquired' h h' ha ha'
  have hout := h.outcome (fun es c t hr => (std_reaches hr t).ok) std_scopedLocking
  have hout' := h'.outcome (fun es c t hr => (pthread_reaches hr t).ok) pthread_scopedLocking
  exact hout.agree hout' ha ha'

/-- One thread initialises the mutex and acquires it by a try; the only try of another thread fails. -/
theorem scoped_lock_two_threads :
    ∃ c, Runs.run (Threads.step pthreadAct) (pthreadStart (τ := Nat))
        [(0, .start (.scopedTryLock 1)), (0, .go), (0, .go), (0, .go), (0, .go), (0, .go), (0, .go),
          (1, .start (.scopedTryLock 1)), (1, .go), (1, .go), (1, .go), (1, .go), (1, .go)] = some c ∧
      (pthreadViews c 0).count = [ScopeKind.scopedTryLock 1].length ∧ (pthreadViews c 1).tries = [false] := by
  obtain ⟨c, hc, hphase, hscopes, htries⟩ : ∃ c, Runs.run (Threads.step pthreadAct) (pthreadStart (τ := Nat))
      [(0, .start (.scopedTryLock 1)), (0, .go), (0, .go), (0, .go), (0, .go), (0, .go), (0, .go),
        (1, .start (.scopedTryLock 1)), (1, .go), (1, .go), (1, .go), (1, .go), (1, .go)] = some c ∧
      (pthreadViews c 0).phase = .body ∧ (pthreadViews c 0).scopes = [.scopedTryLock 1] ∧
      (pthreadViews c 1).tries = [false] := ⟨_, rfl, rfl, rfl, rfl⟩
  refine ⟨c, hc, ?_, htries⟩
  rw [← hscopes]
  refine (scoped_lock (τ := Nat)).2.1.counted _ c 0 ⟨?_, hc⟩ hphase
  repeat' first
    | exact trivial
    | refine (Runs.along_cons rfl).2 ⟨⟨by simp, fun k hk => ?_⟩, ?_⟩
  all_goals first
    | rfl
    | exact absurd hk (by simp [pthreadStart])

/-- Two threads find the flag unset. One initialises the mutex, locks it and is in its body when the other
initialises it again and locks it too. No call of the platform fails. -/
theorem pthread_bodies_overlap :
    ∃ es c, (∀ e ∈ es, e.2 ≠ ScopeAct.fails) ∧
      Runs.run (Threads.step pthreadAct) (pthreadStart (τ := Nat)) es = some c ∧
      (pthreadViews c 0).phase = .body ∧ (pthreadViews c 0).scopes = [.scopedLock] ∧
      (pthreadViews c 1).phase = .body ∧ (pthreadViews c 1).scopes = [.scopedLock] ∧
      (pthreadViews c 0).count = 0 := by
  refine ⟨[(0, .start .scopedLock), (0, .go), (1, .start .scopedLock), (1, .go), (0, .go), (0, .go), (0, .go),
    (0, .go), (1, .go), (1, .go), (1, .go), (1, .go)], _, by simp, rfl, rfl, rfl, rfl, rfl, rfl⟩

end GstSvpExt
