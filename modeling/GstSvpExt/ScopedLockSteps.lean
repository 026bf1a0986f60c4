import GstSvpExt.ScopedLock

/-!
# The steps of both build variants are steps of a scoped lock

`stdView` and `pthreadView` are what a scoped lock sees of a thread. Each variant has an assertion of a
thread about itself and the mutex (`StdInv`, `PthreadInv`) under which every step of the thread, seen
through its view, is a `ScopeStep`, and which no step of another thread disturbs. For the `std` variant
this needs nothing (`stdAct_refines`). For the `pthread` variant it needs that no thread initialises the
mutex once `_bMutexInit` is set (`pthreadAct_refines`).
-/

namespace GstSvpExt

variable {τ : Type*} [DecidableEq τ]

/-! ## `std::recursive_mutex` -/

def StdPc.phase : StdPc → ScopePhase
  | .body => .body
  | .lockGuard => .entering .scopedLock false
  | .tryLoop timeoutMS _ bLockAcquired => .entering (.scopedTryLock timeoutMS) bLockAcquired
  | .tryGuard timeoutMS | .tryUnlock timeoutMS => .entering (.scopedTryLock timeoutMS) true

def stdView (t : τ) (lock : RecursiveMutex τ) (l : StdThread) : ScopeThread :=
  ⟨l.scopes, l.pc.phase, lock.held t, l.tries⟩

/-- The counter counts the tries; the guard of an attempt that succeeded locks once more, for the
`unlock` after it. -/
def StdPc.Agrees (count scopes tries : Nat) : StdPc → Prop
  | .body | .lockGuard => True
  | .tryLoop _ nTryCount false => tries = nTryCount
  | .tryLoop _ _ true | .tryGuard _ => count = scopes + 1
  | .tryUnlock _ => count = scopes + 2

structure StdInv (t : τ) (lock : RecursiveMutex τ) (l : StdThread) : Prop where
  ok : (stdView t lock l).Ok
  pc : l.pc.Agrees (lock.held t) l.scopes.length l.tries.length

/-- A step keeps the assertion of its thread, is a step of a scoped lock, and leaves the counts of the
others. -/
structure StdKept (t : τ) (lock lock' : RecursiveMutex τ) (l l' : StdThread) : Prop where
  step : ScopeStep (stdView t lock l) (stdView t lock' l')
  inv : StdInv t lock' l'
  others : ∀ u ≠ t, lock'.held u = lock.held u

section
variable {t : τ} {lock lock' : RecursiveMutex τ} {l l' : StdThread}

/-- A step that leaves the mutex. -/
theorem StdInv.stays (hi : StdInv t lock l) (step : ScopeStep (stdView t lock l) (stdView t lock l'))
    (pc : l'.pc.Agrees (lock.held t) l'.scopes.length l'.tries.length) : StdKept t lock lock l l' :=
  ⟨step, ⟨step.ok hi.ok, pc⟩, fun _ _ => rfl⟩

/-- A step that locks the mutex once more. -/
theorem StdInv.locks (hi : StdInv t lock l) (hm : lock.lock t = some lock')
    (step : ScopeStep (stdView t lock l) ⟨l'.scopes, l'.pc.phase, lock.held t + 1, l'.tries⟩)
    (pc : l'.pc.Agrees (lock.held t + 1) l'.scopes.length l'.tries.length) : StdKept t lock lock' l l' := by
  rw [← RecursiveMutex.held_lock hm] at step pc
  exact ⟨step, ⟨step.ok hi.ok, pc⟩, fun u hu => RecursiveMutex.held_lock_of_ne hm hu⟩

/-- A step that unlocks it once. -/
theorem StdInv.unlocks (hi : StdInv t lock l) (hm : lock.unlock t = some lock')
    (step : ∀ count, count + 1 = lock.held t →
      ScopeStep (stdView t lock l) ⟨l'.scopes, l'.pc.phase, count, l'.tries⟩)
    (pc : l'.pc.Agrees (lock'.held t) l'.scopes.length l'.tries.length) : StdKept t lock lock' l l' := by
  have hstep : ScopeStep (stdView t lock l) (stdView t lock' l') :=
    step _ (RecursiveMutex.held_unlock hm)
  exact ⟨hstep, ⟨hstep.ok hi.ok, pc⟩, fun u hu => RecursiveMutex.held_unlock_of_ne hm hu⟩

/-- The loop of tries: a try, or the end of the attempt. -/
theorem StdInv.tries {timeoutMS : Nat} {scopes : List ScopeKind} {tries : List Bool}
    (hi : StdInv t lock ⟨.tryLoop timeoutMS tries.length false, scopes, tries⟩)
    (h : stdAct t lock ⟨.tryLoop timeoutMS tries.length false, scopes, tries⟩ .go = some (lock', l')) :
    StdKept t lock lock' ⟨.tryLoop timeoutMS tries.length false, scopes, tries⟩ l' := by
  have hok := hi.ok
  simp only [stdAct] at h
  split at h
  · next hlt =>
    split at h
    · next m hm =>
      obtain ⟨rfl, rfl⟩ := Prod.mk.inj (Option.some.inj h)
      exact hi.locks hm (.trySucceeds scopes _ tries hlt) (congrArg (· + 1) hok.1)
    · obtain ⟨rfl, rfl⟩ := Prod.mk.inj (Option.some.inj h)
      refine hi.stays (.tryFails scopes _ tries hlt) ?_
      show (tries ++ [false]).length = tries.length + 1
      rw [List.length_append, List.length_singleton]
  · next hge =>
    obtain ⟨rfl, rfl⟩ := Prod.mk.inj (Option.some.inj h)
    exact hi.stays (.givesUp scopes _ tries (Nat.le_antisymm hok.2.1 (Nat.le_of_not_lt hge))) trivial

/-- One step of a thread is a step of a scoped lock. -/
theorem stdAct_refines {a : ScopeAct} (hi : StdInv t lock l) (h : stdAct t lock l a = some (lock', l')) :
    StdKept t lock lock' l l' := by
  obtain ⟨pc, scopes, tries⟩ := l
  have hpc := hi.pc
  cases a with
  | start k =>
    cases pc with
    | body =>
      obtain ⟨rfl, rfl⟩ := Prod.mk.inj (Option.some.inj h)
      cases k with
      | scopedLock => exact hi.stays (.start ..) trivial
      | scopedTryLock timeoutMS => exact hi.stays (.start ..) rfl
    | _ => exact absurd h (by simp [stdAct])
  | leave =>
    cases pc with
    | body =>
      rcases scopes with _ | ⟨k, scopes⟩
      · exact absurd h (by simp [stdAct])
      · obtain ⟨m, hm, h⟩ := Option.map_eq_some_iff.1 h
        obtain ⟨rfl, rfl⟩ := Prod.mk.inj h
        refine hi.unlocks hm ?_ trivial
        intro count hcount
        unfold stdView
        rw [← hcount]
        exact .leave ..
    | _ => exact absurd h (by simp [stdAct])
  | go =>
    cases pc with
    | body => exact absurd h (by simp [stdAct])
    | lockGuard =>
      obtain ⟨m, hm, h⟩ := Option.map_eq_some_iff.1 h
      obtain ⟨rfl, rfl⟩ := Prod.mk.inj h
      exact hi.locks hm (.lockEnters ..) trivial
    | tryLoop timeoutMS nTryCount bLockAcquired =>
      cases bLockAcquired with
      | false =>
        obtain rfl : tries.length = nTryCount := hpc
        exact hi.tries h
      | true =>
        obtain ⟨rfl, rfl⟩ := Prod.mk.inj (Option.some.inj h)
        exact hi.stays (.wait ..) hpc
    | tryGuard timeoutMS =>
      obtain ⟨m, hm, h⟩ := Option.map_eq_some_iff.1 h
      obtain ⟨rfl, rfl⟩ := Prod.mk.inj h
      exact hi.locks hm (.deepen ..) (congrArg (· + 1) hpc)
    | tryUnlock timeoutMS =>
      obtain ⟨m, hm, h⟩ := Option.map_eq_some_iff.1 h
      obtain ⟨rfl, rfl⟩ := Prod.mk.inj h
      refine hi.unlocks hm ?_ trivial
      intro count hcount
      -- the guard's lock is all that is left
      obtain rfl : count = scopes.length + 1 := Nat.succ.inj (hcount.trans hpc)
      exact .tryEnters ..
  | fails => exact absurd h (by simp [stdAct])

/-- The assertion of another thread is not disturbed. -/
theorem StdKept.inv_other {u : τ} {lu : StdThread} (hk : StdKept t lock lock' l l') (hu : u ≠ t)
    (hi : StdInv u lock lu) : StdInv u lock' lu := by
  obtain ⟨hok, hpc⟩ := hi
  unfold stdView at hok
  rw [← hk.others u hu] at hok hpc
  exact ⟨hok, hpc⟩

end

/-! ## `ScopedMutex` -/

def PthreadPc.phase : PthreadPc → ScopePhase
  | .body => .body
  | .checkInit k | .initMutex k | .setInit k | .checkReady k => .entering k false
  | .lock => .entering .scopedLock false
  | .tryLoop timeoutMS _ => .entering (.scopedTryLock timeoutMS) false
  | .checkLocked timeoutMS bMutexAcquired => .entering (.scopedTryLock timeoutMS) bMutexAcquired

/-- How often `t` holds the mutex, if there is one. -/
def PthreadStatics.held (s : PthreadStatics τ) (t : τ) : Nat :=
  match s.lock with
  | none => 0
  | some m => m.held t

def pthreadView (t : τ) (s : PthreadStatics τ) (l : PthreadThread) : ScopeThread :=
  ⟨l.scopes.map ScopedMutex.kind, l.pc.phase, s.held t, l.tries⟩

/-- Past the second `if(_bMutexInit)`. -/
def PthreadPc.late : PthreadPc → Bool
  | .body | .checkInit _ | .initMutex _ | .setInit _ => false
  | _ => true

/-- No try was made before the loop, whose counter counts the tries; an attempt that failed made all of
them. -/
def PthreadPc.Agrees (count scopes tries : Nat) : PthreadPc → Prop
  | .body => True
  | .checkInit _ | .initMutex _ | .setInit _ | .checkReady _ | .lock => tries = 0
  | .tryLoop _ nCount => tries = nCount
  | .checkLocked timeoutMS false => tries = timeoutMS
  | .checkLocked _ true => count = scopes + 1

/-- While `_bMutexInit` is unset no thread has got to the mutex; once it is set the mutex is there. All
live objects have acquired it. -/
structure PthreadInv (t : τ) (s : PthreadStatics τ) (l : PthreadThread) : Prop where
  ok : (pthreadView t s l).Ok
  pc : l.pc.Agrees (s.held t) l.scopes.length l.tries.length
  early : s.bMutexInit = false → l.scopes = [] ∧ l.pc.late = false
  ready : s.bMutexInit = true ∨ (∃ k, l.pc = .setInit k) → s.lock.isSome
  acquired : ∀ scope ∈ l.scopes, scope.bMutexAcquired = true

/-- No call of the platform fails, and the mutex is initialised only while `_bMutexInit` is unset. This takes
`pthread_mutex_init` as one step: two calls that both come before the flag is set count as one after the
other. -/
def PthreadLegal (s : PthreadStatics τ) (l : PthreadThread) (a : ScopeAct) : Prop :=
  a ≠ .fails ∧ ∀ k, l.pc = .initMutex k → s.bMutexInit = false

/-- What a step of `t` does to the static members, as far as the others can tell: their counts stay, or
the mutex is made before any of them could have got to it. -/
structure PthreadShared (t : τ) (s s' : PthreadStatics τ) : Prop where
  flag : s.bMutexInit = true → s'.bMutexInit = true
  lock : s.lock.isSome → s'.lock.isSome
  held : (∀ u ≠ t, s'.held u = s.held u) ∨ (s.bMutexInit = false ∧ ∀ u, s'.held u = 0)

/-- A step keeps the assertion of its thread and is a step of a scoped lock. -/
structure PthreadKept (t : τ) (s s' : PthreadStatics τ) (l l' : PthreadThread) : Prop where
  step : ScopeStep (pthreadView t s l) (pthreadView t s' l')
  inv : PthreadInv t s' l'
  shared : PthreadShared t s s'

section
variable {t : τ} {s s' : PthreadStatics τ} {l l' : PthreadThread}

/-- A step that only reads the static members. -/
theorem PthreadInv.reads (hi : PthreadInv t s l) (step : ScopeStep (pthreadView t s l) (pthreadView t s l'))
    (pc : l'.pc.Agrees (s.held t) l'.scopes.length l'.tries.length)
    (early : s.bMutexInit = false → l'.scopes = [] ∧ l'.pc.late = false) (notSet : ∀ k, l'.pc ≠ .setInit k)
    (acquired : ∀ scope ∈ l'.scopes, scope.bMutexAcquired = true) : PthreadKept t s s l l' where
  step := step
  inv := {
    ok := step.ok hi.ok
    pc, early, acquired
    ready := by
      rintro (hflag | ⟨k, hk⟩)
      · exact hi.ready (Or.inl hflag)
      · exact absurd hk (notSet k) }
  shared := ⟨id, id, Or.inl fun _ _ => rfl⟩

/-- A step that locks or unlocks the mutex, which is initialised. -/
theorem PthreadInv.uses {m m' : RecursiveMutex τ} (hi : PthreadInv t s l) (hflag : s.bMutexInit = true)
    (hm : s.lock = some m) (hothers : ∀ u ≠ t, m'.held u = m.held u)
    (step : ScopeStep (pthreadView t s l) (pthreadView t { s with lock := some m' } l'))
    (pc : l'.pc.Agrees (m'.held t) l'.scopes.length l'.tries.length)
    (acquired : ∀ scope ∈ l'.scopes, scope.bMutexAcquired = true) :
    PthreadKept t s { s with lock := some m' } l l' where
  step := step
  inv := {
    ok := step.ok hi.ok
    pc, acquired
    early := fun h => absurd hflag (by rw [h]; exact Bool.false_ne_true)
    ready := fun _ => rfl }
  shared := ⟨id, fun _ => rfl, Or.inl fun u hu => by simp only [PthreadStatics.held, hm, hothers u hu]⟩

/-- A thread that is past the check, or has a scope, finds the mutex there. -/
theorem PthreadInv.initialised (hi : PthreadInv t s l) (h : l.scopes ≠ [] ∨ l.pc.late = true) :
    s.bMutexInit = true ∧ ∃ m, s.lock = some m ∧ s.held t = m.held t := by
  have hflag : s.bMutexInit = true := by
    by_contra hno
    obtain ⟨hs, hpc⟩ := hi.early (Bool.eq_false_iff.2 hno)
    rcases h with h | h
    · exact h hs
    · rw [hpc] at h
      exact Bool.false_ne_true h
  obtain ⟨m, hm⟩ := Option.isSome_iff_exists.1 (hi.ready (Or.inl hflag))
  exact ⟨hflag, m, hm, by simp only [PthreadStatics.held, hm]⟩

/-- `~ScopedMutex` of an object that has acquired the mutex. -/
theorem PthreadInv.leaves {scope : ScopedMutex} {scopes : List ScopedMutex} {tries : List Bool}
    (hi : PthreadInv t s ⟨.body, scope :: scopes, tries⟩) :
    PthreadKept t s (s.destruct t scope.bMutexAcquired) ⟨.body, scope :: scopes, tries⟩ ⟨.body, scopes, tries⟩ := by
  obtain ⟨hflag, m, hm, hheld⟩ := hi.initialised (Or.inl (by simp))
  have hcount : m.held t = scopes.length + 1 := by
    rw [← hheld]
    simpa [pthreadView] using hi.ok.body rfl
  obtain ⟨m', hm'⟩ := Option.isSome_iff_exists.1
    (RecursiveMutex.unlock_isSome.2 (by rw [hcount]; exact Nat.succ_pos _))
  have hdestruct : s.destruct t scope.bMutexAcquired = { s with lock := some m' } := by
    simp [PthreadStatics.destruct, hi.acquired scope List.mem_cons_self, hm, hm']
  rw [hdestruct]
  refine hi.uses hflag hm (fun u hu => RecursiveMutex.held_unlock_of_ne hm' hu) ?_ trivial
    fun scope' h' => hi.acquired scope' (List.mem_cons_of_mem _ h')
  unfold pthreadView
  rw [hheld, ← RecursiveMutex.held_unlock hm']
  exact .leave ..

/-- `pthread_mutex_init` while the flag is unset: no thread holds anything. -/
theorem PthreadInv.makes {k : ScopeKind} {scopes : List ScopedMutex} {tries : List Bool}
    (hi : PthreadInv t s ⟨.initMutex k, scopes, tries⟩) (hf : s.bMutexInit = false) :
    PthreadKept t s { s with lock := some .free } ⟨.initMutex k, scopes, tries⟩ ⟨.setInit k, scopes, tries⟩ := by
  obtain rfl : scopes = [] := (hi.early hf).1
  have hheld : s.held t = 0 := hi.ok.waiting rfl
  have hstep : ScopeStep (pthreadView t s ⟨.initMutex k, [], tries⟩)
      (pthreadView t { s with lock := some .free } ⟨.setInit k, [], tries⟩) := by
    unfold pthreadView
    rw [hheld, show ({ s with lock := some .free } : PthreadStatics τ).held t = 0 from
      RecursiveMutex.held_free t]
    exact .wait ..
  exact ⟨hstep, ⟨hstep.ok hi.ok, hi.pc, fun _ => ⟨rfl, rfl⟩, fun _ => rfl, by simp⟩,
    ⟨id, fun _ => rfl, Or.inr ⟨hf, RecursiveMutex.held_free⟩⟩⟩

/-- `pthread_mutex_lock` is granted. -/
theorem PthreadInv.locks {m m' : RecursiveMutex τ} {scopes : List ScopedMutex} {tries : List Bool}
    (hi : PthreadInv t s ⟨.lock, scopes, tries⟩) (hm : s.lock = some m) (hm' : m.lock t = some m') :
    PthreadKept t s { s with lock := some m' } ⟨.lock, scopes, tries⟩
      ⟨.body, ⟨.scopedLock, true⟩ :: scopes, tries⟩ := by
  obtain ⟨hflag, -⟩ := hi.initialised (Or.inr rfl)
  refine hi.uses hflag hm (fun u hu => RecursiveMutex.held_lock_of_ne hm' hu) ?_ trivial
    (List.forall_mem_cons.2 ⟨rfl, hi.acquired⟩)
  have hheld : ({ s with lock := some m' } : PthreadStatics τ).held t = s.held t + 1 := by
    simp only [PthreadStatics.held, hm, RecursiveMutex.held_lock hm']
  unfold pthreadView
  rw [hheld]
  exact .lockEnters ..

/-- `pthread_mutex_trylock` succeeds, before the timeout. -/
theorem PthreadInv.tryLocks {m m' : RecursiveMutex τ} {timeoutMS : Nat} {scopes : List ScopedMutex}
    {tries : List Bool} (hi : PthreadInv t s ⟨.tryLoop timeoutMS tries.length, scopes, tries⟩)
    (hlt : tries.length < timeoutMS) (hm : s.lock = some m) (hm' : m.tryLock t = some m') :
    PthreadKept t s { s with lock := some m' } ⟨.tryLoop timeoutMS tries.length, scopes, tries⟩
      ⟨.checkLocked timeoutMS true, scopes, tries ++ [true]⟩ := by
  obtain ⟨hflag, -⟩ := hi.initialised (Or.inr rfl)
  have hheld : ({ s with lock := some m' } : PthreadStatics τ).held t = s.held t + 1 := by
    simp only [PthreadStatics.held, hm, RecursiveMutex.held_lock hm']
  have hcount : s.held t = scopes.length := by
    simpa [pthreadView] using hi.ok.waiting rfl
  refine hi.uses hflag hm (fun u hu => RecursiveMutex.held_lock_of_ne hm' hu) ?_
    (hheld.trans (congrArg (· + 1) hcount)) hi.acquired
  unfold pthreadView
  rw [hheld]
  exact .trySucceeds _ _ tries hlt

/-- A step past the check that only reads the static members. -/
theorem PthreadInv.readsLate (hi : PthreadInv t s l) (hlate : l.pc.late = true)
    (step : ScopeStep (pthreadView t s l) (pthreadView t s l'))
    (pc : l'.pc.Agrees (s.held t) l'.scopes.length l'.tries.length) (notSet : ∀ k, l'.pc ≠ .setInit k)
    (acquired : ∀ scope ∈ l'.scopes, scope.bMutexAcquired = true) : PthreadKept t s s l l' := by
  obtain ⟨hflag, -⟩ := hi.initialised (Or.inr hlate)
  exact hi.reads step pc (fun h0 => absurd (hflag.symm.trans h0) (by simp)) notSet acquired

/-- The loop of tries: a try, or the end of the attempt. -/
theorem PthreadInv.tries {timeoutMS : Nat} {scopes : List ScopedMutex} {tries : List Bool}
    (hi : PthreadInv t s ⟨.tryLoop timeoutMS tries.length, scopes, tries⟩)
    (h : pthreadAct t s ⟨.tryLoop timeoutMS tries.length, scopes, tries⟩ .go = some (s', l')) :
    PthreadKept t s s' ⟨.tryLoop timeoutMS tries.length, scopes, tries⟩ l' := by
  simp only [pthreadAct] at h
  split at h
  · next hlt =>
    obtain ⟨m, hm, h⟩ := Option.bind_eq_some_iff.1 h
    split at h
    · next m' hm' =>
      obtain ⟨rfl, rfl⟩ := Prod.mk.inj (Option.some.inj h)
      exact hi.tryLocks hlt hm hm'
    · obtain ⟨rfl, rfl⟩ := Prod.mk.inj (Option.some.inj h)
      refine hi.readsLate rfl (.tryFails _ _ tries hlt) ?_ (by simp) hi.acquired
      show (tries ++ [false]).length = tries.length + 1
      rw [List.length_append, List.length_singleton]
  · next hge =>
    obtain ⟨rfl, rfl⟩ := Prod.mk.inj (Option.some.inj h)
    have hT : tries.length = timeoutMS := Nat.le_antisymm hi.ok.2.1 (Nat.le_of_not_lt hge)
    exact hi.readsLate rfl (.wait ..) hT (by simp) hi.acquired

/-- The end of an attempt: into the body, with the mutex or without. -/
theorem PthreadInv.checks {timeoutMS : Nat} {bMutexAcquired : Bool} {scopes : List ScopedMutex} {tries : List Bool}
    (hi : PthreadInv t s ⟨.checkLocked timeoutMS bMutexAcquired, scopes, tries⟩)
    (h : pthreadAct t s ⟨.checkLocked timeoutMS bMutexAcquired, scopes, tries⟩ .go = some (s', l')) :
    PthreadKept t s s' ⟨.checkLocked timeoutMS bMutexAcquired, scopes, tries⟩ l' := by
  cases bMutexAcquired with
  | true =>
    obtain ⟨rfl, rfl⟩ := Prod.mk.inj (Option.some.inj h)
    have hcount : s.held t = scopes.length + 1 := hi.pc
    have hstep := ScopeStep.tryEnters (scopes.map ScopedMutex.kind) (s.held t) tries timeoutMS
    rw [List.length_map, ← hcount] at hstep
    exact hi.readsLate rfl hstep trivial (by simp) (List.forall_mem_cons.2 ⟨rfl, hi.acquired⟩)
  | false =>
    obtain ⟨rfl, rfl⟩ := Prod.mk.inj (Option.some.inj h)
    exact hi.readsLate rfl (.givesUp _ _ tries hi.pc) trivial (by simp) hi.acquired

/-- One step of a thread is a step of a scoped lock, if the mutex is initialised only while the flag is
unset. -/
theorem pthreadAct_refines {a : ScopeAct} (hi : PthreadInv t s l) (hl : PthreadLegal s l a)
    (h : pthreadAct t s l a = some (s', l')) : PthreadKept t s s' l l' := by
  obtain ⟨pc, scopes, tries⟩ := l
  have hpc := hi.pc
  cases a with
  | start k =>
    cases pc with
    | body =>
      obtain ⟨rfl, rfl⟩ := Prod.mk.inj (Option.some.inj h)
      exact hi.reads (.start ..) rfl (fun hf => ⟨(hi.early hf).1, rfl⟩) (by simp) hi.acquired
    | _ => exact absurd h (by simp [pthreadAct])
  | leave =>
    cases pc with
    | body =>
      rcases scopes with _ | ⟨scope, scopes⟩
      · exact absurd h (by simp [pthreadAct])
      · obtain ⟨rfl, rfl⟩ := Prod.mk.inj (Option.some.inj h)
        exact hi.leaves
    | _ => exact absurd h (by simp [pthreadAct])
  | go =>
    cases pc with
    | body => exact absurd h (by simp [pthreadAct])
    | checkInit k =>
      obtain ⟨rfl, rfl⟩ := Prod.mk.inj (Option.some.inj h)
      cases hf : s.bMutexInit with
      | false => exact hi.reads (.wait ..) hpc (fun _ => ⟨(hi.early hf).1, rfl⟩) (by simp) hi.acquired
      | true => exact hi.reads (.wait ..) hpc (fun h0 => absurd (hf.symm.trans h0) (by simp)) (by simp) hi.acquired
    | initMutex k =>
      obtain ⟨rfl, rfl⟩ := Prod.mk.inj (Option.some.inj h)
      exact hi.makes (hl.2 k rfl)
    | setInit k =>
      obtain ⟨rfl, rfl⟩ := Prod.mk.inj (Option.some.inj h)
      have hstep : ScopeStep (pthreadView t s ⟨.setInit k, scopes, tries⟩)
          (pthreadView t { s with bMutexInit := true } ⟨.checkReady k, scopes, tries⟩) := .wait ..
      have hready := hi.ready (Or.inr ⟨k, rfl⟩)
      exact ⟨hstep, ⟨hstep.ok hi.ok, hpc, fun h0 => absurd h0 (by simp), fun _ => hready, hi.acquired⟩,
        ⟨fun _ => rfl, id, Or.inl fun _ _ => rfl⟩⟩
    | checkReady k =>
      obtain ⟨hflag, -⟩ := hi.initialised (Or.inr rfl)
      cases k with
      | scopedLock | scopedTryLock timeoutMS =>
        simp only [pthreadAct, hflag, if_true] at h
        obtain ⟨rfl, rfl⟩ := Prod.mk.inj (Option.some.inj h)
        exact hi.readsLate rfl (.wait ..) hpc (by simp) hi.acquired
    | lock =>
      simp only [pthreadAct, Option.bind_eq_bind, Option.bind_eq_some_iff] at h
      obtain ⟨m, hm, m', hm', h⟩ := h
      obtain ⟨rfl, rfl⟩ := Prod.mk.inj (Option.some.inj h)
      exact hi.locks hm hm'
    | tryLoop timeoutMS nCount =>
      obtain rfl : tries.length = nCount := hpc
      exact hi.tries h
    | checkLocked timeoutMS bMutexAcquired => exact hi.checks h
  | fails => exact absurd rfl hl.1

/-- A thread that has not got to the mutex does not hold it. -/
theorem PthreadInv.held_early {u : τ} {lu : PthreadThread} (hi : PthreadInv u s lu) (hf : s.bMutexInit = false) :
    s.held u = 0 := by
  obtain ⟨hs, hpc⟩ := hi.early hf
  have hlen : (pthreadView u s lu).scopes.length = 0 := by simp [pthreadView, hs]
  rw [← hlen]
  rcases hp : lu.pc with _ | k | k | k | k | _ | _ | _ <;> rw [hp] at hpc
  case body => exact hi.ok.body (by simp [pthreadView, hp, PthreadPc.phase])
  case checkInit | initMutex | setInit =>
    exact hi.ok.waiting (k := k) (by simp [pthreadView, hp, PthreadPc.phase])
  all_goals exact absurd hpc (by simp [PthreadPc.late])

/-- The count of another thread stays: if the mutex is made, that thread does not hold it yet. -/
theorem PthreadKept.held_other {u : τ} {lu : PthreadThread} (hk : PthreadKept t s s' l l') (hu : u ≠ t)
    (hi : PthreadInv u s lu) : s'.held u = s.held u := by
  rcases hk.shared.held with h | ⟨hf, h⟩
  · exact h u hu
  · rw [h u, hi.held_early hf]

theorem PthreadKept.inv_other {u : τ} {lu : PthreadThread} (hk : PthreadKept t s s' l l') (hu : u ≠ t)
    (hi : PthreadInv u s lu) : PthreadInv u s' lu := by
  have hheld := hk.held_other hu hi
  have hmono : s'.bMutexInit = false → s.bMutexInit = false := by
    intro h0
    by_contra hno
    rw [hk.shared.flag (Bool.not_eq_false _ ▸ hno)] at h0
    exact Bool.noConfusion h0
  refine ⟨?_, ?_, fun h0 => hi.early (hmono h0), ?_, hi.acquired⟩
  · have hok := hi.ok
    unfold pthreadView at hok ⊢
    rwa [hheld]
  · rw [hheld]
    exact hi.pc
  · rintro (hflag | hset)
    · exact hk.inv.ready (Or.inl hflag)
    · exact hk.shared.lock (hi.ready (Or.inr hset))

end

end GstSvpExt
