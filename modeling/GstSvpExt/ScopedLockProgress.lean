import GstSvpExt.ScopedLockRun

/-!
# Nobody waits for ever in a scoped lock

What is left of a thread's way out of its scopes is a number (`StdThread.work`, `PthreadThread.work`) that
each of its steps lessens and no step of another thread touches. A thread that cannot go on waits for
another one that can (`std_waits`, `pthread_waits`). So an attempt with a timeout ends after a bounded
number of its own steps without ever waiting (`timed_attempts`), and a program that opens no new scopes
comes to an end, in any order of steps, with the mutex free (`scoped_locks_drain`). Of the `pthread`
variant this needs less than its scopes do: calls may fail, and attempts end even where the mutex is
initialised twice (`PthreadBound`).
-/

namespace GstSvpExt

variable {τ : Type*} [DecidableEq τ]

/-! ## What progress means -/

/-- In no scope, and on the way into none. -/
def ScopeThread.Out (v : ScopeThread) : Prop := v.phase = .body ∧ v.scopes = []

theorem ScopeThread.Ok.out {v : ScopeThread} (h : v.Ok) (hout : v.Out) : v.count = 0 := by
  rw [h.body hout.1, hout.2]
  rfl

/-- A step on the way into a scope, where a call of the platform may fail. -/
def ScopeAct.Inward (a : ScopeAct) : Prop := a = .go ∨ a = .fails

/-- A step that opens no new scope. -/
def ScopeAct.Onward (a : ScopeAct) : Prop := a.Inward ∨ a = .leave

section
variable {C : Type*}

/-- The thread can take a legal step that opens no new scope and in which no call fails. -/
def CanGo (step : C → τ × ScopeAct → Option C) (legal : C → τ × ScopeAct → Prop) (c : C) (t : τ) : Prop :=
  ∃ a : ScopeAct, (a = .go ∨ a = .leave) ∧ legal c (t, a) ∧ (step c (t, a)).isSome

/-- The steps that a thread needs at most until it is out, if it opens no new scope. -/
def ScopeThread.work (v : ScopeThread) : Nat :=
  v.scopes.length + match v.phase with
    | .body => 0
    | .entering .scopedLock _ => 6
    | .entering (.scopedTryLock timeoutMS) _ => timeoutMS + 6

/-- The threads that took part in a run. -/
def threadsOf (es : List (τ × ScopeAct)) : Finset τ := (es.map Prod.fst).toFinset

/-- The thread is on its way into a `SCOPED_LOCK`, and another one holds the mutex. -/
def WaitsForLock (view : C → τ → ScopeThread) (c : C) (t u : τ) : Prop :=
  (view c t).phase = .entering .scopedLock false ∧ 0 < (view c u).count

/-- A program that opens no new scopes.
* `waits`: in every state, a thread that is not out can go on, or waits for one that can;
* `ends`: what it still does, in any order and with any calls failing, is bounded by what its threads have
  to do;
* `free`: where no thread can go on, all are out and none holds the mutex. -/
structure Drains (step : C → τ × ScopeAct → Option C) (legal : C → τ × ScopeAct → Prop) (start : C)
    (view : C → τ → ScopeThread) (waitsFor : C → τ → τ → Prop) : Prop where
  waits : ∀ es c t, Reaches step legal start es c → ¬ (view c t).Out →
    CanGo step legal c t ∨ ∃ u ≠ t, waitsFor c t u ∧ CanGo step legal c u
  ends : ∀ es es' c c', Reaches step legal start es c → Reaches step legal start (es ++ es') c' →
    (∀ e ∈ es', e.2.Onward) → es'.length ≤ ∑ t ∈ threadsOf es, (view c t).work
  free : ∀ es c, Reaches step legal start es c → (∀ t, ¬ CanGo step legal c t) →
    ∀ t, (view c t).Out ∧ (view c t).count = 0

/-- An attempt with a timeout that a thread starts in a body, in any run: however the others go on and
whatever calls fail, it is over after `timeoutMS + 6` steps of its own, and until then there is always one
that it can take. -/
def TimedAttempts (step : C → τ × ScopeAct → Option C) (start : C) (view : C → τ → ScopeThread) : Prop :=
  ∀ es es' c' t timeoutMS,
    Runs.run step start (es ++ (t, .start (.scopedTryLock timeoutMS)) :: es') = some c' →
    (∀ e ∈ es', e.1 = t → e.2.Inward) →
    Threads.turns t es' ≤ timeoutMS + 6 ∧ ((view c' t).phase = .body ∨ (step c' (t, .go)).isSome)

end

/-! ## From steps to runs -/

section
variable {S L : Type*}

/-- What the program text of one thread says about its steps. -/
structure LocalWork (act : τ → S → L → ScopeAct → Option (S × L)) (phase : L → ScopePhase)
    (scopes : L → Nat) (work : L → Nat) : Prop where
  lessens : ∀ t s l a s' l', a.Onward → act t s l a = some (s', l') → work l' < work l
  scopes_le : ∀ l, scopes l ≤ work l
  start : ∀ t s l timeoutMS s' l', act t s l (.start (.scopedTryLock timeoutMS)) = some (s', l') →
    work l' ≤ scopes l + (timeoutMS + 6) ∧ scopes l' = scopes l ∧
      phase l' = .entering (.scopedTryLock timeoutMS) false
  inward : ∀ t s l a s' l', a.Inward → act t s l a = some (s', l') → scopes l ≤ scopes l' ∧
    ∃ k b, phase l = .entering k b ∧ (phase l' = .body ∨ ∃ b', phase l' = .entering k b')

variable {act : τ → S → L → ScopeAct → Option (S × L)} {legal : Threads τ S L → τ × ScopeAct → Prop}
  {start : Threads τ S L} {view : Threads τ S L → τ → ScopeThread} {phase : L → ScopePhase}
  {scopes : L → Nat} {work : L → Nat}

theorem along_unrestricted {c : Threads τ S L} {es : List (τ × ScopeAct)} :
    Runs.Along (Threads.step act) (Threads.Legal fun _ _ _ => True) c es :=
  Runs.along_of_forall fun _ _ _ => trivial

theorem Reaches.next {es es' : List (τ × ScopeAct)} {c c' : Threads τ S L}
    (h : Reaches (Threads.step act) legal start es c)
    (h' : Reaches (Threads.step act) legal start (es ++ es') c') : Runs.run (Threads.step act) c es' = some c' := by
  have hrun := h'.2
  rwa [Runs.run_append, h.2, Option.bind_some] at hrun

theorem drains_of_work {waitsFor : Threads τ S L → τ → τ → Prop} (hw : LocalWork act phase scopes work)
    (hstart : ∀ t, work (start.thread t) = 0) (hview : ∀ c t, work (c.thread t) ≤ (view c t).work)
    (hwaits : ∀ es c t, Reaches (Threads.step act) legal start es c → ¬ (view c t).Out →
      CanGo (Threads.step act) legal c t ∨ ∃ u ≠ t, waitsFor c t u ∧ CanGo (Threads.step act) legal c u)
    (hout : ∀ es c t, Reaches (Threads.step act) legal start es c → (view c t).Out → (view c t).count = 0) :
    Drains (Threads.step act) legal start view waitsFor := by
  constructor
  case waits => exact hwaits
  case ends =>
    intro es es' c c' hr hr' hmoves
    have hidle : ∀ t ∉ threadsOf es, work (c.thread t) = 0 := by
      intro t ht
      have hne : ∀ e ∈ es, e.1 ≠ t := by
        intro e he hte
        exact ht (by simpa [threadsOf] using ⟨e.2, hte ▸ he⟩)
      rw [Threads.run_thread_of_ne hne hr.2, hstart]
    exact (Threads.run_length hw.lessens hidle hmoves (hr.next hr')).trans
      (Finset.sum_le_sum fun t _ => hview c t)
  case free =>
    intro es c hr hstuck t
    have ht : (view c t).Out := by
      by_contra hno
      rcases hwaits es c t hr hno with hgo | ⟨u, -, -, hgo⟩
      · exact hstuck t hgo
      · exact hstuck u hgo
    exact ⟨ht, hout es c t hr ht⟩

theorem timedAttempts_of_work (hw : LocalWork act phase scopes work)
    (hphase : ∀ c t, (view c t).phase = phase (c.thread t))
    (hgoes : ∀ es c t timeoutMS b, Runs.run (Threads.step act) start es = some c →
      phase (c.thread t) = .entering (.scopedTryLock timeoutMS) b → (Threads.step act c (t, .go)).isSome) :
    TimedAttempts (Threads.step act) start view := by
  intro es es' c' t timeoutMS hr hin
  obtain ⟨c, -, hrun⟩ := Option.bind_eq_some_iff.1 ((Runs.run_append ..).symm.trans hr)
  rw [Runs.run_cons, Option.bind_eq_some_iff] at hrun
  obtain ⟨c1, hs, hrun⟩ := hrun
  obtain ⟨s, l, ha, rfl⟩ := Threads.step_eq_some.1 hs
  obtain ⟨hwork, hscopes, hentering⟩ := hw.start _ _ _ _ _ _ ha
  -- its scopes stay, and it is on its way into this one or past it
  have hkept : scopes l ≤ scopes (c'.thread t) ∧
      (phase (c'.thread t) = .body ∨ ∃ b, phase (c'.thread t) = .entering (.scopedTryLock timeoutMS) b) := by
    refine Threads.run_keeps (fun m => scopes l ≤ scopes m ∧
        (phase m = .body ∨ ∃ b, phase m = .entering (.scopedTryLock timeoutMS) b)) ScopeAct.Inward ?_ hin ?_ hrun
    · rintro s1 l1 a s2 l2 ⟨hle, hat⟩ hina h1
      obtain ⟨hmore, k, b, hk, hnext⟩ := hw.inward _ _ _ _ _ _ hina h1
      refine ⟨hle.trans hmore, ?_⟩
      rcases hat with hbody | ⟨b0, hb0⟩
      · exact absurd (hbody.symm.trans hk) (by simp)
      · obtain ⟨rfl, -⟩ := ScopePhase.entering.inj (hb0.symm.trans hk)
        exact hnext
    · simp only [Function.update_self]
      exact ⟨Nat.le_refl _, Or.inr ⟨false, hentering⟩⟩
  constructor
  · have hturns := Threads.run_turns work ScopeAct.Onward
      (fun s l a s' l' => hw.lessens t s l a s' l') (fun e he hte => Or.inl (hin e he hte)) hrun
    simp only [Function.update_self] at hturns
    have hleft := hw.scopes_le (c'.thread t)
    omega
  · rcases hkept.2 with hbody | ⟨b, hb⟩
    · exact Or.inl ((hphase c' t).trans hbody)
    · exact Or.inr (hgoes _ c' t timeoutMS b hr hb)

end

/-! ## `std::recursive_mutex` -/

/-- The steps that are left until the thread is out, at most. -/
def StdThread.work (l : StdThread) : Nat :=
  l.scopes.length + match l.pc with
    | .body => 0
    | .lockGuard => 2
    | .tryLoop timeoutMS nTryCount false => timeoutMS - nTryCount + 5
    | .tryLoop _ _ true => 4
    | .tryGuard _ => 3
    | .tryUnlock _ => 2

section
variable {t : τ} {lock lock' : RecursiveMutex τ} {l l' : StdThread}

/-- A step on the way into a scope is one of the steps that were left; the scopes stay, and the thread is on
its way into this one or past it. -/
theorem stdAct_inward {a : ScopeAct} (ha : a.Inward) (h : stdAct t lock l a = some (lock', l')) :
    l'.work < l.work ∧ l.scopes.length ≤ l'.scopes.length ∧
      ∃ k b, l.pc.phase = .entering k b ∧ (l'.pc.phase = .body ∨ ∃ b', l'.pc.phase = .entering k b') := by
  obtain ⟨pc, scopes, tries⟩ := l
  rcases ha with rfl | rfl
  · cases pc with
    | body => exact absurd h (by simp [stdAct])
    | lockGuard | tryGuard timeoutMS | tryUnlock timeoutMS =>
      obtain ⟨m, -, h⟩ := Option.map_eq_some_iff.1 h
      obtain ⟨rfl, rfl⟩ := Prod.mk.inj h
      refine ⟨?_, by simp [StdPc.phase]⟩
      simp only [StdThread.work, List.length_cons]
      omega
    | tryLoop timeoutMS nTryCount bLockAcquired =>
      cases bLockAcquired with
      | true =>
        obtain ⟨rfl, rfl⟩ := Prod.mk.inj (Option.some.inj h)
        refine ⟨?_, by simp [StdPc.phase]⟩
        simp only [StdThread.work]
        omega
      | false =>
        simp only [stdAct] at h
        split at h
        · split at h <;>
            (obtain ⟨rfl, rfl⟩ := Prod.mk.inj (Option.some.inj h)
             refine ⟨?_, by simp [StdPc.phase]⟩
             simp only [StdThread.work]
             omega)
        · obtain ⟨rfl, rfl⟩ := Prod.mk.inj (Option.some.inj h)
          refine ⟨?_, by simp [StdPc.phase]⟩
          simp only [StdThread.work]
          omega
  · exact absurd h (by simp [stdAct])

/-- Every step but the opening of a scope is one of the steps that were left. -/
theorem stdAct_work {a : ScopeAct} (ha : a.Onward) (h : stdAct t lock l a = some (lock', l')) :
    l'.work < l.work := by
  rcases ha with ha | rfl
  · exact (stdAct_inward ha h).1
  obtain ⟨pc, scopes, tries⟩ := l
  cases pc with
  | body =>
    rcases scopes with _ | ⟨k, scopes⟩
    · exact absurd h (by simp [stdAct])
    · obtain ⟨m, -, h⟩ := Option.map_eq_some_iff.1 h
      obtain ⟨rfl, rfl⟩ := Prod.mk.inj h
      simp only [StdThread.work, List.length_cons]
      omega
  | _ => exact absurd h (by simp [stdAct])

/-- A thread on its way goes on, unless it is at the `lock_guard` of `SCOPED_LOCK` and another one holds the
mutex. -/
theorem StdInv.goes (hi : StdInv t lock l) (hp : l.pc ≠ .body) :
    (stdAct t lock l .go).isSome ∨ (l.pc = .lockGuard ∧ ∃ u ≠ t, 0 < lock.held u) := by
  obtain ⟨pc, scopes, tries⟩ := l
  have hpc := hi.pc
  -- a thread that holds the mutex is granted another lock
  have hgranted : 0 < lock.held t → (lock.lock t).isSome := by
    intro hheld
    refine RecursiveMutex.lock_isSome.2 ?_
    intro u hu
    by_contra hne
    exact hu (RecursiveMutex.held_unique (Nat.pos_of_ne_zero hne) hheld)
  cases pc with
  | body => exact absurd rfl hp
  | lockGuard =>
    by_cases hfree : ∀ u ≠ t, lock.held u = 0
    · have hlock := RecursiveMutex.lock_isSome.2 hfree
      exact Or.inl (by simpa [stdAct] using hlock)
    · push Not at hfree
      obtain ⟨u, hu, hheld⟩ := hfree
      exact Or.inr ⟨rfl, u, hu, Nat.pos_of_ne_zero hheld⟩
  | tryLoop timeoutMS nTryCount bLockAcquired =>
    refine Or.inl ?_
    cases bLockAcquired with
    | true => rfl
    | false =>
      simp only [stdAct]
      split
      · split <;> rfl
      · rfl
  | tryGuard timeoutMS =>
    have hcount : lock.held t = scopes.length + 1 := hpc
    have hlock := hgranted (by omega)
    exact Or.inl (by simpa [stdAct] using hlock)
  | tryUnlock timeoutMS =>
    have hcount : lock.held t = scopes.length + 2 := hpc
    have hheld : 0 < lock.held t := by omega
    have hunlock := RecursiveMutex.unlock_isSome.2 hheld
    exact Or.inl (by simpa [stdAct] using hunlock)

/-- A thread in a body leaves its innermost scope. -/
theorem StdInv.leaves (hi : StdInv t lock l) (hp : l.pc = .body) (hs : l.scopes ≠ []) :
    (stdAct t lock l .leave).isSome := by
  obtain ⟨pc, scopes, tries⟩ := l
  obtain rfl : pc = .body := hp
  have hcount : lock.held t = scopes.length := hi.ok.body rfl
  rcases scopes with _ | ⟨k, scopes⟩
  · exact absurd rfl hs
  · have hheld : 0 < lock.held t := by rw [hcount]; exact Nat.succ_pos _
    have hunlock := RecursiveMutex.unlock_isSome.2 hheld
    simpa [stdAct] using hunlock

end

theorem std_localWork :
    LocalWork (stdAct (τ := τ)) (fun l => l.pc.phase) (fun l => l.scopes.length) StdThread.work where
  lessens _ _ _ _ _ _ ha h := stdAct_work ha h
  scopes_le _ := Nat.le_add_right _ _
  start := by
    rintro t lock ⟨pc, scopes, tries⟩ timeoutMS lock' l' h
    cases pc with
    | body =>
      obtain ⟨rfl, rfl⟩ := Prod.mk.inj (Option.some.inj h)
      refine ⟨?_, rfl, rfl⟩
      simp only [StdThread.work]
      omega
    | _ => exact absurd h (by simp [stdAct])
  inward _ _ _ _ _ _ ha h := (stdAct_inward ha h).2

theorem std_work_le (c : Threads τ (RecursiveMutex τ) StdThread) (t : τ) :
    (c.thread t).work ≤ (stdViews c t).work := by
  unfold StdThread.work ScopeThread.work stdViews stdView
  apply Nat.add_le_add_left
  rcases (c.thread t).pc with _ | _ | ⟨timeoutMS, nTryCount, _ | _⟩ | timeoutMS | timeoutMS <;>
    simp only [StdPc.phase] <;> omega

theorem std_canGo {es : List (τ × ScopeAct)} {c : Threads τ (RecursiveMutex τ) StdThread} {t : τ}
    (hr : Reaches (Threads.step stdAct) (Threads.Legal fun _ _ _ => True) stdStart es c)
    (hout : ¬ (stdViews c t).Out) :
    CanGo (Threads.step stdAct) (Threads.Legal fun _ _ _ => True) c t ∨
      ((stdViews c t).phase = .entering .scopedLock false ∧ ∃ u ≠ t, 0 < (stdViews c u).count) := by
  have hi := std_reaches hr t
  by_cases hp : (c.thread t).pc = .body
  · have hs : (c.thread t).scopes ≠ [] := by
      intro hs
      exact hout ⟨by simp [stdViews, stdView, hp, StdPc.phase], hs⟩
    refine Or.inl ⟨.leave, Or.inr rfl, trivial, ?_⟩
    simpa [Threads.step] using hi.leaves hp hs
  · rcases hi.goes hp with hgo | ⟨hguard, hwait⟩
    · refine Or.inl ⟨.go, Or.inl rfl, trivial, ?_⟩
      simpa [Threads.step] using hgo
    · exact Or.inr ⟨by simp [stdViews, stdView, hguard, StdPc.phase], hwait⟩

/-- **No deadlock.** The thread that is waited for can go on. -/
theorem std_waits (es : List (τ × ScopeAct)) (c : Threads τ (RecursiveMutex τ) StdThread) (t : τ)
    (hr : Reaches (Threads.step stdAct) (Threads.Legal fun _ _ _ => True) stdStart es c)
    (hout : ¬ (stdViews c t).Out) :
    CanGo (Threads.step stdAct) (Threads.Legal fun _ _ _ => True) c t ∨
      ∃ u ≠ t, WaitsForLock stdViews c t u ∧
        CanGo (Threads.step stdAct) (Threads.Legal fun _ _ _ => True) c u := by
  rcases std_canGo hr hout with hgo | ⟨hp, u, hu, hcount⟩
  · exact Or.inl hgo
  · refine Or.inr ⟨u, hu, ⟨hp, hcount⟩, ?_⟩
    have hin : ¬ (stdViews c u).Out := by
      intro hout
      exact absurd ((std_reaches hr u).ok.out hout) (Nat.ne_of_gt hcount)
    rcases std_canGo hr hin with hgo | ⟨-, v, hv, hcountv⟩
    · exact hgo
    · exact absurd (RecursiveMutex.held_unique hcountv hcount) hv

/-! ## `ScopedMutex` -/

/-- How many locks a thread has taken and not given back: one for each scope that acquired the mutex, and
one in the macro between the loop of tries and the body. -/
def PthreadThread.taken (l : PthreadThread) : Nat :=
  l.scopes.countP ScopedMutex.bMutexAcquired + match l.pc with
    | .checkLocked _ true => 1
    | _ => 0

/-- The thread has taken the mutex, or is about to. -/
def PthreadThread.AtMutex (l : PthreadThread) : Prop :=
  0 < l.taken ∨ l.pc = .lock ∨ ∃ timeoutMS nCount, l.pc = .tryLoop timeoutMS nCount

/-- What holds in any run, whatever calls fail and however often the mutex is initialised: a thread holds
the mutex no more often than it has taken it, the mutex is there once the flag is set, and nobody gets to
it before that. -/
structure PthreadBound (t : τ) (s : PthreadStatics τ) (l : PthreadThread) : Prop where
  count : s.held t ≤ l.taken
  ready : s.bMutexInit = true ∨ (∃ k, l.pc = .setInit k) → s.lock.isSome
  flag : l.AtMutex → s.bMutexInit = true

/-- A step keeps the bound of its thread and does not disturb those of the others. -/
structure PthreadBoundKept (t : τ) (s s' : PthreadStatics τ) (l' : PthreadThread) : Prop where
  inv : PthreadBound t s' l'
  flag : s.bMutexInit = true → s'.bMutexInit = true
  lock : s.lock.isSome → s'.lock.isSome
  held : ∀ u ≠ t, s'.held u ≤ s.held u

section
variable {t : τ} {s s' : PthreadStatics τ} {l l' : PthreadThread}

/-- A step that only reads the static members. -/
theorem PthreadBound.reads (hi : PthreadBound t s l) (htaken : l.taken ≤ l'.taken) (hset : ∀ k, l'.pc ≠ .setInit k)
    (hflag : l'.AtMutex → l.AtMutex ∨ s.bMutexInit = true) : PthreadBoundKept t s s l' where
  inv := {
    count := hi.count.trans htaken
    ready := by
      rintro (h | ⟨k, hk⟩)
      · exact hi.ready (Or.inl h)
      · exact absurd hk (hset k)
    flag := fun h => (hflag h).elim hi.flag id }
  flag := id
  lock := id
  held _ _ := Nat.le_refl _

/-- A step that only reads the static members and does not bring the thread to the mutex. -/
theorem PthreadBound.idles (hi : PthreadBound t s l) (htaken : l'.taken = l.taken)
    (hpc : l'.pc ≠ .lock ∧ (∀ timeoutMS nCount, l'.pc ≠ .tryLoop timeoutMS nCount) ∧ ∀ k, l'.pc ≠ .setInit k) :
    PthreadBoundKept t s s l' := by
  obtain ⟨hlock, hloop, hset⟩ := hpc
  refine hi.reads (Nat.le_of_eq htaken.symm) hset ?_
  rintro (h | h | ⟨timeoutMS, nCount, h⟩)
  · exact Or.inl (Or.inl (by rwa [← htaken]))
  · exact absurd h hlock
  · exact absurd h (hloop timeoutMS nCount)

/-- A step that locks or unlocks the mutex, which is initialised. -/
theorem PthreadBound.uses {m m' : RecursiveMutex τ} (hi : PthreadBound t s l) (hat : l.AtMutex) (hm : s.lock = some m)
    (hothers : ∀ u ≠ t, m'.held u = m.held u) (hcount : m.held t ≤ l.taken → m'.held t ≤ l'.taken) :
    PthreadBoundKept t s { s with lock := some m' } l' where
  inv := {
    count := by
      have hc := hi.count
      simp only [PthreadStatics.held, hm] at hc
      exact hcount hc
    ready := fun _ => rfl
    flag := fun _ => hi.flag hat }
  flag := id
  lock _ := rfl
  held u hu := by simp only [PthreadStatics.held, hm, hothers u hu]; exact Nat.le_refl _

/-- `~ScopedMutex`: an unlock of a mutex that is not the thread's any more does nothing. -/
theorem PthreadBound.leaves {scope : ScopedMutex} {scopes : List ScopedMutex} {tries : List Bool}
    (hi : PthreadBound t s ⟨.body, scope :: scopes, tries⟩) :
    PthreadBoundKept t s (s.destruct t scope.bMutexAcquired) ⟨.body, scopes, tries⟩ := by
  cases hacq : scope.bMutexAcquired with
  | false =>
    exact hi.idles (by simp [PthreadThread.taken, hacq]) (by simp)
  | true =>
    have htaken : PthreadThread.taken ⟨.body, scope :: scopes, tries⟩ =
        PthreadThread.taken ⟨.body, scopes, tries⟩ + 1 := by
      simp [PthreadThread.taken, hacq]
    have hat : PthreadThread.AtMutex ⟨.body, scope :: scopes, tries⟩ := Or.inl (by omega)
    obtain ⟨m, hm⟩ := Option.isSome_iff_exists.1 (hi.ready (Or.inl (hi.flag hat)))
    have hdestruct : s.destruct t true = { s with lock := some ((m.unlock t).getD m) } := by
      simp [PthreadStatics.destruct, hm]
    rw [hdestruct]
    cases hu : m.unlock t with
    | none =>
      have hzero : m.held t = 0 := by
        by_contra hne
        have hsome := RecursiveMutex.unlock_isSome.2 (Nat.pos_of_ne_zero hne)
        rw [hu] at hsome
        exact Bool.false_ne_true hsome
      exact hi.uses hat hm (fun _ _ => rfl) fun _ => hzero.trans_le (Nat.zero_le _)
    | some m' =>
      have hheld := RecursiveMutex.held_unlock hu
      exact hi.uses hat hm (fun u hne => RecursiveMutex.held_unlock_of_ne hu hne)
        fun hle => Nat.le_of_succ_le_succ ((hheld.trans_le hle).trans_eq htaken)

/-- `pthread_mutex_init`: nobody holds the mutex. -/
theorem PthreadBound.makes {k : ScopeKind} {scopes : List ScopedMutex} {tries : List Bool}
    (hi : PthreadBound t s ⟨.initMutex k, scopes, tries⟩) :
    PthreadBoundKept t s { s with lock := some .free } ⟨.setInit k, scopes, tries⟩ where
  inv := {
    count := (RecursiveMutex.held_free t).trans_le (Nat.zero_le _)
    ready := fun _ => rfl
    flag := by
      rintro (h | h | ⟨_, _, h⟩)
      · exact hi.flag (Or.inl h)
      · cases h
      · cases h }
  flag := id
  lock _ := rfl
  held u _ := (RecursiveMutex.held_free u).trans_le (Nat.zero_le _)

/-- Any step, legal or not. -/
theorem pthreadAct_bound {a : ScopeAct} (hi : PthreadBound t s l) (h : pthreadAct t s l a = some (s', l')) :
    PthreadBoundKept t s s' l' := by
  obtain ⟨pc, scopes, tries⟩ := l
  cases a with
  | start k =>
    cases pc with
    | body =>
      obtain ⟨rfl, rfl⟩ := Prod.mk.inj (Option.some.inj h)
      exact hi.idles rfl (by simp)
    | _ => exact absurd h (by simp [pthreadAct])
  | leave =>
    cases pc with
    | body =>
      rcases scopes with _ | ⟨scope, scopes⟩
      · exact absurd h (by simp [pthreadAct])
      · obtain ⟨rfl, rfl⟩ := Prod.mk.inj (Option.some.inj h)
        exact hi.leaves
    | _ => exact absurd h (by simp [pthreadAct])
  | go =>
    cases pc with
    | body => exact absurd h (by simp [pthreadAct])
    | checkInit k =>
      obtain ⟨rfl, rfl⟩ := Prod.mk.inj (Option.some.inj h)
      cases s.bMutexInit <;>
        exact hi.idles rfl (by simp)
    | initMutex k =>
      obtain ⟨rfl, rfl⟩ := Prod.mk.inj (Option.some.inj h)
      exact hi.makes
    | setInit k =>
      obtain ⟨rfl, rfl⟩ := Prod.mk.inj (Option.some.inj h)
      have hready := hi.ready (Or.inr ⟨k, rfl⟩)
      exact ⟨⟨hi.count, fun _ => hready, fun _ => rfl⟩, fun _ => rfl, id, fun _ _ => Nat.le_refl _⟩
    | checkReady k =>
      cases k with
      | scopedLock | scopedTryLock timeoutMS =>
        simp only [pthreadAct] at h
        split at h
        · next hflag =>
          obtain ⟨rfl, rfl⟩ := Prod.mk.inj (Option.some.inj h)
          exact hi.reads (Nat.le_refl _) (by simp) fun _ => Or.inr hflag
        · obtain ⟨rfl, rfl⟩ := Prod.mk.inj (Option.some.inj h)
          exact hi.idles rfl (by simp)
    | lock =>
      simp only [pthreadAct, Option.bind_eq_bind, Option.bind_eq_some_iff] at h
      obtain ⟨m, hm, m', hm', h⟩ := h
      obtain ⟨rfl, rfl⟩ := Prod.mk.inj (Option.some.inj h)
      refine hi.uses (Or.inr (Or.inl rfl)) hm (fun u hu => RecursiveMutex.held_lock_of_ne hm' hu) ?_
      intro hle
      rw [RecursiveMutex.held_lock hm']
      simpa [PthreadThread.taken] using hle
    | tryLoop timeoutMS nCount =>
      simp only [pthreadAct] at h
      split at h
      · obtain ⟨m, hm, h⟩ := Option.bind_eq_some_iff.1 h
        split at h
        · next m' hm' =>
          obtain ⟨rfl, rfl⟩ := Prod.mk.inj (Option.some.inj h)
          refine hi.uses (Or.inr (Or.inr ⟨_, _, rfl⟩)) hm (fun u hu => RecursiveMutex.held_lock_of_ne hm' hu) ?_
          intro hle
          rw [RecursiveMutex.held_lock hm']
          exact Nat.succ_le_succ hle
        · obtain ⟨rfl, rfl⟩ := Prod.mk.inj (Option.some.inj h)
          exact hi.reads (Nat.le_refl _) (by simp) fun _ => Or.inl (Or.inr (Or.inr ⟨_, _, rfl⟩))
      · obtain ⟨rfl, rfl⟩ := Prod.mk.inj (Option.some.inj h)
        exact hi.reads (Nat.le_refl _) (by simp) fun _ => Or.inl (Or.inr (Or.inr ⟨_, _, rfl⟩))
    | checkLocked timeoutMS bMutexAcquired =>
      cases bMutexAcquired with
      | true =>
        obtain ⟨rfl, rfl⟩ := Prod.mk.inj (Option.some.inj h)
        exact hi.reads (by simp [PthreadThread.taken]) (by simp) fun _ => Or.inl (Or.inl (Nat.succ_pos _))
      | false =>
        obtain ⟨rfl, rfl⟩ := Prod.mk.inj (Option.some.inj h)
        exact hi.idles rfl (by simp)
  | fails =>
    cases pc with
    | initMutex k | lock =>
      obtain ⟨rfl, rfl⟩ := Prod.mk.inj (Option.some.inj h)
      exact hi.idles (by simp [PthreadThread.taken]) (by simp)
    | _ => exact absurd h (by simp [pthreadAct])

theorem PthreadBoundKept.inv_other {u : τ} {lu : PthreadThread} (hk : PthreadBoundKept t s s' l') (hu : u ≠ t)
    (hi : PthreadBound u s lu) : PthreadBound u s' lu := by
  refine ⟨(hk.held u hu).trans hi.count, ?_, fun h => hk.flag (hi.flag h)⟩
  rintro (hflag | hset)
  · exact hk.inv.ready (Or.inl hflag)
  · exact hk.lock (hi.ready (Or.inr hset))

end

theorem pthread_bound {es : List (τ × ScopeAct)} {c : Threads τ (PthreadStatics τ) PthreadThread}
    (h : Runs.run (Threads.step pthreadAct) pthreadStart es = some c) : c.All PthreadBound := by
  refine Threads.run_invariant ?_ ?_ ?_ along_unrestricted h
  · intro t s l a s' l' hi _ h
    exact (pthreadAct_bound hi h).inv
  · intro t u s l lu a s' l' hu hi hiu _ h
    exact (pthreadAct_bound hi h).inv_other hu hiu
  · intro t
    refine ⟨Nat.le_refl _, ?_, ?_⟩ <;> simp [pthreadStart, PthreadThread.AtMutex, PthreadThread.taken]

/-- The steps from the second `if(_bMutexInit)` until the thread is back at the scopes it had. -/
def ScopeKind.readyWork : ScopeKind → Nat
  | .scopedLock => 3
  | .scopedTryLock timeoutMS => timeoutMS + 3

/-- The steps that are left until the thread is out, at most. -/
def PthreadThread.work (l : PthreadThread) : Nat :=
  l.scopes.length + match l.pc with
    | .body => 0
    | .checkInit k => k.readyWork + 3
    | .initMutex k => k.readyWork + 2
    | .setInit k => k.readyWork + 1
    | .checkReady k => k.readyWork
    | .lock => 2
    | .tryLoop timeoutMS nCount => timeoutMS - nCount + 2
    | .checkLocked _ true => 2
    | .checkLocked _ false => 1

section
variable {t : τ} {s s' : PthreadStatics τ} {l l' : PthreadThread}

theorem PthreadStatics.held_unique {u : τ} (ht : 0 < s.held t) (hu : 0 < s.held u) : t = u := by
  unfold PthreadStatics.held at ht hu
  rcases hm : s.lock with _ | m <;> rw [hm] at ht hu
  · exact absurd ht (Nat.lt_irrefl 0)
  · exact RecursiveMutex.held_unique ht hu

/-- The same of a step on the way into a scope, where calls may fail. -/
theorem pthreadAct_inward {a : ScopeAct} (ha : a.Inward) (h : pthreadAct t s l a = some (s', l')) :
    l'.work < l.work ∧ l.scopes.length ≤ l'.scopes.length ∧
      ∃ k b, l.pc.phase = .entering k b ∧ (l'.pc.phase = .body ∨ ∃ b', l'.pc.phase = .entering k b') := by
  obtain ⟨pc, scopes, tries⟩ := l
  rcases ha with rfl | rfl
  · cases pc with
    | body => exact absurd h (by simp [pthreadAct])
    | checkInit k =>
      obtain ⟨rfl, rfl⟩ := Prod.mk.inj (Option.some.inj h)
      cases s.bMutexInit <;>
        (refine ⟨?_, by simp [PthreadPc.phase]⟩
         simp only [PthreadThread.work, if_true, Bool.false_eq_true, if_false]
         omega)
    | initMutex k | setInit k =>
      obtain ⟨rfl, rfl⟩ := Prod.mk.inj (Option.some.inj h)
      refine ⟨?_, by simp [PthreadPc.phase]⟩
      simp only [PthreadThread.work]
      omega
    | checkReady k =>
      cases k <;>
        (simp only [pthreadAct] at h
         split at h <;>
          (obtain ⟨rfl, rfl⟩ := Prod.mk.inj (Option.some.inj h)
           refine ⟨?_, by simp [PthreadPc.phase]⟩
           simp only [PthreadThread.work, ScopeKind.readyWork, List.length_cons]
           omega))
    | lock =>
      simp only [pthreadAct, Option.bind_eq_bind, Option.bind_eq_some_iff] at h
      obtain ⟨m, -, m', -, h⟩ := h
      obtain ⟨rfl, rfl⟩ := Prod.mk.inj (Option.some.inj h)
      refine ⟨?_, by simp [PthreadPc.phase]⟩
      simp only [PthreadThread.work, List.length_cons]
      omega
    | tryLoop timeoutMS nCount =>
      simp only [pthreadAct] at h
      split at h
      · obtain ⟨m, -, h⟩ := Option.bind_eq_some_iff.1 h
        split at h <;>
          (obtain ⟨rfl, rfl⟩ := Prod.mk.inj (Option.some.inj h)
           refine ⟨?_, by simp [PthreadPc.phase]⟩
           simp only [PthreadThread.work]
           omega)
      · obtain ⟨rfl, rfl⟩ := Prod.mk.inj (Option.some.inj h)
        refine ⟨?_, by simp [PthreadPc.phase]⟩
        simp only [PthreadThread.work]
        omega
    | checkLocked timeoutMS bMutexAcquired =>
      cases bMutexAcquired <;>
        (obtain ⟨rfl, rfl⟩ := Prod.mk.inj (Option.some.inj h)
         refine ⟨?_, by simp [PthreadPc.phase]⟩
         simp only [PthreadThread.work, List.length_cons]
         omega)
  · cases pc with
    | initMutex k | lock =>
      obtain ⟨rfl, rfl⟩ := Prod.mk.inj (Option.some.inj h)
      refine ⟨?_, by simp [PthreadPc.phase]⟩
      simp only [PthreadThread.work, List.length_cons]
      omega
    | _ => exact absurd h (by simp [pthreadAct])

theorem pthreadAct_work {a : ScopeAct} (ha : a.Onward) (h : pthreadAct t s l a = some (s', l')) :
    l'.work < l.work := by
  rcases ha with ha | rfl
  · exact (pthreadAct_inward ha h).1
  obtain ⟨pc, scopes, tries⟩ := l
  cases pc with
  | body =>
    rcases scopes with _ | ⟨scope, scopes⟩
    · exact absurd h (by simp [pthreadAct])
    · obtain ⟨rfl, rfl⟩ := Prod.mk.inj (Option.some.inj h)
      simp only [PthreadThread.work, List.length_cons]
      omega
  | _ => exact absurd h (by simp [pthreadAct])

/-- A thread on its way goes on, unless it is at `pthread_mutex_lock` and another one holds the mutex. -/
theorem PthreadBound.goes (hi : PthreadBound t s l) (hp : l.pc ≠ .body) :
    (pthreadAct t s l .go).isSome ∨ (l.pc = .lock ∧ ∃ u ≠ t, 0 < s.held u) := by
  obtain ⟨pc, scopes, tries⟩ := l
  cases pc with
  | body => exact absurd rfl hp
  | checkInit k | initMutex k | setInit k => exact Or.inl rfl
  | checkReady k =>
    refine Or.inl ?_
    cases k <;> (simp only [pthreadAct]; split <;> rfl)
  | lock =>
    obtain ⟨m, hm⟩ := Option.isSome_iff_exists.1 (hi.ready (Or.inl (hi.flag (Or.inr (Or.inl rfl)))))
    by_cases hfree : ∀ u ≠ t, m.held u = 0
    · obtain ⟨m', hm'⟩ := Option.isSome_iff_exists.1 (RecursiveMutex.lock_isSome.2 hfree)
      exact Or.inl (by simp [pthreadAct, hm, hm'])
    · push Not at hfree
      obtain ⟨u, hu, hheld⟩ := hfree
      refine Or.inr ⟨rfl, u, hu, ?_⟩
      simp only [PthreadStatics.held, hm]
      exact Nat.pos_of_ne_zero hheld
  | tryLoop timeoutMS nCount =>
    obtain ⟨m, hm⟩ := Option.isSome_iff_exists.1 (hi.ready (Or.inl (hi.flag (Or.inr (Or.inr ⟨_, _, rfl⟩)))))
    refine Or.inl ?_
    simp only [pthreadAct, hm, Option.bind_eq_bind, Option.bind_some]
    split
    · split <;> rfl
    · rfl
  | checkLocked timeoutMS bMutexAcquired =>
    refine Or.inl ?_
    cases bMutexAcquired <;> rfl

end

theorem pthread_localWork :
    LocalWork (pthreadAct (τ := τ)) (fun l => l.pc.phase) (fun l => l.scopes.length) PthreadThread.work where
  lessens _ _ _ _ _ _ ha h := pthreadAct_work ha h
  scopes_le _ := Nat.le_add_right _ _
  start := by
    rintro t s ⟨pc, scopes, tries⟩ timeoutMS s' l' h
    cases pc with
    | body =>
      obtain ⟨rfl, rfl⟩ := Prod.mk.inj (Option.some.inj h)
      exact ⟨Nat.le_refl _, rfl, rfl⟩
    | _ => exact absurd h (by simp [pthreadAct])
  inward _ _ _ _ _ _ ha h := (pthreadAct_inward ha h).2

theorem pthread_work_le (c : Threads τ (PthreadStatics τ) PthreadThread) (t : τ) :
    (c.thread t).work ≤ (pthreadViews c t).work := by
  unfold PthreadThread.work ScopeThread.work pthreadViews pthreadView
  rw [List.length_map]
  apply Nat.add_le_add_left
  rcases (c.thread t).pc with _ | (_ | _) | (_ | _) | (_ | _) | (_ | _) | _ | _ | ⟨timeoutMS, _ | _⟩ <;>
    simp only [PthreadPc.phase, ScopeKind.readyWork] <;> omega

/-- In `InitMutex`. -/
def PthreadPc.inInit : PthreadPc → Bool
  | .initMutex _ | .setInit _ => true
  | _ => false

/-- `InitMutex` is entered only while no other thread is in it. -/
def InitAlone (c : Threads τ (PthreadStatics τ) PthreadThread) (e : τ × ScopeAct) : Prop :=
  ∀ k, (c.thread e.1).pc = .checkInit k → c.shared.bMutexInit = false →
    ∀ u ≠ e.1, (c.thread u).pc.inInit = false

/-- The thread is at the first `if(!_bMutexInit)`, and another one, which `InitAlone` lets finish first, is in
`InitMutex`. -/
def WaitsForInit (c : Threads τ (PthreadStatics τ) PthreadThread) (t u : τ) : Prop :=
  (∃ k, (c.thread t).pc = .checkInit k) ∧ (c.thread u).pc.inInit = true

section
variable {c : Threads τ (PthreadStatics τ) PthreadThread} {t : τ}

theorem canGo_of_initAlone {a : ScopeAct} (ha : a = .go ∨ a = .leave) (hl : InitAlone c (t, a))
    (h : (pthreadAct t c.shared (c.thread t) a).isSome) : CanGo (Threads.step pthreadAct) InitAlone c t :=
  ⟨a, ha, hl, by simpa [Threads.step] using h⟩

/-- A thread that is not out leaves its innermost scope, goes on, or is at the lock of a mutex that another
one holds. -/
theorem PthreadBound.canGo (hi : PthreadBound t c.shared (c.thread t)) (hout : ¬ (pthreadViews c t).Out)
    (hl : InitAlone c (t, .go)) :
    CanGo (Threads.step pthreadAct) InitAlone c t ∨ ((c.thread t).pc = .lock ∧ ∃ u ≠ t, 0 < c.shared.held u) := by
  by_cases hp : (c.thread t).pc = .body
  · have hs : (c.thread t).scopes ≠ [] := by
      intro hs
      exact hout ⟨by simp [pthreadViews, pthreadView, hp, PthreadPc.phase], by simp [pthreadViews, pthreadView, hs]⟩
    obtain ⟨scope, scopes, hs⟩ := List.exists_cons_of_ne_nil hs
    exact Or.inl (canGo_of_initAlone (Or.inr rfl) hl (by simp [pthreadAct, hp, hs]))
  · exact (hi.goes hp).imp_left fun hgo => canGo_of_initAlone (Or.inl rfl) hl hgo

/-- A thread that is out holds nothing. -/
theorem PthreadBound.out (hi : PthreadBound t c.shared (c.thread t)) (hout : (pthreadViews c t).Out) :
    c.shared.held t = 0 := by
  have hscopes : (c.thread t).scopes = [] := List.map_eq_nil_iff.1 hout.2
  have hcount := hi.count
  unfold PthreadThread.taken at hcount
  rw [hscopes] at hcount
  rcases hp : (c.thread t).pc with _ | _ | _ | _ | _ | _ | _ | ⟨timeoutMS, _ | _⟩ <;> rw [hp] at hcount
  case checkLocked.true => exact absurd hout.1 (by simp [pthreadViews, pthreadView, hp, PthreadPc.phase])
  all_goals exact Nat.le_zero.1 hcount

/-- **No deadlock.** The thread that is waited for can go on. -/
theorem pthread_waits (es : List (τ × ScopeAct)) (c : Threads τ (PthreadStatics τ) PthreadThread) (t : τ)
    (hr : Reaches (Threads.step pthreadAct) InitAlone pthreadStart es c) (hout : ¬ (pthreadViews c t).Out) :
    CanGo (Threads.step pthreadAct) InitAlone c t ∨
      ∃ u ≠ t, (WaitsForLock pthreadViews c t u ∨ WaitsForInit c t u) ∧
        CanGo (Threads.step pthreadAct) InitAlone c u := by
  have hi := pthread_bound hr.2
  by_cases hl : InitAlone c (t, .go)
  · rcases (hi t).canGo hout hl with hgo | ⟨hlock, u, hu, hheld⟩
    · exact Or.inl hgo
    · refine Or.inr ⟨u, hu, Or.inl ⟨by simp [pthreadViews, pthreadView, hlock, PthreadPc.phase], hheld⟩, ?_⟩
      have hflag : c.shared.bMutexInit = true := (hi u).flag (Or.inl (hheld.trans_le (hi u).count))
      have hlu : InitAlone c (u, .go) := fun _ _ h => absurd (hflag.symm.trans h) (by simp)
      rcases (hi u).canGo (fun h => absurd ((hi u).out h) (Nat.ne_of_gt hheld)) hlu with hgo | ⟨-, v, hv, hheldv⟩
      · exact hgo
      · exact absurd (PthreadStatics.held_unique hheldv hheld) hv
  · unfold InitAlone at hl
    push Not at hl
    obtain ⟨k, hk, -, u, hu, hinit⟩ := hl
    have hin : (c.thread u).pc.inInit = true := Bool.eq_true_of_not_eq_false hinit
    refine Or.inr ⟨u, hu, Or.inr ⟨⟨k, hk⟩, hin⟩, ?_⟩
    have hpc : ∃ k, (c.thread u).pc = .initMutex k ∨ (c.thread u).pc = .setInit k := by
      unfold PthreadPc.inInit at hin
      split at hin
      · next k h => exact ⟨k, Or.inl h⟩
      · next k h => exact ⟨k, Or.inr h⟩
      · exact absurd hin Bool.false_ne_true
    obtain ⟨k, h | h⟩ := hpc <;>
      exact canGo_of_initAlone (Or.inl rfl) (fun k' h' => absurd (h.symm.trans h') (by simp)) (by simp [pthreadAct, h])

end

/-! ## Both variants -/

/-- **Attempts with a timeout end.** In both variants, in any interleaving and whatever calls fail, an
attempt is over after at most `timeoutMS + 6` steps of its own thread, and none of these waits for another
thread. -/
theorem timed_attempts :
    TimedAttempts (Threads.step stdAct) (stdStart (τ := τ)) stdViews ∧
      TimedAttempts (Threads.step pthreadAct) (pthreadStart (τ := τ)) pthreadViews := by
  constructor
  · refine timedAttempts_of_work std_localWork (fun _ _ => rfl) ?_
    intro es c t timeoutMS b hr hphase
    have hpc : (c.thread t).pc ≠ .body := fun h => absurd hphase (by simp [h, StdPc.phase])
    rcases (std_reaches ⟨along_unrestricted, hr⟩ t).goes hpc with hgo | ⟨hguard, -⟩
    · simpa [Threads.step] using hgo
    · exact absurd hphase (by simp [hguard, StdPc.phase])
  · refine timedAttempts_of_work pthread_localWork (fun _ _ => rfl) ?_
    intro es c t timeoutMS b hr hphase
    have hpc : (c.thread t).pc ≠ .body := fun h => absurd hphase (by simp [h, PthreadPc.phase])
    rcases (pthread_bound hr t).goes hpc with hgo | ⟨hlock, -⟩
    · simpa [Threads.step] using hgo
    · exact absurd hphase (by simp [hlock, PthreadPc.phase])

/-- **No deadlock.** In both variants, whatever the threads did before, a program that opens no new scopes
never gets stuck, and after boundedly many steps in any order all threads are out and the mutex is free. In
the `pthread` variant `InitMutex` is not entered by two threads at a time. -/
theorem scoped_locks_drain :
    Drains (Threads.step stdAct) (Threads.Legal fun _ _ _ => True) (stdStart (τ := τ)) stdViews
        (WaitsForLock stdViews) ∧
      Drains (Threads.step pthreadAct) InitAlone (pthreadStart (τ := τ)) pthreadViews
        fun c t u => WaitsForLock pthreadViews c t u ∨ WaitsForInit c t u :=
  ⟨drains_of_work std_localWork (fun _ => rfl) std_work_le std_waits
      fun _ _ t hr hout => (std_reaches hr t).ok.out hout,
    drains_of_work pthread_localWork (fun _ => rfl) pthread_work_le pthread_waits
      fun _ _ t hr hout => (pthread_bound hr.2 t).out hout⟩

end GstSvpExt
