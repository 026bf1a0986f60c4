import Mathlib.Algebra.BigOperators.Group.Finset.Piecewise
import Mathlib.Algebra.Order.BigOperators.Group.Finset
import Mathlib.Logic.Function.Basic
import GstSvpExt.Runs

/-!
# Interleavings of threads over a shared state

Each thread has a state of its own, all have one shared state, and an event is one atomic action of one
thread. A run over a list of events is one interleaving. `run_invariant` is the thread-modular rule: an
assertion of each thread about itself and the shared state holds throughout, if the thread's own actions
keep it and the actions of the others do not disturb it. `run_turns` bounds the turns a thread takes.
-/

/-- The shared state, and the state of each thread. -/
structure Threads (τ S L : Type*) where
  shared : S
  thread : τ → L

namespace Threads

variable {τ S L A : Type*} [DecidableEq τ]

/-- One action of the thread `e.1`; `none` where it cannot take it. -/
def step (act : τ → S → L → A → Option (S × L)) (c : Threads τ S L) (e : τ × A) : Option (Threads τ S L) :=
  (act e.1 c.shared (c.thread e.1) e.2).map fun r => ⟨r.1, Function.update c.thread e.1 r.2⟩

variable {act : τ → S → L → A → Option (S × L)} {c c' : Threads τ S L}

theorem step_eq_some {t : τ} {a : A} :
    step act c (t, a) = some c' ↔
      ∃ s l, act t c.shared (c.thread t) a = some (s, l) ∧ ⟨s, Function.update c.thread t l⟩ = c' := by
  simp [step]

/-- Every thread asserts `P`. -/
def All (P : τ → S → L → Prop) (c : Threads τ S L) : Prop := ∀ t, P t c.shared (c.thread t)

/-- One action keeps the assertion of every thread. -/
theorem step_invariant {P : τ → S → L → Prop} {legal : S → L → A → Prop}
    (hself : ∀ t s l a s' l', P t s l → legal s l a → act t s l a = some (s', l') → P t s' l')
    (hother : ∀ t u s l lu a s' l', u ≠ t → P t s l → P u s lu → legal s l a → act t s l a = some (s', l') →
      P u s' lu)
    {e : τ × A} (hP : All P c) (hl : legal c.shared (c.thread e.1) e.2) (h : step act c e = some c') :
    All P c' := by
  obtain ⟨t, a⟩ := e
  obtain ⟨s, l, ha, rfl⟩ := step_eq_some.1 h
  intro u
  show P u s (Function.update c.thread t l u)
  by_cases hu : u = t
  · subst hu
    rw [Function.update_self]
    exact hself u _ _ a s l (hP u) hl ha
  · rw [Function.update_of_ne hu]
    exact hother t u _ _ _ a s l hu (hP t) (hP u) hl ha

/-- The actions of a run are legal, each in the state it starts from. -/
def Legal (legal : S → L → A → Prop) (c : Threads τ S L) (e : τ × A) : Prop :=
  legal c.shared (c.thread e.1) e.2

/-- **Thread-modular invariance.** -/
theorem run_invariant {P : τ → S → L → Prop} {legal : S → L → A → Prop}
    (hself : ∀ t s l a s' l', P t s l → legal s l a → act t s l a = some (s', l') → P t s' l')
    (hother : ∀ t u s l lu a s' l', u ≠ t → P t s l → P u s lu → legal s l a → act t s l a = some (s', l') →
      P u s' lu)
    {es : List (τ × A)} (hP : All P c) (hl : Runs.Along (step act) (Legal legal) c es)
    (h : Runs.run (step act) c es = some c') : All P c' :=
  Runs.run_preserves (fun _ _ _ hP hl h => step_invariant hself hother hP hl h) hP hl h

/-! ## What one thread does in a run -/

/-- How many of the actions are the thread's. -/
def turns (t : τ) (es : List (τ × A)) : Nat := (es.filter fun e => e.1 = t).length

theorem turns_cons (t : τ) (e : τ × A) (es : List (τ × A)) :
    turns t (e :: es) = (if e.1 = t then 1 else 0) + turns t es := by
  unfold turns
  by_cases h : e.1 = t
  · rw [List.filter_cons_of_pos (by simpa using h), if_pos h, List.length_cons, Nat.add_comm]
  · rw [List.filter_cons_of_neg (by simpa using h), if_neg h, Nat.zero_add]

/-- What the actions of a thread preserve of its own state, a run preserves: the others do not touch it. -/
theorem run_keeps (P : L → Prop) (moves : A → Prop) {t : τ}
    (hself : ∀ s l a s' l', P l → moves a → act t s l a = some (s', l') → P l') {es : List (τ × A)}
    (hm : ∀ e ∈ es, e.1 = t → moves e.2) (hP : P (c.thread t)) (h : Runs.run (step act) c es = some c') :
    P (c'.thread t) := by
  refine Runs.run_preserves (I := fun c => P (c.thread t)) (L := fun _ e => e.1 = t → moves e.2) ?_ hP
    (Runs.along_of_forall fun e he _ => hm e he) h
  rintro c ⟨u, a⟩ c' hP hm hs
  obtain ⟨s, l, ha, rfl⟩ := step_eq_some.1 hs
  show P (Function.update c.thread u l t)
  by_cases hu : t = u
  · subst hu
    rw [Function.update_self]
    exact hself _ _ a s l hP (hm rfl) ha
  · rw [Function.update_of_ne hu]
    exact hP

/-- **Bounded work.** Where each action of a thread uses up some of the work it has left, that work bounds
its turns, whatever the others do in between. -/
theorem run_turns (work : L → Nat) (moves : A → Prop) {t : τ}
    (hwork : ∀ s l a s' l', moves a → act t s l a = some (s', l') → work l' < work l) {es : List (τ × A)}
    (hm : ∀ e ∈ es, e.1 = t → moves e.2) (h : Runs.run (step act) c es = some c') :
    turns t es + work (c'.thread t) ≤ work (c.thread t) := by
  induction es generalizing c with
  | nil =>
    obtain rfl := Option.some.inj h
    exact Nat.le_of_eq (Nat.zero_add _)
  | cons e es ih =>
    obtain ⟨u, a⟩ := e
    rw [Runs.run_cons, Option.bind_eq_some_iff] at h
    obtain ⟨c1, hs, hr⟩ := h
    have hrest := ih (fun e he => hm e (List.mem_cons_of_mem _ he)) hr
    obtain ⟨s, l, ha, rfl⟩ := step_eq_some.1 hs
    rw [turns_cons]
    by_cases hu : u = t
    · subst hu
      have hless := hwork _ _ a s l (hm _ List.mem_cons_self rfl) ha
      simp only [Function.update_self] at hrest
      simp only [if_true]
      omega
    · simp only [Function.update_of_ne (Ne.symm hu)] at hrest
      simpa only [if_neg hu, Nat.zero_add] using hrest

theorem turns_eq_zero {t : τ} {es : List (τ × A)} : turns t es = 0 ↔ ∀ e ∈ es, e.1 ≠ t := by
  simp [turns]

theorem length_eq_sum_turns {T : Finset τ} {es : List (τ × A)} (h : ∀ e ∈ es, e.1 ∈ T) :
    es.length = ∑ t ∈ T, turns t es := by
  induction es with
  | nil => simp [turns]
  | cons e es ih =>
    have hone : ∑ t ∈ T, (if e.1 = t then 1 else 0) = 1 := by
      rw [Finset.sum_ite_eq, if_pos (h e List.mem_cons_self)]
    simp only [turns_cons, Finset.sum_add_distrib, hone, ← ih fun f hf => h f (List.mem_cons_of_mem _ hf)]
    rw [List.length_cons, Nat.add_comm]

/-- A thread that takes no turn. -/
theorem run_thread_of_ne {t : τ} {es : List (τ × A)} (ht : ∀ e ∈ es, e.1 ≠ t)
    (h : Runs.run (step act) c es = some c') : c'.thread t = c.thread t :=
  run_keeps (fun l => l = c.thread t) (fun _ => False) (fun _ _ _ _ _ _ hm _ => hm.elim)
    (fun e he hte => ht e he hte) rfl h

/-- The whole run is no longer than the work of the threads that have any. -/
theorem run_length {work : L → Nat} {moves : A → Prop}
    (hwork : ∀ t s l a s' l', moves a → act t s l a = some (s', l') → work l' < work l) {T : Finset τ}
    (hT : ∀ t ∉ T, work (c.thread t) = 0) {es : List (τ × A)} (hm : ∀ e ∈ es, moves e.2)
    (h : Runs.run (step act) c es = some c') : es.length ≤ ∑ t ∈ T, work (c.thread t) := by
  have hturns : ∀ t, turns t es ≤ work (c.thread t) := fun t =>
    Nat.le_of_add_right_le (run_turns work moves (hwork t) (fun e he _ => hm e he) h)
  have hmem : ∀ e ∈ es, e.1 ∈ T := by
    intro e he
    by_contra hne
    have hnone := hturns e.1
    rw [hT e.1 hne, Nat.le_zero] at hnone
    exact turns_eq_zero.1 hnone e he rfl
  rw [length_eq_sum_turns hmem]
  exact Finset.sum_le_sum fun t _ => hturns t

end Threads
