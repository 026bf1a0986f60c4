import Mathlib.Tactic.Common

/-!
# Runs of a partial step function

A program is a step function `S → E → Option S`; `none` is an undefined step (an access outside an
object, a read through `NULL`). `run` folds it over a list of events and `Along` states a property
of every step that the run takes, judged in the state the step starts from. The rules below turn a
fact about one step into a fact about a whole run.
-/

namespace Runs

variable {S E : Type*}

/-- Every event in order; `none` as soon as one step is undefined. -/
def run (step : S → E → Option S) : S → List E → Option S
  | s, [] => some s
  | s, e :: es => (step s e).bind fun s' => run step s' es

/-- `L` holds of every step of the run, in the state that step starts from. -/
def Along (step : S → E → Option S) (L : S → E → Prop) : S → List E → Prop
  | _, [] => True
  | s, e :: es => L s e ∧ ∀ s', step s e = some s' → Along step L s' es

variable {step : S → E → Option S}

@[simp] theorem run_nil (s : S) : run step s [] = some s := rfl

@[simp] theorem run_cons (s : S) (e : E) (es : List E) :
    run step s (e :: es) = (step s e).bind fun s' => run step s' es := rfl

theorem run_append (s : S) (es fs : List E) :
    run step s (es ++ fs) = (run step s es).bind fun s' => run step s' fs := by
  induction es generalizing s with
  | nil => rfl
  | cons e es ih => cases h : step s e <;> simp [h, ih]

theorem along_cons {L : S → E → Prop} {s s' : S} {e : E} {es : List E} (h : step s e = some s') :
    Along step L s (e :: es) ↔ L s e ∧ Along step L s' es := by
  simp [Along, h]

/-- A property that every event has in every state. -/
theorem along_of_forall {L : S → E → Prop} {s : S} {es : List E} (h : ∀ e ∈ es, ∀ s, L s e) :
    Along step L s es := by
  induction es generalizing s with
  | nil => trivial
  | cons e es ih =>
    exact ⟨h e List.mem_cons_self s, fun _ _ => ih fun f hf => h f (List.mem_cons_of_mem _ hf)⟩

/-- The steps of a run that is defined are defined. -/
theorem along_defined {s : S} {es : List E} (h : (run step s es).isSome) :
    Along step (fun s e => (step s e).isSome) s es := by
  induction es generalizing s with
  | nil => trivial
  | cons e es ih =>
    rw [run_cons] at h
    refine ⟨Option.isSome_of_isSome_bind h, ?_⟩
    intro s' hs
    rw [hs, Option.bind_some] at h
    exact ih h

/-- A property of events alone, along a run that is defined. -/
theorem along_iff_forall {L : E → Prop} {s : S} {es : List E} (h : (run step s es).isSome) :
    Along step (fun _ e => L e) s es ↔ ∀ e ∈ es, L e := by
  induction es generalizing s with
  | nil => simp [Along]
  | cons e es ih =>
    obtain ⟨s', hs⟩ := Option.isSome_iff_exists.1 (along_defined h).1
    rw [run_cons, hs, Option.bind_some] at h
    rw [along_cons hs, ih h, List.forall_mem_cons]

theorem along_and {L₁ L₂ : S → E → Prop} {s : S} {es : List E} (h₁ : Along step L₁ s es)
    (h₂ : Along step L₂ s es) : Along step (fun s e => L₁ s e ∧ L₂ s e) s es := by
  induction es generalizing s with
  | nil => trivial
  | cons e es ih => exact ⟨⟨h₁.1, h₂.1⟩, fun s' hs => ih (h₁.2 s' hs) (h₂.2 s' hs)⟩

/-- What one step preserves, under what every step of the run satisfies, the run preserves. -/
theorem run_preserves {L : S → E → Prop} {I : S → Prop}
    (hstep : ∀ s e s', I s → L s e → step s e = some s' → I s') {s s' : S} {es : List E}
    (hs : I s) (hl : Along step L s es) (hr : run step s es = some s') : I s' := by
  induction es generalizing s with
  | nil => simp only [run_nil, Option.some.injEq] at hr; rw [← hr]; exact hs
  | cons e es ih =>
    simp only [run_cons, Option.bind_eq_some_iff] at hr
    obtain ⟨s1, h1, hr⟩ := hr
    exact ih (hstep s e s1 hs hl.1 h1) (hl.2 s1 h1) hr

/-- **Lock-step simulation.** Two machines take the same events from related states. Where a related
pair of states judges the next event alike, and a step judged well keeps the states related, the two
machines judge whole runs alike. -/
theorem along_sim {T : Type*} {step' : T → E → Option T} {N L : S → E → Prop} {M : T → E → Prop}
    {R : S → T → Prop} (hiff : ∀ s t e, R s t → N s e → (L s e ↔ M t e))
    (hstep : ∀ s t e, R s t → N s e → L s e → Option.Rel R (step s e) (step' t e)) {s : S} {t : T}
    {es : List E} (hr : R s t) (hn : Along step N s es) : Along step L s es ↔ Along step' M t es := by
  induction es generalizing s t with
  | nil => exact Iff.rfl
  | cons e es ih =>
    simp only [Along, ← hiff s t e hr hn.1]
    apply and_congr_right
    intro hl
    have hrel := hstep s t e hr hn.1 hl
    have hnext := hn.2
    generalize step s e = o at hrel hnext ⊢
    generalize step' t e = o' at hrel ⊢
    cases hrel with
    | none => simp only [reduceCtorEq, false_implies, implies_true]
    | some h =>
      simp only [Option.some.injEq, forall_eq']
      exact ih h (hnext _ rfl)

/-- Two step properties that agree in every state of an invariant agree along a run, where the
invariant need only survive the steps that have the property. -/
theorem along_congr {L L₁ L₂ : S → E → Prop} {I : S → Prop}
    (hstep : ∀ s e s', I s → L s e → L₁ s e → step s e = some s' → I s')
    (hiff : ∀ s e, I s → L s e → (L₁ s e ↔ L₂ s e)) {s : S} {es : List E}
    (hs : I s) (hl : Along step L s es) : Along step L₁ s es ↔ Along step L₂ s es := by
  refine along_sim (R := fun s t => s = t ∧ I s) ?_ ?_ ⟨rfl, hs⟩ hl
  · rintro s _ e ⟨rfl, hi⟩ hn
    exact hiff s e hi hn
  · rintro s _ e ⟨rfl, hi⟩ hn h₁
    cases h : step s e with
    | none => exact .none
    | some s' => exact .some ⟨rfl, hstep s e s' hi hn h₁ h⟩

/-- A run whose every step is defined is defined. -/
theorem run_total {L : S → E → Prop} {I : S → Prop}
    (hstep : ∀ s e, I s → L s e → ∃ s', step s e = some s' ∧ I s') {s : S} {es : List E}
    (hs : I s) (hl : Along step L s es) : ∃ s', run step s es = some s' ∧ I s' := by
  induction es generalizing s with
  | nil => exact ⟨s, rfl, hs⟩
  | cons e es ih =>
    obtain ⟨s1, h1, hi⟩ := hstep s e hs hl.1
    obtain ⟨s2, h2, hi2⟩ := ih hi (hl.2 s1 h1)
    exact ⟨s2, by simp [h1, h2], hi2⟩

/-- **Refinement over runs.** Where related states let every event be taken by both machines, and by steps
that leave them related, both take the whole run. -/
theorem run_refines {T : Type*} {step' : T → E → Option T} {L : S → E → Prop} {R : S → T → Prop}
    (hstep : ∀ s t e, R s t → L s e → ∃ s' t', step s e = some s' ∧ step' t e = some t' ∧ R s' t') {s : S} {t : T}
    {es : List E} (hr : R s t) (hl : Along step L s es) :
    ∃ s' t', run step s es = some s' ∧ run step' t es = some t' ∧ R s' t' := by
  induction es generalizing s t with
  | nil => exact ⟨s, t, rfl, rfl, hr⟩
  | cons e es ih =>
    obtain ⟨s1, t1, h1, h1', hr1⟩ := hstep s t e hr hl.1
    obtain ⟨s2, t2, h2, h2', hr2⟩ := ih hr1 (hl.2 s1 h1)
    exact ⟨s2, t2, by rw [run_cons, h1, Option.bind_some, h2], by rw [run_cons, h1', Option.bind_some, h2'], hr2⟩

/-! ## Outputs that depend on the events before -/

/-- `f` of every event and the events before it. -/
def overPrefixes {X : Type*} (f : List E → E → List X) : List E → List E → List X
  | _, [] => []
  | pre, e :: es => f pre e ++ overPrefixes f (pre ++ [e]) es

end Runs
