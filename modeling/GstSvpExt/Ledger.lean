import Mathlib.Data.List.Nodup
import Mathlib.Data.List.Perm.Basic
import Mathlib.Tactic.Common

/-!
# An ownership ledger

What a program does with the resources it manages is a list of acts on resource identities. `follow`
is the owner that keeps the list of live resources; it is undefined at an acquisition of something
live and at a release of something not live. A trace that the owner can follow conserves resources
(`follow_perm`), so where no identity is acquired twice each one is live or was released, once
(`follow_once`).
-/

namespace Ledger

variable {ι : Type*}

/-- One act on a resource: it is obtained or given back. -/
inductive Act (ι : Type*)
  | acquire (i : ι)
  | release (i : ι)
deriving DecidableEq, Repr

def acquired (t : List (Act ι)) : List ι := t.filterMap fun
  | .acquire i => some i
  | .release _ => none

def released (t : List (Act ι)) : List ι := t.filterMap fun
  | .acquire _ => none
  | .release i => some i

@[simp] theorem acquired_nil : acquired ([] : List (Act ι)) = [] := rfl
@[simp] theorem released_nil : released ([] : List (Act ι)) = [] := rfl

@[simp] theorem acquired_acquire (i : ι) (t : List (Act ι)) :
    acquired (.acquire i :: t) = i :: acquired t := rfl

@[simp] theorem acquired_release (i : ι) (t : List (Act ι)) :
    acquired (.release i :: t) = acquired t := rfl

@[simp] theorem released_acquire (i : ι) (t : List (Act ι)) :
    released (.acquire i :: t) = released t := rfl

@[simp] theorem released_release (i : ι) (t : List (Act ι)) :
    released (.release i :: t) = i :: released t := rfl

@[simp] theorem acquired_append (t u : List (Act ι)) : acquired (t ++ u) = acquired t ++ acquired u := by
  simp [acquired]

@[simp] theorem released_append (t u : List (Act ι)) : released (t ++ u) = released t ++ released u := by
  simp [released]

/-- A trace of releases alone. -/
theorem acquired_releases {α : Type*} (f : α → ι) (l : List α) : acquired (l.map fun x => .release (f x)) = [] := by
  simp [acquired]

/-- A trace of acquisitions alone. -/
theorem released_acquires (l : List ι) : released (l.map .acquire) = [] := by
  simp [released]

variable [DecidableEq ι]

/-- The owner's live list after one act. -/
def act (live : List ι) : Act ι → Option (List ι)
  | .acquire i => if i ∈ live then none else some (i :: live)
  | .release i => if i ∈ live then some (live.erase i) else none

/-- The owner's live list after a trace. -/
def follow (live : List ι) : List (Act ι) → Option (List ι)
  | [] => some live
  | a :: t => (act live a).bind fun live' => follow live' t

@[simp] theorem follow_nil (live : List ι) : follow live [] = some live := rfl

theorem follow_append (live : List ι) (t u : List (Act ι)) :
    follow live (t ++ u) = (follow live t).bind fun live' => follow live' u := by
  induction t generalizing live with
  | nil => rfl
  | cons a t ih => cases h : act live a <;> simp [follow, h, ih]

/-- One act moves one identity between the columns of the ledger. -/
theorem act_perm {live live' : List ι} {a : Act ι} (h : act live a = some live') :
    (live ++ acquired [a]).Perm (live' ++ released [a]) := by
  cases a with
  | acquire i =>
    simp only [act, Option.ite_none_left_eq_some, Option.some.injEq] at h
    simp [← h.2]
  | release i =>
    simp only [act, Option.ite_none_right_eq_some, Option.some.injEq] at h
    have hcomm : ([i] ++ live.erase i).Perm (live.erase i ++ [i]) := List.perm_append_comm
    simpa [← h.2] using (List.perm_cons_erase h.1).trans hcomm

/-- **Conservation.** Over a trace that the owner can follow, what was live or acquired is live or
released, each identity as often on either side. -/
theorem follow_perm {live live' : List ι} {t : List (Act ι)} (h : follow live t = some live') :
    (live ++ acquired t).Perm (live' ++ released t) := by
  induction t generalizing live with
  | nil => simp only [follow_nil, Option.some.injEq] at h; simp [h]
  | cons a t ih =>
    simp only [follow, Option.bind_eq_some_iff] at h
    obtain ⟨live1, h1, h2⟩ := h
    have hstep := act_perm h1
    have hrest := ih h2
    rw [List.perm_iff_count] at hstep hrest ⊢
    intro i
    have hs := hstep i
    have hr := hrest i
    have e1 : acquired (a :: t) = acquired [a] ++ acquired t := acquired_append [a] t
    have e2 : released (a :: t) = released [a] ++ released t := released_append [a] t
    rw [e1, e2]
    simp only [List.count_append] at hs hr ⊢
    omega

/-- What is live was acquired. -/
theorem mem_acquired {live : List ι} {t : List (Act ι)} (h : follow [] t = some live) {i : ι} (hi : i ∈ live) :
    i ∈ acquired t :=
  (follow_perm h).mem_iff.2 (List.mem_append_left _ hi)

/-- A trace that leaves nothing live released what it acquired. -/
theorem follow_empty {t : List (Act ι)} (h : follow [] t = some []) : (acquired t).Perm (released t) := by
  have hp := follow_perm h
  rwa [List.nil_append, List.nil_append] at hp

/-- One more identity that was not acquired before. -/
theorem nodup_snoc {α : Type*} {ids : List α} {i : α} (hi : i ∉ ids) (hn : ids.Nodup) : (ids ++ [i]).Nodup := by
  rw [← List.concat_eq_append]
  exact List.Nodup.concat hi hn

/-- What is owned, in any order, was acquired. -/
theorem owned_acquired {ids : List ι} {t : List (Act ι)} (h : ∃ live, follow [] t = some live ∧ live.Perm ids)
    {i : ι} (hi : i ∈ ids) : i ∈ acquired t := by
  obtain ⟨live, hf, hp⟩ := h
  exact mem_acquired hf (hp.mem_iff.2 hi)

theorem owned_acquire {ids : List ι} {t : List (Act ι)} (h : ∃ live, follow [] t = some live ∧ live.Perm ids)
    {i : ι} (hi : i ∉ ids) : ∃ live, follow [] (t ++ [.acquire i]) = some live ∧ live.Perm (i :: ids) := by
  obtain ⟨live, hf, hp⟩ := h
  have hnot : i ∉ live := fun hin => hi (hp.mem_iff.1 hin)
  refine ⟨i :: live, ?_, hp.cons i⟩
  rw [follow_append, hf]
  simp [follow, act, hnot]

theorem owned_release {ids : List ι} {t : List (Act ι)} {i : ι}
    (h : ∃ live, follow [] t = some live ∧ live.Perm (i :: ids)) :
    ∃ live, follow [] (t ++ [.release i]) = some live ∧ live.Perm ids := by
  obtain ⟨live, hf, hp⟩ := h
  have hin : i ∈ live := hp.mem_iff.2 List.mem_cons_self
  refine ⟨live.erase i, ?_, by simpa using hp.erase i⟩
  rw [follow_append, hf]
  simp [follow, act, hin]

/-- Resources that a trace does not acquire are a frame around it. -/
theorem follow_frame {live live' base : List ι} {t : List (Act ι)} (h : follow live t = some live')
    (hb : ∀ i ∈ acquired t, i ∉ base) : follow (live ++ base) t = some (live' ++ base) := by
  induction t generalizing live with
  | nil => simp only [follow_nil, Option.some.injEq] at h; simp [h]
  | cons a t ih =>
    simp only [follow, Option.bind_eq_some_iff] at h ⊢
    obtain ⟨live1, h1, h2⟩ := h
    refine ⟨live1 ++ base, ?_, ih h2 ?_⟩
    · cases a with
      | acquire i =>
        simp only [act, Option.ite_none_left_eq_some, Option.some.injEq] at h1 ⊢
        have hi := hb i (by simp)
        exact ⟨by simp [h1.1, hi], by simp [← h1.2]⟩
      | release i =>
        simp only [act, Option.ite_none_right_eq_some, Option.some.injEq] at h1 ⊢
        exact ⟨by simp [h1.1], by rw [List.erase_append_left _ h1.1, h1.2]⟩
    · intro i hi
      refine hb i ?_
      cases a with
      | acquire j => exact List.mem_cons_of_mem _ hi
      | release j => exact hi

/-- A trace of its own, after one that left what it does not acquire. -/
theorem owned_append {ids ids' : List ι} {t u : List (Act ι)} (h : ∃ live, follow [] t = some live ∧ live.Perm ids)
    (hu : ∃ live, follow [] u = some live ∧ live.Perm ids') (hd : ∀ i ∈ acquired u, i ∉ ids) :
    ∃ live, follow [] (t ++ u) = some live ∧ live.Perm (ids' ++ ids) := by
  obtain ⟨live, hf, hp⟩ := h
  obtain ⟨live', hf', hp'⟩ := hu
  refine ⟨live' ++ live, ?_, hp'.append hp⟩
  rw [follow_append, hf, Option.bind_some, ← List.nil_append live]
  exact follow_frame hf' fun i hi hin => hd i hi (hp.mem_iff.1 hin)

/-- Started with nothing, and with no identity acquired twice: nothing is released twice, what is
live was not released, and what was acquired is live or released. -/
theorem follow_once {live : List ι} {t : List (Act ι)} (h : follow [] t = some live)
    (hn : (acquired t).Nodup) :
    (released t).Nodup ∧ live.Nodup ∧ (∀ i ∈ live, i ∉ released t) ∧
      (∀ i, i ∈ acquired t ↔ i ∈ live ∨ i ∈ released t) := by
  have hp := follow_perm h
  rw [List.nil_append] at hp
  have hnd := List.nodup_append.1 (hp.nodup_iff.1 hn)
  refine ⟨hnd.2.1, hnd.1, fun i hi hr => hnd.2.2 i hi i hr rfl, fun i => ?_⟩
  rw [hp.mem_iff, List.mem_append]

end Ledger
