import Mathlib.Tactic.Common

/-!
# A recursive mutex

The mutex is free, or one thread holds it `depth` times. `held t` is how often the thread `t` holds it,
and the rules say what each operation does to every thread's count. A blocking lock that is not granted
is undefined (the thread waits), and a try fails exactly there.
-/

/-- Free, or held `depth` times by its owner. -/
structure RecursiveMutex (τ : Type*) where
  owner : Option τ
  depth : Nat
  depth_eq_zero : depth = 0 ↔ owner = none

namespace RecursiveMutex

variable {τ : Type*}

def free : RecursiveMutex τ := ⟨none, 0, by simp⟩

theorem depth_pos {m : RecursiveMutex τ} {t : τ} (h : m.owner = some t) : 0 < m.depth := by
  apply Nat.pos_of_ne_zero
  intro h0
  rw [m.depth_eq_zero.1 h0] at h
  exact absurd h (Option.some_ne_none t).symm

variable [DecidableEq τ]

/-- How often `t` holds the mutex. -/
def held (m : RecursiveMutex τ) (t : τ) : Nat := if m.owner = some t then m.depth else 0

/-- Granted where the mutex is free or the caller's. -/
def lock (m : RecursiveMutex τ) (t : τ) : Option (RecursiveMutex τ) :=
  if m.owner = none ∨ m.owner = some t then some ⟨some t, m.depth + 1, by simp⟩ else none

/-- A try fails where a blocking lock would wait. -/
def tryLock (m : RecursiveMutex τ) (t : τ) : Option (RecursiveMutex τ) := m.lock t

/-- Only the owner unlocks; the last unlock frees the mutex. -/
def unlock (m : RecursiveMutex τ) (t : τ) : Option (RecursiveMutex τ) :=
  if m.owner = some t then
    some (if h : m.depth ≤ 1 then free else ⟨some t, m.depth - 1, by simp; omega⟩)
  else none

@[simp] theorem held_free (t : τ) : (free : RecursiveMutex τ).held t = 0 := by
  simp [held, free]

theorem held_pos {m : RecursiveMutex τ} {t : τ} : 0 < m.held t ↔ m.owner = some t := by
  unfold held
  split
  · next h => exact ⟨fun _ => h, fun _ => depth_pos h⟩
  · next h => exact ⟨fun h0 => absurd h0 (Nat.lt_irrefl 0), fun h' => absurd h' h⟩

/-- **Mutual exclusion.** Two threads that hold the mutex are one. -/
theorem held_unique {m : RecursiveMutex τ} {t u : τ} (ht : 0 < m.held t) (hu : 0 < m.held u) : t = u :=
  Option.some.inj ((held_pos.1 ht).symm.trans (held_pos.1 hu))

/-- A lock is granted where no other thread holds the mutex. -/
theorem lock_isSome {m : RecursiveMutex τ} {t : τ} : (m.lock t).isSome ↔ ∀ u ≠ t, m.held u = 0 := by
  unfold lock
  rcases ho : m.owner with _ | v
  · simp [held, ho]
  · by_cases hv : v = t
    · subst hv
      simp only [reduceCtorEq, or_true, if_true, Option.isSome_some, true_iff]
      intro u hu
      simp [held, ho, Ne.symm hu]
    · have hd := depth_pos ho
      have hne : ¬ ∀ u ≠ t, m.held u = 0 := by
        intro h
        have hz := h v hv
        simp only [held, ho, if_true] at hz
        omega
      simp [hv, hne]

theorem held_lock {m m' : RecursiveMutex τ} {t : τ} (h : m.lock t = some m') : m'.held t = m.held t + 1 := by
  simp only [lock, Option.ite_none_right_eq_some, Option.some.injEq] at h
  obtain ⟨ho | ho, rfl⟩ := h
  · simp [held, ho, m.depth_eq_zero.2 ho]
  · simp [held, ho]

theorem held_lock_of_ne {m m' : RecursiveMutex τ} {t u : τ} (h : m.lock t = some m') (hu : u ≠ t) :
    m'.held u = m.held u := by
  have hz := lock_isSome.1 (Option.isSome_of_mem h) u hu
  simp only [lock, Option.ite_none_right_eq_some, Option.some.injEq] at h
  obtain ⟨-, rfl⟩ := h
  rw [hz]
  simp [held, Ne.symm hu]

theorem unlock_isSome {m : RecursiveMutex τ} {t : τ} : (m.unlock t).isSome ↔ 0 < m.held t := by
  rw [held_pos]
  simp [unlock]

theorem held_unlock {m m' : RecursiveMutex τ} {t : τ} (h : m.unlock t = some m') :
    m'.held t + 1 = m.held t := by
  simp only [unlock, Option.ite_none_right_eq_some, Option.some.injEq] at h
  obtain ⟨ho, rfl⟩ := h
  have hd := depth_pos ho
  have hm : m.held t = m.depth := by simp [held, ho]
  split
  · rw [held_free, hm]; omega
  · rw [hm]; simp only [held, if_true]; omega

theorem held_unlock_of_ne {m m' : RecursiveMutex τ} {t u : τ} (h : m.unlock t = some m') (hu : u ≠ t) :
    m'.held u = m.held u := by
  simp only [unlock, Option.ite_none_right_eq_some, Option.some.injEq] at h
  obtain ⟨ho, rfl⟩ := h
  have hm : m.held u = 0 := by simp [held, ho, Ne.symm hu]
  split
  · rw [held_free, hm]
  · rw [hm]; simp [held, Ne.symm hu]

end RecursiveMutex
