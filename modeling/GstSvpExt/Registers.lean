import Mathlib.Data.List.TakeDrop
import Mathlib.Logic.Function.Basic
import Mathlib.Tactic.Common

/-!
# A register file with partial writes

A file maps each register to its contents. `store` overwrites the front of one register and keeps
the rest of it; `storeAll` does so for a list of writes. `storeAll_take`: where every write to a
register covers its first `n` cells, these hold what was written last, by whatever call
(`storeAll_last` is the last write alone). `storeAll_drop`: where a write is either `n` cells wide or as
wide as the register, the cells behind the first `n` hold what the last whole write left there.
-/

namespace Registers

variable {F α : Type*} [DecidableEq F]

/-- Overwrite the front of register `w.1` with `w.2`. -/
def store (r : F → List α) (w : F × List α) : F → List α :=
  Function.update r w.1 (w.2 ++ (r w.1).drop w.2.length)

def storeAll (r : F → List α) (ws : List (F × List α)) : F → List α := ws.foldl store r

/-- The contents most recently written to `f`, if any. -/
def last (ws : List (F × List α)) (f : F) : Option (List α) :=
  ((ws.filter fun w => w.1 = f).getLast?).map Prod.snd

theorem store_self (r : F → List α) (w : F × List α) :
    store r w w.1 = w.2 ++ (r w.1).drop w.2.length := by
  simp [store]

theorem store_other (r : F → List α) (w : F × List α) {f : F} (h : f ≠ w.1) : store r w f = r f := by
  simp [store, h]

@[simp] theorem storeAll_nil (r : F → List α) : storeAll r [] = r := rfl

@[simp] theorem storeAll_cons (r : F → List α) (w : F × List α) (ws : List (F × List α)) :
    storeAll r (w :: ws) = storeAll (store r w) ws := rfl

theorem storeAll_append (r : F → List α) (ws vs : List (F × List α)) :
    storeAll r (ws ++ vs) = storeAll (storeAll r ws) vs := by
  simp [storeAll]

theorem last_cons (w : F × List α) (ws : List (F × List α)) (f : F) :
    last (w :: ws) f = (last ws f).or (if w.1 = f then some w.2 else none) := by
  unfold last
  by_cases h : w.1 = f
  · rw [List.filter_cons_of_pos (by simp [h]), List.getLast?_cons]
    cases (ws.filter fun w => w.1 = f).getLast? <;> simp [h]
  · rw [List.filter_cons_of_neg (by simp [h])]
    simp [h]

theorem last_eq_none_iff {ws : List (F × List α)} {f : F} : last ws f = none ↔ ∀ w ∈ ws, w.1 ≠ f := by
  simp [last]

theorem storeAll_of_last_none (r : F → List α) {ws : List (F × List α)} {f : F} (h : last ws f = none) :
    storeAll r ws f = r f := by
  induction ws generalizing r with
  | nil => rfl
  | cons w ws ih =>
    rw [last_cons, Option.or_eq_none_iff] at h
    have hf : w.1 ≠ f := by
      intro hf
      rw [if_pos hf] at h
      cases h.2
    rw [storeAll_cons, ih (store r w) h.1, store_other r w (Ne.symm hf)]

/-- **The last write wins** on every cell that all the writes cover. -/
theorem storeAll_take {n : Nat} (r : F → List α) (ws : List (F × List α)) (f : F)
    (h : ∀ w ∈ ws, w.1 = f → n ≤ w.2.length) :
    (storeAll r ws f).take n = ((last ws f).getD (r f)).take n := by
  induction ws generalizing r with
  | nil => rfl
  | cons w ws ih =>
    rw [storeAll_cons, ih (store r w) fun v hv => h v (List.mem_cons_of_mem _ hv), last_cons]
    cases hl : last ws f with
    | some v => rfl
    | none =>
      by_cases hf : w.1 = f
      · have hn := h w List.mem_cons_self hf
        subst hf
        simp only [Option.getD_none, store_self, Option.none_or, if_true, Option.getD_some]
        rw [List.take_append_of_le_length hn]
      · simp [hf, store_other r w (Ne.symm hf)]

/-- The front of a register is what was written last, however wide. -/
theorem storeAll_last (r : F → List α) {ws : List (F × List α)} {f : F} {v : List α} (h : last ws f = some v) :
    v <+: storeAll r ws f := by
  induction ws generalizing r with
  | nil => cases h
  | cons w ws ih =>
    rw [storeAll_cons]
    rw [last_cons] at h
    cases hl : last ws f with
    | some v' =>
      rw [hl, Option.some_or] at h
      exact ih (store r w) (hl.trans h)
    | none =>
      rw [hl, Option.none_or] at h
      rw [storeAll_of_last_none _ hl]
      split at h
      · rename_i hf
        subst hf
        rw [store_self, Option.some.inj h]
        exact List.prefix_append _ _
      · cases h

theorem last_append (ws vs : List (F × List α)) (f : F) : last (ws ++ vs) f = (last vs f).or (last ws f) := by
  induction ws with
  | nil => simp [last]
  | cons w ws ih => rw [List.cons_append, last_cons, last_cons, ih, Option.or_assoc]

theorem last_mem {ws : List (F × List α)} {f : F} {v : List α} (h : last ws f = some v) : (f, v) ∈ ws := by
  obtain ⟨w, hw, rfl⟩ := Option.map_eq_some_iff.1 h
  obtain ⟨hmem, hf⟩ := List.mem_filter.1 (List.mem_of_getLast? hw)
  obtain rfl : w.1 = f := by simpa using hf
  exact hmem

/-- A register that is always written whole is what was written last. -/
theorem storeAll_whole {r : F → List α} {ws : List (F × List α)} {f : F} {v : List α} (h : last ws f = some v)
    (hlen : v.length = (storeAll r ws f).length) : storeAll r ws f = v :=
  ((storeAll_last r h).eq_of_length hlen).symm

/-- **Behind a narrow write** stands what the last whole write left, or what stood there at first. -/
theorem storeAll_drop {n : Nat} (r : F → List α) (ws : List (F × List α)) (f : F) (hn : n ≤ (r f).length)
    (h : ∀ w ∈ ws, w.1 = f → w.2.length = n ∨ w.2.length = (r f).length) :
    (storeAll r ws f).drop n =
      ((last (ws.filter fun w => w.2.length = (r f).length) f).getD (r f)).drop n := by
  induction ws generalizing r with
  | nil => rfl
  | cons w ws ih =>
    have hws : ∀ v ∈ ws, v.1 = f → v.2.length = n ∨ v.2.length = (r f).length :=
      fun v hv => h v (List.mem_cons_of_mem _ hv)
    by_cases hf : w.1 = f
    · subst hf
      have hlen : (store r w w.1).length = (r w.1).length := by
        rw [store_self, List.length_append, List.length_drop]
        rcases h w List.mem_cons_self rfl with hw | hw <;> omega
      rw [storeAll_cons, ih (store r w) (hlen ▸ hn) (hlen ▸ hws), hlen]
      by_cases hw : w.2.length = (r w.1).length
      · -- a whole write leaves nothing of the old contents
        rw [List.filter_cons_of_pos (by simpa using hw), last_cons, if_pos rfl, store_self, hw,
          List.drop_length, List.append_nil]
        cases last (ws.filter fun w_1 => w_1.2.length = (r w.1).length) w.1 <;> rfl
      · have hwn : w.2.length = n := (h w List.mem_cons_self rfl).resolve_right hw
        rw [List.filter_cons_of_neg (by simpa using hw)]
        cases last (ws.filter fun w_1 => w_1.2.length = (r w.1).length) w.1 with
        | some v => rfl
        | none =>
          rw [Option.getD_none, Option.getD_none, store_self, ← hwn, List.drop_left]
    · have hstore : store r w f = r f := store_other r w (Ne.symm hf)
      rw [storeAll_cons, ih (store r w) (hstore ▸ hn) (hstore ▸ hws), hstore]
      by_cases hw : w.2.length = (r f).length
      · rw [List.filter_cons_of_pos (by simpa using hw), last_cons, if_neg hf, Option.or_none]
      · rw [List.filter_cons_of_neg (by simpa using hw)]

end Registers
