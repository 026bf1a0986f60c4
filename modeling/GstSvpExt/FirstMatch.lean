import Mathlib.Data.List.Nodup
import Mathlib.Data.List.Perm.Basic
import Mathlib.Tactic.Common

/-!
# First-match tables

A table read as a map from keys: the first row with a key is the one that counts. `IsFirst` says so with
the rows before and after it. Where no key is used twice the order of the rows says nothing
(`firstMatch_perm`).
-/

namespace FirstMatch

variable {α β κ : Type*} [DecidableEq κ] (key : α → κ)

def firstMatch (l : List α) (k : κ) : Option α := l.find? fun a => k = key a

/-- `a` has the key `k`, and no row before it does. -/
def IsFirst (l : List α) (k : κ) (a : α) : Prop :=
  ∃ before after, l = before ++ a :: after ∧ key a = k ∧ ∀ b ∈ before, key b ≠ k

variable {key} {l l' : List α} {k : κ} {a b : α}

theorem firstMatch_eq_some_iff : firstMatch key l k = some a ↔ IsFirst key l k a := by
  rw [firstMatch, List.find?_eq_some_iff_append]
  constructor
  · rintro ⟨hk, before, after, hl, hb⟩
    exact ⟨before, after, hl, by simpa using (of_decide_eq_true hk).symm, fun b hm he => by simpa [he] using hb b hm⟩
  · rintro ⟨before, after, hl, hk, hb⟩
    exact ⟨by simp [hk], before, after, hl, fun b hm => by simpa using (hb b hm).symm⟩

theorem IsFirst.unique (ha : IsFirst key l k a) (hb : IsFirst key l k b) : a = b := by
  rw [← firstMatch_eq_some_iff] at ha hb
  exact Option.some.inj (ha.symm.trans hb)

/-- Rows that keep their keys keep their places. -/
theorem firstMatch_map {key' : β → κ} {f : α → β} (hf : ∀ a, key' (f a) = key a) :
    firstMatch key' (l.map f) k = (firstMatch key l k).map f := by
  rw [firstMatch, List.find?_map, firstMatch]
  congr 2
  ext a
  simp [hf]

omit [DecidableEq κ] in
theorem isFirst_iff_mem (hn : (l.map key).Nodup) : IsFirst key l k a ↔ a ∈ l ∧ key a = k := by
  constructor
  · rintro ⟨before, after, rfl, hk, -⟩
    exact ⟨by simp, hk⟩
  · rintro ⟨hm, hk⟩
    obtain ⟨before, after, rfl⟩ := List.append_of_mem hm
    refine ⟨before, after, rfl, hk, ?_⟩
    intro b hb he
    rw [List.map_append, List.nodup_append] at hn
    exact hn.2.2 (key b) (List.mem_map_of_mem hb) (key a) (by simp) (he.trans hk.symm)

/-- Reordering a table without repeated keys. -/
theorem firstMatch_perm (hp : l.Perm l') (hn : (l.map key).Nodup) : firstMatch key l k = firstMatch key l' k := by
  have hkeys : (l'.map key).Nodup := (hp.map key).nodup hn
  ext a
  rw [firstMatch_eq_some_iff, isFirst_iff_mem hn, firstMatch_eq_some_iff, isFirst_iff_mem hkeys, hp.mem_iff]

end FirstMatch
