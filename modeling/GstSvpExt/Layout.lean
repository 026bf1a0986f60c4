import GstSvpExt.Bytes
import GstSvpExt.Registers

/-!
# Structs in memory

A `Layout` gives every field of a struct its range of bytes, no two of them overlapping. Over an object
that the struct fits in, `fields` is a register file: a write within one field is a `Registers.store`
(`Layout.fields_write`), a list of such writes a `Registers.storeAll` (`Layout.writeAll_spec`).
-/

namespace Bytes

open Registers

structure Layout (F : Type*) where
  offset : F → Nat
  width : F → Nat
  size : Nat
  inside : ∀ f, offset f + width f ≤ size
  apart : ∀ f g, f ≠ g → offset f + width f ≤ offset g ∨ offset g + width g ≤ offset f

namespace Layout

variable {F : Type*} (L : Layout F)

/-- The bytes of a field. -/
def fields (o : List UInt8) (f : F) : List UInt8 := (o.drop (L.offset f)).take (L.width f)

/-- `p->f = bs` for each of the writes, in order. -/
def writeAll (o : List UInt8) (ws : List (F × List UInt8)) : Option (List UInt8) :=
  ws.foldlM (fun o w => write o (L.offset w.1) w.2) o

variable {L} {o o' : List UInt8} {f : F} {bs : List UInt8}

theorem read_fields (hfit : L.size ≤ o.length) (f : F) :
    read o (L.offset f) (L.width f) = some (L.fields o f) :=
  read_eq_some.2 ⟨Nat.le_trans (L.inside f) hfit, rfl⟩

theorem fields_length (hfit : L.size ≤ o.length) (f : F) : (L.fields o f).length = L.width f :=
  read_length (read_fields hfit f)

/-- A write within a field is a store in that register, and no other register sees it. -/
theorem fields_write [DecidableEq F] (hfit : L.size ≤ o.length) (hbs : bs.length ≤ L.width f)
    (h : write o (L.offset f) bs = some o') : L.fields o' = store (L.fields o) (f, bs) := by
  have hfit' : L.size ≤ o'.length := by rw [write_length h]; exact hfit
  funext g
  apply Option.some.inj
  rw [← read_fields hfit' g]
  by_cases hg : g = f
  · subst hg
    rw [store_self, read_write_over h hbs (read_fields hfit g)]
  · rw [store_other _ _ hg, ← read_fields hfit g]
    refine read_write_away h ?_
    rcases L.apart f g (Ne.symm hg) with ha | ha <;> omega

/-- Writes within fields are defined, are stores, and leave what lies behind the struct. -/
theorem writeAll_spec [DecidableEq F] (hfit : L.size ≤ o.length) {ws : List (F × List UInt8)}
    (hws : ∀ w ∈ ws, w.2.length ≤ L.width w.1) :
    ∃ o', L.writeAll o ws = some o' ∧ AgreeOutside 0 L.size o o' ∧ L.fields o' = storeAll (L.fields o) ws := by
  induction ws generalizing o with
  | nil => exact ⟨o, rfl, AgreeOutside.refl .., rfl⟩
  | cons w ws ih =>
    have hw := hws w List.mem_cons_self
    have hin := L.inside w.1
    obtain ⟨o1, h1⟩ := exists_write o (L.offset w.1) w.2 (by omega)
    have hlen := write_length h1
    obtain ⟨o2, h2, hagree, hfields⟩ :=
      ih (o := o1) (by omega) fun v hv => hws v (List.mem_cons_of_mem _ hv)
    refine ⟨o2, ?_, (write_agree h1 (Nat.zero_le _) (by omega)).trans hagree, ?_⟩
    · rw [writeAll, List.foldlM_cons, h1]
      exact h2
    · rw [hfields, fields_write hfit hw h1, storeAll_cons]

end Layout

end Bytes
