import Mathlib.Algebra.Group.Nat.Defs
import Mathlib.Algebra.Order.Group.Nat
import Mathlib.Data.List.TakeDrop
import Mathlib.Data.Nat.Basic
import Mathlib.Tactic.Common

/-!
# Hex dumps

Bytes as groups of two digits and a blank, with a line break before every group whose index `width`
divides. `dump_length` is the exact length of the text. Without its line breaks a dump is its groups
(`unbroken_dump`), and `decode` reads a text of groups that was cut anywhere as the bytes of which both
digits are left (`decode_take`).
-/

namespace HexDump

def newline : UInt8 := 10

def blank : UInt8 := 32

/-- The upper-case digit of `n < 16`. -/
def digit (n : Nat) : UInt8 := UInt8.ofNat (if n < 10 then 48 + n else 55 + n)

def digitVal (c : UInt8) : Nat := if c.toNat < 58 then c.toNat - 48 else c.toNat - 55

def group (b : UInt8) : List UInt8 := [digit (b.toNat / 16), digit (b.toNat % 16), blank]

/-- The text of `bs`, of which the first has index `idx`. -/
def dump (width : Nat) : Nat → List UInt8 → List UInt8
  | _, [] => []
  | idx, b :: bs => (if idx % width = 0 then [newline] else []) ++ group b ++ dump width (idx + 1) bs

/-- The bytes of a text of groups; the last one may lack its blank. -/
def decode : List UInt8 → List UInt8
  | hi :: lo :: _ :: rest => UInt8.ofNat (digitVal hi * 16 + digitVal lo) :: decode rest
  | [hi, lo] => [UInt8.ofNat (digitVal hi * 16 + digitVal lo)]
  | _ => []

/-! ## Digits -/

theorem digitVal_digit : ∀ n < 16, digitVal (digit n) = n := by decide

theorem digit_ne_newline : ∀ n < 16, digit n ≠ newline := by decide

theorem byte_of_digits (b : UInt8) :
    UInt8.ofNat (digitVal (digit (b.toNat / 16)) * 16 + digitVal (digit (b.toNat % 16))) = b := by
  have hb := b.toNat_lt
  rw [digitVal_digit _ (by omega), digitVal_digit _ (by omega)]
  have hsum : b.toNat / 16 * 16 + b.toNat % 16 = b.toNat := by omega
  rw [hsum, UInt8.ofNat_toNat]

theorem newline_notMem_group (b : UInt8) : newline ∉ group b := by
  have hb := b.toNat_lt
  have hhi := digit_ne_newline (b.toNat / 16) (by omega)
  have hlo := digit_ne_newline (b.toNat % 16) (by omega)
  have hblank : blank ≠ newline := by decide
  simp [group, hhi.symm, hlo.symm, hblank.symm]

@[simp] theorem group_length (b : UInt8) : (group b).length = 3 := rfl

/-! ## Decoding -/

/-- Cut after `j` characters, the groups of `bs` still hold the bytes with two digits left. -/
theorem decode_take (bs : List UInt8) (j : Nat) : decode ((bs.flatMap group).take j) = bs.take ((j + 1) / 3) := by
  induction bs generalizing j with
  | nil => simp [decode]
  | cons b bs ih =>
    match j with
    | 0 => rfl
    | 1 => rfl
    | 2 =>
      have hb := byte_of_digits b
      simp [group, decode, hb]
    | j + 3 =>
      have hb := byte_of_digits b
      have hj : (j + 3 + 1) / 3 = (j + 1) / 3 + 1 := by omega
      rw [hj]
      simp [group, decode, hb, ih]

theorem groups_length (bs : List UInt8) : (bs.flatMap group).length = 3 * bs.length := by
  induction bs with
  | nil => rfl
  | cons b bs ih =>
    rw [List.flatMap_cons, List.length_append, ih, group_length, List.length_cons]
    omega

/-! ## Line breaks -/

/-- The text without its line breaks. -/
def unbroken (t : List UInt8) : List UInt8 := t.filter (· ≠ newline)

theorem unbroken_append (t u : List UInt8) : unbroken (t ++ u) = unbroken t ++ unbroken u := List.filter_append ..

theorem unbroken_group (b : UInt8) : unbroken (group b) = group b := by
  apply List.filter_eq_self.2
  intro c hc
  have hne : c ≠ newline := fun h => newline_notMem_group b (h ▸ hc)
  simpa using hne

theorem unbroken_dump (width idx : Nat) (bs : List UInt8) : unbroken (dump width idx bs) = bs.flatMap group := by
  induction bs generalizing idx with
  | nil => rfl
  | cons b bs ih =>
    rw [dump, unbroken_append, unbroken_append, unbroken_group, ih, List.flatMap_cons]
    split <;> rfl

theorem dump_concat (width idx : Nat) (bs : List UInt8) (b : UInt8) :
    dump width idx (bs ++ [b]) =
      dump width idx bs ++ (if (idx + bs.length) % width = 0 then [newline] else []) ++ group b := by
  induction bs generalizing idx with
  | nil => simp [dump]
  | cons c bs ih =>
    have hidx : idx + 1 + bs.length = idx + (c :: bs).length := by rw [List.length_cons]; omega
    rw [List.cons_append, dump, ih, dump, hidx]
    simp only [List.append_assoc]

/-- Three characters a byte, and the line breaks. -/
theorem dump_length {width : Nat} (hw : 0 < width) (idx : Nat) (bs : List UInt8) :
    (dump width idx bs).length + (idx + width - 1) / width =
      3 * bs.length + (idx + bs.length + width - 1) / width := by
  induction bs generalizing idx with
  | nil => simp [dump]
  | cons b bs ih =>
    have hnext := ih (idx + 1)
    have hstep : (idx + 1 + width - 1) / width = (idx + width - 1) / width + (if idx % width = 0 then 1 else 0) := by
      have hpred : idx + 1 + width - 1 = (idx + width - 1) + 1 := by omega
      have hdvd : width ∣ idx + width - 1 + 1 ↔ idx % width = 0 := by
        rw [Nat.sub_add_cancel (by omega), Nat.dvd_add_self_right, Nat.dvd_iff_mod_eq_zero]
      rw [hpred, Nat.succ_div]
      simp only [hdvd]
    have hidx : idx + 1 + bs.length + width - 1 = idx + (b :: bs).length + width - 1 := by
      rw [List.length_cons]; omega
    rw [hstep, hidx] at hnext
    rw [dump, List.length_append, List.length_append, group_length, List.length_cons]
    rw [List.length_cons] at hnext
    split at hnext
    · rename_i h0
      rw [if_pos h0, List.length_singleton]
      omega
    · rename_i h0
      rw [if_neg h0, List.length_nil]
      omega

/-! ## A cut dump -/

/-- A dump that is closed with a line break ends in a digit, a blank and that break. -/
theorem dump_tail (width idx : Nat) (bs : List UInt8) (b : UInt8) :
    ∃ start, dump width idx (bs ++ [b]) ++ [newline] =
      start ++ [digit (b.toNat % 16), blank, newline] := by
  rw [dump_concat]
  refine ⟨dump width idx bs ++ (if (idx + bs.length) % width = 0 then [newline] else []) ++
    [digit (b.toNat / 16)], ?_⟩
  simp [group]

/-- The characters that count in what is cut off: none or the last blank if at most two are. -/
theorem unbroken_cut (start : List UInt8) {y : UInt8} (hy : y ≠ newline) (k : Nat) :
    (unbroken ((start ++ [y, blank, newline]).drop k)).length ≤ 1 ↔
      (start ++ [y, blank, newline]).length ≤ k + 2 := by
  have hb : blank ≠ newline := by decide
  rw [List.length_append, List.drop_append]
  by_cases hk : k ≤ start.length
  · have hzero : k - start.length = 0 := by omega
    have htail : unbroken [y, blank, newline] = [y, blank] := by simp [unbroken, hy, hb]
    rw [hzero, List.drop_zero, unbroken_append, htail, List.length_append]
    simp only [List.length_cons, List.length_nil]
    omega
  · have hnil : start.drop k = [] := List.drop_of_length_le (by omega)
    obtain ⟨d, hd⟩ : ∃ d, k - start.length = d + 1 := ⟨k - start.length - 1, by omega⟩
    rw [hnil, hd, List.nil_append, List.drop_succ_cons]
    have hshort : (unbroken ([blank, newline].drop d)).length ≤ (unbroken [blank, newline]).length :=
      ((List.drop_suffix d _).sublist.filter _).length_le
    have hone : (unbroken [blank, newline]).length = 1 := rfl
    simp only [List.length_cons, List.length_nil]
    exact ⟨fun _ => by omega, fun _ => by omega⟩

/-- **What a cut leaves.** Of a closed dump of `bs`, cut after `k` characters, all of `bs` can be read
exactly if nothing but the closing line break and the last blank is cut off. -/
theorem decode_cut_iff (width idx : Nat) (bs : List UInt8) (k : Nat) :
    decode (unbroken ((dump width idx bs ++ [newline]).take k)) = bs ↔
      bs = [] ∨ (dump width idx bs).length + 1 ≤ k + 2 := by
  have hall : unbroken (dump width idx bs ++ [newline]) = bs.flatMap group := by
    rw [unbroken_append, unbroken_dump]
    exact List.append_nil _
  -- the cut text is a prefix of the groups, short of what was cut off
  have hpre : unbroken ((dump width idx bs ++ [newline]).take k) <+: bs.flatMap group :=
    hall ▸ (List.take_prefix k _).filter _
  have hlen : (unbroken ((dump width idx bs ++ [newline]).take k)).length +
      (unbroken ((dump width idx bs ++ [newline]).drop k)).length = 3 * bs.length := by
    rw [← List.length_append, ← unbroken_append, List.take_append_drop, hall, groups_length]
  rw [List.prefix_iff_eq_take.1 hpre, decode_take, List.take_eq_self_iff]
  rcases List.eq_nil_or_concat bs with rfl | ⟨init, b, hbs⟩
  · simp
  · rw [List.concat_eq_append] at hbs
    subst hbs
    have hy := digit_ne_newline (b.toNat % 16) (by omega)
    obtain ⟨start, hstart⟩ := dump_tail width idx init b
    have hcut := unbroken_cut start hy k
    rw [← hstart, List.length_append, List.length_singleton] at hcut
    have hne : init ++ [b] ≠ [] := by simp
    have hpos : 0 < (init ++ [b]).length := List.length_pos_iff.2 hne
    simp only [hne, false_or, ← hcut]
    omega

end HexDump
