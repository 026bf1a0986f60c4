import Mathlib.Algebra.Group.Nat.Defs
import Mathlib.Data.List.TakeDrop
import Mathlib.Tactic.Common

/-!
# Byte-level memory objects

One memory object is the list of its bytes. `read` and `write` are bounds-checked: `none` is an
access that leaves the object. `write_getElem?` says what a write does to every byte, and the
read-after-write rules follow from it: inside the written range (`read_write`), over a longer range
that starts with it (`read_write_over`) and away from it (`read_write_away`). `AgreeOutside` is the
frame of any number of writes inside one range. `readUpTo` reads a memory of which single bytes may be
missing. `leBytes` and `leVal` are the little-endian codec of fixed-width integers.
-/

namespace Bytes

/-- The `n` bytes from offset `off`. -/
def read (o : List UInt8) (off n : Nat) : Option (List UInt8) :=
  if off + n ≤ o.length then some ((o.drop off).take n) else none

/-- The object after storing `bs` from offset `off`. -/
def write (o : List UInt8) (off : Nat) (bs : List UInt8) : Option (List UInt8) :=
  if off + bs.length ≤ o.length then some (o.take off ++ bs ++ o.drop (off + bs.length)) else none

theorem read_eq_some {o bs : List UInt8} {off n : Nat} :
    read o off n = some bs ↔ off + n ≤ o.length ∧ (o.drop off).take n = bs := by
  simp [read]

theorem write_eq_some {o o' bs : List UInt8} {off : Nat} :
    write o off bs = some o' ↔
      off + bs.length ≤ o.length ∧ o.take off ++ bs ++ o.drop (off + bs.length) = o' := by
  simp only [write, Option.ite_none_right_eq_some, Option.some.injEq]

theorem read_length {o bs : List UInt8} {off n : Nat} (h : read o off n = some bs) : bs.length = n := by
  obtain ⟨hle, rfl⟩ := read_eq_some.1 h
  rw [List.length_take, List.length_drop]; omega

theorem write_length {o o' bs : List UInt8} {off : Nat} (h : write o off bs = some o') :
    o'.length = o.length := by
  obtain ⟨hle, rfl⟩ := write_eq_some.1 h
  simp only [List.length_append, List.length_take, List.length_drop]; omega

theorem exists_read {o : List UInt8} {off n : Nat} (h : off + n ≤ o.length) :
    ∃ bs, read o off n = some bs := ⟨_, read_eq_some.2 ⟨h, rfl⟩⟩

theorem exists_write (o : List UInt8) (off : Nat) (bs : List UInt8) (h : off + bs.length ≤ o.length) :
    ∃ o', write o off bs = some o' := ⟨_, write_eq_some.2 ⟨h, rfl⟩⟩

/-- A write over the whole of an object. -/
theorem write_whole {o bs : List UInt8} (h : o.length = bs.length) : write o 0 bs = some bs := by
  refine write_eq_some.2 ⟨by omega, ?_⟩
  rw [List.take_zero, List.nil_append, List.drop_of_length_le (by omega), List.append_nil]

/-- Every byte after a write: the written ones in their range, the old ones elsewhere. -/
theorem write_getElem? {o o' bs : List UInt8} {off : Nat} (h : write o off bs = some o') (i : Nat) :
    o'[i]? = if off ≤ i ∧ i < off + bs.length then bs[i - off]? else o[i]? := by
  obtain ⟨hle, rfl⟩ := write_eq_some.1 h
  have htake : (o.take off).length = off := by rw [List.length_take]; omega
  rw [List.append_assoc]
  by_cases h1 : i < off
  · rw [List.getElem?_append_left (by omega), List.getElem?_take_of_lt h1, if_neg (by omega)]
  · rw [List.getElem?_append_right (by omega), htake]
    by_cases h2 : i < off + bs.length
    · rw [List.getElem?_append_left (by omega), if_pos ⟨by omega, h2⟩]
    · rw [List.getElem?_append_right (by omega), List.getElem?_drop, if_neg (by omega)]
      congr 1; omega

/-- Two objects with the same bytes in a range read the same there. -/
theorem read_congr {o o' : List UInt8} {off n : Nat} (hlen : o'.length = o.length)
    (h : ∀ i, off ≤ i → i < off + n → o'[i]? = o[i]?) : read o' off n = read o off n := by
  by_cases hle : off + n ≤ o.length
  · simp only [read, hle, hlen, if_true, Option.some.injEq]
    apply List.ext_getElem?
    intro i
    simp only [List.getElem?_take, List.getElem?_drop]
    by_cases hi : i < n
    · rw [if_pos hi, if_pos hi]; exact h _ (by omega) (by omega)
    · rw [if_neg hi, if_neg hi]
  · simp only [read, hle, hlen, if_false]

/-- Reading a prefix of what was just written. -/
theorem read_write {o o' bs : List UInt8} {off n : Nat} (h : write o off bs = some o')
    (hn : n ≤ bs.length) : read o' off n = some (bs.take n) := by
  have hle := (write_eq_some.1 h).1
  refine read_eq_some.2 ⟨by rw [write_length h]; omega, ?_⟩
  apply List.ext_getElem?
  intro i
  simp only [List.getElem?_take, List.getElem?_drop]
  by_cases hi : i < n
  · rw [if_pos hi, if_pos hi, write_getElem? h, if_pos (by omega)]; congr 1; omega
  · rw [if_neg hi, if_neg hi]

/-- A write leaves what lies wholly before or wholly after it as it was. -/
theorem read_write_away {o o' bs : List UInt8} {off off' n : Nat} (h : write o off bs = some o')
    (ha : off' + n ≤ off ∨ off + bs.length ≤ off') : read o' off' n = read o off' n :=
  read_congr (write_length h) fun i h1 h2 => by rw [write_getElem? h, if_neg (by omega)]

/-- Reading a range that starts with what was written: the written bytes, then the old ones. -/
theorem read_write_over {o o' bs old : List UInt8} {off n : Nat} (h : write o off bs = some o')
    (hn : bs.length ≤ n) (hr : read o off n = some old) :
    read o' off n = some (bs ++ old.drop bs.length) := by
  obtain ⟨hle, rfl⟩ := read_eq_some.1 hr
  refine read_eq_some.2 ⟨by rw [write_length h]; exact hle, ?_⟩
  apply List.ext_getElem?
  intro i
  simp only [List.getElem?_take, List.getElem?_drop]
  by_cases hi : i < bs.length
  · rw [if_pos (by omega), List.getElem?_append_left hi, write_getElem? h, if_pos (by omega)]
    congr 1; omega
  · have hj : bs.length + (i - bs.length) = i := by omega
    rw [List.getElem?_append_right (by omega), List.getElem?_drop, List.getElem?_take,
      List.getElem?_drop, hj]
    by_cases hin : i < n
    · rw [if_pos hin, if_pos hin, write_getElem? h, if_neg (by omega)]
    · rw [if_neg hin, if_neg hin]

/-- A write inside a range is a write to what is read of the range. -/
theorem read_write_inside {o o' bs old : List UInt8} {lo off n : Nat} (hr : read o lo n = some old)
    (hn : off + bs.length ≤ n) (h : write o (lo + off) bs = some o') :
    ∃ new, write old off bs = some new ∧ read o' lo n = some new := by
  obtain ⟨new, hw⟩ := exists_write old off bs (by rw [read_length hr]; exact hn)
  refine ⟨new, hw, ?_⟩
  obtain ⟨hle, rfl⟩ := read_eq_some.1 hr
  refine read_eq_some.2 ⟨by rw [write_length h]; exact hle, ?_⟩
  apply List.ext_getElem?
  intro i
  rw [write_getElem? hw, List.getElem?_take, List.getElem?_drop, write_getElem? h, List.getElem?_take,
    List.getElem?_drop]
  by_cases hi : off ≤ i ∧ i < off + bs.length
  · have hsub : lo + i - (lo + off) = i - off := by omega
    rw [if_pos hi, if_pos (by omega), if_pos (by omega), hsub]
  · rw [if_neg hi]
    by_cases hin : i < n
    · rw [if_pos hin, if_pos hin, if_neg (by omega)]
    · rw [if_neg hin, if_neg hin]

/-- A shorter read at the same place is a prefix of a longer one. -/
theorem read_take {o bs : List UInt8} {off n m : Nat} (h : read o off n = some bs) (hm : m ≤ n) :
    read o off m = some (bs.take m) := by
  obtain ⟨hle, rfl⟩ := read_eq_some.1 h
  refine read_eq_some.2 ⟨by omega, ?_⟩
  rw [List.take_take, Nat.min_eq_left hm]

/-- What stands between two parts of an object. -/
theorem read_append {bs : List UInt8} {off n : Nat} (head tail : List UInt8) (hoff : head.length = off)
    (hn : bs.length = n) : read (head ++ (bs ++ tail)) off n = some bs := by
  refine read_eq_some.2 ⟨?_, ?_⟩
  · rw [List.length_append, List.length_append]
    omega
  · rw [← hoff, List.drop_left, ← hn, List.take_left]

/-- Writing where a text ends that the object starts with. -/
theorem write_prefix {o o' t bs : List UInt8} (ht : t <+: o) (h : write o t.length bs = some o') :
    t ++ bs <+: o' := by
  obtain ⟨rest, rfl⟩ := ht
  obtain ⟨-, rfl⟩ := write_eq_some.1 h
  rw [List.take_left]
  exact List.prefix_append _ _

/-! ## Frames -/

/-- `o'` is `o`, save at most between `lo` and `hi`. -/
def AgreeOutside (lo hi : Nat) (o o' : List UInt8) : Prop :=
  o'.length = o.length ∧ ∀ i, i < lo ∨ hi ≤ i → o'[i]? = o[i]?

section
variable {lo hi : Nat} {o o' o'' bs : List UInt8}

theorem AgreeOutside.refl (lo hi : Nat) (o : List UInt8) : AgreeOutside lo hi o o :=
  ⟨rfl, fun _ _ => rfl⟩

theorem AgreeOutside.trans (h : AgreeOutside lo hi o o') (h' : AgreeOutside lo hi o' o'') :
    AgreeOutside lo hi o o'' :=
  ⟨h'.1.trans h.1, fun i hi => (h'.2 i hi).trans (h.2 i hi)⟩

theorem AgreeOutside.mono {lo' hi' : Nat} (h : AgreeOutside lo hi o o') (hlo : lo' ≤ lo) (hhi : hi ≤ hi') :
    AgreeOutside lo' hi' o o' :=
  ⟨h.1, fun i hi => h.2 i (by omega)⟩

theorem write_agree {off : Nat} (h : write o off bs = some o') (hlo : lo ≤ off) (hhi : off + bs.length ≤ hi) :
    AgreeOutside lo hi o o' := by
  refine ⟨write_length h, ?_⟩
  intro i hi
  rw [write_getElem? h, if_neg (by omega)]

theorem AgreeOutside.read {off n : Nat} (h : AgreeOutside lo hi o o') (ha : off + n ≤ lo ∨ hi ≤ off) :
    read o' off n = read o off n :=
  read_congr h.1 fun i h1 h2 => h.2 i (by omega)

end

/-! ## Memory with holes -/

/-- The first `n` bytes of a memory, if all of them can be read. -/
def readUpTo (mem : Nat → Option UInt8) : Nat → Option (List UInt8)
  | 0 => some []
  | n + 1 => (readUpTo mem n).bind fun bs => (mem n).map fun b => bs ++ [b]

theorem readUpTo_length {mem : Nat → Option UInt8} {n : Nat} {bs : List UInt8} (h : readUpTo mem n = some bs) :
    bs.length = n := by
  induction n generalizing bs with
  | zero =>
    obtain rfl := Option.some.inj h
    rfl
  | succ n ih =>
    obtain ⟨front, hfront, h⟩ := Option.bind_eq_some_iff.1 h
    obtain ⟨b, -, rfl⟩ := Option.map_eq_some_iff.1 h
    rw [List.length_append, ih hfront]
    rfl

/-- A read goes through exactly if every byte of it is there. -/
theorem readUpTo_isSome {mem : Nat → Option UInt8} {n : Nat} :
    (readUpTo mem n).isSome ↔ ∀ i < n, (mem i).isSome := by
  induction n with
  | zero => simp [readUpTo]
  | succ n ih =>
    have hstep : (readUpTo mem (n + 1)).isSome ↔ (readUpTo mem n).isSome ∧ (mem n).isSome := by
      simp only [readUpTo]
      cases readUpTo mem n with
      | none => simp
      | some bs => simp
    rw [hstep, ih]
    constructor
    · rintro ⟨hlow, hn⟩ i hi
      rcases Nat.lt_succ_iff_lt_or_eq.1 hi with hi | rfl
      · exact hlow i hi
      · exact hn
    · intro h
      exact ⟨fun i hi => h i (Nat.lt_succ_of_lt hi), h n (Nat.lt_succ_self n)⟩

/-! ## Little-endian integers -/

/-- The `n` low bytes of `v`, least significant first. -/
def leBytes : Nat → Nat → List UInt8
  | 0, _ => []
  | n + 1, v => UInt8.ofNat v :: leBytes n (v / 256)

/-- The value of little-endian bytes. -/
def leVal : List UInt8 → Nat
  | [] => 0
  | b :: bs => b.toNat + 256 * leVal bs

@[simp] theorem leBytes_length (n v : Nat) : (leBytes n v).length = n := by
  induction n generalizing v with
  | zero => rfl
  | succ n ih => simp [leBytes, ih]

theorem leVal_leBytes (n v : Nat) : leVal (leBytes n v) = v % 256 ^ n := by
  induction n generalizing v with
  | zero => simp [leBytes, leVal, Nat.mod_one]
  | succ n ih =>
    have hb : (UInt8.ofNat v).toNat = v % 256 := by simp
    rw [leBytes, leVal, hb, ih, Nat.pow_succ, Nat.mul_comm (256 ^ n), Nat.mod_mul]

theorem leVal_lt (bs : List UInt8) : leVal bs < 256 ^ bs.length := by
  induction bs with
  | nil => exact Nat.one_pos
  | cons b bs ih =>
    have hb := b.toNat_lt
    rw [leVal, List.length_cons, Nat.pow_succ]
    omega

theorem leBytes_leVal (bs : List UInt8) : leBytes bs.length (leVal bs) = bs := by
  induction bs with
  | nil => rfl
  | cons b bs ih =>
    have hb := b.toNat_lt
    have hlow : UInt8.ofNat (b.toNat + 256 * leVal bs) = b := by
      apply UInt8.toNat_inj.1
      rw [UInt8.toNat_ofNat']
      omega
    have hhigh : (b.toNat + 256 * leVal bs) / 256 = leVal bs := by omega
    rw [List.length_cons, leVal, leBytes, hlow, hhigh, ih]

/-- The four bytes of a `uint32_t`. -/
def u32Bytes (v : UInt32) : List UInt8 := leBytes 4 v.toNat

/-- The `uint32_t` stored in four bytes. -/
def u32Of (bs : List UInt8) : UInt32 := UInt32.ofNat (leVal bs)

@[simp] theorem u32Bytes_length (v : UInt32) : (u32Bytes v).length = 4 := leBytes_length 4 _

@[simp] theorem u32Of_u32Bytes (v : UInt32) : u32Of (u32Bytes v) = v := by
  have hv := v.toNat_lt
  rw [u32Of, u32Bytes, leVal_leBytes, Nat.mod_eq_of_lt (by omega), UInt32.ofNat_toNat]

theorem u32Bytes_u32Of {bs : List UInt8} (h : bs.length = 4) : u32Bytes (u32Of bs) = bs := by
  have hlt := leVal_lt bs
  rw [h] at hlt
  have hval : (u32Of bs).toNat = leVal bs := UInt32.toNat_ofNat_of_lt hlt
  rw [u32Bytes, hval, ← h, leBytes_leVal]

end Bytes
