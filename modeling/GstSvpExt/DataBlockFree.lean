import GstSvpExt.HeaderFrame

/-!
# What freeing a block releases (`gst_svp_header.cpp:244-281`)

The header promises that freeing a block frees its `OutputBuffer` if that is set, and that unsetting it
prevents this (`gst_svp_header.h:80-89`). `gst_svp_free_data_block` looks at `Type` first, and then at the
whole token slot, of which `gst_svp_header_set_field` writes four bytes. `slot_at_free` says what the slot
holds after any setter calls; `free_output_buffer` which calls the promise survives.
-/

namespace GstSvpExt

open Bytes Registers

variable {A H : Type} {b : Build} {o : List UInt8}

/-- An unset token. -/
def AllZero (bs : List UInt8) : Prop := ∀ x ∈ bs, x = 0

instance (bs : List UInt8) : Decidable (AllZero bs) := inferInstanceAs (Decidable (∀ x ∈ bs, x = 0))

/-- The token that a stored value stands for: its bytes, and zeros to the token's width. -/
def tokenOf (b : Build) (bs : List UInt8) : List UInt8 :=
  bs ++ List.replicate (b.tokenSize.toNat - bs.length) 0

/-- The extract hook finds no handle exactly in an unset slot, and different tokens name different handles. -/
structure ExtractsToken (b : Build) (extract : List UInt8 → Option H) : Prop where
  null : ∀ slot : List UInt8, slot.length = b.tokenSize.toNat → (extract slot = none ↔ AllZero slot)
  named : ∀ slot slot' : List UInt8, slot.length = b.tokenSize.toNat → slot'.length = b.tokenSize.toNat →
    ∀ h, extract slot = some h → extract slot' = some h → slot = slot'

/-- The token that the allocation stored, if its hook was asked and succeeded. -/
def allocatedToken (hook : AllocSecMem A) (needSecMemAlloc : Bool) : Option (List UInt8) :=
  if needSecMemAlloc ∧ hook.result.isSome then some hook.slot else none

/-- The `OutputBuffer` value that was stored last, by a setter or by the allocation. -/
def lastOutputBuffer (b : Build) (hook : AllocSecMem A) (needSecMemAlloc : Bool) (calls : List SetCall) :
    Option (List UInt8) :=
  (lastWritten b calls .outputBuffer).or (allocatedToken hook needSecMemAlloc)

/-- What the header promises of a block that the calls left as `o'`. -/
structure FreesOutputBuffer (b : Build) (extract : List UInt8 → Option H) (hook : AllocSecMem A)
    (needSecMemAlloc : Bool) (calls : List SetCall) (o' : List UInt8) : Prop where
  set : ∀ bs, lastOutputBuffer b hook needSecMemAlloc calls = some bs → ¬ AllZero bs →
    ∃ h, extract (tokenOf b bs) = some h ∧ gstSvpFreeDataBlock b extract (some o') = some [h]
  unset : ∀ bs, lastWritten b calls .outputBuffer = some bs → AllZero bs →
    gstSvpFreeDataBlock b extract (some o') = some []

/-- The `Type` that a block is freed with, by what the calls and the allocation stored. -/
def typeAtFree (b : Build) (hook : AllocSecMem A) (encryptedDataSize : Nat) (needSecMemAlloc : Bool)
    (calls : List SetCall) : UInt32 :=
  u32Of ((lastWritten b calls .type).getD (u32Bytes (hookType hook encryptedDataSize needSecMemAlloc).val))

/-- The types whose `OutputBuffer` a free looks at. -/
def OwnsOutputBuffer (type : UInt32) : Prop :=
  type = TokenType.preAllocatedHandle.val ∨ type = TokenType.fake.val

instance (type : UInt32) : Decidable (OwnsOutputBuffer type) := inferInstanceAs (Decidable (_ ∨ _))

/-- What stands in the slot of the block `o` behind its first `n` bytes: the rest of the last whole token
that a call stored, or of what the allocation left there. -/
def leftBehind (b : Build) (o : List UInt8) (calls : List SetCall) (n : Nat) : List UInt8 :=
  ((last ((writesOf b calls).filter fun w => w.2.length = b.tokenSize.toNat) .outputBuffer).getD
    (fieldBytes b o .outputBuffer)).drop n

/-- A token that was stored is freed under one of the two types and has the slot to itself; one that was
unset leaves nothing there, unless neither type is set. -/
def OutputBufferWhole (b : Build) (hook : AllocSecMem A) (encryptedDataSize : Nat) (needSecMemAlloc : Bool)
    (o : List UInt8) (calls : List SetCall) : Prop :=
  let type := typeAtFree b hook encryptedDataSize needSecMemAlloc calls
  (∀ bs, lastOutputBuffer b hook needSecMemAlloc calls = some bs → ¬ AllZero bs →
    OwnsOutputBuffer type ∧ AllZero (leftBehind b o calls bs.length)) ∧
  ∀ bs, lastWritten b calls .outputBuffer = some bs → AllZero bs →
    OwnsOutputBuffer type → AllZero (leftBehind b o calls bs.length)

/-! ## The slot -/

/-- What a setter stores in `OutputBuffer`: four bytes, or a whole token. -/
theorem writesOf_width {calls : List SetCall} (hr : ∀ c ∈ calls, c.Readable b) :
    ∀ w ∈ writesOf b calls, w.1 = .outputBuffer → w.2.length = 4 ∨ w.2.length = b.tokenSize.toNat := by
  intro w hw hf
  simp only [writesOf, List.mem_map, List.mem_filter] at hw
  obtain ⟨c, ⟨hc, -⟩, rfl⟩ := hw
  rcases c with ⟨f, v⟩ | ⟨f, v⟩
  · exact Or.inl (u32Bytes_length v)
  · have hlen : f.width b ≤ v.length := hr _ hc
    simp only [SetCall.field] at hf
    subst hf
    right
    rw [SetCall.stored, List.length_take]
    exact Nat.min_eq_left hlen

/-- The last value that a call stored in `OutputBuffer`, and what stands behind it. -/
theorem slot_of_written {o' bs : List UInt8} {calls : List SetCall} (ht : 4 ≤ b.tokenSize.toNat)
    (hfit : HeaderFits b o) (hr : ∀ c ∈ calls, c.Readable b)
    (hregs : fieldBytes b o' = storeAll (fieldBytes b o) (writesOf b calls))
    (h : lastWritten b calls .outputBuffer = some bs) :
    fieldBytes b o' .outputBuffer = bs ++ leftBehind b o calls bs.length := by
  have hlen : (fieldBytes b o .outputBuffer).length = b.tokenSize.toNat := fieldBytes_length hfit _
  have hdrop := storeAll_drop (n := 4) (fieldBytes b o) (writesOf b calls) .outputBuffer (by omega)
    (by rw [hlen]; exact writesOf_width hr)
  obtain ⟨rest, hrest⟩ := storeAll_last (fieldBytes b o) h
  have hbs : 4 ≤ bs.length := by
    obtain ⟨w, hw, rfl⟩ := Option.map_eq_some_iff.1 h
    exact writesOf_covers ht hr w (List.mem_filter.1 (List.mem_of_getLast? hw)).1
  have hsplit : ∀ l : List UInt8, l.drop bs.length = (l.drop 4).drop (bs.length - 4) := by
    intro l
    rw [List.drop_drop]
    congr 1
    omega
  unfold leftBehind
  rw [hregs, ← hlen, hsplit, ← hdrop, ← hsplit, ← hrest, List.drop_left]

/-- Without such a call the slot is as it was. -/
theorem slot_of_unwritten {o' : List UInt8} {calls : List SetCall}
    (hregs : fieldBytes b o' = storeAll (fieldBytes b o) (writesOf b calls))
    (h : lastWritten b calls .outputBuffer = none) (n : Nat) :
    fieldBytes b o' .outputBuffer = fieldBytes b o .outputBuffer ∧
      leftBehind b o calls n = (fieldBytes b o .outputBuffer).drop n := by
  refine ⟨by rw [hregs]; exact storeAll_of_last_none _ h, ?_⟩
  have hnone : last ((writesOf b calls).filter fun w => w.2.length = b.tokenSize.toNat) .outputBuffer = none :=
    last_eq_none_iff.2 fun w hw => last_eq_none_iff.1 h w (List.mem_filter.1 hw).1
  rw [leftBehind, hnone, Option.getD_none]

/-- **The slot at the free**: the value that was stored last, then what it left standing. -/
theorem slot_at_free {o' bs : List UInt8} {hook : AllocSecMem A} {type : TokenType} {needSecMemAlloc : Bool}
    {calls : List SetCall} (ht : 4 ≤ b.tokenSize.toNat) (hfit : HeaderFits b o) (hr : ∀ c ∈ calls, c.Readable b)
    (hregs : fieldBytes b o' = storeAll (fieldBytes b o) (writesOf b calls))
    (hwf : WellFormedBlock b o type (if needSecMemAlloc then hook.slot else []))
    (h : lastOutputBuffer b hook needSecMemAlloc calls = some bs) :
    fieldBytes b o' .outputBuffer = bs ++ leftBehind b o calls bs.length := by
  unfold lastOutputBuffer at h
  cases hl : lastWritten b calls .outputBuffer with
  | some v =>
    rw [hl, Option.some_or] at h
    obtain rfl := Option.some.inj h
    exact slot_of_written ht hfit hr hregs hl
  | none =>
    rw [hl, Option.none_or, allocatedToken, Option.ite_none_right_eq_some] at h
    obtain ⟨⟨hneed, -⟩, hbs⟩ := h
    obtain ⟨hsame, hleft⟩ := slot_of_unwritten hregs hl bs.length
    obtain ⟨rest, hrest⟩ := hwf.slot
    rw [if_pos hneed, Option.some.inj hbs] at hrest
    have hslot : fieldBytes b o .outputBuffer = bs ++ rest :=
      Option.some.inj ((read_field hfit .outputBuffer).symm.trans hrest)
    rw [hsame, hleft, hslot, List.drop_left]

theorem allZero_append {bs cs : List UInt8} : AllZero (bs ++ cs) ↔ AllZero bs ∧ AllZero cs := by
  simp only [AllZero, List.mem_append, or_imp, forall_and]

theorem allZero_iff_replicate {bs : List UInt8} : AllZero bs ↔ bs = List.replicate bs.length 0 := by
  rw [List.eq_replicate_iff, and_iff_right rfl]
  rfl

/-- A slot that holds a value and what it left standing holds the value's token exactly if that is zero. -/
theorem tokenOf_eq_iff {bs rest : List UInt8} (hlen : (bs ++ rest).length = b.tokenSize.toNat) :
    bs ++ rest = tokenOf b bs ↔ AllZero rest := by
  have hrest : b.tokenSize.toNat - bs.length = rest.length := by
    rw [← hlen, List.length_append, Nat.add_sub_cancel_left]
  rw [tokenOf, hrest, List.append_cancel_left_eq]
  exact allZero_iff_replicate.symm

section
variable {extract : List UInt8 → Option H} {bs rest : List UInt8} {owns : Prop} [Decidable owns]

/-- Exactly the handle of the stored token is released if it is looked for and has the slot to itself. -/
theorem released_set_iff (hex : ExtractsToken b extract) (hlen : (bs ++ rest).length = b.tokenSize.toNat)
    (hbs : ¬ AllZero bs) :
    (∃ h, extract (tokenOf b bs) = some h ∧ (if owns then (extract (bs ++ rest)).toList else []) = [h]) ↔
      owns ∧ AllZero rest := by
  have htoken : (tokenOf b bs).length = b.tokenSize.toNat := by
    rw [List.length_append] at hlen
    rw [tokenOf, List.length_append, List.length_replicate]
    omega
  constructor
  · rintro ⟨h, hname, hrel⟩
    by_cases ho : owns
    · rw [if_pos ho] at hrel
      have hslot : extract (bs ++ rest) = some h := by
        cases he : extract (bs ++ rest) with
        | none => rw [he] at hrel; cases hrel
        | some k =>
          rw [he] at hrel
          exact congrArg some (List.cons.inj hrel).1
      exact ⟨ho, (tokenOf_eq_iff hlen).1 (hex.named _ _ hlen htoken h hslot hname)⟩
    · rw [if_neg ho] at hrel
      cases hrel
  · rintro ⟨ho, hrest⟩
    have hsame := (tokenOf_eq_iff hlen).2 hrest
    cases he : extract (bs ++ rest) with
    | none => exact absurd (allZero_append.1 ((hex.null _ hlen).1 he)).1 hbs
    | some h => exact ⟨h, by rw [← hsame, he], by rw [if_pos ho]; rfl⟩

/-- Nothing is released if nothing is looked for, or the slot is zero also behind what was unset. -/
theorem released_unset_iff (hex : ExtractsToken b extract) (hlen : (bs ++ rest).length = b.tokenSize.toNat)
    (hbs : AllZero bs) :
    (if owns then (extract (bs ++ rest)).toList else []) = [] ↔ (owns → AllZero rest) := by
  by_cases ho : owns
  · rw [if_pos ho, Option.toList_eq_nil_iff, hex.null _ hlen, allZero_append, and_iff_right hbs,
      forall_prop_of_true ho]
  · simp only [ho, if_false, false_imp_iff]

end

/-- **Freeing what is set.** After any setter calls on a new block its free keeps the header's promise
exactly if what was stored last has the slot to itself and the type says that it is to be freed. -/
theorem free_output_buffer (b : Build) (ht : 4 ≤ b.tokenSize.toNat) (mem : Memory) (hook : AllocSecMem A)
    (encryptedDataSize physicalDataSize : Nat) (needSecMemAlloc : Bool)
    (hslot : hook.slot.length ≤ b.tokenSize.toNat)
    (hsize : physicalDataSize + b.tokenSize.toNat + (sizeofSvpHeader + b.tokenSize.toNat) < 2 ^ b.gsizeBits)
    (total : Nat) (o : List UInt8)
    (halloc : gstSvpAllocateDataBlock b mem hook true encryptedDataSize physicalDataSize needSecMemAlloc =
      some (total, some o))
    (extract : List UInt8 → Option H) (hex : ExtractsToken b extract) (calls : List SetCall)
    (hr : ∀ c ∈ calls, c.Readable b) :
    ∃ o', runSets b (some o) calls = some (some o') ∧
      (FreesOutputBuffer b extract hook needSecMemAlloc calls o' ↔
        OutputBufferWhole b hook encryptedDataSize needSecMemAlloc o calls) := by
  obtain ⟨hlen, hfit⟩ := block_fits hsize halloc
  have hwf := block_wellFormed (headerSize_of_block hsize) hslot halloc
  obtain ⟨o', hrun, hframe⟩ := runSets_frame hfit hr
  obtain ⟨o'', hrun', hfit', hregs⟩ := runSets_spec ht hfit hr
  obtain rfl : o' = o'' := by
    rw [hrun] at hrun'
    exact Option.some.inj (Option.some.inj hrun')
  refine ⟨o', hrun, ?_⟩
  have hguid : read o' guidOffset guidSize = some headerGuid := (hframe.read (Or.inl (by decide))).trans hwf.guid
  have hfree := free_eq extract hguid (read_field hfit' .type) (read_field hfit' .outputBuffer)
  have htype : fieldBytes b o .type = u32Bytes (hookType hook encryptedDataSize needSecMemAlloc).val :=
    Option.some.inj ((read_field hfit .type).symm.trans hwf.type)
  rw [fieldBytes_lastWritten ht hfit hfit' hr hregs rfl, htype] at hfree
  have hlen' : (fieldBytes b o' .outputBuffer).length = b.tokenSize.toNat := fieldBytes_length hfit' _
  have hset : ∀ bs, lastOutputBuffer b hook needSecMemAlloc calls = some bs → ¬ AllZero bs →
      ((∃ h, extract (tokenOf b bs) = some h ∧ gstSvpFreeDataBlock b extract (some o') = some [h]) ↔
        OwnsOutputBuffer (typeAtFree b hook encryptedDataSize needSecMemAlloc calls) ∧
          AllZero (leftBehind b o calls bs.length)) := by
    intro bs hbs hz
    have hs := slot_at_free ht hfit hr hregs hwf hbs
    rw [hs] at hlen'
    rw [hfree, hs, ← released_set_iff hex hlen' hz]
    simp only [Option.some.injEq]
    rfl
  have hunset : ∀ bs, lastWritten b calls .outputBuffer = some bs → AllZero bs →
      (gstSvpFreeDataBlock b extract (some o') = some [] ↔
        (OwnsOutputBuffer (typeAtFree b hook encryptedDataSize needSecMemAlloc calls) →
          AllZero (leftBehind b o calls bs.length))) := by
    intro bs hbs hz
    have hs := slot_of_written ht hfit hr hregs hbs
    rw [hs] at hlen'
    rw [hfree, hs, Option.some.injEq, released_unset_iff hex hlen' hz]
    rfl
  constructor
  · rintro ⟨h1, h2⟩
    exact ⟨fun bs hbs hz => (hset bs hbs hz).1 (h1 bs hbs hz), fun bs hbs hz => (hunset bs hbs hz).1 (h2 bs hbs hz)⟩
  · rintro ⟨h1, h2⟩
    exact ⟨fun bs hbs hz => (hset bs hbs hz).2 (h1 bs hbs hz), fun bs hbs hz => (hunset bs hbs hz).2 (h2 bs hbs hz)⟩

/-- A handle is the token that names it. -/
def plainExtract (slot : List UInt8) : Option (List UInt8) := if AllZero slot then none else some slot

theorem plainExtract_extracts (b : Build) : ExtractsToken b plainExtract where
  null := by
    intro slot _
    unfold plainExtract
    rw [ite_eq_left_iff]
    simp
  named := by
    intro slot slot' _ _ h hs hs'
    unfold plainExtract at hs hs'
    rw [Option.ite_none_left_eq_some, Option.some.injEq] at hs hs'
    exact hs.2.trans hs'.2.symm

/-- The token of an allocation, with `Version` set before the block is freed. -/
theorem free_output_buffer_allocated :
    ∃ total o o', gstSvpAllocateDataBlock (A := Unit) ⟨64, 8, false⟩ (.ample fun _ => 0xff)
        ⟨some (), [1, 2, 3, 4, 5, 6, 7, 8], none⟩ true 100 16 true = some (total, some o) ∧
      runSets ⟨64, 8, false⟩ (some o) [.v1 .version 3] = some (some o') ∧
      FreesOutputBuffer ⟨64, 8, false⟩ plainExtract (A := Unit) ⟨some (), [1, 2, 3, 4, 5, 6, 7, 8], none⟩ true
        [.v1 .version 3] o' := by
  obtain ⟨o, halloc⟩ := allocate_defined (A := Unit) ⟨64, 8, false⟩ (.ample fun _ => 0xff)
    ⟨some (), [1, 2, 3, 4, 5, 6, 7, 8], none⟩ 100 16 true rfl (Memory.ample_supplies _ _ _) (by decide) (by decide)
    fun _ => by decide
  obtain ⟨o', hrun, hiff⟩ := free_output_buffer ⟨64, 8, false⟩ (by decide) (.ample fun _ => 0xff)
    ⟨some (), [1, 2, 3, 4, 5, 6, 7, 8], none⟩ 100 16 true (by decide) (by decide) _ o halloc plainExtract
    (plainExtract_extracts _) [.v1 .version 3] (by simp [SetCall.Readable])
  refine ⟨_, o, o', halloc, hrun, hiff.2 ⟨?_, ?_⟩⟩
  · intro bs hbs _
    obtain rfl : [1, 2, 3, 4, 5, 6, 7, 8] = bs := Option.some.inj hbs
    refine ⟨by decide, ?_⟩
    obtain ⟨-, hfit⟩ := block_fits (by decide) halloc
    have hlen : (fieldBytes ⟨64, 8, false⟩ o .outputBuffer).length = 8 := fieldBytes_length hfit _
    have hleft : leftBehind ⟨64, 8, false⟩ o [.v1 .version 3] 8 = [] :=
      List.drop_of_length_le (Nat.le_of_eq hlen)
    show AllZero (leftBehind _ o _ 8)
    rw [hleft]
    exact fun x hx => absurd hx List.not_mem_nil
  · intro bs hbs
    cases hbs

/-- A token set on a block whose type is still `InPlace` is not freed. -/
theorem free_keeps_set_token :
    ¬ ∀ (b : Build) (mem : Memory) (hook : AllocSecMem Unit) (encryptedDataSize physicalDataSize : Nat)
        (needSecMemAlloc : Bool) (total : Nat) (o : List UInt8) (calls : List SetCall),
      4 ≤ b.tokenSize.toNat → hook.slot.length ≤ b.tokenSize.toNat →
      physicalDataSize + b.tokenSize.toNat + (sizeofSvpHeader + b.tokenSize.toNat) < 2 ^ b.gsizeBits →
      gstSvpAllocateDataBlock b mem hook true encryptedDataSize physicalDataSize needSecMemAlloc =
        some (total, some o) → (∀ c ∈ calls, c.Readable b) →
      ∃ o', runSets b (some o) calls = some (some o') ∧
        FreesOutputBuffer b plainExtract hook needSecMemAlloc calls o' := by
  intro h
  obtain ⟨o', hrun, hfrees⟩ := h ⟨64, 8, false⟩ (.ample fun _ => 0) ⟨none, [], none⟩ 0 0 false 48
    (headerGuid ++ List.replicate 32 0) [.v2 .outputBuffer [1, 2, 3, 4, 5, 6, 7, 8]] (by decide) (by decide)
    (by decide) rfl (by simp [SetCall.Readable, SvpHeaderFieldName.width])
  have hset : runSets ⟨64, 8, false⟩ (some (headerGuid ++ List.replicate 32 0))
      [.v2 .outputBuffer [1, 2, 3, 4, 5, 6, 7, 8]] =
        some (some (headerGuid ++ List.replicate 12 0 ++ [1, 2, 3, 4, 5, 6, 7, 8] ++ List.replicate 12 0)) := rfl
  rw [hset] at hrun
  obtain rfl := Option.some.inj (Option.some.inj hrun)
  obtain ⟨handle, -, hfree⟩ := hfrees.set [1, 2, 3, 4, 5, 6, 7, 8] rfl (by decide)
  cases hfree

end GstSvpExt
