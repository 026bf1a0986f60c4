import GstSvpExt.DataBlockSize

/-!
# What the header functions read and write (`gst_svp_header.cpp:44-200`)

A setter, whatever field it names and however wide the token is, writes between the GUID and the end of
the header (`exec_frame`), so a run of setters leaves the marker and the data of a block alone
(`runSets_frame`). With that: every accessor stays inside a block unless it is the 400-byte copy of the
`MEDIATEK` build (`header_access_in_bounds`), stripping undoes wrapping (`wrap_strip`), and stripping
recognises a raw sample by its first 16 bytes (`remove_header_raw`).
-/

namespace GstSvpExt

open Bytes

variable {A : Type} {b : Build} {o o' : List UInt8}

/-! ## The setters -/

/-- Where a setter writes: behind the GUID, and to the end of the token slot or of the struct. -/
theorem stored_within {c : SetCall} (hc : c.field.known = true) :
    typeOffset ≤ c.field.offset ∧
      c.field.offset + (c.stored b).length ≤ handleOffset + max 4 b.tokenSize.toNat := by
  rcases c with ⟨f, v⟩ | ⟨f, v⟩
  · have hlen := u32Bytes_length v
    cases f <;> simp only [SetCall.field, SetCall.stored, SvpHeaderFieldName.offset, typeOffset, versionOffset,
      dataSizeOffset, handleOffset, hlen] at hc ⊢ <;> first | omega | simp [SvpHeaderFieldName.known] at hc
  · have hlen : (v.take (f.width b)).length ≤ f.width b := List.length_take_le _ _
    cases f <;> simp only [SetCall.field, SetCall.stored, SvpHeaderFieldName.offset, SvpHeaderFieldName.width,
      typeOffset, versionOffset, dataSizeOffset, handleOffset] at hc hlen ⊢ <;>
      first | omega | simp [SvpHeaderFieldName.known] at hc

/-- **A setter call** on a header with room is defined, succeeds if it names a field, and writes nothing
outside the fields. -/
theorem exec_frame {c : SetCall} (hr : c.Readable b) (hfit : HeaderFits b o) :
    ∃ o', c.exec b (some o) = some (c.field.known, some o') ∧
      AgreeOutside typeOffset (handleOffset + max 4 b.tokenSize.toNat) o o' := by
  cases hc : c.field.known with
  | false => exact ⟨o, exec_unknown b hc o, .refl _ _ o⟩
  | true =>
    obtain ⟨hlo, hhi⟩ := stored_within (b := b) hc
    obtain ⟨o', hw⟩ := exists_write o c.field.offset (c.stored b) (by unfold HeaderFits at hfit; omega)
    refine ⟨o', ?_, write_agree hw hlo hhi⟩
    rw [exec_known hr hc, storeField, hw]
    rfl

theorem HeaderFits.agree {lo hi : Nat} (hfit : HeaderFits b o) (h : AgreeOutside lo hi o o') : HeaderFits b o' := by
  unfold HeaderFits at hfit ⊢
  rw [h.1]
  exact hfit

/-- A run of setter calls writes nothing outside the fields. -/
theorem runSets_frame {calls : List SetCall} (hfit : HeaderFits b o) (hr : ∀ c ∈ calls, c.Readable b) :
    ∃ o', runSets b (some o) calls = some (some o') ∧
      AgreeOutside typeOffset (handleOffset + max 4 b.tokenSize.toNat) o o' := by
  induction calls generalizing o with
  | nil => exact ⟨o, rfl, .refl _ _ o⟩
  | cons c calls ih =>
    obtain ⟨o1, he, h1⟩ := exec_frame (hr c List.mem_cons_self) hfit
    obtain ⟨o2, hrun, h2⟩ := ih (hfit.agree h1) fun d hd => hr d (List.mem_cons_of_mem _ hd)
    refine ⟨o2, ?_, h1.trans h2⟩
    simp only [runSets, Runs.run_cons, he, Option.map_some, Option.bind_some]
    exact hrun

/-- Where `gst_svp_header_size` and the block length do not wrap, the fields lie in the header. -/
theorem fields_le_headerSize (hsize : sizeofSvpHeader + b.tokenSize.toNat < 2 ^ b.gsizeBits) :
    handleOffset + max 4 b.tokenSize.toNat ≤ gstSvpHeaderSize b := by
  rw [gstSvpHeaderSize_eq hsize]
  unfold handleOffset sizeofSvpHeader
  omega

/-- Where the block length does not wrap, neither does the header size. -/
theorem headerSize_of_block {n : Nat}
    (h : n + b.tokenSize.toNat + (sizeofSvpHeader + b.tokenSize.toNat) < 2 ^ b.gsizeBits) :
    sizeofSvpHeader + b.tokenSize.toNat < 2 ^ b.gsizeBits := by
  omega

/-- A returned block has the length that was asked for, and room for its fields. -/
theorem block_fits {mem : Memory} {hook : AllocSecMem A} {encryptedDataSize physicalDataSize total : Nat}
    {needSecMemAlloc : Bool}
    (hsize : physicalDataSize + b.tokenSize.toNat + (sizeofSvpHeader + b.tokenSize.toNat) < 2 ^ b.gsizeBits)
    (h : gstSvpAllocateDataBlock b mem hook true encryptedDataSize physicalDataSize needSecMemAlloc =
      some (total, some o)) :
    o.length = physicalDataSize + b.tokenSize.toNat + gstSvpHeaderSize b ∧ HeaderFits b o := by
  have hh := gstSvpHeaderSize_eq (headerSize_of_block hsize)
  obtain ⟨htotal, ⟨hnone, -⟩ | ⟨o', ho, -, hroom⟩⟩ := allocate_inv h
  · cases hnone
  obtain rfl := Option.some.inj ho
  rw [hh, Nat.mod_eq_of_lt hsize] at htotal
  have hlen : o.length = physicalDataSize + b.tokenSize.toNat + gstSvpHeaderSize b := by
    rw [hroom.length, htotal, hh]
  refine ⟨hlen, ?_⟩
  unfold HeaderFits
  rw [hlen, hh]
  unfold handleOffset sizeofSvpHeader
  omega

/-- A returned block is well formed. -/
theorem block_wellFormed {mem : Memory} {hook : AllocSecMem A}
    {encryptedDataSize physicalDataSize total : Nat} {needSecMemAlloc : Bool}
    (hsize : sizeofSvpHeader + b.tokenSize.toNat < 2 ^ b.gsizeBits)
    (hslot : hook.slot.length ≤ b.tokenSize.toNat)
    (h : gstSvpAllocateDataBlock b mem hook true encryptedDataSize physicalDataSize needSecMemAlloc =
      some (total, some o)) :
    WellFormedBlock b o (hookType hook encryptedDataSize needSecMemAlloc)
      (if needSecMemAlloc then hook.slot else []) := by
  obtain ⟨htotal, ⟨hnone, -⟩ | ⟨o', ho, hmem, hroom⟩⟩ := allocate_inv h
  · cases hnone
  obtain rfl := Option.some.inj ho
  obtain ⟨o1, h1, -, hwf⟩ := (allocate_spec hsize mem encryptedDataSize physicalDataSize needSecMemAlloc
    hslot htotal.symm).1 hroom.header hmem
  rw [h] at h1
  obtain ⟨-, ho1⟩ := Prod.mk.inj (Option.some.inj h1)
  obtain rfl := Option.some.inj ho1
  exact hwf

/-! ## Staying inside a block -/

/-- The accessors of one field on a block: the v1 getter reads inside the block and writes inside the
caller's `uint32_t`, both setters write inside the header, and the v1 getter returns what the v1 setter
stored. An access outside one of the objects would be undefined. -/
structure AccessInBounds (b : Build) (o : List UInt8) (f : SvpHeaderFieldName) : Prop where
  get : ∀ value : List UInt8, value.length = 4 → ∃ ok value',
    gstSvpHeaderGetField b (some o) f value = some (ok, value') ∧ value'.length = 4
  set : ∀ c : SetCall, c.field = f → c.Readable b → ∃ ok o',
    c.exec b (some o) = some (ok, some o') ∧ AgreeOutside 0 (gstSvpHeaderSize b) o o'
  getSet : f.known = true → ∀ v : UInt32, ∃ o', gstSvpHeaderSetField (some o) f v = some (true, some o') ∧
    ∀ value : List UInt8, value.length = 4 → gstSvpHeaderGetField b (some o') f value = some (true, u32Bytes v)

/-- The v1 getter of a known field is a four-byte copy, save in the `MEDIATEK` build. -/
theorem getField_copy {f : SvpHeaderFieldName} (hf : f.known = true)
    (hm : ¬ (b.mediatek = true ∧ f = .outputBuffer)) (o value : List UInt8) :
    gstSvpHeaderGetField b (some o) f value = copyField o f.offset 4 value := by
  cases f with
  | unknown raw => cases hf
  | outputBuffer =>
    have hmed : b.mediatek = false := by simpa using hm
    simp only [gstSvpHeaderGetField, hmed, Bool.false_eq_true, if_false]
    rfl
  | type | version | dataSize => rfl

/-- The four bytes of every known field lie in a header with room. -/
theorem field_room {f : SvpHeaderFieldName} (hfit : HeaderFits b o) : f.offset + 4 ≤ o.length := by
  unfold HeaderFits at hfit
  cases f <;> simp only [SvpHeaderFieldName.offset, typeOffset, versionOffset, dataSizeOffset,
    handleOffset] at hfit ⊢ <;> omega

/-- The `MEDIATEK` copy of the output buffer is wider than the caller's object, whatever the block. -/
theorem mediatek_overruns (hm : b.mediatek = true) (o : List UInt8) : ¬ AccessInBounds b o .outputBuffer := by
  intro h
  obtain ⟨ok, value', hget, -⟩ := h.get [0, 0, 0, 0] rfl
  simp only [gstSvpHeaderGetField, hm, if_true] at hget
  obtain ⟨bs, hread, hget⟩ := Option.bind_eq_some_iff.1 hget
  obtain ⟨value'', hw, -⟩ := Option.map_eq_some_iff.1 hget
  -- the object has four bytes, the copy 400
  have hroom := (write_eq_some.1 hw).1
  rw [read_length hread] at hroom
  exact absurd hroom (by decide)

/-- **The accessors stay in bounds** on every block, for every field but the output buffer of the
`MEDIATEK` build. -/
theorem header_access_in_bounds (b : Build) (mem : Memory) (hook : AllocSecMem A)
    (encryptedDataSize physicalDataSize : Nat) (needSecMemAlloc : Bool)
    (hsize : physicalDataSize + b.tokenSize.toNat + (sizeofSvpHeader + b.tokenSize.toNat) < 2 ^ b.gsizeBits)
    (total : Nat) (o : List UInt8)
    (halloc : gstSvpAllocateDataBlock b mem hook true encryptedDataSize physicalDataSize needSecMemAlloc =
      some (total, some o)) (f : SvpHeaderFieldName) :
    AccessInBounds b o f ↔ ¬ (b.mediatek = true ∧ f = .outputBuffer) := by
  obtain ⟨-, hfit⟩ := block_fits hsize halloc
  constructor
  · rintro h ⟨hm, rfl⟩
    exact mediatek_overruns hm o h
  · intro hm
    constructor
    case get =>
      intro value hv
      cases hf : f.known with
      | true =>
        obtain ⟨bs, hread⟩ := exists_read (field_room hfit (f := f))
        exact ⟨true, bs, by rw [getField_copy hf hm, copyField_whole hread hv], read_length hread⟩
      | false =>
        cases f with
        | unknown raw => exact ⟨false, value, rfl, hv⟩
        | type | version | dataSize | outputBuffer => cases hf
    case set =>
      rintro c - hr
      obtain ⟨o', he, ha⟩ := exec_frame hr hfit
      exact ⟨_, o', he, ha.mono (Nat.zero_le _) (fields_le_headerSize (headerSize_of_block hsize))⟩
    case getSet =>
      intro hf v
      have hlen := u32Bytes_length v
      obtain ⟨o', hw⟩ := exists_write o f.offset (u32Bytes v) (by rw [hlen]; exact field_room hfit)
      have hset : gstSvpHeaderSetField (some o) f v = some (true, some o') := by
        have hexec := exec_known (b := b) (c := .v1 f v) trivial hf o
        rw [SetCall.stored, SetCall.field, storeField, hw] at hexec
        exact hexec
      have hread := read_write hw (Nat.le_refl _)
      rw [List.take_length, hlen] at hread
      refine ⟨o', hset, ?_⟩
      intro value hv
      rw [getField_copy hf hm, copyField_whole hread hv]

/-- A block of the build without `MEDIATEK`. -/
theorem header_access_in_bounds_block :
    ∃ total o, gstSvpAllocateDataBlock (A := Unit) ⟨64, 8, false⟩ (.ample fun _ => 0) ⟨some (), [1, 2], none⟩ true 100 16
        true = some (total, some o) ∧ ∀ f, AccessInBounds ⟨64, 8, false⟩ o f := by
  obtain ⟨o, halloc⟩ := allocate_defined (A := Unit) ⟨64, 8, false⟩ (.ample fun _ => 0)
    ⟨some (), [1, 2], none⟩ 100 16 true rfl (Memory.ample_supplies _ _ _) (by decide) (by decide) fun _ => by decide
  refine ⟨_, o, halloc, ?_⟩
  intro f
  exact (header_access_in_bounds _ _ _ _ _ _ (by decide) _ o halloc f).2 fun h => Bool.false_ne_true h.1

/-- Any block of the `MEDIATEK` build. -/
theorem header_access_mediatek :
    ¬ ∀ (b : Build) (mem : Memory) (hook : AllocSecMem Unit) (encryptedDataSize physicalDataSize : Nat)
        (needSecMemAlloc : Bool),
      physicalDataSize + b.tokenSize.toNat + (sizeofSvpHeader + b.tokenSize.toNat) < 2 ^ b.gsizeBits →
      ∀ (total : Nat) (o : List UInt8),
        gstSvpAllocateDataBlock b mem hook true encryptedDataSize physicalDataSize needSecMemAlloc =
          some (total, some o) → ∀ f, AccessInBounds b o f := by
  intro h
  obtain ⟨o, halloc⟩ := allocate_defined (A := Unit) ⟨64, 8, true⟩ (.ample fun _ => 0) ⟨none, [], none⟩ 0 1000 false rfl
    (Memory.ample_supplies _ _ _) (by decide) (by decide) fun hn => by cases hn
  exact mediatek_overruns rfl o (h _ _ _ _ _ _ (by decide) _ o halloc .outputBuffer)

/-! ## Wrapping and stripping -/

/-- The marker decides, on any object that is long enough to be read for one. -/
theorem hasHeader_eq (o : List UInt8) (p : Nat) :
    gstSvpHasHeader o p = if p + guidSize ≤ o.length then some ((o.drop p).take guidSize == headerGuid) else none := by
  unfold gstSvpHasHeader Bytes.read
  split <;> rfl

/-- **Stripping undoes wrapping.** A new block comes back wherever memory supplies it; and a payload written to
it is still there after any setter calls, at the place to which stripping the header leads. -/
theorem wrap_strip (b : Build) (mem : Memory) (hook : AllocSecMem A)
    (encryptedDataSize physicalDataSize : Nat) (needSecMemAlloc : Bool)
    (hslot : hook.slot.length ≤ b.tokenSize.toNat)
    (hsize : physicalDataSize + b.tokenSize.toNat + (sizeofSvpHeader + b.tokenSize.toNat) < 2 ^ b.gsizeBits)
    (p : List UInt8) (hp : p.length ≤ physicalDataSize) (calls : List SetCall) (hr : ∀ c ∈ calls, c.Readable b) :
    (mem.Supplies b (physicalDataSize + b.tokenSize.toNat + gstSvpHeaderSize b) →
      (gstSvpAllocateDataBlock b mem hook true encryptedDataSize physicalDataSize needSecMemAlloc).isSome) ∧
    ∀ total data,
      gstSvpAllocateDataBlock b mem hook true encryptedDataSize physicalDataSize needSecMemAlloc =
          some (total, data) →
      ∃ o start o1 o2, data = some o ∧
        gstSvpHeaderGetStartOfData b (some 0) = some start ∧ write o start p = some o1 ∧
        runSets b (some o1) calls = some (some o2) ∧ gstSvpHasHeader o2 0 = some true ∧
        gstSvpHeaderRemoveHeaderIfPresent b o2 0 = some (some start) ∧ read o2 start p.length = some p := by
  have hh := headerSize_of_block hsize
  have hfields := fields_le_headerSize hh
  have hmod := Nat.mod_eq_of_lt hsize
  rw [← gstSvpHeaderSize_eq hh] at hmod
  obtain ⟨hback, hreturned⟩ := allocate_spec hh mem encryptedDataSize physicalDataSize needSecMemAlloc hslot hmod
  constructor
  · intro hmem
    obtain ⟨o, halloc, -, -⟩ := hback (Nat.le_add_left _ _) hmem
    rw [halloc]
    rfl
  intro total data halloc
  obtain ⟨hle, hmem⟩ := hreturned (by rw [halloc]; rfl)
  obtain ⟨o, halloc', -, hwf⟩ := hback hle hmem
  obtain ⟨rfl, rfl⟩ := Prod.mk.inj (Option.some.inj (halloc.symm.trans halloc'))
  obtain ⟨hlen, hfit⟩ := block_fits hsize halloc
  obtain ⟨o1, hw⟩ := exists_write o (gstSvpHeaderSize b) p (by rw [hlen]; omega)
  have hbelow := write_agree hw (Nat.le_refl (gstSvpHeaderSize b)) (Nat.le_refl _)
  obtain ⟨o2, hrun, hsets⟩ := runSets_frame (hfit.agree hbelow) hr
  have hguid : read o2 0 guidSize = some headerGuid := by
    rw [hsets.read (Or.inl (by decide)), hbelow.read (Or.inl ?_)]
    · exact hwf.guid
    · unfold handleOffset at hfields
      unfold guidSize
      omega
  have hhas : gstSvpHasHeader o2 0 = some true := by
    simp only [gstSvpHasHeader, hguid, Option.map_some, beq_self_eq_true]
  have hstart : gstSvpHeaderGetStartOfData b (some 0) = some (gstSvpHeaderSize b) := by
    rw [gstSvpHeaderGetStartOfData, Option.map_some, Nat.zero_add]
  refine ⟨o, _, o1, o2, rfl, hstart, hw, hrun, hhas, ?_, ?_⟩
  · rw [gstSvpHeaderRemoveHeaderIfPresent, hhas, Option.map_some, if_pos rfl, hstart]
  · rw [hsets.read (Or.inr hfields), read_write hw (Nat.le_refl _), List.take_length]

/-- A three-byte payload in a block of a build with a two-byte token, then a setter wider than the token. -/
theorem wrap_strip_narrow :
    ∃ total o start o1 o2,
      gstSvpAllocateDataBlock (A := Unit) ⟨64, 2, false⟩ (.ample fun _ => 0xff) ⟨none, [], none⟩ true 3 3 true =
          some (total, some o) ∧
        gstSvpHeaderGetStartOfData ⟨64, 2, false⟩ (some 0) = some start ∧ write o start [1, 2, 3] = some o1 ∧
        runSets ⟨64, 2, false⟩ (some o1) [.v1 .outputBuffer 0xffffffff] = some (some o2) ∧
        gstSvpHasHeader o2 0 = some true ∧
        gstSvpHeaderRemoveHeaderIfPresent ⟨64, 2, false⟩ o2 0 = some (some start) ∧
        read o2 start 3 = some [1, 2, 3] := by
  obtain ⟨hback, hstrip⟩ := wrap_strip (A := Unit) ⟨64, 2, false⟩ (.ample fun _ => 0xff) ⟨none, [], none⟩ 3 3 true
    (by decide) (by decide) [1, 2, 3] (by decide) [.v1 .outputBuffer 0xffffffff] (by simp [SetCall.Readable])
  obtain ⟨⟨total, data⟩, halloc⟩ := Option.isSome_iff_exists.1 (hback (Memory.ample_supplies _ _ _))
  obtain ⟨o, start, o1, o2, rfl, h⟩ := hstrip total data halloc
  exact ⟨total, o, start, o1, o2, halloc, h⟩

/-! ## Recognising a header -/

/-- A data block: allocated, then written to anywhere behind its GUID. -/
def Wrapped (A : Type) (b : Build) (o : List UInt8) : Prop :=
  ∃ (mem : Memory) (hook : AllocSecMem A) (encryptedDataSize physicalDataSize : Nat)
    (needSecMemAlloc : Bool) (total : Nat) (o0 : List UInt8),
    hook.slot.length ≤ b.tokenSize.toNat ∧
      gstSvpAllocateDataBlock b mem hook true encryptedDataSize physicalDataSize needSecMemAlloc =
        some (total, some o0) ∧ AgreeOutside typeOffset o0.length o0 o

theorem Wrapped.length (h : Wrapped A b o) : handleOffset ≤ o.length := by
  obtain ⟨mem, hook, encryptedDataSize, physicalDataSize, needSecMemAlloc, total, o0, -, halloc, ha⟩ := h
  obtain ⟨-, ⟨hnone, -⟩ | ⟨o', ho, -, hroom⟩⟩ := allocate_inv halloc
  · cases hnone
  obtain rfl := Option.some.inj ho
  rw [ha.1, hroom.length]
  exact hroom.fields

theorem Wrapped.hasHeader (hsize : sizeofSvpHeader + b.tokenSize.toNat < 2 ^ b.gsizeBits) (h : Wrapped A b o) :
    gstSvpHasHeader o 0 = some true := by
  obtain ⟨mem, hook, encryptedDataSize, physicalDataSize, needSecMemAlloc, total, o0, hslot, halloc, ha⟩ := h
  have hwf := block_wellFormed hsize hslot halloc
  have hguid : read o 0 guidSize = some headerGuid := by
    rw [ha.read (Or.inl (by decide))]
    exact hwf.guid
  simp only [gstSvpHasHeader, hguid, Option.map_some, beq_self_eq_true]

/-- Stripping leaves a pointer where it is exactly if 16 bytes can be read there that are not the marker. -/
theorem removeHeader_self_iff (hsize : sizeofSvpHeader + b.tokenSize.toNat < 2 ^ b.gsizeBits) (o : List UInt8)
    (p : Nat) : gstSvpHeaderRemoveHeaderIfPresent b o p = some (some p) ↔
      p + guidSize ≤ o.length ∧ (o.drop p).take guidSize ≠ headerGuid := by
  have hh := gstSvpHeaderSize_eq hsize
  unfold gstSvpHeaderRemoveHeaderIfPresent
  rw [hasHeader_eq]
  by_cases hle : p + guidSize ≤ o.length
  · rw [if_pos hle]
    by_cases hg : (o.drop p).take guidSize = headerGuid
    · simp only [hg, beq_self_eq_true, Option.map_some, if_true, gstSvpHeaderGetStartOfData, Option.some.injEq,
        ne_eq, not_true_eq_false, and_false, iff_false]
      unfold sizeofSvpHeader at hh
      omega
    · simp [hg, hle]
  · simp [hle]

/-- **Recognising a header.** A raw sample is left alone exactly if it has 16 bytes to read and these are
not the marker; a block is stripped once, and its data, taken as a sample, is left alone under the same
condition. -/
theorem remove_header_raw (b : Build) (hsize : sizeofSvpHeader + b.tokenSize.toNat < 2 ^ b.gsizeBits) :
    (∀ o : List UInt8, (gstSvpHasHeader o 0 = some false ∧
        gstSvpHeaderRemoveHeaderIfPresent b o 0 = some (some 0)) ↔
          guidSize ≤ o.length ∧ o.take guidSize ≠ headerGuid) ∧
      ∀ o : List UInt8, Wrapped A b o → ∃ start, gstSvpHeaderGetStartOfData b (some 0) = some start ∧
        gstSvpHeaderRemoveHeaderIfPresent b o 0 = some (some start) ∧
        (gstSvpHeaderRemoveHeaderIfPresent b o start = some (some start) ↔
          start + guidSize ≤ o.length ∧ (o.drop start).take guidSize ≠ headerGuid) := by
  constructor
  · intro o
    have hself := removeHeader_self_iff hsize o 0
    rw [Nat.zero_add, List.drop_zero] at hself
    rw [hself, and_iff_right_iff_imp]
    rintro ⟨hle, hg⟩
    rw [hasHeader_eq, Nat.zero_add, if_pos hle, List.drop_zero, beq_false_of_ne hg]
  · intro o hw
    refine ⟨gstSvpHeaderSize b, ?_, ?_, removeHeader_self_iff hsize o _⟩
    · rw [gstSvpHeaderGetStartOfData, Option.map_some, Nat.zero_add]
    · rw [gstSvpHeaderRemoveHeaderIfPresent, hw.hasHeader hsize, Option.map_some, if_pos rfl,
        gstSvpHeaderGetStartOfData, Option.map_some, Nat.zero_add]

/-- In a build with an 8-byte token: a sample that has the marker's length but is not the marker, and a block
with such a sample as its data. -/
theorem remove_header_raw_zeros :
    gstSvpHeaderRemoveHeaderIfPresent ⟨64, 8, false⟩ (List.replicate 16 0) 0 = some (some 0) ∧
      ∃ o, Wrapped Unit ⟨64, 8, false⟩ o ∧ ∃ start,
        gstSvpHeaderGetStartOfData ⟨64, 8, false⟩ (some 0) = some start ∧
        gstSvpHeaderRemoveHeaderIfPresent ⟨64, 8, false⟩ o 0 = some (some start) ∧
        gstSvpHeaderRemoveHeaderIfPresent ⟨64, 8, false⟩ o start = some (some start) := by
  obtain ⟨hraw, hblock⟩ := remove_header_raw (A := Unit) ⟨64, 8, false⟩ (by decide)
  refine ⟨((hraw (List.replicate 16 0)).2 ⟨by decide, by decide⟩).2, ?_⟩
  have halloc : gstSvpAllocateDataBlock (A := Unit) ⟨64, 8, false⟩ (.ample fun _ => 0) ⟨none, [], none⟩ true 16 16
      false = some (64, some (headerGuid ++ List.replicate 8 0 ++ u32Bytes 16 ++ List.replicate 36 0)) := rfl
  have hwrapped : Wrapped Unit ⟨64, 8, false⟩
      (headerGuid ++ List.replicate 8 0 ++ u32Bytes 16 ++ List.replicate 36 0) :=
    ⟨_, _, _, _, _, _, _, by decide, halloc, .refl _ _ _⟩
  obtain ⟨start, hstart, hfirst, hsecond⟩ := hblock _ hwrapped
  obtain rfl : 40 = start := Option.some.inj hstart
  exact ⟨_, hwrapped, 40, hstart, hfirst, hsecond.2 ⟨by decide, by decide⟩⟩

/-- An empty sample is read past its end; a sample that is the marker is taken for a header; and a block
whose payload starts with the marker is stripped twice. -/
theorem remove_header_misled :
    (¬ Wrapped Unit ⟨64, 8, false⟩ [] ∧ gstSvpHeaderRemoveHeaderIfPresent ⟨64, 8, false⟩ [] 0 = none) ∧
      (¬ Wrapped Unit ⟨64, 8, false⟩ headerGuid ∧
        gstSvpHeaderRemoveHeaderIfPresent ⟨64, 8, false⟩ headerGuid 0 = some (some 40)) ∧
      ∃ o, Wrapped Unit ⟨64, 8, false⟩ o ∧
        gstSvpHeaderRemoveHeaderIfPresent ⟨64, 8, false⟩ o 0 = some (some 40) ∧
        gstSvpHeaderRemoveHeaderIfPresent ⟨64, 8, false⟩ o 40 = some (some 80) := by
  refine ⟨⟨?_, rfl⟩, ⟨?_, rfl⟩, ?_⟩
  · intro h
    exact absurd h.length (by decide)
  · intro h
    exact absurd h.length (by decide)
  · obtain ⟨o0, halloc⟩ := allocate_defined (A := Unit) ⟨64, 8, false⟩ (.ample fun _ => 0) ⟨none, [], none⟩ 16 16
      false rfl (Memory.ample_supplies _ _ _) (by decide) (by decide) fun hn => by cases hn
    have hlen : o0.length = 64 := (block_fits (by decide) halloc).1
    obtain ⟨o, hw⟩ := exists_write o0 40 headerGuid (by rw [hlen]; decide)
    have hwrapped : Wrapped Unit ⟨64, 8, false⟩ o :=
      ⟨_, _, _, _, _, _, o0, by decide, halloc, write_agree hw (by decide) (by rw [hlen]; decide)⟩
    have hsecond : read o 40 guidSize = some headerGuid := read_write hw (Nat.le_refl _)
    refine ⟨o, hwrapped, ?_, ?_⟩
    · rw [gstSvpHeaderRemoveHeaderIfPresent, hwrapped.hasHeader (by decide)]
      rfl
    · rw [gstSvpHeaderRemoveHeaderIfPresent, gstSvpHasHeader, hsecond]
      rfl

end GstSvpExt
