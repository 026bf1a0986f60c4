import GstSvpExt.DataBlock
import GstSvpExt.HeaderRegs

/-!
# How long a data block is, and what its header is copied from (`gst_svp_header.cpp:174-242`)

`gst_svp_allocate_data_block` adds up its sizes in `gsize` arithmetic and stores one of them in a 32-bit
field, unchecked; `gst_svp_write_header` copies `gst_svp_header_size` bytes out of a 32-byte object.
`allocate_inv` and `allocate_defined` say when an allocation returns, and with which block, for all sizes
and any memory whatever; from them `block_sizing_exact` and `header_write_clean` tell the sizes for which block and copy
are as long as they should be.
-/

namespace GstSvpExt

open Bytes

variable {A : Type} {b : Build} {o : List UInt8}

/-! ## When an allocation returns -/

theorem storeField_eq_some {off : Nat} {bs : List UInt8} {ok : Bool} {data : Option (List UInt8)} :
    storeField o off bs = some (ok, data) ↔ ok = true ∧ ∃ o', write o off bs = some o' ∧ data = some o' := by
  unfold storeField
  rw [Option.map_eq_some_iff]
  constructor
  · rintro ⟨o', hw, he⟩
    rw [Prod.mk.injEq] at he
    exact ⟨he.1.symm, o', hw, he.2.symm⟩
  · rintro ⟨rfl, o', hw, rfl⟩
    exact ⟨o', hw, rfl⟩

/-- The hook's call writes its token, then at most the type. -/
theorem allocSecMemInto_inv {hook : AllocSecMem A} {n : Nat} {data : Option (List UInt8)}
    (h : allocSecMemInto hook (some o) n = some data) :
    ∃ o1 o', write o handleOffset hook.slot = some o1 ∧ data = some o' ∧
      (o' = o1 ∨ ∃ type, write o1 typeOffset (u32Bytes type) = some o') := by
  simp only [allocSecMemInto, Option.bind_eq_bind, Option.bind_some] at h
  obtain ⟨o1, hw, h⟩ := Option.bind_eq_some_iff.1 h
  cases hr : hook.result with
  | none =>
    rw [hr] at h
    exact ⟨o1, o1, hw, (Option.some.inj h).symm, Or.inl rfl⟩
  | some a =>
    rw [hr] at h
    obtain ⟨⟨ok, data'⟩, hset, hd⟩ := Option.bind_eq_some_iff.1 h
    obtain ⟨-, o', hw', he⟩ := storeField_eq_some.1 hset
    exact ⟨o1, o', hw, (Option.some.inj hd).symm.trans he, Or.inr ⟨_, hw'⟩⟩

/-- What an allocation that returns has found room for, and what it leaves in `DataSize`. -/
structure BlockRoom (b : Build) (hook : AllocSecMem A) (encryptedDataSize : Nat) (needSecMemAlloc : Bool)
    (total : Nat) (o : List UInt8) : Prop where
  length : o.length = total
  header : gstSvpHeaderSize b ≤ total
  fields : handleOffset ≤ total
  slot : needSecMemAlloc = true → handleOffset + hook.slot.length ≤ total
  dataSize : read o dataSizeOffset 4 = some (u32Bytes (UInt32.ofNat encryptedDataSize))

/-- **What an allocation returns.** Either nothing, for a block of no bytes with a header of no bytes; or
a block of the length it says, which memory supplied and in which all that it wrote had room. -/
theorem allocate_inv {mem : Memory} {hook : AllocSecMem A} {encryptedDataSize physicalDataSize : Nat}
    {needSecMemAlloc : Bool} {total : Nat} {data : Option (List UInt8)}
    (h : gstSvpAllocateDataBlock b mem hook true encryptedDataSize physicalDataSize needSecMemAlloc =
      some (total, data)) :
    total = (physicalDataSize + b.tokenSize.toNat + gstSvpHeaderSize b) % 2 ^ b.gsizeBits ∧
      ((data = none ∧ total = 0 ∧ gstSvpHeaderSize b = 0 ∧ needSecMemAlloc = false) ∨
        ∃ o, data = some o ∧ mem.Supplies b total ∧
          BlockRoom b hook encryptedDataSize needSecMemAlloc total o) := by
  rw [allocate_eq] at h
  obtain ⟨data1, h1, h⟩ := Option.bind_eq_some_iff.1 h
  obtain ⟨⟨ok, data2⟩, h2, h⟩ := Option.bind_eq_some_iff.1 h
  obtain ⟨data3, h3, h⟩ := Option.bind_eq_some_iff.1 h
  simp only [Option.some.injEq, Prod.mk.injEq] at h
  obtain ⟨htotal, rfl⟩ := h
  refine ⟨htotal.symm, ?_⟩
  rw [htotal] at h1
  rcases newHeader_cases h1 with ⟨hz, hh, rfl⟩ | ⟨hmem, bs, o1, hbs, hw1, rfl⟩
  · -- the setter refuses the `NULL` block, and the hook would write through it
    obtain ⟨-, rfl⟩ := Prod.mk.inj (Option.some.inj h2)
    cases needSecMemAlloc with
    | true => cases h3
    | false => exact Or.inl ⟨(Option.some.inj h3).symm, hz, hh, rfl⟩
  · obtain ⟨-, o2, hw2, rfl⟩ := storeField_eq_some.1 h2
    have hl1 := write_length hw1
    rw [List.length_replicate] at hl1
    have hroom1 := (write_eq_some.1 hw1).1
    rw [List.length_replicate, defaultHeaderBytes_length hbs, Nat.zero_add] at hroom1
    have hroom2 := (write_eq_some.1 hw2).1
    rw [u32Bytes_length, hl1] at hroom2
    have hd := read_write hw2 (Nat.le_refl _)
    rw [u32Bytes_length, List.take_of_length_le (Nat.le_of_eq (u32Bytes_length _))] at hd
    refine Or.inr ?_
    cases needSecMemAlloc with
    | false =>
      refine ⟨o2, (Option.some.inj h3).symm, hmem, (write_length hw2).trans hl1, hroom1, hroom2, ?_, hd⟩
      intro hn
      cases hn
    | true =>
      obtain ⟨o3, o4, hw3, rfl, hty⟩ := allocSecMemInto_inv h3
      have hroom3 := (write_eq_some.1 hw3).1
      rw [write_length hw2, hl1] at hroom3
      have hd3 : read o3 dataSizeOffset 4 = _ := (read_write_away hw3 (Or.inl (by decide))).trans hd
      have hl3 : o3.length = total := (write_length hw3).trans ((write_length hw2).trans hl1)
      rcases hty with rfl | ⟨type, hw4⟩
      · exact ⟨o4, rfl, hmem, hl3, hroom1, hroom2, fun _ => hroom3, hd3⟩
      · refine ⟨o4, rfl, hmem, (write_length hw4).trans hl3, hroom1, hroom2, fun _ => hroom3, ?_⟩
        rw [read_write_away hw4 (Or.inr (by rw [u32Bytes_length]; decide)), hd3]

/-- An allocation returns wherever memory supplies the block and what is written has room. -/
theorem allocate_defined (b : Build) (mem : Memory) (hook : AllocSecMem A)
    (encryptedDataSize physicalDataSize : Nat) (needSecMemAlloc : Bool) {total : Nat}
    (htotal : (physicalDataSize + b.tokenSize.toNat + gstSvpHeaderSize b) % 2 ^ b.gsizeBits = total)
    (hmem : mem.Supplies b total) (hheader : gstSvpHeaderSize b ≤ total) (hfields : handleOffset ≤ total)
    (hslot : needSecMemAlloc = true → handleOffset + hook.slot.length ≤ total) :
    ∃ o, gstSvpAllocateDataBlock b mem hook true encryptedDataSize physicalDataSize needSecMemAlloc =
      some (total, some o) := by
  have hpos : total ≠ 0 := by
    rintro rfl
    exact absurd hfields (by decide)
  obtain ⟨bs, hbs⟩ := Option.isSome_iff_exists.1 (defaultHeaderBytes_isSome.2 hmem.beyond)
  obtain ⟨o1, hw1⟩ := exists_write (List.replicate total 0) 0 bs
    (by rw [defaultHeaderBytes_length hbs, List.length_replicate]; omega)
  have hl1 := write_length hw1
  rw [List.length_replicate] at hl1
  obtain ⟨o2, hw2⟩ := exists_write o1 dataSizeOffset (u32Bytes (UInt32.ofNat encryptedDataSize))
    (by rw [u32Bytes_length, hl1]; exact hfields)
  have hl2 := (write_length hw2).trans hl1
  have h1 : (gMalloc0 mem total).bind (gstSvpWriteHeader b mem.beyond) = some (some o1) := by
    rw [gMalloc0_granted hpos hmem.granted]
    exact writeHeader_eq_some.2 ⟨bs, o1, hbs, hw1, rfl⟩
  have h2 : gstSvpHeaderSetField (some o1) .dataSize (UInt32.ofNat encryptedDataSize) =
      some (true, some o2) := storeField_eq_some.2 ⟨rfl, o2, hw2, rfl⟩
  cases needSecMemAlloc with
  | false => exact ⟨o2, by simp [allocate_eq, htotal, h1, h2]⟩
  | true =>
    obtain ⟨o3, hw3⟩ := exists_write o2 handleOffset hook.slot (by rw [hl2]; exact hslot rfl)
    cases hr : hook.result with
    | none => exact ⟨o3, by simp [allocate_eq, htotal, h1, h2, allocSecMemInto, hw3, hr]⟩
    | some a =>
      obtain ⟨o4, hw4⟩ := exists_write o3 typeOffset (u32Bytes (hookType hook encryptedDataSize true).val)
        (by rw [u32Bytes_length, write_length hw3, hl2]; unfold handleOffset at hfields; unfold typeOffset; omega)
      have h4 : gstSvpHeaderSetField (some o3) .type (hookType hook encryptedDataSize true).val =
          some (true, some o4) := storeField_eq_some.2 ⟨rfl, o4, hw4, rfl⟩
      simp only [hookType, hr, Option.isSome_some, and_self, if_true] at h4
      exact ⟨o4, by simp [allocate_eq, htotal, h1, h2, allocSecMemInto, hw3, hr, h4]⟩

/-! ## How long a block should be -/

/-- Nothing is returned and nothing allocated; or the block has the length returned, with room for its
header and for `physicalDataSize` bytes at the start of its data, and both getters return
`encryptedDataSize` for `DataSize`. A write past the block, a copy from memory that is not mapped or a
`g_malloc0` without room would leave the allocation undefined. -/
def SizingExact {H : Type} (b : Build) (extract : List UInt8 → Option H) (mem : Memory)
    (hook : AllocSecMem A) (encryptedDataSize physicalDataSize : Nat) (needSecMemAlloc : Bool) : Prop :=
  ∃ total data,
    gstSvpAllocateDataBlock b mem hook true encryptedDataSize physicalDataSize needSecMemAlloc =
      some (total, data) ∧
    ((total = 0 ∧ data = none) ∨ ∃ o start v, data = some o ∧ o.length = total ∧
      gstSvpHeaderGetStartOfData b (some 0) = some start ∧ gstSvpHeaderSize b ≤ start ∧
      start + physicalDataSize ≤ o.length ∧ v.toNat = encryptedDataSize ∧
      gstSvpHeaderGetFieldV2 b extract (some o) .dataSize = some (true, some (.u32 v)) ∧
      ∀ value : List UInt8, value.length = 4 →
        gstSvpHeaderGetField b (some o) .dataSize value = some (true, u32Bytes v))

/-- The sizes add up without a wrap, memory supplies the block, `encryptedDataSize` fits its field, and the
hook's token its slot; or block and header both come out as no bytes. -/
def SizesFit (b : Build) (mem : Memory) (hook : AllocSecMem A) (encryptedDataSize physicalDataSize : Nat)
    (needSecMemAlloc : Bool) : Prop :=
  let size := physicalDataSize + b.tokenSize.toNat + gstSvpHeaderSize b
  (size < 2 ^ b.gsizeBits ∧ mem.Supplies b size ∧ encryptedDataSize < 2 ^ 32 ∧
      (needSecMemAlloc = true → handleOffset + hook.slot.length ≤ size)) ∨
    (size % 2 ^ b.gsizeBits = 0 ∧ gstSvpHeaderSize b = 0 ∧ needSecMemAlloc = false)

/-- A wrapped sum leaves less than the header and the data need. -/
theorem room_iff (hw : b.gsizeBits = 32 ∨ b.gsizeBits = 64) (n : Nat) :
    gstSvpHeaderSize b + n ≤ (n + b.tokenSize.toNat + gstSvpHeaderSize b) % 2 ^ b.gsizeBits ↔
      n + b.tokenSize.toNat + gstSvpHeaderSize b < 2 ^ b.gsizeBits := by
  have ht := b.tokenSize.toNat_lt
  rcases hw with hw | hw <;> rw [hw] <;> omega

/-- A block whose sum does not wrap has room for the fields, also where its header size has wrapped. -/
theorem fields_fit (hw : b.gsizeBits = 32 ∨ b.gsizeBits = 64) {n : Nat}
    (h : n + b.tokenSize.toNat + gstSvpHeaderSize b < 2 ^ b.gsizeBits) :
    handleOffset ≤ n + b.tokenSize.toNat + gstSvpHeaderSize b := by
  have ht := b.tokenSize.toNat_lt
  revert h
  unfold gstSvpHeaderSize sizeofSvpHeader handleOffset
  rcases hw with hw | hw <;> rw [hw] <;> omega

/-- `DataSize` as both getters read it from a block that an allocation returned. -/
theorem get_dataSize {H : Type} (extract : List UInt8 → Option H) {v : UInt32}
    (h : read o dataSizeOffset 4 = some (u32Bytes v)) :
    gstSvpHeaderGetFieldV2 b extract (some o) .dataSize = some (true, some (.u32 v)) ∧
      ∀ value : List UInt8, value.length = 4 →
        gstSvpHeaderGetField b (some o) .dataSize value = some (true, u32Bytes v) := by
  constructor
  · simp only [gstSvpHeaderGetFieldV2, loadU32, h, Option.map_some, u32Of_u32Bytes]
  · intro value hv
    exact copyField_whole h hv

/-- **A block is as long as it should be** exactly where the sizes fit and memory supplies the block. -/
theorem block_sizing_exact {H : Type} (b : Build) (extract : List UInt8 → Option H) (mem : Memory)
    (hook : AllocSecMem A) (encryptedDataSize physicalDataSize : Nat) (needSecMemAlloc : Bool)
    (hw : b.gsizeBits = 32 ∨ b.gsizeBits = 64) :
    SizingExact b extract mem hook encryptedDataSize physicalDataSize needSecMemAlloc ↔
      SizesFit b mem hook encryptedDataSize physicalDataSize needSecMemAlloc := by
  unfold SizingExact SizesFit
  constructor
  · rintro ⟨total, data, halloc, hcase⟩
    obtain ⟨htotal, hinv⟩ := allocate_inv halloc
    rcases hinv with ⟨-, hz, hh, hneed⟩ | ⟨o, rfl, hmem, hroom⟩
    · exact Or.inr ⟨htotal ▸ hz, hh, hneed⟩
    · rcases hcase with ⟨-, hnone⟩ | ⟨o', start, v, ho, -, hstart, -, hdata, hv, hget, -⟩
      · cases hnone
      · obtain rfl := Option.some.inj ho
        obtain rfl : 0 + gstSvpHeaderSize b = start := Option.some.inj hstart
        rw [Nat.zero_add, hroom.length, htotal] at hdata
        have hfit := (room_iff hw physicalDataSize).1 hdata
        rw [Nat.mod_eq_of_lt hfit] at htotal
        refine Or.inl ⟨hfit, htotal ▸ hmem, ?_, ?_⟩
        · rw [(get_dataSize extract hroom.dataSize).1] at hget
          obtain rfl : UInt32.ofNat encryptedDataSize = v := by simpa using hget
          rw [← hv]
          exact UInt32.toNat_lt _
        · intro hneed
          rw [← htotal]
          exact hroom.slot hneed
  · rintro (⟨hfit, hmem, henc, hslot⟩ | ⟨hz, hh, rfl⟩)
    · have hmod := Nat.mod_eq_of_lt hfit
      obtain ⟨o, halloc⟩ := allocate_defined b mem hook encryptedDataSize physicalDataSize needSecMemAlloc
        hmod hmem (by omega) (fields_fit hw hfit) hslot
      obtain ⟨-, ⟨hnone, -⟩ | ⟨o', ho, -, hroom⟩⟩ := allocate_inv halloc
      · cases hnone
      · obtain rfl := Option.some.inj ho
        obtain ⟨hv2, hv1⟩ := get_dataSize (b := b) extract hroom.dataSize
        refine ⟨_, _, halloc, Or.inr ⟨o, gstSvpHeaderSize b, _, rfl, hroom.length, ?_, Nat.le_refl _, ?_, ?_,
          hv2, hv1⟩⟩
        · rw [gstSvpHeaderGetStartOfData, Option.map_some, Nat.zero_add]
        · rw [hroom.length]
          omega
        · exact UInt32.toNat_ofNat_of_lt henc
    · refine ⟨0, none, ?_, Or.inl ⟨rfl, rfl⟩⟩
      rw [allocate_eq, hz]
      simp [gMalloc0, gstSvpWriteHeader, hh, gstSvpHeaderSetField]

/-- A 64-bit build with an 8-byte token, and a size that wraps to a block of no bytes. -/
theorem block_sizing_exact_small :
    SizingExact (A := Unit) ⟨64, 8, false⟩ (fun bs => some bs) (.ample fun _ => 0) ⟨none, [], none⟩ 1000 16 true :=
  (block_sizing_exact _ _ _ _ _ _ _ (Or.inr rfl)).2
    (Or.inl ⟨by decide, Memory.ample_supplies _ _ _, by decide, fun _ => by decide⟩)

theorem block_sizing_wraps :
    ¬ ∀ (b : Build) (beyond : Nat → UInt8) (hook : AllocSecMem Unit) (encryptedDataSize physicalDataSize : Nat)
        (needSecMemAlloc : Bool), (b.gsizeBits = 32 ∨ b.gsizeBits = 64) →
      encryptedDataSize < 2 ^ b.gsizeBits → physicalDataSize < 2 ^ b.gsizeBits →
        SizingExact b (fun bs => some bs) (.ample beyond) hook encryptedDataSize physicalDataSize needSecMemAlloc := by
  intro h
  obtain ⟨total, data, halloc, -⟩ := h ⟨64, 8, false⟩ (fun _ => 0) ⟨none, [], none⟩ 0 (2 ^ 64 - 48) false
    (Or.inr rfl) (by decide) (by decide)
  revert halloc
  simp [allocate_eq, gstSvpHeaderSize, sizeofSvpHeader, gMalloc0, gstSvpWriteHeader]

/-! ## What a header is copied from -/

/-- The copy goes through with nothing mapped behind the default object, so it reads no byte there; it stays
inside the header, and leaves there the GUID and zeros. -/
structure WriteHeaderClean (b : Build) (beyond : Nat → Option UInt8) (o : List UInt8) : Prop where
  source : (gstSvpWriteHeader b (fun _ => none) (some o)).isSome
  dest : ∃ o', gstSvpWriteHeader b beyond (some o) = some (some o') ∧ AgreeOutside 0 (gstSvpHeaderSize b) o o' ∧
    ∃ zeros, o'.take (gstSvpHeaderSize b) = headerGuid ++ List.replicate zeros 0

/-- `Type`, `Version`, the token slot and the data area are zero. -/
structure BlockClean (b : Build) (o : List UInt8) : Prop where
  type : read o typeOffset 4 = some (List.replicate 4 0)
  version : read o versionOffset 4 = some (List.replicate 4 0)
  slot : read o handleOffset b.tokenSize.toNat = some (List.replicate b.tokenSize.toNat 0)
  data : o.drop (gstSvpHeaderSize b) = List.replicate (o.length - gstSvpHeaderSize b) 0

/-- Every block that is allocated without secure memory is clean. -/
def BlocksClean (A : Type) (b : Build) (mem : Memory) : Prop :=
  ∀ (hook : AllocSecMem A) (encryptedDataSize physicalDataSize total : Nat) (o : List UInt8),
    gstSvpAllocateDataBlock b mem hook true encryptedDataSize physicalDataSize false = some (total, some o) →
      BlockClean b o

/-- A block that is allocated without secure memory: the default object, `DataSize`, the bytes behind the
default object, and the zeros of `g_malloc0`. -/
theorem allocate_layout (hsize : sizeofSvpHeader + b.tokenSize.toNat < 2 ^ b.gsizeBits) {mem : Memory}
    {hook : AllocSecMem A} {encryptedDataSize physicalDataSize total : Nat}
    (h : gstSvpAllocateDataBlock b mem hook true encryptedDataSize physicalDataSize false = some (total, some o)) :
    gstSvpHeaderSize b ≤ total ∧ ∃ rest, readUpTo mem.beyond b.tokenSize.toNat = some rest ∧
      o = headerGuid ++ List.replicate 8 0 ++ u32Bytes (UInt32.ofNat encryptedDataSize) ++
        (List.replicate 4 0 ++ rest) ++ List.replicate (total - gstSvpHeaderSize b) 0 := by
  have hh := gstSvpHeaderSize_eq hsize
  obtain ⟨-, ⟨hnone, -⟩ | ⟨o', ho, -, hroom⟩⟩ := allocate_inv h
  · cases hnone
  obtain rfl := Option.some.inj ho
  refine ⟨hroom.header, ?_⟩
  rw [allocate_eq] at h
  obtain ⟨data1, h1, h⟩ := Option.bind_eq_some_iff.1 h
  obtain ⟨⟨ok, data2⟩, h2, h⟩ := Option.bind_eq_some_iff.1 h
  simp only [Bool.false_eq_true, if_false, Option.bind_some, Option.some.injEq, Prod.mk.injEq] at h
  obtain ⟨htotal, rfl⟩ := h
  rw [htotal] at h1
  rcases newHeader_cases h1 with ⟨-, hz, -⟩ | ⟨-, bs, o1, hbs, hw1, rfl⟩
  · rw [hh] at hz
    exact absurd hz (by unfold sizeofSvpHeader; omega)
  obtain ⟨-, o2, hw2, ho2⟩ := storeField_eq_some.1 h2
  obtain rfl := Option.some.inj ho2
  have hlen := defaultHeaderBytes_length hbs
  obtain ⟨rest, hrest, rfl⟩ := defaultHeaderBytes_eq (by omega) hbs
  refine ⟨rest, by rw [← hrest, hh, Nat.add_sub_cancel_left], ?_⟩
  have ho1 := (write_eq_some.1 hw1).2
  rw [hlen, List.take_zero, List.nil_append, Nat.zero_add, List.drop_replicate] at ho1
  rw [← (write_eq_some.1 hw2).2, ← ho1, u32Bytes_length]
  simp only [List.append_assoc]
  rfl

/-- Without token bytes the copy of the header reads and writes exactly the default header. -/
theorem writeHeader_tokenless {b : Build} (beyond : Nat → Option UInt8) {o : List UInt8}
    (hh : gstSvpHeaderSize b = sizeofSvpHeader) (hroom : gstSvpHeaderSize b ≤ o.length) :
    WriteHeaderClean b beyond o := by
  have hbytes : ∀ beyond : Nat → Option UInt8,
      defaultHeaderBytes beyond (gstSvpHeaderSize b) = some defaultHeader := by
    intro beyond
    rw [hh]
    rfl
  rw [hh] at hroom
  obtain ⟨o', hw⟩ := exists_write o 0 defaultHeader (by rw [defaultHeader_length, Nat.zero_add]; exact hroom)
  have hwrite : ∀ beyond : Nat → Option UInt8, gstSvpWriteHeader b beyond (some o) = some (some o') :=
    fun beyond => writeHeader_eq_some.2 ⟨_, o', hbytes beyond, hw, rfl⟩
  refine ⟨by rw [hwrite]; rfl, o', hwrite beyond, write_agree hw (Nat.le_refl 0) (Nat.le_of_eq hh.symm), 16, ?_⟩
  have hread := read_write hw (Nat.le_refl _)
  rw [List.take_length] at hread
  have htake := (read_eq_some.1 hread).2
  rw [List.drop_zero, defaultHeader_length] at htake
  rw [hh, htake]
  rfl

/-- Without token bytes nothing of a new block is left to chance. -/
theorem blocks_tokenless {b : Build} (mem : Memory)
    (hsize : sizeofSvpHeader + b.tokenSize.toNat < 2 ^ b.gsizeBits) (ht : b.tokenSize.toNat = 0)
    (hh : gstSvpHeaderSize b = sizeofSvpHeader) : BlocksClean A b mem := by
  intro hook encryptedDataSize physicalDataSize total o halloc
  obtain ⟨-, rest, hrest, rfl⟩ := allocate_layout hsize halloc
  rw [ht] at hrest
  obtain rfl : [] = rest := Option.some.inj hrest
  rw [List.append_nil]
  constructor
  case type => exact read_eq_some.2 ⟨by simp [typeOffset, headerGuid], rfl⟩
  case version => exact read_eq_some.2 ⟨by simp [versionOffset, headerGuid], rfl⟩
  case slot => exact read_eq_some.2 ⟨by simp [handleOffset, headerGuid, ht], by rw [ht]; rfl⟩
  case data =>
    rw [hh]
    have hlen : (headerGuid ++ List.replicate 8 0 ++ u32Bytes (UInt32.ofNat encryptedDataSize) ++
        List.replicate 4 0 ++ List.replicate (total - sizeofSvpHeader) 0).length - sizeofSvpHeader =
          total - sizeofSvpHeader := by
      simp only [List.length_append, List.length_replicate, u32Bytes_length, sizeofSvpHeader]
      simp only [headerGuid, List.length_cons, List.length_nil]
      omega
    rw [hlen]
    rfl

/-- A copy that takes a byte from behind the default object does not go through where none is mapped. -/
theorem writeHeader_overreads (h : sizeofSvpHeader < gstSvpHeaderSize b) (o : List UInt8) :
    gstSvpWriteHeader b (fun _ => none) (some o) = none := by
  rw [Option.eq_none_iff_forall_ne_some]
  intro data hdata
  obtain ⟨bs, -, hbs, -⟩ := writeHeader_eq_some.1 hdata
  have hmapped := defaultHeaderBytes_isSome.1 (by rw [hbs]; rfl) 0 (Nat.sub_pos_of_lt h)
  cases hmapped

/-- **A header is written cleanly** exactly where the platform's token has no bytes. -/
theorem header_write_clean (b : Build) (hsize : sizeofSvpHeader + b.tokenSize.toNat < 2 ^ b.gsizeBits)
    (mem : Memory) (o : List UInt8) (hroom : gstSvpHeaderSize b ≤ o.length) :
    (WriteHeaderClean b mem.beyond o ∧ BlocksClean A b mem) ↔ b.tokenSize = 0 := by
  have hh := gstSvpHeaderSize_eq hsize
  constructor
  · rintro ⟨⟨hsource, -⟩, -⟩
    apply UInt32.toNat_inj.1
    show b.tokenSize.toNat = 0
    by_contra ht
    rw [writeHeader_overreads (by omega)] at hsource
    cases hsource
  · intro ht
    have ht0 : b.tokenSize.toNat = 0 := congrArg UInt32.toNat ht
    rw [ht0, Nat.add_zero] at hh
    exact ⟨writeHeader_tokenless mem.beyond hh hroom, blocks_tokenless mem hsize ht0 hh⟩

/-- A build without token bytes. -/
theorem header_write_clean_tokenless :
    WriteHeaderClean ⟨64, 0, false⟩ (Memory.ample fun _ => 0xff).beyond (List.replicate 40 7) ∧
      BlocksClean Unit ⟨64, 0, false⟩ (.ample fun _ => 0xff) :=
  (header_write_clean ⟨64, 0, false⟩ (by decide) _ _ (by decide)).2 rfl

/-- With an 8-byte token the copy takes 40 bytes from an object of 32, and what lies behind it comes to stand
in the token slot of the header. -/
theorem header_write_overreads :
    (¬ ∀ (b : Build) (beyond : Nat → UInt8) (o : List UInt8),
      sizeofSvpHeader + b.tokenSize.toNat < 2 ^ b.gsizeBits → gstSvpHeaderSize b ≤ o.length →
        WriteHeaderClean b (Memory.ample beyond).beyond o ∧ BlocksClean Unit b (.ample beyond)) ∧
      gstSvpWriteHeader ⟨64, 8, false⟩ (fun _ => none) (some (List.replicate 40 0)) = none ∧
        gstSvpWriteHeader ⟨64, 8, false⟩ (fun _ => some 0xff) (some (List.replicate 40 0)) =
          some (some (defaultHeader ++ List.replicate 8 0xff)) := by
  have hnone : gstSvpWriteHeader ⟨64, 8, false⟩ (fun _ => none) (some (List.replicate 40 0)) = none :=
    writeHeader_overreads (by decide) _
  refine ⟨?_, hnone, by decide⟩
  intro h
  have hsource := (h ⟨64, 8, false⟩ (fun _ => 0xff) (List.replicate 40 0) (by decide) (by decide)).1.source
  rw [hnone] at hsource
  cases hsource

end GstSvpExt
