import GstSvpExt.Header

/-!
# Data blocks (`gst_svp_header.cpp:202-281`)

| here | there |
| --- | --- |
| `Memory`, `gMalloc0`      | the heap and what lies behind `defaultHeader`, parameters of a call; `g_malloc0` |
| `AllocSecMem`, `allocSecMemInto` | what the hook behind `gst_svp_allocate_sec_mem` does; the block that calls it (`:213-233`) |
| `gstSvpAllocateDataBlock` | `gst_svp_allocate_data_block` (`:202-242`) |
| `gstSvpFreeDataBlock`     | `gst_svp_free_data_block` (`:244-281`) |

A block is the bytes of its heap object. An allocation comes back only where memory supplies what it
takes (`Memory.Supplies`): `g_malloc0` ends the process when there is no room, and the copy of the
header reads on behind `defaultHeader`. Whether freeing a block releases secure memory is decided by
bytes of the block alone: its GUID, its type and its token slot. `WellFormedBlock` says what they
are, `allocate_spec` that allocation establishes it and `WellFormedBlock.write_away` that the other
users of the block keep it.
-/

namespace GstSvpExt

open Bytes

variable {A : Type}

/-- What one call finds of memory: the sizes that the heap has room for, and the bytes behind
`defaultHeader`, `none` where nothing is mapped. -/
structure Memory where
  granted : Nat → Bool
  beyond : Nat → Option UInt8

/-- Room for every block, and something mapped behind `defaultHeader` however far. -/
def Memory.ample (beyond : Nat → UInt8) : Memory := ⟨fun _ => true, fun i => some (beyond i)⟩

/-- What a block of `total` bytes takes: room in the heap, and bytes behind `defaultHeader` as far as
the copy of the header goes. -/
structure Memory.Supplies (mem : Memory) (b : Build) (total : Nat) : Prop where
  granted : mem.granted total = true
  beyond : ∀ i < gstSvpHeaderSize b - sizeofSvpHeader, (mem.beyond i).isSome

theorem Memory.ample_supplies (beyond : Nat → UInt8) (b : Build) (total : Nat) :
    (Memory.ample beyond).Supplies b total :=
  ⟨rfl, fun _ _ => rfl⟩

/-- `g_malloc0`: `NULL` for a size of 0, else zeroed bytes; without room it ends the process (`none`). -/
def gMalloc0 (mem : Memory) (n : Nat) : Option (Option (List UInt8)) :=
  if n = 0 then some none
  else if mem.granted n then some (some (List.replicate n 0))
  else none

/-- What the registered allocate hook does on one call: the secure allocation it obtains, if it
succeeds; the bytes it stores through the handle; what it stores in the size, if it does. -/
structure AllocSecMem (A : Type) where
  result : Option A
  slot : List UInt8
  size : Option Nat

/-- `:213-233`: the hook is given the address of `handle`; its answer is noted in the type. -/
def allocSecMemInto (hook : AllocSecMem A) (data : Option (List UInt8)) (encryptedDataSize : Nat) :
    Option (Option (List UInt8)) := do
  let o ← data
  let o ← write o handleOffset hook.slot
  match hook.result with
  | none => some (some o)
  | some _ =>
    let allocatedDataSize := hook.size.getD encryptedDataSize
    let type := if allocatedDataSize = 0 then TokenType.fake else TokenType.preAllocatedHandle
    let (_, data) ← gstSvpHeaderSetField (some o) .type type.val
    some data

/-- `gst_svp_allocate_data_block` (`:202-242`): the size returned and, where `ppData` is not `NULL`,
the block stored there. -/
def gstSvpAllocateDataBlock (b : Build) (mem : Memory) (hook : AllocSecMem A) (ppData : Bool)
    (encryptedDataSize physicalDataSize : Nat) (needSecMemAlloc : Bool) :
    Option (Nat × Option (List UInt8)) :=
  let totalBlockSize := (physicalDataSize + b.tokenSize.toNat + gstSvpHeaderSize b) % 2 ^ b.gsizeBits
  if ppData then do
    let data ← gMalloc0 mem totalBlockSize
    let data ← gstSvpWriteHeader b mem.beyond data
    let (_, data) ← gstSvpHeaderSetField data .dataSize (UInt32.ofNat encryptedDataSize)
    let data ← if needSecMemAlloc then allocSecMemInto hook data encryptedDataSize else some data
    some (totalBlockSize, data)
  else some (0, none)

/-- `gst_svp_free_data_block` (`:244-281`): the handles given to `gst_svp_release_sec_mem`. -/
def gstSvpFreeDataBlock {H : Type} (b : Build) (extract : List UInt8 → Option H)
    (pData : Option (List UInt8)) : Option (List H) :=
  match pData with
  | none => some []
  | some data => do
    let present ← gstSvpHasHeader data 0
    if present then
      let (_, value) ← gstSvpHeaderGetFieldV2 b extract (some data) .type
      -- `uint32_t type = TokenType::InPlace` stays where the getter fails
      let type := match value with
        | some (.u32 v) => v
        | _ => TokenType.inPlace.val
      if type = TokenType.preAllocatedHandle.val ∨ type = TokenType.fake.val then
        let (_, value) ← gstSvpHeaderGetFieldV2 b extract (some data) .outputBuffer
        match value with
        | some (.handle (some handle)) => some [handle]
        | _ => some []
      else some []
    else some []

/-! ## What a block holds -/

/-- The bytes of a block that decide what its free releases: the GUID, the type, and the token at
the front of the token slot. -/
structure WellFormedBlock (b : Build) (o : List UInt8) (type : TokenType) (token : List UInt8) : Prop where
  room : sizeofSvpHeader + b.tokenSize.toNat ≤ o.length
  guid : read o guidOffset guidSize = some headerGuid
  type : read o typeOffset 4 = some (u32Bytes type.val)
  slot : ∃ rest, read o handleOffset b.tokenSize.toNat = some (token ++ rest)

/-- The type that the hook's answer stands for. -/
def hookType (hook : AllocSecMem A) (encryptedDataSize : Nat) (needSecMemAlloc : Bool) : TokenType :=
  if needSecMemAlloc ∧ hook.result.isSome then
    if hook.size.getD encryptedDataSize = 0 then .fake else .preAllocatedHandle
  else .inPlace

/-- The two types for an allocation stand for a hook that was asked and succeeded. -/
theorem hookType_secured (hook : AllocSecMem A) (encryptedDataSize : Nat) (needSecMemAlloc : Bool) :
    (if needSecMemAlloc then hook.result else none).isSome ↔
      hookType hook encryptedDataSize needSecMemAlloc = .preAllocatedHandle ∨
        hookType hook encryptedDataSize needSecMemAlloc = .fake := by
  cases needSecMemAlloc with
  | false => simp [hookType]
  | true =>
    cases hr : hook.result with
    | none => simp [hookType, hr]
    | some a => by_cases hz : hook.size.getD encryptedDataSize = 0 <;> simp [hookType, hr, hz]

variable {b : Build} {o o' bs token : List UInt8} {type : TokenType} {off : Nat}

/-- A write to `Version`, `DataSize` or past the token slot. -/
theorem WellFormedBlock.write_away (h : WellFormedBlock b o type token)
    (haway : (versionOffset ≤ off ∧ off + bs.length ≤ handleOffset) ∨ handleOffset + b.tokenSize.toNat ≤ off)
    (hw : write o off bs = some o') : WellFormedBlock b o' type token := by
  simp only [versionOffset, handleOffset] at haway
  obtain ⟨rest, hrest⟩ := h.slot
  refine ⟨by rw [write_length hw]; exact h.room, ?_, ?_, rest, ?_⟩
  · rw [read_write_away hw (by simp only [guidOffset, guidSize]; omega)]; exact h.guid
  · rw [read_write_away hw (by simp only [typeOffset]; omega)]; exact h.type
  · rw [read_write_away hw (by simp only [handleOffset]; omega)]; exact hrest

/-- A write to `Type`. -/
theorem WellFormedBlock.write_type (h : WellFormedBlock b o type token) (type' : TokenType)
    (hw : write o typeOffset (u32Bytes type'.val) = some o') : WellFormedBlock b o' type' token := by
  have hlen := u32Bytes_length type'.val
  obtain ⟨rest, hrest⟩ := h.slot
  refine ⟨by rw [write_length hw]; exact h.room, ?_, ?_, rest, ?_⟩
  · rw [read_write_away hw (by simp only [guidOffset, guidSize, typeOffset]; omega)]; exact h.guid
  · rw [read_write hw (by omega), List.take_of_length_le (by omega)]
  · rw [read_write_away hw (by simp only [handleOffset, typeOffset]; omega)]; exact hrest

/-- What the hook stores through the handle is the front of the token slot. -/
theorem WellFormedBlock.write_slot (h : WellFormedBlock b o type token) (hbs : bs.length ≤ b.tokenSize.toNat)
    (hw : write o handleOffset bs = some o') : WellFormedBlock b o' type bs := by
  obtain ⟨rest, hrest⟩ := h.slot
  refine ⟨by rw [write_length hw]; exact h.room, ?_, ?_, _, read_write_over hw hbs hrest⟩
  · rw [read_write_away hw (by simp only [guidOffset, guidSize, handleOffset]; omega)]; exact h.guid
  · rw [read_write_away hw (by simp only [typeOffset, handleOffset]; omega)]; exact h.type

theorem gstSvpHeaderSize_eq (hsize : sizeofSvpHeader + b.tokenSize.toNat < 2 ^ b.gsizeBits) :
    gstSvpHeaderSize b = sizeofSvpHeader + b.tokenSize.toNat :=
  Nat.mod_eq_of_lt hsize

/-! ## What the copy of the header takes -/

section
variable {beyond : Nat → Option UInt8} {n : Nat}

theorem defaultHeaderBytes_length (h : defaultHeaderBytes beyond n = some bs) : bs.length = n := by
  obtain ⟨rest, hrest, rfl⟩ := Option.map_eq_some_iff.1 h
  rw [List.length_append, List.length_take, defaultHeader_length, readUpTo_length hrest]
  omega

/-- The copied bytes: the object, then what lies behind it. -/
theorem defaultHeaderBytes_eq (hn : sizeofSvpHeader ≤ n) (h : defaultHeaderBytes beyond n = some bs) :
    ∃ rest, readUpTo beyond (n - sizeofSvpHeader) = some rest ∧ bs = defaultHeader ++ rest := by
  obtain ⟨rest, hrest, rfl⟩ := Option.map_eq_some_iff.1 h
  refine ⟨rest, hrest, ?_⟩
  rw [List.take_of_length_le (by rw [defaultHeader_length]; exact hn)]

/-- The copy goes through exactly if all it takes from behind the object is mapped. -/
theorem defaultHeaderBytes_isSome :
    (defaultHeaderBytes beyond n).isSome ↔ ∀ i < n - sizeofSvpHeader, (beyond i).isSome := by
  rw [defaultHeaderBytes, Option.isSome_map, readUpTo_isSome]

/-- Writing a header: the copied bytes come to stand at the front of the object. -/
theorem writeHeader_eq_some {data : Option (List UInt8)} :
    gstSvpWriteHeader b beyond (some o) = some data ↔
      ∃ bs o', defaultHeaderBytes beyond (gstSvpHeaderSize b) = some bs ∧ write o 0 bs = some o' ∧
        data = some o' := by
  simp only [gstSvpWriteHeader, Option.bind_eq_some_iff, Option.map_eq_some_iff]
  constructor
  · rintro ⟨bs, hbs, o', hw, rfl⟩
    exact ⟨bs, o', hbs, hw, rfl⟩
  · rintro ⟨bs, o', hbs, hw, rfl⟩
    exact ⟨bs, hbs, o', hw, rfl⟩

end

section
variable {mem : Memory} {total : Nat}

theorem gMalloc0_granted (hpos : total ≠ 0) (h : mem.granted total = true) :
    gMalloc0 mem total = some (some (List.replicate total 0)) := by
  rw [gMalloc0, if_neg hpos, if_pos h]

/-- A new block comes back as `NULL` exactly where nothing is to be written. A block with bytes comes back
only if memory supplies it, and then holds the copied ones. -/
theorem newHeader_cases {data : Option (List UInt8)}
    (h : (gMalloc0 mem total).bind (gstSvpWriteHeader b mem.beyond) = some data) :
    (total = 0 ∧ gstSvpHeaderSize b = 0 ∧ data = none) ∨
      (mem.Supplies b total ∧ ∃ bs o', defaultHeaderBytes mem.beyond (gstSvpHeaderSize b) = some bs ∧
        write (List.replicate total 0) 0 bs = some o' ∧ data = some o') := by
  obtain ⟨data', hm, hw⟩ := Option.bind_eq_some_iff.1 h
  by_cases hz : total = 0
  · rw [gMalloc0, if_pos hz] at hm
    obtain rfl := Option.some.inj hm
    obtain ⟨hh, hd⟩ := Option.ite_none_right_eq_some.1 hw
    exact Or.inl ⟨hz, hh, (Option.some.inj hd).symm⟩
  · rw [gMalloc0, if_neg hz] at hm
    obtain ⟨hg, hm⟩ := Option.ite_none_right_eq_some.1 hm
    obtain rfl := Option.some.inj hm
    obtain ⟨bs, o', hbs, ho, hd⟩ := writeHeader_eq_some.1 hw
    exact Or.inr ⟨⟨hg, defaultHeaderBytes_isSome.1 (by rw [hbs]; rfl)⟩, bs, o', hbs, ho, hd⟩

end

/-- A new block with its header written. -/
theorem writeHeader_spec (hsize : sizeofSvpHeader + b.tokenSize.toNat < 2 ^ b.gsizeBits)
    {mem : Memory} {total : Nat} (htotal : gstSvpHeaderSize b ≤ total) (hmem : mem.Supplies b total) :
    ∃ o, (gMalloc0 mem total).bind (gstSvpWriteHeader b mem.beyond) = some (some o) ∧ o.length = total ∧
      WellFormedBlock b o .inPlace [] := by
  have hn : sizeofSvpHeader ≤ gstSvpHeaderSize b := by rw [gstSvpHeaderSize_eq hsize]; omega
  have hpos : total ≠ 0 := by simp only [sizeofSvpHeader] at hn; omega
  obtain ⟨bs, hbs⟩ := Option.isSome_iff_exists.1 (defaultHeaderBytes_isSome.2 hmem.beyond)
  have hlen := defaultHeaderBytes_length hbs
  obtain ⟨o, hw⟩ := exists_write (List.replicate total 0) 0 bs (by rw [hlen, List.length_replicate]; omega)
  have hol : o.length = total := by rw [write_length hw, List.length_replicate]
  obtain ⟨rest, -, hrest⟩ := defaultHeaderBytes_eq hn hbs
  obtain ⟨tail, ho⟩ : ∃ tail, o = headerGuid ++ (List.replicate 16 0 ++ tail) := by
    have h := (write_eq_some.1 hw).2
    rw [hrest, defaultHeader, List.take_zero, List.nil_append, List.append_assoc, List.append_assoc,
      List.append_assoc] at h
    exact ⟨_, h.symm⟩
  have hroom : sizeofSvpHeader + b.tokenSize.toNat ≤ o.length := by
    rw [hol, ← gstSvpHeaderSize_eq hsize]; exact htotal
  have hnew : (gMalloc0 mem total).bind (gstSvpWriteHeader b mem.beyond) = some (some o) := by
    rw [gMalloc0_granted hpos hmem.granted]
    exact writeHeader_eq_some.2 ⟨bs, o, hbs, hw, rfl⟩
  refine ⟨o, hnew, hol, hroom, ?_, ?_, ?_⟩
  · refine read_eq_some.2 ⟨by simp only [sizeofSvpHeader, guidOffset, guidSize] at hroom ⊢; omega, ?_⟩
    rw [ho]; rfl
  · refine read_eq_some.2 ⟨by simp only [sizeofSvpHeader, typeOffset] at hroom ⊢; omega, ?_⟩
    rw [ho]; rfl
  · exact exists_read (by simp only [sizeofSvpHeader, handleOffset] at hroom ⊢; omega)

/-- A new block that comes back has room for its header, and memory supplied it. -/
theorem newHeader_room (hsize : sizeofSvpHeader + b.tokenSize.toNat < 2 ^ b.gsizeBits) {mem : Memory}
    {total : Nat} {data : Option (List UInt8)}
    (h : (gMalloc0 mem total).bind (gstSvpWriteHeader b mem.beyond) = some data) :
    gstSvpHeaderSize b ≤ total ∧ mem.Supplies b total := by
  rcases newHeader_cases h with ⟨-, hz, -⟩ | ⟨hmem, bs, o, hbs, hw, -⟩
  · rw [gstSvpHeaderSize_eq hsize] at hz
    exact absurd hz (by unfold sizeofSvpHeader; omega)
  · have hroom := (write_eq_some.1 hw).1
    rw [List.length_replicate, defaultHeaderBytes_length hbs, Nat.zero_add] at hroom
    exact ⟨hroom, hmem⟩

/-- The hook's call on a well-formed block. -/
theorem allocSecMemInto_spec (h : WellFormedBlock b o .inPlace []) {hook : AllocSecMem A}
    (hslot : hook.slot.length ≤ b.tokenSize.toNat) (n : Nat) :
    ∃ o', allocSecMemInto hook (some o) n = some (some o') ∧ o'.length = o.length ∧
      WellFormedBlock b o' (hookType hook n true) hook.slot := by
  have hroom := h.room
  obtain ⟨o1, hw1⟩ := exists_write o handleOffset hook.slot
    (by simp only [sizeofSvpHeader, handleOffset] at hroom ⊢; omega)
  have h1 := h.write_slot hslot hw1
  cases hr : hook.result with
  | none =>
    refine ⟨o1, by simp [allocSecMemInto, hw1, hr], write_length hw1, ?_⟩
    simpa [hookType, hr] using h1
  | some a =>
    obtain ⟨o2, hw2⟩ := exists_write o1 typeOffset (u32Bytes (hookType hook n true).val)
      (by rw [u32Bytes_length, write_length hw1]; simp only [sizeofSvpHeader, typeOffset] at hroom ⊢; omega)
    refine ⟨o2, ?_, (write_length hw2).trans (write_length hw1), h1.write_type _ hw2⟩
    simp only [hookType, hr, Option.isSome_some, and_self, if_true] at hw2
    simp [allocSecMemInto, hw1, hr, gstSvpHeaderSetField, storeField, hw2]

/-- The allocation as one chain: the new block with its header, the size, the hook. -/
theorem allocate_eq (mem : Memory) (hook : AllocSecMem A) (encryptedDataSize physicalDataSize : Nat)
    (needSecMemAlloc : Bool) :
    gstSvpAllocateDataBlock b mem hook true encryptedDataSize physicalDataSize needSecMemAlloc =
      let total := (physicalDataSize + b.tokenSize.toNat + gstSvpHeaderSize b) % 2 ^ b.gsizeBits
      ((gMalloc0 mem total).bind (gstSvpWriteHeader b mem.beyond)).bind fun data =>
        (gstSvpHeaderSetField data .dataSize (UInt32.ofNat encryptedDataSize)).bind fun r =>
          (if needSecMemAlloc then allocSecMemInto hook r.2 encryptedDataSize else some r.2).bind fun data =>
            some (total, data) := by
  cases needSecMemAlloc <;> simp [gstSvpAllocateDataBlock, Option.bind_assoc]

/-- **Allocating a block.** It is defined exactly when the block, in `gsize` arithmetic, has room for
the header and memory supplies it; the block then holds the hook's token and the type for the hook's
answer. -/
theorem allocate_spec (hsize : sizeofSvpHeader + b.tokenSize.toNat < 2 ^ b.gsizeBits)
    (mem : Memory) {hook : AllocSecMem A} (encryptedDataSize physicalDataSize : Nat)
    (needSecMemAlloc : Bool) (hslot : hook.slot.length ≤ b.tokenSize.toNat) {total : Nat}
    (htotal : (physicalDataSize + b.tokenSize.toNat + gstSvpHeaderSize b) % 2 ^ b.gsizeBits = total) :
    (gstSvpHeaderSize b ≤ total → mem.Supplies b total → ∃ o,
      gstSvpAllocateDataBlock b mem hook true encryptedDataSize physicalDataSize needSecMemAlloc =
          some (total, some o) ∧ o.length = total ∧
        WellFormedBlock b o (hookType hook encryptedDataSize needSecMemAlloc)
          (if needSecMemAlloc then hook.slot else [])) ∧
    ((gstSvpAllocateDataBlock b mem hook true encryptedDataSize physicalDataSize needSecMemAlloc).isSome →
      gstSvpHeaderSize b ≤ total ∧ mem.Supplies b total) := by
  rw [allocate_eq, htotal]
  constructor
  · intro hle hmem
    obtain ⟨o1, h1, hl1, hw1⟩ := writeHeader_spec hsize hle hmem
    obtain ⟨o2, h2⟩ := exists_write o1 dataSizeOffset
      (u32Bytes (UInt32.ofNat encryptedDataSize)) (by
        have hroom := hw1.room
        rw [u32Bytes_length]; simp only [sizeofSvpHeader, dataSizeOffset] at hroom ⊢; omega)
    have hw2 := hw1.write_away (by rw [u32Bytes_length]; exact Or.inl (by decide)) h2
    have hl2 : o2.length = total := (write_length h2).trans hl1
    cases needSecMemAlloc with
    | false =>
      refine ⟨o2, ?_, hl2, by simpa [hookType] using hw2⟩
      simp [h1, gstSvpHeaderSetField, storeField, h2]
    | true =>
      obtain ⟨o3, h3, hl3, hw3⟩ := allocSecMemInto_spec hw2 hslot encryptedDataSize
      refine ⟨o3, ?_, hl3.trans hl2, by simpa using hw3⟩
      simp [h1, gstSvpHeaderSetField, storeField, h2, h3]
  · intro hsome
    obtain ⟨r, hr⟩ := Option.isSome_iff_exists.1 hsome
    obtain ⟨data, hnew, -⟩ := Option.bind_eq_some_iff.1 hr
    exact newHeader_room hsize hnew

@[simp] theorem allocate_null (mem : Memory) (hook : AllocSecMem A)
    (encryptedDataSize physicalDataSize : Nat) (needSecMemAlloc : Bool) :
    gstSvpAllocateDataBlock b mem hook false encryptedDataSize physicalDataSize needSecMemAlloc =
      some (0, none) := rfl

@[simp] theorem free_null {H : Type} (extract : List UInt8 → Option H) :
    gstSvpFreeDataBlock b extract none = some [] := rfl

/-- The type as the getter returns it. -/
theorem WellFormedBlock.get_type {H : Type} (h : WellFormedBlock b o type token)
    (extract : List UInt8 → Option H) :
    gstSvpHeaderGetFieldV2 b extract (some o) .type = some (true, some (.u32 type.val)) := by
  simp [gstSvpHeaderGetFieldV2, loadU32, h.type]

/-- Freeing a block with its GUID: the type decides, whatever else it was set to. -/
theorem free_eq {H : Type} (extract : List UInt8 → Option H) {typeBytes slot : List UInt8}
    (hguid : read o guidOffset guidSize = some headerGuid) (htype : read o typeOffset 4 = some typeBytes)
    (hslot : read o handleOffset b.tokenSize.toNat = some slot) :
    gstSvpFreeDataBlock b extract (some o) =
      some (if u32Of typeBytes = TokenType.preAllocatedHandle.val ∨ u32Of typeBytes = TokenType.fake.val then
        (extract slot).toList else []) := by
  have hhas : gstSvpHasHeader o 0 = some true := by
    have hg : read o 0 guidSize = some headerGuid := hguid
    simp [gstSvpHasHeader, hg]
  have hty : gstSvpHeaderGetFieldV2 b extract (some o) .type = some (true, some (.u32 (u32Of typeBytes))) := by
    simp [gstSvpHeaderGetFieldV2, loadU32, htype]
  have hout : gstSvpHeaderGetFieldV2 b extract (some o) .outputBuffer =
      some (true, some (.handle (extract slot))) := by
    simp [gstSvpHeaderGetFieldV2, hslot]
  simp only [gstSvpFreeDataBlock, hhas, hty, hout, Option.bind_eq_bind, Option.bind_some, if_true]
  split
  · cases extract slot <;> rfl
  · rfl

/-- **Freeing a block** releases the handle extracted from its token slot if the type is one of the
two that stand for an allocation, and nothing otherwise. -/
theorem free_spec {H : Type} (h : WellFormedBlock b o type token) (extract : List UInt8 → Option H) :
    ∃ slot, read o handleOffset b.tokenSize.toNat = some slot ∧ token <+: slot ∧
      gstSvpFreeDataBlock b extract (some o) =
        some (if type = .preAllocatedHandle ∨ type = .fake then (extract slot).toList else []) := by
  obtain ⟨rest, hrest⟩ := h.slot
  refine ⟨_, hrest, ⟨rest, rfl⟩, ?_⟩
  have hval : (type.val = TokenType.preAllocatedHandle.val ∨ type.val = TokenType.fake.val) ↔
      (type = .preAllocatedHandle ∨ type = .fake) := by
    cases type <;> decide
  rw [free_eq extract h.guid h.type hrest, u32Of_u32Bytes]
  simp only [hval]

end GstSvpExt
