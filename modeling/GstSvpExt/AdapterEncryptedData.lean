import GstSvpExt.DataBlockRun
import GstSvpExt.Layout

/-!
# Data for the SecAPI adapter (`gst_svp_adapter_encrypted_data.h`)

| here | there |
| --- | --- |
| `AdapterField`, `adapterLayout` | `AdapterEncryptedData_t` (`:40-47`), for pointers of four or of eight bytes |
| `adapterEncryptedDataHeader` | `ADAPTER_ENCRYPTED_DATA_HEADER` (`:52`) |
| `gstSvpInitAdapterEncryptedData` | `gst_svp_init_adapter_encrypted_data` (`:54-68`) |
| `gstSvpIsAdapterEncryptedData` | `gst_svp_is_adapter_encrypted_data` (`:70-78`), which answers 0 for yes |

The adapter is handed either this struct or a block with an SVP header, behind one `void*`, and tells them
by the GUID they both start with.
-/

namespace GstSvpExt

open Bytes Registers

/-- Bytes of a pointer. -/
inductive PointerSize
  | four
  | eight
deriving DecidableEq, Repr

def PointerSize.bytes : PointerSize → Nat
  | four => 4
  | eight => 8

inductive AdapterField
  | guid
  | encryptedData
  | encryptedDataSize
  | preallocatedHandle
  | subsampleMap
  | subsampleMapCount
deriving DecidableEq, Repr

def AdapterField.width (w : PointerSize) : AdapterField → Nat
  | guid => 16
  | encryptedData | subsampleMap => w.bytes
  | encryptedDataSize | preallocatedHandle | subsampleMapCount => 4

/-- No field needs padding before it. -/
def AdapterField.offset (w : PointerSize) : AdapterField → Nat
  | guid => 0
  | encryptedData => 16
  | encryptedDataSize => 16 + w.bytes
  | preallocatedHandle => 20 + w.bytes
  | subsampleMap => 24 + w.bytes
  | subsampleMapCount => 24 + 2 * w.bytes

/-- `sizeof(AdapterEncryptedData)`: with eight-byte pointers there are four bytes of padding at the end. -/
def sizeofAdapterEncryptedData : PointerSize → Nat
  | .four => 36
  | .eight => 48

def adapterLayout (w : PointerSize) : Layout AdapterField where
  offset := AdapterField.offset w
  width := AdapterField.width w
  size := sizeofAdapterEncryptedData w
  inside := by
    intro f
    cases w <;> cases f <;> decide
  apart := by
    intro f g hne
    cases w <;> cases f <;> cases g <;> first | exact absurd rfl hne | decide

def adapterEncryptedDataHeader : List UInt8 :=
  [0x32, 0x92, 0xaa, 0x2c, 0x9e, 0x58, 0x4e, 0xa4, 0xa4, 0x64, 0xfd, 0xb7, 0xa1, 0xc2, 0x62, 0xe3]

/-- `data->field = 0`, or `NULL`. -/
def storeZero (w : PointerSize) (data : List UInt8) (f : AdapterField) : Option (List UInt8) :=
  write data (f.offset w) (List.replicate (f.width w) 0)

/-- `gst_svp_init_adapter_encrypted_data` (`:54-68`). -/
def gstSvpInitAdapterEncryptedData (w : PointerSize) (data : Option (List UInt8)) : Option (Option (List UInt8)) :=
  match data with
  | none => some none
  | some data => do
    let data ← write data (AdapterField.guid.offset w) adapterEncryptedDataHeader
    let data ← storeZero w data .encryptedData
    let data ← storeZero w data .encryptedDataSize
    let data ← storeZero w data .preallocatedHandle
    let data ← storeZero w data .subsampleMap
    let data ← storeZero w data .subsampleMapCount
    some (some data)

/-- `gst_svp_is_adapter_encrypted_data` (`:70-78`): too small an object is not read. -/
def gstSvpIsAdapterEncryptedData (w : PointerSize) (data : List UInt8) (dataSize : Nat) : Option Int :=
  if sizeofAdapterEncryptedData w ≤ dataSize then
    (read data 0 16).map fun bs => if bs = adapterEncryptedDataHeader then 0 else 1
  else some 1

/-! ## The struct -/

/-- What the initialisation stores. -/
def initWrites (w : PointerSize) : List (AdapterField × List UInt8) :=
  (.guid, adapterEncryptedDataHeader) ::
    [AdapterField.encryptedData, .encryptedDataSize, .preallocatedHandle, .subsampleMap, .subsampleMapCount].map
      fun f => (f, List.replicate (f.width w) 0)

theorem init_eq (w : PointerSize) (o : List UInt8) :
    gstSvpInitAdapterEncryptedData w (some o) = ((adapterLayout w).writeAll o (initWrites w)).map some := by
  simp only [gstSvpInitAdapterEncryptedData, storeZero, Layout.writeAll, initWrites, adapterLayout, List.map_cons,
    List.map_nil, List.foldlM_cons, List.foldlM_nil, Option.bind_eq_bind, Option.pure_def, Option.map_bind,
    Function.comp_def, Option.map_some]

theorem initWrites_width (w : PointerSize) : ∀ v ∈ initWrites w, v.2.length = v.1.width w := by
  simp [initWrites, AdapterField.width, adapterEncryptedDataHeader]

/-- After the initialisation each field was written once. -/
theorem last_initWrites (w : PointerSize) (f : AdapterField) :
    last (initWrites w) f =
      some (if f = .guid then adapterEncryptedDataHeader else List.replicate (f.width w) 0) := by
  cases f <;> rfl

/-- The recogniser reads the GUID. -/
theorem isAdapter_of_guid {w : PointerSize} {o guid : List UInt8} (hguid : read o 0 16 = some guid) (dataSize : Nat) :
    gstSvpIsAdapterEncryptedData w o dataSize =
      some (if sizeofAdapterEncryptedData w ≤ dataSize ∧ guid = adapterEncryptedDataHeader then 0 else 1) := by
  unfold gstSvpIsAdapterEncryptedData
  rw [hguid]
  by_cases hsize : sizeofAdapterEncryptedData w ≤ dataSize <;> simp [hsize]

/-- **The struct is a register file that is always recognised.** Over any object with room, with any old
contents, and any stores to the fields behind the GUID: it is recognised as adapter data of every size it can
have and of no smaller one, it has no SVP header, each field holds what was stored last, or zeros, and what
lies behind the struct is as before. -/
theorem adapter_register_file (w : PointerSize) (o : List UInt8) (hroom : sizeofAdapterEncryptedData w ≤ o.length)
    (stores : List (AdapterField × List UInt8)) (hstores : ∀ v ∈ stores, v.1 ≠ .guid ∧ v.2.length = v.1.width w) :
    ∃ o₁ o', gstSvpInitAdapterEncryptedData w (some o) = some (some o₁) ∧
      (adapterLayout w).writeAll o₁ stores = some o' ∧
      (∀ dataSize, gstSvpIsAdapterEncryptedData w o' dataSize =
        some (if sizeofAdapterEncryptedData w ≤ dataSize then 0 else 1)) ∧
      gstSvpHasHeader o' 0 = some false ∧
      (∀ f, f ≠ .guid → (adapterLayout w).fields o' f = (last stores f).getD (List.replicate (f.width w) 0)) ∧
      AgreeOutside 0 (sizeofAdapterEncryptedData w) o o' := by
  have hwidth : ∀ v ∈ initWrites w ++ stores, v.2.length = v.1.width w := by
    intro v hv
    exact (List.mem_append.1 hv).elim (initWrites_width w v) fun hv => (hstores v hv).2
  obtain ⟨o₁, hinit, hagree₁, hfields₁⟩ := Layout.writeAll_spec (L := adapterLayout w) hroom
    (fun v hv => Nat.le_of_eq (initWrites_width w v hv))
  have hroom₁ : sizeofAdapterEncryptedData w ≤ o₁.length := by rw [hagree₁.1]; exact hroom
  obtain ⟨o', hrun, hagree, hfields⟩ := Layout.writeAll_spec (L := adapterLayout w) hroom₁
    (fun v hv => Nat.le_of_eq (hstores v hv).2)
  have hroom' : sizeofAdapterEncryptedData w ≤ o'.length := by rw [hagree.1]; exact hroom₁
  have hheld : ∀ f, (adapterLayout w).fields o' f =
      (last stores f).getD (if f = .guid then adapterEncryptedDataHeader else List.replicate (f.width w) 0) := by
    intro f
    have hlast : last (initWrites w ++ stores) f = some ((last stores f).getD
        (if f = .guid then adapterEncryptedDataHeader else List.replicate (f.width w) 0)) := by
      rw [last_append, last_initWrites]
      cases last stores f <;> rfl
    rw [hfields, hfields₁, ← storeAll_append]
    refine storeAll_whole hlast ?_
    rw [hwidth _ (last_mem hlast), storeAll_append, ← hfields₁, ← hfields]
    exact (Layout.fields_length (L := adapterLayout w) hroom' f).symm
  have hguid : read o' 0 16 = some adapterEncryptedDataHeader := by
    have hnone : last stores .guid = none := last_eq_none_iff.2 fun v hv => (hstores v hv).1
    have h := Layout.read_fields (L := adapterLayout w) hroom' .guid
    rwa [hheld, hnone, Option.getD_none, if_pos rfl] at h
  refine ⟨o₁, o', by rw [init_eq, hinit]; rfl, hrun, ?_, ?_, ?_, hagree₁.trans hagree⟩
  · intro dataSize
    rw [isAdapter_of_guid hguid]
    simp only [and_true]
  · have hne : (adapterEncryptedDataHeader == headerGuid) = false := by decide
    simp only [gstSvpHasHeader, guidSize, hguid, Option.map_some, hne]
  · intro f hf
    rw [hheld f, if_neg hf]

/-- A struct in an object with four bytes behind it, one of its fields stored twice. -/
theorem adapter_register_file_stored :
    ∃ o₁ o', gstSvpInitAdapterEncryptedData .four (some (List.replicate 40 0xff)) = some (some o₁) ∧
      (adapterLayout .four).writeAll o₁ [(.encryptedDataSize, [1, 0, 0, 0]), (.encryptedDataSize, [2, 0, 0, 0])] =
        some o' ∧
      (∀ dataSize, gstSvpIsAdapterEncryptedData .four o' dataSize =
        some (if sizeofAdapterEncryptedData .four ≤ dataSize then 0 else 1)) ∧
      gstSvpHasHeader o' 0 = some false ∧
      (∀ f, f ≠ .guid → (adapterLayout .four).fields o' f =
        (last [(AdapterField.encryptedDataSize, [1, 0, 0, 0]), (.encryptedDataSize, [2, 0, 0, 0])] f).getD
          (List.replicate (f.width .four) 0)) ∧
      AgreeOutside 0 (sizeofAdapterEncryptedData .four) (List.replicate 40 0xff) o' :=
  adapter_register_file .four (List.replicate 40 0xff) (by decide) _ (by simp [AdapterField.width])

/-! ## Blocks -/

section
variable {A : Type} [DecidableEq A]

/-- **A block is never taken for the struct.** After any legal run of calls over any blocks, every live block
has its header and is not recognised as adapter data, whatever size is given for it. -/
theorem blocks_not_adapter (b : Build) (w : PointerSize) (hsize : sizeofSvpHeader + b.tokenSize.toNat < 2 ^ b.gsizeBits)
    (token : A → List UInt8) (ops : List (BlockOp A))
    (hlegal : Runs.Along (blockStep b) (BlockLegal b token) blockInit ops) {s : BlockState A}
    (hrun : Runs.run (blockStep b) blockInit ops = some s) {blk : Nat} {d : DataBlock A}
    (hd : s.blocks blk = some d) :
    gstSvpHasHeader d.bytes 0 = some true ∧
      ∀ dataSize, gstSvpIsAdapterEncryptedData w d.bytes dataSize = some 1 := by
  obtain ⟨live, h⟩ := Runs.run_preserves (I := fun s => ∃ live, BlockInv b token s live)
    (fun s op s' ⟨live, h⟩ hl hs => blockStep_keeps hsize h hl hs) ⟨[], blockInv_init⟩ hlegal hrun
  obtain ⟨⟨k, hwf, -⟩, -⟩ := h.kept blk d hd
  have hguid : read d.bytes 0 16 = some headerGuid := hwf.guid
  have hne : headerGuid ≠ adapterEncryptedDataHeader := by decide
  refine ⟨by simp only [gstSvpHasHeader, guidSize, hguid, Option.map_some, beq_self_eq_true], ?_⟩
  intro dataSize
  rw [isAdapter_of_guid hguid, if_neg fun h => hne h.2]

end

/-- A block after a setter call and a payload that starts with the struct's GUID. -/
theorem blocks_not_adapter_allocated :
    ∃ s d, Runs.run (blockStep ⟨64, 1, false⟩) (blockInit : BlockState UInt8)
        [.allocate (some 0) (.ample fun _ => 0) ⟨none, [], none⟩ 16 16 false, .set 0 (.v2 .dataSize [16, 0, 0, 0]),
          .payload 0 0 adapterEncryptedDataHeader] = some s ∧ s.blocks 0 = some d ∧
          gstSvpHasHeader d.bytes 0 = some true ∧
            ∀ dataSize, gstSvpIsAdapterEncryptedData .eight d.bytes dataSize = some 1 := by
  have hsize : sizeofSvpHeader + (1 : UInt32).toNat < 2 ^ 64 := by decide
  have hlegal : Runs.Along (blockStep ⟨64, 1, false⟩) (BlockLegal ⟨64, 1, false⟩ fun a : UInt8 => [a]) blockInit
      [.allocate (some 0) (.ample fun _ => 0) ⟨none, [], none⟩ 16 16 false, .set 0 (.v2 .dataSize [16, 0, 0, 0]),
        .payload 0 0 adapterEncryptedDataHeader] := by
    refine ⟨⟨by simp [blockInit], by decide, by simp⟩, ?_⟩
    rintro s₁ ⟨⟩
    refine ⟨⟨rfl, Or.inr rfl, by simp [SetCall.Readable, SvpHeaderFieldName.width]⟩, ?_⟩
    rintro s₂ ⟨⟩
    exact ⟨rfl, fun _ _ => trivial⟩
  obtain ⟨s, hs, hd⟩ : ∃ s, Runs.run (blockStep ⟨64, 1, false⟩) (blockInit : BlockState UInt8)
      [.allocate (some 0) (.ample fun _ => 0) ⟨none, [], none⟩ 16 16 false, .set 0 (.v2 .dataSize [16, 0, 0, 0]),
        .payload 0 0 adapterEncryptedDataHeader] = some s ∧ (s.blocks 0).isSome :=
    ⟨_, rfl, rfl⟩
  obtain ⟨d, hd⟩ := Option.isSome_iff_exists.1 hd
  exact ⟨s, d, hs, hd, blocks_not_adapter ⟨64, 1, false⟩ .eight hsize _ _ hlegal hs hd⟩

end GstSvpExt
