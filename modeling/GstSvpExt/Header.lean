import GstSvpExt.Bytes

/-!
# The SVP header (`gst_svp_header.cpp:28-200`)

| here | there |
| --- | --- |
| `guidOffset` .. `sizeofSvpHeader` | the layout of `SvpHeader_t` (`:30-37`): 16 GUID bytes, three `uint32_t` and the one-byte `handle` array at 28, padded to 32 |
| `gstSvpHeaderSize`                | `gst_svp_header_size` (`:39`), in `gsize` arithmetic |
| `gstSvpHeaderSetFieldV2`, `gstSvpHeaderGetFieldV2` | `gst_svp_header_set_field_v2` (`:44`), `gst_svp_header_get_field_v2` (`:74`) |
| `gstSvpHeaderSetField`, `gstSvpHeaderGetField` | `gst_svp_header_set_field` (`:104`), `gst_svp_header_get_field` (`:134`), with the `MEDIATEK` branch |
| `gstSvpHasHeader`, `gstSvpWriteHeader` | `gst_svp_has_header` (`:167`), `gst_svp_write_header` (`:174`) |
| `gstSvpHeaderGetStartOfData`, `gstSvpHeaderRemoveHeaderIfPresent` | `:181-200` |

A pointer to a buffer is the bytes of its object (`none` is `NULL`); a result `none` of a whole
call is an access outside the object it goes to, save that what lies behind `defaultHeader` may be
readable (`beyond`). `pContext` is passed on but never read.
-/

namespace GstSvpExt

open Bytes

/-- What one build of the library fixes. -/
structure Build where
  /-- Width of `gsize` in bits. -/
  gsizeBits : Nat
  /-- `svp_token_size()`, the platform's `guint32`. -/
  tokenSize : UInt32
  /-- `MEDIATEK` is defined. -/
  mediatek : Bool
deriving DecidableEq, Repr

/-- `TokenType_e` (`gst_svp_header.h:29-34`). -/
inductive TokenType
  | inPlace
  | handle
  | preAllocatedHandle
  | fake
deriving DecidableEq, Repr

/-- The enumerator as stored in the header's `type` field. -/
def TokenType.val : TokenType → UInt32
  | .inPlace => 0
  | .handle => 1
  | .preAllocatedHandle => 2
  | .fake => 3

/-- `SvpHeaderField_e` (`gst_svp_header.h:41-46`); `unknown` is a cast value that names no
enumerator and takes the `default` branch of every `switch`. -/
inductive SvpHeaderFieldName
  | type
  | version
  | dataSize
  | outputBuffer
  | unknown (raw : Nat)
deriving DecidableEq, Repr

def guidSize : Nat := 16
def guidOffset : Nat := 0
def typeOffset : Nat := 16
def versionOffset : Nat := 20
def dataSizeOffset : Nat := 24
def handleOffset : Nat := 28
def sizeofSvpHeader : Nat := 32

/-- The GUID of `SvpHeader_t` (`:32`). -/
def headerGuid : List UInt8 :=
  [0x44, 0x1c, 0x9a, 0xeb, 0xf3, 0x38, 0xb4, 0x41, 0x8a, 0x31, 0x2e, 0xd7, 0xfb, 0x81, 0x4e, 0x15]

/-- The object `static const SvpHeader defaultHeader{}`, padding included. -/
def defaultHeader : List UInt8 := headerGuid ++ List.replicate 16 0

theorem defaultHeader_length : defaultHeader.length = sizeofSvpHeader := rfl

/-- `gst_svp_header_size` (`:39-42`). -/
def gstSvpHeaderSize (b : Build) : Nat := (sizeofSvpHeader + b.tokenSize.toNat) % 2 ^ b.gsizeBits

/-- `header->field = bs` at a field's offset, then `return true`. -/
def storeField (header : List UInt8) (off : Nat) (bs : List UInt8) :
    Option (Bool × Option (List UInt8)) :=
  (write header off bs).map fun header' => (true, some header')

/-- `gst_svp_header_set_field_v2` (`:44-72`); `value` is what the caller's pointer may be read for. -/
def gstSvpHeaderSetFieldV2 (b : Build) (buffer : Option (List UInt8)) (fieldName : SvpHeaderFieldName)
    (value : List UInt8) : Option (Bool × Option (List UInt8)) :=
  match buffer with
  | none => some (false, none)
  | some header =>
    match fieldName with
    | .type => (read value 0 4).bind (storeField header typeOffset)
    | .version => (read value 0 4).bind (storeField header versionOffset)
    | .dataSize => (read value 0 4).bind (storeField header dataSizeOffset)
    | .outputBuffer => (read value 0 b.tokenSize.toNat).bind (storeField header handleOffset)
    | .unknown _ => some (false, some header)

/-- What `gst_svp_header_get_field_v2` stores through `value`: a `uint32_t`, or the pointer that the
registered extract hook returned. -/
inductive FieldValue (H : Type)
  | u32 (v : UInt32)
  | handle (h : Option H)
deriving DecidableEq, Repr

/-- `*((uint32_t*)value) = header->field` of the v2 getter. -/
def loadU32 {H : Type} (header : List UInt8) (off : Nat) : Option (Bool × Option (FieldValue H)) :=
  (read header off 4).map fun bs => (true, some (.u32 (u32Of bs)))

/-- `gst_svp_header_get_field_v2` (`:74-102`). The hook `svp_header_extract_output_buffer` is given
`header->handle` and reads the token there; it is missing code and so a parameter. -/
def gstSvpHeaderGetFieldV2 {H : Type} (b : Build) (extract : List UInt8 → Option H)
    (buffer : Option (List UInt8)) (fieldName : SvpHeaderFieldName) :
    Option (Bool × Option (FieldValue H)) :=
  match buffer with
  | none => some (false, none)
  | some header =>
    match fieldName with
    | .type => loadU32 header typeOffset
    | .version => loadU32 header versionOffset
    | .dataSize => loadU32 header dataSizeOffset
    | .outputBuffer =>
      (read header handleOffset b.tokenSize.toNat).map fun slot => (true, some (.handle (extract slot)))
    | .unknown _ => some (false, none)

/-- `gst_svp_header_set_field` (`:104-132`): every field takes four bytes. -/
def gstSvpHeaderSetField (buffer : Option (List UInt8)) (fieldName : SvpHeaderFieldName)
    (value : UInt32) : Option (Bool × Option (List UInt8)) :=
  match buffer with
  | none => some (false, none)
  | some header =>
    match fieldName with
    | .type => storeField header typeOffset (u32Bytes value)
    | .version => storeField header versionOffset (u32Bytes value)
    | .dataSize => storeField header dataSizeOffset (u32Bytes value)
    | .outputBuffer => storeField header handleOffset (u32Bytes value)
    | .unknown _ => some (false, some header)

/-- Copy `n` bytes of the header into the caller's object, then `return true`. -/
def copyField (header : List UInt8) (off n : Nat) (value : List UInt8) : Option (Bool × List UInt8) :=
  (read header off n).bind fun bs => (write value 0 bs).map fun value' => (true, value')

/-- An object of the size that is copied holds the bytes of the header after it. -/
theorem copyField_whole {header bs value : List UInt8} {off n : Nat} (hread : read header off n = some bs)
    (hv : value.length = n) : copyField header off n value = some (true, bs) := by
  have hw : write value 0 bs = some bs := write_whole (hv.trans (read_length hread).symm)
  simp only [copyField, hread, Option.bind_some, hw, Option.map_some]

/-- `gst_svp_header_get_field` (`:134-165`); `value` is the caller's object, returned as the call
leaves it. With `MEDIATEK` the output buffer is a fixed 400-byte copy (`:158`). -/
def gstSvpHeaderGetField (b : Build) (buffer : Option (List UInt8)) (fieldName : SvpHeaderFieldName)
    (value : List UInt8) : Option (Bool × List UInt8) :=
  match buffer with
  | none => some (false, value)
  | some header =>
    match fieldName with
    | .type => copyField header typeOffset 4 value
    | .version => copyField header versionOffset 4 value
    | .dataSize => copyField header dataSizeOffset 4 value
    | .outputBuffer => copyField header handleOffset (if b.mediatek then 400 else 4) value
    | .unknown _ => some (false, value)

/-- `gst_svp_has_header` (`:167-172`) on a pointer `p` bytes into an object. -/
def gstSvpHasHeader (o : List UInt8) (p : Nat) : Option Bool :=
  (read o p guidSize).map fun bs => bs == headerGuid

/-- The bytes `memcpy` takes from `defaultHeader` when asked for `n`: past the object's end it
reads what lies behind it in memory, `none` where nothing is mapped. -/
def defaultHeaderBytes (beyond : Nat → Option UInt8) (n : Nat) : Option (List UInt8) :=
  (readUpTo beyond (n - sizeofSvpHeader)).map fun rest => defaultHeader.take n ++ rest

/-- `gst_svp_write_header` (`:174-179`). -/
def gstSvpWriteHeader (b : Build) (beyond : Nat → Option UInt8) (buffer : Option (List UInt8)) :
    Option (Option (List UInt8)) :=
  match buffer with
  | none => if gstSvpHeaderSize b = 0 then some none else none
  | some o =>
    (defaultHeaderBytes beyond (gstSvpHeaderSize b)).bind fun bs => (write o 0 bs).map some

/-- `gst_svp_header_get_start_of_data` (`:181-190`) on a pointer into an object, `none` for `NULL`. -/
def gstSvpHeaderGetStartOfData (b : Build) (header : Option Nat) : Option Nat :=
  header.map fun p => p + gstSvpHeaderSize b

/-- `gst_svp_header_remove_header_if_present` (`:192-200`) on a pointer `p` into `o`. -/
def gstSvpHeaderRemoveHeaderIfPresent (b : Build) (o : List UInt8) (p : Nat) : Option (Option Nat) :=
  (gstSvpHasHeader o p).map fun present =>
    if present then gstSvpHeaderGetStartOfData b (some p) else some p

/-! ## Fields as ranges of bytes -/

/-- Where a field lies. -/
def SvpHeaderFieldName.offset : SvpHeaderFieldName → Nat
  | .type => typeOffset
  | .version => versionOffset
  | .dataSize => dataSizeOffset
  | .outputBuffer => handleOffset
  | .unknown _ => 0

/-- How long a field is: the output buffer is the platform token. -/
def SvpHeaderFieldName.width (b : Build) : SvpHeaderFieldName → Nat
  | .type | .version | .dataSize => 4
  | .outputBuffer => b.tokenSize.toNat
  | .unknown _ => 0

/-- The bytes of a field. -/
def fieldBytes (b : Build) (header : List UInt8) (f : SvpHeaderFieldName) : List UInt8 :=
  (header.drop f.offset).take (f.width b)

/-- The header has room for the struct's fields and a whole token. -/
def HeaderFits (b : Build) (header : List UInt8) : Prop :=
  handleOffset + max 4 b.tokenSize.toNat ≤ header.length

theorem read_field {b : Build} {header : List UInt8} (hfit : HeaderFits b header)
    (f : SvpHeaderFieldName) : read header f.offset (f.width b) = some (fieldBytes b header f) := by
  refine read_eq_some.2 ⟨?_, rfl⟩
  unfold HeaderFits at hfit
  cases f <;> simp [SvpHeaderFieldName.offset, SvpHeaderFieldName.width, typeOffset, versionOffset,
    dataSizeOffset, handleOffset] at hfit ⊢ <;> omega

theorem fieldBytes_length {b : Build} {header : List UInt8} (hfit : HeaderFits b header)
    (f : SvpHeaderFieldName) : (fieldBytes b header f).length = f.width b :=
  read_length (read_field hfit f)

end GstSvpExt
