import GstSvpExt.Bytes
import GstSvpExt.ProcessStore
import Mathlib.Logic.Function.Basic

/-!
# The payloader element (`plugins/gst-svp-payload.cpp`)

| here | there |
| --- | --- |
| `SvpPayloadPrivate`, `SvpPayload` | `_SvpPayloadPrivate` (`:24-28`), `_SvpPayload` (`gst-svp-payload.h:39-43`) with the base transform's in-place mode |
| `svpPayloadInit`          | `svp_payload_init` (`:97-115`) |
| `svpPayloadGetProperty`   | `svp_payload_get_property` (`:117-134`) |
| `svpPayloadTransform`, `svpPayloadTransformInPlace` | `:136-161`, `:163-187`; their common body is `protectBuffer` |
| `svpPayloadUpdateDecryptToHost` | `:189-201` |
| `svpPayloadPrepareOutputBuffer` | `:203-221` |
| `svpPayloadTransformCaps` | `:223-263` |
| `hasDecryptToHost`        | `has_decrypt_to_host` (`:265-276`) |
| `svpPayloadChangeState`   | `:278-306` |

Everything the element calls is outside this file: a `Platform` is what that code does during one
callback, and every call that leaves the element is recorded. `C` are the SVP contexts, `B` the
buffers, `β` what a buffer holds (its memory kind with its contents) and `σ` the process store.
Reference counts are left out.
-/

namespace GstSvpExt

open Bytes

/-! ## GStreamer's own types -/

/-- The value of a caps field: a `gboolean`, or of some other type. -/
inductive GValue
  | boolean (v : Bool)
  | other (repr : String)
deriving DecidableEq, Repr

structure GstStructure where
  name : String
  fields : List (String × GValue)
deriving DecidableEq, Repr

abbrev GstCaps := List GstStructure

/-- `gst_structure_get_boolean`: the field's value, if the field is there and holds a boolean. -/
def GstStructure.getBoolean (s : GstStructure) (field : String) : Option Bool :=
  match s.fields.lookup field with
  | some (.boolean v) => some v
  | _ => none

inductive GstPadDirection
  | unknown
  | src
  | sink
deriving DecidableEq, Repr

inductive GstFlowReturn
  | ok
  | error
  | other (value : Int)
deriving DecidableEq, Repr

inductive GstState
  | null
  | ready
  | paused
  | playing
deriving DecidableEq, Repr

/-- `GST_STATE_TRANSITION (cur, next)`. -/
structure GstStateChange where
  cur : GstState
  next : GstState
deriving DecidableEq, Repr

inductive GstStateChangeReturn
  | failure
  | success
  | async
  | noPreroll
deriving DecidableEq, Repr

/-! ## The element and its surroundings -/

structure SvpPayloadPrivate (C : Type) where
  svpCtx : Option C
  decryptToHostSet : Bool
  decryptToHost : Bool

structure SvpPayload (C : Type) where
  priv : SvpPayloadPrivate C
  decryptToHostEnabled : Bool
  /-- `gst_base_transform_is_in_place`. -/
  inPlace : Bool

/-- What the code outside the element does during one callback. -/
structure Platform (C B β σ : Type) where
  /-- `gst_svp_is_buffer_using_secure_memory`. -/
  isSecure : Option C → β → Bool
  /-- `gst_buffer_svp_transform_from_cleardata`: whether it succeeds, and what it leaves in the buffer. -/
  fromCleardata : Option C → β → Bool × β
  /-- `gst_buffer_copy`: the new buffer and what it holds. -/
  bufferCopy : β → B × β
  /-- The parent class's `prepare_output_buffer`: its result, and `*outbuf` if it sets it. -/
  prepareParent : B → β → GstFlowReturn × Option (B × β)
  /-- The installed table of the process store. -/
  processors : List (NameValuePairProcessor C σ)
  /-- `gst_svp_ext_transform_caps (&caps, FALSE)`: whether it succeeds, and what it leaves in `caps`. -/
  transformCaps : Option GstCaps → Bool × Option GstCaps
  /-- `gst_svp_ext_transform_caps_clear`. -/
  transformCapsClear : Option C → Option GstCaps → Option GstCaps
  /-- `gst_caps_intersect_full (caps, filter, GST_CAPS_INTERSECT_FIRST)`. -/
  intersectFirst : Option GstCaps → GstCaps → Option GstCaps
  /-- `gst_svp_ext_get_context`: the context it stores, if it succeeds. -/
  getContext : Option C
  /-- `svp_pipeline_buffers_available`. -/
  buffersAvailable : C → Bool
  /-- The parent class's `change_state`. -/
  changeStateParent : GstStateChangeReturn

/-- A call that leaves the element, with its arguments and its answer. -/
inductive PlatformCall (C B : Type)
  | getContext (c : Option C)
  | freeContext (c : Option C)
  | isBufferUsingSecureMemory (c : Option C) (buf : B) (secure : Bool)
  | transformFromCleardata (c : Option C) (buf : B) (ok : Bool)
  | processStoreSetValue (c : Option C) (name : String) (value : List UInt8) (ok : Bool)
  | transformCaps (ok : Bool)
  | transformCapsClear (c : Option C)
  | buffersAvailable (c : C)
deriving DecidableEq, Repr

/-- The buffers, the process store, and the calls made so far. -/
structure PayloadWorld (C B β σ : Type) where
  bufs : B → β
  store : σ
  calls : List (PlatformCall C B)

variable {C B β σ : Type}

/-- A `gboolean` object. -/
def gbooleanBytes (v : Bool) : List UInt8 := u32Bytes (if v then 1 else 0)

/-- `has_decrypt_to_host` (`:265-276`). -/
def hasDecryptToHost (caps : Option GstCaps) : Bool :=
  match caps with
  | none => false
  | some structures => structures.any fun s => s.getBoolean "decrypt-to-host" == some true

/-- `svp_payload_init` (`:97-115`). -/
def svpPayloadInit (p : Platform C B β σ) (w : PayloadWorld C B β σ) :
    SvpPayload C × PayloadWorld C B β σ :=
  ({ priv := { svpCtx := p.getContext, decryptToHostSet := false, decryptToHost := false }
     decryptToHostEnabled := false
     inPlace := false },
    { w with calls := w.calls ++ [.getContext p.getContext] })

/-- `svp_payload_get_property` (`:117-134`) of `PROP_BUFFERS_AVAILABLE`; another id sets no value. -/
def svpPayloadGetProperty (p : Platform C B β σ) (self : SvpPayload C) (w : PayloadWorld C B β σ)
    (buffersAvailable : Bool) : Option Bool × PayloadWorld C B β σ :=
  if buffersAvailable then
    match self.priv.svpCtx with
    | some c => (some (p.buffersAvailable c), { w with calls := w.calls ++ [.buffersAvailable c] })
    | none => (some false, w)
  else (none, w)

/-- `svpPayloadUpdateDecryptToHost` (`:189-201`). A setter leaves the caller's object as it is. -/
def svpPayloadUpdateDecryptToHost (p : Platform C B β σ) (priv : SvpPayloadPrivate C)
    (w : PayloadWorld C B β σ) (decryptToHost : Bool) : SvpPayloadPrivate C × PayloadWorld C B β σ :=
  if priv.decryptToHostSet && priv.decryptToHost == decryptToHost then (priv, w)
  else
    let (ok, _, store) := gstSvpExtContextProcessStoreSetValue p.processors priv.svpCtx
      (some "decryptToHost") (some (gbooleanBytes decryptToHost)) 4 w.store
    let w := { w with
      store
      calls := w.calls ++
        [.processStoreSetValue priv.svpCtx "decryptToHost" (gbooleanBytes decryptToHost) ok] }
    if ok then ({ priv with decryptToHost := decryptToHost, decryptToHostSet := true }, w)
    else (priv, w)

section
variable [DecidableEq B]

/-- The common body of the two transform callbacks: push the flag to the process store, then pass
`inbuf` through (`onPassthrough` is what is then returned) or convert `outbuf`. -/
def protectBuffer (p : Platform C B β σ) (self : SvpPayload C) (w : PayloadWorld C B β σ) (inbuf outbuf : B)
    (onPassthrough : GstFlowReturn) : GstFlowReturn × SvpPayload C × PayloadWorld C B β σ :=
  let (priv, w) := svpPayloadUpdateDecryptToHost p self.priv w self.decryptToHostEnabled
  let self := { self with priv }
  let secure := p.isSecure priv.svpCtx (w.bufs inbuf)
  let w := { w with calls := w.calls ++ [.isBufferUsingSecureMemory priv.svpCtx inbuf secure] }
  if secure || self.decryptToHostEnabled then (onPassthrough, self, w)
  else
    let (ok, contents) := p.fromCleardata priv.svpCtx (w.bufs outbuf)
    let w := { w with
      bufs := Function.update w.bufs outbuf contents
      calls := w.calls ++ [.transformFromCleardata priv.svpCtx outbuf ok] }
    (if ok then .ok else .error, self, w)

/-- `svpPayloadTransform` (`:136-161`): a passthrough with `inbuf != outbuf` fails its check. -/
def svpPayloadTransform (p : Platform C B β σ) (self : SvpPayload C) (w : PayloadWorld C B β σ)
    (inbuf outbuf : B) : GstFlowReturn × SvpPayload C × PayloadWorld C B β σ :=
  protectBuffer p self w inbuf outbuf (if inbuf = outbuf then .ok else .error)

/-- `svpPayloadTransformInPlace` (`:163-187`). -/
def svpPayloadTransformInPlace (p : Platform C B β σ) (self : SvpPayload C) (w : PayloadWorld C B β σ)
    (buffer : B) : GstFlowReturn × SvpPayload C × PayloadWorld C B β σ :=
  protectBuffer p self w buffer buffer .ok

/-- `svpPayloadPrepareOutputBuffer` (`:203-221`): its result and `*outbuf`. -/
def svpPayloadPrepareOutputBuffer (p : Platform C B β σ) (self : SvpPayload C) (w : PayloadWorld C B β σ)
    (inbuf : B) : GstFlowReturn × Option B × PayloadWorld C B β σ :=
  let secure := p.isSecure self.priv.svpCtx (w.bufs inbuf)
  let w := { w with calls := w.calls ++ [.isBufferUsingSecureMemory self.priv.svpCtx inbuf secure] }
  if secure || self.decryptToHostEnabled then (.ok, some inbuf, w)
  else if self.inPlace then
    match p.prepareParent inbuf (w.bufs inbuf) with
    | (result, none) => (result, none, w)
    | (result, some (outbuf, contents)) =>
      (result, some outbuf, { w with bufs := Function.update w.bufs outbuf contents })
  else
    let (outbuf, contents) := p.bufferCopy (w.bufs inbuf)
    (.ok, some outbuf, { w with bufs := Function.update w.bufs outbuf contents })

end

/-- `if (filter) ret = gst_caps_intersect_full (ret, filter, ..)` (`:253-258`). -/
def filterCaps (p : Platform C B β σ) (ret filter : Option GstCaps) : Option GstCaps :=
  match filter with
  | some filter => p.intersectFirst ret filter
  | none => ret

/-- `svpPayloadTransformCaps` (`:223-263`): the caps returned; both directions note the flag. -/
def svpPayloadTransformCaps (p : Platform C B β σ) (self : SvpPayload C) (w : PayloadWorld C B β σ)
    (direction : GstPadDirection) (caps filter : Option GstCaps) :
    Option GstCaps × SvpPayload C × PayloadWorld C B β σ :=
  if direction = .unknown then (none, self, w)
  else
    let self := { self with decryptToHostEnabled := hasDecryptToHost caps }
    if direction = .sink then
      if self.decryptToHostEnabled = false then
        let (ok, ret) := p.transformCaps caps
        let w := { w with calls := w.calls ++ [.transformCaps ok] }
        if ok then (filterCaps p ret filter, self, w) else (none, self, w)
      else (filterCaps p caps filter, self, w)
    else
      let ret := p.transformCapsClear self.priv.svpCtx caps
      (filterCaps p ret filter, self, { w with calls := w.calls ++ [.transformCapsClear self.priv.svpCtx] })

/-- `svpPayloadChangeState` (`:278-306`): the parent's result is returned; the context goes whatever
that result is. -/
def svpPayloadChangeState (p : Platform C B β σ) (self : SvpPayload C) (w : PayloadWorld C B β σ)
    (transition : GstStateChange) : GstStateChangeReturn × SvpPayload C × PayloadWorld C B β σ :=
  let (self, w) :=
    if transition = ⟨.null, .ready⟩ ∧ self.priv.svpCtx.isNone then
      ({ self with priv := { self.priv with svpCtx := p.getContext } },
        { w with calls := w.calls ++ [.getContext p.getContext] })
    else (self, w)
  let result := p.changeStateParent
  if transition = ⟨.ready, .null⟩ then
    (result, { self with priv := { self.priv with svpCtx := none } },
      { w with calls := w.calls ++ [.freeContext self.priv.svpCtx] })
  else (result, self, w)

end GstSvpExt
