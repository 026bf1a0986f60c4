import GstSvpExt.Payload

/-!
# Runs of one payloader element

A callback is an atomic step; a run starts from `svp_payload_init` and takes any callbacks in any
order. `payloadCall` gives a callback's reply with the state it leaves, and the spec lemmas say, for
each function of the element, which calls it makes and what of the state it changes: only the caps
callback writes the flag, only the transforms write the cache and the process store.
-/

namespace GstSvpExt

variable {C B β σ : Type}

/-! ## What the functions change and call -/

/-- The cache already holds `d`. -/
def SvpPayloadPrivate.holds (priv : SvpPayloadPrivate C) (d : Bool) : Bool :=
  priv.decryptToHostSet && priv.decryptToHost == d

/-- What the set of `decryptToHost` to `d` answers, and the store it leaves. -/
def setDecryptToHost (p : Platform C B β σ) (svpCtx : Option C) (d : Bool) (s : σ) : Bool × σ :=
  let r := gstSvpExtContextProcessStoreSetValue p.processors svpCtx (some "decryptToHost")
    (some (gbooleanBytes d)) 4 s
  (r.1, r.2.2)

/-- The calls of `svpPayloadUpdateDecryptToHost`: none if the cache holds the value. -/
def updateCalls (p : Platform C B β σ) (priv : SvpPayloadPrivate C) (s : σ) (d : Bool) :
    List (PlatformCall C B) :=
  if priv.holds d then []
  else [.processStoreSetValue priv.svpCtx "decryptToHost" (gbooleanBytes d) (setDecryptToHost p priv.svpCtx d s).1]

/-- The cache after `svpPayloadUpdateDecryptToHost`. -/
def updatePriv (p : Platform C B β σ) (priv : SvpPayloadPrivate C) (s : σ) (d : Bool) : SvpPayloadPrivate C :=
  if priv.holds d then priv
  else if (setDecryptToHost p priv.svpCtx d s).1 then
    { priv with decryptToHost := d, decryptToHostSet := true }
  else priv

/-- The store after `svpPayloadUpdateDecryptToHost`. -/
def updateStore (p : Platform C B β σ) (priv : SvpPayloadPrivate C) (s : σ) (d : Bool) : σ :=
  if priv.holds d then s else (setDecryptToHost p priv.svpCtx d s).2

theorem update_eq (p : Platform C B β σ) (priv : SvpPayloadPrivate C) (w : PayloadWorld C B β σ) (d : Bool) :
    svpPayloadUpdateDecryptToHost p priv w d =
      (updatePriv p priv w.store d,
        { w with store := updateStore p priv w.store d, calls := w.calls ++ updateCalls p priv w.store d }) := by
  unfold svpPayloadUpdateDecryptToHost updatePriv updateStore updateCalls SvpPayloadPrivate.holds setDecryptToHost
  by_cases h : (priv.decryptToHostSet && priv.decryptToHost == d) = true
  · simp [h]
  · simp only [if_neg h]
    split <;> rfl

@[simp] theorem updatePriv_svpCtx (p : Platform C B β σ) (priv : SvpPayloadPrivate C) (s : σ) (d : Bool) :
    (updatePriv p priv s d).svpCtx = priv.svpCtx := by
  unfold updatePriv
  split
  · rfl
  · split <;> rfl

section
variable [DecidableEq B]

/-- The transforms' common body: the cache and store are updated, `inbuf` is asked about, and
`outbuf` is converted unless `inbuf` is secure or the flag is set. -/
theorem protectBuffer_eq (p : Platform C B β σ) (self : SvpPayload C) (w : PayloadWorld C B β σ)
    (inbuf outbuf : B) (onPassthrough : GstFlowReturn) :
    protectBuffer p self w inbuf outbuf onPassthrough =
      let secure := p.isSecure self.priv.svpCtx (w.bufs inbuf)
      let converted := p.fromCleardata self.priv.svpCtx (w.bufs outbuf)
      let self' := { self with priv := updatePriv p self.priv w.store self.decryptToHostEnabled }
      let store := updateStore p self.priv w.store self.decryptToHostEnabled
      let calls := w.calls ++ updateCalls p self.priv w.store self.decryptToHostEnabled ++
        [.isBufferUsingSecureMemory self.priv.svpCtx inbuf secure]
      if secure || self.decryptToHostEnabled then (onPassthrough, self', ⟨w.bufs, store, calls⟩)
      else
        (if converted.1 then .ok else .error, self',
          ⟨Function.update w.bufs outbuf converted.2, store,
            calls ++ [.transformFromCleardata self.priv.svpCtx outbuf converted.1]⟩) := by
  simp only [protectBuffer, update_eq, updatePriv_svpCtx]

/-- The in-place transform is the transform of a buffer to itself. -/
theorem transformInPlace_eq (p : Platform C B β σ) (self : SvpPayload C) (w : PayloadWorld C B β σ) (buffer : B) :
    svpPayloadTransformInPlace p self w buffer = svpPayloadTransform p self w buffer buffer := by
  simp only [svpPayloadTransformInPlace, svpPayloadTransform, if_true]

theorem prepare_frame (p : Platform C B β σ) (self : SvpPayload C) (w : PayloadWorld C B β σ) (inbuf : B) :
    (svpPayloadPrepareOutputBuffer p self w inbuf).2.2.store = w.store := by
  unfold svpPayloadPrepareOutputBuffer
  dsimp only
  split
  · rfl
  · split
    · split <;> rfl
    · rfl

end

/-- The flag as a caps call leaves it. -/
def capsFlag (direction : GstPadDirection) (caps : Option GstCaps) (flag : Bool) : Bool :=
  if direction = .unknown then flag else hasDecryptToHost caps

/-- A caps call writes the flag and nothing else of the element, and neither buffers nor store. -/
theorem transformCaps_frame (p : Platform C B β σ) (self : SvpPayload C) (w : PayloadWorld C B β σ)
    (direction : GstPadDirection) (caps filter : Option GstCaps) :
    (svpPayloadTransformCaps p self w direction caps filter).2.1 =
        { self with decryptToHostEnabled := capsFlag direction caps self.decryptToHostEnabled } ∧
      (svpPayloadTransformCaps p self w direction caps filter).2.2.bufs = w.bufs ∧
      (svpPayloadTransformCaps p self w direction caps filter).2.2.store = w.store := by
  cases direction with
  | unknown => exact ⟨rfl, rfl, rfl⟩
  | src => exact ⟨rfl, rfl, rfl⟩
  | sink =>
    simp only [svpPayloadTransformCaps, capsFlag, reduceCtorEq, if_false, if_true]
    by_cases hf : hasDecryptToHost caps = false
    · simp only [if_pos hf]
      split <;> exact ⟨rfl, rfl, rfl⟩
    · simp only [if_neg hf, and_self]

/-! ## Runs -/

/-- The element and its surroundings. -/
structure PayloadState (C B β σ : Type) where
  self : SvpPayload C
  world : PayloadWorld C B β σ

/-- A callback, with what the platform does during it. -/
inductive PayloadEvent (C B β σ : Type)
  | transformCaps (p : Platform C B β σ) (direction : GstPadDirection) (caps filter : Option GstCaps)
  | prepare (p : Platform C B β σ) (inbuf : B)
  | transform (p : Platform C B β σ) (inbuf outbuf : B)
  | transformInPlace (p : Platform C B β σ) (buffer : B)

/-- What a callback returns to GStreamer. -/
inductive PayloadReply (B : Type)
  | caps (ret : Option GstCaps)
  | prepared (result : GstFlowReturn) (outbuf : Option B)
  | transformed (result : GstFlowReturn)
deriving DecidableEq, Repr

def PayloadEvent.platform : PayloadEvent C B β σ → Platform C B β σ
  | .transformCaps p _ _ _ | .prepare p _ | .transform p _ _ | .transformInPlace p _ => p

/-- Whether the callback is a transform, which updates the store. -/
def PayloadEvent.updates : PayloadEvent C B β σ → Bool
  | .transform _ _ _ | .transformInPlace _ _ => true
  | _ => false

/-- The buffer a transform callback hands on. -/
def PayloadEvent.outbuf : PayloadEvent C B β σ → Option B
  | .transform _ _ outbuf => some outbuf
  | .transformInPlace _ buffer => some buffer
  | _ => none

section
variable [DecidableEq B]

def payloadCall (s : PayloadState C B β σ) : PayloadEvent C B β σ → PayloadReply B × PayloadState C B β σ
  | .transformCaps p direction caps filter =>
    let (ret, self, world) := svpPayloadTransformCaps p s.self s.world direction caps filter
    (.caps ret, ⟨self, world⟩)
  | .prepare p inbuf =>
    let (result, outbuf, world) := svpPayloadPrepareOutputBuffer p s.self s.world inbuf
    (.prepared result outbuf, ⟨s.self, world⟩)
  | .transform p inbuf outbuf =>
    let (result, self, world) := svpPayloadTransform p s.self s.world inbuf outbuf
    (.transformed result, ⟨self, world⟩)
  | .transformInPlace p buffer =>
    let (result, self, world) := svpPayloadTransformInPlace p s.self s.world buffer
    (.transformed result, ⟨self, world⟩)

def payloadStep (s : PayloadState C B β σ) (e : PayloadEvent C B β σ) : PayloadState C B β σ :=
  (payloadCall s e).2

def payloadRun (s : PayloadState C B β σ) (es : List (PayloadEvent C B β σ)) : PayloadState C B β σ :=
  es.foldl payloadStep s

@[simp] theorem payloadRun_cons (s : PayloadState C B β σ) (e : PayloadEvent C B β σ)
    (es : List (PayloadEvent C B β σ)) : payloadRun s (e :: es) = payloadRun (payloadStep s e) es := rfl

/-- A new element. -/
def payloadInit (p : Platform C B β σ) (w : PayloadWorld C B β σ) : PayloadState C B β σ :=
  let (self, world) := svpPayloadInit p w
  ⟨self, world⟩

/-- The calls a callback makes. -/
def newCalls (s : PayloadState C B β σ) (e : PayloadEvent C B β σ) : List (PlatformCall C B) :=
  (payloadStep s e).world.calls.drop s.world.calls.length

/-- The flag as an event leaves it. -/
def PayloadEvent.flag (e : PayloadEvent C B β σ) (flag : Bool) : Bool :=
  match e with
  | .transformCaps _ direction caps _ => capsFlag direction caps flag
  | _ => flag

theorem transform_self (p : Platform C B β σ) (self : SvpPayload C) (w : PayloadWorld C B β σ) (inbuf outbuf : B) :
    (svpPayloadTransform p self w inbuf outbuf).2.1 =
        { self with priv := updatePriv p self.priv w.store self.decryptToHostEnabled } ∧
      (svpPayloadTransform p self w inbuf outbuf).2.2.store =
        updateStore p self.priv w.store self.decryptToHostEnabled := by
  rw [svpPayloadTransform, protectBuffer_eq]
  dsimp only
  split <;> exact ⟨rfl, rfl⟩

/-- Only caps calls write the flag, and nothing writes the in-place mode or the context. -/
theorem payloadStep_self (s : PayloadState C B β σ) (e : PayloadEvent C B β σ) :
    (payloadStep s e).self.decryptToHostEnabled = e.flag s.self.decryptToHostEnabled ∧
      (payloadStep s e).self.inPlace = s.self.inPlace ∧
      (payloadStep s e).self.priv.svpCtx = s.self.priv.svpCtx := by
  cases e with
  | transformCaps p direction caps filter =>
    have h := (transformCaps_frame p s.self s.world direction caps filter).1
    simp only [payloadStep, payloadCall, h, PayloadEvent.flag, and_self]
  | prepare p inbuf => exact ⟨rfl, rfl, rfl⟩
  | transform p inbuf outbuf =>
    simp only [payloadStep, payloadCall, transform_self, updatePriv_svpCtx, PayloadEvent.flag, and_self]
  | transformInPlace p buffer =>
    simp only [payloadStep, payloadCall, transformInPlace_eq, transform_self, updatePriv_svpCtx,
      PayloadEvent.flag, and_self]

/-- Only transforms write the cache and the store, through the update with the flag. -/
theorem payloadStep_update (s : PayloadState C B β σ) (e : PayloadEvent C B β σ) :
    (payloadStep s e).self.priv = (if e.updates then
        updatePriv e.platform s.self.priv s.world.store s.self.decryptToHostEnabled else s.self.priv) ∧
      (payloadStep s e).world.store = (if e.updates then
        updateStore e.platform s.self.priv s.world.store s.self.decryptToHostEnabled else s.world.store) := by
  cases e with
  | transformCaps p direction caps filter =>
    obtain ⟨h1, -, h3⟩ := transformCaps_frame p s.self s.world direction caps filter
    simp only [payloadStep, payloadCall, h1, h3]
    exact ⟨rfl, rfl⟩
  | prepare p inbuf => exact ⟨rfl, prepare_frame p s.self s.world inbuf⟩
  | transform p inbuf outbuf =>
    simp only [payloadStep, payloadCall, transform_self]
    exact ⟨rfl, rfl⟩
  | transformInPlace p buffer =>
    simp only [payloadStep, payloadCall, transformInPlace_eq, transform_self]
    exact ⟨rfl, rfl⟩

theorem payloadCall_inPlace (s : PayloadState C B β σ) (p : Platform C B β σ) (buffer : B) :
    payloadCall s (.transformInPlace p buffer) = payloadCall s (.transform p buffer buffer) := by
  simp only [payloadCall, transformInPlace_eq]

/-- The calls of a transform: the update's, the question about `inbuf`, and the conversion. -/
theorem newCalls_transform (s : PayloadState C B β σ) (p : Platform C B β σ) (inbuf outbuf : B) :
    newCalls s (.transform p inbuf outbuf) =
      updateCalls p s.self.priv s.world.store s.self.decryptToHostEnabled ++
        .isBufferUsingSecureMemory s.self.priv.svpCtx inbuf (p.isSecure s.self.priv.svpCtx (s.world.bufs inbuf)) ::
          if p.isSecure s.self.priv.svpCtx (s.world.bufs inbuf) || s.self.decryptToHostEnabled then []
          else [.transformFromCleardata s.self.priv.svpCtx outbuf
            (p.fromCleardata s.self.priv.svpCtx (s.world.bufs outbuf)).1] := by
  simp only [newCalls, payloadStep, payloadCall, svpPayloadTransform, protectBuffer_eq]
  split <;> simp

/-- What a transform returns. -/
theorem transform_result (s : PayloadState C B β σ) (p : Platform C B β σ) (inbuf outbuf : B) :
    (payloadCall s (.transform p inbuf outbuf)).1 = .transformed
      (if p.isSecure s.self.priv.svpCtx (s.world.bufs inbuf) || s.self.decryptToHostEnabled then
        if inbuf = outbuf then .ok else .error
      else if (p.fromCleardata s.self.priv.svpCtx (s.world.bufs outbuf)).1 then .ok else .error) := by
  simp only [payloadCall, svpPayloadTransform, protectBuffer_eq]
  split <;> rfl

end

/-- A plain platform to run the element on: a buffer holds whether it is secure, a copy of it is buffer
9, the process store holds one value, and everything succeeds. -/
def plainPlatform : Platform Unit Nat Bool (Option (List UInt8)) where
  isSecure _ secure := secure
  fromCleardata _ _ := (true, true)
  bufferCopy secure := (9, secure)
  prepareParent inbuf secure := (.ok, some (inbuf, secure))
  processors := [⟨"decryptToHost", 4, none, some fun _ _ value _ => (true, value, some value)⟩]
  transformCaps caps := (true, caps)
  transformCapsClear _ caps := caps
  intersectFirst caps _ := caps
  getContext := some ()
  buffersAvailable _ := true
  changeStateParent := .success

/-- Clear buffers, and nothing called or stored yet. -/
def plainWorld : PayloadWorld Unit Nat Bool (Option (List UInt8)) := ⟨fun _ => false, none, []⟩

/-- Caps whose one structure has `decrypt-to-host=true`. -/
def hostCaps : Option GstCaps := some [⟨"video/x-h264", [("decrypt-to-host", .boolean true)]⟩]

/-- Caps without `decrypt-to-host`. -/
def protectedCaps : Option GstCaps := some [⟨"video/x-h264", []⟩]

end GstSvpExt
