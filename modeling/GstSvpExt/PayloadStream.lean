import GstSvpExt.PayloadContext
import GstSvpExt.PayloadPaths

/-!
# The payloader as a stream transformer (`plugins/gst-svp-payload.cpp:136-306`)

| here | there |
| --- | --- |
| `StreamEvent.caps`   | `svpPayloadTransformCaps` (`:223-263`) |
| `StreamEvent.buffer` | `svpPayloadPrepareOutputBuffer`, then the transform of the mode (`:136-187`, `:203-221`) |
| `StreamEvent.change` | `svpPayloadChangeState` (`:278-306`) |

A stream is what GStreamer does to one element: caps, buffers and state changes in any order, the mode of
the base transform set anew for every buffer. `PayloadView` forgets the buffers, the mode and the calls, and
`PayloadView.reply` says what the element answers from the view alone. `stream_refines` is that the element's
answers are these, so neither the mode nor the buffers used can be told from outside.
-/

namespace GstSvpExt

variable {C B β σ : Type}

/-! ## Streams -/

/-- What reaches the element, with what the platform does meanwhile. A buffer arrives with its contents. -/
inductive StreamEvent (C B β σ : Type)
  | caps (p : Platform C B β σ) (direction : GstPadDirection) (caps filter : Option GstCaps)
  | buffer (p : Platform C B β σ) (inPlace : Bool) (inbuf : B) (contents : β)
  | change (p : Platform C B β σ) (transition : GstStateChange)

/-- What GStreamer gets: caps, the flow with what the buffer handed on holds, or a change's result. -/
inductive StreamReply (β : Type)
  | caps (ret : Option GstCaps)
  | buffer (flow : GstFlowReturn) (contents : Option β)
  | change (result : GstStateChangeReturn)

section
variable [DecidableEq B]

def streamCall (s : PayloadState C B β σ) : StreamEvent C B β σ → StreamReply β × PayloadState C B β σ
  | .caps p direction caps filter =>
    let (ret, self, world) := svpPayloadTransformCaps p s.self s.world direction caps filter
    (.caps ret, ⟨self, world⟩)
  | .buffer p inPlace inbuf contents =>
    let world := { s.world with bufs := Function.update s.world.bufs inbuf contents }
    let r := bufferPath inPlace p s.self world inbuf
    (.buffer r.flow (r.outbuf.map r.world.bufs), ⟨r.self, r.world⟩)
  | .change p transition =>
    let (result, self, world) := svpPayloadChangeState p s.self s.world transition
    (.change result, ⟨self, world⟩)

/-- The replies of a stream, and the state after it. -/
def streamRun (s : PayloadState C B β σ) : List (StreamEvent C B β σ) → List (StreamReply β) × PayloadState C B β σ
  | [] => ([], s)
  | e :: es =>
    let (reply, s) := streamCall s e
    let (replies, s) := streamRun s es
    (reply :: replies, s)

end

/-! ## What can be told from outside -/

/-- The element without its buffers, its mode and its calls. -/
structure PayloadView (C σ : Type) where
  priv : SvpPayloadPrivate C
  decryptToHostEnabled : Bool
  store : σ

def PayloadState.view (s : PayloadState C B β σ) : PayloadView C σ :=
  ⟨s.self.priv, s.self.decryptToHostEnabled, s.world.store⟩

/-- The caps of a direction, from the context alone. -/
def capsSpec (p : Platform C B β σ) (svpCtx : Option C) (direction : GstPadDirection) (caps filter : Option GstCaps) :
    Option GstCaps :=
  match direction with
  | .unknown => none
  | .src => filterCaps p (p.transformCapsClear svpCtx caps) filter
  | .sink =>
    if hasDecryptToHost caps then filterCaps p caps filter
    else if (p.transformCaps caps).1 then filterCaps p (p.transformCaps caps).2 filter
    else none

/-- The context after a state change. -/
def contextAfter (p : Platform C B β σ) (transition : GstStateChange) (svpCtx : Option C) : Option C :=
  if transition = ⟨.ready, .null⟩ then none
  else if transition = ⟨.null, .ready⟩ then svpCtx.or p.getContext
  else svpCtx

/-- What the element answers. For a buffer this is `protectSpec`, whatever the mode. -/
def PayloadView.reply (v : PayloadView C σ) : StreamEvent C B β σ → StreamReply β
  | .caps p direction caps filter => .caps (capsSpec p v.priv.svpCtx direction caps filter)
  | .buffer p _ _ contents =>
    let (flow, contents) := protectSpec p ⟨v.priv, v.decryptToHostEnabled, false⟩ contents
    .buffer flow (some contents)
  | .change p _ => .change p.changeStateParent

/-- Caps write the flag, buffers the cache and the store, and state changes the context. -/
def PayloadView.after (v : PayloadView C σ) : StreamEvent C B β σ → PayloadView C σ
  | .caps _ direction caps _ => { v with decryptToHostEnabled := capsFlag direction caps v.decryptToHostEnabled }
  | .buffer p _ _ _ =>
    { v with
      priv := updatePriv p v.priv v.store v.decryptToHostEnabled
      store := updateStore p v.priv v.store v.decryptToHostEnabled }
  | .change p transition =>
    { v with priv := { v.priv with svpCtx := contextAfter p transition v.priv.svpCtx } }

def PayloadView.replies (v : PayloadView C σ) : List (StreamEvent C B β σ) → List (StreamReply β)
  | [] => []
  | e :: es => v.reply e :: (v.after e).replies es

/-- Copies, and what the parent class prepares, hold what the buffer holds. -/
def StreamEvent.Faithful : StreamEvent C B β σ → Prop
  | .buffer p _ inbuf contents => YieldsEqualContents p inbuf contents
  | _ => True

/-! ## Refinement -/

section
variable [DecidableEq B]

omit [DecidableEq B] in
theorem transformCaps_reply (p : Platform C B β σ) (self : SvpPayload C) (w : PayloadWorld C B β σ)
    (direction : GstPadDirection) (caps filter : Option GstCaps) :
    (svpPayloadTransformCaps p self w direction caps filter).1 = capsSpec p self.priv.svpCtx direction caps filter := by
  cases direction with
  | unknown => rfl
  | src => rfl
  | sink =>
    simp only [svpPayloadTransformCaps, capsSpec, reduceCtorEq, if_false, if_true]
    by_cases hhost : hasDecryptToHost caps = true
    · simp only [hhost, Bool.true_eq_false, if_false, if_true]
    · simp only [Bool.not_eq_true _ ▸ hhost, if_true, Bool.false_eq_true, if_false]
      split <;> rfl

omit [DecidableEq B] in
theorem changeState_view (p : Platform C B β σ) (self : SvpPayload C) (w : PayloadWorld C B β σ)
    (transition : GstStateChange) :
    (svpPayloadChangeState p self w transition).1 = p.changeStateParent ∧
      (svpPayloadChangeState p self w transition).2.1 =
        { self with priv := { self.priv with svpCtx := contextAfter p transition self.priv.svpCtx } } ∧
      (svpPayloadChangeState p self w transition).2.2.store = w.store := by
  by_cases hdown : transition = ⟨.ready, .null⟩
  · subst hdown
    simp [svpPayloadChangeState, contextAfter]
  · by_cases hup : transition = ⟨.null, .ready⟩
    · subst hup
      cases hctx : self.priv.svpCtx with
      | none => simp [svpPayloadChangeState, contextAfter, hctx]
      | some c =>
        simp only [svpPayloadChangeState, contextAfter, hctx, hdown, Option.isNone_some, Bool.false_eq_true, and_false,
          if_false, if_true, Option.some_or, true_and, and_true]
        rw [← hctx]
    · simp [svpPayloadChangeState, contextAfter, hdown, hup]

/-- No buffer writes the flag. -/
theorem bufferPath_flag (inPlace : Bool) (p : Platform C B β σ) (self : SvpPayload C) (w : PayloadWorld C B β σ)
    (inbuf : B) :
    (bufferPath inPlace p self w inbuf).self.decryptToHostEnabled = self.decryptToHostEnabled := by
  unfold bufferPath
  dsimp only
  split
  · simp only [transformInPlace_eq]
    split <;> simp only [transform_self]
  · rfl

/-- One event. A buffer is the work of `bufferPath_spec`. -/
theorem streamCall_refines (s : PayloadState C B β σ) {e : StreamEvent C B β σ} (he : e.Faithful) :
    (streamCall s e).1 = s.view.reply e ∧ (streamCall s e).2.view = s.view.after e := by
  cases e with
  | caps p direction caps filter =>
    obtain ⟨hself, -, hstore⟩ := transformCaps_frame p s.self s.world direction caps filter
    refine ⟨congrArg StreamReply.caps (transformCaps_reply p s.self s.world direction caps filter), ?_⟩
    simp only [streamCall, PayloadState.view, hself, hstore, PayloadView.after]
  | buffer p inPlace inbuf contents =>
    have hin : Function.update s.world.bufs inbuf contents inbuf = contents := Function.update_self ..
    obtain ⟨outbuf, hkept⟩ := bufferPath_spec
      (w := ⟨Function.update s.world.bufs inbuf contents, s.world.store, s.world.calls⟩) inPlace s.self (hin.symm ▸ he)
    constructor
    · simp only [streamCall, hkept.flow, hkept.output, Option.map_some, hkept.contents, hin]
      rfl
    · simp only [streamCall, PayloadState.view, bufferPath_flag, hkept.priv, hkept.store, PayloadView.after]
  | change p transition =>
    obtain ⟨hresult, hself, hstore⟩ := changeState_view p s.self s.world transition
    refine ⟨congrArg StreamReply.change hresult, ?_⟩
    simp only [streamCall, PayloadState.view, hself, hstore, PayloadView.after]

/-- **The element is its view.** Over any stream of caps, buffers and state changes, with the mode chosen
anew for every buffer, the element answers what the view answers and ends in the state the view ends in. -/
theorem stream_refines (s : PayloadState C B β σ) (es : List (StreamEvent C B β σ)) (hes : ∀ e ∈ es, e.Faithful) :
    (streamRun s es).1 = s.view.replies es ∧ (streamRun s es).2.view = es.foldl PayloadView.after s.view := by
  induction es generalizing s with
  | nil => exact ⟨rfl, rfl⟩
  | cons e es ih =>
    obtain ⟨hreply, hview⟩ := streamCall_refines s (hes e List.mem_cons_self)
    obtain ⟨hreplies, hend⟩ := ih (streamCall s e).2 fun f hf => hes f (List.mem_cons_of_mem _ hf)
    rw [hview] at hreplies hend
    exact ⟨congrArg₂ List.cons hreply hreplies, hend⟩

end

/-- Clear buffers before and after caps for the host, one in either mode. -/
theorem stream_refines_caps :
    (streamRun (payloadInit plainPlatform plainWorld) [.buffer plainPlatform false 0 false,
        .caps plainPlatform .sink hostCaps none, .buffer plainPlatform true 1 false]).1 =
      (payloadInit plainPlatform plainWorld).view.replies [.buffer plainPlatform false 0 false,
        .caps plainPlatform .sink hostCaps none, .buffer plainPlatform true 1 false] ∧
    (streamRun (payloadInit plainPlatform plainWorld) [.buffer plainPlatform false 0 false,
        .caps plainPlatform .sink hostCaps none, .buffer plainPlatform true 1 false]).2.view =
      [StreamEvent.buffer plainPlatform false 0 false, .caps plainPlatform .sink hostCaps none,
        .buffer plainPlatform true 1 false].foldl PayloadView.after (payloadInit plainPlatform plainWorld).view := by
  refine stream_refines _ _ ?_
  simp only [List.mem_cons, List.not_mem_nil, or_false]
  rintro e (rfl | rfl | rfl)
  · exact plainPlatform_yields (by decide) false
  · trivial
  · exact plainPlatform_yields (by decide) false

end GstSvpExt
