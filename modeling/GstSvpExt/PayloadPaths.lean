import GstSvpExt.PayloadRun

/-!
# The copy path and the in-place path of one buffer

The base class asks for an output buffer and then calls `transform` or `transform_ip`, by the in-place
mode. `protectSpec` is what the element is for: a buffer that is secure, or that may go to the host, is
handed on as it is, any other is converted. `bufferPath_spec` refines it by either path, and
`paths_agree` puts the two beside each other.
-/

namespace GstSvpExt

variable {C B β σ : Type}

/-- The element hands a buffer on as it is. -/
def passesThrough (p : Platform C B β σ) (self : SvpPayload C) (contents : β) : Bool :=
  p.isSecure self.priv.svpCtx contents || self.decryptToHostEnabled

/-- What becomes of a buffer that holds `contents`: the flow returned, and what the output holds. -/
def protectSpec (p : Platform C B β σ) (self : SvpPayload C) (contents : β) : GstFlowReturn × β :=
  if passesThrough p self contents then (.ok, contents)
  else
    let (ok, converted) := p.fromCleardata self.priv.svpCtx contents
    (if ok then .ok else .error, converted)

/-- `gst_buffer_copy` gives another buffer, the parent class a writable one, each with what the input holds. -/
structure YieldsEqualContents (p : Platform C B β σ) (inbuf : B) (contents : β) : Prop where
  copy : (p.bufferCopy contents).1 ≠ inbuf ∧ (p.bufferCopy contents).2 = contents
  parent : ∃ outbuf, p.prepareParent inbuf contents = (.ok, some (outbuf, contents))

/-- The outcome of one buffer. -/
structure PathResult (C B β σ : Type) where
  flow : GstFlowReturn
  outbuf : Option B
  self : SvpPayload C
  world : PayloadWorld C B β σ

section
variable [DecidableEq B]

/-- The path converted its output, the buffer `outbuf`, by a call that was not among `before`. -/
def PathResult.Converts (r : PathResult C B β σ) (before : List (PlatformCall C B)) (svpCtx : Option C)
    (outbuf : B) : Prop :=
  ∃ ok, .transformFromCleardata svpCtx outbuf ok ∈ r.world.calls.drop before.length

/-- One buffer in one mode, with no other callback in between. -/
def bufferPath (inPlace : Bool) (p : Platform C B β σ) (self : SvpPayload C) (w : PayloadWorld C B β σ)
    (inbuf : B) : PathResult C B β σ :=
  let self := { self with inPlace }
  match svpPayloadPrepareOutputBuffer p self w inbuf with
  | (.ok, some outbuf, w) =>
    let (flow, self, w) :=
      if inPlace then svpPayloadTransformInPlace p self w outbuf else svpPayloadTransform p self w inbuf outbuf
    ⟨flow, some outbuf, self, w⟩
  | (flow, outbuf, w) => ⟨flow, outbuf, self, w⟩

/-- What one path does to a buffer and to the element. -/
structure PathKept (inPlace : Bool) (p : Platform C B β σ) (element : SvpPayload C) (w : PayloadWorld C B β σ)
    (inbuf outbuf : B) (r : PathResult C B β σ) : Prop where
  output : r.outbuf = some outbuf
  flow : r.flow = (protectSpec p element (w.bufs inbuf)).1
  contents : r.world.bufs outbuf = (protectSpec p element (w.bufs inbuf)).2
  passed : passesThrough p element (w.bufs inbuf) = true → outbuf = inbuf
  converted : r.Converts w.calls element.priv.svpCtx outbuf ↔ passesThrough p element (w.bufs inbuf) = false
  input : inPlace = false → r.world.bufs inbuf = w.bufs inbuf
  priv : r.self.priv = updatePriv p element.priv w.store element.decryptToHostEnabled
  store : r.world.store = updateStore p element.priv w.store element.decryptToHostEnabled

variable {p : Platform C B β σ} {self : SvpPayload C} {w : PayloadWorld C B β σ} {inbuf : B}

/-- A buffer that passes through is handed on itself, in both modes. -/
theorem bufferPath_passed (inPlace : Bool) (h : passesThrough p self (w.bufs inbuf) = true) :
    PathKept inPlace p self w inbuf inbuf (bufferPath inPlace p self w inbuf) := by
  have hp := h
  unfold passesThrough at hp
  have hprep : svpPayloadPrepareOutputBuffer p { self with inPlace } w inbuf = (.ok, some inbuf,
      { w with calls := w.calls ++ [.isBufferUsingSecureMemory self.priv.svpCtx inbuf
        (p.isSecure self.priv.svpCtx (w.bufs inbuf))] }) := by
    simp only [svpPayloadPrepareOutputBuffer, hp, if_true]
  have hpath : bufferPath inPlace p self w inbuf = ⟨.ok, some inbuf,
      { self with inPlace, priv := updatePriv p self.priv w.store self.decryptToHostEnabled },
      ⟨w.bufs, updateStore p self.priv w.store self.decryptToHostEnabled, w.calls ++
        [.isBufferUsingSecureMemory self.priv.svpCtx inbuf (p.isSecure self.priv.svpCtx (w.bufs inbuf))] ++
        updateCalls p self.priv w.store self.decryptToHostEnabled ++
        [.isBufferUsingSecureMemory self.priv.svpCtx inbuf (p.isSecure self.priv.svpCtx (w.bufs inbuf))]⟩⟩ := by
    unfold bufferPath
    simp only [hprep, transformInPlace_eq, ite_self, svpPayloadTransform, protectBuffer_eq, hp, if_true]
  have hspec : protectSpec p self (w.bufs inbuf) = (.ok, w.bufs inbuf) := by
    rw [protectSpec, if_pos h]
  rw [hpath]
  constructor
  case output => rfl
  case flow => rw [hspec]
  case contents => rw [hspec]
  case passed => exact fun _ => rfl
  case converted =>
    simp only [PathResult.Converts, h, Bool.true_eq_false, iff_false, List.append_assoc, List.drop_left]
    rintro ⟨ok, hmem⟩
    unfold updateCalls at hmem
    split at hmem <;> simp at hmem
  case input => exact fun _ => rfl
  case priv => rfl
  case store => rfl

/-- A clear buffer that is to be protected: either mode prepares a buffer that holds what the input holds. -/
theorem prepare_converted (inPlace : Bool) (heq : YieldsEqualContents p inbuf (w.bufs inbuf))
    (h : passesThrough p self (w.bufs inbuf) = false) :
    ∃ outbuf, (inPlace = false → outbuf ≠ inbuf) ∧
      svpPayloadPrepareOutputBuffer p { self with inPlace } w inbuf = (.ok, some outbuf,
        ⟨Function.update w.bufs outbuf (w.bufs inbuf), w.store, w.calls ++
          [.isBufferUsingSecureMemory self.priv.svpCtx inbuf (p.isSecure self.priv.svpCtx (w.bufs inbuf))]⟩) := by
  unfold passesThrough at h
  cases inPlace with
  | false =>
    refine ⟨_, fun _ => heq.copy.1, ?_⟩
    simp only [svpPayloadPrepareOutputBuffer, h, Bool.false_eq_true, if_false, heq.copy.2]
  | true =>
    obtain ⟨outbuf, hparent⟩ := heq.parent
    refine ⟨outbuf, fun h => absurd h (by simp), ?_⟩
    simp only [svpPayloadPrepareOutputBuffer, h, Bool.false_eq_true, if_false, if_true, hparent]

/-- The path of a buffer that is to be protected: what is asked about between the two callbacks is the
input or its copy, which hold the same. -/
theorem bufferPath_eq_converted (inPlace : Bool) (heq : YieldsEqualContents p inbuf (w.bufs inbuf))
    (h : passesThrough p self (w.bufs inbuf) = false) :
    ∃ outbuf asked, (inPlace = false → outbuf ≠ inbuf) ∧
      bufferPath inPlace p self w inbuf =
        ⟨if (p.fromCleardata self.priv.svpCtx (w.bufs inbuf)).1 then .ok else .error, some outbuf,
          { self with inPlace, priv := updatePriv p self.priv w.store self.decryptToHostEnabled },
          ⟨Function.update (Function.update w.bufs outbuf (w.bufs inbuf)) outbuf
              (p.fromCleardata self.priv.svpCtx (w.bufs inbuf)).2,
            updateStore p self.priv w.store self.decryptToHostEnabled, w.calls ++
            [.isBufferUsingSecureMemory self.priv.svpCtx inbuf (p.isSecure self.priv.svpCtx (w.bufs inbuf))] ++
            updateCalls p self.priv w.store self.decryptToHostEnabled ++
            [.isBufferUsingSecureMemory self.priv.svpCtx asked (p.isSecure self.priv.svpCtx (w.bufs inbuf))] ++
            [.transformFromCleardata self.priv.svpCtx outbuf
              (p.fromCleardata self.priv.svpCtx (w.bufs inbuf)).1]⟩⟩ := by
  obtain ⟨outbuf, hne, hprep⟩ := prepare_converted inPlace heq h
  unfold passesThrough at h
  cases inPlace with
  | false =>
    have hsame : Function.update w.bufs outbuf (w.bufs inbuf) inbuf = w.bufs inbuf :=
      Function.update_of_ne (hne rfl).symm _ _
    refine ⟨outbuf, inbuf, hne, ?_⟩
    unfold bufferPath
    simp only [hprep, Bool.false_eq_true, if_false, svpPayloadTransform, protectBuffer_eq, hsame, h,
      Function.update_self]
  | true =>
    have hsame : Function.update w.bufs outbuf (w.bufs inbuf) outbuf = w.bufs inbuf := Function.update_self _ _ _
    refine ⟨outbuf, outbuf, hne, ?_⟩
    unfold bufferPath
    simp only [hprep, if_true, transformInPlace_eq, svpPayloadTransform, protectBuffer_eq, hsame, h,
      Bool.false_eq_true, if_false]

/-- The output buffer gets the input's contents and is converted. -/
theorem bufferPath_converted (inPlace : Bool) (heq : YieldsEqualContents p inbuf (w.bufs inbuf))
    (h : passesThrough p self (w.bufs inbuf) = false) :
    ∃ outbuf, (inPlace = false → outbuf ≠ inbuf) ∧
      PathKept inPlace p self w inbuf outbuf (bufferPath inPlace p self w inbuf) := by
  obtain ⟨outbuf, asked, hne, hpath⟩ := bufferPath_eq_converted inPlace heq h
  refine ⟨outbuf, hne, ?_⟩
  generalize hconv : p.fromCleardata self.priv.svpCtx (w.bufs inbuf) = converted at hpath
  have hspec : protectSpec p self (w.bufs inbuf) = (if converted.1 then .ok else .error, converted.2) := by
    rw [protectSpec, h, hconv]
    rfl
  rw [hpath]
  constructor
  case output => rfl
  case flow => rw [hspec]
  case contents =>
    rw [hspec]
    exact Function.update_self _ _ _
  case passed => exact fun hp => absurd (h.symm.trans hp) Bool.false_ne_true
  case converted =>
    simp only [PathResult.Converts, h, iff_true, List.append_assoc, List.drop_left]
    exact ⟨converted.1, by simp⟩
  case input =>
    intro hin
    simp only [Function.update_of_ne (hne hin).symm]
  case priv => rfl
  case store => rfl

/-- Either path does what the element is for. -/
theorem bufferPath_spec (inPlace : Bool) (self : SvpPayload C) (heq : YieldsEqualContents p inbuf (w.bufs inbuf)) :
    ∃ outbuf, PathKept inPlace p self w inbuf outbuf (bufferPath inPlace p self w inbuf) := by
  cases h : passesThrough p self (w.bufs inbuf) with
  | true => exact ⟨inbuf, bufferPath_passed inPlace h⟩
  | false =>
    obtain ⟨outbuf, -, hkept⟩ := bufferPath_converted inPlace heq h
    exact ⟨outbuf, hkept⟩

/-- **The two paths agree** for every state of the element and every buffer: on the flow, on what the
output holds, and on the cache and the process store; the output is the input itself exactly where the
buffer passes through, and what its conversion gives otherwise; and copying leaves the input as it was. -/
theorem paths_agree (p : Platform C B β σ) (self : SvpPayload C) (w : PayloadWorld C B β σ) (inbuf : B)
    (heq : YieldsEqualContents p inbuf (w.bufs inbuf)) :
    ∃ outCopy outInPlace,
      let copy := bufferPath false p self w inbuf
      let inPlace := bufferPath true p self w inbuf
      let secure := p.isSecure self.priv.svpCtx (w.bufs inbuf)
      let converted := p.fromCleardata self.priv.svpCtx (w.bufs inbuf)
      copy.outbuf = some outCopy ∧ inPlace.outbuf = some outInPlace ∧
      copy.flow = inPlace.flow ∧ copy.world.bufs outCopy = inPlace.world.bufs outInPlace ∧
      copy.self.priv = inPlace.self.priv ∧ copy.world.store = inPlace.world.store ∧
      -- the input as it is, or its conversion
      (if secure || self.decryptToHostEnabled then
        copy.flow = .ok ∧ outCopy = inbuf ∧ outInPlace = inbuf ∧ copy.world.bufs outCopy = w.bufs inbuf
      else (copy.flow = .ok ↔ converted.1 = true) ∧ copy.world.bufs outCopy = converted.2) ∧
      (copy.Converts w.calls self.priv.svpCtx outCopy ↔ ¬ (secure = true ∨ self.decryptToHostEnabled = true)) ∧
      (inPlace.Converts w.calls self.priv.svpCtx outInPlace ↔
        ¬ (secure = true ∨ self.decryptToHostEnabled = true)) ∧
      copy.world.bufs inbuf = w.bufs inbuf := by
  obtain ⟨outCopy, hc⟩ := bufferPath_spec false self heq
  obtain ⟨outInPlace, hi⟩ := bufferPath_spec true self heq
  have hpass : passesThrough p self (w.bufs inbuf) = false ↔
      ¬ (p.isSecure self.priv.svpCtx (w.bufs inbuf) = true ∨ self.decryptToHostEnabled = true) := by
    rw [← Bool.or_eq_true, Bool.not_eq_true]
    rfl
  refine ⟨outCopy, outInPlace, hc.output, hi.output, hc.flow.trans hi.flow.symm,
    hc.contents.trans hi.contents.symm, hc.priv.trans hi.priv.symm, hc.store.trans hi.store.symm, ?_,
    hc.converted.trans hpass, hi.converted.trans hpass, hc.input rfl⟩
  have hflow := hc.flow
  have hcont := hc.contents
  have hpc := hc.passed
  have hpi := hi.passed
  unfold protectSpec at hflow hcont
  unfold passesThrough at hflow hcont hpc hpi
  split
  · rename_i hp
    rw [if_pos hp] at hflow hcont
    exact ⟨hflow, hpc hp, hpi hp, hcont⟩
  · rename_i hp
    rw [if_neg hp] at hflow hcont
    refine ⟨?_, hcont⟩
    rw [hflow]
    show (if (p.fromCleardata self.priv.svpCtx (w.bufs inbuf)).1 then GstFlowReturn.ok else .error) = .ok ↔ _
    split
    · rename_i hok
      exact iff_of_true rfl hok
    · rename_i hok
      exact iff_of_false GstFlowReturn.noConfusion hok

end

theorem plainPlatform_yields {inbuf : Nat} (h : inbuf ≠ 9) (secure : Bool) :
    YieldsEqualContents plainPlatform inbuf secure where
  copy := ⟨h.symm, rfl⟩
  parent := ⟨inbuf, rfl⟩

/-- A clear buffer of a new element is converted on either path. -/
theorem paths_agree_clear :
    ∃ outCopy outInPlace,
      (bufferPath false plainPlatform (svpPayloadInit plainPlatform plainWorld).1 plainWorld 0).world.bufs outCopy =
        true ∧
      (bufferPath true plainPlatform (svpPayloadInit plainPlatform plainWorld).1 plainWorld 0).world.bufs outInPlace =
        true ∧
      (bufferPath false plainPlatform (svpPayloadInit plainPlatform plainWorld).1 plainWorld 0).world.bufs 0 =
        false := by
  obtain ⟨outCopy, outInPlace, -, -, -, hsame, -, -, hout, -, -, hin⟩ := paths_agree plainPlatform
    (svpPayloadInit plainPlatform plainWorld).1 plainWorld 0 (plainPlatform_yields (by decide) _)
  exact ⟨outCopy, outInPlace, hout.2, hsame.symm.trans hout.2, hin⟩

end GstSvpExt
