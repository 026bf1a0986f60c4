import GstSvpExt.PayloadRun
import GstSvpExt.Runs

/-!
# Prepare and transform on one buffer

In the mode `svp_payload_init` sets, every buffer goes through `svpPayloadPrepareOutputBuffer` and then
`svpPayloadTransform`, with caps calls before, after and between. Both decide from the flag whether the
buffer passes through, and a caps call between them may rewrite it. `agrees_iff` says for one buffer
when the two decisions agree, `prepare_transform_agree` for every buffer of a run.
-/

namespace GstSvpExt

variable {C B β σ : Type}

/-- A call of `svpPayloadTransformCaps`. -/
structure CapsCall (C B β σ : Type) where
  platform : Platform C B β σ
  direction : GstPadDirection
  caps : Option GstCaps
  filter : Option GstCaps

def CapsCall.event (c : CapsCall C B β σ) : PayloadEvent C B β σ :=
  .transformCaps c.platform c.direction c.caps c.filter

/-- The flag after caps calls. -/
def flagAfter (calls : List (CapsCall C B β σ)) (flag : Bool) : Bool :=
  calls.foldl (fun flag c => capsFlag c.direction c.caps flag) flag

/-- A caps call, or a buffer: prepared on one platform, with caps calls before it is transformed on
another. -/
inductive PairItem (C B β σ : Type)
  | caps (call : CapsCall C B β σ)
  | buffer (prepare : Platform C B β σ) (inbuf : B) (between : List (CapsCall C B β σ))
      (transform : Platform C B β σ)

section
variable [DecidableEq B]

/-- The state in which the buffer is transformed, and the `outbuf` it is transformed to, if prepare
handed one back. -/
def prepared (s : PayloadState C B β σ) (prepare : Platform C B β σ) (inbuf : B)
    (between : List (CapsCall C B β σ)) : Option (PayloadState C B β σ × B) :=
  match payloadCall s (.prepare prepare inbuf) with
  | (.prepared .ok (some outbuf), s) => some (payloadRun s (between.map CapsCall.event), outbuf)
  | _ => none

def pairStep (s : PayloadState C B β σ) : PairItem C B β σ → Option (PayloadState C B β σ)
  | .caps call => some (payloadStep s call.event)
  | .buffer prepare inbuf between transform =>
    (prepared s prepare inbuf between).map fun (s, outbuf) => payloadStep s (.transform transform inbuf outbuf)

/-- The copy is a new buffer, the buffer is as secure at its transform as it was at its prepare, and the
conversion succeeds. -/
def PairLegal (s : PayloadState C B β σ) : PairItem C B β σ → Prop
  | .caps _ => True
  | .buffer prepare inbuf _ transform =>
    (prepare.bufferCopy (s.world.bufs inbuf)).1 ≠ inbuf ∧
      transform.isSecure s.self.priv.svpCtx (s.world.bufs inbuf) =
        prepare.isSecure s.self.priv.svpCtx (s.world.bufs inbuf) ∧
      ∀ contents, (transform.fromCleardata s.self.priv.svpCtx contents).1 = true

/-- The transform converts nothing. -/
def PassesThrough (s : PayloadState C B β σ) (e : PayloadEvent C B β σ) : Prop :=
  ∀ c buf ok, .transformFromCleardata c buf ok ∉ newCalls s e

/-- The transform returns `GST_FLOW_OK`, and passes the buffer through exactly if prepare handed the
input back. -/
def PairAgrees (s : PayloadState C B β σ) : PairItem C B β σ → Prop
  | .caps _ => True
  | .buffer prepare inbuf between transform =>
    ∃ s' outbuf, prepared s prepare inbuf between = some (s', outbuf) ∧
      (payloadCall s' (.transform transform inbuf outbuf)).1 = .transformed .ok ∧
      (PassesThrough s' (.transform transform inbuf outbuf) ↔ outbuf = inbuf)

/-- The buffer is secure, or the caps calls between leave the flag as prepare found it. -/
def FlagKept (s : PayloadState C B β σ) : PairItem C B β σ → Prop
  | .caps _ => True
  | .buffer prepare inbuf between _ =>
    prepare.isSecure s.self.priv.svpCtx (s.world.bufs inbuf) = true ∨
      flagAfter between s.self.decryptToHostEnabled = s.self.decryptToHostEnabled

/-- Caps calls change the flag only. -/
theorem capsRun_frame (s : PayloadState C B β σ) (calls : List (CapsCall C B β σ)) :
    (payloadRun s (calls.map CapsCall.event)).self =
        { s.self with decryptToHostEnabled := flagAfter calls s.self.decryptToHostEnabled } ∧
      (payloadRun s (calls.map CapsCall.event)).world.bufs = s.world.bufs := by
  induction calls generalizing s with
  | nil => exact ⟨rfl, rfl⟩
  | cons c calls ih =>
    obtain ⟨h1, h2, -⟩ := transformCaps_frame c.platform s.self s.world c.direction c.caps c.filter
    have hself : (payloadStep s c.event).self =
        { s.self with decryptToHostEnabled := capsFlag c.direction c.caps s.self.decryptToHostEnabled } := h1
    have hbufs : (payloadStep s c.event).world.bufs = s.world.bufs := h2
    obtain ⟨ih1, ih2⟩ := ih (payloadStep s c.event)
    refine ⟨?_, ?_⟩
    · rw [List.map_cons, payloadRun_cons, ih1, hself]; rfl
    · rw [List.map_cons, payloadRun_cons, ih2, hbufs]

/-- Prepare, outside the in-place mode: a passthrough hands the input back, otherwise a copy. -/
theorem prepare_spec {s : PayloadState C B β σ} (hip : s.self.inPlace = false) {p : Platform C B β σ}
    {inbuf : B} (hcopy : (p.bufferCopy (s.world.bufs inbuf)).1 ≠ inbuf) :
    ∃ w, payloadCall s (.prepare p inbuf) = (.prepared .ok (some
        (if p.isSecure s.self.priv.svpCtx (s.world.bufs inbuf) || s.self.decryptToHostEnabled then inbuf
        else (p.bufferCopy (s.world.bufs inbuf)).1)), ⟨s.self, w⟩) ∧
      w.bufs inbuf = s.world.bufs inbuf := by
  simp only [payloadCall, svpPayloadPrepareOutputBuffer, hip]
  split
  · exact ⟨_, rfl, rfl⟩
  · exact ⟨_, rfl, Function.update_of_ne hcopy.symm _ _⟩

theorem prepared_spec {s : PayloadState C B β σ} (hip : s.self.inPlace = false) {p : Platform C B β σ}
    {inbuf : B} (hcopy : (p.bufferCopy (s.world.bufs inbuf)).1 ≠ inbuf) (between : List (CapsCall C B β σ)) :
    ∃ s', prepared s p inbuf between = some (s',
        if p.isSecure s.self.priv.svpCtx (s.world.bufs inbuf) || s.self.decryptToHostEnabled then inbuf
        else (p.bufferCopy (s.world.bufs inbuf)).1) ∧
      s'.self = { s.self with decryptToHostEnabled := flagAfter between s.self.decryptToHostEnabled } ∧
      s'.world.bufs inbuf = s.world.bufs inbuf := by
  obtain ⟨w, hcall, hbuf⟩ := prepare_spec hip hcopy
  obtain ⟨h1, h2⟩ := capsRun_frame ⟨s.self, w⟩ between
  exact ⟨_, by simp only [prepared, hcall], h1, (congrFun h2 inbuf).trans hbuf⟩

/-- A transform passes through exactly on a secure input or under the flag. -/
theorem passesThrough_iff (s : PayloadState C B β σ) (p : Platform C B β σ) (inbuf outbuf : B) :
    PassesThrough s (.transform p inbuf outbuf) ↔
      (p.isSecure s.self.priv.svpCtx (s.world.bufs inbuf) || s.self.decryptToHostEnabled) = true := by
  have hupd : ∀ c buf ok,
      .transformFromCleardata c buf ok ∉ updateCalls p s.self.priv s.world.store s.self.decryptToHostEnabled := by
    intro c buf ok
    unfold updateCalls
    split <;> simp
  rw [PassesThrough, newCalls_transform]
  cases h : (p.isSecure s.self.priv.svpCtx (s.world.bufs inbuf) || s.self.decryptToHostEnabled) with
  | true =>
    simp only [if_true, iff_true]
    intro c buf ok hin
    rcases List.mem_append.1 hin with hin | hin
    · exact hupd c buf ok hin
    · simp at hin
  | false =>
    simp only [Bool.false_eq_true, if_false, iff_false]
    exact fun hn => hn s.self.priv.svpCtx outbuf _
      (List.mem_append_right _ (List.mem_cons_of_mem _ List.mem_cons_self))

/-- **One buffer.** Its two decisions agree exactly if it is secure or its flag is kept. -/
theorem agrees_iff {s : PayloadState C B β σ} {item : PairItem C B β σ} (hip : s.self.inPlace = false)
    (hl : PairLegal s item) : PairAgrees s item ↔ FlagKept s item := by
  cases item with
  | caps call => exact Iff.rfl
  | buffer prepare inbuf between transform =>
    obtain ⟨hcopy, hstable, hconv⟩ := hl
    obtain ⟨s', hprep, hself, hbuf⟩ := prepared_spec hip hcopy between
    have hsec : transform.isSecure s'.self.priv.svpCtx (s'.world.bufs inbuf) =
        prepare.isSecure s.self.priv.svpCtx (s.world.bufs inbuf) := by
      rw [hbuf, hself]; exact hstable
    simp only [PairAgrees, hprep, Option.some.injEq, Prod.mk.injEq, FlagKept]
    constructor
    · rintro ⟨_, _, ⟨rfl, rfl⟩, hok, hpass⟩
      rw [passesThrough_iff, hsec, hself] at hpass
      rw [transform_result, hsec, hself] at hok
      by_cases hs : prepare.isSecure s.self.priv.svpCtx (s.world.bufs inbuf) = true
      · exact Or.inl hs
      · rw [Bool.not_eq_true] at hs
        simp only [hs, Bool.false_or] at hpass
        refine Or.inr ?_
        cases hf : s.self.decryptToHostEnabled with
        | true => simpa [hf] using hpass
        | false => simpa [hf, hcopy] using hpass
    · intro hkept
      refine ⟨s', _, ⟨rfl, rfl⟩, ?_, ?_⟩
      · rw [transform_result, hsec, hself]
        rcases hkept with hs | hf
        · simp [hs]
        · rw [hf]
          cases hb : (prepare.isSecure s.self.priv.svpCtx (s.world.bufs inbuf) || s.self.decryptToHostEnabled) <;>
            simp [hconv]
      · rw [passesThrough_iff, hsec, hself]
        rcases hkept with hs | hf
        · simp [hs]
        · rw [hf]
          cases hb : (prepare.isSecure s.self.priv.svpCtx (s.world.bufs inbuf) || s.self.decryptToHostEnabled) <;>
            simp [hcopy]

theorem pairStep_inPlace {s s' : PayloadState C B β σ} {item : PairItem C B β σ}
    (hip : s.self.inPlace = false) (hl : PairLegal s item) (hs : pairStep s item = some s') :
    s'.self.inPlace = false := by
  cases item with
  | caps call =>
    rw [pairStep, Option.some.injEq] at hs
    rw [← hs, (payloadStep_self s call.event).2.1, hip]
  | buffer prepare inbuf between transform =>
    obtain ⟨s1, hprep, hself, -⟩ := prepared_spec hip hl.1 between
    rw [pairStep, hprep, Option.map_some, Option.some.injEq] at hs
    rw [← hs, (payloadStep_self s1 _).2.1, hself]
    exact hip

/-- **Prepare and transform agree** on every buffer of a run if and only if no caps call between the
two changes the flag for a buffer outside secure memory. -/
theorem prepare_transform_agree (p₀ : Platform C B β σ) (w₀ : PayloadWorld C B β σ)
    (items : List (PairItem C B β σ)) (hlegal : Runs.Along pairStep PairLegal (payloadInit p₀ w₀) items) :
    Runs.Along pairStep PairAgrees (payloadInit p₀ w₀) items ↔
      Runs.Along pairStep FlagKept (payloadInit p₀ w₀) items :=
  Runs.along_congr (I := fun s => s.self.inPlace = false)
    (fun _ _ _ hi hl _ hs => pairStep_inPlace hi hl hs) (fun _ _ hi hl => agrees_iff hi hl) rfl hlegal

end

/-- A clear buffer whose caps stay without `decrypt-to-host`. -/
theorem prepare_transform_agree_clear :
    Runs.Along pairStep PairAgrees (payloadInit plainPlatform plainWorld)
      [.buffer plainPlatform 0 [⟨plainPlatform, .src, protectedCaps, none⟩] plainPlatform] := by
  refine (prepare_transform_agree plainPlatform plainWorld _ ?_).2 ?_
  · exact ⟨⟨by decide, rfl, fun _ => rfl⟩, fun _ _ => trivial⟩
  · exact ⟨Or.inr rfl, fun _ _ => trivial⟩

/-- A caps call with `decrypt-to-host=true` between the two: the transform fails on the copy. -/
theorem prepare_transform_disagree :
    ¬ ∀ items : List (PairItem Unit Nat Bool (Option (List UInt8))),
      Runs.Along pairStep PairLegal (payloadInit plainPlatform plainWorld) items →
        Runs.Along pairStep PairAgrees (payloadInit plainPlatform plainWorld) items := by
  intro h
  obtain ⟨⟨s', outbuf, hprep, hok, -⟩, -⟩ := h
    [.buffer plainPlatform 0 [⟨plainPlatform, .src, hostCaps, none⟩] plainPlatform]
    ⟨⟨by decide, rfl, fun _ => rfl⟩, fun _ _ => trivial⟩
  cases hprep
  revert hok
  decide

end GstSvpExt
