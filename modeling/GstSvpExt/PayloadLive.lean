import GstSvpExt.PayloadContext
import GstSvpExt.Runs

/-!
# The payloader's calls and its SVP context

A run of one element mixes state changes, buffer and caps callbacks and property reads, in any order and
with any outcome of `gst_svp_ext_get_context`. Every call of the element passes `svpCtx`
(`elementStep_calls`), and NULL->READY returns the parent's result whether or not it got a context. So
the calls of a run pass live contexts exactly if every NULL->READY has one or gets one (`context_live`).

| here | there |
| --- | --- |
| `ElementEvent.change` | `svpPayloadChangeState` (`:278-306`) |
| `ElementEvent.callback` | the transforms (`:136-187`), `svpPayloadPrepareOutputBuffer` (`:203-221`), `svpPayloadTransformCaps` (`:223-263`) |
| `ElementEvent.getProperty` | `svp_payload_get_property` (`:117-134`) |
-/

namespace GstSvpExt

open Ledger Runs

variable {C B β σ : Type}

/-! ## Runs -/

inductive ElementEvent (C B β σ : Type)
  | change (p : Platform C B β σ) (transition : GstStateChange)
  | callback (e : PayloadEvent C B β σ)
  | getProperty (p : Platform C B β σ) (buffersAvailable : Bool)

/-- The context argument of a call that takes one. -/
def PlatformCall.context : PlatformCall C B → Option (Option C)
  | .freeContext c | .isBufferUsingSecureMemory c _ _ | .transformFromCleardata c _ _
  | .processStoreSetValue c _ _ _ | .transformCapsClear c => some c
  | .buffersAvailable c => some (some c)
  | .getContext _ | .transformCaps _ => none

/-- A change reports success unless the parent's does not. -/
def ReportsSuccess (s : ElementState C B β σ) (p : Platform C B β σ) (t : GstStateChange) : Prop :=
  (svpPayloadChangeState p s.payload.self s.payload.world t).1 ≠ .failure

/-- Every change starts from the state the element is in and goes at most one state up or down, and the
parent's change succeeds. -/
def EventLegal (s : ElementState C B β σ) : ElementEvent C B β σ → Prop
  | .change p t => t.cur = s.state ∧ t.next.level ≤ t.cur.level + 1 ∧ t.cur.level ≤ t.next.level + 1 ∧
      p.changeStateParent ≠ .failure
  | _ => True

/-- Acquired and not yet freed. -/
def Live [DecidableEq C] (calls : List (PlatformCall C B)) (c : C) : Prop :=
  (released (contextActs calls)).count (some c) < (acquired (contextActs calls)).count (some c)

/-- Whether a context is held after an event, from the outcomes of `gst_svp_ext_get_context` alone. -/
def heldNext (held : Bool) : ElementEvent C B β σ → Bool
  | .change p t => heldAfter held (p, t)
  | _ => held

/-- A NULL->READY still has a context or gets one. -/
def UpAcquires (held : Bool) (e : ElementEvent C B β σ) : Prop :=
  ∀ p, e = .change p ⟨.null, .ready⟩ → held = true ∨ p.getContext.isSome = true

/-- Every NULL->READY of the run does. -/
def EveryUpAcquires (held : Bool) (es : List (ElementEvent C B β σ)) : Prop :=
  Along (fun held e => some (heldNext held e)) UpAcquires held es

section
variable [DecidableEq B]

def elementStep (s : ElementState C B β σ) : ElementEvent C B β σ → ElementState C B β σ
  | .change p t => changeStep s (p, t)
  | .callback e => { s with payload := payloadStep s.payload e }
  | .getProperty p id =>
    { s with payload := ⟨s.payload.self, (svpPayloadGetProperty p s.payload.self s.payload.world id).2⟩ }

/-- The calls of one step. -/
def madeCalls (s : ElementState C B β σ) (e : ElementEvent C B β σ) : List (PlatformCall C B) :=
  (elementStep s e).payload.world.calls.drop s.payload.world.calls.length

/-- A successful NULL->READY leaves a live context in `svpCtx`, and in READY or above every call passes a
context that is live when the call is made. -/
structure FlowsLive [DecidableEq C] (s : ElementState C B β σ) (e : ElementEvent C B β σ) : Prop where
  up : ∀ p, e = .change p ⟨.null, .ready⟩ → ReportsSuccess s p ⟨.null, .ready⟩ →
    ∃ c, (elementStep s e).payload.self.priv.svpCtx = some c ∧ Live (elementStep s e).payload.world.calls c
  calls : s.state ≠ .null → ∀ before call after, madeCalls s e = before ++ call :: after →
    ∀ arg, call.context = some arg → ∃ c, arg = some c ∧ Live (s.payload.world.calls ++ before) c

end

/-! ## What a step calls -/

/-- Calls that pass `ctx` wherever they take a context, and acquire and free nothing. -/
structure Uses (ctx : Option C) (calls : List (PlatformCall C B)) : Prop where
  passes : ∀ call ∈ calls, ∀ arg, call.context = some arg → arg = ctx
  acts : contextActs calls = []

theorem uses_nil (ctx : Option C) : Uses ctx ([] : List (PlatformCall C B)) :=
  ⟨fun _ h => absurd h List.not_mem_nil, rfl⟩

/-- A call that takes `ctx`, or no context. -/
theorem uses_single {ctx : Option C} {call : PlatformCall C B}
    (hc : call.context = some ctx ∨ call.context = none) (ha : contextActs [call] = []) : Uses ctx [call] := by
  refine ⟨?_, ha⟩
  intro call' hm arg harg
  rw [List.mem_singleton.1 hm] at harg
  rcases hc with hc | hc
  · exact (Option.some.inj (hc.symm.trans harg)).symm
  · rw [hc] at harg
    exact absurd harg (by simp)

theorem Uses.append {ctx : Option C} {calls calls' : List (PlatformCall C B)} (h : Uses ctx calls)
    (h' : Uses ctx calls') : Uses ctx (calls ++ calls') := by
  refine ⟨?_, by rw [contextActs_append, h.acts, h'.acts, List.append_nil]⟩
  intro call hm
  rcases List.mem_append.1 hm with hm | hm
  · exact h.passes call hm
  · exact h'.passes call hm

theorem updateCalls_uses (p : Platform C B β σ) (priv : SvpPayloadPrivate C) (s : σ) (d : Bool) :
    Uses priv.svpCtx (updateCalls p priv s d : List (PlatformCall C B)) := by
  unfold updateCalls
  split
  · exact uses_nil _
  · exact uses_single (.inl rfl) rfl

section
variable [DecidableEq B]

theorem transform_uses (p : Platform C B β σ) (s : PayloadState C B β σ) (inbuf outbuf : B) :
    ∃ new, (payloadStep s (.transform p inbuf outbuf)).world.calls = s.world.calls ++ new ∧
      Uses s.self.priv.svpCtx new := by
  have hu := updateCalls_uses (B := B) p s.self.priv s.world.store s.self.decryptToHostEnabled
  have hq : Uses s.self.priv.svpCtx [PlatformCall.isBufferUsingSecureMemory s.self.priv.svpCtx inbuf
      (p.isSecure s.self.priv.svpCtx (s.world.bufs inbuf))] :=
    uses_single (.inl rfl) rfl
  have hc : Uses s.self.priv.svpCtx [PlatformCall.transformFromCleardata s.self.priv.svpCtx outbuf
      (p.fromCleardata s.self.priv.svpCtx (s.world.bufs outbuf)).1] := uses_single (.inl rfl) rfl
  simp only [payloadStep, payloadCall, svpPayloadTransform, protectBuffer_eq]
  split
  · exact ⟨_, List.append_assoc _ _ _, hu.append hq⟩
  · refine ⟨_, ?_, (hu.append hq).append hc⟩
    simp only [List.append_assoc]

theorem prepare_uses (p : Platform C B β σ) (s : PayloadState C B β σ) (inbuf : B) :
    ∃ new, (payloadStep s (.prepare p inbuf)).world.calls = s.world.calls ++ new ∧
      Uses s.self.priv.svpCtx new := by
  refine ⟨[.isBufferUsingSecureMemory s.self.priv.svpCtx inbuf (p.isSecure s.self.priv.svpCtx (s.world.bufs inbuf))],
    ?_, uses_single (.inl rfl) rfl⟩
  simp only [payloadStep, payloadCall, svpPayloadPrepareOutputBuffer]
  split
  · rfl
  · split
    · split <;> rfl
    · rfl

theorem transformCaps_uses (p : Platform C B β σ) (s : PayloadState C B β σ) (direction : GstPadDirection)
    (caps filter : Option GstCaps) :
    ∃ new, (payloadStep s (.transformCaps p direction caps filter)).world.calls = s.world.calls ++ new ∧
      Uses s.self.priv.svpCtx new := by
  cases direction with
  | unknown => exact ⟨[], (List.append_nil _).symm, uses_nil _⟩
  | src => exact ⟨_, rfl, uses_single (.inl rfl) rfl⟩
  | sink =>
    simp only [payloadStep, payloadCall, svpPayloadTransformCaps, reduceCtorEq, if_false, if_true]
    by_cases hf : hasDecryptToHost caps = false
    · refine ⟨[.transformCaps (p.transformCaps caps).1], ?_, uses_single (.inr rfl) rfl⟩
      simp only [if_pos hf]
      split <;> rfl
    · refine ⟨[], ?_, uses_nil _⟩
      simp only [if_neg hf, List.append_nil]

theorem callback_uses (s : PayloadState C B β σ) (e : PayloadEvent C B β σ) :
    ∃ new, (payloadStep s e).world.calls = s.world.calls ++ new ∧ Uses s.self.priv.svpCtx new := by
  cases e with
  | transformCaps p direction caps filter => exact transformCaps_uses p s direction caps filter
  | prepare p inbuf => exact prepare_uses p s inbuf
  | transform p inbuf outbuf => exact transform_uses p s inbuf outbuf
  | transformInPlace p buffer =>
    rw [payloadStep, payloadCall_inPlace]
    exact transform_uses p s buffer buffer

end

theorem getProperty_uses (p : Platform C B β σ) (self : SvpPayload C) (w : PayloadWorld C B β σ) (id : Bool) :
    ∃ new, (svpPayloadGetProperty p self w id).2.calls = w.calls ++ new ∧ Uses self.priv.svpCtx new := by
  unfold svpPayloadGetProperty
  split
  · split
    · rename_i c hc
      exact ⟨_, rfl, uses_single (.inl (congrArg some hc.symm)) rfl⟩
    · exact ⟨[], (List.append_nil _).symm, uses_nil _⟩
  · exact ⟨[], (List.append_nil _).symm, uses_nil _⟩

/-- A state change returns what the parent's returns. -/
theorem change_result (p : Platform C B β σ) (self : SvpPayload C) (w : PayloadWorld C B β σ) (t : GstStateChange) :
    (svpPayloadChangeState p self w t).1 = p.changeStateParent := by
  unfold svpPayloadChangeState
  dsimp only
  split <;> rfl

/-! ## The ledger -/

section
variable [DecidableEq C]

/-- What was acquired and not freed is what `svpCtx` points to. -/
def Balanced (s : ElementState C B β σ) : Prop :=
  ∀ c, (acquired (contextActs s.payload.world.calls)).count (some c) =
    (released (contextActs s.payload.world.calls)).count (some c) +
      (if s.payload.self.priv.svpCtx = some c then 1 else 0)

variable {s : ElementState C B β σ}

theorem Balanced.live_iff (h : Balanced s) (c : C) :
    Live s.payload.world.calls c ↔ s.payload.self.priv.svpCtx = some c := by
  have hc := h c
  unfold Live
  by_cases hctx : s.payload.self.priv.svpCtx = some c
  · rw [if_pos hctx] at hc
    exact ⟨fun _ => hctx, fun _ => by omega⟩
  · rw [if_neg hctx] at hc
    exact ⟨fun hl => by omega, fun he => absurd he hctx⟩

theorem balanced_init (p : Platform C B β σ) (bufs : B → β) (store : σ) :
    Balanced (elementInit p bufs store) := by
  intro c
  cases hg : p.getContext with
  | none => simp [elementInit, payloadInit, svpPayloadInit, contextActs, hg]
  | some c' => simp [elementInit, payloadInit, svpPayloadInit, contextActs, hg, List.count_singleton]

/-- Calls that acquire and free nothing, on the same `svpCtx`, keep the balance. -/
theorem Balanced.uses {s' : ElementState C B β σ} {new : List (PlatformCall C B)} (h : Balanced s)
    (hcalls : s'.payload.world.calls = s.payload.world.calls ++ new) (hnew : contextActs new = [])
    (hctx : s'.payload.self.priv.svpCtx = s.payload.self.priv.svpCtx) : Balanced s' := by
  intro c
  rw [hcalls, contextActs_append, hnew, List.append_nil, hctx]
  exact h c

theorem Balanced.change (h : Balanced s) (p : Platform C B β σ) (t : GstStateChange) :
    Balanced (changeStep s (p, t)) := by
  obtain ⟨hcalls, hctx⟩ := change_calls s p t
  intro c
  have hc := h c
  rw [hcalls, hctx, contextActs_append, acquired_append, released_append, List.count_append, List.count_append]
  by_cases hdown : t = ⟨.ready, .null⟩
  · rw [if_pos hdown, if_pos hdown]
    simpa [List.count_singleton] using hc
  · rw [if_neg hdown, if_neg hdown]
    by_cases hup : t = ⟨.null, .ready⟩ ∧ s.payload.self.priv.svpCtx = none
    · rw [if_pos hup, if_pos hup]
      rw [hup.2] at hc
      cases hg : p.getContext with
      | none => simpa [contextActs_getContext] using hc
      | some c' => simpa [contextActs_getContext, List.count_singleton] using hc
    · rw [if_neg hup, if_neg hup]
      simpa using hc

theorem elementStep_balanced [DecidableEq B] (h : Balanced s) (e : ElementEvent C B β σ) : Balanced (elementStep s e) := by
  cases e with
  | change p t => exact h.change p t
  | callback e =>
    obtain ⟨new, hcalls, hu⟩ := callback_uses s.payload e
    exact h.uses hcalls hu.acts (payloadStep_self s.payload e).2.2
  | getProperty p id =>
    obtain ⟨new, hcalls, hu⟩ := getProperty_uses p s.payload.self s.payload.world id
    exact h.uses hcalls hu.acts rfl

/-! ## One step -/

variable [DecidableEq B]

omit [DecidableEq C] in
/-- A call of a step passes `svpCtx` as the step finds it, and follows no acquisition or free of that step. -/
theorem elementStep_calls (s : ElementState C B β σ) (e : ElementEvent C B β σ) {before after : List (PlatformCall C B)}
    {call : PlatformCall C B} (h : madeCalls s e = before ++ call :: after) :
    contextActs before = [] ∧ ∀ arg, call.context = some arg → arg = s.payload.self.priv.svpCtx := by
  have huses : ∀ new, (elementStep s e).payload.world.calls = s.payload.world.calls ++ new →
      Uses s.payload.self.priv.svpCtx new →
      contextActs before = [] ∧ ∀ arg, call.context = some arg → arg = s.payload.self.priv.svpCtx := by
    intro new hcalls hu
    rw [madeCalls, hcalls, List.drop_left] at h
    have hacts := hu.acts
    rw [h, contextActs_append, List.append_eq_nil_iff] at hacts
    exact ⟨hacts.1, hu.passes call (by simp [h])⟩
  cases e with
  | callback e =>
    obtain ⟨new, hcalls, hu⟩ := callback_uses s.payload e
    exact huses new hcalls hu
  | getProperty p id =>
    obtain ⟨new, hcalls, hu⟩ := getProperty_uses p s.payload.self s.payload.world id
    exact huses new hcalls hu
  | change p t =>
    rw [madeCalls, elementStep, (change_calls s p t).1, List.drop_left] at h
    by_cases hdown : t = ⟨.ready, .null⟩
    · rw [if_pos hdown, eq_comm, List.append_eq_singleton_iff] at h
      obtain ⟨rfl, h⟩ | ⟨-, h⟩ := h
      · rw [(List.cons.inj h).1]
        exact ⟨rfl, fun arg harg => (Option.some.inj harg).symm⟩
      · exact absurd h (by simp)
    · rw [if_neg hdown] at h
      by_cases hup : t = ⟨.null, .ready⟩ ∧ s.payload.self.priv.svpCtx = none
      · rw [if_pos hup, eq_comm, List.append_eq_singleton_iff] at h
        obtain ⟨rfl, h⟩ | ⟨-, h⟩ := h
        · rw [(List.cons.inj h).1]
          exact ⟨rfl, fun arg harg => absurd harg (by simp [PlatformCall.context])⟩
        · exact absurd h (by simp)
      · rw [if_neg hup] at h
        exact absurd h (by simp)

/-- In READY or above a context is held. -/
def HeldAbove (s : ElementState C B β σ) : Prop :=
  s.state ≠ .null → s.payload.self.priv.svpCtx.isSome = true

omit [DecidableEq B] [DecidableEq C] in
theorem upAcquires_iff (s : ElementState C B β σ) (p : Platform C B β σ) :
    (changeStep s (p, ⟨.null, .ready⟩)).payload.self.priv.svpCtx.isSome = true ↔
      s.payload.self.priv.svpCtx.isSome = true ∨ p.getContext.isSome = true := by
  rw [(change_calls s p ⟨.null, .ready⟩).2, if_neg (by simp)]
  cases hc : s.payload.self.priv.svpCtx with
  | none => simp
  | some c => simp

/-- A step passes live contexts exactly if it is no NULL->READY, or one that has or gets a context. -/
theorem flowsLive_iff (hb : Balanced s) (hh : HeldAbove s) {e : ElementEvent C B β σ} (hl : EventLegal s e) :
    FlowsLive s e ↔ UpAcquires s.payload.self.priv.svpCtx.isSome e := by
  constructor
  · intro hf p he
    subst he
    have hok : ReportsSuccess s p ⟨.null, .ready⟩ := by
      rw [ReportsSuccess, change_result]
      exact hl.2.2.2
    obtain ⟨c, hc, -⟩ := hf.up p rfl hok
    rw [← upAcquires_iff]
    exact Option.isSome_iff_exists.2 ⟨c, hc⟩
  · intro hu
    constructor
    · intro p he _
      have hb' := elementStep_balanced hb e
      subst he
      obtain ⟨c, hc⟩ := Option.isSome_iff_exists.1 ((upAcquires_iff s p).2 (hu p rfl))
      exact ⟨c, hc, (hb'.live_iff c).2 hc⟩
    · intro hstate before call after hm arg harg
      obtain ⟨c, hc⟩ := Option.isSome_iff_exists.1 (hh hstate)
      obtain ⟨hacts, hpass⟩ := elementStep_calls s e hm
      refine ⟨c, (hpass arg harg).trans hc, ?_⟩
      rw [Live, contextActs_append, hacts, List.append_nil]
      exact (hb.live_iff c).2 hc

omit [DecidableEq C] in
/-- After a NULL->READY with a context the element is in READY with one; it leaves READY for NULL alone. -/
theorem elementStep_heldAbove (hh : HeldAbove s) {e : ElementEvent C B β σ} (hl : EventLegal s e)
    (hu : UpAcquires s.payload.self.priv.svpCtx.isSome e) : HeldAbove (elementStep s e) := by
  cases e with
  | callback e =>
    intro hstate
    rw [elementStep, (payloadStep_self s.payload e).2.2]
    exact hh hstate
  | getProperty p id => exact hh
  | change p t =>
    obtain ⟨hcur, hup, -, hok⟩ := hl
    intro hstate
    have hnext : (changeStep s (p, t)).state = t.next := by
      simp only [changeStep, change_result, if_neg hok]
    by_cases hdown : t = ⟨.ready, .null⟩
    · rw [elementStep, hnext, hdown] at hstate
      exact absurd rfl hstate
    · by_cases hto : t = ⟨.null, .ready⟩
      · subst hto
        exact (upAcquires_iff s p).2 (hu p rfl)
      · rw [elementStep, changeStep_idle p hdown fun h => hto h.1]
        apply hh
        intro hnull
        -- from NULL the only change that leaves it is NULL->READY
        rw [elementStep, hnext] at hstate
        obtain ⟨cur, next⟩ := t
        subst hcur
        cases next <;> simp_all [GstState.level]

omit [DecidableEq C] in
/-- What is held depends on the outcomes of `gst_svp_ext_get_context` alone. -/
theorem elementStep_held (s : ElementState C B β σ) (e : ElementEvent C B β σ) :
    (elementStep s e).payload.self.priv.svpCtx.isSome = heldNext s.payload.self.priv.svpCtx.isSome e := by
  cases e with
  | callback e => rw [elementStep, (payloadStep_self s.payload e).2.2]; rfl
  | getProperty p id => rfl
  | change p t =>
    rw [elementStep, (change_calls s p t).2, heldNext, heldAfter]
    by_cases hdown : t = ⟨.ready, .null⟩
    · rw [if_pos hdown, if_pos hdown]
      rfl
    · rw [if_neg hdown, if_neg hdown]
      by_cases hup : t = ⟨.null, .ready⟩
      · cases hc : s.payload.self.priv.svpCtx with
        | none => simp [hup]
        | some c => simp
      · rw [if_neg fun h => hup h.1, if_neg hup]

/-- **Calls pass a live context.** In every run from `svp_payload_init`, each successful NULL->READY leaves
a live context and each call in READY or above passes one, if and only if every NULL->READY of the run
still has a context or gets one. -/
theorem context_live (p : Platform C B β σ) (bufs : B → β) (store : σ) (es : List (ElementEvent C B β σ))
    (hlegal : Along (fun s e => some (elementStep s e)) EventLegal (elementInit p bufs store) es) :
    Along (fun s e => some (elementStep s e)) FlowsLive (elementInit p bufs store) es ↔
      EveryUpAcquires p.getContext.isSome es := by
  let R : ElementState C B β σ → Bool → Prop := fun s held =>
    s.payload.self.priv.svpCtx.isSome = held ∧ Balanced s ∧ HeldAbove s
  have hinit : R (elementInit p bufs store) p.getContext.isSome :=
    ⟨rfl, balanced_init p bufs store, fun h => absurd rfl h⟩
  refine along_sim (R := R) ?_ ?_ hinit hlegal
  · rintro s held e ⟨rfl, hb, hh⟩ hl
    exact flowsLive_iff hb hh hl
  · rintro s held e ⟨rfl, hb, hh⟩ hl hf
    have hu := (flowsLive_iff hb hh hl).1 hf
    exact .some ⟨elementStep_held s e, elementStep_balanced hb e, elementStep_heldAbove hh hl hu⟩

end

/-- The plain platform with `gst_svp_ext_get_context` failing. -/
def withoutContext : Platform Unit Nat Bool (Option (List UInt8)) := { plainPlatform with getContext := none }

/-- To READY on the context of `svp_payload_init`, and one buffer there. -/
theorem context_live_buffer :
    Along (fun s e => some (elementStep s e)) FlowsLive (elementInit plainPlatform (fun _ => false) none)
      [.change withoutContext ⟨.null, .ready⟩, .callback (.prepare plainPlatform 0)] := by
  refine (context_live plainPlatform _ none _ ?_).2 ⟨fun _ _ => .inl rfl, ?_⟩
  · exact (along_cons rfl).2 ⟨⟨rfl, by decide, by decide, by decide⟩, trivial, fun _ _ => trivial⟩
  · intro held h
    exact ⟨fun _ h => absurd h (by simp), fun _ _ => trivial⟩

/-- Both acquisitions fail: NULL->READY succeeds without a context. -/
theorem ready_without_context :
    ¬ ∀ (p : Platform Unit Nat Bool (Option (List UInt8))) (bufs : Nat → Bool) (store : Option (List UInt8))
        (es : List (ElementEvent Unit Nat Bool (Option (List UInt8)))),
      Along (fun s e => some (elementStep s e)) EventLegal (elementInit p bufs store) es →
        Along (fun s e => some (elementStep s e)) FlowsLive (elementInit p bufs store) es := by
  intro h
  have hflow := (h withoutContext (fun _ => false) none [.change withoutContext ⟨.null, .ready⟩]
    ⟨⟨rfl, by decide, by decide, by decide⟩, fun _ _ => trivial⟩).1
  obtain ⟨c, hc, -⟩ := hflow.up withoutContext rfl (by rw [ReportsSuccess, change_result]; decide)
  have hnone : some c = none := hc.symm.trans rfl
  exact absurd hnone (by simp)

end GstSvpExt
