import GstSvpExt.Ledger
import GstSvpExt.PayloadRun

/-!
# The payloader's SVP context over its lifetime

An element acquires a context in `svp_payload_init` and on NULL->READY, and frees one on READY->NULL.
`ContextInv` is the ledger of these calls: what is live is what `svpCtx` points to. A lifetime keeps the
ledger to its end exactly if every READY->NULL finds a context and none is left when the element is
destroyed (`context_lifetime`).
-/

namespace GstSvpExt

open Ledger

variable {C B β σ : Type}

/-- The contexts acquired, and the pointers given to `gst_svp_ext_free_context`. -/
def contextActs (calls : List (PlatformCall C B)) : List (Act (Option C)) := calls.filterMap fun
  | .getContext (some c) => some (.acquire (some c))
  | .freeContext c => some (.release c)
  | _ => none

theorem contextActs_append (c d : List (PlatformCall C B)) :
    contextActs (c ++ d) = contextActs c ++ contextActs d := by
  simp [contextActs]

@[simp] theorem contextActs_nil : contextActs ([] : List (PlatformCall C B)) = [] := rfl

@[simp] theorem contextActs_freeContext (c : Option C) :
    contextActs [(PlatformCall.freeContext c : PlatformCall C B)] = [.release c] := rfl

@[simp] theorem contextActs_getContext (c : Option C) :
    contextActs [(PlatformCall.getContext c : PlatformCall C B)] = c.toList.map fun c => .acquire (some c) := by
  cases c <;> rfl

/-- The element, with the state GStreamer has it in. -/
structure ElementState (C B β σ : Type) where
  payload : PayloadState C B β σ
  state : GstState

def ElementState.acts (s : ElementState C B β σ) : List (Act (Option C)) :=
  contextActs s.payload.world.calls

/-- A state change: the element is in the new state unless the change failed. -/
def changeStep (s : ElementState C B β σ) (e : Platform C B β σ × GstStateChange) : ElementState C B β σ :=
  let (result, self, world) := svpPayloadChangeState e.1 s.payload.self s.payload.world e.2
  ⟨⟨self, world⟩, if result = .failure then s.state else e.2.next⟩

/-- A new element, in NULL, with no call made before `svp_payload_init`. -/
def elementInit (p : Platform C B β σ) (bufs : B → β) (store : σ) : ElementState C B β σ :=
  ⟨payloadInit p ⟨bufs, store, []⟩, .null⟩

/-- NULL, READY, PAUSED and PLAYING in order. -/
def GstState.level : GstState → Nat
  | .null => 0
  | .ready => 1
  | .paused => 2
  | .playing => 3

/-- Every change starts from the state the element is in and goes at most one state up or down, and
every context handed out is a new one. -/
def ChangesLegal : ElementState C B β σ → List (Platform C B β σ × GstStateChange) → Prop
  | _, [] => True
  | s, e :: es =>
    (e.2.cur = s.state ∧ e.2.next.level ≤ e.2.cur.level + 1 ∧ e.2.cur.level ≤ e.2.next.level + 1 ∧
      ∀ c ∈ e.1.getContext, some c ∉ acquired s.acts) ∧ ChangesLegal (changeStep s e) es

section
variable [DecidableEq C]

/-- Every free so far was of a live context, and at most one context is live. -/
def ContextsSound (s : ElementState C B β σ) : Prop :=
  ∃ live, follow [] s.acts = some live ∧ live.length ≤ 1

/-- The contexts are sound at every point of the element's life, and when it is destroyed every context
it acquired has been freed exactly once. -/
def LifetimeSound : ElementState C B β σ → List (Platform C B β σ × GstStateChange) → Prop
  | s, [] => ContextsSound s ∧ ∀ c ∈ acquired s.acts, (released s.acts).count c = 1
  | s, e :: es => ContextsSound s ∧ LifetimeSound (changeStep s e) es

end

/-- Whether a context is held after a change. -/
def heldAfter (held : Bool) (e : Platform C B β σ × GstStateChange) : Bool :=
  if e.2 = ⟨.ready, .null⟩ then false
  else if e.2 = ⟨.null, .ready⟩ then held || e.1.getContext.isSome
  else held

/-- Every READY->NULL finds a context that was acquired since the last one, and none is left at the end. -/
def EveryContextReturned : Bool → List (Platform C B β σ × GstStateChange) → Prop
  | held, [] => held = false
  | held, e :: es => (e.2 = ⟨.ready, .null⟩ → held = true) ∧ EveryContextReturned (heldAfter held e) es

section
variable [DecidableEq C]

/-- What is live is the context that `svpCtx` points to, and no context was handed out twice. -/
structure ContextInv (s : ElementState C B β σ) : Prop where
  ledger : follow [] s.acts = some (s.payload.self.priv.svpCtx.toList.map some)
  fresh : (acquired s.acts).Nodup

variable {s : ElementState C B β σ}

theorem ContextInv.sound (h : ContextInv s) : ContextsSound s :=
  ⟨_, h.ledger, by cases s.payload.self.priv.svpCtx <;> simp⟩

/-- At the destruction everything was freed exactly if nothing is held. -/
theorem ContextInv.end_iff (h : ContextInv s) :
    (∀ c ∈ acquired s.acts, (released s.acts).count c = 1) ↔ s.payload.self.priv.svpCtx.isSome = false := by
  obtain ⟨hr, -, hdis, hiff⟩ := follow_once h.ledger h.fresh
  cases hc : s.payload.self.priv.svpCtx with
  | none =>
    refine ⟨fun _ => rfl, fun _ c hin => List.count_eq_one_of_mem hr ?_⟩
    exact ((hiff c).1 hin).resolve_left (by simp [hc])
  | some c =>
    have hlive : some c ∈ (some c).toList.map some := by simp
    refine ⟨?_, fun hn => Bool.noConfusion hn⟩
    intro hall
    rw [hc] at hdis hiff
    have hone := hall (some c) ((hiff (some c)).2 (Or.inl hlive))
    rw [List.count_eq_zero.2 (hdis (some c) hlive)] at hone
    exact absurd hone Nat.zero_ne_one

theorem contextInv_init (p : Platform C B β σ) (bufs : B → β) (store : σ) :
    ContextInv (elementInit p bufs store) := by
  cases hc : p.getContext with
  | none =>
    constructor <;>
      simp [ElementState.acts, elementInit, payloadInit, svpPayloadInit, hc, contextActs]
  | some c =>
    constructor <;>
      simp [ElementState.acts, elementInit, payloadInit, svpPayloadInit, hc, contextActs, follow, act]

omit [DecidableEq C] in
/-- Every other change leaves the element as it is. -/
theorem changeStep_idle (p : Platform C B β σ) {t : GstStateChange} (hdown : t ≠ ⟨.ready, .null⟩)
    (hup : ¬ (t = ⟨.null, .ready⟩ ∧ s.payload.self.priv.svpCtx = none)) :
    (changeStep s (p, t)).payload = s.payload := by
  rw [← Option.isNone_iff_eq_none] at hup
  simp only [changeStep, svpPayloadChangeState, if_neg hup, if_neg hdown]

omit [DecidableEq C] in
/-- READY->NULL frees `svpCtx`, NULL->READY without a context asks for one, and no other change calls
anything. -/
theorem change_calls (s : ElementState C B β σ) (p : Platform C B β σ) (t : GstStateChange) :
    (changeStep s (p, t)).payload.world.calls = s.payload.world.calls ++
        (if t = ⟨.ready, .null⟩ then [.freeContext s.payload.self.priv.svpCtx]
        else if t = ⟨.null, .ready⟩ ∧ s.payload.self.priv.svpCtx = none then [.getContext p.getContext] else []) ∧
      (changeStep s (p, t)).payload.self.priv.svpCtx =
        (if t = ⟨.ready, .null⟩ then none
        else if t = ⟨.null, .ready⟩ ∧ s.payload.self.priv.svpCtx = none then p.getContext
        else s.payload.self.priv.svpCtx) := by
  by_cases hdown : t = ⟨.ready, .null⟩
  · subst hdown
    simp [changeStep, svpPayloadChangeState]
  · rw [if_neg hdown, if_neg hdown]
    by_cases hup : t = ⟨.null, .ready⟩ ∧ s.payload.self.priv.svpCtx = none
    · obtain ⟨rfl, hc⟩ := hup
      simp [changeStep, svpPayloadChangeState, hc]
    · rw [if_neg hup, if_neg hup, changeStep_idle p hdown hup]
      exact ⟨(List.append_nil _).symm, rfl⟩

omit [DecidableEq C] in
/-- READY->NULL gives back whatever `svpCtx` is. -/
theorem changeStep_down (s : ElementState C B β σ) (p : Platform C B β σ) :
    (changeStep s (p, ⟨.ready, .null⟩)).payload.self.priv.svpCtx = none ∧
      (changeStep s (p, ⟨.ready, .null⟩)).acts = s.acts ++ [.release s.payload.self.priv.svpCtx] := by
  obtain ⟨hcalls, hctx⟩ := change_calls s p ⟨.ready, .null⟩
  rw [if_pos rfl] at hcalls hctx
  refine ⟨hctx, ?_⟩
  rw [ElementState.acts, hcalls, contextActs_append, contextActs_freeContext]
  rfl

omit [DecidableEq C] in
/-- NULL->READY on an element without a context acquires one, if it can. -/
theorem changeStep_up (p : Platform C B β σ) (hc : s.payload.self.priv.svpCtx = none) :
    (changeStep s (p, ⟨.null, .ready⟩)).payload.self.priv.svpCtx = p.getContext ∧
      (changeStep s (p, ⟨.null, .ready⟩)).acts =
        s.acts ++ p.getContext.toList.map fun c => .acquire (some c) := by
  obtain ⟨hcalls, hctx⟩ := change_calls s p ⟨.null, .ready⟩
  have hdown : (⟨.null, .ready⟩ : GstStateChange) ≠ ⟨.ready, .null⟩ := by decide
  rw [if_neg hdown, if_pos ⟨rfl, hc⟩] at hcalls hctx
  refine ⟨hctx, ?_⟩
  rw [ElementState.acts, hcalls, contextActs_append, contextActs_getContext]
  rfl

/-- A READY->NULL without a context gives `NULL` to `gst_svp_ext_free_context`. -/
theorem readyToNull_without_context (h : ContextInv s) (p : Platform C B β σ) (hc : s.payload.self.priv.svpCtx = none) :
    ¬ ContextsSound (changeStep s (p, ⟨.ready, .null⟩)) := by
  rintro ⟨live, hl, -⟩
  rw [(changeStep_down s p).2, follow_append, h.ledger, hc] at hl
  simp [follow, act] at hl

/-- Any other change keeps the invariant and holds a context as `heldAfter` says. -/
theorem changeStep_keeps (h : ContextInv s) {e : Platform C B β σ × GstStateChange}
    (hfresh : ∀ c ∈ e.1.getContext, some c ∉ acquired s.acts)
    (hok : e.2 = ⟨.ready, .null⟩ → s.payload.self.priv.svpCtx.isSome = true) :
    ContextInv (changeStep s e) ∧ (changeStep s e).payload.self.priv.svpCtx.isSome =
      heldAfter s.payload.self.priv.svpCtx.isSome e := by
  obtain ⟨p, t⟩ := e
  by_cases hdown : t = ⟨.ready, .null⟩
  · subst hdown
    obtain ⟨c, hc⟩ := Option.isSome_iff_exists.1 (hok rfl)
    obtain ⟨hctx, hacts⟩ := changeStep_down s p
    refine ⟨⟨?_, ?_⟩, by rw [hctx]; simp [heldAfter]⟩
    · rw [hacts, follow_append, h.ledger, hctx, hc]
      simp [follow, act]
    · simpa [hacts] using h.fresh
  · by_cases hup : t = ⟨.null, .ready⟩ ∧ s.payload.self.priv.svpCtx = none
    · obtain ⟨rfl, hc⟩ := hup
      obtain ⟨hctx, hacts⟩ := changeStep_up p hc
      refine ⟨⟨?_, ?_⟩, by rw [hctx, hc]; simp [heldAfter]⟩
      · rw [hacts, follow_append, h.ledger, hctx, hc]
        cases p.getContext <;> simp [follow, act]
      · rw [hacts, acquired_append]
        cases hg : p.getContext with
        | none => simpa using h.fresh
        | some c =>
          simp only [Option.toList_some, List.map_cons, List.map_nil, acquired_acquire, acquired_nil]
          exact nodup_snoc (hfresh c hg) h.fresh
    · have hself := changeStep_idle p hdown hup
      refine ⟨⟨?_, ?_⟩, ?_⟩
      · rw [ElementState.acts, hself]; exact h.ledger
      · rw [ElementState.acts, hself]; exact h.fresh
      · rw [hself, heldAfter, if_neg hdown]
        split
        · rename_i he
          have hsome : s.payload.self.priv.svpCtx ≠ none := fun hn => hup ⟨he, hn⟩
          rw [Option.isSome_iff_ne_none.2 hsome, Bool.true_or]
        · rfl

theorem LifetimeSound.head {es : List (Platform C B β σ × GstStateChange)} (hs : LifetimeSound s es) :
    ContextsSound s := by
  cases es with
  | nil => exact hs.1
  | cons e es => exact hs.1

/-- From any point of a life at which the ledger holds. -/
theorem ContextInv.lifetime_iff (h : ContextInv s) {es : List (Platform C B β σ × GstStateChange)}
    (hl : ChangesLegal s es) :
    LifetimeSound s es ↔ EveryContextReturned s.payload.self.priv.svpCtx.isSome es := by
  induction es generalizing s with
  | nil => simp only [LifetimeSound, EveryContextReturned, h.end_iff, h.sound, true_and]
  | cons e es ih =>
    obtain ⟨⟨-, -, -, hfresh⟩, hl⟩ := hl
    simp only [LifetimeSound, EveryContextReturned, h.sound, true_and]
    by_cases hok : e.2 = ⟨.ready, .null⟩ → s.payload.self.priv.svpCtx.isSome = true
    · obtain ⟨hi, hheld⟩ := changeStep_keeps h hfresh hok
      rw [ih hi hl, hheld]
      exact (and_iff_right hok).symm
    · -- the one step that leaves the ledger
      have hbad : ¬ ContextsSound (changeStep s e) := by
        rw [Classical.not_imp, Bool.not_eq_true, Option.isSome_eq_false_iff, Option.isNone_iff_eq_none] at hok
        obtain ⟨p, t⟩ := e
        obtain ⟨rfl, hc⟩ := hok
        exact readyToNull_without_context h p hc
      exact ⟨fun hs => absurd hs.head hbad, fun hs => absurd hs.1 hok⟩

/-- **The context over a lifetime.** It is kept to its end if and only if every READY->NULL of that life
finds a context and none is held at the destruction. -/
theorem context_lifetime (p : Platform C B β σ) (bufs : B → β) (store : σ)
    (es : List (Platform C B β σ × GstStateChange)) (hlegal : ChangesLegal (elementInit p bufs store) es) :
    LifetimeSound (elementInit p bufs store) es ↔ EveryContextReturned p.getContext.isSome es :=
  (contextInv_init p bufs store).lifetime_iff hlegal

end

/-- To READY and back on the context of `svp_payload_init`. -/
theorem context_lifetime_up_and_down :
    LifetimeSound (elementInit plainPlatform (fun _ => false) none)
      [({ plainPlatform with getContext := none }, ⟨.null, .ready⟩),
        ({ plainPlatform with getContext := none }, ⟨.ready, .null⟩)] := by
  refine (context_lifetime plainPlatform _ none _ ?_).2 ⟨by simp, fun _ => rfl, rfl⟩
  exact ⟨⟨rfl, by decide, by decide, by simp⟩, ⟨rfl, by decide, by decide, by simp⟩, trivial⟩

/-- An element created and dropped: `svp_payload_init` acquired a context and nothing freed it. -/
theorem context_leaks :
    ¬ ∀ (p : Platform Unit Nat Bool (Option (List UInt8))) (bufs : Nat → Bool) (store : Option (List UInt8))
        (es : List (Platform Unit Nat Bool (Option (List UInt8)) × GstStateChange)),
      ChangesLegal (elementInit p bufs store) es →
      (es.foldl changeStep (elementInit p bufs store)).state = .null →
        LifetimeSound (elementInit p bufs store) es := by
  intro h
  have hend := (h plainPlatform (fun _ => false) none [] trivial rfl).2 (some ()) (by decide)
  revert hend
  decide

end GstSvpExt
