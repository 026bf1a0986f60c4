import GstSvpExt.PayloadProtect
import GstSvpExt.Runs

/-!
# Many payloaders, one process store

Every svppay element of the process pushes its flag to the same store and keeps a private copy of what
it pushed last; an update that finds its value in the copy does not write. `PushHistory` reads off the
callbacks alone what every copy and the store should hold, and `PushedAs`, kept by every step that leaves
the store current, says that they do. So `shared_store_current` can tell from the callbacks of a run
whether every update of it left its value in the store.
-/

namespace GstSvpExt

variable {C B β σ E : Type}

/-- All elements, and what they share. -/
structure SharedState (C B β σ E : Type) where
  elements : E → SvpPayload C
  world : PayloadWorld C B β σ

/-- The `decryptToHost` setter of the installed table: it is there, takes a `gboolean`, and always
succeeds in storing it. -/
def OverwritesDecryptToHost (stored : σ → Option (List UInt8)) (p : Platform C B β σ) : Prop :=
  ∃ q handler, processorFor p.processors "decryptToHost" = some q ∧ q.expectedValueSize = 4 ∧
    q.setter = some handler ∧ ∀ c value s, (handler c "decryptToHost" value s).1 = true ∧
      stored (handler c "decryptToHost" value s).2.2 = some value

theorem setDecryptToHost_overwrites {stored : σ → Option (List UInt8)} {p : Platform C B β σ}
    (hover : OverwritesDecryptToHost stored p) (c : C) (d : Bool) (s : σ) :
    (setDecryptToHost p (some c) d s).1 = true ∧
      stored (setDecryptToHost p (some c) d s).2 = some (gbooleanBytes d) := by
  obtain ⟨q, handler, hq, hsize, hset, hstore⟩ := hover
  simpa [setDecryptToHost, set_eq, hq, hsize, hset] using hstore c (gbooleanBytes d) s

/-- **One update.** It leaves its value in the store exactly if the value was there before, or it is
not what the element's copy holds and the element has a context to write with. -/
theorem update_current_iff {stored : σ → Option (List UInt8)} {p : Platform C B β σ}
    (hover : OverwritesDecryptToHost stored p) (priv : SvpPayloadPrivate C) (s : σ) (d : Bool) :
    stored (updateStore p priv s d) = some (gbooleanBytes d) ↔
      stored s = some (gbooleanBytes d) ∨ (priv.holds d = false ∧ priv.svpCtx.isSome) := by
  unfold updateStore
  cases hh : priv.holds d with
  | true => simp
  | false =>
    cases hc : priv.svpCtx with
    | none => simp [setDecryptToHost, set_null]
    | some c => simp [setDecryptToHost_overwrites hover]

/-- An update with a context leaves its value in the copy. -/
theorem update_holds {stored : σ → Option (List UInt8)} {p : Platform C B β σ}
    (hover : OverwritesDecryptToHost stored p) {priv : SvpPayloadPrivate C} (hctx : priv.svpCtx.isSome)
    (s : σ) (d d' : Bool) : (updatePriv p priv s d).holds d' = true ↔ d = d' := by
  obtain ⟨c, hc⟩ := Option.isSome_iff_exists.1 hctx
  unfold updatePriv
  by_cases hh : priv.holds d = true
  · rw [if_pos hh]
    unfold SvpPayloadPrivate.holds at hh ⊢
    rw [Bool.and_eq_true, beq_iff_eq] at hh
    rw [hh.1, hh.2, Bool.true_and, beq_iff_eq]
  · rw [if_neg hh, hc, if_pos (setDecryptToHost_overwrites hover c d s).1]
    unfold SvpPayloadPrivate.holds
    rw [Bool.true_and, beq_iff_eq]

section
variable [DecidableEq B] [DecidableEq E]

/-- A callback of one element. -/
def sharedStep (s : SharedState C B β σ E) (e : E × PayloadEvent C B β σ) : Option (SharedState C B β σ E) :=
  let s' := payloadStep ⟨s.elements e.1, s.world⟩ e.2
  some ⟨Function.update s.elements e.1 s'.self, s'.world⟩

/-- New elements, each with the context it got, if any. -/
def sharedInit (svpCtx : E → Option C) (w : PayloadWorld C B β σ) : SharedState C B β σ E :=
  ⟨fun e => ⟨⟨svpCtx e, false, false⟩, false, false⟩, w⟩

/-- The setter installed during the callback overwrites. -/
def SharedLegal (stored : σ → Option (List UInt8)) (_ : SharedState C B β σ E) (e : E × PayloadEvent C B β σ) :
    Prop :=
  OverwritesDecryptToHost stored e.2.platform

/-- After the callback's update the store holds the element's flag. -/
def StoreCurrent (stored : σ → Option (List UInt8)) (s : SharedState C B β σ E) (e : E × PayloadEvent C B β σ) :
    Prop :=
  e.2.updates = true →
    stored (svpPayloadUpdateDecryptToHost e.2.platform (s.elements e.1).priv s.world
      (s.elements e.1).decryptToHostEnabled).2.store = some (gbooleanBytes (s.elements e.1).decryptToHostEnabled)

/-! ## The callbacks alone -/

/-- What the callbacks so far come to: every element's flag, its flag at its last transform, and the flag
at the last transform of any element. -/
structure PushHistory (E : Type) where
  flag : E → Bool
  own : E → Option Bool
  last : Option Bool

/-- No callback yet. -/
def noPush : PushHistory E := ⟨fun _ => false, fun _ => none, none⟩

def PushHistory.after (h : PushHistory E) (e : E × PayloadEvent C B β σ) : PushHistory E where
  flag := Function.update h.flag e.1 (e.2.flag (h.flag e.1))
  own := if e.2.updates then Function.update h.own e.1 (some (h.flag e.1)) else h.own
  last := if e.2.updates then some (h.flag e.1) else h.last

/-- What the last transform of any element was to leave in the store, which at first held `initial`. -/
def PushHistory.pushed (h : PushHistory E) (initial : Option (List UInt8)) : Option (List UInt8) :=
  match h.last with
  | some d => some (gbooleanBytes d)
  | none => initial

/-- A transform under the flag of the last transform in the process; or one of an element that has a
context and whose own last transform was not under the flag it has now. -/
def PushLands (svpCtx : E → Option C) (initial : Option (List UInt8)) (h : PushHistory E)
    (e : E × PayloadEvent C B β σ) : Prop :=
  e.2.updates = true →
    h.pushed initial = some (gbooleanBytes (h.flag e.1)) ∨
      (h.own e.1 ≠ some (h.flag e.1) ∧ (svpCtx e.1).isSome)

/-- While every update has left the store current, copies and store hold what the callbacks say. -/
structure PushedAs (stored : σ → Option (List UInt8)) (svpCtx : E → Option C) (initial : Option (List UInt8))
    (s : SharedState C B β σ E) (h : PushHistory E) : Prop where
  flag : ∀ x, (s.elements x).decryptToHostEnabled = h.flag x
  context : ∀ x, (s.elements x).priv.svpCtx = svpCtx x
  own : ∀ x, (svpCtx x).isSome → ∀ d, (s.elements x).priv.holds d = true ↔ h.own x = some d
  store : stored s.world.store = h.pushed initial

variable {stored : σ → Option (List UInt8)} {svpCtx : E → Option C} {initial : Option (List UInt8)}
  {s : SharedState C B β σ E} {h : PushHistory E} {e : E × PayloadEvent C B β σ}

omit [DecidableEq B] [DecidableEq E] in
theorem storeCurrent_iff (hp : PushedAs stored svpCtx initial s h)
    (hover : OverwritesDecryptToHost stored e.2.platform) :
    StoreCurrent stored s e ↔ PushLands svpCtx initial h e := by
  unfold StoreCurrent PushLands
  apply imp_congr_right
  intro _
  rw [update_eq]
  show stored (updateStore e.2.platform _ s.world.store _) = _ ↔ _
  rw [update_current_iff hover, hp.flag, hp.store, hp.context]
  apply or_congr_right
  apply and_congr_left
  intro hctx
  rw [← Bool.not_eq_true, hp.own _ hctx]

/-- A callback changes no other element. -/
theorem sharedStep_ne {s' : SharedState C B β σ E} (hs : sharedStep s e = some s') {y : E} (hy : y ≠ e.1) :
    s'.elements y = s.elements y := by
  obtain rfl := Option.some.inj hs
  exact Function.update_of_ne hy _ _

/-- What a callback does to its own element. -/
theorem sharedStep_self {s' : SharedState C B β σ E} (hs : sharedStep s e = some s') :
    (s'.elements e.1).decryptToHostEnabled = e.2.flag (s.elements e.1).decryptToHostEnabled ∧
      (s'.elements e.1).priv.svpCtx = (s.elements e.1).priv.svpCtx ∧
      (s'.elements e.1).priv = if e.2.updates then
        updatePriv e.2.platform (s.elements e.1).priv s.world.store (s.elements e.1).decryptToHostEnabled
        else (s.elements e.1).priv := by
  obtain rfl := Option.some.inj hs
  obtain ⟨hflag, -, hctx⟩ := payloadStep_self ⟨s.elements e.1, s.world⟩ e.2
  simp only [Function.update_self]
  exact ⟨hflag, hctx, (payloadStep_update ⟨s.elements e.1, s.world⟩ e.2).1⟩

/-- A callback that leaves the store current, if it updates it, keeps copies and store in step with the
callbacks. -/
theorem sharedStep_pushed (hp : PushedAs stored svpCtx initial s h)
    (hover : OverwritesDecryptToHost stored e.2.platform) (hl : StoreCurrent stored s e) {s' : SharedState C B β σ E}
    (hs : sharedStep s e = some s') : PushedAs stored svpCtx initial s' (h.after e) := by
  obtain ⟨hflag, hctx, hpriv⟩ := sharedStep_self hs
  constructor
  case flag =>
    intro y
    by_cases hy : y = e.1
    · subst hy
      simp only [PushHistory.after, hflag, hp.flag, Function.update_self]
    · simp only [PushHistory.after, sharedStep_ne hs hy, hp.flag, Function.update_of_ne hy]
  case context =>
    intro y
    by_cases hy : y = e.1
    · subst hy
      rw [hctx, hp.context]
    · rw [sharedStep_ne hs hy, hp.context]
  case own =>
    intro y hy d
    by_cases hyx : y = e.1
    · subst hyx
      rw [hpriv]
      cases hu : e.2.updates with
      | false =>
        simp only [PushHistory.after, hu, Bool.false_eq_true, if_false]
        exact hp.own _ hy d
      | true =>
        have hholds := update_holds hover ((congrArg Option.isSome (hp.context e.1)).trans hy) s.world.store
          (s.elements e.1).decryptToHostEnabled d
        simp only [PushHistory.after, hu, if_true, Function.update_self, Option.some.injEq]
        rw [hholds, hp.flag]
    · rw [sharedStep_ne hs hyx, hp.own y hy d]
      cases hu : e.2.updates with
      | false => simp only [PushHistory.after, hu, Bool.false_eq_true, if_false]
      | true => simp only [PushHistory.after, hu, if_true, Function.update_of_ne hyx]
  case store =>
    obtain ⟨-, hstore⟩ := payloadStep_update ⟨s.elements e.1, s.world⟩ e.2
    obtain rfl := Option.some.inj hs
    cases hu : e.2.updates with
    | false =>
      rw [hu, if_neg Bool.false_ne_true] at hstore
      simp only [hstore, PushHistory.pushed, PushHistory.after, hu, Bool.false_eq_true, if_false]
      exact hp.store
    | true =>
      have hcur := hl hu
      rw [hu, if_pos rfl] at hstore
      rw [update_eq, hp.flag] at hcur
      simp only [hstore, PushHistory.pushed, PushHistory.after, hu, if_true, hp.flag]
      exact hcur

/-- **The shared store is current** after every update of a run exactly if every transform of it is made
under the flag of the last transform in the process, or by an element that has a context and made its own
last transform under the other flag. -/
theorem shared_store_current (stored : σ → Option (List UInt8)) (svpCtx : E → Option C)
    (w : PayloadWorld C B β σ) (es : List (E × PayloadEvent C B β σ))
    (hlegal : Runs.Along sharedStep (SharedLegal stored) (sharedInit svpCtx w) es) :
    Runs.Along sharedStep (StoreCurrent stored) (sharedInit svpCtx w) es ↔
      Runs.Along (fun h e => some (h.after e)) (PushLands svpCtx (stored w.store)) noPush es := by
  refine Runs.along_sim (R := PushedAs stored svpCtx (stored w.store)) ?_ ?_ ?_ hlegal
  · exact fun s h e hp hover => storeCurrent_iff hp hover
  · intro s h e hp hover hl
    exact .some (sharedStep_pushed hp hover hl rfl)
  · exact ⟨fun _ => rfl, fun _ => rfl, fun _ _ _ => by simp [sharedInit, SvpPayloadPrivate.holds, noPush], rfl⟩

end

theorem plainPlatform_overwrites : OverwritesDecryptToHost id plainPlatform :=
  ⟨_, _, rfl, rfl, rfl, fun _ _ _ => ⟨rfl, rfl⟩⟩

/-- Two elements in turn, both with the flag at `TRUE`. -/
theorem shared_store_current_agreeing :
    Runs.Along sharedStep (StoreCurrent id) (sharedInit (fun _ : Bool => some ()) plainWorld)
      [(false, .transformCaps plainPlatform .sink hostCaps none), (false, .transform plainPlatform 0 0),
        (true, .transformCaps plainPlatform .sink hostCaps none), (true, .transform plainPlatform 1 9),
        (false, .transform plainPlatform 0 0)] := by
  refine (shared_store_current id (fun _ => some ()) plainWorld _ ?_).2 ?_
  · apply Runs.along_of_forall
    intro e he s
    have hp : e.2.platform = plainPlatform := by
      simp only [List.mem_cons, List.not_mem_nil, or_false] at he
      rcases he with rfl | rfl | rfl | rfl | rfl <;> rfl
    exact show OverwritesDecryptToHost id e.2.platform from hp ▸ plainPlatform_overwrites
  · refine (Runs.along_cons rfl).2 ⟨fun h => absurd h Bool.false_ne_true, ?_⟩
    refine (Runs.along_cons rfl).2 ⟨fun _ => Or.inr ⟨by decide, rfl⟩, ?_⟩
    refine (Runs.along_cons rfl).2 ⟨fun h => absurd h Bool.false_ne_true, ?_⟩
    -- from here on the store holds the flag of both
    refine (Runs.along_cons rfl).2 ⟨fun _ => Or.inl rfl, ?_⟩
    exact (Runs.along_cons rfl).2 ⟨fun _ => Or.inl rfl, trivial⟩

/-- Two elements with different flags: the first one pushes `TRUE`, the second one `FALSE`, and the
first one's next update is skipped. -/
theorem shared_store_stale :
    ¬ ∀ es : List (Bool × PayloadEvent Unit Nat Bool (Option (List UInt8))),
      Runs.Along sharedStep (SharedLegal id) (sharedInit (fun _ => some ()) plainWorld) es →
        Runs.Along sharedStep (StoreCurrent id) (sharedInit (fun _ => some ()) plainWorld) es := by
  intro h
  have hrun := h [(false, .transformCaps plainPlatform .sink hostCaps none),
      (false, .transform plainPlatform 0 0), (true, .transform plainPlatform 1 9),
      (false, .transform plainPlatform 0 0)] <| by
    apply Runs.along_of_forall
    intro e he s
    have hp : e.2.platform = plainPlatform := by
      simp only [List.mem_cons, List.not_mem_nil, or_false] at he
      rcases he with rfl | rfl | rfl | rfl <;> rfl
    exact show OverwritesDecryptToHost id e.2.platform from hp ▸ plainPlatform_overwrites
  have hlast := (((hrun.2 _ rfl).2 _ rfl).2 _ rfl).1 rfl
  revert hlast
  decide

end GstSvpExt
