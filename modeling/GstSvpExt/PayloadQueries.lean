import GstSvpExt.PayloadPairs

/-!
# Caps queries and buffer protection

A caps call that does not stand for the negotiated input caps still writes the flag. Two runs, with and
without such a call, are compared by what they show of every later buffer (`observe`). While the flags
agree so does everything shown (`observations_congr`); while they differ, the first callback that reads
the flag shows it (`observations_differ`), unless a caps call with a known direction comes first.
-/

namespace GstSvpExt

variable {C B β σ : Type}

/-- A caps call that is only a query: in the direction of the source pad, or one for the sink pad that
fails. -/
def CapsCall.IsQuery (c : CapsCall C B β σ) : Prop :=
  c.direction = .src ∨
    (c.direction = .sink ∧ hasDecryptToHost c.caps = false ∧ (c.platform.transformCaps c.caps).1 = false)

/-- What a buffer callback shows: the output buffer chosen; or the flow result, whether the buffer was
converted, and the value given to the process store, if any. -/
inductive PayloadObs (B : Type)
  | prepared (outbuf : Option B)
  | transformed (reply : PayloadReply B) (converted : Bool) (pushed : Option (List UInt8))
deriving DecidableEq, Repr

def PlatformCall.isConversion : PlatformCall C B → Bool
  | .transformFromCleardata _ _ _ => true
  | _ => false

/-- The value given to the process store under `decryptToHost`. -/
def PlatformCall.pushed : PlatformCall C B → Option (List UInt8)
  | .processStoreSetValue _ name value _ => if name = "decryptToHost" then some value else none
  | _ => none

section
variable [DecidableEq B]

def observe (s : PayloadState C B β σ) (e : PayloadEvent C B β σ) : Option (PayloadObs B) :=
  match e with
  | .transformCaps _ _ _ _ => none
  | .prepare p inbuf => some (.prepared (svpPayloadPrepareOutputBuffer p s.self s.world inbuf).2.1)
  | .transform _ _ _ | .transformInPlace _ _ =>
    some (.transformed (payloadCall s e).1 ((newCalls s e).any PlatformCall.isConversion)
      ((newCalls s e).findSome? PlatformCall.pushed))

/-- What every buffer callback of a run shows. -/
def observations : PayloadState C B β σ → List (PayloadEvent C B β σ) → List (Option (PayloadObs B))
  | _, [] => []
  | s, e :: es => observe s e :: observations (payloadStep s e) es

/-- A buffer callback reads the flag before a caps call with a known direction rewrites it: any
transform, or the prepare of a buffer outside secure memory. Nothing before it writes a buffer. -/
def ReadsFlag (svpCtx : Option C) (bufs : B → β) : List (PayloadEvent C B β σ) → Prop
  | [] => False
  | .transformCaps _ direction _ _ :: es => direction = .unknown ∧ ReadsFlag svpCtx bufs es
  | .prepare p inbuf :: es => p.isSecure svpCtx (bufs inbuf) = false ∨ ReadsFlag svpCtx bufs es
  | .transform _ _ _ :: _ | .transformInPlace _ _ :: _ => True

/-- A copy is never the buffer it was made of. -/
def CopiesFresh (e : PayloadEvent C B β σ) : Prop :=
  match e with
  | .prepare p inbuf => ∀ contents, (p.bufferCopy contents).1 ≠ inbuf
  | _ => True

/-! ## What a callback shows depends on -/

/-- The same element, buffers and store, whatever was called before. -/
structure SameState (s t : PayloadState C B β σ) : Prop where
  self : s.self = t.self
  bufs : s.world.bufs = t.world.bufs
  store : s.world.store = t.world.store

/-- The same but for the flag. -/
structure SameButFlag (s t : PayloadState C B β σ) : Prop where
  priv : s.self.priv = t.self.priv
  inPlace : s.self.inPlace = t.self.inPlace
  bufs : s.world.bufs = t.world.bufs
  store : s.world.store = t.world.store

omit [DecidableEq B] in
theorem updateCalls_isConversion (p : Platform C B β σ) (priv : SvpPayloadPrivate C) (store : σ) (d : Bool) :
    (updateCalls (B := B) p priv store d).any PlatformCall.isConversion = false := by
  unfold updateCalls
  split <;> rfl

omit [DecidableEq B] in
theorem updateCalls_pushed (p : Platform C B β σ) (priv : SvpPayloadPrivate C) (store : σ) (d : Bool) :
    (updateCalls (B := B) p priv store d).findSome? PlatformCall.pushed =
      if priv.holds d then none else some (gbooleanBytes d) := by
  unfold updateCalls
  split <;> rfl

/-- What a transform shows. -/
theorem observe_transform (s : PayloadState C B β σ) (p : Platform C B β σ) (inbuf outbuf : B) :
    observe s (.transform p inbuf outbuf) = some (.transformed
      (payloadCall s (.transform p inbuf outbuf)).1
      (!(p.isSecure s.self.priv.svpCtx (s.world.bufs inbuf) || s.self.decryptToHostEnabled))
      (if s.self.priv.holds s.self.decryptToHostEnabled then none
        else some (gbooleanBytes s.self.decryptToHostEnabled))) := by
  simp only [observe, newCalls_transform, List.any_append, updateCalls_isConversion, List.findSome?_append,
    updateCalls_pushed]
  congr 2
  · cases p.isSecure s.self.priv.svpCtx (s.world.bufs inbuf) || s.self.decryptToHostEnabled <;> rfl
  · cases p.isSecure s.self.priv.svpCtx (s.world.bufs inbuf) || s.self.decryptToHostEnabled <;>
      cases s.self.priv.holds s.self.decryptToHostEnabled <;> rfl

theorem observe_inPlace (s : PayloadState C B β σ) (p : Platform C B β σ) (buffer : B) :
    observe s (.transformInPlace p buffer) = observe s (.transform p buffer buffer) ∧
      payloadStep s (.transformInPlace p buffer) = payloadStep s (.transform p buffer buffer) := by
  have hcall := payloadCall_inPlace s p buffer
  have hstep : payloadStep s (.transformInPlace p buffer) = payloadStep s (.transform p buffer buffer) := by
    rw [payloadStep, payloadStep, hcall]
  refine ⟨?_, hstep⟩
  simp only [observe, newCalls, hstep, hcall]

/-- While everything agrees a callback shows the same, and everything still agrees. -/
theorem observe_congr {s t : PayloadState C B β σ} (h : SameState s t) (e : PayloadEvent C B β σ) :
    observe s e = observe t e ∧ SameState (payloadStep s e) (payloadStep t e) := by
  obtain ⟨self, ⟨bufs, store, calls⟩⟩ := s
  obtain ⟨self', ⟨bufs', store', calls'⟩⟩ := t
  obtain ⟨rfl, rfl, rfl⟩ := h
  have htransform : ∀ (p : Platform C B β σ) (i o : B),
      observe ⟨self, ⟨bufs, store, calls⟩⟩ (.transform p i o) =
          observe ⟨self, ⟨bufs, store, calls'⟩⟩ (.transform p i o) ∧
        SameState (payloadStep ⟨self, ⟨bufs, store, calls⟩⟩ (.transform p i o))
          (payloadStep ⟨self, ⟨bufs, store, calls'⟩⟩ (.transform p i o)) := by
    intro p i o
    refine ⟨by simp only [observe_transform, transform_result], ?_⟩
    simp only [payloadStep, payloadCall, svpPayloadTransform, protectBuffer_eq]
    split <;> exact ⟨rfl, rfl, rfl⟩
  cases e with
  | transformCaps p direction caps filter =>
    obtain ⟨h1, h2, h3⟩ := transformCaps_frame p self ⟨bufs, store, calls⟩ direction caps filter
    obtain ⟨h1', h2', h3'⟩ := transformCaps_frame p self ⟨bufs, store, calls'⟩ direction caps filter
    exact ⟨rfl, h1.trans h1'.symm, h2.trans h2'.symm, h3.trans h3'.symm⟩
  | prepare p inbuf =>
    simp only [observe, payloadStep, payloadCall, svpPayloadPrepareOutputBuffer]
    split
    · exact ⟨rfl, rfl, rfl, rfl⟩
    · split
      · split <;> exact ⟨rfl, rfl, rfl, rfl⟩
      · exact ⟨rfl, rfl, rfl, rfl⟩
  | transform p inbuf outbuf => exact htransform p inbuf outbuf
  | transformInPlace p buffer =>
    obtain ⟨h1, h2⟩ := observe_inPlace (⟨self, ⟨bufs, store, calls⟩⟩ : PayloadState C B β σ) p buffer
    obtain ⟨h1', h2'⟩ := observe_inPlace (⟨self, ⟨bufs, store, calls'⟩⟩ : PayloadState C B β σ) p buffer
    rw [h1, h2, h1', h2']
    exact htransform p buffer buffer

theorem observations_congr {s t : PayloadState C B β σ} (h : SameState s t) (es : List (PayloadEvent C B β σ)) :
    observations s es = observations t es := by
  induction es generalizing s t with
  | nil => rfl
  | cons e es ih =>
    obtain ⟨ho, hs⟩ := observe_congr h e
    rw [observations, observations, ho, ih hs]

theorem gbooleanBytes_injective {d d' : Bool} (h : gbooleanBytes d = gbooleanBytes d') : d = d' := by
  revert h
  cases d <;> cases d' <;> decide

/-- Under different flags a transform shows different pushes: a cache that holds one value does not
hold the other. -/
theorem transform_differs {s t : PayloadState C B β σ} (h : SameButFlag s t)
    (hne : s.self.decryptToHostEnabled ≠ t.self.decryptToHostEnabled) (p : Platform C B β σ) (inbuf outbuf : B) :
    observe s (.transform p inbuf outbuf) ≠ observe t (.transform p inbuf outbuf) := by
  rw [observe_transform, observe_transform]
  intro heq
  simp only [Option.some.injEq, PayloadObs.transformed.injEq] at heq
  obtain ⟨-, -, hpush⟩ := heq
  rw [h.priv] at hpush
  split at hpush <;> split at hpush
  · rename_i h1 h2
    simp only [SvpPayloadPrivate.holds, Bool.and_eq_true, beq_iff_eq] at h1 h2
    exact hne (h1.2.symm.trans h2.2)
  · exact absurd hpush (by simp)
  · exact absurd hpush (by simp)
  · exact hne (gbooleanBytes_injective (Option.some.inj hpush))

/-- Outside the in-place mode prepare hands back the input or the copy. -/
theorem prepare_outbuf {self : SvpPayload C} (hip : self.inPlace = false) (p : Platform C B β σ)
    (w : PayloadWorld C B β σ) (inbuf : B) :
    (svpPayloadPrepareOutputBuffer p self w inbuf).2.1 =
      some (if p.isSecure self.priv.svpCtx (w.bufs inbuf) || self.decryptToHostEnabled then inbuf
        else (p.bufferCopy (w.bufs inbuf)).1) := by
  simp only [svpPayloadPrepareOutputBuffer, hip]
  split <;> rfl

/-- A secure buffer is prepared alike whatever the flag. -/
theorem prepare_secure {self : SvpPayload C} {p : Platform C B β σ} {w : PayloadWorld C B β σ} {inbuf : B}
    (hsec : p.isSecure self.priv.svpCtx (w.bufs inbuf) = true) :
    svpPayloadPrepareOutputBuffer p self w inbuf = (.ok, some inbuf,
      { w with calls := w.calls ++ [.isBufferUsingSecureMemory self.priv.svpCtx inbuf true] }) := by
  simp only [svpPayloadPrepareOutputBuffer, hsec, Bool.true_or, if_true]

/-- A caps call in no known direction leaves the flags apart. -/
theorem SameButFlag.caps_unknown {s t : PayloadState C B β σ} (h : SameButFlag s t) {p : Platform C B β σ}
    {caps filter : Option GstCaps} :
    SameButFlag (payloadStep s (.transformCaps p .unknown caps filter))
      (payloadStep t (.transformCaps p .unknown caps filter)) :=
  ⟨h.priv, h.inPlace, h.bufs, h.store⟩

/-- A caps call in a known direction makes the flags agree: both are what the caps say. -/
theorem SameButFlag.caps_known {s t : PayloadState C B β σ} (h : SameButFlag s t) {p : Platform C B β σ}
    {direction : GstPadDirection} (hd : direction ≠ .unknown) {caps filter : Option GstCaps} :
    SameState (payloadStep s (.transformCaps p direction caps filter))
      (payloadStep t (.transformCaps p direction caps filter)) := by
  obtain ⟨h1, h2, h3⟩ := transformCaps_frame p s.self s.world direction caps filter
  obtain ⟨h1', h2', h3'⟩ := transformCaps_frame p t.self t.world direction caps filter
  rw [capsFlag, if_neg hd] at h1 h1'
  refine ⟨?_, h2.trans (h.bufs.trans h2'.symm), h3.trans (h.store.trans h3'.symm)⟩
  simp only [payloadStep, payloadCall, h1, h1', h.priv, h.inPlace]

/-- The prepare of a clear buffer hands the input back in exactly one of the two runs. -/
theorem prepare_differs {s t : PayloadState C B β σ} (h : SameButFlag s t)
    (hne : s.self.decryptToHostEnabled ≠ t.self.decryptToHostEnabled) (hip : t.self.inPlace = false)
    {p : Platform C B β σ} {inbuf : B} (hcopy : CopiesFresh (.prepare p inbuf))
    (hclear : p.isSecure t.self.priv.svpCtx (t.world.bufs inbuf) = false) :
    observe s (.prepare p inbuf) ≠ observe t (.prepare p inbuf) := by
  intro heq
  have hfresh : (p.bufferCopy (t.world.bufs inbuf)).1 ≠ inbuf := hcopy _
  rw [observe, observe, prepare_outbuf hip, prepare_outbuf (h.inPlace.trans hip), h.priv, h.bufs, hclear] at heq
  revert hne heq
  cases s.self.decryptToHostEnabled <;> cases t.self.decryptToHostEnabled <;> simp [hfresh, hfresh.symm]

/-- **Two runs that differ in the flag** show the same exactly while no callback reads it. -/
theorem observations_differ {s t : PayloadState C B β σ} (h : SameButFlag s t)
    (hne : s.self.decryptToHostEnabled ≠ t.self.decryptToHostEnabled) (hip : t.self.inPlace = false)
    {es : List (PayloadEvent C B β σ)} (hcopy : ∀ e ∈ es, CopiesFresh e) :
    observations s es = observations t es ↔ ¬ ReadsFlag t.self.priv.svpCtx t.world.bufs es := by
  induction es generalizing s t with
  | nil => simp [observations, ReadsFlag]
  | cons e es ih =>
    have hcopies : ∀ f ∈ es, CopiesFresh f := fun f hf => hcopy f (List.mem_cons_of_mem _ hf)
    simp only [observations, List.cons.injEq]
    cases e with
    | transformCaps p direction caps filter =>
      simp only [observe, true_and]
      by_cases hd : direction = .unknown
      · subst hd
        rw [ih h.caps_unknown hne hip hcopies]
        simp only [ReadsFlag, true_and]
        rfl
      · simp only [observations_congr (h.caps_known hd), ReadsFlag, hd, false_and, not_false_eq_true]
    | prepare p inbuf =>
      cases hs : p.isSecure t.self.priv.svpCtx (t.world.bufs inbuf) with
      | true =>
        have hs' : p.isSecure s.self.priv.svpCtx (s.world.bufs inbuf) = true := by rw [h.priv, h.bufs, hs]
        have hsame : SameButFlag (payloadStep s (.prepare p inbuf)) (payloadStep t (.prepare p inbuf)) := by
          simp only [payloadStep, payloadCall, prepare_secure hs, prepare_secure hs']
          exact ⟨h.priv, h.inPlace, h.bufs, h.store⟩
        have hbufs : (payloadStep t (.prepare p inbuf)).world.bufs = t.world.bufs := by
          simp only [payloadStep, payloadCall, prepare_secure hs]
        simp only [observe, prepare_secure hs, prepare_secure hs', true_and, ReadsFlag, hs, Bool.true_eq_false,
          false_or]
        rw [ih hsame hne hip hcopies, hbufs]
        rfl
      | false =>
        simp only [ReadsFlag, hs, true_or, not_true_eq_false, iff_false]
        exact fun heq => prepare_differs h hne hip (hcopy _ List.mem_cons_self) hs heq.1
    | transform p inbuf outbuf =>
      simp only [ReadsFlag, not_true_eq_false, iff_false]
      exact fun heq => transform_differs h hne p inbuf outbuf heq.1
    | transformInPlace p buffer =>
      simp only [ReadsFlag, not_true_eq_false, iff_false, observe_inPlace]
      exact fun heq => transform_differs h hne p buffer buffer heq.1

theorem payloadRun_inPlace (s : PayloadState C B β σ) (es : List (PayloadEvent C B β σ)) :
    (payloadRun s es).self.inPlace = s.self.inPlace := by
  induction es generalizing s with
  | nil => rfl
  | cons e es ih => rw [payloadRun_cons, ih, (payloadStep_self s e).2.1]

/-- **Caps queries interfere** with the buffers after them exactly when they find another flag than the
element's and some callback reads it before the next caps call with a known direction. -/
theorem caps_query_unobservable (p₀ : Platform C B β σ) (w₀ : PayloadWorld C B β σ)
    (before after : List (PayloadEvent C B β σ)) (query : CapsCall C B β σ) (hquery : query.IsQuery)
    (hcopy : ∀ e ∈ after, CopiesFresh e) :
    let s := payloadRun (payloadInit p₀ w₀) before
    observations (payloadStep s query.event) after = observations s after ↔
      hasDecryptToHost query.caps = s.self.decryptToHostEnabled ∨
        ¬ ReadsFlag s.self.priv.svpCtx s.world.bufs after := by
  intro s
  have hd : query.direction ≠ .unknown := by
    rcases hquery with h | ⟨h, -⟩ <;> rw [h] <;> decide
  obtain ⟨h1, h2, h3⟩ := transformCaps_frame query.platform s.self s.world query.direction query.caps query.filter
  rw [capsFlag, if_neg hd] at h1
  have hself : (payloadStep s query.event).self =
      { s.self with decryptToHostEnabled := hasDecryptToHost query.caps } := h1
  by_cases hf : hasDecryptToHost query.caps = s.self.decryptToHostEnabled
  · have hsame : SameState (payloadStep s query.event) s := ⟨hself.trans (by rw [hf]), h2, h3⟩
    simp only [observations_congr hsame, hf, true_or]
  · have hsame : SameButFlag (payloadStep s query.event) s :=
      ⟨by rw [hself], by rw [hself], h2, h3⟩
    have hip : s.self.inPlace = false := payloadRun_inPlace (payloadInit p₀ w₀) before
    rw [observations_differ hsame (by rw [hself]; exact hf) hip hcopy]
    simp only [hf, false_or]

end

/-- A query for caps like those negotiated, before a clear buffer. -/
theorem caps_query_unobservable_clear :
    observations (payloadStep (payloadRun (payloadInit plainPlatform plainWorld) [])
        (CapsCall.event ⟨plainPlatform, .src, protectedCaps, none⟩))
        [.prepare plainPlatform 0, .transform plainPlatform 0 9] =
      observations (payloadRun (payloadInit plainPlatform plainWorld) [])
        [.prepare plainPlatform 0, .transform plainPlatform 0 9] := by
  refine (caps_query_unobservable plainPlatform plainWorld [] _ ⟨plainPlatform, .src, protectedCaps, none⟩
    (Or.inl rfl) ?_).2 (Or.inl rfl)
  intro e he
  simp only [List.mem_cons, List.not_mem_nil, or_false] at he
  rcases he with rfl | rfl
  · exact fun _ => show (9 : Nat) ≠ 0 by decide
  · trivial

/-- A query from downstream with `decrypt-to-host=true`: the next clear buffer is passed through. -/
theorem caps_query_interferes :
    ¬ ∀ (before after : List (PayloadEvent Unit Nat Bool (Option (List UInt8))))
        (query : CapsCall Unit Nat Bool (Option (List UInt8))), query.IsQuery → (∀ e ∈ after, CopiesFresh e) →
      observations (payloadStep (payloadRun (payloadInit plainPlatform plainWorld) before) query.event) after =
        observations (payloadRun (payloadInit plainPlatform plainWorld) before) after := by
  intro h
  have heq := h [] [.prepare plainPlatform 0] ⟨plainPlatform, .src, hostCaps, none⟩ (Or.inl rfl)
    (by
      intro e he
      rw [List.mem_singleton.1 he]
      exact fun _ => show (9 : Nat) ≠ 0 by decide)
  revert heq
  decide

end GstSvpExt
