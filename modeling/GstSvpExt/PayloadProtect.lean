import GstSvpExt.PayloadRun

/-!
# No clear video leaves the payloader unprotected

Over any run of callbacks the flag is what the last caps call with a known direction found in its
caps (`payloadRun_flag`), and the cache, once set, is what the process store holds (`CacheStored`,
kept by every step), so at the return of a transform the store holds the flag unless that transform's
own write to it failed.
-/

namespace GstSvpExt

variable {C B β σ : Type}

theorem hasDecryptToHost_iff (caps : Option GstCaps) :
    hasDecryptToHost caps = true ↔
      ∃ structures, caps = some structures ∧ ∃ s ∈ structures, s.getBoolean "decrypt-to-host" = some true := by
  cases caps with
  | none => simp [hasDecryptToHost]
  | some structures => simp [hasDecryptToHost]

/-- The caps of a caps call with a known direction. -/
def PayloadEvent.knownCaps : PayloadEvent C B β σ → Option (Option GstCaps)
  | .transformCaps _ direction caps _ => if direction = .unknown then none else some caps
  | _ => none

/-- The caps of the most recent caps call with a known direction. -/
def lastKnownCaps (es : List (PayloadEvent C B β σ)) : Option (Option GstCaps) :=
  (es.filterMap PayloadEvent.knownCaps).getLast?

theorem flag_eq_knownCaps (e : PayloadEvent C B β σ) (flag : Bool) :
    e.flag flag = (e.knownCaps.map hasDecryptToHost).getD flag := by
  cases e with
  | transformCaps p direction caps filter => cases direction <;> rfl
  | prepare p inbuf => rfl
  | transform p inbuf outbuf => rfl
  | transformInPlace p buffer => rfl

/-- The `decryptToHost` setter of the installed table: where it succeeds the store holds the value,
where it fails the store is as it was. -/
def SetsDecryptToHost (stored : σ → Option (List UInt8)) (p : Platform C B β σ) : Prop :=
  ∀ q ∈ p.processors, q.name = "decryptToHost" → ∀ handler ∈ q.setter, ∀ c value s,
    stored (handler c "decryptToHost" value s).2.2 =
      if (handler c "decryptToHost" value s).1 then some value else stored s

theorem setDecryptToHost_stored {stored : σ → Option (List UInt8)} {p : Platform C B β σ}
    (hset : SetsDecryptToHost stored p) (svpCtx : Option C) (d : Bool) (s : σ) :
    stored (setDecryptToHost p svpCtx d s).2 =
      if (setDecryptToHost p svpCtx d s).1 then some (gbooleanBytes d) else stored s := by
  cases svpCtx with
  | none => simp [setDecryptToHost, set_null]
  | some c =>
    simp only [setDecryptToHost, set_eq]
    cases hq : processorFor p.processors "decryptToHost" with
    | none => simp
    | some q =>
      have hmem := List.mem_of_find?_eq_some hq
      have hname : "decryptToHost" = q.name := by simpa using List.find?_some hq
      by_cases hz : q.expectedValueSize = 4
      · cases hs : q.setter with
        | none => simp [hz, hs]
        | some handler =>
          have h := hset q hmem hname.symm handler hs c (gbooleanBytes d) s
          simpa [hz, hs] using h
      · simp [hz]

/-- Once set, the cache is what the store holds. -/
def CacheStored (stored : σ → Option (List UInt8)) (s : PayloadState C B β σ) : Prop :=
  s.self.priv.decryptToHostSet = true →
    stored s.world.store = some (gbooleanBytes s.self.priv.decryptToHost)

/-- The update keeps cache and store together; and the store then holds the value, or the write failed. -/
theorem update_stored {stored : σ → Option (List UInt8)} {p : Platform C B β σ}
    (hset : SetsDecryptToHost stored p) {priv : SvpPayloadPrivate C} {s : σ}
    (hc : priv.decryptToHostSet = true → stored s = some (gbooleanBytes priv.decryptToHost)) (d : Bool) :
    ((updatePriv p priv s d).decryptToHostSet = true →
        stored (updateStore p priv s d) = some (gbooleanBytes (updatePriv p priv s d).decryptToHost)) ∧
      (stored (updateStore p priv s d) = some (gbooleanBytes d) ∨
        .processStoreSetValue priv.svpCtx "decryptToHost" (gbooleanBytes d) false ∈
          updateCalls (B := B) p priv s d) := by
  have hstored := setDecryptToHost_stored hset priv.svpCtx d s
  unfold updatePriv updateStore updateCalls
  by_cases hh : priv.holds d = true
  · simp only [if_pos hh]
    have hd : priv.decryptToHostSet = true ∧ priv.decryptToHost = d := by
      simpa [SvpPayloadPrivate.holds] using hh
    exact ⟨hc, Or.inl (hd.2 ▸ hc hd.1)⟩
  · simp only [if_neg hh]
    by_cases hok : (setDecryptToHost p priv.svpCtx d s).1 = true
    · rw [if_pos hok] at hstored
      rw [hstored, if_pos hok]
      exact ⟨fun _ => rfl, Or.inl rfl⟩
    · rw [if_neg hok] at hstored
      simp only [if_neg hok, hstored]
      refine ⟨hc, Or.inr ?_⟩
      rw [Bool.not_eq_true] at hok
      simp [hok]

section
variable [DecidableEq B]

/-- The flag after a run. -/
theorem payloadRun_flag (s : PayloadState C B β σ) (es : List (PayloadEvent C B β σ)) :
    (payloadRun s es).self.decryptToHostEnabled =
      ((lastKnownCaps es).map hasDecryptToHost).getD s.self.decryptToHostEnabled := by
  induction es generalizing s with
  | nil => rfl
  | cons e es ih =>
    rw [payloadRun_cons, ih, (payloadStep_self s e).1, flag_eq_knownCaps]
    cases hk : e.knownCaps with
    | none => simp [lastKnownCaps, hk]
    | some caps =>
      simp only [lastKnownCaps, List.filterMap_cons, hk, List.getLast?_cons]
      cases (es.filterMap PayloadEvent.knownCaps).getLast? <;> rfl

theorem payloadStep_cacheStored {stored : σ → Option (List UInt8)} {s : PayloadState C B β σ}
    {e : PayloadEvent C B β σ} (hset : SetsDecryptToHost stored e.platform) (hc : CacheStored stored s) :
    CacheStored stored (payloadStep s e) := by
  obtain ⟨hpriv, hstore⟩ := payloadStep_update s e
  unfold CacheStored
  rw [hpriv, hstore]
  cases e.updates with
  | true => exact (update_stored (B := B) hset hc s.self.decryptToHostEnabled).1
  | false => exact hc

theorem payloadRun_cacheStored {stored : σ → Option (List UInt8)} {s : PayloadState C B β σ}
    {es : List (PayloadEvent C B β σ)} (hset : ∀ e ∈ es, SetsDecryptToHost stored e.platform)
    (hc : CacheStored stored s) : CacheStored stored (payloadRun s es) := by
  induction es generalizing s with
  | nil => exact hc
  | cons e es ih =>
    exact ih (fun f hf => hset f (List.mem_cons_of_mem _ hf))
      (payloadStep_cacheStored (hset e List.mem_cons_self) hc)

/-- A transform that returns `GST_FLOW_OK` hands on a protected buffer. -/
theorem transform_protects {s : PayloadState C B β σ} {p : Platform C B β σ} {inbuf outbuf : B}
    (hok : (payloadCall s (.transform p inbuf outbuf)).1 = .transformed .ok) :
    .isBufferUsingSecureMemory s.self.priv.svpCtx outbuf true ∈ newCalls s (.transform p inbuf outbuf) ∨
      .transformFromCleardata s.self.priv.svpCtx outbuf true ∈ newCalls s (.transform p inbuf outbuf) ∨
      s.self.decryptToHostEnabled = true := by
  rw [transform_result, PayloadReply.transformed.injEq] at hok
  rw [newCalls_transform]
  cases hf : s.self.decryptToHostEnabled with
  | true => exact Or.inr (Or.inr rfl)
  | false =>
    rw [hf, Bool.or_false] at hok
    cases hsec : p.isSecure s.self.priv.svpCtx (s.world.bufs inbuf) with
    | true =>
      simp only [hsec, if_true] at hok
      have hio : inbuf = outbuf := by
        by_contra hne
        simp [hne] at hok
      exact Or.inl (by simp [hio])
    | false =>
      simp only [hsec, Bool.false_eq_true, if_false] at hok
      cases hconv : (p.fromCleardata s.self.priv.svpCtx (s.world.bufs outbuf)).1 with
      | true => exact Or.inr (Or.inl (by simp))
      | false => simp [hconv] at hok

/-- At the return of a transform the store holds the flag, or the write of it has failed. -/
theorem transform_stores {stored : σ → Option (List UInt8)} {s : PayloadState C B β σ} {p : Platform C B β σ}
    (hset : SetsDecryptToHost stored p) (hc : CacheStored stored s) (inbuf outbuf : B) :
    stored (payloadStep s (.transform p inbuf outbuf)).world.store =
        some (gbooleanBytes s.self.decryptToHostEnabled) ∨
      .processStoreSetValue s.self.priv.svpCtx "decryptToHost" (gbooleanBytes s.self.decryptToHostEnabled) false ∈
        newCalls s (.transform p inbuf outbuf) := by
  rw [(payloadStep_update s (.transform p inbuf outbuf)).2, newCalls_transform]
  rcases (update_stored (B := B) hset hc s.self.decryptToHostEnabled).2 with h | h
  · exact Or.inl h
  · exact Or.inr (List.mem_append_left _ h)

/-- A callback that hands on a buffer is a transform to it. -/
theorem outbuf_transform {e : PayloadEvent C B β σ} {outbuf : B} (ho : e.outbuf = some outbuf) :
    ∃ inbuf, ∀ s, payloadCall s e = payloadCall s (.transform e.platform inbuf outbuf) := by
  cases e with
  | transformCaps p direction caps filter => exact absurd ho (Option.some_ne_none _).symm
  | prepare p inbuf => exact absurd ho (Option.some_ne_none _).symm
  | transform p inbuf out =>
    obtain rfl := Option.some.inj ho
    exact ⟨inbuf, fun s => rfl⟩
  | transformInPlace p buffer =>
    obtain rfl := Option.some.inj ho
    exact ⟨buffer, fun s => payloadCall_inPlace s p buffer⟩

/-- The flag of a run from a new element is set only by `decrypt-to-host=true` in its last caps. -/
theorem flag_from_caps (p₀ : Platform C B β σ) (w₀ : PayloadWorld C B β σ) (es : List (PayloadEvent C B β σ))
    (hflag : (payloadRun (payloadInit p₀ w₀) es).self.decryptToHostEnabled = true) :
    ∃ structures, lastKnownCaps es = some (some structures) ∧
      ∃ t ∈ structures, t.getBoolean "decrypt-to-host" = some true := by
  rw [payloadRun_flag] at hflag
  cases hl : lastKnownCaps es with
  | none =>
    rw [hl] at hflag
    exact absurd hflag Bool.false_ne_true
  | some caps =>
    rw [hl] at hflag
    obtain ⟨structures, rfl, h⟩ := (hasDecryptToHost_iff caps).1 hflag
    exact ⟨structures, rfl, h⟩

/-- **No clear video leaves the payloader unprotected.** In any run from `svp_payload_init` the flag is
set only by the most recent caps with a known direction; and a transform that then returns
`GST_FLOW_OK` hands on a secure buffer, one converted in that callback, or was under the flag, with
the flag in the process store unless its own write to the store failed. -/
theorem no_clear_video_unprotected (p₀ : Platform C B β σ) (w₀ : PayloadWorld C B β σ)
    (es : List (PayloadEvent C B β σ)) :
    let s := payloadRun (payloadInit p₀ w₀) es
    (s.self.decryptToHostEnabled = true → ∃ structures, lastKnownCaps es = some (some structures) ∧
        ∃ t ∈ structures, t.getBoolean "decrypt-to-host" = some true) ∧
      ∀ (e : PayloadEvent C B β σ) (outbuf : B), e.outbuf = some outbuf →
        (payloadCall s e).1 = .transformed .ok →
        (.isBufferUsingSecureMemory s.self.priv.svpCtx outbuf true ∈ newCalls s e ∨
          .transformFromCleardata s.self.priv.svpCtx outbuf true ∈ newCalls s e ∨
          s.self.decryptToHostEnabled = true) ∧
        ∀ stored : σ → Option (List UInt8), (∀ f ∈ es ++ [e], SetsDecryptToHost stored f.platform) →
          stored (payloadStep s e).world.store = some (gbooleanBytes s.self.decryptToHostEnabled) ∨
          .processStoreSetValue s.self.priv.svpCtx "decryptToHost"
            (gbooleanBytes s.self.decryptToHostEnabled) false ∈ newCalls s e := by
  intro s
  refine ⟨flag_from_caps p₀ w₀ es, ?_⟩
  intro e outbuf hout hok
  obtain ⟨inbuf, hcall⟩ := outbuf_transform hout
  have hstep : payloadStep s e = payloadStep s (.transform e.platform inbuf outbuf) := by
    rw [payloadStep, payloadStep, hcall]
  have hnew : newCalls s e = newCalls s (.transform e.platform inbuf outbuf) := by
    rw [newCalls, newCalls, hstep]
  rw [hcall] at hok
  rw [hnew, hstep]
  refine ⟨transform_protects hok, ?_⟩
  intro stored hset
  have hc : CacheStored stored s :=
    payloadRun_cacheStored (fun f hf => hset f (List.mem_append_left _ hf)) fun h => absurd h Bool.false_ne_true
  exact transform_stores (hset e (by simp)) hc inbuf outbuf

end

theorem plainPlatform_sets : SetsDecryptToHost id plainPlatform := by
  intro q hq _ handler hh c value s
  obtain rfl := List.mem_singleton.1 hq
  obtain rfl := Option.some.inj hh
  rfl

/-- Buffer 0 is clear and the caps ask for protection: the transform converts its copy, buffer 9. -/
theorem no_clear_video_unprotected_clear :
    let s := payloadRun (payloadInit plainPlatform plainWorld)
      [.transformCaps plainPlatform .sink protectedCaps none, .prepare plainPlatform 0]
    (.isBufferUsingSecureMemory s.self.priv.svpCtx 9 true ∈ newCalls s (.transform plainPlatform 0 9) ∨
      .transformFromCleardata s.self.priv.svpCtx 9 true ∈ newCalls s (.transform plainPlatform 0 9) ∨
      s.self.decryptToHostEnabled = true) ∧
    ((payloadStep s (.transform plainPlatform 0 9)).world.store =
        some (gbooleanBytes s.self.decryptToHostEnabled) ∨
      .processStoreSetValue s.self.priv.svpCtx "decryptToHost" (gbooleanBytes s.self.decryptToHostEnabled)
        false ∈ newCalls s (.transform plainPlatform 0 9)) := by
  intro s
  obtain ⟨h1, h2⟩ := (no_clear_video_unprotected plainPlatform plainWorld
    [.transformCaps plainPlatform .sink protectedCaps none, .prepare plainPlatform 0]).2
    (.transform plainPlatform 0 9) 9 rfl rfl
  refine ⟨h1, h2 id ?_⟩
  intro f hf
  have hp : f.platform = plainPlatform := by
    simp only [List.cons_append, List.nil_append, List.mem_cons, List.not_mem_nil, or_false] at hf
    rcases hf with rfl | rfl | rfl <;> rfl
  exact hp ▸ plainPlatform_sets

end GstSvpExt
