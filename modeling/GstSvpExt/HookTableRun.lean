import GstSvpExt.FirstMatch
import GstSvpExt.HookTable
import GstSvpExt.Runs
import Mathlib.Data.List.Induction

/-!
# Runs of the hook table

| here | there |
| --- | --- |
| `MetaEvent.load`     | the constructor `gst_svp_init` (`gst_svp_meta.cpp:71-101`) |
| `MetaEvent.register` | one of the sixteen `.._set` functions |
| `MetaEvent.call`     | one of the sixteen functions that call through the table |

The table is read when a call is made. `lastBound` reads the same from the events alone: what the last of
them that binds a hook binds it to. `hook_runs` replaces every call by a call of the function it was last
bound to, made without a table.
-/

namespace GstSvpExt

open Runs FirstMatch

inductive MetaEvent (V : Type)
  | load (context : Option (List (Hook × Option (FnPtr V))))
  | register (h : Hook) (pFunc : Option (FnPtr V))
  | call (h : Hook) (args : h.Args)
  | isMultipleDecryptSupported

/-- A call made, by the function that ran. -/
structure Called (V : Type) where
  hook : Hook
  fn : FnPtr V
  args : hook.Args
  ret : hook.Ret

/-- With the calls made so far, and the answers on multiple decrypt. -/
structure MetaRun (V σ : Type) where
  state : MetaState V σ
  calls : List (Called V)
  answers : List Bool

section
variable {V σ : Type} [DecidableEq V]

def metaStep (device : Device V σ) (s : MetaRun V σ) : MetaEvent V → Option (MetaRun V σ)
  | .load context => some { s with state := gstSvpInit context s.state }
  | .register h pFunc => some { s with state := registerHook h s.state pFunc }
  | .call h args => do
    let fn ← s.state.hooks h
    let (ret, state) ← callThrough device s.state h args
    some { s with state, calls := s.calls ++ [⟨h, fn, args, ret⟩] }
  | .isMultipleDecryptSupported =>
    some { s with answers := s.answers ++ [gstSvpIsMultipleDecryptSupported s.state] }

/-- Before the library is loaded the statics are `NULL`. -/
def metaStart (platform : σ) : MetaRun V σ := ⟨⟨fun _ => none, platform, []⟩, [], []⟩

/-! ## What the events bind -/

/-- What an event binds a hook to, if it does. -/
def binding (h : Hook) : MetaEvent V → Option (Option (FnPtr V))
  | .load none => some (some .implDefault)
  | .load (some registrations) =>
    some (((firstMatch Prod.fst registrations.reverse h).map Prod.snd).getD (some .implDefault))
  | .register h' pFunc => if h' = h then some pFunc else none
  | .call _ _ | .isMultipleDecryptSupported => none

def lastBound (es : List (MetaEvent V)) (h : Hook) : Option (FnPtr V) :=
  (es.reverse.findSome? (binding h)).getD none

/-- A call whose hook is already looked up. -/
structure BoundCall (V : Type) where
  hook : Hook
  fn : FnPtr V
  args : hook.Args

/-- What the call of an event is bound to, by the events before it. -/
def boundCall (pre : List (MetaEvent V)) : MetaEvent V → List (BoundCall V)
  | .call h args => (lastBound pre h).toList.map fun fn => ⟨h, fn, args⟩
  | _ => []

/-- What an event logs: the defaults their line, a load its line where the device has no context. -/
def logOf (pre : List (MetaEvent V)) : MetaEvent V → List LogCall
  | .load none => [⟨.trace, "gst_svp_init_device_context",
      "gst_svp_init_device_context not implemented for this device\n"⟩]
  | .call h _ => if lastBound pre h = some .implDefault then (hookDefault h).2.toList else []
  | _ => []

/-- The answer to an event that asks. -/
def answerOf (pre : List (MetaEvent V)) : MetaEvent V → List Bool
  | .isMultipleDecryptSupported =>
    [match lastBound pre .gstBufferArrayAppendSvpTransform with
      | some (.device _) => true
      | _ => false]
  | _ => []

/-- A call without the table. A default leaves the platform as it is. -/
def BoundCall.serve (device : Device V σ) (platform : σ) (c : BoundCall V) : Called V × σ :=
  match c.fn with
  | .implDefault => (⟨c.hook, c.fn, c.args, (hookDefault c.hook).1⟩, platform)
  | .device f =>
    let (ret, platform) := device c.hook f c.args platform
    (⟨c.hook, c.fn, c.args, ret⟩, platform)

def serveAll (device : Device V σ) : σ → List (BoundCall V) → List (Called V) × σ
  | platform, [] => ([], platform)
  | platform, c :: cs =>
    let (called, platform) := c.serve device platform
    let (rest, platform) := serveAll device platform cs
    (called :: rest, platform)

/-! ## One step -/

variable {device : Device V σ} {s s' : MetaRun V σ} {pre : List (MetaEvent V)} {e : MetaEvent V}

omit [DecidableEq V] in
theorem lastBound_snoc (pre : List (MetaEvent V)) (e : MetaEvent V) (h : Hook) :
    lastBound (pre ++ [e]) h = (binding h e).getD (lastBound pre h) := by
  rw [lastBound, List.reverse_append, List.reverse_singleton, List.singleton_append, List.findSome?_cons]
  cases binding h e with
  | none => rfl
  | some p => rfl

omit [DecidableEq V] in
/-- The last registration of a context counts. -/
theorem foldl_register_hooks (registrations : List (Hook × Option (FnPtr V))) (s : MetaState V σ) (h : Hook) :
    (registrations.foldl (fun s r => registerHook r.1 s r.2) s).hooks h =
      ((firstMatch Prod.fst registrations.reverse h).map Prod.snd).getD (s.hooks h) := by
  induction registrations using List.reverseRecOn with
  | nil => rfl
  | append_singleton rs r ih =>
    rw [List.foldl_append, List.foldl_cons, List.foldl_nil, registerHook_eq, setHook, List.reverse_append,
      List.reverse_singleton, List.singleton_append, firstMatch, List.find?_cons]
    by_cases hr : h = r.1
    · subst hr
      simp
    · simp only [hr, decide_false, Function.update_of_ne hr]
      exact ih

omit [DecidableEq V] in
theorem gstSvpInit_hooks (context : Option (List (Hook × Option (FnPtr V)))) (s : MetaState V σ) (h : Hook) :
    some ((gstSvpInit context s).hooks h) = binding h (.load context) := by
  rw [gstSvpInit_eq]
  cases context with
  | none => rfl
  | some registrations => exact congrArg some (foldl_register_hooks registrations _ h)

/-- A call through the table is a call of what is in it. -/
theorem callHook_bound (device : Device V σ) {s : MetaState V σ} {h : Hook} {fn : FnPtr V}
    (hfn : s.hooks h = some fn) (args : h.Args) :
    ∃ called, (BoundCall.serve device s.platform ⟨h, fn, args⟩).1 = ⟨h, fn, args, called⟩ ∧
      callHook device s h args = some (called,
        { s with platform := (BoundCall.serve device s.platform ⟨h, fn, args⟩).2,
                 log := s.log ++ if fn = .implDefault then (hookDefault h).2.toList else [] }) := by
  unfold callHook
  rw [hfn]
  cases fn with
  | implDefault => exact ⟨_, rfl, rfl⟩
  | device f =>
    refine ⟨_, rfl, ?_⟩
    simp [BoundCall.serve]

/-- **One event**, from a table that holds what the events before it bound. -/
theorem metaStep_spec (hs : ∀ h, s.state.hooks h = lastBound pre h) (hstep : metaStep device s e = some s') :
    (∀ h, s'.state.hooks h = lastBound (pre ++ [e]) h) ∧
      s'.state.log = s.state.log ++ logOf pre e ∧ s'.answers = s.answers ++ answerOf pre e ∧
        ∃ new, serveAll device s.state.platform (boundCall pre e) = (new, s'.state.platform) ∧
          s'.calls = s.calls ++ new := by
  cases e with
  | load context =>
    obtain rfl := Option.some.inj hstep
    have hframe := gstSvpInit_frame context s.state
    refine ⟨?_, ?_, by simp [answerOf], [], by simp [boundCall, serveAll, hframe.1], by simp⟩
    · intro h
      rw [lastBound_snoc, ← gstSvpInit_hooks context s.state h, Option.getD_some]
    · rw [hframe.2]
      cases context <;> rfl
  | register h' pFunc =>
    obtain rfl := Option.some.inj hstep
    rw [registerHook_eq]
    refine ⟨?_, by simp [logOf, setHook], by simp [answerOf], [], by simp [boundCall, serveAll, setHook], by simp⟩
    intro h
    rw [lastBound_snoc, binding, setHook]
    by_cases hh : h' = h
    · subst hh; simp
    · simp [hh, Function.update_of_ne (Ne.symm hh), hs]
  | call h args =>
    simp only [metaStep, Option.bind_eq_bind, Option.bind_eq_some_iff, callThrough_eq] at hstep
    obtain ⟨fn, hfn, ⟨ret, state⟩, hcall, heq⟩ := hstep
    obtain ⟨called, hserve, hcall'⟩ := callHook_bound device hfn args
    rw [hcall'] at hcall
    simp only [Option.some.injEq, Prod.mk.injEq] at hcall
    obtain ⟨rfl, rfl⟩ := hcall
    obtain rfl := Option.some.inj heq
    rw [hs] at hfn
    refine ⟨?_, ?_, by simp [answerOf], [⟨h, fn, args, called⟩], ?_, rfl⟩
    · intro h'
      rw [lastBound_snoc]
      exact hs h'
    · simp only [logOf, hfn, Option.some.injEq]
    · simp only [boundCall, hfn, Option.toList_some, List.map_cons, List.map_nil, serveAll, hserve]
  | isMultipleDecryptSupported =>
    obtain rfl := Option.some.inj hstep
    refine ⟨?_, by simp [logOf], ?_, [], by simp [boundCall, serveAll], by simp⟩
    · intro h
      rw [lastBound_snoc]
      exact hs h
    · simp only [answerOf, gstSvpIsMultipleDecryptSupported, hs]
      cases lastBound pre .gstBufferArrayAppendSvpTransform with
      | none => simp
      | some fn => cases fn <;> simp

/-- A step is undefined in one case only. -/
theorem metaStep_isSome (hs : ∀ h, s.state.hooks h = lastBound pre h) :
    (metaStep device s e).isSome ↔ ∀ h args, e = .call h args → (lastBound pre h).isSome := by
  cases e with
  | call h args =>
    cases hfn : s.state.hooks h with
    | none =>
      refine iff_of_false ?_ fun hcall => ?_
      · simp [metaStep, hfn]
      · rw [hs] at hfn
        simpa [hfn] using hcall h args rfl
    | some fn =>
      obtain ⟨called, -, hcall⟩ := callHook_bound device hfn args
      refine iff_of_true ?_ ?_
      · simp [metaStep, hfn, callThrough_eq, hcall]
      · rintro h' args' he
        cases he
        rw [← hs, hfn]
        rfl
  | _ => simp [metaStep]

/-! ## A whole run -/

omit [DecidableEq V] in
theorem serveAll_append (device : Device V σ) (platform : σ) (cs cs' : List (BoundCall V)) :
    serveAll device platform (cs ++ cs') =
      ((serveAll device platform cs).1 ++ (serveAll device (serveAll device platform cs).2 cs').1,
        (serveAll device (serveAll device platform cs).2 cs').2) := by
  induction cs generalizing platform with
  | nil => rfl
  | cons c cs ih => simp only [List.cons_append, serveAll, ih]

/-- What `metaStep_spec` says of a step, over the steps of a run. -/
theorem metaRun_spec {es : List (MetaEvent V)} (hs : ∀ h, s.state.hooks h = lastBound pre h)
    (hrun : run (metaStep device) s es = some s') :
    (∀ h, s'.state.hooks h = lastBound (pre ++ es) h) ∧
      s'.state.log = s.state.log ++ overPrefixes logOf pre es ∧
      s'.answers = s.answers ++ overPrefixes answerOf pre es ∧
        ∃ new, serveAll device s.state.platform (overPrefixes boundCall pre es) = (new, s'.state.platform) ∧
          s'.calls = s.calls ++ new := by
  induction es generalizing s pre with
  | nil =>
    obtain rfl := Option.some.inj hrun
    simpa [overPrefixes, serveAll] using hs
  | cons e es ih =>
    rw [run_cons, Option.bind_eq_some_iff] at hrun
    obtain ⟨s1, hstep, hrun⟩ := hrun
    obtain ⟨hhooks, hlog, hanswers, new, hserve, hcalls⟩ := metaStep_spec hs hstep
    obtain ⟨hhooks', hlog', hanswers', new', hserve', hcalls'⟩ := ih hhooks hrun
    refine ⟨by simpa using hhooks', ?_, ?_, new ++ new', ?_, ?_⟩
    · rw [hlog', hlog, List.append_assoc, overPrefixes]
    · rw [hanswers', hanswers, List.append_assoc, overPrefixes]
    · rw [overPrefixes, serveAll_append, hserve, hserve']
    · rw [hcalls', hcalls, List.append_assoc]

/-- A run is undefined in one case only. -/
theorem metaRun_isSome {es : List (MetaEvent V)} (hs : ∀ h, s.state.hooks h = lastBound pre h) :
    (run (metaStep device) s es).isSome ↔
      ∀ before h args after, es = before ++ .call h args :: after → (lastBound (pre ++ before) h).isSome := by
  induction es generalizing s pre with
  | nil => simp
  | cons e es ih =>
    rw [run_cons]
    constructor
    · intro hdef before h args after heq
      obtain ⟨s1, hstep⟩ := Option.isSome_iff_exists.1 (Option.isSome_of_isSome_bind hdef)
      rw [hstep, Option.bind_some, ih (metaStep_spec hs hstep).1] at hdef
      cases before with
      | nil =>
        rw [List.nil_append, List.cons.injEq] at heq
        rw [List.append_nil]
        exact (metaStep_isSome hs).1 (Option.isSome_iff_exists.2 ⟨s1, hstep⟩) h args heq.1
      | cons e' before =>
        rw [List.cons_append, List.cons.injEq] at heq
        obtain ⟨rfl, heq⟩ := heq
        simpa using hdef before h args after heq
    · intro hcalls
      have hdef : (metaStep device s e).isSome := by
        rw [metaStep_isSome hs]
        rintro h args rfl
        simpa using hcalls [] h args es rfl
      obtain ⟨s1, hstep⟩ := Option.isSome_iff_exists.1 hdef
      rw [hstep, Option.bind_some, ih (metaStep_spec hs hstep).1]
      intro before h args after heq
      rw [List.append_assoc, List.singleton_append]
      exact hcalls (e :: before) h args after (by rw [heq, List.cons_append])

/-! ## The library -/

omit [DecidableEq V] in
theorem hooks_metaStart (platform : σ) (h : Hook) :
    (metaStart platform : MetaRun V σ).state.hooks h = lastBound [] h := rfl

/-- **Late binding is early binding.** Over any loads, registrations, calls and questions, the run is
undefined exactly when a hook is called that was last bound to `NULL`, or never. Otherwise it makes the
calls, leaves the platform, prints the lines and gives the answers of the same program with every call
replaced by a call of the function its hook was last bound to: hooks do not interfere, and a default reads
and changes nothing. -/
theorem hook_runs (device : Device V σ) (platform : σ) (es : List (MetaEvent V)) :
    ((run (metaStep device) (metaStart platform) es).isSome ↔
        ∀ before h args after, es = before ++ .call h args :: after → (lastBound before h).isSome) ∧
      ∀ s', run (metaStep device) (metaStart platform) es = some s' →
        (s'.calls, s'.state.platform) = serveAll device platform (overPrefixes boundCall [] es) ∧
          s'.state.log = overPrefixes logOf [] es ∧ s'.answers = overPrefixes answerOf [] es := by
  refine ⟨metaRun_isSome (hooks_metaStart platform), ?_⟩
  intro s' hrun
  obtain ⟨-, hlog, hanswers, new, hserve, hcalls⟩ := metaRun_spec (hooks_metaStart platform) hrun
  simp only [metaStart, List.nil_append] at hlog hanswers hserve hcalls
  rw [hserve, hcalls]
  exact ⟨rfl, hlog, hanswers⟩

/-- No `NULL` is registered. -/
def MetaEvent.NonNull : MetaEvent V → Prop
  | .load context => ∀ registrations ∈ context, ∀ r ∈ registrations, r.2 ≠ none
  | .register _ pFunc => pFunc ≠ none
  | .call _ _ | .isMultipleDecryptSupported => True

omit [DecidableEq V] in
theorem binding_nonNull {h : Hook} {p : Option (FnPtr V)} (he : e.NonNull) (hp : binding h e = some p) :
    p.isSome := by
  cases e with
  | load context =>
    cases context with
    | none =>
      obtain rfl := Option.some.inj hp
      rfl
    | some registrations =>
      obtain rfl := Option.some.inj hp
      cases hfirst : firstMatch Prod.fst registrations.reverse h with
      | none => rfl
      | some r =>
        have hmem : r ∈ registrations.reverse := List.mem_of_find?_eq_some hfirst
        exact Option.isSome_iff_ne_none.2 (he registrations rfl r (List.mem_reverse.1 hmem))
  | register h' pFunc =>
    rw [binding] at hp
    split at hp
    · obtain rfl := Option.some.inj hp
      exact Option.isSome_iff_ne_none.2 he
    · cases hp
  | call _ _ => cases hp
  | isMultipleDecryptSupported => cases hp

omit [DecidableEq V] in
/-- Once a hook is bound, it stays bound. -/
theorem lastBound_isSome {es : List (MetaEvent V)} {h : Hook} (hpre : (lastBound pre h).isSome)
    (hes : ∀ e ∈ es, e.NonNull) : (lastBound (pre ++ es) h).isSome := by
  induction es generalizing pre with
  | nil => simpa using hpre
  | cons e es ih =>
    rw [← List.singleton_append, ← List.append_assoc]
    refine ih ?_ fun f hf => hes f (List.mem_cons_of_mem _ hf)
    rw [lastBound_snoc]
    cases hb : binding h e with
    | none => exact hpre
    | some p => exact binding_nonNull (hes e List.mem_cons_self) hb

/-- **A loaded library.** While nobody registers `NULL`, no call after a load goes through `NULL`, and the
run is that of a fresh process: what was registered before the load has no effect on it. -/
theorem loaded_runs (device : Device V σ) (s : MetaRun V σ) (context : Option (List (Hook × Option (FnPtr V))))
    (es : List (MetaEvent V)) (hes : ∀ e ∈ MetaEvent.load context :: es, e.NonNull) :
    ∃ s' t', run (metaStep device) s (.load context :: es) = some s' ∧
      run (metaStep device) (metaStart s.state.platform) (.load context :: es) = some t' ∧
        s'.state.hooks = t'.state.hooks ∧ s'.state.platform = t'.state.platform ∧
          s'.state.log = s.state.log ++ t'.state.log ∧ s'.calls = s.calls ++ t'.calls ∧
            s'.answers = s.answers ++ t'.answers := by
  have hload : ∀ (u : MetaState V σ) h, (gstSvpInit context u).hooks h = lastBound [.load context] h := by
    intro u h
    rw [← List.nil_append [_], lastBound_snoc, ← gstSvpInit_hooks context u h, Option.getD_some]
  have htotal : ∀ u : MetaRun V σ, ∃ u',
      run (metaStep device) { u with state := gstSvpInit context u.state } es = some u' := by
    intro u
    refine Option.isSome_iff_exists.1 ((metaRun_isSome (hload u.state)).2 ?_)
    rintro before h args after rfl
    have hbefore : ∀ e ∈ .load context :: before, e.NonNull := fun e he => hes e (by
      rw [← List.cons_append]; exact List.mem_append_left _ he)
    refine lastBound_isSome ?_ fun e he => hbefore e (List.mem_cons_of_mem _ he)
    rw [← hload u.state h]
    exact binding_nonNull (hbefore _ List.mem_cons_self) (gstSvpInit_hooks context u.state h).symm
  obtain ⟨s', hs'⟩ := htotal s
  obtain ⟨t', ht'⟩ := htotal (metaStart s.state.platform)
  obtain ⟨hshooks, hslog, hsanswers, snew, hsserve, hscalls⟩ := metaRun_spec (hload s.state) hs'
  obtain ⟨hthooks, htlog, htanswers, tnew, htserve, htcalls⟩ := metaRun_spec (hload _) ht'
  have hsframe := gstSvpInit_frame context s.state
  have htframe := gstSvpInit_frame context (metaStart s.state.platform : MetaRun V σ).state
  rw [htframe.1] at htserve
  rw [hsframe.1] at hsserve
  obtain ⟨rfl, hplatform⟩ := Prod.mk.inj (hsserve.symm.trans htserve)
  refine ⟨s', t', hs', ht', funext fun h => (hshooks h).trans (hthooks h).symm, hplatform, ?_, ?_, ?_⟩
  · rw [hslog, htlog, hsframe.2, htframe.2]
    simp [metaStart]
  · rw [hscalls, htcalls]
    simp [metaStart]
  · rw [hsanswers, htanswers]
    simp [metaStart]

/-- A device whose functions count their calls. -/
def countingDevice : Device Nat Nat := fun h _ _ calls => ((hookDefault h).1, calls + 1)

/-- A device that registers before the library is loaded, and a caller that then calls its hooks. -/
theorem loaded_runs_registered_early :
    ∃ s' t', run (metaStep countingDevice)
        ⟨⟨Function.update (fun _ => none) .svpFreeSecureBuffer (some (.device 7)), 5, []⟩, [], []⟩
        [.load none, .register .svpContextGetV3 (some (.device 8)), .call .svpContextGetV3 (none : Address),
          .call .svpFreeSecureBuffer ((none, none) : Address × Address)] = some s' ∧
      run (metaStep countingDevice) (metaStart 5)
        [.load none, .register .svpContextGetV3 (some (.device 8)), .call .svpContextGetV3 (none : Address),
          .call .svpFreeSecureBuffer ((none, none) : Address × Address)] = some t' ∧
        s'.state.hooks = t'.state.hooks ∧ s'.state.platform = t'.state.platform ∧
          s'.state.log = [] ++ t'.state.log ∧ s'.calls = [] ++ t'.calls ∧ s'.answers = [] ++ t'.answers :=
  loaded_runs countingDevice ⟨⟨Function.update (fun _ => none) .svpFreeSecureBuffer (some (.device 7)), 5, []⟩, [], []⟩
    none _ (by simp [MetaEvent.NonNull])

/-! ## Multiple decrypt -/

omit [DecidableEq V] in
/-- Events that do not bind a hook leave it. -/
theorem lastBound_append_of_unbound {es : List (MetaEvent V)} {h : Hook} (hes : ∀ e ∈ es, binding h e = none) :
    lastBound (pre ++ es) h = lastBound pre h := by
  induction es generalizing pre with
  | nil => rw [List.append_nil]
  | cons e es ih =>
    rw [← List.singleton_append, ← List.append_assoc, ih fun f hf => hes f (List.mem_cons_of_mem _ hf),
      lastBound_snoc, hes e List.mem_cons_self]
    rfl

/-- **The answer is kept.** After any run, the answer on multiple decrypt says what
`gst_buffer_array_append_svp_transform` does as long as that hook is neither registered nor the library
loaded. After a yes the device's function runs. After a no none does: the default refuses, and a hook that is
`NULL` is called all the same. -/
theorem multiple_decrypt_kept (device : Device V σ) (platform : σ) (before later : List (MetaEvent V))
    {s s' : MetaRun V σ} (hbefore : run (metaStep device) (metaStart platform) before = some s)
    (hlater : run (metaStep device) s later = some s')
    (hkept : ∀ e ∈ later, binding .gstBufferArrayAppendSvpTransform e = none)
    (pContext buffers : Address) (count : UInt16) (encryptedData : Address) (dataSize : UInt32) :
    match lastBound before .gstBufferArrayAppendSvpTransform with
    | some (.device f) =>
      gstSvpIsMultipleDecryptSupported s.state = true ∧
        gstBufferArrayAppendSvpTransform s'.state device pContext buffers count encryptedData dataSize =
          let (ret, platform) := device .gstBufferArrayAppendSvpTransform f
            (pContext, buffers, count, encryptedData, dataSize) s'.state.platform
          some (ret, { s'.state with platform })
    | some .implDefault =>
      gstSvpIsMultipleDecryptSupported s.state = false ∧
        ∃ after, gstBufferArrayAppendSvpTransform s'.state device pContext buffers count encryptedData dataSize =
          some (false, after) ∧ after.hooks = s'.state.hooks ∧ after.platform = s'.state.platform
    | none =>
      gstSvpIsMultipleDecryptSupported s.state = false ∧
        gstBufferArrayAppendSvpTransform s'.state device pContext buffers count encryptedData dataSize = none := by
  obtain ⟨hhooks, -⟩ := metaRun_spec (hooks_metaStart platform) hbefore
  obtain ⟨hhooks', -⟩ := metaRun_spec hhooks hlater
  have hsame : s'.state.hooks .gstBufferArrayAppendSvpTransform = s.state.hooks .gstBufferArrayAppendSvpTransform := by
    rw [hhooks', hhooks, lastBound_append_of_unbound hkept]
  rw [List.nil_append] at hhooks
  simp only [gstSvpIsMultipleDecryptSupported, gstBufferArrayAppendSvpTransform, callHook, hsame]
  rw [← hhooks]
  cases hfn : s.state.hooks .gstBufferArrayAppendSvpTransform with
  | none => exact ⟨by simp, rfl⟩
  | some fn =>
    cases fn with
    | implDefault => exact ⟨by simp, _, rfl, rfl, rfl⟩
    | device f => exact ⟨by simp, rfl⟩

/-- A device that decrypts several buffers, asked before a call of another hook. -/
theorem multiple_decrypt_kept_registered :
    ∃ s s' : MetaRun Nat Nat,
      run (metaStep countingDevice) (metaStart 0)
          [.load none, .register .gstBufferArrayAppendSvpTransform (some (.device 3))] = some s ∧
        run (metaStep countingDevice) s [.call .svpSupportSecMemPrealloc (none : Address)] = some s' ∧
          gstSvpIsMultipleDecryptSupported s.state = true ∧
            gstBufferArrayAppendSvpTransform s'.state countingDevice none none 2 none 0 =
              let (ret, platform) := countingDevice .gstBufferArrayAppendSvpTransform 3
                (none, none, 2, none, 0) s'.state.platform
              some (ret, { s'.state with platform }) :=
  ⟨_, _, rfl, rfl, multiple_decrypt_kept countingDevice 0
    [.load none, .register .gstBufferArrayAppendSvpTransform (some (.device 3))]
    [.call .svpSupportSecMemPrealloc (none : Address)] rfl rfl (by simp [binding]) none none 2 none 0⟩

end

end GstSvpExt
