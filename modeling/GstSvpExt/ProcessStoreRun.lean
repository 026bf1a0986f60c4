import GstSvpExt.FirstMatch
import GstSvpExt.ProcessStore

/-!
# Runs of the process store (`gst_svp_meta.cpp:482-595`)

Tables are installed, values read and written, in any order. To see which handlers run, each handler of
an installed table is `watched`: it notes its own run beside the store. A `MapState` is what the code is
for: the map from names that the last valid table is read as, instead of a table that is searched. The
code refines it (`storeRun_refines`), so what one call does is said about the map (`storeCall_asked`,
`wanted_eq_some_iff`) and the order of a table without repeated names does not show (`storeRun_reordered`).
-/

namespace GstSvpExt

open FirstMatch

variable {C σ : Type}

/-! ## Watching the handlers -/

/-- One run of a handler: the entry it belongs to, whether it is the getter, its arguments, and its
result. -/
@[ext] structure HandlerRun (C σ : Type) where
  entry : NameValuePairProcessor C σ
  getOrSet : Bool
  pContext : C
  name : String
  value : List UInt8
  result : Bool

/-- The entry's getter or setter. -/
def NameValuePairProcessor.handler (entry : NameValuePairProcessor C σ) (getOrSet : Bool) :
    Option (NameValuePairHandler C σ) :=
  if getOrSet then entry.getter else entry.setter

/-- The handler, which also notes that it ran. -/
def watch (entry : NameValuePairProcessor C σ) (getOrSet : Bool) (handler : NameValuePairHandler C σ) :
    NameValuePairHandler C (σ × List (HandlerRun C σ)) := fun pContext name value s =>
  let (result, left, store) := handler pContext name value s.1
  (result, left, store, s.2 ++ [⟨entry, getOrSet, pContext, name, value, result⟩])

def watched (entry : NameValuePairProcessor C σ) : NameValuePairProcessor C (σ × List (HandlerRun C σ)) where
  name := entry.name
  expectedValueSize := entry.expectedValueSize
  getter := entry.getter.map (watch entry true)
  setter := entry.setter.map (watch entry false)

/-! ## Runs -/

/-- The arguments of a get or a set. -/
structure StoreCall (C : Type) where
  getOrSet : Bool
  pContext : Option C
  name : Option String
  value : Option (List UInt8)
  size : Nat

/-- A valid table has at least `numProcessors` entries. -/
inductive StoreEvent (C σ : Type)
  | install (numProcessors : Nat) (processors : Option (List (NameValuePairProcessor C σ)))
  | call (c : StoreCall C)

/-- The installed table, the store, and the handlers run so far. -/
structure StoreState (C σ : Type) where
  installed : List (NameValuePairProcessor C σ)
  store : σ
  runs : List (HandlerRun C σ)

/-- What a get or a set returns, with what it leaves in the caller's object. -/
structure StoreReply where
  ok : Bool
  value : Option (List UInt8)
deriving DecidableEq, Repr

def storeCall (s : StoreState C σ) (c : StoreCall C) : StoreReply × StoreState C σ :=
  let table := s.installed.map watched
  let (ok, value, store, runs) :=
    if c.getOrSet then
      gstSvpExtContextProcessStoreGetValue table c.pContext c.name c.value c.size (s.store, s.runs)
    else gstSvpExtContextProcessStoreSetValue table c.pContext c.name c.value c.size (s.store, s.runs)
  (⟨ok, value⟩, { s with store, runs })

def storeStep (s : StoreState C σ) : StoreEvent C σ → Option StoreReply × StoreState C σ
  | .install numProcessors processors =>
    (none, { s with installed := setContextStoreNameValuePairProcessors s.installed numProcessors processors })
  | .call c =>
    let (reply, s) := storeCall s c
    (some reply, s)

/-- The replies of a run, with the state it ends in. -/
def storeRun (s : StoreState C σ) : List (StoreEvent C σ) → List (Option StoreReply) × StoreState C σ
  | [] => ([], s)
  | e :: es =>
    let (reply, s) := storeStep s e
    let (replies, s) := storeRun s es
    (reply :: replies, s)

/-- No table is installed at first. -/
def storeInit (store : σ) : StoreState C σ := ⟨[], store, []⟩

/-! ## The map -/

/-- The map in force, the store, and the handlers run so far. -/
structure MapState (C σ : Type) where
  inForce : String → Option (NameValuePairProcessor C σ)
  store : σ
  runs : List (HandlerRun C σ)

/-- A table as a map. -/
def mapOf (table : List (NameValuePairProcessor C σ)) (name : String) : Option (NameValuePairProcessor C σ) :=
  firstMatch NameValuePairProcessor.name table name

/-- The table that an event validly installs. -/
def StoreEvent.validTable : StoreEvent C σ → Option (List (NameValuePairProcessor C σ))
  | .install numProcessors (some table) => if numProcessors = 0 then none else some (table.take numProcessors)
  | _ => none

/-- The handler that a call is to run, with its arguments: nothing is `NULL`, the name has an entry, the
size is the entry's, and the entry has the handler. -/
def wanted (map : String → Option (NameValuePairProcessor C σ)) (c : StoreCall C) :
    Option (NameValuePairProcessor C σ × NameValuePairHandler C σ × C × String × List UInt8) := do
  let pContext ← c.pContext
  let name ← c.name
  let value ← c.value
  let entry ← map name
  if entry.expectedValueSize = c.size then
    let handler ← entry.handler c.getOrSet
    return (entry, handler, pContext, name, value)
  else none

def mapCall (s : MapState C σ) (c : StoreCall C) : StoreReply × MapState C σ :=
  match wanted s.inForce c with
  | none => (⟨false, c.value⟩, s)
  | some (entry, handler, pContext, name, value) =>
    let (result, left, store) := handler pContext name value s.store
    (⟨result, some left⟩,
      { s with store, runs := s.runs ++ [⟨entry, c.getOrSet, pContext, name, value, result⟩] })

def mapStep (s : MapState C σ) : StoreEvent C σ → Option StoreReply × MapState C σ
  | .call c =>
    let (reply, s) := mapCall s c
    (some reply, s)
  | e => (none, { s with inForce := (e.validTable.map mapOf).getD s.inForce })

def mapRun (s : MapState C σ) : List (StoreEvent C σ) → List (Option StoreReply) × MapState C σ
  | [] => ([], s)
  | e :: es =>
    let (reply, s) := mapStep s e
    let (replies, s) := mapRun s es
    (reply :: replies, s)

/-- The state with its table read as a map. -/
def StoreState.abs (s : StoreState C σ) : MapState C σ := ⟨mapOf s.installed, s.store, s.runs⟩

/-! ## The code refines the map -/

theorem handler_watched (entry : NameValuePairProcessor C σ) (getOrSet : Bool) :
    (watched entry).handler getOrSet = (entry.handler getOrSet).map (watch entry getOrSet) := by
  cases getOrSet <;> rfl

/-- The search finds the entry of the map. -/
theorem processorFor_watched (table : List (NameValuePairProcessor C σ)) (name : String) :
    processorFor (table.map watched) name = (mapOf table name).map watched :=
  firstMatch_map fun _ => rfl

/-- The search of a watched table, by the entry of the map. -/
theorem processFrom_watched (table : List (NameValuePairProcessor C σ)) (pContext : C) (name : String)
    (value : List UInt8) (size : Nat) (getOrSet : Bool) (s : σ × List (HandlerRun C σ)) :
    processFrom pContext name value size getOrSet s (table.map watched) =
      match wanted (mapOf table) ⟨getOrSet, some pContext, some name, some value, size⟩ with
      | none => (false, value, s)
      | some (entry, handler, pContext, name, value) => watch entry getOrSet handler pContext name value s := by
  rw [processFrom_eq, processorFor_watched]
  unfold wanted
  cases hm : mapOf table name with
  | none => simp [hm]
  | some entry =>
    have hh : (if getOrSet then (watched entry).getter else (watched entry).setter) =
        (entry.handler getOrSet).map (watch entry getOrSet) := handler_watched entry getOrSet
    have hz : (watched entry).expectedValueSize = entry.expectedValueSize := rfl
    by_cases hs : entry.expectedValueSize = size
    · cases hg : entry.handler getOrSet with
      | none => simp [hm, hh, hz, hs, hg]
      | some handler => simp [hm, hh, hz, hs, hg]
    · simp [hm, hz, hs]

/-- A get and a set are the same search. -/
theorem storeCall_eq (s : StoreState C σ) (c : StoreCall C) :
    storeCall s c =
      let r := processNameValuePair (s.installed.map watched) c.pContext c.name c.value c.size c.getOrSet
        (s.store, s.runs)
      (⟨r.1, r.2.1⟩, { s with store := r.2.2.1, runs := r.2.2.2 }) := by
  obtain ⟨getOrSet, pContext, name, value, size⟩ := c
  cases getOrSet <;> rfl

theorem storeCall_refines (s : StoreState C σ) (c : StoreCall C) :
    (storeCall s c).1 = (mapCall s.abs c).1 ∧ (storeCall s c).2.abs = (mapCall s.abs c).2 := by
  rw [storeCall_eq, mapCall]
  obtain ⟨getOrSet, pContext, name, value, size⟩ := c
  cases pContext with
  | none => exact ⟨rfl, rfl⟩
  | some pContext =>
    cases name with
    | none => exact ⟨rfl, rfl⟩
    | some name =>
      cases value with
      | none => exact ⟨rfl, rfl⟩
      | some value =>
        simp only [processNameValuePair, processFrom_watched, StoreState.abs]
        cases hw : wanted (mapOf s.installed) ⟨getOrSet, some pContext, some name, some value, size⟩ with
        | none => exact ⟨rfl, rfl⟩
        | some w => exact ⟨rfl, rfl⟩

/-- A valid install brings its table in force, an invalid one none. -/
theorem install_eq (installed : List (NameValuePairProcessor C σ)) (numProcessors : Nat)
    (processors : Option (List (NameValuePairProcessor C σ))) :
    setContextStoreNameValuePairProcessors installed numProcessors processors =
      ((StoreEvent.install numProcessors processors).validTable).getD installed := by
  cases processors with
  | none => rfl
  | some table =>
    simp only [setContextStoreNameValuePairProcessors, StoreEvent.validTable]
    split <;> rfl

theorem storeStep_refines (s : StoreState C σ) (e : StoreEvent C σ) :
    (storeStep s e).1 = (mapStep s.abs e).1 ∧ (storeStep s e).2.abs = (mapStep s.abs e).2 := by
  cases e with
  | call c =>
    obtain ⟨hreply, habs⟩ := storeCall_refines s c
    exact ⟨congrArg some hreply, habs⟩
  | install numProcessors processors =>
    refine ⟨rfl, ?_⟩
    simp only [storeStep, mapStep, StoreState.abs, install_eq]
    cases (StoreEvent.install numProcessors processors).validTable <;> rfl

/-- **Refinement.** A run searches its tables as it would look up the map. -/
theorem storeRun_refines (s : StoreState C σ) (es : List (StoreEvent C σ)) :
    (storeRun s es).1 = (mapRun s.abs es).1 ∧ (storeRun s es).2.abs = (mapRun s.abs es).2 := by
  induction es generalizing s with
  | nil => exact ⟨rfl, rfl⟩
  | cons e es ih =>
    obtain ⟨hreply, habs⟩ := storeStep_refines s e
    obtain ⟨hreplies, hend⟩ := ih (storeStep s e).2
    rw [habs] at hreplies hend
    refine ⟨?_, hend⟩
    simp only [storeRun, mapRun, hreply, hreplies]

/-! ## The table in force -/

theorem storeStep_installed (s : StoreState C σ) (e : StoreEvent C σ) :
    (storeStep s e).2.installed = e.validTable.getD s.installed := by
  cases e with
  | call c => rw [storeStep, storeCall_eq]; rfl
  | install numProcessors processors => exact install_eq s.installed numProcessors processors

/-- The table of the most recent valid install, if there was one. -/
def lastValidTable (es : List (StoreEvent C σ)) : Option (List (NameValuePairProcessor C σ)) :=
  es.reverse.findSome? StoreEvent.validTable

theorem storeRun_installed (s : StoreState C σ) (es : List (StoreEvent C σ)) :
    (storeRun s es).2.installed = (lastValidTable es).getD s.installed := by
  induction es generalizing s with
  | nil => rfl
  | cons e es ih =>
    have h := ih (storeStep s e).2
    rw [storeStep_installed] at h
    simp only [storeRun, h, lastValidTable, List.reverse_cons, List.findSome?_append]
    cases List.findSome? StoreEvent.validTable es.reverse with
    | some table => rfl
    | none => cases hv : e.validTable <;> simp [hv]

/-! ## One call -/

/-- The handler run that a call is to make: of the first entry with its name, if nothing is `NULL`, the
size is the entry's, and the entry has the handler. -/
structure Asked (table : List (NameValuePairProcessor C σ)) (store : σ) (c : StoreCall C) (r : HandlerRun C σ) :
    Prop where
  first : IsFirst NameValuePairProcessor.name table r.name r.entry
  getOrSet : r.getOrSet = c.getOrSet
  pContext : c.pContext = some r.pContext
  name : c.name = some r.name
  value : c.value = some r.value
  size : r.entry.expectedValueSize = c.size
  handler : ∃ h, r.entry.handler c.getOrSet = some h ∧ r.result = (h r.pContext r.name r.value store).1

/-- A call makes the run it is to make and no other, and returns `TRUE` exactly if that run did. -/
structure RunsAsked (s : StoreState C σ) (c : StoreCall C) (new : List (HandlerRun C σ)) : Prop where
  runs : (storeCall s c).2.runs = s.runs ++ new
  once : new.length ≤ 1
  asked : ∀ r, r ∈ new ↔ Asked s.installed s.store c r
  ok : (storeCall s c).1.ok = true ↔ ∃ r ∈ new, r.result = true

/-- There is no choice in what a call is to run. -/
theorem Asked.unique {table : List (NameValuePairProcessor C σ)} {store : σ} {c : StoreCall C}
    {r r' : HandlerRun C σ} (h : Asked table store c r) (h' : Asked table store c r') : r = r' := by
  have hc : r.pContext = r'.pContext := Option.some.inj (h.pContext.symm.trans h'.pContext)
  have hn : r.name = r'.name := Option.some.inj (h.name.symm.trans h'.name)
  have hv : r.value = r'.value := Option.some.inj (h.value.symm.trans h'.value)
  have he : r.entry = r'.entry := h.first.unique (hn ▸ h'.first)
  obtain ⟨handler, hh, hr⟩ := h.handler
  obtain ⟨handler', hh', hr'⟩ := h'.handler
  have hhandler : handler = handler' := Option.some.inj (hh.symm.trans (he ▸ hh'))
  ext1
  · exact he
  · exact h.getOrSet.trans h'.getOrSet.symm
  · exact hc
  · exact hn
  · exact hv
  · rw [hr, hr', hhandler, hc, hn, hv]

theorem wanted_eq_some_iff (table : List (NameValuePairProcessor C σ)) (c : StoreCall C)
    {entry : NameValuePairProcessor C σ} {handler : NameValuePairHandler C σ} {pContext : C} {name : String}
    {value : List UInt8} :
    wanted (mapOf table) c = some (entry, handler, pContext, name, value) ↔
      (c.pContext = some pContext ∧ c.name = some name ∧ c.value = some value) ∧
        IsFirst NameValuePairProcessor.name table name entry ∧ entry.expectedValueSize = c.size ∧
        entry.handler c.getOrSet = some handler := by
  rw [← firstMatch_eq_some_iff]
  simp only [wanted, Option.bind_eq_bind, Option.bind_eq_some_iff, Option.ite_none_right_eq_some, Option.pure_def,
    Option.some.injEq, Prod.mk.injEq, mapOf]
  constructor
  · rintro ⟨_, hc, _, hn, _, hv, _, he, hz, _, hh, rfl, rfl, rfl, rfl, rfl⟩
    exact ⟨⟨hc, hn, hv⟩, he, hz, hh⟩
  · rintro ⟨⟨hc, hn, hv⟩, he, hz, hh⟩
    exact ⟨_, hc, _, hn, _, hv, _, he, hz, _, hh, rfl, rfl, rfl, rfl, rfl⟩

theorem storeCall_asked (s : StoreState C σ) (c : StoreCall C) : ∃ new, RunsAsked s c new := by
  obtain ⟨hreply, habs⟩ := storeCall_refines s c
  have hruns : (storeCall s c).2.runs = (mapCall s.abs c).2.runs := congrArg MapState.runs habs
  rw [mapCall] at hreply hruns
  cases hw : wanted s.abs.inForce c with
  | none =>
    rw [hw] at hreply hruns
    refine ⟨[], hruns.trans (List.append_nil _).symm, by simp, ?_, by simp [hreply]⟩
    intro r
    refine ⟨fun h => absurd h List.not_mem_nil, fun h => ?_⟩
    obtain ⟨handler, hh, -⟩ := h.handler
    have hsome := (wanted_eq_some_iff s.installed c).2 ⟨⟨h.pContext, h.name, h.value⟩, h.first, h.size, hh⟩
    exact absurd (hw.symm.trans hsome) (by simp)
  | some w =>
    obtain ⟨entry, handler, pContext, name, value⟩ := w
    rw [hw] at hreply hruns
    obtain ⟨⟨hc, hn, hv⟩, he, hz, hh⟩ := (wanted_eq_some_iff s.installed c).1 hw
    have hr : Asked s.installed s.store c
        ⟨entry, c.getOrSet, pContext, name, value, (handler pContext name value s.store).1⟩ :=
      ⟨he, rfl, hc, hn, hv, hz, handler, hh, rfl⟩
    refine ⟨[⟨entry, c.getOrSet, pContext, name, value, (handler pContext name value s.store).1⟩], hruns,
      by simp, ?_, by simp [hreply, StoreState.abs]⟩
    intro r
    rw [List.mem_singleton]
    exact ⟨fun h => h ▸ hr, fun h => h.unique hr⟩

/-- An entry that does not fit shadows what comes after it under its name. -/
theorem RunsAsked.shadowed {s : StoreState C σ} {c : StoreCall C} {new : List (HandlerRun C σ)}
    (h : RunsAsked s c new) {name : String} {entry : NameValuePairProcessor C σ} (hname : c.name = some name)
    (hfirst : IsFirst NameValuePairProcessor.name s.installed name entry)
    (hfit : entry.expectedValueSize ≠ c.size ∨ entry.handler c.getOrSet = none) :
    new = [] ∧ (storeCall s c).1.ok = false := by
  have hnone : ∀ r, r ∉ new := by
    intro r hr
    have ha := (h.asked r).1 hr
    obtain rfl := Option.some.inj (hname.symm.trans ha.name)
    obtain rfl := hfirst.unique ha.first
    obtain ⟨handler, hh, -⟩ := ha.handler
    rcases hfit with hfit | hfit
    · exact hfit ha.size
    · exact absurd (hfit.symm.trans hh) (by simp)
  have hnew : new = [] := List.eq_nil_iff_forall_not_mem.2 hnone
  refine ⟨hnew, ?_⟩
  rw [← Bool.not_eq_true, h.ok]
  rintro ⟨r, hr, -⟩
  exact hnone r hr

/-! ## The order of the entries -/

/-- The same event, up to the order of a table without repeated names. -/
inductive Reordered : StoreEvent C σ → StoreEvent C σ → Prop
  | same (e : StoreEvent C σ) : Reordered e e
  | install {numProcessors : Nat} {table table' : List (NameValuePairProcessor C σ)}
      (perm : (table.take numProcessors).Perm (table'.take numProcessors))
      (distinct : ((table.take numProcessors).map NameValuePairProcessor.name).Nodup) :
      Reordered (.install numProcessors (some table)) (.install numProcessors (some table'))

theorem mapStep_reordered {e e' : StoreEvent C σ} (h : Reordered e e') (s : MapState C σ) :
    mapStep s e = mapStep s e' := by
  cases h with
  | same => rfl
  | install perm distinct =>
    have hmap := funext fun name => firstMatch_perm (k := name) perm distinct
    simp only [mapStep, StoreEvent.validTable]
    split
    · rfl
    · exact congrArg (fun m => (none, { s with inForce := m })) hmap

theorem mapRun_reordered {es es' : List (StoreEvent C σ)} (h : List.Forall₂ Reordered es es') (s : MapState C σ) :
    mapRun s es = mapRun s es' := by
  induction h generalizing s with
  | nil => rfl
  | cons he _ ih => simp only [mapRun, mapStep_reordered he, ih]

theorem storeRun_reordered {es es' : List (StoreEvent C σ)} (h : List.Forall₂ Reordered es es')
    (s : StoreState C σ) :
    (storeRun s es).1 = (storeRun s es').1 ∧ (storeRun s es).2.store = (storeRun s es').2.store ∧
      (storeRun s es).2.runs = (storeRun s es').2.runs := by
  obtain ⟨hr, ha⟩ := storeRun_refines s es
  obtain ⟨hr', ha'⟩ := storeRun_refines s es'
  rw [mapRun_reordered h] at hr ha
  have hend := ha.trans ha'.symm
  exact ⟨hr.trans hr'.symm, congrArg MapState.store hend, congrArg MapState.runs hend⟩

/-- **The process store dispatches through a first-match map.** After any run the code has done what the
map would, the table in force is that of the most recent valid install, the next call makes the one run
it is to make or none, an entry that does not fit shadows later ones, and reordering tables without
repeated names changes nothing. -/
theorem dispatch_first_match (store : σ) (es : List (StoreEvent C σ)) :
    ((storeRun (storeInit store) es).1 = (mapRun (storeInit store).abs es).1 ∧
        (storeRun (storeInit store) es).2.abs = (mapRun (storeInit store).abs es).2) ∧
      (storeRun (storeInit store) es).2.installed = (lastValidTable es).getD [] ∧
      (∀ c, ∃ new, RunsAsked (storeRun (storeInit store) es).2 c new ∧
        ∀ name entry, c.name = some name →
          IsFirst NameValuePairProcessor.name ((lastValidTable es).getD []) name entry →
          entry.expectedValueSize ≠ c.size ∨ entry.handler c.getOrSet = none →
            new = [] ∧ (storeCall (storeRun (storeInit store) es).2 c).1.ok = false) ∧
      ∀ es', List.Forall₂ Reordered es es' →
        (storeRun (storeInit store) es').1 = (storeRun (storeInit store) es).1 ∧
          (storeRun (storeInit store) es').2.store = (storeRun (storeInit store) es).2.store ∧
          (storeRun (storeInit store) es').2.runs = (storeRun (storeInit store) es).2.runs := by
  have htable : (storeRun (storeInit store) es).2.installed = (lastValidTable es).getD [] :=
    storeRun_installed (storeInit store) es
  refine ⟨storeRun_refines _ es, htable, ?_, ?_⟩
  · intro c
    obtain ⟨new, h⟩ := storeCall_asked (storeRun (storeInit store) es).2 c
    refine ⟨new, h, ?_⟩
    intro name entry hname hfirst hfit
    rw [← htable] at hfirst
    exact h.shadowed hname hfirst hfit
  · intro es' h
    obtain ⟨hreplies, hstore, hruns⟩ := storeRun_reordered h (storeInit store)
    exact ⟨hreplies.symm, hstore.symm, hruns.symm⟩

/-- A value of four bytes, kept in the store and set through its name. -/
def keptValue (name : String) : NameValuePairProcessor Unit (Option (List UInt8)) :=
  ⟨name, 4, some fun _ _ value s => (s.isSome, s.getD value, s), some fun _ _ value _ => (true, value, some value)⟩

/-- Two entries in either order. -/
theorem dispatch_first_match_swapped :
    (storeRun (storeInit none) [.install 2 (some [keptValue "secureVideo", keptValue "decryptToHost"]),
        .call ⟨false, some (), some "decryptToHost", some [1, 0, 0, 0], 4⟩]).1 =
      (storeRun (storeInit none) [.install 2 (some [keptValue "decryptToHost", keptValue "secureVideo"]),
        .call ⟨false, some (), some "decryptToHost", some [1, 0, 0, 0], 4⟩]).1 := by
  refine ((dispatch_first_match none _).2.2.2 _ ?_).1
  exact .cons (.install (List.Perm.swap _ _ _) (by decide)) (.cons (.same _) .nil)

end GstSvpExt
