import GstSvpExt.PayloadRun

/-!
# Caps with several alternatives (`plugins/gst-svp-payload.cpp:223-276`)

`svpPayloadTransformCaps` looks for `decrypt-to-host` once and then treats every alternative alike:
`mapUnless` is that decision, `mapEach` the one taken for each alternative on its own. The two agree on
a list exactly if what the decision spares would have stayed the same anyway, and this is also when the
result for a concatenation is the concatenation of the results (`sink_caps_decided_once`).
-/

namespace GstSvpExt

/-! ## One decision for a list, or one for each element -/

section
variable {α : Type} (q : α → Bool) (f : α → α)

/-- Every element goes through `f`, unless one of them has `q`. -/
def mapUnless (l : List α) : List α := if l.any q then l else l.map f

/-- Every element goes through `f`, unless it has `q`. -/
def mapEach (l : List α) : List α := l.map fun x => if q x then x else f x

variable {q f} {l l₁ l₂ : List α}

theorem mapUnless_of_any (h : l.any q = true) : mapUnless q f l = l := if_pos h

theorem mapUnless_of_none (h : l.any q = false) : mapUnless q f l = l.map f := by
  rw [mapUnless, h, if_neg Bool.false_ne_true]

theorem map_eq_self_iff {g : α → α} : l.map g = l ↔ ∀ x ∈ l, g x = x := by
  have h : l.map g = l.map id ↔ ∀ x ∈ l, g x = x := List.map_inj_left
  rwa [List.map_id] at h

/-- What a list without `q` keeps if a neighbour with `q` decides for it. -/
theorem mapUnless_eq_self_iff : mapUnless q f l = l ↔ (l.any q = false → ∀ x ∈ l, f x = x) := by
  cases h : l.any q with
  | true => exact ⟨fun _ hf => Bool.noConfusion hf, fun _ => mapUnless_of_any h⟩
  | false =>
    rw [mapUnless_of_none h, map_eq_self_iff]
    exact ⟨fun hx _ => hx, fun hx => hx rfl⟩

theorem mapUnless_eq_mapEach_iff :
    mapUnless q f l = mapEach q f l ↔ (l.any q = true → ∀ x ∈ l, q x = false → f x = x) := by
  cases h : l.any q with
  | true =>
    rw [mapUnless_of_any h, mapEach, eq_comm, map_eq_self_iff]
    constructor
    · intro hx _ x hm hq
      have := hx x hm
      rwa [hq, if_neg Bool.false_ne_true] at this
    · intro hx x hm
      by_cases hq : q x = true
      · rw [if_pos hq]
      · rw [if_neg hq]
        exact hx rfl x hm (by simpa using hq)
  | false =>
    refine ⟨fun _ ht => Bool.noConfusion ht, fun _ => ?_⟩
    rw [mapUnless_of_none h, mapEach]
    apply List.map_congr_left
    intro x hm
    rw [if_neg (List.any_eq_false.1 h x hm)]

/-- Two lists that would be decided alike, or of which the one without `q` is left alone by `f`. -/
theorem mapUnless_append_iff :
    mapUnless q f (l₁ ++ l₂) = mapUnless q f l₁ ++ mapUnless q f l₂ ↔
      l₁.any q = l₂.any q ∨ mapUnless q f l₁ = l₁ ∧ mapUnless q f l₂ = l₂ := by
  have happ : (l₁ ++ l₂).any q = (l₁.any q || l₂.any q) := List.any_append
  cases h₁ : l₁.any q with
  | true =>
    rw [h₁, Bool.true_or] at happ
    rw [mapUnless_of_any happ, mapUnless_of_any h₁, List.append_cancel_left_eq, eq_comm]
    cases h₂ : l₂.any q with
    | true => simp only [mapUnless_of_any h₂, true_or]
    | false => simp only [Bool.true_eq_false, false_or, true_and]
  | false =>
    rw [h₁, Bool.false_or] at happ
    cases h₂ : l₂.any q with
    | true =>
      rw [h₂] at happ
      rw [mapUnless_of_any happ, mapUnless_of_any h₂, List.append_cancel_right_eq, eq_comm]
      simp only [Bool.false_eq_true, false_or, and_true]
    | false =>
      rw [h₂] at happ
      rw [mapUnless_of_none happ, mapUnless_of_none h₁, mapUnless_of_none h₂, List.map_append]
      simp only [true_or]

end

/-! ## The sink direction -/

section
variable {C B β σ : Type}

/-- `decrypt-to-host=true` in one structure. -/
def GstStructure.decryptsToHost (s : GstStructure) : Bool := s.getBoolean "decrypt-to-host" == some true

theorem hasDecryptToHost_some (c : GstCaps) :
    hasDecryptToHost (some c) = c.any GstStructure.decryptsToHost := rfl

/-- The caps returned for `caps` in direction `GST_PAD_SINK` without a filter. -/
def sinkCaps (p : Platform C B β σ) (s : PayloadState C B β σ) (caps : GstCaps) : Option GstCaps :=
  (svpPayloadTransformCaps p s.self s.world .sink (some caps) none).1

/-- The result for a concatenation is the concatenation of the results. -/
def Concatenates (p : Platform C B β σ) (s : PayloadState C B β σ) (c₁ c₂ : GstCaps) : Prop :=
  ∃ r₁ r₂, sinkCaps p s c₁ = some r₁ ∧ sinkCaps p s c₂ = some r₂ ∧ sinkCaps p s (c₁ ++ c₂) = some (r₁ ++ r₂)

variable {p : Platform C B β σ} {f : GstStructure → GstStructure}

/-- If the vendor maps each structure on its own, the element maps them all or none. -/
theorem sinkCaps_eq (hp : ∀ c, p.transformCaps (some c) = (true, some (c.map f))) (s : PayloadState C B β σ)
    (c : GstCaps) : sinkCaps p s c = some (mapUnless GstStructure.decryptsToHost f c) := by
  by_cases h : hasDecryptToHost (some c) = false
  · have hmap : mapUnless GstStructure.decryptsToHost f c = c.map f := mapUnless_of_none h
    rw [hmap]
    simp only [sinkCaps, svpPayloadTransformCaps, reduceCtorEq, if_false, if_true, h, hp, filterCaps]
  · have hkeep : mapUnless GstStructure.decryptsToHost f c = c := mapUnless_of_any ((Bool.not_eq_false _).mp h)
    rw [hkeep]
    simp only [sinkCaps, svpPayloadTransformCaps, reduceCtorEq, if_false, if_true, if_neg h, filterCaps]

theorem concatenates_iff (hp : ∀ c, p.transformCaps (some c) = (true, some (c.map f))) (s : PayloadState C B β σ)
    (c₁ c₂ : GstCaps) :
    Concatenates p s c₁ c₂ ↔
      hasDecryptToHost (some c₁) = hasDecryptToHost (some c₂) ∨
        (hasDecryptToHost (some c₁) = false → ∀ x ∈ c₁, f x = x) ∧
          (hasDecryptToHost (some c₂) = false → ∀ x ∈ c₂, f x = x) := by
  have h : Concatenates p s c₁ c₂ ↔ mapUnless GstStructure.decryptsToHost f (c₁ ++ c₂) =
      mapUnless GstStructure.decryptsToHost f c₁ ++ mapUnless GstStructure.decryptsToHost f c₂ := by
    simp only [Concatenates, sinkCaps_eq hp, Option.some.injEq]
    constructor
    · rintro ⟨_, _, rfl, rfl, h⟩
      exact h
    · exact fun h => ⟨_, _, rfl, rfl, h⟩
  rw [h, mapUnless_append_iff, mapUnless_eq_self_iff, mapUnless_eq_self_iff]
  rfl

/-- **Sink caps are decided once for the whole list.** Without `decrypt-to-host` every structure takes
its secure form, with it in any structure all are kept. Concatenation is respected exactly if the parts
are decided alike or the spared part has its secure form already, and the same holds of a decision for
each structure on its own. -/
theorem sink_caps_decided_once (p : Platform C B β σ) (f : GstStructure → GstStructure)
    (hp : ∀ c, p.transformCaps (some c) = (true, some (c.map f))) (s : PayloadState C B β σ) :
    (∀ c, sinkCaps p s c = some (if hasDecryptToHost (some c) then c else c.map f)) ∧
      (∀ c₁ c₂, Concatenates p s c₁ c₂ ↔
        hasDecryptToHost (some c₁) = hasDecryptToHost (some c₂) ∨
          (hasDecryptToHost (some c₁) = false → ∀ x ∈ c₁, f x = x) ∧
            (hasDecryptToHost (some c₂) = false → ∀ x ∈ c₂, f x = x)) ∧
      ∀ c, sinkCaps p s c = some (mapEach GstStructure.decryptsToHost f c) ↔
        (hasDecryptToHost (some c) = true → ∀ x ∈ c, x.decryptsToHost = false → f x = x) := by
  refine ⟨sinkCaps_eq hp s, concatenates_iff hp s, ?_⟩
  intro c
  rw [sinkCaps_eq hp, Option.some.injEq, mapUnless_eq_mapEach_iff, hasDecryptToHost_some]

end

/-- A structure in secure memory. -/
def secured (s : GstStructure) : GstStructure := { s with fields := ("secure", .boolean true) :: s.fields }

/-- The plain platform, with a vendor that secures caps. -/
def securingPlatform : Platform Unit Nat Bool (Option (List UInt8)) :=
  { plainPlatform with transformCaps := fun caps => (true, caps.map (List.map secured)) }

/-- A plain element on it. -/
def plainElement : PayloadState Unit Nat Bool (Option (List UInt8)) := payloadInit plainPlatform plainWorld

theorem sink_caps_decided_once_mixed :
    sinkCaps securingPlatform plainElement [⟨"video/x-h264", []⟩, ⟨"video/x-h264", [("decrypt-to-host", .boolean true)]⟩] =
      some [⟨"video/x-h264", []⟩, ⟨"video/x-h264", [("decrypt-to-host", .boolean true)]⟩] :=
  (sink_caps_decided_once securingPlatform secured (fun _ => rfl) plainElement).1 _

/-- A clear alternative beside a `decrypt-to-host` one stays clear, though alone it is secured. -/
theorem sink_caps_mixed :
    ¬ ∀ (p : Platform Unit Nat Bool (Option (List UInt8))) (f : GstStructure → GstStructure),
      (∀ c, p.transformCaps (some c) = (true, some (c.map f))) →
      ∀ (s : PayloadState Unit Nat Bool (Option (List UInt8))) (c₁ c₂ : GstCaps), Concatenates p s c₁ c₂ := by
  intro h
  obtain ⟨r₁, r₂, h₁, h₂, h₃⟩ := h securingPlatform secured (fun _ => rfl) plainElement
    [⟨"video/x-h264", []⟩] [⟨"video/x-h264", [("decrypt-to-host", .boolean true)]⟩]
  have e₁ : r₁ = [⟨"video/x-h264", [("secure", .boolean true)]⟩] := (Option.some.inj h₁).symm
  have e₂ : r₂ = [⟨"video/x-h264", [("decrypt-to-host", .boolean true)]⟩] := (Option.some.inj h₂).symm
  subst e₁ e₂
  revert h₃
  decide

end GstSvpExt
