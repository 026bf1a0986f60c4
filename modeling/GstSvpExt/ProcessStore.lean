import Mathlib.Tactic.Common

/-!
# The process store (`gst_svp_meta.cpp:482-595`)

| here | there |
| --- | --- |
| `NameValuePairHandler`, `NameValuePairProcessor` | the types of the same names (`gst_svp_meta_private.h:34-40`) |
| `processNameValuePair`        | `processNameValuePair` (`:482-540`); its loop is `processFrom` |
| `gstSvpExtContextProcessStoreGetValue`, `gstSvpExtContextProcessStoreSetValue` | `:542-562` |
| `setContextStoreNameValuePairProcessors` | `set_context_store_name_value_pair_processors` (`:575-595`) |

The store itself is the vendor's, of type `σ`; the handlers act on it and are part of the installed
table. `C` are the contexts. A `void* value` with its `size` is the caller's object, as bytes.
-/

namespace GstSvpExt

variable {C σ : Type}

/-- A getter or setter: from the context, the name and the caller's object to the result, what it
leaves in the object, and the new store. -/
abbrev NameValuePairHandler (C σ : Type) := C → String → List UInt8 → σ → Bool × List UInt8 × σ

structure NameValuePairProcessor (C σ : Type) where
  name : String
  expectedValueSize : Nat
  getter : Option (NameValuePairHandler C σ)
  setter : Option (NameValuePairHandler C σ)

/-- The loop over the table: the first entry with the name decides. -/
def processFrom (pContext : C) (name : String) (value : List UInt8) (size : Nat) (getOrSet : Bool) (s : σ) :
    List (NameValuePairProcessor C σ) → Bool × List UInt8 × σ
  | [] => (false, value, s)
  | processor :: rest =>
    if name = processor.name then
      if processor.expectedValueSize ≠ size then (false, value, s)
      else
        match if getOrSet then processor.getter else processor.setter with
        | none => (false, value, s)
        | some handler => handler pContext name value s
    else processFrom pContext name value size getOrSet s rest

/-- `processNameValuePair` (`:482-540`): `getOrSet` is true for a get. -/
def processNameValuePair (processors : List (NameValuePairProcessor C σ)) (pContext : Option C)
    (name : Option String) (value : Option (List UInt8)) (size : Nat) (getOrSet : Bool) (s : σ) :
    Bool × Option (List UInt8) × σ :=
  match pContext, name, value with
  | some pContext, some name, some value =>
    let (ok, value, s) := processFrom pContext name value size getOrSet s processors
    (ok, some value, s)
  | _, _, value => (false, value, s)

/-- `gst_svp_ext_context_process_store_get_value` (`:542-551`). -/
def gstSvpExtContextProcessStoreGetValue (processors : List (NameValuePairProcessor C σ))
    (pContext : Option C) (name : Option String) (value : Option (List UInt8)) (size : Nat) (s : σ) :
    Bool × Option (List UInt8) × σ :=
  processNameValuePair processors pContext name value size true s

/-- `gst_svp_ext_context_process_store_set_value` (`:553-562`). -/
def gstSvpExtContextProcessStoreSetValue (processors : List (NameValuePairProcessor C σ))
    (pContext : Option C) (name : Option String) (value : Option (List UInt8)) (size : Nat) (s : σ) :
    Bool × Option (List UInt8) × σ :=
  processNameValuePair processors pContext name value size false s

/-- `set_context_store_name_value_pair_processors` (`:575-595`): an empty or a `NULL` table leaves the
installed one. -/
def setContextStoreNameValuePairProcessors (installed : List (NameValuePairProcessor C σ))
    (numProcessors : Nat) (processors : Option (List (NameValuePairProcessor C σ))) :
    List (NameValuePairProcessor C σ) :=
  match processors with
  | none => installed
  | some table => if numProcessors = 0 then installed else table.take numProcessors

/-! ## Which entry decides -/

/-- The entry that a call with this name reaches. -/
def processorFor (processors : List (NameValuePairProcessor C σ)) (name : String) :
    Option (NameValuePairProcessor C σ) :=
  processors.find? fun processor => name = processor.name

theorem processFrom_eq (pContext : C) (name : String) (value : List UInt8) (size : Nat) (getOrSet : Bool)
    (s : σ) (processors : List (NameValuePairProcessor C σ)) :
    processFrom pContext name value size getOrSet s processors =
      match processorFor processors name with
      | none => (false, value, s)
      | some processor =>
        if processor.expectedValueSize ≠ size then (false, value, s)
        else match if getOrSet then processor.getter else processor.setter with
          | none => (false, value, s)
          | some handler => handler pContext name value s := by
  induction processors with
  | nil => rfl
  | cons processor rest ih =>
    by_cases hn : name = processor.name
    · simp [processFrom, processorFor, hn]
    · rw [processFrom, if_neg hn, ih, processorFor, processorFor, List.find?_cons_of_neg (by simpa using hn)]

theorem set_null (processors : List (NameValuePairProcessor C σ)) (name : Option String)
    (value : Option (List UInt8)) (size : Nat) (s : σ) :
    gstSvpExtContextProcessStoreSetValue processors none name value size s = (false, value, s) := by
  cases name <;> cases value <;> rfl

/-- A set on a live context runs the setter of the first entry with the name, if the sizes agree. -/
theorem set_eq (processors : List (NameValuePairProcessor C σ)) (pContext : C) (name : String)
    (value : List UInt8) (size : Nat) (s : σ) :
    gstSvpExtContextProcessStoreSetValue processors (some pContext) (some name) (some value) size s =
      match processorFor processors name with
      | none => (false, some value, s)
      | some processor =>
        if processor.expectedValueSize ≠ size then (false, some value, s)
        else match processor.setter with
          | none => (false, some value, s)
          | some handler =>
            ((handler pContext name value s).1, some (handler pContext name value s).2.1,
              (handler pContext name value s).2.2) := by
  simp only [gstSvpExtContextProcessStoreSetValue, processNameValuePair, processFrom_eq]
  cases processorFor processors name with
  | none => rfl
  | some processor =>
    by_cases hz : processor.expectedValueSize = size
    · cases hs : processor.setter <;> simp [hz, hs]
    · simp [hz]

end GstSvpExt
