import GstSvpExt.SecapiV3Ledger

/-!
# The token of an output buffer (`gst_svp_secure_buffers_secapi.cpp:117-138`, `:264-285`)

| here | there |
| --- | --- |
| `HandOffAct.alloc`, `toToken` | a `svp_buffer_alloc_token` and a `svp_buffer_to_token` that succeed |
| `copy`         | the `memcpy` of `svp_token_size()` bytes to `pDataOut` (`:125`, `:276`) |
| `freeToken`    | `svp_buffer_free_token`: local storage only (`gst_svp_meta.h:110-117`) |
| `destroyToken` | `svp_buffer_destroy_token`: the platform's token too (`gst_svp_meta.h:118-125`); no caller under `src/` |
| `freeHandle`   | `free(pOutBuf)` (`:273`), `SecOpaqueBuffer_Free` of the output |

`handOffStep` follows the secure memory behind the output handle, the storage of the token and the bytes
at `pDataOut`. `TokenKept` says that the memory ends with the caller, behind a token that was written
out, or destroyed. The two release functions differ in the calls they make, and `token_hand_off` says
for which answers and destinations each of them keeps the token.
-/

namespace GstSvpExt

/-! ## Where the memory is -/

/-- Who the secure memory belongs to: the caller's handle, a token of the platform, no one because it
was destroyed, or no one although it was not. -/
inductive Custody
  | caller
  | token
  | destroyed
  | lost
deriving DecidableEq, Repr

/-- The live token storages with what `svp_buffer_to_token` put there, the bytes at `pDataOut` (`none`
is `NULL`), and who the memory belongs to. -/
structure HandOff (T : Type) where
  storage : T → Option (Option (List UInt8))
  out : Option (List UInt8)
  custody : Custody

inductive HandOffAct (T : Type)
  | alloc (t : T)
  | toToken (t : Option T)
  | copy (src : Option T) (size : Nat)
  | freeToken (t : Option T)
  | destroyToken (t : Option T)
  | freeHandle
deriving DecidableEq, Repr

/-- Before the call: no storage, and the memory is behind the caller's handle. -/
def HandOff.start {T : Type} (out : Option (List UInt8)) : HandOff T := ⟨fun _ => none, out, .caller⟩

section
variable {T : Type} [DecidableEq T]

/-- The storage is given back; undefined where it is not live. -/
def HandOff.dropStorage (s : HandOff T) : Option T → Option (HandOff T)
  | none => some s
  | some t => if (s.storage t).isSome then some { s with storage := Function.update s.storage t none } else none

/-- One act, with `tok` the bytes of the token. Undefined are a read of storage that is not live or not
filled, and a write through `NULL` or behind the bytes at `pDataOut`. -/
def handOffStep (tok : List UInt8) (s : HandOff T) : HandOffAct T → Option (HandOff T)
  | .alloc t =>
    if (s.storage t).isSome then none else some { s with storage := Function.update s.storage t (some none) }
  | .toToken none => some { s with custody := .token }
  | .toToken (some t) =>
    if (s.storage t).isSome then
      some { s with storage := Function.update s.storage t (some (some tok)), custody := .token }
    else none
  | .copy src size =>
    -- a `memcpy` of no bytes touches neither side
    if size = 0 then some s
    else do
      let t ← src
      let filled ← s.storage t
      let token ← filled
      let bytes ← Bytes.read token 0 size
      let out ← s.out
      let out ← Bytes.write out 0 bytes
      some { s with out := some out }
  | .freeToken t => s.dropStorage t
  | .destroyToken t =>
    (s.dropStorage t).map fun s =>
      { s with custody := if s.custody = .token then .destroyed else s.custody }
  | .freeHandle => some { s with custody := if s.custody = .caller then .lost else s.custody }

/-- No storage is left, and the memory is with the caller, destroyed, or behind a token that stands
complete at `pDataOut`. -/
def HandOff.Kept (tok : List UInt8) (s : HandOff T) : Prop :=
  (∀ t, s.storage t = none) ∧
    match s.custody with
    | .caller => True
    | .token => ∃ out, s.out = some out ∧ out.take tok.length = tok
    | .destroyed => True
    | .lost => False

/-- The acts touch nothing that they may not, free what storage they obtain, once, and keep the memory. -/
def TokenKept (tok : List UInt8) (out : Option (List UInt8)) (acts : List (HandOffAct T)) : Prop :=
  ∃ s, Runs.run (handOffStep tok) (HandOff.start out) acts = some s ∧ s.Kept tok

end

/-! ## The acts of the two functions -/

variable {H P M D T : Type}

/-- What a token call means for the memory behind `pOutBuf`. -/
def TokenCall.handOffAct [DecidableEq H] (pOutBuf : H) : TokenCall H T → Option (HandOffAct T)
  | .alloc t => t.map .alloc
  | .bufferToToken handle t ok => if ok = true ∧ handle = some pOutBuf then some (.toToken t) else none
  | .memcpy _ src size => some (.copy src size)
  | .free t => some (.freeToken t)

def SecCall.handOffAct [DecidableEq H] (pOutBuf : H) : SecCall H T → Option (HandOffAct T)
  | .token c => c.handOffAct pOutBuf
  | .free handle => if handle = pOutBuf then some .freeHandle else none
  | _ => none

def V3Call.handOffAct [DecidableEq P] (pOutBuf : P) : V3Call P M D T → Option (HandOffAct T)
  | .token c => c.handOffAct pOutBuf
  | .free p => if p = some pOutBuf then some .freeHandle else none
  | _ => none

/-- A release in general: whether it frees the output's handle, and whether it copies the token. -/
def handOffActs (a : TokenAnswers T) (size : Nat) (freesHandle copies : Bool) : List (HandOffAct T) :=
  a.alloc.toList.map .alloc ++ (if a.toToken then [.toToken a.alloc] else []) ++
    (if freesHandle then [.freeHandle] else []) ++ (if copies then [.copy a.alloc size] else []) ++
    [.freeToken a.alloc]

/-- The v2 function keeps the output's handle and always copies. -/
theorem release_v2_acts [DecidableEq H] {a : TokenAnswers T} {size : Nat} {w w' : SecWorld H T} {pInBuf : Option H}
    {pOutBuf : H} {pDataOut : Option Nat} {nDataOutMax : Nat} {ret : UInt32} (hne : pInBuf ≠ some pOutBuf)
    (h : svpReleaseSecureBuffersV2SecapiImpl a size w pInBuf (some pOutBuf) pDataOut nDataOutMax = some (ret, w')) :
    ∃ new, w'.calls = w.calls ++ new ∧
      new.filterMap (SecCall.handOffAct pOutBuf) = handOffActs a size false true := by
  obtain ⟨-, hr⟩ := release_v2_eq_some.1 h
  obtain ⟨-, rfl⟩ := Prod.mk.inj hr
  refine ⟨_, rfl, ?_⟩
  have hin : (freeIfSet pInBuf : List (SecCall H T)).filterMap (SecCall.handOffAct pOutBuf) = [] := by
    rcases pInBuf with _ | p
    · rfl
    · have hp : p ≠ pOutBuf := fun e => hne (congrArg some e)
      simp [freeIfSet, SecCall.handOffAct, hp]
  rw [List.filterMap_append, hin, List.append_nil]
  rcases a with ⟨_ | t, _ | _⟩ <;>
    simp [handOffActs, SecCall.handOffAct, TokenCall.handOffAct, List.filterMap_cons]

/-- The v3 function frees the output's handle and copies only where `pDataOut` is set. -/
theorem release_v3_acts [DecidableEq P] [DecidableEq M] {a : TokenAnswers T} {memoryFree : M → Bool} {size : Nat}
    {w w' : V3World P M D T} {pInBuf : Option P} {pOutBuf : P} {pDataOut : Option Nat} {nDataOutMax : Nat}
    {ret : UInt32} (hne : pInBuf ≠ some pOutBuf)
    (h : svpReleaseSecureBuffersV3ImplDefault a memoryFree size w pInBuf (some pOutBuf) pDataOut nDataOutMax =
      some (ret, w')) :
    ∃ new, w'.calls = w.calls ++ new ∧
      new.filterMap (V3Call.handOffAct pOutBuf) = handOffActs a size true pDataOut.isSome := by
  obtain ⟨-, w1, h1, h2⟩ := release_v3_eq_some.1 h
  have hslot := (releaseOut_frees h1).choose_spec.2.2.2
  obtain ⟨-, rfl⟩ := releaseOutBufV3_eq_some.1 h1
  have hacts : (releaseOutCalls a size (some pOutBuf) pDataOut : List (V3Call P M D T)).filterMap
      (V3Call.handOffAct pOutBuf) = handOffActs a size true pDataOut.isSome := by
    rcases a with ⟨_ | t, _ | _⟩ <;> cases pDataOut <;>
      simp [releaseOutCalls, handOffActs, V3Call.handOffAct, TokenCall.handOffAct, List.filterMap_cons]
  rcases pInBuf with _ | p
  · obtain rfl := Option.some.inj h2
    exact ⟨_, rfl, hacts⟩
  · have hp : p ≠ pOutBuf := fun e => hne (congrArg some e)
    rw [if_pos Option.isSome_some] at h2
    -- `free_v3_memory` makes no call on the output
    obtain ⟨-, rfl⟩ | ⟨slot, q, m, hs, hq, rfl⟩ := freeV3Memory_cases h2
    · exact ⟨_, rfl, hacts⟩
    · obtain rfl := Option.some.inj hs
      obtain rfl := Option.some.inj (hslot.symm.trans hq)
      refine ⟨_, List.append_assoc .., ?_⟩
      rw [List.filterMap_append, hacts]
      simp [V3Call.handOffAct, hp]

/-! ## Which releases keep the token -/

section
variable [DecidableEq T]

/-- After `svp_buffer_alloc_token`, `svp_buffer_to_token` and the free of the handle. -/
def HandOff.prepared (a : TokenAnswers T) (tok : List UInt8) (out : Option (List UInt8)) (freesHandle : Bool) :
    HandOff T where
  storage := match a.alloc with
    | none => fun _ => none
    | some t => Function.update (fun _ => none) t (some (if a.toToken then some tok else none))
  out := out
  custody := if a.toToken then .token else if freesHandle then .lost else .caller

theorem run_prepared (a : TokenAnswers T) (tok : List UInt8) (out : Option (List UInt8)) (freesHandle : Bool)
    (acts : List (HandOffAct T)) :
    Runs.run (handOffStep tok) (HandOff.start out)
        (a.alloc.toList.map .alloc ++ (if a.toToken then [.toToken a.alloc] else []) ++
          (if freesHandle then [.freeHandle] else []) ++ acts) =
      Runs.run (handOffStep tok) (HandOff.prepared a tok out freesHandle) acts := by
  rcases a with ⟨_ | t, _ | _⟩ <;> cases freesHandle <;>
    simp [handOffStep, HandOff.start, HandOff.prepared]

/-- The storage is given back at the end. -/
theorem freeToken_prepared (a : TokenAnswers T) (tok : List UInt8) (out out' : Option (List UInt8))
    (freesHandle : Bool) :
    handOffStep tok { HandOff.prepared a tok out freesHandle with out := out' } (.freeToken a.alloc) =
      some ⟨fun _ => none, out', (HandOff.prepared a tok out freesHandle).custody⟩ := by
  rcases a with ⟨_ | t, toToken⟩
  · rfl
  · simp [handOffStep, HandOff.dropStorage, HandOff.prepared]

/-- The copy of a token that is there, to where it fits. -/
theorem copy_prepared {a : TokenAnswers T} {tok o : List UInt8} (out : Option (List UInt8)) (freesHandle : Bool)
    {t : T} (ht : a.alloc = some t) (hok : a.toToken = true) (hout : out = some o) (hlen : tok.length ≤ o.length) :
    ∃ o', handOffStep tok (HandOff.prepared a tok out freesHandle) (.copy a.alloc tok.length) =
        some { HandOff.prepared a tok out freesHandle with out := some o' } ∧ o'.take tok.length = tok := by
  obtain ⟨o', hw⟩ := Bytes.exists_write o 0 tok (by omega)
  have hread : Bytes.read tok 0 tok.length = some tok := by simp [Bytes.read]
  have hback := Bytes.read_write hw (Nat.le_refl tok.length)
  rw [Bytes.read_eq_some, List.drop_zero, List.take_length] at hback
  by_cases hz : tok.length = 0
  · refine ⟨o, ?_, ?_⟩
    · simp [handOffStep, hz, HandOff.prepared, hout]
    · rw [hz, List.take_zero, List.eq_nil_of_length_eq_zero hz]
  · refine ⟨o', ?_, hback.2⟩
    simp [handOffStep, hz, HandOff.prepared, ht, hok, hout, hread, hw]

/-- A copy that goes through, with bytes to copy, had a filled storage and the room. -/
theorem copy_prepared_defined {a : TokenAnswers T} {tok : List UInt8} {out : Option (List UInt8)}
    {freesHandle : Bool} {s : HandOff T} (hz : tok.length ≠ 0)
    (h : handOffStep tok (HandOff.prepared a tok out freesHandle) (.copy a.alloc tok.length) = some s) :
    a.alloc.isSome ∧ a.toToken = true ∧ ∃ o, out = some o ∧ tok.length ≤ o.length := by
  simp only [handOffStep, if_neg hz, Option.bind_eq_bind, Option.bind_eq_some_iff] at h
  obtain ⟨t, ht, filled, hfilled, token, htoken, bytes, hread, o, ho, o', hw, -⟩ := h
  simp only [HandOff.prepared, ht, Function.update_self, Option.some.injEq] at hfilled
  have hok : a.toToken = true := by
    by_contra hno
    simp [← hfilled, hno] at htoken
  refine ⟨by simp [ht], hok, o, ho, ?_⟩
  have hle := (Bytes.write_eq_some.1 hw).1
  rw [Bytes.read_length hread] at hle
  omega

/-- What a release needs to hand the token on: the token was made, there is a destination with room for
it, and its storage is there unless it has no bytes. -/
def HandsOn (a : TokenAnswers T) (tok : List UInt8) (out : Option (List UInt8)) : Prop :=
  a.toToken = true ∧ (∃ o, out = some o ∧ tok.length ≤ o.length) ∧ (a.alloc.isSome ∨ tok.length = 0)

/-- Without bytes to copy, or without a copy, a release leaves what is at `pDataOut`. -/
theorem run_idle (a : TokenAnswers T) {tok : List UInt8} (out : Option (List UInt8)) (freesHandle : Bool)
    {copies : Bool} (h : copies = true → tok.length = 0) :
    Runs.run (handOffStep tok) (HandOff.start out) (handOffActs a tok.length freesHandle copies) =
      some ⟨fun _ => none, out, (HandOff.prepared a tok out freesHandle).custody⟩ := by
  have hcopy : Runs.run (handOffStep tok) (HandOff.prepared a tok out freesHandle)
      (if copies then [.copy a.alloc tok.length] else []) = some (HandOff.prepared a tok out freesHandle) := by
    cases copies with
    | false => rfl
    | true => simp [handOffStep, h rfl]
  unfold handOffActs
  rw [List.append_assoc, run_prepared, Runs.run_append, hcopy, Option.bind_some, Runs.run_cons]
  show ((handOffStep tok { HandOff.prepared a tok out freesHandle with out := out }
    (.freeToken a.alloc)).bind fun s => Runs.run (handOffStep tok) s []) = _
  rw [freeToken_prepared]
  rfl

/-- A release that copies: it is defined if the copy is. -/
theorem run_copy (a : TokenAnswers T) {tok : List UInt8} (out : Option (List UInt8)) (freesHandle : Bool) :
    Runs.run (handOffStep tok) (HandOff.start out) (handOffActs a tok.length freesHandle true) =
      (handOffStep tok (HandOff.prepared a tok out freesHandle) (.copy a.alloc tok.length)).bind fun s =>
        handOffStep tok s (.freeToken a.alloc) := by
  unfold handOffActs
  rw [List.append_assoc, run_prepared]
  simp [Runs.run_cons]

/-- **The token of one release.** A release that copies wherever there is a destination keeps the token
if it hands it on, or if it made none, leaves the handle alone and has no bytes to read. -/
theorem tokenKept_handOffActs (a : TokenAnswers T) (tok : List UInt8) (out : Option (List UInt8))
    {freesHandle copies : Bool} (hcopies : out ≠ none → copies = true) :
    TokenKept tok out (handOffActs a tok.length freesHandle copies) ↔
      HandsOn a tok out ∨ (a.toToken = false ∧ freesHandle = false ∧ (copies = true → tok.length = 0)) := by
  unfold TokenKept HandsOn
  by_cases hidle : copies = true → tok.length = 0
  · rw [run_idle a out freesHandle hidle]
    simp only [Option.some.injEq, exists_eq_left', HandOff.Kept, HandOff.prepared, implies_true, true_and]
    rcases out with _ | o
    · have hnil : copies = true → tok = [] := by simpa using hidle
      cases a.toToken <;> cases freesHandle <;> simp
      exact hnil
    · have hz : tok.length = 0 := hidle (hcopies (by simp))
      obtain rfl := List.eq_nil_of_length_eq_zero hz
      cases a.toToken <;> cases freesHandle <;> simp
  · obtain ⟨rfl, hz⟩ : copies = true ∧ tok.length ≠ 0 := by simpa using hidle
    rw [run_copy]
    constructor
    · rintro ⟨s, hs, -⟩
      obtain ⟨s1, hcopy, -⟩ := Option.bind_eq_some_iff.1 hs
      obtain ⟨ha, hok, hroom⟩ := copy_prepared_defined hz hcopy
      exact Or.inl ⟨hok, hroom, Or.inl ha⟩
    · rintro (⟨hok, ⟨o, ho, hle⟩, ha⟩ | ⟨-, -, h⟩)
      · obtain ⟨t, ht⟩ := Option.isSome_iff_exists.1 (ha.resolve_right hz)
        obtain ⟨o', hcopy, htake⟩ := copy_prepared out freesHandle ht hok ho hle
        refine ⟨_, by rw [hcopy, Option.bind_some, freeToken_prepared], fun _ => rfl, ?_⟩
        simp only [HandOff.prepared, hok, if_true]
        exact ⟨o', rfl, htake⟩
      · exact absurd (h rfl) hz

/-- **Token hand-off.** Both release functions return with the token of a live output handle kept where it was
made and is handed on. With no token made, v3 has freed the handle all the same, and v2 reads the storage
unless there is nothing to read. -/
theorem token_hand_off [DecidableEq H] [DecidableEq P] [DecidableEq M] (a : TokenAnswers T) (tok : List UInt8)
    (pDataOut : Option Nat) (contents : List UInt8) :
    (∀ (w : SecWorld H T) (pInBuf : Option H) (pOutBuf : H), pInBuf ≠ some pOutBuf →
      ((∃ w' new, svpReleaseSecureBuffersV2SecapiImpl a tok.length w pInBuf (some pOutBuf) pDataOut
          contents.length = some (0, w') ∧ w'.calls = w.calls ++ new ∧
        TokenKept tok (pDataOut.map fun _ => contents) (new.filterMap (SecCall.handOffAct pOutBuf))) ↔
          HandsOn a tok (pDataOut.map fun _ => contents) ∨ (a.toToken = false ∧ tok.length = 0))) ∧
    (∀ (memoryFree : M → Bool) (w : V3World P M D T) (pInBuf : Option P) (pOutBuf : P),
      (∀ p ∈ pInBuf, w.Live p) → pInBuf ≠ some pOutBuf →
      ((∃ w' new, svpReleaseSecureBuffersV3ImplDefault a memoryFree tok.length w pInBuf (some pOutBuf) pDataOut
          contents.length = some (0, w') ∧ w'.calls = w.calls ++ new ∧
        TokenKept tok (pDataOut.map fun _ => contents) (new.filterMap (V3Call.handOffAct pOutBuf))) ↔
          HandsOn a tok (pDataOut.map fun _ => contents))) := by
  -- a token that is handed on is copied from storage that is there to a destination that is there
  have hcopy : HandsOn a tok (pDataOut.map fun _ => contents) ∨ (a.toToken = false ∧ tok.length = 0) →
      tok.length = 0 ∨ (pDataOut.isSome ∧ a.alloc.isSome) := by
    rintro (⟨-, ⟨o, ho, -⟩, ha | hz⟩ | ⟨-, hz⟩)
    · cases pDataOut with
      | none => cases ho
      | some dst => exact Or.inr ⟨rfl, ha⟩
    · exact Or.inl hz
    · exact Or.inl hz
  constructor
  · intro w pInBuf pOutBuf hne
    have hkept : TokenKept tok (pDataOut.map fun _ => contents) (handOffActs a tok.length false true) ↔
        HandsOn a tok (pDataOut.map fun _ => contents) ∨ (a.toToken = false ∧ tok.length = 0) := by
      rw [tokenKept_handOffActs a tok _ fun _ => rfl]
      simp
    constructor
    · rintro ⟨w', new, he, hc, h⟩
      obtain ⟨new', hc', hacts⟩ := release_v2_acts hne he
      obtain rfl : new = new' := List.append_cancel_left (hc.symm.trans hc')
      exact hkept.1 (hacts ▸ h)
    · intro h
      obtain ⟨w', he⟩ : ∃ w', svpReleaseSecureBuffersV2SecapiImpl a tok.length w pInBuf (some pOutBuf) pDataOut
          contents.length = some (0, w') := ⟨_, release_v2_eq_some.2 ⟨hcopy h, rfl⟩⟩
      obtain ⟨new, hc, hacts⟩ := release_v2_acts hne he
      exact ⟨w', new, he, hc, hacts ▸ hkept.2 h⟩
  · intro memoryFree w pInBuf pOutBuf hl hne
    have hkept : TokenKept tok (pDataOut.map fun _ => contents) (handOffActs a tok.length true pDataOut.isSome) ↔
        HandsOn a tok (pDataOut.map fun _ => contents) := by
      rw [tokenKept_handOffActs a tok _ (by cases pDataOut <;> simp)]
      simp
    constructor
    · rintro ⟨w', new, he, hc, h⟩
      obtain ⟨new', hc', hacts⟩ := release_v3_acts hne he
      obtain rfl : new = new' := List.append_cancel_left (hc.symm.trans hc')
      exact hkept.1 (hacts ▸ h)
    · intro h
      have hdefined : CopyDefined a tok.length pDataOut :=
        fun _ => (hcopy (Or.inl h)).imp_right fun hc => hc.2
      have hne' : ∀ p ∈ pInBuf, p ∉ some pOutBuf := by
        rintro p hp hq
        exact hne (hp.trans hq.symm)
      obtain ⟨w', -, he, -⟩ := release_frees memoryFree contents.length hdefined hl hne'
      obtain ⟨new, hc, hacts⟩ := release_v3_acts hne he
      exact ⟨w', new, he, hc, hacts ▸ hkept.2 h⟩

end

/-- A token of two bytes written to four, with an input buffer to free. -/
theorem token_hand_off_written :
    ∃ w' new, svpReleaseSecureBuffersV3ImplDefault (D := Nat) ⟨some 7, true⟩ (fun _ => true) 2
        ⟨fun p => if p = 1 then some ⟨4, some 11⟩ else if p = 2 then some ⟨4, some 12⟩ else none,
          fun _ => none, fun _ => none, []⟩ (some 2) (some 1) (some 0) 4 = some (0, w') ∧ w'.calls = [] ++ new ∧
      TokenKept [8, 9] (some [0, 0, 0, 0]) (new.filterMap (V3Call.handOffAct 1)) :=
  ((token_hand_off (H := Nat) (P := Nat) (M := Nat) (D := Nat) (T := Nat) ⟨some 7, true⟩ [8, 9] (some 0)
    [0, 0, 0, 0]).2 (fun _ => true)
    ⟨fun p => if p = 1 then some ⟨4, some 11⟩ else if p = 2 then some ⟨4, some 12⟩ else none,
      fun _ => none, fun _ => none, []⟩ (some 2) 1
    (by rintro p hp; obtain rfl := Option.some.inj hp; exact ⟨4, 12, rfl⟩) (by simp)).2
    ⟨rfl, ⟨_, rfl, by simp⟩, Or.inl rfl⟩

/-- Without a destination v3 frees the storage of a token that was made, and nothing destroys the token. -/
theorem token_orphaned :
    ∃ w w' : V3World Nat Nat Nat Nat, ∃ s, w.Live 1 ∧
      svpReleaseSecureBuffersV3ImplDefault ⟨some 7, true⟩ (fun _ => true) 2 w none (some 1) none 0 = some (0, w') ∧
      Runs.run (handOffStep [8, 9]) (HandOff.start none) (w'.calls.filterMap (V3Call.handOffAct 1)) = some s ∧
      s.custody = .token ∧ s.out = none ∧
      ¬ TokenKept [8, 9] none (w'.calls.filterMap (V3Call.handOffAct 1)) := by
  refine ⟨⟨fun p => if p = 1 then some ⟨4, some 11⟩ else none, fun _ => none, fun _ => none, []⟩, _, _,
    ⟨4, 11, rfl⟩, rfl, rfl, rfl, rfl, ?_⟩
  rintro ⟨s, hs, -, hkept⟩
  obtain rfl := Option.some.inj hs
  obtain ⟨o, ho, -⟩ := hkept
  exact Option.some_ne_none o ho.symm

end GstSvpExt
