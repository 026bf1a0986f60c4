import GstSvpExt.Header
import GstSvpExt.Registers
import GstSvpExt.Runs

/-!
# Both accessor APIs of the header act on one register file

`fieldBytes` reads a header as a register file: three four-byte registers and the platform token.
`SetCall.exec_spec` says that a call of either setter on a field is one bounds-checked write there;
`fieldBytes_write` that this write is one `Registers.store`, which no other field sees. A run of
setter calls is then a `Registers.storeAll` (`runSets_spec`), and what both getters return follows.
-/

namespace GstSvpExt

open Bytes Registers

/-- A call of one of the two setters. -/
inductive SetCall
  | v1 (fieldName : SvpHeaderFieldName) (value : UInt32)
  | v2 (fieldName : SvpHeaderFieldName) (value : List UInt8)
deriving DecidableEq, Repr

namespace SetCall

def field : SetCall → SvpHeaderFieldName
  | .v1 f _ | .v2 f _ => f

def exec (b : Build) (buffer : Option (List UInt8)) : SetCall → Option (Bool × Option (List UInt8))
  | .v1 f value => gstSvpHeaderSetField buffer f value
  | .v2 f value => gstSvpHeaderSetFieldV2 b buffer f value

/-- The bytes a call stores in its field. -/
def stored (b : Build) : SetCall → List UInt8
  | .v1 _ value => u32Bytes value
  | .v2 f value => value.take (f.width b)

/-- The pointer given to the v2 setter may be read for the whole field. -/
def Readable (b : Build) : SetCall → Prop
  | .v1 _ _ => True
  | .v2 f value => f.width b ≤ value.length

end SetCall

/-- The field name is one of the enumerators. -/
def SvpHeaderFieldName.known : SvpHeaderFieldName → Bool
  | .unknown _ => false
  | _ => true

/-- A run of setter calls on one buffer. -/
def runSets (b : Build) : Option (List UInt8) → List SetCall → Option (Option (List UInt8)) :=
  Runs.run fun buffer c => (c.exec b buffer).map Prod.snd

/-- The register writes of a run: the calls on enumerators. -/
def writesOf (b : Build) (calls : List SetCall) : List (SvpHeaderFieldName × List UInt8) :=
  (calls.filter fun c => c.field.known).map fun c => (c.field, c.stored b)

/-- What the run last stored in a field, through whichever setter. -/
def lastWritten (b : Build) (calls : List SetCall) (f : SvpHeaderFieldName) : Option (List UInt8) :=
  last (writesOf b calls) f

theorem exec_null (b : Build) (c : SetCall) : c.exec b none = some (false, none) := by
  cases c <;> rfl

theorem exec_unknown (b : Build) {c : SetCall} (hc : c.field.known = false) (header : List UInt8) :
    c.exec b (some header) = some (false, some header) := by
  cases c with
  | v1 f v => cases f <;> simp_all [SetCall.field, SvpHeaderFieldName.known, SetCall.exec, gstSvpHeaderSetField]
  | v2 f v => cases f <;> simp_all [SetCall.field, SvpHeaderFieldName.known, SetCall.exec, gstSvpHeaderSetFieldV2]

theorem stored_length {b : Build} {c : SetCall} (ht : 4 ≤ b.tokenSize.toNat) (hr : c.Readable b)
    (hc : c.field.known = true) : 4 ≤ (c.stored b).length ∧ (c.stored b).length ≤ c.field.width b := by
  cases c with
  | v1 f v => cases f <;> simp_all [SetCall.field, SvpHeaderFieldName.known, SetCall.stored, SvpHeaderFieldName.width]
  | v2 f v =>
    have hl : (v.take (f.width b)).length = f.width b := by
      rw [List.length_take]; exact Nat.min_eq_left hr
    refine ⟨?_, by rw [SetCall.stored, hl]; exact Nat.le_refl _⟩
    rw [SetCall.stored, hl]
    cases f <;> simp_all [SetCall.field, SvpHeaderFieldName.known, SvpHeaderFieldName.width]

/-- A setter call on an enumerator is one write at that field's offset, and returns `TRUE`. -/
theorem exec_known {b : Build} {c : SetCall} (hr : c.Readable b) (hc : c.field.known = true)
    (header : List UInt8) :
    c.exec b (some header) = storeField header c.field.offset (c.stored b) := by
  cases c with
  | v1 f v => cases f <;> first | rfl | simp [SetCall.field, SvpHeaderFieldName.known] at hc
  | v2 f v =>
    have hread : read v 0 (f.width b) = some (v.take (f.width b)) :=
      read_eq_some.2 ⟨by simpa [SetCall.Readable] using hr, by simp⟩
    cases f with
    | unknown raw => simp [SetCall.field, SvpHeaderFieldName.known] at hc
    | type | version | dataSize | outputBuffer =>
      simp only [SvpHeaderFieldName.width] at hread
      simp only [SetCall.exec, gstSvpHeaderSetFieldV2, hread, Option.bind_some]; rfl

/-- A write inside one field is a store in that register and leaves every other register alone. -/
theorem fieldBytes_write {b : Build} {header header' bs : List UInt8} {f : SvpHeaderFieldName}
    (hfit : HeaderFits b header) (hf : f.known = true) (hbs : bs.length ≤ f.width b)
    (h : write header f.offset bs = some header') :
    fieldBytes b header' = store (fieldBytes b header) (f, bs) := by
  have hfit' : HeaderFits b header' := by rw [HeaderFits, write_length h]; exact hfit
  funext g
  apply Option.some.inj
  rw [← read_field hfit' g]
  by_cases hg : g = f
  · subst hg
    rw [store_self, read_write_over h hbs (read_field hfit g)]
  · rw [store_other _ _ hg, ← read_field hfit g]
    refine read_write_away h ?_
    cases f <;> cases g <;>
      simp_all [SvpHeaderFieldName.offset, SvpHeaderFieldName.width, typeOffset, versionOffset,
        dataSizeOffset, handleOffset, SvpHeaderFieldName.known] <;> omega

/-- One setter call on a header with room: it is defined, and acts on the registers as one store
(or not at all, with `FALSE`, on a name that is no enumerator). -/
theorem exec_spec {b : Build} {header : List UInt8} {c : SetCall} (ht : 4 ≤ b.tokenSize.toNat)
    (hfit : HeaderFits b header) (hr : c.Readable b) :
    ∃ header', c.exec b (some header) = some (c.field.known, some header') ∧
      HeaderFits b header' ∧ header'.length = header.length ∧
      fieldBytes b header' = storeAll (fieldBytes b header) (writesOf b [c]) := by
  cases hc : c.field.known with
  | false => exact ⟨header, exec_unknown b hc header, hfit, rfl, by simp [writesOf, hc]⟩
  | true =>
    obtain ⟨_, hle⟩ := stored_length ht hr hc
    have hroom : c.field.offset + (c.stored b).length ≤ header.length := by
      have := (read_eq_some.1 (read_field hfit c.field)).1; omega
    obtain ⟨header', hw⟩ := exists_write header c.field.offset (c.stored b) hroom
    refine ⟨header', by rw [exec_known hr hc, storeField, hw]; rfl, ?_, write_length hw, ?_⟩
    · rw [HeaderFits, write_length hw]; exact hfit
    · rw [fieldBytes_write hfit hc hle hw]; simp [writesOf, hc]

/-- A call leaves alone every field it does not name. -/
theorem exec_keeps_others {b : Build} {header : List UInt8} {c : SetCall} (ht : 4 ≤ b.tokenSize.toNat)
    (hfit : HeaderFits b header) (hr : c.Readable b) :
    ∃ header', c.exec b (some header) = some (c.field.known, some header') ∧
      ∀ f, f ≠ c.field → fieldBytes b header' f = fieldBytes b header f := by
  obtain ⟨header', he, -, -, hb⟩ := exec_spec ht hfit hr
  refine ⟨header', he, ?_⟩
  intro f hf
  rw [hb]
  cases hk : c.field.known with
  | false => simp [writesOf, hk]
  | true =>
    have hw : writesOf b [c] = [(c.field, c.stored b)] := by simp [writesOf, hk]
    rw [hw]
    exact store_other _ _ hf

theorem writesOf_cons (b : Build) (c : SetCall) (calls : List SetCall) :
    writesOf b (c :: calls) = writesOf b [c] ++ writesOf b calls := by
  cases h : c.field.known <;> simp [writesOf, h]

/-- A run of setter calls is defined and is the run of its register writes. -/
theorem runSets_spec {b : Build} (ht : 4 ≤ b.tokenSize.toNat) {header : List UInt8} {calls : List SetCall}
    (hfit : HeaderFits b header) (hr : ∀ c ∈ calls, c.Readable b) :
    ∃ header', runSets b (some header) calls = some (some header') ∧ HeaderFits b header' ∧
      fieldBytes b header' = storeAll (fieldBytes b header) (writesOf b calls) := by
  induction calls generalizing header with
  | nil => exact ⟨header, rfl, hfit, rfl⟩
  | cons c calls ih =>
    obtain ⟨header1, he, hfit1, -, hb1⟩ := exec_spec ht hfit (hr c List.mem_cons_self)
    obtain ⟨header2, hrun, hfit2, hb2⟩ := ih hfit1 fun d hd => hr d (List.mem_cons_of_mem _ hd)
    refine ⟨header2, ?_, hfit2, ?_⟩
    · simp only [runSets, Runs.run_cons, he, Option.map_some, Option.bind_some]; exact hrun
    · rw [hb2, hb1, writesOf_cons b c calls, storeAll_append]

theorem writesOf_covers {b : Build} {calls : List SetCall} (ht : 4 ≤ b.tokenSize.toNat)
    (hr : ∀ c ∈ calls, c.Readable b) : ∀ w ∈ writesOf b calls, 4 ≤ w.2.length := by
  intro w hw
  simp only [writesOf, List.mem_map, List.mem_filter] at hw
  obtain ⟨c, ⟨hc, hk⟩, rfl⟩ := hw
  exact (stored_length ht (hr c hc) hk).1

/-- What was last written to a four-byte field has four bytes. -/
theorem lastWritten_length {b : Build} {header : List UInt8} {calls : List SetCall}
    (hfit : HeaderFits b header) (hr : ∀ c ∈ calls, c.Readable b) (f : SvpHeaderFieldName)
    (hf : f.width b = 4) : ((lastWritten b calls f).getD (fieldBytes b header f)).length = 4 := by
  cases hl : lastWritten b calls f with
  | none => rw [Option.getD_none, fieldBytes_length hfit f, hf]
  | some bs =>
    obtain ⟨w, hw, rfl⟩ := Option.map_eq_some_iff.1 hl
    have hmem := List.mem_filter.1 (List.mem_of_getLast? hw)
    simp only [writesOf, List.mem_map, List.mem_filter, decide_eq_true_eq] at hmem
    obtain ⟨⟨c, ⟨hc, hk⟩, rfl⟩, hcf⟩ := hmem
    cases c with
    | v1 g v => rfl
    | v2 g v =>
      have hle := hr _ hc
      simp only [SetCall.field] at hcf
      subst hcf
      simp only [SetCall.Readable, hf] at hle
      simp only [SetCall.stored, Option.getD_some, List.length_take, hf]
      omega

/-- A four-byte field holds what was last written to it. -/
theorem fieldBytes_lastWritten {b : Build} {header header' : List UInt8} {calls : List SetCall}
    (ht : 4 ≤ b.tokenSize.toNat) (hfit : HeaderFits b header) (hfit' : HeaderFits b header')
    (hr : ∀ c ∈ calls, c.Readable b)
    (hregs : fieldBytes b header' = storeAll (fieldBytes b header) (writesOf b calls)) {f : SvpHeaderFieldName}
    (hf : f.width b = 4) : fieldBytes b header' f = (lastWritten b calls f).getD (fieldBytes b header f) := by
  have h : (fieldBytes b header' f).take 4 = ((lastWritten b calls f).getD (fieldBytes b header f)).take 4 := by
    rw [hregs]
    exact storeAll_take _ _ f fun w hw _ => writesOf_covers ht hr w hw
  rwa [List.take_of_length_le (Nat.le_of_eq ((fieldBytes_length hfit' f).trans hf)),
    List.take_of_length_le (Nat.le_of_eq (lastWritten_length hfit hr f hf))] at h

/-- A four-byte field as both getters return it. -/
theorem get_u32 {H : Type} {b : Build} (extract : List UInt8 → Option H) {header : List UInt8}
    (hfit : HeaderFits b header) {f : SvpHeaderFieldName} (hf : f = .type ∨ f = .version ∨ f = .dataSize) :
    (∀ value : List UInt8, value.length = 4 →
      gstSvpHeaderGetField b (some header) f value = some (true, fieldBytes b header f)) ∧
    gstSvpHeaderGetFieldV2 b extract (some header) f =
      some (true, some (.u32 (u32Of (fieldBytes b header f)))) := by
  have hread := read_field hfit f
  rcases hf with rfl | rfl | rfl <;>
    exact ⟨fun value hv => copyField_whole hread hv, by
      simp only [SvpHeaderFieldName.offset, SvpHeaderFieldName.width] at hread
      simp [gstSvpHeaderGetFieldV2, loadU32, hread]⟩

/-- The v1 getter returns the first four bytes of the token slot. -/
theorem get_output_buffer {b : Build} (hm : b.mediatek = false) (ht : 4 ≤ b.tokenSize.toNat)
    {header : List UInt8} (hfit : HeaderFits b header) {value : List UInt8} (hv : value.length = 4) :
    gstSvpHeaderGetField b (some header) .outputBuffer value =
      some (true, (fieldBytes b header .outputBuffer).take 4) := by
  have hread := read_take (read_field hfit .outputBuffer) ht
  simp only [gstSvpHeaderGetField, hm, Bool.false_eq_true, if_false]
  exact copyField_whole hread hv

/-- **One register file.** After any run of calls of both setters, both getters return for each of
`Type`, `Version` and `DataSize` what was last stored there, the v1 getter returns the first four
bytes of the last `OutputBuffer`, no call touches a field it does not name, and an unknown name or
a `NULL` header is refused with nothing changed. -/
theorem header_register_file {H : Type} (b : Build) (extract : List UInt8 → Option H)
    (hm : b.mediatek = false) (ht : 4 ≤ b.tokenSize.toNat)
    (hsize : sizeofSvpHeader + b.tokenSize.toNat < 2 ^ b.gsizeBits)
    (header : List UInt8) (hlen : header.length = gstSvpHeaderSize b)
    (calls : List SetCall) (hr : ∀ c ∈ calls, c.Readable b) :
    ∃ header', runSets b (some header) calls = some (some header') ∧
      -- both getters agree on the last value of every four-byte field
      (∀ f, f = .type ∨ f = .version ∨ f = .dataSize →
        (∀ value : List UInt8, value.length = 4 →
          gstSvpHeaderGetField b (some header') f value =
            some (true, (lastWritten b calls f).getD (fieldBytes b header f))) ∧
        gstSvpHeaderGetFieldV2 b extract (some header') f =
          some (true, some (.u32 (u32Of ((lastWritten b calls f).getD (fieldBytes b header f)))))) ∧
      -- the v1 getter sees the front of the last token
      (∀ value : List UInt8, value.length = 4 →
        gstSvpHeaderGetField b (some header') .outputBuffer value =
          some (true,
            ((lastWritten b calls .outputBuffer).getD (fieldBytes b header .outputBuffer)).take 4)) ∧
      -- the next call is defined, succeeds iff it names a field, and changes no other field
      (∀ c : SetCall, c.Readable b → ∃ header'', c.exec b (some header') =
        some (c.field.known, some header'') ∧
        ∀ f, f ≠ c.field → fieldBytes b header'' f = fieldBytes b header' f) ∧
      -- an unknown name or a NULL header is refused by all four accessors
      (∀ c : SetCall, c.field.known = false → c.exec b (some header') = some (false, some header')) ∧
      (∀ c : SetCall, c.exec b none = some (false, none)) ∧
      (∀ raw value, gstSvpHeaderGetField b (some header') (.unknown raw) value = some (false, value) ∧
        gstSvpHeaderGetFieldV2 b extract (some header') (.unknown raw) = some (false, none)) ∧
      (∀ f value, gstSvpHeaderGetField b none f value = some (false, value) ∧
        gstSvpHeaderGetFieldV2 b extract none f = some (false, none)) := by
  have hfit : HeaderFits b header := by
    rw [HeaderFits, hlen, gstSvpHeaderSize, Nat.mod_eq_of_lt hsize, handleOffset, sizeofSvpHeader]
    omega
  obtain ⟨header', hrun, hfit', hregs⟩ := runSets_spec ht hfit hr
  have hcover := writesOf_covers ht hr
  have hlast : ∀ f, (fieldBytes b header' f).take 4 =
      ((lastWritten b calls f).getD (fieldBytes b header f)).take 4 := by
    intro f
    rw [hregs, storeAll_take (n := 4) _ _ f fun w hw _ => hcover w hw, lastWritten]
  refine ⟨header', hrun, ?_, ?_, ?_, fun c hc => exec_unknown b hc header', exec_null b,
    fun _ _ => ⟨rfl, rfl⟩, fun _ _ => ⟨rfl, rfl⟩⟩
  · intro f hf
    have hw : f.width b = 4 := by rcases hf with rfl | rfl | rfl <;> rfl
    rw [← fieldBytes_lastWritten ht hfit hfit' hr hregs hw]
    exact get_u32 extract hfit' hf
  · intro value hv
    rw [get_output_buffer hm ht hfit' hv, hlast]
  · intro c hc
    exact exec_keeps_others ht hfit' hc

/-- A 40-byte header under an 8-byte token, written through both setters. -/
theorem header_register_file_example :
    ∃ header', runSets ⟨64, 8, false⟩ (some (List.replicate 40 0))
        [.v1 .type 2, .v2 .outputBuffer [1, 2, 3, 4, 5, 6, 7, 8], .v1 .outputBuffer 9] =
          some (some header') ∧
      gstSvpHeaderGetFieldV2 ⟨64, 8, false⟩ (fun bs => some bs) (some header') .type =
        some (true, some (.u32 2)) ∧
      gstSvpHeaderGetField ⟨64, 8, false⟩ (some header') .outputBuffer [0, 0, 0, 0] =
        some (true, [9, 0, 0, 0]) := by
  obtain ⟨header', hrun, hu, ho, -⟩ := header_register_file ⟨64, 8, false⟩ (fun bs => some bs) rfl
    (by decide) (by decide) (List.replicate 40 0) rfl
    [.v1 .type 2, .v2 .outputBuffer [1, 2, 3, 4, 5, 6, 7, 8], .v1 .outputBuffer 9]
    (by simp [SetCall.Readable, SvpHeaderFieldName.width])
  exact ⟨header', hrun, (hu .type (Or.inl rfl)).2, ho [0, 0, 0, 0] rfl⟩

end GstSvpExt
