import GstSvpExt.DataBlockRun
import GstSvpExt.HeaderFrame

/-!
# Data blocks as records (`gst_svp_header.cpp:44-281`)

To its users a block is a record: what kind of token it carries and the secure memory behind it, two
counters, and the bytes of the sample. `BlockView` is that record and `viewStep` what the calls do to it,
without a header, an offset or a hook's bytes. `blocks_refine` says that blocks are these records: over any
run of calls every live block reads, through either API and behind its header, as its record does, and the
same secure memory is obtained and released.
-/

namespace GstSvpExt

open Bytes Ledger Runs

variable {A : Type}

/-! ## Records -/

structure BlockView (A : Type) where
  secMem : Option A
  type : TokenType
  version : UInt32
  dataSize : UInt32
  sample : List UInt8

/-- The live records, and the secure allocations obtained and released. -/
structure ViewState (A : Type) where
  views : Nat → Option (BlockView A)
  trace : List (Act (Nat × A))

/-- A setter call on one of the counters. -/
def BlockView.set (v : BlockView A) (f : SvpHeaderFieldName) (value : UInt32) : BlockView A :=
  match f with
  | .version => { v with version := value }
  | .dataSize => { v with dataSize := value }
  | _ => v

def viewStep (b : Build) (s : ViewState A) : BlockOp A → Option (ViewState A)
  | .allocate none _ _ _ _ _ => some s
  | .allocate (some blk) _ hook encryptedDataSize physicalDataSize needSecMemAlloc =>
    let secMem := if needSecMemAlloc then hook.result else none
    some {
      views := Function.update s.views blk (some ⟨secMem, hookType hook encryptedDataSize needSecMemAlloc, 0,
        UInt32.ofNat encryptedDataSize, List.replicate physicalDataSize 0⟩)
      trace := s.trace ++ secMem.toList.map fun a => .acquire (blk, a) }
  | .set blk c => do
    let v ← s.views blk
    some { s with views := Function.update s.views blk (some (v.set c.field (u32Of (c.stored b)))) }
  | .payload blk off data => do
    let v ← s.views blk
    let sample ← write v.sample off data
    some { s with views := Function.update s.views blk (some { v with sample }) }
  | .free none _ => some s
  | .free (some blk) _ => do
    let v ← s.views blk
    some {
      views := Function.update s.views blk none
      trace := s.trace ++ v.secMem.toList.map fun a => .release (blk, a) }

def viewInit : ViewState A := ⟨fun _ => none, []⟩

/-- What a user of the library reads of a block is the record: the counters and the type through either API,
the secure memory through an extract hook that knows its token, the sample behind the header. -/
structure Shows (b : Build) (token : A → List UInt8) (o : List UInt8) (v : BlockView A) : Prop where
  getField : ∀ value : List UInt8, value.length = 4 →
    gstSvpHeaderGetField b (some o) .type value = some (true, u32Bytes v.type.val) ∧
      gstSvpHeaderGetField b (some o) .version value = some (true, u32Bytes v.version) ∧
        gstSvpHeaderGetField b (some o) .dataSize value = some (true, u32Bytes v.dataSize)
  getFieldV2 : ∀ extract : List UInt8 → Option A,
    gstSvpHeaderGetFieldV2 b extract (some o) .type = some (true, some (.u32 v.type.val)) ∧
      gstSvpHeaderGetFieldV2 b extract (some o) .version = some (true, some (.u32 v.version)) ∧
        gstSvpHeaderGetFieldV2 b extract (some o) .dataSize = some (true, some (.u32 v.dataSize))
  outputBuffer : ∀ a ∈ v.secMem, ∀ extract : List UInt8 → Option A,
    (∀ slot, slot.length = b.tokenSize.toNat → token a <+: slot → extract slot = some a) →
      gstSvpHeaderGetFieldV2 b extract (some o) .outputBuffer = some (true, some (.handle (some a)))
  sample : ∃ start, gstSvpHeaderRemoveHeaderIfPresent b o 0 = some (some start) ∧
    read o start v.sample.length = some v.sample

/-! ## What a block's bytes keep of its record -/

/-- The bytes behind the record, beside those that the hook decides. -/
structure BlockShown (b : Build) (d : DataBlock A) (v : BlockView A) : Prop where
  secMem : d.secMem = v.secMem
  type : d.type = v.type
  version : read d.bytes versionOffset 4 = some (u32Bytes v.version)
  dataSize : read d.bytes dataSizeOffset 4 = some (u32Bytes v.dataSize)
  sample : read d.bytes (gstSvpHeaderSize b) d.physicalDataSize = some v.sample

section
variable {b : Build} {token : A → List UInt8} {d : DataBlock A} {v : BlockView A}

theorem BlockShown.shows (h : BlockShown b d v) (hk : BlockKept b token d) : Shows b token d.bytes v := by
  obtain ⟨⟨k, hwf, htoken⟩, -⟩ := hk
  have htype := hwf.type
  rw [h.type] at htype
  have hu32 : ∀ (extract : List UInt8 → Option A) {off : Nat} {n : UInt32},
      read d.bytes off 4 = some (u32Bytes n) → loadU32 (H := A) d.bytes off = some (true, some (.u32 n)) := by
    intro _ off n hread
    rw [loadU32, hread, Option.map_some, u32Of_u32Bytes]
  constructor
  case getField =>
    intro value hv
    exact ⟨copyField_whole htype hv, copyField_whole h.version hv, copyField_whole h.dataSize hv⟩
  case getFieldV2 =>
    intro extract
    exact ⟨hu32 extract htype, hu32 extract h.version, hu32 extract h.dataSize⟩
  case outputBuffer =>
    intro a ha extract hextract
    obtain ⟨rest, hslot⟩ := hwf.slot
    have hknown := hextract _ (read_length hslot) (htoken a (h.secMem ▸ ha) ▸ List.prefix_append k rest)
    simp only [gstSvpHeaderGetFieldV2, hslot, Option.map_some, hknown]
  case sample =>
    refine ⟨gstSvpHeaderSize b, ?_, ?_⟩
    · have hhas : gstSvpHasHeader d.bytes 0 = some true := by
        have hguid : read d.bytes 0 guidSize = some headerGuid := hwf.guid
        simp only [gstSvpHasHeader, hguid, Option.map_some, beq_self_eq_true]
      rw [gstSvpHeaderRemoveHeaderIfPresent, hhas, Option.map_some, if_pos rfl, gstSvpHeaderGetStartOfData,
        Option.map_some, Nat.zero_add]
    · rw [read_length h.sample]
      exact h.sample

/-! ## A new block -/

/-- With the hook's call, a block is the one without, save in its type and its token slot. -/
theorem allocate_hook {mem : Memory} {hook : AllocSecMem A} {encryptedDataSize physicalDataSize n : Nat}
    {needSecMemAlloc : Bool} {o : List UInt8} (hslot : hook.slot.length ≤ b.tokenSize.toNat)
    (h : gstSvpAllocateDataBlock b mem hook true encryptedDataSize physicalDataSize needSecMemAlloc =
      some (n, some o)) :
    ∃ o₀, gstSvpAllocateDataBlock b mem hook true encryptedDataSize physicalDataSize false = some (n, some o₀) ∧
      ∀ off m, versionOffset ≤ off → off + m ≤ handleOffset ∨ handleOffset + b.tokenSize.toNat ≤ off →
        read o off m = read o₀ off m := by
  cases needSecMemAlloc with
  | false => exact ⟨o, h, fun _ _ _ _ => rfl⟩
  | true =>
    rw [allocate_eq] at h
    obtain ⟨data1, h1, h⟩ := Option.bind_eq_some_iff.1 h
    obtain ⟨⟨ok, data2⟩, h2, h⟩ := Option.bind_eq_some_iff.1 h
    obtain ⟨data3, h3, h⟩ := Option.bind_eq_some_iff.1 h
    obtain ⟨hn, rfl⟩ := Prod.mk.inj (Option.some.inj h)
    rw [if_pos rfl] at h3
    cases data2 with
    | none => cases h3
    | some o₀ =>
      refine ⟨o₀, ?_, ?_⟩
      · rw [hn] at h1
        rw [allocate_eq]
        simp only [hn, h1, h2, Option.bind_some, Bool.false_eq_true, if_false]
      · intro off m hoff haway
        obtain ⟨o1, o2, hw, ho, htype⟩ := allocSecMemInto_inv h3
        obtain rfl := Option.some.inj ho
        have hfirst : read o1 off m = read o₀ off m := read_write_away hw (by omega)
        rcases htype with rfl | ⟨type, hw'⟩
        · exact hfirst
        · rw [read_write_away hw' (Or.inr (by rw [u32Bytes_length]; exact hoff)), hfirst]

/-- A new block is the record of its sizes: its sample is zeros, and no version is set. -/
theorem allocate_shown (hsize : sizeofSvpHeader + b.tokenSize.toNat < 2 ^ b.gsizeBits) {mem : Memory}
    {hook : AllocSecMem A} {encryptedDataSize physicalDataSize n : Nat} {needSecMemAlloc : Bool} {o : List UInt8}
    (hslot : hook.slot.length ≤ b.tokenSize.toNat)
    (hfits : physicalDataSize + b.tokenSize.toNat + gstSvpHeaderSize b < 2 ^ b.gsizeBits)
    (h : gstSvpAllocateDataBlock b mem hook true encryptedDataSize physicalDataSize needSecMemAlloc =
      some (n, some o)) (secMem : Option A) (type : TokenType) :
    BlockShown b ⟨o, physicalDataSize, secMem, type⟩
      ⟨secMem, type, 0, UInt32.ofNat encryptedDataSize, List.replicate physicalDataSize 0⟩ := by
  have hh := gstSvpHeaderSize_eq hsize
  obtain ⟨htotal, ⟨hnone, -⟩ | ⟨o', ho, -, hroom⟩⟩ := allocate_inv h
  · cases hnone
  obtain rfl := Option.some.inj ho
  rw [Nat.mod_eq_of_lt hfits] at htotal
  obtain ⟨o₀, h₀, hsame⟩ := allocate_hook hslot h
  obtain ⟨hle, rest, hrest, hlayout⟩ := allocate_layout hsize h₀
  have hlen := readUpTo_length hrest
  constructor
  case secMem => rfl
  case type => rfl
  case version =>
    rw [hsame _ _ (Nat.le_refl _) (Or.inl (by decide)), hlayout]
    -- of the eight zeros behind the GUID, the type's and the version's
    have hzeros : List.replicate 8 (0 : UInt8) = u32Bytes 0 ++ u32Bytes 0 := rfl
    rw [hzeros]
    simp only [List.append_assoc]
    rw [← List.append_assoc headerGuid]
    exact read_append _ _ rfl rfl
  case dataSize => exact hroom.dataSize
  case sample =>
    have hbehind : n - gstSvpHeaderSize b = physicalDataSize + b.tokenSize.toNat := by omega
    rw [hsame _ _ (by rw [hh]; unfold versionOffset sizeofSvpHeader; omega)
      (Or.inr (by rw [hh]; unfold handleOffset sizeofSvpHeader; omega)), hlayout, hbehind, List.replicate_add]
    refine read_append _ _ ?_ List.length_replicate
    rw [hh]
    simp [headerGuid, sizeofSvpHeader, hlen]
    omega

/-! ## Using a block -/

/-- A setter call on a counter stores four bytes. -/
theorem stored_counter {c : SetCall} (hf : c.field = .version ∨ c.field = .dataSize) (hr : c.Readable b) :
    (c.stored b).length = 4 := by
  cases c with
  | v1 f value => exact u32Bytes_length value
  | v2 f value =>
    have hwidth : f.width b = 4 := by rcases hf with h | h <;> rw [show f = _ from h] <;> rfl
    simp only [SetCall.Readable, hwidth] at hr
    rw [SetCall.stored, hwidth, List.length_take, Nat.min_eq_left hr]

theorem BlockShown.set (hsize : sizeofSvpHeader + b.tokenSize.toNat < 2 ^ b.gsizeBits) (h : BlockShown b d v)
    {c : SetCall} (hf : c.field = .version ∨ c.field = .dataSize) (hr : c.Readable b) {bytes : List UInt8}
    (hw : write d.bytes c.field.offset (c.stored b) = some bytes) :
    BlockShown b { d with bytes } (v.set c.field (u32Of (c.stored b))) := by
  have hlen := stored_counter hf hr
  have hh := gstSvpHeaderSize_eq hsize
  have hstored : read bytes c.field.offset 4 = some (u32Bytes (u32Of (c.stored b))) := by
    rw [read_write hw (Nat.le_of_eq hlen.symm), u32Bytes_u32Of hlen, List.take_of_length_le (Nat.le_of_eq hlen)]
  have hsample : read bytes (gstSvpHeaderSize b) d.physicalDataSize = some v.sample := by
    rw [read_write_away hw, h.sample]
    refine Or.inr ?_
    rw [hlen, hh]
    rcases hf with hf | hf <;> rw [hf] <;>
      simp only [SvpHeaderFieldName.offset, versionOffset, dataSizeOffset, sizeofSvpHeader] <;> omega
  rcases hf with hf | hf
  · rw [hf] at hstored hw ⊢
    have hdata : read bytes dataSizeOffset 4 = some (u32Bytes v.dataSize) := by
      rw [read_write_away hw (Or.inr (by rw [hlen]; decide)), h.dataSize]
    exact ⟨h.secMem, h.type, hstored, hdata, hsample⟩
  · rw [hf] at hstored hw ⊢
    have hversion : read bytes versionOffset 4 = some (u32Bytes v.version) := by
      rw [read_write_away hw (Or.inl (by decide)), h.version]
    exact ⟨h.secMem, h.type, hversion, hstored, hsample⟩

theorem BlockShown.payload (hsize : sizeofSvpHeader + b.tokenSize.toNat < 2 ^ b.gsizeBits) (h : BlockShown b d v)
    {off : Nat} {data bytes : List UInt8} (hfits : off + data.length ≤ d.physicalDataSize)
    (hw : write d.bytes (gstSvpHeaderSize b + off) data = some bytes) :
    ∃ sample, write v.sample off data = some sample ∧ BlockShown b { d with bytes } { v with sample } := by
  have hh := gstSvpHeaderSize_eq hsize
  obtain ⟨sample, hwrite, hread⟩ := read_write_inside h.sample hfits hw
  have habove : ∀ n, n + 4 ≤ sizeofSvpHeader → read bytes n 4 = read d.bytes n 4 := by
    intro n hn
    refine read_write_away hw (Or.inl ?_)
    rw [hh]
    omega
  exact ⟨sample, hwrite, h.secMem, h.type, (habove _ (by decide)).trans h.version,
    (habove _ (by decide)).trans h.dataSize, hread⟩

/-! ## Steps -/

/-- Two tables that are related stay so when related values are entered. -/
theorem rel_update {D V : Type} {R : D → V → Prop} {f : Nat → Option D} {g : Nat → Option V}
    (h : ∀ k, Option.Rel R (f k) (g k)) (k : Nat) {x : Option D} {y : Option V} (hxy : Option.Rel R x y) (j : Nat) :
    Option.Rel R (Function.update f k x j) (Function.update g k y j) := by
  by_cases hj : j = k
  · subst hj
    rw [Function.update_self, Function.update_self]
    exact hxy
  · rw [Function.update_of_ne hj, Function.update_of_ne hj]
    exact h j

variable [DecidableEq A] {s : BlockState A} {t : ViewState A}

/-- A state of blocks and a state of records that stands for it. -/
structure ViewInv (b : Build) (token : A → List UInt8) (s : BlockState A) (t : ViewState A) : Prop where
  blocks : ∃ live, BlockInv b token s live
  sized : BlockSized b s
  trace : s.trace = t.trace
  shown : ∀ blk, Option.Rel (BlockShown b) (s.blocks blk) (t.views blk)

theorem viewInv_init : ViewInv b token (blockInit : BlockState A) viewInit where
  blocks := ⟨[], blockInv_init⟩
  sized := fun _ _ h => by simp [blockInit] at h
  trace := rfl
  shown := fun _ => .none

omit [DecidableEq A] in
/-- The record of a live block. -/
theorem exists_view (h : ∀ blk, Option.Rel (BlockShown b) (s.blocks blk) (t.views blk)) {blk : Nat}
    (hd : s.blocks blk = some d) : ∃ v, t.views blk = some v ∧ BlockShown b d v := by
  have hrel := h blk
  rw [hd] at hrel
  cases hv : t.views blk with
  | none =>
    rw [hv] at hrel
    cases hrel
  | some v =>
    rw [hv] at hrel
    cases hrel with
    | some hshown => exact ⟨v, rfl, hshown⟩

/-- What a legal call does to the blocks, the same call does to the records. -/
theorem viewStep_follows (hsize : sizeofSvpHeader + b.tokenSize.toNat < 2 ^ b.gsizeBits) (h : ViewInv b token s t)
    {op : BlockOp A} (hl : BlockLegal b token s op) (hf : BlockFits b s op) {s' : BlockState A}
    (hs : blockStep b s op = some s') :
    ∃ t', viewStep b t op = some t' ∧ s'.trace = t'.trace ∧
      ∀ blk, Option.Rel (BlockShown b) (s'.blocks blk) (t'.views blk) := by
  obtain ⟨live, hinv⟩ := h.blocks
  cases op with
  | allocate ppData mem hook encryptedDataSize physicalDataSize needSecMemAlloc =>
    cases ppData with
    | none =>
      simp only [blockStep, allocate_null, Option.map_some, Option.some.injEq] at hs
      exact ⟨t, rfl, hs ▸ h.trace, hs ▸ h.shown⟩
    | some blk =>
      simp only [blockStep, Option.bind_eq_bind, Option.bind_eq_some_iff, Prod.exists] at hs
      obtain ⟨n, data, he, bytes, rfl, hs⟩ := hs
      rw [← Option.some.inj hs]
      refine ⟨_, rfl, ?_, ?_⟩
      · rw [h.trace]
      · exact rel_update h.shown blk (.some (allocate_shown hsize hl.2.1 (hf rfl).1 he _ _))
  | set blk c =>
    obtain ⟨-, hfield, hr⟩ := hl
    simp only [blockStep, Option.bind_eq_bind, Option.bind_eq_some_iff, Prod.exists] at hs
    obtain ⟨d, hd, ok, data, he, bytes, rfl, hs⟩ := hs
    rw [(exec_counter hfield hr d.bytes).1] at he
    obtain ⟨-, bytes', hw, hb⟩ := storeField_eq_some.1 he
    obtain rfl := Option.some.inj hb
    obtain ⟨v, hv, hshown⟩ := exists_view h.shown hd
    rw [← Option.some.inj hs]
    have hview : viewStep b t (.set blk c) = some { t with
        views := Function.update t.views blk (some (v.set c.field (u32Of (c.stored b)))) } := by
      rw [viewStep, hv]
      rfl
    exact ⟨_, hview, h.trace, rel_update h.shown blk (.some (hshown.set hsize hfield hr hw))⟩
  | payload blk off data =>
    simp only [blockStep, Option.bind_eq_bind, Option.bind_eq_some_iff, gstSvpHeaderGetStartOfData,
      Option.map_some, Option.some.injEq, exists_eq_left', Nat.zero_add] at hs
    obtain ⟨d, hd, bytes, hw, hs⟩ := hs
    obtain ⟨v, hv, hshown⟩ := exists_view h.shown hd
    obtain ⟨sample, hwrite, hshown'⟩ := hshown.payload hsize (hf d hd) hw
    rw [← hs]
    have hview : viewStep b t (.payload blk off data) = some { t with
        views := Function.update t.views blk (some { v with sample }) } := by
      rw [viewStep, hv, Option.bind_eq_bind, Option.bind_some, hwrite]
      rfl
    exact ⟨_, hview, h.trace, rel_update h.shown blk (.some hshown')⟩
  | free pData extract =>
    cases pData with
    | none =>
      simp only [blockStep, free_null, Option.map_some, Option.some.injEq] at hs
      exact ⟨t, rfl, hs ▸ h.trace, hs ▸ h.shown⟩
    | some blk =>
      simp only [blockStep, Option.bind_eq_bind, Option.bind_eq_some_iff] at hs
      obtain ⟨d, hd, handles, he, hs⟩ := hs
      rw [free_own hinv hd hl, Option.some.injEq] at he
      obtain ⟨v, hv, hshown⟩ := exists_view h.shown hd
      rw [← Option.some.inj hs, ← he]
      have hview : viewStep b t (.free (some blk) extract) = some {
          views := Function.update t.views blk none
          trace := t.trace ++ v.secMem.toList.map fun a => .release (blk, a) } := by
        rw [viewStep, hv]
        rfl
      refine ⟨_, hview, ?_, rel_update h.shown blk .none⟩
      rw [h.trace, hshown.secMem]

/-- **Blocks are records.** A run of legal calls whose sizes fit and whose blocks memory supplies is defined, on
the blocks and on the records; it obtains and releases the same secure memory in the same order, and every live
block reads as its record. -/
theorem blocks_refine (b : Build) (hsize : sizeofSvpHeader + b.tokenSize.toNat < 2 ^ b.gsizeBits)
    (token : A → List UInt8) (ops : List (BlockOp A)) (hlegal : Along (blockStep b) (BlockLegal b token) blockInit ops)
    (hfits : Along (blockStep b) (BlockFits b) blockInit ops) :
    ∃ s t, run (blockStep b) blockInit ops = some s ∧ run (viewStep b) viewInit ops = some t ∧
      s.trace = t.trace ∧ ∀ blk, Option.Rel (fun d v => Shows b token d.bytes v) (s.blocks blk) (t.views blk) := by
  obtain ⟨s, t, hs, ht, h⟩ := run_refines (R := ViewInv b token) (by
    rintro s t op h ⟨hl, hf⟩
    obtain ⟨live, hinv⟩ := h.blocks
    obtain ⟨s', hs, hz⟩ := blockStep_defined hsize hinv h.sized hl hf
    obtain ⟨t', ht, htrace, hshown⟩ := viewStep_follows hsize h hl hf hs
    exact ⟨s', t', hs, ht, blockStep_keeps hsize hinv hl hs, hz, htrace, hshown⟩)
    viewInv_init (along_and hlegal hfits)
  refine ⟨s, t, hs, ht, h.trace, ?_⟩
  intro blk
  obtain ⟨live, hinv⟩ := h.blocks
  cases hd : s.blocks blk with
  | none =>
    have hrel := h.shown blk
    rw [hd] at hrel
    cases hv : t.views blk with
    | none => exact .none
    | some v =>
      rw [hv] at hrel
      cases hrel
  | some d =>
    obtain ⟨v, hv, hshown⟩ := exists_view h.shown hd
    rw [hv]
    exact .some (hshown.shows (hinv.kept blk d hd))

end

/-- A block with a secure allocation, a size set and a sample written. -/
theorem blocks_refine_sample :
    ∃ s t, run (blockStep ⟨64, 1, false⟩) (blockInit : BlockState UInt8)
        [.allocate (some 0) (.ample fun _ => 0) ⟨some 7, [7], none⟩ 16 4 true, .set 0 (.v1 .dataSize 2),
          .payload 0 1 [8, 9]] = some s ∧
      run (viewStep ⟨64, 1, false⟩) (viewInit : ViewState UInt8)
        [.allocate (some 0) (.ample fun _ => 0) ⟨some 7, [7], none⟩ 16 4 true, .set 0 (.v1 .dataSize 2),
          .payload 0 1 [8, 9]] = some t ∧
      s.trace = t.trace ∧
        ∀ blk, Option.Rel (fun d v => Shows ⟨64, 1, false⟩ (fun a => [a]) d.bytes v) (s.blocks blk) (t.views blk) := by
  refine blocks_refine ⟨64, 1, false⟩ (by decide) (fun a : UInt8 => [a]) _ ?_ ?_
  · refine ⟨⟨by simp [blockInit], by decide, by simp [blockInit]⟩, fun s hs => ?_⟩
    cases hs
    refine ⟨⟨rfl, Or.inr rfl, trivial⟩, fun s hs => ?_⟩
    cases hs
    exact ⟨rfl, fun _ _ => trivial⟩
  · refine ⟨fun _ => ⟨by decide, Memory.ample_supplies _ _ _⟩, fun s hs => ⟨trivial, fun s' hs' => ?_⟩⟩
    cases hs
    cases hs'
    refine ⟨?_, fun _ _ => trivial⟩
    intro d hd
    obtain rfl := Option.some.inj hd
    decide

end GstSvpExt
