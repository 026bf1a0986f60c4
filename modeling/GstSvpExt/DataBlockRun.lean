import GstSvpExt.DataBlock
import GstSvpExt.HeaderRegs
import GstSvpExt.Ledger

/-!
# Secure memory over runs of data blocks

Any number of blocks are allocated, written to and freed in any order. The state keeps every live
block's bytes, beside them what its allocate hook did, and a trace of the secure allocations obtained
and released, each under the block it happened in. Freeing a block reads only its bytes;
`BlockInv` ties these to the ledger of the trace, so `secure_memory_conservation` can count releases.
-/

namespace GstSvpExt

open Bytes Ledger

variable {A : Type}

/-- A live block, and what its hook did: the allocation it obtained and the type that stands for it. -/
structure DataBlock (A : Type) where
  bytes : List UInt8
  physicalDataSize : Nat
  secMem : Option A
  type : TokenType

/-- The live blocks, the blocks freed, and the secure allocations obtained and released. -/
structure BlockState (A : Type) where
  blocks : Nat → Option (DataBlock A)
  freed : List Nat
  trace : List (Act (Nat × A))

/-- One call, with what the platform does in it. -/
inductive BlockOp (A : Type)
  | allocate (ppData : Option Nat) (mem : Memory) (hook : AllocSecMem A)
      (encryptedDataSize physicalDataSize : Nat) (needSecMemAlloc : Bool)
  | set (blk : Nat) (c : SetCall)
  | payload (blk off : Nat) (data : List UInt8)
  | free (pData : Option Nat) (extract : List UInt8 → Option A)

def blockStep (b : Build) (s : BlockState A) : BlockOp A → Option (BlockState A)
  | .allocate none mem hook encryptedDataSize physicalDataSize needSecMemAlloc =>
    (gstSvpAllocateDataBlock b mem hook false encryptedDataSize physicalDataSize needSecMemAlloc).map
      fun _ => s
  | .allocate (some blk) mem hook encryptedDataSize physicalDataSize needSecMemAlloc => do
    let (_, data) ←
      gstSvpAllocateDataBlock b mem hook true encryptedDataSize physicalDataSize needSecMemAlloc
    let bytes ← data
    let secMem := if needSecMemAlloc then hook.result else none
    some { s with
      blocks := Function.update s.blocks blk
        (some ⟨bytes, physicalDataSize, secMem, hookType hook encryptedDataSize needSecMemAlloc⟩)
      trace := s.trace ++ secMem.toList.map fun a => .acquire (blk, a) }
  | .set blk c => do
    let d ← s.blocks blk
    let (_, data) ← c.exec b (some d.bytes)
    let bytes ← data
    some { s with blocks := Function.update s.blocks blk (some { d with bytes }) }
  | .payload blk off data => do
    let d ← s.blocks blk
    let start ← gstSvpHeaderGetStartOfData b (some 0)
    let bytes ← write d.bytes (start + off) data
    some { s with blocks := Function.update s.blocks blk (some { d with bytes }) }
  | .free none extract => (gstSvpFreeDataBlock b extract none).map fun _ => s
  | .free (some blk) extract => do
    let d ← s.blocks blk
    let handles ← gstSvpFreeDataBlock b extract (some d.bytes)
    some {
      blocks := Function.update s.blocks blk none
      freed := blk :: s.freed
      trace := s.trace ++ handles.map fun a => .release (blk, a) }

/-- No block yet. -/
def blockInit : BlockState A := ⟨fun _ => none, [], []⟩

/-- What the hooks do and the callers may ask: a new block is new, a successful hook writes the token
of a fresh allocation and a failing one at most a token's length, the setters are used for `Version`
and `DataSize`, a block is freed once, and the extract hook knows the tokens of live allocations. -/
def BlockLegal (b : Build) (token : A → List UInt8) (s : BlockState A) : BlockOp A → Prop
  | .allocate ppData _ hook _ _ _ =>
    (∀ blk ∈ ppData, s.blocks blk = none ∧ blk ∉ s.freed) ∧ hook.slot.length ≤ b.tokenSize.toNat ∧
      ∀ a ∈ hook.result, hook.slot = token a ∧ a ∉ (acquired s.trace).map Prod.snd
  | .set blk c =>
    (s.blocks blk).isSome ∧ (c.field = .version ∨ c.field = .dataSize) ∧ c.Readable b
  | .payload blk _ _ => (s.blocks blk).isSome
  | .free pData extract =>
    (∀ blk ∈ pData, (s.blocks blk).isSome) ∧
      ∀ p ∈ acquired s.trace, p ∉ released s.trace → ∀ slot : List UInt8,
        slot.length = b.tokenSize.toNat → token p.2 <+: slot → extract slot = some p.2

/-- The block's size is representable and memory supplies it, and a payload stays within the size asked
for. -/
def BlockFits (b : Build) (s : BlockState A) : BlockOp A → Prop
  | .allocate ppData mem _ _ physicalDataSize _ =>
    ppData.isSome → physicalDataSize + b.tokenSize.toNat + gstSvpHeaderSize b < 2 ^ b.gsizeBits ∧
      mem.Supplies b (physicalDataSize + b.tokenSize.toNat + gstSvpHeaderSize b)
  | .payload blk off data => ∀ d ∈ s.blocks blk, off + data.length ≤ d.physicalDataSize
  | _ => True

/-! ## The invariant -/

/-- The bytes of a block agree with what its hook did. -/
structure BlockKept (b : Build) (token : A → List UInt8) (d : DataBlock A) : Prop where
  wellFormed : ∃ k, WellFormedBlock b d.bytes d.type k ∧ ∀ a ∈ d.secMem, k = token a
  type : d.secMem.isSome ↔ d.type = .preAllocatedHandle ∨ d.type = .fake

/-- What every live block satisfies once one of them has changed. -/
theorem update_forall {D : Type} {P : Nat → D → Prop} {f : Nat → Option D} {k : Nat} {v : Option D}
    (hf : ∀ j d, f j = some d → P j d) (hv : ∀ d, v = some d → P k d) :
    ∀ j d, Function.update f k v j = some d → P j d := by
  intro j d hd
  by_cases hj : j = k
  · subst hj
    rw [Function.update_self] at hd
    exact hv d hd
  · rw [Function.update_of_ne hj] at hd
    exact hf j d hd

section
variable [DecidableEq A]

/-- The live allocations are those of the live blocks. -/
structure BlockInv (b : Build) (token : A → List UInt8) (s : BlockState A) (live : List (Nat × A)) : Prop where
  ledger : follow [] s.trace = some live
  fresh : ((acquired s.trace).map Prod.snd).Nodup
  live : ∀ blk a, (blk, a) ∈ live ↔ ∃ d, s.blocks blk = some d ∧ d.secMem = some a
  kept : ∀ blk d, s.blocks blk = some d → BlockKept b token d
  freed : ∀ blk ∈ s.freed, s.blocks blk = none
  released : ∀ p ∈ Ledger.released s.trace, p.1 ∈ s.freed

variable {b : Build} {token : A → List UInt8} {s s' : BlockState A} {live : List (Nat × A)}

theorem blockInv_init : BlockInv b token (blockInit : BlockState A) [] where
  ledger := rfl
  fresh := by simp [blockInit]
  live := by simp [blockInit]
  kept := by simp [blockInit]
  freed := by simp [blockInit]
  released := by simp [blockInit]

theorem BlockInv.once (h : BlockInv b token s live) :
    (Ledger.released s.trace).Nodup ∧ live.Nodup ∧ (∀ p ∈ live, p ∉ Ledger.released s.trace) ∧
      ∀ p, p ∈ acquired s.trace ↔ p ∈ live ∨ p ∈ Ledger.released s.trace :=
  follow_once h.ledger (List.Nodup.of_map _ h.fresh)

/-- A user of a block that keeps its bytes in agreement with its hook. -/
theorem BlockInv.touch (h : BlockInv b token s live) {blk : Nat} {d : DataBlock A} {bytes : List UInt8}
    (hd : s.blocks blk = some d) (hk : BlockKept b token { d with bytes }) :
    BlockInv b token { s with blocks := Function.update s.blocks blk (some { d with bytes }) } live where
  ledger := h.ledger
  fresh := h.fresh
  live := by
    intro blk' a
    rw [h.live]
    by_cases he : blk' = blk
    · subst he; simp [hd]
    · simp [Function.update_of_ne he]
  kept := update_forall h.kept fun _ hd' => Option.some.inj hd' ▸ hk
  freed := by
    intro blk' hf
    have hne : blk' ≠ blk := fun e => by
      have := h.freed blk' hf
      rw [e, hd] at this
      exact Option.some_ne_none _ this
    simp only [Function.update_of_ne hne]
    exact h.freed blk' hf
  released := h.released

omit [DecidableEq A] in
/-- A write to `Version`, `DataSize` or past the token slot keeps a block. -/
theorem BlockKept.write {d : DataBlock A} (h : BlockKept b token d) {off : Nat} {bs bytes : List UInt8}
    (haway : (versionOffset ≤ off ∧ off + bs.length ≤ handleOffset) ∨ handleOffset + b.tokenSize.toNat ≤ off)
    (hw : Bytes.write d.bytes off bs = some bytes) : BlockKept b token { d with bytes } := by
  obtain ⟨k, hwf, hk⟩ := h.wellFormed
  exact ⟨⟨k, hwf.write_away haway hw, hk⟩, h.type⟩

/-- A setter call on `Version` or `DataSize` is one write between the type and the token slot. -/
theorem exec_counter {c : SetCall} (hf : c.field = .version ∨ c.field = .dataSize) (hr : c.Readable b)
    (o : List UInt8) :
    c.exec b (some o) = storeField o c.field.offset (c.stored b) ∧
      versionOffset ≤ c.field.offset ∧ c.field.offset + (c.stored b).length ≤ handleOffset := by
  have hlen : (c.stored b).length ≤ 4 := by
    cases c with
    | v1 f v => exact Nat.le_of_eq (u32Bytes_length v)
    | v2 f v =>
      have hw : f.width b = 4 := by rcases hf with h | h <;> rw [show f = _ from h] <;> rfl
      simp only [SetCall.stored, List.length_take, hw]; omega
  refine ⟨exec_known hr (by rcases hf with h | h <;> rw [h] <;> rfl) o, ?_⟩
  rcases hf with h | h <;>
    simp only [h, SvpHeaderFieldName.offset, versionOffset, dataSizeOffset, handleOffset] <;> omega

/-- A new block, with the allocation its hook obtained. -/
theorem BlockInv.added (h : BlockInv b token s live) {blk : Nat} {d : DataBlock A}
    (hnone : s.blocks blk = none) (hnf : blk ∉ s.freed) (hk : BlockKept b token d)
    (hfresh : ∀ a ∈ d.secMem, a ∉ (acquired s.trace).map Prod.snd) :
    BlockInv b token { s with
      blocks := Function.update s.blocks blk (some d)
      trace := s.trace ++ d.secMem.toList.map fun a => .acquire (blk, a) }
      (d.secMem.toList.map (Prod.mk blk) ++ live) := by
  have hnl : ∀ a ∈ d.secMem, (blk, a) ∉ live := fun a ha hin =>
    hfresh a ha (List.mem_map.2 ⟨(blk, a), (h.once.2.2.2 _).2 (Or.inl hin), rfl⟩)
  constructor
  case ledger =>
    rw [follow_append, h.ledger]
    cases hm : d.secMem with
    | none => rfl
    | some a => simp [follow, act, hnl a hm]
  case fresh =>
    cases hm : d.secMem with
    | none => simpa using h.fresh
    | some a =>
      have hp : ((acquired s.trace).map Prod.snd ++ [a]).Nodup := nodup_snoc (hfresh a hm) h.fresh
      simpa using hp
  case live =>
    intro blk' a
    simp only [List.mem_append, List.mem_map, Option.mem_toList, h.live]
    by_cases he : blk' = blk
    · subst he; simp [hnone, eq_comm]
    · simp [Function.update_of_ne he, Ne.symm he]
  case kept => exact update_forall h.kept fun _ hd' => Option.some.inj hd' ▸ hk
  case freed =>
    intro blk' hf
    have hne : blk' ≠ blk := fun e => hnf (e ▸ hf)
    simp only [Function.update_of_ne hne]
    exact h.freed blk' hf
  case released =>
    intro p hp
    have hnil : Ledger.released (d.secMem.toList.map fun a => Act.acquire (blk, a)) = [] := by
      cases d.secMem <;> rfl
    rw [released_append, hnil, List.append_nil] at hp
    exact h.released p hp

/-- The live allocations of a block are its own. -/
theorem BlockInv.live_of_block (h : BlockInv b token s live) {blk : Nat} {d : DataBlock A}
    (hd : s.blocks blk = some d) {p : Nat × A} (hp : p ∈ live) (hblk : p.1 = blk) : d.secMem = some p.2 := by
  obtain ⟨d', hd', hm'⟩ := (h.live p.1 p.2).1 hp
  rw [hblk, hd, Option.some.injEq] at hd'
  rw [hd', hm']

/-- Releasing a block's allocation leaves the live allocations of the other blocks. -/
theorem BlockInv.follow_release (h : BlockInv b token s live) {blk : Nat} {d : DataBlock A}
    (hd : s.blocks blk = some d) :
    follow live (d.secMem.toList.map fun a => .release (blk, a)) = some (live.filter fun p => p.1 ≠ blk) := by
  cases hm : d.secMem with
  | none =>
    have hall : ∀ p ∈ live, decide (p.1 ≠ blk) = true := by
      intro p hp
      have hne : p.1 ≠ blk := fun he => Option.some_ne_none _ ((h.live_of_block hd hp he).symm.trans hm)
      simpa using hne
    simp only [Option.toList_none, List.map_nil, follow_nil, List.filter_eq_self.2 hall]
  | some a =>
    have hin : (blk, a) ∈ live := (h.live blk a).2 ⟨d, hd, hm⟩
    simp only [Option.toList_some, List.map_cons, List.map_nil, follow, act, hin, if_true, Option.bind_some,
      Option.some.injEq]
    refine (@List.Nodup.erase_eq_filter _ instBEqOfDecidableEq _ _ h.once.2.1 _).trans (List.filter_congr ?_)
    intro p hp
    have hiff : p = (blk, a) ↔ p.1 = blk := by
      refine ⟨fun e => by rw [e], fun e => Prod.ext e ?_⟩
      exact Option.some.inj ((h.live_of_block hd hp e).symm.trans hm)
    by_cases he : p.1 = blk
    · simp [hiff.2 he]
    · have hne : p ≠ (blk, a) := fun e => he (hiff.1 e)
      simp [he, hne]

/-- A block goes, with the release of its own allocation. -/
theorem BlockInv.removed (h : BlockInv b token s live) {blk : Nat} {d : DataBlock A}
    (hd : s.blocks blk = some d) :
    ∃ live', BlockInv b token {
      blocks := Function.update s.blocks blk none
      freed := blk :: s.freed
      trace := s.trace ++ d.secMem.toList.map fun a => .release (blk, a) } live' := by
  refine ⟨live.filter fun p => p.1 ≠ blk, ?_⟩
  constructor
  case ledger =>
    rw [follow_append, h.ledger, Option.bind_some]
    exact h.follow_release hd
  case fresh =>
    have hnil : acquired (d.secMem.toList.map fun a => Act.release (blk, a)) = [] := by
      cases d.secMem <;> rfl
    rw [acquired_append, hnil, List.append_nil]
    exact h.fresh
  case live =>
    intro blk' a
    simp only [List.mem_filter, h.live, decide_eq_true_eq, ne_eq]
    by_cases he : blk' = blk
    · subst he; simp
    · simp [he]
  case kept => exact update_forall h.kept fun _ hd' => absurd hd'.symm (Option.some_ne_none _)
  case freed =>
    intro blk' hf
    by_cases he : blk' = blk
    · subst he; simp
    · simp only [Function.update_of_ne he]
      exact h.freed blk' ((List.mem_cons.1 hf).resolve_left he)
  case released =>
    intro p hp
    rw [released_append, List.mem_append] at hp
    rcases hp with hp | hp
    · exact List.mem_cons_of_mem _ (h.released p hp)
    · cases hm : d.secMem with
      | none => simp [hm] at hp
      | some a => simp [hm] at hp; simp [hp]

/-! ## Steps -/

omit [DecidableEq A] in
/-- A new block agrees with its hook. -/
theorem allocate_kept (hsize : sizeofSvpHeader + b.tokenSize.toNat < 2 ^ b.gsizeBits) {mem : Memory}
    {hook : AllocSecMem A} {encryptedDataSize physicalDataSize n : Nat} {needSecMemAlloc : Bool}
    {data : Option (List UInt8)} (hslot : hook.slot.length ≤ b.tokenSize.toNat)
    (htok : ∀ a ∈ hook.result, hook.slot = token a)
    (he : gstSvpAllocateDataBlock b mem hook true encryptedDataSize physicalDataSize needSecMemAlloc =
      some (n, data)) :
    ∃ bytes, data = some bytes ∧ bytes.length = n ∧ BlockKept b token
      ⟨bytes, physicalDataSize, if needSecMemAlloc then hook.result else none,
        hookType hook encryptedDataSize needSecMemAlloc⟩ := by
  obtain ⟨hdone, hback⟩ := allocate_spec hsize mem encryptedDataSize physicalDataSize needSecMemAlloc
    hslot rfl
  obtain ⟨hle, hmem⟩ := hback (by rw [he]; rfl)
  obtain ⟨bytes, hsome, hlen, hwf⟩ := hdone hle hmem
  rw [hsome, Option.some.injEq, Prod.mk.injEq] at he
  refine ⟨bytes, he.2.symm, hlen.trans he.1, ⟨_, hwf, fun a ha => ?_⟩,
    hookType_secured hook encryptedDataSize needSecMemAlloc⟩
  cases needSecMemAlloc with
  | false => simp at ha
  | true => simpa using htok a (by simpa using ha)

/-- Freeing a block releases its own allocation, extracted from its own bytes. -/
theorem free_own (h : BlockInv b token s live) {blk : Nat} {d : DataBlock A} (hd : s.blocks blk = some d)
    {extract : List UInt8 → Option A} (hl : BlockLegal b token s (.free (some blk) extract)) :
    gstSvpFreeDataBlock b extract (some d.bytes) = some d.secMem.toList := by
  obtain ⟨⟨k, hwf, hk⟩, htype⟩ := h.kept blk d hd
  obtain ⟨slot, hread, hpre, he⟩ := free_spec hwf extract
  rw [he, Option.some.injEq]
  cases hm : d.secMem with
  | none =>
    rw [hm] at htype
    rw [if_neg fun ht => Bool.noConfusion (htype.2 ht)]; rfl
  | some a =>
    have hlive : (blk, a) ∈ live := (h.live blk a).2 ⟨d, hd, hm⟩
    have hget := hl.2 (blk, a) ((h.once.2.2.2 _).2 (Or.inl hlive)) (h.once.2.2.1 _ hlive) slot
      (read_length hread) (hk a hm ▸ hpre)
    rw [if_pos (htype.1 (by rw [hm]; rfl)), hget]

/-- One legal call keeps the invariant. -/
theorem blockStep_keeps (hsize : sizeofSvpHeader + b.tokenSize.toNat < 2 ^ b.gsizeBits)
    (h : BlockInv b token s live) {op : BlockOp A} (hl : BlockLegal b token s op)
    (hs : blockStep b s op = some s') : ∃ live', BlockInv b token s' live' := by
  cases op with
  | allocate ppData mem hook encryptedDataSize physicalDataSize needSecMemAlloc =>
    cases ppData with
    | none =>
      simp only [blockStep, allocate_null, Option.map_some, Option.some.injEq] at hs
      exact ⟨live, hs ▸ h⟩
    | some blk =>
      simp only [blockStep, Option.bind_eq_bind, Option.bind_eq_some_iff, Prod.exists] at hs
      obtain ⟨n, data, he, bytes, hb, hs⟩ := hs
      obtain ⟨hblk, hslot, htok⟩ := hl
      obtain ⟨bytes', hb', -, hk⟩ := allocate_kept hsize hslot (fun a ha => (htok a ha).1) he
      obtain rfl : bytes = bytes' := Option.some.inj (hb.symm.trans hb')
      rw [← Option.some.inj hs]
      refine ⟨_, h.added (hblk blk rfl).1 (hblk blk rfl).2 hk ?_⟩
      intro a ha
      cases needSecMemAlloc with
      | false => simp at ha
      | true => exact (htok a (by simpa using ha)).2
  | set blk c =>
    obtain ⟨-, hf, hr⟩ := hl
    simp only [blockStep, Option.bind_eq_bind, Option.bind_eq_some_iff, Prod.exists] at hs
    obtain ⟨d, hd, ok, data, he, bytes, hb, hs⟩ := hs
    obtain ⟨hw, h1, h2⟩ := exec_counter hf hr d.bytes
    rw [hw, storeField, hb, Option.map_eq_some_iff] at he
    obtain ⟨o, ho, he⟩ := he
    simp only [Prod.mk.injEq, Option.some.injEq] at he
    rw [← Option.some.inj hs]
    exact ⟨live, h.touch hd ((h.kept blk d hd).write (Or.inl ⟨h1, h2⟩) (he.2 ▸ ho))⟩
  | payload blk off data =>
    simp only [blockStep, Option.bind_eq_bind, Option.bind_eq_some_iff, gstSvpHeaderGetStartOfData,
      Option.map_some, Option.some.injEq, exists_eq_left', Nat.zero_add] at hs
    obtain ⟨d, hd, bytes, hw, hs⟩ := hs
    have haway : handleOffset + b.tokenSize.toNat ≤ gstSvpHeaderSize b + off := by
      rw [gstSvpHeaderSize_eq hsize]; simp only [handleOffset, sizeofSvpHeader]; omega
    rw [← hs]
    exact ⟨live, h.touch hd ((h.kept blk d hd).write (Or.inr haway) hw)⟩
  | free pData extract =>
    cases pData with
    | none =>
      simp only [blockStep, free_null, Option.map_some, Option.some.injEq] at hs
      exact ⟨live, hs ▸ h⟩
    | some blk =>
      simp only [blockStep, Option.bind_eq_bind, Option.bind_eq_some_iff] at hs
      obtain ⟨d, hd, handles, he, hs⟩ := hs
      rw [free_own h hd hl, Option.some.injEq] at he
      rw [← Option.some.inj hs, ← he]
      exact h.removed hd

/-! ## Sizes -/

/-- Every live block is as long as the size asked for needs. -/
def BlockSized (b : Build) (s : BlockState A) : Prop :=
  ∀ blk d, s.blocks blk = some d → d.bytes.length = d.physicalDataSize + b.tokenSize.toNat + gstSvpHeaderSize b

/-- A legal call within the sizes is defined. -/
theorem blockStep_defined (hsize : sizeofSvpHeader + b.tokenSize.toNat < 2 ^ b.gsizeBits)
    (h : BlockInv b token s live) (hz : BlockSized b s) {op : BlockOp A} (hl : BlockLegal b token s op)
    (hf : BlockFits b s op) : ∃ s', blockStep b s op = some s' ∧ BlockSized b s' := by
  have hput : ∀ {blk : Nat} {d : DataBlock A} {freed trace},
      d.bytes.length = d.physicalDataSize + b.tokenSize.toNat + gstSvpHeaderSize b →
      BlockSized b ⟨Function.update s.blocks blk (some d), freed, trace⟩ :=
    fun hlen => update_forall hz fun _ hd' => Option.some.inj hd' ▸ hlen
  cases op with
  | allocate ppData mem hook encryptedDataSize physicalDataSize needSecMemAlloc =>
    cases ppData with
    | none => exact ⟨s, by simp [blockStep], hz⟩
    | some blk =>
      obtain ⟨hfit, hmem⟩ := hf rfl
      obtain ⟨bytes, he, hlen, -⟩ := (allocate_spec hsize mem encryptedDataSize physicalDataSize
        needSecMemAlloc hl.2.1 (Nat.mod_eq_of_lt hfit)).1 (Nat.le_add_left _ _) hmem
      refine ⟨_, by simp only [blockStep, he, Option.bind_eq_bind, Option.bind_some]; rfl, hput ?_⟩
      exact hlen
  | set blk c =>
    obtain ⟨hsome, hfield, hr⟩ := hl
    obtain ⟨d, hd⟩ := Option.isSome_iff_exists.1 hsome
    obtain ⟨he, h1, h2⟩ := exec_counter hfield hr d.bytes
    obtain ⟨bytes, hw⟩ := exists_write d.bytes c.field.offset (c.stored b) (by
      obtain ⟨⟨k, hwf, -⟩, -⟩ := h.kept blk d hd
      have hroom := hwf.room
      simp only [handleOffset, sizeofSvpHeader] at h2 hroom
      omega)
    refine ⟨_, by simp only [blockStep, hd, he, storeField, hw, Option.bind_eq_bind, Option.bind_some,
      Option.map_some]; rfl, hput ?_⟩
    rw [write_length hw]
    exact hz blk d hd
  | payload blk off data =>
    obtain ⟨d, hd⟩ := Option.isSome_iff_exists.1 hl
    have hlen := hz blk d hd
    have hin := hf d hd
    obtain ⟨bytes, hw⟩ := exists_write d.bytes (gstSvpHeaderSize b + off) data (by omega)
    refine ⟨_, by simp only [blockStep, hd, gstSvpHeaderGetStartOfData, Option.bind_eq_bind, Option.bind_some,
      Option.map_some, Nat.zero_add, hw]; rfl, hput ?_⟩
    rw [write_length hw]
    exact hlen
  | free pData extract =>
    cases pData with
    | none => exact ⟨s, by simp [blockStep], hz⟩
    | some blk =>
      obtain ⟨d, hd⟩ := Option.isSome_iff_exists.1 (hl.1 blk rfl)
      refine ⟨_, by simp only [blockStep, hd, free_own h hd hl, Option.bind_eq_bind, Option.bind_some]; rfl, ?_⟩
      exact update_forall hz fun _ hd' => absurd hd'.symm (Option.some_ne_none _)

/-! ## Conservation -/

/-- The secure allocations of a state: each belongs to one block, was released there if that block
was freed and not before, and nowhere else; and a live block's type tells what its hook did. -/
structure SecMemConserved (b : Build) (s : BlockState A) : Prop where
  once : ∀ blk a, (blk, a) ∈ acquired s.trace →
    (released s.trace).count (blk, a) = if blk ∈ s.freed then 1 else 0
  own : ∀ p ∈ released s.trace, p ∈ acquired s.trace
  apart : ((acquired s.trace).map Prod.snd).Nodup
  type : ∀ blk d, s.blocks blk = some d → ∀ extract : List UInt8 → Option A,
    gstSvpHeaderGetFieldV2 b extract (some d.bytes) .type = some (true, some (.u32 d.type.val))

theorem BlockInv.conserved (h : BlockInv b token s live) : SecMemConserved b s where
  once := by
    intro blk a hacq
    obtain ⟨hr, -, -, hiff⟩ := h.once
    split
    · rename_i hf
      have hnl : (blk, a) ∉ live := fun hin => by
        obtain ⟨d, hd, -⟩ := (h.live blk a).1 hin
        rw [h.freed blk hf] at hd
        exact Option.some_ne_none _ hd.symm
      exact List.count_eq_one_of_mem hr (((hiff _).1 hacq).resolve_left hnl)
    · rename_i hf
      exact List.count_eq_zero.2 fun hin => hf (h.released _ hin)
  own := fun p hp => (h.once.2.2.2 p).2 (Or.inr hp)
  apart := h.fresh
  type := by
    intro blk d hd extract
    obtain ⟨⟨k, hwf, -⟩, -⟩ := h.kept blk d hd
    exact hwf.get_type extract

/-- **Secure memory is conserved.** After any legal run of calls over any blocks every secure
allocation was released exactly once if its block was freed, under that block, and not at all
otherwise; and a run whose sizes are representable, whose blocks memory supplies and whose payloads fit
is defined to its end. -/
theorem secure_memory_conservation (b : Build) (hsize : sizeofSvpHeader + b.tokenSize.toNat < 2 ^ b.gsizeBits)
    (token : A → List UInt8) (ops : List (BlockOp A))
    (hlegal : Runs.Along (blockStep b) (BlockLegal b token) blockInit ops) :
    (∀ s, Runs.run (blockStep b) blockInit ops = some s → SecMemConserved b s) ∧
      (Runs.Along (blockStep b) (BlockFits b) blockInit ops →
        ∃ s, Runs.run (blockStep b) blockInit ops = some s) := by
  constructor
  · intro s hrun
    obtain ⟨live, h⟩ := Runs.run_preserves (I := fun s => ∃ live, BlockInv b token s live)
      (fun s op s' ⟨live, h⟩ hl hs => blockStep_keeps hsize h hl hs) ⟨[], blockInv_init⟩ hlegal hrun
    exact h.conserved
  · intro hfits
    obtain ⟨s, hrun, -⟩ := Runs.run_total (L := fun s op => BlockLegal b token s op ∧ BlockFits b s op)
      (I := fun s => (∃ live, BlockInv b token s live) ∧ BlockSized b s) (by
        rintro s op ⟨⟨live, h⟩, hz⟩ ⟨hl, hf⟩
        obtain ⟨s', hs, hz'⟩ := blockStep_defined hsize h hz hl hf
        exact ⟨s', hs, blockStep_keeps hsize h hl hs, hz'⟩)
      ⟨⟨[], blockInv_init⟩, fun _ _ h => by simp [blockInit] at h⟩ (Runs.along_and hlegal hfits)
    exact ⟨s, hrun⟩

end

/-- Two blocks, one with a secure allocation and one whose hook fails, with a setter and a payload
between their allocations and their frees. -/
theorem secure_memory_conservation_example :
    ∃ s, Runs.run (blockStep ⟨64, 1, false⟩) (blockInit : BlockState UInt8)
      [.allocate (some 0) (.ample fun _ => 0) ⟨some 7, [7], none⟩ 16 16 true,
        .allocate (some 1) (.ample fun _ => 0) ⟨none, [], none⟩ 8 8 true, .set 0 (.v1 .version 2),
        .payload 1 0 [1, 2, 3], .free (some 0) List.head?, .free (some 1) List.head?] = some s ∧
        SecMemConserved ⟨64, 1, false⟩ s := by
  have hsize : sizeofSvpHeader + (1 : UInt32).toNat < 2 ^ 64 := by decide
  have hextract : ∀ trace : List (Act (Nat × UInt8)), ∀ p ∈ acquired trace, p ∉ released trace →
      ∀ slot : List UInt8, slot.length = (1 : UInt32).toNat → [p.2] <+: slot → slot.head? = some p.2 := by
    rintro trace p - - slot - ⟨rest, rfl⟩
    rfl
  have hlegal : Runs.Along (blockStep ⟨64, 1, false⟩) (BlockLegal ⟨64, 1, false⟩ fun a : UInt8 => [a]) blockInit
      [.allocate (some 0) (.ample fun _ => 0) ⟨some 7, [7], none⟩ 16 16 true,
        .allocate (some 1) (.ample fun _ => 0) ⟨none, [], none⟩ 8 8 true, .set 0 (.v1 .version 2),
        .payload 1 0 [1, 2, 3], .free (some 0) List.head?, .free (some 1) List.head?] := by
    refine ⟨⟨by simp [blockInit], by decide, by simp [blockInit]⟩, ?_⟩
    rintro s₁ ⟨⟩
    refine ⟨⟨by simp [blockInit], by decide, by simp⟩, ?_⟩
    rintro s₂ ⟨⟩
    refine ⟨⟨rfl, Or.inl rfl, trivial⟩, ?_⟩
    rintro s₃ ⟨⟩
    refine ⟨rfl, ?_⟩
    rintro s₄ ⟨⟩
    refine ⟨⟨?_, hextract _⟩, ?_⟩
    · rintro blk ⟨⟩
      rfl
    rintro s₅ ⟨⟩
    refine ⟨⟨?_, hextract _⟩, fun _ _ => trivial⟩
    rintro blk ⟨⟩
    rfl
  have hfits : Runs.Along (blockStep ⟨64, 1, false⟩) (BlockFits ⟨64, 1, false⟩) (blockInit : BlockState UInt8)
      [.allocate (some 0) (.ample fun _ => 0) ⟨some 7, [7], none⟩ 16 16 true,
        .allocate (some 1) (.ample fun _ => 0) ⟨none, [], none⟩ 8 8 true, .set 0 (.v1 .version 2),
        .payload 1 0 [1, 2, 3], .free (some 0) List.head?, .free (some 1) List.head?] := by
    refine ⟨fun _ => ⟨by decide, Memory.ample_supplies _ _ _⟩, ?_⟩
    rintro s₁ ⟨⟩
    refine ⟨fun _ => ⟨by decide, Memory.ample_supplies _ _ _⟩, ?_⟩
    rintro s₂ ⟨⟩
    refine ⟨trivial, ?_⟩
    rintro s₃ ⟨⟩
    refine ⟨?_, fun _ _ => ⟨trivial, fun _ _ => ⟨trivial, fun _ _ => trivial⟩⟩⟩
    rintro d ⟨⟩
    decide
  obtain ⟨hconserved, hdefined⟩ := secure_memory_conservation ⟨64, 1, false⟩ hsize _ _ hlegal
  obtain ⟨s, hrun⟩ := hdefined hfits
  exact ⟨s, hrun, hconserved s hrun⟩

end GstSvpExt
