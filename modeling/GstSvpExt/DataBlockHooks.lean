import GstSvpExt.DataBlockRun
import GstSvpExt.HookTable

/-!
# Data blocks behind the hook table

| here | there |
| --- | --- |
| `hookedOp`     | `gst_svp_allocate_sec_mem` in `gst_svp_allocate_data_block` (`gst_svp_header.cpp:217`), `svp_header_extract_output_buffer` in `gst_svp_header_get_field_v2` (`:96`), each through the table |
| `platformActs` | `gst_svp_release_sec_mem` in `gst_svp_free_data_block` (`:266`) through the table |

A device registers any of the three hooks that a data block uses and leaves this library's default for the
others. `secure_memory_hooks` says which choices conserve secure memory: an allocate hook must come with both
of the others.
-/

namespace GstSvpExt

open Ledger Runs

variable {V A : Type}

/-- What runs where a device's function would do `device`. -/
def FnPtr.choose {α : Type} (fn : FnPtr V) (implDefault device : α) : α :=
  match fn with
  | .implDefault => implDefault
  | .device _ => device

/-- `allocate_sec_mem_default` returns false and stores nothing. -/
def allocSecMemOfDefault : AllocSecMem A := ⟨none, [], none⟩

/-- The call as the table has it, where `op` says what the device's functions would do. -/
def hookedOp (hooks : Hook → FnPtr V) : BlockOp A → BlockOp A
  | .allocate ppData mem hook encryptedDataSize physicalDataSize needSecMemAlloc =>
    .allocate ppData mem ((hooks .svpAllocSecMem).choose allocSecMemOfDefault hook) encryptedDataSize
      physicalDataSize needSecMemAlloc
  | .free pData extract =>
    -- `svp_header_extract_output_buffer_default` returns `NULL`
    .free pData ((hooks .svpHeaderExtractOutputBuffer).choose (fun _ => none) extract)
  | op => op

def hookedStep (b : Build) (hooks : Hook → FnPtr V) (s : BlockState A) (op : BlockOp A) : Option (BlockState A) :=
  blockStep b s (hookedOp hooks op)

/-- What happens to secure memory: `release_sec_mem_default` gives nothing back. -/
def platformActs (hooks : Hook → FnPtr V) (trace : List (Act (Nat × A))) : List (Act (Nat × A)) :=
  (hooks .svpReleaseSecMem).choose ((acquired trace).map .acquire) trace

/-- Once every block is freed, every secure allocation has been given back. -/
def HooksConserve (b : Build) (hooks : Hook → FnPtr V) (token : A → List UInt8) : Prop :=
  ∀ (ops : List (BlockOp A)) (s : BlockState A), Along (hookedStep b hooks) (BlockLegal b token) blockInit ops →
    run (hookedStep b hooks) blockInit ops = some s → (∀ blk, s.blocks blk = none) →
      ∀ p ∈ acquired s.trace, p ∈ released (platformActs hooks s.trace)

section
variable {b : Build} {hooks : Hook → FnPtr V} {token : A → List UInt8}

/-- The default allocate hook obtains nothing. -/
theorem hookedStep_acquires {s s' : BlockState A} {op : BlockOp A} (halloc : hooks .svpAllocSecMem = .implDefault)
    (h : hookedStep b hooks s op = some s') (hs : acquired s.trace = []) : acquired s'.trace = [] := by
  cases op with
  | allocate ppData mem hook encryptedDataSize physicalDataSize needSecMemAlloc =>
    rw [hookedStep, hookedOp, halloc] at h
    cases ppData with
    | none =>
      simp only [blockStep, allocate_null, Option.map_some, Option.some.injEq] at h
      rw [← h]
      exact hs
    | some blk =>
      simp only [blockStep, Option.bind_eq_bind, Option.bind_eq_some_iff, Prod.exists] at h
      obtain ⟨n, data, -, bytes, -, h⟩ := h
      have hnone : (if needSecMemAlloc then (allocSecMemOfDefault : AllocSecMem A).result else none) = none :=
        ite_self none
      rw [← Option.some.inj h]
      simp only [FnPtr.choose, hnone, Option.toList_none, List.map_nil, List.append_nil]
      exact hs
  | set blk c =>
    simp only [hookedStep, hookedOp, blockStep, Option.bind_eq_bind, Option.bind_eq_some_iff, Prod.exists] at h
    obtain ⟨d, -, ok, data, -, bytes, -, h⟩ := h
    rw [← Option.some.inj h]
    exact hs
  | payload blk off data =>
    simp only [hookedStep, hookedOp, blockStep, Option.bind_eq_bind, Option.bind_eq_some_iff] at h
    obtain ⟨d, -, start, -, bytes, -, h⟩ := h
    rw [← Option.some.inj h]
    exact hs
  | free pData extract =>
    cases pData with
    | none =>
      simp only [hookedStep, hookedOp, blockStep, free_null, Option.map_some, Option.some.injEq] at h
      rw [← h]
      exact hs
    | some blk =>
      simp only [hookedStep, hookedOp, blockStep, Option.bind_eq_bind, Option.bind_eq_some_iff] at h
      obtain ⟨d, -, handles, -, h⟩ := h
      rw [← Option.some.inj h]
      rw [acquired_append, hs, List.nil_append, acquired_releases]

/-- Without an allocate hook there is nothing to give back. -/
theorem hooks_none (halloc : hooks .svpAllocSecMem = .implDefault) : HooksConserve b hooks token := by
  intro ops s hlegal hrun _ p hp
  have hnil : acquired s.trace = [] :=
    run_preserves (I := fun s => acquired s.trace = []) (fun _ _ _ hs _ h => hookedStep_acquires halloc h hs) rfl
      hlegal hrun
  rw [hnil] at hp
  cases hp

/-- A device with all three hooks: every allocation is released with its block. -/
theorem hooks_all [DecidableEq A] (hsize : sizeofSvpHeader + b.tokenSize.toNat < 2 ^ b.gsizeBits)
    {f g h : V} (halloc : hooks .svpAllocSecMem = .device f) (hextract : hooks .svpHeaderExtractOutputBuffer = .device g)
    (hrelease : hooks .svpReleaseSecMem = .device h) : HooksConserve b hooks token := by
  have hstep : hookedStep b hooks = blockStep (A := A) b := by
    funext s op
    cases op <;> simp [hookedStep, hookedOp, halloc, hextract, FnPtr.choose]
  have hacts : ∀ trace : List (Act (Nat × A)), platformActs hooks trace = trace := by
    intro trace
    rw [platformActs, hrelease]
    rfl
  intro ops s hlegal hrun hfreed p hp
  rw [hstep] at hlegal hrun
  rw [hacts]
  obtain ⟨live, hinv⟩ := run_preserves (I := fun s => ∃ live, BlockInv b token s live)
    (fun s op s' ⟨live, h⟩ hl hs => blockStep_keeps hsize h hl hs) ⟨[], blockInv_init⟩ hlegal hrun
  obtain ⟨-, -, -, hiff⟩ := hinv.once
  refine ((hiff p).1 hp).resolve_left ?_
  intro hlive
  obtain ⟨d, hd, -⟩ := (hinv.live p.1 p.2).1 hlive
  rw [hfreed] at hd
  cases hd

/-- One block with a secure allocation, allocated and freed. -/
def oneBlock (token : A → List UInt8) (a : A) : List (BlockOp A) :=
  [.allocate (some 0) (.ample fun _ => 0) ⟨some a, token a, none⟩ 1 0 true, .free (some 0) fun _ => some a]

/-- What is left of it: the handles that its free gave to the release hook. -/
theorem oneBlock_run (hsize : sizeofSvpHeader + b.tokenSize.toNat < 2 ^ b.gsizeBits)
    (hroom : b.tokenSize.toNat + gstSvpHeaderSize b < 2 ^ b.gsizeBits) {a : A}
    (ha : (token a).length ≤ b.tokenSize.toNat) {f : V} (halloc : hooks .svpAllocSecMem = .device f) :
    Along (hookedStep b hooks) (BlockLegal b token) blockInit (oneBlock token a) ∧
      ∃ s, run (hookedStep b hooks) blockInit (oneBlock token a) = some s ∧ (∀ blk, s.blocks blk = none) ∧
        s.trace = .acquire (0, a) :: ((hooks .svpHeaderExtractOutputBuffer).choose none (some a)).toList.map
          fun handle => .release (0, handle) := by
  have hle : gstSvpHeaderSize b ≤ (0 + b.tokenSize.toNat + gstSvpHeaderSize b) % 2 ^ b.gsizeBits := by
    rw [Nat.zero_add, Nat.mod_eq_of_lt hroom]
    exact Nat.le_add_left _ _
  have hslot : (⟨some a, token a, none⟩ : AllocSecMem A).slot.length ≤ b.tokenSize.toNat := ha
  obtain ⟨o, he, -, hwf⟩ := (allocate_spec hsize (.ample fun _ => 0) 1 0 true hslot rfl).1 hle
    (Memory.ample_supplies _ _ _)
  have hfirst : hookedStep b hooks blockInit
      (.allocate (some 0) (.ample fun _ => 0) ⟨some a, token a, none⟩ 1 0 true) = some ⟨Function.update (fun _ => none) 0
        (some ⟨o, 0, some a, hookType ⟨some a, token a, none⟩ 1 true⟩), [], [.acquire (0, a)]⟩ := by
    simp only [hookedStep, hookedOp, halloc, FnPtr.choose, blockStep, he, Option.bind_eq_bind, Option.bind_some]
    rfl
  obtain ⟨slot, -, -, hfree⟩ := free_spec hwf fun slot =>
    (hooks .svpHeaderExtractOutputBuffer).choose (fun _ => none) (fun _ => some a) slot
  have hextract : (hooks .svpHeaderExtractOutputBuffer).choose (fun _ => none) (fun _ => some a) slot =
      (hooks .svpHeaderExtractOutputBuffer).choose none (some a) := by
    cases hooks .svpHeaderExtractOutputBuffer <;> rfl
  have htype : hookType (A := A) ⟨some a, token a, none⟩ 1 true = .preAllocatedHandle := rfl
  rw [if_pos (Or.inl htype), hextract] at hfree
  constructor
  · refine (along_cons hfirst).2 ⟨⟨?_, ha, ?_⟩, ⟨?_, ?_⟩, fun _ _ => trivial⟩
    · intro blk _
      exact ⟨rfl, List.not_mem_nil⟩
    · intro a' ha'
      obtain rfl : a = a' := Option.some.inj ha'
      exact ⟨rfl, List.not_mem_nil⟩
    · intro blk hblk
      obtain rfl : 0 = blk := Option.some.inj hblk
      rfl
    · intro p hp _ _ _ _
      obtain rfl : p = (0, a) := List.mem_singleton.1 hp
      rfl
  · have hsecond : hookedStep b hooks ⟨Function.update (fun _ => none) 0
        (some ⟨o, 0, some a, hookType ⟨some a, token a, none⟩ 1 true⟩), [], [.acquire (0, a)]⟩
        (.free (some 0) fun _ => some a) = some ⟨Function.update (Function.update (fun _ => none) 0
          (some ⟨o, 0, some a, hookType ⟨some a, token a, none⟩ 1 true⟩)) 0 none, [0], .acquire (0, a) ::
            ((hooks .svpHeaderExtractOutputBuffer).choose none (some a)).toList.map
              fun handle => .release (0, handle)⟩ := by
      simp only [hookedStep, hookedOp, blockStep, Function.update_self, Option.bind_eq_bind, Option.bind_some, hfree]
      rfl
    refine ⟨_, by rw [oneBlock, run_cons, hfirst, Option.bind_some, run_cons, hsecond, Option.bind_some, run_nil],
      ?_, rfl⟩
    intro blk
    have hfreed : Function.update (fun _ => (none : Option (DataBlock A))) 0 none blk = none := by
      rw [Function.update_apply, ite_self]
    rw [Function.update_idem]
    exact hfreed

/-- An allocate hook without one of the others: what a block obtained is not given back with it. -/
theorem hooks_leak (hsize : sizeofSvpHeader + b.tokenSize.toNat < 2 ^ b.gsizeBits)
    (hroom : b.tokenSize.toNat + gstSvpHeaderSize b < 2 ^ b.gsizeBits) {a : A}
    (ha : (token a).length ≤ b.tokenSize.toNat) {f : V} (halloc : hooks .svpAllocSecMem = .device f)
    (hmissing : hooks .svpHeaderExtractOutputBuffer = .implDefault ∨ hooks .svpReleaseSecMem = .implDefault) :
    ¬ HooksConserve b hooks token := by
  intro hall
  obtain ⟨hlegal, s, hrun, hfreed, htrace⟩ := oneBlock_run hsize hroom ha halloc
  have hin : (0, a) ∈ released (platformActs hooks s.trace) :=
    hall _ s hlegal hrun hfreed (0, a) (by rw [htrace]; exact List.mem_cons_self)
  rcases hmissing with hextract | hrelease
  · rw [htrace, hextract] at hin
    cases hr : hooks .svpReleaseSecMem <;> rw [platformActs, hr] at hin <;> cases hin
  · rw [platformActs, hrelease, FnPtr.choose, released_acquires] at hin
    cases hin

/-- **The hooks of a data block.** Whatever a device's hooks are, every secure allocation of every run in which
all blocks are freed is given back exactly if the device leaves all allocation to the default or registers,
beside its own, both the hook that finds an allocation in a token and the one that releases it. -/
theorem secure_memory_hooks [DecidableEq A] (b : Build)
    (hroom : b.tokenSize.toNat + (sizeofSvpHeader + b.tokenSize.toNat) < 2 ^ b.gsizeBits) (hooks : Hook → FnPtr V)
    (token : A → List UInt8) (htoken : ∃ a, (token a).length ≤ b.tokenSize.toNat) :
    HooksConserve b hooks token ↔
      (hooks .svpAllocSecMem ≠ .implDefault →
        hooks .svpHeaderExtractOutputBuffer ≠ .implDefault ∧ hooks .svpReleaseSecMem ≠ .implDefault) := by
  have hsize : sizeofSvpHeader + b.tokenSize.toNat < 2 ^ b.gsizeBits := by omega
  obtain ⟨a, ha⟩ := htoken
  cases halloc : hooks .svpAllocSecMem with
  | implDefault => exact iff_of_true (hooks_none halloc) fun h => absurd rfl h
  | device f =>
    rw [forall_prop_of_true (by simp)]
    constructor
    · intro hall
      by_contra hnot
      refine hooks_leak hsize (by rwa [gstSvpHeaderSize_eq hsize]) ha halloc ?_ hall
      by_cases hextract : hooks .svpHeaderExtractOutputBuffer = .implDefault
      · exact Or.inl hextract
      · exact Or.inr (not_not.1 fun hrelease => hnot ⟨hextract, hrelease⟩)
    · rintro ⟨hextract, hrelease⟩
      cases he : hooks .svpHeaderExtractOutputBuffer with
      | implDefault => exact absurd he hextract
      | device g =>
        cases hr : hooks .svpReleaseSecMem with
        | implDefault => exact absurd hr hrelease
        | device h => exact hooks_all hsize halloc he hr

end

/-- A device that allocates but never releases. -/
theorem secure_memory_hooks_unreleased :
    ¬ HooksConserve ⟨64, 1, false⟩ (fun h => if h = .svpReleaseSecMem then .implDefault else .device ())
      (fun a : UInt8 => [a]) := by
  rw [secure_memory_hooks ⟨64, 1, false⟩ (by decide) _ _ ⟨0, by decide⟩]
  decide

end GstSvpExt
