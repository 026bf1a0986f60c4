import GstSvpExt.Bytes
import GstSvpExt.SecapiV2

/-!
# SecAPI v3 secure buffers (`gst_svp_secure_buffers_secapi.cpp:159-285`)

| here | there |
| --- | --- |
| `allocateV3Memory`, `freeV3Memory` | `allocate_v3_memory` (`:160-182`), `free_v3_memory` (`:184-198`) |
| `fillInBufV3`                      | the copy of the input data (`:229-258`) |
| `allocateOutBufV3`, `allocateInBufV3` | its two requests (`:213-218`, `:220-259`) |
| `svpAllocateSecureBuffersV3ImplDefault` | `svp_allocate_secure_buffers_v3_impl_default` (`:200-262`) |
| `releaseOutBufV3`, `svpReleaseSecureBuffersV3ImplDefault` | `svp_release_secure_buffers_v3_impl_default` (`:264-285`) |

`P` are the `malloc`ed handle structs, `M` the secure memories, `D` the `sa_svp_buffer`s and `T` the
token storages. What a platform call answers is an argument, every call is recorded, and a result
`none` is a read or write through `NULL` or through a dangling pointer, the `memcpy` from a token
storage that was not allocated included.
-/

namespace GstSvpExt

/-- `Sec_OpaqueBufferHandle`: the fields the code uses, `svp_memory` unset until it is allocated. -/
structure SecOpaqueBufferHandle (M : Type) where
  size : Nat
  svpMemory : Option M
deriving DecidableEq, Repr

/-- A `void*` variable: one of the caller's, or the parameter `pInBuf` of the release function,
whose address goes to `free_v3_memory`. -/
inductive Slot
  | caller (n : Nat)
  | pInBuf
deriving DecidableEq, Repr

/-- A call of the C heap or of the SecAPI, with its arguments and its answer, or a use of a token. -/
inductive V3Call (P M D T : Type)
  | malloc (p : Option P)
  | free (p : Option P)
  | memoryAlloc (size : Nat) (m : Option M)
  | memoryFree (m : M) (ok : Bool)
  | bufferCreate (m : M) (size : Nat) (d : Option D)
  | bufferWrite (d : D) (data : List UInt8) (ok : Bool)
  | token (c : TokenCall P T)
deriving DecidableEq, Repr

/-- The live handle structs, the live secure memories with their bytes, the variables, and the
calls made so far. -/
structure V3World (P M D T : Type) where
  structs : P → Option (SecOpaqueBufferHandle M)
  memory : M → Option (List UInt8)
  slots : Slot → Option P
  calls : List (V3Call P M D T)

/-- What `malloc` and `sa_svp_memory_alloc` answer to one `allocate_v3_memory`; `fill` is what the
new memory happens to hold. -/
structure V3MemoryAnswers (P M : Type) where
  malloc : Option P
  memoryAlloc : Option M
  fill : Nat → UInt8

/-- What the platform answers to one `svp_allocate_secure_buffers_v3_impl_default`. -/
structure V3AllocateAnswers (P M D : Type) where
  out : V3MemoryAnswers P M
  inp : V3MemoryAnswers P M
  bufferCreate : Option D
  bufferWrite : Bool
  memoryFree : M → Bool

variable {P M D T : Type} [DecidableEq P] [DecidableEq M]

/-- `allocate_v3_memory` (`:160-182`): `malloc`'s answer is used unchecked. -/
def allocateV3Memory (a : V3MemoryAnswers P M) (w : V3World P M D T) (outBuffer : Option Slot)
    (length : Nat) : Option (Bool × V3World P M D T) :=
  match outBuffer with
  | none => some (false, w)
  | some slot =>
    match a.malloc with
    | none => none
    | some p =>
      match a.memoryAlloc with
      | none =>
        some (false, { w with
          structs := Function.update w.structs p none
          calls := w.calls ++ [.malloc (some p), .memoryAlloc length none, .free (some p)] })
      | some m =>
        some (true, {
          structs := Function.update w.structs p (some ⟨length, some m⟩)
          memory := Function.update w.memory m (some ((List.range length).map a.fill))
          slots := Function.update w.slots slot (some p)
          calls := w.calls ++ [.malloc (some p), .memoryAlloc length (some m)] })

theorem allocateV3Memory_done {a : V3MemoryAnswers P M} {p : P} {m : M} (hp : a.malloc = some p)
    (hm : a.memoryAlloc = some m) (w : V3World P M D T) (slot : Slot) (n : Nat) :
    allocateV3Memory a w (some slot) n = some (true, {
      structs := Function.update w.structs p (some ⟨n, some m⟩)
      memory := Function.update w.memory m (some ((List.range n).map a.fill))
      slots := Function.update w.slots slot (some p)
      calls := w.calls ++ [.malloc (some p), .memoryAlloc n (some m)] }) := by
  simp only [allocateV3Memory, hp, hm]

theorem allocateV3Memory_failed {a : V3MemoryAnswers P M} {p : P} (hp : a.malloc = some p)
    (hm : a.memoryAlloc = none) (w : V3World P M D T) (slot : Slot) (n : Nat) :
    allocateV3Memory a w (some slot) n = some (false, { w with
      structs := Function.update w.structs p none
      calls := w.calls ++ [.malloc (some p), .memoryAlloc n none, .free (some p)] }) := by
  simp only [allocateV3Memory, hp, hm]

/-- What `allocate_v3_memory` can do for a variable: keep the struct that `malloc` gave and set the variable,
or free it again and leave the variable alone. -/
theorem allocateV3Memory_cases {a : V3MemoryAnswers P M} {w w' : V3World P M D T} {slot : Slot} {n : Nat} {ok : Bool}
    (h : allocateV3Memory a w (some slot) n = some (ok, w')) :
    ∃ p, a.malloc = some p ∧
      ((a.memoryAlloc = none ∧ ok = false ∧ w' = { w with
        structs := Function.update w.structs p none
        calls := w.calls ++ [.malloc (some p), .memoryAlloc n none, .free (some p)] }) ∨
      ∃ m, a.memoryAlloc = some m ∧ ok = true ∧ w' = {
        structs := Function.update w.structs p (some ⟨n, some m⟩)
        memory := Function.update w.memory m (some ((List.range n).map a.fill))
        slots := Function.update w.slots slot (some p)
        calls := w.calls ++ [.malloc (some p), .memoryAlloc n (some m)] }) := by
  unfold allocateV3Memory at h
  rcases hp : a.malloc with _ | p <;> rw [hp] at h
  · cases h
  refine ⟨p, rfl, ?_⟩
  rcases hm : a.memoryAlloc with _ | m <;> rw [hm] at h
  · obtain ⟨rfl, rfl⟩ := Prod.mk.inj (Option.some.inj h)
    exact Or.inl ⟨rfl, rfl, rfl⟩
  · obtain ⟨rfl, rfl⟩ := Prod.mk.inj (Option.some.inj h)
    exact Or.inr ⟨m, rfl, rfl, rfl⟩

/-- `free_v3_memory` (`:184-198`): a failing `sa_svp_memory_free` is only logged. -/
def freeV3Memory (memoryFree : M → Bool) (w : V3World P M D T) (buffer : Option Slot) :
    Option (V3World P M D T) :=
  match buffer with
  | none => some w
  | some slot =>
    match w.slots slot with
    | none => some w
    | some p =>
      match (w.structs p).bind SecOpaqueBufferHandle.svpMemory with
      | none => none
      | some m =>
        some {
          structs := Function.update w.structs p none
          memory := if memoryFree m then Function.update w.memory m none else w.memory
          slots := Function.update w.slots slot none
          calls := w.calls ++ [.memoryFree m (memoryFree m), .free (some p)] }

theorem freeV3Memory_done {memoryFree : M → Bool} {w : V3World P M D T} {slot : Slot} {p : P} {m : M}
    {n : Nat} (hs : w.slots slot = some p) (hp : w.structs p = some ⟨n, some m⟩) :
    freeV3Memory memoryFree w (some slot) = some {
      structs := Function.update w.structs p none
      memory := if memoryFree m then Function.update w.memory m none else w.memory
      slots := Function.update w.slots slot none
      calls := w.calls ++ [.memoryFree m (memoryFree m), .free (some p)] } := by
  simp only [freeV3Memory, hs, hp, Option.bind_some]

/-- What `free_v3_memory` can do: nothing where there is no buffer, or release the memory and the struct
of the buffer and clear the variable. -/
theorem freeV3Memory_cases {memoryFree : M → Bool} {w w' : V3World P M D T} {buffer : Option Slot}
    (h : freeV3Memory memoryFree w buffer = some w') :
    (buffer.bind w.slots = none ∧ w' = w) ∨
    (∃ slot p m, buffer = some slot ∧ w.slots slot = some p ∧ w' = {
      structs := Function.update w.structs p none
      memory := if memoryFree m then Function.update w.memory m none else w.memory
      slots := Function.update w.slots slot none
      calls := w.calls ++ [.memoryFree m (memoryFree m), .free (some p)] }) := by
  unfold freeV3Memory at h
  rcases buffer with _ | slot
  · exact Or.inl ⟨rfl, (Option.some.inj h).symm⟩
  · dsimp only at h
    split at h
    · rename_i hnull
      exact Or.inl ⟨hnull, (Option.some.inj h).symm⟩
    · rename_i p hp
      split at h
      · cases h
      · rename_i m hm
        exact Or.inr ⟨slot, p, m, rfl, hp, (Option.some.inj h).symm⟩

/-- `:229-258`: wrap the input memory in a buffer and write the data there; on a failure free the
output, then the input. -/
def fillInBufV3 (a : V3AllocateAnswers P M D) (w : V3World P M D T) (ppInBuf ppOutBuf : Option Slot)
    (data : List UInt8) (nDataLen : Nat) : Option (UInt32 × V3World P M D T) := do
  let p ← ppInBuf.bind w.slots
  let buf ← w.structs p
  let m ← buf.svpMemory
  let w := { w with calls := w.calls ++ [.bufferCreate m buf.size a.bufferCreate] }
  match a.bufferCreate with
  | none =>
    let w ← freeV3Memory a.memoryFree w ppOutBuf
    let w ← freeV3Memory a.memoryFree w ppInBuf
    some (0, w)
  | some d =>
    -- `sa_svp_offset offset {0, 0, nDataLen}`: both offsets are zero
    let bytes ← Bytes.read data 0 nDataLen
    let w := { w with calls := w.calls ++ [.bufferWrite d bytes a.bufferWrite] }
    if a.bufferWrite then
      let contents ← w.memory m
      let contents ← Bytes.write contents 0 bytes
      some (1, { w with memory := Function.update w.memory m (some contents) })
    else
      let w ← freeV3Memory a.memoryFree w ppOutBuf
      let w ← freeV3Memory a.memoryFree w ppInBuf
      some (0, w)

/-- `:213-218`: the output is allocated first, where one is asked for. -/
def allocateOutBufV3 (a : V3AllocateAnswers P M D) (w : V3World P M D T) (ppOutBuf : Option Slot)
    (nDataLen : Nat) : Option (Bool × V3World P M D T) :=
  match ppOutBuf with
  | none => some (true, w)
  | some slot => allocateV3Memory a.out w (some slot) nDataLen

/-- `:220-259`: the input and the data in it. -/
def allocateInBufV3 (a : V3AllocateAnswers P M D) (w : V3World P M D T) (ppInBuf ppOutBuf : Option Slot)
    (pInData : Option (List UInt8)) (nDataLen : Nat) : Option (UInt32 × V3World P M D T) :=
  match ppInBuf with
  | none => some (1, w)
  | some slot => do
    let (inOk, w) ← allocateV3Memory a.inp w (some slot) nDataLen
    if inOk = false then
      let w ← freeV3Memory a.memoryFree w ppOutBuf
      some (0, w)
    else
      match pInData with
      | none => some (1, w)
      | some data => fillInBufV3 a w (some slot) ppOutBuf data nDataLen

/-- `svp_allocate_secure_buffers_v3_impl_default` (`:200-262`). -/
def svpAllocateSecureBuffersV3ImplDefault (a : V3AllocateAnswers P M D) (w : V3World P M D T)
    (ppInBuf ppOutBuf : Option Slot) (pInData : Option (List UInt8)) (nDataLen : Nat) :
    Option (UInt32 × V3World P M D T) := do
  let (outOk, w) ← allocateOutBufV3 a w ppOutBuf nDataLen
  if outOk = false then some (0, w)
  else allocateInBufV3 a w ppInBuf ppOutBuf pInData nDataLen

/-- `:268-280`: the output's token is copied out and its struct goes to plain `free`. The parameter
`pInBuf` is a variable of its own. -/
def releaseOutBufV3 (a : TokenAnswers T) (tokenSize : Nat) (w : V3World P M D T) (pInBuf pOutBuf : Option P)
    (pDataOut : Option Nat) : Option (V3World P M D T) := do
  let structs := match pOutBuf with
    | some p => Function.update w.structs p none
    | none => w.structs
  let copy : List (V3Call P M D T) ←
    if pDataOut.isSome then (memcpyToken pDataOut a.alloc tokenSize).map fun c => [.token c] else some []
  some { w with
    structs := structs
    slots := Function.update w.slots .pInBuf pInBuf
    calls := w.calls ++ ([.token (.alloc a.alloc), .token (.bufferToToken pOutBuf a.alloc a.toToken),
      .free pOutBuf] ++ copy ++ [.token (.free a.alloc)]) }

/-- The copy of a v3 release has something to copy from: there is no destination, or no byte to copy, or the
token storage was allocated. -/
def CopyDefined (a : TokenAnswers T) (tokenSize : Nat) (pDataOut : Option Nat) : Prop :=
  pDataOut.isSome → tokenSize = 0 ∨ a.alloc.isSome

/-- What the caller owes a copy besides: room for the token at its destination. -/
def CopyFits (a : TokenAnswers T) (tokenSize : Nat) (pDataOut : Option Nat) (nDataOutMax : Nat) : Prop :=
  CopyDefined a tokenSize pDataOut ∧ (pDataOut.isSome → tokenSize ≤ nDataOutMax)

omit [DecidableEq P] [DecidableEq M] in
/-- The calls of the output's part of a release. -/
def releaseOutCalls (a : TokenAnswers T) (tokenSize : Nat) (pOutBuf : Option P) (pDataOut : Option Nat) :
    List (V3Call P M D T) :=
  [.token (.alloc a.alloc), .token (.bufferToToken pOutBuf a.alloc a.toToken), .free pOutBuf] ++
    (if pDataOut.isSome then [.token (.memcpy pDataOut a.alloc tokenSize)] else []) ++ [.token (.free a.alloc)]

omit [DecidableEq M] in
/-- The output's part of a release goes through exactly if its copy does. -/
theorem releaseOutBufV3_eq_some {a : TokenAnswers T} {tokenSize : Nat} {w w' : V3World P M D T}
    {pInBuf pOutBuf : Option P} {pDataOut : Option Nat} :
    releaseOutBufV3 a tokenSize w pInBuf pOutBuf pDataOut = some w' ↔
      CopyDefined a tokenSize pDataOut ∧ { w with
        structs := pOutBuf.elim w.structs fun p => Function.update w.structs p none
        slots := Function.update w.slots .pInBuf pInBuf
        calls := w.calls ++ releaseOutCalls a tokenSize pOutBuf pDataOut } = w' := by
  have hstructs : (match pOutBuf with
      | some p => Function.update w.structs p none
      | none => w.structs) = pOutBuf.elim w.structs fun p => Function.update w.structs p none := by
    cases pOutBuf <;> rfl
  unfold releaseOutBufV3 releaseOutCalls
  rw [hstructs]
  cases pDataOut with
  | none => simp [CopyDefined]
  | some dst =>
    by_cases h : tokenSize = 0 ∨ a.alloc.isSome
    · simp [CopyDefined, memcpyToken, h]
    · simp [CopyDefined, memcpyToken, h]

/-- `svp_release_secure_buffers_v3_impl_default` (`:264-285`): the input goes to `free_v3_memory`; the
size limit `nDataOutMax` is not read. -/
def svpReleaseSecureBuffersV3ImplDefault (a : TokenAnswers T) (memoryFree : M → Bool) (tokenSize : Nat)
    (w : V3World P M D T) (pInBuf pOutBuf : Option P) (pDataOut : Option Nat) (_nDataOutMax : Nat) :
    Option (UInt32 × V3World P M D T) := do
  let w ← releaseOutBufV3 a tokenSize w pInBuf pOutBuf pDataOut
  let w ← if pInBuf.isSome then freeV3Memory memoryFree w (some .pInBuf) else some w
  some (0, w)

/-- A release is the output's part, then the input's. -/
theorem release_v3_eq_some {a : TokenAnswers T} {memoryFree : M → Bool} {tokenSize : Nat} {w : V3World P M D T}
    {pInBuf pOutBuf : Option P} {pDataOut : Option Nat} {nDataOutMax : Nat} {ret : UInt32} {w' : V3World P M D T} :
    svpReleaseSecureBuffersV3ImplDefault a memoryFree tokenSize w pInBuf pOutBuf pDataOut nDataOutMax =
        some (ret, w') ↔
      0 = ret ∧ ∃ w1, releaseOutBufV3 a tokenSize w pInBuf pOutBuf pDataOut = some w1 ∧
        (if pInBuf.isSome then freeV3Memory memoryFree w1 (some .pInBuf) else some w1) = some w' := by
  simp only [svpReleaseSecureBuffersV3ImplDefault, Option.bind_eq_bind]
  cases pInBuf with
  | none => simp [Option.bind_eq_some_iff, and_left_comm]
  | some p => simp [Option.bind_eq_some_iff, and_left_comm]

end GstSvpExt
