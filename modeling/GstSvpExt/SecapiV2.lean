import Mathlib.Logic.Function.Basic

/-!
# SecAPI v2 secure buffers (`gst_svp_secure_buffers_secapi.cpp:42-156`)

| here | there |
| --- | --- |
| `mallocOutV2`, `mallocInV2`, `writeInV2` | the three blocks of `svp_allocate_secure_buffers_v2_secapi_impl` (`:51-57`, `:59-66`, `:69-108`) on its locals |
| `svpAllocateSecureBuffersV2SecapiImpl` | the whole of it (`:42-115`): the blocks, the stores through the out parameters, `return 1` |
| `svpReleaseSecureBuffersV2SecapiImpl` | `svp_release_secure_buffers_v2_secapi_impl` (`:117-138`) |
| `svpFreeSecureBufferV2SecapiImpl` | `svp_free_secure_buffer_v2_secapi_impl` (`:140-156`) |

The SecAPI and the token functions are the platform's: what each call answers is an argument
(`AllocateAnswers`, `TokenAnswers`), and every call that is made is recorded with its arguments.
`H` are the handles, `T` the token storages; a `void**` argument is the caller's variable that it
points to, and `none` is `NULL`. A result `none` of a whole release is a `memcpy` from or to `NULL`
(`memcpyToken`).
-/

namespace GstSvpExt

/-- A use of the token functions with its arguments and its answer, or the copy of a token. -/
inductive TokenCall (H T : Type)
  | alloc (token : Option T)
  | bufferToToken (handle : Option H) (token : Option T) (ok : Bool)
  | memcpy (dst : Option Nat) (src : Option T) (size : Nat)
  | free (token : Option T)
deriving DecidableEq, Repr

/-- A call of the SecAPI with its arguments and its answer, or a use of a token. -/
inductive SecCall (H T : Type)
  | malloc (size : Nat) (handle : Option H)
  | write (handle : H) (offset : Nat) (data : Option (List UInt8)) (size : Nat) (ok : Bool)
  | free (handle : H)
  | token (c : TokenCall H T)
deriving DecidableEq, Repr

/-- The caller's variables and the calls made so far. -/
structure SecWorld (H T : Type) where
  slots : Nat → Option H
  calls : List (SecCall H T)

/-- What `SecOpaqueBuffer_Malloc` (for `pDataOut`, then for `pDataIn`) and `SecOpaqueBuffer_Write`
answer: a handle, or `none` on failure; whether the write succeeded. -/
structure AllocateAnswers (H : Type) where
  mallocOut : Option H
  mallocIn : Option H
  write : Bool
deriving DecidableEq, Repr

/-- What `svp_buffer_alloc_token` and `svp_buffer_to_token` answer. -/
structure TokenAnswers (T : Type) where
  alloc : Option T
  toToken : Bool
deriving DecidableEq, Repr

/-- The locals `sec_res` (success or not), `pDataIn` and `pDataOut`, and the calls made. -/
structure AllocateLocals (H T : Type) where
  secRes : Bool
  pDataIn : Option H
  pDataOut : Option H
  calls : List (SecCall H T)

variable {H T : Type}

/-- `if (p) SecOpaqueBuffer_Free(p);` -/
def freeIfSet (p : Option H) : List (SecCall H T) := p.toList.map .free

/-- `:51-57`: allocate the output buffer if the caller asked for it. -/
def mallocOutV2 (a : AllocateAnswers H) (ppOutBuf : Option Nat) (nDataIn : Nat) : AllocateLocals H T :=
  if ppOutBuf.isSome then ⟨a.mallocOut.isSome, none, a.mallocOut, [.malloc nDataIn a.mallocOut]⟩
  else ⟨true, none, none, []⟩

/-- `:59-66`: allocate the input buffer; a failure frees `pDataOut` and leaves the local set. -/
def mallocInV2 (a : AllocateAnswers H) (ppInBuf : Option Nat) (nDataIn : Nat)
    (l : AllocateLocals H T) : AllocateLocals H T :=
  if l.secRes && ppInBuf.isSome then
    match a.mallocIn with
    | some h => { l with pDataIn := some h, calls := l.calls ++ [.malloc nDataIn (some h)] }
    | none => { l with secRes := false, calls := l.calls ++ [.malloc nDataIn none] ++ freeIfSet l.pDataOut }
  else l

/-- `:69-108`: write the input data, or clean up. -/
def writeInV2 (a : AllocateAnswers H) (pInData : Option (List UInt8)) (nDataIn : Nat)
    (l : AllocateLocals H T) : AllocateLocals H T :=
  if l.secRes then
    match l.pDataIn with
    | some h =>
      if a.write then { l with calls := l.calls ++ [.write h 0 pInData nDataIn true] }
      else
        { l with
          pDataIn := none
          pDataOut := none
          calls := l.calls ++ [.write h 0 pInData nDataIn false] ++ freeIfSet l.pDataIn ++
            freeIfSet l.pDataOut }
    | none => l
  else
    { l with
      pDataIn := none
      pDataOut := none
      calls := l.calls ++ freeIfSet l.pDataIn ++ freeIfSet l.pDataOut }

/-- The locals at the end of `svp_allocate_secure_buffers_v2_secapi_impl`. -/
def allocateLocalsV2 (a : AllocateAnswers H) (ppInBuf ppOutBuf : Option Nat)
    (pInData : Option (List UInt8)) (nDataLen : Nat) : AllocateLocals H T :=
  writeInV2 a pInData nDataLen (mallocInV2 a ppInBuf nDataLen (mallocOutV2 a ppOutBuf nDataLen))

/-- `if (pp) *pp = p;` -/
def storeSlot (slots : Nat → Option H) (pp : Option Nat) (p : Option H) : Nat → Option H :=
  match pp with
  | some s => Function.update slots s p
  | none => slots

/-- `svp_allocate_secure_buffers_v2_secapi_impl` (`:42-115`). -/
def svpAllocateSecureBuffersV2SecapiImpl (a : AllocateAnswers H) (w : SecWorld H T)
    (ppInBuf ppOutBuf : Option Nat) (pInData : Option (List UInt8)) (nDataLen : Nat) :
    UInt32 × SecWorld H T :=
  let l := allocateLocalsV2 a ppInBuf ppOutBuf pInData nDataLen
  (1, { slots := storeSlot (storeSlot w.slots ppInBuf l.pDataIn) ppOutBuf l.pDataOut
        calls := w.calls ++ l.calls })

/-- `memcpy` of `size` bytes from the token storage `src` to the caller's `dst`: a copy of no bytes touches
neither side, any other is undefined where one of them is `NULL`. -/
def memcpyToken (dst : Option Nat) (src : Option T) (size : Nat) : Option (TokenCall H T) :=
  if size = 0 ∨ (dst.isSome ∧ src.isSome) then some (.memcpy dst src size) else none

/-- `svp_release_secure_buffers_v2_secapi_impl` (`:117-138`): the size limit `nDataOutMax` is not read. -/
def svpReleaseSecureBuffersV2SecapiImpl (a : TokenAnswers T) (tokenSize : Nat) (w : SecWorld H T)
    (pInBuf pOutBuf : Option H) (pDataOut : Option Nat) (_nDataOutMax : Nat) :
    Option (UInt32 × SecWorld H T) := do
  let copy ← memcpyToken pDataOut a.alloc tokenSize
  some (0, { w with calls := w.calls ++
    ([.token (.alloc a.alloc), .token (.bufferToToken pOutBuf a.alloc a.toToken), .token copy,
      .token (.free a.alloc)] ++ freeIfSet pInBuf) })

/-- What a release that returns has done. -/
theorem release_v2_eq_some {a : TokenAnswers T} {tokenSize : Nat} {w : SecWorld H T} {pInBuf pOutBuf : Option H}
    {pDataOut : Option Nat} {nDataOutMax : Nat} {r : UInt32 × SecWorld H T} :
    svpReleaseSecureBuffersV2SecapiImpl a tokenSize w pInBuf pOutBuf pDataOut nDataOutMax = some r ↔
      (tokenSize = 0 ∨ (pDataOut.isSome ∧ a.alloc.isSome)) ∧ (0, { w with calls := w.calls ++
        ([.token (.alloc a.alloc), .token (.bufferToToken pOutBuf a.alloc a.toToken),
          .token (.memcpy pDataOut a.alloc tokenSize), .token (.free a.alloc)] ++ freeIfSet pInBuf) }) = r := by
  unfold svpReleaseSecureBuffersV2SecapiImpl memcpyToken
  split
  · rename_i h
    simp [h]
  · rename_i h
    simp [h]

/-- `svp_free_secure_buffer_v2_secapi_impl` (`:140-156`). -/
def svpFreeSecureBufferV2SecapiImpl (w : SecWorld H T) (pContext : Option Nat) (pBuf : Option H) :
    Bool × SecWorld H T :=
  match pContext, pBuf with
  | some _, some h => (true, { w with calls := w.calls ++ [.free h] })
  | _, _ => (false, w)

end GstSvpExt
