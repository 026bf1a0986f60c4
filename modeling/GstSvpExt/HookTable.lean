import GstSvpExt.Logging
import Mathlib.Logic.Function.Basic

/-!
# The hook table (`gst_svp_meta.cpp:26-157`, `:238-242`, `:335-480`, `:564-615`)

| here | there |
| --- | --- |
| `Hook`, `MetaState.hooks` | the members of `s_gst_svp_context` (`:26-53`) |
| `Hook.Args`, `Hook.Ret`   | the function types of `gst_svp_meta_private.h:77-149` |
| `svpAllocateSecureBuffersSet` .. `svpBufferDestroyTokenSet` | the sixteen `.._set` functions; their common body is `setHook`, and `registerHook` picks one |
| `svpAllocateSecureBuffers` .. `svpBufferDestroyToken` | the sixteen functions that call through the table; their common body is `callHook`, and `callThrough` picks one |
| `svpAllocateSecureBuffersV2ImplDefault` .. `svpBufferDestroyTokenDefault` | the `.._default` functions (`:103-157`, `:426-435`, `gst_svp_secure_buffers_default.cpp:33-60`) |
| `gstSvpInitDeviceContext`, `gstSvpInit` | the weak `gst_svp_init_device_context` (`:55-60`), the constructor `gst_svp_init` (`:71-101`) |
| `gstSvpIsMultipleDecryptSupported` | `gst_svp_is_multiple_decrypt_supported` (`:606-610`) |

A device's functions are outside this library: `V` are their addresses and a `Device` is what each of them
does to the platform's state `σ`. A result `none` of a call is a call through `NULL`. An address is an
`Option Nat`, `none` for `NULL`.
-/

namespace GstSvpExt

abbrev Address := Option Nat

/-! ## Hooks -/

inductive Hook
  | svpAllocateSecureBuffers
  | svpReleaseSecureBuffers
  | svpAllocateSecureBuffer
  | svpFreeSecureBuffer
  | svpReleaseSecureBuffer
  | svpContextSetV3
  | svpContextGetV3
  | svpAllocSecMem
  | svpReleaseSecMem
  | svpSupportSecMemPrealloc
  | svpCreatePlatformAllocator
  | svpIsBufferUsingSecureMemory
  | svpExtTransformCapsClear
  | svpHeaderExtractOutputBuffer
  | gstBufferArrayAppendSvpTransform
  | svpBufferDestroyToken
deriving DecidableEq, Repr

/-- The parameters, in order. -/
def Hook.Args : Hook → Type
  | svpAllocateSecureBuffers => Address × Address × Address × Address × Nat
  | svpReleaseSecureBuffers => Address × Address × Address × Address × Nat
  | svpAllocateSecureBuffer => Address × Address × Address × Nat
  | svpFreeSecureBuffer | svpReleaseSecureBuffer => Address × Address
  | svpContextSetV3 => Address × Bool
  | svpContextGetV3 => Address
  | svpAllocSecMem => Address × Address × Address
  | svpReleaseSecMem => Address × Address
  | svpSupportSecMemPrealloc => Address
  | svpCreatePlatformAllocator => Unit
  | svpIsBufferUsingSecureMemory => Address × Address
  | svpExtTransformCapsClear => Address × Address
  | svpHeaderExtractOutputBuffer => Address
  | gstBufferArrayAppendSvpTransform => Address × Address × UInt16 × Address × UInt32
  | svpBufferDestroyToken => Address

def Hook.Ret : Hook → Type
  | svpAllocateSecureBuffers | svpReleaseSecureBuffers => UInt32
  | svpAllocateSecureBuffer | svpFreeSecureBuffer | svpReleaseSecureBuffer => Bool
  | svpContextSetV3 | svpExtTransformCapsClear => Unit
  | svpContextGetV3 | svpAllocSecMem | svpReleaseSecMem | svpSupportSecMemPrealloc => Bool
  | svpCreatePlatformAllocator | svpHeaderExtractOutputBuffer => Address
  | svpIsBufferUsingSecureMemory | gstBufferArrayAppendSvpTransform | svpBufferDestroyToken => Bool

/-- A function pointer in the table: this library's default for the hook, or a function of the device. -/
inductive FnPtr (V : Type)
  | implDefault
  | device (f : V)
deriving DecidableEq, Repr

/-- What the functions of a device do. -/
abbrev Device (V σ : Type) := (h : Hook) → V → h.Args → σ → h.Ret × σ

/-- `LOG(level, message)` in `function`. -/
structure LogCall where
  level : ESVPLogLevel
  function : String
  message : String
deriving DecidableEq, Repr

/-- The table, the platform, and what was logged. -/
structure MetaState (V σ : Type) where
  hooks : Hook → Option (FnPtr V)
  platform : σ
  log : List LogCall

/-! ## The defaults -/

/-- The `LOG` of a default, at the level of an error. -/
def logError (function message : String) : Option LogCall := some ⟨.error, function, message⟩

def svpAllocateSecureBuffersV2ImplDefault : UInt32 × Option LogCall :=
  (0, logError "svp_allocate_secure_buffers_v2_impl_default" "Not implemented\n")

def svpReleaseSecureBuffersV2ImplDefault : UInt32 × Option LogCall :=
  (0, logError "svp_release_secure_buffers_v2_impl_default" "Not implemented\n")

def svpAllocateSecureBufferDefault : Bool × Option LogCall :=
  (false, logError "svp_allocate_secure_buffer_default" "Not implemented\n")

def svpFreeSecureBufferDefault : Bool × Option LogCall :=
  (false, logError "svp_free_secure_buffer_default" "Not implemented\n")

def svpReleaseSecureBufferDefault : Bool × Option LogCall :=
  (false, logError "svp_release_secure_buffer_default" "Not implemented\n")

def svpContextSetSecapiV3Default : Unit × Option LogCall :=
  ((), some ⟨.warning, "svp_context_set_secapi_v3_default",
    "svp_context_set_secapi_v3 is not implemented for this platform\n"⟩)

def svpContextGetSecapiV3Default : Bool × Option LogCall :=
  (false, some ⟨.warning, "svp_context_get_secapi_v3_default",
    "svp_context_get_secapi_v3 is not implemented for this platform, returning false\n"⟩)

def allocateSecMemDefault : Bool × Option LogCall :=
  (false, logError "allocate_sec_mem_default" "No implementation provided to allocate sec mem")

def releaseSecMemDefault : Bool × Option LogCall :=
  (false, logError "release_sec_mem_default" "No implementation provided to release sec mem")

/-- Called during normal runtime, so nothing is logged. -/
def supportSecMemPreallocDefault : Bool × Option LogCall := (false, none)

def gstSvpExtCreatePlatformAllocatorDefault : Address × Option LogCall :=
  (none, logError "gst_svp_ext_create_platform_allocator_default" "No platform allocator is implemented\n")

def gstSvpIsBufferUsingSecureMemoryDefault : Bool × Option LogCall :=
  (false, logError "gst_svp_is_buffer_using_secure_memory_default" "No implementation provided\n")

def gstSvpExtTransformCapsClearDefault : Unit × Option LogCall :=
  ((), logError "gst_svp_ext_transform_caps_clear_default" "No implementation provided\n")

def svpHeaderExtractOutputBufferDefault : Address × Option LogCall :=
  (none, logError "svp_header_extract_output_buffer_default" "No implementation provided\n")

def gstBufferArrayAppendSvpTransformDefault : Bool × Option LogCall :=
  (false, logError "gst_buffer_array_append_svp_transform_default" "No implementation provided\n")

def svpBufferDestroyTokenDefault : Bool × Option LogCall :=
  (false, logError "svp_buffer_destroy_token_default" "No implementation provided to destroy svp token")

/-- A default reads none of its arguments: it returns a constant and logs. -/
def hookDefault : (h : Hook) → h.Ret × Option LogCall
  | .svpAllocateSecureBuffers => svpAllocateSecureBuffersV2ImplDefault
  | .svpReleaseSecureBuffers => svpReleaseSecureBuffersV2ImplDefault
  | .svpAllocateSecureBuffer => svpAllocateSecureBufferDefault
  | .svpFreeSecureBuffer => svpFreeSecureBufferDefault
  | .svpReleaseSecureBuffer => svpReleaseSecureBufferDefault
  | .svpContextSetV3 => svpContextSetSecapiV3Default
  | .svpContextGetV3 => svpContextGetSecapiV3Default
  | .svpAllocSecMem => allocateSecMemDefault
  | .svpReleaseSecMem => releaseSecMemDefault
  | .svpSupportSecMemPrealloc => supportSecMemPreallocDefault
  | .svpCreatePlatformAllocator => gstSvpExtCreatePlatformAllocatorDefault
  | .svpIsBufferUsingSecureMemory => gstSvpIsBufferUsingSecureMemoryDefault
  | .svpExtTransformCapsClear => gstSvpExtTransformCapsClearDefault
  | .svpHeaderExtractOutputBuffer => svpHeaderExtractOutputBufferDefault
  | .gstBufferArrayAppendSvpTransform => gstBufferArrayAppendSvpTransformDefault
  | .svpBufferDestroyToken => svpBufferDestroyTokenDefault

/-! ## Registering and calling -/

section
variable {V σ : Type}

/-- `s_gst_svp_context.hook = pFunc`. -/
def setHook (s : MetaState V σ) (h : Hook) (pFunc : Option (FnPtr V)) : MetaState V σ :=
  { s with hooks := Function.update s.hooks h pFunc }

/-- `return s_gst_svp_context.hook(..)`. -/
def callHook (device : Device V σ) (s : MetaState V σ) (h : Hook) (args : h.Args) :
    Option (h.Ret × MetaState V σ) :=
  match s.hooks h with
  | none => none
  | some .implDefault =>
    let (ret, line) := hookDefault h
    some (ret, { s with log := s.log ++ line.toList })
  | some (.device f) =>
    let (ret, platform) := device h f args s.platform
    some (ret, { s with platform })

variable (s : MetaState V σ) (pFunc : Option (FnPtr V))

def svpAllocateSecureBuffersSet := setHook s .svpAllocateSecureBuffers pFunc
def svpReleaseSecureBuffersSet := setHook s .svpReleaseSecureBuffers pFunc
def svpAllocateSecureBufferSet := setHook s .svpAllocateSecureBuffer pFunc
def svpFreeSecureBufferSet := setHook s .svpFreeSecureBuffer pFunc
def svpReleaseSecureBufferSet := setHook s .svpReleaseSecureBuffer pFunc
def svpSetContextV3Set := setHook s .svpContextSetV3 pFunc
def svpGetContextV3Set := setHook s .svpContextGetV3 pFunc
def svpAllocateSecureMemorySet := setHook s .svpAllocSecMem pFunc
def svpReleaseSecureMemorySet := setHook s .svpReleaseSecMem pFunc
def svpSupportMemPreallocSet := setHook s .svpSupportSecMemPrealloc pFunc
def svpCreatePlatformAllocatorSet := setHook s .svpCreatePlatformAllocator pFunc
def gstSvpIsBufferUsingSecureMemorySet := setHook s .svpIsBufferUsingSecureMemory pFunc
def gstSvpExtTransformCapsClearSet := setHook s .svpExtTransformCapsClear pFunc
def svpHeaderExtractOutputBufferSet := setHook s .svpHeaderExtractOutputBuffer pFunc
def gstBufferArrayAppendSvpTransformSet := setHook s .gstBufferArrayAppendSvpTransform pFunc
def svpBufferDestroyTokenSet := setHook s .svpBufferDestroyToken pFunc

variable (device : Device V σ) (pContext : Address)

def svpAllocateSecureBuffers (ppInBuf ppOutBuf pInData : Address) (nDataLen : Nat) :
    Option (UInt32 × MetaState V σ) :=
  callHook device s .svpAllocateSecureBuffers (pContext, ppInBuf, ppOutBuf, pInData, nDataLen)

def svpReleaseSecureBuffers (pInBuf pOutBuf pDataOut : Address) (nDataOutMax : Nat) :
    Option (UInt32 × MetaState V σ) :=
  callHook device s .svpReleaseSecureBuffers (pContext, pInBuf, pOutBuf, pDataOut, nDataOutMax)

def svpAllocateSecureBuffer (ppBuf pInData : Address) (nDataLen : Nat) : Option (Bool × MetaState V σ) :=
  callHook device s .svpAllocateSecureBuffer (pContext, ppBuf, pInData, nDataLen)

def svpFreeSecureBuffer (pBuf : Address) : Option (Bool × MetaState V σ) :=
  callHook device s .svpFreeSecureBuffer (pContext, pBuf)

def svpReleaseSecureBuffer (pBuf : Address) : Option (Bool × MetaState V σ) :=
  callHook device s .svpReleaseSecureBuffer (pContext, pBuf)

def svpContextSetSecapiV3 (wantV3 : Bool) : Option (Unit × MetaState V σ) :=
  callHook device s .svpContextSetV3 (pContext, wantV3)

def svpContextGetSecapiV3 : Option (Bool × MetaState V σ) := callHook device s .svpContextGetV3 pContext

def gstSvpAllocateSecMem (handle physicalDataSize : Address) : Option (Bool × MetaState V σ) :=
  callHook device s .svpAllocSecMem (pContext, handle, physicalDataSize)

def gstSvpReleaseSecMem (handle : Address) : Option (Bool × MetaState V σ) :=
  callHook device s .svpReleaseSecMem (pContext, handle)

def gstSvpContextSupportsMemoryPrealloc : Option (Bool × MetaState V σ) :=
  callHook device s .svpSupportSecMemPrealloc pContext

def gstSvpExtCreatePlatformAllocator : Option (Address × MetaState V σ) :=
  callHook device s .svpCreatePlatformAllocator ()

def gstSvpIsBufferUsingSecureMemory (buffer : Address) : Option (Bool × MetaState V σ) :=
  callHook device s .svpIsBufferUsingSecureMemory (pContext, buffer)

def gstSvpExtTransformCapsClear (caps : Address) : Option (Unit × MetaState V σ) :=
  callHook device s .svpExtTransformCapsClear (pContext, caps)

def svpHeaderExtractOutputBuffer (headerData : Address) : Option (Address × MetaState V σ) :=
  callHook device s .svpHeaderExtractOutputBuffer headerData

def gstBufferArrayAppendSvpTransform (buffers : Address) (count : UInt16) (encryptedData : Address)
    (dataSize : UInt32) : Option (Bool × MetaState V σ) :=
  callHook device s .gstBufferArrayAppendSvpTransform (pContext, buffers, count, encryptedData, dataSize)

def svpBufferDestroyToken (token : Address) : Option (Bool × MetaState V σ) :=
  callHook device s .svpBufferDestroyToken token

/-- `gst_svp_is_multiple_decrypt_supported` (`:606-610`). -/
def gstSvpIsMultipleDecryptSupported [DecidableEq V] : Bool :=
  s.hooks .gstBufferArrayAppendSvpTransform ≠ none ∧
    s.hooks .gstBufferArrayAppendSvpTransform ≠ some .implDefault

end

section
variable {V σ : Type}

/-- The function that registers a hook. -/
def registerHook : Hook → MetaState V σ → Option (FnPtr V) → MetaState V σ
  | .svpAllocateSecureBuffers => svpAllocateSecureBuffersSet
  | .svpReleaseSecureBuffers => svpReleaseSecureBuffersSet
  | .svpAllocateSecureBuffer => svpAllocateSecureBufferSet
  | .svpFreeSecureBuffer => svpFreeSecureBufferSet
  | .svpReleaseSecureBuffer => svpReleaseSecureBufferSet
  | .svpContextSetV3 => svpSetContextV3Set
  | .svpContextGetV3 => svpGetContextV3Set
  | .svpAllocSecMem => svpAllocateSecureMemorySet
  | .svpReleaseSecMem => svpReleaseSecureMemorySet
  | .svpSupportSecMemPrealloc => svpSupportMemPreallocSet
  | .svpCreatePlatformAllocator => svpCreatePlatformAllocatorSet
  | .svpIsBufferUsingSecureMemory => gstSvpIsBufferUsingSecureMemorySet
  | .svpExtTransformCapsClear => gstSvpExtTransformCapsClearSet
  | .svpHeaderExtractOutputBuffer => svpHeaderExtractOutputBufferSet
  | .gstBufferArrayAppendSvpTransform => gstBufferArrayAppendSvpTransformSet
  | .svpBufferDestroyToken => svpBufferDestroyTokenSet

/-- The function that calls a hook. -/
def callThrough (device : Device V σ) (s : MetaState V σ) : (h : Hook) → h.Args → Option (h.Ret × MetaState V σ)
  | .svpAllocateSecureBuffers, (c, i, o, d, n) => svpAllocateSecureBuffers s device c i o d n
  | .svpReleaseSecureBuffers, (c, i, o, d, n) => svpReleaseSecureBuffers s device c i o d n
  | .svpAllocateSecureBuffer, (c, b, d, n) => svpAllocateSecureBuffer s device c b d n
  | .svpFreeSecureBuffer, (c, b) => svpFreeSecureBuffer s device c b
  | .svpReleaseSecureBuffer, (c, b) => svpReleaseSecureBuffer s device c b
  | .svpContextSetV3, (c, v3) => svpContextSetSecapiV3 s device c v3
  | .svpContextGetV3, c => svpContextGetSecapiV3 s device c
  | .svpAllocSecMem, (c, h, n) => gstSvpAllocateSecMem s device c h n
  | .svpReleaseSecMem, (c, h) => gstSvpReleaseSecMem s device c h
  | .svpSupportSecMemPrealloc, c => gstSvpContextSupportsMemoryPrealloc s device c
  | .svpCreatePlatformAllocator, () => gstSvpExtCreatePlatformAllocator s device
  | .svpIsBufferUsingSecureMemory, (c, b) => gstSvpIsBufferUsingSecureMemory s device c b
  | .svpExtTransformCapsClear, (c, caps) => gstSvpExtTransformCapsClear s device c caps
  | .svpHeaderExtractOutputBuffer, d => svpHeaderExtractOutputBuffer s device d
  | .gstBufferArrayAppendSvpTransform, (c, b, n, d, size) =>
    gstBufferArrayAppendSvpTransform s device c b n d size
  | .svpBufferDestroyToken, t => svpBufferDestroyToken s device t

/-- Every registration writes its own hook. -/
theorem registerHook_eq (h : Hook) (s : MetaState V σ) (pFunc : Option (FnPtr V)) :
    registerHook h s pFunc = setHook s h pFunc := by
  cases h <;> rfl

/-- Every call goes through its own hook, with its parameters in order. -/
theorem callThrough_eq (device : Device V σ) (s : MetaState V σ) (h : Hook) (args : h.Args) :
    callThrough device s h args = callHook device s h args := by
  cases h <;> rfl

end

/-! ## Loading the library -/

section
variable {V σ : Type}

/-- The library's own `gst_svp_init_device_context` (`none`) or the device's: its registrations. -/
def gstSvpInitDeviceContext (context : Option (List (Hook × Option (FnPtr V)))) (s : MetaState V σ) :
    MetaState V σ :=
  match context with
  | none =>
    { s with log := s.log ++ [⟨.trace, "gst_svp_init_device_context",
        "gst_svp_init_device_context not implemented for this device\n"⟩] }
  | some registrations => registrations.foldl (fun s r => registerHook r.1 s r.2) s

/-- `gst_svp_init` (`:71-101`), which runs when the library is loaded. -/
def gstSvpInit (context : Option (List (Hook × Option (FnPtr V)))) (s : MetaState V σ) : MetaState V σ :=
  let s := svpAllocateSecureBuffersSet s (some .implDefault)
  let s := svpReleaseSecureBuffersSet s (some .implDefault)
  let s := svpAllocateSecureBufferSet s (some .implDefault)
  let s := svpFreeSecureBufferSet s (some .implDefault)
  let s := svpReleaseSecureBufferSet s (some .implDefault)
  let s := svpSetContextV3Set s (some .implDefault)
  let s := svpGetContextV3Set s (some .implDefault)
  let s := svpAllocateSecureMemorySet s (some .implDefault)
  let s := svpReleaseSecureMemorySet s (some .implDefault)
  let s := svpSupportMemPreallocSet s (some .implDefault)
  let s := svpCreatePlatformAllocatorSet s (some .implDefault)
  let s := gstSvpIsBufferUsingSecureMemorySet s (some .implDefault)
  let s := gstSvpExtTransformCapsClearSet s (some .implDefault)
  let s := svpHeaderExtractOutputBufferSet s (some .implDefault)
  let s := gstBufferArrayAppendSvpTransformSet s (some .implDefault)
  let s := svpBufferDestroyTokenSet s (some .implDefault)
  gstSvpInitDeviceContext context s

/-- The sixteen registrations leave no hook out. -/
theorem gstSvpInit_eq (context : Option (List (Hook × Option (FnPtr V)))) (s : MetaState V σ) :
    gstSvpInit context s = gstSvpInitDeviceContext context { s with hooks := fun _ => some .implDefault } := by
  have hall : ∀ t : MetaState V σ, t.platform = s.platform → t.log = s.log →
      (∀ h, t.hooks h = some .implDefault) → t = { s with hooks := fun _ => some .implDefault } := by
    rintro ⟨hooks, platform, log⟩ hp hl hh
    obtain rfl : hooks = fun _ => some .implDefault := funext hh
    simp only at hp hl
    rw [hp, hl]
  refine congrArg (gstSvpInitDeviceContext context) (hall _ rfl rfl ?_)
  intro h
  cases h <;> rfl

theorem foldl_register_log (registrations : List (Hook × Option (FnPtr V))) (s : MetaState V σ) :
    (registrations.foldl (fun s r => registerHook r.1 s r.2) s).log = s.log := by
  induction registrations generalizing s with
  | nil => rfl
  | cons r rs ih => rw [List.foldl_cons, ih, registerHook_eq, setHook]

theorem foldl_register_platform (registrations : List (Hook × Option (FnPtr V))) (s : MetaState V σ) :
    (registrations.foldl (fun s r => registerHook r.1 s r.2) s).platform = s.platform := by
  induction registrations generalizing s with
  | nil => rfl
  | cons r rs ih => rw [List.foldl_cons, ih, registerHook_eq, setHook]

/-- Loading logs the line of a missing context and does not call the platform. -/
theorem gstSvpInit_frame (context : Option (List (Hook × Option (FnPtr V)))) (s : MetaState V σ) :
    (gstSvpInit context s).platform = s.platform ∧
      (gstSvpInit context s).log = s.log ++ match context with
        | none => [⟨.trace, "gst_svp_init_device_context",
            "gst_svp_init_device_context not implemented for this device\n"⟩]
        | some _ => [] := by
  rw [gstSvpInit_eq]
  cases context with
  | none => exact ⟨rfl, rfl⟩
  | some registrations =>
    rw [List.append_nil]
    exact ⟨foldl_register_platform registrations _, foldl_register_log registrations _⟩

end

end GstSvpExt
