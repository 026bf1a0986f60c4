import GstSvpExt.Interleaving
import GstSvpExt.RecursiveMutex
import GstSvpExt.ScopedLockSpec

/-!
# The scoped locks (`gst_svp_scopedlock.h`, `gst_svp_scopedlock.cpp`)

| here | there |
| --- | --- |
| `stdAct`           | the macros over `std::recursive_mutex` (`gst_svp_scopedlock.h:32-54`) |
| `pthreadAct`       | the macros over `ScopedMutex` (`gst_svp_scopedlock.h:56-81`), its constructors (`gst_svp_scopedlock.cpp:37-81`) and destructor (`:82-88`) |
| `initMutex`, `setInit` | `ScopedMutex::InitMutex` (`:89-101`) |

Each is what one thread does next, one use of the mutex or of a static variable at a time. A thread in a
body, or outside any scope, opens a scope or leaves its innermost one; on its way into a scope it goes
on. The counters of tries never pass `timeoutMS`, so `int` and `uint32_t` are one up to 2^31.
-/

namespace GstSvpExt

/-- What a thread does next: `fails` is a call of the platform that reports an error. -/
inductive ScopeAct
  | start (k : ScopeKind)
  | leave
  | go
  | fails
deriving DecidableEq, Repr

variable {τ : Type*} [DecidableEq τ]

/-! ## `std::recursive_mutex` -/

/-- Where a thread is in the macros: in neither; at the constructor of the `lock_guard` of `SCOPED_LOCK`;
or, in `SCOPED_TRY_LOCK`, at the condition of the loop, at its own `SCOPED_LOCK`, at the `unlock` after it. -/
inductive StdPc
  | body
  | lockGuard
  | tryLoop (timeoutMS nTryCount : Nat) (bLockAcquired : Bool)
  | tryGuard (timeoutMS : Nat)
  | tryUnlock (timeoutMS : Nat)
deriving DecidableEq, Repr

/-- The scopes are the live `lock_guard`s. -/
structure StdThread where
  pc : StdPc
  scopes : List ScopeKind
  tries : List Bool
deriving DecidableEq, Repr

def stdAct (t : τ) (lock : RecursiveMutex τ) (l : StdThread) : ScopeAct → Option (RecursiveMutex τ × StdThread)
  | .start k =>
    match l.pc with
    | .body =>
      let pc : StdPc := match k with
        | .scopedLock => .lockGuard
        | .scopedTryLock timeoutMS => .tryLoop timeoutMS 0 false
      some (lock, { l with pc, tries := [] })
    | _ => none
  | .leave =>
    match l.pc, l.scopes with
    | .body, _ :: scopes => (lock.unlock t).map fun lock => (lock, { l with scopes })
    | _, _ => none
  | .go =>
    match l.pc with
    | .body => none
    | .lockGuard =>
      (lock.lock t).map fun lock => (lock, { l with pc := .body, scopes := .scopedLock :: l.scopes })
    | .tryLoop timeoutMS nTryCount false =>
      if nTryCount < timeoutMS then
        match lock.tryLock t with
        | some lock => some (lock, { l with pc := .tryLoop timeoutMS nTryCount true, tries := l.tries ++ [true] })
        | none =>
          some (lock, { l with pc := .tryLoop timeoutMS (nTryCount + 1) false, tries := l.tries ++ [false] })
      else
        -- `return failRetVal`
        some (lock, { l with pc := .body })
    | .tryLoop timeoutMS _ true => some (lock, { l with pc := .tryGuard timeoutMS })
    | .tryGuard timeoutMS => (lock.lock t).map fun lock => (lock, { l with pc := .tryUnlock timeoutMS })
    | .tryUnlock timeoutMS =>
      (lock.unlock t).map fun lock =>
        (lock, { l with pc := .body, scopes := .scopedTryLock timeoutMS :: l.scopes })
  | .fails => none

/-- Every thread outside any scope, the mutex free. -/
def stdStart : Threads τ (RecursiveMutex τ) StdThread := ⟨.free, fun _ => ⟨.body, [], []⟩⟩

/-! ## `ScopedMutex` -/

/-- The static members: the mutex, `none` until it is initialised, and `_bMutexInit`. -/
structure PthreadStatics (τ : Type*) where
  lock : Option (RecursiveMutex τ)
  bMutexInit : Bool

/-- Where a thread is: in no constructor; in one of the two at the first `if(!_bMutexInit)`, in `InitMutex`
before the initialisation and before the flag is set, at the second `if(_bMutexInit)`, at the lock or in
the loop of tries; or at the macro's `if(!lock.IsMutexLocked())`. -/
inductive PthreadPc
  | body
  | checkInit (k : ScopeKind)
  | initMutex (k : ScopeKind)
  | setInit (k : ScopeKind)
  | checkReady (k : ScopeKind)
  | lock
  | tryLoop (timeoutMS nCount : Nat)
  | checkLocked (timeoutMS : Nat) (bMutexAcquired : Bool)
deriving DecidableEq, Repr

/-- A live `ScopedMutex`. -/
structure ScopedMutex where
  kind : ScopeKind
  bMutexAcquired : Bool
deriving DecidableEq, Repr

structure PthreadThread where
  pc : PthreadPc
  scopes : List ScopedMutex
  tries : List Bool
deriving DecidableEq, Repr

/-- `~ScopedMutex` (`:82-88`). An unlock by another thread than the owner only returns an error. -/
def PthreadStatics.destruct (t : τ) (s : PthreadStatics τ) (bMutexAcquired : Bool) : PthreadStatics τ :=
  if bMutexAcquired then { s with lock := s.lock.map fun m => (m.unlock t).getD m } else s

def pthreadAct (t : τ) (s : PthreadStatics τ) (l : PthreadThread) :
    ScopeAct → Option (PthreadStatics τ × PthreadThread)
  | .start k =>
    match l.pc with
    | .body => some (s, { l with pc := .checkInit k, tries := [] })
    | _ => none
  | .leave =>
    match l.pc, l.scopes with
    | .body, scope :: scopes => some (s.destruct t scope.bMutexAcquired, { l with scopes })
    | _, _ => none
  | .go =>
    match l.pc with
    | .body => none
    | .checkInit k => some (s, { l with pc := if s.bMutexInit then .checkReady k else .initMutex k })
    -- initialised is unlocked, whatever the mutex was before
    | .initMutex k => some ({ s with lock := some .free }, { l with pc := .setInit k })
    | .setInit k => some ({ s with bMutexInit := true }, { l with pc := .checkReady k })
    | .checkReady .scopedLock =>
      if s.bMutexInit then some (s, { l with pc := .lock })
      else some (s, { l with pc := .body, scopes := ⟨.scopedLock, false⟩ :: l.scopes })
    | .checkReady (.scopedTryLock timeoutMS) =>
      if s.bMutexInit then some (s, { l with pc := .tryLoop timeoutMS 0 })
      else some (s, { l with pc := .checkLocked timeoutMS false })
    | .lock => do
      let m ← s.lock
      let m ← m.lock t
      some ({ s with lock := some m }, { l with pc := .body, scopes := ⟨.scopedLock, true⟩ :: l.scopes })
    | .tryLoop timeoutMS nCount =>
      if nCount < timeoutMS then do
        let m ← s.lock
        match m.tryLock t with
        | some m =>
          some ({ s with lock := some m }, { l with pc := .checkLocked timeoutMS true, tries := l.tries ++ [true] })
        | none => some (s, { l with pc := .tryLoop timeoutMS (nCount + 1), tries := l.tries ++ [false] })
      else some (s, { l with pc := .checkLocked timeoutMS false })
    | .checkLocked timeoutMS true =>
      some (s, { l with pc := .body, scopes := ⟨.scopedTryLock timeoutMS, true⟩ :: l.scopes })
    -- `return failRetVal`, which destroys the object
    | .checkLocked _ false => some (s.destruct t false, { l with pc := .body })
  | .fails =>
    match l.pc with
    -- `pthread_mutex_init` fails: the flag stays as it is
    | .initMutex k => some (s, { l with pc := .checkReady k })
    -- `pthread_mutex_lock` fails: the body runs all the same
    | .lock => some (s, { l with pc := .body, scopes := ⟨.scopedLock, false⟩ :: l.scopes })
    | _ => none

/-- Every thread outside any scope, the mutex not initialised. -/
def pthreadStart : Threads τ (PthreadStatics τ) PthreadThread := ⟨⟨none, false⟩, fun _ => ⟨.body, [], []⟩⟩

end GstSvpExt
