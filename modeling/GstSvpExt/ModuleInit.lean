import GstSvpExt.LoggingDump
import GstSvpExt.Runs

/-!
# What the library does when it is loaded

| here | there |
| --- | --- |
| `strncasecmpTrue`, `logModuleInit`, `logModuleTerminate` | `LogModuleInit`, `LogModuleTerminate` (`gst_svp_logging.cpp:87-103`) |
| `LogState`, `LogEvent.log` | `s_VerboseLog` (`:27`) and the calls of `GstSvpLogging` (`:28-54`) |
| `LogEvent.load` | the image is mapped, with `s_VerboseLog` at its initial value, and the constructor runs |
| `perfModuleInit` | `PerfModuleInit` (`gst_svp_performance.cpp:49-67`) |

`GSTSVPEXT_EXTENDED_LOGGING` is read once for each load, by the constructor; what is logged until the next
load depends on the value found then (`log_run_lines`). The other constructor prints the name of the process
from an array that it does not terminate itself: `perf_process_name` says for which files that prints the
name.
-/

namespace GstSvpExt

open Bytes Runs

/-! ## Logging over a run -/

/-- `tolower` of an ASCII character. -/
def tolower (c : UInt8) : UInt8 := if 0x41 ≤ c ∧ c ≤ 0x5a then c + 0x20 else c

/-- `strncasecmp(s, "true", strlen("true")) == 0`. -/
def strncasecmpTrue (s : CString) : Bool := (s.chars.take 4).map tolower = ascii "true"

/-- `s_VerboseLog`, the process, and what was printed. -/
structure LogState where
  verboseLog : Bool
  pid : UInt32
  printed : List LogLine

/-- `LOG(level, ..)` by the thread `tid`. -/
def log (s : LogState) (tid : UInt32) (level : ESVPLogLevel) (function : String) (line : Nat)
    (message : List UInt8) : LogState :=
  { s with printed := s.printed ++ (gstSvpLogging ⟨s.verboseLog, s.pid, tid⟩ level function line message).toList }

/-- `LogModuleInit` (`:87-97`), with what `getenv` returns. -/
def logModuleInit (s : LogState) (tid : UInt32) (env : Option CString) : LogState :=
  let verbose := if s.verboseLog then 1 else 0
  let s := log s tid .warning "LogModuleInit" 89 (ascii s!"GST SVP Logging initialize extending logging set to {verbose}\n")
  if env.any strncasecmpTrue then
    let s := { s with verboseLog := true }
    log s tid .warning "LogModuleInit" 94 (ascii "Enabling GSTSVPEXT extended logging 1")
  else s

/-- `LogModuleTerminate` (`:100-103`). -/
def logModuleTerminate (s : LogState) (tid : UInt32) : LogState :=
  log s tid .warning "LogModuleTerminate" 102 (ascii "GST SVP Logging terminate\n")

inductive LogEvent
  | load (tid : UInt32) (env : Option CString)
  | log (tid : UInt32) (level : ESVPLogLevel) (function : String) (line : Nat) (message : List UInt8)
  | terminate (tid : UInt32)

def logStep (s : LogState) : LogEvent → LogState
  -- nothing is left of what an earlier load found
  | .load tid env => logModuleInit { s with verboseLog := false } tid env
  | .log tid level function line message => log s tid level function line message
  | .terminate tid => logModuleTerminate s tid

/-- What a load finds the variable at. -/
def LogEvent.setting : LogEvent → Option Bool
  | .load _ env => some (env.any strncasecmpTrue)
  | _ => none

/-- The last load has found it at `true`. -/
def extendedLogging (before : List LogEvent) : Bool := (before.reverse.findSome? LogEvent.setting).getD false

/-- A message that is printed, whatever was logged before. -/
def logLine (pid tid : UInt32) (level : ESVPLogLevel) (function : String) (line : Nat) (message : List UInt8) :
    LogLine where
  fpOut := if level = .error then .stderr else .stdout
  header :=
    let pid := upperHex pid.toNat
    let tid := upperHex tid.toNat
    ascii s!"Process ID {pid} : TID {tid} : {function}({line}) : "
  logMessage := cString (message.take (logMessageSize - 1))

/-- What an event prints: traces only if the variable was set at the last load. -/
def LogEvent.lines (pid : UInt32) (before : List LogEvent) : LogEvent → List LogLine
  | .load tid env =>
    logLine pid tid .warning "LogModuleInit" 89
        (ascii "GST SVP Logging initialize extending logging set to 0\n") ::
      if env.any strncasecmpTrue then
        [logLine pid tid .warning "LogModuleInit" 94 (ascii "Enabling GSTSVPEXT extended logging 1")]
      else []
  | .log tid level function line message =>
    if level = .trace ∧ extendedLogging before = false then [] else [logLine pid tid level function line message]
  | .terminate tid => [logLine pid tid .warning "LogModuleTerminate" 102 (ascii "GST SVP Logging terminate\n")]

theorem log_eq (s : LogState) (tid : UInt32) (level : ESVPLogLevel) (function : String) (line : Nat)
    (message : List UInt8) :
    log s tid level function line message = { s with
      printed := s.printed ++ if level = .trace ∧ s.verboseLog = false then []
        else [logLine s.pid tid level function line message] } := by
  unfold log gstSvpLogging logLine
  by_cases hquiet : level = .trace ∧ s.verboseLog = false
  · simp [hquiet]
  · rw [if_neg hquiet, if_neg fun h => hquiet h.symm]
    rfl

theorem extendedLogging_snoc (before : List LogEvent) (e : LogEvent) :
    extendedLogging (before ++ [e]) = e.setting.getD (extendedLogging before) := by
  rw [extendedLogging, List.reverse_append, List.reverse_singleton, List.singleton_append, List.findSome?_cons]
  cases e.setting <;> rfl

/-- One event, from a state that the events before it explain. -/
theorem logStep_spec {s : LogState} {before : List LogEvent} (hs : s.verboseLog = extendedLogging before)
    (e : LogEvent) :
    (logStep s e).verboseLog = extendedLogging (before ++ [e]) ∧ (logStep s e).pid = s.pid ∧
      (logStep s e).printed = s.printed ++ e.lines s.pid before := by
  rw [extendedLogging_snoc]
  cases e with
  | load tid env =>
    simp only [logStep, logModuleInit, log_eq, LogEvent.lines, LogEvent.setting, reduceCtorEq, false_and, if_false,
      Option.getD_some, Bool.false_eq_true]
    cases env.any strncasecmpTrue with
    | true => exact ⟨rfl, rfl, List.append_assoc ..⟩
    | false => exact ⟨rfl, rfl, rfl⟩
  | log tid level function line message =>
    simp only [logStep, log_eq, hs, LogEvent.lines]
    exact ⟨rfl, trivial, trivial⟩
  | terminate tid =>
    simp only [logStep, logModuleTerminate, log_eq, hs, LogEvent.lines]
    exact ⟨rfl, trivial, by simp⟩

theorem logRun_spec {s : LogState} {before : List LogEvent} (hs : s.verboseLog = extendedLogging before)
    (es : List LogEvent) :
    (es.foldl logStep s).printed = s.printed ++ overPrefixes (LogEvent.lines s.pid) before es := by
  induction es generalizing s before with
  | nil => exact (List.append_nil _).symm
  | cons e es ih =>
    obtain ⟨hverbose, hpid, hprinted⟩ := logStep_spec hs e
    rw [List.foldl_cons, ih hverbose, hpid, hprinted, overPrefixes, List.append_assoc]

/-- **A log is what was logged.** Over any loads and any messages of any threads, what is printed is, in
order, every warning and every error, and every trace if the last load has found the variable set; an error
goes to `stderr` and all else to `stdout`; of a message at most its first 4095 characters are printed, up to
a NUL. -/
theorem log_run_lines (pid : UInt32) (es : List LogEvent) :
    (es.foldl logStep ⟨false, pid, []⟩).printed = overPrefixes (LogEvent.lines pid) [] es :=
  logRun_spec rfl es

/-! ## The name of the process -/

/-- `PROCESS_NAMELEN`. -/
def processNameLen : Nat := 80

/-- `sprintf(cmd, "/proc/%d/cmdline", getpid())`. -/
def cmdlinePath (pid : UInt32) : List UInt8 :=
  let pid := asInt pid.toNat
  ascii s!"/proc/{pid}/cmdline"

/-- `printf("%s", o)`: the characters up to a NUL, which must be inside the object. -/
def printString (o : List UInt8) : Option (List UInt8) := if 0 ∈ o then some (cString o) else none

/-- `PerfModuleInit` (`:49-67`). `fopen` gives the contents of the file that is opened; `stack` is what
`strProcessName` holds at first. -/
def perfModuleInit (ctx : LogContext) (fopen : List UInt8 → Option (List UInt8)) (stack : List UInt8) :
    Option (List LogLine) := do
  let cmd ← (sprintf (List.replicate 80 0) 0 (cmdlinePath ctx.pid)).toOption
  let (strProcessName, lines) ← match fopen (cString cmd) with
    | none => some (stack, [])
    | some file => do
      let read := file.take (processNameLen - 1)
      let strProcessName ← write stack 0 read
      some (strProcessName, if read.length = 0 then
        (gstSvpLogging ctx .error "PerfModuleInit" 59 (ascii "Could not read process name\n")).toList else [])
  let name ← printString strProcessName
  let pid := upperHex ctx.pid.toNat
  some (lines ++ (gstSvpLogging ctx .warning "PerfModuleInit" 64
    (ascii s!"GST performance process initialize {pid} named " ++ name ++ ascii "\n")).toList)

/-- `%d` prints a sign and digits. -/
theorem decimal_chars (z : Int) : ∀ c ∈ (toString z).toList, c = '-' ∨ c.isDigit = true := by
  intro c hc
  rw [Int.toString_eq_repr, Int.repr_eq_if] at hc
  split at hc
  · exact Or.inr (Nat.isDigit_of_mem_toDigits (b := 10) (by decide) (by decide) (by simpa [Nat.repr_eq_ofList_toDigits] using hc))
  · rw [String.toList_append, List.mem_append] at hc
    rcases hc with hc | hc
    · exact Or.inl (by simpa using hc)
    · exact Or.inr (Nat.isDigit_of_mem_toDigits (b := 10) (by decide) (by decide)
        (by simpa [Nat.repr_eq_ofList_toDigits] using hc))

/-- An `int` has at most eleven of them. -/
theorem decimal_length (n : Nat) : (ascii (toString (asInt n))).length ≤ 11 := by
  have hlo := BitVec.le_two_mul_toInt (x := BitVec.ofNat 32 n)
  have hhi := BitVec.two_mul_toInt_lt (x := BitVec.ofNat 32 n)
  rw [ascii, List.length_map, String.length_toList, Int.toString_eq_repr, Int.repr_eq_if]
  unfold asInt
  split
  · refine Nat.le_trans ((Nat.length_repr_le_iff (by decide)).2 ?_) (by decide : 10 ≤ 11)
    omega
  · have hten : (-(BitVec.ofNat 32 n).toInt).toNat.repr.length ≤ 10 := (Nat.length_repr_le_iff (by decide)).2 (by omega)
    rw [String.length_append]
    exact Nat.add_le_add (by decide : "-".length ≤ 1) hten

/-- The path fits in `cmd`, for every process, and has no NUL in it. -/
theorem cmdlinePath_fits (pid : UInt32) : (cmdlinePath pid).length < 80 ∧ 0 ∉ cmdlinePath pid := by
  have heq : cmdlinePath pid = ascii "/proc/" ++ ascii (toString (asInt pid.toNat)) ++ ascii "/cmdline" := by
    rw [cmdlinePath, ascii_append, ascii_append]
    rfl
  have hlen := decimal_length pid.toNat
  have hroot : (ascii "/proc/").length = 6 ∧ 0 ∉ ascii "/proc/" := by decide
  have hfile : (ascii "/cmdline").length = 8 ∧ 0 ∉ ascii "/cmdline" := by decide
  have hpid : 0 ∉ ascii (toString (asInt pid.toNat)) := by
    intro h
    obtain ⟨c, hc, hzero⟩ := List.mem_map.1 h
    rcases decimal_chars _ c hc with rfl | hdigit
    · exact absurd hzero (by decide)
    · have hrange : 48 ≤ c.toNat ∧ c.toNat ≤ 57 := Char.isDigit_iff_toNat.1 hdigit
      have hmod := congrArg UInt8.toNat hzero
      rw [UInt8.toNat_ofNat'] at hmod
      simp only [UInt8.toNat_zero] at hmod
      omega
  rw [heq]
  constructor
  · rw [List.length_append, List.length_append]
    omega
  · rw [List.mem_append, List.mem_append, not_or, not_or]
    exact ⟨⟨hroot.2, hpid⟩, hfile.2⟩

/-- The line with the name. -/
def processLine (ctx : LogContext) (name : List UInt8) : LogLine :=
  let pid := upperHex ctx.pid.toNat
  logLine ctx.pid ctx.tid .warning "PerfModuleInit" 64
    (ascii s!"GST performance process initialize {pid} named " ++ name ++ ascii "\n")

/-- A text that fits is what the buffer then holds. -/
theorem sprintf_fits {buffer text : List UInt8} (hlen : text.length < buffer.length) (hnul : 0 ∉ text) :
    ∃ buffer', sprintf buffer 0 text = .ok buffer' ∧ cString buffer' = text := by
  obtain ⟨buffer', hw⟩ := exists_write buffer 0 (text ++ [0])
    (by rw [List.length_append, List.length_singleton]; omega)
  refine ⟨buffer', by rw [sprintf, hw], cString_eq hnul ?_⟩
  have hprefix := write_prefix (t := []) List.nil_prefix hw
  rwa [List.nil_append] at hprefix

/-- What the constructor does with the array that the file's name has been read into. -/
theorem perfModuleInit_eq (ctx : LogContext) (fopen : List UInt8 → Option (List UInt8)) (stack : List UInt8) :
    perfModuleInit ctx fopen stack =
      match fopen (cmdlinePath ctx.pid) with
      | none => (printString stack).map fun name => [processLine ctx name]
      | some file => (write stack 0 (file.take (processNameLen - 1))).bind fun strProcessName =>
          (printString strProcessName).map fun name =>
            (if (file.take (processNameLen - 1)).length = 0 then
              [logLine ctx.pid ctx.tid .error "PerfModuleInit" 59 (ascii "Could not read process name\n")] else []) ++
              [processLine ctx name] := by
  obtain ⟨hlen, hnul⟩ := cmdlinePath_fits ctx.pid
  have hroom : (cmdlinePath ctx.pid).length < (List.replicate 80 (0 : UInt8)).length := by rwa [List.length_replicate]
  obtain ⟨cmd, hcmd, hstring⟩ := sprintf_fits hroom hnul
  have hprinted : ∀ level function line message, level ≠ .trace → gstSvpLogging ctx level function line message =
      some (logLine ctx.pid ctx.tid level function line message) := by
    intro level function line message hlevel
    rw [gstSvpLogging, if_neg fun h => hlevel h.2]
    rfl
  unfold perfModuleInit
  simp only [hcmd, Except.toOption, Option.bind_eq_bind, Option.bind_some, hstring]
  simp only [hprinted, ne_eq, reduceCtorEq, not_false_eq_true, Option.toList_some, Option.map_eq_bind]
  cases fopen (cmdlinePath ctx.pid) <;> rfl

/-- A string ends at its first NUL, whatever follows. -/
theorem cString_prefix {t o : List UInt8} (hnul : 0 ∈ t) (ht : t <+: o) : cString o = cString t := by
  obtain ⟨name, rest, rfl, hname⟩ := List.eq_append_cons_of_mem hnul
  have hstart : name ++ [0] <+: name ++ 0 :: rest := by
    rw [List.append_cons name 0 rest]
    exact List.prefix_append _ _
  rw [cString_eq hname hstart, cString_eq hname (hstart.trans ht)]

/-- **What the constructor prints as the process's name.** It stays inside its array, whatever that holds at
first, exactly if the file is there and has a NUL among the bytes that are read of it. Then it prints what
precedes that NUL, and nothing of the stack. -/
theorem perf_process_name (ctx : LogContext) (fopen : List UInt8 → Option (List UInt8)) :
    ((∀ stack : List UInt8, stack.length = processNameLen → (perfModuleInit ctx fopen stack).isSome) ↔
        ∃ file, fopen (cmdlinePath ctx.pid) = some file ∧ 0 ∈ file.take (processNameLen - 1)) ∧
      ∀ file, fopen (cmdlinePath ctx.pid) = some file → 0 ∈ file.take (processNameLen - 1) →
        ∀ stack : List UInt8, stack.length = processNameLen →
          perfModuleInit ctx fopen stack = some [processLine ctx (cString file)] := by
  have hprints : ∀ file, fopen (cmdlinePath ctx.pid) = some file → 0 ∈ file.take (processNameLen - 1) →
      ∀ stack : List UInt8, stack.length = processNameLen →
        perfModuleInit ctx fopen stack = some [processLine ctx (cString file)] := by
    intro file hfile hnul stack hstack
    obtain ⟨name, hw⟩ := exists_write stack 0 (file.take (processNameLen - 1))
      (by rw [List.length_take, hstack]; simp only [processNameLen]; omega)
    have hprefix : file.take (processNameLen - 1) <+: name := write_prefix (t := []) List.nil_prefix hw
    have hread : (file.take (processNameLen - 1)).length ≠ 0 := List.length_pos_of_mem hnul |>.ne'
    have hend : 0 ∈ name := List.IsPrefix.subset hprefix hnul
    rw [perfModuleInit_eq, hfile]
    simp only [hw, Option.bind_some, printString, if_pos hend, Option.map_some, if_neg hread,
      List.nil_append, cString_prefix hnul hprefix, cString_prefix hnul (List.take_prefix _ file)]
  refine ⟨⟨?_, ?_⟩, hprints⟩
  · intro hdefined
    -- an array with no NUL of its own
    have hstack := hdefined (List.replicate processNameLen 0xff) List.length_replicate
    have hfull : (0 : UInt8) ∉ List.replicate processNameLen 0xff := by simp
    rw [perfModuleInit_eq] at hstack
    cases hfile : fopen (cmdlinePath ctx.pid) with
    | none =>
      rw [hfile] at hstack
      rw [printString, if_neg hfull] at hstack
      exact absurd hstack (by simp)
    | some file =>
      rw [hfile] at hstack
      refine ⟨file, rfl, ?_⟩
      by_contra hnul
      obtain ⟨name, hw⟩ := Option.isSome_iff_exists.1 (Option.isSome_of_isSome_bind hstack)
      have hname : 0 ∉ name := by
        rw [← (write_eq_some.1 hw).2, List.take_zero, List.nil_append, List.mem_append, not_or]
        exact ⟨hnul, fun h => hfull (List.mem_of_mem_drop h)⟩
      simp only [hw, Option.bind_some, printString, if_neg hname] at hstack
      exact absurd hstack (by simp)
  · rintro ⟨file, hfile, hnul⟩ stack hstack
    rw [hprints file hfile hnul stack hstack]
    rfl

end GstSvpExt
