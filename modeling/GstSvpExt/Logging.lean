import GstSvpExt.Bytes
import GstSvpExt.HexDump

/-!
# Logging (`gst_svp_logging.cpp:27-80`)

| here | there |
| --- | --- |
| `ESVPLogLevel`, `bufSize` | `eSVPLogLevel`, `BUF_SIZE` (`gst_svp_logging.h:29-36`, `gst_svp_logging.cpp:56`) |
| `gstSvpLogging`   | `GstSvpLogging` (`:28-54`) |
| `debugBinaryData` | `DebugBinaryData` (`:57-80`); what it writes to its buffer is `formatDump`, its loop `dumpLoop` |

The writes of `sprintf` and the reads of `pData` are checked against the sizes of the two objects. A dump
of any size within the buffer is the name, the dump of the bytes and a line break, and a longer one leaves
the buffer (`formatDump_cases`). `dump_in_bounds` says for which names and sizes that
happens: the limit on the bytes is the difference of two `size_t`, of which the second is the name's length.
-/

namespace GstSvpExt

open Bytes HexDump

/-! ## Text -/

/-- A NUL-terminated string: its characters, without the NUL. -/
structure CString where
  chars : List UInt8
  noNul : 0 ∉ chars

def CString.strlen (s : CString) : Nat := s.chars.length

/-- The string that starts an object. -/
def cString (o : List UInt8) : List UInt8 := o.takeWhile (· ≠ 0)

def ascii (s : String) : List UInt8 := s.toList.map fun c => UInt8.ofNat c.toNat

/-- `%X`. -/
def upperHex (n : Nat) : String := String.ofList ((Nat.toDigits 16 n).map Char.toUpper)

/-- `%d` of an argument that is wider than `int`. -/
def asInt (n : Nat) : Int := (BitVec.ofNat 32 n).toInt

/-! ## `GstSvpLogging` -/

inductive ESVPLogLevel
  | trace
  | warning
  | error
deriving DecidableEq, Repr

inductive LogStream
  | stdout
  | stderr
deriving DecidableEq, Repr

/-- `s_VerboseLog`, and who is logging. -/
structure LogContext where
  verboseLog : Bool
  pid : UInt32
  tid : UInt32

/-- What `fprintf` prints: the header and `logMessage`. -/
structure LogLine where
  fpOut : LogStream
  header : List UInt8
  logMessage : List UInt8

/-- `LOG_MESSAGE_SIZE`. -/
def logMessageSize : Nat := 4096

/-- `GstSvpLogging` (`:28-54`) of a message that is already formatted; `vsnprintf` keeps what fits with a
NUL, and `%s` prints it up to its first NUL. -/
def gstSvpLogging (ctx : LogContext) (level : ESVPLogLevel) (function : String) (line : Nat)
    (message : List UInt8) : Option LogLine :=
  if ctx.verboseLog = false ∧ level = .trace then none
  else
    let pid := upperHex ctx.pid.toNat
    let tid := upperHex ctx.tid.toNat
    some {
      fpOut := if level = .error then .stderr else .stdout
      header := ascii s!"Process ID {pid} : TID {tid} : {function}({line}) : "
      logMessage := cString (message.take (logMessageSize - 1)) }

/-! ## `DebugBinaryData` -/

def bufSize : Nat := 8192

/-- `uint8_t buffer[BUF_SIZE]`, with whatever it holds at first. -/
structure DumpBuffer where
  bytes : List UInt8
  size : bytes.length = bufSize

/-- An access outside its object: a write of `len` characters at `off`, or a read of `pData[idx]`. -/
inductive DumpFault
  | write (off len : Nat)
  | read (idx : Nat)
deriving DecidableEq, Repr

/-- `sprintf (ptr, ..)` of the formatted `text`, with its NUL. -/
def sprintf (buffer : List UInt8) (ptr : Nat) (text : List UInt8) : Except DumpFault (List UInt8) :=
  match write buffer ptr (text ++ [0]) with
  | some buffer => .ok buffer
  | none => .error (.write ptr (text.length + 1))

/-- `pData[idx]`. -/
def readByte (pData : List UInt8) (idx : Nat) : Except DumpFault UInt8 :=
  match pData[idx]? with
  | some b => .ok b
  | none => .error (.read idx)

/-- `if(idx % 16 == 0) sprintf((char*)(ptr++), "\n")`. -/
def breakLine (idx ptr : Nat) (buffer : List UInt8) : Except DumpFault (Nat × List UInt8) :=
  if idx % 16 = 0 then do
    let buffer ← sprintf buffer ptr [newline]
    return (ptr + 1, buffer)
  else return (ptr, buffer)

/-- The loop (`:71-76`), from `idx` and `ptr` on. -/
def dumpLoop (pData : List UInt8) (nSize idx ptr : Nat) (buffer : List UInt8) :
    Except DumpFault (Nat × List UInt8) :=
  if idx < nSize then do
    let (ptr, buffer) ← breakLine idx ptr buffer
    let b ← readByte pData idx
    let buffer ← sprintf buffer ptr (group b)
    dumpLoop pData nSize (idx + 1) (ptr + 3) buffer
  else return (ptr, buffer)
termination_by nSize - idx

/-- `:69-77`. -/
def formatDump (szName : CString) (pData : List UInt8) (nSize : Nat) (buffer : List UInt8) :
    Except DumpFault (List UInt8) := do
  let buffer ← sprintf buffer 0 szName.chars
  let (ptr, buffer) ← dumpLoop pData nSize 0 szName.strlen buffer
  sprintf buffer ptr [newline]

/-- What a call logs: the report of a truncation, the message handed to `GstSvpLogging`, and what is
printed of it. -/
structure DumpLog where
  report : Option LogLine
  handed : List UInt8
  dump : Option LogLine

/-- `BUF_SIZE/4 - strlen(szName)`, a `size_t` of `w` bits. -/
def bufAvail (w : Nat) (szName : CString) : Nat :=
  (BitVec.ofNat w (bufSize / 4) - BitVec.ofNat w szName.strlen).toNat

/-- `:63-67`: the size the dump is limited to, and the report of a truncation. -/
def limitSize (ctx : LogContext) (w : Nat) (szName : CString) (nSize : Nat) : Nat × Option LogLine :=
  let avail := bufAvail w szName
  if nSize > avail then
    let printed := asInt avail
    (avail, gstSvpLogging ctx .trace "DebugBinaryData" 66 (ascii s!"Size truncated to {printed}\n"))
  else (nSize, none)

/-- `DebugBinaryData` (`:57-80`). -/
def debugBinaryData (ctx : LogContext) (w : Nat) (szName : CString) (pData : List UInt8) (nSize : Nat)
    (buffer : DumpBuffer) : Except DumpFault DumpLog := do
  let (nSize, report) := limitSize ctx w szName nSize
  let buffer ← formatDump szName pData nSize buffer.bytes
  let message := cString buffer
  return ⟨report, message, gstSvpLogging ctx .trace "DebugBinaryData" 79 message⟩

/-! ## Writing a text piece by piece -/

@[simp] theorem except_ok_bind {ε α γ : Type} (a : α) (f : α → Except ε γ) :
    ((Except.ok a : Except ε α) >>= f) = f a := rfl

@[simp] theorem except_error_bind {ε α γ : Type} (e : ε) (f : α → Except ε γ) :
    ((Except.error e : Except ε α) >>= f) = .error e := rfl

/-- Writing `u` after the text `t` of `buffer`: either `t ++ u` stands there with its NUL and `ptr` is
behind it, or it does not fit and a write left the buffer. -/
inductive Appends (buffer t u : List UInt8) : Except DumpFault (Nat × List UInt8) → Prop
  | ok {buffer' : List UInt8} (text : t ++ u ++ [0] <+: buffer') (size : buffer'.length = buffer.length) :
      Appends buffer t u (.ok ((t ++ u).length, buffer'))
  | fault {off len : Nat} (short : buffer.length < (t ++ u).length + 1) :
      Appends buffer t u (.error (.write off len))

section
variable {buffer t u v : List UInt8}

theorem prefix_of_nul (h : t ++ [0] <+: buffer) : t <+: buffer := (List.prefix_append t [0]).trans h

theorem sprintf_appends (ht : t <+: buffer) (u : List UInt8) :
    Appends buffer t u (sprintf buffer t.length u >>= fun b => .ok ((t ++ u).length, b)) := by
  unfold sprintf
  cases hw : write buffer t.length (u ++ [0]) with
  | some buffer' =>
    refine .ok ?_ (write_length hw)
    rw [List.append_assoc]
    exact write_prefix ht hw
  | none =>
    apply Appends.fault
    rw [write, ite_eq_right_iff] at hw
    have hout : ¬ t.length + (u ++ [0]).length ≤ buffer.length := fun h => absurd (hw h) (by simp)
    rw [List.length_append, List.length_singleton] at hout
    rw [List.length_append]
    omega

/-- One piece and then another. -/
theorem Appends.bind {r : Except DumpFault (Nat × List UInt8)} {f : Nat × List UInt8 → Except DumpFault (Nat × List UInt8)}
    (h : Appends buffer t u r)
    (hf : ∀ b, t ++ u ++ [0] <+: b → b.length = buffer.length → Appends b (t ++ u) v (f ((t ++ u).length, b))) :
    Appends buffer t (u ++ v) (r >>= f) := by
  cases h with
  | ok text size =>
    rw [except_ok_bind]
    cases hr : f ((t ++ u).length, _) with
    | ok p =>
      have h' := hf _ text size
      rw [hr] at h'
      cases h' with
      | ok text' size' =>
        rw [List.append_assoc t u v] at *
        exact .ok text' (size'.trans size)
    | error e =>
      have h' := hf _ text size
      rw [hr] at h'
      cases h' with
      | fault short =>
        rw [size, List.append_assoc t u v] at short
        exact .fault short
  | fault short =>
    rw [except_error_bind]
    apply Appends.fault
    rw [List.length_append] at short ⊢
    rw [List.length_append]
    omega

theorem sprintf_bind_appends {f : List UInt8 → Except DumpFault (Nat × List UInt8)} (ht : t <+: buffer)
    (hf : ∀ b, t ++ u ++ [0] <+: b → b.length = buffer.length → Appends b (t ++ u) v (f b)) :
    Appends buffer t (u ++ v) (sprintf buffer t.length u >>= f) := by
  have h := (sprintf_appends ht u).bind (f := fun p => f p.2) hf
  cases hs : sprintf buffer t.length u with
  | ok b => rwa [hs] at h
  | error e => rwa [hs] at h

/-- The line break that comes before the group of index `idx`. -/
def lineBreak (idx : Nat) : List UInt8 := if idx % 16 = 0 then [newline] else []

theorem breakLine_appends (ht : t ++ [0] <+: buffer) (idx : Nat) :
    Appends buffer t (lineBreak idx) (breakLine idx t.length buffer) := by
  unfold breakLine lineBreak
  split
  · have h := sprintf_appends (prefix_of_nul ht) [newline]
    rw [List.length_append] at h
    exact h
  · have h : Appends buffer t [] (.ok ((t ++ []).length, buffer)) := .ok (by simpa using ht) rfl
    rw [List.append_nil] at h
    exact h

/-- The loop writes the dump of the bytes that are left. -/
theorem dumpLoop_appends {pData bs : List UInt8} {nSize idx : Nat} (hn : nSize ≤ pData.length)
    (hbs : (pData.take nSize).drop idx = bs) (ht : t ++ [0] <+: buffer) :
    Appends buffer t (dump 16 idx bs) (dumpLoop pData nSize idx t.length buffer) := by
  induction bs generalizing idx t buffer with
  | nil =>
    have hidx : ¬ idx < nSize := by
      rw [List.drop_eq_nil_iff, List.length_take, Nat.min_eq_left hn] at hbs
      omega
    rw [dumpLoop, if_neg hidx]
    have h : Appends buffer t [] (.ok ((t ++ []).length, buffer)) := .ok (by simpa using ht) rfl
    rw [List.append_nil] at h
    exact h
  | cons b bs ih =>
    have hidx : idx < nSize := by
      have hlen := congrArg List.length hbs
      rw [List.length_drop, List.length_take, Nat.min_eq_left hn, List.length_cons] at hlen
      omega
    have hb : readByte pData idx = .ok b := by
      have hget : ((pData.take nSize).drop idx)[0]? = some b := by rw [hbs]; rfl
      rw [List.getElem?_drop, List.getElem?_take, Nat.add_zero, if_pos hidx] at hget
      rw [readByte, hget]
    have hrest : (pData.take nSize).drop (idx + 1) = bs := by
      rw [← List.tail_drop, hbs, List.tail_cons]
    rw [dumpLoop, if_pos hidx, dump, List.append_assoc]
    refine (breakLine_appends ht idx).bind ?_
    intro b₁ ht₁ _
    simp only [hb, except_ok_bind]
    refine sprintf_bind_appends (prefix_of_nul ht₁) ?_
    intro b₂ ht₂ _
    have hloop := ih hrest ht₂
    rw [List.length_append, group_length] at hloop
    exact hloop

/-! ## The whole dump -/

/-- The name, the dump of the bytes, and a line break. -/
def dumpText (szName : CString) (bs : List UInt8) : List UInt8 := szName.chars ++ (dump 16 0 bs ++ [newline])

theorem dumpText_length (szName : CString) (bs : List UInt8) :
    (dumpText szName bs).length = szName.strlen + 3 * bs.length + (bs.length + 15) / 16 + 1 := by
  have hwidth : 0 < 16 := by decide
  have h := dump_length hwidth 0 bs
  rw [dumpText, List.length_append, List.length_append, List.length_singleton, CString.strlen]
  omega

variable {szName : CString} {pData : List UInt8} {nSize : Nat}

/-- The text with its NUL, or a write outside the buffer because it is too long. -/
theorem formatDump_cases (szName : CString) (hn : nSize ≤ pData.length) (buffer : List UInt8) :
    (∃ b, formatDump szName pData nSize buffer = .ok b ∧ dumpText szName (pData.take nSize) ++ [0] <+: b ∧
        b.length = buffer.length) ∨
      ∃ off len, formatDump szName pData nSize buffer = .error (.write off len) ∧
        buffer.length < (dumpText szName (pData.take nSize)).length + 1 := by
  have h : Appends buffer [] (dumpText szName (pData.take nSize))
      (formatDump szName pData nSize buffer >>= fun b => .ok ((dumpText szName (pData.take nSize)).length, b)) := by
    unfold formatDump
    simp only [bind_assoc]
    refine sprintf_bind_appends List.nil_prefix ?_
    intro b₁ ht₁ _
    refine (dumpLoop_appends hn List.drop_zero ht₁).bind ?_
    intro b₂ ht₂ _
    have hlen : (dumpText szName (pData.take nSize)).length =
        ([] ++ szName.chars ++ dump 16 0 (pData.take nSize) ++ [newline]).length := by
      rw [dumpText, List.nil_append, List.append_assoc]
    rw [hlen]
    exact sprintf_appends (prefix_of_nul ht₂) [newline]
  cases hr : formatDump szName pData nSize buffer with
  | ok b =>
    rw [hr] at h
    cases h with
    | ok text size => exact .inl ⟨b, rfl, text, size⟩
  | error e =>
    rw [hr] at h
    cases h with
    | fault short => exact .inr ⟨_, _, rfl, short⟩

end

/-! ## The limit -/

section
variable {w : Nat} {szName : CString}

theorem bufAvail_eq (hw : bufSize ≤ 2 ^ w) (hname : szName.strlen < 2 ^ w) :
    bufAvail w szName = (2 ^ w - szName.strlen + bufSize / 4) % 2 ^ w := by
  have hquarter : bufSize / 4 < bufSize := by decide
  have hq : bufSize / 4 % 2 ^ w = bufSize / 4 := Nat.mod_eq_of_lt (by omega)
  rw [bufAvail, BitVec.toNat_sub, BitVec.toNat_ofNat, BitVec.toNat_ofNat, hq, Nat.mod_eq_of_lt hname]

theorem bufAvail_of_le (hw : bufSize ≤ 2 ^ w) (hl : szName.strlen ≤ bufSize / 4) :
    bufAvail w szName = bufSize / 4 - szName.strlen := by
  have hquarter : bufSize / 4 < bufSize := by decide
  have hsum : 2 ^ w - szName.strlen + bufSize / 4 = (bufSize / 4 - szName.strlen) + 2 ^ w := by omega
  rw [bufAvail_eq hw (by omega), hsum, Nat.add_mod_right, Nat.mod_eq_of_lt (by omega)]

/-- A name longer than a quarter of the buffer leaves no limit to speak of. -/
theorem bufAvail_of_lt (hw : bufSize ≤ 2 ^ w) (hname : szName.strlen < 2 ^ w) (hl : bufSize / 4 < szName.strlen) :
    bufAvail w szName = 2 ^ w + bufSize / 4 - szName.strlen := by
  have hsum : 2 ^ w - szName.strlen + bufSize / 4 = 2 ^ w + bufSize / 4 - szName.strlen := by omega
  rw [bufAvail_eq hw hname, hsum, Nat.mod_eq_of_lt (by omega)]

theorem limitSize_size (ctx : LogContext) (w : Nat) (szName : CString) (nSize : Nat) :
    (limitSize ctx w szName nSize).1 = min nSize (bufAvail w szName) := by
  unfold limitSize
  dsimp only
  split
  · exact (Nat.min_eq_right (by omega)).symm
  · exact (Nat.min_eq_left (by omega)).symm

/-- The call is the dump of at most `bufAvail` bytes. -/
theorem debugBinaryData_eq (ctx : LogContext) (w : Nat) (szName : CString) (pData : List UInt8) (nSize : Nat)
    (buffer : DumpBuffer) :
    debugBinaryData ctx w szName pData nSize buffer =
      formatDump szName pData (min nSize (bufAvail w szName)) buffer.bytes >>= fun b =>
        .ok ⟨(limitSize ctx w szName nSize).2, cString b,
          gstSvpLogging ctx .trace "DebugBinaryData" 79 (cString b)⟩ := by
  rw [← limitSize_size ctx w szName nSize]
  rfl

/-- No access leaves its object. -/
def InBounds {α : Type} (r : Except DumpFault α) : Prop := ∀ fault, r ≠ .error fault

/-- The call stays in bounds exactly if its text and the NUL fit into the buffer, and only ever a write
leaves them. -/
theorem debugBinaryData_inBounds (ctx : LogContext) (w : Nat) (szName : CString) (pData : List UInt8)
    (buffer : DumpBuffer) :
    (InBounds (debugBinaryData ctx w szName pData pData.length buffer) ↔
        (dumpText szName (pData.take (min pData.length (bufAvail w szName)))).length + 1 ≤ bufSize) ∧
      ∀ idx, debugBinaryData ctx w szName pData pData.length buffer ≠ .error (.read idx) := by
  rw [debugBinaryData_eq]
  rcases formatDump_cases szName (Nat.min_le_left pData.length (bufAvail w szName)) buffer.bytes with
    ⟨b, hb, htext, hlen⟩ | ⟨off, len, he, hshort⟩
  · rw [hb, except_ok_bind]
    have hfit := htext.length_le
    rw [List.length_append, List.length_singleton, hlen, buffer.size] at hfit
    exact ⟨⟨fun _ => hfit, fun _ _ h => absurd h (by simp)⟩, fun _ h => absurd h (by simp)⟩
  · rw [he, except_error_bind]
    rw [buffer.size] at hshort
    refine ⟨⟨fun h => absurd rfl (h (.write off len)), fun h => by omega⟩, fun _ h => absurd h (by simp)⟩

/-- **The dump stays in its buffer.** It does for every name of at most a quarter of the buffer, whatever
the size, and for a longer name only if name, bytes and line breaks fit as they are, since then nothing
is cut. No byte of `pData` beyond its size is read in any case. -/
theorem dump_in_bounds (ctx : LogContext) (w : Nat) (szName : CString) (pData : List UInt8) (buffer : DumpBuffer)
    (hw : bufSize ≤ 2 ^ w) (hname : szName.strlen < 2 ^ w) :
    (InBounds (debugBinaryData ctx w szName pData pData.length buffer) ↔
        szName.strlen ≤ bufSize / 4 ∨
          szName.strlen + 3 * pData.length + (pData.length + 15) / 16 + 2 ≤ bufSize) ∧
      ∀ idx, debugBinaryData ctx w szName pData pData.length buffer ≠ .error (.read idx) := by
  obtain ⟨hiff, hread⟩ := debugBinaryData_inBounds ctx w szName pData buffer
  refine ⟨hiff.trans ?_, hread⟩
  rw [dumpText_length, List.length_take, Nat.min_eq_left (Nat.min_le_left _ _)]
  have hquarter : bufSize / 4 = 2048 := by decide
  have hsize : bufSize = 8192 := rfl
  by_cases hl : szName.strlen ≤ bufSize / 4
  · rw [bufAvail_of_le hw hl]
    exact ⟨fun _ => .inl hl, fun _ => by omega⟩
  · rw [bufAvail_of_lt hw hname (by omega)]
    -- where the wrapped limit cuts at all, name and bytes are longer than the buffer
    by_cases hcut : pData.length ≤ 2 ^ w + bufSize / 4 - szName.strlen
    · rw [Nat.min_eq_left hcut]
      omega
    · rw [Nat.min_eq_right (by omega)]
      omega

end

/-- A string of `n` letters. -/
def letters (n : Nat) : CString where
  chars := List.replicate n 65
  noNul h := absurd (List.eq_of_mem_replicate h) (by decide)

def blankBuffer : DumpBuffer := ⟨List.replicate bufSize 0, List.length_replicate⟩

def quietLog : LogContext := ⟨false, 1, 1⟩

theorem dump_in_bounds_short : InBounds (debugBinaryData quietLog 64 (letters 3) [1, 2] 2 blankBuffer) :=
  (dump_in_bounds quietLog 64 (letters 3) [1, 2] blankBuffer (by decide) (by decide)).1.2 (.inl (by decide))

/-- 3000 letters and 2000 bytes: the limit is `2^64 - 952` bytes. -/
theorem dump_overflows :
    ¬ ∀ (ctx : LogContext) (w : Nat) (szName : CString) (pData : List UInt8) (buffer : DumpBuffer),
      bufSize ≤ 2 ^ w → szName.strlen < 2 ^ w →
        InBounds (debugBinaryData ctx w szName pData pData.length buffer) := by
  intro h
  have hlen : (letters 3000).strlen = 3000 := List.length_replicate
  have hin := h quietLog 64 (letters 3000) (List.replicate 2000 0) blankBuffer (by decide) (by rw [hlen]; decide)
  rw [(debugBinaryData_inBounds _ _ _ _ _).1, dumpText_length, hlen,
    bufAvail_of_lt (by decide) (by rw [hlen]; decide) (by rw [hlen]; decide), hlen] at hin
  simp only [List.length_take, List.length_replicate] at hin
  revert hin
  decide

end GstSvpExt
