import GstSvpExt.Logging

/-!
# What a hex dump prints (`gst_svp_logging.cpp:28-80`)

`DebugBinaryData` limits a dump to `BUF_SIZE/4 - strlen(szName)` bytes and reports what it drops;
`GstSvpLogging` then formats the text into `LOG_MESSAGE_SIZE` characters and drops the rest in silence. A
byte takes three characters and its share of a line break, so the second limit is met first by most dumps
(`dump_printed_in_full`).
-/

namespace GstSvpExt

open Bytes HexDump

/-! ## The text in the buffer -/

theorem digit_ne_nul : ∀ n < 16, digit n ≠ 0 := by decide

theorem nul_notMem_dump (width idx : Nat) (bs : List UInt8) : 0 ∉ dump width idx bs := by
  induction bs generalizing idx with
  | nil => exact List.not_mem_nil
  | cons b bs ih =>
    have hb := b.toNat_lt
    have hhi := digit_ne_nul (b.toNat / 16) (by omega)
    have hlo := digit_ne_nul (b.toNat % 16) (by omega)
    have hgroup : 0 ∉ group b := by
      have hblank : blank ≠ 0 := by decide
      simp [group, hhi.symm, hlo.symm, hblank.symm]
    have hbreak : (0 : UInt8) ∉ (if idx % width = 0 then [newline] else []) := by split <;> decide
    rw [dump, List.mem_append, List.mem_append]
    rintro ((h | h) | h)
    · exact hbreak h
    · exact hgroup h
    · exact ih (idx + 1) h

theorem nul_notMem_dumpText (szName : CString) (bs : List UInt8) : 0 ∉ dumpText szName bs := by
  rw [dumpText, List.mem_append, List.mem_append]
  rintro (h | h | h)
  · exact szName.noNul h
  · exact nul_notMem_dump 16 0 bs h
  · exact absurd h (by decide)

theorem cString_append {t : List UInt8} (ht : 0 ∉ t) (o : List UInt8) : cString (t ++ o) = t ++ cString o := by
  have hall : ∀ c ∈ t, decide (c ≠ 0) = true := fun c hc => by
    simpa using fun h0 : c = 0 => ht (h0 ▸ hc)
  rw [cString, List.takeWhile_append_of_pos hall]
  rfl

/-- The string that a text with its NUL is read as. -/
theorem cString_eq {t buffer : List UInt8} (ht : 0 ∉ t) (h : t ++ [0] <+: buffer) : cString buffer = t := by
  obtain ⟨rest, rfl⟩ := h
  rw [List.append_assoc, cString_append ht]
  simp [cString]

theorem cString_eq_self {t : List UInt8} (ht : 0 ∉ t) : cString t = t := by
  simpa [cString] using cString_append ht []

/-- A start without a NUL is part of the string. -/
theorem prefix_cString {t o : List UInt8} (ht : 0 ∉ t) (h : t <+: o) : t <+: cString o := by
  obtain ⟨rest, rfl⟩ := h
  rw [cString_append ht]
  exact List.prefix_append _ _

/-! ## The two limits -/

/-- The number of bytes that `DebugBinaryData` announces to dump. -/
def announced (szName : CString) (nSize : Nat) : Nat := min nSize (bufSize / 4 - szName.strlen)

/-- The bytes that can be read in a printed dump: from its digits, without the name and the line breaks. -/
def readBack (szName : CString) (line : LogLine) : List UInt8 :=
  decode (unbroken (line.logMessage.drop szName.strlen))

/-- The announced bytes are what is read in the printed message. -/
def Readable (szName : CString) (pData : List UInt8) (log : DumpLog) : Prop :=
  log.dump.map (readBack szName) = some (pData.take (announced szName pData.length))

/-- The message is printed whole, the announced bytes can be read in it, and what is missing was
reported. -/
structure PrintedInFull (szName : CString) (pData : List UInt8) (log : DumpLog) : Prop where
  whole : log.dump.map LogLine.logMessage = some log.handed
  readable : Readable szName pData log
  reported : pData.take (announced szName pData.length) ≠ pData →
    ∃ line, log.report = some line ∧ ascii "Size truncated" <+: line.logMessage

variable {ctx : LogContext} {w : Nat} {szName : CString}

theorem gstSvpLogging_verbose (hverbose : ctx.verboseLog = true) (level : ESVPLogLevel) (function : String)
    (line : Nat) (message : List UInt8) :
    ∃ l, gstSvpLogging ctx level function line message = some l ∧
      l.logMessage = cString (message.take (logMessageSize - 1)) := by
  refine ⟨_, if_neg ?_, rfl⟩
  rw [hverbose]
  exact fun h => absurd h.1 (by simp)

theorem ascii_append (s t : String) : ascii (s ++ t) = ascii s ++ ascii t := by
  simp [ascii]

/-- A truncation is reported. -/
theorem limitSize_report (hverbose : ctx.verboseLog = true) {nSize : Nat} (hcut : bufAvail w szName < nSize) :
    ∃ line, (limitSize ctx w szName nSize).2 = some line ∧ ascii "Size truncated" <+: line.logMessage := by
  obtain ⟨line, hline, hmessage⟩ := gstSvpLogging_verbose hverbose .trace "DebugBinaryData" 66
    (ascii s!"Size truncated to {asInt (bufAvail w szName)}\n")
  refine ⟨line, ?_, ?_⟩
  · rw [limitSize, if_pos hcut]
    exact hline
  · have hstart : ascii "Size truncated" <+: ascii "Size truncated to " := by decide
    have hshort : (ascii "Size truncated").length ≤ logMessageSize - 1 := by decide
    rw [hmessage]
    refine prefix_cString (by decide) (List.prefix_take_iff.2 ⟨hstart.trans ?_, hshort⟩)
    rw [ascii_append, ascii_append, List.append_assoc]
    exact List.prefix_append _ _

/-- A dump that is limited as announced: the text handed over, and as much of it as is printed. -/
theorem debugBinaryData_verbose (hverbose : ctx.verboseLog = true) (hw : bufSize ≤ 2 ^ w)
    (hl : szName.strlen ≤ bufSize / 4) (pData : List UInt8) (buffer : DumpBuffer) :
    ∃ line, debugBinaryData ctx w szName pData pData.length buffer =
        .ok ⟨(limitSize ctx w szName pData.length).2, dumpText szName (pData.take (announced szName pData.length)),
          some line⟩ ∧
      line.logMessage = (dumpText szName (pData.take (announced szName pData.length))).take (logMessageSize - 1) := by
  have hsize : min pData.length (bufAvail w szName) = announced szName pData.length := by
    rw [bufAvail_of_le hw hl, announced]
  rw [debugBinaryData_eq, hsize]
  have hn : announced szName pData.length ≤ pData.length := Nat.min_le_left _ _
  have hfit : (dumpText szName (pData.take (announced szName pData.length))).length + 1 ≤ bufSize := by
    have hquarter : bufSize / 4 = 2048 := by decide
    have hbuf : bufSize = 8192 := rfl
    have hlimit : announced szName pData.length ≤ bufSize / 4 - szName.strlen := Nat.min_le_right _ _
    rw [dumpText_length, List.length_take, Nat.min_eq_left hn]
    omega
  rcases formatDump_cases szName hn buffer.bytes with ⟨b, hb, htext, -⟩ | ⟨off, len, -, hshort⟩
  · rw [hb, except_ok_bind, cString_eq (nul_notMem_dumpText _ _) htext]
    obtain ⟨line, hline, hmessage⟩ := gstSvpLogging_verbose hverbose .trace "DebugBinaryData" 79
      (dumpText szName (pData.take (announced szName pData.length)))
    refine ⟨line, by rw [hline], hmessage.trans (cString_eq_self ?_)⟩
    exact fun h => nul_notMem_dumpText _ _ (List.mem_of_mem_take h)
  · rw [buffer.size] at hshort
    omega

/-- What can be read in the first characters of a dump. -/
theorem readBack_iff {bs : List UInt8} {line : LogLine} (hl : szName.strlen ≤ bufSize / 4)
    (hline : line.logMessage = (dumpText szName bs).take (logMessageSize - 1)) :
    readBack szName line = bs ↔ (dumpText szName bs).length ≤ logMessageSize + 1 := by
  have hquarter : bufSize / 4 = 2048 := by decide
  have hlimit : logMessageSize = 4096 := rfl
  have hbody : line.logMessage.drop szName.strlen =
      (dump 16 0 bs ++ [newline]).take (logMessageSize - 1 - szName.strlen) := by
    rw [hline, List.drop_take, dumpText, CString.strlen, List.drop_left]
  have hlen : (dumpText szName bs).length = szName.strlen + (dump 16 0 bs).length + 1 := by
    rw [dumpText, List.length_append, List.length_append, List.length_singleton, CString.strlen]
    omega
  rw [readBack, hbody, decode_cut_iff, hlen]
  constructor
  · rintro (rfl | h)
    · simp only [dump, List.length_nil]
      omega
    · omega
  · intro h
    right
    omega

/-- **A dump is printed in full** if and only if name, digits, blanks and line breaks fit into
`LOG_MESSAGE_SIZE`. All bytes can still be read if the last two characters are missing. -/
theorem dump_printed_in_full (ctx : LogContext) (w : Nat) (szName : CString) (pData : List UInt8)
    (buffer : DumpBuffer) (hverbose : ctx.verboseLog = true) (hw : bufSize ≤ 2 ^ w)
    (hl : szName.strlen ≤ bufSize / 4) :
    ∃ log, debugBinaryData ctx w szName pData pData.length buffer = .ok log ∧
      (PrintedInFull szName pData log ↔
        szName.strlen + 3 * announced szName pData.length + (announced szName pData.length + 15) / 16 + 1 ≤
          logMessageSize - 1) ∧
      (Readable szName pData log ↔
        szName.strlen + 3 * announced szName pData.length + (announced szName pData.length + 15) / 16 + 1 ≤
          logMessageSize + 1) := by
  obtain ⟨line, hlog, hmessage⟩ := debugBinaryData_verbose hverbose hw hl pData buffer
  have hn : announced szName pData.length ≤ pData.length := Nat.min_le_left _ _
  have hlen : (dumpText szName (pData.take (announced szName pData.length))).length =
      szName.strlen + 3 * announced szName pData.length + (announced szName pData.length + 15) / 16 + 1 := by
    rw [dumpText_length, List.length_take, Nat.min_eq_left hn]
  refine ⟨_, hlog, ?_, ?_⟩
  · rw [← hlen]
    constructor
    · intro h
      have hwhole := Option.some.inj h.whole
      rw [hmessage, List.take_eq_self_iff] at hwhole
      exact hwhole
    · intro h
      refine ⟨?_, ?_, ?_⟩
      · exact congrArg some (hmessage.trans (List.take_of_length_le h))
      · exact congrArg some ((readBack_iff hl hmessage).2 (by omega))
      · intro hne
        apply limitSize_report hverbose
        rw [bufAvail_of_le hw hl]
        apply Nat.lt_of_not_le
        intro hle
        rw [announced, Nat.min_eq_left hle, List.take_length] at hne
        exact hne rfl
  · rw [← hlen, ← readBack_iff hl hmessage]
    exact Option.some_inj

def verboseLog : LogContext := ⟨true, 1, 1⟩

/-- A short dump. -/
theorem dump_printed_in_full_short :
    ∃ log, debugBinaryData verboseLog 64 (letters 3) [1, 2] 2 blankBuffer = .ok log ∧
      PrintedInFull (letters 3) [1, 2] log := by
  obtain ⟨log, hlog, hfull, -⟩ := dump_printed_in_full verboseLog 64 (letters 3) [1, 2] blankBuffer rfl
    (by decide) (by decide)
  exact ⟨log, hlog, hfull.2 (by decide)⟩

/-- 1400 bytes without a name: within the announced 2048, but 4289 characters. -/
theorem dump_cut_in_silence :
    ¬ ∀ (ctx : LogContext) (w : Nat) (szName : CString) (pData : List UInt8) (buffer : DumpBuffer),
      ctx.verboseLog = true → bufSize ≤ 2 ^ w → szName.strlen ≤ bufSize / 4 →
        ∃ log, debugBinaryData ctx w szName pData pData.length buffer = .ok log ∧ PrintedInFull szName pData log := by
  intro h
  have hverbose : verboseLog.verboseLog = true := rfl
  have hw : bufSize ≤ 2 ^ 64 := by decide
  have hl : (letters 0).strlen ≤ bufSize / 4 := by decide
  obtain ⟨log, hlog, hfull⟩ := h verboseLog 64 (letters 0) (List.replicate 1400 0) blankBuffer hverbose hw hl
  obtain ⟨line, hlog', hmessage⟩ := debugBinaryData_verbose hverbose hw hl (List.replicate 1400 0) blankBuffer
  obtain rfl := Except.ok.inj (hlog'.symm.trans hlog)
  have hwhole := Option.some.inj hfull.whole
  rw [hmessage, List.take_eq_self_iff, dumpText_length, List.length_take, List.length_replicate] at hwhole
  revert hwhole
  decide

end GstSvpExt
