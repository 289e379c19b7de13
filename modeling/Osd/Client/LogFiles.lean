import Osd.Client.CoreTrace
import Osd.Client.CtmEvents
import Osd.Foundation.TextLines

/-!
# Trace log files

The texts that the system trace logger and the core trace logger write, and
what a reader gets back from them.  Output is buffered, so that a file holds
some beginning of the text that was printed to it.
-/

namespace Osd.Client

open Osd.Foundation

/-- `Overflow, missed %u events`. -/
def overflowFields (missed : Word) : List (List Byte) :=
  [bytesOf "Overflow,", bytesOf "missed", formatUnsigned missed.toNat,
    bytesOf "events"]

theorem overflowFields_unspaced (missed : Word) :
    ∀ field ∈ overflowFields missed, Unspaced field := by
  have hmissed := unspaced_formatUnsigned missed.toNat
  have hover : Unspaced (bytesOf "Overflow,") := by decide
  have hword : Unspaced (bytesOf "missed") := by decide
  have hevents : Unspaced (bytesOf "events") := by decide
  simp only [overflowFields, List.mem_cons, List.not_mem_nil, or_false]
  rintro field (rfl | rfl | rfl | rfl) <;> assumption

theorem ofNat_formatUnsigned (word : Word) :
    UInt16.ofNat (decimalValue (formatUnsigned word.toNat)) = word := by
  have hword := word.toNat_lt
  rw [decimalValue_formatUnsigned (by omega), UInt16.ofNat_toNat]

/-! ## System trace -/

namespace LogLine

/-- An event is `%08x %04x %016lx`. -/
def fields : LogLine → List (List Byte)
  | overflow missed => overflowFields missed
  | event timestamp eventId value =>
      [paddedHex 8 timestamp, paddedHex 4 eventId.toNat, paddedHex 16 value]

def read (line : List Byte) : Option LogLine :=
  match line.splitOn blank with
  | [timestamp, eventId, value] => do
      let timestamp ← readHex timestamp
      let eventId ← readHex eventId
      let value ← readHex value
      return event timestamp (UInt16.ofNat eventId) value
  | [_, _, missed, _] =>
      some (overflow (UInt16.ofNat (decimalValue missed)))
  | _ => none

def format : LineFormat LogLine where
  print line := spaced line.fields
  read := read

/-- The values fit into the types they are printed with. -/
def Fits : LogLine → Prop
  | overflow _ => True
  | event timestamp _ value => timestamp < 2 ^ 32 ∧ value < 2 ^ 64

theorem fields_unspaced (line : LogLine) :
    ∀ field ∈ line.fields, Unspaced field := by
  cases line with
  | overflow missed => exact overflowFields_unspaced missed
  | event timestamp eventId value =>
      simp only [fields, List.mem_cons, List.not_mem_nil, or_false]
      rintro field (rfl | rfl | rfl) <;> exact unspaced_paddedHex _ _

theorem Fits.reads {line : LogLine} (h : line.Fits) : format.Reads line where
  oneLine := lineFeed_not_mem_spaced line.fields_unspaced
  read_print := by
    have hsplit := fun hne => splitOn_spaced hne line.fields_unspaced
    cases line with
    | overflow missed =>
        have hfields := hsplit (List.cons_ne_nil _ _)
        simp only [format, read, hfields]
        simp only [fields, overflowFields, ofNat_formatUnsigned]
    | event timestamp eventId value =>
        have hfields := hsplit (List.cons_ne_nil _ _)
        have htimestamp : readHex (paddedHex 8 timestamp) = some timestamp :=
          readHex_paddedHex (h.1.trans_eq (by norm_num))
        have hid : readHex (paddedHex 4 eventId.toNat) = some eventId.toNat :=
          readHex_paddedHex eventId.toNat_lt
        have hvalue : readHex (paddedHex 16 value) = some value :=
          readHex_paddedHex (h.2.trans_eq (by norm_num))
        simp only [format, read, hfields]
        simp [fields, htimestamp, hid, hvalue]

end LogLine

def StmTrace.logLine : StmTrace → LogLine
  | .overflow missed => .overflow missed
  | .event timestamp eventId value => .event timestamp eventId value

section SystemTrace

variable {desc : OsdStmDesc} {ctx ctx' : Systracelogger}
  {packet : DiPacket} {event : StmTrace}

theorem Encodes.fits (hwidth : ValidWidth desc.valueWidthBit)
    (h : Encodes desc.valueWidthBit.toNat packet event) :
    event.logLine.Fits := by
  cases h with
  | overflow => trivial
  | event htimestamp hvalue _ _ _ =>
      have hpow : 2 ^ desc.valueWidthBit.toNat ≤ 2 ^ 64 :=
        Nat.pow_le_pow_right (by decide) (by
          rcases hwidth.cases with h | h | h <;> omega)
      exact ⟨htimestamp, hvalue.trans_le hpow⟩

theorem reads_of_encodes (hwidth : ValidWidth desc.valueWidthBit)
    {packets : List DiPacket} {events : List StmTrace}
    (h : List.Forall₂ (Encodes desc.valueWidthBit.toNat) packets events) :
    ∀ line ∈ events.map StmTrace.logLine, LogLine.format.Reads line := by
  induction h with
  | nil => simp
  | cons hfirst _ ih =>
      rw [List.map_cons, List.forall_mem_cons]
      exact ⟨(hfirst.fits hwidth).reads, ih⟩

theorem printEvent_fpEvent {file : List Byte} {ev : OsdStmEvent}
    (h : printEvent ctx file ev = .ok ctx') : ctx'.fpEvent = ctx.fpEvent := by
  obtain ⟨⟨buf, shouldFlush⟩, -, h⟩ := bind_eq_ok.mp h
  dsimp only at h
  split at h
  · obtain ⟨file', -, h⟩ := bind_eq_ok.mp h
    cases h
    rfl
  · cases h
    rfl

/-- One line for each event, whatever becomes of the print output. -/
theorem osdClStmHandleEvent_logs (hwidth : ValidWidth desc.valueWidthBit)
    (hencodes : Encodes desc.valueWidthBit.toNat packet event)
    (hbuffer : BufferOk ctx) :
    ∃ ctx', osdClStmHandleEvent desc ctx packet.toPacket =
        .ok (osdOk, ctx') ∧ BufferOk ctx' ∧
      ctx'.fpEvent = ctx.fpEvent.map (· ++ [event.logLine]) := by
  have hnarrow : ¬WidePrint ctx event.decoded := by
    rintro ⟨-, hprint, hwide⟩
    cases hencodes with
    | overflow => exact absurd hwide (by simp [StmTrace.decoded])
    | @event _ _ eventId _ _ hsmall _ _ =>
        have hid : eventId = 4 := by
          simpa [osdClStmIsPrintEvent, StmTrace.decoded] using hprint
        exact absurd (hsmall hid) (Nat.not_le.mpr hwide)
  obtain ⟨ctx', hhandled, hbuffer'⟩ := stmEventHandler_ok hbuffer hnarrow
  refine ⟨ctx', ?_, hbuffer', ?_⟩
  · unfold osdClStmHandleEvent
    rw [buildStmEvent_encodes hwidth hencodes, ok_bind, hhandled, ok_bind]
  · cases hencodes with
    | overflow hmissed _ _ =>
        rw [stmEventHandler_overflow hmissed] at hhandled
        cases hhandled
        rfl
    | @event timestamp value eventId _ _ _ _ _ =>
        by_cases hprint : ctx.fpSysprint = none ∨ osdClStmIsPrintEvent
            (StmTrace.event timestamp eventId value).decoded = false
        · rw [stmEventHandler_other rfl hprint] at hhandled
          cases hhandled
          rfl
        · rw [not_or, Bool.not_eq_false] at hprint
          obtain ⟨file, hfile⟩ := Option.ne_none_iff_exists'.mp hprint.1
          rw [stmEventHandler_print hprint.2 hfile] at hhandled
          rw [printEvent_fpEvent hhandled]
          rfl

theorem handleEvents_logs (hwidth : ValidWidth desc.valueWidthBit)
    {packets : List DiPacket} {events : List StmTrace}
    (hencodes :
      List.Forall₂ (Encodes desc.valueWidthBit.toNat) packets events)
    (hbuffer : BufferOk ctx) :
    ∃ ctx', handleEvents desc ctx packets = .ok ctx' ∧ BufferOk ctx' ∧
      ctx'.fpEvent = ctx.fpEvent.map (· ++ events.map StmTrace.logLine) := by
  induction hencodes generalizing ctx with
  | nil => exact ⟨ctx, rfl, hbuffer, by simp⟩
  | cons hfirst _ ih =>
      obtain ⟨next, hnext, hbuffer', hlog⟩ :=
        osdClStmHandleEvent_logs hwidth hfirst hbuffer
      obtain ⟨last, hlast, hbuffer'', hlogs⟩ := ih hbuffer'
      refine ⟨last, ?_, hbuffer'', ?_⟩
      · rw [handleEvents, hnext, ok_bind]
        exact hlast
      · rw [hlogs, hlog, Option.map_map]
        congr 1
        funext log
        simp

end SystemTrace

/-! ## Core trace -/

/-- A line of the core trace log: with a table of functions the events are
looked up in it. -/
inductive CtmLine where
  | overflow (missed : Word)
  | event (event : OsdCtmEvent)
  | function (line : TraceLine)

structure Coretracelogger where
  elf : OsdCoretraceloggerCtx
  fpLog : Option (List CtmLine)

def osdCoretraceloggerNew : Coretracelogger := ⟨⟨0, none⟩, none⟩

def osdCoretraceloggerSetLog (ctx : Coretracelogger)
    (fp : Option (List CtmLine)) : Coretracelogger :=
  { ctx with fpLog := fp }

def ctmEventHandler (behind : Behind) (ctx : Coretracelogger)
    (event : OsdCtmEvent) : Outcome Coretracelogger :=
  match ctx.fpLog with
  | none => .ok ctx
  | some log =>
      if event.overflow ≠ 0 then
        .ok { ctx with fpLog := some (log ++ [.overflow event.overflow]) }
      else
        match ctx.elf.funcs with
        | none => .ok { ctx with fpLog := some (log ++ [.event event]) }
        | some _ => do
            let lines ← printWithElfdata behind ctx.elf event
            .ok { ctx with fpLog := some (log ++ lines.map .function) }

/-- `osd_cl_ctm_handle_event` with the logger behind it, for one packet after
the other. -/
def handleCtmEvents (behind : Behind) (ctmDesc : OsdCtmDesc)
    (ctx : Coretracelogger) : List DiPacket → Outcome Coretracelogger
  | [] => .ok ctx
  | packet :: packets => do
      let (_, event) ← osdClCtmHandleEvent ctmDesc packet.toPacket
      let ctx ← ctmEventHandler behind ctx event
      handleCtmEvents behind ctmDesc ctx packets

inductive CtmEncodes (ctmDesc : OsdCtmDesc) (packet : DiPacket) :
    OsdCtmEvent → Prop
  | overflow {missed : Word} (hmissed : missed ≠ 0)
      (htypeSub : packet.typeSub = evOverflow)
      (hpayload : packet.payload = [missed]) :
      CtmEncodes ctmDesc packet ⟨0, 0, 0, 0, false, false, false, missed⟩
  | event {event : OsdCtmEvent} {above : Nat}
      (hvalues : CtmValues ctmDesc.addrWidthBit.toNat event)
      (htypeSub : packet.typeSub ≠ evOverflow)
      (hpayload : packet.payload =
        ctmPayload (ctmDesc.addrWidthBit.toNat / 16) event above) :
      CtmEncodes ctmDesc packet event

theorem buildCtmEvent_encodes {ctmDesc : OsdCtmDesc} {packet : DiPacket}
    {event : OsdCtmEvent} (hwidth : ValidWidth ctmDesc.addrWidthBit)
    (h : CtmEncodes ctmDesc packet event) :
    buildCtmEvent ctmDesc packet.toPacket = .ok event := by
  cases h with
  | @overflow missed hmissed htypeSub hpayload =>
      have hword : packet.payload[0]? = some missed := by
        rw [hpayload]
        rfl
      unfold buildCtmEvent
      rw [DiPacket.getTypeSub_toPacket, ok_bind, if_pos htypeSub,
        payloadSize_bind 1 (by decide), if_pos (by rw [hpayload]; rfl),
        payloadWord_toPacket hword, ok_bind]
  | event hvalues htypeSub hpayload =>
      exact build_ctmPayload hwidth htypeSub hvalues hpayload

def nameText (name : String) : List Byte := name.toUTF8.data.toList

theorem fromUTF8_nameText (name : String) :
    String.fromUTF8? ⟨(nameText name).toArray⟩ = some name := by
  have hbytes : (⟨(nameText name).toArray⟩ : ByteArray) = name.toUTF8 := rfl
  rw [hbytes, String.fromUTF8?]
  exact dif_pos (c := name.toUTF8.IsValidUTF8) name.isValidUTF8

namespace CtmLine

/-- A flag is printed with `%d`. -/
def flagField (flag : Bool) : List Byte := formatUnsigned flag.toNat

def fields : CtmLine → List (List Byte)
  | overflow missed => overflowFields missed
  | event ev =>
      [paddedHex 8 ev.timestamp, flagField ev.isModechange,
        flagField ev.isCall, flagField ev.isRet,
        formatUnsigned ev.mode.toNat, paddedHex 16 ev.pc,
        paddedHex 16 ev.npc]
  | function (.changeMode timestamp mode) =>
      [paddedHex 8 timestamp, bytesOf "change", bytesOf "mode", bytesOf "to",
        formatUnsigned mode.toNat]
  | function (.enter timestamp name) =>
      [paddedHex 8 timestamp, bytesOf "enter", nameText name]
  | function (.leave timestamp name) =>
      [paddedHex 8 timestamp, bytesOf "leave", nameText name]

def readFlag (field : List Byte) : Bool := decimalValue field = 1

def read (line : List Byte) : Option CtmLine :=
  match line.splitOn blank with
  | [timestamp, isModechange, isCall, isRet, mode, pc, npc] => do
      let timestamp ← readHex timestamp
      let pc ← readHex pc
      let npc ← readHex npc
      return event ⟨timestamp, npc, pc, UInt16.ofNat (decimalValue mode),
        readFlag isRet, readFlag isCall, readFlag isModechange, 0⟩
  | [timestamp, _, _, _, mode] => do
      let timestamp ← readHex timestamp
      return function (.changeMode timestamp
        (UInt16.ofNat (decimalValue mode)))
  | [_, _, missed, _] =>
      some (overflow (UInt16.ofNat (decimalValue missed)))
  | [timestamp, verb, name] => do
      let timestamp ← readHex timestamp
      let name ← String.fromUTF8? ⟨name.toArray⟩
      return function (if verb = bytesOf "enter" then .enter timestamp name
        else .leave timestamp name)
  | _ => none

def format : LineFormat CtmLine where
  print line := spaced line.fields
  read := read

/-- The values fit into the types they are printed with, and a name is one
word. -/
def Fits : CtmLine → Prop
  | overflow _ => True
  | event ev => CtmValues 64 ev
  | function (.changeMode timestamp _) => timestamp < 2 ^ 32
  | function (.enter timestamp name) =>
      timestamp < 2 ^ 32 ∧ Unspaced (nameText name)
  | function (.leave timestamp name) =>
      timestamp < 2 ^ 32 ∧ Unspaced (nameText name)

theorem readFlag_flagField (flag : Bool) :
    readFlag (flagField flag) = flag := by
  cases flag <;> decide

theorem Fits.unspaced {line : CtmLine} (h : line.Fits) :
    ∀ field ∈ line.fields, Unspaced field := by
  have hhex := unspaced_paddedHex
  have hnumber := unspaced_formatUnsigned
  match line with
  | overflow missed => exact overflowFields_unspaced missed
  | event ev =>
      simp only [fields, flagField, List.mem_cons, List.not_mem_nil, or_false]
      rintro field (rfl | rfl | rfl | rfl | rfl | rfl | rfl) <;>
        first | exact hhex _ _ | exact hnumber _
  | function (.changeMode timestamp mode) =>
      have hchange : Unspaced (bytesOf "change") := by decide
      have hmode : Unspaced (bytesOf "mode") := by decide
      have hto : Unspaced (bytesOf "to") := by decide
      simp only [fields, List.mem_cons, List.not_mem_nil, or_false]
      rintro field (rfl | rfl | rfl | rfl | rfl) <;>
        first | assumption | exact hhex _ _ | exact hnumber _
  | function (.enter timestamp name) =>
      have henter : Unspaced (bytesOf "enter") := by decide
      simp only [fields, List.mem_cons, List.not_mem_nil, or_false]
      rintro field (rfl | rfl | rfl)
      · exact hhex _ _
      · exact henter
      · exact h.2
  | function (.leave timestamp name) =>
      have hleave : Unspaced (bytesOf "leave") := by decide
      simp only [fields, List.mem_cons, List.not_mem_nil, or_false]
      rintro field (rfl | rfl | rfl)
      · exact hhex _ _
      · exact hleave
      · exact h.2

theorem readHex_timestamp {timestamp : Nat} (h : timestamp < 2 ^ 32) :
    readHex (paddedHex 8 timestamp) = some timestamp :=
  readHex_paddedHex (h.trans_eq (by norm_num))

theorem readHex_address {addr : Nat} (h : addr < 2 ^ 64) :
    readHex (paddedHex 16 addr) = some addr :=
  readHex_paddedHex (h.trans_eq (by norm_num))

theorem Fits.reads {line : CtmLine} (h : line.Fits) : format.Reads line where
  oneLine := lineFeed_not_mem_spaced h.unspaced
  read_print := by
    have hsplit := fun hne => splitOn_spaced hne h.unspaced
    match line with
    | overflow missed =>
        have hfields := hsplit (List.cons_ne_nil _ _)
        simp only [format, read, hfields]
        simp only [fields, overflowFields, ofNat_formatUnsigned]
    | event ev =>
        have hfields := hsplit (List.cons_ne_nil _ _)
        have hvalues : CtmValues 64 ev := h
        have hoverflow := hvalues.overflow
        obtain ⟨timestamp, npc, pc, mode, isRet, isCall, isModechange,
          overflow⟩ := ev
        dsimp only at hoverflow
        simp only [format, read, hfields]
        simp [fields, readHex_timestamp hvalues.timestamp,
          readHex_address hvalues.pc, readHex_address hvalues.npc,
          readFlag_flagField, ofNat_formatUnsigned, hoverflow]
    | function (.changeMode timestamp mode) =>
        have hfields := hsplit (List.cons_ne_nil _ _)
        simp only [format, read, hfields]
        simp [fields, readHex_timestamp h, ofNat_formatUnsigned]
    | function (.enter timestamp name) =>
        have hfields := hsplit (List.cons_ne_nil _ _)
        simp only [format, read, hfields]
        simp [fields, readHex_timestamp h.1, fromUTF8_nameText]
    | function (.leave timestamp name) =>
        have hfields := hsplit (List.cons_ne_nil _ _)
        have hother : bytesOf "leave" ≠ bytesOf "enter" := by decide
        simp only [format, read, hfields]
        simp [fields, readHex_timestamp h.1, fromUTF8_nameText, hother]

end CtmLine

section FunctionLines

variable {behind : Behind} {funcs : List ElfFunctionTable}
  {event : OsdCtmEvent} {lines : List TraceLine}

def OneWordNames (funcs : List ElfFunctionTable) : Prop :=
  ∀ entry ∈ funcs, Unspaced (nameText entry.name)

def AllFit (lines : List TraceLine) : Prop :=
  ∀ line ∈ lines, (CtmLine.function line).Fits

theorem AllFit.nil : AllFit [] := by simp [AllFit]

theorem funcName_unspaced (hnames : OneWordNames funcs) {f : Nat}
    {name : String} (h : funcName funcs f = .ok name) :
    Unspaced (nameText name) := by
  unfold funcName at h
  split at h
  · cases h
  · rename_i entry hentry
    cases h
    exact hnames entry (List.mem_of_getElem? hentry)

theorem printCall_fits (htime : event.timestamp < 2 ^ 32)
    (hnames : OneWordNames funcs) {count f : Nat}
    (h : printCall behind funcs event count f = .ok lines) :
    AllFit lines := by
  induction count generalizing f with
  | zero =>
      cases h
      exact .nil
  | succ count ih =>
      obtain ⟨entered, -, h⟩ := bind_eq_ok.mp h
      split at h
      · obtain ⟨name, hname, h⟩ := bind_eq_ok.mp h
        cases h
        have hfits := funcName_unspaced hnames hname
        simpa [AllFit, CtmLine.Fits] using ⟨htime, hfits⟩
      · exact ih h

theorem printLeave_fits (htime : event.timestamp < 2 ^ 32)
    (hnames : OneWordNames funcs) {dest : Option Nat} {f : Nat}
    (h : printLeave funcs event dest f = .ok lines) : AllFit lines := by
  obtain ⟨name, hname, h⟩ := bind_eq_ok.mp h
  have hfits := funcName_unspaced hnames hname
  cases h
  split
  · simpa [AllFit, CtmLine.Fits] using ⟨htime, hfits⟩
  · exact .nil

theorem printReturn_fits (htime : event.timestamp < 2 ^ 32)
    (hnames : OneWordNames funcs) {dest : Option Nat} {count f : Nat}
    (h : printReturn behind funcs event dest count f = .ok lines) :
    AllFit lines := by
  induction count generalizing f lines with
  | zero =>
      cases h
      exact .nil
  | succ count ih =>
      obtain ⟨entered, -, h⟩ := bind_eq_ok.mp h
      split at h
      · obtain ⟨name, hname, h⟩ := bind_eq_ok.mp h
        cases h
        have hfits := funcName_unspaced hnames hname
        simpa [AllFit, CtmLine.Fits] using ⟨htime, hfits⟩
      · obtain ⟨above, -, h⟩ := bind_eq_ok.mp h
        split at h
        · exact printLeave_fits htime hnames h
        · split at h
          · obtain ⟨left, hleft, h⟩ := bind_eq_ok.mp h
            obtain ⟨more, hmore, h⟩ := bind_eq_ok.mp h
            cases h
            intro line hline
            rcases List.mem_append.mp hline with hline | hline
            · exact printLeave_fits htime hnames hleft line hline
            · exact ih hmore line hline
          · exact ih h

theorem printWithElfdata_fits {ctx : OsdCoretraceloggerCtx}
    (htime : event.timestamp < 2 ^ 32)
    (hnames : ∀ table, ctx.funcs = some table → OneWordNames table.toList)
    (h : printWithElfdata behind ctx event = .ok lines) : AllFit lines := by
  unfold printWithElfdata at h
  split at h
  · cases h
  · rename_i table htable
    have hnames := hnames table htable
    dsimp only at h
    split at h
    · cases h
      simpa [AllFit, CtmLine.Fits] using htime
    · split at h
      · exact printCall_fits htime hnames h
      · split at h
        · obtain ⟨dest, -, h⟩ := bind_eq_ok.mp h
          exact printReturn_fits htime hnames h
        · cases h
          exact .nil

end FunctionLines

/-! ## The log of a run -/

/-- The line of an event where no table of functions is set. -/
def eventLine (event : OsdCtmEvent) : CtmLine :=
  if event.overflow ≠ 0 then .overflow event.overflow else .event event

section CoreTraceRun

variable {behind : Behind} {ctmDesc : OsdCtmDesc}
  {ctx ctx' : Coretracelogger} {log : List CtmLine}
  {packets : List DiPacket} {events : List OsdCtmEvent}

/-- What is added to the log: lines that can be read back, and the event
itself where no table of functions is set. -/
structure Adds (ctx : Coretracelogger) (events : List OsdCtmEvent)
    (lines : List CtmLine) : Prop where
  fits : ∀ line ∈ lines, line.Fits
  unresolved : ctx.elf.funcs = none → lines = events.map eventLine

def NamesFit (ctx : Coretracelogger) : Prop :=
  ∀ table, ctx.elf.funcs = some table → OneWordNames table.toList

theorem CtmEncodes.eventLine_fits {packet : DiPacket} {event : OsdCtmEvent}
    (hwidth : ValidWidth ctmDesc.addrWidthBit)
    (h : CtmEncodes ctmDesc packet event) : (eventLine event).Fits := by
  cases h with
  | overflow hmissed _ _ =>
      rw [eventLine, if_pos hmissed]
      trivial
  | event hvalues _ _ =>
      have hpow : 2 ^ ctmDesc.addrWidthBit.toNat ≤ 2 ^ 64 :=
        Nat.pow_le_pow_right (by decide) (by
          rcases hwidth.cases with h | h | h <;> omega)
      rw [eventLine, if_neg (not_not.mpr hvalues.overflow)]
      exact ⟨hvalues.timestamp, hvalues.npc.trans_le hpow,
        hvalues.pc.trans_le hpow, hvalues.mode, hvalues.overflow⟩

theorem CtmEncodes.timestamp_lt {packet : DiPacket} {event : OsdCtmEvent}
    (h : CtmEncodes ctmDesc packet event) : event.timestamp < 2 ^ 32 := by
  cases h with
  | overflow => norm_num
  | event hvalues _ _ => exact hvalues.timestamp

theorem ctmEventHandler_logs (hwidth : ValidWidth ctmDesc.addrWidthBit)
    {packet : DiPacket} {event : OsdCtmEvent}
    (hencodes : CtmEncodes ctmDesc packet event) (hnames : NamesFit ctx)
    (hlog : ctx.fpLog = some log)
    (h : ctmEventHandler behind ctx event = .ok ctx') :
    ctx'.elf = ctx.elf ∧
      ∃ lines, ctx'.fpLog = some (log ++ lines) ∧ Adds ctx [event] lines := by
  have hline := hencodes.eventLine_fits hwidth
  unfold ctmEventHandler at h
  rw [hlog] at h
  dsimp only at h
  split at h
  · rename_i hover
    cases h
    have heq : eventLine event = .overflow event.overflow := by
      rw [eventLine, if_pos hover]
    refine ⟨rfl, _, rfl, by simpa [← heq] using hline, fun _ => ?_⟩
    rw [List.map_singleton, heq]
  · rename_i hover
    have heq : eventLine event = .event event := by
      rw [eventLine, if_neg hover]
    split at h
    · cases h
      refine ⟨rfl, _, rfl, by simpa [← heq] using hline, fun _ => ?_⟩
      rw [List.map_singleton, heq]
    · rename_i table htable
      obtain ⟨lines, hlines, h⟩ := bind_eq_ok.mp h
      cases h
      have hfits := printWithElfdata_fits hencodes.timestamp_lt hnames hlines
      refine ⟨rfl, _, rfl, ?_, fun hnone => ?_⟩
      · intro line hmem
        obtain ⟨traceLine, htraced, rfl⟩ := List.mem_map.mp hmem
        exact hfits traceLine htraced
      · rw [htable] at hnone
        cases hnone

theorem handleCtmEvents_logs (hwidth : ValidWidth ctmDesc.addrWidthBit)
    (hencodes : List.Forall₂ (CtmEncodes ctmDesc) packets events)
    (hnames : NamesFit ctx) (hlog : ctx.fpLog = some log)
    (h : handleCtmEvents behind ctmDesc ctx packets = .ok ctx') :
    ∃ lines, ctx'.fpLog = some (log ++ lines) ∧ Adds ctx events lines := by
  induction hencodes generalizing ctx log with
  | nil =>
      cases h
      exact ⟨[], by simpa using hlog, by simp, fun _ => rfl⟩
  | @cons packet event packets events hfirst _ ih =>
      rw [handleCtmEvents, osdClCtmHandleEvent,
        buildCtmEvent_encodes hwidth hfirst, ok_bind, ok_bind] at h
      obtain ⟨next, hnext, h⟩ := bind_eq_ok.mp h
      obtain ⟨helf, added, hadded, hadds⟩ :=
        ctmEventHandler_logs hwidth hfirst hnames hlog hnext
      have hnames' : NamesFit next := by
        unfold NamesFit
        rw [helf]
        exact hnames
      obtain ⟨more, hmore, hrest⟩ := ih hnames' hadded h
      refine ⟨added ++ more, by rw [hmore, List.append_assoc], ?_, ?_⟩
      · intro line hline
        rcases List.mem_append.mp hline with hline | hline
        · exact hadds.fits line hline
        · exact hrest.fits line hline
      · intro hnone
        rw [hadds.unresolved hnone, hrest.unresolved (by rw [helf, hnone])]
        rfl

theorem handleCtmEvents_returns (hwidth : ValidWidth ctmDesc.addrWidthBit)
    (hencodes : List.Forall₂ (CtmEncodes ctmDesc) packets events)
    (hraw : ctx.elf.funcs = none) :
    Returns (handleCtmEvents behind ctmDesc ctx packets) := by
  induction hencodes generalizing ctx with
  | nil => exact returns_ok ctx
  | @cons packet event packets events hfirst _ ih =>
      have hnext : ∃ next, ctmEventHandler behind ctx event = .ok next ∧
          next.elf = ctx.elf := by
        unfold ctmEventHandler
        rw [hraw]
        cases ctx.fpLog with
        | none => exact ⟨_, rfl, rfl⟩
        | some log =>
            dsimp only
            split <;> exact ⟨_, rfl, rfl⟩
      obtain ⟨next, hnext, helf⟩ := hnext
      rw [handleCtmEvents, osdClCtmHandleEvent,
        buildCtmEvent_encodes hwidth hfirst, ok_bind, ok_bind]
      dsimp only
      rw [hnext, ok_bind]
      exact ih (helf ▸ hraw)

end CoreTraceRun

def callEvent : OsdCtmEvent where
  timestamp := 7
  npc := 0x104
  pc := 0x100
  mode := 3
  isRet := false
  isCall := true
  isModechange := false
  overflow := 0

def callPacket : DiPacket :=
  ⟨1, 2, eventFlags, ctmPayload 1 callEvent 0, by
    rw [length_ctmPayload]
    decide⟩

end Osd.Client
