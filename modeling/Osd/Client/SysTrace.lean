import Osd.Client.StmEvents

/-!
# System trace printing

The characters of the print events reach the sysprint file in order.  Between
two events the file ends with a line, and the rest is in the print buffer.
-/

namespace Osd.Client

open Osd.Foundation

/-! ## The print buffer -/

/-- The buffer holds the text, terminated by zero, or it is not allocated. -/
structure OsdClStmPrintBuf.Holds (buf : OsdClStmPrintBuf)
    (text : List Byte) : Prop where
  size : buf.buf.length = buf.lenBuf
  length : buf.lenStr = text.length
  text : buf.buf.take buf.lenStr = text
  room : buf.lenStr + 1 ≤ buf.lenBuf ∧ buf.buf[buf.lenStr]? = some 0 ∨
    buf.lenStr = 0 ∧ buf.lenBuf = 0

theorem holds_empty : OsdClStmPrintBuf.Holds ⟨[], 0, 0⟩ [] where
  size := rfl
  length := rfl
  text := rfl
  room := .inr ⟨rfl, rfl⟩

section

variable {buf : OsdClStmPrintBuf} {text : List Byte}

theorem length_reallocBytes (bytes : List Byte) (size : Nat) :
    (reallocBytes bytes size).length = size := by
  unfold reallocBytes
  rw [List.length_append, List.length_take, List.length_replicate]
  omega

theorem take_reallocBytes {bytes : List Byte} {size count : Nat}
    (hsize : bytes.length ≤ size) (hcount : count ≤ bytes.length) :
    (reallocBytes bytes size).take count = bytes.take count := by
  unfold reallocBytes
  rw [List.take_of_length_le hsize, List.take_append_of_le_length hcount]

theorem OsdClStmPrintBuf.Holds.grow (h : buf.Holds text) :
    (growPrintBuf buf).lenStr = text.length ∧
      (growPrintBuf buf).buf.length = (growPrintBuf buf).lenBuf ∧
      text.length + 2 ≤ (growPrintBuf buf).lenBuf ∧
      (growPrintBuf buf).buf.take text.length = text := by
  have hsize := h.size
  have hlength := h.length
  have htext := h.text
  have hroom : buf.lenStr ≤ buf.lenBuf := by
    rcases h.room with ⟨hroom, -⟩ | ⟨hroom, -⟩ <;> omega
  have hlast : buf.lenStr + 1 ≤ buf.lenBuf + 4 * 1024 := by omega
  unfold growPrintBuf
  dsimp only
  split
  · refine ⟨hlength, length_reallocBytes _ _, ?_, ?_⟩
    · dsimp only
      omega
    · dsimp only
      rw [take_reallocBytes (by omega) (by omega), ← hlength, htext]
  · refine ⟨hlength, hsize, by omega, ?_⟩
    rw [← hlength, htext]

theorem osdClStmAddToPrintBuf_ok (h : buf.Holds text) {ev : OsdStmEvent}
    (hvalue : ev.value ≤ 255) :
    ∃ added, osdClStmAddToPrintBuf ev buf =
        .ok (added, decide (UInt8.ofNat ev.value = newline)) ∧
      added.Holds (text ++ [UInt8.ofNat ev.value]) := by
  obtain ⟨hlength, hsize, hroom, htext⟩ := h.grow
  have hold := h.length
  generalize hgrown : growPrintBuf buf = grown at hlength hsize hroom htext
  generalize hc : UInt8.ofNat ev.value = c
  have hsplit : splice (splice grown.buf text.length [c]) (text.length + 1)
      [0] = splice grown.buf text.length ([c] ++ [0]) :=
    splice_append (by simp; omega)
  have hbytes : splice grown.buf text.length ([c] ++ [0]) =
      (text ++ [c]) ++ 0 :: grown.buf.drop (text.length + 2) := by
    rw [splice, htext]
    simp
  have hfirst : (splice grown.buf text.length [c]).length =
      grown.buf.length := length_splice (by simp; omega)
  refine ⟨⟨(text ++ [c]) ++ 0 :: grown.buf.drop (text.length + 2),
    grown.lenBuf, text.length + 1⟩, ?_, ?_, ?_, ?_, .inl ⟨?_, ?_⟩⟩
  · unfold osdClStmAddToPrintBuf
    dsimp only
    rw [hgrown, hold, assertThat_bind hvalue, hc, Nat.add_sub_cancel,
      storeBytes_eq (by simp; omega), ok_bind,
      storeBytes_eq (by rw [hfirst]; simp; omega), ok_bind, hsplit, hbytes]
  · simp only [List.length_append, List.length_cons, List.length_drop]
    simp
    omega
  · simp
  · dsimp only
    rw [List.take_append_of_le_length (by simp), List.take_of_length_le (by simp)]
  · dsimp only
    omega
  · dsimp only
    rw [List.getElem?_append_right (by simp)]
    simp

end

/-! ## Events and their packets -/

/-- What the module traces. -/
inductive StmTrace where
  | overflow (missed : Word)
  | event (timestamp : Nat) (eventId : Word) (value : Nat)

inductive Encodes (width : Nat) (packet : DiPacket) : StmTrace → Prop
  | overflow {missed : Word} (hmissed : missed ≠ 0)
      (htypeSub : packet.typeSub = evOverflow)
      (hpayload : packet.payload = [missed]) :
      Encodes width packet (.overflow missed)
  | event {timestamp value : Nat} {eventId : Word}
      (htimestamp : timestamp < 2 ^ 32) (hvalue : value < 2 ^ width)
      (hprint : eventId = 4 → value ≤ 255)
      (htypeSub : packet.typeSub ≠ evOverflow)
      (hpayload : packet.payload = wordsOfValue 2 timestamp ++
        eventId :: wordsOfValue (width / 16) value) :
      Encodes width packet (.event timestamp eventId value)

namespace StmTrace

def decoded : StmTrace → OsdStmEvent
  | .overflow missed => ⟨0, 0, 0, missed⟩
  | .event timestamp eventId value => ⟨timestamp, eventId, value, 0⟩

def printed : StmTrace → List Byte
  | .overflow _ => []
  | .event _ eventId value =>
      if eventId = 4 then [UInt8.ofNat value] else []

def missed : StmTrace → Nat
  | .overflow missed => missed.toNat
  | .event _ _ _ => 0

def traced : StmTrace → Nat
  | .overflow _ => 0
  | .event _ _ _ => 1

end StmTrace

def printedText (events : List StmTrace) : List Byte :=
  events.flatMap StmTrace.printed

def statsOf (events : List StmTrace) : EventStats where
  overflowedEvents := (events.map StmTrace.missed).sum % 2 ^ 32
  sysprintEvents := (printedText events).length % 2 ^ 32
  traceEvents := (events.map StmTrace.traced).sum % 2 ^ 32

theorem buildStmEvent_encodes {desc : OsdStmDesc}
    (hwidth : ValidWidth desc.valueWidthBit) {packet : DiPacket}
    {event : StmTrace}
    (h : Encodes desc.valueWidthBit.toNat packet event) :
    buildStmEvent desc packet.toPacket = .ok event.decoded := by
  cases h with
  | @overflow missed hmissed htypeSub hpayload =>
      have hword : packet.payload[0]? = some missed := by
        rw [hpayload]
        rfl
      rw [buildStmEvent_overflow htypeSub, if_pos (by rw [hpayload]; rfl),
        payloadWord_toPacket hword, ok_bind]
      rfl
  | @event timestamp value eventId htimestamp hvalue hprint htypeSub hpayload =>
      refine buildStmEvent_trace hwidth htypeSub ⟨?_, rfl⟩
      have hlow := wordsValue_wordsOfValue 2 timestamp htimestamp
      have hpow : 65536 ^ (desc.valueWidthBit.toNat / 16) =
          2 ^ desc.valueWidthBit.toNat := by
        rcases hwidth.cases with h | h | h <;> rw [h] <;> norm_num
      have hhigh := wordsValue_wordsOfValue (desc.valueWidthBit.toNat / 16)
        value (hvalue.trans_eq hpow.symm)
      exact ⟨_, _, _, hpayload, length_wordsOfValue _ _, hlow.symm,
        hhigh.symm⟩

/-! ## The logger -/

/-- The file ends with a line and the buffer holds what follows it. -/
structure Printed (ctx : Systracelogger) (text file rest : List Byte) :
    Prop where
  sysprint : ctx.fpSysprint = some file
  split : file ++ rest = text
  lines : file = [] ∨ file.getLast? = some newline
  lastLine : newline ∉ rest
  buffer : ctx.sysprintBuf.Holds rest

structure Logged (ctx : Systracelogger) (events : List StmTrace)
    (file rest : List Byte) : Prop where
  printed : Printed ctx (printedText events) file rest
  stats : ctx.stats = statsOf events

theorem statsOf_snoc {width : Nat} {packet : DiPacket} {event : StmTrace}
    (h : Encodes width packet event) (events : List StmTrace) :
    (statsOf events).count event.decoded = statsOf (events ++ [event]) := by
  unfold EventStats.count statsOf printedText
  cases h with
  | overflow hmissed _ _ =>
      simp [StmTrace.decoded, hmissed, StmTrace.printed, StmTrace.missed,
        StmTrace.traced]
  | @event timestamp value eventId _ _ _ _ _ =>
      by_cases hid : eventId = 4
      · simp [StmTrace.decoded, StmTrace.printed, StmTrace.missed,
          StmTrace.traced, osdClStmIsPrintEvent, hid]
      · simp [StmTrace.decoded, StmTrace.printed, StmTrace.missed,
          StmTrace.traced, osdClStmIsPrintEvent, hid]

theorem printedText_snoc (events : List StmTrace) (event : StmTrace) :
    printedText (events ++ [event]) = printedText events ++ event.printed := by
  simp [printedText]

section

variable {ctx ctx' : Systracelogger} {text file rest : List Byte}

theorem flushSysprint_eq {buf : OsdClStmPrintBuf} (h : buf.Holds text)
    (file : List Byte) : flushSysprint file buf = .ok (file ++ text) := by
  have hsize := h.size
  have hfits : 0 + buf.lenStr ≤ buf.buf.length := by
    rcases h.room with ⟨hroom, -⟩ | ⟨hroom, -⟩ <;> omega
  unfold flushSysprint
  rw [loadBytes_eq hfits, ok_bind, List.drop_zero, h.text]

theorem Printed.congr (h : Printed ctx text file rest)
    (hfile : ctx'.fpSysprint = ctx.fpSysprint)
    (hbuffer : ctx'.sysprintBuf = ctx.sysprintBuf) :
    Printed ctx' text file rest where
  sysprint := hfile.trans h.sysprint
  split := h.split
  lines := h.lines
  lastLine := h.lastLine
  buffer := hbuffer ▸ h.buffer

theorem Printed.print (h : Printed ctx text file rest) {event : OsdStmEvent}
    (hvalue : event.value ≤ 255) :
    ∃ ctx' file' rest', printEvent ctx file event = .ok ctx' ∧
      Printed ctx' (text ++ [UInt8.ofNat event.value]) file' rest' ∧
      ctx'.stats = ctx.stats := by
  obtain ⟨added, hadded, hholds⟩ := osdClStmAddToPrintBuf_ok h.buffer hvalue
  unfold printEvent
  rw [hadded, ok_bind]
  dsimp only
  by_cases hnewline : UInt8.ofNat event.value = newline
  · rw [decide_eq_true hnewline, if_pos rfl, flushSysprint_eq hholds, ok_bind]
    refine ⟨_, _, [], rfl, ⟨rfl, ?_, .inr ?_, by simp, holds_empty⟩, rfl⟩
    · rw [List.append_nil, ← List.append_assoc, h.split]
    · rw [hnewline, ← List.append_assoc, List.getLast?_concat]
  · rw [decide_eq_false hnewline, if_neg (by simp)]
    refine ⟨_, file, rest ++ [UInt8.ofNat event.value], rfl,
      ⟨h.sysprint, ?_, h.lines, ?_, hholds⟩, rfl⟩
    · rw [← List.append_assoc, h.split]
    · rw [List.mem_append, not_or]
      exact ⟨h.lastLine, by simpa using fun hc => hnewline hc.symm⟩

theorem osdSystraceloggerFree_eq (h : Printed ctx text file rest) :
    osdSystraceloggerFree ctx = .ok (some text) := by
  have hlength := h.buffer.length
  unfold osdSystraceloggerFree
  rw [h.sysprint]
  dsimp only
  by_cases hrest : 0 < ctx.sysprintBuf.lenStr
  · rw [if_pos hrest, flushSysprint_eq h.buffer, ok_bind, h.split]
  · have hempty : rest = [] := List.length_eq_zero_iff.mp (by omega)
    rw [if_neg hrest, ← h.split, hempty, List.append_nil]

end

section

variable {ctx : Systracelogger} {event : OsdStmEvent}

def Systracelogger.counted (ctx : Systracelogger) (event : OsdStmEvent) :
    Systracelogger :=
  { ctx with stats := ctx.stats.count event }

theorem stmEventHandler_overflow (h : event.overflow ≠ 0) :
    stmEventHandler ctx event =
      .ok ((ctx.counted event).log (.overflow event.overflow)) := by
  unfold stmEventHandler
  dsimp only
  rw [if_pos h, Systracelogger.counted]

theorem stmEventHandler_other (h : event.overflow = 0)
    (hprint : ctx.fpSysprint = none ∨ osdClStmIsPrintEvent event = false) :
    stmEventHandler ctx event = .ok ((ctx.counted event).log
      (.event event.timestamp event.id event.value)) := by
  unfold stmEventHandler
  dsimp only [Systracelogger.log]
  rw [if_neg (not_not.mpr h), Systracelogger.counted]
  cases hfile : ctx.fpSysprint with
  | none => rfl
  | some file =>
      rw [hfile] at hprint
      dsimp only
      rw [if_neg (by simpa using hprint)]

theorem stmEventHandler_print (h : osdClStmIsPrintEvent event = true)
    {file : List Byte} (hfile : ctx.fpSysprint = some file) :
    stmEventHandler ctx event = printEvent ((ctx.counted event).log
      (.event event.timestamp event.id event.value)) file event := by
  have hoverflow : event.overflow = 0 := by
    unfold osdClStmIsPrintEvent at h
    simp only [decide_eq_true_eq] at h
    exact h.1
  unfold stmEventHandler
  dsimp only [Systracelogger.log, Systracelogger.counted]
  rw [if_neg (not_not.mpr hoverflow), hfile]
  dsimp only
  rw [if_pos h]

end

section

variable {ctx : Systracelogger} {events : List StmTrace}
  {file rest : List Byte} {desc : OsdStmDesc} {packet : DiPacket}
  {event : StmTrace}

theorem Logged.handle (h : Logged ctx events file rest)
    (hwidth : ValidWidth desc.valueWidthBit)
    (hencodes : Encodes desc.valueWidthBit.toNat packet event) :
    ∃ ctx' file' rest',
      osdClStmHandleEvent desc ctx packet.toPacket = .ok (osdOk, ctx') ∧
        Logged ctx' (events ++ [event]) file' rest' := by
  have hstats : ctx.stats.count event.decoded =
      statsOf (events ++ [event]) := by
    rw [h.stats]
    exact statsOf_snoc hencodes events
  have hsame : Printed (ctx.counted event.decoded) (printedText events) file
      rest := h.printed.congr rfl rfl
  unfold osdClStmHandleEvent
  rw [buildStmEvent_encodes hwidth hencodes, ok_bind]
  cases hencodes with
  | overflow hmissed htypeSub hpayload =>
      rw [stmEventHandler_overflow hmissed, ok_bind]
      refine ⟨_, file, rest, rfl, ?_, hstats⟩
      rw [printedText_snoc, StmTrace.printed, List.append_nil]
      exact hsame.congr rfl rfl
  | @event timestamp value eventId _ _ hprint _ _ =>
      by_cases hid : eventId = 4
      · have hevent : osdClStmIsPrintEvent
            (StmTrace.event timestamp eventId value).decoded = true := by
          simp [osdClStmIsPrintEvent, StmTrace.decoded, hid]
        rw [stmEventHandler_print hevent h.printed.sysprint]
        have hvalue : (StmTrace.event timestamp eventId value).decoded.value ≤
            255 := hprint hid
        have hlogged : Printed ((ctx.counted
            (StmTrace.event timestamp eventId value).decoded).log
              (.event timestamp eventId value)) (printedText events) file
            rest := hsame.congr rfl rfl
        obtain ⟨ctx', file', rest', hdone, hprinted, hkept⟩ :=
          hlogged.print hvalue
        refine ⟨ctx', file', rest', ?_, ?_, hkept.trans hstats⟩
        · exact congrArg (· >>= fun ctx => .ok (osdOk, ctx)) hdone
        · rw [printedText_snoc, StmTrace.printed, if_pos hid]
          exact hprinted
      · rw [stmEventHandler_other rfl (.inr (by
          simp [osdClStmIsPrintEvent, StmTrace.decoded, hid])), ok_bind]
        refine ⟨_, file, rest, rfl, ?_, hstats⟩
        rw [printedText_snoc, StmTrace.printed, if_neg hid, List.append_nil]
        exact hsame.congr rfl rfl

/-! ## Runs -/

def handleEvents (desc : OsdStmDesc) (ctx : Systracelogger) :
    List DiPacket → Outcome Systracelogger
  | [] => .ok ctx
  | packet :: packets => do
      let (_, ctx) ← osdClStmHandleEvent desc ctx packet.toPacket
      handleEvents desc ctx packets

theorem Logged.handleEvents (hwidth : ValidWidth desc.valueWidthBit)
    {packets : List DiPacket} {later : List StmTrace}
    (hencodes : List.Forall₂ (Encodes desc.valueWidthBit.toNat) packets later)
    (h : Logged ctx events file rest) :
    ∃ ctx' file' rest', handleEvents desc ctx packets = .ok ctx' ∧
      Logged ctx' (events ++ later) file' rest' := by
  induction hencodes generalizing ctx events file rest with
  | nil =>
      rw [List.append_nil]
      exact ⟨ctx, file, rest, rfl, h⟩
  | @cons packet event packets later hfirst _ ih =>
      obtain ⟨next, file', rest', hnext, hlogged⟩ := h.handle hwidth hfirst
      obtain ⟨last, file'', rest'', hlast, hall⟩ := ih hlogged
      refine ⟨last, file'', rest'', ?_, ?_⟩
      · unfold Client.handleEvents
        rw [hnext, ok_bind]
        exact hlast
      · rw [List.append_assoc] at hall
        exact hall

def sysprintLogger (log : Option (List LogLine)) : Systracelogger :=
  osdSystraceloggerSetEventLog
    (osdSystraceloggerSetSysprintLog osdSystraceloggerNew (some [])) log

theorem sysprintLogger_logged (log : Option (List LogLine)) :
    Logged (sysprintLogger log) [] [] [] where
  printed := ⟨rfl, rfl, .inl rfl, by simp, holds_empty⟩
  stats := rfl

end

/-- The print output is lossless and in order. -/
theorem sysprint_lossless {desc : OsdStmDesc}
    (hwidth : ValidWidth desc.valueWidthBit) (log : Option (List LogLine))
    {packets : List DiPacket} {events : List StmTrace}
    (hencodes :
      List.Forall₂ (Encodes desc.valueWidthBit.toNat) packets events) :
    ∃ ctx file rest,
      handleEvents desc (sysprintLogger log) packets = .ok ctx ∧
      ctx.fpSysprint = some file ∧ file ++ rest = printedText events ∧
      (file = [] ∨ file.getLast? = some newline) ∧ newline ∉ rest ∧
      ctx.sysprintBuf.Holds rest ∧ ctx.stats = statsOf events ∧
      osdSystraceloggerFree ctx = .ok (some (printedText events)) := by
  obtain ⟨ctx, file, rest, hrun, hlogged⟩ :=
    (sysprintLogger_logged log).handleEvents hwidth hencodes
  rw [List.nil_append] at hlogged
  have hprinted := hlogged.printed
  exact ⟨ctx, file, rest, hrun, hprinted.sysprint, hprinted.split,
    hprinted.lines, hprinted.lastLine, hprinted.buffer, hlogged.stats,
    osdSystraceloggerFree_eq hprinted⟩

def missedEvents (missed : Word) : DiPacket :=
  ⟨1, 2, flagsWithTypeSub 0x8000 evOverflow, [missed],
    DiPacket.single_fits missed⟩

private def characterEvent (c : Word) : DiPacket :=
  ⟨1, 2, flagsWithTypeSub 0x8000 0, [0x5678, 0x1234, 4, c], by simp⟩

/-- A line, a lost event and the start of the next line. -/
theorem sysprint_lossless_lines :
    ∃ ctx file rest,
      handleEvents ⟨2, 16⟩ (sysprintLogger none)
        [characterEvent 72, characterEvent 10, missedEvents 7,
          characterEvent 73] = .ok ctx ∧
      ctx.fpSysprint = some file ∧ file ++ rest = [72, 10, 73] ∧
      (file = [] ∨ file.getLast? = some newline) ∧ newline ∉ rest ∧
      ctx.sysprintBuf.Holds rest ∧ ctx.stats = ⟨7, 3, 3⟩ ∧
      osdSystraceloggerFree ctx = .ok (some [72, 10, 73]) := by
  have hcharacter (c : Word) (hc : c.toNat ≤ 255) :
      Encodes 16 (characterEvent c) (.event 0x12345678 4 c.toNat) := by
    have hother : typeSubOfFlags (flagsWithTypeSub 0x8000 0) ≠ evOverflow := by
      decide
    refine .event (by decide) c.toNat_lt (fun _ => hc) hother ?_
    simp [characterEvent, wordsOfValue]
  have hmissed : Encodes 16 (missedEvents 7) (.overflow 7) :=
    .overflow (by decide) (by decide) rfl
  have hwidth : ValidWidth (OsdStmDesc.mk 2 16).valueWidthBit := .inl rfl
  exact sysprint_lossless hwidth none
    (.cons (hcharacter 72 (by decide)) (.cons (hcharacter 10 (by decide))
      (.cons hmissed (.cons (hcharacter 73 (by decide)) .nil))))

end Osd.Client
