import Osd.Client.Describe
import Osd.Foundation.Buffer
import Osd.Mam.Client

/-!
# System trace events

The STM client and the system trace logger that is its event handler.  The
logger collects the characters of print events in a buffer that it writes to
its sysprint file at the end of each line.  Files accept all writes.
-/

namespace Osd.Client

open Osd.Foundation Osd.Mam

def evOverflow : Nat := 5

def payloadWord (pkg : Packet) (index : Nat) : Outcome Word :=
  pkg.word (packetHeaderWordCnt + index)

/-- The loop that puts payload words together, the least significant one
first. -/
def orPayload (pkg : Packet) (start : Nat) : Nat → Outcome Nat
  | 0 => .ok 0
  | count + 1 => do
      let value ← orPayload pkg start count
      let word ← payloadWord pkg (start + count)
      .ok (value ||| (word.toNat <<< (count * 16)) % 2 ^ 64)

def timestampOf (pkg : Packet) (index : Nat) : Outcome Nat := do
  let high ← payloadWord pkg (index + 1)
  let low ← payloadWord pkg index
  .ok (high.toNat <<< 16 ||| low.toNat)

/-! ## The client -/

structure OsdStmEvent where
  timestamp : Nat
  id : Word
  value : Nat
  overflow : Word

def buildStmEvent (stmDesc : OsdStmDesc) (pkg : Packet) :
    Outcome OsdStmEvent := do
  let typeSub ← osdPacketGetTypeSub pkg
  if typeSub = evOverflow then do
    let size ← osdPacketSizeconvPayload2data 1
    assertThat (size = pkg.dataSizeWords.toNat)
    let overflow ← payloadWord pkg 0
    .ok ⟨0, 0, 0, overflow⟩
  else do
    let expPayloadLenBit := 32 + 16 + stmDesc.valueWidthBit.toNat
    let size ← osdPacketSizeconvPayload2data (intDivCeil expPayloadLenBit 16)
    assertThat (size = pkg.dataSizeWords.toNat)
    let timestamp ← timestampOf pkg 0
    let eventId ← payloadWord pkg 2
    let value ← orPayload pkg 3 (stmDesc.valueWidthBit.toNat / 16)
    .ok ⟨timestamp, eventId, value, 0⟩

def osdClStmIsPrintEvent (ev : OsdStmEvent) : Bool :=
  ev.overflow = 0 ∧ ev.id = 4

structure OsdClStmPrintBuf where
  buf : List Byte
  lenBuf : Nat
  lenStr : Nat

/-- The bytes that `realloc` adds are indeterminate; they read as zero here. -/
def reallocBytes (buf : List Byte) (size : Nat) : List Byte :=
  buf.take size ++ List.replicate (size - buf.length) 0

def newline : Byte := 10

/-- The buffer is enlarged by 4 KByte where it is full. -/
def growPrintBuf (buf : OsdClStmPrintBuf) : OsdClStmPrintBuf :=
  let newLenStr := buf.lenStr + 1
  if buf.lenBuf < newLenStr + 1 then
    let lenBuf := buf.lenBuf + 4 * 1024
    { buf with buf := reallocBytes buf.buf lenBuf, lenBuf }
  else buf

def osdClStmAddToPrintBuf (ev : OsdStmEvent) (buf : OsdClStmPrintBuf) :
    Outcome (OsdClStmPrintBuf × Bool) := do
  let newLenStr := buf.lenStr + 1
  let buf := growPrintBuf buf
  assertThat (ev.value ≤ 255)
  let c := UInt8.ofNat ev.value
  let bytes ← storeBytes buf.buf (newLenStr - 1) [c]
  let bytes ← storeBytes bytes newLenStr [0]
  .ok ({ buf with buf := bytes, lenStr := newLenStr }, c = newline)

/-! ## The logger -/

structure EventStats where
  overflowedEvents : Nat
  sysprintEvents : Nat
  traceEvents : Nat
  deriving DecidableEq

/-- A line of the event log. -/
inductive LogLine where
  | overflow (missed : Word)
  | event (timestamp : Nat) (eventId : Word) (value : Nat)

/-- A file that is set holds what was written to it. -/
structure Systracelogger where
  fpSysprint : Option (List Byte)
  fpEvent : Option (List LogLine)
  sysprintBuf : OsdClStmPrintBuf
  stats : EventStats

def osdSystraceloggerNew : Systracelogger where
  fpSysprint := none
  fpEvent := none
  sysprintBuf := ⟨[], 0, 0⟩
  stats := ⟨0, 0, 0⟩

def osdSystraceloggerSetSysprintLog (ctx : Systracelogger)
    (fp : Option (List Byte)) : Systracelogger :=
  { ctx with fpSysprint := fp }

def osdSystraceloggerSetEventLog (ctx : Systracelogger)
    (fp : Option (List LogLine)) : Systracelogger :=
  { ctx with fpEvent := fp }

def EventStats.count (stats : EventStats) (event : OsdStmEvent) :
    EventStats :=
  if event.overflow ≠ 0 then
    { stats with
      overflowedEvents :=
        (stats.overflowedEvents + event.overflow.toNat) % 2 ^ 32 }
  else
    { stats with
      sysprintEvents := (stats.sysprintEvents +
        (osdClStmIsPrintEvent event).toNat) % 2 ^ 32
      traceEvents := (stats.traceEvents + 1) % 2 ^ 32 }

def Systracelogger.log (ctx : Systracelogger) (line : LogLine) :
    Systracelogger :=
  { ctx with fpEvent := ctx.fpEvent.map (· ++ [line]) }

/-- `fwrite` of the string in the print buffer. -/
def flushSysprint (file : List Byte) (buf : OsdClStmPrintBuf) :
    Outcome (List Byte) := do
  let bytes ← loadBytes buf.buf 0 buf.lenStr
  .ok (file ++ bytes)

def printEvent (ctx : Systracelogger) (file : List Byte)
    (event : OsdStmEvent) : Outcome Systracelogger := do
  let (sysprintBuf, shouldFlush) ←
    osdClStmAddToPrintBuf event ctx.sysprintBuf
  if shouldFlush then do
    let file ← flushSysprint file sysprintBuf
    .ok { ctx with fpSysprint := some file, sysprintBuf := ⟨[], 0, 0⟩ }
  else .ok { ctx with sysprintBuf }

def stmEventHandler (ctx : Systracelogger) (event : OsdStmEvent) :
    Outcome Systracelogger :=
  let ctx := { ctx with stats := ctx.stats.count event }
  if event.overflow ≠ 0 then .ok (ctx.log (.overflow event.overflow))
  else
    let ctx := ctx.log (.event event.timestamp event.id event.value)
    match ctx.fpSysprint with
    | none => .ok ctx
    | some file =>
        if osdClStmIsPrintEvent event then printEvent ctx file event
        else .ok ctx

/-- `osd_cl_stm_handle_event` with the logger behind it. -/
def osdClStmHandleEvent (stmDesc : OsdStmDesc) (ctx : Systracelogger)
    (pkg : Packet) : Outcome (OsdResult × Systracelogger) := do
  let ev ← buildStmEvent stmDesc pkg
  let ctx ← stmEventHandler ctx ev
  .ok (osdOk, ctx)

/-- What the sysprint file holds after `osd_systracelogger_free`. -/
def osdSystraceloggerFree (ctx : Systracelogger) :
    Outcome (Option (List Byte)) :=
  if 0 < ctx.sysprintBuf.lenStr then
    match ctx.fpSysprint with
    | none => .error .outOfBounds
    | some file => do
        let file ← flushSysprint file ctx.sysprintBuf
        .ok (some file)
  else .ok ctx.fpSysprint

/-! ## Decoding -/

theorem ValidWidth.cases {regvalue : Word} (h : ValidWidth regvalue) :
    regvalue.toNat = 16 ∨ regvalue.toNat = 32 ∨ regvalue.toNat = 64 := by
  rcases h with rfl | rfl | rfl
  · exact .inl rfl
  · exact .inr (.inl rfl)
  · exact .inr (.inr rfl)

section

variable {packet : DiPacket}

theorem payloadWord_toPacket {index : Nat} {word : Word}
    (h : packet.payload[index]? = some word) :
    payloadWord packet.toPacket index = .ok word := by
  unfold payloadWord Packet.word
  simp [packetHeaderWordCnt, Nat.add_comm 3 index, h]

theorem orPayload_toPacket {start : Nat} {words : List Word}
    (h : packet.payload.drop start = words) {count : Nat}
    (hsmall : count ≤ 4) (hcount : count ≤ words.length) :
    orPayload packet.toPacket start count =
      .ok (wordsValue (words.take count)) := by
  induction count with
  | zero => simp [orPayload, wordsValue]
  | succ count ih =>
      have hword : packet.payload[start + count]? = some words[count] := by
        rw [← List.getElem?_drop, h, List.getElem?_eq_getElem]
      have hlow := wordsValue_lt (words.take count)
      rw [List.length_take, Nat.min_eq_left (by omega)] at hlow
      have hpow : 65536 ^ count = 2 ^ (count * 16) := by
        rw [show (65536 : Nat) = 2 ^ 16 by norm_num, ← Nat.pow_mul,
          Nat.mul_comm]
      rw [hpow] at hlow
      have hfits : words[count].toNat <<< (count * 16) < 2 ^ 64 := by
        have hword := words[count].toNat_lt
        rw [Nat.shiftLeft_eq]
        calc words[count].toNat * 2 ^ (count * 16)
            < 2 ^ 16 * 2 ^ (count * 16) :=
              Nat.mul_lt_mul_of_pos_right hword (Nat.two_pow_pos _)
          _ = 2 ^ (16 + count * 16) := (Nat.pow_add 2 16 _).symm
          _ ≤ 2 ^ 64 := Nat.pow_le_pow_right (by decide) (by omega)
      unfold orPayload
      rw [ih (by omega) (by omega), ok_bind, payloadWord_toPacket hword,
        ok_bind, Nat.mod_eq_of_lt hfits, Nat.or_comm,
        ← Nat.shiftLeft_add_eq_or_of_lt hlow, Nat.shiftLeft_eq,
        List.take_succ_eq_append_getElem (by omega), wordsValue_snoc,
        List.length_take, Nat.min_eq_left (by omega), hpow, Nat.add_comm]

theorem timestampOf_toPacket {index : Nat} {low high : Word}
    (hlow : packet.payload[index]? = some low)
    (hhigh : packet.payload[index + 1]? = some high) :
    timestampOf packet.toPacket index = .ok (wordsValue [low, high]) := by
  have hsmall := low.toNat_lt
  unfold timestampOf
  rw [payloadWord_toPacket hhigh, ok_bind, payloadWord_toPacket hlow, ok_bind,
    ← Nat.shiftLeft_add_eq_or_of_lt hsmall, Nat.shiftLeft_eq]
  simp only [wordsValue]
  congr 1
  ring

theorem payloadSize_bind {α : Type} {next : Outcome α} (count : Nat)
    (hcount : count ≤ 16) :
    (do
      let size ← osdPacketSizeconvPayload2data count
      assertThat (size = packet.toPacket.dataSizeWords.toNat)
      next) =
      if packet.payload.length = count then next else .error .assertion := by
  have hsize : osdPacketSizeconvPayload2data count = .ok (count + 3) := by
    have hmod : (count + packetHeaderWordCnt) % 2 ^ 32 = count + 3 := by
      rw [packetHeaderWordCnt]
      omega
    unfold osdPacketSizeconvPayload2data
    rw [hmod]
    exact assertThat_bind (by omega)
  rw [hsize, ok_bind, DiPacket.toPacket_size]
  split
  · rename_i hlength
    rw [assertThat_bind (by omega)]
  · rename_i hlength
    rw [assertThat_bind_not (by omega)]

end

/-- The payload of a trace event: its timestamp, id and value. -/
structure TracePayload (width : Nat) (payload : List Word)
    (event : OsdStmEvent) : Prop where
  payload_eq : ∃ low high words, payload = low :: high :: event.id :: words ∧
    words.length = width / 16 ∧ event.timestamp = wordsValue [low, high] ∧
    event.value = wordsValue words
  overflow : event.overflow = 0

theorem tracePayload_of_length {width : Nat} {payload : List Word}
    (h : payload.length = 3 + width / 16) :
    ∃ event, TracePayload width payload event := by
  match payload, h with
  | low :: high :: eventId :: words, h =>
      refine ⟨⟨wordsValue [low, high], eventId, wordsValue words, 0⟩,
        ⟨low, high, words, rfl, ?_, rfl, rfl⟩, rfl⟩
      simp only [List.length_cons] at h
      omega
  | [], h => simp at h; omega
  | [_], h => simp at h; omega
  | [_, _], h => simp at h; omega

theorem TracePayload.length {width : Nat} {payload : List Word}
    {event : OsdStmEvent} (h : TracePayload width payload event) :
    payload.length = 3 + width / 16 := by
  obtain ⟨low, high, words, rfl, hlength, -, -⟩ := h.payload_eq
  simp only [List.length_cons]
  omega

section

variable {desc : OsdStmDesc} {packet : DiPacket}

theorem buildStmEvent_overflow (hoverflow : packet.typeSub = evOverflow) :
    buildStmEvent desc packet.toPacket =
      if packet.payload.length = 1 then do
        let overflow ← payloadWord packet.toPacket 0
        .ok ⟨0, 0, 0, overflow⟩
      else .error .assertion := by
  unfold buildStmEvent
  rw [DiPacket.getTypeSub_toPacket, ok_bind, if_pos hoverflow]
  exact payloadSize_bind 1 (by decide)

theorem expPayloadLen_eq (hwidth : ValidWidth desc.valueWidthBit) :
    intDivCeil (32 + 16 + desc.valueWidthBit.toNat) 16 =
      3 + desc.valueWidthBit.toNat / 16 := by
  rcases hwidth.cases with h | h | h <;> rw [h] <;> rfl

theorem buildStmEvent_wrong (hwidth : ValidWidth desc.valueWidthBit)
    (hother : packet.typeSub ≠ evOverflow)
    (hlength : packet.payload.length ≠ 3 + desc.valueWidthBit.toNat / 16) :
    buildStmEvent desc packet.toPacket = .error .assertion := by
  have hsmall : 3 + desc.valueWidthBit.toNat / 16 ≤ 16 := by
    rcases hwidth.cases with h | h | h <;> omega
  unfold buildStmEvent
  rw [DiPacket.getTypeSub_toPacket, ok_bind, if_neg hother]
  dsimp only
  rw [expPayloadLen_eq hwidth, payloadSize_bind _ hsmall, if_neg hlength]

theorem buildStmEvent_trace (hwidth : ValidWidth desc.valueWidthBit)
    (hother : packet.typeSub ≠ evOverflow) {event : OsdStmEvent}
    (hpayload : TracePayload desc.valueWidthBit.toNat packet.payload event) :
    buildStmEvent desc packet.toPacket = .ok event := by
  have hsmall : 3 + desc.valueWidthBit.toNat / 16 ≤ 16 := by
    rcases hwidth.cases with h | h | h <;> omega
  have hlength := hpayload.length
  obtain ⟨low, high, words, hwords, hcount, htimestamp, hvalue⟩ :=
    hpayload.payload_eq
  have hfour : words.length ≤ 4 := by
    rcases hwidth.cases with h | h | h <;> omega
  have hdrop : packet.payload.drop 3 = words := by
    rw [hwords]
    rfl
  have hid : packet.payload[2]? = some event.id := by
    rw [hwords]
    rfl
  have hvalueOf : orPayload packet.toPacket 3
      (desc.valueWidthBit.toNat / 16) = .ok (wordsValue words) := by
    rw [orPayload_toPacket hdrop (by omega) hcount.symm.le, ← hcount,
      List.take_length]
  unfold buildStmEvent
  rw [DiPacket.getTypeSub_toPacket, ok_bind, if_neg hother]
  dsimp only
  rw [expPayloadLen_eq hwidth, payloadSize_bind _ hsmall, if_pos hlength,
    timestampOf_toPacket (by rw [hwords]; rfl) (by rw [hwords]; rfl), ok_bind,
    payloadWord_toPacket hid, ok_bind, hvalueOf, ok_bind, ← htimestamp,
    ← hvalue, ← hpayload.overflow]

end

end Osd.Client
