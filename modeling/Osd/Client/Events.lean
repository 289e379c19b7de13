import Osd.Client.SysTrace
import Osd.Foundation.Runs

/-!
# Event clients

The handlers of core trace, core debug and UART events, and which packets the
four event clients take without a fault.
-/

namespace Osd.Client

open Osd.Foundation Osd.Mam

/-! ## Core trace -/

structure OsdCtmEvent where
  timestamp : Nat
  npc : Nat
  pc : Nat
  mode : Word
  isRet : Bool
  isCall : Bool
  isModechange : Bool
  overflow : Word

def buildCtmEvent (ctmDesc : OsdCtmDesc) (pkg : Packet) :
    Outcome OsdCtmEvent := do
  let typeSub ← osdPacketGetTypeSub pkg
  if typeSub = evOverflow then do
    let size ← osdPacketSizeconvPayload2data 1
    assertThat (size = pkg.dataSizeWords.toNat)
    let overflow ← payloadWord pkg 0
    .ok ⟨0, 0, 0, 0, false, false, false, overflow⟩
  else do
    let expPayloadLenBit := 32 + ctmDesc.addrWidthBit.toNat +
      ctmDesc.addrWidthBit.toNat + 2 + 1 + 1 + 1
    let size ← osdPacketSizeconvPayload2data (intDivCeil expPayloadLenBit 16)
    assertThat (size = pkg.dataSizeWords.toNat)
    let awWords := ctmDesc.addrWidthBit.toNat / 16
    let timestamp ← timestampOf pkg 0
    let npc ← orPayload pkg 2 awWords
    let pc ← orPayload pkg (2 + awWords) awWords
    let flags ← payloadWord pkg (2 + awWords + awWords)
    .ok ⟨timestamp, npc, pc, flags &&& 0x3, flags >>> 2 &&& 1 ≠ 0,
      flags >>> 3 &&& 1 ≠ 0, flags >>> 4 &&& 1 ≠ 0, 0⟩

/-- `osd_cl_ctm_handle_event`, with the event that the callback gets. -/
def osdClCtmHandleEvent (ctmDesc : OsdCtmDesc) (pkg : Packet) :
    Outcome (OsdResult × OsdCtmEvent) := do
  let ev ← buildCtmEvent ctmDesc pkg
  .ok (osdOk, ev)

/-! ## Core debug -/

structure OsdCdmEvent where
  stall : Bool

def buildCdmEvent (pkg : Packet) : Outcome OsdCdmEvent := do
  let size ← osdPacketSizeconvPayload2data 1
  assertThat (size = pkg.dataSizeWords.toNat)
  let stall ← payloadWord pkg 0
  .ok ⟨stall ≠ 0⟩

/-- `osd_cl_cdm_handle_event`, with the event that the callback gets. -/
def osdClCdmHandleEvent (pkg : Packet) :
    Outcome (OsdResult × OsdCdmEvent) := do
  let ev ← buildCdmEvent pkg
  .ok (osdOk, ev)

/-! ## Device emulation -/

/-- `osd_cl_dem_uart_receive_event`, with the character that the callback
gets. -/
def osdClDemUartReceiveEvent (pkg : Packet) :
    Outcome (OsdResult × Byte) := do
  let word ← payloadWord pkg 0
  .ok (osdOk, UInt8.ofNat (word &&& 0xFF).toNat)

/-! ## Payloads of one word -/

section

variable {packet : DiPacket}

theorem payloadWord_toPacket_none {index : Nat}
    (h : packet.payload.length ≤ index) :
    payloadWord packet.toPacket index = .error .outOfBounds := by
  unfold payloadWord Packet.word
  simp [packetHeaderWordCnt, Nat.add_comm 3 index, h]

theorem payloadWord_of_lt {index : Nat} (h : index < packet.payload.length) :
    payloadWord packet.toPacket index = .ok packet.payload[index] :=
  payloadWord_toPacket (List.getElem?_eq_getElem h)

theorem osdClCdmHandleEvent_iff :
    (∃ ev, osdClCdmHandleEvent packet.toPacket = .ok (osdOk, ev)) ↔
      packet.payload.length = 1 := by
  unfold osdClCdmHandleEvent buildCdmEvent
  rw [payloadSize_bind 1 (by decide)]
  by_cases hlength : packet.payload.length = 1
  · rw [if_pos hlength, payloadWord_of_lt (by omega)]
    simp [hlength]
  · rw [if_neg hlength]
    simp [hlength]

theorem osdClDemUartReceiveEvent_iff :
    (∃ c, osdClDemUartReceiveEvent packet.toPacket = .ok (osdOk, c)) ↔
      packet.payload ≠ [] := by
  unfold osdClDemUartReceiveEvent
  by_cases hempty : packet.payload = []
  · rw [payloadWord_toPacket_none (by rw [hempty]; rfl)]
    simp [hempty]
  · rw [payloadWord_of_lt (List.length_pos_iff.mpr hempty)]
    simp [hempty]

/-! ## Core trace packets -/

theorem orPayload_ok {start count : Nat}
    (h : start + count ≤ packet.payload.length) :
    ∃ value, orPayload packet.toPacket start count = .ok value := by
  induction count with
  | zero => exact ⟨0, rfl⟩
  | succ count ih =>
      obtain ⟨value, hvalue⟩ := ih (by omega)
      unfold orPayload
      rw [hvalue, ok_bind, payloadWord_of_lt (by omega), ok_bind]
      exact ⟨_, rfl⟩

/-- The payload has the length that the client of core trace asks for. -/
def CtmLength (desc : OsdCtmDesc) (packet : DiPacket) : Prop :=
  packet.payload.length =
    if packet.typeSub = evOverflow then 1
    else 3 + 2 * (desc.addrWidthBit.toNat / 16)

theorem osdClCtmHandleEvent_iff {desc : OsdCtmDesc}
    (hwidth : ValidWidth desc.addrWidthBit) :
    (∃ ev, osdClCtmHandleEvent desc packet.toPacket = .ok (osdOk, ev)) ↔
      CtmLength desc packet := by
  unfold osdClCtmHandleEvent buildCtmEvent CtmLength
  rw [DiPacket.getTypeSub_toPacket, ok_bind]
  by_cases hoverflow : packet.typeSub = evOverflow
  · rw [if_pos hoverflow, if_pos hoverflow, payloadSize_bind 1 (by decide)]
    by_cases hlength : packet.payload.length = 1
    · rw [if_pos hlength, payloadWord_of_lt (by omega)]
      simp [hlength]
    · rw [if_neg hlength]
      simp [hlength]
  · have hwords : intDivCeil (32 + desc.addrWidthBit.toNat +
        desc.addrWidthBit.toNat + 2 + 1 + 1 + 1) 16 =
        3 + 2 * (desc.addrWidthBit.toNat / 16) := by
      rcases hwidth.cases with h | h | h <;> rw [h] <;> rfl
    have hsmall : 3 + 2 * (desc.addrWidthBit.toNat / 16) ≤ 16 := by
      rcases hwidth.cases with h | h | h <;> omega
    rw [if_neg hoverflow, if_neg hoverflow]
    dsimp only
    rw [hwords, payloadSize_bind _ hsmall]
    by_cases hlength : packet.payload.length =
        3 + 2 * (desc.addrWidthBit.toNat / 16)
    · have hwords := hlength
      obtain ⟨npc, hnpc⟩ : ∃ value, orPayload packet.toPacket 2
          (desc.addrWidthBit.toNat / 16) = .ok value := orPayload_ok (by omega)
      obtain ⟨pc, hpc⟩ : ∃ value, orPayload packet.toPacket
          (2 + desc.addrWidthBit.toNat / 16)
          (desc.addrWidthBit.toNat / 16) = .ok value := orPayload_ok (by omega)
      rw [if_pos hlength, timestampOf_toPacket
        (List.getElem?_eq_getElem (by omega))
        (List.getElem?_eq_getElem (by omega)), ok_bind, hnpc, ok_bind, hpc,
        ok_bind, payloadWord_of_lt (by omega)]
      simp [hlength]
    · rw [if_neg hlength]
      simp [hlength]

end

/-! ## System trace packets -/

/-- A call on the logger. -/
inductive LoggerCall where
  | event (desc : OsdStmDesc) (packet : DiPacket)
  | setSysprintLog (fp : Option (List Byte))
  | setEventLog (fp : Option (List LogLine))

inductive LoggerStep : Systracelogger → LoggerCall → Systracelogger → Prop
  | event {ctx ctx' : Systracelogger} {desc : OsdStmDesc}
      {packet : DiPacket} {rv : OsdResult}
      (h : osdClStmHandleEvent desc ctx packet.toPacket = .ok (rv, ctx')) :
      LoggerStep ctx (.event desc packet) ctx'
  | setSysprintLog {ctx : Systracelogger} {fp : Option (List Byte)} :
      LoggerStep ctx (.setSysprintLog fp)
        (osdSystraceloggerSetSysprintLog ctx fp)
  | setEventLog {ctx : Systracelogger} {fp : Option (List LogLine)} :
      LoggerStep ctx (.setEventLog fp) (osdSystraceloggerSetEventLog ctx fp)

def LoggerReachable (ctx : Systracelogger) : Prop :=
  ∃ calls, Runs LoggerStep osdSystraceloggerNew calls ctx

def BufferOk (ctx : Systracelogger) : Prop :=
  ∃ text, ctx.sysprintBuf.Holds text

section

variable {ctx ctx' : Systracelogger} {event : OsdStmEvent}
  {file : List Byte}

theorem printEvent_ok (h : BufferOk ctx) (hvalue : event.value ≤ 255) :
    ∃ ctx', printEvent ctx file event = .ok ctx' ∧ BufferOk ctx' := by
  obtain ⟨text, hholds⟩ := h
  obtain ⟨added, hadded, hnext⟩ := osdClStmAddToPrintBuf_ok hholds hvalue
  unfold printEvent
  rw [hadded, ok_bind]
  dsimp only
  split
  · rw [flushSysprint_eq hnext, ok_bind]
    exact ⟨_, rfl, [], holds_empty⟩
  · exact ⟨_, rfl, _, hnext⟩

theorem printEvent_wide (hvalue : ¬event.value ≤ 255) :
    printEvent ctx file event = .error .assertion := by
  unfold printEvent osdClStmAddToPrintBuf
  dsimp only
  rw [assertThat_bind_not hvalue]
  rfl

/-- The event is to be printed but is no character. -/
def WidePrint (ctx : Systracelogger) (event : OsdStmEvent) : Prop :=
  ctx.fpSysprint ≠ none ∧ osdClStmIsPrintEvent event = true ∧
    255 < event.value

theorem stmEventHandler_ok (h : BufferOk ctx) (hnarrow : ¬WidePrint ctx event) :
    ∃ ctx', stmEventHandler ctx event = .ok ctx' ∧ BufferOk ctx' := by
  by_cases hoverflow : event.overflow = 0
  · by_cases hprint : ctx.fpSysprint = none ∨
        osdClStmIsPrintEvent event = false
    · rw [stmEventHandler_other hoverflow hprint]
      exact ⟨_, rfl, h⟩
    · rw [not_or, Bool.not_eq_false] at hprint
      obtain ⟨file, hfile⟩ := Option.ne_none_iff_exists'.mp hprint.1
      rw [stmEventHandler_print hprint.2 hfile]
      refine printEvent_ok h (Nat.le_of_not_lt fun hwide => hnarrow ?_)
      exact ⟨hprint.1, hprint.2, hwide⟩
  · rw [stmEventHandler_overflow hoverflow]
    exact ⟨_, rfl, h⟩

theorem stmEventHandler_wide (h : WidePrint ctx event) :
    stmEventHandler ctx event = .error .assertion := by
  obtain ⟨hfile, hprint, hvalue⟩ := h
  obtain ⟨file, hfile⟩ := Option.ne_none_iff_exists'.mp hfile
  rw [stmEventHandler_print hprint hfile]
  exact printEvent_wide (by omega)

theorem LoggerStep.bufferOk {call : LoggerCall} (h : BufferOk ctx)
    (hstep : LoggerStep ctx call ctx') : BufferOk ctx' := by
  cases hstep with
  | setSysprintLog => exact h
  | setEventLog => exact h
  | event hdone =>
      obtain ⟨event, -, hdone⟩ := bind_eq_ok.mp hdone
      obtain ⟨next, hnext, hdone⟩ := bind_eq_ok.mp hdone
      cases hdone
      by_cases hwide : WidePrint ctx event
      · rw [stmEventHandler_wide hwide] at hnext
        cases hnext
      · obtain ⟨_, hok, hbuffer⟩ := stmEventHandler_ok h hwide
        rw [hok] at hnext
        cases hnext
        exact hbuffer

theorem LoggerReachable.bufferOk (h : LoggerReachable ctx) :
    BufferOk ctx := by
  obtain ⟨calls, run⟩ := h
  induction run with
  | refl => exact ⟨[], holds_empty⟩
  | snoc _ hstep ih => exact hstep.bufferOk ih

/-! ## What the handlers take -/

/-- The payload has the length that the client of system trace asks for. -/
def StmLength (desc : OsdStmDesc) (packet : DiPacket) : Prop :=
  packet.payload.length =
    if packet.typeSub = evOverflow then 1
    else 3 + desc.valueWidthBit.toNat / 16

/-- A value that is printed to the sysprint file is a character. -/
def NarrowPrint (ctx : Systracelogger) (packet : DiPacket) : Prop :=
  packet.typeSub ≠ evOverflow → ctx.fpSysprint ≠ none →
    packet.payload[2]? = some 4 → wordsValue (packet.payload.drop 3) ≤ 255

section

variable {desc : OsdStmDesc} {packet : DiPacket}

theorem buildStmEvent_wrongLength (hwidth : ValidWidth desc.valueWidthBit)
    (hlength : ¬StmLength desc packet) :
    buildStmEvent desc packet.toPacket = .error .assertion := by
  unfold StmLength at hlength
  by_cases hoverflow : packet.typeSub = evOverflow
  · rw [if_pos hoverflow] at hlength
    rw [buildStmEvent_overflow hoverflow, if_neg hlength]
  · rw [if_neg hoverflow] at hlength
    exact buildStmEvent_wrong hwidth hoverflow hlength

/-- The event of a packet of the right length, and when it is printed. -/
theorem buildStmEvent_rightLength (hwidth : ValidWidth desc.valueWidthBit)
    (hlength : StmLength desc packet) :
    ∃ event, buildStmEvent desc packet.toPacket = .ok event ∧
      (WidePrint ctx event ↔ ¬NarrowPrint ctx packet) := by
  unfold StmLength at hlength
  unfold WidePrint NarrowPrint
  by_cases hoverflow : packet.typeSub = evOverflow
  · rw [if_pos hoverflow] at hlength
    rw [buildStmEvent_overflow hoverflow, if_pos hlength,
      payloadWord_of_lt (by omega)]
    refine ⟨_, rfl, ?_⟩
    simp [hoverflow]
  · rw [if_neg hoverflow] at hlength
    obtain ⟨event, hevent⟩ := tracePayload_of_length hlength
    refine ⟨event, buildStmEvent_trace hwidth hoverflow hevent, ?_⟩
    obtain ⟨low, high, words, hwords, -, -, hvalue⟩ := hevent.payload_eq
    have hprint : osdClStmIsPrintEvent event = true ↔ event.id = 4 := by
      simp [osdClStmIsPrintEvent, hevent.overflow]
    rw [hprint, hvalue, hwords]
    simp [hoverflow]

theorem osdClStmHandleEvent_iff (hbuffer : BufferOk ctx)
    (hwidth : ValidWidth desc.valueWidthBit) :
    (∃ ctx', osdClStmHandleEvent desc ctx packet.toPacket =
        .ok (osdOk, ctx')) ↔
      StmLength desc packet ∧ NarrowPrint ctx packet := by
  unfold osdClStmHandleEvent
  by_cases hlength : StmLength desc packet
  · obtain ⟨event, hevent, hwide⟩ :
        ∃ event, buildStmEvent desc packet.toPacket = .ok event ∧
          (WidePrint ctx event ↔ ¬NarrowPrint ctx packet) :=
      buildStmEvent_rightLength hwidth hlength
    rw [hevent, ok_bind]
    by_cases hnarrow : NarrowPrint ctx packet
    · obtain ⟨ctx', hdone, -⟩ :=
        stmEventHandler_ok hbuffer fun h => hwide.mp h hnarrow
      rw [hdone, ok_bind]
      simp [hlength, hnarrow]
    · rw [stmEventHandler_wide (hwide.mpr hnarrow)]
      simp [hnarrow]
  · rw [buildStmEvent_wrongLength hwidth hlength]
    simp [hlength]

end

end

/-- Which event packets each of the four clients handles without a fault. -/
theorem eventClients_iff {packet : DiPacket}
    {readStm readCtm : RegRead} {stmDiAddr ctmDiAddr : Nat}
    {stmDesc : OsdStmDesc} {ctmDesc : OsdCtmDesc} {ctx : Systracelogger}
    (hstm : osdClStmGetDesc readStm stmDiAddr = .ok (.ok stmDesc))
    (hctm : osdClCtmGetDesc readCtm ctmDiAddr = .ok (.ok ctmDesc))
    (hctx : LoggerReachable ctx) :
    ((∃ ctx', osdClStmHandleEvent stmDesc ctx packet.toPacket =
        .ok (osdOk, ctx')) ↔
      StmLength stmDesc packet ∧ NarrowPrint ctx packet) ∧
    ((∃ ev, osdClCtmHandleEvent ctmDesc packet.toPacket = .ok (osdOk, ev)) ↔
      CtmLength ctmDesc packet) ∧
    ((∃ ev, osdClCdmHandleEvent packet.toPacket = .ok (osdOk, ev)) ↔
      packet.payload.length = 1) ∧
    ((∃ c, osdClDemUartReceiveEvent packet.toPacket = .ok (osdOk, c)) ↔
      packet.payload ≠ []) :=
  ⟨osdClStmHandleEvent_iff hctx.bufferOk (osdClStmGetDesc_valid hstm),
    osdClCtmHandleEvent_iff (osdClCtmGetDesc_valid hctm),
    osdClCdmHandleEvent_iff, osdClDemUartReceiveEvent_iff⟩

/-- Registers of a module of the type, all its widths 16 bit. -/
private def moduleRegs (type : Word) : RegRead := fun regAddr =>
  .ok (if regAddr = osdRegBaseModVendor then osdModuleVendorOsd
    else if regAddr = osdRegBaseModType then type
    else if regAddr = osdRegBaseModVersion then 0
    else 16)

theorem eventClients_missed :
    (∃ ctx', osdClStmHandleEvent ⟨2, 16⟩ osdSystraceloggerNew
      (missedEvents 7).toPacket = .ok (osdOk, ctx')) ∧
    (∃ ev, osdClCtmHandleEvent ⟨3, 16, 16⟩ (missedEvents 7).toPacket =
      .ok (osdOk, ev)) ∧
    (∃ ev, osdClCdmHandleEvent (missedEvents 7).toPacket = .ok (osdOk, ev)) ∧
    (∃ c, osdClDemUartReceiveEvent (missedEvents 7).toPacket = .ok (osdOk, c)) := by
  have hoverflow : (missedEvents 7).typeSub = evOverflow := by decide
  have hstmDesc : osdClStmGetDesc (moduleRegs osdModuleTypeStdStm) 2 =
      .ok (.ok ⟨2, 16⟩) := rfl
  have hctmDesc : osdClCtmGetDesc (moduleRegs osdModuleTypeStdCtm) 3 =
      .ok (.ok ⟨3, 16, 16⟩) := rfl
  obtain ⟨hstm, hctm, hcdm, huart⟩ :=
    eventClients_iff hstmDesc hctmDesc ⟨[], .refl⟩
  refine ⟨hstm.mpr ⟨?_, ?_⟩, hctm.mpr ?_, hcdm.mpr rfl, huart.mpr (by simp [missedEvents])⟩
  · rw [StmLength, if_pos hoverflow]
    rfl
  · exact fun hother => absurd hoverflow hother
  · rw [CtmLength, if_pos hoverflow]
    rfl

private def emptyEvent : DiPacket :=
  ⟨1, 2, flagsWithTypeSub 0x8000 0, [], DiPacket.empty_fits⟩

theorem eventClients_empty :
    osdClStmGetDesc (moduleRegs osdModuleTypeStdStm) 2 =
        .ok (.ok ⟨2, 16⟩) ∧
      osdClStmHandleEvent ⟨2, 16⟩ osdSystraceloggerNew
        emptyEvent.toPacket = .error .assertion ∧
      osdClCtmGetDesc (moduleRegs osdModuleTypeStdCtm) 3 =
        .ok (.ok ⟨3, 16, 16⟩) ∧
      osdClCtmHandleEvent ⟨3, 16, 16⟩ emptyEvent.toPacket =
        .error .assertion ∧
      osdClCdmHandleEvent emptyEvent.toPacket = .error .assertion ∧
      osdClDemUartReceiveEvent emptyEvent.toPacket = .error .outOfBounds :=
  ⟨rfl, rfl, rfl, rfl, rfl, rfl⟩

end Osd.Client
