import Osd.Client.Events
import Osd.Client.Terminal
import Osd.Transport.Network

/-!
# Terminal data

What a UART module prints is written to the pseudo-terminal, and what is typed
there is sent to the module, one event for each character.
-/

namespace Osd.Client

open Osd.Foundation Osd.Transport

/-! ## From the module to the terminal -/

/-- The device file with the results that the next calls of `write` will
have: the number of bytes that are taken, or none for a failure. -/
structure MasterFd where
  output : List Byte
  results : List (Option Nat)

/-- `none` stands for a `write` that does not return. -/
def handleRxDataFrom (str : List Byte) :
    List (Option Nat) → (output : List Byte) → (written : Nat) →
      Option MasterFd
  | [], output, written =>
      if written < str.length then none else some ⟨output, []⟩
  | ret :: results, output, written =>
      if written < str.length then
        match ret with
        | none => some ⟨output, results⟩
        | some count =>
            let taken := (str.drop written).take count
            handleRxDataFrom str results (output ++ taken)
              (written + taken.length)
      else some ⟨output, ret :: results⟩

def handleRxData (fd : MasterFd) (str : List Byte) : Option MasterFd :=
  handleRxDataFrom str fd.results fd.output 0

/-- The UART client with the terminal behind it, for one packet after the
other. -/
def handleUartEvents (fd : MasterFd) : List DiPacket → Outcome (Option MasterFd)
  | [] => .ok (some fd)
  | packet :: packets => do
      let (_, c) ← osdClDemUartReceiveEvent packet.toPacket
      match handleRxData fd [c] with
      | none => .ok none
      | some fd => handleUartEvents fd packets

/-! ## From the terminal to the module -/

/-- The loop of `osd_cl_dem_uart_send_string`, with the packets sent. -/
def sendCharacters (isConnected : Bool) (packet : Packet) :
    List Byte → Outcome (OsdResult × List Packet)
  | [] => .ok (osdOk, [])
  | c :: str => do
      let dataRaw ← storeWords packet.dataRaw packetHeaderWordCnt
        [UInt16.ofNat c.toNat]
      let packet := { packet with dataRaw }
      match ← osdHostmodEventSend isConnected packet with
      | none => .ok (osdErrorNotConnected, [])
      | some _ => do
          let (rv, sent) ← sendCharacters isConnected packet str
          .ok (rv, packet :: sent)

def osdClDemUartSendString (isConnected : Bool) (diaddr : Word)
    (demUartDesc : OsdDemUartDesc) (str : List Byte) :
    Outcome (OsdResult × List Packet) := do
  assertThat (0 < str.length)
  let size ← osdPacketSizeconvPayload2data 1
  let packet ← osdPacketSetHeader (osdPacketNew size)
    demUartDesc.diAddr.toNat diaddr.toNat osdPacketTypeEvent evLast
  sendCharacters isConnected packet str

/-- What the transmit thread meets in a round of its loop; `read` is none for
a failure. -/
structure TxRound where
  running : Bool
  poll : Int
  read : Option (List Byte)
  isConnected : Bool

/-- The packets that the thread sends during its rounds. -/
def terminalTxThread (diaddr : Word) (demUartDesc : OsdDemUartDesc) :
    List TxRound → Outcome (List Packet)
  | [] => .ok []
  | round :: rounds =>
      if round.running = false then .ok []
      else if round.poll = -1 then .ok []
      else if round.poll = 0 then terminalTxThread diaddr demUartDesc rounds
      else
        match round.read with
        | none => terminalTxThread diaddr demUartDesc rounds
        | some buf => do
            let (_, sent) ← osdClDemUartSendString round.isConnected diaddr
              demUartDesc buf
            let more ← terminalTxThread diaddr demUartDesc rounds
            .ok (sent ++ more)

/-! ## Writing -/

/-- The calls of `write` take at least one byte. -/
def AllTake (results : List (Option Nat)) : Prop :=
  ∀ ret ∈ results, ∃ count, ret = some (count + 1)

section Writing

variable (str : List Byte)

theorem handleRxDataFrom_eq {results : List (Option Nat)}
    (output : List Byte) (written : Nat) (htake : AllTake results)
    (henough : str.length - written ≤ results.length) :
    ∃ rest, handleRxDataFrom str results output written =
        some ⟨output ++ str.drop written, rest⟩ ∧ AllTake rest ∧
      results.length ≤ rest.length + (str.length - written) := by
  induction results generalizing written output with
  | nil =>
      have hdone : str.length ≤ written := by
        simpa [Nat.sub_eq_zero_iff_le] using henough
      rw [handleRxDataFrom, if_neg (by omega), List.drop_of_length_le hdone,
        List.append_nil]
      exact ⟨[], rfl, htake, by simp⟩
  | cons ret results ih =>
      obtain ⟨count, rfl⟩ := htake ret (by simp)
      by_cases hmore : written < str.length
      · have htaken : ((str.drop written).take (count + 1)).length =
            min (count + 1) (str.length - written) := by simp
        have hrest : AllTake results := fun other hother =>
          htake other (List.mem_cons_of_mem _ hother)
        rw [List.length_cons] at henough
        obtain ⟨rest, heq, hgood, hlength⟩ := ih
          (output ++ (str.drop written).take (count + 1))
          (written + ((str.drop written).take (count + 1)).length)
          hrest (by omega)
        refine ⟨rest, ?_, hgood, ?_⟩
        · rw [handleRxDataFrom, if_pos hmore]
          dsimp only
          rw [heq, htaken, List.append_assoc]
          have hsplit := List.take_append_drop (count + 1) (str.drop written)
          have hdrop : str.drop (written +
              min (count + 1) (str.length - written)) =
              (str.drop written).drop (count + 1) := by
            rw [List.drop_drop]
            by_cases hall : count + 1 ≤ str.length - written
            · rw [Nat.min_eq_left hall]
            · rw [List.drop_of_length_le (by omega),
                List.drop_of_length_le (by omega)]
          rw [hdrop, hsplit]
        · rw [List.length_cons]
          omega
      · rw [handleRxDataFrom, if_neg hmore,
          List.drop_of_length_le (Nat.le_of_not_lt hmore), List.append_nil]
        exact ⟨_, rfl, htake, by omega⟩

/-- A string is written once and in order, in however many parts. -/
theorem handleRxData_eq {fd : MasterFd} (htake : AllTake fd.results)
    (henough : str.length ≤ fd.results.length) :
    ∃ rest, handleRxData fd str = some ⟨fd.output ++ str, rest⟩ ∧
      AllTake rest ∧ fd.results.length ≤ rest.length + str.length :=
  handleRxDataFrom_eq str fd.output 0 htake henough

/-- The character in an event of a UART module. -/
def uartChar (packet : DiPacket) : Byte :=
  UInt8.ofNat (packet.payload.headD 0).toNat

theorem osdClDemUartReceiveEvent_eq {packet : DiPacket}
    (h : packet.payload ≠ []) :
    osdClDemUartReceiveEvent packet.toPacket =
      .ok (osdOk, uartChar packet) := by
  obtain ⟨word, words, hpayload⟩ := List.exists_cons_of_ne_nil h
  have hword : packet.payload[0]? = some word := by
    rw [hpayload]
    rfl
  have hlow : UInt8.ofNat (word &&& 0xFF).toNat = UInt8.ofNat word.toNat := by
    apply UInt8.toNat_inj.mp
    have hmask : word.toNat &&& 255 = word.toNat % 256 :=
      Nat.and_two_pow_sub_one_eq_mod word.toNat 8
    simp [hmask]
  unfold osdClDemUartReceiveEvent uartChar
  rw [payloadWord_toPacket hword, ok_bind, hlow, hpayload]
  rfl

theorem handleUartEvents_eq (fd : MasterFd) {packets : List DiPacket}
    (hpayload : ∀ packet ∈ packets, packet.payload ≠ [])
    (htake : AllTake fd.results)
    (henough : packets.length ≤ fd.results.length) :
    ∃ rest, handleUartEvents fd packets =
      .ok (some ⟨fd.output ++ packets.map uartChar, rest⟩) := by
  induction packets generalizing fd with
  | nil =>
      rw [List.map_nil, List.append_nil]
      exact ⟨fd.results, rfl⟩
  | cons packet packets ih =>
      have hfirst := hpayload packet (by simp)
      have hothers := fun other hother =>
        hpayload other (List.mem_cons_of_mem packet hother)
      rw [List.length_cons] at henough
      obtain ⟨results, hwritten, hgood, hlength⟩ :=
        handleRxData_eq [uartChar packet] htake (by simp; omega)
      rw [List.length_singleton] at hlength
      obtain ⟨rest, hrest⟩ := ih ⟨fd.output ++ [uartChar packet], results⟩
        hothers hgood (by dsimp only; omega)
      refine ⟨rest, ?_⟩
      rw [handleUartEvents, osdClDemUartReceiveEvent_eq hfirst, ok_bind]
      dsimp only
      rw [hwritten]
      dsimp only
      rw [hrest, List.append_assoc]
      rfl

end Writing

/-! ## Sending -/

section Sending

variable {diaddr : Word} {desc : OsdDemUartDesc}

def characterPacket (diaddr : Word) (desc : OsdDemUartDesc) (c : Byte) :
    DiPacket :=
  ⟨desc.diAddr, diaddr, eventFlags, [UInt16.ofNat c.toNat],
    DiPacket.single_fits _⟩

@[simp] theorem uartChar_characterPacket (c : Byte) :
    uartChar (characterPacket diaddr desc c) = c := by
  have hc := c.toNat_lt
  apply UInt8.toNat_inj.mp
  simp [uartChar, characterPacket]

theorem osdHostmodEventSend_toPacket {packet : DiPacket}
    (htype : typeOfFlags packet.flags = osdPacketTypeEvent) :
    osdHostmodEventSend true packet.toPacket =
      .ok (some [HostCtrl.ascii "D", packet.toPacket.frame]) := by
  unfold osdHostmodEventSend
  rw [DiPacket.getType_toPacket, ok_bind, assertThat_bind htype, if_pos rfl]
  unfold osdHostmodSendPacket
  rw [inBounds_bind (by simp), ok_bind]

theorem sendCharacters_eq (word : Word) (str : List Byte) :
    sendCharacters true
        ⟨4, [desc.diAddr, diaddr, eventFlags, word]⟩ str =
      .ok (osdOk,
        str.map fun c => (characterPacket diaddr desc c).toPacket) := by
  induction str generalizing word with
  | nil => rfl
  | cons c str ih =>
      have hstore : storeWords [desc.diAddr, diaddr, eventFlags, word]
          packetHeaderWordCnt [UInt16.ofNat c.toNat] =
          .ok [desc.diAddr, diaddr, eventFlags, UInt16.ofNat c.toNat] := rfl
      have hpacket : (⟨4, [desc.diAddr, diaddr, eventFlags,
          UInt16.ofNat c.toNat]⟩ : Packet) =
          (characterPacket diaddr desc c).toPacket := rfl
      have hevent : typeOfFlags (characterPacket diaddr desc c).flags =
          osdPacketTypeEvent := (by decide : typeOfFlags eventFlags = _)
      rw [sendCharacters, hstore, ok_bind]
      dsimp only
      rw [hpacket, osdHostmodEventSend_toPacket hevent, ok_bind]
      dsimp only
      rw [← hpacket, ih, ok_bind]
      rfl

/-- One event for each character, in order. -/
theorem osdClDemUartSendString_eq {str : List Byte} (hne : str ≠ []) :
    osdClDemUartSendString true diaddr desc str =
      .ok (osdOk,
        str.map fun c => (characterPacket diaddr desc c).toPacket) := by
  have hheader : osdPacketSetHeader (osdPacketNew 4) desc.diAddr.toNat
      diaddr.toNat osdPacketTypeEvent evLast =
      .ok ⟨4, [desc.diAddr, diaddr, eventFlags, 0]⟩ := by
    rw [osdPacketSetHeader_new (by decide) (by decide) desc.diAddr.toNat_lt
      diaddr.toNat_lt (by decide) (by decide), UInt16.ofNat_toNat,
      UInt16.ofNat_toNat]
    rfl
  have hsize : osdPacketSizeconvPayload2data 1 = .ok 4 := rfl
  unfold osdClDemUartSendString
  rw [assertThat_bind (List.length_pos_iff.mpr hne), hsize, ok_bind, hheader,
    ok_bind, sendCharacters_eq]

theorem osdClDemUartSendString_empty (isConnected : Bool) :
    osdClDemUartSendString isConnected diaddr desc [] =
      .error .assertion := rfl

/-- What is read from the terminal until the thread ends. -/
def typedIn : List TxRound → List Byte
  | [] => []
  | round :: rounds =>
      if round.running = false ∨ round.poll = -1 then []
      else if round.poll = 0 then typedIn rounds
      else round.read.getD [] ++ typedIn rounds

theorem terminalTxThread_eq {rounds : List TxRound} {sent : List Packet}
    (hconnected : ∀ round ∈ rounds, round.isConnected = true)
    (h : terminalTxThread diaddr desc rounds = .ok sent) :
    sent = (typedIn rounds).map fun c =>
      (characterPacket diaddr desc c).toPacket := by
  induction rounds generalizing sent with
  | nil =>
      cases h
      rfl
  | cons round rounds ih =>
      have hrest : ∀ more, terminalTxThread diaddr desc rounds = .ok more →
          more = (typedIn rounds).map fun c =>
            (characterPacket diaddr desc c).toPacket :=
        fun more => ih fun other hother =>
          hconnected other (List.mem_cons_of_mem round hother)
      have hfirst := hconnected round (by simp)
      rw [terminalTxThread] at h
      rw [typedIn]
      split at h
      · rename_i hstopped
        cases h
        rw [if_pos (.inl hstopped)]
        rfl
      · rename_i hrunning
        split at h
        · rename_i hpoll
          cases h
          rw [if_pos (.inr hpoll)]
          rfl
        · rename_i hpoll
          rw [if_neg (not_or.mpr ⟨hrunning, hpoll⟩)]
          split at h
          · rename_i htimeout
            rw [if_pos htimeout]
            exact hrest _ h
          · rename_i htimeout
            rw [if_neg htimeout]
            split at h
            · rename_i hread
              rw [hread]
              exact hrest _ h
            · rename_i buf hread
              obtain ⟨⟨rv, own⟩, hown, h⟩ := bind_eq_ok.mp h
              obtain ⟨more, hmore, h⟩ := bind_eq_ok.mp h
              cases h
              by_cases hempty : buf = []
              · rw [hempty, osdClDemUartSendString_empty] at hown
                cases hown
              · rw [hfirst, osdClDemUartSendString_eq hempty] at hown
                cases hown
                rw [hread, hrest _ hmore, Option.getD_some, List.map_append]

end Sending

end Osd.Client
