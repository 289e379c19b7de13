import Osd.Foundation.Buffer
import Osd.Packet

/-!
# The client of the memory access module

The functions of `cl_mam.c`.  The host module is seen through the event packets
that it sends and receives.  `Link` stands for everything behind it: which
result a send has, and which messages it brings into the receive queue.
Sizes are unsigned with 32 bit for `unsigned int` and 64 bit for `size_t`.
-/

namespace Osd.Mam

open Osd.Foundation

/-! ## The host module -/

/-- The result of one `osd_hostmod_event_receive`. -/
inductive Received where
  | packet (packet : Packet)
  | failed (rv : OsdResult) (h : osdFailed rv = true)

structure Link (δ : Type) where
  onSend : δ → Packet → OsdResult × List Received × δ

inductive Io where
  | sent (packet : Packet) (rv : OsdResult)
  | received (result : Received)

structure Session (δ : Type) where
  diaddr : Nat
  dev : δ
  rx : List Received
  trace : List Io

variable {δ : Type}

def osdMaxPkgLenWords : Nat := 8

def osdHostmodGetMaxEventWords : Outcome Nat :=
  osdPacketSizeconvData2payload osdMaxPkgLenWords

def osdHostmodEventSend (link : Link δ) (s : Session δ) (packet : Packet) :
    Outcome (OsdResult × Session δ) := do
  let type ← osdPacketGetType packet
  assertThat (type = osdPacketTypeEvent)
  let (rv, rx, dev) := link.onSend s.dev packet
  .ok (rv, { s with
    dev, rx := s.rx ++ rx, trace := s.trace ++ [.sent packet rv] })

/-- A blocking receive: without a message it does not return. -/
def osdHostmodEventReceive (s : Session δ) :
    Outcome (Received × Session δ) :=
  match s.rx with
  | [] => .error .blocked
  | result :: rx =>
      .ok (result, { s with rx, trace := s.trace ++ [.received result] })

/-! ## Transfers -/

structure MemDesc where
  diAddr : Nat
  dataWidthBit : Nat
  addrWidthBit : Nat

namespace MemDesc

def dwB (desc : MemDesc) : Nat := desc.dataWidthBit / 8

def awB (desc : MemDesc) : Nat := desc.addrWidthBit / 8

end MemDesc

/-- `INT_DIV_CEIL` on `size_t`. -/
def intDivCeil (x y : Nat) : Nat := 1 + (x + 2 ^ 64 - 1) % 2 ^ 64 / y

/-- First byte and payload words of packet `pkgIdx` of a transfer. -/
def pkgRange (maxBytesPerPkg transferSize pkgIdx : Nat) : Nat × Nat :=
  let posStart := pkgIdx * maxBytesPerPkg % 2 ^ 32
  let posEnd := (posStart + maxBytesPerPkg) % 2 ^ 32
  let posEnd := if posEnd > transferSize then transferSize else posEnd
  let pkgPayloadSizeBytes := (posEnd + 2 ^ 32 - posStart) % 2 ^ 32
  (posStart, pkgPayloadSizeBytes / 2)

def pkgInTransfer (desc : MemDesc) (diaddr : Nat) (transfer : List Byte)
    (pkgIdx : Nat) : Outcome Packet := do
  let maxWordsPerPkg ← osdHostmodGetMaxEventWords
  let (posStart, pkgPayloadSizeWords) :=
    pkgRange (maxWordsPerPkg * 2 % 2 ^ 32) transfer.length pkgIdx
  let pkgDataSize ← osdPacketSizeconvPayload2data pkgPayloadSizeWords
  let p ← osdPacketSetHeader (osdPacketNew pkgDataSize) desc.diAddr diaddr
    osdPacketTypeEvent 0
  let bytes ← loadBytes transfer posStart (2 * pkgPayloadSizeWords)
  let dataRaw ← storeWords p.dataRaw packetHeaderWordCnt (wordsOfStream bytes)
  .ok { p with dataRaw }

def numPkgsForTransfer (transferSize : Nat) : Outcome Nat := do
  let wordsPerPkg ← osdHostmodGetMaxEventWords
  let bytesPerPkg := wordsPerPkg * 2 % 2 ^ 32
  .ok (intDivCeil transferSize bytesPerPkg % 2 ^ 32)

/-- The address bytes of a request, the most significant one first. -/
def addressBytes (awB startAddr : Nat) : List Byte :=
  (List.range awB).map fun i =>
    UInt8.ofNat (startAddr >>> ((awB - i - 1) * 8) &&& 0xFF)

/-- A read request has no data. -/
def createMamTransfer (desc : MemDesc) (data : List Byte) (startAddr : Nat)
    (we burst sync : Bool) (selsize : Nat) : Outcome (List Byte) := do
  let nbyte := data.length
  assertThat ((we = true ∧ nbyte ≠ 0) ∨ (we = false ∧ nbyte = 0))
  assertThat (nbyte % desc.dwB = 0)
  assertThat (startAddr % desc.awB = 0)
  assertThat (burst = true → selsize ≠ 0)
  assertThat (burst = true → we = true → selsize = nbyte / desc.dwB)
  let hdr0 := UInt8.ofNat
    (we.toNat <<< 7 ||| burst.toNat <<< 6 ||| sync.toNat <<< 5)
  let hdr1 := UInt8.ofNat selsize
  .ok (hdr0 :: hdr1 :: addressBytes desc.awB startAddr ++ data)

def sendPkgs (link : Link δ) (desc : MemDesc) (transfer : List Byte) :
    Nat → Nat → Session δ → Outcome (OsdResult × Session δ)
  | 0, _, s => .ok (osdOk, s)
  | count + 1, i, s => do
      let pkg ← pkgInTransfer desc s.diaddr transfer i
      let (rv, s) ← osdHostmodEventSend link s pkg
      if osdFailed rv then .ok (rv, s)
      else sendPkgs link desc transfer count (i + 1) s

def sendMamTransfer (link : Link δ) (desc : MemDesc) (s : Session δ)
    (transfer : List Byte) : Outcome (OsdResult × Session δ) := do
  let numpkgs ← numPkgsForTransfer transfer.length
  sendPkgs link desc transfer numpkgs 0 s

/-! ## Alignment -/

/-- The sizes of prolog, bulk part and epilog. -/
def calculateParts (startAddr nbyte dwB : Nat) : Nat × Nat × Nat :=
  if nbyte < dwB then (nbyte, 0, 0)
  else
    let prolog := (dwB + 2 ^ 64 - startAddr) % 2 ^ 64 % dwB
    let epilog := (startAddr + nbyte) % 2 ^ 64 % dwB
    (prolog, (nbyte + 2 ^ 65 - prolog - epilog) % 2 ^ 64, epilog)

/-- The mask of the bytes `baddr, …, baddr + nbyte - 1` of a word. -/
def byteSelect (dwB baddr nbyte : Nat) : Byte :=
  (List.range dwB).foldl
    (fun bs i =>
      if baddr ≤ i ∧ i < baddr + nbyte then bs ||| UInt8.ofNat (1 <<< i)
      else bs) 0

def alignDataToWord (baddr : Nat) (data : List Byte) (dwB : Nat) :
    Outcome (List Byte × Byte) := do
  assertThat (baddr + data.length ≤ dwB)
  let bs := byteSelect dwB baddr data.length
  assertThat (bs ≠ 0)
  let word ← storeBytes (List.replicate dwB 0) baddr data
  .ok (word, bs)

/-! ## Writing -/

def mamWrite (link : Link δ) (desc : MemDesc) (s : Session δ)
    (data : List Byte) (startAddr : Nat) (burst sync : Bool)
    (selsize : Byte) : Outcome (OsdResult × Session δ) := do
  let transfer ← createMamTransfer desc data startAddr true burst sync
    selsize.toNat
  let (rv, s) ← sendMamTransfer link desc s transfer
  if osdFailed rv then .ok (rv, s)
  else if sync then do
    let (result, s) ← osdHostmodEventReceive s
    match result with
    | .packet _ => .ok (osdOk, s)
    | .failed rv _ => .ok (rv, s)
  else .ok (osdOk, s)

def writeSingle (link : Link δ) (desc : MemDesc) (s : Session δ)
    (data : List Byte) (startAddr : Nat) (sync : Bool) :
    Outcome (OsdResult × Session δ) := do
  let baddr := startAddr % desc.dwB % 2 ^ 8
  let (word, bs) ← alignDataToWord baddr data desc.dwB
  mamWrite link desc s word (startAddr - baddr) false sync bs

def mamMaxBurstWords : Nat := 255

/-- Start and size of transfer `t` of a burst. -/
def burstPart (maxBulk nbyte t : Nat) : Nat × Nat :=
  let tposStart := t * maxBulk % 2 ^ 32
  let tposEnd := (tposStart + maxBulk) % 2 ^ 64
  let tposEnd := if tposEnd > nbyte then nbyte else tposEnd
  (tposStart, (tposEnd + 2 ^ 64 - tposStart) % 2 ^ 64)

def writeBursts (link : Link δ) (desc : MemDesc) (data : List Byte)
    (startAddr : Nat) (sync : Bool) (maxBulk numTransfers : Nat) :
    Nat → Nat → Session δ → Outcome (OsdResult × Session δ)
  | 0, _, s => .ok (osdOk, s)
  | count + 1, t, s => do
      let (tposStart, size) := burstPart maxBulk data.length t
      let syncLast := sync && t = numTransfers - 1
      let part ← loadBytes data tposStart size
      let (rv, s) ← mamWrite link desc s part
        ((startAddr + tposStart) % 2 ^ 64) true syncLast
        (UInt8.ofNat (size / desc.dwB))
      if osdFailed rv then .ok (rv, s)
      else
        writeBursts link desc data startAddr sync maxBulk numTransfers count
          (t + 1) s

def writeBurst (link : Link δ) (desc : MemDesc) (s : Session δ)
    (data : List Byte) (startAddr : Nat) (sync : Bool) :
    Outcome (OsdResult × Session δ) := do
  assertThat (data.length % desc.dwB = 0)
  assertThat (startAddr % desc.awB = 0)
  let maxBulk := mamMaxBurstWords * desc.dwB % 2 ^ 32
  let numTransfers := intDivCeil data.length maxBulk % 2 ^ 32
  writeBursts link desc data startAddr sync maxBulk numTransfers
    numTransfers 0 s

/-- A part of size zero is skipped, also after a failure. -/
def unlessEmpty (size : Nat) (before : OsdResult × Session δ)
    (call : Session δ → Outcome (OsdResult × Session δ)) :
    Outcome (OsdResult × Session δ) :=
  if osdFailed before.1 = true ∨ size = 0 then .ok before else call before.2

def osdClMamWrite (link : Link δ) (desc : MemDesc) (s : Session δ)
    (data : List Byte) (startAddr : Nat) :
    Outcome (OsdResult × Session δ) := do
  assertThat (desc.dwB ≠ 0)
  let (prolog, bulk, epilog) :=
    calculateParts startAddr data.length desc.dwB
  let afterProlog ← unlessEmpty prolog (osdOk, s) fun s => do
    let part ← loadBytes data 0 prolog
    writeSingle link desc s part startAddr (bulk = 0 ∧ epilog = 0)
  let afterBulk ← unlessEmpty bulk afterProlog fun s => do
    let part ← loadBytes data prolog bulk
    writeBurst link desc s part ((startAddr + prolog) % 2 ^ 64) (epilog = 0)
  unlessEmpty epilog afterBulk fun s => do
    let part ← loadBytes data (prolog + bulk) epilog
    writeSingle link desc s part ((startAddr + prolog + bulk) % 2 ^ 64) true

/-! ## Reading

The caller's buffer is passed and returned; a store outside of it is a fault. -/

/-- The payload words of a packet, high byte first. -/
def payloadBytes (pkg : Packet) (payloadSizeWords : Nat) :
    Outcome (List Byte) := do
  inBounds (packetHeaderWordCnt + payloadSizeWords ≤ pkg.dataRaw.length)
  .ok (streamOfWords
    ((pkg.dataRaw.drop packetHeaderWordCnt).take payloadSizeWords))

/-- Every round takes one message off the queue, so its length bounds the
rounds; a round without a message does not return. -/
def receiveData (nbyte offset : Nat) :
    Nat → Session δ → List Byte → Nat →
      Outcome (OsdResult × List Byte × Session δ)
  | 0, _, _, _ => .error .blocked
  | fuel + 1, s, buf, rxNbyte => do
      let (result, s) ← osdHostmodEventReceive s
      match result with
      | .failed rv _ => .ok (rv, buf, s)
      | .packet pkg => do
          let payloadSizeWords ←
            osdPacketSizeconvData2payload pkg.dataSizeWords.toNat
          let bytes ← payloadBytes pkg payloadSizeWords
          let buf ← storeBytes buf (offset + rxNbyte) bytes
          let rxNbyte := rxNbyte + bytes.length
          if rxNbyte < nbyte then
            receiveData nbyte offset fuel s buf rxNbyte
          else .ok (osdOk, buf, s)

/-- Reads `nbyte` bytes to the position `offset` of the buffer. -/
def mamRead (link : Link δ) (desc : MemDesc) (s : Session δ)
    (buf : List Byte) (offset nbyte startAddr : Nat) (burst : Bool)
    (selsize : Byte) : Outcome (OsdResult × List Byte × Session δ) := do
  let transfer ← createMamTransfer desc [] startAddr false burst false
    selsize.toNat
  let (rv, s) ← sendMamTransfer link desc s transfer
  if osdFailed rv then .ok (rv, buf, s)
  else receiveData nbyte offset (s.rx.length + 1) s buf 0

/-- The bytes are copied out of the word also after a failure. -/
def readSingle (link : Link δ) (desc : MemDesc) (s : Session δ)
    (buf : List Byte) (offset nbyte startAddr : Nat) :
    Outcome (OsdResult × List Byte × Session δ) := do
  let baddr := startAddr % desc.dwB % 2 ^ 8
  let data ← loadBytes buf offset nbyte
  let (word, bs) ← alignDataToWord baddr data desc.dwB
  let (rv, word, s) ← mamRead link desc s word 0 desc.dwB (startAddr - baddr)
    false bs
  let bytes ← loadBytes word baddr nbyte
  let buf ← storeBytes buf offset bytes
  .ok (rv, buf, s)

def readBursts (link : Link δ) (desc : MemDesc)
    (offset nbyte startAddr maxBulk : Nat) :
    Nat → Nat → List Byte → Session δ →
      Outcome (OsdResult × List Byte × Session δ)
  | 0, _, buf, s => .ok (osdOk, buf, s)
  | count + 1, t, buf, s => do
      let (tposStart, size) := burstPart maxBulk nbyte t
      let (rv, buf, s) ← mamRead link desc s buf (offset + tposStart) size
        ((startAddr + tposStart) % 2 ^ 64) true
        (UInt8.ofNat (size / desc.dwB))
      if osdFailed rv then .ok (rv, buf, s)
      else
        readBursts link desc offset nbyte startAddr maxBulk count (t + 1)
          buf s

def readBurst (link : Link δ) (desc : MemDesc) (s : Session δ)
    (buf : List Byte) (offset nbyte startAddr : Nat) :
    Outcome (OsdResult × List Byte × Session δ) := do
  assertThat (nbyte % desc.dwB = 0)
  assertThat (startAddr % desc.awB = 0)
  let maxBulk := mamMaxBurstWords * desc.dwB % 2 ^ 32
  let numTransfers := intDivCeil nbyte maxBulk % 2 ^ 32
  readBursts link desc offset nbyte startAddr maxBulk numTransfers 0 buf s

def unlessEmptyRead (size : Nat)
    (before : OsdResult × List Byte × Session δ)
    (call : List Byte → Session δ →
      Outcome (OsdResult × List Byte × Session δ)) :
    Outcome (OsdResult × List Byte × Session δ) :=
  if osdFailed before.1 = true ∨ size = 0 then .ok before
  else call before.2.1 before.2.2

/-- The buffer `buf` has the size `nbyte`. -/
def osdClMamRead (link : Link δ) (desc : MemDesc) (s : Session δ)
    (buf : List Byte) (startAddr : Nat) :
    Outcome (OsdResult × List Byte × Session δ) := do
  let (prolog, bulk, epilog) := calculateParts startAddr buf.length desc.dwB
  let afterProlog ← unlessEmptyRead prolog (osdOk, buf, s) fun buf s =>
    readSingle link desc s buf 0 prolog startAddr
  let afterBulk ← unlessEmptyRead bulk afterProlog fun buf s =>
    readBurst link desc s buf prolog bulk ((startAddr + prolog) % 2 ^ 64)
  unlessEmptyRead epilog afterBulk fun buf s =>
    readSingle link desc s buf (prolog + bulk) epilog
      ((startAddr + prolog + bulk) % 2 ^ 64)

end Osd.Mam
