import Osd.Foundation.Memory
import Osd.Foundation.StreamDecoder
import Osd.Mam.Client

/-!
# The reference memory access module

The module that the client talks to: it takes requests off the byte stream of
the event payloads, executes them on its memory and answers reads.  How it
distributes an answer over packets is left open.
-/

namespace Osd.Mam

open Osd.Foundation

/-- The widths that the client is used with. -/
structure MemDesc.Supported (desc : MemDesc) : Prop where
  addrWidth : desc.addrWidthBit = 16 ∨ desc.addrWidthBit = 32 ∨
    desc.addrWidthBit = 64
  dataWidth : desc.dataWidthBit = 16 ∨ desc.dataWidthBit = 32 ∨
    desc.dataWidthBit = 64

namespace MemDesc.Supported

variable {desc : MemDesc}

theorem awB_cases (h : desc.Supported) :
    desc.awB = 2 ∨ desc.awB = 4 ∨ desc.awB = 8 := by
  have haddr := h.addrWidth
  unfold MemDesc.awB
  omega

theorem dwB_cases (h : desc.Supported) :
    desc.dwB = 2 ∨ desc.dwB = 4 ∨ desc.dwB = 8 := by
  have hdata := h.dataWidth
  unfold MemDesc.dwB
  omega

theorem addrs_le (h : desc.Supported) : 256 ^ desc.awB ≤ 2 ^ 64 := by
  rcases h.awB_cases with haw | haw | haw <;> rw [haw] <;> norm_num

theorem baddr_eq (h : desc.Supported) (startAddr : Nat) :
    startAddr % desc.dwB % 2 ^ 8 = startAddr % desc.dwB := by
  have hdw := h.dwB_cases
  have hlt : startAddr % desc.dwB < desc.dwB := Nat.mod_lt _ (by omega)
  exact Nat.mod_eq_of_lt (by omega)

end MemDesc.Supported

/-- The payload of a packet as a byte stream, high byte of each word first. -/
def payloadStream (packet : Packet) : List Byte :=
  streamOfWords ((packet.dataRaw.drop packetHeaderWordCnt).take
    (packet.dataSizeWords.toNat - packetHeaderWordCnt))

@[simp] theorem payloadStream_toPacket (packet : DiPacket) :
    payloadStream packet.toPacket = streamOfWords packet.payload := by
  simp [payloadStream]

/-! ## Requests -/

structure MamRequest where
  we : Bool
  burst : Bool
  sync : Bool
  selsize : Nat
  addr : Nat
  data : List Byte

def dataLength (dwB : Nat) (we burst : Bool) (selsize : Nat) : Nat :=
  if we then if burst then selsize * dwB else dwB else 0

def bigEndianValue (bytes : List Byte) : Nat :=
  bytes.foldl (fun value byte => 256 * value + byte.toNat) 0

def decodeRequest (desc : MemDesc) :
    List Byte → Option (MamRequest × List Byte)
  | hdr0 :: hdr1 :: rest =>
      let we := hdr0.toNat.testBit 7
      let burst := hdr0.toNat.testBit 6
      let count := dataLength desc.dwB we burst hdr1.toNat
      if rest.length < desc.awB + count then none
      else some
        (⟨we, burst, hdr0.toNat.testBit 5, hdr1.toNat,
          bigEndianValue (rest.take desc.awB),
          (rest.drop desc.awB).take count⟩,
          rest.drop (desc.awB + count))
  | _ => none

/-- What a request does to the memory. -/
def execute (mem : Memory Byte) (request : MamRequest) : Memory Byte :=
  if request.we then
    if request.burst then mem.write request.addr request.data
    else mem.writeMasked request.addr request.selsize.testBit request.data
  else mem

def executeAll (mem : Memory Byte) (requests : List MamRequest) :
    Memory Byte :=
  requests.foldl execute mem

/-! ## Answers -/

def packets (list : List DiPacket) : List Received :=
  list.map fun packet => .packet packet.toPacket

def packetsStream (list : List DiPacket) : List Byte :=
  list.flatMap fun packet => streamOfWords packet.payload

/-- The bytes that answer a read: all bytes of a burst, of a single word only
those that the byte select covers. -/
structure ReadAnswer (dwB : Nat) (mem : Memory Byte) (request : MamRequest)
    (bytes : List Byte) : Prop where
  length : bytes.length =
    if request.burst then request.selsize * dwB else dwB
  value : ∀ i, (h : i < bytes.length) →
    (request.burst = true ∨ request.selsize.testBit i = true) →
      bytes[i] = mem (request.addr + i)

inductive Answers (dwB : Nat) (mem : Memory Byte) (request : MamRequest) :
    List Received → Prop
  | posted (hwe : request.we = true) (hsync : request.sync = false) :
      Answers dwB mem request []
  | acknowledged (hwe : request.we = true) (hsync : request.sync = true)
      (packet : DiPacket) (hempty : packet.payload = []) :
      Answers dwB mem request (packets [packet])
  | read (hwe : request.we = false) (list : List DiPacket)
      (hbytes : ReadAnswer dwB mem request (packetsStream list)) :
      Answers dwB mem request (packets list)

/-- The requests are executed one after the other. -/
inductive Reacts (dwB : Nat) :
    Memory Byte → List MamRequest → List Received → Memory Byte → Prop
  | done {mem : Memory Byte} : Reacts dwB mem [] [] mem
  | next {mem mem' : Memory Byte} {request : MamRequest}
      {requests : List MamRequest} {answer rest : List Received}
      (hanswer : Answers dwB mem request answer)
      (hrest : Reacts dwB (execute mem request) requests rest mem') :
      Reacts dwB mem (request :: requests) (answer ++ rest) mem'

structure MamState where
  pending : List Byte
  mem : Memory Byte

/-- The other end of the link is a memory access module, of which `view` shows
the bytes of an incomplete request and the memory. -/
structure IsMam {δ : Type} (desc : MemDesc) (link : Link δ) (view : δ → MamState) :
    Prop where
  onSend : ∀ dev packet, ∃ requests rx dev',
    link.onSend dev packet = (osdOk, rx, dev') ∧
      Drains (decodeRequest desc)
        ((view dev).pending ++ payloadStream packet) requests
        (view dev').pending ∧
      Reacts desc.dwB (view dev).mem requests rx (view dev').mem

/-! ## Decoding -/

theorem decodeRequest_stable (desc : MemDesc) : Stable (decodeRequest desc) := by
  intro stream request rest more h
  match stream with
  | [] => simp [decodeRequest] at h
  | [_] => simp [decodeRequest] at h
  | hdr0 :: hdr1 :: tail =>
      simp only [decodeRequest] at h
      split at h
      · cases h
      · rename_i hlong
        obtain ⟨rfl, rfl⟩ := Prod.mk.inj (Option.some.inj h)
        have hlong' : ¬(tail ++ more).length <
            desc.awB + dataLength desc.dwB (hdr0.toNat.testBit 7)
              (hdr0.toNat.testBit 6) hdr1.toNat := by
          rw [List.length_append]
          omega
        simp only [List.cons_append, decodeRequest, if_neg hlong']
        rw [List.take_append_of_le_length (by omega),
          List.drop_append_of_le_length (by omega),
          List.take_append_of_le_length (by rw [List.length_drop]; omega),
          List.drop_append_of_le_length (by omega)]

theorem decodeRequest_shrinks (desc : MemDesc) (stream : List Byte)
    (request : MamRequest) (rest : List Byte)
    (h : decodeRequest desc stream = some (request, rest)) :
    rest.length < stream.length := by
  match stream with
  | [] => simp [decodeRequest] at h
  | [_] => simp [decodeRequest] at h
  | hdr0 :: hdr1 :: tail =>
      simp only [decodeRequest] at h
      split at h
      · cases h
      · obtain ⟨-, rfl⟩ := Prod.mk.inj (Option.some.inj h)
        simp only [List.length_drop, List.length_cons]
        omega

theorem executeAll_append (mem : Memory Byte)
    (first second : List MamRequest) :
    executeAll mem (first ++ second) =
      executeAll (executeAll mem first) second :=
  List.foldl_append

theorem Reacts.mem_eq {dwB : Nat} {mem mem' : Memory Byte}
    {requests : List MamRequest} {rx : List Received}
    (h : Reacts dwB mem requests rx mem') : mem' = executeAll mem requests := by
  induction h with
  | done => rfl
  | next _ _ ih => exact ih

theorem Reacts.append {dwB : Nat} {mem mem' mem'' : Memory Byte}
    {first second : List MamRequest} {rx rx' : List Received}
    (h : Reacts dwB mem first rx mem') (h' : Reacts dwB mem' second rx' mem'') :
    Reacts dwB mem (first ++ second) (rx ++ rx') mem'' := by
  induction h with
  | done => exact h'
  | next hanswer _ ih =>
      rw [List.append_assoc]
      exact .next hanswer (ih h')

theorem Reacts.single {dwB : Nat} {mem mem' : Memory Byte}
    {request : MamRequest} {rx : List Received}
    (h : Reacts dwB mem [request] rx mem') : Answers dwB mem request rx := by
  cases h with
  | next hanswer hrest =>
      cases hrest with
      | done => rwa [List.append_nil]

/-! ## An executable module -/

def wordPacket (word : Word) : DiPacket :=
  ⟨0, 0, 0, [word], DiPacket.single_fits word⟩

/-- An answer in packets of one word each. -/
def wordPackets (bytes : List Byte) : List DiPacket :=
  (wordsOfStream bytes).map wordPacket

def answerPackets (dwB : Nat) (mem : Memory Byte) (request : MamRequest) :
    List DiPacket :=
  if request.we then if request.sync then [⟨0, 0, 0, [], by simp⟩] else []
  else wordPackets (mem.read request.addr
    (if request.burst then request.selsize * dwB else dwB))

def reactAll (dwB : Nat) (mem : Memory Byte) :
    List MamRequest → List Received
  | [] => []
  | request :: requests =>
      packets (answerPackets dwB mem request) ++
        reactAll dwB (execute mem request) requests

def mamLink (desc : MemDesc) : Link MamState where
  onSend dev packet :=
    let stream := dev.pending ++ payloadStream packet
    let (requests, pending) := drain (decodeRequest desc) stream.length stream
    (osdOk, reactAll desc.dwB dev.mem requests,
      ⟨pending, executeAll dev.mem requests⟩)

theorem packetsStream_wordPackets {bytes : List Byte}
    (heven : bytes.length % 2 = 0) :
    packetsStream (wordPackets bytes) = bytes := by
  have hwords : ∀ words : List Word,
      packetsStream (words.map wordPacket) = streamOfWords words := by
    intro words
    induction words with
    | nil => rfl
    | cons word words ih =>
        simp only [packetsStream] at ih
        simp [packetsStream, wordPacket, ih]
  rw [wordPackets, hwords, streamOfWords_wordsOfStream _ heven]

theorem answers_answerPackets {dwB : Nat} (heven : dwB % 2 = 0)
    (mem : Memory Byte) (request : MamRequest) :
    Answers dwB mem request (packets (answerPackets dwB mem request)) := by
  unfold answerPackets
  cases hwe : request.we with
  | true =>
      cases hsync : request.sync with
      | true => exact .acknowledged hwe hsync _ rfl
      | false => exact .posted hwe hsync
  | false =>
      simp only [Bool.false_eq_true, if_false]
      refine .read hwe _ ?_
      rw [packetsStream_wordPackets]
      · constructor
        · simp
        · intro i hi _
          simp [Memory.read]
      · rw [Memory.length_read]
        split
        · rw [Nat.mul_mod, heven, Nat.mul_zero]
        · exact heven

theorem reacts_reactAll {dwB : Nat} (heven : dwB % 2 = 0) (mem : Memory Byte)
    (requests : List MamRequest) :
    Reacts dwB mem requests (reactAll dwB mem requests)
      (executeAll mem requests) := by
  induction requests generalizing mem with
  | nil => exact .done
  | cons request requests ih =>
      exact .next (answers_answerPackets heven mem request) (ih _)

theorem isMam_mamLink {desc : MemDesc} (hdesc : desc.Supported) :
    IsMam desc (mamLink desc) id := by
  have heven : desc.dwB % 2 = 0 := by
    have := hdesc.dwB_cases
    omega
  constructor
  intro dev packet
  refine ⟨_, _, _, rfl, ?_, reacts_reactAll heven _ _⟩
  exact drains_drain rfl (decodeRequest_shrinks desc) _ _ (Nat.le_refl _)

end Osd.Mam
