import Osd.Foundation.Buffer
import Osd.Gateway.RxThread

/-!
# Packets from a GLIP device

`device_read` and `packet_read_from_device` of `gateway_glip.c`.  A datagram is
one length word and that many data words, high byte first.  `glip_read_b`
delivers the requested bytes in order or fails without consuming any.
-/

namespace Osd.Gateway

open Osd.Foundation

inductive GlipRead where
  | delivered
  | failed (rv : Int) (h : rv ≠ 0)

structure Glip where
  stream : List Byte
  schedule : List GlipRead

def enotconn : Int := 107
def ecanceled : Int := 125

/-- Without a timeout a read blocks until all bytes are there. -/
def glipReadB (glip : Glip) (size : Nat) :
    Outcome (Int × List Byte × Glip) :=
  match glip.schedule with
  | [] => .error .blocked
  | .failed rv _ :: schedule => .ok (rv, [], { glip with schedule })
  | .delivered :: schedule =>
      if size ≤ glip.stream.length then
        .ok (0, glip.stream.take size, ⟨glip.stream.drop size, schedule⟩)
      else .error .blocked

def deviceRead (glip : Glip) (sizeWords : Nat) :
    Outcome (Int × List Word × Glip) := do
  let (rv, bufBe, glip) ← glipReadB glip (sizeWords * 2)
  if rv = -enotconn ∨ rv = -ecanceled then .ok (-enotconn, [], glip)
  else if rv ≠ 0 then .ok (-1, [], glip)
  else .ok (Int.ofNat (bufBe.length / 2), wordsOfStream bufBe, glip)

def packetReadFromDevice (glip : Glip) :
    Outcome (OsdResult × Option Packet × Glip) := do
  let (sRv, buf, glip) ← deviceRead glip 1
  if sRv = -enotconn then .ok (osdErrorNotConnected, none, glip)
  else if sRv ≠ 1 then .ok (osdErrorFailure, none, glip)
  else do
    let pkgSizeWords := (buf.headD 0).toNat
    let pkg := osdPacketNew pkgSizeWords
    let (sRv, buf, glip) ← deviceRead glip pkgSizeWords
    let dataRaw ← storeWords pkg.dataRaw 0 buf
    let pkg := { pkg with dataRaw }
    if sRv = -enotconn then .ok (osdErrorNotConnected, some pkg, glip)
    else if sRv ≠ Int.ofNat pkgSizeWords then
      .ok (osdErrorFailure, some pkg, glip)
    else .ok (osdOk, some pkg, glip)

/-! ## Datagrams -/

structure Datagram where
  words : List Word
  pos : 0 < words.length
  small : words.length < 2 ^ 16

namespace Datagram

def toPacket (datagram : Datagram) : Packet :=
  ⟨UInt16.ofNat datagram.words.length, datagram.words⟩

def bytes (datagram : Datagram) : List Byte :=
  streamOfWords (UInt16.ofNat datagram.words.length :: datagram.words)

end Datagram

def datagramStream (list : List Datagram) : List Byte :=
  list.flatMap Datagram.bytes

@[simp] theorem datagramStream_nil : datagramStream [] = [] := rfl

theorem datagramStream_cons (datagram : Datagram) (list : List Datagram) :
    datagramStream (datagram :: list) =
      highByte (UInt16.ofNat datagram.words.length) ::
        lowByte (UInt16.ofNat datagram.words.length) ::
          (streamOfWords datagram.words ++ datagramStream list) := by
  simp [datagramStream, Datagram.bytes]

/-! ## Single reads -/

/-- A failure that is no loss of the connection. -/
def GlipRead.Sporadic : GlipRead → Prop
  | .delivered => True
  | .failed rv _ => rv ≠ -enotconn ∧ rv ≠ -ecanceled

instance : DecidablePred GlipRead.Sporadic
  | .delivered => inferInstanceAs (Decidable True)
  | .failed rv _ =>
      inferInstanceAs (Decidable (rv ≠ -enotconn ∧ rv ≠ -ecanceled))

theorem deviceRead_failed {rv : Int} {h : rv ≠ 0}
    (hsporadic : (GlipRead.failed rv h).Sporadic) (stream : List Byte)
    (schedule : List GlipRead) (sizeWords : Nat) :
    deviceRead ⟨stream, .failed rv h :: schedule⟩ sizeWords =
      .ok (-1, [], ⟨stream, schedule⟩) := by
  unfold deviceRead glipReadB
  rw [ok_bind]
  dsimp only
  rw [if_neg (not_or.mpr hsporadic), if_pos h]

theorem deviceRead_words (words : List Word) (rest : List Byte)
    (schedule : List GlipRead) :
    deviceRead ⟨streamOfWords words ++ rest, .delivered :: schedule⟩
        words.length =
      .ok (Int.ofNat words.length, words, ⟨rest, schedule⟩) := by
  have hlength : (streamOfWords words).length = words.length * 2 := by
    rw [length_streamOfWords, Nat.mul_comm]
  unfold deviceRead glipReadB
  dsimp only
  rw [if_pos (by rw [List.length_append]; omega),
    List.take_left' hlength, List.drop_left' hlength, ok_bind]
  dsimp only
  rw [if_neg (by decide), if_neg (by decide), wordsOfStream_streamOfWords,
    hlength, Nat.mul_div_cancel _ (by omega)]

theorem deviceRead_short {stream : List Byte} {sizeWords : Nat}
    (hshort : stream.length < sizeWords * 2) (schedule : List GlipRead) :
    deviceRead ⟨stream, .delivered :: schedule⟩ sizeWords =
      .error .blocked := by
  unfold deviceRead glipReadB
  dsimp only
  rw [if_neg (by omega), error_bind]

/-! ## Single packets -/

theorem deviceRead_length (datagram : Datagram) (list : List Datagram)
    (schedule : List GlipRead) :
    deviceRead ⟨datagramStream (datagram :: list), .delivered :: schedule⟩ 1 =
      .ok (1, [UInt16.ofNat datagram.words.length],
        ⟨streamOfWords datagram.words ++ datagramStream list, schedule⟩) := by
  have hsplit : datagramStream (datagram :: list) =
      streamOfWords [UInt16.ofNat datagram.words.length] ++
        (streamOfWords datagram.words ++ datagramStream list) := by
    rw [datagramStream_cons]
    rfl
  rw [hsplit]
  exact deviceRead_words [UInt16.ofNat datagram.words.length] _ schedule

theorem Datagram.toNat_size (datagram : Datagram) :
    (UInt16.ofNat datagram.words.length).toNat = datagram.words.length := by
  rw [UInt16.toNat_ofNat']
  exact Nat.mod_eq_of_lt datagram.small

theorem packetReadFromDevice_lengthFails {rv : Int} {h : rv ≠ 0}
    (hsporadic : (GlipRead.failed rv h).Sporadic) (stream : List Byte)
    (schedule : List GlipRead) :
    packetReadFromDevice ⟨stream, .failed rv h :: schedule⟩ =
      .ok (osdErrorFailure, none, ⟨stream, schedule⟩) := by
  unfold packetReadFromDevice
  rw [deviceRead_failed hsporadic, ok_bind]
  rfl

theorem packetReadFromDevice_dataFails {rv : Int} {h : rv ≠ 0}
    (hsporadic : (GlipRead.failed rv h).Sporadic) (datagram : Datagram)
    (list : List Datagram) (schedule : List GlipRead) :
    packetReadFromDevice
        ⟨datagramStream (datagram :: list),
          .delivered :: .failed rv h :: schedule⟩ =
      .ok (osdErrorFailure, some (osdPacketNew datagram.words.length),
        ⟨streamOfWords datagram.words ++ datagramStream list, schedule⟩) := by
  have hsize : ¬(-1 : Int) = Int.ofNat datagram.words.length := by
    simp only [Int.ofNat_eq_natCast]
    omega
  unfold packetReadFromDevice
  rw [deviceRead_length, ok_bind]
  dsimp only
  rw [if_neg (by decide), if_neg (by decide), List.headD_cons,
    datagram.toNat_size, deviceRead_failed hsporadic, ok_bind]
  dsimp only
  rw [storeWords, inBounds_bind (by simp), ok_bind, if_neg (by decide),
    if_pos hsize]
  simp

theorem packetReadFromDevice_ok (datagram : Datagram) (list : List Datagram)
    (schedule : List GlipRead) :
    packetReadFromDevice
        ⟨datagramStream (datagram :: list),
          .delivered :: .delivered :: schedule⟩ =
      .ok (osdOk, some datagram.toPacket,
        ⟨datagramStream list, schedule⟩) := by
  have hsize : ¬Int.ofNat datagram.words.length = -enotconn := by
    simp only [Int.ofNat_eq_natCast, enotconn]
    omega
  unfold packetReadFromDevice
  rw [deviceRead_length, ok_bind]
  dsimp only
  rw [if_neg (by decide), if_neg (by decide), List.headD_cons,
    datagram.toNat_size, deviceRead_words, ok_bind]
  dsimp only
  rw [storeWords, inBounds_bind (by simp [osdPacketNew]), ok_bind,
    if_neg hsize, if_neg (by simp)]
  simp [osdPacketNew, Datagram.toPacket]

theorem packetReadFromDevice_starved (schedule : List GlipRead) :
    packetReadFromDevice ⟨[], .delivered :: schedule⟩ = .error .blocked := by
  unfold packetReadFromDevice
  rw [deviceRead_short (by simp), error_bind]

theorem packetReadFromDevice_ends (datagram : Datagram)
    (list : List Datagram) :
    packetReadFromDevice ⟨datagramStream (datagram :: list), [.delivered]⟩ =
      .error .blocked := by
  unfold packetReadFromDevice
  rw [deviceRead_length, ok_bind]
  rfl

end Osd.Gateway
