import Osd.Gateway.Glip

/-!
# Packets on a GLIP device

`device_write` and `packet_write_to_device` of `gateway_glip.c`, and the two
directions of the codec: what is written is read back, and what is read is
written again.
-/

namespace Osd.Gateway

open Osd.Foundation

/-! ## Writing -/

inductive GlipWrite where
  | written
  | short (bytes : Nat)
  | failed (rv : Int) (h : rv ≠ 0)

/-- The bytes that the device got, and the results of the writes that
follow. -/
structure GlipOut where
  stream : List Byte
  schedule : List GlipWrite

def glipWriteB (out : GlipOut) (bytes : List Byte) :
    Outcome (Int × Nat × GlipOut) :=
  match out.schedule with
  | [] => .error .blocked
  | .failed rv _ :: schedule => .ok (rv, 0, { out with schedule })
  | .short count :: schedule =>
      .ok (0, (bytes.take count).length,
        ⟨out.stream ++ bytes.take count, schedule⟩)
  | .written :: schedule =>
      .ok (0, bytes.length, ⟨out.stream ++ bytes, schedule⟩)

def deviceWrite (out : GlipOut) (buf : List Word) :
    Outcome (Int × GlipOut) := do
  let (rv, bytesWritten, out) ← glipWriteB out (streamOfWords buf)
  if rv = -enotconn ∨ rv = -ecanceled then .ok (-enotconn, out)
  else if rv ≠ 0 then .ok (-1, out)
  else .ok (Int.ofNat (bytesWritten / 2), out)

/-- The packet is written as it lies in memory, the size field in front. -/
def packetWriteToDevice (out : GlipOut) (pkg : Packet) :
    Outcome (OsdResult × GlipOut) := do
  let pkgDtdSizeWords := 1 + pkg.dataSizeWords.toNat
  let pkgDtd ← loadBytes (pkg.dataSizeWords :: pkg.dataRaw) 0 pkgDtdSizeWords
  let (sRv, out) ← deviceWrite out pkgDtd
  if sRv = -enotconn then .ok (osdErrorNotConnected, out)
  else if sRv < 0 then .ok (osdErrorFailure, out)
  else if sRv ≠ Int.ofNat pkgDtdSizeWords then .ok (osdErrorFailure, out)
  else .ok (osdOk, out)

/-! ## Many packets -/

def writePackets : List Packet → GlipOut → Outcome (OsdResult × GlipOut)
  | [], out => .ok (osdOk, out)
  | pkg :: pkgs, out => do
      let (rv, out) ← packetWriteToDevice out pkg
      if osdFailed rv then .ok (rv, out) else writePackets pkgs out

def reliable (writes : Nat) : GlipOut := ⟨[], List.replicate writes .written⟩

def readPacket (stream : List Byte) :
    Outcome (OsdResult × Option Packet × Glip) :=
  packetReadFromDevice ⟨stream, [.delivered, .delivered]⟩

def readPackets : Nat → List Byte → List Packet × List Byte
  | 0, stream => ([], stream)
  | fuel + 1, stream =>
      match readPacket stream with
      | .ok (rv, some pkg, glip) =>
          if osdFailed rv then ([], stream)
          else
            let (pkgs, rest) := readPackets fuel glip.stream
            (pkg :: pkgs, rest)
      | _ => ([], stream)

/-! ## Single packets -/

/-- A packet whose area has the size that it says. -/
structure Packet.Sized (pkg : Packet) : Prop where
  size : pkg.dataRaw.length = pkg.dataSizeWords.toNat

def dtdBytes (pkg : Packet) : List Byte :=
  streamOfWords (pkg.dataSizeWords :: pkg.dataRaw)

theorem packetWriteToDevice_ok {pkg : Packet} (h : Packet.Sized pkg)
    (stream : List Byte) (schedule : List GlipWrite) :
    packetWriteToDevice ⟨stream, .written :: schedule⟩ pkg =
      .ok (osdOk, ⟨stream ++ dtdBytes pkg, schedule⟩) := by
  have hload : loadBytes (pkg.dataSizeWords :: pkg.dataRaw) 0
      (1 + pkg.dataSizeWords.toNat) =
        .ok (pkg.dataSizeWords :: pkg.dataRaw) := by
    have hall : 1 + pkg.dataSizeWords.toNat =
        (pkg.dataSizeWords :: pkg.dataRaw).length := by
      rw [List.length_cons, h.size, Nat.add_comm]
    rw [loadBytes_eq (by rw [hall, Nat.zero_add]), hall, List.drop_zero,
      List.take_length]
  have hcount : (dtdBytes pkg).length / 2 = 1 + pkg.dataSizeWords.toNat := by
    rw [dtdBytes, length_streamOfWords, List.length_cons, h.size]
    omega
  unfold packetWriteToDevice
  dsimp only
  rw [hload, ok_bind]
  unfold deviceWrite glipWriteB
  rw [ok_bind]
  dsimp only
  rw [if_neg (by decide), if_neg (by decide), ok_bind]
  dsimp only
  rw [show streamOfWords (pkg.dataSizeWords :: pkg.dataRaw) = dtdBytes pkg
    from rfl, hcount, if_neg, if_neg, if_neg (by simp)]
  · simp only [Int.ofNat_eq_natCast]
    omega
  · simp only [Int.ofNat_eq_natCast, enotconn]
    omega

theorem writePackets_ok {pkgs : List Packet}
    (h : ∀ pkg ∈ pkgs, Packet.Sized pkg) (stream : List Byte) :
    writePackets pkgs ⟨stream, List.replicate pkgs.length .written⟩ =
      .ok (osdOk, ⟨stream ++ pkgs.flatMap dtdBytes, []⟩) := by
  induction pkgs generalizing stream with
  | nil => simp [writePackets]
  | cons pkg pkgs ih =>
      have hrest : ∀ pkg ∈ pkgs, Packet.Sized pkg := fun pkg hpkg =>
        h pkg (List.mem_cons_of_mem _ hpkg)
      unfold writePackets
      rw [List.length_cons, List.replicate_succ,
        packetWriteToDevice_ok (h pkg List.mem_cons_self), ok_bind]
      dsimp only
      rw [if_neg (by simp), ih hrest]
      simp

theorem readPacket_ok {pkg : Packet} (h : Packet.Sized pkg)
    (rest : List Byte) :
    readPacket (dtdBytes pkg ++ rest) = .ok (osdOk, some pkg, ⟨rest, []⟩) := by
  have hlength := deviceRead_words [pkg.dataSizeWords]
    (streamOfWords pkg.dataRaw ++ rest) [.delivered]
  have hdata := deviceRead_words pkg.dataRaw rest []
  have hsplit : dtdBytes pkg ++ rest = streamOfWords [pkg.dataSizeWords] ++
      (streamOfWords pkg.dataRaw ++ rest) := by
    simp [dtdBytes]
  rw [List.length_singleton] at hlength
  rw [h.size] at hdata
  unfold readPacket packetReadFromDevice
  rw [hsplit, hlength, ok_bind]
  dsimp only
  rw [if_neg (by decide), if_neg (by decide), List.headD_cons, hdata, ok_bind]
  dsimp only
  rw [storeWords, inBounds_bind (by simp [osdPacketNew, h.size]), ok_bind,
    if_neg, if_neg (by simp)]
  · simp [osdPacketNew, h.size]
  · simp only [Int.ofNat_eq_natCast, enotconn]
    omega

theorem readPacket_blocked {stream : List Byte} {size : Word}
    (h : stream.length < size.toNat * 2) :
    readPacket (highByte size :: lowByte size :: stream) = .error .blocked := by
  have hlength := deviceRead_words [size] stream [.delivered]
  rw [List.length_singleton] at hlength
  have hsplit : highByte size :: lowByte size :: stream =
      streamOfWords [size] ++ stream := rfl
  unfold readPacket packetReadFromDevice
  rw [hsplit, hlength, ok_bind]
  dsimp only
  rw [if_neg (by decide), if_neg (by decide), List.headD_cons,
    deviceRead_short h, error_bind]

theorem readPacket_starved {stream : List Byte} (h : stream.length < 2) :
    readPacket stream = .error .blocked := by
  unfold readPacket packetReadFromDevice
  rw [deviceRead_short (by omega), error_bind]

/-- A stream begins with a packet, or it holds too few bytes for one. -/
theorem readPacket_cases (stream : List Byte) :
    (∃ pkg rest, Packet.Sized pkg ∧ stream = dtdBytes pkg ++ rest) ∨
      readPacket stream = .error .blocked := by
  match stream with
  | [] => exact .inr (readPacket_starved (by simp))
  | [_] => exact .inr (readPacket_starved (by simp))
  | high :: low :: tail =>
      have hsize : high :: low :: tail = highByte (joinBytes high low) ::
          lowByte (joinBytes high low) :: tail := by simp
      rw [hsize]
      generalize joinBytes high low = size
      by_cases hshort : tail.length < size.toNat * 2
      · exact .inr (readPacket_blocked hshort)
      · have hlength : (tail.take (2 * size.toNat)).length =
            2 * size.toNat := by
          rw [List.length_take]
          omega
        refine .inl ⟨⟨size, wordsOfStream (tail.take (2 * size.toNat))⟩,
          tail.drop (2 * size.toNat), ⟨?_⟩, ?_⟩
        · rw [length_wordsOfStream, hlength]
          exact Nat.mul_div_cancel_left _ (by decide)
        · rw [dtdBytes, streamOfWords_cons,
            streamOfWords_wordsOfStream _ (by rw [hlength]; omega)]
          simp

/-! ## Both directions -/

theorem length_dtdBytes_pos (pkg : Packet) : 0 < (dtdBytes pkg).length := by
  simp [dtdBytes]

/-- The packets of a stream, and the bytes that make no packet. -/
structure Parsed (stream : List Byte) (result : List Packet × List Byte) :
    Prop where
  sized : ∀ pkg ∈ result.1, Packet.Sized pkg
  split : stream = result.1.flatMap dtdBytes ++ result.2
  ends : readPacket result.2 = .error .blocked

theorem readPackets_parsed (fuel : Nat) (stream : List Byte)
    (h : stream.length < fuel) : Parsed stream (readPackets fuel stream) := by
  induction fuel generalizing stream with
  | zero => omega
  | succ fuel ih =>
      unfold readPackets
      rcases readPacket_cases stream with ⟨pkg, rest, hsized, rfl⟩ | hblocked
      · have hpos := length_dtdBytes_pos pkg
        have hrest := ih rest (by rw [List.length_append] at h; omega)
        rw [readPacket_ok hsized]
        dsimp only
        rw [if_neg (by simp)]
        refine ⟨?_, ?_, hrest.ends⟩
        · intro other hother
          rcases List.mem_cons.mp hother with rfl | hother
          · exact hsized
          · exact hrest.sized other hother
        · rw [List.flatMap_cons, List.append_assoc, ← hrest.split]
      · rw [hblocked]
        exact ⟨by simp, by simp, hblocked⟩

theorem readPackets_dtdBytes {pkgs : List Packet}
    (h : ∀ pkg ∈ pkgs, Packet.Sized pkg) (fuel : Nat)
    (hfuel : pkgs.length < fuel) :
    readPackets fuel (pkgs.flatMap dtdBytes) = (pkgs, []) := by
  induction fuel generalizing pkgs with
  | zero => omega
  | succ fuel ih =>
      unfold readPackets
      cases pkgs with
      | nil => rw [List.flatMap_nil, readPacket_starved (by simp)]
      | cons pkg pkgs =>
          have hrest := ih (fun other hother =>
            h other (List.mem_cons_of_mem _ hother))
            (by rw [List.length_cons] at hfuel; omega)
          rw [List.flatMap_cons, readPacket_ok (h pkg List.mem_cons_self)]
          dsimp only
          rw [if_neg (by simp), hrest]

theorem length_le_flatMap_dtdBytes (pkgs : List Packet) :
    pkgs.length ≤ (pkgs.flatMap dtdBytes).length := by
  induction pkgs with
  | nil => simp
  | cons pkg pkgs ih =>
      have hpos := length_dtdBytes_pos pkg
      rw [List.flatMap_cons, List.length_append, List.length_cons]
      omega

theorem Datagram.sized (datagram : Datagram) :
    Packet.Sized datagram.toPacket :=
  ⟨datagram.toNat_size.symm⟩

/-- What is written is read back, and the packets that a stream holds are the
bytes in front of the ones that are left. -/
theorem dtd_codec_inverse :
    (∀ list : List Datagram, ∃ stream,
      writePackets (list.map Datagram.toPacket) (reliable list.length) =
          .ok (osdOk, ⟨stream, []⟩) ∧
        readPackets (stream.length + 1) stream =
          (list.map Datagram.toPacket, [])) ∧
    ∀ stream, ∃ pkgs rest bytes,
      readPackets (stream.length + 1) stream = (pkgs, rest) ∧
        readPacket rest = .error .blocked ∧ stream = bytes ++ rest ∧
        writePackets pkgs (reliable pkgs.length) =
          .ok (osdOk, ⟨bytes, []⟩) := by
  constructor
  · intro list
    have hsized : ∀ pkg ∈ list.map Datagram.toPacket, Packet.Sized pkg := by
      intro pkg hpkg
      obtain ⟨datagram, -, rfl⟩ := List.mem_map.mp hpkg
      exact datagram.sized
    have hwrites := writePackets_ok hsized []
    rw [List.length_map, List.nil_append] at hwrites
    refine ⟨_, hwrites, readPackets_dtdBytes hsized _ ?_⟩
    exact Nat.lt_succ_of_le (length_le_flatMap_dtdBytes _)
  · intro stream
    have hparsed := readPackets_parsed (stream.length + 1) stream (by omega)
    have hwrites := writePackets_ok hparsed.sized []
    exact ⟨_, _, _, rfl, hparsed.ends, hparsed.split, hwrites⟩

end Osd.Gateway
