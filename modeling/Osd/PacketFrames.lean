import Osd.Packet

/-!
# Packets and message frames

A data message carries the data words of a packet as the bytes of one frame.
Three measures are involved: the bytes of the frame, the words of the area and
the 16 bit size field.
-/

namespace Osd

open Osd.Foundation

/-! ## Complete packets -/

namespace Packet

def words (packet : Packet) : List Word :=
  packet.dataRaw.take packet.dataSizeWords.toNat

def payloadWords (packet : Packet) : List Word :=
  packet.words.drop packetHeaderWordCnt

/-- The packet has a header, and its area holds all of its words. -/
structure Complete (packet : Packet) : Prop where
  header : packetHeaderWordCnt ≤ packet.dataSizeWords.toNat
  allocated : packet.dataSizeWords.toNat ≤ packet.dataRaw.length

variable {packet : Packet}

theorem Complete.length_words (h : packet.Complete) :
    packet.words.length = packet.dataSizeWords.toNat := by
  rw [words, List.length_take, Nat.min_eq_left h.allocated]

theorem Complete.length_payloadWords (h : packet.Complete) :
    packet.payloadWords.length =
      packet.dataSizeWords.toNat - packetHeaderWordCnt := by
  rw [payloadWords, List.length_drop, h.length_words]

theorem payloadWords_eq (packet : Packet) :
    packet.payloadWords =
      (packet.dataRaw.drop packetHeaderWordCnt).take
        (packet.dataSizeWords.toNat - packetHeaderWordCnt) := by
  rw [payloadWords, words, List.drop_take]

end Packet

/-! ## Frames -/

section Frames

variable {packet : Packet} {frame : List Byte}

theorem Packet.frame_eq (packet : Packet) :
    packet.frame = bytesOfWords packet.words := by
  rw [Packet.frame, osdPacketSizeof, Nat.mul_comm, take_bytesOfWords,
    Packet.words]

theorem osdPacketNewFromZframe_even (hheader : packetHeaderWordCnt ≤ frame.length / 2)
    (heven : frame.length % 2 = 0) :
    osdPacketNewFromZframe frame =
      .ok ⟨UInt16.ofNat (frame.length / 2), wordsOfBytes frame⟩ := by
  rw [osdPacketNewFromZframe, assertThat_bind hheader, inBounds_bind]
  · rfl
  · rw [osdPacketNew, List.length_replicate]
    omega

/-- The odd byte of a frame is copied behind the end of the packet. -/
theorem osdPacketNewFromZframe_odd (hheader : packetHeaderWordCnt ≤ frame.length / 2)
    (hodd : frame.length % 2 ≠ 0) :
    osdPacketNewFromZframe frame = .error .outOfBounds := by
  rw [osdPacketNewFromZframe, assertThat_bind hheader, inBounds_bind_not]
  rw [osdPacketNew, List.length_replicate]
  omega

theorem length_frame_le (packet : Packet) :
    packet.frame.length ≤ 2 * 65535 := by
  have hsize := packet.dataSizeWords.toNat_lt
  rw [Packet.frame, List.length_take, osdPacketSizeof]
  omega

end Frames

/-- The packet is what its frame is decoded to. -/
def DecodesToItself (packet : Packet) : Prop :=
  osdPacketNewFromZframe packet.frame =
    .ok ⟨packet.dataSizeWords, packet.words⟩

/-- A frame that is accepted is stored within the new packet, and is the frame
of that packet. -/
def EncodesBack (frame : List Byte) : Prop :=
  packetHeaderWordCnt ≤ frame.length / 2 →
    ∃ packet, osdPacketNewFromZframe frame = .ok packet ∧
      packet.frame = frame

theorem decodesToItself {packet : Packet} (h : packet.Complete) :
    DecodesToItself packet := by
  have hheader := h.header
  have hlength : packet.frame.length = 2 * packet.dataSizeWords.toNat := by
    rw [packet.frame_eq, length_bytesOfWords, h.length_words]
  have hsize : UInt16.ofNat (packet.frame.length / 2) =
      packet.dataSizeWords := by
    rw [hlength, Nat.mul_div_cancel_left _ (by omega), UInt16.ofNat_toNat]
  rw [DecodesToItself, osdPacketNewFromZframe_even (by omega) (by omega),
    hsize, packet.frame_eq, wordsOfBytes_bytesOfWords]

theorem encodesBack_iff (frame : List Byte) :
    EncodesBack frame ↔
      frame.length / 2 < packetHeaderWordCnt ∨
        frame.length % 2 = 0 ∧ frame.length < 131072 := by
  constructor
  · intro h
    by_cases hheader : packetHeaderWordCnt ≤ frame.length / 2
    · obtain ⟨packet, hdecode, hframe⟩ := h hheader
      refine Or.inr ⟨?_, ?_⟩
      · by_contra hodd
        rw [osdPacketNewFromZframe_odd hheader hodd] at hdecode
        cases hdecode
      · have hle := length_frame_le packet
        rw [hframe] at hle
        omega
    · exact Or.inl (Nat.lt_of_not_le hheader)
  · rintro (hshort | ⟨heven, hlong⟩) hheader
    · exact absurd hshort (Nat.not_lt.mpr hheader)
    · have hsize : (UInt16.ofNat (frame.length / 2)).toNat =
          frame.length / 2 := by
        rw [UInt16.toNat_ofNat']
        exact Nat.mod_eq_of_lt (by omega)
      refine ⟨_, osdPacketNewFromZframe_even hheader heven, ?_⟩
      rw [Packet.frame, osdPacketSizeof, hsize,
        bytesOfWords_wordsOfBytes frame heven]
      exact List.take_of_length_le (by omega)

theorem frames_inverse_iff {packet : Packet} (h : packet.Complete)
    (frame : List Byte) :
    DecodesToItself packet ∧ EncodesBack frame ↔
      frame.length / 2 < packetHeaderWordCnt ∨
        frame.length % 2 = 0 ∧ frame.length < 131072 := by
  rw [and_iff_right (decodesToItself h)]
  exact encodesBack_iff frame

theorem frames_inverse_header :
    DecodesToItself (osdPacketNew 3) ∧ EncodesBack (List.replicate 8 0) := by
  have hcomplete : (osdPacketNew 3).Complete := ⟨by decide, by decide⟩
  exact (frames_inverse_iff hcomplete (List.replicate 8 0)).mpr
    (.inr ⟨by decide, by decide⟩)

/-- A frame of three words and one byte. -/
theorem odd_frame :
    osdPacketNewFromZframe (List.replicate 7 0) = .error .outOfBounds ∧
      ¬EncodesBack (List.replicate 7 0) := by
  refine ⟨rfl, ?_⟩
  intro h
  obtain ⟨packet, hdecode, -⟩ := h (by decide)
  cases hdecode

end Osd
