import Osd.HostMod.Reassembly
import Osd.PacketFrames

/-!
# Combining any two packets

`osd_packet_combine` on packets of every size.  The new size is a sum of 16 bit
numbers that is cut down to 16 bit before the packet is reallocated, while the
payload is copied behind the old data.
-/

namespace Osd

open Osd.Foundation

/-- The packet that the concatenation of both payloads makes. -/
structure Concatenated (first second combined : Packet) : Prop where
  complete : combined.Complete
  size : combined.dataSizeWords.toNat =
    first.dataSizeWords.toNat + second.payloadWords.length
  header : combined.words.take packetHeaderWordCnt =
    first.words.take packetHeaderWordCnt
  payload : combined.payloadWords = first.payloadWords ++ second.payloadWords

/-! ## The packets -/

section Combine

variable {first second : Packet}

theorem length_osdPacketRealloc (packet : Packet) (size : Nat) :
    (osdPacketRealloc packet size).dataRaw.length = size := by
  simp only [osdPacketRealloc, List.length_append, List.length_take,
    List.length_replicate]
  omega

theorem osdPacketCombine_eq (hfirst : first.Complete)
    (hsecond : second.Complete) :
    osdPacketCombine first second = (do
      let grown := osdPacketRealloc first
        ((first.dataSizeWords.toNat + second.payloadWords.length) % 2 ^ 16)
      let dataRaw ← storeWords grown.dataRaw first.dataSizeWords.toNat
        second.payloadWords
      .ok { grown with dataRaw }) := by
  have hheader := hfirst.header
  have hheader' := hsecond.header
  have hallocated := hsecond.allocated
  have hsize : (first.dataSizeWords +
      UInt16.ofNat (second.dataSizeWords.toNat - packetHeaderWordCnt)).toNat =
        (first.dataSizeWords.toNat + second.payloadWords.length) % 2 ^ 16 := by
    rw [UInt16.toNat_add, UInt16.toNat_ofNat', hsecond.length_payloadWords]
    omega
  have hoffset : packetHeaderWordCnt +
      (first.dataSizeWords.toNat - packetHeaderWordCnt) =
        first.dataSizeWords.toNat := by omega
  rw [osdPacketCombine, osdPacketSizeconvData2payload,
    osdPacketSizeconvData2payload, assertThat_bind hheader, ok_bind,
    assertThat_bind hheader', ok_bind]
  dsimp only
  rw [inBounds_bind (by omega), hsize, hoffset, ← Packet.payloadWords_eq]

theorem osdPacketCombine_of_fits (hfirst : first.Complete)
    (hsecond : second.Complete)
    (hfits : first.dataSizeWords.toNat + second.payloadWords.length ≤ 65535) :
    ∃ combined, osdPacketCombine first second = .ok combined ∧
      Concatenated first second combined := by
  have hallocated := hfirst.allocated
  have hheader := hfirst.header
  have hlength := hfirst.length_words
  rw [osdPacketCombine_eq hfirst hsecond, Nat.mod_eq_of_lt (by omega)]
  generalize hsum :
    first.dataSizeWords.toNat + second.payloadWords.length = size
  rw [hsum] at hfits
  have harea := length_osdPacketRealloc first size
  have hfront : (osdPacketRealloc first size).dataRaw.take
      first.dataSizeWords.toNat = first.words := by
    rw [osdPacketRealloc, Packet.words, List.take_append_of_le_length,
      List.take_take, Nat.min_eq_left (by omega)]
    rw [List.length_take]
    omega
  have hbehind : (osdPacketRealloc first size).dataRaw.drop
      (first.dataSizeWords.toNat + second.payloadWords.length) = [] := by
    rw [hsum]
    exact List.drop_eq_nil_of_le (Nat.le_of_eq harea)
  have hstore : storeWords (osdPacketRealloc first size).dataRaw
      first.dataSizeWords.toNat second.payloadWords =
        .ok (first.words ++ second.payloadWords) := by
    rw [storeWords, inBounds_bind (by omega), hfront, hbehind,
      List.append_nil]
  have hsize : (UInt16.ofNat size).toNat = size := by
    rw [UInt16.toNat_ofNat']
    exact Nat.mod_eq_of_lt (by omega)
  have htotal : (first.words ++ second.payloadWords).length = size := by
    rw [List.length_append, hlength, hsum]
  dsimp only
  rw [hstore, ok_bind]
  refine ⟨_, rfl, ?_⟩
  have hwords : Packet.words
      ⟨UInt16.ofNat size, first.words ++ second.payloadWords⟩ =
        first.words ++ second.payloadWords := by
    rw [Packet.words, hsize]
    exact List.take_of_length_le (Nat.le_of_eq htotal)
  have hshort : packetHeaderWordCnt ≤ first.words.length := by
    rw [hlength]
    exact hheader
  refine
    { complete := ⟨?_, ?_⟩
      size := ?_
      header := ?_
      payload := ?_ }
  · change packetHeaderWordCnt ≤ (UInt16.ofNat size).toNat
    omega
  · change (UInt16.ofNat size).toNat ≤ _
    rw [hsize, htotal]
  · change (UInt16.ofNat size).toNat = _
    rw [hsize, hsum]
  · exact (congrArg _ hwords).trans (List.take_append_of_le_length hshort)
  · exact (congrArg _ hwords).trans (List.drop_append_of_le_length hshort)

/-- The reallocated packet is smaller than the old one, and the payload is
stored behind the end of the old one. -/
theorem osdPacketCombine_of_not_fits (hfirst : first.Complete)
    (hsecond : second.Complete)
    (h : ¬first.dataSizeWords.toNat + second.payloadWords.length ≤ 65535) :
    osdPacketCombine first second = .error .outOfBounds := by
  have hmod : (first.dataSizeWords.toNat + second.payloadWords.length) %
      2 ^ 16 < first.dataSizeWords.toNat + second.payloadWords.length := by
    omega
  rw [osdPacketCombine_eq hfirst hsecond]
  dsimp only
  rw [storeWords, inBounds_bind_not, error_bind]
  rw [length_osdPacketRealloc]
  omega

end Combine

/-! ## The call -/

namespace HostMod

/-- `osd_packet_combine` returns what `osd_packet_realloc` returned, which is
always OSD_OK. -/
def osdPacketCombineAt (alloc : Allocator) (heap : Heap Packet)
    (first second : Address) :
    Outcome (OsdResult × Address × Heap Packet) := do
  let (first, heap) ← combineAt alloc heap first second
  .ok (osdOk, first, heap)

/-- The payloads are concatenated, or the call fails and leaves the first
packet as it was; the second packet is never modified. -/
def CombinesCleanly (alloc : Allocator) (heap : Heap Packet)
    (firstAddr secondAddr : Address) (first second : Packet) : Prop :=
  ∃ rv addr heap' result,
    osdPacketCombineAt alloc heap firstAddr secondAddr =
      .ok (rv, addr, heap') ∧
    heap'.get addr = .ok result ∧ heap'.get secondAddr = .ok second ∧
    (rv = osdOk ∧ Concatenated first second result ∨
      osdFailed rv = true ∧ result = first)

section Call

variable {alloc : Allocator} {heap : Heap Packet}
  {firstAddr secondAddr : Address} {first second : Packet}

theorem combinesCleanly_iff (hfirst : heap.get firstAddr = .ok first)
    (hsecond : heap.get secondAddr = .ok second)
    (hne : firstAddr ≠ secondAddr) (hcomplete : first.Complete)
    (hcomplete' : second.Complete) :
    CombinesCleanly alloc heap firstAddr secondAddr first second ↔
      first.dataSizeWords.toNat + second.payloadWords.length ≤ 65535 := by
  constructor
  · rintro ⟨rv, addr, heap', result, hcall, -⟩
    by_contra hnot
    have hcombine := osdPacketCombine_of_not_fits hcomplete hcomplete' hnot
    simp [osdPacketCombineAt, combineAt, hfirst, hsecond, hcombine] at hcall
  · intro hfits
    obtain ⟨combined, hcombine, hresult⟩ :=
      osdPacketCombine_of_fits hcomplete hcomplete' hfits
    obtain ⟨addr, heap', hrealloc, hget, hframe⟩ :=
      Heap.realloc_eq_ok hfirst alloc combined
    have hkept := (hframe secondAddr second hne.symm hsecond).1
    refine ⟨osdOk, addr, heap', combined, ?_, hget, hkept,
      Or.inl ⟨rfl, hresult⟩⟩
    rw [osdPacketCombineAt, combineAt, hfirst, ok_bind, hsecond, ok_bind,
      hcombine, ok_bind, hrealloc, ok_bind]
    dsimp only
    rw [hkept, ok_bind, ok_bind]

end Call

/-- Two packets, at the addresses 16 and 32. -/
def twoPackets (first second : Packet) : Heap Packet where
  objects := ((∅ : AList fun _ : Address => Packet).insert 16 first).insert 32
    second
  allocations := 2

theorem complete_osdPacketNew {size : Nat} (hlow : 3 ≤ size)
    (hhigh : size ≤ 65535) : (osdPacketNew size).Complete := by
  have hsize : (osdPacketNew size).dataSizeWords.toNat = size := by
    rw [osdPacketNew, UInt16.toNat_ofNat']
    exact Nat.mod_eq_of_lt (by omega)
  constructor
  · rw [hsize]
    exact hlow
  · rw [hsize, osdPacketNew, List.length_replicate]

theorem combinesCleanly_small :
    CombinesCleanly bumpAllocator
        (twoPackets (osdPacketNew 5) (osdPacketNew 4)) 16 32
        (osdPacketNew 5) (osdPacketNew 4) ↔
      (osdPacketNew 5).dataSizeWords.toNat +
        (osdPacketNew 4).payloadWords.length ≤ 65535 :=
  combinesCleanly_iff rfl rfl (by decide)
    (complete_osdPacketNew (by decide) (by decide))
    (complete_osdPacketNew (by decide) (by decide))

theorem combine_largest :
    osdPacketCombineAt bumpAllocator
        (twoPackets (osdPacketNew 65535) (osdPacketNew 4)) 16 32 =
      .error .outOfBounds ∧
    ¬CombinesCleanly bumpAllocator
      (twoPackets (osdPacketNew 65535) (osdPacketNew 4)) 16 32
      (osdPacketNew 65535) (osdPacketNew 4) := by
  have hfirst : (osdPacketNew 65535).Complete :=
    complete_osdPacketNew (by decide) (by decide)
  have hsecond : (osdPacketNew 4).Complete :=
    complete_osdPacketNew (by decide) (by decide)
  have hsize : (osdPacketNew 65535).dataSizeWords.toNat = 65535 := by
    rw [osdPacketNew]
    rfl
  have hpayload : (osdPacketNew 4).payloadWords.length = 1 := rfl
  have hcombine := osdPacketCombine_of_not_fits hfirst hsecond (by omega)
  have hget : (twoPackets (osdPacketNew 65535) (osdPacketNew 4)).get 16 =
      .ok (osdPacketNew 65535) := rfl
  have hget' : (twoPackets (osdPacketNew 65535) (osdPacketNew 4)).get 32 =
      .ok (osdPacketNew 4) := rfl
  have hcall : osdPacketCombineAt bumpAllocator
      (twoPackets (osdPacketNew 65535) (osdPacketNew 4)) 16 32 =
        .error .outOfBounds := by
    rw [osdPacketCombineAt, combineAt, hget, ok_bind, hget', ok_bind,
      hcombine]
    rfl
  refine ⟨hcall, ?_⟩
  rintro ⟨rv, addr, heap', result, hok, -⟩
  cases hcall.symm.trans hok

end HostMod

end Osd
