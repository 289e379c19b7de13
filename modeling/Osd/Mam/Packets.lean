import Osd.Mam.Write

/-!
# Packets of a transfer

Which transfers survive being sent in event packets: an odd last byte is lost,
and the position of a packet is computed with 32 bit.
-/

namespace Osd.Mam

open Osd.Foundation

variable {δ : Type}

/-- An event packet from the host module to the memory, with a payload of a
valid size. -/
structure IsPart (desc : MemDesc) (diaddr : Nat) (packet : Packet) : Prop where
  type : osdPacketGetType packet = .ok osdPacketTypeEvent
  exists_diPacket : ∃ (p : DiPacket) (maxWords : Nat), packet = p.toPacket ∧
    p.dest.toNat = desc.diAddr ∧ p.src.toNat = diaddr ∧ p.payload ≠ [] ∧
    osdHostmodGetMaxEventWords = .ok maxWords ∧ p.payload.length ≤ maxWords

def Padded (transfer bytes : List Byte) : Prop :=
  bytes = transfer ∨
    transfer.length % 2 = 1 ∧ ∃ padding, bytes = transfer ++ [padding]

/-- The packets carry the transfer, or what a failing send leaves of it. -/
def SendsIntact (link : Link δ) (desc : MemDesc) (s : Session δ)
    (transfer : List Byte) : Prop :=
  ∃ rv s' pkgs bytes,
    sendMamTransfer link desc s transfer = .ok (rv, s') ∧
    sentPackets s' = sentPackets s ++ pkgs ∧
    (∀ packet ∈ pkgs, IsPart desc s.diaddr packet) ∧
    Padded transfer bytes ∧ pkgs.flatMap payloadStream <+: bytes ∧
    (osdFailed rv = false → pkgs.flatMap payloadStream = bytes)

/-! ## What is sent -/

def wholeWords (transfer : List Byte) : List Byte :=
  transfer.take (2 * (transfer.length / 2))

theorem CarriesBytes.stream_take {desc : MemDesc} {diaddr : Nat}
    {bytes : List Byte} {packet : Packet}
    (h : CarriesBytes desc diaddr bytes packet) :
    payloadStream packet = bytes.take (2 * (bytes.length / 2)) := by
  obtain ⟨p, rfl, -, -, -, hpayload⟩ := h.exists_diPacket
  rw [payloadStream_toPacket, hpayload, streamOfWords_wordsOfStream_take]

theorem take_wholeWords (transfer : List Byte) {i : Nat}
    (hi : 10 * i < transfer.length) :
    ((transfer.drop (10 * i)).take 10).take
        (2 * (((transfer.drop (10 * i)).take 10).length / 2)) =
      ((wholeWords transfer).drop (10 * i)).take 10 := by
  unfold wholeWords
  rw [List.drop_take, List.take_take, List.take_take, List.length_take,
    List.length_drop]
  congr 1
  omega

structure SentFrom (desc : MemDesc) (s : Session δ) (transfer : List Byte)
    (i : Nat) (result : OsdResult × Session δ) : Prop where
  exists_pkgs : ∃ pkgs, sentPackets result.2 = sentPackets s ++ pkgs ∧
    (∀ packet ∈ pkgs, ∃ j, 10 * j < transfer.length ∧
      CarriesBytes desc s.diaddr ((transfer.drop (10 * j)).take 10) packet) ∧
    pkgs.flatMap payloadStream <+: (wholeWords transfer).drop (10 * i) ∧
    (osdFailed result.1 = false →
      pkgs.flatMap payloadStream = (wholeWords transfer).drop (10 * i))

theorem sentPackets_deliver_one (link : Link δ) (s : Session δ)
    (packet : Packet) :
    sentPackets (deliver link s packet) = sentPackets s ++ [packet] :=
  sentPackets_deliver link s [packet]

theorem sendPkgs_sent (link : Link δ) {desc : MemDesc}
    {transfer : List Byte} (count i : Nat) (s : Session δ)
    (haddr : desc.diAddr < 2 ^ 16) (hdiaddr : s.diaddr < 2 ^ 16)
    (hend : 10 * (i + count) < 2 ^ 32)
    (hcovers : transfer.length ≤ 10 * (i + count))
    (hneeded : count ≠ 0 → 10 * (i + count - 1) < transfer.length) :
    Meets (fun _ => False) (sendPkgs link desc transfer count i s)
      (SentFrom desc s transfer i) := by
  induction count generalizing i s with
  | zero =>
      have hnone : (wholeWords transfer).drop (10 * i) = [] := by
        unfold wholeWords
        rw [List.drop_eq_nil_iff, List.length_take]
        omega
      unfold sendPkgs
      refine ⟨[], by simp, by simp, ?_, fun _ => ?_⟩
      · exact List.nil_prefix
      · exact hnone.symm
  | succ count ih =>
      have hi : 10 * i < transfer.length := by
        have hlast := hneeded (by omega)
        omega
      unfold sendPkgs
      apply (pkgInTransfer_meets desc s.diaddr (.inl ⟨haddr, hdiaddr⟩)
        (by omega) hi).bind
      intro packet hpacket
      have hstream : payloadStream packet =
          ((wholeWords transfer).drop (10 * i)).take 10 := by
        rw [hpacket.stream_take, take_wholeWords transfer hi]
      have hsplit : ((wholeWords transfer).drop (10 * i)).take 10 ++
          (wholeWords transfer).drop (10 * (i + 1)) =
            (wholeWords transfer).drop (10 * i) := by
        rw [Nat.mul_add, ← List.drop_drop]
        exact List.take_append_drop _ _
      rw [hpacket.send, ok_bind]
      dsimp only
      have hone := sentPackets_deliver_one link s packet
      cases hfailed : osdFailed (link.onSend s.dev packet).1 with
      | true =>
          rw [if_pos rfl]
          refine ⟨[packet], hone, ?_, ?_, fun hok => ?_⟩
          · intro p hp
            rw [List.mem_singleton.mp hp]
            exact ⟨i, hi, hpacket⟩
          · rw [← hsplit]
            simp [hstream]
          · rw [hok] at hfailed
            cases hfailed
      | false =>
          rw [if_neg (by simp)]
          apply (ih (i + 1) (deliver link s packet) hdiaddr (by omega)
            (by omega) (by omega)).weaken
          intro result hrest
          obtain ⟨pkgs, hsent, hparts, hprefix, hall⟩ := hrest.exists_pkgs
          refine ⟨packet :: pkgs, ?_, ?_, ?_, fun hok => ?_⟩
          · rw [hsent, hone, List.append_assoc]
            rfl
          · intro p hp
            rcases List.mem_cons.mp hp with rfl | hp
            · exact ⟨i, hi, hpacket⟩
            · exact hparts p hp
          · have hfront := (List.prefix_append_right_inj
              (((wholeWords transfer).drop (10 * i)).take 10)).mpr hprefix
            rwa [hsplit, ← hstream] at hfront
          · rw [List.flatMap_cons, hstream, hall hok, hsplit]

theorem sendMamTransfer_sent (link : Link δ) {desc : MemDesc} (s : Session δ)
    {transfer : List Byte} (haddr : desc.diAddr < 2 ^ 16)
    (hdiaddr : s.diaddr < 2 ^ 16) (hpos : 0 < transfer.length)
    (hsmall : transfer.length ≤ 2 ^ 32 - 6) :
    Meets (fun _ => False) (sendMamTransfer link desc s transfer)
      (SentFrom desc s transfer 0) := by
  unfold sendMamTransfer
  rw [numPkgsForTransfer_eq hpos (by omega), ok_bind]
  apply sendPkgs_sent link _ 0 s haddr hdiaddr
  · omega
  · omega
  · omega

theorem isPart_of_carries {desc : MemDesc} {diaddr i : Nat}
    {transfer : List Byte} {packet : Packet}
    (heven : transfer.length % 2 = 0) (hi : 10 * i < transfer.length)
    (h : CarriesBytes desc diaddr ((transfer.drop (10 * i)).take 10)
      packet) : IsPart desc diaddr packet := by
  obtain ⟨p, rfl, hdest, hsrc, hflags, hpayload⟩ := h.exists_diPacket
  have hwords : p.payload.length =
      min 10 (transfer.length - 10 * i) / 2 := by
    rw [hpayload, length_wordsOfStream, List.length_take, List.length_drop]
  have hpos : p.payload ≠ [] := by
    intro hempty
    rw [hempty, List.length_nil] at hwords
    omega
  constructor
  · rw [DiPacket.getType_toPacket, hflags]
    rfl
  · exact ⟨p, 5, rfl, hdest, hsrc, hpos, rfl, by omega⟩

theorem sendsIntact_of_even {desc : MemDesc} {transfer : List Byte}
    (haddr : desc.diAddr < 2 ^ 16) (hpos : 0 < transfer.length)
    (heven : transfer.length % 2 = 0)
    (hsmall : transfer.length ≤ 2 ^ 32 - 6) (link : Link δ) (s : Session δ)
    (hdiaddr : s.diaddr < 2 ^ 16) : SendsIntact link desc s transfer := by
  obtain ⟨⟨rv, s'⟩, hdone, hsent⟩ :=
    (sendMamTransfer_sent link s haddr hdiaddr hpos hsmall).exists_ok
  obtain ⟨pkgs, hpkgs, hparts, hprefix, hall⟩ := hsent.exists_pkgs
  have hwhole : wholeWords transfer = transfer := by
    unfold wholeWords
    rw [List.take_of_length_le (by omega)]
  rw [Nat.mul_zero, List.drop_zero, hwhole] at hprefix hall
  refine ⟨rv, s', pkgs, transfer, hdone, hpkgs, ?_, .inl rfl, hprefix, hall⟩
  intro packet hpacket
  obtain ⟨i, hi, hcarries⟩ := hparts packet hpacket
  exact isPart_of_carries heven hi hcarries

/-! ## What is lost -/

theorem sendPkgs_quietLink {desc : MemDesc} {transfer : List Byte}
    {count i : Nat} {s s' : Session Unit} {rv : OsdResult}
    (h : sendPkgs quietLink desc transfer count i s = .ok (rv, s')) :
    rv = osdOk := by
  induction count generalizing i s with
  | zero =>
      cases h
      rfl
  | succ count ih =>
      unfold sendPkgs at h
      obtain ⟨packet, -, h⟩ := bind_eq_ok.mp h
      obtain ⟨⟨rv', next⟩, hsend, h⟩ := bind_eq_ok.mp h
      have hok : rv' = osdOk := by
        unfold osdHostmodEventSend at hsend
        obtain ⟨type, -, hsend⟩ := bind_eq_ok.mp hsend
        obtain ⟨-, hsend⟩ := assertThat_bind_eq_ok.mp hsend
        cases hsend
        rfl
      subst hok
      exact ih h

theorem sendMamTransfer_quietLink {desc : MemDesc} {transfer : List Byte}
    {s s' : Session Unit} {rv : OsdResult}
    (h : sendMamTransfer quietLink desc s transfer = .ok (rv, s')) :
    rv = osdOk := by
  unfold sendMamTransfer at h
  obtain ⟨count, -, h⟩ := bind_eq_ok.mp h
  exact sendPkgs_quietLink h

/-- The packets of an odd transfer carry one byte less. -/
theorem not_sendsIntact_of_odd {desc : MemDesc} {transfer : List Byte}
    (haddr : desc.diAddr < 2 ^ 16) (hodd : transfer.length % 2 = 1)
    (hsmall : transfer.length ≤ 2 ^ 32 - 6) {s : Session Unit}
    (hdiaddr : s.diaddr < 2 ^ 16) :
    ¬SendsIntact quietLink desc s transfer := by
  rintro ⟨rv, s', pkgs, bytes, hdone, hpkgs, -, hpadded, -, hall⟩
  obtain ⟨result, hresult, hsent⟩ :=
    (sendMamTransfer_sent quietLink s haddr hdiaddr (by omega)
      hsmall).exists_ok
  rw [hdone] at hresult
  cases hresult
  have hok := sendMamTransfer_quietLink hdone
  subst hok
  obtain ⟨pkgs', hpkgs', -, -, hall'⟩ := hsent.exists_pkgs
  have hsame : pkgs = pkgs' := List.append_cancel_left (hpkgs.symm.trans hpkgs')
  subst hsame
  have hbytes : bytes = wholeWords transfer :=
    (hall rfl).symm.trans (hall' rfl)
  have hlength : bytes.length + 1 = transfer.length := by
    rw [hbytes, wholeWords, List.length_take]
    omega
  rcases hpadded with rfl | ⟨-, padding, rfl⟩
  · omega
  · rw [List.length_append, List.length_singleton] at hlength
    omega

theorem pkgInTransfer_wraps {desc : MemDesc} {diaddr : Nat}
    (haddr : desc.diAddr < 2 ^ 16) (hdiaddr : diaddr < 2 ^ 16)
    {transfer : List Byte} (hlow : 2 ^ 32 - 6 < transfer.length)
    (hhigh : transfer.length < 2 ^ 32) :
    pkgInTransfer desc diaddr transfer 429496729 = .error .outOfBounds := by
  have hrange : pkgRange (5 * 2 % 2 ^ 32) transfer.length 429496729 =
      (4294967290, 5) := by
    unfold pkgRange
    norm_num
    rw [if_neg (by omega)]
  unfold pkgInTransfer
  rw [osdHostmodGetMaxEventWords_eq, ok_bind, hrange]
  dsimp only
  rw [osdPacketSizeconvPayload2data_small (by omega), ok_bind,
    osdPacketSetHeader_new (by decide) (by decide) haddr hdiaddr (by decide)
      (by decide), ok_bind]
  unfold loadBytes
  rw [inBounds_bind_not (by omega)]
  rfl

theorem sendPkgs_wraps {desc : MemDesc} (haddr : desc.diAddr < 2 ^ 16)
    {transfer : List Byte} (hlow : 2 ^ 32 - 6 < transfer.length)
    (hhigh : transfer.length < 2 ^ 32) (count i : Nat) (s : Session Unit)
    (hdiaddr : s.diaddr < 2 ^ 16) (hlast : i + count = 429496729) :
    sendPkgs quietLink desc transfer (count + 1) i s =
      .error .outOfBounds := by
  induction count generalizing i s with
  | zero =>
      obtain rfl : i = 429496729 := hlast
      unfold sendPkgs
      rw [pkgInTransfer_wraps haddr hdiaddr hlow hhigh]
      rfl
  | succ count ih =>
      obtain ⟨packet, hpacket, hcarries⟩ :=
        (pkgInTransfer_meets desc s.diaddr (.inl ⟨haddr, hdiaddr⟩)
          (by omega : 10 * i + 10 < 2 ^ 32)
          (by omega : 10 * i < transfer.length)).exists_ok
      unfold sendPkgs
      rw [hpacket, ok_bind, hcarries.send, ok_bind]
      exact ih (i + 1) (deliver quietLink s packet) hdiaddr (by omega)

theorem not_sendsIntact_of_large {desc : MemDesc} {transfer : List Byte}
    (haddr : desc.diAddr < 2 ^ 16) (hlow : 2 ^ 32 - 6 < transfer.length)
    (hhigh : transfer.length < 2 ^ 32) {s : Session Unit}
    (hdiaddr : s.diaddr < 2 ^ 16) :
    ¬SendsIntact quietLink desc s transfer := by
  rintro ⟨rv, s', pkgs, bytes, hdone, -⟩
  have hcount : 1 + (transfer.length - 1) / 10 = 429496729 + 1 := by omega
  unfold sendMamTransfer at hdone
  rw [numPkgsForTransfer_eq (by omega) hhigh, ok_bind, hcount,
    sendPkgs_wraps haddr hlow hhigh 429496729 0 s hdiaddr rfl] at hdone
  cases hdone

/-- Transfers are carried whole if and only if their length is even and the
position behind their last packet fits into 32 bit. -/
theorem sendsIntact_iff {desc : MemDesc} (haddr : desc.diAddr < 2 ^ 16)
    {transfer : List Byte} (hpos : 1 ≤ transfer.length)
    (hsmall : transfer.length < 2 ^ 32) :
    (∀ {δ : Type} (link : Link δ) (s : Session δ), s.diaddr < 2 ^ 16 →
        SendsIntact link desc s transfer) ↔
      transfer.length % 2 = 0 ∧ transfer.length ≤ 2 ^ 32 - 6 := by
  constructor
  · intro hall
    have hquiet := hall quietLink quietSession (by decide)
    have hbound : transfer.length ≤ 2 ^ 32 - 6 := by
      by_contra hlarge
      exact not_sendsIntact_of_large haddr (by omega) hsmall (by decide) hquiet
    refine ⟨?_, hbound⟩
    by_contra hodd
    exact not_sendsIntact_of_odd haddr (by omega) hbound (by decide) hquiet
  · rintro ⟨heven, hbound⟩ δ link s hdiaddr
    exact sendsIntact_of_even haddr hpos heven hbound link s hdiaddr

/-- A read request for an address of 32 bit. -/
theorem sendsIntact_request :
    SendsIntact quietLink ⟨1, 32, 32⟩ quietSession
      [0x40, 1, 0, 0, 0x12, 0x34] :=
  (sendsIntact_iff (by decide) (by decide) (by decide)).mpr (by decide)
    quietLink quietSession (by decide)

/-- One byte is written to a memory of 8 bit, and not sent. -/
theorem not_sendsIntact_byte :
    createMamTransfer ⟨1, 8, 32⟩ [0x55] 0x1234 true true true 1 =
        .ok [0xe0, 1, 0, 0, 0x12, 0x34, 0x55] ∧
      ¬SendsIntact quietLink ⟨1, 8, 32⟩ quietSession
        [0xe0, 1, 0, 0, 0x12, 0x34, 0x55] :=
  ⟨by rfl, not_sendsIntact_of_odd (by decide) (by decide) (by decide)
    (by decide)⟩

end Osd.Mam
