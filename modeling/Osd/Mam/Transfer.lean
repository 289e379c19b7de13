import Osd.Mam.Device

/-!
# Requests on the wire

A transfer that the client creates is one request of the reference module, and
the packets that it is sent in carry exactly its bytes.
-/

namespace Osd.Mam

open Osd.Foundation

/-! ## Addresses -/

theorem addressBytes_succ (awB startAddr : Nat) :
    addressBytes (awB + 1) startAddr =
      addressBytes awB (startAddr / 256) ++
        [UInt8.ofNat (startAddr % 256)] := by
  have hlast : startAddr >>> ((awB + 1 - awB - 1) * 8) &&& 0xFF =
      startAddr % 256 := by
    rw [show (awB + 1 - awB - 1) * 8 = 0 by omega,
      show 0xFF = 2 ^ 8 - 1 by norm_num, Nat.and_two_pow_sub_one_eq_mod]
    rfl
  have hfront : ∀ i ∈ List.range awB,
      UInt8.ofNat (startAddr >>> ((awB + 1 - i - 1) * 8) &&& 0xFF) =
        UInt8.ofNat ((startAddr / 256) >>> ((awB - i - 1) * 8) &&& 0xFF) := by
    intro i hi
    have hlt := List.mem_range.mp hi
    rw [show (awB + 1 - i - 1) * 8 = 8 + (awB - i - 1) * 8 by omega,
      Nat.shiftRight_add, Nat.shiftRight_eq_div_pow startAddr]
  simp only [addressBytes, List.range_succ, List.map_append, List.map_cons,
    List.map_nil, hlast]
  rw [List.map_congr_left hfront]

@[simp] theorem length_addressBytes (awB startAddr : Nat) :
    (addressBytes awB startAddr).length = awB := by
  simp [addressBytes]

theorem bigEndianValue_addressBytes (awB startAddr : Nat)
    (h : startAddr < 256 ^ awB) :
    bigEndianValue (addressBytes awB startAddr) = startAddr := by
  induction awB generalizing startAddr with
  | zero =>
      simp only [pow_zero, Nat.lt_one_iff] at h
      simp [addressBytes, bigEndianValue, h]
  | succ awB ih =>
      have hfront := ih (startAddr / 256) (by
        rw [pow_succ] at h
        omega)
      have hbyte : (UInt8.ofNat (startAddr % 256)).toNat = startAddr % 256 := by
        rw [UInt8.toNat_ofNat']
        omega
      rw [addressBytes_succ]
      rw [bigEndianValue] at hfront ⊢
      rw [List.foldl_append, hfront]
      simp only [List.foldl_cons, List.foldl_nil, hbyte]
      omega

/-! ## One request -/

theorem headerBits (we burst sync : Bool) :
    let hdr0 := (UInt8.ofNat
      (we.toNat <<< 7 ||| burst.toNat <<< 6 ||| sync.toNat <<< 5)).toNat
    hdr0.testBit 7 = we ∧ hdr0.testBit 6 = burst ∧ hdr0.testBit 5 = sync := by
  cases we <;> cases burst <;> cases sync <;> decide

/-- A transfer whose data has the length that its header announces is decoded
to the request it was created for. -/
theorem decodeRequest_transfer {desc : MemDesc} {data : List Byte}
    {startAddr selsize : Nat} {we burst sync : Bool}
    (hselsize : selsize < 2 ^ 8) (haddr : startAddr < 256 ^ desc.awB)
    (hdata : data.length = dataLength desc.dwB we burst selsize) :
    decodeRequest desc
        (UInt8.ofNat
            (we.toNat <<< 7 ||| burst.toNat <<< 6 ||| sync.toNat <<< 5) ::
          UInt8.ofNat selsize :: addressBytes desc.awB startAddr ++ data) =
      some (⟨we, burst, sync, selsize, startAddr, data⟩, []) := by
  obtain ⟨hwe, hburst, hsync⟩ := headerBits we burst sync
  have hsel : (UInt8.ofNat selsize).toNat = selsize := by
    rw [UInt8.toNat_ofNat']
    exact Nat.mod_eq_of_lt hselsize
  have hlength : ¬(addressBytes desc.awB startAddr ++ data).length <
      desc.awB + dataLength desc.dwB we burst selsize := by
    simp [hdata]
  have htake : (addressBytes desc.awB startAddr ++ data).take desc.awB =
      addressBytes desc.awB startAddr :=
    List.take_left' (length_addressBytes _ _)
  have hdrop : (addressBytes desc.awB startAddr ++ data).drop desc.awB =
      data := List.drop_left' (length_addressBytes _ _)
  have hrest : (addressBytes desc.awB startAddr ++ data).drop
      (desc.awB + dataLength desc.dwB we burst selsize) = [] :=
    List.drop_of_length_le (by simp [hdata])
  simp only [List.cons_append, decodeRequest, hwe, hburst, hsync, hsel,
    if_neg hlength, htake, hdrop, hrest,
    bigEndianValue_addressBytes _ _ haddr]
  rw [List.take_of_length_le (Nat.le_of_eq hdata)]

theorem decodeRequest_nil (desc : MemDesc) : decodeRequest desc [] = none := rfl

/-- Transfers stay far below the sizes at which the arithmetic of the packet
splitting would wrap. -/
structure TransferOf (desc : MemDesc) (request : MamRequest)
    (transfer : List Byte) : Prop where
  decoded : Drains (decodeRequest desc) transfer [request] []
  even : transfer.length % 2 = 0
  pos : 0 < transfer.length
  small : transfer.length < 2 ^ 31

theorem createMamTransfer_meets {allowed : Fault → Prop}
    (hallowed : allowed .assertion) {desc : MemDesc}
    (hdesc : desc.Supported) {data : List Byte} {startAddr selsize : Nat}
    {we burst sync : Bool} (hselsize : selsize < 2 ^ 8)
    (haddr : startAddr < 256 ^ desc.awB)
    (hread : we = false → data = [])
    (hsingle : we = true → burst = false → data.length = desc.dwB) :
    Meets allowed
      (createMamTransfer desc data startAddr we burst sync selsize)
      (TransferOf desc ⟨we, burst, sync, selsize, startAddr, data⟩) := by
  have hdw := hdesc.dwB_cases
  have haw := hdesc.awB_cases
  rw [createMamTransfer]
  refine Meets.assertThat hallowed (fun _ => ?_)
  refine Meets.assertThat hallowed (fun hwords => ?_)
  refine Meets.assertThat hallowed (fun _ => ?_)
  refine Meets.assertThat hallowed (fun _ => ?_)
  refine Meets.assertThat hallowed (fun hburst => ?_)
  have hdata : data.length = dataLength desc.dwB we burst selsize := by
    cases we with
    | false => simp [dataLength, hread rfl]
    | true =>
        cases burst with
        | false => simpa [dataLength] using hsingle rfl rfl
        | true =>
            rw [dataLength, hburst rfl rfl]
            exact (Nat.div_mul_cancel (Nat.dvd_of_mod_eq_zero hwords)).symm
  have hbound : data.length ≤ 255 * 8 := by
    rw [hdata, dataLength]
    split
    · split
      · exact Nat.mul_le_mul (by omega) (by omega)
      · omega
    · omega
  have heven : data.length % 2 = 0 := by
    rcases hdw with h | h | h <;> rw [h] at hwords <;> omega
  constructor
  · exact .single (decodeRequest_nil desc)
      (decodeRequest_transfer hselsize haddr hdata)
  · simp only [List.cons_append, List.length_cons, List.length_append,
      length_addressBytes]
    omega
  · simp
  · simp only [List.cons_append, List.length_cons, List.length_append,
      length_addressBytes]
    omega

/-! ## Packets of a transfer -/

/-- The event packet for the MAM that carries these bytes. -/
structure CarriesBytes (desc : MemDesc) (diaddr : Nat) (bytes : List Byte)
    (packet : Packet) : Prop where
  exists_diPacket : ∃ p : DiPacket, packet = p.toPacket ∧
    p.dest.toNat = desc.diAddr ∧ p.src.toNat = diaddr ∧
    p.flags = eventFlags ∧ p.payload = wordsOfStream bytes

theorem osdHostmodGetMaxEventWords_eq :
    osdHostmodGetMaxEventWords = .ok 5 := rfl

/-- The size of the last packet is what is left of the transfer. -/
theorem pkgRange_eq {size i : Nat} (hend : 10 * i + 10 < 2 ^ 32)
    (hi : 10 * i < size) :
    pkgRange 10 size i = (10 * i, min 10 (size - 10 * i) / 2) := by
  have hstart : i * 10 % 2 ^ 32 = 10 * i := by omega
  have hstop : (10 * i + 10) % 2 ^ 32 = 10 * i + 10 := by omega
  simp only [pkgRange, hstart, hstop, Prod.mk.injEq, true_and]
  split <;> omega

theorem osdPacketSizeconvPayload2data_small {words : Nat} (h : words ≤ 5) :
    osdPacketSizeconvPayload2data words = .ok (words + 3) := by
  have hmod : (words + packetHeaderWordCnt) % 2 ^ 32 = words + 3 := by
    rw [packetHeaderWordCnt]
    omega
  rw [osdPacketSizeconvPayload2data, hmod]
  exact assertThat_bind (by omega)

/-- The packet is filled with the next ten bytes, without an odd last one. -/
theorem pkgInTransfer_meets {allowed : Fault → Prop} (desc : MemDesc)
    (diaddr : Nat)
    (hallowed : desc.diAddr < 2 ^ 16 ∧ diaddr < 2 ^ 16 ∨ allowed .assertion)
    {transfer : List Byte} {i : Nat} (hend : 10 * i + 10 < 2 ^ 32)
    (hi : 10 * i < transfer.length) :
    Meets allowed (pkgInTransfer desc diaddr transfer i)
      (CarriesBytes desc diaddr ((transfer.drop (10 * i)).take 10)) := by
  obtain ⟨words, hwords⟩ : ∃ words,
      min 10 (transfer.length - 10 * i) / 2 = words := ⟨_, rfl⟩
  have hrange : pkgRange (5 * 2 % 2 ^ 32) transfer.length i =
      (10 * i, words) := by
    rw [← hwords]
    exact pkgRange_eq hend hi
  have hlength : ((transfer.drop (10 * i)).take 10).length / 2 = words := by
    rw [List.length_take, List.length_drop]
    exact hwords
  have hbytes : wordsOfStream ((transfer.drop (10 * i)).take (2 * words)) =
      wordsOfStream ((transfer.drop (10 * i)).take 10) := by
    rw [← wordsOfStream_take ((transfer.drop (10 * i)).take 10), hlength,
      List.take_take, Nat.min_eq_left (by omega)]
  have hpayload : (wordsOfStream ((transfer.drop (10 * i)).take 10)).length =
      words := by
    rw [length_wordsOfStream, hlength]
  rw [pkgInTransfer, osdHostmodGetMaxEventWords_eq, ok_bind, hrange]
  dsimp only
  rw [osdPacketSizeconvPayload2data_small (by omega), ok_bind]
  have hsize : words + 3 < 2 ^ 16 := by omega
  refine (osdPacketSetHeader_event hallowed (Nat.le_add_left 3 words)
    hsize).bind ?_
  rintro p ⟨hdest, hsrc, rfl⟩
  have hstore := storeWords_behind
    [UInt16.ofNat desc.diAddr, UInt16.ofNat diaddr, eventFlags]
    (List.replicate words 0)
    (wordsOfStream ((transfer.drop (10 * i)).take 10)) (by simp [hpayload])
  rw [loadBytes_eq (by omega), ok_bind, hbytes]
  refine Meets.of_ok hstore ?_
  refine ⟨⟨UInt16.ofNat desc.diAddr, UInt16.ofNat diaddr, eventFlags,
    wordsOfStream ((transfer.drop (10 * i)).take 10), by omega⟩,
    ?_, ?_, ?_, rfl, rfl⟩
  · simp only [DiPacket.toPacket, hpayload]
    rfl
  · rw [UInt16.toNat_ofNat']
    exact Nat.mod_eq_of_lt hdest
  · rw [UInt16.toNat_ofNat']
    exact Nat.mod_eq_of_lt hsrc

variable {δ : Type}

/-- The session after a send that did not fail. -/
def deliver (link : Link δ) (s : Session δ) (packet : Packet) : Session δ :=
  let (rv, rx, dev) := link.onSend s.dev packet
  { s with dev, rx := s.rx ++ rx, trace := s.trace ++ [.sent packet rv] }

/-- All packets were sent, or a send failed. -/
structure Transmitted (link : Link δ) (s : Session δ) (bytes : List Byte)
    (result : OsdResult × Session δ) : Prop where
  ok : osdFailed result.1 = false → result.1 = osdOk ∧
    ∃ pkgs : List Packet, pkgs.flatMap payloadStream = bytes ∧
      result.2 = pkgs.foldl (deliver link) s
  failed : osdFailed result.1 = true →
    ∃ dev packet, (link.onSend dev packet).1 = result.1

theorem CarriesBytes.stream {desc : MemDesc} {diaddr : Nat}
    {bytes : List Byte} {packet : Packet}
    (h : CarriesBytes desc diaddr bytes packet)
    (heven : bytes.length % 2 = 0) : payloadStream packet = bytes := by
  obtain ⟨p, rfl, -, -, -, hpayload⟩ := h.exists_diPacket
  rw [payloadStream_toPacket, hpayload, streamOfWords_wordsOfStream _ heven]

theorem CarriesBytes.send {desc : MemDesc} {diaddr : Nat}
    {bytes : List Byte} {packet : Packet}
    (h : CarriesBytes desc diaddr bytes packet) (link : Link δ)
    (s : Session δ) :
    osdHostmodEventSend link s packet =
      .ok ((link.onSend s.dev packet).1, deliver link s packet) := by
  obtain ⟨p, rfl, -, -, hflags, -⟩ := h.exists_diPacket
  rw [osdHostmodEventSend, DiPacket.getType_toPacket, ok_bind, hflags,
    assertThat_bind (by decide)]
  rfl

theorem sendPkgs_meets {allowed : Fault → Prop} (link : Link δ)
    (desc : MemDesc) {transfer : List Byte}
    (heven : transfer.length % 2 = 0) (hsmall : transfer.length < 2 ^ 31)
    (count i : Nat) (s : Session δ)
    (hallowed : desc.diAddr < 2 ^ 16 ∧ s.diaddr < 2 ^ 16 ∨ allowed .assertion)
    (hcovers : transfer.length ≤ 10 * (i + count))
    (hneeded : count ≠ 0 → 10 * (i + count - 1) < transfer.length) :
    Meets allowed (sendPkgs link desc transfer count i s)
      (Transmitted link s (transfer.drop (10 * i))) := by
  induction count generalizing i s with
  | zero =>
      refine ⟨fun _ => ⟨rfl, [], ?_, rfl⟩, fun h => ?_⟩
      · exact (List.drop_eq_nil_of_le (by omega)).symm
      · cases h
  | succ count ih =>
      have hi : 10 * i < transfer.length := by
        have := hneeded (by omega)
        omega
      rw [sendPkgs]
      refine (pkgInTransfer_meets desc s.diaddr hallowed (by omega)
        hi).bind ?_
      intro pkg hpkg
      have hstream := hpkg.stream (by
        rw [List.length_take, List.length_drop]
        omega)
      rw [hpkg.send, ok_bind]
      dsimp only
      cases hfailed : osdFailed (link.onSend s.dev pkg).1 with
      | true =>
          exact ⟨fun hnot => absurd hfailed (by simp [hnot]),
            fun _ => ⟨s.dev, pkg, rfl⟩⟩
      | false =>
          refine (ih (i + 1) (deliver link s pkg) hallowed (by omega)
            (by omega)).weaken ?_
          rintro ⟨rv, s'⟩ hrest
          refine ⟨fun hok => ?_, hrest.failed⟩
          obtain ⟨hrv, pkgs, hbytes, hs'⟩ := hrest.ok hok
          refine ⟨hrv, pkg :: pkgs, ?_, hs'⟩
          rw [List.flatMap_cons, hstream, hbytes, Nat.mul_add,
            ← List.drop_drop]
          exact List.take_append_drop 10 _

theorem numPkgsForTransfer_eq {size : Nat} (hpos : 0 < size)
    (hsmall : size < 2 ^ 32) :
    numPkgsForTransfer size = .ok (1 + (size - 1) / 10) := by
  have hpred : (size + 2 ^ 64 - 1) % 2 ^ 64 = size - 1 := by omega
  have hnum : intDivCeil size 10 % 2 ^ 32 = 1 + (size - 1) / 10 := by
    rw [intDivCeil, hpred]
    omega
  rw [numPkgsForTransfer, osdHostmodGetMaxEventWords_eq, ok_bind]
  exact congrArg Except.ok hnum

theorem sendMamTransfer_meets {allowed : Fault → Prop} (link : Link δ)
    (desc : MemDesc) (s : Session δ)
    (hallowed : desc.diAddr < 2 ^ 16 ∧ s.diaddr < 2 ^ 16 ∨ allowed .assertion)
    {transfer : List Byte} (heven : transfer.length % 2 = 0)
    (hpos : 0 < transfer.length) (hsmall : transfer.length < 2 ^ 31) :
    Meets allowed (sendMamTransfer link desc s transfer)
      (Transmitted link s transfer) := by
  rw [sendMamTransfer, numPkgsForTransfer_eq hpos (by omega), ok_bind]
  exact sendPkgs_meets link desc heven hsmall _ 0 s hallowed (by omega)
    (by omega)

end Osd.Mam
