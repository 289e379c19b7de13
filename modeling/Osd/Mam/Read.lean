import Osd.Mam.Write

/-!
# Reads return the memory

The client talks to a memory access module.  Between two requests the module
has no request pending, and no message of an earlier answer that is still to
be received carries any data.
-/

namespace Osd.Mam

open Osd.Foundation

variable {δ : Type}

structure Idle (view : δ → MamState) (s : Session δ) : Prop where
  pending : (view s.dev).pending = []
  rx : ∃ list : List DiPacket, s.rx = packets list ∧ packetsStream list = []

/-- Between the two sessions only read requests went out. -/
structure Fetched (desc : MemDesc) (view : δ → MamState) (s s' : Session δ) :
    Prop where
  idle : Idle view s'
  mem : (view s'.dev).mem = (view s.dev).mem
  requests : ∃ pkgs requests, sentPackets s' = sentPackets s ++ pkgs ∧
    Drains (decodeRequest desc) (pkgs.flatMap payloadStream) requests [] ∧
    ∀ request ∈ requests, request.we = false

theorem Fetched.refl {desc : MemDesc} {view : δ → MamState} {s : Session δ}
    (h : Idle view s) : Fetched desc view s s :=
  ⟨h, rfl, [], [], by simp, .idle rfl, by simp⟩

theorem Fetched.trans {desc : MemDesc} {view : δ → MamState}
    {s s' s'' : Session δ} (h : Fetched desc view s s')
    (h' : Fetched desc view s' s'') : Fetched desc view s s'' := by
  obtain ⟨pkgs, requests, hsent, hbytes, hread⟩ := h.requests
  obtain ⟨pkgs', requests', hsent', hbytes', hread'⟩ := h'.requests
  refine ⟨h'.idle, h'.mem.trans h.mem, pkgs ++ pkgs', requests ++ requests',
    by rw [hsent', hsent, List.append_assoc], ?_, ?_⟩
  · rw [List.flatMap_append]
    exact hbytes.append (decodeRequest_stable desc) hbytes'
  · intro request hrequest
    rcases List.mem_append.mp hrequest with hrequest | hrequest
    · exact hread request hrequest
    · exact hread' request hrequest

/-! ## The module takes a transfer -/

section Module

variable {desc : MemDesc} {link : Link δ} {view : δ → MamState}
  (hmam : IsMam desc link view)

include hmam

theorem IsMam.send_ok (dev : δ) (packet : Packet) :
    (link.onSend dev packet).1 = osdOk := by
  obtain ⟨_, _, _, hsend, _⟩ := hmam.onSend dev packet
  rw [hsend]

/-- A module that gets its packets one by one executes the same requests as
one that gets the whole stream. -/
theorem IsMam.deliver_all (pkgs : List Packet) (s : Session δ)
    (hpending : decodeRequest desc (view s.dev).pending = none) :
    ∃ requests rx,
      Drains (decodeRequest desc)
        ((view s.dev).pending ++ pkgs.flatMap payloadStream) requests
        (view (pkgs.foldl (deliver link) s).dev).pending ∧
      Reacts desc.dwB (view s.dev).mem requests rx
        (view (pkgs.foldl (deliver link) s).dev).mem ∧
      (pkgs.foldl (deliver link) s).rx = s.rx ++ rx := by
  induction pkgs generalizing s with
  | nil =>
      refine ⟨[], [], ?_, .done, by simp⟩
      simpa using Drains.idle hpending
  | cons pkg pkgs ih =>
      obtain ⟨first, rx, dev', hsend, hdrains, hreacts⟩ :=
        hmam.onSend s.dev pkg
      have hdev : (deliver link s pkg).dev = dev' := by
        simp [deliver, hsend]
      have hrx : (deliver link s pkg).rx = s.rx ++ rx := by
        simp [deliver, hsend]
      have ih := ih (deliver link s pkg) (by rw [hdev]; exact hdrains.left_none)
      rw [hdev, hrx] at ih
      obtain ⟨requests, rx', hdrains', hreacts', hrx'⟩ := ih
      refine ⟨first ++ requests, rx ++ rx', ?_, hreacts.append hreacts', ?_⟩
      · rw [List.flatMap_cons, ← List.append_assoc]
        exact hdrains.append (decodeRequest_stable desc) hdrains'
      · rw [List.foldl_cons, hrx', List.append_assoc]

theorem IsMam.deliver_request {pkgs : List Packet} {request : MamRequest}
    (hbytes : Drains (decodeRequest desc) (pkgs.flatMap payloadStream)
      [request] []) {s : Session δ} (hpending : (view s.dev).pending = []) :
    ∃ rx, (view (pkgs.foldl (deliver link) s).dev).pending = [] ∧
      Answers desc.dwB (view s.dev).mem request rx ∧
      (view (pkgs.foldl (deliver link) s).dev).mem =
        execute (view s.dev).mem request ∧
      (pkgs.foldl (deliver link) s).rx = s.rx ++ rx := by
  obtain ⟨requests, rx, hdrains, hreacts, hrx⟩ :=
    hmam.deliver_all pkgs s (by rw [hpending]; rfl)
  rw [hpending, List.nil_append] at hdrains
  obtain ⟨rfl, hleft⟩ := hdrains.unique hbytes
  exact ⟨rx, hleft, hreacts.single, hreacts.mem_eq, hrx⟩

end Module

/-! ## The client receives an answer -/

theorem packetsStream_append (first second : List DiPacket) :
    packetsStream (first ++ second) =
      packetsStream first ++ packetsStream second :=
  List.flatMap_append

theorem payloadBytes_toPacket (packet : DiPacket) :
    payloadBytes packet.toPacket packet.payload.length =
      .ok (streamOfWords packet.payload) := by
  have hle : packetHeaderWordCnt + packet.payload.length ≤
      packet.toPacket.dataRaw.length := by
    rw [DiPacket.toPacket_length, Nat.add_comm]
  rw [payloadBytes, inBounds_bind hle]
  simp

/-- The loop invariant: `rxNbyte` bytes are stored, and the packets that are
left hold the others. -/
theorem receiveData_eq {nbyte offset : Nat} (list : List DiPacket)
    {fuel : Nat} (hfuel : list.length < fuel) {s : Session δ}
    (hrx : s.rx = packets list) {buf : List Byte} {rxNbyte : Nat}
    (hlt : rxNbyte < nbyte)
    (htotal : rxNbyte + (packetsStream list).length = nbyte)
    (hbuf : offset + nbyte ≤ buf.length) :
    ∃ s', receiveData nbyte offset fuel s buf rxNbyte =
        .ok (osdOk, splice buf (offset + rxNbyte) (packetsStream list), s') ∧
      s'.dev = s.dev ∧ sentPackets s' = sentPackets s ∧
      ∃ rest, s'.rx = packets rest ∧ packetsStream rest = [] := by
  induction list generalizing fuel s buf rxNbyte with
  | nil =>
      simp only [packetsStream, List.flatMap_nil, List.length_nil] at htotal
      omega
  | cons packet list ih =>
      obtain ⟨fuel, rfl⟩ : ∃ f, fuel = f + 1 :=
        Nat.exists_eq_succ_of_ne_zero (by omega)
      have hstream : packetsStream (packet :: list) =
          streamOfWords packet.payload ++ packetsStream list := rfl
      rw [hstream, List.length_append] at htotal
      obtain ⟨next, hreceive, hnext, hdev⟩ : ∃ next,
          osdHostmodEventReceive s = .ok (.packet packet.toPacket, next) ∧
            next.rx = packets list ∧ next.dev = s.dev := by
        rw [osdHostmodEventReceive, hrx]
        exact ⟨_, rfl, rfl, rfl⟩
      have hsent := sentPackets_receive hreceive
      have hstore : offset + rxNbyte + (streamOfWords packet.payload).length ≤
          buf.length := by omega
      rw [receiveData, hreceive, ok_bind]
      dsimp only
      rw [DiPacket.sizeconvData2payload_toPacket, ok_bind,
        payloadBytes_toPacket, ok_bind, storeBytes_eq hstore, ok_bind]
      split
      · rename_i hmore
        obtain ⟨s', hrest, hdev', hsent', hleft⟩ := ih
          (Nat.lt_of_succ_lt_succ hfuel) hnext hmore
          (by rw [Nat.add_assoc]; exact htotal)
          (by rw [length_splice hstore]; exact hbuf)
        refine ⟨s', ?_, hdev'.trans hdev, hsent'.trans hsent, hleft⟩
        rw [hrest, ← Nat.add_assoc, splice_append (by omega), hstream]
      · rename_i hdone
        have hempty : packetsStream list = [] := by
          apply List.eq_nil_of_length_eq_zero
          omega
        refine ⟨next, ?_, hdev, hsent, list, hnext, hempty⟩
        rw [hstream, hempty, List.append_nil]

/-! ## Calls -/

/-- The call returned OSD_OK, and the buffer holds the bytes at `offset`. -/
structure Filled (desc : MemDesc) (view : δ → MamState) (s : Session δ)
    (buf : List Byte) (offset : Nat) (bytes : List Byte)
    (result : OsdResult × List Byte × Session δ) : Prop where
  rv : result.1 = osdOk
  buf : result.2.1 = splice buf offset bytes
  fetched : Fetched desc view s result.2.2

theorem Filled.trans {desc : MemDesc} {view : δ → MamState}
    {s s' : Session δ} {buf buf' : List Byte} {offset : Nat}
    {bytes bytes' : List Byte} {rv : OsdResult}
    {result : OsdResult × List Byte × Session δ}
    (h : Filled desc view s buf offset bytes (rv, buf', s'))
    (h' : Filled desc view s' buf' (offset + bytes.length) bytes' result)
    (hinside : offset + bytes.length + bytes'.length ≤ buf.length) :
    Filled desc view s buf offset (bytes ++ bytes') result := by
  have hbuf : buf' = splice buf offset bytes := h.buf
  refine ⟨h'.rv, ?_, h.fetched.trans h'.fetched⟩
  rw [h'.buf, hbuf, splice_append hinside]

theorem Filled.moved {desc : MemDesc} {view : δ → MamState} {s : Session δ}
    {buf : List Byte} {offset offset' : Nat} {bytes : List Byte}
    {result : OsdResult × List Byte × Session δ}
    (h : Filled desc view s buf offset bytes result)
    (hoffset : bytes ≠ [] → offset' = offset) :
    Filled desc view s buf offset' bytes result := by
  cases bytes with
  | nil =>
      refine ⟨h.rv, ?_, h.fetched⟩
      rw [h.buf, splice_nil, splice_nil]
  | cons byte bytes =>
      rwa [hoffset (List.cons_ne_nil byte bytes)]

theorem Filled.length {desc : MemDesc} {view : δ → MamState} {s : Session δ}
    {buf : List Byte} {offset : Nat} {bytes : List Byte}
    {result : OsdResult × List Byte × Session δ}
    (h : Filled desc view s buf offset bytes result)
    (hinside : offset + bytes.length ≤ buf.length) :
    result.2.1.length = buf.length := by
  rw [h.buf, length_splice hinside]

theorem ReadAnswer.burst_eq {dwB selsize addr : Nat} {mem : Memory Byte}
    {sync : Bool} {data bytes : List Byte}
    (h : ReadAnswer dwB mem ⟨false, true, sync, selsize, addr, data⟩ bytes) :
    bytes = Memory.read mem addr (selsize * dwB) := by
  apply List.ext_getElem
  · rw [Memory.length_read]
    exact h.length
  · intro i hi hi'
    rw [h.value i hi (Or.inl rfl)]
    simp [Memory.read]

/-- The number of words of a part fits into one byte. -/
theorem burstWords_mul {dwB nbyte : Nat}
    (hdw : dwB = 2 ∨ dwB = 4 ∨ dwB = 8) (hnbyte : nbyte % dwB = 0)
    (t : Nat) :
    (UInt8.ofNat (min (255 * dwB) (nbyte - t * (255 * dwB)) / dwB)).toNat *
      dwB = min (255 * dwB) (nbyte - t * (255 * dwB)) := by
  have hdiv : (t * (255 * dwB)) % dwB = 0 := by
    rw [← Nat.mul_assoc, Nat.mul_mod_left]
  generalize t * (255 * dwB) = pos at hdiv
  have hsize : min (255 * dwB) (nbyte - pos) % dwB = 0 ∧
      min (255 * dwB) (nbyte - pos) / dwB < 2 ^ 8 := by
    rcases hdw with rfl | rfl | rfl <;> omega
  rw [UInt8.toNat_ofNat', Nat.mod_eq_of_lt hsize.2,
    Nat.div_mul_cancel (Nat.dvd_of_mod_eq_zero hsize.1)]

section Calls

variable {allowed : Fault → Prop} (hallowed : allowed .assertion)
  {desc : MemDesc} (hdesc : desc.Supported) {link : Link δ}
  {view : δ → MamState} (hmam : IsMam desc link view)

include hallowed hdesc hmam

theorem mamRead_meets {s : Session δ} (hidle : Idle view s)
    {buf : List Byte} {offset nbyte startAddr : Nat} {burst : Bool}
    {selsize : Byte} (haddr : startAddr < 256 ^ desc.awB)
    (hpos : 0 < nbyte) (hbuf : offset + nbyte ≤ buf.length)
    (hnbyte : nbyte =
      if burst then selsize.toNat * desc.dwB else desc.dwB) :
    Meets allowed
      (mamRead link desc s buf offset nbyte startAddr burst selsize)
      fun result => ∃ bytes,
        ReadAnswer desc.dwB (view s.dev).mem
          ⟨false, burst, false, selsize.toNat, startAddr, []⟩ bytes ∧
        Filled desc view s buf offset bytes result := by
  rw [mamRead]
  refine (createMamTransfer_meets hallowed hdesc selsize.toNat_lt haddr
    (fun _ => rfl) (fun h => by cases h)).bind ?_
  intro transfer htransfer
  refine (sendMamTransfer_meets link desc s (.inr hallowed) htransfer.even
    htransfer.pos htransfer.small).bind ?_
  rintro ⟨rv, sent⟩ hsent
  have hok : osdFailed rv = false := by
    cases hfailed : osdFailed rv with
    | false => rfl
    | true =>
        obtain ⟨dev, packet, hrv⟩ := hsent.failed hfailed
        obtain rfl : osdOk = rv := (hmam.send_ok dev packet).symm.trans hrv
        cases hfailed
  obtain ⟨-, pkgs, hbytes, rfl⟩ := hsent.ok hok
  have hdecoded := htransfer.decoded
  rw [← hbytes] at hdecoded
  obtain ⟨rx, hpending, hanswer, hmem, hrx⟩ :=
    hmam.deliver_request hdecoded hidle.pending
  obtain ⟨before, hbefore, hempty⟩ := hidle.rx
  cases hanswer with
  | posted hwe => cases hwe
  | acknowledged hwe => cases hwe
  | read _ list hread =>
      have hrx' : (pkgs.foldl (deliver link) s).rx =
          packets (before ++ list) := by
        rw [hrx, hbefore]
        exact List.map_append.symm
      have hstream : packetsStream (before ++ list) = packetsStream list := by
        rw [packetsStream_append, hempty, List.nil_append]
      have hlength : 0 + (packetsStream (before ++ list)).length = nbyte := by
        rw [hstream, Nat.zero_add, hnbyte]
        exact hread.length
      obtain ⟨s', hreceive, hdev, hsent', hleft⟩ :=
        receiveData_eq (before ++ list) (Nat.lt_succ_self _) hrx' hpos
          hlength hbuf
      have hfuel : (pkgs.foldl (deliver link) s).rx.length + 1 =
          (before ++ list).length + 1 := by
        rw [hrx', packets, List.length_map]
      simp only [hok, Bool.false_eq_true, if_false]
      rw [hfuel, hreceive, meets_ok, hstream]
      refine ⟨_, hread, rfl, rfl, ?_, ?_, pkgs, _, ?_, hdecoded, ?_⟩
      · exact ⟨by rw [hdev]; exact hpending, hleft⟩
      · rw [hdev]
        exact hmem
      · rw [hsent', sentPackets_deliver]
      · simp

theorem readSingle_meets {s : Session δ} (hidle : Idle view s)
    {buf : List Byte} {offset nbyte startAddr : Nat}
    (haddr : startAddr < 256 ^ desc.awB)
    (hbuf : offset + nbyte ≤ buf.length) :
    Meets allowed (readSingle link desc s buf offset nbyte startAddr)
      (Filled desc view s buf offset
        (Memory.read (view s.dev).mem startAddr nbyte)) := by
  have hdw := hdesc.dwB_cases
  have hword : startAddr - startAddr % desc.dwB + startAddr % desc.dwB =
      startAddr := Nat.sub_add_cancel (Nat.mod_le _ _)
  rw [readSingle, hdesc.baddr_eq, loadBytes_eq hbuf, ok_bind]
  generalize startAddr % desc.dwB = baddr at hword
  have hdata := length_part hbuf
  refine (alignDataToWord_meets hallowed (by omega) baddr _).bind ?_
  rintro ⟨word, bs⟩ haligned
  have hlength : word.length = desc.dwB := haligned.length
  have hinside : baddr + nbyte ≤ desc.dwB := by
    have hinside := haligned.inside
    rwa [hdata] at hinside
  have hpos : 0 < desc.dwB := by omega
  have hfits : 0 + desc.dwB ≤ word.length := by omega
  refine (mamRead_meets hallowed hdesc hmam hidle (by omega) hpos hfits
    rfl).bind ?_
  rintro ⟨rv, word', s'⟩ ⟨bytes, hanswer, hfilled⟩
  have hbytes : bytes.length = desc.dwB := hanswer.length
  obtain rfl : word' = bytes :=
    hfilled.buf.trans (splice_all (by rw [hbytes, hlength]))
  have hselected : (word'.drop baddr).take nbyte =
      Memory.read (view s.dev).mem startAddr nbyte := by
    apply List.ext_getElem
    · rw [List.length_take, List.length_drop, Memory.length_read]
      omega
    · intro i hi hi'
      rw [Memory.length_read] at hi'
      have hmask : bs.toNat.testBit (baddr + i) = true := by
        rw [haligned.mask, hdata]
        omega
      rw [List.getElem_take, List.getElem_drop,
        hanswer.value (baddr + i) (by omega) (Or.inr hmask)]
      simp [Memory.read, ← Nat.add_assoc, hword]
  dsimp only
  rw [loadBytes_eq (by omega), ok_bind, hselected,
    storeBytes_eq (by rwa [Memory.length_read]), ok_bind, meets_ok]
  exact ⟨hfilled.rv, rfl, hfilled.fetched⟩

/-- The invariant of the loop: transfer `t` continues behind the first `t`
blocks. -/
theorem readBursts_meets {offset nbyte startAddr : Nat}
    (hwords : nbyte % desc.dwB = 0) (hlength : nbyte < 2 ^ 32)
    (hrange : startAddr + nbyte ≤ 256 ^ desc.awB) (count t : Nat)
    {s : Session δ} (hidle : Idle view s) {buf : List Byte}
    (hbuf : offset + nbyte ≤ buf.length)
    (hcovers : nbyte ≤ (t + count) * (255 * desc.dwB))
    (hneeded : count ≠ 0 → (t + count - 1) * (255 * desc.dwB) < nbyte) :
    Meets allowed
      (readBursts link desc offset nbyte startAddr (255 * desc.dwB) count t
        buf s)
      (Filled desc view s buf (offset + t * (255 * desc.dwB))
        (Memory.read (view s.dev).mem (startAddr + t * (255 * desc.dwB))
          (nbyte - t * (255 * desc.dwB)))) := by
  have hdw := hdesc.dwB_cases
  have hpow := hdesc.addrs_le
  induction count generalizing t buf s with
  | zero =>
      rw [Nat.add_zero] at hcovers
      rw [readBursts, meets_ok, Nat.sub_eq_zero_of_le hcovers]
      exact ⟨rfl, (splice_nil _ _).symm, .refl hidle⟩
  | succ count ih =>
      obtain ⟨ht, hcovers', hneeded'⟩ := transfers_succ hcovers hneeded
      have hsucc : (t + 1) * (255 * desc.dwB) =
          t * (255 * desc.dwB) + 255 * desc.dwB := Nat.succ_mul _ _
      have hselsize := burstWords_mul hdw hwords t
      have ih := fun {s} (hidle : Idle view s) {buf : List Byte}
          (hbuf : offset + nbyte ≤ buf.length) =>
        ih (t + 1) hidle hbuf hcovers' hneeded'
      rw [hsucc] at ih
      rw [readBursts, burstPart_eq (by omega) (by omega) ht]
      generalize t * (255 * desc.dwB) = pos at ht ih hselsize
      dsimp only
      rw [Nat.mod_eq_of_lt (by omega : startAddr + pos < 2 ^ 64)]
      refine (mamRead_meets hallowed hdesc hmam hidle (by omega) (by omega)
        (by omega) hselsize.symm).bind ?_
      rintro ⟨rv, buf', s'⟩ ⟨bytes, hanswer, hfirst⟩
      have hbytes := hanswer.burst_eq
      rw [hselsize] at hbytes
      have hsize : bytes.length = min (255 * desc.dwB) (nbyte - pos) := by
        rw [hbytes, Memory.length_read]
      have hbuf' : buf'.length = buf.length := hfirst.length (by omega)
      obtain rfl : rv = osdOk := hfirst.rv
      refine (ih hfirst.fetched.idle (by rwa [hbuf'])).weaken ?_
      intro result hrest
      rw [show (view s'.dev).mem = (view s.dev).mem from hfirst.fetched.mem]
        at hrest
      by_cases hmore : pos + 255 * desc.dwB < nbyte
      · have hsize' : bytes.length = 255 * desc.dwB := by omega
        have hwhole : Memory.read (view s.dev).mem (startAddr + pos)
            (nbyte - pos) = bytes ++ Memory.read (view s.dev).mem
              (startAddr + (pos + 255 * desc.dwB))
              (nbyte - (pos + 255 * desc.dwB)) := by
          rw [hbytes, ← hsize, hsize', ← Nat.add_assoc, ← Memory.read_add]
          congr 1
          omega
        rw [hwhole]
        refine hfirst.trans (hrest.moved (fun _ => by omega)) ?_
        rw [Memory.length_read]
        omega
      · rw [Nat.sub_eq_zero_of_le (by omega :
          nbyte ≤ pos + 255 * desc.dwB)] at hrest
        have hlast : min (255 * desc.dwB) (nbyte - pos) = nbyte - pos := by
          omega
        rw [hlast] at hbytes
        rw [← hbytes, ← List.append_nil bytes]
        exact hfirst.trans (hrest.moved (fun h => absurd rfl h))
          (by rw [List.length_nil]; omega)

theorem readBurst_meets {s : Session δ} (hidle : Idle view s)
    {buf : List Byte} {offset nbyte startAddr : Nat} (hpos : 0 < nbyte)
    (hlength : nbyte < 2 ^ 32)
    (hrange : startAddr + nbyte ≤ 256 ^ desc.awB)
    (hbuf : offset + nbyte ≤ buf.length) :
    Meets allowed (readBurst link desc s buf offset nbyte startAddr)
      (Filled desc view s buf offset
        (Memory.read (view s.dev).mem startAddr nbyte)) := by
  have hdw := hdesc.dwB_cases
  rw [readBurst]
  refine Meets.assertThat hallowed (fun hwords => ?_)
  refine Meets.assertThat hallowed (fun _ => ?_)
  obtain ⟨hcovers, hneeded⟩ := numTransfers_covers hdw hpos hlength
  rw [maxBulk_eq (by omega)]
  have hloop := readBursts_meets hallowed hdesc hmam hwords hlength hrange
    (intDivCeil nbyte (255 * desc.dwB) % 2 ^ 32) 0 hidle hbuf
    (by rwa [Nat.zero_add]) (fun _ => by rwa [Nat.zero_add])
  simpa only [Nat.zero_mul, Nat.sub_zero, Nat.add_zero] using hloop

omit hallowed hdesc hmam in
theorem unlessEmptyRead_meets {s : Session δ} {buf : List Byte}
    {startAddr offset size : Nat}
    {before : OsdResult × List Byte × Session δ}
    {call : List Byte → Session δ →
      Outcome (OsdResult × List Byte × Session δ)}
    (hinside : offset + size ≤ buf.length)
    (hbefore : Filled desc view s buf 0
      (Memory.read (view s.dev).mem startAddr offset) before)
    (hcall : ∀ buf' s', buf'.length = buf.length → Idle view s' → size ≠ 0 →
      Meets allowed (call buf' s') (Filled desc view s' buf' offset
        (Memory.read (view s'.dev).mem (startAddr + offset) size))) :
    Meets allowed (unlessEmptyRead size before call)
      (Filled desc view s buf 0
        (Memory.read (view s.dev).mem startAddr (offset + size))) := by
  obtain ⟨rv, buf', s'⟩ := before
  obtain rfl : rv = osdOk := hbefore.rv
  have hread : (Memory.read (view s.dev).mem startAddr offset).length =
      offset := Memory.length_read _ _ _
  rw [unlessEmptyRead]
  split
  · rename_i hskip
    rcases hskip with hfailed | hzero
    · cases hfailed
    · rwa [hzero, Nat.add_zero]
  · rename_i hnot
    have hbuf' : buf'.length = buf.length := hbefore.length (by omega)
    refine (hcall buf' s' hbuf' hbefore.fetched.idle
      (fun h => hnot (Or.inr h))).weaken ?_
    intro result hresult
    rw [show (view s'.dev).mem = (view s.dev).mem from hbefore.fetched.mem]
      at hresult
    rw [Memory.read_add]
    refine hbefore.trans ?_ ?_
    · rwa [hread, Nat.zero_add]
    · rw [hread, Memory.length_read]
      omega

theorem osdClMamRead_meets {s : Session δ} (hidle : Idle view s)
    {buf : List Byte} {startAddr : Nat} (hpos : 0 < buf.length)
    (hlength : buf.length < 2 ^ 32)
    (hrange : startAddr + buf.length ≤ 256 ^ desc.awB) :
    Meets allowed (osdClMamRead link desc s buf startAddr)
      (Filled desc view s buf 0
        (Memory.read (view s.dev).mem startAddr buf.length)) := by
  have hdw := hdesc.dwB_cases
  have hpow := hdesc.addrs_le
  have hsum := calculateParts_sum startAddr buf.length hdw (by omega)
    (by omega)
  rw [osdClMamRead]
  generalize calculateParts startAddr buf.length desc.dwB = parts at hsum
  obtain ⟨prolog, bulk, epilog⟩ := parts
  dsimp only at hsum ⊢
  have hstart : Filled desc view s buf 0
      (Memory.read (view s.dev).mem startAddr 0) (osdOk, buf, s) :=
    ⟨rfl, (splice_nil _ _).symm, .refl hidle⟩
  refine (unlessEmptyRead_meets (by omega) hstart ?_).bind ?_
  · intro buf' s' hbuf' hidle' hsize
    exact readSingle_meets hallowed hdesc hmam hidle' (by omega) (by omega)
  intro afterProlog hprolog
  rw [Nat.zero_add] at hprolog
  refine (unlessEmptyRead_meets (by omega) hprolog ?_).bind ?_
  · intro buf' s' hbuf' hidle' hsize
    rw [Nat.mod_eq_of_lt (by omega)]
    exact readBurst_meets hallowed hdesc hmam hidle' (by omega) (by omega)
      (by omega) (by omega)
  intro afterBulk hbulk
  refine (unlessEmptyRead_meets (by omega) hbulk ?_).weaken ?_
  · intro buf' s' hbuf' hidle' hsize
    rw [Nat.mod_eq_of_lt (by omega), Nat.add_assoc]
    exact readSingle_meets hallowed hdesc hmam hidle' (by omega) (by omega)
  · intro result hresult
    rwa [hsum] at hresult

end Calls

/-! ## Reading back -/

theorem WriteIssued.idle {desc : MemDesc} {link : Link δ}
    {view : δ → MamState} (hmam : IsMam desc link view) {s s' : Session δ}
    {request : MamRequest} (h : WriteIssued link desc s request s')
    (hwe : request.we = true) (hidle : Idle view s) :
    Idle view s' ∧ (view s'.dev).mem = execute (view s.dev).mem request := by
  obtain ⟨before, hbefore, hempty⟩ := hidle.rx
  cases h with
  | posted pkgs hbytes hsync hs' =>
      obtain ⟨rx, hpending, hanswer, hmem, hrx⟩ :=
        hmam.deliver_request hbytes hidle.pending
      rw [← hs'] at hpending hmem hrx
      refine ⟨⟨hpending, before, ?_, hempty⟩, hmem⟩
      cases hanswer with
      | posted => rw [hrx, hbefore, List.append_nil]
      | acknowledged _ hacknowledged =>
          rw [hsync] at hacknowledged
          cases hacknowledged
      | read hread =>
          rw [hwe] at hread
          cases hread
  | acknowledged pkgs hbytes hsync packet hreceive =>
      obtain ⟨rx, hpending, hanswer, hmem, hrx⟩ :=
        hmam.deliver_request hbytes hidle.pending
      obtain ⟨ack, hack, hackempty⟩ : ∃ ack : DiPacket,
          rx = packets [ack] ∧ ack.payload = [] := by
        cases hanswer with
        | posted _ hposted =>
            rw [hsync] at hposted
            cases hposted
        | acknowledged _ _ ack hackempty => exact ⟨ack, rfl, hackempty⟩
        | read hread =>
            rw [hwe] at hread
            cases hread
      have hrx' : (pkgs.foldl (deliver link) s).rx =
          packets (before ++ [ack]) := by
        rw [hrx, hbefore, hack]
        exact List.map_append.symm
      have hall : packetsStream (before ++ [ack]) = [] := by
        rw [packetsStream_append, hempty]
        simp [packetsStream, hackempty]
      rw [osdHostmodEventReceive, hrx'] at hreceive
      -- the message that is taken may be one of the earlier empty ones
      generalize before ++ [ack] = list at hreceive hall
      cases list with
      | nil => cases hreceive
      | cons first rest =>
          obtain ⟨-, rfl⟩ := Prod.mk.inj (Except.ok.inj hreceive)
          have hrest := (List.append_eq_nil_iff.mp hall).2
          exact ⟨⟨hpending, rest, rfl, hrest⟩, hmem⟩

theorem idle_of_run {desc : MemDesc} {link : Link δ} {view : δ → MamState}
    (hmam : IsMam desc link view) {s s' : Session δ}
    {requests : List MamRequest}
    (run : Runs (WriteIssued link desc) s requests s')
    (hwe : ∀ request ∈ requests, request.we = true) (hidle : Idle view s) :
    Idle view s' ∧
      (view s'.dev).mem = executeAll (view s.dev).mem requests := by
  induction run with
  | refl => exact ⟨hidle, rfl⟩
  | snoc _ hissued ih =>
      obtain ⟨hidle', hmem⟩ := ih (fun request hrequest =>
        hwe request (List.mem_append_left _ hrequest))
      obtain ⟨hidle'', hmem'⟩ :=
        hissued.idle hmam (hwe _ (by simp)) hidle'
      refine ⟨hidle'', ?_⟩
      rw [hmem', hmem, executeAll_append]
      rfl

theorem osdClMamWrite_mem {desc : MemDesc} (hdesc : desc.Supported)
    {link : Link δ} {view : δ → MamState} (hmam : IsMam desc link view)
    {s s' : Session δ} (hidle : Idle view s) {data : List Byte}
    {startAddr : Nat} (hpos : 0 < data.length)
    (hlength : data.length < 2 ^ 32)
    (hrange : startAddr + data.length ≤ 256 ^ desc.awB)
    (h : osdClMamWrite link desc s data startAddr = .ok (osdOk, s')) :
    Idle view s' ∧
      (view s'.dev).mem =
        Memory.write (view s.dev).mem startAddr data := by
  have hmeets : Meets (fun _ => True)
      (osdClMamWrite link desc s data startAddr) _ :=
    osdClMamWrite_meets trivial trivial link hdesc s hpos hlength hrange
  obtain ⟨-, requests, run, hwe, hmem⟩ := hmeets.of_eq_ok h rfl
  obtain ⟨hidle', hmem'⟩ := idle_of_run hmam run hwe hidle
  exact ⟨hidle', hmem'.trans (hmem _)⟩

/-- A read that meets no assertion returns the bytes of the range; after a
write of the range these are the written bytes. -/
theorem osdClMamRead_reads {desc : MemDesc} (hdesc : desc.Supported)
    {link : Link δ} {view : δ → MamState} (hmam : IsMam desc link view)
    (buf : List Byte) (startAddr : Nat) (hpos : 0 < buf.length)
    (hlength : buf.length < 2 ^ 32)
    (hrange : startAddr + buf.length ≤ 2 ^ (8 * desc.awB)) :
    (∀ s, Idle view s →
      osdClMamRead link desc s buf startAddr = .error .assertion ∨
      ∃ s', osdClMamRead link desc s buf startAddr =
          .ok (osdOk, Memory.read (view s.dev).mem startAddr buf.length, s') ∧
        Fetched desc view s s') ∧
    ∀ s s' data, Idle view s → data.length = buf.length →
      osdClMamWrite link desc s data startAddr = .ok (osdOk, s') →
      osdClMamRead link desc s' buf startAddr = .error .assertion ∨
      ∃ s'', osdClMamRead link desc s' buf startAddr =
        .ok (osdOk, data, s'') := by
  rw [pow_mul] at hrange
  have hread : ∀ s, Idle view s →
      osdClMamRead link desc s buf startAddr = .error .assertion ∨
      ∃ s', osdClMamRead link desc s buf startAddr =
          .ok (osdOk, Memory.read (view s.dev).mem startAddr buf.length, s') ∧
        Fetched desc view s s' := by
    intro s hidle
    have hmeets : Meets (Eq Fault.assertion)
        (osdClMamRead link desc s buf startAddr) _ :=
      osdClMamRead_meets rfl hdesc hmam hidle hpos hlength hrange
    rcases hmeets.fault_or_ok with hfailed | ⟨⟨rv, buf', s'⟩, hok, hread⟩
    · exact Or.inl hfailed
    · obtain rfl : rv = osdOk := hread.rv
      have hbuf : buf' = Memory.read (view s.dev).mem startAddr buf.length :=
        hread.buf.trans (splice_all (Memory.length_read _ _ _))
      exact Or.inr ⟨s', by rw [hok, hbuf], hread.fetched⟩
  refine ⟨hread, ?_⟩
  intro s s' data hidle hdata hwrite
  obtain ⟨hidle', hmem⟩ := osdClMamWrite_mem hdesc hmam hidle
    (by rwa [hdata]) (by rwa [hdata]) (by rwa [hdata]) hwrite
  have hback := hread s' hidle'
  rw [hmem, ← hdata, Memory.read_write] at hback
  exact hback.imp id fun ⟨s'', hcall, _⟩ => ⟨s'', hcall⟩

/-- Three bytes of the word at 0x1224 of a memory that holds the low bytes of
its addresses. -/
theorem osdClMamRead_reads_single :
    ∃ s', osdClMamRead (mamLink ⟨1, 32, 32⟩) ⟨1, 32, 32⟩
        ⟨2, ⟨[], UInt8.ofNat⟩, [], []⟩ [0, 0, 0] 0x1225 =
      .ok (osdOk, [0x25, 0x26, 0x27], s') := by
  have hdesc : MemDesc.Supported ⟨1, 32, 32⟩ := ⟨by decide, by decide⟩
  have hreads := (osdClMamRead_reads hdesc (isMam_mamLink hdesc) [0, 0, 0]
    0x1225 (by decide) (by decide) (by decide)).1
    ⟨2, ⟨[], UInt8.ofNat⟩, [], []⟩ ⟨rfl, [], rfl, rfl⟩
  rcases hreads with hfailed | ⟨s', hcall, -⟩
  · cases hfailed
  · exact ⟨s', hcall⟩

end Osd.Mam
