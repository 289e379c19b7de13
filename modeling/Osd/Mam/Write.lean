import Osd.Foundation.Runs
import Osd.Mam.Transfer

/-!
# Writes reach the memory

Every layer of a write, from the parts of the range down to single requests,
is described by the requests that it issues and by what these do to a memory.
-/

namespace Osd.Mam

open Osd.Foundation

variable {δ : Type}

/-- A write request went out, and if it asked for an acknowledgement one
message was received. -/
inductive WriteIssued (link : Link δ) (desc : MemDesc) (s : Session δ)
    (request : MamRequest) (s' : Session δ) : Prop
  | posted (pkgs : List Packet)
      (hbytes : Drains (decodeRequest desc) (pkgs.flatMap payloadStream)
        [request] [])
      (hsync : request.sync = false) (hs' : s' = pkgs.foldl (deliver link) s)
  | acknowledged (pkgs : List Packet)
      (hbytes : Drains (decodeRequest desc) (pkgs.flatMap payloadStream)
        [request] [])
      (hsync : request.sync = true) (packet : Packet)
      (hreceive : osdHostmodEventReceive (pkgs.foldl (deliver link) s) =
        .ok (.packet packet, s'))

/-- The requests between two sessions write `data` to `startAddr`. -/
def Written (link : Link δ) (desc : MemDesc) (s : Session δ)
    (data : List Byte) (startAddr : Nat) (s' : Session δ) : Prop :=
  ∃ requests, Runs (WriteIssued link desc) s requests s' ∧
    (∀ request ∈ requests, request.we = true) ∧
    ∀ mem, executeAll mem requests = Memory.write mem startAddr data

/-- A result that is no error comes with the property. -/
def Succeeds (P : Session δ → Prop) (result : OsdResult × Session δ) : Prop :=
  osdFailed result.1 = false → result.1 = osdOk ∧ P result.2

namespace Written

variable {link : Link δ} {desc : MemDesc} {s s' s'' : Session δ}
  {data data' : List Byte} {startAddr : Nat}

theorem nil : Written link desc s [] startAddr s :=
  ⟨[], .refl, by simp, fun mem => (Memory.write_nil mem startAddr).symm⟩

theorem moved {addr : Nat} (h : Written link desc s data startAddr s')
    (haddr : data ≠ [] → addr = startAddr) :
    Written link desc s data addr s' := by
  cases data with
  | nil =>
      obtain ⟨requests, run, hwe, hmem⟩ := h
      refine ⟨requests, run, hwe, fun mem => ?_⟩
      rw [hmem, Memory.write_nil, Memory.write_nil]
  | cons byte data =>
      rwa [haddr (List.cons_ne_nil byte data)]

theorem trans (h : Written link desc s data startAddr s')
    (h' : Written link desc s' data' (startAddr + data.length) s'') :
    Written link desc s (data ++ data') startAddr s'' := by
  obtain ⟨requests, run, hwe, hmem⟩ := h
  obtain ⟨requests', run', hwe', hmem'⟩ := h'
  refine ⟨requests ++ requests', run.trans run', ?_, ?_⟩
  · intro request hrequest
    rcases List.mem_append.mp hrequest with hrequest | hrequest
    · exact hwe request hrequest
    · exact hwe' request hrequest
  · intro mem
    rw [executeAll_append, hmem, hmem', Memory.write_append]

theorem single {request : MamRequest}
    (hissued : WriteIssued link desc s request s') (hwe : request.we = true)
    (hmem : ∀ mem, execute mem request = Memory.write mem startAddr data) :
    Written link desc s data startAddr s' := by
  refine ⟨[request], .single hissued, ?_, hmem⟩
  intro request' hrequest
  rwa [List.mem_singleton.mp hrequest]

end Written

/-! ## Words -/

theorem testBit_byteSelect {dwB baddr nbyte : Nat} (hdw : dwB ≤ 8) (i : Nat) :
    (byteSelect dwB baddr nbyte).toNat.testBit i = true ↔
      i < dwB ∧ baddr ≤ i ∧ i < baddr + nbyte := by
  induction dwB with
  | zero => simp [byteSelect]
  | succ k ih =>
      have ih := ih (by omega)
      have hbit : (UInt8.ofNat (1 <<< k)).toNat = 2 ^ k := by
        have hlt : 2 ^ k < 2 ^ 8 := Nat.pow_lt_pow_right (by omega) (by omega)
        rw [UInt8.toNat_ofNat', Nat.one_shiftLeft, Nat.mod_eq_of_lt hlt]
      rw [byteSelect] at ih
      rw [byteSelect, List.range_succ, List.foldl_append, List.foldl_cons,
        List.foldl_nil]
      split
      · rename_i hselected
        rw [UInt8.toNat_or, Nat.testBit_or, Bool.or_eq_true, ih, hbit,
          Nat.testBit_two_pow, decide_eq_true_iff]
        omega
      · rename_i hnot
        rw [ih]
        omega

/-- The data at its place in an otherwise empty word, and its mask. -/
structure Aligned (dwB baddr : Nat) (data : List Byte)
    (result : List Byte × Byte) : Prop where
  inside : baddr + data.length ≤ dwB
  word : result.1 = List.replicate baddr 0 ++ data ++
    List.replicate (dwB - (baddr + data.length)) 0
  mask : ∀ i, result.2.toNat.testBit i = true ↔
    i < dwB ∧ baddr ≤ i ∧ i < baddr + data.length

theorem Aligned.length {dwB baddr : Nat} {data : List Byte}
    {result : List Byte × Byte} (h : Aligned dwB baddr data result) :
    result.1.length = dwB := by
  have hinside := h.inside
  rw [h.word]
  simp only [List.length_append, List.length_replicate]
  omega

theorem alignDataToWord_meets {allowed : Fault → Prop}
    (hallowed : allowed .assertion) {dwB : Nat} (hdw : dwB ≤ 8)
    (baddr : Nat) (data : List Byte) :
    Meets allowed (alignDataToWord baddr data dwB)
      (Aligned dwB baddr data) := by
  rw [alignDataToWord]
  refine Meets.assertThat hallowed (fun hinside => ?_)
  refine Meets.assertThat hallowed (fun _ => ?_)
  rw [storeBytes_eq (by simpa using hinside), ok_bind, meets_ok]
  exact ⟨hinside, splice_replicate 0 dwB hinside, testBit_byteSelect hdw⟩

theorem Aligned.execute_eq {dwB baddr : Nat} {data : List Byte}
    {result : List Byte × Byte} (h : Aligned dwB baddr data result)
    (mem : Memory Byte) (addr : Nat) (sync : Bool) :
    execute mem ⟨true, false, sync, result.2.toNat, addr, result.1⟩ =
      Memory.write mem (addr + baddr) data := by
  have hinside := h.inside
  have hpadded := Memory.writeMasked_padded mem addr
    result.2.toNat.testBit (List.replicate baddr 0) data
    (List.replicate (dwB - (baddr + data.length)) 0) (by
      intro i hi
      rw [h.mask, List.length_replicate]
      simp only [List.length_append, List.length_replicate] at hi
      omega)
  rw [List.length_replicate, ← h.word] at hpadded
  exact hpadded

/-! ## Parts -/

/-- The three parts cover the range. -/
theorem calculateParts_sum (startAddr nbyte : Nat) {dwB : Nat}
    (hdw : dwB = 2 ∨ dwB = 4 ∨ dwB = 8) (hnbyte : nbyte < 2 ^ 64)
    (hstart : startAddr < 2 ^ 64) :
    (calculateParts startAddr nbyte dwB).1 +
        (calculateParts startAddr nbyte dwB).2.1 +
        (calculateParts startAddr nbyte dwB).2.2 = nbyte := by
  rw [calculateParts]
  rcases hdw with rfl | rfl | rfl <;> split <;> dsimp only <;> omega

/-- Before the counters wrap, part `t` is the `t`-th block of the data. -/
theorem burstPart_eq {maxBulk nbyte t : Nat} (hmax : maxBulk < 2 ^ 32)
    (hstart : t * maxBulk < 2 ^ 32) (ht : t * maxBulk < nbyte) :
    burstPart maxBulk nbyte t =
      (t * maxBulk, min maxBulk (nbyte - t * maxBulk)) := by
  rw [burstPart]
  generalize t * maxBulk = pos at hstart ht
  have hpos : pos % 2 ^ 32 = pos := Nat.mod_eq_of_lt hstart
  have hend : (pos + maxBulk) % 2 ^ 64 = pos + maxBulk :=
    Nat.mod_eq_of_lt (by omega)
  simp only [hpos, hend, Prod.mk.injEq, true_and]
  split <;> omega

theorem maxBulk_eq {desc : MemDesc} (hdw : desc.dwB ≤ 8) :
    mamMaxBurstWords * desc.dwB % 2 ^ 32 = 255 * desc.dwB := by
  rw [mamMaxBurstWords]
  omega

theorem numTransfers_covers {dwB nbyte : Nat}
    (hdw : dwB = 2 ∨ dwB = 4 ∨ dwB = 8) (hpos : 0 < nbyte)
    (hnbyte : nbyte < 2 ^ 32) :
    nbyte ≤ intDivCeil nbyte (255 * dwB) % 2 ^ 32 * (255 * dwB) ∧
      (intDivCeil nbyte (255 * dwB) % 2 ^ 32 - 1) * (255 * dwB) < nbyte := by
  have hpred : (nbyte + 2 ^ 64 - 1) % 2 ^ 64 = nbyte - 1 := by omega
  rw [intDivCeil, hpred]
  rcases hdw with rfl | rfl | rfl <;> omega

/-- The transfers that are left when one of them is made. -/
theorem transfers_succ {size nbyte t count : Nat}
    (hcovers : nbyte ≤ (t + (count + 1)) * size)
    (hneeded : count + 1 ≠ 0 → (t + (count + 1) - 1) * size < nbyte) :
    t * size < nbyte ∧ nbyte ≤ (t + 1 + count) * size ∧
      (count ≠ 0 → (t + 1 + count - 1) * size < nbyte) := by
  have hlast := hneeded (Nat.succ_ne_zero count)
  have hcount : t + 1 + count = t + (count + 1) := by omega
  rw [hcount]
  refine ⟨Nat.lt_of_le_of_lt ?_ hlast, hcovers, fun _ => hlast⟩
  exact Nat.mul_le_mul_right _ (by omega)

section Calls

variable {allowed : Fault → Prop} (hallowed : allowed .assertion)
  (hblocked : allowed .blocked) (link : Link δ) {desc : MemDesc}
  (hdesc : desc.Supported)

include hallowed hblocked hdesc

theorem mamWrite_meets (s : Session δ) {data : List Byte} {startAddr : Nat}
    {burst sync : Bool} {selsize : Byte}
    (haddr : startAddr < 256 ^ desc.awB)
    (hsingle : burst = false → data.length = desc.dwB) :
    Meets allowed (mamWrite link desc s data startAddr burst sync selsize)
      (Succeeds (WriteIssued link desc s
        ⟨true, burst, sync, selsize.toNat, startAddr, data⟩)) := by
  rw [mamWrite]
  refine (createMamTransfer_meets hallowed hdesc selsize.toNat_lt haddr
    (fun h => by cases h) (fun _ => hsingle)).bind ?_
  intro transfer htransfer
  refine (sendMamTransfer_meets link desc s (.inr hallowed) htransfer.even
    htransfer.pos htransfer.small).bind ?_
  rintro ⟨rv, sent⟩ hsent
  dsimp only
  cases hfailed : osdFailed rv with
  | true => exact fun hnot => absurd hfailed (by simp [hnot])
  | false =>
      obtain ⟨-, pkgs, hbytes, rfl⟩ := hsent.ok hfailed
      have hdecoded := htransfer.decoded
      rw [← hbytes] at hdecoded
      cases sync with
      | false => exact fun _ => ⟨rfl, .posted pkgs hdecoded rfl rfl⟩
      | true =>
          simp only [Bool.false_eq_true, if_false, if_true]
          cases hreceive : osdHostmodEventReceive
              (pkgs.foldl (deliver link) s) with
          | error fault =>
              rw [osdHostmodEventReceive] at hreceive
              split at hreceive
              · cases hreceive
                exact hblocked
              · cases hreceive
          | ok received =>
              obtain ⟨result, s'⟩ := received
              cases result with
              | packet packet =>
                  exact fun _ => ⟨rfl,
                    .acknowledged pkgs hdecoded rfl packet hreceive⟩
              | failed rv' hrv' =>
                  exact fun hnot => absurd hrv' (by simp [hnot])

theorem writeSingle_meets (s : Session δ) {data : List Byte}
    {startAddr : Nat} (sync : Bool) (haddr : startAddr < 256 ^ desc.awB) :
    Meets allowed (writeSingle link desc s data startAddr sync)
      (Succeeds (Written link desc s data startAddr)) := by
  have hdw := hdesc.dwB_cases
  have hword : startAddr - startAddr % desc.dwB + startAddr % desc.dwB =
      startAddr := Nat.sub_add_cancel (Nat.mod_le _ _)
  rw [writeSingle, hdesc.baddr_eq]
  refine (alignDataToWord_meets hallowed (by omega) _ data).bind ?_
  rintro ⟨word, bs⟩ haligned
  refine (mamWrite_meets hallowed hblocked link hdesc s (by omega)
    (fun _ => haligned.length)).weaken ?_
  intro result hresult hok
  obtain ⟨hrv, hissued⟩ := hresult hok
  refine ⟨hrv, .single hissued rfl (fun mem => ?_)⟩
  have hexecute := haligned.execute_eq mem
    (startAddr - startAddr % desc.dwB) sync
  rwa [hword] at hexecute

/-- The invariant of the loop: transfer `t` starts with the rest of the data
behind the first `t` blocks. -/
theorem writeBursts_meets {data : List Byte} {startAddr : Nat} (sync : Bool)
    (hlength : data.length < 2 ^ 32)
    (hrange : startAddr + data.length ≤ 256 ^ desc.awB)
    (numTransfers count t : Nat) (s : Session δ)
    (hcovers : data.length ≤ (t + count) * (255 * desc.dwB))
    (hneeded : count ≠ 0 →
      (t + count - 1) * (255 * desc.dwB) < data.length) :
    Meets allowed
      (writeBursts link desc data startAddr sync (255 * desc.dwB)
        numTransfers count t s)
      (Succeeds (Written link desc s (data.drop (t * (255 * desc.dwB)))
        (startAddr + t * (255 * desc.dwB)))) := by
  have hdw := hdesc.dwB_cases
  have hpow := hdesc.addrs_le
  induction count generalizing t s with
  | zero =>
      rw [Nat.add_zero] at hcovers
      rw [writeBursts, meets_ok, List.drop_eq_nil_of_le hcovers]
      exact fun _ => ⟨rfl, .nil⟩
  | succ count ih =>
      obtain ⟨ht, hcovers', hneeded'⟩ := transfers_succ hcovers hneeded
      have hsucc : (t + 1) * (255 * desc.dwB) =
          t * (255 * desc.dwB) + 255 * desc.dwB := Nat.succ_mul _ _
      have ih := fun s => ih (t + 1) s hcovers' hneeded'
      rw [hsucc] at ih
      rw [writeBursts, burstPart_eq (by omega) (by omega) ht]
      generalize t * (255 * desc.dwB) = pos at ht ih
      dsimp only
      have hpart : (data.drop pos).take
          (min (255 * desc.dwB) (data.length - pos)) =
          (data.drop pos).take (255 * desc.dwB) := by
        rw [List.take_eq_take_iff, List.length_drop]
        omega
      rw [loadBytes_eq (by omega), ok_bind, hpart,
        Nat.mod_eq_of_lt (by omega : startAddr + pos < 2 ^ 64)]
      refine (mamWrite_meets hallowed hblocked link hdesc s (by omega)
        (fun h => by cases h)).bind ?_
      rintro ⟨rv, s'⟩ hresult
      dsimp only
      cases hfailed : osdFailed rv with
      | true => exact fun hnot => absurd hfailed (by simp [hnot])
      | false =>
          obtain ⟨-, hissued⟩ := hresult hfailed
          have hfirst : Written link desc s
              ((data.drop pos).take (255 * desc.dwB)) (startAddr + pos) s' :=
            .single hissued rfl (fun mem => rfl)
          simp only [Bool.false_eq_true, if_false]
          refine (ih s').weaken ?_
          intro result hresult hok
          obtain ⟨hrv, hrest⟩ := hresult hok
          refine ⟨hrv, ?_⟩
          have hwhole : (data.drop pos).take (255 * desc.dwB) ++
              data.drop (pos + 255 * desc.dwB) = data.drop pos := by
            rw [← List.drop_drop]
            exact List.take_append_drop _ _
          rw [← hwhole]
          refine hfirst.trans (hrest.moved (fun hmore => ?_))
          have hlt : pos + 255 * desc.dwB < data.length := by
            by_contra hle
            exact hmore (List.drop_eq_nil_of_le (by omega))
          rw [List.length_take, List.length_drop,
            Nat.min_eq_left (by omega), Nat.add_assoc]

theorem writeBurst_meets (s : Session δ) {data : List Byte} {startAddr : Nat}
    (sync : Bool) (hpos : 0 < data.length) (hlength : data.length < 2 ^ 32)
    (hrange : startAddr + data.length ≤ 256 ^ desc.awB) :
    Meets allowed (writeBurst link desc s data startAddr sync)
      (Succeeds (Written link desc s data startAddr)) := by
  have hdw := hdesc.dwB_cases
  rw [writeBurst]
  refine Meets.assertThat hallowed (fun _ => ?_)
  refine Meets.assertThat hallowed (fun _ => ?_)
  obtain ⟨hcovers, hneeded⟩ := numTransfers_covers hdw hpos hlength
  rw [maxBulk_eq (by omega)]
  have hloop := writeBursts_meets hallowed hblocked link hdesc sync hlength
    hrange (intDivCeil data.length (255 * desc.dwB) % 2 ^ 32)
    (intDivCeil data.length (255 * desc.dwB) % 2 ^ 32) 0 s
    (by rwa [Nat.zero_add]) (fun _ => by rwa [Nat.zero_add])
  simpa only [Nat.zero_mul, List.drop_zero, Nat.add_zero] using hloop

omit hallowed hblocked hdesc in
theorem unlessEmpty_meets {s : Session δ} {data : List Byte}
    {startAddr offset size : Nat} {before : OsdResult × Session δ}
    {call : Session δ → List Byte → Outcome (OsdResult × Session δ)}
    (hinside : offset + size ≤ data.length)
    (hbefore : Succeeds (Written link desc s (data.take offset) startAddr)
      before)
    (hcall : ∀ s' part, part.length = size → size ≠ 0 →
      Meets allowed (call s' part)
        (Succeeds (Written link desc s' part (startAddr + offset)))) :
    Meets allowed
      (unlessEmpty size before fun s => do
        let part ← loadBytes data offset size
        call s part)
      (Succeeds
        (Written link desc s (data.take (offset + size)) startAddr)) := by
  rw [unlessEmpty]
  split
  · rename_i hskip
    intro hok
    obtain ⟨hrv, hfront⟩ := hbefore hok
    rcases hskip with hfailed | hzero
    · exact absurd hfailed (by simp [hok])
    · exact ⟨hrv, by rwa [hzero, Nat.add_zero]⟩
  · rename_i hnot
    obtain ⟨hok, hsize⟩ := not_or.mp hnot
    obtain ⟨-, hfront⟩ := hbefore (by simpa using hok)
    have hpart := length_part hinside
    rw [loadBytes_eq hinside, ok_bind]
    refine (hcall _ _ hpart hsize).weaken ?_
    intro result hresult hok'
    obtain ⟨hrv, hback⟩ := hresult hok'
    refine ⟨hrv, ?_⟩
    have hlen : (data.take offset).length = offset := by
      rw [List.length_take]
      omega
    rw [List.take_add]
    exact hfront.trans (by rwa [hlen])

theorem osdClMamWrite_meets (s : Session δ) {data : List Byte}
    {startAddr : Nat} (hpos : 0 < data.length)
    (hlength : data.length < 2 ^ 32)
    (hrange : startAddr + data.length ≤ 256 ^ desc.awB) :
    Meets allowed (osdClMamWrite link desc s data startAddr)
      (Succeeds (Written link desc s data startAddr)) := by
  have hdw := hdesc.dwB_cases
  have hpow := hdesc.addrs_le
  have hsum := calculateParts_sum startAddr data.length hdw (by omega)
    (by omega)
  rw [osdClMamWrite]
  refine Meets.assertThat hallowed (fun _ => ?_)
  generalize calculateParts startAddr data.length desc.dwB = parts at hsum
  obtain ⟨prolog, bulk, epilog⟩ := parts
  dsimp only at hsum ⊢
  have hstart : Succeeds (Written link desc s (data.take 0) startAddr)
      (osdOk, s) := fun _ => ⟨rfl, .nil⟩
  refine (unlessEmpty_meets link (by omega) hstart ?_).bind ?_
  · intro s' part hlen hsize
    rw [Nat.add_zero]
    exact writeSingle_meets hallowed hblocked link hdesc s' _ (by omega)
  intro afterProlog hprolog
  rw [Nat.zero_add] at hprolog
  refine (unlessEmpty_meets link (by omega) hprolog ?_).bind ?_
  · intro s' part hlen hsize
    rw [Nat.mod_eq_of_lt (by omega)]
    exact writeBurst_meets hallowed hblocked link hdesc s' _ (by omega)
      (by omega) (by omega)
  intro afterBulk hbulk
  refine (unlessEmpty_meets link (by omega) hbulk ?_).weaken ?_
  · intro s' part hlen hsize
    rw [Nat.mod_eq_of_lt (by omega), Nat.add_assoc]
    exact writeSingle_meets hallowed hblocked link hdesc s' _ (by omega)
  · intro result hresult
    rwa [hsum, List.take_length] at hresult

end Calls

/-! ## The byte stream -/

def Io.packet : Io → Option Packet
  | .sent packet _ => some packet
  | .received _ => none

/-- All packets that were sent so far, in order. -/
def sentPackets (s : Session δ) : List Packet := s.trace.filterMap Io.packet

theorem sentPackets_deliver (link : Link δ) (s : Session δ)
    (pkgs : List Packet) :
    sentPackets (pkgs.foldl (deliver link) s) = sentPackets s ++ pkgs := by
  induction pkgs generalizing s with
  | nil => simp
  | cons pkg pkgs ih =>
      have hone : sentPackets (deliver link s pkg) = sentPackets s ++ [pkg] := by
        simp [sentPackets, deliver, Io.packet]
      rw [List.foldl_cons, ih, hone, List.append_assoc]
      rfl

theorem sentPackets_receive {s s' : Session δ} {result : Received}
    (h : osdHostmodEventReceive s = .ok (result, s')) :
    sentPackets s' = sentPackets s := by
  rw [osdHostmodEventReceive] at h
  split at h
  · cases h
  · obtain ⟨-, rfl⟩ := Prod.mk.inj (Except.ok.inj h)
    simp [sentPackets, Io.packet]

theorem WriteIssued.stream {link : Link δ} {desc : MemDesc}
    {s s' : Session δ} {request : MamRequest}
    (h : WriteIssued link desc s request s') :
    ∃ pkgs, sentPackets s' = sentPackets s ++ pkgs ∧
      Drains (decodeRequest desc) (pkgs.flatMap payloadStream) [request] [] := by
  cases h with
  | posted pkgs hbytes _ hs' =>
      exact ⟨pkgs, by rw [hs', sentPackets_deliver], hbytes⟩
  | acknowledged pkgs hbytes _ packet hreceive =>
      refine ⟨pkgs, ?_, hbytes⟩
      rw [sentPackets_receive hreceive, sentPackets_deliver]

theorem stream_of_run {link : Link δ} {desc : MemDesc} {s s' : Session δ}
    {requests : List MamRequest}
    (run : Runs (WriteIssued link desc) s requests s') :
    ∃ pkgs, sentPackets s' = sentPackets s ++ pkgs ∧
      Drains (decodeRequest desc) (pkgs.flatMap payloadStream) requests [] := by
  induction run with
  | refl => exact ⟨[], by simp, .idle rfl⟩
  | snoc _ hissued ih =>
      obtain ⟨pkgs, hsent, hbytes⟩ := ih
      obtain ⟨more, hmore, hrequest⟩ := hissued.stream
      refine ⟨pkgs ++ more, by rw [hmore, hsent, List.append_assoc], ?_⟩
      rw [List.flatMap_append]
      exact hbytes.append (decodeRequest_stable desc) hrequest

/-- The packets of a write that returned OSD_OK are a sequence of complete
write requests, which replace the bytes of the range and no others. -/
theorem osdClMamWrite_writes {desc : MemDesc} (hdesc : desc.Supported)
    {data : List Byte} {startAddr : Nat} (hpos : 0 < data.length)
    (hlength : data.length < 2 ^ 32)
    (hrange : startAddr + data.length ≤ 2 ^ (8 * desc.awB)) (link : Link δ)
    {s s' : Session δ}
    (h : osdClMamWrite link desc s data startAddr = .ok (osdOk, s')) :
    ∃ pkgs requests, sentPackets s' = sentPackets s ++ pkgs ∧
      Drains (decodeRequest desc) (pkgs.flatMap payloadStream) requests [] ∧
      (∀ request ∈ requests, request.we = true) ∧
      ∀ mem, executeAll mem requests = Memory.write mem startAddr data := by
  rw [pow_mul] at hrange
  have hmeets : Meets (fun _ => True)
      (osdClMamWrite link desc s data startAddr) _ :=
    osdClMamWrite_meets trivial trivial link hdesc s hpos hlength hrange
  obtain ⟨-, requests, run, hwe, hmem⟩ := hmeets.of_eq_ok h rfl
  obtain ⟨pkgs, hsent, hbytes⟩ := stream_of_run run
  exact ⟨pkgs, requests, hsent, hbytes, hwe, hmem⟩

def quietLink : Link Unit := ⟨fun _ _ => (osdOk, [], ())⟩

def quietSession : Session Unit :=
  ⟨2, (), [.packet ⟨3, [2, 1, eventFlags]⟩], []⟩

/-- Three bytes of the word at 0x1224. -/
theorem osdClMamWrite_writes_single :
    ∃ s', osdClMamWrite quietLink ⟨1, 32, 32⟩ quietSession
        [0xde, 0xad, 0xbe] 0x1225 = .ok (osdOk, s') ∧
      ∃ pkgs requests, sentPackets s' = sentPackets quietSession ++ pkgs ∧
        Drains (decodeRequest ⟨1, 32, 32⟩) (pkgs.flatMap payloadStream)
          requests [] ∧
        (∀ request ∈ requests, request.we = true) ∧
        ∀ mem, executeAll mem requests =
          Memory.write mem 0x1225 [0xde, 0xad, 0xbe] := by
  refine ⟨_, rfl, ?_⟩
  exact osdClMamWrite_writes ⟨by decide, by decide⟩ (by decide) (by decide)
    (by decide) quietLink rfl

end Osd.Mam
