import Osd.Mam.Assertions

/-!
# Writes that complete

A memory access module acknowledges every write that asks for it.  A write to
it therefore does not wait for ever: it meets an assertion, or it is in the
memory when the call returns.
-/

namespace Osd.Mam

open Osd.Foundation

variable {δ : Type}

/-- The call returned without an error, and the memory has the data. -/
structure Stored (view : δ → MamState) (s : Session δ) (data : List Byte)
    (startAddr : Nat) (result : OsdResult × Session δ) : Prop where
  ok : result.1 = osdOk
  idle : Idle view result.2
  mem : (view result.2.dev).mem =
    Memory.write (view s.dev).mem startAddr data
  diaddr : result.2.diaddr = s.diaddr

section Stores

variable {desc : MemDesc} {link : Link δ} {view : δ → MamState}
  {s s' : Session δ} {data : List Byte} {startAddr : Nat}
  {result : OsdResult × Session δ}

theorem Stored.nil (hidle : Idle view s) :
    Stored view s [] startAddr (osdOk, s) :=
  ⟨rfl, hidle, (Memory.write_nil _ _).symm, rfl⟩

theorem Stored.moved {addr : Nat} (h : Stored view s data startAddr result)
    (haddr : data ≠ [] → addr = startAddr) :
    Stored view s data addr result := by
  cases data with
  | nil =>
      refine ⟨h.ok, h.idle, ?_, h.diaddr⟩
      rw [h.mem, Memory.write_nil, Memory.write_nil]
  | cons byte data =>
      rwa [haddr (List.cons_ne_nil byte data)]

theorem Stored.trans {data' : List Byte}
    (h : Stored view s data startAddr (osdOk, s'))
    (h' : Stored view s' data' (startAddr + data.length) result) :
    Stored view s (data ++ data') startAddr result := by
  refine ⟨h'.ok, h'.idle, ?_, h'.diaddr.trans h.diaddr⟩
  have hmem : (view s'.dev).mem =
      Memory.write (view s.dev).mem startAddr data := h.mem
  rw [h'.mem, hmem, Memory.write_append]

theorem foldl_deliver_diaddr (pkgs : List Packet) (s : Session δ) :
    (pkgs.foldl (deliver link) s).diaddr = s.diaddr := by
  induction pkgs generalizing s with
  | nil => rfl
  | cons pkg pkgs ih => exact ih (deliver link s pkg)

variable {allowed : Fault → Prop} (hallowed : allowed .assertion)
  (hdesc : desc.Supported) (hmam : IsMam desc link view)

include hallowed hdesc hmam

theorem mamWrite_executed (hidle : Idle view s) {burst sync : Bool}
    {selsize : Byte} (haddr : startAddr < 256 ^ desc.awB)
    (hsingle : burst = false → data.length = desc.dwB) :
    Meets allowed (mamWrite link desc s data startAddr burst sync selsize)
      (fun result => result.1 = osdOk ∧ Idle view result.2 ∧
        (view result.2.dev).mem = execute (view s.dev).mem
          ⟨true, burst, sync, selsize.toNat, startAddr, data⟩ ∧
        result.2.diaddr = s.diaddr) := by
  rw [mamWrite]
  refine (createMamTransfer_meets hallowed hdesc selsize.toNat_lt haddr
    (fun h => by cases h) (fun _ => hsingle)).bind ?_
  intro transfer htransfer
  refine (sendMamTransfer_meets link desc s (.inr hallowed) htransfer.even
    htransfer.pos htransfer.small).bind ?_
  rintro ⟨rv, sent⟩ hsent
  dsimp only
  cases hfailed : osdFailed rv with
  | true =>
      -- the module takes every packet
      obtain ⟨dev, packet, hrv⟩ := hsent.failed hfailed
      obtain ⟨_, _, _, hsend, -⟩ := hmam.onSend dev packet
      rw [hsend] at hrv
      dsimp only at hrv
      rw [← hrv] at hfailed
      cases hfailed
  | false =>
      obtain ⟨-, pkgs, hbytes, rfl⟩ := hsent.ok hfailed
      have hdecoded := htransfer.decoded
      rw [← hbytes] at hdecoded
      cases sync with
      | false =>
          obtain ⟨hidle', hmem⟩ :=
            WriteIssued.idle hmam (.posted pkgs hdecoded rfl rfl) rfl hidle
          exact ⟨rfl, hidle', hmem, foldl_deliver_diaddr pkgs s⟩
      | true =>
          simp only [Bool.false_eq_true, if_false, if_true]
          obtain ⟨rx, -, hanswer, -, hrx⟩ :=
            hmam.deliver_request hdecoded hidle.pending
          obtain ⟨ack, rfl⟩ : ∃ ack : DiPacket, rx = packets [ack] := by
            cases hanswer with
            | posted _ hposted => cases hposted
            | acknowledged _ _ ack => exact ⟨ack, rfl⟩
            | read hread => cases hread
          obtain ⟨before, hbefore, -⟩ := hidle.rx
          obtain ⟨packet, rest, hreceive⟩ : ∃ packet rest,
              osdHostmodEventReceive (pkgs.foldl (deliver link) s) =
                .ok (.packet packet, rest) ∧ rest.diaddr = s.diaddr := by
            rw [osdHostmodEventReceive, hrx, hbefore]
            cases before with
            | nil => exact ⟨_, _, rfl, foldl_deliver_diaddr pkgs s⟩
            | cons first more => exact ⟨_, _, rfl, foldl_deliver_diaddr pkgs s⟩
          rw [hreceive.1, ok_bind]
          obtain ⟨hidle', hmem⟩ := WriteIssued.idle hmam
            (.acknowledged pkgs hdecoded rfl packet hreceive.1) rfl hidle
          exact ⟨rfl, hidle', hmem, hreceive.2⟩

theorem writeSingle_stored (hidle : Idle view s) (sync : Bool)
    (haddr : startAddr < 256 ^ desc.awB) :
    Meets allowed (writeSingle link desc s data startAddr sync)
      (Stored view s data startAddr) := by
  have hdw := hdesc.dwB_cases
  have hword : startAddr - startAddr % desc.dwB + startAddr % desc.dwB =
      startAddr := Nat.sub_add_cancel (Nat.mod_le _ _)
  rw [writeSingle, hdesc.baddr_eq]
  refine (alignDataToWord_meets hallowed (by omega) _ data).bind ?_
  rintro ⟨word, bs⟩ haligned
  refine (mamWrite_executed hallowed hdesc hmam hidle (by omega)
    (fun _ => haligned.length)).weaken ?_
  rintro result ⟨hok, hidle', hmem, hdiaddr⟩
  refine ⟨hok, hidle', ?_, hdiaddr⟩
  have hexecute := haligned.execute_eq (view s.dev).mem
    (startAddr - startAddr % desc.dwB) sync
  rw [hword] at hexecute
  exact hmem.trans hexecute

/-- Transfer `t` starts with the rest of the data behind the first `t`
blocks. -/
theorem writeBursts_stored (sync : Bool) (hlength : data.length < 2 ^ 32)
    (hrange : startAddr + data.length ≤ 256 ^ desc.awB)
    (numTransfers count t : Nat) (hidle : Idle view s)
    (hcovers : data.length ≤ (t + count) * (255 * desc.dwB))
    (hneeded : count ≠ 0 →
      (t + count - 1) * (255 * desc.dwB) < data.length) :
    Meets allowed
      (writeBursts link desc data startAddr sync (255 * desc.dwB)
        numTransfers count t s)
      (Stored view s (data.drop (t * (255 * desc.dwB)))
        (startAddr + t * (255 * desc.dwB))) := by
  have hdw := hdesc.dwB_cases
  have hpow := hdesc.addrs_le
  induction count generalizing t s with
  | zero =>
      rw [Nat.add_zero] at hcovers
      rw [writeBursts, meets_ok, List.drop_eq_nil_of_le hcovers]
      exact .nil hidle
  | succ count ih =>
      obtain ⟨ht, hcovers', hneeded'⟩ := transfers_succ hcovers hneeded
      have hsucc : (t + 1) * (255 * desc.dwB) =
          t * (255 * desc.dwB) + 255 * desc.dwB := Nat.succ_mul _ _
      have ih := fun (s : Session δ) (hidle : Idle view s) =>
        ih (t + 1) hidle hcovers' hneeded'
      rw [hsucc] at ih
      rw [writeBursts, burstPart_eq (by omega) (by omega) ht]
      generalize t * (255 * desc.dwB) = pos at ht ih
      dsimp only
      have hpart : (data.drop pos).take
          (min (255 * desc.dwB) (data.length - pos)) =
          (data.drop pos).take (255 * desc.dwB) := by
        rw [List.take_eq_take_iff, List.length_drop]
        omega
      rw [loadBytes_eq (by omega), ok_bind, hpart,
        Nat.mod_eq_of_lt (by omega : startAddr + pos < 2 ^ 64)]
      refine (mamWrite_executed hallowed hdesc hmam hidle (by omega)
        (fun h => by cases h)).bind ?_
      rintro ⟨rv, s'⟩ ⟨hok, hidle', hmem, hdiaddr⟩
      dsimp only at hok hidle' hmem hdiaddr ⊢
      subst hok
      have hfirst : Stored view s ((data.drop pos).take (255 * desc.dwB))
          (startAddr + pos) (osdOk, s') := ⟨rfl, hidle', hmem, hdiaddr⟩
      refine (ih s' hidle').weaken ?_
      intro result hrest
      have hwhole : (data.drop pos).take (255 * desc.dwB) ++
          data.drop (pos + 255 * desc.dwB) = data.drop pos := by
        rw [← List.drop_drop]
        exact List.take_append_drop _ _
      rw [← hwhole]
      refine hfirst.trans (hrest.moved (fun hmore => ?_))
      have hlt : pos + 255 * desc.dwB < data.length := by
        by_contra hle
        exact hmore (List.drop_eq_nil_of_le (by omega))
      rw [List.length_take, List.length_drop,
        Nat.min_eq_left (by omega), Nat.add_assoc]

theorem writeBurst_stored (hidle : Idle view s) (sync : Bool)
    (hpos : 0 < data.length) (hlength : data.length < 2 ^ 32)
    (hrange : startAddr + data.length ≤ 256 ^ desc.awB) :
    Meets allowed (writeBurst link desc s data startAddr sync)
      (Stored view s data startAddr) := by
  have hdw := hdesc.dwB_cases
  rw [writeBurst]
  refine Meets.assertThat hallowed (fun _ => ?_)
  refine Meets.assertThat hallowed (fun _ => ?_)
  obtain ⟨hcovers, hneeded⟩ := numTransfers_covers hdw hpos hlength
  rw [maxBulk_eq (by omega)]
  have hloop := writeBursts_stored hallowed hdesc hmam sync hlength hrange
    (intDivCeil data.length (255 * desc.dwB) % 2 ^ 32)
    (intDivCeil data.length (255 * desc.dwB) % 2 ^ 32) 0 hidle
    (by rwa [Nat.zero_add]) (fun _ => by rwa [Nat.zero_add])
  simpa only [Nat.zero_mul, List.drop_zero, Nat.add_zero] using hloop

omit hallowed hdesc hmam in
theorem unlessEmpty_stored {offset size : Nat}
    {before : OsdResult × Session δ}
    {call : Session δ → List Byte → Outcome (OsdResult × Session δ)}
    (hinside : offset + size ≤ data.length)
    (hbefore : Stored view s (data.take offset) startAddr before)
    (hcall : ∀ s' part, Idle view s' → part.length = size → size ≠ 0 →
      Meets allowed (call s' part)
        (Stored view s' part (startAddr + offset))) :
    Meets allowed
      (unlessEmpty size before fun s => do
        let part ← loadBytes data offset size
        call s part)
      (Stored view s (data.take (offset + size)) startAddr) := by
  obtain ⟨rv, sent⟩ := before
  obtain rfl : rv = osdOk := hbefore.ok
  rw [unlessEmpty]
  split
  · rename_i hskip
    have hzero : size = 0 := hskip.resolve_left Bool.false_ne_true
    rwa [hzero, Nat.add_zero]
  · rename_i hnot
    obtain ⟨-, hsize⟩ := not_or.mp hnot
    have hpart := length_part hinside
    rw [loadBytes_eq hinside, ok_bind]
    refine (hcall _ _ hbefore.idle hpart hsize).weaken ?_
    intro result hback
    have hlen : (data.take offset).length = offset := by
      rw [List.length_take]
      omega
    rw [List.take_add]
    exact hbefore.trans (by rwa [hlen])

omit hallowed hmam in
/-- Nothing is sent for an empty range. -/
theorem osdClMamWrite_nil (s : Session δ) (startAddr : Nat) :
    osdClMamWrite link desc s [] startAddr = .ok (osdOk, s) := by
  have hdw := hdesc.dwB_cases
  have hpos : 0 < desc.dwB := by omega
  rw [osdClMamWrite, assertThat_bind (by omega), calculateParts,
    List.length_nil, if_pos hpos]
  rfl

theorem osdClMamWrite_stored (hidle : Idle view s)
    (hlength : data.length < 2 ^ 32)
    (hrange : startAddr + data.length ≤ 256 ^ desc.awB) :
    Meets allowed (osdClMamWrite link desc s data startAddr)
      (Stored view s data startAddr) := by
  have hdw := hdesc.dwB_cases
  have hpow := hdesc.addrs_le
  rcases Nat.eq_zero_or_pos data.length with hempty | hpos
  · obtain rfl : data = [] := List.length_eq_zero_iff.mp hempty
    rw [osdClMamWrite_nil hdesc, meets_ok]
    exact .nil hidle
  have hsum := calculateParts_sum startAddr data.length hdw (by omega)
    (by omega)
  rw [osdClMamWrite]
  refine Meets.assertThat hallowed (fun _ => ?_)
  generalize calculateParts startAddr data.length desc.dwB = parts at hsum
  obtain ⟨prolog, bulk, epilog⟩ := parts
  dsimp only at hsum ⊢
  have hstart : Stored view s (data.take 0) startAddr (osdOk, s) :=
    .nil hidle
  refine (unlessEmpty_stored (by omega) hstart ?_).bind ?_
  · intro s' part hidle' hlen hsize
    rw [Nat.add_zero]
    exact writeSingle_stored hallowed hdesc hmam hidle' _ (by omega)
  intro afterProlog hprolog
  rw [Nat.zero_add] at hprolog
  refine (unlessEmpty_stored (by omega) hprolog ?_).bind ?_
  · intro s' part hidle' hlen hsize
    rw [Nat.mod_eq_of_lt (by omega)]
    exact writeBurst_stored hallowed hdesc hmam hidle' _ (by omega)
      (by omega) (by omega)
  intro afterBulk hbulk
  refine (unlessEmpty_stored (by omega) hbulk ?_).weaken ?_
  · intro s' part hidle' hlen hsize
    rw [Nat.mod_eq_of_lt (by omega), Nat.add_assoc]
    exact writeSingle_stored hallowed hdesc hmam hidle' _ (by omega)
  · intro result hresult
    rwa [hsum, List.take_length] at hresult

end Stores

/-! ## Ranges that are accepted -/

section Accepted

variable {desc : MemDesc} {link : Link δ} {view : δ → MamState}

theorem Reacts.wellFormed {dwB : Nat} {mem mem' : Memory Byte}
    {requests : List MamRequest} {rx : List Received}
    (h : Reacts dwB mem requests rx mem') : ∀ result ∈ rx, WellFormed result := by
  induction h with
  | done => exact fun _ hmem => (List.not_mem_nil hmem).elim
  | next hanswer _ ih =>
      intro result hmem
      rcases List.mem_append.mp hmem with hfirst | hrest
      · cases hanswer with
        | posted => cases hfirst
        | acknowledged _ _ packet =>
            rw [packets, List.map_singleton, List.mem_singleton] at hfirst
            exact hfirst ▸ ⟨packet, rfl⟩
        | read _ list =>
            obtain ⟨packet, -, rfl⟩ := List.mem_map.mp hfirst
            exact ⟨packet, rfl⟩
      · exact ih result hrest

theorem IsMam.soundLink (hmam : IsMam desc link view) : SoundLink link := by
  intro dev packet
  obtain ⟨_, _, _, hsend, -, hreacts⟩ := hmam.onSend dev packet
  rw [hsend]
  exact hreacts.wellFormed

theorem Idle.soundSession {s : Session δ} (hidle : Idle view s)
    (hdiaddr : s.diaddr < 2 ^ 16) : SoundSession s := by
  obtain ⟨list, hrx, -⟩ := hidle.rx
  refine ⟨hdiaddr, fun result hmem => ?_⟩
  rw [hrx] at hmem
  obtain ⟨packet, -, rfl⟩ := List.mem_map.mp hmem
  exact ⟨packet, rfl⟩

/-- A write to a module comes to an end.  If its range is one that the
functions accept, it succeeds. -/
theorem osdClMamWrite_completes (hdesc : desc.Supported)
    (hmam : IsMam desc link view) {s : Session δ} (hidle : Idle view s)
    {data : List Byte} {startAddr : Nat} (hlength : data.length < 2 ^ 32)
    (hrange : startAddr + data.length ≤ 256 ^ desc.awB) :
    (osdClMamWrite link desc s data startAddr = .error .assertion ∨
      ∃ s', osdClMamWrite link desc s data startAddr = .ok (osdOk, s') ∧
        Stored view s data startAddr (osdOk, s')) ∧
      (desc.diAddr < 2 ^ 16 → s.diaddr < 2 ^ 16 → 0 < data.length →
        RangeAccepted desc data.length startAddr →
        osdClMamWrite link desc s data startAddr ≠ .error .assertion) := by
  constructor
  · have hmeets : Meets (Eq Fault.assertion)
        (osdClMamWrite link desc s data startAddr) _ :=
      osdClMamWrite_stored rfl hdesc hmam hidle hlength hrange
    refine hmeets.fault_or_ok.imp id ?_
    rintro ⟨⟨rv, s'⟩, hok, hstored⟩
    obtain rfl : rv = osdOk := hstored.ok
    exact ⟨s', hok, hstored⟩
  · intro haddr hdiaddr hpos haccepted
    have hpow := hdesc.addrs_le
    have hparts := partsAligned_of_accepted hdesc (by omega) hpos hlength
      haccepted
    apply not_assertion_of_meets
    exact osdClMamWrite_sound hmam.soundLink hdesc haddr hpos hlength
      (by omega) hparts (hidle.soundSession hdiaddr) (fun h => by cases h)

/-- The session waits for nothing, and it is sound unless an assertion may
fail. -/
structure Ready (allowed : Fault → Prop) (view : δ → MamState)
    (s : Session δ) : Prop where
  idle : Idle view s
  sound : allowed .assertion ∨ SoundSession s

/-- The range is empty or accepted, unless an assertion may fail. -/
def Permitted (allowed : Fault → Prop) (desc : MemDesc)
    (nbyte startAddr : Nat) : Prop :=
  allowed .assertion ∨ nbyte = 0 ∨ RangeAccepted desc nbyte startAddr

variable {allowed : Fault → Prop} {s : Session δ}

theorem osdClMamWrite_ready (hdesc : desc.Supported)
    (haddr : desc.diAddr < 2 ^ 16) (hmam : IsMam desc link view)
    (hready : Ready allowed view s) {data : List Byte} {startAddr : Nat}
    (hlength : data.length < 2 ^ 32)
    (hrange : startAddr + data.length ≤ 256 ^ desc.awB)
    (hpermitted : Permitted allowed desc data.length startAddr) :
    Meets allowed (osdClMamWrite link desc s data startAddr)
      (fun result => result.1 = osdOk ∧ Ready allowed view result.2 ∧
        (view result.2.dev).mem =
          Memory.write (view s.dev).mem startAddr data) := by
  rcases Nat.eq_zero_or_pos data.length with hempty | hpos
  · obtain rfl : data = [] := List.length_eq_zero_iff.mp hempty
    rw [osdClMamWrite_nil hdesc, meets_ok]
    exact ⟨rfl, hready, (Memory.write_nil _ _).symm⟩
  obtain ⟨hcall, hnot⟩ :=
    osdClMamWrite_completes hdesc hmam hready.idle hlength hrange
  rcases hcall with hfailed | ⟨s', hok, hstored⟩
  · rw [hfailed, meets_error]
    rcases hready.sound with hallowed | hsound
    · exact hallowed
    rcases hpermitted with hallowed | hempty | haccepted
    · exact hallowed
    · omega
    · exact absurd hfailed (hnot haddr hsound.diaddr hpos haccepted)
  · rw [hok, meets_ok]
    refine ⟨rfl, ⟨hstored.idle, ?_⟩, hstored.mem⟩
    refine hready.sound.imp id fun hsound => ?_
    have hsame : s'.diaddr = s.diaddr := hstored.diaddr
    exact hstored.idle.soundSession (by rw [hsame]; exact hsound.diaddr)

theorem osdClMamRead_nil (hdesc : desc.Supported) (s : Session δ)
    (startAddr : Nat) :
    osdClMamRead link desc s [] startAddr = .ok (osdOk, [], s) := by
  have hdw := hdesc.dwB_cases
  have hpos : 0 < desc.dwB := by omega
  rw [osdClMamRead, calculateParts, List.length_nil, if_pos hpos]
  rfl

theorem osdClMamRead_ready (hdesc : desc.Supported)
    (haddr : desc.diAddr < 2 ^ 16) (hmam : IsMam desc link view)
    (hready : Ready allowed view s) {buf : List Byte} {startAddr : Nat}
    (hlength : buf.length < 2 ^ 32)
    (hrange : startAddr + buf.length ≤ 256 ^ desc.awB)
    (hpermitted : Permitted allowed desc buf.length startAddr) :
    Meets allowed (osdClMamRead link desc s buf startAddr)
      (fun result => result.1 = osdOk ∧
        result.2.1 = Memory.read (view s.dev).mem startAddr buf.length ∧
        Ready allowed view result.2.2 ∧
        (view result.2.2.dev).mem = (view s.dev).mem) := by
  have hpow := hdesc.addrs_le
  rcases Nat.eq_zero_or_pos buf.length with hempty | hpos
  · obtain rfl : buf = [] := List.length_eq_zero_iff.mp hempty
    rw [osdClMamRead_nil hdesc, meets_ok]
    exact ⟨rfl, rfl, hready, rfl⟩
  have hreads := (osdClMamRead_reads hdesc hmam buf startAddr hpos hlength
    (by rwa [pow_mul])).1 s hready.idle
  -- where assertions may not fail, the range is accepted
  have hsound : allowed .assertion ∨ Meets NoAssertion
      (osdClMamRead link desc s buf startAddr)
      (fun result => SoundSession result.2.2) := by
    rcases hready.sound with hallowed | hsession
    · exact .inl hallowed
    rcases hpermitted with hallowed | hempty | haccepted
    · exact .inl hallowed
    · omega
    · right
      have hparts := partsAligned_of_accepted hdesc (by omega) hpos hlength
        haccepted
      exact osdClMamRead_sound hmam.soundLink hdesc haddr
        (fun h => by cases h) (fun h => by cases h) hlength (by omega) hparts
        hsession
  rcases hreads with hfailed | ⟨s', hok, hfetched⟩
  · rw [hfailed] at hsound ⊢
    exact hsound.resolve_right fun hmeets => hmeets rfl
  · rw [hok] at hsound ⊢
    exact ⟨rfl, rfl, ⟨hfetched.idle, hsound⟩, hfetched.mem⟩

end Accepted

end Osd.Mam
