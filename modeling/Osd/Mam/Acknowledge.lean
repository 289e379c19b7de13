import Osd.Mam.Assertions

/-!
# Acknowledgements of a write

Which requests of a write carry the SYNC bit, and when an acknowledgement is
received.  The statements are about calls that return.
-/

namespace Osd.Mam

open Osd.Foundation

variable {δ : Type}

/-! ## Traces -/

/-- The packets were sent, and no send failed. -/
inductive SendsOk : List Packet → List Io → Prop
  | nil : SendsOk [] []
  | cons {packet : Packet} {rv : OsdResult} {pkgs : List Packet}
      {ios : List Io} (hok : osdFailed rv = false) (h : SendsOk pkgs ios) :
      SendsOk (packet :: pkgs) (.sent packet rv :: ios)

structure TransferPkgs (desc : MemDesc) (diaddr : Nat) (transfer : List Byte)
    (pkgs : List Packet) : Prop where
  count : numPkgsForTransfer transfer.length = .ok pkgs.length
  packet : ∀ i (h : i < pkgs.length),
    pkgInTransfer desc diaddr transfer i = .ok pkgs[i]

/-- Requests whose packets were all sent, one request after the other. -/
inductive Requests (desc : MemDesc) (diaddr : Nat) :
    List (List Byte) → List Io → Prop
  | nil : Requests desc diaddr [] []
  | cons {transfer : List Byte} {transfers : List (List Byte)}
      {pkgs : List Packet} {ios later : List Io}
      (hpkgs : TransferPkgs desc diaddr transfer pkgs)
      (hsent : SendsOk pkgs ios) (h : Requests desc diaddr transfers later) :
      Requests desc diaddr (transfer :: transfers) (ios ++ later)

/-- The SYNC bit in the first byte of a request. -/
def syncBit (transfer : List Byte) : Bool :=
  transfer.head?.any fun hdr0 => hdr0.toNat.testBit 5

/-- What a call makes of the message that it waited for. -/
def resultOf : Received → OsdResult
  | .packet _ => osdOk
  | .failed rv _ => rv

/-- Requests without a SYNC bit were sent. -/
structure Posted (desc : MemDesc) (s s' : Session δ) : Prop where
  diaddr : s'.diaddr = s.diaddr
  exists_ios : ∃ transfers ios, s'.trace = s.trace ++ ios ∧
    Requests desc s.diaddr transfers ios ∧
    ∀ transfer ∈ transfers, syncBit transfer = false

/-- The SYNC bit is set in the last request alone, and one message was
received behind it. -/
structure AckedOnce (desc : MemDesc) (s : Session δ)
    (result : OsdResult × Session δ) : Prop where
  exists_ios : ∃ front last ios received,
    result.2.trace = s.trace ++ ios ++ [.received received] ∧
    Requests desc s.diaddr (front ++ [last]) ios ∧
    (∀ transfer ∈ front, syncBit transfer = false) ∧ syncBit last = true ∧
    result.1 = resultOf received

/-- The last packet that was sent has the error that is returned. -/
structure StoppedAtFailure (s : Session δ) (result : OsdResult × Session δ) :
    Prop where
  failed : osdFailed result.1 = true
  exists_ios : ∃ pkgs ios packet, SendsOk pkgs ios ∧
    result.2.trace = s.trace ++ ios ++ [.sent packet result.1]

/-- How a part of a write ends that waits for an acknowledgement or not. -/
def Ended (desc : MemDesc) (s : Session δ) (sync : Bool)
    (result : OsdResult × Session δ) : Prop :=
  StoppedAtFailure s result ∨
    if sync then AckedOnce desc s result
    else result.1 = osdOk ∧ Posted desc s result.2

section

variable {desc : MemDesc} {diaddr : Nat}

theorem SendsOk.append {first second : List Packet} {ios later : List Io}
    (h : SendsOk first ios) (h' : SendsOk second later) :
    SendsOk (first ++ second) (ios ++ later) := by
  induction h with
  | nil => exact h'
  | cons hok _ ih => exact .cons hok ih

theorem Requests.append {first second : List (List Byte)}
    {ios later : List Io} (h : Requests desc diaddr first ios)
    (h' : Requests desc diaddr second later) :
    Requests desc diaddr (first ++ second) (ios ++ later) := by
  induction h with
  | nil => exact h'
  | cons hpkgs hsent _ ih =>
      rw [List.append_assoc]
      exact .cons hpkgs hsent ih

theorem Requests.single {transfer : List Byte} {pkgs : List Packet}
    {ios : List Io} (hpkgs : TransferPkgs desc diaddr transfer pkgs)
    (hsent : SendsOk pkgs ios) : Requests desc diaddr [transfer] ios := by
  have hone := Requests.cons hpkgs hsent .nil
  rwa [List.append_nil] at hone

theorem Requests.sendsOk {transfers : List (List Byte)} {ios : List Io}
    (h : Requests desc diaddr transfers ios) : ∃ pkgs, SendsOk pkgs ios := by
  induction h with
  | nil => exact ⟨[], .nil⟩
  | cons _ hsent _ ih =>
      obtain ⟨pkgs, hlater⟩ := ih
      exact ⟨_, hsent.append hlater⟩

variable {s s' : Session δ} {sync : Bool} {result : OsdResult × Session δ}

theorem Posted.refl (s : Session δ) : Posted desc s s where
  diaddr := rfl
  exists_ios := ⟨[], [], (List.append_nil _).symm, .nil, by simp⟩

theorem Ended.osdOk (h : Ended desc s sync result)
    (hok : osdFailed result.1 = false) : result.1 = osdOk := by
  rcases h with hstopped | hend
  · exact absurd hstopped.failed (by simp [hok])
  · cases sync with
    | false => exact hend.1
    | true =>
        obtain ⟨_, _, _, received, _, _, _, _, hrv⟩ := hend.exists_ios
        cases received with
        | packet packet => exact hrv
        | failed rv hfailed =>
            rw [hrv] at hok
            exact absurd hfailed (by simpa [resultOf] using hok)

theorem Ended.posted (h : Ended desc s false result)
    (hok : osdFailed result.1 = false) : Posted desc s result.2 := by
  rcases h with hstopped | hend
  · exact absurd hstopped.failed (by simp [hok])
  · exact hend.2

theorem Ended.stopped (h : Ended desc s false result)
    (hfailed : osdFailed result.1 = true) : StoppedAtFailure s result := by
  rcases h with hstopped | hend
  · exact hstopped
  · rw [hend.1] at hfailed
    exact absurd hfailed (by decide)

/-- A part behind requests that were posted. -/
theorem Posted.ended (h : Posted desc s s')
    (h' : Ended desc s' sync result) : Ended desc s sync result := by
  obtain ⟨transfers, ios, htrace, hrequests, hnone⟩ := h.exists_ios
  rcases h' with hstopped | hend
  · obtain ⟨pkgs, later, packet, hsent, hlast⟩ := hstopped.exists_ios
    obtain ⟨before, hbefore⟩ := hrequests.sendsOk
    refine .inl ⟨hstopped.failed, before ++ pkgs, ios ++ later, packet,
      hbefore.append hsent, ?_⟩
    rw [hlast, htrace]
    simp only [List.append_assoc]
  · right
    cases sync with
    | false =>
        obtain ⟨hrv, hposted⟩ := hend
        obtain ⟨transfers', later, hlater, hmore, hnone'⟩ :=
          hposted.exists_ios
        rw [h.diaddr] at hmore
        refine ⟨hrv, hposted.diaddr.trans h.diaddr, transfers ++ transfers',
          ios ++ later, ?_, hrequests.append hmore, ?_⟩
        · rw [hlater, htrace, List.append_assoc]
        · intro transfer hmem
          rcases List.mem_append.mp hmem with hmem | hmem
          · exact hnone transfer hmem
          · exact hnone' transfer hmem
    | true =>
        obtain ⟨front, last, later, received, hlater, hmore, hnone', hlast,
          hrv⟩ := hend.exists_ios
        rw [h.diaddr] at hmore
        refine ⟨transfers ++ front, last, ios ++ later, received, ?_, ?_, ?_,
          hlast, hrv⟩
        · rw [hlater, htrace]
          simp only [List.append_assoc]
        · rw [List.append_assoc]
          exact hrequests.append hmore
        · intro transfer hmem
          rcases List.mem_append.mp hmem with hmem | hmem
          · exact hnone transfer hmem
          · exact hnone' transfer hmem

end

/-! ## Requests -/

theorem eventSend_ok {link : Link δ} {s s' : Session δ} {packet : Packet}
    {rv : OsdResult}
    (h : osdHostmodEventSend link s packet = .ok (rv, s')) :
    s'.trace = s.trace ++ [.sent packet rv] ∧ s'.diaddr = s.diaddr := by
  unfold osdHostmodEventSend at h
  obtain ⟨type, -, h⟩ := bind_eq_ok.mp h
  obtain ⟨-, h⟩ := assertThat_bind_eq_ok.mp h
  cases h
  exact ⟨rfl, rfl⟩

theorem eventReceive_ok {s s' : Session δ} {result : Received}
    (h : osdHostmodEventReceive s = .ok (result, s')) :
    s'.trace = s.trace ++ [.received result] := by
  unfold osdHostmodEventReceive at h
  split at h
  · cases h
  · cases h
    rfl

/-- The packets from packet `i` on were sent. -/
structure PkgsSent (desc : MemDesc) (s s' : Session δ)
    (transfer : List Byte) (i count : Nat) : Prop where
  diaddr : s'.diaddr = s.diaddr
  exists_pkgs : ∃ pkgs ios, s'.trace = s.trace ++ ios ∧ SendsOk pkgs ios ∧
    pkgs.length = count ∧ ∀ k (h : k < pkgs.length),
      pkgInTransfer desc s.diaddr transfer (i + k) = .ok pkgs[k]

theorem sendPkgs_ended {link : Link δ} {desc : MemDesc} {s s' : Session δ}
    {transfer : List Byte} {count i : Nat} {rv : OsdResult}
    (h : sendPkgs link desc transfer count i s = .ok (rv, s')) :
    StoppedAtFailure s (rv, s') ∨
      rv = osdOk ∧ PkgsSent desc s s' transfer i count := by
  induction count generalizing i s with
  | zero =>
      cases h
      exact .inr ⟨rfl, rfl, [], [], (List.append_nil _).symm, .nil, rfl,
        fun k hk => absurd hk (Nat.not_lt_zero k)⟩
  | succ count ih =>
      unfold sendPkgs at h
      obtain ⟨packet, hpacket, h⟩ := bind_eq_ok.mp h
      obtain ⟨⟨sent, next⟩, hsend, h⟩ := bind_eq_ok.mp h
      obtain ⟨htrace, hdiaddr⟩ := eventSend_ok hsend
      dsimp only at h
      cases hfailed : osdFailed sent with
      | true =>
          rw [hfailed, if_pos rfl] at h
          cases h
          exact .inl ⟨hfailed, [], [], packet, .nil, by
            rw [List.append_nil]
            exact htrace⟩
      | false =>
          rw [hfailed, if_neg (by simp)] at h
          rcases ih h with hstopped | ⟨hrv, hrest⟩
          · obtain ⟨pkgs, ios, last, hsent, hlast⟩ := hstopped.exists_ios
            refine .inl ⟨hstopped.failed, packet :: pkgs,
              .sent packet sent :: ios, last, .cons hfailed hsent, ?_⟩
            rw [hlast, htrace]
            simp only [List.append_assoc, List.cons_append, List.nil_append]
          · obtain ⟨pkgs, ios, hmore, hsent, hcount, hpkgs⟩ :=
              hrest.exists_pkgs
            refine .inr ⟨hrv, hrest.diaddr.trans hdiaddr, packet :: pkgs,
              .sent packet sent :: ios, ?_, .cons hfailed hsent, ?_, ?_⟩
            · rw [hmore, htrace]
              simp only [List.append_assoc, List.cons_append, List.nil_append]
            · rw [List.length_cons, hcount]
            · intro k hk
              cases k with
              | zero => exact hpacket
              | succ k =>
                  have hnext := hpkgs k (by simpa using hk)
                  rw [hdiaddr, show i + 1 + k = i + (k + 1) by omega] at hnext
                  exact hnext

theorem sendMamTransfer_ended {link : Link δ} {desc : MemDesc}
    {s s' : Session δ} {transfer : List Byte} {rv : OsdResult}
    (h : sendMamTransfer link desc s transfer = .ok (rv, s')) :
    StoppedAtFailure s (rv, s') ∨ rv = osdOk ∧ s'.diaddr = s.diaddr ∧
      ∃ ios, s'.trace = s.trace ++ ios ∧
        Requests desc s.diaddr [transfer] ios := by
  unfold sendMamTransfer at h
  obtain ⟨count, hcount, h⟩ := bind_eq_ok.mp h
  rcases sendPkgs_ended h with hstopped | ⟨hrv, hsent⟩
  · exact .inl hstopped
  · obtain ⟨pkgs, ios, htrace, hsends, hlength, hpkgs⟩ := hsent.exists_pkgs
    refine .inr ⟨hrv, hsent.diaddr, ios, htrace, .single ⟨?_, ?_⟩ hsends⟩
    · rw [hcount, hlength]
    · intro i hi
      have hpacket := hpkgs i hi
      rwa [Nat.zero_add] at hpacket

theorem syncBit_create {desc : MemDesc} {data transfer : List Byte}
    {startAddr selsize : Nat} {we burst sync : Bool}
    (h : createMamTransfer desc data startAddr we burst sync selsize =
      .ok transfer) : syncBit transfer = sync := by
  unfold createMamTransfer at h
  obtain ⟨-, h⟩ := assertThat_bind_eq_ok.mp h
  obtain ⟨-, h⟩ := assertThat_bind_eq_ok.mp h
  obtain ⟨-, h⟩ := assertThat_bind_eq_ok.mp h
  obtain ⟨-, h⟩ := assertThat_bind_eq_ok.mp h
  obtain ⟨-, h⟩ := assertThat_bind_eq_ok.mp h
  cases h
  exact (headerBits we burst sync).2.2

section Calls

variable {link : Link δ} {desc : MemDesc} {s s' : Session δ}

theorem mamWrite_ended {data : List Byte} {startAddr : Nat}
    {burst sync : Bool} {selsize : Byte} {rv : OsdResult}
    (h : mamWrite link desc s data startAddr burst sync selsize =
      .ok (rv, s')) : Ended desc s sync (rv, s') := by
  unfold mamWrite at h
  obtain ⟨transfer, htransfer, h⟩ := bind_eq_ok.mp h
  have hsync := syncBit_create htransfer
  obtain ⟨⟨sent, next⟩, hsend, h⟩ := bind_eq_ok.mp h
  dsimp only at h
  rcases sendMamTransfer_ended hsend with hstopped | ⟨rfl, hdiaddr, ios,
    htrace, hrequests⟩
  · rw [if_pos hstopped.failed] at h
    cases h
    exact .inl hstopped
  · rw [if_neg (by decide)] at h
    right
    cases sync with
    | false =>
        cases h
        refine ⟨rfl, hdiaddr, [transfer], ios, htrace, hrequests, ?_⟩
        intro other hother
        rwa [List.mem_singleton.mp hother]
    | true =>
        rw [if_pos rfl] at h
        obtain ⟨⟨received, after⟩, hreceive, h⟩ := bind_eq_ok.mp h
        have hlast := eventReceive_ok hreceive
        have hresult : rv = resultOf received ∧ s' = after := by
          cases received with
          | packet packet =>
              cases h
              exact ⟨rfl, rfl⟩
          | failed rv' hrv' =>
              cases h
              exact ⟨rfl, rfl⟩
        obtain ⟨hrv, rfl⟩ := hresult
        refine ⟨[], transfer, ios, received, ?_, hrequests, by simp, hsync,
          hrv⟩
        rw [hlast, htrace]

theorem writeSingle_ended {data : List Byte} {startAddr : Nat} {sync : Bool}
    {rv : OsdResult}
    (h : writeSingle link desc s data startAddr sync = .ok (rv, s')) :
    Ended desc s sync (rv, s') := by
  unfold writeSingle at h
  obtain ⟨⟨word, bs⟩, -, h⟩ := bind_eq_ok.mp h
  exact mamWrite_ended h

theorem writeCall_ended {data : List Byte} {sync last : Bool} {c : BurstCall}
    {rv : OsdResult}
    (h : writeCall link desc data sync c last s = .ok (rv, s')) :
    Ended desc s (sync && last) (rv, s') := by
  unfold writeCall at h
  obtain ⟨part, -, h⟩ := bind_eq_ok.mp h
  exact mamWrite_ended h

theorem runCalls_ended {data : List Byte} {sync : Bool}
    {calls : List BurstCall} {rv : OsdResult}
    (h : runCalls (writeCall link desc data sync) calls s = .ok (rv, s')) :
    Ended desc s (sync && !calls.isEmpty) (rv, s') := by
  induction calls generalizing s with
  | nil =>
      cases h
      rw [List.isEmpty_nil, Bool.not_true, Bool.and_false]
      exact .inr ⟨rfl, .refl _⟩
  | cons c calls ih =>
      unfold runCalls at h
      obtain ⟨⟨first, next⟩, hcall, h⟩ := bind_eq_ok.mp h
      have hfirst := writeCall_ended hcall
      rw [List.isEmpty_cons, Bool.not_false, Bool.and_true]
      dsimp only at h
      cases calls with
      | nil =>
          rw [List.isEmpty_nil, Bool.and_true] at hfirst
          split at h
          · cases h
            exact hfirst
          · rename_i hfailed
            cases h
            have hrv : first = osdOk :=
              hfirst.osdOk (by simpa using hfailed)
            rwa [hrv] at hfirst
      | cons c' calls =>
          rw [List.isEmpty_cons, Bool.and_false] at hfirst
          split at h
          · rename_i hfailed
            cases h
            exact .inl (hfirst.stopped hfailed)
          · rename_i hfailed
            have hrest := ih h
            rw [List.isEmpty_cons, Bool.not_false, Bool.and_true] at hrest
            exact (hfirst.posted (by simpa using hfailed)).ended hrest

def burstTransfers (desc : MemDesc) (nbyte : Nat) : Nat :=
  intDivCeil nbyte (mamMaxBurstWords * desc.dwB % 2 ^ 32) % 2 ^ 32

theorem isEmpty_burstCalls {nbyte startAddr : Nat} :
    (burstCalls desc nbyte startAddr).isEmpty =
      decide (burstTransfers desc nbyte = 0) := by
  unfold burstCalls
  exact isEmpty_burstCallsFrom _ _

theorem writeBurst_ended {data : List Byte} {startAddr nbyte : Nat}
    {sync : Bool} {rv : OsdResult} (hlength : data.length = nbyte)
    (h : writeBurst link desc s data startAddr sync = .ok (rv, s')) :
    Ended desc s (sync && !decide (burstTransfers desc nbyte = 0))
      (rv, s') := by
  rw [writeBurst_calls] at h
  obtain ⟨-, h⟩ := assertThat_bind_eq_ok.mp h
  obtain ⟨-, h⟩ := assertThat_bind_eq_ok.mp h
  have hended := runCalls_ended h
  rwa [isEmpty_burstCalls, hlength] at hended

/-- A part that is present decides how the write ends, as long as no part
before it was acknowledged. -/
theorem unlessEmpty_ended {size : Nat} {before result : OsdResult × Session δ}
    {call : Session δ → Outcome (OsdResult × Session δ)} {sync sync' : Bool}
    (hbefore : Ended desc s sync before) (hlast : sync = true → size = 0)
    (hcall : size ≠ 0 → ∀ s', call s' = .ok result →
      Ended desc s' sync' result)
    (h : unlessEmpty size before call = .ok result) :
    Ended desc s (if size = 0 then sync else sync') result := by
  unfold unlessEmpty at h
  by_cases hsize : size = 0
  · rw [if_pos (.inr hsize)] at h
    cases h
    rwa [if_pos hsize]
  · have hnone : sync = false := by
      cases sync with
      | false => rfl
      | true => exact absurd (hlast rfl) hsize
    rw [hnone] at hbefore
    rw [if_neg hsize]
    split at h
    · rename_i hskipped
      cases h
      exact .inl (hbefore.stopped (hskipped.resolve_right hsize))
    · rename_i hpresent
      have hok : osdFailed before.1 = false := by
        rw [not_or] at hpresent
        simpa using hpresent.1
      exact (hbefore.posted hok).ended (hcall hsize before.2 h)

end Calls

/-! ## Writes -/

/-- The number of transfers of the bulk part is zero in 32 bit, and no epilog
follows. -/
def SkipsBulk (desc : MemDesc) (nbyte startAddr : Nat) : Prop :=
  let (_, bulk, epilog) := calculateParts startAddr nbyte desc.dwB
  bulk ≠ 0 ∧ epilog = 0 ∧ burstTransfers desc bulk = 0

theorem calculateParts_present (startAddr dwB : Nat) {nbyte : Nat}
    (hpos : 0 < nbyte) (hlt : nbyte < 2 ^ 64) :
    (calculateParts startAddr nbyte dwB).2.1 = 0 →
      (calculateParts startAddr nbyte dwB).2.2 = 0 →
        (calculateParts startAddr nbyte dwB).1 ≠ 0 := by
  unfold calculateParts
  split
  · intro _ _
    exact Nat.ne_of_gt hpos
  · dsimp only
    intro hbulk hepilog hprolog
    rw [hprolog, hepilog] at hbulk
    omega

theorem osdClMamWrite_ended {link : Link δ} {desc : MemDesc}
    {s s' : Session δ} {data : List Byte} {startAddr : Nat} {rv : OsdResult}
    (hpos : 0 < data.length) (hlt : data.length < 2 ^ 64)
    (h : osdClMamWrite link desc s data startAddr = .ok (rv, s')) :
    ∃ sync, Ended desc s sync (rv, s') ∧
      (sync = false ↔ SkipsBulk desc data.length startAddr) := by
  have hpresent := calculateParts_present startAddr desc.dwB hpos hlt
  unfold osdClMamWrite at h
  unfold SkipsBulk
  obtain ⟨-, h⟩ := assertThat_bind_eq_ok.mp h
  generalize calculateParts startAddr data.length desc.dwB = parts at *
  obtain ⟨prolog, bulk, epilog⟩ := parts
  dsimp only at h hpresent ⊢
  obtain ⟨afterProlog, hprolog, h⟩ := bind_eq_ok.mp h
  obtain ⟨afterBulk, hbulk, hepilog⟩ := bind_eq_ok.mp h
  have hstart : Ended desc s false (osdOk, s) := .inr ⟨rfl, .refl s⟩
  have hfirst := unlessEmpty_ended hstart (by simp)
    (fun _ s' hcall => by
      obtain ⟨part, -, hcall⟩ := bind_eq_ok.mp hcall
      exact writeSingle_ended hcall) hprolog
  have hsecond := unlessEmpty_ended hfirst
    (by
      split
      · simp
      · simp only [decide_eq_true_eq]
        exact And.left)
    (fun _ s' hcall => by
      obtain ⟨part, hpart, hcall⟩ := bind_eq_ok.mp hcall
      exact writeBurst_ended (length_of_loadBytes hpart) hcall) hbulk
  have hthird := unlessEmpty_ended hsecond
    (by
      intro hacked
      split at hacked
      · split at hacked
        · cases hacked
        · exact (of_decide_eq_true hacked).2
      · simp only [Bool.and_eq_true, decide_eq_true_eq] at hacked
        exact hacked.1)
    (fun _ s' hcall => by
      obtain ⟨part, -, hcall⟩ := bind_eq_ok.mp hcall
      exact writeSingle_ended hcall) hepilog
  refine ⟨_, hthird, ?_⟩
  by_cases hepilog : epilog = 0 <;> by_cases hbulk : bulk = 0
  · simp [hepilog, hbulk, hpresent hbulk hepilog]
  · simp [hepilog, hbulk]
  · simp [hepilog]
  · simp [hepilog]

/-! ## Acknowledgements -/

/-- No send between the two sessions failed. -/
def AllSent (s s' : Session δ) : Prop :=
  ∀ packet rv, .sent packet rv ∈ s'.trace.drop s.trace.length →
    osdFailed rv = false

/-- One acknowledgement, for the last request, or none behind the packet that
could not be sent. -/
structure Acknowledged (desc : MemDesc) (s : Session δ)
    (result : OsdResult × Session δ) : Prop where
  acked : AllSent s result.2 → AckedOnce desc s result
  stopped : ¬AllSent s result.2 → StoppedAtFailure s result

section

variable {desc : MemDesc} {s s' : Session δ} {result : OsdResult × Session δ}

theorem SendsOk.mem {pkgs : List Packet} {ios : List Io}
    (h : SendsOk pkgs ios) {io : Io} (hio : io ∈ ios) :
    ∃ packet rv, io = .sent packet rv ∧ osdFailed rv = false := by
  induction h with
  | nil => cases hio
  | cons hok _ ih =>
      rcases List.mem_cons.mp hio with rfl | hlater
      · exact ⟨_, _, rfl, hok⟩
      · exact ih hlater

theorem StoppedAtFailure.not_allSent (h : StoppedAtFailure s result) :
    ¬AllSent s result.2 := by
  intro hall
  obtain ⟨pkgs, ios, packet, -, htrace⟩ := h.exists_ios
  have hok := hall packet result.1 (by
    rw [htrace, List.append_assoc, List.drop_left]
    simp)
  exact absurd h.failed (by simp [hok])

theorem AckedOnce.allSent (h : AckedOnce desc s result) :
    AllSent s result.2 := by
  intro packet rv hmem
  obtain ⟨front, last, ios, received, htrace, hrequests, -⟩ := h.exists_ios
  obtain ⟨pkgs, hsent⟩ := hrequests.sendsOk
  rw [htrace, List.append_assoc, List.drop_left] at hmem
  rcases List.mem_append.mp hmem with hios | hreceived
  · obtain ⟨packet', rv', heq, hok⟩ := hsent.mem hios
    cases heq
    exact hok
  · simp at hreceived

theorem Posted.mem (h : Posted desc s s') {io : Io}
    (hio : io ∈ s'.trace.drop s.trace.length) :
    ∃ packet rv, io = .sent packet rv ∧ osdFailed rv = false := by
  obtain ⟨transfers, ios, htrace, hrequests, -⟩ := h.exists_ios
  obtain ⟨pkgs, hsent⟩ := hrequests.sendsOk
  rw [htrace, List.drop_left] at hio
  exact hsent.mem hio

theorem Posted.allSent (h : Posted desc s s') : AllSent s s' := by
  intro packet rv hmem
  obtain ⟨packet', rv', heq, hok⟩ := h.mem hmem
  cases heq
  exact hok

theorem Posted.not_ackedOnce {rv : OsdResult} (h : Posted desc s s') :
    ¬AckedOnce desc s (rv, s') := by
  intro hacked
  obtain ⟨front, last, ios, received, htrace, -⟩ := hacked.exists_ios
  have hmem : .received received ∈ s'.trace.drop s.trace.length := by
    rw [htrace, List.append_assoc, List.drop_left]
    simp
  obtain ⟨packet, rv', heq, -⟩ := h.mem hmem
  cases heq

end

/-- A write that returns is acknowledged as it should be if and only if a send
failed or the burst of the bulk part is not skipped. -/
theorem osdClMamWrite_acknowledged_iff {link : Link δ} {desc : MemDesc}
    {s s' : Session δ} {data : List Byte} {startAddr : Nat} {rv : OsdResult}
    (hdata : data ≠ []) (hlt : data.length < 2 ^ 64)
    (hrun : osdClMamWrite link desc s data startAddr = .ok (rv, s')) :
    Acknowledged desc s (rv, s') ↔
      (AllSent s s' → ¬SkipsBulk desc data.length startAddr) := by
  obtain ⟨sync, hended, hsync⟩ :=
    osdClMamWrite_ended (List.length_pos_iff.mpr hdata) hlt hrun
  constructor
  · intro h hall hskips
    have hacked := h.acked hall
    rw [hsync.mpr hskips] at hended
    rcases hended with hstopped | hposted
    · exact hstopped.not_allSent hall
    · exact hposted.2.not_ackedOnce hacked
  · intro hskips
    rcases hended with hstopped | hend
    · exact ⟨fun hall => absurd hall hstopped.not_allSent, fun _ => hstopped⟩
    · cases sync with
      | false =>
          have hall : AllSent s s' := hend.2.allSent
          exact absurd (hsync.mp rfl) (hskips hall)
      | true =>
          have hacked : AckedOnce desc s (rv, s') := hend
          exact ⟨fun _ => hacked, fun hnot => absurd hacked.allSent hnot⟩

/-- Three bytes inside of one word. -/
theorem osdClMamWrite_acknowledged_short :
    ∃ s', osdClMamWrite quietLink ⟨1, 32, 32⟩ quietSession
        [0xde, 0xad, 0xbe] 0x1225 = .ok (osdOk, s') ∧
      Acknowledged ⟨1, 32, 32⟩ quietSession (osdOk, s') := by
  have hacked (s' : Session Unit)
      (hrun : osdClMamWrite quietLink ⟨1, 32, 32⟩ quietSession
        [0xde, 0xad, 0xbe] 0x1225 = .ok (osdOk, s')) :
      Acknowledged ⟨1, 32, 32⟩ quietSession (osdOk, s') :=
    (osdClMamWrite_acknowledged_iff (by decide) (by decide) hrun).mpr
      (fun _ hskips => absurd hskips.1 (by decide))
  exact ⟨_, rfl, hacked _ rfl⟩

theorem unlessEmpty_zero {before : OsdResult × Session δ}
    {call : Session δ → Outcome (OsdResult × Session δ)} :
    unlessEmpty 0 before call = .ok before := by
  unfold unlessEmpty
  rw [if_pos (.inr rfl)]

/-- A bulk part whose number of transfers is zero in 32 bit. -/
theorem osdClMamWrite_skipped {link : Link δ} {desc : MemDesc} {s : Session δ}
    {data : List Byte} (hdw : desc.dwB ≠ 0)
    (hparts : calculateParts 0 data.length desc.dwB = (0, data.length, 0))
    (hpos : data.length ≠ 0) (hwords : data.length % desc.dwB = 0)
    (hnone : burstTransfers desc data.length = 0) :
    osdClMamWrite link desc s data 0 = .ok (osdOk, s) := by
  have hcalls : burstCalls desc data.length 0 = [] := by
    rw [← List.isEmpty_iff, isEmpty_burstCalls, hnone]
    rfl
  have hburst (sync : Bool) :
      writeBurst link desc s data 0 sync = .ok (osdOk, s) := by
    rw [writeBurst_calls, assertThat_bind hwords,
      assertThat_bind (Nat.zero_mod _), hcalls]
    rfl
  have hbulk : unlessEmpty data.length (osdOk, s) (fun s => do
      let part ← loadBytes data 0 data.length
      writeBurst link desc s part ((0 + 0) % 2 ^ 64) (decide (0 = 0))) =
        .ok (osdOk, s) := by
    unfold unlessEmpty
    rw [if_neg (by simpa using hpos), loadBytes_eq (Nat.zero_add _).le]
    dsimp only
    rw [ok_bind, List.drop_zero, List.take_length]
    exact hburst _
  unfold osdClMamWrite
  rw [assertThat_bind hdw, hparts]
  dsimp only
  rw [unlessEmpty_zero, ok_bind, hbulk, ok_bind, unlessEmpty_zero]

/-- Exactly `2 ^ 32` transfers of 255 words: the write returns without having
sent anything. -/
theorem osdClMamWrite_not_acknowledged :
    osdClMamWrite quietLink ⟨1, 16, 16⟩ quietSession
        (List.replicate 2190433320960 0) 0 = .ok (osdOk, quietSession) ∧
      ¬Acknowledged ⟨1, 16, 16⟩ quietSession (osdOk, quietSession) := by
  constructor
  · have hdw : (MemDesc.mk 1 16 16).dwB = 2 := rfl
    have hlength : (List.replicate 2190433320960 (0 : Byte)).length =
        2190433320960 := List.length_replicate
    have hnone : burstTransfers ⟨1, 16, 16⟩ 2190433320960 = 0 := by
      unfold burstTransfers intDivCeil mamMaxBurstWords
      rw [hdw]
      norm_num
    apply osdClMamWrite_skipped
    · rw [hdw]
      decide
    · rw [hlength, hdw]
      norm_num [calculateParts]
    · rw [hlength]
      decide
    · rw [hlength, hdw]
    · rw [hlength]
      exact hnone
  · intro h
    have hall : AllSent quietSession quietSession := by
      intro packet rv hmem
      cases hmem
    exact (Posted.refl quietSession).not_ackedOnce (h.acked hall)

end Osd.Mam
