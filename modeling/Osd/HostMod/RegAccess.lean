import Osd.Foundation.Buffer
import Osd.Foundation.Runs
import Osd.Packet

/-!
# Register accesses

`osd_hostmod_reg_read` and `osd_hostmod_reg_write`.  Both send a request with
`osd_hostmod_regaccess` and take the next packet from the I/O thread for the
response to it.
-/

namespace Osd.HostMod

open Osd.Foundation

def respReadRegError : Nat := 0b1100
def respWriteRegSuccess : Nat := 0b1110
def respWriteRegError : Nat := 0b1111

def getSubtypeRegReadReq (regSizeBit : Nat) : Nat :=
  (regSizeBit / 16 + 2 ^ 32 - 1) % 2 ^ 32

def getSubtypeRegReadSuccessResp (regSizeBit : Nat) : Nat :=
  getSubtypeRegReadReq regSizeBit ||| 0b1000

def getSubtypeRegWriteReq (regSizeBit : Nat) : Nat :=
  (regSizeBit / 16 + 2 ^ 32 - 1) % 2 ^ 32 ||| 0b0100

/-- `osd_hostmod_regaccess` up to the request that it sends. -/
def regaccessRequest (diaddr moduleAddr regAddr : Word) (subtypeReq : Nat)
    (wrData : List Word) : Outcome Packet := do
  let pkgSizeWords ← osdPacketSizeconvPayload2data (1 + wrData.length)
  let pkgReq ← osdPacketSetHeader (osdPacketNew pkgSizeWords)
    moduleAddr.toNat diaddr.toNat osdPacketTypeReg subtypeReq
  let dataRaw ← storeWords pkgReq.dataRaw packetHeaderWordCnt
    (regAddr :: wrData)
  .ok { pkgReq with dataRaw }

/-- `osd_hostmod_regaccess` from the response on. -/
def regaccessResponse (subtypeResp : Nat) (pkgResp : Packet) :
    Outcome (OsdResult × Option Packet) := do
  let type ← osdPacketGetType pkgResp
  assertThat (type = osdPacketTypeReg)
  let typeSub ← osdPacketGetTypeSub pkgResp
  if typeSub = respReadRegError ∨ typeSub = respWriteRegError then
    .ok (osdErrorDeviceError, none)
  else if typeSub ≠ subtypeResp then .ok (osdErrorDeviceInvalidData, none)
  else .ok (osdOk, some pkgResp)

/-- The response is accepted if it has the expected size. -/
def checkSize (expDataSizeWords : Nat) (result : OsdResult × Option Packet)
    (value : Packet → Outcome (List Word)) :
    Outcome (OsdResult × List Word) :=
  match result with
  | (rv, none) => .ok (rv, [])
  | (_, some responsePkg) =>
      if responsePkg.dataSizeWords.toNat ≠ expDataSizeWords then
        .ok (osdErrorDeviceInvalidData, [])
      else do
        let regVal ← value responsePkg
        .ok (osdOk, regVal)

/-- The caller of a read or a write; a read has no data. -/
structure Access where
  diaddr : Word
  regAddr : Word
  regSizeBit : Nat
  wrData : Option (List Word)
  blocking : Bool

namespace Access

def subtypeReq (access : Access) : Nat :=
  match access.wrData with
  | none => getSubtypeRegReadReq access.regSizeBit
  | some _ => getSubtypeRegWriteReq access.regSizeBit

def subtypeResp (access : Access) : Nat :=
  match access.wrData with
  | none => getSubtypeRegReadSuccessResp access.regSizeBit
  | some _ => respWriteRegSuccess

def respWords (access : Access) : Nat :=
  match access.wrData with
  | none => access.regSizeBit / 16
  | some _ => 0

def reqWords (access : Access) : Outcome (List Word) :=
  match access.wrData with
  | none => .ok []
  | some regVal => loadBytes regVal 0 (access.regSizeBit / 16)

def request (diaddr : Word) (access : Access) : Outcome Packet := do
  assertThat (access.regSizeBit % 16 = 0 ∧ access.regSizeBit ≤ 128)
  let wrData ← access.reqWords
  regaccessRequest diaddr access.diaddr access.regAddr access.subtypeReq
    wrData

def response (access : Access) (pkgResp : Packet) :
    Outcome (OsdResult × List Word) := do
  let result ← regaccessResponse access.subtypeResp pkgResp
  let expDataSizeWords ← osdPacketSizeconvPayload2data access.respWords
  checkSize expDataSizeWords result fun responsePkg =>
    loadBytes responsePkg.dataRaw packetHeaderWordCnt access.respWords

end Access

/-! ## The module and its surroundings -/

/-- A packet on its way back, with the number of the request it answers. -/
structure Reply where
  request : Nat
  packet : Packet

structure Call where
  id : Nat
  access : Access

/-- The main thread is in at most one call.  Replies wait at the socket of the
I/O thread and then in the queue to the main thread. -/
structure RegSystem where
  call : Option Call
  issued : Nat
  outstanding : List (Nat × Packet)
  hostctrlSocket : List Reply
  inprocSocket : List Reply

def RegSystem.init : RegSystem := ⟨none, 0, [], [], []⟩

inductive RegEvent where
  | issued (id : Nat) (access : Access)
  | answered (id : Nat) (response : DiPacket)
  | forwarded
  | returned (id : Nat) (rv : OsdResult) (value : List Word)

/-- A module answers any request that is outstanding, at any time, with a
register packet of its own.  A call without a message in its queue may time
out unless it is blocking. -/
inductive RegStep (diaddr : Word) : RegSystem → RegEvent → RegSystem → Prop
  | issue {s : RegSystem} {access : Access} {pkgReq : Packet}
      (hidle : s.call = none) (hpkg : access.request diaddr = .ok pkgReq) :
      RegStep diaddr s (.issued s.issued access)
        { s with
          call := some ⟨s.issued, access⟩
          issued := s.issued + 1
          outstanding := s.outstanding ++ [(s.issued, pkgReq)] }
  | answer {s : RegSystem} {before after : List (Nat × Packet)} {id : Nat}
      {pkgReq : Packet} {response : DiPacket}
      (hreq : s.outstanding = before ++ (id, pkgReq) :: after)
      (hsrc : osdPacketGetDest pkgReq = .ok response.src.toNat)
      (hdest : osdPacketGetSrc pkgReq = .ok response.dest.toNat)
      (htype : typeOfFlags response.flags = osdPacketTypeReg) :
      RegStep diaddr s (.answered id response)
        { s with
          outstanding := before ++ after
          hostctrlSocket := s.hostctrlSocket ++ [⟨id, response.toPacket⟩] }
  | forward {s : RegSystem} {reply : Reply} {rest : List Reply}
      (hsocket : s.hostctrlSocket = reply :: rest) :
      RegStep diaddr s .forwarded
        { s with
          hostctrlSocket := rest
          inprocSocket := s.inprocSocket ++ [reply] }
  | receive {s : RegSystem} {call : Call} {reply : Reply}
      {rest : List Reply} {rv : OsdResult} {value : List Word}
      (hcall : s.call = some call) (hsocket : s.inprocSocket = reply :: rest)
      (hresult : call.access.response reply.packet = .ok (rv, value)) :
      RegStep diaddr s (.returned call.id rv value)
        { s with call := none, inprocSocket := rest }
  | timeout {s : RegSystem} {call : Call} (hcall : s.call = some call)
      (hblocking : call.access.blocking = false)
      (hsocket : s.inprocSocket = []) :
      RegStep diaddr s (.returned call.id osdErrorTimedout [])
        { s with call := none }

/-! ## Requests and responses -/

theorem Access.getDest_request {diaddr : Word} {access : Access}
    {pkgReq : Packet} (h : access.request diaddr = .ok pkgReq) :
    osdPacketGetDest pkgReq = .ok access.diaddr.toNat := by
  unfold Access.request at h
  obtain ⟨-, h⟩ := assertThat_bind_eq_ok.mp h
  obtain ⟨wrData, -, h⟩ := bind_eq_ok.mp h
  unfold regaccessRequest at h
  obtain ⟨size, -, h⟩ := bind_eq_ok.mp h
  obtain ⟨header, hheader, h⟩ := bind_eq_ok.mp h
  obtain ⟨dataRaw, hstore, h⟩ := bind_eq_ok.mp h
  obtain ⟨-, hstore⟩ := inBounds_bind_eq_ok.mp hstore
  obtain ⟨hsize, hsame, flags, rest, hraw⟩ := osdPacketSetHeader_ok hheader
  cases hstore
  cases h
  unfold osdPacketGetDest headerWord
  rw [assertThat_bind (by rwa [hsame]), Packet.word, hraw]
  simp [packetHeaderWordCnt]

/-- The response has the subtype and the size that the access awaits. -/
def Access.Awaits (access : Access) (pkgResp : Packet) : Prop :=
  osdPacketGetTypeSub pkgResp = .ok access.subtypeResp ∧
    pkgResp.dataSizeWords.toNat = packetHeaderWordCnt + access.respWords

theorem Access.response_ok {access : Access} {response : DiPacket}
    {value : List Word}
    (h : access.response response.toPacket = .ok (osdOk, value)) :
    access.Awaits response.toPacket ∧ value = response.payload := by
  unfold Access.response regaccessResponse at h
  rw [DiPacket.getType_toPacket, ok_bind, DiPacket.getTypeSub_toPacket] at h
  obtain ⟨result, hresult, h⟩ := bind_eq_ok.mp h
  obtain ⟨-, hresult⟩ := assertThat_bind_eq_ok.mp hresult
  rw [ok_bind] at hresult
  obtain ⟨size, hsize, h⟩ := bind_eq_ok.mp h
  obtain ⟨-, hsize⟩ := assertThat_bind_eq_ok.mp hsize
  split at hresult
  · cases hresult
    cases h
  split at hresult
  · cases hresult
    cases h
  · rename_i htypeSub
    cases hresult
    cases hsize
    unfold checkSize at h
    dsimp only at h
    split at h
    · cases h
    rename_i hlength
    obtain ⟨regVal, hload, h⟩ := bind_eq_ok.mp h
    obtain ⟨hinside, hload⟩ := inBounds_bind_eq_ok.mp hload
    cases hload
    cases h
    have hfits := response.fits
    have hsame : response.typeSub = access.subtypeResp := by
      simpa using htypeSub
    have hwords : response.payload.length = access.respWords := by
      rw [DiPacket.toPacket_size, packetHeaderWordCnt] at hlength
      rw [DiPacket.toPacket_length, packetHeaderWordCnt] at hinside
      omega
    refine ⟨⟨by rw [DiPacket.getTypeSub_toPacket, hsame], ?_⟩, ?_⟩
    · rw [DiPacket.toPacket_size, hwords, Nat.add_comm]
    · rw [← hwords]
      simp

end Osd.HostMod
