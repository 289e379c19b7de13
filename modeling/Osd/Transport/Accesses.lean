import Osd.HostMod.SetBit
import Osd.Transport.Devices

/-!
# Register accesses over the network

Any number of host modules access the registers of any number of devices.  An
access is a request and a response on their way through the network, but it
acts as if it happened at the moment at which the device serves it.
-/

namespace Osd.Transport

open Osd.Foundation Osd.HostCtrl Osd.HostMod NetEvent

variable {M G δ : Type}

/-! ## Devices -/

/-- A response goes back to the sender of its request. -/
structure DeviceModel (δ : Type) where
  serve : δ → DiPacket → Option (δ × DiPacket)
  answers : ∀ {dev dev' : δ} {req resp : DiPacket},
    serve dev req = some (dev', resp) →
      resp.dest = req.src ∧ typeOfFlags resp.flags = osdPacketTypeReg

theorem registers_answer {regs regs' : Registers} {req resp : DiPacket}
    (h : regs.serve req = some (regs', resp)) :
    resp.dest = req.src ∧ typeOfFlags resp.flags = osdPacketTypeReg := by
  have hstatus : ∀ typeSub < 16,
      (regStatus req typeSub).dest = req.src ∧
        typeOfFlags (regStatus req typeSub).flags = osdPacketTypeReg :=
    fun typeSub hlt => ⟨rfl, typeOfFlags_regFlags typeSub hlt⟩
  have hvalue : ∀ value : RegValue, (value.response req).dest = req.src ∧
      typeOfFlags (value.response req).flags = osdPacketTypeReg := by
    intro value
    refine ⟨rfl, typeOfFlags_regFlags _ ?_⟩
    cases value.width <;> decide
  unfold Registers.serve at h
  split at h
  · cases h
  · split at h
    · split at h
      · split at h
        · cases h
          exact hvalue _
        · cases h
          exact hstatus _ (by decide)
      · cases h
        exact hstatus _ (by decide)
    · cases h
      exact hstatus _ (by decide)
    · split at h
      · split at h
        · cases h
          exact hstatus _ (by decide)
        · cases h
          exact hstatus _ (by decide)
      · cases h
        exact hstatus _ (by decide)
    · cases h
      exact hstatus _ (by decide)
    · cases h

def registersModel : DeviceModel Registers where
  serve := Registers.serve
  answers := registers_answer

/-! ## Accesses as they happen -/

/-- The network, the calls that wait for a response, what the devices have
read of the bytes they got, and their states. -/
structure AccessNetwork (M G δ : Type) where
  net : Network M G
  calls : M → Option Access
  consumed : G → Nat
  devices : G → δ

inductive AccessEvent (M G : Type) where
  | called (m : M) (access : Access)
  | moved (event : NetEvent M G)
  | served (g : G) (req resp : DiPacket)
  | skipped (g : G)
  | returned (m : M) (rv : OsdResult) (value : List Word)

/-- Steps between the main threads and the devices. -/
def isTransfer : NetEvent M G → Bool
  | .passes _ _ => true
  | .reads _ _ => true
  | .forwards _ _ => true
  | .handles _ => true
  | .receives _ _ _ _ => true
  | .writes _ _ _ _ => true
  | _ => false

/-- What a device got and has not read. -/
def AccessNetwork.input (s : AccessNetwork M G δ) (g : G) : List Byte :=
  (s.net.toDevice g).drop (s.consumed g)

variable [DecidableEq M] [DecidableEq G]

def AccessNetwork.consume (s : AccessNetwork M G δ) (g : G)
    (rest : List Byte) : G → Nat :=
  Function.update s.consumed g ((s.net.toDevice g).length - rest.length)

/-- A call blocks until it gets a packet.  A host module has no registers, and
a request that reaches one would be taken for a response there. -/
inductive AccessStep (model : DeviceModel δ) (addr : M → Word)
    (env : M → EventEnv) (s : AccessNetwork M G δ) :
    AccessEvent M G → AccessNetwork M G δ → Prop
  | called {m : M} {access : Access} {pkgReq : Packet} {net : Network M G}
      (hidle : s.calls m = none)
      (hpkg : access.request (addr m) = .ok pkgReq)
      (hremote : ∀ m', targetOf s.net.controller access.diaddr.toNat ≠
        some (.hostmod m'))
      (hnet : NetStep env s.net (.sends m pkgReq) net) :
      AccessStep model addr env s (.called m access)
        { s with net, calls := Function.update s.calls m (some access) }
  | moved {event : NetEvent M G} {net : Network M G}
      (htransfer : isTransfer event = true)
      (hnet : DataStep env s.net event net) :
      AccessStep model addr env s (.moved event) { s with net }
  | served {g : G} {rv : OsdResult} {pkg : Packet} {glip : Gateway.Glip}
      {req resp : DiPacket} {dev : δ} {datagram : Gateway.Datagram}
      {net : Network M G}
      (hread : Gateway.readPacket (s.input g) = .ok (rv, some pkg, glip))
      (hreq : requestOf pkg = some req)
      (hserve : model.serve (s.devices g) req = some (dev, resp))
      (hresp : datagram.toPacket = resp.toPacket)
      (hnet : NetStep env s.net (.deviceSends g datagram) net) :
      AccessStep model addr env s (.served g req resp)
        { s with
          net
          consumed := s.consume g glip.stream
          devices := Function.update s.devices g dev }
  | skipped {g : G} {rv : OsdResult} {pkg : Packet} {glip : Gateway.Glip}
      (hread : Gateway.readPacket (s.input g) = .ok (rv, some pkg, glip)) :
      AccessStep model addr env s (.skipped g)
        { s with consumed := s.consume g glip.stream }
  | returned {m : M} {access : Access} {msg : Zmsg} {packet : Packet}
      {net : Network M G} {rv : OsdResult} {value : List Word}
      (hcall : s.calls m = some access)
      (hnet : NetStep env s.net (.takes m msg packet) net)
      (hresult : access.response packet = .ok (rv, value)) :
      AccessStep model addr env s (.returned m rv value)
        { s with net, calls := Function.update s.calls m none }

/-! ## Atomic accesses -/

inductive CallPhase where
  | idle
  | requested (access : Access)
  | answered (access : Access) (resp : DiPacket)

def CallPhase.access : CallPhase → Option Access
  | .idle => none
  | .requested access => some access
  | .answered access _ => some access

structure AtomicAccesses (M G δ : Type) where
  phases : M → CallPhase
  devices : G → δ

/-- A request is served at once, between its call and its return. -/
inductive AtomicStep (model : DeviceModel δ) (addr : M → Word)
    (t : AtomicAccesses M G δ) :
    AccessEvent M G → AtomicAccesses M G δ → Prop
  | called {m : M} {access : Access} (hidle : t.phases m = .idle) :
      AtomicStep model addr t (.called m access)
        { t with phases := Function.update t.phases m (.requested access) }
  | moved (event : NetEvent M G) : AtomicStep model addr t (.moved event) t
  | served {m : M} {access : Access} {g : G} {req resp : DiPacket} {dev : δ}
      (hphase : t.phases m = .requested access)
      (hreq : access.request (addr m) = .ok req.toPacket)
      (hserve : model.serve (t.devices g) req = some (dev, resp)) :
      AtomicStep model addr t (.served g req resp)
        { phases := Function.update t.phases m (.answered access resp)
          devices := Function.update t.devices g dev }
  | skipped (g : G) : AtomicStep model addr t (.skipped g) t
  | returned {m : M} {access : Access} {resp : DiPacket} {rv : OsdResult}
      {value : List Word}
      (hphase : t.phases m = .answered access resp)
      (hresult : access.response resp.toPacket = .ok (rv, value)) :
      AtomicStep model addr t (.returned m rv value)
        { t with phases := Function.update t.phases m .idle }

end Osd.Transport
