import Osd.Foundation.Runs
import Osd.HostCtrl.Handlers

/-!
# Host modules that connect and disconnect

Any number of host modules and one host controller.  A connection is a new
DEALER socket, which the ROUTER socket of the controller knows by an identity
of its own.  No message is lost: a handshake message stays in flight until it
is received, so no receive of a handshake runs into its timeout.
-/

namespace Osd.HostMod

open Osd.Foundation Osd.HostCtrl

/-- How `iothread_obtain_diaddr` reads the reply to its request. -/
def iothreadObtainDiaddr (type payload : List Byte) : Outcome Nat := do
  assertThat (type = ascii "M")
  let (addr, endptr) ← strtol (payload ++ [0])
  let char ← firstChar endptr
  assertThat (char = 0)
  assertThat (addr ≤ 65535)
  .ok (addr % 2 ^ 16).toNat

/-- Where the main thread and the I/O thread of a module are, together with
the socket identity and the address that they keep meanwhile. -/
inductive Phase where
  | disconnected
  | connectCalled
  | awaitingReply (socket : Nat)
  | connectDone (socket retval : Nat)
  | connected (socket diaddr : Nat)
  | disconnectCalled (socket diaddr : Nat)
  | disconnectDone (diaddr : Nat)
  deriving DecidableEq

namespace Phase

/-- The address that the module has while its `is_connected` is set. -/
def diaddr : Phase → Option Nat
  | .connected _ diaddr => some diaddr
  | .disconnectCalled _ diaddr => some diaddr
  | .disconnectDone diaddr => some diaddr
  | _ => none

def waiting : Phase → Option Nat
  | .awaitingReply socket => some socket
  | _ => none

def obtained : Phase → Option (Nat × Nat)
  | .connectDone socket diaddr => some (socket, diaddr)
  | .connected socket diaddr => some (socket, diaddr)
  | .disconnectCalled socket diaddr => some (socket, diaddr)
  | _ => none

def socket (phase : Phase) : Option Nat :=
  phase.waiting <|> phase.obtained.map Prod.fst

def atRest : Phase → Prop
  | .disconnected => True
  | .connected _ _ => True
  | _ => False

end Phase

structure Network (Mod : Type) where
  mods : Mod → Phase
  ctrl : Controller Nat
  nextSocket : Nat
  requests : List (ExtMsg Nat)
  replies : List (Outgoing Nat)

namespace Network

variable {Mod : Type}

def init : Network Mod where
  mods := fun _ => .disconnected
  ctrl := osdHostctrlNew
  nextSocket := 0
  requests := []
  replies := []

def diaddrRequest (socket : Nat) : ExtMsg Nat :=
  ⟨socket, ascii "M", ascii "DIADDR_REQUEST"⟩

variable [DecidableEq Mod]

def setPhase (s : Network Mod) (m : Mod) (phase : Phase) : Network Mod :=
  { s with mods := Function.update s.mods m phase }

/-- The first half of `iothread_connect_to_hostctrl`, up to the request. -/
def sendRequest (s : Network Mod) (m : Mod) : Network Mod :=
  { s.setPhase m (.awaitingReply s.nextSocket) with
    nextSocket := s.nextSocket + 1
    requests := s.requests ++ [diaddrRequest s.nextSocket] }

end Network

inductive Action (Mod : Type) where
  | osdHostmodConnect (m : Mod)
  | sendRequest (m : Mod)
  | iothreadHandleExtMsg (event : Event Nat)
  | receiveReply (m : Mod)
  | connectReturns (m : Mod)
  | osdHostmodDisconnect (m : Mod)
  | iothreadDisconnectFromHostctrl (m : Mod)
  | disconnectReturns (m : Mod)

inductive ConnectStep {Mod : Type} [DecidableEq Mod] :
    Network Mod → Action Mod → Network Mod → Prop
  | osdHostmodConnect {s : Network Mod} {m : Mod}
      (hphase : s.mods m = .disconnected) :
      ConnectStep s (.osdHostmodConnect m) (s.setPhase m .connectCalled)
  | sendRequest {s : Network Mod} {m : Mod}
      (hphase : s.mods m = .connectCalled) :
      ConnectStep s (.sendRequest m) (s.sendRequest m)
  -- the controller serves the requests of different sockets in any order
  | iothreadHandleExtMsg {s : Network Mod} {front rest : List (ExtMsg Nat)}
      {event : Event Nat} {after : Controller Nat}
      (hrequests : s.requests = front ++ event.msg :: rest)
      (hstep : Step s.ctrl event after) :
      ConnectStep s (.iothreadHandleExtMsg event)
        { s with
          ctrl := after
          requests := front ++ rest
          replies := s.replies ++ event.sent }
  | receiveReply {s : Network Mod} {m : Mod} {socket diaddr : Nat}
      {front rest : List (Outgoing Nat)} {reply : Outgoing Nat}
      (hphase : s.mods m = .awaitingReply socket)
      (hreplies : s.replies = front ++ reply :: rest)
      (hdest : reply.dest = socket)
      (haddr : iothreadObtainDiaddr reply.type reply.payload = .ok diaddr) :
      ConnectStep s (.receiveReply m)
        { s.setPhase m (.connectDone socket diaddr) with
          replies := front ++ rest }
  | connectReturns {s : Network Mod} {m : Mod} {socket diaddr : Nat}
      (hphase : s.mods m = .connectDone socket diaddr) :
      ConnectStep s (.connectReturns m) (s.setPhase m (.connected socket diaddr))
  | osdHostmodDisconnect {s : Network Mod} {m : Mod} {socket diaddr : Nat}
      (hphase : s.mods m = .connected socket diaddr) :
      ConnectStep s (.osdHostmodDisconnect m)
        (s.setPhase m (.disconnectCalled socket diaddr))
  -- the socket is destroyed, and nothing is sent before
  | iothreadDisconnectFromHostctrl {s : Network Mod} {m : Mod}
      {socket diaddr : Nat}
      (hphase : s.mods m = .disconnectCalled socket diaddr) :
      ConnectStep s (.iothreadDisconnectFromHostctrl m)
        (s.setPhase m (.disconnectDone diaddr))
  | disconnectReturns {s : Network Mod} {m : Mod} {diaddr : Nat}
      (hphase : s.mods m = .disconnectDone diaddr) :
      ConnectStep s (.disconnectReturns m) (s.setPhase m .disconnected)

/-! ## The address in a reply -/

/-- A numeric reply is read as the number that was sent. -/
theorem iothreadObtainDiaddr_formatUnsigned {diaddr : Nat}
    (h : diaddr < 2 ^ 16) :
    iothreadObtainDiaddr (ascii "M") (formatUnsigned diaddr) = .ok diaddr := by
  have hle : (diaddr : Int) ≤ 65535 := by omega
  have hmod : ((diaddr : Int) % 2 ^ 16).toNat = diaddr := by omega
  rw [iothreadObtainDiaddr, assertThat_bind rfl,
    strtol_formatUnsigned (by omega) [], ok_bind]
  simp only [firstChar_cons, ok_bind, assertThat_bind, hle, hmod]

end Osd.HostMod
