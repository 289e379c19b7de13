import Osd.Foundation.Channel
import Osd.Gateway.Codec
import Osd.Gateway.Threads
import Osd.HostCtrl.Routing
import Osd.HostMod.ReceivePath

/-!
# The debug network on the host

Host modules and gateways around one host controller.  Every socket is a FIFO
queue, and a step is what one thread does with one message.  Management
messages may be sent at any time.  Device reads and writes succeed here.
-/

namespace Osd.Transport

open Osd.Foundation Osd.HostCtrl Osd.HostMod

/-! ## Sending -/

/-- `osd_hostmod_send_packet`: the message to the I/O thread. -/
def osdHostmodSendPacket (packet : Packet) : Outcome Zmsg := do
  inBounds (packet.dataSizeWords.toNat ≤ packet.dataRaw.length)
  .ok [ascii "D", packet.frame]

/-- `none` stands for `OSD_ERROR_NOT_CONNECTED`. -/
def osdHostmodEventSend (isConnected : Bool) (eventPkg : Packet) :
    Outcome (Option Zmsg) := do
  let type ← osdPacketGetType eventPkg
  assertThat (type = osdPacketTypeEvent)
  if isConnected then do
    let msg ← osdHostmodSendPacket eventPkg
    .ok (some msg)
  else .ok none

/-- `iothread_handle_inproc_request` for a message that is no command: it is
sent on as it is. -/
def iothreadHandleInprocData (msg : Zmsg) : Outcome Zmsg :=
  match msg with
  | [] => .error .assertion
  | name :: _ => do
      assertThat (name = ascii "D")
      .ok msg

/-- The message that `devicerxthread_main` makes of a packet. -/
def devicerxMsg (packet : Packet) : Zmsg :=
  (Gateway.packetMessage packet).type :: (Gateway.packetMessage packet).frames

/-! ## The state -/

inductive Peer (M G : Type) where
  | hostmod (m : M)
  | gateway (g : G)
  deriving DecidableEq

/-- The queues of the host controller, of the host modules and of the
gateways, and the contexts of the I/O threads of the host modules.  A message
to a peer is kept with its sender, which no code reads. -/
structure Network (M G : Type) where
  controller : Controller (Peer M G)
  toController : Peer M G → List Zmsg
  toPeer : Peer M G → List (Peer M G × Zmsg)
  toIoThread : M → List Zmsg
  ctx : M → EventCtx
  toMain : M → List Zmsg
  fromDevice : G → List Byte
  deviceRx : G → List Zmsg
  toDevice : G → List Byte

variable {M G : Type}

def Network.init : Network M G where
  controller := osdHostctrlNew
  toController := fun _ => []
  toPeer := fun _ => []
  toIoThread := fun _ => []
  ctx := fun _ => .empty
  toMain := fun _ => []
  fromDevice := fun _ => []
  deviceRx := fun _ => []
  toDevice := fun _ => []

/-! ## Events -/

inductive NetEvent (M G : Type) where
  | manages (peer : Peer M G) (text : List Byte)
  | replied (peer source : Peer M G) (msg : Zmsg)
  | sends (m : M) (packet : Packet)
  | passes (m : M) (msg : Zmsg)
  | deviceSends (g : G) (datagram : Gateway.Datagram)
  | reads (g : G) (packet : Packet)
  | forwards (g : G) (msg : Zmsg)
  | handles (event : Event (Peer M G))
  | receives (m : M) (source : Peer M G) (msg : Zmsg) (outMsg : Option Zmsg)
  | takes (m : M) (msg : Zmsg) (packet : Packet)
  | writes (g : G) (source : Peer M G) (frame : List Byte) (pkg : Packet)

def Outgoing.zmsg (out : Outgoing (Peer M G)) : Zmsg :=
  [out.type, out.payload]

/-- What the ROUTER socket queues for a peer. -/
def routedTo [DecidableEq M] [DecidableEq G] (peer : Peer M G)
    (event : Event (Peer M G)) : List (Peer M G × Zmsg) :=
  (event.sent.filter fun out => out.dest = peer).map fun out =>
    (event.msg.src, Outgoing.zmsg out)

/-! ## Steps -/

variable [DecidableEq M] [DecidableEq G]

/-- `env` is what a host module's I/O thread meets.  A peer that connects or
disconnects sends management messages and waits for the replies. -/
inductive NetStep (env : M → EventEnv) (s : Network M G) :
    NetEvent M G → Network M G → Prop
  | manages (peer : Peer M G) (text : List Byte) :
      NetStep env s (.manages peer text)
        { s with
          toController := push s.toController peer [ascii "M", text] }
  | replied {peer source : Peer M G} {text : List Byte}
      {rest : List (Peer M G × Zmsg)}
      (hsocket : s.toPeer peer = (source, [ascii "M", text]) :: rest) :
      NetStep env s (.replied peer source [ascii "M", text])
        { s with toPeer := Function.update s.toPeer peer rest }
  | sends {m : M} {packet : Packet} {msg : Zmsg}
      (hmsg : osdHostmodSendPacket packet = .ok msg) :
      NetStep env s (.sends m packet)
        { s with toIoThread := push s.toIoThread m msg }
  | passes {m : M} {msg out : Zmsg} {rest : List Zmsg}
      (hqueue : s.toIoThread m = msg :: rest)
      (hout : iothreadHandleInprocData msg = .ok out) :
      NetStep env s (.passes m out)
        { s with
          toIoThread := Function.update s.toIoThread m rest
          toController := push s.toController (.hostmod m) out }
  | deviceSends (g : G) (datagram : Gateway.Datagram) :
      NetStep env s (.deviceSends g datagram)
        { s with
          fromDevice := Function.update s.fromDevice g
            (s.fromDevice g ++ datagram.bytes) }
  | reads {g : G} {rv : OsdResult} {rcvPacket : Option Packet}
      {glip : Gateway.Glip} {packet : Packet}
      (hread : Gateway.readPacket (s.fromDevice g) =
        .ok (rv, rcvPacket, glip))
      (hround : Gateway.devicerxthreadRound rv rcvPacket =
        .ok (.forwarded packet)) :
      NetStep env s (.reads g packet)
        { s with
          fromDevice := Function.update s.fromDevice g glip.stream
          deviceRx := push s.deviceRx g (devicerxMsg packet) }
  | forwards {g : G} {msg : Zmsg} {rest : List Zmsg}
      (hqueue : s.deviceRx g = msg :: rest) :
      NetStep env s (.forwards g msg)
        { s with
          deviceRx := Function.update s.deviceRx g rest
          toController := push s.toController (.gateway g) msg }
  | handles {event : Event (Peer M G)} {rest : List Zmsg}
      {after : Controller (Peer M G)}
      (hqueue : s.toController event.msg.src =
        [event.msg.type, event.msg.payload] :: rest)
      (hstep : Step s.controller event after) :
      NetStep env s (.handles event)
        { s with
          controller := after
          toController := Function.update s.toController event.msg.src rest
          toPeer := fun peer => s.toPeer peer ++ routedTo peer event }
  | receives {m : M} {source : Peer M G} {msg : Zmsg}
      {rest : List (Peer M G × Zmsg)} {outMsg : Option Zmsg}
      {ctx : EventCtx}
      (hsocket : s.toPeer (.hostmod m) = (source, msg) :: rest)
      (hrcv : iothreadRcvFromHostctrl (env m) (s.ctx m) msg =
        .ok (outMsg, ctx)) :
      NetStep env s (.receives m source msg outMsg)
        { s with
          toPeer := Function.update s.toPeer (.hostmod m) rest
          ctx := Function.update s.ctx m ctx
          toMain := Function.update s.toMain m
            (s.toMain m ++ outMsg.toList) }
  | takes {m : M} {msg : Zmsg} {rest : List Zmsg} {packet : Packet}
      (hqueue : s.toMain m = msg :: rest)
      (htaken : osdHostmodReceivePacket msg = .ok packet) :
      NetStep env s (.takes m msg packet)
        { s with toMain := Function.update s.toMain m rest }
  | writes {g : G} {source : Peer M G} {frame : List Byte} {pkg : Packet}
      {rest : List (Peer M G × Zmsg)} {stream : List Byte}
      (hsocket : s.toPeer (.gateway g) =
        (source, [ascii "D", frame]) :: rest)
      (hpkg : osdPacketNewFromZframe frame = .ok pkg)
      (hwrite : Gateway.packetWriteToDevice
        ⟨s.toDevice g, [.written]⟩ pkg = .ok (osdOk, ⟨stream, []⟩)) :
      NetStep env s (.writes g source frame pkg)
        { s with
          toPeer := Function.update s.toPeer (.gateway g) rest
          toDevice := Function.update s.toDevice g stream }

end Osd.Transport
