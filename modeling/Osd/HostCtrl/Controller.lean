import Osd.Foundation.CString
import Osd.Foundation.Table
import Osd.Packet

/-!
# The host controller

The message handlers of `hostctrl.c`.  A peer of the ROUTER socket is known by
its identity frame; identities are opaque and only compared.  A handler
returns the new tables and the messages it passed to `zmsg_send`, in order.
-/

namespace Osd.HostCtrl

open Osd.Foundation

def ascii (text : String) : List Byte :=
  text.toList.map fun char => UInt8.ofNat char.toNat

structure Outgoing (Id : Type) where
  dest : Id
  type : List Byte
  payload : List Byte
  deriving DecidableEq

/-- The part of the I/O thread's user context that the handlers work on. -/
@[ext] structure Controller (Id : Type) where
  subnetAddr : Nat
  modsInSubnet : Table (osdDiaddrLocalMax + 1) Id
  gateways : Table (osdDiaddrSubnetMax + 1) Id

variable {Id : Type}

def osdHostctrlNew : Controller Id where
  subnetAddr := 1
  modsInSubnet := Table.empty
  gateways := Table.empty

/-! ## Addresses -/

/-- `none` stands for `OSD_ERROR_FAILURE`. -/
def getAvailableDiaddr (ctx : Controller Id) : Outcome (Option Nat) := do
  match ← ctx.modsInSubnet.search Option.isNone osdDiaddrLocalMax 1 with
  | none => .ok none
  | some localaddr =>
      let diaddr ← osdDiaddrBuild ctx.subnetAddr localaddr
      .ok (some diaddr)

/-- `none` stands for `OSD_ERROR_FAILURE`. -/
def registerDiaddr (ctx : Controller Id) (hostaddr : Id) (diaddr : Nat) :
    Outcome (Option (Controller Id)) := do
  let localaddr := osdDiaddrLocaladdr diaddr
  match ← ctx.modsInSubnet.load localaddr with
  | some _ => .ok none
  | none =>
      let modsInSubnet ← ctx.modsInSubnet.store localaddr (some hostaddr)
      .ok (some { ctx with modsInSubnet })

/-! ## Management messages -/

def mgmtReply (dest : Id) (text : List Byte) : Outgoing Id :=
  ⟨dest, ascii "M", text⟩

def mgmtSendAck (dest : Id) : Outgoing Id := mgmtReply dest (ascii "ACK")

def mgmtSendNack (dest : Id) : Outgoing Id := mgmtReply dest (ascii "NACK")

def mgmtDiaddrRequest (ctx : Controller Id) (hostaddr : Id) :
    Outcome (Controller Id × Outgoing Id) := do
  match ← getAvailableDiaddr ctx with
  | none => .error .assertion
  | some diaddr =>
      match ← registerDiaddr ctx hostaddr diaddr with
      | none => .error .assertion
      | some ctx => .ok (ctx, mgmtReply hostaddr (formatUnsigned diaddr))

variable [DecidableEq Id]

def mgmtDiaddrRelease (ctx : Controller Id) (hostaddr : Id) :
    Outcome (Controller Id × Outgoing Id) := do
  -- the loop ends at OSD_DIADDR_SUBNET_MAX, not at OSD_DIADDR_LOCAL_MAX
  match ← ctx.modsInSubnet.search (· = some hostaddr)
      (osdDiaddrSubnetMax - 1) 1 with
  | none => .ok (ctx, mgmtSendNack hostaddr)
  | some localaddr =>
      let modsInSubnet ← ctx.modsInSubnet.store localaddr none
      .ok ({ ctx with modsInSubnet }, mgmtSendAck hostaddr)

/-- The subnet number that both gateway requests read from their parameter. -/
def gwSubnet (params : List Byte) : Outcome Nat := do
  let (value, endptr) ← strtol params
  let subnet := (value % 2 ^ 32).toNat
  let char ← firstChar endptr
  assertThat (char = 0)
  assertThat (subnet ≤ osdDiaddrSubnetMax)
  .ok subnet

omit [DecidableEq Id] in
def mgmtGwRegister (ctx : Controller Id) (hostaddr : Id)
    (params : List Byte) : Outcome (Controller Id × Outgoing Id) := do
  let subnet ← gwSubnet params
  match ← ctx.gateways.load subnet with
  | some _ => .ok (ctx, mgmtSendNack hostaddr)
  | none =>
      let gateways ← ctx.gateways.store subnet (some hostaddr)
      .ok ({ ctx with gateways }, mgmtSendAck hostaddr)

def mgmtGwUnregister (ctx : Controller Id) (hostaddr : Id)
    (params : List Byte) : Outcome (Controller Id × Outgoing Id) := do
  let subnet ← gwSubnet params
  match ← ctx.gateways.load subnet with
  | none => .ok (ctx, mgmtSendNack hostaddr)
  | some gateway =>
      if gateway = hostaddr then
        let gateways ← ctx.gateways.store subnet none
        .ok ({ ctx with gateways }, mgmtSendAck hostaddr)
      else .ok (ctx, mgmtSendNack hostaddr)

/-- What `process_mgmt_msg` makes of the request string. -/
inductive Request where
  | diaddrRequest
  | diaddrRelease
  | gwRegister (params : List Byte)
  | gwUnregister (params : List Byte)
  | unknown
  deriving DecidableEq

/-- The comparisons of `process_mgmt_msg` on the copied, terminated frame. -/
def requestOf (payload : List Byte) : Request :=
  let request := payload ++ [0]
  let text := cString request
  if text = ascii "DIADDR_REQUEST" then .diaddrRequest
  else if text = ascii "DIADDR_RELEASE" then .diaddrRelease
  else if ascii "GW_REGISTER" <+: text then
    .gwRegister (request.drop (ascii "GW_REGISTER ").length)
  else if ascii "GW_UNREGISTER" <+: text then
    .gwUnregister (request.drop (ascii "GW_UNREGISTER ").length)
  else .unknown

def handleRequest (ctx : Controller Id) (src : Id) :
    Request → Outcome (Controller Id × Outgoing Id)
  | .diaddrRequest => mgmtDiaddrRequest ctx src
  | .diaddrRelease => mgmtDiaddrRelease ctx src
  | .gwRegister params => mgmtGwRegister ctx src params
  | .gwUnregister params => mgmtGwUnregister ctx src params
  | .unknown => .ok (ctx, mgmtSendAck src)

def processMgmtMsg (ctx : Controller Id) (src : Id) (payload : List Byte) :
    Outcome (Controller Id × Outgoing Id) :=
  handleRequest ctx src (requestOf payload)

/-! ## Data messages -/

omit [DecidableEq Id] in
/-- The entry that the routing lookup reads for a DEST word. -/
def routeEntry (ctx : Controller Id) (dest : Nat) : Outcome (Option Id) :=
  if osdDiaddrSubnet dest = ctx.subnetAddr then
    ctx.modsInSubnet.load (osdDiaddrLocaladdr dest)
  else ctx.gateways.load (osdDiaddrSubnet dest)

omit [DecidableEq Id] in
/-- `connected` are the identities that `zmsg_send` can deliver to. -/
def processDataMsg (ctx : Controller Id) (connected : Id → Bool)
    (payload : List Byte) : Outcome (Controller Id × List (Outgoing Id)) := do
  let packet ← osdPacketNewFromZframe payload
  let dest ← osdPacketGetDest packet
  match ← routeEntry ctx dest with
  | none => .ok (ctx, [])
  | some hostaddr =>
      assertThat (connected hostaddr = true)
      .ok (ctx, [⟨hostaddr, ascii "D", payload⟩])

/-- A message as received from the ROUTER socket: identity, type, payload. -/
structure ExtMsg (Id : Type) where
  src : Id
  type : List Byte
  payload : List Byte

/-- The result of replies is not checked, so `connected` matters for data
messages only. -/
def iothreadHandleExtMsg (ctx : Controller Id) (connected : Id → Bool)
    (msg : ExtMsg Id) : Outcome (Controller Id × List (Outgoing Id)) :=
  let typeStr := msg.type ++ [0]
  match typeStr.head? with
  | some 77 => do
      let (ctx, reply) ← processMgmtMsg ctx msg.src msg.payload
      .ok (ctx, [reply])
  | some 68 => processDataMsg ctx connected msg.payload
  | _ => .ok (ctx, [])

/-! ## Runs -/

/-- One handled message, who was connected then, and what was sent. -/
structure Event (Id : Type) where
  msg : ExtMsg Id
  connected : Id → Bool
  sent : List (Outgoing Id)

def Step (before : Controller Id) (event : Event Id)
    (after : Controller Id) : Prop :=
  iothreadHandleExtMsg before event.connected event.msg =
    .ok (after, event.sent)

end Osd.HostCtrl
