import Osd.Foundation.CursorList
import Osd.Foundation.Heap
import Osd.Packet

/-!
# Event packets in the I/O thread

`iothread_handle_in_eventpkg` of `hostmod.c`.  The packets are objects on a
heap, and the reassembly buffer is a list of their addresses.  A pointer that
may be NULL is an optional address.
-/

namespace Osd.HostMod

open Osd.Foundation

/-- The surroundings: the allocator, where `zlist_next` goes from an unset
cursor, and if an event handler is registered. -/
structure EventEnv where
  alloc : Allocator
  restart : Bool
  eventHandler : Bool

structure EventCtx where
  heap : Heap Packet
  eventReassemblyBuf : CursorList Address

def EventCtx.empty : EventCtx := ⟨.empty, .empty⟩

/-- An event packet goes to the event handler or to the main thread. -/
inductive Delivery where
  | toHandler (packet : Packet)
  | toMain (packet : Packet)
  deriving DecidableEq, Repr

def EventEnv.deliver (env : EventEnv) (packet : Packet) : Delivery :=
  if env.eventHandler then .toHandler packet else .toMain packet

/-- `zlist_remove`; the list holds no NULL item. -/
def zlistRemove (list : CursorList Address) (item : Option Address) :
    CursorList Address :=
  match item with
  | none => list
  | some address => list.remove address

/-- `osd_packet_combine`: the first packet is reallocated before the payload of
the second one is copied. -/
def combineAt (alloc : Allocator) (heap : Heap Packet)
    (first second : Address) : Outcome (Address × Heap Packet) := do
  let firstPkg ← heap.get first
  let secondPkg ← heap.get second
  let combined ← osdPacketCombine firstPkg secondPkg
  let (first, heap) ← heap.realloc alloc first combined
  let _ ← heap.get second
  .ok (first, heap)

/-- A part of the event that is reassembled.  Returns `fwd_pkg` and
`pkg_inbuf`. -/
def takePart (alloc : Allocator) (heap : Heap Packet)
    (fwdPkg : Option Address) (pkgInbuf : Address) :
    Outcome (Address × Option Address × Heap Packet) :=
  match fwdPkg with
  | none => do
      let part ← heap.get pkgInbuf
      let part ← osdPacketSetTypeSub part evLast
      let heap ← heap.set pkgInbuf part
      .ok (pkgInbuf, some pkgInbuf, heap)
  | some fwdPkg => do
      let (fwdPkg, heap) ← combineAt alloc heap fwdPkg pkgInbuf
      let heap ← heap.free pkgInbuf
      -- osd_packet_free sets the pointer to NULL
      .ok (fwdPkg, none, heap)

/-- The loop over the reassembly buffer.  Every round leaves one more item of
the list behind, so their number bounds the rounds. -/
def reassemble (env : EventEnv) (pkg : Address) :
    Nat → EventCtx → Option Address → Option Address →
      Outcome (Option Address × EventCtx)
  | _, ctx, fwdPkg, none => .ok (fwdPkg, ctx)
  | 0, _, _, some _ => .error .blocked
  | fuel + 1, ctx, fwdPkg, some pkgInbuf => do
      let part ← ctx.heap.get pkgInbuf
      let last ← ctx.heap.get pkg
      let partSrc ← osdPacketGetSrc part
      let src ← osdPacketGetSrc last
      if partSrc ≠ src then do
        let (pkgInbuf, list) := ctx.eventReassemblyBuf.next env.restart
        reassemble env pkg fuel { ctx with eventReassemblyBuf := list } fwdPkg
          pkgInbuf
      else do
        let (fwdPkg, pkgInbuf, heap) ←
          takePart env.alloc ctx.heap fwdPkg pkgInbuf
        let list := zlistRemove ctx.eventReassemblyBuf pkgInbuf
        let (pkgInbuf, list) := list.next env.restart
        reassemble env pkg fuel ⟨heap, list⟩ (some fwdPkg) pkgInbuf

/-- The packet leaves the heap: the handler owns it, or it is copied into the
message for the main thread and freed. -/
def forwardPkg (env : EventEnv) (ctx : EventCtx) (fwdPkg : Address) :
    Outcome (Option Delivery × EventCtx) := do
  let packet ← ctx.heap.get fwdPkg
  let heap ← ctx.heap.free fwdPkg
  .ok (some (env.deliver packet), { ctx with heap })

def iothreadHandleInEventpkg (env : EventEnv) (ctx : EventCtx)
    (pkg : Address) : Outcome (Option Delivery × EventCtx) := do
  let packet ← ctx.heap.get pkg
  let typeSub ← osdPacketGetTypeSub packet
  if typeSub = evCont then
    let list := ctx.eventReassemblyBuf.append pkg
    .ok (none, { ctx with eventReassemblyBuf := list })
  else if typeSub ≠ evLast then forwardPkg env ctx pkg
  else do
    let (pkgInbuf, list) := ctx.eventReassemblyBuf.first
    let (fwdPkg, ctx) ←
      reassemble env pkg ctx.eventReassemblyBuf.items.length
        { ctx with eventReassemblyBuf := list } none pkgInbuf
    match fwdPkg with
    | none => do
        let packet ← ctx.heap.get pkg
        let packet ← osdPacketSetTypeSub packet evLast
        let heap ← ctx.heap.set pkg packet
        forwardPkg env { ctx with heap } pkg
    | some fwdPkg => do
        let (fwdPkg, heap) ← combineAt env.alloc ctx.heap fwdPkg pkg
        let heap ← heap.free pkg
        forwardPkg env { ctx with heap } fwdPkg

/-- A packet arrives and is handled. -/
def receiveEvent (env : EventEnv) (ctx : EventCtx) (packet : Packet) :
    Outcome (Option Delivery × EventCtx) :=
  let (pkg, heap) := ctx.heap.malloc env.alloc packet
  iothreadHandleInEventpkg env { ctx with heap } pkg

def receiveEvents (env : EventEnv) :
    EventCtx → List DiPacket →
      Outcome (List (Option Delivery) × EventCtx)
  | ctx, [] => .ok ([], ctx)
  | ctx, packet :: packets => do
      let (delivery, ctx) ← receiveEvent env ctx packet.toPacket
      let (deliveries, ctx) ← receiveEvents env ctx packets
      .ok (delivery :: deliveries, ctx)

/-! ## What reassembly is for

Parts of an event are pending until the last packet of their source comes. -/

def pendingAfter (pending : List DiPacket) (packet : DiPacket) :
    List DiPacket :=
  if packet.typeSub = evCont then pending ++ [packet]
  else if packet.typeSub = evLast then
    pending.filter fun part => part.src != packet.src
  else pending

/-- The pending parts that the packet belongs to. -/
def partsOf (pending : List DiPacket) (packet : DiPacket) : List DiPacket :=
  pending.filter fun part => part.src == packet.src

def payloadOf (parts : List DiPacket) : List Word :=
  parts.flatMap DiPacket.payload

/-- One packet with the header of the first part and all payloads. -/
def assembled (parts : List DiPacket) (last : DiPacket) : Packet :=
  let first := parts.headD last
  let payload := payloadOf (parts ++ [last])
  ⟨UInt16.ofNat (payload.length + 3),
    first.dest :: first.src :: flagsWithTypeSub first.flags evLast :: payload⟩

def expectedDelivery (pending : List DiPacket) (packet : DiPacket) :
    Option Packet :=
  if packet.typeSub = evCont then none
  else if packet.typeSub = evLast then
    some (assembled (partsOf pending packet) packet)
  else some packet.toPacket

def expectedDeliveries (pending : List DiPacket) :
    List DiPacket → List (Option Packet)
  | [] => []
  | packet :: packets =>
      expectedDelivery pending packet ::
        expectedDeliveries (pendingAfter pending packet) packets

def pendingOf (packets : List DiPacket) : List DiPacket :=
  packets.foldl pendingAfter []

end Osd.HostMod
