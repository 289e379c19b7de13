import Osd.Foundation.Runs
import Osd.Packet

/-!
# The device receive thread

`devicerxthread_main` of `gateway.c`.  Reading a packet is a callback on a
device of any kind.
-/

namespace Osd.Gateway

open Osd.Foundation

/-- What one round of the loop did with the result of `packet_read`. -/
inductive RxEvent where
  | forwarded (packet : Packet)
  | retried (rv : OsdResult)
  | terminated
  deriving DecidableEq, Repr

def devicerxthreadRound (rv : OsdResult) (rcvPacket : Option Packet) :
    Outcome RxEvent :=
  if osdFailed rv then
    if rv = osdErrorNotConnected then .ok .terminated
    else .ok (.retried rv)
  else
    match rcvPacket with
    | none => .error .assertion
    | some packet => .ok (.forwarded packet)

structure RxThread (δ : Type) where
  dev : δ
  running : Bool

variable {δ : Type}

def RxStep (packetRead : δ → Outcome (OsdResult × Option Packet × δ))
    (thread : RxThread δ) (event : RxEvent) (thread' : RxThread δ) : Prop :=
  thread.running = true ∧ thread'.running = (event != .terminated) ∧
    ∃ rv rcvPacket, packetRead thread.dev = .ok (rv, rcvPacket, thread'.dev) ∧
      devicerxthreadRound rv rcvPacket = .ok event

def RxEvent.packet : RxEvent → Option Packet
  | .forwarded packet => some packet
  | .retried _ => none
  | .terminated => none

/-- The packets that `packet_read` returned with OSD_OK. -/
def returned (history : List RxEvent) : List Packet :=
  history.filterMap RxEvent.packet

@[simp] theorem returned_append (history later : List RxEvent) :
    returned (history ++ later) = returned history ++ returned later :=
  List.filterMap_append

end Osd.Gateway
