import Osd.Client.TerminalData
import Osd.Transport.TraceSession

/-!
# A terminal and its UART module

The characters typed at a pseudo-terminal on their way to the device, and the
characters that the device prints on their way to the pseudo-terminal.
-/

namespace Osd.Transport

open Osd.Foundation Osd.HostCtrl Osd.HostMod Osd.Client NetEvent

variable {M G : Type} [DecidableEq M] [DecidableEq G]

/-- The events for a module. -/
def eventsFor (diAddr : Word) (frames : List (List Byte)) : List DiPacket :=
  (frames.filterMap eventIn).filter fun packet => packet.dest = diAddr

def charsFor (diAddr : Word) (frames : List (List Byte)) : List Byte :=
  (eventsFor diAddr frames).map uartChar

theorem charsFor_append (diAddr : Word) (front back : List (List Byte)) :
    charsFor diAddr (front ++ back) =
      charsFor diAddr front ++ charsFor diAddr back := by
  simp [charsFor, eventsFor]

section Typed

variable {env : M → EventEnv} {earlier history : List (NetEvent M G)}
  {s s' : Network M G}

end Typed

/-- The key `a` is pressed in the first round. -/
def keyRounds : List TxRound :=
  [⟨true, 1, some [97], true⟩, ⟨true, 0, none, true⟩, ⟨false, 0, none, true⟩]

section Printed

variable {env : M → EventEnv} {s s' : Network M G} {m : M} {g : G}
  {src : Word} {earlier : List (NetEvent M G)}
  {history : List (NetEvent M G × List (M × Packet))}

/-- A character that a UART module prints. -/
structure IsCharacter (packet : DiPacket) : Prop where
  last : packet.typeSub = evLast
  payload : packet.payload ≠ []

end Printed

def printedKey : DiPacket :=
  ⟨1025, 5, eventFlags, [72], DiPacket.single_fits 72⟩

def printing : List (NetEvent Unit Unit × List (Unit × Packet)) :=
  partArrives printedKey
    ⟨printedKey.toPacket.dataRaw, by decide, by decide⟩
    [((), printedKey.toPacket)]

theorem runs_printing :
    ∃ net, Runs (NetStep fun _ => handlerEnv) .init joining net ∧
      Buffered (net.ctx ()) [] ∧
      onTheWayFromDevice net.controller () (.hostmod ()) net = [] ∧
      ∃ net', Runs (HandlingStep fun _ => handlerEnv) net printing net' := by
  exact ⟨_, ((((Runs.single (.manages _ _)).snoc (.handles rfl rfl)).snoc
      (.replied rfl)).snoc (.manages _ _)).snoc (.handles rfl rfl) |>.snoc
        (.replied rfl), buffered_empty, rfl,
    _, ((((Runs.single ⟨⟨.deviceSends _ _, not_handles rfl⟩, rfl⟩).snoc
      ⟨⟨.reads rfl rfl, not_handles rfl⟩, rfl⟩).snoc
      ⟨⟨.forwards rfl, not_handles rfl⟩, rfl⟩).snoc
      ⟨⟨.handles rfl rfl, handles_data rfl⟩, rfl⟩).snoc
      ⟨⟨.receives rfl rfl, not_handles rfl⟩, rfl⟩⟩

theorem arrivedFrom_printing :
    arrivedFrom (printing.map Prod.fst) (.gateway ()) (.hostmod ()) =
      [printedKey.toPacket.frame] := by
  decide

theorem events_printing :
    [printedKey.toPacket.frame].filterMap eventIn = [printedKey] := by
  decide

theorem deviceSent_printing :
    deviceSentTo joining (printing.map Prod.fst) () (.hostmod ()) =
      [printedKey.toPacket.frame] := by
  decide

end Osd.Transport
