import Osd.Client.LogFiles
import Osd.Transport.EventDelivery

/-!
# From a trace module to its log file

The events that a system trace module sends come through its gateway and the
host controller to the host module of the logger, and from there as lines of
text to the event log.
-/

namespace Osd.Transport

open Osd.Foundation Osd.HostCtrl Osd.HostMod Osd.Client NetEvent

variable {M G : Type} [DecidableEq M] [DecidableEq G]

section Groups

variable {events : List DiPacket} {groups : List (List DiPacket)}

theorem twoParts_nil (packet : DiPacket) : TwoParts [] packet := by
  refine ⟨by simp, ?_⟩
  rw [List.nil_append, payloadOf_singleton]
  exact packet.fits

/-- Events of one or two packets each are within what reassembly can do. -/
theorem atLast_groups (h : List.Forall₂ SplitInto events groups) :
    AtLast TwoParts [] groups.flatten := by
  have hcont : ¬evLast = evCont := by decide
  induction h with
  | nil => trivial
  | @cons event parts events groups hsplit _ ih =>
      cases hsplit with
      | whole hother hlast =>
          refine ⟨fun h => absurd h hlast, ?_⟩
          rw [pendingAfter, if_neg hother, if_neg hlast]
          exact ih
      | @last packet hlast =>
          have hsingle := twoParts_nil packet
          simpa [AtLast, pendingAfter, hlast, hcont, partsOf, hsingle] using ih
      | @two part last hpart hlast hsrc hfits =>
          have hsmall : TwoParts [part] last := by
            refine ⟨by simp, ?_⟩
            rw [payloadOf_append, payloadOf_singleton, payloadOf_singleton,
              List.length_append]
            exact hfits
          have hother : ¬evCont = evLast := by decide
          simpa [AtLast, pendingAfter, hpart, hlast, hcont, hother, partsOf,
            hsrc, hsmall] using ih

end Groups

section Session

variable {env : M → EventEnv} {s s' : Network M G} {m : M} {g : G}
  {src : Word} {earlier : List (NetEvent M G)}
  {history : List (NetEvent M G × List (M × Packet))}

/-- All events that arrive at the host module are those of one source behind
one gateway. -/
def OnlyEventsOf (m : M) (src : Word) (g : G)
    (events : List (NetEvent M G)) : Prop :=
  ∀ src' other, src' ≠ src ∨ other ≠ .gateway g →
    eventsFrom src' (arrivedFrom events other (.hostmod m)) = []

theorem OnlyEventsOf.arrivedEvents_eq {events : List (NetEvent M G)}
    (h : OnlyEventsOf m src g events) :
    arrivedEvents m events =
      eventsFrom src (arrivedFrom events (.gateway g) (.hostmod m)) := by
  have hown : fromSource src (arrivedEvents m events) =
      eventsFrom src (arrivedFrom events (.gateway g) (.hostmod m)) :=
    arrivedEvents_fromSource fun other hother => h src other (.inr hother)
  rw [← hown, eq_comm]
  apply List.filter_eq_self.mpr
  intro packet hpacket
  by_contra hother
  have hsrc : packet.src ≠ src := by simpa using hother
  have hnone : fromSource packet.src (arrivedEvents m events) =
      eventsFrom packet.src
        (arrivedFrom events (.gateway g) (.hostmod m)) :=
    arrivedEvents_fromSource fun other _ => h packet.src other (.inl hsrc)
  rw [h packet.src _ (.inl hsrc)] at hnone
  have hmem : packet ∈ fromSource packet.src (arrivedEvents m events) := by
    simpa [fromSource] using hpacket
  rw [hnone] at hmem
  cases hmem

/-- What the handler got are the first of the events that were sent, and all
of them if none is on the way. -/
theorem handled_of_sent (reached : Runs (NetStep env) .init earlier s)
    (hempty : Buffered (s.ctx m) []) (hhandler : (env m).eventHandler = true)
    (run : Runs (HandlingStep env) s history s')
    (honly : OnlyEventsOf m src g (history.map Prod.fst))
    {wholes : List DiPacket} {groups : List (List DiPacket)}
    (hsplit : List.Forall₂ SplitInto wholes groups)
    (hsent : eventsFrom src
      (onTheWayFromDevice s.controller g (.hostmod m) s ++
        deviceSentTo earlier (history.map Prod.fst) g (.hostmod m)) =
      groups.flatten) :
    ∃ count,
      handledBy m history = (wholes.take count).map DiPacket.toPacket ∧
      (eventsFrom src (onTheWayFromDevice s.controller g (.hostmod m) s') =
        [] → wholes.length ≤ count) := by
  have hconveyed := device_run reached
    (run.map Prod.fst fun _ _ _ hstep => hstep.1) g (.hostmod m)
  rw [hconveyed, eventsFrom, List.filterMap_append, fromSource,
    List.filter_append] at hsent
  have harrived := honly.arrivedEvents_eq
  have hprefix : arrivedEvents m (history.map Prod.fst) <+:
      groups.flatten := ⟨_, by rw [harrived]; exact hsent⟩
  have hparts : AtLast TwoParts []
      (arrivedEvents m (history.map Prod.fst)) := by
    obtain ⟨more, hmore⟩ := hprefix
    have hall := atLast_groups hsplit
    rw [← hmore] at hall
    exact hall.front
  have hcollected := collected_of_run reached hempty hhandler run hparts
  obtain ⟨count, hdelivered, hwhole⟩ := deliveries_of_prefix hsplit hprefix
  refine ⟨count, hcollected.handled.trans hdelivered, fun hnone => ?_⟩
  apply hwhole
  rw [harrived, ← hsent]
  exact (List.append_right_eq_self.mpr hnone).symm

end Session

/-- A character that the program prints, in two packets. -/
def characterTrace : StmTrace := .event 0x12345678 4 72

def traceWhole : DiPacket :=
  (traceStart.withTypeSub evLast).append traceEnd (by decide)

def shortTrace : OsdStmDesc := ⟨5, 16⟩

def eventLogger : Systracelogger :=
  osdSystraceloggerSetEventLog osdSystraceloggerNew (some [])

theorem deviceSent_tracing :
    deviceSentTo joining (tracing.map Prod.fst) () (.hostmod ()) =
      [traceStart.toPacket.frame, traceEnd.toPacket.frame] := by
  decide

theorem arrivedFrom_tracing :
    arrivedFrom (tracing.map Prod.fst) (.gateway ()) (.hostmod ()) =
      [traceStart.toPacket.frame, traceEnd.toPacket.frame] := by
  decide

theorem events_tracing :
    [traceStart.toPacket.frame, traceEnd.toPacket.frame].filterMap eventIn =
      [traceStart, traceEnd] := by
  decide

end Osd.Transport
