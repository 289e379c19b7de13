import Osd.Transport.Delivery

/-!
# Forwarding while peers come and go

Host modules and gateways register and leave at any time.  The controller
forwards a data message to the peer that holds the destination address when
the message is handled, and drops it if there is none.
-/

namespace Osd.Transport

open Osd.Foundation Osd.HostCtrl Osd.HostMod NetEvent

variable {M G : Type} [DecidableEq M] [DecidableEq G]

/-- The data message of `source` that the controller handles, with its
target. -/
def forwardedIn (earlier : List (NetEvent M G)) (source : Peer M G)
    (event : NetEvent M G) : List (List Byte × Option (Peer M G)) :=
  (handledFrames source event).map fun frame => (frame, routeOf earlier frame)

def forwardings (source : Peer M G) (earlier : List (NetEvent M G)) :
    List (NetEvent M G) → List (List Byte × Option (Peer M G))
  | [] => []
  | event :: events =>
      forwardedIn earlier source event ++
        forwardings source (earlier ++ [event]) events

def frameFor (dest : Peer M G) (entry : List Byte × Option (Peer M G)) :
    Option (List Byte) :=
  if entry.2 = some dest then some entry.1 else none

section

variable {env : M → EventEnv} {earlier history : List (NetEvent M G)}
  {s s' : Network M G} {event : NetEvent M G}

theorem forwardings_snoc (source : Peer M G)
    (earlier history : List (NetEvent M G)) (event : NetEvent M G) :
    forwardings source earlier (history ++ [event]) =
      forwardings source earlier history ++
        forwardedIn (earlier ++ history) source event := by
  induction history generalizing earlier with
  | nil => simp [forwardings]
  | cons first history ih => simp [forwardings, ih]

theorem fst_forwardings (source : Peer M G)
    (earlier history : List (NetEvent M G)) :
    (forwardings source earlier history).map Prod.fst =
      history.flatMap (handledFrames source) := by
  induction history generalizing earlier with
  | nil => rfl
  | cons event history ih =>
      simp [forwardings, forwardedIn, ih, Function.comp_def]

/-- A reply of the controller is no data message. -/
theorem routedFrames_mgmt {src : Peer M G} {text : List Byte}
    {connected : Peer M G → Bool} {reply : Outgoing (Peer M G)}
    (hreply : reply.type = ascii "M") (source dest : Peer M G) :
    routedFrames source dest
      (.handles ⟨⟨src, ascii "M", text⟩, connected, [reply]⟩ :
        NetEvent M G) = [] := by
  rw [routedFrames, routed, routedTo, List.filterMap_map]
  apply List.filterMap_eq_nil_iff.mpr
  intro out hout
  obtain rfl := List.mem_singleton.mp (List.mem_of_mem_filter hout)
  simp [dataFrom, Outgoing.zmsg, hreply]

theorem routedFrames_step (reached : Runs (NetStep env) .init earlier s)
    (hstep : NetStep env s event s') (source dest : Peer M G) :
    routedFrames source dest event =
      (forwardedIn earlier source event).filterMap (frameFor dest) := by
  have hrepresents := represents_in reached
  cases hstep with
  | @handles event rest after hqueue hctrl =>
      have hmsg := (framed_of_run reached).toController _ _
        (by rw [hqueue]; exact List.mem_cons_self)
      obtain ⟨⟨src, type, payload⟩, connected, sent⟩ := event
      dsimp only at hmsg
      rcases hmsg with hframe | hmgmt
      · obtain ⟨packet⟩ := hframe
        obtain ⟨-, -, hsent⟩ := step_data hctrl rfl
        dsimp only at hsent
        rw [hrepresents.targetOf_eq] at hsent
        subst hsent
        rw [routedFrames, routed, filterMap_routedTo]
        by_cases hsrc : src = source
        · by_cases hdest : (registryIn earlier).route
              (destWord packet.frame) = some dest <;>
            simp [forwardedIn, handledFrames, handled, frameFor, routeOf,
              hsrc, hdest]
        · simp [forwardedIn, handledFrames, handled, hsrc]
      · obtain ⟨text⟩ := hmgmt
        obtain ⟨reply, hsent, hreply⟩ :=
          step_mgmt hrepresents.subnetAddr hctrl rfl
        dsimp only at hsent
        subst hsent
        rw [routedFrames_mgmt hreply]
        by_cases hsrc : src = source <;>
          simp [forwardedIn, handledFrames, handled, hsrc]
  | _ => rfl

theorem routedFrames_run (reached : Runs (NetStep env) .init earlier s)
    (run : Runs (NetStep env) s history s') (source dest : Peer M G) :
    history.flatMap (routedFrames source dest) =
      (forwardings source earlier history).filterMap (frameFor dest) := by
  induction run with
  | refl => rfl
  | @snoc history before after event run hstep ih =>
      rw [List.flatMap_append, List.flatMap_singleton, ih, forwardings_snoc,
        List.filterMap_append, routedFrames_step (reached.trans run) hstep]

end

/-! ## A gateway that comes late -/

def sendingInVain : List (NetEvent Unit Unit) :=
  [.sends () hostPacket, .passes () [ascii "D", hostPacket.frame],
    .handles ⟨⟨.hostmod (), ascii "D", hostPacket.frame⟩, allConnected, []⟩]

def comingLate : List (NetEvent Unit Unit) :=
  sendingInVain ++ (registering ++ carrying)

theorem runs_comingLate :
    ∃ net, Runs (NetStep fun _ => plainEnv) .init comingLate net := by
  exact ⟨_, (((((((((Runs.single (.sends rfl)).snoc (.passes rfl rfl)).snoc
    (.handles rfl rfl)).snoc (.manages _ _)).snoc (.handles rfl rfl)).snoc
    (.replied rfl)).snoc (.sends rfl)).snoc (.passes rfl rfl)).snoc
    (.handles rfl rfl)).snoc (.writes rfl rfl rfl)⟩

end Osd.Transport
