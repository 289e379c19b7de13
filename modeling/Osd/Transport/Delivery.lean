import Osd.Transport.Network

/-!
# Delivery of packets

Between one sender and one receiver the network is a FIFO channel: what was
sent is what arrived and what still waits in the queues between them.
-/

namespace Osd.Transport

open Osd.Foundation Osd.HostCtrl Osd.HostMod

variable {M G : Type} [DecidableEq M] [DecidableEq G]

/-! ## What an event does to a queue -/

/-- The queue in front of the thread that talks to the controller. -/
def ownQueue (s : Network M G) : Peer M G → List Zmsg
  | .hostmod m => s.toIoThread m
  | .gateway g => s.deviceRx g

namespace NetEvent

variable (peer : Peer M G)

def queued : NetEvent M G → List Zmsg
  | .sends m packet =>
      if .hostmod m = peer then [[ascii "D", packet.frame]] else []
  | .reads g packet => if .gateway g = peer then [devicerxMsg packet] else []
  | _ => []

def dequeued : NetEvent M G → List Zmsg
  | .passes m msg => if .hostmod m = peer then [msg] else []
  | .forwards g msg => if .gateway g = peer then [msg] else []
  | _ => []

/-- What enters the socket of the controller. -/
def submitted : NetEvent M G → List Zmsg
  | .manages p text => if p = peer then [[ascii "M", text]] else []
  | .passes m msg => if .hostmod m = peer then [msg] else []
  | .forwards g msg => if .gateway g = peer then [msg] else []
  | _ => []

def handled : NetEvent M G → List Zmsg
  | .handles event =>
      if event.msg.src = peer then [[event.msg.type, event.msg.payload]]
      else []
  | _ => []

def routed : NetEvent M G → List (Peer M G × Zmsg)
  | .handles event => routedTo peer event
  | _ => []

def arrived : NetEvent M G → List (Peer M G × Zmsg)
  | .replied p source msg => if p = peer then [(source, msg)] else []
  | .receives m source msg _ =>
      if .hostmod m = peer then [(source, msg)] else []
  | .writes g source frame _ =>
      if .gateway g = peer then [(source, [ascii "D", frame])] else []
  | _ => []

end NetEvent

open NetEvent

/-! ## Single queues -/

section Queues

variable {env : M → EventEnv}

theorem iothreadHandleInprocData_eq {msg out : Zmsg}
    (h : iothreadHandleInprocData msg = .ok out) : out = msg := by
  cases msg with
  | nil => cases h
  | cons name frames =>
      obtain ⟨-, hok⟩ := assertThat_bind_eq_ok.mp h
      exact (Except.ok.inj hok).symm

theorem conveys_ownQueue (peer : Peer M G) :
    Conveys (NetStep env) (fun s => ownQueue s peer) (queued peer)
      (dequeued peer) := by
  intro before event after hstep
  cases peer with
  | hostmod m =>
      cases hstep with
      | sends hmsg =>
          obtain ⟨-, hok⟩ := inBounds_bind_eq_ok.mp hmsg
          cases hok
          simp [ownQueue, queued, dequeued, push_apply]
      | passes hqueue hout =>
          obtain rfl := iothreadHandleInprocData_eq hout
          simpa [ownQueue, queued, dequeued] using (pop_apply hqueue m).symm
      | _ => simp [ownQueue, queued, dequeued]
  | gateway g =>
      cases hstep with
      | reads hread hround =>
          simp [ownQueue, queued, dequeued, push_apply]
      | forwards hqueue =>
          simpa [ownQueue, queued, dequeued] using (pop_apply hqueue g).symm
      | _ => simp [ownQueue, queued, dequeued]

theorem conveys_toController (peer : Peer M G) :
    Conveys (NetStep env) (fun s => s.toController peer)
      (submitted peer) (handled peer) := by
  intro before event after hstep
  cases hstep with
  | manages p text => exact (push_apply peer).symm
  | passes hqueue hout => exact (push_apply peer).symm
  | forwards hqueue => exact (push_apply peer).symm
  | handles hqueue hstep =>
      exact (List.append_nil _).trans (pop_apply hqueue peer).symm
  | _ => simp [submitted, handled]

theorem conveys_toPeer (peer : Peer M G) :
    Conveys (NetStep env) (fun s => s.toPeer peer)
      (routed peer) (arrived peer) := by
  intro before event after hstep
  cases hstep with
  | handles hqueue hstep => rfl
  | replied hsocket =>
      exact (List.append_nil _).trans (pop_apply hsocket peer).symm
  | receives hsocket hrcv =>
      exact (List.append_nil _).trans (pop_apply hsocket peer).symm
  | writes hsocket hpkg hwrite =>
      exact (List.append_nil _).trans (pop_apply hsocket peer).symm
  | _ => simp [routed, arrived]

end Queues

/-! ## What the queues hold -/

inductive DataMessage : Zmsg → Prop
  | intro (packet : Packet) : DataMessage [ascii "D", packet.frame]

inductive MgmtMessage : Zmsg → Prop
  | intro (text : List Byte) : MgmtMessage [ascii "M", text]

/-- Every data message holds the frame of a packet. -/
structure Framed (s : Network M G) : Prop where
  toIoThread : ∀ m, ∀ msg ∈ s.toIoThread m, DataMessage msg
  deviceRx : ∀ g, ∀ msg ∈ s.deviceRx g, DataMessage msg
  toController : ∀ peer, ∀ msg ∈ s.toController peer,
    DataMessage msg ∨ MgmtMessage msg
  toPeer : ∀ peer, ∀ entry ∈ s.toPeer peer,
    DataMessage entry.2 ∨ MgmtMessage entry.2

omit [DecidableEq M] [DecidableEq G] in
theorem framed_init : Framed (Network.init : Network M G) := by
  constructor <;> simp [Network.init]

theorem dataMessage_of_send {packet : Packet} {msg : Zmsg}
    (h : osdHostmodSendPacket packet = .ok msg) : DataMessage msg := by
  obtain ⟨-, hok⟩ := inBounds_bind_eq_ok.mp h
  cases hok
  exact .intro packet

section Controller

variable {Id : Type} [DecidableEq Id] {before after : Controller Id}
  {event : Event Id}

/-- A data message goes to the target of its destination, if there is one. -/
theorem step_data (h : Step before event after)
    (htype : event.msg.type.head? = some 68) :
    after = before ∧ WellSized event.msg.payload ∧
      event.sent = forwarded (targetOf before (destWord event.msg.payload))
        event.msg.payload := by
  have hroute := routeEntry_eq before (destWord_lt event.msg.payload)
  rw [Step, iothreadHandleExtMsg_data htype, processDataMsg_eq_ok hroute] at h
  obtain ⟨hsized, -, hresult⟩ := h
  obtain ⟨hafter, hsent⟩ := Prod.mk.inj hresult
  exact ⟨hafter, hsized, hsent⟩

omit [DecidableEq Id] in
theorem type_of_handled {src : Id} {request : Request}
    {reply : Outgoing Id} (h : Handled before src request after reply) :
    reply.type = ascii "M" := by
  cases h <;> rfl

theorem step_mgmt (hsubnet : before.subnetAddr = 1)
    (h : Step before event after) (htype : event.msg.type.head? = some 77) :
    ∃ reply, event.sent = [reply] ∧ reply.type = ascii "M" := by
  obtain ⟨reply, hsent, hhandled⟩ := h.handled hsubnet htype
  exact ⟨reply, hsent, type_of_handled hhandled⟩

end Controller

theorem framed_routedTo {before after : Controller (Peer M G)}
    {event : Event (Peer M G)} (hsubnet : before.subnetAddr = 1)
    (hmsg : DataMessage [event.msg.type, event.msg.payload] ∨
      MgmtMessage [event.msg.type, event.msg.payload])
    (h : Step before event after) {peer : Peer M G} :
    ∀ entry ∈ routedTo peer event,
      DataMessage entry.2 ∨ MgmtMessage entry.2 := by
  intro entry hentry
  obtain ⟨out, hout, rfl⟩ := List.mem_map.mp hentry
  have hsent := List.mem_of_mem_filter hout
  generalize htype : event.msg.type = type at hmsg
  generalize hpayload : event.msg.payload = payload at hmsg
  rcases hmsg with hdata | hmgmt
  · cases hdata with
    | intro packet =>
        obtain ⟨-, -, hforwarded⟩ := step_data h (by rw [htype]; rfl)
        rw [hforwarded, forwarded, hpayload] at hsent
        obtain ⟨host, -, rfl⟩ := List.mem_map.mp hsent
        exact .inl (.intro packet)
  · cases hmgmt with
    | intro text =>
        obtain ⟨reply, hreply, hM⟩ := step_mgmt hsubnet h (by rw [htype]; rfl)
        rw [hreply] at hsent
        obtain rfl := List.mem_singleton.mp hsent
        rw [Outgoing.zmsg, hM]
        exact .inr (.intro out.payload)

theorem Framed.step {env : M → EventEnv} {s s' : Network M G}
    {event : NetEvent M G} (h : Framed s)
    (hsubnet : s.controller.subnetAddr = 1)
    (hstep : NetStep env s event s') : Framed s' := by
  cases hstep with
  | manages peer text =>
      refine { h with toController := fun peer' msg hmsg => ?_ }
      rcases mem_push hmsg with hold | rfl
      · exact h.toController peer' msg hold
      · exact .inr (.intro text)
  | replied hsocket =>
      exact { h with
        toPeer := fun peer entry hentry =>
          h.toPeer peer entry (mem_pop hsocket hentry) }
  | sends hmsg =>
      refine { h with toIoThread := fun m msg hmem => ?_ }
      rcases mem_push hmem with hold | rfl
      · exact h.toIoThread m msg hold
      · exact dataMessage_of_send hmsg
  | @passes m msg out rest hqueue hout =>
      obtain rfl := iothreadHandleInprocData_eq hout
      refine { h with
        toIoThread := fun m' msg' hmem =>
          h.toIoThread m' msg' (mem_pop hqueue hmem)
        toController := fun peer msg' hmem => ?_ }
      rcases mem_push hmem with hold | rfl
      · exact h.toController peer msg' hold
      · exact .inl (h.toIoThread m msg' (by simp [hqueue]))
  | deviceSends g datagram => exact { h with }
  | reads hread hround =>
      refine { h with deviceRx := fun g msg hmem => ?_ }
      rcases mem_push hmem with hold | rfl
      · exact h.deviceRx g msg hold
      · exact .intro _
  | @forwards g msg rest hqueue =>
      refine { h with
        deviceRx := fun g' msg' hmem =>
          h.deviceRx g' msg' (mem_pop hqueue hmem)
        toController := fun peer msg' hmem => ?_ }
      rcases mem_push hmem with hold | rfl
      · exact h.toController peer msg' hold
      · exact .inl (h.deviceRx g msg' (by simp [hqueue]))
  | handles hqueue hgoes =>
      have hmsg := h.toController _ _ (by rw [hqueue]; exact List.mem_cons_self)
      refine { h with
        toController := fun peer msg hmem =>
          h.toController peer msg (mem_pop hqueue hmem)
        toPeer := fun peer entry hentry => ?_ }
      rcases List.mem_append.mp hentry with hold | hnew
      · exact h.toPeer peer entry hold
      · exact framed_routedTo hsubnet hmsg hgoes entry hnew
  | receives hsocket hrcv =>
      exact { h with
        toPeer := fun peer entry hentry =>
          h.toPeer peer entry (mem_pop hsocket hentry) }
  | takes hqueue htaken => exact { h with }
  | writes hsocket hpkg hwrite =>
      exact { h with
        toPeer := fun peer entry hentry =>
          h.toPeer peer entry (mem_pop hsocket hentry) }

/-! ## Runs -/

def controllerEvent : NetEvent M G → Option (Event (Peer M G))
  | .handles event => some event
  | _ => none

section Runs

variable {env : M → EventEnv} {history : List (NetEvent M G)}
  {s : Network M G}

/-- The network runs the controller that the tables are proved about. -/
theorem controller_run (run : Runs (NetStep env) .init history s) :
    Runs Step osdHostctrlNew (history.filterMap controllerEvent)
      s.controller := by
  induction run with
  | refl => exact .refl
  | @snoc history before after event run hstep ih =>
      rw [List.filterMap_append]
      cases hstep with
      | handles hqueue hgoes => exact ih.snoc hgoes
      | _ => simpa [List.filterMap_cons, controllerEvent] using ih

def registryIn (history : List (NetEvent M G)) : Registry (Peer M G) :=
  registryOf (history.filterMap controllerEvent)

theorem represents_in (run : Runs (NetStep env) .init history s) :
    Represents s.controller (registryIn history) :=
  represents_of_run (controller_run run)

theorem framed_of_run (run : Runs (NetStep env) .init history s) :
    Framed s :=
  run.invariant (I := fun _ s => Framed s) framed_init
    fun _ _ _ _ hrun hframed hstep =>
      hframed.step (represents_in hrun).subnetAddr hstep

end Runs

/-! ## Paths -/

def dataFrame : Zmsg → Option (List Byte)
  | [type, frame] => if type = ascii "D" then some frame else none
  | _ => none

/-- The frame of a data message of this sender. -/
def dataFrom (source : Peer M G) : Peer M G × Zmsg → Option (List Byte)
  | (source', msg) => if source' = source then dataFrame msg else none

/-- What a peer has sent and the controller has not handled. -/
def upstream (s : Network M G) (peer : Peer M G) : List (List Byte) :=
  (s.toController peer).filterMap dataFrame ++
    (ownQueue s peer).filterMap dataFrame

/-- What the controller has passed on from one peer to another one. -/
def downstream (s : Network M G) (source dest : Peer M G) :
    List (List Byte) :=
  (s.toPeer dest).filterMap (dataFrom source)

def sentFrames (peer : Peer M G) (event : NetEvent M G) : List (List Byte) :=
  (queued peer event).filterMap dataFrame

def handledFrames (peer : Peer M G) (event : NetEvent M G) :
    List (List Byte) :=
  (handled peer event).filterMap dataFrame

def routedFrames (source dest : Peer M G) (event : NetEvent M G) :
    List (List Byte) :=
  (routed dest event).filterMap (dataFrom source)

def arrivedFrames (source dest : Peer M G) (event : NetEvent M G) :
    List (List Byte) :=
  (arrived dest event).filterMap (dataFrom source)

@[simp] theorem dataFrame_data (frame : List Byte) :
    dataFrame [ascii "D", frame] = some frame := rfl

@[simp] theorem dataFrame_mgmt (text : List Byte) :
    dataFrame [ascii "M", text] = none := by
  have hne : ¬ascii "M" = ascii "D" := by decide
  simp [dataFrame, hne]

section Paths

variable {env : M → EventEnv}

theorem conveys_upstream (peer : Peer M G) :
    Conveys (NetStep env) (fun s => upstream s peer) (sentFrames peer)
      (handledFrames peer) := by
  have hnear : Conveys (NetStep env) _ (sentFrames peer) _ :=
    (conveys_ownQueue peer).filterMap dataFrame
  have hfar : Conveys (NetStep env) _ _ (handledFrames peer) :=
    (conveys_toController peer).filterMap dataFrame
  refine hnear.comp (hfar.congr ?_ fun _ _ _ _ => rfl)
  intro before event after hstep
  -- management messages enter the socket of the controller directly
  cases event with
  | manages p text => by_cases h : p = peer <;> simp [submitted, dequeued, h]
  | _ => rfl

theorem conveys_downstream (source dest : Peer M G) :
    Conveys (NetStep env) (fun s => downstream s source dest)
      (routedFrames source dest) (arrivedFrames source dest) :=
  (conveys_toPeer dest).filterMap (dataFrom source)

end Paths

/-! ## One sender and one receiver -/

/-- A step in which the controller handles no management message. -/
def DataStep (env : M → EventEnv) (s : Network M G) (event : NetEvent M G)
    (s' : Network M G) : Prop :=
  NetStep env s event s' ∧
    ∀ event', event = .handles event' → event'.msg.type.head? ≠ some 77

omit [DecidableEq M] [DecidableEq G] in
theorem not_handles (h : controllerEvent event = none) :
    ∀ event', event = .handles event' →
      event'.msg.type.head? ≠ some 77 := by
  rintro event' rfl
  cases h

omit [DecidableEq M] [DecidableEq G] in
theorem handles_data {event : Event (Peer M G)}
    (htype : event.msg.type = ascii "D") :
    ∀ event', NetEvent.handles event = .handles event' →
      event'.msg.type.head? ≠ some 77 := by
  rintro event' ⟨⟩
  rw [htype]
  decide

def Settled (ctrl : Controller (Peer M G)) (s : Network M G) : Prop :=
  Framed s ∧ ctrl.subnetAddr = 1 ∧ s.controller = ctrl

def isRoutedTo (ctrl : Controller (Peer M G)) (dest : Peer M G)
    (frame : List Byte) : Bool :=
  targetOf ctrl (destWord frame) = some dest

def onTheWay (ctrl : Controller (Peer M G)) (source dest : Peer M G)
    (s : Network M G) : List (List Byte) :=
  downstream s source dest ++
    (upstream s source).filter (isRoutedTo ctrl dest)

section Settled

variable {env : M → EventEnv} {ctrl : Controller (Peer M G)}
  {s s' : Network M G} {event : NetEvent M G}

theorem Settled.step (h : Settled ctrl s) (hstep : DataStep env s event s') :
    Settled ctrl s' := by
  obtain ⟨hframed, hsubnet, rfl⟩ := h
  obtain ⟨hgoes, hdata⟩ := hstep
  refine ⟨hframed.step hsubnet hgoes, hsubnet, ?_⟩
  cases hgoes with
  | handles hqueue hctrl => exact hctrl.unchanged (hdata _ rfl)
  | _ => rfl

theorem filterMap_routedTo (src source dest : Peer M G)
    (target : Option (Peer M G)) (frame : List Byte)
    (connected : Peer M G → Bool) :
    (routedTo dest ⟨⟨src, ascii "D", frame⟩, connected,
        forwarded target frame⟩).filterMap (dataFrom source) =
      if src = source ∧ target = some dest then [frame] else [] := by
  cases target with
  | none => simp [routedTo, forwarded]
  | some host =>
      by_cases hdest : host = dest
      · by_cases hsrc : src = source <;>
          simp [routedTo, forwarded, dataFrom, Outgoing.zmsg, hdest, hsrc]
      · simp [routedTo, forwarded, hdest]

/-- The controller passes a data message on to the target of its destination
and to nobody else. -/
theorem routedFrames_eq (h : Settled ctrl s)
    (hstep : DataStep env s event s') (source dest : Peer M G) :
    routedFrames source dest event =
      (handledFrames source event).filter (isRoutedTo ctrl dest) := by
  obtain ⟨hframed, -, rfl⟩ := h
  obtain ⟨hgoes, hdata⟩ := hstep
  cases hgoes with
  | @handles event rest after hqueue hctrl =>
      have hmsg := hframed.toController _ _
        (by rw [hqueue]; exact List.mem_cons_self)
      have hnot := hdata _ rfl
      obtain ⟨⟨src, type, payload⟩, connected, sent⟩ := event
      dsimp only at hmsg hnot
      rcases hmsg with hframe | hmgmt
      · obtain ⟨packet⟩ := hframe
        obtain ⟨-, -, hsent⟩ := step_data hctrl rfl
        dsimp only at hsent
        subst hsent
        rw [routedFrames, routed, filterMap_routedTo]
        by_cases hsrc : src = source
        · by_cases hdest : targetOf s.controller (destWord packet.frame) =
              some dest <;>
            simp [handledFrames, handled, isRoutedTo, hsrc, hdest]
        · simp [handledFrames, handled, hsrc]
      · obtain ⟨text⟩ := hmgmt
        exact absurd rfl hnot
  | _ => rfl

theorem conveys_onTheWay (source dest : Peer M G) :
    Conveys (Within (Settled ctrl) (DataStep env))
      (onTheWay ctrl source dest)
      (fun event => (sentFrames source event).filter (isRoutedTo ctrl dest))
      (arrivedFrames source dest) := by
  have hmono : ∀ before event after,
      Within (Settled ctrl) (DataStep env) before event after →
        NetStep env before event after := fun _ _ _ hstep => hstep.2.1
  have hnear := ((conveys_upstream source).filter (isRoutedTo ctrl dest)).mono
    hmono
  have hfar := (conveys_downstream source dest).mono hmono
  refine hnear.comp (hfar.congr ?_ fun _ _ _ _ => rfl)
  intro before event after hstep
  exact (routedFrames_eq hstep.1 hstep.2 source dest).symm

end Settled

/-! ## Whole runs -/

section Runs

variable {env : M → EventEnv} {earlier history : List (NetEvent M G)}
  {s s' : Network M G}

/-- The peer that the packet in a frame has to reach. -/
def routeOf (earlier : List (NetEvent M G)) (frame : List Byte) :
    Option (Peer M G) :=
  (registryIn earlier).route (destWord frame)

def sentTo (earlier history : List (NetEvent M G)) (source dest : Peer M G) :
    List (List Byte) :=
  (history.flatMap (sentFrames source)).filter fun frame =>
    routeOf earlier frame = some dest

def arrivedFrom (history : List (NetEvent M G)) (source dest : Peer M G) :
    List (List Byte) :=
  history.flatMap (arrivedFrames source dest)

theorem settled_of_run (reached : Runs (NetStep env) .init earlier s) :
    Settled s.controller s :=
  ⟨framed_of_run reached, (represents_in reached).subnetAddr, rfl⟩

theorem isRoutedTo_eq (reached : Runs (NetStep env) .init earlier s)
    {dest : Peer M G} :
    isRoutedTo s.controller dest =
      fun frame => decide (routeOf earlier frame = some dest) := by
  funext frame
  rw [isRoutedTo, (represents_in reached).targetOf_eq, routeOf]

/-- From any reachable state, as long as no management message is handled, the
data messages of one peer to another one arrive exactly once, in order and
unchanged, or they are still on their way. -/
theorem network_conveys
    (reached : Runs (NetStep env) .init earlier s)
    (run : Runs (DataStep env) s history s') (source dest : Peer M G) :
    onTheWay s.controller source dest s ++ sentTo earlier history source dest =
      arrivedFrom history source dest ++
        onTheWay s.controller source dest s' := by
  obtain ⟨hwithin, -⟩ := run.within (settled_of_run reached)
    fun _ _ _ hstep hbefore => hbefore.step hstep
  have hall := (conveys_onTheWay source dest).run hwithin
  rw [← List.filter_flatMap, isRoutedTo_eq reached] at hall
  exact hall

end Runs

/-! ## A packet from a host module to a device -/

def plainEnv : EventEnv := ⟨bumpAllocator, false, false⟩

def allConnected : Peer Unit Unit → Bool := fun _ => true

/-- An event for the module 0.5. -/
def hostPacket : Packet := ⟨4, [5, 0x400, 0x8000, 97]⟩

/-- A gateway registers for subnet 0. -/
def registering : List (NetEvent Unit Unit) :=
  [.manages (.gateway ()) (ascii "GW_REGISTER 0"),
    .handles ⟨⟨.gateway (), ascii "M", ascii "GW_REGISTER 0"⟩, allConnected,
      [mgmtSendAck (.gateway ())]⟩,
    .replied (.gateway ()) (.gateway ()) [ascii "M", ascii "ACK"]]

/-- A host module gets the address 1.1, and a gateway registers for
subnet 0. -/
def joining : List (NetEvent Unit Unit) :=
  [.manages (.hostmod ()) (ascii "DIADDR_REQUEST"),
    .handles ⟨⟨.hostmod (), ascii "M", ascii "DIADDR_REQUEST"⟩, allConnected,
      [mgmtReply (.hostmod ()) (ascii "1025")]⟩,
    .replied (.hostmod ()) (.hostmod ()) [ascii "M", ascii "1025"]] ++
      registering

def carrying : List (NetEvent Unit Unit) :=
  [.sends () hostPacket, .passes () [ascii "D", hostPacket.frame],
    .handles ⟨⟨.hostmod (), ascii "D", hostPacket.frame⟩, allConnected,
      [⟨.gateway (), ascii "D", hostPacket.frame⟩]⟩,
    .writes () (.hostmod ()) hostPacket.frame hostPacket]

theorem runs_carrying :
    ∃ s s', Runs (NetStep fun _ => plainEnv) .init registering s ∧
      Runs (DataStep fun _ => plainEnv) s carrying s' := by
  exact ⟨_, _, ((Runs.single (.manages _ _)).snoc
      (.handles rfl rfl)).snoc (.replied rfl),
    (((Runs.single ⟨.sends rfl, not_handles rfl⟩).snoc
      ⟨.passes rfl rfl, not_handles rfl⟩).snoc ⟨.handles rfl rfl, handles_data rfl⟩).snoc
        ⟨.writes rfl rfl rfl, not_handles rfl⟩⟩

theorem network_conveys_one_packet :
    ∃ s s' : Network Unit Unit,
      Runs (DataStep fun _ => plainEnv) s carrying s' ∧
      onTheWay s.controller (.hostmod ()) (.gateway ()) s ++
          sentTo registering carrying (.hostmod ()) (.gateway ()) =
        [hostPacket.frame] ++
          onTheWay s.controller (.hostmod ()) (.gateway ()) s' := by
  obtain ⟨s, s', reached, run⟩ := runs_carrying
  exact ⟨s, s', run, network_conveys reached run (.hostmod ()) (.gateway ())⟩

end Osd.Transport
