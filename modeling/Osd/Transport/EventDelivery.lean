import Osd.HostMod.SetBit
import Osd.HostMod.Sources
import Osd.Transport.Devices

/-!
# Events on their way to a handler

A module splits an event into packets, which mix with the packets of other
modules on the way.  The handler of the host module that the event is for gets
it once, whole and in order.
-/

namespace Osd.Transport

open Osd.Foundation Osd.HostCtrl Osd.HostMod NetEvent

variable {M G : Type}

/-! ## What the handlers get -/

/-- The packet that `iothread_handle_in_data_msg` calls the event handler
with. -/
def handlerPacket (env : EventEnv) (ctx : EventCtx) : Zmsg → Option Packet
  | _ :: dataFrame :: _ =>
      match osdPacketNewFromZframe dataFrame with
      | .error _ => none
      | .ok pkg =>
          match osdPacketGetType pkg, receiveEvent env ctx pkg with
          | .ok type, .ok (some (.toHandler fwdPkg), _) =>
              if type = osdPacketTypeEvent then some fwdPkg else none
          | _, _ => none
  | _ => none

def handledIn (env : M → EventEnv) (s : Network M G) :
    NetEvent M G → List (M × Packet)
  | .receives m _ msg _ =>
      ((handlerPacket (env m) (s.ctx m) msg).map (Prod.mk m)).toList
  | _ => []

variable [DecidableEq M] [DecidableEq G]

/-- A step without management messages, with what the handlers get. -/
def HandlingStep (env : M → EventEnv) (s : Network M G)
    (event : NetEvent M G × List (M × Packet)) (s' : Network M G) : Prop :=
  DataStep env s event.1 s' ∧ event.2 = handledIn env s event.1

omit [DecidableEq G] in
def handledBy (m : M) (history : List (NetEvent M G × List (M × Packet))) :
    List Packet :=
  (history.flatMap Prod.snd).filterMap fun entry =>
    if entry.1 = m then some entry.2 else none

/-- The packet in a frame, if it is an event. -/
def eventIn (frame : List Byte) : Option DiPacket :=
  match osdPacketNewFromZframe frame with
  | .error _ => none
  | .ok pkg =>
      (HostMod.requestOf pkg).filter fun packet =>
        typeOfFlags packet.flags = osdPacketTypeEvent

/-- The data that arrive at a peer, with their senders. -/
def arrivals (dest : Peer M G) (event : NetEvent M G) :
    List (Peer M G × List Byte) :=
  (arrived dest event).filterMap fun entry =>
    (dataFrame entry.2).map (Prod.mk entry.1)

def arrivedEvents (m : M) (events : List (NetEvent M G)) : List DiPacket :=
  (events.flatMap (arrivals (.hostmod m))).filterMap fun entry =>
    eventIn entry.2

/-- An event of at most two packets that fits into one. -/
def TwoParts (parts : List DiPacket) (last : DiPacket) : Prop :=
  parts.length ≤ 1 ∧ (payloadOf (parts ++ [last])).length + 3 < 2 ^ 16

instance (parts : List DiPacket) (last : DiPacket) :
    Decidable (TwoParts parts last) :=
  inferInstanceAs (Decidable (_ ∧ _))

/-! ## One message -/

section Message

variable {env : EventEnv} {ctx : EventCtx}

theorem toPacket_of_getType {pkg : Packet} {type : Nat}
    (hsized : Gateway.Packet.Sized pkg)
    (htype : osdPacketGetType pkg = .ok type) :
    ∃ packet : DiPacket, pkg = packet.toPacket ∧
      typeOfFlags packet.flags = type := by
  have hheader := header_of_getType htype
  have hlength := hsized.size
  have hsmall := pkg.dataSizeWords.toNat_lt
  obtain ⟨size, raw⟩ := pkg
  dsimp only at hheader hlength hsmall
  rw [packetHeaderWordCnt] at hheader
  obtain _ | ⟨dest, _ | ⟨src, _ | ⟨flags, payload⟩⟩⟩ := raw
  · simp at hlength; omega
  · simp at hlength; omega
  · simp at hlength; omega
  · simp only [List.length_cons] at hlength
    have hpkg : (⟨size, dest :: src :: flags :: payload⟩ : Packet) =
        (⟨dest, src, flags, payload, by omega⟩ : DiPacket).toPacket := by
      simp only [DiPacket.toPacket, Packet.mk.injEq, and_true]
      apply UInt16.toNat_inj.mp
      rw [← hlength, UInt16.toNat_ofNat']
      omega
    refine ⟨_, hpkg, ?_⟩
    rw [hpkg, DiPacket.getType_toPacket] at htype
    exact Except.ok.inj htype

theorem eventIn_eq {frame : List Byte} {packet : DiPacket}
    (hnew : osdPacketNewFromZframe frame = .ok packet.toPacket) :
    eventIn frame =
      if typeOfFlags packet.flags = osdPacketTypeEvent then some packet
      else none := by
  unfold eventIn
  rw [hnew]
  dsimp only
  rw [requestOf_toPacket]
  by_cases htype : typeOfFlags packet.flags = osdPacketTypeEvent <;>
    simp [Option.filter, htype]

theorem rcvFromHostctrl_other {frame : List Byte} {packet : DiPacket}
    (hnew : osdPacketNewFromZframe frame = .ok packet.toPacket)
    (htype : typeOfFlags packet.flags ≠ osdPacketTypeEvent) :
    iothreadRcvFromHostctrl env ctx [ascii "D", frame] =
        .ok (some [ascii "D", frame], ctx) ∧
      handlerPacket env ctx [ascii "D", frame] = none := by
  constructor
  · unfold iothreadRcvFromHostctrl
    dsimp only
    rw [if_pos rfl]
    unfold iothreadHandleInDataMsg osdPacketNewFromFrame
    dsimp only
    rw [hnew]
    dsimp only [assertsIn, bind, Except.bind]
    rw [DiPacket.getType_toPacket]
    dsimp only [outside]
    rw [if_neg htype]
  · unfold handlerPacket
    dsimp only
    rw [hnew]
    dsimp only
    rw [DiPacket.getType_toPacket]
    split
    · rename_i hok _
      rw [← Except.ok.inj hok, if_neg htype]
    · rfl

/-- An event is delivered as the pending parts say. -/
theorem rcvFromHostctrl_event {frame : List Byte} {packet : DiPacket}
    {entries : List (Address × DiPacket)}
    (hnew : osdPacketNewFromZframe frame = .ok packet.toPacket)
    (htype : typeOfFlags packet.flags = osdPacketTypeEvent)
    (hhandler : env.eventHandler = true) (hbuffered : Buffered ctx entries)
    (hparts : packet.typeSub = evLast →
      TwoParts (partsOf (entries.map Prod.snd) packet) packet) :
    ∃ ctx' entries',
      iothreadRcvFromHostctrl env ctx [ascii "D", frame] =
        .ok (none, ctx') ∧
      handlerPacket env ctx [ascii "D", frame] =
        expectedDelivery (entries.map Prod.snd) packet ∧
      Buffered ctx' entries' ∧
      entries'.map Prod.snd =
        pendingAfter (entries.map Prod.snd) packet := by
  obtain ⟨ctx', entries', hreceive, hafter, hpending⟩ := receiveEvent_eq env
    hbuffered (fun hlast => (hparts hlast).1) (fun hlast => (hparts hlast).2)
  have hdeliver : ∀ delivered, env.deliver delivered = .toHandler delivered :=
    fun delivered => if_pos hhandler
  refine ⟨ctx', entries', ?_, ?_, hafter, hpending⟩
  · unfold iothreadRcvFromHostctrl
    dsimp only
    rw [if_pos rfl]
    unfold iothreadHandleInDataMsg osdPacketNewFromFrame
    dsimp only
    rw [hnew]
    dsimp only [assertsIn, bind, Except.bind]
    rw [DiPacket.getType_toPacket]
    dsimp only [outside]
    rw [if_pos htype, hreceive]
    cases expectedDelivery (entries.map Prod.snd) packet with
    | none => rfl
    | some delivered =>
        dsimp only [Option.map_some]
        rw [hdeliver]
  · unfold handlerPacket
    dsimp only
    rw [hnew]
    dsimp only
    rw [DiPacket.getType_toPacket, hreceive]
    cases expectedDelivery (entries.map Prod.snd) packet with
    | none => rfl
    | some delivered =>
        dsimp only [Option.map_some]
        rw [hdeliver]
        dsimp only
        rw [if_pos htype]

end Message

/-! ## Whole runs -/

section Runs

variable {env : M → EventEnv} {s s' : Network M G} {m : M}
  {history : List (NetEvent M G × List (M × Packet))}

/-- The buffer holds the pending parts of the events that arrived, and the
handler got the others. -/
structure Collected (m : M) (s : Network M G)
    (history : List (NetEvent M G × List (M × Packet))) : Prop where
  buffer : ∃ entries, Buffered (s.ctx m) entries ∧
    entries.map Prod.snd = pendingOf (arrivedEvents m (history.map Prod.fst))
  handled : handledBy m history =
    (expectedDeliveries [] (arrivedEvents m
      (history.map Prod.fst))).reduceOption

theorem arrivedEvents_snoc (m : M) (events : List (NetEvent M G))
    (event : NetEvent M G) :
    arrivedEvents m (events ++ [event]) = arrivedEvents m events ++
      (arrivals (.hostmod m) event).filterMap fun entry =>
        eventIn entry.2 := by
  unfold arrivedEvents
  rw [List.flatMap_append, List.filterMap_append, List.flatMap_singleton]

omit [DecidableEq G] in
theorem handledBy_snoc (m : M)
    (history : List (NetEvent M G × List (M × Packet)))
    (event : NetEvent M G × List (M × Packet)) :
    handledBy m (history ++ [event]) = handledBy m history ++
      event.2.filterMap fun entry =>
        if entry.1 = m then some entry.2 else none := by
  unfold handledBy
  rw [List.flatMap_append, List.filterMap_append, List.flatMap_singleton]

theorem data_of_received {frame : List Byte}
    {result : Option Zmsg × EventCtx} {ctx : EventCtx} {env : EventEnv}
    {packet : Packet} (hframe : packet.frame = frame)
    (h : iothreadRcvFromHostctrl env ctx [ascii "D", frame] = .ok result) :
    ∃ packet : DiPacket,
      osdPacketNewFromZframe frame = .ok packet.toPacket := by
  unfold iothreadRcvFromHostctrl at h
  dsimp only at h
  rw [if_pos rfl] at h
  obtain ⟨pkg, hnew, hrest⟩ := bind_eq_ok.mp h
  obtain ⟨type, htype, -⟩ := bind_eq_ok.mp hrest
  rw [osdPacketNewFromFrame, assertsIn_eq_ok] at hnew
  rw [outside_eq_ok] at htype
  rw [← hframe] at hnew
  obtain ⟨di, rfl, -⟩ :=
    toPacket_of_getType (newFromZframe_frame hnew).1 htype
  exact ⟨di, hframe ▸ hnew⟩

omit [DecidableEq G] in
theorem handledIn_receives (m m' : M) (source : Peer M G) (msg : Zmsg)
    (outMsg : Option Zmsg) (s : Network M G) :
    ((handledIn env s (.receives m' source msg outMsg)).filterMap
      fun entry => if entry.1 = m then some entry.2 else none) =
      if m' = m then (handlerPacket (env m) (s.ctx m) msg).toList else [] := by
  unfold handledIn
  dsimp only
  by_cases hm : m' = m
  · subst hm
    generalize handlerPacket (env m') (s.ctx m') msg = handled
    cases handled <;> simp
  · generalize handlerPacket (env m') (s.ctx m') msg = handled
    cases handled <;> simp [hm]

theorem arrivals_receives (m m' : M) (source : Peer M G) (frame : List Byte)
    (outMsg : Option Zmsg) :
    arrivals (.hostmod m) (.receives m' source [ascii "D", frame] outMsg) =
      if m' = m then [(source, frame)] else [] := by
  by_cases hm : m' = m <;> simp [arrivals, arrived, hm]

/-- A step in which no event arrives at the module. -/
theorem Collected.same {event : NetEvent M G × List (M × Packet)}
    (h : Collected m s history) (hctx : s'.ctx m = s.ctx m)
    (harrivals : ((arrivals (.hostmod m) event.1).filterMap fun entry =>
      eventIn entry.2) = [])
    (hhandled : (event.2.filterMap fun entry =>
      if entry.1 = m then some entry.2 else none) = []) :
    Collected m s' (history ++ [event]) := by
  have hevents : arrivedEvents m ((history ++ [event]).map Prod.fst) =
      arrivedEvents m (history.map Prod.fst) := by
    rw [List.map_append, List.map_singleton, arrivedEvents_snoc, harrivals,
      List.append_nil]
  constructor
  · rw [hctx, hevents]
    exact h.buffer
  · rw [hevents, handledBy_snoc, hhandled, List.append_nil]
    exact h.handled

theorem Collected.receives {source : Peer M G} {frame : List Byte}
    {outMsg : Option Zmsg} {di : DiPacket} {ctx : EventCtx}
    (h : Collected m s history)
    (hnew : osdPacketNewFromZframe frame = .ok di.toPacket)
    (hrcv : iothreadRcvFromHostctrl (env m) (s.ctx m) [ascii "D", frame] =
      .ok (outMsg, ctx)) (hctx : s'.ctx m = ctx)
    (hhandler : (env m).eventHandler = true)
    (hparts : AtLast TwoParts [] (arrivedEvents m
      ((history.map Prod.fst) ++
        [.receives m source [ascii "D", frame] outMsg]))) :
    Collected m s' (history ++
      [(.receives m source [ascii "D", frame] outMsg,
        handledIn env s (.receives m source [ascii "D", frame] outMsg))]) := by
  have hevent := eventIn_eq hnew
  by_cases htype : typeOfFlags di.flags = osdPacketTypeEvent
  · rw [if_pos htype] at hevent
    have hevents : arrivedEvents m (history.map Prod.fst ++
        [.receives m source [ascii "D", frame] outMsg]) =
        arrivedEvents m (history.map Prod.fst) ++ [di] := by
      rw [arrivedEvents_snoc, arrivals_receives, if_pos rfl]
      simp [hevent]
    rw [hevents] at hparts
    obtain ⟨entries, hbuffered, hpending⟩ := h.buffer
    have hlast := hparts.last
    obtain ⟨ctx', entries', hgoes, hdelivered, hafter, hpending'⟩ :=
      rcvFromHostctrl_event hnew htype hhandler hbuffered
        (by rw [hpending]; exact hlast)
    rw [hgoes] at hrcv
    cases hrcv
    constructor
    · refine ⟨entries', hctx ▸ hafter, ?_⟩
      rw [List.map_append, List.map_singleton, hevents, pendingOf,
        List.foldl_append, hpending', hpending]
      rfl
    · rw [List.map_append, List.map_singleton, hevents, handledBy_snoc,
        handledIn_receives, if_pos rfl, hdelivered, hpending, h.handled,
        expectedDeliveries_snoc, List.reduceOption_append]
      rw [pendingOf]
      cases expectedDelivery
        ((arrivedEvents m (history.map Prod.fst)).foldl pendingAfter []) di <;>
        rfl
  · rw [if_neg htype] at hevent
    obtain ⟨hgoes, hnone⟩ := rcvFromHostctrl_other hnew htype
    rw [hgoes] at hrcv
    cases hrcv
    refine h.same hctx ?_ ?_
    · rw [arrivals_receives, if_pos rfl]
      simp [hevent]
    · rw [handledIn_receives, if_pos rfl, hnone]
      rfl

theorem Collected.step {event : NetEvent M G × List (M × Packet)}
    (h : Collected m s history) (hframed : Framed s)
    (hhandler : (env m).eventHandler = true)
    (hparts : AtLast TwoParts [] (arrivedEvents m
      ((history ++ [event]).map Prod.fst)))
    (hstep : HandlingStep env s event s') :
    Collected m s' (history ++ [event]) := by
  obtain ⟨event, handled⟩ := event
  obtain ⟨⟨hgoes, -⟩, hhandled⟩ := hstep
  dsimp only at hgoes hhandled
  subst hhandled
  cases hgoes with
  | @receives m' source msg rest outMsg ctx hsocket hrcv =>
      have hmsg := hframed.toPeer _ _
        (by rw [hsocket]; exact List.mem_cons_self)
      rcases hmsg with hdata | hmgmt
      · dsimp only at hdata
        generalize hall : msg = whole at hdata
        obtain ⟨packet⟩ := hdata
        subst hall
        obtain ⟨di, hnew⟩ := data_of_received rfl hrcv
        by_cases hm : m' = m
        · subst hm
          rw [List.map_append] at hparts
          exact h.receives hnew hrcv (Function.update_self ..) hhandler hparts
        · refine h.same (Function.update_of_ne (Ne.symm hm) _ _) ?_ ?_
          · rw [arrivals_receives, if_neg hm]
            rfl
          · rw [handledIn_receives, if_neg hm]
      · dsimp only at hmgmt
        generalize hall : msg = whole at hmgmt
        obtain ⟨text⟩ := hmgmt
        subst hall
        exact absurd hrcv (rcvFromHostctrl_mgmt _ _ _ _)
  | @replied peer source text rest hsocket =>
      refine h.same rfl ?_ (by simp [handledIn])
      by_cases hpeer : peer = .hostmod m <;> simp [arrivals, arrived, hpeer]
  | _ => exact h.same rfl rfl (by simp [handledIn])

theorem settled_handling {ctrl : Controller (Peer M G)}
    {event : NetEvent M G × List (M × Packet)} (h : Settled ctrl s)
    (hstep : HandlingStep env s event s') : Settled ctrl s' :=
  h.step hstep.1

theorem collected_of_run {earlier : List (NetEvent M G)}
    (reached : Runs (NetStep env) .init earlier s)
    (hempty : Buffered (s.ctx m) []) (hhandler : (env m).eventHandler = true)
    (run : Runs (HandlingStep env) s history s')
    (hparts : AtLast TwoParts [] (arrivedEvents m (history.map Prod.fst))) :
    Collected m s' history := by
  obtain ⟨hwithin, -⟩ := run.within (settled_of_run reached)
    fun _ _ _ hstep hbefore => settled_handling hbefore hstep
  clear run
  induction hwithin with
  | refl => exact ⟨⟨[], hempty, rfl⟩, rfl⟩
  | snoc _ hstep ih =>
      have hall := hparts
      rw [List.map_append, List.map_singleton, arrivedEvents_snoc] at hall
      exact (ih hall.front).step hstep.1.1 hhandler hparts hstep.2

/-- The events of a module among some frames. -/
def eventsFrom (src : Word) (frames : List (List Byte)) : List DiPacket :=
  fromSource src (frames.filterMap eventIn)

/-- The events of a module come from one peer. -/
theorem arrivedEvents_fromSource {events : List (NetEvent M G)}
    {src : Word} {source : Peer M G}
    (honly : ∀ other, other ≠ source →
      eventsFrom src (arrivedFrom events other (.hostmod m)) = []) :
    fromSource src (arrivedEvents m events) =
      eventsFrom src (arrivedFrom events source (.hostmod m)) := by
  have hfrom : ∀ other, arrivedFrom events other (.hostmod m) =
      (events.flatMap (arrivals (.hostmod m))).filterMap fun entry =>
        if entry.1 = other then some entry.2 else none := by
    intro other
    rw [arrivedFrom, List.filterMap_flatMap]
    congr 1
    funext event
    rw [arrivedFrames, arrivals, List.filterMap_filterMap]
    congr 1
    funext entry
    obtain ⟨peer, msg⟩ := entry
    by_cases hpeer : peer = other <;>
      cases hframe : dataFrame msg <;> simp [dataFrom, hpeer, hframe]
  simp only [eventsFrom, fromSource, arrivedEvents, hfrom] at honly ⊢
  generalize events.flatMap (arrivals (.hostmod m)) = entries at honly ⊢
  rw [List.filter_filterMap, List.filterMap_filterMap,
    List.filter_filterMap]
  apply List.filterMap_congr
  intro entry hentry
  by_cases hsource : entry.1 = source
  · simp [hsource]
  · have hnone := honly entry.1 hsource
    rw [List.filterMap_filterMap, List.filter_eq_nil_iff] at hnone
    cases hevent : eventIn entry.2 with
    | none => simp [hsource]
    | some packet =>
        have hother := hnone packet
          (List.mem_filterMap.mpr ⟨entry, hentry, by simp [hevent]⟩)
        simpa [hsource] using hother

end Runs

/-! ## An event in two packets -/

def handlerEnv : EventEnv := ⟨bumpAllocator, false, true⟩

/-- A part of an event of the module 0.5 for the host module 1.1. -/
def tracePart (typeSub : Nat) (first second : Word) : DiPacket :=
  ⟨1025, 5, flagsWithTypeSub eventFlags typeSub, [first, second], by simp⟩

def traceStart : DiPacket := tracePart evCont 0x5678 0x1234

def traceEnd : DiPacket := tracePart evLast 4 72

def partArrives (packet : DiPacket) (datagram : Gateway.Datagram)
    (handled : List (Unit × Packet)) :
    List (NetEvent Unit Unit × List (Unit × Packet)) :=
  [(.deviceSends () datagram, []), (.reads () packet.toPacket, []),
    (.forwards () [ascii "D", packet.toPacket.frame], []),
    (.handles ⟨⟨.gateway (), ascii "D", packet.toPacket.frame⟩, allConnected,
      [⟨.hostmod (), ascii "D", packet.toPacket.frame⟩]⟩, []),
    (.receives () (.gateway ()) [ascii "D", packet.toPacket.frame] none,
      handled)]

def tracing : List (NetEvent Unit Unit × List (Unit × Packet)) :=
  partArrives traceStart
      ⟨traceStart.toPacket.dataRaw, by decide, by decide⟩ [] ++
    partArrives traceEnd
      ⟨traceEnd.toPacket.dataRaw, by decide, by decide⟩
      [((), assembled [traceStart] traceEnd)]

theorem runs_tracing :
    ∃ net, Runs (NetStep fun _ => handlerEnv) .init joining net ∧
      Buffered (net.ctx ()) [] ∧
      onTheWayFromDevice net.controller () (.hostmod ()) net = [] ∧
      ∃ net', Runs (HandlingStep fun _ => handlerEnv) net tracing net' := by
  exact ⟨_, ((((Runs.single (.manages _ _)).snoc (.handles rfl rfl)).snoc
      (.replied rfl)).snoc (.manages _ _)).snoc (.handles rfl rfl) |>.snoc
        (.replied rfl), buffered_empty, rfl,
    _, (((((((((Runs.single ⟨⟨.deviceSends _ _, not_handles rfl⟩, rfl⟩).snoc
      ⟨⟨.reads rfl rfl, not_handles rfl⟩, rfl⟩).snoc
      ⟨⟨.forwards rfl, not_handles rfl⟩, rfl⟩).snoc
      ⟨⟨.handles rfl rfl, handles_data rfl⟩, rfl⟩).snoc
      ⟨⟨.receives rfl rfl, not_handles rfl⟩, rfl⟩).snoc
      ⟨⟨.deviceSends _ _, not_handles rfl⟩, rfl⟩).snoc
      ⟨⟨.reads rfl rfl, not_handles rfl⟩, rfl⟩).snoc
      ⟨⟨.forwards rfl, not_handles rfl⟩, rfl⟩).snoc
      ⟨⟨.handles rfl rfl, handles_data rfl⟩, rfl⟩).snoc
      ⟨⟨.receives rfl rfl, not_handles rfl⟩, rfl⟩⟩

theorem arrivedEvents_tracing :
    arrivedEvents () (tracing.map Prod.fst) =
      [traceStart, traceEnd] := by
  decide

end Osd.Transport
