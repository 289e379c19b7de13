import Osd.Transport.Placement

/-!
# Accesses are atomic

Every run of register accesses over the network is a run of atomic accesses
with the same calls, services and returns.
-/

namespace Osd.Transport

open Osd.Foundation Osd.HostCtrl Osd.HostMod NetEvent

variable {M G δ : Type} [DecidableEq M] [DecidableEq G]

/-! ## Steps of the main threads and of the devices -/

section Steps

variable {env : M → EventEnv} {ctrl : Controller (Peer M G)}
  {addr : M → Word} {s : AccessNetwork M G δ} {net : Network M G}
  {event : NetEvent M G} {stages : M → Stage G}
  {inputs : G → List (M × Packet)}

theorem Tracks.withDevices (h : Tracks ctrl addr s inputs stages)
    (devices : G → δ) :
    Tracks ctrl addr { s with devices } inputs stages where
  settled := h.settled
  boundary := h.boundary
  consumed := h.consumed
  input := h.input
  sized := h.sized
  noGateway := h.noGateway
  placed := fun m => (h.placed m).frame rfl (fun _ => rfl) (fun _ => rfl)
    (fun _ => rfl) rfl

omit [DecidableEq G] in
theorem Stage.eq_idle {stage : Stage G} (h : stage.phase.access = none) :
    stage = .idle := by
  cases stage with
  | idle => rfl
  | _ => cases h

/-- Where the request of a call goes. -/
def requestStage (ctrl : Controller (Peer M G)) (access : Access)
    (req : DiPacket) : Stage G :=
  match targetOf ctrl access.diaddr.toNat with
  | some (.gateway g) => .requested access g req
  | _ => .lost access

omit [DecidableEq M] [DecidableEq G] in
theorem phase_requestStage (access : Access) (req : DiPacket) :
    (requestStage ctrl access req).phase = .requested access := by
  unfold requestStage
  split <;> rfl

theorem requestTo_requestStage (access : Access) (req : DiPacket) (g : G) :
    (requestStage ctrl access req).requestTo g =
      if targetOf ctrl access.diaddr.toNat = some (.gateway g) then
        [req.toPacket.frame] else [] := by
  unfold requestStage
  cases targetOf ctrl access.diaddr.toNat with
  | none => simp [Stage.requestTo]
  | some peer => cases peer <;> simp [Stage.requestTo]

theorem Tracks.called (h : Tracks ctrl addr s inputs stages) {m : M}
    {access : Access} {pkgReq : Packet} (hidle : s.calls m = none)
    (hpkg : access.request (addr m) = .ok pkgReq)
    (hremote : ∀ m', targetOf ctrl access.diaddr.toNat ≠
      some (.hostmod m'))
    (hnet : NetStep env s.net (.sends m pkgReq) net) :
    stages m = .idle ∧ ∃ req, Tracks ctrl addr
      { s with net, calls := Function.update s.calls m (some access) }
      inputs (Function.update stages m (requestStage ctrl access req)) := by
  have hplaced := h.placed m
  have hstage := Stage.eq_idle (hplaced.call.symm.trans hidle)
  rw [hstage] at hplaced
  obtain ⟨req, rfl, hdest, -⟩ := request_ok hpkg
  have hdata : DataStep env s.net (.sends m req.toPacket) net :=
    ⟨hnet, not_handles rfl⟩
  have hrouted : ∀ dest, isRoutedTo ctrl dest req.toPacket.frame =
      decide (targetOf ctrl access.diaddr.toNat = some dest) := by
    intro dest
    rw [isRoutedTo, destWord_toPacket, hdest]
  have hflow : ∀ m' dest, onTheWay ctrl (.hostmod m') dest net =
      onTheWay ctrl (.hostmod m') dest s.net ++
        if m = m' ∧ targetOf ctrl access.diaddr.toNat = some dest then
          [req.toPacket.frame] else [] := by
    intro m' dest
    have hall := h.conveys hdata (.hostmod m') dest
    by_cases hm : m = m'
    · by_cases htarget : targetOf ctrl access.diaddr.toNat = some dest <;>
        simpa [sentFrames, queued, arrivedFrames, arrived, hm, hrouted,
          htarget] using hall.symm
    · simpa [sentFrames, queued, arrivedFrames, arrived, hm] using hall.symm
  have hback : ∀ g dest, onTheWayFromDevice ctrl g dest net =
      onTheWayFromDevice ctrl g dest s.net := by
    intro g dest
    have hall := h.conveysFromDevice hdata g dest
    simpa [deviceSent, arrivedFrames, arrived] using hall.symm
  have htoDevice : net.toDevice = s.net.toDevice := by
    cases hnet
    rfl
  have htoMain : net.toMain = s.net.toMain := by
    cases hnet
    rfl
  refine ⟨hstage, req, ?_⟩
  constructor
  · exact h.settled.step hdata
  · exact h.boundary.step hnet
  · simpa [htoDevice] using h.consumed
  · simpa [AccessNetwork.input, htoDevice] using h.input
  · exact h.sized
  · intro g g'
    exact (hback g _).trans (h.noGateway g g')
  · apply placed_update
    · constructor
      · dsimp only
        rw [Function.update_self, phase_requestStage]
        rfl
      · unfold requestStage
        split
        · exact .requested hpkg
        · exact .lost access
      · intro g
        have hnone : requestsTo ctrl s inputs m g = [] := hplaced.request g
        have hsame : requestsTo ctrl
            { s with net, calls := Function.update s.calls m (some access) }
            inputs m g =
            requestsTo ctrl s inputs m g ++
              if targetOf ctrl access.diaddr.toNat = some (.gateway g) then
                [req.toPacket.frame] else [] := by
          rw [requestsTo, requestsTo, List.append_assoc, hflow]
          simp
        rw [hsame, hnone, List.nil_append, requestTo_requestStage]
      · intro m'
        dsimp only
        rw [hflow, if_neg (fun hm => hremote m' hm.2), List.append_nil]
        exact hplaced.noHostmod m'
      · intro g
        refine ((hback g _).trans (hplaced.answer g)).trans ?_
        unfold requestStage
        split <;> rfl
      · refine ((congrFun htoMain m).trans hplaced.toMain).trans ?_
        unfold requestStage
        split <;> rfl
    · intro m' hm
      have hm' : ¬m = m' := fun heq => hm heq.symm
      refine (h.placed m').frame ?_ (fun g => ?_) (fun m'' => ?_)
        (fun g => hback g _) (congrFun htoMain m')
      · exact Function.update_of_ne hm _ _
      · rw [requestsTo, requestsTo, hflow]
        simp [hm']
      · simp [hflow, hm']

/-- The first packet of an input is the request of a call. -/
theorem Tracks.head (h : Tracks ctrl addr s inputs stages) {g : G}
    {rv : OsdResult} {pkg : Packet} {glip : Gateway.Glip}
    (hread : Gateway.readPacket (s.input g) = .ok (rv, some pkg, glip)) :
    ∃ m access req rest, inputs g = (m, pkg) :: rest ∧
      stages m = .requested access g req ∧ pkg = req.toPacket ∧
      (rest.filterMap (ownPacket m)).map Packet.frame ++
        onTheWay ctrl (.hostmod m) (.gateway g) s.net = [] ∧
      glip.stream = (rest.map Prod.snd).flatMap Gateway.dtdBytes := by
  rw [h.input] at hread
  have hsized := h.sized g
  cases hinput : inputs g with
  | nil =>
      rw [hinput, List.map_nil, List.flatMap_nil,
        Gateway.readPacket_starved (by simp)] at hread
      cases hread
  | cons entry rest =>
      obtain ⟨m, pkg'⟩ := entry
      have hpkg := hsized (m, pkg') (by rw [hinput]; exact List.mem_cons_self)
      rw [hinput, List.map_cons, List.flatMap_cons,
        Gateway.readPacket_ok hpkg] at hread
      cases hread
      have hplaced := h.placed m
      have hall := hplaced.request g
      rw [requestsTo, hinput] at hall
      cases hstage : stages m with
      | requested access g' req =>
          rw [hstage] at hall
          by_cases hg : g' = g
          · subst hg
            simp only [ownPacket, List.filterMap_cons, if_true,
              List.map_cons, List.cons_append, Stage.requestTo,
              List.cons.injEq] at hall
            obtain ⟨hframe, hrest⟩ := hall
            exact ⟨m, access, req, rest, rfl, hstage,
              eq_of_frame hpkg (sized_toPacket req) hframe, hrest, rfl⟩
          · simp [ownPacket, Stage.requestTo, hg] at hall
      | _ =>
          rw [hstage] at hall
          simp [ownPacket, Stage.requestTo] at hall

theorem Tracks.input_rest (h : Tracks ctrl addr s inputs stages) {g : G}
    {rv : OsdResult} {pkg : Packet} {glip : Gateway.Glip}
    (hread : Gateway.readPacket (s.input g) = .ok (rv, some pkg, glip)) :
    (s.net.toDevice g).drop
      ((s.net.toDevice g).length - glip.stream.length) = glip.stream := by
  obtain ⟨m, access, req, rest, hinputs, -, -, -, hstream⟩ := h.head hread
  have hinput : s.input g = Gateway.dtdBytes pkg ++ glip.stream := by
    rw [h.input, hinputs, hstream]
    rfl
  have hpart : glip.stream <:+ s.input g := ⟨_, hinput.symm⟩
  exact (List.suffix_iff_eq_drop.mp
    (hpart.trans (List.drop_suffix _ _))).symm

/-- A request is taken from an input. -/
theorem Tracks.skipped (h : Tracks ctrl addr s inputs stages) {g : G}
    {rv : OsdResult} {pkg : Packet} {glip : Gateway.Glip}
    (hread : Gateway.readPacket (s.input g) = .ok (rv, some pkg, glip)) :
    ∃ m access req inputs', stages m = .requested access g req ∧
      pkg = req.toPacket ∧
      Tracks ctrl addr { s with consumed := s.consume g glip.stream } inputs'
        (Function.update stages m (.lost access)) := by
  obtain ⟨m, access, req, rest, hinputs, hstage, hpkg, hempty, hstream⟩ :=
    h.head hread
  have hplaced := h.placed m
  rw [hstage] at hplaced
  have hleft := h.input_rest hread
  have hother : ∀ m', m' ≠ m →
      ((inputs g).filterMap (ownPacket m')) =
        rest.filterMap (ownPacket m') := by
    intro m' hm
    simp [hinputs, ownPacket, Ne.symm hm]
  refine ⟨m, access, req, Function.update inputs g rest, hstage, hpkg, ?_⟩
  constructor
  · exact h.settled
  · exact h.boundary
  · intro g'
    dsimp only [AccessNetwork.consume]
    by_cases hg : g' = g
    · subst hg
      rw [Function.update_self]
      omega
    · rw [Function.update_of_ne hg]
      exact h.consumed g'
  · intro g'
    by_cases hg : g' = g
    · subst hg
      simp only [AccessNetwork.input, AccessNetwork.consume,
        Function.update_self]
      rw [hleft, hstream]
    · simpa [AccessNetwork.input, AccessNetwork.consume, hg]
        using h.input g'
  · intro g' entry hentry
    by_cases hg : g' = g
    · subst hg
      rw [Function.update_self] at hentry
      exact h.sized g' entry
        (by rw [hinputs]; exact List.mem_cons_of_mem _ hentry)
    · rw [Function.update_of_ne hg] at hentry
      exact h.sized g' entry hentry
  · exact h.noGateway
  · apply placed_update
    · constructor
      · exact hplaced.call
      · exact .lost access
      · intro g'
        by_cases hg : g' = g
        · subst hg
          simpa [requestsTo, Stage.requestTo] using hempty
        · have hg' : ¬g = g' := fun heq => hg heq.symm
          have hnone := hplaced.request g'
          simpa [requestsTo, hg, hg', Stage.requestTo] using hnone
      · exact hplaced.noHostmod
      · exact hplaced.answer
      · exact hplaced.toMain
    · intro m' hm
      refine (h.placed m').frame rfl (fun g' => ?_) (fun _ => rfl)
        (fun _ => rfl) rfl
      by_cases hg : g' = g
      · subst hg
        simp [requestsTo, hother m' hm]
      · simp [requestsTo, hg]

/-- The device sends a response back to the caller. -/
theorem Tracks.answers (h : Tracks ctrl addr s inputs stages) {m : M}
    {access : Access} {g : G} {resp : DiPacket} {datagram : Gateway.Datagram}
    (hstage : stages m = .lost access) (hdest : resp.dest = addr m)
    (htype : typeOfFlags resp.flags = osdPacketTypeReg)
    (hroute : targetOf ctrl (addr m).toNat = some (.hostmod m))
    (hresp : datagram.toPacket = resp.toPacket)
    (hnet : NetStep env s.net (.deviceSends g datagram) net) :
    Tracks ctrl addr { s with net } inputs
      (Function.update stages m (.answered access g resp)) := by
  have hplaced := h.placed m
  rw [hstage] at hplaced
  have hdata : DataStep env s.net (.deviceSends g datagram) net :=
    ⟨hnet, not_handles rfl⟩
  have hrouted : ∀ dest, isRoutedTo ctrl dest resp.toPacket.frame =
      decide ((.hostmod m : Peer M G) = dest) := by
    intro dest
    rw [isRoutedTo, destWord_toPacket, hdest, hroute]
    simp
  have hflow : ∀ m' dest, onTheWay ctrl (.hostmod m') dest net =
      onTheWay ctrl (.hostmod m') dest s.net := by
    intro m' dest
    have hall := h.conveys hdata (.hostmod m') dest
    simpa [sentFrames, queued, arrivedFrames, arrived] using hall.symm
  have hback : ∀ g' dest, onTheWayFromDevice ctrl g' dest net =
      onTheWayFromDevice ctrl g' dest s.net ++
        if g = g' ∧ .hostmod m = dest then [resp.toPacket.frame] else [] := by
    intro g' dest
    have hall := h.conveysFromDevice hdata g' dest
    by_cases hg : g = g'
    · by_cases hm : .hostmod m = dest <;>
        simpa [deviceSent, arrivedFrames, arrived, hg, hresp, hrouted, hm]
          using hall.symm
    · simpa [deviceSent, arrivedFrames, arrived, hg] using hall.symm
  have htoDevice : net.toDevice = s.net.toDevice := by
    cases hnet
    rfl
  have htoMain : net.toMain = s.net.toMain := by
    cases hnet
    rfl
  constructor
  · exact h.settled.step hdata
  · exact h.boundary.step hnet
  · simpa [htoDevice] using h.consumed
  · simpa [AccessNetwork.input, htoDevice] using h.input
  · exact h.sized
  · intro g' g''
    dsimp only
    rw [hback, if_neg (by simp), List.append_nil]
    exact h.noGateway g' g''
  · apply placed_update
    · constructor
      · exact hplaced.call
      · exact .answered htype
      · intro g'
        rw [requestsTo, hflow]
        exact hplaced.request g'
      · exact fun m' => (hflow m _).trans (hplaced.noHostmod m')
      · intro g'
        dsimp only
        rw [hback, hplaced.answer]
        simp [Stage.answerFrom]
      · exact (congrFun htoMain m).trans hplaced.toMain
    · intro m' hm
      have hm' : ¬m = m' := fun heq => hm heq.symm
      refine (h.placed m').frame rfl (fun g' => ?_) (fun m'' => hflow m' _)
        (fun g' => ?_) (congrFun htoMain m')
      · rw [requestsTo, requestsTo, hflow]
      · simp [hback, hm']

theorem Tracks.served (h : Tracks ctrl addr s inputs stages) {g : G}
    {model : DeviceModel δ} {rv : OsdResult} {pkg : Packet}
    {glip : Gateway.Glip} {req resp : DiPacket} {dev : δ}
    {datagram : Gateway.Datagram}
    (hroutes : ∀ m, targetOf ctrl (addr m).toNat = some (.hostmod m))
    (hread : Gateway.readPacket (s.input g) = .ok (rv, some pkg, glip))
    (hreq : HostMod.requestOf pkg = some req)
    (hserve : model.serve (s.devices g) req = some (dev, resp))
    (hresp : datagram.toPacket = resp.toPacket)
    (hnet : NetStep env s.net (.deviceSends g datagram) net) :
    ∃ m access inputs', stages m = .requested access g req ∧
      Tracks ctrl addr
        { s with
          net
          consumed := s.consume g glip.stream
          devices := Function.update s.devices g dev } inputs'
        (Function.update stages m (.answered access g resp)) := by
  obtain ⟨m, access, req', inputs', hstage, rfl, htracks'⟩ :=
    h.skipped hread
  obtain rfl := DiPacket.toPacket_injective
    (toPacket_of_requestOf (sized_toPacket req') hreq)
  have hrequest := (hstage ▸ (h.placed m).legal).request_requested
  obtain ⟨hdest, htype⟩ := model.answers hserve
  obtain ⟨req, hsame, -, hsrc⟩ := request_ok hrequest
  obtain rfl := DiPacket.toPacket_injective hsame
  have hanswers := htracks'.answers (Function.update_self ..)
    (hdest.trans hsrc) htype (hroutes m) hresp hnet
  rw [Function.update_idem] at hanswers
  exact ⟨m, access, inputs', hstage, hanswers.withDevices _⟩

/-- The main thread takes the response to its call. -/
theorem Tracks.returned (h : Tracks ctrl addr s inputs stages) {m : M}
    {access : Access} {msg : Zmsg} {packet : Packet}
    (hcall : s.calls m = some access)
    (hnet : NetStep env s.net (.takes m msg packet) net) :
    ∃ resp, (stages m).phase = .answered access resp ∧
      packet = resp.toPacket ∧
      Tracks ctrl addr
        { s with net, calls := Function.update s.calls m none } inputs
        (Function.update stages m .idle) := by
  have hplaced := h.placed m
  have hdata : DataStep env s.net (.takes m msg packet) net :=
    ⟨hnet, not_handles rfl⟩
  have hflow : ∀ m' dest, onTheWay ctrl (.hostmod m') dest net =
      onTheWay ctrl (.hostmod m') dest s.net := by
    intro m' dest
    have hall := h.conveys hdata (.hostmod m') dest
    simpa [sentFrames, queued, arrivedFrames, arrived] using hall.symm
  have hback : ∀ g dest, onTheWayFromDevice ctrl g dest net =
      onTheWayFromDevice ctrl g dest s.net := by
    intro g dest
    have hall := h.conveysFromDevice hdata g dest
    simpa [deviceSent, arrivedFrames, arrived] using hall.symm
  cases hnet with
  | @takes _ _ rest _ hqueue htaken =>
      cases hstage : stages m with
      | arrived access' resp =>
          rw [hstage] at hplaced
          have hwaiting := hplaced.toMain
          rw [hqueue, Stage.waiting, List.cons.injEq] at hwaiting
          obtain ⟨rfl, rfl⟩ := hwaiting
          rw [receivePacket_queued (newFromZframe_toPacket resp)] at htaken
          cases htaken
          have hsame : some access' = some access :=
            hplaced.call.symm.trans hcall
          cases hsame
          refine ⟨resp, rfl, rfl, ?_⟩
          constructor
          · exact h.settled.step hdata
          · exact h.boundary.step hdata.1
          · exact h.consumed
          · exact h.input
          · exact h.sized
          · exact fun g g' => (hback g _).trans (h.noGateway g g')
          · apply placed_update
            · constructor
              · exact Function.update_self ..
              · exact .idle
              · intro g
                rw [requestsTo, hflow]
                exact hplaced.request g
              · exact fun m' => (hflow m _).trans (hplaced.noHostmod m')
              · exact fun g => (hback g _).trans (hplaced.answer g)
              · exact Function.update_self ..
            · intro m' hm
              refine (h.placed m').frame (Function.update_of_ne hm _ _)
                (fun g => ?_) (fun m'' => hflow m' _) (fun g => hback g _)
                (Function.update_of_ne hm _ _)
              rw [requestsTo, requestsTo, hflow]
      | _ =>
          rw [hstage] at hplaced
          have hwaiting := hplaced.toMain
          rw [hqueue] at hwaiting
          cases hwaiting

end Steps

/-! ## Runs -/

section Runs

variable {env : M → EventEnv} {addr : M → Word} {model : DeviceModel δ}
  {earlier : List (NetEvent M G)} {history : List (AccessEvent M G)}
  {net : Network M G} {s : AccessNetwork M G δ} {devices : G → δ}

/-- Nothing waits in a queue. -/
structure Quiet (net : Network M G) : Prop where
  toController : ∀ peer, net.toController peer = []
  toPeer : ∀ peer, net.toPeer peer = []
  toIoThread : ∀ m, net.toIoThread m = []
  toMain : ∀ m, net.toMain m = []
  fromDevice : ∀ g, net.fromDevice g = []
  deviceRx : ∀ g, net.deviceRx g = []

def startAccesses (net : Network M G) (devices : G → δ) :
    AccessNetwork M G δ where
  net := net
  calls := fun _ => none
  consumed := fun g => (net.toDevice g).length
  devices := devices

theorem Quiet.onTheWay_eq (h : Quiet net) (ctrl : Controller (Peer M G))
    (source dest : Peer M G) : onTheWay ctrl source dest net = [] := by
  have hown : ownQueue net source = [] := by
    cases source with
    | hostmod m => exact h.toIoThread m
    | gateway g => exact h.deviceRx g
  simp [onTheWay, downstream, upstream, h.toPeer, h.toController, hown]

theorem Quiet.onTheWayFromDevice_eq (h : Quiet net)
    (ctrl : Controller (Peer M G)) (g : G) (dest : Peer M G) :
    onTheWayFromDevice ctrl g dest net = [] := by
  have hnone : ∀ pkg ∈ ([] : List Packet), Gateway.Packet.Sized pkg := by
    simp
  have hunread : unread net g = [] := unread_eq hnone (h.fromDevice g)
  rw [onTheWayFromDevice, h.onTheWay_eq, hunread]
  rfl

theorem tracks_start (reached : Runs (NetStep env) .init earlier net)
    (hquiet : Quiet net) (devices : G → δ) :
    Tracks net.controller addr (startAccesses net devices) (fun _ => [])
      (fun _ => .idle) := by
  constructor
  · exact settled_of_run reached
  · exact atBoundary_of_run reached
  · exact fun g => Nat.le_refl _
  · intro g
    simp [AccessNetwork.input, startAccesses]
  · simp
  · exact fun g g' => hquiet.onTheWayFromDevice_eq _ g _
  · intro m
    constructor
    · rfl
    · exact .idle
    · intro g
      exact hquiet.onTheWay_eq _ _ _
    · exact fun m' => hquiet.onTheWay_eq _ _ _
    · exact fun g => hquiet.onTheWayFromDevice_eq _ g _
    · exact hquiet.toMain m

/-- The atomic accesses that a state stands for. -/
structure Simulates (ctrl : Controller (Peer M G)) (addr : M → Word)
    (s : AccessNetwork M G δ) (t : AtomicAccesses M G δ) : Prop where
  tracks : ∃ inputs stages, Tracks ctrl addr s inputs stages ∧
    ∀ m, t.phases m = (stages m).phase
  devices : t.devices = s.devices

omit [DecidableEq G] in
theorem phases_update {phases : M → CallPhase} {stages : M → Stage G}
    (h : ∀ m, phases m = (stages m).phase) {m : M} {phase : CallPhase}
    {stage : Stage G} (hstage : stage.phase = phase) :
    ∀ m', Function.update phases m phase m' =
      (Function.update stages m stage m').phase := by
  intro m'
  by_cases hm : m' = m
  · subst hm
    rw [Function.update_self, Function.update_self, hstage]
  · rw [Function.update_of_ne hm, Function.update_of_ne hm, h]

theorem Simulates.step {ctrl : Controller (Peer M G)}
    {s s' : AccessNetwork M G δ} {t : AtomicAccesses M G δ}
    {event : AccessEvent M G} (h : Simulates ctrl addr s t)
    (hroutes : ∀ m, targetOf ctrl (addr m).toNat = some (.hostmod m))
    (hstep : AccessStep model addr env s event s') :
    ∃ t', AtomicStep model addr t event t' ∧ Simulates ctrl addr s' t' := by
  obtain ⟨⟨inputs, stages, htracks, hphases⟩, hdevices⟩ := h
  cases hstep with
  | @called m access pkgReq net hidle hpkg hremote hnet =>
      rw [htracks.settled.2.2] at hremote
      obtain ⟨hstage, req, htracks'⟩ :=
        htracks.called hidle hpkg hremote hnet
      have hidle' : t.phases m = .idle := by
        rw [hphases, hstage]
        rfl
      exact ⟨_, .called hidle', ⟨inputs, _, htracks',
        phases_update hphases (phase_requestStage _ _)⟩, hdevices⟩
  | moved htransfer hnet =>
      obtain ⟨inputs', stages', hmoves, htracks'⟩ :=
        htracks.moved htransfer hnet
      exact ⟨t, .moved _, ⟨inputs', stages', htracks',
        fun m => (hphases m).trans (hmoves m).phase_eq.symm⟩, hdevices⟩
  | served hread hreq hserve hresp hnet =>
      obtain ⟨m, access, inputs', hstage, htracks'⟩ :=
        htracks.served hroutes hread hreq hserve hresp hnet
      have hrequest := (hstage ▸ (htracks.placed m).legal).request_requested
      have hphase : t.phases m = .requested access := by
        rw [hphases, hstage]
        rfl
      refine ⟨_, .served hphase hrequest (hdevices ▸ hserve), ?_⟩
      refine ⟨⟨inputs', _, htracks', ?_⟩, ?_⟩
      · exact phases_update hphases rfl
      · rw [hdevices]
  | skipped hread =>
      obtain ⟨m, access, req, inputs', hstage, -, htracks'⟩ :=
        htracks.skipped hread
      refine ⟨t, .skipped _, ⟨inputs', _, htracks', ?_⟩, hdevices⟩
      have hphase : t.phases m = .requested access := by
        rw [hphases, hstage]
        rfl
      have hupdate : ∀ m', Function.update t.phases m (.requested access) m' =
          (Function.update stages m (.lost access) m').phase :=
        phases_update hphases rfl
      rwa [← hphase, Function.update_eq_self] at hupdate
  | @returned m access msg packet net rv value hcall hnet hresult =>
      obtain ⟨resp, hphase, rfl, htracks'⟩ := htracks.returned hcall hnet
      exact ⟨_, .returned ((hphases m).trans hphase) hresult,
        ⟨inputs, _, htracks', phases_update hphases rfl⟩, hdevices⟩

end Runs

/-! ## One read -/

def readRegister : Access := ⟨5, 0x200, 16, none, true⟩

def oneRegister : Registers := fun _ _ => some (value16 0x1234)

def readRequest : DiPacket :=
  ⟨5, 1025, regFlags 0, [0x200], by decide⟩

def readResponse : DiPacket :=
  ⟨1025, 5, regFlags 0b1000, [0x1234], by decide⟩

def reading : List (AccessEvent Unit Unit) :=
  [.called () readRegister,
    .moved (.passes () [ascii "D", readRequest.toPacket.frame]),
    .moved (.handles ⟨⟨.hostmod (), ascii "D", readRequest.toPacket.frame⟩,
      allConnected,
      [⟨.gateway (), ascii "D", readRequest.toPacket.frame⟩]⟩),
    .moved (.writes () (.hostmod ()) readRequest.toPacket.frame
      readRequest.toPacket),
    .served () readRequest readResponse,
    .moved (.reads () readResponse.toPacket),
    .moved (.forwards () [ascii "D", readResponse.toPacket.frame]),
    .moved (.handles ⟨⟨.gateway (), ascii "D", readResponse.toPacket.frame⟩,
      allConnected,
      [⟨.hostmod (), ascii "D", readResponse.toPacket.frame⟩]⟩),
    .moved (.receives () (.gateway ())
      [ascii "D", readResponse.toPacket.frame]
      (some [ascii "D", readResponse.toPacket.frame])),
    .returned () osdOk [0x1234]]

theorem runs_joining :
    ∃ net, Runs (NetStep fun _ => plainEnv) .init joining net ∧ Quiet net ∧
      ∃ s, Runs (AccessStep registersModel (fun _ => 1025)
        fun _ => plainEnv) (startAccesses net fun _ => oneRegister)
          reading s := by
  have device : ∀ {ctrl : Controller (Peer Unit Unit)},
      targetOf ctrl 5 = some (.gateway ()) →
        ∀ m', targetOf ctrl 5 ≠ some (.hostmod m') := by
    intro ctrl htarget m' hhost
    rw [htarget] at hhost
    cases hhost
  exact ⟨_, ((((Runs.single (.manages _ _)).snoc (.handles rfl rfl)).snoc
      (.replied rfl)).snoc (.manages _ _)).snoc (.handles rfl rfl) |>.snoc
        (.replied rfl),
    ⟨by rintro (_ | _) <;> rfl, by rintro (_ | _) <;> rfl, fun _ => rfl,
      fun _ => rfl, fun _ => rfl, fun _ => rfl⟩,
    _, (((((((((Runs.single (.called rfl rfl (device rfl) (.sends rfl))).snoc
      (.moved rfl ⟨.passes rfl rfl, not_handles rfl⟩)).snoc
      (.moved rfl ⟨.handles rfl rfl, handles_data rfl⟩)).snoc
      (.moved rfl ⟨.writes rfl rfl rfl, not_handles rfl⟩)).snoc
      (.served rfl rfl rfl rfl (.deviceSends _ ⟨[1025, 5, 0x2000, 0x1234],
        by decide, by decide⟩))).snoc
      (.moved rfl ⟨.reads rfl rfl, not_handles rfl⟩)).snoc
      (.moved rfl ⟨.forwards rfl, not_handles rfl⟩)).snoc
      (.moved rfl ⟨.handles rfl rfl, handles_data rfl⟩)).snoc
      (.moved rfl ⟨.receives rfl rfl, not_handles rfl⟩)).snoc
      (.returned rfl (.takes rfl rfl) rfl)⟩

end Osd.Transport
