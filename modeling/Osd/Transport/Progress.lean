import Osd.Transport.Atomicity

/-!
# Accesses can be completed

Whatever the threads did so far, a call whose request is not passed over by
its device can still return: no queue on its path is stuck.
-/

namespace Osd.Transport

open Osd.Foundation Osd.HostCtrl Osd.HostMod NetEvent

variable {M G δ : Type}

/-! ## Requests that are answered -/

/-- The devices answer every request for a register. -/
def Answering (model : DeviceModel δ) (addr : M → Word) : Prop :=
  ∀ m (access : Access) (req : DiPacket) dev,
    access.request (addr m) = .ok req.toPacket →
      ∃ dev' resp, model.serve dev req = some (dev', resp)

section Answers

variable {diaddr : Word} {access : Access} {req : DiPacket}

theorem subtypeReq_lt_eight
    (hlegal : access.regSizeBit % 16 = 0 ∧ access.regSizeBit ≤ 128)
    (h : access.subtypeReq < 16) : access.subtypeReq < 8 := by
  have hread : ∀ width ≤ 8, (width + 2 ^ 32 - 1) % 2 ^ 32 < 16 →
      (width + 2 ^ 32 - 1) % 2 ^ 32 < 8 := by decide
  have hwrite : ∀ width ≤ 8, (width + 2 ^ 32 - 1) % 2 ^ 32 ||| 0b0100 < 16 →
      (width + 2 ^ 32 - 1) % 2 ^ 32 ||| 0b0100 < 8 := by decide
  unfold Access.subtypeReq getSubtypeRegReadReq getSubtypeRegWriteReq at h ⊢
  split at h
  · exact hread _ (by omega) h
  · exact hwrite _ (by omega) h

theorem request_flags (h : access.request diaddr = .ok req.toPacket) :
    ∃ typeSub < 8, req.flags = regFlags typeSub := by
  obtain ⟨hlegal, -⟩ := assertThat_bind_eq_ok.mp h
  obtain ⟨hsubtype, wrData, hfits, hpkg⟩ := request_packet h
  obtain rfl := DiPacket.toPacket_injective hpkg
  exact ⟨_, subtypeReq_lt_eight hlegal hsubtype, rfl⟩

theorem regRequest_some : ∀ typeSub < 8,
    ∃ request, regRequest typeSub = some request := by
  intro typeSub hlt
  interval_cases typeSub <;> exact ⟨_, rfl⟩

theorem serve_some (regs : Registers) {typeSub : Nat} (hlt : typeSub < 8)
    (hflags : req.flags = regFlags typeSub) :
    ∃ regs' resp, regs.serve req = some (regs', resp) := by
  have hlt' : typeSub < 16 := by omega
  have htype : typeOfFlags req.flags = osdPacketTypeReg :=
    hflags ▸ typeOfFlags_regFlags typeSub hlt'
  have hsame : req.typeSub = typeSub := by
    rw [DiPacket.typeSub, hflags, typeSubOfFlags_regFlags typeSub hlt']
  obtain ⟨request, hrequest⟩ := regRequest_some typeSub hlt
  unfold Registers.serve
  rw [if_neg (not_not.mpr htype), hsame, hrequest]
  split
  · split
    · split <;> exact ⟨_, _, rfl⟩
    · exact ⟨_, _, rfl⟩
  · exact ⟨_, _, rfl⟩
  · split
    · split <;> exact ⟨_, _, rfl⟩
    · exact ⟨_, _, rfl⟩
  · exact ⟨_, _, rfl⟩
  · rename_i hnone
    cases hnone

theorem registers_answering (addr : M → Word) :
    Answering registersModel addr := by
  intro m access req regs hreq
  obtain ⟨typeSub, hlt, hflags⟩ := request_flags hreq
  exact serve_some regs hlt hflags

end Answers

/-! ## What the queues hold -/

inductive DiMessage : Zmsg → Prop
  | intro (packet : DiPacket) : DiMessage [ascii "D", packet.toPacket.frame]

/-- All messages are packets with a header, and none is for the
management. -/
structure Loaded (s : Network M G) : Prop where
  toIoThread : ∀ m, ∀ msg ∈ s.toIoThread m, DiMessage msg
  toController : ∀ peer, ∀ msg ∈ s.toController peer, DiMessage msg
  toPeer : ∀ peer, ∀ entry ∈ s.toPeer peer, DiMessage entry.2
  deviceRx : ∀ g, ∀ msg ∈ s.deviceRx g, DiMessage msg
  streams : ∀ g, ∀ pkg ∈ unread s g, ∃ packet : DiPacket,
    pkg = packet.toPacket

/-- What the main threads and the devices put into the queues. -/
structure Loads [DecidableEq G] (event : NetEvent M G) : Prop where
  sends : ∀ m packet, event = .sends m packet → ∃ pkg : DiPacket,
    packet = pkg.toPacket
  deviceSends : ∀ g, ∀ packet ∈ deviceSent g event, ∃ pkg : DiPacket,
    packet = pkg.toPacket
  manages : ∀ peer text, event ≠ .manages peer text

theorem wellSized_toPacket (packet : DiPacket) :
    WellSized packet.toPacket.frame := by
  have hfits := packet.fits
  have hlength : packet.toPacket.frame.length =
      2 * (packet.payload.length + 3) := by
    rw [frame_of_sized (sized_toPacket packet), length_bytesOfWords,
      DiPacket.toPacket_length, Nat.mul_comm]
  rw [WellSized, hlength, packetHeaderWordCnt]
  omega

variable [DecidableEq M] [DecidableEq G]

section Loaded

variable {env : M → EventEnv} {s s' : Network M G} {event : NetEvent M G}

theorem Loaded.streams_step (h : Loaded s) (hboundary : AtBoundary s)
    (hstep : NetStep env s event s') (hloads : Loads event) (g : G) :
    ∀ pkg ∈ unread s' g, ∃ packet : DiPacket, pkg = packet.toPacket := by
  intro pkg hpkg
  have hall := conveys_fromDevice g s event s' ⟨hboundary, hstep⟩
  have hmem : pkg ∈ unread s g ++ deviceSent g event := by
    rw [hall]
    exact List.mem_append_right _ hpkg
  rcases List.mem_append.mp hmem with hold | hnew
  · exact h.streams g pkg hold
  · exact hloads.deviceSends g pkg hnew

theorem diMessage_routedTo {event : Event (Peer M G)}
    {before after : Controller (Peer M G)}
    (hmsg : DiMessage [event.msg.type, event.msg.payload])
    (hgoes : Step before event after) {peer : Peer M G} :
    ∀ entry ∈ routedTo peer event, DiMessage entry.2 := by
  intro entry hentry
  obtain ⟨out, hout, rfl⟩ := List.mem_map.mp hentry
  have hsent := List.mem_of_mem_filter hout
  generalize htype : event.msg.type = type at hmsg
  generalize hpayload : event.msg.payload = payload at hmsg
  obtain ⟨packet⟩ := hmsg
  obtain ⟨-, -, hforwarded⟩ := step_data hgoes (by rw [htype]; rfl)
  rw [hforwarded, forwarded, hpayload] at hsent
  obtain ⟨host, -, rfl⟩ := List.mem_map.mp hsent
  exact .intro packet

theorem Loaded.step (h : Loaded s) (hboundary : AtBoundary s)
    (hstep : NetStep env s event s') (hloads : Loads event) : Loaded s' := by
  have hstreams := h.streams_step hboundary hstep hloads
  cases hstep with
  | manages peer text => exact absurd rfl (hloads.manages peer text)
  | replied hsocket =>
      exact { h with
        toPeer := fun peer entry hentry =>
          h.toPeer peer entry (mem_pop hsocket hentry)
        streams := hstreams }
  | @sends m packet msg hmsg =>
      obtain ⟨pkg, rfl⟩ := hloads.sends m packet rfl
      obtain ⟨-, hok⟩ := inBounds_bind_eq_ok.mp hmsg
      cases hok
      refine { h with
        toIoThread := fun m' msg' hmem => ?_
        streams := hstreams }
      rcases mem_push hmem with hold | rfl
      · exact h.toIoThread m' msg' hold
      · exact .intro pkg
  | @passes m msg out rest hqueue hout =>
      obtain rfl := iothreadHandleInprocData_eq hout
      refine { h with
        toIoThread := fun m' msg' hmem =>
          h.toIoThread m' msg' (mem_pop hqueue hmem)
        toController := fun peer msg' hmem => ?_
        streams := hstreams }
      rcases mem_push hmem with hold | rfl
      · exact h.toController peer msg' hold
      · exact h.toIoThread m msg' (by simp [hqueue])
  | deviceSends g datagram => exact { h with streams := hstreams }
  | @reads g rv rcvPacket glip packet hread hround =>
      refine { h with
        deviceRx := fun g' msg hmem => ?_
        streams := hstreams }
      rcases mem_push hmem with hold | rfl
      · exact h.deviceRx g' msg hold
      · obtain ⟨pkgs, hsized, hstream⟩ := hboundary g
        rw [hstream] at hread
        obtain ⟨rest, rfl, -⟩ := readPacket_boundary hsized hread hround
        have hfirst := h.streams g packet
          (by rw [unread_eq hsized hstream]; exact List.mem_cons_self)
        obtain ⟨pkg, rfl⟩ := hfirst
        exact .intro pkg
  | @forwards g msg rest hqueue =>
      refine { h with
        deviceRx := fun g' msg' hmem =>
          h.deviceRx g' msg' (mem_pop hqueue hmem)
        toController := fun peer msg' hmem => ?_
        streams := hstreams }
      rcases mem_push hmem with hold | rfl
      · exact h.toController peer msg' hold
      · exact h.deviceRx g msg' (by simp [hqueue])
  | handles hqueue hgoes =>
      have hmsg := h.toController _ _
        (by rw [hqueue]; exact List.mem_cons_self)
      refine { h with
        toController := fun peer msg hmem =>
          h.toController peer msg (mem_pop hqueue hmem)
        toPeer := fun peer entry hentry => ?_
        streams := hstreams }
      rcases List.mem_append.mp hentry with hold | hnew
      · exact h.toPeer peer entry hold
      · exact diMessage_routedTo hmsg hgoes entry hnew
  | receives hsocket hrcv =>
      exact { h with
        toPeer := fun peer entry hentry =>
          h.toPeer peer entry (mem_pop hsocket hentry)
        streams := hstreams }
  | takes hqueue htaken => exact { h with streams := hstreams }
  | writes hsocket hpkg hwrite =>
      exact { h with
        toPeer := fun peer entry hentry =>
          h.toPeer peer entry (mem_pop hsocket hentry)
        streams := hstreams }

omit [DecidableEq M] in
theorem loads_transfer (h : isTransfer event = true) : Loads event := by
  constructor
  · rintro m packet rfl
    cases h
  · intro g packet hpacket
    cases event with
    | deviceSends g' datagram => cases h
    | _ => simp [deviceSent] at hpacket
  · rintro peer text rfl
    cases h

end Loaded

/-! ## First messages can move -/

section Heads

variable (env : M → EventEnv) {s : Network M G}

theorem can_pass (h : Loaded s) {m : M} {msg : Zmsg} {rest : List Zmsg}
    (hqueue : s.toIoThread m = msg :: rest) :
    DataStep env s (.passes m msg)
      { s with
        toIoThread := Function.update s.toIoThread m rest
        toController := push s.toController (.hostmod m) msg } := by
  obtain ⟨packet⟩ := h.toIoThread m msg (by simp [hqueue])
  exact ⟨.passes hqueue rfl, not_handles rfl⟩

theorem can_handle (h : Loaded s) {peer : Peer M G} {msg : Zmsg}
    {rest : List Zmsg} (hqueue : s.toController peer = msg :: rest) :
    ∃ event, DataStep env s (.handles event)
      { s with
        toController := Function.update s.toController peer rest
        toPeer := fun peer' => s.toPeer peer' ++ routedTo peer' event } := by
  obtain ⟨packet⟩ := h.toController peer msg (by simp [hqueue])
  have hroute := routeEntry_eq s.controller
    (destWord_lt packet.toPacket.frame)
  let event : Event (Peer M G) :=
    ⟨⟨peer, ascii "D", packet.toPacket.frame⟩, fun _ => true,
      forwarded (targetOf s.controller (destWord packet.toPacket.frame))
        packet.toPacket.frame⟩
  have hgoes : Step s.controller event s.controller := by
    rw [Step, iothreadHandleExtMsg_data rfl, processDataMsg_eq_ok hroute]
    exact ⟨wellSized_toPacket packet, fun _ _ => rfl, rfl⟩
  exact ⟨event, .handles hqueue hgoes, handles_data rfl⟩

theorem can_write (h : Loaded s) {g : G} {source : Peer M G} {msg : Zmsg}
    {rest : List (Peer M G × Zmsg)}
    (hsocket : s.toPeer (.gateway g) = (source, msg) :: rest) :
    ∃ frame pkg stream, DataStep env s (.writes g source frame pkg)
      { s with
        toPeer := Function.update s.toPeer (.gateway g) rest
        toDevice := Function.update s.toDevice g stream } := by
  obtain ⟨packet⟩ := h.toPeer (.gateway g) (source, msg) (by simp [hsocket])
  exact ⟨_, _, _, .writes hsocket (newFromZframe_toPacket packet)
    (Gateway.packetWriteToDevice_ok (sized_toPacket packet) _ _),
    not_handles rfl⟩

theorem can_read (h : AtBoundary s) {g : G} {pkg : Packet}
    {rest : List Packet} (hunread : unread s g = pkg :: rest) :
    ∃ net, DataStep env s (.reads g pkg) net ∧ unread net g = rest := by
  obtain ⟨pkgs, hsized, hstream⟩ := h g
  have hpkgs : pkgs = pkg :: rest := by
    rw [← unread_eq hsized hstream, hunread]
  subst hpkgs
  have hread : Gateway.readPacket (s.fromDevice g) =
      .ok (osdOk, some pkg, ⟨rest.flatMap Gateway.dtdBytes, []⟩) := by
    rw [hstream, List.flatMap_cons]
    exact Gateway.readPacket_ok (hsized pkg List.mem_cons_self) _
  have hgoes : NetStep env s (.reads g pkg) _ := .reads hread rfl
  refine ⟨_, ⟨hgoes, not_handles rfl⟩, ?_⟩
  have hall := conveys_fromDevice g s _ _ ⟨h, hgoes⟩
  simpa [hunread, deviceSent, readFrom] using hall.symm

theorem can_forward {g : G} {msg : Zmsg} {rest : List Zmsg}
    (hqueue : s.deviceRx g = msg :: rest) :
    DataStep env s (.forwards g msg)
      { s with
        deviceRx := Function.update s.deviceRx g rest
        toController := push s.toController (.gateway g) msg } :=
  ⟨.forwards hqueue, not_handles rfl⟩

end Heads

section Threads

variable {env : M → EventEnv} {ctrl : Controller (Peer M G)}
  {addr : M → Word} {s : AccessNetwork M G δ} {stages : M → Stage G}
  {inputs : G → List (M × Packet)} {model : DeviceModel δ}

/-- Only the response to the call can be at the socket. -/
theorem Tracks.can_receive (h : Tracks ctrl addr s inputs stages)
    (env : M → EventEnv) (hloaded : Loaded s.net) {m : M}
    {source : Peer M G} {msg : Zmsg} {rest : List (Peer M G × Zmsg)}
    (hsocket : s.net.toPeer (.hostmod m) = (source, msg) :: rest) :
    ∃ ctx toMain, DataStep env s.net (.receives m source msg (some msg))
      { s.net with
        toPeer := Function.update s.net.toPeer (.hostmod m) rest
        ctx
        toMain } := by
  obtain ⟨packet⟩ := hloaded.toPeer (.hostmod m) (source, msg)
    (by simp [hsocket])
  have hfirst : packet.toPacket.frame ∈
      downstream s.net source (.hostmod m) := by
    simp [downstream, hsocket, dataFrom]
  have htype : typeOfFlags packet.flags = osdPacketTypeReg := by
    cases source with
    | hostmod m' =>
        have hnone := (h.placed m').noHostmod m
        rw [onTheWay, List.append_eq_nil_iff] at hnone
        rw [hnone.1] at hfirst
        cases hfirst
    | gateway g =>
        have hall : packet.toPacket.frame ∈
            onTheWayFromDevice ctrl g (.hostmod m) s.net :=
          List.mem_append_left _ (List.mem_append_left _ hfirst)
        rw [(h.placed m).answer] at hall
        have hlegal := (h.placed m).legal
        cases hstage : stages m with
        | answered access g' resp =>
            rw [hstage] at hall hlegal
            have hsame : packet.toPacket.frame = resp.toPacket.frame := by
              rw [Stage.answerFrom] at hall
              split at hall
              · exact List.mem_singleton.mp hall
              · cases hall
            have hpacket := DiPacket.toPacket_injective
              (eq_of_frame (sized_toPacket packet) (sized_toPacket resp) hsame)
            rw [hpacket]
            exact hlegal.type_answered
        | _ =>
            rw [hstage] at hall
            cases hall
  exact ⟨_, _, .receives hsocket (rcvFromHostctrl_reg htype _ _),
    not_handles rfl⟩

/-- The packets in the input of a device. -/
def pendingInput (s : AccessNetwork M G δ) (g : G) : List Packet :=
  (Gateway.readPackets ((s.input g).length + 1) (s.input g)).1

theorem Tracks.pendingInput_eq (h : Tracks ctrl addr s inputs stages)
    (g : G) : pendingInput s g = (inputs g).map Prod.snd := by
  have hsized : ∀ pkg ∈ (inputs g).map Prod.snd,
      Gateway.Packet.Sized pkg := by
    intro pkg hpkg
    obtain ⟨entry, hentry, rfl⟩ := List.mem_map.mp hpkg
    exact h.sized g entry hentry
  have hfuel := Gateway.length_le_flatMap_dtdBytes ((inputs g).map Prod.snd)
  rw [pendingInput, h.input,
    Gateway.readPackets_dtdBytes hsized _ (Nat.lt_succ_of_le hfuel)]

omit [DecidableEq M] [DecidableEq G] in
theorem exists_datagram (resp : DiPacket) :
    ∃ datagram : Gateway.Datagram, datagram.toPacket = resp.toPacket := by
  have hlength := resp.toPacket_length
  have hfits := resp.fits
  have hsize : UInt16.ofNat resp.toPacket.dataRaw.length =
      resp.toPacket.dataSizeWords := by
    rw [(sized_toPacket resp).size, UInt16.ofNat_toNat]
  refine ⟨⟨resp.toPacket.dataRaw, by omega, by omega⟩, ?_⟩
  unfold Gateway.Datagram.toPacket
  dsimp only
  rw [hsize]

/-- The first packet in the input of a device is a request, which the device
can serve. -/
theorem Tracks.can_serve (h : Tracks ctrl addr s inputs stages)
    (hroutes : ∀ m, targetOf ctrl (addr m).toNat = some (.hostmod m))
    (hanswers : Answering model addr) {g : G} {pkg : Packet}
    {rest : List Packet} (hpending : pendingInput s g = pkg :: rest) :
    ∃ m access req resp datagram s' inputs',
      AccessStep model addr env s (.served g req resp) s' ∧
      NetStep env s.net (.deviceSends g datagram) s'.net ∧
      datagram.toPacket = resp.toPacket ∧
      stages m = .requested access g req ∧
      Tracks ctrl addr s' inputs'
        (Function.update stages m (.answered access g resp)) ∧
      pendingInput s' g = rest := by
  rw [h.pendingInput_eq] at hpending
  cases hinputs : inputs g with
  | nil =>
      rw [hinputs] at hpending
      cases hpending
  | cons entry entries =>
      obtain ⟨m, pkg'⟩ := entry
      rw [hinputs, List.map_cons, List.cons.injEq] at hpending
      obtain ⟨rfl, rfl⟩ := hpending
      have hsized := h.sized g
      rw [hinputs] at hsized
      have hread : Gateway.readPacket (s.input g) = .ok (osdOk, some pkg',
          ⟨(entries.map Prod.snd).flatMap Gateway.dtdBytes, []⟩) := by
        rw [h.input, hinputs, List.map_cons, List.flatMap_cons]
        exact Gateway.readPacket_ok (hsized _ List.mem_cons_self) _
      obtain ⟨m', access, req, -, -, hstage, rfl, -, -⟩ := h.head hread
      have hrequest := (hstage ▸ (h.placed m').legal).request_requested
      obtain ⟨dev, resp, hserve⟩ :=
        hanswers m' access req (s.devices g) hrequest
      obtain ⟨datagram, hresp⟩ := exists_datagram resp
      have hsend : NetStep env s.net (.deviceSends g datagram) _ :=
        .deviceSends g datagram
      obtain ⟨m, access, inputs', hstage, htracks⟩ := h.served hroutes hread
        (requestOf_toPacket req) hserve hresp hsend
      refine ⟨m, access, req, resp, datagram, _, inputs',
        .served hread (requestOf_toPacket req) hserve hresp hsend, hsend,
        hresp, hstage, htracks, ?_⟩
      have hinput : AccessNetwork.input
          { s with
            net := { s.net with
              fromDevice := Function.update s.net.fromDevice g
                (s.net.fromDevice g ++ datagram.bytes) }
            consumed := s.consume g
              ((entries.map Prod.snd).flatMap Gateway.dtdBytes)
            devices := Function.update s.devices g dev } g =
          (entries.map Prod.snd).flatMap Gateway.dtdBytes := by
        rw [AccessNetwork.input, AccessNetwork.consume]
        dsimp only
        rw [Function.update_self]
        exact h.input_rest hread
      have hrest : ∀ pkg ∈ entries.map Prod.snd,
          Gateway.Packet.Sized pkg := by
        intro pkg hpkg
        obtain ⟨entry, hentry, rfl⟩ := List.mem_map.mp hpkg
        exact hsized entry (List.mem_cons_of_mem _ hentry)
      have hfuel :=
        Gateway.length_le_flatMap_dtdBytes (entries.map Prod.snd)
      rw [pendingInput, hinput,
        Gateway.readPackets_dtdBytes hrest _ (Nat.lt_succ_of_le hfuel)]

omit [DecidableEq M] [DecidableEq G] in
theorem response_some {access : Access} {resp : DiPacket}
    (hsmall : access.regSizeBit ≤ 128)
    (htype : typeOfFlags resp.flags = osdPacketTypeReg) :
    ∃ rv value, access.response resp.toPacket = .ok (rv, value) := by
  have hwords : access.respWords ≤ 8 := by
    unfold Access.respWords
    split <;> omega
  have hsize : osdPacketSizeconvPayload2data access.respWords =
      .ok (access.respWords + packetHeaderWordCnt) := by
    unfold osdPacketSizeconvPayload2data
    rw [packetHeaderWordCnt, Nat.mod_eq_of_lt (by omega)]
    exact assertThat_bind (by omega)
  unfold Access.response regaccessResponse
  rw [DiPacket.getType_toPacket, ok_bind, assertThat_bind htype,
    DiPacket.getTypeSub_toPacket, ok_bind, hsize]
  split
  · exact ⟨_, _, rfl⟩
  · split
    · exact ⟨_, _, rfl⟩
    · dsimp only [ok_bind]
      unfold checkSize
      dsimp only [bind, Except.bind]
      split
      · exact ⟨_, _, rfl⟩
      · rename_i hsame
        have hlength : packetHeaderWordCnt + access.respWords ≤
            resp.toPacket.dataRaw.length := by
          rw [(sized_toPacket resp).size]
          omega
        rw [loadBytes_eq hlength]
        exact ⟨_, _, rfl⟩

theorem Tracks.can_return (h : Tracks ctrl addr s inputs stages)
    (model : DeviceModel δ) (env : M → EventEnv) {m : M}
    {access access' : Access} {resp : DiPacket}
    (hcall : s.calls m = some access) (hsmall : access.regSizeBit ≤ 128)
    (hstage : stages m = .arrived access' resp) :
    ∃ rv value s', AccessStep model addr env s (.returned m rv value) s' := by
  have hplaced := h.placed m
  rw [hstage] at hplaced
  obtain ⟨rv, value, hresult⟩ :=
    response_some hsmall hplaced.legal.type_arrived
  exact ⟨rv, value, _, .returned hcall (.takes hplaced.toMain
    (receivePacket_queued (newFromZframe_toPacket resp))) hresult⟩

end Threads

/-! ## One call -/

/-- The call can be answered through this gateway, or it is. -/
def Stage.Via (g : G) : Stage G → Prop
  | .requested _ g' _ => g' = g
  | .answered _ g' _ => g' = g
  | .arrived _ _ => True
  | _ => False

def Stage.Back (g : G) : Stage G → Prop
  | .answered _ g' _ => g' = g
  | .arrived _ _ => True
  | _ => False

omit [DecidableEq G] in
theorem Stage.Moves.via {stage stage' : Stage G} {g : G}
    (h : stage.Moves stage') (hvia : stage.Via g) : stage'.Via g := by
  cases h with
  | stays => exact hvia
  | arrives access g' resp => trivial

omit [DecidableEq G] in
theorem Stage.Moves.back {stage stage' : Stage G} {g : G}
    (h : stage.Moves stage') (hback : stage.Back g) : stage'.Back g := by
  cases h with
  | stays => exact hback
  | arrives access g' resp => trivial

def AccessEvent.proceeds : AccessEvent M G → Bool
  | .called _ _ => false
  | .skipped _ => false
  | _ => true

/-- No call begins, and no request is passed over. -/
def Proceeds (model : DeviceModel δ) (addr : M → Word) (env : M → EventEnv)
    (s : AccessNetwork M G δ) (event : AccessEvent M G)
    (s' : AccessNetwork M G δ) : Prop :=
  AccessStep model addr env s event s' ∧ event.proceeds = true

structure Underway (ctrl : Controller (Peer M G)) (addr : M → Word) (m : M)
    (access : Access) (P : Stage G → Prop) (s : AccessNetwork M G δ) :
    Prop where
  call : s.calls m = some access
  loaded : Loaded s.net
  tracks : ∃ inputs stages, Tracks ctrl addr s inputs stages ∧ P (stages m)

/-! The path to the device is emptied queue by queue, and so is the path
back. -/

section Path

variable (ctrl : Controller (Peer M G)) (addr : M → Word) (m : M)
  (access : Access) (g : G) (s : AccessNetwork M G δ)

def AtController : Prop :=
  Underway ctrl addr m access (Stage.Via g) s ∧ s.net.toIoThread m = []

def AtGateway : Prop :=
  AtController ctrl addr m access g s ∧ s.net.toController (.hostmod m) = []

def AtDevice : Prop :=
  AtGateway ctrl addr m access g s ∧ s.net.toPeer (.gateway g) = []

def BackAtGateway : Prop :=
  Underway ctrl addr m access (Stage.Back g) s ∧ unread s.net g = []

def BackAtController : Prop :=
  BackAtGateway ctrl addr m access g s ∧ s.net.deviceRx g = []

def BackAtHostmod : Prop :=
  BackAtController ctrl addr m access g s ∧
    s.net.toController (.gateway g) = []

end Path

section Call

variable {env : M → EventEnv} {ctrl : Controller (Peer M G)}
  {addr : M → Word} {s : AccessNetwork M G δ} {model : DeviceModel δ} {m : M}
  {access : Access} {g : G} {P : Stage G → Prop}

theorem Underway.boundary (h : Underway ctrl addr m access P s) :
    AtBoundary s.net := by
  obtain ⟨inputs, stages, htracks, -⟩ := h.tracks
  exact htracks.boundary

theorem Underway.moved (h : Underway ctrl addr m access P s)
    (model : DeviceModel δ)
    (hkeeps : ∀ {stage stage' : Stage G}, stage.Moves stage' → P stage →
      P stage') {event : NetEvent M G} {net : Network M G}
    (htransfer : isTransfer event = true)
    (hnet : DataStep env s.net event net) :
    Proceeds model addr env s (.moved event) { s with net } ∧
      Underway ctrl addr m access P { s with net } := by
  obtain ⟨inputs, stages, htracks, hP⟩ := h.tracks
  obtain ⟨inputs', stages', hmoves, htracks'⟩ := htracks.moved htransfer hnet
  exact ⟨⟨.moved htransfer hnet, rfl⟩, h.call,
    h.loaded.step htracks.boundary hnet.1 (loads_transfer htransfer),
    inputs', stages', htracks', hkeeps (hmoves m) hP⟩

omit [DecidableEq M] in
theorem loads_response {datagram : Gateway.Datagram} {resp : DiPacket}
    (hresp : datagram.toPacket = resp.toPacket) (g : G) :
    Loads (.deviceSends g datagram : NetEvent M G) := by
  constructor
  · rintro m packet ⟨⟩
  · intro g' packet hpacket
    rw [deviceSent] at hpacket
    split at hpacket
    · exact ⟨resp, (List.mem_singleton.mp hpacket).trans hresp⟩
    · cases hpacket
  · rintro peer text ⟨⟩

omit [DecidableEq M] in
theorem loads_request (m : M) (req : DiPacket) :
    Loads (.sends m req.toPacket : NetEvent M G) := by
  constructor
  · rintro m' packet ⟨⟩
    exact ⟨req, rfl⟩
  · intro g packet hpacket
    cases hpacket
  · rintro peer text ⟨⟩

omit [DecidableEq M] in
theorem loads_takes (m : M) (msg : Zmsg) (packet : Packet) :
    Loads (.takes m msg packet : NetEvent M G) := by
  constructor
  · rintro m' packet ⟨⟩
  · intro g packet hpacket
    cases hpacket
  · rintro peer text ⟨⟩

/-- A device takes the first packet of its input. -/
theorem Underway.served (h : Underway ctrl addr m access (Stage.Via g) s)
    (hroutes : ∀ m, targetOf ctrl (addr m).toNat = some (.hostmod m))
    (hanswers : Answering model addr) {pkg : Packet} {rest : List Packet}
    (hpending : pendingInput s g = pkg :: rest) :
    ∃ event s', Proceeds model addr env s event s' ∧
      Underway ctrl addr m access (Stage.Via g) s' ∧
      s'.net = { s.net with fromDevice := s'.net.fromDevice } ∧
      pendingInput s' g = rest := by
  obtain ⟨inputs, stages, htracks, hvia⟩ := h.tracks
  obtain ⟨m', access', req, resp, datagram, s', inputs', hgoes, hnet, hresp,
    hstage, htracks', hrest⟩ := htracks.can_serve hroutes hanswers hpending
  have hcalls : s'.calls = s.calls := by
    cases hgoes
    rfl
  have hsame : ∀ {net : Network M G},
      NetStep env s.net (.deviceSends g datagram) net →
        net = { s.net with fromDevice := net.fromDevice } := by
    intro net hnet
    cases hnet
    rfl
  refine ⟨_, s', ⟨hgoes, rfl⟩, ⟨hcalls ▸ h.call,
    h.loaded.step htracks.boundary hnet (loads_response hresp g), inputs', _,
    htracks', ?_⟩, hsame hnet, hrest⟩
  by_cases hm : m = m'
  · subst hm
    rw [Function.update_self]
    exact rfl
  · rwa [Function.update_of_ne hm]

variable (env) (model)

/-- The request gets to its device, and the device answers it. -/
theorem Underway.answered (h : Underway ctrl addr m access (Stage.Via g) s)
    (hroutes : ∀ m, targetOf ctrl (addr m).toNat = some (.hostmod m))
    (hanswers : Answering model addr) :
    ∃ history s', Runs (Proceeds model addr env) s history s' ∧
      Underway ctrl addr m access (Stage.Back g) s' := by
  obtain ⟨first, s₁, run₁, h₁⟩ : ∃ history s', Runs (Proceeds model addr env)
      s history s' ∧ AtController ctrl addr m access g s' := by
    refine drains (Underway ctrl addr m access (Stage.Via g))
      (fun s => s.net.toIoThread m) (fun s msg rest hs hqueue => ?_) h
    obtain ⟨hgoes, hnext⟩ :=
      hs.moved model Stage.Moves.via rfl (can_pass env hs.loaded hqueue)
    exact ⟨_, _, hgoes, hnext, Function.update_self ..⟩
  obtain ⟨second, s₂, run₂, h₂⟩ : ∃ history s', Runs
      (Proceeds model addr env) s₁ history s' ∧ AtGateway ctrl addr m access g s' := by
    refine drains (AtController ctrl addr m access g)
      (fun s => s.net.toController (.hostmod m))
      (fun s msg rest hs hqueue => ?_) h₁
    obtain ⟨event, hnet⟩ := can_handle env hs.1.loaded hqueue
    obtain ⟨hgoes, hnext⟩ := hs.1.moved model Stage.Moves.via rfl hnet
    exact ⟨_, _, hgoes, ⟨hnext, hs.2⟩, Function.update_self ..⟩
  obtain ⟨third, s₃, run₃, h₃⟩ : ∃ history s', Runs
      (Proceeds model addr env) s₂ history s' ∧ AtDevice ctrl addr m access g s' := by
    refine drains (AtGateway ctrl addr m access g)
      (fun s => s.net.toPeer (.gateway g))
      (fun s entry rest hs hsocket => ?_) h₂
    obtain ⟨frame, pkg, stream, hnet⟩ :=
      can_write env hs.1.1.loaded hsocket
    obtain ⟨hgoes, hnext⟩ := hs.1.1.moved model Stage.Moves.via rfl hnet
    exact ⟨_, _, hgoes, ⟨⟨hnext, hs.1.2⟩, hs.2⟩, Function.update_self ..⟩
  obtain ⟨fourth, s₄, run₄, h₄, hserved⟩ : ∃ history s', Runs
      (Proceeds model addr env) s₃ history s' ∧ AtDevice ctrl addr m access g s' ∧
        pendingInput s' g = [] := by
    refine drains (AtDevice ctrl addr m access g)
      (fun s => pendingInput s g)
      (fun s pkg rest hs hpending => ?_) h₃
    obtain ⟨event, s', hgoes, hnext, hnet, hrest⟩ :=
      hs.1.1.1.served hroutes hanswers hpending
    exact ⟨event, s', hgoes, ⟨⟨⟨hnext, hnet ▸ hs.1.1.2⟩, hnet ▸ hs.1.2⟩,
      hnet ▸ hs.2⟩, hrest⟩
  refine ⟨_, s₄, ((run₁.trans run₂).trans run₃).trans run₄, ?_⟩
  obtain ⟨⟨⟨hunderway, hown⟩, hcontroller⟩, hgateway⟩ := h₄
  obtain ⟨hcall, hloaded, inputs, stages, htracks, hvia⟩ := hunderway
  have hinputs : inputs g = [] := by
    rw [htracks.pendingInput_eq] at hserved
    exact List.map_eq_nil_iff.mp hserved
  have hnone := (htracks.placed m).request g
  simp only [requestsTo, onTheWay, downstream, upstream, ownQueue, hinputs,
    hgateway, hcontroller, hown, List.filterMap_nil, List.map_nil,
    List.filter_nil, List.append_nil] at hnone
  refine ⟨hcall, hloaded, inputs, stages, htracks, ?_⟩
  cases hstage : stages m with
  | requested access' g' req =>
      rw [hstage] at hvia hnone
      obtain rfl : g' = g := hvia
      simp [Stage.requestTo] at hnone
  | _ =>
      rw [hstage] at hvia
      exact hvia

/-- The response gets to the main thread of its module. -/
theorem Underway.arrived (h : Underway ctrl addr m access (Stage.Back g) s) :
    ∃ history s' access' resp, Runs (Proceeds model addr env) s history s' ∧
      Underway ctrl addr m access (· = .arrived access' resp) s' := by
  obtain ⟨first, s₁, run₁, h₁⟩ : ∃ history s', Runs (Proceeds model addr env)
      s history s' ∧ BackAtGateway ctrl addr m access g s' := by
    refine drains (Underway ctrl addr m access (Stage.Back g))
      (fun s => unread s.net g) (fun s pkg rest hs hunread => ?_) h
    obtain ⟨net, hnet, hrest⟩ := can_read env hs.boundary hunread
    obtain ⟨hgoes, hnext⟩ := hs.moved model Stage.Moves.back rfl hnet
    exact ⟨_, _, hgoes, hnext, hrest⟩
  obtain ⟨second, s₂, run₂, h₂⟩ : ∃ history s', Runs
      (Proceeds model addr env) s₁ history s' ∧
        BackAtController ctrl addr m access g s' := by
    refine drains (BackAtGateway ctrl addr m access g)
      (fun s => s.net.deviceRx g) (fun s msg rest hs hqueue => ?_) h₁
    obtain ⟨hgoes, hnext⟩ :=
      hs.1.moved model Stage.Moves.back rfl (can_forward env hqueue)
    exact ⟨_, _, hgoes, ⟨hnext, hs.2⟩, Function.update_self ..⟩
  obtain ⟨third, s₃, run₃, h₃⟩ : ∃ history s', Runs
      (Proceeds model addr env) s₂ history s' ∧
        BackAtHostmod ctrl addr m access g s' := by
    refine drains (BackAtController ctrl addr m access g)
      (fun s => s.net.toController (.gateway g))
      (fun s msg rest hs hqueue => ?_) h₂
    obtain ⟨event, hnet⟩ := can_handle env hs.1.1.loaded hqueue
    obtain ⟨hgoes, hnext⟩ := hs.1.1.moved model Stage.Moves.back rfl hnet
    exact ⟨_, _, hgoes, ⟨⟨hnext, hs.1.2⟩, hs.2⟩, Function.update_self ..⟩
  obtain ⟨fourth, s₄, run₄, h₄, hsocket⟩ : ∃ history s', Runs
      (Proceeds model addr env) s₃ history s' ∧
        BackAtHostmod ctrl addr m access g s' ∧
          s'.net.toPeer (.hostmod m) = [] := by
    refine drains (BackAtHostmod ctrl addr m access g)
      (fun s => s.net.toPeer (.hostmod m))
      (fun s entry rest hs hsocket => ?_) h₃
    obtain ⟨inputs, stages, htracks, -⟩ := hs.1.1.1.tracks
    obtain ⟨ctx, toMain, hnet⟩ :=
      htracks.can_receive env hs.1.1.1.loaded hsocket
    obtain ⟨hgoes, hnext⟩ := hs.1.1.1.moved model Stage.Moves.back rfl hnet
    exact ⟨_, _, hgoes, ⟨⟨⟨hnext, hs.1.1.2⟩, hs.1.2⟩, hs.2⟩,
      Function.update_self ..⟩
  obtain ⟨⟨⟨hunderway, hunread⟩, hdeviceRx⟩, hcontroller⟩ := h₄
  obtain ⟨hcall, hloaded, inputs, stages, htracks, hback⟩ := hunderway
  have hnone := (htracks.placed m).answer g
  simp only [onTheWayFromDevice, onTheWay, downstream, upstream, ownQueue,
    hunread, hsocket, hcontroller, hdeviceRx, List.filterMap_nil,
    List.map_nil, List.filter_nil, List.append_nil] at hnone
  cases hstage : stages m with
  | arrived access' resp =>
      exact ⟨_, s₄, access', resp, ((run₁.trans run₂).trans run₃).trans run₄,
        hcall, hloaded, inputs, stages, htracks, hstage⟩
  | answered access' g' resp =>
      rw [hstage] at hback hnone
      obtain rfl : g' = g := hback
      simp [Stage.answerFrom] at hnone
  | _ =>
      rw [hstage] at hback
      cases hback

theorem Underway.returned (h : Underway ctrl addr m access (Stage.Via g) s)
    (hsmall : access.regSizeBit ≤ 128)
    (hroutes : ∀ m, targetOf ctrl (addr m).toNat = some (.hostmod m))
    (hanswers : Answering model addr) :
    ∃ history rv value s', Runs (Proceeds model addr env) s
      (history ++ [.returned m rv value]) s' := by
  obtain ⟨first, s₁, run₁, h₁⟩ := h.answered env model hroutes hanswers
  obtain ⟨second, s₂, access', resp, run₂, h₂⟩ := h₁.arrived env model
  obtain ⟨inputs, stages, htracks, hstage⟩ := h₂.tracks
  obtain ⟨rv, value, s', hgoes⟩ :=
    htracks.can_return model env h₂.call hsmall hstage
  exact ⟨first ++ second, rv, value, s', (run₁.trans run₂).snoc ⟨hgoes, rfl⟩⟩

end Call

/-! ## Every call -/

/-- A call goes to a module behind a gateway, and its device does not pass
over the request. -/
def AccessEvent.Reaches (earlier : List (NetEvent M G)) :
    AccessEvent M G → Prop
  | .called _ access =>
      ∃ g, (registryIn earlier).route access.diaddr.toNat = some (.gateway g)
  | .skipped _ => False
  | _ => True

/-- Every call is on its way to a device or back. -/
structure AllUnderway (ctrl : Controller (Peer M G)) (addr : M → Word)
    (s : AccessNetwork M G δ) : Prop where
  loaded : Loaded s.net
  small : ∀ m access, s.calls m = some access → access.regSizeBit ≤ 128
  tracks : ∃ inputs stages, Tracks ctrl addr s inputs stages ∧
    ∀ m access, stages m ≠ .lost access

section Calls

variable {env : M → EventEnv} {ctrl : Controller (Peer M G)}
  {addr : M → Word} {model : DeviceModel δ} {s s' : AccessNetwork M G δ}
  {earlier : List (NetEvent M G)} {event : AccessEvent M G}
  {history : List (AccessEvent M G)} {net : Network M G} {devices : G → δ}

omit [DecidableEq G] in
theorem not_lost_update {stages : M → Stage G} {stage : Stage G} {m : M}
    (h : ∀ m access, stages m ≠ .lost access)
    (hstage : ∀ access, stage ≠ .lost access) :
    ∀ m' access, Function.update stages m stage m' ≠ .lost access := by
  intro m' access
  by_cases hm : m' = m
  · subst hm
    rw [Function.update_self]
    exact hstage access
  · rw [Function.update_of_ne hm]
    exact h m' access

omit [DecidableEq M] [DecidableEq G] in
theorem small_of_request {diaddr : Word} {access : Access} {pkgReq : Packet}
    (h : access.request diaddr = .ok pkgReq) : access.regSizeBit ≤ 128 := by
  obtain ⟨⟨-, hsmall⟩, -⟩ := assertThat_bind_eq_ok.mp h
  exact hsmall

theorem AllUnderway.step (h : AllUnderway ctrl addr s)
    (hroutes : ∀ m, targetOf ctrl (addr m).toNat = some (.hostmod m))
    (htargets : ∀ dest, (registryIn earlier).route dest = targetOf ctrl dest)
    (hreaches : event.Reaches earlier)
    (hstep : AccessStep model addr env s event s') :
    AllUnderway ctrl addr s' := by
  obtain ⟨hloaded, hsmall, inputs, stages, htracks, hnot⟩ := h
  cases hstep with
  | @called m access pkgReq net hidle hpkg hremote hnet =>
      rw [htracks.settled.2.2] at hremote
      obtain ⟨-, req, htracks'⟩ := htracks.called hidle hpkg hremote hnet
      obtain ⟨g, hgateway⟩ := hreaches
      rw [htargets] at hgateway
      obtain ⟨pkg, rfl, -, -⟩ := request_ok hpkg
      refine ⟨hloaded.step htracks.boundary hnet (loads_request m pkg), ?_,
        inputs, _, htracks', not_lost_update hnot ?_⟩
      · intro m' access' hcall
        dsimp only at hcall
        by_cases hm : m' = m
        · subst hm
          rw [Function.update_self] at hcall
          cases hcall
          exact small_of_request hpkg
        · rw [Function.update_of_ne hm] at hcall
          exact hsmall m' access' hcall
      · intro access'
        simp [requestStage, hgateway]
  | moved htransfer hnet =>
      obtain ⟨inputs', stages', hmoves, htracks'⟩ :=
        htracks.moved htransfer hnet
      refine ⟨hloaded.step htracks.boundary hnet.1 (loads_transfer htransfer),
        hsmall, inputs', stages', htracks', fun m access hlost => ?_⟩
      have hm := hmoves m
      have hbefore := hnot m
      rw [hlost] at hm
      generalize stages m = stage at hm hbefore
      cases hm
      exact hbefore access rfl
  | served hread hreq hserve hresp hnet =>
      obtain ⟨m, access, inputs', -, htracks'⟩ :=
        htracks.served hroutes hread hreq hserve hresp hnet
      exact ⟨hloaded.step htracks.boundary hnet (loads_response hresp _),
        hsmall, inputs', _, htracks', not_lost_update hnot (by simp)⟩
  | skipped hread => cases hreaches
  | @returned m access msg packet net rv value hcall hnet hresult =>
      obtain ⟨resp, -, -, htracks'⟩ := htracks.returned hcall hnet
      refine ⟨hloaded.step htracks.boundary hnet (loads_takes m msg packet),
        ?_, inputs, _, htracks', not_lost_update hnot (by simp)⟩
      intro m' access' hcall'
      dsimp only at hcall'
      by_cases hm : m' = m
      · subst hm
        rw [Function.update_self] at hcall'
        cases hcall'
      · rw [Function.update_of_ne hm] at hcall'
        exact hsmall m' access' hcall'

omit [DecidableEq M] [DecidableEq G] in
theorem Quiet.loaded (h : Quiet net) : Loaded net := by
  constructor
  · simp [h.toIoThread]
  · simp [h.toController]
  · simp [h.toPeer]
  · simp [h.deviceRx]
  · intro g pkg hpkg
    have hnone : ∀ pkg ∈ ([] : List Packet), Gateway.Packet.Sized pkg := by
      simp
    rw [unread_eq hnone (h.fromDevice g)] at hpkg
    cases hpkg

/-- No reachable state is a dead end for a call: whatever the threads did
before, it can return without a further call, as long as no device passed over
a request. -/
theorem accesses_complete (reached : Runs (NetStep env) .init earlier net)
    (hquiet : Quiet net)
    (hroutes : ∀ m, (registryIn earlier).route (addr m).toNat =
      some (.hostmod m))
    (hanswers : Answering model addr)
    (run : Runs (AccessStep model addr env) (startAccesses net devices)
      history s)
    (hreaches : ∀ event ∈ history, event.Reaches earlier) {m : M}
    {access : Access} (hcall : s.calls m = some access) :
    ∃ more rv value s', Runs (Proceeds model addr env) s
      (more ++ [.returned m rv value]) s' := by
  have htargets : ∀ dest, (registryIn earlier).route dest =
      targetOf net.controller dest :=
    fun dest => ((represents_in reached).targetOf_eq dest).symm
  have hroutes' : ∀ m, targetOf net.controller (addr m).toNat =
      some (.hostmod m) := fun m => (htargets _).symm.trans (hroutes m)
  have hall : AllUnderway net.controller addr s := by
    clear hcall
    induction run with
    | refl =>
        exact ⟨hquiet.loaded, by simp [startAccesses], _, _,
          tracks_start reached hquiet devices, by simp⟩
    | snoc _ hstep ih =>
        have hbefore := ih fun event hevent =>
          hreaches event (List.mem_append_left _ hevent)
        exact hbefore.step hroutes' htargets (hreaches _ (by simp)) hstep
  obtain ⟨hloaded, hsmall, inputs, stages, htracks, hnot⟩ := hall
  have hplaced := (htracks.placed m).call
  rw [hcall] at hplaced
  cases hstage : stages m with
  | idle =>
      rw [hstage] at hplaced
      cases hplaced
  | lost access' => exact absurd hstage (hnot m access')
  | requested access' g req =>
      have h : Underway net.controller addr m access (Stage.Via g) s :=
        ⟨hcall, hloaded, inputs, stages, htracks, by rw [hstage]; rfl⟩
      exact h.returned env model (hsmall m access hcall) hroutes' hanswers
  | answered access' g resp =>
      have h : Underway net.controller addr m access (Stage.Via g) s :=
        ⟨hcall, hloaded, inputs, stages, htracks, by rw [hstage]; rfl⟩
      exact h.returned env model (hsmall m access hcall) hroutes' hanswers
  | arrived access' resp =>
      obtain ⟨rv, value, s', hgoes⟩ :=
        htracks.can_return model env hcall (hsmall m access hcall) hstage
      exact ⟨[], rv, value, s', .single ⟨hgoes, rfl⟩⟩

end Calls

/-- A read of a register that has just been called. -/
theorem accesses_complete_reading :
    ∃ s : AccessNetwork Unit Unit Registers, s.calls () = some readRegister ∧
      ∃ more rv value s', Runs
        (Proceeds registersModel (fun _ => 1025) fun _ => plainEnv) s
        (more ++ [.returned () rv value]) s' := by
  obtain ⟨net, reached, hquiet, -⟩ := runs_joining
  have hgateway : targetOf net.controller 5 = some (.gateway ()) :=
    (represents_in reached).targetOf_eq 5
  have hcalled : AccessStep registersModel (fun _ => 1025)
      (fun _ => plainEnv) (startAccesses net fun _ => oneRegister)
      (.called () readRegister) _ :=
    .called rfl rfl
      (fun m' hhost => by cases hgateway.symm.trans hhost) (.sends rfl)
  exact ⟨_, rfl, accesses_complete reached hquiet (fun _ => rfl)
    (registers_answering _) (.single hcalled)
    (fun event hevent => by
      rw [List.mem_singleton.mp hevent]
      exact ⟨(), rfl⟩) rfl⟩

end Osd.Transport
