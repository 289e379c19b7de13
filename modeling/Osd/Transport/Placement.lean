import Osd.Transport.Accesses

/-!
# Where the packet of a call is

At each moment the packet of a waiting call is at one place: on its way to a
device, on its way back, or in the queue to the main thread.  The steps of the
network move it from one place to the next.
-/

namespace Osd.Transport

open Osd.Foundation Osd.HostCtrl Osd.HostMod NetEvent

variable {M G δ : Type}

/-! ## Requests and responses in frames -/

section Frames

variable {packet packet' : Packet} {frame : List Byte}

theorem frame_of_sized (h : Gateway.Packet.Sized packet) :
    packet.frame = bytesOfWords packet.dataRaw := by
  rw [Packet.frame_eq, Packet.words, ← h.size, List.take_length]

theorem eq_of_frame (h : Gateway.Packet.Sized packet)
    (h' : Gateway.Packet.Sized packet')
    (hframe : packet.frame = packet'.frame) : packet = packet' := by
  rw [frame_of_sized h, frame_of_sized h'] at hframe
  have hraw := bytesOfWords_injective hframe
  have hsize : packet.dataSizeWords = packet'.dataSizeWords := by
    apply UInt16.toNat_inj.mp
    rw [← h.size, ← h'.size, hraw]
  cases packet
  cases packet'
  cases hraw
  cases hsize
  rfl

theorem sized_toPacket (resp : DiPacket) :
    Gateway.Packet.Sized resp.toPacket :=
  ⟨by rw [DiPacket.toPacket_length, DiPacket.toPacket_size]⟩

theorem destWord_toPacket (resp : DiPacket) :
    destWord resp.toPacket.frame = resp.dest.toNat := by
  rw [frame_of_sized (sized_toPacket resp), destWord,
    wordsOfBytes_bytesOfWords]
  rfl

theorem toPacket_of_requestOf {pkg : Packet} {req : DiPacket}
    (hsized : Gateway.Packet.Sized pkg) (h : HostMod.requestOf pkg = some req) :
    pkg = req.toPacket := by
  obtain ⟨size, raw⟩ := pkg
  unfold HostMod.requestOf at h
  split at h
  · rename_i dest src flags payload hraw
    dsimp only at hraw
    subst hraw
    split at h
    · cases h
      have hlength := hsized.size
      simp only [List.length_cons] at hlength
      simp only [DiPacket.toPacket, Packet.mk.injEq, and_true]
      apply UInt16.toNat_inj.mp
      rw [← hlength, UInt16.toNat_ofNat']
      omega
    · cases h
  · cases h

theorem subtype_of_request {diaddr moduleAddr regAddr : Word}
    {subtypeReq : Nat} {wrData : List Word} {pkgReq : Packet}
    (h : regaccessRequest diaddr moduleAddr regAddr subtypeReq wrData =
      .ok pkgReq) : subtypeReq < 16 := by
  obtain ⟨size, -, h⟩ := bind_eq_ok.mp h
  obtain ⟨header, hheader, -⟩ := bind_eq_ok.mp h
  unfold osdPacketSetHeader at hheader
  obtain ⟨-, hheader⟩ := assertThat_bind_eq_ok.mp hheader
  obtain ⟨-, hheader⟩ := assertThat_bind_eq_ok.mp hheader
  obtain ⟨-, hheader⟩ := assertThat_bind_eq_ok.mp hheader
  obtain ⟨-, hheader⟩ := assertThat_bind_eq_ok.mp hheader
  obtain ⟨raw, -, hheader⟩ := bind_eq_ok.mp hheader
  obtain ⟨hfield, -⟩ := assertThat_bind_eq_ok.mp hheader
  rw [show 0b1111 = 2 ^ 4 - 1 by norm_num,
    Nat.and_two_pow_sub_one_eq_mod] at hfield
  omega

theorem request_packet {diaddr : Word} {access : Access} {pkgReq : Packet}
    (h : access.request diaddr = .ok pkgReq) :
    access.subtypeReq < 16 ∧ ∃ wrData hfits,
      pkgReq = (access.packet diaddr wrData hfits).toPacket := by
  obtain ⟨hlegal, hrest⟩ := assertThat_bind_eq_ok.mp h
  obtain ⟨wrData, hwords, hrequest⟩ := bind_eq_ok.mp hrest
  have hfits : wrData.length ≤ 8 := by
    unfold Access.reqWords at hwords
    split at hwords
    · cases hwords
      simp
    · have hlength := length_of_loadBytes hwords
      omega
  have hsubtype := subtype_of_request hrequest
  rw [regaccessRequest_eq diaddr access wrData hfits hsubtype] at hrequest
  exact ⟨hsubtype, wrData, hfits, (Except.ok.inj hrequest).symm⟩

/-- A request is a packet from the caller to the module. -/
theorem request_ok {diaddr : Word} {access : Access} {pkgReq : Packet}
    (h : access.request diaddr = .ok pkgReq) :
    ∃ req : DiPacket, pkgReq = req.toPacket ∧ req.dest = access.diaddr ∧
      req.src = diaddr := by
  obtain ⟨-, wrData, hfits, hpkg⟩ := request_packet h
  exact ⟨_, hpkg, rfl, rfl⟩

end Frames

/-! ## Where the packet of a call is -/

inductive Stage (G : Type) where
  | idle
  | lost (access : Access)
  | requested (access : Access) (g : G) (req : DiPacket)
  | answered (access : Access) (g : G) (resp : DiPacket)
  | arrived (access : Access) (resp : DiPacket)

variable [DecidableEq M] [DecidableEq G]

namespace Stage

def phase : Stage G → CallPhase
  | .idle => .idle
  | .lost access => .requested access
  | .requested access _ _ => .requested access
  | .answered access _ resp => .answered access resp
  | .arrived access resp => .answered access resp

/-- The frames on their way to the device of `g`. -/
def requestTo (g : G) : Stage G → List (List Byte)
  | .requested _ g' req => if g' = g then [req.toPacket.frame] else []
  | _ => []

/-- The frames on their way from the device of `g`. -/
def answerFrom (g : G) : Stage G → List (List Byte)
  | .answered _ g' resp => if g' = g then [resp.toPacket.frame] else []
  | _ => []

/-- What the steps of the network do to a stage. -/
inductive Moves : Stage G → Stage G → Prop
  | stays (stage : Stage G) : Moves stage stage
  | arrives (access : Access) (g : G) (resp : DiPacket) :
      Moves (.answered access g resp) (.arrived access resp)

omit [DecidableEq G] in
theorem Moves.phase_eq {stage stage' : Stage G} (h : Moves stage stage') :
    stage'.phase = stage.phase := by
  cases h <;> rfl

def waiting : Stage G → List Zmsg
  | .arrived _ resp => [[ascii "D", resp.toPacket.frame]]
  | _ => []

inductive Legal (diaddr : Word) : Stage G → Prop
  | idle : Legal diaddr .idle
  | lost (access : Access) : Legal diaddr (.lost access)
  | requested {access : Access} {g : G} {req : DiPacket}
      (hreq : access.request diaddr = .ok req.toPacket) :
      Legal diaddr (.requested access g req)
  | answered {access : Access} {g : G} {resp : DiPacket}
      (htype : typeOfFlags resp.flags = osdPacketTypeReg) :
      Legal diaddr (.answered access g resp)
  | arrived {access : Access} {resp : DiPacket}
      (htype : typeOfFlags resp.flags = osdPacketTypeReg) :
      Legal diaddr (.arrived access resp)

omit [DecidableEq G] in
theorem Legal.type_answered {diaddr : Word} {access : Access} {g : G}
    {resp : DiPacket}
    (h : Legal diaddr (.answered access g resp)) :
    typeOfFlags resp.flags = osdPacketTypeReg := by
  cases h with
  | answered htype => exact htype

omit [DecidableEq G] in
theorem Legal.type_arrived {diaddr : Word} {access : Access}
    {resp : DiPacket}
    (h : Legal (G := G) diaddr (.arrived access resp)) :
    typeOfFlags resp.flags = osdPacketTypeReg := by
  cases h with
  | arrived htype => exact htype

omit [DecidableEq G] in
theorem Legal.request_requested {diaddr : Word} {access : Access} {g : G}
    {req : DiPacket} (h : Legal diaddr (.requested access g req)) :
    access.request diaddr = .ok req.toPacket := by
  cases h with
  | requested hreq => exact hreq

end Stage

/-- The packet of an entry, if it is a packet of this module. -/
def ownPacket (m : M) (entry : M × Packet) : Option Packet :=
  if entry.1 = m then some entry.2 else none

section Places

variable (ctrl : Controller (Peer M G)) (addr : M → Word)
  (s : AccessNetwork M G δ) (inputs : G → List (M × Packet))

/-- The frames of a module on their way to the device of `g`, those in the
input of the device first. -/
def requestsTo (m : M) (g : G) : List (List Byte) :=
  ((inputs g).filterMap (ownPacket m)).map Packet.frame ++
    onTheWay ctrl (.hostmod m) (.gateway g) s.net

structure Placed (m : M) (stage : Stage G) : Prop where
  call : s.calls m = stage.phase.access
  legal : stage.Legal (addr m)
  request : ∀ g, requestsTo ctrl s inputs m g = stage.requestTo g
  noHostmod : ∀ m', onTheWay ctrl (.hostmod m) (.hostmod m') s.net = []
  answer : ∀ g, onTheWayFromDevice ctrl g (.hostmod m) s.net =
    stage.answerFrom g
  toMain : s.net.toMain m = stage.waiting

/-- `inputs` are the packets in the input of each device, with the modules
that sent them. -/
structure Tracks (stages : M → Stage G) : Prop where
  settled : Settled ctrl s.net
  boundary : AtBoundary s.net
  consumed : ∀ g, s.consumed g ≤ (s.net.toDevice g).length
  input : ∀ g, s.input g =
    ((inputs g).map Prod.snd).flatMap Gateway.dtdBytes
  sized : ∀ g, ∀ entry ∈ inputs g, Gateway.Packet.Sized entry.2
  noGateway : ∀ g g', onTheWayFromDevice ctrl g (.gateway g') s.net = []
  placed : ∀ m, Placed ctrl addr s inputs m (stages m)

end Places

/-! ## Steps of the network -/

section Steps

variable {env : M → EventEnv} {ctrl : Controller (Peer M G)}
  {addr : M → Word} {s : AccessNetwork M G δ} {net : Network M G}
  {event : NetEvent M G} {stages : M → Stage G}
  {inputs : G → List (M × Packet)}

theorem Tracks.conveys (h : Tracks ctrl addr s inputs stages)
    (hnet : DataStep env s.net event net) (source dest : Peer M G) :
    onTheWay ctrl source dest s.net ++
        (sentFrames source event).filter (isRoutedTo ctrl dest) =
      arrivedFrames source dest event ++ onTheWay ctrl source dest net :=
  conveys_onTheWay source dest _ _ _ ⟨h.settled, hnet⟩

theorem Tracks.conveysFromDevice (h : Tracks ctrl addr s inputs stages)
    (hnet : DataStep env s.net event net) (g : G) (dest : Peer M G) :
    onTheWayFromDevice ctrl g dest s.net ++
        ((deviceSent g event).map Packet.frame).filter
          (isRoutedTo ctrl dest) =
      arrivedFrames (.gateway g) dest event ++
        onTheWayFromDevice ctrl g dest net :=
  conveys_onTheWayFromDevice ctrl g dest _ _ _
    ⟨⟨h.settled, h.boundary⟩, hnet⟩

/-- What does not touch the queues of a module leaves it where it is. -/
theorem Placed.frame {s' : AccessNetwork M G δ}
    {inputs' : G → List (M × Packet)} {m : M} {stage : Stage G}
    (h : Placed ctrl addr s inputs m stage) (hcall : s'.calls m = s.calls m)
    (hrequest : ∀ g, requestsTo ctrl s' inputs' m g =
      requestsTo ctrl s inputs m g)
    (hflow : ∀ m', onTheWay ctrl (.hostmod m) (.hostmod m') s'.net =
      onTheWay ctrl (.hostmod m) (.hostmod m') s.net)
    (hback : ∀ g, onTheWayFromDevice ctrl g (.hostmod m) s'.net =
      onTheWayFromDevice ctrl g (.hostmod m) s.net)
    (htoMain : s'.net.toMain m = s.net.toMain m) :
    Placed ctrl addr s' inputs' m stage where
  call := hcall.trans h.call
  legal := h.legal
  request := fun g => (hrequest g).trans (h.request g)
  noHostmod := fun m' => (hflow m').trans (h.noHostmod m')
  answer := fun g => (hback g).trans (h.answer g)
  toMain := htoMain.trans h.toMain

theorem placed_update {m : M} {stage : Stage G}
    (hself : Placed ctrl addr s inputs m stage)
    (hother : ∀ m', m' ≠ m → Placed ctrl addr s inputs m' (stages m')) :
    ∀ m', Placed ctrl addr s inputs m'
      (Function.update stages m stage m') := by
  intro m'
  by_cases hm : m' = m
  · subst hm
    rwa [Function.update_self]
  · rw [Function.update_of_ne hm]
    exact hother m' hm

/-- A step between two queues of the network. -/
theorem Tracks.internal (h : Tracks ctrl addr s inputs stages)
    (hnet : DataStep env s.net event net)
    (hsent : ∀ m, sentFrames (.hostmod m) event = [])
    (hdevice : ∀ g, deviceSent g event = [])
    (harrived : ∀ source dest, arrivedFrames source dest event = [])
    (htoDevice : net.toDevice = s.net.toDevice)
    (htoMain : net.toMain = s.net.toMain) :
    Tracks ctrl addr { s with net } inputs stages := by
  have hflow : ∀ m dest, onTheWay ctrl (.hostmod m) dest net =
      onTheWay ctrl (.hostmod m) dest s.net := by
    intro m dest
    have hall := h.conveys hnet (.hostmod m) dest
    simpa [hsent, harrived] using hall.symm
  have hback : ∀ g dest, onTheWayFromDevice ctrl g dest net =
      onTheWayFromDevice ctrl g dest s.net := by
    intro g dest
    have hall := h.conveysFromDevice hnet g dest
    simpa [hdevice, harrived] using hall.symm
  constructor
  · exact h.settled.step hnet
  · exact h.boundary.step hnet.1
  · simpa [htoDevice] using h.consumed
  · simpa [AccessNetwork.input, htoDevice] using h.input
  · exact h.sized
  · simpa [hback] using h.noGateway
  · intro m
    refine (h.placed m).frame rfl (fun g => ?_) (fun m' => hflow m _)
      (fun g => hback g _) (congrFun htoMain m)
    rw [requestsTo, requestsTo, hflow]

omit [DecidableEq M] [DecidableEq G] in
theorem newFromZframe_toPacket (resp : DiPacket) :
    osdPacketNewFromZframe resp.toPacket.frame = .ok resp.toPacket := by
  have hcomplete : resp.toPacket.Complete := by
    constructor
    · rw [DiPacket.toPacket_size, packetHeaderWordCnt]
      omega
    · rw [DiPacket.toPacket_size, DiPacket.toPacket_length]
  have hwords : resp.toPacket.words = resp.toPacket.dataRaw := by
    rw [Packet.words, ← (sized_toPacket resp).size, List.take_length]
  have hdecode := decodesToItself hcomplete
  rwa [DecodesToItself, hwords] at hdecode

/-- A register packet is passed on to the main thread. -/
theorem rcvFromHostctrl_reg {resp : DiPacket}
    (htype : typeOfFlags resp.flags = osdPacketTypeReg) (env : EventEnv)
    (ctx : EventCtx) :
    iothreadRcvFromHostctrl env ctx [ascii "D", resp.toPacket.frame] =
      .ok (some [ascii "D", resp.toPacket.frame], ctx) := by
  have hpkg : osdPacketNewFromFrame resp.toPacket.frame =
      .ok resp.toPacket := by
    rw [osdPacketNewFromFrame, newFromZframe_toPacket]
    rfl
  have hreg : ¬osdPacketTypeReg = osdPacketTypeEvent := by decide
  unfold iothreadRcvFromHostctrl
  dsimp only
  rw [if_pos rfl]
  unfold iothreadHandleInDataMsg
  dsimp only
  rw [hpkg]
  dsimp only [bind, Except.bind]
  rw [DiPacket.getType_toPacket, htype]
  dsimp only [outside]
  rw [if_neg hreg]

theorem arrivedFrames_receives (source source' : Peer M G) (m : M)
    (frame : List Byte) (outMsg : Option Zmsg) (dest : Peer M G) :
    arrivedFrames source dest
        (.receives m source' [ascii "D", frame] outMsg) =
      if .hostmod m = dest ∧ source' = source then [frame] else [] := by
  by_cases hdest : .hostmod m = dest
  · by_cases hsource : source' = source <;>
      simp [arrivedFrames, arrived, dataFrom, hdest, hsource]
  · simp [arrivedFrames, arrived, hdest]

/-- Only a response arrives at a host module. -/
theorem Tracks.receives_cases (h : Tracks ctrl addr s inputs stages) {m : M}
    {source : Peer M G} {msg : Zmsg} {outMsg : Option Zmsg}
    (hnet : DataStep env s.net (.receives m source msg outMsg) net) :
    ∃ access g resp, stages m = .answered access g resp ∧
      source = .gateway g ∧ msg = [ascii "D", resp.toPacket.frame] ∧
      outMsg = some msg ∧
      onTheWayFromDevice ctrl g (.hostmod m) net = [] := by
  have hflow := h.conveys hnet
  have hback := h.conveysFromDevice hnet
  obtain ⟨hgoes, -⟩ := hnet
  cases hgoes with
  | @receives m source msg rest outMsg ctx hsocket hrcv =>
      have hmsg := h.settled.1.toPeer (.hostmod m) _
        (by rw [hsocket]; exact List.mem_cons_self)
      rcases hmsg with hdata | hmgmt
      · dsimp only at hdata
        obtain ⟨packet⟩ := hdata
        cases source with
        | hostmod m' =>
            have hall := hflow (.hostmod m') (.hostmod m)
            rw [(h.placed m').noHostmod, arrivedFrames_receives, if_pos ⟨rfl, rfl⟩] at hall
            simp [sentFrames, queued] at hall
        | gateway g =>
            have hall := hback g (.hostmod m)
            rw [(h.placed m).answer, arrivedFrames_receives, if_pos ⟨rfl, rfl⟩] at hall
            have hlegal := (h.placed m).legal
            cases hstage : stages m with
            | answered access g' resp =>
                rw [hstage] at hall hlegal
                have htype := hlegal.type_answered
                by_cases hg : g' = g
                · subst hg
                  simp only [Stage.answerFrom, if_true, deviceSent,
                    List.map_nil, List.filter_nil, List.append_nil,
                    List.singleton_append, List.cons.injEq] at hall
                  obtain ⟨hframe, hrest⟩ := hall
                  rw [← hframe, rcvFromHostctrl_reg htype] at hrcv
                  cases hrcv
                  exact ⟨access, g', resp, rfl, rfl, by rw [hframe],
                    by rw [hframe], hrest.symm⟩
                · simp [Stage.answerFrom, deviceSent, hg] at hall
            | _ =>
                rw [hstage] at hall
                simp [Stage.answerFrom, deviceSent] at hall
      · dsimp only at hmgmt
        obtain ⟨text⟩ := hmgmt
        exact absurd hrcv (rcvFromHostctrl_mgmt _ _ _ _)

/-- The response to a module goes into the queue to its main thread. -/
theorem Tracks.receives (h : Tracks ctrl addr s inputs stages) {m : M}
    {source : Peer M G} {msg : Zmsg} {outMsg : Option Zmsg}
    (hnet : DataStep env s.net (.receives m source msg outMsg) net) :
    ∃ stage, (stages m).Moves stage ∧
      Tracks ctrl addr { s with net } inputs
        (Function.update stages m stage) := by
  obtain ⟨access, g, resp, hstage, rfl, rfl, rfl, hrest⟩ :=
    h.receives_cases hnet
  have hflow : ∀ m' dest, onTheWay ctrl (.hostmod m') dest net =
      onTheWay ctrl (.hostmod m') dest s.net := by
    intro m' dest
    have hall := h.conveys hnet (.hostmod m') dest
    rw [arrivedFrames_receives, if_neg (by simp)] at hall
    simpa [sentFrames, queued] using hall.symm
  have hback : ∀ g' dest, ¬(.hostmod m = dest ∧ g = g') →
      onTheWayFromDevice ctrl g' dest net =
        onTheWayFromDevice ctrl g' dest s.net := by
    intro g' dest hother
    have hall := h.conveysFromDevice hnet g' dest
    rw [arrivedFrames_receives, if_neg (by simpa using hother)] at hall
    simpa [deviceSent] using hall.symm
  have htoDevice : net.toDevice = s.net.toDevice := by
    cases hnet.1
    rfl
  have htoMain : net.toMain = Function.update s.net.toMain m
      (s.net.toMain m ++ [[ascii "D", resp.toPacket.frame]]) := by
    cases hnet.1
    rfl
  refine ⟨.arrived access resp, by rw [hstage]; exact .arrives _ _ _, ?_⟩
  have hplaced := h.placed m
  rw [hstage] at hplaced
  constructor
  · exact h.settled.step hnet
  · exact h.boundary.step hnet.1
  · simpa [htoDevice] using h.consumed
  · simpa [AccessNetwork.input, htoDevice] using h.input
  · exact h.sized
  · intro g' g''
    rw [hback g' _ (by simp)]
    exact h.noGateway g' g''
  · apply placed_update
    · constructor
      · exact hplaced.call
      · exact .arrived hplaced.legal.type_answered
      · intro g'
        rw [requestsTo, hflow]
        exact hplaced.request g'
      · exact fun m' => (hflow m _).trans (hplaced.noHostmod m')
      · intro g'
        by_cases hg : g = g'
        · exact hg ▸ hrest
        · rw [hback g' _ (by simp [hg]), hplaced.answer]
          simp [Stage.answerFrom, hg]
      · have hempty : s.net.toMain m = [] := hplaced.toMain
        simp [htoMain, hempty, Stage.waiting]
    · intro m' hm
      have hm' : ¬m = m' := fun heq => hm heq.symm
      refine (h.placed m').frame rfl (fun g' => ?_) (fun m'' => hflow m' _)
        (fun g' => hback g' _ (by simp [hm'])) ?_
      · rw [requestsTo, requestsTo, hflow]
      · simp [htoMain, hm]

theorem arrivedFrames_writes (source source' : Peer M G) (g : G)
    (frame : List Byte) (pkg : Packet) (dest : Peer M G) :
    arrivedFrames source dest (.writes g source' frame pkg) =
      if .gateway g = dest ∧ source' = source then [frame] else [] := by
  by_cases hdest : .gateway g = dest
  · by_cases hsource : source' = source <;>
      simp [arrivedFrames, arrived, dataFrom, hdest, hsource]
  · simp [arrivedFrames, arrived, hdest]

/-- Only host modules send to devices. -/
theorem Tracks.writes_cases (h : Tracks ctrl addr s inputs stages) {g : G}
    {source : Peer M G} {frame : List Byte} {pkg : Packet}
    (hnet : DataStep env s.net (.writes g source frame pkg) net) :
    ∃ m, source = .hostmod m ∧ pkg.frame = frame := by
  have hback := h.conveysFromDevice hnet
  obtain ⟨hgoes, -⟩ := hnet
  cases hgoes with
  | writes hsocket hpkg hwrite =>
      have hmsg := h.settled.1.toPeer (.gateway g) _
        (by rw [hsocket]; exact List.mem_cons_self)
      have hframe := (frame_of_dataMessage hmsg hpkg).2
      cases source with
      | hostmod m => exact ⟨m, rfl, hframe⟩
      | gateway g' =>
          have hall := hback g' (.gateway g)
          rw [h.noGateway, arrivedFrames_writes, if_pos ⟨rfl, rfl⟩] at hall
          simp [deviceSent] at hall

/-- A request gets into the input of its device. -/
theorem Tracks.writes (h : Tracks ctrl addr s inputs stages) {g : G}
    {source : Peer M G} {frame : List Byte} {pkg : Packet}
    (hnet : DataStep env s.net (.writes g source frame pkg) net) :
    ∃ inputs', Tracks ctrl addr { s with net } inputs' stages := by
  obtain ⟨m, rfl, rfl⟩ := h.writes_cases hnet
  have htoDevice := fun g' => toDevice_step h.settled.1 hnet.1 g'
  have hwritten : ∀ g', written g' (.writes g (.hostmod m) pkg.frame pkg) =
      if g = g' then [((.hostmod m : Peer M G), pkg)] else [] :=
    fun _ => rfl
  have hflow : ∀ m' dest, onTheWay ctrl (.hostmod m') dest s.net =
      (if .gateway g = dest ∧ m = m' then [pkg.frame] else []) ++
        onTheWay ctrl (.hostmod m') dest net := by
    intro m' dest
    have hall := h.conveys hnet (.hostmod m') dest
    rw [arrivedFrames_writes] at hall
    simpa [sentFrames, queued] using hall
  have hback : ∀ g' dest, onTheWayFromDevice ctrl g' dest net =
      onTheWayFromDevice ctrl g' dest s.net := by
    intro g' dest
    have hall := h.conveysFromDevice hnet g' dest
    rw [arrivedFrames_writes, if_neg (by simp)] at hall
    simpa [deviceSent] using hall.symm
  have htoMain : net.toMain = s.net.toMain := by
    cases hnet.1
    rfl
  refine ⟨fun g' => inputs g' ++ if g = g' then [(m, pkg)] else [], ?_⟩
  constructor
  · exact h.settled.step hnet
  · exact h.boundary.step hnet.1
  · intro g'
    have hle := h.consumed g'
    dsimp only
    rw [(htoDevice g').1, List.length_append]
    omega
  · intro g'
    have hinput := h.input g'
    rw [AccessNetwork.input] at hinput ⊢
    dsimp only
    rw [(htoDevice g').1, List.drop_append_of_le_length (h.consumed g'),
      hinput, hwritten]
    by_cases hg : g = g' <;> simp [hg, entryBytes]
  · intro g' entry hentry
    rcases List.mem_append.mp hentry with hold | hnew
    · exact h.sized g' entry hold
    · split at hnew
      · rename_i hg
        obtain rfl := List.mem_singleton.mp hnew
        refine (htoDevice g').2 (.hostmod m, pkg) ?_
        rw [hwritten, if_pos hg]
        exact List.mem_singleton_self _
      · cases hnew
  · intro g' g''
    exact (hback g' _).trans (h.noGateway g' g'')
  · intro m'
    refine (h.placed m').frame rfl (fun g' => ?_) (fun m'' => ?_)
      (fun g' => hback g' _) (congrFun htoMain m')
    · rw [requestsTo, requestsTo, hflow]
      by_cases hg : g = g'
      · by_cases hm : m = m' <;> simp [hg, hm, ownPacket]
      · simp [hg]
    · simpa using (hflow m' (.hostmod m'')).symm

theorem Tracks.moved (h : Tracks ctrl addr s inputs stages)
    (htransfer : isTransfer event = true)
    (hnet : DataStep env s.net event net) :
    ∃ inputs' stages', (∀ m, (stages m).Moves (stages' m)) ∧
      Tracks ctrl addr { s with net } inputs' stages' := by
  cases event with
  | receives m source msg outMsg =>
      obtain ⟨stage, hmoves, htracks⟩ := h.receives hnet
      refine ⟨inputs, _, fun m' => ?_, htracks⟩
      by_cases hm : m' = m
      · subst hm
        rwa [Function.update_self]
      · rw [Function.update_of_ne hm]
        exact .stays _
  | writes g source frame pkg =>
      obtain ⟨inputs', htracks⟩ := h.writes hnet
      exact ⟨inputs', stages, fun _ => .stays _, htracks⟩
  | passes m msg =>
      refine ⟨inputs, stages, fun _ => .stays _, h.internal hnet (fun _ => rfl)
        (fun _ => rfl) (fun _ _ => rfl) ?_ ?_⟩ <;> (cases hnet.1; rfl)
  | reads g packet =>
      refine ⟨inputs, stages, fun _ => .stays _, h.internal hnet
        (fun _ => by simp [sentFrames, queued]) (fun _ => rfl)
        (fun _ _ => rfl) ?_ ?_⟩ <;> (cases hnet.1; rfl)
  | forwards g msg =>
      refine ⟨inputs, stages, fun _ => .stays _, h.internal hnet (fun _ => rfl)
        (fun _ => rfl) (fun _ _ => rfl) ?_ ?_⟩ <;> (cases hnet.1; rfl)
  | handles event' =>
      refine ⟨inputs, stages, fun _ => .stays _, h.internal hnet (fun _ => rfl)
        (fun _ => rfl) (fun _ _ => rfl) ?_ ?_⟩ <;> (cases hnet.1; rfl)
  | _ => cases htransfer

end Steps

end Osd.Transport
