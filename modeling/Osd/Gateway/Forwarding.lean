import Osd.Gateway.Threads

/-!
# Packets on their way to the host controller

The receive thread queues packets for the worker, and the worker forwards
them.  The order of the queue is kept.  What is not ensured is that the queue
is empty when the worker closes its socket.
-/

namespace Osd.Gateway

open Osd.Foundation Osd.HostCtrl

def RxPc.active : RxPc → Bool
  | .none => false
  | .terminated => false
  | _ => true

def RxPc.inHand : RxPc → List Packet
  | .queueing packet => [packet]
  | _ => []

/-- The messages sent are an initial segment of the packets read, and the
worker forwards only while its socket is open. -/
def ForwardsInOrder (s : Threads) : Prop :=
  s.sent <+: s.read.map packetMessage ∧
    ∀ outcome, GatewayStep s .workerForward outcome → Returns outcome

/-! ## The condition -/

def Message.acknowledges (msg : Message) : Bool :=
  msg.type = ascii "M" ∧ msg.frames.head? = some (ascii "ACK")

/-- The worker closes its socket and stays in its loop. -/
def closesHostctrlSocket (s : Threads) : Action → Bool
  | .workerCommand dealer sent =>
      match s.toWorker with
      | .iConnect :: _ => !(dealer && sent)
      | _ => !sent
  | .workerReply =>
      match s.worker, s.hostctrlSocket with
      | .sendCmd .gwRegister, some (reply :: _) => !reply.acknowledges
      | .sendCmd (.gwUnregister writeFailed), _ => !writeFailed
      | _, _ => false
  | .workerTimeout => s.worker != .sendCmd (.gwUnregister true)
  | _ => false

def startsDevicerxthread (s : Threads) : Action → Bool
  | .main => s.main.head? == some .connectToDevice
  | _ => false

/-- The worker closes its socket only when no packet can follow, and a receive
thread is started when no packet is left and the socket is open. -/
def Orderly (s : Threads) (action : Action) : Prop :=
  (closesHostctrlSocket s action = true →
    s.rx.active = false ∧ s.deviceRx = []) ∧
  (startsDevicerxthread s action = true →
    s.deviceRx = [] ∧
      (s.worker.exited = false → s.hostctrlSocket.isSome = true))

instance (s : Threads) (action : Action) : Decidable (Orderly s action) :=
  inferInstanceAs (Decidable (_ ∧ _))

/-! ## The invariant -/

structure Forwarding (s : Threads) : Prop where
  isOpen : s.worker.exited = false → s.rx.active = true ∨ s.deviceRx ≠ [] →
    s.hostctrlSocket.isSome = true
  inOrder : s.sent ++ s.deviceRx <+: s.read.map packetMessage
  complete : s.rx.active = true →
    s.sent ++ s.deviceRx ++ s.rx.inHand.map packetMessage =
      s.read.map packetMessage

theorem forwarding_osdGatewayNew : Forwarding osdGatewayNew where
  isOpen := by simp [osdGatewayNew, RxPc.active]
  inOrder := by simp [osdGatewayNew]
  complete := by simp [osdGatewayNew, RxPc.active]

theorem Forwarding.frame {s s' : Threads} (h : Forwarding s)
    (hrx : s'.rx = s.rx) (hdeviceRx : s'.deviceRx = s.deviceRx)
    (hsent : s'.sent = s.sent) (hread : s'.read = s.read)
    (hopen : s'.worker.exited = false → s.rx.active = true ∨ s.deviceRx ≠ [] →
      s'.hostctrlSocket.isSome = true) : Forwarding s' where
  isOpen := by
    rw [hrx, hdeviceRx]
    exact hopen
  inOrder := by
    rw [hsent, hdeviceRx, hread]
    exact h.inOrder
  complete := by
    rw [hrx, hsent, hdeviceRx, hread]
    exact h.complete

theorem Forwarding.frame_open {s s' : Threads} (h : Forwarding s)
    (hrx : s'.rx = s.rx) (hdeviceRx : s'.deviceRx = s.deviceRx)
    (hsent : s'.sent = s.sent) (hread : s'.read = s.read)
    (hworker : s'.worker.exited = false → s.worker.exited = false)
    (hopen : s.hostctrlSocket.isSome = true →
      s'.hostctrlSocket.isSome = true) : Forwarding s' :=
  h.frame hrx hdeviceRx hsent hread fun hexited hpackets =>
    hopen (h.isOpen (hworker hexited) hpackets)

/-! ## The main thread -/

theorem Forwarding.runMainOp {s s' : Threads} {op : MainOp} (h : Forwarding s)
    (hstart : op = .connectToDevice → s.deviceRx = [] ∧
      (s.worker.exited = false → s.hostctrlSocket.isSome = true))
    (hgoes : s.runMainOp op = .ok s') : Forwarding s' := by
  cases op with
  | connectToDevice =>
      dsimp only [Threads.runMainOp] at hgoes
      obtain ⟨-, hgoes⟩ := assertThat_bind_eq_ok.mp hgoes
      obtain ⟨hempty, hopen⟩ := hstart rfl
      cases hgoes
      constructor
      · exact fun hexited _ => hopen hexited
      · simp [hempty]
      · simp [hempty, RxPc.inHand]
  | performOutstandingMainThreadTasks =>
      dsimp only [Threads.runMainOp] at hgoes
      split at hgoes <;> cases hgoes <;> exact h.frame_open rfl rfl rfl rfl id id
  | disconnectFromDevice =>
      dsimp only [Threads.runMainOp] at hgoes
      split at hgoes <;> cases hgoes <;> exact h.frame_open rfl rfl rfl rfl id id
  | disconnectFromHostctrl =>
      dsimp only [Threads.runMainOp] at hgoes
      split at hgoes
      · split at hgoes <;> cases hgoes <;>
          exact h.frame_open rfl rfl rfl rfl id id
      · cases hgoes
        exact h
  | connectToHostctrl =>
      dsimp only [Threads.runMainOp] at hgoes
      split at hgoes
      · cases hgoes
        exact h
      · split at hgoes <;> cases hgoes <;>
          exact h.frame_open rfl rfl rfl rfl id id
  | clearDeviceDisconnectDetected =>
      dsimp only [Threads.runMainOp] at hgoes
      cases hgoes
      exact h.frame_open rfl rfl rfl rfl id id
  | statsStart =>
      dsimp only [Threads.runMainOp] at hgoes
      cases hgoes
      exact h.frame_open rfl rfl rfl rfl id id
  | joinDevicerxthread =>
      dsimp only [Threads.runMainOp] at hgoes
      cases hgoes
      exact h
  | workerWaitForStatus name =>
      dsimp only [Threads.runMainOp] at hgoes
      cases hgoes
      exact h

theorem Forwarding.joined {s : Threads} (h : Forwarding s) :
    Forwarding s.joined where
  isOpen := fun hexited hpackets =>
    h.isOpen hexited (.inr (hpackets.resolve_left (by
      simp [Threads.joined, RxPc.active])))
  inOrder := h.inOrder
  complete := by simp [Threads.joined, RxPc.active]

theorem Forwarding.waited {s : Threads} (h : Forwarding s)
    (status : Option Status) (name : StatusName) :
    Forwarding (s.waited status name) := by
  unfold Threads.waited Threads.connectFails
  dsimp only
  split
  · split <;> exact h.frame_open rfl rfl rfl rfl id id
  · split
    · exact h
    · exact h.frame_open rfl rfl rfl rfl id id

/-! ## The device receive thread -/

theorem Forwarding.rxRead {s s' : Threads} {rv : OsdResult}
    {rcvPacket : Option Packet} (h : Forwarding s) (hrx : s.rx = .reading)
    (hgoes : s.devicerxthreadRead rv rcvPacket = .ok s') : Forwarding s' := by
  have hactive : s.rx.active = true := by simp [hrx, RxPc.active]
  unfold Threads.devicerxthreadRead at hgoes
  obtain ⟨event, -, hgoes⟩ := bind_eq_ok.mp hgoes
  cases event with
  | forwarded packet =>
      cases hgoes
      have hall := h.complete hactive
      simp only [hrx, RxPc.inHand, List.map_nil, List.append_nil] at hall
      constructor
      · exact fun hexited _ => h.isOpen hexited (.inl hactive)
      · exact h.inOrder.trans (by simp)
      · simp [hall, RxPc.inHand]
  | retried rv =>
      cases hgoes
      exact h
  | terminated =>
      cases hgoes
      constructor
      · exact fun hexited _ => h.isOpen hexited (.inl hactive)
      · exact h.inOrder
      · simp [RxPc.active]

theorem Forwarding.rxQueue {s : Threads} {packet : Packet} (h : Forwarding s)
    (hrx : s.rx = .queueing packet) :
    Forwarding { s with
      rx := .counting packet
      deviceRx := s.deviceRx ++ [packetMessage packet] } := by
  have hactive : s.rx.active = true := by simp [hrx, RxPc.active]
  have hall := h.complete hactive
  simp only [hrx, RxPc.inHand, List.map_cons, List.map_nil] at hall
  constructor
  · exact fun hexited _ => h.isOpen hexited (.inl hactive)
  · simp [← hall]
  · simp [← hall, RxPc.inHand]

theorem Forwarding.rxCount {s : Threads} {packet : Packet} (h : Forwarding s)
    (hrx : s.rx = .counting packet) (stats : TransferStats) :
    Forwarding { s with rx := .reading, stats } := by
  have hactive : s.rx.active = true := by simp [hrx, RxPc.active]
  have hall := h.complete hactive
  simp only [hrx, RxPc.inHand] at hall
  constructor
  · exact fun hexited _ => h.isOpen hexited (.inl hactive)
  · exact h.inOrder
  · exact fun _ => hall

/-! ## The worker -/

theorem Forwarding.close {s s' : Threads} (h : Forwarding s)
    (hrx : s'.rx = s.rx) (hdeviceRx : s'.deviceRx = s.deviceRx)
    (hsent : s'.sent = s.sent) (hread : s'.read = s.read)
    (hclosed : s'.worker.exited = false →
      s.rx.active = false ∧ s.deviceRx = []) : Forwarding s' := by
  refine h.frame hrx hdeviceRx hsent hread fun hexited hpackets => ?_
  obtain ⟨hinactive, hempty⟩ := hclosed hexited
  simp [hinactive, hempty] at hpackets

theorem Forwarding.registered {s : Threads} (h : Forwarding s) {rv : OsdResult}
    (hopen : osdFailed rv = true → s.rx.active = false ∧ s.deviceRx = [])
    (hrunning : s.worker.exited = false) : Forwarding (s.registered rv) := by
  unfold Threads.registered Threads.sendStatus
  split
  · rename_i hfailed
    exact h.close rfl rfl rfl rfl fun _ => hopen hfailed
  · exact h.frame_open rfl rfl rfl rfl (fun _ => hrunning) id

theorem Forwarding.disconnected {s : Threads} (h : Forwarding s)
    {writeFailed : Bool} (hclosed : writeFailed = false →
      s.rx.active = false ∧ s.deviceRx = []) :
    Forwarding (s.disconnected writeFailed) := by
  unfold Threads.disconnected Threads.sendStatus
  refine h.close rfl rfl rfl rfl fun hexited => hclosed ?_
  cases writeFailed with
  | false => rfl
  | true => cases hexited

theorem Forwarding.hostiothreadDisconnectFromHostctrl {s s' : Threads}
    (h : Forwarding s) {writeFailed sent : Bool}
    (hrunning : s.worker.exited = false)
    (hclosed : writeFailed = false → sent = false →
      s.rx.active = false ∧ s.deviceRx = [])
    (hgoes : s.hostiothreadDisconnectFromHostctrl writeFailed sent = .ok s') :
    Forwarding s' := by
  unfold Threads.hostiothreadDisconnectFromHostctrl at hgoes
  obtain ⟨-, hgoes⟩ := assertThat_bind_eq_ok.mp hgoes
  cases sent with
  | true =>
      cases hgoes
      exact h.frame_open rfl rfl rfl rfl (fun _ => hrunning) id
  | false =>
      cases hgoes
      exact h.disconnected fun hwrite => hclosed hwrite rfl

theorem Forwarding.hostiothreadConnectToHostctrl {s : Threads}
    (h : Forwarding s) {dealer sent : Bool}
    (hrunning : s.worker.exited = false)
    (hclosed : ¬(sent = true ∧ dealer = true) →
      s.rx.active = false ∧ s.deviceRx = []) :
    Forwarding (s.hostiothreadConnectToHostctrl dealer sent) := by
  unfold Threads.hostiothreadConnectToHostctrl
  cases dealer with
  | false =>
      simp only [Bool.false_eq_true, if_false]
      apply Forwarding.registered
      · exact h.frame_open rfl rfl rfl rfl id id
      · exact fun _ => hclosed (by simp)
      · exact hrunning
  | true =>
      cases sent with
      | false =>
          simp only [Bool.false_eq_true, if_true, if_false]
          apply Forwarding.registered
          · exact h.frame_open rfl rfl rfl rfl id (fun _ => rfl)
          · exact fun _ => hclosed (by simp)
          · exact hrunning
      | true =>
          exact h.frame_open rfl rfl rfl rfl (fun _ => hrunning) (fun _ => rfl)

theorem Forwarding.cmdDone {s : Threads} (h : Forwarding s)
    {command : GwCommand} {rv : OsdResult}
    (hrunning : s.worker.exited = false)
    (hclosed : command = .gwUnregister false ∨
        command = .gwRegister ∧ osdFailed rv = true →
      s.rx.active = false ∧ s.deviceRx = []) :
    Forwarding (s.cmdDone command rv) := by
  unfold Threads.cmdDone
  cases command with
  | gwRegister =>
      exact h.registered (fun hfailed => hclosed (.inr ⟨rfl, hfailed⟩)) hrunning
  | gwUnregister writeFailed =>
      apply h.disconnected
      rintro rfl
      exact hclosed (.inl rfl)

theorem Forwarding.hostiothreadRcvFromHostctrl {s s' : Threads}
    (h : Forwarding s) {msg : Message} {deviceWriteRv : OsdResult}
    {sent : Bool} (hrunning : s.worker.exited = false)
    (hgoes : s.hostiothreadRcvFromHostctrl msg deviceWriteRv sent = .ok s') :
    Forwarding s' := by
  obtain ⟨stats, hgoes⟩ := rcvFromHostctrl_cases hgoes
  have hcounted : Forwarding { s with stats } :=
    h.frame_open rfl rfl rfl rfl id id
  rcases hgoes with rfl | hgoes
  · exact hcounted
  · exact hcounted.hostiothreadDisconnectFromHostctrl hrunning (by simp) hgoes

theorem Forwarding.workerForward {s s' : Threads} {msg : Message}
    {rest : List Message} (h : Forwarding s) (hrx : s.deviceRx = msg :: rest)
    (hgoes : { s with deviceRx := rest }.forwardDevicerxToHostctrl msg =
      .ok s') : Forwarding s' := by
  unfold Threads.forwardDevicerxToHostctrl at hgoes
  obtain ⟨hopen, hgoes⟩ := assertThat_bind_eq_ok.mp hgoes
  cases hgoes
  have hsame : s.sent ++ [msg] ++ rest = s.sent ++ s.deviceRx := by
    simp [hrx]
  constructor
  · exact fun _ _ => hopen
  · rw [hsame]
    exact h.inOrder
  · rw [hsame]
    exact h.complete

/-! ## Runs -/

theorem acknowledges_of_sendCmdReply {reply : Message} {rv : OsdResult}
    (h : sendCmdReply (some reply) = .ok rv) (hfailed : osdFailed rv = true) :
    reply.acknowledges = false := by
  unfold sendCmdReply at h
  obtain ⟨-, h⟩ := assertThat_bind_eq_ok.mp h
  split at h
  · cases h
  · rename_i status rest hframes
    cases h
    by_cases hack : status = ascii "ACK"
    · simp [hack] at hfailed
    · simp [Message.acknowledges, hframes, hack]

/-- What an orderly step keeps. -/
theorem Forwarding.step {s s' : Threads} {action : Action} (h : Forwarding s)
    (hgoes : Goes s action s') (horderly : Orderly s action) :
    Forwarding s' := by
  obtain ⟨hcloses, hstarts⟩ := horderly
  unfold Goes at hgoes
  generalize hout : (Except.ok s' : Outcome Threads) = outcome at hgoes
  cases hgoes with
  | call hmain =>
      cases hout
      exact h.frame_open rfl rfl rfl rfl id id
  | main hmain hop =>
      refine Forwarding.runMainOp ?_ ?_ hout.symm
      · exact h.frame_open rfl rfl rfl rfl id id
      · rintro rfl
        exact hstarts (by simp [startsDevicerxthread, hmain])
  | join hmain hrx =>
      cases hout
      apply Forwarding.joined
      exact h.frame_open rfl rfl rfl rfl id id
  | cancel hmain hrx =>
      cases hout
      apply Forwarding.joined
      exact h.frame_open rfl rfl rfl rfl id id
  | receive hmain htoMain =>
      cases hout
      apply Forwarding.waited
      exact h.frame_open rfl rfl rfl rfl id id
  | timeout hmain htoMain =>
      cases hout
      apply Forwarding.waited
      exact h.frame_open rfl rfl rfl rfl id id
  | rxRead hrx => exact h.rxRead hrx hout.symm
  | rxQueue hrx =>
      cases hout
      exact h.rxQueue hrx
  | rxCount hrx =>
      cases hout
      exact h.rxCount hrx _
  | @workerCommand command toWorker dealer sent hworker htoWorker =>
      have hrunning : s.worker.exited = false := by rw [hworker]; rfl
      have htaken : Forwarding { s with toWorker } :=
        h.frame_open rfl rfl rfl rfl id id
      cases command with
      | iConnect =>
          cases hout
          refine htaken.hostiothreadConnectToHostctrl hrunning fun hfails => ?_
          apply hcloses
          cases sent <;> cases dealer <;>
            simp_all [closesHostctrlSocket]
      | iDisconnect =>
          refine htaken.hostiothreadDisconnectFromHostctrl hrunning
            (fun _ hsent => ?_) hout.symm
          exact hcloses (by simp [closesHostctrlSocket, htoWorker, hsent])
  | @workerReply command reply rest hworker hsocket =>
      have hrunning : s.worker.exited = false := by rw [hworker]; rfl
      obtain ⟨rv, hrv, hout⟩ := bind_eq_ok.mp hout.symm
      cases hout
      refine Forwarding.cmdDone ?_ hrunning fun hcommand => hcloses ?_
      · exact h.frame_open rfl rfl rfl rfl id (fun _ => rfl)
      · rcases hcommand with rfl | ⟨rfl, hfailed⟩
        · simp [closesHostctrlSocket, hworker]
        · simp [closesHostctrlSocket, hworker, hsocket,
            acknowledges_of_sendCmdReply hrv hfailed]
  | workerTimeout hworker hsocket =>
      have hrunning : s.worker.exited = false := by rw [hworker]; rfl
      cases hout
      refine h.cmdDone hrunning fun hcommand => hcloses ?_
      rcases hcommand with rfl | ⟨rfl, -⟩ <;>
        simp [closesHostctrlSocket, hworker]
  | workerReceive hworker hsocket =>
      refine Forwarding.hostiothreadRcvFromHostctrl ?_ ?_ hout.symm
      · exact h.frame_open rfl rfl rfl rfl id (fun _ => rfl)
      · rw [hworker]
        rfl
  | workerReceiveLeaked hworker hleaked =>
      refine h.hostiothreadRcvFromHostctrl ?_ hout.symm
      rw [hworker]
      rfl
  | workerForward hworker hrx => exact h.workerForward hrx hout.symm
  | workerSignal hworker =>
      cases hout
      exact h.frame_open rfl rfl rfl rfl (by simp [WorkerPc.exited]) id
  | workerStop hworker =>
      cases hout
      exact h.frame_open rfl rfl rfl rfl
        (by simp [WorkerPc.exited, Threads.sendStatus]) id
  | workerEnd hworker =>
      cases hout
      exact h.frame_open rfl rfl rfl rfl (by simp [WorkerPc.exited]) id
  | hostctrl hsocket =>
      cases hout
      exact h.frame_open rfl rfl rfl rfl id (fun _ => rfl)

theorem Forwarding.forwardsInOrder {s : Threads} (h : Forwarding s) :
    ForwardsInOrder s := by
  constructor
  · exact (List.prefix_append _ _).trans h.inOrder
  · intro outcome hstep
    cases hstep with
    | workerForward hworker hrx =>
        have hopen := h.isOpen (by rw [hworker]; rfl) (.inr (by simp [hrx]))
        rw [Threads.forwardDevicerxToHostctrl, returns_assertThat_bind]
        exact ⟨hopen, returns_ok _⟩

def OrderlyStep (s : Threads) (action : Action) (s' : Threads) : Prop :=
  Goes s action s' ∧ Orderly s action

/-- In every run whose steps are orderly, the host controller gets the packets
in order, and only while the worker is connected to it. -/
theorem forwardsInOrder_of_orderly {history : List Action} {s : Threads}
    (run : Runs OrderlyStep osdGatewayNew history s) : ForwardsInOrder s := by
  apply Forwarding.forwardsInOrder
  refine run.invariant (I := fun _ s => Forwarding s)
    forwarding_osdGatewayNew ?_
  intro _ before action after _ hbefore hstep
  exact hbefore.step hstep.1 hstep.2

/-! ## Schedules -/

def ackReply : Message := ⟨ascii "M", [ascii "ACK"]⟩

/-- `osd_gateway_connect` with a host controller that acknowledges. -/
def connecting : List Action :=
  [.call .osdGatewayConnect, .main, .main, .workerCommand true true,
    .hostctrl ackReply, .workerReply, .main, .main, .main]

def smallPacket : Packet := ⟨3, [0, 0x400, 0x8000]⟩

def reading : List Action :=
  [.rxRead osdOk (some smallPacket), .rxQueue, .rxCount]

theorem forwardsInOrder_one_packet :
    ∃ history s, Runs OrderlyStep osdGatewayNew history s ∧
      s.sent = [packetMessage smallPacket] ∧ ForwardsInOrder s := by
  have run : ∃ s, s.sent = [packetMessage smallPacket] ∧
      performAll (fun s action => decide (Orderly s action)) osdGatewayNew
        (connecting ++ reading ++ [.workerForward]) = some s :=
    ⟨_, rfl, rfl⟩
  obtain ⟨s, hsent, hrun⟩ := run
  have horderly : Runs OrderlyStep osdGatewayNew
      (connecting ++ reading ++ [.workerForward]) s :=
    (runs_of_performAll hrun).mono fun _ _ _ h => ⟨h.1, of_decide_eq_true h.2⟩
  exact ⟨_, s, horderly, hsent, forwardsInOrder_of_orderly horderly⟩

/-- The receive thread ends behind a queued packet, the main thread
disconnects, and the worker serves its command before the packet. -/
def leavingPacket : List Action :=
  connecting ++ reading ++ [.rxRead osdErrorNotConnected none] ++
    [.call .osdGatewayIsConnected, .main, .main, .main, .main,
      .workerCommand true true, .hostctrl ackReply, .workerReply]

theorem not_forwardsInOrder_leaving_packet :
    ∃ history s, Runs Goes osdGatewayNew history s ∧ ¬ForwardsInOrder s := by
  have run : ∃ s, perform s .workerForward = some (.error .assertion) ∧
      performAll (fun _ _ => true) osdGatewayNew leavingPacket = some s :=
    ⟨_, rfl, rfl⟩
  obtain ⟨s, hforward, hrun⟩ := run
  refine ⟨_, s, (runs_of_performAll hrun).mono fun _ _ _ h => h.1, ?_⟩
  intro h
  have := h.2 _ (step_of_perform hforward)
  simp at this

end Osd.Gateway
