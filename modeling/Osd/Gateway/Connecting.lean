import Osd.Gateway.Coupling
import Osd.Gateway.Forwarding

/-!
# Connecting

`osd_gateway_connect` with a host controller that acknowledges GW_REGISTER and
a device that works, from a gateway that is not connected, has its worker and
has left no packet behind.  The call goes through few stages.
-/

namespace Osd.Gateway

open Osd.Foundation Osd.HostCtrl

/-! ## The surroundings -/

/-- A data message with a frame of whole words that holds a header. -/
def Message.carriesPacket (msg : Message) : Bool :=
  match msg.frames with
  | [] => false
  | dataFrame :: _ => msg.type = ascii "D" ∧ dataFrame.length % 2 = 0 ∧
      packetHeaderWordCnt ≤ dataFrame.length / 2

/-- What the host controller sends: the reply to a request, and packets to a
registered gateway. -/
def Message.expected (msg : Message) (s : Threads) : Prop :=
  match s.worker, s.hostctrlSocket with
  | .sendCmd .gwRegister, some [] => msg.acknowledges = true
  | .sendCmd (.gwUnregister _), _ =>
      msg.carriesPacket = true ∨ msg.type = ascii "M" ∧ msg.frames ≠ []
  | _, _ => msg.carriesPacket = true

/-- The main thread is in one call, the worker answers in time, the host
controller acknowledges and the device works. -/
def Favourable (s : Threads) : Action → Prop
  | .call _ => False
  | .mainTimeout => False
  | .rxRead rv rcvPacket =>
      rv ≠ osdErrorNotConnected ∧
        (osdFailed rv = false → rcvPacket.isSome = true)
  | .workerCommand dealer sent => dealer = true ∧ sent = true
  | .workerTimeout => s.worker ≠ .sendCmd .gwRegister
  | .workerReceive deviceWriteRv sent =>
      osdFailed deviceWriteRv = false ∧ sent = true
  | .workerReceiveLeaked _ deviceWriteRv sent =>
      osdFailed deviceWriteRv = false ∧ sent = true
  | .hostctrl msg => msg.expected s
  | _ => True

def FavourableStep (s : Threads) (action : Action) (s' : Threads) : Prop :=
  Goes s action s' ∧ Favourable s action

theorem Favourable.served {s : Threads} {action : Action}
    (h : Favourable s action) : action.served = true := by
  cases action with
  | mainTimeout => exact h.elim
  | workerCommand dealer sent => exact h.2
  | workerReceive deviceWriteRv sent => exact h.2
  | workerReceiveLeaked msg deviceWriteRv sent => exact h.2
  | _ => rfl

def Threads.called (s : Threads) : Threads :=
  { s with main := ApiCall.osdGatewayConnect.ops }

/-- The call fails no assertion, can always return, and has then connected the
gateway and left a receive thread running. -/
def Connects (s : Threads) : Prop :=
  ∀ history s', Runs FavourableStep s.called history s' →
    (∀ action fault, Favourable s' action →
      ¬GatewayStep s' action (.error fault)) ∧
    (∃ later final, Runs FavourableStep s' later final ∧ final.main = []) ∧
    (s'.main = [] → s'.returned = osdOk ∧ s'.isConnectedToHostctrl = true ∧
      s'.isConnectedToDevice = true ∧ s'.rx.active = true)

/-! ## The stages of a call that succeeds -/

structure Detached (s : Threads) : Prop where
  device : s.isConnectedToDevice = false
  socket : s.deviceRxSocket = false
  rx : s.rx = .none
  empty : s.deviceRx = []
  noLeak : s.leakedSockets = 0

structure Attached (s : Threads) : Prop where
  device : s.isConnectedToDevice = true
  rx : s.rx.active = true
  noLeak : s.leakedSockets = 0

theorem Detached.frame {s s' : Threads} (h : Detached s)
    (hframe : s'.isConnectedToDevice = s.isConnectedToDevice ∧
      s'.deviceRxSocket = s.deviceRxSocket ∧ s'.rx = s.rx ∧
      s'.deviceRx = s.deviceRx ∧ s'.leakedSockets = s.leakedSockets) :
    Detached s' := by
  obtain ⟨hdevice, hsocket, hrx, hempty, hleak⟩ := hframe
  exact ⟨hdevice.trans h.device, hsocket.trans h.socket, hrx.trans h.rx,
    hempty.trans h.empty, hleak.trans h.noLeak⟩

theorem Attached.frame {s s' : Threads} (h : Attached s)
    (hframe : s'.isConnectedToDevice = s.isConnectedToDevice ∧
      s'.rx = s.rx ∧ s'.leakedSockets = s.leakedSockets) : Attached s' := by
  obtain ⟨hdevice, hrx, hleak⟩ := hframe
  exact ⟨hdevice.trans h.device, hrx ▸ h.rx, hleak.trans h.noLeak⟩

inductive LocalStage : List MainOp → Nat → Prop
  | perform :
      LocalStage (.performOutstandingMainThreadTasks :: connectOps) 11
  | device :
      LocalStage (.disconnectFromDevice :: .disconnectFromHostctrl ::
        .clearDeviceDisconnectDetected :: connectOps) 10
  | hostctrl :
      LocalStage (.disconnectFromHostctrl ::
        .clearDeviceDisconnectDetected :: connectOps) 9
  | clear : LocalStage (.clearDeviceDisconnectDetected :: connectOps) 8
  | connect : LocalStage connectOps 7

theorem LocalStage.pos {ops : List MainOp} {n : Nat} (h : LocalStage ops n) :
    0 < n := by
  cases h <;> omega

def onlineLink : Link := ⟨true, none, [], .zloop, true, []⟩

/-- The stages, each with a bound on the steps that are left. -/
inductive Stage (s : Threads) : Nat → Prop
  | offline {n : Nat} (hmain : LocalStage s.main n)
      (hlink : s.link = ⟨false, none, [], .zloop, false, []⟩)
      (hdevice : Detached s) : Stage s n
  | called
      (hmain : s.main =
        [.workerWaitForStatus .iConnectDone, .connectToDevice, .statsStart])
      (hlink : s.link =
        ⟨false, some .iConnectDone, [.iConnect], .zloop, false, []⟩)
      (hdevice : Detached s) : Stage s 6
  | requested
      (hmain : s.main =
        [.workerWaitForStatus .iConnectDone, .connectToDevice, .statsStart])
      (hlink : s.link =
        ⟨false, some .iConnectDone, [], .sendCmd .gwRegister, true, []⟩)
      (hinbox : s.hostctrlSocket = some []) (hdevice : Detached s) : Stage s 5
  | acknowledged {reply : Message} {inbox : List Message}
      (hmain : s.main =
        [.workerWaitForStatus .iConnectDone, .connectToDevice, .statsStart])
      (hlink : s.link =
        ⟨false, some .iConnectDone, [], .sendCmd .gwRegister, true, []⟩)
      (hinbox : s.hostctrlSocket = some (reply :: inbox))
      (hreply : reply.acknowledges = true)
      (hpackets : ∀ msg ∈ inbox, msg.carriesPacket = true)
      (hdevice : Detached s) : Stage s 4
  | answered {inbox : List Message}
      (hmain : s.main =
        [.workerWaitForStatus .iConnectDone, .connectToDevice, .statsStart])
      (hlink : s.link =
        ⟨false, some .iConnectDone, [], .zloop, true, [connectStatus 0]⟩)
      (hinbox : s.hostctrlSocket = some inbox)
      (hpackets : ∀ msg ∈ inbox, msg.carriesPacket = true)
      (hdevice : Detached s) : Stage s 3
  | connected {inbox : List Message}
      (hmain : s.main = [.connectToDevice, .statsStart])
      (hlink : s.link = onlineLink) (hinbox : s.hostctrlSocket = some inbox)
      (hpackets : ∀ msg ∈ inbox, msg.carriesPacket = true)
      (hdevice : Detached s) : Stage s 2
  | attached {inbox : List Message} (hmain : s.main = [.statsStart])
      (hlink : s.link = onlineLink) (hinbox : s.hostctrlSocket = some inbox)
      (hpackets : ∀ msg ∈ inbox, msg.carriesPacket = true)
      (hdevice : Attached s) : Stage s 1
  | returned {inbox : List Message} (hmain : s.main = [])
      (hreturned : s.returned = osdOk) (hlink : s.link = onlineLink)
      (hinbox : s.hostctrlSocket = some inbox)
      (hpackets : ∀ msg ∈ inbox, msg.carriesPacket = true)
      (hdevice : Attached s) : Stage s 0

/-! ## What the threads do in a stage -/

theorem rcvFromHostctrl_packet (s : Threads) {msg : Message}
    {deviceWriteRv : OsdResult} (hpacket : msg.carriesPacket = true)
    (hwrite : osdFailed deviceWriteRv = false) (sent : Bool) :
    ∃ stats, s.hostiothreadRcvFromHostctrl msg deviceWriteRv sent =
      .ok { s with stats } := by
  unfold Message.carriesPacket at hpacket
  split at hpacket
  · cases hpacket
  · rename_i dataFrame rest hframes
    obtain ⟨htype, heven, hsize⟩ := of_decide_eq_true hpacket
    have hframe : ∃ pkg, osdPacketNewFromZframe dataFrame = .ok pkg := by
      unfold osdPacketNewFromZframe
      rw [assertThat_bind hsize]
      refine ⟨_, inBounds_bind ?_⟩
      simp only [osdPacketNew, List.length_replicate]
      omega
    obtain ⟨pkg, hpkg⟩ := hframe
    unfold Threads.hostiothreadRcvFromHostctrl
    rw [assertThat_bind htype, hframes]
    dsimp only
    rw [hpkg, ok_bind, if_neg (by simp [hwrite])]
    exact ⟨_, rfl⟩

theorem sendCmdReply_acknowledges {reply : Message}
    (h : reply.acknowledges = true) :
    sendCmdReply (some reply) = .ok osdOk := by
  obtain ⟨htype, hstatus⟩ : reply.type = ascii "M" ∧
      reply.frames.head? = some (ascii "ACK") := by
    simpa [Message.acknowledges] using h
  unfold sendCmdReply
  dsimp only
  rw [assertThat_bind htype]
  cases hframes : reply.frames with
  | nil => simp [hframes] at hstatus
  | cons status rest =>
      obtain rfl : status = ascii "ACK" := by simpa [hframes] using hstatus
      rfl

section Steps

variable {s : Threads} {n : Nat} {action : Action} {outcome : Outcome Threads}

/-- The call goes on in this or a later stage. -/
def Continues (outcome : Outcome Threads) (n : Nat) : Prop :=
  ∃ s' m, outcome = .ok s' ∧ m ≤ n ∧ Stage s' m

theorem Continues.of {s' : Threads} {m : Nat} (hle : m ≤ n)
    (h : Stage s' m) : Continues (.ok s') n :=
  ⟨s', m, rfl, hle, h⟩

theorem Stage.runMainOp_offline {op : MainOp} {rest : List MainOp}
    (hstage : LocalStage (op :: rest) n) (hmain : s.main = op :: rest)
    (hlink : s.link = ⟨false, none, [], .zloop, false, []⟩)
    (hdevice : Detached s) :
    ∃ m, m < n ∧ Continues ({ s with main := rest }.runMainOp op) m := by
  simp [Threads.link, hmain] at hlink
  obtain ⟨hconnected, -, htoWorker, hworker, hsocket, htoMain⟩ := hlink
  have hsame : ∀ ops returned, Detached { s with main := ops, returned } :=
    fun ops returned => hdevice.frame ⟨rfl, rfl, rfl, rfl, rfl⟩
  have hoffline : ∀ {ops : List MainOp} {m : Nat}, LocalStage ops m →
      Stage { s with main := ops } m := by
    intro ops m hops
    refine .offline hops ?_ (hsame ops _)
    cases hops <;> simp [Threads.link, connectOps, MainOp.awaits, hconnected,
      htoWorker, hworker, hsocket, htoMain]
  cases hstage with
  | perform =>
      dsimp only [Threads.runMainOp]
      split
      · exact ⟨10, by omega, .of le_rfl (hoffline .device)⟩
      · exact ⟨7, by omega, .of le_rfl (hoffline .connect)⟩
  | device =>
      dsimp only [Threads.runMainOp]
      rw [if_neg (by simp [hdevice.device])]
      exact ⟨9, by omega, .of le_rfl (hoffline .hostctrl)⟩
  | hostctrl =>
      dsimp only [Threads.runMainOp]
      rw [if_neg (by simp [hconnected])]
      exact ⟨8, by omega, .of le_rfl (hoffline .clear)⟩
  | clear =>
      refine ⟨7, by omega, .of le_rfl (.offline .connect ?_ ?_)⟩
      · simp [Threads.link, connectOps, MainOp.awaits, hconnected, htoWorker,
          hworker, hsocket, htoMain]
      · exact hdevice.frame ⟨rfl, rfl, rfl, rfl, rfl⟩
  | connect =>
      dsimp only [Threads.runMainOp]
      rw [if_neg (by simp [hconnected]),
        if_pos (by simp [Threads.threadIsRunning, hworker])]
      refine ⟨6, by omega, .of le_rfl (.called rfl ?_ ?_)⟩
      · simp [Threads.link, MainOp.awaits, hconnected, htoWorker, hworker,
          hsocket, htoMain]
      · exact hdevice.frame ⟨rfl, rfl, rfl, rfl, rfl⟩

theorem Stage.runMainOp {op : MainOp} {rest : List MainOp} (h : Stage s n)
    (hmain : s.main = op :: rest) (hop : op.waits = false) :
    ∃ m, m < n ∧ Continues ({ s with main := rest }.runMainOp op) m := by
  cases h with
  | offline hstage hlink hdevice =>
      exact runMainOp_offline (hmain ▸ hstage) hmain hlink hdevice
  | connected hops hlink hinbox hpackets hdevice =>
      obtain ⟨rfl, rfl⟩ := List.cons.inj (hmain.symm.trans hops)
      dsimp only [Threads.runMainOp]
      rw [assertThat_bind hdevice.socket]
      refine ⟨1, by omega, .of le_rfl (.attached rfl ?_ hinbox hpackets ?_)⟩
      · simpa [Threads.link, hops, MainOp.awaits] using hlink
      · exact ⟨rfl, rfl, hdevice.noLeak⟩
  | attached hops hlink hinbox hpackets hdevice =>
      obtain ⟨rfl, rfl⟩ := List.cons.inj (hmain.symm.trans hops)
      refine ⟨0, by omega, .of le_rfl (.returned rfl rfl ?_ hinbox hpackets ?_)⟩
      · simpa [Threads.link, hops, MainOp.awaits] using hlink
      · exact hdevice.frame ⟨rfl, rfl, rfl⟩
  | called hops _ _ =>
      obtain ⟨rfl, rfl⟩ := List.cons.inj (hmain.symm.trans hops)
      cases hop
  | requested hops _ _ _ =>
      obtain ⟨rfl, rfl⟩ := List.cons.inj (hmain.symm.trans hops)
      cases hop
  | acknowledged hops _ _ _ _ _ =>
      obtain ⟨rfl, rfl⟩ := List.cons.inj (hmain.symm.trans hops)
      cases hop
  | answered hops _ _ _ _ =>
      obtain ⟨rfl, rfl⟩ := List.cons.inj (hmain.symm.trans hops)
      cases hop
  | returned hops _ _ _ _ _ => cases hmain.symm.trans hops

theorem Stage.received {name : StatusName} {rest : List MainOp}
    {status : Status} {toMain : List Status} (h : Stage s n)
    (hmain : s.main = .workerWaitForStatus name :: rest)
    (htoMain : s.toMain = status :: toMain) :
    ∃ m, m < n ∧ Stage ({ s with main := rest, toMain }.waited (some status)
      name) m := by
  cases h with
  | answered hops hlink hinbox hpackets hdevice =>
      simp [Threads.link, hmain, htoMain, MainOp.awaits] at hlink
      obtain ⟨hconnected, rfl, htoWorker, hworker, hsocket, rfl, rfl⟩ := hlink
      obtain ⟨-, rfl⟩ := List.cons.inj (hmain.symm.trans hops)
      rw [waited_connected]
      refine ⟨2, by omega, .connected rfl ?_ hinbox hpackets ?_⟩
      · simp [Threads.link, onlineLink, MainOp.awaits, htoWorker, hworker,
          hsocket]
      · exact hdevice.frame ⟨rfl, rfl, rfl, rfl, rfl⟩
  | offline hstage hlink _ =>
      simp [Threads.link, hmain, MainOp.awaits] at hlink
  | called hops hlink _ =>
      simp [Threads.link, htoMain] at hlink
  | requested hops hlink _ _ => simp [Threads.link, htoMain] at hlink
  | acknowledged hops hlink _ _ _ _ => simp [Threads.link, htoMain] at hlink
  | connected hops _ _ _ _ => cases hmain.symm.trans hops
  | attached hops _ _ _ _ => cases hmain.symm.trans hops
  | returned hops _ _ _ _ _ => cases hmain.symm.trans hops

theorem Stage.workerCommand {command : Command} {toWorker : List Command}
    (h : Stage s n) (htoWorker : s.toWorker = command :: toWorker) :
    ∃ m, m < n ∧ Continues ({ s with toWorker }.hostiothreadHandleInprocRequest
      command true true) m := by
  cases h with
  | called hops hlink hdevice =>
      simp [Threads.link, htoWorker] at hlink
      obtain ⟨hconnected, hwaits, ⟨rfl, rfl⟩, hworker, hsocket, htoMain⟩ := hlink
      refine ⟨5, by omega, .of le_rfl (.requested hops ?_ rfl ?_)⟩
      · simp [Threads.link, Threads.hostiothreadConnectToHostctrl, hconnected,
          hwaits, htoMain]
      · exact hdevice.frame ⟨rfl, rfl, rfl, rfl, by
          simp [Threads.hostiothreadConnectToHostctrl, hsocket]⟩
  | offline _ hlink _ => simp [Threads.link, htoWorker] at hlink
  | requested _ hlink _ _ => simp [Threads.link, htoWorker] at hlink
  | acknowledged _ hlink _ _ _ _ => simp [Threads.link, htoWorker] at hlink
  | answered _ hlink _ _ _ => simp [Threads.link, htoWorker] at hlink
  | connected _ hlink _ _ _ =>
      simp [Threads.link, onlineLink, htoWorker] at hlink
  | attached _ hlink _ _ _ =>
      simp [Threads.link, onlineLink, htoWorker] at hlink
  | returned _ _ hlink _ _ _ =>
      simp [Threads.link, onlineLink, htoWorker] at hlink

/-- The worker sends commands only to register. -/
theorem Stage.sendCmd {command : GwCommand} (h : Stage s n)
    (hworker : s.worker = .sendCmd command) :
    command = .gwRegister ∧ Detached s ∧
      s.link = ⟨false, some .iConnectDone, [], .sendCmd .gwRegister, true, []⟩ ∧
      s.main = [.workerWaitForStatus .iConnectDone, .connectToDevice,
        .statsStart] ∧
      (n = 5 ∧ s.hostctrlSocket = some [] ∨
        n = 4 ∧ ∃ reply inbox, s.hostctrlSocket = some (reply :: inbox) ∧
          reply.acknowledges = true ∧
          ∀ msg ∈ inbox, msg.carriesPacket = true) := by
  have hpc : ∀ {link : Link}, s.link = link → link.worker = .sendCmd command := by
    rintro link rfl
    exact hworker
  cases h with
  | requested hops hlink hinbox hdevice =>
      refine ⟨?_, hdevice, hlink, hops, .inl ⟨rfl, hinbox⟩⟩
      simpa using (hpc hlink).symm
  | acknowledged hops hlink hinbox hreply hpackets hdevice =>
      refine ⟨?_, hdevice, hlink, hops,
        .inr ⟨rfl, _, _, hinbox, hreply, hpackets⟩⟩
      simpa using (hpc hlink).symm
  | offline _ hlink _ => cases hpc hlink
  | called _ hlink _ => cases hpc hlink
  | answered _ hlink _ _ _ => cases hpc hlink
  | connected _ hlink _ _ _ => cases hpc hlink
  | attached _ hlink _ _ _ => cases hpc hlink
  | returned _ _ hlink _ _ _ => cases hpc hlink

theorem Stage.workerReply {command : GwCommand} {reply : Message}
    {rest : List Message} (h : Stage s n)
    (hworker : s.worker = .sendCmd command)
    (hsocket : s.hostctrlSocket = some (reply :: rest)) :
    ∃ m, m < n ∧ Continues (do
      let rv ← sendCmdReply (some reply)
      .ok ({ s with hostctrlSocket := some rest }.cmdDone command rv)) m := by
  obtain ⟨rfl, hdevice, hlink, hops, hinbox⟩ := h.sendCmd hworker
  rcases hinbox with ⟨-, hempty⟩ | ⟨rfl, first, inbox, hsome, hreply, hpackets⟩
  · cases hsocket.symm.trans hempty
  · obtain ⟨rfl, rfl⟩ : reply = first ∧ rest = inbox := by
      simpa using hsocket.symm.trans hsome
    simp [Threads.link, hops, MainOp.awaits] at hlink
    obtain ⟨hconnected, htoWorker, -, -, htoMain⟩ := hlink
    rw [sendCmdReply_acknowledges hreply, ok_bind]
    refine ⟨3, by omega, .of le_rfl (.answered hops ?_ rfl hpackets ?_)⟩
    · simp [Threads.cmdDone, Threads.registered, Threads.sendStatus,
        Threads.link, hops, MainOp.awaits, hconnected, htoWorker, htoMain]
    · exact hdevice.frame ⟨rfl, rfl, rfl, rfl, rfl⟩

theorem Stage.inbox {waiting : List Message} (h : Stage s n)
    (hworker : s.worker = .zloop) (hsocket : s.hostctrlSocket = some waiting) :
    (∀ msg ∈ waiting, msg.carriesPacket = true) ∧
      ∀ inbox stats, (∀ msg ∈ inbox, msg.carriesPacket = true) →
        Stage { s with hostctrlSocket := some inbox, stats } n := by
  cases h with
  | answered hops hlink hinbox hpackets hdevice =>
      obtain rfl := Option.some.inj (hsocket.symm.trans hinbox)
      refine ⟨hpackets, fun inbox stats hall => .answered hops ?_ rfl hall ?_⟩
      · simpa [Threads.link, hsocket] using hlink
      · exact hdevice.frame ⟨rfl, rfl, rfl, rfl, rfl⟩
  | connected hops hlink hinbox hpackets hdevice =>
      obtain rfl := Option.some.inj (hsocket.symm.trans hinbox)
      refine ⟨hpackets, fun inbox stats hall => .connected hops ?_ rfl hall ?_⟩
      · simpa [Threads.link, hsocket] using hlink
      · exact hdevice.frame ⟨rfl, rfl, rfl, rfl, rfl⟩
  | attached hops hlink hinbox hpackets hdevice =>
      obtain rfl := Option.some.inj (hsocket.symm.trans hinbox)
      refine ⟨hpackets, fun inbox stats hall => .attached hops ?_ rfl hall ?_⟩
      · simpa [Threads.link, hsocket] using hlink
      · exact hdevice.frame ⟨rfl, rfl, rfl⟩
  | returned hops hreturned hlink hinbox hpackets hdevice =>
      obtain rfl := Option.some.inj (hsocket.symm.trans hinbox)
      refine ⟨hpackets,
        fun inbox stats hall => .returned hops hreturned ?_ rfl hall ?_⟩
      · simpa [Threads.link, hsocket] using hlink
      · exact hdevice.frame ⟨rfl, rfl, rfl⟩
  | offline _ hlink _ => simp [Threads.link, hsocket] at hlink
  | called _ hlink _ => simp [Threads.link, hsocket] at hlink
  | requested _ hlink _ _ => simp [Threads.link, hworker] at hlink
  | acknowledged _ hlink _ _ _ _ => simp [Threads.link, hworker] at hlink

theorem Stage.receiving (h : Stage s n)
    (hmoves : s.rx.active = true ∨ s.deviceRx ≠ []) :
    s.rx.active = true ∧ s.hostctrlSocket.isSome = true ∧
      ∀ rx deviceRx sent read stats, RxPc.active rx = true →
        Stage { s with rx, deviceRx, sent, read, stats } n := by
  have hdetached : ¬Detached s := by
    intro hdevice
    rcases hmoves with hactive | hwaiting
    · simp [hdevice.rx, RxPc.active] at hactive
    · exact hwaiting hdevice.empty
  cases h with
  | attached hops hlink hinbox hpackets hdevice =>
      refine ⟨hdevice.rx, by simp [hinbox],
        fun rx deviceRx sent read stats hrx => ?_⟩
      exact .attached hops hlink hinbox hpackets
        ⟨hdevice.device, hrx, hdevice.noLeak⟩
  | returned hops hreturned hlink hinbox hpackets hdevice =>
      refine ⟨hdevice.rx, by simp [hinbox],
        fun rx deviceRx sent read stats hrx => ?_⟩
      exact .returned hops hreturned hlink hinbox hpackets
        ⟨hdevice.device, hrx, hdevice.noLeak⟩
  | offline _ _ hdevice => exact absurd hdevice hdetached
  | called _ _ hdevice => exact absurd hdevice hdetached
  | requested _ _ _ hdevice => exact absurd hdevice hdetached
  | acknowledged _ _ _ _ _ hdevice => exact absurd hdevice hdetached
  | answered _ _ _ _ hdevice => exact absurd hdevice hdetached
  | connected _ _ _ _ hdevice => exact absurd hdevice hdetached

theorem Stage.frame (h : Stage s n) :
    s.worker.exited = false ∧ s.leakedSockets = 0 ∧
      ∀ rest, s.main ≠ .joinDevicerxthread :: rest := by
  have hpc : ∀ {link : Link}, s.link = link → s.worker = link.worker := by
    rintro link rfl
    rfl
  cases h with
  | offline hstage hlink hdevice =>
      refine ⟨by simp [hpc hlink, WorkerPc.exited], hdevice.noLeak, ?_⟩
      rintro rest hmain
      rw [hmain] at hstage
      cases hstage
  | called hops hlink hdevice =>
      exact ⟨by simp [hpc hlink, WorkerPc.exited], hdevice.noLeak, by simp [hops]⟩
  | requested hops hlink _ hdevice =>
      exact ⟨by simp [hpc hlink, WorkerPc.exited], hdevice.noLeak, by simp [hops]⟩
  | acknowledged hops hlink _ _ _ hdevice =>
      exact ⟨by simp [hpc hlink, WorkerPc.exited], hdevice.noLeak, by simp [hops]⟩
  | answered hops hlink _ _ hdevice =>
      exact ⟨by simp [hpc hlink, WorkerPc.exited], hdevice.noLeak, by simp [hops]⟩
  | connected hops hlink _ _ hdevice =>
      exact ⟨by simp [hpc hlink, onlineLink, WorkerPc.exited], hdevice.noLeak,
        by simp [hops]⟩
  | attached hops hlink _ _ hdevice =>
      exact ⟨by simp [hpc hlink, onlineLink, WorkerPc.exited], hdevice.noLeak,
        by simp [hops]⟩
  | returned hops _ hlink _ _ hdevice =>
      exact ⟨by simp [hpc hlink, onlineLink, WorkerPc.exited], hdevice.noLeak,
        by simp [hops]⟩

theorem WorkerPc.running {worker : WorkerPc} (h : worker.exited = false) :
    worker = .zloop ∨ ∃ command, worker = .sendCmd command := by
  cases worker with
  | zloop => exact .inl rfl
  | sendCmd command => exact .inr ⟨command, rfl⟩
  | _ => cases h

theorem Continues.of_lt (h : ∃ m, m < n ∧ Continues outcome m) :
    Continues outcome n := by
  obtain ⟨m, hlt, s', k, houtcome, hle, hstage⟩ := h
  exact ⟨s', k, houtcome, by omega, hstage⟩

theorem Stage.rxRead {rv : OsdResult} {rcvPacket : Option Packet}
    (h : Stage s n) (hrx : s.rx = .reading) (hrv : rv ≠ osdErrorNotConnected)
    (hpacket : osdFailed rv = false → rcvPacket.isSome = true) :
    Continues (s.devicerxthreadRead rv rcvPacket) n := by
  obtain ⟨-, -, hmoves⟩ := h.receiving (.inl (by simp [hrx, RxPc.active]))
  unfold Threads.devicerxthreadRead devicerxthreadRound
  by_cases hfailed : osdFailed rv = true
  · rw [if_pos hfailed, if_neg hrv]
    exact .of le_rfl h
  · obtain ⟨packet, rfl⟩ := Option.isSome_iff_exists.mp
      (hpacket (by simpa using hfailed))
    rw [if_neg hfailed]
    exact .of le_rfl (hmoves _ s.deviceRx s.sent _ s.stats rfl)

theorem Stage.hostctrl {msg : Message} {waiting : List Message}
    (h : Stage s n) (hsocket : s.hostctrlSocket = some waiting)
    (hexpected : msg.expected s) :
    Continues (.ok { s with hostctrlSocket := some (waiting ++ [msg]) }) n := by
  have hmore : ∀ {packets : List Message},
      (∀ msg ∈ packets, msg.carriesPacket = true) →
      msg.carriesPacket = true →
        ∀ other ∈ packets ++ [msg], other.carriesPacket = true := by
    intro packets hpackets hmsg other hother
    rcases List.mem_append.mp hother with hold | hnew
    · exact hpackets other hold
    · exact List.mem_singleton.mp hnew ▸ hmsg
  rcases WorkerPc.running h.frame.1 with hworker | ⟨command, hworker⟩
  · obtain ⟨hpackets, hinbox⟩ := h.inbox hworker hsocket
    have hmsg : msg.carriesPacket = true := by
      simpa [Message.expected, hworker] using hexpected
    exact .of le_rfl (hinbox _ s.stats (hmore hpackets hmsg))
  · obtain ⟨rfl, hdevice, hlink, hops, hinbox⟩ := h.sendCmd hworker
    rcases hinbox with ⟨rfl, hempty⟩ |
      ⟨rfl, reply, inbox, hsome, hreply, hpackets⟩
    · obtain rfl := Option.some.inj (hsocket.symm.trans hempty)
      have hmsg : msg.acknowledges = true := by
        simpa [Message.expected, hworker, hempty] using hexpected
      refine .of (by omega) (.acknowledged hops ?_ rfl hmsg (by simp) ?_)
      · simpa [Threads.link, hempty] using hlink
      · exact hdevice.frame ⟨rfl, rfl, rfl, rfl, rfl⟩
    · obtain rfl := Option.some.inj (hsocket.symm.trans hsome)
      have hmsg : msg.carriesPacket = true := by
        simpa [Message.expected, hworker, hsome] using hexpected
      refine .of le_rfl (.acknowledged hops ?_ rfl hreply
        (hmore hpackets hmsg) ?_)
      · simpa [Threads.link, hsome] using hlink
      · exact hdevice.frame ⟨rfl, rfl, rfl, rfl, rfl⟩

/-- A favourable step fails no assertion and leads to no earlier stage. -/
theorem Stage.step (h : Stage s n) (hstep : GatewayStep s action outcome)
    (hfavourable : Favourable s action) : Continues outcome n := by
  obtain ⟨hrunning, hleak, hjoin⟩ := h.frame
  cases hstep with
  | call hmain => exact hfavourable.elim
  | main hmain hop => exact .of_lt (h.runMainOp hmain hop)
  | join hmain hrx => exact absurd hmain (hjoin _)
  | cancel hmain hrx => exact absurd hmain (hjoin _)
  | receive hmain htoMain =>
      obtain ⟨m, hlt, hstage⟩ := h.received hmain htoMain
      exact .of hlt.le hstage
  | timeout hmain htoMain => exact hfavourable.elim
  | rxRead hrx => exact h.rxRead hrx hfavourable.1 hfavourable.2
  | rxQueue hrx =>
      obtain ⟨-, -, hmoves⟩ := h.receiving (.inl (by simp [hrx, RxPc.active]))
      exact .of le_rfl (hmoves _ _ s.sent s.read s.stats rfl)
  | rxCount hrx =>
      obtain ⟨-, -, hmoves⟩ := h.receiving (.inl (by simp [hrx, RxPc.active]))
      exact .of le_rfl (hmoves _ s.deviceRx s.sent s.read _ rfl)
  | workerCommand hworker htoWorker =>
      obtain ⟨rfl, rfl⟩ := hfavourable
      exact .of_lt (h.workerCommand htoWorker)
  | workerReply hworker hsocket =>
      exact .of_lt (h.workerReply hworker hsocket)
  | workerTimeout hworker hsocket =>
      obtain ⟨rfl, -⟩ := h.sendCmd hworker
      exact absurd hworker hfavourable
  | @workerReceive msg rest deviceWriteRv sent hworker hsocket =>
      obtain ⟨hpackets, hinbox⟩ := h.inbox hworker hsocket
      obtain ⟨stats, hrcv⟩ := rcvFromHostctrl_packet
        { s with hostctrlSocket := some rest } (hpackets msg (by simp))
        hfavourable.1 sent
      rw [hrcv]
      exact .of le_rfl (hinbox rest stats fun other hother =>
        hpackets other (List.mem_cons_of_mem _ hother))
  | workerReceiveLeaked hworker hleaked => omega
  | workerForward hworker hrx =>
      obtain ⟨hactive, hopen, hmoves⟩ := h.receiving (.inr (by simp [hrx]))
      unfold Threads.forwardDevicerxToHostctrl
      rw [assertThat_bind hopen]
      exact .of le_rfl (hmoves s.rx _ _ s.read s.stats hactive)
  | workerSignal hworker => simp [hworker, WorkerPc.exited] at hrunning
  | workerStop hworker => simp [hworker, WorkerPc.exited] at hrunning
  | workerEnd hworker => simp [hworker, WorkerPc.exited] at hrunning
  | hostctrl hsocket => exact h.hostctrl hsocket hfavourable

end Steps

theorem ackReply_acknowledges : ackReply.acknowledges = true := rfl

/-- Until the call returns, a favourable step leads to a later stage. -/
theorem Stage.progress {s : Threads} {n : Nat} (h : Stage s (n + 1)) :
    ∃ action s' m, FavourableStep s action s' ∧ m ≤ n ∧ Stage s' m := by
  have hcontinues : ∀ {action : Action} {outcome : Outcome Threads},
      GatewayStep s action outcome → Favourable s action →
      (∃ m, m < n + 1 ∧ Continues outcome m) →
        ∃ action s' m, FavourableStep s action s' ∧ m ≤ n ∧ Stage s' m := by
    rintro action outcome hstep hfavourable ⟨k, hlt, s', m, rfl, hle, hstage⟩
    exact ⟨action, s', m, ⟨hstep, hfavourable⟩, by omega, hstage⟩
  have hmainOp : ∀ {op : MainOp} {rest : List MainOp}, s.main = op :: rest →
      op.waits = false →
        ∃ action s' m, FavourableStep s action s' ∧ m ≤ n ∧ Stage s' m :=
    fun hmain hop =>
      hcontinues (.main hmain hop) trivial (h.runMainOp hmain hop)
  have hrank : ∀ {m : Nat}, n + 1 = m → Stage s m := by
    rintro m rfl
    exact h
  generalize hn : n + 1 = rank at h
  cases h with
  | offline hstage hlink hdevice =>
      generalize hops : s.main = ops at hstage
      cases hstage with
      | perform => exact hmainOp hops rfl
      | device => exact hmainOp hops rfl
      | hostctrl => exact hmainOp hops rfl
      | clear => exact hmainOp hops rfl
      | connect => exact hmainOp hops rfl
  | called hops hlink hdevice =>
      simp [Threads.link] at hlink
      have hstep : GatewayStep s (.workerCommand true true) _ :=
        .workerCommand hlink.2.2.2.1 hlink.2.2.1
      exact hcontinues hstep ⟨rfl, rfl⟩
        ((hrank rfl).workerCommand hlink.2.2.1)
  | requested hops hlink hinbox hdevice =>
      simp [Threads.link] at hlink
      have hworker := hlink.2.2.2.1
      refine ⟨_, _, 4, ⟨.hostctrl hinbox, ?_⟩, by omega,
        .acknowledged hops ?_ rfl ackReply_acknowledges (by simp) ?_⟩
      · simp [Favourable, Message.expected, hworker, hinbox,
          ackReply_acknowledges]
      · simp [Threads.link, hlink]
      · exact hdevice.frame ⟨rfl, rfl, rfl, rfl, rfl⟩
  | acknowledged hops hlink hinbox hreply hpackets hdevice =>
      simp [Threads.link] at hlink
      have hworker := hlink.2.2.2.1
      exact hcontinues (.workerReply hworker hinbox) trivial
        ((hrank rfl).workerReply hworker hinbox)
  | answered hops hlink hinbox hpackets hdevice =>
      simp [Threads.link] at hlink
      have htoMain := hlink.2.2.2.2.2
      obtain ⟨m, hlt, hnext⟩ := (hrank rfl).received hops htoMain
      exact ⟨_, _, m, ⟨.receive hops htoMain, trivial⟩, by omega, hnext⟩
  | connected hops hlink hinbox hpackets hdevice => exact hmainOp hops rfl
  | attached hops hlink hinbox hpackets hdevice => exact hmainOp hops rfl
  | returned hops hreturned hlink hinbox hpackets hdevice => cases hn

theorem Stage.result {s : Threads} {n : Nat} (h : Stage s n)
    (hmain : s.main = []) :
    s.returned = osdOk ∧ s.isConnectedToHostctrl = true ∧
      s.isConnectedToDevice = true ∧ s.rx.active = true := by
  cases h with
  | returned hops hreturned hlink hinbox hpackets hdevice =>
      simp [Threads.link, onlineLink] at hlink
      exact ⟨hreturned, hlink.1, hdevice.device, hdevice.rx⟩
  | offline hstage hlink hdevice =>
      rw [hmain] at hstage
      cases hstage
  | called hops _ _ => cases hmain.symm.trans hops
  | requested hops _ _ _ => cases hmain.symm.trans hops
  | acknowledged hops _ _ _ _ _ => cases hmain.symm.trans hops
  | answered hops _ _ _ _ => cases hmain.symm.trans hops
  | connected hops _ _ _ _ => cases hmain.symm.trans hops
  | attached hops _ _ _ _ => cases hmain.symm.trans hops

theorem Stage.run {s s' : Threads} {n : Nat} {history : List Action}
    (h : Stage s n) (run : Runs FavourableStep s history s') :
    ∃ m, Stage s' m := by
  refine run.invariant (I := fun _ s => ∃ m, Stage s m) ⟨n, h⟩ ?_
  rintro _ before action after _ ⟨m, hbefore⟩ ⟨hgoes, hfavourable⟩
  obtain ⟨s', k, hok, -, hstage⟩ := hbefore.step hgoes hfavourable
  cases hok
  exact ⟨k, hstage⟩

theorem Stage.connects {s : Threads} {n : Nat} (h : Stage s.called n) :
    Connects s := by
  intro history s' run
  obtain ⟨m, hstage⟩ := h.run run
  refine ⟨fun action fault hfavourable hstep => ?_, ?_, hstage.result⟩
  · obtain ⟨s'', k, hok, -⟩ := hstage.step hstep hfavourable
    cases hok
  · obtain ⟨later, final, hlater, hzero⟩ :=
      Runs.reaches_zero (fun _ _ (h : Stage _ _) => h.progress) hstage
    refine ⟨later, final, hlater, ?_⟩
    generalize hrank : 0 = rank at hzero
    cases hzero with
    | returned hops _ _ _ _ _ => exact hops
    | offline hmain _ _ => exact absurd hrank hmain.pos.ne
    | _ => cases hrank

/-! ## Gateways at rest -/

theorem Linked.idle {s : Threads} (h : Linked s) (hmain : s.main = [])
    (hconnected : s.isConnectedToHostctrl = false)
    (hrunning : s.worker.exited = false) :
    s.link = ⟨false, none, [], .zloop, false, []⟩ := by
  obtain ⟨balance, hsession, -⟩ := h.session
  generalize hlink : s.link = link at hsession
  cases hsession with
  | idle => rfl
  | exited hexited hwaits hstale =>
      simp [Threads.link] at hlink
      simp [← hlink.2.2.2.1, hrunning] at hexited
  | _ => simp [Threads.link, hmain, hconnected] at hlink

theorem Coupled.same {s : Threads} (h : Coupled s) (hmain : s.main = []) :
    s.isConnectedToHostctrl = s.isConnectedToDevice := by
  have hprogress := h.progress
  rw [hmain] at hprogress
  cases hprogress with
  | returned hsame => exact hsame

theorem connects_of_idle {s : Threads} (hlinked : Linked s)
    (hcoupled : Coupled s) (hmain : s.main = [])
    (hconnected : s.isConnectedToHostctrl = false)
    (hrunning : s.worker.exited = false) (hempty : s.deviceRx = []) :
    Connects s := by
  have hlink := hlinked.idle hmain hconnected hrunning
  have hdevice : s.isConnectedToDevice = false :=
    (hcoupled.same hmain).symm.trans hconnected
  have hstage : Stage s.called 11 := by
    refine .offline .perform ?_ ⟨hdevice, hcoupled.socket.trans hdevice,
      hcoupled.thread.mpr hdevice, hempty, hlinked.noLeak⟩
    simpa [Threads.link, Threads.called, ApiCall.ops, MainOp.awaits, hmain]
      using hlink
  exact hstage.connects

end Osd.Gateway
