import Osd.Gateway.Connecting
import Osd.Gateway.Registration

/-!
# Connecting again

`osd_gateway_connect` between two calls, whatever happened before.  It does not
succeed for a gateway that is connected, that has lost its worker to a failed
write, or that has left a packet behind.
-/

namespace Osd.Gateway

open Osd.Foundation Osd.HostCtrl

/-! ## Gateways without a worker -/

/-- A call that can only fail: it has failed, it is on the way to the
connection to the device, or it cannot bind its address. -/
inductive Failing (device : Bool) : List MainOp → OsdResult → Prop
  | failed : Failing device [] osdErrorConnectionFailed
  | ahead {op : MainOp} {ops : List MainOp} {returned : OsdResult}
      (hops : [.connectToDevice, .statsStart] <:+ ops) :
      Failing device (op :: ops) returned
  | bound {returned : OsdResult} (hdevice : device = true) :
      Failing device [.connectToDevice, .statsStart] returned

structure Doomed (s : Threads) : Prop where
  exited : s.worker.exited = true
  linked : Linked s
  coupled : Coupled s
  stale : ∀ status ∈ s.toMain, status.name ≠ .iConnectDone
  failing : Failing s.isConnectedToDevice s.main s.returned

theorem Failing.rest {device : Bool} {op : MainOp} {rest : List MainOp}
    {returned : OsdResult} (h : Failing device (op :: rest) returned)
    (hop : op ≠ .connectToDevice) :
    [.connectToDevice, .statsStart] <:+ rest := by
  cases h with
  | ahead hops => exact hops
  | bound hdevice => exact absurd rfl hop

theorem AfterDisconnect.connects {rest : List MainOp}
    (h : AfterDisconnect rest)
    (hsuffix : [.connectToDevice, .statsStart] <:+ rest) :
    rest = .clearDeviceDisconnectDetected :: connectOps := by
  cases h with
  | returned => exact absurd hsuffix (by decide)
  | clear => exact absurd hsuffix (by decide)
  | connect => rfl

section Doomed

variable {s s' : Threads}

theorem Doomed.runMainOp {op : MainOp} {rest : List MainOp} (h : Doomed s)
    (hmain : s.main = op :: rest) (hop : op.waits = false)
    (hgoes : { s with main := rest }.runMainOp op = .ok s') :
    Failing s'.isConnectedToDevice s'.main s'.returned := by
  have hprogress := h.coupled.progress
  have hfailing := h.failing
  rw [hmain] at hprogress hfailing
  cases hprogress with
  | perform hsame hrest =>
      have hsuffix := hfailing.rest (by simp)
      obtain rfl : rest = connectOps := by
        rcases hrest with rfl | rfl
        · exact absurd hsuffix (by decide)
        · rfl
      dsimp only [Threads.runMainOp] at hgoes
      split at hgoes <;> cases hgoes <;> exact .ahead (by decide)
  | @disconnectDevice rest hsame hrest =>
      have hsuffix := hfailing.rest (by simp)
      dsimp only [Threads.runMainOp] at hgoes
      split at hgoes
      · cases hgoes
        exact .ahead hsuffix
      · cases hgoes
        cases hrest with
        | returned => exact absurd hsuffix (by decide)
        | clear => exact absurd hsuffix (by decide)
        | connect => exact .ahead (by decide)
  | join hhostctrl hdevice hrest => cases hop
  | disconnectHostctrl hdevice hrest =>
      have hsuffix := hfailing.rest (by simp)
      obtain rfl := hrest.connects hsuffix
      dsimp only [Threads.runMainOp] at hgoes
      split at hgoes
      · split at hgoes <;> cases hgoes <;> exact .ahead (by decide)
      · cases hgoes
        exact .ahead (by decide)
  | awaitDisconnect hhostctrl hdevice hrest => cases hop
  | clear hhostctrl hdevice hrest =>
      have hsuffix := hfailing.rest (by simp)
      cases hgoes
      rcases hrest with rfl | rfl
      · exact absurd hsuffix (by decide)
      · exact .ahead (by decide)
  | connectHostctrl hsame =>
      dsimp only [Threads.runMainOp] at hgoes
      split at hgoes
      · rename_i hhostctrl
        cases hgoes
        exact .bound (hsame.symm.trans hhostctrl)
      · split at hgoes <;> cases hgoes
        · exact .ahead (by decide)
        · exact .failed
  | awaitConnect hhostctrl hdevice => cases hop
  | connectDevice hhostctrl =>
      -- the address is bound
      obtain ⟨hunbound, -⟩ := assertThat_bind_eq_ok.mp hgoes
      have hbound : s.deviceRxSocket = true := by
        cases hfailing with
        | ahead hops => exact absurd hops (by decide)
        | bound hdevice => exact h.coupled.socket.trans hdevice
      simp [hbound] at hunbound
  | stats hhostctrl hdevice => exact absurd (hfailing.rest (by simp)) (by decide)

theorem Doomed.joined {rest : List MainOp} (h : Doomed s)
    (hmain : s.main = .joinDevicerxthread :: rest) :
    Failing { s with main := rest }.joined.isConnectedToDevice rest
      s.returned := by
  have hprogress := h.coupled.progress
  have hfailing := h.failing
  rw [hmain] at hprogress hfailing
  have hsuffix := hfailing.rest (by simp)
  cases hprogress with
  | join hhostctrl hdevice hrest =>
      cases hrest with
      | returned => exact absurd hsuffix (by decide)
      | clear => exact absurd hsuffix (by decide)
      | connect => exact .ahead (by decide)

theorem Doomed.received {name : StatusName} {rest : List MainOp}
    {status : Status} {toMain : List Status} (h : Doomed s)
    (hmain : s.main = .workerWaitForStatus name :: rest)
    (htoMain : s.toMain = status :: toMain) :
    ({ s with main := rest, toMain }.waited (some status) name).toMain =
        toMain ∧
      Failing
        ({ s with main := rest, toMain }.waited (some status)
          name).isConnectedToDevice
        ({ s with main := rest, toMain }.waited (some status) name).main
        ({ s with main := rest, toMain }.waited (some status) name).returned := by
  have hprogress := h.coupled.progress
  have hfailing := h.failing
  rw [hmain] at hprogress hfailing
  have hsuffix := hfailing.rest (by simp)
  cases hprogress with
  | awaitDisconnect hhostctrl hdevice hrest =>
      obtain rfl := hrest.connects hsuffix
      obtain rfl := h.linked.disconnect_received hmain htoMain
      rw [waited_disconnected]
      exact ⟨rfl, .ahead (by decide)⟩
  | awaitConnect hhostctrl hdevice =>
      rw [waited_stale _ (h.stale status (by simp [htoMain]))]
      exact ⟨rfl, .failed⟩

theorem runMainOp_toMain {op : MainOp} (h : s.runMainOp op = .ok s') :
    s'.toMain = s.toMain := by
  cases op with
  | connectToDevice =>
      obtain ⟨-, h⟩ := assertThat_bind_eq_ok.mp h
      cases h
      rfl
  | _ =>
      dsimp only [Threads.runMainOp] at h
      repeat' split at h
      all_goals
        cases h
        rfl

theorem Doomed.step {action : Action} (h : Doomed s)
    (hgoes : Goes s action s') (hfavourable : Favourable s action) :
    Doomed s' := by
  have hlinked := h.linked.step hgoes hfavourable.served
  have hcoupled := h.coupled.step h.linked hgoes hfavourable.served
  have hgone := h.exited
  unfold Goes at hgoes
  generalize hout : (Except.ok s' : Outcome Threads) = outcome at hgoes
  cases hgoes with
  | call hmain => exact hfavourable.elim
  | main hmain hop =>
      refine ⟨?_, hlinked, hcoupled, ?_, h.runMainOp hmain hop hout.symm⟩
      · rw [(runMainOp_frame hout.symm).1]
        exact hgone
      · rw [runMainOp_toMain hout.symm]
        exact h.stale
  | join hmain hrx =>
      cases hout
      exact ⟨hgone, hlinked, hcoupled, h.stale, h.joined hmain⟩
  | cancel hmain hrx =>
      cases hout
      exact ⟨hgone, hlinked, hcoupled, h.stale, h.joined hmain⟩
  | @receive name rest status toMain hmain htoMain =>
      cases hout
      obtain ⟨hkept, hfailing⟩ := h.received hmain htoMain
      refine ⟨?_, hlinked, hcoupled, ?_, hfailing⟩
      · rw [(waited_frame _ _ _).1]
        exact hgone
      · intro other hother
        rw [hkept] at hother
        exact h.stale other (by simp [htoMain, hother])
  | timeout hmain htoMain => exact hfavourable.elim
  | rxRead hrx =>
      unfold Threads.devicerxthreadRead at hout
      obtain ⟨event, -, hout⟩ := bind_eq_ok.mp hout.symm
      cases event <;> cases hout <;>
        exact ⟨hgone, hlinked, hcoupled, h.stale, h.failing⟩
  | rxQueue hrx =>
      cases hout
      exact ⟨hgone, hlinked, hcoupled, h.stale, h.failing⟩
  | rxCount hrx =>
      cases hout
      exact ⟨hgone, hlinked, hcoupled, h.stale, h.failing⟩
  | workerCommand hworker _ => simp [hworker, WorkerPc.exited] at hgone
  | workerReply hworker _ => simp [hworker, WorkerPc.exited] at hgone
  | workerTimeout hworker _ => simp [hworker, WorkerPc.exited] at hgone
  | workerReceive hworker _ => simp [hworker, WorkerPc.exited] at hgone
  | workerReceiveLeaked hworker _ => simp [hworker, WorkerPc.exited] at hgone
  | workerForward hworker _ => simp [hworker, WorkerPc.exited] at hgone
  | workerSignal hworker =>
      cases hout
      exact ⟨rfl, hlinked, hcoupled, h.stale, h.failing⟩
  | workerStop hworker =>
      cases hout
      refine ⟨rfl, hlinked, hcoupled, ?_, h.failing⟩
      intro status hstatus
      rcases List.mem_append.mp hstatus with hold | hnew
      · exact h.stale status hold
      · simp at hnew
        simp [hnew]
  | workerEnd hworker =>
      cases hout
      exact ⟨rfl, hlinked, hcoupled, h.stale, h.failing⟩
  | hostctrl hsocket =>
      cases hout
      exact ⟨hgone, hlinked, hcoupled, h.stale, h.failing⟩

theorem Doomed.run {history : List Action} (h : Doomed s)
    (run : Runs FavourableStep s history s') : Doomed s' := by
  refine run.invariant (I := fun _ s => Doomed s) h ?_
  rintro _ before action after _ hbefore ⟨hgoes, hfavourable⟩
  exact hbefore.step hgoes hfavourable

end Doomed

/-! ## Calls that do not succeed -/

/-- A favourable run leads to a failing assertion or to a failing call. -/
def Refuted (s : Threads) : Prop :=
  ∃ history s', Runs FavourableStep s history s' ∧
    ((∃ action fault, Favourable s' action ∧
      GatewayStep s' action (.error fault)) ∨ Doomed s')

section Refuted

variable {s s' : Threads}

theorem Refuted.of_fault {action : Action} {fault : Fault}
    (hstep : GatewayStep s action (.error fault))
    (hfavourable : Favourable s action) : Refuted s :=
  ⟨[], s, .refl, .inl ⟨action, fault, hfavourable, hstep⟩⟩

theorem Refuted.of_doomed (h : Doomed s) : Refuted s :=
  ⟨[], s, .refl, .inr h⟩

theorem Refuted.before {action : Action} (h : Refuted s')
    (hgoes : Goes s action s') (hfavourable : Favourable s action) :
    Refuted s := by
  obtain ⟨history, final, run, hfinal⟩ := h
  exact ⟨_, final, (Runs.single ⟨hgoes, hfavourable⟩).trans run, hfinal⟩

theorem Refuted.not_connects (h : Refuted s.called) : ¬Connects s := by
  intro hconnects
  obtain ⟨history, s', run, hfault | hdoomed⟩ := h
  · obtain ⟨action, fault, hfavourable, hstep⟩ := hfault
    exact (hconnects _ _ run).1 action fault hfavourable hstep
  · obtain ⟨later, final, hlater, hmain⟩ := (hconnects _ _ run).2.1
    have hreturned := ((hconnects _ _ (run.trans hlater)).2.2 hmain).1
    have hfailing := (hdoomed.run hlater).failing
    rw [hmain, hreturned] at hfailing
    cases hfailing

theorem Refuted.main {op : MainOp} {rest : List MainOp}
    (hmain : s.main = op :: rest) (hop : op.waits = false)
    (hruns : { s with main := rest }.runMainOp op = .ok s')
    (h : Refuted s') : Refuted s := by
  have hstep : GatewayStep s .main ({ s with main := rest }.runMainOp op) :=
    .main hmain hop
  rw [hruns] at hstep
  exact h.before hstep trivial

/-- A worker that has left its loop for good has left no reply to I-CONNECT. -/
theorem Linked.stale (h : Linked s) (hexited : s.worker.exited = true)
    (hwaits : waitsFor s.main = none) :
    ∀ status ∈ s.toMain, status.name ≠ .iConnectDone := by
  obtain ⟨balance, hsession, -⟩ := h.session
  generalize hlink : s.link = link at hsession
  cases hsession with
  | exitedEarly _ _ => simp [Threads.link, hwaits] at hlink
  | exitedConnected _ _ hstale =>
      simp [Threads.link] at hlink
      rw [hlink.2.2.2.2.2]
      exact stale_disconnect hstale
  | exited _ _ hstale =>
      simp [Threads.link] at hlink
      rw [hlink.2.2.2.2.2]
      exact hstale
  | _ =>
      simp [Threads.link] at hlink
      simp [hlink, WorkerPc.exited] at hexited

theorem refuted_of_exited (hlinked : Linked s) (hcoupled : Coupled s)
    (hmain : s.main = ApiCall.osdGatewayConnect.ops)
    (hexited : s.worker.exited = true) : Refuted s := by
  refine .of_doomed ⟨hexited, hlinked, hcoupled, ?_, ?_⟩
  · exact hlinked.stale hexited (by rw [hmain]; rfl)
  · rw [hmain]
    exact .ahead (by decide)

/-- A packet that was left behind. -/
theorem refuted_of_deviceRx {msg : Message} {rest : List Message}
    (hworker : s.worker = .zloop) (hsocket : s.hostctrlSocket = none)
    (hrx : s.deviceRx = msg :: rest) : Refuted s := by
  have hstep : GatewayStep s .workerForward
      ({ s with deviceRx := rest }.forwardDevicerxToHostctrl msg) :=
    .workerForward hworker hrx
  unfold Threads.forwardDevicerxToHostctrl at hstep
  rw [assertThat_bind_not (by simp [hsocket])] at hstep
  exact .of_fault hstep trivial

/-- No disconnect is outstanding: the address is bound a second time. -/
theorem refuted_of_connected
    (hmain : s.main = ApiCall.osdGatewayConnect.ops)
    (hconnected : s.isConnectedToHostctrl = true)
    (hsocket : s.deviceRxSocket = true)
    (hdetected : s.deviceDisconnectDetected = false) : Refuted s := by
  have hperform : Threads.runMainOp { s with main := connectOps }
      .performOutstandingMainThreadTasks =
      .ok { s with main := connectOps } := by
    simp [Threads.runMainOp, hdetected]
  have hhostctrl : Threads.runMainOp
      { s with main := [.connectToDevice, .statsStart] } .connectToHostctrl =
      .ok { s with main := [.connectToDevice, .statsStart] } := by
    simp [Threads.runMainOp, hconnected]
  refine .main hmain rfl hperform (.main rfl rfl hhostctrl ?_)
  have hstep : GatewayStep
      { s with main := [.connectToDevice, .statsStart] } .main
      (Threads.runMainOp { s with main := [.statsStart] } .connectToDevice) :=
    .main rfl rfl
  unfold Threads.runMainOp at hstep
  dsimp only at hstep
  rw [assertThat_bind_not (by simp [hsocket])] at hstep
  exact .of_fault hstep trivial

theorem sendCmdReply_data {msg : Message} (htype : msg.type ≠ ascii "M") :
    sendCmdReply (some msg) = .error .assertion := by
  unfold sendCmdReply
  dsimp only
  rw [assertThat_bind_not htype]

/-- A packet is taken for the reply to GW_UNREGISTER. -/
theorem refuted_of_reply {command : GwCommand} {msg : Message}
    {rest : List Message} (hworker : s.worker = .sendCmd command)
    (hsocket : s.hostctrlSocket = some (msg :: rest))
    (htype : msg.type ≠ ascii "M") : Refuted s := by
  have hstep := GatewayStep.workerReply hworker hsocket
  rw [sendCmdReply_data htype, error_bind] at hstep
  exact .of_fault hstep trivial

theorem dataMessage_carriesPacket : dataMessage.carriesPacket = true := by
  decide

/-- The host controller may send a packet at any time but instead of the reply
to the registration. -/
theorem favourable_dataMessage
    (hworker : s.worker ≠ .sendCmd .gwRegister) :
    Favourable s (.hostctrl dataMessage) := by
  change dataMessage.expected s
  unfold Message.expected
  split
  · rename_i hregisters _
    exact absurd hregisters hworker
  · exact .inl dataMessage_carriesPacket
  · exact dataMessage_carriesPacket

theorem dataMessage_type : dataMessage.type ≠ ascii "M" := by decide

/-- The worker unregisters after a failed write. -/
theorem refuted_of_lost (hlinked : Linked s) (hcoupled : Coupled s)
    (hmain : s.main = ApiCall.osdGatewayConnect.ops)
    (hworker : s.worker = .sendCmd (.gwUnregister true))
    {inbox : List Message} (hsocket : s.hostctrlSocket = some inbox) :
    Refuted s := by
  cases inbox with
  | nil =>
      refine .before ?_ (.hostctrl hsocket)
        (favourable_dataMessage (by simp [hworker]))
      exact refuted_of_reply hworker rfl dataMessage_type
  | cons reply rest =>
      have hstep := GatewayStep.workerReply hworker hsocket
      cases hreply : sendCmdReply (some reply) with
      | error fault =>
          rw [hreply, error_bind] at hstep
          exact .of_fault hstep trivial
      | ok rv =>
          rw [hreply, ok_bind] at hstep
          refine .before ?_ hstep trivial
          exact refuted_of_exited (hlinked.step hstep rfl)
            (hcoupled.step hlinked hstep rfl) hmain rfl

theorem refuted_of_disconnecting {rest : List MainOp} {inbox : List Message}
    {msg : Message} (hmain : s.main = .disconnectFromHostctrl :: rest)
    (hlink : s.link = ⟨true, none, [], .zloop, true, []⟩)
    (hsocket : s.hostctrlSocket = some (msg :: inbox))
    (htype : msg.type ≠ ascii "M") : Refuted s := by
  simp [Threads.link] at hlink
  obtain ⟨hconnected, -, htoWorker, hworker, -⟩ := hlink
  have hcalls : Threads.runMainOp { s with main := rest }
      .disconnectFromHostctrl = .ok { s with
        toWorker := [.iDisconnect]
        main := .workerWaitForStatus .iDisconnectDone :: rest } := by
    simp [Threads.runMainOp, hconnected, Threads.threadIsRunning, hworker,
      htoWorker]
  refine .main hmain rfl hcalls ?_
  have hstep : GatewayStep
      { s with
        toWorker := [.iDisconnect]
        main := .workerWaitForStatus .iDisconnectDone :: rest }
      (.workerCommand true true) _ := .workerCommand hworker rfl
  unfold Threads.hostiothreadHandleInprocRequest at hstep
  dsimp only at hstep
  unfold Threads.hostiothreadDisconnectFromHostctrl at hstep
  rw [assertThat_bind (by simp [hsocket]), if_pos rfl] at hstep
  refine .before ?_ hstep ⟨rfl, rfl⟩
  exact refuted_of_reply rfl hsocket htype

theorem refuted_of_joining {rest : List MainOp} {inbox : List Message}
    {msg : Message}
    (hmain : s.main = .joinDevicerxthread :: .disconnectFromHostctrl :: rest)
    (hlink : s.link = ⟨true, none, [], .zloop, true, []⟩)
    (hsocket : s.hostctrlSocket = some (msg :: inbox))
    (htype : msg.type ≠ ascii "M") : Refuted s := by
  have hjoined : Refuted
      { s with main := .disconnectFromHostctrl :: rest }.joined := by
    refine refuted_of_disconnecting rfl ?_ hsocket htype
    simpa [Threads.link, Threads.joined, hmain, MainOp.awaits] using hlink
  by_cases hrx : s.rx = .terminated
  · exact hjoined.before (.join hmain hrx) trivial
  · exact hjoined.before (.cancel hmain hrx) trivial

/-- The main thread disconnects first, and a packet waits meanwhile. -/
theorem refuted_of_packet {inbox : List Message} {msg : Message}
    (hmain : s.main = ApiCall.osdGatewayConnect.ops)
    (hlink : s.link = ⟨true, none, [], .zloop, true, []⟩)
    (hdevice : s.isConnectedToDevice = true)
    (hdetected : s.deviceDisconnectDetected = true)
    (hsocket : s.hostctrlSocket = some (msg :: inbox))
    (htype : msg.type ≠ ascii "M") : Refuted s := by
  have hperform : Threads.runMainOp { s with main := connectOps }
      .performOutstandingMainThreadTasks = .ok { s with
        main := .disconnectFromDevice :: .disconnectFromHostctrl ::
          .clearDeviceDisconnectDetected :: connectOps } := by
    simp [Threads.runMainOp, hdetected]
  have hdisconnect : Threads.runMainOp
      { s with
        main := .disconnectFromHostctrl :: .clearDeviceDisconnectDetected ::
          connectOps } .disconnectFromDevice = .ok { s with
        main := .joinDevicerxthread :: .disconnectFromHostctrl ::
          .clearDeviceDisconnectDetected :: connectOps } := by
    simp [Threads.runMainOp, hdevice]
  refine .main hmain rfl hperform (.main rfl rfl hdisconnect ?_)
  refine refuted_of_joining rfl ?_ hsocket htype
  simpa [Threads.link, hmain, ApiCall.ops, MainOp.awaits] using hlink

theorem refuted_of_detected {inbox : List Message}
    (hmain : s.main = ApiCall.osdGatewayConnect.ops)
    (hlink : s.link = ⟨true, none, [], .zloop, true, []⟩)
    (hsocket : s.hostctrlSocket = some inbox)
    (hdevice : s.isConnectedToDevice = true)
    (hdetected : s.deviceDisconnectDetected = true) : Refuted s := by
  have hworker : s.worker = .zloop := congrArg Link.worker hlink
  cases inbox with
  | nil =>
      refine .before ?_ (.hostctrl hsocket)
        (favourable_dataMessage (by simp [hworker]))
      refine refuted_of_packet hmain ?_ hdevice hdetected rfl dataMessage_type
      simpa [Threads.link, hsocket] using hlink
  | cons msg rest =>
      by_cases htype : msg.type = ascii "M"
      · -- the loop of the worker takes packets only
        have hstep : GatewayStep s (.workerReceive osdOk true) _ :=
          .workerReceive hworker hsocket
        unfold Threads.hostiothreadRcvFromHostctrl at hstep
        rw [assertThat_bind_not (by simp [htype, ascii])] at hstep
        exact .of_fault hstep ⟨rfl, rfl⟩
      · exact refuted_of_packet hmain hlink hdevice hdetected hsocket htype

end Refuted

theorem Linked.connected {s : Threads} (h : Linked s) (hmain : s.main = [])
    (hconnected : s.isConnectedToHostctrl = true)
    (hrunning : s.worker.exited = false) :
    s.hostctrlSocket.isSome = true ∧
      (s.link = ⟨true, none, [], .zloop, true, []⟩ ∨
        s.worker = .sendCmd (.gwUnregister true)) := by
  obtain ⟨balance, hsession, -⟩ := h.session
  generalize hlink : s.link = link at hsession
  cases hsession with
  | connected => exact ⟨congrArg Link.isOpen hlink, .inl rfl⟩
  | lost => exact ⟨congrArg Link.isOpen hlink, .inr (congrArg Link.worker hlink)⟩
  | exitedConnected hexited hwaits hstale =>
      simp [Threads.link] at hlink
      simp [← hlink.2.2.2.1, hrunning] at hexited
  | _ => simp [Threads.link, hmain, hconnected] at hlink

theorem refuted_of_unready {s : Threads} (hlinked : Linked s)
    (hcoupled : Coupled s) (hmain : s.main = [])
    (hunready : ¬(s.isConnectedToHostctrl = false ∧ s.worker.exited = false ∧
      s.deviceRx = [])) : Refuted s.called := by
  have hcall : Goes s (.call .osdGatewayConnect) s.called := .call hmain
  have hlinked' := hlinked.step hcall rfl
  have hcoupled' := hcoupled.step hlinked hcall rfl
  cases hexited : s.worker.exited with
  | true => exact refuted_of_exited hlinked' hcoupled' rfl hexited
  | false =>
  cases hconnected : s.isConnectedToHostctrl with
  | false =>
      have hidle := hlinked.idle hmain hconnected hexited
      simp [Threads.link] at hidle
      obtain ⟨msg, rest, hrx⟩ : ∃ msg rest, s.deviceRx = msg :: rest := by
        apply List.exists_cons_of_ne_nil
        intro hempty
        exact hunready ⟨hconnected, hexited, hempty⟩
      exact refuted_of_deviceRx (s := s.called) hidle.2.2.2.1 hidle.2.2.2.2.1
        hrx
  | true =>
      have hdevice := (hcoupled.same hmain).symm.trans hconnected
      cases hdetected : s.deviceDisconnectDetected with
      | false =>
          exact refuted_of_connected rfl hconnected
            (hcoupled.socket.trans hdevice) hdetected
      | true =>
          obtain ⟨hopen, hlink | hlost⟩ :=
            hlinked.connected hmain hconnected hexited
          · obtain ⟨inbox, hsocket⟩ := Option.isSome_iff_exists.mp hopen
            refine refuted_of_detected rfl ?_ hsocket hdevice hdetected
            simpa [Threads.link, Threads.called, hmain, ApiCall.ops,
              MainOp.awaits] using hlink
          · obtain ⟨inbox, hsocket⟩ := Option.isSome_iff_exists.mp hopen
            exact refuted_of_lost hlinked' hcoupled' rfl hlost hsocket

/-! ## When a gateway connects -/

/-- Between two calls, `osd_gateway_connect` succeeds just when the gateway is
not connected, has its worker and has left no packet behind. -/
theorem connects_iff_idle {history : List Action} {s : Threads}
    (run : Runs ServedStep osdGatewayNew history s) (hmain : s.main = []) :
    Connects s ↔ s.isConnectedToHostctrl = false ∧
      s.worker.exited = false ∧ s.deviceRx = [] := by
  obtain ⟨hlinked, hcoupled⟩ := coupled_of_run run
  constructor
  · intro hconnects
    by_contra hunready
    have hrefuted := refuted_of_unready hlinked hcoupled hmain hunready
    exact hrefuted.not_connects hconnects
  · rintro ⟨hconnected, hrunning, hempty⟩
    exact connects_of_idle hlinked hcoupled hmain hconnected hrunning hempty

theorem connects_after_disconnect :
    ∃ history s, Runs ServedStep osdGatewayNew history s ∧
      s.acknowledged = 1 ∧ Connects s := by
  have run : ∃ s, s.acknowledged = 1 ∧ s.main = [] ∧
      s.isConnectedToHostctrl = false ∧ s.worker.exited = false ∧
      s.deviceRx = [] ∧
      performAll (fun _ action => action.served) osdGatewayNew
        (connecting ++ disconnecting) = some s :=
    ⟨_, rfl, rfl, rfl, rfl, rfl, rfl⟩
  obtain ⟨s, hacknowledged, hmain, hconnected, hrunning, hempty, hrun⟩ := run
  have hserved := runs_of_performAll hrun
  exact ⟨_, s, hserved, hacknowledged,
    (connects_iff_idle hserved hmain).mpr ⟨hconnected, hrunning, hempty⟩⟩

/-- A packet arrives whose write to the device fails. -/
def losingDevice : List Action :=
  connecting ++ [.hostctrl dataMessage, .workerReceive osdErrorFailure true,
    .hostctrl ackReply, .workerReply, .workerExit, .workerExit, .workerExit,
    .call .osdGatewayIsConnected, .main, .main, .mainCancel, .main, .main]

/-- Neither a connected gateway nor one whose device was lost can be
connected. -/
theorem not_connects_connected_or_lost :
    (∃ history s, Runs ServedStep osdGatewayNew history s ∧ s.main = [] ∧
      s.isConnectedToHostctrl = true ∧ ¬Connects s) ∧
    (∃ history s, Runs ServedStep osdGatewayNew history s ∧ s.main = [] ∧
      s.isConnectedToHostctrl = false ∧ ¬Connects s) := by
  constructor
  · have run : ∃ s, s.main = [] ∧ s.isConnectedToHostctrl = true ∧
        performAll (fun _ action => action.served) osdGatewayNew connecting =
          some s := ⟨_, rfl, rfl, rfl⟩
    obtain ⟨s, hmain, hconnected, hrun⟩ := run
    have hserved := runs_of_performAll hrun
    obtain ⟨hlinked, hcoupled⟩ := coupled_of_run hserved
    refine ⟨_, s, hserved, hmain, hconnected, ?_⟩
    refine (refuted_of_unready hlinked hcoupled hmain ?_).not_connects
    simp [hconnected]
  · have run : ∃ s, s.main = [] ∧ s.isConnectedToHostctrl = false ∧
        s.worker.exited = true ∧
        performAll (fun _ action => action.served) osdGatewayNew
          losingDevice = some s := ⟨_, rfl, rfl, rfl, rfl⟩
    obtain ⟨s, hmain, hconnected, hexited, hrun⟩ := run
    have hserved := runs_of_performAll hrun
    obtain ⟨hlinked, hcoupled⟩ := coupled_of_run hserved
    refine ⟨_, s, hserved, hmain, hconnected, ?_⟩
    refine (refuted_of_unready hlinked hcoupled hmain ?_).not_connects
    simp [hexited]

end Osd.Gateway
