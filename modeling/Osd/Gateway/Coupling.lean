import Osd.Gateway.Session

/-!
# The two connections of a gateway

Between the calls of the main thread the gateway is connected to the host
controller and to the device, or to neither.  Within a call the operations that
are left tell which of them is up.
-/

namespace Osd.Gateway

open Osd.Foundation Osd.HostCtrl

def connectOps : List MainOp :=
  [.connectToHostctrl, .connectToDevice, .statsStart]

/-- What may follow `osd_gateway_disconnect`. -/
inductive AfterDisconnect : List MainOp → Prop
  | returned : AfterDisconnect []
  | clear : AfterDisconnect [.clearDeviceDisconnectDetected]
  | connect : AfterDisconnect (.clearDeviceDisconnectDetected :: connectOps)

/-- The connections to the host controller and to the device, and what the main
thread still has to do. -/
inductive Progress (hostctrl device : Bool) : List MainOp → Prop
  | returned (hsame : hostctrl = device) : Progress hostctrl device []
  | perform {rest : List MainOp} (hsame : hostctrl = device)
      (hrest : rest = [] ∨ rest = connectOps) :
      Progress hostctrl device (.performOutstandingMainThreadTasks :: rest)
  | disconnectDevice {rest : List MainOp} (hsame : hostctrl = device)
      (hrest : AfterDisconnect rest) :
      Progress hostctrl device
        (.disconnectFromDevice :: .disconnectFromHostctrl :: rest)
  | join {rest : List MainOp} (hhostctrl : hostctrl = true)
      (hdevice : device = true) (hrest : AfterDisconnect rest) :
      Progress hostctrl device
        (.joinDevicerxthread :: .disconnectFromHostctrl :: rest)
  | disconnectHostctrl {rest : List MainOp} (hdevice : device = false)
      (hrest : AfterDisconnect rest) :
      Progress hostctrl device (.disconnectFromHostctrl :: rest)
  | awaitDisconnect {rest : List MainOp} (hhostctrl : hostctrl = true)
      (hdevice : device = false) (hrest : AfterDisconnect rest) :
      Progress hostctrl device (.workerWaitForStatus .iDisconnectDone :: rest)
  | clear {rest : List MainOp} (hhostctrl : hostctrl = false)
      (hdevice : device = false) (hrest : rest = [] ∨ rest = connectOps) :
      Progress hostctrl device (.clearDeviceDisconnectDetected :: rest)
  | connectHostctrl (hsame : hostctrl = device) :
      Progress hostctrl device connectOps
  | awaitConnect (hhostctrl : hostctrl = false) (hdevice : device = false) :
      Progress hostctrl device
        [.workerWaitForStatus .iConnectDone, .connectToDevice, .statsStart]
  | connectDevice (hhostctrl : hostctrl = true) :
      Progress hostctrl device [.connectToDevice, .statsStart]
  | stats (hhostctrl : hostctrl = true) (hdevice : device = true) :
      Progress hostctrl device [.statsStart]

structure Coupled (s : Threads) : Prop where
  socket : s.deviceRxSocket = s.isConnectedToDevice
  thread : s.rx = .none ↔ s.isConnectedToDevice = false
  progress : Progress s.isConnectedToHostctrl s.isConnectedToDevice s.main

theorem coupled_osdGatewayNew : Coupled osdGatewayNew where
  socket := rfl
  thread := by simp [osdGatewayNew]
  progress := .returned rfl

theorem Coupled.frame {s s' : Threads} (h : Coupled s)
    (hmain : s'.main = s.main)
    (hhostctrl : s'.isConnectedToHostctrl = s.isConnectedToHostctrl)
    (hdevice : s'.isConnectedToDevice = s.isConnectedToDevice)
    (hsocket : s'.deviceRxSocket = s.deviceRxSocket)
    (hrx : s'.rx = .none ↔ s.rx = .none) : Coupled s' where
  socket := by
    rw [hsocket, hdevice]
    exact h.socket
  thread := by
    rw [hrx, hdevice]
    exact h.thread
  progress := by
    rw [hmain, hhostctrl, hdevice]
    exact h.progress

theorem AfterDisconnect.progress {rest : List MainOp} (h : AfterDisconnect rest) :
    Progress false false rest := by
  cases h with
  | returned => exact .returned rfl
  | clear => exact .clear rfl rfl (.inl rfl)
  | connect => exact .clear rfl rfl (.inr rfl)

/-! ## The main thread -/

section Main

variable {s s' : Threads} {op : MainOp} {rest : List MainOp}

theorem Coupled.proceed (h : Coupled s)
    (hdevice : s'.isConnectedToDevice = s.isConnectedToDevice)
    (hsocket : s'.deviceRxSocket = s.deviceRxSocket) (hrx : s'.rx = s.rx)
    (hprogress : Progress s'.isConnectedToHostctrl s.isConnectedToDevice
      s'.main) : Coupled s' where
  socket := by
    rw [hsocket, hdevice]
    exact h.socket
  thread := by
    rw [hrx, hdevice]
    exact h.thread
  progress := by
    rw [hdevice]
    exact hprogress

theorem Coupled.runMainOp (h : Coupled s) (hmain : s.main = op :: rest)
    (hop : op.waits = false)
    (hgoes : { s with main := rest }.runMainOp op = .ok s') : Coupled s' := by
  have hprogress := h.progress
  rw [hmain] at hprogress
  cases hprogress with
  | perform hsame hrest =>
      dsimp only [Threads.runMainOp] at hgoes
      split at hgoes
      · cases hgoes
        refine h.proceed rfl rfl rfl (.disconnectDevice hsame ?_)
        rcases hrest with rfl | rfl
        · exact .clear
        · exact .connect
      · cases hgoes
        refine h.proceed rfl rfl rfl ?_
        rcases hrest with rfl | rfl
        · exact .returned hsame
        · exact .connectHostctrl hsame
  | disconnectDevice hsame hrest =>
      dsimp only [Threads.runMainOp] at hgoes
      split at hgoes
      · rename_i hdevice
        cases hgoes
        exact h.proceed rfl rfl rfl (.join (hsame.trans hdevice) hdevice hrest)
      · rename_i hdevice
        cases hgoes
        exact h.proceed rfl rfl rfl
          (.disconnectHostctrl (by simpa using hdevice) hrest)
  | join hhostctrl hdevice hrest => cases hop
  | disconnectHostctrl hdevice hrest =>
      dsimp only [Threads.runMainOp] at hgoes
      split at hgoes
      · rename_i hhostctrl
        split at hgoes
        · cases hgoes
          exact h.proceed rfl rfl rfl (.awaitDisconnect hhostctrl hdevice hrest)
        · cases hgoes
          refine h.proceed rfl rfl rfl ?_
          rw [hdevice]
          exact hrest.progress
      · rename_i hhostctrl
        cases hgoes
        refine h.proceed rfl rfl rfl ?_
        simp only [Bool.not_eq_true] at hhostctrl
        rw [hdevice]
        dsimp only
        rw [hhostctrl]
        exact hrest.progress
  | awaitDisconnect hhostctrl hdevice hrest => cases hop
  | clear hhostctrl hdevice hrest =>
      cases hgoes
      refine h.proceed rfl rfl rfl ?_
      rcases hrest with rfl | rfl
      · exact .returned (hhostctrl.trans hdevice.symm)
      · exact .connectHostctrl (hhostctrl.trans hdevice.symm)
  | connectHostctrl hsame =>
      dsimp only [Threads.runMainOp] at hgoes
      split at hgoes
      · rename_i hhostctrl
        cases hgoes
        exact h.proceed rfl rfl rfl (.connectDevice hhostctrl)
      · rename_i hhostctrl
        simp only [Bool.not_eq_true] at hhostctrl
        split at hgoes
        · cases hgoes
          exact h.proceed rfl rfl rfl
            (.awaitConnect hhostctrl (hsame.symm.trans hhostctrl))
        · cases hgoes
          exact h.proceed rfl rfl rfl (.returned hsame)
  | awaitConnect hhostctrl hdevice => cases hop
  | connectDevice hhostctrl =>
      obtain ⟨-, hgoes⟩ := assertThat_bind_eq_ok.mp hgoes
      cases hgoes
      exact ⟨rfl, by simp, .stats hhostctrl rfl⟩
  | stats hhostctrl hdevice =>
      cases hgoes
      exact h.proceed rfl rfl rfl (.returned (hhostctrl.trans hdevice.symm))

theorem Coupled.joined (h : Coupled s)
    (hmain : s.main = .joinDevicerxthread :: rest) :
    Coupled { s with main := rest }.joined := by
  have hprogress := h.progress
  rw [hmain] at hprogress
  cases hprogress with
  | join hhostctrl hdevice hrest =>
      exact ⟨rfl, by simp [Threads.joined], .disconnectHostctrl rfl hrest⟩

theorem Linked.disconnect_received {status : Status} {toMain : List Status}
    (h : Linked s) (hmain : s.main = .workerWaitForStatus .iDisconnectDone :: rest)
    (htoMain : s.toMain = status :: toMain) : status = disconnectStatus := by
  obtain ⟨balance, hsession, -⟩ := h.session
  generalize hlink : s.link = link at hsession
  cases hsession with
  | disconnectDone =>
      simp [Threads.link, hmain, htoMain, MainOp.awaits] at hlink
      simp [hlink]
  | exitedConnected hexited hwaits hstale =>
      simp [Threads.link, hmain, htoMain, MainOp.awaits] at hlink
      simp [hlink]
  | exited hexited hwaits hstale =>
      simp [Threads.link, hmain, MainOp.awaits] at hlink
      simp [← hlink.2.1] at hwaits
  | _ => simp [Threads.link, hmain, htoMain, MainOp.awaits] at hlink

theorem waited_connect (s : Threads) (status : Option Status) :
    s.waited status .iConnectDone = s.connectFails ∨
      s.waited status .iConnectDone = { s with isConnectedToHostctrl := true } := by
  unfold Threads.waited
  dsimp only
  rw [if_pos rfl]
  split
  · exact .inl rfl
  · exact .inr rfl

theorem Coupled.received {name : StatusName} {status : Status}
    {toMain : List Status} (h : Coupled s) (hlinked : Linked s)
    (hmain : s.main = .workerWaitForStatus name :: rest)
    (htoMain : s.toMain = status :: toMain) :
    Coupled ({ s with main := rest, toMain }.waited (some status) name) := by
  have hprogress := h.progress
  rw [hmain] at hprogress
  cases hprogress with
  | awaitDisconnect hhostctrl hdevice hrest =>
      obtain rfl := hlinked.disconnect_received hmain htoMain
      rw [waited_disconnected]
      refine h.proceed rfl rfl rfl ?_
      rw [hdevice]
      exact hrest.progress
  | awaitConnect hhostctrl hdevice =>
      rcases waited_connect _ (some status) with hfails | hconnects
      · rw [hfails]
        exact h.proceed rfl rfl rfl (.returned (hhostctrl.trans hdevice.symm))
      · rw [hconnects]
        exact h.proceed rfl rfl rfl (.connectDevice rfl)

end Main

/-! ## The other threads -/

theorem Coupled.worker_frame {s s' : Threads} (h : Coupled s)
    (hframe : s'.main = s.main ∧ s'.rx = s.rx ∧
      s'.isConnectedToHostctrl = s.isConnectedToHostctrl ∧
      s'.isConnectedToDevice = s.isConnectedToDevice ∧
      s'.deviceRxSocket = s.deviceRxSocket) : Coupled s' := by
  obtain ⟨hmain, hrx, hhostctrl, hdevice, hsocket⟩ := hframe
  exact h.frame hmain hhostctrl hdevice hsocket (by rw [hrx])

theorem Coupled.cmdDone {s : Threads} (h : Coupled s) (command : GwCommand)
    (rv : OsdResult) : Coupled (s.cmdDone command rv) := by
  cases command with
  | gwRegister =>
      dsimp only [Threads.cmdDone, Threads.registered]
      split <;> exact h.worker_frame ⟨rfl, rfl, rfl, rfl, rfl⟩
  | gwUnregister writeFailed => exact h.worker_frame ⟨rfl, rfl, rfl, rfl, rfl⟩

theorem Coupled.disconnectFromHostctrl {s s' : Threads} (h : Coupled s)
    {writeFailed sent : Bool}
    (hgoes : s.hostiothreadDisconnectFromHostctrl writeFailed sent = .ok s') :
    Coupled s' := by
  unfold Threads.hostiothreadDisconnectFromHostctrl at hgoes
  obtain ⟨-, hgoes⟩ := assertThat_bind_eq_ok.mp hgoes
  split at hgoes <;> cases hgoes <;>
    exact h.worker_frame ⟨rfl, rfl, rfl, rfl, rfl⟩

theorem Coupled.workerCommand {s s' : Threads} {command : Command}
    {dealer sent : Bool} (h : Coupled s)
    (hgoes : s.hostiothreadHandleInprocRequest command dealer sent = .ok s') :
    Coupled s' := by
  cases command with
  | iDisconnect => exact h.disconnectFromHostctrl hgoes
  | iConnect =>
      cases hgoes
      unfold Threads.hostiothreadConnectToHostctrl Threads.registered
      dsimp only
      cases dealer <;> cases sent <;>
        exact h.worker_frame ⟨rfl, rfl, rfl, rfl, rfl⟩

theorem Coupled.received_msg {s s' : Threads} {msg : Message}
    {deviceWriteRv : OsdResult} {sent : Bool} (h : Coupled s)
    (hgoes : s.hostiothreadRcvFromHostctrl msg deviceWriteRv sent = .ok s') :
    Coupled s' := by
  obtain ⟨stats, hgoes⟩ := rcvFromHostctrl_cases hgoes
  have hcounted : Coupled { s with stats } :=
    h.worker_frame ⟨rfl, rfl, rfl, rfl, rfl⟩
  rcases hgoes with rfl | hgoes
  · exact hcounted
  · exact hcounted.disconnectFromHostctrl hgoes

/-! ## Runs -/

theorem Coupled.step {s s' : Threads} {action : Action} (h : Coupled s)
    (hlinked : Linked s) (hgoes : Goes s action s')
    (hserved : action.served = true) : Coupled s' := by
  unfold Goes at hgoes
  generalize hout : (Except.ok s' : Outcome Threads) = outcome at hgoes
  cases hgoes with
  | @call entry hmain =>
      cases hout
      have hsame : s.isConnectedToHostctrl = s.isConnectedToDevice := by
        have hprogress := h.progress
        rw [hmain] at hprogress
        cases hprogress with
        | returned hsame => exact hsame
      refine h.proceed rfl rfl rfl ?_
      cases entry with
      | osdGatewayConnect => exact .perform hsame (.inr rfl)
      | osdGatewayIsConnected => exact .perform hsame (.inl rfl)
      | osdGatewayDisconnect => exact .disconnectDevice hsame .returned
  | main hmain hop => exact h.runMainOp hmain hop hout.symm
  | join hmain hrx =>
      cases hout
      exact h.joined hmain
  | cancel hmain hrx =>
      cases hout
      exact h.joined hmain
  | receive hmain htoMain =>
      cases hout
      exact h.received hlinked hmain htoMain
  | timeout hmain htoMain => cases hserved
  | rxRead hrx =>
      unfold Threads.devicerxthreadRead at hout
      obtain ⟨event, -, hout⟩ := bind_eq_ok.mp hout.symm
      cases event <;> cases hout <;>
        exact h.frame rfl rfl rfl rfl (by simp [hrx])
  | rxQueue hrx =>
      cases hout
      exact h.frame rfl rfl rfl rfl (by simp [hrx])
  | rxCount hrx =>
      cases hout
      exact h.frame rfl rfl rfl rfl (by simp [hrx])
  | workerCommand hworker htoWorker =>
      refine Coupled.workerCommand ?_ hout.symm
      exact h.worker_frame ⟨rfl, rfl, rfl, rfl, rfl⟩
  | workerReply hworker hsocket =>
      obtain ⟨rv, -, hout⟩ := bind_eq_ok.mp hout.symm
      cases hout
      apply Coupled.cmdDone
      exact h.worker_frame ⟨rfl, rfl, rfl, rfl, rfl⟩
  | workerTimeout hworker hsocket =>
      obtain ⟨rv, -, hout⟩ := bind_eq_ok.mp hout.symm
      cases hout
      exact h.cmdDone _ rv
  | workerReceive hworker hsocket =>
      refine Coupled.received_msg ?_ hout.symm
      exact h.worker_frame ⟨rfl, rfl, rfl, rfl, rfl⟩
  | workerReceiveLeaked hworker hleaked => exact h.received_msg hout.symm
  | workerForward hworker hrx =>
      unfold Threads.forwardDevicerxToHostctrl at hout
      obtain ⟨-, hout⟩ := assertThat_bind_eq_ok.mp hout.symm
      cases hout
      exact h.worker_frame ⟨rfl, rfl, rfl, rfl, rfl⟩
  | workerSignal hworker =>
      cases hout
      exact h.worker_frame ⟨rfl, rfl, rfl, rfl, rfl⟩
  | workerStop hworker =>
      cases hout
      exact h.worker_frame ⟨rfl, rfl, rfl, rfl, rfl⟩
  | workerEnd hworker =>
      cases hout
      exact h.worker_frame ⟨rfl, rfl, rfl, rfl, rfl⟩
  | hostctrl hsocket =>
      cases hout
      exact h.worker_frame ⟨rfl, rfl, rfl, rfl, rfl⟩

theorem coupled_of_run {history : List Action} {s : Threads}
    (run : Runs ServedStep osdGatewayNew history s) :
    Linked s ∧ Coupled s := by
  refine run.invariant (I := fun _ s => Linked s ∧ Coupled s)
    ⟨linked_osdGatewayNew, coupled_osdGatewayNew⟩ ?_
  intro _ before action after _ hbefore hstep
  exact ⟨hbefore.1.step hstep.1 hstep.2,
    hbefore.2.step hbefore.1 hstep.1 hstep.2⟩

end Osd.Gateway
