import Osd.Gateway.Threads

/-!
# The session between the main thread and the worker

What the main thread knows of the connection to the host controller, the
commands and replies between it and the worker, and the socket of the worker.
As long as the worker answers in time and can send its requests, these go
through few stages.
-/

namespace Osd.Gateway

open Osd.Foundation Osd.HostCtrl

/-- The worker answers before the timeout of the main thread, and a request
that it makes is sent. -/
def Action.served : Action → Bool
  | .mainTimeout => false
  | .workerCommand _ sent => sent
  | .workerReceive _ sent => sent
  | .workerReceiveLeaked _ _ sent => sent
  | _ => true

def ServedStep (s : Threads) (action : Action) (s' : Threads) : Prop :=
  Goes s action s' ∧ action.served = true

def MainOp.awaits : MainOp → Option StatusName
  | .workerWaitForStatus name => some name
  | _ => none

def waitsFor : List MainOp → Option StatusName
  | [] => none
  | op :: _ => op.awaits

@[simp] theorem waitsFor_nil : waitsFor [] = none := rfl

@[simp] theorem waitsFor_cons (op : MainOp) (rest : List MainOp) :
    waitsFor (op :: rest) = op.awaits := rfl

structure Link where
  connected : Bool
  waits : Option StatusName
  toWorker : List Command
  worker : WorkerPc
  isOpen : Bool
  toMain : List Status

def Threads.link (s : Threads) : Link where
  connected := s.isConnectedToHostctrl
  waits := waitsFor s.main
  toWorker := s.toWorker
  worker := s.worker
  isOpen := s.hostctrlSocket.isSome
  toMain := s.toMain

abbrev connectStatus (retval : Int) : Status := ⟨.iConnectDone, retval⟩
abbrev disconnectStatus : Status := ⟨.iDisconnectDone, osdOk⟩

/-- The stages of a link, with the number of registrations that the host
controller has acknowledged and that are not revoked.  A worker that has
exited may have left replies behind. -/
inductive Session : Link → Nat → Prop
  | idle : Session ⟨false, none, [], .zloop, false, []⟩ 0
  | connectCalled :
      Session ⟨false, some .iConnectDone, [.iConnect], .zloop, false, []⟩ 0
  | registering :
      Session ⟨false, some .iConnectDone, [], .sendCmd .gwRegister, true, []⟩ 0
  | connectFailed :
      Session ⟨false, some .iConnectDone, [], .zloop, false,
        [connectStatus (-1)]⟩ 0
  | connectDone :
      Session ⟨false, some .iConnectDone, [], .zloop, true, [connectStatus 0]⟩ 1
  | lostEarly :
      Session ⟨false, some .iConnectDone, [], .sendCmd (.gwUnregister true),
        true, [connectStatus 0]⟩ 0
  | connected : Session ⟨true, none, [], .zloop, true, []⟩ 1
  | lost : Session ⟨true, none, [], .sendCmd (.gwUnregister true), true, []⟩ 0
  | disconnectCalled :
      Session ⟨true, some .iDisconnectDone, [.iDisconnect], .zloop, true, []⟩ 1
  | unregistering :
      Session ⟨true, some .iDisconnectDone, [], .sendCmd (.gwUnregister false),
        true, []⟩ 0
  | disconnectDone :
      Session ⟨true, some .iDisconnectDone, [], .zloop, false,
        [disconnectStatus]⟩ 0
  | lostCalled :
      Session ⟨true, some .iDisconnectDone, [.iDisconnect],
        .sendCmd (.gwUnregister true), true, []⟩ 0
  | exitedEarly {worker : WorkerPc} {rest : List Status}
      (hexited : worker.exited = true)
      (hstale : ∀ status ∈ rest, status.name ≠ .iConnectDone) :
      Session ⟨false, some .iConnectDone, [], worker, false,
        connectStatus 0 :: disconnectStatus :: rest⟩ 0
  | exitedConnected {waits : Option StatusName} {toWorker : List Command}
      {worker : WorkerPc} {rest : List Status}
      (hexited : worker.exited = true)
      (hwaits : waits = none ∨ waits = some .iDisconnectDone)
      (hstale : ∀ status ∈ rest, status.name ≠ .iConnectDone) :
      Session ⟨true, waits, toWorker, worker, false,
        disconnectStatus :: rest⟩ 0
  | exited {waits : Option StatusName} {toWorker : List Command}
      {worker : WorkerPc} {toMain : List Status}
      (hexited : worker.exited = true)
      (hwaits : waits = none ∨ waits = some .iConnectDone)
      (hstale : ∀ status ∈ toMain, status.name ≠ .iConnectDone) :
      Session ⟨false, waits, toWorker, worker, false, toMain⟩ 0

/-- No operation waits for a status. -/
def Straight (ops : List MainOp) : Prop := ∀ op ∈ ops, op.awaits = none

@[simp] theorem straight_nil : Straight [] := by
  simp [Straight]

@[simp] theorem straight_cons {op : MainOp} {ops : List MainOp} :
    Straight (op :: ops) ↔ op.awaits = none ∧ Straight ops := by
  simp [Straight]

theorem Straight.no_wait {ops : List MainOp} (h : Straight ops) :
    waitsFor ops = none := by
  cases ops with
  | nil => rfl
  | cons op rest => exact h op List.mem_cons_self

theorem Straight.tail {ops : List MainOp} (h : Straight ops) :
    Straight ops.tail :=
  fun op hop => h op (List.mem_of_mem_tail hop)

/-! ## The invariant -/

structure Linked (s : Threads) : Prop where
  straight : Straight s.main.tail
  noLeak : s.leakedSockets = 0
  session : ∃ balance, Session s.link balance ∧
    s.acknowledged = s.unregistered + balance

theorem linked_osdGatewayNew : Linked osdGatewayNew where
  straight := by simp [osdGatewayNew]
  noLeak := rfl
  session := ⟨0, .idle, rfl⟩

theorem Linked.keep {s s' : Threads} (h : Linked s)
    (hstraight : Straight s'.main.tail) (hlink : s'.link = s.link)
    (hleak : s'.leakedSockets = s.leakedSockets)
    (hacknowledged : s'.acknowledged = s.acknowledged)
    (hunregistered : s'.unregistered = s.unregistered) : Linked s' where
  straight := hstraight
  noLeak := hleak.trans h.noLeak
  session := by
    rw [hlink, hacknowledged, hunregistered]
    exact h.session

/-! ## The main thread -/

theorem stale_disconnect {rest : List Status}
    (h : ∀ status ∈ rest, status.name ≠ .iConnectDone) :
    ∀ status ∈ disconnectStatus :: rest, status.name ≠ .iConnectDone := by
  simpa [disconnectStatus] using h

section Main

variable {s s' : Threads} {op : MainOp} {rest : List MainOp}

theorem Linked.rest_straight (h : Linked s) (hmain : s.main = op :: rest) :
    Straight rest := by
  have hstraight := h.straight
  rwa [hmain] at hstraight

theorem Linked.disconnectFromHostctrl (h : Linked s)
    (hmain : s.main = .disconnectFromHostctrl :: rest)
    (hgoes : { s with main := rest }.runMainOp .disconnectFromHostctrl =
      .ok s') : Linked s' := by
  have hrest := h.rest_straight hmain
  obtain ⟨balance, hsession, hbalance⟩ := h.session
  dsimp only [Threads.runMainOp] at hgoes
  split at hgoes
  · rename_i hconnected
    split at hgoes
    · cases hgoes
      refine ⟨hrest, h.noLeak, balance, ?_, hbalance⟩
      generalize hlink : s.link = link at hsession
      cases hsession with
      | connected =>
          simp [Threads.link, hmain, MainOp.awaits] at hlink
          simpa [Threads.link, MainOp.awaits, hlink] using Session.disconnectCalled
      | lost =>
          simp [Threads.link, hmain, MainOp.awaits] at hlink
          simpa [Threads.link, MainOp.awaits, hlink] using Session.lostCalled
      | exitedConnected hexited hwaits hstale =>
          simp [Threads.link, hmain, MainOp.awaits] at hlink
          simpa [Threads.link, MainOp.awaits, hlink] using
            Session.exitedConnected hexited (by simp) hstale
      | _ => simp [Threads.link, hmain, MainOp.awaits, hconnected] at hlink
    · rename_i hended
      cases hgoes
      refine ⟨hrest.tail, h.noLeak, balance, ?_, hbalance⟩
      generalize hlink : s.link = link at hsession
      have hworker : s.worker = .ended := by
        simpa [Threads.threadIsRunning] using hended
      cases hsession with
      | exitedConnected hexited hwaits hstale =>
          simp [Threads.link, hmain, MainOp.awaits] at hlink
          simpa [Threads.link, hrest.no_wait, hlink] using
            Session.exited hexited (by simp [← hlink.2.1])
              (stale_disconnect hstale)
      | _ => simp [Threads.link, hmain, MainOp.awaits, hconnected, hworker] at hlink
  · cases hgoes
    refine h.keep hrest.tail ?_ rfl rfl rfl
    simp [Threads.link, hmain, MainOp.awaits, hrest.no_wait]

theorem Linked.connectToHostctrl (h : Linked s)
    (hmain : s.main = .connectToHostctrl :: rest)
    (hgoes : { s with main := rest }.runMainOp .connectToHostctrl = .ok s') :
    Linked s' := by
  have hrest := h.rest_straight hmain
  dsimp only [Threads.runMainOp] at hgoes
  split at hgoes
  · cases hgoes
    refine h.keep hrest.tail ?_ rfl rfl rfl
    simp [Threads.link, hmain, MainOp.awaits, hrest.no_wait]
  · rename_i hconnected
    split at hgoes
    · cases hgoes
      obtain ⟨balance, hsession, hbalance⟩ := h.session
      refine ⟨hrest, h.noLeak, balance, ?_, hbalance⟩
      generalize hlink : s.link = link at hsession
      cases hsession with
      | idle =>
          simp [Threads.link, hmain, MainOp.awaits] at hlink
          simpa [Threads.link, MainOp.awaits, hlink] using
            Session.connectCalled
      | exited hexited hwaits hstale =>
          simp [Threads.link, hmain, MainOp.awaits] at hlink
          simpa [Threads.link, MainOp.awaits, hlink] using
            Session.exited hexited (by simp) hstale
      | _ => simp [Threads.link, hmain, MainOp.awaits, hconnected] at hlink
    · cases hgoes
      refine h.keep (by simp [Threads.connectFails]) ?_ rfl rfl rfl
      simp [Threads.connectFails, Threads.link, hmain, MainOp.awaits]

theorem Linked.runMainOp (h : Linked s) (hmain : s.main = op :: rest)
    (hop : op.waits = false)
    (hgoes : { s with main := rest }.runMainOp op = .ok s') : Linked s' := by
  have hrest := h.rest_straight hmain
  have hsame : Linked { s with main := rest } := by
    refine h.keep hrest.tail ?_ rfl rfl rfl
    cases op with
    | workerWaitForStatus name => cases hop
    | _ => simp [Threads.link, hmain, MainOp.awaits, hrest.no_wait]
  cases op with
  | disconnectFromHostctrl => exact h.disconnectFromHostctrl hmain hgoes
  | connectToHostctrl => exact h.connectToHostctrl hmain hgoes
  | performOutstandingMainThreadTasks =>
      dsimp only [Threads.runMainOp] at hgoes
      split at hgoes
      · cases hgoes
        refine hsame.keep (by simp [MainOp.awaits, hrest]) ?_ rfl rfl rfl
        simp [Threads.link, MainOp.awaits, hrest.no_wait]
      · cases hgoes
        exact hsame
  | disconnectFromDevice =>
      dsimp only [Threads.runMainOp] at hgoes
      split at hgoes
      · cases hgoes
        refine hsame.keep (by simp [hrest]) ?_ rfl rfl rfl
        simp [Threads.link, MainOp.awaits, hrest.no_wait]
      · cases hgoes
        exact hsame
  | connectToDevice =>
      obtain ⟨-, hgoes⟩ := assertThat_bind_eq_ok.mp hgoes
      cases hgoes
      exact hsame.keep hrest.tail rfl rfl rfl rfl
  | clearDeviceDisconnectDetected =>
      cases hgoes
      exact hsame.keep hrest.tail rfl rfl rfl rfl
  | statsStart =>
      cases hgoes
      exact hsame.keep hrest.tail rfl rfl rfl rfl
  | joinDevicerxthread => cases hop
  | workerWaitForStatus name => cases hop

theorem Linked.joined (h : Linked s)
    (hmain : s.main = .joinDevicerxthread :: rest) :
    Linked { s with main := rest }.joined := by
  have hrest := h.rest_straight hmain
  refine h.keep hrest.tail ?_ rfl rfl rfl
  simp [Threads.joined, Threads.link, hmain, MainOp.awaits, hrest.no_wait]

@[simp] theorem waited_connected (s : Threads) :
    s.waited (some (connectStatus 0)) .iConnectDone =
      { s with isConnectedToHostctrl := true } := rfl

@[simp] theorem waited_failed (s : Threads) :
    s.waited (some (connectStatus (-1))) .iConnectDone = s.connectFails := rfl

@[simp] theorem waited_disconnected (s : Threads) :
    s.waited (some disconnectStatus) .iDisconnectDone =
      { s with isConnectedToHostctrl := false } := rfl

theorem waited_stale (s : Threads) {status : Status}
    (h : status.name ≠ .iConnectDone) :
    s.waited (some status) .iConnectDone = s.connectFails := by
  unfold Threads.waited workerWaitForStatus
  dsimp only
  rw [if_neg h]
  rfl

theorem Linked.received {name : StatusName} {status : Status}
    {toMain : List Status} (h : Linked s)
    (hmain : s.main = .workerWaitForStatus name :: rest)
    (htoMain : s.toMain = status :: toMain) :
    Linked ({ s with main := rest, toMain }.waited (some status) name) := by
  have hrest := h.rest_straight hmain
  obtain ⟨balance, hsession, hbalance⟩ := h.session
  generalize hlink : s.link = link at hsession
  cases hsession with
  | connectFailed =>
      simp [Threads.link, hmain, htoMain, MainOp.awaits] at hlink
      obtain ⟨hconnected, rfl, htoWorker, hworker, hsocket, rfl, rfl⟩ := hlink
      refine ⟨by simp [Threads.connectFails], h.noLeak, 0, ?_, hbalance⟩
      simpa [Threads.link, Threads.connectFails, hconnected, htoWorker,
        hworker, hsocket] using Session.idle
  | connectDone =>
      simp [Threads.link, hmain, htoMain, MainOp.awaits] at hlink
      obtain ⟨hconnected, rfl, htoWorker, hworker, hsocket, rfl, rfl⟩ := hlink
      refine ⟨hrest.tail, h.noLeak, 1, ?_, hbalance⟩
      simpa [Threads.link, hrest.no_wait, htoWorker, hworker, hsocket] using
        Session.connected
  | lostEarly =>
      simp [Threads.link, hmain, htoMain, MainOp.awaits] at hlink
      obtain ⟨hconnected, rfl, htoWorker, hworker, hsocket, rfl, rfl⟩ := hlink
      refine ⟨hrest.tail, h.noLeak, 0, ?_, hbalance⟩
      simpa [Threads.link, hrest.no_wait, htoWorker, hworker, hsocket] using
        Session.lost
  | exitedEarly hexited hstale =>
      simp [Threads.link, hmain, htoMain, MainOp.awaits] at hlink
      obtain ⟨hconnected, rfl, htoWorker, hworker, hsocket, rfl, rfl⟩ := hlink
      refine ⟨hrest.tail, h.noLeak, 0, ?_, hbalance⟩
      simpa [Threads.link, hrest.no_wait, htoWorker, hworker, hsocket] using
        Session.exitedConnected hexited (by simp) hstale
  | disconnectDone =>
      simp [Threads.link, hmain, htoMain, MainOp.awaits] at hlink
      obtain ⟨hconnected, rfl, htoWorker, hworker, hsocket, rfl, rfl⟩ := hlink
      refine ⟨hrest.tail, h.noLeak, 0, ?_, hbalance⟩
      simpa [Threads.link, hrest.no_wait, htoWorker, hworker, hsocket] using
        Session.idle
  | exitedConnected hexited hwaits hstale =>
      simp [Threads.link, hmain, htoMain, MainOp.awaits] at hlink
      obtain ⟨hconnected, rfl, htoWorker, hworker, hsocket, rfl, rfl⟩ := hlink
      obtain rfl : name = .iDisconnectDone := by simpa using hwaits
      refine ⟨hrest.tail, h.noLeak, 0, ?_, hbalance⟩
      simpa [Threads.link, hrest.no_wait, htoWorker, hworker, hsocket] using
        Session.exited hexited (.inl rfl) hstale
  | exited hexited hwaits hstale =>
      simp [Threads.link, hmain, htoMain, MainOp.awaits] at hlink
      obtain ⟨hconnected, rfl, htoWorker, hworker, hsocket, rfl⟩ := hlink
      obtain rfl : name = .iConnectDone := by simpa using hwaits
      rw [waited_stale _ (hstale status (by simp))]
      refine ⟨by simp [Threads.connectFails], h.noLeak, 0, ?_, hbalance⟩
      simpa [Threads.link, Threads.connectFails, hconnected, htoWorker,
        hworker, hsocket] using Session.exited hexited (.inl rfl)
          fun status hmem => hstale status (List.mem_cons_of_mem _ hmem)
  | _ => simp [Threads.link, hmain, htoMain, MainOp.awaits] at hlink

end Main

/-! ## The worker -/

section Worker

variable {s s' : Threads}

theorem unregistered_exited : WorkerPc.unregistered.exited = true := rfl

theorem no_stale : ∀ status ∈ ([] : List Status),
    status.name ≠ .iConnectDone := by
  simp

theorem Linked.workerCommand {command : Command} {toWorker : List Command}
    {dealer : Bool} (h : Linked s) (hworker : s.worker = .zloop)
    (htoWorker : s.toWorker = command :: toWorker)
    (hgoes : { s with toWorker }.hostiothreadHandleInprocRequest command dealer
      true = .ok s') : Linked s' := by
  obtain ⟨balance, hsession, hbalance⟩ := h.session
  generalize hlink : s.link = link at hsession
  cases hsession with
  | connectCalled =>
      simp [Threads.link, hworker, htoWorker] at hlink
      obtain ⟨hconnected, hwaits, ⟨rfl, rfl⟩, hsocket, htoMain⟩ := hlink
      cases hgoes
      cases dealer with
      | true =>
          refine ⟨h.straight, ?_, 0, ?_, hbalance⟩
          · simp [Threads.hostiothreadConnectToHostctrl, hsocket, h.noLeak]
          · simpa [Threads.hostiothreadConnectToHostctrl, Threads.link,
              hconnected, hwaits, htoMain] using Session.registering
      | false =>
          refine ⟨h.straight, ?_, 0, ?_, hbalance⟩
          · simp [Threads.hostiothreadConnectToHostctrl, Threads.registered,
              Threads.sendStatus, osdErrorFailure, osdFailed, hsocket, h.noLeak]
          · simpa [Threads.hostiothreadConnectToHostctrl, Threads.link,
              Threads.registered, Threads.sendStatus, osdErrorFailure,
              osdFailed, hconnected, hwaits, htoMain] using
                Session.connectFailed
  | disconnectCalled =>
      simp [Threads.link, hworker, htoWorker] at hlink
      obtain ⟨hconnected, hwaits, ⟨rfl, rfl⟩, hsocket, htoMain⟩ := hlink
      unfold Threads.hostiothreadHandleInprocRequest
        Threads.hostiothreadDisconnectFromHostctrl at hgoes
      obtain ⟨-, hgoes⟩ := assertThat_bind_eq_ok.mp hgoes
      cases hgoes
      refine ⟨h.straight, h.noLeak, 0, ?_, hbalance⟩
      simpa [Threads.link, hconnected, hwaits, hsocket, htoMain] using
        Session.unregistering
  | exitedConnected hexited hwaits hstale =>
      cases hworker.symm.trans (congrArg Link.worker hlink)
      cases hexited
  | exited hexited hwaits hstale =>
      cases hworker.symm.trans (congrArg Link.worker hlink)
      cases hexited
  | _ => simp [Threads.link, hworker, htoWorker] at hlink

theorem link_disconnected (s : Threads) (writeFailed : Bool) :
    (s.disconnected writeFailed).link =
      { s.link with
        worker := if writeFailed then .unregistered else .zloop
        isOpen := false
        toMain := s.link.toMain ++ [disconnectStatus] } := rfl

/-- The socket is closed, and the main thread hears of it. -/
theorem Linked.disconnected (h : Linked s) {link : Link} {writeFailed : Bool}
    (hlink : s.link = link) (hbalance : s.acknowledged = s.unregistered + 0)
    (hsession : Session
      { link with
        worker := if writeFailed then .unregistered else .zloop
        isOpen := false
        toMain := link.toMain ++ [disconnectStatus] } 0) :
    Linked (s.disconnected writeFailed) := by
  refine ⟨h.straight, h.noLeak, 0, ?_, hbalance⟩
  rw [link_disconnected, hlink]
  exact hsession

theorem Linked.cmdDone {command : GwCommand} (h : Linked s)
    (hworker : s.worker = .sendCmd command) (rv : OsdResult) :
    Linked (s.cmdDone command rv) := by
  obtain ⟨balance, hsession, hbalance⟩ := h.session
  generalize hlink : s.link = link at hsession
  have hsends := hworker.symm.trans (congrArg Link.worker hlink)
  cases hsession with
  | registering =>
      simp [Threads.link, hworker] at hlink
      obtain ⟨hconnected, hwaits, htoWorker, rfl, hsocket, htoMain⟩ := hlink
      unfold Threads.cmdDone Threads.registered Threads.sendStatus
      dsimp only
      split
      · refine ⟨h.straight, h.noLeak, 0, ?_, hbalance⟩
        simpa [Threads.link, hconnected, hwaits, htoWorker, htoMain] using
          Session.connectFailed
      · refine ⟨h.straight, h.noLeak, 1, ?_, by simp [hbalance]⟩
        simpa [Threads.link, hconnected, hwaits, htoWorker, hsocket, htoMain]
          using Session.connectDone
  | unregistering =>
      cases hsends
      exact h.disconnected hlink hbalance .disconnectDone
  | lostEarly =>
      cases hsends
      exact h.disconnected hlink hbalance
        (.exitedEarly unregistered_exited no_stale)
  | lost =>
      cases hsends
      exact h.disconnected hlink hbalance
        (.exitedConnected unregistered_exited (.inl rfl) no_stale)
  | lostCalled =>
      cases hsends
      exact h.disconnected hlink hbalance
        (.exitedConnected unregistered_exited (.inr rfl) no_stale)
  | exitedEarly hexited hstale =>
      cases hsends
      cases hexited
  | exitedConnected hexited hwaits hstale =>
      cases hsends
      cases hexited
  | exited hexited hwaits hstale =>
      cases hsends
      cases hexited
  | _ => cases hsends

theorem link_sending (s : Threads) (worker : WorkerPc) (unregistered : Nat) :
    Threads.link { s with worker, unregistered } =
      { s.link with worker } := rfl

theorem Linked.writeFailed (h : Linked s) (hworker : s.worker = .zloop)
    (hgoes : s.hostiothreadDisconnectFromHostctrl true true = .ok s') :
    Linked s' := by
  unfold Threads.hostiothreadDisconnectFromHostctrl at hgoes
  obtain ⟨hopen, hgoes⟩ := assertThat_bind_eq_ok.mp hgoes
  cases hgoes
  obtain ⟨balance, hsession, hbalance⟩ := h.session
  generalize hlink : s.link = link at hsession
  cases hsession with
  | connectDone =>
      refine ⟨h.straight, h.noLeak, 0, ?_, hbalance⟩
      rw [link_sending, hlink]
      exact .lostEarly
  | connected =>
      refine ⟨h.straight, h.noLeak, 0, ?_, hbalance⟩
      rw [link_sending, hlink]
      exact .lost
  | disconnectCalled =>
      refine ⟨h.straight, h.noLeak, 0, ?_, hbalance⟩
      rw [link_sending, hlink]
      exact .lostCalled
  | _ =>
      have hsocket := congrArg Link.isOpen hlink
      have hpc := congrArg Link.worker hlink
      simp [Threads.link, hopen, hworker] at hsocket hpc

theorem Linked.received_msg {msg : Message} {deviceWriteRv : OsdResult}
    (h : Linked s) (hworker : s.worker = .zloop)
    (hgoes : s.hostiothreadRcvFromHostctrl msg deviceWriteRv true = .ok s') :
    Linked s' := by
  obtain ⟨stats, hgoes⟩ := rcvFromHostctrl_cases hgoes
  have hcounted : Linked { s with stats } :=
    h.keep h.straight rfl rfl rfl rfl
  rcases hgoes with rfl | hgoes
  · exact hcounted
  · exact hcounted.writeFailed hworker hgoes

theorem link_exit (s : Threads) (worker : WorkerPc) (extra : List Status) :
    Threads.link { s with worker, toMain := s.toMain ++ extra } =
      { s.link with worker, toMain := s.link.toMain ++ extra } := rfl

theorem Linked.exit {worker : WorkerPc} {extra : List Status} (h : Linked s)
    (hexited : s.worker.exited = true) (hexited' : worker.exited = true)
    (hextra : ∀ status ∈ extra, status.name ≠ .iConnectDone) :
    Linked { s with worker, toMain := s.toMain ++ extra } := by
  obtain ⟨balance, hsession, hbalance⟩ := h.session
  generalize hlink : s.link = link at hsession
  have hmore : ∀ {front : List Status},
      (∀ status ∈ front, status.name ≠ .iConnectDone) →
        ∀ status ∈ front ++ extra, status.name ≠ .iConnectDone := by
    intro front hfront status hmem
    rcases List.mem_append.mp hmem with hold | hnew
    · exact hfront status hold
    · exact hextra status hnew
  cases hsession with
  | exitedEarly hgone hstale =>
      refine ⟨h.straight, h.noLeak, 0, ?_, hbalance⟩
      rw [link_exit, hlink]
      exact .exitedEarly hexited' (hmore hstale)
  | exitedConnected hgone hwaiting hstale =>
      refine ⟨h.straight, h.noLeak, 0, ?_, hbalance⟩
      rw [link_exit, hlink]
      exact .exitedConnected hexited' hwaiting (hmore hstale)
  | exited hgone hwaiting hstale =>
      refine ⟨h.straight, h.noLeak, 0, ?_, hbalance⟩
      rw [link_exit, hlink]
      exact .exited hexited' hwaiting (hmore hstale)
  | _ =>
      have hpc : s.worker = _ := congrArg Link.worker hlink
      rw [hpc] at hexited
      cases hexited

end Worker

/-! ## Runs -/

theorem Linked.step {s s' : Threads} {action : Action} (h : Linked s)
    (hgoes : Goes s action s') (hserved : action.served = true) :
    Linked s' := by
  unfold Goes at hgoes
  generalize hout : (Except.ok s' : Outcome Threads) = outcome at hgoes
  cases hgoes with
  | @call entry hmain =>
      cases hout
      refine h.keep ?_ ?_ rfl rfl rfl
      · cases entry <;> simp [ApiCall.ops, MainOp.awaits]
      · cases entry <;>
          simp [Threads.link, ApiCall.ops, MainOp.awaits, hmain]
  | main hmain hop => exact h.runMainOp hmain hop hout.symm
  | join hmain hrx =>
      cases hout
      exact h.joined hmain
  | cancel hmain hrx =>
      cases hout
      exact h.joined hmain
  | receive hmain htoMain =>
      cases hout
      exact h.received hmain htoMain
  | timeout hmain htoMain => cases hserved
  | rxRead hrx =>
      unfold Threads.devicerxthreadRead at hout
      obtain ⟨event, -, hout⟩ := bind_eq_ok.mp hout.symm
      cases event <;> cases hout <;> exact h.keep h.straight rfl rfl rfl rfl
  | rxQueue hrx =>
      cases hout
      exact h.keep h.straight rfl rfl rfl rfl
  | rxCount hrx =>
      cases hout
      exact h.keep h.straight rfl rfl rfl rfl
  | @workerCommand command toWorker dealer sent hworker htoWorker =>
      obtain rfl : sent = true := hserved
      exact h.workerCommand hworker htoWorker hout.symm
  | workerReply hworker hsocket =>
      obtain ⟨rv, -, hout⟩ := bind_eq_ok.mp hout.symm
      cases hout
      apply Linked.cmdDone
      · exact h.keep h.straight (by simp [Threads.link, hsocket]) rfl rfl rfl
      · exact hworker
  | workerTimeout hworker hsocket =>
      obtain ⟨rv, -, hout⟩ := bind_eq_ok.mp hout.symm
      cases hout
      exact h.cmdDone hworker rv
  | @workerReceive msg rest deviceWriteRv sent hworker hsocket =>
      obtain rfl : sent = true := hserved
      refine Linked.received_msg ?_ ?_ hout.symm
      · exact h.keep h.straight (by simp [Threads.link, hsocket]) rfl rfl rfl
      · exact hworker
  | @workerReceiveLeaked msg deviceWriteRv sent hworker hleaked =>
      obtain rfl : sent = true := hserved
      exact h.received_msg hworker hout.symm
  | workerForward hworker hrx =>
      unfold Threads.forwardDevicerxToHostctrl at hout
      obtain ⟨-, hout⟩ := assertThat_bind_eq_ok.mp hout.symm
      cases hout
      exact h.keep h.straight rfl rfl rfl rfl
  | workerSignal hworker =>
      cases hout
      have hexited : Linked
          { s with worker := .stopping, toMain := s.toMain ++ [] } :=
        h.exit (by simp [hworker, WorkerPc.exited]) rfl no_stale
      exact hexited.keep h.straight (by simp [Threads.link]) rfl rfl rfl
  | workerStop hworker =>
      cases hout
      exact h.exit (by simp [hworker, WorkerPc.exited]) rfl (by simp)
  | workerEnd hworker =>
      cases hout
      have hexited : Linked
          { s with worker := .ended, toMain := s.toMain ++ [] } :=
        h.exit (by simp [hworker, WorkerPc.exited]) rfl no_stale
      exact hexited.keep h.straight (by simp [Threads.link]) rfl rfl rfl
  | hostctrl hsocket =>
      cases hout
      exact h.keep h.straight (by simp [Threads.link, hsocket]) rfl rfl rfl

theorem linked_of_run {history : List Action} {s : Threads}
    (run : Runs ServedStep osdGatewayNew history s) : Linked s := by
  refine run.invariant (I := fun _ s => Linked s) linked_osdGatewayNew ?_
  intro _ before action after _ hbefore hstep
  exact hbefore.step hstep.1 hstep.2

end Osd.Gateway
