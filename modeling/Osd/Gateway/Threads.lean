import Osd.Foundation.Runs
import Osd.Gateway.RxThread
import Osd.HostCtrl.Controller

/-!
# The three threads of a gateway

The main thread in the functions of the API, the device receive thread and the
host I/O worker of `gateway.c`, together with the thread function of
`worker.c`.  A step is what one thread does between two accesses to the state
that it shares with the others.  Queues are FIFO and keep what was sent to
them, also when the sender closes its end.
-/

namespace Osd.Gateway

open Osd.Foundation Osd.HostCtrl

/-! ## Messages -/

structure Message where
  type : List Byte
  frames : List (List Byte)
  deriving DecidableEq

/-- The message that `devicerxthread_main` makes of a packet. -/
def packetMessage (packet : Packet) : Message :=
  ⟨ascii "D", [packet.frame]⟩

inductive Command where
  | iConnect
  | iDisconnect
  deriving DecidableEq

inductive StatusName where
  | iConnectDone
  | iDisconnectDone
  | iShutdownDone
  deriving DecidableEq

structure Status where
  name : StatusName
  value : Int
  deriving DecidableEq

/-! ## Where the threads are -/

inductive ApiCall where
  | osdGatewayConnect
  | osdGatewayIsConnected
  | osdGatewayDisconnect

/-- What the main thread still has to do in its call. -/
inductive MainOp where
  | performOutstandingMainThreadTasks
  | disconnectFromDevice
  | joinDevicerxthread
  | disconnectFromHostctrl
  | clearDeviceDisconnectDetected
  | connectToHostctrl
  | connectToDevice
  | statsStart
  | workerWaitForStatus (name : StatusName)
  deriving DecidableEq

def ApiCall.ops : ApiCall → List MainOp
  | .osdGatewayConnect =>
      [.performOutstandingMainThreadTasks, .connectToHostctrl,
        .connectToDevice, .statsStart]
  | .osdGatewayIsConnected => [.performOutstandingMainThreadTasks]
  | .osdGatewayDisconnect => [.disconnectFromDevice, .disconnectFromHostctrl]

inductive GwCommand where
  | gwRegister
  | gwUnregister (writeFailed : Bool)
  deriving DecidableEq

/-- The worker is in its loop, in `hostiothread_send_cmd`, or on its way out
after a failed write. -/
inductive WorkerPc where
  | zloop
  | sendCmd (command : GwCommand)
  | unregistered
  | stopping
  | stopped
  | ended
  deriving DecidableEq

def WorkerPc.exited : WorkerPc → Bool
  | .zloop => false
  | .sendCmd _ => false
  | _ => true

inductive RxPc where
  | none
  | reading
  | queueing (packet : Packet)
  | counting (packet : Packet)
  | terminated
  deriving DecidableEq

structure TransferStats where
  bytesFromDevice : UInt64
  bytesToDevice : UInt64
  deriving DecidableEq

/-- The context of the gateway, the threads and their queues.  A socket that is
open holds the messages that wait at it.  The last fields only record what
happened: the packets that were read and the messages that were sent since the
receive thread was started, the acknowledged GW_REGISTER requests and the
GW_UNREGISTER requests. -/
structure Threads where
  isConnectedToHostctrl : Bool
  isConnectedToDevice : Bool
  deviceDisconnectDetected : Bool
  stats : TransferStats
  main : List MainOp
  returned : OsdResult
  deviceRxSocket : Bool
  rx : RxPc
  worker : WorkerPc
  hostctrlSocket : Option (List Message)
  leakedSockets : Nat
  toWorker : List Command
  toMain : List Status
  deviceRx : List Message
  read : List Packet
  sent : List Message
  acknowledged : Nat
  unregistered : Nat
  deriving DecidableEq

def osdGatewayNew : Threads where
  isConnectedToHostctrl := false
  isConnectedToDevice := false
  deviceDisconnectDetected := false
  stats := ⟨0, 0⟩
  main := []
  returned := osdOk
  deviceRxSocket := false
  rx := .none
  worker := .zloop
  hostctrlSocket := none
  leakedSockets := 0
  toWorker := []
  toMain := []
  deviceRx := []
  read := []
  sent := []
  acknowledged := 0
  unregistered := 0

/-! ## The main thread -/

def MainOp.waits : MainOp → Bool
  | .joinDevicerxthread => true
  | .workerWaitForStatus _ => true
  | _ => false

/-- The result and the value of `worker_wait_for_status`; the value is only
set with OSD_OK. -/
def workerWaitForStatus (status : Option Status) (name : StatusName) :
    OsdResult × Int :=
  match status with
  | none => (osdErrorTimedout, 0)
  | some status =>
      if status.name = name then (osdOk, status.value)
      else (osdErrorFailure, 0)

namespace Threads

def threadIsRunning (s : Threads) : Bool := s.worker != .ended

/-- `osd_gateway_connect` returns the failure of `connect_to_hostctrl`. -/
def connectFails (s : Threads) : Threads :=
  { s with main := [], returned := osdErrorConnectionFailed }

/-- The operations of the main thread that wait for no other thread. -/
def runMainOp (s : Threads) : MainOp → Outcome Threads
  | .performOutstandingMainThreadTasks =>
      if s.deviceDisconnectDetected then
        .ok { s with
          main := .disconnectFromDevice :: .disconnectFromHostctrl ::
            .clearDeviceDisconnectDetected :: s.main }
      else .ok s
  | .disconnectFromDevice =>
      if s.isConnectedToDevice then
        .ok { s with main := .joinDevicerxthread :: s.main }
      else .ok s
  | .disconnectFromHostctrl =>
      if s.isConnectedToHostctrl then
        if s.threadIsRunning then
          .ok { s with
            toWorker := s.toWorker ++ [.iDisconnect]
            main := .workerWaitForStatus .iDisconnectDone :: s.main }
        else .ok { s with isConnectedToHostctrl := false }
      else .ok s
  | .clearDeviceDisconnectDetected =>
      .ok { s with deviceDisconnectDetected := false }
  | .connectToHostctrl =>
      if s.isConnectedToHostctrl then .ok s
      else if s.threadIsRunning then
        .ok { s with
          toWorker := s.toWorker ++ [.iConnect]
          main := .workerWaitForStatus .iConnectDone :: s.main }
      else .ok s.connectFails
  | .connectToDevice => do
      -- binding an address a second time fails
      assertThat (s.deviceRxSocket = false)
      .ok { s with
        deviceRxSocket := true
        rx := .reading
        isConnectedToDevice := true
        read := []
        sent := [] }
  | .statsStart => .ok { s with stats := ⟨0, 0⟩, returned := osdOk }
  | .joinDevicerxthread => .ok s
  | .workerWaitForStatus _ => .ok s

/-- `disconnect_from_device` once the thread is joined. -/
def joined (s : Threads) : Threads :=
  { s with rx := .none, deviceRxSocket := false, isConnectedToDevice := false }

/-- The caller of `worker_wait_for_status` goes on. -/
def waited (s : Threads) (status : Option Status) (name : StatusName) :
    Threads :=
  let (rv, retval) := workerWaitForStatus status name
  if name = .iConnectDone then
    if osdFailed rv ∨ retval = -1 then s.connectFails
    else { s with isConnectedToHostctrl := true }
  else if osdFailed rv ∨ osdFailed retval then s
  else { s with isConnectedToHostctrl := false }

end Threads

/-! ## The device receive thread -/

def statsAddPkg (byteCounter : UInt64) (pkg : Packet) : UInt64 :=
  byteCounter + UInt64.ofNat (osdPacketSizeof pkg)

def TransferStats.addFromDevice (stats : TransferStats) (packet : Packet) :
    TransferStats :=
  { stats with bytesFromDevice := statsAddPkg stats.bytesFromDevice packet }

def TransferStats.addToDevice (stats : TransferStats) (packet : Packet) :
    TransferStats :=
  { stats with bytesToDevice := statsAddPkg stats.bytesToDevice packet }

def Threads.devicerxthreadRead (s : Threads) (rv : OsdResult)
    (rcvPacket : Option Packet) : Outcome Threads := do
  let event ← devicerxthreadRound rv rcvPacket
  match event with
  | .forwarded packet =>
      .ok { s with rx := .queueing packet, read := s.read ++ [packet] }
  | .retried _ => .ok s
  | .terminated =>
      .ok { s with rx := .terminated, deviceDisconnectDetected := true }

/-! ## The host I/O worker -/

def Threads.sendStatus (s : Threads) (name : StatusName) (value : Int) : Threads :=
  { s with toMain := s.toMain ++ [⟨name, value⟩] }

/-- `hostiothread_send_cmd` from the reply on; no reply stands for the timeout
of the socket. -/
def sendCmdReply (reply : Option Message) : Outcome OsdResult :=
  match reply with
  | none => .ok osdErrorFailure
  | some reply => do
      assertThat (reply.type = ascii "M")
      match reply.frames with
      | [] => .error .assertion
      | status :: _ =>
          .ok (if status = ascii "ACK" then osdOk else osdErrorFailure)

namespace Threads

/-- `hostiothread_connect_to_hostctrl` after `hostiothread_register_gw`. -/
def registered (s : Threads) (rv : OsdResult) : Threads :=
  if osdFailed rv then
    { s with hostctrlSocket := none, worker := .zloop }.sendStatus
      .iConnectDone (-1)
  else
    { s with
      worker := .zloop
      acknowledged := s.acknowledged + 1 }.sendStatus .iConnectDone 0

/-- `hostiothread_disconnect_from_hostctrl` after `hostiothread_unregister_gw`,
whose result does not matter, and the return to its caller. -/
def disconnected (s : Threads) (writeFailed : Bool) : Threads :=
  { s with
    hostctrlSocket := none
    worker := if writeFailed then .unregistered else .zloop }.sendStatus
      .iDisconnectDone osdOk

def cmdDone (s : Threads) (command : GwCommand) (rv : OsdResult) : Threads :=
  match command with
  | .gwRegister => s.registered rv
  | .gwUnregister writeFailed => s.disconnected writeFailed

/-- A socket that was open stays in the loop, but nothing refers to it any
more. -/
def hostiothreadConnectToHostctrl (s : Threads) (dealer sent : Bool) :
    Threads :=
  let leakedSockets := s.leakedSockets + if s.hostctrlSocket.isSome then 1 else 0
  if dealer then
    let s := { s with hostctrlSocket := some [], leakedSockets }
    if sent then { s with worker := .sendCmd .gwRegister }
    else s.registered osdErrorFailure
  else
    { s with leakedSockets }.registered osdErrorFailure

def hostiothreadDisconnectFromHostctrl (s : Threads) (writeFailed sent : Bool) :
    Outcome Threads := do
  assertThat (s.hostctrlSocket.isSome = true)
  if sent then
    .ok { s with
      worker := .sendCmd (.gwUnregister writeFailed)
      unregistered := s.unregistered + 1 }
  else .ok (s.disconnected writeFailed)

def hostiothreadHandleInprocRequest (s : Threads) (command : Command)
    (dealer sent : Bool) : Outcome Threads :=
  match command with
  | .iConnect => .ok (s.hostiothreadConnectToHostctrl dealer sent)
  | .iDisconnect => s.hostiothreadDisconnectFromHostctrl false sent

def hostiothreadRcvFromHostctrl (s : Threads) (msg : Message)
    (deviceWriteRv : OsdResult) (sent : Bool) : Outcome Threads := do
  assertThat (msg.type = ascii "D")
  match msg.frames with
  | [] => .error .assertion
  | dataFrame :: _ => do
      let pkg ← osdPacketNewFromZframe dataFrame
      let s := { s with stats := s.stats.addToDevice pkg }
      if osdFailed deviceWriteRv then
        s.hostiothreadDisconnectFromHostctrl true sent
      else .ok s

def forwardDevicerxToHostctrl (s : Threads) (msg : Message) :
    Outcome Threads := do
  assertThat (s.hostctrlSocket.isSome = true)
  .ok { s with sent := s.sent ++ [msg] }

end Threads

/-! ## Steps -/

/-- What happens, with what the surroundings decide: whether a socket can be
created and a request be sent, the results of the callbacks, the messages of
the host controller. -/
inductive Action where
  | call (entry : ApiCall)
  | main
  | mainTimeout
  | mainCancel
  | rxRead (rv : OsdResult) (rcvPacket : Option Packet)
  | rxQueue
  | rxCount
  | workerCommand (dealer sent : Bool)
  | workerReply
  | workerTimeout
  | workerReceive (deviceWriteRv : OsdResult) (sent : Bool)
  | workerReceiveLeaked (msg : Message) (deviceWriteRv : OsdResult)
      (sent : Bool)
  | workerForward
  | workerExit
  | hostctrl (msg : Message)

/-- One step of one thread, or the assertion that it fails. -/
inductive GatewayStep (s : Threads) : Action → Outcome Threads → Prop
  | call {entry : ApiCall} (hmain : s.main = []) :
      GatewayStep s (.call entry) (.ok { s with main := entry.ops })
  | main {op : MainOp} {rest : List MainOp} (hmain : s.main = op :: rest)
      (hop : op.waits = false) :
      GatewayStep s .main ({ s with main := rest }.runMainOp op)
  | join {rest : List MainOp} (hmain : s.main = .joinDevicerxthread :: rest)
      (hrx : s.rx = .terminated) :
      GatewayStep s .main (.ok { s with main := rest }.joined)
  | cancel {rest : List MainOp} (hmain : s.main = .joinDevicerxthread :: rest)
      (hrx : s.rx ≠ .terminated) :
      GatewayStep s .mainCancel (.ok { s with main := rest }.joined)
  | receive {name : StatusName} {rest : List MainOp} {status : Status}
      {toMain : List Status}
      (hmain : s.main = .workerWaitForStatus name :: rest)
      (htoMain : s.toMain = status :: toMain) :
      GatewayStep s .main
        (.ok ({ s with main := rest, toMain }.waited (some status) name))
  | timeout {name : StatusName} {rest : List MainOp}
      (hmain : s.main = .workerWaitForStatus name :: rest)
      (htoMain : s.toMain = []) :
      GatewayStep s .mainTimeout (.ok ({ s with main := rest }.waited none name))
  | rxRead {rv : OsdResult} {rcvPacket : Option Packet}
      (hrx : s.rx = .reading) :
      GatewayStep s (.rxRead rv rcvPacket) (s.devicerxthreadRead rv rcvPacket)
  | rxQueue {packet : Packet} (hrx : s.rx = .queueing packet) :
      GatewayStep s .rxQueue (.ok { s with
        rx := .counting packet
        deviceRx := s.deviceRx ++ [packetMessage packet] })
  | rxCount {packet : Packet} (hrx : s.rx = .counting packet) :
      GatewayStep s .rxCount
        (.ok { s with rx := .reading, stats := s.stats.addFromDevice packet })
  | workerCommand {command : Command} {toWorker : List Command}
      {dealer sent : Bool} (hworker : s.worker = .zloop)
      (htoWorker : s.toWorker = command :: toWorker) :
      GatewayStep s (.workerCommand dealer sent)
        ({ s with toWorker }.hostiothreadHandleInprocRequest command dealer
          sent)
  | workerReply {command : GwCommand} {reply : Message} {rest : List Message}
      (hworker : s.worker = .sendCmd command)
      (hsocket : s.hostctrlSocket = some (reply :: rest)) :
      GatewayStep s .workerReply (do
        let rv ← sendCmdReply (some reply)
        .ok ({ s with hostctrlSocket := some rest }.cmdDone command rv))
  | workerTimeout {command : GwCommand}
      (hworker : s.worker = .sendCmd command)
      (hsocket : s.hostctrlSocket = some []) :
      GatewayStep s .workerTimeout (do
        let rv ← sendCmdReply none
        .ok (s.cmdDone command rv))
  | workerReceive {msg : Message} {rest : List Message}
      {deviceWriteRv : OsdResult} {sent : Bool} (hworker : s.worker = .zloop)
      (hsocket : s.hostctrlSocket = some (msg :: rest)) :
      GatewayStep s (.workerReceive deviceWriteRv sent)
        ({ s with hostctrlSocket := some rest }.hostiothreadRcvFromHostctrl msg
          deviceWriteRv sent)
  | workerReceiveLeaked {msg : Message} {deviceWriteRv : OsdResult}
      {sent : Bool} (hworker : s.worker = .zloop)
      (hleaked : 0 < s.leakedSockets) :
      GatewayStep s (.workerReceiveLeaked msg deviceWriteRv sent)
        (s.hostiothreadRcvFromHostctrl msg deviceWriteRv sent)
  | workerForward {msg : Message} {rest : List Message}
      (hworker : s.worker = .zloop) (hrx : s.deviceRx = msg :: rest) :
      GatewayStep s .workerForward
        ({ s with deviceRx := rest }.forwardDevicerxToHostctrl msg)
  | workerSignal (hworker : s.worker = .unregistered) :
      GatewayStep s .workerExit
        (.ok { s with worker := .stopping, deviceDisconnectDetected := true })
  | workerStop (hworker : s.worker = .stopping) :
      GatewayStep s .workerExit
        (.ok ({ s with worker := .stopped }.sendStatus .iShutdownDone osdOk))
  | workerEnd (hworker : s.worker = .stopped) :
      GatewayStep s .workerExit (.ok { s with worker := .ended })
  | hostctrl {msg : Message} {waiting : List Message}
      (hsocket : s.hostctrlSocket = some waiting) :
      GatewayStep s (.hostctrl msg)
        (.ok { s with hostctrlSocket := some (waiting ++ [msg]) })

/-- A step after which the process goes on. -/
def Goes (s : Threads) (action : Action) (s' : Threads) : Prop :=
  GatewayStep s action (.ok s')

/-- A data message is counted; if it cannot be written to the device, the
worker disconnects. -/
theorem rcvFromHostctrl_cases {s s' : Threads} {msg : Message}
    {deviceWriteRv : OsdResult} {sent : Bool}
    (h : s.hostiothreadRcvFromHostctrl msg deviceWriteRv sent = .ok s') :
    ∃ stats, s' = { s with stats } ∨
      { s with stats }.hostiothreadDisconnectFromHostctrl true sent =
        .ok s' := by
  unfold Threads.hostiothreadRcvFromHostctrl at h
  obtain ⟨-, h⟩ := assertThat_bind_eq_ok.mp h
  split at h
  · cases h
  obtain ⟨pkg, -, h⟩ := bind_eq_ok.mp h
  split at h
  · exact ⟨_, .inr h⟩
  · cases h
    exact ⟨_, .inl rfl⟩

/-! ## Executing a schedule -/

def performMain (s : Threads) : Option (Outcome Threads) :=
  match s.main with
  | [] => none
  | .joinDevicerxthread :: rest =>
      if s.rx = .terminated then some (.ok { s with main := rest }.joined)
      else none
  | .workerWaitForStatus name :: rest =>
      match s.toMain with
      | [] => none
      | status :: toMain =>
          some (.ok ({ s with main := rest, toMain }.waited (some status) name))
  | op :: rest => some ({ s with main := rest }.runMainOp op)

def performWorker (s : Threads) : Action → Option (Outcome Threads)
  | .workerCommand dealer sent =>
      match s.worker, s.toWorker with
      | .zloop, command :: toWorker =>
          some ({ s with toWorker }.hostiothreadHandleInprocRequest command
            dealer sent)
      | _, _ => none
  | .workerReply =>
      match s.worker, s.hostctrlSocket with
      | .sendCmd command, some (reply :: rest) => some (do
          let rv ← sendCmdReply (some reply)
          .ok ({ s with hostctrlSocket := some rest }.cmdDone command rv))
      | _, _ => none
  | .workerTimeout =>
      match s.worker, s.hostctrlSocket with
      | .sendCmd command, some [] => some (do
          let rv ← sendCmdReply none
          .ok (s.cmdDone command rv))
      | _, _ => none
  | .workerReceive deviceWriteRv sent =>
      match s.worker, s.hostctrlSocket with
      | .zloop, some (msg :: rest) =>
          some ({ s with hostctrlSocket := some rest
            }.hostiothreadRcvFromHostctrl msg deviceWriteRv sent)
      | _, _ => none
  | .workerReceiveLeaked msg deviceWriteRv sent =>
      if s.worker = .zloop ∧ 0 < s.leakedSockets then
        some (s.hostiothreadRcvFromHostctrl msg deviceWriteRv sent)
      else none
  | .workerForward =>
      match s.worker, s.deviceRx with
      | .zloop, msg :: rest =>
          some ({ s with deviceRx := rest }.forwardDevicerxToHostctrl msg)
      | _, _ => none
  | .workerExit =>
      match s.worker with
      | .unregistered => some (.ok
          { s with worker := .stopping, deviceDisconnectDetected := true })
      | .stopping => some (.ok
          ({ s with worker := .stopped }.sendStatus .iShutdownDone osdOk))
      | .stopped => some (.ok { s with worker := .ended })
      | _ => none
  | _ => none

/-- The step that an action stands for, where the thread can take it. -/
def perform (s : Threads) (action : Action) : Option (Outcome Threads) :=
  match action with
  | .call entry =>
      match s.main with
      | [] => some (.ok { s with main := entry.ops })
      | _ => none
  | .main => performMain s
  | .mainTimeout =>
      match s.main, s.toMain with
      | .workerWaitForStatus name :: rest, [] =>
          some (.ok ({ s with main := rest }.waited none name))
      | _, _ => none
  | .mainCancel =>
      match s.main with
      | .joinDevicerxthread :: rest =>
          if s.rx ≠ .terminated then
            some (.ok { s with main := rest }.joined)
          else none
      | _ => none
  | .rxRead rv rcvPacket =>
      match s.rx with
      | .reading => some (s.devicerxthreadRead rv rcvPacket)
      | _ => none
  | .rxQueue =>
      match s.rx with
      | .queueing packet => some (.ok { s with
          rx := .counting packet
          deviceRx := s.deviceRx ++ [packetMessage packet] })
      | _ => none
  | .rxCount =>
      match s.rx with
      | .counting packet => some (.ok
          { s with rx := .reading, stats := s.stats.addFromDevice packet })
      | _ => none
  | .hostctrl msg =>
      match s.hostctrlSocket with
      | some waiting => some (.ok
          { s with hostctrlSocket := some (waiting ++ [msg]) })
      | none => none
  | action => performWorker s action

theorem perform_of_step {s : Threads} {action : Action}
    {outcome : Outcome Threads} (h : GatewayStep s action outcome) :
    perform s action = some outcome := by
  cases h with
  | @main op rest hmain hop =>
      cases op with
      | joinDevicerxthread => cases hop
      | workerWaitForStatus name => cases hop
      | _ => simp [perform, performMain, hmain]
  | _ => simp_all [perform, performMain, performWorker]

theorem performMain_sound {s : Threads} {outcome : Outcome Threads}
    (h : performMain s = some outcome) : GatewayStep s .main outcome := by
  unfold performMain at h
  split at h
  · cases h
  · split at h <;> cases h
    exact .join ‹_› ‹_›
  · split at h <;> cases h
    exact .receive ‹_› ‹_›
  · cases h
    refine .main ‹_› ?_
    rename_i op rest hjoin hwait hmain
    cases op with
    | joinDevicerxthread => exact (hjoin rfl).elim
    | workerWaitForStatus name => exact (hwait name rfl).elim
    | _ => rfl

theorem performWorker_sound {s : Threads} {action : Action}
    {outcome : Outcome Threads} (h : performWorker s action = some outcome) :
    GatewayStep s action outcome := by
  unfold performWorker at h
  cases action with
  | workerCommand dealer sent =>
      dsimp only at h
      split at h <;> cases h
      exact .workerCommand ‹_› ‹_›
  | workerReply =>
      dsimp only at h
      split at h <;> cases h
      exact .workerReply ‹_› ‹_›
  | workerTimeout =>
      dsimp only at h
      split at h <;> cases h
      exact .workerTimeout ‹_› ‹_›
  | workerReceive deviceWriteRv sent =>
      dsimp only at h
      split at h <;> cases h
      exact .workerReceive ‹_› ‹_›
  | workerReceiveLeaked msg deviceWriteRv sent =>
      dsimp only at h
      split at h <;> cases h
      rename_i hleaked
      exact .workerReceiveLeaked hleaked.1 hleaked.2
  | workerForward =>
      dsimp only at h
      split at h <;> cases h
      exact .workerForward ‹_› ‹_›
  | workerExit =>
      dsimp only at h
      split at h <;> cases h
      · exact .workerSignal ‹_›
      · exact .workerStop ‹_›
      · exact .workerEnd ‹_›
  | _ => cases h

theorem step_of_perform {s : Threads} {action : Action}
    {outcome : Outcome Threads} (h : perform s action = some outcome) :
    GatewayStep s action outcome := by
  unfold perform at h
  split at h
  · split at h <;> cases h
    exact .call ‹_›
  · exact performMain_sound h
  · split at h <;> cases h
    exact .timeout ‹_› ‹_›
  · split at h
    · split at h <;> cases h
      exact .cancel ‹_› ‹_›
    · cases h
  · split at h <;> cases h
    exact .rxRead ‹_›
  · split at h <;> cases h
    exact .rxQueue ‹_›
  · split at h <;> cases h
    exact .rxCount ‹_›
  · split at h <;> cases h
    exact .hostctrl ‹_›
  · exact performWorker_sound h

/-- The state after a schedule whose steps are all allowed, unless the process
ended before. -/
def performAll (allowed : Threads → Action → Bool) (s : Threads) :
    List Action → Option Threads
  | [] => some s
  | action :: rest =>
      match allowed s action, perform s action with
      | true, some (.ok s) => performAll allowed s rest
      | _, _ => none

theorem runs_of_performAll {allowed : Threads → Action → Bool}
    {s s' : Threads} {schedule : List Action}
    (h : performAll allowed s schedule = some s') :
    Runs (fun s action s' => Goes s action s' ∧ allowed s action = true) s
      schedule s' := by
  induction schedule generalizing s with
  | nil =>
      cases h
      exact .refl
  | cons action rest ih =>
      unfold performAll at h
      split at h
      · rename_i middle hallowed hstep
        exact (Runs.single ⟨step_of_perform hstep, hallowed⟩).trans (ih h)
      · cases h

end Osd.Gateway
