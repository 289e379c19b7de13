import Osd.Gateway.Coupling
import Osd.Gateway.Forwarding

/-!
# Transfer statistics

The counters of the gateway with the packets that they are to count.  The
worker writes a packet to the device in one step and counts it in another one.
-/

namespace Osd.Gateway

open Osd.Foundation Osd.HostCtrl

/-! ## Two steps of the worker -/

/-- The packet of a message from the host controller. -/
def receivedPacket (msg : Message) : Outcome Packet := do
  assertThat (msg.type = ascii "D")
  match msg.frames with
  | [] => .error .assertion
  | dataFrame :: _ => osdPacketNewFromZframe dataFrame

/-- A packet that `packet_write` has got and that is not counted yet. -/
structure Writing where
  pkg : Packet
  deviceWriteRv : OsdResult
  sent : Bool
  deriving DecidableEq

/-- `hostiothread_rcv_from_hostctrl` behind `packet_write`. -/
def Threads.countWritten (s : Threads) (writing : Writing) :
    Outcome Threads :=
  let s := { s with stats := s.stats.addToDevice writing.pkg }
  if osdFailed writing.deviceWriteRv then
    s.hostiothreadDisconnectFromHostctrl true writing.sent
  else .ok s

theorem rcvFromHostctrl_split (s : Threads) (msg : Message)
    (deviceWriteRv : OsdResult) (sent : Bool) :
    s.hostiothreadRcvFromHostctrl msg deviceWriteRv sent =
      (receivedPacket msg >>= fun pkg =>
        s.countWritten ⟨pkg, deviceWriteRv, sent⟩) := by
  unfold Threads.hostiothreadRcvFromHostctrl receivedPacket
    Threads.countWritten
  by_cases htype : msg.type = ascii "D"
  · rw [assertThat_bind htype, assertThat_bind htype]
    cases msg.frames with
    | nil => rfl
    | cons dataFrame frames => rfl
  · rw [assertThat_bind_not htype, assertThat_bind_not htype]
    rfl

/-! ## Steps -/

/-- The gateway, the packet that its worker has written, and the packets that
were handed on to the worker and written with success since the last call of
`osd_gateway_connect`. -/
structure Transfers where
  threads : Threads
  writing : Option Writing
  handedOn : List Packet
  written : List Packet

def noTransfers : Transfers := ⟨osdGatewayNew, none, [], []⟩

inductive TransferEvent where
  | thread (action : Action)
  | packetWrite (deviceWriteRv : OsdResult) (sent : Bool)
  | packetWriteLeaked (msg : Message) (deviceWriteRv : OsdResult)
      (sent : Bool)
  | statsAddPkg

/-- The steps of the worker that take both of its steps here. -/
def Action.writes : Action → Bool
  | .workerReceive _ _ => true
  | .workerReceiveLeaked _ _ _ => true
  | _ => false

def Action.ofWorker : Action → Bool
  | .workerCommand _ _ => true
  | .workerReply => true
  | .workerTimeout => true
  | .workerReceive _ _ => true
  | .workerReceiveLeaked _ _ _ => true
  | .workerForward => true
  | .workerExit => true
  | _ => false

def RxPc.queued : RxPc → List Packet
  | .queueing packet => [packet]
  | _ => []

def RxPc.uncounted : RxPc → List Packet
  | .counting packet => [packet]
  | _ => []

namespace Transfers

def afterThread (s : Transfers) (action : Action) (threads : Threads) :
    Transfers :=
  match action with
  | .call .osdGatewayConnect =>
      { s with threads, handedOn := [], written := [] }
  | .rxQueue =>
      { s with threads, handedOn := s.handedOn ++ s.threads.rx.queued }
  | _ => { s with threads }

def write (s : Transfers) (writing : Writing) : Transfers :=
  { s with
    writing := some writing
    written := s.written ++
      if osdFailed writing.deviceWriteRv then [] else [writing.pkg] }

end Transfers

inductive TransferStep (s : Transfers) : TransferEvent → Transfers → Prop
  | thread {action : Action} {threads : Threads}
      (hgoes : Goes s.threads action threads)
      (hwrites : action.writes = false)
      (hworker : action.ofWorker = true → s.writing = none) :
      TransferStep s (.thread action) (s.afterThread action threads)
  | packetWrite {msg : Message} {rest : List Message} {pkg : Packet}
      {deviceWriteRv : OsdResult} {sent : Bool}
      (hworker : s.threads.worker = .zloop) (hwriting : s.writing = none)
      (hsocket : s.threads.hostctrlSocket = some (msg :: rest))
      (hpkg : receivedPacket msg = .ok pkg) :
      TransferStep s (.packetWrite deviceWriteRv sent)
        ({ s with threads := { s.threads with hostctrlSocket := some rest }
          }.write ⟨pkg, deviceWriteRv, sent⟩)
  | packetWriteLeaked {msg : Message} {pkg : Packet}
      {deviceWriteRv : OsdResult} {sent : Bool}
      (hworker : s.threads.worker = .zloop) (hwriting : s.writing = none)
      (hleaked : 0 < s.threads.leakedSockets)
      (hpkg : receivedPacket msg = .ok pkg) :
      TransferStep s (.packetWriteLeaked msg deviceWriteRv sent)
        (s.write ⟨pkg, deviceWriteRv, sent⟩)
  | statsAddPkg {writing : Writing} {threads : Threads}
      (hwriting : s.writing = some writing)
      (hgoes : s.threads.countWritten writing = .ok threads) :
      TransferStep s .statsAddPkg { s with threads, writing := none }

theorem Transfers.afterThread_threads (s : Transfers) (action : Action)
    (threads : Threads) :
    (s.afterThread action threads).threads = threads ∧
      (s.afterThread action threads).writing = s.writing := by
  unfold Transfers.afterThread
  split <;> exact ⟨rfl, rfl⟩

/-- A step of the gateway is one step here, or the two of the worker. -/
theorem transfers_of_goes {s : Transfers} {action : Action}
    {threads : Threads} (hwriting : s.writing = none)
    (hgoes : Goes s.threads action threads) :
    ∃ events s', Runs TransferStep s events s' ∧ s'.threads = threads ∧
      s'.writing = none := by
  by_cases hwrites : action.writes = false
  · obtain ⟨hthreads, hsame⟩ := s.afterThread_threads action threads
    exact ⟨_, _, .single (.thread hgoes hwrites fun _ => hwriting), hthreads,
      hsame.trans hwriting⟩
  unfold Goes at hgoes
  generalize hout : (Except.ok threads : Outcome Threads) = outcome at hgoes
  cases hgoes with
  | workerReceive hworker hsocket =>
      rw [rcvFromHostctrl_split] at hout
      obtain ⟨pkg, hpkg, hcount⟩ := bind_eq_ok.mp hout.symm
      exact ⟨_, _, (Runs.single (.packetWrite hworker hwriting hsocket
        hpkg)).snoc (.statsAddPkg rfl hcount), rfl, rfl⟩
  | @workerReceiveLeaked msg deviceWriteRv sent hworker hleaked =>
      rw [rcvFromHostctrl_split] at hout
      obtain ⟨pkg, hpkg, hcount⟩ := bind_eq_ok.mp hout.symm
      have written : TransferStep s
          (.packetWriteLeaked msg deviceWriteRv sent)
          (s.write ⟨pkg, deviceWriteRv, sent⟩) :=
        .packetWriteLeaked hworker hwriting hleaked hpkg
      exact ⟨_, _, (Runs.single written).snoc (.statsAddPkg rfl hcount), rfl,
        rfl⟩
  | _ => exact absurd rfl hwrites

theorem transfers_of_run {history : List Action} {threads : Threads}
    (run : Runs Goes osdGatewayNew history threads) :
    ∃ events s, Runs TransferStep noTransfers events s ∧
      s.threads = threads ∧ s.writing = none := by
  induction run with
  | refl => exact ⟨[], noTransfers, .refl, rfl, rfl⟩
  | snoc run hgoes ih =>
      obtain ⟨events, s, hrun, rfl, hwriting⟩ := ih
      obtain ⟨later, s', hlater, hthreads, hwriting'⟩ :=
        transfers_of_goes hwriting hgoes
      exact ⟨events ++ later, s', hrun.trans hlater, hthreads, hwriting'⟩

/-! ## Exact counters -/

def totalSize (packets : List Packet) : Nat :=
  (packets.map osdPacketSizeof).sum

namespace Transfers

/-- The packets that were written with success and are not counted yet. -/
def uncountedWrites (s : Transfers) : List Packet :=
  match s.writing with
  | none => []
  | some writing =>
      if osdFailed writing.deviceWriteRv then [] else [writing.pkg]

/-- `osd_gateway_connect` has returned, and both connections are up. -/
structure Connected (s : Transfers) : Prop where
  hostctrl : s.threads.isConnectedToHostctrl = true
  device : s.threads.isConnectedToDevice = true
  returned : .statsStart ∉ s.threads.main

/-- No packet is half processed. -/
structure Settled (s : Transfers) : Prop where
  writing : s.writing = none
  rx : s.threads.rx.uncounted = []

structure Exact (s : Transfers) : Prop where
  fromDevice :
    s.threads.stats.bytesFromDevice.toNat = totalSize s.handedOn
  toDevice : s.threads.stats.bytesToDevice.toNat = totalSize s.written

/-- The totals fit the counters. -/
structure Fits (s : Transfers) : Prop where
  handedOn : totalSize s.handedOn < 2 ^ 64
  written : totalSize s.written < 2 ^ 64

/-- What was handed on or written before `stats_start` is not counted yet. -/
def StartsFresh (s : Transfers) : Prop :=
  s.handedOn = s.threads.rx.uncounted ∧ s.written = s.uncountedWrites

instance (s : Transfers) : Decidable s.StartsFresh :=
  inferInstanceAs (Decidable (_ ∧ _))

def startsStats (s : Transfers) : Action → Bool
  | .main => s.threads.main.head? = some .statsStart
  | _ => false

/-- Neither a reset hides a packet, nor is one counted that was not written. -/
def OrderlyTransfer (s : Transfers) : TransferEvent → Prop
  | .thread action => s.startsStats action = true → s.StartsFresh
  | .packetWrite deviceWriteRv _ => osdFailed deviceWriteRv = false
  | .packetWriteLeaked _ deviceWriteRv _ => osdFailed deviceWriteRv = false
  | .statsAddPkg => True

instance (s : Transfers) :
    (event : TransferEvent) → Decidable (s.OrderlyTransfer event)
  | .thread _ => inferInstanceAs (Decidable (_ → _))
  | .packetWrite _ _ => inferInstanceAs (Decidable (_ = _))
  | .packetWriteLeaked _ _ _ => inferInstanceAs (Decidable (_ = _))
  | .statsAddPkg => inferInstanceAs (Decidable True)

end Transfers

/-! ## What is left of a call -/

/-- The operations that are left fit the two connections: the host controller
is left after the device and entered before it, and behind a new connection to
the device the counters are reset. -/
def Fitting : (device hostctrl : Bool) → List MainOp → Prop
  | _, _, [] => True
  | device, hostctrl, .performOutstandingMainThreadTasks :: rest =>
      Fitting device hostctrl rest ∧
        ∀ hostctrl', Fitting false hostctrl' rest
  | _, hostctrl, .disconnectFromDevice :: rest => Fitting false hostctrl rest
  | _, hostctrl, .joinDevicerxthread :: rest => Fitting false hostctrl rest
  | device, _, .disconnectFromHostctrl :: rest =>
      device = false ∧ ∀ hostctrl', Fitting false hostctrl' rest
  | device, hostctrl, .clearDeviceDisconnectDetected :: rest =>
      Fitting device hostctrl rest
  | device, _, .connectToHostctrl :: rest => Fitting device true rest
  | _, hostctrl, .connectToDevice :: rest =>
      hostctrl = true ∧ .statsStart ∈ rest ∧ Fitting true hostctrl rest
  | _, _, .statsStart :: rest => rest = []
  | device, _, .workerWaitForStatus .iConnectDone :: rest =>
      device = false ∧ Fitting false true rest
  | device, _, .workerWaitForStatus _ :: rest =>
      device = false ∧ ∀ hostctrl', Fitting false hostctrl' rest

theorem fitting_call (device hostctrl : Bool) (entry : ApiCall) :
    Fitting device hostctrl entry.ops := by
  cases entry <;> simp [ApiCall.ops, Fitting]

/-! ## The counters behind a reset -/

/-- The counters lack the packets that are half processed. -/
structure Accounted (s : Transfers) : Prop where
  fromDevice : s.threads.stats.bytesFromDevice +
      UInt64.ofNat (totalSize s.threads.rx.uncounted) =
    UInt64.ofNat (totalSize s.handedOn)
  toDevice : s.threads.stats.bytesToDevice +
      UInt64.ofNat (totalSize s.uncountedWrites) =
    UInt64.ofNat (totalSize s.written)

structure Counting (s : Transfers) : Prop where
  hostctrl : s.threads.isConnectedToDevice = true →
    s.threads.isConnectedToHostctrl = true
  fitting : Fitting s.threads.isConnectedToDevice
    s.threads.isConnectedToHostctrl s.threads.main
  written : ∀ writing, s.writing = some writing →
    osdFailed writing.deviceWriteRv = false
  accounted : s.threads.isConnectedToDevice = true →
    .statsStart ∉ s.threads.main → Accounted s

theorem counting_noTransfers : Counting noTransfers where
  hostctrl := fun h => by cases h
  fitting := trivial
  written := fun _ h => by cases h
  accounted := fun h => by cases h

theorem totalSize_append (first second : List Packet) :
    totalSize (first ++ second) = totalSize first + totalSize second := by
  simp [totalSize]

section Main

variable {s : Transfers} {threads : Threads} {op : MainOp}
  {rest : List MainOp}

/-- A step of the main thread that neither counts nor connects. -/
theorem Counting.proceed (h : Counting s)
    (hrx : threads.rx.uncounted = s.threads.rx.uncounted)
    (hstats : threads.stats = s.threads.stats)
    (hback : threads.isConnectedToDevice = true →
      .statsStart ∉ threads.main →
        s.threads.isConnectedToDevice = true ∧
          .statsStart ∉ s.threads.main)
    (hhostctrl : threads.isConnectedToDevice = true →
      threads.isConnectedToHostctrl = true)
    (hfitting : Fitting threads.isConnectedToDevice
      threads.isConnectedToHostctrl threads.main) :
    Counting { s with threads } where
  hostctrl := hhostctrl
  fitting := hfitting
  written := h.written
  accounted := by
    intro hdevice hmain
    obtain ⟨hdevice, hmain⟩ := hback hdevice hmain
    obtain ⟨hfrom, hto⟩ := h.accounted hdevice hmain
    exact ⟨by rw [hstats, hrx]; exact hfrom, by rw [hstats]; exact hto⟩

/-- Without the device there is nothing to count. -/
theorem Counting.offDevice (h : Counting s)
    (hdevice : threads.isConnectedToDevice = false)
    (hfitting : Fitting false threads.isConnectedToHostctrl threads.main) :
    Counting { s with threads } := by
  have hoff : ¬threads.isConnectedToDevice = true := by
    rw [hdevice]
    decide
  refine ⟨fun hon => absurd hon hoff, ?_, h.written,
    fun hon => absurd hon hoff⟩
  rw [hdevice]
  exact hfitting

theorem Counting.runMainOp (h : Counting s)
    (hmain : s.threads.main = op :: rest) (hop : op.waits = false)
    (hfresh : op = .statsStart → s.StartsFresh)
    (hgoes : { s.threads with main := rest }.runMainOp op = .ok threads) :
    Counting { s with threads } := by
  have hfitting := h.fitting
  rw [hmain] at hfitting
  have hstays (hdevice : s.threads.isConnectedToDevice = true)
      (hrest : .statsStart ∉ rest) (hother : op ≠ .statsStart) :
      s.threads.isConnectedToDevice = true ∧
        .statsStart ∉ s.threads.main := by
    rw [hmain]
    exact ⟨hdevice, by simp [hrest, Ne.symm hother]⟩
  cases op with
  | performOutstandingMainThreadTasks =>
      dsimp only [Threads.runMainOp] at hgoes
      split at hgoes
      · cases hgoes
        refine h.proceed rfl rfl (fun hdevice hrest => ?_) h.hostctrl ?_
        · exact hstays hdevice (by simpa using hrest) (by decide)
        · exact ⟨rfl, hfitting.2⟩
      · cases hgoes
        exact h.proceed rfl rfl
          (fun hdevice hrest => hstays hdevice hrest (by decide)) h.hostctrl
          hfitting.1
  | disconnectFromDevice =>
      dsimp only [Threads.runMainOp] at hgoes
      split at hgoes
      · cases hgoes
        exact h.proceed rfl rfl (fun hdevice hrest =>
          hstays hdevice (by simpa using hrest) (by decide)) h.hostctrl
          hfitting
      · rename_i hdevice
        cases hgoes
        exact h.offDevice (by simpa using hdevice) hfitting
  | disconnectFromHostctrl =>
      obtain ⟨hdevice, hrest⟩ := hfitting
      dsimp only [Threads.runMainOp] at hgoes
      split at hgoes
      · split at hgoes
        · cases hgoes
          exact h.offDevice hdevice ⟨rfl, hrest⟩
        · cases hgoes
          exact h.offDevice hdevice (hrest false)
      · cases hgoes
        exact h.offDevice hdevice (hrest _)
  | clearDeviceDisconnectDetected =>
      cases hgoes
      exact h.proceed rfl rfl
        (fun hdevice hrest => hstays hdevice hrest (by decide)) h.hostctrl
        hfitting
  | connectToHostctrl =>
      dsimp only [Threads.runMainOp] at hgoes
      split at hgoes
      · rename_i hhostctrl
        cases hgoes
        refine h.proceed rfl rfl
          (fun hdevice hrest => hstays hdevice hrest (by decide)) h.hostctrl ?_
        dsimp only
        rw [hhostctrl]
        exact hfitting
      · rename_i hhostctrl
        have hdevice : s.threads.isConnectedToDevice = false := by
          cases hon : s.threads.isConnectedToDevice with
          | false => rfl
          | true => exact absurd (h.hostctrl hon) hhostctrl
        rw [hdevice] at hfitting
        split at hgoes
        · cases hgoes
          exact h.offDevice hdevice ⟨rfl, hfitting⟩
        · cases hgoes
          exact h.offDevice hdevice trivial
  | connectToDevice =>
      obtain ⟨hhostctrl, hreset, hrest⟩ := hfitting
      obtain ⟨-, hgoes⟩ := assertThat_bind_eq_ok.mp hgoes
      cases hgoes
      exact ⟨fun _ => hhostctrl, hrest, h.written,
        fun _ hmain => absurd hreset hmain⟩
  | statsStart =>
      obtain ⟨hhanded, hwritten⟩ := hfresh rfl
      cases hgoes
      refine ⟨h.hostctrl, ?_, h.written, fun _ _ => ⟨?_, ?_⟩⟩
      · obtain rfl : rest = [] := hfitting
        trivial
      · dsimp only
        rw [hhanded, UInt64.zero_add]
      · dsimp only
        rw [hwritten, UInt64.zero_add]
        rfl
  | joinDevicerxthread => cases hop
  | workerWaitForStatus name => cases hop

theorem Counting.joined (h : Counting s)
    (hmain : s.threads.main = .joinDevicerxthread :: rest) :
    Counting { s with
      threads := { s.threads with main := rest }.joined } := by
  have hfitting := h.fitting
  rw [hmain] at hfitting
  exact h.offDevice rfl hfitting

theorem waited_other (s : Threads) (status : Option Status)
    {name : StatusName} (hname : name ≠ .iConnectDone) :
    s.waited status name = s ∨
      s.waited status name = { s with isConnectedToHostctrl := false } := by
  unfold Threads.waited
  dsimp only
  rw [if_neg hname]
  split
  · exact .inl rfl
  · exact .inr rfl

theorem Counting.waited (h : Counting s) {name : StatusName}
    (hmain : s.threads.main = .workerWaitForStatus name :: rest)
    (status : Option Status) (toMain : List Status) :
    Counting { s with
      threads := { s.threads with main := rest, toMain }.waited status
        name } := by
  have hfitting := h.fitting
  rw [hmain] at hfitting
  by_cases hname : name = .iConnectDone
  · subst hname
    obtain ⟨hdevice, hrest⟩ := hfitting
    rcases waited_connect { s.threads with main := rest, toMain } status with
      hfails | hconnects
    · rw [hfails]
      exact h.offDevice hdevice trivial
    · rw [hconnects]
      exact h.offDevice hdevice hrest
  · have hleft : s.threads.isConnectedToDevice = false ∧
        ∀ hostctrl, Fitting false hostctrl rest := by
      cases name with
      | iConnectDone => exact absurd rfl hname
      | iDisconnectDone => exact hfitting
      | iShutdownDone => exact hfitting
    obtain ⟨hdevice, hrest⟩ := hleft
    rcases waited_other { s.threads with main := rest, toMain } status
      hname with hsame | hleaves
    · rw [hsame]
      exact h.offDevice hdevice (hrest _)
    · rw [hleaves]
      exact h.offDevice hdevice (hrest false)

end Main

/-! ## The device receive thread -/

section Receive

variable {s : Transfers} {threads : Threads} {packet : Packet}

theorem Counting.rxRead (h : Counting s) {rv : OsdResult}
    {rcvPacket : Option Packet} (hrx : s.threads.rx = .reading)
    (hgoes : s.threads.devicerxthreadRead rv rcvPacket = .ok threads) :
    Counting { s with threads } := by
  unfold Threads.devicerxthreadRead at hgoes
  obtain ⟨event, -, hgoes⟩ := bind_eq_ok.mp hgoes
  have hnone : s.threads.rx.uncounted = [] := by
    rw [hrx]
    rfl
  cases event with
  | forwarded packet =>
      cases hgoes
      exact h.proceed hnone.symm rfl (fun hdevice hmain => ⟨hdevice, hmain⟩)
        h.hostctrl h.fitting
  | retried rv =>
      cases hgoes
      exact h
  | terminated =>
      cases hgoes
      exact h.proceed hnone.symm rfl (fun hdevice hmain => ⟨hdevice, hmain⟩)
        h.hostctrl h.fitting

theorem Counting.rxQueue (h : Counting s)
    (hrx : s.threads.rx = .queueing packet) :
    Counting (s.afterThread .rxQueue { s.threads with
      rx := .counting packet
      deviceRx := s.threads.deviceRx ++ [packetMessage packet] }) where
  hostctrl := h.hostctrl
  fitting := h.fitting
  written := h.written
  accounted := by
    intro hdevice hmain
    obtain ⟨hfrom, hto⟩ := h.accounted hdevice hmain
    refine ⟨?_, hto⟩
    rw [hrx] at hfrom
    dsimp only [Transfers.afterThread]
    rw [hrx, totalSize_append, UInt64.ofNat_add, ← hfrom]
    simp [RxPc.uncounted, RxPc.queued, totalSize]

theorem Counting.rxCount (h : Counting s)
    (hrx : s.threads.rx = .counting packet) :
    Counting { s with threads := { s.threads with
      rx := .reading
      stats := s.threads.stats.addFromDevice packet } } where
  hostctrl := h.hostctrl
  fitting := h.fitting
  written := h.written
  accounted := by
    intro hdevice hmain
    obtain ⟨hfrom, hto⟩ := h.accounted hdevice hmain
    refine ⟨?_, hto⟩
    rw [hrx] at hfrom
    rw [← hfrom]
    simp [TransferStats.addFromDevice, statsAddPkg, RxPc.uncounted,
      totalSize]

end Receive

/-! ## The worker -/

/-- What the counters depend on is the same. -/
structure SameCounts (s s' : Threads) : Prop where
  main : s'.main = s.main
  rx : s'.rx = s.rx
  hostctrl : s'.isConnectedToHostctrl = s.isConnectedToHostctrl
  device : s'.isConnectedToDevice = s.isConnectedToDevice
  stats : s'.stats = s.stats

theorem SameCounts.after {s middle s' : Threads}
    (second : SameCounts middle s') (first : SameCounts s middle) :
    SameCounts s s' where
  main := second.main.trans first.main
  rx := second.rx.trans first.rx
  hostctrl := second.hostctrl.trans first.hostctrl
  device := second.device.trans first.device
  stats := second.stats.trans first.stats

theorem Counting.same {s : Transfers} {threads : Threads} (h : Counting s)
    (hsame : SameCounts s.threads threads) :
    Counting { s with threads } := by
  refine h.proceed (by rw [hsame.rx]) hsame.stats ?_ ?_ ?_
  · rw [hsame.device, hsame.main]
    exact fun hdevice hmain => ⟨hdevice, hmain⟩
  · rw [hsame.device, hsame.hostctrl]
    exact h.hostctrl
  · rw [hsame.device, hsame.hostctrl, hsame.main]
    exact h.fitting

section Worker

variable {s s' : Threads}

theorem sameCounts_cmdDone (s : Threads) (command : GwCommand)
    (rv : OsdResult) : SameCounts s (s.cmdDone command rv) := by
  cases command with
  | gwRegister =>
      dsimp only [Threads.cmdDone, Threads.registered]
      split <;> exact ⟨rfl, rfl, rfl, rfl, rfl⟩
  | gwUnregister writeFailed => exact ⟨rfl, rfl, rfl, rfl, rfl⟩

theorem sameCounts_command {command : Command} {dealer sent : Bool}
    (hgoes : s.hostiothreadHandleInprocRequest command dealer sent =
      .ok s') : SameCounts s s' := by
  cases command with
  | iConnect =>
      cases hgoes
      unfold Threads.hostiothreadConnectToHostctrl Threads.registered
      dsimp only
      cases dealer <;> cases sent <;> exact ⟨rfl, rfl, rfl, rfl, rfl⟩
  | iDisconnect =>
      obtain ⟨-, hgoes⟩ := assertThat_bind_eq_ok.mp hgoes
      split at hgoes <;> cases hgoes <;> exact ⟨rfl, rfl, rfl, rfl, rfl⟩

end Worker

/-! ## Steps and runs -/

theorem Counting.thread {s : Transfers} {action : Action} {threads : Threads}
    (h : Counting s) (hgoes : Goes s.threads action threads)
    (hwrites : action.writes = false)
    (horderly : s.OrderlyTransfer (.thread action)) :
    Counting (s.afterThread action threads) := by
  unfold Goes at hgoes
  generalize hout : (Except.ok threads : Outcome Threads) = outcome at hgoes
  cases hgoes with
  | @call entry hmain =>
      cases hout
      have hfitting := fitting_call s.threads.isConnectedToDevice
        s.threads.isConnectedToHostctrl entry
      have hback (hdevice : s.threads.isConnectedToDevice = true) :
          s.threads.isConnectedToDevice = true ∧
            .statsStart ∉ s.threads.main := by
        rw [hmain]
        exact ⟨hdevice, by simp⟩
      cases entry with
      | osdGatewayConnect =>
          have hreset : .statsStart ∈ ApiCall.osdGatewayConnect.ops := by
            decide
          exact ⟨h.hostctrl, hfitting, h.written,
            fun _ hnot => absurd hreset hnot⟩
      | osdGatewayIsConnected =>
          exact h.proceed rfl rfl (fun hdevice _ => hback hdevice) h.hostctrl
            hfitting
      | osdGatewayDisconnect =>
          exact h.proceed rfl rfl (fun hdevice _ => hback hdevice) h.hostctrl
            hfitting
  | main hmain hop =>
      refine h.runMainOp hmain hop (fun hop => ?_) hout.symm
      exact horderly (by simp [Transfers.startsStats, hmain, hop])
  | join hmain hrx =>
      cases hout
      exact h.joined hmain
  | cancel hmain hrx =>
      cases hout
      exact h.joined hmain
  | receive hmain htoMain =>
      cases hout
      exact h.waited hmain _ _
  | timeout hmain htoMain =>
      cases hout
      exact h.waited hmain none s.threads.toMain
  | rxRead hrx => exact h.rxRead hrx hout.symm
  | rxQueue hrx =>
      cases hout
      exact h.rxQueue hrx
  | rxCount hrx =>
      cases hout
      exact h.rxCount hrx
  | workerCommand hworker htoWorker =>
      exact h.same
        ((sameCounts_command hout.symm).after ⟨rfl, rfl, rfl, rfl, rfl⟩)
  | workerReply hworker hsocket =>
      obtain ⟨rv, -, hdone⟩ := bind_eq_ok.mp hout.symm
      cases hdone
      exact h.same
        ((sameCounts_cmdDone _ _ _).after ⟨rfl, rfl, rfl, rfl, rfl⟩)
  | workerTimeout hworker hsocket =>
      obtain ⟨rv, -, hdone⟩ := bind_eq_ok.mp hout.symm
      cases hdone
      exact h.same (sameCounts_cmdDone _ _ _)
  | workerReceive hworker hsocket => cases hwrites
  | workerReceiveLeaked hworker hleaked => cases hwrites
  | workerForward hworker hrx =>
      obtain ⟨-, hforward⟩ := assertThat_bind_eq_ok.mp hout.symm
      cases hforward
      exact h.same ⟨rfl, rfl, rfl, rfl, rfl⟩
  | workerSignal hworker =>
      cases hout
      exact h.same ⟨rfl, rfl, rfl, rfl, rfl⟩
  | workerStop hworker =>
      cases hout
      exact h.same ⟨rfl, rfl, rfl, rfl, rfl⟩
  | workerEnd hworker =>
      cases hout
      exact h.same ⟨rfl, rfl, rfl, rfl, rfl⟩
  | hostctrl hsocket =>
      cases hout
      exact h.same ⟨rfl, rfl, rfl, rfl, rfl⟩

section Runs

variable {s s' : Transfers} {event : TransferEvent}

theorem Counting.write (h : Counting s) {writing : Writing}
    (hwriting : s.writing = none)
    (hrv : osdFailed writing.deviceWriteRv = false) :
    Counting (s.write writing) where
  hostctrl := h.hostctrl
  fitting := h.fitting
  written := by
    intro other hother
    obtain rfl : writing = other := Option.some.inj hother
    exact hrv
  accounted := by
    intro hdevice hmain
    obtain ⟨hfrom, hto⟩ := h.accounted hdevice hmain
    refine ⟨hfrom, ?_⟩
    rw [Transfers.uncountedWrites, hwriting] at hto
    dsimp only [Transfers.write, Transfers.uncountedWrites]
    rw [hrv, totalSize_append, UInt64.ofNat_add, ← hto]
    simp [totalSize]

theorem Counting.statsAddPkg (h : Counting s) {writing : Writing}
    {threads : Threads} (hwriting : s.writing = some writing)
    (hgoes : s.threads.countWritten writing = .ok threads) :
    Counting { s with threads, writing := none } := by
  have hrv := h.written writing hwriting
  rw [Threads.countWritten, hrv] at hgoes
  cases hgoes
  refine ⟨h.hostctrl, h.fitting, fun _ hnone => ?_, fun hdevice hmain => ?_⟩
  · cases hnone
  · obtain ⟨hfrom, hto⟩ := h.accounted hdevice hmain
    refine ⟨hfrom, ?_⟩
    rw [Transfers.uncountedWrites, hwriting] at hto
    rw [← hto]
    simp [TransferStats.addToDevice, Osd.Gateway.statsAddPkg, hrv,
      Transfers.uncountedWrites, totalSize]

theorem Counting.step (h : Counting s) (hstep : TransferStep s event s')
    (horderly : s.OrderlyTransfer event) : Counting s' := by
  cases hstep with
  | thread hgoes hwrites hworker => exact h.thread hgoes hwrites horderly
  | packetWrite hworker hwriting hsocket hpkg =>
      refine Counting.write ?_ hwriting horderly
      exact h.same ⟨rfl, rfl, rfl, rfl, rfl⟩
  | packetWriteLeaked hworker hwriting hleaked hpkg =>
      exact h.write hwriting horderly
  | statsAddPkg hwriting hgoes => exact h.statsAddPkg hwriting hgoes

def OrderlyTransferStep (s : Transfers) (event : TransferEvent)
    (s' : Transfers) : Prop :=
  TransferStep s event s' ∧ s.OrderlyTransfer event

theorem counting_of_run {history : List TransferEvent}
    (run : Runs OrderlyTransferStep noTransfers history s) : Counting s := by
  refine run.invariant (I := fun _ s => Counting s) counting_noTransfers ?_
  rintro - before event after - hbefore ⟨hstep, horderly⟩
  exact hbefore.step hstep horderly

theorem exact_of_run {history : List TransferEvent}
    (run : Runs OrderlyTransferStep noTransfers history s)
    (hconnected : s.Connected) (hsettled : s.Settled) (hfits : s.Fits) :
    s.Exact := by
  obtain ⟨hfrom, hto⟩ := (counting_of_run run).accounted hconnected.device
    hconnected.returned
  have hzero (counter : UInt64) :
      counter + UInt64.ofNat (totalSize []) = counter := by
    simp [totalSize]
  rw [hsettled.rx, hzero] at hfrom
  rw [Transfers.uncountedWrites, hsettled.writing, hzero] at hto
  constructor
  · rw [hfrom, UInt64.toNat_ofNat', Nat.mod_eq_of_lt hfits.handedOn]
  · rw [hto, UInt64.toNat_ofNat', Nat.mod_eq_of_lt hfits.written]

end Runs

/-! ## Executing a schedule -/

def performWrite (s : Transfers) (msg : Message) (deviceWriteRv : OsdResult)
    (sent : Bool) : Option Transfers :=
  match receivedPacket msg with
  | .error _ => none
  | .ok pkg => some (s.write ⟨pkg, deviceWriteRv, sent⟩)

def performTransfer (s : Transfers) : TransferEvent → Option Transfers
  | .thread action =>
      if action.writes = false ∧ (action.ofWorker = true → s.writing = none)
      then
        match perform s.threads action with
        | some (.ok threads) => some (s.afterThread action threads)
        | _ => none
      else none
  | .packetWrite deviceWriteRv sent =>
      match s.threads.worker, s.writing, s.threads.hostctrlSocket with
      | .zloop, none, some (msg :: rest) =>
          performWrite { s with
            threads := { s.threads with hostctrlSocket := some rest } } msg
            deviceWriteRv sent
      | _, _, _ => none
  | .packetWriteLeaked msg deviceWriteRv sent =>
      if s.threads.worker = .zloop ∧ s.writing = none ∧
          0 < s.threads.leakedSockets then
        performWrite s msg deviceWriteRv sent
      else none
  | .statsAddPkg =>
      match s.writing with
      | none => none
      | some writing =>
          match s.threads.countWritten writing with
          | .error _ => none
          | .ok threads => some { s with threads, writing := none }

theorem performWrite_eq {s s' : Transfers} {msg : Message}
    {deviceWriteRv : OsdResult} {sent : Bool}
    (h : performWrite s msg deviceWriteRv sent = some s') :
    ∃ pkg, receivedPacket msg = .ok pkg ∧
      s' = s.write ⟨pkg, deviceWriteRv, sent⟩ := by
  unfold performWrite at h
  split at h
  · cases h
  · rename_i pkg hpkg
    cases h
    exact ⟨pkg, hpkg, rfl⟩

theorem step_of_performTransfer {s s' : Transfers} {event : TransferEvent}
    (h : performTransfer s event = some s') : TransferStep s event s' := by
  cases event with
  | thread action =>
      dsimp only [performTransfer] at h
      split at h
      · rename_i hallowed
        split at h
        · rename_i threads hthreads
          cases h
          exact .thread (step_of_perform hthreads) hallowed.1 hallowed.2
        · cases h
      · cases h
  | packetWrite deviceWriteRv sent =>
      dsimp only [performTransfer] at h
      split at h
      · rename_i msg rest hworker hwriting hsocket
        obtain ⟨pkg, hpkg, rfl⟩ := performWrite_eq h
        exact .packetWrite hworker hwriting hsocket hpkg
      · cases h
  | packetWriteLeaked msg deviceWriteRv sent =>
      dsimp only [performTransfer] at h
      split at h
      · rename_i hallowed
        obtain ⟨pkg, hpkg, rfl⟩ := performWrite_eq h
        exact .packetWriteLeaked hallowed.1 hallowed.2.1 hallowed.2.2 hpkg
      · cases h
  | statsAddPkg =>
      dsimp only [performTransfer] at h
      split at h
      · cases h
      · rename_i writing hwriting
        split at h
        · cases h
        · rename_i threads hthreads
          cases h
          exact .statsAddPkg hwriting hthreads

def performTransfers (allowed : Transfers → TransferEvent → Bool)
    (s : Transfers) : List TransferEvent → Option Transfers
  | [] => some s
  | event :: rest =>
      match allowed s event, performTransfer s event with
      | true, some s => performTransfers allowed s rest
      | _, _ => none

theorem runs_of_performTransfers
    {allowed : Transfers → TransferEvent → Bool} {s s' : Transfers}
    {schedule : List TransferEvent}
    (h : performTransfers allowed s schedule = some s') :
    Runs (fun s event s' => TransferStep s event s' ∧ allowed s event = true)
      s schedule s' := by
  induction schedule generalizing s with
  | nil =>
      cases h
      exact .refl
  | cons event rest ih =>
      unfold performTransfers at h
      split at h
      · rename_i middle hallowed hstep
        exact (Runs.single ⟨step_of_performTransfer hstep, hallowed⟩).trans
          (ih h)
      · cases h

/-- A packet from the device and one to it. -/
def bothWays (deviceWriteRv : OsdResult) : List TransferEvent :=
  (reading ++ [Action.hostctrl (packetMessage smallPacket)]).map .thread ++
    [.packetWrite deviceWriteRv true, .statsAddPkg]

theorem exact_bothWays :
    ∃ history s, Runs OrderlyTransferStep noTransfers history s ∧
      s.threads.stats = ⟨6, 6⟩ ∧ s.Exact := by
  have run : ∃ s, performTransfers
        (fun s event => decide (s.OrderlyTransfer event)) noTransfers
        (connecting.map .thread ++ bothWays osdOk) = some s ∧
      s.threads.stats = ⟨6, 6⟩ ∧ s.handedOn = [smallPacket] ∧
      s.written = [smallPacket] ∧ s.threads.isConnectedToHostctrl = true ∧
      s.threads.isConnectedToDevice = true ∧ s.threads.main = [] ∧
      s.writing = none ∧ s.threads.rx = .reading :=
    ⟨_, rfl, rfl, rfl, rfl, rfl, rfl, rfl, rfl, rfl⟩
  obtain ⟨s, hrun, hstats, hhanded, hwritten, hhostctrl, hdevice, hmain,
    hwriting, hrx⟩ := run
  have horderly : Runs OrderlyTransferStep noTransfers
      (connecting.map .thread ++ bothWays osdOk) s :=
    (runs_of_performTransfers hrun).mono fun _ _ _ h =>
      ⟨h.1, of_decide_eq_true h.2⟩
  refine ⟨_, s, horderly, hstats, exact_of_run horderly
    ⟨hhostctrl, hdevice, by simp [hmain]⟩ ⟨hwriting, by rw [hrx]; rfl⟩ ?_⟩
  exact ⟨by rw [hhanded]; decide, by rw [hwritten]; decide⟩

/-- The receive thread is faster than `stats_start`, or a packet is counted
that the device did not take. -/
theorem inexact_transfers :
    (∃ history s, Runs TransferStep noTransfers history s ∧ s.Connected ∧
      s.Settled ∧ s.threads.stats = ⟨0, 0⟩ ∧ s.handedOn = [smallPacket] ∧
      ¬s.Exact) ∧
    ∃ history s, Runs TransferStep noTransfers history s ∧ s.Connected ∧
      s.Settled ∧ s.threads.stats = ⟨6, 6⟩ ∧ s.written = [] ∧ ¬s.Exact := by
  constructor
  · have run : ∃ s, performTransfers (fun _ _ => true) noTransfers
          ((connecting.dropLast ++ reading ++ [Action.main]).map .thread) =
        some s ∧ s.threads.stats = ⟨0, 0⟩ ∧ s.handedOn = [smallPacket] ∧
        s.threads.isConnectedToHostctrl = true ∧
        s.threads.isConnectedToDevice = true ∧ s.threads.main = [] ∧
        s.writing = none ∧ s.threads.rx = .reading :=
      ⟨_, rfl, rfl, rfl, rfl, rfl, rfl, rfl, rfl⟩
    obtain ⟨s, hrun, hstats, hhanded, hhostctrl, hdevice, hmain, hwriting,
      hrx⟩ := run
    refine ⟨_, s, (runs_of_performTransfers hrun).mono fun _ _ _ h => h.1,
      ⟨hhostctrl, hdevice, by simp [hmain]⟩, ⟨hwriting, by rw [hrx]; rfl⟩,
      hstats, hhanded, fun h => ?_⟩
    have hfrom := h.fromDevice
    rw [hstats, hhanded] at hfrom
    exact absurd hfrom (by decide)
  · have run : ∃ s, performTransfers (fun _ _ => true) noTransfers
          (connecting.map .thread ++ bothWays osdErrorFailure) = some s ∧
        s.threads.stats = ⟨6, 6⟩ ∧ s.written = [] ∧
        s.threads.isConnectedToHostctrl = true ∧
        s.threads.isConnectedToDevice = true ∧ s.threads.main = [] ∧
        s.writing = none ∧ s.threads.rx = .reading :=
      ⟨_, rfl, rfl, rfl, rfl, rfl, rfl, rfl, rfl⟩
    obtain ⟨s, hrun, hstats, hwritten, hhostctrl, hdevice, hmain, hwriting,
      hrx⟩ := run
    refine ⟨_, s, (runs_of_performTransfers hrun).mono fun _ _ _ h => h.1,
      ⟨hhostctrl, hdevice, by simp [hmain]⟩, ⟨hwriting, by rw [hrx]; rfl⟩,
      hstats, hwritten, fun h => ?_⟩
    have hto := h.toDevice
    rw [hstats, hwritten] at hto
    exact absurd hto (by decide)

end Osd.Gateway
