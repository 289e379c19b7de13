import Osd.Client.Describe
import Osd.HostMod.SetBit

/-!
# Terminals

`osd_terminal_start` describes the UART module, directs its events to the host,
opens a pseudo-terminal and starts the transmit thread.
-/

namespace Osd.Client

open Osd.Foundation

def osdRegBaseModCs : Word := 0x0003
def osdRegBaseModCsActiveBit : Nat := 0
def osdRegBaseModEventDest : Word := 0x0004

structure Termios where
  cIflag : UInt32
  cOflag : UInt32
  cLflag : UInt32

def echo : UInt32 := 0o10
def icanon : UInt32 := 0o2
def isig : UInt32 := 0o1
def icrnl : UInt32 := 0o400
def inlcr : UInt32 := 0o100
def ocrnl : UInt32 := 0o10
def onlcr : UInt32 := 0o4
def ixon : UInt32 := 0o2000
def ixoff : UInt32 := 0o10000

/-- The attributes that `osd_terminal_start` sets. -/
def Termios.forUart (termios : Termios) : Termios where
  cLflag := termios.cLflag &&& ~~~echo &&& ~~~icanon &&& ~~~isig
  cIflag := termios.cIflag &&& ~~~icrnl &&& ~~~inlcr &&& ~~~ixon &&& ~~~ixoff
  cOflag := termios.cOflag &&& ~~~ocrnl &&& ~~~onlcr

/-- The answers of the debug system and of the operating system.  During a
start no register is read twice, and none is written twice. -/
structure TerminalEnv where
  isConnected : Bool
  diaddr : Word
  read : Word → RegRead
  write : Word → Word → OsdResult
  posixOpenpt : Int
  grantpt : Int
  tcgetattr : Int
  termios : Termios
  tcsetattr : Termios → Int
  unlockpt : Int
  pthreadCreate : Int
  ptsname : Option String

structure RegWrite where
  diAddr : Word
  regAddr : Word
  value : Word
  deriving DecidableEq

/-- The context, with the descriptors and threads of the process and the write
requests that were sent. -/
structure Terminal where
  demUartDesc : OsdDemUartDesc
  demUartDiAddr : Word
  ptsPath : Option String
  masterfd : Int
  running : Bool
  openFds : List Int
  txThreads : Nat
  writes : List RegWrite

/-! ## Register accesses -/

def TerminalEnv.regRead (env : TerminalEnv) (diAddr : Word) : RegRead :=
  fun regAddr =>
    if env.isConnected then env.read diAddr regAddr
    else .error osdErrorNotConnected

def Terminal.regWrite (t : Terminal) (env : TerminalEnv)
    (write : RegWrite) : OsdResult × Terminal :=
  if env.isConnected then
    (env.write write.diAddr write.regAddr,
      { t with writes := t.writes ++ [write] })
  else (osdErrorNotConnected, t)

def osdHostmodModSetEventDest (env : TerminalEnv) (t : Terminal)
    (diAddr : Word) : OsdResult × Terminal :=
  t.regWrite env ⟨diAddr, osdRegBaseModEventDest, env.diaddr⟩

def osdHostmodModSetEventActive (env : TerminalEnv) (t : Terminal)
    (diAddr : Word) (enabled : Bool) : Outcome (OsdResult × Terminal) :=
  match env.regRead diAddr osdRegBaseModCs with
  | .error rv => .ok (rv, t)
  | .ok value => do
      let value ← HostMod.bitInserted value osdRegBaseModCsActiveBit enabled
      .ok (t.regWrite env ⟨diAddr, osdRegBaseModCs, value⟩)

/-! ## The start -/

/-- The descriptor stays as it is when the module is another one. -/
def Terminal.describe (t : Terminal) (env : TerminalEnv) : Terminal :=
  match osdClDemUartGetDesc (env.regRead t.demUartDiAddr)
      t.demUartDiAddr with
  | .error _ => t
  | .ok desc => { t with demUartDesc := desc }

def Terminal.openpt (t : Terminal) (fd : Int) : Terminal :=
  if fd < 0 then { t with masterfd := fd }
  else { t with masterfd := fd, openFds := t.openFds.cons fd }

/-- The label `error_return` after a failure. -/
def Terminal.errorReturn (t : Terminal) (rv : OsdResult) :
    Outcome OsdResult × Terminal :=
  (.ok rv, { t with openFds := t.openFds.erase t.masterfd })

/-- From the creation of the thread on.  `strdup` takes no NULL. -/
def Terminal.createThread (t : Terminal) (env : TerminalEnv) :
    Outcome OsdResult × Terminal :=
  let t := { t with running := true }
  if env.pthreadCreate ≠ 0 then t.errorReturn osdErrorFailure
  else
    let t := { t with txThreads := t.txThreads + 1 }
    match env.ptsname with
    | none => (.error .outOfBounds, t)
    | some ptsPath => (.ok osdOk, { t with ptsPath := some ptsPath })

/-- A fault of the start leaves what it did before. -/
def osdTerminalStart (env : TerminalEnv) (t : Terminal) :
    Outcome OsdResult × Terminal :=
  let t := t.describe env
  let (rv, t) := osdHostmodModSetEventDest env t t.demUartDesc.diAddr
  if osdFailed rv then (.ok rv, t)
  else
    let t := t.openpt env.posixOpenpt
    if t.masterfd < 0 then (.ok osdErrorFailure, t)
    else if env.grantpt ≠ 0 then t.errorReturn osdErrorFailure
    else if env.tcgetattr ≠ 0 then t.errorReturn osdErrorFailure
    else if env.tcsetattr env.termios.forUart ≠ 0 then
      t.errorReturn osdErrorFailure
    else if env.unlockpt ≠ 0 then t.errorReturn osdErrorFailure
    else
      match osdHostmodModSetEventActive env t t.demUartDesc.diAddr true with
      | .error fault => (.error fault, t)
      | .ok (rv, t) =>
          if osdFailed rv then t.errorReturn rv else t.createThread env

def osdTerminalIsStarted (t : Terminal) : Bool := t.running

/-! ## All or nothing -/

def TerminalEnv.IsDemUart (env : TerminalEnv) (diAddr : Word) : Prop :=
  isDemUartModule (env.regRead diAddr) diAddr = true

structure Terminal.Stopped (t : Terminal) : Prop where
  notStarted : osdTerminalIsStarted t = false
  noThread : t.txThreads = 0
  noFd : t.openFds = []

structure AllOrNothing (env : TerminalEnv) (t : Terminal) : Prop where
  wrongModule : ¬env.IsDemUart t.demUartDiAddr →
    ∃ rv, (osdTerminalStart env t).1 = .ok rv ∧ osdFailed rv = true ∧
      (osdTerminalStart env t).2.writes = t.writes
  failed : ∀ rv, (osdTerminalStart env t).1 = .ok rv → osdFailed rv = true →
    (osdTerminalStart env t).2.Stopped
  ownModule : ∃ writes,
    (osdTerminalStart env t).2.writes = t.writes ++ writes ∧
      ∀ write ∈ writes, write.diAddr = t.demUartDiAddr

/-- Every call before the creation of the thread succeeds. -/
structure TerminalEnv.Prepares (env : TerminalEnv) (diAddr : Word) :
    Prop where
  isConnected : env.isConnected = true
  eventDest : osdFailed (env.write diAddr osdRegBaseModEventDest) = false
  openpt : 0 ≤ env.posixOpenpt
  grantpt : env.grantpt = 0
  tcgetattr : env.tcgetattr = 0
  tcsetattr : env.tcsetattr env.termios.forUart = 0
  unlockpt : env.unlockpt = 0
  modCsRead : ∀ rv, env.read diAddr osdRegBaseModCs = .error rv →
    osdFailed rv = false
  modCsWrite : ∀ value, env.read diAddr osdRegBaseModCs = .ok value →
    osdFailed (env.write diAddr osdRegBaseModCs) = false

/-! ## Where the start fails -/

section Start

variable {env : TerminalEnv} {t : Terminal} {diAddr : Word}

theorem describe_of_isDemUart (h : env.IsDemUart t.demUartDiAddr) :
    t.describe env = { t with demUartDesc := ⟨t.demUartDiAddr⟩ } := by
  unfold TerminalEnv.IsDemUart at h
  rw [Terminal.describe, osdClDemUartGetDesc, if_pos h]

theorem describe_of_not (h : ¬env.IsDemUart t.demUartDiAddr) :
    t.describe env = t := by
  unfold TerminalEnv.IsDemUart at h
  rw [Terminal.describe, osdClDemUartGetDesc, if_neg h]

theorem not_isDemUart_of_disconnected (h : env.isConnected = false) :
    ¬env.IsDemUart diAddr := by
  simp [TerminalEnv.IsDemUart, isDemUartModule, isModule,
    osdHostmodModDescribe, TerminalEnv.regRead, h, bind, Except.bind]

/-- The writes of a start go to one module, and there is one. -/
def WritesTo (diAddr : Word) (before after : List RegWrite) : Prop :=
  ∃ write more, after = before ++ write :: more ∧
    ∀ other ∈ write :: more, other.diAddr = diAddr

/-- The start ends with an error and leaves the host as it was. -/
structure Undone (s : Terminal) (result : Outcome OsdResult × Terminal) :
    Prop where
  failed : ∃ rv, result.1 = .ok rv ∧ osdFailed rv = true
  running : result.2.running = s.running
  txThreads : result.2.txThreads = s.txThreads
  openFds : result.2.openFds = s.openFds
  writes : WritesTo s.demUartDesc.diAddr s.writes result.2.writes

/-- The terminal with its first write and the pseudo-terminal. -/
def Terminal.opened (s : Terminal) (env : TerminalEnv) : Terminal :=
  { s with
    writes := s.writes ++
      [⟨s.demUartDesc.diAddr, osdRegBaseModEventDest, env.diaddr⟩]
    masterfd := env.posixOpenpt
    openFds := s.openFds.cons env.posixOpenpt }

@[simp] theorem opened_demUartDesc (s : Terminal) :
    (s.opened env).demUartDesc = s.demUartDesc := rfl

theorem undone_errorReturn {s : Terminal} {rv : OsdResult}
    {writes : List RegWrite} (hrv : osdFailed rv = true)
    (hwrites : WritesTo s.demUartDesc.diAddr s.writes writes) :
    Undone s ({ s.opened env with writes := writes }.errorReturn rv) where
  failed := ⟨rv, rfl, hrv⟩
  running := rfl
  txThreads := rfl
  openFds := by simp [Terminal.errorReturn, Terminal.opened]
  writes := hwrites

theorem writesTo_opened (env : TerminalEnv) (s : Terminal) :
    WritesTo s.demUartDesc.diAddr s.writes (s.opened env).writes :=
  ⟨_, [], rfl, by simp⟩

theorem setEventActive_eq (s : Terminal)
    (hconnected : env.isConnected = true) :
    (∃ rv, env.read diAddr osdRegBaseModCs = .error rv ∧
      osdHostmodModSetEventActive env s diAddr true = .ok (rv, s)) ∨
    ∃ value written, env.read diAddr osdRegBaseModCs = .ok value ∧
      osdHostmodModSetEventActive env s diAddr true =
        .ok (env.write diAddr osdRegBaseModCs,
          { s with writes := s.writes ++
              [⟨diAddr, osdRegBaseModCs, written⟩] }) := by
  unfold osdHostmodModSetEventActive TerminalEnv.regRead
  rw [if_pos hconnected]
  cases hread : env.read diAddr osdRegBaseModCs with
  | error rv => exact .inl ⟨rv, rfl, rfl⟩
  | ok value =>
      obtain ⟨written, hwritten⟩ : ∃ written, HostMod.bitInserted value
          osdRegBaseModCsActiveBit true = .ok written := ⟨_, rfl⟩
      refine .inr ⟨value, written, rfl, ?_⟩
      dsimp only
      rw [hwritten, ok_bind, Terminal.regWrite, if_pos hconnected]

/-- With a connection, the start gets to the thread or is undone. -/
inductive StartEnds (env : TerminalEnv) (s : Terminal)
    (result : Outcome OsdResult × Terminal) : Prop
  | prepared {writes : List RegWrite}
      (hprepares : env.Prepares s.demUartDesc.diAddr)
      (hwrites : WritesTo s.demUartDesc.diAddr s.writes writes)
      (hresult : result =
        { s.opened env with writes := writes }.createThread env)
  | undone (hnot : ¬env.Prepares s.demUartDesc.diAddr)
      (hundone : Undone s result)

/-- One of the checks behind `posix_openpt`. -/
theorem StartEnds.check {s : Terminal} {p : Prop} [Decidable p]
    {rv : OsdResult} {next : Outcome OsdResult × Terminal}
    (hp : env.Prepares s.demUartDesc.diAddr → ¬p)
    (hrv : osdFailed rv = true) (hnext : ¬p → StartEnds env s next) :
    StartEnds env s (if p then (s.opened env).errorReturn rv else next) := by
  by_cases h : p
  · rw [if_pos h]
    exact .undone (fun hprepares => hp hprepares h)
      (undone_errorReturn hrv (writesTo_opened env s))
  · rw [if_neg h]
    exact hnext h

theorem activate_ends {s : Terminal} (hconnected : env.isConnected = true)
    (hready : (∀ rv, env.read s.demUartDesc.diAddr osdRegBaseModCs =
        .error rv → osdFailed rv = false) →
      (∀ value, env.read s.demUartDesc.diAddr osdRegBaseModCs = .ok value →
        osdFailed (env.write s.demUartDesc.diAddr osdRegBaseModCs) =
          false) →
      env.Prepares s.demUartDesc.diAddr) :
    StartEnds env s
      (match osdHostmodModSetEventActive env (s.opened env)
          (s.opened env).demUartDesc.diAddr true with
        | .error fault => (.error fault, s.opened env)
        | .ok (rv, t) =>
            if osdFailed rv then t.errorReturn rv
            else t.createThread env) := by
  have hfirst := writesTo_opened env s
  rcases setEventActive_eq (s.opened env) hconnected with
    ⟨rv, hread, hactive⟩ | ⟨value, written, hread, hactive⟩
  · rw [hactive]
    dsimp only
    by_cases hrv : osdFailed rv = true
    · rw [if_pos hrv]
      refine .undone (fun h => ?_) (undone_errorReturn hrv hfirst)
      rw [h.modCsRead rv hread] at hrv
      cases hrv
    · rw [if_neg hrv]
      refine .prepared (hready ?_ ?_) hfirst rfl
      · intro other hother
        cases hread.symm.trans hother
        simpa using hrv
      · intro value hvalue
        cases hread.symm.trans hvalue
  · rw [hactive]
    dsimp only
    have hboth : WritesTo s.demUartDesc.diAddr s.writes
        ((s.opened env).writes ++
          [⟨s.demUartDesc.diAddr, osdRegBaseModCs, written⟩]) :=
      ⟨⟨s.demUartDesc.diAddr, osdRegBaseModEventDest, env.diaddr⟩,
        [⟨s.demUartDesc.diAddr, osdRegBaseModCs, written⟩],
        by simp [Terminal.opened], by simp⟩
    by_cases hrv : osdFailed (env.write
        (s.opened env).demUartDesc.diAddr osdRegBaseModCs) = true
    · rw [if_pos hrv]
      refine .undone (fun h => ?_) (undone_errorReturn hrv hboth)
      cases (h.modCsWrite value hread).symm.trans hrv
    · rw [if_neg hrv]
      refine .prepared (hready ?_ ?_) hboth rfl
      · intro other hother
        cases hread.symm.trans hother
      · intro _ _
        simpa using hrv

theorem start_ends (hconnected : env.isConnected = true) :
    StartEnds env (t.describe env) (osdTerminalStart env t) := by
  unfold osdTerminalStart
  generalize t.describe env = s
  dsimp only [osdHostmodModSetEventDest]
  rw [Terminal.regWrite, if_pos hconnected]
  dsimp only
  by_cases hdest : osdFailed
      (env.write s.demUartDesc.diAddr osdRegBaseModEventDest) = true
  · rw [if_pos hdest]
    refine .undone (fun h => ?_) ⟨⟨_, rfl, hdest⟩, rfl, rfl, rfl, _, [], rfl,
      by simp⟩
    rw [h.eventDest] at hdest
    cases hdest
  rw [if_neg hdest]
  by_cases hopenpt : env.posixOpenpt < 0
  · rw [Terminal.openpt, if_pos hopenpt, if_pos hopenpt]
    refine .undone (fun h => ?_) ⟨⟨_, rfl, rfl⟩, rfl, rfl, rfl, _, [], rfl,
      by simp⟩
    have := h.openpt
    omega
  have hopened : Terminal.openpt
      { s with writes := s.writes ++
        [⟨s.demUartDesc.diAddr, osdRegBaseModEventDest, env.diaddr⟩] }
      env.posixOpenpt = s.opened env := by
    rw [Terminal.openpt, if_neg hopenpt, Terminal.opened]
  rw [hopened, if_neg (show ¬(s.opened env).masterfd < 0 from hopenpt)]
  refine .check (fun h => not_not_intro h.grantpt) rfl fun hgrantpt => ?_
  refine .check (fun h => not_not_intro h.tcgetattr) rfl
    fun htcgetattr => ?_
  refine .check (fun h => not_not_intro h.tcsetattr) rfl
    fun htcsetattr => ?_
  refine .check (fun h => not_not_intro h.unlockpt) rfl fun hunlockpt => ?_
  exact activate_ends hconnected fun hread hwrite =>
    ⟨hconnected, by simpa using hdest, by omega, not_not.mp hgrantpt,
      not_not.mp htcgetattr, not_not.mp htcsetattr, not_not.mp hunlockpt,
      hread, hwrite⟩

theorem start_disconnected (h : env.isConnected = false) :
    osdTerminalStart env t = (.ok osdErrorNotConnected, t) := by
  unfold osdTerminalStart
  rw [describe_of_not (not_isDemUart_of_disconnected h)]
  simp [osdHostmodModSetEventDest, Terminal.regWrite, h, osdFailed,
    osdErrorNotConnected]

theorem createThread_writes : (t.createThread env).2.writes = t.writes := by
  unfold Terminal.createThread
  split
  · rfl
  · cases env.ptsname with
    | none => rfl
    | some ptsPath => rfl

theorem start_writesTo (hconnected : env.isConnected = true) :
    WritesTo (t.describe env).demUartDesc.diAddr (t.describe env).writes
      (osdTerminalStart env t).2.writes := by
  cases start_ends (t := t) hconnected with
  | prepared hprepares hwrites hresult =>
      rw [hresult, createThread_writes]
      exact hwrites
  | undone hnot hundone => exact hundone.writes

theorem createThread_not_failed (h : env.pthreadCreate = 0) {rv : OsdResult}
    (hrv : (t.createThread env).1 = .ok rv) : osdFailed rv = false := by
  rw [Terminal.createThread, if_neg (not_not_intro h)] at hrv
  cases hname : env.ptsname with
  | none => simp [hname] at hrv
  | some ptsPath =>
      obtain rfl : osdOk = rv := by simpa [hname] using hrv
      rfl

theorem createThread_failed (h : env.pthreadCreate ≠ 0) :
    (t.createThread env).1 = .ok osdErrorFailure ∧
      (t.createThread env).2.running = true := by
  rw [Terminal.createThread, if_pos h]
  exact ⟨rfl, rfl⟩

theorem Undone.stopped_iff {desc : OsdDemUartDesc}
    {result : Outcome OsdResult × Terminal}
    (h : Undone { t with demUartDesc := desc } result) :
    result.2.Stopped ↔ t.Stopped := by
  constructor
  · rintro ⟨hnotStarted, hnoThread, hnoFd⟩
    exact ⟨h.running.symm.trans hnotStarted, h.txThreads.symm.trans hnoThread,
      h.openFds.symm.trans hnoFd⟩
  · rintro ⟨hnotStarted, hnoThread, hnoFd⟩
    exact ⟨h.running.trans hnotStarted, h.txThreads.trans hnoThread,
      h.openFds.trans hnoFd⟩

theorem allOrNothing_disconnected (h : env.isConnected = false) :
    AllOrNothing env t ↔ t.Stopped := by
  have hstart := start_disconnected (t := t) h
  constructor
  · intro hall
    have hstopped := hall.failed osdErrorNotConnected (by rw [hstart]) rfl
    rwa [hstart] at hstopped
  · intro hstopped
    refine ⟨fun _ => ⟨_, by rw [hstart], rfl, by rw [hstart]⟩, ?_, ?_⟩
    · intro _ _ _
      rw [hstart]
      exact hstopped
    · exact ⟨[], by rw [hstart]; simp, by simp⟩

theorem not_allOrNothing_of_not_isDemUart (hconnected : env.isConnected = true)
    (h : ¬env.IsDemUart t.demUartDiAddr) : ¬AllOrNothing env t := by
  intro hall
  obtain ⟨rv, -, -, hsame⟩ := hall.wrongModule h
  obtain ⟨write, more, hmore, -⟩ := start_writesTo (t := t) hconnected
  rw [hsame, describe_of_not h] at hmore
  simp at hmore

theorem start_ownModule (hconnected : env.isConnected = true)
    (h : env.IsDemUart t.demUartDiAddr) :
    ∃ writes, (osdTerminalStart env t).2.writes = t.writes ++ writes ∧
      ∀ write ∈ writes, write.diAddr = t.demUartDiAddr := by
  have hwrites := start_writesTo (t := t) hconnected
  rw [describe_of_isDemUart h] at hwrites
  obtain ⟨write, more, hmore, hall⟩ := hwrites
  exact ⟨_, hmore, hall⟩

theorem allOrNothing_iff (env : TerminalEnv) (t : Terminal) :
    AllOrNothing env t ↔
      (env.isConnected = true → env.IsDemUart t.demUartDiAddr) ∧
        (env.Prepares t.demUartDiAddr → env.pthreadCreate = 0) ∧
        (¬env.Prepares t.demUartDiAddr → t.Stopped) := by
  cases hconnected : env.isConnected with
  | false =>
      have hnot : ¬env.Prepares t.demUartDiAddr := fun h => by
        rw [h.isConnected] at hconnected
        cases hconnected
      rw [allOrNothing_disconnected hconnected]
      simp [hnot]
  | true =>
      by_cases huart : env.IsDemUart t.demUartDiAddr
      swap
      · exact iff_of_false
          (not_allOrNothing_of_not_isDemUart hconnected huart)
          fun h => huart (h.1 rfl)
      have hown := start_ownModule hconnected huart
      have hends := start_ends (t := t) hconnected
      rw [describe_of_isDemUart huart] at hends
      cases hends with
      | @prepared writes hprepares _ hstart =>
          by_cases hcreate : env.pthreadCreate = 0
          · refine iff_of_true ⟨fun h => absurd huart h, ?_, hown⟩
              ⟨fun _ => huart, fun _ => hcreate, fun h => absurd hprepares h⟩
            intro rv hrv hfailed
            rw [hstart] at hrv
            rw [createThread_not_failed hcreate hrv] at hfailed
            cases hfailed
          · refine iff_of_false (fun h => ?_)
              (fun h => hcreate (h.2.1 hprepares))
            have hthread := createThread_failed (t := { Terminal.opened
              { t with demUartDesc := ⟨t.demUartDiAddr⟩ } env with
                writes := writes }) hcreate
            rw [← hstart] at hthread
            have hstopped := (h.failed _ hthread.1 rfl).notStarted
            rw [osdTerminalIsStarted, hthread.2] at hstopped
            cases hstopped
      | undone hnot hundone =>
          constructor
          · intro h
            refine ⟨fun _ => huart, fun hprepares => absurd hprepares hnot,
              fun _ => hundone.stopped_iff.mp ?_⟩
            obtain ⟨rv, hrv, hfailed⟩ := hundone.failed
            exact h.failed rv hrv hfailed
          · rintro ⟨-, -, hstopped⟩
            exact ⟨fun h => absurd huart h,
              fun _ _ _ => hundone.stopped_iff.mpr (hstopped hnot), hown⟩

end Start

/-! ## Half a start -/

/-- `osd_terminal_new`. -/
def newTerminal (demUartDiAddr : Word) : Terminal where
  demUartDesc := ⟨0⟩
  demUartDiAddr := demUartDiAddr
  ptsPath := none
  masterfd := 0
  running := false
  openFds := []
  txThreads := 0
  writes := []

/-- A host with address 1 on which only the creation of the thread may fail,
and modules of one kind. -/
def hostWith (type : Word) (pthreadCreate : Int) : TerminalEnv where
  isConnected := true
  diaddr := 1
  read := fun _ regAddr =>
    .ok (if regAddr = osdRegBaseModVendor then osdModuleVendorOsd
      else if regAddr = osdRegBaseModType then type else 0)
  write := fun _ _ => osdOk
  posixOpenpt := 7
  grantpt := 0
  tcgetattr := 0
  termios := ⟨0, 0, 0⟩
  tcsetattr := fun _ => 0
  unlockpt := 0
  pthreadCreate := pthreadCreate
  ptsname := some "/dev/pts/1"

/-- A module of another type is not noticed, and neither is a thread that is
not there. -/
theorem start_halfway :
    ¬(hostWith osdModuleTypeStdStm 0).IsDemUart 5 ∧
      (osdTerminalStart (hostWith osdModuleTypeStdStm 0)
          (newTerminal 5)).1 = .ok osdOk ∧
      (osdTerminalStart (hostWith osdModuleTypeStdStm 0)
          (newTerminal 5)).2.writes =
        [⟨0, osdRegBaseModEventDest, 1⟩, ⟨0, osdRegBaseModCs, 1⟩] ∧
      (osdTerminalStart (hostWith osdModuleTypeStdDemUart 11)
          (newTerminal 5)).1 = .ok osdErrorFailure ∧
      osdTerminalIsStarted (osdTerminalStart
          (hostWith osdModuleTypeStdDemUart 11) (newTerminal 5)).2 = true ∧
      ¬AllOrNothing (hostWith osdModuleTypeStdStm 0) (newTerminal 5) ∧
      ¬AllOrNothing (hostWith osdModuleTypeStdDemUart 11) (newTerminal 5) := by
  have hfails : (osdTerminalStart (hostWith osdModuleTypeStdDemUart 11)
      (newTerminal 5)).1 = .ok osdErrorFailure := by rfl
  have hother : ¬(hostWith osdModuleTypeStdStm 0).IsDemUart 5 := by
    unfold TerminalEnv.IsDemUart
    decide
  refine ⟨hother, by rfl, by rfl, hfails, by rfl, fun h => ?_, fun h => ?_⟩
  · obtain ⟨rv, hrv, hfailed, -⟩ := h.wrongModule hother
    obtain rfl : osdOk = rv := Except.ok.inj hrv
    cases hfailed
  · have := (h.failed _ hfails rfl).notStarted
    cases this

end Osd.Client
