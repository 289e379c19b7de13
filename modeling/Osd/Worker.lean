import Osd.Foundation.Outcome
import Osd.Packet

/-!
# Creating a worker

`worker_new` starts the thread of a worker and waits for the status message
that tells how the initialisation of the thread went.
-/

namespace Osd

open Osd.Foundation

/-! ## Status messages -/

inductive InprocMsg where
  | status (name : String) (value : Int)
  | data (name : String)

def InprocMsg.name : InprocMsg → String
  | .status name _ => name
  | .data name => name

/-- What `zmsg_recv` gives.  The receive timeout passes where nothing comes. -/
inductive Received where
  | message (msg : InprocMsg)
  | interrupted

def isStatusName (name : String) : Bool :=
  "I-".toList.isPrefixOf name.toList

/-- The variable `retvalue` of the caller is written for the awaited message
only. -/
def workerWaitForStatus (name : String) (retvalue : Int) :
    List Received → Outcome (OsdResult × Int)
  | [] => .ok (osdErrorTimedout, retvalue)
  | .interrupted :: _ => .ok (osdErrorFailure, retvalue)
  | .message msg :: rest =>
      if isStatusName msg.name then
        if msg.name ≠ name then .ok (osdErrorFailure, retvalue)
        else
          match msg with
          | .status _ value => .ok (osdOk, value)
          | .data _ => .error .assertion
      else workerWaitForStatus name retvalue rest

/-! ## The thread -/

inductive Arrival where
  | inTime
  | late
  | interrupted
  deriving DecidableEq

/-- The results of the calls that the two threads make.  A worker may have no
function `init_fn`. -/
structure WorkerEnv where
  bindRv : Int
  connectRv : Int
  initRv : Option OsdResult
  arrival : Arrival

def threadinitDone : String := "I-THREADINIT-DONE"

/-- The messages of `thread_main` up to its loop, and whether it gets there. -/
def threadMain (env : WorkerEnv) : List InprocMsg × Bool :=
  if env.connectRv = -1 then ([], false)
  else
    match env.initRv with
    | none => ([.status threadinitDone osdOk], true)
    | some osdRv =>
        if osdFailed osdRv then ([.status threadinitDone osdRv], false)
        else ([.status threadinitDone osdOk], true)

/-- What the main thread receives. -/
def WorkerEnv.received (env : WorkerEnv) : List Received :=
  match env.arrival with
  | .inTime => (threadMain env).1.map .message
  | .late => []
  | .interrupted => [.interrupted]

/-- `pthread_join` of a thread that was not told to shut down. -/
def pthreadJoin (env : WorkerEnv) : Outcome Unit :=
  if (threadMain env).2 then .error .blocked else .ok ()

/-! ## The constructor -/

section Constructor

variable {κ : Type}

/-- `retval` is what the variable of that name holds before the call of
`worker_wait_for_status`, `old` what `*ctx` holds, and `c` the new object. -/
def workerNew (env : WorkerEnv) (retval : Int) (c old : κ) :
    Outcome (OsdResult × κ) :=
  if env.bindRv = -1 then .ok (osdErrorFailure, old)
  else do
    let rv := 0
    let (_, retval) ← workerWaitForStatus threadinitDone retval env.received
    if osdFailed retval then do
      pthreadJoin env
      .ok (rv, old)
    else .ok (osdOk, c)

/-- The main thread receives a code of success. -/
def WorkerEnv.DoneReceived (env : WorkerEnv) : Prop :=
  env.bindRv ≠ -1 ∧ ∃ value, osdFailed value = false ∧
    .message (.status threadinitDone value) ∈ env.received

/-- Whatever the variable held before. -/
def ReportsFate (env : WorkerEnv) (c old : κ) : Prop :=
  ∃ rv ctx, (∀ retval, workerNew env retval c old = .ok (rv, ctx)) ∧
    (env.DoneReceived → rv = osdOk ∧ ctx = c) ∧
    (¬env.DoneReceived → osdFailed rv = true ∧ ctx = old)

def WorkerEnv.InitFails (env : WorkerEnv) : Prop :=
  ∃ osdRv, env.initRv = some osdRv ∧ osdFailed osdRv = true

variable {env : WorkerEnv} {c old : κ}

theorem threadMain_unconnected (hconnect : env.connectRv = -1) :
    threadMain env = ([], false) := by
  rw [threadMain, if_pos hconnect]

theorem threadMain_failed (hconnect : env.connectRv ≠ -1)
    (hinit : env.InitFails) :
    ∃ value, osdFailed value = true ∧
      threadMain env = ([.status threadinitDone value], false) := by
  obtain ⟨osdRv, hrv, hfailed⟩ := hinit
  exact ⟨osdRv, hfailed, by simp [threadMain, hconnect, hrv, hfailed]⟩

theorem threadMain_ok (hconnect : env.connectRv ≠ -1)
    (hinit : ¬env.InitFails) :
    threadMain env = ([.status threadinitDone osdOk], true) := by
  rw [threadMain, if_neg hconnect]
  cases hrv : env.initRv with
  | none => rfl
  | some osdRv =>
      have hfailed : osdFailed osdRv ≠ true :=
        fun hfailed => hinit ⟨osdRv, hrv, hfailed⟩
      simp [hfailed]

theorem workerWaitForStatus_status (retvalue value : Int) :
    workerWaitForStatus threadinitDone retvalue
        [.message (.status threadinitDone value)] = .ok (osdOk, value) := by
  have hname : isStatusName threadinitDone = true := by decide
  simp [workerWaitForStatus, InprocMsg.name, hname]

/-- Without a status message the variable decides. -/
theorem not_reportsFate (hbind : env.bindRv ≠ -1)
    (hreceived : env.received = [] ∨ env.received = [.interrupted]) :
    ¬ReportsFate env c old := by
  have hnew : workerNew env osdOk c old = .ok (osdOk, c) := by
    rw [workerNew, if_neg hbind]
    rcases hreceived with hnone | hinterrupted
    · simp [hnone, workerWaitForStatus, osdFailed, osdOk]
    · simp [hinterrupted, workerWaitForStatus, osdFailed, osdOk]
  have hnot : ¬env.DoneReceived := by
    rintro ⟨-, value, -, hmem⟩
    rcases hreceived with hnone | hinterrupted
    · simp [hnone] at hmem
    · simp [hinterrupted] at hmem
  rintro ⟨rv, ctx, hrun, -, hother⟩
  have hsame := (hrun osdOk).symm.trans hnew
  obtain ⟨rfl, rfl⟩ : rv = osdOk ∧ ctx = c := by simpa using hsame
  exact absurd (hother hnot).1 (by decide)

/-- A failure that the thread reports is lost. -/
theorem workerNew_failed (c old : κ) (hbind : env.bindRv ≠ -1)
    (hconnect : env.connectRv ≠ -1) (hinit : env.InitFails)
    (harrival : env.arrival = .inTime) (retval : Int) :
    workerNew env retval c old = .ok (osdOk, old) ∧ ¬env.DoneReceived := by
  obtain ⟨value, hfailed, hmain⟩ := threadMain_failed hconnect hinit
  have hreceived : env.received =
      [.message (.status threadinitDone value)] := by
    rw [WorkerEnv.received, harrival, hmain]
    rfl
  constructor
  · rw [workerNew, if_neg hbind, hreceived, workerWaitForStatus_status]
    simp [hfailed, pthreadJoin, hmain, osdOk]
  · rintro ⟨-, other, hother, hmem⟩
    obtain rfl : other = value := by simpa [hreceived] using hmem
    rw [hfailed] at hother
    cases hother

theorem workerNew_done (c old : κ) (hbind : env.bindRv ≠ -1)
    (hconnect : env.connectRv ≠ -1) (hinit : ¬env.InitFails)
    (harrival : env.arrival = .inTime) (retval : Int) :
    workerNew env retval c old = .ok (osdOk, c) ∧ env.DoneReceived := by
  have hreceived : env.received =
      [.message (.status threadinitDone osdOk)] := by
    rw [WorkerEnv.received, harrival, threadMain_ok hconnect hinit]
    rfl
  constructor
  · rw [workerNew, if_neg hbind, hreceived, workerWaitForStatus_status]
    rfl
  · exact ⟨hbind, osdOk, rfl, by simp [hreceived]⟩

theorem reportsFate_iff (env : WorkerEnv) (c old : κ) :
    ReportsFate env c old ↔
      env.bindRv = -1 ∨
        env.connectRv ≠ -1 ∧ ¬env.InitFails ∧ env.arrival = .inTime := by
  by_cases hbind : env.bindRv = -1
  · refine iff_of_true ⟨osdErrorFailure, old, ?_, ?_, ?_⟩ (.inl hbind)
    · intro retval
      rw [workerNew, if_pos hbind]
    · exact fun hdone => absurd hbind hdone.1
    · exact fun _ => ⟨rfl, rfl⟩
  cases harrival : env.arrival with
  | late =>
      have hreceived : env.received = [] := by
        rw [WorkerEnv.received, harrival]
      exact iff_of_false (not_reportsFate hbind (.inl hreceived))
        (by simp [hbind])
  | interrupted =>
      have hreceived : env.received = [.interrupted] := by
        rw [WorkerEnv.received, harrival]
      exact iff_of_false (not_reportsFate hbind (.inr hreceived))
        (by simp [hbind])
  | inTime =>
      by_cases hconnect : env.connectRv = -1
      · have hreceived : env.received = [] := by
          rw [WorkerEnv.received, harrival, threadMain_unconnected hconnect]
          rfl
        exact iff_of_false (not_reportsFate hbind (.inl hreceived))
          (by simp [hbind, hconnect])
      · by_cases hinit : env.InitFails
        · refine iff_of_false ?_ (by simp [hbind, hinit])
          rintro ⟨rv, ctx, hrun, -, hother⟩
          obtain ⟨hnew, hnot⟩ := workerNew_failed c old
            hbind hconnect hinit harrival 0
          have hsame := (hrun 0).symm.trans hnew
          obtain ⟨rfl, rfl⟩ : rv = osdOk ∧ ctx = old := by simpa using hsame
          exact absurd (hother hnot).1 (by decide)
        · have hdone := workerNew_done c old hbind hconnect hinit harrival
          refine iff_of_true ⟨osdOk, c, fun retval => (hdone retval).1,
            fun _ => ⟨rfl, rfl⟩, ?_⟩ (.inr ⟨hconnect, hinit, rfl⟩)
          exact fun hnot => absurd (hdone 0).2 hnot

end Constructor

/-- The host controller does not take the gateway. -/
def failingInit : WorkerEnv :=
  ⟨0, 0, some osdErrorConnectionFailed, .inTime⟩

def lateStatus : WorkerEnv := ⟨0, 0, none, .late⟩

theorem initFails_failingInit : failingInit.InitFails :=
  ⟨osdErrorConnectionFailed, rfl, by decide⟩

theorem worker_misreported :
    (∀ retval, workerNew failingInit retval 1 2 = .ok (osdOk, 2)) ∧
      workerNew lateStatus 5 1 2 = .ok (osdOk, 1) ∧
      workerNew lateStatus (-5) 1 2 = .error .blocked ∧
      ¬ReportsFate failingInit 1 2 := by
  have hfailed := workerNew_failed 1 2 (by decide) (by decide)
    initFails_failingInit rfl
  refine ⟨fun retval => (hfailed retval).1, by decide, by decide, ?_⟩
  rintro ⟨rv, ctx, hrun, -, hother⟩
  have hsame := (hrun 0).symm.trans (hfailed 0).1
  obtain ⟨rfl, rfl⟩ : rv = osdOk ∧ ctx = 2 := by simpa using hsame
  exact absurd (hother (hfailed 0).2).1 (by decide)

end Osd
