import Osd.Foundation.Channel
import Osd.Worker

/-!
# The life of a worker

The main thread sends commands and data to the thread of its worker, waits for
the status message that answers a command, and frees the worker in the end.
Nothing in an answer tells which command it belongs to: the two are paired by
their places in the order alone.
-/

namespace Osd.WorkerLifetime

open Osd.Foundation

variable {U δ : Type}

/-! ## Messages between the threads -/

inductive WorkerMsg (δ : Type) where
  | status (name : String) (value : Int)
  | data (name : String) (frame : δ)
  deriving DecidableEq

namespace WorkerMsg

def name : WorkerMsg δ → String
  | .status name _ => name
  | .data name _ => name

/-- What `worker_wait_for_status` reads of a message. -/
def header : WorkerMsg δ → InprocMsg
  | .status name value => .status name value
  | .data name _ => .data name

def isStatus (msg : WorkerMsg δ) : Bool := isStatusName msg.name

/-- The value of a status message is an `int`, as `worker_send_status` puts it
there. -/
def Valued (msg : WorkerMsg δ) : Prop :=
  msg.isStatus = true → ∃ name value, msg = .status name value

end WorkerMsg

def statuses (msgs : List (WorkerMsg δ)) : List (WorkerMsg δ) :=
  msgs.filter WorkerMsg.isStatus

def doneName (name : String) : String := name ++ "-DONE"

def shutdown : String := "I-SHUTDOWN"

def shutdownDone : WorkerMsg δ := .status (doneName shutdown) osdOk

/-- One turn of the loop of `worker_wait_for_status`, which goes on after
`none`. -/
def waitTurn (name : String) (retvalue : Int) (msg : WorkerMsg δ) :
    Option (Outcome (OsdResult × Int)) :=
  if msg.isStatus then
    if msg.name ≠ name then some (.ok (osdErrorFailure, retvalue))
    else
      match msg with
      | .status _ value => some (.ok (osdOk, value))
      | .data _ _ => some (.error .assertion)
  else none

theorem workerWaitForStatus_cons (name : String) (retvalue : Int)
    (msg : WorkerMsg δ) (rest : List Received) :
    workerWaitForStatus name retvalue (.message msg.header :: rest) =
      (waitTurn name retvalue msg).getD
        (workerWaitForStatus name retvalue rest) := by
  have hheader : msg.header.name = msg.name := by cases msg <;> rfl
  by_cases hstatus : isStatusName msg.name = true
  · by_cases hname : msg.name = name
    · cases msg with
      | status =>
          simp_all [workerWaitForStatus, waitTurn, WorkerMsg.isStatus,
            WorkerMsg.header]
      | data =>
          simp_all [workerWaitForStatus, waitTurn, WorkerMsg.isStatus,
            WorkerMsg.header]
    · simp [workerWaitForStatus, waitTurn, WorkerMsg.isStatus, *]
  · simp [workerWaitForStatus, waitTurn, WorkerMsg.isStatus, *]

/-! ## The two threads -/

/-- What a worker adds to `thread_main`: the dispatcher of its commands, with
the messages that it knows, and the other handlers of its loop. -/
structure WorkerHandlers (U δ : Type) where
  knows : WorkerMsg δ → Prop
  cmdHandlerFn : U → WorkerMsg δ → U → List (WorkerMsg δ) → Prop
  readers : U → U → List (WorkerMsg δ) → Prop

inductive MainPhase where
  | idle
  | calling (name : String)
  | freeing
  | joining
  | freed
  | aborted
  deriving DecidableEq

/-- The name of the status that the main thread waits for. -/
def MainPhase.awaited : MainPhase → Option String
  | .calling name => some (doneName name)
  | .freeing => some (doneName shutdown)
  | _ => none

inductive ThreadPhase (U : Type) where
  | looping (usr : U)
  | closing
  | ended
  | cancelled
  deriving DecidableEq

structure Worker (U δ : Type) where
  main : MainPhase
  thread : ThreadPhase U
  toWorker : List (WorkerMsg δ)
  toMain : List (WorkerMsg δ)
  cancelRequested : Bool

namespace Worker

/-- After a `worker_new` that succeeded. -/
def started (usr : U) : Worker U δ := ⟨.idle, .looping usr, [], [], false⟩

/-- `pthread_cancel` leaves the variable as it is. -/
def threadIsRunning (s : Worker U δ) : Bool :=
  match s.thread with
  | .ended => false
  | _ => true

/-- What follows `worker_wait_for_status`. -/
def resumed (s : Worker U δ) (rv : OsdResult) : Worker U δ :=
  match s.main with
  | .calling _ => { s with main := .idle }
  | .freeing => { s with main := .joining, cancelRequested := osdFailed rv }
  | _ => s

end Worker

inductive WorkerEvent (δ : Type) where
  | sends (msg : WorkerMsg δ)
  | calls (name : String) (value : Int)
  | refused (name : String)
  | skips (msg : WorkerMsg δ)
  | takes (msg : WorkerMsg δ) (rv : OsdResult) (value : Int)
  | givesUp (rv : OsdResult)
  | receives (msg : WorkerMsg δ)
  | aborts (msg : WorkerMsg δ)
  | frees
  | freesEnded
  | joins
  | handles (msg : WorkerMsg δ) (sent : List (WorkerMsg δ))
  | reads (sent : List (WorkerMsg δ))
  | shutsDown (msg : WorkerMsg δ)
  | interrupted
  | exits
  | cancelled

inductive WorkerStep (handlers : WorkerHandlers U δ) :
    Worker U δ → WorkerEvent δ → Worker U δ → Prop
  | sends {s : Worker U δ} {msg : WorkerMsg δ} (hmain : s.main = .idle)
      (hdata : msg.isStatus = false) (hknown : handlers.knows msg) :
      WorkerStep handlers s (.sends msg)
        { s with toWorker := s.toWorker ++ [msg] }
  | calls {s : Worker U δ} {name : String} {value : Int}
      (hmain : s.main = .idle) (hstatus : isStatusName name = true)
      (hname : name ≠ shutdown) (hknown : handlers.knows (.status name value)) :
      WorkerStep handlers s (.calls name value)
        { s with
          main := .calling name
          toWorker := s.toWorker ++ [.status name value] }
  -- `worker_main_send_status`; the callers that use `worker_send_status`
  -- itself do not look at the variable
  | refused {s : Worker U δ} {name : String} (hmain : s.main = .idle)
      (hended : s.threadIsRunning = false) :
      WorkerStep handlers s (.refused name) s
  | skips {s : Worker U δ} {name : String} {old : Int} {msg : WorkerMsg δ}
      {rest : List (WorkerMsg δ)} (hawaited : s.main.awaited = some name)
      (htoMain : s.toMain = msg :: rest) (hturn : waitTurn name old msg = none) :
      WorkerStep handlers s (.skips msg) { s with toMain := rest }
  | takes {s : Worker U δ} {name : String} {old value : Int} {rv : OsdResult}
      {msg : WorkerMsg δ} {rest : List (WorkerMsg δ)}
      (hawaited : s.main.awaited = some name) (htoMain : s.toMain = msg :: rest)
      (hturn : waitTurn name old msg = some (.ok (rv, value))) :
      WorkerStep handlers s (.takes msg rv value)
        { s.resumed rv with toMain := rest }
  -- `zmsg_recv` waits as long as nothing has come
  | givesUp {s : Worker U δ} {name : String} {rv : OsdResult}
      (hawaited : s.main.awaited = some name) (htoMain : s.toMain = [])
      (hrv : rv = osdErrorTimedout ∨ rv = osdErrorFailure) :
      WorkerStep handlers s (.givesUp rv) (s.resumed rv)
  | receives {s : Worker U δ} {msg : WorkerMsg δ} {rest : List (WorkerMsg δ)}
      (hmain : s.main = .idle) (htoMain : s.toMain = msg :: rest)
      (hdata : msg.isStatus = false) :
      WorkerStep handlers s (.receives msg) { s with toMain := rest }
  -- a packet is expected, not a status
  | abortsReceive {s : Worker U δ} {msg : WorkerMsg δ}
      {rest : List (WorkerMsg δ)} (hmain : s.main = .idle)
      (htoMain : s.toMain = msg :: rest) (hstatus : msg.isStatus = true) :
      WorkerStep handlers s (.aborts msg) { s with main := .aborted }
  | abortsWait {s : Worker U δ} {name : String} {old : Int}
      {msg : WorkerMsg δ} {rest : List (WorkerMsg δ)}
      (hawaited : s.main.awaited = some name) (htoMain : s.toMain = msg :: rest)
      (hturn : waitTurn name old msg = some (.error .assertion)) :
      WorkerStep handlers s (.aborts msg) { s with main := .aborted }
  | frees {s : Worker U δ} (hmain : s.main = .idle)
      (hrunning : s.threadIsRunning = true) :
      WorkerStep handlers s .frees
        { s with
          main := .freeing
          toWorker := s.toWorker ++ [.status shutdown 0] }
  | freesEnded {s : Worker U δ} (hmain : s.main = .idle)
      (hended : s.threadIsRunning = false) :
      WorkerStep handlers s .freesEnded { s with main := .joining }
  | joins {s : Worker U δ} (hmain : s.main = .joining)
      (hthread : s.thread = .ended ∨ s.thread = .cancelled) :
      WorkerStep handlers s .joins { s with main := .freed }
  | handles {s : Worker U δ} {usr usr' : U} {msg : WorkerMsg δ}
      {rest sent : List (WorkerMsg δ)} (hthread : s.thread = .looping usr)
      (htoWorker : s.toWorker = msg :: rest) (hname : msg.name ≠ shutdown)
      (hhandled : handlers.cmdHandlerFn usr msg usr' sent) :
      WorkerStep handlers s (.handles msg sent)
        { s with
          thread := .looping usr'
          toWorker := rest
          toMain := s.toMain ++ sent }
  | reads {s : Worker U δ} {usr usr' : U} {sent : List (WorkerMsg δ)}
      (hthread : s.thread = .looping usr)
      (hread : handlers.readers usr usr' sent) :
      WorkerStep handlers s (.reads sent)
        { s with thread := .looping usr', toMain := s.toMain ++ sent }
  -- the loop ends, `destroy_fn` runs and the status is sent
  | shutsDown {s : Worker U δ} {usr : U} {msg : WorkerMsg δ}
      {rest : List (WorkerMsg δ)} (hthread : s.thread = .looping usr)
      (htoWorker : s.toWorker = msg :: rest) (hname : msg.name = shutdown) :
      WorkerStep handlers s (.shutsDown msg)
        { s with
          thread := .closing
          toWorker := rest
          toMain := s.toMain ++ [shutdownDone] }
  -- a handler of the loop returns -1 by itself
  | interrupted {s : Worker U δ} {usr : U} (hthread : s.thread = .looping usr) :
      WorkerStep handlers s .interrupted
        { s with thread := .closing, toMain := s.toMain ++ [shutdownDone] }
  | exits {s : Worker U δ} (hthread : s.thread = .closing) :
      WorkerStep handlers s .exits { s with thread := .ended }
  | cancelled {s : Worker U δ} (hrequest : s.cancelRequested = true)
      (hthread : s.thread ≠ .ended) :
      WorkerStep handlers s .cancelled { s with thread := .cancelled }

/-! ## What the threads tell each other -/

namespace WorkerEvent

/-- The messages that the main thread sends. -/
def sent : WorkerEvent δ → List (WorkerMsg δ)
  | .sends msg => [msg]
  | .calls name value => [.status name value]
  | .frees => [.status shutdown 0]
  | _ => []

def handled : WorkerEvent δ → List (WorkerMsg δ)
  | .handles msg _ => [msg]
  | .shutsDown msg => [msg]
  | _ => []

/-- The status messages that the thread sends. -/
def answers : WorkerEvent δ → List (WorkerMsg δ)
  | .handles _ sent => statuses sent
  | .reads sent => statuses sent
  | .shutsDown _ => [shutdownDone]
  | .interrupted => [shutdownDone]
  | _ => []

def taken : WorkerEvent δ → List (WorkerMsg δ)
  | .takes msg _ _ => [msg]
  | _ => []

/-- The names of the answers that the main thread asks for. -/
def asked (event : WorkerEvent δ) : List String :=
  (statuses event.sent).map fun msg => doneName msg.name

def signal : WorkerEvent δ → Bool
  | .interrupted => true
  | _ => false

def late : WorkerEvent δ → Bool
  | .givesUp _ => true
  | _ => false

/-- The thread leaves its loop, and `destroy_fn` runs. -/
def destroys : WorkerEvent δ → Bool
  | .shutsDown _ => true
  | .interrupted => true
  | _ => false

end WorkerEvent

/-- Nothing but a command ends the loop of the thread. -/
def UndisturbedStep (handlers : WorkerHandlers U δ) (before : Worker U δ)
    (event : WorkerEvent δ) (after : Worker U δ) : Prop :=
  WorkerStep handlers before event after ∧ event.signal = false

/-- Moreover no wait of the main thread comes to nothing. -/
def TimelyStep (handlers : WorkerHandlers U δ) (before : Worker U δ)
    (event : WorkerEvent δ) (after : Worker U δ) : Prop :=
  UndisturbedStep handlers before event after ∧ event.late = false

/-- A command is answered once, under its own name; data is not. -/
structure WorkerHandlers.Answering (handlers : WorkerHandlers U δ) : Prop where
  answers : ∀ usr msg usr' sent, handlers.cmdHandlerFn usr msg usr' sent →
    (statuses sent).map WorkerMsg.name =
      (statuses [msg]).map fun msg => doneName msg.name
  valued : ∀ usr msg usr' sent, handlers.cmdHandlerFn usr msg usr' sent →
    ∀ answer ∈ sent, answer.Valued
  readers : ∀ usr usr' sent, handlers.readers usr usr' sent →
    statuses sent = []

/-- The dispatcher returns for every message that it knows. -/
def WorkerHandlers.Total (handlers : WorkerHandlers U δ) : Prop :=
  ∀ usr msg, handlers.knows msg →
    ∃ usr' sent, handlers.cmdHandlerFn usr msg usr' sent

section Queues

variable {handlers : WorkerHandlers U δ} {s s' before after : Worker U δ}
  {event : WorkerEvent δ} {name : String} {old value : Int} {rv : OsdResult}
  {msg : WorkerMsg δ}

theorem waitTurn_eq_none (h : waitTurn name old msg = none) :
    msg.isStatus = false := by
  unfold waitTurn at h
  split at h
  · split at h
    · cases h
    · cases msg <;> cases h
  · simp_all

theorem waitTurn_eq_ok (h : waitTurn name old msg = some (.ok (rv, value))) :
    msg.isStatus = true ∧
      (msg = .status name value ∧ rv = osdOk ∨
        msg.name ≠ name ∧ rv = osdErrorFailure) := by
  unfold waitTurn at h
  split at h
  · rename_i hstatus
    refine ⟨hstatus, ?_⟩
    split at h
    · rename_i hother
      cases h
      exact .inr ⟨hother, rfl⟩
    · rename_i hsame
      cases msg with
      | status statusName statusValue =>
          cases h
          exact .inl ⟨by rw [← not_not.mp hsame]; rfl, rfl⟩
      | data dataName frame => cases h
  · cases h

theorem waitTurn_eq_error {fault : Fault}
    (h : waitTurn name old msg = some (.error fault)) :
    msg.isStatus = true ∧ ∃ frame, msg = .data name frame := by
  unfold waitTurn at h
  split at h
  · rename_i hstatus
    refine ⟨hstatus, ?_⟩
    split at h
    · cases h
    · rename_i hsame
      cases msg with
      | status statusName statusValue => cases h
      | data dataName frame => exact ⟨frame, by rw [← not_not.mp hsame]; rfl⟩
  · cases h

@[simp] theorem toWorker_resumed (s : Worker U δ) (rv : OsdResult) :
    (s.resumed rv).toWorker = s.toWorker := by
  unfold Worker.resumed
  split <;> rfl

@[simp] theorem toMain_resumed (s : Worker U δ) (rv : OsdResult) :
    (s.resumed rv).toMain = s.toMain := by
  unfold Worker.resumed
  split <;> rfl

@[simp] theorem thread_resumed (s : Worker U δ) (rv : OsdResult) :
    (s.resumed rv).thread = s.thread := by
  unfold Worker.resumed
  split <;> rfl

theorem isStatus_shutdownDone :
    (shutdownDone : WorkerMsg δ).isStatus = true := by
  show isStatusName "I-SHUTDOWN-DONE" = true
  decide

theorem isStatus_of_shutdown (h : msg.name = shutdown) :
    msg.isStatus = true := by
  unfold WorkerMsg.isStatus
  rw [h]
  decide

theorem doneName_inj {first second : String} :
    doneName first = doneName second ↔ first = second :=
  String.append_left_inj _

/-! ### The queues -/

theorem conveys_toWorker :
    Conveys (WorkerStep handlers) Worker.toWorker WorkerEvent.sent
      WorkerEvent.handled := by
  intro before event after hstep
  cases hstep <;> simp [WorkerEvent.sent, WorkerEvent.handled, *]

theorem conveys_answers :
    Conveys (WorkerStep handlers) (fun s => statuses s.toMain)
      WorkerEvent.answers WorkerEvent.taken := by
  intro before event after hstep
  cases hstep with
  | skips _ htoMain hturn =>
      simp [WorkerEvent.answers, WorkerEvent.taken, statuses, htoMain,
        waitTurn_eq_none hturn]
  | takes _ htoMain hturn =>
      simp [WorkerEvent.answers, WorkerEvent.taken, statuses, htoMain,
        (waitTurn_eq_ok hturn).1]
  | receives _ htoMain hdata =>
      simp [WorkerEvent.answers, WorkerEvent.taken, statuses, htoMain, hdata]
  | shutsDown | interrupted =>
      simp [WorkerEvent.answers, WorkerEvent.taken, statuses,
        isStatus_shutdownDone]
  | _ => simp [WorkerEvent.answers, WorkerEvent.taken, statuses]

/-- What the thread answers is what it was told. -/
theorem answers_names (hanswering : handlers.Answering)
    (h : UndisturbedStep handlers before event after) :
    (statuses event.handled).map (fun msg => doneName msg.name) =
      event.answers.map WorkerMsg.name := by
  obtain ⟨hstep, hundisturbed⟩ := h
  cases hstep with
  | handles _ _ _ hhandled =>
      exact (hanswering.answers _ _ _ _ hhandled).symm
  | reads _ hread =>
      rw [WorkerEvent.answers, hanswering.readers _ _ _ hread]
      rfl
  | shutsDown _ _ hname =>
      simp only [WorkerEvent.handled, WorkerEvent.answers, statuses,
        List.filter_cons, isStatus_of_shutdown hname, if_true,
        List.filter_nil, List.map_cons, List.map_nil, hname]
      rfl
  | interrupted => cases hundisturbed
  | _ => rfl

/-- The names of the answers on their way and of those still to be given. -/
def awaiting (s : Worker U δ) : List String :=
  (statuses s.toMain).map WorkerMsg.name ++
    (statuses s.toWorker).map fun msg => doneName msg.name

theorem conveys_awaiting (hanswering : handlers.Answering) :
    Conveys (UndisturbedStep handlers) awaiting WorkerEvent.asked
      fun event => event.taken.map WorkerMsg.name := by
  have hnear : Conveys (UndisturbedStep handlers)
      (fun s => (statuses s.toWorker).map fun msg => doneName msg.name)
      WorkerEvent.asked fun event => event.answers.map WorkerMsg.name :=
    (((conveys_toWorker.filter WorkerMsg.isStatus).map
      fun msg => doneName msg.name).mono fun _ _ _ h => h.1).congr
        (fun _ _ _ _ => rfl) fun _ _ _ h => (answers_names hanswering h).symm
  have hanswers : Conveys (UndisturbedStep handlers)
      (fun s => statuses s.toMain) WorkerEvent.answers WorkerEvent.taken :=
    conveys_answers.mono fun _ _ _ h => h.1
  exact hnear.comp (hanswers.map WorkerMsg.name)

/-! ### The number of answers outstanding -/

def MainPhase.pending (phase : MainPhase) : Nat :=
  if phase.awaited.isSome then 1 else 0

theorem pending_awaited {phase : MainPhase} (h : phase.awaited = some name) :
    phase.pending = 1 := by
  rw [MainPhase.pending, h]
  rfl

theorem pending_resumed (h : s.main.awaited = some name) :
    (s.resumed rv).main.pending = 0 := by
  unfold Worker.resumed
  cases hmain : s.main <;> simp_all [MainPhase.awaited, MainPhase.pending]

theorem main_aborted (hstep : WorkerStep handlers before event after)
    (h : before.main = .aborted) : after.main = .aborted := by
  cases hstep <;> simp_all [MainPhase.awaited]

theorem step_counts (hstep : WorkerStep handlers before event after)
    (h : after.main ≠ .aborted) :
    event.asked.length + before.main.pending =
      event.taken.length + event.late.toNat + after.main.pending := by
  cases hstep with
  | sends hmain hdata =>
      simp [WorkerEvent.asked, WorkerEvent.sent, WorkerEvent.taken,
        WorkerEvent.late, statuses, hdata]
  | calls hmain hstatus =>
      simp [WorkerEvent.asked, WorkerEvent.sent, WorkerEvent.taken,
        WorkerEvent.late, statuses, WorkerMsg.isStatus, WorkerMsg.name,
        hstatus, hmain, MainPhase.pending, MainPhase.awaited]
  | frees hmain =>
      have hcommand :
          (WorkerMsg.status shutdown 0 : WorkerMsg δ).isStatus = true :=
        isStatus_of_shutdown rfl
      simp [WorkerEvent.asked, WorkerEvent.sent, WorkerEvent.taken,
        WorkerEvent.late, statuses, hcommand, hmain, MainPhase.pending,
        MainPhase.awaited]
  | takes hawaited =>
      simp [WorkerEvent.asked, WorkerEvent.sent, WorkerEvent.taken,
        WorkerEvent.late, statuses, pending_resumed hawaited,
        pending_awaited hawaited]
  | givesUp hawaited =>
      simp [WorkerEvent.asked, WorkerEvent.sent, WorkerEvent.taken,
        WorkerEvent.late, statuses, pending_resumed hawaited,
        pending_awaited hawaited]
  | abortsReceive | abortsWait => exact absurd rfl h
  | freesEnded hmain =>
      simp [WorkerEvent.asked, WorkerEvent.sent, WorkerEvent.taken,
        WorkerEvent.late, statuses, hmain, MainPhase.pending,
        MainPhase.awaited]
  | joins hmain =>
      simp [WorkerEvent.asked, WorkerEvent.sent, WorkerEvent.taken,
        WorkerEvent.late, statuses, hmain, MainPhase.pending,
        MainPhase.awaited]
  | _ => rfl

theorem counts_of_run {usr : U} {history : List (WorkerEvent δ)}
    (run : Runs (WorkerStep handlers) (.started usr) history s)
    (h : s.main ≠ .aborted) :
    (history.flatMap WorkerEvent.asked).length =
      (history.flatMap WorkerEvent.taken).length +
        history.countP WorkerEvent.late + s.main.pending := by
  induction run with
  | refl => rfl
  | @snoc history before after event _ hstep ih =>
      have hbefore := ih fun haborted => h (main_aborted hstep haborted)
      have hone := step_counts hstep h
      have hlate : List.countP WorkerEvent.late [event] =
          event.late.toNat := by
        cases hcase : event.late <;> simp [hcase]
      simp only [List.flatMap_append, List.flatMap_singleton,
        List.length_append, List.countP_append, hlate]
      omega

end Queues

/-! ## The end of the thread -/

/-- The worker is not told to shut down yet. -/
structure Serving (s : Worker U δ) : Prop where
  looping : ∃ usr, s.thread = .looping usr
  commands : ∀ msg ∈ s.toWorker, msg.name ≠ shutdown
  kept : s.cancelRequested = false

/-- The last message that the worker gets tells it to shut down. -/
inductive ShuttingDown (s : Worker U δ) : Prop
  | told {usr : U} {front : List (WorkerMsg δ)}
      (hthread : s.thread = .looping usr)
      (htoWorker : s.toWorker = front ++ [.status shutdown 0])
      (hcommands : ∀ msg ∈ front, msg.name ≠ shutdown)
  | left (hthread : s.thread = .closing ∨ s.thread = .ended)
      (htoWorker : s.toWorker = [])
  | cancelled (hthread : s.thread = .cancelled)
      (hrequest : s.cancelRequested = true)

def Fits (s : Worker U δ) : Prop :=
  match s.main with
  | .idle => Serving s
  | .calling _ => Serving s
  | .freeing => ShuttingDown s ∧ s.cancelRequested = false
  | .joining => ShuttingDown s
  | .freed => ShuttingDown s ∧ (s.thread = .ended ∨ s.thread = .cancelled)
  | .aborted => True

structure Consistent (handlers : WorkerHandlers U δ) (s : Worker U δ) :
    Prop where
  fits : Fits s
  known : ∀ msg ∈ s.toWorker, msg.name = shutdown ∨ handlers.knows msg
  valued : ∀ msg ∈ s.toMain, msg.Valued

def WorkerEvent.byThread : WorkerEvent δ → Bool
  | .handles _ _ => true
  | .reads _ => true
  | .shutsDown _ => true
  | .interrupted => true
  | .exits => true
  | .cancelled => true
  | _ => false

section Ends

variable {handlers : WorkerHandlers U δ} {s s' before after : Worker U δ}
  {event : WorkerEvent δ} {history : List (WorkerEvent δ)} {usr : U}

theorem frame_of_byThread (hstep : WorkerStep handlers before event after)
    (hthread : event.byThread = true) :
    after.main = before.main ∧
      after.cancelRequested = before.cancelRequested := by
  cases hstep <;> first | exact ⟨rfl, rfl⟩ | cases hthread

theorem Serving.byThread (h : Serving before)
    (hstep : UndisturbedStep handlers before event after)
    (hthread : event.byThread = true) : Serving after := by
  obtain ⟨⟨usr, hlooping⟩, hcommands, hkept⟩ := h
  obtain ⟨hstep, hundisturbed⟩ := hstep
  cases hstep with
  | handles _ htoWorker =>
      refine ⟨⟨_, rfl⟩, fun msg hmem => hcommands msg ?_, hkept⟩
      rw [htoWorker]
      exact List.mem_cons_of_mem _ hmem
  | reads => exact ⟨⟨_, rfl⟩, hcommands, hkept⟩
  | shutsDown _ htoWorker hname =>
      refine absurd hname (hcommands _ ?_)
      rw [htoWorker]
      exact List.mem_cons_self
  | interrupted => cases hundisturbed
  | exits hclosing =>
      rw [hlooping] at hclosing
      cases hclosing
  | cancelled hrequest =>
      rw [hkept] at hrequest
      cases hrequest
  | _ => cases hthread

theorem ShuttingDown.byThread (h : ShuttingDown before)
    (hstep : UndisturbedStep handlers before event after)
    (hthread : event.byThread = true) : ShuttingDown after := by
  obtain ⟨hstep, hundisturbed⟩ := hstep
  cases hstep with
  | @handles usr _ msg rest _ hlooping htoWorker hname =>
      cases h with
      | @told _ front _ hlast hcommands =>
          cases front with
          | nil =>
              rw [htoWorker] at hlast
              cases hlast
              exact absurd rfl hname
          | cons first front =>
              rw [htoWorker] at hlast
              cases hlast
              exact .told rfl rfl fun msg hmem =>
                hcommands msg (List.mem_cons_of_mem _ hmem)
      | left hleft => simp [hlooping] at hleft
      | cancelled hcancelled => simp [hlooping] at hcancelled
  | reads hlooping =>
      cases h with
      | told _ hlast hcommands => exact .told rfl hlast hcommands
      | left hleft => simp [hlooping] at hleft
      | cancelled hcancelled => simp [hlooping] at hcancelled
  | @shutsDown usr msg rest hlooping htoWorker hname =>
      cases h with
      | @told _ front _ hlast hcommands =>
          cases front with
          | nil =>
              rw [htoWorker] at hlast
              cases hlast
              exact .left (.inl rfl) rfl
          | cons first front =>
              rw [htoWorker] at hlast
              cases hlast
              exact absurd hname (hcommands _ List.mem_cons_self)
      | left hleft => simp [hlooping] at hleft
      | cancelled hcancelled => simp [hlooping] at hcancelled
  | interrupted => cases hundisturbed
  | exits hclosing =>
      cases h with
      | told hlooping => simp [hclosing] at hlooping
      | left _ htoWorker => exact .left (.inr rfl) htoWorker
      | cancelled hcancelled => simp [hclosing] at hcancelled
  | cancelled hrequest => exact .cancelled rfl hrequest
  | _ => cases hthread

theorem joined_byThread (hstep : WorkerStep handlers before event after)
    (hthread : event.byThread = true)
    (h : before.thread = .ended ∨ before.thread = .cancelled) :
    after.thread = .ended ∨ after.thread = .cancelled := by
  cases hstep with
  | handles hlooping => simp [hlooping] at h
  | reads hlooping => simp [hlooping] at h
  | shutsDown hlooping => simp [hlooping] at h
  | interrupted hlooping => simp [hlooping] at h
  | exits hclosing => simp [hclosing] at h
  | cancelled => exact .inr rfl
  | _ => cases hthread

/-- A message of the worker other than the last. -/
theorem Serving.told (h : Serving s) (hthread : s'.thread = s.thread)
    (htoWorker : s'.toWorker = s.toWorker ++ [.status shutdown 0]) :
    ShuttingDown s' := by
  obtain ⟨⟨usr, hlooping⟩, hcommands, -⟩ := h
  exact .told (hthread.trans hlooping) htoWorker hcommands

theorem ShuttingDown.congr (h : ShuttingDown s)
    (hthread : s'.thread = s.thread) (htoWorker : s'.toWorker = s.toWorker)
    (hcancel : s'.cancelRequested = s.cancelRequested) : ShuttingDown s' := by
  cases h with
  | told hlooping hlast hcommands =>
      exact .told (hthread.trans hlooping) (htoWorker.trans hlast) hcommands
  | left hleft hempty =>
      refine .left ?_ (htoWorker.trans hempty)
      rwa [hthread]
  | cancelled hcancelled hrequest =>
      exact .cancelled (hthread.trans hcancelled) (hcancel.trans hrequest)

theorem ShuttingDown.resumed (h : ShuttingDown s) {rv : OsdResult}
    (hkept : s.cancelRequested = false) : ShuttingDown (s.resumed rv) := by
  cases h with
  | told hthread htoWorker hcommands =>
      exact .told (by simpa using hthread) (by simpa using htoWorker)
        hcommands
  | left hthread htoWorker =>
      exact .left (by simpa using hthread) (by simpa using htoWorker)
  | cancelled _ hrequest =>
      rw [hkept] at hrequest
      cases hrequest

theorem Fits.resumed (h : Fits s) {name : String} {rv : OsdResult}
    (hawaited : s.main.awaited = some name) : Fits (s.resumed rv) := by
  unfold Fits at h
  cases hmain : s.main with
  | calling command =>
      rw [hmain] at h
      have hserving : Serving s := h
      simp only [Fits, Worker.resumed, hmain]
      exact ⟨hserving.looping, hserving.commands, hserving.kept⟩
  | freeing =>
      rw [hmain] at h
      have hresumed : ShuttingDown (s.resumed rv) := h.1.resumed h.2
      simp only [Fits, Worker.resumed, hmain] at hresumed ⊢
      exact hresumed
  | idle | joining | freed | aborted =>
      rw [hmain] at hawaited
      cases hawaited

theorem Fits.serving (h : Fits s) (hmain : s.main = .idle) : Serving s := by
  unfold Fits at h
  rwa [hmain] at h

theorem Fits.joined (h : Fits s) (hmain : s.main = .freed) :
    s.thread = .ended ∨ s.thread = .cancelled := by
  unfold Fits at h
  rw [hmain] at h
  exact h.2

theorem Serving.sent (h : Serving s) {msg : WorkerMsg δ}
    (hname : msg.name ≠ shutdown) :
    Serving { s with toWorker := s.toWorker ++ [msg] } where
  looping := h.looping
  commands := by
    intro entry hmem
    rcases List.mem_append.mp hmem with hold | hnew
    · exact h.commands entry hold
    · rw [List.mem_singleton.mp hnew]
      exact hname
  kept := h.kept

/-- What the main thread does not look at may change. -/
theorem Fits.toMain (h : Fits s) (toMain : List (WorkerMsg δ)) :
    Fits { s with toMain := toMain } := by
  unfold Fits at h ⊢
  cases hmain : s.main with
  | idle | calling _ =>
      rw [hmain] at h
      exact ⟨h.looping, h.commands, h.kept⟩
  | freeing =>
      rw [hmain] at h
      exact ⟨h.1.congr rfl rfl rfl, h.2⟩
  | joining =>
      rw [hmain] at h
      exact ShuttingDown.congr h rfl rfl rfl
  | freed =>
      rw [hmain] at h
      exact ⟨h.1.congr rfl rfl rfl, h.2⟩
  | aborted => trivial

theorem Serving.running (h : Serving s) : s.threadIsRunning = true := by
  obtain ⟨⟨usr, hlooping⟩, -, -⟩ := h
  rw [Worker.threadIsRunning, hlooping]

theorem Fits.byThread (h : Fits before)
    (hstep : UndisturbedStep handlers before event after)
    (hthread : event.byThread = true) : Fits after := by
  obtain ⟨hmain, hcancel⟩ := frame_of_byThread hstep.1 hthread
  unfold Fits at h ⊢
  rw [hmain, hcancel]
  cases hphase : before.main with
  | idle | calling _ =>
      rw [hphase] at h
      exact Serving.byThread h hstep hthread
  | freeing =>
      rw [hphase] at h
      exact ⟨h.1.byThread hstep hthread, h.2⟩
  | joining =>
      rw [hphase] at h
      exact ShuttingDown.byThread h hstep hthread
  | freed =>
      rw [hphase] at h
      exact ⟨h.1.byThread hstep hthread,
        joined_byThread hstep.1 hthread h.2⟩
  | aborted => trivial

theorem Fits.step (h : Fits before)
    (hstep : UndisturbedStep handlers before event after) : Fits after := by
  cases hthread : event.byThread with
  | true => exact h.byThread hstep hthread
  | false =>
      obtain ⟨hstep, -⟩ := hstep
      cases hstep with
      | @sends msg hmain hdata =>
          have hname : msg.name ≠ shutdown := fun hname => by
            simp [isStatus_of_shutdown hname] at hdata
          have hsent := (h.serving hmain).sent hname
          simpa only [Fits, hmain] using hsent
      | @calls name value hmain hstatus hname =>
          have hsent := (h.serving hmain).sent
            (show (WorkerMsg.status name value : WorkerMsg δ).name ≠ shutdown
              from hname)
          exact ⟨hsent.looping, hsent.commands, hsent.kept⟩
      | refused => exact h
      | skips => exact h.toMain _
      | receives => exact h.toMain _
      | takes hawaited => exact (h.resumed hawaited).toMain _
      | givesUp hawaited => exact h.resumed hawaited
      | abortsReceive | abortsWait => trivial
      | frees hmain =>
          have hserving := h.serving hmain
          exact ⟨hserving.told rfl rfl, hserving.kept⟩
      | freesEnded hmain hended =>
          rw [(h.serving hmain).running] at hended
          cases hended
      | joins hmain hended =>
          unfold Fits at h
          rw [hmain] at h
          exact ⟨ShuttingDown.congr h rfl rfl rfl, hended⟩
      | _ => cases hthread

end Ends

end Osd.WorkerLifetime
