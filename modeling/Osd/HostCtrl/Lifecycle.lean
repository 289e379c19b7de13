import Osd.Foundation.Runs
import Osd.Packet

/-!
# Starting and stopping the host controller

The main thread sends a command to the I/O thread and waits for its status
message.  Both sockets between them carry nothing but these messages, and the
I/O thread answers in time, so that a call is one step together with the work
that the I/O thread does for it.
-/

namespace Osd.HostCtrl

open Osd.Foundation

inductive StatusName where
  | iStart
  | iStartDone
  | iStop
  | iStopDone
  deriving DecidableEq, Repr

structure Status where
  name : StatusName
  value : Int
  deriving DecidableEq, Repr

/-- The router socket, and what `zloop_reader_end` and `zsock_destroy` were
called with so far. -/
structure IoThread where
  routerSocket : Option Nat
  readersEnded : List (Option Nat)
  deriving DecidableEq, Repr

structure Hostctrl where
  isRunning : Bool
  ioThread : IoThread
  toWorker : List Status
  toMain : List Status
  deriving DecidableEq, Repr

def Hostctrl.init : Hostctrl := ⟨false, ⟨none, []⟩, [], []⟩

/-! ## The I/O thread -/

/-- `created` is what `zsock_new_router` returns. -/
def iothreadRouterStart (thread : IoThread) (created : Option Nat) :
    IoThread × Status :=
  let thread := { thread with routerSocket := created }
  match created with
  | none => (thread, ⟨.iStartDone, osdErrorConnectionFailed⟩)
  | some _ => (thread, ⟨.iStartDone, osdOk⟩)

def iothreadRouterStop (thread : IoThread) : IoThread × Status :=
  ({ routerSocket := none
     readersEnded := thread.readersEnded ++ [thread.routerSocket] },
    ⟨.iStopDone, osdOk⟩)

def iothreadHandleInprocMsg (thread : IoThread) (created : Option Nat) :
    StatusName → Outcome (IoThread × Status)
  | .iStart => .ok (iothreadRouterStart thread created)
  | .iStop => .ok (iothreadRouterStop thread)
  | _ => .error .assertion

def threadInprocRcv (ctx : Hostctrl) (created : Option Nat) :
    Outcome Hostctrl :=
  match ctx.toWorker with
  | [] => .error .blocked
  | status :: rest => do
      let (ioThread, done) ←
        iothreadHandleInprocMsg ctx.ioThread created status.name
      .ok { ctx with ioThread, toWorker := rest, toMain := ctx.toMain ++ [done] }

/-! ## The main thread -/

def workerSendStatus (ctx : Hostctrl) (name : StatusName) (value : Int) :
    Hostctrl :=
  { ctx with toWorker := ctx.toWorker ++ [⟨name, value⟩] }

/-- The result, and the value that is only set with OSD_OK. -/
def workerWaitForStatus (ctx : Hostctrl) (name : StatusName) :
    Hostctrl × OsdResult × Int :=
  match ctx.toMain with
  | [] => (ctx, osdErrorTimedout, 0)
  | status :: rest =>
      let ctx := { ctx with toMain := rest }
      if status.name = name then (ctx, osdOk, status.value)
      else (ctx, osdErrorFailure, 0)

def osdHostctrlStart (ctx : Hostctrl) (created : Option Nat) :
    Outcome (Hostctrl × OsdResult) := do
  assertThat (ctx.isRunning = false)
  let ctx ← threadInprocRcv (workerSendStatus ctx .iStart 0) created
  let (ctx, rv, retval) := workerWaitForStatus ctx .iStartDone
  if osdFailed rv ∨ retval = -1 then .ok (ctx, osdErrorConnectionFailed)
  else .ok ({ ctx with isRunning := true }, osdOk)

def osdHostctrlStop (ctx : Hostctrl) : Outcome (Hostctrl × OsdResult) :=
  if ctx.isRunning = false then .ok (ctx, osdErrorNotConnected)
  else do
    let ctx ← threadInprocRcv (workerSendStatus ctx .iStop 0) none
    let (ctx, rv, retval) := workerWaitForStatus ctx .iStopDone
    if osdFailed rv then .ok (ctx, rv)
    else if osdFailed retval then .ok (ctx, retval)
    else .ok ({ ctx with isRunning := false }, osdOk)

def osdHostctrlIsRunning (ctx : Hostctrl) : Bool := ctx.isRunning

/-! ## Histories of calls -/

inductive Call where
  | start (created : Option Nat)
  | stop
  deriving DecidableEq, Repr

def Hostctrl.call (ctx : Hostctrl) : Call → Outcome (Hostctrl × OsdResult)
  | .start created => osdHostctrlStart ctx created
  | .stop => osdHostctrlStop ctx

structure Called where
  call : Call
  rv : OsdResult
  isRunning : Bool
  deriving DecidableEq, Repr

inductive CallStep : Hostctrl → Called → Hostctrl → Prop
  | call {before after : Hostctrl} {call : Call} {rv : OsdResult}
      {isRunning : Bool} (hcall : before.call call = .ok (after, rv))
      (hrunning : osdHostctrlIsRunning after = isRunning) :
      CallStep before ⟨call, rv, isRunning⟩ after

/-- The host controller is started only when it is not running. -/
def RespectsApi (ctx : Hostctrl) : Call → Prop
  | .start _ => ctx.isRunning = false
  | .stop => True

def Called.Truthful (called : Called) : Prop :=
  match called.call with
  | .start created =>
      (called.rv = osdOk ↔ created ≠ none) ∧
        (called.isRunning = true ↔ created ≠ none) ∧
        (created = none → called.rv = osdErrorConnectionFailed)
  | .stop => True

structure TellsTruth (history : List Called) (final : Hostctrl) : Prop where
  truthful : ∀ called ∈ history, called.Truthful
  running_iff_open :
    final.isRunning = true ↔ final.ioThread.routerSocket ≠ none
  none_not_ended : none ∉ final.ioThread.readersEnded
  returns : ∀ call, RespectsApi final call → Returns (final.call call)

def Called.SocketCreated (called : Called) : Prop :=
  called.call ≠ .start none

/-! ## Single calls -/

structure Quiet (ctx : Hostctrl) : Prop where
  toWorker : ctx.toWorker = []
  toMain : ctx.toMain = []

section Calls

variable {ctx : Hostctrl}

/-- Only the value -1 counts as a failure, which the I/O thread never sends:
the call reports success whatever became of the socket. -/
theorem osdHostctrlStart_eq (hquiet : Quiet ctx)
    (hstopped : ctx.isRunning = false) (created : Option Nat) :
    osdHostctrlStart ctx created =
      .ok ({ ctx with
        isRunning := true
        ioThread := { ctx.ioThread with routerSocket := created } },
        osdOk) := by
  obtain ⟨isRunning, ioThread, toWorker, toMain⟩ := ctx
  obtain ⟨hworker, hmain⟩ := hquiet
  simp only at hworker hmain hstopped
  subst hworker hmain hstopped
  cases created with
  | none => rfl
  | some socket => rfl

theorem osdHostctrlStop_eq (hquiet : Quiet ctx)
    (hrunning : ctx.isRunning = true) :
    osdHostctrlStop ctx =
      .ok ({ ctx with
        isRunning := false
        ioThread := (iothreadRouterStop ctx.ioThread).1 }, osdOk) := by
  obtain ⟨isRunning, ioThread, toWorker, toMain⟩ := ctx
  obtain ⟨hworker, hmain⟩ := hquiet
  simp only at hworker hmain hrunning
  subst hworker hmain hrunning
  rfl

theorem osdHostctrlStop_stopped (hstopped : ctx.isRunning = false) :
    osdHostctrlStop ctx = .ok (ctx, osdErrorNotConnected) := by
  simp [osdHostctrlStop, hstopped]

theorem call_returns (hquiet : Quiet ctx) (call : Call)
    (hrespects : RespectsApi ctx call) : Returns (ctx.call call) := by
  cases call with
  | start created => exact ⟨_, osdHostctrlStart_eq hquiet hrespects created⟩
  | stop =>
      cases hrunning : ctx.isRunning with
      | false => exact ⟨_, osdHostctrlStop_stopped hrunning⟩
      | true => exact ⟨_, osdHostctrlStop_eq hquiet hrunning⟩

end Calls

section Steps

variable {before after : Hostctrl} {called : Called}

theorem callStep_cases (hquiet : Quiet before)
    (h : CallStep before called after) :
    (∃ created, before.isRunning = false ∧
      called = ⟨.start created, osdOk, true⟩ ∧
      after =
        { before with
          isRunning := true
          ioThread := { before.ioThread with routerSocket := created } }) ∨
    (before.isRunning = true ∧ called = ⟨.stop, osdOk, false⟩ ∧
      after =
        { before with
          isRunning := false
          ioThread := (iothreadRouterStop before.ioThread).1 }) ∨
    (before.isRunning = false ∧
      called = ⟨.stop, osdErrorNotConnected, false⟩ ∧ after = before) := by
  cases h with
  | call hcall hafter =>
      rename_i call rv _
      rw [← hafter]
      cases call with
      | start created =>
          have hstopped : before.isRunning = false :=
            (assertThat_bind_eq_ok.mp hcall).1
          have heq := osdHostctrlStart_eq hquiet hstopped created
          cases heq.symm.trans hcall
          exact Or.inl ⟨created, hstopped, rfl, rfl⟩
      | stop =>
          cases hrunning : before.isRunning with
          | false =>
              cases (osdHostctrlStop_stopped hrunning).symm.trans hcall
              rw [osdHostctrlIsRunning, hrunning]
              exact Or.inr (Or.inr ⟨rfl, rfl, rfl⟩)
          | true =>
              cases (osdHostctrlStop_eq hquiet hrunning).symm.trans hcall
              exact Or.inr (Or.inl ⟨rfl, rfl, rfl⟩)

theorem Quiet.step (hquiet : Quiet before) (h : CallStep before called after) :
    Quiet after := by
  obtain ⟨_, _, _, rfl⟩ | ⟨_, _, rfl⟩ | ⟨_, _, rfl⟩ :=
    callStep_cases hquiet h
  · exact ⟨hquiet.toWorker, hquiet.toMain⟩
  · exact ⟨hquiet.toWorker, hquiet.toMain⟩
  · exact hquiet

/-- A start says that it succeeded, so it is truthful where it did. -/
theorem truthful_iff_socketCreated (hquiet : Quiet before)
    (h : CallStep before called after) :
    called.Truthful ↔ called.SocketCreated := by
  obtain ⟨created, _, rfl, _⟩ | ⟨_, rfl, _⟩ | ⟨_, rfl, _⟩ :=
    callStep_cases hquiet h
  · cases created with
    | none => simp [Called.Truthful, Called.SocketCreated]
    | some socket => simp [Called.Truthful, Called.SocketCreated]
  · simp [Called.Truthful, Called.SocketCreated]
  · simp [Called.Truthful, Called.SocketCreated]

/-- The flag agrees with the socket, and every socket that was given back was
open. -/
structure Agrees (ctx : Hostctrl) : Prop where
  running_iff_open : ctx.isRunning = true ↔ ctx.ioThread.routerSocket ≠ none
  none_not_ended : none ∉ ctx.ioThread.readersEnded

theorem Agrees.step (hagrees : Agrees before) (hquiet : Quiet before)
    (h : CallStep before called after) (hcreated : called.SocketCreated) :
    Agrees after := by
  obtain ⟨created, _, rfl, rfl⟩ | ⟨hrunning, _, rfl⟩ | ⟨_, _, rfl⟩ :=
    callStep_cases hquiet h
  · have hsome : created ≠ none := by
      intro hnone
      exact hcreated (by rw [hnone])
    exact ⟨by simp [hsome], hagrees.none_not_ended⟩
  · have hopen := hagrees.running_iff_open.mp hrunning
    refine ⟨by simp [iothreadRouterStop], ?_⟩
    simp [iothreadRouterStop, hagrees.none_not_ended, hopen.symm]
  · exact hagrees

end Steps

/-! ## Runs -/

section Run

variable {history : List Called} {final : Hostctrl}

theorem quiet_of_run (run : Runs CallStep .init history final) :
    Quiet final := by
  apply run.invariant (I := fun _ ctx => Quiet ctx)
  · exact ⟨rfl, rfl⟩
  · intro _ _ _ _ _ hquiet hstep
    exact hquiet.step hstep

theorem agrees_of_run (run : Runs CallStep .init history final)
    (hcreated : ∀ called ∈ history, called.SocketCreated) : Agrees final := by
  induction run with
  | refl => exact ⟨by simp [Hostctrl.init], by simp [Hostctrl.init]⟩
  | @snoc history before after called run hstep ih =>
      have hbefore := ih fun called hmem => hcreated called (by simp [hmem])
      exact hbefore.step (quiet_of_run run) hstep (hcreated called (by simp))

theorem truthful_iff_of_run (run : Runs CallStep .init history final)
    {called : Called} (hmem : called ∈ history) :
    called.Truthful ↔ called.SocketCreated := by
  obtain ⟨earlier, later, rfl⟩ := List.append_of_mem hmem
  obtain ⟨before, after, hearlier, hstep, _⟩ := run.step_at
  exact truthful_iff_socketCreated (quiet_of_run hearlier) hstep

theorem tellsTruth_iff (run : Runs CallStep .init history final) :
    TellsTruth history final ↔ ∀ called ∈ history, called.SocketCreated := by
  constructor
  · intro h called hmem
    exact (truthful_iff_of_run run hmem).mp (h.truthful called hmem)
  · intro hcreated
    have hagrees := agrees_of_run run hcreated
    refine
      { truthful := ?_
        running_iff_open := hagrees.running_iff_open
        none_not_ended := hagrees.none_not_ended
        returns := call_returns (quiet_of_run run) }
    intro called hmem
    exact (truthful_iff_of_run run hmem).mpr (hcreated called hmem)

end Run

theorem tellsTruth_restarted :
    TellsTruth
        [⟨.start (some 1), osdOk, true⟩, ⟨.stop, osdOk, false⟩,
          ⟨.start (some 2), osdOk, true⟩]
        ⟨true, ⟨some 2, [some 1]⟩, [], []⟩ ↔
      ∀ called ∈ ([⟨.start (some 1), osdOk, true⟩, ⟨.stop, osdOk, false⟩,
        ⟨.start (some 2), osdOk, true⟩] : List Called),
        called.SocketCreated := by
  have first : CallStep .init ⟨.start (some 1), osdOk, true⟩
      ⟨true, ⟨some 1, []⟩, [], []⟩ := .call rfl rfl
  have second : CallStep ⟨true, ⟨some 1, []⟩, [], []⟩ ⟨.stop, osdOk, false⟩
      ⟨false, ⟨none, [some 1]⟩, [], []⟩ := .call rfl rfl
  have third : CallStep ⟨false, ⟨none, [some 1]⟩, [], []⟩
      ⟨.start (some 2), osdOk, true⟩ ⟨true, ⟨some 2, [some 1]⟩, [], []⟩ :=
    .call rfl rfl
  exact tellsTruth_iff
    (((Runs.single first).trans (.single second)).trans (.single third))

/-- The address is in use: the start succeeds, and the stop that follows works
on a socket that does not exist. -/
theorem start_addressInUse :
    Runs CallStep .init
        [⟨.start none, osdOk, true⟩, ⟨.stop, osdOk, false⟩]
        ⟨false, ⟨none, [none]⟩, [], []⟩ ∧
      ¬TellsTruth [⟨.start none, osdOk, true⟩, ⟨.stop, osdOk, false⟩]
        ⟨false, ⟨none, [none]⟩, [], []⟩ := by
  constructor
  · have start : CallStep .init ⟨.start none, osdOk, true⟩
        ⟨true, ⟨none, []⟩, [], []⟩ := .call rfl rfl
    have stop : CallStep ⟨true, ⟨none, []⟩, [], []⟩ ⟨.stop, osdOk, false⟩
        ⟨false, ⟨none, [none]⟩, [], []⟩ := .call rfl rfl
    exact (Runs.single start).trans (.single stop)
  · intro h
    exact h.none_not_ended (by simp)

end Osd.HostCtrl
