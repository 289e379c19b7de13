import Osd.Gateway.Forwarding
import Osd.Gateway.Session

/-!
# Registration with the host controller

A gateway registers when it connects and unregisters once for it, whichever
thread ends the connection.  The reply to GW_UNREGISTER is read from the socket
that also carries the packets for the device.
-/

namespace Osd.Gateway

open Osd.Foundation Osd.HostCtrl

/-! ## Balance -/

/-- A session without a connection holds no registration. -/
theorem Session.released {link : Link} {balance : Nat}
    (h : Session link balance) (hconnected : link.connected = false)
    (hwaits : link.waits = none) : balance = 0 := by
  cases h with
  | exited => rfl
  | idle => rfl
  | _ => simp at hconnected hwaits

/-- There are never more GW_UNREGISTER requests than acknowledged GW_REGISTER
requests, and as many when the main thread is not connected and waits for no
reply of the worker. -/
theorem registration_balanced {history : List Action} {s : Threads}
    (run : Runs ServedStep osdGatewayNew history s) :
    s.unregistered ≤ s.acknowledged ∧
      (s.isConnectedToHostctrl = false → waitsFor s.main = none →
        s.unregistered = s.acknowledged) := by
  obtain ⟨balance, hsession, hbalance⟩ := (linked_of_run run).session
  constructor
  · omega
  · intro hconnected hwaits
    have hzero := hsession.released hconnected hwaits
    omega

def disconnecting : List Action :=
  [.call .osdGatewayDisconnect, .main, .mainCancel, .main,
    .workerCommand true true, .hostctrl ackReply, .workerReply, .main]

theorem registration_balanced_one_connection :
    ∃ history s, Runs ServedStep osdGatewayNew history s ∧
      s.acknowledged = 1 ∧ s.unregistered = s.acknowledged := by
  have run : ∃ s, s.acknowledged = 1 ∧ s.isConnectedToHostctrl = false ∧
      waitsFor s.main = none ∧
      performAll (fun _ action => action.served) osdGatewayNew
        (connecting ++ disconnecting) = some s :=
    ⟨_, rfl, rfl, rfl, rfl⟩
  obtain ⟨s, hacknowledged, hconnected, hwaits, hrun⟩ := run
  have hserved := runs_of_performAll hrun
  exact ⟨_, s, hserved, hacknowledged,
    (registration_balanced hserved).2 hconnected hwaits⟩

/-! ## Traffic in flight -/

def Action.delivery : Action → Option Message
  | .hostctrl msg => some msg
  | _ => none

def deliveries (history : List Action) : List Message :=
  history.filterMap Action.delivery

def Action.takesReply : Action → Bool
  | .workerReply => true
  | .workerTimeout => true
  | _ => false

/-- The worker takes a management message for the reply, closes its socket and
reports to the main thread. -/
def Unregisters (s : Threads) : Prop :=
  ∃ s' reply rest, Goes s .workerReply s' ∧
    s.hostctrlSocket = some (reply :: rest) ∧ reply.type = ascii "M" ∧
    s'.hostctrlSocket = none ∧ s'.toMain = s.toMain ++ [disconnectStatus]

/-- While the worker waits for a reply, messages only arrive. -/
structure AwaitsReply (command : GwCommand) (inbox : List Message)
    (s : Threads) : Prop where
  worker : s.worker = .sendCmd command
  socket : s.hostctrlSocket = some inbox

theorem runMainOp_frame {s s' : Threads} {op : MainOp}
    (h : s.runMainOp op = .ok s') :
    s'.worker = s.worker ∧ s'.hostctrlSocket = s.hostctrlSocket := by
  cases op with
  | connectToDevice =>
      obtain ⟨-, h⟩ := assertThat_bind_eq_ok.mp h
      cases h
      exact ⟨rfl, rfl⟩
  | disconnectFromHostctrl =>
      dsimp only [Threads.runMainOp] at h
      split at h
      · split at h <;> cases h <;> exact ⟨rfl, rfl⟩
      · cases h
        exact ⟨rfl, rfl⟩
  | connectToHostctrl =>
      dsimp only [Threads.runMainOp] at h
      split at h
      · cases h
        exact ⟨rfl, rfl⟩
      · split at h <;> cases h <;> exact ⟨rfl, rfl⟩
  | performOutstandingMainThreadTasks =>
      dsimp only [Threads.runMainOp] at h
      split at h <;> cases h <;> exact ⟨rfl, rfl⟩
  | disconnectFromDevice =>
      dsimp only [Threads.runMainOp] at h
      split at h <;> cases h <;> exact ⟨rfl, rfl⟩
  | _ =>
      cases h
      exact ⟨rfl, rfl⟩

theorem waited_frame (s : Threads) (status : Option Status)
    (name : StatusName) :
    (s.waited status name).worker = s.worker ∧
      (s.waited status name).hostctrlSocket = s.hostctrlSocket := by
  unfold Threads.waited Threads.connectFails
  dsimp only
  split
  · split <;> exact ⟨rfl, rfl⟩
  · split <;> exact ⟨rfl, rfl⟩

theorem AwaitsReply.of_frame {command : GwCommand} {inbox : List Message}
    {s s' : Threads} (h : AwaitsReply command inbox s)
    (hframe : s'.worker = s.worker ∧ s'.hostctrlSocket = s.hostctrlSocket) :
    AwaitsReply command (inbox ++ []) s' := by
  rw [List.append_nil]
  exact ⟨hframe.1.trans h.worker, hframe.2.trans h.socket⟩

theorem AwaitsReply.step {command : GwCommand} {inbox : List Message}
    {s s' : Threads} {action : Action} (h : AwaitsReply command inbox s)
    (hgoes : Goes s action s') (htakes : action.takesReply = false) :
    AwaitsReply command (inbox ++ deliveries [action]) s' := by
  have hbusy := h.worker
  unfold Goes at hgoes
  generalize hout : (Except.ok s' : Outcome Threads) = outcome at hgoes
  cases hgoes with
  | call hmain =>
      cases hout
      exact h.of_frame ⟨rfl, rfl⟩
  | main hmain hop =>
      have hframe := runMainOp_frame hout.symm
      exact h.of_frame hframe
  | join hmain hrx =>
      cases hout
      exact h.of_frame ⟨rfl, rfl⟩
  | cancel hmain hrx =>
      cases hout
      exact h.of_frame ⟨rfl, rfl⟩
  | receive hmain htoMain =>
      cases hout
      exact h.of_frame (waited_frame _ _ _)
  | timeout hmain htoMain =>
      cases hout
      exact h.of_frame (waited_frame _ _ _)
  | rxRead hrx =>
      unfold Threads.devicerxthreadRead at hout
      obtain ⟨event, -, hout⟩ := bind_eq_ok.mp hout.symm
      cases event <;> cases hout <;> exact h.of_frame ⟨rfl, rfl⟩
  | rxQueue hrx =>
      cases hout
      exact h.of_frame ⟨rfl, rfl⟩
  | rxCount hrx =>
      cases hout
      exact h.of_frame ⟨rfl, rfl⟩
  | workerReply hworker hsocket => cases htakes
  | workerTimeout hworker hsocket => cases htakes
  | workerCommand hworker _ => simp [hworker] at hbusy
  | workerReceive hworker _ => simp [hworker] at hbusy
  | workerReceiveLeaked hworker _ => simp [hworker] at hbusy
  | workerForward hworker _ => simp [hworker] at hbusy
  | workerSignal hworker => simp [hworker] at hbusy
  | workerStop hworker => simp [hworker] at hbusy
  | workerEnd hworker => simp [hworker] at hbusy
  | hostctrl hsocket =>
      cases hout
      obtain rfl := Option.some.inj (h.socket.symm.trans hsocket)
      exact ⟨hbusy, rfl⟩

theorem AwaitsReply.run {command : GwCommand} {inbox : List Message}
    {s s' : Threads} {history : List Action}
    (h : AwaitsReply command inbox s) (run : Runs Goes s history s')
    (htakes : ∀ action ∈ history, action.takesReply = false) :
    AwaitsReply command (inbox ++ deliveries history) s' := by
  induction run with
  | refl => simpa [deliveries] using h
  | @snoc history before after event run hstep ih =>
      have hbefore := ih fun action hmem => htakes action (by simp [hmem])
      have hafter := hbefore.step hstep (htakes event (by simp))
      rwa [List.append_assoc, deliveries, deliveries,
        ← List.filterMap_append] at hafter

/-- The worker has sent GW_UNREGISTER. -/
theorem awaitsReply_of_disconnect {s s' : Threads} {writeFailed : Bool}
    {waiting : List Message} (hsocket : s.hostctrlSocket = some waiting)
    (h : s.hostiothreadDisconnectFromHostctrl writeFailed true = .ok s') :
    AwaitsReply (.gwUnregister writeFailed) waiting s' := by
  unfold Threads.hostiothreadDisconnectFromHostctrl at h
  obtain ⟨-, h⟩ := assertThat_bind_eq_ok.mp h
  cases h
  exact ⟨rfl, hsocket⟩

theorem AwaitsReply.type_of_unregisters {command : GwCommand}
    {first : Message} {rest : List Message} {s : Threads}
    (h : AwaitsReply command (first :: rest) s) (hdone : Unregisters s) :
    first.type = ascii "M" := by
  obtain ⟨s', reply, others, -, hsocket, htype, -⟩ := hdone
  obtain ⟨rfl, -⟩ : reply = first ∧ others = rest := by
    simpa using hsocket.symm.trans h.socket
  exact htype

theorem AwaitsReply.unregisters {writeFailed : Bool} {first : Message}
    {rest : List Message} {s : Threads}
    (h : AwaitsReply (.gwUnregister writeFailed) (first :: rest) s)
    (htype : first.type = ascii "M") (hframes : first.frames ≠ []) :
    Unregisters s := by
  obtain ⟨status, frames, hfirst⟩ := List.exists_cons_of_ne_nil hframes
  have hreply : ∃ rv, sendCmdReply (some first) = .ok rv := by
    unfold sendCmdReply
    dsimp only
    rw [assertThat_bind htype, hfirst]
    exact ⟨_, rfl⟩
  obtain ⟨rv, hrv⟩ := hreply
  have hstep := GatewayStep.workerReply h.worker h.socket
  rw [hrv, ok_bind] at hstep
  exact ⟨_, first, rest, hstep, h.socket, htype, rfl, rfl⟩

/-- While the worker waits, the host controller puts data messages in front of
its reply.  The worker unregisters if and only if there is none. -/
theorem unregisters_iff_no_data_ahead {before entered s : Threads}
    {writeFailed : Bool} {history : List Action}
    {waiting ahead : List Message} {reply : Message}
    (hsocket : before.hostctrlSocket = some waiting)
    (hentered : before.hostiothreadDisconnectFromHostctrl writeFailed true =
      .ok entered)
    (run : Runs Goes entered history s)
    (htakes : ∀ action ∈ history, action.takesReply = false)
    (hfifo : waiting ++ deliveries history <+: ahead ++ [reply])
    (harrived : waiting ++ deliveries history ≠ [])
    (hahead : ∀ msg ∈ ahead, msg.type = ascii "D")
    (hreply : reply.type = ascii "M" ∧ reply.frames ≠ []) :
    Unregisters s ↔ ahead = [] := by
  have hawaits := (awaitsReply_of_disconnect hsocket hentered).run run htakes
  obtain ⟨first, rest, hinbox⟩ := List.exists_cons_of_ne_nil harrived
  rw [hinbox] at hawaits hfifo
  cases ahead with
  | nil =>
      obtain ⟨rfl, -⟩ : first = reply ∧ rest = [] := by simpa using hfifo
      simpa using hawaits.unregisters hreply.1 hreply.2
  | cons msg others =>
      obtain ⟨rfl, -⟩ : first = msg ∧ rest <+: others ++ [reply] := by
        simpa using hfifo
      have hdata := hahead first (by simp)
      refine iff_of_false (fun hdone => ?_) (by simp)
      have hmanagement := hawaits.type_of_unregisters hdone
      rw [hdata] at hmanagement
      simp [ascii] at hmanagement

def disconnectCalled : List Action :=
  connecting ++ [.call .osdGatewayDisconnect, .main, .mainCancel, .main]

theorem unregisters_without_traffic :
    ∃ s, s.hostctrlSocket = some [ackReply] ∧ Unregisters s := by
  have run : ∃ before entered s : Threads,
      performAll (fun _ _ => true) osdGatewayNew disconnectCalled =
        some before ∧ before.hostctrlSocket = some [] ∧
      before.hostiothreadDisconnectFromHostctrl false true = .ok entered ∧
      performAll (fun _ _ => true) entered [.hostctrl ackReply] = some s ∧
      s.hostctrlSocket = some [ackReply] :=
    ⟨_, _, _, rfl, rfl, rfl, rfl, rfl⟩
  obtain ⟨before, entered, s, -, hsocket, hentered, hrun, hinbox⟩ := run
  refine ⟨s, hinbox, (unregisters_iff_no_data_ahead hsocket hentered
    ((runs_of_performAll hrun).mono fun _ _ _ h => h.1) ?_ ?_ ?_ ?_
    (⟨rfl, by simp [ackReply]⟩ :
      ackReply.type = ascii "M" ∧ ackReply.frames ≠ [])).mpr rfl⟩
  · simp [Action.takesReply]
  · simp [deliveries, Action.delivery]
  · simp [deliveries, Action.delivery]
  · simp

def dataMessage : Message := ⟨ascii "D", [[0, 4, 0, 0, 0, 0x80]]⟩

theorem not_unregisters_data_ahead :
    ∃ history s, Runs Goes osdGatewayNew history s ∧
      s.worker = .sendCmd (.gwUnregister false) ∧
      s.hostctrlSocket = some [dataMessage, ackReply] ∧ ¬Unregisters s ∧
      GatewayStep s .workerReply (.error .assertion) := by
  have run : ∃ s, s.worker = .sendCmd (.gwUnregister false) ∧
      s.hostctrlSocket = some [dataMessage, ackReply] ∧
      perform s .workerReply = some (.error .assertion) ∧
      performAll (fun _ _ => true) osdGatewayNew
        (disconnectCalled ++ [.workerCommand true true,
          .hostctrl dataMessage, .hostctrl ackReply]) = some s :=
    ⟨_, rfl, rfl, rfl, rfl⟩
  obtain ⟨s, hworker, hsocket, hfails, hrun⟩ := run
  refine ⟨_, s, (runs_of_performAll hrun).mono fun _ _ _ h => h.1, hworker,
    hsocket, fun hdone => ?_, step_of_perform hfails⟩
  have htype := AwaitsReply.type_of_unregisters ⟨hworker, hsocket⟩ hdone
  simp [dataMessage, ascii] at htype

end Osd.Gateway
