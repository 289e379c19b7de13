import Osd.WorkerLifetime

/-!
# Answers to the commands of a worker

As long as no wait runs out of time, every call gets the answer to its own
command, and the worker ends in order.  A wait that does run out leaves one
answer behind, and from then on every later wait gets an older one.
-/

namespace Osd.WorkerLifetime

open Osd.Foundation

variable {U δ : Type}

/-! ## Invariants of a run -/

section Invariants

variable {handlers : WorkerHandlers U δ} {s before after : Worker U δ}
  {event : WorkerEvent δ} {history : List (WorkerEvent δ)} {usr : U}

theorem sent_known (hstep : WorkerStep handlers before event after) :
    ∀ msg ∈ event.sent, msg.name = shutdown ∨ handlers.knows msg := by
  cases hstep with
  | sends _ _ hknown =>
      intro msg hmem
      rw [WorkerEvent.sent, List.mem_singleton] at hmem
      exact .inr (hmem ▸ hknown)
  | calls _ _ _ hknown =>
      intro msg hmem
      rw [WorkerEvent.sent, List.mem_singleton] at hmem
      exact .inr (hmem ▸ hknown)
  | frees =>
      intro msg hmem
      rw [WorkerEvent.sent, List.mem_singleton] at hmem
      exact .inl (hmem ▸ rfl)
  | _ =>
      intro msg hmem
      cases hmem

theorem valued_step (hanswering : handlers.Answering)
    (hstep : WorkerStep handlers before event after)
    (h : ∀ msg ∈ before.toMain, msg.Valued) :
    ∀ msg ∈ after.toMain, msg.Valued := by
  cases hstep with
  | skips _ htoMain | takes _ htoMain | receives _ htoMain =>
      intro msg hmem
      refine h msg ?_
      rw [htoMain]
      exact List.mem_cons_of_mem _ hmem
  | givesUp =>
      rw [toMain_resumed]
      exact h
  | handles _ _ _ hhandled =>
      intro msg hmem
      rcases List.mem_append.mp hmem with hold | hnew
      · exact h msg hold
      · exact hanswering.valued _ _ _ _ hhandled msg hnew
  | reads _ hread =>
      intro msg hmem hstatus
      rcases List.mem_append.mp hmem with hold | hnew
      · exact h msg hold hstatus
      · have hnone := hanswering.readers _ _ _ hread
        rw [statuses, List.filter_eq_nil_iff] at hnone
        exact absurd hstatus (hnone msg hnew)
  | shutsDown | interrupted =>
      intro msg hmem hstatus
      rcases List.mem_append.mp hmem with hold | hnew
      · exact h msg hold hstatus
      · rw [List.mem_singleton] at hnew
        exact ⟨_, _, hnew⟩
  | _ => exact h

theorem Consistent.step (hanswering : handlers.Answering)
    (h : Consistent handlers before)
    (hstep : UndisturbedStep handlers before event after) :
    Consistent handlers after where
  fits := h.fits.step hstep
  known := by
    intro msg hmem
    have hall := conveys_toWorker before event after hstep.1
    have hbefore : msg ∈ before.toWorker ++ event.sent := by
      rw [hall]
      exact List.mem_append_right _ hmem
    rcases List.mem_append.mp hbefore with hold | hnew
    · exact h.known msg hold
    · exact sent_known hstep.1 msg hnew
  valued := valued_step hanswering hstep.1 h.valued

theorem consistent_started : Consistent handlers (.started usr) where
  fits := ⟨⟨usr, rfl⟩, fun _ hmem => (List.not_mem_nil hmem).elim, rfl⟩
  known := fun _ hmem => (List.not_mem_nil hmem).elim
  valued := fun _ hmem => (List.not_mem_nil hmem).elim

theorem consistent_of_run (hanswering : handlers.Answering)
    (run : Runs (UndisturbedStep handlers) (.started usr) history s) :
    Consistent handlers s := by
  induction run with
  | refl => exact consistent_started
  | snoc _ hstep ih => exact ih.step hanswering hstep

/-! ### What has been asked for -/

def askedIn (history : List (WorkerEvent δ)) : List String :=
  history.flatMap WorkerEvent.asked

def answersIn (history : List (WorkerEvent δ)) : List (WorkerMsg δ) :=
  history.flatMap WorkerEvent.answers

def takenIn (history : List (WorkerEvent δ)) : List (WorkerMsg δ) :=
  history.flatMap WorkerEvent.taken

/-- The number of waits that came to nothing. -/
def lateness (history : List (WorkerEvent δ)) : Nat :=
  history.countP WorkerEvent.late

def AskedBy (asked : List String) : MainPhase → Prop
  | .idle => doneName shutdown ∉ asked
  | .calling name =>
      ∃ front, asked = front ++ [doneName name] ∧ doneName shutdown ∉ asked
  | .freeing | .joining | .freed =>
      ∃ front, asked = front ++ [doneName shutdown] ∧
        doneName shutdown ∉ front
  | .aborted => True

theorem AskedBy.resumed {asked : List String} {name : String}
    {rv : OsdResult} (h : AskedBy asked s.main)
    (hawaited : s.main.awaited = some name) :
    AskedBy asked (s.resumed rv).main := by
  cases hmain : s.main with
  | calling command =>
      rw [hmain] at h
      obtain ⟨front, -, hnot⟩ := h
      simp only [Worker.resumed, hmain]
      exact hnot
  | freeing =>
      rw [hmain] at h
      simp only [Worker.resumed, hmain]
      exact h
  | idle | joining | freed | aborted =>
      rw [hmain] at hawaited
      cases hawaited

theorem asked_nil (hstep : WorkerStep handlers before event after)
    (hcalls : ∀ name value, event ≠ .calls name value)
    (hfrees : event ≠ .frees) : event.asked = [] := by
  cases hstep with
  | sends _ hdata => simp [WorkerEvent.asked, WorkerEvent.sent, statuses, hdata]
  | calls => exact absurd rfl (hcalls _ _)
  | frees => exact absurd rfl hfrees
  | _ => rfl

theorem AskedBy.step {asked : List String} (h : AskedBy asked before.main)
    (hfits : Fits before)
    (hstep : UndisturbedStep handlers before event after) :
    AskedBy (asked ++ event.asked) after.main := by
  cases hthread : event.byThread with
  | true =>
      have hnone : event.asked = [] := asked_nil hstep.1
        (fun _ _ hevent => by rw [hevent] at hthread; cases hthread)
        (fun hevent => by rw [hevent] at hthread; cases hthread)
      rw [hnone, List.append_nil, (frame_of_byThread hstep.1 hthread).1]
      exact h
  | false =>
      obtain ⟨hstep, -⟩ := hstep
      have hnone := asked_nil hstep
      cases hstep with
      | @calls name value hmain hstatus hname =>
          rw [hmain] at h
          have hnot : doneName shutdown ≠ doneName name :=
            fun hsame => hname (doneName_inj.mp hsame).symm
          have hone : (WorkerEvent.calls name value : WorkerEvent δ).asked =
              [doneName name] := by
            simp [WorkerEvent.asked, WorkerEvent.sent, statuses,
              WorkerMsg.isStatus, WorkerMsg.name, hstatus]
          rw [hone]
          refine ⟨asked, rfl, ?_⟩
          rw [List.mem_append, List.mem_singleton]
          exact not_or.mpr ⟨h, hnot⟩
      | frees hmain =>
          rw [hmain] at h
          have hcommand :
              (WorkerMsg.status shutdown 0 : WorkerMsg δ).isStatus = true :=
            isStatus_of_shutdown rfl
          have hone : (WorkerEvent.frees : WorkerEvent δ).asked =
              [doneName shutdown] := by
            simp [WorkerEvent.asked, WorkerEvent.sent, statuses, hcommand,
              WorkerMsg.name]
          rw [hone]
          exact ⟨asked, rfl, h⟩
      | sends | refused | skips | receives =>
          rw [hnone (by simp) (by simp), List.append_nil]
          exact h
      | takes hawaited =>
          rw [hnone (by simp) (by simp), List.append_nil]
          exact h.resumed hawaited
      | givesUp hawaited =>
          rw [hnone (by simp) (by simp), List.append_nil]
          exact h.resumed hawaited
      | abortsReceive | abortsWait => trivial
      | freesEnded hmain hended =>
          rw [(hfits.serving hmain).running] at hended
          cases hended
      | joins hmain =>
          rw [hmain] at h
          rw [hnone (by simp) (by simp), List.append_nil]
          exact h
      | _ => cases hthread

theorem asked_of_run (hanswering : handlers.Answering)
    (run : Runs (UndisturbedStep handlers) (.started usr) history s) :
    AskedBy (askedIn history) s.main := by
  induction run with
  | refl => exact List.not_mem_nil
  | @snoc history before after event run hstep ih =>
      rw [askedIn, List.flatMap_append, List.flatMap_singleton]
      exact ih.step (consistent_of_run hanswering run).fits hstep

end Invariants

/-! ## Which answer a wait gets -/

section Answers

variable {handlers : WorkerHandlers U δ} {s : Worker U δ}
  {history : List (WorkerEvent δ)} {usr : U} {name : String}
  {msg : WorkerMsg δ} {rest : List (WorkerMsg δ)}

theorem awaited_not_aborted (h : s.main.awaited = some name) :
    s.main ≠ .aborted := by
  intro haborted
  rw [haborted] at h
  cases h

theorem lag_of_run
    (run : Runs (UndisturbedStep handlers) (.started usr) history s)
    (h : s.main ≠ .aborted) :
    (askedIn history).length =
      (takenIn history).length + lateness history + s.main.pending :=
  counts_of_run (run.mono fun _ _ _ hstep => hstep.1) h

theorem length_awaiting (hanswering : handlers.Answering)
    (run : Runs (UndisturbedStep handlers) (.started usr) history s)
    (h : s.main ≠ .aborted) :
    (awaiting s).length = lateness history + s.main.pending := by
  have hall := congrArg List.length ((conveys_awaiting hanswering).run run)
  have hlag := lag_of_run run h
  have htaken : (history.flatMap fun event =>
      event.taken.map WorkerMsg.name).length = (takenIn history).length := by
    rw [takenIn, ← List.map_flatMap, List.length_map]
  rw [List.length_append, List.length_append, htaken] at hall
  change 0 + (askedIn history).length = _ at hall
  omega

/-- The place, in the order of the commands, of the one that the next answer
belongs to. -/
theorem taken_place (hanswering : handlers.Answering)
    (run : Runs (UndisturbedStep handlers) (.started usr) history s)
    (htoMain : s.toMain = msg :: rest) (hstatus : msg.isStatus = true) :
    (askedIn history)[(takenIn history).length]? = some msg.name ∧
      (answersIn history)[(takenIn history).length]? = some msg := by
  have hnext : statuses s.toMain = msg :: statuses rest := by
    rw [htoMain, statuses, List.filter_cons, if_pos hstatus]
    rfl
  constructor
  · have hcarried : awaiting s = msg.name ::
        ((statuses rest).map WorkerMsg.name ++
          (statuses s.toWorker).map fun msg => doneName msg.name) := by
      rw [awaiting, hnext]
      rfl
    have hplace := (conveys_awaiting hanswering).next run rfl hcarried
    rwa [← List.map_flatMap, List.length_map] at hplace
  · exact conveys_answers.next (run.mono fun _ _ _ hstep => hstep.1) rfl hnext

/-- Only one answer tells of the shutdown, and it is the last. -/
theorem taken_shutdown (hanswering : handlers.Answering)
    (run : Runs (UndisturbedStep handlers) (.started usr) history s)
    (hmain : s.main = .freeing) (htoMain : s.toMain = msg :: rest)
    (hstatus : msg.isStatus = true) :
    msg.name = doneName shutdown ↔ lateness history = 0 := by
  have hplace := (taken_place hanswering run htoMain hstatus).1
  have hlag := lag_of_run run (by simp [hmain])
  have hasked := asked_of_run hanswering run
  rw [hmain] at hasked
  obtain ⟨front, hfront, hnot⟩ := hasked
  have hpending : s.main.pending = 1 := by
    rw [hmain]
    rfl
  rw [hpending] at hlag
  have hlength := congrArg List.length hfront
  rw [List.length_append, List.length_singleton] at hlength
  rw [hfront] at hplace
  constructor
  · intro hname
    by_contra hlate
    have hearlier : (takenIn history).length < front.length := by omega
    rw [List.getElem?_append_left hearlier, hname] at hplace
    exact hnot (List.mem_of_getElem? hplace)
  · intro hlate
    have hlast : (takenIn history).length = front.length := by omega
    rw [hlast, List.getElem?_concat_length] at hplace
    exact (Option.some.inj hplace).symm

theorem lateness_snoc {event : WorkerEvent δ} (h : event.late = false) :
    lateness (history ++ [event]) = lateness history := by
  simp [lateness, h]

theorem not_awaited {phase : MainPhase}
    (h : phase = .joining ∨ phase = .freed) : phase.awaited = none := by
  rcases h with rfl | rfl <;> rfl

theorem freeing_of_resumed {rv : OsdResult}
    (hawaited : s.main.awaited = some name)
    (h : (s.resumed rv).main = .joining ∨ (s.resumed rv).main = .freed) :
    s.main = .freeing ∧ (s.resumed rv).cancelRequested = osdFailed rv := by
  cases hmain : s.main with
  | calling command => simp [Worker.resumed, hmain] at h
  | freeing => simp [Worker.resumed, hmain]
  | idle | joining | freed | aborted =>
      rw [hmain] at hawaited
      cases hawaited

/-- The thread is cancelled exactly when some wait came to nothing. -/
theorem cancelRequested_iff (hanswering : handlers.Answering)
    (run : Runs (UndisturbedStep handlers) (.started usr) history s)
    (h : s.main = .joining ∨ s.main = .freed) :
    s.cancelRequested = true ↔ 0 < lateness history := by
  induction run with
  | refl => simp [Worker.started] at h
  | @snoc history before after event run hstep ih =>
      cases hthread : event.byThread with
      | true =>
          obtain ⟨hmain, hcancel⟩ := frame_of_byThread hstep.1 hthread
          have hlate : event.late = false := by
            cases event <;> first | rfl | cases hthread
          rw [hcancel, lateness_snoc hlate]
          exact ih (hmain ▸ h)
      | false =>
          have hfits := (consistent_of_run hanswering run).fits
          obtain ⟨hstep, -⟩ := hstep
          cases hstep with
          | sends hmain | refused hmain | receives hmain =>
              simp [hmain] at h
          | calls | abortsReceive | abortsWait | frees => simp at h
          | skips hawaited =>
              rw [not_awaited h] at hawaited
              cases hawaited
          | freesEnded hmain hended =>
              rw [(hfits.serving hmain).running] at hended
              cases hended
          | joins hmain =>
              rw [lateness_snoc rfl]
              exact ih (.inl hmain)
          | @takes name old value rv msg rest hawaited htoMain hturn =>
              obtain ⟨hmain, hcancel⟩ := freeing_of_resumed hawaited h
              obtain ⟨hstatus, hturned⟩ := waitTurn_eq_ok hturn
              have hlast :=
                taken_shutdown hanswering run hmain htoMain hstatus
              obtain rfl : doneName shutdown = name := by
                rw [hmain] at hawaited
                exact Option.some.inj hawaited
              rw [lateness_snoc rfl, Nat.pos_iff_ne_zero, Ne, ← hlast]
              change (before.resumed rv).cancelRequested = true ↔ _
              rw [hcancel]
              rcases hturned with ⟨rfl, rfl⟩ | ⟨hname, rfl⟩
              · simp [WorkerMsg.name, osdFailed, osdOk]
              · simp [hname, osdFailed, osdErrorFailure]
          | @givesUp name rv hawaited _ hrv =>
              obtain ⟨hmain, hcancel⟩ := freeing_of_resumed hawaited h
              have hlate : 0 < lateness (history ++ [.givesUp rv]) := by
                simp [lateness, WorkerEvent.late]
              rw [hcancel]
              refine iff_of_true ?_ hlate
              rcases hrv with rfl | rfl <;> decide
          | _ => cases hthread

end Answers

/-! ## Runs in time -/

section Timely

variable {handlers : WorkerHandlers U δ} {s before after : Worker U δ}
  {event : WorkerEvent δ} {history : List (WorkerEvent δ)} {usr : U}
  {name : String} {msg : WorkerMsg δ} {rest : List (WorkerMsg δ)}

theorem undisturbed_of_timely
    (run : Runs (TimelyStep handlers) before history after) :
    Runs (UndisturbedStep handlers) before history after :=
  run.mono fun _ _ _ hstep => hstep.1

theorem lateness_of_timely
    (run : Runs (TimelyStep handlers) before history after) :
    lateness history = 0 := by
  induction run with
  | refl => rfl
  | snoc _ hstep ih => rw [lateness_snoc hstep.2, ih]

theorem length_awaiting_timely (hanswering : handlers.Answering)
    (run : Runs (TimelyStep handlers) (.started usr) history s)
    (h : s.main ≠ .aborted) : (awaiting s).length = s.main.pending := by
  rw [length_awaiting hanswering (undisturbed_of_timely run) h,
    lateness_of_timely run, Nat.zero_add]

theorem length_awaiting_pos (htoMain : s.toMain = msg :: rest)
    (hstatus : msg.isStatus = true) : 0 < (awaiting s).length := by
  simp [awaiting, statuses, htoMain, hstatus]

theorem not_aborted (hanswering : handlers.Answering)
    (run : Runs (TimelyStep handlers) (.started usr) history s) :
    s.main ≠ .aborted := by
  induction run with
  | refl => exact MainPhase.noConfusion
  | @snoc history before after event run hstep ih =>
      have hconsistent :=
        consistent_of_run hanswering (undisturbed_of_timely run)
      obtain ⟨⟨hstep, -⟩, -⟩ := hstep
      cases hstep with
      | abortsReceive hmain htoMain hstatus =>
          have hnone := length_awaiting_timely hanswering run ih
          have hsome := length_awaiting_pos htoMain hstatus
          rw [hnone, hmain] at hsome
          cases hsome
      | abortsWait _ htoMain hturn =>
          obtain ⟨hstatus, frame, rfl⟩ := waitTurn_eq_error hturn
          have hvalued := hconsistent.valued _
            (by rw [htoMain]; exact List.mem_cons_self)
          obtain ⟨_, _, hother⟩ := hvalued hstatus
          cases hother
      | takes hawaited | givesUp hawaited =>
          intro haborted
          unfold Worker.resumed at haborted
          split at haborted
          · cases haborted
          · cases haborted
          · exact ih haborted
      | _ => first | exact ih | exact MainPhase.noConfusion

theorem kept_of_timely (hanswering : handlers.Answering)
    (run : Runs (TimelyStep handlers) (.started usr) history s) :
    s.cancelRequested = false := by
  have hrun := undisturbed_of_timely run
  have hfits := (consistent_of_run hanswering hrun).fits
  have hlast : s.main = .joining ∨ s.main = .freed →
      s.cancelRequested = false := by
    intro h
    have hiff := cancelRequested_iff hanswering hrun h
    rw [lateness_of_timely run] at hiff
    cases hcancel : s.cancelRequested with
    | false => rfl
    | true => exact absurd (hiff.mp hcancel) (Nat.lt_irrefl 0)
  unfold Fits at hfits
  cases hmain : s.main with
  | idle | calling _ =>
      rw [hmain] at hfits
      exact hfits.kept
  | freeing =>
      rw [hmain] at hfits
      exact hfits.2
  | joining => exact hlast (.inl hmain)
  | freed => exact hlast (.inr hmain)
  | aborted => exact absurd hmain (not_aborted hanswering run)

/-! ### Every call gets its own answer -/

/-- A wait ends with the value of the last answer, and this belongs to the
last command. -/
def OwnAnswers (history : List (WorkerEvent δ)) : Prop :=
  ∀ earlier msg rv value later,
    history = earlier ++ .takes msg rv value :: later →
      rv = osdOk ∧ ∃ name, msg = .status name value ∧
        (askedIn earlier).getLast? = some name ∧
          (answersIn earlier).getLast? = some msg

theorem AskedBy.last {asked : List String} {phase : MainPhase}
    (h : AskedBy asked phase) (hawaited : phase.awaited = some name) :
    asked.getLast? = some name := by
  cases phase with
  | calling command =>
      obtain ⟨front, hfront, -⟩ := h
      rw [hfront, List.getLast?_concat]
      exact hawaited
  | freeing =>
      obtain ⟨front, hfront, -⟩ := h
      rw [hfront, List.getLast?_concat]
      exact hawaited
  | idle | joining | freed | aborted => cases hawaited

theorem ownAnswers_of_run (hanswering : handlers.Answering)
    (run : Runs (TimelyStep handlers) (.started usr) history s) :
    OwnAnswers history := by
  rintro earlier msg rv value later rfl
  obtain ⟨before, after, hbefore, hstep, -⟩ := run.step_at
  have hrun := undisturbed_of_timely hbefore
  cases hstep.1.1 with
  | @takes name old _ _ _ rest hawaited htoMain hturn =>
      obtain ⟨hstatus, hturned⟩ := waitTurn_eq_ok hturn
      have hplace := (taken_place hanswering hrun htoMain hstatus).1
      have hlag := lag_of_run hrun (awaited_not_aborted hawaited)
      rw [lateness_of_timely hbefore, pending_awaited hawaited] at hlag
      have hlast := (asked_of_run hanswering hrun).last hawaited
      rw [List.getLast?_eq_getElem?, hlag] at hlast
      have hname : msg.name = name := by
        have hsame := hplace.symm.trans hlast
        exact Option.some.inj hsame
      obtain ⟨rfl, rfl⟩ : msg = .status name value ∧ rv = osdOk := by
        rcases hturned with hown | ⟨hother, -⟩
        · exact hown
        · exact absurd hname hother
      refine ⟨rfl, name, rfl, (asked_of_run hanswering hrun).last hawaited, ?_⟩
      have hawaiting := length_awaiting_timely hanswering hbefore
        (awaited_not_aborted hawaited)
      rw [pending_awaited hawaited] at hawaiting
      have hnone : statuses rest = [] := by
        rw [awaiting, htoMain, statuses, List.filter_cons, if_pos hstatus,
          List.length_append, List.length_map, List.length_cons] at hawaiting
        exact List.length_eq_zero_iff.mp (by unfold statuses; omega)
      have hcarried : statuses before.toMain = [.status name value] := by
        rw [htoMain, statuses, List.filter_cons, if_pos hstatus]
        exact congrArg (List.cons _) hnone
      have hanswers := conveys_answers.run
        (hrun.mono fun _ _ _ hstep => hstep.1)
      change [] ++ answersIn earlier =
        takenIn earlier ++ statuses before.toMain at hanswers
      rw [List.nil_append, hcarried] at hanswers
      rw [hanswers, List.getLast?_concat]

/-! ### The end of a worker -/

def ThreadPhase.destroyed : ThreadPhase U → Nat
  | .looping _ => 0
  | _ => 1

theorem destroys_step (hstep : WorkerStep handlers before event after)
    (h : after.thread ≠ .cancelled) :
    before.thread ≠ .cancelled ∧
      before.thread.destroyed + event.destroys.toNat =
        after.thread.destroyed := by
  cases hstep with
  | handles hthread | reads hthread | shutsDown hthread
  | interrupted hthread | exits hthread =>
      rw [hthread]
      exact ⟨by simp, rfl⟩
  | cancelled => exact absurd rfl h
  | takes | givesUp =>
      rw [thread_resumed] at h ⊢
      exact ⟨h, rfl⟩
  | _ => exact ⟨h, rfl⟩

theorem destroys_of_run
    (run : Runs (WorkerStep handlers) (.started usr) history s)
    (h : s.thread ≠ .cancelled) :
    history.countP WorkerEvent.destroys = s.thread.destroyed := by
  induction run with
  | refl => rfl
  | @snoc history before after event _ hstep ih =>
      obtain ⟨hbefore, hone⟩ := destroys_step hstep h
      have hevent : List.countP WorkerEvent.destroys [event] =
          event.destroys.toNat := by
        cases hcase : event.destroys <;> simp [hcase]
      rw [List.countP_append, ih hbefore, hevent, hone]

theorem freed_of_timely (hanswering : handlers.Answering)
    (run : Runs (TimelyStep handlers) (.started usr) history s)
    (hmain : s.main = .joining ∨ s.main = .freed) :
    (s.thread = .closing ∨ s.thread = .ended) ∧ s.toWorker = [] := by
  have hrun := undisturbed_of_timely run
  have hfits := (consistent_of_run hanswering hrun).fits
  have hshutting : ShuttingDown s := by
    unfold Fits at hfits
    rcases hmain with hmain | hmain
    · rw [hmain] at hfits
      exact hfits
    · rw [hmain] at hfits
      exact hfits.1
  cases hshutting with
  | told _ htoWorker =>
      have hnone := length_awaiting_timely hanswering run
        (not_aborted hanswering run)
      have hcommand :
          (WorkerMsg.status shutdown 0 : WorkerMsg δ).isStatus = true :=
        isStatus_of_shutdown rfl
      rw [MainPhase.pending, not_awaited hmain] at hnone
      simp [awaiting, statuses, htoWorker, hcommand] at hnone
  | left hleft htoWorker => exact ⟨hleft, htoWorker⟩
  | cancelled _ hrequest =>
      rw [kept_of_timely hanswering run] at hrequest
      cases hrequest

/-! ### A worker can always be freed -/

def Reached (handlers : WorkerHandlers U δ) (usr : U) (s : Worker U δ) :
    Prop :=
  ∃ history, Runs (TimelyStep handlers) (.started usr) history s

def Leads (handlers : WorkerHandlers U δ) (s : Worker U δ)
    (goal : Worker U δ → Prop) : Prop :=
  ∃ later final, Runs (TimelyStep handlers) s later final ∧ goal final

theorem Reached.step (h : Reached handlers usr before)
    (hstep : TimelyStep handlers before event after) :
    Reached handlers usr after := by
  obtain ⟨history, run⟩ := h
  exact ⟨_, run.snoc hstep⟩

theorem Leads.bind {goal goal' : Worker U δ → Prop}
    (hreached : Reached handlers usr s) (h : Leads handlers s goal)
    (hnext : ∀ t, Reached handlers usr t → goal t →
      Leads handlers t goal') : Leads handlers s goal' := by
  obtain ⟨history, hrun⟩ := hreached
  obtain ⟨later, middle, run, hgoal⟩ := h
  obtain ⟨last, final, run', hgoal'⟩ :=
    hnext middle ⟨_, hrun.trans run⟩ hgoal
  exact ⟨later ++ last, final, run.trans run', hgoal'⟩

theorem Leads.next {goal : Worker U δ → Prop}
    (hstep : TimelyStep handlers before event after)
    (h : Leads handlers after goal) : Leads handlers before goal := by
  obtain ⟨later, final, run, hgoal⟩ := h
  exact ⟨event :: later, final, (Runs.single hstep).trans run, hgoal⟩

theorem Reached.looping (hanswering : handlers.Answering)
    (h : Reached handlers usr s) (htoWorker : s.toWorker ≠ []) :
    ∃ usr, s.thread = .looping usr := by
  obtain ⟨history, run⟩ := h
  have hfits :=
    (consistent_of_run hanswering (undisturbed_of_timely run)).fits
  unfold Fits at hfits
  cases hmain : s.main with
  | idle | calling _ =>
      rw [hmain] at hfits
      exact hfits.looping
  | freeing =>
      rw [hmain] at hfits
      cases hfits.1 with
      | told hthread => exact ⟨_, hthread⟩
      | left _ hempty => exact absurd hempty htoWorker
      | cancelled _ hrequest =>
          rw [hfits.2] at hrequest
          cases hrequest
  | joining =>
      exact absurd (freed_of_timely hanswering run (.inl hmain)).2 htoWorker
  | freed =>
      exact absurd (freed_of_timely hanswering run (.inr hmain)).2 htoWorker
  | aborted => exact absurd hmain (not_aborted hanswering run)

theorem serves_next (hanswering : handlers.Answering)
    (htotal : handlers.Total) {phase : MainPhase}
    (h : Reached handlers usr s ∧ s.main = phase)
    (htoWorker : s.toWorker = msg :: rest) :
    ∃ event s', TimelyStep handlers s event s' ∧
      (Reached handlers usr s' ∧ s'.main = phase) ∧ s'.toWorker = rest := by
  obtain ⟨hreached, hmain⟩ := h
  obtain ⟨loop, hthread⟩ := hreached.looping hanswering
    (by rw [htoWorker]; exact List.cons_ne_nil _ _)
  obtain ⟨history, run⟩ := hreached
  by_cases hname : msg.name = shutdown
  · have hgoes : TimelyStep handlers s (.shutsDown msg) _ :=
      ⟨⟨.shutsDown hthread htoWorker hname, rfl⟩, rfl⟩
    exact ⟨_, _, hgoes, ⟨⟨_, run.snoc hgoes⟩, hmain⟩, rfl⟩
  · have hknown :=
      (consistent_of_run hanswering (undisturbed_of_timely run)).known
        msg (by rw [htoWorker]; exact List.mem_cons_self)
    obtain ⟨usr', sent, hhandled⟩ :=
      htotal loop msg (hknown.resolve_left hname)
    have hgoes : TimelyStep handlers s (.handles msg sent) _ :=
      ⟨⟨.handles hthread htoWorker hname hhandled, rfl⟩, rfl⟩
    exact ⟨_, _, hgoes, ⟨⟨_, run.snoc hgoes⟩, hmain⟩, rfl⟩

/-- The thread comes to the end of its queue, whatever the main thread does
meanwhile. -/
theorem leads_emptied (hanswering : handlers.Answering)
    (htotal : handlers.Total) (h : Reached handlers usr s) :
    Leads handlers s fun t => t.main = s.main ∧ t.toWorker = [] := by
  obtain ⟨later, final, run, ⟨-, hmain⟩, hempty⟩ := drains
    (fun t => Reached handlers usr t ∧ t.main = s.main) Worker.toWorker
    (fun t msg rest ht htoWorker =>
      serves_next hanswering htotal ht htoWorker) ⟨h, rfl⟩
  exact ⟨later, final, run, hmain, hempty⟩

theorem waitTurn_valued (name : String) (old : Int)
    (hstatus : msg.isStatus = true)
    (hvalued : msg.Valued) :
    ∃ rv value, waitTurn name old msg = some (.ok (rv, value)) := by
  obtain ⟨statusName, value, rfl⟩ := hvalued hstatus
  unfold waitTurn
  rw [if_pos hstatus]
  split
  · exact ⟨_, _, rfl⟩
  · exact ⟨_, _, rfl⟩

theorem main_resumed_congr (h : before.main = after.main) (rv : OsdResult) :
    (before.resumed rv).main = (after.resumed rv).main := by
  unfold Worker.resumed
  rw [h]
  split <;> simp_all

/-- What the main thread waits for is there already. -/
theorem leads_resumed (phase : MainPhase) (hanswering : handlers.Answering)
    (h : Reached handlers usr s) (hawaited : s.main.awaited = some name)
    (hempty : s.toWorker = [])
    (hphase : ∀ rv, (s.resumed rv).main = phase) :
    Leads handlers s fun t => t.main = phase := by
  generalize hmsgs : s.toMain = msgs
  induction msgs generalizing s with
  | nil =>
      obtain ⟨history, run⟩ := h
      have hlength := length_awaiting_timely hanswering run
        (awaited_not_aborted hawaited)
      rw [pending_awaited hawaited] at hlength
      simp [awaiting, statuses, hempty, hmsgs] at hlength
  | cons msg rest ih =>
      cases hstatus : msg.isStatus with
      | true =>
          obtain ⟨history, run⟩ := h
          have hvalued :=
            (consistent_of_run hanswering (undisturbed_of_timely run)).valued
              msg (by rw [hmsgs]; exact List.mem_cons_self)
          obtain ⟨rv, value, hturn⟩ :=
            waitTurn_valued name 0 hstatus hvalued
          exact ⟨_, _, .single ⟨⟨.takes hawaited hmsgs hturn,
            rfl⟩, rfl⟩, hphase rv⟩
      | false =>
          have hturn : waitTurn name 0 msg = none := by
            unfold waitTurn
            rw [if_neg (by simp [hstatus])]
          have hgoes : TimelyStep handlers s (.skips msg) _ :=
            ⟨⟨.skips hawaited hmsgs hturn, rfl⟩, rfl⟩
          refine Leads.next hgoes
            (ih (h.step hgoes) hawaited hempty (fun rv => ?_) rfl)
          rw [← hphase rv]
          apply main_resumed_congr
          rfl

theorem leads_freed_of_joining (hanswering : handlers.Answering)
    (h : Reached handlers usr s) (hmain : s.main = .joining) :
    Leads handlers s fun t => t.main = .freed := by
  obtain ⟨history, run⟩ := h
  rcases (freed_of_timely hanswering run (.inl hmain)).1 with hleft | hleft
  · have hexits : TimelyStep handlers s .exits { s with thread := .ended } :=
      ⟨⟨.exits hleft, rfl⟩, rfl⟩
    exact ⟨_, _, (Runs.single hexits).snoc
      ⟨⟨.joins hmain (.inl rfl), rfl⟩, rfl⟩, rfl⟩
  · exact ⟨_, _, .single ⟨⟨.joins hmain (.inl hleft),
      rfl⟩, rfl⟩, rfl⟩

theorem leads_freed_of_freeing (hanswering : handlers.Answering)
    (htotal : handlers.Total) (h : Reached handlers usr s)
    (hmain : s.main = .freeing) :
    Leads handlers s fun t => t.main = .freed := by
  refine (leads_emptied hanswering htotal h).bind h ?_
  rintro t ht ⟨hsame, hempty⟩
  rw [hmain] at hsame
  refine (leads_resumed .joining hanswering ht
    (by rw [hsame]; rfl) hempty fun rv => ?_).bind ht fun u hu hjoining =>
      leads_freed_of_joining hanswering hu hjoining
  rw [Worker.resumed, hsame]

theorem leads_freed_of_idle (hanswering : handlers.Answering)
    (htotal : handlers.Total) (h : Reached handlers usr s)
    (hmain : s.main = .idle) :
    Leads handlers s fun t => t.main = .freed := by
  obtain ⟨history, run⟩ := h
  have hfits :=
    (consistent_of_run hanswering (undisturbed_of_timely run)).fits
  have hgoes : TimelyStep handlers s .frees _ :=
    ⟨⟨.frees hmain (hfits.serving hmain).running,
      rfl⟩, rfl⟩
  exact .next hgoes (leads_freed_of_freeing hanswering htotal
    ⟨_, run.snoc hgoes⟩ rfl)

theorem leads_freed (hanswering : handlers.Answering)
    (htotal : handlers.Total) (h : Reached handlers usr s) :
    Leads handlers s fun t => t.main = .freed := by
  cases hmain : s.main with
  | idle => exact leads_freed_of_idle hanswering htotal h hmain
  | calling command =>
      refine (leads_emptied hanswering htotal h).bind h ?_
      rintro t ht ⟨hsame, hempty⟩
      rw [hmain] at hsame
      refine (leads_resumed .idle hanswering ht
        (by rw [hsame]; rfl) hempty fun rv => ?_).bind ht fun u hu hidle =>
          leads_freed_of_idle hanswering htotal hu hidle
      rw [Worker.resumed, hsame]
  | freeing => exact leads_freed_of_freeing hanswering htotal h hmain
  | joining => exact leads_freed_of_joining hanswering h hmain
  | freed => exact ⟨[], s, .refl, hmain⟩
  | aborted =>
      obtain ⟨history, run⟩ := h
      exact absurd hmain (not_aborted hanswering run)

end Timely

/-! ## Workers of the library -/

/-- The commands of a worker, each with the function behind it and the code
that this reports, and what becomes of data. -/
structure Dispatcher (U δ : Type) where
  commands : List (String × (U → U → Int → Prop))
  forward : Option (U → δ → U → Prop)

def Dispatcher.handlers (dispatcher : Dispatcher U δ)
    (readers : U → U → List (WorkerMsg δ) → Prop) : WorkerHandlers U δ where
  knows := fun msg =>
    match msg with
    | .status name _ => ∃ run, (name, run) ∈ dispatcher.commands
    | .data name _ => name = "D" ∧ dispatcher.forward.isSome
  -- an unknown message fails an assertion
  cmdHandlerFn := fun usr msg usr' sent =>
    match msg with
    | .status name _ => ∃ run code, (name, run) ∈ dispatcher.commands ∧
        run usr usr' code ∧ sent = [.status (doneName name) code]
    | .data name frame => name = "D" ∧
        (∃ forward, dispatcher.forward = some forward ∧
          forward usr frame usr') ∧ sent = []
  readers := readers

/-- `iothread_handle_inproc_request` of a host module. -/
def iothreadHandleInprocRequest (connect disconnect : U → U → Int → Prop)
    (send : U → δ → U → Prop) : Dispatcher U δ where
  commands := [("I-CONNECT", connect), ("I-DISCONNECT", disconnect)]
  forward := some send

/-- `iothread_handle_inproc_msg` of the host controller. -/
def iothreadHandleInprocMsg (start stop : U → U → Int → Prop) :
    Dispatcher U δ where
  commands := [("I-START", start), ("I-STOP", stop)]
  forward := none

/-- `iothread_rcv_from_hostctrl` passes packets on, and no status. -/
def ForwardsPackets (_ _ : U) (sent : List (WorkerMsg δ)) : Prop :=
  ∀ msg ∈ sent, ∃ frame, msg = .data "D" frame

theorem isStatusName_doneName {name : String} (h : isStatusName name = true) :
    isStatusName (doneName name) = true := by
  rw [isStatusName, List.isPrefixOf_iff_prefix] at h ⊢
  rw [doneName, String.toList_append]
  exact h.trans (List.prefix_append _ _)

theorem isStatus_data (frame : δ) :
    (WorkerMsg.data "D" frame).isStatus = false := by
  show isStatusName "D" = false
  decide

theorem statuses_of_packets {sent : List (WorkerMsg δ)}
    (h : ∀ msg ∈ sent, ∃ frame, msg = .data "D" frame) :
    statuses sent = [] := by
  refine List.filter_eq_nil_iff.mpr fun msg hmem => ?_
  obtain ⟨frame, rfl⟩ := h msg hmem
  simp [isStatus_data]

theorem Dispatcher.answering (dispatcher : Dispatcher U δ)
    (hcommands : ∀ name ∈ dispatcher.commands.map Prod.fst,
      isStatusName name = true) :
    (dispatcher.handlers ForwardsPackets).Answering where
  answers := by
    intro usr msg usr' sent hhandled
    cases msg with
    | status name value =>
        obtain ⟨run, code, hmem, -, rfl⟩ := hhandled
        have hname : isStatusName name = true :=
          hcommands name (List.mem_map_of_mem hmem)
        simp [statuses, WorkerMsg.isStatus, WorkerMsg.name, hname,
          isStatusName_doneName hname]
    | data name frame =>
        obtain ⟨rfl, -, rfl⟩ := hhandled
        simp [statuses, isStatus_data]
  valued := by
    intro usr msg usr' sent hhandled answer hmem _
    cases msg with
    | status name value =>
        obtain ⟨run, code, -, -, rfl⟩ := hhandled
        rw [List.mem_singleton] at hmem
        exact ⟨_, _, hmem⟩
    | data name frame =>
        obtain ⟨-, -, rfl⟩ := hhandled
        cases hmem
  readers := fun _ _ _ hread => statuses_of_packets hread

theorem answering_hostmod (connect disconnect : U → U → Int → Prop)
    (send : U → δ → U → Prop) :
    ((iothreadHandleInprocRequest connect disconnect send).handlers
      ForwardsPackets).Answering := by
  apply Dispatcher.answering
  show ∀ name ∈ ["I-CONNECT", "I-DISCONNECT"], isStatusName name = true
  decide

theorem answering_hostctrl (start stop : U → U → Int → Prop) :
    ((iothreadHandleInprocMsg (δ := δ) start stop).handlers
      ForwardsPackets).Answering := by
  apply Dispatcher.answering
  show ∀ name ∈ ["I-START", "I-STOP"], isStatusName name = true
  decide

/-- Where each command comes to an end, the host controller can be freed. -/
theorem total_hostctrl {start stop : U → U → Int → Prop}
    (hstart : ∀ usr, ∃ usr' code, start usr usr' code)
    (hstop : ∀ usr, ∃ usr' code, stop usr usr' code) :
    ((iothreadHandleInprocMsg (δ := δ) start stop).handlers
      ForwardsPackets).Total := by
  intro usr msg hknown
  cases msg with
  | status name value =>
      obtain ⟨run, hmem⟩ := hknown
      have hcases := hmem
      simp only [iothreadHandleInprocMsg, List.mem_cons, Prod.mk.injEq,
        List.not_mem_nil, or_false] at hcases
      rcases hcases with ⟨rfl, rfl⟩ | ⟨rfl, rfl⟩
      · obtain ⟨usr', code, hrun⟩ := hstart usr
        exact ⟨usr', _, _, code, hmem, hrun, rfl⟩
      · obtain ⟨usr', code, hrun⟩ := hstop usr
        exact ⟨usr', _, _, code, hmem, hrun, rfl⟩
  | data name frame => cases hknown.2

/-! ## Results -/

section Results

variable {handlers : WorkerHandlers U δ} {s : Worker U δ}
  {history : List (WorkerEvent δ)} {usr : U}

end Results

/-! ## A host module that connects -/

section Example

/-- The address counts the connections. -/
def countingHostmod : WorkerHandlers Int Unit :=
  (iothreadHandleInprocRequest
    (fun usr usr' code => usr' = usr + 1 ∧ code = usr)
    (fun usr usr' code => usr' = usr ∧ code = osdOk)
    (fun usr _ usr' => usr' = usr)).handlers ForwardsPackets

theorem countingHostmod_answering : countingHostmod.Answering :=
  answering_hostmod _ _ _

def connected (address : Int) : WorkerMsg Unit :=
  .status "I-CONNECT-DONE" address

def connectAndFree : List (WorkerEvent Unit) :=
  [.calls "I-CONNECT" 0, .handles (.status "I-CONNECT" 0) [connected 5],
    .takes (connected 5) osdOk 5, .sends (.data "D" ()),
    .handles (.data "D" ()) [], .frees, .shutsDown (.status shutdown 0),
    .takes shutdownDone osdOk osdOk, .exits, .joins]

theorem runs_connectAndFree :
    ∃ s, Runs (TimelyStep countingHostmod) (.started 5) connectAndFree s ∧
      s.main = .freed := by
  have hcalls : countingHostmod.knows (.status "I-CONNECT" 0) :=
    ⟨_, List.mem_cons_self⟩
  have hconnects : countingHostmod.cmdHandlerFn 5 (.status "I-CONNECT" 0) 6
      [connected 5] :=
    ⟨_, 5, List.mem_cons_self, ⟨rfl, rfl⟩, by decide⟩
  have hsends : countingHostmod.cmdHandlerFn 6 (.data "D" ()) 6 [] :=
    ⟨rfl, ⟨_, rfl, rfl⟩, rfl⟩
  have hwait : waitTurn (doneName "I-CONNECT") 0 (connected 5) =
      some (.ok (osdOk, 5)) := by decide
  have hlast : waitTurn (doneName shutdown) 0 (shutdownDone : WorkerMsg Unit) =
      some (.ok (osdOk, osdOk)) := by decide
  exact ⟨_, (((((((((Runs.single
    ⟨⟨.calls rfl (by decide) (by decide) hcalls, rfl⟩, rfl⟩).snoc
    ⟨⟨.handles rfl rfl (by decide) hconnects, rfl⟩, rfl⟩).snoc
    ⟨⟨.takes rfl rfl hwait, rfl⟩, rfl⟩).snoc
    ⟨⟨.sends rfl (by decide) ⟨rfl, rfl⟩, rfl⟩, rfl⟩).snoc
    ⟨⟨.handles rfl rfl (by decide) hsends, rfl⟩, rfl⟩).snoc
    ⟨⟨.frees rfl rfl, rfl⟩, rfl⟩).snoc
    ⟨⟨.shutsDown rfl rfl rfl, rfl⟩, rfl⟩).snoc
    ⟨⟨.takes rfl rfl hlast, rfl⟩, rfl⟩).snoc
    ⟨⟨.exits rfl, rfl⟩, rfl⟩).snoc
    ⟨⟨.joins rfl (.inl rfl), rfl⟩, rfl⟩, rfl⟩

/-- The first wait comes to nothing, and the second one gets the address of
the first connection. -/
def connectTooLate : List (WorkerEvent Unit) :=
  [.calls "I-CONNECT" 0, .givesUp osdErrorTimedout,
    .handles (.status "I-CONNECT" 0) [connected 5], .calls "I-CONNECT" 0,
    .handles (.status "I-CONNECT" 0) [connected 6],
    .takes (connected 5) osdOk 5, .frees, .shutsDown (.status shutdown 0),
    .takes (connected 6) osdErrorFailure 0]

theorem runs_connectTooLate :
    ∃ s, Runs (UndisturbedStep countingHostmod) (.started 5) connectTooLate
      s ∧ s.main = .joining := by
  have hcalls : countingHostmod.knows (.status "I-CONNECT" 0) :=
    ⟨_, List.mem_cons_self⟩
  have hfirst : countingHostmod.cmdHandlerFn 5 (.status "I-CONNECT" 0) 6
      [connected 5] :=
    ⟨_, 5, List.mem_cons_self, ⟨rfl, rfl⟩, by decide⟩
  have hsecond : countingHostmod.cmdHandlerFn 6 (.status "I-CONNECT" 0) 7
      [connected 6] :=
    ⟨_, 6, List.mem_cons_self, ⟨rfl, rfl⟩, by decide⟩
  have hwait : waitTurn (doneName "I-CONNECT") 0 (connected 5) =
      some (.ok (osdOk, 5)) := by decide
  have hlast : waitTurn (doneName shutdown) 0 (connected 6) =
      some (.ok (osdErrorFailure, 0)) := by decide
  exact ⟨_, ((((((((Runs.single
    ⟨.calls rfl (by decide) (by decide) hcalls, rfl⟩).snoc
    ⟨.givesUp rfl rfl (.inl rfl), rfl⟩).snoc
    ⟨.handles rfl rfl (by decide) hfirst, rfl⟩).snoc
    ⟨.calls rfl (by decide) (by decide) hcalls, rfl⟩).snoc
    ⟨.handles rfl rfl (by decide) hsecond, rfl⟩).snoc
    ⟨.takes rfl rfl hwait, rfl⟩).snoc
    ⟨.frees rfl rfl, rfl⟩).snoc
    ⟨.shutsDown rfl rfl rfl, rfl⟩).snoc
    ⟨.takes rfl rfl hlast, rfl⟩, rfl⟩

end Example

end Osd.WorkerLifetime
