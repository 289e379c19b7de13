import Osd.Foundation.Runs

/-!
# Messages on their way

A path of queues conveys messages when every step moves some of them along and
none is lost, doubled or overtaken.  Paths are put together out of single
queues, and what holds of one step holds of every run.
-/

namespace Osd.Foundation

variable {σ ε α β : Type} {step step' : σ → ε → σ → Prop}

/-- What is on its way and what enters is what leaves and what is on its way
afterwards, oldest message first. -/
def Conveys (step : σ → ε → σ → Prop) (carried : σ → List α)
    (entered left : ε → List α) : Prop :=
  ∀ before event after, step before event after →
    carried before ++ entered event = left event ++ carried after

namespace Conveys

variable {carried near far : σ → List α} {entered middle left : ε → List α}
  {start final : σ} {history : List ε}

theorem run (h : Conveys step carried entered left)
    (run : Runs step start history final) :
    carried start ++ history.flatMap entered =
      history.flatMap left ++ carried final := by
  induction run with
  | refl => simp
  | @snoc history before after event _ hstep ih =>
      have hone := h before event after hstep
      calc carried start ++ (history ++ [event]).flatMap entered
          = carried start ++ history.flatMap entered ++ entered event := by
            simp
        _ = history.flatMap left ++ (carried before ++ entered event) := by
            rw [ih, List.append_assoc]
        _ = (history ++ [event]).flatMap left ++ carried after := by
            rw [hone]
            simp

/-- What leaves the near queue enters the far one. -/
theorem comp (hnear : Conveys step near entered middle)
    (hfar : Conveys step far middle left) :
    Conveys step (fun s => far s ++ near s) entered left := by
  intro before event after hstep
  have hfirst := hnear before event after hstep
  have hsecond := hfar before event after hstep
  rw [List.append_assoc, hfirst, ← List.append_assoc, hsecond,
    List.append_assoc]

theorem mono (h : Conveys step carried entered left)
    (hstep : ∀ before event after, step' before event after →
      step before event after) : Conveys step' carried entered left :=
  fun before event after hgoes => h before event after (hstep _ _ _ hgoes)

theorem congr {entered' left' : ε → List α}
    (h : Conveys step carried entered left)
    (hentered : ∀ before event after, step before event after →
      entered' event = entered event)
    (hleft : ∀ before event after, step before event after →
      left' event = left event) :
    Conveys step carried entered' left' := by
  intro before event after hstep
  rw [hentered _ _ _ hstep, hleft _ _ _ hstep]
  exact h before event after hstep

theorem filterMap (h : Conveys step carried entered left)
    (f : α → Option β) :
    Conveys step (fun s => (carried s).filterMap f)
      (fun event => (entered event).filterMap f)
      (fun event => (left event).filterMap f) := by
  intro before event after hstep
  simp only [← List.filterMap_append, h before event after hstep]

theorem filter (h : Conveys step carried entered left) (p : α → Bool) :
    Conveys step (fun s => (carried s).filter p)
      (fun event => (entered event).filter p)
      (fun event => (left event).filter p) := by
  intro before event after hstep
  simp only [← List.filter_append, h before event after hstep]

theorem map (h : Conveys step carried entered left) (f : α → β) :
    Conveys step (fun s => (carried s).map f)
      (fun event => (entered event).map f)
      (fun event => (left event).map f) := by
  intro before event after hstep
  simp only [← List.map_append, h before event after hstep]

/-- The message that leaves next is the one that entered after as many as have
left. -/
theorem next (h : Conveys step carried entered left)
    (run : Runs step start history final) (hstart : carried start = [])
    {message : α} {rest : List α} (hcarried : carried final = message :: rest) :
    (history.flatMap entered)[(history.flatMap left).length]? =
      some message := by
  have hall := h.run run
  rw [hstart, hcarried, List.nil_append] at hall
  rw [hall, List.getElem?_append_right (Nat.le_refl _), Nat.sub_self]
  rfl

/-- Where nothing leaves, all that entered is kept. -/
theorem gathers (h : Conveys step carried entered fun _ => [])
    (run : Runs step start history final) :
    carried final = carried start ++ history.flatMap entered := by
  have hnone : history.flatMap (fun _ => ([] : List α)) = [] := by simp
  rw [h.run run, hnone, List.nil_append]

end Conveys

/-! ## Many queues -/

section Queues

variable {ι : Type} [DecidableEq ι] {queues : ι → List α} {i : ι}
  {message : α}

def push (queues : ι → List α) (i : ι) (message : α) : ι → List α :=
  Function.update queues i (queues i ++ [message])

theorem push_apply (j : ι) :
    push queues i message j =
      queues j ++ if i = j then [message] else [] := by
  unfold push
  rw [Function.update_apply]
  by_cases h : i = j
  · subst h
    simp
  · simp [h, Ne.symm h]

/-- A queue from which the first message is taken. -/
theorem pop_apply {rest : List α} (h : queues i = message :: rest) (j : ι) :
    (if i = j then [message] else []) ++ Function.update queues i rest j =
      queues j := by
  rw [Function.update_apply]
  by_cases hsame : i = j
  · subst hsame
    simp [h]
  · simp [hsame, Ne.symm hsame]

theorem mem_push {j : ι} {entry : α} (h : entry ∈ push queues i message j) :
    entry ∈ queues j ∨ entry = message := by
  rw [push_apply] at h
  rcases List.mem_append.mp h with hold | hnew
  · exact .inl hold
  · split at hnew
    · exact .inr (List.mem_singleton.mp hnew)
    · cases hnew

theorem mem_pop {j : ι} {entry : α} {rest : List α}
    (hqueue : queues i = message :: rest)
    (h : entry ∈ Function.update queues i rest j) : entry ∈ queues j := by
  rw [← pop_apply hqueue j]
  exact List.mem_append_right _ h

end Queues

/-- Where the first message of a queue can always be taken, the queue can be
emptied. -/
theorem drains (I : σ → Prop) (queue : σ → List α) {start : σ}
    (hstep : ∀ s message rest, I s → queue s = message :: rest →
      ∃ event s', step s event s' ∧ I s' ∧ queue s' = rest)
    (h : I start) :
    ∃ history final, Runs step start history final ∧ I final ∧
      queue final = [] := by
  generalize hqueue : queue start = messages
  induction messages generalizing start with
  | nil => exact ⟨[], start, .refl, h, hqueue⟩
  | cons message rest ih =>
      obtain ⟨event, next, hgoes, hnext, hrest⟩ :=
        hstep start message rest h hqueue
      obtain ⟨history, final, run, hfinal, hempty⟩ := ih hnext hrest
      exact ⟨event :: history, final, (Runs.single hgoes).trans run, hfinal,
        hempty⟩

/-! ## Invariants -/

/-- A step from a state in which an invariant holds. -/
def Within (I : σ → Prop) (step : σ → ε → σ → Prop) :
    σ → ε → σ → Prop :=
  fun before event after => I before ∧ step before event after

theorem Runs.within {I : σ → Prop} {start final : σ} {history : List ε}
    (run : Runs step start history final) (hstart : I start)
    (hkeep : ∀ before event after, step before event after → I before →
      I after) :
    Runs (Within I step) start history final ∧ I final := by
  induction run with
  | refl => exact ⟨.refl, hstart⟩
  | snoc _ hstep ih =>
      obtain ⟨hrun, hbefore⟩ := ih
      exact ⟨hrun.snoc ⟨hbefore, hstep⟩, hkeep _ _ _ hstep hbefore⟩

/-- A run with some of what its events show left out. -/
theorem Runs.map {ε' : Type} {step' : σ → ε' → σ → Prop} (f : ε → ε')
    {start final : σ} {history : List ε}
    (h : ∀ before event after, step before event after →
      step' before (f event) after)
    (run : Runs step start history final) :
    Runs step' start (history.map f) final := by
  induction run with
  | refl => exact .refl
  | snoc _ hstep ih =>
      rw [List.map_append]
      exact ih.snoc (h _ _ _ hstep)

end Osd.Foundation
