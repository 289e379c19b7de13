import Mathlib.Tactic

/-!
# Runs of labelled step relations

A step relation `step s e t` says that the system can go from `s` to `t` while
showing the event `e`.  A run records the events in the order in which they
happened, so a property of histories is an induction over the run.
-/

namespace Osd.Foundation

inductive Runs {σ ε : Type} (step : σ → ε → σ → Prop) (start : σ) :
    List ε → σ → Prop
  | refl : Runs step start [] start
  | snoc {history : List ε} {before after : σ} {event : ε} :
      Runs step start history before → step before event after →
        Runs step start (history ++ [event]) after

namespace Runs

variable {σ ε : Type} {step : σ → ε → σ → Prop} {start middle final : σ}
  {history later : List ε}

theorem single {event : ε} (h : step start event final) :
    Runs step start [event] final := by
  have run : Runs step start [] start := .refl
  simpa using run.snoc h

theorem trans (first : Runs step start history middle)
    (second : Runs step middle later final) :
    Runs step start (history ++ later) final := by
  induction second with
  | refl => simpa using first
  | snoc _ hstep ih =>
      rw [← List.append_assoc]
      exact ih.snoc hstep

theorem append_inv (run : Runs step start (history ++ later) final) :
    ∃ middle, Runs step start history middle ∧
      Runs step middle later final := by
  generalize hall : history ++ later = all at run
  induction run generalizing later with
  | refl =>
      obtain ⟨rfl, rfl⟩ := List.append_eq_nil_iff.mp hall
      exact ⟨start, .refl, .refl⟩
  | @snoc events before after event run hstep ih =>
      rcases List.eq_nil_or_concat later with rfl | ⟨front, last, rfl⟩
      · rw [List.append_nil] at hall
        subst hall
        exact ⟨after, run.snoc hstep, .refl⟩
      · rw [List.concat_eq_append, ← List.append_assoc] at hall
        obtain ⟨hfront, hlast⟩ := List.append_inj' hall rfl
        obtain rfl : last = event := by simpa using hlast
        obtain ⟨split, hfirst, hsecond⟩ := ih hfront
        refine ⟨split, hfirst, ?_⟩
        rw [List.concat_eq_append]
        exact hsecond.snoc hstep

theorem step_at {event : ε}
    (run : Runs step start (history ++ event :: later) final) :
    ∃ before after, Runs step start history before ∧
      step before event after ∧ Runs step after later final := by
  obtain ⟨before, hbefore, hrest⟩ := run.append_inv
  rw [← List.singleton_append] at hrest
  obtain ⟨after, hstep, hafter⟩ := hrest.append_inv
  refine ⟨before, after, hbefore, ?_, hafter⟩
  generalize hone : [event] = one at hstep
  cases hstep with
  | refl => simp at hone
  | snoc run' h =>
      rw [← List.nil_append [event]] at hone
      obtain ⟨hnil, hlast⟩ := List.append_inj' hone rfl
      obtain rfl : event = _ := by simpa using hlast
      subst hnil
      generalize hempty : ([] : List ε) = empty at run'
      cases run' with
      | refl => exact h
      | snoc _ _ => simp at hempty

/-- An invariant that may mention the history is kept by every run. -/
theorem invariant {I : List ε → σ → Prop} (hinit : I [] start)
    (hstep : ∀ history before event after,
      Runs step start history before → I history before →
        step before event after → I (history ++ [event]) after)
    (run : Runs step start history final) : I history final := by
  induction run with
  | refl => exact hinit
  | snoc run h ih => exact hstep _ _ _ _ run ih h

theorem mono {step' : σ → ε → σ → Prop}
    (h : ∀ before event after, step before event after →
      step' before event after)
    (run : Runs step start history final) :
    Runs step' start history final := by
  induction run with
  | refl => exact .refl
  | snoc _ hstep ih => exact ih.snoc (h _ _ _ hstep)

/-- Where every state of positive rank can take a step to a lower rank, rank 0
can be reached. -/
theorem reaches_zero {rank : σ → Nat → Prop}
    (hprogress : ∀ s n, rank s (n + 1) →
      ∃ event s' m, step s event s' ∧ m ≤ n ∧ rank s' m)
    {n : Nat} (h : rank start n) :
    ∃ history final, Runs step start history final ∧ rank final 0 := by
  induction n using Nat.strongRecOn generalizing start with
  | ind n ih =>
      cases n with
      | zero => exact ⟨[], start, .refl, h⟩
      | succ n =>
          obtain ⟨event, s', m, hstep, hle, hrank⟩ := hprogress start n h
          obtain ⟨history, final, run, hzero⟩ :=
            ih m (Nat.lt_succ_of_le hle) hrank
          exact ⟨event :: history, final, (single hstep).trans run, hzero⟩

end Runs

/-! ## Standing grants -/

/-- An event of the history granted something that no later event revoked. -/
def Since {ε : Type} (grant revoke : ε → Prop) (history : List ε) : Prop :=
  ∃ earlier event later, history = earlier ++ event :: later ∧ grant event ∧
    ∀ e ∈ later, ¬revoke e

theorem since_snoc {ε : Type} {grant revoke : ε → Prop} {history : List ε}
    {event : ε} :
    Since grant revoke (history ++ [event]) ↔
      grant event ∨ Since grant revoke history ∧ ¬revoke event := by
  constructor
  · rintro ⟨earlier, granting, later, hsplit, hgrant, hlater⟩
    rcases List.eq_nil_or_concat later with rfl | ⟨front, last, rfl⟩
    · obtain ⟨_, hlast⟩ := List.append_inj' hsplit rfl
      obtain rfl : event = granting := by simpa using hlast
      exact Or.inl hgrant
    · rw [List.concat_eq_append, ← List.cons_append,
        ← List.append_assoc] at hsplit
      obtain ⟨hfront, hlast⟩ := List.append_inj' hsplit rfl
      obtain rfl : event = last := by simpa using hlast
      refine Or.inr ⟨⟨earlier, granting, front, hfront, hgrant, ?_⟩, ?_⟩
      · intro e he
        exact hlater e (by simp [he])
      · exact hlater event (by simp)
  · rintro (hgrant | ⟨⟨earlier, granting, later, rfl, hgrant, hlater⟩, hkeep⟩)
    · exact ⟨history, event, [], rfl, hgrant, by simp⟩
    · refine ⟨earlier, granting, later ++ [event], by simp, hgrant, ?_⟩
      intro e he
      rcases List.mem_append.mp he with he | he
      · exact hlater e he
      · rw [List.mem_singleton] at he
        exact he ▸ hkeep

/-- What a grant establishes and every other event but a revocation keeps,
holds as long as the grant stands. -/
theorem Runs.of_since {σ ε : Type} {step : σ → ε → σ → Prop} {start final : σ}
    {history : List ε} {grant revoke : ε → Prop} {Q : σ → Prop}
    (run : Runs step start history final)
    (hgrant : ∀ history before event after,
      Runs step start history before → step before event after →
        grant event → Q after)
    (hkeep : ∀ history before event after,
      Runs step start history before → step before event after → Q before →
        ¬revoke event → Q after)
    (h : Since grant revoke history) : Q final := by
  induction run with
  | refl =>
      obtain ⟨_, _, _, hnil, _⟩ := h
      simp at hnil
  | snoc run hstep ih =>
      rcases since_snoc.mp h with hnow | ⟨hbefore, hnot⟩
      · exact hgrant _ _ _ _ run hstep hnow
      · exact hkeep _ _ _ _ run hstep (ih hbefore) hnot

/-! ## Messages in flight -/

theorem mem_of_mem_rest {α : Type} {front rest : List α}
    {taken message : α} (h : message ∈ front ++ rest) :
    message ∈ front ++ taken :: rest :=
  ((List.sublist_cons_self taken rest).append_left front).subset h

end Osd.Foundation
