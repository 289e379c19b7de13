import Osd.Foundation.Outcome

/-!
# Refinement of calls

A call refines another one if it ends in the same fault or in a related value,
or in a fault of its own that is allowed.  What is proved about the other call
then holds of it.
-/

namespace Osd.Foundation

variable {α α' β β' : Type} {allowed : Fault → Prop}

inductive Refines (allowed : Fault → Prop) (rel : α → β → Prop) :
    Outcome α → Outcome β → Prop
  | faulted {fault : Fault} (hallowed : allowed fault) (direct : Outcome β) :
      Refines allowed rel (.error fault) direct
  | fault (fault : Fault) : Refines allowed rel (.error fault) (.error fault)
  | returned {value : α} {value' : β} (h : rel value value') :
      Refines allowed rel (.ok value) (.ok value')

namespace Refines

variable {rel : α → β → Prop} {rel' : α' → β' → Prop} {call : Outcome α}
  {direct : Outcome β}

theorem bind {next : α → Outcome α'} {nextDirect : β → Outcome β'}
    (h : Refines allowed rel call direct)
    (hnext : ∀ value value', rel value value' →
      Refines allowed rel' (next value) (nextDirect value')) :
    Refines allowed rel' (call >>= next) (direct >>= nextDirect) := by
  cases h with
  | faulted hallowed => exact .faulted hallowed _
  | fault fault => exact .fault fault
  | returned hrel => exact hnext _ _ hrel

/-- The other call goes on alone, without a fault. -/
theorem bind_ok {rel'' : α → β' → Prop} {next : β → β'}
    (h : Refines allowed rel call direct)
    (hnext : ∀ value value', rel value value' → rel'' value (next value')) :
    Refines allowed rel'' call (direct >>= fun value' => .ok (next value')) :=
  by
  cases h with
  | faulted hallowed => exact .faulted hallowed _
  | fault fault => exact .fault fault
  | returned hrel => exact .returned (hnext _ _ hrel)

theorem of_meets {value' : β}
    (h : Meets allowed call fun value => rel value value') :
    Refines allowed rel call (.ok value') := by
  cases call with
  | error fault => exact .faulted h _
  | ok value => exact .returned h

/-- The first call has no counterpart. -/
theorem meets_bind {post : α' → Prop} {first : Outcome α'}
    {next : α' → Outcome α} (h : Meets allowed first post)
    (hnext : ∀ value, post value →
      Refines allowed rel (next value) direct) :
    Refines allowed rel (first >>= next) direct := by
  cases first with
  | error fault => exact .faulted h _
  | ok value => exact hnext value h

theorem assertThat {p : Prop} [Decidable p] {rest : Unit → Outcome α}
    {restDirect : Unit → Outcome β}
    (h : Refines allowed rel (rest ()) (restDirect ())) :
    Refines allowed rel (Osd.Foundation.assertThat p >>= rest)
      (Osd.Foundation.assertThat p >>= restDirect) := by
  by_cases hp : p
  · rwa [assertThat_bind hp, assertThat_bind hp]
  · rw [assertThat_bind_not hp, assertThat_bind_not hp]
    exact .fault _

theorem meets {post : β → Prop} (h : Refines allowed rel call direct)
    (hdirect : Meets allowed direct post) :
    Meets allowed call fun value =>
      ∃ value', direct = .ok value' ∧ rel value value' ∧ post value' := by
  cases h with
  | faulted hallowed => exact hallowed
  | fault fault => exact hdirect
  | returned hrel => exact ⟨_, rfl, hrel, hdirect⟩

end Refines

end Osd.Foundation
