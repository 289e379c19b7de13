import Mathlib.Tactic

/-!
# Outcomes of C calls

A call either returns a value or ends in a fault.  A fault has no successor
state: nothing is said about a process after a failed assertion or after an
access outside of an object.
-/

namespace Osd.Foundation

inductive Fault where
  | assertion
  | outOfBounds
  | useAfterFree
  | blocked
  deriving DecidableEq, Repr

abbrev Outcome (α : Type) := Except Fault α

/-- `assert(p)`. -/
def assertThat (p : Prop) [Decidable p] : Outcome Unit :=
  if p then .ok () else .error .assertion

/-- An access to an object is defined only where `p` holds. -/
def inBounds (p : Prop) [Decidable p] : Outcome Unit :=
  if p then .ok () else .error .outOfBounds

theorem bind_eq_ok {ε α β : Type} {call : Except ε α}
    {next : α → Except ε β} {value : β} :
    (call >>= next) = .ok value ↔
      ∃ middle, call = .ok middle ∧ next middle = .ok value := by
  cases call with
  | error fault => simp [bind, Except.bind]
  | ok middle => simp [bind, Except.bind]

@[simp] theorem ok_bind {α β : Type} (value : α) (next : α → Outcome β) :
    ((.ok value : Outcome α) >>= next) = next value := rfl

@[simp] theorem error_bind {α β : Type} (fault : Fault)
    (next : α → Outcome β) :
    ((.error fault : Outcome α) >>= next) = .error fault := rfl

section Checks

variable {α : Type} {p : Prop} [Decidable p] {next : Unit → Outcome α}

theorem assertThat_bind (h : p) : (assertThat p >>= next) = next () := by
  simp [assertThat, h]

theorem assertThat_bind_not (h : ¬p) :
    (assertThat p >>= next) = .error .assertion := by
  simp [assertThat, h]

theorem inBounds_bind (h : p) : (inBounds p >>= next) = next () := by
  simp [inBounds, h]

theorem inBounds_bind_not (h : ¬p) :
    (inBounds p >>= next) = .error .outOfBounds := by
  simp [inBounds, h]

theorem assertThat_bind_eq_ok {value : α} :
    (assertThat p >>= next) = .ok value ↔ p ∧ next () = .ok value := by
  by_cases h : p <;> simp [assertThat, h]

theorem inBounds_bind_eq_ok {value : α} :
    (inBounds p >>= next) = .ok value ↔ p ∧ next () = .ok value := by
  by_cases h : p <;> simp [inBounds, h]

end Checks

/-- The call returned, whatever it returned. -/
def Returns {α : Type} (call : Outcome α) : Prop := ∃ value, call = .ok value

@[simp] theorem returns_ok {α : Type} (value : α) :
    Returns (.ok value : Outcome α) := ⟨value, rfl⟩

@[simp] theorem not_returns_error {α : Type} (fault : Fault) :
    ¬Returns (.error fault : Outcome α) := by
  simp [Returns]

theorem returns_assertThat_bind {α : Type} {p : Prop} [Decidable p]
    {next : Unit → Outcome α} :
    Returns (assertThat p >>= next) ↔ p ∧ Returns (next ()) := by
  by_cases h : p <;> simp [assertThat, h]

/-! ## Partial correctness -/

/-- The call ends in an allowed fault, or its value meets `post`. -/
def Meets {α : Type} (allowed : Fault → Prop) (call : Outcome α)
    (post : α → Prop) : Prop :=
  match call with
  | .ok value => post value
  | .error fault => allowed fault

section Meets

variable {α β : Type} {allowed : Fault → Prop} {call : Outcome α}
  {post : α → Prop} {next : α → Outcome β} {post' : β → Prop}

@[simp] theorem meets_ok {value : α} :
    Meets allowed (.ok value) post ↔ post value := Iff.rfl

@[simp] theorem meets_error {fault : Fault} :
    Meets allowed (.error fault) post ↔ allowed fault := Iff.rfl

theorem Meets.bind (h : Meets allowed call post)
    (hnext : ∀ value, post value → Meets allowed (next value) post') :
    Meets allowed (call >>= next) post' := by
  cases call with
  | error fault => exact h
  | ok value => exact hnext value h

theorem Meets.of_ok {value : α} (hcall : call = .ok value)
    (h : Meets allowed (next value) post') :
    Meets allowed (call >>= next) post' := by
  subst hcall
  exact h

theorem Meets.weaken (h : Meets allowed call post) {weaker : α → Prop}
    (hpost : ∀ value, post value → weaker value) :
    Meets allowed call weaker := by
  cases call with
  | error fault => exact h
  | ok value => exact hpost value h

theorem Meets.of_eq_ok (h : Meets allowed call post) {value : α}
    (hcall : call = .ok value) : post value := by
  subst hcall
  exact h

/-- A call that may end in no fault returns. -/
theorem Meets.exists_ok (h : Meets (fun _ => False) call post) :
    ∃ value, call = .ok value ∧ post value := by
  cases call with
  | error fault => exact h.elim
  | ok value => exact ⟨value, rfl, h⟩

theorem Meets.fault_or_ok {fault : Fault} (h : Meets (Eq fault) call post) :
    call = .error fault ∨ ∃ value, call = .ok value ∧ post value := by
  cases call with
  | error other => exact .inl (congrArg Except.error h.symm)
  | ok value => exact .inr ⟨value, rfl, h⟩

variable {p : Prop} [Decidable p] {rest : Unit → Outcome α}

theorem Meets.assertThat (hallowed : allowed .assertion)
    (h : p → Meets allowed (rest ()) post) :
    Meets allowed (Osd.Foundation.assertThat p >>= rest) post := by
  by_cases hp : p
  · rw [assertThat_bind hp]
    exact h hp
  · rw [assertThat_bind_not hp]
    exact hallowed

end Meets

end Osd.Foundation
