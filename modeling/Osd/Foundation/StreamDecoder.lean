import Mathlib.Tactic

/-!
# Incremental decoding of a stream

A decoder takes one record off the front of a stream, or asks for more.  A
receiver that takes off all complete records after every fragment has decoded
the same records in the end as one that sees the whole stream at once.
-/

namespace Osd.Foundation

variable {β ρ : Type}

/-- What follows a complete record does not change the record. -/
def Stable (decode : List β → Option (ρ × List β)) : Prop :=
  ∀ stream record rest more, decode stream = some (record, rest) →
    decode (stream ++ more) = some (record, rest ++ more)

/-- All complete records at the front of a stream, and what is left. -/
inductive Drains (decode : List β → Option (ρ × List β)) :
    List β → List ρ → List β → Prop
  | idle {stream : List β} (h : decode stream = none) :
      Drains decode stream [] stream
  | next {stream rest left : List β} {record : ρ} {records : List ρ}
      (h : decode stream = some (record, rest))
      (hrest : Drains decode rest records left) :
      Drains decode stream (record :: records) left

namespace Drains

variable {decode : List β → Option (ρ × List β)}
  {stream more rest left left' : List β} {records records' : List ρ}

theorem unique (h : Drains decode stream records left)
    (h' : Drains decode stream records' left') :
    records = records' ∧ left = left' := by
  induction h generalizing records' left' with
  | idle hnone =>
      cases h' with
      | idle => exact ⟨rfl, rfl⟩
      | next hsome => simp [hnone] at hsome
  | next hsome _ ih =>
      cases h' with
      | idle hnone => simp [hnone] at hsome
      | next hsome' hrest' =>
          obtain ⟨rfl, rfl⟩ :=
            Prod.mk.inj (Option.some.inj (hsome.symm.trans hsome'))
          obtain ⟨rfl, rfl⟩ := ih hrest'
          exact ⟨rfl, rfl⟩

theorem left_none (h : Drains decode stream records left) :
    decode left = none := by
  induction h with
  | idle hnone => exact hnone
  | next _ _ ih => exact ih

theorem append (hstable : Stable decode)
    (h : Drains decode stream records left)
    (hmore : Drains decode (left ++ more) records' left') :
    Drains decode (stream ++ more) (records ++ records') left' := by
  induction h with
  | idle => exact hmore
  | next hsome _ ih => exact .next (hstable _ _ _ more hsome) (ih hmore)

/-- A stream that is one record and nothing else. -/
theorem single {record : ρ} (hnil : decode [] = none)
    (h : decode stream = some (record, [])) :
    Drains decode stream [record] [] :=
  .next h (.idle hnil)

end Drains

/-! ## Execution -/

/-- At most `fuel` records. -/
def drain (decode : List β → Option (ρ × List β)) :
    Nat → List β → List ρ × List β
  | 0, stream => ([], stream)
  | fuel + 1, stream =>
      match decode stream with
      | none => ([], stream)
      | some (record, rest) =>
          let (records, left) := drain decode fuel rest
          (record :: records, left)

theorem drains_drain {decode : List β → Option (ρ × List β)}
    (hnil : decode [] = none)
    (hshrinks : ∀ stream record rest, decode stream = some (record, rest) →
      rest.length < stream.length)
    (fuel : Nat) (stream : List β) (hfuel : stream.length ≤ fuel) :
    Drains decode stream (drain decode fuel stream).1
      (drain decode fuel stream).2 := by
  induction fuel generalizing stream with
  | zero =>
      obtain rfl := List.eq_nil_of_length_eq_zero (Nat.le_zero.mp hfuel)
      exact .idle hnil
  | succ fuel ih =>
      rw [drain]
      cases hdecode : decode stream with
      | none => exact .idle hdecode
      | some result =>
          have hlt := hshrinks stream result.1 result.2 hdecode
          exact .next hdecode (ih result.2 (by omega))

end Osd.Foundation
