import Osd.Foundation.Outcome

/-!
# Buffers of a fixed size

Copies out of and into a buffer are defined only inside of its bounds.
-/

namespace Osd.Foundation

variable {α : Type}

/-- The buffer with `values` stored from `offset` on. -/
def splice (buf : List α) (offset : Nat) (values : List α) : List α :=
  buf.take offset ++ values ++ buf.drop (offset + values.length)

def loadBytes (buf : List α) (offset count : Nat) : Outcome (List α) := do
  inBounds (offset + count ≤ buf.length)
  .ok ((buf.drop offset).take count)

def storeBytes (buf : List α) (offset : Nat) (values : List α) :
    Outcome (List α) := do
  inBounds (offset + values.length ≤ buf.length)
  .ok (splice buf offset values)

section

variable {buf part values first second : List α} {offset count pos : Nat}

theorem length_part (h : offset + count ≤ buf.length) :
    ((buf.drop offset).take count).length = count := by
  rw [List.length_take, List.length_drop]
  omega

theorem length_of_loadBytes (h : loadBytes buf offset count = .ok part) :
    part.length = count := by
  unfold loadBytes at h
  obtain ⟨hinside, h⟩ := inBounds_bind_eq_ok.mp h
  cases h
  exact length_part hinside

theorem loadBytes_eq (h : offset + count ≤ buf.length) :
    loadBytes buf offset count = .ok ((buf.drop offset).take count) := by
  rw [loadBytes, inBounds_bind h]

theorem storeBytes_eq (h : offset + values.length ≤ buf.length) :
    storeBytes buf offset values = .ok (splice buf offset values) := by
  rw [storeBytes, inBounds_bind h]

@[simp] theorem splice_nil (buf : List α) (offset : Nat) :
    splice buf offset [] = buf := by
  simp [splice]

theorem length_splice (h : offset + values.length ≤ buf.length) :
    (splice buf offset values).length = buf.length := by
  simp only [splice, List.length_append, List.length_take, List.length_drop]
  omega

theorem splice_append
    (h : offset + first.length + second.length ≤ buf.length) :
    splice (splice buf offset first) (offset + first.length) second =
      splice buf offset (first ++ second) := by
  have hfront : (buf.take offset ++ first).length =
      offset + first.length := by
    rw [List.length_append, List.length_take]
    omega
  have htake : (splice buf offset first).take (offset + first.length) =
      buf.take offset ++ first := List.take_left' hfront
  have hdrop : (splice buf offset first).drop
      (offset + first.length + second.length) =
        buf.drop (offset + first.length + second.length) := by
    rw [← List.drop_drop, splice, List.drop_left' hfront, List.drop_drop]
  rw [splice, htake, hdrop, splice, List.length_append, Nat.add_assoc]
  simp only [List.append_assoc]

theorem splice_all (h : values.length = buf.length) :
    splice buf 0 values = values := by
  rw [splice, Nat.zero_add, h, List.take_zero, List.drop_length]
  simp

theorem splice_replicate (zero : α) (size : Nat)
    (h : offset + values.length ≤ size) :
    splice (List.replicate size zero) offset values =
      List.replicate offset zero ++ values ++
        List.replicate (size - (offset + values.length)) zero := by
  rw [splice, List.take_replicate, List.drop_replicate,
    Nat.min_eq_left (by omega)]

theorem splice_self (h : offset + count ≤ buf.length) :
    splice buf offset ((buf.drop offset).take count) = buf := by
  rw [splice, length_part h, List.append_assoc, ← List.drop_drop,
    List.take_append_drop, List.take_append_drop]

theorem splice_middle (front tail : List α)
    (h : pos + values.length ≤ part.length) :
    splice (front ++ part ++ tail) (front.length + pos) values =
      front ++ splice part pos values ++ tail := by
  unfold splice
  rw [List.append_assoc front, Nat.add_assoc, List.take_length_add_append,
    List.drop_length_add_append, List.take_append_of_le_length (by omega),
    List.drop_append_of_le_length h]
  simp only [List.append_assoc]

theorem splice_splice (h : offset + part.length ≤ buf.length)
    (hvalues : pos + values.length ≤ part.length) :
    splice (splice buf offset part) (offset + pos) values =
      splice buf offset (splice part pos values) := by
  have hfront : (buf.take offset).length = offset := by
    rw [List.length_take]
    omega
  have hmiddle := splice_middle (buf.take offset)
    (buf.drop (offset + part.length)) hvalues
  rw [hfront] at hmiddle
  have hlength := length_splice hvalues
  unfold splice at *
  rw [hmiddle, hlength]

end

theorem set_next (front : List α) (zero entry : α) (count : Nat) :
    (front ++ List.replicate (count + 1) zero).set front.length entry =
      (front ++ [entry]) ++ List.replicate count zero := by
  rw [List.set_append_right _ _ (Nat.le_refl _), Nat.sub_self,
    List.replicate_succ, List.set_cons_zero, List.append_assoc]
  rfl

end Osd.Foundation
