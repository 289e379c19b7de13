import Mathlib.Tactic

/-!
# Lists with a cursor

A linked list that is walked with a cursor and may lose the item under the
cursor on the way: the cursor then steps back to the item before.  When the
first item is removed, the cursor is left unset; whether the next step starts
over at the head of the list or finds nothing is a parameter.
-/

namespace Osd.Foundation

structure CursorList (α : Type) where
  items : List α
  cursor : Option Nat

namespace CursorList

variable {α : Type}

def empty : CursorList α := ⟨[], none⟩

def append (list : CursorList α) (item : α) : CursorList α :=
  ⟨list.items ++ [item], none⟩

/-- Moves the cursor, off the list where there is no such item. -/
def moveTo (list : CursorList α) (index : Nat) :
    Option α × CursorList α :=
  match list.items[index]? with
  | none => (none, { list with cursor := none })
  | some item => (some item, { list with cursor := some index })

def first (list : CursorList α) : Option α × CursorList α := list.moveTo 0

def next (restart : Bool) (list : CursorList α) :
    Option α × CursorList α :=
  match list.cursor with
  | some index => list.moveTo (index + 1)
  | none => if restart then list.moveTo 0 else (none, list)

/-- The cursor after item `index` is gone. -/
def cursorWithout (index : Nat) : Option Nat → Option Nat
  | none => none
  | some cursor =>
      if cursor < index then some cursor
      else if cursor = 0 then none else some (cursor - 1)

/-- Removes the first item that equals the given one. -/
def remove [DecidableEq α] (list : CursorList α) (item : α) :
    CursorList α :=
  match list.items.idxOf? item with
  | none => list
  | some index => ⟨list.items.eraseIdx index, cursorWithout index list.cursor⟩

/-! ## Walking -/

/-- The cursor is at the first of `rest`, behind `before`. -/
structure Between (list : CursorList α) (before rest : List α) : Prop where
  items : list.items = before ++ rest
  cursor : list.cursor = if rest = [] then none else some before.length

variable {list : CursorList α} {before rest : List α} {item : α}

theorem moveTo_between (list : CursorList α) (before rest : List α)
    (h : list.items = before ++ rest) :
    (list.moveTo before.length).1 = rest.head? ∧
      Between (list.moveTo before.length).2 before rest := by
  have hget : list.items[before.length]? = rest.head? := by
    rw [h, List.getElem?_append_right (Nat.le_refl _), Nat.sub_self,
      List.head?_eq_getElem?]
  unfold moveTo
  rw [hget]
  cases rest with
  | nil => exact ⟨rfl, h, rfl⟩
  | cons item rest => exact ⟨rfl, h, rfl⟩

theorem first_between (list : CursorList α) :
    list.first.1 = list.items.head? ∧
      Between list.first.2 [] list.items :=
  moveTo_between list [] list.items rfl

theorem Between.next (h : Between list before (item :: rest))
    (restart : Bool) :
    (list.next restart).1 = rest.head? ∧
      Between (list.next restart).2 (before ++ [item]) rest := by
  have hcursor : list.cursor = some before.length := by
    rw [h.cursor, if_neg (List.cons_ne_nil item rest)]
  have hitems : list.items = before ++ [item] ++ rest := by
    rw [h.items, List.append_assoc]
    rfl
  have hmove := moveTo_between list (before ++ [item]) rest hitems
  rw [List.length_append, List.length_singleton] at hmove
  unfold CursorList.next
  rw [hcursor]
  exact hmove

section Remove

variable [DecidableEq α]

theorem Between.remove (h : Between list before (item :: rest))
    (hfirst : item ∉ before) :
    list.remove item =
      ⟨before ++ rest,
        if before = [] then none else some (before.length - 1)⟩ := by
  have hcursor : list.cursor = some before.length := by
    rw [h.cursor, if_neg (List.cons_ne_nil item rest)]
  have hindex : list.items.idxOf? item = some before.length := by
    rw [h.items, List.idxOf?, List.findIdx?_append]
    have hnone : before.findIdx? (· == item) = none := by
      rw [List.findIdx?_eq_none_iff]
      intro other hother
      simp only [beq_eq_false_iff_ne]
      rintro rfl
      exact hfirst hother
    rw [hnone]
    simp [List.findIdx?_cons]
  unfold CursorList.remove
  rw [hindex, hcursor]
  dsimp only [cursorWithout]
  rw [h.items, if_neg (Nat.lt_irrefl _),
    List.eraseIdx_append_of_length_le (Nat.le_refl _), Nat.sub_self]
  simp [List.length_eq_zero_iff]

theorem Between.next_remove (h : Between list before (item :: rest))
    (hfirst : item ∉ before) (restart : Bool) :
    ((list.remove item).next restart).2.items = before ++ rest ∧
      (((list.remove item).next restart).1 = none ∨
        ((list.remove item).next restart).1 = rest.head? ∧
          Between ((list.remove item).next restart).2 before rest) := by
  rw [h.remove hfirst]
  have hmove := moveTo_between
    ⟨before ++ rest, if before = [] then none else some (before.length - 1)⟩
    before rest rfl
  rcases before.eq_nil_or_concat with rfl | ⟨front, last, rfl⟩
  · cases restart with
    | false => exact ⟨rfl, .inl rfl⟩
    | true => exact ⟨hmove.2.items, .inr hmove⟩
  · have hne : front.concat last ≠ [] := by simp
    unfold CursorList.next
    rw [if_neg hne] at hmove ⊢
    dsimp only
    rw [Nat.sub_add_cancel (List.length_pos_of_ne_nil hne)]
    exact ⟨hmove.2.items, .inr hmove⟩

theorem length_remove (list : CursorList α) (item : α) :
    list.items.length ≤ (list.remove item).items.length + 1 := by
  unfold CursorList.remove
  split
  · exact Nat.le_succ _
  · rw [List.length_eraseIdx]
    split <;> omega

end Remove

@[simp] theorem items_moveTo (list : CursorList α) (index : Nat) :
    (list.moveTo index).2.items = list.items := by
  unfold moveTo
  split <;> rfl

@[simp] theorem items_first (list : CursorList α) :
    list.first.2.items = list.items :=
  items_moveTo list 0

@[simp] theorem items_next (list : CursorList α) (restart : Bool) :
    (list.next restart).2.items = list.items := by
  unfold CursorList.next
  split
  · exact items_moveTo list _
  · split
    · exact items_moveTo list _
    · rfl

end CursorList

end Osd.Foundation
