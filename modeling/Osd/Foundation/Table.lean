import Osd.Foundation.Outcome

/-!
# Pointer tables

A fixed-size array of nullable pointers whose loads and stores are checked,
and the loop that searches such an array upwards.
-/

namespace Osd.Foundation

@[ext] structure Table (size : Nat) (α : Type) where
  entry : Fin size → Option α

namespace Table

variable {size : Nat} {α : Type}

def empty : Table size α := ⟨fun _ => none⟩

/-- The entry at an index, nothing at indices outside of the table. -/
def get (table : Table size α) (index : Nat) : Option α :=
  if h : index < size then table.entry ⟨index, h⟩ else none

def load (table : Table size α) (index : Nat) : Outcome (Option α) := do
  inBounds (index < size)
  .ok (table.get index)

def set (table : Table size α) (index : Nat) (value : Option α) :
    Table size α :=
  ⟨fun i => if i.val = index then value else table.entry i⟩

def store (table : Table size α) (index : Nat) (value : Option α) :
    Outcome (Table size α) := do
  inBounds (index < size)
  .ok (table.set index value)

@[simp] theorem get_empty (index : Nat) :
    (empty : Table size α).get index = none := by
  simp [Table.get, empty]

theorem get_of_le {table : Table size α} {index : Nat} (h : size ≤ index) :
    table.get index = none := by
  simp [Table.get, Nat.not_lt.mpr h]

@[simp] theorem load_eq {table : Table size α} {index : Nat}
    (h : index < size) : table.load index = .ok (table.get index) := by
  rw [load, inBounds_bind h]

@[simp] theorem store_eq {table : Table size α} {index : Nat}
    (h : index < size) (value : Option α) :
    table.store index value = .ok (table.set index value) := by
  rw [store, inBounds_bind h]

theorem get_set_self {table : Table size α} {index : Nat} (h : index < size)
    (value : Option α) : (table.set index value).get index = value := by
  simp [get, set, h]

theorem get_set_ne {table : Table size α} {index other : Nat}
    (h : other ≠ index) (value : Option α) :
    (table.set index value).get other = table.get other := by
  by_cases hlt : other < size <;> simp [get, set, hlt, h]

theorem get_set_eq_some {table : Table size α} {index other : Nat}
    (h : index < size) {value found : α} :
    (table.set index (some value)).get other = some found ↔
      other = index ∧ found = value ∨
        other ≠ index ∧ table.get other = some found := by
  by_cases heq : other = index
  · subst heq
    rw [get_set_self h]
    simp [eq_comm]
  · simp [get_set_ne heq, heq]

/-! ## Searching -/

/-- The first index of `index, …, index + count - 1` whose entry meets `p`. -/
def search (table : Table size α) (p : Option α → Bool) :
    Nat → Nat → Outcome (Option Nat)
  | 0, _ => .ok none
  | count + 1, index => do
      let value ← table.load index
      if p value then .ok (some index) else search table p count (index + 1)

/-- What a search over `count` entries from `index` on finds. -/
inductive Found (table : Table size α) (p : Option α → Bool)
    (count index : Nat) : Option Nat → Prop
  | first (i : Nat) : index ≤ i → i < index + count → p (table.get i) = true →
      (∀ j, index ≤ j → j < i → p (table.get j) = false) →
      Found table p count index (some i)
  | absent : (∀ j, index ≤ j → j < index + count → p (table.get j) = false) →
      Found table p count index none

theorem search_spec (table : Table size α) (p : Option α → Bool)
    (count index : Nat) (h : index + count ≤ size) :
    ∃ result, table.search p count index = .ok result ∧
      Found table p count index result := by
  induction count generalizing index with
  | zero => exact ⟨none, rfl, .absent (fun j _ _ => by omega)⟩
  | succ count ih =>
      rw [search, load_eq (by omega), ok_bind]
      cases hp : p (table.get index) with
      | true =>
          exact ⟨some index, rfl, .first index (by omega) (by omega) hp
            (fun j _ _ => by omega)⟩
      | false =>
          obtain ⟨result, hsearch, hfound⟩ := ih (index + 1) (by omega)
          refine ⟨result, by simpa using hsearch, ?_⟩
          cases hfound with
          | first i hle hlt hi hbefore =>
              refine .first i (by omega) (by omega) hi (fun j _ _ => ?_)
              by_cases hj : j = index
              · exact hj ▸ hp
              · exact hbefore j (by omega) (by omega)
          | absent hall =>
              refine .absent (fun j _ _ => ?_)
              by_cases hj : j = index
              · exact hj ▸ hp
              · exact hall j (by omega) (by omega)

end Table

end Osd.Foundation
