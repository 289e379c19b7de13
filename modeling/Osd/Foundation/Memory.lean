import Mathlib.Tactic

/-!
# Byte-addressed memories

A memory maps every address to a value.  Writing a list stores its values at
consecutive addresses; a masked write stores only the values that a mask
selects.
-/

namespace Osd.Foundation

abbrev Memory (α : Type) := Nat → α

namespace Memory

variable {α : Type}

def read (mem : Memory α) (addr count : Nat) : List α :=
  (List.range count).map fun i => mem (addr + i)

def writeMasked (mem : Memory α) (addr : Nat) (mask : Nat → Bool)
    (values : List α) : Memory α := fun a =>
  if addr ≤ a ∧ mask (a - addr) = true then
    values[a - addr]?.getD (mem a)
  else mem a

def write (mem : Memory α) (addr : Nat) (values : List α) : Memory α :=
  writeMasked mem addr (fun _ => true) values

@[simp] theorem length_read (mem : Memory α) (addr count : Nat) :
    (read mem addr count).length = count := by
  simp [read]

theorem read_add (mem : Memory α) (addr first second : Nat) :
    read mem addr (first + second) =
      read mem addr first ++ read mem (addr + first) second := by
  simp [read, List.range_add, Nat.add_assoc]

@[simp] theorem write_nil (mem : Memory α) (addr : Nat) :
    write mem addr [] = mem := by
  funext a
  simp [write, writeMasked]

theorem write_apply (mem : Memory α) (addr : Nat) (values : List α)
    (a : Nat) :
    write mem addr values a =
      if addr ≤ a then values[a - addr]?.getD (mem a) else mem a := by
  simp [write, writeMasked]

theorem write_append (mem : Memory α) (addr : Nat) (first second : List α) :
    write (write mem addr first) (addr + first.length) second =
      write mem addr (first ++ second) := by
  funext a
  simp only [write_apply]
  split
  · rename_i hbehind
    have hle : addr ≤ a := by omega
    rw [if_pos hle, if_pos hle, List.getElem?_append_right (by omega),
      List.getElem?_eq_none (by omega : first.length ≤ a - addr)]
    simp [Nat.sub_sub]
  · rename_i hnot
    split
    · rw [List.getElem?_append_left (by omega)]
    · rfl

@[simp] theorem read_write (mem : Memory α) (addr : Nat) (values : List α) :
    read (write mem addr values) addr values.length = values := by
  apply List.ext_getElem
  · simp
  · intro i hi hi'
    simp [read, write_apply, hi']

/-- A padded word whose mask selects the middle stores just the middle. -/
theorem writeMasked_padded (mem : Memory α) (addr : Nat)
    (mask : Nat → Bool) (front values back : List α)
    (hmask : ∀ i, i < (front ++ values ++ back).length →
      (mask i = true ↔
        front.length ≤ i ∧ i < front.length + values.length)) :
    writeMasked mem addr mask (front ++ values ++ back) =
      write mem (addr + front.length) values := by
  funext a
  rw [write_apply, writeMasked]
  by_cases hword : addr ≤ a ∧ a - addr < (front ++ values ++ back).length
  · obtain ⟨hle, hlt⟩ := hword
    by_cases hselected : mask (a - addr) = true
    · obtain ⟨hlow, hhigh⟩ := (hmask _ hlt).mp hselected
      rw [if_pos ⟨hle, hselected⟩, if_pos (by omega),
        List.getElem?_append_left (by simp only [List.length_append]; omega),
        List.getElem?_append_right hlow, Nat.sub_sub]
    · rw [if_neg (fun h => hselected h.2)]
      have hnot : ¬(front.length ≤ a - addr ∧
          a - addr < front.length + values.length) :=
        fun h => hselected ((hmask _ hlt).mpr h)
      split
      · rw [List.getElem?_eq_none (by omega)]
        rfl
      · rfl
  · have hvalues : addr + front.length ≤ a →
        values[a - (addr + front.length)]? = none := by
      intro hle
      simp only [List.length_append] at hword
      exact List.getElem?_eq_none (by omega)
    have hpadded : addr ≤ a →
        (front ++ values ++ back)[a - addr]? = none := by
      intro hle
      exact List.getElem?_eq_none (by omega)
    split
    · rename_i h
      rw [hpadded h.1]
      split
      · rw [hvalues (by assumption)]
      · rfl
    · split
      · rw [hvalues (by assumption)]
        rfl
      · rfl

end Memory

end Osd.Foundation
