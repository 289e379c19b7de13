import Mathlib.Tactic

/-!
# Patches of a map

A patch gives new values to some of the arguments of a map.  Of several patches
the last one that covers an argument decides.
-/

namespace Osd.Foundation

abbrev Patch (α β : Type) := α → Option β

namespace Patch

variable {α β ε : Type}

def apply (patch : Patch α β) (map : α → β) : α → β :=
  fun a => (patch a).getD (map a)

def Covers (patch : Patch α β) (a : α) : Prop := patch a ≠ none

theorem apply_of_covers {patch : Patch α β} {a : α} {b : β}
    (h : patch a = some b) (map : α → β) : patch.apply map a = b := by
  rw [apply, h, Option.getD_some]

theorem apply_of_not_covers {patch : Patch α β} {a : α}
    (h : ¬patch.Covers a) (map : α → β) : patch.apply map a = map a := by
  rw [apply, not_not.mp h, Option.getD_none]

/-- The patches of a list, from the first one on. -/
def applyAll (patch : ε → Patch α β) (entries : List ε) (map : α → β) :
    α → β :=
  entries.foldl (fun map entry => (patch entry).apply map) map

theorem applyAll_cons (patch : ε → Patch α β) (entry : ε) (entries : List ε)
    (map : α → β) :
    applyAll patch (entry :: entries) map =
      applyAll patch entries ((patch entry).apply map) := rfl

theorem applyAll_append (patch : ε → Patch α β) (front back : List ε)
    (map : α → β) :
    applyAll patch (front ++ back) map =
      applyAll patch back (applyAll patch front map) := List.foldl_append

theorem applyAll_of_not_covers {patch : ε → Patch α β} {entries : List ε}
    {a : α} (h : ∀ entry ∈ entries, ¬(patch entry).Covers a) (map : α → β) :
    applyAll patch entries map a = map a := by
  induction entries generalizing map with
  | nil => rfl
  | cons entry entries ih =>
      obtain ⟨hentry, hentries⟩ := List.forall_mem_cons.mp h
      rw [applyAll_cons, ih hentries, apply_of_not_covers hentry]

/-- The entry is the last one that covers the argument. -/
structure LastCover (patch : ε → Patch α β) (entries : List ε) (a : α)
    (entry : ε) (b : β) : Prop where
  value : patch entry a = some b
  last : ∃ front back, entries = front ++ entry :: back ∧
    ∀ later ∈ back, ¬(patch later).Covers a

theorem LastCover.applyAll_eq {patch : ε → Patch α β} {entries : List ε}
    {a : α} {entry : ε} {b : β} (h : LastCover patch entries a entry b)
    (map : α → β) : applyAll patch entries map a = b := by
  obtain ⟨front, back, rfl, hlater⟩ := h.last
  rw [applyAll_append, applyAll_cons, applyAll_of_not_covers hlater,
    apply_of_covers h.value]

theorem exists_lastCover (patch : ε → Patch α β) (entries : List ε) (a : α) :
    (∀ entry ∈ entries, ¬(patch entry).Covers a) ∨
      ∃ entry ∈ entries, ∃ b, LastCover patch entries a entry b := by
  induction entries with
  | nil => simp
  | cons first entries ih =>
      rcases ih with hnone | ⟨entry, hmem, b, hvalue, front, back, rfl, hlast⟩
      · cases hfirst : patch first a with
        | none =>
            left
            intro entry hentry
            rcases List.mem_cons.mp hentry with rfl | hentry
            · exact not_not.mpr hfirst
            · exact hnone entry hentry
        | some b =>
            right
            exact ⟨first, List.mem_cons_self, b, hfirst, [], entries, rfl,
              hnone⟩
      · right
        exact ⟨entry, List.mem_cons_of_mem first hmem, b, hvalue,
          first :: front, back, rfl, hlast⟩

end Patch

end Osd.Foundation
