import Mathlib.Tactic

/-!
# Selection of first minima

A list is sorted by taking out its first element with the least key again and
again.  Taking the first one keeps elements with equal keys in order.
-/

namespace Osd.Foundation

section

variable {α κ : Type} [LinearOrder κ] (key : α → κ)

/-- `entry` is the first element with the least key of
`front ++ entry :: back`. -/
structure FirstMin (front : List α) (entry : α) (back : List α) : Prop where
  front : ∀ other ∈ front, key entry < key other
  back : ∀ other ∈ back, key entry ≤ key other

/-- The second list is the first one, first minimum by first minimum. -/
inductive Selects : List α → List α → Prop
  | nil : Selects [] []
  | cons {front back sorted : List α} {entry : α}
      (hfirst : FirstMin key front entry back)
      (hrest : Selects (front ++ back) sorted) :
      Selects (front ++ entry :: back) (entry :: sorted)

/-- A permutation with ascending keys, where elements with equal keys keep
their order. -/
structure StableSorted (entries sorted : List α) : Prop where
  perm : sorted.Perm entries
  ascending : sorted.Pairwise fun first second => key first ≤ key second
  stable : ∀ k, sorted.filter (fun entry => key entry = k) =
    entries.filter (fun entry => key entry = k)

variable {key}

theorem FirstMin.le {front back : List α} {entry : α}
    (h : FirstMin key front entry back) :
    ∀ other ∈ front ++ back, key entry ≤ key other := by
  intro other hother
  rcases List.mem_append.mp hother with hfront | hback
  · exact (h.front other hfront).le
  · exact h.back other hback

/-- With the key of the minimum nothing is taken out before it. -/
theorem FirstMin.filter {front back : List α} {entry : α}
    (h : FirstMin key front entry back) (k : κ) :
    (entry :: (front ++ back)).filter (fun other => key other = k) =
      (front ++ entry :: back).filter (fun other => key other = k) := by
  by_cases hkey : key entry = k
  · have hnone : front.filter (fun other => key other = k) = [] := by
      apply List.filter_eq_nil_iff.mpr
      intro other hother
      have hlt := h.front other hother
      rw [hkey] at hlt
      simpa using hlt.ne'
    simp [hkey, hnone]
  · simp [hkey]

theorem FirstMin.cons {front back : List α} {entry first : α}
    (h : FirstMin key front entry back) (hlt : key entry < key first) :
    FirstMin key (first :: front) entry back where
  front := List.forall_mem_cons.mpr ⟨hlt, h.front⟩
  back := h.back

variable (key) in
theorem exists_firstMin (entries : List α) (h : entries ≠ []) :
    ∃ front entry back, entries = front ++ entry :: back ∧
      FirstMin key front entry back := by
  induction entries with
  | nil => exact absurd rfl h
  | cons first entries ih =>
      rcases eq_or_ne entries [] with rfl | hne
      · exact ⟨[], first, [], rfl, by simp, by simp⟩
      · obtain ⟨front, entry, back, rfl, hmin⟩ := ih hne
        rcases lt_or_ge (key entry) (key first) with hlt | hle
        · exact ⟨first :: front, entry, back, rfl, hmin.cons hlt⟩
        · refine ⟨[], first, _, rfl, by simp, ?_⟩
          intro other hother
          rcases List.mem_append.mp hother with hfront | hback
          · exact hle.trans (hmin.front other hfront).le
          · rcases List.mem_cons.mp hback with rfl | hback
            · exact hle
            · exact hle.trans (hmin.back other hback)

theorem Selects.stableSorted {entries sorted : List α}
    (h : Selects key entries sorted) : StableSorted key entries sorted := by
  induction h with
  | nil => exact ⟨.refl [], .nil, fun _ => rfl⟩
  | cons hfirst hrest ih =>
      refine ⟨?_, ?_, ?_⟩
      · exact (ih.perm.cons _).trans List.perm_middle.symm
      · refine List.pairwise_cons.mpr ⟨?_, ih.ascending⟩
        intro other hother
        exact hfirst.le other (ih.perm.mem_iff.mp hother)
      · intro k
        rw [← hfirst.filter k, List.filter_cons, List.filter_cons, ih.stable k]

end

end Osd.Foundation
