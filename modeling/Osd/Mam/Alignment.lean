import Osd.Mam.Write

/-!
# Ranges that are accepted

For which ranges no assertion of the client fails.  Words must not be crossed
by a short range, and every address that is sent must be a multiple of the
address width.
-/

namespace Osd.Mam

open Osd.Foundation

/-! ## Ranges -/

/-- A range inside of one word, or one that starts and ends such that all its
parts have aligned addresses. -/
def RangeAccepted (desc : MemDesc) (nbyte startAddr : Nat) : Prop :=
  if startAddr % desc.dwB + nbyte ≤ desc.dwB then
    (startAddr - startAddr % desc.dwB) % desc.awB = 0
  else
    desc.dwB ≤ nbyte ∧ (desc.awB ≤ desc.dwB ∨
      startAddr % desc.awB = 0 ∧ nbyte < 256 * desc.dwB ∧
        (nbyte % desc.dwB = 0 ∨
          (nbyte - nbyte % desc.dwB) % desc.awB = 0))

/-- The conditions of the assertions, part by part. -/
structure PartsAligned (desc : MemDesc) (nbyte startAddr : Nat)
    (parts : Nat × Nat × Nat) : Prop where
  prolog : parts.1 ≠ 0 →
    startAddr % desc.dwB + parts.1 ≤ desc.dwB ∧
      (startAddr - startAddr % desc.dwB) % desc.awB = 0
  bulk : ∀ t, t * (255 * desc.dwB) < parts.2.1 →
    (startAddr + parts.1 + t * (255 * desc.dwB)) % desc.awB = 0
  epilog : parts.2.2 ≠ 0 →
    (startAddr + parts.1 + parts.2.1) % desc.awB = 0

/-- The parts of a range that is not shorter than a word. -/
structure Parts (dwB nbyte startAddr : Nat) (parts : Nat × Nat × Nat) :
    Prop where
  sum : parts.1 + parts.2.1 + parts.2.2 = nbyte
  prolog_lt : parts.1 < dwB
  bulk_start : (startAddr + parts.1) % dwB = 0
  bulk_words : parts.2.1 % dwB = 0
  epilog_lt : parts.2.2 < dwB

section

variable {desc : MemDesc} {nbyte startAddr : Nat}

theorem calculateParts_short (h : nbyte < desc.dwB) :
    calculateParts startAddr nbyte desc.dwB = (nbyte, 0, 0) := by
  rw [calculateParts, if_pos h]

theorem calculateParts_parts (hdesc : desc.Supported)
    (hlt : startAddr + nbyte ≤ 2 ^ 64) (h : desc.dwB ≤ nbyte)
    (hsmall : nbyte < 2 ^ 32) :
    Parts desc.dwB nbyte startAddr
      (calculateParts startAddr nbyte desc.dwB) := by
  have hdw := hdesc.dwB_cases
  rw [calculateParts, if_neg (by omega)]
  generalize desc.dwB = dwB at h hdw
  rcases hdw with rfl | rfl | rfl
  · constructor <;> dsimp only <;> omega
  · constructor <;> dsimp only <;> omega
  · constructor <;> dsimp only <;> omega

theorem MemDesc.Supported.awB_dvd_dwB (hdesc : desc.Supported)
    (hle : desc.awB ≤ desc.dwB) : desc.awB ∣ desc.dwB := by
  have hdw := hdesc.dwB_cases
  have haw := hdesc.awB_cases
  generalize desc.dwB = dwB at *
  generalize desc.awB = awB at *
  rcases hdw with rfl | rfl | rfl <;> rcases haw with rfl | rfl | rfl <;> omega

theorem aligned_of_words (hdesc : desc.Supported)
    (hle : desc.awB ≤ desc.dwB) {addr : Nat} (h : addr % desc.dwB = 0) :
    addr % desc.awB = 0 :=
  Nat.mod_eq_zero_of_dvd
    ((hdesc.awB_dvd_dwB hle).trans (Nat.dvd_of_mod_eq_zero h))

theorem MemDesc.Supported.wide_cases (hdesc : desc.Supported)
    (hgt : desc.dwB < desc.awB) :
    desc.dwB = 2 ∧ desc.awB = 4 ∨ desc.dwB = 2 ∧ desc.awB = 8 ∨
      desc.dwB = 4 ∧ desc.awB = 8 := by
  have hdw := hdesc.dwB_cases
  have haw := hdesc.awB_cases
  omega

theorem Parts.prolog_inside (hdesc : desc.Supported)
    {parts : Nat × Nat × Nat} (h : Parts desc.dwB nbyte startAddr parts)
    (hpart : parts.1 ≠ 0) : startAddr % desc.dwB + parts.1 = desc.dwB := by
  have hdw := hdesc.dwB_cases
  obtain ⟨-, hprolog, hstart, -, -⟩ := h
  generalize desc.dwB = dwB at *
  rcases hdw with rfl | rfl | rfl <;> omega

theorem Parts.words {parts : Nat × Nat × Nat}
    (h : Parts desc.dwB nbyte startAddr parts) (t : Nat) :
    (startAddr - startAddr % desc.dwB) % desc.dwB = 0 ∧
      (startAddr + parts.1 + t * (255 * desc.dwB)) % desc.dwB = 0 ∧
      (startAddr + parts.1 + parts.2.1) % desc.dwB = 0 := by
  have hstart := Nat.dvd_of_mod_eq_zero h.bulk_start
  have hbulk := Nat.dvd_of_mod_eq_zero h.bulk_words
  have hblocks : desc.dwB ∣ t * (255 * desc.dwB) :=
    ((Nat.dvd_mul_left desc.dwB 255).mul_left t)
  exact ⟨Nat.mod_eq_zero_of_dvd (Nat.dvd_sub_mod startAddr),
    Nat.mod_eq_zero_of_dvd (hstart.add hblocks),
    Nat.mod_eq_zero_of_dvd (hstart.add hbulk)⟩

/-- Where addresses are wider than words, the whole range is one part. -/
theorem Parts.wide (hdesc : desc.Supported) (hgt : desc.dwB < desc.awB)
    {parts : Nat × Nat × Nat} (h : Parts desc.dwB nbyte startAddr parts)
    (haddr : startAddr % desc.awB = 0) (hlength : nbyte < 256 * desc.dwB)
    (hend : nbyte % desc.dwB = 0 ∨
      (nbyte - nbyte % desc.dwB) % desc.awB = 0) :
    parts.1 = 0 ∧ parts.2.1 ≤ 255 * desc.dwB ∧
      (parts.2.2 ≠ 0 → (startAddr + parts.2.1) % desc.awB = 0) := by
  have hcases := hdesc.wide_cases hgt
  obtain ⟨hsum, hprolog, hstart, hwords, hepilog⟩ := h
  generalize desc.dwB = dwB at *
  generalize desc.awB = awB at *
  rcases hcases with ⟨rfl, rfl⟩ | ⟨rfl, rfl⟩ | ⟨rfl, rfl⟩ <;> omega

theorem partsAligned_of_accepted (hdesc : desc.Supported)
    (hlt : startAddr + nbyte ≤ 2 ^ 64) (hpos : 1 ≤ nbyte)
    (hsmall : nbyte < 2 ^ 32) (h : RangeAccepted desc nbyte startAddr) :
    PartsAligned desc nbyte startAddr
      (calculateParts startAddr nbyte desc.dwB) := by
  unfold RangeAccepted at h
  by_cases hshort : nbyte < desc.dwB
  · rw [calculateParts_short hshort]
    split at h
    · rename_i hinside
      exact ⟨fun _ => ⟨hinside, h⟩, by simp, by simp⟩
    · exact absurd h.1 (by omega)
  · have hparts := calculateParts_parts hdesc hlt (by omega) hsmall
    generalize calculateParts startAddr nbyte desc.dwB = parts at hparts
    have hinside := hparts.prolog_inside hdesc
    by_cases hle : desc.awB ≤ desc.dwB
    · refine ⟨fun hpart => ⟨(hinside hpart).le, ?_⟩, fun t _ => ?_, fun _ => ?_⟩
      · exact aligned_of_words hdesc hle (hparts.words 0).1
      · exact aligned_of_words hdesc hle (hparts.words t).2.1
      · exact aligned_of_words hdesc hle (hparts.words 0).2.2
    · have hone : startAddr % desc.awB = 0 ∧ nbyte < 256 * desc.dwB ∧
          (nbyte % desc.dwB = 0 ∨
            (nbyte - nbyte % desc.dwB) % desc.awB = 0) := by
        split at h
        · rename_i hword
          have hzero : startAddr % desc.dwB = 0 := by omega
          rw [hzero, Nat.sub_zero] at h
          have hwhole : nbyte = desc.dwB := by omega
          exact ⟨h, by omega, .inl (by rw [hwhole, Nat.mod_self])⟩
        · exact h.2.resolve_left hle
      obtain ⟨hprolog, hbulk, hepilog⟩ := hparts.wide hdesc
        (Nat.lt_of_not_le hle) hone.1 hone.2.1 hone.2.2
      refine ⟨fun hpart => absurd hprolog hpart, fun t ht => ?_, fun hpart => ?_⟩
      · have hfirst : t = 0 := by
          by_contra hlater
          have hblock : 1 * (255 * desc.dwB) ≤ t * (255 * desc.dwB) :=
            Nat.mul_le_mul_right _ (by omega)
          omega
        rw [hprolog, hfirst, Nat.zero_mul]
        exact hone.1
      · rw [hprolog]
        exact hepilog hpart

theorem Parts.wide_conv (hdesc : desc.Supported)
    (hgt : desc.dwB < desc.awB) {parts : Nat × Nat × Nat}
    (h : Parts desc.dwB nbyte startAddr parts) (hlong : desc.dwB ≤ nbyte)
    (hprolog : parts.1 ≠ 0 →
      (startAddr - startAddr % desc.dwB) % desc.awB = 0)
    (hfirst : parts.2.1 ≠ 0 → (startAddr + parts.1) % desc.awB = 0)
    (hnext : 255 * desc.dwB < parts.2.1 →
      (startAddr + parts.1 + 255 * desc.dwB) % desc.awB = 0)
    (hlast : parts.2.2 ≠ 0 →
      (startAddr + parts.1 + parts.2.1) % desc.awB = 0) :
    startAddr % desc.awB = 0 ∧ nbyte < 256 * desc.dwB ∧
      (nbyte % desc.dwB = 0 ∨
        (nbyte - nbyte % desc.dwB) % desc.awB = 0) := by
  have hcases := hdesc.wide_cases hgt
  obtain ⟨hsum, hprolog', hstart, hwords, hepilog⟩ := h
  generalize desc.dwB = dwB at *
  generalize desc.awB = awB at *
  obtain ⟨prolog, bulk, epilog⟩ := parts
  dsimp only at *
  have hnone : prolog = 0 := by
    rcases hcases with ⟨rfl, rfl⟩ | ⟨rfl, rfl⟩ | ⟨rfl, rfl⟩ <;> omega
  subst hnone
  rcases hcases with ⟨rfl, rfl⟩ | ⟨rfl, rfl⟩ | ⟨rfl, rfl⟩ <;> omega

theorem accepted_of_partsAligned (hdesc : desc.Supported)
    (hlt : startAddr + nbyte ≤ 2 ^ 64) (hpos : 1 ≤ nbyte)
    (hsmall : nbyte < 2 ^ 32)
    (h : PartsAligned desc nbyte startAddr
      (calculateParts startAddr nbyte desc.dwB)) :
    RangeAccepted desc nbyte startAddr := by
  unfold RangeAccepted
  by_cases hshort : nbyte < desc.dwB
  · rw [calculateParts_short hshort] at h
    obtain ⟨hinside, haddr⟩ := h.prolog (by dsimp only; omega)
    rw [if_pos hinside]
    exact haddr
  · have hparts := calculateParts_parts hdesc hlt (by omega) hsmall
    generalize calculateParts startAddr nbyte desc.dwB = parts at h hparts
    have hwords := hparts.words 0
    by_cases hle : desc.awB ≤ desc.dwB
    · split
      · exact aligned_of_words hdesc hle hwords.1
      · exact ⟨by omega, .inl hle⟩
    · have hone := hparts.wide_conv hdesc (Nat.lt_of_not_le hle) (by omega)
        (fun hpart => (h.prolog hpart).2)
        (fun hpart => by
          have hchunk := h.bulk 0 (by omega)
          rwa [Nat.zero_mul] at hchunk)
        (fun hmore => by
          have hchunk := h.bulk 1 (by omega)
          rwa [Nat.one_mul] at hchunk) h.epilog
      split
      · have hzero : startAddr % desc.dwB = 0 := by omega
        rw [hzero, Nat.sub_zero]
        exact hone.1
      · exact ⟨by omega, .inr hone⟩

end

end Osd.Mam
