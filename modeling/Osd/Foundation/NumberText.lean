import Osd.Foundation.CString

/-!
# The texts that `strtol` reads to their end

A text is read to its end if it is empty, which has the value 0, or consists
of white space, an optional sign and at least one digit.  Values that do not
fit into a `long` saturate.
-/

namespace Osd.Foundation

inductive SignText : List Byte → Bool → Prop
  | absent : SignText [] false
  | plus : SignText [43] false
  | minus : SignText [45] true

def signedValue (negative : Bool) (magnitude : Nat) : Int :=
  if negative then -magnitude else magnitude

inductive NumberText : List Byte → Int → Prop
  | empty : NumberText [] 0
  | number {spaces sign digits : List Byte} {negative : Bool}
      (hspaces : ∀ char ∈ spaces, isSpace char = true)
      (hsign : SignText sign negative) (hne : digits ≠ [])
      (hdigits : ∀ char ∈ digits, isDigit char = true) :
      NumberText (spaces ++ sign ++ digits)
        (toLong (signedValue negative (decimalValue digits)))

/-! ## The scanners -/

section Scanners

variable {spaces sign digits text rest : List Byte} {negative : Bool}

theorem skipSpaces_append (hspaces : ∀ char ∈ spaces, isSpace char = true)
    {char : Byte} (hchar : isSpace char = false) :
    skipSpaces (spaces ++ char :: rest) = .ok (char :: rest) := by
  induction spaces with
  | nil => simp [skipSpaces, hchar]
  | cons space spaces ih =>
      have hspace := hspaces space (by simp)
      have htail : ∀ char ∈ spaces, isSpace char = true :=
        fun char hmem => hspaces char (by simp [hmem])
      simp [skipSpaces, hspace, ih htail]

theorem skipSpaces_eq_ok (h : skipSpaces text = .ok rest) :
    ∃ spaces, text = spaces ++ rest ∧
      ∀ char ∈ spaces, isSpace char = true := by
  induction text with
  | nil => simp [skipSpaces] at h
  | cons char text ih =>
      unfold skipSpaces at h
      split at h
      · rename_i hspace
        obtain ⟨spaces, heq, hspaces⟩ := ih h
        refine ⟨char :: spaces, by rw [heq, List.cons_append], ?_⟩
        simpa [hspace] using hspaces
      · exact ⟨[], (Except.ok.inj h), by simp⟩

theorem SignText.scanSign_append (hsign : SignText sign negative)
    {char : Byte} (hchar : isDigit char = true) :
    scanSign (sign ++ char :: rest) = (negative, char :: rest) := by
  cases hsign with
  | absent => exact scanSign_digit rest hchar
  | plus => rfl
  | minus => rfl

theorem scanSign_eq (h : scanSign text = (negative, rest)) :
    ∃ sign, SignText sign negative ∧ text = sign ++ rest := by
  unfold scanSign at h
  split at h
  · cases h
    exact ⟨[45], .minus, rfl⟩
  · cases h
    exact ⟨[43], .plus, rfl⟩
  · cases h
    exact ⟨[], .absent, rfl⟩

theorem scanDigits_eq_ok {value magnitude : Nat}
    (h : scanDigits value text = .ok (magnitude, rest)) :
    ∃ digits, text = digits ++ rest ∧
      (∀ char ∈ digits, isDigit char = true) ∧
      magnitude = decimalValueFrom value digits := by
  induction text generalizing value with
  | nil => simp [scanDigits] at h
  | cons char text ih =>
      unfold scanDigits at h
      split at h
      · rename_i hdigit
        obtain ⟨digits, heq, hdigits, hvalue⟩ := ih h
        refine ⟨char :: digits, by rw [heq, List.cons_append], ?_, ?_⟩
        · simpa [hdigit] using hdigits
        · rw [hvalue]
          rfl
      · cases h
        exact ⟨[], rfl, by simp, rfl⟩

end Scanners

/-! ## `strtol` -/

theorem SignText.not_isSpace {sign : List Byte} {negative : Bool}
    (h : SignText sign negative) :
    ∀ char ∈ sign, isSpace char = false := by
  cases h with
  | absent => simp
  | plus => simp [isSpace]
  | minus => simp [isSpace]

theorem strtol_number {spaces sign digits rest : List Byte} {negative : Bool}
    (hspaces : ∀ char ∈ spaces, isSpace char = true)
    (hsign : SignText sign negative) (hne : digits ≠ [])
    (hdigits : ∀ char ∈ digits, isDigit char = true) :
    strtol (spaces ++ sign ++ digits ++ 0 :: rest) =
      .ok (toLong (signedValue negative (decimalValue digits)),
        0 :: rest) := by
  obtain ⟨digit, more, rfl⟩ := List.exists_cons_of_ne_nil hne
  have hdigit := hdigits digit (by simp)
  have hskip : skipSpaces (spaces ++ (sign ++ digit :: (more ++ 0 :: rest))) =
      .ok (sign ++ digit :: (more ++ 0 :: rest)) := by
    cases sign with
    | nil => exact skipSpaces_append hspaces (not_isSpace_of_isDigit hdigit)
    | cons char tail =>
        exact skipSpaces_append hspaces (hsign.not_isSpace char (by simp))
  have hscan := scanDigits_append 0 (digit :: more) hdigits 0 (by decide) rest
  rw [List.cons_append] at hscan
  have htext : spaces ++ sign ++ digit :: more ++ 0 :: rest =
      spaces ++ (sign ++ digit :: (more ++ 0 :: rest)) := by
    simp
  rw [htext, strtol, hskip, ok_bind, hsign.scanSign_append hdigit]
  simp only [hdigit, if_true, hscan, ok_bind, signedValue, decimalValue]

/-- The end pointer is at a terminator exactly behind a number text. -/
theorem strtol_eq_ok_zero {text rest : List Byte} {value : Int} :
    strtol text = .ok (value, 0 :: rest) ↔
      ∃ number, text = number ++ 0 :: rest ∧ NumberText number value := by
  constructor
  · intro h
    obtain ⟨afterSpace, hskip, h⟩ := bind_eq_ok.mp h
    obtain ⟨spaces, hspaces, hallSpaces⟩ := skipSpaces_eq_ok hskip
    rcases hscan : scanSign afterSpace with ⟨negative, _ | ⟨char, tail⟩⟩
    · simp [hscan] at h
    · obtain ⟨sign, hsign, hafter⟩ := scanSign_eq hscan
      simp only [hscan] at h
      split at h
      · rename_i hdigit
        obtain ⟨⟨magnitude, endptr⟩, hdigits, h⟩ := bind_eq_ok.mp h
        obtain ⟨digits, htail, hallDigits, hmagnitude⟩ :=
          scanDigits_eq_ok hdigits
        cases h
        refine ⟨spaces ++ sign ++ digits, ?_, ?_⟩
        · rw [hspaces, hafter, htail]
          simp
        · rw [hmagnitude]
          apply NumberText.number hallSpaces hsign _ hallDigits
          rintro rfl
          cases htail
          simp [isDigit] at hdigit
      · cases h
        exact ⟨[], rfl, .empty⟩
  · rintro ⟨number, rfl, hnumber⟩
    cases hnumber with
    | empty => simp [strtol, skipSpaces, isSpace, scanSign, isDigit]
    | number hspaces hsign hne hdigits =>
        exact strtol_number hspaces hsign hne hdigits

theorem NumberText.ne_zero {text : List Byte} {value : Int}
    (h : NumberText text value) : ∀ char ∈ text, char ≠ 0 := by
  cases h with
  | empty => simp
  | number hspaces hsign _ hdigits =>
      intro char hchar
      rintro rfl
      rcases List.mem_append.mp hchar with hchar | hchar
      · rcases List.mem_append.mp hchar with hchar | hchar
        · simpa [isSpace] using hspaces 0 hchar
        · cases hsign with
          | absent => simp at hchar
          | plus => simp at hchar
          | minus => simp at hchar
      · simpa [isDigit] using hdigits 0 hchar

/-! ## Terminated objects -/

theorem exists_terminated (text : List Byte) :
    ∃ rest, text ++ [0] = cString text ++ 0 :: rest := by
  induction text with
  | nil => exact ⟨[], rfl⟩
  | cons char text ih =>
      by_cases hchar : char = 0
      · subst hchar
        exact ⟨text ++ [0], by simp [cString]⟩
      · obtain ⟨rest, hrest⟩ := ih
        refine ⟨rest, ?_⟩
        rw [List.cons_append, hrest]
        simp [cString, hchar]

theorem cString_append_zero {text : List Byte}
    (h : ∀ char ∈ text, char ≠ 0) (rest : List Byte) :
    cString (text ++ 0 :: rest) = text := by
  induction text with
  | nil => simp [cString]
  | cons char text ih =>
      have hchar : char ≠ 0 := h char (by simp)
      have hrest := ih fun char' hmem => h char' (by simp [hmem])
      simpa [cString, hchar] using hrest

/-- In a terminated object the number text is the whole string. -/
theorem strtol_terminated {text : List Byte} {value : Int} :
    (∃ rest, strtol (text ++ [0]) = .ok (value, 0 :: rest)) ↔
      NumberText (cString text) value := by
  constructor
  · rintro ⟨rest, h⟩
    obtain ⟨number, htext, hnumber⟩ := strtol_eq_ok_zero.mp h
    have hstring : cString text = number := by
      rw [← cString_terminated, htext]
      exact cString_append_zero hnumber.ne_zero rest
    rwa [hstring]
  · intro hnumber
    obtain ⟨rest, hrest⟩ := exists_terminated text
    exact ⟨rest, strtol_eq_ok_zero.mpr ⟨_, hrest, hnumber⟩⟩

end Osd.Foundation
