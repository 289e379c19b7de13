import Osd.Foundation.Outcome
import Osd.Foundation.Bytes

/-!
# C strings and decimal numbers

A string is read byte by byte from an object of the given bytes.  Reading
continues up to a terminating zero; an object without one is overrun, which is
an out-of-bounds access.  `strtol` is the function of the C library for base
10 and a 64 bit `long`, `formatUnsigned` is the `%u` conversion.
-/

namespace Osd.Foundation

/-- The characters before the first zero. -/
def cString (object : List Byte) : List Byte :=
  object.takeWhile (· ≠ 0)

def isSpace (char : Byte) : Bool := char = 32 || (9 ≤ char && char ≤ 13)

def isDigit (char : Byte) : Bool := 48 ≤ char && char ≤ 57

def digitValue (char : Byte) : Nat := char.toNat - 48

def decimalValueFrom (value : Nat) (digits : List Byte) : Nat :=
  digits.foldl (fun value digit => 10 * value + digitValue digit) value

def decimalValue (digits : List Byte) : Nat := decimalValueFrom 0 digits

def longMax : Int := 2 ^ 63 - 1

def longMin : Int := -2 ^ 63

/-- Out of range values saturate. -/
def toLong (value : Int) : Int := max longMin (min longMax value)

def skipSpaces : List Byte → Outcome (List Byte)
  | [] => .error .outOfBounds
  | char :: rest =>
      if isSpace char then skipSpaces rest else .ok (char :: rest)

def scanDigits (value : Nat) : List Byte → Outcome (Nat × List Byte)
  | [] => .error .outOfBounds
  | char :: rest =>
      if isDigit char then scanDigits (10 * value + digitValue char) rest
      else .ok (value, char :: rest)

def scanSign : List Byte → Bool × List Byte
  | 45 :: rest => (true, rest)
  | 43 :: rest => (false, rest)
  | text => (false, text)

/-- The value and the text behind the number. -/
def strtol (nptr : List Byte) : Outcome (Int × List Byte) := do
  let afterSpace ← skipSpaces nptr
  match scanSign afterSpace with
  | (_, []) => .error .outOfBounds
  | (negative, char :: rest) =>
      if isDigit char then do
        let (magnitude, endptr) ← scanDigits 0 (char :: rest)
        let value : Int := if negative then -magnitude else magnitude
        .ok (toLong value, endptr)
      else
        -- no conversion: the end pointer is the argument itself
        .ok (0, nptr)

/-- `*p`. -/
def firstChar : List Byte → Outcome Byte
  | [] => .error .outOfBounds
  | char :: _ => .ok char

@[simp] theorem firstChar_cons (char : Byte) (rest : List Byte) :
    firstChar (char :: rest) = .ok char := rfl

theorem cString_terminated (text : List Byte) :
    cString (text ++ [0]) = cString text := by
  induction text with
  | nil => rfl
  | cons char rest ih =>
      by_cases hchar : char = 0
      · simp [cString, hchar]
      · simpa [cString, hchar] using ih

theorem cString_eq_self {text : List Byte} (h : ∀ char ∈ text, char ≠ 0) :
    cString text = text := by
  induction text with
  | nil => rfl
  | cons char rest ih =>
      have hchar : char ≠ 0 := h char (by simp)
      have hrest := ih fun char' hmem => h char' (by simp [hmem])
      simpa [cString, hchar] using hrest

theorem isDigit_iff (char : Byte) :
    isDigit char = true ↔ 48 ≤ char.toNat ∧ char.toNat ≤ 57 := by
  simp [isDigit, UInt8.le_iff_toNat_le]

theorem not_isSpace_of_isDigit {char : Byte} (h : isDigit char = true) :
    isSpace char = false := by
  rw [isDigit_iff] at h
  simp only [isSpace, Bool.or_eq_false_iff, decide_eq_false_iff_not,
    Bool.and_eq_false_iff, UInt8.le_iff_toNat_le]
  refine ⟨?_, Or.inr ?_⟩
  · rintro rfl
    simp at h
  · simp only [UInt8.reduceToNat]
    omega

theorem scanSign_digit {char : Byte} (rest : List Byte)
    (h : isDigit char = true) :
    scanSign (char :: rest) = (false, char :: rest) := by
  rw [isDigit_iff] at h
  have hminus : char ≠ 45 := by
    rintro rfl
    simp at h
  have hplus : char ≠ 43 := by
    rintro rfl
    simp at h
  simp [scanSign, hminus, hplus]

theorem scanDigits_append (value : Nat) (digits : List Byte)
    (hdigits : ∀ digit ∈ digits, isDigit digit = true) (stop : Byte)
    (hstop : isDigit stop = false) (rest : List Byte) :
    scanDigits value (digits ++ stop :: rest) =
      .ok (decimalValueFrom value digits, stop :: rest) := by
  induction digits generalizing value with
  | nil => simp [scanDigits, hstop, decimalValueFrom]
  | cons digit digits ih =>
      have hdigit := hdigits digit (by simp)
      have hrest : ∀ digit ∈ digits, isDigit digit = true :=
        fun digit' hmem => hdigits digit' (by simp [hmem])
      simp [scanDigits, hdigit, ih _ hrest, decimalValueFrom]

/-- A number without sign is read up to its terminator. -/
theorem strtol_digits (digits : List Byte) (hne : digits ≠ [])
    (hdigits : ∀ digit ∈ digits, isDigit digit = true) (stop : Byte)
    (hstop : isDigit stop = false) (rest : List Byte) :
    strtol (digits ++ stop :: rest) =
      .ok (toLong (decimalValue digits), stop :: rest) := by
  obtain ⟨digit, digits, rfl⟩ := List.exists_cons_of_ne_nil hne
  have hdigit := hdigits digit (by simp)
  have hscan := scanDigits_append 0 (digit :: digits) hdigits stop hstop rest
  rw [List.cons_append] at hscan
  simp only [strtol, List.cons_append, skipSpaces,
    not_isSpace_of_isDigit hdigit, Bool.false_eq_true, if_false, ok_bind,
    scanSign_digit _ hdigit, hdigit, if_true, hscan]
  rfl

theorem toLong_of_lt {value : Nat} (h : value < 2 ^ 63) :
    toLong value = value := by
  simp only [toLong, longMin, longMax]
  omega

/-! ## Formatting -/

def digitChar (digit : Nat) : Byte := UInt8.ofNat (48 + digit)

/-- The decimal digits of a number of at most `width` digits. -/
def decimalDigits : Nat → Nat → List Byte
  | 0, _ => []
  | width + 1, value =>
      if value < 10 then [digitChar value]
      else decimalDigits width (value / 10) ++ [digitChar (value % 10)]

/-- `%u` for a 32 bit `unsigned int`. -/
def formatUnsigned (value : Nat) : List Byte :=
  decimalDigits 10 (value % 2 ^ 32)

theorem isDigit_digitChar {digit : Nat} (h : digit < 10) :
    isDigit (digitChar digit) = true := by
  interval_cases digit <;> decide

theorem digitValue_digitChar {digit : Nat} (h : digit < 10) :
    digitValue (digitChar digit) = digit := by
  interval_cases digit <;> decide

theorem decimalDigits_isDigit (width value : Nat) :
    ∀ char ∈ decimalDigits width value, isDigit char = true := by
  induction width generalizing value with
  | zero => simp [decimalDigits]
  | succ width ih =>
      intro char hchar
      rw [decimalDigits] at hchar
      split at hchar
      · rename_i hlt
        rw [List.mem_singleton] at hchar
        exact hchar ▸ isDigit_digitChar hlt
      · rcases List.mem_append.mp hchar with hchar | hchar
        · exact ih _ _ hchar
        · rw [List.mem_singleton] at hchar
          exact hchar ▸ isDigit_digitChar (Nat.mod_lt _ (by omega))

theorem decimalDigits_ne_nil (width value : Nat) :
    decimalDigits (width + 1) value ≠ [] := by
  rw [decimalDigits]
  split <;> simp

theorem decimalValue_append (digits : List Byte) (digit : Byte) :
    decimalValue (digits ++ [digit]) =
      10 * decimalValue digits + digitValue digit := by
  simp [decimalValue, decimalValueFrom]

theorem decimalValue_decimalDigits (width value : Nat)
    (h : value < 10 ^ (width + 1)) :
    decimalValue (decimalDigits (width + 1) value) = value := by
  induction width generalizing value with
  | zero =>
      have hlt : value < 10 := by simpa using h
      simp [decimalDigits, hlt, decimalValue, decimalValueFrom,
        digitValue_digitChar hlt]
  | succ width ih =>
      rw [decimalDigits]
      split
      · rename_i hlt
        simp [decimalValue, decimalValueFrom, digitValue_digitChar hlt]
      · rw [decimalValue_append, ih _ (by rw [pow_succ] at h; omega),
          digitValue_digitChar (Nat.mod_lt _ (by omega))]
        omega

theorem formatUnsigned_isDigit (value : Nat) :
    ∀ char ∈ formatUnsigned value, isDigit char = true :=
  decimalDigits_isDigit _ _

theorem formatUnsigned_ne_nil (value : Nat) : formatUnsigned value ≠ [] :=
  decimalDigits_ne_nil _ _

theorem decimalValue_formatUnsigned {value : Nat} (h : value < 2 ^ 32) :
    decimalValue (formatUnsigned value) = value := by
  rw [formatUnsigned, Nat.mod_eq_of_lt h]
  exact decimalValue_decimalDigits 9 value (by norm_num at h ⊢; omega)

theorem formatUnsigned_injOn {first second : Nat} (hfirst : first < 2 ^ 32)
    (hsecond : second < 2 ^ 32)
    (h : formatUnsigned first = formatUnsigned second) : first = second := by
  rw [← decimalValue_formatUnsigned hfirst, h,
    decimalValue_formatUnsigned hsecond]

theorem strtol_formatUnsigned {value : Nat} (h : value < 2 ^ 32)
    (rest : List Byte) :
    strtol (formatUnsigned value ++ 0 :: rest) = .ok (value, 0 :: rest) := by
  rw [strtol_digits _ (formatUnsigned_ne_nil value)
    (formatUnsigned_isDigit value) 0 (by decide),
    decimalValue_formatUnsigned h, toLong_of_lt (by omega)]

end Osd.Foundation
