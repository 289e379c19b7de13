import Osd.Foundation.CString

/-!
# Lines of text

Records that are printed as one line each, with blanks between their fields,
and read back from a text that may end within a line.
-/

namespace Osd.Foundation

def blank : Byte := 32

def lineFeed : Byte := 10

def bytesOf (text : String) : List Byte :=
  text.toList.map fun char => UInt8.ofNat char.toNat

/-! ## Hexadecimal numbers -/

def hexChar (digit : Nat) : Byte :=
  UInt8.ofNat (if digit < 10 then 48 + digit else 87 + digit)

def hexDigit? (char : Byte) : Option Nat :=
  if 48 ≤ char ∧ char ≤ 57 then some (char.toNat - 48)
  else if 97 ≤ char ∧ char ≤ 102 then some (char.toNat - 87)
  else none

/-- `%0wx` for a number of at most `w` digits. -/
def paddedHex : Nat → Nat → List Byte
  | 0, _ => []
  | width + 1, value => paddedHex width (value / 16) ++ [hexChar (value % 16)]

def readHexFrom (value : Nat) : List Byte → Option Nat
  | [] => some value
  | char :: rest => do
      let digit ← hexDigit? char
      readHexFrom (16 * value + digit) rest

def readHex (text : List Byte) : Option Nat := readHexFrom 0 text

theorem hexDigit?_hexChar {digit : Nat} (h : digit < 16) :
    hexDigit? (hexChar digit) = some digit := by
  interval_cases digit <;> decide

theorem not_isSpace_hexChar {digit : Nat} (h : digit < 16) :
    isSpace (hexChar digit) = false := by
  interval_cases digit <;> decide

theorem readHexFrom_concat (text : List Byte) (char : Byte) (value : Nat) :
    readHexFrom value (text ++ [char]) = do
      let value ← readHexFrom value text
      let digit ← hexDigit? char
      return 16 * value + digit := by
  induction text generalizing value with
  | nil => simp [readHexFrom]
  | cons first rest ih =>
      rw [List.cons_append, readHexFrom, readHexFrom]
      cases hexDigit? first with
      | none => rfl
      | some digit => exact ih _

theorem readHex_paddedHex {width value : Nat} (h : value < 16 ^ width) :
    readHex (paddedHex width value) = some value := by
  unfold readHex
  induction width generalizing value with
  | zero =>
      have hzero : value = 0 := by simpa using h
      rw [hzero]
      rfl
  | succ width ih =>
      have hdigit : value % 16 < 16 := Nat.mod_lt _ (by decide)
      have hfront : value / 16 < 16 ^ width := by
        rw [pow_succ] at h
        omega
      have hvalue : 16 * (value / 16) + value % 16 = value :=
        Nat.div_add_mod value 16
      rw [paddedHex, readHexFrom_concat, ih hfront]
      simp [hexDigit?_hexChar hdigit, hvalue]

/-! ## Words without white space -/

def Unspaced (text : List Byte) : Prop :=
  ∀ char ∈ text, isSpace char = false

instance (text : List Byte) : Decidable (Unspaced text) :=
  List.decidableBAll (fun char => isSpace char = false) text

theorem Unspaced.blank_not_mem {text : List Byte} (h : Unspaced text) :
    blank ∉ text :=
  fun hmem => absurd (h blank hmem) (by decide)

theorem Unspaced.lineFeed_not_mem {text : List Byte} (h : Unspaced text) :
    lineFeed ∉ text :=
  fun hmem => absurd (h lineFeed hmem) (by decide)

theorem unspaced_paddedHex (width value : Nat) :
    Unspaced (paddedHex width value) := by
  induction width generalizing value with
  | zero => simp [Unspaced, paddedHex]
  | succ width ih =>
      intro char hchar
      rw [paddedHex, List.mem_append, List.mem_singleton] at hchar
      rcases hchar with hchar | rfl
      · exact ih _ char hchar
      · exact not_isSpace_hexChar (Nat.mod_lt _ (by decide))

theorem unspaced_formatUnsigned (value : Nat) :
    Unspaced (formatUnsigned value) :=
  fun char hchar =>
    not_isSpace_of_isDigit (formatUnsigned_isDigit value char hchar)

def spaced (fields : List (List Byte)) : List Byte :=
  [blank].intercalate fields

theorem splitOn_spaced {fields : List (List Byte)} (hne : fields ≠ [])
    (h : ∀ field ∈ fields, Unspaced field) :
    (spaced fields).splitOn blank = fields :=
  List.splitOn_intercalate blank (fun field hfield =>
    (h field hfield).blank_not_mem) hne

theorem lineFeed_not_mem_spaced {fields : List (List Byte)}
    (h : ∀ field ∈ fields, Unspaced field) : lineFeed ∉ spaced fields := by
  unfold spaced
  induction fields with
  | nil => simp
  | cons field fields ih =>
      have hfield := (h field (by simp)).lineFeed_not_mem
      have hrest := ih fun other hother => h other (by simp [hother])
      cases fields with
      | nil => simpa using hfield
      | cons next fields =>
          rw [List.intercalate_cons_cons, List.mem_append, List.mem_append]
          have hblank : lineFeed ∉ [blank] := by decide
          tauto

/-! ## Lines -/

structure LineFormat (α : Type) where
  print : α → List Byte
  read : List Byte → Option α

namespace LineFormat

variable {α : Type} {format : LineFormat α} {value : α} {values : List α}

def line (format : LineFormat α) (value : α) : List Byte :=
  format.print value ++ [lineFeed]

def text (format : LineFormat α) (values : List α) : List Byte :=
  values.flatMap format.line

/-- An incomplete last line is left out. -/
def readText (format : LineFormat α) (text : List Byte) : Option (List α) :=
  (text.splitOn lineFeed).dropLast.mapM format.read

structure Reads (format : LineFormat α) (value : α) : Prop where
  oneLine : lineFeed ∉ format.print value
  read_print : format.read (format.print value) = some value

theorem text_cons (format : LineFormat α) (value : α) (values : List α) :
    format.text (value :: values) =
      format.print value ++ lineFeed :: format.text values := by
  simp [text, line]

theorem readText_incomplete {text : List Byte} (h : lineFeed ∉ text) :
    format.readText text = some [] := by
  rw [readText, List.splitOn_eq_singleton h]
  rfl

theorem readText_line (h : format.Reads value) (rest : List Byte) :
    format.readText (format.print value ++ lineFeed :: rest) = do
      let values ← format.readText rest
      return value :: values := by
  have hne := List.splitOn_ne_nil lineFeed rest
  rw [readText, List.splitOn_append_cons_self_of_not_mem h.oneLine,
    List.dropLast_cons_of_ne_nil hne, List.mapM_cons, h.read_print]
  rfl

/-- A text that is cut anywhere reads as the records of its whole lines. -/
theorem readText_begun (h : ∀ value ∈ values, format.Reads value)
    {text : List Byte} (hbegun : text <+: format.text values) :
    format.readText text = some (values.take (text.count lineFeed)) := by
  induction values generalizing text with
  | nil =>
      have hempty : text = [] := List.prefix_nil.mp hbegun
      rw [hempty]
      rfl
  | cons value values ih =>
      have hfirst := h value (by simp)
      have hrest := fun other hother =>
        h other (List.mem_cons_of_mem value hother)
      have hline : format.print value ++ [lineFeed] <+:
          format.text (value :: values) := ⟨format.text values, by
        rw [text_cons, List.append_assoc]
        rfl⟩
      have hwhole (rest : List Byte) (hrest' : rest <+: format.text values) :
          format.readText (format.print value ++ lineFeed :: rest) =
            some ((value :: values).take
              ((format.print value ++ lineFeed :: rest).count lineFeed)) := by
        have hcount : (format.print value ++ lineFeed :: rest).count lineFeed =
            rest.count lineFeed + 1 := by
          rw [List.count_append, List.count_eq_zero.mpr hfirst.oneLine,
            List.count_cons_self, Nat.zero_add]
        rw [readText_line hfirst, ih hrest hrest', hcount,
          List.take_succ_cons]
        rfl
      rcases List.prefix_or_prefix_of_prefix hbegun hline with hshort | hlong
      · rcases List.prefix_concat_iff.mp hshort with rfl | hcut
        · exact hwhole [] (List.nil_prefix)
        · have hnone : lineFeed ∉ text :=
            fun hmem => hfirst.oneLine (hcut.subset hmem)
          rw [readText_incomplete hnone, List.count_eq_zero.mpr hnone]
          rfl
      · obtain ⟨rest, rfl⟩ := hlong
        rw [text_cons, List.append_assoc, List.prefix_append_right_inj,
          List.singleton_append, List.cons_prefix_cons] at hbegun
        rw [List.append_assoc]
        exact hwhole rest hbegun.2

end LineFormat

end Osd.Foundation
