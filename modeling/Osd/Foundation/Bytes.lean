import Mathlib.Tactic

/-!
# Byte order of 16 bit words

A word is stored as two bytes, low byte first in the memory of a little-endian
host and high byte first on the debug interconnect.
-/

namespace Osd.Foundation

abbrev Byte := UInt8

abbrev Word := UInt16

def joinBytes (high low : Byte) : Word :=
  high.toUInt16 <<< 8 ||| low.toUInt16

def highByte (word : Word) : Byte := (word >>> 8 &&& 0xFF).toUInt8

def lowByte (word : Word) : Byte := (word &&& 0xFF).toUInt8

theorem toNat_joinBytes (high low : Byte) :
    (joinBytes high low).toNat = 256 * high.toNat + low.toNat := by
  have hhigh := high.toNat_lt
  have hlow := low.toNat_lt
  rw [joinBytes, UInt16.toNat_or, UInt16.toNat_shiftLeft,
    UInt8.toNat_toUInt16, UInt8.toNat_toUInt16]
  simp only [UInt16.reduceToNat, Nat.reduceMod, Nat.reducePow]
  rw [Nat.mod_eq_of_lt (by rw [Nat.shiftLeft_eq]; omega),
    ← Nat.shiftLeft_add_eq_or_of_lt (by omega), Nat.shiftLeft_eq]
  ring

theorem toNat_highByte (word : Word) :
    (highByte word).toNat = word.toNat / 256 := by
  have hword := word.toNat_lt
  simp only [highByte, UInt16.toNat_toUInt8, UInt16.toNat_and,
    UInt16.toNat_shiftRight, UInt16.reduceToNat, Nat.reduceMod,
    Nat.shiftRight_eq_div_pow, Nat.reducePow]
  rw [show (255 : Nat) = 2 ^ 8 - 1 by norm_num, Nat.and_two_pow_sub_one_eq_mod]
  omega

theorem toNat_lowByte (word : Word) :
    (lowByte word).toNat = word.toNat % 256 := by
  simp only [lowByte, UInt16.toNat_toUInt8, UInt16.toNat_and,
    UInt16.reduceToNat]
  rw [show (255 : Nat) = 2 ^ 8 - 1 by norm_num, Nat.and_two_pow_sub_one_eq_mod]
  omega

@[simp] theorem highByte_joinBytes (high low : Byte) :
    highByte (joinBytes high low) = high := by
  have hlow := low.toNat_lt
  apply UInt8.toNat_inj.mp
  rw [toNat_highByte, toNat_joinBytes]
  omega

@[simp] theorem lowByte_joinBytes (high low : Byte) :
    lowByte (joinBytes high low) = low := by
  have hlow := low.toNat_lt
  apply UInt8.toNat_inj.mp
  rw [toNat_lowByte, toNat_joinBytes]
  omega

@[simp] theorem joinBytes_high_low (word : Word) :
    joinBytes (highByte word) (lowByte word) = word := by
  apply UInt16.toNat_inj.mp
  rw [toNat_joinBytes, toNat_highByte, toNat_lowByte]
  omega

/-! ## Little-endian host memory -/

def bytesOfWords (words : List Word) : List Byte :=
  words.flatMap fun word => [lowByte word, highByte word]

/-- The whole words of a byte string; a trailing odd byte is not part of any. -/
def wordsOfBytes : List Byte → List Word
  | low :: high :: rest => joinBytes high low :: wordsOfBytes rest
  | _ => []

@[simp] theorem length_bytesOfWords (words : List Word) :
    (bytesOfWords words).length = 2 * words.length := by
  induction words with
  | nil => rfl
  | cons word words ih =>
      simp only [bytesOfWords, List.flatMap_cons, List.length_append,
        List.length_cons, List.length_nil] at ih ⊢
      omega

@[simp] theorem length_wordsOfBytes (bytes : List Byte) :
    (wordsOfBytes bytes).length = bytes.length / 2 := by
  induction bytes using wordsOfBytes.induct with
  | case1 low high rest ih =>
      simp only [wordsOfBytes, List.length_cons, ih]
      omega
  | case2 bytes h =>
      match bytes with
      | [] => rfl
      | [_] => simp [wordsOfBytes]
      | low :: high :: rest => exact absurd rfl (h low high rest)

@[simp] theorem wordsOfBytes_bytesOfWords (words : List Word) :
    wordsOfBytes (bytesOfWords words) = words := by
  induction words with
  | nil => rfl
  | cons word words ih =>
      simpa [bytesOfWords, wordsOfBytes] using ih

theorem take_bytesOfWords (words : List Word) (count : Nat) :
    (bytesOfWords words).take (2 * count) =
      bytesOfWords (words.take count) := by
  induction words generalizing count with
  | nil => simp [bytesOfWords]
  | cons word words ih =>
      cases count with
      | zero => simp [bytesOfWords]
      | succ count =>
          have hrest := ih count
          unfold bytesOfWords at hrest ⊢
          simp [Nat.mul_succ, hrest]

theorem bytesOfWords_injective {first second : List Word}
    (h : bytesOfWords first = bytesOfWords second) : first = second := by
  rw [← wordsOfBytes_bytesOfWords first, h, wordsOfBytes_bytesOfWords]

theorem bytesOfWords_cons (word : Word) (words : List Word) :
    bytesOfWords (word :: words) =
      lowByte word :: highByte word :: bytesOfWords words := rfl

theorem bytesOfWords_wordsOfBytes (bytes : List Byte)
    (heven : bytes.length % 2 = 0) :
    bytesOfWords (wordsOfBytes bytes) = bytes := by
  induction bytes using wordsOfBytes.induct with
  | case1 low high rest ih =>
      have hrest : rest.length % 2 = 0 := by
        simp only [List.length_cons] at heven
        omega
      simp [wordsOfBytes, bytesOfWords_cons, ih hrest]
  | case2 bytes h =>
      match bytes with
      | [] => rfl
      | [_] => simp at heven
      | low :: high :: rest => exact absurd rfl (h low high rest)

/-! ## Big-endian streams -/

def streamOfWords (words : List Word) : List Byte :=
  words.flatMap fun word => [highByte word, lowByte word]

/-- Byte swapping each word of a stream in host memory. -/
def wordsOfStream : List Byte → List Word
  | high :: low :: rest => joinBytes high low :: wordsOfStream rest
  | _ => []

@[simp] theorem streamOfWords_nil : streamOfWords [] = [] := rfl

@[simp] theorem streamOfWords_cons (word : Word) (words : List Word) :
    streamOfWords (word :: words) =
      highByte word :: lowByte word :: streamOfWords words := rfl

@[simp] theorem length_streamOfWords (words : List Word) :
    (streamOfWords words).length = 2 * words.length := by
  induction words with
  | nil => rfl
  | cons word words ih =>
      simp only [streamOfWords_cons, List.length_cons, ih]
      omega

@[simp] theorem wordsOfStream_streamOfWords (words : List Word) :
    wordsOfStream (streamOfWords words) = words := by
  induction words with
  | nil => rfl
  | cons word words ih => simp [wordsOfStream, ih]

theorem length_wordsOfStream (bytes : List Byte) :
    (wordsOfStream bytes).length = bytes.length / 2 := by
  induction bytes using wordsOfStream.induct with
  | case1 high low rest ih =>
      simp only [wordsOfStream, List.length_cons, ih]
      omega
  | case2 bytes h =>
      rcases bytes with _ | ⟨high, _ | ⟨low, rest⟩⟩
      · rfl
      · simp [wordsOfStream]
      · exact absurd rfl (h high low rest)

/-- A trailing odd byte is lost. -/
theorem streamOfWords_wordsOfStream_take (bytes : List Byte) :
    streamOfWords (wordsOfStream bytes) =
      bytes.take (2 * (bytes.length / 2)) := by
  induction bytes using wordsOfStream.induct with
  | case1 high low rest ih =>
      have hsize : 2 * ((high :: low :: rest).length / 2) =
          2 * (rest.length / 2) + 2 := by
        simp only [List.length_cons]
        omega
      rw [hsize]
      simp [wordsOfStream, ih]
  | case2 bytes h =>
      match bytes with
      | [] => rfl
      | [_] => simp [wordsOfStream]
      | high :: low :: rest => exact absurd rfl (h high low rest)

theorem streamOfWords_wordsOfStream (bytes : List Byte)
    (heven : bytes.length % 2 = 0) :
    streamOfWords (wordsOfStream bytes) = bytes := by
  rw [streamOfWords_wordsOfStream_take, List.take_of_length_le (by omega)]

theorem wordsOfStream_take (bytes : List Byte) :
    wordsOfStream (bytes.take (2 * (bytes.length / 2))) =
      wordsOfStream bytes := by
  rw [← streamOfWords_wordsOfStream_take, wordsOfStream_streamOfWords]

/-! ## Numbers in words -/

/-- The number whose words are given, the least significant one first. -/
def wordsValue : List Word → Nat
  | [] => 0
  | word :: words => word.toNat + 65536 * wordsValue words

def wordsOfValue : Nat → Nat → List Word
  | 0, _ => []
  | count + 1, value =>
      UInt16.ofNat value :: wordsOfValue count (value / 65536)

@[simp] theorem length_wordsOfValue (count value : Nat) :
    (wordsOfValue count value).length = count := by
  induction count generalizing value with
  | zero => rfl
  | succ count ih => simp [wordsOfValue, ih]

theorem wordsValue_wordsOfValue (count value : Nat)
    (h : value < 65536 ^ count) :
    wordsValue (wordsOfValue count value) = value := by
  induction count generalizing value with
  | zero =>
      simp only [pow_zero, Nat.lt_one_iff] at h
      simp [wordsOfValue, wordsValue, h]
  | succ count ih =>
      have hrest := ih (value / 65536) (by
        rw [pow_succ] at h
        omega)
      have hword : (UInt16.ofNat value).toNat = value % 65536 :=
        UInt16.toNat_ofNat'
      unfold wordsOfValue wordsValue
      rw [hrest, hword]
      omega

theorem wordsValue_lt (words : List Word) :
    wordsValue words < 65536 ^ words.length := by
  induction words with
  | nil => simp [wordsValue]
  | cons word words ih =>
      have hword := word.toNat_lt
      unfold wordsValue
      rw [List.length_cons, pow_succ]
      omega

theorem wordsOfValue_wordsValue (words : List Word) :
    wordsOfValue words.length (wordsValue words) = words := by
  induction words with
  | nil => rfl
  | cons word words ih =>
      have hword := word.toNat_lt
      have hrest : (word.toNat + 65536 * wordsValue words) / 65536 =
          wordsValue words := by omega
      have hlow : UInt16.ofNat (word.toNat + 65536 * wordsValue words) =
          word := by
        apply UInt16.toNat_inj.mp
        rw [UInt16.toNat_ofNat']
        omega
      rw [List.length_cons, wordsValue, wordsOfValue, hlow, hrest, ih]

theorem wordsValue_snoc (words : List Word) (word : Word) :
    wordsValue (words ++ [word]) =
      wordsValue words + word.toNat * 65536 ^ words.length := by
  induction words with
  | nil => simp [wordsValue]
  | cons first words ih =>
      simp only [List.cons_append, wordsValue, ih, List.length_cons, pow_succ]
      ring

end Osd.Foundation
