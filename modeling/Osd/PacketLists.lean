import Osd.Foundation.Runs
import Osd.PacketFrames

/-!
# Packets as lists

`PacketType` of the Python bindings and `PacketPayloadView` are mutable
sequences.  The methods `append` and `pop` come from `MutableSequence`.
-/

namespace Osd

open Osd.Foundation

/-! ## Python calls -/

inductive PyError where
  | indexError
  | valueError
  | overflowError
  deriving DecidableEq

/-- A call raises an exception or returns, and leaves an object behind. -/
abbrev PyCall (σ α : Type) := σ → Outcome (Except PyError α × σ)

def raise {σ α : Type} (error : PyError) : PyCall σ α :=
  fun s => .ok (.error error, s)

def andThen {σ α β : Type} (call : PyCall σ α) (next : α → PyCall σ β) :
    PyCall σ β :=
  fun s => do
    match ← call s with
    | (.error error, s) => .ok (.error error, s)
    | (.ok value, s) => next value s

/-- A Python integer becomes a `Py_ssize_t`. -/
def asSsizeT {σ : Type} (value : Int) : PyCall σ Unit :=
  fun s =>
    if -2 ^ 63 ≤ value ∧ value < 2 ^ 63 then .ok (.ok (), s)
    else raise .overflowError s

def asSizeT {σ : Type} (value : Int) : PyCall σ Unit :=
  fun s =>
    if 0 ≤ value ∧ value < 2 ^ 64 then .ok (.ok (), s)
    else raise .overflowError s

/-! ## Memory of the packet -/

def Packet.load (packet : Packet) (index : Int) : Outcome Word := do
  inBounds (0 ≤ index)
  packet.word index.toNat

def Packet.store (packet : Packet) (index : Int) (value : Word) :
    Outcome Packet := do
  inBounds (0 ≤ index ∧ index < packet.dataRaw.length)
  .ok { packet with dataRaw := packet.dataRaw.set index.toNat value }

/-- `memmove` of whole words inside of the data area. -/
def Packet.memmove (packet : Packet) (dest src count : Int) :
    Outcome Packet := do
  inBounds (0 ≤ src ∧ src + count ≤ packet.dataRaw.length)
  inBounds (0 ≤ dest)
  let dataRaw ← storeWords packet.dataRaw dest.toNat
    ((packet.dataRaw.drop src.toNat).take count.toNat)
  .ok { packet with dataRaw }

/-! ## PacketType -/

structure PySequence (σ : Type) where
  len : σ → Int
  getItem : Int → PyCall σ Word
  setItem : Int → Word → PyCall σ Unit
  delItem : Int → PyCall σ Unit
  insert : Int → Word → PyCall σ Unit

def packetGetItem (index : Int) : PyCall Packet Word := fun packet =>
  if packet.dataSizeWords.toNat ≤ index then raise .indexError packet
  else
    andThen (asSsizeT index) (fun _ packet => do
      let word ← packet.load index
      .ok (.ok word, packet)) packet

def packetSetItem (index : Int) (value : Word) : PyCall Packet Unit :=
  fun packet =>
    if packet.dataSizeWords.toNat ≤ index then raise .indexError packet
    else
      andThen (asSsizeT index) (fun _ packet => do
        let packet ← packet.store index value
        .ok (.ok (), packet)) packet

def packetDelItem (index : Int) : PyCall Packet Unit := fun packet =>
  if packet.dataSizeWords.toNat ≤ 3 then raise .valueError packet
  else
    let wordsAfterDeletedOne : Int := packet.dataSizeWords.toNat - index - 1
    andThen (asSsizeT index) (fun _ =>
      andThen (asSsizeT (index + 1)) fun _ =>
        andThen (asSizeT (wordsAfterDeletedOne * 2)) fun _ packet => do
          let packet ← packet.memmove index (index + 1) wordsAfterDeletedOne
          .ok (.ok (),
            osdPacketRealloc packet (packet.dataSizeWords.toNat - 1)))
      packet

def packetMakeRoom (index : Int) (oldSizeWords : Nat) :
    PyCall Packet Unit := fun packet =>
  if index < oldSizeWords then
    andThen (asSsizeT (index + 1)) (fun _ =>
      andThen (asSsizeT index) fun _ =>
        andThen (asSizeT ((oldSizeWords - index) * 2)) fun _ packet => do
          let packet ← packet.memmove (index + 1) index
            (oldSizeWords - index)
          .ok (.ok (), packet))
      packet
  else .ok (.ok (), packet)

def packetInsert (index : Int) (value : Word) : PyCall Packet Unit :=
  fun packet =>
    let oldSizeWords := packet.dataSizeWords.toNat
    let packet := osdPacketRealloc packet (oldSizeWords + 1)
    andThen (packetMakeRoom index oldSizeWords) (fun _ =>
      andThen (asSsizeT index) fun _ packet => do
        let packet ← packet.store index value
        .ok (.ok (), packet))
      packet

def packetType : PySequence Packet where
  len := fun packet => packet.dataSizeWords.toNat
  getItem := packetGetItem
  setItem := packetSetItem
  delItem := packetDelItem
  insert := packetInsert

def packetPayloadView : PySequence Packet where
  len := fun packet => packetType.len packet - packetHeaderWordCnt
  getItem := fun index => packetType.getItem (index + packetHeaderWordCnt)
  setItem := fun index => packetType.setItem (index + packetHeaderWordCnt)
  delItem := fun index => packetType.delItem (index + packetHeaderWordCnt)
  insert := fun index => packetType.insert (index + packetHeaderWordCnt)

/-! ## MutableSequence -/

def PySequence.append {σ : Type} (sequence : PySequence σ) (value : Word) :
    PyCall σ Unit :=
  fun s => sequence.insert (sequence.len s) value s

def PySequence.pop {σ : Type} (sequence : PySequence σ) : PyCall σ Word :=
  andThen (sequence.getItem (-1)) fun value =>
    andThen (sequence.delItem (-1)) fun _ s => .ok (.ok value, s)

inductive PyOp where
  | len
  | getItem (index : Int)
  | setItem (index : Int) (value : Word)
  | delItem (index : Int)
  | insert (index : Int) (value : Word)
  | append (value : Word)
  | pop
  deriving DecidableEq

inductive PyValue where
  | none
  | size (count : Int)
  | word (word : Word)
  deriving DecidableEq

def returning {σ α : Type} (value : α → PyValue) (call : PyCall σ α) :
    PyCall σ PyValue :=
  andThen call fun result s => .ok (.ok (value result), s)

def PySequence.call {σ : Type} (sequence : PySequence σ) :
    PyOp → PyCall σ PyValue
  | .len => fun s => .ok (.ok (.size (sequence.len s)), s)
  | .getItem index => returning .word (sequence.getItem index)
  | .setItem index value =>
      returning (fun _ => .none) (sequence.setItem index value)
  | .delItem index => returning (fun _ => .none) (sequence.delItem index)
  | .insert index value =>
      returning (fun _ => .none) (sequence.insert index value)
  | .append value => returning (fun _ => .none) (sequence.append value)
  | .pop => returning .word sequence.pop

/-! ## Python lists -/

/-- A negative index counts from the end. -/
def fromEnd (list : List Word) (index : Int) : Int :=
  if index < 0 then index + list.length else index

def listIndex (list : List Word) (index : Int) : Option Nat :=
  let i := fromEnd list index
  if 0 ≤ i ∧ i < list.length then some i.toNat else none

def listCall (list : List Word) : PyOp → Except PyError PyValue × List Word
  | .len => (.ok (.size list.length), list)
  | .getItem index =>
      match listIndex list index with
      | none => (.error .indexError, list)
      | some i => (.ok (.word (list.getD i 0)), list)
  | .setItem index value =>
      match listIndex list index with
      | none => (.error .indexError, list)
      | some i => (.ok .none, list.set i value)
  | .delItem index =>
      match listIndex list index with
      | none => (.error .indexError, list)
      | some i => (.ok .none, list.eraseIdx i)
  | .insert index value =>
      let i := min (fromEnd list index).toNat list.length
      (.ok .none, list.insertIdx i value)
  | .append value => (.ok .none, list ++ [value])
  | .pop =>
      match list.getLast? with
      | none => (.error .indexError, list)
      | some word => (.ok (.word word), list.dropLast)

inductive PyTarget where
  | packet
  | payload
  deriving DecidableEq

def PyTarget.sequence : PyTarget → PySequence Packet
  | .packet => packetType
  | .payload => packetPayloadView

def PyTarget.start : PyTarget → Nat
  | .packet => 0
  | .payload => packetHeaderWordCnt

def PyOp.deletes : PyOp → Bool
  | .delItem _ => true
  | .pop => true
  | _ => false

/-- The operation does what it does to a list, or it is refused. -/
structure ActsAsList (target : PyTarget) (op : PyOp) (packet : Packet)
    (result : Except PyError PyValue) (after : Packet) : Prop where
  call : target.sequence.call op packet = .ok (result, after)
  acts : (result = (listCall (packet.words.drop target.start) op).1 ∧
      after.words = packet.words.take target.start ++
        (listCall (packet.words.drop target.start) op).2) ∨
    after = packet ∧ (result = .error .indexError ∨
      op.deletes ∧ packet.dataSizeWords.toNat = 3 ∧
        result = .error .valueError)
  size : after.dataSizeWords.toNat = after.words.length

/-- Nothing is counted from the end, and an item is put into the list or
directly behind it. -/
def Orderly (target : PyTarget) (packet : Packet) : PyOp → Prop
  | .len => True
  | .getItem index => 0 ≤ index
  | .setItem index _ => 0 ≤ index
  | .delItem index => packet.dataSizeWords.toNat = 3 ∨
      0 ≤ index ∧ index + target.start < packet.dataSizeWords.toNat
  | .insert index _ => 0 ≤ index ∧
      index + target.start ≤ packet.dataSizeWords.toNat ∧
        packet.dataSizeWords.toNat < 65535
  | .append _ => packet.dataSizeWords.toNat < 65535
  | .pop => target = .payload ∧ packet.dataSizeWords.toNat = 3

instance (target : PyTarget) (packet : Packet) :
    (op : PyOp) → Decidable (Orderly target packet op)
  | .len => inferInstanceAs (Decidable True)
  | .getItem index => inferInstanceAs (Decidable (0 ≤ index))
  | .setItem index _ => inferInstanceAs (Decidable (0 ≤ index))
  | .delItem _ => inferInstanceAs (Decidable (_ ∨ _))
  | .insert _ _ => inferInstanceAs (Decidable (_ ∧ _))
  | .append _ => inferInstanceAs (Decidable (_ < _))
  | .pop => inferInstanceAs (Decidable (_ ∧ _))

/-! ## Single operations -/

section Operations

variable {packet : Packet} {i : Nat} {value : Word}

theorem asSsizeT_word {σ : Type} {s : σ} {value : Int} (hlow : 0 ≤ value)
    (hhigh : value ≤ 65536) : asSsizeT value s = .ok (.ok (), s) := by
  rw [asSsizeT, if_pos (by omega)]

theorem asSizeT_words {σ : Type} {s : σ} {value : Int} (hlow : 0 ≤ value)
    (hhigh : value ≤ 131072) : asSizeT value s = .ok (.ok (), s) := by
  rw [asSizeT, if_pos (by omega)]

theorem andThen_of_ok {σ α β : Type} {call : PyCall σ α}
    {next : α → PyCall σ β} {s s' : σ} {value : α}
    (h : call s = .ok (.ok value, s')) :
    andThen call next s = next value s' := by
  rw [andThen, h]
  rfl

theorem dataSizeWords_lt (packet : Packet) :
    packet.dataSizeWords.toNat < 65536 :=
  packet.dataSizeWords.toNat_lt

theorem words_getElem (hcomplete : packet.Complete)
    (hi : i < packet.dataSizeWords.toNat) :
    packet.dataRaw[i]? = some (packet.words.getD i 0) := by
  have hraw : i < packet.dataRaw.length := by
    have := hcomplete.allocated
    omega
  have hwords : packet.words[i]? = packet.dataRaw[i]? := by
    rw [Packet.words, List.getElem?_take_of_lt hi]
  rw [List.getD_eq_getElem?_getD, hwords, List.getElem?_eq_getElem hraw]
  rfl

theorem packetGetItem_lt (hcomplete : packet.Complete)
    (hi : i < packet.dataSizeWords.toNat) :
    packetGetItem i packet =
      .ok (.ok (packet.words.getD i 0), packet) := by
  have hsize := dataSizeWords_lt packet
  rw [packetGetItem, if_neg (by omega),
    andThen_of_ok (asSsizeT_word (by omega) (by omega)), Packet.load,
    inBounds_bind (by omega), Int.toNat_natCast, Packet.word,
    words_getElem hcomplete hi]
  rfl

theorem packetGetItem_ge {index : Int}
    (h : packet.dataSizeWords.toNat ≤ index) :
    packetGetItem index packet = .ok (.error .indexError, packet) := by
  rw [packetGetItem, if_pos h]
  rfl

theorem packetSetItem_lt (value : Word) (hcomplete : packet.Complete)
    (hi : i < packet.dataSizeWords.toNat) :
    ∃ after, packetSetItem i value packet = .ok (.ok (), after) ∧
      after.Complete ∧ after.words = packet.words.set i value := by
  have hsize := dataSizeWords_lt packet
  have hallocated := hcomplete.allocated
  refine ⟨{ packet with dataRaw := packet.dataRaw.set i value }, ?_,
    ⟨hcomplete.header, by simpa using hallocated⟩, ?_⟩
  · rw [packetSetItem, if_neg (by omega),
      andThen_of_ok (asSsizeT_word (by omega) (by omega)), Packet.store,
      inBounds_bind (by omega), Int.toNat_natCast]
    rfl
  · rw [Packet.words, Packet.words, List.take_set]

theorem packetSetItem_ge {index : Int}
    (h : packet.dataSizeWords.toNat ≤ index) :
    packetSetItem index value packet =
      .ok (.error .indexError, packet) := by
  rw [packetSetItem, if_pos h]
  rfl

theorem packetDelItem_header {index : Int}
    (h : packet.dataSizeWords.toNat = 3) :
    packetDelItem index packet = .ok (.error .valueError, packet) := by
  rw [packetDelItem, if_pos (by omega)]
  rfl

theorem memmove_ok {dest src count : Nat}
    (hsrc : src + count ≤ packet.dataRaw.length)
    (hdest : dest + count ≤ packet.dataRaw.length) :
    packet.memmove dest src count =
      .ok { packet with dataRaw := packet.dataRaw.take dest ++
        (packet.dataRaw.drop src).take count ++
          packet.dataRaw.drop (dest + count) } := by
  have hlength :
      ((packet.dataRaw.drop src).take count).length = count := by
    rw [List.length_take, List.length_drop]
    omega
  rw [Packet.memmove, inBounds_bind (by omega), inBounds_bind (by omega)]
  simp only [Int.toNat_natCast]
  rw [storeWords, hlength, inBounds_bind hdest]
  rfl

theorem complete_of_area (area : List Word) (hlow : 3 ≤ area.length)
    (hhigh : area.length < 65536) :
    Packet.Complete ⟨UInt16.ofNat area.length, area⟩ ∧
      Packet.words ⟨UInt16.ofNat area.length, area⟩ = area := by
  have hsize : (UInt16.ofNat area.length).toNat = area.length := by
    rw [UInt16.toNat_ofNat', Nat.mod_eq_of_lt hhigh]
  refine ⟨⟨by rw [hsize]; exact hlow, by rw [hsize]⟩, ?_⟩
  rw [Packet.words, hsize, List.take_length]

theorem osdPacketRealloc_shrink (size : Word) (kept rest : List Word) :
    osdPacketRealloc ⟨size, kept ++ rest⟩ kept.length =
      ⟨UInt16.ofNat kept.length, kept⟩ := by
  simp [osdPacketRealloc]

theorem packetDelItem_lt (hcomplete : packet.Complete)
    (hsize : packet.dataSizeWords.toNat ≠ 3)
    (hi : i < packet.dataSizeWords.toNat) :
    ∃ after, packetDelItem i packet = .ok (.ok (), after) ∧
      after.Complete ∧ after.words = packet.words.eraseIdx i := by
  have hlt := dataSizeWords_lt packet
  have hheader : 3 ≤ packet.dataSizeWords.toNat := hcomplete.header
  have hallocated := hcomplete.allocated
  have hcount : (packet.dataSizeWords.toNat : Int) - i - 1 =
      ((packet.dataSizeWords.toNat - i - 1 : Nat) : Int) := by omega
  have harea : packet.words.eraseIdx i = packet.dataRaw.take i ++
      (packet.dataRaw.drop (i + 1)).take
        (packet.dataSizeWords.toNat - i - 1) := by
    rw [List.eraseIdx_eq_take_drop_succ, Packet.words, List.take_take,
      List.drop_take, Nat.min_eq_left (by omega), Nat.sub_sub]
  have hlength : (packet.words.eraseIdx i).length =
      packet.dataSizeWords.toNat - 1 := by
    rw [List.length_eraseIdx_of_lt (by rwa [hcomplete.length_words]),
      hcomplete.length_words]
  obtain ⟨hafter, hwords⟩ := complete_of_area
    (packet.words.eraseIdx i) (by omega) (by omega)
  refine ⟨_, ?_, hafter, hwords⟩
  rw [packetDelItem, if_neg (by omega)]
  dsimp only
  rw [andThen_of_ok (asSsizeT_word (by omega) (by omega)),
    andThen_of_ok (asSsizeT_word (by omega) (by omega)),
    andThen_of_ok (asSizeT_words (by omega) (by omega)), hcount,
    ← Int.natCast_succ, memmove_ok (by omega) (by omega), ok_bind]
  dsimp only
  rw [← harea, ← hlength, osdPacketRealloc_shrink]

theorem insertIdx_behind (front back : List Word) (i : Nat)
    (value : Word) :
    (front ++ back).insertIdx (front.length + i) value =
      front ++ back.insertIdx i value := by
  induction front with
  | nil => simp
  | cons word front ih =>
      rw [List.cons_append, List.length_cons, Nat.add_right_comm,
        List.insertIdx_succ_cons, ih, List.cons_append]

theorem osdPacketRealloc_words (hcomplete : packet.Complete) :
    ∃ word, osdPacketRealloc packet (packet.dataSizeWords.toNat + 1) =
      ⟨UInt16.ofNat (packet.dataSizeWords.toNat + 1),
        packet.words ++ [word]⟩ := by
  have hallocated := hcomplete.allocated
  by_cases hspare : packet.dataSizeWords.toNat < packet.dataRaw.length
  · refine ⟨packet.dataRaw[packet.dataSizeWords.toNat], ?_⟩
    rw [osdPacketRealloc, List.take_succ_eq_append_getElem hspare,
      Nat.sub_eq_zero_of_le hspare, List.replicate_zero, List.append_nil]
    rfl
  · have hlength : packet.dataRaw.length = packet.dataSizeWords.toNat := by
      omega
    refine ⟨0, ?_⟩
    rw [← hlength, osdPacketRealloc_grow, Packet.words, ← hlength,
      List.take_length]
    rfl

/-- The item overwrites the word that made room for it. -/
theorem packetMakeRoom_ok (size word : Word) (front back : List Word)
    (hlength : (front ++ back).length < 65536) :
    ∃ old, packetMakeRoom front.length (front ++ back).length
        ⟨size, front ++ back ++ [word]⟩ =
      .ok (.ok (), ⟨size, front ++ old :: back⟩) := by
  cases back with
  | nil =>
      refine ⟨word, ?_⟩
      rw [packetMakeRoom, if_neg (by simp), List.append_nil]
  | cons first back =>
      rw [List.length_append, List.length_cons] at hlength
      have hcount : ((front ++ first :: back).length : Int) -
          front.length = ((back.length + 1 : Nat) : Int) := by
        rw [List.length_append, List.length_cons]
        omega
      refine ⟨first, ?_⟩
      rw [packetMakeRoom, if_pos (by simp),
        andThen_of_ok (asSsizeT_word (by omega) (by omega)),
        andThen_of_ok (asSsizeT_word (by omega) (by omega)),
        andThen_of_ok (asSizeT_words (by omega) (by omega)), hcount,
        ← Int.natCast_succ, memmove_ok (by simp) (by simp; omega)]
      have hbehind : front.length ≤ front.length + 1 + (back.length + 1) := by
        omega
      have hrest : front.length + 1 + (back.length + 1) - front.length =
          back.length + 2 := by omega
      simp [List.take_append, List.drop_append, List.take_of_length_le,
        List.drop_of_length_le hbehind, hrest]

theorem packetInsert_le (value : Word) (hcomplete : packet.Complete)
    (hsize : packet.dataSizeWords.toNat < 65535)
    (hi : i ≤ packet.dataSizeWords.toNat) :
    ∃ after, packetInsert i value packet = .ok (.ok (), after) ∧
      after.Complete ∧ after.words = packet.words.insertIdx i value := by
  have hheader : 3 ≤ packet.dataSizeWords.toNat := hcomplete.header
  have hlength := hcomplete.length_words
  obtain ⟨word, hgrown⟩ := osdPacketRealloc_words hcomplete
  obtain ⟨front, back, hwords, rfl⟩ :
      ∃ front back, packet.words = front ++ back ∧ front.length = i :=
    ⟨packet.words.take i, packet.words.drop i,
      (List.take_append_drop i _).symm, by simp [hlength, hi]⟩
  rw [hwords] at hlength hgrown
  obtain ⟨old, hroom⟩ := packetMakeRoom_ok
    (UInt16.ofNat (packet.dataSizeWords.toNat + 1)) word front back (by omega)
  rw [hlength] at hroom
  have hnew : (front ++ value :: back).length =
      packet.dataSizeWords.toNat + 1 := by
    rw [← hlength]
    simp
    omega
  obtain ⟨hafter, hafterWords⟩ := complete_of_area
    (front ++ value :: back) (by omega) (by omega)
  have hinsert : (front ++ back).insertIdx front.length value =
      front ++ value :: back := insertIdx_behind front back 0 value
  refine ⟨_, ?_, hafter, by rw [hafterWords, hwords, hinsert]⟩
  rw [packetInsert, hgrown, andThen_of_ok hroom,
    andThen_of_ok (asSsizeT_word (by omega) (by omega)), Packet.store,
    inBounds_bind (by simp), Int.toNat_natCast, ok_bind, ← hnew,
    List.set_append_right _ _ (by simp)]
  simp

end Operations

/-! ## Packets and their payload -/

section Targets

variable {packet : Packet} {target : PyTarget}

theorem getItem_eq (index : Int) :
    target.sequence.getItem index =
      packetGetItem (index + target.start) := by
  cases target with
  | packet => simp [PyTarget.sequence, PyTarget.start, packetType]
  | payload => rfl

theorem setItem_eq (index : Int) :
    target.sequence.setItem index =
      packetSetItem (index + target.start) := by
  cases target with
  | packet => simp [PyTarget.sequence, PyTarget.start, packetType]
  | payload => rfl

theorem delItem_eq (index : Int) :
    target.sequence.delItem index =
      packetDelItem (index + target.start) := by
  cases target with
  | packet => simp [PyTarget.sequence, PyTarget.start, packetType]
  | payload => rfl

theorem insert_eq (index : Int) :
    target.sequence.insert index =
      packetInsert (index + target.start) := by
  cases target with
  | packet => simp [PyTarget.sequence, PyTarget.start, packetType]
  | payload => rfl

theorem start_le (target : PyTarget) : target.start ≤ 3 := by
  cases target <;> decide

theorem len_eq (hcomplete : packet.Complete) :
    target.sequence.len packet =
      (packet.words.drop target.start).length := by
  have hheader : 3 ≤ packet.dataSizeWords.toNat := hcomplete.header
  rw [List.length_drop, hcomplete.length_words]
  cases target with
  | packet => simp [PyTarget.sequence, PyTarget.start, packetType]
  | payload =>
      simp only [PyTarget.sequence, PyTarget.start, packetPayloadView,
        packetType, packetHeaderWordCnt]
      omega

theorem listIndex_natCast (list : List Word) (i : Nat) :
    listIndex list i = if i < list.length then some i else none := by
  have hi : ¬(i : Int) < 0 := by omega
  simp [listIndex, fromEnd, hi]

theorem returning_ok {σ α : Type} {value : α → PyValue}
    {call : PyCall σ α} {s s' : σ} {result : α}
    (h : call s = .ok (.ok result, s')) :
    returning value call s = .ok (.ok (value result), s') := by
  rw [returning, andThen_of_ok h]

theorem returning_error {σ α : Type} {value : α → PyValue}
    {call : PyCall σ α} {s s' : σ} {error : PyError}
    (h : call s = .ok (.error error, s')) :
    returning value call s = .ok (.error error, s') := by
  rw [returning, andThen, h]
  rfl

/-- A refused operation leaves the packet as it is. -/
theorem actsAsList_refused {op : PyOp} {error : PyError}
    (hcomplete : packet.Complete)
    (hcall : target.sequence.call op packet = .ok (.error error, packet))
    (herror : error = .indexError ∨ op.deletes ∧
      packet.dataSizeWords.toNat = 3 ∧ error = .valueError) :
    ActsAsList target op packet (.error error) packet where
  call := hcall
  acts := .inr ⟨rfl, by simpa using herror⟩
  size := hcomplete.length_words.symm

theorem length_drop_start (target : PyTarget) (hcomplete : packet.Complete) :
    (packet.words.drop target.start).length + target.start =
        packet.dataSizeWords.toNat ∧
      (packet.words.take target.start).length = target.start := by
  have hheader : 3 ≤ packet.dataSizeWords.toNat := hcomplete.header
  have hstart := start_le target
  rw [List.length_drop, List.length_take, hcomplete.length_words]
  omega

theorem getItem_actsAsList {index : Int} (hcomplete : packet.Complete)
    (h : 0 ≤ index) :
    ∃ result, ActsAsList target (.getItem index) packet result packet := by
  obtain ⟨i, rfl⟩ := Int.eq_ofNat_of_zero_le h
  obtain ⟨hbody, hfront⟩ := length_drop_start target hcomplete
  by_cases hi : i + target.start < packet.dataSizeWords.toNat
  · refine ⟨.ok (.word (packet.words.getD (i + target.start) 0)), ?_,
      .inl ⟨?_, ?_⟩, hcomplete.length_words.symm⟩
    · rw [PySequence.call, getItem_eq, ← Int.natCast_add]
      exact returning_ok (packetGetItem_lt hcomplete hi)
    · rw [listCall, listIndex_natCast, if_pos (by omega)]
      simp [List.getD_eq_getElem?_getD, Nat.add_comm]
    · rw [listCall, listIndex_natCast, if_pos (by omega)]
      exact (List.take_append_drop _ _).symm
  · refine ⟨_, actsAsList_refused hcomplete ?_ (.inl rfl)⟩
    rw [PySequence.call, getItem_eq, ← Int.natCast_add]
    exact returning_error (packetGetItem_ge (by omega))

theorem setItem_actsAsList {index : Int} {value : Word}
    (hcomplete : packet.Complete) (h : 0 ≤ index) :
    ∃ result after, ActsAsList target (.setItem index value) packet
      result after ∧ after.Complete := by
  obtain ⟨i, rfl⟩ := Int.eq_ofNat_of_zero_le h
  obtain ⟨hbody, hfront⟩ := length_drop_start target hcomplete
  by_cases hi : i + target.start < packet.dataSizeWords.toNat
  · obtain ⟨after, hcall, hafter, hwords⟩ :=
      packetSetItem_lt value hcomplete hi
    refine ⟨.ok .none, after, ⟨?_, .inl ⟨?_, ?_⟩,
      hafter.length_words.symm⟩, hafter⟩
    · rw [PySequence.call, setItem_eq, ← Int.natCast_add]
      exact returning_ok hcall
    · rw [listCall, listIndex_natCast, if_pos (by omega)]
    · rw [hwords, listCall, listIndex_natCast, if_pos (by omega)]
      conv_lhs => rw [← List.take_append_drop target.start packet.words]
      rw [List.set_append_right _ _ (by omega), hfront, Nat.add_sub_cancel]
  · refine ⟨_, packet, actsAsList_refused hcomplete ?_ (.inl rfl), hcomplete⟩
    rw [PySequence.call, setItem_eq, ← Int.natCast_add]
    exact returning_error (packetSetItem_ge (by omega))

theorem delItem_actsAsList {index : Int} (hcomplete : packet.Complete)
    (h : Orderly target packet (.delItem index)) :
    ∃ result after, ActsAsList target (.delItem index) packet result after ∧
      after.Complete := by
  by_cases hheader : packet.dataSizeWords.toNat = 3
  · refine ⟨_, packet, actsAsList_refused hcomplete ?_
      (.inr ⟨rfl, hheader, rfl⟩), hcomplete⟩
    rw [PySequence.call, delItem_eq]
    exact returning_error (packetDelItem_header hheader)
  obtain ⟨hlow, hhigh⟩ := h.resolve_left hheader
  obtain ⟨i, rfl⟩ := Int.eq_ofNat_of_zero_le hlow
  obtain ⟨hbody, hfront⟩ := length_drop_start target hcomplete
  obtain ⟨after, hcall, hafter, hwords⟩ := packetDelItem_lt
    (i := i + target.start) hcomplete hheader (by omega)
  refine ⟨.ok .none, after, ⟨?_, .inl ⟨?_, ?_⟩, hafter.length_words.symm⟩,
    hafter⟩
  · rw [PySequence.call, delItem_eq, ← Int.natCast_add]
    exact returning_ok hcall
  · rw [listCall, listIndex_natCast, if_pos (by omega)]
  · rw [hwords, listCall, listIndex_natCast, if_pos (by omega)]
    conv_lhs => rw [← List.take_append_drop target.start packet.words]
    rw [List.eraseIdx_append_of_length_le (by omega), hfront,
      Nat.add_sub_cancel]

/-- An insertion in front of word `i + start`. -/
theorem packetInsert_target (target : PyTarget) (i : Nat) (value : Word)
    (hcomplete : packet.Complete)
    (hi : i + target.start ≤ packet.dataSizeWords.toNat)
    (hsize : packet.dataSizeWords.toNat < 65535) :
    ∃ after, target.sequence.insert i value packet =
        .ok (.ok (), after) ∧ after.Complete ∧
      after.words = packet.words.take target.start ++
        (packet.words.drop target.start).insertIdx i value := by
  obtain ⟨hbody, hfront⟩ := length_drop_start target hcomplete
  obtain ⟨after, hcall, hafter, hwords⟩ :=
    packetInsert_le value hcomplete hsize hi
  refine ⟨after, ?_, hafter, ?_⟩
  · rw [insert_eq, ← Int.natCast_add]
    exact hcall
  · rw [hwords, ← insertIdx_behind, List.take_append_drop, hfront,
      Nat.add_comm]

theorem insert_actsAsList {index : Int} {value : Word}
    (hcomplete : packet.Complete)
    (h : Orderly target packet (.insert index value)) :
    ∃ result after, ActsAsList target (.insert index value) packet
      result after ∧ after.Complete := by
  obtain ⟨hlow, hhigh, hsize⟩ := h
  obtain ⟨i, rfl⟩ := Int.eq_ofNat_of_zero_le hlow
  obtain ⟨hbody, -⟩ := length_drop_start target hcomplete
  obtain ⟨after, hcall, hafter, hwords⟩ := packetInsert_target target i
    value hcomplete (by omega) hsize
  have hnot : ¬(i : Int) < 0 := by omega
  have hclamp : min (fromEnd (packet.words.drop target.start) i).toNat
      (packet.words.drop target.start).length = i := by
    rw [fromEnd, if_neg hnot, Int.toNat_natCast]
    omega
  refine ⟨.ok .none, after, ⟨returning_ok hcall, .inl ⟨rfl, ?_⟩,
    hafter.length_words.symm⟩, hafter⟩
  rw [hwords, listCall, hclamp]

theorem append_actsAsList {value : Word} (hcomplete : packet.Complete)
    (hsize : packet.dataSizeWords.toNat < 65535) :
    ∃ result after, ActsAsList target (.append value) packet result after ∧
      after.Complete := by
  obtain ⟨hbody, -⟩ := length_drop_start target hcomplete
  obtain ⟨after, hcall, hafter, hwords⟩ := packetInsert_target target
    (packet.words.drop target.start).length value hcomplete (by omega) hsize
  have happend : target.sequence.append value packet =
      .ok (.ok (), after) := by
    rw [PySequence.append, len_eq hcomplete]
    exact hcall
  refine ⟨.ok .none, after, ⟨returning_ok happend, .inl ⟨rfl, ?_⟩,
    hafter.length_words.symm⟩, hafter⟩
  · have hend := insertIdx_behind (packet.words.drop target.start) [] 0 value
    rw [List.append_nil, Nat.add_zero, List.insertIdx_zero] at hend
    rw [hwords, listCall, hend]

theorem pop_actsAsList (hcomplete : packet.Complete)
    (hsize : packet.dataSizeWords.toNat = 3) :
    ∃ result, ActsAsList .payload .pop packet result packet := by
  have hget : packetPayloadView.getItem (-1) packet =
      .ok (.ok (packet.words.getD 2 0), packet) :=
    packetGetItem_lt (i := 2) hcomplete (by omega)
  have hdel : packetPayloadView.delItem (-1) packet =
      .ok (.error .valueError, packet) := packetDelItem_header hsize
  have hpop : packetPayloadView.pop packet =
      .ok (.error .valueError, packet) := by
    rw [PySequence.pop, andThen_of_ok hget, andThen, hdel]
    rfl
  exact ⟨_, actsAsList_refused hcomplete (returning_error hpop)
    (.inr ⟨rfl, hsize, rfl⟩)⟩

theorem orderly_actsAsList {op : PyOp} (hcomplete : packet.Complete)
    (h : Orderly target packet op) :
    ∃ result after, ActsAsList target op packet result after ∧
      after.Complete := by
  cases op with
  | len =>
      refine ⟨.ok (.size (target.sequence.len packet)), packet,
        ⟨rfl, .inl ⟨?_, ?_⟩, hcomplete.length_words.symm⟩, hcomplete⟩
      · rw [listCall, len_eq hcomplete]
      · rw [listCall, List.take_append_drop]
  | getItem index =>
      obtain ⟨result, hacts⟩ := getItem_actsAsList hcomplete h
      exact ⟨result, packet, hacts, hcomplete⟩
  | setItem index value => exact setItem_actsAsList hcomplete h
  | delItem index => exact delItem_actsAsList hcomplete h
  | insert index value => exact insert_actsAsList hcomplete h
  | append value => exact append_actsAsList hcomplete h
  | pop =>
      obtain ⟨rfl, hsize⟩ := h
      obtain ⟨result, hacts⟩ := pop_actsAsList hcomplete hsize
      exact ⟨result, packet, hacts, hcomplete⟩

end Targets

/-! ## Sequences of operations -/

structure PyEvent where
  target : PyTarget
  op : PyOp
  result : Except PyError PyValue

def OrderlyStep (packet : Packet) (event : PyEvent) (after : Packet) :
    Prop :=
  Orderly event.target packet event.op ∧
    event.target.sequence.call event.op packet = .ok (event.result, after)

section Sequences

variable {first packet : Packet} {history : List PyEvent}

theorem orderlyRun_complete (hfirst : first.Complete)
    (run : Runs OrderlyStep first history packet) : packet.Complete := by
  refine run.invariant (I := fun _ packet => packet.Complete) hfirst ?_
  rintro - before event after - hbefore ⟨horderly, hcall⟩
  obtain ⟨result, after', hacts, hafter⟩ :=
    orderly_actsAsList hbefore horderly
  have hsame := hacts.call.symm.trans hcall
  obtain ⟨-, rfl⟩ : result = event.result ∧ after' = after := by
    simpa using hsame
  exact hafter

theorem packets_actAsLists (hfirst : first.Complete)
    (run : Runs OrderlyStep first history packet) {target : PyTarget}
    {op : PyOp} (h : Orderly target packet op) :
    ∃ result after, ActsAsList target op packet result after ∧
      after.Complete :=
  orderly_actsAsList (orderlyRun_complete hfirst run) h

end Sequences

/-! ## The word behind the last one -/

def shortPacket : Packet := ⟨4, [1, 2, 3, 10]⟩

theorem complete_shortPacket : shortPacket.Complete :=
  ⟨by decide, by decide⟩

/-- An item is appended, moved back by another one and deleted. -/
def shortHistory : List PyEvent :=
  [⟨.packet, .append 20, .ok .none⟩, ⟨.payload, .insert 0 30, .ok .none⟩,
    ⟨.payload, .delItem 1, .ok .none⟩]

theorem payload_shortHistory :
    ∃ result after, ActsAsList .payload (.getItem 1) ⟨5, [1, 2, 3, 30, 20]⟩
      result after ∧ after.Complete := by
  have run : Runs OrderlyStep shortPacket shortHistory
      ⟨5, [1, 2, 3, 30, 20]⟩ := by
    have appended : Runs OrderlyStep shortPacket
        [⟨.packet, .append 20, .ok .none⟩] ⟨5, [1, 2, 3, 10, 20]⟩ :=
      Runs.single ⟨by decide, by decide⟩
    have inserted : OrderlyStep ⟨5, [1, 2, 3, 10, 20]⟩
        ⟨.payload, .insert 0 30, .ok .none⟩ ⟨6, [1, 2, 3, 30, 10, 20]⟩ :=
      ⟨by decide, by decide⟩
    have deleted : OrderlyStep ⟨6, [1, 2, 3, 30, 10, 20]⟩
        ⟨.payload, .delItem 1, .ok .none⟩ ⟨5, [1, 2, 3, 30, 20]⟩ :=
      ⟨by decide, by decide⟩
    exact (appended.snoc inserted).snoc deleted
  exact packets_actAsLists complete_shortPacket run (by decide)

/-- The last item of the payload is looked for in the header. -/
theorem payload_pop :
    packetPayloadView.call .pop shortPacket =
        .ok (.ok (.word 3), ⟨3, [1, 2, 10]⟩) ∧
      listCall (shortPacket.words.drop 3) .pop = (.ok (.word 10), []) ∧
      ∀ result after, ¬ActsAsList .payload .pop shortPacket result after := by
  have hcall : packetPayloadView.call .pop shortPacket =
      .ok (.ok (.word 3), ⟨3, [1, 2, 10]⟩) := by decide
  refine ⟨hcall, by decide, ?_⟩
  rintro result after h
  obtain ⟨rfl, rfl⟩ : result = _ ∧ after = _ := by
    simpa using h.call.symm.trans hcall
  exact absurd h.acts (by decide)

end Osd
