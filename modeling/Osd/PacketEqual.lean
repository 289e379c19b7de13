import Osd.Foundation.Heap
import Osd.Packet

/-!
# Comparing packets

`osd_packet_equal` compares packet objects as blocks of memory: the size field
and the data words behind it.  The length of the compared block is the size of
the data alone, so that the block ends one word before the end of the data.
-/

namespace Osd

open Osd.Foundation

/-! ## Blocks of memory -/

/-- The difference of the first two bytes that differ. -/
def byteDifference : List Byte → List Byte → Int
  | first :: firstRest, second :: secondRest =>
      if first = second then byteDifference firstRest secondRest
      else first.toNat - second.toNat
  | _, _ => 0

def memcmp (first second : List Byte) (count : Nat) : Outcome Int := do
  inBounds (count ≤ first.length)
  inBounds (count ≤ second.length)
  .ok (byteDifference (first.take count) (second.take count))

theorem byteDifference_eq_zero {first second : List Byte}
    (hlength : first.length = second.length) :
    byteDifference first second = 0 ↔ first = second := by
  induction first generalizing second with
  | nil =>
      cases second with
      | nil => simp [byteDifference]
      | cons byte rest => simp at hlength
  | cons byte rest ih =>
      cases second with
      | nil => simp at hlength
      | cons byte' rest' =>
          have hrest := ih (Nat.succ.inj hlength)
          unfold byteDifference
          by_cases hbyte : byte = byte'
          · simp [hbyte, hrest]
          · have hvalue : byte.toNat ≠ byte'.toNat := by
              intro heq
              exact hbyte (UInt8.toNat_inj.mp heq)
            simp only [hbyte, if_false, List.cons.injEq, false_and, iff_false]
            omega

theorem memcmp_eq_ok {first second : List Byte} {count : Nat}
    (hfirst : count ≤ first.length) (hsecond : count ≤ second.length) :
    ∃ order, memcmp first second count = .ok order ∧
      (order = 0 ↔ first.take count = second.take count) := by
  refine ⟨_, ?_, byteDifference_eq_zero ?_⟩
  · rw [memcmp, inBounds_bind hfirst, inBounds_bind hsecond]
  · simp [hfirst, hsecond]

/-! ## Packet objects in memory -/

/-- A packet whose area holds all words that its size field counts. -/
structure PacketObject extends Packet where
  allocated : dataSizeWords.toNat ≤ dataRaw.length

namespace PacketObject

def new (dataSizeWords : Nat) : PacketObject where
  toPacket := osdPacketNew dataSizeWords
  allocated := by
    simp only [osdPacketNew, UInt16.toNat_ofNat', List.length_replicate]
    exact Nat.mod_le _ _

def ofDiPacket (packet : DiPacket) : PacketObject where
  toPacket := packet.toPacket
  allocated := by simp

def memory (packet : PacketObject) : List Byte :=
  bytesOfWords (packet.dataSizeWords :: packet.dataRaw)

def SameWords (first second : PacketObject) : Prop :=
  first.dataSizeWords = second.dataSizeWords ∧
    ∀ i, i < first.dataSizeWords.toNat →
      first.dataRaw[i]? = second.dataRaw[i]?

/-- The sizes are the same, and so are all words but the last. -/
def AgreeBeforeLast (first second : PacketObject) : Prop :=
  first.dataSizeWords = second.dataSizeWords ∧
    ∀ i, i + 1 < first.dataSizeWords.toNat →
      first.dataRaw[i]? = second.dataRaw[i]?

def LastWordsAgree (first second : PacketObject) : Prop :=
  ∀ last, first.dataSizeWords.toNat = last + 1 →
    first.dataRaw[last]? = second.dataRaw[last]?

variable {first second : PacketObject}

theorem SameWords.refl (packet : PacketObject) : SameWords packet packet := by
  simp [SameWords]

theorem sameWords_iff :
    SameWords first second ↔
      AgreeBeforeLast first second ∧ LastWordsAgree first second := by
  constructor
  · rintro ⟨hsize, hwords⟩
    refine ⟨⟨hsize, ?_⟩, ?_⟩
    · intro i hi
      exact hwords i (by omega)
    · intro last hlast
      exact hwords last (by omega)
  · rintro ⟨⟨hsize, hwords⟩, hlast⟩
    refine ⟨hsize, ?_⟩
    intro i hi
    by_cases hbefore : i + 1 < first.dataSizeWords.toNat
    · exact hwords i hbefore
    · exact hlast i (by omega)

theorem sizeof_le_memory (packet : PacketObject) :
    osdPacketSizeof packet.toPacket ≤ packet.memory.length := by
  have hallocated := packet.allocated
  simp only [osdPacketSizeof, memory, length_bytesOfWords, List.length_cons]
  omega

/-- The first words of the area, one less than the packet has. -/
theorem take_memory (packet : PacketObject) {size : Nat}
    (hsize : packet.dataSizeWords.toNat = size + 1) :
    packet.memory.take (osdPacketSizeof packet.toPacket) =
      bytesOfWords (packet.dataSizeWords :: packet.dataRaw.take size) := by
  rw [osdPacketSizeof, hsize, Nat.mul_comm, memory, take_bytesOfWords,
    List.take_succ_cons]

theorem agreeBeforeLast_of_size
    (hsize : first.dataSizeWords = second.dataSizeWords) {size : Nat}
    (hfirst : first.dataSizeWords.toNat = size + 1) :
    first.dataRaw.take size = second.dataRaw.take size ↔
      AgreeBeforeLast first second := by
  unfold AgreeBeforeLast
  rw [hfirst]
  constructor
  · intro htake
    refine ⟨hsize, ?_⟩
    intro i hi
    have hword := congrArg (fun words : List Word => words[i]?) htake
    simpa [List.getElem?_take, show i < size by omega] using hword
  · rintro ⟨-, hwords⟩
    apply List.ext_getElem?
    intro i
    by_cases hi : i < size
    · simpa [List.getElem?_take, hi] using hwords i (by omega)
    · simp [hi]

/-- The compared blocks are the size field and all words but the last. -/
theorem take_memory_eq_iff
    (hsize : first.dataSizeWords = second.dataSizeWords) :
    first.memory.take (osdPacketSizeof first.toPacket) =
        second.memory.take (osdPacketSizeof first.toPacket) ↔
      AgreeBeforeLast first second := by
  have hsizeof : osdPacketSizeof first.toPacket =
      osdPacketSizeof second.toPacket := by
    rw [osdPacketSizeof, osdPacketSizeof, hsize]
  rcases hcount : first.dataSizeWords.toNat with _ | size
  · simp only [osdPacketSizeof, AgreeBeforeLast, hcount]
    simp [hsize]
  · have hcount' : second.dataSizeWords.toNat = size + 1 := by
      rw [← hsize, hcount]
    rw [take_memory first hcount, hsizeof, take_memory second hcount',
      ← agreeBeforeLast_of_size hsize hcount]
    constructor
    · intro hbytes
      exact (List.cons.inj (bytesOfWords_injective hbytes)).2
    · intro htake
      rw [hsize, htake]

end PacketObject

/-! ## The comparison -/

def osdPacketEqual (heap : Heap PacketObject) (p1 p2 : Option Address) :
    Outcome Bool :=
  match p1, p2 with
  | some p1, some p2 =>
      if p1 = p2 then .ok true
      else do
        let first ← heap.get p1
        let second ← heap.get p2
        if osdPacketSizeof first.toPacket ≠ osdPacketSizeof second.toPacket then
          .ok false
        else do
          let order ← memcmp first.memory second.memory
            (osdPacketSizeof first.toPacket)
          .ok (order = 0)
  | _, _ => .ok false

section Equal

variable {heap : Heap PacketObject} {p1 p2 : Address}
  {first second : PacketObject}

theorem osdPacketSizeof_eq_iff :
    osdPacketSizeof first.toPacket = osdPacketSizeof second.toPacket ↔
      first.dataSizeWords = second.dataSizeWords := by
  rw [← UInt16.toNat_inj]
  unfold osdPacketSizeof
  omega

theorem osdPacketEqual_of_ne (hp1 : heap.get p1 = .ok first)
    (hp2 : heap.get p2 = .ok second) (hne : p1 ≠ p2) :
    ∃ equal, osdPacketEqual heap (some p1) (some p2) = .ok equal ∧
      (equal = true ↔ PacketObject.AgreeBeforeLast first second) := by
  unfold osdPacketEqual
  simp only [hne, if_false, hp1, hp2, ok_bind]
  by_cases hsizeof :
      osdPacketSizeof first.toPacket = osdPacketSizeof second.toPacket
  · have hsize := osdPacketSizeof_eq_iff.mp hsizeof
    have hsecond := second.sizeof_le_memory
    rw [← hsizeof] at hsecond
    obtain ⟨order, horder, hzero⟩ :=
      memcmp_eq_ok first.sizeof_le_memory hsecond
    refine ⟨decide (order = 0), ?_, ?_⟩
    · rw [if_neg (not_not.mpr hsizeof), horder]
      rfl
    · rw [decide_eq_true_iff, hzero]
      exact PacketObject.take_memory_eq_iff hsize
  · refine ⟨false, by simp [hsizeof], ?_⟩
    have hsize : first.dataSizeWords ≠ second.dataSizeWords :=
      fun h => hsizeof (osdPacketSizeof_eq_iff.mpr h)
    simp [PacketObject.AgreeBeforeLast, hsize]

theorem osdPacketEqual_self (p : Address) :
    osdPacketEqual heap (some p) (some p) = .ok true := by
  simp [osdPacketEqual]

/-- The call returns whether the packets have the same words. -/
def ComparesWords (heap : Heap PacketObject) (p1 p2 : Address)
    (first second : PacketObject) : Prop :=
  ∃ equal, osdPacketEqual heap (some p1) (some p2) = .ok equal ∧
    (equal = true ↔ PacketObject.SameWords first second)

/-- The blind spot is the last word of otherwise equal packets. -/
theorem comparesWords_iff (hp1 : heap.get p1 = .ok first)
    (hp2 : heap.get p2 = .ok second) :
    ComparesWords heap p1 p2 first second ↔
      (p1 ≠ p2 → PacketObject.AgreeBeforeLast first second →
        PacketObject.LastWordsAgree first second) := by
  by_cases hne : p1 = p2
  · subst hne
    have hsame : first = second := Except.ok.inj (hp1.symm.trans hp2)
    subst hsame
    have hcompares : ComparesWords heap p1 p1 first first :=
      ⟨true, osdPacketEqual_self p1, by simp [PacketObject.SameWords.refl]⟩
    simp [hcompares]
  · obtain ⟨equal, hequal, hagree⟩ := osdPacketEqual_of_ne hp1 hp2 hne
    have hcompares : ComparesWords heap p1 p2 first second ↔
        (equal = true ↔ PacketObject.SameWords first second) := by
      simp [ComparesWords, hequal]
    rw [hcompares, hagree, PacketObject.sameWords_iff]
    simp only [ne_eq, hne, not_false_eq_true, true_implies]
    tauto

end Equal

/-! ### Two events that differ in their last word -/

def deadBeef : PacketObject :=
  .ofDiPacket ⟨0x1ab, 0x157, 0x9400, [0xdead, 0xbeef], by simp⟩

def deadCafe : PacketObject :=
  .ofDiPacket ⟨0x1ab, 0x157, 0x9400, [0xdead, 0xcafe], by simp⟩

def twoEvents : Heap PacketObject where
  objects := ((∅ : AList fun _ : Address => PacketObject).insert 16
    deadBeef).insert 32 deadCafe
  allocations := 2

theorem twoEvents_equal :
    twoEvents.get 16 = .ok deadBeef ∧ twoEvents.get 32 = .ok deadCafe ∧
      osdPacketEqual twoEvents (some 16) (some 32) = .ok true ∧
      ¬PacketObject.SameWords deadBeef deadCafe := by
  refine ⟨rfl, rfl, by decide, ?_⟩
  rintro ⟨-, hwords⟩
  have hlast := hwords 4 (by decide)
  simp [deadBeef, deadCafe, PacketObject.ofDiPacket] at hlast

theorem comparesWords_twoEvents :
    ComparesWords twoEvents 16 32 deadBeef deadCafe ↔
      ((16 : Address) ≠ 32 → PacketObject.AgreeBeforeLast deadBeef deadCafe →
        PacketObject.LastWordsAgree deadBeef deadCafe) :=
  comparesWords_iff rfl rfl

end Osd
