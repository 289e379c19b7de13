import Osd.PacketFrames

/-!
# Packet dump files

A dump file is a sequence of records, each the size field and the data words
of a packet as they lie in the memory of the host.
-/

namespace Osd

open Osd.Foundation

/-! ## Files -/

/-- A file that is written, and how many more bytes can be written to it. -/
structure OutFile where
  content : List Byte
  room : Nat

/-- One item; the number of items written. -/
def fwrite (block : List Byte) (fd : OutFile) : Nat × OutFile :=
  if block.length ≤ fd.room then
    (1, ⟨fd.content ++ block, fd.room - block.length⟩)
  else (0, ⟨fd.content ++ block.take fd.room, 0⟩)

/-- One item of the given size, or none if the stream ends before or if the
size is zero; and the rest of the stream. -/
def fread (size : Nat) (stream : List Byte) : Option (List Byte) × List Byte :=
  if size = 0 then (none, stream)
  else if size ≤ stream.length then (some (stream.take size), stream.drop size)
  else (none, [])

/-! ## Records -/

def Packet.memory (packet : Packet) : List Byte :=
  bytesOfWords (packet.dataSizeWords :: packet.dataRaw)

def osdPacketFwrite (packet : Packet) (fd : OutFile) :
    Outcome (Bool × OutFile) := do
  let pkgStructSizeBytes := osdPacketSizeof packet + 2
  inBounds (pkgStructSizeBytes ≤ packet.memory.length)
  let (itemsWritten, fd) := fwrite (packet.memory.take pkgStructSizeBytes) fd
  .ok (itemsWritten = 1, fd)

/-- `none` is NULL. -/
def osdPacketFread (stream : List Byte) : Option Packet × List Byte :=
  match fread 2 stream with
  | (some [low, high], rest) =>
      let dataSizeWords := joinBytes high low
      let pkg := osdPacketNew dataSizeWords.toNat
      match fread (dataSizeWords.toNat * 2) rest with
      | (none, rest) => (none, rest)
      | (some data, rest) => (some { pkg with dataRaw := wordsOfBytes data }, rest)
  | (_, rest) => (none, rest)

/-! ## Whole files -/

/-- Writes packets up to the first write that fails. -/
def writePackets : List Packet → OutFile → Outcome (Bool × OutFile)
  | [], fd => .ok (true, fd)
  | packet :: packets, fd => do
      let (written, fd) ← osdPacketFwrite packet fd
      if written then writePackets packets fd else .ok (false, fd)

theorem fread_length {size : Nat} {stream rest : List Byte}
    {block : List Byte} (h : fread size stream = (some block, rest)) :
    stream = block ++ rest ∧ block.length = size ∧ 0 < size := by
  unfold fread at h
  split at h
  · cases h
  · rename_i hsize
    split at h
    · rename_i hle
      cases h
      refine ⟨(List.take_append_drop size stream).symm, ?_, by omega⟩
      rw [List.length_take, Nat.min_eq_left hle]
    · cases h

theorem osdPacketFread_eq_some {stream rest : List Byte} {packet : Packet}
    (h : osdPacketFread stream = (some packet, rest)) :
    stream = packet.memory ++ rest ∧
      packet.dataRaw.length = packet.dataSizeWords.toNat ∧
      0 < packet.dataSizeWords.toNat := by
  unfold osdPacketFread at h
  split at h
  · rename_i low high middle hread
    obtain ⟨hstream, -, -⟩ := fread_length hread
    dsimp only at h
    split at h
    · cases h
    · rename_i data rest' hdata
      obtain ⟨hmiddle, hlength, hpos⟩ := fread_length hdata
      cases h
      have hbytes : bytesOfWords (wordsOfBytes data) = data :=
        bytesOfWords_wordsOfBytes data (by omega)
      have hfield : UInt16.ofNat (joinBytes high low).toNat =
          joinBytes high low := UInt16.ofNat_toNat
      simp only [osdPacketNew, hfield]
      refine ⟨?_, ?_, by omega⟩
      · rw [hstream, hmiddle, Packet.memory, bytesOfWords_cons, hbytes]
        simp
      · rw [length_wordsOfBytes, hlength]
        omega
  · cases h

theorem length_memory_pos (packet : Packet) : 0 < packet.memory.length := by
  rw [Packet.memory, length_bytesOfWords, List.length_cons]
  omega

/-- The packets up to the first NULL. -/
def readPackets (stream : List Byte) : List Packet :=
  match _hread : osdPacketFread stream with
  | (none, _) => []
  | (some packet, rest) => packet :: readPackets rest
termination_by stream.length
decreasing_by
  obtain ⟨hstream, -, -⟩ := osdPacketFread_eq_some _hread
  have hpos := length_memory_pos packet
  rw [hstream, List.length_append]
  omega

theorem readPackets_none {stream rest : List Byte}
    (h : osdPacketFread stream = (none, rest)) : readPackets stream = [] := by
  rw [readPackets]
  split
  · rfl
  · rename_i hsome
    cases h.symm.trans hsome

theorem readPackets_some {stream rest : List Byte} {packet : Packet}
    (h : osdPacketFread stream = (some packet, rest)) :
    readPackets stream = packet :: readPackets rest := by
  rw [readPackets]
  split
  · rename_i hnone
    cases h.symm.trans hnone
  · rename_i hsome
    cases h.symm.trans hsome
    rfl

/-! ## Records that are written -/

/-- The packet without what the area holds behind its words. -/
def Packet.trimmed (packet : Packet) : Packet :=
  ⟨packet.dataSizeWords, packet.words⟩

def Packet.record (packet : Packet) : List Byte := packet.trimmed.memory

/-- A packet that can be written and read again. -/
structure Packet.Recordable (packet : Packet) : Prop where
  nonempty : 0 < packet.dataSizeWords.toNat
  allocated : packet.dataSizeWords.toNat ≤ packet.dataRaw.length

section Records

variable {packet : Packet} {packets : List Packet} {fd fd' : OutFile}

theorem Packet.Complete.recordable (h : packet.Complete) :
    packet.Recordable := by
  have hheader : 3 ≤ packet.dataSizeWords.toNat := h.header
  exact ⟨by omega, h.allocated⟩

theorem Packet.Recordable.length_words (h : packet.Recordable) :
    packet.words.length = packet.dataSizeWords.toNat := by
  rw [words, List.length_take, Nat.min_eq_left h.allocated]

theorem Packet.Recordable.length_record (h : packet.Recordable) :
    packet.record.length = 2 * packet.dataSizeWords.toNat + 2 := by
  rw [record, memory, length_bytesOfWords, List.length_cons, trimmed,
    h.length_words]
  omega

theorem Packet.take_memory (packet : Packet) :
    packet.memory.take (osdPacketSizeof packet + 2) = packet.record := by
  rw [osdPacketSizeof, ← Nat.succ_mul, Nat.mul_comm, memory,
    take_bytesOfWords, List.take_succ_cons]
  rfl

theorem Packet.Recordable.osdPacketFwrite_eq (h : packet.Recordable)
    (fd : OutFile) :
    osdPacketFwrite packet fd =
      .ok ((fwrite packet.record fd).1 = 1, (fwrite packet.record fd).2) := by
  have hallocated := h.allocated
  have hbounds : osdPacketSizeof packet + 2 ≤ packet.memory.length := by
    rw [osdPacketSizeof, Packet.memory, length_bytesOfWords, List.length_cons]
    omega
  rw [osdPacketFwrite]
  dsimp only
  rw [inBounds_bind hbounds, packet.take_memory]

theorem fwrite_eq_one {block : List Byte} (h : (fwrite block fd).1 = 1) :
    (fwrite block fd).2.content = fd.content ++ block := by
  unfold fwrite at h ⊢
  split
  · rfl
  · rename_i hroom
    rw [if_neg hroom] at h
    cases h

theorem fwrite_of_room {block : List Byte} (h : block.length ≤ fd.room) :
    fwrite block fd =
      (1, ⟨fd.content ++ block, fd.room - block.length⟩) := by
  rw [fwrite, if_pos h]

theorem writePackets_true (hrecordable : ∀ packet ∈ packets, packet.Recordable)
    (h : writePackets packets fd = .ok (true, fd')) :
    fd'.content = fd.content ++ packets.flatMap Packet.record := by
  induction packets generalizing fd with
  | nil =>
      cases h
      simp
  | cons packet packets ih =>
      have hhead := hrecordable packet (by simp)
      have htail : ∀ packet ∈ packets, packet.Recordable :=
        fun packet hmem => hrecordable packet (by simp [hmem])
      unfold writePackets at h
      rw [hhead.osdPacketFwrite_eq fd, ok_bind] at h
      dsimp only at h
      split at h
      · rename_i hwritten
        have hitems : (fwrite packet.record fd).1 = 1 :=
          of_decide_eq_true hwritten
        rw [ih htail h, fwrite_eq_one hitems, List.flatMap_cons,
          List.append_assoc]
      · cases h

theorem exists_writePackets (hrecordable : ∀ packet ∈ packets, packet.Recordable)
    (fd : OutFile) :
    ∃ written fd', writePackets packets fd = .ok (written, fd') ∧
      ((packets.flatMap Packet.record).length ≤ fd.room → written = true) := by
  induction packets generalizing fd with
  | nil => exact ⟨true, fd, rfl, fun _ => rfl⟩
  | cons packet packets ih =>
      have hhead := hrecordable packet (by simp)
      have htail : ∀ packet ∈ packets, packet.Recordable :=
        fun packet hmem => hrecordable packet (by simp [hmem])
      unfold writePackets
      rw [hhead.osdPacketFwrite_eq fd, ok_bind, List.flatMap_cons,
        List.length_append]
      by_cases hroom : packet.record.length ≤ fd.room
      · rw [fwrite_of_room hroom]
        obtain ⟨written, fd', hwrite, henough⟩ := ih htail
          ⟨fd.content ++ packet.record, fd.room - packet.record.length⟩
        refine ⟨written, fd', by simpa using hwrite, ?_⟩
        intro hle
        exact henough (by simp only; omega)
      · have hfull : fwrite packet.record fd =
            (0, ⟨fd.content ++ packet.record.take fd.room, 0⟩) := by
          rw [fwrite, if_neg hroom]
        rw [hfull]
        refine ⟨false, _, rfl, ?_⟩
        intro hle
        omega

theorem osdPacketFread_record (h : packet.Recordable) (rest : List Byte) :
    osdPacketFread (packet.record ++ rest) = (some packet.trimmed, rest) := by
  have hnonempty := h.nonempty
  have hdata : (bytesOfWords packet.words).length =
      packet.dataSizeWords.toNat * 2 := by
    rw [length_bytesOfWords, h.length_words, Nat.mul_comm]
  have hpos : packet.dataSizeWords.toNat * 2 ≠ 0 := by omega
  have hle : packet.dataSizeWords.toNat * 2 ≤
      (bytesOfWords packet.words ++ rest).length := by
    rw [List.length_append]
    omega
  have hread : fread (packet.dataSizeWords.toNat * 2)
      (bytesOfWords packet.words ++ rest) =
        (some (bytesOfWords packet.words), rest) := by
    rw [fread, if_neg hpos, if_pos hle, ← hdata, List.take_left,
      List.drop_left]
  have hsize : fread 2 (packet.record ++ rest) =
      (some [lowByte packet.dataSizeWords, highByte packet.dataSizeWords],
        bytesOfWords packet.words ++ rest) := by
    simp [Packet.record, Packet.memory, Packet.trimmed, bytesOfWords_cons,
      fread]
  unfold osdPacketFread
  rw [hsize]
  simp only [joinBytes_high_low, hread, wordsOfBytes_bytesOfWords,
    osdPacketNew, UInt16.ofNat_toNat]
  rfl

/-- The size field is what the first two bytes say. -/
theorem take_two_memory (packet : Packet) (rest : List Byte) :
    (packet.memory ++ rest).take 2 =
      [lowByte packet.dataSizeWords, highByte packet.dataSizeWords] := by
  simp [Packet.memory, bytesOfWords_cons]

theorem osdPacketFread_cut (h : packet.Recordable) {count : Nat}
    (hcount : count < packet.record.length) :
    ∃ rest, osdPacketFread (packet.record.take count) = (none, rest) := by
  cases hread : osdPacketFread (packet.record.take count) with
  | mk result rest =>
      cases result with
      | none => exact ⟨rest, rfl⟩
      | some read =>
          exfalso
          obtain ⟨hstream, hlength, -⟩ := osdPacketFread_eq_some hread
          have hrecord := h.length_record
          have hlengths := congrArg List.length hstream
          rw [List.length_take, List.length_append, Packet.memory,
            length_bytesOfWords, List.length_cons, hlength] at hlengths
          -- both begin with the same size field
          have htwo := congrArg (List.take 2) hstream
          rw [take_two_memory, List.take_take, Nat.min_eq_left (by omega),
            ← List.append_nil packet.record, Packet.record,
            take_two_memory] at htwo
          simp only [List.cons.injEq, and_true] at htwo
          have hfields : packet.dataSizeWords = read.dataSizeWords := by
            rw [← joinBytes_high_low packet.dataSizeWords,
              ← joinBytes_high_low read.dataSizeWords, ← htwo.1, ← htwo.2]
            rfl
          rw [← hfields] at hlengths
          omega

end Records

/-! ## Round trips -/

section RoundTrip

variable {packets : List Packet}

theorem readPackets_nil : readPackets [] = [] :=
  readPackets_none rfl

/-- Exactly the first `k` packets lie completely within the first `count` bytes
of the file. -/
def Contains (packets : List Packet) (count k : Nat) : Prop :=
  k ≤ packets.length ∧
    ∀ j, j ≤ packets.length →
      (((packets.take j).flatMap Packet.record).length ≤ count ↔ j ≤ k)

structure RoundTrips (packets : List Packet) (stream : List Byte) : Prop where
  whole : readPackets stream = packets.map Packet.trimmed
  truncated : ∀ count, count ≤ stream.length →
    ∃ k, Contains packets count k ∧
      readPackets (stream.take count) = (packets.take k).map Packet.trimmed

theorem readPackets_records
    (hrecordable : ∀ packet ∈ packets, packet.Recordable) :
    readPackets (packets.flatMap Packet.record) =
      packets.map Packet.trimmed := by
  induction packets with
  | nil => exact readPackets_nil
  | cons packet packets ih =>
      have hhead := hrecordable packet (by simp)
      have htail : ∀ packet ∈ packets, packet.Recordable :=
        fun packet hmem => hrecordable packet (by simp [hmem])
      rw [List.flatMap_cons, readPackets_some (osdPacketFread_record hhead _),
        ih htail, List.map_cons]

theorem contains_zero {packet : Packet} {count : Nat}
    (hcount : count < packet.record.length) :
    Contains (packet :: packets) count 0 := by
  refine ⟨Nat.zero_le _, ?_⟩
  intro j _
  cases j with
  | zero => simp
  | succ j =>
      rw [List.take_succ_cons, List.flatMap_cons, List.length_append]
      omega

theorem Contains.cons {packet : Packet} {count k : Nat}
    (h : Contains packets count k) :
    Contains (packet :: packets) (packet.record.length + count) (k + 1) := by
  obtain ⟨hk, hiff⟩ := h
  refine ⟨Nat.succ_le_succ hk, ?_⟩
  intro j hj
  cases j with
  | zero => simp
  | succ j =>
      have hj' := hiff j (Nat.le_of_succ_le_succ hj)
      rw [List.take_succ_cons, List.flatMap_cons, List.length_append]
      omega

theorem readPackets_take (hrecordable : ∀ packet ∈ packets, packet.Recordable)
    {count : Nat} (hcount : count ≤ (packets.flatMap Packet.record).length) :
    ∃ k, Contains packets count k ∧
      readPackets ((packets.flatMap Packet.record).take count) =
        (packets.take k).map Packet.trimmed := by
  induction packets generalizing count with
  | nil =>
      refine ⟨0, ⟨Nat.le_refl _, ?_⟩, ?_⟩
      · intro j hj
        simpa using hj
      · simpa using readPackets_nil
  | cons packet packets ih =>
      have hhead := hrecordable packet (by simp)
      have htail : ∀ packet ∈ packets, packet.Recordable :=
        fun packet hmem => hrecordable packet (by simp [hmem])
      rw [List.flatMap_cons] at hcount ⊢
      by_cases hcut : count < packet.record.length
      · refine ⟨0, contains_zero hcut, ?_⟩
        rw [List.take_append_of_le_length (Nat.le_of_lt hcut)]
        obtain ⟨rest, hread⟩ := osdPacketFread_cut hhead hcut
        exact readPackets_none hread
      · obtain ⟨more, rfl⟩ := Nat.exists_eq_add_of_le (Nat.not_lt.mp hcut)
        rw [List.length_append] at hcount
        obtain ⟨k, hcontains, hread⟩ := ih htail
          (Nat.le_of_add_le_add_left hcount)
        refine ⟨k + 1, hcontains.cons, ?_⟩
        rw [List.take_length_add_append,
          readPackets_some (osdPacketFread_record hhead _), hread,
          List.take_succ_cons, List.map_cons]

/-- Every packet that is read can be written, and all of them together give
back the part of the stream that they were read from. -/
theorem readPackets_sound (stream : List Byte) :
    (∀ packet ∈ readPackets stream, packet.Recordable) ∧
      (readPackets stream).flatMap Packet.record <+: stream := by
  induction stream using readPackets.induct with
  | case1 stream rest hread =>
      rw [readPackets_none hread]
      simp
  | case2 stream packet rest hread ih =>
      obtain ⟨hstream, hlength, hpos⟩ := osdPacketFread_eq_some hread
      obtain ⟨hrest, hpart⟩ := ih
      have hrecord : packet.record = packet.memory := by
        rw [Packet.record, Packet.trimmed, Packet.words,
          List.take_of_length_le (Nat.le_of_eq hlength)]
      rw [readPackets_some hread]
      constructor
      · intro read hmem
        rcases List.mem_cons.mp hmem with rfl | hmem
        · exact ⟨hpos, Nat.le_of_eq hlength.symm⟩
        · exact hrest read hmem
      · rw [List.flatMap_cons, hrecord, hstream]
        exact (List.prefix_append_right_inj _).mpr hpart

end RoundTrip

/-- What is written is read again, also from a file that is cut off, and what
is read is a part of the stream. -/
theorem dumpFiles_roundTrip :
    (∀ packets : List Packet, (∀ packet ∈ packets, packet.Complete) →
      ∀ room, ∃ written fd,
        writePackets packets ⟨[], room⟩ = .ok (written, fd) ∧
          ((packets.flatMap Packet.record).length ≤ room → written = true) ∧
          (written = true → RoundTrips packets fd.content)) ∧
      ∀ stream : List Byte, ∀ room, ∃ written fd,
        writePackets (readPackets stream) ⟨[], room⟩ = .ok (written, fd) ∧
          (stream.length ≤ room → written = true) ∧
          (written = true → fd.content <+: stream) := by
  constructor
  · intro packets hcomplete room
    have hrecordable : ∀ packet ∈ packets, packet.Recordable :=
      fun packet hmem => (hcomplete packet hmem).recordable
    obtain ⟨written, fd, hwrite, henough⟩ :=
      exists_writePackets hrecordable ⟨[], room⟩
    refine ⟨written, fd, hwrite, henough, ?_⟩
    rintro rfl
    have hcontent : fd.content = packets.flatMap Packet.record := by
      rw [writePackets_true hrecordable hwrite]
      rfl
    rw [hcontent]
    exact ⟨readPackets_records hrecordable,
      fun _ hcount => readPackets_take hrecordable hcount⟩
  · intro stream room
    obtain ⟨hrecordable, hpart⟩ := readPackets_sound stream
    obtain ⟨written, fd, hwrite, henough⟩ :=
      exists_writePackets hrecordable ⟨[], room⟩
    refine ⟨written, fd, hwrite, ?_, ?_⟩
    · intro hroom
      exact henough (hpart.length_le.trans hroom)
    · rintro rfl
      have hcontent : fd.content =
          (readPackets stream).flatMap Packet.record := by
        rw [writePackets_true hrecordable hwrite]
        rfl
      rwa [hcontent]

/-- A file of two packets, and a stream that ends within a packet. -/
theorem dumpFiles_roundTrip_small :
    (∃ written fd,
      writePackets [osdPacketNew 3, osdPacketNew 4] ⟨[], 100⟩ =
          .ok (written, fd) ∧
        (([osdPacketNew 3, osdPacketNew 4].flatMap Packet.record).length ≤
          100 → written = true) ∧
        (written = true →
          RoundTrips [osdPacketNew 3, osdPacketNew 4] fd.content)) ∧
      ∃ written fd,
        writePackets (readPackets [1, 0, 7, 7, 5]) ⟨[], 100⟩ =
            .ok (written, fd) ∧
          (([1, 0, 7, 7, 5] : List Byte).length ≤ 100 → written = true) ∧
          (written = true → fd.content <+: [1, 0, 7, 7, 5]) := by
  have hthree : (osdPacketNew 3).Complete := ⟨by decide, by decide⟩
  have hfour : (osdPacketNew 4).Complete := ⟨by decide, by decide⟩
  have hcomplete : ∀ packet ∈ [osdPacketNew 3, osdPacketNew 4],
      packet.Complete := by
    intro packet hmem
    rcases List.mem_cons.mp hmem with rfl | hmem
    · exact hthree
    · rw [List.mem_singleton] at hmem
      rw [hmem]
      exact hfour
  exact ⟨dumpFiles_roundTrip.1 _ hcomplete 100, dumpFiles_roundTrip.2 _ 100⟩

end Osd
