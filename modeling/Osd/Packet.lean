import Osd.Foundation.Outcome
import Osd.Foundation.Bytes

/-!
# Debug interconnect packets

The packet object of `packet.c`: a size field and the words of the area that
was allocated for the data.  `DiPacket` is the packet as the interconnect
means it, header and payload, with a size that fits the 16 bit size field.
-/

namespace Osd

open Osd.Foundation

abbrev OsdResult := Int

def osdOk : OsdResult := 0
def osdErrorFailure : OsdResult := -1
def osdErrorDeviceError : OsdResult := -2
def osdErrorDeviceInvalidData : OsdResult := -3
def osdErrorCom : OsdResult := -4
def osdErrorTimedout : OsdResult := -5
def osdErrorNotConnected : OsdResult := -6
def osdErrorConnectionFailed : OsdResult := -9

def osdFailed (rv : OsdResult) : Bool := rv < 0

@[simp] theorem osdFailed_osdOk : osdFailed osdOk = false := rfl

/-! ## Addresses -/

def osdDiaddrSubnetMax : Nat := 2 ^ 6 - 1

def osdDiaddrLocalMax : Nat := 2 ^ 10 - 1

def osdDiaddrSubnet (diaddr : Nat) : Nat := diaddr >>> 10

def osdDiaddrLocaladdr (diaddr : Nat) : Nat := diaddr &&& (1 <<< 10 - 1)

def osdDiaddrBuild (subnet localDiaddr : Nat) : Outcome Nat := do
  assertThat (subnet ≤ osdDiaddrSubnetMax)
  assertThat (localDiaddr ≤ osdDiaddrLocalMax)
  .ok (subnet <<< 10 ||| localDiaddr)

theorem osdDiaddrSubnet_eq (diaddr : Nat) :
    osdDiaddrSubnet diaddr = diaddr / 1024 := by
  simp [osdDiaddrSubnet, Nat.shiftRight_eq_div_pow]

theorem osdDiaddrLocaladdr_eq (diaddr : Nat) :
    osdDiaddrLocaladdr diaddr = diaddr % 1024 :=
  Nat.and_two_pow_sub_one_eq_mod diaddr 10

theorem osdDiaddrBuild_eq {subnet localDiaddr : Nat}
    (hsubnet : subnet ≤ 63) (hlocal : localDiaddr ≤ 1023) :
    osdDiaddrBuild subnet localDiaddr =
      .ok (1024 * subnet + localDiaddr) := by
  rw [osdDiaddrBuild, assertThat_bind (by simpa [osdDiaddrSubnetMax]),
    assertThat_bind (by simpa [osdDiaddrLocalMax]),
    ← Nat.shiftLeft_add_eq_or_of_lt (by omega), Nat.shiftLeft_eq]
  congr 1
  ring

/-! ## The packet object -/

structure Packet where
  dataSizeWords : Word
  dataRaw : List Word
  deriving DecidableEq, Repr

abbrev packetHeaderWordCnt : Nat := 3

def osdPacketTypeReg : Nat := 0
def osdPacketTypeEvent : Nat := 2

def evLast : Nat := 0
def evCont : Nat := 1

def osdPacketSizeconvPayload2data (payloadWords : Nat) : Outcome Nat := do
  let s := (payloadWords + packetHeaderWordCnt) % 2 ^ 32
  assertThat (s ≤ 65535)
  .ok s

def osdPacketSizeconvData2payload (dataWords : Nat) : Outcome Nat := do
  assertThat (packetHeaderWordCnt ≤ dataWords)
  .ok (dataWords - packetHeaderWordCnt)

/-- The area is allocated for the full size, the size field keeps 16 bit. -/
def osdPacketNew (dataSizeWords : Nat) : Packet where
  dataSizeWords := UInt16.ofNat dataSizeWords
  dataRaw := List.replicate dataSizeWords 0

/-- The words that `realloc` adds are indeterminate; they read as zero here. -/
def osdPacketRealloc (packet : Packet) (dataSizeWordsNew : Nat) : Packet where
  dataSizeWords := UInt16.ofNat dataSizeWordsNew
  dataRaw := packet.dataRaw.take dataSizeWordsNew ++
    List.replicate (dataSizeWordsNew - packet.dataRaw.length) 0

/-- `memcpy` of whole words into the data area. -/
def storeWords (area : List Word) (offset : Nat) (words : List Word) :
    Outcome (List Word) := do
  inBounds (offset + words.length ≤ area.length)
  .ok (area.take offset ++ words ++ area.drop (offset + words.length))

theorem osdPacketRealloc_grow (packet : Packet) (more : Nat) :
    osdPacketRealloc packet (packet.dataRaw.length + more) =
      { dataSizeWords := UInt16.ofNat (packet.dataRaw.length + more)
        dataRaw := packet.dataRaw ++ List.replicate more 0 } := by
  simp [osdPacketRealloc, List.take_of_length_le]

theorem storeWords_behind (front tail words : List Word)
    (h : tail.length = words.length) :
    storeWords (front ++ tail) front.length words = .ok (front ++ words) := by
  rw [storeWords, inBounds_bind (by simp [h])]
  simp [← h]

def osdPacketNewFromZframe (frame : List Byte) : Outcome Packet := do
  let dataSizeWords := frame.length / 2
  assertThat (packetHeaderWordCnt ≤ dataSizeWords)
  let packet := osdPacketNew dataSizeWords
  -- all bytes of the frame are copied, also an odd one behind the last word
  inBounds (frame.length ≤ 2 * packet.dataRaw.length)
  .ok { packet with dataRaw := wordsOfBytes frame }

def Packet.word (packet : Packet) (index : Nat) : Outcome Word :=
  match packet.dataRaw[index]? with
  | none => .error .outOfBounds
  | some word => .ok word

def headerWord (packet : Packet) (index : Nat) : Outcome Word := do
  assertThat (packetHeaderWordCnt ≤ packet.dataSizeWords.toNat)
  packet.word index

def osdPacketGetDest (packet : Packet) : Outcome Nat := do
  let dest ← headerWord packet 0
  .ok dest.toNat

def osdPacketGetSrc (packet : Packet) : Outcome Nat := do
  let src ← headerWord packet 1
  .ok src.toNat

def typeOfFlags (flags : Word) : Nat := (flags >>> 14 &&& 0b11).toNat

def typeSubOfFlags (flags : Word) : Nat := (flags >>> 10 &&& 0b1111).toNat

def osdPacketGetType (packet : Packet) : Outcome Nat := do
  let flags ← headerWord packet 2
  .ok (typeOfFlags flags)

def osdPacketGetTypeSub (packet : Packet) : Outcome Nat := do
  let flags ← headerWord packet 2
  .ok (typeSubOfFlags flags)

def flagsWithTypeSub (flags : Word) (typeSub : Nat) : Word :=
  flags &&& ~~~((0b1111 : Word) <<< 10) |||
    (UInt16.ofNat typeSub &&& 0b1111) <<< 10

def osdPacketSetTypeSub (packet : Packet) (typeSub : Nat) :
    Outcome Packet := do
  assertThat (typeSub &&& 0b1111 = typeSub)
  let flags ← packet.word 2
  .ok { packet with
    dataRaw := packet.dataRaw.set 2 (flagsWithTypeSub flags typeSub) }

def osdPacketSetHeader (packet : Packet) (dest src type typeSub : Nat) :
    Outcome Packet := do
  assertThat (packetHeaderWordCnt ≤ packet.dataSizeWords.toNat)
  assertThat (dest &&& 0xFFFF = dest)
  assertThat (src &&& 0xFFFF = src)
  assertThat (type &&& 0b11 = type)
  let dataRaw ← storeWords packet.dataRaw 0
    [UInt16.ofNat dest, UInt16.ofNat src, UInt16.ofNat type <<< 14]
  osdPacketSetTypeSub { packet with dataRaw } typeSub

/-- The flags word of an event packet whose subtype is 0. -/
def eventFlags : Word := UInt16.ofNat osdPacketTypeEvent <<< 14

theorem osdPacketSetHeader_new {size dest src type typeSub : Nat}
    (hlow : packetHeaderWordCnt ≤ size) (hhigh : size < 2 ^ 16)
    (hdest : dest < 2 ^ 16) (hsrc : src < 2 ^ 16) (htype : type < 2 ^ 2)
    (htypeSub : typeSub < 2 ^ 4) :
    osdPacketSetHeader (osdPacketNew size) dest src type typeSub =
      .ok ⟨UInt16.ofNat size,
        UInt16.ofNat dest :: UInt16.ofNat src ::
          flagsWithTypeSub (UInt16.ofNat type <<< 14) typeSub ::
            List.replicate (size - 3) 0⟩ := by
  have hfield : ∀ {value bits : Nat}, value < 2 ^ bits →
      value &&& 2 ^ bits - 1 = value := by
    intro value bits h
    rw [Nat.and_two_pow_sub_one_eq_mod, Nat.mod_eq_of_lt h]
  have hdest' : dest &&& 0xFFFF = dest := hfield hdest
  have hsrc' : src &&& 0xFFFF = src := hfield hsrc
  have htype' : type &&& 0b11 = type := hfield htype
  have htypeSub' : typeSub &&& 0b1111 = typeSub := hfield htypeSub
  have hsize : (osdPacketNew size).dataSizeWords.toNat = size := by
    rw [osdPacketNew, UInt16.toNat_ofNat']
    exact Nat.mod_eq_of_lt hhigh
  have harea : (osdPacketNew size).dataRaw =
      List.replicate 3 0 ++ List.replicate (size - 3) 0 := by
    have hsum : 3 + (size - 3) = size := Nat.add_sub_cancel' hlow
    rw [List.replicate_append_replicate, hsum, osdPacketNew]
  rw [osdPacketSetHeader, assertThat_bind (by rwa [hsize]),
    assertThat_bind hdest', assertThat_bind hsrc', assertThat_bind htype',
    harea, storeWords, inBounds_bind (by simp), ok_bind,
    osdPacketSetTypeSub, assertThat_bind htypeSub']
  rfl

theorem osdPacketSetHeader_ok {packet packet' : Packet}
    {dest src type typeSub : Nat}
    (h : osdPacketSetHeader packet dest src type typeSub = .ok packet') :
    packetHeaderWordCnt ≤ packet.dataSizeWords.toNat ∧
      packet'.dataSizeWords = packet.dataSizeWords ∧
      ∃ flags rest, packet'.dataRaw =
        UInt16.ofNat dest :: UInt16.ofNat src :: flags :: rest := by
  unfold osdPacketSetHeader at h
  obtain ⟨hsize, h⟩ := assertThat_bind_eq_ok.mp h
  obtain ⟨-, h⟩ := assertThat_bind_eq_ok.mp h
  obtain ⟨-, h⟩ := assertThat_bind_eq_ok.mp h
  obtain ⟨-, h⟩ := assertThat_bind_eq_ok.mp h
  obtain ⟨dataRaw, hstore, h⟩ := bind_eq_ok.mp h
  obtain ⟨-, hstore⟩ := inBounds_bind_eq_ok.mp hstore
  cases hstore
  unfold osdPacketSetTypeSub at h
  obtain ⟨-, h⟩ := assertThat_bind_eq_ok.mp h
  obtain ⟨flags, -, h⟩ := bind_eq_ok.mp h
  cases h
  exact ⟨hsize, rfl, _, _, rfl⟩

/-- A new event packet of valid size gets its header, or an address does not
fit into its field. -/
theorem osdPacketSetHeader_event {allowed : Fault → Prop} {dest src : Nat}
    (hallowed : dest < 2 ^ 16 ∧ src < 2 ^ 16 ∨ allowed .assertion)
    {size : Nat} (hlow : packetHeaderWordCnt ≤ size)
    (hhigh : size < 2 ^ 16) :
    Meets allowed
      (osdPacketSetHeader (osdPacketNew size) dest src osdPacketTypeEvent 0)
      fun packet =>
        dest < 2 ^ 16 ∧ src < 2 ^ 16 ∧
          packet = ⟨UInt16.ofNat size,
            UInt16.ofNat dest :: UInt16.ofNat src :: eventFlags ::
              List.replicate (size - 3) 0⟩ := by
  have hfield : ∀ {value : Nat}, value &&& 0xFFFF = value → value < 2 ^ 16 := by
    intro value h
    rw [show 0xFFFF = 2 ^ 16 - 1 by norm_num,
      Nat.and_two_pow_sub_one_eq_mod] at h
    omega
  by_cases haddrs : dest < 2 ^ 16 ∧ src < 2 ^ 16
  · rw [osdPacketSetHeader_new hlow hhigh haddrs.1 haddrs.2 (by decide)
      (by decide)]
    exact ⟨haddrs.1, haddrs.2, rfl⟩
  · have hfault := hallowed.resolve_left haddrs
    rw [osdPacketSetHeader]
    refine Meets.assertThat hfault (fun _ => ?_)
    refine Meets.assertThat hfault (fun hdest => ?_)
    refine Meets.assertThat hfault (fun hsrc => ?_)
    exact absurd ⟨hfield hdest, hfield hsrc⟩ haddrs

def osdPacketSizeof (packet : Packet) : Nat := packet.dataSizeWords.toNat * 2

/-- The bytes that a message frame made of `data_raw` holds. -/
def Packet.frame (packet : Packet) : List Byte :=
  (bytesOfWords packet.dataRaw).take (osdPacketSizeof packet)

def osdPacketCombine (first second : Packet) : Outcome Packet := do
  let firstPayload ←
    osdPacketSizeconvData2payload first.dataSizeWords.toNat
  let secondPayload ←
    osdPacketSizeconvData2payload second.dataSizeWords.toNat
  let newSize : Word := first.dataSizeWords + UInt16.ofNat secondPayload
  let grown := osdPacketRealloc first newSize.toNat
  inBounds (packetHeaderWordCnt + secondPayload ≤ second.dataRaw.length)
  let payload := (second.dataRaw.drop packetHeaderWordCnt).take secondPayload
  let dataRaw ← storeWords grown.dataRaw
    (packetHeaderWordCnt + firstPayload) payload
  .ok { grown with dataRaw }

/-! ## Packets with a consistent size -/

structure DiPacket where
  dest : Word
  src : Word
  flags : Word
  payload : List Word
  fits : payload.length + 3 < 2 ^ 16
  deriving DecidableEq, Repr

namespace DiPacket

theorem empty_fits : ([] : List Word).length + 3 < 2 ^ 16 := by
  simp

theorem single_fits (word : Word) : [word].length + 3 < 2 ^ 16 := by
  simp

@[ext] theorem ext {first second : DiPacket}
    (hdest : first.dest = second.dest) (hsrc : first.src = second.src)
    (hflags : first.flags = second.flags)
    (hpayload : first.payload = second.payload) : first = second := by
  cases first
  cases second
  simp_all

def typeSub (packet : DiPacket) : Nat := typeSubOfFlags packet.flags

def toPacket (packet : DiPacket) : Packet where
  dataSizeWords := UInt16.ofNat (packet.payload.length + 3)
  dataRaw := packet.dest :: packet.src :: packet.flags :: packet.payload

variable (packet : DiPacket)

@[simp] theorem toPacket_size :
    packet.toPacket.dataSizeWords.toNat = packet.payload.length + 3 := by
  simp only [toPacket, UInt16.toNat_ofNat']
  exact Nat.mod_eq_of_lt packet.fits

@[simp] theorem toPacket_length :
    packet.toPacket.dataRaw.length = packet.payload.length + 3 := rfl

@[simp] theorem toPacket_dataRaw :
    packet.toPacket.dataRaw =
      packet.dest :: packet.src :: packet.flags :: packet.payload := rfl

theorem toPacket_injective {first second : DiPacket}
    (h : first.toPacket = second.toPacket) : first = second := by
  have hraw := congrArg Packet.dataRaw h
  simp only [toPacket, List.cons.injEq] at hraw
  obtain ⟨hdest, hsrc, hflags, hpayload⟩ := hraw
  exact ext hdest hsrc hflags hpayload

theorem headerWord_toPacket (index : Nat) :
    headerWord packet.toPacket index = packet.toPacket.word index := by
  rw [headerWord, assertThat_bind (by simp [packetHeaderWordCnt])]

@[simp] theorem getDest_toPacket :
    osdPacketGetDest packet.toPacket = .ok packet.dest.toNat := by
  simp [osdPacketGetDest, headerWord_toPacket, Packet.word]

@[simp] theorem getSrc_toPacket :
    osdPacketGetSrc packet.toPacket = .ok packet.src.toNat := by
  simp [osdPacketGetSrc, headerWord_toPacket, Packet.word]

@[simp] theorem getType_toPacket :
    osdPacketGetType packet.toPacket = .ok (typeOfFlags packet.flags) := by
  simp [osdPacketGetType, headerWord_toPacket, Packet.word]

@[simp] theorem getTypeSub_toPacket :
    osdPacketGetTypeSub packet.toPacket = .ok packet.typeSub := by
  simp [osdPacketGetTypeSub, headerWord_toPacket, Packet.word, typeSub]

def withTypeSub (value : Nat) : DiPacket :=
  { packet with flags := flagsWithTypeSub packet.flags value }

@[simp] theorem setTypeSub_toPacket {value : Nat} (h : value < 16) :
    osdPacketSetTypeSub packet.toPacket value =
      .ok (packet.withTypeSub value).toPacket := by
  have hmask : value &&& 0b1111 = value := by
    rw [show 0b1111 = 2 ^ 4 - 1 by norm_num, Nat.and_two_pow_sub_one_eq_mod]
    omega
  rw [osdPacketSetTypeSub, assertThat_bind hmask]
  simp [Packet.word, withTypeSub, toPacket]

/-- Both packets in one, the header of the first. -/
def append (first second : DiPacket)
    (h : first.payload.length + second.payload.length + 3 < 2 ^ 16) :
    DiPacket where
  dest := first.dest
  src := first.src
  flags := first.flags
  payload := first.payload ++ second.payload
  fits := by simpa using h

@[simp] theorem sizeconvData2payload_toPacket :
    osdPacketSizeconvData2payload packet.toPacket.dataSizeWords.toNat =
      .ok packet.payload.length := by
  rw [osdPacketSizeconvData2payload, toPacket_size,
    assertThat_bind (by simp)]
  rfl

theorem combine_toPacket (first second : DiPacket)
    (h : first.payload.length + second.payload.length + 3 < 2 ^ 16) :
    osdPacketCombine first.toPacket second.toPacket =
      .ok (first.append second h).toPacket := by
  have hnew : (first.toPacket.dataSizeWords +
      UInt16.ofNat second.payload.length).toNat =
        first.toPacket.dataRaw.length + second.payload.length := by
    rw [UInt16.toNat_add, toPacket_size, UInt16.toNat_ofNat',
      toPacket_length]
    omega
  have hpayload : (second.toPacket.dataRaw.drop packetHeaderWordCnt).take
      second.payload.length = second.payload := by
    simp
  have hoffset : packetHeaderWordCnt + first.payload.length =
      first.toPacket.dataRaw.length := by
    rw [toPacket_length, Nat.add_comm]
  rw [osdPacketCombine, sizeconvData2payload_toPacket, ok_bind,
    sizeconvData2payload_toPacket, ok_bind]
  simp only [hnew, hpayload, hoffset, osdPacketRealloc_grow]
  rw [inBounds_bind (by rw [toPacket_length, Nat.add_comm]),
    storeWords_behind _ _ _ (by simp), ok_bind]
  simp only [append, toPacket, List.length_append, List.cons_append]
  simp only [List.length_cons]
  rw [show first.payload.length + 1 + 1 + 1 + second.payload.length =
    first.payload.length + second.payload.length + 3 by omega]

end DiPacket

end Osd
