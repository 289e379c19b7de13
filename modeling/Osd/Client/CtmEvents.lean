import Osd.Client.Events

/-!
# Core trace payloads

The payload of a core trace event is its timestamp, next program counter and
program counter, each with the least significant word first, and one word of
flags.
-/

namespace Osd.Client

open Osd.Foundation

/-! ## Encoding -/

/-- The mode and the three flags; `above` are the unused bits. -/
def ctmFlags (ev : OsdCtmEvent) (above : Nat) : Word :=
  UInt16.ofNat (ev.mode.toNat + 4 * ev.isRet.toNat + 8 * ev.isCall.toNat +
    16 * ev.isModechange.toNat + 32 * above)

def ctmPayload (awWords : Nat) (ev : OsdCtmEvent) (above : Nat) :
    List Word :=
  wordsOfValue 2 ev.timestamp ++ wordsOfValue awWords ev.npc ++
    wordsOfValue awWords ev.pc ++ [ctmFlags ev above]

/-- The values of a trace event with addresses of the given width. -/
structure CtmValues (addrWidthBit : Nat) (ev : OsdCtmEvent) : Prop where
  timestamp : ev.timestamp < 2 ^ 32
  npc : ev.npc < 2 ^ addrWidthBit
  pc : ev.pc < 2 ^ addrWidthBit
  mode : ev.mode.toNat < 4
  overflow : ev.overflow = 0

/-! ## The words that are read -/

section Reading

variable (read : Nat → Outcome Word)

def orPayloadWith (start : Nat) : Nat → Outcome Nat
  | 0 => .ok 0
  | count + 1 => do
      let value ← orPayloadWith start count
      let word ← read (start + count)
      .ok (value ||| (word.toNat <<< (count * 16)) % 2 ^ 64)

def timestampWith (index : Nat) : Outcome Nat := do
  let high ← read (index + 1)
  let low ← read index
  .ok (high.toNat <<< 16 ||| low.toNat)

/-- `build_ctm_event` where the payload words come from `read`. -/
def buildCtmEventWith (ctmDesc : OsdCtmDesc) (pkg : Packet) :
    Outcome OsdCtmEvent := do
  let typeSub ← osdPacketGetTypeSub pkg
  if typeSub = evOverflow then do
    let size ← osdPacketSizeconvPayload2data 1
    assertThat (size = pkg.dataSizeWords.toNat)
    let overflow ← read 0
    .ok ⟨0, 0, 0, 0, false, false, false, overflow⟩
  else do
    let expPayloadLenBit := 32 + ctmDesc.addrWidthBit.toNat +
      ctmDesc.addrWidthBit.toNat + 2 + 1 + 1 + 1
    let size ← osdPacketSizeconvPayload2data
      (Osd.Mam.intDivCeil expPayloadLenBit 16)
    assertThat (size = pkg.dataSizeWords.toNat)
    let awWords := ctmDesc.addrWidthBit.toNat / 16
    let timestamp ← timestampWith read 0
    let npc ← orPayloadWith read 2 awWords
    let pc ← orPayloadWith read (2 + awWords) awWords
    let flags ← read (2 + awWords + awWords)
    .ok ⟨timestamp, npc, pc, flags &&& 0x3, flags >>> 2 &&& 1 ≠ 0,
      flags >>> 3 &&& 1 ≠ 0, flags >>> 4 &&& 1 ≠ 0, 0⟩

end Reading

theorem orPayloadWith_payloadWord (pkg : Packet) (start count : Nat) :
    orPayloadWith (payloadWord pkg) start count =
      orPayload pkg start count := by
  induction count with
  | zero => rfl
  | succ count ih => rw [orPayloadWith, orPayload, ih]

/-- The words are those of the packet. -/
theorem buildCtmEventWith_payloadWord (ctmDesc : OsdCtmDesc) (pkg : Packet) :
    buildCtmEventWith (payloadWord pkg) ctmDesc pkg =
      buildCtmEvent ctmDesc pkg := by
  simp only [buildCtmEventWith, buildCtmEvent, orPayloadWith_payloadWord]
  rfl

/-- Every payload word is needed for the event, and nothing else is. -/
structure ReadsPayload (ctmDesc : OsdCtmDesc) (packet : DiPacket) : Prop where
  all : ∀ (read : Nat → Outcome Word) index fault,
    index < packet.payload.length → read index = .error fault →
      ¬Returns (buildCtmEventWith read ctmDesc packet.toPacket)
  none_beyond : ∀ read read' : Nat → Outcome Word,
    (∀ index, index < packet.payload.length → read index = read' index) →
      buildCtmEventWith read ctmDesc packet.toPacket =
        buildCtmEventWith read' ctmDesc packet.toPacket

def ctmPayloadLength (ctmDesc : OsdCtmDesc) : Nat :=
  3 + 2 * (ctmDesc.addrWidthBit.toNat / 16)

structure DecodesExactly (ctmDesc : OsdCtmDesc) (packet : DiPacket) :
    Prop where
  decode : ∀ ev above, CtmValues ctmDesc.addrWidthBit.toNat ev →
    packet.payload =
        ctmPayload (ctmDesc.addrWidthBit.toNat / 16) ev above →
      buildCtmEvent ctmDesc packet.toPacket = .ok ev ∧
        ReadsPayload ctmDesc packet
  encode : packet.payload.length = ctmPayloadLength ctmDesc →
    ∃ ev above, CtmValues ctmDesc.addrWidthBit.toNat ev ∧
      buildCtmEvent ctmDesc packet.toPacket = .ok ev ∧
      ctmPayload (ctmDesc.addrWidthBit.toNat / 16) ev above = packet.payload

/-! ## Flags -/

theorem toNat_shifted_bit (flags : Word) {shift : Nat} (h : shift < 16) :
    (flags >>> UInt16.ofNat shift &&& 1).toNat =
      flags.toNat / 2 ^ shift % 2 := by
  have hshift : (UInt16.ofNat shift).toNat % 16 = shift := by
    rw [UInt16.toNat_ofNat']
    omega
  rw [UInt16.toNat_and, UInt16.toNat_shiftRight, hshift,
    Nat.shiftRight_eq_div_pow]
  exact Nat.and_two_pow_sub_one_eq_mod _ 1

theorem toNat_flag (flags : Word) {shift : Nat} (h : shift < 16) :
    (decide (flags >>> UInt16.ofNat shift &&& 1 ≠ 0)).toNat =
      flags.toNat / 2 ^ shift % 2 := by
  have hbit := toNat_shifted_bit flags h
  by_cases hzero : flags >>> UInt16.ofNat shift &&& 1 = 0
  · rw [hzero] at hbit
    simp [hzero, ← hbit]
  · have hne : (flags >>> UInt16.ofNat shift &&& 1).toNat ≠ 0 := by
      intro htoNat
      exact hzero (UInt16.toNat_inj.mp htoNat)
    simp only [ne_eq, hzero, not_false_eq_true, decide_true, Bool.toNat_true]
    omega

theorem toNat_mode (flags : Word) :
    (flags &&& 0x3).toNat = flags.toNat % 4 := by
  rw [UInt16.toNat_and]
  exact Nat.and_two_pow_sub_one_eq_mod _ 2

def ctmEventOf (timestamp npc pc : List Word) (flags : Word) : OsdCtmEvent :=
  ⟨wordsValue timestamp, wordsValue npc, wordsValue pc, flags &&& 0x3,
    flags >>> 2 &&& 1 ≠ 0, flags >>> 3 &&& 1 ≠ 0, flags >>> 4 &&& 1 ≠ 0, 0⟩

section Flags

variable (timestamp npc pc : List Word) (flags : Word)

theorem ctmEventOf_isRet :
    (ctmEventOf timestamp npc pc flags).isRet.toNat = flags.toNat / 4 % 2 :=
  toNat_flag flags (show 2 < 16 by decide)

theorem ctmEventOf_isCall :
    (ctmEventOf timestamp npc pc flags).isCall.toNat = flags.toNat / 8 % 2 :=
  toNat_flag flags (show 3 < 16 by decide)

theorem ctmEventOf_isModechange :
    (ctmEventOf timestamp npc pc flags).isModechange.toNat =
      flags.toNat / 16 % 2 :=
  toNat_flag flags (show 4 < 16 by decide)

theorem ctmEventOf_mode :
    (ctmEventOf timestamp npc pc flags).mode.toNat = flags.toNat % 4 :=
  toNat_mode flags

theorem ctmFlags_ctmEventOf :
    ctmFlags (ctmEventOf timestamp npc pc flags) (flags.toNat / 32) =
      flags := by
  have hlt := flags.toNat_lt
  apply UInt16.toNat_inj.mp
  rw [ctmFlags, ctmEventOf_mode, ctmEventOf_isRet, ctmEventOf_isCall,
    ctmEventOf_isModechange, UInt16.toNat_ofNat']
  omega

end Flags

theorem eq_of_toNat {first second : Bool} (h : first.toNat = second.toNat) :
    first = second := by
  cases first <;> cases second <;> simp_all

theorem ctmEventOf_ctmFlags {ev : OsdCtmEvent} {addrWidthBit : Nat}
    (hvalues : CtmValues addrWidthBit ev) (above : Nat)
    {timestamp npc pc : List Word}
    (htimestamp : wordsValue timestamp = ev.timestamp)
    (hnpc : wordsValue npc = ev.npc) (hpc : wordsValue pc = ev.pc) :
    ctmEventOf timestamp npc pc (ctmFlags ev above) = ev := by
  have hmode := hvalues.mode
  have hret := ev.isRet.toNat_le
  have hcall := ev.isCall.toNat_le
  have hmodechange := ev.isModechange.toNat_le
  have hflags : (ctmFlags ev above).toNat =
      (ev.mode.toNat + 4 * ev.isRet.toNat + 8 * ev.isCall.toNat +
        16 * ev.isModechange.toNat + 32 * above) % 2 ^ 16 := by
    rw [ctmFlags, UInt16.toNat_ofNat']
  have hmode' : (ctmEventOf timestamp npc pc (ctmFlags ev above)).mode =
      ev.mode := by
    apply UInt16.toNat_inj.mp
    rw [ctmEventOf_mode, hflags]
    omega
  have hret' : (ctmEventOf timestamp npc pc (ctmFlags ev above)).isRet =
      ev.isRet := by
    apply eq_of_toNat
    rw [ctmEventOf_isRet, hflags]
    omega
  have hcall' : (ctmEventOf timestamp npc pc (ctmFlags ev above)).isCall =
      ev.isCall := by
    apply eq_of_toNat
    rw [ctmEventOf_isCall, hflags]
    omega
  have hmodechange' :
      (ctmEventOf timestamp npc pc (ctmFlags ev above)).isModechange =
        ev.isModechange := by
    apply eq_of_toNat
    rw [ctmEventOf_isModechange, hflags]
    omega
  have hoverflow := hvalues.overflow
  generalize hdecoded : ctmEventOf timestamp npc pc (ctmFlags ev above) =
    decoded at *
  have htimestamp' : decoded.timestamp = ev.timestamp := by
    rw [← hdecoded, ← htimestamp, ctmEventOf]
  have hnpc' : decoded.npc = ev.npc := by
    rw [← hdecoded, ← hnpc, ctmEventOf]
  have hpc' : decoded.pc = ev.pc := by
    rw [← hdecoded, ← hpc, ctmEventOf]
  have hoverflow' : decoded.overflow = 0 := by
    rw [← hdecoded, ctmEventOf]
  cases decoded
  cases ev
  simp_all

/-! ## Decoding -/

section Decoding

variable {ctmDesc : OsdCtmDesc} {packet : DiPacket}

theorem ctmPayloadLength_eq (hwidth : ValidWidth ctmDesc.addrWidthBit) :
    Osd.Mam.intDivCeil (32 + ctmDesc.addrWidthBit.toNat +
        ctmDesc.addrWidthBit.toNat + 2 + 1 + 1 + 1) 16 =
      ctmPayloadLength ctmDesc ∧ ctmPayloadLength ctmDesc ≤ 16 ∧
      ctmDesc.addrWidthBit.toNat / 16 ≤ 4 := by
  unfold ctmPayloadLength
  rcases hwidth.cases with h | h | h <;> rw [h] <;> decide

theorem buildCtmEventWith_eq (hwidth : ValidWidth ctmDesc.addrWidthBit)
    (htype : packet.typeSub ≠ evOverflow)
    (hlength : packet.payload.length = ctmPayloadLength ctmDesc)
    (read : Nat → Outcome Word) :
    buildCtmEventWith read ctmDesc packet.toPacket = (do
      let awWords := ctmDesc.addrWidthBit.toNat / 16
      let timestamp ← timestampWith read 0
      let npc ← orPayloadWith read 2 awWords
      let pc ← orPayloadWith read (2 + awWords) awWords
      let flags ← read (2 + awWords + awWords)
      .ok ⟨timestamp, npc, pc, flags &&& 0x3, flags >>> 2 &&& 1 ≠ 0,
        flags >>> 3 &&& 1 ≠ 0, flags >>> 4 &&& 1 ≠ 0, 0⟩) := by
  obtain ⟨hwords, hsmall, -⟩ := ctmPayloadLength_eq hwidth
  unfold buildCtmEventWith
  rw [DiPacket.getTypeSub_toPacket, ok_bind, if_neg htype]
  dsimp only
  rw [hwords, payloadSize_bind _ hsmall, if_pos hlength]

theorem buildCtmEvent_eq (hwidth : ValidWidth ctmDesc.addrWidthBit)
    (htype : packet.typeSub ≠ evOverflow) {low high flags : Word}
    {npc pc : List Word}
    (hnpc : npc.length = ctmDesc.addrWidthBit.toNat / 16)
    (hpc : pc.length = ctmDesc.addrWidthBit.toNat / 16)
    (hpayload : packet.payload = [low, high] ++ npc ++ pc ++ [flags]) :
    buildCtmEvent ctmDesc packet.toPacket =
      .ok (ctmEventOf [low, high] npc pc flags) := by
  obtain ⟨-, -, hfour⟩ := ctmPayloadLength_eq hwidth
  have hlength : packet.payload.length = ctmPayloadLength ctmDesc := by
    rw [hpayload, ctmPayloadLength]
    simp only [List.length_append, List.length_cons, List.length_nil]
    omega
  have hdrop : packet.payload.drop 2 = npc ++ (pc ++ [flags]) := by
    rw [hpayload]
    simp
  have hdrop' : packet.payload.drop
      (2 + ctmDesc.addrWidthBit.toNat / 16) = pc ++ [flags] := by
    rw [← List.drop_drop, hdrop, ← hnpc, List.drop_left]
  have hlast : packet.payload[2 + ctmDesc.addrWidthBit.toNat / 16 +
      ctmDesc.addrWidthBit.toNat / 16]? = some flags := by
    rw [← List.getElem?_drop, hdrop', ← hpc]
    simp
  have hnpcOf := orPayload_toPacket hdrop hfour
    (by rw [List.length_append]; omega)
  have hpcOf := orPayload_toPacket hdrop' hfour
    (by rw [List.length_append]; omega)
  rw [← hnpc, List.take_left, hnpc] at hnpcOf
  rw [← hpc, List.take_left, hpc] at hpcOf
  have htimestamp : timestampWith (payloadWord packet.toPacket) 0 =
      .ok (wordsValue [low, high]) :=
    timestampOf_toPacket (by rw [hpayload]; rfl) (by rw [hpayload]; rfl)
  rw [← buildCtmEventWith_payloadWord,
    buildCtmEventWith_eq hwidth htype hlength]
  dsimp only
  rw [htimestamp, ok_bind, orPayloadWith_payloadWord, hnpcOf, ok_bind,
    orPayloadWith_payloadWord, hpcOf, ok_bind, payloadWord_toPacket hlast,
    ok_bind]
  rfl

end Decoding

/-! ## Reading -/

section ReadsPayload

variable {read read' : Nat → Outcome Word} {start count : Nat}

theorem read_of_orPayloadWith {value : Nat}
    (h : orPayloadWith read start count = .ok value) {index : Nat}
    (hlow : start ≤ index) (hhigh : index < start + count) :
    Returns (read index) := by
  induction count generalizing value with
  | zero => omega
  | succ count ih =>
      obtain ⟨front, hfront, hrest⟩ := bind_eq_ok.mp h
      obtain ⟨word, hword, -⟩ := bind_eq_ok.mp hrest
      by_cases hlast : index = start + count
      · rw [hlast]
        exact ⟨word, hword⟩
      · exact ih hfront (by omega)

theorem orPayloadWith_congr
    (h : ∀ index, start ≤ index → index < start + count →
      read index = read' index) :
    orPayloadWith read start count = orPayloadWith read' start count := by
  induction count with
  | zero => rfl
  | succ count ih =>
      have hfront := ih fun index hlow hhigh => h index hlow (by omega)
      rw [orPayloadWith, orPayloadWith, hfront,
        h (start + count) (by omega) (by omega)]

theorem readsPayload {ctmDesc : OsdCtmDesc} {packet : DiPacket}
    (hwidth : ValidWidth ctmDesc.addrWidthBit)
    (htype : packet.typeSub ≠ evOverflow)
    (hlength : packet.payload.length = ctmPayloadLength ctmDesc) :
    ReadsPayload ctmDesc packet := by
  have hwords := hlength
  rw [ctmPayloadLength] at hwords
  constructor
  · rintro read index fault hindex hfault ⟨ev, h⟩
    rw [buildCtmEventWith_eq hwidth htype hlength] at h
    obtain ⟨timestamp, htimestamp, hnpc⟩ := bind_eq_ok.mp h
    obtain ⟨npc, hnpcOf, hpc⟩ := bind_eq_ok.mp hnpc
    obtain ⟨pc, hpcOf, hflags⟩ := bind_eq_ok.mp hpc
    obtain ⟨flags, hflagsOf, -⟩ := bind_eq_ok.mp hflags
    obtain ⟨high, hhigh, hlow⟩ := bind_eq_ok.mp htimestamp
    obtain ⟨low, hlowOf, -⟩ := bind_eq_ok.mp hlow
    have hreturns : Returns (read index) := by
      rcases Nat.lt_or_ge index 2 with hstamp | hstamp
      · interval_cases index
        · exact ⟨low, hlowOf⟩
        · exact ⟨high, hhigh⟩
      · rcases Nat.lt_or_ge index (2 + ctmDesc.addrWidthBit.toNat / 16)
          with hnpcs | hnpcs
        · exact read_of_orPayloadWith hnpcOf hstamp hnpcs
        · rcases Nat.lt_or_ge index (2 + ctmDesc.addrWidthBit.toNat / 16 +
            ctmDesc.addrWidthBit.toNat / 16) with hpcs | hpcs
          · exact read_of_orPayloadWith hpcOf hnpcs hpcs
          · have hlast : index = 2 + ctmDesc.addrWidthBit.toNat / 16 +
                ctmDesc.addrWidthBit.toNat / 16 := by omega
            rw [hlast]
            exact ⟨flags, hflagsOf⟩
    rw [hfault] at hreturns
    exact not_returns_error fault hreturns
  · intro read read' hsame
    rw [buildCtmEventWith_eq hwidth htype hlength,
      buildCtmEventWith_eq hwidth htype hlength]
    have htimestamp : timestampWith read 0 = timestampWith read' 0 := by
      rw [timestampWith, timestampWith, hsame 0 (by omega),
        hsame (0 + 1) (by omega)]
    have hnpc : orPayloadWith read 2 (ctmDesc.addrWidthBit.toNat / 16) =
        orPayloadWith read' 2 (ctmDesc.addrWidthBit.toNat / 16) :=
      orPayloadWith_congr fun index _ _ => hsame index (by omega)
    have hpc : orPayloadWith read (2 + ctmDesc.addrWidthBit.toNat / 16)
        (ctmDesc.addrWidthBit.toNat / 16) =
          orPayloadWith read' (2 + ctmDesc.addrWidthBit.toNat / 16)
            (ctmDesc.addrWidthBit.toNat / 16) :=
      orPayloadWith_congr fun index _ _ => hsame index (by omega)
    dsimp only
    rw [htimestamp, hnpc, hpc, hsame _ (by omega)]

end ReadsPayload

/-! ## Both directions -/

section Exact

variable {ctmDesc : OsdCtmDesc} {packet : DiPacket}

theorem two_pow_width (hwidth : ValidWidth ctmDesc.addrWidthBit) :
    65536 ^ (ctmDesc.addrWidthBit.toNat / 16) =
      2 ^ ctmDesc.addrWidthBit.toNat := by
  rcases hwidth.cases with h | h | h <;> rw [h] <;> norm_num

theorem length_ctmPayload (awWords : Nat) (ev : OsdCtmEvent) (above : Nat) :
    (ctmPayload awWords ev above).length = 3 + 2 * awWords := by
  simp only [ctmPayload, List.length_append, length_wordsOfValue,
    List.length_cons, List.length_nil]
  omega

theorem build_ctmPayload (hwidth : ValidWidth ctmDesc.addrWidthBit)
    (htype : packet.typeSub ≠ evOverflow) {ev : OsdCtmEvent} {above : Nat}
    (hvalues : CtmValues ctmDesc.addrWidthBit.toNat ev)
    (hpayload : packet.payload =
      ctmPayload (ctmDesc.addrWidthBit.toNat / 16) ev above) :
    buildCtmEvent ctmDesc packet.toPacket = .ok ev := by
  have hpow := two_pow_width hwidth
  have htimestamp : wordsValue (wordsOfValue 2 ev.timestamp) =
      ev.timestamp := by
    apply wordsValue_wordsOfValue
    exact hvalues.timestamp
  have hnpc := wordsValue_wordsOfValue _ ev.npc (hpow ▸ hvalues.npc)
  have hpc := wordsValue_wordsOfValue _ ev.pc (hpow ▸ hvalues.pc)
  rw [buildCtmEvent_eq hwidth htype (length_wordsOfValue _ ev.npc)
    (length_wordsOfValue _ ev.pc) hpayload]
  exact congrArg _ (ctmEventOf_ctmFlags hvalues above htimestamp hnpc hpc)

theorem exists_ctmWords
    (hlength : packet.payload.length = ctmPayloadLength ctmDesc) :
    ∃ low high npc pc flags,
      packet.payload = [low, high] ++ npc ++ pc ++ [flags] ∧
      npc.length = ctmDesc.addrWidthBit.toNat / 16 ∧
      pc.length = ctmDesc.addrWidthBit.toNat / 16 := by
  rw [ctmPayloadLength] at hlength
  generalize ctmDesc.addrWidthBit.toNat / 16 = awWords at *
  match hpayload : packet.payload with
  | [] =>
      rw [hpayload, List.length_nil] at hlength
      omega
  | [_] =>
      rw [hpayload, List.length_singleton] at hlength
      omega
  | low :: high :: rest =>
      rw [hpayload, List.length_cons, List.length_cons] at hlength
      have hfront : rest.take awWords ++ rest.drop awWords = rest :=
        List.take_append_drop awWords rest
      rcases List.eq_nil_or_concat (rest.drop awWords) with hnil | hsnoc
      · have hnone := congrArg List.length hnil
        rw [List.length_drop, List.length_nil] at hnone
        omega
      · obtain ⟨pc, flags, hsnoc⟩ := hsnoc
        have hpc := congrArg List.length hsnoc
        rw [List.length_drop, List.length_concat] at hpc
        refine ⟨low, high, rest.take awWords, pc, flags, ?_, ?_, by omega⟩
        · rw [List.append_assoc, List.append_assoc, ← List.concat_eq_append,
            ← hsnoc, hfront]
          rfl
        · rw [List.length_take]
          omega

theorem exists_ctmPayload (hwidth : ValidWidth ctmDesc.addrWidthBit)
    (htype : packet.typeSub ≠ evOverflow)
    (hlength : packet.payload.length = ctmPayloadLength ctmDesc) :
    ∃ ev above, CtmValues ctmDesc.addrWidthBit.toNat ev ∧
      buildCtmEvent ctmDesc packet.toPacket = .ok ev ∧
      ctmPayload (ctmDesc.addrWidthBit.toNat / 16) ev above =
        packet.payload := by
  obtain ⟨low, high, npc, pc, flags, hpayload, hnpc, hpc⟩ :=
    exists_ctmWords hlength
  have hpow := two_pow_width hwidth
  have hstamp : wordsValue [low, high] < 2 ^ 32 := by
    calc wordsValue [low, high] < 65536 ^ [low, high].length :=
          wordsValue_lt [low, high]
      _ = 2 ^ 32 := by norm_num
  refine ⟨ctmEventOf [low, high] npc pc flags, flags.toNat / 32, ?_,
    buildCtmEvent_eq hwidth htype hnpc hpc hpayload, ?_⟩
  · refine
      { timestamp := hstamp
        npc := ?_
        pc := ?_
        mode := ?_
        overflow := rfl }
    · rw [← hpow, ← hnpc]
      exact wordsValue_lt npc
    · rw [← hpow, ← hpc]
      exact wordsValue_lt pc
    · rw [ctmEventOf_mode]
      omega
  · have hstampWords : wordsOfValue 2 (wordsValue [low, high]) = [low, high] :=
      wordsOfValue_wordsValue [low, high]
    have hnpcWords := wordsOfValue_wordsValue npc
    have hpcWords := wordsOfValue_wordsValue pc
    rw [hnpc] at hnpcWords
    rw [hpc] at hpcWords
    rw [ctmPayload, ctmFlags_ctmEventOf, hpayload]
    simp only [ctmEventOf, hstampWords, hnpcWords, hpcWords]

theorem decodesExactly (hwidth : ValidWidth ctmDesc.addrWidthBit)
    (htype : packet.typeSub ≠ evOverflow) :
    DecodesExactly ctmDesc packet := by
  constructor
  · intro ev above hvalues hpayload
    refine ⟨build_ctmPayload hwidth htype hvalues hpayload, ?_⟩
    apply readsPayload hwidth htype
    rw [hpayload, length_ctmPayload, ctmPayloadLength]
  · intro hlength
    exact exists_ctmPayload hwidth htype hlength

end Exact

/-- The event of a 16 bit core, a call in mode 3. -/
theorem decodesExactly_call :
    DecodesExactly ⟨5, 16, 16⟩
      ⟨1, 2, eventFlags, [7, 0, 0x104, 0x100, 0xFF0B], by simp⟩ :=
  decodesExactly (Or.inl rfl) (by decide)

end Osd.Client
