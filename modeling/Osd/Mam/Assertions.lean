import Osd.Mam.Alignment
import Osd.Mam.Bursts
import Osd.Mam.Read

/-!
# Assertions of the client

For ranges with aligned parts no assertion of a write or read fails, whatever
the sends and receives return; for all others one does.
-/

namespace Osd.Mam

open Osd.Foundation

variable {δ : Type}

/-! ## Calls without a failing assertion -/

def NoAssertion (fault : Fault) : Prop := fault ≠ .assertion

def AlwaysOk (link : Link δ) : Prop :=
  ∀ dev packet, (link.onSend dev packet).1 = osdOk

/-- Packets that arrive have their header words. -/
def WellFormed : Received → Prop
  | .packet packet => ∃ p : DiPacket, packet = p.toPacket
  | .failed _ _ => True

def SoundLink (link : Link δ) : Prop :=
  ∀ dev packet, ∀ result ∈ (link.onSend dev packet).2.1, WellFormed result

structure SoundSession (s : Session δ) : Prop where
  diaddr : s.diaddr < 2 ^ 16
  rx : ∀ result ∈ s.rx, WellFormed result

section

variable {link : Link δ} {desc : MemDesc} {s s' : Session δ}
  {allowed : Fault → Prop}

/-- The session is sound, and without failing sends a call that does not wait
for an acknowledgement succeeds. -/
structure Sound (link : Link δ) (sync : Bool)
    (result : OsdResult × Session δ) : Prop where
  session : SoundSession result.2
  ok : AlwaysOk link → sync = false → result.1 = osdOk

theorem SoundSession.deliver (hlink : SoundLink link) (h : SoundSession s)
    (packet : Packet) : SoundSession (deliver link s packet) := by
  constructor
  · exact h.diaddr
  · intro result hresult
    rcases List.mem_append.mp hresult with hold | hnew
    · exact h.rx result hold
    · exact hlink s.dev packet result hnew

theorem receive_sound (hblocked : allowed .blocked) (h : SoundSession s) :
    Meets allowed (osdHostmodEventReceive s)
      (fun received => WellFormed received.1 ∧ SoundSession received.2) := by
  unfold osdHostmodEventReceive
  split
  · exact hblocked
  · rename_i first rest hrx
    have hall := h.rx
    rw [hrx] at hall
    exact ⟨hall _ List.mem_cons_self, h.diaddr,
      fun result hresult => hall result (List.mem_cons_of_mem _ hresult)⟩

theorem sendPkgs_sound (hlink : SoundLink link) (haddr : desc.diAddr < 2 ^ 16)
    {transfer : List Byte} (hsmall : transfer.length < 2 ^ 31)
    (count i : Nat) (h : SoundSession s)
    (hneeded : count ≠ 0 → 10 * (i + count - 1) < transfer.length) :
    Meets allowed (sendPkgs link desc transfer count i s)
      (Sound link false) := by
  induction count generalizing i s with
  | zero => exact ⟨h, fun _ _ => rfl⟩
  | succ count ih =>
      have hi := hneeded (Nat.succ_ne_zero count)
      unfold sendPkgs
      apply (pkgInTransfer_meets desc s.diaddr (.inl ⟨haddr, h.diaddr⟩)
        (by omega) (by omega : 10 * i < transfer.length)).bind
      intro packet hpacket
      rw [hpacket.send, ok_bind]
      dsimp only
      split
      · exact ⟨h.deliver hlink packet, fun hok _ => hok s.dev packet⟩
      · exact ih (i + 1) (h.deliver hlink packet) (by omega)

theorem sendMamTransfer_sound (hlink : SoundLink link)
    (haddr : desc.diAddr < 2 ^ 16) {transfer : List Byte}
    (hpos : 0 < transfer.length) (hsmall : transfer.length < 2 ^ 31)
    (h : SoundSession s) :
    Meets allowed (sendMamTransfer link desc s transfer)
      (Sound link false) := by
  unfold sendMamTransfer
  rw [numPkgsForTransfer_eq hpos (by omega), ok_bind]
  exact sendPkgs_sound hlink haddr hsmall _ 0 h (by omega)

/-- What the assertions on a transfer ask for. -/
structure TransferArgs (desc : MemDesc) (data : List Byte) (startAddr : Nat)
    (we burst : Bool) (selsize : Nat) : Prop where
  hasData : we = true ∧ data.length ≠ 0 ∨ we = false ∧ data.length = 0
  words : data.length % desc.dwB = 0
  aligned : startAddr % desc.awB = 0
  selected : burst = true → selsize ≠ 0
  selectsAll : burst = true → we = true → selsize = data.length / desc.dwB

theorem createMamTransfer_ok {data : List Byte} {startAddr selsize : Nat}
    {we burst : Bool} (sync : Bool)
    (h : TransferArgs desc data startAddr we burst selsize) :
    ∃ transfer,
      createMamTransfer desc data startAddr we burst sync selsize =
        .ok transfer ∧ transfer.length = 2 + desc.awB + data.length := by
  unfold createMamTransfer
  dsimp only
  rw [assertThat_bind h.hasData, assertThat_bind h.words,
    assertThat_bind h.aligned, assertThat_bind h.selected,
    assertThat_bind h.selectsAll]
  refine ⟨_, rfl, ?_⟩
  simp only [List.cons_append, List.length_cons, List.length_append,
    length_addressBytes]
  omega

theorem mamWrite_sound (hlink : SoundLink link) (hdesc : desc.Supported)
    (haddr : desc.diAddr < 2 ^ 16) {data : List Byte} {startAddr : Nat}
    {burst : Bool} (sync : Bool) {selsize : Byte}
    (hargs : TransferArgs desc data startAddr true burst selsize.toNat)
    (hlength : data.length ≤ 255 * desc.dwB) (h : SoundSession s)
    (hblocked : sync = true → allowed .blocked) :
    Meets allowed (mamWrite link desc s data startAddr burst sync selsize)
      (Sound link sync) := by
  have hdw := hdesc.dwB_cases
  have haw := hdesc.awB_cases
  obtain ⟨transfer, htransfer, hsize⟩ := createMamTransfer_ok sync hargs
  unfold mamWrite
  rw [htransfer, ok_bind]
  apply (sendMamTransfer_sound hlink haddr (by omega) (by omega) h).bind
  rintro ⟨rv, sent⟩ hsent
  dsimp only
  split
  · exact ⟨hsent.session, fun hok _ => hsent.ok hok rfl⟩
  · split
    · rename_i hsync
      apply (receive_sound (hblocked hsync) hsent.session).bind
      rintro ⟨result, s'⟩ ⟨-, hnext⟩
      cases result with
      | packet packet =>
          exact ⟨hnext, fun _ hnot => absurd hsync (by simp [hnot])⟩
      | failed rv hrv =>
          exact ⟨hnext, fun _ hnot => absurd hsync (by simp [hnot])⟩
    · exact ⟨hsent.session, fun _ _ => rfl⟩

theorem alignDataToWord_ok {dwB baddr : Nat} {data : List Byte}
    (hdw : dwB ≤ 8) (hpos : 0 < data.length)
    (hinside : baddr + data.length ≤ dwB) :
    ∃ result, alignDataToWord baddr data dwB = .ok result ∧
      result.1.length = dwB := by
  have hselected : byteSelect dwB baddr data.length ≠ 0 := by
    intro hnone
    have hbit : (byteSelect dwB baddr data.length).toNat.testBit baddr =
        true := (testBit_byteSelect hdw baddr).mpr (by omega)
    rw [hnone] at hbit
    simp at hbit
  unfold alignDataToWord
  dsimp only
  rw [assertThat_bind hinside, assertThat_bind hselected,
    storeBytes_eq (by simpa using hinside), ok_bind]
  refine ⟨_, rfl, ?_⟩
  rw [length_splice (by simpa using hinside), List.length_replicate]

theorem singleArgs (hdesc : desc.Supported) {word : List Byte}
    {startAddr selsize : Nat} (hword : word.length = desc.dwB)
    (haligned : startAddr % desc.awB = 0) :
    TransferArgs desc word startAddr true false selsize := by
  have hdw := hdesc.dwB_cases
  constructor
  · exact .inl ⟨rfl, by omega⟩
  · rw [hword, Nat.mod_self]
  · exact haligned
  · exact fun hburst => by cases hburst
  · exact fun hburst => by cases hburst

theorem writeSingle_sound (hlink : SoundLink link) (hdesc : desc.Supported)
    (haddr : desc.diAddr < 2 ^ 16) {data : List Byte} {startAddr : Nat}
    (sync : Bool) (hpos : 0 < data.length)
    (hinside : startAddr % desc.dwB + data.length ≤ desc.dwB)
    (haligned : (startAddr - startAddr % desc.dwB) % desc.awB = 0)
    (h : SoundSession s) (hblocked : sync = true → allowed .blocked) :
    Meets allowed (writeSingle link desc s data startAddr sync)
      (Sound link sync) := by
  have hdw := hdesc.dwB_cases
  obtain ⟨⟨word, bs⟩, hword, hlength⟩ :=
    alignDataToWord_ok (by omega) hpos hinside
  unfold writeSingle
  rw [hdesc.baddr_eq]
  dsimp only
  rw [hword, ok_bind]
  exact mamWrite_sound hlink hdesc haddr sync
    (singleArgs hdesc hlength haligned) (by rw [hlength]; omega) h hblocked

/-- The arguments of a call of a burst, with the size of its data. -/
structure ChunkArgs (desc : MemDesc) (nbyte : Nat) (c : BurstCall) :
    Prop where
  inside : c.offset + c.size ≤ nbyte
  pos : 0 < c.size
  small : c.size ≤ 255 * desc.dwB
  words : c.size % desc.dwB = 0
  selsize : (UInt8.ofNat (c.size / desc.dwB)).toNat = c.size / desc.dwB

theorem ChunkArgs.selsize_ne {nbyte : Nat} {c : BurstCall}
    (h : ChunkArgs desc nbyte c) :
    (UInt8.ofNat (c.size / desc.dwB)).toNat ≠ 0 := by
  intro hzero
  have hpos := h.pos
  have hwords := Nat.div_add_mod c.size desc.dwB
  rw [h.selsize] at hzero
  rw [hzero, h.words] at hwords
  omega

theorem exactCall_args (hdesc : desc.Supported) {nbyte startAddr t : Nat}
    (hwords : nbyte % desc.dwB = 0) (ht : t * (255 * desc.dwB) < nbyte) :
    ChunkArgs desc nbyte (exactCall desc.dwB nbyte startAddr t) := by
  have hdw := hdesc.dwB_cases
  have hselsize := burstWords_mul hdw hwords t
  unfold exactCall
  constructor <;> dsimp only
  · omega
  · omega
  · omega
  · rw [← hselsize, Nat.mul_mod_left]
  · rw [Nat.eq_div_of_mul_eq_left (by omega) hselsize]

theorem burstCalls_small (hdesc : desc.Supported) {nbyte startAddr : Nat}
    (hpos : 0 < nbyte) (hsmall : nbyte < 2 ^ 32)
    (hrange : startAddr + nbyte ≤ 2 ^ 64) :
    burstCalls desc nbyte startAddr =
      exactCalls desc.dwB nbyte startAddr := by
  have hdw := hdesc.dwB_cases
  apply exact_of_lastOffset (by omega) (by omega) hpos (by omega) hrange
  have hle := Nat.div_mul_le_self (nbyte - 1) (255 * desc.dwB)
  omega

theorem mem_exactCalls {dwB nbyte startAddr : Nat} (hpos : 0 < nbyte)
    {c : BurstCall} (h : c ∈ exactCalls dwB nbyte startAddr) :
    ∃ t, t * (255 * dwB) < nbyte ∧ c = exactCall dwB nbyte startAddr t := by
  unfold exactCalls at h
  obtain ⟨t, ht, rfl⟩ := List.mem_map.mp h
  refine ⟨t, ?_, rfl⟩
  have hle := Nat.div_mul_le_self (nbyte - 1) (255 * dwB)
  have hblock : t * (255 * dwB) ≤ (nbyte - 1) / (255 * dwB) * (255 * dwB) := by
    apply Nat.mul_le_mul_right
    have hlast := List.mem_range.mp ht
    omega
  omega

theorem writeCall_sound (hlink : SoundLink link) (hdesc : desc.Supported)
    (haddr : desc.diAddr < 2 ^ 16) {data : List Byte} (sync last : Bool)
    {c : BurstCall} (hargs : ChunkArgs desc data.length c)
    (haligned : c.addr % desc.awB = 0) (h : SoundSession s)
    (hblocked : (sync && last) = true → allowed .blocked) :
    Meets allowed (writeCall link desc data sync c last s)
      (Sound link (sync && last)) := by
  have hdw := hdesc.dwB_cases
  have hpos := hargs.pos
  have hinside := hargs.inside
  have hpart := length_part hinside
  unfold writeCall
  rw [loadBytes_eq hinside, ok_bind]
  apply mamWrite_sound hlink hdesc haddr
  · constructor
    · exact .inl ⟨rfl, by omega⟩
    · rw [hpart]
      exact hargs.words
    · exact haligned
    · exact fun _ => hargs.selsize_ne
    · intro _ _
      rw [hpart]
      exact hargs.selsize
  · rw [hpart]
    exact hargs.small
  · exact h
  · exact hblocked

/-- All blocks of a burst have aligned addresses. -/
def BlocksAligned (desc : MemDesc) (nbyte startAddr : Nat) : Prop :=
  ∀ t, t * (255 * desc.dwB) < nbyte →
    (startAddr + t * (255 * desc.dwB)) % desc.awB = 0

theorem writeBurst_sound (hlink : SoundLink link) (hdesc : desc.Supported)
    (haddr : desc.diAddr < 2 ^ 16) {data : List Byte} {startAddr : Nat}
    (sync : Bool) (hpos : 0 < data.length)
    (hwords : data.length % desc.dwB = 0) (hsmall : data.length < 2 ^ 32)
    (hrange : startAddr + data.length ≤ 2 ^ 64)
    (haligned : BlocksAligned desc data.length startAddr)
    (h : SoundSession s) (hblocked : sync = true → allowed .blocked) :
    Meets allowed (writeBurst link desc s data startAddr sync)
      (Sound link sync) := by
  have hfirst := haligned 0 (by omega)
  rw [Nat.zero_mul, Nat.add_zero] at hfirst
  rw [writeBurst_calls, assertThat_bind hwords, assertThat_bind hfirst,
    burstCalls_small hdesc hpos hsmall hrange]
  have hrun : Meets allowed
      (runCalls (writeCall link desc data sync)
        (exactCalls desc.dwB data.length startAddr) s)
      (fun result => SoundSession result.2 ∧
        (AlwaysOk link ∧ sync = false → result.1 = osdOk)) := by
    apply runCalls_meets _ h
    intro c hc last s hs
    obtain ⟨t, ht, rfl⟩ := mem_exactCalls hpos hc
    apply (writeCall_sound hlink hdesc haddr sync last
      (exactCall_args hdesc hwords ht) (haligned t ht) hs _).weaken
    · exact fun result hresult => ⟨hresult.session, fun hok =>
        hresult.ok hok.1 (by rw [hok.2]; rfl)⟩
    · intro hboth
      rw [Bool.and_eq_true] at hboth
      exact hblocked hboth.1
  apply hrun.weaken
  exact fun result hresult =>
    ⟨hresult.1, fun hok hsync => hresult.2 ⟨hok, hsync⟩⟩

theorem unlessEmpty_sound {size : Nat} {before : OsdResult × Session δ}
    {call : Session δ → Outcome (OsdResult × Session δ)}
    (h : SoundSession before.2)
    (hcall : size ≠ 0 → ∀ s, SoundSession s →
      Meets allowed (call s) (fun result => SoundSession result.2)) :
    Meets allowed (unlessEmpty size before call)
      (fun result => SoundSession result.2) := by
  unfold unlessEmpty
  split
  · exact h
  · rename_i hnot
    exact hcall (not_or.mp hnot).2 before.2 h

/-- What the parts of every range have in common. -/
structure PartsCover (desc : MemDesc) (nbyte startAddr : Nat)
    (parts : Nat × Nat × Nat) : Prop where
  sum : parts.1 + parts.2.1 + parts.2.2 = nbyte
  bulk_words : parts.2.1 % desc.dwB = 0
  epilog_word : parts.2.2 ≠ 0 →
    (startAddr + parts.1 + parts.2.1) % desc.dwB = 0 ∧
      parts.2.2 ≤ desc.dwB

theorem partsCover (hdesc : desc.Supported) {nbyte startAddr : Nat}
    (hrange : startAddr + nbyte ≤ 2 ^ 64) (hsmall : nbyte < 2 ^ 32) :
    PartsCover desc nbyte startAddr
      (calculateParts startAddr nbyte desc.dwB) := by
  by_cases hshort : nbyte < desc.dwB
  · rw [calculateParts_short hshort]
    exact ⟨by simp, Nat.zero_mod _, fun hpart => absurd rfl hpart⟩
  · have hparts := calculateParts_parts hdesc hrange (by omega) hsmall
    exact ⟨hparts.sum, hparts.bulk_words,
      fun _ => ⟨(hparts.words 0).2.2, hparts.epilog_lt.le⟩⟩

theorem osdClMamWrite_sound (hlink : SoundLink link) (hdesc : desc.Supported)
    (haddr : desc.diAddr < 2 ^ 16) {data : List Byte} {startAddr : Nat}
    (hpos : 1 ≤ data.length) (hsmall : data.length < 2 ^ 32)
    (hrange : startAddr + data.length ≤ 2 ^ 64)
    (haligned : PartsAligned desc data.length startAddr
      (calculateParts startAddr data.length desc.dwB))
    (h : SoundSession s) (hblocked : allowed .blocked) :
    Meets allowed (osdClMamWrite link desc s data startAddr)
      (fun result => SoundSession result.2) := by
  have hdw := hdesc.dwB_cases
  have hcovers := partsCover hdesc hrange hsmall
  unfold osdClMamWrite
  rw [assertThat_bind (by omega)]
  generalize calculateParts startAddr data.length desc.dwB = parts at *
  obtain ⟨prolog, bulk, epilog⟩ := parts
  have hsum := hcovers.sum
  dsimp only at hsum ⊢
  apply (unlessEmpty_sound h _).bind
  · intro afterProlog hprolog
    apply (unlessEmpty_sound hprolog _).bind
    · intro afterBulk hbulk
      apply unlessEmpty_sound hbulk
      intro hpart s hs
      have hlength : ((data.drop (prolog + bulk)).take epilog).length =
          epilog := length_part (by omega)
      have hword := hcovers.epilog_word hpart
      rw [loadBytes_eq (by omega), ok_bind, Nat.mod_eq_of_lt (by omega)]
      apply (writeSingle_sound hlink hdesc haddr _ _ _ _ hs
        fun _ => hblocked).weaken
      · exact fun result hresult => hresult.session
      · omega
      · rw [hlength, hword.1, Nat.zero_add]
        exact hword.2
      · rw [hword.1, Nat.sub_zero]
        exact haligned.epilog hpart
    · intro hpart s hs
      have hlength : ((data.drop prolog).take bulk).length = bulk :=
        length_part (by omega)
      rw [loadBytes_eq (by omega), ok_bind, Nat.mod_eq_of_lt (by omega)]
      apply (writeBurst_sound hlink hdesc haddr _ _ _ _ _ _ hs
        fun _ => hblocked).weaken
      · exact fun result hresult => hresult.session
      · omega
      · rw [hlength]
        exact hcovers.bulk_words
      · omega
      · omega
      · rw [hlength]
        exact haligned.bulk
  · intro hpart s hs
    have hlength : ((data.drop 0).take prolog).length = prolog :=
      length_part (by omega)
    rw [loadBytes_eq (by omega), ok_bind]
    apply (writeSingle_sound hlink hdesc haddr _ _ _ _ hs
      fun _ => hblocked).weaken
    · exact fun result hresult => hresult.session
    · omega
    · rw [hlength]
      exact (haligned.prolog hpart).1
    · exact (haligned.prolog hpart).2

/-! ## Reading -/

theorem receiveData_sound (hblocked : allowed .blocked)
    (houtside : allowed .outOfBounds) {nbyte offset : Nat} (fuel : Nat)
    (buf : List Byte) (rxNbyte : Nat) (h : SoundSession s) :
    Meets allowed (receiveData nbyte offset fuel s buf rxNbyte)
      (fun result => SoundSession result.2.2) := by
  induction fuel generalizing s buf rxNbyte with
  | zero => exact hblocked
  | succ fuel ih =>
      unfold receiveData
      apply (receive_sound hblocked h).bind
      rintro ⟨result, next⟩ ⟨hresult, hnext⟩
      cases result with
      | failed rv hrv => exact hnext
      | packet packet =>
          obtain ⟨p, rfl⟩ := hresult
          dsimp only
          rw [DiPacket.sizeconvData2payload_toPacket, ok_bind,
            payloadBytes_toPacket, ok_bind]
          unfold storeBytes
          by_cases hstore : offset + rxNbyte +
              (streamOfWords p.payload).length ≤ buf.length
          · rw [inBounds_bind hstore, ok_bind]
            split
            · exact ih _ _ hnext
            · exact hnext
          · rw [inBounds_bind_not hstore]
            exact houtside

theorem mamRead_sound (hlink : SoundLink link) (hdesc : desc.Supported)
    (haddr : desc.diAddr < 2 ^ 16) (hblocked : allowed .blocked)
    (houtside : allowed .outOfBounds) {buf : List Byte}
    {offset nbyte startAddr : Nat} {burst : Bool} {selsize : Byte}
    (hargs : TransferArgs desc [] startAddr false burst selsize.toNat)
    (h : SoundSession s) :
    Meets allowed
      (mamRead link desc s buf offset nbyte startAddr burst selsize)
      (fun result => SoundSession result.2.2) := by
  have haw := hdesc.awB_cases
  obtain ⟨transfer, htransfer, hsize⟩ := createMamTransfer_ok false hargs
  rw [List.length_nil] at hsize
  unfold mamRead
  rw [htransfer, ok_bind]
  apply (sendMamTransfer_sound hlink haddr (by omega) (by omega) h).bind
  rintro ⟨rv, sent⟩ hsent
  dsimp only
  split
  · exact hsent.session
  · exact receiveData_sound hblocked houtside _ _ _ hsent.session

theorem readArgs {startAddr selsize : Nat} {burst : Bool}
    (haligned : startAddr % desc.awB = 0)
    (hselected : burst = true → selsize ≠ 0) :
    TransferArgs desc [] startAddr false burst selsize where
  hasData := .inr ⟨rfl, rfl⟩
  words := Nat.zero_mod _
  aligned := haligned
  selected := hselected
  selectsAll := fun _ hwe => by cases hwe

theorem loadBytes_sound (houtside : allowed .outOfBounds) (buf : List Byte)
    (offset count : Nat) :
    Meets allowed (loadBytes buf offset count)
      (fun bytes => bytes.length = count) := by
  by_cases hinside : offset + count ≤ buf.length
  · rw [loadBytes_eq hinside, meets_ok]
    exact length_part hinside
  · rw [loadBytes, inBounds_bind_not hinside]
    exact houtside

theorem readSingle_sound (hlink : SoundLink link) (hdesc : desc.Supported)
    (haddr : desc.diAddr < 2 ^ 16) (hblocked : allowed .blocked)
    (houtside : allowed .outOfBounds) {buf : List Byte}
    {offset nbyte startAddr : Nat} (hpos : 0 < nbyte)
    (hinside : startAddr % desc.dwB + nbyte ≤ desc.dwB)
    (haligned : (startAddr - startAddr % desc.dwB) % desc.awB = 0)
    (h : SoundSession s) :
    Meets allowed (readSingle link desc s buf offset nbyte startAddr)
      (fun result => SoundSession result.2.2) := by
  have hdw := hdesc.dwB_cases
  unfold readSingle
  rw [hdesc.baddr_eq]
  dsimp only
  apply (loadBytes_sound houtside buf offset nbyte).bind
  intro data hdata
  rw [← hdata] at hpos hinside
  obtain ⟨⟨word, bs⟩, hword, -⟩ := alignDataToWord_ok (by omega) hpos hinside
  rw [hword, ok_bind]
  apply (mamRead_sound hlink hdesc haddr hblocked houtside
    (readArgs haligned fun hburst => by cases hburst) h).bind
  rintro ⟨rv, word', next⟩ hnext
  apply (loadBytes_sound houtside word' _ nbyte).bind
  intro bytes _
  unfold storeBytes
  by_cases hstore : offset + bytes.length ≤ buf.length
  · rw [inBounds_bind hstore]
    exact hnext
  · rw [inBounds_bind_not hstore]
    exact houtside

theorem readBurst_sound (hlink : SoundLink link) (hdesc : desc.Supported)
    (haddr : desc.diAddr < 2 ^ 16) (hblocked : allowed .blocked)
    (houtside : allowed .outOfBounds) {buf : List Byte}
    {offset nbyte startAddr : Nat} (hpos : 0 < nbyte)
    (hwords : nbyte % desc.dwB = 0) (hsmall : nbyte < 2 ^ 32)
    (hrange : startAddr + nbyte ≤ 2 ^ 64)
    (haligned : BlocksAligned desc nbyte startAddr) (h : SoundSession s) :
    Meets allowed (readBurst link desc s buf offset nbyte startAddr)
      (fun result => SoundSession result.2.2) := by
  have hfirst := haligned 0 (by omega)
  rw [Nat.zero_mul, Nat.add_zero] at hfirst
  rw [readBurst_calls, assertThat_bind hwords, assertThat_bind hfirst,
    burstCalls_small hdesc hpos hsmall hrange]
  have hrun : Meets allowed
      (runCalls (readCall link desc offset)
        (exactCalls desc.dwB nbyte startAddr) (buf, s))
      (fun result => SoundSession result.2.2 ∧
        (False → result.1 = osdOk)) := by
    apply runCalls_meets
      (P := fun state : List Byte × Session δ => SoundSession state.2) _ h
    intro c hc last s hs
    obtain ⟨t, ht, rfl⟩ := mem_exactCalls hpos hc
    have hargs : ChunkArgs desc nbyte
        (exactCall desc.dwB nbyte startAddr t) :=
      exactCall_args hdesc hwords ht
    apply (mamRead_sound hlink hdesc haddr hblocked houtside
      (readArgs (haligned t ht) _) hs).weaken
    · exact fun result hresult => ⟨hresult, False.elim⟩
    · exact fun _ => hargs.selsize_ne
  apply hrun.weaken
  exact fun result hresult => hresult.1

theorem unlessEmptyRead_sound {size : Nat}
    {before : OsdResult × List Byte × Session δ}
    {call : List Byte → Session δ →
      Outcome (OsdResult × List Byte × Session δ)}
    (h : SoundSession before.2.2)
    (hcall : size ≠ 0 → ∀ buf s, SoundSession s →
      Meets allowed (call buf s) (fun result => SoundSession result.2.2)) :
    Meets allowed (unlessEmptyRead size before call)
      (fun result => SoundSession result.2.2) := by
  unfold unlessEmptyRead
  split
  · exact h
  · rename_i hnot
    exact hcall (not_or.mp hnot).2 before.2.1 before.2.2 h

theorem osdClMamRead_sound (hlink : SoundLink link) (hdesc : desc.Supported)
    (haddr : desc.diAddr < 2 ^ 16) (hblocked : allowed .blocked)
    (houtside : allowed .outOfBounds) {buf : List Byte} {startAddr : Nat}
    (hsmall : buf.length < 2 ^ 32)
    (hrange : startAddr + buf.length ≤ 2 ^ 64)
    (haligned : PartsAligned desc buf.length startAddr
      (calculateParts startAddr buf.length desc.dwB))
    (h : SoundSession s) :
    Meets allowed (osdClMamRead link desc s buf startAddr)
      (fun result => SoundSession result.2.2) := by
  have hcovers := partsCover hdesc hrange hsmall
  unfold osdClMamRead
  generalize calculateParts startAddr buf.length desc.dwB = parts at *
  obtain ⟨prolog, bulk, epilog⟩ := parts
  have hsum := hcovers.sum
  dsimp only at hsum ⊢
  apply (unlessEmptyRead_sound h _).bind
  · intro afterProlog hprolog
    apply (unlessEmptyRead_sound hprolog _).bind
    · intro afterBulk hbulk
      apply unlessEmptyRead_sound hbulk
      intro hpart buf' s hs
      have hword := hcovers.epilog_word hpart
      rw [Nat.mod_eq_of_lt (by omega)]
      apply readSingle_sound hlink hdesc haddr hblocked houtside (by omega)
      · rw [hword.1, Nat.zero_add]
        exact hword.2
      · rw [hword.1, Nat.sub_zero]
        exact haligned.epilog hpart
      · exact hs
    · intro hpart buf' s hs
      rw [Nat.mod_eq_of_lt (by omega)]
      exact readBurst_sound hlink hdesc haddr hblocked houtside (by omega)
        hcovers.bulk_words (by omega) (by omega) haligned.bulk hs
  · intro hpart buf' s hs
    exact readSingle_sound hlink hdesc haddr hblocked houtside (by omega)
      (haligned.prolog hpart).1 (haligned.prolog hpart).2 hs

end

/-! ## Assertions that fail -/

theorem createMamTransfer_unaligned {desc : MemDesc} {data : List Byte}
    {startAddr selsize : Nat} {we burst sync : Bool}
    (h : startAddr % desc.awB ≠ 0) :
    createMamTransfer desc data startAddr we burst sync selsize =
      .error .assertion := by
  unfold createMamTransfer
  dsimp only
  by_cases hdata : we = true ∧ data.length ≠ 0 ∨ we = false ∧ data.length = 0
  · rw [assertThat_bind hdata]
    by_cases hwords : data.length % desc.dwB = 0
    · rw [assertThat_bind hwords, assertThat_bind_not h]
    · rw [assertThat_bind_not hwords]
  · rw [assertThat_bind_not hdata]

theorem mamWrite_unaligned {link : Link δ} {desc : MemDesc} {s : Session δ}
    {data : List Byte} {startAddr : Nat} {burst sync : Bool} {selsize : Byte}
    (h : startAddr % desc.awB ≠ 0) :
    mamWrite link desc s data startAddr burst sync selsize =
      .error .assertion := by
  unfold mamWrite
  rw [createMamTransfer_unaligned h]
  rfl

theorem writeSingle_asserts {link : Link δ} {desc : MemDesc} {s : Session δ}
    (hdesc : desc.Supported) {data : List Byte} {startAddr : Nat}
    (sync : Bool) (hpos : 0 < data.length)
    (h : ¬(startAddr % desc.dwB + data.length ≤ desc.dwB ∧
      (startAddr - startAddr % desc.dwB) % desc.awB = 0)) :
    writeSingle link desc s data startAddr sync = .error .assertion := by
  have hdw := hdesc.dwB_cases
  unfold writeSingle
  rw [hdesc.baddr_eq]
  dsimp only
  by_cases hinside : startAddr % desc.dwB + data.length ≤ desc.dwB
  · obtain ⟨⟨word, bs⟩, hword, -⟩ :=
      alignDataToWord_ok (by omega) hpos hinside
    rw [hword, ok_bind]
    exact mamWrite_unaligned fun haligned => h ⟨hinside, haligned⟩
  · unfold alignDataToWord
    dsimp only
    rw [assertThat_bind_not hinside]
    rfl

theorem quietLink_sound : SoundLink quietLink := by
  intro dev packet result hresult
  cases hresult

theorem quietLink_ok : AlwaysOk quietLink := fun _ _ => rfl

theorem exactCall_mem {dwB nbyte startAddr t : Nat} (hdw : 0 < dwB)
    (ht : t * (255 * dwB) < nbyte) :
    exactCall dwB nbyte startAddr t ∈ exactCalls dwB nbyte startAddr := by
  unfold exactCalls
  apply List.mem_map_of_mem
  rw [List.mem_range, Nat.add_comm, Nat.lt_add_one_iff,
    Nat.le_div_iff_mul_le (by omega)]
  omega

section

variable {desc : MemDesc} {s : Session Unit} {data : List Byte}
  {startAddr : Nat}

theorem writeBurst_asserts (hdesc : desc.Supported)
    (haddr : desc.diAddr < 2 ^ 16) (sync : Bool) (hpos : 0 < data.length)
    (hwords : data.length % desc.dwB = 0) (hsmall : data.length < 2 ^ 32)
    (hrange : startAddr + data.length ≤ 2 ^ 64) (h : SoundSession s)
    (hbad : ¬BlocksAligned desc data.length startAddr) :
    writeBurst quietLink desc s data startAddr sync = .error .assertion := by
  have hdw := hdesc.dwB_cases
  unfold BlocksAligned at hbad
  simp only [not_forall] at hbad
  obtain ⟨t, ht, hbad⟩ := hbad
  have hunaligned (c : BurstCall) (last : Bool) (s : Session Unit)
      (hargs : ChunkArgs desc data.length c) (hc : c.addr % desc.awB ≠ 0) :
      writeCall quietLink desc data sync c last s = .error .assertion := by
    unfold writeCall
    rw [loadBytes_eq hargs.inside, ok_bind]
    exact mamWrite_unaligned hc
  rw [writeBurst_calls, assertThat_bind hwords,
    burstCalls_small hdesc hpos hsmall hrange]
  by_cases hfirst : startAddr % desc.awB = 0
  · rw [assertThat_bind hfirst]
    apply runCalls_error (exactCall_mem (by omega) ht) _ _ h
    · intro last s _
      exact hunaligned _ last s (exactCall_args hdesc hwords ht) hbad
    · intro c hc s hs
      obtain ⟨t', ht', rfl⟩ := mem_exactCalls hpos hc
      have hargs : ChunkArgs desc data.length
          (exactCall desc.dwB data.length startAddr t') :=
        exactCall_args hdesc hwords ht'
      by_cases haligned :
          (exactCall desc.dwB data.length startAddr t').addr % desc.awB = 0
      · have hsound : Meets (fun _ => False)
            (writeCall quietLink desc data sync _ false s)
            (Sound quietLink (sync && false)) :=
          writeCall_sound quietLink_sound hdesc haddr sync false hargs
            haligned hs (by simp)
        obtain ⟨⟨rv, s'⟩, hdone, hs'⟩ := hsound.exists_ok
        have hrv : rv = osdOk := hs'.ok quietLink_ok (by simp)
        subst hrv
        exact .inr ⟨s', hdone, hs'.session⟩
      · exact .inl fun last => hunaligned _ last s hargs haligned
  · rw [assertThat_bind_not hfirst]

theorem unlessEmpty_quiet {size : Nat}
    {call : Session Unit → Outcome (OsdResult × Session Unit)}
    (h : SoundSession s)
    (hcall : size ≠ 0 →
      Meets (fun _ => False) (call s) (Sound quietLink false)) :
    ∃ s', unlessEmpty size (osdOk, s) call = .ok (osdOk, s') ∧
      SoundSession s' := by
  unfold unlessEmpty
  by_cases hsize : size = 0
  · rw [if_pos (.inr hsize)]
    exact ⟨s, rfl, h⟩
  · rw [if_neg (by simp [hsize, osdFailed, osdOk])]
    obtain ⟨⟨rv, s'⟩, hdone, hs'⟩ := (hcall hsize).exists_ok
    have hrv : rv = osdOk := hs'.ok quietLink_ok rfl
    subst hrv
    exact ⟨s', hdone, hs'.session⟩

theorem unlessEmpty_error (fault : Fault) {size : Nat}
    {call : Session Unit → Outcome (OsdResult × Session Unit)}
    (hsize : size ≠ 0) (hcall : call s = .error fault) :
    unlessEmpty size (osdOk, s) call = .error fault := by
  unfold unlessEmpty
  rw [if_neg (by simp [hsize, osdFailed, osdOk])]
  exact hcall

section Parts

variable {offset size : Nat} {sync : Bool}

theorem writeSinglePart_asserts (hdesc : desc.Supported)
    (hinside : offset + size ≤ data.length) (hsize : size ≠ 0)
    (hbad : ¬(startAddr % desc.dwB + size ≤ desc.dwB ∧
      (startAddr - startAddr % desc.dwB) % desc.awB = 0)) :
    (unlessEmpty size (osdOk, s) fun s => do
        let part ← loadBytes data offset size
        writeSingle quietLink desc s part startAddr sync) =
      .error .assertion := by
  have hpart := length_part hinside
  apply unlessEmpty_error .assertion hsize
  rw [loadBytes_eq hinside, ok_bind]
  apply writeSingle_asserts hdesc
  · omega
  · rwa [hpart]

theorem writeSinglePart_passes (hdesc : desc.Supported)
    (haddr : desc.diAddr < 2 ^ 16) (h : SoundSession s)
    (hinside : offset + size ≤ data.length) (hsync : sync = false)
    (haligned : size ≠ 0 → startAddr % desc.dwB + size ≤ desc.dwB ∧
      (startAddr - startAddr % desc.dwB) % desc.awB = 0) :
    ∃ s', (unlessEmpty size (osdOk, s) fun s => do
        let part ← loadBytes data offset size
        writeSingle quietLink desc s part startAddr sync) =
      .ok (osdOk, s') ∧ SoundSession s' := by
  have hpart := length_part hinside
  apply unlessEmpty_quiet h
  intro hsize
  rw [loadBytes_eq hinside, ok_bind, hsync]
  apply writeSingle_sound quietLink_sound hdesc haddr
  · omega
  · rw [hpart]
    exact (haligned hsize).1
  · exact (haligned hsize).2
  · exact h
  · exact fun hnot => by cases hnot

theorem writeBurstPart_asserts (hdesc : desc.Supported)
    (haddr : desc.diAddr < 2 ^ 16) (h : SoundSession s)
    (hsmall : data.length < 2 ^ 32)
    (hrange : startAddr + offset + size ≤ 2 ^ 64)
    (hinside : offset + size ≤ data.length) (hsize : size ≠ 0)
    (hwords : size % desc.dwB = 0)
    (hbad : ¬BlocksAligned desc size (startAddr + offset)) :
    (unlessEmpty size (osdOk, s) fun s => do
        let part ← loadBytes data offset size
        writeBurst quietLink desc s part ((startAddr + offset) % 2 ^ 64)
          sync) =
      .error .assertion := by
  have hpart := length_part hinside
  apply unlessEmpty_error .assertion hsize
  rw [loadBytes_eq hinside, ok_bind, Nat.mod_eq_of_lt (by omega)]
  apply writeBurst_asserts hdesc haddr
  · omega
  · rwa [hpart]
  · omega
  · omega
  · exact h
  · rwa [hpart]

theorem writeBurstPart_passes (hdesc : desc.Supported)
    (haddr : desc.diAddr < 2 ^ 16) (h : SoundSession s)
    (hsmall : data.length < 2 ^ 32)
    (hrange : startAddr + offset + size ≤ 2 ^ 64)
    (hinside : offset + size ≤ data.length) (hsync : sync = false)
    (hwords : size % desc.dwB = 0)
    (haligned : BlocksAligned desc size (startAddr + offset)) :
    ∃ s', (unlessEmpty size (osdOk, s) fun s => do
        let part ← loadBytes data offset size
        writeBurst quietLink desc s part ((startAddr + offset) % 2 ^ 64)
          sync) =
      .ok (osdOk, s') ∧ SoundSession s' := by
  have hpart := length_part hinside
  apply unlessEmpty_quiet h
  intro hsize
  rw [loadBytes_eq hinside, ok_bind, Nat.mod_eq_of_lt (by omega), hsync]
  apply writeBurst_sound quietLink_sound hdesc haddr
  · omega
  · rwa [hpart]
  · omega
  · omega
  · rwa [hpart]
  · exact h
  · exact fun hnot => by cases hnot

end Parts

/-- Each part is reached if those before it are aligned. -/
theorem partsAligned_of_write (hdesc : desc.Supported)
    (haddr : desc.diAddr < 2 ^ 16) (hsmall : data.length < 2 ^ 32)
    (hrange : startAddr + data.length ≤ 2 ^ 64) (h : SoundSession s)
    (hwrite : osdClMamWrite quietLink desc s data startAddr ≠
      .error .assertion) :
    PartsAligned desc data.length startAddr
      (calculateParts startAddr data.length desc.dwB) := by
  have hdw := hdesc.dwB_cases
  have hcovers := partsCover hdesc hrange hsmall
  unfold osdClMamWrite at hwrite
  rw [assertThat_bind (by omega)] at hwrite
  generalize calculateParts startAddr data.length desc.dwB = parts at *
  obtain ⟨prolog, bulk, epilog⟩ := parts
  have hsum := hcovers.sum
  have hwords := hcovers.bulk_words
  dsimp only at hsum hwords hwrite
  have hprolog : prolog ≠ 0 → startAddr % desc.dwB + prolog ≤ desc.dwB ∧
      (startAddr - startAddr % desc.dwB) % desc.awB = 0 := by
    intro hpart
    by_contra hbad
    apply hwrite
    rw [writeSinglePart_asserts hdesc (by omega) hpart hbad]
    rfl
  have hpassed (hmore : bulk ≠ 0 ∨ epilog ≠ 0) : ∃ s',
      (unlessEmpty prolog (osdOk, s) fun s => do
        let part ← loadBytes data 0 prolog
        writeSingle quietLink desc s part startAddr
          (bulk = 0 ∧ epilog = 0)) = .ok (osdOk, s') ∧ SoundSession s' :=
    writeSinglePart_passes hdesc haddr h (by omega)
      (decide_eq_false (by omega)) hprolog
  have hbulk : BlocksAligned desc bulk (startAddr + prolog) := by
    by_contra hbad
    have hpart : bulk ≠ 0 := by
      rintro rfl
      exact hbad fun t ht => absurd ht (Nat.not_lt_zero _)
    obtain ⟨s', hdone, hs'⟩ := hpassed (.inl hpart)
    apply hwrite
    rw [hdone, ok_bind, writeBurstPart_asserts hdesc haddr hs' hsmall
      (by omega) (by omega) hpart hwords hbad]
    rfl
  refine ⟨hprolog, hbulk, fun hpart => ?_⟩
  dsimp only at hpart ⊢
  by_contra hbad
  obtain ⟨s', hdone, hs'⟩ := hpassed (.inr hpart)
  obtain ⟨s'', hdone', -⟩ := writeBurstPart_passes hdesc haddr hs' hsmall
    (by omega) (by omega) (decide_eq_false hpart) hwords hbulk
  have hword := (hcovers.epilog_word hpart).1
  apply hwrite
  rw [hdone, ok_bind, hdone', ok_bind, Nat.mod_eq_of_lt (by omega),
    writeSinglePart_asserts hdesc (by omega) hpart]
  rw [hword, Nat.sub_zero]
  exact fun haligned => hbad haligned.2

end

/-- No assertion fails in a write or read of the range. -/
def AcceptsRange (desc : MemDesc) (nbyte startAddr : Nat) : Prop :=
  ∀ {δ : Type} (link : Link δ) (s : Session δ),
    SoundLink link → SoundSession s →
      (∀ data, data.length = nbyte →
        osdClMamWrite link desc s data startAddr ≠ .error .assertion) ∧
      (∀ buf, buf.length = nbyte →
        osdClMamRead link desc s buf startAddr ≠ .error .assertion)

theorem not_assertion_of_meets {α : Type} {call : Outcome α} {post : α → Prop}
    (h : Meets NoAssertion call post) : call ≠ .error .assertion := by
  rintro rfl
  exact h rfl

/-- The ranges that writes and reads accept, whatever the alignment. -/
theorem acceptsRange_iff {desc : MemDesc} (hdesc : desc.Supported)
    (haddr : desc.diAddr < 2 ^ 16) {nbyte startAddr : Nat} (hpos : 1 ≤ nbyte)
    (hsmall : nbyte < 2 ^ 32)
    (hrange : startAddr + nbyte ≤ 2 ^ (8 * desc.awB)) :
    AcceptsRange desc nbyte startAddr ↔
      RangeAccepted desc nbyte startAddr := by
  have hspace : startAddr + nbyte ≤ 2 ^ 64 := by
    apply hrange.trans
    apply Nat.pow_le_pow_right (by omega)
    have haw := hdesc.awB_cases
    omega
  constructor
  · intro haccepts
    have hsession : SoundSession (⟨2, (), [], []⟩ : Session Unit) := by
      constructor
      · decide
      · simp
    obtain ⟨hwrite, -⟩ := haccepts quietLink _ quietLink_sound hsession
    have hlength : (List.replicate nbyte (0 : Byte)).length = nbyte :=
      List.length_replicate
    have hparts := partsAligned_of_write hdesc haddr (by omega)
      (by omega) hsession (hwrite (List.replicate nbyte 0) hlength)
    rw [hlength] at hparts
    exact accepted_of_partsAligned hdesc hspace hpos hsmall hparts
  · intro haccepted δ link s hlink hsession
    have hparts :=
      partsAligned_of_accepted hdesc hspace hpos hsmall haccepted
    constructor
    · rintro data rfl
      apply not_assertion_of_meets
      apply osdClMamWrite_sound hlink hdesc haddr hpos hsmall hspace hparts
        hsession
      exact fun h => by cases h
    · rintro buf rfl
      apply not_assertion_of_meets
      apply osdClMamRead_sound hlink hdesc haddr _ _ hsmall hspace hparts
        hsession
      · exact fun h => by cases h
      · exact fun h => by cases h

/-- Seven bytes across two words of four. -/
theorem acceptsRange_unaligned : AcceptsRange ⟨1, 32, 32⟩ 7 0x1225 := by
  apply (acceptsRange_iff ⟨by decide, by decide⟩ (by decide) (by decide)
    (by decide) (by decide)).mpr
  unfold RangeAccepted
  decide

/-- Two bytes across a word boundary, and a word whose address is no multiple
of the address width. -/
theorem not_acceptsRange_crossing :
    osdClMamWrite quietLink ⟨1, 32, 32⟩ quietSession [0xde, 0xad] 0x1223 =
        .error .assertion ∧
      osdClMamWrite quietLink ⟨1, 16, 32⟩ quietSession [0xde, 0xad] 0x1222 =
        .error .assertion :=
  ⟨rfl, rfl⟩

end Osd.Mam
