import Osd.Mam.Assertions

/-!
# The buffer of a read

A read with `mam_read` as a parameter, so that `mam_read` can be confined to
the bytes that it is asked for: every other store of it is then a fault.  The
packets that are received are fixed in advance.
-/

namespace Osd.Mam

open Osd.Foundation

variable {δ : Type}

/-! ## Confined reads -/

/-- Session, buffer, offset and size in the buffer, address, burst and selsize
of a call of `mam_read`. -/
abbrev ReadCall (δ : Type) : Type :=
  Session δ → List Byte → Nat → Nat → Nat → Bool → Byte →
    Outcome (OsdResult × List Byte × Session δ)

def readSingleWith (read : ReadCall δ) (desc : MemDesc) (s : Session δ)
    (buf : List Byte) (offset nbyte startAddr : Nat) :
    Outcome (OsdResult × List Byte × Session δ) := do
  let baddr := startAddr % desc.dwB % 2 ^ 8
  let data ← loadBytes buf offset nbyte
  let (word, bs) ← alignDataToWord baddr data desc.dwB
  let (rv, word, s) ← read s word 0 desc.dwB (startAddr - baddr) false bs
  let bytes ← loadBytes word baddr nbyte
  let buf ← storeBytes buf offset bytes
  .ok (rv, buf, s)

def readCallWith (read : ReadCall δ) (desc : MemDesc) (offset : Nat)
    (c : BurstCall) (_last : Bool) (s : List Byte × Session δ) :
    Outcome (OsdResult × List Byte × Session δ) :=
  read s.2 s.1 (offset + c.offset) c.size c.addr true
    (UInt8.ofNat (c.size / desc.dwB))

def readBurstWith (read : ReadCall δ) (desc : MemDesc) (s : Session δ)
    (buf : List Byte) (offset nbyte startAddr : Nat) :
    Outcome (OsdResult × List Byte × Session δ) := do
  assertThat (nbyte % desc.dwB = 0)
  assertThat (startAddr % desc.awB = 0)
  runCalls (readCallWith read desc offset) (burstCalls desc nbyte startAddr)
    (buf, s)

def osdClMamReadWith (read : ReadCall δ) (desc : MemDesc) (s : Session δ)
    (buf : List Byte) (startAddr : Nat) :
    Outcome (OsdResult × List Byte × Session δ) := do
  let (prolog, bulk, epilog) := calculateParts startAddr buf.length desc.dwB
  let afterProlog ← unlessEmptyRead prolog (osdOk, buf, s) fun buf s =>
    readSingleWith read desc s buf 0 prolog startAddr
  let afterBulk ← unlessEmptyRead bulk afterProlog fun buf s =>
    readBurstWith read desc s buf prolog bulk ((startAddr + prolog) % 2 ^ 64)
  unlessEmptyRead epilog afterBulk fun buf s =>
    readSingleWith read desc s buf (prolog + bulk) epilog
      ((startAddr + prolog + bulk) % 2 ^ 64)

theorem osdClMamRead_eq_with (link : Link δ) (desc : MemDesc)
    (s : Session δ) (buf : List Byte) (startAddr : Nat) :
    osdClMamRead link desc s buf startAddr =
      osdClMamReadWith (mamRead link desc) desc s buf startAddr := by
  unfold osdClMamRead osdClMamReadWith
  simp only [readBurst_calls]
  rfl

/-- `mam_read` with the bytes that it is asked for as its whole buffer. -/
def mamReadConfined (link : Link δ) (desc : MemDesc) : ReadCall δ :=
  fun s buf offset nbyte startAddr burst selsize => do
    let part ← loadBytes buf offset nbyte
    let (rv, part, s) ←
      mamRead link desc s part 0 nbyte startAddr burst selsize
    let buf ← storeBytes buf offset part
    .ok (rv, buf, s)

def osdClMamReadConfined (link : Link δ) (desc : MemDesc) (s : Session δ)
    (buf : List Byte) (startAddr : Nat) :
    Outcome (OsdResult × List Byte × Session δ) :=
  osdClMamReadWith (mamReadConfined link desc) desc s buf startAddr

/-! ## Confined reads are reads -/

/-- The confined call does what the other one does, as long as it meets no
fault of its own. -/
def Confines {α : Type} (confined call : Outcome α) : Prop :=
  confined = .error .outOfBounds ∨ confined = call

section

variable {α β : Type} {confined call : Outcome α}

theorem Confines.refl (call : Outcome α) : Confines call call := .inr rfl

theorem Confines.bind {rest rest' : α → Outcome β}
    (h : Confines confined call) (hrest : ∀ a, Confines (rest a) (rest' a)) :
    Confines (confined >>= rest) (call >>= rest') := by
  rcases h with rfl | rfl
  · exact .inl rfl
  · cases confined with
    | error fault => exact .inr rfl
    | ok a => exact hrest a

end

/-- The invariant of the loop: the buffer is the one of the confined call
with its part stored. -/
theorem receiveData_confines (nbyte : Nat) {offset : Nat} (fuel : Nat)
    (s : Session δ) {buf part : List Byte}
    (h : offset + part.length ≤ buf.length) (rxNbyte : Nat) :
    Confines
      (do
        let (rv, part, s) ← receiveData nbyte 0 fuel s part rxNbyte
        let buf ← storeBytes buf offset part
        .ok (rv, buf, s))
      (receiveData nbyte offset fuel s (splice buf offset part) rxNbyte) := by
  induction fuel generalizing s part rxNbyte with
  | zero => exact .refl _
  | succ fuel ih =>
      unfold receiveData
      simp only [bind_assoc]
      apply (Confines.refl (osdHostmodEventReceive s)).bind
      rintro ⟨result, next⟩
      cases result with
      | failed rv hrv =>
          right
          simp only [ok_bind]
          rw [storeBytes_eq h, ok_bind]
      | packet packet =>
          simp only [bind_assoc]
          apply (Confines.refl _).bind
          intro payloadSizeWords
          apply (Confines.refl _).bind
          intro bytes
          by_cases hstore : rxNbyte + bytes.length ≤ part.length
          · have hpart := length_splice hstore
            rw [Nat.zero_add, storeBytes_eq hstore, ok_bind,
              storeBytes_eq (by rw [length_splice h]; omega), ok_bind,
              splice_splice h hstore]
            split
            · exact ih next (by rw [hpart]; exact h) _
            · right
              rw [ok_bind]
              dsimp only
              rw [storeBytes_eq (by rw [hpart]; exact h), ok_bind]
          · left
            rw [Nat.zero_add, storeBytes, inBounds_bind_not hstore]
            rfl

theorem mamReadConfined_confines (link : Link δ) (desc : MemDesc)
    (s : Session δ) (buf : List Byte) (offset nbyte startAddr : Nat)
    (burst : Bool) (selsize : Byte) :
    Confines
      (mamReadConfined link desc s buf offset nbyte startAddr burst selsize)
      (mamRead link desc s buf offset nbyte startAddr burst selsize) := by
  unfold mamReadConfined
  by_cases hinside : offset + nbyte ≤ buf.length
  · rw [loadBytes_eq hinside, ok_bind]
    unfold mamRead
    simp only [bind_assoc]
    apply (Confines.refl _).bind
    intro transfer
    apply (Confines.refl _).bind
    rintro ⟨rv, sent⟩
    have hlength := length_part hinside
    have hself := splice_self hinside
    dsimp only
    split
    · right
      rw [ok_bind]
      dsimp only
      rw [storeBytes_eq (by rw [hlength]; exact hinside), ok_bind, hself]
    · have hpart : offset + ((buf.drop offset).take nbyte).length ≤
          buf.length := by rwa [hlength]
      have hloop := receiveData_confines nbyte (sent.rx.length + 1) sent hpart
        0
      rw [hself] at hloop
      exact hloop
  · left
    rw [loadBytes, inBounds_bind_not hinside]
    rfl

theorem unlessEmptyRead_confines {size : Nat}
    {before : OsdResult × List Byte × Session δ}
    {call call' : List Byte → Session δ →
      Outcome (OsdResult × List Byte × Session δ)}
    (hcall : ∀ buf s, Confines (call buf s) (call' buf s)) :
    Confines (unlessEmptyRead size before call)
      (unlessEmptyRead size before call') := by
  unfold unlessEmptyRead
  split
  · exact .refl _
  · exact hcall _ _

section

variable {read read' : ReadCall δ}
  (h : ∀ s buf offset nbyte startAddr burst selsize,
    Confines (read s buf offset nbyte startAddr burst selsize)
      (read' s buf offset nbyte startAddr burst selsize))

include h

theorem readSingleWith_confines (desc : MemDesc) (s : Session δ)
    (buf : List Byte) (offset nbyte startAddr : Nat) :
    Confines (readSingleWith read desc s buf offset nbyte startAddr)
      (readSingleWith read' desc s buf offset nbyte startAddr) := by
  unfold readSingleWith
  apply (Confines.refl _).bind
  intro data
  apply (Confines.refl _).bind
  rintro ⟨word, bs⟩
  apply (h _ _ _ _ _ _ _).bind
  exact fun result => .refl _

theorem readBurstWith_confines (desc : MemDesc) (s : Session δ)
    (buf : List Byte) (offset nbyte startAddr : Nat) :
    Confines (readBurstWith read desc s buf offset nbyte startAddr)
      (readBurstWith read' desc s buf offset nbyte startAddr) := by
  unfold readBurstWith
  apply (Confines.refl _).bind
  intro _
  apply (Confines.refl _).bind
  intro _
  generalize burstCalls desc nbyte startAddr = calls
  generalize (buf, s) = state
  induction calls generalizing state with
  | nil => exact .refl _
  | cons c calls ih =>
      unfold runCalls
      apply (h _ _ _ _ _ _ _).bind
      rintro ⟨rv, state'⟩
      dsimp only
      split
      · exact .refl _
      · exact ih state'

theorem osdClMamReadWith_confines (desc : MemDesc) (s : Session δ)
    (buf : List Byte) (startAddr : Nat) :
    Confines (osdClMamReadWith read desc s buf startAddr)
      (osdClMamReadWith read' desc s buf startAddr) := by
  have hsingle := readSingleWith_confines h desc
  have hburst := readBurstWith_confines h desc
  unfold osdClMamReadWith
  dsimp only
  apply (unlessEmptyRead_confines fun buf s => hsingle s buf _ _ _).bind
  intro afterProlog
  apply (unlessEmptyRead_confines fun buf s => hburst s buf _ _ _).bind
  intro afterBulk
  exact unlessEmptyRead_confines fun buf s => hsingle s buf _ _ _

end

/-- A confined read without such a fault is the read itself. -/
theorem osdClMamReadConfined_confines (link : Link δ) (desc : MemDesc)
    (s : Session δ) (buf : List Byte) (startAddr : Nat) :
    Confines (osdClMamReadConfined link desc s buf startAddr)
      (osdClMamRead link desc s buf startAddr) := by
  rw [osdClMamRead_eq_with]
  exact osdClMamReadWith_confines (mamReadConfined_confines link desc) desc s
    buf startAddr

/-! ## Answers that fit -/

/-- What one call of `mam_read` asks for: if the bytes are inside of the
buffer, if no assertion fails before the request is sent, and how many. -/
structure ReadRequest where
  inside : Bool
  accepted : Bool
  nbyte : Nat

/-- What the assertions of `align_data_to_word` ask for. -/
def WordSelected (dwB baddr nbyte : Nat) : Prop :=
  baddr + nbyte ≤ dwB ∧ byteSelect dwB baddr nbyte ≠ 0

instance (dwB baddr nbyte : Nat) : Decidable (WordSelected dwB baddr nbyte) :=
  inferInstanceAs (Decidable (_ ∧ _))

def singleRequest (desc : MemDesc) (size offset nbyte startAddr : Nat) :
    ReadRequest :=
  let baddr := startAddr % desc.dwB % 2 ^ 8
  { inside := decide (offset + nbyte ≤ size)
    accepted := decide (WordSelected desc.dwB baddr nbyte ∧
      (startAddr - baddr) % desc.awB = 0)
    nbyte := desc.dwB }

def chunkRequest (desc : MemDesc) (size offset : Nat) (c : BurstCall) :
    ReadRequest where
  inside := decide (offset + c.offset + c.size ≤ size)
  accepted := decide (c.addr % desc.awB = 0 ∧
    (UInt8.ofNat (c.size / desc.dwB)).toNat ≠ 0)
  nbyte := c.size

def burstRequests (desc : MemDesc) (size offset nbyte startAddr : Nat) :
    List ReadRequest :=
  if nbyte % desc.dwB = 0 ∧ startAddr % desc.awB = 0 then
    (burstCalls desc nbyte startAddr).map (chunkRequest desc size offset)
  else [⟨true, false, 0⟩]

def readRequests (desc : MemDesc) (nbyte startAddr : Nat) :
    List ReadRequest :=
  let (prolog, bulk, epilog) := calculateParts startAddr nbyte desc.dwB
  (if prolog = 0 then [] else
    [singleRequest desc nbyte 0 prolog startAddr]) ++
  ((if bulk = 0 then [] else
    burstRequests desc nbyte prolog bulk ((startAddr + prolog) % 2 ^ 64)) ++
  if epilog = 0 then [] else
    [singleRequest desc nbyte (prolog + bulk) epilog
      ((startAddr + prolog + bulk) % 2 ^ 64)])

/-- What the messages make of a request: bytes outside of what was asked for,
the end of the read, or an answer with the messages that are left. -/
inductive Answer where
  | overrun
  | ended
  | complete (rest : List Received)

namespace Answer

def andThen : Answer → (List Received → Answer) → Answer
  | overrun, _ => overrun
  | ended, _ => ended
  | complete rest, next => next rest

theorem andThen_assoc (a : Answer) (f g : List Received → Answer) :
    (a.andThen f).andThen g = a.andThen fun rest => (f rest).andThen g := by
  cases a <;> rfl

theorem andThen_complete (a : Answer) : a.andThen complete = a := by
  cases a <;> rfl

end Answer

def payloadSize (packet : Packet) : Nat :=
  2 * (packet.dataSizeWords.toNat - packetHeaderWordCnt)

/-- Packets are taken until no byte is missing. -/
def answer : Nat → List Received → Answer
  | _, [] => .ended
  | _, .failed _ _ :: _ => .ended
  | missing, .packet packet :: rest =>
      if missing < payloadSize packet then .overrun
      else if payloadSize packet < missing then
        answer (missing - payloadSize packet) rest
      else .complete rest

def answerTo (request : ReadRequest) (script : List Received) : Answer :=
  if !request.inside then .overrun
  else if !request.accepted then .ended
  else answer request.nbyte script

section

variable {request : ReadRequest} {script : List Received}

theorem answerTo_outside (h : request.inside = false) :
    answerTo request script = .overrun := by
  unfold answerTo
  rw [h]
  rfl

theorem answerTo_refused (h : request.inside = true)
    (hrefused : request.accepted = false) :
    answerTo request script = .ended := by
  unfold answerTo
  rw [h, hrefused]
  rfl

theorem answerTo_accepted (h : request.inside = true)
    (haccepted : request.accepted = true) :
    answerTo request script = answer request.nbyte script := by
  unfold answerTo
  rw [h, haccepted]
  rfl

end

def answers : List ReadRequest → List Received → Answer
  | [], script => .complete script
  | request :: requests, script =>
      (answerTo request script).andThen (answers requests)

theorem answers_append (first second : List ReadRequest)
    (script : List Received) :
    answers (first ++ second) script =
      (answers first script).andThen (answers second) := by
  induction first generalizing script with
  | nil => rfl
  | cons request first ih =>
      have hrest : answers (first ++ second) =
          fun rest => (answers first rest).andThen (answers second) :=
        funext ih
      rw [List.cons_append, answers, answers, hrest, Answer.andThen_assoc]

theorem answers_single (request : ReadRequest) (script : List Received) :
    answers [request] script = answerTo request script := by
  unfold answers
  cases answerTo request script <;> rfl

/-! ## Reads follow the messages -/

def Mute (link : Link δ) : Prop :=
  ∀ dev packet, (link.onSend dev packet).2.1 = []

/-- The read ends with an error, or does not return. -/
def Ends (size : Nat) : Outcome (OsdResult × List Byte × Session δ) → Prop
  | .ok (rv, buf, _) => osdFailed rv = true ∧ buf.length = size
  | .error fault => fault ≠ .outOfBounds

def FollowsAnswer (size : Nat) :
    Answer → Outcome (OsdResult × List Byte × Session δ) → Prop
  | .overrun, outcome => outcome = .error .outOfBounds
  | .ended, outcome => Ends size outcome
  | .complete rest, outcome => ∃ buf s, outcome = .ok (osdOk, buf, s) ∧
      buf.length = size ∧ SoundSession s ∧ s.rx = rest

/-- A send that fails ends the read as well. -/
def Follows (link : Link δ) (size : Nat) (a : Answer)
    (outcome : Outcome (OsdResult × List Byte × Session δ)) : Prop :=
  ¬AlwaysOk link ∧ Ends size outcome ∨ FollowsAnswer size a outcome

section

variable {link : Link δ} {size size' : Nat} {a : Answer}
  {outcome : Outcome (OsdResult × List Byte × Session δ)}

theorem Ends.bind (h : Ends size outcome)
    {next : OsdResult × List Byte × Session δ →
      Outcome (OsdResult × List Byte × Session δ)}
    (hnext : ∀ rv buf s, osdFailed rv = true → buf.length = size →
      Ends size' (next (rv, buf, s))) : Ends size' (outcome >>= next) := by
  cases outcome with
  | error fault => exact h
  | ok result =>
      obtain ⟨rv, buf, s⟩ := result
      exact hnext rv buf s h.1 h.2

theorem Follows.inside (h : Follows link size a outcome)
    (ha : a ≠ .overrun) : outcome ≠ .error .outOfBounds := by
  rintro rfl
  rcases h with ⟨-, hends⟩ | hfollows
  · exact hends rfl
  · cases a with
    | overrun => exact ha rfl
    | ended =>
        have hends : Ends size (.error .outOfBounds :
            Outcome (OsdResult × List Byte × Session δ)) := hfollows
        exact hends rfl
    | complete rest =>
        obtain ⟨buf, s, hok, -⟩ := hfollows
        cases hok

theorem Follows.andThen (h : Follows link size a outcome)
    {cont : List Received → Answer}
    {next : OsdResult × List Byte × Session δ →
      Outcome (OsdResult × List Byte × Session δ)}
    (hfailed : ∀ rv buf s, osdFailed rv = true → buf.length = size →
      Ends size' (next (rv, buf, s)))
    (hok : ∀ buf s, buf.length = size → SoundSession s →
      Follows link size' (cont s.rx) (next (osdOk, buf, s))) :
    Follows link size' (a.andThen cont) (outcome >>= next) := by
  rcases h with ⟨hlink, hends⟩ | hfollows
  · exact .inl ⟨hlink, hends.bind hfailed⟩
  · cases a with
    | overrun =>
        have herror : outcome = .error .outOfBounds := hfollows
        rw [herror]
        exact .inr rfl
    | ended =>
        have hends : Ends size outcome := hfollows
        exact .inr (hends.bind hfailed)
    | complete rest =>
        obtain ⟨buf, s, rfl, hbuf, hsound, rfl⟩ := hfollows
        exact hok buf s hbuf hsound

theorem sendPkgs_mute {allowed : Fault → Prop} (hmute : Mute link)
    {desc : MemDesc} (haddr : desc.diAddr < 2 ^ 16) {transfer : List Byte}
    (hsmall : transfer.length < 2 ^ 31) {s : Session δ} (count i : Nat)
    (h : SoundSession s)
    (hneeded : count ≠ 0 → 10 * (i + count - 1) < transfer.length) :
    Meets allowed (sendPkgs link desc transfer count i s)
      (fun result => SoundSession result.2 ∧ result.2.rx = s.rx ∧
        (AlwaysOk link → result.1 = osdOk)) := by
  have hlink : SoundLink link := by
    intro dev packet result hresult
    rw [hmute dev packet] at hresult
    cases hresult
  induction count generalizing i s with
  | zero => exact ⟨h, rfl, fun _ => rfl⟩
  | succ count ih =>
      have hi := hneeded (Nat.succ_ne_zero count)
      unfold sendPkgs
      apply (pkgInTransfer_meets desc s.diaddr (.inl ⟨haddr, h.diaddr⟩)
        (by omega) (by omega : 10 * i < transfer.length)).bind
      intro packet hpacket
      have hrx : (deliver link s packet).rx = s.rx := by
        unfold deliver
        dsimp only
        rw [hmute s.dev packet, List.append_nil]
      rw [hpacket.send, ok_bind]
      dsimp only
      split
      · exact ⟨h.deliver hlink packet, hrx, fun hok => hok s.dev packet⟩
      · have hrest := ih (i + 1) (h.deliver hlink packet) (by omega)
        rw [hrx] at hrest
        exact hrest

theorem sendMamTransfer_mute {allowed : Fault → Prop} (hmute : Mute link)
    {desc : MemDesc} (haddr : desc.diAddr < 2 ^ 16) {transfer : List Byte}
    (hpos : 0 < transfer.length) (hsmall : transfer.length < 2 ^ 31)
    {s : Session δ} (h : SoundSession s) :
    Meets allowed (sendMamTransfer link desc s transfer)
      (fun result => SoundSession result.2 ∧ result.2.rx = s.rx ∧
        (AlwaysOk link → result.1 = osdOk)) := by
  unfold sendMamTransfer
  rw [numPkgsForTransfer_eq hpos (by omega), ok_bind]
  exact sendPkgs_mute hmute haddr hsmall _ 0 h (by omega)

theorem payloadSize_toPacket (p : DiPacket) :
    payloadSize p.toPacket = (streamOfWords p.payload).length := by
  unfold payloadSize
  rw [DiPacket.toPacket_size, length_streamOfWords, packetHeaderWordCnt,
    Nat.add_sub_cancel]

theorem receiveData_follows (script : List Received) {nbyte fuel : Nat}
    (hfuel : script.length < fuel) {s : Session δ} (h : SoundSession s)
    (hrx : s.rx = script) {part : List Byte} (hpart : part.length = nbyte)
    {rxNbyte : Nat} (hle : rxNbyte ≤ nbyte) :
    FollowsAnswer nbyte (answer (nbyte - rxNbyte) script)
      (receiveData nbyte 0 fuel s part rxNbyte) := by
  induction script generalizing fuel s part rxNbyte with
  | nil =>
      obtain ⟨fuel, rfl⟩ :=
        Nat.exists_eq_succ_of_ne_zero (Nat.ne_zero_of_lt hfuel)
      unfold receiveData osdHostmodEventReceive answer
      rw [hrx]
      exact fun hfault => by cases hfault
  | cons result script ih =>
      obtain ⟨fuel, rfl⟩ :=
        Nat.exists_eq_succ_of_ne_zero (Nat.ne_zero_of_lt hfuel)
      obtain ⟨next, hreceive, hnext, hsound⟩ : ∃ next,
          osdHostmodEventReceive s = .ok (result, next) ∧
            next.rx = script ∧ SoundSession next := by
        have hall := h.rx
        rw [hrx] at hall
        unfold osdHostmodEventReceive
        rw [hrx]
        exact ⟨_, rfl, rfl, h.diaddr, fun other hother =>
          hall other (List.mem_cons_of_mem _ hother)⟩
      have hwell : WellFormed result :=
        h.rx result (by rw [hrx]; exact List.mem_cons_self)
      unfold receiveData
      rw [hreceive, ok_bind]
      cases result with
      | failed rv hrv => exact ⟨hrv, hpart⟩
      | packet packet =>
          obtain ⟨p, rfl⟩ := hwell
          dsimp only
          rw [DiPacket.sizeconvData2payload_toPacket, ok_bind,
            payloadBytes_toPacket, ok_bind, Nat.zero_add]
          unfold answer
          rw [payloadSize_toPacket]
          generalize streamOfWords p.payload = bytes
          split
          · rename_i hover
            rw [storeBytes, inBounds_bind_not (by omega)]
            rfl
          · rename_i hfits
            have hstore : rxNbyte + bytes.length ≤ part.length := by omega
            have hlength := length_splice hstore
            rw [storeBytes_eq hstore, ok_bind]
            by_cases hmore : rxNbyte + bytes.length < nbyte
            · rw [if_pos hmore, if_pos (by omega), Nat.sub_sub]
              exact ih (by simpa using hfuel) hsound hnext
                (hlength.trans hpart) (by omega)
            · rw [if_neg hmore, if_neg (by omega)]
              exact ⟨_, _, rfl, hlength.trans hpart, hsound, hnext⟩

/-- The widths and addresses of a descriptor have 16 bit. -/
structure MemDesc.Narrow (desc : MemDesc) : Prop where
  diAddr : desc.diAddr < 2 ^ 16
  addrWidthBit : desc.addrWidthBit < 2 ^ 16

variable {desc : MemDesc} {s : Session δ} {buf : List Byte}
  {offset nbyte startAddr : Nat}

theorem mamRead_follows (hmute : Mute link) (hdesc : desc.Narrow)
    (h : SoundSession s) {part : List Byte} (hpart : part.length = nbyte)
    {burst : Bool} {selsize : Byte}
    (hargs : TransferArgs desc [] startAddr false burst selsize.toNat) :
    Follows link nbyte (answer nbyte s.rx)
      (mamRead link desc s part 0 nbyte startAddr burst selsize) := by
  have haw : desc.awB < 2 ^ 16 :=
    Nat.lt_of_le_of_lt (Nat.div_le_self _ _) hdesc.addrWidthBit
  obtain ⟨transfer, htransfer, hsize⟩ := createMamTransfer_ok false hargs
  rw [List.length_nil] at hsize
  have hsend : Meets (fun _ => False) (sendMamTransfer link desc s transfer)
      (fun result => SoundSession result.2 ∧ result.2.rx = s.rx ∧
        (AlwaysOk link → result.1 = osdOk)) :=
    sendMamTransfer_mute hmute hdesc.diAddr (by omega) (by omega) h
  obtain ⟨⟨rv, sent⟩, hsent, hsound, hrx, hok⟩ := hsend.exists_ok
  dsimp only at hsound hrx hok
  unfold mamRead
  rw [htransfer, ok_bind, hsent, ok_bind]
  dsimp only
  split
  · rename_i hfailed
    left
    constructor
    · intro halways
      rw [hok halways] at hfailed
      cases hfailed
    · exact ⟨hfailed, hpart⟩
  · right
    exact receiveData_follows s.rx (by rw [hrx]; exact Nat.lt_succ_self _)
      hsound hrx hpart (Nat.zero_le nbyte)

theorem mamReadConfined_follows (hmute : Mute link) (hdesc : desc.Narrow)
    (h : SoundSession s) {burst : Bool} {selsize : Byte}
    (hinside : offset + nbyte ≤ buf.length)
    (hargs : TransferArgs desc [] startAddr false burst selsize.toNat) :
    Follows link buf.length (answer nbyte s.rx)
      (mamReadConfined link desc s buf offset nbyte startAddr burst
        selsize) := by
  have hlength := length_part hinside
  unfold mamReadConfined
  rw [loadBytes_eq hinside, ok_bind, ← Answer.andThen_complete (answer _ _)]
  apply (mamRead_follows hmute hdesc h hlength hargs).andThen
  · intro rv part s' hfailed hpart
    have hstore : offset + part.length ≤ buf.length := by omega
    dsimp only
    rw [storeBytes_eq hstore, ok_bind]
    exact ⟨hfailed, length_splice hstore⟩
  · intro part s' hpart hsound
    have hstore : offset + part.length ≤ buf.length := by omega
    dsimp only
    rw [storeBytes_eq hstore, ok_bind]
    exact .inr ⟨_, _, rfl, length_splice hstore, hsound, rfl⟩

theorem mamReadConfined_outside {burst : Bool} {selsize : Byte}
    (houtside : ¬offset + nbyte ≤ buf.length) :
    mamReadConfined link desc s buf offset nbyte startAddr burst selsize =
      .error .outOfBounds := by
  unfold mamReadConfined
  rw [loadBytes, inBounds_bind_not houtside]
  rfl

theorem mamReadConfined_refused {burst : Bool} {selsize : Byte}
    (hinside : offset + nbyte ≤ buf.length)
    (hargs : createMamTransfer desc [] startAddr false burst false
      selsize.toNat = .error .assertion) :
    mamReadConfined link desc s buf offset nbyte startAddr burst selsize =
      .error .assertion := by
  unfold mamReadConfined mamRead
  rw [loadBytes_eq hinside, hargs]
  rfl

theorem createMamTransfer_unselected {selsize : Nat}
    (h : selsize = 0) :
    createMamTransfer desc [] startAddr false true false selsize =
      .error .assertion := by
  unfold createMamTransfer
  dsimp only
  rw [assertThat_bind (.inr ⟨rfl, rfl⟩), List.length_nil,
    assertThat_bind (Nat.zero_mod _)]
  by_cases haligned : startAddr % desc.awB = 0
  · rw [assertThat_bind haligned, assertThat_bind_not (by simp [h])]
  · rw [assertThat_bind_not haligned]

theorem alignDataToWord_selected {dwB baddr : Nat} {data : List Byte}
    (h : WordSelected dwB baddr data.length) :
    ∃ word bs, alignDataToWord baddr data dwB = .ok (word, bs) ∧
      word.length = dwB := by
  have hstore : baddr + data.length ≤
      (List.replicate dwB (0 : Byte)).length := by
    rw [List.length_replicate]
    exact h.1
  unfold alignDataToWord
  dsimp only
  rw [assertThat_bind h.1, assertThat_bind h.2, storeBytes_eq hstore, ok_bind]
  refine ⟨_, _, rfl, ?_⟩
  rw [length_splice hstore, List.length_replicate]

theorem alignDataToWord_refused {dwB baddr : Nat} {data : List Byte}
    (h : ¬WordSelected dwB baddr data.length) :
    alignDataToWord baddr data dwB = .error .assertion := by
  unfold alignDataToWord
  dsimp only
  by_cases hinside : baddr + data.length ≤ dwB
  · rw [assertThat_bind hinside,
      assertThat_bind_not fun hselected => h ⟨hinside, hselected⟩]
  · rw [assertThat_bind_not hinside]

theorem copySelected {word : List Byte} {baddr : Nat}
    (hinside : offset + nbyte ≤ buf.length)
    (hword : baddr + nbyte ≤ word.length) (rv : OsdResult) (s : Session δ) :
    ∃ buf',
      (do
        let bytes ← loadBytes word baddr nbyte
        let buf ← storeBytes buf offset bytes
        .ok (rv, buf, s)) = (.ok (rv, buf', s) : Outcome _) ∧
      buf'.length = buf.length := by
  have hlength := length_part hword
  have hstore : offset + ((word.drop baddr).take nbyte).length ≤
      buf.length := by rwa [hlength]
  rw [loadBytes_eq hword, ok_bind, storeBytes_eq hstore, ok_bind]
  exact ⟨_, rfl, length_splice hstore⟩

theorem readSingleConfined_follows (hmute : Mute link) (hdesc : desc.Narrow)
    (h : SoundSession s) :
    Follows link buf.length
      (answerTo (singleRequest desc buf.length offset nbyte startAddr) s.rx)
      (readSingleWith (mamReadConfined link desc) desc s buf offset nbyte
        startAddr) := by
  obtain ⟨baddr, hbaddr⟩ : ∃ baddr, startAddr % desc.dwB % 2 ^ 8 = baddr :=
    ⟨_, rfl⟩
  have hrequest : singleRequest desc buf.length offset nbyte startAddr =
      ⟨decide (offset + nbyte ≤ buf.length),
        decide (WordSelected desc.dwB baddr nbyte ∧
          (startAddr - baddr) % desc.awB = 0), desc.dwB⟩ := by
    rw [← hbaddr]
    rfl
  unfold readSingleWith
  rw [hrequest, hbaddr]
  dsimp only
  by_cases hinside : offset + nbyte ≤ buf.length
  · have hlength := length_part hinside
    rw [loadBytes_eq hinside, ok_bind]
    by_cases hselected : WordSelected desc.dwB baddr nbyte
    · obtain ⟨word, bs, hword, hwordLength⟩ :=
        alignDataToWord_selected (by rwa [hlength])
      have hfits : 0 + desc.dwB ≤ word.length := by omega
      rw [hword, ok_bind]
      dsimp only
      by_cases haligned : (startAddr - baddr) % desc.awB = 0
      · rw [answerTo_accepted (decide_eq_true hinside)
          (decide_eq_true ⟨hselected, haligned⟩),
          ← Answer.andThen_complete (answer _ _)]
        have hargs : TransferArgs desc [] (startAddr - baddr) false false
            bs.toNat := readArgs haligned fun hburst => by cases hburst
        apply (mamReadConfined_follows hmute hdesc h hfits hargs).andThen
        · intro rv word' s' hfailed hword'
          obtain ⟨buf', hcopy, hbuf'⟩ := copySelected hinside
            (by rw [hword', hwordLength]; exact hselected.1) rv s'
          dsimp only
          rw [hcopy]
          exact ⟨hfailed, hbuf'⟩
        · intro word' s' hword' hsound
          obtain ⟨buf', hcopy, hbuf'⟩ := copySelected hinside
            (by rw [hword', hwordLength]; exact hselected.1) osdOk s'
          dsimp only
          rw [hcopy]
          exact .inr ⟨buf', s', rfl, hbuf', hsound, rfl⟩
      · rw [answerTo_refused (decide_eq_true hinside)
          (decide_eq_false fun hboth => haligned hboth.2),
          mamReadConfined_refused hfits
            (createMamTransfer_unaligned haligned)]
        exact .inr fun hfault => by cases hfault
    · rw [alignDataToWord_refused (by rwa [hlength]),
        answerTo_refused (decide_eq_true hinside)
          (decide_eq_false fun hboth => hselected hboth.1)]
      exact .inr fun hfault => by cases hfault
  · rw [loadBytes, inBounds_bind_not hinside,
      answerTo_outside (decide_eq_false hinside)]
    exact .inr rfl

theorem readCallConfined_follows (hmute : Mute link) (hdesc : desc.Narrow)
    (h : SoundSession s) (c : BurstCall) (last : Bool) :
    Follows link buf.length
      (answerTo (chunkRequest desc buf.length offset c) s.rx)
      (readCallWith (mamReadConfined link desc) desc offset c last
        (buf, s)) := by
  unfold readCallWith
  dsimp only
  by_cases hinside : offset + c.offset + c.size ≤ buf.length
  · by_cases haligned : c.addr % desc.awB = 0
    · by_cases hselsize : (UInt8.ofNat (c.size / desc.dwB)).toNat = 0
      · rw [answerTo_refused (decide_eq_true hinside)
          (decide_eq_false fun hboth => hboth.2 hselsize),
          mamReadConfined_refused hinside
            (createMamTransfer_unselected hselsize)]
        exact .inr fun hfault => by cases hfault
      · rw [answerTo_accepted (decide_eq_true hinside)
          (decide_eq_true ⟨haligned, hselsize⟩)]
        exact mamReadConfined_follows hmute hdesc h hinside
          (readArgs haligned fun _ => hselsize)
    · rw [answerTo_refused (decide_eq_true hinside)
        (decide_eq_false fun hboth => haligned hboth.1),
        mamReadConfined_refused hinside (createMamTransfer_unaligned haligned)]
      exact .inr fun hfault => by cases hfault
  · rw [answerTo_outside (decide_eq_false hinside),
      mamReadConfined_outside hinside]
    exact .inr rfl

theorem runCallsConfined_follows (hmute : Mute link) (hdesc : desc.Narrow)
    (h : SoundSession s) (calls : List BurstCall) :
    Follows link buf.length
      (answers (calls.map (chunkRequest desc buf.length offset)) s.rx)
      (runCalls (readCallWith (mamReadConfined link desc) desc offset) calls
        (buf, s)) := by
  induction calls generalizing buf s with
  | nil => exact .inr ⟨buf, s, rfl, rfl, h, rfl⟩
  | cons c calls ih =>
      unfold runCalls
      apply (readCallConfined_follows hmute hdesc h c calls.isEmpty).andThen
      · intro rv buf' s' hfailed hbuf'
        dsimp only
        rw [if_pos hfailed]
        exact ⟨hfailed, hbuf'⟩
      · intro buf' s' hbuf' hsound
        dsimp only
        rw [if_neg (by simp), ← hbuf']
        exact ih hsound

theorem readBurstConfined_follows (hmute : Mute link) (hdesc : desc.Narrow)
    (h : SoundSession s) :
    Follows link buf.length
      (answers (burstRequests desc buf.length offset nbyte startAddr) s.rx)
      (readBurstWith (mamReadConfined link desc) desc s buf offset nbyte
        startAddr) := by
  unfold burstRequests readBurstWith
  by_cases hwords : nbyte % desc.dwB = 0
  · rw [assertThat_bind hwords]
    by_cases haligned : startAddr % desc.awB = 0
    · rw [if_pos ⟨hwords, haligned⟩, assertThat_bind haligned]
      exact runCallsConfined_follows hmute hdesc h _
    · rw [if_neg fun hboth => haligned hboth.2, assertThat_bind_not haligned]
      exact .inr fun hfault => by cases hfault
  · rw [if_neg fun hboth => hwords hboth.1, assertThat_bind_not hwords]
    exact .inr fun hfault => by cases hfault

theorem unlessEmptyRead_follows {size : Nat} {requests : List ReadRequest}
    {call : List Byte → Session δ →
      Outcome (OsdResult × List Byte × Session δ)}
    (h : SoundSession s)
    (hcall : Follows link buf.length (answers requests s.rx) (call buf s)) :
    Follows link buf.length
      (answers (if size = 0 then [] else requests) s.rx)
      (unlessEmptyRead size (osdOk, buf, s) call) := by
  unfold unlessEmptyRead
  by_cases hsize : size = 0
  · rw [if_pos hsize, if_pos (.inr hsize)]
    exact .inr ⟨buf, s, rfl, rfl, h, rfl⟩
  · rw [if_neg hsize, if_neg (by simp [hsize])]
    exact hcall

theorem unlessEmptyRead_failed {size : Nat} {rv : OsdResult}
    {call : List Byte → Session δ →
      Outcome (OsdResult × List Byte × Session δ)}
    (hfailed : osdFailed rv = true) :
    unlessEmptyRead size (rv, buf, s) call = .ok (rv, buf, s) := by
  unfold unlessEmptyRead
  rw [if_pos (.inl hfailed)]

/-- A confined read leaves its bounds exactly where the messages do. -/
theorem osdClMamReadConfined_follows (hmute : Mute link)
    (hdesc : desc.Narrow) (h : SoundSession s) :
    Follows link buf.length
      (answers (readRequests desc buf.length startAddr) s.rx)
      (osdClMamReadConfined link desc s buf startAddr) := by
  unfold osdClMamReadConfined osdClMamReadWith readRequests
  generalize calculateParts startAddr buf.length desc.dwB = parts
  obtain ⟨prolog, bulk, epilog⟩ := parts
  dsimp only
  rw [answers_append]
  have hsingle {buf : List Byte} {s : Session δ} (h : SoundSession s)
      (offset nbyte startAddr : Nat) :
      Follows link buf.length
        (answers [singleRequest desc buf.length offset nbyte startAddr] s.rx)
        (readSingleWith (mamReadConfined link desc) desc s buf offset nbyte
          startAddr) := by
    rw [answers_single]
    exact readSingleConfined_follows hmute hdesc h
  apply (unlessEmptyRead_follows h (hsingle h 0 prolog startAddr)).andThen
  · intro rv buf' s' hfailed hbuf'
    rw [unlessEmptyRead_failed hfailed, ok_bind,
      unlessEmptyRead_failed hfailed]
    exact ⟨hfailed, hbuf'⟩
  · intro buf' s' hbuf' h'
    rw [answers_append, ← hbuf']
    apply (unlessEmptyRead_follows h'
      (readBurstConfined_follows hmute hdesc h')).andThen
    · intro rv buf'' s'' hfailed hbuf''
      rw [unlessEmptyRead_failed hfailed]
      exact ⟨hfailed, hbuf''⟩
    · intro buf'' s'' hbuf'' h''
      rw [← hbuf'']
      exact unlessEmptyRead_follows h'' (hsingle h'' _ _ _)

end

/-! ## Bounds -/

theorem burstCall_inside {desc : MemDesc} (hdesc : desc.Supported)
    {nbyte startAddr : Nat} (hpos : 0 < nbyte) (hlt : nbyte < 2 ^ 64)
    {c : BurstCall} (hc : c ∈ burstCalls desc nbyte startAddr) :
    c.offset + c.size ≤ nbyte := by
  have hdw := hdesc.dwB_cases
  rw [burstCalls_eq (by omega) hpos hlt] at hc
  obtain ⟨t, ht, rfl⟩ := List.mem_map.mp hc
  have hblock : t * (255 * desc.dwB) < nbyte := by
    have hcount := Nat.mod_le (1 + (nbyte - 1) / (255 * desc.dwB)) (2 ^ 32)
    have hlast := List.mem_range.mp ht
    have hle := Nat.div_mul_le_self (nbyte - 1) (255 * desc.dwB)
    have hmul : t * (255 * desc.dwB) ≤
        (nbyte - 1) / (255 * desc.dwB) * (255 * desc.dwB) :=
      Nat.mul_le_mul_right _ (by omega)
    omega
  have hoffset := Nat.mod_le (t * (255 * desc.dwB)) (2 ^ 32)
  have hnarrow := Nat.mod_lt (t * (255 * desc.dwB)) (Nat.two_pow_pos 32)
  unfold burstCall burstPart
  dsimp only
  generalize t * (255 * desc.dwB) % 2 ^ 32 = start at *
  rw [Nat.mod_eq_of_lt (by omega : start + 255 * desc.dwB < 2 ^ 64)]
  split <;> omega

/-- Where words have 16, 32 or 64 bit, the parts are inside of the buffer. -/
theorem readRequests_inside {desc : MemDesc} (hdesc : desc.Supported)
    {nbyte startAddr : Nat} (hnbyte : nbyte < 2 ^ 64)
    (hstart : startAddr < 2 ^ 64) :
    ∀ request ∈ readRequests desc nbyte startAddr, request.inside = true := by
  have hsum := calculateParts_sum startAddr nbyte hdesc.dwB_cases hnbyte hstart
  unfold readRequests
  generalize calculateParts startAddr nbyte desc.dwB = parts at *
  obtain ⟨prolog, bulk, epilog⟩ := parts
  dsimp only at hsum ⊢
  intro request hmem
  simp only [List.mem_append] at hmem
  rcases hmem with hprolog | hbulk | hepilog
  · split at hprolog
    · cases hprolog
    · rw [List.mem_singleton.mp hprolog]
      exact decide_eq_true (by omega)
  · split at hbulk
    · cases hbulk
    · unfold burstRequests at hbulk
      split at hbulk
      · obtain ⟨c, hc, rfl⟩ := List.mem_map.mp hbulk
        have hcall := burstCall_inside hdesc (by omega) (by omega) hc
        exact decide_eq_true (by omega)
      · rw [List.mem_singleton.mp hbulk]
  · split at hepilog
    · cases hepilog
    · rw [List.mem_singleton.mp hepilog]
      exact decide_eq_true (by omega)

/-- With these messages no store of `mam_read` is outside of the bytes that it
was asked for, whatever the sends return. -/
def StaysInside (desc : MemDesc) (nbyte startAddr : Nat)
    (script : List Received) : Prop :=
  ∀ {δ : Type} (link : Link δ) (s : Session δ) (buf : List Byte),
    Mute link → s.diaddr < 2 ^ 16 → s.rx = script → buf.length = nbyte →
      osdClMamReadConfined link desc s buf startAddr ≠ .error .outOfBounds

/-- A read stays inside exactly if the parts of the range are inside of the
buffer and no packet has more payload than is missing of the answer. -/
theorem staysInside_iff {desc : MemDesc} (hdesc : desc.Narrow)
    (nbyte startAddr : Nat) {script : List Received}
    (hscript : ∀ result ∈ script, WellFormed result) :
    StaysInside desc nbyte startAddr script ↔
      answers (readRequests desc nbyte startAddr) script ≠ .overrun := by
  constructor
  · intro hinside hover
    have hsound : SoundSession (⟨2, (), script, []⟩ : Session Unit) := by
      constructor
      · exact Nat.lt_of_lt_of_le (by decide : 2 < 2 ^ 2) (by decide)
      · exact hscript
    have hlength : (List.replicate nbyte (0 : Byte)).length = nbyte :=
      List.length_replicate
    have hfollows : Follows quietLink (List.replicate nbyte (0 : Byte)).length
        (answers (readRequests desc (List.replicate nbyte (0 : Byte)).length
          startAddr) script)
        (osdClMamReadConfined quietLink desc ⟨2, (), script, []⟩
          (List.replicate nbyte 0) startAddr) :=
      osdClMamReadConfined_follows (fun _ _ => rfl) hdesc hsound
    rw [hlength, hover] at hfollows
    rcases hfollows with ⟨hnot, -⟩ | hfault
    · exact hnot quietLink_ok
    · exact hinside quietLink ⟨2, (), script, []⟩ _ (fun _ _ => rfl)
        hsound.diaddr rfl hlength hfault
  · intro hfits δ link s buf hmute hdiaddr hrx hbuf
    have hsound : SoundSession s := by
      constructor
      · exact hdiaddr
      · rwa [hrx]
    have hfollows : Follows link buf.length
        (answers (readRequests desc buf.length startAddr) s.rx)
        (osdClMamReadConfined link desc s buf startAddr) :=
      osdClMamReadConfined_follows hmute hdesc hsound
    rw [hbuf, hrx] at hfollows
    exact hfollows.inside hfits

/-- Seven bytes, of which three are in the first word. -/
theorem staysInside_unaligned :
    StaysInside ⟨1, 32, 32⟩ 7 0x1225
      (packets [wordPacket 0, wordPacket 1, wordPacket 2, wordPacket 3]) := by
  apply (staysInside_iff ⟨by decide, by decide⟩ 7 0x1225 _).mpr
  · intro hover
    have hcomplete : Answer.complete [] = .overrun := hover
    cases hcomplete
  · intro result hresult
    obtain ⟨p, -, rfl⟩ := List.mem_map.mp hresult
    exact ⟨p, rfl⟩

/-- An answer of three words to a read of one: the word of the caller, and the
word that two bytes are taken from. -/
theorem not_staysInside_overlong :
    ¬StaysInside ⟨1, 32, 32⟩ 4 0x1000
        [.packet ⟨6, [2, 1, eventFlags, 0, 0, 0]⟩] ∧
      ¬StaysInside ⟨1, 32, 32⟩ 2 0x1000
        [.packet ⟨6, [2, 1, eventFlags, 0, 0, 0]⟩] := by
  constructor
  · intro h
    exact h quietLink ⟨2, (), _, []⟩ [0, 0, 0, 0] (fun _ _ => rfl) (by decide)
      rfl rfl rfl
  · intro h
    exact h quietLink ⟨2, (), _, []⟩ [0, 0] (fun _ _ => rfl) (by decide)
      rfl rfl rfl

end Osd.Mam
