import Osd.HostMod.RegWidth

/-!
# Setting a bit

`osd_hostmod_reg_setbit` reads a register and writes it back with one bit
changed.  Both accesses are of 16 bit, whatever size the caller names.
-/

namespace Osd.HostMod

open Osd.Foundation

/-- The way of a request to the modules and of the response back. -/
structure Bus (σ : Type) where
  exchange : σ → Packet → Except OsdResult Packet × σ

section

variable {σ : Type} (bus : Bus σ) (diaddr : Word) (s : σ)

/-- An access with the exchange of both packets. -/
def regAccess (access : Access) : Outcome (OsdResult × List Word × σ) := do
  let pkgReq ← access.request diaddr
  match bus.exchange s pkgReq with
  | (.error rv, s) => .ok (rv, [], s)
  | (.ok pkgResp, s) => do
      let (rv, value) ← access.response pkgResp
      .ok (rv, value, s)

def osdHostmodRegRead (moduleAddr regAddr : Word) (regSizeBit : Nat)
    (blocking : Bool) : Outcome (OsdResult × List Word × σ) :=
  regAccess bus diaddr s ⟨moduleAddr, regAddr, regSizeBit, none, blocking⟩

def osdHostmodRegWrite (regVal : List Word) (moduleAddr regAddr : Word)
    (regSizeBit : Nat) (blocking : Bool) :
    Outcome (OsdResult × List Word × σ) :=
  regAccess bus diaddr s
    ⟨moduleAddr, regAddr, regSizeBit, some regVal, blocking⟩

/-- `(val & ~(1 << bitnum)) | (bitval << bitnum)` with an `int` of 32 bit,
for which the shift is defined. -/
def bitInserted (val : Word) (bitnum : Nat) (bitval : Bool) :
    Outcome Word := do
  inBounds (bitnum < 31)
  let mask : BitVec 32 := ~~~(1#32 <<< bitnum)
  let bit : BitVec 32 := (BitVec.ofBool bitval).setWidth 32 <<< bitnum
  .ok ⟨((val.toBitVec.setWidth 32 &&& mask) ||| bit).setWidth 16⟩

def osdHostmodRegSetbit (bitnum : Nat) (bitval : Bool)
    (moduleAddr regAddr : Word) (_regSizeBit : Nat) (blocking : Bool) :
    Outcome (OsdResult × σ) := do
  let (rv, value, s) ← osdHostmodRegRead bus diaddr s moduleAddr regAddr 16
    blocking
  if osdFailed rv then .ok (rv, s)
  else do
    let val ← bitInserted (value.headD 0) bitnum bitval
    let (rv, _, s) ← osdHostmodRegWrite bus diaddr s [val] moduleAddr regAddr
      16 blocking
    .ok (rv, s)

end

/-! ## Modules that may fail -/

/-- What becomes of a request.  A request that is lost is not served; one
without an answer is served, but the call fails. -/
inductive Fate where
  | answered
  | refused
  | lost (rv : OsdResult) (h : osdFailed rv = true)
  | unanswered (rv : OsdResult) (h : osdFailed rv = true)

/-- The error that an access ends with. -/
def Fate.failure : Fate → Option OsdResult
  | .answered => none
  | .refused => some osdErrorDeviceError
  | .lost rv _ => some rv
  | .unanswered rv _ => some rv

structure Target where
  regs : Registers
  sent : List Packet
  fates : Nat → Fate

/-- The request that the words of a packet make up. -/
def requestOf (packet : Packet) : Option DiPacket :=
  match packet.dataRaw with
  | dest :: src :: flags :: payload =>
      if fits : payload.length + 3 < 2 ^ 16 then
        some ⟨dest, src, flags, payload, fits⟩
      else none
  | _ => none

namespace Target

def next (t : Target) : Fate := t.fates t.sent.length

def serve (t : Target) (req : DiPacket) :
    Except OsdResult Packet × Target :=
  match t.regs.serve req with
  | none => (.error osdErrorTimedout, t)
  | some (regs, resp) => (.ok resp.toPacket, { t with regs })

def answer (t : Target) (req : DiPacket) :
    Fate → Except OsdResult Packet × Target
  | .answered => t.serve req
  | .refused => (.ok (regStatus req respReadRegError).toPacket, t)
  | .lost rv _ => (.error rv, t)
  | .unanswered rv _ => (.error rv, (t.serve req).2)

def exchange (t : Target) (pkgReq : Packet) :
    Except OsdResult Packet × Target :=
  let logged := { t with sent := t.sent ++ [pkgReq] }
  match requestOf pkgReq with
  | none => (.error osdErrorTimedout, logged)
  | some req => logged.answer req t.next

def bus : Bus Target := ⟨Target.exchange⟩

end Target

/-! ## A bit of a register -/

def RegValue.bit (value : RegValue) (n : Nat) : Bool :=
  (value.words.getD (n / 16) 0).toBitVec.getLsbD (n % 16)

/-- The register with one bit set to a value. -/
def BitSet (old new : RegValue) (bitnum : Nat) (bitval : Bool) : Prop :=
  new.width = old.width ∧ ∀ n < old.width.bits,
    new.bit n = if n = bitnum then bitval else old.bit n

def IsWrite (packet : Packet) : Prop :=
  ∃ req, requestOf packet = some req ∧
    ∃ width, regRequest req.typeSub = some (.write width)

/-- What setting a bit of the register `value` does: the bit is set if the
read and the write get their answers, and the first failure is returned. -/
def SetsBit (diaddr moduleAddr regAddr : Word) (value : RegValue)
    (bitnum : Nat) (bitval blocking : Bool) (t : Target) : Prop :=
  ∃ rv t', osdHostmodRegSetbit Target.bus diaddr t bitnum bitval moduleAddr
      regAddr value.width.bits blocking = .ok (rv, t') ∧
    match (t.fates t.sent.length).failure,
      (t.fates (t.sent.length + 1)).failure with
    | some failure, _ => rv = failure ∧ t'.regs = t.regs ∧
        ∀ req ∈ t'.sent.drop t.sent.length, ¬IsWrite req
    | none, some failure => rv = failure
    | none, none => rv = osdOk ∧ ∃ new, BitSet value new bitnum bitval ∧
        t'.regs = t.regs.set moduleAddr regAddr new

/-! ## One access -/

theorem requestOf_toPacket (req : DiPacket) :
    requestOf req.toPacket = some req := by
  have hfits := req.fits
  rw [requestOf, DiPacket.toPacket_dataRaw]
  exact dif_pos hfits

theorem Fate.osdFailed_failure {fate : Fate} {failure : OsdResult}
    (h : fate.failure = some failure) : osdFailed failure = true := by
  cases fate with
  | answered => cases h
  | refused =>
      cases h
      rfl
  | lost rv hrv =>
      cases h
      exact hrv
  | unanswered rv hrv =>
      cases h
      exact hrv

theorem Fate.answered_of_failure {fate : Fate} (h : fate.failure = none) :
    fate = .answered := by
  cases fate with
  | answered => rfl
  | refused => cases h
  | lost => cases h
  | unanswered => cases h

section Accesses

variable {diaddr : Word} {t : Target} {access : Access} {req : DiPacket}

def Target.logged (t : Target) (req : DiPacket) : Target :=
  { t with sent := t.sent ++ [req.toPacket] }

theorem Target.exchange_toPacket (t : Target) (req : DiPacket) :
    Target.bus.exchange t req.toPacket = (t.logged req).answer req t.next := by
  change t.exchange req.toPacket = _
  unfold Target.exchange
  rw [requestOf_toPacket]
  rfl

theorem regAccess_answered
    (hreq : access.request diaddr = .ok req.toPacket)
    (hnext : t.next = .answered) {regs : Registers} {resp : DiPacket}
    (hserve : t.regs.serve req = some (regs, resp)) {rv : OsdResult}
    {value : List Word}
    (hresponse : access.response resp.toPacket = .ok (rv, value)) :
    regAccess Target.bus diaddr t access =
      .ok (rv, value, { t.logged req with regs }) := by
  have hserved : (t.logged req).serve req =
      (.ok resp.toPacket, { t.logged req with regs }) := by
    unfold Target.serve Target.logged
    rw [hserve]
  unfold regAccess
  rw [hreq, ok_bind, Target.exchange_toPacket, hnext, Target.answer, hserved]
  dsimp only
  rw [hresponse, ok_bind]

theorem Target.serve_cases (t : Target) (req : DiPacket) :
    (t.serve req).2.sent = t.sent ∧ (t.serve req).2.fates = t.fates ∧
      ((t.serve req).2.regs = t.regs ∨
        ∃ resp, t.regs.serve req = some ((t.serve req).2.regs, resp)) := by
  unfold Target.serve
  cases hserve : t.regs.serve req with
  | none => exact ⟨rfl, rfl, .inl rfl⟩
  | some result => exact ⟨rfl, rfl, .inr ⟨result.2, rfl⟩⟩

theorem regAccess_failure
    (hreq : access.request diaddr = .ok req.toPacket)
    (hwords : access.respWords ≤ 8) {failure : OsdResult}
    (hnext : t.next.failure = some failure) :
    ∃ t', regAccess Target.bus diaddr t access = .ok (failure, [], t') ∧
      t'.sent = t.sent ++ [req.toPacket] ∧
      (t'.regs = t.regs ∨ ∃ resp, t.regs.serve req = some (t'.regs, resp)) := by
  unfold regAccess
  rw [hreq, ok_bind, Target.exchange_toPacket]
  cases hfate : t.next with
  | answered =>
      rw [hfate] at hnext
      cases hnext
  | refused =>
      rw [hfate] at hnext
      cases hnext
      have hrefused : access.response
          (regStatus req respReadRegError).toPacket =
          .ok (osdErrorDeviceError, []) := by
        rw [access.response_eq rfl (by decide) hwords, if_pos (.inl rfl)]
      rw [Target.answer]
      dsimp only
      rw [hrefused, ok_bind]
      exact ⟨t.logged req, rfl, rfl, .inl rfl⟩
  | lost rv hrv =>
      rw [hfate] at hnext
      cases hnext
      exact ⟨t.logged req, rfl, rfl, .inl rfl⟩
  | unanswered rv hrv =>
      rw [hfate] at hnext
      cases hnext
      obtain ⟨hsent, -, hregs⟩ := (t.logged req).serve_cases req
      exact ⟨((t.logged req).serve req).2, rfl, hsent, hregs⟩

end Accesses

/-! ## The bits -/

theorem bitInserted_ok (val : Word) {bitnum : Nat} (hbit : bitnum < 16)
    (bitval : Bool) :
    ∃ val', bitInserted val bitnum bitval = .ok val' ∧ ∀ n < 16,
      val'.toBitVec.getLsbD n =
        if n = bitnum then bitval else val.toBitVec.getLsbD n := by
  unfold bitInserted
  rw [inBounds_bind (by omega)]
  refine ⟨_, rfl, ?_⟩
  intro n hn
  have hwide : n < 32 := by omega
  simp only [BitVec.getLsbD_setWidth, BitVec.getLsbD_or, BitVec.getLsbD_and,
    BitVec.getLsbD_not, BitVec.getLsbD_shiftLeft]
  by_cases hsame : n = bitnum
  · subst hsame
    simp [hn, hwide]
  · rcases Nat.lt_or_ge n bitnum with hlt | hge
    · simp [hlt, hn, hsame, hwide]
    · have hbelow : ¬n < bitnum := by omega
      have hpos : n - bitnum ≠ 0 := by omega
      simp [hn, hsame, hbelow, hpos, hwide]

/-! ## The register -/

section Register

variable {diaddr moduleAddr regAddr : Word} {value : RegValue} {bitnum : Nat}
  {bitval blocking : Bool} {t : Target}

abbrev setbitRead (moduleAddr regAddr : Word) (blocking : Bool) : Access :=
  ⟨moduleAddr, regAddr, 16, none, blocking⟩

abbrev setbitReadReq (diaddr moduleAddr regAddr : Word) (blocking : Bool) :
    DiPacket :=
  (setbitRead moduleAddr regAddr blocking).packet diaddr [] (Nat.zero_le 8)

abbrev setbitWrite (moduleAddr regAddr : Word) (blocking : Bool)
    (val : Word) : Access :=
  ⟨moduleAddr, regAddr, 16, some [val], blocking⟩

def value16 (val : Word) : RegValue := ⟨.w16, [val], rfl⟩

abbrev setbitWriteReq (diaddr moduleAddr regAddr : Word) (blocking : Bool)
    (val : Word) : DiPacket :=
  (setbitWrite moduleAddr regAddr blocking val).packet diaddr [val] (by simp)

theorem request_setbitRead (diaddr moduleAddr regAddr : Word)
    (blocking : Bool) :
    (setbitRead moduleAddr regAddr blocking).request diaddr =
      .ok (setbitReadReq diaddr moduleAddr regAddr blocking).toPacket :=
  request_read diaddr moduleAddr regAddr .w16 blocking

theorem request_setbitWrite (diaddr moduleAddr regAddr : Word)
    (blocking : Bool) (val : Word) :
    (setbitWrite moduleAddr regAddr blocking val).request diaddr =
      .ok (setbitWriteReq diaddr moduleAddr regAddr blocking val).toPacket :=
  request_write diaddr moduleAddr regAddr (value16 val) blocking

theorem flags_setbitReadReq :
    (setbitReadReq diaddr moduleAddr regAddr blocking).flags = regFlags 0 := by
  have hsubtype : (setbitRead moduleAddr regAddr blocking).subtypeReq = 0 :=
    RegWidth.getSubtypeRegReadReq_eq .w16
  rw [setbitReadReq, Access.packet, hsubtype]

theorem typeSub_setbitReadReq :
    (setbitReadReq diaddr moduleAddr regAddr blocking).typeSub = 0 :=
  (regFields flags_setbitReadReq (by decide)).2

theorem not_isWrite_setbitReadReq :
    ¬IsWrite (setbitReadReq diaddr moduleAddr regAddr blocking).toPacket := by
  rintro ⟨req, hreq, width, hwrite⟩
  rw [requestOf_toPacket] at hreq
  cases hreq
  rw [typeSub_setbitReadReq] at hwrite
  cases hwrite

theorem serve_setbitRead {regs regs' : Registers} {resp : DiPacket}
    (h : regs.serve (setbitReadReq diaddr moduleAddr regAddr blocking) =
      some (regs', resp)) : regs' = regs := by
  have htype := (regFields
    (@flags_setbitReadReq diaddr moduleAddr regAddr blocking) (by decide)).1
  unfold Registers.serve at h
  rw [if_neg (not_not.mpr htype), typeSub_setbitReadReq] at h
  simp only [regRequest, Access.packet] at h
  split at h
  · split at h
    · cases h
      rfl
    · cases h
      rfl
  · cases h
    rfl

theorem setbit_read_failed {failure : OsdResult}
    (hnext : t.next.failure = some failure) :
    ∃ t', osdHostmodRegSetbit Target.bus diaddr t bitnum bitval moduleAddr
        regAddr value.width.bits blocking = .ok (failure, t') ∧
      t'.regs = t.regs ∧
      ∀ req ∈ t'.sent.drop t.sent.length, ¬IsWrite req := by
  obtain ⟨t', hread, hsent, hregs⟩ := regAccess_failure
    (request_setbitRead diaddr moduleAddr regAddr blocking)
    (RegWidth.words_le .w16) hnext
  refine ⟨t', ?_, ?_, ?_⟩
  · unfold osdHostmodRegSetbit osdHostmodRegRead
    rw [hread, ok_bind]
    dsimp only
    rw [if_pos (Fate.osdFailed_failure hnext)]
  · rcases hregs with hsame | ⟨resp, hserve⟩
    · exact hsame
    · exact serve_setbitRead hserve
  · intro req hreq
    rw [hsent, List.drop_left, List.mem_singleton] at hreq
    rw [hreq]
    exact not_isWrite_setbitReadReq

theorem setbit_read_refused (hnext : t.next = .answered)
    (hreg : t.regs moduleAddr regAddr = some value)
    (hwidth : value.width ≠ .w16) :
    ∃ t', osdHostmodRegSetbit Target.bus diaddr t bitnum bitval moduleAddr
      regAddr value.width.bits blocking = .ok (osdErrorDeviceError, t') := by
  have htype := (regFields
    (@flags_setbitReadReq diaddr moduleAddr regAddr blocking) (by decide)).1
  have hserve : t.regs.serve (setbitReadReq diaddr moduleAddr regAddr blocking)
      = some (t.regs, regStatus
        (setbitReadReq diaddr moduleAddr regAddr blocking)
        respReadRegError) := by
    unfold Registers.serve
    rw [if_neg (not_not.mpr htype), typeSub_setbitReadReq]
    simp [regRequest, Access.packet, hreg, hwidth]
  have hresponse : (setbitRead moduleAddr regAddr blocking).response
      (regStatus (setbitReadReq diaddr moduleAddr regAddr blocking)
        respReadRegError).toPacket = .ok (osdErrorDeviceError, []) := by
    rw [(setbitRead moduleAddr regAddr blocking).response_eq rfl (by decide)
      (RegWidth.words_le .w16), if_pos (.inl rfl)]
  refine ⟨t.logged (setbitReadReq diaddr moduleAddr regAddr blocking), ?_⟩
  unfold osdHostmodRegSetbit osdHostmodRegRead
  rw [regAccess_answered (request_setbitRead diaddr moduleAddr regAddr blocking)
    hnext hserve hresponse, ok_bind]
  have hfailed : osdFailed osdErrorDeviceError = true := rfl
  dsimp only
  rw [if_pos hfailed]
  rfl

theorem regAccess_accessed {access : Access} {regs : Registers}
    {rv : OsdResult} {words : List Word}
    (h : Accessed diaddr t.regs access regs rv words)
    (hnext : t.next = .answered) :
    ∃ req, regAccess Target.bus diaddr t access =
      .ok (rv, words, { t.logged req with regs }) := by
  obtain ⟨req, resp, hreq, hserve, hresponse⟩ := h
  exact ⟨req, regAccess_answered hreq hnext hserve hresponse⟩

theorem setbit_read_ok (hnext : t.next = .answered) {val val' : Word}
    (hreg : t.regs moduleAddr regAddr = some (value16 val))
    (hval : bitInserted val bitnum bitval = .ok val') (regSizeBit : Nat) :
    ∃ req, osdHostmodRegSetbit Target.bus diaddr t bitnum bitval moduleAddr
        regAddr regSizeBit blocking =
      (regAccess Target.bus diaddr (t.logged req)
        (setbitWrite moduleAddr regAddr blocking val')) >>=
          fun result => .ok (result.1, result.2.2) := by
  have hwidth : (value16 val).width = .w16 := rfl
  have haccessed := accessed_read diaddr moduleAddr regAddr t.regs
    (value16 val) blocking hreg
    (by rw [RegWidth.getSubtypeRegReadReq_eq, hwidth]; rfl)
    (by
      rw [getSubtypeRegReadSuccessResp, RegWidth.getSubtypeRegReadReq_eq,
        hwidth]
      rfl)
  obtain ⟨req, hread⟩ := regAccess_accessed haccessed hnext
  refine ⟨req, ?_⟩
  unfold osdHostmodRegSetbit osdHostmodRegRead
  have hread' : regAccess Target.bus diaddr t
      (setbitRead moduleAddr regAddr blocking) =
        .ok (osdOk, [val], t.logged req) := hread
  rw [hread', ok_bind]
  dsimp only
  rw [if_neg (by simp), List.headD_cons, hval, ok_bind]
  rfl

theorem setbit_write_ok {val' : Word} {old : RegValue}
    (hnext : t.next = .answered)
    (hreg : t.regs moduleAddr regAddr = some old) (hwidth : old.width = .w16) :
    ∃ req, regAccess Target.bus diaddr t
        (setbitWrite moduleAddr regAddr blocking val') =
      .ok (osdOk, [], { t.logged req with
        regs := t.regs.set moduleAddr regAddr (value16 val') }) := by
  have hwidth' : (value16 val').width = .w16 := rfl
  have haccessed := accessed_write diaddr moduleAddr regAddr t.regs
    (value16 val') blocking hreg hwidth
    (by rw [RegWidth.getSubtypeRegWriteReq_eq, hwidth']; rfl)
  exact regAccess_accessed haccessed hnext

theorem next_logged (t : Target) (req : DiPacket) :
    (t.logged req).next = t.fates (t.sent.length + 1) := by
  unfold Target.next Target.logged
  rw [List.length_append, List.length_singleton]

theorem bitSet_value16 {val val' : Word}
    (h : ∀ n < 16, val'.toBitVec.getLsbD n =
      if n = bitnum then bitval else val.toBitVec.getLsbD n) :
    BitSet (value16 val) (value16 val') bitnum bitval := by
  refine ⟨rfl, ?_⟩
  intro n hn
  have hlt : n < 16 := hn
  have hindex : n / 16 = 0 := Nat.div_eq_of_lt hlt
  have hbit := h n hlt
  simpa [RegValue.bit, value16, hindex, Nat.mod_eq_of_lt hlt] using hbit

theorem eq_value16 (h : value.width = .w16) : ∃ val, value = value16 val := by
  obtain ⟨width, words, hsized⟩ := value
  cases h
  obtain ⟨val, rfl⟩ := List.length_eq_one_iff.mp hsized
  exact ⟨val, rfl⟩

theorem setsBit_16 (hbit : bitnum < 16)
    (hreg : t.regs moduleAddr regAddr = some value)
    (hwidth : value.width = .w16) :
    SetsBit diaddr moduleAddr regAddr value bitnum bitval blocking t := by
  obtain ⟨val, rfl⟩ := eq_value16 hwidth
  obtain ⟨val', hval, hbits⟩ := bitInserted_ok val hbit bitval
  unfold SetsBit
  cases hread : (t.fates t.sent.length).failure with
  | some failure =>
      obtain ⟨t', hrun, hregs, hsent⟩ := setbit_read_failed hread
      exact ⟨failure, t', hrun, rfl, hregs, hsent⟩
  | none =>
      obtain ⟨req, hrun⟩ := setbit_read_ok (Fate.answered_of_failure hread)
        hreg hval (value16 val).width.bits
      rw [hrun]
      cases hwrite : (t.fates (t.sent.length + 1)).failure with
      | some failure =>
          rw [← next_logged t req] at hwrite
          obtain ⟨t', haccess, -⟩ := regAccess_failure
            (request_setbitWrite diaddr moduleAddr regAddr blocking val')
            (Nat.zero_le 8) hwrite
          rw [haccess]
          exact ⟨failure, t', rfl, rfl⟩
      | none =>
          rw [← next_logged t req] at hwrite
          obtain ⟨req', haccess⟩ := setbit_write_ok
            (Fate.answered_of_failure hwrite) hreg rfl
          rw [haccess]
          exact ⟨osdOk, _, rfl, rfl, value16 val', bitSet_value16 hbits, rfl⟩

end Register

/-- The bit is set and failures are returned if and only if the register has
16 bit, apart from failures that end the call at its read or that cannot be
told from the refusal of the read. -/
theorem setsBit_iff {diaddr moduleAddr regAddr : Word} {value : RegValue}
    {bitnum : Nat} (hbit : bitnum < value.width.bits) (bitval blocking : Bool)
    {t : Target} (hreg : t.regs moduleAddr regAddr = some value) :
    SetsBit diaddr moduleAddr regAddr value bitnum bitval blocking t ↔
      value.width = .w16 ∨ (t.fates t.sent.length).failure ≠ none ∨
        (t.fates (t.sent.length + 1)).failure = some osdErrorDeviceError := by
  by_cases hwidth : value.width = .w16
  · rw [hwidth] at hbit
    exact iff_of_true (setsBit_16 hbit hreg hwidth) (.inl hwidth)
  · rw [or_iff_right hwidth]
    unfold SetsBit
    cases hread : (t.fates t.sent.length).failure with
    | some failure =>
        obtain ⟨t', hrun, hregs, hsent⟩ := setbit_read_failed hread
        exact iff_of_true ⟨failure, t', hrun, rfl, hregs, hsent⟩
          (.inl (by simp))
    | none =>
        obtain ⟨t', hrun⟩ := setbit_read_refused
          (Fate.answered_of_failure hread) hreg hwidth
        rw [hrun, or_iff_right (by simp)]
        cases hwrite : (t.fates (t.sent.length + 1)).failure with
        | some failure =>
            constructor
            · rintro ⟨rv, t'', hrun', rfl⟩
              cases hrun'
              rfl
            · intro hsame
              cases hsame
              exact ⟨osdErrorDeviceError, t', rfl, rfl⟩
        | none =>
            apply iff_of_false
            · rintro ⟨rv, t'', hrun', hok, -⟩
              cases hrun'
              cases hok
            · simp

def answering (value : RegValue) : Target :=
  ⟨oneRegister value, [], fun _ => .answered⟩

theorem setsBit_dead :
    SetsBit 0 1 0x200 (value16 0xdead) 3 false true
      (answering (value16 0xdead)) := by
  have hbit : 3 < (value16 0xdead).width.bits := by decide
  exact (setsBit_iff hbit false true (oneRegister_same _)).mpr (.inl rfl)

/-- A bit of a 32 bit register: the module refuses the read of 16 bit. -/
theorem not_setsBit_value32 :
    ¬SetsBit 0 1 0x200 value32 3 true false (answering value32) := by
  have hreg : (answering value32).regs 1 0x200 = some value32 :=
    oneRegister_same value32
  have hrefused : ∃ t', osdHostmodRegSetbit Target.bus 0 (answering value32) 3
      true 1 0x200 value32.width.bits false = .ok (osdErrorDeviceError, t') :=
    setbit_read_refused rfl hreg (by decide)
  obtain ⟨t', hrun⟩ := hrefused
  rintro ⟨rv, t'', hrun', hok, -⟩
  rw [hrun] at hrun'
  cases hrun'
  cases hok

end Osd.HostMod
