import Osd.HostMod.RegAccess

/-!
# Register widths

The subtypes that `enum osd_packet_type_reg_subtype` names for each width of a
register, a module that follows them, and a write followed by a read of the
same register.
-/

namespace Osd.HostMod

open Osd.Foundation

/-! ## The protocol -/

inductive RegWidth where
  | w16
  | w32
  | w64
  | w128
  deriving DecidableEq

namespace RegWidth

def bits : RegWidth → Nat
  | .w16 => 16
  | .w32 => 32
  | .w64 => 64
  | .w128 => 128

def words (width : RegWidth) : Nat := width.bits / 16

def respReadRegSuccess : RegWidth → Nat
  | .w16 => 0b1000
  | .w32 => 0b1001
  | .w64 => 0b1010
  | .w128 => 0b1011

end RegWidth

inductive RegRequest where
  | read (width : RegWidth)
  | write (width : RegWidth)

/-- The request that a subtype encodes. -/
def regRequest : Nat → Option RegRequest
  | 0b0000 => some (.read .w16)
  | 0b0001 => some (.read .w32)
  | 0b0010 => some (.read .w64)
  | 0b0011 => some (.read .w128)
  | 0b0100 => some (.write .w16)
  | 0b0101 => some (.write .w32)
  | 0b0110 => some (.write .w64)
  | 0b0111 => some (.write .w128)
  | _ => none

/-! ## The modules -/

/-- A value of a register of some width. -/
structure RegValue where
  width : RegWidth
  words : List Word
  sized : words.length = width.words

/-- The registers of all modules, by module address and register address. -/
abbrev Registers := Word → Word → Option RegValue

def Registers.set (regs : Registers) (diaddr regAddr : Word)
    (value : RegValue) : Registers :=
  fun diaddr' regAddr' =>
    if diaddr' = diaddr ∧ regAddr' = regAddr then some value
    else regs diaddr' regAddr'

@[simp] theorem Registers.set_same (regs : Registers) (diaddr regAddr : Word)
    (value : RegValue) : regs.set diaddr regAddr value diaddr regAddr = some value := by
  simp [Registers.set]

theorem Registers.set_other (regs : Registers) {diaddr regAddr : Word}
    (value : RegValue) {diaddr' regAddr' : Word}
    (h : (diaddr', regAddr') ≠ (diaddr, regAddr)) :
    regs.set diaddr regAddr value diaddr' regAddr' = regs diaddr' regAddr' := by
  unfold Registers.set
  rw [if_neg]
  simpa using h

def regFlags (typeSub : Nat) : Word :=
  flagsWithTypeSub (UInt16.ofNat osdPacketTypeReg <<< 14) typeSub

def regStatus (req : DiPacket) (typeSub : Nat) : DiPacket where
  dest := req.src
  src := req.dest
  flags := regFlags typeSub
  payload := []
  fits := by decide

theorem RegWidth.words_le (width : RegWidth) : width.words ≤ 8 := by
  cases width <;> decide

def RegValue.response (value : RegValue) (req : DiPacket) : DiPacket where
  dest := req.src
  src := req.dest
  flags := regFlags value.width.respReadRegSuccess
  payload := value.words
  fits := by
    have hsmall := value.width.words_le
    rw [value.sized]
    omega

/-- A register packet as the module it is for serves it.  A request of another
width than the register's, or of another size, fails. -/
def Registers.serve (regs : Registers) (req : DiPacket) :
    Option (Registers × DiPacket) :=
  if typeOfFlags req.flags ≠ osdPacketTypeReg then none
  else
    match regRequest req.typeSub, req.payload with
    | some (.read width), [regAddr] =>
        match regs req.dest regAddr with
        | some value =>
            if value.width = width then some (regs, value.response req)
            else some (regs, regStatus req respReadRegError)
        | none => some (regs, regStatus req respReadRegError)
    | some (.read _), _ => some (regs, regStatus req respReadRegError)
    | some (.write width), regAddr :: words =>
        match regs req.dest regAddr with
        | some value =>
            if hsized : value.width = width ∧ words.length = width.words then
              some (regs.set req.dest regAddr ⟨width, words, hsized.2⟩,
                regStatus req respWriteRegSuccess)
            else some (regs, regStatus req respWriteRegError)
        | none => some (regs, regStatus req respWriteRegError)
    | some (.write _), [] => some (regs, regStatus req respWriteRegError)
    | none, _ => none

/-- A call whose request is served and whose response arrives. -/
def Accessed (diaddr : Word) (regs : Registers) (access : Access)
    (regs' : Registers) (rv : OsdResult) (value : List Word) : Prop :=
  ∃ req resp : DiPacket, access.request diaddr = .ok req.toPacket ∧
    regs.serve req = some (regs', resp) ∧
    access.response resp.toPacket = .ok (rv, value)

/-- The value is written, no other register changes, and it is read back. -/
def RoundTrip (diaddr : Word) (regs : Registers) (moduleAddr regAddr : Word)
    (value : RegValue) (blocking : Bool) : Prop :=
  ∃ regs', Accessed diaddr regs
      ⟨moduleAddr, regAddr, value.width.bits, some value.words, blocking⟩ regs'
      osdOk [] ∧
    (∀ moduleAddr' regAddr',
      (moduleAddr', regAddr') ≠ (moduleAddr, regAddr) →
        regs' moduleAddr' regAddr' = regs moduleAddr' regAddr') ∧
    ∃ regs'', Accessed diaddr regs'
      ⟨moduleAddr, regAddr, value.width.bits, none, blocking⟩ regs'' osdOk
      value.words

/-! ## Requests -/

theorem typeOfFlags_regFlags : ∀ typeSub < 16,
    typeOfFlags (regFlags typeSub) = osdPacketTypeReg := by decide

theorem typeSubOfFlags_regFlags : ∀ typeSub < 16,
    typeSubOfFlags (regFlags typeSub) = typeSub := by decide

def Access.packet (diaddr : Word) (access : Access) (wrData : List Word)
    (hfits : wrData.length ≤ 8) : DiPacket where
  dest := access.diaddr
  src := diaddr
  flags := regFlags access.subtypeReq
  payload := access.regAddr :: wrData
  fits := by
    rw [List.length_cons]
    omega

theorem regaccessRequest_eq (diaddr : Word) (access : Access)
    (wrData : List Word) (hfits : wrData.length ≤ 8)
    (htypeSub : access.subtypeReq < 16) :
    regaccessRequest diaddr access.diaddr access.regAddr access.subtypeReq
      wrData = .ok (access.packet diaddr wrData hfits).toPacket := by
  have hsize : (1 + wrData.length + packetHeaderWordCnt) % 2 ^ 32 =
      wrData.length + 4 := by
    rw [packetHeaderWordCnt]
    omega
  have hdest := access.diaddr.toNat_lt
  have hsrc := diaddr.toNat_lt
  have hstore := storeWords_behind
    [access.diaddr, diaddr, regFlags access.subtypeReq]
    (List.replicate (wrData.length + 1) 0) (access.regAddr :: wrData) (by simp)
  unfold regaccessRequest osdPacketSizeconvPayload2data
  rw [hsize]
  dsimp only
  rw [assertThat_bind (by omega), ok_bind, osdPacketSetHeader_new
    (by rw [packetHeaderWordCnt]; omega) (by omega) hdest hsrc (by decide)
    htypeSub, ok_bind]
  simp only [UInt16.ofNat_toNat]
  rw [show wrData.length + 4 - 3 = wrData.length + 1 by omega]
  exact hstore ▸ rfl

theorem RegWidth.bits_legal (width : RegWidth) :
    width.bits % 16 = 0 ∧ width.bits ≤ 128 := by
  cases width <;> decide

theorem RegWidth.subtypes_lt (width : RegWidth) :
    getSubtypeRegReadReq width.bits < 16 ∧
      getSubtypeRegWriteReq width.bits < 16 := by
  cases width <;> decide

theorem request_read (diaddr moduleAddr regAddr : Word) (width : RegWidth)
    (blocking : Bool) :
    Access.request diaddr ⟨moduleAddr, regAddr, width.bits, none, blocking⟩ =
      .ok (Access.packet diaddr
        ⟨moduleAddr, regAddr, width.bits, none, blocking⟩ []
        (by simp)).toPacket := by
  unfold Access.request
  rw [assertThat_bind width.bits_legal]
  exact regaccessRequest_eq diaddr _ [] _ width.subtypes_lt.1

theorem request_write (diaddr moduleAddr regAddr : Word) (value : RegValue)
    (blocking : Bool) :
    Access.request diaddr
        ⟨moduleAddr, regAddr, value.width.bits, some value.words, blocking⟩ =
      .ok (Access.packet diaddr
        ⟨moduleAddr, regAddr, value.width.bits, some value.words, blocking⟩
        value.words (value.sized.trans_le value.width.words_le)).toPacket := by
  have hwords : value.width.bits / 16 = value.words.length := value.sized.symm
  unfold Access.request
  rw [assertThat_bind value.width.bits_legal]
  unfold Access.reqWords
  dsimp only
  rw [loadBytes_eq (by omega), ok_bind, List.drop_zero, hwords,
    List.take_length]
  exact regaccessRequest_eq diaddr
    ⟨moduleAddr, regAddr, value.width.bits, some value.words, blocking⟩ _ _
    value.width.subtypes_lt.2

/-! ## Responses -/

theorem Access.response_eq (access : Access) {resp : DiPacket}
    {typeSub : Nat} (hflags : resp.flags = regFlags typeSub)
    (htypeSub : typeSub < 16) (hwords : access.respWords ≤ 8) :
    access.response resp.toPacket =
      if typeSub = respReadRegError ∨ typeSub = respWriteRegError then
        .ok (osdErrorDeviceError, [])
      else if typeSub ≠ access.subtypeResp ∨
          resp.payload.length ≠ access.respWords then
        .ok (osdErrorDeviceInvalidData, [])
      else .ok (osdOk, resp.payload) := by
  have htype : typeOfFlags resp.flags = osdPacketTypeReg := by
    rw [hflags]
    exact typeOfFlags_regFlags typeSub htypeSub
  have hsame : resp.typeSub = typeSub := by
    rw [DiPacket.typeSub, hflags]
    exact typeSubOfFlags_regFlags typeSub htypeSub
  have hsize : osdPacketSizeconvPayload2data access.respWords =
      .ok (access.respWords + packetHeaderWordCnt) := by
    have hmod : (access.respWords + packetHeaderWordCnt) % 2 ^ 32 =
        access.respWords + packetHeaderWordCnt := by
      rw [packetHeaderWordCnt]
      omega
    unfold osdPacketSizeconvPayload2data
    rw [hmod]
    exact assertThat_bind (by rw [packetHeaderWordCnt]; omega)
  unfold Access.response regaccessResponse
  rw [DiPacket.getType_toPacket, ok_bind, assertThat_bind htype,
    DiPacket.getTypeSub_toPacket, ok_bind, hsame, hsize]
  by_cases herror : typeSub = respReadRegError ∨ typeSub = respWriteRegError
  · simp only [if_pos herror, ok_bind, checkSize]
  by_cases hexpected : typeSub = access.subtypeResp
  · rw [if_neg herror, if_neg herror, if_neg (not_not.mpr hexpected), ok_bind,
      ok_bind]
    dsimp only [checkSize]
    rw [DiPacket.toPacket_size]
    by_cases hlength : resp.payload.length = access.respWords
    · have hload : loadBytes resp.toPacket.dataRaw packetHeaderWordCnt
          access.respWords = .ok resp.payload := by
        rw [loadBytes_eq (by simp [hlength, packetHeaderWordCnt]; omega)]
        simp [packetHeaderWordCnt, ← hlength]
      rw [if_neg (by simp [hlength, packetHeaderWordCnt]), hload, ok_bind,
        if_neg (by simp [hexpected, hlength])]
    · rw [if_pos (by simp [hlength, packetHeaderWordCnt]),
        if_pos (by simp [hlength])]
  · simp [herror, hexpected, checkSize]

/-! ## Round trips -/

section

variable {diaddr moduleAddr regAddr : Word} {regs regs' : Registers}
  {access : Access} {rv : OsdResult} {value : List Word}

theorem Accessed.result {req resp : DiPacket} {served : Registers}
    (h : Accessed diaddr regs access regs' rv value)
    (hrequest : access.request diaddr = .ok req.toPacket)
    (hserve : regs.serve req = some (served, resp)) :
    regs' = served ∧ access.response resp.toPacket = .ok (rv, value) := by
  obtain ⟨req', resp', hrequest', hserve', hresponse⟩ := h
  rw [hrequest] at hrequest'
  obtain rfl : req = req' :=
    DiPacket.toPacket_injective (Except.ok.inj hrequest')
  rw [hserve] at hserve'
  cases hserve'
  exact ⟨rfl, hresponse⟩

theorem Accessed.refused {req : DiPacket} {served : Registers} {typeSub : Nat}
    (h : Accessed diaddr regs access regs' rv value)
    (hrequest : access.request diaddr = .ok req.toPacket)
    (hserve : regs.serve req = some (served, regStatus req typeSub))
    (htypeSub : typeSub = respReadRegError ∨ typeSub = respWriteRegError)
    (hwords : access.respWords ≤ 8) : rv = osdErrorDeviceError := by
  obtain ⟨-, hresponse⟩ := h.result hrequest hserve
  have hlt : typeSub < 16 := by
    rcases htypeSub with rfl | rfl <;> decide
  rw [access.response_eq rfl hlt hwords, if_pos htypeSub] at hresponse
  cases hresponse
  rfl

theorem regFields {req : DiPacket}
    {typeSub : Nat} (hflags : req.flags = regFlags typeSub)
    (htypeSub : typeSub < 16) :
    typeOfFlags req.flags = osdPacketTypeReg ∧ req.typeSub = typeSub := by
  rw [DiPacket.typeSub, hflags]
  exact ⟨typeOfFlags_regFlags typeSub htypeSub,
    typeSubOfFlags_regFlags typeSub htypeSub⟩

section

variable {req : DiPacket} {typeSub : Nat} {width : RegWidth}
  {words : List Word}

theorem Registers.serve_read (hflags : req.flags = regFlags typeSub)
    (htypeSub : typeSub < 16)
    (hrequest : regRequest typeSub = some (.read width))
    (hpayload : req.payload = [regAddr]) {value : RegValue}
    (hreg : regs req.dest regAddr = some value)
    (hwidth : value.width = width) :
    regs.serve req = some (regs, value.response req) := by
  obtain ⟨htype, hsame⟩ := regFields hflags htypeSub
  unfold Registers.serve
  rw [if_neg (not_not.mpr htype), hsame, hrequest, hpayload]
  dsimp only
  rw [hreg]
  dsimp only
  rw [if_pos hwidth]

theorem Registers.serve_write (hflags : req.flags = regFlags typeSub)
    (htypeSub : typeSub < 16)
    (hrequest : regRequest typeSub = some (.write width))
    (hpayload : req.payload = regAddr :: words) {old : RegValue}
    (hreg : regs req.dest regAddr = some old)
    (hsized : old.width = width ∧ words.length = width.words) :
    regs.serve req =
      some (regs.set req.dest regAddr ⟨width, words, hsized.2⟩,
        regStatus req respWriteRegSuccess) := by
  obtain ⟨htype, hsame⟩ := regFields hflags htypeSub
  unfold Registers.serve
  rw [if_neg (not_not.mpr htype), hsame, hrequest, hpayload]
  dsimp only
  rw [hreg]
  dsimp only
  rw [dif_pos hsized]

theorem Registers.serve_refused (hflags : req.flags = regFlags typeSub)
    (htypeSub : typeSub < 16)
    (hrequest : regRequest typeSub = some (.write width))
    (hpayload : req.payload = regAddr :: words)
    (hother : ∀ old, regs req.dest regAddr = some old →
      ¬(old.width = width ∧ words.length = width.words)) :
    regs.serve req = some (regs, regStatus req respWriteRegError) := by
  obtain ⟨htype, hsame⟩ := regFields hflags htypeSub
  unfold Registers.serve
  rw [if_neg (not_not.mpr htype), hsame, hrequest, hpayload]
  dsimp only
  cases hreg : regs req.dest regAddr with
  | none => rfl
  | some old =>
      dsimp only
      rw [dif_neg (hother old hreg)]

end

end

section

variable (diaddr moduleAddr regAddr : Word) (regs : Registers)
  (value : RegValue) (blocking : Bool)

abbrev readOf : Access :=
  ⟨moduleAddr, regAddr, value.width.bits, none, blocking⟩

abbrev writeOf : Access :=
  ⟨moduleAddr, regAddr, value.width.bits, some value.words, blocking⟩

abbrev readReqOf : DiPacket :=
  (readOf moduleAddr regAddr value blocking).packet diaddr [] (by simp)

abbrev writeReqOf : DiPacket :=
  (writeOf moduleAddr regAddr value blocking).packet diaddr value.words
    (value.sized.trans_le value.width.words_le)

theorem accessed_read (hreg : regs moduleAddr regAddr = some value)
    (hrequest : regRequest (getSubtypeRegReadReq value.width.bits) =
      some (.read value.width))
    (hresponse : getSubtypeRegReadSuccessResp value.width.bits =
      value.width.respReadRegSuccess) :
    Accessed diaddr regs (readOf moduleAddr regAddr value blocking) regs osdOk
      value.words := by
  have hsubtype : (readOf moduleAddr regAddr value blocking).subtypeReq < 16 :=
    value.width.subtypes_lt.1
  have hwords : value.words.length =
      (readOf moduleAddr regAddr value blocking).respWords := value.sized
  refine ⟨readReqOf diaddr moduleAddr regAddr value blocking,
    value.response (readReqOf diaddr moduleAddr regAddr value blocking),
    request_read .., ?_, ?_⟩
  · exact Registers.serve_read rfl hsubtype hrequest rfl hreg rfl
  · have hlt : value.width.respReadRegSuccess < 16 := by
      cases value.width <;> decide
    have hsuccess : ¬(value.width.respReadRegSuccess = respReadRegError ∨
        value.width.respReadRegSuccess = respWriteRegError) := by
      cases value.width <;> decide
    have hsmall : (readOf moduleAddr regAddr value blocking).respWords ≤ 8 :=
      value.width.words_le
    rw [Access.response_eq _ rfl hlt hsmall, if_neg hsuccess, if_neg]
    · rfl
    · simp [Access.subtypeResp, hresponse, RegValue.response, hwords]

theorem accessed_write {old : RegValue}
    (hreg : regs moduleAddr regAddr = some old)
    (hwidth : old.width = value.width)
    (hrequest : regRequest (getSubtypeRegWriteReq value.width.bits) =
      some (.write value.width)) :
    Accessed diaddr regs (writeOf moduleAddr regAddr value blocking)
      (regs.set moduleAddr regAddr value) osdOk [] := by
  have hsubtype : (writeOf moduleAddr regAddr value blocking).subtypeReq < 16 :=
    value.width.subtypes_lt.2
  refine ⟨writeReqOf diaddr moduleAddr regAddr value blocking,
    regStatus (writeReqOf diaddr moduleAddr regAddr value blocking)
      respWriteRegSuccess, request_write .., ?_, ?_⟩
  · exact Registers.serve_write rfl hsubtype hrequest rfl hreg
      ⟨hwidth, value.sized⟩
  · rw [Access.response_eq _ rfl (by decide) (by simp [Access.respWords]),
      if_neg (by decide), if_neg]
    · rfl
    · simp [Access.subtypeResp, Access.respWords, regStatus]

theorem Accessed.write_refused (width : RegWidth) {old : RegValue}
    {regs' : Registers} {rv : OsdResult} {words : List Word}
    (hreg : regs moduleAddr regAddr = some old) (hwidth : old.width ≠ width)
    (hrequest : regRequest (getSubtypeRegWriteReq value.width.bits) =
      some (.write width))
    (h : Accessed diaddr regs (writeOf moduleAddr regAddr value blocking) regs'
      rv words) : rv = osdErrorDeviceError := by
  have hsubtype : (writeOf moduleAddr regAddr value blocking).subtypeReq < 16 :=
    value.width.subtypes_lt.2
  have hother : ∀ other, regs moduleAddr regAddr = some other →
      ¬(other.width = width ∧ value.words.length = width.words) := by
    rintro other hother ⟨hsame, -⟩
    obtain rfl : old = other := Option.some.inj (hreg.symm.trans hother)
    exact hwidth hsame
  have hserve : regs.serve
      (writeReqOf diaddr moduleAddr regAddr value blocking) = _ :=
    Registers.serve_refused rfl hsubtype hrequest rfl hother
  exact h.refused (request_write ..) hserve (.inr rfl)
    (by simp [Access.respWords])

theorem Accessed.read_refused (width : RegWidth) {regs' : Registers}
    {rv : OsdResult} {words : List Word}
    (hrequest : regRequest (getSubtypeRegReadReq value.width.bits) =
      some (.write width))
    (h : Accessed diaddr regs (readOf moduleAddr regAddr value blocking) regs'
      rv words) : rv = osdErrorDeviceError := by
  have hsubtype : (readOf moduleAddr regAddr value blocking).subtypeReq < 16 :=
    value.width.subtypes_lt.1
  have hempty : ([] : List Word).length ≠ width.words := by
    cases width <;> decide
  have hserve : regs.serve
      (readReqOf diaddr moduleAddr regAddr value blocking) = _ :=
    Registers.serve_refused rfl hsubtype hrequest rfl
      fun old hreg hsized => hempty hsized.2
  exact h.refused (request_read ..) hserve (.inr rfl) value.width.words_le

/-- Written and read back at a width whose subtypes are the protocol's. -/
theorem roundTrip_of_subtypes {old : RegValue}
    (hreg : regs moduleAddr regAddr = some old)
    (hwidth : old.width = value.width)
    (hwrite : regRequest (getSubtypeRegWriteReq value.width.bits) =
      some (.write value.width))
    (hread : regRequest (getSubtypeRegReadReq value.width.bits) =
      some (.read value.width))
    (hresponse : getSubtypeRegReadSuccessResp value.width.bits =
      value.width.respReadRegSuccess) :
    RoundTrip diaddr regs moduleAddr regAddr value blocking := by
  refine ⟨_, accessed_write diaddr moduleAddr regAddr regs value blocking hreg
    hwidth hwrite, fun _ _ hother => regs.set_other value hother,
    regs.set moduleAddr regAddr value, ?_⟩
  exact accessed_read diaddr moduleAddr regAddr _ value blocking (by simp)
    hread hresponse

/-- What the host makes of a width, less the bit for a write. -/
def RegWidth.hostSubtype : RegWidth → Nat
  | .w16 => 0b000
  | .w32 => 0b001
  | .w64 => 0b011
  | .w128 => 0b111

theorem RegWidth.getSubtypeRegReadReq_eq (width : RegWidth) :
    getSubtypeRegReadReq width.bits = width.hostSubtype := by
  unfold getSubtypeRegReadReq
  cases width <;> simp [bits, hostSubtype]

theorem RegWidth.getSubtypeRegWriteReq_eq (width : RegWidth) :
    getSubtypeRegWriteReq width.bits = width.hostSubtype ||| 0b100 := by
  unfold getSubtypeRegWriteReq
  cases width <;> simp [bits, hostSubtype]

/-- The host agrees with the protocol on 16 and 32 bit registers only: a 64 bit
request encodes 128 bit, and a 128 bit read encodes a write. -/
theorem roundTrip_iff_width {old : RegValue}
    (hreg : regs moduleAddr regAddr = some old)
    (hwidth : old.width = value.width) :
    RoundTrip diaddr regs moduleAddr regAddr value blocking ↔
      value.width = .w16 ∨ value.width = .w32 := by
  have hread := value.width.getSubtypeRegReadReq_eq
  have hwrite := value.width.getSubtypeRegWriteReq_eq
  have hresponse : getSubtypeRegReadSuccessResp value.width.bits =
      value.width.hostSubtype ||| 0b1000 := by
    rw [getSubtypeRegReadSuccessResp, hread]
  cases hvalue : value.width with
  | w16 =>
      refine iff_of_true ?_ (.inl rfl)
      apply roundTrip_of_subtypes _ _ _ _ _ _ hreg hwidth
      · rw [hwrite, hvalue]
        rfl
      · rw [hread, hvalue]
        rfl
      · rw [hresponse, hvalue]
        rfl
  | w32 =>
      refine iff_of_true ?_ (.inr rfl)
      apply roundTrip_of_subtypes _ _ _ _ _ _ hreg hwidth
      · rw [hwrite, hvalue]
        rfl
      · rw [hread, hvalue]
        rfl
      · rw [hresponse, hvalue]
        rfl
  | w64 =>
      refine iff_of_false ?_ (by simp)
      rintro ⟨regs', hwritten, -⟩
      have hrefused := hwritten.write_refused diaddr moduleAddr regAddr regs
        value blocking .w128 hreg (by simp [hwidth, hvalue])
        (by rw [hwrite, hvalue]; rfl)
      cases hrefused
  | w128 =>
      refine iff_of_false ?_ (by simp)
      rintro ⟨regs', -, -, regs'', hloaded⟩
      have hrefused := hloaded.read_refused diaddr moduleAddr regAddr regs'
        value blocking .w128 (by rw [hread, hvalue]; rfl)
      cases hrefused

end

def oneRegister (value : RegValue) : Registers :=
  Registers.set (fun _ _ => none) 1 0x200 value

theorem oneRegister_same (value : RegValue) :
    oneRegister value 1 0x200 = some value := by
  unfold oneRegister
  exact Registers.set_same _ 1 0x200 value

def value32 : RegValue := ⟨.w32, [0x1234, 0xabcd], rfl⟩

theorem roundTrip_value32 :
    RoundTrip 0 (oneRegister value32) 1 0x200 value32 false := by
  have hreg := oneRegister_same value32
  exact (roundTrip_iff_width 0 1 0x200 (oneRegister value32) value32 false hreg
    rfl).mpr (.inr rfl)

def value64 : RegValue := ⟨.w64, [1, 2, 3, 4], rfl⟩

/-- The write is answered by an error. -/
theorem not_roundTrip_value64 :
    ¬RoundTrip 0 (oneRegister value64) 1 0x200 value64 false := by
  rintro ⟨regs', hwritten, -⟩
  have hvalue : value64.width = .w64 := rfl
  have hrequest : regRequest (getSubtypeRegWriteReq value64.width.bits) =
      some (.write .w128) := by
    rw [RegWidth.getSubtypeRegWriteReq_eq, hvalue]
    rfl
  have hrefused := hwritten.write_refused 0 1 0x200 (oneRegister value64)
    value64 false .w128 (oneRegister_same value64) (by simp [hvalue]) hrequest
  cases hrefused

end Osd.HostMod
