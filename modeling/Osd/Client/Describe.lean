import Osd.Packet

/-!
# Descriptors of debug modules

`osd_hostmod_mod_describe` and the functions of the clients that fill the
descriptor of a module from its registers.
-/

namespace Osd.Client

open Osd.Foundation

def osdErrorWrongModule : OsdResult := -14

abbrev RegRead := Word → Except OsdResult Word

def osdRegBaseModVendor : Word := 0x0000
def osdRegBaseModType : Word := 0x0001
def osdRegBaseModVersion : Word := 0x0002
def osdRegStmValwidth : Word := 0x0200
def osdRegCtmAddrWidth : Word := 0x0200
def osdRegCtmDataWidth : Word := 0x0201
def osdRegCdmCoreCtrl : Word := 0x0200
def osdRegCdmCoreRegUpper : Word := 0x0201
def osdRegCdmCoreDataWidth : Word := 0x0202

def osdModuleVendorOsd : Word := 0x0001
def osdModuleTypeStdDemUart : Word := 0x0002
def osdModuleTypeStdStm : Word := 0x0004
def osdModuleTypeStdCtm : Word := 0x0005
def osdModuleTypeStdCdm : Word := 0x0006

structure OsdModuleDesc where
  addr : Word
  vendor : Word
  type : Word
  version : Word

def osdHostmodModDescribe (read : RegRead) (diAddr : Word) :
    Except OsdResult OsdModuleDesc := do
  let vendor ← read osdRegBaseModVendor
  let type ← read osdRegBaseModType
  let version ← read osdRegBaseModVersion
  .ok ⟨diAddr, vendor, type, version⟩

/-- The module is there and is version 0 of a standard type. -/
def isModule (read : RegRead) (diAddr typeStd : Word) : Bool :=
  match osdHostmodModDescribe read diAddr with
  | .error _ => false
  | .ok desc =>
      desc.vendor = osdModuleVendorOsd ∧ desc.type = typeStd ∧
        desc.version = 0

def isStmModule (read : RegRead) (diAddr : Word) : Bool :=
  isModule read diAddr osdModuleTypeStdStm

def isCtmModule (read : RegRead) (diAddr : Word) : Bool :=
  isModule read diAddr osdModuleTypeStdCtm

def isCdmModule (read : RegRead) (diAddr : Word) : Bool :=
  isModule read diAddr osdModuleTypeStdCdm

def isDemUartModule (read : RegRead) (diAddr : Word) : Bool :=
  isModule read diAddr osdModuleTypeStdDemUart

/-! ## System trace -/

structure OsdStmDesc where
  diAddr : Nat
  valueWidthBit : Word

/-- A width register holds one of the widths of the specification. -/
def ValidWidth (regvalue : Word) : Prop :=
  regvalue = 16 ∨ regvalue = 32 ∨ regvalue = 64

instance (regvalue : Word) : Decidable (ValidWidth regvalue) :=
  inferInstanceAs (Decidable (_ ∨ _ ∨ _))

/-- A width register, with the assertion that it is valid. -/
def readWidth (read : RegRead) (regAddr : Word) :
    Outcome (Except OsdResult Word) :=
  match read regAddr with
  | .error rv => .ok (.error rv)
  | .ok regvalue => do
      assertThat (ValidWidth regvalue)
      .ok (.ok regvalue)

def osdClStmGetDesc (read : RegRead) (stmDiAddr : Nat) :
    Outcome (Except OsdResult OsdStmDesc) :=
  if isStmModule read (UInt16.ofNat stmDiAddr) then do
    match ← readWidth read osdRegStmValwidth with
    | .error rv => .ok (.error rv)
    | .ok valueWidthBit => .ok (.ok ⟨stmDiAddr, valueWidthBit⟩)
  else .ok (.error osdErrorWrongModule)

/-! ## Core trace -/

structure OsdCtmDesc where
  diAddr : Nat
  addrWidthBit : Word
  dataWidthBit : Word

def osdClCtmGetDesc (read : RegRead) (ctmDiAddr : Nat) :
    Outcome (Except OsdResult OsdCtmDesc) :=
  if isCtmModule read (UInt16.ofNat ctmDiAddr) then do
    match ← readWidth read osdRegCtmAddrWidth with
    | .error rv => .ok (.error rv)
    | .ok addrWidthBit => do
        match ← readWidth read osdRegCtmDataWidth with
        | .error rv => .ok (.error rv)
        | .ok dataWidthBit =>
            .ok (.ok ⟨ctmDiAddr, addrWidthBit, dataWidthBit⟩)
  else .ok (.error osdErrorWrongModule)

/-! ## Core debug -/

structure OsdCdmDesc where
  diAddr : Nat
  coreCtrl : Word
  coreRegUpper : Word
  coreDataWidth : Word

def osdClCdmGetDesc (read : RegRead) (cdmDiAddr : Nat) :
    Except OsdResult OsdCdmDesc :=
  if isCdmModule read (UInt16.ofNat cdmDiAddr) then do
    let coreCtrl ← read osdRegCdmCoreCtrl
    let coreRegUpper ← read osdRegCdmCoreRegUpper
    let coreDataWidth ← read osdRegCdmCoreDataWidth
    .ok ⟨cdmDiAddr, coreCtrl, coreRegUpper, coreDataWidth⟩
  else .error osdErrorWrongModule

/-! ## Device emulation -/

structure OsdDemUartDesc where
  diAddr : Word

def osdClDemUartGetDesc (read : RegRead) (demUartDiAddr : Word) :
    Except OsdResult OsdDemUartDesc :=
  if isDemUartModule read demUartDiAddr then .ok ⟨demUartDiAddr⟩
  else .error osdErrorWrongModule

/-! ## Filled descriptors -/

theorem validWidth_of_readWidth {read : RegRead} {regAddr regvalue : Word}
    (h : readWidth read regAddr = .ok (.ok regvalue)) :
    ValidWidth regvalue := by
  unfold readWidth at h
  split at h
  · cases h
  · obtain ⟨hvalid, h⟩ := assertThat_bind_eq_ok.mp h
    cases h
    exact hvalid

theorem osdClStmGetDesc_valid {read : RegRead} {stmDiAddr : Nat}
    {desc : OsdStmDesc} (h : osdClStmGetDesc read stmDiAddr = .ok (.ok desc)) :
    ValidWidth desc.valueWidthBit := by
  unfold osdClStmGetDesc at h
  split at h
  · obtain ⟨width, hwidth, h⟩ := bind_eq_ok.mp h
    cases width with
    | error rv => cases h
    | ok valueWidthBit =>
        cases h
        exact validWidth_of_readWidth hwidth
  · cases h

theorem osdClCtmGetDesc_valid {read : RegRead} {ctmDiAddr : Nat}
    {desc : OsdCtmDesc} (h : osdClCtmGetDesc read ctmDiAddr = .ok (.ok desc)) :
    ValidWidth desc.addrWidthBit := by
  unfold osdClCtmGetDesc at h
  split at h
  · obtain ⟨addrWidth, haddr, h⟩ := bind_eq_ok.mp h
    cases addrWidth with
    | error rv => cases h
    | ok addrWidthBit =>
        obtain ⟨dataWidth, -, h⟩ := bind_eq_ok.mp h
        cases dataWidth with
        | error rv => cases h
        | ok dataWidthBit =>
            cases h
            exact validWidth_of_readWidth haddr
  · cases h

theorem osdClCdmGetDesc_upper {read : RegRead} {cdmDiAddr : Nat}
    {desc : OsdCdmDesc} (h : osdClCdmGetDesc read cdmDiAddr = .ok desc) :
    read osdRegCdmCoreRegUpper = .ok desc.coreRegUpper := by
  unfold osdClCdmGetDesc at h
  split at h
  · cases hctrl : read osdRegCdmCoreCtrl with
    | error rv =>
        rw [hctrl] at h
        cases h
    | ok coreCtrl =>
        cases hupper : read osdRegCdmCoreRegUpper with
        | error rv =>
            rw [hctrl, hupper] at h
            cases h
        | ok coreRegUpper =>
            cases hwidth : read osdRegCdmCoreDataWidth with
            | error rv =>
                rw [hctrl, hupper, hwidth] at h
                cases h
            | ok coreDataWidth =>
                rw [hctrl, hupper, hwidth] at h
                cases h
                rfl
  · cases h

end Osd.Client
