import Osd.Client.Startup

/-!
# Control of a subnet

The system control module has the identification of its subnet, and a bit that
holds the CPUs of the subnet in reset.
-/

namespace Osd.HostMod

open Osd.Foundation

/-! ## Bits that are set twice -/

section Bits

variable {first second third : RegValue} {bitnum : Nat} {bitval : Bool}

theorem BitSet.trans {other : Bool} (h : BitSet first second bitnum other)
    (h' : BitSet second third bitnum bitval) :
    BitSet first third bitnum bitval := by
  refine ⟨h'.1.trans h.1, ?_⟩
  intro n hn
  rw [h'.2 n (by rw [h.1]; exact hn), h.2 n hn]
  split <;> rfl

theorem bit_value16 (val : Word) {n : Nat} (hn : n < 16) :
    (value16 val).bit n = val.toBitVec.getLsbD n := by
  simp [RegValue.bit, value16, Nat.div_eq_of_lt hn, Nat.mod_eq_of_lt hn]

/-- A bit that is set to what it was. -/
theorem BitSet.eq_of_same {val : Word} {new : RegValue}
    (h : BitSet (value16 val) new bitnum bitval)
    (hsame : (value16 val).bit bitnum = bitval) : new = value16 val := by
  obtain ⟨val', rfl⟩ := eq_value16 h.1
  have hbits : val'.toBitVec = val.toBitVec := by
    apply BitVec.eq_of_getLsbD_eq
    intro n hn
    have hbit := h.2 n hn
    rw [← bit_value16 val' hn, ← bit_value16 val hn, hbit]
    split
    · rename_i hn'
      rw [hn', hsame]
    · rfl
  rw [UInt16.toBitVec_inj.mp hbits]

end Bits

section Set

variable {regs : Registers} {moduleAddr regAddr : Word}

theorem Registers.set_set (first second : RegValue) :
    (regs.set moduleAddr regAddr first).set moduleAddr regAddr second =
      regs.set moduleAddr regAddr second := by
  funext moduleAddr' regAddr'
  unfold Registers.set
  split <;> rfl

theorem Registers.set_id {value : RegValue}
    (h : regs moduleAddr regAddr = some value) :
    regs.set moduleAddr regAddr value = regs := by
  funext moduleAddr' regAddr'
  unfold Registers.set
  split
  · rename_i hsame
    rw [hsame.1, hsame.2, h]
  · rfl

end Set

end Osd.HostMod

namespace Osd.Client

open Osd.Foundation Osd.HostMod

def osdDiaddrLocalScm : Nat := 0
def osdRegScmSystemVendorId : Word := 0x0200
def osdRegScmSystemDeviceId : Word := 0x0201
def osdRegScmMaxPktLen : Word := 0x0203
def osdRegScmSysrst : Word := 0x0204
def osdRegScmSysrstCpuRstBit : Nat := 1

structure OsdSubnetDesc where
  vendorId : Word
  deviceId : Word
  maxPktLen : Word

def getScmDiaddr (subnetAddr : Nat) : Outcome Nat :=
  osdDiaddrBuild subnetAddr osdDiaddrLocalScm

section

variable {σ : Type} (bus : Bus σ) (diaddr : Word)

/-- The bit that starts and stops the CPUs. -/
def setCpuRst (bitval : Bool) (subnetAddr : Nat) : RegCall σ Unit :=
  fun s => do
    let scmDiaddr ← getScmDiaddr subnetAddr
    regSetbit16 bus diaddr true osdRegScmSysrstCpuRstBit bitval
      (UInt16.ofNat scmDiaddr) osdRegScmSysrst s

def osdClScmCpusStart (subnetAddr : Nat) : RegCall σ Unit :=
  setCpuRst bus diaddr false subnetAddr

def osdClScmCpusStop (subnetAddr : Nat) : RegCall σ Unit :=
  setCpuRst bus diaddr true subnetAddr

def osdMemaccessCpusStart (subnetAddr : Nat) : RegCall σ Unit :=
  osdClScmCpusStart bus diaddr subnetAddr

def osdMemaccessCpusStop (subnetAddr : Nat) : RegCall σ Unit :=
  osdClScmCpusStop bus diaddr subnetAddr

def osdClScmGetSubnetinfo (subnetAddr : Nat) : RegCall σ OsdSubnetDesc :=
  fun s => do
    let scmDiaddr ← getScmDiaddr subnetAddr
    let read := regRead16 bus diaddr false (UInt16.ofNat scmDiaddr)
    (read osdRegScmSystemVendorId).next (fun vendorId =>
      (read osdRegScmSystemDeviceId).next fun deviceId =>
      (read osdRegScmMaxPktLen).next fun maxPktLen =>
      .returns ⟨vendorId, deviceId, maxPktLen⟩) s

end

/-! ## Calls that may fail -/

section Calls

variable {diaddr : Word} {subnetAddr : Nat} {t : Target} {val : Word}

/-- The address of the system control module of a subnet. -/
def scmModule (subnetAddr : Nat) : Word := UInt16.ofNat (subnetAddr * 1024)

theorem getScmDiaddr_eq (hsubnet : subnetAddr ≤ osdDiaddrSubnetMax) :
    getScmDiaddr subnetAddr = .ok (subnetAddr * 1024) := by
  unfold getScmDiaddr osdDiaddrBuild
  rw [assertThat_bind hsubnet, assertThat_bind (by decide)]
  simp [osdDiaddrLocalScm, Nat.shiftLeft_eq]

def sysrstReg (subnetAddr : Nat) (moduleAddr regAddr : Word) : Prop :=
  moduleAddr = scmModule subnetAddr ∧ regAddr = osdRegScmSysrst

theorem performs_setCpuRst (bitval : Bool)
    (hsubnet : subnetAddr ≤ osdDiaddrSubnetMax)
    (hreg : t.regs (scmModule subnetAddr) osdRegScmSysrst =
      some (value16 val)) :
    Performs 2 (sysrstReg subnetAddr)
      (setCpuRst Target.bus diaddr bitval subnetAddr)
      (fun _ t' => ∃ new,
        BitSet (value16 val) new osdRegScmSysrstCpuRstBit bitval ∧
        t'.regs = t.regs.set (scmModule subnetAddr) osdRegScmSysrst new)
      t := by
  have hcall : setCpuRst Target.bus diaddr bitval subnetAddr =
      regSetbit16 Target.bus diaddr true osdRegScmSysrstCpuRstBit bitval
        (scmModule subnetAddr) osdRegScmSysrst := by
    funext s
    unfold setCpuRst
    rw [getScmDiaddr_eq hsubnet, ok_bind]
    rfl
  rw [hcall]
  exact performs_setbit (by decide) hreg ⟨rfl, rfl⟩

theorem performs_subnetinfo {vendorId deviceId maxPktLen : Word}
    {writes : Word → Word → Prop} (hsubnet : subnetAddr ≤ osdDiaddrSubnetMax)
    (hvendor : t.regs (scmModule subnetAddr) osdRegScmSystemVendorId =
      some (value16 vendorId))
    (hdevice : t.regs (scmModule subnetAddr) osdRegScmSystemDeviceId =
      some (value16 deviceId))
    (hlength : t.regs (scmModule subnetAddr) osdRegScmMaxPktLen =
      some (value16 maxPktLen)) :
    Performs 3 writes (osdClScmGetSubnetinfo Target.bus diaddr subnetAddr)
      (fun info t' => info = ⟨vendorId, deviceId, maxPktLen⟩ ∧
        t'.regs = t.regs) t := by
  have hcall : osdClScmGetSubnetinfo Target.bus diaddr subnetAddr =
      (regRead16 Target.bus diaddr false (scmModule subnetAddr)
        osdRegScmSystemVendorId).next fun vendorId =>
      (regRead16 Target.bus diaddr false (scmModule subnetAddr)
        osdRegScmSystemDeviceId).next fun deviceId =>
      (regRead16 Target.bus diaddr false (scmModule subnetAddr)
        osdRegScmMaxPktLen).next fun maxPktLen =>
      .returns (OsdSubnetDesc.mk vendorId deviceId maxPktLen) := by
    funext s
    unfold osdClScmGetSubnetinfo
    rw [getScmDiaddr_eq hsubnet, ok_bind]
    rfl
  rw [hcall]
  exact performs_reads OsdSubnetDesc.mk hvendor hdevice hlength

end Calls

/-- A module whose CPUs run. -/
def scmRunning : Target :=
  ⟨fun moduleAddr regAddr =>
    if moduleAddr = 1024 ∧ regAddr = osdRegScmSysrst then some (value16 0)
    else none, [], fun _ => .answered⟩

end Osd.Client
