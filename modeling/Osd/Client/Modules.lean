import Osd.Client.Describe
import Osd.Foundation.Buffer

/-!
# Modules of a subnet

`osd_hostmod_get_modules` describes the modules of a subnet one by one; a
module that cannot be described is listed as unknown.
-/

namespace Osd.Client

open Osd.Foundation

def osdErrorPartialResult : OsdResult := -7

def osdRegScmNumMod : Word := 0x0202

def osdModuleVendorUnknown : Word := 0x0000
def osdModuleTypeStdUnknown : Word := 0x0000

/-! ## Names -/

def osdModuleTypeStdShortnames : List String :=
  ["UNKNOWN", "SCM", "DEM_UART", "MAM", "STM", "CTM", "CDM"]

/-- The table of pointers, with 8 byte for each of them. -/
def sizeofShortnames : Nat := 8 * osdModuleTypeStdShortnames.length

/-- The type is compared with the size of the table in byte. -/
def osdModuleGetTypeShortName (vendorId typeId : Nat) : Outcome String :=
  if vendorId ≠ osdModuleVendorOsd.toNat then .ok "UNKNOWN"
  else if typeId ≥ sizeofShortnames then .ok "UNKNOWN"
  else
    match osdModuleTypeStdShortnames[typeId]? with
    | none => .error .outOfBounds
    | some name => .ok name

/-- A type whose name is looked up behind the end of the table. -/
def BehindNames (vendor type : Word) : Prop :=
  vendor = osdModuleVendorOsd ∧
    osdModuleTypeStdShortnames.length ≤ type.toNat ∧
    type.toNat < sizeofShortnames

instance (vendor type : Word) : Decidable (BehindNames vendor type) :=
  inferInstanceAs (Decidable (_ ∧ _ ∧ _))

theorem shortName_behind {vendor type : Word} (h : BehindNames vendor type) :
    osdModuleGetTypeShortName vendor.toNat type.toNat =
      .error .outOfBounds := by
  obtain ⟨rfl, hlength, hsize⟩ := h
  unfold osdModuleGetTypeShortName
  rw [if_neg (by simp), if_neg (Nat.not_le.mpr hsize),
    List.getElem?_eq_none hlength]

theorem shortName_ok {vendor type : Word} (h : ¬BehindNames vendor type) :
    ∃ name, osdModuleGetTypeShortName vendor.toNat type.toNat = .ok name := by
  unfold osdModuleGetTypeShortName
  by_cases hvendor : vendor = osdModuleVendorOsd
  · rw [if_neg (by simp [hvendor])]
    by_cases hsize : type.toNat ≥ sizeofShortnames
    · exact ⟨_, if_pos hsize⟩
    · have hlisted : type.toNat < osdModuleTypeStdShortnames.length := by
        by_contra hnot
        exact h ⟨hvendor, by omega, by omega⟩
      rw [if_neg hsize, List.getElem?_eq_getElem hlisted]
      exact ⟨_, rfl⟩
  · rw [if_pos (by simpa [← UInt16.toNat_inj] using hvendor)]
    exact ⟨_, rfl⟩

/-! ## Enumeration -/

/-- The modules from local address `localaddr` on, with the result so far. -/
def describeModules (reads : Word → RegRead) (subnetAddr : Nat) :
    Nat → Nat → OsdResult × List OsdModuleDesc →
      Outcome (OsdResult × List OsdModuleDesc)
  | 0, _, result => .ok result
  | count + 1, localaddr, (retval, mods) => do
      let diaddr ← osdDiaddrBuild subnetAddr localaddr
      let moduleAddr := UInt16.ofNat diaddr
      inBounds (moduleAddr.toNat < mods.length)
      match osdHostmodModDescribe (reads moduleAddr) moduleAddr with
      | .error _ =>
          let desc := ⟨moduleAddr, osdModuleVendorUnknown,
            osdModuleTypeStdUnknown, 0⟩
          describeModules reads subnetAddr count (localaddr + 1)
            (osdErrorPartialResult, mods.set moduleAddr.toNat desc)
      | .ok desc => do
          let _ ← osdModuleGetTypeShortName desc.vendor.toNat desc.type.toNat
          describeModules reads subnetAddr count (localaddr + 1)
            (retval, mods.set moduleAddr.toNat desc)

/-- The loop starts at the address of the SCM. -/
def osdHostmodGetModules (reads : Word → RegRead) (subnetAddr : Nat) :
    Outcome (Except OsdResult (OsdResult × List OsdModuleDesc)) := do
  let scmDiaddr ← osdDiaddrBuild subnetAddr 0
  match reads (UInt16.ofNat scmDiaddr) osdRegScmNumMod with
  | .error rv => .ok (.error rv)
  | .ok numModules => do
      let mods := List.replicate numModules.toNat ⟨0, 0, 0, 0⟩
      let result ← describeModules reads subnetAddr
        (numModules.toNat - scmDiaddr) scmDiaddr (osdOk, mods)
      .ok (.ok result)

/-! ## What is listed -/

/-- All three registers of the description are read. -/
def Described (read : RegRead) : Prop :=
  (read osdRegBaseModVendor).isOk = true ∧
    (read osdRegBaseModType).isOk = true ∧
    (read osdRegBaseModVersion).isOk = true

instance (read : RegRead) : Decidable (Described read) :=
  inferInstanceAs (Decidable (_ ∧ _ ∧ _))

def moduleEntry (read : RegRead) (addr : Word) : OsdModuleDesc :=
  match read osdRegBaseModVendor, read osdRegBaseModType,
    read osdRegBaseModVersion with
  | .ok vendor, .ok type, .ok version => ⟨addr, vendor, type, version⟩
  | _, _, _ => ⟨addr, osdModuleVendorUnknown, osdModuleTypeStdUnknown, 0⟩

/-- The list of the `n` modules of a subnet. -/
structure Enumerated (reads : Word → RegRead) (subnetAddr n : Nat)
    (result : OsdResult × List OsdModuleDesc) : Prop where
  length : result.2.length = n
  entry : ∀ i < n, ∃ addr, osdDiaddrBuild subnetAddr i = .ok addr ∧
    result.2[i]? = some (moduleEntry (reads (UInt16.ofNat addr))
      (UInt16.ofNat addr))
  complete : result.1 = osdOk ↔ ∀ i < n, ∀ addr,
    osdDiaddrBuild subnetAddr i = .ok addr →
      Described (reads (UInt16.ofNat addr))
  partially : result.1 = osdOk ∨ result.1 = osdErrorPartialResult

theorem modDescribe_ok {read : RegRead} {addr : Word} (h : Described read) :
    osdHostmodModDescribe read addr = .ok (moduleEntry read addr) := by
  obtain ⟨hvendor, htype, hversion⟩ := h
  unfold osdHostmodModDescribe moduleEntry
  cases hv : read osdRegBaseModVendor with
  | error rv => simp [hv, Except.isOk, Except.toBool] at hvendor
  | ok vendor =>
      cases ht : read osdRegBaseModType with
      | error rv => simp [ht, Except.isOk, Except.toBool] at htype
      | ok type =>
          cases hn : read osdRegBaseModVersion with
          | error rv => simp [hn, Except.isOk, Except.toBool] at hversion
          | ok version => rfl

theorem modDescribe_error {read : RegRead} (h : ¬Described read)
    (addr : Word) :
    (∃ rv, osdHostmodModDescribe read addr = .error rv) ∧
      moduleEntry read addr =
        ⟨addr, osdModuleVendorUnknown, osdModuleTypeStdUnknown, 0⟩ := by
  unfold osdHostmodModDescribe moduleEntry
  cases hv : read osdRegBaseModVendor with
  | error rv => exact ⟨⟨rv, rfl⟩, rfl⟩
  | ok vendor =>
      cases ht : read osdRegBaseModType with
      | error rv => exact ⟨⟨rv, rfl⟩, rfl⟩
      | ok type =>
          cases hn : read osdRegBaseModVersion with
          | error rv => exact ⟨⟨rv, rfl⟩, rfl⟩
          | ok version =>
              exact absurd ⟨by rw [hv]; rfl, by rw [ht]; rfl,
                by rw [hn]; rfl⟩ h

/-- The name of a module that answers is looked up behind the table. -/
def NamedBehind (read : RegRead) : Prop :=
  Described read ∧ BehindNames (moduleEntry read 0).vendor
    (moduleEntry read 0).type

instance (read : RegRead) : Decidable (NamedBehind read) :=
  inferInstanceAs (Decidable (_ ∧ _))

/-- The entries of subnet 0, where both numberings agree. -/
def localEntry (reads : Word → RegRead) (localaddr : Nat) : OsdModuleDesc :=
  moduleEntry (reads (UInt16.ofNat localaddr)) (UInt16.ofNat localaddr)

section

variable {reads : Word → RegRead}

theorem moduleEntry_name (read : RegRead) (addr : Word) :
    (moduleEntry read addr).vendor = (moduleEntry read 0).vendor ∧
      (moduleEntry read addr).type = (moduleEntry read 0).type := by
  unfold moduleEntry
  split <;> exact ⟨rfl, rfl⟩

theorem describeModules_succ {front : List OsdModuleDesc}
    {zero : OsdModuleDesc} (hlocal : front.length < 1024) (count : Nat)
    (rv : OsdResult) :
    describeModules reads 0 (count + 1) front.length
        (rv, front ++ List.replicate (count + 1) zero) =
      if NamedBehind (reads (UInt16.ofNat front.length)) then
        .error .outOfBounds
      else
        describeModules reads 0 count (front.length + 1)
          (if Described (reads (UInt16.ofNat front.length)) then rv
            else osdErrorPartialResult,
            (front ++ [localEntry reads front.length]) ++
              List.replicate count zero) := by
  have hbuild : osdDiaddrBuild 0 front.length = .ok front.length := by
    rw [osdDiaddrBuild_eq (by decide) (by omega), Nat.mul_zero, Nat.zero_add]
  have haddr : (UInt16.ofNat front.length).toNat = front.length := by
    rw [UInt16.toNat_ofNat']
    exact Nat.mod_eq_of_lt (by omega)
  have hinside : front.length <
      (front ++ List.replicate (count + 1) zero).length := by
    rw [List.length_append, List.length_replicate]
    omega
  rw [describeModules, hbuild, ok_bind, localEntry]
  dsimp only
  rw [haddr, inBounds_bind hinside, set_next]
  by_cases hdescribed : Described (reads (UInt16.ofNat front.length))
  · obtain ⟨hvendor, htype⟩ := moduleEntry_name
      (reads (UInt16.ofNat front.length)) (UInt16.ofNat front.length)
    rw [modDescribe_ok hdescribed, if_pos hdescribed]
    dsimp only
    rw [hvendor, htype]
    by_cases hbehind : BehindNames
        (moduleEntry (reads (UInt16.ofNat front.length)) 0).vendor
        (moduleEntry (reads (UInt16.ofNat front.length)) 0).type
    · rw [if_pos ⟨hdescribed, hbehind⟩, shortName_behind hbehind]
      rfl
    · obtain ⟨name, hname⟩ := shortName_ok hbehind
      rw [if_neg fun h => hbehind h.2, hname, ok_bind, set_next]
  · obtain ⟨⟨rv', hfailed⟩, hentry⟩ := modDescribe_error hdescribed
      (UInt16.ofNat front.length)
    rw [hfailed, if_neg hdescribed, if_neg fun h => hdescribed h.1, hentry]

/-- The invariant of the loop: the entries before `localaddr` are complete,
the others are still zero. -/
theorem describeModules_subnet0 (zero : OsdModuleDesc) (count : Nat)
    (front : List OsdModuleDesc) (hend : front.length + count ≤ 1024)
    (rv : OsdResult)
    (hnames : ∀ i ∈ List.range' front.length count,
      ¬NamedBehind (reads (UInt16.ofNat i))) :
    ∃ retval, describeModules reads 0 count front.length
        (rv, front ++ List.replicate count zero) =
      .ok (retval, front ++ (List.range' front.length count).map
        (localEntry reads)) ∧
      (retval = osdOk ↔ rv = osdOk ∧ ∀ i ∈ List.range' front.length count,
        Described (reads (UInt16.ofNat i))) ∧
      (retval = rv ∨ retval = osdErrorPartialResult) := by
  induction count generalizing front rv with
  | zero => exact ⟨rv, by simp [describeModules], by simp, .inl rfl⟩
  | succ count ih =>
      have hnext : (front ++ [localEntry reads front.length]).length =
          front.length + 1 := List.length_append
      rw [List.range'_succ] at hnames ⊢
      obtain ⟨hname, hnames⟩ := List.forall_mem_cons.mp hnames
      have ih := ih (front ++ [localEntry reads front.length])
        (by rw [hnext]; omega)
      rw [hnext] at ih
      rw [describeModules_succ (by omega), if_neg hname]
      simp only [List.forall_mem_cons, List.map_cons]
      by_cases hdescribed : Described (reads (UInt16.ofNat front.length))
      · obtain ⟨retval, hrun, hcomplete, hpartial⟩ := ih rv hnames
        rw [if_pos hdescribed, hrun]
        refine ⟨retval, by simp, ?_, hpartial⟩
        rw [hcomplete]
        simp [hdescribed]
      · obtain ⟨retval, hrun, hcomplete, hpartial⟩ :=
          ih osdErrorPartialResult hnames
        rw [if_neg hdescribed, hrun]
        refine ⟨retval, by simp, ?_, .inr (or_self_iff.mp hpartial)⟩
        rw [hcomplete]
        simp [hdescribed, osdErrorPartialResult, osdOk]

theorem describeModules_behind (zero : OsdModuleDesc) (count : Nat)
    (front : List OsdModuleDesc) (hend : front.length + count ≤ 1024)
    (rv : OsdResult) {i : Nat} (hi : i ∈ List.range' front.length count)
    (hbehind : NamedBehind (reads (UInt16.ofNat i))) :
    describeModules reads 0 count front.length
        (rv, front ++ List.replicate count zero) = .error .outOfBounds := by
  induction count generalizing front rv with
  | zero => cases hi
  | succ count ih =>
      have hnext : (front ++ [localEntry reads front.length]).length =
          front.length + 1 := List.length_append
      rw [describeModules_succ (by omega)]
      split
      · rfl
      · rename_i hname
        rw [List.range'_succ] at hi
        rcases List.mem_cons.mp hi with rfl | hlater
        · exact absurd hbehind hname
        · rw [← hnext]
          apply ih
          · rw [hnext]
            omega
          · rwa [hnext]

theorem osdHostmodGetModules_eq {subnetAddr : Nat} {numModules : Word}
    (hsubnet : subnetAddr ≤ 63)
    (hread : reads (UInt16.ofNat (1024 * subnetAddr)) osdRegScmNumMod =
      .ok numModules) :
    osdHostmodGetModules reads subnetAddr = (do
      let result ← describeModules reads subnetAddr
        (numModules.toNat - 1024 * subnetAddr) (1024 * subnetAddr)
        (osdOk, List.replicate numModules.toNat ⟨0, 0, 0, 0⟩)
      .ok (.ok result)) := by
  unfold osdHostmodGetModules
  rw [osdDiaddrBuild_eq hsubnet (by decide), ok_bind, Nat.add_zero, hread]

/-- In the other subnets the loop does not run. -/
theorem osdHostmodGetModules_other {subnetAddr : Nat} {numModules : Word}
    (hsubnet : subnetAddr ≤ 63) (hother : subnetAddr ≠ 0)
    (hnum : numModules.toNat ≤ 1024)
    (hread : reads (UInt16.ofNat (1024 * subnetAddr)) osdRegScmNumMod =
      .ok numModules) :
    osdHostmodGetModules reads subnetAddr =
      .ok (.ok (osdOk, List.replicate numModules.toNat ⟨0, 0, 0, 0⟩)) := by
  rw [osdHostmodGetModules_eq hsubnet hread, Nat.sub_eq_zero_of_le (by omega)]
  rfl

theorem osdDiaddrBuild_local {localaddr : Nat} (h : localaddr < 1024) :
    osdDiaddrBuild 0 localaddr = .ok localaddr := by
  rw [osdDiaddrBuild_eq (by decide) (by omega), Nat.mul_zero, Nat.zero_add]

theorem enumerated_subnet0 {n : Nat} (hnum : n ≤ 1024)
    (hnames : ∀ i < n, ¬NamedBehind (reads (UInt16.ofNat i))) :
    ∃ result, describeModules reads 0 n 0
        (osdOk, List.replicate n ⟨0, 0, 0, 0⟩) = .ok result ∧
      Enumerated reads 0 n result := by
  obtain ⟨retval, hrun, hcomplete, hpartial⟩ :=
    describeModules_subnet0 ⟨0, 0, 0, 0⟩ n [] (by simpa using hnum)
      osdOk (fun i hi => hnames i (by simpa using hi))
  simp only [List.length_nil, List.nil_append] at hrun hcomplete
  refine ⟨_, hrun, by simp, ?_, ?_, hpartial⟩
  · intro i hi
    refine ⟨i, osdDiaddrBuild_local (by omega), ?_⟩
    dsimp only
    rw [List.getElem?_map, ← List.range_eq_range', List.getElem?_range hi]
    rfl
  · dsimp only
    rw [hcomplete, true_and]
    constructor
    · intro hall i hi addr haddr
      rw [osdDiaddrBuild_local (by omega)] at haddr
      cases haddr
      exact hall i (by simpa using hi)
    · intro hall i hi
      have hlt : i < n := by simpa using hi
      exact hall i hlt i (osdDiaddrBuild_local (by omega))

theorem not_enumerated_other {subnetAddr n : Nat} (hsubnet : subnetAddr ≤ 63)
    (hother : subnetAddr ≠ 0) (hpos : 0 < n) :
    ¬Enumerated reads subnetAddr n
      (osdOk, List.replicate n ⟨0, 0, 0, 0⟩) := by
  intro h
  obtain ⟨addr, haddr, hentry⟩ := h.entry 0 hpos
  rw [osdDiaddrBuild_eq hsubnet (by decide)] at haddr
  cases haddr
  rw [List.getElem?_replicate, if_pos hpos, Option.some.injEq] at hentry
  have hzero := congrArg (fun desc => desc.addr.toNat) hentry
  have haddr (read : RegRead) (addr : Word) :
      (moduleEntry read addr).addr = addr := by
    unfold moduleEntry
    split <;> rfl
  simp only [haddr, UInt16.toNat_ofNat'] at hzero
  change 0 = (1024 * subnetAddr + 0) % 2 ^ 16 at hzero
  omega

theorem enumerated_empty {subnetAddr : Nat} :
    Enumerated reads subnetAddr 0 (osdOk, []) where
  length := rfl
  entry := fun i hi => absurd hi (Nat.not_lt_zero i)
  complete := by simp
  partially := .inl rfl

end

/-- A subnet is enumerated completely if and only if it has no modules, or it
is subnet 0 and no name is looked up behind the table. -/
theorem osdHostmodGetModules_iff {reads : Word → RegRead} {subnetAddr : Nat}
    {numModules : Word} (hsubnet : subnetAddr ≤ 63)
    (hnum : numModules.toNat ≤ 1024)
    (hread : reads (UInt16.ofNat (1024 * subnetAddr)) osdRegScmNumMod =
      .ok numModules) :
    (∃ result, osdHostmodGetModules reads subnetAddr = .ok (.ok result) ∧
        Enumerated reads subnetAddr numModules.toNat result) ↔
      numModules = 0 ∨ subnetAddr = 0 ∧
        ∀ i < numModules.toNat, ¬NamedBehind (reads (UInt16.ofNat i)) := by
  have hzero : numModules = 0 ↔ numModules.toNat = 0 := by
    rw [← UInt16.toNat_inj]
    rfl
  by_cases hsubnet0 : subnetAddr = 0
  · subst hsubnet0
    rw [osdHostmodGetModules_eq hsubnet hread, hzero, Nat.mul_zero,
      Nat.sub_zero, and_iff_right rfl]
    generalize numModules.toNat = n at hnum
    by_cases hnames : ∀ i < n, ¬NamedBehind (reads (UInt16.ofNat i))
    · obtain ⟨result, hrun, henumerated⟩ := enumerated_subnet0 hnum hnames
      rw [hrun]
      exact iff_of_true ⟨result, rfl, henumerated⟩ (.inr hnames)
    · simp only [not_forall, not_not] at hnames
      obtain ⟨i, hi, hbehind⟩ := hnames
      have hfault := describeModules_behind ⟨0, 0, 0, 0⟩ n []
        (by simpa using hnum) osdOk (by simpa using hi) hbehind
      simp only [List.length_nil, List.nil_append] at hfault
      rw [hfault]
      apply iff_of_false
      · rintro ⟨result, hrun, -⟩
        cases hrun
      · rintro (rfl | hall)
        · exact absurd hi (Nat.not_lt_zero i)
        · exact hall i hi hbehind
  · rw [osdHostmodGetModules_other hsubnet hsubnet0 hnum hread, hzero]
    by_cases hpos : numModules.toNat = 0
    · rw [hpos]
      exact iff_of_true ⟨_, rfl, enumerated_empty⟩ (.inl rfl)
    · apply iff_of_false
      · rintro ⟨result, hrun, henumerated⟩
        cases hrun
        exact not_enumerated_other hsubnet hsubnet0 (by omega) henumerated
      · exact not_or.mpr ⟨hpos, fun h => hsubnet0 h.1⟩

/-- Three modules with one type; the second one does not answer. -/
def threeModules (type : Word) : Word → RegRead := fun addr reg =>
  if reg = osdRegScmNumMod then .ok 3
  else if addr = 1 then .error osdErrorTimedout
  else if reg = osdRegBaseModVendor then .ok osdModuleVendorOsd
  else if reg = osdRegBaseModType then .ok type
  else .ok 0

theorem enumerated_threeModules :
    ∃ result, osdHostmodGetModules (threeModules osdModuleTypeStdStm) 0 =
        .ok (.ok result) ∧
      Enumerated (threeModules osdModuleTypeStdStm) 0 3 result := by
  have hread : threeModules osdModuleTypeStdStm (UInt16.ofNat (1024 * 0))
      osdRegScmNumMod = .ok 3 := rfl
  exact (osdHostmodGetModules_iff (by decide) (by decide) hread).mpr
    (.inr ⟨rfl, by decide⟩)

/-- In subnet 1 all entries stay zero; in subnet 0 the first type behind the
list is looked up behind the table. -/
theorem not_enumerated_threeModules :
    (¬∃ result, osdHostmodGetModules (threeModules osdModuleTypeStdStm) 1 =
        .ok (.ok result) ∧
      Enumerated (threeModules osdModuleTypeStdStm) 1 3 result) ∧
    osdHostmodGetModules (threeModules 7) 0 = .error .outOfBounds := by
  constructor
  · rintro ⟨result, hrun, henumerated⟩
    have hread : threeModules osdModuleTypeStdStm (UInt16.ofNat (1024 * 1))
        osdRegScmNumMod = .ok 3 := rfl
    rw [osdHostmodGetModules_other (by decide) (by decide) (by decide) hread]
      at hrun
    cases hrun
    exact not_enumerated_other (by decide) (by decide) (by decide) henumerated
  · rfl

end Osd.Client
