import Osd.Client.Modules

/-!
# Enumeration of any device

What the enumeration of a subnet does for every answer of the device: the
addresses that it builds, the entries that it accesses and the names that it
looks up.
-/

namespace Osd.Client

open Osd.Foundation

def typeName (vendor type : Word) : String :=
  if vendor = osdModuleVendorOsd then
    osdModuleTypeStdShortnames[type.toNat]?.getD "UNKNOWN"
  else "UNKNOWN"

/-- The enumeration comes to its end, and all names that it looked up are
right. -/
structure EnumeratesSafely (reads : Word → RegRead) (subnetAddr : Nat) :
    Prop where
  returns : Returns (osdHostmodGetModules reads subnetAddr)
  names : ∀ numModules localaddr addr,
    reads (UInt16.ofNat (1024 * subnetAddr)) osdRegScmNumMod =
        .ok numModules →
      1024 * subnetAddr ≤ localaddr → localaddr < numModules.toNat →
        osdDiaddrBuild subnetAddr localaddr = .ok addr →
          Described (reads (UInt16.ofNat addr)) →
            ∃ desc, osdHostmodModDescribe (reads (UInt16.ofNat addr))
                (UInt16.ofNat addr) = .ok desc ∧
              osdModuleGetTypeShortName desc.vendor.toNat desc.type.toNat =
                .ok (typeName desc.vendor desc.type)

/-- The number of modules stays within the addresses that the loop may reach,
and in subnet 0 no type lies behind the table of names. -/
def SafeAnswers (reads : Word → RegRead) (subnetAddr : Nat) : Prop :=
  ∀ numModules,
    reads (UInt16.ofNat (1024 * subnetAddr)) osdRegScmNumMod =
        .ok numModules →
      numModules.toNat ≤ 1024 * max 1 subnetAddr ∧
        (subnetAddr = 0 → ∀ i < numModules.toNat,
          ¬NamedBehind (reads (UInt16.ofNat i)))

theorem shortName_typeName {vendor type : Word}
    (h : ¬BehindNames vendor type) :
    osdModuleGetTypeShortName vendor.toNat type.toNat =
      .ok (typeName vendor type) := by
  unfold osdModuleGetTypeShortName typeName
  by_cases hvendor : vendor = osdModuleVendorOsd
  · rw [if_neg (by simp [hvendor]), if_pos hvendor]
    by_cases hlisted : type.toNat < osdModuleTypeStdShortnames.length
    · have hsize : ¬type.toNat ≥ sizeofShortnames := by
        rw [sizeofShortnames]
        omega
      rw [if_neg hsize, List.getElem?_eq_getElem hlisted]
      rfl
    · have hsize : type.toNat ≥ sizeofShortnames := by
        by_contra hnot
        exact h ⟨hvendor, by omega, by omega⟩
      rw [if_pos hsize, List.getElem?_eq_none (by omega)]
      rfl
  · rw [if_pos (by simpa [← UInt16.toNat_inj] using hvendor), if_neg hvendor]

section

variable {reads : Word → RegRead}

theorem describeModules_beyond (zero : OsdModuleDesc) (count : Nat)
    (front : List OsdModuleDesc) (hstart : front.length ≤ 1024)
    (hend : 1024 < front.length + count) (rv : OsdResult) :
    ¬Returns (describeModules reads 0 count front.length
      (rv, front ++ List.replicate count zero)) := by
  induction count generalizing front rv with
  | zero => omega
  | succ count ih =>
      by_cases hlocal : front.length < 1024
      · have hnext : (front ++ [localEntry reads front.length]).length =
            front.length + 1 := List.length_append
        rw [describeModules_succ hlocal]
        split
        · exact not_returns_error _
        · rw [← hnext]
          apply ih
          · rw [hnext]
            omega
          · rw [hnext]
            omega
      · have hbuild : osdDiaddrBuild 0 front.length = .error .assertion := by
          rw [osdDiaddrBuild, assertThat_bind (by decide),
            assertThat_bind_not]
          simp only [osdDiaddrLocalMax]
          omega
        rw [describeModules, hbuild]
        exact not_returns_error _

theorem describeModules_other {subnetAddr : Nat} (hpos : 0 < subnetAddr)
    (hsubnet : subnetAddr ≤ 63) (count : Nat)
    (result : OsdResult × List OsdModuleDesc) :
    describeModules reads subnetAddr (count + 1) (1024 * subnetAddr) result =
      .error .assertion := by
  have hbuild : osdDiaddrBuild subnetAddr (1024 * subnetAddr) =
      .error .assertion := by
    rw [osdDiaddrBuild, assertThat_bind (by simpa [osdDiaddrSubnetMax]),
      assertThat_bind_not]
    simp only [osdDiaddrLocalMax]
    omega
  rw [describeModules, hbuild]
  rfl

theorem returns_getModules_iff {subnetAddr : Nat} {numModules : Word}
    (hsubnet : subnetAddr ≤ 63)
    (hread : reads (UInt16.ofNat (1024 * subnetAddr)) osdRegScmNumMod =
      .ok numModules) :
    Returns (osdHostmodGetModules reads subnetAddr) ↔
      Returns (describeModules reads subnetAddr
        (numModules.toNat - 1024 * subnetAddr) (1024 * subnetAddr)
        (osdOk, List.replicate numModules.toNat ⟨0, 0, 0, 0⟩)) := by
  rw [osdHostmodGetModules_eq hsubnet hread]
  constructor
  · rintro ⟨result, h⟩
    obtain ⟨mods, hmods, -⟩ := bind_eq_ok.mp h
    exact ⟨mods, hmods⟩
  · rintro ⟨mods, hmods⟩
    rw [hmods]
    exact ⟨_, rfl⟩

theorem returns_describe_subnet0 (n : Nat) (zero : OsdModuleDesc) :
    Returns (describeModules reads 0 n 0 (osdOk, List.replicate n zero)) ↔
      n ≤ 1024 ∧ ∀ i < n, ¬NamedBehind (reads (UInt16.ofNat i)) := by
  have hfront : (osdOk, List.replicate n zero) =
      (osdOk, ([] : List OsdModuleDesc) ++ List.replicate n zero) := rfl
  constructor
  · intro hreturns
    have hnum : n ≤ 1024 := by
      by_contra hnot
      rw [hfront] at hreturns
      have hend : 1024 < ([] : List OsdModuleDesc).length + n := by
        rw [List.length_nil]
        omega
      exact describeModules_beyond zero n [] (by simp) hend osdOk hreturns
    refine ⟨hnum, ?_⟩
    intro i hi hbehind
    have hfault := describeModules_behind zero n [] (by simpa using hnum)
      osdOk (by simpa using hi) hbehind
    rw [hfront] at hreturns
    rw [List.length_nil] at hfault
    rw [hfault] at hreturns
    exact not_returns_error _ hreturns
  · rintro ⟨hnum, hnames⟩
    obtain ⟨retval, hrun, -⟩ := describeModules_subnet0 zero n []
      (by simpa using hnum) osdOk (fun i hi => hnames i (by simpa using hi))
    exact ⟨_, hrun⟩

theorem returns_describe_other {subnetAddr : Nat} (hpos : 0 < subnetAddr)
    (hsubnet : subnetAddr ≤ 63) (n : Nat)
    (result : OsdResult × List OsdModuleDesc) :
    Returns (describeModules reads subnetAddr (n - 1024 * subnetAddr)
        (1024 * subnetAddr) result) ↔ n ≤ 1024 * subnetAddr := by
  constructor
  · intro hreturns
    by_contra hnot
    obtain ⟨count, hcount⟩ : ∃ count, n - 1024 * subnetAddr = count + 1 :=
      ⟨n - 1024 * subnetAddr - 1, by omega⟩
    rw [hcount, describeModules_other hpos hsubnet] at hreturns
    exact not_returns_error _ hreturns
  · intro hle
    rw [Nat.sub_eq_zero_of_le hle]
    exact ⟨result, rfl⟩

theorem returns_iff_safeAnswers {subnetAddr : Nat} (hsubnet : subnetAddr ≤ 63) :
    Returns (osdHostmodGetModules reads subnetAddr) ↔
      SafeAnswers reads subnetAddr := by
  unfold SafeAnswers
  cases hread :
      reads (UInt16.ofNat (1024 * subnetAddr)) osdRegScmNumMod with
  | error rv =>
      have hcall : osdHostmodGetModules reads subnetAddr = .ok (.error rv) := by
        rw [osdHostmodGetModules, osdDiaddrBuild_eq hsubnet (by decide),
          ok_bind, Nat.add_zero, hread]
      rw [hcall]
      simp
  | ok numModules =>
      rw [returns_getModules_iff hsubnet hread]
      simp only [Except.ok.injEq, forall_eq']
      rcases Nat.eq_zero_or_pos subnetAddr with hzero | hpos
      · subst hzero
        simpa using returns_describe_subnet0 numModules.toNat ⟨0, 0, 0, 0⟩
      · rw [returns_describe_other hpos hsubnet, Nat.max_eq_right hpos]
        have hother : subnetAddr ≠ 0 := by omega
        simp [hother]

theorem enumeratesSafely_iff {subnetAddr : Nat} (hsubnet : subnetAddr ≤ 63) :
    EnumeratesSafely reads subnetAddr ↔ SafeAnswers reads subnetAddr := by
  rw [← returns_iff_safeAnswers hsubnet]
  constructor
  · intro h
    exact h.returns
  · intro hreturns
    refine ⟨hreturns, ?_⟩
    rw [returns_iff_safeAnswers hsubnet] at hreturns
    intro numModules localaddr addr hread hlow hhigh hbuild hdescribed
    obtain ⟨hnum, hnames⟩ := hreturns numModules hread
    have hzero : subnetAddr = 0 := by
      by_contra hother
      rw [Nat.max_eq_right (by omega)] at hnum
      omega
    subst hzero
    have hlocal : localaddr < 1024 := by
      rw [Nat.max_eq_left (by omega)] at hnum
      omega
    rw [osdDiaddrBuild_local hlocal] at hbuild
    cases hbuild
    refine ⟨_, modDescribe_ok hdescribed, ?_⟩
    obtain ⟨hvendor, htype⟩ := moduleEntry_name
      (reads (UInt16.ofNat localaddr)) (UInt16.ofNat localaddr)
    apply shortName_typeName
    rw [hvendor, htype]
    intro hbehind
    exact hnames rfl localaddr hhigh ⟨hdescribed, hbehind⟩

end

/-- A device with the given number of modules, all of one type. -/
def uniformDevice (numModules type : Word) : Word → RegRead := fun _ reg =>
  if reg = osdRegScmNumMod then .ok numModules
  else if reg = osdRegBaseModVendor then .ok osdModuleVendorOsd
  else if reg = osdRegBaseModType then .ok type
  else .ok 0

theorem enumeratesSafely_uniformDevice :
    EnumeratesSafely (uniformDevice 2 osdModuleTypeStdStm) 0 ↔
      SafeAnswers (uniformDevice 2 osdModuleTypeStdStm) 0 :=
  enumeratesSafely_iff (by decide)

/-- A type behind the list, and more modules than the local addresses below
the one of the SCM. -/
theorem unsafe_enumerations :
    osdHostmodGetModules (uniformDevice 1 7) 0 = .error .outOfBounds ∧
      osdHostmodGetModules (uniformDevice 1025 osdModuleTypeStdStm) 1 =
        .error .assertion ∧
      ¬EnumeratesSafely (uniformDevice 1 7) 0 := by
  have hbehind : osdHostmodGetModules (uniformDevice 1 7) 0 =
      .error .outOfBounds := rfl
  refine ⟨hbehind, ?_, ?_⟩
  · have hread : uniformDevice 1025 osdModuleTypeStdStm
        (UInt16.ofNat (1024 * 1)) osdRegScmNumMod = .ok 1025 := rfl
    have hcount : (1025 : Word).toNat - 1024 * 1 = 0 + 1 := by decide
    rw [osdHostmodGetModules_eq (by decide) hread, hcount,
      describeModules_other (by decide) (by decide)]
    rfl
  · intro h
    have hreturns := h.returns
    rw [hbehind] at hreturns
    exact not_returns_error _ hreturns

end Osd.Client
