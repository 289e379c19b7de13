import Osd.Client.Enumeration
import Osd.Client.MamDesc

/-!
# Memories of a subnet

`osd_memaccess_find_memories` counts the supported MAMs in the list of modules
and fills one descriptor for each of them in a second pass.
-/

namespace Osd.Client

open Osd.Foundation

def osdModuleTypeStdMam : Word := 0x0003

def isSupportedMam (mod : OsdModuleDesc) : Bool :=
  mod.vendor = osdModuleVendorOsd ∧ mod.type = osdModuleTypeStdMam ∧
    mod.version = 0

/-- A descriptor in memory from `calloc`. -/
def OsdMemDesc.zero : OsdMemDesc := ⟨0, 0, 0, 0, fun _ => ⟨0, 0⟩⟩

/-- The second pass, with the result so far. -/
def describeMemories (reads : Word → RegRead) :
    List OsdModuleDesc → Nat → OsdResult × List OsdMemDesc →
      Outcome (OsdResult × List OsdMemDesc)
  | [], _, result => .ok result
  | mod :: mods, memNr, (retval, mems) =>
      if isSupportedMam mod then
        match mems[memNr]? with
        | none => .error .outOfBounds
        | some mem => do
            let (rv, mem) ← osdClMamGetMemDesc (reads mod.addr)
              mod.addr.toNat mem
            match rv with
            | .error _ =>
                describeMemories reads mods (memNr + 1)
                  (osdErrorPartialResult, mems.set memNr mem)
            | .ok () =>
                describeMemories reads mods (memNr + 1)
                  (retval, mems.set memNr mem)
      else describeMemories reads mods memNr (retval, mems)

/-- The result and the two outputs, where they are written. -/
structure FoundMemories where
  retval : OsdResult
  memories : Option (List OsdMemDesc)
  numMemories : Option Nat

/-- The registers are read by `reads` while the modules are listed and by
`descReads` afterwards; their contents may have changed. -/
def osdMemaccessFindMemories (reads descReads : Word → RegRead)
    (subnetAddr : Nat) : Outcome FoundMemories := do
  match ← osdHostmodGetModules reads subnetAddr with
  | .error rv => .ok ⟨rv, none, none⟩
  | .ok (rv, mods) =>
      if osdFailed rv then .ok ⟨rv, none, none⟩
      else do
        let memCnt := mods.countP isSupportedMam
        let mems := List.replicate memCnt OsdMemDesc.zero
        let (retval, mems) ← describeMemories descReads mods 0 (osdOk, mems)
        .ok ⟨retval, some mems, some memCnt⟩

/-! ## What is found -/

/-- The descriptor that is filled for a module. -/
def Fills (reads : Word → RegRead) (mod : OsdModuleDesc)
    (memDesc : OsdMemDesc) : Prop :=
  memDesc.diAddr = mod.addr.toNat ∧ ∃ result, osdClMamGetMemDesc
    (reads mod.addr) mod.addr.toNat OsdMemDesc.zero = .ok (result, memDesc)

/-- The descriptor of a module is read without an error. -/
def FilledCompletely (reads : Word → RegRead) (mod : OsdModuleDesc) : Prop :=
  ∃ memDesc, osdClMamGetMemDesc (reads mod.addr) mod.addr.toNat
    OsdMemDesc.zero = .ok (.ok (), memDesc)

/-- The outputs for the list `mods`, which was delivered with `rv`. -/
structure ReturnsFound (reads : Word → RegRead) (rv : OsdResult)
    (mods : List OsdModuleDesc) (found : FoundMemories) : Prop where
  numMemories :
    found.numMemories = some (mods.filter isSupportedMam).length
  memories : ∃ memories, found.memories = some memories ∧
    List.Forall₂ (Fills reads) (mods.filter isSupportedMam) memories
  complete : found.retval = osdOk ↔ rv = osdOk ∧
    ∀ mod ∈ mods, isSupportedMam mod → FilledCompletely reads mod
  partially : found.retval = osdOk ∨ found.retval = osdErrorPartialResult

def RegionsBounded (read : RegRead) : Prop :=
  ∀ aw dw n, Header read aw dw n → n.toNat % 256 ≤ 8

/-! ## The second pass -/

section SecondPass

variable {reads : Word → RegRead} {mod : OsdModuleDesc}
  {mods : List OsdModuleDesc}

def retvalAfter (retval : OsdResult) : Except OsdResult Unit → OsdResult
  | .error _ => osdErrorPartialResult
  | .ok () => retval

theorem describeMemories_supported (h : isSupportedMam mod) (count : Nat)
    (retval : OsdResult) (front : List OsdMemDesc) :
    describeMemories reads (mod :: mods) front.length
        (retval, front ++ List.replicate (count + 1) OsdMemDesc.zero) =
      (osdClMamGetMemDesc (reads mod.addr) mod.addr.toNat OsdMemDesc.zero >>=
        fun filled => describeMemories reads mods (front.length + 1)
          (retvalAfter retval filled.1, (front ++ [filled.2]) ++
            List.replicate count OsdMemDesc.zero)) := by
  have hentry : (front ++ List.replicate (count + 1)
      OsdMemDesc.zero)[front.length]? = some OsdMemDesc.zero := by
    rw [List.getElem?_append_right (Nat.le_refl _), Nat.sub_self,
      List.replicate_succ, List.getElem?_cons_zero]
  rw [describeMemories, if_pos h]
  simp only [hentry, set_next]
  congr 1
  funext filled
  rcases filled with ⟨_ | _, memDesc⟩ <;> rfl

theorem describeMemories_other (h : ¬isSupportedMam mod) (memNr : Nat)
    (result : OsdResult × List OsdMemDesc) :
    describeMemories reads (mod :: mods) memNr result =
      describeMemories reads mods memNr result := by
  rw [describeMemories, if_neg h]

theorem getMemDesc_unbounded {read : RegRead} (h : ¬RegionsBounded read)
    (mamDiAddr : Nat) (memDesc : OsdMemDesc) :
    osdClMamGetMemDesc read mamDiAddr memDesc = .error .assertion := by
  unfold RegionsBounded at h
  push Not at h
  obtain ⟨aw, dw, n, hheader, hn⟩ := h
  exact getMemDesc_assertion mamDiAddr memDesc hheader hn

/-- The invariant of the loop: the descriptors before `mem_nr` belong to the
modules before the current one, and as many zeroed ones are left as there are
supported modules. -/
theorem describeMemories_spec (retval : OsdResult) (front : List OsdMemDesc)
    (h : ∀ mod ∈ mods, isSupportedMam mod → RegionsBounded (reads mod.addr)) :
    ∃ retval' memories, describeMemories reads mods front.length
        (retval, front ++ List.replicate (mods.countP isSupportedMam)
          OsdMemDesc.zero) = .ok (retval', front ++ memories) ∧
      List.Forall₂ (Fills reads) (mods.filter isSupportedMam) memories ∧
      (retval' = osdOk ↔ retval = osdOk ∧
        ∀ mod ∈ mods, isSupportedMam mod → FilledCompletely reads mod) ∧
      (retval' = retval ∨ retval' = osdErrorPartialResult) := by
  induction mods generalizing front retval with
  | nil => exact ⟨retval, [], by simp [describeMemories], by simp, by simp,
      .inl rfl⟩
  | cons mod mods ih =>
      obtain ⟨hmod, hmods⟩ := List.forall_mem_cons.mp h
      simp only [List.forall_mem_cons]
      by_cases hsupported : isSupportedMam mod
      · obtain ⟨result, memDesc, hfill, haddr⟩ := getMemDesc_returns
          mod.addr.toNat OsdMemDesc.zero (hmod hsupported)
        have ih := ih (retvalAfter retval result) (front ++ [memDesc]) hmods
        rw [List.length_append, List.length_singleton] at ih
        obtain ⟨retval', memories, hrun, hfills, hcomplete, hpartial⟩ := ih
        refine ⟨retval', memDesc :: memories, ?_, ?_, ?_, ?_⟩
        · rw [List.countP_cons_of_pos hsupported,
            describeMemories_supported hsupported, hfill, ok_bind, hrun,
            List.append_assoc]
          rfl
        · rw [List.filter_cons_of_pos hsupported]
          exact .cons ⟨haddr, result, hfill⟩ hfills
        · rw [hcomplete]
          cases result with
          | error rv =>
              have hnot : ¬FilledCompletely reads mod := by
                rintro ⟨memDesc', hfill'⟩
                rw [hfill] at hfill'
                cases hfill'
              simp [retvalAfter, osdErrorPartialResult, osdOk, hnot,
                hsupported]
          | ok =>
              have hfilled : FilledCompletely reads mod := ⟨memDesc, hfill⟩
              simp [retvalAfter, hfilled]
        · cases result with
          | error rv => exact .inr (or_self_iff.mp hpartial)
          | ok => exact hpartial
      · obtain ⟨retval', memories, hrun, hfills, hcomplete, hpartial⟩ :=
          ih retval front hmods
        refine ⟨retval', memories, ?_, ?_, ?_, hpartial⟩
        · rw [List.countP_cons_of_neg hsupported,
            describeMemories_other hsupported, hrun]
        · rwa [List.filter_cons_of_neg hsupported]
        · rw [hcomplete]
          simp [hsupported]

theorem describeMemories_unbounded (retval : OsdResult)
    (front : List OsdMemDesc) (hmod : mod ∈ mods)
    (hsupported : isSupportedMam mod) (h : ¬RegionsBounded (reads mod.addr)) :
    ¬Returns (describeMemories reads mods front.length
      (retval, front ++ List.replicate (mods.countP isSupportedMam)
        OsdMemDesc.zero)) := by
  induction mods generalizing front retval with
  | nil => cases hmod
  | cons next mods ih =>
      by_cases hnext : isSupportedMam next
      · rw [List.countP_cons_of_pos hnext, describeMemories_supported hnext]
        by_cases hbounded : RegionsBounded (reads next.addr)
        · have hlater : mod ∈ mods := by
            rcases List.mem_cons.mp hmod with rfl | hlater
            · exact absurd hbounded h
            · exact hlater
          obtain ⟨result, memDesc, hfill, -⟩ := getMemDesc_returns
            next.addr.toNat OsdMemDesc.zero hbounded
          have ih := ih (retvalAfter retval result) (front ++ [memDesc])
            hlater
          rw [List.length_append, List.length_singleton] at ih
          rw [hfill, ok_bind]
          exact ih
        · rw [getMemDesc_unbounded hbounded]
          exact not_returns_error _
      · have hlater : mod ∈ mods := by
          rcases List.mem_cons.mp hmod with rfl | hlater
          · exact absurd hsupported hnext
          · exact hlater
        rw [List.countP_cons_of_neg hnext, describeMemories_other hnext]
        exact ih retval front hlater

end SecondPass

/-! ## The list of modules -/

section Delivered

variable {reads : Word → RegRead} {subnetAddr : Nat} {rv : OsdResult}
  {mods : List OsdModuleDesc}

theorem subnet_le_of_getModules
    (h : osdHostmodGetModules reads subnetAddr = .ok (.ok (rv, mods))) :
    subnetAddr ≤ 63 := by
  unfold osdHostmodGetModules osdDiaddrBuild at h
  obtain ⟨scmDiaddr, hbuild, -⟩ := bind_eq_ok.mp h
  exact (assertThat_bind_eq_ok.mp hbuild).1

theorem getModules_delivered
    (h : osdHostmodGetModules reads subnetAddr = .ok (.ok (rv, mods))) :
    (rv = osdOk ↔ (subnetAddr = 0 →
      ∀ i < mods.length, Described (reads (UInt16.ofNat i)))) ∧
      (rv = osdOk ∨ rv = osdErrorPartialResult) := by
  have hsubnet := subnet_le_of_getModules h
  have hreturns : Returns (osdHostmodGetModules reads subnetAddr) := ⟨_, h⟩
  cases hread :
      reads (UInt16.ofNat (1024 * subnetAddr)) osdRegScmNumMod with
  | error rv' =>
      unfold osdHostmodGetModules at h
      rw [osdDiaddrBuild_eq hsubnet (by decide), ok_bind, Nat.add_zero,
        hread] at h
      cases h
  | ok numModules =>
      rw [returns_getModules_iff hsubnet hread] at hreturns
      rw [osdHostmodGetModules_eq hsubnet hread] at h
      by_cases hzero : subnetAddr = 0
      · subst hzero
        rw [Nat.mul_zero, Nat.sub_zero] at h hreturns
        obtain ⟨hnum, hnames⟩ :=
          (returns_describe_subnet0 _ _).mp hreturns
        obtain ⟨retval, hrun, hcomplete, hpartial⟩ :=
          describeModules_subnet0 ⟨0, 0, 0, 0⟩ numModules.toNat []
            (by simpa using hnum) osdOk
            (fun i hi => hnames i (by simpa using hi))
        simp only [List.length_nil, List.nil_append] at hrun hcomplete
        rw [hrun, ok_bind] at h
        cases h
        refine ⟨?_, hpartial⟩
        rw [hcomplete]
        simp
      · rw [returns_describe_other (by omega) hsubnet] at hreturns
        rw [Nat.sub_eq_zero_of_le hreturns] at h
        cases h
        simp [hzero]

end Delivered

/-- What was found is returned if and only if every module in the list was
described and no number of regions fails the assertion. -/
theorem findMemories_iff {reads descReads : Word → RegRead}
    {subnetAddr : Nat} {rv : OsdResult} {mods : List OsdModuleDesc}
    (h : osdHostmodGetModules reads subnetAddr = .ok (.ok (rv, mods))) :
    (∃ found, osdMemaccessFindMemories reads descReads subnetAddr =
        .ok found ∧ ReturnsFound descReads rv mods found) ↔
      (subnetAddr = 0 →
        ∀ i < mods.length, Described (reads (UInt16.ofNat i))) ∧
      ∀ mod ∈ mods, isSupportedMam mod →
        RegionsBounded (descReads mod.addr) := by
  obtain ⟨hcomplete, hcodes⟩ := getModules_delivered h
  unfold osdMemaccessFindMemories
  rw [h, ok_bind, ← hcomplete]
  rcases hcodes with rfl | rfl
  · simp only [osdFailed_osdOk, Bool.false_eq_true, if_false, true_and]
    constructor
    · rintro ⟨found, hfound, -⟩ mod hmod hsupported
      by_contra hunbounded
      obtain ⟨result, hrun, -⟩ := bind_eq_ok.mp hfound
      exact describeMemories_unbounded osdOk [] hmod hsupported hunbounded
        ⟨result, hrun⟩
    · intro hbounded
      obtain ⟨retval, memories, hrun, hfills, hok, hpartial⟩ :=
        describeMemories_spec osdOk [] hbounded
      rw [List.nil_append, List.nil_append, List.length_nil] at hrun
      rw [hrun]
      refine ⟨_, rfl, ?_, ⟨memories, rfl, hfills⟩, hok, hpartial⟩
      rw [List.countP_eq_length_filter]
  · constructor
    · rintro ⟨found, hfound, hreturns⟩
      cases hfound
      obtain ⟨memories, hnone, -⟩ := hreturns.memories
      cases hnone
    · rintro ⟨hok, -⟩
      cases hok

/-- Two memories with two regions each. -/
theorem findMemories_uniformDevice :
    ∃ found, osdMemaccessFindMemories (uniformDevice 2 osdModuleTypeStdMam)
        (uniformDevice 2 osdModuleTypeStdMam) 0 = .ok found ∧
      ReturnsFound (uniformDevice 2 osdModuleTypeStdMam) osdOk
        [⟨0, 1, 3, 0⟩, ⟨1, 1, 3, 0⟩] found := by
  have hmods :
      osdHostmodGetModules (uniformDevice 2 osdModuleTypeStdMam) 0 =
        .ok (.ok (osdOk, [⟨0, 1, 3, 0⟩, ⟨1, 1, 3, 0⟩])) := rfl
  apply (findMemories_iff hmods).mpr
  constructor
  · intro _ i hi
    exact (by decide : ∀ i < 2, Described
      (uniformDevice 2 osdModuleTypeStdMam (UInt16.ofNat i))) i hi
  · intro mod _ _ aw dw n hheader
    have hregions := hheader.regions
    cases hregions
    decide

/-- One of three modules does not answer: the two memories that were found
are not returned.  With 9 regions the process ends. -/
theorem lost_memories :
    osdHostmodGetModules (threeModules osdModuleTypeStdMam) 0 =
        .ok (.ok (osdErrorPartialResult,
          [⟨0, 1, 3, 0⟩, ⟨1, 0, 0, 0⟩, ⟨2, 1, 3, 0⟩])) ∧
      osdMemaccessFindMemories (threeModules osdModuleTypeStdMam)
        (threeModules osdModuleTypeStdMam) 0 =
          .ok ⟨osdErrorPartialResult, none, none⟩ ∧
      (∀ rv mods, ¬ReturnsFound (threeModules osdModuleTypeStdMam) rv mods
        ⟨osdErrorPartialResult, none, none⟩) ∧
      osdMemaccessFindMemories (uniformDevice 9 osdModuleTypeStdMam)
        (uniformDevice 9 osdModuleTypeStdMam) 0 = .error .assertion := by
  refine ⟨rfl, rfl, ?_, rfl⟩
  intro rv mods hreturns
  obtain ⟨memories, hnone, -⟩ := hreturns.memories
  cases hnone

end Osd.Client
