import Osd.Client.FunctionTable
import Osd.Foundation.Overlay
import Mathlib.Data.List.ReduceOption

/-!
# Loading of programs

`osd_memaccess_loadelf` writes what each entry of the program header table has
in the file, and zeros behind it.  It goes through the table in order and takes
entries of all types.
-/

namespace Osd.Client

open Osd.Foundation

def osdErrorMemVerifyFailed : OsdResult := -13

def ptLoad : UInt32 := 1

structure GElfPhdr where
  pType : UInt32
  pOffset : UInt64
  pPaddr : UInt64
  pFilesz : UInt64
  pMemsz : UInt64
  deriving DecidableEq

abbrev TargetMemory := UInt64 → Byte

/-- `osd_cl_mam_write` and `osd_cl_mam_read` for a memory, and the sizes that
are allocated. -/
structure MamAccess where
  write : TargetMemory → List Byte → UInt64 → OsdResult × TargetMemory
  read : TargetMemory → Nat → UInt64 → OsdResult × List Byte
  allocates : Nat → Bool

/-- The program header table, where its size is known, with the entries that
can be read. -/
structure ElfImage where
  contents : List Byte
  phdrs : Option (List (Option GElfPhdr))
  rawchunk : UInt64 → UInt64 → Option (List Byte)

section

variable (mam : MamAccess) (elf : ElfImage)

/-- `Elf32_Word init_with_zero`. -/
def initWithZero (phdr : GElfPhdr) : UInt32 :=
  (phdr.pMemsz - phdr.pFilesz).toUInt32

def loadPhdr (phdr : GElfPhdr) (mem : TargetMemory) :
    Outcome (OsdResult × TargetMemory) :=
  let (osdRv, mem) :=
    match elf.rawchunk phdr.pOffset phdr.pFilesz with
    | none => (osdOk, mem)
    | some data => mam.write mem data phdr.pPaddr
  if osdFailed osdRv then .ok (osdRv, mem)
  else if initWithZero phdr > 0 then do
    assertThat (mam.allocates (phdr.pMemsz - phdr.pFilesz).toNat)
    .ok (mam.write mem (List.replicate (initWithZero phdr).toNat 0)
      (phdr.pPaddr + phdr.pFilesz))
  else .ok (osdOk, mem)

def loadPhdrs : List (Option GElfPhdr) → TargetMemory →
    Outcome (OsdResult × TargetMemory)
  | [], mem => .ok (osdOk, mem)
  | none :: _, mem => .ok (osdErrorFailure, mem)
  | some phdr :: phdrs, mem => do
      let (osdRv, mem) ← loadPhdr mam elf phdr mem
      if osdFailed osdRv then .ok (osdRv, mem)
      else loadPhdrs phdrs mem

/-- The data are used without a check. -/
def verifyPhdrs : List (Option GElfPhdr) → TargetMemory → Outcome OsdResult
  | [], _ => .ok osdOk
  | none :: _, _ => .ok osdErrorFailure
  | some phdr :: phdrs, mem =>
      match elf.rawchunk phdr.pOffset phdr.pFilesz with
      | none => .error .outOfBounds
      | some elfData => do
          assertThat (mam.allocates elfData.length)
          let (osdRv, memoryData) := mam.read mem elfData.length phdr.pPaddr
          if osdFailed osdRv then .ok osdRv
          else if memoryData ≠ elfData then .ok osdErrorMemVerifyFailed
          else verifyPhdrs phdrs mem

def osdMemaccessLoadelf (connected : Bool) (file : ElfFile ElfImage)
    (verify : Bool) (mem : TargetMemory) :
    Outcome (OsdResult × TargetMemory) :=
  if !connected then .ok (osdErrorNotConnected, mem)
  else
    match file with
    | .versionMismatch => .ok (osdErrorFailure, mem)
    | .notOpened => .ok (osdErrorFile, mem)
    | .notRead => .ok (osdErrorFailure, mem)
    | .object elf =>
        match elf.phdrs with
        | none => .ok (osdErrorFailure, mem)
        | some phdrs => do
            let (retval, mem) ← loadPhdrs mam elf phdrs mem
            if osdFailed retval then .ok (retval, mem)
            else if !verify then .ok (osdOk, mem)
            else do
              let retval ← verifyPhdrs mam elf phdrs mem
              .ok (retval, mem)

end

/-! ## The image of a program -/

/-- The bytes at consecutive addresses, which wrap around behind the last
one. -/
def bytesPatch (bytes : List Byte) (addr : UInt64) : Patch UInt64 Byte :=
  fun a => bytes[(a - addr).toNat]?

/-- A write that succeeds stores exactly the bytes it is given. -/
def MamAccess.Stores (mam : MamAccess) : Prop :=
  ∀ mem bytes addr, osdFailed (mam.write mem bytes addr).1 = false →
    (mam.write mem bytes addr).2 = (bytesPatch bytes addr).apply mem

namespace ElfImage

def table (elf : ElfImage) : List GElfPhdr :=
  (elf.phdrs.getD []).reduceOption

/-- The file has the contents of all entries. -/
def ReturnsFileBytes (elf : ElfImage) : Prop :=
  ∀ phdr ∈ elf.table,
    phdr.pOffset.toNat + phdr.pFilesz.toNat ≤ elf.contents.length ∧
      elf.rawchunk phdr.pOffset phdr.pFilesz = some
        ((elf.contents.drop phdr.pOffset.toNat).take phdr.pFilesz.toNat)

end ElfImage

namespace GElfPhdr

def Load (phdr : GElfPhdr) : Prop := phdr.pType = ptLoad

def offset (phdr : GElfPhdr) (a : UInt64) : Nat := (a - phdr.pPaddr).toNat

def InRange (phdr : GElfPhdr) (a : UInt64) : Prop :=
  phdr.offset a < phdr.pMemsz.toNat

instance (phdr : GElfPhdr) (a : UInt64) : Decidable (phdr.InRange a) :=
  inferInstanceAs (Decidable (_ < _))

/-- The byte of the program at an address in the range of the entry. -/
def imageByte (elf : ElfImage) (phdr : GElfPhdr) (a : UInt64) : Byte :=
  if phdr.offset a < phdr.pFilesz.toNat then
    elf.contents.getD (phdr.pOffset.toNat + phdr.offset a) 0
  else 0

/-- The bytes that are written for an entry: as many zeros behind its file
bytes as the low 32 bit of their number say. -/
def patch (elf : ElfImage) (phdr : GElfPhdr) : Patch UInt64 Byte := fun a =>
  if phdr.offset a < phdr.pFilesz.toNat + (initWithZero phdr).toNat then
    some (phdr.imageByte elf a)
  else none

/-- No address is in the ranges of both entries, if they are loaded. -/
def Separate (first second : GElfPhdr) : Prop :=
  first.Load → second.Load → ∀ a, ¬(first.InRange a ∧ second.InRange a)

instance : Std.Symm Separate where
  symm _ _ h hsecond hfirst a hboth :=
    h hfirst hsecond a ⟨hboth.2, hboth.1⟩

end GElfPhdr

/-- The memory holds the entries that are loaded, and is unchanged outside of
them. -/
structure HoldsImage (elf : ElfImage) (mem mem' : TargetMemory) : Prop where
  loaded : ∀ phdr ∈ elf.table, phdr.Load → ∀ a, phdr.InRange a →
    mem' a = phdr.imageByte elf a
  unchanged : ∀ a, (∀ phdr ∈ elf.table, phdr.Load → ¬phdr.InRange a) →
    mem' a = mem a

/-- What the address should hold after loading. -/
structure Expected (elf : ElfImage) (mem : TargetMemory) (a : UInt64)
    (byte : Byte) : Prop where
  loaded : ∀ phdr ∈ elf.table, phdr.Load → phdr.InRange a →
    byte = phdr.imageByte elf a
  unchanged : (∀ phdr ∈ elf.table, phdr.Load → ¬phdr.InRange a) →
    byte = mem a

/-- Where an entry of another type is the last one to write, it writes what
should be there; and where the zeros of an entry are cut off, there are zeros
already. -/
structure Harmless (elf : ElfImage) (mem : TargetMemory) : Prop where
  others : ∀ phdr a byte, ¬phdr.Load →
    Patch.LastCover (GElfPhdr.patch elf) elf.table a phdr byte →
      Expected elf mem a byte
  zeros : ∀ phdr ∈ elf.table, phdr.Load → ∀ a, phdr.InRange a →
    (∀ other ∈ elf.table, ¬(other.patch elf).Covers a) → mem a = 0

/-! ## One entry -/

section Entry

variable {mam : MamAccess} {elf : ElfImage} {phdr : GElfPhdr}

theorem toNat_initWithZero_le (hsize : phdr.pFilesz ≤ phdr.pMemsz) :
    phdr.pFilesz.toNat + (initWithZero phdr).toNat ≤ phdr.pMemsz.toNat := by
  have hle := UInt64.le_iff_toNat_le.mp hsize
  have hmod := Nat.mod_le (phdr.pMemsz - phdr.pFilesz).toNat (2 ^ 32)
  unfold initWithZero
  rw [UInt64.toNat_toUInt32]
  rw [UInt64.toNat_sub_of_le _ _ hsize] at hmod ⊢
  omega

theorem inRange_of_covers (hsize : phdr.pFilesz ≤ phdr.pMemsz) {a : UInt64}
    (h : (phdr.patch elf).Covers a) : phdr.InRange a := by
  have hle := toNat_initWithZero_le hsize
  unfold Patch.Covers GElfPhdr.patch at h
  split at h
  · rename_i hlt
    exact Nat.lt_of_lt_of_le hlt hle
  · exact absurd rfl h

theorem patch_eq_some {a : UInt64} {byte : Byte}
    (h : phdr.patch elf a = some byte) : byte = phdr.imageByte elf a := by
  unfold GElfPhdr.patch at h
  split at h
  · exact (Option.some.inj h).symm
  · cases h

theorem imageByte_of_not_covers {a : UInt64}
    (h : ¬(phdr.patch elf).Covers a) : phdr.imageByte elf a = 0 := by
  unfold Patch.Covers GElfPhdr.patch at h
  unfold GElfPhdr.imageByte
  split at h
  · simp at h
  · rw [if_neg]
    omega

theorem offset_behind (phdr : GElfPhdr) (a : UInt64) :
    (a - (phdr.pPaddr + phdr.pFilesz)).toNat =
      if phdr.pFilesz.toNat ≤ phdr.offset a then
        phdr.offset a - phdr.pFilesz.toNat
      else phdr.offset a + 2 ^ 64 - phdr.pFilesz.toNat := by
  have hsub : a - (phdr.pPaddr + phdr.pFilesz) =
      a - phdr.pPaddr - phdr.pFilesz := by grind
  have hoffset : phdr.offset a < 2 ^ 64 := (a - phdr.pPaddr).toNat_lt
  have hfilesz := phdr.pFilesz.toNat_lt
  rw [hsub, UInt64.toNat_sub]
  unfold GElfPhdr.offset at hoffset ⊢
  split <;> omega

theorem bytesPatch_file (hinside :
      phdr.pOffset.toNat + phdr.pFilesz.toNat ≤ elf.contents.length)
    (a : UInt64) :
    bytesPatch ((elf.contents.drop phdr.pOffset.toNat).take
        phdr.pFilesz.toNat) phdr.pPaddr a =
      if phdr.offset a < phdr.pFilesz.toNat then
        some (phdr.imageByte elf a)
      else none := by
  unfold bytesPatch GElfPhdr.imageByte
  change (List.take _ _)[phdr.offset a]? = _
  by_cases hfile : phdr.offset a < phdr.pFilesz.toNat
  · have hlt : phdr.pOffset.toNat + phdr.offset a < elf.contents.length := by
      omega
    rw [if_pos hfile, if_pos hfile, List.getElem?_take_of_lt hfile,
      List.getElem?_drop, List.getD_eq_getElem?_getD,
      List.getElem?_eq_getElem hlt]
    rfl
  · rw [if_neg hfile, List.getElem?_eq_none]
    rw [List.length_take]
    omega

theorem apply_both (hsize : phdr.pFilesz ≤ phdr.pMemsz)
    (hinside : phdr.pOffset.toNat + phdr.pFilesz.toNat ≤ elf.contents.length)
    (mem : TargetMemory) :
    (bytesPatch (List.replicate (initWithZero phdr).toNat 0)
      (phdr.pPaddr + phdr.pFilesz)).apply
        ((bytesPatch ((elf.contents.drop phdr.pOffset.toNat).take
          phdr.pFilesz.toNat) phdr.pPaddr).apply mem) =
      (phdr.patch elf).apply mem := by
  have hle := toNat_initWithZero_le hsize
  have hmemsz := phdr.pMemsz.toNat_lt
  funext a
  have hfile := bytesPatch_file hinside a
  have hzeros : bytesPatch (List.replicate (initWithZero phdr).toNat 0)
      (phdr.pPaddr + phdr.pFilesz) a =
      if phdr.pFilesz.toNat ≤ phdr.offset a ∧ phdr.offset a <
        phdr.pFilesz.toNat + (initWithZero phdr).toNat then some 0
      else none := by
    unfold bytesPatch
    rw [offset_behind, List.getElem?_replicate]
    split <;> split <;> split <;> first | rfl | omega
  simp only [Patch.apply, hfile, hzeros]
  unfold GElfPhdr.patch
  by_cases hbehind : phdr.pFilesz.toNat ≤ phdr.offset a
  · have hnot : ¬phdr.offset a < phdr.pFilesz.toNat := by omega
    simp only [GElfPhdr.imageByte, hbehind, hnot, true_and, if_false]
    split <;> rfl
  · have hlt : phdr.offset a < phdr.pFilesz.toNat := by omega
    have hlt' : phdr.offset a <
        phdr.pFilesz.toNat + (initWithZero phdr).toNat := by omega
    simp only [hbehind, hlt, hlt', false_and, if_true, if_false]
    rfl

theorem bytesPatch_nil (addr : UInt64) (mem : TargetMemory) :
    (bytesPatch [] addr).apply mem = mem := rfl

theorem loadPhdr_ok (hstores : mam.Stores)
    (hsize : phdr.pFilesz ≤ phdr.pMemsz)
    (hinside : phdr.pOffset.toNat + phdr.pFilesz.toNat ≤ elf.contents.length)
    (hchunk : elf.rawchunk phdr.pOffset phdr.pFilesz = some
      ((elf.contents.drop phdr.pOffset.toNat).take phdr.pFilesz.toNat))
    {mem mem' : TargetMemory} {rv : OsdResult} (hok : osdFailed rv = false)
    (h : loadPhdr mam elf phdr mem = .ok (rv, mem')) :
    mem' = (phdr.patch elf).apply mem := by
  have hboth := apply_both hsize hinside mem
  have hfile := hstores mem ((elf.contents.drop phdr.pOffset.toNat).take
    phdr.pFilesz.toNat) phdr.pPaddr
  unfold loadPhdr at h
  rw [hchunk] at h
  dsimp only at h
  cases hwrite : osdFailed (mam.write mem ((elf.contents.drop
      phdr.pOffset.toNat).take phdr.pFilesz.toNat) phdr.pPaddr).1 with
  | true =>
      rw [if_pos hwrite] at h
      cases h
      rw [hwrite] at hok
      cases hok
  | false =>
      rw [if_neg (by simp [hwrite]), hfile hwrite] at h
      split at h
      · obtain ⟨-, h⟩ := assertThat_bind_eq_ok.mp h
        have hzeros := Except.ok.inj h
        rw [← hboth, ← hstores _ _ _ (by rw [hzeros]; exact hok), hzeros]
      · rename_i hnone
        have hzero : (initWithZero phdr).toNat = 0 := by
          have hnot : ¬0 < (initWithZero phdr).toNat := fun hpos =>
            hnone (UInt32.lt_iff_toNat_lt.mpr hpos)
          omega
        rw [hzero, List.replicate_zero, bytesPatch_nil] at hboth
        cases h
        exact hboth

end Entry

/-! ## The table -/

section LoadTable

variable {mam : MamAccess} {elf : ElfImage}

/-- A load that succeeds has read all entries, and applied their patches in
order. -/
theorem loadPhdrs_ok (hstores : mam.Stores) (phdrs : List (Option GElfPhdr))
    (hbytes : ∀ phdr ∈ phdrs.reduceOption,
      phdr.pOffset.toNat + phdr.pFilesz.toNat ≤ elf.contents.length ∧
        elf.rawchunk phdr.pOffset phdr.pFilesz = some
          ((elf.contents.drop phdr.pOffset.toNat).take phdr.pFilesz.toNat))
    (hsizes : ∀ phdr ∈ phdrs.reduceOption, phdr.pFilesz ≤ phdr.pMemsz)
    {mem mem' : TargetMemory} {rv : OsdResult} (hok : osdFailed rv = false)
    (h : loadPhdrs mam elf phdrs mem = .ok (rv, mem')) :
    mem' = Patch.applyAll (GElfPhdr.patch elf) phdrs.reduceOption mem := by
  induction phdrs generalizing mem with
  | nil =>
      cases h
      rfl
  | cons entry phdrs ih =>
      cases entry with
      | none =>
          cases h
          cases hok
      | some phdr =>
          rw [List.reduceOption_cons_of_some] at hbytes hsizes ⊢
          obtain ⟨⟨hinside, hchunk⟩, hbytes⟩ := List.forall_mem_cons.mp hbytes
          obtain ⟨hsize, hsizes⟩ := List.forall_mem_cons.mp hsizes
          unfold loadPhdrs at h
          obtain ⟨⟨osdRv, middle⟩, hphdr, h⟩ := bind_eq_ok.mp h
          dsimp only at h
          cases hfailed : osdFailed osdRv with
          | true =>
              rw [if_pos hfailed] at h
              cases h
              rw [hfailed] at hok
              cases hok
          | false =>
              rw [if_neg (by simp [hfailed])] at h
              rw [Patch.applyAll_cons, ← loadPhdr_ok hstores hsize hinside
                hchunk hfailed hphdr]
              exact ih hbytes hsizes h

theorem loadelf_ok (hstores : mam.Stores) (hbytes : elf.ReturnsFileBytes)
    (hsizes : ∀ phdr ∈ elf.table, phdr.pFilesz ≤ phdr.pMemsz)
    {connected : Bool} {mem mem' : TargetMemory}
    (h : osdMemaccessLoadelf mam connected (.object elf) false mem =
      .ok (osdOk, mem')) :
    mem' = Patch.applyAll (GElfPhdr.patch elf) elf.table mem := by
  unfold osdMemaccessLoadelf at h
  cases connected with
  | false => cases h
  | true =>
      unfold ElfImage.ReturnsFileBytes at hbytes
      unfold ElfImage.table at hbytes hsizes ⊢
      dsimp only [Bool.not_true] at h
      cases hphdrs : elf.phdrs with
      | none =>
          rw [hphdrs] at h
          cases h
      | some phdrs =>
          rw [hphdrs, Option.getD_some] at hbytes hsizes
          rw [hphdrs] at h
          obtain ⟨⟨rv, middle⟩, hload, h⟩ := bind_eq_ok.mp h
          dsimp only at h
          cases hfailed : osdFailed rv with
          | true =>
              rw [if_pos hfailed] at h
              cases h
              cases hfailed
          | false =>
              rw [if_neg (by simp [hfailed])] at h
              cases h
              exact loadPhdrs_ok hstores phdrs hbytes hsizes hfailed hload

end LoadTable

/-! ## The image -/

section Image

variable {elf : ElfImage} {mem mem' : TargetMemory}

theorem holdsImage_iff :
    HoldsImage elf mem mem' ↔ ∀ a, Expected elf mem a (mem' a) := by
  constructor
  · intro h a
    exact ⟨fun phdr hphdr hload => h.loaded phdr hphdr hload a,
      h.unchanged a⟩
  · intro h
    exact ⟨fun phdr hphdr hload a => (h a).loaded phdr hphdr hload,
      fun a => (h a).unchanged⟩

theorem eq_of_inRange (hdisjoint : elf.table.Pairwise GElfPhdr.Separate) {first second : GElfPhdr}
    (hfirst : first ∈ elf.table) (hsecond : second ∈ elf.table)
    (hload : first.Load) (hload' : second.Load) {a : UInt64}
    (hrange : first.InRange a) (hrange' : second.InRange a) :
    first = second := by
  by_contra hne
  exact hdisjoint.forall hfirst hsecond hne hload hload' a ⟨hrange, hrange'⟩

theorem harmless_of_holdsImage
    (h : HoldsImage elf mem
      (Patch.applyAll (GElfPhdr.patch elf) elf.table mem)) :
    Harmless elf mem where
  others := by
    intro phdr a byte _ hlast
    rw [← hlast.applyAll_eq mem]
    exact holdsImage_iff.mp h a
  zeros := by
    intro phdr hphdr hload a hrange hnone
    have hbyte := h.loaded phdr hphdr hload a hrange
    rwa [Patch.applyAll_of_not_covers hnone,
      imageByte_of_not_covers (hnone phdr hphdr)] at hbyte

theorem holdsImage_of_harmless (hdisjoint : elf.table.Pairwise GElfPhdr.Separate)
    (hsizes : ∀ phdr ∈ elf.table, phdr.pFilesz ≤ phdr.pMemsz)
    (h : Harmless elf mem) :
    HoldsImage elf mem
      (Patch.applyAll (GElfPhdr.patch elf) elf.table mem) := by
  rw [holdsImage_iff]
  intro a
  rcases Patch.exists_lastCover (GElfPhdr.patch elf) elf.table a with
    hnone | ⟨phdr, hphdr, byte, hlast⟩
  · rw [Patch.applyAll_of_not_covers hnone]
    constructor
    · intro phdr hphdr hload hrange
      rw [h.zeros phdr hphdr hload a hrange hnone,
        imageByte_of_not_covers (hnone phdr hphdr)]
    · exact fun _ => rfl
  · rw [hlast.applyAll_eq mem]
    by_cases hload : phdr.Load
    · have hcovers : (phdr.patch elf).Covers a := by
        rw [Patch.Covers, hlast.value]
        simp
      have hrange := inRange_of_covers (hsizes phdr hphdr) hcovers
      constructor
      · intro other hother hload' hrange'
        rw [← eq_of_inRange hdisjoint hphdr hother hload hload' hrange
          hrange']
        exact patch_eq_some hlast.value
      · intro houtside
        exact absurd hrange (houtside phdr hphdr hload)
    · exact h.others phdr a byte hload hlast

end Image

/-- Entries that are all loaded, with fewer than 2 ^ 32 zeros each. -/
theorem harmless_of_load (hload : ∀ phdr ∈ elf.table, phdr.Load)
    (hzeros : ∀ phdr ∈ elf.table, phdr.pFilesz.toNat +
      (initWithZero phdr).toNat = phdr.pMemsz.toNat) :
    Harmless elf mem where
  others := by
    intro phdr a byte hother hlast
    obtain ⟨front, back, htable, -⟩ := hlast.last
    exact absurd (hload phdr (by simp [htable])) hother
  zeros := by
    intro phdr hphdr _ a hrange hnone
    have hcut : ¬phdr.offset a < phdr.pMemsz.toNat := by
      rw [← hzeros phdr hphdr]
      intro hlt
      apply hnone phdr hphdr
      unfold Patch.Covers GElfPhdr.patch
      rw [if_pos hlt]
      simp
    exact absurd hrange hcut

/-- The memory holds the image if and only if the entries of other types and
the zeros that are cut off do no harm. -/
theorem loadelf_iff {mam : MamAccess} {elf : ElfImage} {connected : Bool}
    {mem mem' : TargetMemory} (hstores : mam.Stores)
    (hbytes : elf.ReturnsFileBytes)
    (hsizes : ∀ phdr ∈ elf.table, phdr.pFilesz ≤ phdr.pMemsz)
    (hdisjoint : elf.table.Pairwise GElfPhdr.Separate)
    (hrun : osdMemaccessLoadelf mam connected (.object elf) false mem =
      .ok (osdOk, mem')) :
    HoldsImage elf mem mem' ↔ Harmless elf mem := by
  rw [loadelf_ok hstores hbytes hsizes hrun]
  exact ⟨harmless_of_holdsImage, holdsImage_of_harmless hdisjoint hsizes⟩

/-- A MAM that stores everything. -/
def idealMam : MamAccess where
  write mem bytes addr := (osdOk, (bytesPatch bytes addr).apply mem)
  read mem count addr := (osdOk, (List.range count).map fun i =>
    mem (addr + UInt64.ofNat i))
  allocates _ := true

def elfWithPhdrs (contents : List Byte) (phdrs : List GElfPhdr) :
    ElfImage where
  contents := contents
  phdrs := some (phdrs.map some)
  rawchunk offset size :=
    if offset.toNat + size.toNat ≤ contents.length then
      some ((contents.drop offset.toNat).take size.toNat)
    else none

def smallProgram : ElfImage :=
  elfWithPhdrs [1, 2, 3, 4] [⟨ptLoad, 0, 0x100, 4, 6⟩]

theorem loadelf_smallProgram :
    ∃ mem', osdMemaccessLoadelf idealMam true (.object smallProgram) false
        (fun _ => 0xff) = .ok (osdOk, mem') ∧
      HoldsImage smallProgram (fun _ => 0xff) mem' := by
  have htable : smallProgram.table = [⟨ptLoad, 0, 0x100, 4, 6⟩] := rfl
  have hbytes : smallProgram.ReturnsFileBytes := by
    unfold ElfImage.ReturnsFileBytes
    rw [htable]
    simp
    decide
  have hstores : idealMam.Stores := fun _ _ _ _ => rfl
  have hsizes : ∀ phdr ∈ smallProgram.table, phdr.pFilesz ≤ phdr.pMemsz := by
    simp [htable]
  have hdisjoint : smallProgram.table.Pairwise GElfPhdr.Separate := by
    simp [htable]
  have hrun : ∃ mem', osdMemaccessLoadelf idealMam true (.object smallProgram)
      false (fun _ => 0xff) = .ok (osdOk, mem') := ⟨_, rfl⟩
  obtain ⟨mem', hrun⟩ := hrun
  refine ⟨mem', hrun, (loadelf_iff hstores hbytes hsizes hdisjoint hrun).mpr ?_⟩
  apply harmless_of_load
  · simp [htable, GElfPhdr.Load]
  · simp [htable, initWithZero]

/-- An entry for a note, which writes over the first two bytes. -/
def programWithNote : ElfImage :=
  elfWithPhdrs [1, 2, 3, 4, 9, 9]
    [⟨ptLoad, 0, 0x100, 4, 4⟩, ⟨4, 4, 0x100, 2, 2⟩]

def programOfZeros : ElfImage :=
  elfWithPhdrs [] [⟨ptLoad, 0, 0, 0, 0x100000000⟩]

/-- The first byte of the program is replaced by the one of the note, and none
of the zeros is written. -/
theorem damaged_images :
    (∃ mem', osdMemaccessLoadelf idealMam true (.object programWithNote) false
        (fun _ => 0xff) = .ok (osdOk, mem') ∧ mem' 0x100 = 9 ∧
      ¬HoldsImage programWithNote (fun _ => 0xff) mem') ∧
    ∃ mem', osdMemaccessLoadelf idealMam true (.object programOfZeros) false
        (fun _ => 0xff) = .ok (osdOk, mem') ∧ mem' 0 = 0xff ∧
      ¬HoldsImage programOfZeros (fun _ => 0xff) mem' := by
  constructor
  · refine ⟨_, rfl, by decide, ?_⟩
    intro h
    have hbyte := h.loaded ⟨ptLoad, 0, 0x100, 4, 4⟩ (by decide) rfl 0x100
      (by decide)
    exact absurd hbyte (by decide)
  · refine ⟨_, rfl, by decide, ?_⟩
    intro h
    have hbyte := h.loaded ⟨ptLoad, 0, 0, 0, 0x100000000⟩ (by decide) rfl 0
      (by decide)
    exact absurd hbyte (by decide)

end Osd.Client
