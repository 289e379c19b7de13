import Osd.Client.LoadElf

/-!
# Loading into a memory

What `osd_memaccess_loadelf` does where its accesses are made on the memory
itself: the patches of the table in order, up to an entry that cannot be read,
and a check that compares the memory with the file.
-/

namespace Osd.Client

open Osd.Foundation

/-- The accesses, made on the memory itself. -/
def directMam (allocates : Nat → Bool) : MamAccess :=
  { idealMam with allocates := allocates }

theorem directMam_write (allocates : Nat → Bool) (mem : TargetMemory)
    (bytes : List Byte) (addr : UInt64) :
    (directMam allocates).write mem bytes addr =
      (osdOk, (bytesPatch bytes addr).apply mem) := rfl

theorem directMam_read (allocates : Nat → Bool) (mem : TargetMemory)
    (count : Nat) (addr : UInt64) :
    (directMam allocates).read mem count addr =
      (osdOk, (List.range count).map fun i =>
        mem (addr + UInt64.ofNat i)) := rfl

/-- The bytes of the file are in the memory. -/
def GElfPhdr.InMemory (elf : ElfImage) (mem : TargetMemory)
    (phdr : GElfPhdr) : Prop :=
  ∀ a, phdr.offset a < phdr.pFilesz.toNat → mem a = phdr.imageByte elf a

/-- The entries in front of the first one that cannot be read. -/
def ElfImage.readable (elf : ElfImage) : List GElfPhdr :=
  ((elf.phdrs.getD []).takeWhile Option.isSome).reduceOption

/-- The file has the contents of the entry, inside of its range. -/
structure HasFileBytes (elf : ElfImage) (phdr : GElfPhdr) : Prop where
  sizes : phdr.pFilesz ≤ phdr.pMemsz
  inside : phdr.pOffset.toNat + phdr.pFilesz.toNat ≤ elf.contents.length
  rawchunk : elf.rawchunk phdr.pOffset phdr.pFilesz = some
    ((elf.contents.drop phdr.pOffset.toNat).take phdr.pFilesz.toNat)

/-- Where an assertion may not fail, there is memory for the buffers. -/
def Allocates (allowed : Fault → Prop) (allocates : Nat → Bool) : Prop :=
  allowed .assertion ∨ ∀ size, allocates size = true

section Entries

variable {allowed : Fault → Prop} {allocates : Nat → Bool} {elf : ElfImage}
  {phdr : GElfPhdr}

theorem Allocates.assertThat {α : Type} {post : α → Prop} {size : Nat}
    {rest : Unit → Outcome α} (h : Allocates allowed allocates)
    (hrest : Meets allowed (rest ()) post) :
    Meets allowed (assertThat (allocates size) >>= rest) post := by
  rcases h with hallowed | hallocates
  · exact Meets.assertThat hallowed fun _ => hrest
  · rwa [assertThat_bind (hallocates size)]

theorem HasFileBytes.length (hfile : HasFileBytes elf phdr) :
    ((elf.contents.drop phdr.pOffset.toNat).take
      phdr.pFilesz.toNat).length = phdr.pFilesz.toNat := by
  have hinside := hfile.inside
  rw [List.length_take, List.length_drop]
  omega

theorem loadPhdr_direct (hallocates : Allocates allowed allocates)
    (hfile : HasFileBytes elf phdr) (mem : TargetMemory) :
    Meets allowed (loadPhdr (directMam allocates) elf phdr mem)
      (fun result => result = (osdOk, (phdr.patch elf).apply mem)) := by
  have hboth := apply_both hfile.sizes hfile.inside mem
  simp only [loadPhdr, hfile.rawchunk, directMam_write]
  rw [if_neg (by decide)]
  split
  · refine hallocates.assertThat ?_
    rw [hboth]
    rfl
  · rename_i hnone
    have hzero : (initWithZero phdr).toNat = 0 := by
      have hnot : ¬0 < (initWithZero phdr).toNat := fun hpos =>
        hnone (UInt32.lt_iff_toNat_lt.mpr hpos)
      omega
    rw [hzero, List.replicate_zero, bytesPatch_nil] at hboth
    rw [hboth]
    rfl

/-- The entries are loaded in order, up to one that cannot be read. -/
theorem loadPhdrs_direct (hallocates : Allocates allowed allocates)
    (phdrs : List (Option GElfPhdr))
    (hfiles : ∀ phdr ∈ phdrs.reduceOption, HasFileBytes elf phdr)
    (mem : TargetMemory) :
    Meets allowed (loadPhdrs (directMam allocates) elf phdrs mem)
      (fun result => result =
        (if none ∈ phdrs then osdErrorFailure else osdOk,
          Patch.applyAll (GElfPhdr.patch elf)
            (phdrs.takeWhile Option.isSome).reduceOption mem)) := by
  induction phdrs generalizing mem with
  | nil => rfl
  | cons entry phdrs ih =>
      cases entry with
      | none => simp [loadPhdrs, Patch.applyAll]
      | some phdr =>
          rw [List.reduceOption_cons_of_some] at hfiles
          obtain ⟨hfile, hfiles⟩ := List.forall_mem_cons.mp hfiles
          unfold loadPhdrs
          refine (loadPhdr_direct hallocates hfile mem).bind ?_
          rintro result rfl
          dsimp only
          rw [if_neg (by decide)]
          refine (ih hfiles _).weaken ?_
          rintro result rfl
          simp [List.reduceOption_cons_of_some, Patch.applyAll_cons]

theorem offset_add (phdr : GElfPhdr) {i : Nat} (hi : i < 2 ^ 64) :
    phdr.offset (phdr.pPaddr + UInt64.ofNat i) = i := by
  unfold GElfPhdr.offset
  rw [UInt64.toNat_sub, UInt64.toNat_add, UInt64.toNat_ofNat']
  have hpaddr := phdr.pPaddr.toNat_lt
  omega

/-- What is read back is compared with the bytes of the file. -/
theorem read_eq_file_iff (hfile : HasFileBytes elf phdr)
    (mem : TargetMemory) :
    (List.range phdr.pFilesz.toNat).map
          (fun i => mem (phdr.pPaddr + UInt64.ofNat i)) =
        (elf.contents.drop phdr.pOffset.toNat).take phdr.pFilesz.toNat ↔
      phdr.InMemory elf mem := by
  have hfilesz := phdr.pFilesz.toNat_lt
  have hbyte : ∀ i, i < phdr.pFilesz.toNat →
      ((List.range phdr.pFilesz.toNat).map
        (fun i => mem (phdr.pPaddr + UInt64.ofNat i)))[i]? =
        some (mem (phdr.pPaddr + UInt64.ofNat i)) := by
    intro i hi
    rw [List.getElem?_map, List.getElem?_range hi]
    rfl
  constructor
  · intro h a ha
    have hsame : phdr.pPaddr + UInt64.ofNat (phdr.offset a) = a := by
      unfold GElfPhdr.offset
      rw [UInt64.ofNat_toNat]
      grind
    have hpart := bytesPatch_file hfile.inside a
    have hread := hbyte _ ha
    rw [hsame, h] at hread
    rw [if_pos ha] at hpart
    exact Option.some.inj (hread.symm.trans hpart)
  · intro h
    apply List.ext_getElem?
    intro i
    by_cases hi : i < phdr.pFilesz.toNat
    · have hoffset := offset_add phdr (Nat.lt_trans hi hfilesz)
      have hpart := bytesPatch_file hfile.inside
        (phdr.pPaddr + UInt64.ofNat i)
      rw [hoffset, if_pos hi, ← h _ (by rw [hoffset]; exact hi)] at hpart
      rw [hbyte i hi, ← hpart]
      exact congrArg _ hoffset
    · have hlength := hfile.length
      rw [List.getElem?_eq_none, List.getElem?_eq_none]
      · omega
      · rw [List.length_map, List.length_range]
        omega

/-- The check goes through the entries up to the first difference. -/
theorem verifyPhdrs_direct (hallocates : Allocates allowed allocates)
    (phdrs : List (Option GElfPhdr)) (hreadable : none ∉ phdrs)
    (hfiles : ∀ phdr ∈ phdrs.reduceOption, HasFileBytes elf phdr)
    (mem : TargetMemory) :
    Meets allowed (verifyPhdrs (directMam allocates) elf phdrs mem)
      (fun rv =>
        rv = osdOk ∧ (∀ phdr ∈ phdrs.reduceOption, phdr.InMemory elf mem) ∨
        rv = osdErrorMemVerifyFailed ∧
          ∃ phdr ∈ phdrs.reduceOption, ¬phdr.InMemory elf mem) := by
  induction phdrs with
  | nil => exact .inl ⟨rfl, fun _ h => (List.not_mem_nil h).elim⟩
  | cons entry phdrs ih =>
      cases entry with
      | none => exact absurd List.mem_cons_self hreadable
      | some phdr =>
          rw [List.reduceOption_cons_of_some] at hfiles ⊢
          obtain ⟨hfile, hfiles⟩ := List.forall_mem_cons.mp hfiles
          have hcompare := read_eq_file_iff hfile mem
          simp only [verifyPhdrs, hfile.rawchunk, directMam_read,
            hfile.length]
          refine hallocates.assertThat ?_
          rw [if_neg (by decide)]
          split
          · rename_i hdiffers
            refine .inr ⟨rfl, phdr, List.mem_cons_self, ?_⟩
            exact fun hsame => hdiffers (hcompare.mpr hsame)
          · rename_i hsame
            have hfirst := hcompare.mp (not_not.mp hsame)
            refine (ih (fun h => hreadable (List.mem_cons_of_mem _ h))
              hfiles).weaken ?_
            rintro rv (⟨hrv, hall⟩ | ⟨hrv, other, hother, hnot⟩)
            · exact .inl ⟨hrv, List.forall_mem_cons.mpr ⟨hfirst, hall⟩⟩
            · exact .inr ⟨hrv, other, List.mem_cons_of_mem _ hother, hnot⟩

end Entries

/-! ## The call as a whole -/

/-- How a load ends, and what is in the memory then. -/
inductive Loaded (elf : ElfImage) (verify : Bool) (mem mem' : TargetMemory) :
    OsdResult → Prop
  | unreadable (hentry : none ∈ elf.phdrs.getD [])
      (hmem : mem' = Patch.applyAll (GElfPhdr.patch elf) elf.readable mem) :
      Loaded elf verify mem mem' osdErrorFailure
  | ok (hentries : none ∉ elf.phdrs.getD [])
      (hmem : mem' = Patch.applyAll (GElfPhdr.patch elf) elf.table mem)
      (hverified : verify = true →
        ∀ phdr ∈ elf.table, phdr.InMemory elf mem') :
      Loaded elf verify mem mem' osdOk
  | mismatch (hentries : none ∉ elf.phdrs.getD [])
      (hmem : mem' = Patch.applyAll (GElfPhdr.patch elf) elf.table mem)
      (hverify : verify = true) {phdr : GElfPhdr} (hphdr : phdr ∈ elf.table)
      (hdiffers : ¬phdr.InMemory elf mem') :
      Loaded elf verify mem mem' osdErrorMemVerifyFailed

theorem takeWhile_of_readable {phdrs : List (Option GElfPhdr)}
    (h : none ∉ phdrs) : phdrs.takeWhile Option.isSome = phdrs := by
  induction phdrs with
  | nil => rfl
  | cons entry phdrs ih =>
      have hrest : none ∉ phdrs := fun hmem =>
        h (List.mem_cons_of_mem _ hmem)
      cases entry with
      | none => exact absurd List.mem_cons_self h
      | some phdr => exact congrArg (List.cons _) (ih hrest)

section Load

variable {elf : ElfImage} {mem mem' : TargetMemory} {verify : Bool}

theorem loadelf_direct {allowed : Fault → Prop} {allocates : Nat → Bool}
    (hallocates : Allocates allowed allocates) (hphdrs : elf.phdrs ≠ none)
    (hfiles : ∀ phdr ∈ elf.table, HasFileBytes elf phdr) (verify : Bool)
    (mem : TargetMemory) :
    Meets allowed
      (osdMemaccessLoadelf (directMam allocates) true (.object elf) verify mem)
      (fun result => Loaded elf verify mem result.2 result.1) := by
  obtain ⟨phdrs, hsome⟩ := Option.ne_none_iff_exists'.mp hphdrs
  have hgetD : elf.phdrs.getD [] = phdrs := by rw [hsome]; rfl
  have htable : elf.table = phdrs.reduceOption := by
    rw [ElfImage.table, hgetD]
  have hreadable : elf.readable =
      (phdrs.takeWhile Option.isSome).reduceOption := by
    rw [ElfImage.readable, hgetD]
  rw [htable] at hfiles
  unfold osdMemaccessLoadelf
  rw [if_neg (by decide)]
  dsimp only
  rw [hsome]
  dsimp only
  refine (loadPhdrs_direct hallocates phdrs hfiles mem).bind ?_
  rintro result rfl
  dsimp only
  by_cases hnone : none ∈ phdrs
  · rw [if_pos hnone, if_pos (by decide)]
    exact .unreadable (by rwa [hgetD]) (by rw [hreadable])
  rw [if_neg hnone, if_neg (by decide), takeWhile_of_readable hnone, ← htable]
  cases verify with
  | false => exact .ok (by rwa [hgetD]) rfl fun h => by cases h
  | true =>
      rw [if_neg (by decide)]
      refine (verifyPhdrs_direct hallocates phdrs hnone hfiles _).bind ?_
      intro rv hresult
      rw [← htable] at hresult
      rcases hresult with ⟨rfl, hall⟩ | ⟨rfl, phdr, hphdr, hdiffers⟩
      · exact .ok (by rwa [hgetD]) rfl fun _ => hall
      · exact .mismatch (by rwa [hgetD]) rfl rfl hphdr hdiffers

theorem inMemory_of_holdsImage (h : HoldsImage elf mem mem')
    {phdr : GElfPhdr} (hphdr : phdr ∈ elf.table) (hload : phdr.Load)
    (hsizes : phdr.pFilesz ≤ phdr.pMemsz) : phdr.InMemory elf mem' := by
  intro a ha
  have hrange : phdr.InRange a :=
    Nat.lt_of_lt_of_le ha (UInt64.le_iff_toNat_le.mp hsizes)
  exact h.loaded phdr hphdr hload a hrange

/-- Every entry can be read and is loaded to a place of its own. -/
structure ElfImage.Loadable (elf : ElfImage) : Prop where
  readable : none ∉ elf.phdrs.getD []
  load : ∀ phdr ∈ elf.table, phdr.Load
  zeros : ∀ phdr ∈ elf.table, phdr.pFilesz.toNat +
    (initWithZero phdr).toNat = phdr.pMemsz.toNat
  separate : elf.table.Pairwise GElfPhdr.Separate

/-- Then the check finds no difference. -/
theorem Loaded.holdsImage {rv : OsdResult} (h : Loaded elf verify mem mem' rv)
    (hloadable : elf.Loadable)
    (hsizes : ∀ phdr ∈ elf.table, phdr.pFilesz ≤ phdr.pMemsz) :
    rv = osdOk ∧ HoldsImage elf mem mem' := by
  have hharmless : Harmless elf mem :=
    harmless_of_load hloadable.load hloadable.zeros
  have himage := holdsImage_of_harmless hloadable.separate hsizes hharmless
  cases h with
  | unreadable hentry => exact absurd hentry hloadable.readable
  | ok _ hmem =>
      rw [← hmem] at himage
      exact ⟨rfl, himage⟩
  | mismatch _ hmem _ hphdr hdiffers =>
      rw [← hmem] at himage
      exact absurd (inMemory_of_holdsImage himage hphdr
        (hloadable.load _ hphdr) (hsizes _ hphdr)) hdiffers

end Load

end Osd.Client
