import Osd.Client.LoadMemory
import Osd.Foundation.Refinement
import Osd.Mam.Completion

/-!
# Loading of programs through a memory access module

`osd_memaccess_loadelf` with the calls of `cl_mam.c` that it makes, each a
sequence of requests in packets.  It does what the load does that makes its
accesses on the memory of the module itself.
-/

namespace Osd.Client

open Osd.Foundation Osd.Mam

section

variable {δ : Type} (link : Link δ) (desc : MemDesc) (allocates : Nat → Bool)
  (elf : ElfImage)

def loadPhdrOn (phdr : GElfPhdr) (s : Session δ) :
    Outcome (OsdResult × Session δ) := do
  let (osdRv, s) ←
    match elf.rawchunk phdr.pOffset phdr.pFilesz with
    | none => .ok (osdOk, s)
    | some data => osdClMamWrite link desc s data phdr.pPaddr.toNat
  if osdFailed osdRv then .ok (osdRv, s)
  else if initWithZero phdr > 0 then do
    assertThat (allocates (phdr.pMemsz - phdr.pFilesz).toNat)
    osdClMamWrite link desc s (List.replicate (initWithZero phdr).toNat 0)
      (phdr.pPaddr + phdr.pFilesz).toNat
  else .ok (osdOk, s)

def loadPhdrsOn : List (Option GElfPhdr) → Session δ →
    Outcome (OsdResult × Session δ)
  | [], s => .ok (osdOk, s)
  | none :: _, s => .ok (osdErrorFailure, s)
  | some phdr :: phdrs, s => do
      let (osdRv, s) ← loadPhdrOn link desc allocates elf phdr s
      if osdFailed osdRv then .ok (osdRv, s)
      else loadPhdrsOn phdrs s

/-- The contents of `memory_data` before the read do not matter. -/
def verifyPhdrsOn : List (Option GElfPhdr) → Session δ →
    Outcome (OsdResult × Session δ)
  | [], s => .ok (osdOk, s)
  | none :: _, s => .ok (osdErrorFailure, s)
  | some phdr :: phdrs, s =>
      match elf.rawchunk phdr.pOffset phdr.pFilesz with
      | none => .error .outOfBounds
      | some elfData => do
          assertThat (allocates elfData.length)
          let (osdRv, memoryData, s) ← osdClMamRead link desc s
            (List.replicate elfData.length 0) phdr.pPaddr.toNat
          if osdFailed osdRv then .ok (osdRv, s)
          else if memoryData ≠ elfData then
            .ok (osdErrorMemVerifyFailed, s)
          else verifyPhdrsOn phdrs s

def osdMemaccessLoadelfOn (connected : Bool) (file : ElfFile ElfImage)
    (verify : Bool) (s : Session δ) : Outcome (OsdResult × Session δ) :=
  if !connected then .ok (osdErrorNotConnected, s)
  else
    match file with
    | .versionMismatch => .ok (osdErrorFailure, s)
    | .notOpened => .ok (osdErrorFile, s)
    | .notRead => .ok (osdErrorFailure, s)
    | .object elf =>
        match elf.phdrs with
        | none => .ok (osdErrorFailure, s)
        | some phdrs => do
            let (retval, s) ← loadPhdrsOn link desc allocates elf phdrs s
            if osdFailed retval then .ok (retval, s)
            else if !verify then .ok (osdOk, s)
            else verifyPhdrsOn link desc allocates elf phdrs s

end

/-! ## Memory of 64 bit addresses -/

def targetMemory (mem : Memory Byte) : TargetMemory := fun a => mem a.toNat

theorem targetMemory_write (mem : Memory Byte) {addr : UInt64}
    {bytes : List Byte} (h : addr.toNat + bytes.length ≤ 2 ^ 64) :
    targetMemory (Memory.write mem addr.toNat bytes) =
      (bytesPatch bytes addr).apply (targetMemory mem) := by
  funext a
  unfold targetMemory Patch.apply bytesPatch
  rw [Memory.write_apply, UInt64.toNat_sub]
  have ha := a.toNat_lt
  have haddr := addr.toNat_lt
  split
  · rename_i hle
    have hsub : (2 ^ 64 - addr.toNat + a.toNat) % 2 ^ 64 =
        a.toNat - addr.toNat := by omega
    rw [hsub]
  · rename_i hlt
    have hsub : bytes.length ≤ (2 ^ 64 - addr.toNat + a.toNat) % 2 ^ 64 := by
      omega
    rw [List.getElem?_eq_none hsub, Option.getD_none]

theorem targetMemory_read (mem : Memory Byte) {addr : UInt64} {count : Nat}
    (h : addr.toNat + count ≤ 2 ^ 64) :
    (List.range count).map
        (fun i => targetMemory mem (addr + UInt64.ofNat i)) =
      Memory.read mem addr.toNat count := by
  unfold Memory.read targetMemory
  refine List.map_congr_left fun i hi => congrArg mem ?_
  have hlt := List.mem_range.mp hi
  rw [UInt64.toNat_add, UInt64.toNat_ofNat']
  omega

variable {δ : Type}

/-- The call over packets returned what the call on the memory returns, and the
module has the memory of it. -/
structure Mirrors (allowed : Fault → Prop) (view : δ → MamState)
    (result : OsdResult × Session δ) (direct : OsdResult × TargetMemory) :
    Prop where
  rv : result.1 = direct.1
  ready : Ready allowed view result.2
  mem : targetMemory (view result.2.dev).mem = direct.2

theorem Mirrors.of_ready {allowed : Fault → Prop} {view : δ → MamState}
    {s : Session δ} (hready : Ready allowed view s) (rv : OsdResult) :
    Mirrors allowed view (rv, s) (rv, targetMemory (view s.dev).mem) :=
  ⟨rfl, hready, rfl⟩

/-! ## Entries of the table -/

/-- The access is inside of the address space, and its range is accepted unless
an assertion may fail. -/
structure Servable (allowed : Fault → Prop) (desc : MemDesc)
    (nbyte startAddr : Nat) : Prop where
  small : nbyte < 2 ^ 32
  range : startAddr + nbyte ≤ 256 ^ desc.awB
  permitted : Permitted allowed desc nbyte startAddr

namespace GElfPhdr

/-- The accesses for the entry, with whatever the file has for it. -/
structure Transferable (allowed : Fault → Prop) (desc : MemDesc)
    (elf : ElfImage) (phdr : GElfPhdr) : Prop where
  file : ∀ data, elf.rawchunk phdr.pOffset phdr.pFilesz = some data →
    Servable allowed desc data.length phdr.pPaddr.toNat
  zeros : Servable allowed desc (initWithZero phdr).toNat
    (phdr.pPaddr + phdr.pFilesz).toNat

/-- What is written for the entry is in the address space of the module. -/
structure Fits (desc : MemDesc) (phdr : GElfPhdr) : Prop where
  sizes : phdr.pFilesz ≤ phdr.pMemsz
  small : phdr.pFilesz.toNat < 2 ^ 32
  range : phdr.pPaddr.toNat + phdr.pFilesz.toNat +
    (initWithZero phdr).toNat ≤ 256 ^ desc.awB

/-- Both writes for the entry have ranges that are accepted. -/
structure Accepted (desc : MemDesc) (phdr : GElfPhdr) : Prop where
  file : phdr.pFilesz.toNat ≠ 0 →
    RangeAccepted desc phdr.pFilesz.toNat phdr.pPaddr.toNat
  zeros : (initWithZero phdr).toNat ≠ 0 →
    RangeAccepted desc (initWithZero phdr).toNat
      (phdr.pPaddr + phdr.pFilesz).toNat

variable {allowed : Fault → Prop} {desc : MemDesc} {elf : ElfImage}
  {phdr : GElfPhdr}

theorem Fits.transferable (hfits : phdr.Fits desc)
    (hfile : HasFileBytes elf phdr)
    (haccepted : allowed .assertion ∨ phdr.Accepted desc) :
    phdr.Transferable allowed desc elf := by
  have hrange := hfits.range
  constructor
  · intro data hdata
    rw [hfile.rawchunk] at hdata
    obtain rfl := Option.some.inj hdata
    rw [hfile.length]
    refine ⟨hfits.small, by omega, haccepted.imp id fun h => ?_⟩
    exact (Decidable.em _).imp id h.file
  · have hsum : (phdr.pPaddr + phdr.pFilesz).toNat ≤
        phdr.pPaddr.toNat + phdr.pFilesz.toNat := by
      rw [UInt64.toNat_add]
      exact Nat.mod_le _ _
    refine ⟨(initWithZero phdr).toNat_lt, by omega,
      haccepted.imp id fun h => ?_⟩
    exact (Decidable.em _).imp id h.zeros

end GElfPhdr

section Entries

variable {link : Link δ} {desc : MemDesc} {view : δ → MamState}
  {allocates : Nat → Bool} {elf : ElfImage} {phdr : GElfPhdr}
  {allowed : Fault → Prop} {s : Session δ}
  (hdesc : desc.Supported) (haddr : desc.diAddr < 2 ^ 16)
  (hmam : IsMam desc link view)

include hdesc haddr hmam

theorem osdClMamWrite_mirrors (hready : Ready allowed view s)
    {data : List Byte} {addr : UInt64}
    (h : Servable allowed desc data.length addr.toNat) :
    Meets allowed (osdClMamWrite link desc s data addr.toNat)
      (fun result => Mirrors allowed view result
        (osdOk, (bytesPatch data addr).apply
          (targetMemory (view s.dev).mem))) := by
  have hrange := h.range
  have hpow := hdesc.addrs_le
  refine (osdClMamWrite_ready hdesc haddr hmam hready h.small hrange
    h.permitted).weaken ?_
  rintro result ⟨hok, hready', hmem⟩
  refine ⟨hok, hready', ?_⟩
  rw [hmem, targetMemory_write _ (by omega)]

theorem writeZeros_refines (hready : Ready allowed view s)
    (h : phdr.Transferable allowed desc elf) :
    Refines allowed (Mirrors allowed view)
      (if initWithZero phdr > 0 then do
        assertThat (allocates (phdr.pMemsz - phdr.pFilesz).toNat)
        osdClMamWrite link desc s
          (List.replicate (initWithZero phdr).toNat 0)
          (phdr.pPaddr + phdr.pFilesz).toNat
      else .ok (osdOk, s))
      (if initWithZero phdr > 0 then do
        assertThat (allocates (phdr.pMemsz - phdr.pFilesz).toNat)
        .ok (osdOk, (bytesPatch
          (List.replicate (initWithZero phdr).toNat 0)
          (phdr.pPaddr + phdr.pFilesz)).apply
            (targetMemory (view s.dev).mem))
      else .ok (osdOk, targetMemory (view s.dev).mem)) := by
  have hzeros := h.zeros
  rw [← List.length_replicate (n := (initWithZero phdr).toNat)
    (a := (0 : Byte))] at hzeros
  split
  · exact .assertThat (.of_meets
      (osdClMamWrite_mirrors hdesc haddr hmam hready hzeros))
  · exact .returned (.of_ready hready osdOk)

theorem loadPhdrOn_refines (hready : Ready allowed view s)
    (h : phdr.Transferable allowed desc elf) :
    Refines allowed (Mirrors allowed view)
      (loadPhdrOn link desc allocates elf phdr s)
      (loadPhdr (directMam allocates) elf phdr
        (targetMemory (view s.dev).mem)) := by
  unfold loadPhdrOn loadPhdr
  cases hchunk : elf.rawchunk phdr.pOffset phdr.pFilesz with
  | none => exact writeZeros_refines hdesc haddr hmam hready h
  | some data =>
      simp only [directMam_write]
      refine .meets_bind (osdClMamWrite_mirrors hdesc haddr hmam hready
        (h.file data hchunk)) ?_
      rintro ⟨rv, s'⟩ ⟨hok, hready', hmem⟩
      dsimp only at hok hready' hmem ⊢
      subst hok
      rw [← hmem]
      exact writeZeros_refines hdesc haddr hmam hready' h

theorem loadPhdrsOn_refines (phdrs : List (Option GElfPhdr))
    (hready : Ready allowed view s)
    (hentries : ∀ phdr ∈ phdrs.reduceOption,
      phdr.Transferable allowed desc elf) :
    Refines allowed (Mirrors allowed view)
      (loadPhdrsOn link desc allocates elf phdrs s)
      (loadPhdrs (directMam allocates) elf phdrs
        (targetMemory (view s.dev).mem)) := by
  induction phdrs generalizing s with
  | nil => exact .returned (.of_ready hready osdOk)
  | cons entry phdrs ih =>
      cases entry with
      | none => exact .returned (.of_ready hready osdErrorFailure)
      | some phdr =>
          rw [List.reduceOption_cons_of_some] at hentries
          obtain ⟨hentry, hentries⟩ := List.forall_mem_cons.mp hentries
          unfold loadPhdrsOn loadPhdrs
          refine (loadPhdrOn_refines hdesc haddr hmam hready hentry).bind ?_
          rintro ⟨rv, s'⟩ ⟨_, _⟩ ⟨rfl, hready', rfl⟩
          dsimp only
          split
          · exact .returned (.of_ready hready' rv)
          · exact ih hready' hentries

/-- The check leaves the memory as it is. -/
theorem verifyPhdrsOn_refines (phdrs : List (Option GElfPhdr))
    (hready : Ready allowed view s)
    (hentries : ∀ phdr ∈ phdrs.reduceOption,
      phdr.Transferable allowed desc elf) :
    Refines allowed
      (fun result rv => Mirrors allowed view result
        (rv, targetMemory (view s.dev).mem))
      (verifyPhdrsOn link desc allocates elf phdrs s)
      (verifyPhdrs (directMam allocates) elf phdrs
        (targetMemory (view s.dev).mem)) := by
  have hpow := hdesc.addrs_le
  induction phdrs generalizing s with
  | nil => exact .returned (.of_ready hready osdOk)
  | cons entry phdrs ih =>
      cases entry with
      | none => exact .returned (.of_ready hready osdErrorFailure)
      | some phdr =>
          rw [List.reduceOption_cons_of_some] at hentries
          obtain ⟨hentry, hentries⟩ := List.forall_mem_cons.mp hentries
          unfold verifyPhdrsOn verifyPhdrs
          cases hchunk : elf.rawchunk phdr.pOffset phdr.pFilesz with
          | none => exact .fault .outOfBounds
          | some elfData =>
              have hfile := hentry.file elfData hchunk
              have hrange := hfile.range
              refine .assertThat ?_
              rw [directMam_read, targetMemory_read _ (by omega)]
              dsimp only
              rw [← List.length_replicate (n := elfData.length)
                (a := (0 : Byte))] at hfile
              refine .meets_bind (osdClMamRead_ready hdesc haddr hmam hready
                hfile.small hfile.range hfile.permitted) ?_
              rintro ⟨rv, memoryData, s'⟩ ⟨hok, hdata, hready', hmem⟩
              dsimp only at hok hdata hready' hmem ⊢
              rw [List.length_replicate] at hdata
              subst hok hdata
              have hok : ¬osdFailed osdOk = true := by decide
              rw [if_neg hok, if_neg hok, ← hmem]
              by_cases hdiffers : Memory.read (view s'.dev).mem
                  phdr.pPaddr.toNat elfData.length ≠ elfData
              · rw [if_pos hdiffers, if_pos hdiffers]
                exact .returned (.of_ready hready' osdErrorMemVerifyFailed)
              · rw [if_neg hdiffers, if_neg hdiffers]
                exact ih hready' hentries

theorem osdMemaccessLoadelfOn_refines (connected verify : Bool)
    (file : ElfFile ElfImage)
    (hentries : ∀ elf, file = .object elf → ∀ phdr ∈ elf.table,
      phdr.Transferable allowed desc elf)
    (hready : Ready allowed view s) :
    Refines allowed (Mirrors allowed view)
      (osdMemaccessLoadelfOn link desc allocates connected file verify s)
      (osdMemaccessLoadelf (directMam allocates) connected file verify
        (targetMemory (view s.dev).mem)) := by
  unfold osdMemaccessLoadelfOn osdMemaccessLoadelf
  cases connected with
  | false => exact .returned (.of_ready hready osdErrorNotConnected)
  | true =>
      rw [if_neg (by decide), if_neg (by decide)]
      cases file with
      | versionMismatch => exact .returned (.of_ready hready osdErrorFailure)
      | notOpened => exact .returned (.of_ready hready osdErrorFile)
      | notRead => exact .returned (.of_ready hready osdErrorFailure)
      | object elf =>
          have hentries := hentries elf rfl
          dsimp only
          cases hphdrs : elf.phdrs with
          | none => exact .returned (.of_ready hready osdErrorFailure)
          | some phdrs =>
              rw [ElfImage.table, hphdrs, Option.getD_some] at hentries
              refine (loadPhdrsOn_refines hdesc haddr hmam phdrs hready
                hentries).bind ?_
              rintro ⟨retval, s'⟩ ⟨_, _⟩ ⟨rfl, hready', rfl⟩
              dsimp only
              split
              · exact .returned (.of_ready hready' retval)
              split
              · exact .returned (.of_ready hready' osdOk)
              · exact (verifyPhdrsOn_refines hdesc haddr hmam phdrs hready'
                  hentries).bind_ok fun _ _ hmirrors => hmirrors

theorem osdMemaccessLoadelfOn_loaded (hphdrs : elf.phdrs ≠ none)
    (hfiles : ∀ phdr ∈ elf.table, HasFileBytes elf phdr)
    (hfits : ∀ phdr ∈ elf.table, phdr.Fits desc)
    (haccepted : ∀ phdr ∈ elf.table,
      allowed .assertion ∨ phdr.Accepted desc)
    (hallocates : Allocates allowed allocates) (verify : Bool)
    (hready : Ready allowed view s) :
    Meets allowed
      (osdMemaccessLoadelfOn link desc allocates true (.object elf) verify s)
      (fun result =>
        osdMemaccessLoadelf (directMam allocates) true (.object elf) verify
            (targetMemory (view s.dev).mem) =
          .ok (result.1, targetMemory (view result.2.dev).mem) ∧
        Idle view result.2 ∧
        Loaded elf verify (targetMemory (view s.dev).mem)
          (targetMemory (view result.2.dev).mem) result.1) := by
  have hentries : ∀ elf', ElfFile.object elf = .object elf' →
      ∀ phdr ∈ elf'.table, phdr.Transferable allowed desc elf' := by
    rintro _ ⟨rfl⟩ phdr h
    exact (hfits phdr h).transferable (hfiles phdr h) (haccepted phdr h)
  have hdirect := loadelf_direct hallocates hphdrs hfiles verify
    (targetMemory (view s.dev).mem)
  refine ((osdMemaccessLoadelfOn_refines hdesc haddr hmam true verify
    (.object elf) hentries hready).meets hdirect).weaken ?_
  rintro ⟨rv, s'⟩ ⟨⟨_, _⟩, hsame, ⟨rfl, hready', rfl⟩, hloaded⟩
  exact ⟨hsame, hready'.idle, hloaded⟩

end Entries

end Osd.Client
