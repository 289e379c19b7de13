import Osd.Foundation.Buffer
import Osd.Foundation.Selection
import Osd.Packet

/-!
# Function table of the core trace logger

`osd_coretracelogger_set_elf` collects the functions in the symbol tables of an
ELF file and sorts them by their address.  The sort marks an entry that was
taken with the largest address.
-/

namespace Osd.Client

open Osd.Foundation

def osdErrorFile : OsdResult := -12

def shtSymtab : Nat := 2
def sttNotype : Byte := 0
def sttFunc : Byte := 2

/-! ## ELF files -/

structure GElfSym where
  stName : Nat
  stInfo : Byte
  stValue : UInt64

structure ElfScn where
  shType : Nat
  shSize : Nat
  shEntsize : Nat
  shLink : Nat
  syms : List GElfSym

structure ElfObject where
  sections : List ElfScn
  strptr : Nat → Nat → Option String

/-- What opening a file gives. -/
inductive ElfFile (α : Type) where
  | versionMismatch
  | notOpened
  | notRead
  | object (elf : α)

def elf32StType (stInfo : Byte) : Byte := stInfo &&& 0xf

def isFunction (sym : GElfSym) : Bool :=
  elf32StType sym.stInfo = sttFunc ∨ elf32StType sym.stInfo = sttNotype

/-- A symbol that is not there leaves the variable of the caller unset. -/
def gelfGetsym (scn : ElfScn) (i : Nat) : Outcome GElfSym :=
  match scn.syms[i]? with
  | none => .error .outOfBounds
  | some sym => .ok sym

/-- `strdup` of a string of the file. -/
def elfStrdup (elf : ElfObject) (link name : Nat) : Outcome String :=
  match elf.strptr link name with
  | none => .error .outOfBounds
  | some string => .ok string

/-! ## Collecting the functions -/

structure ElfFunctionTable where
  addr : UInt64
  name : String
  deriving DecidableEq

/-- The entries that `realloc` adds are indeterminate; they read as zero
here. -/
def reallocTable (tab : List ElfFunctionTable) (numFuncs : Nat) :
    List ElfFunctionTable :=
  tab.take numFuncs ++ List.replicate (numFuncs - tab.length) ⟨0, ""⟩

/-- The first pass, which counts the functions. -/
def countFunctions (scn : ElfScn) : Nat → Nat → Nat → Outcome Nat
  | 0, _, f => .ok f
  | count + 1, i, f => do
      let sym ← gelfGetsym scn i
      countFunctions scn count (i + 1) (if isFunction sym then f + 1 else f)

/-- The second pass, which stores them. -/
def storeFunctions (elf : ElfObject) (scn : ElfScn) (base : Nat) :
    Nat → Nat → Nat → List ElfFunctionTable → Outcome (List ElfFunctionTable)
  | 0, _, _, tab => .ok tab
  | count + 1, i, f, tab => do
      let sym ← gelfGetsym scn i
      if isFunction sym then do
        inBounds (base + f < tab.length)
        let name ← elfStrdup elf scn.shLink sym.stName
        storeFunctions elf scn base count (i + 1) (f + 1)
          (tab.set (base + f) ⟨sym.stValue, name⟩)
      else storeFunctions elf scn base count (i + 1) f tab

def collectSection (elf : ElfObject) (scn : ElfScn)
    (table : Nat × List ElfFunctionTable) :
    Outcome (Nat × List ElfFunctionTable) :=
  if scn.shType = shtSymtab then do
    -- the division is defined for a size other than zero
    inBounds (scn.shEntsize ≠ 0)
    let allsyms := scn.shSize / scn.shEntsize
    let f ← countFunctions scn allsyms 0 0
    let base := table.1
    let numFuncs := base + f
    let tab ← storeFunctions elf scn base allsyms 0 0
      (reallocTable table.2 numFuncs)
    .ok (numFuncs, tab)
  else .ok table

def collectSections (elf : ElfObject) :
    List ElfScn → Nat × List ElfFunctionTable →
      Outcome (Nat × List ElfFunctionTable)
  | [], table => .ok table
  | scn :: sections, table => do
      let table ← collectSection elf scn table
      collectSections elf sections table

/-! ## Sorting them -/

/-- The inner loop, from entry `j` on, with `min` and the index of `minp`. -/
def findMin : List ElfFunctionTable → Nat → UInt64 × Option Nat →
    UInt64 × Option Nat
  | [], _, found => found
  | entry :: tab, j, found =>
      if entry.addr < found.1 then findMin tab (j + 1) (entry.addr, some j)
      else findMin tab (j + 1) found

/-- The outer loop.  `minp` is dereferenced also when it is unset. -/
def sortFunctions : (count : Nat) → List ElfFunctionTable →
    Outcome (List.Vector ElfFunctionTable count)
  | 0, _ => .ok List.Vector.nil
  | count + 1, tab =>
      match (findMin tab 0 (-1, none)).2 with
      | none => .error .outOfBounds
      | some minp =>
          match tab[minp]? with
          | none => .error .outOfBounds
          | some entry => do
              let funcs ← sortFunctions count
                (tab.set minp { entry with addr := -1 })
              .ok (funcs.cons entry)

/-- The table has `num_funcs` entries. -/
structure OsdCoretraceloggerCtx where
  numFuncs : Nat
  funcs : Option (List.Vector ElfFunctionTable numFuncs)

/-- The table of before is freed.  The file is what `elf_filename` names, if
it is not NULL. -/
def osdCoretraceloggerSetElf (_ctx : OsdCoretraceloggerCtx) :
    Option (ElfFile ElfObject) → Outcome (OsdResult × OsdCoretraceloggerCtx)
  | none => .ok (osdOk, ⟨0, none⟩)
  | some .versionMismatch => .ok (osdErrorFailure, ⟨0, none⟩)
  | some .notOpened => .ok (osdErrorFile, ⟨0, none⟩)
  | some .notRead => .ok (osdErrorFailure, ⟨0, none⟩)
  | some (.object elf) => do
      let (numFuncs, tab) ← collectSections elf elf.sections (0, [])
      let funcs ← sortFunctions numFuncs tab
      .ok (osdOk, ⟨numFuncs, some funcs⟩)

/-! ## What the table holds -/

/-- The file has the symbols that the headers of its tables announce, and the
names of its functions. -/
structure ElfObject.Faithful (elf : ElfObject) : Prop where
  entsize : ∀ scn ∈ elf.sections, scn.shType = shtSymtab → scn.shEntsize ≠ 0
  allsyms : ∀ scn ∈ elf.sections, scn.shType = shtSymtab →
    scn.shSize / scn.shEntsize = scn.syms.length
  named : ∀ scn ∈ elf.sections, scn.shType = shtSymtab →
    ∀ sym ∈ scn.syms, isFunction sym →
      ∃ name, elf.strptr scn.shLink sym.stName = some name

def functionOf (elf : ElfObject) (scn : ElfScn) (sym : GElfSym) :
    ElfFunctionTable :=
  ⟨sym.stValue, (elf.strptr scn.shLink sym.stName).getD ""⟩

def sectionFunctions (elf : ElfObject) (scn : ElfScn) :
    List ElfFunctionTable :=
  if scn.shType = shtSymtab then
    (scn.syms.filter isFunction).map (functionOf elf scn)
  else []

/-- The functions of all symbol tables, in the order of the file. -/
def elfFunctions (elf : ElfObject) : List ElfFunctionTable :=
  elf.sections.flatMap (sectionFunctions elf)

def addrKey (entry : ElfFunctionTable) : Nat := entry.addr.toNat

/-- The call returns OSD_OK with the sorted functions of the file. -/
def BuildsTable (ctx : OsdCoretraceloggerCtx) (elf : ElfObject) : Prop :=
  ∃ ctx', osdCoretraceloggerSetElf ctx (some (.object elf)) =
      .ok (osdOk, ctx') ∧
    ctx'.numFuncs = (elfFunctions elf).length ∧
    ∃ funcs, ctx'.funcs = some funcs ∧
      StableSorted addrKey (elfFunctions elf) funcs.toList

/-! ## The collected functions -/

section Collected

variable {elf : ElfObject} {scn : ElfScn}

theorem countFunctions_ok (scn : ElfScn) (count i f : Nat)
    (h : i + count = scn.syms.length) :
    countFunctions scn count i f =
      .ok (f + (scn.syms.drop i).countP isFunction) := by
  induction count generalizing i f with
  | zero =>
      have hdone : scn.syms.drop i = [] := List.drop_eq_nil_of_le (by omega)
      simp [countFunctions, hdone]
  | succ count ih =>
      have hi : i < scn.syms.length := by omega
      unfold countFunctions gelfGetsym
      rw [List.getElem?_eq_getElem hi]
      simp only [ok_bind]
      rw [ih (i + 1) _ (by omega), List.drop_eq_getElem_cons hi,
        List.countP_cons]
      split
      · congr 1
        omega
      · rfl

/-- The invariant of the second pass: the entries in front are stored, and as
many are left as the first pass counted. -/
theorem storeFunctions_ok (elf : ElfObject) (scn : ElfScn) (count i : Nat)
    (stored : List ElfFunctionTable) (base f : Nat) (hbase : stored.length = base + f)
    (h : i + count = scn.syms.length)
    (hnamed : ∀ sym ∈ scn.syms, isFunction sym →
      ∃ name, elf.strptr scn.shLink sym.stName = some name) :
    storeFunctions elf scn base count i f
        (stored ++ List.replicate ((scn.syms.drop i).countP isFunction)
          ⟨0, ""⟩) =
      .ok (stored ++ ((scn.syms.drop i).filter isFunction).map
        (functionOf elf scn)) := by
  induction count generalizing i stored f with
  | zero =>
      have hdone : scn.syms.drop i = [] := List.drop_eq_nil_of_le (by omega)
      simp [storeFunctions, hdone]
  | succ count ih =>
      have hi : i < scn.syms.length := by omega
      unfold storeFunctions gelfGetsym
      rw [List.getElem?_eq_getElem hi, List.drop_eq_getElem_cons hi]
      simp only [ok_bind]
      by_cases hfunction : isFunction scn.syms[i]
      · obtain ⟨name, hname⟩ :=
          hnamed scn.syms[i] (List.getElem_mem hi) hfunction
        have hentry : functionOf elf scn scn.syms[i] =
            ⟨scn.syms[i].stValue, name⟩ := by
          rw [functionOf, hname]
          rfl
        rw [if_pos hfunction, List.countP_cons_of_pos hfunction,
          List.filter_cons_of_pos hfunction, inBounds_bind]
        · unfold elfStrdup
          rw [hname, ← hbase]
          simp only [ok_bind, set_next]
          have hlength :
              (stored ++ [functionOf elf scn scn.syms[i]]).length =
                base + (f + 1) := by
            rw [List.length_append, List.length_singleton, hbase]
            rfl
          rw [← hentry, ih (i + 1) _ (f + 1) hlength (by omega),
            List.map_cons, List.append_assoc]
          rfl
        · rw [List.length_append, List.length_replicate]
          omega
      · rw [if_neg hfunction, List.countP_cons_of_neg hfunction,
          List.filter_cons_of_neg hfunction]
        exact ih (i + 1) stored f hbase (by omega)

theorem reallocTable_grow (tab : List ElfFunctionTable) (more : Nat) :
    reallocTable tab (tab.length + more) =
      tab ++ List.replicate more ⟨0, ""⟩ := by
  rw [reallocTable, List.take_of_length_le (Nat.le_add_right _ _),
    Nat.add_sub_cancel_left]

theorem collectSection_ok (hfaithful : elf.Faithful)
    (hscn : scn ∈ elf.sections) (tab : List ElfFunctionTable) :
    collectSection elf scn (tab.length, tab) =
      .ok ((tab ++ sectionFunctions elf scn).length,
        tab ++ sectionFunctions elf scn) := by
  unfold collectSection sectionFunctions
  by_cases hsymtab : scn.shType = shtSymtab
  · have hcount := countFunctions_ok scn scn.syms.length 0 0
      (Nat.zero_add _)
    have hstore := storeFunctions_ok elf scn
      scn.syms.length 0 tab tab.length 0 rfl (Nat.zero_add _)
      (hfaithful.named scn hscn hsymtab)
    rw [List.drop_zero] at hcount hstore
    rw [if_pos hsymtab, if_pos hsymtab,
      inBounds_bind (hfaithful.entsize scn hscn hsymtab),
      hfaithful.allsyms scn hscn hsymtab]
    dsimp only
    rw [hcount]
    simp only [ok_bind, Nat.zero_add]
    rw [reallocTable_grow, hstore, ok_bind, List.length_append,
      List.length_map, List.countP_eq_length_filter]
  · rw [if_neg hsymtab, if_neg hsymtab, List.append_nil]

/-- All sections, with the table so far. -/
theorem collectSections_ok (hfaithful : elf.Faithful)
    (sections : List ElfScn) (h : ∀ scn ∈ sections, scn ∈ elf.sections)
    (tab : List ElfFunctionTable) :
    collectSections elf sections (tab.length, tab) =
      .ok ((tab ++ sections.flatMap (sectionFunctions elf)).length,
        tab ++ sections.flatMap (sectionFunctions elf)) := by
  induction sections generalizing tab with
  | nil => simp [collectSections]
  | cons scn sections ih =>
      obtain ⟨hscn, hsections⟩ := List.forall_mem_cons.mp h
      unfold collectSections
      rw [collectSection_ok hfaithful hscn tab, ok_bind, ih hsections,
        List.flatMap_cons, List.append_assoc]

end Collected

/-! ## The sorted functions -/

section Sorted

def untaken (entry : ElfFunctionTable) : Bool := entry.addr ≠ -1

theorem untaken_iff (entry : ElfFunctionTable) :
    untaken entry ↔ entry.addr < -1 := by
  have hlt := entry.addr.toNat_lt
  have hlast : (-1 : UInt64).toNat = 2 ^ 64 - 1 := rfl
  unfold untaken
  rw [decide_eq_true_eq, UInt64.lt_iff_toNat_lt, ne_eq, ← UInt64.toNat_inj,
    hlast]
  omega

theorem findMin_none (tab : List ElfFunctionTable) (j : Nat)
    (found : UInt64 × Option Nat)
    (h : ∀ entry ∈ tab, ¬entry.addr < found.1) :
    findMin tab j found = found := by
  induction tab generalizing j with
  | nil => rfl
  | cons entry tab ih =>
      obtain ⟨hentry, htab⟩ := List.forall_mem_cons.mp h
      rw [findMin, if_neg hentry]
      exact ih (j + 1) htab

theorem findMin_firstMin (front back : List ElfFunctionTable)
    {entry : ElfFunctionTable} (hmin : FirstMin addrKey front entry back)
    (j : Nat) (found : UInt64 × Option Nat) (h : entry.addr < found.1) :
    findMin (front ++ entry :: back) j found =
      (entry.addr, some (j + front.length)) := by
  induction front generalizing j found with
  | nil =>
      rw [List.nil_append, findMin, if_pos h]
      apply findMin_none
      intro other hother hlt
      exact absurd (UInt64.lt_iff_toNat_lt.mp hlt)
        (Nat.not_lt.mpr (hmin.back other hother))
  | cons first front ih =>
      obtain ⟨hfirst, hfront⟩ := List.forall_mem_cons.mp hmin.front
      have hlt : entry.addr < first.addr := UInt64.lt_iff_toNat_lt.mpr hfirst
      have hindex : j + 1 + front.length = j + (first :: front).length := by
        rw [List.length_cons]
        omega
      rw [List.cons_append, findMin]
      split
      · rw [ih ⟨hfront, hmin.back⟩ (j + 1) (first.addr, some j) hlt, hindex]
      · rw [ih ⟨hfront, hmin.back⟩ (j + 1) found h, hindex]

def ElfFunctionTable.taken (entry : ElfFunctionTable) : ElfFunctionTable :=
  { entry with addr := -1 }

theorem not_untaken_taken (entry : ElfFunctionTable) :
    ¬untaken entry.taken := by
  simp [untaken, ElfFunctionTable.taken]

section Steps

variable {front back : List ElfFunctionTable} {entry : ElfFunctionTable}

theorem sortFunctions_succ (hmin : FirstMin addrKey front entry back)
    (h : untaken entry) (count : Nat) :
    sortFunctions (count + 1) (front ++ entry :: back) =
      (sortFunctions count (front ++ entry.taken :: back)) >>=
        fun funcs => .ok (funcs.cons entry) := by
  have hfound := findMin_firstMin front back hmin 0 (-1, none)
    ((untaken_iff entry).mp h)
  have hentry : (front ++ entry :: back)[front.length]? = some entry := by
    rw [List.getElem?_append_right (Nat.le_refl _), Nat.sub_self,
      List.getElem?_cons_zero]
  have hset : (front ++ entry :: back).set front.length entry.taken =
      front ++ entry.taken :: back := by
    rw [List.set_append_right _ _ (Nat.le_refl _), Nat.sub_self,
      List.set_cons_zero]
  rw [sortFunctions, hfound, Nat.zero_add]
  dsimp only
  rw [hentry]
  dsimp only
  rw [← hset]
  rfl

theorem filter_taken :
    (front ++ entry.taken :: back).filter untaken =
      front.filter untaken ++ back.filter untaken := by
  rw [List.filter_append, List.filter_cons_of_neg (not_untaken_taken entry)]

theorem filter_untaken (h : untaken entry) :
    (front ++ entry :: back).filter untaken =
      front.filter untaken ++ entry :: back.filter untaken := by
  rw [List.filter_append, List.filter_cons_of_pos h]

end Steps

theorem sortFunctions_unset (count : Nat) {tab : List ElfFunctionTable}
    (h : ∀ entry ∈ tab, ¬untaken entry) :
    sortFunctions (count + 1) tab = .error .outOfBounds := by
  have hnone : findMin tab 0 (-1, none) = (-1, none) := by
    apply findMin_none
    intro entry hentry hlt
    exact h entry hentry ((untaken_iff entry).mpr hlt)
  rw [sortFunctions, hnone]

theorem exists_untaken_min {tab : List ElfFunctionTable}
    (h : ¬∀ entry ∈ tab, ¬untaken entry) :
    ∃ front entry back, tab = front ++ entry :: back ∧
      FirstMin addrKey front entry back ∧ untaken entry := by
  push Not at h
  obtain ⟨other, hother, huntaken⟩ := h
  have hne : tab ≠ [] := List.ne_nil_of_mem hother
  obtain ⟨front, entry, back, rfl, hmin⟩ :=
    exists_firstMin addrKey tab hne
  refine ⟨front, entry, back, rfl, hmin, ?_⟩
  rcases List.mem_append.mp hother with hfront | hback
  · rw [untaken_iff] at huntaken ⊢
    exact UInt64.lt_trans (UInt64.lt_iff_toNat_lt.mpr
      (hmin.front other hfront)) huntaken
  · rcases List.mem_cons.mp hback with rfl | hback
    · exact huntaken
    · rw [untaken_iff] at huntaken ⊢
      exact UInt64.lt_of_le_of_lt (UInt64.le_iff_toNat_le.mpr
        (hmin.back other hback)) huntaken

theorem sortFunctions_ok (count : Nat) (tab : List ElfFunctionTable)
    (h : (tab.filter untaken).length = count) :
    ∃ funcs, sortFunctions count tab = .ok funcs ∧
      Selects addrKey (tab.filter untaken) funcs.toList := by
  induction count generalizing tab with
  | zero =>
      rw [List.length_eq_zero_iff.mp h]
      exact ⟨List.Vector.nil, rfl, .nil⟩
  | succ count ih =>
      have hleft : ¬∀ entry ∈ tab, ¬untaken entry := by
        intro hnone
        rw [List.filter_eq_nil_iff.mpr hnone] at h
        cases h
      obtain ⟨front, entry, back, rfl, hmin, huntaken⟩ :=
        exists_untaken_min hleft
      rw [filter_untaken huntaken] at h ⊢
      have hrest : ((front ++ entry.taken :: back).filter untaken).length =
          count := by
        rw [filter_taken, List.length_append]
        rw [List.length_append, List.length_cons] at h
        omega
      obtain ⟨funcs, hrun, hselects⟩ := ih _ hrest
      rw [filter_taken] at hselects
      have hfirst : FirstMin addrKey (front.filter untaken) entry
          (back.filter untaken) :=
        ⟨fun other hother => hmin.front other (List.mem_of_mem_filter hother),
          fun other hother => hmin.back other (List.mem_of_mem_filter hother)⟩
      refine ⟨funcs.cons entry, ?_, ?_⟩
      · rw [sortFunctions_succ hmin huntaken, hrun]
        rfl
      · rw [List.Vector.toList_cons]
        exact .cons hfirst hselects

theorem sortFunctions_fault (count : Nat) (tab : List ElfFunctionTable)
    (h : (tab.filter untaken).length < count) :
    sortFunctions count tab = .error .outOfBounds := by
  induction count generalizing tab with
  | zero => exact absurd h (Nat.not_lt_zero _)
  | succ count ih =>
      by_cases hnone : ∀ entry ∈ tab, ¬untaken entry
      · exact sortFunctions_unset count hnone
      · obtain ⟨front, entry, back, rfl, hmin, huntaken⟩ :=
          exists_untaken_min hnone
        rw [sortFunctions_succ hmin huntaken, ih]
        · rfl
        · rw [filter_untaken huntaken, List.length_append,
            List.length_cons] at h
          rw [filter_taken, List.length_append]
          omega

end Sorted

theorem setElf_object (ctx : OsdCoretraceloggerCtx) {elf : ElfObject}
    (hfaithful : elf.Faithful) :
    osdCoretraceloggerSetElf ctx (some (.object elf)) =
      (sortFunctions (elfFunctions elf).length (elfFunctions elf)) >>=
        fun funcs => .ok (osdOk, ⟨(elfFunctions elf).length, some funcs⟩) := by
  have hcollected := collectSections_ok hfaithful elf.sections
    (fun _ hscn => hscn) []
  rw [List.length_nil, List.nil_append] at hcollected
  unfold osdCoretraceloggerSetElf
  dsimp only
  rw [hcollected]
  rfl

/-- The function table is built if and only if no function has the address
that marks the entries that were taken. -/
theorem buildsTable_iff (ctx : OsdCoretraceloggerCtx) {elf : ElfObject}
    (hfaithful : elf.Faithful) :
    BuildsTable ctx elf ↔ ∀ entry ∈ elfFunctions elf, entry.addr ≠ -1 := by
  unfold BuildsTable
  rw [setElf_object ctx hfaithful]
  constructor
  · rintro ⟨ctx', hrun, -⟩ entry hentry hlast
    obtain ⟨funcs, hsort, -⟩ := bind_eq_ok.mp hrun
    have htaken : ((elfFunctions elf).filter untaken).length <
        (elfFunctions elf).length := by
      rw [List.length_filter_lt_length_iff_exists]
      exact ⟨entry, hentry, by simp [untaken, hlast]⟩
    rw [sortFunctions_fault _ _ htaken] at hsort
    cases hsort
  · intro h
    have hall : (elfFunctions elf).filter untaken = elfFunctions elf := by
      apply List.filter_eq_self.mpr
      intro entry hentry
      simpa [untaken] using h entry hentry
    obtain ⟨funcs, hsort, hselects⟩ := sortFunctions_ok _ (elfFunctions elf)
      (by rw [hall])
    rw [hall] at hselects
    rw [hsort]
    exact ⟨_, rfl, rfl, funcs, rfl, hselects.stableSorted⟩

/-- A symbol table of two functions and a data object, and one of another
function. -/
def elfWithFunctions (first second : UInt64) : ElfObject where
  sections :=
    [⟨shtSymtab, 72, 24, 1, [⟨1, 0x12, first⟩, ⟨2, 0x11, 0⟩, ⟨3, 0x10, 5⟩]⟩,
      ⟨3, 10, 0, 0, []⟩, ⟨shtSymtab, 24, 24, 1, [⟨4, 0x02, second⟩]⟩]
  strptr := fun _ name => if name = 1 then some "main" else some "init"

theorem faithful_elfWithFunctions (first second : UInt64) :
    (elfWithFunctions first second).Faithful where
  entsize := by simp [elfWithFunctions, shtSymtab]
  allsyms := by simp [elfWithFunctions, shtSymtab]
  named := by
    intro scn _ _ sym _ _
    unfold elfWithFunctions
    dsimp only
    split
    · exact ⟨"main", rfl⟩
    · exact ⟨"init", rfl⟩

theorem buildsTable_elfWithFunctions :
    BuildsTable ⟨0, none⟩ (elfWithFunctions 0x80 5) := by
  apply (buildsTable_iff ⟨0, none⟩ (faithful_elfWithFunctions 0x80 5)).mpr
  have hfunctions : elfFunctions (elfWithFunctions 0x80 5) =
      [⟨0x80, "main"⟩, ⟨5, "init"⟩, ⟨5, "init"⟩] := by decide
  rw [hfunctions]
  decide

theorem unset_minimum :
    osdCoretraceloggerSetElf ⟨0, none⟩
        (some (.object (elfWithFunctions 0x80 (-1)))) = .error .outOfBounds ∧
      ¬BuildsTable ⟨0, none⟩ (elfWithFunctions 0x80 (-1)) := by
  have hfault : osdCoretraceloggerSetElf ⟨0, none⟩
      (some (.object (elfWithFunctions 0x80 (-1)))) =
        .error .outOfBounds := by
    rw [setElf_object _ (faithful_elfWithFunctions 0x80 (-1))]
    rfl
  refine ⟨hfault, ?_⟩
  rintro ⟨ctx', hrun, -⟩
  rw [hfault] at hrun
  cases hrun

end Osd.Client
