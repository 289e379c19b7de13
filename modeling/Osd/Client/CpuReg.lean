import Osd.Client.Describe
import Osd.HostMod.RegAccess

/-!
# CPU registers behind a core debug module

A core debug module shows 0x8000 CPU registers at a time, those of the page in
its register CORE_REG_UPPER.  The descriptor of the host remembers the page.
A register access may fail although the module has performed it.
-/

namespace Osd.Client

open Osd.Foundation Osd.HostMod

/-! ## The module -/

inductive CpuAccess where
  | read (number : Nat) (value : List Word)
  | write (number : Nat) (value : List Word)
  deriving DecidableEq

structure Cdm where
  modVendor : Word
  modType : Word
  modVersion : Word
  coreCtrl : Word
  coreRegUpper : Word
  coreDataWidth : Word
  cpuReg : Nat → List Word

/-- The CPU register behind a register of the window. -/
def Cdm.cpuRegNumber (cdm : Cdm) (regAddr : Word) : Nat :=
  cdm.coreRegUpper.toNat * 0x8000 + (regAddr.toNat - 0x8000)

def Cdm.load (cdm : Cdm) (regAddr : Word) : List Word :=
  if 0x8000 ≤ regAddr.toNat then cdm.cpuReg (cdm.cpuRegNumber regAddr)
  else if regAddr = osdRegBaseModVendor then [cdm.modVendor]
  else if regAddr = osdRegBaseModType then [cdm.modType]
  else if regAddr = osdRegBaseModVersion then [cdm.modVersion]
  else if regAddr = osdRegCdmCoreCtrl then [cdm.coreCtrl]
  else if regAddr = osdRegCdmCoreRegUpper then [cdm.coreRegUpper]
  else if regAddr = osdRegCdmCoreDataWidth then [cdm.coreDataWidth]
  else []

def Cdm.store (cdm : Cdm) (regAddr : Word) (value : List Word) : Cdm :=
  if 0x8000 ≤ regAddr.toNat then
    { cdm with
      cpuReg := Function.update cdm.cpuReg (cdm.cpuRegNumber regAddr) value }
  else if regAddr = osdRegCdmCoreCtrl then
    { cdm with coreCtrl := value.headD 0 }
  else if regAddr = osdRegCdmCoreRegUpper then
    { cdm with coreRegUpper := value.headD 0 }
  else cdm

/-! ## Register accesses -/

/-- What becomes of a register access: it is performed and answered, or it
fails for the host, performed or not. -/
inductive Fate where
  | answered
  | failed (rv : OsdResult) (hrv : osdFailed rv = true) (performed : Bool)

structure AccessResult where
  rv : OsdResult
  value : List Word
  cpuAccesses : List CpuAccess

def Cdm.cpuAccesses (cdm : Cdm) (access : Access) : List CpuAccess :=
  if 0x8000 ≤ access.regAddr.toNat then
    match access.wrData with
    | none => [.read (cdm.cpuRegNumber access.regAddr)
        (cdm.load access.regAddr)]
    | some regVal => [.write (cdm.cpuRegNumber access.regAddr)
        (regVal.take (access.regSizeBit / 16))]
  else []

def Cdm.perform (cdm : Cdm) (access : Access) : Cdm :=
  match access.wrData with
  | none => cdm
  | some regVal =>
      cdm.store access.regAddr (regVal.take (access.regSizeBit / 16))

/-- `osd_hostmod_reg_read` or `osd_hostmod_reg_write` with the module. -/
def Cdm.access (diaddr : Word) (cdm : Cdm) (access : Access) (fate : Fate) :
    Outcome (Cdm × AccessResult) := do
  let _ ← access.request diaddr
  match fate with
  | .answered =>
      let value := if access.wrData.isNone then cdm.load access.regAddr else []
      .ok (cdm.perform access, ⟨osdOk, value, cdm.cpuAccesses access⟩)
  | .failed rv _ true =>
      .ok (cdm.perform access, ⟨rv, [], cdm.cpuAccesses access⟩)
  | .failed rv _ false => .ok (cdm, ⟨rv, [], []⟩)

/-- The reads of 16 bit registers of the module. -/
def Cdm.read16 (cdm : Cdm) (fate : Word → Fate) : RegRead := fun regAddr =>
  match fate regAddr with
  | .answered => .ok ((cdm.load regAddr).headD 0)
  | .failed rv _ _ => .error rv

/-! ## The client -/

structure CdmState where
  cdm : Cdm
  desc : OsdCdmDesc

def pageOf (regAddr : Word) : Word := regAddr >>> 15

/-- The write of CORE_REG_UPPER, if the page is another than the one that the
descriptor remembers. -/
def selectPage (diaddr : Word) (s : CdmState) (regAddrUpper : Word)
    (fate : Fate) : Outcome (CdmState × OsdResult) :=
  if s.desc.coreRegUpper ≠ regAddrUpper then do
    let (cdm, result) ← s.cdm.access diaddr
      ⟨UInt16.ofNat s.desc.diAddr, osdRegCdmCoreRegUpper, 16,
        some [regAddrUpper], false⟩ fate
    if osdFailed result.rv then .ok ({ s with cdm }, result.rv)
    else
      .ok (⟨cdm, { s.desc with coreRegUpper := regAddrUpper }⟩, osdOk)
  else .ok (s, osdOk)

/-- A call of the client: `cl_cdm_cpureg_read` without a value to write, and
what becomes of its register accesses. -/
structure CpuregCall where
  regAddr : Word
  regVal : Option (List Word)
  blocking : Bool
  upperFate : Fate
  regFate : Fate

def clCdmCpureg (diaddr : Word) (call : CpuregCall) (s : CdmState) :
    Outcome (CdmState × AccessResult) := do
  let (s, rv) ← selectPage diaddr s (pageOf call.regAddr) call.upperFate
  if osdFailed rv then .ok (s, ⟨rv, [], []⟩)
  else do
    let cdmRegAddr := 0x8000 + (call.regAddr &&& 0x7fff)
    let coreDw := s.desc.coreDataWidth
    assertThat (coreDw ≠ 128)
    let (cdm, result) ← s.cdm.access diaddr
      ⟨UInt16.ofNat s.desc.diAddr, cdmRegAddr, coreDw.toNat, call.regVal,
        call.blocking⟩ call.regFate
    .ok ({ s with cdm }, result)

def clCdmCpuregRead (diaddr regAddr : Word) (blocking : Bool)
    (upperFate regFate : Fate) (s : CdmState) :
    Outcome (CdmState × AccessResult) :=
  clCdmCpureg diaddr ⟨regAddr, none, blocking, upperFate, regFate⟩ s

def clCdmCpuregWrite (diaddr : Word) (regVal : List Word) (regAddr : Word)
    (blocking : Bool) (upperFate regFate : Fate) (s : CdmState) :
    Outcome (CdmState × AccessResult) :=
  clCdmCpureg diaddr ⟨regAddr, some regVal, blocking, upperFate, regFate⟩ s

/-! ## Runs of calls -/

structure CpuregEvent where
  call : CpuregCall
  hit : Bool
  result : AccessResult

def CpuregStep (diaddr : Word) (s : CdmState) (event : CpuregEvent)
    (s' : CdmState) : Prop :=
  event.hit = decide (s.desc.coreRegUpper = pageOf event.call.regAddr) ∧
    clCdmCpureg diaddr event.call s = .ok (s', event.result)

/-- A call that returns OSD_OK has accessed its register, with its value. -/
def CpuregEvent.Exact (width : Nat) (event : CpuregEvent) : Prop :=
  event.result.rv = osdOk →
    event.result.cpuAccesses =
      match event.call.regVal with
      | none => [.read event.call.regAddr.toNat event.result.value]
      | some regVal =>
          [.write event.call.regAddr.toNat (regVal.take (width / 16))]

/-- A page write that the module performed has failed for the host. -/
def CpuregEvent.PageLost (event : CpuregEvent) : Prop :=
  event.hit = false ∧
    ∃ rv hrv, event.call.upperFate = .failed rv hrv true

def CpuregEvent.PageWritten (event : CpuregEvent) : Prop :=
  event.hit = false ∧ event.call.upperFate = .answered

/-! ## Single accesses -/

def Cdm.turned (cdm : Cdm) (page : Word) : Cdm :=
  { cdm with coreRegUpper := page }

section

variable {diaddr : Word} {cdm cdm' : Cdm} {access : Access} {fate : Fate}
  {result : AccessResult}

theorem Cdm.access_answered
    (h : cdm.access diaddr access .answered = .ok (cdm', result)) :
    cdm' = cdm.perform access ∧ result =
      ⟨osdOk, if access.wrData.isNone then cdm.load access.regAddr else [],
        cdm.cpuAccesses access⟩ := by
  unfold Cdm.access at h
  obtain ⟨_, -, h⟩ := bind_eq_ok.mp h
  cases h
  exact ⟨rfl, rfl⟩

theorem Cdm.access_failed {rv : OsdResult} {hrv : osdFailed rv = true}
    {performed : Bool}
    (h : cdm.access diaddr access (.failed rv hrv performed) =
      .ok (cdm', result)) :
    cdm' = (if performed then cdm.perform access else cdm) ∧
      result.rv = rv := by
  unfold Cdm.access at h
  obtain ⟨_, -, h⟩ := bind_eq_ok.mp h
  cases performed <;> cases h <;> exact ⟨rfl, rfl⟩

theorem Cdm.perform_page (cdm : Cdm) (diAddr page : Word) :
    cdm.perform ⟨diAddr, osdRegCdmCoreRegUpper, 16, some [page], false⟩ =
      cdm.turned page := by
  unfold Cdm.perform Cdm.store
  simp [osdRegCdmCoreRegUpper, osdRegCdmCoreCtrl, Cdm.turned]

/-- The page stays with an access behind the window. -/
theorem Cdm.perform_window (cdm : Cdm) (access : Access)
    (h : 0x8000 ≤ access.regAddr.toNat) :
    (cdm.perform access).coreRegUpper = cdm.coreRegUpper := by
  unfold Cdm.perform
  split
  · rfl
  · rw [Cdm.store, if_pos h]

theorem Cdm.access_window (h : 0x8000 ≤ access.regAddr.toNat)
    (haccess : cdm.access diaddr access fate = .ok (cdm', result)) :
    cdm'.coreRegUpper = cdm.coreRegUpper := by
  cases fate with
  | answered =>
      obtain ⟨rfl, -⟩ := Cdm.access_answered haccess
      exact cdm.perform_window access h
  | failed rv hrv performed =>
      obtain ⟨rfl, -⟩ := Cdm.access_failed haccess
      cases performed
      · rfl
      · exact cdm.perform_window access h

end

/-! ## The remembered page -/

section

variable {diaddr : Word} {s s' : CdmState}

theorem selectPage_hit {page : Word} {fate : Fate} {rv : OsdResult}
    (h : selectPage diaddr s page fate = .ok (s', rv))
    (hhit : s.desc.coreRegUpper = page) : s' = s ∧ rv = osdOk := by
  unfold selectPage at h
  rw [if_neg (not_not.mpr hhit)] at h
  cases h
  exact ⟨rfl, rfl⟩

theorem selectPage_answered {page : Word} {rv : OsdResult}
    (h : selectPage diaddr s page .answered = .ok (s', rv))
    (hmiss : s.desc.coreRegUpper ≠ page) :
    s' = ⟨s.cdm.turned page, { s.desc with coreRegUpper := page }⟩ ∧
      rv = osdOk := by
  unfold selectPage at h
  rw [if_pos hmiss] at h
  obtain ⟨⟨cdm, result⟩, haccess, h⟩ := bind_eq_ok.mp h
  obtain ⟨rfl, rfl⟩ := Cdm.access_answered haccess
  rw [Cdm.perform_page] at h
  cases h
  exact ⟨rfl, rfl⟩

theorem selectPage_failed {page : Word} {rv rv' : OsdResult}
    {hrv : osdFailed rv = true} {performed : Bool}
    (h : selectPage diaddr s page (.failed rv hrv performed) = .ok (s', rv'))
    (hmiss : s.desc.coreRegUpper ≠ page) :
    s' = { s with cdm := if performed then s.cdm.turned page else s.cdm } ∧
      rv' = rv := by
  unfold selectPage at h
  rw [if_pos hmiss] at h
  obtain ⟨⟨cdm, result⟩, haccess, h⟩ := bind_eq_ok.mp h
  obtain ⟨hcdm, hresult⟩ := Cdm.access_failed haccess
  dsimp only at h
  rw [hresult, if_pos hrv] at h
  cases h
  rw [hcdm, Cdm.perform_page]
  exact ⟨rfl, rfl⟩

theorem toNat_pageOf (regAddr : Word) :
    (pageOf regAddr).toNat = regAddr.toNat / 0x8000 := by
  unfold pageOf
  rw [UInt16.toNat_shiftRight]
  exact Nat.shiftRight_eq_div_pow _ 15

def windowOf (regAddr : Word) : Word := 0x8000 + (regAddr &&& 0x7fff)

theorem toNat_windowOf (regAddr : Word) :
    (windowOf regAddr).toNat = 0x8000 + regAddr.toNat % 0x8000 := by
  have hlow : (regAddr &&& 0x7fff).toNat = regAddr.toNat % 0x8000 := by
    rw [UInt16.toNat_and]
    exact Nat.and_two_pow_sub_one_eq_mod _ 15
  have hmod := Nat.mod_lt regAddr.toNat (by decide : 0x8000 > 0)
  unfold windowOf
  rw [UInt16.toNat_add, hlow]
  exact Nat.mod_eq_of_lt (by simp; omega)

/-- The register behind the window is the one that is meant just when the
module has the page of that one. -/
theorem Cdm.cpuRegNumber_windowOf (cdm : Cdm) (regAddr : Word) :
    cdm.cpuRegNumber (windowOf regAddr) = regAddr.toNat ↔
      cdm.coreRegUpper = pageOf regAddr := by
  have hpage := toNat_pageOf regAddr
  unfold Cdm.cpuRegNumber
  rw [toNat_windowOf, ← UInt16.toNat_inj, hpage]
  omega

theorem clCdmCpureg_cases {call : CpuregCall} {result : AccessResult}
    (h : clCdmCpureg diaddr call s = .ok (s', result)) :
    ∃ selected rv,
      selectPage diaddr s (pageOf call.regAddr) call.upperFate =
        .ok (selected, rv) ∧
      (osdFailed rv = true ∧ s' = selected ∧ result = ⟨rv, [], []⟩ ∨
        osdFailed rv = false ∧ s'.desc = selected.desc ∧
          selected.cdm.access diaddr
            ⟨UInt16.ofNat selected.desc.diAddr, windowOf call.regAddr,
              selected.desc.coreDataWidth.toNat, call.regVal, call.blocking⟩
            call.regFate = .ok (s'.cdm, result)) := by
  unfold clCdmCpureg at h
  obtain ⟨⟨selected, rv⟩, hselect, h⟩ := bind_eq_ok.mp h
  refine ⟨selected, rv, hselect, ?_⟩
  dsimp only at h
  split at h
  · rename_i hfailed
    cases h
    exact .inl ⟨hfailed, rfl, rfl⟩
  · rename_i hfailed
    obtain ⟨-, h⟩ := assertThat_bind_eq_ok.mp h
    obtain ⟨⟨cdm, result⟩, haccess, h⟩ := bind_eq_ok.mp h
    cases h
    exact .inr ⟨by simpa using hfailed, rfl, haccess⟩

end

/-! ## Exactness -/

/-- The descriptor is stale after a lost page write. -/
structure Paged (width : Word) (history : List CpuregEvent) (s : CdmState) :
    Prop where
  stale : Since CpuregEvent.PageLost CpuregEvent.PageWritten history ↔
    s.cdm.coreRegUpper ≠ s.desc.coreRegUpper
  width : s.desc.coreDataWidth = width

section

variable {diaddr width : Word} {s s' : CdmState} {event : CpuregEvent}
  {history : List CpuregEvent}

/-- The page write of a call. -/
theorem Paged.selectPage {rv : OsdResult} {selected : CdmState}
    (h : Paged width history s)
    (hhit : event.hit = decide (s.desc.coreRegUpper = pageOf event.call.regAddr))
    (hselect : selectPage diaddr s (pageOf event.call.regAddr)
      event.call.upperFate = .ok (selected, rv)) :
    Paged width (history ++ [event]) selected := by
  by_cases hpage : s.desc.coreRegUpper = pageOf event.call.regAddr
  · obtain ⟨rfl, -⟩ := selectPage_hit hselect hpage
    have hsame : event.hit = true := by simp [hhit, hpage]
    refine ⟨?_, h.width⟩
    rw [since_snoc, ← h.stale]
    simp [CpuregEvent.PageLost, CpuregEvent.PageWritten, hsame]
  · have hmiss : event.hit = false := by simp [hhit, hpage]
    cases hfate : event.call.upperFate with
    | answered =>
        rw [hfate] at hselect
        obtain ⟨rfl, -⟩ := selectPage_answered hselect hpage
        refine ⟨?_, h.width⟩
        rw [since_snoc]
        simp [CpuregEvent.PageLost, CpuregEvent.PageWritten, hmiss, hfate,
          Cdm.turned]
    | failed rv' hrv performed =>
        rw [hfate] at hselect
        obtain ⟨rfl, -⟩ := selectPage_failed hselect hpage
        refine ⟨?_, h.width⟩
        rw [since_snoc, h.stale]
        cases performed
        · simp [CpuregEvent.PageLost, CpuregEvent.PageWritten, hmiss, hfate]
        · simp [CpuregEvent.PageLost, hmiss, hfate, hrv, Cdm.turned,
            Ne.symm hpage]

theorem Paged.step (h : Paged width history s)
    (hstep : CpuregStep diaddr s event s') :
    Paged width (history ++ [event]) s' := by
  obtain ⟨hhit, hcall⟩ := hstep
  obtain ⟨selected, rv, hselect, hrest⟩ := clCdmCpureg_cases hcall
  have hselected := h.selectPage hhit hselect
  rcases hrest with ⟨-, rfl, -⟩ | ⟨-, hdesc, haccess⟩
  · exact hselected
  · have hupper := Cdm.access_window
      (by rw [toNat_windowOf]; exact Nat.le_add_right _ _) haccess
    refine ⟨?_, ?_⟩
    · rw [hupper, hdesc]
      exact hselected.stale
    · rw [hdesc]
      exact hselected.width

/-- The register that an answered call has accessed. -/
theorem exact_iff_page {cdm cdm' : Cdm} {diAddr : Word} {blocking : Bool}
    (hfate : event.call.regFate = .answered)
    (haccess : cdm.access diaddr
      ⟨diAddr, windowOf event.call.regAddr, width.toNat, event.call.regVal,
        blocking⟩ event.call.regFate = .ok (cdm', event.result)) :
    event.Exact width.toNat ↔
      cdm.coreRegUpper = pageOf event.call.regAddr := by
  have hwindow : 0x8000 ≤ (windowOf event.call.regAddr).toNat := by
    rw [toNat_windowOf]
    exact Nat.le_add_right _ _
  rw [hfate] at haccess
  obtain ⟨-, hresult⟩ := Cdm.access_answered haccess
  rw [← cdm.cpuRegNumber_windowOf]
  unfold CpuregEvent.Exact
  rw [hresult]
  unfold Cdm.cpuAccesses
  dsimp only
  rw [if_pos hwindow]
  cases event.call.regVal with
  | none => simp
  | some regVal => simp

theorem CpuregEvent.exact_of_failed {rv : OsdResult}
    (hresult : event.result.rv = rv) (hrv : osdFailed rv = true) (width : Nat) :
    event.Exact width := by
  intro hok
  rw [← hresult, hok] at hrv
  cases hrv

/-- With the page selected, the module has the page that is meant, unless the
call hits and the descriptor is stale. -/
theorem selected_page {rv : OsdResult} {selected : CdmState}
    (hhit : event.hit = decide (s.desc.coreRegUpper = pageOf event.call.regAddr))
    (hselect : selectPage diaddr s (pageOf event.call.regAddr)
      event.call.upperFate = .ok (selected, rv)) (hrv : osdFailed rv = false) :
    selected.cdm.coreRegUpper = pageOf event.call.regAddr ↔
      (event.hit = true → s.cdm.coreRegUpper = s.desc.coreRegUpper) := by
  by_cases hpage : s.desc.coreRegUpper = pageOf event.call.regAddr
  · obtain ⟨rfl, -⟩ := selectPage_hit hselect hpage
    simp [hhit, hpage]
  · cases hfate : event.call.upperFate with
    | answered =>
        rw [hfate] at hselect
        obtain ⟨rfl, -⟩ := selectPage_answered hselect hpage
        simp [hhit, hpage, Cdm.turned]
    | failed rv' hrv' performed =>
        rw [hfate] at hselect
        obtain ⟨-, rfl⟩ := selectPage_failed hselect hpage
        rw [hrv] at hrv'
        cases hrv'

theorem Paged.exact_iff (h : Paged width history s)
    (hstep : CpuregStep diaddr s event s') :
    event.Exact width.toNat ↔
      (event.hit = true → event.call.regFate = .answered →
        ¬Since CpuregEvent.PageLost CpuregEvent.PageWritten history) := by
  obtain ⟨hhit, hcall⟩ := hstep
  obtain ⟨selected, rv, hselect, hrest⟩ := clCdmCpureg_cases hcall
  have hwidth := (h.selectPage hhit hselect).width
  rw [h.stale, not_not]
  rcases hrest with ⟨hfailed, -, hresult⟩ | ⟨hsucceeded, -, haccess⟩
  · refine iff_of_true (event.exact_of_failed (by rw [hresult]) hfailed _) ?_
    intro hsame
    have hpage : s.desc.coreRegUpper = pageOf event.call.regAddr := by
      simpa [hhit] using hsame
    obtain ⟨-, rfl⟩ := selectPage_hit hselect hpage
    cases hfailed
  · cases hfate : event.call.regFate with
    | answered =>
        rw [hwidth] at haccess
        rw [exact_iff_page hfate haccess, selected_page hhit hselect hsucceeded]
        simp
    | failed rv' hrv performed =>
        rw [hfate] at haccess
        obtain ⟨-, hresult⟩ := Cdm.access_failed haccess
        exact iff_of_true (event.exact_of_failed hresult hrv _) (by simp)

end

theorem paged_of_run {diaddr : Word} {cdm : Cdm} {desc : OsdCdmDesc}
    {history : List CpuregEvent} {s : CdmState}
    (hupper : cdm.coreRegUpper = desc.coreRegUpper)
    (run : Runs (CpuregStep diaddr) ⟨cdm, desc⟩ history s) :
    Paged desc.coreDataWidth history s := by
  refine run.invariant (I := Paged desc.coreDataWidth) ⟨?_, rfl⟩ ?_
  · simp [Since, hupper]
  · intro _ before event after _ hbefore hstep
    exact hbefore.step hstep

/-- The descriptor takes the page from the module. -/
theorem upper_of_getDesc {cdm : Cdm} {fate : Word → Fate} {cdmDiAddr : Nat}
    {desc : OsdCdmDesc}
    (h : osdClCdmGetDesc (cdm.read16 fate) cdmDiAddr = .ok desc) :
    cdm.coreRegUpper = desc.coreRegUpper := by
  have hread := osdClCdmGetDesc_upper h
  unfold Cdm.read16 at hread
  split at hread
  · have hupper := Except.ok.inj hread
    simpa [Cdm.load, osdRegCdmCoreRegUpper, osdRegBaseModVendor,
      osdRegBaseModType, osdRegBaseModVersion, osdRegCdmCoreCtrl] using hupper
  · cases hread

/-- Every call of a run that returns OSD_OK has accessed exactly its register,
if and only if no call is answered that hits the remembered page after the
response to a performed page write was lost. -/
theorem exact_iff_no_stale_hit {diaddr : Word} {cdm : Cdm}
    {fate : Word → Fate} {cdmDiAddr : Nat} {desc : OsdCdmDesc}
    {history : List CpuregEvent} {s : CdmState}
    (hdesc : osdClCdmGetDesc (cdm.read16 fate) cdmDiAddr = .ok desc)
    (run : Runs (CpuregStep diaddr) ⟨cdm, desc⟩ history s) :
    (∀ event ∈ history, event.Exact desc.coreDataWidth.toNat) ↔
      ∀ front event back, history = front ++ event :: back →
        event.hit = true → event.call.regFate = .answered →
          ¬Since CpuregEvent.PageLost CpuregEvent.PageWritten front := by
  have hupper := upper_of_getDesc hdesc
  have hat : ∀ front event back, history = front ++ event :: back →
      (event.Exact desc.coreDataWidth.toNat ↔
        (event.hit = true → event.call.regFate = .answered →
          ¬Since CpuregEvent.PageLost CpuregEvent.PageWritten front)) := by
    rintro front event back rfl
    obtain ⟨before, after, hbefore, hstep, -⟩ := run.step_at
    exact (paged_of_run hupper hbefore).exact_iff hstep
  constructor
  · intro hexact front event back hsplit
    exact (hat front event back hsplit).mp (hexact event (by simp [hsplit]))
  · intro hclean event hevent
    obtain ⟨front, back, hsplit⟩ := List.append_of_mem hevent
    exact (hat front event back hsplit).mpr (hclean front event back hsplit)

def exampleCdm : Cdm where
  modVendor := osdModuleVendorOsd
  modType := osdModuleTypeStdCdm
  modVersion := 0
  coreCtrl := 0
  coreRegUpper := 0
  coreDataWidth := 16
  cpuReg := fun number => [UInt16.ofNat number]

def exampleDesc : OsdCdmDesc := ⟨2, 0, 0, 16⟩

theorem osdClCdmGetDesc_example :
    osdClCdmGetDesc (exampleCdm.read16 fun _ => .answered) 2 =
      .ok exampleDesc := by
  rfl

/-- A read of register 0x8003, whose page write fails or not. -/
def upperRead (upperFate : Fate) : CpuregCall :=
  ⟨0x8003, none, false, upperFate, .answered⟩

def lowerRead : CpuregCall := ⟨0x0003, none, false, .answered, .answered⟩

/-- Both calls, and what the second one accesses. -/
theorem two_reads (upperFate : Fate) (hit : Bool) (accesses : List CpuAccess)
    (hreads : ∃ middle first final second,
      clCdmCpureg 0 (upperRead upperFate) ⟨exampleCdm, exampleDesc⟩ =
        .ok (middle, first) ∧
      clCdmCpureg 0 lowerRead middle = .ok (final, second) ∧
      hit = decide (middle.desc.coreRegUpper = pageOf 0x0003) ∧
      second.rv = osdOk ∧ second.cpuAccesses = accesses) :
    ∃ (first second : CpuregEvent) (final : CdmState),
      Runs (CpuregStep 0) ⟨exampleCdm, exampleDesc⟩ [first, second] final ∧
      first.call = upperRead upperFate ∧ first.hit = false ∧
      second.call = lowerRead ∧ second.hit = hit ∧ second.result.rv = osdOk ∧
      second.result.cpuAccesses = accesses := by
  obtain ⟨middle, first, final, second, hfirst, hsecond, hhit, hrv, haccesses⟩ :=
    hreads
  refine ⟨⟨upperRead upperFate, false, first⟩, ⟨lowerRead, hit, second⟩, final,
    ?_, rfl, rfl, rfl, rfl, hrv, haccesses⟩
  have hother : (0 : Word) ≠ pageOf 0x8003 := by decide
  have hstart : CpuregStep 0 ⟨exampleCdm, exampleDesc⟩
      ⟨upperRead upperFate, false, first⟩ middle :=
    ⟨by simp [exampleDesc, upperRead, hother], hfirst⟩
  have hlater : CpuregStep 0 middle ⟨lowerRead, hit, second⟩ final :=
    ⟨hhit, hsecond⟩
  exact (Runs.single hstart).snoc hlater

theorem exact_when_answered :
    ∃ history s, Runs (CpuregStep 0) ⟨exampleCdm, exampleDesc⟩ history s ∧
      history.length = 2 ∧ ∀ event ∈ history, event.Exact 16 := by
  obtain ⟨first, second, s, run, hfirst, hmiss, -, hhit, -, -⟩ :=
    two_reads .answered false [.read 3 [3]]
      ⟨_, _, _, _, rfl, rfl, rfl, rfl, rfl⟩
  refine ⟨_, s, run, rfl,
    (exact_iff_no_stale_hit osdClCdmGetDesc_example run).mpr ?_⟩
  intro front event back hsplit hsame
  have hevent : event ∈ [first, second] := by simp [hsplit]
  rcases List.mem_pair.mp hevent with rfl | rfl
  · simp [hmiss] at hsame
  · simp [hhit] at hsame

/-- The response to the page write is lost, and the next read returns the value
of register 0x8003 for register 0x0003. -/
theorem not_exact_after_lost_response :
    ∃ history s, Runs (CpuregStep 0) ⟨exampleCdm, exampleDesc⟩ history s ∧
      ∃ event ∈ history, ¬event.Exact 16 := by
  obtain ⟨first, second, s, run, -, -, hcall, -, hrv, haccesses⟩ :=
    two_reads (.failed osdErrorTimedout rfl true) true [.read 0x8003 [0x8003]]
      ⟨_, _, _, _, rfl, rfl, rfl, rfl, rfl⟩
  refine ⟨_, s, run, second, by simp, ?_⟩
  intro hexact
  have hwrong := hexact hrv
  rw [haccesses, hcall] at hwrong
  simp [lowerRead] at hwrong

end Osd.Client
