import Osd.Client.Terminal

/-!
# Starting of trace loggers

The start of a logger describes the module, directs its events to the host and
activates them.  Each of the accesses to registers of 16 bit may fail.
-/

namespace Osd.Client

open Osd.Foundation Osd.HostMod

variable {σ α β : Type}

/-- A call that returns an error, or `OSD_OK` and a value. -/
abbrev RegCall (σ α : Type) := σ → Outcome (Except OsdResult α × σ)

/-- The second call is made if the first one does not fail. -/
def RegCall.next (call : RegCall σ α) (rest : α → RegCall σ β) :
    RegCall σ β := fun s => do
  match ← call s with
  | (.error rv, s) => .ok (.error rv, s)
  | (.ok value, s) => rest value s

def RegCall.returns (value : α) : RegCall σ α := fun s => .ok (.ok value, s)

def valueOrError (rv : OsdResult) (value : α) : Except OsdResult α :=
  if osdFailed rv then .error rv else .ok value

section

variable (bus : Bus σ) (diaddr : Word)

section

variable (blocking : Bool)

def regRead16 (moduleAddr regAddr : Word) : RegCall σ Word := fun s => do
  let (rv, value, s) ← osdHostmodRegRead bus diaddr s moduleAddr regAddr 16
    blocking
  .ok (valueOrError rv (value.headD 0), s)

def regWrite16 (val moduleAddr regAddr : Word) : RegCall σ Unit := fun s => do
  let (rv, _, s) ← osdHostmodRegWrite bus diaddr s [val] moduleAddr regAddr 16
    blocking
  .ok (valueOrError rv (), s)

def regSetbit16 (bitnum : Nat) (bitval : Bool) (moduleAddr regAddr : Word) :
    RegCall σ Unit := fun s => do
  let (rv, s) ← osdHostmodRegSetbit bus diaddr s bitnum bitval moduleAddr
    regAddr 16 blocking
  .ok (valueOrError rv (), s)

end

def osdHostmodModDescribeOn (diAddr : Word) : RegCall σ OsdModuleDesc :=
  (regRead16 bus diaddr false diAddr osdRegBaseModVendor).next fun vendor =>
  (regRead16 bus diaddr false diAddr osdRegBaseModType).next fun type =>
  (regRead16 bus diaddr false diAddr osdRegBaseModVersion).next fun version =>
  .returns ⟨diAddr, vendor, type, version⟩

/-- The calls of `osd_cl_*_get_desc` behind the check of the module. -/
def describedAs (diAddr typeStd : Word) (rest : RegCall σ α) : RegCall σ α :=
  fun s => do
    match ← osdHostmodModDescribeOn bus diaddr diAddr s with
    | (.error _, s) => .ok (.error osdErrorWrongModule, s)
    | (.ok desc, s) =>
        if desc.vendor = osdModuleVendorOsd ∧ desc.type = typeStd ∧
          desc.version = 0 then rest s
        else .ok (.error osdErrorWrongModule, s)

def readWidthOn (diAddr regAddr : Word) : RegCall σ Word :=
  (regRead16 bus diaddr false diAddr regAddr).next fun regvalue s => do
    assertThat (ValidWidth regvalue)
    .ok (.ok regvalue, s)

def osdClStmGetDescOn (stmDiAddr : Word) : RegCall σ OsdStmDesc :=
  describedAs bus diaddr stmDiAddr osdModuleTypeStdStm
    ((readWidthOn bus diaddr stmDiAddr osdRegStmValwidth).next
      fun valueWidthBit => .returns ⟨stmDiAddr.toNat, valueWidthBit⟩)

def osdClCtmGetDescOn (ctmDiAddr : Word) : RegCall σ OsdCtmDesc :=
  describedAs bus diaddr ctmDiAddr osdModuleTypeStdCtm
    ((readWidthOn bus diaddr ctmDiAddr osdRegCtmAddrWidth).next
      fun addrWidthBit =>
    (readWidthOn bus diaddr ctmDiAddr osdRegCtmDataWidth).next
      fun dataWidthBit =>
    .returns ⟨ctmDiAddr.toNat, addrWidthBit, dataWidthBit⟩)

def osdHostmodModSetEventDestOn (diAddr : Word) : RegCall σ Unit :=
  regWrite16 bus diaddr false diaddr diAddr osdRegBaseModEventDest

def osdHostmodModSetEventActiveOn (diAddr : Word) (enabled : Bool) :
    RegCall σ Unit :=
  regSetbit16 bus diaddr false osdRegBaseModCsActiveBit enabled diAddr
    osdRegBaseModCs

/-- What the starts of both loggers do with the descriptor. -/
def startEvents (diAddr : Word) (getDesc : RegCall σ α) : RegCall σ α :=
  getDesc.next fun desc =>
  (osdHostmodModSetEventDestOn bus diaddr diAddr).next fun _ =>
  (osdHostmodModSetEventActiveOn bus diaddr diAddr true).next fun _ =>
  .returns desc

def osdSystraceloggerStart (stmDiAddr : Word) : RegCall σ OsdStmDesc :=
  startEvents bus diaddr stmDiAddr (osdClStmGetDescOn bus diaddr stmDiAddr)

def osdCoretraceloggerStart (ctmDiAddr : Word) : RegCall σ OsdCtmDesc :=
  startEvents bus diaddr ctmDiAddr (osdClCtmGetDescOn bus diaddr ctmDiAddr)

/-- The stop of both loggers. -/
def stopEvents (diAddr : Word) (s : σ) : Outcome (OsdResult × σ) := do
  let (rv, s) ← osdHostmodRegSetbit bus diaddr s osdRegBaseModCsActiveBit
    false diAddr osdRegBaseModCs 16 false
  .ok (if rv = osdErrorTimedout then osdOk else rv, s)

def osdSystraceloggerStop (stmDiAddr : Word) (s : σ) :
    Outcome (OsdResult × σ) :=
  stopEvents bus diaddr stmDiAddr s

def osdCoretraceloggerStop (ctmDiAddr : Word) (s : σ) :
    Outcome (OsdResult × σ) :=
  stopEvents bus diaddr ctmDiAddr s

/-! ## Order of the calls -/

theorem describedAs_next (diAddr typeStd : Word) (call : RegCall σ α)
    (rest : α → RegCall σ β) :
    (describedAs bus diaddr diAddr typeStd call).next rest =
      describedAs bus diaddr diAddr typeStd (call.next rest) := by
  funext s
  unfold describedAs RegCall.next
  dsimp only
  cases osdHostmodModDescribeOn bus diaddr diAddr s with
  | error fault => rfl
  | ok result =>
      obtain ⟨desc, s'⟩ := result
      cases desc with
      | error rv => rfl
      | ok desc =>
          simp only [ok_bind]
          split <;> rfl

theorem regSetbit16_eq (blocking : Bool) (bitnum : Nat) (bitval : Bool)
    (moduleAddr regAddr : Word) :
    regSetbit16 bus diaddr blocking bitnum bitval moduleAddr regAddr =
      (regRead16 bus diaddr blocking moduleAddr regAddr).next (fun value s =>
        bitInserted value bitnum bitval >>= fun val =>
          regWrite16 bus diaddr blocking val moduleAddr regAddr s) := by
  funext s
  unfold regSetbit16 osdHostmodRegSetbit regRead16 regWrite16 RegCall.next
  dsimp only
  cases osdHostmodRegRead bus diaddr s moduleAddr regAddr 16 blocking with
  | error fault => rfl
  | ok result =>
      obtain ⟨rv, value, s'⟩ := result
      simp only [ok_bind, valueOrError]
      cases hfailed : osdFailed rv with
      | true => simp [hfailed]
      | false =>
          simp only [Bool.false_eq_true, if_false]
          cases bitInserted (value.headD 0) bitnum bitval with
          | error fault => rfl
          | ok val =>
              simp only [ok_bind]
              cases osdHostmodRegWrite bus diaddr s' [val] moduleAddr regAddr
                16 blocking with
              | error fault => rfl
              | ok written => rfl

end

/-! ## Accesses that may fail -/

/-- The next `n` requests are answered. -/
def AllAnswered (t : Target) (n : Nat) : Prop :=
  ∀ i < n, (t.fates (t.sent.length + i)).failure = none

/-- The request behind the next `j` is the first one that fails. -/
structure FailsAt (t : Target) (j : Nat) (rv : OsdResult) : Prop where
  answered : AllAnswered t j
  failure : (t.fates (t.sent.length + j)).failure = some rv

/-- No register of a module changed but those that may be written. -/
def KeepsOthers (writes : Word → Word → Prop) (t t' : Target) : Prop :=
  ∀ moduleAddr regAddr, ¬writes moduleAddr regAddr →
    t'.regs moduleAddr regAddr = t.regs moduleAddr regAddr

/-- The call made `n` requests, or the ones up to the first that fails. -/
inductive Performed (n : Nat) (writes : Word → Word → Prop)
    (post : α → Target → Prop) (t : Target) :
    Except OsdResult α × Target → Prop
  | failed {j : Nat} {rv : OsdResult} {t' : Target} (hlt : j < n)
      (hfails : FailsAt t j rv)
      (hsent : t'.sent.length = t.sent.length + (j + 1))
      (hkept : KeepsOthers writes t t') :
      Performed n writes post t (.error rv, t')
  | done {value : α} {t' : Target} (hanswered : AllAnswered t n)
      (hsent : t'.sent.length = t.sent.length + n)
      (hfates : t'.fates = t.fates) (hkept : KeepsOthers writes t t')
      (hpost : post value t') : Performed n writes post t (.ok value, t')

def Performs (n : Nat) (writes : Word → Word → Prop) (call : RegCall Target α)
    (post : α → Target → Prop) (t : Target) : Prop :=
  ∃ result, call t = .ok result ∧ Performed n writes post t result

section Performs

variable {n m j : Nat} {rv : OsdResult} {writes : Word → Word → Prop}
  {call : RegCall Target α} {post : α → Target → Prop}
  {rest : α → RegCall Target β} {post' : β → Target → Prop}
  {t t' t'' : Target}

theorem allAnswered_zero : AllAnswered t 0 := fun i hi =>
  absurd hi (Nat.not_lt_zero i)

theorem AllAnswered.append (h : AllAnswered t n)
    (hsent : t'.sent.length = t.sent.length + n)
    (hfates : t'.fates = t.fates) (h' : AllAnswered t' m) :
    AllAnswered t (n + m) := by
  intro i hi
  by_cases hlt : i < n
  · exact h i hlt
  · have hrest := h' (i - n) (by omega)
    have hplace : t.sent.length + n + (i - n) = t.sent.length + i := by omega
    rwa [hfates, hsent, hplace] at hrest

theorem FailsAt.append (h : AllAnswered t n)
    (hsent : t'.sent.length = t.sent.length + n)
    (hfates : t'.fates = t.fates) (h' : FailsAt t' j rv) :
    FailsAt t (n + j) rv := by
  refine ⟨h.append hsent hfates h'.answered, ?_⟩
  rw [← Nat.add_assoc, ← hsent, ← hfates]
  exact h'.failure

theorem AllAnswered.not_failsAt (h : AllAnswered t n) (hlt : j < n) :
    ¬FailsAt t j rv := by
  intro hfails
  have hnone := h j hlt
  rw [hfails.failure] at hnone
  cases hnone

theorem FailsAt.unique {j' : Nat} {rv' : OsdResult} (h : FailsAt t j rv)
    (h' : FailsAt t j' rv') : j = j' ∧ rv = rv' := by
  rcases Nat.lt_trichotomy j j' with hlt | rfl | hlt
  · exact absurd h (h'.answered.not_failsAt hlt)
  · exact ⟨rfl, Option.some.inj (h.failure.symm.trans h'.failure)⟩
  · exact absurd h' (h.answered.not_failsAt hlt)

theorem KeepsOthers.trans (h : KeepsOthers writes t t')
    (h' : KeepsOthers writes t' t'') : KeepsOthers writes t t'' :=
  fun moduleAddr regAddr hother =>
    (h' moduleAddr regAddr hother).trans (h moduleAddr regAddr hother)

theorem keepsOthers_of_eq (h : t'.regs = t.regs) : KeepsOthers writes t t' :=
  fun moduleAddr regAddr _ => by rw [h]

theorem Performs.next (h : Performs n writes call post t)
    (hrest : ∀ value t', post value t' →
      Performs m writes (rest value) post' t') :
    Performs (n + m) writes (call.next rest) post' t := by
  obtain ⟨result, hcall, hperformed⟩ := h
  unfold Performs RegCall.next
  rw [hcall]
  cases hperformed with
  | failed hlt hfails hsent hkept =>
      exact ⟨_, rfl, .failed (by omega) hfails hsent hkept⟩
  | done hanswered hsent hfates hkept hpost =>
      obtain ⟨result', hcall', hperformed'⟩ := hrest _ _ hpost
      refine ⟨result', hcall', ?_⟩
      cases hperformed' with
      | failed hlt hfails hsent' hkept' =>
          exact .failed (by omega) (.append hanswered hsent hfates hfails)
            (by omega) (hkept.trans hkept')
      | done hanswered' hsent' hfates' hkept' hpost' =>
          exact .done (hanswered.append hsent hfates hanswered') (by omega)
            (hfates'.trans hfates) (hkept.trans hkept') hpost'

theorem Performs.weaken (h : Performs n writes call post t)
    {weaker : α → Target → Prop}
    (hpost : ∀ value t', post value t' → weaker value t') :
    Performs n writes call weaker t := by
  obtain ⟨result, hcall, hperformed⟩ := h
  refine ⟨result, hcall, ?_⟩
  cases hperformed with
  | failed hlt hfails hsent hkept => exact .failed hlt hfails hsent hkept
  | done hanswered hsent hfates hkept hpost' =>
      exact .done hanswered hsent hfates hkept (hpost _ _ hpost')

theorem performs_returns {value : α} (h : post value t) :
    Performs 0 writes (.returns value) post t :=
  ⟨_, rfl, .done allAnswered_zero rfl rfl (keepsOthers_of_eq rfl) h⟩

theorem performs_next_returns {value : β}
    (h : Performs n writes call post t)
    (hpost : ∀ first t', post first t' → post' value t') :
    Performs n writes (call.next fun _ => .returns value) post' t :=
  h.next fun first t' hfirst => performs_returns (hpost first t' hfirst)

end Performs

/-! ## The registers -/

section Registers

variable {diaddr moduleAddr regAddr : Word} {writes : Word → Word → Prop}
  {blocking : Bool} {t : Target}

/-- One access.  If it is served, the registers are `served` behind it. -/
theorem performs_access {access : Access} {req : DiPacket}
    {served : Registers} {words : List Word} (value : List Word → α)
    (hreq : access.request diaddr = .ok req.toPacket)
    (hwords : access.respWords ≤ 8)
    (haccessed : Accessed diaddr t.regs access served osdOk words)
    (hserved : ∀ regs resp, t.regs.serve req = some (regs, resp) →
      regs = served)
    (hkept : KeepsOthers writes t { t with regs := served }) :
    Performs 1 writes
      (fun s => do
        let (rv, words, s) ← regAccess Target.bus diaddr s access
        .ok (valueOrError rv (value words), s))
      (fun result t' => result = value words ∧ t'.regs = served) t := by
  unfold Performs
  dsimp only
  cases hnext : t.next.failure with
  | some failure =>
      obtain ⟨t', hcall, hsent, hregs⟩ :=
        regAccess_failure hreq hwords hnext
      have hkept' : KeepsOthers writes t t' := by
        rcases hregs with hsame | ⟨resp, hserve⟩
        · exact keepsOthers_of_eq hsame
        · intro moduleAddr' regAddr' hother
          rw [hserved _ _ hserve]
          exact hkept moduleAddr' regAddr' hother
      rw [hcall, ok_bind]
      dsimp only
      rw [valueOrError, if_pos (Fate.osdFailed_failure hnext)]
      exact ⟨_, rfl, .failed Nat.one_pos ⟨allAnswered_zero, hnext⟩
        (by rw [hsent, List.length_append]; rfl) hkept'⟩
  | none =>
      obtain ⟨req', hcall⟩ :=
        regAccess_accessed haccessed (Fate.answered_of_failure hnext)
      rw [hcall, ok_bind]
      refine ⟨(.ok (value words), _), rfl,
        .done ?_ ?_ rfl hkept ⟨rfl, rfl⟩⟩
      · intro i hi
        obtain rfl := Nat.lt_one_iff.mp hi
        exact hnext
      · rw [Target.logged, List.length_append]
        rfl

theorem performs_read {val : Word}
    (hreg : t.regs moduleAddr regAddr = some (value16 val)) :
    Performs 1 writes
      (regRead16 Target.bus diaddr blocking moduleAddr regAddr)
      (fun value t' => value = val ∧ t'.regs = t.regs) t := by
  have hwidth : (value16 val).width = .w16 := rfl
  have haccessed := accessed_read diaddr moduleAddr regAddr t.regs
    (value16 val) blocking hreg
    (by rw [RegWidth.getSubtypeRegReadReq_eq, hwidth]; rfl)
    (by
      rw [getSubtypeRegReadSuccessResp, RegWidth.getSubtypeRegReadReq_eq,
        hwidth]
      rfl)
  exact performs_access (fun words => words.headD 0)
    (request_setbitRead diaddr moduleAddr regAddr blocking)
    (RegWidth.words_le .w16) haccessed (fun _ _ h => serve_setbitRead h)
    (keepsOthers_of_eq rfl)

/-- Three registers that are read one after the other. -/
theorem performs_reads {first second third : Word} {a b c : Word}
    (value : Word → Word → Word → α)
    (ha : t.regs moduleAddr first = some (value16 a))
    (hb : t.regs moduleAddr second = some (value16 b))
    (hc : t.regs moduleAddr third = some (value16 c)) :
    Performs 3 writes
      ((regRead16 Target.bus diaddr blocking moduleAddr first).next fun a =>
        (regRead16 Target.bus diaddr blocking moduleAddr second).next fun b =>
        (regRead16 Target.bus diaddr blocking moduleAddr third).next fun c =>
        .returns (value a b c))
      (fun result t' => result = value a b c ∧ t'.regs = t.regs) t := by
  refine Performs.next (n := 1) (m := 2) (performs_read ha) ?_
  rintro _ t₁ ⟨rfl, h₁⟩
  refine Performs.next (n := 1) (m := 1)
    (performs_read (by rw [h₁]; exact hb)) ?_
  rintro _ t₂ ⟨rfl, h₂⟩
  refine Performs.next (n := 1) (m := 0)
    (performs_read (by rw [h₂, h₁]; exact hc)) ?_
  rintro _ t₃ ⟨rfl, h₃⟩
  exact performs_returns ⟨rfl, by rw [h₃, h₂, h₁]⟩

theorem serve_setbitWrite {regs regs' : Registers} {resp : DiPacket}
    {old val : Word}
    (hreg : regs moduleAddr regAddr = some (value16 old))
    (h : regs.serve (setbitWriteReq diaddr moduleAddr regAddr blocking val) =
      some (regs', resp)) :
    regs' = regs.set moduleAddr regAddr (value16 val) := by
  have hsubtype : (writeOf moduleAddr regAddr (value16 val)
      blocking).subtypeReq < 16 := (value16 val).width.subtypes_lt.2
  have hrequest : regRequest (writeOf moduleAddr regAddr (value16 val)
      blocking).subtypeReq = some (.write .w16) := by
    have hsame : (writeOf moduleAddr regAddr (value16 val)
        blocking).subtypeReq = RegWidth.w16.hostSubtype + 0b100 :=
      RegWidth.getSubtypeRegWriteReq_eq .w16
    rw [hsame]
    rfl
  have hserve : regs.serve
      (setbitWriteReq diaddr moduleAddr regAddr blocking val) = _ :=
    Registers.serve_write rfl hsubtype hrequest rfl hreg
      ⟨rfl, (value16 val).sized⟩
  rw [hserve] at h
  exact (Prod.mk.inj (Option.some.inj h)).1.symm

theorem performs_write {val old : Word}
    (hreg : t.regs moduleAddr regAddr = some (value16 old))
    (hwrites : writes moduleAddr regAddr) :
    Performs 1 writes
      (regWrite16 Target.bus diaddr blocking val moduleAddr regAddr)
      (fun _ t' => t'.regs = t.regs.set moduleAddr regAddr (value16 val))
      t := by
  have hwidth : (value16 val).width = .w16 := rfl
  have haccessed := accessed_write diaddr moduleAddr regAddr t.regs
    (value16 val) blocking hreg rfl
    (by rw [RegWidth.getSubtypeRegWriteReq_eq, hwidth]; rfl)
  have hset : KeepsOthers writes t
      { t with regs := t.regs.set moduleAddr regAddr (value16 val) } := by
    intro moduleAddr' regAddr' hother
    refine t.regs.set_other (value16 val) fun hsame => ?_
    obtain ⟨rfl, rfl⟩ := Prod.mk.inj hsame
    exact hother hwrites
  exact (performs_access (fun _ => ())
    (request_setbitWrite diaddr moduleAddr regAddr blocking val)
    (Nat.zero_le 8) haccessed (fun _ _ h => serve_setbitWrite hreg h)
    hset).weaken fun _ _ h => h.2

theorem performs_setbit {bitnum : Nat} {bitval : Bool} {val : Word}
    (hbit : bitnum < 16)
    (hreg : t.regs moduleAddr regAddr = some (value16 val))
    (hwrites : writes moduleAddr regAddr) :
    Performs 2 writes
      (regSetbit16 Target.bus diaddr blocking bitnum bitval moduleAddr
        regAddr)
      (fun _ t' => ∃ new, BitSet (value16 val) new bitnum bitval ∧
        t'.regs = t.regs.set moduleAddr regAddr new) t := by
  obtain ⟨val', hval, hbits⟩ := bitInserted_ok val hbit bitval
  rw [regSetbit16_eq]
  refine Performs.next (n := 1) (m := 1) (performs_read hreg) ?_
  rintro value t' ⟨rfl, hregs⟩
  simp only [hval, ok_bind]
  rw [← hregs] at hreg ⊢
  exact (performs_write hreg hwrites).weaken fun _ _ hset =>
    ⟨value16 val', bitSet_value16 hbits, hset⟩

theorem performs_readWidth {width : Word}
    (hreg : t.regs moduleAddr regAddr = some (value16 width))
    (hvalid : ValidWidth width) :
    Performs 1 writes (readWidthOn Target.bus diaddr moduleAddr regAddr)
      (fun value t' => value = width ∧ t'.regs = t.regs) t := by
  refine Performs.next (n := 1) (m := 0) (performs_read hreg) ?_
  rintro value t' ⟨rfl, hregs⟩
  exact ⟨(.ok value, t'), assertThat_bind hvalid, .done allAnswered_zero rfl
    rfl (keepsOthers_of_eq rfl) ⟨rfl, hregs⟩⟩

/-! ## Modules -/

variable {diAddr : Word}

/-- What the description of a module is read from. -/
structure Describes (regs : Registers) (diAddr vendor type version : Word) :
    Prop where
  vendor : regs diAddr osdRegBaseModVendor = some (value16 vendor)
  type : regs diAddr osdRegBaseModType = some (value16 type)
  version : regs diAddr osdRegBaseModVersion = some (value16 version)

theorem performs_describe {vendor type version : Word}
    (h : Describes t.regs diAddr vendor type version) :
    Performs 3 writes (osdHostmodModDescribeOn Target.bus diaddr diAddr)
      (fun desc t' => desc = ⟨diAddr, vendor, type, version⟩ ∧
        t'.regs = t.regs) t :=
  performs_reads (OsdModuleDesc.mk diAddr) h.vendor h.type h.version

/-- The registers by which events are directed and activated. -/
def eventRegs (diAddr moduleAddr regAddr : Word) : Prop :=
  moduleAddr = diAddr ∧
    (regAddr = osdRegBaseModEventDest ∨ regAddr = osdRegBaseModCs)

structure HasEvents (regs : Registers) (diAddr : Word) : Prop where
  dest : ∃ dest, regs diAddr osdRegBaseModEventDest = some (value16 dest)
  cs : ∃ val, regs diAddr osdRegBaseModCs = some (value16 val)

/-- The events of the module go to the host, and they are active. -/
structure Directed (diaddr diAddr : Word) (regs regs' : Registers) :
    Prop where
  dest : regs' diAddr osdRegBaseModEventDest = some (value16 diaddr)
  active : ∃ old new, regs diAddr osdRegBaseModCs = some old ∧
    regs' diAddr osdRegBaseModCs = some new ∧
    BitSet old new osdRegBaseModCsActiveBit true

theorem performs_direct {α : Type} {desc : α}
    (h : HasEvents t.regs diAddr) :
    Performs 3 (eventRegs diAddr)
      ((osdHostmodModSetEventDestOn Target.bus diaddr diAddr).next fun _ =>
        (osdHostmodModSetEventActiveOn Target.bus diaddr diAddr true).next
          fun _ => .returns desc)
      (fun value t' => value = desc ∧
        Directed diaddr diAddr t.regs t'.regs) t := by
  obtain ⟨dest, hdest⟩ := h.dest
  obtain ⟨val, hcs⟩ := h.cs
  have hother : (diAddr, osdRegBaseModCs) ≠
      (diAddr, osdRegBaseModEventDest) := fun hsame =>
    absurd (Prod.mk.inj hsame).2 (by decide)
  refine Performs.next (n := 1) (m := 2)
    (performs_write hdest ⟨rfl, .inl rfl⟩) ?_
  intro _ t₁ h₁
  have hcs₁ : t₁.regs diAddr osdRegBaseModCs = some (value16 val) := by
    rw [h₁, t.regs.set_other (value16 diaddr) hother]
    exact hcs
  refine performs_next_returns
    (performs_setbit (by decide) hcs₁ ⟨rfl, .inr rfl⟩) ?_
  rintro _ t₂ ⟨new, hbit, h₂⟩
  refine ⟨rfl, ?_, value16 val, new, hcs, ?_, hbit⟩
  · rw [h₂, t₁.regs.set_other new hother.symm, h₁, Registers.set_same]
  · rw [h₂, Registers.set_same]

end Registers

/-! ## The starts -/

/-- The start makes `n` accesses of which the first three describe the module,
up to the first that fails. -/
def Starts (n : Nat) (diaddr diAddr : Word) (desc : α)
    (start : RegCall Target α) (t : Target) : Prop :=
  ∃ result t', start t = .ok (result, t') ∧
    KeepsOthers (eventRegs diAddr) t t' ∧
    (AllAnswered t n ∧ result = .ok desc ∧
        Directed diaddr diAddr t.regs t'.regs ∨
      ∃ j < n, ∃ rv, FailsAt t j rv ∧
        t'.sent.length = t.sent.length + (j + 1) ∧
        result = .error (if j < 3 then osdErrorWrongModule else rv))

/-- The start fails, and it writes nothing. -/
def Declines (start : RegCall Target α) (t : Target) : Prop :=
  ∃ t', start t = .ok (.error osdErrorWrongModule, t') ∧ t'.regs = t.regs

section Starts

variable {diaddr diAddr vendor type version typeStd : Word} {n : Nat}
  {desc : α} {rest : RegCall Target α} {t : Target}

theorem regs_of_keepsOthers {t' : Target}
    (h : KeepsOthers (fun _ _ => False) t t') : t'.regs = t.regs := by
  funext moduleAddr regAddr
  exact h moduleAddr regAddr id

theorem declines_describedAs
    (h : Describes t.regs diAddr vendor type version)
    (hother : ¬(vendor = osdModuleVendorOsd ∧ type = typeStd ∧
      version = 0)) :
    Declines (describedAs Target.bus diaddr diAddr typeStd rest) t := by
  obtain ⟨result, hcall, hperformed⟩ : Performs 3 (fun _ _ => False)
      (osdHostmodModDescribeOn Target.bus diaddr diAddr) _ t :=
    performs_describe h
  unfold Declines describedAs
  rw [hcall, ok_bind]
  cases hperformed with
  | failed hlt hfails hsent hkept =>
      exact ⟨_, rfl, regs_of_keepsOthers hkept⟩
  | done hanswered hsent hfates hkept hpost =>
      obtain ⟨rfl, hregs⟩ := hpost
      dsimp only
      rw [if_neg hother]
      exact ⟨_, rfl, hregs⟩

theorem starts_describedAs
    (h : Describes t.regs diAddr osdModuleVendorOsd typeStd 0)
    (hrest : ∀ t', t'.regs = t.regs →
      Performs n (eventRegs diAddr) rest (fun value t'' => value = desc ∧
        Directed diaddr diAddr t'.regs t''.regs) t') :
    Starts (3 + n) diaddr diAddr desc
      (describedAs Target.bus diaddr diAddr typeStd rest) t := by
  obtain ⟨result, hcall, hperformed⟩ : Performs 3 (fun _ _ => False)
      (osdHostmodModDescribeOn Target.bus diaddr diAddr) _ t :=
    performs_describe h
  unfold Starts describedAs
  rw [hcall, ok_bind]
  cases hperformed with
  | failed hlt hfails hsent hkept =>
      refine ⟨_, _, rfl, keepsOthers_of_eq (regs_of_keepsOthers hkept),
        .inr ⟨_, by omega, _, hfails, hsent, ?_⟩⟩
      rw [if_pos hlt]
  | done hanswered hsent hfates hkept hpost =>
      obtain ⟨rfl, hregs⟩ := hpost
      obtain ⟨result', hcall', hperformed'⟩ := hrest _ hregs
      dsimp only
      rw [if_pos ⟨rfl, rfl, rfl⟩, hcall']
      have hkept : KeepsOthers (eventRegs diAddr) t _ :=
        keepsOthers_of_eq hregs
      cases hperformed' with
      | failed hlt hfails hsent' hkept' =>
          refine ⟨_, _, rfl, hkept.trans hkept', .inr ⟨_, by omega, _,
            .append hanswered hsent hfates hfails, by omega, ?_⟩⟩
          rw [if_neg (by omega)]
      | done hanswered' hsent' hfates' hkept' hpost' =>
          obtain ⟨rfl, hdirected⟩ := hpost'
          rw [hregs] at hdirected
          exact ⟨_, _, rfl, hkept.trans hkept',
            .inl ⟨hanswered.append hsent hfates hanswered', rfl, hdirected⟩⟩

theorem systrace_starts {width : Word}
    (h : Describes t.regs diAddr osdModuleVendorOsd osdModuleTypeStdStm 0)
    (hevents : HasEvents t.regs diAddr) (hvalid : ValidWidth width)
    (hwidth : t.regs diAddr osdRegStmValwidth = some (value16 width)) :
    Starts 7 diaddr diAddr ⟨diAddr.toNat, width⟩
      (osdSystraceloggerStart Target.bus diaddr diAddr) t := by
  unfold osdSystraceloggerStart startEvents osdClStmGetDescOn
  rw [describedAs_next]
  refine starts_describedAs (n := 4) h fun t₀ h₀ => ?_
  rw [← h₀] at hevents hwidth
  have hdesc : Performs 1 (eventRegs diAddr)
      ((readWidthOn Target.bus diaddr diAddr osdRegStmValwidth).next
        fun valueWidthBit => .returns ⟨diAddr.toNat, valueWidthBit⟩)
      (fun value t' => value = (⟨diAddr.toNat, width⟩ : OsdStmDesc) ∧
        t'.regs = t₀.regs) t₀ := by
    refine Performs.next (n := 1) (m := 0)
      (performs_readWidth hwidth hvalid) ?_
    rintro _ t₁ ⟨rfl, h₁⟩
    exact performs_returns ⟨rfl, h₁⟩
  refine Performs.next (n := 1) (m := 3) hdesc ?_
  rintro _ t₁ ⟨rfl, h₁⟩
  rw [← h₁] at hevents ⊢
  exact performs_direct hevents

theorem coretrace_starts {addrWidth dataWidth : Word}
    (h : Describes t.regs diAddr osdModuleVendorOsd osdModuleTypeStdCtm 0)
    (hevents : HasEvents t.regs diAddr) (haddr : ValidWidth addrWidth)
    (hdata : ValidWidth dataWidth)
    (haddrWidth : t.regs diAddr osdRegCtmAddrWidth =
      some (value16 addrWidth))
    (hdataWidth : t.regs diAddr osdRegCtmDataWidth =
      some (value16 dataWidth)) :
    Starts 8 diaddr diAddr ⟨diAddr.toNat, addrWidth, dataWidth⟩
      (osdCoretraceloggerStart Target.bus diaddr diAddr) t := by
  unfold osdCoretraceloggerStart startEvents osdClCtmGetDescOn
  rw [describedAs_next]
  refine starts_describedAs (n := 5) h fun t₀ h₀ => ?_
  rw [← h₀] at hevents haddrWidth hdataWidth
  have hdesc : Performs 2 (eventRegs diAddr)
      ((readWidthOn Target.bus diaddr diAddr osdRegCtmAddrWidth).next
        fun addrWidthBit =>
      (readWidthOn Target.bus diaddr diAddr osdRegCtmDataWidth).next
        fun dataWidthBit =>
      .returns ⟨diAddr.toNat, addrWidthBit, dataWidthBit⟩)
      (fun value t' =>
        value = (⟨diAddr.toNat, addrWidth, dataWidth⟩ : OsdCtmDesc) ∧
          t'.regs = t₀.regs) t₀ := by
    refine Performs.next (n := 1) (m := 1)
      (performs_readWidth haddrWidth haddr) ?_
    rintro _ t₁ ⟨rfl, h₁⟩
    rw [← h₁] at hdataWidth
    refine Performs.next (n := 1) (m := 0)
      (performs_readWidth hdataWidth hdata) ?_
    rintro _ t₂ ⟨rfl, h₂⟩
    exact performs_returns ⟨rfl, h₂.trans h₁⟩
  refine Performs.next (n := 2) (m := 3) hdesc ?_
  rintro _ t₁ ⟨rfl, h₁⟩
  rw [← h₁] at hevents ⊢
  exact performs_direct hevents

end Starts

/-- A start of a logger writes only to a module of its own kind.  It succeeds
if all accesses are answered; otherwise it ends at the first one that fails. -/
theorem loggers_start (diaddr diAddr : Word) (t : Target) :
    (∀ vendor type version, Describes t.regs diAddr vendor type version →
      (¬(vendor = osdModuleVendorOsd ∧ type = osdModuleTypeStdStm ∧
          version = 0) →
        Declines (osdSystraceloggerStart Target.bus diaddr diAddr) t) ∧
      (¬(vendor = osdModuleVendorOsd ∧ type = osdModuleTypeStdCtm ∧
          version = 0) →
        Declines (osdCoretraceloggerStart Target.bus diaddr diAddr) t)) ∧
    (∀ width, HasEvents t.regs diAddr → ValidWidth width →
      Describes t.regs diAddr osdModuleVendorOsd osdModuleTypeStdStm 0 →
      t.regs diAddr osdRegStmValwidth = some (value16 width) →
      Starts 7 diaddr diAddr ⟨diAddr.toNat, width⟩
        (osdSystraceloggerStart Target.bus diaddr diAddr) t) ∧
    ∀ addrWidth dataWidth, HasEvents t.regs diAddr →
      ValidWidth addrWidth → ValidWidth dataWidth →
      Describes t.regs diAddr osdModuleVendorOsd osdModuleTypeStdCtm 0 →
      t.regs diAddr osdRegCtmAddrWidth = some (value16 addrWidth) →
      t.regs diAddr osdRegCtmDataWidth = some (value16 dataWidth) →
      Starts 8 diaddr diAddr ⟨diAddr.toNat, addrWidth, dataWidth⟩
        (osdCoretraceloggerStart Target.bus diaddr diAddr) t := by
  refine ⟨fun vendor type version h => ⟨fun hother => ?_, fun hother => ?_⟩,
    fun width hevents hvalid h hwidth =>
      systrace_starts h hevents hvalid hwidth,
    fun addrWidth dataWidth hevents haddr hdata h haddrWidth hdataWidth =>
      coretrace_starts h hevents haddr hdata haddrWidth hdataWidth⟩
  · unfold osdSystraceloggerStart startEvents osdClStmGetDescOn
    rw [describedAs_next]
    exact declines_describedAs h hother
  · unfold osdCoretraceloggerStart startEvents osdClCtmGetDescOn
    rw [describedAs_next]
    exact declines_describedAs h hother

/-- A module for system traces whose events are not active. -/
def stmModule : Registers := fun moduleAddr regAddr =>
  if moduleAddr ≠ 1 then none
  else if regAddr = osdRegBaseModVendor then
    some (value16 osdModuleVendorOsd)
  else if regAddr = osdRegBaseModType then
    some (value16 osdModuleTypeStdStm)
  else if regAddr = osdRegStmValwidth then some (value16 32)
  else some (value16 0)

theorem loggers_start_answered :
    ∃ t', osdSystraceloggerStart Target.bus 0x400 1
        ⟨stmModule, [], fun _ => .answered⟩ = .ok (.ok ⟨1, 32⟩, t') ∧
      Directed 0x400 1 stmModule t'.regs := by
  obtain ⟨result, t', hcall, -, hresult⟩ := (loggers_start 0x400 1
    ⟨stmModule, [], fun _ => .answered⟩).2.1 32 ⟨⟨0, rfl⟩, ⟨0, rfl⟩⟩
    (.inr (.inl rfl)) ⟨rfl, rfl, rfl⟩ rfl
  rcases hresult with ⟨-, rfl, hdirected⟩ | ⟨j, -, rv, hfails, -⟩
  · exact ⟨t', hcall, hdirected⟩
  · cases hfails.failure

/-! ## The stops -/

theorem stopped_iff {t : Target} {n j : Nat} {rv : OsdResult} (hlt : j < n)
    (h : FailsAt t j rv) :
    (if rv = osdErrorTimedout then osdOk else rv) = osdOk ↔
      AllAnswered t n ∨ ∃ j < n, FailsAt t j osdErrorTimedout := by
  have hfailed := Fate.osdFailed_failure h.failure
  constructor
  · intro hok
    split at hok
    · rename_i htimedout
      exact .inr ⟨j, hlt, htimedout ▸ h⟩
    · rw [hok] at hfailed
      cases hfailed
  · rintro (hall | ⟨j', -, hfails⟩)
    · exact absurd h (hall.not_failsAt hlt)
    · rw [if_pos (h.unique hfails).2]

/-- A stop returns `OSD_OK` also where one of its accesses times out.  If that
is the first one, the module stays as it is. -/
theorem loggers_stop (diaddr diAddr : Word) (t : Target) {val : Word}
    (hcs : t.regs diAddr osdRegBaseModCs = some (value16 val)) :
    ∃ rv t', osdSystraceloggerStop Target.bus diaddr diAddr t =
        .ok (rv, t') ∧
      osdCoretraceloggerStop Target.bus diaddr diAddr t = .ok (rv, t') ∧
      (rv = osdOk ↔
        AllAnswered t 2 ∨ ∃ j < 2, FailsAt t j osdErrorTimedout) ∧
      (AllAnswered t 2 → ∃ new,
        BitSet (value16 val) new osdRegBaseModCsActiveBit false ∧
          t'.regs = t.regs.set diAddr osdRegBaseModCs new) ∧
      ∀ failure, FailsAt t 0 failure → t'.regs = t.regs := by
  obtain ⟨rv, t', hcall, hresult⟩ : SetsBit diaddr diAddr osdRegBaseModCs
      (value16 val) osdRegBaseModCsActiveBit false false t :=
    setsBit_16 (by decide) hcs rfl
  have hcall' : osdHostmodRegSetbit Target.bus diaddr t
      osdRegBaseModCsActiveBit false diAddr osdRegBaseModCs 16 false =
        .ok (rv, t') := hcall
  have hstop : stopEvents Target.bus diaddr diAddr t =
      .ok (if rv = osdErrorTimedout then osdOk else rv, t') := by
    unfold stopEvents
    rw [hcall', ok_bind]
  refine ⟨_, t', hstop, hstop, ?_⟩
  cases hfirst : (t.fates t.sent.length).failure with
  | some failure =>
      have hfails : FailsAt t 0 failure := ⟨allAnswered_zero, hfirst⟩
      rw [hfirst] at hresult
      obtain ⟨rfl, hregs, -⟩ := hresult
      exact ⟨stopped_iff (by decide) hfails,
        fun hall => absurd hfails (hall.not_failsAt (by decide)),
        fun _ _ => hregs⟩
  | none =>
      have hanswered : AllAnswered t 1 := by
        intro i hi
        obtain rfl := Nat.lt_one_iff.mp hi
        exact hfirst
      cases hsecond : (t.fates (t.sent.length + 1)).failure with
      | some failure =>
          have hfails : FailsAt t 1 failure := ⟨hanswered, hsecond⟩
          rw [hfirst, hsecond] at hresult
          obtain rfl : rv = failure := hresult
          exact ⟨stopped_iff (by decide) hfails,
            fun hall => absurd hfails (hall.not_failsAt (by decide)),
            fun _ hzero => absurd hzero (hanswered.not_failsAt Nat.one_pos)⟩
      | none =>
          have hall : AllAnswered t 2 := by
            intro i hi
            by_cases hzero : i < 1
            · exact hanswered i hzero
            · obtain rfl : i = 1 := by omega
              exact hsecond
          rw [hfirst, hsecond] at hresult
          obtain ⟨rfl, hset⟩ := hresult
          exact ⟨iff_of_true (if_neg (by decide)) (.inl hall), fun _ => hset,
            fun _ hzero => absurd hzero (hall.not_failsAt (by decide))⟩

/-- The stop is not told from one that worked, and the module goes on. -/
theorem loggers_stop_lost :
    ∃ t', osdSystraceloggerStop Target.bus 0x400 1
        ⟨stmModule, [], fun _ => .lost osdErrorTimedout rfl⟩ =
          .ok (osdOk, t') ∧ t'.regs = stmModule := by
  have hfails : FailsAt ⟨stmModule, [], fun _ => .lost osdErrorTimedout rfl⟩ 0
      osdErrorTimedout := ⟨allAnswered_zero, rfl⟩
  obtain ⟨rv, t', hcall, -, hrv, -, hregs⟩ := loggers_stop 0x400 1
    ⟨stmModule, [], fun _ => .lost osdErrorTimedout rfl⟩ rfl
  obtain rfl := hrv.mpr (.inr ⟨0, by decide, hfails⟩)
  exact ⟨t', hcall, hregs _ hfails⟩

end Osd.Client
