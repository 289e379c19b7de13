import Osd.Foundation.NumberText
import Osd.HostCtrl.Bindings

/-!
# The language of gateway requests

A gateway request is a command word, one space and a subnet number.  The
controller compares the beginning of the text only, skips one character more
than the word has and leaves the rest to `strtol`, which accepts more texts
than decimal numbers and computes other values for some of them.
-/

namespace Osd.HostCtrl

open Osd.Foundation

inductive GwCommand where
  | register
  | unregister
  deriving DecidableEq, Repr

namespace GwCommand

def word : GwCommand → List Byte
  | .register => ascii "GW_REGISTER"
  | .unregister => ascii "GW_UNREGISTER"

def request : GwCommand → List Byte → Request
  | .register => .gwRegister
  | .unregister => .gwUnregister

variable {Id : Type}

/-- The table stays as it is, and the reply is NACK. -/
def Refuses (ctx : Controller Id) (src : Id) (subnet : Nat) :
    GwCommand → Prop
  | .register => ctx.gateways.get subnet ≠ none
  | .unregister => ctx.gateways.get subnet ≠ some src

def entry (src : Id) : GwCommand → Option Id
  | .register => some src
  | .unregister => none

end GwCommand

/-! ## Requests -/

/-- The request string begins with the command word. -/
def Begins (payload : List Byte) (command : GwCommand) : Prop :=
  command.word <+: cString payload

def WellFormed (payload : List Byte) (command : GwCommand) (subnet : Nat) :
    Prop :=
  ∃ digits, SubnetNumber digits subnet ∧
    cString payload = command.word ++ ascii " " ++ digits

/-- A number text whose value is that of a subnet once it is clamped to a
`long` and cut down to an `unsigned int`. -/
def LenientNumber (text : List Byte) (subnet : Nat) : Prop :=
  ∃ value, NumberText text value ∧ (value % 2 ^ 32).toNat = subnet ∧
    subnet ≤ 63

/-- The string one character behind the command word, whatever the character
is, also a terminator, as long as the frame has one there. -/
def LenientRequest (payload : List Byte) (command : GwCommand)
    (subnet : Nat) : Prop :=
  command.word.length < payload.length ∧
    LenientNumber (cString (payload.drop (command.word.length + 1))) subnet

variable {Id : Type} [DecidableEq Id]

structure ParsedExactly (ctx : Controller Id) (src : Id)
    (payload : List Byte) : Prop where
  changes : ∀ after reply subnet,
    processMgmtMsg ctx src payload = .ok (after, reply) →
      after.gateways.get subnet ≠ ctx.gateways.get subnet →
        ∃ command, WellFormed payload command subnet
  nack : ∀ command, Begins payload command →
    (¬∃ subnet, WellFormed payload command subnet) →
      processMgmtMsg ctx src payload = .ok (ctx, mgmtSendNack src)

/-! ## Recognition -/

theorem Begins.unique {payload : List Byte} {first second : GwCommand}
    (hfirst : Begins payload first) (hsecond : Begins payload second) :
    first = second := by
  have hwords := List.prefix_or_prefix_of_prefix hfirst hsecond
  revert hwords
  cases first <;> cases second <;> decide

theorem requestOf_of_begins {payload : List Byte} {command : GwCommand}
    (h : Begins payload command) :
    requestOf payload =
      command.request
        ((payload ++ [0]).drop (command.word.length + 1)) := by
  have hother : ∀ text, ¬command.word <+: text → cString payload ≠ text := by
    rintro _ hnot rfl
    exact hnot h
  unfold requestOf
  simp only [cString_terminated]
  cases command with
  | register =>
      have hregister : ascii "GW_REGISTER" <+: cString payload := h
      rw [if_neg (hother _ (by decide)), if_neg (hother _ (by decide)),
        if_pos hregister]
      rfl
  | unregister =>
      have hunregister : ascii "GW_UNREGISTER" <+: cString payload := h
      have hnot : ¬ascii "GW_REGISTER" <+: cString payload := by
        intro hregister
        have hregister' : Begins payload .register := hregister
        cases hregister'.unique h
      rw [if_neg (hother _ (by decide)), if_neg (hother _ (by decide)),
        if_neg hnot, if_pos hunregister]
      rfl

theorem WellFormed.begins {payload : List Byte} {command : GwCommand}
    {subnet : Nat} (h : WellFormed payload command subnet) :
    Begins payload command := by
  obtain ⟨digits, -, hpayload⟩ := h
  rw [Begins, hpayload, List.append_assoc]
  exact List.prefix_append _ _

/-! ## The parameter -/

theorem gwSubnet_terminated {text : List Byte} {subnet : Nat} :
    gwSubnet (text ++ [0]) = .ok subnet ↔
      LenientNumber (cString text) subnet := by
  rw [gwSubnet_eq_ok]
  unfold LenientNumber
  constructor
  · rintro ⟨value, rest, hstrtol, hvalue, hle⟩
    exact ⟨value, strtol_terminated.mp ⟨rest, hstrtol⟩, hvalue, hle⟩
  · rintro ⟨value, hnumber, hvalue, hle⟩
    obtain ⟨rest, hstrtol⟩ := strtol_terminated.mpr hnumber
    exact ⟨value, rest, hstrtol, hvalue, hle⟩

theorem gwSubnet_nil : gwSubnet [] = .error .outOfBounds := rfl

/-- The parameter of a request that begins with a command word is read
exactly if the request is lenient. -/
theorem gwSubnet_params {payload : List Byte} {command : GwCommand}
    (hbegins : Begins payload command) {subnet : Nat} :
    gwSubnet ((payload ++ [0]).drop (command.word.length + 1)) = .ok subnet ↔
      LenientRequest payload command subnet := by
  have hword : command.word.length ≤ payload.length := by
    have hstring : (cString payload).length ≤ payload.length :=
      (List.takeWhile_sublist _).length_le
    exact hbegins.length_le.trans hstring
  unfold LenientRequest
  by_cases hlength : command.word.length < payload.length
  · rw [List.drop_append_of_le_length hlength, gwSubnet_terminated]
    simp [hlength]
  · have hempty : (payload ++ [0]).drop (command.word.length + 1) = [] := by
      apply List.drop_eq_nil_of_le
      rw [List.length_append, List.length_singleton]
      omega
    rw [hempty, gwSubnet_nil]
    simp [hlength]

theorem SubnetNumber.lenient {digits : List Byte} {subnet : Nat}
    (h : SubnetNumber digits subnet) : LenientNumber digits subnet := by
  have hgw := gwSubnet_terminated.mp h.gwSubnet_eq
  have hne : ∀ char ∈ digits, char ≠ 0 := by
    intro char hchar
    rintro rfl
    simpa [Osd.Foundation.isDigit] using h.isDigit 0 hchar
  rwa [cString_eq_self hne] at hgw

theorem cString_drop {payload : List Byte} {skipped : Nat}
    (h : skipped ≤ (cString payload).length) :
    cString (payload.drop skipped) = (cString payload).drop skipped := by
  induction payload generalizing skipped with
  | nil => simp [cString]
  | cons char payload ih =>
      cases skipped with
      | zero => rfl
      | succ skipped =>
          by_cases hchar : char = 0
          · simp [cString, hchar] at h
          · have hcons : cString (char :: payload) = char :: cString payload := by
              simp [cString, hchar]
            rw [hcons, List.length_cons] at h
            rw [hcons, List.drop_succ_cons, List.drop_succ_cons]
            exact ih (by omega)

theorem WellFormed.lenient {payload : List Byte} {command : GwCommand}
    {subnet : Nat} (h : WellFormed payload command subnet) :
    LenientRequest payload command subnet := by
  obtain ⟨digits, hnumber, hpayload⟩ := h
  have hlength : (cString payload).length =
      command.word.length + 1 + digits.length := by
    rw [hpayload, List.length_append, List.length_append]
    rfl
  have hstring : (cString payload).length ≤ payload.length :=
    (List.takeWhile_sublist _).length_le
  refine ⟨by omega, ?_⟩
  have hdrop : (cString payload).drop (command.word.length + 1) = digits := by
    have hcommand : (command.word ++ ascii " ").length =
        command.word.length + 1 := by
      rw [List.length_append]
      rfl
    rw [hpayload, ← hcommand, List.drop_left]
  rw [cString_drop (by omega), hdrop]
  exact hnumber.lenient

theorem LenientRequest.unique {payload : List Byte} {command : GwCommand}
    (hbegins : Begins payload command) {first second : Nat}
    (hfirst : LenientRequest payload command first)
    (hsecond : LenientRequest payload command second) : first = second := by
  rw [← gwSubnet_params hbegins] at hfirst hsecond
  exact Except.ok.inj (hfirst.symm.trans hsecond)

/-! ## What the controller does -/

section Handling

variable {ctx after : Controller Id} {src : Id} {reply : Outgoing Id}
  {payload : List Byte} {command : GwCommand} {subnet : Nat}

theorem processMgmtMsg_refused (hbegins : Begins payload command)
    (hlenient : LenientRequest payload command subnet)
    (hrefuses : command.Refuses ctx src subnet) :
    processMgmtMsg ctx src payload = .ok (ctx, mgmtSendNack src) := by
  have hsubnet := (gwSubnet_params hbegins).mpr hlenient
  have hlt := gwSubnet_lt hsubnet
  rw [processMgmtMsg, requestOf_of_begins hbegins]
  cases command with
  | register =>
      obtain ⟨host, hhost⟩ := Option.ne_none_iff_exists'.mp hrefuses
      simp only [GwCommand.request, handleRequest, mgmtGwRegister, hsubnet,
        ok_bind, Table.load_eq hlt, hhost]
  | unregister =>
      simp only [GwCommand.request, handleRequest, mgmtGwUnregister, hsubnet,
        ok_bind, Table.load_eq hlt]
      cases hentry : ctx.gateways.get subnet with
      | none => rfl
      | some host =>
          have hhost : host ≠ src := by
            rintro rfl
            exact hrefuses hentry
          simp only [hhost, if_false]

theorem processMgmtMsg_done (hbegins : Begins payload command)
    (hlenient : LenientRequest payload command subnet)
    (haccepts : ¬command.Refuses ctx src subnet) :
    processMgmtMsg ctx src payload =
      .ok ({ ctx with
          gateways := ctx.gateways.set subnet (command.entry src) },
        mgmtSendAck src) := by
  have hsubnet := (gwSubnet_params hbegins).mpr hlenient
  have hlt := gwSubnet_lt hsubnet
  rw [processMgmtMsg, requestOf_of_begins hbegins]
  cases command with
  | register =>
      have hfree : ctx.gateways.get subnet = none := not_not.mp haccepts
      simp only [GwCommand.request, handleRequest, mgmtGwRegister, hsubnet,
        ok_bind, Table.load_eq hlt, hfree, Table.store_eq hlt]
      rfl
  | unregister =>
      have hheld : ctx.gateways.get subnet = some src := not_not.mp haccepts
      simp only [GwCommand.request, handleRequest, mgmtGwUnregister, hsubnet,
        ok_bind, Table.load_eq hlt, hheld, if_true, Table.store_eq hlt]
      rfl

theorem processMgmtMsg_fails (hbegins : Begins payload command)
    (hnot : ¬∃ subnet, LenientRequest payload command subnet) :
    ¬Returns (processMgmtMsg ctx src payload) := by
  rintro ⟨result, h⟩
  apply hnot
  rw [processMgmtMsg, requestOf_of_begins hbegins] at h
  cases command with
  | register =>
      obtain ⟨subnet, hsubnet, -⟩ := bind_eq_ok.mp h
      exact ⟨subnet, (gwSubnet_params hbegins).mp hsubnet⟩
  | unregister =>
      obtain ⟨subnet, hsubnet, -⟩ := bind_eq_ok.mp h
      exact ⟨subnet, (gwSubnet_params hbegins).mp hsubnet⟩

omit [DecidableEq Id] in
theorem mgmtDiaddrRequest_gateways
    (h : mgmtDiaddrRequest ctx src = .ok (after, reply)) :
    after.gateways = ctx.gateways := by
  obtain ⟨diaddr, -, h⟩ := bind_eq_ok.mp h
  cases diaddr with
  | none => cases h
  | some diaddr =>
      obtain ⟨registered, hregister, h⟩ := bind_eq_ok.mp h
      cases registered with
      | none => cases h
      | some ctx' =>
          cases h
          obtain ⟨entry, -, hregister⟩ := bind_eq_ok.mp hregister
          cases entry with
          | some host => cases hregister
          | none =>
              obtain ⟨table, -, hregister⟩ := bind_eq_ok.mp hregister
              cases hregister
              rfl

theorem gateways_of_not_begins
    (hnot : ∀ command, ¬Begins payload command)
    (h : processMgmtMsg ctx src payload = .ok (after, reply)) :
    after.gateways = ctx.gateways := by
  have hregister : ¬ascii "GW_REGISTER" <+: cString payload :=
    hnot .register
  have hunregister : ¬ascii "GW_UNREGISTER" <+: cString payload :=
    hnot .unregister
  rw [processMgmtMsg, requestOf] at h
  simp only [cString_terminated, hregister, hunregister, if_false] at h
  split at h
  · exact mgmtDiaddrRequest_gateways h
  · split at h
    · obtain ⟨_, _, hcall, hhandled⟩ := mgmtDiaddrRelease_handled ctx src
      cases hcall.symm.trans h
      cases hhandled with
      | released => rfl
      | notHeld => rfl
    · cases h
      rfl

end Handling

/-! ## The exact condition -/

/-- Only a request that is refused anyway may be malformed. -/
def WellFormedOrRefused (ctx : Controller Id) (src : Id)
    (payload : List Byte) (command : GwCommand) : Prop :=
  (∃ subnet, WellFormed payload command subnet) ∨
    ∃ subnet, LenientRequest payload command subnet ∧
      command.Refuses ctx src subnet

theorem parsedExactly_of_wellFormed {ctx : Controller Id} {src : Id}
    {payload : List Byte} {command : GwCommand} {subnet : Nat}
    (h : WellFormed payload command subnet) :
    ParsedExactly ctx src payload := by
  constructor
  · intro after reply changed hcall hchanged
    by_cases hrefuses : command.Refuses ctx src subnet
    · cases (processMgmtMsg_refused h.begins h.lenient hrefuses).symm.trans
        hcall
      exact absurd rfl hchanged
    · cases (processMgmtMsg_done h.begins h.lenient hrefuses).symm.trans hcall
      by_cases hsame : changed = subnet
      · subst hsame
        exact ⟨command, h⟩
      · exact absurd (Table.get_set_ne hsame _) hchanged
  · intro command' hbegins' hnot
    cases h.begins.unique hbegins'
    exact absurd ⟨subnet, h⟩ hnot

theorem parsedExactly_iff (ctx : Controller Id) (src : Id)
    (payload : List Byte) :
    ParsedExactly ctx src payload ↔
      ∀ command, Begins payload command →
        WellFormedOrRefused ctx src payload command := by
  constructor
  · intro h command hbegins
    by_cases hwell : ∃ subnet, WellFormed payload command subnet
    · exact Or.inl hwell
    · have hnack := h.nack command hbegins hwell
      by_cases hlenient : ∃ subnet, LenientRequest payload command subnet
      · obtain ⟨subnet, hlenient⟩ := hlenient
        refine Or.inr ⟨subnet, hlenient, ?_⟩
        by_contra haccepts
        have hdone := processMgmtMsg_done hbegins hlenient haccepts
        have hreply := (Prod.mk.inj
          (Except.ok.inj (hdone.symm.trans hnack))).2
        exact ack_ne_nack (mgmtReply_inj.mp hreply).2
      · exact absurd ⟨_, hnack⟩ (processMgmtMsg_fails hbegins hlenient)
  · intro h
    by_cases hany : ∃ command, Begins payload command
    · obtain ⟨command, hbegins⟩ := hany
      rcases h command hbegins with ⟨subnet, hwell⟩ | ⟨subnet, hlenient, hrefuses⟩
      · exact parsedExactly_of_wellFormed hwell
      · have hcall := processMgmtMsg_refused hbegins hlenient hrefuses
        constructor
        · intro after reply changed hcall' hchanged
          cases hcall.symm.trans hcall'
          exact absurd rfl hchanged
        · intro _ _ _
          exact hcall
    · have hnot : ∀ command, ¬Begins payload command :=
        fun command hbegins => hany ⟨command, hbegins⟩
      constructor
      · intro after reply changed hcall hchanged
        rw [gateways_of_not_begins hnot hcall] at hchanged
        exact absurd rfl hchanged
      · intro command hbegins
        exact absurd hbegins (hnot command)

/-- No space at all, and still a registration. -/
theorem gwRegister_without_space :
    processMgmtMsg (osdHostctrlNew : Controller Nat) 7
        (ascii "GW_REGISTERX5") =
      .ok ({ (osdHostctrlNew : Controller Nat) with
          gateways := Table.empty.set 5 (some 7) }, mgmtSendAck 7) ∧
      ¬ParsedExactly (osdHostctrlNew : Controller Nat) 7
        (ascii "GW_REGISTERX5") := by
  have hcall : processMgmtMsg (osdHostctrlNew : Controller Nat) 7
      (ascii "GW_REGISTERX5") =
        .ok ({ (osdHostctrlNew : Controller Nat) with
          gateways := Table.empty.set 5 (some 7) }, mgmtSendAck 7) := rfl
  refine ⟨hcall, ?_⟩
  intro h
  have hchanged : (Table.empty.set 5 (some 7) :
      Table (osdDiaddrSubnetMax + 1) Nat).get 5 ≠
        (osdHostctrlNew : Controller Nat).gateways.get 5 := by decide
  obtain ⟨command, digits, hnumber, hpayload⟩ :=
    h.changes _ _ 5 hcall hchanged
  have hstring : cString (ascii "GW_REGISTERX5") = ascii "GW_REGISTERX5" := by
    decide
  rw [hstring] at hpayload
  have hspace := congrArg (fun text : List Byte => text[11]?) hpayload
  cases command with
  | register => simp [GwCommand.word, ascii] at hspace
  | unregister => simp [GwCommand.word, ascii] at hpayload

end Osd.HostCtrl
