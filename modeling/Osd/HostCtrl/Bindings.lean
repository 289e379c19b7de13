import Osd.Foundation.Runs
import Osd.HostCtrl.Handlers

/-!
# Replies and tables

A run of management requests is observed from outside through its replies.
The tables agree with what the replies promised: every reply states what the
request changed, and a binding stands from the reply that granted it until its
host receives an acknowledgement for giving it up.
-/

namespace Osd.HostCtrl

open Osd.Foundation

variable {Id : Type}

/-! ## Well-formed requests -/

inductive MgmtRequest where
  | diaddrRequest
  | diaddrRelease
  | gwRegister (subnet : Nat)
  | gwUnregister (subnet : Nat)
  | unknown

/-- A decimal number of a subnet, leading zeros included. -/
structure SubnetNumber (digits : List Byte) (subnet : Nat) : Prop where
  ne_nil : digits ≠ []
  isDigit : ∀ digit ∈ digits, isDigit digit = true
  value : decimalValue digits = subnet
  le : subnet ≤ 63

inductive Denotes (payload : List Byte) : MgmtRequest → Prop
  | diaddrRequest (h : payload = ascii "DIADDR_REQUEST") :
      Denotes payload .diaddrRequest
  | diaddrRelease (h : payload = ascii "DIADDR_RELEASE") :
      Denotes payload .diaddrRelease
  | gwRegister {digits : List Byte} {subnet : Nat}
      (hnumber : SubnetNumber digits subnet)
      (h : payload = ascii "GW_REGISTER " ++ digits) :
      Denotes payload (.gwRegister subnet)
  | gwUnregister {digits : List Byte} {subnet : Nat}
      (hnumber : SubnetNumber digits subnet)
      (h : payload = ascii "GW_UNREGISTER " ++ digits) :
      Denotes payload (.gwUnregister subnet)
  | unknown (hrequest : cString payload ≠ ascii "DIADDR_REQUEST")
      (hrelease : cString payload ≠ ascii "DIADDR_RELEASE")
      (hregister : ¬ascii "GW_REGISTER" <+: cString payload)
      (hunregister : ¬ascii "GW_UNREGISTER" <+: cString payload) :
      Denotes payload .unknown

theorem SubnetNumber.cString_append {digits : List Byte} {subnet : Nat}
    (h : SubnetNumber digits subnet) (command : List Byte)
    (hcommand : ∀ char ∈ command, char ≠ 0) :
    cString (command ++ digits ++ [0]) = command ++ digits := by
  rw [cString_terminated]
  apply cString_eq_self
  intro char hchar
  rcases List.mem_append.mp hchar with hchar | hchar
  · exact hcommand char hchar
  · rintro rfl
    have := h.isDigit 0 hchar
    simp [Osd.Foundation.isDigit] at this

theorem SubnetNumber.gwSubnet_eq {digits : List Byte} {subnet : Nat}
    (h : SubnetNumber digits subnet) :
    gwSubnet (digits ++ [0]) = .ok subnet := by
  have hle := h.le
  have hlong : toLong (decimalValue digits) = (subnet : Int) := by
    rw [h.value, toLong_of_lt (by omega)]
  rw [gwSubnet_eq_ok]
  refine ⟨subnet, [], ?_, by omega, hle⟩
  rw [strtol_digits digits h.ne_nil h.isDigit 0 (by decide), hlong]

theorem requestOf_gwRegister {digits : List Byte} {subnet : Nat}
    (h : SubnetNumber digits subnet) :
    requestOf (ascii "GW_REGISTER " ++ digits) =
      .gwRegister (digits ++ [0]) := by
  have htext := h.cString_append (ascii "GW_REGISTER ")
    (by simp [ascii])
  have hprefix : ascii "GW_REGISTER" <+: ascii "GW_REGISTER " ++ digits :=
    List.IsPrefix.trans ⟨ascii " ", rfl⟩ (List.prefix_append _ digits)
  rw [requestOf]
  simp only [htext]
  rw [if_neg (by simp [ascii]), if_neg (by simp [ascii]), if_pos hprefix]
  simp

theorem requestOf_gwUnregister {digits : List Byte} {subnet : Nat}
    (h : SubnetNumber digits subnet) :
    requestOf (ascii "GW_UNREGISTER " ++ digits) =
      .gwUnregister (digits ++ [0]) := by
  have htext := h.cString_append (ascii "GW_UNREGISTER ")
    (by simp [ascii])
  have hprefix : ascii "GW_UNREGISTER" <+: ascii "GW_UNREGISTER " ++ digits :=
    List.IsPrefix.trans ⟨ascii " ", rfl⟩ (List.prefix_append _ digits)
  rw [requestOf]
  simp only [htext]
  rw [if_neg (by simp [ascii]), if_neg (by simp [ascii]),
    if_neg (by simp [ascii]), if_pos hprefix]
  simp

/-- The request that `process_mgmt_msg` recognises in a well-formed text. -/
inductive Recognised : MgmtRequest → Request → Prop
  | diaddrRequest : Recognised .diaddrRequest .diaddrRequest
  | diaddrRelease : Recognised .diaddrRelease .diaddrRelease
  | gwRegister {params : List Byte} {subnet : Nat}
      (h : gwSubnet params = .ok subnet) :
      Recognised (.gwRegister subnet) (.gwRegister params)
  | gwUnregister {params : List Byte} {subnet : Nat}
      (h : gwSubnet params = .ok subnet) :
      Recognised (.gwUnregister subnet) (.gwUnregister params)
  | unknown : Recognised .unknown .unknown

theorem Denotes.recognised {payload : List Byte} {request : MgmtRequest}
    (h : Denotes payload request) :
    Recognised request (requestOf payload) := by
  cases h with
  | diaddrRequest h =>
      have hrequest : requestOf (ascii "DIADDR_REQUEST") = .diaddrRequest := by
        decide
      rw [h, hrequest]
      exact .diaddrRequest
  | diaddrRelease h =>
      have hrequest : requestOf (ascii "DIADDR_RELEASE") = .diaddrRelease := by
        decide
      rw [h, hrequest]
      exact .diaddrRelease
  | gwRegister hnumber h =>
      rw [h, requestOf_gwRegister hnumber]
      exact .gwRegister hnumber.gwSubnet_eq
  | gwUnregister hnumber h =>
      rw [h, requestOf_gwUnregister hnumber]
      exact .gwUnregister hnumber.gwSubnet_eq
  | unknown hrequest hrelease hregister hunregister =>
      have hunknown : requestOf payload = .unknown := by
        rw [requestOf]
        simp only [cString_terminated]
        rw [if_neg hrequest, if_neg hrelease, if_neg hregister,
          if_neg hunregister]
      rw [hunknown]
      exact .unknown

/-! ## Replies -/

theorem mgmtReply_inj {dest dest' : Id} {text text' : List Byte} :
    mgmtReply dest text = mgmtReply dest' text' ↔
      dest = dest' ∧ text = text' := by
  simp [mgmtReply]

theorem formatUnsigned_ne {diaddr : Nat} {text : List Byte}
    (h : ∃ char ∈ text, isDigit char = false) :
    formatUnsigned diaddr ≠ text := by
  rintro rfl
  obtain ⟨char, hmem, hchar⟩ := h
  simp [formatUnsigned_isDigit diaddr char hmem] at hchar

theorem formatUnsigned_ne_ack (diaddr : Nat) :
    formatUnsigned diaddr ≠ ascii "ACK" :=
  formatUnsigned_ne ⟨65, by decide, by decide⟩

theorem formatUnsigned_ne_nack (diaddr : Nat) :
    formatUnsigned diaddr ≠ ascii "NACK" :=
  formatUnsigned_ne ⟨65, by decide, by decide⟩

theorem ack_ne_nack : ascii "ACK" ≠ ascii "NACK" := by decide

/-- The step bound `diaddr` to `host` and did nothing else. -/
structure Granted (before after : Controller Id) (host : Id)
    (diaddr : Nat) : Prop where
  subnet : osdDiaddrSubnet diaddr = 1
  low : 1 ≤ osdDiaddrLocaladdr diaddr
  high : osdDiaddrLocaladdr diaddr ≤ 1023
  free : before.modsInSubnet.get (osdDiaddrLocaladdr diaddr) = none
  bound : after.modsInSubnet.get (osdDiaddrLocaladdr diaddr) = some host
  others : ∀ l, l ≠ osdDiaddrLocaladdr diaddr →
    after.modsInSubnet.get l = before.modsInSubnet.get l
  gateways : after.gateways = before.gateways

theorem granted_set {before : Controller Id} (src : Id) {localaddr : Nat}
    (hlow : 1 ≤ localaddr) (hhigh : localaddr ≤ 1023)
    (hfree : before.modsInSubnet.get localaddr = none) :
    Granted before
      { before with
        modsInSubnet := before.modsInSubnet.set localaddr (some src) }
      src (1024 + localaddr) := by
  have hlocal : osdDiaddrLocaladdr (1024 + localaddr) = localaddr := by
    rw [osdDiaddrLocaladdr_eq]
    omega
  refine ⟨?_, by omega, by omega, by rwa [hlocal], ?_, ?_, rfl⟩
  · rw [osdDiaddrSubnet_eq]
    omega
  · rw [hlocal]
    exact Table.get_set_self (by simp only [osdDiaddrLocalMax]; omega) _
  · intro l hl
    rw [hlocal] at hl
    exact Table.get_set_ne hl _

theorem Granted.eq_of_set {before : Controller Id} {host src : Id}
    {diaddr localaddr : Nat}
    (h : Granted before
      { before with
        modsInSubnet := before.modsInSubnet.set localaddr (some src) }
      host diaddr) (hhigh : localaddr ≤ 1023) :
    src = host ∧ diaddr = 1024 + localaddr := by
  have hlocal : osdDiaddrLocaladdr diaddr = localaddr := by
    by_contra hne
    have hbound := h.bound
    simp only [Table.get_set_ne hne, h.free] at hbound
    cases hbound
  have hbound := h.bound
  have hsubnet := h.subnet
  simp only [hlocal] at hbound
  rw [Table.get_set_self (by simp only [osdDiaddrLocalMax]; omega)] at hbound
  rw [osdDiaddrSubnet_eq] at hsubnet
  rw [osdDiaddrLocaladdr_eq] at hlocal
  exact ⟨Option.some.inj hbound, by omega⟩

theorem not_granted {before after : Controller Id} {host : Id} {diaddr : Nat}
    (h : ∀ l, before.modsInSubnet.get l = none →
      after.modsInSubnet.get l = none) :
    ¬Granted before after host diaddr := by
  intro hgranted
  have hbound := hgranted.bound
  rw [h _ hgranted.free] at hbound
  cases hbound

/-! ## Steps -/

/-- A well-formed management request is handled. -/
def MgmtStep [DecidableEq Id] (before : Controller Id) (event : Event Id)
    (after : Controller Id) : Prop :=
  Step before event after ∧ event.msg.type = ascii "M" ∧
    ∃ request, Denotes event.msg.payload request

/-- The reply of a step, read together with the change of the tables. -/
structure RepliesAgree (before : Controller Id) (event : Event Id)
    (after : Controller Id) : Prop where
  oneReply : ∃ text, event.sent = [mgmtReply event.msg.src text]
  numeric : ∀ (host : Id) (diaddr : Nat), diaddr < 2 ^ 32 →
    (event.sent = [mgmtReply host (formatUnsigned diaddr)] ↔
      Granted before after host diaddr)
  releaseAck : Denotes event.msg.payload .diaddrRelease →
    event.sent = [mgmtSendAck event.msg.src] →
      ∃ l, before.modsInSubnet.get l = some event.msg.src ∧
        after =
          { before with modsInSubnet := before.modsInSubnet.set l none }
  registerAck : ∀ subnet, Denotes event.msg.payload (.gwRegister subnet) →
    event.sent = [mgmtSendAck event.msg.src] →
      before.gateways.get subnet = none ∧
        after =
          { before with
            gateways := before.gateways.set subnet (some event.msg.src) }
  unregisterAck : ∀ subnet,
    Denotes event.msg.payload (.gwUnregister subnet) →
      event.sent = [mgmtSendAck event.msg.src] →
        before.gateways.get subnet = some event.msg.src ∧
          after =
            { before with gateways := before.gateways.set subnet none }
  nackUnchanged : event.sent = [mgmtSendNack event.msg.src] → after = before
  unknownUnchanged : Denotes event.msg.payload .unknown → after = before

theorem Handled.oneReply {before after : Controller Id} {src : Id}
    {request : Request} {reply : Outgoing Id}
    (h : Handled before src request after reply) :
    ∃ text, reply = mgmtReply src text := by
  cases h <;> exact ⟨_, rfl⟩

theorem Handled.numeric_iff {before after : Controller Id} {src : Id}
    {request : Request} {reply : Outgoing Id}
    (h : Handled before src request after reply) {host : Id} {diaddr : Nat}
    (hdiaddr : diaddr < 2 ^ 32) :
    reply = mgmtReply host (formatUnsigned diaddr) ↔
      Granted before after host diaddr := by
  have notNumber : ∀ {text : List Byte}, formatUnsigned diaddr ≠ text →
      (∀ l, before.modsInSubnet.get l = none →
        after.modsInSubnet.get l = none) →
      (mgmtReply src text = mgmtReply host (formatUnsigned diaddr) ↔
        Granted before after host diaddr) := by
    intro text htext hkeep
    refine iff_of_false ?_ (not_granted hkeep)
    intro hreply
    exact htext (mgmtReply_inj.mp hreply).2.symm
  cases h with
  | granted localaddr hlow hhigh hfree =>
      constructor
      · intro hreply
        obtain ⟨rfl, htext⟩ := mgmtReply_inj.mp hreply
        rw [← formatUnsigned_injOn (by omega) hdiaddr htext]
        exact granted_set src hlow hhigh hfree
      · intro hgranted
        obtain ⟨rfl, rfl⟩ := hgranted.eq_of_set hhigh
        rfl
  | released localaddr _ _ _ _ =>
      refine notNumber (formatUnsigned_ne_ack diaddr) (fun l hl => ?_)
      by_cases heq : l = localaddr
      · subst heq
        by_cases hlt : l < osdDiaddrLocalMax + 1
        · exact Table.get_set_self hlt none
        · exact Table.get_of_le (by omega)
      · exact (Table.get_set_ne heq none).trans hl
  | registered => exact notNumber (formatUnsigned_ne_ack diaddr) (fun _ h => h)
  | unregistered =>
      exact notNumber (formatUnsigned_ne_ack diaddr) (fun _ h => h)
  | acknowledged =>
      exact notNumber (formatUnsigned_ne_ack diaddr) (fun _ h => h)
  | notHeld => exact notNumber (formatUnsigned_ne_nack diaddr) (fun _ h => h)
  | occupied => exact notNumber (formatUnsigned_ne_nack diaddr) (fun _ h => h)
  | notGateway => exact notNumber (formatUnsigned_ne_nack diaddr) (fun _ h => h)

theorem Handled.unchanged_of_nack {before after : Controller Id} {src : Id}
    {request : Request} (h : Handled before src request after
      (mgmtSendNack src)) : after = before := by
  generalize hreply : mgmtSendNack src = reply at h
  have notNack : ∀ {text : List Byte}, text ≠ ascii "NACK" →
      mgmtSendNack src ≠ mgmtReply src text := by
    intro text htext heq
    exact htext (mgmtReply_inj.mp heq).2.symm
  cases h with
  | granted => exact absurd hreply (notNack (formatUnsigned_ne_nack _))
  | released => exact absurd hreply (notNack ack_ne_nack)
  | registered => exact absurd hreply (notNack ack_ne_nack)
  | unregistered => exact absurd hreply (notNack ack_ne_nack)
  | acknowledged => rfl
  | notHeld => rfl
  | occupied => rfl
  | notGateway => rfl

theorem Handled.repliesAgree {before after : Controller Id}
    {event : Event Id} {reply : Outgoing Id} (hsent : event.sent = [reply])
    (h : Handled before event.msg.src (requestOf event.msg.payload) after
      reply) : RepliesAgree before event after where
  oneReply := by
    obtain ⟨text, rfl⟩ := h.oneReply
    exact ⟨text, hsent⟩
  numeric := by
    intro host diaddr hdiaddr
    rw [hsent, List.singleton_inj]
    exact h.numeric_iff hdiaddr
  releaseAck := by
    intro hdenotes hack
    have hrequest := hdenotes.recognised
    generalize requestOf event.msg.payload = request at h hrequest
    obtain rfl : reply = mgmtSendAck event.msg.src := by
      simpa [hsent] using hack
    cases hrequest
    generalize hreply : mgmtSendAck event.msg.src = reply at h
    cases h with
    | released l _ _ hheld _ => exact ⟨l, hheld, rfl⟩
    | notHeld _ => exact absurd (mgmtReply_inj.mp hreply).2 ack_ne_nack
  registerAck := by
    intro subnet hdenotes hack
    have hrequest := hdenotes.recognised
    generalize requestOf event.msg.payload = request at h hrequest
    obtain rfl : reply = mgmtSendAck event.msg.src := by
      simpa [hsent] using hack
    rcases hrequest with _ | _ | hparams | hparams | _
    generalize hreply : mgmtSendAck event.msg.src = reply at h
    cases h with
    | registered _ subnet' hsubnet hfree =>
        obtain rfl := Except.ok.inj (hparams.symm.trans hsubnet)
        exact ⟨hfree, rfl⟩
    | occupied _ _ _ _ =>
        exact absurd (mgmtReply_inj.mp hreply).2 ack_ne_nack
  unregisterAck := by
    intro subnet hdenotes hack
    have hrequest := hdenotes.recognised
    generalize requestOf event.msg.payload = request at h hrequest
    obtain rfl : reply = mgmtSendAck event.msg.src := by
      simpa [hsent] using hack
    rcases hrequest with _ | _ | hparams | hparams | _
    generalize hreply : mgmtSendAck event.msg.src = reply at h
    cases h with
    | unregistered _ subnet' hsubnet hbound =>
        obtain rfl := Except.ok.inj (hparams.symm.trans hsubnet)
        exact ⟨hbound, rfl⟩
    | notGateway _ _ _ _ =>
        exact absurd (mgmtReply_inj.mp hreply).2 ack_ne_nack
  nackUnchanged := by
    intro hnack
    obtain rfl : reply = mgmtSendNack event.msg.src := by
      simpa [hsent] using hnack
    exact h.unchanged_of_nack
  unknownUnchanged := by
    intro hdenotes
    have hrequest := hdenotes.recognised
    generalize requestOf event.msg.payload = request at h hrequest
    cases hrequest
    cases h
    rfl

theorem Handled.subnetAddr_eq {before after : Controller Id} {src : Id}
    {request : Request} {reply : Outgoing Id}
    (h : Handled before src request after reply) :
    after.subnetAddr = before.subnetAddr := by
  cases h <;> rfl

theorem Handled.entryZero {before after : Controller Id} {src : Id}
    {request : Request} {reply : Outgoing Id}
    (h : Handled before src request after reply)
    (hzero : before.modsInSubnet.get 0 = none) :
    after.modsInSubnet.get 0 = none := by
  cases h with
  | granted l hlow _ _ =>
      exact (Table.get_set_ne (by omega) _).trans hzero
  | released l hlow _ _ _ =>
      exact (Table.get_set_ne (by omega) _).trans hzero
  | notHeld => exact hzero
  | registered => exact hzero
  | occupied => exact hzero
  | unregistered => exact hzero
  | notGateway => exact hzero
  | acknowledged => exact hzero

theorem Handled.keeps_diaddr {before after : Controller Id} {src host : Id}
    {request : Request} {reply : Outgoing Id}
    (h : Handled before src request after reply) {localaddr : Nat}
    (hbound : before.modsInSubnet.get localaddr = some host)
    (hnot : request = .diaddrRelease → reply = mgmtSendAck src → src ≠ host) :
    after.modsInSubnet.get localaddr = some host := by
  cases h with
  | granted l _ _ hfree =>
      have hne : localaddr ≠ l := by
        rintro rfl
        simp [hfree] at hbound
      exact (Table.get_set_ne hne _).trans hbound
  | released l _ _ hheld _ =>
      have hne : localaddr ≠ l := by
        rintro rfl
        exact hnot rfl rfl (Option.some.inj (hheld.symm.trans hbound))
      exact (Table.get_set_ne hne _).trans hbound
  | notHeld => exact hbound
  | registered => exact hbound
  | occupied => exact hbound
  | unregistered => exact hbound
  | notGateway => exact hbound
  | acknowledged => exact hbound

theorem Handled.keeps_subnet {before after : Controller Id} {src host : Id}
    {request : Request} {reply : Outgoing Id}
    (h : Handled before src request after reply) {subnet : Nat}
    (hbound : before.gateways.get subnet = some host)
    (hnot : ∀ params, request = .gwUnregister params →
      gwSubnet params = .ok subnet → reply = mgmtSendAck src → src ≠ host) :
    after.gateways.get subnet = some host := by
  cases h with
  | granted => exact hbound
  | released => exact hbound
  | notHeld => exact hbound
  | registered params s _ hfree =>
      have hne : subnet ≠ s := by
        rintro rfl
        simp [hfree] at hbound
      exact (Table.get_set_ne hne _).trans hbound
  | occupied => exact hbound
  | unregistered params s hsubnet hheld =>
      have hne : subnet ≠ s := by
        rintro rfl
        exact hnot params rfl hsubnet rfl
          (Option.some.inj (hheld.symm.trans hbound))
      exact (Table.get_set_ne hne _).trans hbound
  | notGateway => exact hbound
  | acknowledged => exact hbound

/-! ## Histories -/

/-- A numeric reply for `diaddr` went to `host`. -/
def grantedTo (host : Id) (diaddr : Nat) (event : Event Id) : Prop :=
  event.sent = [mgmtReply host (formatUnsigned diaddr)]

/-- `host` asked for `request` and received an acknowledgement. -/
def acknowledgedTo (host : Id) (request : MgmtRequest) (event : Event Id) :
    Prop :=
  event.msg.src = host ∧ Denotes event.msg.payload request ∧
    event.sent = [mgmtSendAck host]

/-- `host` was granted `diaddr` and had no release acknowledged since. -/
def HoldsDiaddr (history : List (Event Id)) (host : Id) (diaddr : Nat) :
    Prop :=
  diaddr < 2 ^ 32 ∧
    Since (grantedTo host diaddr) (acknowledgedTo host .diaddrRelease) history

/-- `host` registered for `subnet` and did not unregister since. -/
def HoldsSubnet (history : List (Event Id)) (host : Id) (subnet : Nat) :
    Prop :=
  Since (acknowledgedTo host (.gwRegister subnet))
    (acknowledgedTo host (.gwUnregister subnet)) history

/-- What every state reached by management requests satisfies. -/
structure TablesAgree (history : List (Event Id)) (ctx : Controller Id) :
    Prop where
  entryZero : ctx.modsInSubnet.get 0 = none
  diaddrBound : ∀ host diaddr, HoldsDiaddr history host diaddr →
    ctx.modsInSubnet.get (osdDiaddrLocaladdr diaddr) = some host
  diaddrUnique : ∀ host host' diaddr, HoldsDiaddr history host diaddr →
    HoldsDiaddr history host' diaddr → host = host'
  subnetBound : ∀ host subnet, HoldsSubnet history host subnet →
    ctx.gateways.get subnet = some host
  subnetUnique : ∀ host host' subnet, HoldsSubnet history host subnet →
    HoldsSubnet history host' subnet → host = host'

section Runs

variable [DecidableEq Id] {history : List (Event Id)} {ctx : Controller Id}

theorem MgmtStep.handled {before after : Controller Id} {event : Event Id}
    (hsubnet : before.subnetAddr = 1) (h : MgmtStep before event after) :
    ∃ reply, event.sent = [reply] ∧
      Handled before event.msg.src (requestOf event.msg.payload) after
        reply :=
  h.1.handled hsubnet (by rw [h.2.1]; rfl)

theorem subnetAddr_of_run (run : Runs MgmtStep osdHostctrlNew history ctx) :
    ctx.subnetAddr = 1 := by
  induction run with
  | refl => rfl
  | snoc _ hstep ih =>
      obtain ⟨_, _, hhandled⟩ := hstep.handled ih
      exact hhandled.subnetAddr_eq.trans ih

theorem MgmtStep.repliesAgree {before after : Controller Id}
    {event : Event Id} (hsubnet : before.subnetAddr = 1)
    (h : MgmtStep before event after) : RepliesAgree before event after := by
  obtain ⟨_, hsent, hhandled⟩ := h.handled hsubnet
  exact hhandled.repliesAgree hsent

theorem MgmtStep.keeps_diaddr {before after : Controller Id}
    {event : Event Id} (hsubnet : before.subnetAddr = 1)
    (h : MgmtStep before event after) {host : Id} {localaddr : Nat}
    (hbound : before.modsInSubnet.get localaddr = some host)
    (hnot : ¬acknowledgedTo host .diaddrRelease event) :
    after.modsInSubnet.get localaddr = some host := by
  obtain ⟨reply, hsent, hhandled⟩ := h.handled hsubnet
  obtain ⟨-, -, request, hdenotes⟩ := h
  refine hhandled.keeps_diaddr hbound (fun hrequest hreply hsrc => hnot ?_)
  have hrecognised := hdenotes.recognised
  rw [hrequest] at hrecognised
  cases hrecognised
  exact ⟨hsrc, hdenotes, by rw [hsent, hreply, hsrc]⟩

theorem MgmtStep.keeps_subnet {before after : Controller Id}
    {event : Event Id} (hsubnet : before.subnetAddr = 1)
    (h : MgmtStep before event after) {host : Id} {subnet : Nat}
    (hbound : before.gateways.get subnet = some host)
    (hnot : ¬acknowledgedTo host (.gwUnregister subnet) event) :
    after.gateways.get subnet = some host := by
  obtain ⟨reply, hsent, hhandled⟩ := h.handled hsubnet
  obtain ⟨-, -, request, hdenotes⟩ := h
  refine hhandled.keeps_subnet hbound
    (fun params hrequest hparams hreply hsrc => hnot ?_)
  have hrecognised := hdenotes.recognised
  rw [hrequest] at hrecognised
  rcases hrecognised with _ | _ | _ | hread | _
  obtain rfl := Except.ok.inj (hread.symm.trans hparams)
  exact ⟨hsrc, hdenotes, by rw [hsent, hreply, hsrc]⟩

theorem diaddr_bound (run : Runs MgmtStep osdHostctrlNew history ctx)
    {host : Id} {diaddr : Nat} (h : HoldsDiaddr history host diaddr) :
    ctx.modsInSubnet.get (osdDiaddrLocaladdr diaddr) = some host := by
  refine run.of_since (Q := fun ctx =>
    ctx.modsInSubnet.get (osdDiaddrLocaladdr diaddr) = some host) ?_ ?_ h.2
  · intro _ before event after hrun hstep hgrant
    have hagree := hstep.repliesAgree (subnetAddr_of_run hrun)
    exact ((hagree.numeric host diaddr h.1).mp hgrant).bound
  · intro _ before event after hrun hstep hbound hnot
    exact hstep.keeps_diaddr (subnetAddr_of_run hrun) hbound hnot

theorem subnet_bound (run : Runs MgmtStep osdHostctrlNew history ctx)
    {host : Id} {subnet : Nat} (h : HoldsSubnet history host subnet) :
    ctx.gateways.get subnet = some host := by
  refine run.of_since
    (Q := fun ctx => ctx.gateways.get subnet = some host) ?_ ?_ h
  · intro _ before event after hrun hstep hgrant
    have hagree := hstep.repliesAgree (subnetAddr_of_run hrun)
    obtain ⟨rfl, hdenotes, hack⟩ := hgrant
    obtain ⟨-, rfl⟩ := hagree.registerAck subnet hdenotes hack
    rcases hdenotes with _ | _ | ⟨hnumber, _⟩ | _ | _
    have hle := hnumber.le
    exact Table.get_set_self (by simp only [osdDiaddrSubnetMax]; omega) _
  · intro _ before event after hrun hstep hbound hnot
    exact hstep.keeps_subnet (subnetAddr_of_run hrun) hbound hnot

theorem tablesAgree_of_run (run : Runs MgmtStep osdHostctrlNew history ctx) :
    TablesAgree history ctx where
  entryZero := by
    induction run with
    | refl => exact Table.get_empty 0
    | snoc run hstep ih =>
        obtain ⟨_, _, hhandled⟩ := hstep.handled (subnetAddr_of_run run)
        exact hhandled.entryZero ih
  diaddrBound := fun _ _ h => diaddr_bound run h
  diaddrUnique := by
    intro host host' diaddr h h'
    exact Option.some.inj ((diaddr_bound run h).symm.trans (diaddr_bound run h'))
  subnetBound := fun _ _ h => subnet_bound run h
  subnetUnique := by
    intro host host' subnet h h'
    exact Option.some.inj ((subnet_bound run h).symm.trans (subnet_bound run h'))

/-- In every reachable state the tables hold exactly what the replies so far
promised, and the next reply again states what its request changes. -/
theorem replies_and_tables_agree
    (run : Runs MgmtStep osdHostctrlNew history ctx) :
    TablesAgree history ctx ∧
      ∀ event after, MgmtStep ctx event after →
        RepliesAgree ctx event after :=
  ⟨tablesAgree_of_run run, fun _ _ hstep =>
    hstep.repliesAgree (subnetAddr_of_run run)⟩

end Runs

/-- The first module to ask receives the address 1.1. -/
theorem replies_and_tables_agree_first_request :
    TablesAgree
        [⟨⟨7, ascii "M", ascii "DIADDR_REQUEST"⟩, fun _ => true,
          [mgmtReply 7 (ascii "1025")]⟩]
        { (osdHostctrlNew : Controller Nat) with
          modsInSubnet := Table.empty.set 1 (some 7) } ∧
      ∀ event after,
        MgmtStep
            { (osdHostctrlNew : Controller Nat) with
              modsInSubnet := Table.empty.set 1 (some 7) } event after →
          RepliesAgree
            { (osdHostctrlNew : Controller Nat) with
              modsInSubnet := Table.empty.set 1 (some 7) } event after := by
  apply replies_and_tables_agree
  exact Runs.single ⟨rfl, rfl, .diaddrRequest, .diaddrRequest rfl⟩

end Osd.HostCtrl
