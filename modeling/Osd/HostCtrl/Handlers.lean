import Osd.HostCtrl.Controller

/-!
# What a management request does

One inversion lemma for all request handlers, from which every invariant of
the tables is derived.  The controller's own subnet is always subnet 1.
-/

namespace Osd.HostCtrl

open Osd.Foundation

variable {Id : Type}

theorem mgmtDiaddrRequest_of_free {ctx : Controller Id} (src : Id)
    (hsubnet : ctx.subnetAddr = 1) {localaddr : Nat} (hhigh : localaddr ≤ 1023)
    (hsearch : ctx.modsInSubnet.search Option.isNone osdDiaddrLocalMax 1 =
      .ok (some localaddr))
    (hfree : ctx.modsInSubnet.get localaddr = none) :
    mgmtDiaddrRequest ctx src =
      .ok ({ ctx with
          modsInSubnet := ctx.modsInSubnet.set localaddr (some src) },
        mgmtReply src (formatUnsigned (1024 + localaddr))) := by
  have hbuild : osdDiaddrBuild ctx.subnetAddr localaddr =
      .ok (1024 + localaddr) := by
    rw [hsubnet, osdDiaddrBuild_eq (by omega) hhigh]
  have havailable : getAvailableDiaddr ctx = .ok (some (1024 + localaddr)) := by
    simp only [getAvailableDiaddr, hsearch, ok_bind, hbuild]
  have hlocal : osdDiaddrLocaladdr (1024 + localaddr) = localaddr := by
    rw [osdDiaddrLocaladdr_eq]
    omega
  have hlt : localaddr < osdDiaddrLocalMax + 1 := by
    simp only [osdDiaddrLocalMax]
    omega
  simp only [mgmtDiaddrRequest, havailable, ok_bind, registerDiaddr, hlocal,
    Table.load_eq hlt, hfree, Table.store_eq hlt]

theorem mgmtDiaddrRequest_of_full {ctx : Controller Id} (src : Id)
    (hsearch : ctx.modsInSubnet.search Option.isNone osdDiaddrLocalMax 1 =
      .ok none) :
    mgmtDiaddrRequest ctx src = .error .assertion := by
  simp only [mgmtDiaddrRequest, getAvailableDiaddr, hsearch, ok_bind]

/-- The effect of a request that is answered. -/
inductive Handled (before : Controller Id) (src : Id) :
    Request → Controller Id → Outgoing Id → Prop
  | granted (localaddr : Nat) (hlow : 1 ≤ localaddr)
      (hhigh : localaddr ≤ 1023)
      (hfree : before.modsInSubnet.get localaddr = none) :
      Handled before src .diaddrRequest
        { before with
          modsInSubnet := before.modsInSubnet.set localaddr (some src) }
        (mgmtReply src (formatUnsigned (1024 + localaddr)))
  | released (localaddr : Nat) (hlow : 1 ≤ localaddr) (hhigh : localaddr ≤ 62)
      (hheld : before.modsInSubnet.get localaddr = some src)
      (hfirst : ∀ j, 1 ≤ j → j < localaddr →
        before.modsInSubnet.get j ≠ some src) :
      Handled before src .diaddrRelease
        { before with modsInSubnet := before.modsInSubnet.set localaddr none }
        (mgmtSendAck src)
  | notHeld (hnone : ∀ j, 1 ≤ j → j ≤ 62 →
        before.modsInSubnet.get j ≠ some src) :
      Handled before src .diaddrRelease before (mgmtSendNack src)
  | registered (params : List Byte) (subnet : Nat)
      (hsubnet : gwSubnet params = .ok subnet)
      (hfree : before.gateways.get subnet = none) :
      Handled before src (.gwRegister params)
        { before with gateways := before.gateways.set subnet (some src) }
        (mgmtSendAck src)
  | occupied (params : List Byte) (subnet : Nat)
      (hsubnet : gwSubnet params = .ok subnet)
      (hbound : before.gateways.get subnet ≠ none) :
      Handled before src (.gwRegister params) before (mgmtSendNack src)
  | unregistered (params : List Byte) (subnet : Nat)
      (hsubnet : gwSubnet params = .ok subnet)
      (hbound : before.gateways.get subnet = some src) :
      Handled before src (.gwUnregister params)
        { before with gateways := before.gateways.set subnet none }
        (mgmtSendAck src)
  | notGateway (params : List Byte) (subnet : Nat)
      (hsubnet : gwSubnet params = .ok subnet)
      (hother : before.gateways.get subnet ≠ some src) :
      Handled before src (.gwUnregister params) before (mgmtSendNack src)
  | acknowledged : Handled before src .unknown before (mgmtSendAck src)

theorem gwSubnet_eq_ok {params : List Byte} {subnet : Nat} :
    gwSubnet params = .ok subnet ↔
      ∃ value rest, strtol params = .ok (value, 0 :: rest) ∧
        (value % 2 ^ 32).toNat = subnet ∧ subnet ≤ 63 := by
  rw [gwSubnet, bind_eq_ok]
  constructor
  · rintro ⟨⟨value, endptr⟩, hstrtol, h⟩
    cases endptr with
    | nil => simp [firstChar] at h
    | cons char rest =>
        simp only [firstChar_cons, ok_bind, assertThat_bind_eq_ok,
          Except.ok.injEq] at h
        obtain ⟨rfl, hle, rfl⟩ := h
        exact ⟨value, rest, hstrtol, rfl, by simpa [osdDiaddrSubnetMax] using hle⟩
  · rintro ⟨value, rest, hstrtol, rfl, hle⟩
    refine ⟨_, hstrtol, ?_⟩
    simp only [firstChar_cons, ok_bind, assertThat_bind_eq_ok]
    exact ⟨trivial, by simpa [osdDiaddrSubnetMax] using hle, trivial⟩

theorem gwSubnet_lt {params : List Byte} {subnet : Nat}
    (h : gwSubnet params = .ok subnet) : subnet < osdDiaddrSubnetMax + 1 := by
  obtain ⟨_, _, _, _, hle⟩ := gwSubnet_eq_ok.mp h
  simp only [osdDiaddrSubnetMax]
  omega

theorem mgmtDiaddrRequest_handled {before after : Controller Id} {src : Id}
    {reply : Outgoing Id} (hsubnet : before.subnetAddr = 1)
    (h : mgmtDiaddrRequest before src = .ok (after, reply)) :
    Handled before src .diaddrRequest after reply := by
  obtain ⟨result, hsearch, hfound⟩ := before.modsInSubnet.search_spec
    Option.isNone osdDiaddrLocalMax 1 (by simp [osdDiaddrLocalMax])
  cases hfound with
  | first localaddr hlow hhigh hfree _ =>
      have hle : localaddr ≤ 1023 := by
        simp only [osdDiaddrLocalMax] at hhigh
        omega
      rw [Option.isNone_iff_eq_none] at hfree
      rw [mgmtDiaddrRequest_of_free src hsubnet hle hsearch hfree] at h
      obtain ⟨rfl, rfl⟩ := Prod.mk.inj (Except.ok.inj h)
      exact .granted localaddr hlow hle hfree
  | absent _ =>
      rw [mgmtDiaddrRequest_of_full src hsearch] at h
      cases h

theorem mgmtDiaddrRelease_handled [DecidableEq Id]
    (before : Controller Id) (src : Id) :
    ∃ after reply, mgmtDiaddrRelease before src = .ok (after, reply) ∧
      Handled before src .diaddrRelease after reply := by
  obtain ⟨result, hsearch, hfound⟩ := before.modsInSubnet.search_spec
    (· = some src) (osdDiaddrSubnetMax - 1) 1
    (by simp [osdDiaddrSubnetMax, osdDiaddrLocalMax])
  simp only [mgmtDiaddrRelease, hsearch, ok_bind]
  simp only [osdDiaddrSubnetMax] at hfound
  cases hfound with
  | first localaddr hlow hhigh hheld hfirst =>
      have hlt : localaddr < osdDiaddrLocalMax + 1 := by
        simp only [osdDiaddrLocalMax]
        omega
      simp only [Table.store_eq hlt, ok_bind]
      refine ⟨_, _, rfl, .released localaddr hlow (by omega)
        (by simpa using hheld) (fun j hj hlt' => ?_)⟩
      simpa using hfirst j hj hlt'
  | absent hnone =>
      refine ⟨_, _, rfl, .notHeld (fun j hj hlt' => ?_)⟩
      simpa using hnone j hj (by omega)

theorem mgmtGwRegister_handled (before : Controller Id) (src : Id)
    {params : List Byte} {subnet : Nat} (hsubnet : gwSubnet params = .ok subnet) :
    ∃ after reply, mgmtGwRegister before src params = .ok (after, reply) ∧
      Handled before src (.gwRegister params) after reply := by
  have hlt := gwSubnet_lt hsubnet
  simp only [mgmtGwRegister, hsubnet, ok_bind, Table.load_eq hlt]
  cases hentry : before.gateways.get subnet with
  | none =>
      simp only [Table.store_eq hlt, ok_bind]
      exact ⟨_, _, rfl, .registered params subnet hsubnet hentry⟩
  | some gateway =>
      exact ⟨_, _, rfl, .occupied params subnet hsubnet (by simp [hentry])⟩

theorem mgmtGwUnregister_handled [DecidableEq Id]
    (before : Controller Id) (src : Id)
    {params : List Byte} {subnet : Nat} (hsubnet : gwSubnet params = .ok subnet) :
    ∃ after reply, mgmtGwUnregister before src params = .ok (after, reply) ∧
      Handled before src (.gwUnregister params) after reply := by
  have hlt := gwSubnet_lt hsubnet
  simp only [mgmtGwUnregister, hsubnet, ok_bind, Table.load_eq hlt]
  cases hentry : before.gateways.get subnet with
  | none =>
      exact ⟨_, _, rfl, .notGateway params subnet hsubnet (by simp [hentry])⟩
  | some gateway =>
      by_cases hsrc : gateway = src
      · subst hsrc
        simp only [if_true, Table.store_eq hlt, ok_bind]
        exact ⟨_, _, rfl, .unregistered params subnet hsubnet hentry⟩
      · simp only [hsrc, if_false]
        exact ⟨_, _, rfl, .notGateway params subnet hsubnet
          (by simp [hentry, hsrc])⟩

theorem handleRequest_handled [DecidableEq Id]
    {before after : Controller Id} {src : Id}
    {request : Request} {reply : Outgoing Id} (hsubnet : before.subnetAddr = 1)
    (h : handleRequest before src request = .ok (after, reply)) :
    Handled before src request after reply := by
  have determined : ∀ {call : Outcome (Controller Id × Outgoing Id)},
      (∃ after' reply', call = .ok (after', reply') ∧
        Handled before src request after' reply') →
      call = .ok (after, reply) → Handled before src request after reply := by
    rintro _ ⟨after', reply', rfl, hhandled⟩ hcall
    obtain ⟨rfl, rfl⟩ := Prod.mk.inj (Except.ok.inj hcall)
    exact hhandled
  cases request with
  | diaddrRequest => exact mgmtDiaddrRequest_handled hsubnet h
  | diaddrRelease => exact determined (mgmtDiaddrRelease_handled before src) h
  | gwRegister params =>
      obtain ⟨subnet, hparams, _⟩ := bind_eq_ok.mp h
      exact determined (mgmtGwRegister_handled before src hparams) h
  | gwUnregister params =>
      obtain ⟨subnet, hparams, _⟩ := bind_eq_ok.mp h
      exact determined (mgmtGwUnregister_handled before src hparams) h
  | unknown =>
      exact determined ⟨_, _, rfl, .acknowledged⟩ h

/-! ## One message -/

section Step

variable [DecidableEq Id] {before after : Controller Id} {event : Event Id}

theorem head?_typeStr {type : List Byte} {char : Byte} (h : char ≠ 0) :
    (type ++ [0]).head? = some char ↔ type.head? = some char := by
  cases type with
  | nil => simp [h.symm]
  | cons first rest => simp

theorem Step.handled (hsubnet : before.subnetAddr = 1)
    (h : Step before event after) (htype : event.msg.type.head? = some 77) :
    ∃ reply, event.sent = [reply] ∧
      Handled before event.msg.src (requestOf event.msg.payload) after
        reply := by
  rw [← head?_typeStr (by decide)] at htype
  rw [Step, iothreadHandleExtMsg] at h
  simp only [htype, bind_eq_ok, processMgmtMsg] at h
  obtain ⟨⟨ctx, reply⟩, hrequest, h⟩ := h
  obtain ⟨rfl, hsent⟩ := Prod.mk.inj (Except.ok.inj h)
  exact ⟨reply, hsent.symm, handleRequest_handled hsubnet hrequest⟩

theorem Step.unchanged (h : Step before event after)
    (htype : event.msg.type.head? ≠ some 77) : after = before := by
  rw [Ne, ← head?_typeStr (by decide)] at htype
  simp only [Step, iothreadHandleExtMsg] at h
  split at h
  · rename_i hmgmt
    exact absurd hmgmt htype
  · obtain ⟨_, _, h⟩ := bind_eq_ok.mp h
    obtain ⟨_, _, h⟩ := bind_eq_ok.mp h
    obtain ⟨target, _, h⟩ := bind_eq_ok.mp h
    cases target with
    | none => exact (Prod.mk.inj (Except.ok.inj h)).1.symm
    | some host =>
        have hsent := (assertThat_bind_eq_ok.mp h).2
        exact (Prod.mk.inj (Except.ok.inj hsent)).1.symm
  · exact (Prod.mk.inj (Except.ok.inj h)).1.symm

end Step

end Osd.HostCtrl
