import Osd.HostCtrl.Routing

/-!
# Messages that stop the controller

Messages come from the network, but the handlers assert that a request is well
formed, that an address is left and that the receiver is still there.  For
every reachable state the messages that are handled are exactly those that
meet all these assumptions.
-/

namespace Osd.HostCtrl

open Osd.Foundation

variable {Id : Type}

/-- A text that `strtol` reads up to its end, with a subnet as its value. -/
def SubnetParameter (params : List Byte) : Prop :=
  ∃ value rest, strtol params = .ok (value, 0 :: rest) ∧
    (value % 2 ^ 32).toNat ≤ 63

def AddressLeft (ctx : Controller Id) : Prop :=
  ∃ localaddr, 1 ≤ localaddr ∧ localaddr ≤ 1023 ∧
    ctx.modsInSubnet.get localaddr = none

def RequestHandleable (ctx : Controller Id) : Request → Prop
  | .diaddrRequest => AddressLeft ctx
  | .diaddrRelease => True
  | .gwRegister params => SubnetParameter params
  | .gwUnregister params => SubnetParameter params
  | .unknown => True

def Handleable (ctx : Controller Id) (connected : Id → Bool)
    (msg : ExtMsg Id) : Prop :=
  match msg.type.head? with
  | some 77 => RequestHandleable ctx (requestOf msg.payload)
  | some 68 => WellSized msg.payload ∧
      Deliverable connected (targetOf ctx (destWord msg.payload))
  | _ => True

/-! ## Requests -/

theorem returns_gwSubnet {params : List Byte} :
    Returns (gwSubnet params) ↔ SubnetParameter params := by
  constructor
  · rintro ⟨subnet, h⟩
    obtain ⟨value, rest, hstrtol, rfl, hle⟩ := gwSubnet_eq_ok.mp h
    exact ⟨value, rest, hstrtol, hle⟩
  · rintro ⟨value, rest, hstrtol, hle⟩
    exact ⟨_, gwSubnet_eq_ok.mpr ⟨value, rest, hstrtol, rfl, hle⟩⟩

/-- A call that reads its subnet first returns if the subnet can be read. -/
theorem returns_of_gwSubnet {α : Type} {params : List Byte}
    {next : Nat → Outcome α}
    (hhandled : ∀ subnet, gwSubnet params = .ok subnet →
      Returns (gwSubnet params >>= next)) :
    Returns (gwSubnet params >>= next) ↔ SubnetParameter params := by
  refine Iff.trans ⟨?_, ?_⟩ returns_gwSubnet
  · rintro ⟨result, h⟩
    obtain ⟨subnet, hparams, -⟩ := bind_eq_ok.mp h
    exact ⟨subnet, hparams⟩
  · rintro ⟨subnet, hparams⟩
    exact hhandled subnet hparams

theorem returns_mgmtDiaddrRequest {ctx : Controller Id} (src : Id)
    (hsubnet : ctx.subnetAddr = 1) :
    Returns (mgmtDiaddrRequest ctx src) ↔ AddressLeft ctx := by
  obtain ⟨result, hsearch, hfound⟩ := ctx.modsInSubnet.search_spec
    Option.isNone osdDiaddrLocalMax 1 (by simp [osdDiaddrLocalMax])
  cases hfound with
  | first localaddr hlow hhigh hfree _ =>
      rw [Option.isNone_iff_eq_none] at hfree
      have hle : localaddr ≤ 1023 := by
        simp only [osdDiaddrLocalMax] at hhigh
        omega
      apply iff_of_true
      · exact ⟨_, mgmtDiaddrRequest_of_free src hsubnet hle hsearch hfree⟩
      · exact ⟨localaddr, hlow, hle, hfree⟩
  | absent hfull =>
      apply iff_of_false
      · rw [mgmtDiaddrRequest_of_full src hsearch]
        exact not_returns_error _
      · rintro ⟨localaddr, hlow, hhigh, hfree⟩
        have hbound := hfull localaddr hlow
          (by simp only [osdDiaddrLocalMax]; omega)
        rw [hfree] at hbound
        cases hbound

variable [DecidableEq Id]

theorem returns_handleRequest {ctx : Controller Id} (src : Id)
    (hsubnet : ctx.subnetAddr = 1) (request : Request) :
    Returns (handleRequest ctx src request) ↔
      RequestHandleable ctx request := by
  cases request with
  | diaddrRequest => exact returns_mgmtDiaddrRequest src hsubnet
  | diaddrRelease =>
      obtain ⟨after, reply, hcall, -⟩ := mgmtDiaddrRelease_handled ctx src
      exact iff_of_true ⟨_, hcall⟩ trivial
  | gwRegister params =>
      refine returns_of_gwSubnet fun subnet hparams => ?_
      obtain ⟨after, reply, hcall, -⟩ :=
        mgmtGwRegister_handled ctx src hparams
      exact ⟨_, hcall⟩
  | gwUnregister params =>
      refine returns_of_gwSubnet fun subnet hparams => ?_
      obtain ⟨after, reply, hcall, -⟩ :=
        mgmtGwUnregister_handled ctx src hparams
      exact ⟨_, hcall⟩
  | unknown => exact iff_of_true ⟨_, rfl⟩ trivial

/-! ## Messages -/

omit [DecidableEq Id] in
theorem returns_processDataMsg (ctx : Controller Id) (connected : Id → Bool)
    (payload : List Byte) :
    Returns (processDataMsg ctx connected payload) ↔
      WellSized payload ∧
        Deliverable connected (targetOf ctx (destWord payload)) := by
  have hroute := routeEntry_eq ctx (destWord_lt payload)
  constructor
  · rintro ⟨result, h⟩
    obtain ⟨hsize, hdeliverable, -⟩ := (processDataMsg_eq_ok hroute).mp h
    exact ⟨hsize, hdeliverable⟩
  · rintro ⟨hsize, hdeliverable⟩
    exact ⟨_, (processDataMsg_eq_ok hroute).mpr ⟨hsize, hdeliverable, rfl⟩⟩

theorem returns_iothreadHandleExtMsg {ctx : Controller Id}
    (hsubnet : ctx.subnetAddr = 1) (connected : Id → Bool)
    (msg : ExtMsg Id) :
    Returns (iothreadHandleExtMsg ctx connected msg) ↔
      Handleable ctx connected msg := by
  unfold Handleable
  split
  · rename_i htype
    rw [← head?_typeStr (by decide)] at htype
    rw [← returns_handleRequest msg.src hsubnet]
    simp only [iothreadHandleExtMsg, htype, processMgmtMsg]
    constructor
    · rintro ⟨result, h⟩
      obtain ⟨handled, hrequest, -⟩ := bind_eq_ok.mp h
      exact ⟨handled, hrequest⟩
    · rintro ⟨⟨after, reply⟩, hrequest⟩
      exact ⟨_, bind_eq_ok.mpr ⟨_, hrequest, rfl⟩⟩
  · rename_i htype
    rw [iothreadHandleExtMsg_data htype]
    exact returns_processDataMsg ctx connected msg.payload
  · rename_i hnotMgmt hnotData
    simp only [iothreadHandleExtMsg]
    split
    · rename_i htype
      exact absurd ((head?_typeStr (by decide)).mp htype) hnotMgmt
    · rename_i htype
      exact absurd ((head?_typeStr (by decide)).mp htype) hnotData
    · exact iff_of_true (returns_ok _) trivial

/-- A message is handled in a reachable state, by forwarding, replying or
dropping it, exactly if it meets the assumptions of its handler. -/
theorem handled_iff_handleable {history : List (Event Id)}
    {ctx : Controller Id} (run : Runs Step osdHostctrlNew history ctx)
    (connected : Id → Bool) (msg : ExtMsg Id) :
    Returns (iothreadHandleExtMsg ctx connected msg) ↔
      Handleable ctx connected msg :=
  returns_iothreadHandleExtMsg (represents_of_run run).subnetAddr connected msg

/-- After the first module has asked for its address, a gateway still
registers for subnet 0. -/
theorem handled_iff_handleable_gateway :
    Returns (iothreadHandleExtMsg
        { (osdHostctrlNew : Controller Nat) with
          modsInSubnet := Table.empty.set 1 (some 7) }
        (fun _ => false) ⟨8, ascii "M", ascii "GW_REGISTER 0"⟩) ↔
      Handleable
        { (osdHostctrlNew : Controller Nat) with
          modsInSubnet := Table.empty.set 1 (some 7) }
        (fun _ => false) ⟨8, ascii "M", ascii "GW_REGISTER 0"⟩ := by
  have run : Runs Step (osdHostctrlNew : Controller Nat)
      [⟨⟨7, ascii "M", ascii "DIADDR_REQUEST"⟩, fun _ => true,
        [mgmtReply 7 (ascii "1025")]⟩]
      { (osdHostctrlNew : Controller Nat) with
        modsInSubnet := Table.empty.set 1 (some 7) } := .single rfl
  exact handled_iff_handleable run _ _

/-- An empty data frame and a subnet that is no number both fail an assertion
of a controller that was just started. -/
theorem not_handled_by_new_controller :
    iothreadHandleExtMsg (osdHostctrlNew : Controller Nat) (fun _ => true)
        ⟨7, ascii "D", []⟩ = .error .assertion ∧
      iothreadHandleExtMsg (osdHostctrlNew : Controller Nat) (fun _ => true)
        ⟨7, ascii "M", ascii "GW_REGISTER x"⟩ = .error .assertion :=
  ⟨rfl, rfl⟩

end Osd.HostCtrl
