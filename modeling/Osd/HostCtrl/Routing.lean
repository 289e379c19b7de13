import Osd.Foundation.Runs
import Osd.HostCtrl.Handlers

/-!
# Routing of data messages

A registry of address leases and gateways is kept by an observer who sees only
the messages that the controller received and sent.  The tables represent this
registry in every reachable state, so the lookup for a data message finds the
host that the observer expects.
-/

namespace Osd.HostCtrl

open Osd.Foundation

variable {Id : Type}

/-! ## The registry of an observer -/

structure Registry (Id : Type) where
  lease : Nat → Option Id
  gateway : Nat → Option Id

namespace Registry

def empty : Registry Id := ⟨fun _ => none, fun _ => none⟩

def grant (registry : Registry Id) (host : Id) (diaddr : Nat) : Registry Id :=
  { registry with lease := Function.update registry.lease diaddr (some host) }

/-- A release gives up the lowest address that the host holds. -/
def release [DecidableEq Id] (registry : Registry Id) (host : Id) :
    Registry Id :=
  { registry with
    lease := fun diaddr =>
      if registry.lease diaddr = some host ∧
          ∀ lower < diaddr, registry.lease lower ≠ some host then none
      else registry.lease diaddr }

def setGateway (registry : Registry Id) (subnet : Nat) (host : Option Id) :
    Registry Id :=
  { registry with gateway := Function.update registry.gateway subnet host }

/-- The host that a packet with this destination has to reach. -/
def route (registry : Registry Id) (dest : Nat) : Option Id :=
  if osdDiaddrSubnet dest = 1 then registry.lease dest
  else registry.gateway (osdDiaddrSubnet dest)

def isNumber (text : List Byte) : Bool :=
  !text.isEmpty && text.all isDigit

def observeReply [DecidableEq Id] (registry : Registry Id) (host : Id)
    (text : List Byte) : Request → Registry Id
  | .diaddrRequest =>
      if isNumber text then registry.grant host (decimalValue text)
      else registry
  | .diaddrRelease =>
      if text = ascii "ACK" then registry.release host else registry
  | .gwRegister params =>
      match gwSubnet params with
      | .ok subnet =>
          if text = ascii "ACK" then registry.setGateway subnet (some host)
          else registry
      | .error _ => registry
  | .gwUnregister params =>
      match gwSubnet params with
      | .ok subnet =>
          if text = ascii "ACK" then registry.setGateway subnet none
          else registry
      | .error _ => registry
  | .unknown => registry

def observe [DecidableEq Id] (registry : Registry Id) (event : Event Id) :
    Registry Id :=
  match event.msg.type.head?, event.sent with
  | some 77, [reply] =>
      registry.observeReply reply.dest reply.payload
        (requestOf event.msg.payload)
  | _, _ => registry

end Registry

def registryOf [DecidableEq Id] (history : List (Event Id)) : Registry Id :=
  history.foldl Registry.observe Registry.empty

/-! ## The tables represent the registry -/

structure Represents (ctx : Controller Id) (registry : Registry Id) :
    Prop where
  subnetAddr : ctx.subnetAddr = 1
  entryZero : ctx.modsInSubnet.get 0 = none
  leased : ∀ localaddr, localaddr ≤ 1023 →
    registry.lease (1024 + localaddr) = ctx.modsInSubnet.get localaddr
  leaseLocal : ∀ diaddr, osdDiaddrSubnet diaddr ≠ 1 →
    registry.lease diaddr = none
  gateways : ∀ subnet, registry.gateway subnet = ctx.gateways.get subnet

theorem represents_new :
    Represents (osdHostctrlNew : Controller Id) Registry.empty := by
  constructor
  · rfl
  · exact Table.get_empty 0
  · intro localaddr _
    exact (Table.get_empty localaddr).symm
  · intro diaddr _
    rfl
  · intro subnet
    exact (Table.get_empty subnet).symm

theorem subnet_eq_one {diaddr : Nat} :
    osdDiaddrSubnet diaddr = 1 ↔
      ∃ localaddr, localaddr ≤ 1023 ∧ diaddr = 1024 + localaddr := by
  rw [osdDiaddrSubnet_eq]
  constructor
  · intro h
    exact ⟨diaddr - 1024, by omega, by omega⟩
  · rintro ⟨localaddr, hle, rfl⟩
    omega

section Observed

variable {before : Controller Id} {registry : Registry Id}

theorem Represents.grant (h : Represents before registry) (host : Id)
    {localaddr : Nat} (hlow : 1 ≤ localaddr) (hhigh : localaddr ≤ 1023) :
    Represents
      { before with
        modsInSubnet := before.modsInSubnet.set localaddr (some host) }
      (registry.grant host (1024 + localaddr)) := by
  constructor
  · exact h.subnetAddr
  · exact (Table.get_set_ne (by omega) _).trans h.entryZero
  · intro other hother
    cases Nat.decEq other localaddr with
    | isTrue heq =>
        subst heq
        have hlt : other < osdDiaddrLocalMax + 1 := by
          simp only [osdDiaddrLocalMax]
          omega
        simp [Registry.grant, Table.get_set_self hlt]
    | isFalse hne =>
        have hne' : 1024 + other ≠ 1024 + localaddr := by omega
        simp only [Registry.grant, Function.update_of_ne hne',
          Table.get_set_ne hne, h.leased other hother]
  · intro diaddr hdiaddr
    have hne : diaddr ≠ 1024 + localaddr := by
      rintro rfl
      exact hdiaddr (subnet_eq_one.mpr ⟨localaddr, hhigh, rfl⟩)
    simp [Registry.grant, hne, h.leaseLocal diaddr hdiaddr]
  · exact h.gateways

theorem Represents.setGateway (h : Represents before registry)
    (host : Option Id) {subnet : Nat} (hsubnet : subnet ≤ 63) :
    Represents
      { before with gateways := before.gateways.set subnet host }
      (registry.setGateway subnet host) := by
  refine ⟨h.subnetAddr, h.entryZero, h.leased, h.leaseLocal, ?_⟩
  intro other
  cases Nat.decEq other subnet with
  | isTrue heq =>
      subst heq
      have hlt : other < osdDiaddrSubnetMax + 1 := by
        simp only [osdDiaddrSubnetMax]
        omega
      simp [Registry.setGateway, Table.get_set_self hlt]
  | isFalse hne =>
      simp [Registry.setGateway, hne, Table.get_set_ne hne, h.gateways other]

variable [DecidableEq Id]

/-- The first entry of the loop is the lowest address of the registry. -/
theorem Represents.release (h : Represents before registry) {host : Id}
    {localaddr : Nat} (hlow : 1 ≤ localaddr) (hhigh : localaddr ≤ 1023)
    (hheld : before.modsInSubnet.get localaddr = some host)
    (hfirst : ∀ j, 1 ≤ j → j < localaddr →
      before.modsInSubnet.get j ≠ some host) :
    Represents
      { before with modsInSubnet := before.modsInSubnet.set localaddr none }
      (registry.release host) := by
  have hlt : localaddr < osdDiaddrLocalMax + 1 := by
    simp only [osdDiaddrLocalMax]
    omega
  have hleased : registry.lease (1024 + localaddr) = some host :=
    (h.leased localaddr hhigh).trans hheld
  have hlowest : ∀ lower < 1024 + localaddr,
      registry.lease lower ≠ some host := by
    intro lower hlower hlease
    have hsubnet : osdDiaddrSubnet lower = 1 := by
      by_contra hne
      rw [h.leaseLocal lower hne] at hlease
      cases hlease
    obtain ⟨j, hj, rfl⟩ := subnet_eq_one.mp hsubnet
    rw [h.leased j hj] at hlease
    cases j with
    | zero =>
        rw [h.entryZero] at hlease
        cases hlease
    | succ j => exact hfirst (j + 1) (by omega) (by omega) hlease
  constructor
  · exact h.subnetAddr
  · exact (Table.get_set_ne (by omega) _).trans h.entryZero
  · intro other hother
    cases Nat.decEq other localaddr with
    | isTrue heq =>
        subst heq
        rw [Table.get_set_self hlt]
        exact if_pos ⟨hleased, hlowest⟩
    | isFalse hne =>
        rw [Table.get_set_ne hne, ← h.leased other hother]
        refine if_neg (fun hother' => ?_)
        -- a second lowest address would be lower than the first one
        have hnot := hlowest (1024 + other)
        have hnot' := hother'.2 (1024 + localaddr)
        have hle : localaddr ≤ other := by
          by_contra hlt'
          exact hnot (by omega) hother'.1
        exact hnot' (by omega) hleased
  · intro diaddr hdiaddr
    have hnone := h.leaseLocal diaddr hdiaddr
    simp [Registry.release, hnone]
  · exact h.gateways

end Observed

theorem isNumber_formatUnsigned (value : Nat) :
    Registry.isNumber (formatUnsigned value) = true := by
  have hne := formatUnsigned_ne_nil value
  have hdigits := formatUnsigned_isDigit value
  simp only [Registry.isNumber, Bool.and_eq_true, Bool.not_eq_true',
    List.isEmpty_eq_false_iff, List.all_eq_true]
  exact ⟨hne, hdigits⟩

theorem Handled.represents [DecidableEq Id] {before after : Controller Id}
    {registry : Registry Id} {src : Id} {request : Request}
    {reply : Outgoing Id} (hrep : Represents before registry)
    (h : Handled before src request after reply) :
    Represents after
      (registry.observeReply reply.dest reply.payload request) := by
  have hnack : ascii "NACK" ≠ ascii "ACK" := by decide
  cases h with
  | granted localaddr hlow hhigh _ =>
      have hlt : 1024 + localaddr < 2 ^ 32 := by omega
      simp only [mgmtReply, Registry.observeReply, isNumber_formatUnsigned,
        if_true, decimalValue_formatUnsigned hlt]
      exact hrep.grant src hlow hhigh
  | released localaddr hlow hhigh hheld hfirst =>
      simp only [mgmtSendAck, mgmtReply, Registry.observeReply, if_true]
      exact hrep.release hlow (by omega) hheld hfirst
  | notHeld _ =>
      simpa [mgmtSendNack, mgmtReply, Registry.observeReply, hnack] using hrep
  | registered params subnet hsubnet _ =>
      have hlt := gwSubnet_lt hsubnet
      simp only [mgmtSendAck, mgmtReply, Registry.observeReply, hsubnet,
        if_true]
      exact hrep.setGateway (some src) (Nat.lt_succ_iff.mp hlt)
  | occupied params subnet hsubnet _ =>
      simpa [mgmtSendNack, mgmtReply, Registry.observeReply, hsubnet, hnack]
        using hrep
  | unregistered params subnet hsubnet _ =>
      have hlt := gwSubnet_lt hsubnet
      simp only [mgmtSendAck, mgmtReply, Registry.observeReply, hsubnet,
        if_true]
      exact hrep.setGateway none (Nat.lt_succ_iff.mp hlt)
  | notGateway params subnet hsubnet _ =>
      simpa [mgmtSendNack, mgmtReply, Registry.observeReply, hsubnet, hnack]
        using hrep
  | acknowledged => exact hrep

/-! ## Data frames -/

/-- Whole words, and a number of them whose low 16 bits cover the header. -/
def WellSized (payload : List Byte) : Prop :=
  payload.length % 2 = 0 ∧
    packetHeaderWordCnt ≤ payload.length / 2 % 2 ^ 16

def destWord (payload : List Byte) : Nat :=
  ((wordsOfBytes payload).headD 0).toNat

theorem osdPacketNewFromZframe_eq_ok {payload : List Byte}
    {packet : Packet} :
    osdPacketNewFromZframe payload = .ok packet ↔
      packetHeaderWordCnt ≤ payload.length / 2 ∧ payload.length % 2 = 0 ∧
        packet = ⟨UInt16.ofNat (payload.length / 2), wordsOfBytes payload⟩ := by
  rw [osdPacketNewFromZframe, assertThat_bind_eq_ok]
  apply and_congr_right
  intro _
  simp only [osdPacketNew, List.length_replicate, inBounds_bind_eq_ok,
    Except.ok.injEq]
  refine and_congr ⟨fun _ => by omega, fun _ => by omega⟩ ⟨?_, ?_⟩
  · rintro rfl
    rfl
  · rintro rfl
    rfl

theorem osdPacketGetDest_of_frame {payload : List Byte}
    (hwords : packetHeaderWordCnt ≤ payload.length / 2) :
    osdPacketGetDest
        ⟨UInt16.ofNat (payload.length / 2), wordsOfBytes payload⟩ =
      (assertThat (packetHeaderWordCnt ≤ payload.length / 2 % 2 ^ 16) >>=
        fun _ => .ok (destWord payload)) := by
  have hlength := length_wordsOfBytes payload
  cases hwordList : wordsOfBytes payload with
  | nil =>
      simp only [hwordList, List.length_nil, packetHeaderWordCnt] at hlength hwords
      omega
  | cons dest words =>
      simp only [osdPacketGetDest, headerWord, Packet.word, destWord,
        hwordList, UInt16.toNat_ofNat']
      unfold assertThat
      split <;> rfl

theorem getDest_of_wellSized {payload : List Byte} (h : WellSized payload) :
    ∃ packet, osdPacketNewFromZframe payload = .ok packet ∧
      osdPacketGetDest packet = .ok (destWord payload) := by
  have hwords : packetHeaderWordCnt ≤ payload.length / 2 :=
    h.2.trans (Nat.mod_le _ _)
  refine ⟨_, osdPacketNewFromZframe_eq_ok.mpr ⟨hwords, h.1, rfl⟩, ?_⟩
  rw [osdPacketGetDest_of_frame hwords, assertThat_bind h.2]

theorem wellSized_of_getDest {payload : List Byte} {packet : Packet}
    {dest : Nat} (hpacket : osdPacketNewFromZframe payload = .ok packet)
    (hdest : osdPacketGetDest packet = .ok dest) : WellSized payload := by
  obtain ⟨hwords, heven, rfl⟩ := osdPacketNewFromZframe_eq_ok.mp hpacket
  rw [osdPacketGetDest_of_frame hwords, assertThat_bind_eq_ok] at hdest
  exact ⟨heven, hdest.1⟩

/-- The message that `process_data_msg` passes on to the target, if any. -/
def forwarded (target : Option Id) (payload : List Byte) :
    List (Outgoing Id) :=
  target.toList.map fun host => ⟨host, ascii "D", payload⟩

def Deliverable (connected : Id → Bool) (target : Option Id) : Prop :=
  ∀ host, target = some host → connected host = true

theorem deliverable_none (connected : Id → Bool) :
    Deliverable connected none ↔ True := by
  simp [Deliverable]

theorem deliverable_some {connected : Id → Bool} {host : Id} :
    Deliverable connected (some host) ↔ connected host = true := by
  simp [Deliverable]

theorem processDataMsg_eq_ok {ctx : Controller Id} {connected : Id → Bool}
    {payload : List Byte} {target : Option Id}
    {result : Controller Id × List (Outgoing Id)}
    (hroute : routeEntry ctx (destWord payload) = .ok target) :
    processDataMsg ctx connected payload = .ok result ↔
      WellSized payload ∧ Deliverable connected target ∧
        result = (ctx, forwarded target payload) := by
  have deliver : ∀ {packet : Packet},
      osdPacketNewFromZframe payload = .ok packet →
      osdPacketGetDest packet = .ok (destWord payload) →
      (processDataMsg ctx connected payload = .ok result ↔
        Deliverable connected target ∧
          result = (ctx, forwarded target payload)) := by
    intro packet hpacket hdest
    rw [processDataMsg, hpacket, ok_bind, hdest, ok_bind, hroute, ok_bind]
    cases target with
    | none =>
        rw [deliverable_none, true_and]
        exact ⟨fun h => (Except.ok.inj h).symm, fun h => h ▸ rfl⟩
    | some host =>
        rw [assertThat_bind_eq_ok, deliverable_some]
        apply and_congr_right
        intro _
        exact ⟨fun h => (Except.ok.inj h).symm, fun h => h ▸ rfl⟩
  constructor
  · intro h
    obtain ⟨packet, hpacket, hrest⟩ := bind_eq_ok.mp h
    obtain ⟨dest, hdest, -⟩ := bind_eq_ok.mp hrest
    have hsize := wellSized_of_getDest hpacket hdest
    obtain ⟨packet, hpacket, hdest⟩ := getDest_of_wellSized hsize
    exact ⟨hsize, (deliver hpacket hdest).mp h⟩
  · rintro ⟨hsize, hresult⟩
    obtain ⟨packet, hpacket, hdest⟩ := getDest_of_wellSized hsize
    exact (deliver hpacket hdest).mpr hresult

/-! ## The lookup -/

theorem destWord_lt (payload : List Byte) : destWord payload < 2 ^ 16 :=
  UInt16.toNat_lt _

def targetOf (ctx : Controller Id) (dest : Nat) : Option Id :=
  if osdDiaddrSubnet dest = ctx.subnetAddr then
    ctx.modsInSubnet.get (osdDiaddrLocaladdr dest)
  else ctx.gateways.get (osdDiaddrSubnet dest)

/-- Both indices of the lookup lie inside of their tables. -/
theorem routeEntry_eq (ctx : Controller Id) {dest : Nat}
    (hdest : dest < 2 ^ 16) :
    routeEntry ctx dest = .ok (targetOf ctx dest) := by
  unfold routeEntry targetOf
  split
  · apply Table.load_eq
    rw [osdDiaddrLocaladdr_eq, osdDiaddrLocalMax]
    omega
  · apply Table.load_eq
    rw [osdDiaddrSubnet_eq, osdDiaddrSubnetMax]
    omega

theorem Represents.targetOf_eq {ctx : Controller Id}
    {registry : Registry Id} (h : Represents ctx registry) (dest : Nat) :
    targetOf ctx dest = registry.route dest := by
  unfold targetOf Registry.route
  rw [h.subnetAddr]
  split
  · rename_i hsubnet
    obtain ⟨localaddr, hle, rfl⟩ := subnet_eq_one.mp hsubnet
    rw [h.leased localaddr hle, osdDiaddrLocaladdr_eq]
    congr 1
    omega
  · exact (h.gateways _).symm

section Runs

variable [DecidableEq Id] {history : List (Event Id)} {ctx : Controller Id}

theorem Step.represents {before after : Controller Id} {event : Event Id}
    {registry : Registry Id} (hrep : Represents before registry)
    (h : Step before event after) :
    Represents after (registry.observe event) := by
  unfold Registry.observe
  split
  · rename_i reply htype hsent
    obtain ⟨reply', hsent', hhandled⟩ := h.handled hrep.subnetAddr htype
    obtain rfl : reply = reply' := by simpa [hsent] using hsent'
    exact hhandled.represents hrep
  · rename_i hnot
    have htype : event.msg.type.head? ≠ some 77 := by
      intro htype
      obtain ⟨reply, hsent, -⟩ := h.handled hrep.subnetAddr htype
      exact hnot reply htype hsent
    rwa [h.unchanged htype]

theorem represents_of_run (run : Runs Step osdHostctrlNew history ctx) :
    Represents ctx (registryOf history) := by
  induction run with
  | refl => exact represents_new
  | snoc _ hstep ih =>
      rw [registryOf, List.foldl_append]
      exact hstep.represents ih

/-- The message has the effect that a router has to have: it goes to the
target of its destination and nowhere else, and the tables stay. -/
def RoutesTo (ctx : Controller Id) (connected : Id → Bool) (msg : ExtMsg Id)
    (target : Option Id) : Prop :=
  iothreadHandleExtMsg ctx connected msg =
    .ok (ctx, forwarded target msg.payload)

theorem iothreadHandleExtMsg_data {connected : Id → Bool} {msg : ExtMsg Id}
    (htype : msg.type.head? = some 68) :
    iothreadHandleExtMsg ctx connected msg =
      processDataMsg ctx connected msg.payload := by
  rw [← head?_typeStr (by decide)] at htype
  simp only [iothreadHandleExtMsg, htype]

theorem RoutesTo.wellSized {connected : Id → Bool} {msg : ExtMsg Id}
    {target : Option Id} (h : RoutesTo ctx connected msg target)
    (htype : msg.type.head? = some 68) : WellSized msg.payload := by
  rw [RoutesTo, iothreadHandleExtMsg_data htype] at h
  obtain ⟨packet, hpacket, hrest⟩ := bind_eq_ok.mp h
  obtain ⟨dest, hdest, -⟩ := bind_eq_ok.mp hrest
  exact wellSized_of_getDest hpacket hdest

/-- In every reachable state a deliverable data message of at least three
words reaches the host that the registry names, and nobody else, exactly if
the size of its frame survives the 16 bit size field of the packet. -/
theorem routesTo_iff_wellSized (run : Runs Step osdHostctrlNew history ctx) :
    (∀ dest < 2 ^ 16,
      routeEntry ctx dest = .ok ((registryOf history).route dest)) ∧
    ∀ (connected : Id → Bool) (msg : ExtMsg Id),
      msg.type.head? = some 68 →
      packetHeaderWordCnt ≤ msg.payload.length / 2 →
      Deliverable connected
        ((registryOf history).route (destWord msg.payload)) →
      (RoutesTo ctx connected msg
          ((registryOf history).route (destWord msg.payload)) ↔
        WellSized msg.payload) := by
  have hrep := represents_of_run run
  have hroute : ∀ dest < 2 ^ 16,
      routeEntry ctx dest = .ok ((registryOf history).route dest) := by
    intro dest hdest
    rw [routeEntry_eq ctx hdest, hrep.targetOf_eq]
  refine ⟨hroute, ?_⟩
  intro connected msg htype _ hdeliverable
  have hroute := hroute _ (destWord_lt msg.payload)
  rw [RoutesTo, iothreadHandleExtMsg_data htype, processDataMsg_eq_ok hroute]
  simp [hdeliverable]

end Runs

/-- A packet for 1.1 reaches the first module that asked for an address. -/
theorem routesTo_first_module :
    RoutesTo
      { (osdHostctrlNew : Controller Nat) with
        modsInSubnet := Table.empty.set 1 (some 7) }
      (fun _ => true) ⟨8, ascii "D", [1, 4, 2, 4, 0, 64]⟩ (some 7) := by
  have run : Runs Step (osdHostctrlNew : Controller Nat)
      [⟨⟨7, ascii "M", ascii "DIADDR_REQUEST"⟩, fun _ => true,
        [mgmtReply 7 (ascii "1025")]⟩]
      { (osdHostctrlNew : Controller Nat) with
        modsInSubnet := Table.empty.set 1 (some 7) } := .single rfl
  have hrouted := (routesTo_iff_wellSized run).2 (fun _ => true)
    ⟨8, ascii "D", [1, 4, 2, 4, 0, 64]⟩ rfl (by decide) (fun _ _ => rfl)
  exact hrouted.mpr ⟨by decide, by decide⟩

/-- The size field of a frame of 65536 words reads zero, and the seventh byte
of a frame of three and a half words is written behind the packet. -/
theorem not_routesTo_long_or_odd :
    ¬RoutesTo (osdHostctrlNew : Controller Nat) (fun _ => true)
        ⟨8, ascii "D", List.replicate 131072 0⟩
        ((registryOf []).route (destWord (List.replicate 131072 0))) ∧
      ¬RoutesTo (osdHostctrlNew : Controller Nat) (fun _ => true)
        ⟨8, ascii "D", List.replicate 7 0⟩
        ((registryOf []).route (destWord (List.replicate 7 0))) := by
  constructor
  · intro h
    have hsize := (h.wellSized rfl).2
    simp only [List.length_replicate] at hsize
    exact absurd hsize (by decide)
  · intro h
    have heven := (h.wellSized rfl).1
    simp only [List.length_replicate] at heven
    exact absurd heven (by decide)

end Osd.HostCtrl
