import Osd.HostCtrl.Robustness
import Osd.HostMod.Connect

/-!
# Address leases of connected host modules

Every occupied entry was granted to one socket.  As long as no module
disconnects, the occupied entries are the addresses of the connected modules;
the first module that disconnects leaves an entry behind that no module holds.
-/

namespace Osd.HostMod

open Osd.Foundation Osd.HostCtrl

variable {Mod : Type}

namespace Network

/-- The controller holds `diaddr` for `socket`. -/
def Bound (s : Network Mod) (socket diaddr : Nat) : Prop :=
  ∃ localaddr, 1 ≤ localaddr ∧ localaddr ≤ 1023 ∧
    diaddr = 1024 + localaddr ∧
    s.ctrl.modsInSubnet.get localaddr = some socket

def Waits (s : Network Mod) (socket : Nat) : Prop :=
  ∃ m, (s.mods m).waiting = some socket

end Network

open Network

structure Leases (s : Network Mod) : Prop where
  subnetAddr : s.ctrl.subnetAddr = 1
  entryZero : s.ctrl.modsInSubnet.get 0 = none
  fresh : ∀ m socket, (s.mods m).socket = some socket → socket < s.nextSocket
  distinct : ∀ m m' socket, (s.mods m).socket = some socket →
    (s.mods m').socket = some socket → m = m'
  boundFresh : ∀ localaddr socket,
    s.ctrl.modsInSubnet.get localaddr = some socket → socket < s.nextSocket
  boundOnce : ∀ localaddr localaddr' socket,
    s.ctrl.modsInSubnet.get localaddr = some socket →
      s.ctrl.modsInSubnet.get localaddr' = some socket →
        localaddr = localaddr'
  obtained : ∀ m socket diaddr,
    (s.mods m).obtained = some (socket, diaddr) → s.Bound socket diaddr
  requests : ∀ msg ∈ s.requests,
    msg = diaddrRequest msg.src ∧ s.Waits msg.src ∧
      ∀ diaddr, ¬s.Bound msg.src diaddr
  requestsOnce : (s.requests.map ExtMsg.src).Nodup
  replies : ∀ reply ∈ s.replies, s.Waits reply.dest ∧
    ∃ diaddr, s.Bound reply.dest diaddr ∧
      reply = mgmtReply reply.dest (formatUnsigned diaddr)
  repliesOnce : (s.replies.map Outgoing.dest).Nodup

theorem leases_init : Leases (Network.init : Network Mod) := by
  constructor
  · rfl
  · exact Table.get_empty 0
  · intro m socket h
    cases h
  · intro m m' socket h
    cases h
  · intro localaddr socket h
    simp [Network.init, osdHostctrlNew] at h
  · intro localaddr localaddr' socket h
    simp [Network.init, osdHostctrlNew] at h
  · intro m socket diaddr h
    cases h
  · intro msg h
    cases h
  · exact List.nodup_nil
  · intro reply h
    cases h
  · exact List.nodup_nil

/-- The entries below 1 and above 1023 are never used. -/
theorem Leases.bound {s : Network Mod} (h : Leases s) {localaddr socket : Nat}
    (hentry : s.ctrl.modsInSubnet.get localaddr = some socket) :
    s.Bound socket (1024 + localaddr) := by
  refine ⟨localaddr, ?_, ?_, rfl, hentry⟩
  · by_contra hlow
    obtain rfl : localaddr = 0 := by omega
    rw [h.entryZero] at hentry
    cases hentry
  · by_contra hhigh
    rw [Table.get_of_le (by simp only [osdDiaddrLocalMax]; omega)] at hentry
    cases hentry

theorem Phase.socket_of_waiting {phase : Phase} {socket : Nat}
    (h : phase.waiting = some socket) : phase.socket = some socket := by
  simp [Phase.socket, h]

/-! ## Steps -/

section Steps

variable {s : Network Mod}

/-- A module may drop its socket or its address, but nobody may lose a module
that waits for a reply. -/
theorem Leases.restrict (h : Leases s) {mods : Mod → Phase}
    (hsocket : ∀ m socket, (mods m).socket = some socket →
      (s.mods m).socket = some socket)
    (hobtained : ∀ m lease, (mods m).obtained = some lease →
      (s.mods m).obtained = some lease)
    (hwaits : ∀ socket, s.Waits socket →
      Network.Waits { s with mods } socket) :
    Leases { s with mods } := by
  constructor
  · exact h.subnetAddr
  · exact h.entryZero
  · exact fun m socket hm => h.fresh m socket (hsocket m socket hm)
  · intro m m' socket hm hm'
    exact h.distinct m m' socket (hsocket m socket hm) (hsocket m' socket hm')
  · exact h.boundFresh
  · exact h.boundOnce
  · exact fun m socket diaddr hm =>
      h.obtained m socket diaddr (hobtained m _ hm)
  · intro msg hmsg
    obtain ⟨hrequest, hwait, hfree⟩ := h.requests msg hmsg
    exact ⟨hrequest, hwaits _ hwait, hfree⟩
  · exact h.requestsOnce
  · intro reply hreply
    obtain ⟨hwait, hbound⟩ := h.replies reply hreply
    exact ⟨hwaits _ hwait, hbound⟩
  · exact h.repliesOnce

/-- What the modules do inside of their process does not matter as long as
sockets and addresses stay the same. -/
theorem Leases.congr (h : Leases s) {mods : Mod → Phase}
    (hwaiting : ∀ m, (mods m).waiting = (s.mods m).waiting)
    (hobtained : ∀ m, (mods m).obtained = (s.mods m).obtained) :
    Leases { s with mods } := by
  apply h.restrict
  · intro m socket hm
    unfold Phase.socket at hm ⊢
    rwa [hwaiting, hobtained] at hm
  · intro m lease hm
    exact (hobtained m).symm.trans hm
  · rintro socket ⟨m, hm⟩
    exact ⟨m, (hwaiting m).trans hm⟩

variable [DecidableEq Mod]

theorem mods_setPhase_self (m : Mod) (phase : Phase) :
    (s.setPhase m phase).mods m = phase :=
  Function.update_self ..

theorem mods_setPhase_ne {m m' : Mod} (h : m' ≠ m) (phase : Phase) :
    (s.setPhase m phase).mods m' = s.mods m' :=
  Function.update_of_ne h ..

theorem Leases.setPhase (h : Leases s) {m : Mod} {phase : Phase}
    (hwaiting : phase.waiting = (s.mods m).waiting)
    (hobtained : phase.obtained = (s.mods m).obtained) :
    Leases (s.setPhase m phase) := by
  apply h.congr
  · intro m'
    cases decEq m' m with
    | isTrue heq => rw [heq, Function.update_self, hwaiting]
    | isFalse hne => rw [Function.update_of_ne hne]
  · intro m'
    cases decEq m' m with
    | isTrue heq => rw [heq, Function.update_self, hobtained]
    | isFalse hne => rw [Function.update_of_ne hne]

theorem Leases.close (h : Leases s) {m : Mod} {socket diaddr : Nat}
    (hphase : s.mods m = .disconnectCalled socket diaddr) :
    Leases (s.setPhase m (.disconnectDone diaddr)) := by
  apply h.restrict
  · intro m' socket' hm'
    cases decEq m' m with
    | isTrue heq =>
        rw [heq, Function.update_self] at hm'
        cases hm'
    | isFalse hne => rwa [Function.update_of_ne hne] at hm'
  · intro m' lease hm'
    cases decEq m' m with
    | isTrue heq =>
        rw [heq, Function.update_self] at hm'
        cases hm'
    | isFalse hne => rwa [Function.update_of_ne hne] at hm'
  · rintro socket' ⟨m', hm'⟩
    have hne : m' ≠ m := by
      rintro rfl
      rw [hphase] at hm'
      cases hm'
    exact ⟨m', (congrArg Phase.waiting (mods_setPhase_ne hne _)).trans hm'⟩

/-- A new socket has an identity that nobody knows yet. -/
theorem Leases.sendRequest (h : Leases s) {m : Mod}
    (hphase : s.mods m = .connectCalled) : Leases (s.sendRequest m) := by
  have hself : ((s.sendRequest m).mods m) = .awaitingReply s.nextSocket :=
    Function.update_self ..
  have hother : ∀ m', m' ≠ m → (s.sendRequest m).mods m' = s.mods m' :=
    fun m' hne => Function.update_of_ne hne ..
  have hsub : ∀ m' socket,
      ((s.sendRequest m).mods m').socket = some socket →
        m' = m ∧ socket = s.nextSocket ∨
          m' ≠ m ∧ (s.mods m').socket = some socket := by
    intro m' socket hm'
    cases decEq m' m with
    | isTrue heq =>
        rw [heq, hself] at hm'
        exact Or.inl ⟨heq, (Option.some.inj hm').symm⟩
    | isFalse hne =>
        rw [hother m' hne] at hm'
        exact Or.inr ⟨hne, hm'⟩
  have hwaits : ∀ socket, s.Waits socket →
      socket < s.nextSocket ∧ (s.sendRequest m).Waits socket := by
    rintro socket ⟨m', hm'⟩
    have hne : m' ≠ m := by
      rintro rfl
      rw [hphase] at hm'
      cases hm'
    refine ⟨h.fresh m' socket (Phase.socket_of_waiting hm'), m', ?_⟩
    rwa [hother m' hne]
  constructor
  · exact h.subnetAddr
  · exact h.entryZero
  · intro m' socket hm'
    rcases hsub m' socket hm' with ⟨-, rfl⟩ | ⟨-, hold⟩
    · exact Nat.lt_succ_self _
    · exact Nat.lt_succ_of_lt (h.fresh m' socket hold)
  · intro m' m'' socket hm' hm''
    rcases hsub m' socket hm' with ⟨rfl, hnew⟩ | ⟨-, hold⟩
    · rcases hsub m'' socket hm'' with ⟨rfl, -⟩ | ⟨-, hold'⟩
      · rfl
      · have hlt := h.fresh m'' socket hold'
        omega
    · rcases hsub m'' socket hm'' with ⟨-, hnew⟩ | ⟨-, hold'⟩
      · have hlt := h.fresh m' socket hold
        omega
      · exact h.distinct m' m'' socket hold hold'
  · intro localaddr socket hentry
    exact Nat.lt_succ_of_lt (h.boundFresh localaddr socket hentry)
  · exact h.boundOnce
  · intro m' socket diaddr hm'
    have hne : m' ≠ m := by
      rintro rfl
      rw [hself] at hm'
      cases hm'
    rw [hother m' hne] at hm'
    exact h.obtained m' socket diaddr hm'
  · intro msg hmsg
    rcases List.mem_append.mp hmsg with hmsg | hmsg
    · obtain ⟨hrequest, hwait, hfree⟩ := h.requests msg hmsg
      exact ⟨hrequest, (hwaits _ hwait).2, hfree⟩
    · obtain rfl := List.mem_singleton.mp hmsg
      refine ⟨rfl, ⟨m, by rw [hself]; rfl⟩, ?_⟩
      rintro diaddr ⟨localaddr, -, -, -, hentry⟩
      have hlt := h.boundFresh localaddr _ hentry
      exact Nat.lt_irrefl _ hlt
  · have hnew : s.nextSocket ∉ s.requests.map ExtMsg.src := by
      intro hmem
      obtain ⟨msg, hmsg, hsrc⟩ := List.mem_map.mp hmem
      have hlt := (hwaits _ (h.requests msg hmsg).2.1).1
      omega
    simp only [Network.sendRequest, List.map_append]
    exact h.requestsOnce.append (List.nodup_singleton _)
      (List.disjoint_singleton.mpr hnew)
  · intro reply hreply
    obtain ⟨hwait, hbound⟩ := h.replies reply hreply
    exact ⟨(hwaits _ hwait).2, hbound⟩
  · exact h.repliesOnce

omit [DecidableEq Mod] in
theorem requestOf_diaddrRequest :
    requestOf (ascii "DIADDR_REQUEST") = .diaddrRequest := by
  decide

omit [DecidableEq Mod] in
theorem Leases.granted (h : Leases s) {event : Event Nat}
    {after : Controller Nat} (hmsg : event.msg ∈ s.requests)
    (hstep : Step s.ctrl event after) :
    ∃ localaddr, 1 ≤ localaddr ∧ localaddr ≤ 1023 ∧
      s.ctrl.modsInSubnet.get localaddr = none ∧
      after = { s.ctrl with
        modsInSubnet :=
          s.ctrl.modsInSubnet.set localaddr (some event.msg.src) } ∧
      event.sent =
        [mgmtReply event.msg.src (formatUnsigned (1024 + localaddr))] := by
  obtain ⟨hrequest, -, -⟩ := h.requests event.msg hmsg
  have htype : event.msg.type.head? = some 77 := by
    rw [hrequest]
    rfl
  have hpayload : requestOf event.msg.payload = .diaddrRequest := by
    rw [hrequest]
    exact requestOf_diaddrRequest
  obtain ⟨reply, hsent, hhandled⟩ := hstep.handled h.subnetAddr htype
  rw [hpayload] at hhandled
  cases hhandled with
  | granted localaddr hlow hhigh hfree =>
      exact ⟨localaddr, hlow, hhigh, hfree, rfl, hsent⟩

omit [DecidableEq Mod] in
theorem Leases.serve (h : Leases s) {front rest : List (ExtMsg Nat)}
    {event : Event Nat} {after : Controller Nat}
    (hrequests : s.requests = front ++ event.msg :: rest)
    (hstep : Step s.ctrl event after) :
    Leases { s with
      ctrl := after
      requests := front ++ rest
      replies := s.replies ++ event.sent } := by
  have hmsg : event.msg ∈ s.requests := by
    rw [hrequests]
    exact List.mem_append_right _ List.mem_cons_self
  obtain ⟨localaddr, hlow, hhigh, hfree, rfl, hsent⟩ := h.granted hmsg hstep
  obtain ⟨-, hwait, hunbound⟩ := h.requests event.msg hmsg
  have hlt : localaddr < osdDiaddrLocalMax + 1 := by
    simp only [osdDiaddrLocalMax]
    omega
  have hsrc : ∀ l, s.ctrl.modsInSubnet.get l ≠ some event.msg.src :=
    fun l hentry => hunbound _ (h.bound hentry)
  have hentries : ∀ l socket,
      (s.ctrl.modsInSubnet.set localaddr (some event.msg.src)).get l =
          some socket ↔
        l = localaddr ∧ socket = event.msg.src ∨
          l ≠ localaddr ∧ s.ctrl.modsInSubnet.get l = some socket :=
    fun _ _ => Table.get_set_eq_some hlt
  have hkeep : ∀ socket diaddr, s.Bound socket diaddr →
      Network.Bound { s with
        ctrl := { s.ctrl with
          modsInSubnet :=
            s.ctrl.modsInSubnet.set localaddr (some event.msg.src) } }
        socket diaddr := by
    rintro socket diaddr ⟨l, hl, hl', rfl, hentry⟩
    refine ⟨l, hl, hl', rfl, (hentries l socket).mpr (Or.inr ⟨?_, hentry⟩)⟩
    rintro rfl
    rw [hfree] at hentry
    cases hentry
  have honce := h.requestsOnce
  rw [hrequests, List.map_append, List.map_cons,
    List.nodup_middle, List.nodup_cons, ← List.map_append] at honce
  constructor
  · exact h.subnetAddr
  · exact (Table.get_set_ne (by omega) _).trans h.entryZero
  · exact h.fresh
  · exact h.distinct
  · intro l socket hentry
    rcases (hentries l socket).mp hentry with ⟨-, rfl⟩ | ⟨-, hold⟩
    · obtain ⟨m, hm⟩ := hwait
      exact h.fresh m _ (Phase.socket_of_waiting hm)
    · exact h.boundFresh l socket hold
  · intro l l' socket hentry hentry'
    rcases (hentries l socket).mp hentry with ⟨rfl, rfl⟩ | ⟨-, hold⟩
    · rcases (hentries l' _).mp hentry' with ⟨rfl, -⟩ | ⟨-, hold'⟩
      · rfl
      · exact absurd hold' (hsrc l')
    · rcases (hentries l' socket).mp hentry' with ⟨-, rfl⟩ | ⟨-, hold'⟩
      · exact absurd hold (hsrc l)
      · exact h.boundOnce l l' socket hold hold'
  · intro m socket diaddr hm
    exact hkeep socket diaddr (h.obtained m socket diaddr hm)
  · intro msg hmem
    have hmem' : msg ∈ s.requests := by
      rw [hrequests]
      exact mem_of_mem_rest hmem
    obtain ⟨hrequest, hwait', hfree'⟩ := h.requests msg hmem'
    refine ⟨hrequest, hwait', ?_⟩
    rintro diaddr ⟨l, hl, hl', rfl, hentry⟩
    rcases (hentries l _).mp hentry with ⟨-, heq⟩ | ⟨-, hold⟩
    · exact honce.1 (heq ▸ List.mem_map_of_mem hmem)
    · exact hfree' _ ⟨l, hl, hl', rfl, hold⟩
  · exact honce.2
  · intro reply hreply
    rw [hsent] at hreply
    rcases List.mem_append.mp hreply with hreply | hreply
    · obtain ⟨hwait', diaddr, hbound, htext⟩ := h.replies reply hreply
      exact ⟨hwait', diaddr, hkeep _ _ hbound, htext⟩
    · obtain rfl := List.mem_singleton.mp hreply
      refine ⟨hwait, 1024 + localaddr, ?_, rfl⟩
      exact ⟨localaddr, hlow, hhigh, rfl,
        (hentries localaddr _).mpr (Or.inl ⟨rfl, rfl⟩)⟩
  · rw [hsent, List.map_append]
    refine h.repliesOnce.append (List.nodup_singleton _)
      (List.disjoint_singleton.mpr ?_)
    intro hmem
    obtain ⟨reply, hreply, hdest⟩ := List.mem_map.mp hmem
    obtain ⟨-, diaddr, hbound, -⟩ := h.replies reply hreply
    rw [hdest] at hbound
    exact hunbound _ hbound

theorem Leases.receiveReply (h : Leases s) {m : Mod} {socket diaddr : Nat}
    {front rest : List (Outgoing Nat)} {reply : Outgoing Nat}
    (hphase : s.mods m = .awaitingReply socket)
    (hreplies : s.replies = front ++ reply :: rest)
    (hdest : reply.dest = socket)
    (haddr : iothreadObtainDiaddr reply.type reply.payload = .ok diaddr) :
    Leases { s.setPhase m (.connectDone socket diaddr) with
      replies := front ++ rest } := by
  have hmem : reply ∈ s.replies := by
    rw [hreplies]
    exact List.mem_append_right _ List.mem_cons_self
  obtain ⟨-, granted, hbound, hreply⟩ := h.replies reply hmem
  rw [hdest] at hbound
  obtain rfl : diaddr = granted := by
    obtain ⟨l, -, hhigh, rfl, -⟩ := hbound
    rw [hreply] at haddr
    simp only [mgmtReply] at haddr
    rw [iothreadObtainDiaddr_formatUnsigned (by omega)] at haddr
    exact (Except.ok.inj haddr).symm
  have hsockets : ∀ m', ((s.setPhase m (.connectDone socket diaddr)).mods
      m').socket = (s.mods m').socket := by
    intro m'
    cases decEq m' m with
    | isTrue heq =>
        rw [heq, mods_setPhase_self, hphase]
        rfl
    | isFalse hne => rw [mods_setPhase_ne hne]
  have hwaits : ∀ socket', socket' ≠ socket → s.Waits socket' →
      (s.setPhase m (.connectDone socket diaddr)).Waits socket' := by
    rintro socket' hsocket ⟨m', hm'⟩
    have hne : m' ≠ m := by
      rintro rfl
      rw [hphase] at hm'
      exact hsocket (Option.some.inj hm').symm
    exact ⟨m', by rwa [mods_setPhase_ne hne]⟩
  have honce := h.repliesOnce
  rw [hreplies, List.map_append, List.map_cons,
    List.nodup_middle, List.nodup_cons, ← List.map_append, hdest] at honce
  constructor
  · exact h.subnetAddr
  · exact h.entryZero
  · exact fun m' socket' hm' => h.fresh m' socket' ((hsockets m').symm.trans hm')
  · intro m' m'' socket' hm' hm''
    exact h.distinct m' m'' socket' ((hsockets m').symm.trans hm')
      ((hsockets m'').symm.trans hm'')
  · exact h.boundFresh
  · exact h.boundOnce
  · intro m' socket' diaddr' hm'
    cases decEq m' m with
    | isTrue heq =>
        rw [heq] at hm'
        change ((s.setPhase m (.connectDone socket diaddr)).mods m).obtained =
          some (socket', diaddr') at hm'
        rw [mods_setPhase_self] at hm'
        obtain ⟨rfl, rfl⟩ := Prod.mk.inj (Option.some.inj hm')
        exact hbound
    | isFalse hne =>
        change ((s.setPhase m (.connectDone socket diaddr)).mods m').obtained =
          some (socket', diaddr') at hm'
        rw [mods_setPhase_ne hne] at hm'
        exact h.obtained m' socket' diaddr' hm'
  · intro msg hmsg
    obtain ⟨hrequest, hwait, hfree⟩ := h.requests msg hmsg
    refine ⟨hrequest, hwaits _ ?_ hwait, hfree⟩
    rintro rfl
    exact hfree _ hbound
  · exact h.requestsOnce
  · intro other hother
    have hmem' : other ∈ s.replies := by
      rw [hreplies]
      exact mem_of_mem_rest hother
    obtain ⟨hwait, hrest⟩ := h.replies other hmem'
    refine ⟨hwaits _ ?_ hwait, hrest⟩
    intro heq
    exact honce.1 (heq ▸ List.mem_map_of_mem hother)
  · exact honce.2

theorem Leases.step {s' : Network Mod} {action : Action Mod} (h : Leases s)
    (hstep : ConnectStep s action s') : Leases s' := by
  cases hstep with
  | osdHostmodConnect hphase =>
      exact h.setPhase (by rw [hphase]; rfl) (by rw [hphase]; rfl)
  | sendRequest hphase => exact h.sendRequest hphase
  | iothreadHandleExtMsg hrequests hstep => exact h.serve hrequests hstep
  | receiveReply hphase hreplies hdest haddr =>
      exact h.receiveReply hphase hreplies hdest haddr
  | connectReturns hphase =>
      exact h.setPhase (by rw [hphase]; rfl) (by rw [hphase]; rfl)
  | osdHostmodDisconnect hphase =>
      exact h.setPhase (by rw [hphase]; rfl) (by rw [hphase]; rfl)
  | iothreadDisconnectFromHostctrl hphase => exact h.close hphase
  | disconnectReturns hphase =>
      exact h.setPhase (by rw [hphase]; rfl) (by rw [hphase]; rfl)

end Steps

/-! ## Owners -/

/-- No module went through `iothread_disconnect_from_hostctrl` so far. -/
def NoDisconnect (history : List (Action Mod)) : Prop :=
  ∀ m, Action.iothreadDisconnectFromHostctrl m ∉ history

namespace Network

def Owned (s : Network Mod) (socket : Nat) : Prop :=
  ∃ m, (s.mods m).socket = some socket

/-- An occupied entry of a socket that does not exist any more. -/
def Leaks (s : Network Mod) : Prop :=
  ∃ localaddr socket, s.ctrl.modsInSubnet.get localaddr = some socket ∧
    ¬s.Owned socket

end Network

structure Owners (history : List (Action Mod)) (s : Network Mod) : Prop where
  leases : Leases s
  owned : NoDisconnect history → ¬s.Leaks
  leaked : ¬NoDisconnect history → s.Leaks

section Owners

variable [DecidableEq Mod] {history : List (Action Mod)}
  {s s' : Network Mod} {action : Action Mod}

omit [DecidableEq Mod] in
theorem noDisconnect_snoc :
    NoDisconnect (history ++ [action]) ↔
      NoDisconnect history ∧
        ∀ m, action ≠ .iothreadDisconnectFromHostctrl m := by
  unfold NoDisconnect
  constructor
  · intro h
    refine ⟨fun m hm => h m (List.mem_append_left _ hm), fun m heq => ?_⟩
    exact h m (heq ▸ List.mem_append_right _ List.mem_cons_self)
  · rintro ⟨hhistory, haction⟩ m hm
    rcases List.mem_append.mp hm with hm | hm
    · exact hhistory m hm
    · exact haction m (List.mem_singleton.mp hm).symm

omit [DecidableEq Mod] in
theorem leaks_congr (hctrl : s'.ctrl = s.ctrl)
    (howned : ∀ socket, socket < s.nextSocket →
      (s'.Owned socket ↔ s.Owned socket)) (h : Leases s) :
    s'.Leaks ↔ s.Leaks := by
  unfold Network.Leaks
  rw [hctrl]
  apply exists_congr
  intro localaddr
  apply exists_congr
  intro socket
  apply and_congr_right
  intro hentry
  exact not_congr (howned socket (h.boundFresh localaddr socket hentry))

theorem owned_setPhase {m : Mod} {phase : Phase}
    (hsocket : phase.socket = (s.mods m).socket) (socket : Nat) :
    (s.setPhase m phase).Owned socket ↔ s.Owned socket := by
  apply exists_congr
  intro m'
  cases decEq m' m with
  | isTrue heq => rw [heq, mods_setPhase_self, hsocket]
  | isFalse hne => rw [mods_setPhase_ne hne]

theorem leaks_setPhase (h : Leases s) {m : Mod} {phase : Phase}
    (hsocket : phase.socket = (s.mods m).socket) :
    (s.setPhase m phase).Leaks ↔ s.Leaks :=
  leaks_congr rfl (fun socket _ => owned_setPhase hsocket socket) h

theorem owned_sendRequest {m : Mod}
    (hphase : s.mods m = .connectCalled) {socket : Nat}
    (hlt : socket < s.nextSocket) :
    (s.sendRequest m).Owned socket ↔ s.Owned socket := by
  constructor
  · rintro ⟨m', hm'⟩
    cases decEq m' m with
    | isTrue heq =>
        have hnew : (s.sendRequest m).mods m' = .awaitingReply s.nextSocket := by
          rw [heq]
          exact Function.update_self ..
        rw [hnew] at hm'
        obtain rfl : s.nextSocket = socket := Option.some.inj hm'
        omega
    | isFalse hne =>
        have hold : (s.sendRequest m).mods m' = s.mods m' :=
          Function.update_of_ne hne ..
        exact ⟨m', hold ▸ hm'⟩
  · rintro ⟨m', hm'⟩
    have hne : m' ≠ m := by
      rintro rfl
      rw [hphase] at hm'
      cases hm'
    have hold : (s.sendRequest m).mods m' = s.mods m' :=
      Function.update_of_ne hne ..
    exact ⟨m', hold.symm ▸ hm'⟩

omit [DecidableEq Mod] in
theorem leaks_serve (h : Leases s) {front rest : List (ExtMsg Nat)}
    {event : Event Nat} {after : Controller Nat}
    (hrequests : s.requests = front ++ event.msg :: rest)
    (hstep : Step s.ctrl event after) :
    Network.Leaks { s with
      ctrl := after
      requests := front ++ rest
      replies := s.replies ++ event.sent } ↔ s.Leaks := by
  have hmsg : event.msg ∈ s.requests := by
    rw [hrequests]
    exact List.mem_append_right _ List.mem_cons_self
  obtain ⟨localaddr, hlow, hhigh, hfree, rfl, -⟩ := h.granted hmsg hstep
  obtain ⟨-, ⟨m, hm⟩, -⟩ := h.requests event.msg hmsg
  have howned : s.Owned event.msg.src := ⟨m, Phase.socket_of_waiting hm⟩
  have hlt : localaddr < osdDiaddrLocalMax + 1 := by
    simp only [osdDiaddrLocalMax]
    omega
  constructor
  · rintro ⟨l, socket, hentry, hnot⟩
    rcases (Table.get_set_eq_some hlt).mp hentry with ⟨-, rfl⟩ | ⟨-, hold⟩
    · exact absurd howned hnot
    · exact ⟨l, socket, hold, hnot⟩
  · rintro ⟨l, socket, hentry, hnot⟩
    have hne : l ≠ localaddr := by
      rintro rfl
      rw [hfree] at hentry
      cases hentry
    exact ⟨l, socket, (Table.get_set_ne hne _).trans hentry, hnot⟩

/-- No other step than a disconnect leaks an entry or takes a leak back. -/
theorem leaks_iff_of_step (h : Leases s) (hstep : ConnectStep s action s')
    (haction : ∀ m, action ≠ .iothreadDisconnectFromHostctrl m) :
    s'.Leaks ↔ s.Leaks := by
  cases hstep with
  | osdHostmodConnect hphase => exact leaks_setPhase h (by rw [hphase]; rfl)
  | sendRequest hphase =>
      exact leaks_congr rfl (fun _ hlt => owned_sendRequest hphase hlt) h
  | iothreadHandleExtMsg hrequests hstep =>
      exact leaks_serve h hrequests hstep
  | receiveReply hphase _ _ _ =>
      refine leaks_congr rfl (fun socket _ => ?_) h
      exact owned_setPhase (by rw [hphase]; rfl) socket
  | connectReturns hphase => exact leaks_setPhase h (by rw [hphase]; rfl)
  | osdHostmodDisconnect hphase => exact leaks_setPhase h (by rw [hphase]; rfl)
  | iothreadDisconnectFromHostctrl hphase => exact absurd rfl (haction _)
  | disconnectReturns hphase => exact leaks_setPhase h (by rw [hphase]; rfl)

theorem leaks_of_disconnect (h : Leases s) {m : Mod}
    (hstep : ConnectStep s (.iothreadDisconnectFromHostctrl m) s') :
    s'.Leaks := by
  cases hstep with
  | @iothreadDisconnectFromHostctrl _ socket diaddr hphase =>
      obtain ⟨localaddr, -, -, -, hentry⟩ :=
        h.obtained m socket diaddr (by rw [hphase]; rfl)
      refine ⟨localaddr, socket, hentry, ?_⟩
      rintro ⟨m', hm'⟩
      cases decEq m' m with
      | isTrue heq =>
          rw [heq, mods_setPhase_self] at hm'
          cases hm'
      | isFalse hne =>
          rw [mods_setPhase_ne hne] at hm'
          exact hne (h.distinct m' m socket hm' (by rw [hphase]; rfl))

theorem owners_of_run (run : Runs ConnectStep Network.init history s) :
    Owners history s := by
  induction run with
  | refl =>
      refine ⟨leases_init, ?_, fun h => absurd (fun m => List.not_mem_nil) h⟩
      rintro - ⟨localaddr, socket, hentry, -⟩
      simp [Network.init, osdHostctrlNew] at hentry
  | @snoc history before after action run hstep ih =>
      refine ⟨ih.leases.step hstep, ?_, ?_⟩
      · intro hno
        obtain ⟨hbefore, haction⟩ := noDisconnect_snoc.mp hno
        rw [leaks_iff_of_step ih.leases hstep haction]
        exact ih.owned hbefore
      · intro hdisconnect
        by_cases haction : ∃ m, action = .iothreadDisconnectFromHostctrl m
        · obtain ⟨m, rfl⟩ := haction
          exact leaks_of_disconnect ih.leases hstep
        · have hother : ∀ m, action ≠ .iothreadDisconnectFromHostctrl m :=
            fun m hm => haction ⟨m, hm⟩
          rw [leaks_iff_of_step ih.leases hstep hother]
          exact ih.leaked fun hno =>
            hdisconnect (noDisconnect_snoc.mpr ⟨hno, hother⟩)

end Owners

/-! ## Exact leases -/

namespace Network

/-- No handshake is in progress. -/
def Quiescent (s : Network Mod) : Prop := ∀ m, (s.mods m).atRest

def LeasesExact (s : Network Mod) : Prop :=
  ∀ localaddr, s.ctrl.modsInSubnet.get localaddr ≠ none ↔
    ∃ m diaddr, (s.mods m).diaddr = some diaddr ∧
      osdDiaddrLocaladdr diaddr = localaddr

/-- At most `count` modules are connected or about to connect. -/
def ActiveAtMost (s : Network Mod) (count : Nat) : Prop :=
  ∃ active : Finset Mod, active.card ≤ count ∧
    ∀ m, (s.mods m).socket ≠ none → m ∈ active

end Network

theorem Phase.atRest_cases {phase : Phase} (hrest : phase.atRest) :
    phase = .disconnected ∨
      ∃ socket diaddr, phase = .connected socket diaddr := by
  cases phase with
  | disconnected => exact .inl rfl
  | connected socket diaddr => exact .inr ⟨socket, diaddr, rfl⟩
  | connectCalled => cases hrest
  | awaitingReply _ => cases hrest
  | connectDone _ _ => cases hrest
  | disconnectCalled _ _ => cases hrest
  | disconnectDone _ => cases hrest

theorem Phase.obtained_of_atRest {phase : Phase} (hrest : phase.atRest)
    {socket : Nat} (h : phase.socket = some socket) :
    ∃ diaddr, phase.obtained = some (socket, diaddr) ∧
      phase.diaddr = some diaddr := by
  obtain rfl | ⟨socket', diaddr, rfl⟩ := Phase.atRest_cases hrest
  · cases h
  · obtain rfl : socket' = socket := Option.some.inj h
    exact ⟨diaddr, rfl, rfl⟩

theorem Phase.socket_of_atRest {phase : Phase} (hrest : phase.atRest)
    {diaddr : Nat} (h : phase.diaddr = some diaddr) :
    ∃ socket, phase.socket = some socket ∧
      phase.obtained = some (socket, diaddr) := by
  obtain rfl | ⟨socket, diaddr', rfl⟩ := Phase.atRest_cases hrest
  · cases h
  · obtain rfl : diaddr' = diaddr := Option.some.inj h
    exact ⟨socket, rfl, rfl⟩

theorem Network.Bound.localaddr {s : Network Mod} {socket diaddr : Nat}
    (h : s.Bound socket diaddr) :
    s.ctrl.modsInSubnet.get (osdDiaddrLocaladdr diaddr) = some socket := by
  obtain ⟨localaddr, _, _, rfl, hentry⟩ := h
  have hlocal : osdDiaddrLocaladdr (1024 + localaddr) = localaddr := by
    rw [osdDiaddrLocaladdr_eq]
    omega
  rwa [hlocal]

theorem Leases.exact_iff {s : Network Mod} (h : Leases s)
    (hquiescent : s.Quiescent) : s.LeasesExact ↔ ¬s.Leaks := by
  constructor
  · rintro hexact ⟨localaddr, socket, hentry, hnot⟩
    obtain ⟨m, diaddr, hdiaddr, rfl⟩ :=
      (hexact localaddr).mp (by rw [hentry]; simp)
    obtain ⟨socket', hsocket, hobtained⟩ :=
      Phase.socket_of_atRest (hquiescent m) hdiaddr
    have hbound := (h.obtained m socket' diaddr hobtained).localaddr
    obtain rfl : socket' = socket :=
      Option.some.inj (hbound.symm.trans hentry)
    exact hnot ⟨m, hsocket⟩
  · intro hleaks localaddr
    constructor
    · intro hentry
      obtain ⟨socket, hentry⟩ := Option.ne_none_iff_exists'.mp hentry
      have howned : s.Owned socket := by
        by_contra hnot
        exact hleaks ⟨localaddr, socket, hentry, hnot⟩
      obtain ⟨m, hm⟩ := howned
      obtain ⟨diaddr, hobtained, hdiaddr⟩ :=
        Phase.obtained_of_atRest (hquiescent m) hm
      have hbound := (h.obtained m socket diaddr hobtained).localaddr
      exact ⟨m, diaddr, hdiaddr, h.boundOnce _ _ socket hbound hentry⟩
    · rintro ⟨m, diaddr, hdiaddr, rfl⟩
      obtain ⟨socket, -, hobtained⟩ :=
        Phase.socket_of_atRest (hquiescent m) hdiaddr
      rw [(h.obtained m socket diaddr hobtained).localaddr]
      simp

/-- Without leaks a full table means 1023 sockets besides the one that asks. -/
theorem Leases.addressLeft {s : Network Mod} (h : Leases s)
    (hleaks : ¬s.Leaks) (hactive : s.ActiveAtMost 1023) {msg : ExtMsg Nat}
    (hmsg : msg ∈ s.requests) : AddressLeft s.ctrl := by
  obtain ⟨active, hcard, hactive⟩ := hactive
  obtain ⟨-, ⟨asking, hasking⟩, hunbound⟩ := h.requests msg hmsg
  have hasking := Phase.socket_of_waiting hasking
  by_contra hfull
  have hentry : ∀ i : Fin 1023, ∃ m socket,
      s.ctrl.modsInSubnet.get (i.val + 1) = some socket ∧
        (s.mods m).socket = some socket := by
    intro i
    have hne : s.ctrl.modsInSubnet.get (i.val + 1) ≠ none := by
      intro hfree
      exact hfull ⟨i.val + 1, by omega, by omega, hfree⟩
    obtain ⟨socket, hentry⟩ := Option.ne_none_iff_exists'.mp hne
    have howned : s.Owned socket := by
      by_contra hnot
      exact hleaks ⟨_, socket, hentry, hnot⟩
    obtain ⟨m, hm⟩ := howned
    exact ⟨m, socket, hentry, hm⟩
  choose owner socket hsocket howner using hentry
  have hinj : Function.Injective owner := by
    intro i j hij
    have hsame : socket i = socket j := by
      have hi := howner i
      rw [hij, howner j] at hi
      exact (Option.some.inj hi).symm
    have hi := hsocket i
    rw [hsame] at hi
    have := h.boundOnce _ _ _ hi (hsocket j)
    exact Fin.ext (by omega)
  have hnot : ∀ i, owner i ≠ asking := by
    intro i heq
    have hi := howner i
    rw [heq, hasking] at hi
    have hentry := hsocket i
    rw [← Option.some.inj hi] at hentry
    exact hunbound _ (h.bound hentry)
  classical
  have hsub : insert asking (Finset.univ.image owner) ⊆ active := by
    intro m hm
    rcases Finset.mem_insert.mp hm with rfl | hm
    · exact hactive m (by rw [hasking]; simp)
    · obtain ⟨i, -, rfl⟩ := Finset.mem_image.mp hm
      exact hactive _ (by rw [howner i]; simp)
  have hle := Finset.card_le_card hsub
  rw [Finset.card_insert_of_notMem (by simpa using hnot),
    Finset.card_image_of_injective _ hinj, Finset.card_univ,
    Fintype.card_fin] at hle
  omega

variable [DecidableEq Mod] {history : List (Action Mod)} {s : Network Mod}

/-- Between handshakes the occupied entries are the addresses of the connected
modules exactly if no module ever disconnected.  Up to the first disconnect
every request is granted an address while at most 1023 modules are active, and
a module reads the address that was granted to it. -/
theorem leases_exact_iff_no_disconnect
    (run : Runs ConnectStep Network.init history s) :
    (s.Quiescent → (s.LeasesExact ↔ NoDisconnect history)) ∧
      (NoDisconnect history → s.ActiveAtMost 1023 →
        ∀ connected, ∀ msg ∈ s.requests,
          Returns (iothreadHandleExtMsg s.ctrl connected msg)) ∧
      ∀ reply ∈ s.replies, ∃ diaddr,
        iothreadObtainDiaddr reply.type reply.payload = .ok diaddr ∧
          s.Bound reply.dest diaddr := by
  have howners := owners_of_run run
  refine ⟨?_, ?_, ?_⟩
  · intro hquiescent
    rw [howners.leases.exact_iff hquiescent]
    constructor
    · intro hleaks
      by_contra hdisconnect
      exact hleaks (howners.leaked hdisconnect)
    · exact howners.owned
  · intro hno hactive connected msg hmsg
    have hleft := howners.leases.addressLeft (howners.owned hno) hactive hmsg
    obtain ⟨hrequest, -, -⟩ := howners.leases.requests msg hmsg
    rw [returns_iothreadHandleExtMsg howners.leases.subnetAddr, hrequest]
    change RequestHandleable s.ctrl (requestOf (ascii "DIADDR_REQUEST"))
    rw [requestOf_diaddrRequest]
    exact hleft
  · intro reply hreply
    obtain ⟨-, diaddr, hbound, htext⟩ := howners.leases.replies reply hreply
    refine ⟨diaddr, ?_, hbound⟩
    obtain ⟨localaddr, -, hhigh, rfl, -⟩ := hbound
    rw [htext]
    exact iothreadObtainDiaddr_formatUnsigned (by omega)

def firstLease : Controller Nat :=
  { osdHostctrlNew with modsInSubnet := Table.empty.set 1 (some 0) }

def firstRequest : Event Nat :=
  ⟨diaddrRequest 0, fun _ => true, [mgmtReply 0 (ascii "1025")]⟩

def connectActions : List (Action Nat) :=
  [.osdHostmodConnect 0, .sendRequest 0, .iothreadHandleExtMsg firstRequest,
    .receiveReply 0, .connectReturns 0]

def disconnectActions : List (Action Nat) :=
  [.osdHostmodDisconnect 0, .iothreadDisconnectFromHostctrl 0,
    .disconnectReturns 0]

def firstLeased (phase : Phase) : Network Nat :=
  ⟨Function.update (fun _ => .disconnected) 0 phase, firstLease, 1, [], []⟩

theorem setPhase_firstLeased (phase phase' : Phase) :
    (firstLeased phase).setPhase 0 phase' = firstLeased phase' := by
  simp [firstLeased, Network.setPhase]

theorem firstLeased_mods (phase : Phase) (m : Nat) :
    (firstLeased phase).mods m = if m = 0 then phase else .disconnected := by
  simp [firstLeased, Function.update_apply]

theorem firstLeased_quiescent {phase : Phase} (h : phase.atRest) :
    (firstLeased phase).Quiescent := by
  intro m
  rw [firstLeased_mods]
  split
  · exact h
  · trivial

theorem run_connect :
    Runs ConnectStep Network.init connectActions
      (firstLeased (.connected 0 1025)) := by
  have called := Runs.single (ConnectStep.osdHostmodConnect
    (s := Network.init) (m := 0) rfl)
  have sent := called.snoc (.sendRequest (m := 0) rfl)
  have served := sent.snoc (.iothreadHandleExtMsg
    (show _ = [] ++ firstRequest.msg :: [] from rfl)
    (show Step osdHostctrlNew firstRequest firstLease from rfl))
  have replied := served.snoc (.receiveReply (m := 0) rfl
    (show _ = [] ++ mgmtReply 0 (ascii "1025") :: [] from rfl) rfl
    (show _ = Except.ok 1025 from rfl))
  have done := replied.snoc (.connectReturns (m := 0) rfl)
  simpa [connectActions, firstLeased, Network.setPhase, Network.sendRequest,
    Network.init, firstRequest] using done

/-- One connected module and its entry. -/
theorem leases_exact_after_connect :
    (firstLeased (.connected 0 1025)).LeasesExact := by
  have hexact := (leases_exact_iff_no_disconnect run_connect).1
    (firstLeased_quiescent trivial)
  refine hexact.mpr (fun m hm => ?_)
  simp [connectActions] at hm

/-- After it has disconnected again the entry is still occupied. -/
theorem leases_not_exact_after_disconnect :
    Runs ConnectStep Network.init (connectActions ++ disconnectActions)
        (firstLeased .disconnected) ∧
      (firstLeased .disconnected).Quiescent ∧
      ¬(firstLeased .disconnected).LeasesExact := by
  refine ⟨?_, firstLeased_quiescent trivial, ?_⟩
  · apply run_connect.trans
    have called := Runs.single (ConnectStep.osdHostmodDisconnect
      (s := firstLeased (.connected 0 1025)) (m := 0) rfl)
    have closed := called.snoc
      (.iothreadDisconnectFromHostctrl (m := 0) rfl)
    have done := closed.snoc (.disconnectReturns (m := 0) rfl)
    simpa [setPhase_firstLeased, disconnectActions] using done
  · intro hexact
    obtain ⟨m, diaddr, hdiaddr, -⟩ := (hexact 1).mp (by decide)
    rw [firstLeased_mods, ite_self] at hdiaddr
    cases hdiaddr

end Osd.HostMod
