import Osd.HostMod.RegAccess

/-!
# Pairing of requests and responses

A response carries nothing that ties it to its request, so a call that finds a
late response to an earlier access in its queue may take it for its own.
-/

namespace Osd.HostMod

open Osd.Foundation

/-- The value is what the addressed module sent to the request of this call. -/
def OwnResponse (history : List RegEvent) (id : Nat) (value : List Word) :
    Prop :=
  ∃ access response, .issued id access ∈ history ∧
    .answered id response ∈ history ∧ response.src = access.diaddr ∧
    access.Awaits response.toPacket ∧ value = response.payload

/-- Every call that returned OSD_OK returned its own response. -/
def Paired (history : List RegEvent) : Prop :=
  ∀ earlier id value later,
    history = earlier ++ .returned id osdOk value :: later →
      OwnResponse earlier id value

/-- When a call takes a message, it is not a response to an earlier access with
the subtype and the size that the call awaits. -/
def LateRejected (s : RegSystem) : RegEvent → Prop
  | .returned _ _ _ => ∀ call reply rest, s.call = some call →
      s.inprocSocket = reply :: rest → reply.request ≠ call.id →
        ¬call.access.Awaits reply.packet
  | _ => True

theorem Paired.snoc {history : List RegEvent} {event : RegEvent}
    (h : Paired history)
    (hown : ∀ id value, event = .returned id osdOk value →
      OwnResponse history id value) : Paired (history ++ [event]) := by
  intro earlier id value later hsplit
  rcases List.eq_nil_or_concat later with rfl | ⟨front, last, rfl⟩
  · obtain ⟨rfl, hlast⟩ := List.append_inj' hsplit rfl
    exact hown id value (List.cons.inj hlast).1
  · rw [List.concat_eq_append, ← List.cons_append,
      ← List.append_assoc] at hsplit
    exact h earlier id value front (List.append_inj' hsplit rfl).1

/-! ## The invariant -/

/-- The reply is the message that the addressed module sent. -/
def Sent (history : List RegEvent) (reply : Reply) : Prop :=
  ∃ access response, .issued reply.request access ∈ history ∧
    .answered reply.request response ∈ history ∧
    response.src = access.diaddr ∧ reply.packet = response.toPacket

structure Tracked (history : List RegEvent) (s : RegSystem) : Prop where
  fresh : ∀ id access, .issued id access ∈ history → id < s.issued
  unique : ∀ id access access', .issued id access ∈ history →
    .issued id access' ∈ history → access = access'
  call : ∀ call, s.call = some call → .issued call.id call.access ∈ history
  outstanding : ∀ request ∈ s.outstanding, ∃ access,
    .issued request.1 access ∈ history ∧
      osdPacketGetDest request.2 = .ok access.diaddr.toNat
  hostctrlSocket : ∀ reply ∈ s.hostctrlSocket, Sent history reply
  inprocSocket : ∀ reply ∈ s.inprocSocket, Sent history reply

theorem Sent.later {history : List RegEvent} {reply : Reply}
    (h : Sent history reply) (event : RegEvent) :
    Sent (history ++ [event]) reply := by
  obtain ⟨access, response, hissued, hanswered, hrest⟩ := h
  exact ⟨access, response, List.mem_append_left _ hissued,
    List.mem_append_left _ hanswered, hrest⟩

theorem issued_mem_snoc {history : List RegEvent} {event : RegEvent}
    {id : Nat} {access : Access}
    (h : .issued id access ∈ history ++ [event]) :
    .issued id access ∈ history ∨ event = .issued id access := by
  rcases List.mem_append.mp h with hold | hnew
  · exact .inl hold
  · exact .inr (List.mem_singleton.mp hnew).symm

theorem Tracked.silent {history : List RegEvent} {s s' : RegSystem}
    {event : RegEvent} (h : Tracked history s)
    (hevent : ∀ id access, event ≠ .issued id access)
    (hissued : s'.issued = s.issued)
    (hcall : ∀ call, s'.call = some call → s.call = some call)
    (houtstanding : ∀ request ∈ s'.outstanding, request ∈ s.outstanding)
    (hhostctrl : ∀ reply ∈ s'.hostctrlSocket, reply ∈ s.hostctrlSocket ∨
      Sent (history ++ [event]) reply)
    (hinproc : ∀ reply ∈ s'.inprocSocket,
      reply ∈ s.hostctrlSocket ∨ reply ∈ s.inprocSocket) :
    Tracked (history ++ [event]) s' where
  fresh := by
    intro id access hmem
    rcases issued_mem_snoc hmem with hold | hnew
    · rw [hissued]
      exact h.fresh id access hold
    · exact absurd hnew (hevent id access)
  unique := by
    intro id access access' hmem hmem'
    rcases issued_mem_snoc hmem with hold | hnew
    · rcases issued_mem_snoc hmem' with hold' | hnew'
      · exact h.unique id access access' hold hold'
      · exact absurd hnew' (hevent id access')
    · exact absurd hnew (hevent id access)
  call := by
    intro call hsome
    exact List.mem_append_left _ (h.call call (hcall call hsome))
  outstanding := by
    intro request hrequest
    obtain ⟨access, hmem, hdest⟩ :=
      h.outstanding request (houtstanding request hrequest)
    exact ⟨access, List.mem_append_left _ hmem, hdest⟩
  hostctrlSocket := by
    intro reply hreply
    rcases hhostctrl reply hreply with hold | hnew
    · exact (h.hostctrlSocket reply hold).later event
    · exact hnew
  inprocSocket := by
    intro reply hreply
    rcases hinproc reply hreply with hold | hold
    · exact (h.hostctrlSocket reply hold).later event
    · exact (h.inprocSocket reply hold).later event

theorem Tracked.issue {history : List RegEvent} {s : RegSystem}
    {access : Access} {pkgReq : Packet} (h : Tracked history s)
    (hdest : osdPacketGetDest pkgReq = .ok access.diaddr.toNat) :
    Tracked (history ++ [.issued s.issued access])
      { s with
        call := some ⟨s.issued, access⟩
        issued := s.issued + 1
        outstanding := s.outstanding ++ [(s.issued, pkgReq)] } where
  fresh := by
    intro id access' hmem
    rcases issued_mem_snoc hmem with hold | hnew
    · exact Nat.lt_succ_of_lt (h.fresh id access' hold)
    · cases hnew
      exact Nat.lt_succ_self _
  unique := by
    intro id first second hmem hmem'
    rcases issued_mem_snoc hmem with hold | hnew
    · rcases issued_mem_snoc hmem' with hold' | hnew'
      · exact h.unique id first second hold hold'
      · cases hnew'
        exact absurd (h.fresh _ _ hold) (Nat.lt_irrefl _)
    · cases hnew
      rcases issued_mem_snoc hmem' with hold' | hnew'
      · exact absurd (h.fresh _ _ hold') (Nat.lt_irrefl _)
      · cases hnew'
        rfl
  call := by
    intro call hsome
    cases hsome
    simp
  outstanding := by
    intro request hrequest
    rcases List.mem_append.mp hrequest with hold | hnew
    · obtain ⟨access', hmem, hdest'⟩ := h.outstanding request hold
      exact ⟨access', List.mem_append_left _ hmem, hdest'⟩
    · rw [List.mem_singleton.mp hnew]
      exact ⟨access, by simp, hdest⟩
  hostctrlSocket := fun reply hreply => (h.hostctrlSocket reply hreply).later _
  inprocSocket := fun reply hreply => (h.inprocSocket reply hreply).later _

theorem Tracked.step {diaddr : Word} {history : List RegEvent}
    {s s' : RegSystem} {event : RegEvent} (h : Tracked history s)
    (hstep : RegStep diaddr s event s') : Tracked (history ++ [event]) s' := by
  cases hstep with
  | issue hidle hpkg => exact h.issue (Access.getDest_request hpkg)
  | @answer before after reqId pkgReq response hreq hsrc hdest htype =>
      obtain ⟨access, hissued, hmodule⟩ := h.outstanding (reqId, pkgReq)
        (by rw [hreq]; simp)
      have hsame : response.src = access.diaddr := by
        apply UInt16.toNat_inj.mp
        exact Except.ok.inj (hsrc.symm.trans hmodule)
      refine h.silent (by simp) rfl (fun _ => id) ?_ ?_ (fun _ => .inr)
      · intro request hrequest
        rw [hreq]
        exact mem_of_mem_rest hrequest
      · intro reply hreply
        rcases List.mem_append.mp hreply with hold | hnew
        · exact .inl hold
        · rw [List.mem_singleton.mp hnew]
          exact .inr ⟨access, response, List.mem_append_left _ hissued,
            by simp, hsame, rfl⟩
  | @forward reply rest hsocket =>
      refine h.silent (by simp) rfl (fun _ => id) (fun _ => id) ?_ ?_
      · intro other hother
        rw [hsocket]
        exact .inl (List.mem_cons_of_mem _ hother)
      · intro other hother
        rw [hsocket]
        rcases List.mem_append.mp hother with hold | hnew
        · exact .inr hold
        · exact .inl (by rw [List.mem_singleton.mp hnew]; simp)
  | @receive call reply rest rv value hcall hsocket hresult =>
      refine h.silent (by simp) rfl (by simp) (fun _ => id) (fun _ => .inl) ?_
      intro other hother
      rw [hsocket]
      exact .inr (List.mem_cons_of_mem _ hother)
  | timeout hcall hblocking hsocket =>
      exact h.silent (by simp) rfl (by simp) (fun _ => id) (fun _ => .inl)
        (fun _ => .inr)

/-! ## Runs -/

abbrev PairingStep (diaddr : Word) (s : RegSystem) (event : RegEvent)
    (s' : RegSystem) : Prop :=
  RegStep diaddr s event s' ∧ LateRejected s event

/-- A call that meets the condition returns its own response. -/
theorem Tracked.own {diaddr : Word} {history : List RegEvent}
    {s s' : RegSystem} (h : Tracked history s) {id : Nat} {value : List Word}
    (hstep : PairingStep diaddr s (.returned id osdOk value) s') :
    OwnResponse history id value := by
  obtain ⟨hstep, hlate⟩ := hstep
  cases hstep with
  | @receive call reply rest _ _ hcall hsocket hresult =>
      obtain ⟨access, response, hissued, hanswered, hsrc, hpacket⟩ :=
        h.inprocSocket reply (by rw [hsocket]; simp)
      rw [hpacket] at hresult
      obtain ⟨hawaits, hvalue⟩ := Access.response_ok hresult
      have hown : reply.request = call.id := by
        by_contra hother
        rw [← hpacket] at hawaits
        exact hlate call reply rest hcall hsocket hother hawaits
      rw [hown] at hissued hanswered
      obtain rfl : access = call.access :=
        h.unique _ _ _ hissued (h.call call hcall)
      exact ⟨_, response, hissued, hanswered, hsrc, hawaits, hvalue⟩

def readReg (diaddr : Word) : Access := ⟨diaddr, 0x200, 16, none, false⟩

def readResponse (src value : Word) : DiPacket where
  dest := 7
  src := src
  flags := flagsWithTypeSub 0 (getSubtypeRegReadSuccessResp 16)
  payload := [value]
  fits := DiPacket.single_fits value

def readRequest (diaddr : Word) : Packet :=
  ⟨4, [diaddr, 7, flagsWithTypeSub 0 (getSubtypeRegReadReq 16), 0x200]⟩

end Osd.HostMod
