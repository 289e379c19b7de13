import Osd.HostCtrl.Bindings
import Osd.HostCtrl.Routing

/-!
# Released addresses

The search for an address that is given up covers the first 62 local
addresses, while the controller hands out 1023 of them.
-/

namespace Osd.HostCtrl

open Osd.Foundation

variable {Id : Type} [DecidableEq Id]

/-- The host holds one of the first `bound` local addresses. -/
def Holds (ctx : Controller Id) (host : Id) (bound : Nat) : Prop :=
  ∃ localaddr, 1 ≤ localaddr ∧ localaddr ≤ bound ∧
    ctx.modsInSubnet.get localaddr = some host

def requestEvent (host : Id) (localaddr : Nat) : Event Id where
  msg := ⟨host, ascii "M", ascii "DIADDR_REQUEST"⟩
  connected := fun _ => true
  sent := [mgmtReply host (formatUnsigned (1024 + localaddr))]

/-- Whoever goes on asking for addresses gets this one. -/
def Obtainable (ctx : Controller Id) (localaddr : Nat) : Prop :=
  ∀ host, ∃ (lower : List Nat) (final : Controller Id), Runs Step ctx
    (lower.map (requestEvent host) ++ [requestEvent host localaddr]) final

structure Released (before : Controller Id) (host : Id)
    (after : Controller Id) (reply : Outgoing Id) : Prop where
  ack : reply = mgmtSendAck host
  exists_entry : ∃ localaddr, 1 ≤ localaddr ∧ localaddr ≤ 1023 ∧
    before.modsInSubnet.get localaddr = some host ∧
    after =
      { before with modsInSubnet := before.modsInSubnet.set localaddr none } ∧
    Obtainable after localaddr

structure ReleaseAnswered (before : Controller Id) (host : Id)
    (after : Controller Id) (reply : Outgoing Id) : Prop where
  held : Holds before host 1023 → Released before host after reply
  notHeld : ¬Holds before host 1023 →
    reply = mgmtSendNack host ∧ after = before

/-! ## Requests -/

section

variable {ctx : Controller Id} {localaddr : Nat}

omit [DecidableEq Id] in
/-- The lowest free address is the one that is granted. -/
theorem mgmtDiaddrRequest_first (host : Id) (hsubnet : ctx.subnetAddr = 1)
    (hlow : 1 ≤ localaddr) (hhigh : localaddr ≤ 1023)
    (hfree : ctx.modsInSubnet.get localaddr = none)
    (htaken : ∀ l, 1 ≤ l → l < localaddr → ctx.modsInSubnet.get l ≠ none) :
    mgmtDiaddrRequest ctx host =
      .ok ({ ctx with
          modsInSubnet := ctx.modsInSubnet.set localaddr (some host) },
        mgmtReply host (formatUnsigned (1024 + localaddr))) := by
  obtain ⟨result, hsearch, hfound⟩ := ctx.modsInSubnet.search_spec
    Option.isNone osdDiaddrLocalMax 1 (by simp [osdDiaddrLocalMax])
  cases hfound with
  | absent hfull =>
      have hbound := hfull localaddr hlow
        (by simp only [osdDiaddrLocalMax]; omega)
      rw [hfree] at hbound
      cases hbound
  | first found hfoundLow hfoundHigh hfoundFree hbefore =>
      rw [Option.isNone_iff_eq_none] at hfoundFree
      have hsame : found = localaddr := by
        rcases Nat.lt_trichotomy found localaddr with hlt | heq | hgt
        · exact absurd hfoundFree (htaken found hfoundLow hlt)
        · exact heq
        · have hbound := hbefore localaddr hlow hgt
          rw [hfree] at hbound
          cases hbound
      subst hsame
      exact mgmtDiaddrRequest_of_free host hsubnet hhigh hsearch hfree

theorem step_request (host : Id) (hsubnet : ctx.subnetAddr = 1)
    (hlow : 1 ≤ localaddr) (hhigh : localaddr ≤ 1023)
    (hfree : ctx.modsInSubnet.get localaddr = none)
    (htaken : ∀ l, 1 ≤ l → l < localaddr → ctx.modsInSubnet.get l ≠ none) :
    ∃ after, Step ctx (requestEvent host localaddr) after ∧
      after.subnetAddr = 1 ∧ ∀ l, after.modsInSubnet.get l =
        if l = localaddr then some host else ctx.modsInSubnet.get l := by
  have hrequest : requestOf (ascii "DIADDR_REQUEST") = .diaddrRequest := by
    decide
  have hcall := mgmtDiaddrRequest_first host hsubnet hlow hhigh hfree htaken
  refine ⟨{ ctx with
    modsInSubnet := ctx.modsInSubnet.set localaddr (some host) }, ?_, hsubnet,
    ?_⟩
  · unfold Step iothreadHandleExtMsg requestEvent processMgmtMsg
    dsimp only
    rw [hrequest]
    unfold handleRequest
    rw [hcall]
    rfl
  · intro l
    by_cases hsame : l = localaddr
    · rw [hsame, if_pos rfl]
      apply Table.get_set_self
      simp only [osdDiaddrLocalMax]
      omega
    · rw [if_neg hsame]
      exact Table.get_set_ne hsame _

/-- The addresses below are granted first; the induction is on how many of
them may still be free. -/
theorem obtainable_above (count low : Nat) (hsubnet : ctx.subnetAddr = 1)
    (hlow : 1 ≤ low) (hlocal : low + count = localaddr)
    (hhigh : localaddr ≤ 1023)
    (hfree : ctx.modsInSubnet.get localaddr = none)
    (htaken : ∀ l, 1 ≤ l → l < low → ctx.modsInSubnet.get l ≠ none) :
    Obtainable ctx localaddr := by
  intro host
  induction count generalizing ctx low with
  | zero =>
      obtain ⟨final, hstep, -⟩ := step_request host hsubnet (by omega) hhigh
        hfree (fun l hl hlt => htaken l hl (by omega))
      exact ⟨[], final, .single hstep⟩
  | succ count ih =>
      by_cases hnext : ctx.modsInSubnet.get low = none
      · obtain ⟨next, hstep, hsubnet', hget⟩ :=
          step_request host hsubnet hlow (by omega) hnext htaken
        have hfree' : next.modsInSubnet.get localaddr = none := by
          rw [hget, if_neg (by omega)]
          exact hfree
        obtain ⟨lower, final, hrun⟩ := ih (low + 1) hsubnet' (by omega)
          (by omega) hfree' (by
            intro l hl hlt
            rw [hget]
            split
            · simp
            · exact htaken l hl (by omega))
        exact ⟨low :: lower, final, (Runs.single hstep).trans hrun⟩
      · apply ih (low + 1) hsubnet (by omega) (by omega) hfree
        intro l hl hlt
        by_cases heq : l = low
        · rwa [heq]
        · exact htaken l hl (by omega)

theorem obtainable_of_free (hsubnet : ctx.subnetAddr = 1)
    (hlow : 1 ≤ localaddr) (hhigh : localaddr ≤ 1023)
    (hfree : ctx.modsInSubnet.get localaddr = none) :
    Obtainable ctx localaddr :=
  obtainable_above (localaddr - 1) 1 hsubnet (Nat.le_refl 1) (by omega) hhigh
    hfree (fun l hl hlt => by omega)

end

/-! ## Releases -/

theorem iothreadHandleExtMsg_release (ctx : Controller Id)
    (connected : Id → Bool) {msg : ExtMsg Id}
    (htype : msg.type.head? = some 77)
    (hrequest : requestOf msg.payload = .diaddrRelease) :
    ∃ after reply, iothreadHandleExtMsg ctx connected msg =
        .ok (after, [reply]) ∧
      Handled ctx msg.src .diaddrRelease after reply := by
  obtain ⟨after, reply, hcall, hhandled⟩ :=
    mgmtDiaddrRelease_handled ctx msg.src
  refine ⟨after, reply, ?_, hhandled⟩
  rw [← head?_typeStr (by decide)] at htype
  unfold iothreadHandleExtMsg processMgmtMsg
  simp only [htype, hrequest, handleRequest, hcall]
  rfl

/-- Only an address that the search covers is given up. -/
theorem ReleaseAnswered.holds_first {ctx after : Controller Id}
    {connected : Id → Bool} {msg : ExtMsg Id} {reply : Outgoing Id}
    (htype : msg.type.head? = some 77)
    (hrequest : requestOf msg.payload = .diaddrRelease)
    (hcall : iothreadHandleExtMsg ctx connected msg = .ok (after, [reply]))
    (h : ReleaseAnswered ctx msg.src after reply)
    (hheld : Holds ctx msg.src 1023) : Holds ctx msg.src 62 := by
  obtain ⟨after', reply', hcall', hhandled⟩ :=
    iothreadHandleExtMsg_release ctx connected htype hrequest
  obtain ⟨rfl, hreply⟩ :=
    Prod.mk.inj (Except.ok.inj (hcall.symm.trans hcall'))
  obtain rfl := List.singleton_inj.mp hreply
  have hack := (h.held hheld).ack
  generalize msg.src = src at hhandled hack
  cases hhandled with
  | released localaddr hlow hhigh hentry _ =>
      exact ⟨localaddr, hlow, hhigh, hentry⟩
  | notHeld _ => exact absurd (mgmtReply_inj.mp hack).2.symm ack_ne_nack

/-- In every reachable state a release is answered as it should be, exactly if
a host that holds an address holds one of the first 62. -/
theorem releaseAnswered_iff {history : List (Event Id)} {ctx : Controller Id}
    (run : Runs Step osdHostctrlNew history ctx) (connected : Id → Bool)
    {msg : ExtMsg Id} (htype : msg.type.head? = some 77)
    (hrequest : requestOf msg.payload = .diaddrRelease) :
    (∃ after reply, iothreadHandleExtMsg ctx connected msg =
        .ok (after, [reply]) ∧ ReleaseAnswered ctx msg.src after reply) ↔
      (Holds ctx msg.src 1023 → Holds ctx msg.src 62) := by
  have hsubnet : ctx.subnetAddr = 1 := (represents_of_run run).subnetAddr
  obtain ⟨after, reply, hcall, hhandled⟩ :=
    iothreadHandleExtMsg_release ctx connected htype hrequest
  constructor
  · rintro ⟨after', reply', hcall', hanswered⟩ hheld
    exact hanswered.holds_first htype hrequest hcall' hheld
  · intro hfirst
    refine ⟨after, reply, hcall, ?_⟩
    generalize msg.src = src at hhandled hfirst
    cases hhandled with
    | released localaddr hlow hhigh hentry _ =>
        have hle : localaddr ≤ 1023 := by omega
        constructor
        · intro _
          refine ⟨rfl, localaddr, hlow, hle, hentry, rfl, ?_⟩
          apply obtainable_of_free _ hlow hle _
          · exact hsubnet
          · apply Table.get_set_self
            simp only [osdDiaddrLocalMax]
            omega
        · exact fun hnot => absurd ⟨localaddr, hlow, hle, hentry⟩ hnot
    | notHeld hnone =>
        constructor
        · intro hheld
          obtain ⟨localaddr, hlow, hhigh, hentry⟩ := hfirst hheld
          exact absurd hentry (hnone localaddr hlow hhigh)
        · exact fun _ => ⟨rfl, rfl⟩

/-! ## Many modules -/

/-- Every module asks for one address, module `l` being granted the local
address `l`. -/
theorem run_of_modules (count : Nat) (hcount : count ≤ 1023) :
    ∃ history ctx, Runs Step (osdHostctrlNew : Controller Nat) history ctx ∧
      ctx.subnetAddr = 1 ∧ ∀ l, ctx.modsInSubnet.get l =
        if 1 ≤ l ∧ l ≤ count then some l else none := by
  induction count with
  | zero =>
      refine ⟨[], osdHostctrlNew, .refl, rfl, fun l => ?_⟩
      rw [if_neg (by omega)]
      exact Table.get_empty l
  | succ count ih =>
      obtain ⟨history, ctx, hrun, hsubnet, hget⟩ := ih (by omega)
      obtain ⟨after, hstep, hsubnet', hget'⟩ := step_request (count + 1)
        hsubnet (by omega) hcount (by rw [hget, if_neg (by omega)])
        (fun l hl hlt => by
          rw [hget, if_pos (by omega)]
          simp)
      refine ⟨_, after, hrun.snoc hstep, hsubnet', fun l => ?_⟩
      rw [hget', hget]
      by_cases hsame : l = count + 1
      · rw [if_pos hsame, if_pos (by omega), hsame]
      · rw [if_neg hsame]
        by_cases hlow : 1 ≤ l ∧ l ≤ count
        · rw [if_pos hlow, if_pos (by omega)]
        · rw [if_neg hlow, if_neg (by omega)]

/-- The first module gives its address up. -/
theorem releaseAnswered_first :
    ∃ after reply, iothreadHandleExtMsg
        { (osdHostctrlNew : Controller Nat) with
          modsInSubnet := Table.empty.set 1 (some 7) } (fun _ => true)
        ⟨7, ascii "M", ascii "DIADDR_RELEASE"⟩ = .ok (after, [reply]) ∧
      ReleaseAnswered
        { (osdHostctrlNew : Controller Nat) with
          modsInSubnet := Table.empty.set 1 (some 7) } 7 after reply := by
  have hrun : Runs Step (osdHostctrlNew : Controller Nat)
      [requestEvent 7 1]
      { (osdHostctrlNew : Controller Nat) with
        modsInSubnet := Table.empty.set 1 (some 7) } := .single rfl
  exact (releaseAnswered_iff hrun _ rfl (by decide)).mpr
    fun _ => ⟨1, by decide, by decide, rfl⟩

/-- After 63 modules have got their addresses, the last one cannot give its
address up. -/
theorem not_releaseAnswered_module63 :
    ∃ history ctx, Runs Step (osdHostctrlNew : Controller Nat) history ctx ∧
      Holds ctx 63 1023 ∧
      ¬∃ after reply, iothreadHandleExtMsg ctx (fun _ => true)
          ⟨63, ascii "M", ascii "DIADDR_RELEASE"⟩ = .ok (after, [reply]) ∧
        ReleaseAnswered ctx 63 after reply := by
  obtain ⟨history, ctx, hrun, -, hget⟩ := run_of_modules 63 (by decide)
  have hheld : Holds ctx 63 1023 := by
    refine ⟨63, by decide, by decide, ?_⟩
    rw [hget, if_pos (by decide)]
  refine ⟨history, ctx, hrun, hheld, ?_⟩
  rintro ⟨after, reply, hcall, hanswered⟩
  obtain ⟨l, hlow, hhigh, hentry⟩ :=
    hanswered.holds_first rfl (by decide) hcall hheld
  rw [hget, if_pos (by omega), Option.some.injEq] at hentry
  have hlast : l = 63 := hentry
  omega

end Osd.HostCtrl
