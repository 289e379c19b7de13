import Osd.Foundation.NumberText
import Osd.HostMod.Connect

/-!
# The reply to an address request

`osd_hostmod_connect` with whatever the host controller replies.  The main
thread waits for the status of the I/O thread, so that the call includes the
work that `iothread_connect_to_hostctrl` does for it.
-/

namespace Osd.HostMod

open Osd.Foundation Osd.HostCtrl

/-- What the I/O thread meets: the socket that `zsock_new_dealer` returns, if
the request is sent, and the type and payload frames of the reply. -/
structure Handshake where
  created : Option Nat
  requestSent : Bool
  reply : Option (List Byte × List Byte)

/-- A reply of the given payload arrives in time. -/
def Handshake.replied (socket : Nat) (payload : List Byte) : Handshake :=
  ⟨some socket, true, some (ascii "M", payload)⟩

structure Hostmod where
  isConnected : Bool
  diaddr : Nat
  hostctrlSocket : Option Nat
  deriving DecidableEq, Repr

/-- `iothread_obtain_diaddr`: the result and `*di_addr`. -/
def obtainDiaddr (handshake : Handshake) : Outcome (OsdResult × Nat) :=
  if handshake.requestSent = false then .ok (osdErrorConnectionFailed, 0)
  else
    match handshake.reply with
    | none => .ok (osdErrorConnectionFailed, 0)
    | some (type, payload) => do
        let diaddr ← iothreadObtainDiaddr type payload
        .ok (osdOk, diaddr)

/-- The socket, and the value of the status I-CONNECT-DONE. -/
def iothreadConnectToHostctrl (handshake : Handshake) :
    Outcome (Option Nat × Int) :=
  match handshake.created with
  | none => .ok (none, -1)
  | some socket => do
      let (rv, diaddr) ← obtainDiaddr handshake
      if osdFailed rv then .ok (none, -1) else .ok (some socket, diaddr)

def osdHostmodConnect (ctx : Hostmod) (handshake : Handshake) :
    Outcome (Hostmod × OsdResult) := do
  assertThat (ctx.isConnected = false)
  let (hostctrlSocket, retval) ← iothreadConnectToHostctrl handshake
  if retval = -1 then
    .ok ({ ctx with hostctrlSocket }, osdErrorConnectionFailed)
  else
    .ok (⟨true, (retval % 2 ^ 16).toNat, hostctrlSocket⟩, osdOk)

def osdHostmodIsConnected (ctx : Hostmod) : Bool := ctx.isConnected

def osdHostmodGetDiaddr (ctx : Hostmod) : Outcome Nat := do
  assertThat (ctx.isConnected = true)
  .ok ctx.diaddr

/-! ## What a reply should do -/

/-- A decimal number of 16 bits, leading zeros included. -/
structure AddressText (text : List Byte) (diaddr : Nat) : Prop where
  ne_nil : text ≠ []
  isDigit : ∀ char ∈ text, isDigit char = true
  value : decimalValue text = diaddr
  le : diaddr ≤ 65535

def Connects (ctx : Hostmod) (handshake : Handshake) (diaddr : Nat) : Prop :=
  ∃ after, osdHostmodConnect ctx handshake = .ok (after, osdOk) ∧
    osdHostmodIsConnected after = true ∧
    osdHostmodGetDiaddr after = .ok diaddr

/-- The connection fails, and nothing of it is left. -/
def FailsCleanly (ctx : Hostmod) (handshake : Handshake) : Prop :=
  ∃ after,
    osdHostmodConnect ctx handshake = .ok (after, osdErrorConnectionFailed) ∧
    osdHostmodIsConnected after = false ∧ after.hostctrlSocket = none ∧
    ∀ socket payload diaddr, AddressText (cString payload) diaddr →
      Connects after (.replied socket payload) diaddr

structure HandledExactly (ctx : Hostmod) (socket : Nat)
    (payload : List Byte) : Prop where
  valid : ∀ diaddr, AddressText (cString payload) diaddr →
    Connects ctx (.replied socket payload) diaddr
  invalid : (¬∃ diaddr, AddressText (cString payload) diaddr) →
    FailsCleanly ctx (.replied socket payload)

/-! ## What it does -/

theorem AddressText.numberText {text : List Byte} {diaddr : Nat}
    (h : AddressText text diaddr) : NumberText text diaddr := by
  have hle := h.le
  have hspaces : ∀ char ∈ ([] : List Byte), isSpace char = true := by simp
  have hnumber := NumberText.number hspaces .absent h.ne_nil h.isDigit
  rwa [signedValue, if_neg Bool.false_ne_true, h.value,
    toLong_of_lt (by omega)] at hnumber

/-- A reply is accepted if `strtol` reads it to its end and the value is not
too large; no value is too small. -/
theorem iothreadObtainDiaddr_eq_ok {payload : List Byte} {diaddr : Nat} :
    iothreadObtainDiaddr (ascii "M") payload = .ok diaddr ↔
      ∃ value, NumberText (cString payload) value ∧ value ≤ 65535 ∧
        (value % 2 ^ 16).toNat = diaddr := by
  rw [iothreadObtainDiaddr, assertThat_bind rfl]
  constructor
  · intro h
    obtain ⟨⟨value, endptr⟩, hstrtol, hread⟩ := bind_eq_ok.mp h
    obtain ⟨char, hchar, hchecked⟩ := bind_eq_ok.mp hread
    obtain ⟨hend, hranged⟩ := assertThat_bind_eq_ok.mp hchecked
    obtain ⟨hle, hvalue⟩ := assertThat_bind_eq_ok.mp hranged
    cases endptr with
    | nil => cases hchar
    | cons first rest =>
        cases hchar
        subst hend
        exact ⟨value, strtol_terminated.mp ⟨rest, hstrtol⟩, hle,
          Except.ok.inj hvalue⟩
  · rintro ⟨value, hnumber, hle, rfl⟩
    obtain ⟨rest, hstrtol⟩ := strtol_terminated.mpr hnumber
    rw [hstrtol, ok_bind]
    simp only [firstChar_cons, ok_bind]
    rw [assertThat_bind trivial, assertThat_bind hle]

section Connect

variable {ctx : Hostmod} {socket : Nat} {payload : List Byte} {diaddr : Nat}

theorem osdHostmodConnect_of_obtained (hctx : ctx.isConnected = false)
    (h : iothreadObtainDiaddr (ascii "M") payload = .ok diaddr) :
    osdHostmodConnect ctx (.replied socket payload) =
      .ok (⟨true, ((diaddr : Int) % 2 ^ 16).toNat, some socket⟩, osdOk) := by
  have hobtain : obtainDiaddr (.replied socket payload) =
      .ok (osdOk, diaddr) := by
    simp only [obtainDiaddr, Handshake.replied, Bool.true_eq_false, if_false,
      h, ok_bind]
  have hconnect : iothreadConnectToHostctrl (.replied socket payload) =
      .ok (some socket, (diaddr : Int)) := by
    unfold iothreadConnectToHostctrl
    rw [hobtain]
    rfl
  have hvalue : (diaddr : Int) ≠ -1 := by omega
  rw [osdHostmodConnect, assertThat_bind hctx, hconnect, ok_bind]
  simp only [hvalue, if_false]

theorem Connects.of_addressText (hctx : ctx.isConnected = false)
    (h : AddressText (cString payload) diaddr) :
    Connects ctx (.replied socket payload) diaddr := by
  have hle := h.le
  have hobtain : iothreadObtainDiaddr (ascii "M") payload = .ok diaddr :=
    iothreadObtainDiaddr_eq_ok.mpr ⟨diaddr, h.numberText, by omega, by omega⟩
  have hdiaddr : ((diaddr : Int) % 2 ^ 16).toNat = diaddr := by omega
  refine ⟨_, osdHostmodConnect_of_obtained hctx hobtain, rfl, ?_⟩
  rw [osdHostmodGetDiaddr, assertThat_bind rfl, hdiaddr]

/-- No reply makes the connection fail: it succeeds, or an assertion or an
access does not. -/
theorem not_failsCleanly (hctx : ctx.isConnected = false) :
    ¬FailsCleanly ctx (.replied socket payload) := by
  rintro ⟨after, hcall, -⟩
  cases hobtain : iothreadObtainDiaddr (ascii "M") payload with
  | ok diaddr =>
      rw [osdHostmodConnect_of_obtained hctx hobtain] at hcall
      cases hcall
  | error fault =>
      rw [osdHostmodConnect, assertThat_bind hctx] at hcall
      simp [iothreadConnectToHostctrl, obtainDiaddr, Handshake.replied,
        hobtain] at hcall

theorem handledExactly_iff (hctx : ctx.isConnected = false) :
    HandledExactly ctx socket payload ↔
      ∃ diaddr, AddressText (cString payload) diaddr := by
  constructor
  · intro h
    by_contra hnot
    exact not_failsCleanly hctx (h.invalid hnot)
  · intro htext
    constructor
    · intro diaddr h
      exact .of_addressText hctx h
    · intro hnot
      exact absurd htext hnot

/-- Without a reply the connection does fail cleanly. -/
theorem failsCleanly_of_timeout (hctx : ctx.isConnected = false)
    (socket : Nat) : FailsCleanly ctx ⟨some socket, true, none⟩ := by
  refine ⟨{ ctx with hostctrlSocket := none }, ?_, hctx, rfl, ?_⟩
  · rw [osdHostmodConnect, assertThat_bind hctx]
    rfl
  · intro socket payload diaddr h
    exact .of_addressText hctx h

end Connect

theorem handledExactly_firstAddress :
    HandledExactly ⟨false, 0, none⟩ 1 (ascii "1025") ↔
      ∃ diaddr, AddressText (cString (ascii "1025")) diaddr :=
  handledExactly_iff rfl

/-- NACK, which the protocol prescribes, fails an assertion, and a signed
number is taken for an address. -/
theorem nack_and_signed_number :
    osdHostmodConnect ⟨false, 0, none⟩ (.replied 1 (ascii "NACK")) =
        .error .assertion ∧
      osdHostmodConnect ⟨false, 0, none⟩ (.replied 1 (ascii "-5")) =
        .ok (⟨true, 65531, some 1⟩, osdOk) ∧
      ¬HandledExactly ⟨false, 0, none⟩ 1 (ascii "NACK") := by
  refine ⟨rfl, rfl, ?_⟩
  intro h
  refine not_failsCleanly rfl (h.invalid ?_)
  rintro ⟨diaddr, haddress⟩
  have hdigit := haddress.isDigit 78 (by decide)
  simp [isDigit] at hdigit

end Osd.HostMod
