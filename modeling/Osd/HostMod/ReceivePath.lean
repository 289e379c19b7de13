import Osd.HostCtrl.Controller
import Osd.HostMod.Combining
import Osd.HostMod.RegAccess

/-!
# The receive path of a host module

A message of the host controller is handled by the I/O thread and may be passed
on to the main thread, where the next call that waits for a packet takes it.
Assertions of the functions on this path are told apart from other faults.
-/

namespace Osd.HostMod

open Osd.Foundation Osd.HostCtrl

/-! ## Failed assertions -/

inductive ReceiveFunction where
  | iothreadRcvFromHostctrl
  | iothreadHandleInDataMsg
  | osdPacketNewFromZframe
  | osdHostmodReceivePacket
  | osdHostmodRegaccess
  deriving DecidableEq

inductive ReceiveFault where
  | assertion (function : ReceiveFunction)
  | elsewhere (fault : Fault)

abbrev ReceiveOutcome (α : Type) := Except ReceiveFault α

def assertIn (function : ReceiveFunction) (p : Prop) [Decidable p] :
    ReceiveOutcome Unit :=
  if p then .ok () else .error (.assertion function)

/-- The call of a function on the path. -/
def assertsIn {α : Type} (function : ReceiveFunction) :
    Outcome α → ReceiveOutcome α
  | .ok value => .ok value
  | .error .assertion => .error (.assertion function)
  | .error fault => .error (.elsewhere fault)

/-- The call of any other function. -/
def outside {α : Type} : Outcome α → ReceiveOutcome α
  | .ok value => .ok value
  | .error fault => .error (.elsewhere fault)

/-! ## The functions -/

abbrev Zmsg := List (List Byte)

def osdPacketNewFromFrame (frame : List Byte) : ReceiveOutcome Packet :=
  assertsIn .osdPacketNewFromZframe (osdPacketNewFromZframe frame)

/-- The message to be sent to the main thread, if there is one. -/
def iothreadHandleInDataMsg (env : EventEnv) (ctx : EventCtx) (msg : Zmsg) :
    ReceiveOutcome (Option Zmsg × EventCtx) :=
  match msg with
  | _ :: dataFrame :: _ => do
      let pkg ← osdPacketNewFromFrame dataFrame
      let type ← outside (osdPacketGetType pkg)
      if type = osdPacketTypeEvent then do
        let (delivery, ctx) ← outside (receiveEvent env ctx pkg)
        match delivery with
        | some (.toMain fwdPkg) => .ok (some [ascii "D", fwdPkg.frame], ctx)
        | some (.toHandler _) => .ok (none, ctx)
        | none => .ok (none, ctx)
      else .ok (some msg, ctx)
  | _ => .error (.assertion .iothreadHandleInDataMsg)

def iothreadRcvFromHostctrl (env : EventEnv) (ctx : EventCtx) (msg : Zmsg) :
    ReceiveOutcome (Option Zmsg × EventCtx) :=
  match msg with
  | [] => .error (.assertion .iothreadRcvFromHostctrl)
  | typeFrame :: _ =>
      if typeFrame = ascii "D" then iothreadHandleInDataMsg env ctx msg
      else if typeFrame = ascii "M" then
        -- TODO: Handle incoming management messages.
        .error (.assertion .iothreadRcvFromHostctrl)
      else .error (.assertion .iothreadRcvFromHostctrl)

/-- `osd_hostmod_receive_packet` from the message on. -/
def osdHostmodReceivePacket (msg : Zmsg) : ReceiveOutcome Packet :=
  match msg with
  | [] => .error (.assertion .osdHostmodReceivePacket)
  | typeFrame :: frames => do
      assertIn .osdHostmodReceivePacket (typeFrame = ascii "D")
      match frames with
      | [] => .error (.assertion .osdHostmodReceivePacket)
      | dataFrame :: _ => osdPacketNewFromFrame dataFrame

/-- `osd_hostmod_regaccess` from the message on, with what its caller does. -/
def osdHostmodRegaccess (access : Access) (msg : Zmsg) :
    ReceiveOutcome (OsdResult × List Word) := do
  let pkgResp ← osdHostmodReceivePacket msg
  let type ← outside (osdPacketGetType pkgResp)
  assertIn .osdHostmodRegaccess (type = osdPacketTypeReg)
  outside (access.response pkgResp)

/-! ## Both threads -/

/-- A call of the main thread that waits for a packet. -/
inductive MainCall where
  | regaccess (access : Access)
  | eventReceive

structure ReceiveState where
  ctx : EventCtx
  inprocSocket : List Zmsg
  call : Option MainCall

def ReceiveState.init : ReceiveState := ⟨.empty, [], none⟩

namespace ReceiveState

def received (env : EventEnv) (s : ReceiveState) (msg : Zmsg) :
    ReceiveOutcome ReceiveState := do
  let (outMsg, ctx) ← iothreadRcvFromHostctrl env s.ctx msg
  .ok { s with ctx, inprocSocket := s.inprocSocket ++ outMsg.toList }

def called (diaddr : Word) (s : ReceiveState) (call : MainCall) :
    ReceiveOutcome ReceiveState :=
  match call with
  | .regaccess access => do
      let _ ← outside (access.request diaddr)
      .ok { s with call := some call }
  | .eventReceive => .ok { s with call := some call }

def taken (s : ReceiveState) (call : MainCall) (msg : Zmsg)
    (rest : List Zmsg) : ReceiveOutcome ReceiveState :=
  match call with
  | .regaccess access => do
      let _ ← osdHostmodRegaccess access msg
      .ok { s with inprocSocket := rest, call := none }
  | .eventReceive => do
      let _ ← osdHostmodReceivePacket msg
      .ok { s with inprocSocket := rest, call := none }

end ReceiveState

inductive ReceiveEvent where
  | received (msg : Zmsg)
  | called (call : MainCall)
  | taken
  | unanswered

/-- Either thread takes its next step.  A call returns without a packet when it
times out or is interrupted. -/
inductive ReceiveStep (env : EventEnv) (diaddr : Word) (s : ReceiveState) :
    ReceiveEvent → ReceiveOutcome ReceiveState → Prop
  | received (msg : Zmsg) :
      ReceiveStep env diaddr s (.received msg) (s.received env msg)
  | called {call : MainCall} (hidle : s.call = none) :
      ReceiveStep env diaddr s (.called call) (s.called diaddr call)
  | taken {call : MainCall} {msg : Zmsg} {rest : List Zmsg}
      (hcall : s.call = some call) (hsocket : s.inprocSocket = msg :: rest) :
      ReceiveStep env diaddr s .taken (s.taken call msg rest)
  | unanswered {call : MainCall} (hcall : s.call = some call) :
      ReceiveStep env diaddr s .unanswered (.ok { s with call := none })

def Receives (env : EventEnv) (diaddr : Word) (s : ReceiveState)
    (event : ReceiveEvent) (s' : ReceiveState) : Prop :=
  ReceiveStep env diaddr s event (.ok s')

/-! ## What the path expects -/

/-- A data message whose frame holds at least a header. -/
def DataMsg (msg : Zmsg) : Prop :=
  ∃ frame more, msg = ascii "D" :: frame :: more ∧
    packetHeaderWordCnt ≤ frame.length / 2

def frameType (frame : List Byte) : Nat :=
  typeOfFlags ((wordsOfBytes frame).getD 2 0)

/-- The host controller sends data messages only, and a register access finds
a register packet in front of its queue. -/
def ExpectedInput (s : ReceiveState) : ReceiveEvent → Prop
  | .received msg => DataMsg msg
  | .taken => ∀ access typeFrame frame more rest,
      s.call = some (.regaccess access) →
      s.inprocSocket = (typeFrame :: frame :: more) :: rest →
        frameType frame = osdPacketTypeReg
  | .called _ => True
  | .unanswered => True

/-- No assertion of a function on the path fails. -/
def NoAssertion {α : Type} (outcome : ReceiveOutcome α) : Prop :=
  ∀ function, outcome ≠ .error (.assertion function)

/-! ## Packets with a header -/

/-- The size field and the area both make up at least a header. -/
structure Sized (packet : Packet) : Prop where
  header : packetHeaderWordCnt ≤ packet.dataSizeWords.toNat
  allocated : packetHeaderWordCnt ≤ packet.dataRaw.length

section Packets

variable {packet packet' first second : Packet} {frame : List Byte}

theorem header_of_headerWord {index : Nat} {word : Word}
    (h : headerWord packet index = .ok word) :
    packetHeaderWordCnt ≤ packet.dataSizeWords.toNat :=
  (assertThat_bind_eq_ok.mp h).1

theorem header_of_getType {type : Nat} (h : osdPacketGetType packet = .ok type) :
    packetHeaderWordCnt ≤ packet.dataSizeWords.toNat := by
  obtain ⟨flags, hflags, -⟩ := bind_eq_ok.mp h
  exact header_of_headerWord hflags

theorem getType_of_sized (h : Sized packet) :
    osdPacketGetType packet = .ok (typeOfFlags (packet.dataRaw.getD 2 0)) := by
  have hlength : 2 < packet.dataRaw.length := h.allocated
  unfold osdPacketGetType headerWord Packet.word
  rw [assertThat_bind h.header, List.getElem?_eq_getElem hlength,
    List.getD_eq_getElem?_getD, List.getElem?_eq_getElem hlength]
  rfl

theorem Sized.setTypeSub (h : Sized packet) {typeSub : Nat}
    (hset : osdPacketSetTypeSub packet typeSub = .ok packet') :
    Sized packet' := by
  obtain ⟨-, hset⟩ := assertThat_bind_eq_ok.mp hset
  obtain ⟨flags, -, hset⟩ := bind_eq_ok.mp hset
  cases hset
  exact ⟨h.header, by rw [List.length_set]; exact h.allocated⟩

/-- A size that wraps around leaves no room for the payload. -/
theorem sized_of_combine (h : osdPacketCombine first second = .ok packet) :
    Sized packet := by
  unfold osdPacketCombine at h
  obtain ⟨firstPayload, -, h⟩ := bind_eq_ok.mp h
  obtain ⟨secondPayload, -, h⟩ := bind_eq_ok.mp h
  obtain ⟨-, h⟩ := inBounds_bind_eq_ok.mp h
  obtain ⟨dataRaw, hstore, h⟩ := bind_eq_ok.mp h
  obtain ⟨hinside, hstore⟩ := inBounds_bind_eq_ok.mp hstore
  rw [length_osdPacketRealloc] at hinside
  cases hstore
  cases h
  refine ⟨?_, ?_⟩
  · simp only [osdPacketRealloc, UInt16.ofNat_toNat]
    omega
  · simp only [List.length_append, List.length_take, List.length_drop,
      length_osdPacketRealloc]
    omega

theorem newFromZframe_ok (h : osdPacketNewFromZframe frame = .ok packet) :
    packetHeaderWordCnt ≤ frame.length / 2 ∧
      packet.dataRaw = wordsOfBytes frame ∧
      packet.dataSizeWords = UInt16.ofNat (frame.length / 2) := by
  obtain ⟨hheader, h⟩ := assertThat_bind_eq_ok.mp h
  obtain ⟨-, h⟩ := inBounds_bind_eq_ok.mp h
  cases h
  exact ⟨hheader, rfl, rfl⟩

theorem sized_of_newFromZframe
    (h : osdPacketNewFromZframe frame = .ok packet)
    (hheader : packetHeaderWordCnt ≤ packet.dataSizeWords.toNat) :
    Sized packet := by
  obtain ⟨hframe, hraw, -⟩ := newFromZframe_ok h
  refine ⟨hheader, ?_⟩
  rw [hraw, length_wordsOfBytes]
  exact hframe

end Packets

/-! ## Events -/

section Events

variable {env : EventEnv} {alloc : Allocator} {heap heap' : Heap Packet}
  {ctx ctx' : EventCtx}

theorem sized_combineAt (hsized : heap.All Sized) {first second first' : Address}
    (h : combineAt alloc heap first second = .ok (first', heap')) :
    heap'.All Sized := by
  unfold combineAt at h
  obtain ⟨firstPkg, -, h⟩ := bind_eq_ok.mp h
  obtain ⟨secondPkg, -, h⟩ := bind_eq_ok.mp h
  obtain ⟨combined, hcombine, h⟩ := bind_eq_ok.mp h
  obtain ⟨⟨moved, grown⟩, hrealloc, h⟩ := bind_eq_ok.mp h
  obtain ⟨-, -, h⟩ := bind_eq_ok.mp h
  cases h
  exact hsized.realloc (sized_of_combine hcombine) hrealloc

theorem sized_takePart (hsized : heap.All Sized) {fwdPkg : Option Address}
    {pkgInbuf fwdPkg' : Address} {pkgInbuf' : Option Address}
    (h : takePart alloc heap fwdPkg pkgInbuf =
      .ok (fwdPkg', pkgInbuf', heap')) : heap'.All Sized := by
  unfold takePart at h
  cases fwdPkg with
  | none =>
      obtain ⟨part, hpart, h⟩ := bind_eq_ok.mp h
      obtain ⟨last, hlast, h⟩ := bind_eq_ok.mp h
      obtain ⟨stored, hset, h⟩ := bind_eq_ok.mp h
      cases h
      exact hsized.set ((hsized _ _ hpart).setTypeSub hlast) hset
  | some fwdPkg =>
      obtain ⟨⟨moved, grown⟩, hcombine, h⟩ := bind_eq_ok.mp h
      obtain ⟨freed, hfree, h⟩ := bind_eq_ok.mp h
      cases h
      exact (sized_combineAt hsized hcombine).free hfree

/-- The loop over the reassembly buffer, by its rounds. -/
theorem sized_reassemble {pkg : Address} (fuel : Nat)
    (hsized : ctx.heap.All Sized) {fwdPkg pkgInbuf fwdPkg' : Option Address}
    (h : reassemble env pkg fuel ctx fwdPkg pkgInbuf = .ok (fwdPkg', ctx')) :
    ctx'.heap.All Sized := by
  induction fuel generalizing ctx fwdPkg pkgInbuf with
  | zero =>
      cases pkgInbuf with
      | none =>
          cases h
          exact hsized
      | some pkgInbuf => cases h
  | succ fuel ih =>
      cases pkgInbuf with
      | none =>
          cases h
          exact hsized
      | some pkgInbuf =>
          unfold reassemble at h
          obtain ⟨part, -, h⟩ := bind_eq_ok.mp h
          obtain ⟨last, -, h⟩ := bind_eq_ok.mp h
          obtain ⟨partSrc, -, h⟩ := bind_eq_ok.mp h
          obtain ⟨src, -, h⟩ := bind_eq_ok.mp h
          split at h
          · refine ih ?_ h
            exact hsized
          · obtain ⟨⟨moved, next, heap⟩, hpart, h⟩ := bind_eq_ok.mp h
            refine ih ?_ h
            exact sized_takePart hsized hpart

theorem sized_forwardPkg (hsized : ctx.heap.All Sized) {fwdPkg : Address}
    {delivery : Option Delivery}
    (h : forwardPkg env ctx fwdPkg = .ok (delivery, ctx')) :
    ctx'.heap.All Sized ∧
      ∀ packet, delivery = some (.toMain packet) → Sized packet := by
  unfold forwardPkg at h
  obtain ⟨packet, hpacket, h⟩ := bind_eq_ok.mp h
  obtain ⟨freed, hfree, h⟩ := bind_eq_ok.mp h
  cases h
  refine ⟨hsized.free hfree, ?_⟩
  intro sent hsent
  unfold EventEnv.deliver at hsent
  split at hsent
  · cases hsent
  · cases hsent
    exact hsized _ _ hpacket

theorem sized_handleInEventpkg (hsized : ctx.heap.All Sized) {pkg : Address}
    {delivery : Option Delivery}
    (h : iothreadHandleInEventpkg env ctx pkg = .ok (delivery, ctx')) :
    ctx'.heap.All Sized ∧
      ∀ packet, delivery = some (.toMain packet) → Sized packet := by
  unfold iothreadHandleInEventpkg at h
  obtain ⟨packet, hpacket, h⟩ := bind_eq_ok.mp h
  obtain ⟨typeSub, -, h⟩ := bind_eq_ok.mp h
  split at h
  · cases h
    exact ⟨hsized, by simp⟩
  · split at h
    · exact sized_forwardPkg hsized h
    · obtain ⟨⟨fwdPkg, middle⟩, hreassemble, h⟩ := bind_eq_ok.mp h
      have hmiddle : middle.heap.All Sized := by
        refine sized_reassemble _ ?_ hreassemble
        exact hsized
      cases fwdPkg with
      | none =>
          obtain ⟨last, hlast, h⟩ := bind_eq_ok.mp h
          obtain ⟨only, honly, h⟩ := bind_eq_ok.mp h
          obtain ⟨stored, hset, h⟩ := bind_eq_ok.mp h
          have hstored : stored.All Sized :=
            hmiddle.set ((hmiddle _ _ hlast).setTypeSub honly) hset
          exact sized_forwardPkg hstored h
      | some fwdPkg =>
          obtain ⟨⟨moved, grown⟩, hcombine, h⟩ := bind_eq_ok.mp h
          obtain ⟨freed, hfree, h⟩ := bind_eq_ok.mp h
          have hfreed : freed.All Sized :=
            (sized_combineAt hmiddle hcombine).free hfree
          exact sized_forwardPkg hfreed h

theorem sized_receiveEvent (hsized : ctx.heap.All Sized) {packet : Packet}
    (hpacket : Sized packet) {delivery : Option Delivery}
    (h : receiveEvent env ctx packet = .ok (delivery, ctx')) :
    ctx'.heap.All Sized ∧
      ∀ packet, delivery = some (.toMain packet) → Sized packet := by
  unfold receiveEvent at h
  have hkept : (ctx.heap.malloc env.alloc packet).2.All Sized :=
    hsized.malloc hpacket
  exact sized_handleInEventpkg hkept h

end Events

/-! ## The messages to the main thread -/

/-- A message that the main thread can make a packet of. -/
def Queued (msg : Zmsg) : Prop :=
  ∃ frame more packet, msg = ascii "D" :: frame :: more ∧
    osdPacketNewFromZframe frame = .ok packet ∧
    osdPacketGetType packet = .ok (frameType frame)

theorem getType_newFromZframe {frame : List Byte} {packet : Packet}
    (hnew : osdPacketNewFromZframe frame = .ok packet)
    (hheader : packetHeaderWordCnt ≤ packet.dataSizeWords.toNat) :
    osdPacketGetType packet = .ok (frameType frame) := by
  rw [getType_of_sized (sized_of_newFromZframe hnew hheader),
    (newFromZframe_ok hnew).2.1, frameType]

theorem queued_forwarded {packet : Packet} (h : Sized packet) :
    Queued [ascii "D", packet.frame] := by
  have hsize := packet.dataSizeWords.toNat_lt
  have hheader := h.header
  have hallocated := h.allocated
  have hlength : packet.frame.length =
      2 * min packet.dataSizeWords.toNat packet.dataRaw.length := by
    rw [Packet.frame, osdPacketSizeof, List.length_take, length_bytesOfWords]
    omega
  have hnew := osdPacketNewFromZframe_even
    (by omega : packetHeaderWordCnt ≤ packet.frame.length / 2) (by omega)
  refine ⟨packet.frame, [], _, rfl, hnew, getType_newFromZframe hnew ?_⟩
  rw [UInt16.toNat_ofNat']
  omega

structure ReceiveInv (s : ReceiveState) : Prop where
  heap : s.ctx.heap.All Sized
  queue : ∀ msg ∈ s.inprocSocket, Queued msg

theorem outside_eq_ok {α : Type} {call : Outcome α} {value : α} :
    outside call = .ok value ↔ call = .ok value := by
  cases call with
  | ok found => simp [outside]
  | error fault => simp [outside]

theorem assertsIn_eq_ok {α : Type} {function : ReceiveFunction}
    {call : Outcome α} {value : α} :
    assertsIn function call = .ok value ↔ call = .ok value := by
  cases call with
  | ok found => simp [assertsIn]
  | error fault => cases fault <;> simp [assertsIn]

section Handling

variable {env : EventEnv} {ctx ctx' : EventCtx} {msg : Zmsg}
  {outMsg : Option Zmsg}

theorem handleInDataMsg_ok (hsized : ctx.heap.All Sized)
    (hdata : ∃ frames, msg = ascii "D" :: frames)
    (h : iothreadHandleInDataMsg env ctx msg = .ok (outMsg, ctx')) :
    ctx'.heap.All Sized ∧ ∀ out, outMsg = some out → Queued out := by
  obtain ⟨frames, rfl⟩ := hdata
  cases frames with
  | nil => cases h
  | cons frame more =>
      unfold iothreadHandleInDataMsg osdPacketNewFromFrame at h
      obtain ⟨pkg, hnew, h⟩ := bind_eq_ok.mp h
      obtain ⟨type, htype, h⟩ := bind_eq_ok.mp h
      rw [assertsIn_eq_ok] at hnew
      rw [outside_eq_ok] at htype
      have hheader := header_of_getType htype
      split at h
      · obtain ⟨⟨delivery, after⟩, hevent, h⟩ := bind_eq_ok.mp h
        rw [outside_eq_ok] at hevent
        obtain ⟨hkept, hsent⟩ := sized_receiveEvent hsized
          (sized_of_newFromZframe hnew hheader) hevent
        cases delivery with
        | none =>
            cases h
            exact ⟨hkept, by simp⟩
        | some delivery =>
            cases delivery with
            | toHandler packet =>
                cases h
                exact ⟨hkept, by simp⟩
            | toMain fwdPkg =>
                cases h
                refine ⟨hkept, ?_⟩
                intro out hout
                cases hout
                exact queued_forwarded (hsent fwdPkg rfl)
      · cases h
        refine ⟨hsized, ?_⟩
        intro out hout
        cases hout
        exact ⟨frame, more, pkg, rfl, hnew,
          getType_newFromZframe hnew hheader⟩

theorem rcvFromHostctrl_ok (hsized : ctx.heap.All Sized)
    (h : iothreadRcvFromHostctrl env ctx msg = .ok (outMsg, ctx')) :
    ctx'.heap.All Sized ∧ ∀ out, outMsg = some out → Queued out := by
  unfold iothreadRcvFromHostctrl at h
  split at h
  · cases h
  · rename_i typeFrame frames
    split at h
    · rename_i hdata
      exact handleInDataMsg_ok hsized ⟨frames, by rw [hdata]⟩ h
    · split at h
      · cases h
      · cases h

end Handling

/-! ## Every step of every run -/

section Steps

variable {env : EventEnv} {diaddr : Word} {s s' : ReceiveState}
  {event : ReceiveEvent}

theorem receiveInv_init : ReceiveInv .init where
  heap := Heap.all_empty
  queue := by simp [ReceiveState.init]

theorem ReceiveInv.step (h : ReceiveInv s)
    (hstep : Receives env diaddr s event s') : ReceiveInv s' := by
  unfold Receives at hstep
  generalize hout : (Except.ok s' : ReceiveOutcome ReceiveState) = outcome
    at hstep
  cases hstep with
  | received msg =>
      obtain ⟨⟨outMsg, ctx⟩, hrcv, hok⟩ := bind_eq_ok.mp hout.symm
      obtain ⟨hheap, hqueued⟩ := rcvFromHostctrl_ok h.heap hrcv
      cases hok
      refine ⟨hheap, ?_⟩
      intro msg hmsg
      rcases List.mem_append.mp hmsg with hold | hnew
      · exact h.queue msg hold
      · exact hqueued msg (Option.mem_toList.mp hnew)
  | @called call hidle =>
      cases call with
      | regaccess access =>
          obtain ⟨request, -, hok⟩ := bind_eq_ok.mp hout.symm
          cases hok
          exact ⟨h.heap, h.queue⟩
      | eventReceive =>
          cases hout
          exact ⟨h.heap, h.queue⟩
  | @taken call msg rest hcall hsocket =>
      have hqueue := h.queue
      rw [hsocket] at hqueue
      have hrest : ∀ msg ∈ rest, Queued msg :=
        fun msg hmsg => hqueue msg (List.mem_cons_of_mem _ hmsg)
      cases call with
      | regaccess access =>
          obtain ⟨result, -, hok⟩ := bind_eq_ok.mp hout.symm
          cases hok
          exact ⟨h.heap, hrest⟩
      | eventReceive =>
          obtain ⟨packet, -, hok⟩ := bind_eq_ok.mp hout.symm
          cases hok
          exact ⟨h.heap, hrest⟩
  | unanswered hcall =>
      cases hout
      exact ⟨h.heap, h.queue⟩

theorem receiveInv_of_runs {history : List ReceiveEvent}
    (run : Runs (Receives env diaddr) .init history s) : ReceiveInv s :=
  run.invariant (I := fun _ s => ReceiveInv s) receiveInv_init
    fun _ _ _ _ _ hinv hstep => hinv.step hstep

/-! ### Assertions -/

theorem noAssertion_ok {α : Type} (value : α) :
    NoAssertion (.ok value : ReceiveOutcome α) := by
  intro function h
  cases h

theorem noAssertion_outside {α : Type} (call : Outcome α) :
    NoAssertion (outside call) := by
  intro function h
  cases call with
  | ok value => cases h
  | error fault => cases h

theorem NoAssertion.bind {α β : Type} {call : ReceiveOutcome α}
    {next : α → ReceiveOutcome β} (h : NoAssertion call)
    (hnext : ∀ value, call = .ok value → NoAssertion (next value)) :
    NoAssertion (call >>= next) := by
  cases call with
  | ok value => exact hnext value rfl
  | error fault =>
      intro function hfault
      apply h function
      cases hfault
      rfl

theorem not_noAssertion {α : Type} (function : ReceiveFunction) :
    ¬NoAssertion (.error (.assertion function) : ReceiveOutcome α) :=
  fun h => h function rfl

theorem noAssertion_newFromFrame {frame : List Byte}
    (h : packetHeaderWordCnt ≤ frame.length / 2) :
    NoAssertion (osdPacketNewFromFrame frame) := by
  intro function hfault
  unfold osdPacketNewFromFrame osdPacketNewFromZframe at hfault
  rw [assertThat_bind h] at hfault
  dsimp only at hfault
  by_cases hinside : frame.length ≤
      2 * (osdPacketNew (frame.length / 2)).dataRaw.length
  · rw [inBounds_bind hinside] at hfault
    cases hfault
  · rw [inBounds_bind_not hinside] at hfault
    cases hfault

theorem newFromFrame_short {frame : List Byte}
    (h : ¬packetHeaderWordCnt ≤ frame.length / 2) :
    osdPacketNewFromFrame frame =
      .error (.assertion .osdPacketNewFromZframe) := by
  unfold osdPacketNewFromFrame osdPacketNewFromZframe
  rw [assertThat_bind_not h]
  rfl

theorem noAssertion_received (s : ReceiveState) {msg : Zmsg}
    (h : DataMsg msg) : NoAssertion (s.received env msg) := by
  obtain ⟨frame, more, rfl, hheader⟩ := h
  unfold ReceiveState.received iothreadRcvFromHostctrl
  dsimp only
  rw [if_pos rfl]
  unfold iothreadHandleInDataMsg
  dsimp only
  apply NoAssertion.bind
  · apply NoAssertion.bind (noAssertion_newFromFrame hheader)
    intro pkg _
    apply NoAssertion.bind (noAssertion_outside _)
    intro type _
    split
    · apply NoAssertion.bind (noAssertion_outside _)
      rintro ⟨delivery, ctx⟩ _
      dsimp only
      split
      · exact noAssertion_ok _
      · exact noAssertion_ok _
      · exact noAssertion_ok _
    · exact noAssertion_ok _
  · intro result _
    exact noAssertion_ok _

theorem assertion_of_received (s : ReceiveState) {msg : Zmsg}
    (h : ¬DataMsg msg) : ¬NoAssertion (s.received env msg) := by
  unfold ReceiveState.received iothreadRcvFromHostctrl
  cases msg with
  | nil => exact not_noAssertion _
  | cons typeFrame frames =>
      dsimp only
      split
      · rename_i hdata
        cases frames with
        | nil => exact not_noAssertion _
        | cons frame more =>
            have hshort : ¬packetHeaderWordCnt ≤ frame.length / 2 :=
              fun hheader => h ⟨frame, more, by rw [hdata], hheader⟩
            unfold iothreadHandleInDataMsg
            dsimp only
            rw [newFromFrame_short hshort]
            exact not_noAssertion _
      · split
        · exact not_noAssertion _
        · exact not_noAssertion _

theorem receivePacket_queued {frame : List Byte} {more : List (List Byte)}
    {packet : Packet} (hnew : osdPacketNewFromZframe frame = .ok packet) :
    osdHostmodReceivePacket (ascii "D" :: frame :: more) = .ok packet := by
  have hframe : osdPacketNewFromFrame frame = .ok packet := by
    rw [osdPacketNewFromFrame, assertsIn_eq_ok]
    exact hnew
  unfold osdHostmodReceivePacket assertIn
  dsimp only
  rw [if_pos rfl]
  exact hframe

theorem noAssertion_taken {call : MainCall} {frame : List Byte}
    {more : List (List Byte)} {rest : List Zmsg} {packet : Packet}
    (hnew : osdPacketNewFromZframe frame = .ok packet)
    (htype : osdPacketGetType packet = .ok (frameType frame)) :
    NoAssertion (s.taken call (ascii "D" :: frame :: more) rest) ↔
      ∀ access, call = .regaccess access →
        frameType frame = osdPacketTypeReg := by
  unfold ReceiveState.taken
  cases call with
  | eventReceive =>
      dsimp only
      rw [receivePacket_queued hnew]
      exact iff_of_true (noAssertion_ok _) (by simp)
  | regaccess access =>
      have hpacket : outside (osdPacketGetType packet) =
          .ok (frameType frame) := by
        rw [outside_eq_ok]
        exact htype
      by_cases hreg : frameType frame = osdPacketTypeReg
      · refine iff_of_true ?_ (fun _ _ => hreg)
        unfold osdHostmodRegaccess assertIn
        simp only [receivePacket_queued hnew]
        apply NoAssertion.bind
        · apply NoAssertion.bind (noAssertion_ok packet)
          intro pkgResp hpkg
          cases hpkg
          rw [hpacket]
          apply NoAssertion.bind (noAssertion_ok _)
          intro type hsame
          cases hsame
          rw [if_pos hreg]
          exact NoAssertion.bind (noAssertion_ok _)
            fun _ _ => noAssertion_outside _
        · intro result _
          exact noAssertion_ok _
      · refine iff_of_false ?_ (fun h => hreg (h access rfl))
        have hfails : osdHostmodRegaccess access
            (ascii "D" :: frame :: more) =
              .error (.assertion .osdHostmodRegaccess) := by
          unfold osdHostmodRegaccess assertIn
          rw [receivePacket_queued hnew]
          dsimp only [bind, Except.bind]
          rw [hpacket]
          dsimp only [Except.bind]
          rw [if_neg hreg]
        dsimp only
        rw [hfails]
        exact not_noAssertion _

/-- In every run, an assertion fails in a step with unexpected input only. -/
theorem receivePath_noAssertion_iff {history : List ReceiveEvent}
    {outcome : ReceiveOutcome ReceiveState}
    (run : Runs (Receives env diaddr) .init history s)
    (hstep : ReceiveStep env diaddr s event outcome) :
    NoAssertion outcome ↔ ExpectedInput s event := by
  have hinv := receiveInv_of_runs run
  cases hstep with
  | received msg =>
      constructor
      · intro hnone
        by_contra hunexpected
        exact assertion_of_received s hunexpected hnone
      · exact noAssertion_received s
  | @called call hidle =>
      refine iff_of_true ?_ trivial
      cases call with
      | regaccess access =>
          exact NoAssertion.bind (noAssertion_outside _)
            fun _ _ => noAssertion_ok _
      | eventReceive => exact noAssertion_ok _
  | @taken call msg rest hcall hsocket =>
      have hqueued : Queued msg :=
        hinv.queue msg (by rw [hsocket]; exact List.mem_cons_self)
      obtain ⟨frame, more, packet, rfl, hnew, htype⟩ := hqueued
      rw [noAssertion_taken hnew htype]
      constructor
      · intro h access typeFrame frame' more' rest' hcall' hsocket'
        rw [hsocket] at hsocket'
        rw [hcall] at hcall'
        cases hsocket'
        cases hcall'
        exact h access rfl
      · intro h access haccess
        refine h access _ frame more rest ?_ hsocket
        rw [hcall, haccess]
  | unanswered hcall => exact iff_of_true (noAssertion_ok _) trivial

end Steps

theorem receivePath_noAssertion_response :
    NoAssertion (ReceiveState.init.received ⟨bumpAllocator, false, false⟩
      [ascii "D", bytesOfWords [2, 1, 0x2000]]) := by
  have run : Runs (Receives ⟨bumpAllocator, false, false⟩ 2) .init []
      .init := .refl
  apply (receivePath_noAssertion_iff run (.received _)).mpr
  exact ⟨_, _, rfl, by decide⟩

/-- An event message that waits for the main thread. -/
def eventMsg : Zmsg := [ascii "D", bytesOfWords [2, 1, 0x8000]]

def readAccess : Access := ⟨1, 0, 16, none, true⟩

def eventWaiting (call : Option MainCall) : ReceiveState :=
  ⟨⟨⟨∅, 1⟩, .empty⟩, [eventMsg], call⟩

/-- A management message, a frame of two words, and an event in front of a
register access. -/
theorem not_receivePath_noAssertion :
    ¬NoAssertion (ReceiveState.init.received ⟨bumpAllocator, false, false⟩
        [ascii "M", ascii "ACK"]) ∧
      ¬NoAssertion (ReceiveState.init.received ⟨bumpAllocator, false, false⟩
        [ascii "D", bytesOfWords [2, 1]]) ∧
      ∃ s, Runs (Receives ⟨bumpAllocator, false, false⟩ 2) .init
          [.received eventMsg, .called (.regaccess readAccess)] s ∧
        ReceiveStep ⟨bumpAllocator, false, false⟩ 2 s .taken
          (.error (.assertion .osdHostmodRegaccess)) := by
  refine ⟨?_, ?_, ?_⟩
  · exact not_noAssertion .iothreadRcvFromHostctrl
  · exact not_noAssertion .osdPacketNewFromZframe
  · have hqueued : Receives ⟨bumpAllocator, false, false⟩ 2 .init
        (.received eventMsg) (eventWaiting none) := .received eventMsg
    have hcalled : Receives ⟨bumpAllocator, false, false⟩ 2
        (eventWaiting none) (.called (.regaccess readAccess))
        (eventWaiting (some (.regaccess readAccess))) := .called rfl
    have htaken : (eventWaiting (some (.regaccess readAccess))).taken
        (.regaccess readAccess) eventMsg [] =
          .error (.assertion .osdHostmodRegaccess) := rfl
    refine ⟨_, (Runs.single hqueued).snoc hcalled, ?_⟩
    rw [← htaken]
    exact .taken rfl rfl

end Osd.HostMod
