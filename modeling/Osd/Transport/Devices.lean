import Osd.Transport.Delivery

/-!
# From device to device

The byte streams at both ends of the network.  What a device gets decodes to
the packets that were sent to its subnet, and the packets in the stream of a
device reach the peers that they are for.
-/

namespace Osd.Transport

open Osd.Foundation Osd.HostCtrl Osd.HostMod NetEvent

variable {M G : Type} [DecidableEq M] [DecidableEq G]

/-! ## Frames of packets -/

theorem newFromZframe_frame {packet pkg : Packet}
    (h : osdPacketNewFromZframe packet.frame = .ok pkg) :
    Gateway.Packet.Sized pkg ∧ pkg.frame = packet.frame := by
  obtain ⟨-, heven, rfl⟩ := osdPacketNewFromZframe_eq_ok.mp h
  have hle := length_frame_le packet
  have hsize : (UInt16.ofNat (packet.frame.length / 2)).toNat =
      packet.frame.length / 2 := by
    rw [UInt16.toNat_ofNat']
    omega
  constructor
  · constructor
    rw [hsize, length_wordsOfBytes]
  · rw [Packet.frame, osdPacketSizeof, hsize,
      bytesOfWords_wordsOfBytes _ heven]
    exact List.take_of_length_le (by omega)

theorem frame_of_dataMessage {frame : List Byte} {pkg : Packet}
    (hmsg : DataMessage [ascii "D", frame] ∨ MgmtMessage [ascii "D", frame])
    (hpkg : osdPacketNewFromZframe frame = .ok pkg) :
    Gateway.Packet.Sized pkg ∧ pkg.frame = frame := by
  rcases hmsg with ⟨⟨packet⟩⟩ | hmgmt
  · exact newFromZframe_frame hpkg
  · generalize htype : ascii "D" = type at hmgmt
    obtain ⟨text⟩ := hmgmt
    exact absurd htype (by decide)

theorem rcvFromHostctrl_mgmt (env : EventEnv) (ctx : EventCtx)
    (text : List Byte) (result : Option Zmsg × EventCtx) :
    iothreadRcvFromHostctrl env ctx [ascii "M", text] ≠ .ok result := by
  have hne : ¬ascii "M" = ascii "D" := by decide
  unfold iothreadRcvFromHostctrl
  dsimp only
  rw [if_neg hne, if_pos rfl]
  rintro ⟨⟩

/-! ## To the device -/

/-- The packets that were written to a device, with their senders. -/
def written (g : G) : NetEvent M G → List (Peer M G × Packet)
  | .writes g' source _ pkg => if g' = g then [(source, pkg)] else []
  | _ => []

def packetFrom (source : Peer M G) (entry : Peer M G × Packet) :
    Option Packet :=
  if entry.1 = source then some entry.2 else none

/-- What the device of `g` got since `s`. -/
def writtenFrom (history : List (NetEvent M G)) (source : Peer M G) (g : G) :
    List Packet :=
  (history.flatMap (written g)).filterMap (packetFrom source)

def entryBytes (entry : Peer M G × Packet) : List Byte :=
  Gateway.dtdBytes entry.2

section ToDevice

variable {env : M → EventEnv} {ctrl : Controller (Peer M G)}
  {s s' : Network M G} {event : NetEvent M G}

theorem toDevice_step (hframed : Framed s) (hstep : NetStep env s event s')
    (g : G) :
    s'.toDevice g = s.toDevice g ++ (written g event).flatMap entryBytes ∧
      ∀ entry ∈ written g event, Gateway.Packet.Sized entry.2 := by
  cases hstep with
  | @writes g' source frame pkg rest stream hsocket hpkg hwrite =>
      have hmsg := hframed.toPeer (.gateway g') _
        (by rw [hsocket]; exact List.mem_cons_self)
      have hsized := (frame_of_dataMessage hmsg hpkg).1
      rw [Gateway.packetWriteToDevice_ok hsized] at hwrite
      cases hwrite
      by_cases hg : g' = g
      · subst hg
        simp [written, entryBytes, hsized]
      · simp [written, hg, Ne.symm hg]
  | _ => simp [written]

theorem arrivedFrames_gateway (hframed : Framed s)
    (hstep : NetStep env s event s') (source : Peer M G) (g : G) :
    arrivedFrames source (.gateway g) event =
      ((written g event).filterMap (packetFrom source)).map
        Packet.frame := by
  cases hstep with
  | @writes g' source' frame pkg rest stream hsocket hpkg hwrite =>
      have hmsg := hframed.toPeer (.gateway g') _
        (by rw [hsocket]; exact List.mem_cons_self)
      have hframe := (frame_of_dataMessage hmsg hpkg).2
      by_cases hg : g' = g
      · by_cases hsource : source' = source <;>
          simp [arrivedFrames, arrived, written, packetFrom, dataFrom, hg,
            hsource, hframe]
      · simp [arrivedFrames, arrived, written, hg]
  | @replied peer source' text rest hsocket =>
      by_cases hpeer : peer = .gateway g <;>
        simp [arrivedFrames, arrived, written, dataFrom, hpeer]
  | _ => simp [arrivedFrames, arrived, written]

theorem conveys_toDevice (g : G) :
    Conveys (Within Framed (NetStep env)) (fun s => s.toDevice g)
      (fun event => (written g event).flatMap entryBytes) (fun _ => []) :=
  fun _ _ _ hstep => (toDevice_step hstep.1 hstep.2 g).1.symm

end ToDevice

/-! ## From the device -/

/-- The stream of every device is made up of whole packets. -/
def AtBoundary (s : Network M G) : Prop :=
  ∀ g, ∃ pkgs : List Packet, (∀ pkg ∈ pkgs, Gateway.Packet.Sized pkg) ∧
    s.fromDevice g = pkgs.flatMap Gateway.dtdBytes

/-- The packets that a device sent and the gateway has not read. -/
def unread (s : Network M G) (g : G) : List Packet :=
  (Gateway.readPackets ((s.fromDevice g).length + 1) (s.fromDevice g)).1

def deviceSent (g : G) : NetEvent M G → List Packet
  | .deviceSends g' datagram => if g' = g then [datagram.toPacket] else []
  | _ => []

def readFrom (g : G) : NetEvent M G → List Packet
  | .reads g' packet => if g' = g then [packet] else []
  | _ => []

section FromDevice

variable {env : M → EventEnv} {s s' : Network M G} {event : NetEvent M G}

theorem dtdBytes_datagram (datagram : Gateway.Datagram) :
    Gateway.dtdBytes datagram.toPacket = datagram.bytes := rfl

omit [DecidableEq M] [DecidableEq G] in
theorem unread_eq {g : G} {pkgs : List Packet}
    (hsized : ∀ pkg ∈ pkgs, Gateway.Packet.Sized pkg)
    (hstream : s.fromDevice g = pkgs.flatMap Gateway.dtdBytes) :
    unread s g = pkgs := by
  have hfuel := Gateway.length_le_flatMap_dtdBytes pkgs
  rw [unread, hstream,
    Gateway.readPackets_dtdBytes hsized _ (Nat.lt_succ_of_le hfuel)]

/-- What is read is the first packet of the stream. -/
theorem readPacket_boundary {pkgs : List Packet}
    (hsized : ∀ pkg ∈ pkgs, Gateway.Packet.Sized pkg) {rv : OsdResult}
    {rcvPacket : Option Packet} {glip : Gateway.Glip} {packet : Packet}
    (hread : Gateway.readPacket (pkgs.flatMap Gateway.dtdBytes) =
      .ok (rv, rcvPacket, glip))
    (hround : Gateway.devicerxthreadRound rv rcvPacket =
      .ok (.forwarded packet)) :
    ∃ rest, pkgs = packet :: rest ∧
      glip.stream = rest.flatMap Gateway.dtdBytes := by
  cases pkgs with
  | nil =>
      rw [List.flatMap_nil, Gateway.readPacket_starved (by simp)] at hread
      cases hread
  | cons pkg rest =>
      rw [List.flatMap_cons,
        Gateway.readPacket_ok (hsized pkg List.mem_cons_self)] at hread
      cases hread
      cases hround
      exact ⟨rest, rfl, rfl⟩

theorem fromDevice_step (h : AtBoundary s) (hstep : NetStep env s event s')
    (g : G) :
    ∃ before after, (∀ pkg ∈ before, Gateway.Packet.Sized pkg) ∧
      (∀ pkg ∈ after, Gateway.Packet.Sized pkg) ∧
      s.fromDevice g = before.flatMap Gateway.dtdBytes ∧
      s'.fromDevice g = after.flatMap Gateway.dtdBytes ∧
      before ++ deviceSent g event = readFrom g event ++ after := by
  obtain ⟨pkgs, hsized, hstream⟩ := h g
  cases hstep with
  | deviceSends g' datagram =>
      by_cases hg : g' = g
      · subst hg
        refine ⟨pkgs, pkgs ++ [datagram.toPacket], hsized, ?_, hstream, ?_,
          by simp [deviceSent, readFrom]⟩
        · intro pkg hpkg
          rcases List.mem_append.mp hpkg with hold | hnew
          · exact hsized pkg hold
          · rw [List.mem_singleton.mp hnew]
            exact datagram.sized
        · simp [hstream, dtdBytes_datagram]
      · refine ⟨pkgs, pkgs, hsized, hsized, hstream, ?_,
          by simp [deviceSent, readFrom, hg]⟩
        simpa [Ne.symm hg] using hstream
  | @reads g' rv rcvPacket glip packet hread hround =>
      by_cases hg : g' = g
      · subst hg
        rw [hstream] at hread
        obtain ⟨rest, rfl, hrest⟩ :=
          readPacket_boundary hsized hread hround
        refine ⟨packet :: rest, rest, hsized, ?_, hstream, ?_,
          by simp [deviceSent, readFrom]⟩
        · exact fun pkg hpkg => hsized pkg (List.mem_cons_of_mem _ hpkg)
        · simp [hrest]
      · refine ⟨pkgs, pkgs, hsized, hsized, hstream, ?_,
          by simp [deviceSent, readFrom, hg]⟩
        simpa [Ne.symm hg] using hstream
  | _ =>
      exact ⟨pkgs, pkgs, hsized, hsized, hstream, hstream,
        by simp [deviceSent, readFrom]⟩

theorem AtBoundary.step (h : AtBoundary s) (hstep : NetStep env s event s') :
    AtBoundary s' := by
  intro g
  obtain ⟨-, after, -, hsized, -, hstream, -⟩ := fromDevice_step h hstep g
  exact ⟨after, hsized, hstream⟩

theorem conveys_fromDevice (g : G) :
    Conveys (Within AtBoundary (NetStep env)) (fun s => unread s g)
      (deviceSent g) (readFrom g) := by
  intro s event s' hstep
  obtain ⟨before, after, hbefore, hafter, hstream, hstream', hall⟩ :=
    fromDevice_step hstep.1 hstep.2 g
  dsimp only
  rw [unread_eq hbefore hstream, unread_eq hafter hstream', hall]

end FromDevice

/-! ## Whole runs -/

section Runs

variable {env : M → EventEnv} {earlier history : List (NetEvent M G)}
  {s s' : Network M G}

theorem atBoundary_of_run (run : Runs (NetStep env) .init history s) :
    AtBoundary s := by
  refine run.invariant (I := fun _ s => AtBoundary s) ?_
    fun _ _ _ _ _ hboundary hstep => hboundary.step hstep
  exact fun g => ⟨[], by simp, rfl⟩

/-- What is on its way from the device of `g`, its stream included. -/
def onTheWayFromDevice (ctrl : Controller (Peer M G)) (g : G)
    (dest : Peer M G) (s : Network M G) : List (List Byte) :=
  onTheWay ctrl (.gateway g) dest s ++
    ((unread s g).map Packet.frame).filter (isRoutedTo ctrl dest)

def deviceSentTo (earlier history : List (NetEvent M G)) (g : G)
    (dest : Peer M G) : List (List Byte) :=
  ((history.flatMap (deviceSent g)).map Packet.frame).filter fun frame =>
    routeOf earlier frame = some dest

theorem sized_written {ctrl : Controller (Peer M G)}
    (run : Runs (Within (Settled ctrl) (DataStep env)) s history s') (g : G) :
    ∀ entry ∈ history.flatMap (written g),
      Gateway.Packet.Sized entry.2 := by
  refine run.invariant (I := fun history _ => ∀ entry ∈
    history.flatMap (written g), Gateway.Packet.Sized entry.2) (by simp) ?_
  intro history before event after _ hsized hstep entry hentry
  rw [List.flatMap_append] at hentry
  rcases List.mem_append.mp hentry with hold | hnew
  · exact hsized entry hold
  · rw [List.flatMap_singleton] at hnew
    exact (toDevice_step hstep.1.1 hstep.2.1 g).2 entry hnew

omit [DecidableEq M] [DecidableEq G] in
theorem readPackets_written {entries : List (Peer M G × Packet)}
    (h : ∀ entry ∈ entries, Gateway.Packet.Sized entry.2) :
    Gateway.readPackets ((entries.flatMap entryBytes).length + 1)
        (entries.flatMap entryBytes) = (entries.map Prod.snd, []) := by
  have hbytes : entries.flatMap entryBytes =
      (entries.map Prod.snd).flatMap Gateway.dtdBytes := by
    rw [List.flatMap_map]
    rfl
  have hsized : ∀ pkg ∈ entries.map Prod.snd, Gateway.Packet.Sized pkg := by
    intro pkg hpkg
    obtain ⟨entry, hentry, rfl⟩ := List.mem_map.mp hpkg
    exact h entry hentry
  have hfuel := Gateway.length_le_flatMap_dtdBytes (entries.map Prod.snd)
  rw [hbytes, Gateway.readPackets_dtdBytes hsized _ (Nat.lt_succ_of_le hfuel)]

/-- The stream of the device is a further stage in front of the gateway. -/
theorem conveys_onTheWayFromDevice (ctrl : Controller (Peer M G)) (g : G)
    (dest : Peer M G) :
    Conveys (Within (fun s => Settled ctrl s ∧ AtBoundary s) (DataStep env))
      (onTheWayFromDevice ctrl g dest)
      (fun event => ((deviceSent g event).map Packet.frame).filter
        (isRoutedTo ctrl dest))
      (arrivedFrames (.gateway g) dest) := by
  have hnear := (((conveys_fromDevice (M := M) g).map Packet.frame).filter
    (isRoutedTo ctrl dest)).mono fun before event after
      (hstep : Within (fun s => Settled ctrl s ∧ AtBoundary s) (DataStep env)
        before event after) => ⟨hstep.1.2, hstep.2.1⟩
  have hfar := (conveys_onTheWay (.gateway g) dest).mono
    fun before event after
      (hstep : Within (fun s => Settled ctrl s ∧ AtBoundary s) (DataStep env)
        before event after) => ⟨hstep.1.1, hstep.2⟩
  refine hnear.comp (hfar.congr ?_ fun _ _ _ _ => rfl)
  intro before event after _
  cases event with
  | reads g' packet =>
      by_cases hg : g' = g <;>
        simp [readFrom, sentFrames, queued, devicerxMsg,
          Gateway.packetMessage, hg]
  | sends m packet => simp [readFrom, sentFrames, queued]
  | _ => rfl

theorem device_run (reached : Runs (NetStep env) .init earlier s)
    (run : Runs (DataStep env) s history s') (g : G) (dest : Peer M G) :
    onTheWayFromDevice s.controller g dest s ++
        deviceSentTo earlier history g dest =
      arrivedFrom history (.gateway g) dest ++
        onTheWayFromDevice s.controller g dest s' := by
  obtain ⟨hboth, -⟩ := run.within
    (I := fun s' => Settled s.controller s' ∧ AtBoundary s')
    ⟨settled_of_run reached, atBoundary_of_run reached⟩
    fun _ _ _ hstep hbefore =>
      ⟨hbefore.1.step hstep, hbefore.2.step hstep.1⟩
  have hall := (conveys_onTheWayFromDevice s.controller g dest).run hboth
  rw [← List.filter_flatMap, ← List.map_flatMap,
    isRoutedTo_eq reached] at hall
  exact hall

theorem toDevice_run (reached : Runs (NetStep env) .init earlier s)
    (run : Runs (DataStep env) s history s') (g : G) :
    (∃ bytes, s'.toDevice g = s.toDevice g ++ bytes ∧
      Gateway.readPackets (bytes.length + 1) bytes =
        ((history.flatMap (written g)).map Prod.snd, [])) ∧
    ∀ source, onTheWay s.controller source (.gateway g) s ++
        sentTo earlier history source (.gateway g) =
      (writtenFrom history source g).map Packet.frame ++
        onTheWay s.controller source (.gateway g) s' := by
  have hsettled := settled_of_run reached
  obtain ⟨hwithin, -⟩ := run.within hsettled fun _ _ _ hstep hbefore =>
    hbefore.step hstep
  constructor
  · refine ⟨(history.flatMap (written g)).flatMap entryBytes, ?_,
      readPackets_written (sized_written hwithin g)⟩
    rw [List.flatMap_assoc]
    exact (conveys_toDevice g).gathers
      (hwithin.mono fun _ _ _ hstep => ⟨hstep.1.1, hstep.2.1⟩)
  · intro source
    have hall := ((conveys_onTheWay source (.gateway g)).congr
      (fun _ _ _ _ => rfl) fun _ _ _ hstep =>
        (arrivedFrames_gateway hstep.1.1 hstep.2.1 source g).symm).run hwithin
    rw [← List.filter_flatMap, isRoutedTo_eq reached] at hall
    rw [sentTo, hall, writtenFrom, List.filterMap_flatMap, List.map_flatMap]

end Runs

end Osd.Transport
