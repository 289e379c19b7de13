import Osd.Gateway.Glip

/-!
# Framing of the device stream

A packet takes two reads.  When the second one fails the length word is gone,
and what is read next is the middle of a datagram.
-/

namespace Osd.Gateway

open Osd.Foundation

abbrev GlipStep := RxStep packetReadFromDevice

def startReading (sent : List Datagram) (schedule : List GlipRead) :
    RxThread Glip :=
  ⟨⟨datagramStream sent, schedule⟩, true⟩

/-- The packets that were read are the first ones that were sent, and a failed
call leaves the stream at the start of a datagram. -/
structure KeepsFraming (sent : List Datagram) (schedule : List GlipRead) :
    Prop where
  inOrder : ∀ history thread,
    Runs GlipStep (startReading sent schedule) history thread →
      returned history <+: sent.map Datagram.toPacket
  boundary : ∀ history rv thread,
    Runs GlipStep (startReading sent schedule) (history ++ [.retried rv])
        thread →
      ∃ rest, rest <:+ sent ∧ thread.dev.stream = datagramStream rest

/-- Some datagram's length word is delivered and its data is not. -/
def dataReadFails : List Datagram → List GlipRead → Bool
  | datagram :: sent, .failed _ _ :: schedule =>
      dataReadFails (datagram :: sent) schedule
  | _ :: sent, .delivered :: .delivered :: schedule =>
      dataReadFails sent schedule
  | _ :: _, .delivered :: .failed _ _ :: _ => true
  | _, _ => false

/-! ## Between two packets -/

/-- What was returned and what is still to be read make up what was sent. -/
structure AtBoundary (sent : List Datagram) (history : List RxEvent)
    (thread : RxThread Glip) (rest : List Datagram) : Prop where
  sent_eq : ∃ front, sent = front ++ rest ∧
    returned history = front.map Datagram.toPacket
  stream : thread.dev.stream = datagramStream rest
  sporadic : ∀ read ∈ thread.dev.schedule, read.Sporadic
  intact : dataReadFails rest thread.dev.schedule = false

/-- One round on an intact stream fails at a length word or returns the next
packet. -/
theorem glipStep_cases {rest : List Datagram} {schedule : List GlipRead}
    {running : Bool} (hsporadic : ∀ read ∈ schedule, read.Sporadic)
    (hintact : dataReadFails rest schedule = false) {event : RxEvent}
    {thread : RxThread Glip}
    (h : GlipStep ⟨⟨datagramStream rest, schedule⟩, running⟩ event thread) :
    thread.dev.schedule <:+ schedule ∧
      (event = .retried osdErrorFailure ∧
          thread.dev.stream = datagramStream rest ∧
          dataReadFails rest thread.dev.schedule = false ∨
        ∃ datagram rest', rest = datagram :: rest' ∧
          event = .forwarded datagram.toPacket ∧
          thread.dev.stream = datagramStream rest' ∧
          dataReadFails rest' thread.dev.schedule = false) := by
  obtain ⟨dev, running'⟩ := thread
  obtain ⟨-, -, rv, rcvPacket, hread, hround⟩ := h
  dsimp only at hread ⊢
  match schedule, rest with
  | [], rest => cases hread
  | .failed code hcode :: schedule, rest =>
      have hcall := packetReadFromDevice_lengthFails
        (hsporadic _ List.mem_cons_self) (datagramStream rest) schedule
      rw [hcall] at hread
      cases hread
      cases hround
      refine ⟨List.suffix_cons _ _, .inl ⟨rfl, rfl, ?_⟩⟩
      cases rest with
      | nil => simp [dataReadFails]
      | cons datagram rest => simpa [dataReadFails] using hintact
  | .delivered :: schedule, [] =>
      rw [datagramStream_nil, packetReadFromDevice_starved] at hread
      cases hread
  | [.delivered], datagram :: rest =>
      rw [packetReadFromDevice_ends] at hread
      cases hread
  | .delivered :: .failed code hcode :: schedule, datagram :: rest =>
      simp [dataReadFails] at hintact
  | .delivered :: .delivered :: schedule, datagram :: rest =>
      rw [packetReadFromDevice_ok] at hread
      cases hread
      cases hround
      have hsuffix : schedule <:+ .delivered :: .delivered :: schedule :=
        ⟨[.delivered, .delivered], rfl⟩
      refine ⟨hsuffix, .inr ⟨datagram, rest, rfl, rfl, rfl, ?_⟩⟩
      simpa [dataReadFails] using hintact

theorem atBoundary_of_run {sent : List Datagram} {schedule : List GlipRead}
    (hsporadic : ∀ read ∈ schedule, read.Sporadic)
    (hintact : dataReadFails sent schedule = false)
    {history : List RxEvent} {thread : RxThread Glip}
    (run : Runs GlipStep (startReading sent schedule) history thread) :
    ∃ rest, AtBoundary sent history thread rest := by
  induction run with
  | refl => exact ⟨sent, ⟨[], rfl, rfl⟩, rfl, hsporadic, hintact⟩
  | @snoc history before after event run hstep ih =>
      obtain ⟨rest, ⟨front, hsent, hreturned⟩, hstream, hsporadic, hintact⟩ :=
        ih
      have hbefore : before =
          ⟨⟨datagramStream rest, before.dev.schedule⟩, before.running⟩ := by
        rw [← hstream]
      rw [hbefore] at hstep
      obtain ⟨hsuffix, hcases⟩ := glipStep_cases hsporadic hintact hstep
      have hsporadic' : ∀ read ∈ after.dev.schedule, read.Sporadic :=
        fun read hread => hsporadic read (hsuffix.subset hread)
      rcases hcases with ⟨rfl, hstream', hintact'⟩ |
        ⟨datagram, rest', rfl, rfl, hstream', hintact'⟩
      · refine ⟨rest, ⟨front, hsent, ?_⟩, hstream', hsporadic', hintact'⟩
        rw [returned_append, hreturned]
        simp [returned, RxEvent.packet]
      · refine ⟨rest', ⟨front ++ [datagram], by simp [hsent], ?_⟩, hstream',
          hsporadic', hintact'⟩
        rw [returned_append, hreturned]
        simp [returned, RxEvent.packet]

theorem keepsFraming_of_intact {sent : List Datagram}
    {schedule : List GlipRead}
    (hsporadic : ∀ read ∈ schedule, read.Sporadic)
    (hintact : dataReadFails sent schedule = false) :
    KeepsFraming sent schedule := by
  constructor
  · intro history thread run
    obtain ⟨rest, ⟨front, hsent, hreturned⟩, -⟩ :=
      atBoundary_of_run hsporadic hintact run
    rw [hreturned, hsent, List.map_append]
    exact List.prefix_append _ _
  · intro history rv thread run
    obtain ⟨rest, ⟨front, hsent, -⟩, hstream, -⟩ :=
      atBoundary_of_run hsporadic hintact run
    exact ⟨rest, hsent ▸ List.suffix_append front rest, hstream⟩

/-! ## In the middle of a datagram -/

theorem length_datagramStream (datagram : Datagram) (list : List Datagram) :
    (datagramStream (datagram :: list)).length =
      2 * datagram.words.length + 2 + (datagramStream list).length := by
  rw [datagramStream_cons]
  simp only [List.length_cons, List.length_append, length_streamOfWords]
  omega

theorem length_datagramStream_le {list list' : List Datagram}
    (h : list <:+ list') :
    (datagramStream list).length ≤ (datagramStream list').length := by
  obtain ⟨front, rfl⟩ := h
  simp [datagramStream]

theorem not_boundary {front : List Datagram} {datagram : Datagram}
    {list rest : List Datagram}
    (hsuffix : rest <:+ front ++ datagram :: list) :
    streamOfWords datagram.words ++ datagramStream list ≠
      datagramStream rest := by
  intro hstream
  have hlength := congrArg List.length hstream
  rw [List.length_append, length_streamOfWords] at hlength
  have hpos := datagram.pos
  have hwhole := length_datagramStream datagram list
  rcases List.suffix_or_suffix_of_suffix hsuffix
      (List.suffix_append front (datagram :: list)) with hlast | hlast
  · rcases List.suffix_cons_iff.mp hlast with rfl | hrest
    · omega
    · have hle := length_datagramStream_le hrest
      omega
  · have hle := length_datagramStream_le hlast
    omega

theorem run_into_datagram {rest : List Datagram} {schedule : List GlipRead}
    (hsporadic : ∀ read ∈ schedule, read.Sporadic)
    (hfails : dataReadFails rest schedule = true) :
    ∃ history rv thread front datagram list,
      Runs GlipStep (startReading rest schedule) (history ++ [.retried rv])
        thread ∧
      rest = front ++ datagram :: list ∧
      thread.dev.stream =
        streamOfWords datagram.words ++ datagramStream list := by
  induction rest, schedule using dataReadFails.induct with
  | case1 datagram sent code hcode schedule ih =>
      rw [dataReadFails] at hfails
      obtain ⟨history, rv, thread, front, datagram', list, run, hrest,
        hstream⟩ := ih (fun read hread =>
          hsporadic read (List.mem_cons_of_mem _ hread)) hfails
      have hstep : GlipStep
          (startReading (datagram :: sent) (.failed code hcode :: schedule))
          (.retried osdErrorFailure)
          (startReading (datagram :: sent) schedule) :=
        ⟨rfl, rfl, _, _, packetReadFromDevice_lengthFails
          (hsporadic _ List.mem_cons_self) _ _, rfl⟩
      refine ⟨.retried osdErrorFailure :: history, rv, thread, front,
        datagram', list, ?_, hrest, hstream⟩
      exact (Runs.single hstep).trans run
  | case2 datagram sent schedule ih =>
      rw [dataReadFails] at hfails
      obtain ⟨history, rv, thread, front, datagram', list, run, hrest,
        hstream⟩ := ih (fun read hread => hsporadic read
          (List.mem_cons_of_mem _ (List.mem_cons_of_mem _ hread))) hfails
      have hstep : GlipStep
          (startReading (datagram :: sent)
            (.delivered :: .delivered :: schedule))
          (.forwarded datagram.toPacket) (startReading sent schedule) :=
        ⟨rfl, rfl, _, _, packetReadFromDevice_ok datagram sent schedule, rfl⟩
      refine ⟨.forwarded datagram.toPacket :: history, rv, thread,
        datagram :: front, datagram', list, ?_, by rw [hrest]; rfl, hstream⟩
      exact (Runs.single hstep).trans run
  | case3 datagram sent code hcode schedule =>
      have hcode' : (GlipRead.failed code hcode).Sporadic :=
        hsporadic _ (by simp)
      have hread :=
        packetReadFromDevice_dataFails hcode' datagram sent schedule
      have hstep : GlipStep
          (startReading (datagram :: sent)
            (.delivered :: .failed code hcode :: schedule))
          (.retried osdErrorFailure)
          ⟨⟨streamOfWords datagram.words ++ datagramStream sent, schedule⟩,
            true⟩ :=
        ⟨rfl, rfl, _, _, hread, rfl⟩
      exact ⟨[], _, _, [], datagram, sent, Runs.single hstep, rfl, rfl⟩
  | case4 sent schedule hlength hnext hdata =>
      rw [dataReadFails.eq_4 _ _ hlength hnext hdata] at hfails
      cases hfails

/-- The framing is kept exactly when no read of a packet's data fails. -/
theorem keepsFraming_iff {schedule : List GlipRead}
    (hsporadic : ∀ read ∈ schedule, read.Sporadic) (sent : List Datagram) :
    KeepsFraming sent schedule ↔ dataReadFails sent schedule = false := by
  constructor
  · intro hkeeps
    by_contra hnot
    have hfails : dataReadFails sent schedule = true := by simpa using hnot
    obtain ⟨history, rv, thread, front, datagram, list, run, hsent, hstream⟩ :=
      run_into_datagram hsporadic hfails
    obtain ⟨rest, hsuffix, hboundary⟩ := hkeeps.boundary history rv thread run
    rw [hsent] at hsuffix
    exact not_boundary hsuffix (hstream.symm.trans hboundary)
  · exact keepsFraming_of_intact hsporadic

/-- A datagram of one word, of which the length is read at the second try. -/
theorem keepsFraming_iff_single :
    KeepsFraming [⟨[7], by decide, by decide⟩]
        [.failed (-1) (by decide), .delivered, .delivered] ↔
      dataReadFails [⟨[7], by decide, by decide⟩]
        [.failed (-1) (by decide), .delivered, .delivered] = false := by
  apply keepsFraming_iff
  decide

/-- When the read of its data fails once, the first word of the datagram is
taken for a length. -/
theorem not_keepsFraming_dataFailed :
    ¬∀ sent schedule, (∀ read ∈ schedule, GlipRead.Sporadic read) →
      KeepsFraming sent schedule := by
  intro hall
  have hkeeps := hall [⟨[1, 0xAAAA], by decide, by decide⟩]
    [.delivered, .failed (-1) (by decide), .delivered, .delivered] (by decide)
  have hfirst : GlipStep
      (startReading [⟨[1, 0xAAAA], by decide, by decide⟩]
        [.delivered, .failed (-1) (by decide), .delivered, .delivered])
      (.retried osdErrorFailure)
      ⟨⟨[0x00, 0x01, 0xAA, 0xAA], [.delivered, .delivered]⟩, true⟩ :=
    ⟨rfl, rfl, _, _, rfl, rfl⟩
  have hsecond : GlipStep
      ⟨⟨[0x00, 0x01, 0xAA, 0xAA], [.delivered, .delivered]⟩, true⟩
      (.forwarded ⟨1, [0xAAAA]⟩) ⟨⟨[], []⟩, true⟩ :=
    ⟨rfl, rfl, _, _, rfl, rfl⟩
  have hprefix := hkeeps.inOrder _ _
    ((Runs.single hfirst).trans (Runs.single hsecond))
  revert hprefix
  decide

end Osd.Gateway
