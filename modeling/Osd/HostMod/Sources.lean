import Osd.HostMod.Reassembly
import Mathlib.Data.List.ReduceOption

/-!
# Events of one source

Packets of several sources come in any order, and one buffer holds the pending
parts of all of them.  What is delivered of one source depends on its own
packets only.
-/

namespace Osd.HostMod

open Osd.Foundation

def fromSource (src : Word) (packets : List DiPacket) : List DiPacket :=
  packets.filter fun packet => packet.src = src

def hasSource (src : Word) (packet : Packet) : Bool :=
  packet.dataRaw[1]? = some src

section Pending

variable {pending : List DiPacket} {packet : DiPacket} {src : Word}

theorem partsOf_fromSource (pending : List DiPacket) (packet : DiPacket) :
    partsOf (fromSource packet.src pending) packet =
      partsOf pending packet := by
  unfold partsOf fromSource
  rw [List.filter_filter]
  apply List.filter_congr
  intro part _
  by_cases h : part.src = packet.src <;> simp [h]

theorem pendingAfter_fromSource (h : packet.src = src) :
    fromSource src (pendingAfter pending packet) =
      pendingAfter (fromSource src pending) packet := by
  unfold pendingAfter fromSource
  split
  · simp [h]
  · split
    · rw [List.filter_filter, List.filter_filter]
      exact List.filter_congr fun part _ => Bool.and_comm _ _
    · rfl

theorem pendingAfter_otherSource (h : packet.src ≠ src) :
    fromSource src (pendingAfter pending packet) =
      fromSource src pending := by
  unfold pendingAfter fromSource
  split
  · simp [h]
  · split
    · rw [List.filter_filter]
      apply List.filter_congr
      intro part _
      by_cases hpart : part.src = src
      · simp [hpart, Ne.symm h]
      · simp [hpart]
    · rfl

end Pending

/-! ## Deliveries -/

section Deliveries

variable {packets : List DiPacket} {packet : DiPacket} {src : Word}

theorem src_assembled {parts : List DiPacket}
    (h : ∀ part ∈ parts, part.src = packet.src) :
    (assembled parts packet).dataRaw[1]? = some packet.src := by
  cases parts with
  | nil => rfl
  | cons part parts =>
      have hpart := h part List.mem_cons_self
      simp [assembled, hpart]

theorem src_expectedDelivery {pending : List DiPacket} {delivered : Packet}
    (h : expectedDelivery pending packet = some delivered) :
    delivered.dataRaw[1]? = some packet.src := by
  unfold expectedDelivery at h
  split at h
  · cases h
  · split at h
    · cases h
      apply src_assembled
      intro part hpart
      simpa using (List.mem_filter.mp hpart).2
    · cases h
      rfl

theorem expectedDelivery_fromSource (pending : List DiPacket)
    (packet : DiPacket) :
    expectedDelivery (fromSource packet.src pending) packet =
      expectedDelivery pending packet := by
  unfold expectedDelivery
  rw [partsOf_fromSource]

/-- What is delivered of a source is what its own packets make up. -/
theorem expectedDeliveries_fromSource (src : Word) (pending packets :
      List DiPacket) :
    (expectedDeliveries pending packets).reduceOption.filter
        (hasSource src) =
      (expectedDeliveries (fromSource src pending)
        (fromSource src packets)).reduceOption := by
  induction packets generalizing pending with
  | nil => rfl
  | cons packet packets ih =>
      have hrest := ih (pendingAfter pending packet)
      by_cases hsrc : packet.src = src
      · have hfirst : fromSource src (packet :: packets) =
            packet :: fromSource src packets := by
          simp [fromSource, hsrc]
        have hsame : expectedDelivery (fromSource src pending) packet =
            expectedDelivery pending packet := by
          rw [← hsrc, expectedDelivery_fromSource]
        rw [hfirst, expectedDeliveries, expectedDeliveries, hsame,
          ← pendingAfter_fromSource hsrc]
        cases hdelivery : expectedDelivery pending packet with
        | none =>
            rw [List.reduceOption_cons_of_none,
              List.reduceOption_cons_of_none, hrest]
        | some delivered =>
            have hdelivered := src_expectedDelivery hdelivery
            rw [List.reduceOption_cons_of_some,
              List.reduceOption_cons_of_some, List.filter_cons_of_pos
                (by simp [hasSource, hdelivered, hsrc]), hrest]
      · have hfirst : fromSource src (packet :: packets) =
            fromSource src packets := by
          simp [fromSource, hsrc]
        rw [hfirst, expectedDeliveries, ← pendingAfter_otherSource hsrc]
        cases hdelivery : expectedDelivery pending packet with
        | none => rw [List.reduceOption_cons_of_none, hrest]
        | some delivered =>
            have hdelivered := src_expectedDelivery hdelivery
            rw [List.reduceOption_cons_of_some, List.filter_cons_of_neg
              (by simp [hasSource, hdelivered, hsrc]), hrest]

theorem expectedDeliveries_snoc (pending packets : List DiPacket)
    (packet : DiPacket) :
    expectedDeliveries pending (packets ++ [packet]) =
      expectedDeliveries pending packets ++
        [expectedDelivery (packets.foldl pendingAfter pending) packet] := by
  induction packets generalizing pending with
  | nil => rfl
  | cons first packets ih =>
      rw [List.cons_append, expectedDeliveries, expectedDeliveries, ih]
      rfl

end Deliveries

/-! ## What holds when an event is complete -/

/-- The property holds of the pending parts and the last packet of each
event. -/
def AtLast (P : List DiPacket → DiPacket → Prop) (pending : List DiPacket) :
    List DiPacket → Prop
  | [] => True
  | packet :: packets =>
      (packet.typeSub = evLast → P (partsOf pending packet) packet) ∧
        AtLast P (pendingAfter pending packet) packets

section AtLast

variable {P : List DiPacket → DiPacket → Prop} {packet : DiPacket}
  {packets more pending : List DiPacket}

theorem AtLast.of_sources
    (h : ∀ src, AtLast P (fromSource src pending) (fromSource src packets)) :
    AtLast P pending packets := by
  induction packets generalizing pending with
  | nil => trivial
  | cons packet packets ih =>
      have hown := h packet.src
      have hfirst : fromSource packet.src (packet :: packets) =
          packet :: fromSource packet.src packets := by
        simp [fromSource]
      rw [hfirst] at hown
      refine ⟨fun hlast => ?_, ih fun src => ?_⟩
      · have hP := hown.1 hlast
        rwa [partsOf_fromSource] at hP
      · by_cases hsrc : packet.src = src
        · subst hsrc
          rw [pendingAfter_fromSource rfl]
          exact hown.2
        · have hother := h src
          rw [pendingAfter_otherSource hsrc]
          simpa [fromSource, hsrc] using hother

theorem AtLast.front (h : AtLast P pending (packets ++ more)) :
    AtLast P pending packets := by
  induction packets generalizing pending with
  | nil => trivial
  | cons first packets ih => exact ⟨h.1, ih h.2⟩

theorem AtLast.last (h : AtLast P pending (packets ++ [packet])) :
    packet.typeSub = evLast →
      P (partsOf (packets.foldl pendingAfter pending) packet) packet := by
  induction packets generalizing pending with
  | nil => exact h.1
  | cons first packets ih => exact ih h.2

end AtLast

/-! ## Events in one or two packets -/

/-- The packets that an event is sent in. -/
inductive SplitInto : DiPacket → List DiPacket → Prop
  | whole {packet : DiPacket} (hcont : packet.typeSub ≠ evCont)
      (hlast : packet.typeSub ≠ evLast) : SplitInto packet [packet]
  | last {packet : DiPacket} (hlast : packet.typeSub = evLast) :
      SplitInto (packet.withTypeSub evLast) [packet]
  | two {part last : DiPacket} (hpart : part.typeSub = evCont)
      (hlast : last.typeSub = evLast) (hsrc : part.src = last.src)
      (hfits : (part.withTypeSub evLast).payload.length +
        last.payload.length + 3 < 2 ^ 16) :
      SplitInto ((part.withTypeSub evLast).append last hfits) [part, last]

section SplitInto

variable {event : DiPacket} {parts packets : List DiPacket}
  {events : List DiPacket} {groups : List (List DiPacket)}

/-- Nothing is pending behind an event. -/
theorem SplitInto.delivered (h : SplitInto event parts)
    (rest : List DiPacket) :
    (expectedDeliveries [] (parts ++ rest)).reduceOption =
      event.toPacket :: (expectedDeliveries [] rest).reduceOption := by
  cases h with
  | whole hcont hlast =>
      simp [expectedDeliveries, expectedDelivery, pendingAfter, hcont, hlast,
        List.reduceOption_cons_of_some]
  | last hlast =>
      have hcont : ¬evLast = evCont := by decide
      simp [expectedDeliveries, expectedDelivery, pendingAfter, hlast, hcont,
        partsOf, assembled_nil, List.reduceOption_cons_of_some]
  | @two part last hpart hlast hsrc hfits =>
      have hcont : ¬evLast = evCont := by decide
      simp [expectedDeliveries, expectedDelivery, pendingAfter, hpart, hlast,
        hcont, partsOf, hsrc, assembled_single part last hfits,
        List.reduceOption_cons_of_some, List.reduceOption_cons_of_none]

/-- The part of an event that has come so far delivers nothing. -/
theorem SplitInto.pending (h : SplitInto event parts)
    (hbegun : packets <+: parts) (hshort : ¬parts <+: packets) :
    (expectedDeliveries [] packets).reduceOption = [] := by
  have hsingle (packet : DiPacket) (hone : parts = [packet]) :
      packets = [] := by
    subst hone
    have hsnoc : packets <+: [] ++ [packet] := hbegun
    rcases List.prefix_concat_iff.mp hsnoc with hall | hnone
    · exact absurd (hall ▸ List.prefix_rfl) hshort
    · exact List.prefix_nil.mp hnone
  cases h with
  | whole hcont hlast =>
      rw [hsingle event rfl]
      rfl
  | last hlast =>
      rw [hsingle _ rfl]
      rfl
  | @two part last hpart hlast hsrc hfits =>
      have hsnoc : packets <+: [part] ++ [last] := hbegun
      rcases List.prefix_concat_iff.mp hsnoc with hall | hfirst
      · exact absurd (hall ▸ List.prefix_rfl) hshort
      · have hsnoc' : packets <+: [] ++ [part] := hfirst
        rcases List.prefix_concat_iff.mp hsnoc' with rfl | hnone
        · simp [expectedDeliveries, expectedDelivery, hpart,
            List.reduceOption_cons_of_none]
        · rw [List.prefix_nil.mp hnone]
          rfl

/-- What has come of a sequence of events delivers the first of them. -/
theorem deliveries_of_prefix (h : List.Forall₂ SplitInto events groups)
    (hbegun : packets <+: groups.flatten) :
    ∃ count, (expectedDeliveries [] packets).reduceOption =
        (events.take count).map DiPacket.toPacket ∧
      (packets = groups.flatten → events.length ≤ count) := by
  induction h generalizing packets with
  | nil =>
      rw [List.flatten_nil, List.prefix_nil] at hbegun
      exact ⟨0, by rw [hbegun]; rfl, fun _ => Nat.le_refl 0⟩
  | @cons event parts events groups hsplit _ ih =>
      rw [List.flatten_cons] at hbegun ⊢
      have hparts := List.prefix_append parts groups.flatten
      by_cases hlong : parts <+: packets
      · obtain ⟨more, rfl⟩ := hlong
        rw [List.prefix_append_right_inj] at hbegun
        obtain ⟨count, hrest, hwhole⟩ := ih hbegun
        refine ⟨count + 1, ?_, fun heq => ?_⟩
        · rw [hsplit.delivered, hrest, List.take_succ_cons, List.map_cons]
        · exact Nat.succ_le_succ (hwhole (List.append_cancel_left heq))
      · have hshort : packets <+: parts :=
          (List.prefix_or_prefix_of_prefix hbegun hparts).resolve_right hlong
        refine ⟨0, hsplit.pending hshort hlong, fun heq => ?_⟩
        exact absurd (heq ▸ hparts) hlong

end SplitInto

end Osd.HostMod
