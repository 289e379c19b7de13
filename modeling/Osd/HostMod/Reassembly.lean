import Osd.HostMod.EventBuffer

/-!
# Reassembly of events

As long as at most one part waits for the last packet of its source, every
event is delivered once and whole, and the buffer holds the pending parts.  A
second part is freed and stays in the buffer.
-/

namespace Osd.HostMod

open Osd.Foundation

/-- The buffer holds live packets, each at an address of its own. -/
structure Buffered (ctx : EventCtx) (entries : List (Address × DiPacket)) :
    Prop where
  items : ctx.eventReassemblyBuf.items = entries.map Prod.fst
  live : ∀ entry ∈ entries, ctx.heap.get entry.1 = .ok entry.2.toPacket
  nodup : (entries.map Prod.fst).Nodup

/-- The deliveries are the expected ones, and the buffer holds exactly the
pending parts. -/
def Reassembles (env : EventEnv) (packets : List DiPacket) : Prop :=
  ∃ ctx entries,
    receiveEvents env .empty packets =
      .ok ((expectedDeliveries [] packets).map fun delivery =>
        delivery.map env.deliver, ctx) ∧
    Buffered ctx entries ∧ entries.map Prod.snd = pendingOf packets

/-- When the last packet of an event comes, at most one part is pending. -/
def SinglePart (pending : List DiPacket) : List DiPacket → Prop
  | [] => True
  | packet :: packets =>
      (packet.typeSub = evLast → (partsOf pending packet).length ≤ 1) ∧
        SinglePart (pendingAfter pending packet) packets

/-- No event outgrows the size field of a packet. -/
def EventsFit (pending : List DiPacket) : List DiPacket → Prop
  | [] => True
  | packet :: packets =>
      (packet.typeSub = evLast →
        (payloadOf (partsOf pending packet ++ [packet])).length + 3 <
          2 ^ 16) ∧
        EventsFit (pendingAfter pending packet) packets

/-! ## The loop -/

section Loop

variable {env : EventEnv} {pkg : Address} {last : DiPacket}

theorem reassemble_skip (skipped rest : List (Address × DiPacket))
    (fuel : Nat) {ctx : EventCtx} {before : List Address}
    (hlast : ctx.heap.get pkg = .ok last.toPacket)
    (hbetween : ctx.eventReassemblyBuf.Between before
      ((skipped ++ rest).map Prod.fst))
    (hlive : ∀ entry ∈ skipped, ctx.heap.get entry.1 = .ok entry.2.toPacket)
    (hother : ∀ entry ∈ skipped, entry.2.src ≠ last.src)
    (fwdPkg : Option Address) :
    ∃ list, reassemble env pkg (skipped.length + fuel) ctx fwdPkg
          ((skipped ++ rest).map Prod.fst).head? =
        reassemble env pkg fuel { ctx with eventReassemblyBuf := list } fwdPkg
          (rest.map Prod.fst).head? ∧
      list.Between (before ++ skipped.map Prod.fst) (rest.map Prod.fst) := by
  induction skipped generalizing ctx before with
  | nil =>
      refine ⟨ctx.eventReassemblyBuf, ?_, ?_⟩
      · rw [List.length_nil, Nat.zero_add]
        rfl
      · rw [List.map_nil, List.append_nil]
        exact hbetween
  | cons entry skipped ih =>
      rw [List.cons_append, List.map_cons] at hbetween ⊢
      obtain ⟨hhead, hnext⟩ := hbetween.next env.restart
      have hne : entry.2.src.toNat ≠ last.src.toNat := by
        intro heq
        exact hother entry List.mem_cons_self (UInt16.toNat_inj.mp heq)
      obtain ⟨list, hrest, hbetween'⟩ := @ih
        ⟨ctx.heap, (ctx.eventReassemblyBuf.next env.restart).2⟩ _ hlast hnext
        (fun e he => hlive e (List.mem_cons_of_mem _ he))
        (fun e he => hother e (List.mem_cons_of_mem _ he))
      refine ⟨list, ?_, ?_⟩
      · rw [List.length_cons, Nat.add_right_comm, List.head?_cons, reassemble,
          hlive entry List.mem_cons_self, ok_bind, hlast, ok_bind,
          DiPacket.getSrc_toPacket, ok_bind, DiPacket.getSrc_toPacket,
          ok_bind, if_pos hne, ← hrest, ← hhead]
      · rw [List.map_cons, List.append_cons]
        exact hbetween'

theorem reassemble_end (fuel : Nat) (ctx : EventCtx)
    (fwdPkg : Option Address) :
    reassemble env pkg fuel ctx fwdPkg none = .ok (fwdPkg, ctx) := by
  cases fuel <;> rfl

theorem reassemble_none {ctx : EventCtx}
    {entries : List (Address × DiPacket)} (hbuffered : Buffered ctx entries)
    (hlast : ctx.heap.get pkg = .ok last.toPacket)
    (hother : ∀ entry ∈ entries, entry.2.src ≠ last.src) :
    ∃ list, reassemble env pkg ctx.eventReassemblyBuf.items.length
          { ctx with eventReassemblyBuf := ctx.eventReassemblyBuf.first.2 }
          none ctx.eventReassemblyBuf.first.1 =
        .ok (none, { ctx with eventReassemblyBuf := list }) ∧
      list.items = entries.map Prod.fst := by
  obtain ⟨hhead, hbetween⟩ := ctx.eventReassemblyBuf.first_between
  rw [hbuffered.items] at hhead hbetween ⊢
  obtain ⟨list, hskip, hbetween'⟩ := @reassemble_skip env pkg last entries []
    0 ⟨ctx.heap, ctx.eventReassemblyBuf.first.2⟩ [] hlast
    (by simpa using hbetween) hbuffered.live hother none
  refine ⟨list, ?_, ?_⟩
  · rw [hhead, List.length_map]
    rw [List.append_nil, Nat.add_zero] at hskip
    exact hskip.trans (reassemble_end 0 _ none)
  · simpa using hbetween'.items

/-- The first part of an event is marked as its last one. -/
theorem reassemble_first {heap : Heap Packet} {list : CursorList Address}
    {address : Address} {part : DiPacket} (fuel : Nat)
    (hlast : heap.get pkg = .ok last.toPacket)
    (hlive : heap.get address = .ok part.toPacket)
    (hpart : part.src = last.src) {heap' : Heap Packet}
    (hset : heap.set address (part.withTypeSub evLast).toPacket =
      .ok heap') :
    reassemble env pkg (fuel + 1) ⟨heap, list⟩ none (some address) =
      reassemble env pkg fuel
        ⟨heap', ((list.remove address).next env.restart).2⟩ (some address)
        ((list.remove address).next env.restart).1 := by
  have hsrc : ¬part.src.toNat ≠ last.src.toNat := by simp [hpart]
  rw [reassemble]
  dsimp only
  rw [hlive, ok_bind, hlast, ok_bind, DiPacket.getSrc_toPacket, ok_bind,
    DiPacket.getSrc_toPacket, ok_bind, if_neg hsrc, takePart, hlive,
    ok_bind, DiPacket.setTypeSub_toPacket _ (by decide), ok_bind, hset]
  rfl

/-- The parts behind the one that was taken are passed by. -/
theorem reassemble_behind {heap heap' : Heap Packet}
    {list : CursorList Address} {front : List Address} {address : Address}
    {object : Packet} {others : List (Address × DiPacket)}
    (hlast : heap.get pkg = .ok last.toPacket) (hpkg : pkg ≠ address)
    (hset : heap.set address object = .ok heap')
    (hlive : ∀ entry ∈ others, heap.get entry.1 = .ok entry.2.toPacket)
    (hbehind : address ∉ others.map Prod.fst)
    (hothers : ∀ entry ∈ others, entry.2.src ≠ last.src)
    (hwalk : list.Between front (others.map Prod.fst))
    (fwdPkg : Option Address) :
    ∃ list', reassemble env pkg others.length ⟨heap', list⟩ fwdPkg
        (others.map Prod.fst).head? = .ok (fwdPkg, ⟨heap', list'⟩) ∧
      list'.items = front ++ others.map Prod.fst := by
  have hlive' : ∀ entry ∈ others,
      heap'.get entry.1 = .ok entry.2.toPacket := by
    intro entry hentry
    have hne : entry.1 ≠ address := by
      rintro rfl
      exact hbehind (List.mem_map_of_mem hentry)
    rw [Heap.get_set_ne hset hne]
    exact hlive entry hentry
  obtain ⟨list', hskip, hlist⟩ := @reassemble_skip env pkg last others [] 0
    ⟨heap', list⟩ front ((Heap.get_set_ne hset hpkg).trans hlast)
    (by rwa [List.append_nil]) hlive' hothers fwdPkg
  rw [List.append_nil, Nat.add_zero] at hskip
  refine ⟨list', hskip.trans (reassemble_end 0 _ _), ?_⟩
  simpa using hlist.items

theorem reassemble_single {ctx : EventCtx}
    {skipped others : List (Address × DiPacket)} {address : Address}
    {part : DiPacket}
    (hbuffered : Buffered ctx (skipped ++ (address, part) :: others))
    (hlast : ctx.heap.get pkg = .ok last.toPacket)
    (hpkg : pkg ∉ (skipped ++ (address, part) :: others).map Prod.fst)
    (hskipped : ∀ entry ∈ skipped, entry.2.src ≠ last.src)
    (hpart : part.src = last.src)
    (hothers : ∀ entry ∈ others, entry.2.src ≠ last.src) :
    ∃ heap list,
      reassemble env pkg ctx.eventReassemblyBuf.items.length
          { ctx with eventReassemblyBuf := ctx.eventReassemblyBuf.first.2 }
          none ctx.eventReassemblyBuf.first.1 =
        .ok (some address, ⟨heap, list⟩) ∧
      ctx.heap.set address (part.withTypeSub evLast).toPacket = .ok heap ∧
      list.items = (skipped ++ others).map Prod.fst := by
  obtain ⟨hhead, hbetween⟩ := ctx.eventReassemblyBuf.first_between
  rw [hbuffered.items] at hhead hbetween
  have hlive : ctx.heap.get address = .ok part.toPacket :=
    hbuffered.live (address, part) (by simp)
  have hset : ctx.heap.set address (part.withTypeSub evLast).toPacket =
    .ok _ := Heap.set_eq_ok hlive
  generalize Heap.mk _ _ = heap at hset
  obtain ⟨list, hskip, hlist⟩ := @reassemble_skip env pkg last skipped
    ((address, part) :: others) (others.length + 1)
    ⟨ctx.heap, ctx.eventReassemblyBuf.first.2⟩ [] hlast hbetween
    (fun entry hentry => hbuffered.live entry (by simp [hentry]))
    hskipped none
  rw [List.nil_append, List.map_cons] at hlist
  have hnodup := hbuffered.nodup
  rw [List.map_append, List.map_cons, List.nodup_append] at hnodup
  obtain ⟨-, hback, hdisjoint⟩ := hnodup
  have hfirst : address ∉ skipped.map Prod.fst := fun hmem =>
    hdisjoint address hmem address List.mem_cons_self rfl
  have hbehind : address ∉ others.map Prod.fst := (List.nodup_cons.mp hback).1
  have hpkg' : pkg ≠ address := fun heq => hpkg (by simp [heq])
  have hstart : reassemble env pkg ctx.eventReassemblyBuf.items.length
        { ctx with eventReassemblyBuf := ctx.eventReassemblyBuf.first.2 }
        none ctx.eventReassemblyBuf.first.1 =
      reassemble env pkg (others.length + 1) ⟨ctx.heap, list⟩ none
        (some address) := by
    rw [hhead, hbuffered.items, List.length_map, List.length_append,
      List.length_cons]
    exact hskip
  rw [List.map_append, hstart,
    reassemble_first others.length hlast hlive hpart hset]
  obtain ⟨hitems, hnone | ⟨hnext, hwalk⟩⟩ :=
    hlist.next_remove hfirst env.restart
  · rw [hnone]
    exact ⟨heap, _, reassemble_end _ _ _, hset, hitems⟩
  · rw [hnext]
    obtain ⟨list', hrest, hitems'⟩ := reassemble_behind hlast hpkg' hset
      (fun entry hentry => hbuffered.live entry (by simp [hentry]))
      hbehind hothers hwalk (some address)
    exact ⟨heap, list', hrest, hset, hitems'⟩

end Loop

/-! ## One packet -/

theorem payloadOf_append (parts parts' : List DiPacket) :
    payloadOf (parts ++ parts') = payloadOf parts ++ payloadOf parts' :=
  List.flatMap_append

@[simp] theorem payloadOf_singleton (part : DiPacket) :
    payloadOf [part] = part.payload := by
  simp [payloadOf]

theorem assembled_nil (last : DiPacket) :
    assembled [] last = (last.withTypeSub evLast).toPacket := by
  simp [assembled, DiPacket.toPacket, DiPacket.withTypeSub]

theorem assembled_single (part last : DiPacket)
    (hfits : (part.withTypeSub evLast).payload.length +
      last.payload.length + 3 < 2 ^ 16) :
    assembled [part] last =
      ((part.withTypeSub evLast).append last hfits).toPacket := by
  simp [assembled, payloadOf, DiPacket.toPacket, DiPacket.withTypeSub,
    DiPacket.append]

theorem combineAt_eq {alloc : Allocator} {heap : Heap Packet}
    {first second : Address} {part last : DiPacket}
    (hfirst : heap.get first = .ok part.toPacket)
    (hsecond : heap.get second = .ok last.toPacket) (hne : second ≠ first)
    (hfits : part.payload.length + last.payload.length + 3 < 2 ^ 16) :
    ∃ fwdPkg heap',
      combineAt alloc heap first second = .ok (fwdPkg, heap') ∧
      heap'.get fwdPkg = .ok (part.append last hfits).toPacket ∧
      ∀ other kept, other ≠ first → heap.get other = .ok kept →
        heap'.get other = .ok kept ∧ other ≠ fwdPkg := by
  obtain ⟨fwdPkg, heap', hrealloc, hget, hframe⟩ :=
    Heap.realloc_eq_ok hfirst alloc (part.append last hfits).toPacket
  refine ⟨fwdPkg, heap', ?_, hget, hframe⟩
  rw [combineAt, hfirst, ok_bind, hsecond, ok_bind,
    DiPacket.combine_toPacket part last hfits, ok_bind, hrealloc, ok_bind]
  dsimp only
  rw [(hframe second _ hne hsecond).1, ok_bind]

theorem forwardPkg_eq (env : EventEnv) {ctx : EventCtx} {fwdPkg : Address}
    {packet : Packet} (h : ctx.heap.get fwdPkg = .ok packet) :
    ∃ heap, forwardPkg env ctx fwdPkg =
        .ok (some (env.deliver packet), { ctx with heap }) ∧
      ∀ other, other ≠ fwdPkg → heap.get other = ctx.heap.get other := by
  have hfree := Heap.free_eq_ok h
  generalize Heap.mk _ _ = heap at hfree
  refine ⟨heap, ?_, fun other hne => Heap.get_free_ne hfree hne⟩
  rw [forwardPkg, h, ok_bind, hfree, ok_bind]

theorem Buffered.frame {ctx ctx' : EventCtx}
    {entries kept : List (Address × DiPacket)} (h : Buffered ctx entries)
    (hkept : kept.Sublist entries)
    (hitems : ctx'.eventReassemblyBuf.items = kept.map Prod.fst)
    (hheap : ∀ entry ∈ kept,
      ctx.heap.get entry.1 = .ok entry.2.toPacket →
        ctx'.heap.get entry.1 = .ok entry.2.toPacket) :
    Buffered ctx' kept where
  items := hitems
  live := fun entry hentry =>
    hheap entry hentry (h.live entry (hkept.subset hentry))
  nodup := h.nodup.sublist (hkept.map Prod.fst)

section Handle

variable (env : EventEnv) {ctx : EventCtx} {pkg : Address}
  {packet : DiPacket} {entries : List (Address × DiPacket)}
  (hbuffered : Buffered ctx entries)
  (hget : ctx.heap.get pkg = .ok packet.toPacket)
  (hpkg : pkg ∉ entries.map Prod.fst)

include hbuffered hget hpkg

theorem handle_cont (hcont : packet.typeSub = evCont) :
    ∃ ctx', iothreadHandleInEventpkg env ctx pkg = .ok (none, ctx') ∧
      Buffered ctx' (entries ++ [(pkg, packet)]) := by
  refine ⟨⟨ctx.heap, ctx.eventReassemblyBuf.append pkg⟩, ?_, ?_, ?_, ?_⟩
  · rw [iothreadHandleInEventpkg, hget, ok_bind,
      DiPacket.getTypeSub_toPacket, ok_bind, if_pos hcont]
  · simp [CursorList.append, hbuffered.items]
  · intro entry hentry
    rcases List.mem_append.mp hentry with hold | hnew
    · exact hbuffered.live entry hold
    · rw [List.mem_singleton.mp hnew]
      exact hget
  · rw [List.map_append, List.map_singleton]
    exact List.nodup_append.mpr ⟨hbuffered.nodup, List.nodup_singleton _,
      fun a ha b hb heq => hpkg (by
        rwa [heq, List.mem_singleton.mp hb] at ha)⟩

theorem handle_other (hcont : packet.typeSub ≠ evCont)
    (hlast : packet.typeSub ≠ evLast) :
    ∃ ctx', iothreadHandleInEventpkg env ctx pkg =
        .ok (some (env.deliver packet.toPacket), ctx') ∧
      Buffered ctx' entries := by
  obtain ⟨heap, hforward, hframe⟩ := forwardPkg_eq env hget
  refine ⟨{ ctx with heap }, ?_, hbuffered.frame (.refl _) hbuffered.items ?_⟩
  · rw [iothreadHandleInEventpkg, hget, ok_bind,
      DiPacket.getTypeSub_toPacket, ok_bind, if_neg hcont, if_pos hlast,
      hforward]
  · intro entry hentry hlive
    have hne : entry.1 ≠ pkg := by
      rintro rfl
      exact hpkg (List.mem_map_of_mem hentry)
    exact (hframe _ hne).trans hlive

theorem handle_last_none (hlast : packet.typeSub = evLast)
    (hother : ∀ entry ∈ entries, entry.2.src ≠ packet.src) :
    ∃ ctx', iothreadHandleInEventpkg env ctx pkg =
        .ok (some (env.deliver (assembled [] packet)), ctx') ∧
      Buffered ctx' entries := by
  obtain ⟨list, hloop, hitems⟩ := reassemble_none hbuffered hget hother
  have hset : ctx.heap.set pkg (packet.withTypeSub evLast).toPacket = .ok _ :=
    Heap.set_eq_ok hget
  generalize Heap.mk _ _ = heap at hset
  obtain ⟨heap', hforward, hframe⟩ := @forwardPkg_eq env ⟨heap, list⟩ pkg _
    (Heap.get_set hset)
  refine ⟨⟨heap', list⟩, ?_, hbuffered.frame (.refl _) hitems ?_⟩
  · rw [iothreadHandleInEventpkg, hget, ok_bind,
      DiPacket.getTypeSub_toPacket, ok_bind, hlast, if_neg (by decide),
      if_neg (by decide)]
    dsimp only
    rw [hloop, ok_bind]
    dsimp only
    rw [hget, ok_bind, DiPacket.setTypeSub_toPacket _ (by decide), ok_bind,
      hset, ok_bind, hforward, assembled_nil]
  · intro entry hentry hlive
    have hne : entry.1 ≠ pkg := by
      rintro rfl
      exact hpkg (List.mem_map_of_mem hentry)
    exact (hframe _ hne).trans ((Heap.get_set_ne hset hne).trans hlive)

end Handle

theorem handle_last_single (env : EventEnv) {ctx : EventCtx} {pkg : Address}
    {packet part : DiPacket} {address : Address}
    {skipped others : List (Address × DiPacket)}
    (hbuffered : Buffered ctx (skipped ++ (address, part) :: others))
    (hget : ctx.heap.get pkg = .ok packet.toPacket)
    (hpkg : pkg ∉ (skipped ++ (address, part) :: others).map Prod.fst)
    (hlast : packet.typeSub = evLast)
    (hskipped : ∀ entry ∈ skipped, entry.2.src ≠ packet.src)
    (hpart : part.src = packet.src)
    (hothers : ∀ entry ∈ others, entry.2.src ≠ packet.src)
    (hfits : (payloadOf ([part] ++ [packet])).length + 3 < 2 ^ 16) :
    ∃ ctx', iothreadHandleInEventpkg env ctx pkg =
        .ok (some (env.deliver (assembled [part] packet)), ctx') ∧
      Buffered ctx' (skipped ++ others) := by
  obtain ⟨heap, list, hloop, hset, hitems⟩ :=
    reassemble_single hbuffered hget hpkg hskipped hpart hothers
  have hne : pkg ≠ address := fun heq => hpkg (by simp [heq])
  have hfits' : (part.withTypeSub evLast).payload.length +
      packet.payload.length + 3 < 2 ^ 16 := by
    rw [payloadOf_append, List.length_append, payloadOf_singleton,
      payloadOf_singleton] at hfits
    exact hfits
  have hpkgLive : heap.get pkg = .ok packet.toPacket :=
    (Heap.get_set_ne hset hne).trans hget
  obtain ⟨fwdPkg, heap₁, hcombine, hcombined, hframe₁⟩ := @combineAt_eq
    env.alloc heap address pkg _ packet (Heap.get_set hset) hpkgLive hne hfits'
  obtain ⟨hpkgLive₁, hpkgFwd⟩ := hframe₁ pkg _ hne hpkgLive
  have hfree := Heap.free_eq_ok hpkgLive₁
  generalize Heap.mk _ _ = heap₂ at hfree
  obtain ⟨heap₃, hforward, hframe₃⟩ := @forwardPkg_eq env ⟨heap₂, list⟩ fwdPkg
    _ ((Heap.get_free_ne hfree hpkgFwd.symm).trans hcombined)
  have hkept : (skipped ++ others).Sublist
      (skipped ++ (address, part) :: others) :=
    (List.sublist_cons_self _ _).append_left skipped
  refine ⟨⟨heap₃, list⟩, ?_, hbuffered.frame hkept hitems ?_⟩
  · rw [iothreadHandleInEventpkg, hget, ok_bind,
      DiPacket.getTypeSub_toPacket, ok_bind, hlast, if_neg (by decide),
      if_neg (by decide)]
    dsimp only
    rw [hloop, ok_bind]
    dsimp only
    rw [hcombine, ok_bind]
    dsimp only
    rw [hfree, ok_bind, hforward, assembled_single part packet hfits']
  · intro entry hentry hlive
    have hmem : entry.1 ∈ (skipped ++ others).map Prod.fst :=
      List.mem_map_of_mem hentry
    have haddress : entry.1 ≠ address := by
      have hnodup := hbuffered.nodup
      rw [List.map_append, List.map_cons, List.nodup_middle,
        List.nodup_cons] at hnodup
      rintro rfl
      exact hnodup.1 (by rwa [List.map_append] at hmem)
    have hpkg' : entry.1 ≠ pkg := by
      rintro rfl
      exact hpkg ((hkept.map Prod.fst).subset hmem)
    obtain ⟨hlive₁, hfwd⟩ := hframe₁ entry.1 _ haddress
      ((Heap.get_set_ne hset haddress).trans hlive)
    exact (hframe₃ _ hfwd).trans ((Heap.get_free_ne hfree hpkg').trans hlive₁)

theorem not_src_of_filter {entries : List (Address × DiPacket)}
    {packet : DiPacket}
    (h : partsOf (entries.map Prod.snd) packet = []) :
    ∀ entry ∈ entries, entry.2.src ≠ packet.src := by
  intro entry hentry heq
  have hmem : entry.2 ∈ partsOf (entries.map Prod.snd) packet :=
    List.mem_filter.mpr ⟨List.mem_map_of_mem hentry, by simp [heq]⟩
  rw [h] at hmem
  exact List.not_mem_nil hmem

theorem pendingAfter_last {pending : List DiPacket} {packet : DiPacket}
    (hlast : packet.typeSub = evLast) :
    pendingAfter pending packet =
      pending.filter fun part => part.src != packet.src := by
  rw [pendingAfter, hlast, if_neg (by decide), if_pos rfl]

theorem filter_other {entries : List (Address × DiPacket)}
    {packet : DiPacket}
    (h : ∀ entry ∈ entries, entry.2.src ≠ packet.src) :
    (entries.map Prod.snd).filter (fun part => part.src != packet.src) =
      entries.map Prod.snd := by
  rw [List.filter_eq_self]
  intro part hpart
  obtain ⟨entry, hentry, rfl⟩ := List.mem_map.mp hpart
  simpa using h entry hentry

theorem single_part {entries : List (Address × DiPacket)}
    {packet part : DiPacket}
    (h : partsOf (entries.map Prod.snd) packet = [part]) :
    ∃ skipped address others,
      entries = skipped ++ (address, part) :: others ∧
      (∀ entry ∈ skipped, entry.2.src ≠ packet.src) ∧
      part.src = packet.src ∧
      ∀ entry ∈ others, entry.2.src ≠ packet.src := by
  rw [partsOf, List.filter_map, List.map_eq_singleton_iff] at h
  obtain ⟨⟨address, part'⟩, hfilter, rfl⟩ := h
  obtain ⟨skipped, others, hentries, hskipped, hpart, hothers⟩ :=
    List.filter_eq_cons_iff.mp hfilter
  rw [List.filter_eq_nil_iff] at hothers
  refine ⟨skipped, address, others, hentries, ?_, by simpa using hpart, ?_⟩
  · intro entry hentry
    simpa using hskipped entry hentry
  · intro entry hentry
    simpa using hothers entry hentry

theorem receiveEvent_eq (env : EventEnv) {ctx : EventCtx}
    {entries : List (Address × DiPacket)} (hbuffered : Buffered ctx entries)
    {packet : DiPacket}
    (hsingle : packet.typeSub = evLast →
      (partsOf (entries.map Prod.snd) packet).length ≤ 1)
    (hfits : packet.typeSub = evLast →
      (payloadOf (partsOf (entries.map Prod.snd) packet ++
        [packet])).length + 3 < 2 ^ 16) :
    ∃ ctx' entries',
      receiveEvent env ctx packet.toPacket =
        .ok ((expectedDelivery (entries.map Prod.snd) packet).map env.deliver,
          ctx') ∧
      Buffered ctx' entries' ∧
      entries'.map Prod.snd =
        pendingAfter (entries.map Prod.snd) packet := by
  obtain ⟨pkg, heap, hmalloc, hget, hframe⟩ :=
    ctx.heap.malloc_eq env.alloc packet.toPacket
  have hbuffered' : Buffered { ctx with heap } entries :=
    hbuffered.frame (.refl _) hbuffered.items
      fun entry _ hlive => (hframe entry.1 _ hlive).1
  have hpkg : pkg ∉ entries.map Prod.fst := by
    intro hmem
    obtain ⟨entry, hentry, heq⟩ := List.mem_map.mp hmem
    exact (hframe entry.1 _ (hbuffered.live entry hentry)).2 heq
  rw [receiveEvent, hmalloc]
  dsimp only
  by_cases hcont : packet.typeSub = evCont
  · obtain ⟨ctx', hhandle, hafter⟩ := handle_cont env hbuffered' hget hpkg
      hcont
    refine ⟨ctx', _, ?_, hafter, ?_⟩
    · rw [hhandle, expectedDelivery, if_pos hcont]
      rfl
    · rw [pendingAfter, if_pos hcont]
      simp
  by_cases hlast : packet.typeSub = evLast
  · rw [expectedDelivery, if_neg hcont, if_pos hlast,
      pendingAfter_last hlast]
    have hle := hsingle hlast
    have hfits' := hfits hlast
    rcases hparts : partsOf (entries.map Prod.snd) packet with _ | ⟨part, more⟩
    · have hother := not_src_of_filter hparts
      obtain ⟨ctx', hhandle, hafter⟩ := handle_last_none env hbuffered' hget
        hpkg hlast hother
      exact ⟨ctx', entries, hhandle, hafter, (filter_other hother).symm⟩
    · rw [hparts] at hle hfits'
      obtain rfl : more = [] := by
        apply List.eq_nil_of_length_eq_zero
        simpa using hle
      obtain ⟨skipped, address, others, rfl, hskipped, hpart, hothers⟩ :=
        single_part hparts
      obtain ⟨ctx', hhandle, hafter⟩ := handle_last_single env hbuffered'
        hget hpkg hlast hskipped hpart hothers hfits'
      refine ⟨ctx', skipped ++ others, hhandle, hafter, ?_⟩
      rw [List.map_append, List.map_append, List.filter_append,
        filter_other hskipped, List.map_cons, List.filter_cons_of_neg,
        filter_other hothers]
      simp [hpart]
  · obtain ⟨ctx', hhandle, hafter⟩ := handle_other env hbuffered' hget hpkg
      hcont hlast
    refine ⟨ctx', entries, ?_, hafter, ?_⟩
    · rw [hhandle, expectedDelivery, if_neg hcont, if_neg hlast]
      rfl
    · rw [pendingAfter, if_neg hcont, if_neg hlast]

/-! ## Whole runs -/

theorem receiveEvents_eq (env : EventEnv) (packets : List DiPacket)
    {ctx : EventCtx} {entries : List (Address × DiPacket)}
    (hbuffered : Buffered ctx entries)
    (hsingle : SinglePart (entries.map Prod.snd) packets)
    (hfits : EventsFit (entries.map Prod.snd) packets) :
    ∃ ctx' entries',
      receiveEvents env ctx packets =
        .ok ((expectedDeliveries (entries.map Prod.snd) packets).map
          fun delivery => delivery.map env.deliver, ctx') ∧
      Buffered ctx' entries' ∧
      entries'.map Prod.snd =
        packets.foldl pendingAfter (entries.map Prod.snd) := by
  induction packets generalizing ctx entries with
  | nil => exact ⟨ctx, entries, rfl, hbuffered, rfl⟩
  | cons packet packets ih =>
      obtain ⟨ctx₁, entries₁, hstep, hbuffered₁, hpending₁⟩ :=
        receiveEvent_eq env hbuffered hsingle.1 hfits.1
      obtain ⟨ctx₂, entries₂, hrest, hbuffered₂, hpending₂⟩ :=
        ih hbuffered₁ (hpending₁ ▸ hsingle.2) (hpending₁ ▸ hfits.2)
      rw [hpending₁] at hrest hpending₂
      refine ⟨ctx₂, entries₂, ?_, hbuffered₂, hpending₂⟩
      rw [receiveEvents, hstep, ok_bind]
      dsimp only
      rw [hrest, ok_bind]
      rfl

theorem buffered_empty : Buffered .empty [] :=
  ⟨rfl, by simp, List.nodup_nil⟩

theorem SinglePart.front {front packets : List DiPacket}
    (hfront : front <+: packets) {pending : List DiPacket}
    (h : SinglePart pending packets) : SinglePart pending front := by
  induction front generalizing pending packets with
  | nil => trivial
  | cons packet front ih =>
      obtain ⟨back, rfl⟩ := hfront
      exact ⟨h.1, ih ⟨back, rfl⟩ h.2⟩

theorem EventsFit.front {front packets : List DiPacket}
    (hfront : front <+: packets) {pending : List DiPacket}
    (h : EventsFit pending packets) : EventsFit pending front := by
  induction front generalizing pending packets with
  | nil => trivial
  | cons packet front ih =>
      obtain ⟨back, rfl⟩ := hfront
      exact ⟨h.1, ih ⟨back, rfl⟩ h.2⟩

/-! ## The second part stays

Only the first part of an event is removed from the buffer: when another one is
merged, its pointer has already been set to NULL. -/

theorem takePart_removes {alloc : Allocator} {heap heap' : Heap Packet}
    {fwdPkg pkgInbuf' : Option Address} {pkgInbuf fwdPkg' : Address}
    (h : takePart alloc heap fwdPkg pkgInbuf =
      .ok (fwdPkg', pkgInbuf', heap')) :
    fwdPkg = none ∨ pkgInbuf' = none := by
  cases fwdPkg with
  | none => exact .inl rfl
  | some fwdPkg =>
      obtain ⟨_, _, h⟩ := bind_eq_ok.mp h
      obtain ⟨_, _, h⟩ := bind_eq_ok.mp h
      cases h
      exact .inr rfl

theorem reassemble_shrinks {env : EventEnv} {pkg : Address} (fuel : Nat)
    {ctx ctx' : EventCtx} {fwdPkg fwdPkg' pkgInbuf : Option Address}
    (h : reassemble env pkg fuel ctx fwdPkg pkgInbuf =
      .ok (fwdPkg', ctx')) :
    ctx.eventReassemblyBuf.items.length ≤
      ctx'.eventReassemblyBuf.items.length +
        if fwdPkg = none then 1 else 0 := by
  induction fuel generalizing ctx fwdPkg pkgInbuf with
  | zero =>
      cases pkgInbuf with
      | none =>
          cases h
          exact Nat.le_add_right _ _
      | some pkgInbuf => cases h
  | succ fuel ih =>
      cases pkgInbuf with
      | none =>
          cases h
          exact Nat.le_add_right _ _
      | some pkgInbuf =>
          rw [reassemble] at h
          obtain ⟨part, -, h⟩ := bind_eq_ok.mp h
          obtain ⟨last, -, h⟩ := bind_eq_ok.mp h
          obtain ⟨partSrc, -, h⟩ := bind_eq_ok.mp h
          obtain ⟨src, -, h⟩ := bind_eq_ok.mp h
          split at h
          · have hitems := ctx.eventReassemblyBuf.items_next env.restart
            generalize ctx.eventReassemblyBuf.next env.restart = moved
              at h hitems
            have hle := ih h
            dsimp only at hle
            rwa [hitems] at hle
          · obtain ⟨⟨fwd, inbuf, heap⟩, htake, h⟩ := bind_eq_ok.mp h
            dsimp only at h
            have hitems := (zlistRemove ctx.eventReassemblyBuf
              inbuf).items_next env.restart
            generalize (zlistRemove ctx.eventReassemblyBuf inbuf).next
              env.restart = moved at h hitems
            have hle := ih h
            dsimp only at hle
            rw [hitems, if_neg (Option.some_ne_none fwd), Nat.add_zero] at hle
            refine Nat.le_trans ?_ (Nat.add_le_add_right hle _)
            rcases takePart_removes htake with rfl | rfl
            · rw [if_pos rfl]
              cases inbuf with
              | none => exact Nat.le_succ _
              | some address => exact CursorList.length_remove _ _
            · exact Nat.le_add_right _ _

theorem forwardPkg_items {env : EventEnv} {ctx ctx' : EventCtx}
    {fwdPkg : Address} {delivery : Option Delivery}
    (h : forwardPkg env ctx fwdPkg = .ok (delivery, ctx')) :
    ctx'.eventReassemblyBuf = ctx.eventReassemblyBuf := by
  obtain ⟨_, _, h⟩ := bind_eq_ok.mp h
  obtain ⟨_, _, h⟩ := bind_eq_ok.mp h
  cases h
  rfl

theorem receiveEvent_shrinks {env : EventEnv} {ctx ctx' : EventCtx}
    {packet : Packet} {delivery : Option Delivery}
    (h : receiveEvent env ctx packet = .ok (delivery, ctx')) :
    ctx.eventReassemblyBuf.items.length ≤
      ctx'.eventReassemblyBuf.items.length + 1 := by
  rw [receiveEvent] at h
  dsimp only at h
  generalize (ctx.heap.malloc env.alloc packet) = new at h
  rw [iothreadHandleInEventpkg] at h
  obtain ⟨packet', -, h⟩ := bind_eq_ok.mp h
  obtain ⟨typeSub, -, h⟩ := bind_eq_ok.mp h
  split at h
  · cases h
    simp only [CursorList.append, List.length_append]
    omega
  split at h
  · rw [forwardPkg_items h]
    exact Nat.le_succ _
  have hitems := ctx.eventReassemblyBuf.items_first
  dsimp only at h
  generalize ctx.eventReassemblyBuf.first = start at h hitems
  obtain ⟨⟨fwdPkg, ctx₁⟩, hloop, h⟩ := bind_eq_ok.mp h
  have hle := reassemble_shrinks _ hloop
  dsimp only at hle
  rw [if_pos rfl, hitems] at hle
  cases fwdPkg with
  | none =>
      obtain ⟨_, _, h⟩ := bind_eq_ok.mp h
      obtain ⟨_, _, h⟩ := bind_eq_ok.mp h
      obtain ⟨_, _, h⟩ := bind_eq_ok.mp h
      rw [forwardPkg_items h]
      exact hle
  | some fwdPkg =>
      obtain ⟨_, _, h⟩ := bind_eq_ok.mp h
      obtain ⟨_, _, h⟩ := bind_eq_ok.mp h
      rw [forwardPkg_items h]
      exact hle

theorem receiveEvents_snoc (env : EventEnv) (packets : List DiPacket)
    (packet : DiPacket) (ctx : EventCtx) :
    receiveEvents env ctx (packets ++ [packet]) = (do
      let (deliveries, ctx) ← receiveEvents env ctx packets
      let (delivery, ctx) ← receiveEvent env ctx packet.toPacket
      .ok (deliveries ++ [delivery], ctx)) := by
  induction packets generalizing ctx with
  | nil =>
      rw [List.nil_append, receiveEvents, receiveEvents]
      rfl
  | cons first packets ih =>
      rw [List.cons_append, receiveEvents, receiveEvents]
      cases receiveEvent env ctx first.toPacket with
      | error fault => rfl
      | ok result =>
          rw [ok_bind, ok_bind]
          dsimp only
          rw [ih]
          cases receiveEvents env result.2 packets with
          | error fault => rfl
          | ok rest =>
              rw [ok_bind, ok_bind, ok_bind]
              dsimp only
              cases receiveEvent env rest.2 packet.toPacket <;> rfl

theorem singlePart_of_fronts {packets pending : List DiPacket}
    (h : ∀ front packet, front ++ [packet] <+: packets →
      packet.typeSub = evLast →
        (partsOf (front.foldl pendingAfter pending) packet).length ≤ 1) :
    SinglePart pending packets := by
  induction packets generalizing pending with
  | nil => trivial
  | cons first packets ih =>
      refine ⟨h [] first ⟨packets, rfl⟩, ih ?_⟩
      intro front packet hfront
      refine h (first :: front) packet ?_
      rw [List.cons_append, List.cons_prefix_cons]
      exact ⟨rfl, hfront⟩

theorem length_partsOf (pending : List DiPacket) (packet : DiPacket) :
    (partsOf pending packet).length +
        (pending.filter fun part => part.src != packet.src).length =
      pending.length := by
  unfold partsOf
  induction pending with
  | nil => rfl
  | cons part pending ih =>
      by_cases heq : part.src = packet.src
      · simp only [List.filter_cons, heq, beq_self_eq_true, if_true,
          bne_self_eq_false, Bool.false_eq_true, if_false, List.length_cons]
        omega
      · simp only [List.filter_cons, beq_iff_eq, heq, if_false, bne_iff_ne,
          ne_eq, not_false_eq_true, if_true, List.length_cons]
        omega

theorem singlePart_of_reassembles {env : EventEnv} {packets : List DiPacket}
    (h : ∀ front, front <+: packets → Reassembles env front) :
    SinglePart [] packets := by
  apply singlePart_of_fronts
  intro front packet hfront hlast
  obtain ⟨ctx, entries, hrun, hbuffered, hpending⟩ :=
    h front ((List.prefix_append front [packet]).trans hfront)
  obtain ⟨ctx', entries', hrun', hbuffered', hpending'⟩ :=
    h (front ++ [packet]) hfront
  rw [receiveEvents_snoc, hrun, ok_bind] at hrun'
  obtain ⟨⟨delivery, ctx''⟩, hstep, hrun'⟩ := bind_eq_ok.mp hrun'
  obtain ⟨-, rfl⟩ := Prod.mk.inj (Except.ok.inj hrun')
  have hle := receiveEvent_shrinks hstep
  have hafter : pendingOf (front ++ [packet]) =
      (pendingOf front).filter fun part => part.src != packet.src := by
    rw [pendingOf, List.foldl_append]
    exact pendingAfter_last hlast
  have hlength := congrArg List.length hpending
  have hlength' := congrArg List.length (hpending'.trans hafter)
  rw [hbuffered.items, hbuffered'.items, List.length_map,
    List.length_map] at hle
  rw [List.length_map] at hlength hlength'
  have hsum := length_partsOf (pendingOf front) packet
  change (partsOf (pendingOf front) packet).length ≤ 1
  omega

/-- In every state of a run the events were delivered once and whole and the
buffer holds the pending parts, exactly when no event of the run comes in more
than two packets. -/
theorem reassembles_iff (env : EventEnv) {packets : List DiPacket}
    (hfits : EventsFit [] packets) :
    (∀ front, front <+: packets → Reassembles env front) ↔
      SinglePart [] packets := by
  constructor
  · exact singlePart_of_reassembles
  · intro hsingle front hfront
    exact receiveEvents_eq env front buffered_empty (hsingle.front hfront)
      (hfits.front hfront)

/-- Every object is put behind all others. -/
def bumpAllocator : Allocator where
  pick := fun _ used => used.foldr max 0 + 1
  fresh := fun _ used hmem => by
    exact Nat.not_succ_le_self _ (List.le_max_of_le hmem (Nat.le_refl _))

def eventPart (src typeSub : Nat) (payload : Word) : DiPacket where
  dest := 7
  src := UInt16.ofNat src
  flags := flagsWithTypeSub eventFlags typeSub
  payload := [payload]
  fits := DiPacket.single_fits payload

/-- Two sources, whose events come in two packets each. -/
theorem reassembles_iff_interleaved :
    (∀ front, front <+: [eventPart 1 evCont 0xdead, eventPart 2 evCont 0xbeef,
        eventPart 1 evLast 0x1234, eventPart 2 evLast 0x5678] →
      Reassembles ⟨bumpAllocator, true, false⟩ front) ↔
      SinglePart [] [eventPart 1 evCont 0xdead, eventPart 2 evCont 0xbeef,
        eventPart 1 evLast 0x1234, eventPart 2 evLast 0x5678] := by
  apply reassembles_iff
  simp only [EventsFit]
  decide

/-- After an event in three packets the freed second part is in the buffer. -/
theorem not_reassembles_three_packets :
    EventsFit [] [eventPart 1 evCont 0xdead, eventPart 1 evCont 0xbeef,
        eventPart 1 evLast 0x1234] ∧
      ¬Reassembles ⟨bumpAllocator, true, false⟩
        [eventPart 1 evCont 0xdead, eventPart 1 evCont 0xbeef,
          eventPart 1 evLast 0x1234] := by
  constructor
  · simp only [EventsFit]
    decide
  · rintro ⟨ctx, entries, hrun, hbuffered, hpending⟩
    cases hrun
    have hitems := hbuffered.items
    obtain rfl : entries = [] := List.map_eq_nil_iff.mp hpending
    cases hitems

end Osd.HostMod
