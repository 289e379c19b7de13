import Osd.Mam.Write

/-!
# Chunks of a burst

Bursts as the list of their calls of `mam_write` or `mam_read`, and when these
calls cover the data.
-/

namespace Osd.Mam

open Osd.Foundation

variable {δ σ : Type}

/-! ## Calls -/

/-- Position and size of the data, and the address. -/
structure BurstCall where
  offset : Nat
  size : Nat
  addr : Nat
  deriving DecidableEq

def burstCall (nbyte startAddr maxBulk t : Nat) : BurstCall :=
  let (tposStart, size) := burstPart maxBulk nbyte t
  ⟨tposStart, size, (startAddr + tposStart) % 2 ^ 64⟩

def burstCallsFrom (nbyte startAddr maxBulk count t : Nat) : List BurstCall :=
  (List.range' t count).map (burstCall nbyte startAddr maxBulk)

/-- The calls of a burst that is not aborted by one of them. -/
def burstCalls (desc : MemDesc) (nbyte startAddr : Nat) : List BurstCall :=
  let maxBulk := mamMaxBurstWords * desc.dwB % 2 ^ 32
  let numTransfers := intDivCeil nbyte maxBulk % 2 ^ 32
  burstCallsFrom nbyte startAddr maxBulk numTransfers 0

/-- One call after the other, up to the first that fails; each is told if it is
the last one. -/
def runCalls (call : BurstCall → Bool → σ → Outcome (OsdResult × σ)) :
    List BurstCall → σ → Outcome (OsdResult × σ)
  | [], s => .ok (osdOk, s)
  | c :: calls, s => do
      let (rv, s) ← call c calls.isEmpty s
      if osdFailed rv then .ok (rv, s) else runCalls call calls s

theorem runCalls_meets {allowed : Fault → Prop}
    {call : BurstCall → Bool → σ → Outcome (OsdResult × σ)} {P : σ → Prop}
    {ok : Prop} {calls : List BurstCall}
    (hcall : ∀ c ∈ calls, ∀ last s, P s → Meets allowed (call c last s)
      (fun result => P result.2 ∧ (ok → result.1 = osdOk)))
    {s : σ} (h : P s) :
    Meets allowed (runCalls call calls s)
      (fun result => P result.2 ∧ (ok → result.1 = osdOk)) := by
  induction calls generalizing s with
  | nil => exact ⟨h, fun _ => rfl⟩
  | cons c calls ih =>
      unfold runCalls
      apply (hcall c List.mem_cons_self calls.isEmpty s h).bind
      intro result hresult
      dsimp only
      split
      · exact hresult
      · exact ih (fun c hc => hcall c (List.mem_cons_of_mem _ hc)) hresult.1

theorem runCalls_error {fault : Fault}
    {call : BurstCall → Bool → σ → Outcome (OsdResult × σ)} {P : σ → Prop}
    {calls : List BurstCall} {bad : BurstCall} (hmem : bad ∈ calls)
    (hbad : ∀ last s, P s → call bad last s = .error fault)
    (hcall : ∀ c ∈ calls, ∀ s, P s →
      (∀ last, call c last s = .error fault) ∨
        ∃ s', call c false s = .ok (osdOk, s') ∧ P s')
    {s : σ} (h : P s) : runCalls call calls s = .error fault := by
  induction calls generalizing s with
  | nil => cases hmem
  | cons c calls ih =>
      unfold runCalls
      rcases List.mem_cons.mp hmem with rfl | hlater
      · rw [hbad calls.isEmpty s h]
        rfl
      · rcases hcall c List.mem_cons_self s h with herror | ⟨s', hok, hs'⟩
        · rw [herror calls.isEmpty]
          rfl
        · have hmore : calls.isEmpty = false := by
            rw [List.isEmpty_eq_false_iff]
            exact List.ne_nil_of_mem hlater
          rw [hmore, hok, ok_bind]
          exact ih hlater (fun c hc => hcall c (List.mem_cons_of_mem _ hc)) hs'

def writeCall (link : Link δ) (desc : MemDesc) (data : List Byte)
    (sync : Bool) (c : BurstCall) (last : Bool) (s : Session δ) :
    Outcome (OsdResult × Session δ) := do
  let part ← loadBytes data c.offset c.size
  mamWrite link desc s part c.addr true (sync && last)
    (UInt8.ofNat (c.size / desc.dwB))

def readCall (link : Link δ) (desc : MemDesc) (offset : Nat) (c : BurstCall)
    (_last : Bool) (s : List Byte × Session δ) :
    Outcome (OsdResult × List Byte × Session δ) :=
  mamRead link desc s.2 s.1 (offset + c.offset) c.size c.addr true
    (UInt8.ofNat (c.size / desc.dwB))

section

variable {nbyte startAddr maxBulk : Nat}

theorem burstCallsFrom_succ (count t : Nat) :
    burstCallsFrom nbyte startAddr maxBulk (count + 1) t =
      burstCall nbyte startAddr maxBulk t ::
        burstCallsFrom nbyte startAddr maxBulk count (t + 1) := by
  unfold burstCallsFrom
  rw [List.range'_succ]
  rfl

theorem isEmpty_burstCallsFrom (count t : Nat) :
    (burstCallsFrom nbyte startAddr maxBulk count t).isEmpty =
      decide (count = 0) := by
  cases count with
  | zero => rfl
  | succ count => rfl

end

theorem writeBursts_calls (link : Link δ) (desc : MemDesc) (data : List Byte)
    (startAddr : Nat) (sync : Bool) (maxBulk count t : Nat) (s : Session δ) :
    writeBursts link desc data startAddr sync maxBulk (t + count) count t s =
      runCalls (writeCall link desc data sync)
        (burstCallsFrom data.length startAddr maxBulk count t) s := by
  induction count generalizing t s with
  | zero => rfl
  | succ count ih =>
      have hlast : decide (t = t + (count + 1) - 1) = decide (count = 0) := by
        apply decide_eq_decide.mpr
        omega
      have hrest := fun s => ih (t + 1) s
      rw [show t + 1 + count = t + (count + 1) by omega] at hrest
      rw [burstCallsFrom_succ]
      unfold writeBursts runCalls
      simp only [← hrest, hlast, isEmpty_burstCallsFrom]
      unfold writeCall burstCall
      simp only [bind_assoc]

theorem writeBurst_calls (link : Link δ) (desc : MemDesc) (s : Session δ)
    (data : List Byte) (startAddr : Nat) (sync : Bool) :
    writeBurst link desc s data startAddr sync = (do
      assertThat (data.length % desc.dwB = 0)
      assertThat (startAddr % desc.awB = 0)
      runCalls (writeCall link desc data sync)
        (burstCalls desc data.length startAddr) s) := by
  have hloop (maxBulk numTransfers : Nat) :
      writeBursts link desc data startAddr sync maxBulk numTransfers
        numTransfers 0 s = runCalls (writeCall link desc data sync)
          (burstCallsFrom data.length startAddr maxBulk numTransfers 0) s := by
    have hfrom := writeBursts_calls link desc data startAddr sync maxBulk
      numTransfers 0 s
    rwa [Nat.zero_add] at hfrom
  unfold writeBurst burstCalls
  simp only [hloop]

theorem readBursts_calls (link : Link δ) (desc : MemDesc)
    (offset nbyte startAddr maxBulk count t : Nat) (buf : List Byte)
    (s : Session δ) :
    readBursts link desc offset nbyte startAddr maxBulk count t buf s =
      runCalls (readCall link desc offset)
        (burstCallsFrom nbyte startAddr maxBulk count t) (buf, s) := by
  induction count generalizing t buf s with
  | zero => rfl
  | succ count ih =>
      rw [burstCallsFrom_succ]
      unfold readBursts runCalls readCall burstCall
      simp only [ih]
      rfl

theorem readBurst_calls (link : Link δ) (desc : MemDesc) (s : Session δ)
    (buf : List Byte) (offset nbyte startAddr : Nat) :
    readBurst link desc s buf offset nbyte startAddr = (do
      assertThat (nbyte % desc.dwB = 0)
      assertThat (startAddr % desc.awB = 0)
      runCalls (readCall link desc offset) (burstCalls desc nbyte startAddr)
        (buf, s)) := by
  unfold readBurst burstCalls
  simp only [readBursts_calls]

/-! ## Exact calls -/

/-- The calls that a burst makes; an address that is not aligned ends it. -/
def callsMade (desc : MemDesc) (nbyte startAddr : Nat) : List BurstCall :=
  if nbyte % desc.dwB = 0 ∧ startAddr % desc.awB = 0 then
    burstCalls desc nbyte startAddr
  else []

/-- Call `t` is for the `t`-th block of 255 words. -/
def exactCall (dwB nbyte startAddr t : Nat) : BurstCall where
  offset := t * (255 * dwB)
  size := min (255 * dwB) (nbyte - t * (255 * dwB))
  addr := startAddr + t * (255 * dwB)

def exactCalls (dwB nbyte startAddr : Nat) : List BurstCall :=
  (List.range (1 + (nbyte - 1) / (255 * dwB))).map
    (exactCall dwB nbyte startAddr)

section

variable {nbyte startAddr dwB : Nat}

theorem exactCall_tiles (count : Nat) :
    ((List.range count).map (exactCall dwB nbyte startAddr)).flatMap
        (fun c => List.range' c.offset c.size) =
      List.range' 0 (min (count * (255 * dwB)) nbyte) := by
  induction count with
  | zero => simp
  | succ count ih =>
      have hsize : min ((count + 1) * (255 * dwB)) nbyte =
          min (count * (255 * dwB)) nbyte +
            min (255 * dwB) (nbyte - count * (255 * dwB)) := by
        rw [Nat.succ_mul]
        omega
      rw [List.range_succ, List.map_append, List.flatMap_append, ih, hsize,
        ← List.range'_append_1]
      by_cases hmore : count * (255 * dwB) < nbyte
      · rw [Nat.min_eq_left (Nat.le_of_lt hmore)]
        simp [exactCall]
      · have hnone : nbyte - count * (255 * dwB) = 0 := by omega
        simp [exactCall, hnone]

theorem exactCalls_tile (hdw : 0 < dwB) (hpos : 0 < nbyte) :
    (exactCalls dwB nbyte startAddr).flatMap
        (fun c => List.range' c.offset c.size) = List.range nbyte := by
  have hlast : nbyte - 1 < (1 + (nbyte - 1) / (255 * dwB)) * (255 * dwB) := by
    have hdiv := Nat.div_add_mod (nbyte - 1) (255 * dwB)
    have hmod := Nat.mod_lt (nbyte - 1) (by omega : 0 < 255 * dwB)
    rw [Nat.add_mul, Nat.mul_comm _ (255 * dwB), Nat.mul_comm _ (255 * dwB)]
    omega
  unfold exactCalls
  rw [exactCall_tiles, Nat.min_eq_right (by omega), List.range_eq_range']

theorem burstCall_exact (hdw : dwB ≤ 8)
    (hrange : startAddr + nbyte ≤ 2 ^ 64) {t : Nat}
    (hstart : t * (255 * dwB) < 2 ^ 32) (ht : t * (255 * dwB) < nbyte) :
    burstCall nbyte startAddr (255 * dwB) t =
      exactCall dwB nbyte startAddr t := by
  unfold burstCall exactCall
  rw [burstPart_eq (by omega) hstart ht]
  dsimp only
  rw [Nat.mod_eq_of_lt (by omega)]

end

section

variable {desc : MemDesc} {nbyte startAddr : Nat}

theorem intDivCeil_eq {y : Nat} (hpos : 0 < nbyte) (hlt : nbyte < 2 ^ 64) :
    intDivCeil nbyte y = 1 + (nbyte - 1) / y := by
  have hpred : (nbyte + 2 ^ 64 - 1) % 2 ^ 64 = nbyte - 1 := by omega
  rw [intDivCeil, hpred]

theorem burstCalls_eq (hdw : desc.dwB ≤ 8) (hpos : 0 < nbyte)
    (hlt : nbyte < 2 ^ 64) :
    burstCalls desc nbyte startAddr =
      (List.range ((1 + (nbyte - 1) / (255 * desc.dwB)) % 2 ^ 32)).map
        (burstCall nbyte startAddr (255 * desc.dwB)) := by
  unfold burstCalls burstCallsFrom
  dsimp only
  rw [maxBulk_eq hdw, intDivCeil_eq hpos hlt, List.range_eq_range']

/-- The last of the exact calls is made only if its offset does not wrap. -/
theorem lastOffset_of_exact (hdw : desc.dwB ≤ 8) (hpos : 0 < nbyte)
    (hlt : nbyte < 2 ^ 64)
    (h : burstCalls desc nbyte startAddr =
      exactCalls desc.dwB nbyte startAddr) :
    (nbyte - 1) / (255 * desc.dwB) * (255 * desc.dwB) < 2 ^ 32 := by
  rw [burstCalls_eq hdw hpos hlt] at h
  unfold exactCalls at h
  generalize (nbyte - 1) / (255 * desc.dwB) = last at h
  have hcount := congrArg List.length h
  rw [List.length_map, List.length_map, List.length_range,
    List.length_range] at hcount
  rw [hcount] at h
  have hcall := congrArg (fun calls => calls[last]?) h
  simp only [List.getElem?_map,
    List.getElem?_range (by omega : last < 1 + last), Option.map_some,
    Option.some.injEq] at hcall
  have hoffset := congrArg BurstCall.offset hcall
  have hwrapped : last * (255 * desc.dwB) % 2 ^ 32 =
      last * (255 * desc.dwB) := hoffset
  rw [← hwrapped]
  exact Nat.mod_lt _ (Nat.two_pow_pos 32)

theorem exact_of_lastOffset (hdw : 0 < desc.dwB) (hdw' : desc.dwB ≤ 8)
    (hpos : 0 < nbyte) (hlt : nbyte < 2 ^ 64)
    (hrange : startAddr + nbyte ≤ 2 ^ 64)
    (h : (nbyte - 1) / (255 * desc.dwB) * (255 * desc.dwB) < 2 ^ 32) :
    burstCalls desc nbyte startAddr = exactCalls desc.dwB nbyte startAddr := by
  have hle := Nat.div_mul_le_self (nbyte - 1) (255 * desc.dwB)
  rw [burstCalls_eq hdw' hpos hlt]
  unfold exactCalls
  generalize (nbyte - 1) / (255 * desc.dwB) = last at h hle
  have hcount : (1 + last) % 2 ^ 32 = 1 + last := by
    apply Nat.mod_eq_of_lt
    have hwide : last * 2 ≤ last * (255 * desc.dwB) :=
      Nat.mul_le_mul_left last (by omega)
    omega
  rw [hcount]
  apply List.map_congr_left
  intro t ht
  have hoffset : t * (255 * desc.dwB) ≤ last * (255 * desc.dwB) := by
    apply Nat.mul_le_mul_right
    have hlast := List.mem_range.mp ht
    omega
  exact burstCall_exact hdw' hrange (by omega) (by omega)

end

/-- The calls of a burst are exactly those for its blocks if and only if the
address is aligned and the offset of the last block fits into 32 bit. -/
theorem burst_exact_iff {desc : MemDesc}
    (hdw : desc.dwB = 2 ∨ desc.dwB = 4 ∨ desc.dwB = 8) {nbyte startAddr : Nat}
    (hpos : 0 < nbyte) (hlt : nbyte < 2 ^ 64) (hwords : nbyte % desc.dwB = 0)
    (hrange : startAddr + nbyte ≤ 2 ^ 64) :
    (∀ {δ : Type} (link : Link δ) (s : Session δ) (data : List Byte)
      (sync : Bool), data.length = nbyte →
      writeBurst link desc s data startAddr sync =
        if startAddr % desc.awB = 0 then
          runCalls (writeCall link desc data sync)
            (callsMade desc nbyte startAddr) s
        else .error .assertion) ∧
    (∀ {δ : Type} (link : Link δ) (s : Session δ) (buf : List Byte)
      (offset : Nat), readBurst link desc s buf offset nbyte startAddr =
        if startAddr % desc.awB = 0 then
          runCalls (readCall link desc offset)
            (callsMade desc nbyte startAddr) (buf, s)
        else .error .assertion) ∧
    (exactCalls desc.dwB nbyte startAddr).flatMap
      (fun c => List.range' c.offset c.size) = List.range nbyte ∧
    (callsMade desc nbyte startAddr = exactCalls desc.dwB nbyte startAddr ↔
      startAddr % desc.awB = 0 ∧
        (nbyte - 1) / (255 * desc.dwB) * (255 * desc.dwB) < 2 ^ 32) := by
  have hsmall : 0 < desc.dwB ∧ desc.dwB ≤ 8 := by omega
  refine ⟨fun link s data sync hdata => ?_, fun link s buf offset => ?_,
    exactCalls_tile hsmall.1 hpos, ?_⟩
  · rw [writeBurst_calls, hdata, assertThat_bind hwords]
    unfold callsMade
    by_cases haddr : startAddr % desc.awB = 0
    · rw [assertThat_bind haddr, if_pos haddr, if_pos ⟨hwords, haddr⟩]
    · rw [assertThat_bind_not haddr, if_neg haddr]
  · rw [readBurst_calls, assertThat_bind hwords]
    unfold callsMade
    by_cases haddr : startAddr % desc.awB = 0
    · rw [assertThat_bind haddr, if_pos haddr, if_pos ⟨hwords, haddr⟩]
    · rw [assertThat_bind_not haddr, if_neg haddr]
  · unfold callsMade
    by_cases haddr : startAddr % desc.awB = 0
    · rw [if_pos ⟨hwords, haddr⟩, and_iff_right haddr]
      exact ⟨lastOffset_of_exact hsmall.2 hpos hlt,
        exact_of_lastOffset hsmall.1 hsmall.2 hpos hlt hrange⟩
    · rw [if_neg fun h => haddr h.2]
      constructor
      · intro hnone
        have hlength := congrArg List.length hnone
        simp only [exactCalls, List.length_nil, List.length_map,
          List.length_range] at hlength
        exact absurd hlength.symm (Nat.ne_of_gt (Nat.lt_add_right _ Nat.one_pos))
      · exact fun h => absurd h.1 haddr

/-- Three blocks, the last one of a single word. -/
theorem burst_exact_short :
    callsMade ⟨1, 32, 32⟩ 2044 0x1000 = exactCalls 4 2044 0x1000 :=
  (burst_exact_iff (.inr (.inl rfl)) (by decide) (by decide) (by decide)
    (by decide)).2.2.2.mpr (by decide)

/-- The last word of 4 GByte is not written: the call for it writes the 255
words at the offset 764 again. -/
theorem burst_wraps :
    burstCall 4294968064 0 1020 4210753 = ⟨764, 1020, 764⟩ ∧
      callsMade ⟨1, 32, 32⟩ 4294968064 0 ≠ exactCalls 4 4294968064 0 := by
  refine ⟨by simp [burstCall, burstPart], fun hexact => ?_⟩
  have hdesc : (MemDesc.mk 1 32 32).dwB = 4 := rfl
  have hcalls : callsMade ⟨1, 32, 32⟩ 4294968064 0 =
      burstCalls ⟨1, 32, 32⟩ 4294968064 0 := by
    unfold callsMade
    rw [hdesc, if_pos (by decide)]
  rw [hcalls, ← hdesc] at hexact
  have hlast := lastOffset_of_exact (by rw [hdesc]; decide) (by decide)
    (by decide) hexact
  rw [hdesc] at hlast
  norm_num at hlast

end Osd.Mam
