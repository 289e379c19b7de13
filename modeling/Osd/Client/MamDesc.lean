import Osd.Client.Describe

/-!
# Memory descriptors

`osd_cl_mam_get_mem_desc` fills the descriptor of a memory from the registers
of its MAM.  It returns at the first read that fails and leaves the rest of the
descriptor as it is.
-/

namespace Osd.Client

open Osd.Foundation

def osdRegMamAw : Word := 0x0200
def osdRegMamDw : Word := 0x0201
def osdRegMamRegions : Word := 0x0202

def osdRegMamRegionBaseaddr (region word : Nat) : Word :=
  UInt16.ofNat (0x0280 + 0x10 * region + word)

def osdRegMamRegionMemsize (region word : Nat) : Word :=
  UInt16.ofNat (0x0284 + 0x10 * region + word)

structure OsdMemDescRegion where
  baseaddr : Nat
  memsize : Nat
  deriving DecidableEq

structure OsdMemDesc where
  diAddr : Nat
  dataWidthBit : Word
  addrWidthBit : Word
  numRegions : UInt8
  regions : Fin 8 → OsdMemDescRegion

/-- A store to one of the regions. -/
def OsdMemDesc.modifyRegion (memDesc : OsdMemDesc) (region : Nat)
    (change : OsdMemDescRegion → OsdMemDescRegion) : Outcome OsdMemDesc :=
  if h : region < 8 then
    .ok { memDesc with
      regions := Function.update memDesc.regions ⟨region, h⟩
        (change (memDesc.regions ⟨region, h⟩)) }
  else .error .outOfBounds

/-- The loop over the words of a 64 bit value, which puts together their
bytes. -/
def regionValue (read : RegRead) (reg : Nat → Word) :
    Nat → Except OsdResult Nat
  | 0 => .ok 0
  | w + 1 =>
      match regionValue read reg w with
      | .error rv => .error rv
      | .ok value =>
          match read (reg w) with
          | .error rv => .error rv
          | .ok regvalue =>
              .ok (value |||
                ((highByte regvalue).toNat <<< (w * 16 + 8)) % 2 ^ 64 |||
                ((lowByte regvalue).toNat <<< (w * 16)) % 2 ^ 64)

def readRegions (read : RegRead) : Nat → Nat → OsdMemDesc →
    Outcome (Except OsdResult Unit × OsdMemDesc)
  | 0, _, memDesc => .ok (.ok (), memDesc)
  | count + 1, region, memDesc =>
      match regionValue read (osdRegMamRegionBaseaddr region) 4 with
      | .error rv => .ok (.error rv, memDesc)
      | .ok baseaddr => do
          let memDesc ← memDesc.modifyRegion region
            fun old => { old with baseaddr }
          match regionValue read (osdRegMamRegionMemsize region) 4 with
          | .error rv => .ok (.error rv, memDesc)
          | .ok memsize => do
              let memDesc ← memDesc.modifyRegion region
                fun old => { old with memsize }
              readRegions read count (region + 1) memDesc

/-- The result and the descriptor that is filled. -/
def osdClMamGetMemDesc (read : RegRead) (mamDiAddr : Nat)
    (memDesc : OsdMemDesc) : Outcome (Except OsdResult Unit × OsdMemDesc) :=
  let memDesc := { memDesc with diAddr := mamDiAddr }
  match read osdRegMamAw with
  | .error rv => .ok (.error rv, memDesc)
  | .ok addrWidthBit =>
      let memDesc := { memDesc with addrWidthBit }
      match read osdRegMamDw with
      | .error rv => .ok (.error rv, memDesc)
      | .ok dataWidthBit =>
          let memDesc := { memDesc with dataWidthBit }
          match read osdRegMamRegions with
          | .error rv => .ok (.error rv, memDesc)
          | .ok regvalue => do
              let memDesc := { memDesc with numRegions := regvalue.toUInt8 }
              assertThat (memDesc.numRegions.toNat ≤ 8)
              readRegions read memDesc.numRegions.toNat 0
                { memDesc with regions := fun _ => ⟨0, 0⟩ }

/-! ## What a descriptor should say -/

def Readable (read : RegRead) (reg : Word) : Prop :=
  ∃ regvalue, read reg = .ok regvalue

def regWord (read : RegRead) (reg : Word) : Word :=
  match read reg with
  | .error _ => 0
  | .ok regvalue => regvalue

def registerSum (read : RegRead) (reg : Nat → Word) (count : Nat) : Nat :=
  ∑ w ∈ Finset.range count, (regWord read (reg w)).toNat * 2 ^ (16 * w)

def RegionReadable (read : RegRead) (region : Nat) : Prop :=
  (∀ w < 4, Readable read (osdRegMamRegionBaseaddr region w)) ∧
    ∀ w < 4, Readable read (osdRegMamRegionMemsize region w)

def readRegion (read : RegRead) (region : Nat) : OsdMemDescRegion :=
  ⟨registerSum read (osdRegMamRegionBaseaddr region) 4,
    registerSum read (osdRegMamRegionMemsize region) 4⟩

/-- There are at most 8 regions, and all registers can be read. -/
def AllReadable (read : RegRead) : Prop :=
  Readable read osdRegMamAw ∧ Readable read osdRegMamDw ∧
    ∃ n, read osdRegMamRegions = .ok n ∧ n.toNat ≤ 8 ∧
      ∀ region < n.toNat, RegionReadable read region

structure Reflects (read : RegRead) (mamDiAddr : Nat)
    (memDesc : OsdMemDesc) : Prop where
  diAddr : memDesc.diAddr = mamDiAddr
  addrWidthBit : read osdRegMamAw = .ok memDesc.addrWidthBit
  dataWidthBit : read osdRegMamDw = .ok memDesc.dataWidthBit
  numRegions : ∃ n, read osdRegMamRegions = .ok n ∧ n.toNat ≤ 8 ∧
    memDesc.numRegions.toNat = n.toNat
  region : ∀ region : Fin 8, region.val < memDesc.numRegions.toNat →
    memDesc.regions region = readRegion read region
  zero : ∀ region : Fin 8, memDesc.numRegions.toNat ≤ region.val →
    memDesc.regions region = ⟨0, 0⟩

/-- No assertion fails; the result is OSD_OK where all registers can be read
and an error otherwise; and with OSD_OK the descriptor reflects them. -/
def DescribesMemory (read : RegRead) (mamDiAddr : Nat)
    (memDesc : OsdMemDesc) : Prop :=
  ∃ result memDesc', osdClMamGetMemDesc read mamDiAddr memDesc =
      .ok (result, memDesc') ∧
    (result = .ok () ↔ AllReadable read) ∧
    (result = .ok () → Reflects read mamDiAddr memDesc')

/-- The number of regions is at most 8, or only its low byte is and a read of
one of that many regions fails. -/
def RegionsCounted (read : RegRead) : Prop :=
  ∀ n, Readable read osdRegMamAw → Readable read osdRegMamDw →
    read osdRegMamRegions = .ok n →
      n.toNat ≤ 8 ∨ n.toNat % 256 ≤ 8 ∧
        ∃ region < n.toNat % 256, ¬RegionReadable read region

/-! ## Values of 64 bit -/

section Values

variable {read : RegRead} {reg : Nat → Word}

theorem regWord_of_ok {addr regvalue : Word} (h : read addr = .ok regvalue) :
    regWord read addr = regvalue := by
  rw [regWord, h]

theorem registerSum_lt (read : RegRead) (reg : Nat → Word) (count : Nat) :
    registerSum read reg count < 2 ^ (16 * count) := by
  induction count with
  | zero => simp [registerSum]
  | succ count ih =>
      have hword := (regWord read (reg count)).toNat_lt
      rw [registerSum, Finset.sum_range_succ, ← registerSum]
      calc registerSum read reg count +
            (regWord read (reg count)).toNat * 2 ^ (16 * count)
          < 2 ^ (16 * count) +
            (regWord read (reg count)).toNat * 2 ^ (16 * count) :=
              Nat.add_lt_add_right ih _
        _ = ((regWord read (reg count)).toNat + 1) * 2 ^ (16 * count) := by
              ring
        _ ≤ 2 ^ 16 * 2 ^ (16 * count) := Nat.mul_le_mul_right _ hword
        _ = 2 ^ (16 * (count + 1)) := by rw [← Nat.pow_add]; ring_nf

theorem shiftLeft_mod_of_byte (byte : Byte) {shift : Nat} (h : shift ≤ 56) :
    (byte.toNat <<< shift) % 2 ^ 64 = byte.toNat <<< shift := by
  have hbyte := byte.toNat_lt
  apply Nat.mod_eq_of_lt
  rw [Nat.shiftLeft_eq]
  calc byte.toNat * 2 ^ shift
      < 2 ^ 8 * 2 ^ shift :=
        Nat.mul_lt_mul_of_pos_right hbyte (Nat.two_pow_pos shift)
    _ = 2 ^ (8 + shift) := by rw [Nat.pow_add]
    _ ≤ 2 ^ 64 := Nat.pow_le_pow_right (by decide) (by omega)

theorem or_bytes {value w : Nat} (hw : w < 4) (hvalue : value < 2 ^ (16 * w))
    (regvalue : Word) :
    value ||| ((highByte regvalue).toNat <<< (w * 16 + 8)) % 2 ^ 64 |||
        ((lowByte regvalue).toNat <<< (w * 16)) % 2 ^ 64 =
      value + regvalue.toNat * 2 ^ (16 * w) := by
  have hlow := (lowByte regvalue).toNat_lt
  have hsplit : regvalue.toNat =
      (highByte regvalue).toNat * 2 ^ 8 + (lowByte regvalue).toNat := by
    rw [toNat_highByte, toNat_lowByte]
    omega
  rw [shiftLeft_mod_of_byte _ (by omega), shiftLeft_mod_of_byte _ (by omega),
    hsplit]
  generalize (highByte regvalue).toNat = high
  generalize (lowByte regvalue).toNat = low at hlow
  rw [Nat.mul_comm w 16]
  have hfront : low <<< (16 * w) ||| value = low * 2 ^ (16 * w) + value := by
    rw [← Nat.shiftLeft_add_eq_or_of_lt hvalue, Nat.shiftLeft_eq]
  have hlt : low * 2 ^ (16 * w) + value < 2 ^ (16 * w + 8) := by
    calc low * 2 ^ (16 * w) + value
        < low * 2 ^ (16 * w) + 2 ^ (16 * w) := Nat.add_lt_add_left hvalue _
      _ = (low + 1) * 2 ^ (16 * w) := by ring
      _ ≤ 2 ^ 8 * 2 ^ (16 * w) := Nat.mul_le_mul_right _ hlow
      _ = 2 ^ (16 * w + 8) := by rw [← Nat.pow_add, Nat.add_comm]
  calc value ||| high <<< (16 * w + 8) ||| low <<< (16 * w)
      = high <<< (16 * w + 8) ||| (low <<< (16 * w) ||| value) := by
        rw [Nat.or_comm value, Nat.or_assoc, Nat.or_comm value]
    _ = high * 2 ^ (16 * w + 8) + (low * 2 ^ (16 * w) + value) := by
        rw [hfront, ← Nat.shiftLeft_add_eq_or_of_lt hlt, Nat.shiftLeft_eq]
    _ = value + (high * 2 ^ 8 + low) * 2 ^ (16 * w) := by
        rw [Nat.pow_add]
        ring

theorem regionValue_ok {count : Nat} (hcount : count ≤ 4)
    (hread : ∀ w < count, Readable read (reg w)) :
    regionValue read reg count = .ok (registerSum read reg count) := by
  induction count with
  | zero => simp [regionValue, registerSum]
  | succ count ih =>
      have hfront := ih (by omega) fun w hw => hread w (by omega)
      obtain ⟨regvalue, hregvalue⟩ := hread count (Nat.lt_succ_self count)
      have hlt := registerSum_lt read reg count
      rw [regionValue, hfront]
      dsimp only
      rw [hregvalue]
      dsimp only
      rw [or_bytes (by omega) hlt, registerSum, registerSum,
        Finset.sum_range_succ, regWord_of_ok hregvalue]

theorem regionValue_error {count : Nat}
    (h : ¬∀ w < count, Readable read (reg w)) :
    ∃ rv, regionValue read reg count = .error rv := by
  induction count with
  | zero => exact absurd (fun w hw => absurd hw (Nat.not_lt_zero w)) h
  | succ count ih =>
      by_cases hfront : ∀ w < count, Readable read (reg w)
      · cases hlast : read (reg count) with
        | ok regvalue =>
            exfalso
            apply h
            intro w hw
            rcases Nat.lt_succ_iff_lt_or_eq.mp hw with hw | rfl
            · exact hfront w hw
            · exact ⟨regvalue, hlast⟩
        | error rv =>
            rw [regionValue]
            cases regionValue read reg count with
            | error rv' => exact ⟨rv', rfl⟩
            | ok value =>
                refine ⟨rv, ?_⟩
                dsimp only
                rw [hlast]
      · obtain ⟨rv, hrv⟩ := ih hfront
        exact ⟨rv, by rw [regionValue, hrv]⟩

end Values

/-! ## The loop over the regions -/

section Regions

variable {read : RegRead} {region : Nat}

def OsdMemDesc.withRegion (memDesc : OsdMemDesc) (read : RegRead)
    (region : Fin 8) : OsdMemDesc :=
  { memDesc with
    regions := Function.update memDesc.regions region
      (readRegion read region) }

theorem readRegions_succ (count : Nat) (memDesc : OsdMemDesc)
    (h : region < 8) (hread : RegionReadable read region) :
    readRegions read (count + 1) region memDesc =
      readRegions read count (region + 1)
        (memDesc.withRegion read ⟨region, h⟩) := by
  obtain ⟨hbaseaddr, hmemsize⟩ := hread
  rw [readRegions, regionValue_ok (by decide) hbaseaddr]
  simp only [OsdMemDesc.modifyRegion, h, dif_pos]
  rw [regionValue_ok (by decide) hmemsize]
  simp [OsdMemDesc.withRegion, readRegion]

theorem readRegions_unreadable (count : Nat) (memDesc : OsdMemDesc)
    (h : region < 8) (hread : ¬RegionReadable read region) :
    ∃ rv regions, readRegions read (count + 1) region memDesc =
      .ok (.error rv, { memDesc with regions }) := by
  rw [readRegions]
  by_cases hbaseaddr :
      ∀ w < 4, Readable read (osdRegMamRegionBaseaddr region w)
  · have hmemsize :
        ¬∀ w < 4, Readable read (osdRegMamRegionMemsize region w) :=
      fun hmemsize => hread ⟨hbaseaddr, hmemsize⟩
    obtain ⟨rv, hrv⟩ := regionValue_error hmemsize
    rw [regionValue_ok (by decide) hbaseaddr]
    simp only [OsdMemDesc.modifyRegion, h, dif_pos]
    rw [hrv]
    exact ⟨rv, _, rfl⟩
  · obtain ⟨rv, hrv⟩ := regionValue_error hbaseaddr
    rw [hrv]
    exact ⟨rv, memDesc.regions, rfl⟩

theorem readRegions_ok {count : Nat} {memDesc : OsdMemDesc}
    (h : region + count ≤ 8)
    (hread : ∀ r, region ≤ r → r < region + count → RegionReadable read r) :
    readRegions read count region memDesc =
      .ok (.ok (), { memDesc with
        regions := fun r =>
          if region ≤ r ∧ r < region + count then readRegion read r
          else memDesc.regions r }) := by
  induction count generalizing region memDesc with
  | zero =>
      have hnone (r : Fin 8) : ¬(region ≤ r ∧ r < region + 0) := by omega
      simp only [readRegions, hnone, if_false]
  | succ count ih =>
      have hlt : region < 8 := by omega
      rw [readRegions_succ count memDesc hlt
        (hread region (Nat.le_refl region) (by omega)),
        ih (by omega) fun r hr hr' => hread r (by omega) (by omega)]
      unfold OsdMemDesc.withRegion
      congr 3
      funext r
      by_cases hr : r = ⟨region, hlt⟩
      · subst hr
        simp
      · have hne : r.val ≠ region := fun hval => hr (Fin.ext hval)
        have hiff : region + 1 ≤ r.val ∧ r.val < region + 1 + count ↔
            region ≤ r.val ∧ r.val < region + (count + 1) := by omega
        simp only [Function.update_of_ne hr, hiff]

theorem readRegions_error {count : Nat} (memDesc : OsdMemDesc)
    (h : region + count ≤ 8)
    (hread : ¬∀ r, region ≤ r → r < region + count →
      RegionReadable read r) :
    ∃ rv regions, readRegions read count region memDesc =
      .ok (.error rv, { memDesc with regions }) := by
  induction count generalizing region memDesc with
  | zero => exact absurd (fun r hr hr' => by omega) hread
  | succ count ih =>
      have hlt : region < 8 := by omega
      by_cases hfirst : RegionReadable read region
      · rw [readRegions_succ count memDesc hlt hfirst]
        apply ih (memDesc.withRegion read ⟨region, hlt⟩) (by omega)
        intro hrest
        apply hread
        intro r hr hr'
        rcases Nat.eq_or_lt_of_le hr with rfl | hr
        · exact hfirst
        · exact hrest r hr (by omega)
      · exact readRegions_unreadable count memDesc hlt hfirst

end Regions

/-! ## The descriptor -/

section Descriptor

variable {read : RegRead} (mamDiAddr : Nat) (memDesc : OsdMemDesc)

structure Header (read : RegRead) (aw dw n : Word) : Prop where
  aw : read osdRegMamAw = .ok aw
  dw : read osdRegMamDw = .ok dw
  regions : read osdRegMamRegions = .ok n

def OsdMemDesc.start (mamDiAddr : Nat) (aw dw n : Word) : OsdMemDesc :=
  ⟨mamDiAddr, dw, aw, n.toUInt8, fun _ => ⟨0, 0⟩⟩

theorem getMemDesc_header {aw dw n : Word} (h : Header read aw dw n)
    (hn : n.toNat % 256 ≤ 8) :
    osdClMamGetMemDesc read mamDiAddr memDesc =
      readRegions read (n.toNat % 256) 0
        (OsdMemDesc.start mamDiAddr aw dw n) := by
  unfold osdClMamGetMemDesc
  simp [h.aw, h.dw, h.regions, assertThat, hn, OsdMemDesc.start]

theorem getMemDesc_assertion {aw dw n : Word} (h : Header read aw dw n)
    (hn : 8 < n.toNat % 256) :
    osdClMamGetMemDesc read mamDiAddr memDesc = .error .assertion := by
  have hnot : ¬n.toUInt8.toNat ≤ 8 := by simpa using hn
  unfold osdClMamGetMemDesc
  simp only [h.aw, h.dw, h.regions, assertThat_bind_not hnot]

theorem getMemDesc_headless (h : ¬∃ aw dw n, Header read aw dw n) :
    ∃ rv memDesc', osdClMamGetMemDesc read mamDiAddr memDesc =
      .ok (.error rv, memDesc') ∧ memDesc'.diAddr = mamDiAddr := by
  unfold osdClMamGetMemDesc
  cases haw : read osdRegMamAw with
  | error rv => exact ⟨rv, _, rfl, rfl⟩
  | ok aw =>
      cases hdw : read osdRegMamDw with
      | error rv => exact ⟨rv, _, rfl, rfl⟩
      | ok dw =>
          cases hregions : read osdRegMamRegions with
          | error rv => exact ⟨rv, _, rfl, rfl⟩
          | ok n => exact absurd ⟨aw, dw, n, haw, hdw, hregions⟩ h

/-- The call returns unless the assertion on the number of regions fails, and
the descriptor has the address of the module also when a read failed. -/
theorem getMemDesc_returns
    (h : ∀ aw dw n, Header read aw dw n → n.toNat % 256 ≤ 8) :
    ∃ result memDesc', osdClMamGetMemDesc read mamDiAddr memDesc =
      .ok (result, memDesc') ∧ memDesc'.diAddr = mamDiAddr := by
  by_cases hheader : ∃ aw dw n, Header read aw dw n
  · obtain ⟨aw, dw, n, hheader⟩ := hheader
    have hn := h aw dw n hheader
    rw [getMemDesc_header mamDiAddr memDesc hheader hn]
    by_cases hread : ∀ r, 0 ≤ r → r < 0 + n.toNat % 256 →
        RegionReadable read r
    · rw [readRegions_ok (by omega) hread]
      exact ⟨_, _, rfl, rfl⟩
    · obtain ⟨rv, regions, hrun⟩ := readRegions_error
        (.start mamDiAddr aw dw n) (by omega) hread
      rw [hrun]
      exact ⟨_, _, rfl, rfl⟩
  · obtain ⟨rv, memDesc', hrun, haddr⟩ :=
      getMemDesc_headless mamDiAddr memDesc hheader
    exact ⟨.error rv, memDesc', hrun, haddr⟩

theorem reflects_of_readable {aw dw n : Word} (h : Header read aw dw n)
    (hn : n.toNat ≤ 8)
    (hread : ∀ region < n.toNat, RegionReadable read region) :
    ∃ memDesc', osdClMamGetMemDesc read mamDiAddr memDesc =
      .ok (.ok (), memDesc') ∧ Reflects read mamDiAddr memDesc' := by
  have hmod : n.toNat % 256 = n.toNat := by omega
  have hnum : n.toUInt8.toNat = n.toNat := by
    rw [UInt16.toNat_toUInt8]
    omega
  rw [getMemDesc_header mamDiAddr memDesc h (by omega), hmod,
    readRegions_ok (by omega) fun r _ hr => hread r (by omega)]
  refine ⟨_, rfl, rfl, h.aw, h.dw, ⟨n, h.regions, hn, hnum⟩, ?_, ?_⟩
  · intro region hregion
    have hlt : region.val < n.toNat := hnum ▸ hregion
    simp [hlt]
  · intro region hregion
    have hle : n.toNat ≤ region.val := hnum ▸ hregion
    simp [OsdMemDesc.start, hle]

/-- With an unreadable register the call returns an error. -/
theorem error_of_unreadable {aw dw n : Word} (h : Header read aw dw n)
    (hn : n.toNat % 256 ≤ 8)
    (hread : ∃ region < n.toNat % 256, ¬RegionReadable read region) :
    ∃ rv memDesc', osdClMamGetMemDesc read mamDiAddr memDesc =
      .ok (.error rv, memDesc') := by
  obtain ⟨region, hregion, hnot⟩ := hread
  rw [getMemDesc_header mamDiAddr memDesc h hn]
  obtain ⟨rv, regions, hrun⟩ := readRegions_error
    (.start mamDiAddr aw dw n)
    (by omega : 0 + n.toNat % 256 ≤ 8)
    fun hall => hnot (hall region (Nat.zero_le region) (by omega))
  exact ⟨rv, _, hrun⟩

theorem header_unique {aw dw n n' : Word} (h : Header read aw dw n)
    (hn' : read osdRegMamRegions = .ok n') : n' = n := by
  have hregions := h.regions
  rw [hn'] at hregions
  exact Except.ok.inj hregions

theorem describesMemory_of_counted (h : RegionsCounted read) :
    DescribesMemory read mamDiAddr memDesc := by
  by_cases hheader : ∃ aw dw n, Header read aw dw n
  · obtain ⟨aw, dw, n, hheader⟩ := hheader
    have hcases := h n ⟨aw, hheader.aw⟩ ⟨dw, hheader.dw⟩ hheader.regions
    by_cases hall : n.toNat ≤ 8 ∧
        ∀ region < n.toNat, RegionReadable read region
    · obtain ⟨memDesc', hrun, hreflects⟩ := reflects_of_readable
        mamDiAddr memDesc hheader hall.1 hall.2
      have hreadable : AllReadable read :=
        ⟨⟨aw, hheader.aw⟩, ⟨dw, hheader.dw⟩, n, hheader.regions, hall⟩
      exact ⟨.ok (), memDesc', hrun, by simp [hreadable],
        fun _ => hreflects⟩
    · have hunreadable : n.toNat % 256 ≤ 8 ∧
          ∃ region < n.toNat % 256, ¬RegionReadable read region := by
        rcases hcases with hle | hlow
        · have hmod : n.toNat % 256 = n.toNat := by omega
          rw [hmod]
          push Not at hall
          exact ⟨hle, hall hle⟩
        · exact hlow
      obtain ⟨rv, memDesc', hrun⟩ := error_of_unreadable
        mamDiAddr memDesc hheader hunreadable.1 hunreadable.2
      have hnot : ¬AllReadable read := by
        rintro ⟨-, -, n', hn', hreadable⟩
        exact hall (header_unique hheader hn' ▸ hreadable)
      exact ⟨.error rv, memDesc', hrun, by simp [hnot], by simp⟩
  · obtain ⟨rv, memDesc', hrun, -⟩ :=
      getMemDesc_headless mamDiAddr memDesc hheader
    have hnot : ¬AllReadable read := by
      rintro ⟨⟨aw, haw⟩, ⟨dw, hdw⟩, n, hn, -⟩
      exact hheader ⟨aw, dw, n, haw, hdw, hn⟩
    exact ⟨.error rv, memDesc', hrun, by simp [hnot], by simp⟩

variable {mamDiAddr memDesc} in
theorem counted_of_describesMemory
    (h : DescribesMemory read mamDiAddr memDesc) : RegionsCounted read := by
  obtain ⟨result, memDesc', hrun, hresult, -⟩ := h
  rintro n ⟨aw, haw⟩ ⟨dw, hdw⟩ hn
  have hheader : Header read aw dw n := ⟨haw, hdw, hn⟩
  by_cases hle : n.toNat ≤ 8
  · exact .inl hle
  · right
    by_cases hlow : n.toNat % 256 ≤ 8
    · refine ⟨hlow, ?_⟩
      by_contra hall
      push Not at hall
      rw [getMemDesc_header mamDiAddr memDesc hheader hlow,
        readRegions_ok (by omega) fun r _ hr => hall r (by omega)] at hrun
      obtain ⟨hok, -⟩ := Prod.mk.inj (Except.ok.inj hrun)
      obtain ⟨-, -, n', hn', hle', -⟩ := hresult.mp hok.symm
      exact hle (header_unique hheader hn' ▸ hle')
    · rw [getMemDesc_assertion mamDiAddr memDesc hheader (by omega)] at hrun
      cases hrun

end Descriptor

theorem describesMemory_iff {read : RegRead} {mamDiAddr : Nat}
    {memDesc : OsdMemDesc} :
    DescribesMemory read mamDiAddr memDesc ↔ RegionsCounted read :=
  ⟨counted_of_describesMemory, describesMemory_of_counted mamDiAddr memDesc⟩

def mamWithRegions (numRegions : Word) : RegRead := fun reg =>
  if reg = osdRegMamRegions then .ok numRegions else .ok 0

/-- With 9 regions the assertion fails, and 256 are taken for none. -/
theorem miscounted_regions :
    ¬DescribesMemory (mamWithRegions 9) 3
        ⟨0, 0, 0, 0, fun _ => ⟨0, 0⟩⟩ ∧
      ¬DescribesMemory (mamWithRegions 256) 3
        ⟨0, 0, 0, 0, fun _ => ⟨0, 0⟩⟩ := by
  constructor
  · rintro ⟨result, memDesc', hrun, -⟩
    cases hrun
  · rintro ⟨result, memDesc', hrun, hresult, -⟩
    have hok : result = .ok () := by
      cases hrun
      rfl
    obtain ⟨-, -, n, hn, hle, -⟩ := hresult.mp hok
    cases hn
    exact absurd hle (by decide)

end Osd.Client
