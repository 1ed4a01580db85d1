import Mathlib.Data.List.Basic
import VMQemuVGA.Pci.Capabilities

/-! # From a BAR to a region of memory

A capability names its BAR by number, IOKit numbers the regions of a device in an
order of its own. `mapBarByNumber` and `readCommonConfig` each find the region of
a BAR by its address, and each in its own way. -/

namespace VMQemuVGA

/-! ## The device -/

/-- An `IOMemoryMap`. -/
structure Mapping where
  length : Nat
  virt : Nat
  deriving DecidableEq, Repr

/-- An `IODeviceMemory`, and what mapping it gives. -/
structure MemoryRegion where
  phys : Nat
  length : Nat
  mapping : Option Mapping
  deriving DecidableEq, Repr

/-- The device as IOKit shows it, the regions in IOKit's order. -/
structure PciDevice where
  config : ConfigSpace
  regions : List MemoryRegion

namespace PciDevice

/-- `mapDeviceMemoryWithIndex`, with the index. -/
def mapAt (d : PciDevice) (i : Nat) : Option (Nat × Mapping) :=
  (d.regions[i]?.bind MemoryRegion.mapping).map fun m => (i, m)

/-- The BAR register at `0x10 + bar * 4`. -/
def barRegister (d : PciDevice) (bar : UInt8) : Nat := (d.config.read32 (0x10 + bar * 4)).toNat

/-! ## `mapBarByNumber` -/

/-- The address in a BAR's registers, as `mapBarByNumber` reads it. -/
def barPhys (d : PciDevice) (bar : UInt8) : Nat :=
  let low := d.barRegister bar
  if low &&& 0x6 = 0x4 then
    (d.config.read32 (0x10 + bar * 4 + 4)).toNat <<< 32 ||| (low &&& 0xFFFFFFF0)
  else low &&& 0xFFFFFFF0

/-- The address of a BAR, if the BAR is there and is one of memory. -/
def barAddress (d : PciDevice) (bar : UInt8) : Option Nat :=
  if bar ≥ 6 then none
  else if d.barRegister bar = 0 ∨ d.barRegister bar = 0xFFFFFFFF then none
  else if d.barRegister bar &&& 0x1 ≠ 0 then none
  else if d.barPhys bar = 0 then none
  else some (d.barPhys bar)

/-- `mapBarByNumber` behind its cache: the first region that can be mapped and has
the address. -/
def resolveBar (d : PciDevice) (bar : UInt8) : Option (Nat × Mapping) :=
  (d.barAddress bar).bind fun phys =>
    ((d.regions.take 6).findIdx? fun r => r.mapping.isSome && r.phys == phys).bind d.mapAt

/-- `mapBarByNumber`, with the cache `m_bar_maps`. -/
def mapBarByNumber (d : PciDevice) (cache : UInt8 → Option (Nat × Mapping)) (bar : UInt8) :
    Option (Nat × Mapping) × (UInt8 → Option (Nat × Mapping)) :=
  if bar ≥ 6 then (none, cache) else
  match cache bar with
  | some found => (some found, cache)
  | none =>
      (d.resolveBar bar, fun b => if b = bar then d.resolveBar bar else cache b)

/-! ## `readCommonConfig` -/

/-- The address in a BAR's registers, as `readCommonConfig` reads it. -/
def commonBarPhys (d : PciDevice) (bar : UInt8) : Nat :=
  let barReg := d.barRegister bar
  if barReg &&& 0x4 ≠ 0 then
    (d.config.read32 (0x10 + (bar + 1) * 4)).toNat <<< 32 ||| (barReg &&& 0xFFFFFFF0)
  else barReg &&& 0xFFFFFFF0

/-- The first region whose address is that of the BAR, as far as they are compared. -/
def commonMatch (d : PciDevice) (bar : UInt8) : Option Nat :=
  (d.regions.take 6).findIdx? fun r =>
    r.phys &&& 0xFFFFFFF0 == d.commonBarPhys bar &&& 0xFFFFFFF0

/-- What is mapped where that fails: the region of the BAR's number, and for BAR 4
the region 1. -/
def commonFallback (d : PciDevice) (bar : UInt8) : Option (Nat × Mapping) :=
  match d.mapAt bar.toNat with
  | some found => some found
  | none => if bar = 4 then d.mapAt 1 else none

def commonRegion (d : PciDevice) (bar : UInt8) : Option (Nat × Mapping) :=
  match (d.commonMatch bar).bind d.mapAt with
  | some found => some found
  | none => d.commonFallback bar

end PciDevice

/-- What `readCommonConfig` hands back, and the index of the region it mapped. -/
structure CommonConfig where
  region : Nat
  map : Mapping
  base : Nat
  offset : UInt32
  bar : UInt8
  deriving DecidableEq, Repr

namespace PciDevice

/-- `readCommonConfig`, with what `findVirtIOCapability` found. -/
def readCommonConfig (d : PciDevice) (found : Option Capability) : Option CommonConfig :=
  match found with
  | none => none
  | some cap =>
      match d.commonRegion cap.bar with
      | none => none
      | some (i, map) =>
          -- `uint32_t + unsigned`, compared with an `IOByteCount`
          if map.length < (cap.offset + 0x38).toNat then none
          else some ⟨i, map, map.virt + cap.offset.toNat, cap.offset, cap.bar⟩

variable {d : PciDevice} {bar : UInt8} {cap : Capability} {i j a : Nat} {m : Mapping}
  {r : MemoryRegion}

theorem mapAt_eq_some {x : Nat × Mapping} :
    d.mapAt i = some x ↔ ∃ r, d.regions[i]? = some r ∧ r.mapping = some x.2 ∧ x.1 = i := by
  rw [mapAt, Option.map_eq_some_iff]
  constructor
  · rintro ⟨m, hm, rfl⟩
    obtain ⟨r, hr, hmap⟩ := Option.bind_eq_some_iff.mp hm
    exact ⟨r, hr, hmap, rfl⟩
  · rintro ⟨r, hr, hmap, hi⟩
    exact ⟨x.2, Option.bind_eq_some_iff.mpr ⟨r, hr, hmap⟩, Prod.ext hi.symm rfl⟩

/-! ## Addresses -/

/-- The mask takes the flags off and the high half. -/
theorem and_mask (x : Nat) : x &&& 0xFFFFFFF0 = x % 2 ^ 32 / 2 ^ 4 * 2 ^ 4 := by
  have hmask : 0xFFFFFFF0 = (2 ^ 28 - 1) <<< 4 := rfl
  rw [← Nat.shiftLeft_eq, hmask]
  -- bit by bit: 28 of them are kept, from bit 4 on
  apply Nat.eq_of_testBit_eq
  intro i
  rw [Nat.testBit_and, Nat.testBit_shiftLeft, Nat.testBit_shiftLeft, Nat.testBit_two_pow_sub_one,
    Nat.testBit_div_two_pow, Nat.testBit_mod_two_pow]
  by_cases hi : 4 ≤ i
  · have hsum : i - 4 + 4 = i := Nat.sub_add_cancel hi
    have hlt : i - 4 < 28 ↔ i < 32 := by omega
    rw [hsum]
    simp only [hi, hlt, decide_true, Bool.true_and]
    exact Bool.and_comm _ _
  · simp only [ge_iff_le, hi, decide_false, Bool.false_and, Bool.and_false]

theorem and_mask_and_mask (x : Nat) : (x &&& 0xFFFFFFF0) &&& 0xFFFFFFF0 = x &&& 0xFFFFFFF0 := by
  rw [Nat.and_assoc]
  rfl

/-- The high half of an address does not show. -/
theorem or_and_mask (high low : Nat) :
    (high <<< 32 ||| (low &&& 0xFFFFFFF0)) &&& 0xFFFFFFF0 = low &&& 0xFFFFFFF0 := by
  rw [Nat.and_or_distrib_right, and_mask_and_mask]
  have hhigh : high <<< 32 &&& 0xFFFFFFF0 = 0 := by
    rw [and_mask, Nat.shiftLeft_eq, Nat.mul_mod_left]
    rfl
  rw [hhigh, Nat.zero_or]

/-- Both ways of reading a BAR agree on what `readCommonConfig` compares. -/
theorem commonBarPhys_and_mask (d : PciDevice) (bar : UInt8) :
    d.commonBarPhys bar &&& 0xFFFFFFF0 = d.barRegister bar &&& 0xFFFFFFF0 := by
  unfold commonBarPhys
  dsimp only
  split
  · exact or_and_mask _ _
  · exact and_mask_and_mask _

theorem barPhys_and_mask (d : PciDevice) (bar : UInt8) :
    d.barPhys bar &&& 0xFFFFFFF0 = d.barRegister bar &&& 0xFFFFFFF0 := by
  unfold barPhys
  dsimp only
  split
  · exact or_and_mask _ _
  · exact and_mask_and_mask _

theorem barAddress_eq_some (h : d.barAddress bar = some a) : bar < 6 ∧ d.barPhys bar = a := by
  unfold barAddress at h
  split at h
  · cases h
  next hbar =>
    refine ⟨UInt8.not_le.mp hbar, ?_⟩
    split at h
    · cases h
    split at h
    · cases h
    split at h
    · cases h
    · exact Option.some.inj h

/-! ## The region that is chosen -/

/-- The region `i` is one of the first six, and its address is that of the BAR in
what `readCommonConfig` compares. -/
def LowMatch (d : PciDevice) (bar : UInt8) (i : Nat) : Prop :=
  i < 6 ∧ ∃ r, d.regions[i]? = some r ∧
    r.phys &&& 0xFFFFFFF0 = d.barRegister bar &&& 0xFFFFFFF0

def FirstMatch (d : PciDevice) (bar : UInt8) (i : Nat) : Prop :=
  d.LowMatch bar i ∧ ∀ j < i, ¬ d.LowMatch bar j

theorem commonMatch_eq_some_iff : d.commonMatch bar = some i ↔ d.FirstMatch bar i := by
  have hget (j : Nat) (hj : j < (d.regions.take 6).length) :
      ((d.regions.take 6)[j].phys &&& 0xFFFFFFF0 == d.commonBarPhys bar &&& 0xFFFFFFF0) = true ↔
        d.LowMatch bar j := by
    rw [List.length_take, Nat.lt_min] at hj
    rw [commonBarPhys_and_mask, beq_iff_eq, List.getElem_take]
    constructor
    · intro heq
      exact ⟨hj.1, _, List.getElem?_eq_getElem hj.2, heq⟩
    · rintro ⟨-, r, hr, heq⟩
      rw [List.getElem?_eq_getElem hj.2] at hr
      rw [Option.some.inj hr]
      exact heq
  have hlength {j : Nat} (hj : d.LowMatch bar j) : j < (d.regions.take 6).length := by
    obtain ⟨hlt, r, hr, -⟩ := hj
    rw [List.length_take]
    exact Nat.lt_min.mpr ⟨hlt, (List.getElem?_eq_some_iff.mp hr).1⟩
  rw [commonMatch, List.findIdx?_eq_some_iff_getElem]
  constructor
  · rintro ⟨hi, hmatch, hfirst⟩
    refine ⟨(hget i hi).mp hmatch, fun j hj hlow => ?_⟩
    exact hfirst j hj ((hget j (Nat.lt_trans hj hi)).mpr hlow)
  · rintro ⟨hlow, hfirst⟩
    refine ⟨hlength hlow, (hget i _).mpr hlow, fun j hj hmatch => ?_⟩
    exact hfirst j hj ((hget j (Nat.lt_trans hj (hlength hlow))).mp hmatch)

theorem commonMatch_eq_none_iff : d.commonMatch bar = none ↔ ∀ i, ¬ d.LowMatch bar i := by
  constructor
  · intro h i
    -- the first match would be found
    induction i using Nat.strongRecOn with
    | ind i ih =>
        intro hlow
        rw [commonMatch_eq_some_iff.mpr ⟨hlow, ih⟩] at h
        cases h
  · intro h
    cases hmatch : d.commonMatch bar with
    | none => rfl
    | some i => exact absurd (commonMatch_eq_some_iff.mp hmatch).1 (h i)

/-- The region `i` is where the BAR says. -/
def AtAddress (d : PciDevice) (bar : UInt8) (i : Nat) : Prop :=
  ∃ a r, d.barAddress bar = some a ∧ d.regions[i]? = some r ∧ r.phys = a

/-- The check of the size, whose sum has 32 bits. -/
def TooSmall (cap : Capability) (m : Mapping) : Prop := m.length < (cap.offset + 0x38).toNat

/-- What is asked of `readCommonConfig`: it fails, or the region it chose is where the
BAR says, and has all of the structure. -/
def CommonConfigRight (d : PciDevice) (cap : Capability) : Prop :=
  ∀ cfg, d.readCommonConfig (some cap) = some cfg →
    d.AtAddress cap.bar cfg.region ∧ cfg.offset.toNat + 0x38 ≤ cfg.map.length

/-- The region `i` does, mapped as `m`. -/
def Fits (d : PciDevice) (cap : Capability) (i : Nat) (m : Mapping) : Prop :=
  TooSmall cap m ∨ d.AtAddress cap.bar i ∧ cap.offset.toNat + 0x38 ≤ m.length

/-- What makes `readCommonConfig` do what is asked: the first region with the low half
of the BAR's address does, or what it falls back on where that cannot be mapped; and
where there is none, what it falls back on is too small. -/
structure CommonFits (d : PciDevice) (cap : Capability) : Prop where
  matched : ∀ i m, d.FirstMatch cap.bar i → d.mapAt i = some (i, m) → d.Fits cap i m
  unmapped : ∀ i, d.FirstMatch cap.bar i → d.mapAt i = none →
    ∀ j m, d.commonFallback cap.bar = some (j, m) → d.Fits cap j m
  unmatched : (∀ i, ¬ d.LowMatch cap.bar i) →
    ∀ j m, d.commonFallback cap.bar = some (j, m) → TooSmall cap m

theorem mapAt_fst {x : Nat × Mapping} (h : d.mapAt i = some x) : x = (i, x.2) := by
  obtain ⟨r, -, -, hi⟩ := mapAt_eq_some.mp h
  exact Prod.ext hi rfl

/-- What `readCommonConfig` returns comes from the region that is chosen, if that is long
enough. -/
theorem region_of_readCommonConfig {cfg : CommonConfig}
    (h : d.readCommonConfig (some cap) = some cfg) :
    ∃ i m, d.commonRegion cap.bar = some (i, m) ∧ ¬ m.length < (cap.offset + 0x38).toNat ∧
      cfg = ⟨i, m, m.virt + cap.offset.toNat, cap.offset, cap.bar⟩ := by
  unfold readCommonConfig at h
  dsimp only at h
  split at h
  · cases h
  next i m hregion =>
    split at h
    · cases h
    next hsmall =>
      cases h
      exact ⟨i, m, hregion, hsmall, rfl⟩

/-- It comes down to the region that is chosen. -/
theorem commonConfigRight_iff_region :
    d.CommonConfigRight cap ↔ ∀ i m, d.commonRegion cap.bar = some (i, m) → d.Fits cap i m := by
  constructor
  · intro h i m hregion
    by_cases hsmall : m.length < (cap.offset + 0x38).toNat
    · exact .inl hsmall
    · refine .inr (h ⟨i, m, m.virt + cap.offset.toNat, cap.offset, cap.bar⟩ ?_)
      simp only [readCommonConfig, hregion, hsmall, if_false]
  · intro h cfg hcfg
    obtain ⟨i, m, hregion, hsmall, rfl⟩ := region_of_readCommonConfig hcfg
    exact (h i m hregion).resolve_left hsmall

theorem mem_of_commonFallback (h : d.commonFallback bar = some (j, m)) :
    ∃ r, d.regions[j]? = some r ∧ (j = bar.toNat ∨ bar = 4 ∧ j = 1) := by
  unfold commonFallback at h
  split at h
  next x hx =>
    cases h
    obtain ⟨r, hr, -, hi⟩ := mapAt_eq_some.mp hx
    have hj : j = bar.toNat := hi
    exact ⟨r, hj ▸ hr, .inl hj⟩
  next =>
    split at h
    next hbar =>
      obtain ⟨r, hr, -, hi⟩ := mapAt_eq_some.mp h
      have hj : j = 1 := hi
      exact ⟨r, hj ▸ hr, .inr ⟨hbar, hj⟩⟩
    · cases h

/-- Where no region has the low half of the address, none that is fallen back on has
the address. -/
theorem not_atAddress_of_unmatched (hnone : ∀ i, ¬ d.LowMatch bar i)
    (h : d.commonFallback bar = some (j, m)) : ¬ d.AtAddress bar j := by
  rintro ⟨a, r, ha, hr, hphys⟩
  obtain ⟨hbar, hlow⟩ := barAddress_eq_some ha
  obtain ⟨-, -, hj⟩ := mem_of_commonFallback h
  have hbar' : bar.toNat < 6 := hbar
  -- so it is one of the first six, which are all looked at
  have hlt : j < 6 := by
    rcases hj with rfl | ⟨-, rfl⟩
    · exact hbar'
    · decide
  refine hnone j ⟨hlt, r, hr, ?_⟩
  rw [hphys, ← hlow]
  exact barPhys_and_mask d bar

/-- **Exact condition.** -/
theorem commonConfigRight_iff (d : PciDevice) (cap : Capability) :
    d.CommonConfigRight cap ↔ d.CommonFits cap := by
  rw [commonConfigRight_iff_region]
  constructor
  · intro h
    refine ⟨fun i m hfirst hmap => h i m ?_, fun i hfirst hmap j m hfall => h j m ?_, ?_⟩
    · rw [commonRegion, commonMatch_eq_some_iff.mpr hfirst, Option.bind_some, hmap]
    · rw [commonRegion, commonMatch_eq_some_iff.mpr hfirst, Option.bind_some, hmap]
      exact hfall
    · intro hnone j m hfall
      have hregion : d.commonRegion cap.bar = some (j, m) := by
        rw [commonRegion, commonMatch_eq_none_iff.mpr hnone]
        exact hfall
      exact (h j m hregion).resolve_right fun hat => not_atAddress_of_unmatched hnone hfall hat.1
  · intro h i m hregion
    unfold commonRegion at hregion
    cases hmatch : d.commonMatch cap.bar with
    | none =>
        rw [hmatch] at hregion
        exact .inl (h.unmatched (commonMatch_eq_none_iff.mp hmatch) i m hregion)
    | some k =>
        have hfirst := commonMatch_eq_some_iff.mp hmatch
        rw [hmatch, Option.bind_some] at hregion
        cases hmap : d.mapAt k with
        | none =>
            rw [hmap] at hregion
            exact h.unmapped k hfirst hmap i m hregion
        | some x =>
            rw [hmap] at hregion
            have hx := mapAt_fst hmap
            cases hregion
            have hk : i = k := congrArg Prod.fst hx
            subst hk
            exact h.matched i m hfirst hmap

/-- Two regions that differ in the high half of their addresses, and the BAR of the
second one, BAR 2. -/
def highHalves : PciDevice where
  config :=
    { read8 := fun _ => 0
      read32 := fun p => if p = 0x18 then 0xE000000C else if p = 0x1C then 2 else 0 }
  regions :=
    [⟨0x1E0000000, 0x4000, some ⟨0x4000, 0x10000⟩⟩, ⟨0x2E0000000, 0x4000, some ⟨0x4000, 0x20000⟩⟩]

/-- `readCommonConfig` takes the region of the other one. -/
theorem highHalves_not_right : ¬ highHalves.CommonConfigRight ⟨2, 0x1000, 0x800⟩ := by
  intro h
  obtain ⟨⟨a, r, ha, hr, hphys⟩, -⟩ := h ⟨0, ⟨0x4000, 0x10000⟩, 0x11000, 0x1000, 2⟩ (by decide)
  have haddress : highHalves.barAddress 2 = some 0x2E0000000 := by decide
  rw [haddress] at ha
  cases ha
  cases hr
  exact absurd hphys (by decide)

/-! ## The region `mapBarByNumber` would choose -/

/-- What is cached was found so. -/
def Cached (d : PciDevice) (cache : UInt8 → Option (Nat × Mapping)) : Prop :=
  ∀ b x, cache b = some x → d.resolveBar b = some x

theorem resolveBar_of_ge (h : bar ≥ 6) : d.resolveBar bar = none := by
  rw [resolveBar, barAddress, if_pos h]
  rfl

/-- The cache makes no difference, and stays so. -/
theorem Cached.mapBarByNumber {cache : UInt8 → Option (Nat × Mapping)} (h : d.Cached cache)
    (bar : UInt8) :
    (d.mapBarByNumber cache bar).1 = d.resolveBar bar ∧
      d.Cached (d.mapBarByNumber cache bar).2 := by
  unfold PciDevice.mapBarByNumber
  split
  next hbar => exact ⟨(resolveBar_of_ge hbar).symm, h⟩
  next =>
    split
    next x hx => exact ⟨(h bar x hx).symm, h⟩
    next =>
      refine ⟨rfl, fun b x hx => ?_⟩
      dsimp only at hx
      split at hx
      next hb => exact hb ▸ hx
      next => exact h b x hx

theorem resolveBar_eq_some (h : d.resolveBar bar = some (i, m)) :
    ∃ a r, d.barAddress bar = some a ∧ d.regions[i]? = some r ∧ r.mapping = some m ∧
      r.phys = a := by
  obtain ⟨a, ha, hfound⟩ := Option.bind_eq_some_iff.mp h
  obtain ⟨k, hk, hmap⟩ := Option.bind_eq_some_iff.mp hfound
  obtain ⟨r, hr, hm, hi⟩ := mapAt_eq_some.mp hmap
  have hik : i = k := hi
  subst hik
  obtain ⟨hlen, hmatch, -⟩ := List.findIdx?_eq_some_iff_getElem.mp hk
  rw [List.length_take, Nat.lt_min] at hlen
  rw [List.getElem?_eq_getElem hlen.2] at hr
  rw [List.getElem_take, Option.some.inj hr, Bool.and_eq_true, beq_iff_eq] at hmatch
  exact ⟨a, r, ha, (List.getElem?_eq_getElem hlen.2).trans hr, hm, hmatch.2⟩

theorem resolveBar_of_atAddress (h : d.AtAddress bar i) (hi : i < 6)
    (hmap : d.mapAt i = some (i, m)) :
    ∃ j m', d.resolveBar bar = some (j, m') ∧ d.AtAddress bar j := by
  obtain ⟨a, r, ha, hr, hphys⟩ := h
  obtain ⟨r', hr', hm, -⟩ := mapAt_eq_some.mp hmap
  have hlen := (List.getElem?_eq_some_iff.mp hr).1
  have hmem : r ∈ d.regions.take 6 := by
    refine List.mem_take_iff_getElem.mpr ⟨i, Nat.lt_min.mpr ⟨hi, hlen⟩, ?_⟩
    exact (List.getElem?_eq_some_iff.mp hr).2
  have hmapped : r.mapping.isSome = true := by
    rw [hr] at hr'
    rw [Option.some.inj hr', hm]
    rfl
  -- the first that can be mapped at the address need not be `i` itself
  cases hfind : (d.regions.take 6).findIdx? fun r => r.mapping.isSome && r.phys == a with
  | none =>
      have hno := List.findIdx?_eq_none_iff.mp hfind r hmem
      rw [hmapped, hphys, beq_self_eq_true] at hno
      cases hno
  | some j =>
      obtain ⟨hj, hmatch, -⟩ := List.findIdx?_eq_some_iff_getElem.mp hfind
      rw [List.length_take, Nat.lt_min] at hj
      rw [List.getElem_take, Bool.and_eq_true, beq_iff_eq] at hmatch
      obtain ⟨m', hm'⟩ := Option.isSome_iff_exists.mp hmatch.1
      refine ⟨j, m', ?_, a, d.regions[j], ha, List.getElem?_eq_getElem hj.2, hmatch.2⟩
      rw [resolveBar, ha, Option.bind_some, hfind, Option.bind_some]
      exact mapAt_eq_some.mpr ⟨_, List.getElem?_eq_getElem hj.2, hm', rfl⟩

theorem commonRegion_eq_some (h : d.commonRegion bar = some (i, m)) (hat : d.AtAddress bar i) :
    i < 6 ∧ d.mapAt i = some (i, m) := by
  unfold commonRegion at h
  split at h
  next x hx =>
    cases h
    obtain ⟨k, hk, hmap⟩ := Option.bind_eq_some_iff.mp hx
    have hik : i = k := congrArg Prod.fst (mapAt_fst hmap)
    subst hik
    exact ⟨(commonMatch_eq_some_iff.mp hk).1.1, hmap⟩
  next =>
    have hbar : bar.toNat < 6 := by
      obtain ⟨a, -, ha, -⟩ := hat
      exact (barAddress_eq_some ha).1
    unfold commonFallback at h
    split at h
    next x hx =>
      cases h
      have hi : i = bar.toNat := congrArg Prod.fst (mapAt_fst hx)
      subst hi
      exact ⟨hbar, hx⟩
    next =>
      split at h
      · have hi : i = 1 := congrArg Prod.fst (mapAt_fst h)
        subst hi
        exact ⟨by decide, h⟩
      · cases h

/-- Where `readCommonConfig` does what is asked of it, `mapBarByNumber` would choose a
region at the same address. -/
theorem CommonConfigRight.resolveBar {cfg : CommonConfig} (h : d.CommonConfigRight cap)
    (hcfg : d.readCommonConfig (some cap) = some cfg) :
    ∃ j m, d.resolveBar cap.bar = some (j, m) ∧ d.AtAddress cap.bar j := by
  have hat := (h cfg hcfg).1
  obtain ⟨i, m, hregion, -, rfl⟩ := region_of_readCommonConfig hcfg
  obtain ⟨hi, hmap⟩ := commonRegion_eq_some hregion hat
  exact resolveBar_of_atAddress hat hi hmap

end PciDevice
end VMQemuVGA
