import Mathlib.Algebra.GroupWithZero.Nat
import VMQemuVGA.Lib.Rounding
import VMQemuVGA.Texture.Manager

/-! # How large a texture is

`calculateTextureSize` and `createTexture` each estimate the bytes of a texture, one with its
layers and samples, the other without, and both with a third of the first level for all the
others. What they estimate is the sum of the levels of all layers and samples. The factor of
the format is a `float`, so the size goes through single precision and back. -/

namespace VMQemuVGA

/-- A `VMTextureDescriptor` with all of the fields that its size depends on. -/
structure SizedDescriptor extends TextureDescriptor where
  arrayLength : Nat
  sampleCount : Nat
  deriving DecidableEq, Repr

/-- A value of 64 bits. -/
def wrap64 (n : Nat) : Nat := n % u64

namespace SizedDescriptor
variable (d : SizedDescriptor)

/-! ## calculateTextureSize -/

/-- `texture_array_length`, `texture_mipmap_levels` and `texture_sample_count` are at least
one. -/
def atLeastOne (n : Nat) : Nat := if n > 0 then n else 1

def layers : Nat := atLeastOne d.arrayLength

def levels : Nat := atLeastOne d.mipmapLevelCount

def samples : Nat := atLeastOne d.sampleCount

/-- `has_valid_dimensions`. -/
def validDimensions : Bool :=
  decide (0 < d.width ∧ d.width ≤ 16384 ∧ 0 < d.height ∧ d.height ≤ 16384 ∧ 0 < d.depth ∧
    d.depth ≤ 2048)

/-- `has_valid_format`. -/
def validFormat : Bool := decide (10 ≤ d.pixelFormat ∧ d.pixelFormat ≤ 81)

/-- The three checks; the last is always met. -/
def analysisChecks : List Bool := [d.validDimensions, d.validFormat, true]

/-- `1.0f`. Numbers of single precision between 1 and 2 are multiples of `2 ^ -23`, the unit
that they are counted in here. -/
def floatOne : Nat := 8388608

/-- `format_efficiency_factor`: the number that the constant stands for. -/
def efficiencyFactor : Nat :=
  match d.pixelFormat with
  | 25 => 9227469 -- 1.1f
  | 55 => 10066330 -- 1.2f
  | 115 => 10905190 -- 1.3f
  | 105 => 10485760 -- 1.25f
  | 125 => 12582912 -- 1.5f
  | _ => floatOne

/-- A 64-bit number as a `float`. -/
def single : Nat → Nat := Rounding.significant 24

/-- The product of a 64-bit number and the factor. Both the number and the product are
rounded; no exponent gets out of range. -/
def scaled (n : Nat) : Nat := single (single n * d.efficiencyFactor)

/-- The values of the calculation on the way. -/
structure Calculation where
  base : Nat
  mipmapOverhead : Nat
  multisamplingOverhead : Nat
  preAlignment : Nat
  padding : Nat
  padded : Nat
  total : Nat
  deriving DecidableEq, Repr

/-- The calculation, with values of the given width. The size of a pixel is that of
`createTexture`. The last value is what is left of the product without its fraction; a
product that 64 bits do not hold is taken to wrap as well. -/
def calculation (width : Nat → Nat) : Calculation :=
  let base := width (d.width * d.height * d.depth * d.pixelSize)
  let mipmapOverhead := if d.levels > 1 then base / 3 else 0
  let multisamplingOverhead := if d.samples > 1 then width (base * (d.samples - 1)) else 0
  let preAlignment := width ((base + mipmapOverhead + multisamplingOverhead) * d.layers)
  let padding := if 256 - preAlignment % 256 = 256 then 0 else 256 - preAlignment % 256
  let padded := width (preAlignment + padding + 128)
  ⟨base, mipmapOverhead, multisamplingOverhead, preAlignment, padding, padded,
    width (d.scaled padded / floatOne)⟩

def calculateTextureSize : Nat :=
  if passes 66 d.analysisChecks = false then 0
  else
    let total := (d.calculation wrap64).total
    if total > u32 - 1 then u32 - 1 else total

/-! ## createTexture -/

/-- `validation_score` is high enough. -/
def passesValidation (s : TextureManager) : Bool :=
  passes 85 (s.validationChecks d.toTextureDescriptor)

/-- `data_size`, the planned size as a `uint32_t`. -/
def dataSize : Nat := d.totalSize % u32

/-! ## What there is -/

/-- One level of one layer and sample. -/
def levelSize (level : Nat) : Nat :=
  max 1 (d.width >>> level) * max 1 (d.height >>> level) * d.depth * d.pixelSize

/-- All levels of all layers and samples. -/
def bytes : Nat := ((List.range d.levels).map d.levelSize).sum * d.samples * d.layers

/-- Both computations cover the texture. -/
structure Covered (s : TextureManager) (d : SizedDescriptor) : Prop where
  refused : d.calculateTextureSize = 0 ↔ ¬ (d.validDimensions = true ∧ d.validFormat = true)
  covers : d.validDimensions = true ∧ d.validFormat = true →
    min (u32 - 1) d.bytes ≤ d.calculateTextureSize
  plans : d.passesValidation s = true → d.bytes ≤ d.totalSize ∧ d.dataSize = d.totalSize
  /-- no value on the way wraps -/
  calculated : passes 66 d.analysisChecks = true → d.calculation wrap64 = d.calculation id
  estimated : d.estimatedSize =
    let size := d.width * d.height * d.depth * d.pixelSize
    if d.mipmapLevelCount > 1 then size + size / 3 else size

/-! ## When they do -/

/-- The first level. -/
def top : Nat := d.width * d.height * d.depth * d.pixelSize

/-- What is added for the other levels. -/
def third : Nat := if d.mipmapLevelCount > 1 then d.top / 3 else 0

/-- What `createTexture` adds once more. -/
def thirdAgain : Nat := if d.mipmapLevelCount > 1 then (d.top + d.third) / 3 else 0

/-- What the other levels take. -/
def lower : Nat := ((List.range' 1 (d.levels - 1)).map d.levelSize).sum

/-- From a size up to the next multiple of 256. -/
def padding (n : Nat) : Nat := (256 - n % 256) % 256

/-- All that the calculation counts, before the factor of the format. -/
def counted : Nat :=
  let size := (d.top * d.samples + d.third) * d.layers
  size + padding size + 128

/-- What rounding takes off the product, or adds to it. -/
def roundedOff : Int := ((d.counted * d.efficiencyFactor : Nat) : Int) - d.scaled d.counted

/-- The numbers are small enough, and what is added for the other levels (and in
`createTexture` for the other layers and samples) is as much as they take. -/
structure Roomy (s : TextureManager) (d : SizedDescriptor) : Prop where
  agree : d.validDimensions = d.validFormat
  counted : d.validDimensions = true → d.scaled d.counted / floatOne < u64
  estimate : d.top + d.third < u64
  lower : d.validDimensions = true →
    (u32 - 1) * floatOne ≤ d.scaled d.counted ∨
      ((d.lower * d.samples * d.layers * floatOne : Nat) : Int) + d.roundedOff ≤
        (d.top * d.samples * d.layers * (d.efficiencyFactor - floatOne) +
          (d.third * d.layers + padding ((d.top * d.samples + d.third) * d.layers) + 128) *
            d.efficiencyFactor : Nat)
  others : d.passesValidation s = true →
    d.top * (d.samples * d.layers - 1) + d.lower * d.samples * d.layers ≤
      d.third + d.thirdAgain + 1024 + (256 - (d.top + d.third + d.thirdAgain) % 256)

/-! ## The sizes in exact numbers -/

theorem wrap64_of_lt {n : Nat} (h : n < u64) : wrap64 n = n := Nat.mod_eq_of_lt h

theorem wrap64_lt (n : Nat) : wrap64 n < u64 := Nat.mod_lt _ (by decide)

theorem atLeastOne_pos (n : Nat) : 0 < atLeastOne n := by
  unfold atLeastOne
  split
  · assumption
  · exact Nat.one_pos

theorem one_lt_levels : d.levels > 1 ↔ d.mipmapLevelCount > 1 := by
  unfold levels atLeastOne
  split
  · exact Iff.rfl
  · omega

theorem efficiencyFactor_ge : floatOne ≤ d.efficiencyFactor := by
  unfold efficiencyFactor
  split <;> decide

/-- Neither rounding nor the factor takes a number below a power of two. -/
theorem two_pow_le_scaled {k n : Nat} (h : 2 ^ k ≤ n) : 2 ^ k ≤ d.scaled n / floatOne := by
  rw [Nat.le_div_iff_mul_le (by decide)]
  have hsingle : 2 ^ k ≤ single n := Rounding.two_pow_le_significant (by decide) h
  have hproduct : 2 ^ (k + 23) ≤ single n * d.efficiencyFactor := by
    rw [Nat.pow_add]
    exact Nat.mul_le_mul hsingle d.efficiencyFactor_ge
  have hscaled : 2 ^ (k + 23) ≤ d.scaled n :=
    Rounding.two_pow_le_significant (by decide) hproduct
  rwa [Nat.pow_add] at hscaled

theorem levelSize_zero (hw : 0 < d.width) (hh : 0 < d.height) : d.levelSize 0 = d.top := by
  rw [levelSize, Nat.shiftRight_zero, Nat.shiftRight_zero, Nat.max_eq_right hw,
    Nat.max_eq_right hh, top]

/-- The first level and the others. -/
theorem bytes_eq (hw : 0 < d.width) (hh : 0 < d.height) :
    d.bytes = (d.top + d.lower) * d.samples * d.layers := by
  have hpos : 0 < d.levels := atLeastOne_pos _
  rw [bytes, List.range_eq_range', ← Nat.sub_add_cancel hpos, List.range'_succ, List.map_cons,
    List.sum_cons, levelSize_zero d hw hh, Nat.zero_add, lower]

theorem padding_eq (n : Nat) :
    (if 256 - n % 256 = 256 then 0 else 256 - n % 256) = padding n := by
  unfold padding
  split
  · omega
  · omega

/-- The first level of all samples. -/
theorem top_samples :
    d.top + (if d.samples > 1 then d.top * (d.samples - 1) else 0) = d.top * d.samples := by
  have hpos : 0 < d.samples := atLeastOne_pos _
  obtain ⟨n, hn⟩ := Nat.exists_eq_add_of_lt hpos
  rw [hn, Nat.zero_add, Nat.add_sub_cancel, Nat.mul_succ]
  split
  · omega
  · have hzero : n = 0 := by omega
    rw [hzero, Nat.mul_zero, Nat.zero_add, Nat.add_zero]

/-- What is added up before the layers are counted. -/
theorem sum_parts :
    d.top + d.third + (if d.samples > 1 then d.top * (d.samples - 1) else 0) =
      d.top * d.samples + d.third := by
  rw [← top_samples]
  omega

/-- The calculation in exact numbers. -/
theorem calculation_id :
    d.calculation id =
      let pre := (d.top * d.samples + d.third) * d.layers
      ⟨d.top, d.third, if d.samples > 1 then d.top * (d.samples - 1) else 0, pre, padding pre,
        d.counted, d.scaled d.counted / floatOne⟩ := by
  have htop : d.width * d.height * d.depth * d.pixelSize = d.top := rfl
  have hthird : (if d.mipmapLevelCount > 1 then d.top / 3 else 0) = d.third := rfl
  simp only [calculation, id, padding_eq, one_lt_levels, htop, hthird, sum_parts]
  rfl

theorem le_counted : (d.top * d.samples + d.third) * d.layers ≤ d.counted := by
  show _ ≤ _ + _ + 128
  omega

theorem counted_lt (h : d.scaled d.counted / floatOne < u64) : d.counted < u64 :=
  Nat.lt_of_not_le fun hle => Nat.not_le.mpr h (d.two_pow_le_scaled (k := 64) hle)

/-- **No value wraps** exactly if the last one does not. -/
theorem calculation_exact_iff :
    d.calculation wrap64 = d.calculation id ↔ d.scaled d.counted / floatOne < u64 := by
  constructor
  · intro h
    have htotal : (d.calculation wrap64).total = d.scaled d.counted / floatOne := by
      rw [h, calculation_id]
    exact htotal ▸ wrap64_lt _
  · intro h
    have hcounted : d.counted < u64 := d.counted_lt h
    have hpre := Nat.lt_of_le_of_lt d.le_counted hcounted
    have hsum : d.top * d.samples + d.third < u64 :=
      Nat.lt_of_le_of_lt (Nat.le_mul_of_pos_right _ (atLeastOne_pos _)) hpre
    have hparts := d.sum_parts
    have htop : d.top < u64 := by omega
    have hbase : wrap64 (d.width * d.height * d.depth * d.pixelSize) = d.top := wrap64_of_lt htop
    have hthird : (if d.mipmapLevelCount > 1 then d.top / 3 else 0) = d.third := rfl
    have hsamples : (if d.samples > 1 then wrap64 (d.top * (d.samples - 1)) else 0) =
        if d.samples > 1 then d.top * (d.samples - 1) else 0 := by
      split
      · next hmany =>
        rw [if_pos hmany] at hparts
        exact wrap64_of_lt (by omega)
      · rfl
    have hpadded : (d.top * d.samples + d.third) * d.layers +
        padding ((d.top * d.samples + d.third) * d.layers) + 128 = d.counted := rfl
    rw [calculation_id]
    simp only [calculation, padding_eq, one_lt_levels, hbase, hthird, hsamples, sum_parts,
      wrap64_of_lt hpre, hpadded, wrap64_of_lt hcounted, wrap64_of_lt h]

/-- What the calculation counts besides the first levels, less what rounding takes off. -/
theorem bytes_le_total_iff (hw : 0 < d.width) (hh : 0 < d.height) :
    d.bytes ≤ d.scaled d.counted / floatOne ↔
      ((d.lower * d.samples * d.layers * floatOne : Nat) : Int) + d.roundedOff ≤
        (d.top * d.samples * d.layers * (d.efficiencyFactor - floatOne) +
          (d.third * d.layers + padding ((d.top * d.samples + d.third) * d.layers) + 128) *
            d.efficiencyFactor : Nat) := by
  have hcounted : d.counted = d.top * d.samples * d.layers +
      (d.third * d.layers + padding ((d.top * d.samples + d.third) * d.layers) + 128) := by
    rw [counted, Nat.add_mul]
    omega
  rw [Nat.le_div_iff_mul_le (by decide), roundedOff]
  generalize d.scaled d.counted = product
  obtain ⟨surplus, hsurplus⟩ := Nat.exists_eq_add_of_le d.efficiencyFactor_ge
  rw [bytes_eq d hw hh, hcounted, hsurplus, Nat.add_sub_cancel_left, Nat.add_mul d.top,
    Nat.add_mul, Nat.add_mul]
  generalize d.lower * d.samples * d.layers = others
  generalize d.top * d.samples * d.layers = first
  generalize d.third * d.layers + _ + 128 = rest
  rw [Nat.add_mul first, Nat.mul_add first]
  omega

/-! ## The checks -/

/-- Two of the three checks are enough. -/
theorem passes_analysis_iff :
    passes 66 d.analysisChecks = true ↔ d.validDimensions = true ∨ d.validFormat = true := by
  unfold analysisChecks
  cases d.validDimensions with
  | false =>
      cases d.validFormat with
      | false => decide
      | true => decide
  | true =>
      cases d.validFormat with
      | false => decide
      | true => decide

/-- Where the calculation is made and no value wraps. -/
theorem calculateTextureSize_eq (hpasses : passes 66 d.analysisChecks = true)
    (h : d.scaled d.counted / floatOne < u64) :
    d.calculateTextureSize = min (u32 - 1) (d.scaled d.counted / floatOne) := by
  rw [calculateTextureSize, hpasses, if_neg (by decide), (calculation_exact_iff d).mpr h,
    calculation_id]
  dsimp only
  split
  · omega
  · omega

theorem calculateTextureSize_pos (hpasses : passes 66 d.analysisChecks = true)
    (h : d.scaled d.counted / floatOne < u64) : d.calculateTextureSize ≠ 0 := by
  have hcounted : 2 ^ 7 ≤ d.counted := by
    rw [counted]
    omega
  have htotal := d.two_pow_le_scaled hcounted
  rw [calculateTextureSize_eq d hpasses h, u32_eq]
  omega

theorem estimatedSize_lt : d.estimatedSize < u64 := by
  unfold TextureDescriptor.estimatedSize
  dsimp only
  split
  · exact Nat.mod_lt _ (by decide)
  · exact Nat.mod_lt _ (by decide)

/-- **The estimate** of `createTexture` wraps or does not. -/
theorem estimatedSize_eq_iff :
    d.estimatedSize =
        (let size := d.width * d.height * d.depth * d.pixelSize
        if d.mipmapLevelCount > 1 then size + size / 3 else size) ↔ d.top + d.third < u64 := by
  have hexact : (let size := d.width * d.height * d.depth * d.pixelSize
      if d.mipmapLevelCount > 1 then size + size / 3 else size) = d.top + d.third := by
    unfold third top
    dsimp only
    split
    · rfl
    · rfl
  rw [hexact]
  constructor
  · intro h
    exact h ▸ d.estimatedSize_lt
  · intro h
    have htop : d.top < u64 := by omega
    rw [← hexact] at h ⊢
    unfold TextureDescriptor.estimatedSize
    dsimp only at h ⊢
    change d.top < u64 at htop
    unfold top at htop
    rw [Nat.mod_eq_of_lt htop]
    split at h
    · next hmany => rw [if_pos hmany, if_pos hmany, Nat.mod_eq_of_lt h]
    · next hone => rw [if_neg hone, if_neg hone]

variable {d} {s : TextureManager}

/-- All six checks are needed. -/
theorem checks_of_passesValidation (h : d.passesValidation s = true) :
    d.validDimensions = true ∧ d.estimatedSize ≤ 256 * megabyte := by
  have hscore : (s.validationChecks d.toTextureDescriptor).count true * 100 ≥ 85 * 6 :=
    of_decide_eq_true h
  have hcount : (s.validationChecks d.toTextureDescriptor).count true =
      (s.validationChecks d.toTextureDescriptor).length := by
    have hle := List.count_le_length (a := true) (l := s.validationChecks d.toTextureDescriptor)
    have hlength : (s.validationChecks d.toTextureDescriptor).length = 6 := rfl
    omega
  have hall := List.count_eq_length.mp hcount
  constructor
  · exact (hall _ (List.mem_cons_self ..)).symm
  · have hfeasible := hall (decide
      (d.estimatedSize ≤ sub64 s.maxTextureMemory s.textureMemoryUsage ∧
        d.estimatedSize ≤ 256 * megabyte)) (by simp [TextureManager.validationChecks])
    exact (of_decide_eq_true hfeasible.symm).2

theorem pos_of_validDimensions (h : d.validDimensions = true) : 0 < d.width ∧ 0 < d.height := by
  obtain ⟨hw, -, hh, -⟩ := of_decide_eq_true h
  exact ⟨hw, hh⟩

/-- The plan in exact numbers. -/
theorem totalSize_eq (h : d.top + d.third < u64) :
    d.totalSize = d.top + d.third + d.thirdAgain + 1024 +
      (256 - (d.top + d.third + d.thirdAgain) % 256) := by
  have hestimated : d.estimatedSize = d.top + d.third := by
    rw [d.estimatedSize_eq_iff.mpr h]
    unfold third top
    dsimp only
    split
    · rfl
    · rfl
  rw [TextureDescriptor.totalSize, TextureDescriptor.mipmapMemory, hestimated]
  rfl

/-- **The plan** is large enough for the other layers and samples and the other levels, or
it is not. -/
theorem bytes_le_totalSize_iff (hdimensions : d.validDimensions = true)
    (h : d.top + d.third < u64) : d.bytes ≤ d.totalSize ↔
      d.top * (d.samples * d.layers - 1) + d.lower * d.samples * d.layers ≤
        d.third + d.thirdAgain + 1024 + (256 - (d.top + d.third + d.thirdAgain) % 256) := by
  obtain ⟨hw, hh⟩ := pos_of_validDimensions hdimensions
  have hpos : 0 < d.samples * d.layers := Nat.mul_pos (atLeastOne_pos _) (atLeastOne_pos _)
  obtain ⟨n, hn⟩ := Nat.exists_eq_add_of_lt hpos
  have hfirst : d.top * d.samples * d.layers = d.top + d.top * (d.samples * d.layers - 1) := by
    rw [Nat.mul_assoc, hn, Nat.zero_add, Nat.add_sub_cancel, Nat.mul_succ, Nat.add_comm]
  rw [bytes_eq d hw hh, Nat.add_mul, Nat.add_mul, hfirst, totalSize_eq h]
  omega

/-- A plan that was let past fits 32 bits. -/
theorem dataSize_eq (h : d.passesValidation s = true) : d.dataSize = d.totalSize := by
  have hestimated := (checks_of_passesValidation h).2
  have hmipmap : d.mipmapMemory ≤ d.estimatedSize := by
    unfold TextureDescriptor.mipmapMemory
    split
    · exact Nat.div_le_self _ _
    · exact Nat.zero_le _
  refine Nat.mod_eq_of_lt ?_
  rw [megabyte] at hestimated
  rw [TextureDescriptor.totalSize, u32_eq]
  omega

/-! ## Both computations -/

/-- **The sizes cover the texture** exactly if there is room for all that they leave out. -/
theorem covered_iff (s : TextureManager) (d : SizedDescriptor) : Covered s d ↔ Roomy s d := by
  constructor
  · intro h
    have hcounted (hpasses : d.validDimensions = true ∨ d.validFormat = true) :=
      (calculation_exact_iff d).mp (h.calculated (d.passes_analysis_iff.mpr hpasses))
    have hagree : d.validDimensions = d.validFormat := by
      by_cases hvalid : d.validDimensions = true ∨ d.validFormat = true
      · have hpos := d.calculateTextureSize_pos (d.passes_analysis_iff.mpr hvalid) (hcounted hvalid)
        have hboth := not_not.mp (mt h.refused.mpr hpos)
        rw [hboth.1, hboth.2]
      · obtain ⟨hdimensions, hformat⟩ := not_or.mp hvalid
        rw [eq_false_of_ne_true hdimensions, eq_false_of_ne_true hformat]
    have hestimate := d.estimatedSize_eq_iff.mp h.estimated
    refine ⟨hagree, fun hdimensions => hcounted (Or.inl hdimensions), hestimate, ?_, ?_⟩
    · intro hdimensions
      obtain ⟨hw, hh⟩ := pos_of_validDimensions hdimensions
      have hcovers := h.covers ⟨hdimensions, hagree ▸ hdimensions⟩
      rw [d.calculateTextureSize_eq (d.passes_analysis_iff.mpr (Or.inl hdimensions))
        (hcounted (Or.inl hdimensions))] at hcovers
      rw [← bytes_le_total_iff d hw hh, ← Nat.le_div_iff_mul_le (by decide)]
      omega
    · intro hpasses
      have hdimensions := (checks_of_passesValidation hpasses).1
      exact (bytes_le_totalSize_iff hdimensions hestimate).mp (h.plans hpasses).1
  · intro h
    have hpasses (hvalid : d.validDimensions = true ∨ d.validFormat = true) :
        d.validDimensions = true := hvalid.elim id fun hformat => h.agree ▸ hformat
    constructor
    · by_cases hvalid : d.validDimensions = true ∨ d.validFormat = true
      · have hdimensions := hpasses hvalid
        have hpos := d.calculateTextureSize_pos (d.passes_analysis_iff.mpr hvalid)
          (h.counted hdimensions)
        exact iff_of_false hpos (not_not_intro ⟨hdimensions, h.agree ▸ hdimensions⟩)
      · have hrefused := eq_false_of_ne_true (mt d.passes_analysis_iff.mp hvalid)
        refine iff_of_true ?_ fun hboth => hvalid (Or.inl hboth.1)
        rw [calculateTextureSize, if_pos hrefused]
    · rintro ⟨hdimensions, hformat⟩
      obtain ⟨hw, hh⟩ := pos_of_validDimensions hdimensions
      have hroom := h.lower hdimensions
      rw [← bytes_le_total_iff d hw hh, ← Nat.le_div_iff_mul_le (by decide)] at hroom
      rw [d.calculateTextureSize_eq (d.passes_analysis_iff.mpr (Or.inl hdimensions))
        (h.counted hdimensions)]
      omega
    · intro hvalidation
      have hdimensions := (checks_of_passesValidation hvalidation).1
      exact ⟨(bytes_le_totalSize_iff hdimensions h.estimate).mpr (h.others hvalidation),
        dataSize_eq hvalidation⟩
    · intro hanalysis
      have hdimensions := hpasses (d.passes_analysis_iff.mp hanalysis)
      exact (calculation_exact_iff d).mpr (h.counted hdimensions)
    · exact d.estimatedSize_eq_iff.mpr h.estimate

/-- With few lower levels rounding alone can take off more than they leave. -/
example : calculateTextureSize ⟨⟨70, 16384, 8192, 1, 15⟩, 3, 1⟩ = 2 ^ 31 ∧
    bytes ⟨⟨70, 16384, 8192, 1, 15⟩, 3, 1⟩ = 2 ^ 31 + 4 := by decide

/-- A 64-bit format is outside the range, and gets a size. -/
theorem not_covered_rgba16 : ¬ Covered .init ⟨⟨115, 64, 64, 1, 1⟩, 1, 1⟩ := by
  intro h
  exact absurd (h.refused.mpr (by decide)) (by decide)

end SizedDescriptor
end VMQemuVGA
