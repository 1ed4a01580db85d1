import VMQemuVGA.Texture.Usage
import VMQemuVGA.Texture.Regions
import VMQemuVGA.Lib.Counted
import VMQemuVGA.Lib.LockTrace

/-! # Generating a range of mip levels

`generateMipmaps(texture_id, base_level, max_level)` with its loops, its lock and its shifts.
The sizes of the levels are added up before the range is checked, in a loop whose bound is the
last level that is asked for. -/

namespace VMQemuVGA

/-! ## The sizes of the levels -/

/-- The side of the next level. -/
def halved (side : Nat) : Nat := if side > 1 then side >>> 1 else 1

/-- `mip_width`, `mip_height` and `range_memory_requirements`. -/
structure RangeAnalysis where
  width : Nat
  height : Nat
  memory : Nat
  deriving DecidableEq, Repr

namespace RangeAnalysis

/-- `base_level_width` and `base_level_height`. -/
def start (base : Nat) : RangeAnalysis :=
  let side := shr32 1024 base
  ⟨if side > 0 then side else 1, if side > 0 then side else 1, 0⟩

/-- One level further, with a depth of one and four bytes a pixel. -/
def next (a : RangeAnalysis) : RangeAnalysis :=
  ⟨halved a.width, halved a.height, a.memory + halved a.width * halved a.height * 1 * 4⟩

/-- The loop over the levels. -/
def loop (last : Nat) : Loop (Nat × RangeAnalysis) RangeAnalysis :=
  .counted u32 1 last fun _ a => a.next

end RangeAnalysis

/-! ## The levels -/

/-- `range_generation_method`. -/
inductive GenerationMethod where
  | cascade
  | batched
  | staged
  deriving DecidableEq, Repr

namespace GenerationMethod

def select (base last : Nat) : GenerationMethod :=
  if last - base ≤ 3 ∧ (RangeAnalysis.start base).width ≥ 64 then cascade
  else if last - base ≤ 6 then batched
  else staged

/-- The levels from `batch_start` to `batch_end`. -/
def batch (last start : Nat) : List Nat :=
  List.range' start ((if start + 3 - 1 > last then last else start + 3 - 1) + 1 - start)

/-- The loop of the method, with the levels in the order in which it generates them. -/
def loop (last : Nat) : GenerationMethod → Loop (Nat × List Nat) (List Nat)
  | cascade => .counted u32 1 last fun level levels => levels ++ [level]
  | batched => .counted u32 3 last fun start levels => levels ++ batch last start
  | staged => .counted u32 1 last fun level levels => levels ++ [level]

end GenerationMethod

/-! ## The call -/

/-- What a call returns and leaves, with what it did to the lock, the amounts of its shifts
apart from those by one, and the levels it has generated. -/
structure RangeOutcome where
  ret : IOReturn
  manager : TextureManager
  trace : LockTrace
  shifts : List Nat
  levels : List Nat
  deriving DecidableEq, Repr

namespace TextureManager
variable (s : TextureManager)

/-- The call ends before it takes the lock. -/
def turnedAway (ret : IOReturn) : RangeOutcome := ⟨ret, s, [], [], []⟩

/-- The seven checks, for a texture that exists and a range that fits it. -/
def analysisChecks (base last : Nat) (a : RangeAnalysis) : List Bool :=
  [true, true, true, true, decide (last - base > 0), decide (a.memory ≤ 32 * megabyte),
    decide ((RangeAnalysis.start base).width > 0 ∧ (RangeAnalysis.start base).height > 0)]

/-- The call once the sizes are added up. -/
def finishRange (fuel base last : Nat) (a : RangeAnalysis) : Option RangeOutcome :=
  if rangeFits base last = false then
    some ⟨.badArgument, s, [.lock, .unlock], [base, base], []⟩
  else if passes 75 (analysisChecks base last a) = false then
    some ⟨.unsupported, s, [.lock, .unlock], [base, base], []⟩
  else
    (((GenerationMethod.select base last).loop last).run fuel (base + 1, [])).map fun levels =>
      if levels.length = last - base then
        ⟨.success, s.charge a.memory, [.lock, .unlock], [base, base], levels⟩
      -- `kIOReturnIOError`
      else ⟨.error, s, [.lock, .unlock], [base, base], levels⟩

/-- The call, with fuel for its loops; `hasLock` says whether there is an `m_texture_lock`. -/
def generateRange (fuel : Nat) (hasLock : Bool) (id base last : Nat) : Option RangeOutcome :=
  if id = 0 then some (s.turnedAway .badArgument)
  else if base ≥ last then some (s.turnedAway .badArgument)
  else if hasLock = false then some (s.turnedAway .notReady)
  else if s.known id = false then some ⟨.notFound, s, [.lock, .unlock], [], []⟩
  else
    ((RangeAnalysis.loop last).run fuel (base + 1, .start base)).bind
      (s.finishRange fuel base last)

/-- The call comes to an end. -/
def Generates (hasLock : Bool) (id base last : Nat) (o : RangeOutcome) : Prop :=
  ∃ fuel, s.generateRange fuel hasLock id base last = some o

/-- The call ends, with the lock free and every shift one that the language defines; where it
succeeds each level of the texture after the base level is generated once, if it was asked
for. -/
def RangeRight (hasLock : Bool) (id base last : Nat) : Prop :=
  ∃ o, s.Generates hasLock id base last o ∧ LockEvent.Balanced o.trace ∧ (∀ k ∈ o.shifts, k < 32) ∧
    (o.ret = .success → ∀ level,
      o.levels.count level =
        if base < level ∧ level ≤ last ∧ level < mipLevels 1024 then 1 else 0)

end TextureManager

/-! ## The loops -/

namespace RangeAnalysis

theorem halved_side (side level : Nat) :
    halved (max 1 (side >>> level)) = max 1 (side >>> (level + 1)) := by
  rw [halved, Nat.shiftRight_succ, Nat.shiftRight_succ, Nat.shiftRight_zero]
  split
  · omega
  · omega

/-- What the levels of a texture of `1024 × 1024` take is added up. -/
theorem foldl_next (base n memory : Nat) :
    (List.range' (base + 1) n).foldl (fun (a : RangeAnalysis) _ => a.next)
        ⟨max 1 (1024 >>> base), max 1 (1024 >>> base), memory⟩ =
      ⟨max 1 (1024 >>> (base + n)), max 1 (1024 >>> (base + n)),
        memory + levelsBytes ((List.range' (base + 1) n).map fun level =>
          (level, levelBytes 1024 level))⟩ := by
  induction n generalizing base memory with
  | zero => rfl
  | succ n ih =>
      rw [List.range'_succ, List.foldl_cons, next, halved_side, ih, Nat.add_right_comm base 1 n]
      simp only [Nat.add_assoc, levelsBytes, List.map_cons, List.sum_cons, levelBytes, Nat.mul_one]

theorem start_of_lt {base : Nat} (h : base < 32) :
    start base = ⟨max 1 (1024 >>> base), max 1 (1024 >>> base), 0⟩ := by
  have hside (n : Nat) : (if n > 0 then n else 1) = max 1 n := by
    split
    · omega
    · omega
  rw [start, shr32, Nat.mod_eq_of_lt h, hside]

/-- The loop ends, with the sizes of the levels where the shift is defined. -/
theorem loop_returns (base : Nat) {last : Nat} (hlast : last + 1 < u32) :
    ∃ a, (loop last).Returns (base + 1, start base) a ∧
      (base < 32 → a.memory = levelsBytes (sizedLevels 1024 base last)) := by
  refine ⟨_, Loop.counted_returns Nat.one_pos hlast, fun hbase => ?_⟩
  rw [Loop.counts_one, start_of_lt hbase, Nat.add_sub_add_right, foldl_next, Nat.zero_add]
  rfl

end RangeAnalysis

namespace GenerationMethod

theorem batch_eq (last start : Nat) :
    batch last start = List.range' start (min (start + 3 - 1) last + 1 - start) := by
  rw [batch]
  congr 3
  split
  · omega
  · omega

/-- **Each method** generates the levels after the base level, in order. -/
theorem loop_returns (m : GenerationMethod) (base : Nat) {last : Nat} (hlast : last + 3 < u32) :
    (m.loop last).Returns (base + 1, []) (List.range' (base + 1) (last - base)) := by
  have hone : last + 1 < u32 := by omega
  have hthree : 0 < 3 := by decide
  rw [← Nat.add_sub_add_right last 1 base, ← List.nil_append (List.range' _ _)]
  cases m with
  | cascade =>
      rw [loop, ← Loop.foldl_counts_one]
      exact Loop.counted_returns Nat.one_pos hone
  | batched =>
      simp only [loop, batch_eq]
      rw [← Loop.foldl_counts_batches hthree]
      exact Loop.counted_returns hthree hlast
  | staged =>
      rw [loop, ← Loop.foldl_counts_one]
      exact Loop.counted_returns Nat.one_pos hone

end GenerationMethod

/-! ## The outcome -/

namespace TextureManager
variable (s : TextureManager) {id base last : Nat} {o : RangeOutcome}

/-- What becomes of a range of a known texture whose sizes can be added up. -/
def rangeOutcome (base last : Nat) : RangeOutcome :=
  if last ≤ 11 then
    ⟨.success, s.charge (levelsBytes (sizedLevels 1024 base last)), [.lock, .unlock], [base, base],
      List.range' (base + 1) (last - base)⟩
  else ⟨.badArgument, s, [.lock, .unlock], [base, base], []⟩

theorem analysisChecks_eq {a : RangeAnalysis} (hbase : base < 32)
    (ha : a.memory = levelsBytes (sizedLevels 1024 base last)) :
    analysisChecks base last a = rangeChecks base last := by
  simp only [analysisChecks, rangeChecks, ha, RangeAnalysis.start_of_lt hbase, and_self]

variable {s}

/-- More fuel changes nothing. -/
theorem finishRange_mono {n m : Nat} {a : RangeAnalysis} (hle : n ≤ m)
    (h : s.finishRange n base last a = some o) : s.finishRange m base last a = some o := by
  unfold finishRange at h ⊢
  split at h
  case isTrue hbad => rw [if_pos hbad, h]
  case isFalse hfits =>
    rw [if_neg hfits]
    split at h
    case isTrue hfailed => rw [if_pos hfailed, h]
    case isFalse hpassed =>
      obtain ⟨levels, hrun, hlevels⟩ := Option.map_eq_some_iff.mp h
      rw [if_neg hpassed, Loop.run_mono hle hrun, Option.map_some, hlevels]

/-- A call that gets as far as the analysis. -/
theorem generateRange_known (fuel : Nat) (hid : id ≠ 0) (hlt : base < last)
    (hknown : s.known id = true) :
    s.generateRange fuel true id base last =
      ((RangeAnalysis.loop last).run fuel (base + 1, .start base)).bind
        (s.finishRange fuel base last) := by
  rw [generateRange, if_neg hid, if_neg (Nat.not_le_of_lt hlt), if_neg (by decide),
    if_neg (by rw [hknown]; decide)]

/-- **A known texture.** With enough fuel the outcome is there, with less it is not another. -/
theorem generates_known_iff (hid : id ≠ 0) (hlt : base < last) (hknown : s.known id = true)
    (hlast : last + 1 < u32) :
    s.Generates true id base last o ↔ o = s.rangeOutcome base last := by
  obtain ⟨a, ⟨n, hn⟩, ha⟩ := RangeAnalysis.loop_returns base hlast
  have hfinish : ∃ fuel, s.finishRange fuel base last a = some (s.rangeOutcome base last) := by
    by_cases hfits : last ≤ 11
    · have hmemory := ha (by omega)
      have hchecks := (range_sizes last (by omega) base hlt).1
      obtain ⟨m, hm⟩ := (GenerationMethod.select base last).loop_returns base
        (show last + 3 < u32 by rw [u32_eq]; omega)
      refine ⟨m, ?_⟩
      rw [finishRange, (rangeFits_iff hlt).mpr hfits, analysisChecks_eq (by omega) hmemory,
        hchecks, hm, Option.map_some, List.length_range', if_pos rfl, rangeOutcome, if_pos hfits,
        hmemory]
      rfl
    · have hbad : rangeFits base last = false :=
        eq_false_of_ne_true fun hf => hfits ((rangeFits_iff hlt).mp hf)
      exact ⟨0, by rw [finishRange, if_pos hbad, rangeOutcome, if_neg hfits]⟩
  obtain ⟨m, hm⟩ := hfinish
  constructor
  · rintro ⟨fuel, h⟩
    rw [generateRange_known fuel hid hlt hknown, Option.bind_eq_some_iff] at h
    obtain ⟨a', hrun, ho⟩ := h
    obtain rfl : a' = a := Loop.Returns.unique ⟨fuel, hrun⟩ ⟨n, hn⟩
    have ho' := finishRange_mono (Nat.le_max_left fuel m) ho
    rw [finishRange_mono (Nat.le_max_right fuel m) hm] at ho'
    exact (Option.some.inj ho').symm
  · rintro rfl
    refine ⟨max n m, ?_⟩
    rw [generateRange_known _ hid hlt hknown, Loop.run_mono (Nat.le_max_left n m) hn,
      Option.bind_some, finishRange_mono (Nat.le_max_right n m) hm]

/-- Up to the largest level the sizes are added up without an end. -/
theorem not_generates_of_largest (hid : id ≠ 0) (hlt : base < last) (hknown : s.known id = true)
    (hlast : last + 1 = u32) : ¬ s.Generates true id base last o := by
  rintro ⟨fuel, h⟩
  rw [generateRange_known fuel hid hlt hknown, Option.bind_eq_some_iff] at h
  obtain ⟨a, hrun, -⟩ := h
  exact Loop.not_halts_counted hlast hlt ⟨a, fuel, hrun⟩

/-- A call that does not get as far as that. -/
theorem generateRange_refused {hasLock : Bool}
    (h : id = 0 ∨ base ≥ last ∨ hasLock = false ∨ s.known id = false) :
    ∃ o, (∀ fuel, s.generateRange fuel hasLock id base last = some o) ∧
      LockEvent.Balanced o.trace ∧ o.shifts = [] ∧ o.ret ≠ .success ∧
        (hasLock = true → s.generateMipmapsRange id base last = some (o.ret, o.manager)) := by
  unfold generateRange generateMipmapsRange
  by_cases hid : id = 0
  · simp only [if_pos hid]
    exact ⟨_, fun _ => rfl, LockEvent.balanced_nil, rfl, by simp [turnedAway], fun _ => rfl⟩
  simp only [if_neg hid]
  by_cases hbase : base ≥ last
  · simp only [if_pos hbase]
    exact ⟨_, fun _ => rfl, LockEvent.balanced_nil, rfl, by simp [turnedAway], fun _ => rfl⟩
  simp only [if_neg hbase]
  cases hasLock with
  | false =>
      exact ⟨_, fun _ => rfl, LockEvent.balanced_nil, rfl, by simp [turnedAway], by simp⟩
  | true =>
      have hknown : s.known id = false := by simpa [hid, hbase] using h
      simp only [if_pos hknown]
      exact ⟨_, fun _ => rfl, LockEvent.balanced_pair, rfl, by simp, fun _ => rfl⟩

/-- **The two models of the call agree.** -/
theorem generates_iff_generateMipmapsRange (hlast : last < u32) {r : IOReturn × TextureManager} :
    (∃ o, s.Generates true id base last o ∧ (o.ret, o.manager) = r) ↔
      s.generateMipmapsRange id base last = some r := by
  by_cases h : id = 0 ∨ base ≥ last ∨ true = false ∨ s.known id = false
  · obtain ⟨o, hruns, -, -, -, hret⟩ := generateRange_refused h
    rw [hret rfl]
    constructor
    · rintro ⟨o', ⟨fuel, ho'⟩, rfl⟩
      obtain rfl : o = o' := Option.some.inj ((hruns fuel).symm.trans ho')
      rfl
    · intro hr
      exact ⟨o, ⟨0, hruns 0⟩, Option.some.inj hr⟩
  · obtain ⟨hid, hbase, -, hknown⟩ : id ≠ 0 ∧ ¬ base ≥ last ∧ True ∧ s.known id = true := by
      simpa using h
    have hlt : base < last := Nat.lt_of_not_le hbase
    have hpast : ¬ s.known id = false := by simp [hknown]
    rw [generateMipmapsRange, if_neg hid, if_neg hbase, if_neg hpast]
    rcases Nat.lt_or_eq_of_le (Nat.succ_le_of_lt hlast) with hless | hlargest
    · rw [if_neg (by omega)]
      simp only [generates_known_iff hid hlt hknown hless, exists_eq_left, rangeOutcome]
      by_cases hfits : last ≤ 11
      · rw [if_pos hfits, (rangeFits_iff hlt).mpr hfits,
          (range_sizes last (by omega) base hlt).1]
        exact (Option.some_inj).symm
      · have hbad : rangeFits base last = false :=
          eq_false_of_ne_true fun hf => hfits ((rangeFits_iff hlt).mp hf)
        rw [if_neg hfits, if_pos hbad, Option.some.injEq]
    · rw [if_pos (by omega)]
      refine iff_of_false ?_ (by simp)
      rintro ⟨o, ho, -⟩
      exact not_generates_of_largest hid hlt hknown hlargest ho

/-! ## When it is right -/

/-- **A known texture.** -/
theorem rangeOutcome_right_iff (hlt : base < last) :
    (LockEvent.Balanced (s.rangeOutcome base last).trace ∧
      (∀ k ∈ (s.rangeOutcome base last).shifts, k < 32) ∧
      ((s.rangeOutcome base last).ret = .success → ∀ level,
        (s.rangeOutcome base last).levels.count level =
          if base < level ∧ level ≤ last ∧ level < mipLevels 1024 then 1 else 0)) ↔
      base < 32 ∧ last ≠ 11 := by
  have hmax : mipLevels 1024 = 11 := by decide
  rw [hmax, rangeOutcome]
  split
  case isFalse hover =>
    simp only [LockEvent.balanced_pair, List.mem_cons, List.not_mem_nil, or_false, or_self,
      forall_eq, reduceCtorEq, false_implies, true_and, and_true]
    omega
  case isTrue hfits =>
    simp only [LockEvent.balanced_pair, List.mem_cons, List.not_mem_nil, or_false, or_self,
      forall_eq, forall_const, true_and]
    refine and_congr_right fun _ => ?_
    have hcount (level : Nat) : (List.range' (base + 1) (last - base)).count level =
        if base < level ∧ level ≤ last then 1 else 0 := by
      rw [List.Nodup.count List.nodup_range']
      exact if_congr (by rw [List.mem_range'_1]; omega) rfl rfl
    constructor
    · rintro h rfl
      have hlevel := h 11
      rw [hcount, if_pos ⟨hlt, le_rfl⟩, if_neg (by omega)] at hlevel
      cases hlevel
    · intro hne level
      rw [hcount]
      exact if_congr (by omega) rfl rfl

/-- **Termination, the lock, the shifts and the levels.** Level 11 is one more than a texture
with a side of 1024 has. -/
theorem rangeRight_iff (s : TextureManager) (hasLock : Bool) (id : Nat) {base last : Nat}
    (hlast : last < u32) :
    s.RangeRight hasLock id base last ↔
      (id ≠ 0 → base < last → hasLock = true → s.known id = true →
        base < 32 ∧ last ≠ 11 ∧ last ≠ u32 - 1) := by
  by_cases h : id = 0 ∨ base ≥ last ∨ hasLock = false ∨ s.known id = false
  · obtain ⟨o, hruns, hlock, hshifts, hret, -⟩ := generateRange_refused h
    refine iff_of_true ⟨o, ⟨0, hruns 0⟩, hlock, by simp [hshifts], fun hs => absurd hs hret⟩ ?_
    intro hid hlt hpresent hknown
    simp [hid, hpresent, hknown, Nat.not_le_of_lt hlt] at h
  · obtain ⟨hid, hbase, hpresent, hknown⟩ :
        id ≠ 0 ∧ ¬ base ≥ last ∧ hasLock = true ∧ s.known id = true := by
      simpa using h
    have hlt : base < last := Nat.lt_of_not_le hbase
    subst hpresent
    simp only [hid, hlt, hknown, ne_eq, not_false_eq_true, forall_const]
    rcases Nat.lt_or_eq_of_le (Nat.succ_le_of_lt hlast) with hless | hlargest
    · simp only [RangeRight, generates_known_iff hid hlt hknown hless, exists_eq_left]
      rw [rangeOutcome_right_iff hlt]
      omega
    · refine iff_of_false ?_ (by omega)
      rintro ⟨o, ho, -⟩
      exact not_generates_of_largest hid hlt hknown hlargest ho

theorem rangeRight_first_levels : 4 < u32 ∧ (init.drawTextureId).RangeRight true 1 0 4 :=
  ⟨by decide, (rangeRight_iff _ true 1 (by decide)).mpr (by decide)⟩

/-- From level 8 the batches come to level 11. -/
theorem not_rangeRight_eleven : ¬ (init.drawTextureId).RangeRight true 1 8 11 := by
  rintro ⟨o, ho, -, -, hlevels⟩
  obtain rfl := (generates_known_iff (by decide) (by decide) (by decide) (by decide)).mp ho
  exact absurd (hlevels (by decide) 11) (by decide)

end TextureManager
end VMQemuVGA
