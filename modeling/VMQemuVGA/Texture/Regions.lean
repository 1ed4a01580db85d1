import VMQemuVGA.Texture.Existence
import Mathlib.Data.Bool.Count

/-! # Regions of a texture

`updateTexture`, `readTexture` and `copyTexture` judge their arguments by a row of checks
and go on where enough of them are met. The sums and products in the checks are of 32 bits.
Whether a check means what it says is a question about these, and whether it is heeded is
one about the others: a single check that fails is outvoted. -/

namespace VMQemuVGA

/-! ## Regions -/

/-- What is read of a `VMTextureRegion`. -/
structure TextureRegion where
  x : Nat
  y : Nat
  z : Nat
  width : Nat
  height : Nat
  depth : Nat
  deriving DecidableEq, Repr

/-- The extents that an operation takes for a texture. -/
structure TextureExtents where
  width : Nat
  height : Nat
  depth : Nat
  deriving DecidableEq, Repr

/-- As the context is before anything is put in. -/
def TextureExtents.none : TextureExtents := ⟨0, 0, 0⟩

/-- A value of 32 bits. -/
def wrap32 (n : Nat) : Nat := n % u32

/-- `n >> k` on `uint32_t`s, as the processor does it; from 32 on the language leaves it
open. -/
def shr32 (n k : Nat) : Nat := n >>> (k % 32)

namespace TextureRegion
variable (r : TextureRegion) (e : TextureExtents)

/-- The ends are in the extents, with sums of the given width. -/
def endsIn (width : Nat → Nat) : Bool :=
  decide (width (r.x + r.width) ≤ e.width ∧ width (r.y + r.height) ≤ e.height ∧
    width (r.z + r.depth) ≤ e.depth)

def startsIn : Bool := decide (r.x < e.width ∧ r.y < e.height ∧ r.z < e.depth)

def positive : Bool := decide (r.width > 0 ∧ r.height > 0 ∧ r.depth > 0)

def sameSize (r' : TextureRegion) : Bool :=
  decide (r.width = r'.width ∧ r.height = r'.height ∧ r.depth = r'.depth)

/-- The bytes of the region. -/
def bytes (bytesPerPixel : Nat) : Nat := r.width * r.height * r.depth * bytesPerPixel

end TextureRegion

/-! ## The operations -/

/-- A call with the lengths of its memory descriptors. -/
inductive RegionCall where
  | updateTexture (id mip : Nat) (region : TextureRegion) (length : Nat)
  | readTexture (id mip : Nat) (region : Option TextureRegion) (length : Nat)
  | copyTexture (source dest : Nat) (sourceRegion destRegion : Option TextureRegion)
  deriving DecidableEq, Repr

/-- `texture_max_mip_levels` of `updateTexture`. -/
def updateMipLevels : Nat := 10

/-- The extents of `updateTexture`, at every level. -/
def updateExtents : TextureExtents := ⟨1024, 1024, 1⟩

/-- The extents of `readTexture`. -/
def readExtents (mip : Nat) : TextureExtents := ⟨shr32 512 mip, shr32 512 mip, 1⟩

/-- The extents of `copyTexture`. -/
def copyExtents : TextureExtents := ⟨512, 512, 1⟩

namespace RegionCall
variable (s : TextureTables)

/-- The checks, with sums and products of the given width. -/
def checks (width : Nat → Nat) : RegionCall → List Bool
  | updateTexture id mip region length =>
      let found := s.findTexture id
      let extents := if found then updateExtents else .none
      [found, found, found, decide (mip < if found then updateMipLevels else 0),
        region.endsIn extents width, decide (length > 0)]
  | readTexture id mip region length =>
      let found := s.manager.known id
      let extents := if found then readExtents mip else .none
      let bytesPerPixel := if found then 4 else 0
      let size := extents.width * extents.height * extents.depth * bytesPerPixel
      [found, found, decide (mip < 16),
        match region with
        | some r => r.startsIn extents && r.positive && r.endsIn extents width
        | none => true,
        match region with
        | some r => decide (length ≥ width (r.bytes bytesPerPixel))
        | none => decide (length ≥ size),
        decide (size > 0), true]
  | copyTexture source dest sourceRegion destRegion =>
      let sourceFound := s.manager.known source
      let destFound := s.manager.known dest
      let sourceExtents := if sourceFound then copyExtents else .none
      let destExtents := if destFound then copyExtents else .none
      let regions :=
        match sourceRegion, destRegion with
        | some r, some r' =>
            r.sameSize r' && r.startsIn sourceExtents && r'.startsIn destExtents &&
              r.endsIn sourceExtents width && r'.endsIn destExtents width
        | none, none => decide (sourceExtents = destExtents)
        | _, _ => false
      -- `VMTextureFormatRGBA8Unorm`, with four bytes a pixel
      let format (found : Bool) := if found then 70 else 0
      let bytesPerPixel (found : Bool) := if found then 4 else 0
      let formats := decide (format sourceFound = format destFound) ||
        decide (bytesPerPixel sourceFound = bytesPerPixel destFound)
      [sourceFound, destFound, sourceFound, destFound, regions, formats,
        sourceFound && destFound && regions && formats]

/-- The amounts of the shifts that the checks rest on. -/
def shifts : RegionCall → List Nat
  | readTexture id mip _ _ => if s.manager.known id then [mip, mip] else []
  | _ => []

/-- What is refused before anything is checked. -/
def refused : RegionCall → Bool
  | updateTexture id .. => decide (id = 0)
  | readTexture .. => false
  | copyTexture source dest .. => decide (source = dest)

/-- The validation; `ok` where the call gets past it. -/
def validate (c : RegionCall) : Except IOReturn Unit :=
  if c.refused then .error .badArgument
  else
    match c with
    | updateTexture .. =>
        if passes 83 (c.checks s wrap32) = false then .error .badArgument else .ok ()
    | readTexture id .. =>
        if s.manager.known id = false then .error .notFound
        else if passes 85 (c.checks s wrap32) = false then .error .badArgument
        else .ok ()
    | copyTexture source dest .. =>
        if s.manager.known source = false then .error .notFound
        else if s.manager.known dest = false then .error .notFound
        else if passes 85 (c.checks s wrap32) = false then .error .badArgument
        else .ok ()

end RegionCall

/-! ## What they should let past -/

/-- In exact arithmetic. -/
def TextureRegion.LiesIn (r : TextureRegion) (e : TextureExtents) : Prop := r.endsIn e id = true

namespace RegionCall

/-- The level exists, and the regions lie in its extents. -/
def Proper : RegionCall → Prop
  | updateTexture _ mip region _ => mip < updateMipLevels ∧ region.LiesIn updateExtents
  | readTexture _ mip region length =>
      mip < mipLevels 512 ∧
        ∀ r, region = some r → r.LiesIn (readExtents mip) ∧ r.bytes 4 ≤ length
  | copyTexture _ _ none none => True
  | copyTexture _ _ (some r) (some r') =>
      r.sameSize r' = true ∧ r.LiesIn copyExtents ∧ r'.LiesIn copyExtents
  | copyTexture .. => False

/-- The validation does its work. -/
structure Sound (s : TextureTables) (c : RegionCall) : Prop where
  proper : c.validate s = .ok () → c.Proper
  /-- no check is outvoted -/
  heeded : c.validate s = .ok () → ∀ check ∈ c.checks s wrap32, check = true
  /-- no check is met by a sum or a product that has wrapped -/
  exact : c.refused = false →
    List.Forall₂ (fun made meant => made = true → meant = true) (c.checks s wrap32) (c.checks s id)
  shifts : ∀ k ∈ c.shifts s, k < 32

end RegionCall

/-! ## When they do -/

namespace TextureRegion

/-- An end is too large for 32 bits. -/
def Overflows (r : TextureRegion) : Prop :=
  u32 ≤ r.x + r.width ∨ u32 ≤ r.y + r.height ∨ u32 ≤ r.z + r.depth

/-- Wrapped, its ends come to lie in the extents. -/
def ComesRound (r : TextureRegion) (e : TextureExtents) : Prop :=
  r.endsIn e wrap32 = true ∧ r.Overflows

end TextureRegion

namespace RegionCall

/-- The arguments are no trap for the checks. -/
def Clean (s : TextureTables) : RegionCall → Prop
  | updateTexture id mip region length =>
      id ≠ 0 →
        if s.findTexture id then
          ¬ region.ComesRound updateExtents ∧
            -- the other checks are met, so that one of these alone is outvoted
            [decide (mip < updateMipLevels), region.endsIn updateExtents wrap32,
              decide (length > 0)].count false ≠ 1
        else ¬ region.ComesRound .none
  | readTexture id mip none length =>
      s.manager.known id = true →
        mip < 32 ∧ [decide (mip < 16), decide (length ≥ (512 >>> mip) * (512 >>> mip) * 4),
          decide (512 >>> mip > 0)].count false ≠ 1
  | readTexture id mip (some r) length =>
      s.manager.known id = true →
        mip < 32 ∧ ¬ (r.startsIn (readExtents mip) = true ∧ r.positive = true ∧
            r.ComesRound (readExtents mip)) ∧
          ¬ (wrap32 (r.bytes 4) ≤ length ∧ length < r.bytes 4) ∧
          [decide (mip < 16),
            r.startsIn (readExtents mip) && r.positive && r.endsIn (readExtents mip) wrap32,
            decide (length ≥ wrap32 (r.bytes 4)), decide (512 >>> mip > 0)].count false ≠ 1
  | copyTexture source dest (some r) (some r') =>
      source ≠ dest → s.manager.known source = true → s.manager.known dest = true →
        r.sameSize r' = true → r.startsIn copyExtents = true → r'.startsIn copyExtents = true →
          r.endsIn copyExtents wrap32 = true → r'.endsIn copyExtents wrap32 = true →
            ¬ r.Overflows ∧ ¬ r'.Overflows
  | copyTexture .. => True

/-! ## Checks one by one -/

end RegionCall

namespace TextureRegion
variable {r : TextureRegion} {e : TextureExtents}

theorem endsIn_iff {width : Nat → Nat} : r.endsIn e width = true ↔
    width (r.x + r.width) ≤ e.width ∧ width (r.y + r.height) ≤ e.height ∧
      width (r.z + r.depth) ≤ e.depth := decide_eq_true_iff

/-- What ends in the extents by the wrapped sums lies in them, unless an end has wrapped. -/
theorem liesIn_iff (hw : e.width < u32) (hh : e.height < u32) (hd : e.depth < u32)
    (h : r.endsIn e wrap32 = true) : r.LiesIn e ↔ ¬ r.Overflows := by
  rw [endsIn_iff] at h
  rw [LiesIn, endsIn_iff]
  obtain ⟨hx, hy, hz⟩ := h
  unfold wrap32 at hx hy hz
  simp only [Overflows, id, not_or, Nat.not_le]
  constructor
  · rintro ⟨hx', hy', hz'⟩
    omega
  · rintro ⟨hx', hy', hz'⟩
    rw [Nat.mod_eq_of_lt hx'] at hx
    rw [Nat.mod_eq_of_lt hy'] at hy
    rw [Nat.mod_eq_of_lt hz'] at hz
    exact ⟨hx, hy, hz⟩

theorem endsIn_exact_iff (hw : e.width < u32) (hh : e.height < u32) (hd : e.depth < u32) :
    (r.endsIn e wrap32 = true → r.LiesIn e) ↔ ¬ r.ComesRound e := by
  rw [ComesRound, not_and]
  exact imp_congr_right fun h => liesIn_iff hw hh hd h

end TextureRegion

/-! ## Votes -/

theorem forall_true_iff {checks : List Bool} :
    (∀ check ∈ checks, check = true) ↔ checks.count false = 0 := by
  rw [List.count_eq_zero]
  constructor
  · intro h hmem
    cases h false hmem
  · intro h check hcheck
    cases check with
    | false => exact absurd hcheck h
    | true => rfl

/-- Where a score is one check short of full, one check may fail. -/
theorem passes_iff_count {percent : Nat} {checks : List Bool}
    (hone : percent * checks.length ≤ (checks.length - 1) * 100)
    (htwo : (checks.length - 2) * 100 < percent * checks.length) :
    passes percent checks = true ↔ checks.count false ≤ 1 := by
  have hcount := List.count_true_add_count_false checks
  rw [passes, decide_eq_true_eq]
  omega

theorem passes_83_iff {checks : List Bool} (h : checks.length = 6) :
    passes 83 checks = true ↔ checks.count false ≤ 1 :=
  passes_iff_count (by rw [h]; decide) (by rw [h]; decide)

theorem passes_85_iff {checks : List Bool} (h : checks.length = 7) :
    passes 85 checks = true ↔ checks.count false ≤ 1 :=
  passes_iff_count (by rw [h]; decide) (by rw [h]; decide)

/-- A score that one check may miss is heeded unless just one misses it. -/
theorem heeded_iff {checks : List Bool} :
    (checks.count false ≤ 1 → ∀ check ∈ checks, check = true) ↔ checks.count false ≠ 1 := by
  rw [forall_true_iff]
  omega

namespace RegionCall
variable {s : TextureTables} {c : RegionCall}

/-- Each check that is met would be in exact arithmetic. -/
def Exact (s : TextureTables) (c : RegionCall) : Prop :=
  List.Forall₂ (fun made meant => made = true → meant = true) (c.checks s wrap32) (c.checks s id)

/-- A call that does not get past. -/
theorem sound_iff_of_error (h : c.validate s ≠ .ok ()) :
    c.Sound s ↔ (c.refused = false → Exact s c) ∧ ∀ k ∈ c.shifts s, k < 32 :=
  ⟨fun hs => ⟨hs.exact, hs.shifts⟩,
    fun ⟨hexact, hshifts⟩ => ⟨fun hok => absurd hok h, fun hok => absurd hok h, hexact, hshifts⟩⟩

/-- A call that gets past with at most one check failed. -/
theorem sound_iff_of_vote (hrefused : c.refused = false)
    (hpast : c.validate s = .ok () ↔ (c.checks s wrap32).count false ≤ 1)
    (hproper : (∀ check ∈ c.checks s id, check = true) → c.Proper) :
    c.Sound s ↔ Exact s c ∧ (c.checks s wrap32).count false ≠ 1 ∧ ∀ k ∈ c.shifts s, k < 32 := by
  rw [← heeded_iff, ← hpast]
  constructor
  · intro h
    exact ⟨h.exact hrefused, h.heeded, h.shifts⟩
  · rintro ⟨hexact, hheeded, hshifts⟩
    refine ⟨fun hok => hproper ?_, hheeded, fun _ => hexact, hshifts⟩
    have hall := hheeded hok
    unfold Exact at hexact
    generalize c.checks s wrap32 = made at hexact hall
    generalize c.checks s id = meant at hexact
    induction hexact with
    | nil => exact fun check hcheck => absurd hcheck List.not_mem_nil
    | cons hab _ ih =>
        rw [List.forall_mem_cons] at hall ⊢
        exact ⟨hab hall.1, ih hall.2⟩

/-! ## Operation by operation -/

theorem validate_updateTexture {id mip length : Nat} {r : TextureRegion} (hid : id ≠ 0) :
    (updateTexture id mip r length).validate s = .ok () ↔
      ((updateTexture id mip r length).checks s wrap32).count false ≤ 1 := by
  rw [← passes_83_iff rfl]
  simp [validate, refused, hid]

theorem updateTexture_sound_iff {id mip length : Nat} {r : TextureRegion} :
    (updateTexture id mip r length).Sound s ↔ (updateTexture id mip r length).Clean s := by
  by_cases hid : id = 0
  · refine iff_of_true ((sound_iff_of_error ?_).mpr ⟨?_, ?_⟩) fun h => absurd hid h
    · simp [validate, refused, hid]
    · simp [refused, hid]
    · simp [shifts]
  have hrefused : (updateTexture id mip r length).refused = false := decide_eq_false hid
  cases hfound : s.findTexture id with
  | false =>
      rw [sound_iff_of_error]
      · simpa [Clean, hid, hfound, hrefused, Exact, checks, shifts, TextureRegion.LiesIn] using
          r.endsIn_exact_iff (e := .none) (by decide) (by decide) (by decide)
      · rw [ne_eq, validate_updateTexture hid]
        simp [checks, hfound]
  | true =>
      have hround := r.endsIn_exact_iff (e := updateExtents) (by decide) (by decide) (by decide)
      rw [sound_iff_of_vote hrefused (validate_updateTexture hid)]
      · simp [Clean, hid, hfound, Exact, checks, shifts, ← hround, TextureRegion.LiesIn]
      · simp [checks, hfound, Proper, TextureRegion.LiesIn]
        tauto

theorem readExtents_lt (mip : Nat) : shr32 512 mip < u32 :=
  Nat.lt_of_le_of_lt (Nat.shiftRight_le 512 _) (by decide)

theorem validate_readTexture {id mip length : Nat} {region : Option TextureRegion}
    (hknown : s.manager.known id = true) :
    (readTexture id mip region length).validate s = .ok () ↔
      ((readTexture id mip region length).checks s wrap32).count false ≤ 1 := by
  rw [← passes_85_iff rfl]
  simp [validate, refused, hknown]

theorem readTexture_sound_iff {id mip length : Nat} {region : Option TextureRegion} :
    (readTexture id mip region length).Sound s ↔ (readTexture id mip region length).Clean s := by
  cases hknown : s.manager.known id with
  | false =>
      rw [sound_iff_of_error]
      · cases region with
        | none => simp [Clean, hknown, refused, Exact, checks, shifts]
        | some r =>
            simp [Clean, hknown, refused, Exact, checks, shifts, TextureRegion.bytes, wrap32,
              TextureRegion.startsIn, TextureExtents.none]
      · simp [validate, refused, hknown]
  | true =>
      rw [sound_iff_of_vote rfl (validate_readTexture hknown)]
      · by_cases hmip : mip < 32
        · have hshift : shr32 512 mip = 512 >>> mip := by rw [shr32, Nat.mod_eq_of_lt hmip]
          have hsize : 0 < 512 >>> mip * 512 >>> mip ↔ 0 < 512 >>> mip := by
            rw [Nat.pos_iff_ne_zero, Nat.pos_iff_ne_zero, ne_eq, ne_eq, mul_self_eq_zero]
          cases region with
          | none =>
              simp [Clean, hknown, Exact, checks, shifts, hmip, readExtents, hshift, hsize,
                List.count_cons]
          | some r =>
              have hround := r.endsIn_exact_iff (e := readExtents mip) (readExtents_lt mip)
                (readExtents_lt mip) (by decide : 1 < u32)
              simp [Clean, hknown, Exact, checks, shifts, hmip, readExtents, hshift, hsize,
                List.count_cons, TextureRegion.LiesIn] at hround ⊢
              tauto
        · cases region <;> simp [Clean, hknown, shifts, hmip]
      · intro hall
        have hlevel : ∀ mip < 16,
            0 < shr32 512 mip * shr32 512 mip * 1 * 4 → mip < mipLevels 512 := by
          decide
        simp only [checks, hknown, if_true, List.forall_mem_cons, decide_eq_true_eq] at hall
        obtain ⟨-, -, hmip, hregion, hbuffer, hsize, -⟩ := hall
        refine ⟨hlevel mip hmip hsize, ?_⟩
        rintro r rfl
        simp only [Bool.and_eq_true, decide_eq_true_eq] at hregion hbuffer
        exact ⟨hregion.2, hbuffer⟩

theorem not_startsIn_none (r : TextureRegion) : r.startsIn .none = false :=
  decide_eq_false fun h => absurd h.1 (Nat.not_lt_zero _)

theorem validate_copyTexture {source dest : Nat} {sourceRegion destRegion : Option TextureRegion}
    (hne : source ≠ dest) (hsource : s.manager.known source = true)
    (hdest : s.manager.known dest = true) :
    (copyTexture source dest sourceRegion destRegion).validate s = .ok () ↔
      ((copyTexture source dest sourceRegion destRegion).checks s wrap32).count false ≤ 1 := by
  rw [← passes_85_iff rfl]
  simp [validate, refused, hne, hsource, hdest]

theorem copyTexture_sound_iff {source dest : Nat} {sourceRegion destRegion : Option TextureRegion} :
    (copyTexture source dest sourceRegion destRegion).Sound s ↔
      (copyTexture source dest sourceRegion destRegion).Clean s := by
  by_cases hne : source = dest
  · rw [sound_iff_of_error (by simp [validate, refused, hne])]
    cases sourceRegion <;> cases destRegion <;> simp [Clean, refused, shifts, hne]
  have hrefused : (copyTexture source dest sourceRegion destRegion).refused = false :=
    decide_eq_false hne
  by_cases hknown : s.manager.known source = true ∧ s.manager.known dest = true
  · obtain ⟨hsource, hdest⟩ := hknown
    -- the regions are judged twice, and so never outvoted
    have hvote :
        ((copyTexture source dest sourceRegion destRegion).checks s wrap32).count false ≠ 1 := by
      have htwice :
          ∀ regions, [true, true, true, true, regions, true, regions].count false ≠ 1 := by
        decide
      simp only [checks, hsource, hdest, if_true, decide_true, Bool.true_or, Bool.true_and,
        Bool.and_true]
      exact htwice _
    rw [sound_iff_of_vote hrefused (validate_copyTexture hne hsource hdest), and_iff_right hvote]
    · cases sourceRegion <;> cases destRegion
      case some.some r r' =>
        have hlies {r : TextureRegion} (h : r.endsIn copyExtents wrap32 = true) :
            r.LiesIn copyExtents ↔ ¬ r.Overflows :=
          TextureRegion.liesIn_iff (by decide) (by decide) (by decide) h
        simp [Clean, hne, hsource, hdest, Exact, checks, shifts]
        constructor
        · intro h hsize hstart hstart' hend hend'
          obtain ⟨⟨-, hexact⟩, hexact'⟩ := h hsize hstart hstart' hend hend'
          exact ⟨(hlies hend).mp hexact, (hlies hend').mp hexact'⟩
        · intro h hsize hstart hstart' hend hend'
          obtain ⟨hover, hover'⟩ := h hsize hstart hstart' hend hend'
          exact ⟨⟨⟨⟨hsize, hstart⟩, hstart'⟩, (hlies hend).mpr hover⟩, (hlies hend').mpr hover'⟩
      all_goals simp [Clean, hsource, hdest, Exact, checks, shifts]
    · cases sourceRegion <;> cases destRegion <;>
        simp [checks, hsource, hdest, Proper, TextureRegion.LiesIn]
      tauto
  · have herror : (copyTexture source dest sourceRegion destRegion).validate s ≠ .ok () := by
      rw [not_and_or, Bool.not_eq_true, Bool.not_eq_true] at hknown
      rcases hknown with h | h <;> simp [validate, hrefused, h]
    rw [sound_iff_of_error herror]
    cases sourceRegion <;> cases destRegion
    case some.some r r' =>
      refine iff_of_true ⟨fun _ => ?_, by simp [shifts]⟩ fun _ hsource hdest =>
        absurd ⟨hsource, hdest⟩ hknown
      rw [not_and_or, Bool.not_eq_true, Bool.not_eq_true] at hknown
      rcases hknown with h | h <;> simp [Exact, checks, h, not_startsIn_none]
    all_goals simp [Clean, Exact, checks, shifts]

/-- **A validation is sound exactly where its arguments are no trap.** -/
theorem call_sound_iff (s : TextureTables) (c : RegionCall) : c.Sound s ↔ c.Clean s := by
  cases c with
  | updateTexture id mip region length => exact updateTexture_sound_iff
  | readTexture id mip region length => exact readTexture_sound_iff
  | copyTexture source dest sourceRegion destRegion => exact copyTexture_sound_iff

/-- Once a creation has failed, level 10 of its texture can be read into nothing. -/
theorem missing_level_read : ¬ ∀ (s : TextureTables) (c : RegionCall), c.Sound s := by
  intro h
  have hproper := (h (TextureTables.init.createTexture .granting ⟨70, 64, 64, 1, 1⟩ true).2
    (.readTexture 1 10 none 0)).proper (by decide)
  exact absurd hproper.1 (by decide)

end RegionCall
end VMQemuVGA
