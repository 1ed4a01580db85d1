import Mathlib.Tactic.Ring
import VMQemuVGA.IOSurface.Pixels

/-! # What the pixel operations write

A successful operation should stay inside the surfaces' memory, write the bytes of the
region it was asked for and no others, and refuse a region that is not in the surface.
Whether it does depends on the pixel format, on sums that wrap and on overlaps. -/

namespace VMQemuVGA

/-! ## Regions -/

namespace VMIOSurface

/-- Where the pixel at `(x, y)` begins. -/
def offset (v : VMIOSurface) (x y : Nat) : Nat := (y * v.width + x) * v.bytesPerPixel

/-- The region lies in the surface. -/
def Contains (v : VMIOSurface) (x y width height : Nat) : Prop :=
  x + width ≤ v.width ∧ y + height ≤ v.height

instance (v : VMIOSurface) (x y width height : Nat) : Decidable (v.Contains x y width height) :=
  inferInstanceAs (Decidable (_ ∧ _))

/-- The region's bytes are those of `bytes`, row by row, and the other bytes are as
they were. -/
def WritesRegion (v : VMIOSurface) (e : Extent) (x y width height : Nat)
    (bytes : Nat → Nat → UInt8) (r t : Ram) : Prop :=
  WritesGrid (e.base + v.offset x y) (v.width * v.bytesPerPixel) (width * v.bytesPerPixel) height
    bytes r t

/-- A surface that is set up: its memory holds its pixels. -/
structure Ready (yuv : Bool) (v : VMIOSurface) : Prop where
  memory : v.memory.isSome
  base : v.baseAddress.isSome
  format : v.descriptor.pixelFormat.validate yuv = .success
  size : v.memorySize < u32
  holds : v.width * v.height * v.bytesPerPixel ≤ v.memorySize

variable {yuv : Bool} {v w : VMIOSurface} {e f : Extent} {x y width height row k : Nat}

theorem extent_size (h : v.extent = some e) : e.size = v.memorySize := by
  obtain ⟨base, _, rfl⟩ := Option.map_eq_some_iff.mp h
  rfl

theorem Ready.extent (h : v.Ready yuv) : ∃ e, v.extent = some e := by
  obtain ⟨base, hbase⟩ := Option.isSome_iff_exists.mp h.base
  exact ⟨⟨base, v.memorySize⟩, by rw [VMIOSurface.extent, hbase]; rfl⟩

/-- The formats that pass the check have pixels of one to four bytes. -/
theorem bytesPerPixel_of_valid {format : PixelFormat} (h : format.validate yuv = .success) :
    0 < format.bytesPerPixel ∧ format.bytesPerPixel ≤ 4 := by
  cases format <;> simp_all [PixelFormat.validate, PixelFormat.bytesPerPixel]

theorem Ready.pixel_pos (h : v.Ready yuv) : 0 < v.bytesPerPixel :=
  (bytesPerPixel_of_valid h.format).1

theorem Ready.pixel_le (h : v.Ready yuv) : v.bytesPerPixel ≤ 4 :=
  (bytesPerPixel_of_valid h.format).2

theorem offset_add_row : v.offset x (y + row) =
    v.offset x y + row * (v.width * v.bytesPerPixel) := by
  simp only [offset]
  ring

theorem offset_add : v.offset (x + k) y = v.offset x y + k * v.bytesPerPixel := by
  simp only [offset]
  ring

theorem offset_eq : v.offset x y = y * (v.width * v.bytesPerPixel) + x * v.bytesPerPixel := by
  simp only [offset]
  ring

/-- Rows end inside the memory. -/
theorem Ready.offset_le (h : v.Ready yuv) (hx : x ≤ v.width) (hy : y < v.height) :
    v.offset x y ≤ v.memorySize := by
  refine le_trans ?_ h.holds
  apply Nat.mul_le_mul_right
  calc y * v.width + x ≤ y * v.width + v.width := Nat.add_le_add_left hx _
    _ = (y + 1) * v.width := (Nat.succ_mul y v.width).symm
    _ ≤ v.height * v.width := Nat.mul_le_mul_right _ hy
    _ = v.width * v.height := Nat.mul_comm _ _

/-- A pixel of the surface lies in its memory. -/
theorem Ready.spans_row (h : v.Ready yuv) (he : v.extent = some e) (hx : x + width ≤ v.width)
    (hy : y < v.height) : e.Spans (e.base + v.offset x y) (width * v.bytesPerPixel) := by
  have hend := h.offset_le hx hy
  rw [offset_add] at hend
  rw [← extent_size he] at hend
  refine ⟨Nat.le_add_right _ _, ?_⟩
  rw [Nat.add_assoc]
  exact Nat.add_le_add_left hend _

/-- None of the products that locate a region wraps. -/
theorem Ready.exact (h : v.Ready yuv) (hx : x ≤ v.width) (hy : y < v.height) :
    v.width * v.bytesPerPixel % u32 = v.width * v.bytesPerPixel ∧
      y * (v.width * v.bytesPerPixel) % u32 = y * (v.width * v.bytesPerPixel) ∧
      x * v.bytesPerPixel % u32 = x * v.bytesPerPixel := by
  have hfirst := h.offset_le (Nat.le_refl _) (Nat.lt_of_le_of_lt (Nat.zero_le y) hy)
  have hlast := h.offset_le hx hy
  rw [offset_eq] at hfirst hlast
  have hsize := h.size
  refine ⟨Nat.mod_eq_of_lt ?_, Nat.mod_eq_of_lt ?_, Nat.mod_eq_of_lt ?_⟩
  · omega
  · omega
  · omega

end VMIOSurface

/-! ## Filling -/

namespace SurfacePixels

variable {yuv : Bool} {find : Nat → Option VMIOSurface} {v w : VMIOSurface} {e f : Extent}
  {r t : Ram} {id x y width height color n a : Nat}

/-- The bytes of a pixel of the given color, whatever its size. -/
def colorByte (color bpp : Nat) (i : Nat) : UInt8 := (wordBytes color).getD (i % bpp) 0

/-- Words written one behind the other. -/
def fillWords (e : Extent) (a n color : Nat) : Ram → Ram :=
  loop n fun i => Ram.store e (a + 4 * i) (wordBytes color)

theorem fillWords_writes : Writes a (n * 4) (colorByte color 4) r (fillWords e a n color r) := by
  have hgrid : WritesGrid a 4 4 n (fun _ i => (wordBytes color).getD i 0) r
      (fillWords e a n color r) := by
    apply writesGrid_loop (Nat.le_refl 4)
    intro i _ t _
    rw [Nat.mul_comm i 4]
    exact Ram.store_writes e (a + 4 * i) (wordBytes color) t
  exact hgrid.writes

theorem fillWords_wild (h : e.Spans a (n * 4)) : (fillWords e a n color r).wild = r.wild := by
  apply loop_wild
  intro i hi t
  apply Ram.store_wild
  obtain ⟨h₁, h₂⟩ := h
  refine ⟨by omega, ?_⟩
  rw [length_wordBytes]
  omega

/-- The last byte that is written is the color's. -/
theorem fillWords_last : (fillWords e a (n + 1) color r).bytes (a + 4 * n + 3) =
    UInt8.ofNat (color >>> 24) :=
  (Ram.store_writes e (a + 4 * n) (wordBytes color) _).inside 3 (Nat.lt_succ_self 3)

/-! ### The whole surface -/

/-- What `fillSurface` should write: as many pixels as the memory holds. -/
def FillsSurface (v : VMIOSurface) (e : Extent) (color : Nat) (r t : Ram) : Prop :=
  Writes e.base (v.memorySize / v.bytesPerPixel * v.bytesPerPixel) (colorByte color v.bytesPerPixel)
    r t

theorem fillSurface_eq (hfind : find id = some v) (he : v.extent = some e)
    (hpixel : 0 < v.bytesPerPixel) : fillSurface find id color r =
      (.success, fillWords e e.base (v.memorySize / v.bytesPerPixel) color r) := by
  rw [fillSurface, hfind]
  simp only [he]
  rw [if_neg (Nat.ne_of_gt hpixel)]
  rfl

theorem fillSurface_good (color : Nat) (r : Ram) (he : v.extent = some e)
    (h : v.bytesPerPixel = 4 ∨ v.memorySize < v.bytesPerPixel) :
    (fillWords e e.base (v.memorySize / v.bytesPerPixel) color r).wild = r.wild ∧
      FillsSurface v e color r (fillWords e e.base (v.memorySize / v.bytesPerPixel) color r) := by
  rcases h with h | h
  · constructor
    · apply fillWords_wild
      refine ⟨Nat.le_refl _, ?_⟩
      rw [h, VMIOSurface.extent_size he]
      exact Nat.add_le_add_left (Nat.div_mul_le_self _ _) _
    · rw [FillsSurface, h]
      exact fillWords_writes
  · rw [FillsSurface, Nat.div_eq_of_lt h, Nat.zero_mul]
    refine ⟨rfl, ?_, fun _ _ => rfl⟩
    intro i hi
    exact absurd hi (Nat.not_lt_zero i)

/-- Words are written for smaller pixels: the last one ends behind the last pixel. -/
theorem fillSurface_bad (e : Extent) (color : Nat) (hpixel : 0 < v.bytesPerPixel)
    (hsmall : v.bytesPerPixel < 4) (hmem : v.bytesPerPixel ≤ v.memorySize) : ∃ bytes,
    ¬ FillsSurface v e color ⟨bytes, false⟩
      (fillWords e e.base (v.memorySize / v.bytesPerPixel) color ⟨bytes, false⟩) := by
  obtain ⟨n, hn⟩ := Nat.exists_eq_succ_of_ne_zero (Nat.ne_of_gt (Nat.div_pos hmem hpixel))
  refine ⟨unlike (e.base + 4 * n + 3) (UInt8.ofNat (color >>> 24)), fun hfill => ?_⟩
  have hout := hfill.outside (e.base + 4 * n + 3) (fun hin => ?_)
  · rw [hn, fillWords_last] at hout
    exact unlike_ne _ _ hout.symm
  · have hend : e.base + 4 * n + 3 < e.base + v.memorySize / v.bytesPerPixel * v.bytesPerPixel :=
      hin.2
    have hle : n.succ * v.bytesPerPixel ≤ n.succ * 3 :=
      Nat.mul_le_mul_left _ (Nat.le_of_lt_succ hsmall)
    rw [hn] at hend
    omega

/-! ### A region -/

/-- What `fillSurfaceRegion` should write. -/
def FillsRegion (v : VMIOSurface) (e : Extent) (x y width height color : Nat) (r t : Ram) :
    Prop :=
  v.WritesRegion e x y width height (fun _ => colorByte color v.bytesPerPixel) r t

/-- The checks of `fillSurfaceRegion` on its rectangle. -/
def fits (v : VMIOSurface) (x y width height : Nat) : Bool :=
  (x + width) % u32 ≤ v.width && (y + height) % u32 ≤ v.height

/-- What `fillSurfaceRegion` accepts. -/
theorem fillSurfaceRegion_success (hready : v.Ready yuv) (hfind : find id = some v) :
    (fillSurfaceRegion find id x y width height color r).1 = .success ↔
      (id ≠ 0 ∧ 0 < width ∧ 0 < height) ∧ fits v x y width height = true := by
  obtain ⟨e, he⟩ := hready.extent
  have hpixel := Nat.ne_of_gt hready.pixel_pos
  by_cases hzero : id = 0 ∨ width = 0 ∨ height = 0
  · simp only [fillSurfaceRegion, if_pos hzero, reduceCtorEq, false_iff]
    omega
  · have hargs : id ≠ 0 ∧ 0 < width ∧ 0 < height := by omega
    rw [fillSurfaceRegion, if_neg hzero, hfind]
    simp only [he, if_neg hpixel]
    by_cases hcheck : (x + width) % u32 > v.width ∨ (y + height) % u32 > v.height
    · have hfits : fits v x y width height = false := by
        rw [fits, Bool.and_eq_false_iff, decide_eq_false_iff_not, decide_eq_false_iff_not]
        omega
      simp [if_pos hcheck, hfits]
    · have hfits : fits v x y width height = true := by
        rw [fits, Bool.and_eq_true, decide_eq_true_eq, decide_eq_true_eq]
        omega
      simp [if_neg hcheck, hfits, hargs]

/-- The rows of a region, located by their offsets. -/
def fillRegion (v : VMIOSurface) (e : Extent) (x y width height color : Nat) : Ram → Ram :=
  loop height fun row => fillWords e (e.base + v.offset x (y + row)) width color

theorem fillSurfaceRegion_eq (hready : v.Ready yuv) (hfind : find id = some v)
    (he : v.extent = some e) (hid : id ≠ 0) (hwidth : 0 < width) (hheight : 0 < height)
    (hfits : fits v x y width height = true) (h : v.Contains x y width height) :
    fillSurfaceRegion find id x y width height color r =
      (.success, fillRegion v e x y width height color r) := by
  obtain ⟨hx, hy⟩ := h
  have hzero : ¬ (id = 0 ∨ width = 0 ∨ height = 0) := by omega
  have hcheck : ¬ ((x + width) % u32 > v.width ∨ (y + height) % u32 > v.height) := by
    simpa [fits] using hfits
  have hexact := hready.exact (x := x) (y := y) (by omega) (by omega)
  rw [fillSurfaceRegion, if_neg hzero, hfind]
  simp only [he]
  rw [if_neg hcheck, if_neg (Nat.ne_of_gt hready.pixel_pos), hexact.1, hexact.2.1, hexact.2.2]
  refine congrArg (Prod.mk _) (loop_congr r fun row hrow => ?_)
  have hrowExact := (hready.exact (x := x) (y := row) (by omega) (by omega)).2.1
  rw [hrowExact, VMIOSurface.offset_add_row, VMIOSurface.offset_eq]
  funext t
  simp only [fillWords, Nat.add_assoc]

theorem fillRegion_good (color : Nat) (r : Ram) (hready : v.Ready yuv) (he : v.extent = some e)
    (h : v.Contains x y width height) (hpixel : v.bytesPerPixel = 4) :
    (fillRegion v e x y width height color r).wild = r.wild ∧
      FillsRegion v e x y width height color r (fillRegion v e x y width height color r) := by
  obtain ⟨hx, hy⟩ := h
  constructor
  · apply loop_wild
    intro row hrow t
    apply fillWords_wild
    rw [← hpixel]
    exact hready.spans_row he hx (by omega)
  · apply writesGrid_loop
    · exact Nat.mul_le_mul_right _ (Nat.le_trans (Nat.le_add_left width x) hx)
    · intro row _ t _
      rw [Nat.add_assoc, ← VMIOSurface.offset_add_row, hpixel]
      exact fillWords_writes

theorem fillRegion_bad (e : Extent) (x y color : Nat) (hsmall : v.bytesPerPixel < 4)
    (hwidth : 0 < width) (hheight : 0 < height) : ∃ bytes,
    ¬ FillsRegion v e x y width height color ⟨bytes, false⟩
      (fillRegion v e x y width height color ⟨bytes, false⟩) := by
  obtain ⟨n, rfl⟩ := Nat.exists_eq_add_of_lt hwidth
  obtain ⟨rows, rfl⟩ := Nat.exists_eq_add_of_lt hheight
  rw [Nat.zero_add, Nat.zero_add]
  -- the last byte of the last row of words
  let a := e.base + v.offset x (y + rows)
  have hlast : ∀ bytes, (fillRegion v e x y (n + 1) (rows + 1) color ⟨bytes, false⟩).bytes
      (a + 4 * n + 3) = UInt8.ofNat (color >>> 24) := fun bytes => fillWords_last
  refine ⟨unlike (a + 4 * n + 3) (UInt8.ofNat (color >>> 24)), fun hfill => ?_⟩
  have hout := hfill.outside (a + 4 * n + 3) ?_
  · rw [hlast] at hout
    exact unlike_ne _ _ hout.symm
  · intro row hrow hin
    have hend : a + 4 * n + 3 < e.base + v.offset x y + row * (v.width * v.bytesPerPixel) +
        (n + 1) * v.bytesPerPixel := hin.2
    have ha : a = e.base + v.offset x y + rows * (v.width * v.bytesPerPixel) := by
      rw [Nat.add_assoc, ← VMIOSurface.offset_add_row]
    have hrows : row * (v.width * v.bytesPerPixel) ≤ rows * (v.width * v.bytesPerPixel) :=
      Nat.mul_le_mul_right _ (Nat.le_of_lt_succ hrow)
    have hpixels : (n + 1) * v.bytesPerPixel ≤ (n + 1) * 3 :=
      Nat.mul_le_mul_left _ (Nat.le_of_lt_succ hsmall)
    omega

end SurfacePixels

/-! ## Copying -/

namespace SurfacePixels

variable {yuv : Bool} {find : Nat → Option VMIOSurface} {v w : VMIOSurface} {e f : Extent}
  {cpy : Memcpy} {r t : Ram} {source dest srcX srcY dstX dstY width height : Nat}

/-- What `copySurfaceRegion` should write. -/
def CopiesRegion (v : VMIOSurface) (e : Extent) (w : VMIOSurface) (f : Extent)
    (srcX srcY dstX dstY width height : Nat) (r t : Ram) : Prop :=
  w.WritesRegion f dstX dstY width height
    (fun row i => r.bytes (e.base + v.offset srcX (srcY + row) + i)) r t

/-- The two regions do not overlap, or each row is read in a turn before the one that
writes it. -/
def InOrder (srcX srcY dstX dstY width height : Nat) : Prop :=
  dstX + width ≤ srcX ∨ srcX + width ≤ dstX ∨ dstY < srcY ∨ srcY + height ≤ dstY

/-- The first row of one region meets no row of the other exactly if they are in order. -/
theorem regions_apart_iff {base : Nat} (hpixel : 0 < v.bytesPerPixel)
    (hsx : srcX + width ≤ v.width) (hdx : dstX + width ≤ v.width) :
    (∀ row < height, Extent.Apart ⟨base + v.offset dstX dstY, width * v.bytesPerPixel⟩
      ⟨base + v.offset srcX srcY + row * (v.width * v.bytesPerPixel),
        width * v.bytesPerPixel⟩) ↔ InOrder srcX srcY dstX dstY width height := by
  have hcolumns : ∀ {x}, x + width ≤ v.width →
      x * v.bytesPerPixel + width * v.bytesPerPixel ≤ v.width * v.bytesPerPixel := by
    intro x hx
    rw [← Nat.add_mul]
    exact Nat.mul_le_mul_right _ hx
  have hplace : ∀ row, base + v.offset srcX srcY + row * (v.width * v.bytesPerPixel) =
      base + (srcY + row) * (v.width * v.bytesPerPixel) + srcX * v.bytesPerPixel := by
    intro row
    rw [VMIOSurface.offset_eq, Nat.add_mul srcY row]
    omega
  simp only [hplace]
  rw [VMIOSurface.offset_eq, ← Nat.add_assoc,
    apart_rows_below_iff (hcolumns hdx) (hcolumns hsx), InOrder, ← Nat.add_mul, ← Nat.add_mul,
    Nat.mul_le_mul_right_iff hpixel, Nat.mul_le_mul_right_iff hpixel]

/-- The rows of a copy, located by their offsets. -/
def copyRegion (cpy : Memcpy) (v : VMIOSurface) (e : Extent) (w : VMIOSurface) (f : Extent)
    (srcX srcY dstX dstY width height : Nat) : Ram → Ram :=
  copyPieces cpy f e (f.base + w.offset dstX dstY) (w.width * w.bytesPerPixel)
    (width * w.bytesPerPixel) height fun row => e.base + v.offset srcX (srcY + row)

/-- What `copySurfaceRegion` accepts. -/
def CopyAccepts (v w : VMIOSurface) (source dest srcX srcY dstX dstY width height : Nat) : Prop :=
  (source ≠ 0 ∧ dest ≠ 0 ∧ 0 < width ∧ 0 < height) ∧
    (fits v srcX srcY width height = true ∧ fits w dstX dstY width height = true) ∧
    v.descriptor.pixelFormat = w.descriptor.pixelFormat

theorem copySurfaceRegion_success (hv : v.Ready yuv) (hw : w.Ready yuv)
    (hsource : find source = some v) (hdest : find dest = some w) :
    (copySurfaceRegion find cpy source dest srcX srcY dstX dstY width height r).1 = .success ↔
      CopyAccepts v w source dest srcX srcY dstX dstY width height := by
  obtain ⟨e, he⟩ := hv.extent
  obtain ⟨f, hf⟩ := hw.extent
  by_cases hzero : source = 0 ∨ dest = 0 ∨ width = 0 ∨ height = 0
  · simp only [copySurfaceRegion, if_pos hzero, reduceCtorEq, false_iff, CopyAccepts]
    omega
  · have hargs : source ≠ 0 ∧ dest ≠ 0 ∧ 0 < width ∧ 0 < height := by omega
    rw [copySurfaceRegion, if_neg hzero, hsource, hdest, CopyAccepts]
    simp only [he, hf]
    by_cases hcheck : (srcX + width) % u32 > v.width ∨ (srcY + height) % u32 > v.height ∨
        (dstX + width) % u32 > w.width ∨ (dstY + height) % u32 > w.height
    · have hfits : ¬ (fits v srcX srcY width height = true ∧
          fits w dstX dstY width height = true) := by
        simp only [fits, Bool.and_eq_true, decide_eq_true_eq]
        omega
      simp [if_pos hcheck, hfits]
    · have hfits : fits v srcX srcY width height = true ∧
          fits w dstX dstY width height = true := by
        simp only [fits, Bool.and_eq_true, decide_eq_true_eq]
        omega
      by_cases hformat : v.descriptor.pixelFormat = w.descriptor.pixelFormat
      · simp [if_neg hcheck, hfits, hargs, hformat]
      · simp [hformat]

theorem copySurfaceRegion_eq (hv : v.Ready yuv) (hw : w.Ready yuv)
    (hsource : find source = some v) (hdest : find dest = some w) (he : v.extent = some e)
    (hf : w.extent = some f)
    (haccepts : CopyAccepts v w source dest srcX srcY dstX dstY width height)
    (hsrc : v.Contains srcX srcY width height) (hdst : w.Contains dstX dstY width height) :
    copySurfaceRegion find cpy source dest srcX srcY dstX dstY width height r =
      (.success, copyRegion cpy v e w f srcX srcY dstX dstY width height r) := by
  obtain ⟨hargs, ⟨hfits, hfits'⟩, hformat⟩ := haccepts
  obtain ⟨hsx, hsy⟩ := hsrc
  obtain ⟨hdx, hdy⟩ := hdst
  have hzero : ¬ (source = 0 ∨ dest = 0 ∨ width = 0 ∨ height = 0) := by omega
  have hcheck : ¬ ((srcX + width) % u32 > v.width ∨ (srcY + height) % u32 > v.height ∨
      (dstX + width) % u32 > w.width ∨ (dstY + height) % u32 > w.height) := by
    simp only [fits, Bool.and_eq_true, decide_eq_true_eq] at hfits hfits'
    omega
  have hpixel : v.bytesPerPixel = w.bytesPerPixel := by
    rw [VMIOSurface.bytesPerPixel, hformat, VMIOSurface.bytesPerPixel]
  have hvs := hv.exact (x := srcX) (y := srcY) (by omega) (by omega)
  have hwd := hw.exact (x := dstX) (y := dstY) (by omega) (by omega)
  have hlen := (hw.exact (x := width) (y := dstY) (by omega) (by omega)).2.2
  rw [copySurfaceRegion, if_neg hzero, hsource, hdest]
  simp only [he, hf]
  rw [if_neg hcheck, if_neg (not_not.mpr hformat), hvs.1, hvs.2.1, hvs.2.2, hpixel, hwd.1, hwd.2.1,
    hwd.2.2, hlen]
  refine congrArg (Prod.mk _) (loop_congr r fun row _ => ?_)
  simp only [VMIOSurface.offset_add_row]
  simp only [VMIOSurface.offset_eq, hpixel, Nat.add_assoc]

/-- A copy within a surface is right for all contents exactly if it is in order: otherwise a
row is read after it has been written, or `memcpy` gets a row that overlaps itself. -/
theorem copyRegion_same_iff (hv : v.Ready yuv) (hsrc : v.Contains srcX srcY width height)
    (hdst : v.Contains dstX dstY width height) (hwidth : 0 < width) :
    (∀ cpy bytes, CopiesRegion v e v e srcX srcY dstX dstY width height ⟨bytes, false⟩
      (copyRegion cpy v e v e srcX srcY dstX dstY width height ⟨bytes, false⟩)) ↔
      InOrder srcX srcY dstX dstY width height := by
  have hlen : width * v.bytesPerPixel ≤ v.width * v.bytesPerPixel :=
    Nat.mul_le_mul_right _ (Nat.le_trans (Nat.le_add_left width dstX) hdst.1)
  have hsource : ∀ row, e.base + v.offset srcX (srcY + row) =
      e.base + v.offset srcX srcY + row * (v.width * v.bytesPerPixel) := by
    intro row
    rw [VMIOSurface.offset_add_row, Nat.add_assoc]
  unfold CopiesRegion copyRegion
  simp only [hsource]
  exact (copyPieces_writes_iff hlen (Nat.mul_pos hwidth hv.pixel_pos)).trans
    (regions_apart_iff hv.pixel_pos hsrc.1 hdst.1)

theorem copyRegion_good (cpy : Memcpy) (bytes : Nat → UInt8) (hv : v.Ready yuv)
    (hw : w.Ready yuv) (he : v.extent = some e) (hf : w.extent = some f)
    (hpixel : v.bytesPerPixel = w.bytesPerPixel) (hsrc : v.Contains srcX srcY width height)
    (hdst : w.Contains dstX dstY width height) (hwidth : 0 < width)
    (h : f.Apart e ∨ f = e ∧ w = v ∧ InOrder srcX srcY dstX dstY width height) :
    (copyRegion cpy v e w f srcX srcY dstX dstY width height ⟨bytes, false⟩).wild = false ∧
      CopiesRegion v e w f srcX srcY dstX dstY width height ⟨bytes, false⟩
        (copyRegion cpy v e w f srcX srcY dstX dstY width height ⟨bytes, false⟩) := by
  obtain ⟨hsx, hsy⟩ := hsrc
  obtain ⟨hdx, hdy⟩ := hdst
  have hspanSrc : ∀ row < height, e.Spans (e.base + v.offset srcX (srcY + row))
      (width * w.bytesPerPixel) := by
    intro row hrow
    rw [← hpixel]
    exact hv.spans_row he hsx (by omega)
  have hspanDst : ∀ row < height, f.Spans
      (f.base + w.offset dstX dstY + row * (w.width * w.bytesPerPixel))
      (width * w.bytesPerPixel) := by
    intro row hrow
    rw [Nat.add_assoc, ← VMIOSurface.offset_add_row]
    exact hw.spans_row hf hdx (by omega)
  refine ⟨copyPieces_wild hspanSrc hspanDst, ?_⟩
  rcases h with hapart | ⟨rfl, rfl, horder⟩
  · apply copyPieces_writes
    · exact Nat.mul_le_mul_right _ (Nat.le_trans (Nat.le_add_left width dstX) hdx)
    · intro row hrow row' hrow'
      exact hapart.of_spans (hspanDst row' (Nat.lt_of_le_of_lt hrow' hrow)) (hspanSrc row hrow)
  · exact (copyRegion_same_iff hv ⟨hsx, hsy⟩ ⟨hdx, hdy⟩ hwidth).mpr horder cpy bytes

end SurfacePixels

/-! ## Converting -/

namespace SurfacePixels

variable {yuv : Bool} {find : Nat → Option VMIOSurface} {v w : VMIOSurface} {e f : Extent}
  {cpy : Memcpy} {r t : Ram} {source dest n : Nat} {sourceFormat destFormat : PixelFormat}

/-- Blue and red change places. -/
def swapByte (k : Nat) : Nat := if k = 1 then 3 else if k = 3 then 1 else k

/-- The pairs of formats that differ in the places of blue and red. -/
def Swaps (sourceFormat destFormat : PixelFormat) : Prop :=
  sourceFormat = .bgra32 ∧ destFormat = .rgba32 ∨ sourceFormat = .rgba32 ∧ destFormat = .bgra32

instance : Decidable (Swaps sourceFormat destFormat) := inferInstanceAs (Decidable (_ ∨ _))

/-- Which byte of the source a byte of the converted pixels is. -/
def conversion (sourceFormat destFormat : PixelFormat) : Option (Nat → Nat) :=
  if sourceFormat = destFormat then some id
  else if Swaps sourceFormat destFormat then some fun i => i / 4 * 4 + swapByte (i % 4)
  else none

/-- What `convertSurfaceFormat` should write. -/
def Converts (v : VMIOSurface) (e f : Extent) (destFormat : PixelFormat) (r t : Ram) : Prop :=
  (0 < v.width * v.height → (conversion v.descriptor.pixelFormat destFormat).isSome) ∧
    Writes f.base (v.width * v.height * destFormat.bytesPerPixel)
      (fun i => r.bytes
        (e.base + (conversion v.descriptor.pixelFormat destFormat).getD (fun i => i) i)) r t

theorem swapWord_bytes (bytes : Nat → UInt8) (a : Nat) :
    wordBytes (swapWord (wordAt bytes a)) =
      [bytes a, bytes (a + 3), bytes (a + 2), bytes (a + 1)] := by
  obtain ⟨h₀, h₁, h₂, h₃⟩ := byte_of_word (bytes a).toNat_lt (bytes (a + 1)).toNat_lt
    (bytes (a + 2)).toNat_lt (bytes (a + 3)).toNat_lt
  rw [swapWord, wordAt, h₀, h₁, h₂, h₃,
    join_bytes (bytes a).toNat_lt (bytes (a + 3)).toNat_lt (bytes (a + 2)).toNat_lt]
  exact wordBytes_of_bytes _ _ _ _

theorem swapWords_writes (h : f.Apart e) (hsource : n * 4 ≤ e.size) (hdest : n * 4 ≤ f.size) :
    Writes f.base (n * 4) (fun i => r.bytes (e.base + (i / 4 * 4 + swapByte (i % 4)))) r
      (swapWords e f n r) := by
  have hgrid : WritesGrid f.base 4 4 n (fun row i => r.bytes (e.base + (row * 4 + swapByte i))) r
      (swapWords e f n r) := by
    apply writesGrid_loop (Nat.le_refl 4)
    intro row hrow t ht
    -- no earlier turn has written to the source
    have hsame : ∀ k < 4, t.bytes (e.base + 4 * row + k) = r.bytes (e.base + (row * 4 + k)) := by
      intro k hk
      rw [Nat.add_assoc, Nat.mul_comm 4]
      apply ht.outside
      intro row' hrow' hin
      obtain ⟨hstart, hend⟩ := hin
      dsimp only at hstart hend
      refine h.not_has (a := e.base + (row * 4 + k)) ⟨Nat.le_add_right _ _, by omega⟩ ?_
      exact ⟨by omega, by omega⟩
    have hstore := Ram.store_writes f (f.base + 4 * row)
      (wordBytes (swapWord (wordAt t.bytes (e.base + 4 * row)))) (t.access e (e.base + 4 * row) 4)
    rw [length_wordBytes] at hstore
    rw [Nat.mul_comm row 4] at hsame ⊢
    refine ⟨fun i hi => (hstore.inside i hi).trans ?_, hstore.outside⟩
    rw [swapWord_bytes]
    match i, hi with
    | 0, _ => exact hsame 0 (by decide)
    | 1, _ => exact hsame 3 (by decide)
    | 2, _ => exact hsame 2 (by decide)
    | 3, _ => exact hsame 1 (by decide)
  exact hgrid.writes

theorem swapWords_wild (hsource : n * 4 ≤ e.size) (hdest : n * 4 ≤ f.size) :
    (swapWords e f n r).wild = r.wild := by
  apply loop_wild
  intro i hi t
  refine (Ram.store_wild ?_).trans (Ram.access_wild ?_)
  · refine ⟨Nat.le_add_right _ _, ?_⟩
    rw [length_wordBytes]
    omega
  · exact ⟨Nat.le_add_right _ _, by omega⟩

theorem swapWords_wild_of_not (h : f.size < n * 4) : (swapWords e f n r).wild = true := by
  obtain ⟨k, rfl⟩ : ∃ k, n = k + 1 := ⟨n - 1, by omega⟩
  refine loop_wild_of_turn (Nat.lt_succ_self k) (fun t => ?_) (fun i t ht => ?_)
  · apply Ram.store_wild_of_not
    rintro ⟨_, hend⟩
    rw [length_wordBytes] at hend
    omega
  · apply Ram.store_wild_of
    simp [Ram.access, ht]

theorem converts_empty (h : v.width * v.height = 0) : Converts v e f destFormat r r := by
  refine ⟨fun hpos => absurd h (Nat.ne_of_gt hpos), ?_, fun _ _ => rfl⟩
  intro i hi
  rw [h, Nat.zero_mul] at hi
  exact absurd hi (Nat.not_lt_zero i)

theorem converts_itself (h : v.descriptor.pixelFormat = destFormat) :
    Converts v e e destFormat r r := by
  have hconversion : conversion v.descriptor.pixelFormat destFormat = some fun i => i := if_pos h
  refine ⟨fun _ => by rw [hconversion]; rfl, fun i _ => ?_, fun _ _ => rfl⟩
  rw [hconversion]
  rfl

theorem conversion_of_swaps (h : Swaps sourceFormat destFormat) :
    conversion sourceFormat destFormat = some (fun i => i / 4 * 4 + swapByte (i % 4)) ∧
      sourceFormat.bytesPerPixel = 4 ∧ destFormat.bytesPerPixel = 4 := by
  rcases h with ⟨rfl, rfl⟩ | ⟨rfl, rfl⟩
  · exact ⟨rfl, rfl, rfl⟩
  · exact ⟨rfl, rfl, rfl⟩

/-- A surface whose pixels have another format has to change. -/
theorem not_converts_itself (e : Extent) (hne : v.descriptor.pixelFormat ≠ destFormat)
    (hpos : 0 < v.width * v.height) :
    ∃ bytes, ¬ Converts v e e destFormat ⟨bytes, false⟩ ⟨bytes, false⟩ := by
  by_cases hswaps : Swaps v.descriptor.pixelFormat destFormat
  · obtain ⟨hconversion, -, hpixel⟩ := conversion_of_swaps hswaps
    refine ⟨unlike (e.base + 1) 0, fun h => ?_⟩
    have hbyte := h.2.inside 1 (by rw [hpixel]; omega)
    rw [hconversion] at hbyte
    have hother : unlike (e.base + 1) 0 (e.base + 3) = 0 := unlike_of_ne 0 (by omega)
    exact unlike_ne (e.base + 1) 0 (hbyte.trans hother)
  · refine ⟨fun _ => 0, fun h => ?_⟩
    have hsome := h.1 hpos
    rw [conversion, if_neg hne, if_neg hswaps] at hsome
    cases hsome

/-- Another surface of the same format has to receive the pixels. -/
theorem not_converts_unchanged (hsame : v.descriptor.pixelFormat = destFormat)
    (hbase : e.base ≠ f.base) (hpos : 0 < v.width * v.height * destFormat.bytesPerPixel) :
    ∃ bytes, ¬ Converts v e f destFormat ⟨bytes, false⟩ ⟨bytes, false⟩ := by
  refine ⟨unlike f.base 0, fun h => ?_⟩
  have hbyte := h.2.inside 0 hpos
  rw [conversion, if_pos hsame] at hbyte
  exact unlike_ne f.base 0 (hbyte.trans (unlike_of_ne 0 hbase))

/-- Between surfaces that are apart and large enough the loop does it. -/
theorem swapWords_converts (hv : v.Ready yuv) (he : v.extent = some e) (hapart : f.Apart e)
    (hswaps : Swaps v.descriptor.pixelFormat destFormat)
    (hdest : v.width * v.height * 4 ≤ f.size) :
    (swapWords e f (v.width * v.height % u32) r).wild = r.wild ∧
      Converts v e f destFormat r (swapWords e f (v.width * v.height % u32) r) := by
  obtain ⟨hconversion, hpixel, hpixel'⟩ := conversion_of_swaps hswaps
  have hsource : v.width * v.height * 4 ≤ e.size := by
    rw [VMIOSurface.extent_size he, ← hpixel]
    exact hv.holds
  have hsize := hv.size
  rw [← VMIOSurface.extent_size he] at hsize
  rw [Nat.mod_eq_of_lt (by omega)]
  refine ⟨swapWords_wild hsource hdest, fun _ => by rw [hconversion]; rfl, ?_⟩
  rw [hconversion, hpixel']
  exact swapWords_writes hapart hsource hdest

/-- What a conversion between two valid formats does. -/
theorem performPixelFormatConversion_eq {width height : Nat}
    (hsource : sourceFormat.validate yuv = .success) (hdest : destFormat.validate yuv = .success)
    (hne : sourceFormat ≠ destFormat) :
    performPixelFormatConversion cpy e sourceFormat f destFormat width height r =
      if width = 0 ∨ height = 0 then (.badArgument, r)
      else if Swaps sourceFormat destFormat then
        (.success, swapWords e f (width * height % u32) r)
      else (.unsupported, r) := by
  have hrgb : sourceFormat ≠ .rgb := by
    rintro rfl
    cases hsource
  have hrgb' : destFormat ≠ .rgb := by
    rintro rfl
    cases hdest
  have hl8 : destFormat ≠ .l8 := by
    rintro rfl
    cases hdest
  simp only [performPixelFormatConversion, if_neg hne, hrgb, hrgb', hl8, false_and, and_false,
    if_false, convertBGRAtoRGBA, convertRGBAtoBGRA]
  by_cases hzero : width = 0 ∨ height = 0
  · rw [if_pos hzero, if_pos hzero]
  rw [if_neg hzero, if_neg hzero]
  by_cases hto : sourceFormat = .bgra32 ∧ destFormat = .rgba32
  · rw [if_pos hto, if_pos (.inl hto)]
  by_cases hback : sourceFormat = .rgba32 ∧ destFormat = .bgra32
  · rw [if_neg hto, if_pos hback, if_pos (.inr hback)]
  · rw [if_neg hto, if_neg hback, if_neg (fun h => h.elim hto hback)]

/-- What `convertSurfaceFormat` does with two surfaces of one size. -/
theorem convertSurfaceFormat_eq (hv : v.Ready yuv) (hw : w.Ready yuv)
    (hsource : find source = some v) (hdest : find dest = some w) (he : v.extent = some e)
    (hf : w.extent = some f) (hids : source ≠ 0 ∧ dest ≠ 0) (hne : source ≠ dest)
    (hformat : destFormat.validate yuv = .success)
    (hsize : v.width = w.width ∧ v.height = w.height) :
    convertSurfaceFormat find yuv cpy source dest destFormat r =
      if v.descriptor.pixelFormat = destFormat then (.success, r)
      else if v.width = 0 ∨ v.height = 0 then (.badArgument, r)
      else if Swaps v.descriptor.pixelFormat destFormat then
        (.success, swapWords e f (v.width * v.height % u32) r)
      else (.unsupported, r) := by
  obtain ⟨_, hvm⟩ := Option.isSome_iff_exists.mp hv.memory
  obtain ⟨_, hwm⟩ := Option.isSome_iff_exists.mp hw.memory
  rw [convertSurfaceFormat, if_neg (by omega), if_neg hne, if_neg (not_not.mpr hformat), hsource,
    hdest]
  simp only [hvm, hwm, he, hf]
  rw [if_neg (by omega)]
  by_cases hsame : v.descriptor.pixelFormat = destFormat
  · rw [if_pos hsame, if_pos hsame]
  · rw [if_neg hsame, if_neg hsame, performPixelFormatConversion_eq hv.format hformat hsame]

/-- It succeeds for valid formats and equal sizes only. -/
theorem convertSurfaceFormat_success (hv : v.Ready yuv) (hw : w.Ready yuv)
    (hsource : find source = some v) (hdest : find dest = some w) (hne : source ≠ dest)
    (h : (convertSurfaceFormat find yuv cpy source dest destFormat r).1 = .success) :
    (source ≠ 0 ∧ dest ≠ 0) ∧ destFormat.validate yuv = .success ∧
      v.width = w.width ∧ v.height = w.height := by
  obtain ⟨e, he⟩ := hv.extent
  obtain ⟨f, hf⟩ := hw.extent
  obtain ⟨_, hvm⟩ := Option.isSome_iff_exists.mp hv.memory
  obtain ⟨_, hwm⟩ := Option.isSome_iff_exists.mp hw.memory
  rw [convertSurfaceFormat, if_neg hne] at h
  by_cases hzero : source = 0 ∨ dest = 0
  · simp [hzero] at h
  by_cases hformat : destFormat.validate yuv = .success
  · by_cases hsize : v.width ≠ w.width ∨ v.height ≠ w.height
    · simp [hzero, hformat, hsource, hdest, hvm, hwm, he, hf, hsize] at h
    · exact ⟨by omega, hformat, by omega, by omega⟩
  · simp [hzero, hformat] at h

end SurfacePixels

/-! ## All four operations -/

/-- A call of an operation on pixels. -/
inductive PixelCall where
  | fillSurface (id color : Nat)
  | fillSurfaceRegion (id x y width height color : Nat)
  | copySurfaceRegion (source dest srcX srcY dstX dstY width height : Nat)
  | convertSurfaceFormat (source dest : Nat) (destFormat : PixelFormat)

/-- Every surface that is found has its own memory, which holds its pixels. -/
structure SetUp (yuv : Bool) (find : Nat → Option VMIOSurface) : Prop where
  ready : ∀ {id v}, find id = some v → v.Ready yuv
  apart : ∀ {id id' v v' e e'}, id ≠ id' → find id = some v → find id' = some v' →
    v.extent = some e → v'.extent = some e' → e.Apart e'

namespace PixelCall

open SurfacePixels

variable (yuv : Bool) (find : Nat → Option VMIOSurface) (cpy : Memcpy)

def run : PixelCall → Ram → IOReturn × Ram
  | .fillSurface id color => SurfacePixels.fillSurface find id color
  | .fillSurfaceRegion id x y width height color =>
      SurfacePixels.fillSurfaceRegion find id x y width height color
  | .copySurfaceRegion source dest srcX srcY dstX dstY width height =>
      SurfacePixels.copySurfaceRegion find cpy source dest srcX srcY dstX dstY width height
  | .convertSurfaceFormat source dest destFormat =>
      SurfacePixels.convertSurfaceFormat find yuv cpy source dest destFormat

/-- What a successful call should have done to the memory: the region was in the
surface, its pixels are what was asked for, and no other byte has changed. -/
def Meets (r t : Ram) : PixelCall → Prop
  | .fillSurface id color => ∀ v e, find id = some v → v.extent = some e →
      FillsSurface v e color r t
  | .fillSurfaceRegion id x y width height color => ∀ v e, find id = some v → v.extent = some e →
      v.Contains x y width height ∧ FillsRegion v e x y width height color r t
  | .copySurfaceRegion source dest srcX srcY dstX dstY width height => ∀ v e w f,
      find source = some v → v.extent = some e → find dest = some w → w.extent = some f →
      (v.Contains srcX srcY width height ∧ w.Contains dstX dstY width height) ∧
        CopiesRegion v e w f srcX srcY dstX dstY width height r t
  | .convertSurfaceFormat source dest destFormat => ∀ v e w f,
      find source = some v → v.extent = some e → find dest = some w → w.extent = some f →
      Converts v e f destFormat r t

/-- A successful call touches nothing outside the surfaces' memory and does what was
asked for, whatever the memory holds. -/
def Correct (call : PixelCall) : Prop :=
  ∀ cpy bytes, (call.run yuv find cpy ⟨bytes, false⟩).1 = .success →
    (call.run yuv find cpy ⟨bytes, false⟩).2.wild = false ∧
      call.Meets find ⟨bytes, false⟩ (call.run yuv find cpy ⟨bytes, false⟩).2

/-- When that is so: the pixels are words, no sum wraps, a copy within a surface is in
order, and a conversion finds pixels of its own size in another surface. -/
def Safe : PixelCall → Prop
  | .fillSurface id _ => ∀ v, find id = some v →
      v.bytesPerPixel = 4 ∨ v.memorySize < v.bytesPerPixel
  | .fillSurfaceRegion id x y width height _ => ∀ v, find id = some v →
      (id ≠ 0 ∧ 0 < width ∧ 0 < height) ∧ fits v x y width height = true →
      v.Contains x y width height ∧ v.bytesPerPixel = 4
  | .copySurfaceRegion source dest srcX srcY dstX dstY width height => ∀ v w,
      find source = some v → find dest = some w →
      CopyAccepts v w source dest srcX srcY dstX dstY width height →
      (v.Contains srcX srcY width height ∧ w.Contains dstX dstY width height) ∧
        (source = dest → InOrder srcX srcY dstX dstY width height)
  | .convertSurfaceFormat source dest destFormat => ∀ v w,
      find source = some v → find dest = some w → source ≠ 0 → dest ≠ 0 →
      if source = dest then v.descriptor.pixelFormat = destFormat ∨ v.width * v.height = 0
      else
        destFormat.validate yuv = .success → v.width = w.width → v.height = w.height →
        if v.descriptor.pixelFormat = destFormat then v.width * v.height = 0
        else Swaps v.descriptor.pixelFormat destFormat →
          v.width * v.height * 4 ≤ w.memorySize

variable {yuv find}

/-- A surface that is found is the only one. -/
theorem forall_found_iff {id : Nat} {v : VMIOSurface} {e : Extent}
    {P : VMIOSurface → Extent → Prop} (hfind : find id = some v) (he : v.extent = some e) :
    (∀ v' e', find id = some v' → v'.extent = some e' → P v' e') ↔ P v e := by
  constructor
  · intro h
    exact h v e hfind he
  · intro h v' e' hfind' he'
    obtain rfl : v = v' := Option.some.inj (hfind.symm.trans hfind')
    obtain rfl : e = e' := Option.some.inj (he.symm.trans he')
    exact h

theorem forall_found_iff₂ {source dest : Nat} {v w : VMIOSurface} {e f : Extent}
    {P : VMIOSurface → Extent → VMIOSurface → Extent → Prop} (hsource : find source = some v)
    (he : v.extent = some e) (hdest : find dest = some w) (hf : w.extent = some f) :
    (∀ v' e' w' f', find source = some v' → v'.extent = some e' → find dest = some w' →
      w'.extent = some f' → P v' e' w' f') ↔ P v e w f := by
  constructor
  · intro h
    exact h v e w f hsource he hdest hf
  · intro h v' e' w' f' hsource' he'
    obtain rfl : v = v' := Option.some.inj (hsource.symm.trans hsource')
    obtain rfl : e = e' := Option.some.inj (he.symm.trans he')
    exact (forall_found_iff hdest hf).mpr h w' f'

theorem fillSurface_correct_iff (h : SetUp yuv find) {id color : Nat} :
    (fillSurface id color).Correct yuv find ↔ (fillSurface id color).Safe yuv find := by
  constructor
  · intro hcorrect v hfind
    have hready := h.ready hfind
    obtain ⟨e, he⟩ := hready.extent
    by_contra hbad
    rw [not_or, Nat.not_lt] at hbad
    have hsmall : v.bytesPerPixel < 4 := Nat.lt_of_le_of_ne hready.pixel_le hbad.1
    obtain ⟨bytes, hbytes⟩ := fillSurface_bad e color hready.pixel_pos hsmall hbad.2
    have hmeets := hcorrect .spoiling bytes
    simp only [run, fillSurface_eq hfind he hready.pixel_pos, true_implies] at hmeets
    exact hbytes (hmeets.2 v e hfind he)
  · intro hsafe cpy bytes hsuccess
    rcases hfind : find id with _ | v
    · simp [run, SurfacePixels.fillSurface, hfind] at hsuccess
    · obtain ⟨e, he⟩ := (h.ready hfind).extent
      have hgood := fillSurface_good color ⟨bytes, false⟩ he (hsafe v hfind)
      rw [run, fillSurface_eq hfind he (h.ready hfind).pixel_pos]
      exact ⟨hgood.1, (forall_found_iff hfind he).mpr hgood.2⟩

theorem fillSurfaceRegion_correct_iff (h : SetUp yuv find) {id x y width height color : Nat} :
    (fillSurfaceRegion id x y width height color).Correct yuv find ↔
      (fillSurfaceRegion id x y width height color).Safe yuv find := by
  constructor
  · intro hcorrect v hfind haccepts
    have hready := h.ready hfind
    obtain ⟨e, he⟩ := hready.extent
    have hsuccess : ∀ bytes, (run yuv find .spoiling
        (.fillSurfaceRegion id x y width height color) ⟨bytes, false⟩).1 = .success :=
      fun _ => (fillSurfaceRegion_success hready hfind).mpr haccepts
    have hinside := ((hcorrect .spoiling (fun _ => 0) (hsuccess _)).2 v e hfind he).1
    refine ⟨hinside, ?_⟩
    by_contra hbad
    obtain ⟨⟨hid, hwidth, hheight⟩, hfits⟩ := haccepts
    obtain ⟨bytes, hbytes⟩ := fillRegion_bad e x y color
      (Nat.lt_of_le_of_ne hready.pixel_le hbad) hwidth hheight
    have hmeets := ((hcorrect .spoiling bytes (hsuccess bytes)).2 v e hfind he).2
    rw [run, fillSurfaceRegion_eq hready hfind he hid hwidth hheight hfits hinside] at hmeets
    exact hbytes hmeets
  · intro hsafe cpy bytes hsuccess
    rcases hfind : find id with _ | v
    · simp only [run, SurfacePixels.fillSurfaceRegion, hfind] at hsuccess
      split_ifs at hsuccess
    · have hready := h.ready hfind
      obtain ⟨e, he⟩ := hready.extent
      have haccepts := (fillSurfaceRegion_success hready hfind).mp hsuccess
      obtain ⟨hinside, hpixel⟩ := hsafe v hfind haccepts
      have hgood := fillRegion_good color ⟨bytes, false⟩ hready he hinside hpixel
      obtain ⟨⟨hid, hwidth, hheight⟩, hfits⟩ := haccepts
      rw [run, fillSurfaceRegion_eq hready hfind he hid hwidth hheight hfits hinside]
      exact ⟨hgood.1, (forall_found_iff hfind he).mpr ⟨hinside, hgood.2⟩⟩

theorem copySurfaceRegion_correct_iff (h : SetUp yuv find)
    {source dest srcX srcY dstX dstY width height : Nat} :
    (copySurfaceRegion source dest srcX srcY dstX dstY width height).Correct yuv find ↔
      (copySurfaceRegion source dest srcX srcY dstX dstY width height).Safe yuv find := by
  constructor
  · intro hcorrect v w hsource hdest haccepts
    have hv := h.ready hsource
    have hw := h.ready hdest
    obtain ⟨e, he⟩ := hv.extent
    obtain ⟨f, hf⟩ := hw.extent
    have hsuccess : ∀ cpy bytes, (run yuv find cpy
        (.copySurfaceRegion source dest srcX srcY dstX dstY width height) ⟨bytes, false⟩).1 =
          .success :=
      fun _ _ => (copySurfaceRegion_success hv hw hsource hdest).mpr haccepts
    have hinside :=
      ((hcorrect .spoiling (fun _ => 0) (hsuccess _ _)).2 v e w f hsource he hdest hf).1
    refine ⟨hinside, ?_⟩
    rintro rfl
    obtain rfl : v = w := Option.some.inj (hsource.symm.trans hdest)
    obtain rfl : e = f := Option.some.inj (he.symm.trans hf)
    have hsame := copyRegion_same_iff (e := e) hv hinside.1 hinside.2 haccepts.1.2.2.1
    refine hsame.mp fun cpy bytes => ?_
    have hmeets := ((hcorrect cpy bytes (hsuccess cpy bytes)).2 v e v e hsource he hsource he).2
    rw [run, copySurfaceRegion_eq hv hv hsource hsource he he haccepts hinside.1 hinside.2]
      at hmeets
    exact hmeets
  · intro hsafe cpy bytes hsuccess
    rcases hsource : find source with _ | v
    · simp only [run, SurfacePixels.copySurfaceRegion, hsource] at hsuccess
      split_ifs at hsuccess
    rcases hdest : find dest with _ | w
    · simp only [run, SurfacePixels.copySurfaceRegion, hsource, hdest] at hsuccess
      split_ifs at hsuccess
    have hv := h.ready hsource
    have hw := h.ready hdest
    obtain ⟨e, he⟩ := hv.extent
    obtain ⟨f, hf⟩ := hw.extent
    have haccepts := (copySurfaceRegion_success hv hw hsource hdest).mp hsuccess
    obtain ⟨⟨hsrc, hdst⟩, horder⟩ := hsafe v w hsource hdest haccepts
    have hpixel : v.bytesPerPixel = w.bytesPerPixel :=
      congrArg PixelFormat.bytesPerPixel haccepts.2.2
    have hplace : f.Apart e ∨ f = e ∧ w = v ∧ InOrder srcX srcY dstX dstY width height := by
      by_cases hids : source = dest
      · subst hids
        obtain rfl : v = w := Option.some.inj (hsource.symm.trans hdest)
        obtain rfl : e = f := Option.some.inj (he.symm.trans hf)
        exact .inr ⟨rfl, rfl, horder rfl⟩
      · exact .inl (h.apart (Ne.symm hids) hdest hsource hf he)
    have hgood := copyRegion_good cpy bytes hv hw he hf hpixel hsrc hdst haccepts.1.2.2.1 hplace
    rw [run, copySurfaceRegion_eq hv hw hsource hdest he hf haccepts hsrc hdst]
    exact ⟨hgood.1, (forall_found_iff₂ hsource he hdest hf).mpr ⟨⟨hsrc, hdst⟩, hgood.2⟩⟩

/-- A surface is its own destination. -/
theorem convertSurfaceFormat_itself {id : Nat} {destFormat : PixelFormat} {v : VMIOSurface}
    (h : SetUp yuv find) (hfind : find id = some v) (hid : id ≠ 0) :
    (convertSurfaceFormat id id destFormat).Correct yuv find ↔
      v.descriptor.pixelFormat = destFormat ∨ v.width * v.height = 0 := by
  obtain ⟨e, he⟩ := (h.ready hfind).extent
  have hrun : ∀ cpy r, run yuv find cpy (.convertSurfaceFormat id id destFormat) r =
      (.success, r) := by
    intro cpy r
    rw [run, SurfacePixels.convertSurfaceFormat, if_neg (by simp [hid]), if_pos rfl]
  constructor
  · intro hcorrect
    by_contra hbad
    rw [not_or] at hbad
    obtain ⟨bytes, hbytes⟩ := not_converts_itself e hbad.1 (Nat.pos_of_ne_zero hbad.2)
    have hmeets := hcorrect .spoiling bytes
    rw [hrun] at hmeets
    exact hbytes ((hmeets rfl).2 v e v e hfind he hfind he)
  · intro hsafe cpy bytes _
    rw [hrun]
    refine ⟨rfl, (forall_found_iff₂ hfind he hfind he).mpr ?_⟩
    rcases hsafe with hsame | hempty
    · exact converts_itself hsame
    · exact converts_empty hempty

/-- Two surfaces of one size, and a valid format. -/
theorem convertSurfaceFormat_between {source dest : Nat} {destFormat : PixelFormat}
    {v w : VMIOSurface} (h : SetUp yuv find) (hsource : find source = some v)
    (hdest : find dest = some w) (hids : source ≠ 0 ∧ dest ≠ 0) (hne : source ≠ dest)
    (hformat : destFormat.validate yuv = .success)
    (hsize : v.width = w.width ∧ v.height = w.height) :
    (convertSurfaceFormat source dest destFormat).Correct yuv find ↔
      if v.descriptor.pixelFormat = destFormat then v.width * v.height = 0
      else Swaps v.descriptor.pixelFormat destFormat → v.width * v.height * 4 ≤ w.memorySize := by
  have hv := h.ready hsource
  have hw := h.ready hdest
  obtain ⟨e, he⟩ := hv.extent
  obtain ⟨f, hf⟩ := hw.extent
  have hapart := h.apart hne.symm hdest hsource hf he
  have hrun : ∀ cpy r, run yuv find cpy (.convertSurfaceFormat source dest destFormat) r = _ :=
    fun _ _ => convertSurfaceFormat_eq hv hw hsource hdest he hf hids hne hformat hsize
  have hmeets : ∀ r t, Meets find r t (.convertSurfaceFormat source dest destFormat) ↔
      Converts v e f destFormat r t := by
    intro r t
    exact forall_found_iff₂ hsource he hdest hf
  simp only [Correct, hrun, hmeets]
  by_cases hsame : v.descriptor.pixelFormat = destFormat
  · simp only [if_pos hsame, true_implies]
    constructor
    · intro hcorrect
      by_contra hpixels
      have hpos : 0 < v.width * v.height * destFormat.bytesPerPixel :=
        Nat.mul_pos (Nat.pos_of_ne_zero hpixels) (VMIOSurface.bytesPerPixel_of_valid hformat).1
      have hmemory : 0 < e.size := by
        rw [VMIOSurface.extent_size he]
        refine Nat.lt_of_lt_of_le hpos ?_
        rw [← hsame]
        exact hv.holds
      have hmemory' : 0 < f.size := by
        rw [VMIOSurface.extent_size hf]
        refine Nat.lt_of_lt_of_le (Nat.mul_pos (Nat.pos_of_ne_zero ?_) hw.pixel_pos) hw.holds
        rw [← hsize.1, ← hsize.2]
        exact hpixels
      have hbase : e.base ≠ f.base := by
        intro heq
        rcases hapart with hend | hend
        · omega
        · omega
      obtain ⟨bytes, hbytes⟩ := not_converts_unchanged (e := e) (f := f) hsame hbase hpos
      exact hbytes (hcorrect .spoiling bytes).2
    · intro hempty _ _
      exact ⟨trivial, converts_empty hempty⟩
  · simp only [if_neg hsame]
    by_cases hempty : v.width = 0 ∨ v.height = 0
    · have hzero : v.width * v.height = 0 := Nat.mul_eq_zero.mpr hempty
      simp [hempty, hzero]
    by_cases hswaps : Swaps v.descriptor.pixelFormat destFormat
    · simp only [if_neg hempty, hswaps, if_true, true_implies]
      constructor
      · intro hcorrect
        by_contra hsmall
        rw [← VMIOSurface.extent_size hf] at hsmall
        have hholds := hv.holds
        have hpixel : v.bytesPerPixel = 4 := (conversion_of_swaps hswaps).2.1
        have hmemory := hv.size
        rw [hpixel] at hholds
        have hwild := (hcorrect .spoiling fun _ => 0).1
        rw [Nat.mod_eq_of_lt (by omega), swapWords_wild_of_not (by omega)] at hwild
        cases hwild
      · intro hlarge _ bytes
        rw [← VMIOSurface.extent_size hf] at hlarge
        exact swapWords_converts hv he hapart hswaps hlarge
    · simp [hempty, hswaps]

theorem convertSurfaceFormat_correct_iff (h : SetUp yuv find) {source dest : Nat}
    {destFormat : PixelFormat} :
    (convertSurfaceFormat source dest destFormat).Correct yuv find ↔
      (convertSurfaceFormat source dest destFormat).Safe yuv find := by
  by_cases hne : source = dest
  · subst hne
    constructor
    · intro hcorrect v w hsource hdest hid _
      obtain rfl : v = w := Option.some.inj (hsource.symm.trans hdest)
      rw [if_pos rfl]
      exact (convertSurfaceFormat_itself h hsource hid).mp hcorrect
    · intro hsafe cpy bytes hsuccess
      rcases hfind : find source with _ | v
      · have hkept : (run yuv find cpy (.convertSurfaceFormat source source destFormat)
            ⟨bytes, false⟩).2 = ⟨bytes, false⟩ := by
          rw [run, SurfacePixels.convertSurfaceFormat, if_pos rfl]
          split_ifs
          · rfl
          · rfl
        refine ⟨by rw [hkept], fun v e w f hsource => ?_⟩
        rw [hfind] at hsource
        cases hsource
      · have hid : source ≠ 0 := by
          rintro rfl
          simp [run, SurfacePixels.convertSurfaceFormat] at hsuccess
        have hcond := hsafe v v hfind hfind hid hid
        rw [if_pos rfl] at hcond
        exact (convertSurfaceFormat_itself h hfind hid).mpr hcond cpy bytes hsuccess
  · constructor
    · intro hcorrect v w hsource hdest hs hd
      rw [if_neg hne]
      intro hformat hwidth hheight
      exact (convertSurfaceFormat_between h hsource hdest ⟨hs, hd⟩ hne hformat
        ⟨hwidth, hheight⟩).mp hcorrect
    · intro hsafe cpy bytes hsuccess
      rcases hsource : find source with _ | v
      · simp only [run, SurfacePixels.convertSurfaceFormat, if_neg hne, hsource] at hsuccess
        split_ifs at hsuccess with _ hformat
        exact absurd hsuccess hformat
      rcases hdest : find dest with _ | w
      · simp only [run, SurfacePixels.convertSurfaceFormat, if_neg hne, hsource, hdest] at hsuccess
        split_ifs at hsuccess with _ hformat
        exact absurd hsuccess hformat
      obtain ⟨hids, hformat, hsize⟩ := convertSurfaceFormat_success (h.ready hsource)
        (h.ready hdest) hsource hdest hne hsuccess
      have hcond := hsafe v w hsource hdest hids.1 hids.2
      rw [if_neg hne] at hcond
      exact (convertSurfaceFormat_between h hsource hdest hids hne hformat hsize).mpr
        (hcond hformat hsize.1 hsize.2) cpy bytes hsuccess

/-- **A successful operation stays in the surfaces' memory, writes what it was asked
for and nothing else, and has been asked for a region of the surface, exactly if its
call is safe.** -/
theorem correct_iff_safe (h : SetUp yuv find) (call : PixelCall) :
    call.Correct yuv find ↔ call.Safe yuv find := by
  cases call with
  | fillSurface id color => exact fillSurface_correct_iff h
  | fillSurfaceRegion id x y width height color => exact fillSurfaceRegion_correct_iff h
  | copySurfaceRegion source dest srcX srcY dstX dstY width height =>
      exact copySurfaceRegion_correct_iff h
  | convertSurfaceFormat source dest destFormat => exact convertSurfaceFormat_correct_iff h

/-- Surface 1 and no other. -/
def only (v : VMIOSurface) : Nat → Option VMIOSurface := fun id => if id = 1 then some v else none

theorem only_setUp {v : VMIOSurface} (h : v.Ready yuv) : SetUp yuv (only v) := by
  have hid : ∀ {id v'}, only v id = some v' → id = 1 ∧ v' = v := by
    intro id v' hfind
    rw [only] at hfind
    split_ifs at hfind with hone
    exact ⟨hone, (Option.some.inj hfind).symm⟩
  constructor
  · intro id v' hfind
    rw [(hid hfind).2]
    exact h
  · intro id id' v' v'' e e' hne hfind hfind' _ _
    exact absurd ((hid hfind).1.trans (hid hfind').1.symm) hne

/-- 64 by 64 pixels, in the page-aligned memory `createSurface` gives them. -/
def sample (format : PixelFormat) (memorySize : Nat) : VMIOSurface :=
  { VMIOSurface.blank with
    surfaceId := 1
    descriptor := .plain format 64 64
    memory := some 0x10000
    baseAddress := some 0x10000
    refCount := 1
    width := 64
    height := 64
    memorySize }

theorem sample_ready (yuv : Bool) : (sample .bgra32 16384).Ready yuv := by
  constructor <;> decide +revert

theorem sample_planar_ready : (sample .nv12 8192).Ready true := by
  constructor <;> decide

theorem correct_iff_safe_bgra :
    (fillSurfaceRegion 1 8 8 16 16 0xFF00FF).Correct false (only (sample .bgra32 16384)) := by
  refine (correct_iff_safe (only_setUp (sample_ready false)) _).mpr ?_
  intro v hfind _
  rw [only, if_pos rfl] at hfind
  obtain rfl := Option.some.inj hfind
  decide

/-- Filling an NV12 surface writes four bytes for each byte of its memory. -/
theorem fillSurface_planar : SetUp true (only (sample .nv12 8192)) ∧
    ¬ (fillSurface 1 0).Correct true (only (sample .nv12 8192)) := by
  refine ⟨only_setUp sample_planar_ready, fun hcorrect => ?_⟩
  have hsafe := (fillSurface_correct_iff (only_setUp sample_planar_ready)).mp hcorrect
    (sample .nv12 8192) rfl
  revert hsafe
  decide

end PixelCall

end VMQemuVGA
