import Mathlib.Tactic.Ring
import VMQemuVGA.Lib.Bytes
import VMQemuVGA.Vga.Stride

/-! # Drawing on the framebuffer

`acceleratedCanvasFillRect` and `acceleratedCanvasDrawText` write pixels of the current
mode into the mapped VRAM. The positions are `int32_t`s, which wrap; the index of a pixel
is a `uint32_t`. -/

namespace VMQemuVGA

/-- What the canvas calls find in the driver. -/
structure CanvasEnv where
  /-- `m_3d_acceleration_enabled` -/
  accelerated : Bool
  /-- `m_iolock` -/
  lock : Bool
  /-- `m_vram`, by its length -/
  vram : Option Nat
  /-- `m_vram->map()`, by its address -/
  map : Option Nat

/-- Where the pixel in the column `c` and the row `row` begins. -/
def pixelAt (base W c row : Nat) : Nat := base + (row * W + c) * 4

/-! ## Filling a rectangle -/

/-- The test that `acceleratedCanvasFillRect` makes of its rectangle. -/
def rectInside (dme : DisplayModeEntry) (x y width height : Int32) : Bool :=
  0 ≤ x && 0 ≤ y && x + width ≤ Int32.ofNat dme.width && y + height ≤ Int32.ofNat dme.height

/-- The loops of `acceleratedCanvasFillRect`, from the address `start` on. -/
def paint (e : Extent) (start W width height : Nat) (color : UInt32) : Ram → Ram :=
  loop height fun row =>
    loop width fun col =>
      Ram.store e (start + (row * W + col) % u32 * 4) (wordBytes color.toNat)

namespace VgaFramebuffer

def acceleratedCanvasFillRect (env : CanvasEnv) (fb : VgaFramebuffer) (x y width height : Int32)
    (color : UInt32) (r : Ram) : IOReturn × Ram :=
  if env.accelerated = false then (.notReady, r)
  else
    match env.vram, env.lock with
    | some len, true =>
        match fb.getDisplayMode fb.displayMode with
        | none => (.error, r)
        | some dme =>
            if rectInside dme x y width height = false then (.error, r)
            else
              match env.map with
              | none => (.error, r)
              | some base =>
                  let start :=
                    base + (y.toNatClampNeg * dme.width + x.toNatClampNeg) % u32 * 4 % u32
                  (.success,
                    paint ⟨base, len⟩ start dme.width width.toNatClampNeg height.toNatClampNeg
                      color r)
    | _, _ => (.error, r)

end VgaFramebuffer

/-! ## Drawing a text -/

/-- `font8x8`: the rows of the characters 32 to 127. -/
def font8x8 : List (List UInt8) :=
  [[0x00,0x00,0x00,0x00,0x00,0x00,0x00,0x00], [0x18,0x18,0x18,0x18,0x18,0x00,0x18,0x00],
    [0x6C,0x6C,0x6C,0x00,0x00,0x00,0x00,0x00], [0x6C,0x6C,0xFE,0x6C,0xFE,0x6C,0x6C,0x00],
    [0x18,0x7E,0xC0,0x7C,0x06,0xFC,0x18,0x00], [0x00,0xC6,0xCC,0x18,0x30,0x66,0xC6,0x00],
    [0x38,0x6C,0x38,0x76,0xDC,0xCC,0x76,0x00], [0x18,0x18,0x30,0x00,0x00,0x00,0x00,0x00],
    [0x0C,0x18,0x30,0x30,0x30,0x18,0x0C,0x00], [0x30,0x18,0x0C,0x0C,0x0C,0x18,0x30,0x00],
    [0x00,0x66,0x3C,0xFF,0x3C,0x66,0x00,0x00], [0x00,0x18,0x18,0x7E,0x18,0x18,0x00,0x00],
    [0x00,0x00,0x00,0x00,0x00,0x18,0x18,0x30], [0x00,0x00,0x00,0x7E,0x00,0x00,0x00,0x00],
    [0x00,0x00,0x00,0x00,0x00,0x18,0x18,0x00], [0x06,0x0C,0x18,0x30,0x60,0xC0,0x80,0x00],
    [0x7C,0xC6,0xCE,0xD6,0xE6,0xC6,0x7C,0x00], [0x18,0x38,0x18,0x18,0x18,0x18,0x7E,0x00],
    [0x7C,0xC6,0x06,0x1C,0x70,0xC6,0xFE,0x00], [0x7C,0xC6,0x06,0x3C,0x06,0xC6,0x7C,0x00],
    [0x1C,0x3C,0x6C,0xCC,0xFE,0x0C,0x0C,0x00], [0xFE,0xC0,0xFC,0x06,0x06,0xC6,0x7C,0x00],
    [0x7C,0xC6,0xC0,0xFC,0xC6,0xC6,0x7C,0x00], [0xFE,0x06,0x0C,0x18,0x30,0x30,0x30,0x00],
    [0x7C,0xC6,0xC6,0x7C,0xC6,0xC6,0x7C,0x00], [0x7C,0xC6,0xC6,0x7E,0x06,0xC6,0x7C,0x00],
    [0x00,0x18,0x18,0x00,0x00,0x18,0x18,0x00], [0x00,0x18,0x18,0x00,0x00,0x18,0x18,0x30],
    [0x06,0x0C,0x18,0x30,0x18,0x0C,0x06,0x00], [0x00,0x00,0x7E,0x00,0x7E,0x00,0x00,0x00],
    [0x60,0x30,0x18,0x0C,0x18,0x30,0x60,0x00], [0x7C,0xC6,0x0C,0x18,0x18,0x00,0x18,0x00],
    [0x7C,0xC6,0xDE,0xD6,0xDE,0xC0,0x7C,0x00], [0x7C,0xC6,0xC6,0xFE,0xC6,0xC6,0xC6,0x00],
    [0xFC,0xC6,0xC6,0xFC,0xC6,0xC6,0xFC,0x00], [0x7C,0xC6,0xC0,0xC0,0xC0,0xC6,0x7C,0x00],
    [0xF8,0xCC,0xC6,0xC6,0xC6,0xCC,0xF8,0x00], [0xFE,0xC0,0xC0,0xFC,0xC0,0xC0,0xFE,0x00],
    [0xFE,0xC0,0xC0,0xFC,0xC0,0xC0,0xC0,0x00], [0x7C,0xC6,0xC0,0xCE,0xC6,0xC6,0x7C,0x00],
    [0xC6,0xC6,0xC6,0xFE,0xC6,0xC6,0xC6,0x00], [0x7E,0x18,0x18,0x18,0x18,0x18,0x7E,0x00],
    [0x06,0x06,0x06,0x06,0x06,0xC6,0x7C,0x00], [0xC6,0xCC,0xD8,0xF0,0xD8,0xCC,0xC6,0x00],
    [0xC0,0xC0,0xC0,0xC0,0xC0,0xC0,0xFE,0x00], [0xC6,0xEE,0xFE,0xD6,0xC6,0xC6,0xC6,0x00],
    [0xC6,0xE6,0xF6,0xDE,0xCE,0xC6,0xC6,0x00], [0x7C,0xC6,0xC6,0xC6,0xC6,0xC6,0x7C,0x00],
    [0xFC,0xC6,0xC6,0xFC,0xC0,0xC0,0xC0,0x00], [0x7C,0xC6,0xC6,0xC6,0xD6,0xCC,0x76,0x00],
    [0xFC,0xC6,0xC6,0xFC,0xD8,0xCC,0xC6,0x00], [0x7C,0xC6,0xC0,0x7C,0x06,0xC6,0x7C,0x00],
    [0xFF,0x18,0x18,0x18,0x18,0x18,0x18,0x00], [0xC6,0xC6,0xC6,0xC6,0xC6,0xC6,0x7C,0x00],
    [0xC6,0xC6,0xC6,0xC6,0xC6,0x6C,0x38,0x00], [0xC6,0xC6,0xC6,0xD6,0xFE,0xEE,0xC6,0x00],
    [0xC6,0x6C,0x38,0x38,0x38,0x6C,0xC6,0x00], [0xC6,0xC6,0x6C,0x38,0x38,0x18,0x18,0x00],
    [0xFE,0x06,0x0C,0x18,0x30,0x60,0xFE,0x00], [0x3C,0x30,0x30,0x30,0x30,0x30,0x3C,0x00],
    [0xC0,0x60,0x30,0x18,0x0C,0x06,0x02,0x00], [0x3C,0x0C,0x0C,0x0C,0x0C,0x0C,0x3C,0x00],
    [0x10,0x38,0x6C,0xC6,0x00,0x00,0x00,0x00], [0x00,0x00,0x00,0x00,0x00,0x00,0x00,0xFF],
    [0x30,0x18,0x0C,0x00,0x00,0x00,0x00,0x00], [0x00,0x00,0x7C,0x06,0x7E,0xC6,0x7E,0x00],
    [0xC0,0xC0,0xFC,0xC6,0xC6,0xC6,0xFC,0x00], [0x00,0x00,0x7C,0xC6,0xC0,0xC6,0x7C,0x00],
    [0x06,0x06,0x7E,0xC6,0xC6,0xC6,0x7E,0x00], [0x00,0x00,0x7C,0xC6,0xFE,0xC0,0x7C,0x00],
    [0x1E,0x30,0x7C,0x30,0x30,0x30,0x30,0x00], [0x00,0x00,0x7E,0xC6,0xC6,0x7E,0x06,0x7C],
    [0xC0,0xC0,0xFC,0xC6,0xC6,0xC6,0xC6,0x00], [0x18,0x00,0x38,0x18,0x18,0x18,0x3C,0x00],
    [0x06,0x00,0x06,0x06,0x06,0x06,0x06,0x3C], [0xC0,0xC0,0xCC,0xD8,0xF0,0xD8,0xCC,0x00],
    [0x38,0x18,0x18,0x18,0x18,0x18,0x3C,0x00], [0x00,0x00,0xCC,0xFE,0xD6,0xC6,0xC6,0x00],
    [0x00,0x00,0xFC,0xC6,0xC6,0xC6,0xC6,0x00], [0x00,0x00,0x7C,0xC6,0xC6,0xC6,0x7C,0x00],
    [0x00,0x00,0xFC,0xC6,0xC6,0xFC,0xC0,0xC0], [0x00,0x00,0x7E,0xC6,0xC6,0x7E,0x06,0x06],
    [0x00,0x00,0xFC,0xC6,0xC0,0xC0,0xC0,0x00], [0x00,0x00,0x7E,0xC0,0x7C,0x06,0xFC,0x00],
    [0x30,0x30,0x7C,0x30,0x30,0x30,0x1C,0x00], [0x00,0x00,0xC6,0xC6,0xC6,0xC6,0x7E,0x00],
    [0x00,0x00,0xC6,0xC6,0xC6,0x6C,0x38,0x00], [0x00,0x00,0xC6,0xC6,0xD6,0xFE,0x6C,0x00],
    [0x00,0x00,0xC6,0x6C,0x38,0x6C,0xC6,0x00], [0x00,0x00,0xC6,0xC6,0xC6,0x7E,0x06,0x7C],
    [0x00,0x00,0xFE,0x0C,0x18,0x30,0xFE,0x00], [0x0E,0x18,0x18,0x70,0x18,0x18,0x0E,0x00],
    [0x18,0x18,0x18,0x18,0x18,0x18,0x18,0x00], [0x70,0x18,0x18,0x0E,0x18,0x18,0x70,0x00],
    [0x76,0xDC,0x00,0x00,0x00,0x00,0x00,0x00], [0x00,0x10,0x38,0x6C,0xC6,0xC6,0xFE,0x00]]

/-- The row of the table for a `char`, which is signed. -/
def charIndex (c : UInt8) : Nat :=
  (if c.toInt8 < 32 ∨ c.toInt8 > 127 then 127 else c.toNat) - 32

/-- No character is outside the table. -/
theorem charIndex_lt (c : UInt8) : charIndex c < font8x8.length := by
  have hall : ∀ n < 256, charIndex (UInt8.ofNat n) < font8x8.length := by decide +kernel
  have hc := hall c.toNat c.toNat_lt
  rwa [UInt8.ofNat_toNat] at hc

/-- `font8x8[charIndex][row] & (0x80 >> col)`. -/
def lit (c : UInt8) (row col : Nat) : Bool :=
  ((font8x8.getD (charIndex c) []).getD row 0).toNat &&& (0x80 >>> col) ≠ 0

/-- How many pixels a dot of the font is wide and high. -/
def textScale (fontSize : UInt32) : Int32 :=
  let scale := if fontSize > 8 then (fontSize / 8).toInt32 else 1
  if scale < 1 then 1 else scale

/-- One pixel, if it is on the display. -/
def drawPixel (e : Extent) (dme : DisplayModeEntry) (color : UInt32) (px py : Int32) (r : Ram) :
    Ram :=
  if 0 ≤ px ∧ px < Int32.ofNat dme.width ∧ 0 ≤ py ∧ py < Int32.ofNat dme.height then
    r.store e (e.base + (py.toNatClampNeg * dme.width + px.toNatClampNeg) % u32 * 4)
      (wordBytes color.toNat)
  else r

/-- One character at `currentX`. -/
def drawChar (e : Extent) (dme : DisplayModeEntry) (color : UInt32) (y scale currentX : Int32)
    (c : UInt8) : Ram → Ram :=
  loop 8 fun row =>
    loop 8 fun col r =>
      if lit c row col then
        loop scale.toNatClampNeg (fun sy =>
          loop scale.toNatClampNeg fun sx =>
            drawPixel e dme color (currentX + Int32.ofNat col * scale + Int32.ofNat sx)
              (y + Int32.ofNat row * scale + Int32.ofNat sy)) r
      else r

/-- The characters from `currentX` on, up to the end of the string or of the display. -/
def drawChars (e : Extent) (dme : DisplayModeEntry) (color : UInt32) (y scale : Int32) :
    List UInt8 → Int32 → Ram → Ram
  | [], _, r => r
  | c :: text, currentX, r =>
      if currentX < Int32.ofNat dme.width then
        drawChars e dme color y scale text (currentX + 8 * scale)
          (drawChar e dme color y scale currentX c r)
      else r

namespace VgaFramebuffer

/-- `text` is the bytes before the zero; `none` stands for a null pointer. What is not
drawn is left to "software rendering", and the call succeeds. -/
def acceleratedCanvasDrawText (env : CanvasEnv) (fb : VgaFramebuffer) (text : Option (List UInt8))
    (x y : Int32) (fontSize color : UInt32) (r : Ram) : IOReturn × Ram :=
  match text with
  | none => (.badArgument, r)
  | some text =>
      if env.accelerated = false then (.badArgument, r)
      else
        match env.vram, env.lock, fb.getDisplayMode fb.displayMode, env.map with
        | some len, true, some dme, some base =>
            if 0 ≤ x ∧ 0 ≤ y ∧ base ≠ 0 then
              (.success, drawChars ⟨base, len⟩ dme color y (textScale fontSize) text x r)
            else (.success, r)
        | _, _, _, _ => (.success, r)

end VgaFramebuffer

/-! ## Words that are written -/

/-- The word at `a` is that of a color. -/
def HasColor (a : Nat) (color : UInt32) (t : Ram) : Prop :=
  ∀ i < 4, t.bytes (a + i) = (wordBytes color.toNat).getD i 0

variable {e : Extent} {r t : Ram} {color : UInt32} {start W width height a b c row base len : Nat}
  {dme : DisplayModeEntry} {x y w h : Int32}

theorem hasColor_store : HasColor a color (t.store e a (wordBytes color.toNat)) :=
  (Ram.store_writes e a (wordBytes color.toNat) t).inside

/-- Words at whole distances overlap only if they are the same. -/
theorem HasColor.store (hcolor : HasColor a color t) (h : a % 4 = b % 4) :
    HasColor a color (t.store e b (wordBytes color.toNat)) := by
  by_cases hab : a = b
  · subst hab
    exact hasColor_store
  · intro i hi
    rw [(Ram.store_writes e b (wordBytes color.toNat) t).outside]
    · exact hcolor i hi
    · rw [length_wordBytes]
      rintro ⟨hfirst, hlast⟩
      dsimp only at hfirst hlast
      omega

/-- A word of the loops has the color at the end. -/
theorem paint_hasColor {col : Nat} (hrow : row < height) (hcol : col < width) :
    HasColor (start + (row * W + col) % u32 * 4) color (paint e start W width height color r) := by
  have hkeep : ∀ k t, HasColor (start + (row * W + col) % u32 * 4) color t →
      HasColor (start + (row * W + col) % u32 * 4) color
        (t.store e (start + k * 4) (wordBytes color.toNat)) := by
    intro k t ht
    exact ht.store (by omega)
  refine loop_of_turn _ hrow ?_ ?_
  · exact loop_of_turn _ hcol hasColor_store fun col' _ _ t ht => hkeep _ t ht
  · intro row' _ _ t ht
    exact loop_invariant (fun _ t => HasColor _ color t) ht fun col' _ t ht => hkeep _ t ht

/-- A byte that no word of the loops covers stays. -/
theorem paint_bytes (h : ∀ row < height, ∀ col < width,
    ¬ Extent.Has ⟨start + (row * W + col) % u32 * 4, 4⟩ b) :
    (paint e start W width height color r).bytes b = r.bytes b := by
  apply loop_bytes
  intro row hrow t
  apply loop_bytes
  intro col hcol t
  exact (Ram.store_writes e _ (wordBytes color.toNat) t).outside b (h row hrow col hcol)

theorem paint_wild (h : ∀ row < height, ∀ col < width,
    e.Spans (start + (row * W + col) % u32 * 4) 4) :
    (paint e start W width height color r).wild = r.wild := by
  apply loop_wild
  intro row hrow t
  apply loop_wild
  intro col hcol t
  exact Ram.store_wild (h row hrow col hcol)

/-! ## What the calls should do -/

/-- The pixels of the display that a rectangle has. -/
def InRect (dme : DisplayModeEntry) (x y width height : Int) (c row : Nat) : Prop :=
  c < dme.width ∧ row < dme.height ∧ x ≤ c ∧ c < x + width ∧ y ≤ row ∧ row < y + height

/-- Exactly the pixels of the rectangle are written, with the color. -/
structure PaintsRect (base : Nat) (dme : DisplayModeEntry) (x y width height : Int)
    (color : UInt32) (r t : Ram) : Prop where
  inside : ∀ c row, InRect dme x y width height c row →
    HasColor (pixelAt base dme.width c row) color t
  outside : ∀ b, (∀ c row, InRect dme x y width height c row →
    ¬ Extent.Has ⟨pixelAt base dme.width c row, 4⟩ b) → t.bytes b = r.bytes b
  wild : t.wild = r.wild

/-- Nothing but pixels of the display is written. -/
structure PaintsDisplay (e : Option Extent) (r t : Ram) : Prop where
  outside : ∀ b, (∀ f, e = some f → ¬ f.Has b) → t.bytes b = r.bytes b
  wild : t.wild = r.wild

/-! ## Rectangles -/

open VgaFramebuffer

theorem index_lt (c row : Nat) (hsized : Sized dme) (hc : c < dme.width) (hrow : row < dme.height) :
    row * dme.width + c < dme.height * dme.width ∧ dme.height * dme.width < 2 ^ 30 := by
  have hnext : (row + 1) * dme.width ≤ dme.height * dme.width := Nat.mul_le_mul_right _ hrow
  have hsize : dme.height * dme.width ≤ 1770 * 2560 :=
    Nat.mul_le_mul hsized.height_le hsized.width_le
  rw [Nat.succ_mul] at hnext
  omega

/-- In a rectangle on the display no product and no sum wraps. -/
theorem word_eq_pixelAt {X Y col : Nat} (hsized : Sized dme) (hc : X + col < dme.width)
    (hrow : Y + row < dme.height) :
    base + (Y * dme.width + X) % u32 * 4 % u32 + (row * dme.width + col) % u32 * 4 =
      pixelAt base dme.width (X + col) (Y + row) := by
  obtain ⟨hindex, hbound⟩ := index_lt _ _ hsized hc hrow
  rw [Nat.add_mul] at hindex
  rw [pixelAt, Nat.add_mul Y row, Nat.mod_eq_of_lt (a := Y * dme.width + X) (by rw [u32_eq]; omega),
    Nat.mod_eq_of_lt (a := row * dme.width + col) (by rw [u32_eq]; omega),
    Nat.mod_eq_of_lt (by rw [u32_eq]; omega)]
  omega

/-- A rectangle on the display is painted. -/
theorem paint_paintsRect (hsized : Sized dme) (hlen : dme.width * dme.height * 4 ≤ len)
    (hx : 0 ≤ x.toInt) (hy : 0 ≤ y.toInt)
    (hin : 0 < w.toInt → 0 < h.toInt →
      x.toInt + w.toInt ≤ dme.width ∧ y.toInt + h.toInt ≤ dme.height) :
    PaintsRect base dme x.toInt y.toInt w.toInt h.toInt color r
      (paint ⟨base, len⟩
        (base + (y.toNatClampNeg * dme.width + x.toNatClampNeg) % u32 * 4 % u32) dme.width
        w.toNatClampNeg h.toNatClampNeg color r) := by
  simp only [Int32.toNatClampNeg]
  constructor
  · rintro c row ⟨hc, hrow, hxc, hcx, hyr, hry⟩
    obtain ⟨col, rfl⟩ : ∃ col, c = x.toInt.toNat + col := ⟨c - x.toInt.toNat, by omega⟩
    obtain ⟨line, rfl⟩ : ∃ line, row = y.toInt.toNat + line := ⟨row - y.toInt.toNat, by omega⟩
    rw [← word_eq_pixelAt hsized hc hrow]
    exact paint_hasColor (by omega) (by omega)
  · intro b hb
    apply paint_bytes
    intro row hrow col hcol
    have hedges := hin (by omega) (by omega)
    rw [word_eq_pixelAt hsized (by omega) (by omega)]
    exact hb _ _ ⟨by omega, by omega, by omega, by omega, by omega, by omega⟩
  · apply paint_wild
    intro row hrow col hcol
    have hedges := hin (by omega) (by omega)
    rw [word_eq_pixelAt hsized (by omega) (by omega)]
    obtain ⟨hindex, -⟩ := index_lt (x.toInt.toNat + col) (y.toInt.toNat + row) hsized
      (by omega) (by omega)
    rw [Nat.mul_comm dme.width] at hlen
    refine ⟨Nat.le_add_right _ _, ?_⟩
    show pixelAt _ _ _ _ + 4 ≤ base + len
    rw [pixelAt]
    omega

/-- A word that is none of the rectangle's is enough for it not to be painted. -/
theorem not_paintsRect_of_stray {X Y col : Nat} {x y w h : Int} (hrow : row < height)
    (hcol : col < width)
    (hstray : ∀ c' row', InRect dme x y w h c' row' →
      (Y * dme.width + X) % 2 ^ 30 + (row * dme.width + col) % u32 ≠ row' * dme.width + c') :
    ∃ r, ¬ PaintsRect base dme x y w h color r
      (paint ⟨base, len⟩ (base + (Y * dme.width + X) % u32 * 4 % u32) dme.width width height color
        r) := by
  -- a memory without the color
  let r : Ram := ⟨fun _ => (wordBytes color.toNat).getD 0 0 + 1, false⟩
  refine ⟨r, fun hpaints => ?_⟩
  have hword : HasColor (base + (Y * dme.width + X) % u32 * 4 % u32 +
      (row * dme.width + col) % u32 * 4) color (paint ⟨base, len⟩
        (base + (Y * dme.width + X) % u32 * 4 % u32) dme.width width height color r) :=
    paint_hasColor hrow hcol
  have hbyte := hword 0 (by decide)
  rw [hpaints.outside _ fun c' row' hin hhas => hstray c' row' hin ?_] at hbyte
  · exact add_one_ne _ hbyte
  · obtain ⟨hfirst, hlast⟩ := hhas
    simp only [pixelAt, u32_eq] at hfirst hlast ⊢
    omega

/-- A rectangle whose right or lower edge wraps has a word off itself. -/
theorem stray_of_overflow (hsized : Sized dme) {x y w h : Int} (hx : 0 ≤ x) (hy : 0 ≤ y)
    (hw : 0 < w) (hh : 0 < h) (hwlt : w < 2 ^ 31) (hhlt : h < 2 ^ 31)
    (hover : 2 ^ 31 ≤ x + w ∨ 2 ^ 31 ≤ y + h) :
    ∃ row < h.toNat, ∃ col < w.toNat, ∀ c' row', InRect dme x y w h c' row' →
      (y.toNat * dme.width + x.toNat) % 2 ^ 30 + (row * dme.width + col) % u32 ≠
        row' * dme.width + c' := by
  have hwidth := hsized.width_le
  have hheight := hsized.height_le
  by_cases hoff : (dme.width : Int) ≤ x ∨ (dme.height : Int) ≤ y
  · -- the display has no pixel of the rectangle at all
    refine ⟨0, by omega, 0, by omega, ?_⟩
    rintro c' row' ⟨hc, hrow, hxc, -, hyr, -⟩
    omega
  obtain ⟨hindex, hbound⟩ := index_lt x.toNat y.toNat hsized (by omega) (by omega)
  rw [Nat.mod_eq_of_lt (a := y.toNat * dme.width + x.toNat) (by omega)]
  by_cases hright : 2 ^ 31 ≤ x + w
  · -- the row goes on in the first pixel of the next one
    refine ⟨0, by omega, dme.width - x.toNat, by omega, ?_⟩
    rintro c' row' ⟨hc, -, hxc, -, -, -⟩
    rw [Nat.zero_mul, Nat.zero_add, Nat.mod_eq_of_lt (by rw [u32_eq]; omega)]
    intro heq
    rcases Nat.lt_or_ge y.toNat row' with hlater | hbefore
    · have hnext : (y.toNat + 1) * dme.width ≤ row' * dme.width := Nat.mul_le_mul_right _ hlater
      rw [Nat.succ_mul] at hnext
      omega
    · have hnext : row' * dme.width ≤ y.toNat * dme.width := Nat.mul_le_mul_right _ hbefore
      omega
  · -- the rows go on below the display
    refine ⟨dme.height - y.toNat, by omega, 0, by omega, ?_⟩
    rintro c' row' ⟨hc, hrow, -, -, -, -⟩
    have hsum : y.toNat * dme.width + (dme.height - y.toNat) * dme.width =
        dme.height * dme.width := by
      rw [← Nat.add_mul, Nat.add_sub_of_le (by omega)]
    have hlast : (row' + 1) * dme.width ≤ dme.height * dme.width := Nat.mul_le_mul_right _ hrow
    rw [Nat.succ_mul] at hlast
    rw [Nat.add_zero, Nat.mod_eq_of_lt (by rw [u32_eq]; omega)]
    omega

/-! ## Texts -/

/-- A pixel that is drawn is one of the display. -/
theorem paintsDisplay_drawPixel {px py : Int32} (hsized : Sized dme)
    (hlen : dme.width * dme.height * 4 ≤ len) :
    PaintsDisplay (some ⟨base, dme.width * dme.height * 4⟩) r
      (drawPixel ⟨base, len⟩ dme color px py r) := by
  rw [drawPixel]
  split_ifs with hin
  · have hwidth := hsized.width_le
    have hheight := hsized.height_le
    simp only [Int32.le_iff_toInt_le, Int32.lt_iff_toInt_lt, Int32.toInt_zero,
      Int32.toInt_ofNat_of_lt (n := dme.width) (by omega),
      Int32.toInt_ofNat_of_lt (n := dme.height) (by omega)] at hin
    obtain ⟨hx, hxlt, hy, hylt⟩ := hin
    obtain ⟨hindex, hbound⟩ := index_lt px.toNatClampNeg py.toNatClampNeg hsized
      (by rw [Int32.toNatClampNeg]; omega) (by rw [Int32.toNatClampNeg]; omega)
    rw [Nat.mod_eq_of_lt (by rw [u32_eq]; omega)]
    rw [Nat.mul_comm dme.width] at hlen ⊢
    constructor
    · intro b hb
      apply (Ram.store_writes _ _ (wordBytes color.toNat) r).outside
      rw [length_wordBytes]
      rintro ⟨hfirst, hlast⟩
      refine hb _ rfl ⟨?_, ?_⟩
      · exact Nat.le_trans (Nat.le_add_right _ _) hfirst
      · dsimp only at hlast ⊢
        omega
    · apply Ram.store_wild
      rw [length_wordBytes]
      exact ⟨Nat.le_add_right _ _, by dsimp only; omega⟩
  · exact ⟨fun _ _ => rfl, rfl⟩

theorem PaintsDisplay.trans {f : Option Extent} {u : Ram} (h : PaintsDisplay f r t)
    (h' : PaintsDisplay f t u) : PaintsDisplay f r u :=
  ⟨fun b hb => (h'.outside b hb).trans (h.outside b hb), h'.wild.trans h.wild⟩

theorem paintsDisplay_loop {f : Option Extent} {body : Nat → Ram → Ram} {n : Nat}
    (h : ∀ i t, PaintsDisplay f t (body i t)) : PaintsDisplay f r (loop n body r) :=
  loop_invariant (fun _ t => PaintsDisplay f r t) ⟨fun _ _ => rfl, rfl⟩
    fun i _ t ht => ht.trans (h i t)

theorem paintsDisplay_drawChar {scale currentX : Int32} {char : UInt8} (hsized : Sized dme)
    (hlen : dme.width * dme.height * 4 ≤ len) :
    PaintsDisplay (some ⟨base, dme.width * dme.height * 4⟩) r
      (drawChar ⟨base, len⟩ dme color y scale currentX char r) := by
  apply paintsDisplay_loop
  intro row t
  apply paintsDisplay_loop
  intro col t
  split_ifs
  · apply paintsDisplay_loop
    intro sy t
    apply paintsDisplay_loop
    intro sx t
    exact paintsDisplay_drawPixel hsized hlen
  · exact ⟨fun _ _ => rfl, rfl⟩

/-- **Any text** stays on the display, wherever the pen goes. -/
theorem paintsDisplay_drawChars {scale currentX : Int32} {text : List UInt8} (hsized : Sized dme)
    (hlen : dme.width * dme.height * 4 ≤ len) :
    PaintsDisplay (some ⟨base, dme.width * dme.height * 4⟩) r
      (drawChars ⟨base, len⟩ dme color y scale text currentX r) := by
  induction text generalizing currentX r with
  | nil => exact ⟨fun _ _ => rfl, rfl⟩
  | cons char text ih =>
      rw [drawChars]
      split_ifs
      · exact (paintsDisplay_drawChar hsized hlen).trans ih
      · exact ⟨fun _ _ => rfl, rfl⟩

/-! ## Calls -/

inductive CanvasCall where
  | fillRect (x y width height : Int32) (color : UInt32)
  | drawText (text : Option (List UInt8)) (x y : Int32) (fontSize color : UInt32)

namespace CanvasCall

/-- With VRAM for the current mode, a rectangle that was filled is painted exactly, and a
text stays on the display. -/
def Correct (env : CanvasEnv) (fb : VgaFramebuffer) (call : CanvasCall) : Prop :=
  ∀ dme len r, fb.getDisplayMode fb.displayMode = some dme → env.vram = some len →
    dme.width * dme.height * 4 ≤ len →
      match call with
      | .fillRect x y width height color =>
          (fb.acceleratedCanvasFillRect env x y width height color r).1 = .success →
            ∃ base, env.map = some base ∧
              PaintsRect base dme x.toInt y.toInt width.toInt height.toInt color r
                (fb.acceleratedCanvasFillRect env x y width height color r).2
      | .drawText text x y fontSize color =>
          PaintsDisplay (env.map.map fun base => ⟨base, dme.width * dme.height * 4⟩) r
            (fb.acceleratedCanvasDrawText env text x y fontSize color r).2

/-- A rectangle is refused, or it is empty, or none of its edges wraps. -/
def Safe (env : CanvasEnv) (fb : VgaFramebuffer) : CanvasCall → Prop
  | .fillRect x y width height _ =>
      ∀ dme len, fb.getDisplayMode fb.displayMode = some dme → env.vram = some len →
        dme.width * dme.height * 4 ≤ len → env.accelerated = true → env.lock = true →
          env.map.isSome = true → rectInside dme x y width height = true →
            width.toInt ≤ 0 ∨ height.toInt ≤ 0 ∨
              (x.toInt + width.toInt < 2 ^ 31 ∧ y.toInt + height.toInt < 2 ^ 31)
  | .drawText .. => True

theorem rectInside_iff (hsized : Sized dme) : rectInside dme x y w h = true ↔
    0 ≤ x.toInt ∧ 0 ≤ y.toInt ∧ (x.toInt + w.toInt).bmod (2 ^ 32) ≤ dme.width ∧
      (y.toInt + h.toInt).bmod (2 ^ 32) ≤ dme.height := by
  have hwidth := hsized.width_le
  have hheight := hsized.height_le
  simp only [rectInside, Bool.and_eq_true, decide_eq_true_eq, Int32.le_iff_toInt_le,
    Int32.toInt_zero, Int32.toInt_add, and_assoc,
    Int32.toInt_ofNat_of_lt (n := dme.width) (by omega),
    Int32.toInt_ofNat_of_lt (n := dme.height) (by omega)]

/-- What a rectangle that is filled has passed. -/
structure Passes (env : CanvasEnv) (dme : DisplayModeEntry) (x y width height : Int32)
    (base : Nat) : Prop where
  accelerated : env.accelerated = true
  lock : env.lock = true
  inside : rectInside dme x y width height = true
  map : env.map = some base

variable {env : CanvasEnv} {fb : VgaFramebuffer}

theorem fillRect_of_passes (color : UInt32) (r : Ram)
    (hdme : fb.getDisplayMode fb.displayMode = some dme)
    (hvram : env.vram = some len) (hpasses : Passes env dme x y w h base) :
    fb.acceleratedCanvasFillRect env x y w h color r = (.success, paint ⟨base, len⟩
      (base + (y.toNatClampNeg * dme.width + x.toNatClampNeg) % u32 * 4 % u32) dme.width
      w.toNatClampNeg h.toNatClampNeg color r) := by
  simp [acceleratedCanvasFillRect, hpasses.accelerated, hvram, hpasses.lock, hdme, hpasses.inside,
    hpasses.map]

theorem passes_of_success (hdme : fb.getDisplayMode fb.displayMode = some dme)
    (hsuccess : (fb.acceleratedCanvasFillRect env x y w h color r).1 = .success) :
    ∃ base, Passes env dme x y w h base := by
  rw [acceleratedCanvasFillRect] at hsuccess
  split at hsuccess
  · cases hsuccess
  next haccelerated =>
    split at hsuccess
    next hlock =>
      rw [hdme] at hsuccess
      dsimp only at hsuccess
      split at hsuccess
      · cases hsuccess
      next hinside =>
        split at hsuccess
        · cases hsuccess
        next base hmap =>
          exact ⟨base, by simpa using haccelerated, hlock, by simpa using hinside, hmap⟩
    · cases hsuccess

/-- A rectangle that passes with an edge that wraps is not painted. -/
theorem not_correct_of_overflow (hcustom : Sized fb.customMode)
    (hdme : fb.getDisplayMode fb.displayMode = some dme) (hvram : env.vram = some len)
    (hlen : dme.width * dme.height * 4 ≤ len) (hpasses : Passes env dme x y w h base)
    (hw : 0 < w.toInt) (hh : 0 < h.toInt)
    (hover : 2 ^ 31 ≤ x.toInt + w.toInt ∨ 2 ^ 31 ≤ y.toInt + h.toInt) :
    ¬ Correct env fb (.fillRect x y w h color) := by
  intro hcorrect
  have hsized := sized_of_getDisplayMode hcustom hdme
  obtain ⟨hx, hy, -, -⟩ := (rectInside_iff hsized).mp hpasses.inside
  obtain ⟨row, hrow, col, hcol, hstray⟩ :=
    stray_of_overflow hsized hx hy hw hh w.toInt_lt h.toInt_lt hover
  obtain ⟨r, hnot⟩ : ∃ r, ¬ PaintsRect base dme x.toInt y.toInt w.toInt h.toInt color r
      (paint ⟨base, len⟩ _ dme.width w.toInt.toNat h.toInt.toNat color r) :=
    not_paintsRect_of_stray hrow hcol hstray
  have heq := fillRect_of_passes color r hdme hvram hpasses
  obtain ⟨base', hbase, hpaints⟩ := hcorrect dme len r hdme hvram hlen (by rw [heq])
  obtain rfl : base = base' := Option.some.inj (hpasses.map.symm.trans hbase)
  rw [heq] at hpaints
  exact hnot hpaints

theorem fillRect_correct_iff (hcustom : Sized fb.customMode) :
    Correct env fb (.fillRect x y w h color) ↔ Safe env fb (.fillRect x y w h color) := by
  constructor
  · intro hcorrect dme len hdme hvram hlen haccelerated hlock hmap hinside
    obtain ⟨base, hbase⟩ := Option.isSome_iff_exists.mp hmap
    by_contra hwraps
    exact not_correct_of_overflow hcustom hdme hvram hlen ⟨haccelerated, hlock, hinside, hbase⟩
      (by omega) (by omega) (by omega) hcorrect
  · intro hsafe dme len r hdme hvram hlen hsuccess
    obtain ⟨base, hpasses⟩ := passes_of_success hdme hsuccess
    have hsized := sized_of_getDisplayMode hcustom hdme
    obtain ⟨hx, hy, hright, hlower⟩ := (rectInside_iff hsized).mp hpasses.inside
    have hmap : env.map.isSome = true := by simp [hpasses.map]
    have hedges := hsafe dme len hdme hvram hlen hpasses.accelerated hpasses.lock hmap
      hpasses.inside
    refine ⟨base, hpasses.map, ?_⟩
    rw [fillRect_of_passes color r hdme hvram hpasses]
    refine paint_paintsRect hsized hlen hx hy fun hw hh => ?_
    rw [Int.bmod_eq_of_le (by omega) (by omega)] at hright hlower
    exact ⟨hright, hlower⟩

theorem drawText_correct {text : Option (List UInt8)} {fontSize : UInt32}
    (hcustom : Sized fb.customMode) : Correct env fb (.drawText text x y fontSize color) := by
  intro dme len r hdme hvram hlen
  have hsized := sized_of_getDisplayMode hcustom hdme
  have hsame : PaintsDisplay (env.map.map fun base => ⟨base, dme.width * dme.height * 4⟩) r r :=
    ⟨fun _ _ => rfl, rfl⟩
  show PaintsDisplay _ r (fb.acceleratedCanvasDrawText env text x y fontSize color r).2
  cases text with
  | none => exact hsame
  | some text =>
      rw [acceleratedCanvasDrawText]
      split_ifs
      · exact hsame
      rw [hvram, hdme]
      cases hmap : env.map with
      | none =>
          rw [hmap] at hsame
          cases env.lock <;> exact hsame
      | some base =>
          rw [hmap] at hsame
          cases env.lock with
          | false => exact hsame
          | true =>
              dsimp only
              split_ifs
              · exact paintsDisplay_drawChars hsized hlen
              · exact hsame

/-- **One call.** -/
theorem draws_iff_safe (hcustom : Sized fb.customMode) (call : CanvasCall) :
    Correct env fb call ↔ Safe env fb call := by
  cases call with
  | fillRect x y w h color => exact fillRect_correct_iff hcustom
  | drawText text x y fontSize color => exact iff_of_true (drawText_correct hcustom) trivial

end CanvasCall

namespace CustomRun

/-- **Canvas calls over whole runs**: whatever the current mode has become, a call is
correct exactly if it is safe. -/
theorem always_canvas (width height bpp vramBytes : Nat) (restoreCall : Bool)
    (events : List CustomEvent) :
    (machine (.started width height bpp) vramBytes restoreCall).Always
      (fun s => ∀ env call, CanvasCall.Correct env s.fb call ↔ CanvasCall.Safe env s.fb call)
      (machine (.started width height bpp) vramBytes restoreCall).init events :=
  (always_sizesOk width height bpp vramBytes restoreCall events).imp _
    fun _ hs _ call => CanvasCall.draws_iff_safe hs.custom call

/-- The right edge wraps to a negative number, which is inside any display. -/
theorem wide_rect_not_correct :
    ¬ (machine (.started 1024 768 32) 0x1000000 true).Always
      (fun s => ∀ env call, CanvasCall.Correct env s.fb call)
      (machine (.started 1024 768 32) 0x1000000 true).init [] := by
  intro h
  have hcorrect := h.head _ ⟨true, true, some 0x1000000, some 0x10000⟩
    (.fillRect 1 0 0x7FFFFFFF 1 0xFF0000)
  refine CanvasCall.not_correct_of_overflow ?_ rfl rfl (by decide)
    ⟨rfl, rfl, by decide, rfl⟩ (by decide) (by decide) (.inl (by decide)) hcorrect
  exact ⟨by decide, by decide, by decide, by decide⟩

end CustomRun

end VMQemuVGA
