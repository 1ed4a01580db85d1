import VMQemuVGA.IOSurface.Regions

/-! # The blit of the window server

`blitSurfaceAccelerated` copies a rectangle of one surface to a place in another, or in
the same. The device does not do it, so the rows are copied by the processor, from the
top down. -/

namespace VMQemuVGA

/-- A rectangle. The four are `SInt16`; inside a surface none of them is negative. -/
structure IOAccelBounds where
  x : Nat
  y : Nat
  w : Nat
  h : Nat
  deriving DecidableEq, Repr

/-- What the blit is told of a surface. -/
structure IOAccelSurfaceInformation where
  /-- `address[0]` -/
  address : Nat
  rowBytes : Nat
  width : Nat
  height : Nat
  deriving DecidableEq, Repr

namespace IOAccelSurfaceInformation

/-- The memory of the surface. -/
def memory (s : IOAccelSurfaceInformation) : Extent := ⟨s.address, s.height * s.rowBytes⟩

/-- Where a pixel of 32 bits is. -/
def pixel (s : IOAccelSurfaceInformation) (x y : Nat) : Nat :=
  s.address + y * s.rowBytes + x * 4

end IOAccelSurfaceInformation

/-! ## The blit -/

/-- `VMVirtIOGPU::blitRect`. -/
def blitRect (isMockDevice : Bool) : IOReturn :=
  if isMockDevice = true then .unsupported
  else
    -- still to be implemented there
    .unsupported

/-- `blitSurfaceAccelerated`, with or without a device, which may be a mock. -/
def blitSurfaceAccelerated (cpy : Memcpy) (gpuDevice : Option Bool)
    (src dest : Option IOAccelSurfaceInformation) (srcRect destRect : Option IOAccelBounds)
    (r : Ram) : IOReturn × Ram :=
  match src, dest, srcRect, destRect with
  | some src, some dest, some srcRect, some destRect =>
      if gpuDevice = some false ∧ blitRect false = .success then (.success, r)
      else
        let srcPtr := src.address + srcRect.y * src.rowBytes % u32 + srcRect.x * 4
        let destPtr := dest.address + destRect.y * dest.rowBytes % u32 + destRect.x * 4
        let bytesPerLine := srcRect.w * 4 % u32
        (.success, loop srcRect.h (fun y => Ram.copy cpy dest.memory src.memory
          (destPtr + y * dest.rowBytes) (srcPtr + y * src.rowBytes) bytesPerLine) r)
  | _, _, _, _ => (.badArgument, r)

/-! ## What it is for -/

/-- A blit between rectangles that lie inside their surfaces. What the second rectangle
says of its own size is not read. -/
structure Blit where
  src : IOAccelSurfaceInformation
  dest : IOAccelSurfaceInformation
  srcRect : IOAccelBounds
  destRect : IOAccelBounds
  words : src.rowBytes < u32 ∧ dest.rowBytes < u32
  rows : src.width * 4 ≤ src.rowBytes ∧ dest.width * 4 ≤ dest.rowBytes
  insideSrc : srcRect.x + srcRect.w ≤ src.width ∧ srcRect.y + srcRect.h ≤ src.height
  insideDest : destRect.x + srcRect.w ≤ dest.width ∧ destRect.y + srcRect.h ≤ dest.height
  apart : src = dest ∨ dest.memory.Apart src.memory

namespace Blit

def run (b : Blit) (cpy : Memcpy) (gpuDevice : Option Bool) (r : Ram) : IOReturn × Ram :=
  blitSurfaceAccelerated cpy gpuDevice (some b.src) (some b.dest) (some b.srcRect)
    (some b.destRect) r

/-- The pixels of the source rectangle, as they were, are in the destination rectangle, and
nothing else has changed. -/
structure Moves (b : Blit) (r t : Ram) : Prop where
  pixels : ∀ i < b.srcRect.w, ∀ j < b.srcRect.h, ∀ k < 4,
    t.bytes (b.dest.pixel (b.destRect.x + i) (b.destRect.y + j) + k) =
      r.bytes (b.src.pixel (b.srcRect.x + i) (b.srcRect.y + j) + k)
  outside : ∀ a, (∀ i < b.srcRect.w, ∀ j < b.srcRect.h,
    ¬ Extent.Has ⟨b.dest.pixel (b.destRect.x + i) (b.destRect.y + j), 4⟩ a) →
      t.bytes a = r.bytes a

/-- A blit that succeeds moves the pixels, whatever `memcpy` makes of ranges that overlap. -/
def Correct (b : Blit) (gpuDevice : Option Bool) : Prop :=
  ∀ cpy bytes, (b.run cpy gpuDevice ⟨bytes, false⟩).1 = .success →
    b.Moves ⟨bytes, false⟩ (b.run cpy gpuDevice ⟨bytes, false⟩).2

/-- There is nothing to copy, or the offsets of both rectangles are words of 32 bits, and
within one surface each row is read in a turn before the one that writes it. -/
def Safe (b : Blit) : Prop :=
  b.srcRect.w = 0 ∨ b.srcRect.h = 0 ∨
    b.srcRect.y * b.src.rowBytes < u32 ∧ b.destRect.y * b.dest.rowBytes < u32 ∧
      (b.src = b.dest → SurfacePixels.InOrder b.srcRect.x b.srcRect.y b.destRect.x b.destRect.y
        b.srcRect.w b.srcRect.h)

variable {b : Blit} {cpy : Memcpy} {gpuDevice : Option Bool} {r t : Ram}

/-! ## In bytes -/

/-- The first byte of the destination rectangle. -/
def start (b : Blit) : Nat := b.dest.pixel b.destRect.x b.destRect.y

/-- The first byte of the source rectangle. -/
def source (b : Blit) : Nat := b.src.pixel b.srcRect.x b.srcRect.y

/-- The address the rows are copied to, one below the other. -/
def destPtr (b : Blit) : Nat :=
  b.dest.address + b.destRect.y * b.dest.rowBytes % u32 + b.destRect.x * 4

def srcPtr (b : Blit) : Nat :=
  b.src.address + b.srcRect.y * b.src.rowBytes % u32 + b.srcRect.x * 4

/-- The rows, copied from the top down. -/
def copied (b : Blit) (cpy : Memcpy) (r : Ram) : Ram :=
  copyPieces cpy b.dest.memory b.src.memory b.destPtr b.dest.rowBytes (b.srcRect.w * 4) b.srcRect.h
    (fun y => b.srcPtr + y * b.src.rowBytes) r

theorem row_le (b : Blit) :
    b.srcRect.w * 4 ≤ b.src.rowBytes ∧ b.srcRect.w * 4 ≤ b.dest.rowBytes := by
  obtain ⟨hsrc, -⟩ := b.insideSrc
  obtain ⟨hdest, -⟩ := b.insideDest
  obtain ⟨hrows, hrows'⟩ := b.rows
  omega

/-- The device leaves every blit to the processor. -/
theorem run_eq (b : Blit) (cpy : Memcpy) (gpuDevice : Option Bool) (r : Ram) :
    b.run cpy gpuDevice r = (.success, b.copied cpy r) := by
  have hdevice : ¬ (gpuDevice = some false ∧ blitRect false = .success) := by
    rintro ⟨-, hret⟩
    cases hret
  have hword : b.srcRect.w * 4 % u32 = b.srcRect.w * 4 :=
    Nat.mod_eq_of_lt (Nat.lt_of_le_of_lt b.row_le.1 b.words.1)
  rw [run, blitSurfaceAccelerated, if_neg hdevice, hword]
  rfl

/-- Pixel by pixel or row by row. -/
theorem moves_iff : b.Moves r t ↔ WritesGrid b.start b.dest.rowBytes (b.srcRect.w * 4) b.srcRect.h
    (fun row i => r.bytes (b.source + row * b.src.rowBytes + i)) r t := by
  have hdest : ∀ i j, b.dest.pixel (b.destRect.x + i) (b.destRect.y + j) =
      b.start + j * b.dest.rowBytes + i * 4 := by
    intro i j
    simp only [start, IOAccelSurfaceInformation.pixel, Nat.add_mul]
    omega
  have hsrc : ∀ i j, b.src.pixel (b.srcRect.x + i) (b.srcRect.y + j) =
      b.source + j * b.src.rowBytes + i * 4 := by
    intro i j
    simp only [source, IOAccelSurfaceInformation.pixel, Nat.add_mul]
    omega
  constructor
  · intro h
    constructor
    · intro row hrow i hi
      have hpixel := h.pixels (i / 4) (by omega) row hrow (i % 4) (by omega)
      have hplace : i / 4 * 4 + i % 4 = i := by omega
      rw [hdest, hsrc, Nat.add_assoc, hplace, Nat.add_assoc _ (i / 4 * 4), hplace] at hpixel
      exact hpixel
    · intro a ha
      refine h.outside a fun i hi j hj hin => ha j hj ?_
      rw [hdest] at hin
      obtain ⟨hlow, hhigh⟩ := hin
      dsimp only at hlow hhigh
      exact ⟨by dsimp only; omega, by dsimp only; omega⟩
  · intro h
    constructor
    · intro i hi j hj k hk
      have hbyte := h.inside j hj (i * 4 + k) (by omega)
      rw [hdest, hsrc, Nat.add_assoc, hbyte, Nat.add_assoc (b.source + j * b.src.rowBytes)]
    · intro a ha
      refine h.outside a fun row hrow hin => ?_
      obtain ⟨hlow, hhigh⟩ := hin
      dsimp only at hlow hhigh
      refine ha ((a - (b.start + row * b.dest.rowBytes)) / 4) (by omega) row hrow ?_
      rw [hdest]
      exact ⟨by dsimp only; omega, by dsimp only; omega⟩

theorem correct_iff_copied : b.Correct gpuDevice ↔ ∀ cpy bytes,
    WritesGrid b.start b.dest.rowBytes (b.srcRect.w * 4) b.srcRect.h
      (fun row i => bytes (b.source + row * b.src.rowBytes + i)) ⟨bytes, false⟩
      (b.copied cpy ⟨bytes, false⟩) := by
  simp only [Correct, run_eq, true_implies, moves_iff]

/-! ## In the surfaces' memory -/

/-- Offsets that wrap get smaller, so no row is read or written outside. -/
theorem spans_row {s : IOAccelSurfaceInformation} {x y w h row : Nat} (hrow : row < h)
    (hw : x + w ≤ s.width) (hh : y + h ≤ s.height) (hrows : s.width * 4 ≤ s.rowBytes) :
    s.memory.Spans (s.address + y * s.rowBytes % u32 + x * 4 + row * s.rowBytes) (w * 4) := by
  have hoffset : y * s.rowBytes % u32 ≤ y * s.rowBytes := Nat.mod_le _ _
  have hend : (y + row + 1) * s.rowBytes ≤ s.height * s.rowBytes :=
    Nat.mul_le_mul_right _ (by omega)
  rw [Nat.succ_mul, Nat.add_mul] at hend
  refine ⟨by dsimp only [IOAccelSurfaceInformation.memory]; omega, ?_⟩
  dsimp only [IOAccelSurfaceInformation.memory]
  omega

theorem spans_src {row : Nat} (hrow : row < b.srcRect.h) :
    b.src.memory.Spans (b.srcPtr + row * b.src.rowBytes) (b.srcRect.w * 4) :=
  spans_row hrow b.insideSrc.1 b.insideSrc.2 b.rows.1

theorem spans_dest {row : Nat} (hrow : row < b.srcRect.h) :
    b.dest.memory.Spans (b.destPtr + row * b.dest.rowBytes) (b.srcRect.w * 4) :=
  spans_row hrow b.insideDest.1 b.insideDest.2 b.rows.2

/-! ## What a correct blit needs -/

/-- Some memory tells two places from each other. -/
theorem exists_bytes_ne {p q : Nat} (h : p ≠ q) (c : UInt8) :
    ∃ bytes : Nat → UInt8, bytes p + c ≠ bytes q := by
  by_cases hc : c = 0
  · refine ⟨unlike q 0, ?_⟩
    rw [hc, UInt8.add_zero, unlike_of_ne 0 h]
    exact (unlike_ne q 0).symm
  · refine ⟨fun _ => 0, ?_⟩
    rw [UInt8.zero_add]
    exact hc

/-- The first byte that is copied, if `memcpy` spoils what overlaps. -/
theorem copied_first (hw : 0 < b.srcRect.w) (hh : 0 < b.srcRect.h) (bytes : Nat → UInt8) :
    (b.copied .spoiling ⟨bytes, false⟩).bytes b.destPtr = bytes b.srcPtr +
      if Extent.Apart ⟨b.destPtr, b.srcRect.w * 4⟩ ⟨b.srcPtr, b.srcRect.w * 4⟩ then 0 else 1 := by
  have hfirst : (b.copied .spoiling ⟨bytes, false⟩).bytes b.destPtr = _ :=
    copyPieces_first b.row_le.2 (Nat.mul_pos hw (by decide)) hh
  simp only [Nat.zero_mul, Nat.add_zero] at hfirst
  exact hfirst

/-- An offset of the destination that wraps lets a byte before the rectangle be written. -/
theorem destPtr_eq (h : b.Correct gpuDevice) (hw : 0 < b.srcRect.w) (hh : 0 < b.srcRect.h) :
    b.destPtr = b.start := by
  rw [correct_iff_copied] at h
  by_contra hne
  have hbefore : b.destPtr < b.start := by
    refine Nat.lt_of_le_of_ne ?_ hne
    have hoffset : b.destRect.y * b.dest.rowBytes % u32 ≤ b.destRect.y * b.dest.rowBytes :=
      Nat.mod_le _ _
    unfold destPtr start IOAccelSurfaceInformation.pixel
    omega
  have hkept : ∀ bytes, (b.copied .spoiling ⟨bytes, false⟩).bytes b.destPtr = bytes b.destPtr := by
    intro bytes
    refine (h .spoiling bytes).outside b.destPtr fun row _ hin => ?_
    have hlow : b.start + row * b.dest.rowBytes ≤ b.destPtr := hin.1
    omega
  simp only [copied_first hw hh] at hkept
  by_cases hsame : b.srcPtr = b.destPtr
  · -- the row is copied to itself
    have hover : ¬ Extent.Apart ⟨b.destPtr, b.srcRect.w * 4⟩ ⟨b.srcPtr, b.srcRect.w * 4⟩ := by
      rw [hsame]
      rintro (hend | hend)
      · dsimp only at hend
        omega
      · dsimp only at hend
        omega
    have hspoiled := hkept fun _ => 0
    rw [if_neg hover] at hspoiled
    exact absurd hspoiled (by decide)
  · obtain ⟨bytes, hbytes⟩ := exists_bytes_ne hsame
      (if Extent.Apart ⟨b.destPtr, b.srcRect.w * 4⟩ ⟨b.srcPtr, b.srcRect.w * 4⟩ then 0 else 1)
    exact hbytes (hkept bytes)

/-- An offset of the source that wraps lets another byte arrive. -/
theorem srcPtr_eq (h : b.Correct gpuDevice) (hw : 0 < b.srcRect.w) (hh : 0 < b.srcRect.h) :
    b.srcPtr = b.source := by
  have hstart := destPtr_eq h hw hh
  rw [correct_iff_copied] at h
  by_contra hne
  obtain ⟨bytes, hbytes⟩ := exists_bytes_ne hne
    (if Extent.Apart ⟨b.destPtr, b.srcRect.w * 4⟩ ⟨b.srcPtr, b.srcRect.w * 4⟩ then 0 else 1)
  have harrives := (h .spoiling bytes).inside 0 hh 0 (Nat.mul_pos hw (by decide))
  simp only [Nat.zero_mul, Nat.add_zero, ← hstart] at harrives
  rw [copied_first hw hh] at harrives
  exact hbytes harrives

/-! ## Rows in order -/

/-- Within one surface a row meets no later source exactly if the rows are in order. -/
theorem rows_apart_iff (hsame : b.src = b.dest) :
    (∀ row < b.srcRect.h, Extent.Apart ⟨b.start, b.srcRect.w * 4⟩
      ⟨b.source + row * b.src.rowBytes, b.srcRect.w * 4⟩) ↔
      SurfacePixels.InOrder b.srcRect.x b.srcRect.y b.destRect.x b.destRect.y b.srcRect.w
        b.srcRect.h := by
  obtain ⟨hsx, -⟩ := b.insideSrc
  obtain ⟨hdx, -⟩ := b.insideDest
  obtain ⟨hrows, hrows'⟩ := b.rows
  have hplace : ∀ row, b.source + row * b.src.rowBytes =
      b.dest.address + (b.srcRect.y + row) * b.dest.rowBytes + b.srcRect.x * 4 := by
    intro row
    rw [source, IOAccelSurfaceInformation.pixel, hsame, Nat.add_mul]
    omega
  rw [hsame] at hsx
  simp only [hplace]
  rw [start, IOAccelSurfaceInformation.pixel, apart_rows_below_iff (by omega) (by omega),
    SurfacePixels.InOrder]
  omega

/-- **A blit is right exactly if its offsets are words and its rows are in order.** -/
theorem blit_correct_iff (b : Blit) (gpuDevice : Option Bool) :
    b.Correct gpuDevice ↔ b.Safe := by
  by_cases hempty : b.srcRect.w = 0 ∨ b.srcRect.h = 0
  · refine iff_of_true ?_ (by unfold Safe; tauto)
    rw [correct_iff_copied]
    intro cpy bytes
    rcases hempty with hz | hz
    · refine ⟨fun row _ i hi => ?_, fun a _ => ?_⟩
      · omega
      · refine loop_bytes fun row _ t => cpy.outside t.bytes _ _ _ a fun hin => ?_
        obtain ⟨hlow, hhigh⟩ := hin
        dsimp only at hlow hhigh
        omega
    · refine ⟨fun row hrow => ?_, fun a _ => ?_⟩
      · omega
      · rw [copied, hz]
        rfl
  obtain ⟨hw, hh⟩ := not_or.mp hempty
  have hw : 0 < b.srcRect.w := Nat.pos_of_ne_zero hw
  have hh : 0 < b.srcRect.h := Nat.pos_of_ne_zero hh
  have hpos : 0 < b.srcRect.w * 4 := Nat.mul_pos hw (by decide)
  constructor
  · intro h
    have hdest := destPtr_eq h hw hh
    have hsrc := srcPtr_eq h hw hh
    refine .inr (.inr ⟨?_, ?_, fun hsame => ?_⟩)
    · have hmod : b.srcRect.y * b.src.rowBytes % u32 = b.srcRect.y * b.src.rowBytes := by
        unfold srcPtr source IOAccelSurfaceInformation.pixel at hsrc
        omega
      rw [← hmod]
      exact Nat.mod_lt _ (by decide)
    · have hmod : b.destRect.y * b.dest.rowBytes % u32 = b.destRect.y * b.dest.rowBytes := by
        unfold destPtr start IOAccelSurfaceInformation.pixel at hdest
        omega
      rw [← hmod]
      exact Nat.mod_lt _ (by decide)
    · rw [← rows_apart_iff hsame]
      rw [correct_iff_copied] at h
      unfold copied at h
      rw [hdest, hsrc, hsame] at h
      rw [hsame]
      exact (copyPieces_writes_iff b.row_le.2 hpos).mp h
  · intro h
    obtain ⟨hsrc, hdest, horder⟩ := (h.resolve_left (by omega)).resolve_left (by omega)
    have hsrcPtr : b.srcPtr = b.source := by
      rw [srcPtr, Nat.mod_eq_of_lt hsrc, source, IOAccelSurfaceInformation.pixel]
    have hdestPtr : b.destPtr = b.start := by
      rw [destPtr, Nat.mod_eq_of_lt hdest, start, IOAccelSurfaceInformation.pixel]
    rw [correct_iff_copied]
    unfold copied
    rw [← hsrcPtr, ← hdestPtr]
    rcases b.apart with hsame | hapart
    · have hrows := (rows_apart_iff hsame).mpr (horder hsame)
      rw [← hsrcPtr, ← hdestPtr, hsame] at hrows
      rw [hsame]
      exact (copyPieces_writes_iff b.row_le.2 hpos).mpr hrows
    · intro cpy bytes
      have hpieces : ∀ row < b.srcRect.h, ∀ row' ≤ row,
          Extent.Apart ⟨b.destPtr + row' * b.dest.rowBytes, b.srcRect.w * 4⟩
            ⟨b.srcPtr + row * b.src.rowBytes, b.srcRect.w * 4⟩ := fun row hrow row' hrow' =>
        hapart.of_spans (spans_dest (Nat.lt_of_le_of_lt hrow' hrow)) (spans_src hrow)
      exact copyPieces_writes (r := ⟨bytes, false⟩) b.row_le.2 hpieces

/-- A display of 1024 by 768 pixels, scrolled down by a row. -/
def scroll : Blit where
  src := ⟨0x10000000, 4096, 1024, 768⟩
  dest := ⟨0x10000000, 4096, 1024, 768⟩
  srcRect := ⟨0, 0, 1024, 767⟩
  destRect := ⟨0, 1, 1024, 767⟩
  words := by decide
  rows := by decide
  insideSrc := by decide
  insideDest := by decide
  apart := .inl rfl

/-- Each row is read after the one above has been copied over it: the first row fills the
display. -/
theorem scroll_not_correct : ¬ scroll.Correct none := by
  intro h
  rw [correct_iff_copied] at h
  have hrows := (@copyPieces_writes_iff scroll.dest.memory scroll.src.memory scroll.start 4096
    4096 767 (Nat.le_refl _) (by decide) scroll.source).mp h 1 (by decide)
  revert hrows
  decide

end Blit
end VMQemuVGA
