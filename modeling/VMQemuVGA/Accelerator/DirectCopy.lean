import Mathlib.Tactic.Ring
import VMQemuVGA.Lib.Bytes
import VMQemuVGA.Accelerator.Creations

/-! # Presenting by a copy into VRAM

The direct-copy path of `present3DSurface` centres the surface on the display and
copies it there, at once if its rows are as long as those of the display, else row
by row. All sizes and offsets are words of 32 bits. In `present3DSurface` what it
returns is the answer `AccelEnv.framebuffer`. -/

namespace VMQemuVGA

/-- The mode a `QemuVGADevice` says it is in. -/
structure DisplaySize where
  width : Nat
  height : Nat
  deriving DecidableEq, Repr

/-- What the direct copy finds: a surface with the memory `create3DSurface` gave it,
the device if the framebuffer has one, and the mapped VRAM. -/
structure DirectCopy where
  info : SurfaceInfo
  device : Option DisplaySize
  backing : Extent
  vram : Extent
  words : info.width < u32 ∧ info.height < u32
  mode : ∀ d ∈ device, d.width < u32 ∧ d.height < u32
  allocated : backing.size = calculateSurfaceSize info
  apart : vram.Apart backing

namespace DirectCopy

/-! ## The copy -/

/-- `vram_offset`. -/
def vramOffset (c : DirectCopy) : Nat :=
  match c.device with
  | none => 0
  | some d =>
      if c.info.width < d.width ∨ c.info.height < d.height then
        let xOffset := (d.width + (u32 - c.info.width)) % u32 / 2
        let yOffset := (d.height + (u32 - c.info.height)) % u32 / 2
        (yOffset * d.width + xOffset) % u32 * 4 % u32
      else 0

/-- The check on the length of the VRAM. -/
def accepts (c : DirectCopy) : Bool :=
  decide ((c.vramOffset + calculateSurfaceSize c.info) % u32 ≤ c.vram.size % u32)

/-- `bytes_per_row`, for pixels of 32 bits. -/
def bytesPerRow (c : DirectCopy) : Nat := c.info.width * 4 % u32

/-- `vram_stride`. -/
def vramStride (c : DirectCopy) : Nat :=
  match c.device with
  | none => c.bytesPerRow
  | some d => d.width * 4 % u32

/-- The direct copy, from the two mapped addresses on. -/
def run (c : DirectCopy) (cpy : Memcpy) (r : Ram) : IOReturn × Ram :=
  if c.accepts = true then
    if c.bytesPerRow = c.vramStride ∨ c.device.isNone = true then
      (.success, r.bcopy cpy c.vram c.backing (c.vram.base + c.vramOffset) c.backing.base
        (calculateSurfaceSize c.info))
    else
      (.success, loop c.info.height (fun row =>
        Ram.bcopy cpy c.vram c.backing (c.vram.base + c.vramOffset + row * c.vramStride)
          (c.backing.base + row * c.bytesPerRow) c.bytesPerRow) r)
  else (.noSpace, r)

/-! ## What it is for -/

/-- The display the surface goes to; without a device it is as large as the surface. -/
def display (c : DirectCopy) : DisplaySize := c.device.getD ⟨c.info.width, c.info.height⟩

/-- Where a row of the surface belongs, centred on the display. -/
def place (c : DirectCopy) (row : Nat) : Nat :=
  (((c.display.height - c.info.height) / 2 + row) * c.display.width +
    (c.display.width - c.info.width) / 2) * 4

/-- The bytes of a row of the surface, in its own format. -/
def rowSize (c : DirectCopy) : Nat := c.info.width * c.info.bytesPerPixel

/-- The surface fits on the display, and its place there is in the VRAM. -/
def Fits (c : DirectCopy) : Prop :=
  c.info.width ≤ c.display.width ∧ c.info.height ≤ c.display.height ∧
    (c.info.width * c.info.height = 0 ∨ c.place (c.info.height - 1) + c.rowSize ≤ c.vram.size)

/-- Reads are in the backing memory and writes in the VRAM, the backing memory has all
the rows, and every row is where it belongs. -/
structure Presents (c : DirectCopy) (r t : Ram) : Prop where
  inRange : t.wild = r.wild
  held : c.rowSize * c.info.height ≤ c.backing.size
  rows : ∀ row < c.info.height, ∀ i < c.rowSize,
    t.bytes (c.vram.base + c.place row + i) = r.bytes (c.backing.base + row * c.rowSize + i)

/-- What is copied is presented and fits; what is not leaves memory alone. -/
def Correct (c : DirectCopy) : Prop :=
  ∀ cpy bytes,
    ((c.run cpy ⟨bytes, false⟩).1 = .success →
      c.Fits ∧ c.Presents ⟨bytes, false⟩ (c.run cpy ⟨bytes, false⟩).2) ∧
    ((c.run cpy ⟨bytes, false⟩).1 ≠ .success → (c.run cpy ⟨bytes, false⟩).2 = ⟨bytes, false⟩)

/-- No product wraps, and pixels have four bytes unless there is just one row, as long
as a row of the display. -/
def Exact (c : DirectCopy) : Prop :=
  c.info.width * c.info.height = 0 ∨
    c.rowSize * c.info.height < u32 ∧ c.place 0 < u32 ∧
      (c.info.height = 1 ∧ (c.info.bytesPerPixel = 4 ∨ c.bytesPerRow = c.vramStride) ∨
        2 ≤ c.info.height ∧ c.info.bytesPerPixel = 4 ∧ c.display.width * 4 < u32)

variable {c : DirectCopy} {cpy : Memcpy} {r : Ram} {bytes : Nat → UInt8}

/-! ## In pieces -/

theorem place_eq (c : DirectCopy) (row : Nat) :
    c.place row = c.place 0 + row * (c.display.width * 4) := by
  unfold place
  ring

theorem vramStride_eq (c : DirectCopy) : c.vramStride = c.display.width * 4 % u32 := by
  unfold vramStride display bytesPerRow
  cases c.device with
  | none => rfl
  | some d => rfl

theorem display_lt (c : DirectCopy) : c.display.width < u32 ∧ c.display.height < u32 := by
  have hmode := c.mode
  unfold display
  cases hd : c.device with
  | none => exact c.words
  | some d => exact hmode d hd

theorem calculateSurfaceSize_info (c : DirectCopy) :
    calculateSurfaceSize c.info = c.rowSize * c.info.height % u32 := by
  rw [SurfaceInfo.calculateSurfaceSize_eq, Nat.mul_right_comm]
  rfl

/-- Where nothing is larger than the display, only the last product may wrap. -/
theorem vramOffset_eq (hw : c.info.width ≤ c.display.width)
    (hh : c.info.height ≤ c.display.height) : c.vramOffset = c.place 0 % u32 := by
  have hdisplay := c.display_lt
  unfold vramOffset place
  unfold display at hw hh hdisplay ⊢
  generalize c.device = device at hw hh hdisplay ⊢
  cases device with
  | none => simp
  | some d =>
      obtain ⟨hd₁, hd₂⟩ := hdisplay
      dsimp only [Option.getD_some] at hw hh hd₁ hd₂ ⊢
      have hsub : ∀ {a b : Nat}, a ≤ b → b < u32 → (b + (u32 - a)) % u32 = b - a := by
        intro a b hab hb
        rw [show b + (u32 - a) = b - a + u32 by omega, Nat.add_mod_right,
          Nat.mod_eq_of_lt (by omega)]
      split
      · rw [hsub hw hd₁, hsub hh hd₂, Nat.mod_mul_mod, Nat.add_zero]
      · have hwidth : c.info.width = d.width := by omega
        have hheight : c.info.height = d.height := by omega
        rw [hwidth, hheight]
        simp

/-- The whole surface, if the rows are as long as those of the display. -/
def pieceLength (c : DirectCopy) : Nat :=
  if c.bytesPerRow = c.vramStride then calculateSurfaceSize c.info else c.bytesPerRow

def pieceCount (c : DirectCopy) : Nat :=
  if c.bytesPerRow = c.vramStride then 1 else c.info.height

/-- One copy for each piece. -/
def copied (c : DirectCopy) (cpy : Memcpy) (r : Ram) : Ram :=
  if c.pieceLength = 0 then r
  else copyPieces cpy c.vram c.backing (c.vram.base + c.vramOffset) c.vramStride c.pieceLength
    c.pieceCount (fun row => c.backing.base + row * c.pieceLength) r

theorem run_eq (c : DirectCopy) (cpy : Memcpy) (r : Ram) :
    c.run cpy r = if c.accepts = true then (.success, c.copied cpy r) else (.noSpace, r) := by
  have hnone : c.device.isNone = true → c.bytesPerRow = c.vramStride := by
    intro h
    rw [Option.isNone_iff_eq_none] at h
    unfold vramStride
    rw [h]
  unfold run copied pieceLength pieceCount
  split
  swap
  · rfl
  by_cases hstride : c.bytesPerRow = c.vramStride
  · rw [if_pos (Or.inl hstride), if_pos hstride, if_pos hstride, ← loop_bcopy]
    simp only [loop, Nat.zero_mul, Nat.add_zero]
  · rw [if_neg (fun h => hstride (h.elim id hnone)), if_neg hstride, if_neg hstride, ← loop_bcopy]

/-! ## What a correct copy needs -/

/-- Every byte of the surface comes to its place from its own place in some piece. -/
theorem sources (h : c.Correct) (ha : c.accepts = true)
    (hne : c.info.width * c.info.height ≠ 0) {row i : Nat} (hrow : row < c.info.height)
    (hi : i < c.rowSize) :
    ∃ row' < c.pieceCount, ∃ i' < c.pieceLength,
      c.place row + i = c.vramOffset + row' * c.vramStride + i' ∧
        row * c.rowSize + i = row' * c.pieceLength + i' := by
  have hrun : ∀ bytes, c.Fits ∧ c.Presents ⟨bytes, false⟩ (c.copied .spoiling ⟨bytes, false⟩) := by
    intro bytes
    have hmeets := (h .spoiling bytes).1
    rw [c.run_eq, if_pos ha] at hmeets
    exact hmeets rfl
  obtain ⟨⟨hw, hh, hplace⟩, hwild, hheld, -⟩ := hrun fun _ => 0
  have hrows : ∀ bytes, (c.copied .spoiling ⟨bytes, false⟩).bytes (c.vram.base + c.place row + i) =
      bytes (c.backing.base + row * c.rowSize + i) := fun bytes => (hrun bytes).2.rows row hrow i hi
  have hvram : c.vram.Has (c.vram.base + c.place row + i) := by
    have hend := hplace.resolve_left hne
    rw [place_eq] at hend
    have hle : row * (c.display.width * 4) ≤ (c.info.height - 1) * (c.display.width * 4) :=
      Nat.mul_le_mul_right _ (by omega)
    refine ⟨by omega, ?_⟩
    rw [place_eq]
    omega
  have hbacking : c.backing.Has (c.backing.base + row * c.rowSize + i) := by
    have hle : (row + 1) * c.rowSize ≤ c.info.height * c.rowSize := Nat.mul_le_mul_right _ hrow
    rw [Nat.succ_mul, Nat.mul_comm c.info.height] at hle
    exact ⟨by omega, by omega⟩
  unfold copied at hwild hrows
  by_cases hlen : c.pieceLength = 0
  · simp only [if_pos hlen] at hrows
    -- nothing is copied, so the byte is not what it should be
    obtain ⟨row', hrow', -⟩ := @copyPieces_source .spoiling c.vram c.backing 0 0 0 0 id c.apart
      (fun _ h => absurd h (Nat.not_lt_zero _)) (fun _ h => absurd h (Nat.not_lt_zero _)) _ _
      hvram hbacking hrows
    exact absurd hrow' (Nat.not_lt_zero _)
  · simp only [if_neg hlen] at hwild hrows
    obtain ⟨row', hrow', i', hi', hto, hfrom⟩ := copyPieces_source c.apart
      (fun _ h => (copyPieces_spans hwild h).1) (fun _ h => (copyPieces_spans hwild h).2)
      hvram hbacking hrows
    exact ⟨row', hrow', i', hi', by omega, by omega⟩

/-- All pieces together are no more than the backing memory. -/
theorem pieces_le (hwild : (c.copied cpy r).wild = false) :
    c.pieceCount * c.pieceLength ≤ c.backing.size := by
  unfold copied at hwild
  by_cases hlen : c.pieceLength = 0
  · rw [hlen, Nat.mul_zero]
    exact Nat.zero_le _
  rw [if_neg hlen] at hwild
  cases hcount : c.pieceCount with
  | zero =>
      rw [Nat.zero_mul]
      exact Nat.zero_le _
  | succ n =>
      have hlast : n < c.pieceCount := by omega
      obtain ⟨-, hend⟩ := (copyPieces_spans hwild hlast).1
      rw [Nat.succ_mul]
      omega

/-- A row by row copy reads no more than it should. -/
theorem bytesPerRow_eq (hrow : 0 < c.rowSize) (hle : c.rowSize ≤ c.bytesPerRow)
    (hge : c.bytesPerRow ≤ c.rowSize) : c.info.bytesPerPixel = 4 := by
  have hwords := c.words.1
  rcases c.info.bytesPerPixel_cases with hb | hb
  · unfold rowSize bytesPerRow u32 at *
    rw [hb] at hrow hle hge
    omega
  · exact hb

/-! ### Three bytes that must arrive -/

/-- The first byte of the first row. -/
theorem place_zero_eq (h : c.Correct) (ha : c.accepts = true)
    (hne : c.info.width * c.info.height ≠ 0) (hheight : 0 < c.info.height)
    (hrow : 0 < c.rowSize) : c.place 0 = c.vramOffset := by
  obtain ⟨row', -, i', hi', hto, hfrom⟩ := sources h ha hne hheight hrow
  rw [Nat.zero_mul] at hfrom
  have hzero : row' * c.pieceLength = 0 := by omega
  have hrow' : row' = 0 := (Nat.mul_eq_zero.mp hzero).resolve_right (by omega)
  rw [hrow', Nat.zero_mul] at hto hfrom
  omega

theorem place_one_eq : c.place 1 = c.place 0 + c.display.width * 4 := by
  rw [place_eq, Nat.one_mul]

/-- The first byte of the second row, where all rows are one piece. -/
theorem display_eq_rowSize (h : c.Correct) (ha : c.accepts = true)
    (hne : c.info.width * c.info.height ≠ 0) (htwo : 2 ≤ c.info.height) (hrow : 0 < c.rowSize)
    (hstride : c.bytesPerRow = c.vramStride) : c.display.width * 4 = c.rowSize := by
  have hcount : c.pieceCount = 1 := if_pos hstride
  have hplace := place_zero_eq h ha hne (Nat.lt_of_succ_lt htwo) hrow
  obtain ⟨row', hrow', i', hi', hto, hfrom⟩ := sources h ha hne htwo hrow
  obtain rfl : row' = 0 := by omega
  rw [place_one_eq, hplace] at hto
  omega

/-- The last byte of the first row, where each row is a piece. -/
theorem rowSize_le_bytesPerRow (h : c.Correct) (ha : c.accepts = true)
    (hne : c.info.width * c.info.height ≠ 0) (hheight : 0 < c.info.height)
    (hrow : 0 < c.rowSize) (hstride : c.bytesPerRow ≠ c.vramStride) :
    c.rowSize ≤ c.bytesPerRow := by
  have hlength : c.pieceLength = c.bytesPerRow := if_neg hstride
  have hplace := place_zero_eq h ha hne hheight hrow
  obtain ⟨row', -, i', hi', hto, hfrom⟩ :=
    sources h ha hne hheight (i := c.rowSize - 1) (by omega)
  rw [hlength] at hi' hfrom
  have hsame : row' * c.bytesPerRow = row' * c.vramStride := by omega
  have hrow' : row' = 0 := by
    by_contra hpos
    exact hstride (Nat.eq_of_mul_eq_mul_left (Nat.pos_of_ne_zero hpos) hsame)
  rw [hrow', Nat.zero_mul] at hfrom
  omega

/-- The first byte of the second row, where each row is a piece. -/
theorem display_eq_vramStride (h : c.Correct) (ha : c.accepts = true)
    (hne : c.info.width * c.info.height ≠ 0) (htwo : 2 ≤ c.info.height) (hrow : 0 < c.rowSize)
    (hstride : c.bytesPerRow ≠ c.vramStride) (hlength : c.bytesPerRow = c.rowSize) :
    c.display.width * 4 = c.vramStride := by
  have hplace := place_zero_eq h ha hne (Nat.lt_of_succ_lt htwo) hrow
  have hpiece : c.pieceLength = c.rowSize := (if_neg hstride).trans hlength
  obtain ⟨row', -, i', hi', hto, hfrom⟩ := sources h ha hne htwo hrow
  rw [hpiece] at hi' hfrom
  have hrow' : row' = 1 := by
    rcases Nat.lt_trichotomy row' 1 with hlt | heq | hgt
    · have hzero : row' = 0 := by omega
      rw [hzero] at hfrom
      omega
    · exact heq
    · have hmany : 2 * c.rowSize ≤ row' * c.rowSize := Nat.mul_le_mul_right _ hgt
      omega
  rw [hrow', place_one_eq, hplace] at hto
  rw [hrow'] at hfrom
  omega

theorem exact_of_correct (h : c.Correct) (ha : c.accepts = true) : c.Fits ∧ c.Exact := by
  have hmeets := (h .spoiling fun _ => 0).1
  rw [c.run_eq, if_pos ha] at hmeets
  obtain ⟨hfits, hwild, hheld, -⟩ := hmeets rfl
  refine ⟨hfits, ?_⟩
  by_cases hne : c.info.width * c.info.height = 0
  · exact Or.inl hne
  right
  obtain ⟨hw, hh, -⟩ := hfits
  have hwidth : 0 < c.info.width := Nat.pos_of_ne_zero fun hz => hne (by rw [hz, Nat.zero_mul])
  have hheight : 0 < c.info.height := Nat.pos_of_ne_zero fun hz => hne (by rw [hz, Nat.mul_zero])
  have hrow : 0 < c.rowSize := Nat.mul_pos hwidth c.info.bytesPerPixel_pos
  have hsize : c.rowSize * c.info.height < u32 := by
    rw [c.allocated, calculateSurfaceSize_info] at hheld
    exact Nat.lt_of_le_of_lt hheld (Nat.mod_lt _ (by decide))
  have hplaceLt : c.place 0 < u32 := by
    rw [place_zero_eq h ha hne hheight hrow, vramOffset_eq hw hh]
    exact Nat.mod_lt _ (by decide)
  refine ⟨hsize, hplaceLt, ?_⟩
  by_cases hstride : c.bytesPerRow = c.vramStride
  · by_cases hone : c.info.height = 1
    · exact Or.inl ⟨hone, Or.inr hstride⟩
    right
    have htwo : 2 ≤ c.info.height := by omega
    have hrows := display_eq_rowSize h ha hne htwo hrow hstride
    have hle : c.rowSize * 1 ≤ c.rowSize * c.info.height := Nat.mul_le_mul_left _ hheight
    refine ⟨htwo, c.info.bytesPerPixel_cases.resolve_left fun hb => ?_, by omega⟩
    unfold rowSize at hrows
    rw [hb] at hrows
    omega
  · have hpieces := pieces_le hwild
    rw [pieceCount, if_neg hstride, pieceLength, if_neg hstride, c.allocated,
      calculateSurfaceSize_info, Nat.mod_eq_of_lt hsize, Nat.mul_comm] at hpieces
    have hge : c.bytesPerRow ≤ c.rowSize := Nat.le_of_mul_le_mul_right hpieces hheight
    have hle := rowSize_le_bytesPerRow h ha hne hheight hrow hstride
    have hfour := bytesPerRow_eq hrow hle hge
    by_cases hone : c.info.height = 1
    · exact Or.inl ⟨hone, Or.inl hfour⟩
    right
    have htwo : 2 ≤ c.info.height := by omega
    refine ⟨htwo, hfour, ?_⟩
    rw [display_eq_vramStride h ha hne htwo hrow hstride (Nat.le_antisymm hge hle),
      vramStride_eq]
    exact Nat.mod_lt _ (by decide)

/-! ## What makes a copy correct -/

theorem presents_of_empty (hempty : c.info.width * c.info.height = 0)
    (r : Ram) (cpy : Memcpy) : c.Presents r (c.copied cpy r) := by
  have hcopied : c.copied cpy r = r := by
    unfold copied
    split
    · rfl
    next hlen =>
    unfold pieceLength at hlen
    split at hlen
    · rw [calculateSurfaceSize_info, rowSize, Nat.mul_right_comm, hempty, Nat.zero_mul] at hlen
      exact absurd rfl hlen
    next hstride =>
    rcases Nat.mul_eq_zero.mp hempty with hz | hz
    · rw [bytesPerRow, hz] at hlen
      exact absurd rfl hlen
    · have hcount : c.pieceCount = 0 := (if_neg hstride).trans hz
      rw [hcount]
      rfl
  rw [hcopied]
  refine ⟨rfl, ?_, fun row hrow i hi => ?_⟩
  · rw [rowSize, Nat.mul_right_comm, hempty, Nat.zero_mul]
    exact Nat.zero_le _
  · rcases Nat.mul_eq_zero.mp hempty with hz | hz
    · rw [rowSize, hz, Nat.zero_mul] at hi
      exact absurd hi (Nat.not_lt_zero _)
    · rw [hz] at hrow
      exact absurd hrow (Nat.not_lt_zero _)

/-- The rows of the surface lie one behind the other on the display, or there is one. -/
theorem presents_at_once (hcount : c.pieceCount = 1)
    (hlength : c.pieceLength = c.rowSize * c.info.height)
    (hrows : ∀ row < c.info.height, row * (c.display.width * 4) = row * c.rowSize)
    (hplace : c.vramOffset = c.place 0) (hsize : c.backing.size = c.rowSize * c.info.height)
    (hend : c.place 0 + c.rowSize * c.info.height ≤ c.vram.size) (r : Ram) (cpy : Memcpy) :
    c.Presents r (c.copied cpy r) := by
  by_cases hzero : c.pieceLength = 0
  · have hcopied : c.copied cpy r = r := if_pos hzero
    rw [hlength] at hzero
    rw [hcopied]
    refine ⟨rfl, by omega, fun row hrow i hi => ?_⟩
    rcases Nat.mul_eq_zero.mp hzero with hz | hz
    · omega
    · omega
  have hcopied : c.copied cpy r = r.copy cpy c.vram c.backing (c.vram.base + c.place 0)
      c.backing.base (c.rowSize * c.info.height) := by
    unfold copied copyPieces
    rw [if_neg hzero, hcount, hlength, hplace]
    simp only [loop, Nat.zero_mul, Nat.add_zero]
  have hsrc : c.backing.Spans c.backing.base (c.rowSize * c.info.height) :=
    ⟨Nat.le_refl _, by omega⟩
  have hdst : c.vram.Spans (c.vram.base + c.place 0) (c.rowSize * c.info.height) :=
    ⟨Nat.le_add_right _ _, by omega⟩
  rw [hcopied]
  refine ⟨Ram.copy_wild hsrc hdst, Nat.le_of_eq hsize.symm, fun row hrow i hi => ?_⟩
  have hle : (row + 1) * c.rowSize ≤ c.info.height * c.rowSize := Nat.mul_le_mul_right _ hrow
  rw [Nat.succ_mul, Nat.mul_comm c.info.height] at hle
  have hin := cpy.copies r.bytes _ _ _ (c.apart.of_spans hdst hsrc) (row * c.rowSize + i)
    (by omega)
  rw [place_eq c row, hrows row hrow, ← Nat.add_assoc, Nat.add_assoc, Nat.add_assoc c.backing.base]
  exact hin

/-- Every row of the surface goes to its row of the display. -/
theorem presents_by_rows (hcount : c.pieceCount = c.info.height)
    (hlength : c.pieceLength = c.rowSize) (hstride : c.vramStride = c.display.width * 4)
    (hle : c.rowSize ≤ c.display.width * 4) (hrow : 0 < c.rowSize)
    (hplace : c.vramOffset = c.place 0) (hsize : c.backing.size = c.rowSize * c.info.height)
    (hend : c.place (c.info.height - 1) + c.rowSize ≤ c.vram.size) (r : Ram) (cpy : Memcpy) :
    c.Presents r (c.copied cpy r) := by
  have hcopied : c.copied cpy r = copyPieces cpy c.vram c.backing (c.vram.base + c.place 0)
      (c.display.width * 4) c.rowSize c.info.height
      (fun row => c.backing.base + row * c.rowSize) r := by
    unfold copied
    rw [hcount, hlength, hstride, hplace, if_neg (Nat.ne_of_gt hrow)]
  have hsrc : ∀ row < c.info.height,
      c.backing.Spans (c.backing.base + row * c.rowSize) c.rowSize := by
    intro row hlt
    have hnext : (row + 1) * c.rowSize ≤ c.info.height * c.rowSize := Nat.mul_le_mul_right _ hlt
    rw [Nat.succ_mul, Nat.mul_comm c.info.height] at hnext
    exact ⟨Nat.le_add_right _ _, by omega⟩
  have hdst : ∀ row < c.info.height,
      c.vram.Spans (c.vram.base + c.place 0 + row * (c.display.width * 4)) c.rowSize := by
    intro row hlt
    have hlast : row * (c.display.width * 4) ≤ (c.info.height - 1) * (c.display.width * 4) :=
      Nat.mul_le_mul_right _ (by omega)
    rw [place_eq] at hend
    exact ⟨by omega, by omega⟩
  rw [hcopied]
  refine ⟨copyPieces_wild hsrc hdst, Nat.le_of_eq hsize.symm, fun row hlt i hi => ?_⟩
  have hwrites := @copyPieces_writes cpy c.vram c.backing _ _ _ _ _ r hle
    fun row hlt row' hrow' => c.apart.of_spans (hdst row' (Nat.lt_of_le_of_lt hrow' hlt))
      (hsrc row hlt)
  rw [place_eq c row, ← Nat.add_assoc]
  exact hwrites.inside row hlt i hi

theorem presents_of_exact (hfits : c.Fits) (hexact : c.Exact) (r : Ram) (cpy : Memcpy) :
    c.Presents r (c.copied cpy r) := by
  obtain ⟨hw, hh, hend⟩ := hfits
  by_cases hne : c.info.width * c.info.height = 0
  · exact presents_of_empty hne r cpy
  have hend := hend.resolve_left hne
  obtain ⟨hsize, hplace, hcases⟩ := hexact.resolve_left hne
  have hwidth : 0 < c.info.width := Nat.pos_of_ne_zero fun hz => hne (by rw [hz, Nat.zero_mul])
  have hrow : 0 < c.rowSize := Nat.mul_pos hwidth c.info.bytesPerPixel_pos
  have hoffset : c.vramOffset = c.place 0 := by
    rw [vramOffset_eq hw hh, Nat.mod_eq_of_lt hplace]
  have htotal : calculateSurfaceSize c.info = c.rowSize * c.info.height := by
    rw [calculateSurfaceSize_info, Nat.mod_eq_of_lt hsize]
  have hbacking := c.allocated.trans htotal
  rcases hcases with ⟨hone, hpixel⟩ | ⟨htwo, hpixel, hstride⟩
  · -- a single row goes at once, whichever way it is copied
    have hcount : c.pieceCount = 1 := by
      unfold pieceCount
      rw [hone, ite_self]
    refine presents_at_once hcount ?_ (fun row hlt => ?_) hoffset hbacking ?_ r cpy
    · unfold pieceLength
      split
      · exact htotal
      · next hne =>
        have hfour := hpixel.resolve_right hne
        rw [hone, Nat.mul_one] at hsize ⊢
        unfold rowSize bytesPerRow at *
        rw [hfour] at hsize ⊢
        exact Nat.mod_eq_of_lt hsize
    · have hzero : row = 0 := by omega
      rw [hzero, Nat.zero_mul, Nat.zero_mul]
    · rw [hone] at hend ⊢
      rw [Nat.mul_one]
      exact hend
  · have hrowSize : c.rowSize = c.info.width * 4 := by rw [rowSize, hpixel]
    have hle : c.rowSize ≤ c.display.width * 4 := by omega
    have hbytes : c.bytesPerRow = c.rowSize := by
      rw [bytesPerRow, hrowSize, Nat.mod_eq_of_lt (by omega)]
    have hvram : c.vramStride = c.display.width * 4 := by
      rw [vramStride_eq, Nat.mod_eq_of_lt hstride]
    by_cases hsame : c.bytesPerRow = c.vramStride
    · have hequal : c.display.width * 4 = c.rowSize := by omega
      refine presents_at_once (if_pos hsame) ((if_pos hsame).trans htotal)
        (fun row _ => by rw [hequal]) hoffset hbacking ?_ r cpy
      rw [place_eq, hequal] at hend
      have hsucc : c.info.height = c.info.height - 1 + 1 := by omega
      rw [hsucc, Nat.mul_comm, Nat.succ_mul]
      omega
    · exact presents_by_rows (if_neg hsame) ((if_neg hsame).trans hbytes) hvram hle hrow hoffset
        hbacking hend r cpy

/-- **The direct copy is right exactly if what it accepts fits, and its sizes are
exact.** -/
theorem copy_correct_iff (c : DirectCopy) : c.Correct ↔ (c.accepts = true → c.Fits ∧ c.Exact) := by
  constructor
  · exact fun h ha => exact_of_correct h ha
  · intro h cpy bytes
    rw [c.run_eq]
    split
    · next ha =>
      obtain ⟨hfits, hexact⟩ := h ha
      exact ⟨fun _ => ⟨hfits, presents_of_exact hfits hexact _ cpy⟩, fun hret => absurd rfl hret⟩
    · exact ⟨fun hret => IOReturn.noConfusion hret, fun _ => rfl⟩

/-- A surface of 800 by 100 pixels on a display of 640 by 480, with 16 MiB of VRAM. -/
def wide : DirectCopy where
  info := ⟨21, 800, 100, 1⟩
  device := some ⟨640, 480⟩
  backing := ⟨0x10000000, 320000⟩
  vram := ⟨0xe0000000, 16777216⟩
  words := by decide
  mode := by decide
  allocated := by decide
  apart := by decide

/-- It is wider than the display, and is copied all the same. -/
theorem wide_not_correct : ¬ wide.Correct := by
  intro h
  have hfits := ((h .spoiling fun _ => 0).1 (by rw [run_eq, if_pos (by decide)])).1
  exact absurd hfits.1 (by decide)

end DirectCopy
end VMQemuVGA
