import VMQemuVGA.Vga.CustomMode

/-! # Rows of a frame

`getPixelInformation` reports how many bytes a row takes. The frame should fit the VRAM,
and the row should be the one the device shows in the mode it is set to. -/

namespace VMQemuVGA

/-! ## Rows on the device -/

namespace QemuVGADevice

/-- The device as `Start` leaves it, in the mode it found. -/
def started (width height bpp : Nat) : QemuVGADevice where
  width := width
  height := height
  bpp := bpp
  maxWidth := 2560
  maxHeight := 1600

/-- The bytes of a line on the screen. The register for the width has 16 bits, and the
device takes a multiple of 8 of its value, with four bytes for each pixel. -/
def lineLength (d : QemuVGADevice) : Nat := d.width % 2 ^ 16 / 8 * 8 * 4

end QemuVGADevice

/-! ## Rows as they are reported -/

/-- `IOPixelInformation`. -/
structure PixelInformation where
  activeWidth : Nat
  activeHeight : Nat
  flags : Nat
  pixelFormat : String
  /-- `kIORGBDirectPixels` -/
  rgbDirect : Bool
  componentMasks : List Nat
  bitsPerPixel : Nat
  componentCount : Nat
  bitsPerComponent : Nat
  bytesPerRow : Nat
  deriving DecidableEq, Repr

/-- `((width + 7U) & (~7U)) << 2`. -/
def rowBytes (width : Nat) : Nat := (width + 7) % u32 / 8 * 8 * 4 % u32

namespace VgaFramebuffer

/-- `getPixelInformation`; aperture 0 is `kIOFBSystemAperture`, and `info` is whether
there is a place for the answer. -/
def getPixelInformation (fb : VgaFramebuffer) (mode depth aperture : Nat) (info : Bool) :
    Except IOReturn PixelInformation :=
  if info = false then .error .badArgument
  else if aperture ≠ 0 then .error .unsupportedMode
  else if depth ≠ 0 then .error .badArgument
  else
    match fb.getDisplayMode mode with
    | none => .error .badArgument
    | some dme =>
        .ok {
          activeWidth := dme.width
          activeHeight := dme.height
          flags := dme.flags
          pixelFormat := "--------RRRRRRRRGGGGGGGGBBBBBBBB"
          rgbDirect := true
          componentMasks := [0xFF0000, 0x00FF00, 0x0000FF]
          bitsPerPixel := 32
          componentCount := 3
          bitsPerComponent := 8
          bytesPerRow := rowBytes dme.width }

/-- The device in a mode, once `setDisplayMode` has called `SetMode` for it. -/
def programmed (fb : VgaFramebuffer) (mode : Nat) : Option QemuVGADevice :=
  (fb.getDisplayMode mode).map fun dme => fb.svga.setMode dme.width dme.height 32

/-- The test of its size against the VRAM that `start` makes of a row of the table. -/
def Holds (vramBytes : Nat) (m : DisplayModeEntry) : Prop :=
  vramBytes = 0 ∨ m.width * m.height * 4 ≤ vramBytes

/-- The frame of a mode fits the VRAM, and its rows are those of the device. -/
structure FrameFits (vramBytes mode : Nat) (fb : VgaFramebuffer) : Prop where
  fits : ∀ info, fb.getPixelInformation mode 0 0 true = .ok info →
    info.bytesPerRow * info.activeHeight ≤ vramBytes
  line : ∀ info d, fb.getPixelInformation mode 0 0 true = .ok info →
    fb.programmed mode = some d → info.bytesPerRow = d.lineLength

/-- The VRAM is known and passes the test of `start` for the mode, and the width of the
custom mode is a multiple of 8. -/
def FrameOk (vramBytes mode : Nat) (fb : VgaFramebuffer) : Prop :=
  vramBytes ≠ 0 ∧ (∀ dme, fb.getDisplayMode mode = some dme → Holds vramBytes dme) ∧
    (mode = customModeId → 8 ∣ fb.customMode.width)

variable {fb fb' : VgaFramebuffer} {svga : QemuVGADevice} {vramBytes mode : Nat}
  {dme : DisplayModeEntry}

/-- The hardware is set as `programmed` says, where it is set at all. -/
theorem beginDisplayMode_programmed (hswitched : fb.customModeSwitched = false)
    (h : fb.programmed mode = some svga) :
    fb.beginDisplayMode mode 0 = (.success, { fb with svga }) := by
  obtain ⟨dme, hdme, rfl⟩ := Option.map_eq_some_iff.mp h
  simp [beginDisplayMode, hdme, hswitched]

theorem getPixelInformation_ok (h : fb.getDisplayMode mode = some dme) : ∃ info,
    fb.getPixelInformation mode 0 0 true = .ok info ∧ info.bytesPerRow = rowBytes dme.width ∧
      info.activeHeight = dme.height := by
  simp [getPixelInformation, h]

/-- `setDisplayMode` takes a mode that is there. -/
theorem getDisplayMode_of_accepted (h : (fb.beginDisplayMode mode 0).1 = .success) :
    ∃ dme, fb.getDisplayMode mode = some dme := by
  cases hdme : fb.getDisplayMode mode with
  | none => simp [beginDisplayMode, hdme] at h
  | some dme => exact ⟨dme, rfl⟩

theorem frameFits_iff_of_entry (h : fb.getDisplayMode mode = some dme) :
    fb.FrameFits vramBytes mode ↔ rowBytes dme.width * dme.height ≤ vramBytes ∧
      rowBytes dme.width = (fb.svga.setMode dme.width dme.height 32).lineLength := by
  obtain ⟨info, hinfo, hrow, hheight⟩ := getPixelInformation_ok h
  have hprogrammed : fb.programmed mode = some (fb.svga.setMode dme.width dme.height 32) := by
    rw [programmed, h]
    rfl
  constructor
  · intro hfits
    have hline := hfits.line info _ hinfo hprogrammed
    have hbytes := hfits.fits info hinfo
    rw [hrow] at hline hbytes
    rw [hheight] at hbytes
    exact ⟨hbytes, hline⟩
  · rintro ⟨hfits, hline⟩
    constructor
    · intro info' hinfo'
      obtain rfl : info = info' := Except.ok.inj (hinfo.symm.trans hinfo')
      rw [hrow, hheight]
      exact hfits
    · intro info' d hinfo' hd
      obtain rfl : info = info' := Except.ok.inj (hinfo.symm.trans hinfo')
      obtain rfl := Option.some.inj (hprogrammed.symm.trans hd)
      rw [hrow]
      exact hline

/-! ## Sizes the driver uses -/

/-- A size that is not empty, within the device's width and the table's heights. -/
structure Sized (dme : DisplayModeEntry) : Prop where
  width_pos : 0 < dme.width
  width_le : dme.width ≤ 2560
  height_pos : 0 < dme.height
  height_le : dme.height ≤ 1770

/-- Rows are rounded up, those on the device are rounded down. -/
theorem rowBytes_eq_lineLength_iff (h : Sized dme) :
    rowBytes dme.width = (svga.setMode dme.width dme.height 32).lineLength ↔ 8 ∣ dme.width := by
  have hwidth := h.width_le
  simp only [rowBytes, QemuVGADevice.lineLength, QemuVGADevice.setMode, u32_eq]
  omega

theorem rowBytes_of_dvd (h : Sized dme) (hdvd : 8 ∣ dme.width) :
    rowBytes dme.width = dme.width * 4 := by
  have hwidth := h.width_le
  rw [rowBytes, u32_eq]
  omega

/-- **One mode.** Whether its frame fits depends on the test of `start` and on whether
anything is rounded. -/
theorem frameFits_iff_holds (h : fb.getDisplayMode mode = some dme) (hsized : Sized dme) :
    fb.FrameFits vramBytes mode ↔ vramBytes ≠ 0 ∧ Holds vramBytes dme ∧ 8 ∣ dme.width := by
  have hpos : 0 < dme.width * dme.height * 4 :=
    Nat.mul_pos (Nat.mul_pos hsized.width_pos hsized.height_pos) (by decide)
  rw [frameFits_iff_of_entry h, rowBytes_eq_lineLength_iff hsized]
  constructor
  · rintro ⟨hfits, hdvd⟩
    rw [rowBytes_of_dvd hsized hdvd, Nat.mul_right_comm] at hfits
    exact ⟨by omega, .inr hfits, hdvd⟩
  · rintro ⟨hknown, hholds, hdvd⟩
    rw [rowBytes_of_dvd hsized hdvd, Nat.mul_right_comm]
    exact ⟨hholds.resolve_left hknown, hdvd⟩

/-- The table has sizes that need no rounding. -/
theorem sized_of_mem_modeList (h : dme ∈ modeList) : Sized dme ∧ 8 ∣ dme.width := by
  have hall : ∀ m ∈ modeList,
      0 < m.width ∧ m.width ≤ 2560 ∧ 0 < m.height ∧ m.height ≤ 1770 ∧ 8 ∣ m.width := by
    decide
  obtain ⟨h₁, h₂, h₃, h₄, hdvd⟩ := hall dme h
  exact ⟨⟨h₁, h₂, h₃, h₄⟩, hdvd⟩

/-- The modes that are there have such sizes. -/
theorem sized_of_getDisplayMode (hcustom : Sized fb.customMode)
    (h : fb.getDisplayMode mode = some dme) : Sized dme := by
  rw [getDisplayMode] at h
  split_ifs at h
  · cases h
    exact hcustom
  · exact (sized_of_mem_modeList (List.mem_of_getElem? h)).1

theorem frameFits_iff_frameOk (hcustom : Sized fb.customMode)
    (h : (fb.beginDisplayMode mode 0).1 = .success) :
    fb.FrameFits vramBytes mode ↔ fb.FrameOk vramBytes mode := by
  obtain ⟨dme, hdme⟩ := getDisplayMode_of_accepted h
  by_cases hmode : mode = customModeId
  · subst hmode
    obtain rfl : fb.customMode = dme := by simpa [getDisplayMode] using hdme
    rw [frameFits_iff_holds hdme hcustom, FrameOk, hdme]
    simp
  · have hmem : dme ∈ modeList := by
      rw [getDisplayMode, if_neg hmode] at hdme
      split_ifs at hdme
      exact List.mem_of_getElem? hdme
    obtain ⟨hsized, hdvd⟩ := sized_of_mem_modeList hmem
    rw [frameFits_iff_holds hdme hsized, FrameOk, hdme]
    simp [hmode, hdvd]

theorem clamp_bounds {low high : Nat} (h : low ≤ high) (n : Nat) :
    low ≤ clamp low high n ∧ clamp low high n ≤ high := by
  unfold clamp
  split_ifs with hlow hhigh
  · exact ⟨Nat.le_refl low, h⟩
  · exact ⟨h, Nat.le_refl high⟩
  · exact ⟨Nat.le_of_not_lt hlow, Nat.le_of_not_lt hhigh⟩

/-- A size that `CustomMode` is about to store is the one that was asked for. -/
theorem requestedSize_of_beginCustomMode {args : CustomModeArgs} {data : CustomModeData}
    {w h : Nat} (hbegin : fb.beginCustomMode args = .ok (data, some (w, h))) :
    (w, h) = fb.requestedSize data := by
  unfold beginCustomMode at hbegin
  split at hbegin
  · cases hbegin
  split at hbegin
  · cases hbegin
  split at hbegin
  · cases hbegin
  split at hbegin
  · cases hbegin
  split at hbegin
  · cases hbegin
  split at hbegin
  · cases hbegin
  dsimp only at hbegin
  split at hbegin
  · cases hbegin
  split at hbegin
  · cases hbegin
  obtain ⟨rfl, hsize⟩ := Prod.mk.inj (Except.ok.inj hbegin)
  exact (Option.some.inj hsize).symm

end VgaFramebuffer

/-! ## Over whole runs -/

namespace CustomRun

open VgaFramebuffer

/-- A caller has sizes of its own to store. -/
def CallerSized : CustomCaller → Prop
  | .storeWidth _ w h => 0 < w ∧ w ≤ 2560 ∧ 0 < h ∧ h ≤ 1770
  | .storeHeight _ h => 0 < h ∧ h ≤ 1770
  | _ => True

/-- The custom mode has a size that the device can have, and it will. -/
structure SizesOk (s : CustomRun) : Prop where
  maxWidth : s.fb.svga.maxWidth = 2560
  maxHeight : s.fb.svga.maxHeight = 1600
  custom : Sized s.fb.customMode
  callers : ∀ i, CallerSized (s.caller i)

variable {s t : CustomRun} {event : CustomEvent}

theorem SizesOk.caller_moved (h : s.SizesOk) (i : Nat) {c : CustomCaller} (hc : CallerSized c) :
    ∀ j, CallerSized (Function.update s.caller i c j) := by
  intro j
  by_cases hj : j = i
  · subst hj
    rwa [Function.update_self]
  · rw [Function.update_of_ne hj]
    exact h.callers j

theorem SizesOk.enterCustomMode {i : Nat} {args : CustomModeArgs} (h : s.SizesOk)
    (ht : s.enterCustomMode i args = some t) : t.SizesOk := by
  rw [CustomRun.enterCustomMode] at ht
  split_ifs at ht
  split at ht
  · cases ht
    exact ⟨h.maxWidth, h.maxHeight, h.custom, h.callers⟩
  · cases ht
    exact ⟨h.maxWidth, h.maxHeight, h.custom, h.caller_moved i trivial⟩
  next data w ht' hbegin =>
    cases ht
    refine ⟨h.maxWidth, h.maxHeight, h.custom, h.caller_moved i ?_⟩
    have hsize := requestedSize_of_beginCustomMode hbegin
    rw [requestedSize, h.maxWidth, h.maxHeight] at hsize
    obtain ⟨rfl, rfl⟩ := Prod.mk.inj hsize
    have hwidth := clamp_bounds (show 800 ≤ 2560 by decide) data.width
    have hheight := clamp_bounds (show 600 ≤ 1600 by decide) data.height
    exact ⟨by omega, hwidth.2, by omega, by omega⟩

theorem SizesOk.resume {i : Nat} (h : s.SizesOk) (ht : s.resume i = some t) : t.SizesOk := by
  have hcaller := h.callers i
  rw [CustomRun.resume] at ht
  split at ht
  · cases ht
  next data w ht' heq =>
    rw [heq] at hcaller
    obtain ⟨hpos, hle, hheight⟩ := hcaller
    cases ht
    exact ⟨h.maxWidth, h.maxHeight, ⟨hpos, hle, h.custom.height_pos, h.custom.height_le⟩,
      h.caller_moved i hheight⟩
  next data ht' heq =>
    rw [heq] at hcaller
    cases ht
    exact ⟨h.maxWidth, h.maxHeight, ⟨h.custom.width_pos, h.custom.width_le, hcaller.1, hcaller.2⟩,
      h.caller_moved i trivial⟩
  · cases ht
    exact ⟨h.maxWidth, h.maxHeight, h.custom, h.caller_moved i trivial⟩
  · split_ifs at ht
    cases ht
    exact ⟨h.maxWidth, h.maxHeight, h.custom, h.caller_moved i trivial⟩
  · cases ht
    exact ⟨h.maxWidth, h.maxHeight, h.custom, h.caller_moved i trivial⟩

/-- Setting a mode keeps the limits and the custom mode. -/
theorem SizesOk.enterDisplayMode {mode depth : Nat} (h : s.SizesOk)
    (ht : s.enterDisplayMode mode depth = some t) : t.SizesOk := by
  have hbegin : (s.fb.beginDisplayMode mode depth).2.svga.maxWidth = 2560 ∧
      (s.fb.beginDisplayMode mode depth).2.svga.maxHeight = 1600 ∧
      (s.fb.beginDisplayMode mode depth).2.customMode = s.fb.customMode := by
    rw [VgaFramebuffer.beginDisplayMode]
    split
    · exact ⟨h.maxWidth, h.maxHeight, rfl⟩
    split
    · exact ⟨h.maxWidth, h.maxHeight, rfl⟩
    split_ifs
    · exact ⟨h.maxWidth, h.maxHeight, rfl⟩
    · exact ⟨h.maxWidth, h.maxHeight, rfl⟩
    · exact ⟨h.maxWidth, h.maxHeight, rfl⟩
  obtain ⟨hwidth, hheight, hcustom⟩ := hbegin
  rw [CustomRun.enterDisplayMode] at ht
  split_ifs at ht
  dsimp only at ht
  split_ifs at ht
  · cases ht
    exact ⟨h.maxWidth, h.maxHeight, h.custom, h.callers⟩
  · cases ht
    refine ⟨hwidth, hheight, ?_, h.callers⟩
    show Sized (s.fb.beginDisplayMode mode depth).2.customMode
    rw [hcustom]
    exact h.custom

theorem SizesOk.restoreAllModes (h : s.SizesOk) :
    SizesOk { s with fb := s.fb.restoreAllModes } := by
  have hsame : s.fb.restoreAllModes.svga = s.fb.svga ∧
      s.fb.restoreAllModes.customMode = s.fb.customMode := by
    rw [VgaFramebuffer.restoreAllModes]
    split_ifs
    · exact ⟨rfl, rfl⟩
    split
    · exact ⟨rfl, rfl⟩
    · exact ⟨rfl, rfl⟩
  obtain ⟨hsvga, hcustom⟩ := hsame
  refine ⟨?_, ?_, ?_, h.callers⟩
  · rw [hsvga]
    exact h.maxWidth
  · rw [hsvga]
    exact h.maxHeight
  · rw [hcustom]
    exact h.custom

/-- **One step** stores sizes that were clamped. -/
theorem SizesOk.step (h : s.SizesOk) (ht : s.step event = some t) : t.SizesOk := by
  have h₀ : SizesOk { s with last := none } := ⟨h.maxWidth, h.maxHeight, h.custom, h.callers⟩
  cases event with
  | customMode i args => exact h₀.enterCustomMode ht
  | resume i => exact h₀.resume ht
  | getDisplayModeCount =>
      cases ht
      exact ⟨h.maxWidth, h.maxHeight, h.custom, h.callers⟩
  | getDisplayModes =>
      cases ht
      exact ⟨h.maxWidth, h.maxHeight, h.custom, h.callers⟩
  | setDisplayMode mode depth => exact h₀.enterDisplayMode ht
  | storeDisplayMode =>
      obtain ⟨mode, -, rfl⟩ := Option.map_eq_some_iff.mp ht
      exact ⟨h.maxWidth, h.maxHeight, h.custom, h.callers⟩
  | setCapturedAttribute value =>
      cases ht
      rw [VgaFramebuffer.setCapturedAttribute]
      split_ifs
      · exact ⟨h.maxWidth, h.maxHeight, h.custom, h.callers⟩
      · exact ⟨h.maxWidth, h.maxHeight, h.custom, h.callers⟩
  | restoreAllModes =>
      rw [CustomRun.step] at ht
      dsimp only at ht
      split_ifs at ht
      cases ht
      have hrestored := h.restoreAllModes
      exact ⟨hrestored.maxWidth, hrestored.maxHeight, hrestored.custom, h.callers⟩

/-- Every mode that `setDisplayMode` takes has a frame that fits exactly under the
condition. -/
def FramesMeet (vramBytes : Nat) (s : CustomRun) : Prop :=
  ∀ mode, (s.fb.beginDisplayMode mode 0).1 = .success →
    (s.fb.FrameFits vramBytes mode ↔ s.fb.FrameOk vramBytes mode)

theorem always_sizesOk (width height bpp vramBytes : Nat) (restoreCall : Bool)
    (events : List CustomEvent) :
    (machine (.started width height bpp) vramBytes restoreCall).Always SizesOk
      (machine (.started width height bpp) vramBytes restoreCall).init events := by
  have hcustom : Sized (.ofSize 800 600) := ⟨by decide, by decide, by decide, by decide⟩
  have hinit : (machine (.started width height bpp) vramBytes restoreCall).init.SizesOk :=
    ⟨rfl, rfl, hcustom, fun _ => trivial⟩
  exact (machine (.started width height bpp) vramBytes restoreCall).always_of_along
    (fun _ _ _ hI _ h => SizesOk.step hI h) hinit (Machine.along_true _ _ events)

/-- **Frames over whole runs**, whatever the VRAM and the custom sizes asked for. -/
theorem always_framesMeet (width height bpp vramBytes : Nat) (restoreCall : Bool)
    (events : List CustomEvent) :
    (machine (.started width height bpp) vramBytes restoreCall).Always (FramesMeet vramBytes)
      (machine (.started width height bpp) vramBytes restoreCall).init events :=
  (always_sizesOk width height bpp vramBytes restoreCall events).imp _
    fun _ hs _ hmode => frameFits_iff_frameOk hs.custom hmode

/-- Every mode that `setDisplayMode` takes has a frame that fits. -/
def FramesFit (vramBytes : Nat) (s : CustomRun) : Prop :=
  ∀ mode, (s.fb.beginDisplayMode mode 0).1 = .success → s.fb.FrameFits vramBytes mode

/-- A request for a custom size, up to the store of that size. -/
def customRequest (width height : Nat) : List CustomEvent :=
  [.customMode 0 ⟨some ⟨1, width, height⟩, 12, true, some 12⟩, .resume 0, .resume 0]

/-- 8 MB are too small for the largest custom mode; and 1001 pixels are rounded. -/
theorem customRequest_not_fitting :
    ¬ (machine (.started 1024 768 32) 0x800000 true).Always (FramesFit 0x800000)
        (machine (.started 1024 768 32) 0x800000 true).init (customRequest 2560 1600) ∧
      ¬ (machine (.started 1024 768 32) 0x1000000 true).Always (FramesFit 0x1000000)
        (machine (.started 1024 768 32) 0x1000000 true).init (customRequest 1001 700) := by
  constructor
  · intro h
    obtain ⟨s, hs, hp⟩ := h.of_any _ (p := fun s : CustomRun =>
      decide (s.fb.customMode = .ofSize 2560 1600) &&
        decide ((s.fb.beginDisplayMode 1 0).1 = .success)) (by decide)
    simp only [Bool.and_eq_true, decide_eq_true_eq] at hp
    obtain ⟨hcustom, haccepted⟩ := hp
    have hentry : s.fb.getDisplayMode 1 = some (.ofSize 2560 1600) := congrArg some hcustom
    exact absurd ((frameFits_iff_of_entry hentry).mp (hs 1 haccepted)).1 (by decide)
  · intro h
    obtain ⟨s, hs, hp⟩ := h.of_any _ (p := fun s : CustomRun =>
      decide (s.fb.customMode = .ofSize 1001 700) &&
        decide ((s.fb.beginDisplayMode 1 0).1 = .success)) (by decide)
    simp only [Bool.and_eq_true, decide_eq_true_eq] at hp
    obtain ⟨hcustom, haccepted⟩ := hp
    have hentry : s.fb.getDisplayMode 1 = some (.ofSize 1001 700) := congrArg some hcustom
    have hsized : Sized (.ofSize 1001 700) := ⟨by decide, by decide, by decide, by decide⟩
    have hline := ((frameFits_iff_of_entry hentry).mp (hs 1 haccepted)).2
    exact absurd ((rowBytes_eq_lineLength_iff hsized).mp hline) (by decide)

end CustomRun

end VMQemuVGA
