import VMQemuVGA.IOKit

/-! # The VGA framebuffer and its modes

`VMQemuVGA` drives a plain VGA device. Its modes are a table; the first row is
kept for the custom mode, whose size is changed while the driver runs. The list
of active modes is a selection of the table. -/

namespace VMQemuVGA

/-! ## The table -/

structure DisplayModeEntry where
  width : Nat
  height : Nat
  flags : Nat
  deriving DecidableEq, Repr

namespace DisplayModeEntry

def size (m : DisplayModeEntry) : Nat × Nat := (m.width, m.height)

/-- A valid and safe mode. -/
def ofSize (width height : Nat) : DisplayModeEntry := ⟨width, height, 0x1 ||| 0x2⟩

/-- `flags & kDisplayModeDefaultFlag`. -/
def isDefault (m : DisplayModeEntry) : Bool := m.flags &&& 0x4 ≠ 0

end DisplayModeEntry

/-- `modeList`. -/
def modeList : List DisplayModeEntry :=
  [.ofSize 800 600, .ofSize 800 600, ⟨1024, 768, 0x1 ||| 0x2 ||| 0x4⟩, .ofSize 1152 720,
    .ofSize 1152 864, .ofSize 1152 900, .ofSize 1280 720, .ofSize 1280 768, .ofSize 1280 800,
    .ofSize 1280 960, .ofSize 1280 1024, .ofSize 1376 1032, .ofSize 1400 1050, .ofSize 1440 900,
    .ofSize 1600 900, .ofSize 1600 1200, .ofSize 1680 1050, .ofSize 1920 1080, .ofSize 1920 1200,
    .ofSize 1920 1440, .ofSize 2048 1152, .ofSize 2048 1536, .ofSize 2360 1770,
    .ofSize 2560 1440, .ofSize 2560 1600]

/-- `CUSTOM_MODE_ID`. -/
def customModeId : Nat := 1

/-- The table from the second row on, each row with its mode id. -/
def fixedModes : List (Nat × DisplayModeEntry) :=
  (modeList.drop 1).zipIdx.map fun p => (p.2 + 2, p.1)

/-! ## State -/

/-- `QemuVGADevice`, with the mode it was last set to. -/
structure QemuVGADevice where
  width : Nat
  height : Nat
  bpp : Nat
  maxWidth : Nat
  maxHeight : Nat
  deriving DecidableEq, Repr

namespace QemuVGADevice

def setMode (d : QemuVGADevice) (width height bpp : Nat) : QemuVGADevice :=
  { d with width, height, bpp }

/-- The size on the screen. -/
def size (d : QemuVGADevice) : Nat × Nat := (d.width, d.height)

end QemuVGADevice

structure CustomModeData where
  flags : Nat
  width : Nat
  height : Nat
  deriving DecidableEq, Repr

/-- `sizeof(CustomModeData)`. -/
def customModeDataSize : Nat := 12

/-- The arguments of `CustomMode`; pointers are there or not. -/
structure CustomModeArgs where
  inData : Option CustomModeData
  inSize : Nat
  outData : Bool
  outSize : Option Nat
  deriving DecidableEq, Repr

/-- A requested length, brought between `low` and the device's limit. -/
def clamp (low high n : Nat) : Nat := if n < low then low else if n > high then high else n

structure VgaFramebuffer where
  svga : QemuVGADevice
  /-- `m_modes`, the `m_num_active_modes` entries in use -/
  modes : List Nat
  displayMode : Nat
  customMode : DisplayModeEntry
  customSwitch : Nat
  customModeSwitched : Bool
  /-- `m_restore_call` was allocated -/
  restoreCall : Bool
  deriving DecidableEq, Repr

namespace VgaFramebuffer

/-- `TryDetectCurrentDisplayMode`: the first row of the size on the screen; if
there is none, the row marked as default. -/
def tryDetectCurrentDisplayMode (svga : QemuVGADevice) (defaultMode : Nat) : Nat :=
  match fixedModes.find? fun p => p.2.size = svga.size with
  | some p => p.1
  | none =>
      match fixedModes.find? fun p => p.2.isDefault with
      | some p => p.1
      | none => defaultMode

/-- The modes that the device and its memory can show; 0 bytes are no limit. -/
def selectModes (svga : QemuVGADevice) (vramBytes : Nat) : List Nat :=
  (modeList.zipIdx.filter fun p =>
    decide (p.1.width ≤ svga.maxWidth) && decide (p.1.height ≤ svga.maxHeight) &&
      (vramBytes == 0 || decide (p.1.width * p.1.height * 4 ≤ vramBytes))).map fun p => p.2 + 1

/-- The framebuffer as `start` leaves it. -/
def start (svga : QemuVGADevice) (vramBytes : Nat) (restoreCall : Bool) : VgaFramebuffer where
  svga := svga
  modes := selectModes svga vramBytes
  displayMode := tryDetectCurrentDisplayMode svga 3
  customMode := .ofSize 800 600
  customSwitch := 0
  customModeSwitched := false
  restoreCall := restoreCall

/-! ## Modes -/

/-- `GetDisplayMode`. -/
def getDisplayMode (fb : VgaFramebuffer) (mode : Nat) : Option DisplayModeEntry :=
  if mode = customModeId then some fb.customMode
  else if 1 ≤ mode ∧ mode ≤ modeList.length then modeList[mode - 1]?
  else none

/-- The width and height of a mode. -/
def sizeOf (fb : VgaFramebuffer) (mode : Nat) : Option (Nat × Nat) :=
  (fb.getDisplayMode mode).map DisplayModeEntry.size

def getDisplayModeCount (fb : VgaFramebuffer) : Nat :=
  if fb.customSwitch ≠ 0 then 1 else fb.modes.length

/-- `getDisplayModes`: what is written into the caller's array. -/
def getDisplayModes (fb : VgaFramebuffer) : List Nat :=
  if fb.customSwitch ≠ 0 then [customModeId] else fb.modes

/-- `setDisplayMode` up to the store of the new mode: an error, or the hardware
is set, unless an earlier switch says not to. -/
def beginDisplayMode (fb : VgaFramebuffer) (mode depth : Nat) : IOReturn × VgaFramebuffer :=
  if depth ≠ 0 then (.badArgument, fb) else
  match fb.getDisplayMode mode with
  | none => (.badArgument, fb)
  | some dme =>
      if fb.customModeSwitched = true then
        -- the hardware is left alone, whatever the size
        if fb.customMode.width = dme.width ∧ fb.customMode.height = dme.height then
          (.success, { fb with customModeSwitched := false })
        else (.success, fb)
      else (.success, { fb with svga := fb.svga.setMode dme.width dme.height 32 })

/-- The store of the new mode, which ends `setDisplayMode`. -/
def storeDisplayMode (fb : VgaFramebuffer) (mode : Nat) : VgaFramebuffer :=
  { fb with displayMode := mode }

/-! ## The custom mode -/

def customSwitchStepSet (fb : VgaFramebuffer) (value : Nat) : VgaFramebuffer :=
  { fb with customSwitch := value }

/-- `setAttribute(kIOCapturedAttribute, value)`. -/
def setCapturedAttribute (fb : VgaFramebuffer) (value : Nat) : VgaFramebuffer :=
  if value = 0 ∧ fb.customSwitch = 1 ∧ fb.displayMode = customModeId then fb.customSwitchStepSet 2
  else fb

/-- A mode that exists and is not of the custom mode's size. -/
def differs (fb : VgaFramebuffer) (mode : Nat) : Bool :=
  match fb.getDisplayMode mode with
  | none => false
  | some dme =>
      decide (dme.width ≠ fb.customMode.width) || decide (dme.height ≠ fb.customMode.height)

/-- `RestoreAllModes`: an active mode of another size is moved to slot 0. Without
one the switch stays where it is. -/
def restoreAllModes (fb : VgaFramebuffer) : VgaFramebuffer :=
  if fb.customSwitch ≠ 2 then fb else
  match fb.modes.findIdx? fb.differs with
  | none => fb
  | some i =>
      { fb with
        modes := (fb.modes.set 0 (fb.modes.getD i 0)).set i (fb.modes.getD 0 0)
        customModeSwitched := true }.customSwitchStepSet 0

/-- The size a request asks for. -/
def requestedSize (fb : VgaFramebuffer) (data : CustomModeData) : Nat × Nat :=
  (clamp 800 fb.svga.maxWidth data.width, clamp 600 fb.svga.maxHeight data.height)

/-- `CustomMode` up to its first store: an error, or the request with the size to
be set; no size if it only asks or asks for what there is. -/
def beginCustomMode (fb : VgaFramebuffer) (args : CustomModeArgs) :
    Except IOReturn (CustomModeData × Option (Nat × Nat)) :=
  if fb.restoreCall = false then .error .unsupported else
  match args.inData with
  | none => .error .badArgument
  | some data =>
      if args.inSize < customModeDataSize then .error .badArgument
      else if args.outData = false then .error .badArgument
      else if args.outSize.getD 0 < customModeDataSize then .error .badArgument else
      match fb.getDisplayMode fb.displayMode with
      | none => .error .unsupported
      | some dme =>
          let (w, h) := fb.requestedSize data
          if data.flags &&& 1 = 0 then .ok (data, none)
          else if w = dme.width ∧ h = dme.height then .ok (data, none)
          else .ok (data, some (w, h))

/-- `customMode.width = w`. -/
def storeCustomWidth (fb : VgaFramebuffer) (w : Nat) : VgaFramebuffer :=
  { fb with customMode := { fb.customMode with width := w } }

/-- `customMode.height = h`. -/
def storeCustomHeight (fb : VgaFramebuffer) (h : Nat) : VgaFramebuffer :=
  { fb with customMode := { fb.customMode with height := h } }

/-- `finish_up` of `CustomMode`. -/
def finishCustomMode (fb : VgaFramebuffer) (data : CustomModeData) :
    IOReturn × Option CustomModeData :=
  match fb.getDisplayMode fb.displayMode with
  | none => (.unsupported, none)
  | some dme => (.success, some ⟨data.flags, dme.width, dme.height⟩)

end VgaFramebuffer
end VMQemuVGA
