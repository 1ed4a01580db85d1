import VMQemuVGA.IOKit

/-! # IOSurfaces: formats, descriptors and records

What `VMIOSurfaceManager` computes from a descriptor alone: the bytes a surface
needs, the planes it is laid out in, and the record it is kept in. -/

namespace VMQemuVGA

/-! ## Pixel formats -/

/-- `VMIOSurfacePixelFormat`, as far as the code tells the formats apart. -/
inductive PixelFormat where
  | argb32
  | bgra32
  | rgba32
  | abgr32
  | rgb24
  | rgb565
  | yuv420
  | nv12
  | p010
  /-- `'RGB '` -/
  | rgb
  /-- `'L00'` -/
  | l8
  | other (code : Nat)
  deriving DecidableEq, Repr

namespace PixelFormat

/-- `getBytesPerPixel`. -/
def bytesPerPixel : PixelFormat → Nat
  | argb32 | bgra32 | rgba32 | abgr32 => 4
  | rgb24 => 3
  | rgb565 | p010 => 2
  | yuv420 | nv12 => 1
  | rgb | l8 | other _ => 0

/-- `getPlaneCount`. -/
def planeCount : PixelFormat → Nat
  | nv12 | p010 => 2
  | yuv420 => 3
  | _ => 1

/-- `validatePixelFormat`; `yuv` is `m_supports_yuv_surfaces`. -/
def validate (yuv : Bool) : PixelFormat → IOReturn
  | argb32 | bgra32 | rgba32 | abgr32 | rgb24 | rgb565 => .success
  | yuv420 | nv12 | p010 => if yuv then .success else .unsupported
  | rgb | l8 | other _ => .unsupported

/-- `performPixelFormatConversion` on buffers that are there and a size that is
not 0: which pairs of formats it knows. -/
def convert (source dest : PixelFormat) : IOReturn :=
  if source = dest then (if source.bytesPerPixel = 0 then .unsupported else .success)
  else if source = bgra32 ∧ dest = rgba32 then .success
  else if source = rgba32 ∧ dest = bgra32 then .success
  else if source = bgra32 ∧ dest = rgb then .success
  else if source = rgb ∧ dest = bgra32 then .success
  else if source = bgra32 ∧ dest = l8 then .success
  else .unsupported

/-- The formats with one 32-bit element for each pixel. -/
def isRgb32 (f : PixelFormat) : Bool := f = argb32 || f = bgra32 || f = rgba32 || f = abgr32

end PixelFormat

/-! ## Descriptors -/

structure PlaneInfo where
  width : Nat
  height : Nat
  bytesPerElement : Nat
  bytesPerRow : Nat
  elementWidth : Nat
  elementHeight : Nat
  offset : Nat
  size : Nat
  deriving DecidableEq, Repr

def PlaneInfo.zero : PlaneInfo := ⟨0, 0, 0, 0, 0, 0, 0, 0⟩

/-- `VMIOSurfaceDescriptor`. -/
structure IOSurfaceDescriptor where
  width : Nat
  height : Nat
  pixelFormat : PixelFormat
  bytesPerRow : Nat
  planeCount : Nat
  planes : Vector PlaneInfo 4
  allocSize : Nat
  usageFlags : Nat
  depth : Nat
  format : Nat
  usage : Nat
  flags : Nat
  deriving DecidableEq, Repr

namespace IOSurfaceDescriptor

/-- `bzero`. -/
def zero : IOSurfaceDescriptor where
  width := 0
  height := 0
  pixelFormat := .other 0
  bytesPerRow := 0
  planeCount := 0
  planes := Vector.replicate 4 .zero
  allocSize := 0
  usageFlags := 0
  depth := 0
  format := 0
  usage := 0
  flags := 0

/-- A request that names a format and a size. -/
def plain (format : PixelFormat) (width height : Nat) : IOSurfaceDescriptor :=
  { zero with width, height, pixelFormat := format }

/-- `(n + 4095) & ~4095` on a `uint32_t`. -/
def pageAlign (n : Nat) : Nat := (n + 4095) % u32 / 4096 * 4096

/-- `total_size` in `calculateSurfaceSize`. -/
def totalSize (d : IOSurfaceDescriptor) : Nat :=
  if d.pixelFormat.planeCount = 1 then
    (if d.bytesPerRow > 0 then d.bytesPerRow
      else d.width * d.pixelFormat.bytesPerPixel % u32) * d.height % u32
  else ((d.planes.toList.take d.pixelFormat.planeCount).map PlaneInfo.size).sum % u32

/-- `calculateSurfaceSize`. -/
def calculateSurfaceSize (d : IOSurfaceDescriptor) : Nat :=
  if d.pixelFormat.bytesPerPixel = 0 then 0 else pageAlign d.totalSize

/-- The one plane of the 32-bit formats. -/
def rgbPlane (width height : Nat) : PlaneInfo where
  width := width
  height := height
  bytesPerElement := 4
  bytesPerRow := width * 4 % u32
  elementWidth := 1
  elementHeight := 1
  offset := 0
  size := width * 4 % u32 * height % u32

def lumaPlane (width height : Nat) : PlaneInfo where
  width := width
  height := height
  bytesPerElement := 1
  bytesPerRow := width
  elementWidth := 1
  elementHeight := 1
  offset := 0
  size := width * height % u32

def chromaPlane (width height : Nat) : PlaneInfo where
  width := width / 2
  height := height / 2
  bytesPerElement := 2
  bytesPerRow := width
  elementWidth := 2
  elementHeight := 2
  offset := (lumaPlane width height).size
  size := width * height % u32 / 2

/-- `setupPlaneInfo`: the planes it writes, where it knows the format. -/
def setupPlaneInfo (format : PixelFormat) (width height : Nat) (planes : Vector PlaneInfo 4) :
    Option (Vector PlaneInfo 4) :=
  if format.isRgb32 then some (planes.set 0 (rgbPlane width height))
  else if format = .nv12 then
    some ((planes.set 0 (lumaPlane width height)).set 1 (chromaPlane width height))
  else none

/-- What `getSurfaceDescriptor` computes from the descriptor a surface was made
with, when it does not find it in its cache. -/
def describe (yuv : Bool) (own : IOSurfaceDescriptor) : IOSurfaceDescriptor :=
  let width := if own.width > 0 then own.width else 1920
  let height := if own.height > 0 then own.height else 1080
  let pixelFormat :=
    if own.pixelFormat ≠ .other 0 ∧ own.pixelFormat.validate yuv = .success then own.pixelFormat
    else .bgra32
  let d := { zero with width, height, pixelFormat,
                       bytesPerRow := width * pixelFormat.bytesPerPixel % u32 }
  let d := { d with allocSize := d.calculateSurfaceSize,
                    planeCount := pixelFormat.planeCount,
                    usageFlags := own.usageFlags }
  if d.planeCount > 1 then
    match setupPlaneInfo pixelFormat width height d.planes with
    | some planes => { d with planes }
    | none => { d with planeCount := 1 }
  else d

/-- The planes a descriptor says it has. -/
def layout (d : IOSurfaceDescriptor) : List PlaneInfo := d.planes.toList.take d.planeCount

end IOSurfaceDescriptor

/-! ## Records -/

/-- `VMIOSurface`. Buffers are named by their base address. -/
structure VMIOSurface where
  surfaceId : Nat
  descriptor : IOSurfaceDescriptor
  memory : Option Nat
  baseAddress : Option Nat
  lockCount : Nat
  refCount : Nat
  usage : Nat
  format : Nat
  flags : Nat
  depth : Nat
  isLocked : Bool
  lastAccessTime : Nat
  width : Nat
  height : Nat
  memorySize : Nat
  memoryPriority : Nat
  deriving DecidableEq, Repr

namespace VMIOSurface

/-- A record as `bzero` leaves it. -/
def blank : VMIOSurface where
  surfaceId := 0
  descriptor := .zero
  memory := none
  baseAddress := none
  lockCount := 0
  refCount := 0
  usage := 0
  format := 0
  flags := 0
  depth := 0
  isLocked := false
  lastAccessTime := 0
  width := 0
  height := 0
  memorySize := 0
  memoryPriority := 0

/-- The record `createSurface` fills in, with `planes` from `setupPlaneInfo`. -/
def make (id now buffer : Nat) (d : IOSurfaceDescriptor) (planes : Vector PlaneInfo 4) :
    VMIOSurface :=
  { blank with
    surfaceId := id
    descriptor := { d with planes, planeCount := d.pixelFormat.planeCount }
    memory := some buffer
    baseAddress := some buffer
    refCount := 1
    lastAccessTime := now
    width := d.width
    height := d.height
    memorySize := d.calculateSurfaceSize
    memoryPriority := 1 }

/-- `is_locked || lock_count > 0`. -/
def busy (v : VMIOSurface) : Bool := v.isLocked || v.lockCount > 0

/-- What every kind of lock does to the record. -/
def lock (v : VMIOSurface) (now : Nat) : VMIOSurface :=
  { v with lockCount := inc32 v.lockCount, isLocked := true, lastAccessTime := now }

/-- What every kind of unlock does to a record with a lock. -/
def unlock (v : VMIOSurface) (now : Nat) : VMIOSurface :=
  { v with
    lockCount := v.lockCount - 1
    isLocked := if v.lockCount - 1 = 0 then false else v.isLocked
    lastAccessTime := now }

/-- `--ref_count`. -/
def dropRef (v : VMIOSurface) : VMIOSurface := { v with refCount := dec32 v.refCount }

/-- The size `updateSurfaceDescriptor` asks for. -/
def newSize (d : IOSurfaceDescriptor) : Nat := d.width * d.height * d.depth * 4 % u32

/-- The fields `updateSurfaceDescriptor` copies. -/
def describeAs (v : VMIOSurface) (d : IOSurfaceDescriptor) : VMIOSurface :=
  { v with width := d.width, height := d.height, depth := d.depth, format := d.format,
           usage := d.usage, flags := d.flags }

end VMIOSurface

end VMQemuVGA
