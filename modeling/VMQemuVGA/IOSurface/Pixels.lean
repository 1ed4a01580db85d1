import VMQemuVGA.Lib.Bytes
import VMQemuVGA.IOSurface.Store

/-! # The pixels of IOSurfaces

The operations of `VMIOSurfaceManager` that read and write pixels. All surfaces lie
in one memory, and each access is allowed in the memory of the surface it is made
for. `find` stands for `findSurface`; the time stamps the operations leave in the
records are not looked at. -/

namespace VMQemuVGA

namespace VMIOSurface

/-- The memory at `base_address`. -/
def extent (v : VMIOSurface) : Option Extent :=
  v.baseAddress.map fun base => ⟨base, v.memorySize⟩

def bytesPerPixel (v : VMIOSurface) : Nat := v.descriptor.pixelFormat.bytesPerPixel

end VMIOSurface

namespace SurfacePixels

variable (find : Nat → Option VMIOSurface)

/-! ## Filling -/

def fillSurface (id color : Nat) (r : Ram) : IOReturn × Ram :=
  match find id with
  | none => (.notFound, r)
  | some v =>
      match v.extent with
      | none => (.notReady, r)
      | some e =>
          if v.bytesPerPixel = 0 then (.unsupported, r)
          else
            -- the pixels are counted in the surface's own format and written as words
            (.success, loop (v.memorySize / v.bytesPerPixel)
              (fun i => Ram.store e (e.base + 4 * i) (wordBytes color)) r)

/-- The rows of `fillSurfaceRegion`. -/
def fillRows (e : Extent) (start stride width height color : Nat) : Ram → Ram :=
  loop height fun row =>
    loop width fun col =>
      Ram.store e (e.base + start + row * stride % u32 + 4 * col) (wordBytes color)

def fillSurfaceRegion (id x y width height color : Nat) (r : Ram) : IOReturn × Ram :=
  if id = 0 ∨ width = 0 ∨ height = 0 then (.badArgument, r)
  else
    match find id with
    | none => (.notFound, r)
    | some v =>
        match v.extent with
        | none => (.notReady, r)
        | some e =>
            if (x + width) % u32 > v.width ∨ (y + height) % u32 > v.height then (.badArgument, r)
            else if v.bytesPerPixel = 0 then (.unsupported, r)
            else
              let stride := v.width * v.bytesPerPixel % u32
              (.success,
                fillRows e (y * stride % u32 + x * v.bytesPerPixel % u32) stride width height
                  color r)

/-! ## Copying -/

/-- The rows of `copySurfaceRegion`. -/
def copyRows (cpy : Memcpy) (f e : Extent) (dst dstStride src srcStride len height : Nat) :
    Ram → Ram :=
  loop height fun row =>
    Ram.copy cpy f e (f.base + dst + row * dstStride) (e.base + src + row * srcStride) len

def copySurfaceRegion (cpy : Memcpy) (source dest srcX srcY dstX dstY width height : Nat)
    (r : Ram) : IOReturn × Ram :=
  if source = 0 ∨ dest = 0 ∨ width = 0 ∨ height = 0 then (.badArgument, r)
  else
    match find source, find dest with
    | some v, some w =>
        match v.extent, w.extent with
        | some e, some f =>
            if (srcX + width) % u32 > v.width ∨ (srcY + height) % u32 > v.height ∨
                (dstX + width) % u32 > w.width ∨ (dstY + height) % u32 > w.height then
              (.badArgument, r)
            else if v.descriptor.pixelFormat ≠ w.descriptor.pixelFormat then (.badArgument, r)
            else
              let bpp := v.bytesPerPixel
              let sourceStride := v.width * bpp % u32
              let destStride := w.width * bpp % u32
              (.success,
                copyRows cpy f e (dstY * destStride % u32 + dstX * bpp % u32) destStride
                  (srcY * sourceStride % u32 + srcX * bpp % u32) sourceStride
                  (width * bpp % u32) height r)
        | _, _ => (.notReady, r)
    | _, _ => (.notFound, r)

/-! ## Converting -/

/-- A word with two of its bytes exchanged: blue and red. -/
def swapWord (word : Nat) : Nat :=
  let b := (word >>> 24) &&& 0xFF
  let g := (word >>> 16) &&& 0xFF
  let r := (word >>> 8) &&& 0xFF
  let a := word &&& 0xFF
  (r <<< 24) ||| (g <<< 16) ||| (b <<< 8) ||| a

/-- The loop of the conversions that exchange blue and red. -/
def swapWords (e f : Extent) (pixelCount : Nat) : Ram → Ram :=
  loop pixelCount fun i t =>
    (t.access e (e.base + 4 * i) 4).store f (f.base + 4 * i)
      (wordBytes (swapWord (wordAt t.bytes (e.base + 4 * i))))

def convertBGRAtoRGBA (e f : Extent) (pixelCount : Nat) : Ram → Ram := swapWords e f pixelCount

def convertRGBAtoBGRA (e f : Extent) (pixelCount : Nat) : Ram → Ram := swapWords e f pixelCount

/-- `dest[i * 3 + k]`; the index is a `uint32_t`. -/
def triple (i k : Nat) : Nat := (i * 3 + k) % u32

def convertBGRAtoRGB24 (e f : Extent) (pixelCount : Nat) : Ram → Ram :=
  loop pixelCount fun i t =>
    let bgra := wordAt t.bytes (e.base + 4 * i)
    (((t.access e (e.base + 4 * i) 4).store f (f.base + triple i 0)
      [UInt8.ofNat (bgra >>> 8)]).store f (f.base + triple i 1)
      [UInt8.ofNat (bgra >>> 16)]).store f (f.base + triple i 2) [UInt8.ofNat (bgra >>> 24)]

def convertRGB24toBGRA (e f : Extent) (pixelCount : Nat) : Ram → Ram :=
  loop pixelCount fun i t =>
    let r := (t.bytes (e.base + triple i 0)).toNat
    let g := (t.bytes (e.base + triple i 1)).toNat
    let b := (t.bytes (e.base + triple i 2)).toNat
    (((t.access e (e.base + triple i 0) 1).access e (e.base + triple i 1) 1).access
      e (e.base + triple i 2) 1).store f (f.base + 4 * i)
      (wordBytes ((b <<< 24) ||| (g <<< 16) ||| (r <<< 8) ||| 0xFF))

def convertBGRAtoLuminance (e f : Extent) (pixelCount : Nat) : Ram → Ram :=
  loop pixelCount fun i t =>
    let bgra := wordAt t.bytes (e.base + 4 * i)
    let luminance :=
      (299 * ((bgra >>> 8) &&& 0xFF) + 587 * ((bgra >>> 16) &&& 0xFF) +
        114 * ((bgra >>> 24) &&& 0xFF)) / 1000
    (t.access e (e.base + 4 * i) 4).store f (f.base + i) [UInt8.ofNat luminance]

def performPixelFormatConversion (cpy : Memcpy) (e : Extent) (sourceFormat : PixelFormat)
    (f : Extent) (destFormat : PixelFormat) (width height : Nat) (r : Ram) : IOReturn × Ram :=
  let pixelCount := width * height % u32
  if width = 0 ∨ height = 0 then (.badArgument, r)
  else if sourceFormat = destFormat then
    if sourceFormat.bytesPerPixel = 0 then (.unsupported, r)
    else
      (.success, r.copy cpy f e f.base e.base (width * height * sourceFormat.bytesPerPixel % u32))
  else if sourceFormat = .bgra32 ∧ destFormat = .rgba32 then
    (.success, convertBGRAtoRGBA e f pixelCount r)
  else if sourceFormat = .rgba32 ∧ destFormat = .bgra32 then
    (.success, convertRGBAtoBGRA e f pixelCount r)
  else if sourceFormat = .bgra32 ∧ destFormat = .rgb then
    (.success, convertBGRAtoRGB24 e f pixelCount r)
  else if sourceFormat = .rgb ∧ destFormat = .bgra32 then
    (.success, convertRGB24toBGRA e f pixelCount r)
  else if sourceFormat = .bgra32 ∧ destFormat = .l8 then
    (.success, convertBGRAtoLuminance e f pixelCount r)
  else (.unsupported, r)

/-- `yuv` is `m_supports_yuv_surfaces`. -/
def convertSurfaceFormat (yuv : Bool) (cpy : Memcpy) (source dest : Nat)
    (destFormat : PixelFormat) (r : Ram) : IOReturn × Ram :=
  if source = 0 ∨ dest = 0 then (.badArgument, r)
  else if source = dest then (.success, r)
  else if destFormat.validate yuv ≠ .success then (destFormat.validate yuv, r)
  else
    match find source, find dest with
    | some v, some w =>
        match v.memory, w.memory, v.extent, w.extent with
        | some _, some _, some e, some f =>
            if v.width ≠ w.width ∨ v.height ≠ w.height then (.badArgument, r)
            else if v.descriptor.pixelFormat = destFormat then (.success, r)
            else
              performPixelFormatConversion cpy e v.descriptor.pixelFormat f destFormat
                v.width v.height r
        | _, _, _, _ => (.notReady, r)
    | _, _ => (.notFound, r)

end SurfacePixels

end VMQemuVGA
