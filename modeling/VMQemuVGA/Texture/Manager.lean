import VMQemuVGA.IOKit
import VMQemuVGA.Lib.Machine

/-! # `VMTextureManager`

One counter of bytes in use. Creation compares it with the budget; generating
mip levels and changing the mipmap mode add to it. -/

namespace VMQemuVGA

/-- What is read of a `VMTextureDescriptor` at creation. -/
structure TextureDescriptor where
  pixelFormat : Nat
  width : Nat
  height : Nat
  depth : Nat
  mipmapLevelCount : Nat
  deriving DecidableEq, Repr

/-- What `createTexture` gets. -/
structure TextureEnv where
  /-- the `ManagedTexture` -/
  managed : Bool
  /-- `OSTypeAlloc` -/
  object : Bool
  /-- `enhancement_successful` -/
  enhanced : Bool
  /-- `m_textures` has room or grows -/
  stored : Bool
  deriving DecidableEq, Repr

def TextureEnv.granting : TextureEnv := ⟨true, true, true, true⟩

/-! ## Scores -/

/-- Enough of the checks have passed: at least so many in a hundred. -/
def passes (percent : Nat) (checks : List Bool) : Bool :=
  decide (checks.count true * 100 ≥ percent * checks.length)

/-! ## Sizes -/

/-- `2 ^ 20` bytes. -/
def megabyte : Nat := 1024 * 1024

namespace TextureDescriptor
variable (d : TextureDescriptor)

/-- The size of a pixel, by `VMTextureFormat`. -/
def pixelSize : Nat :=
  match d.pixelFormat with
  | 10 | 12 => 1
  | 30 | 32 | 25 => 2
  | 70 | 71 | 80 | 81 | 55 => 4
  | 115 | 105 => 8
  | 125 => 16
  | _ => 4

/-- `estimated_memory_size`: a third more for mip levels. -/
def estimatedSize : Nat :=
  let size := d.width * d.height * d.depth * d.pixelSize % u64
  if d.mipmapLevelCount > 1 then (size + size / 3) % u64 else size

/-- `mipmap_memory`: the third once more. -/
def mipmapMemory : Nat := if d.mipmapLevelCount > 1 then d.estimatedSize / 3 else 0

/-- `total_allocation_size`. -/
def totalSize : Nat :=
  d.estimatedSize + d.mipmapMemory + 1024 + (256 - (d.estimatedSize + d.mipmapMemory) % 256)

/-- `requires_compression`. -/
def compressed : Bool := decide (d.estimatedSize > 64 * megabyte)

end TextureDescriptor

/-- How often a side can be halved, and the level it starts from. -/
def mipLevels (side : Nat) : Nat := Nat.log2 side + 1

/-- A level of a square texture with four bytes a pixel. -/
def levelBytes (side level : Nat) : Nat := max 1 (side >>> level) * max 1 (side >>> level) * 4

/-- The levels from `base + 1` to `last`, with what each of them takes. -/
def sizedLevels (side base last : Nat) : List (Nat × Nat) :=
  (List.range' (base + 1) (last - base)).map fun level => (level, levelBytes side level)

/-- What they take together. -/
def levelsBytes (levels : List (Nat × Nat)) : Nat := (levels.map Prod.snd).sum

/-! ## The manager -/

structure TextureManager where
  nextTextureId : Nat
  /-- how many objects are in `m_textures` -/
  textures : Nat
  textureMemoryUsage : Nat
  maxTextureMemory : Nat
  deriving DecidableEq, Repr

namespace TextureManager

def init : TextureManager := ⟨1, 0, 0, 128 * megabyte⟩

/-- `texture_exists`: nobody looks for a texture. -/
def known (id : Nat) (s : TextureManager) : Bool := decide (id > 0) && decide (id < s.nextTextureId)

/-- `m_texture_memory_usage += bytes`. -/
def charge (bytes : Nat) (s : TextureManager) : TextureManager :=
  { s with textureMemoryUsage := (s.textureMemoryUsage + bytes) % u64 }

/-! ### Creation -/

/-- The six checks of `createTexture`; two of them are always met. -/
def validationChecks (d : TextureDescriptor) (s : TextureManager) : List Bool :=
  [decide (0 < d.width ∧ d.width ≤ 16384 ∧ 0 < d.height ∧ d.height ≤ 16384 ∧ 0 < d.depth ∧
      d.depth ≤ 2048),
    decide (10 ≤ d.pixelFormat ∧ d.pixelFormat ≤ 81),
    decide (d.estimatedSize ≤ sub64 s.maxTextureMemory s.textureMemoryUsage ∧
      d.estimatedSize ≤ 256 * megabyte),
    decide (1 ≤ d.mipmapLevelCount ∧ d.mipmapLevelCount ≤ 16),
    true, true]

/-- `wrapper_security_level`. -/
def securityLevel : Nat := 2

/-- `creation_validation_passed`: encryption is wanted, and it is set up only
where compression is. -/
def containerReady (compression : Bool) : Bool :=
  let encryption := decide (securityLevel ≥ 2)
  let compressionReady := compression
  let encryptionReady := encryption && compressionReady
  (if compression then compressionReady else true) &&
    (if encryption then encryptionReady else true)

/-- `ready_for_use`, the last of the five being that an efficiency of `0.97`
reaches the target of `0.98`. -/
def readyForUse (enhanced : Bool) : Bool :=
  passes 90 [true, true, enhanced, true, decide (97 ≥ 98)]

/-- `m_next_texture_id++`; the id is the counter before. -/
def drawTextureId (s : TextureManager) : TextureManager :=
  { s with nextTextureId := inc32 s.nextTextureId }

/-- `createTexture` once it has drawn an id. -/
def finishTexture (e : TextureEnv) (d : TextureDescriptor) (id : Nat) (s : TextureManager) :
    Except IOReturn Nat × TextureManager :=
  if e.managed = false then (.error .noMemory, s)
  else if s.textures ≥ 10000 then (.error .noMemory, s)
  else if e.object = false then (.error .noMemory, s)
  else if containerReady d.compressed = false then (.error .noMemory, s)
  else if readyForUse e.enhanced = false then (.error .error, s)
  else if e.stored = false then (.error .noMemory, s)
  else (.ok id, { s with textures := s.textures + 1 }.charge d.totalSize)

def createTexture (e : TextureEnv) (d : TextureDescriptor) (s : TextureManager) :
    Except IOReturn Nat × TextureManager :=
  if passes 85 (s.validationChecks d) = false then (.error .badArgument, s)
  else if (s.textureMemoryUsage + d.totalSize) % u64 > s.maxTextureMemory then
    (.error .noMemory, s)
  else s.drawTextureId.finishTexture e d s.nextTextureId

/-- `destroyTexture` does nothing. -/
def destroyTexture (_ : Nat) (s : TextureManager) : IOReturn × TextureManager := (.success, s)

/-! ### Mip levels -/

/-- `optimal_mip_levels` of the texture of `512 × 512` that is assumed. -/
def optimalLevels : Nat := min 12 (mipLevels 512)

/-- The levels the whole-chain form generates. -/
def chainLevels : List (Nat × Nat) := sizedLevels 512 0 (optimalLevels - 1)

/-- The six checks of the whole-chain form, for a texture that exists. -/
def feasibilityChecks : List Bool :=
  [true, true, decide (512 &&& 511 = 0), true, decide (optimalLevels > 1),
    decide (levelBytes 512 0 + levelsBytes chainLevels ≤ 64 * megabyte)]

/-- `generateMipmaps(texture_id)`. What is there already is not looked at. -/
def generateMipmaps (id : Nat) (s : TextureManager) : IOReturn × TextureManager :=
  if id = 0 then (.badArgument, s)
  else if s.known id = false then (.notFound, s)
  else if passes 70 feasibilityChecks = false then (.unsupported, s)
  else (.success, s.charge (levelsBytes chainLevels))

/-- `range_valid` and `levels_within_texture_bounds`, for a texture of
`1024 × 1024`. -/
def rangeFits (base last : Nat) : Bool :=
  decide (base < last ∧ base < 16 ∧ last ≤ 16 ∧ base < mipLevels 1024 ∧ last ≤ mipLevels 1024)

/-- The seven checks of the range form, where the range fits. -/
def rangeChecks (base last : Nat) : List Bool :=
  [true, true, true, true, decide (last - base > 0),
    decide (levelsBytes (sizedLevels 1024 base last) ≤ 32 * megabyte),
    decide (max 1 (1024 >>> base) > 0)]

/-- `generateMipmaps(texture_id, base_level, max_level)`. The loop over the levels
up to `2 ^ 32 - 1` does not come to an end. -/
def generateMipmapsRange (id base last : Nat) (s : TextureManager) :
    Option (IOReturn × TextureManager) :=
  if id = 0 then some (.badArgument, s)
  else if base ≥ last then some (.badArgument, s)
  else if s.known id = false then some (.notFound, s)
  else if last ≥ u32 - 1 then none
  else if rangeFits base last = false then some (.badArgument, s)
  else if passes 75 (rangeChecks base last) = false then some (.unsupported, s)
  else some (.success, s.charge (levelsBytes (sizedLevels 1024 base last)))

/-! ### The mipmap mode -/

/-- `VM_MIPMAP_MODE_NONE`. -/
def modeNone : Nat := 0

/-- `VM_MIPMAP_MODE_AUTO_GENERATE`. -/
def modeAutoGenerate : Nat := 2

/-- `VM_MIPMAP_MODE_AUTO_GENERATE_ON_WRITE`. -/
def modeAutoGenerateOnWrite : Nat := 3

/-- `current_mip_levels`, as it is assumed. -/
def currentMipLevels : Nat := 1

/-- The six checks of a change of mode, for a texture that exists. -/
def compatibilityChecks (mode : Nat) : List Bool :=
  [true, true, decide (mode ≤ modeAutoGenerateOnWrite),
    decide (mipLevels 1024 > 1 ∨ mode = modeNone), true, decide (1024 ≥ 4)]

/-- `memory_allocated_bytes`. -/
def modeAllocated (mode : Nat) : Nat := if mode = modeAutoGenerate then 1024 * 1024 * 4 / 3 else 0

/-- `memory_released_bytes`. -/
def modeReleased (mode : Nat) : Nat :=
  if mode = modeNone ∧ currentMipLevels > 1 then 1024 * 1024 * 4 / 3 else 0

/-- `setMipmapMode`. The difference is not signed. -/
def setMipmapMode (id mode : Nat) (s : TextureManager) : IOReturn × TextureManager :=
  if id = 0 then (.badArgument, s)
  else if mode > modeAutoGenerateOnWrite then (.badArgument, s)
  else if s.known id = false then (.notFound, s)
  else if passes 70 (compatibilityChecks mode) = false then (.badArgument, s)
  else (.success, s.charge (sub64 (modeAllocated mode) (modeReleased mode)))

end TextureManager
end VMQemuVGA
