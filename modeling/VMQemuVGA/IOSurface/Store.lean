import Mathlib.Logic.Function.Basic
import VMQemuVGA.Lib.IdPool
import VMQemuVGA.IOSurface.Surface

/-! # The surfaces of `VMIOSurfaceManager`

The surfaces live in `OSData` objects, which an array and a dictionary hold. An
object exists as long as one of the two holds it. Objects and buffers are named
by their addresses, and an allocation may return any address that is not in use.
The operations here have found their object already. -/

namespace VMQemuVGA

/-! ## The surfaces -/

structure SurfaceStore where
  /-- `m_next_surface_id` and `m_released_surface_ids` -/
  surfaceIds : IdPool
  surfaces : List Nat
  surfaceMap : Nat → Option Nat
  surfaceCount : Nat
  allocatedMemory : Nat
  /-- the bytes of the objects -/
  records : Nat → VMIOSurface
  /-- the lengths of the buffers in use -/
  buffers : Nat → Option Nat

/-- What `createSurface` gets from the kernel. -/
structure CreateEnv where
  now : Nat
  /-- `IOMalloc` of the record -/
  record : Bool
  /-- `IOBufferMemoryDescriptor::withCapacity` -/
  buffer : Option Nat
  prepared : Bool
  mapped : Bool
  /-- `OSData::withBytes` -/
  data : Option Nat
  /-- `m_surfaces` has room or grows -/
  arrayStored : Bool
  /-- `m_surface_map` has room or grows -/
  mapStored : Bool
  /-- `OSNumber::withNumber` in `releaseSurfaceId` -/
  number : Bool

/-- Everything is granted. -/
def CreateEnv.granted (now buffer data : Nat) : CreateEnv :=
  ⟨now, true, some buffer, true, true, some data, true, true, true⟩

namespace SurfaceStore

/-- `m_total_surface_memory`. -/
def totalMemory : Nat := 512 * 1024 * 1024

def start : SurfaceStore where
  surfaceIds := ⟨1, []⟩
  surfaces := []
  surfaceMap := fun _ => none
  surfaceCount := 0
  allocatedMemory := 0
  records := fun _ => .blank
  buffers := fun _ => none

/-- The object at `a` exists. It is in the dictionary under its own id only. -/
def live (s : SurfaceStore) (a : Nat) : Bool :=
  a ∈ s.surfaces || s.surfaceMap (s.records a).surfaceId = some a

def setRecord (s : SurfaceStore) (a : Nat) (v : VMIOSurface) : SurfaceStore :=
  { s with records := Function.update s.records a v }

/-- `release` of a buffer, where there is one. -/
def freeBuffer (buffers : Nat → Option Nat) : Option Nat → Nat → Option Nat
  | none => buffers
  | some b => Function.update buffers b none

/-- `releaseSurfaceId`; at most 64 ids wait for their next use. -/
def releaseSurfaceId (number : Bool) (id : Nat) (ids : IdPool) : IdPool :=
  if id = 0 then ids
  else if ids.released.length < 64 ∧ number = true then ids.release id
  else ids

/-! ### Creation -/

/-- The checks of `createSurface` before it draws an id. -/
def refusal (yuv : Bool) (d : IOSurfaceDescriptor) (s : SurfaceStore) : Option IOReturn :=
  if d.pixelFormat.validate yuv ≠ .success then some (d.pixelFormat.validate yuv)
  else if d.width = 0 ∨ d.height = 0 ∨ d.width > 16384 ∨ d.height > 16384 then some .badArgument
  else if d.calculateSurfaceSize = 0 then some .badArgument
  else if (s.allocatedMemory + d.calculateSurfaceSize) % u64 > totalMemory then some .noMemory
  else none

/-- What `createSurface` has put together. -/
structure Parts where
  planes : Vector PlaneInfo 4
  buffer : Nat
  data : Nat

/-- The rest of `createSurface` up to its last way out. -/
def build (d : IOSurfaceDescriptor) (env : CreateEnv) : Except IOReturn Parts :=
  if env.record = false then .error .noMemory
  else
    match IOSurfaceDescriptor.setupPlaneInfo d.pixelFormat d.width d.height d.planes with
    | none => .error .unsupported
    | some planes =>
        match env.buffer with
        | none => .error .noMemory
        | some buffer =>
            if env.prepared = false then .error .vmError
            else if env.mapped = false then .error .vmError
            else
              match env.data with
              | none => .error .noMemory
              | some data => .ok ⟨planes, buffer, data⟩

/-- A request passes the checks and gets all it needs. -/
def accepts (yuv : Bool) (d : IOSurfaceDescriptor) (env : CreateEnv) (s : SurfaceStore) : Bool :=
  s.refusal yuv d = none && (build d env).isOk

/-- The id that the next request draws. -/
def nextId (s : SurfaceStore) : Nat := (s.surfaceIds.allocate u32).1

/-- The surface enters the array, the dictionary and the accounts. Both
`setObject`s may fail; nobody looks. -/
def register (id : Nat) (d : IOSurfaceDescriptor) (env : CreateEnv) (p : Parts)
    (s : SurfaceStore) : SurfaceStore :=
  { s with
    surfaces := if env.arrayStored then s.surfaces ++ [p.data] else s.surfaces
    surfaceMap :=
      if env.mapStored then Function.update s.surfaceMap id (some p.data) else s.surfaceMap
    surfaceCount := inc32 s.surfaceCount
    allocatedMemory := (s.allocatedMemory + d.calculateSurfaceSize) % u64
    records := Function.update s.records p.data (.make id env.now p.buffer d p.planes)
    buffers := Function.update s.buffers p.buffer (some d.calculateSurfaceSize) }

def createSurface (yuv : Bool) (d : IOSurfaceDescriptor) (env : CreateEnv) (s : SurfaceStore) :
    Except IOReturn Nat × SurfaceStore :=
  match s.refusal yuv d with
  | some r => (.error r, s)
  | none =>
      let (id, ids) := s.surfaceIds.allocate u32
      match build d env with
      | .error r => (.error r, { s with surfaceIds := releaseSurfaceId env.number id ids })
      | .ok p => (.ok id, { s with surfaceIds := ids }.register id d env p)

/-! ### The other operations, once the object is found -/

/-- The end of `destroySurface`. -/
def remove (number : Bool) (id a : Nat) (s : SurfaceStore) : SurfaceStore :=
  { s with
    surfaceIds := releaseSurfaceId number id s.surfaceIds
    surfaces := s.surfaces.erase a
    surfaceMap := Function.update s.surfaceMap id none
    surfaceCount := dec32 s.surfaceCount
    allocatedMemory := sub64 s.allocatedMemory (s.records a).memorySize
    records := Function.update s.records a { (s.records a).dropRef with memory := none }
    buffers := freeBuffer s.buffers (s.records a).memory }

def destroySurface (number : Bool) (id a : Nat) (s : SurfaceStore) : IOReturn × SurfaceStore :=
  if (s.records a).busy then (.busy, s)
  else if (s.records a).dropRef.refCount > 0 then (.success, s.setRecord a (s.records a).dropRef)
  else (.success, s.remove number id a)

/-- `destroySurface` gets to its end. -/
def destroys (a : Nat) (s : SurfaceStore) : Bool :=
  !(s.records a).busy && (s.records a).dropRef.refCount = 0

def lockSurface (now : Nat) (readOnly : Bool) (a : Nat) (s : SurfaceStore) :
    Except IOReturn Nat × SurfaceStore :=
  match (s.records a).memory, (s.records a).baseAddress with
  | some _, some base =>
      if (s.records a).isLocked = true ∧ readOnly = false then (.error .busy, s)
      else (.ok base, s.setRecord a ((s.records a).lock now))
  | _, _ => (.error .notReady, s)

def unlockSurface (now a : Nat) (s : SurfaceStore) : IOReturn × SurfaceStore :=
  if (s.records a).isLocked = false ∨ (s.records a).lockCount = 0 then (.notOpen, s)
  else (.success, s.setRecord a ((s.records a).unlock now))

/-- A plane's address lies behind the base address; no lock is looked at. -/
def lockSurfacePlane (now plane a : Nat) (s : SurfaceStore) : Except IOReturn Nat × SurfaceStore :=
  if plane ≥ (s.records a).descriptor.planeCount then (.error .badArgument, s)
  else
    match (s.records a).memory, (s.records a).baseAddress with
    | some _, some base => (.ok base, s.setRecord a ((s.records a).lock now))
    | _, _ => (.error .notReady, s)

def unlockSurfacePlane (now plane a : Nat) (s : SurfaceStore) : IOReturn × SurfaceStore :=
  if plane ≥ (s.records a).descriptor.planeCount then (.badArgument, s)
  else s.unlockSurface now a

/-- What ends `convertSurfaceFormat` before it has converted anything. -/
def unconverted (destFormat : PixelFormat) (v w : VMIOSurface) : Option IOReturn :=
  if v.memory = none ∨ w.memory = none ∨ v.baseAddress = none ∨ w.baseAddress = none then
    some .notReady
  else if v.width ≠ w.width ∨ v.height ≠ w.height then some .badArgument
  else if v.descriptor.pixelFormat = destFormat then some .success
  else if v.width = 0 ∨ v.height = 0 then some .badArgument
  else if v.descriptor.pixelFormat.convert destFormat ≠ .success then
    some (v.descriptor.pixelFormat.convert destFormat)
  else none

def convertSurfaceFormat (now : Nat) (destFormat : PixelFormat) (source dest : Nat)
    (s : SurfaceStore) : IOReturn × SurfaceStore :=
  match unconverted destFormat (s.records source) (s.records dest) with
  | some r => (r, s)
  | none =>
      (.success, s.setRecord dest
        { s.records dest with
          descriptor := { (s.records dest).descriptor with pixelFormat := destFormat }
          lastAccessTime := now })

/-! ### Operations on the array -/

/-- The surface `updateSurfaceDescriptor` meets. It takes the objects in the
array for records; `inPlace` says that it finds the records there. -/
def updated (inPlace : Bool) (id : Nat) (s : SurfaceStore) : Option Nat :=
  if inPlace then s.surfaces.find? fun a => (s.records a).surfaceId = id else none

/-- The buffer that `updateSurfaceDescriptor` may release. -/
def replaced (inPlace : Bool) (id : Nat) (s : SurfaceStore) : Option Nat :=
  (s.updated inPlace id).bind fun a => (s.records a).memory

/-- A new buffer in place of the old one; `base_address` stays. -/
def replaceMemory (a : Nat) (d : IOSurfaceDescriptor) (buffer : Option Nat) (s : SurfaceStore) :
    SurfaceStore :=
  let v := (s.records a).describeAs d
  let freed := freeBuffer s.buffers v.memory
  match buffer with
  | none => { s with buffers := freed }.setRecord a { v with memory := none }
  | some b =>
      { s with buffers := Function.update freed b (some (VMIOSurface.newSize d)) }.setRecord a
        { v with memory := some b, memorySize := VMIOSurface.newSize d }

def updateSurfaceDescriptor (inPlace : Bool) (id : Nat) (d : IOSurfaceDescriptor)
    (buffer : Option Nat) (s : SurfaceStore) : IOReturn × SurfaceStore :=
  match s.updated inPlace id with
  | none => (.notFound, s)
  | some a =>
      if VMIOSurface.newSize d = (s.records a).memorySize then
        (.success, s.setRecord a ((s.records a).describeAs d))
      else (.success, s.replaceMemory a d buffer)

/-- The surfaces `evictUnusedSurfaces` may take: not locked, of a priority below
`VM_IOSURFACE_MEMORY_PRIORITY_HIGH`, and idle for what it takes for 60 seconds. -/
def idle (now : Nat) (v : VMIOSurface) : Bool :=
  !v.busy && decide (v.memoryPriority < 2) &&
    decide (sub64 now v.lastAccessTime / 1000000 > 60000000000)

def evictable (now limit : Nat) (s : SurfaceStore) : List Nat :=
  let candidates := s.surfaces.filter fun a => idle now (s.records a)
  if limit = 0 then candidates else candidates.take limit

/-- Evicting takes the bytes off the account; the surface stays. -/
def evictUnusedSurfaces (now limit : Nat) (enough : Bool) (s : SurfaceStore) :
    IOReturn × SurfaceStore :=
  if s.surfaces = [] then (.success, s)
  else if enough = false then (.noMemory, s)
  else
    let evicted := s.evictable now limit
    (.success, { s with
      allocatedMemory :=
        sub64 s.allocatedMemory ((evicted.map fun a => (s.records a).memorySize).sum % u64)
      records := fun a =>
        if a ∈ evicted then { s.records a with lastAccessTime := 0 } else s.records a })

end SurfaceStore

end VMQemuVGA
