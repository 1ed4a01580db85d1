import VMQemuVGA.Lib.Pool
import VMQemuVGA.Gpu.Device

/-! # The `VMQemuVGAAccelerator` object

Its context and surface pools, the counters behind their ids, its memory
accounts, and the operations on them. The accelerator is started on a device,
so its texture manager and command pool exist. -/

namespace VMQemuVGA

/-! ## Records -/

/-- `AccelContext`. The `active` flag only shows in log lines. -/
structure AccelContext where
  contextId : Nat
  gpuContextId : Nat
  /-- `command_buffer` is there -/
  commandBuffer : Bool
  boundSurfaceIds : List Nat
  boundSurfaceCapacity : Nat
  /-- what `createRenderContext` returned for it; the code keeps no such copy -/
  created : Nat
  deriving DecidableEq, Repr

/-- What is read of a `VM3DSurfaceInfo`. -/
structure SurfaceInfo where
  format : Nat
  width : Nat
  height : Nat
  depth : Nat
  deriving DecidableEq, Repr

/-- `AccelSurface`. -/
structure AccelSurface where
  surfaceId : Nat
  gpuResourceId : Nat
  info : SurfaceInfo
  backingMemory : Option MemoryDescriptor
  isRenderTarget : Bool
  deriving DecidableEq, Repr

structure Accelerator where
  gpu : Gpu
  contexts : Pool AccelContext
  surfaces : Pool AccelSurface
  nextContextId : Nat
  nextSurfaceId : Nat
  memoryUsed : Nat
  memoryAllocated : Nat
  /-- the function-static `gc_generation` of `garbageCollectTextures` -/
  gcGeneration : Nat

/-! ## Surroundings -/

/-- The places where the accelerator itself allocates. -/
inductive AccelSite where
  | context
  | contextPool
  | surface
  | surfacePool
  | boundSurfaces
  | commandBuffer
  | renderState
  deriving DecidableEq, Repr

/-- What the surroundings answer during one call on the accelerator. -/
structure AccelEnv extends Env where
  accelAlloc : AccelSite → Bool
  /-- what the framebuffer path of a call makes of its result, if anything -/
  framebuffer : Option IOReturn
  /-- some texture unit of the context had no texture bound -/
  unitUnbound : Bool

/-- Nothing fails. -/
def AccelEnv.accepting : AccelEnv where
  toEnv := .accepting
  accelAlloc := fun _ => true
  framebuffer := some .success
  unitUnbound := true

/-- The same surroundings with another device and host. -/
def AccelEnv.mapEnv (f : Env → Env) (e : AccelEnv) : AccelEnv := { e with toEnv := f e.toEnv }

/-! ## Pure parts -/

/-- `VM3D_FORMAT_R5G6B5`. -/
def formatR5G6B5 : Nat := 23

/-- `VIRTIO_GPU_RESOURCE_TARGET_2D`. -/
def resourceTarget2D : Nat := 1

/-- `calculateSurfaceSize`, on 32 bits. -/
def calculateSurfaceSize (info : SurfaceInfo) : Nat :=
  let bpp := if info.format = formatR5G6B5 then 2 else 4
  info.width * info.height * bpp % u32

/-- Size of the surface by `calculateSurfaceSize`. -/
def AccelSurface.size (x : AccelSurface) : Nat := calculateSurfaceSize x.info

/-- Software presentation leaves no more than this mark. -/
def AccelSurface.markPresented (x : AccelSurface) : AccelSurface :=
  { x with isRenderTarget := true }

/-- The array `poolGrowContext` or `poolGrowSurface` moves to, if it gets one.
Doubling `2 ^ 31` leaves nothing to allocate. -/
def grownCapacity (e : AccelEnv) (site : AccelSite) (initial capacity : Nat) : Option Nat :=
  let newCap := if capacity = 0 then initial else capacity * 2 % u32
  if newCap = 0 ∨ e.accelAlloc site = false then none else some newCap

namespace AccelContext

/-- A context as `create3DContext` fills it in. -/
def fresh (contextId gpuContextId : Nat) : AccelContext where
  contextId := contextId
  gpuContextId := gpuContextId
  commandBuffer := false
  boundSurfaceIds := []
  boundSurfaceCapacity := 0
  created := gpuContextId

/-- `contextBindSurface`. -/
def bindSurface (e : AccelEnv) (id : Nat) (c : AccelContext) : AccelContext :=
  if id ∈ c.boundSurfaceIds then c
  else if c.boundSurfaceIds.length = c.boundSurfaceCapacity then
    if e.accelAlloc .boundSurfaces = false then c else
    { c with
      boundSurfaceIds := c.boundSurfaceIds ++ [id]
      boundSurfaceCapacity := if c.boundSurfaceCapacity = 0 then 8 else c.boundSurfaceCapacity * 2 }
  else { c with boundSurfaceIds := c.boundSurfaceIds ++ [id] }

/-- `contextUnbindSurface`: the last id moves into the place of `id`. -/
def unbindSurface (id : Nat) (c : AccelContext) : AccelContext :=
  match c.boundSurfaceIds.idxOf? id, c.boundSurfaceIds.getLast? with
  | some i, some last => { c with boundSurfaceIds := (c.boundSurfaceIds.set i last).dropLast }
  | _, _ => c

/-- `++context->gpu_context_id`. -/
def bumpGpuContextId (c : AccelContext) : AccelContext :=
  { c with gpuContextId := inc32 c.gpuContextId }

/-- The render state of a framebuffer pass is kept in the command buffer. -/
def keepRenderState (c : AccelContext) : AccelContext := { c with commandBuffer := true }

/-- Phase 3 of `garbageCollectTextures`: forget surfaces that are gone. -/
def keepBound (surfaces : Pool AccelSurface) (c : AccelContext) : AccelContext :=
  { c with
    boundSurfaceIds := c.boundSurfaceIds.filter fun id =>
      (surfaces.find? fun x => x.surfaceId == id).any fun x => x.backingMemory.isSome }

end AccelContext

namespace Gpu

/-- `updateDisplay`: transfer and flush, under no context. -/
def updateDisplay (e : Env) (g : Gpu) (scanout id width height : Nat) : IOReturn × Gpu :=
  if scanout ≥ g.maxScanouts then (.badArgument, g)
  else if (g.findResource id).isNone then (.notFound, g)
  else if width = 0 ∨ height = 0 then (.badArgument, g) else
  let (ret, g₁) := g.submitCommand e (.transferToHost2D id)
  if ret ≠ .success then (ret, g₁) else g₁.submitCommand e (.resourceFlush id)

end Gpu

/-! ## Operations -/

namespace Accelerator

/-- The object as `init` and `start` leave it, with pools of 16 and 64 slots. -/
def init (supports3D : Bool) (maxScanouts : Nat) : Accelerator where
  gpu := .init supports3D maxScanouts
  contexts := .empty 16
  surfaces := .empty 64
  nextContextId := 1
  nextSurfaceId := 1
  memoryUsed := 0
  memoryAllocated := 0
  gcGeneration := 0

def withGpu (s : Accelerator) (g : Gpu) : Accelerator := { s with gpu := g }

def findContext (s : Accelerator) (id : Nat) : Option AccelContext :=
  s.contexts.find? fun c => c.contextId == id

def findSurface (s : Accelerator) (id : Nat) : Option AccelSurface :=
  s.surfaces.find? fun x => x.surfaceId == id

/-- Change a context that `findContext` found. -/
def modifyContext (s : Accelerator) (id : Nat) (f : AccelContext → AccelContext) : Accelerator :=
  { s with contexts := s.contexts.modify (fun c => c.contextId == id) f }

/-- Change a surface that `findSurface` found. -/
def modifySurface (s : Accelerator) (id : Nat) (f : AccelSurface → AccelSurface) : Accelerator :=
  { s with surfaces := s.surfaces.modify (fun x => x.surfaceId == id) f }

/-- `poolRemoveSurface` of the surface that `findSurface` found. -/
def removeSurface (s : Accelerator) (id : Nat) : Accelerator :=
  { s with surfaces := s.surfaces.remove fun x => x.surfaceId == id }

/-- What `poolGrowContext` gets. -/
def grownContexts (e : AccelEnv) (s : Accelerator) : Option Nat :=
  grownCapacity e .contextPool 16 s.contexts.slots.length

/-- What `poolGrowSurface` gets. -/
def grownSurfaces (e : AccelEnv) (s : Accelerator) : Option Nat :=
  grownCapacity e .surfacePool 64 s.surfaces.slots.length

/-- `++m_next_surface_id`. -/
def drawSurfaceId (s : Accelerator) : Accelerator :=
  { s with nextSurfaceId := inc32 s.nextSurfaceId }

/-! ### Contexts -/

/-- `create3DContext`; the id it hands out is the counter afterwards. -/
def create3DContext (e : AccelEnv) (s : Accelerator) : IOReturn × Accelerator :=
  let (ret, g) := s.gpu.createRenderContext e.toEnv
  let gpuContextId := g.nextContextId
  if ret ≠ .success then (ret, s.withGpu g)
  else if e.accelAlloc .context = false then
    (.noMemory, s.withGpu (g.destroyRenderContext e.toEnv gpuContextId).2)
  else
    let id := inc32 s.nextContextId
    match s.contexts.add (.fresh id gpuContextId) (s.grownContexts e) with
    | none =>
        (.noMemory, { s with
          gpu := (g.destroyRenderContext e.toEnv gpuContextId).2
          nextContextId := id })
    | some pool => (.success, { s with gpu := g, contexts := pool, nextContextId := id })

/-- `destroyContextInternal`: the code of `destroyRenderContext` is not looked
at, and the surfaces of the context stay in the pool. -/
def destroyContextInternal (e : AccelEnv) (s : Accelerator) (ctx : Nat) : IOReturn × Accelerator :=
  match s.findContext ctx with
  | none => (.notFound, s)
  | some c =>
      (.success, { s with
        gpu := (s.gpu.destroyRenderContext e.toEnv c.gpuContextId).2
        contexts := s.contexts.remove fun c => c.contextId == ctx })

def destroy3DContext (e : AccelEnv) (s : Accelerator) (ctx : Nat) : IOReturn × Accelerator :=
  s.destroyContextInternal e ctx

/-- `submit3DCommands`; a buffer is its length. -/
def submit3DCommands (e : AccelEnv) (s : Accelerator) (ctx : Nat) (commands : Option Nat) :
    IOReturn × Accelerator :=
  if commands.isNone then (.badArgument, s) else
  match s.findContext ctx with
  | none => (.notFound, s)
  | some c =>
      let (ret, g) := s.gpu.executeCommands e.toEnv c.gpuContextId commands
      (ret, s.withGpu g)

/-! ### Surfaces -/

/-- A surface is entered into the pool and bound to its context. -/
def enterSurface (e : AccelEnv) (s : Accelerator) (ctx : Nat) (x : AccelSurface) :
    Option Accelerator :=
  (s.surfaces.add x (s.grownSurfaces e)).map fun pool =>
    { s with surfaces := pool }.modifyContext ctx (AccelContext.bindSurface e x.surfaceId)

/-- `m_memory_used += size`. -/
def charge (s : Accelerator) (size : Nat) : Accelerator :=
  { s with memoryUsed := (s.memoryUsed + size) % 2 ^ 64 }

/-- A failed `create3DSurface` gives its resource back. -/
def giveBack (e : AccelEnv) (s : Accelerator) (resource : Nat) : Accelerator :=
  s.withGpu (s.gpu.deallocateResource e.toEnv resource).2

/-- `create3DSurface` once its resource is allocated. -/
def backSurface (e : AccelEnv) (s : Accelerator) (ctx resource : Nat) (info : SurfaceInfo) :
    IOReturn × Accelerator :=
  if e.accelAlloc .surface = false then (.noMemory, s.giveBack e resource) else
  let s₁ := s.drawSurfaceId
  match e.withCapacity (calculateSurfaceSize info) with
  | none => (.noMemory, s₁.giveBack e resource)
  | some d =>
      match s₁.enterSurface e ctx ⟨s₁.nextSurfaceId, resource, info, some d, false⟩ with
      | none => (.noMemory, s₁.giveBack e resource)
      | some s₂ => (.success, s₂.charge (calculateSurfaceSize info))

/-- `create3DSurface`; the id it hands out is the counter afterwards. -/
def create3DSurface (e : AccelEnv) (s : Accelerator) (ctx : Nat) (info : SurfaceInfo) :
    IOReturn × Accelerator :=
  match s.findContext ctx with
  | none => (.notFound, s)
  | some _ =>
      let (ret, g) := s.gpu.allocateResource3D e.toEnv resourceTarget2D info.format info.width
        info.height 1
      if ret ≠ .success then (ret, s.withGpu g)
      else (s.withGpu g).backSurface e ctx g.nextResourceId info

/-- `destroy3DSurface`: of the resource there is only a log line. -/
def destroy3DSurface (s : Accelerator) (ctx surface : Nat) : IOReturn × Accelerator :=
  match s.findContext ctx, s.findSurface surface with
  | some _, some _ =>
      (.success,
        (s.modifyContext ctx (AccelContext.unbindSurface surface)).removeSurface surface)
  | _, _ => (.badArgument, s)

/-- `createSurfaceInternal`: a surface without a resource, and not charged. -/
def createSurfaceInternal (e : AccelEnv) (s : Accelerator) (ctx : Nat) (info : SurfaceInfo) :
    IOReturn × Accelerator :=
  match s.findContext ctx with
  | none => (.badArgument, s)
  | some _ =>
      if e.accelAlloc .surface = false then (.noMemory, s) else
      let s₁ := s.drawSurfaceId
      match e.withCapacity (info.width * info.height * info.depth * 4 % u32) with
      | none => (.noMemory, s₁)
      | some d =>
          match s₁.enterSurface e ctx ⟨s₁.nextSurfaceId, 0, info, some d, false⟩ with
          | none => (.noMemory, s₁)
          | some s₂ => (.success, s₂)

def destroySurfaceInternal (s : Accelerator) (ctx surface : Nat) : IOReturn × Accelerator :=
  match s.findSurface surface with
  | none => (.badArgument, s)
  | some _ =>
      (.success,
        (s.modifyContext ctx (AccelContext.unbindSurface surface)).removeSurface surface)

/-- The dimensions `createFramebuffer` takes. -/
def framebufferFits (width height : Nat) : Bool :=
  decide (width ≠ 0) && decide (height ≠ 0) && decide (width ≤ 8192) && decide (height ≤ 8192)

/-- The depth part of `createFramebuffer`. Where it fails, the colour surface
`color` is taken back, if there is one; an id of `0` says there is none. -/
def addDepthSurface (e : AccelEnv) (s : Accelerator) (ctx color : Nat) (info : SurfaceInfo) :
    IOReturn × Accelerator :=
  if info.format = 0 then (.success, s) else
  let (ret, s₁) := s.createSurfaceInternal e ctx info
  if ret = .success then (.success, s₁)
  else if color = 0 then (ret, s₁)
  else (ret, (s₁.destroySurfaceInternal ctx color).2)

/-- `createFramebuffer`; `e'` answers for the depth surface. The id it hands
out puts the two surface ids together. -/
def createFramebuffer (e e' : AccelEnv) (s : Accelerator)
    (ctx width height colorFormat depthFormat : Nat) : IOReturn × Accelerator :=
  if (s.findContext ctx).isNone then (.badArgument, s)
  else if framebufferFits width height = false then (.badArgument, s)
  else if colorFormat = 0 then s.addDepthSurface e' ctx 0 ⟨depthFormat, width, height, 1⟩ else
  let (ret, s₁) := s.createSurfaceInternal e ctx ⟨colorFormat, width, height, 1⟩
  if ret ≠ .success then (ret, s₁)
  else s₁.addDepthSurface e' ctx s₁.nextSurfaceId ⟨depthFormat, width, height, 1⟩

/-! ### Garbage collection -/

/-- What `garbageCollectTextures` carries from surface to surface. -/
structure Collector where
  gpu : Gpu
  /-- `current_texture_memory` -/
  current : Nat
  /-- `gc_generation` -/
  generation : Nat
  freedMemory : Nat

namespace Collector

/-- Free a surface: its backing memory goes with it, its resource is given up
if it has one. -/
def release (e : AccelEnv) (w : Collector) (x : AccelSurface) : Collector :=
  { w with
    gpu := if x.gpuResourceId ≠ 0 then (w.gpu.deallocateResource e.toEnv x.gpuResourceId).2
      else w.gpu
    freedMemory := w.freedMemory + x.size }

/-- `current_texture_memory -= surface_size`. -/
def discount (w : Collector) (size : Nat) : Collector :=
  { w with current := (w.current + (2 ^ 64 - size)) % 2 ^ 64 }

/-- Strategy 1: surfaces over 1 MiB, down to half the threshold. -/
def visitLarge (e : AccelEnv) (w : Collector) (x : AccelSurface) : Bool × Collector :=
  if x.isRenderTarget = true ∨ w.current ≤ 32 * 1024 * 1024 then (false, w)
  else if x.size > 1024 * 1024 then (true, (w.release e x).discount x.size)
  else (false, w)

/-- Strategy 2: some of the medium surfaces, down to three quarters. -/
def visitMedium (e : AccelEnv) (w : Collector) (x : AccelSurface) : Bool × Collector :=
  if x.isRenderTarget = true ∨ w.current ≤ 48 * 1024 * 1024 then (false, w)
  else if 256 * 1024 ≤ x.size ∧ x.size ≤ 1024 * 1024 then
    let w₁ := { w with generation := inc32 w.generation }
    if x.surfaceId % 3 = w₁.generation % 3 then (true, (w₁.release e x).discount x.size)
    else (false, w₁)
  else (false, w)

/-- Strategy 3: surfaces that are `lost`. -/
def visitLost (e : AccelEnv) (lost : AccelSurface → Bool) (w : Collector) (x : AccelSurface) :
    Bool × Collector :=
  if lost x then (true, w.release e x) else (false, w)

end Collector

/-- No live context has the surface bound. -/
def lost (s : Accelerator) (x : AccelSurface) : Bool :=
  !s.contexts.entries.any fun c => decide (x.surfaceId ∈ c.boundSurfaceIds)

/-- Strategies 1 and 2, taken over the threshold of 64 MiB. -/
def relieve (e : AccelEnv) (s : Accelerator) (w : Collector) : Collector × Pool AccelSurface :=
  if w.current > 64 * 1024 * 1024 then
    let (w₁, pool) := s.surfaces.sweep (Collector.visitLarge e) w
    pool.sweep (Collector.visitMedium e) w₁
  else (w, s.surfaces)

/-- `garbageCollectTextures`. Phase 1 only counts; the texture memory it goes by
is `m_memory_allocated`. -/
def garbageCollectTextures (e : AccelEnv) (s : Accelerator) : IOReturn × Accelerator :=
  let (w₁, pool₁) := s.relieve e ⟨s.gpu, s.memoryAllocated, s.gcGeneration, 0⟩
  let (w₂, pool₂) := pool₁.sweep (Collector.visitLost e s.lost) w₁
  (.success, { s with
    gpu := w₂.gpu
    surfaces := pool₂
    contexts := s.contexts.map (AccelContext.keepBound pool₂)
    memoryAllocated := s.memoryAllocated - w₂.freedMemory
    gcGeneration := w₂.generation })

/-! ### Render passes -/

/-- `beginRenderPass`. Whatever the device and the framebuffer make of it, it
comes to a success. -/
def beginRenderPass (e : AccelEnv) (s : Accelerator) (ctx : Nat) : IOReturn × Accelerator :=
  match s.findContext ctx with
  | none => (.notFound, s)
  | some c =>
      if s.gpu.supports3D = false ∨ e.accelAlloc .commandBuffer = false then (.success, s) else
      let (ret, g) := s.gpu.executeCommands e.toEnv c.gpuContextId (some 512)
      if ret ≠ .success ∧ e.framebuffer = some .success ∧ e.accelAlloc .renderState = true then
        (.success, (s.withGpu g).modifyContext ctx AccelContext.keepRenderState)
      else (.success, s.withGpu g)

/-- The device part of `endRenderPass`: the id of the context is counted up for
a fence, and the commands go out under the new id. -/
def finalizeRendering (e : AccelEnv) (s : Accelerator) (ctx : Nat) (c : AccelContext) :
    IOReturn × Accelerator :=
  if s.gpu.supports3D = false ∨ c.gpuContextId = 0 then (.success, s)
  else if e.accelAlloc .commandBuffer = false then (.noMemory, s)
  else
    let (ret, g) := s.gpu.executeCommands e.toEnv c.bumpGpuContextId.gpuContextId (some 256)
    (ret, (s.withGpu g).modifyContext ctx AccelContext.bumpGpuContextId)

/-- `returnCommandBuffer`: what is in the command buffer is flushed, a render
state of 44 bytes. -/
def returnCommandBuffer (e : AccelEnv) (s : Accelerator) (ctx : Nat) : Accelerator :=
  match s.findContext ctx with
  | none => s
  | some c =>
      if c.commandBuffer = false ∨ c.gpuContextId = 0 then s
      else s.withGpu (s.gpu.executeCommands e.toEnv c.gpuContextId (some 44)).2

/-- The texture units are reset: a surface with a resource, if it is a render
target, counts as bound and is none any more. -/
def resetTextureUnits (e : AccelEnv) (s : Accelerator) : Accelerator :=
  if e.unitUnbound = false then s else
  { s with surfaces := s.surfaces.map fun x =>
      if x.gpuResourceId ≠ 0 then { x with isRenderTarget := false } else x }

/-- `endRenderPass`; `e'` answers from the collection on. -/
def endRenderPass (e e' : AccelEnv) (s : Accelerator) (ctx : Nat) : IOReturn × Accelerator :=
  match s.findContext ctx with
  | none => (.notFound, s)
  | some c =>
      let (ret, s₁) := s.finalizeRendering e ctx c
      let result := if ret ≠ .success then e.framebuffer.getD ret else ret
      if result ≠ .success then (.success, s₁) else
      let s₂ := ((s₁.resetTextureUnits e).garbageCollectTextures e').2
      (.success, s₂.returnCommandBuffer e' ctx)

/-- The device's part of `present3DSurface`, a plain display update. -/
def presentOnDisplay (e : AccelEnv) (s : Accelerator) (x : AccelSurface) : IOReturn × Gpu :=
  if s.gpu.supports3D = false then (.success, s.gpu)
  else s.gpu.updateDisplay e.toEnv 0 x.gpuResourceId x.info.width x.info.height

/-- Where presenting has come to `ret`, a failure, a command buffer of the
context is tried. -/
def presentByCommands (e : AccelEnv) (g : Gpu) (c : AccelContext) (ret : IOReturn) :
    IOReturn × Gpu :=
  if ret = .success ∨ c.gpuContextId = 0 ∨ e.accelAlloc .commandBuffer = false then (ret, g)
  else g.executeCommands e.toEnv c.gpuContextId (some 128)

/-- `present3DSurface`: the display, the framebuffer, a command buffer of the
context, and at last a mark on the surface. -/
def present3DSurface (e : AccelEnv) (s : Accelerator) (ctx surface : Nat) :
    IOReturn × Accelerator :=
  match s.findContext ctx, s.findSurface surface with
  | some c, some x =>
      let (shown, g) := s.presentOnDisplay e x
      if s.gpu.supports3D = true ∧ shown = .success then (.success, s.withGpu g) else
      let copied := if x.backingMemory.isSome then e.framebuffer.getD shown else shown
      let (sent, g₁) := presentByCommands e g c copied
      if sent = .success then (.success, s.withGpu g₁)
      else (.success, (s.withGpu g₁).modifySurface surface AccelSurface.markPresented)
  | _, _ => (.notFound, s)

end Accelerator
end VMQemuVGA
