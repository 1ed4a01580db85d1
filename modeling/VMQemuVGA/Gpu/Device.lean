import VMQemuVGA.Lib.SlotTable
import VMQemuVGA.Gpu.Host

/-! # The `VMVirtIOGPU` object

Its counters and its resource pool, and the functions that create, free and
back resources. Each function takes what the surroundings answer during the
call (`Env`) and returns a code together with the next state; the host and the
commands sent so far are part of the state. -/

namespace VMQemuVGA

/-! ## Resource pool -/

/-- `gpu_resource`. `in_use` and `is_3d` are only ever printed. -/
structure GpuResource where
  resourceId : Nat
  width : Nat
  height : Nat
  format : Nat
  backingMemory : Option MemoryDescriptor
  deriving DecidableEq, Repr

/-- A slot after construction or tombstoning. -/
def GpuResource.free : GpuResource := ⟨0, 0, 0, 0, none⟩

/-- `m_resource_pool`: 64 slots, `resource_id == 0` marks a free one. -/
abbrev ResourcePool := SlotTable GpuResource.resourceId 64

/-! ## The object -/

structure Gpu where
  /-- `m_pci_device && m_control_queue` -/
  ready : Bool
  /-- what `supports3D()` reports -/
  supports3D : Bool
  /-- `m_max_scanouts` -/
  maxScanouts : Nat
  pool : ResourcePool
  /-- `m_resource_count`, a high-water mark -/
  resourceCount : Nat
  nextResourceId : Nat
  nextUserResourceId : Nat
  displayResourceId : Nat
  nextContextId : Nat
  /-- the function-static counter of `createVirglContextEx` -/
  nextExContextId : Nat
  /-- the ids in `m_contexts` -/
  contexts : List Nat
  link : Link
  /-- the ids handed out by `m_next_resource_id` so far, oldest first -/
  kernelIds : List Nat
  /-- the ids handed out by `m_next_user_resource_id` so far, oldest first -/
  winsysIds : List Nat
  deriving DecidableEq

/-- What the surroundings answer during one call: the fate of each command
sent, which allocations succeed, and what `withCapacity` (of a size) and
`withAddressRange` (of an address and a length) return. -/
structure Env where
  ask : HostCmd → Answer
  alloc : AllocSite → Bool
  withCapacity : Nat → Option MemoryDescriptor
  withAddressRange : Nat → Nat → Option MemoryDescriptor

/-- A host that accepts every command, and allocations that succeed. -/
def Env.accepting : Env where
  ask := fun _ => .reply respOkNodata
  alloc := fun _ => true
  withCapacity := fun size => some ⟨size, .success, [⟨0x1000, size⟩]⟩
  withAddressRange := fun addr len => some ⟨len, .success, [⟨addr, len⟩]⟩

/-- The same surroundings with a host that accepts every command. -/
def Env.hostAccepts (e : Env) : Env := { e with ask := fun _ => .reply respOkNodata }

namespace Gpu

/-- The object as `init` leaves it. -/
def init (supports3D : Bool) (maxScanouts : Nat) : Gpu where
  ready := true
  supports3D := supports3D
  maxScanouts := maxScanouts
  pool := .replicate .free
  resourceCount := 0
  nextResourceId := 1
  nextUserResourceId := 0x100
  displayResourceId := 0
  nextContextId := 1
  nextExContextId := 0x100
  contexts := []
  link := .empty
  kernelIds := []
  winsysIds := []

/-! ## Sending -/

/-- The object after publishing a command with fate `a`. -/
def afterSend (g : Gpu) (cmd : HostCmd) (a : Answer) : Gpu :=
  { g with link := g.link.send cmd a }

/-- `submitCommand`, as far as its callers see it. -/
def submitCommand (e : Env) (g : Gpu) (cmd : HostCmd) : IOReturn × Gpu :=
  ((e.ask cmd).ret, g.afterSend cmd (e.ask cmd))

/-! ## Resources -/

def findResource (g : Gpu) (id : Nat) : Option GpuResource := g.pool.find? id

/-- `if (i >= m_resource_count) m_resource_count = i + 1` with the slot written. -/
def register (g : Gpu) (i : Nat) (r : GpuResource) : Gpu :=
  { g with
    pool := g.pool.put i r
    resourceCount := if i ≥ g.resourceCount then i + 1 else g.resourceCount }

/-- `attachBacking`: prepare, walk the segments, send them, complete. -/
def attachBacking (e : Env) (g : Gpu) (id : Nat) (memory : Option MemoryDescriptor) :
    IOReturn × Gpu :=
  if g.ready = false then (.notReady, g) else
  match memory with
  | none => (.badArgument, g)
  | some d =>
      if d.prepareRet ≠ .success then (d.prepareRet, g)
      else if d.segments = [] ∨ d.walked = 0 then (.noMemory, g)
      else if e.alloc .attachCommand = false then (.noMemory, g)
      else g.submitCommand e (.resourceAttachBacking id ⟨d.wireEntries, none⟩)

/-- `createResource2D` behind an accepted create: find backing memory, attach
it, and register the resource, or take it back when no slot is free. -/
def backAndRegister (e : Env) (g : Gpu) (id format width height : Nat)
    (backing : Option MemoryDescriptor) : IOReturn × Gpu :=
  -- a missing backing is allocated here and then owned by the slot
  match backing.orElse fun _ => e.withCapacity (width * height * 4 % u32) with
  | none => (.noMemory, g)
  | some d =>
      let (attachRet, g₁) := g.attachBacking e id (some d)
      if attachRet ≠ .success then (attachRet, g₁) else
      match g₁.pool.freeIdx? with
      | none => (.noSpace, (g₁.submitCommand e (.resourceUnref id)).2)
      | some i =>
          (.success, g₁.register i
            ⟨id, width, height, format, if backing.isSome then none else some d⟩)

/-- `createResource2D`; `backing` is the caller's memory, if it brings any. -/
def createResource2D (e : Env) (g : Gpu) (id format width height : Nat)
    (backing : Option MemoryDescriptor) : IOReturn × Gpu :=
  if (g.findResource id).isSome then (.badArgument, g) else
  let cmd := HostCmd.resourceCreate2D id format width height
  let (ret, g₁) := g.submitCommand e cmd
  if ret ≠ .success ∨ (e.ask cmd).type ≠ respOkNodata then (ret, g₁)
  else g₁.backAndRegister e id format width height backing

/-- The command `createResource3D` sends: context 0, a plain texture. -/
def create3DCmd (id target format bind width height depth : Nat) : HostCmd :=
  .resourceCreate3D 0 id ⟨target, format, bind, width, height, depth, 1, 0, 0, 0⟩

/-- `createResource3D`. Nothing is registered when the entry cannot be
allocated or no slot is free, and the code returned is that of the command. -/
def createResource3D (e : Env) (g : Gpu) (id target format bind width height depth : Nat) :
    IOReturn × Gpu :=
  if g.supports3D = false then (.unsupported, g)
  else if (g.findResource id).isSome then (.badArgument, g) else
  let cmd := create3DCmd id target format bind width height depth
  let (ret, g₁) := g.submitCommand e cmd
  if ret = .success ∧ (e.ask cmd).type = respOkNodata ∧ e.alloc .gpuResource = true then
    match g₁.pool.freeIdx? with
    | none => (ret, g₁)
    | some i => (ret, g₁.register i ⟨id, width, height, format, none⟩)
  else (ret, g₁)

/-- `deallocateResource`: the command goes out whatever the pool says. -/
def deallocateResource (e : Env) (g : Gpu) (id : Nat) : IOReturn × Gpu :=
  let (ret, g₁) := g.submitCommand e (.resourceUnref id)
  if ret = .success then (ret, { g₁ with pool := g₁.pool.clear id .free }) else (ret, g₁)

/-- `++m_next_resource_id`. -/
def drawResourceId (g : Gpu) : Gpu :=
  { g with
    nextResourceId := inc32 g.nextResourceId
    kernelIds := g.kernelIds ++ [inc32 g.nextResourceId] }

/-- `allocateResource3D`; the id it hands out is the counter afterwards. -/
def allocateResource3D (e : Env) (g : Gpu) (target format width height depth : Nat) :
    IOReturn × Gpu :=
  let g₁ := g.drawResourceId
  createResource3D e g₁ g₁.nextResourceId target format 0 width height depth

/-- `mapGuestMemory`: an id is drawn and backed on the host without ever being
created there, then written into the slot at the high-water mark. -/
def mapGuestMemory (e : Env) (g : Gpu) (memory : Option MemoryDescriptor) : IOReturn × Gpu :=
  match memory with
  | none => (.badArgument, g)
  | some d =>
      if d.length = 0 then (.badArgument, g)
      else if d.prepareRet ≠ .success then (d.prepareRet, g)
      else if d.firstSegment.isNone then (.noMemory, g) else
      let g₁ := g.drawResourceId
      -- the command is sized for its header only, no entry follows
      let (ret, g₂) := g₁.submitCommand e (.resourceAttachBacking g₁.nextResourceId .empty)
      if ret ≠ .success then (ret, g₂)
      else if e.alloc .gpuResource = false then (.noMemory, g₂)
      else if g₂.resourceCount < 64 then
        (.success, { g₂ with
          pool := g₂.pool.put g₂.resourceCount ⟨g₁.nextResourceId, 0, 0, 0, some d⟩
          resourceCount := g₂.resourceCount + 1 })
      else (.success, g₂)

/-- `VIRTIO_GPU_FORMAT_B8G8R8A8_UNORM`. -/
def formatB8G8R8A8 : Nat := 1

/-- `VIRTIO_GPU_FORMAT_B8G8R8X8_UNORM`. -/
def formatB8G8R8X8 : Nat := 2

/-- `VIRTIO_GPU_FORMAT_D24_UNORM_S8_UINT`. -/
def formatD24S8 : Nat := 49

/-- `VIRGL_TARGET_2D`. -/
def target2D : Nat := 2

/-- `VIRGL_BIND_DEPTH_STENCIL`. -/
def bindDepthStencil : Nat := 1

/-- `VIRGL_BIND_RENDER_TARGET`. -/
def bindRenderTarget : Nat := 2

/-- `setupScanout`: a fresh 2D resource, then `SET_SCANOUT` to it. -/
def setupScanout (e : Env) (g : Gpu) (scanout width height : Nat) : IOReturn × Gpu :=
  if scanout ≥ g.maxScanouts then (.badArgument, g) else
  let g₁ := g.drawResourceId
  let id := g₁.nextResourceId
  let (ret, g₂) := g₁.createResource2D e id formatB8G8R8A8 width height none
  if ret ≠ .success then (ret, g₂)
  else g₂.submitCommand e (.setScanout scanout id width height)

/-- `m_display_resource_id = id`. -/
def setDisplayResource (g : Gpu) (id : Nat) : Gpu := { g with displayResourceId := id }

/-- `setupDisplayResource`: the primary resource, and a second one of half the
width for large displays, whose failure is only logged. -/
def setupDisplayResource (e : Env) (g : Gpu) (width height : Nat) : IOReturn × Gpu :=
  if g.ready = false then (.notReady, g) else
  let g₁ := g.drawResourceId
  let id := g₁.nextResourceId
  let (ret, g₂) := g₁.createResource2D e id formatB8G8R8A8 width height none
  if ret ≠ .success then (ret, g₂) else
  let g₃ := g₂.setDisplayResource id
  if width ≥ 1920 ∧ height ≥ 1080 then
    let g₄ := g₃.drawResourceId
    (.success, (g₄.createResource2D e g₄.nextResourceId formatB8G8R8A8 (width / 2) height none).2)
  else (.success, g₃)

/-- `allocateUserResourceId`: the value before the increment. -/
def allocateUserResourceId (g : Gpu) : Nat × Gpu :=
  (g.nextUserResourceId,
    { g with
      nextUserResourceId := inc32 g.nextUserResourceId
      winsysIds := g.winsysIds ++ [g.nextUserResourceId] })

/-- `createResource3DEx` of a user client, on the device it is attached to. -/
def createResource3DEx (e : Env) (g : Gpu) (ctx : Nat) (texture : Texture) : IOReturn × Gpu :=
  let (id, g₁) := g.allocateUserResourceId
  g₁.submitCommand e (.resourceCreate3D ctx id texture)

/-! ## Contexts -/

/-- `createRenderContext`; the id it hands out is the counter afterwards. -/
def createRenderContext (e : Env) (g : Gpu) : IOReturn × Gpu :=
  if g.supports3D = false then (.badArgument, g) else
  let id := inc32 g.nextContextId
  { g with nextContextId := id }.submitCommand e (.ctxCreate id)

/-- `destroyRenderContext`: only a context found in `m_contexts` is destroyed. -/
def destroyRenderContext (e : Env) (g : Gpu) (id : Nat) : IOReturn × Gpu :=
  if g.supports3D = false then (.unsupported, g)
  else if id ∉ g.contexts then (.notFound, g) else
  let (ret, g₁) := g.submitCommand e (.ctxDestroy id)
  if ret = .success then (ret, { g₁ with contexts := g₁.contexts.erase id }) else (ret, g₁)

/-- `VMVirtIOGPU::destroy3DContext`. -/
def destroy3DContext (e : Env) (g : Gpu) (id : Nat) : IOReturn × Gpu :=
  if g.supports3D = false then (.badArgument, g)
  else if id = 0 then (.badArgument, g)
  else g.submitCommand e (.ctxDestroy id)

/-- `createVirglContextEx` of a user client: the value before the increment. -/
def createVirglContextEx (e : Env) (g : Gpu) : IOReturn × Gpu :=
  let id := g.nextExContextId
  { g with nextExContextId := inc32 id }.submitCommand e (.ctxCreate id)

/-- `destroyVirglContextEx` of a user client, for whatever id it names. -/
def destroyVirglContextEx (e : Env) (g : Gpu) (id : Nat) : IOReturn × Gpu :=
  g.submitCommand e (.ctxDestroy id)

/-- `executeCommands` with a buffer of `size` bytes: `SUBMIT_3D` under the
caller's context id, which is not checked. -/
def executeCommands (e : Env) (g : Gpu) (ctx : Nat) (commands : Option Nat) : IOReturn × Gpu :=
  if g.supports3D = false then (.badArgument, g) else
  match commands with
  | none => (.badArgument, g)
  | some size =>
      if e.alloc .mapCommands = false then (.vmError, g)
      else if size = 0 then (.badArgument, g)
      else if e.alloc .submitCommand = false then (.noMemory, g)
      else g.submitCommand e (.submit3D ctx size)

/-- `initializeWebGLAcceleration`: one context, then a canvas and a depth
buffer whose failures are only logged. -/
def initializeWebGLAcceleration (e : Env) (g : Gpu) : Gpu :=
  if g.ready = false then g
  else if g.supports3D = false then g else
  let (ret, g₁) := g.createRenderContext e
  if ret ≠ .success ∨ g₁.nextContextId = 0 then g₁ else
  let g₂ := g₁.drawResourceId
  let g₃ := (g₂.createResource3D e g₂.nextResourceId target2D formatB8G8R8X8 bindRenderTarget
    1280 720 1).2
  let g₄ := g₃.drawResourceId
  (g₄.createResource3D e g₄.nextResourceId target2D formatD24S8 bindDepthStencil 1280 720 1).2

/-! ## Frames

What a function cannot have touched. -/

/-- `attachBacking` only talks to the host. -/
theorem attachBacking_frame (e : Env) (g : Gpu) (id : Nat) (m : Option MemoryDescriptor) :
    ∃ l, (g.attachBacking e id m).2 = { g with link := l } := by
  unfold attachBacking
  split
  · exact ⟨g.link, rfl⟩
  · cases m with
    | none => exact ⟨g.link, rfl⟩
    | some d =>
        dsimp only
        split
        · exact ⟨g.link, rfl⟩
        · split
          · exact ⟨g.link, rfl⟩
          · split
            · exact ⟨g.link, rfl⟩
            · exact ⟨_, rfl⟩

theorem backAndRegister_frame (e : Env) (g : Gpu) (id format width height : Nat)
    (backing : Option MemoryDescriptor) :
    ∃ p n l, (g.backAndRegister e id format width height backing).2 =
      { g with pool := p, resourceCount := n, link := l } := by
  unfold backAndRegister
  split
  · exact ⟨_, _, _, rfl⟩
  next d _ =>
  obtain ⟨l, hl⟩ := attachBacking_frame e g id (some d)
  dsimp only [submitCommand]
  rw [hl]
  split
  · exact ⟨_, _, _, rfl⟩
  split
  · exact ⟨_, _, _, rfl⟩
  · exact ⟨_, _, _, rfl⟩

theorem createResource2D_frame (e : Env) (g : Gpu) (id format width height : Nat)
    (backing : Option MemoryDescriptor) :
    ∃ p n l, (g.createResource2D e id format width height backing).2 =
      { g with pool := p, resourceCount := n, link := l } := by
  unfold createResource2D
  split
  · exact ⟨_, _, _, rfl⟩
  dsimp only [submitCommand]
  split
  · exact ⟨_, _, _, rfl⟩
  · obtain ⟨p, n, l, h⟩ := backAndRegister_frame e (g.afterSend (.resourceCreate2D id format width
      height) (e.ask (.resourceCreate2D id format width height))) id format width height backing
    exact ⟨p, n, l, h⟩

theorem createResource3D_frame (e : Env) (g : Gpu)
    (id target format bind width height depth : Nat) :
    ∃ p n l, (g.createResource3D e id target format bind width height depth).2 =
      { g with pool := p, resourceCount := n, link := l } := by
  unfold createResource3D
  split
  · exact ⟨_, _, _, rfl⟩
  split
  · exact ⟨_, _, _, rfl⟩
  dsimp only [submitCommand]
  split
  · split
    · exact ⟨_, _, _, rfl⟩
    · exact ⟨_, _, _, rfl⟩
  · exact ⟨_, _, _, rfl⟩

theorem createRenderContext_frame (e : Env) (g : Gpu) :
    ∃ n l, (g.createRenderContext e).2 = { g with nextContextId := n, link := l } := by
  unfold createRenderContext
  split
  · exact ⟨_, _, rfl⟩
  · exact ⟨_, _, rfl⟩

end Gpu
end VMQemuVGA
