import Mathlib.Logic.Function.Basic
import VMQemuVGA.Metal.MemoryPools

/-! # The resources of `VMMetalBridge`

Everything the bridge creates gets an id and an entry in one dictionary, whose
keys are strings. What an operation is given an id for is looked up there. -/

namespace VMQemuVGA

inductive MetalKind where
  | commandQueue
  | commandBuffer
  | buffer
  | texture
  | renderPipeline
  deriving DecidableEq, Repr

/-- An object in the dictionary. Objects are numbered in the order they were made
in; only a buffer has a `capacity`. -/
structure MetalObject where
  kind : MetalKind
  number : Nat
  capacity : Nat
  deriving DecidableEq, Repr

/-- The keys `"%u"` and `"cmd_buffer_%u"`. -/
inductive ResourceKey where
  | id (n : Nat)
  | commandBuffer (n : Nat)
  deriving DecidableEq, Repr

/-- `VMMetalCommandBufferPool`. -/
structure CommandBufferPool where
  poolSize : Nat
  activeBuffers : Nat
  deriving DecidableEq, Repr

/-- A slot of `g_command_buffer_registry` in use. -/
structure CommandBufferInfo where
  bufferId : Nat
  creationTime : Nat
  deriving DecidableEq, Repr

/-- `VMMetalTextureDescriptor`. -/
structure MetalTextureDescriptor where
  pixelFormat : Nat
  textureType : Nat
  width : Nat
  height : Nat
  depth : Nat
  mipmapLevelCount : Nat
  deriving DecidableEq, Repr

/-! ## What calls get from elsewhere -/

/-- What `createCommandBuffer` gets. -/
structure CommandBufferEnv where
  now : Nat
  /-- what `create3DContext` returns -/
  context : IOReturn
  /-- `OSDictionary::withCapacity` -/
  dictionary : Bool

/-- What the creation of a buffer or a texture gets. -/
structure StorageEnv where
  /-- what `allocateResource3D` returns -/
  resource : IOReturn
  /-- `IOBufferMemoryDescriptor::withCapacity`, for a capacity -/
  memory : Nat → Bool
  /-- the dictionary of a texture -/
  metadata : Bool

/-- What becomes of a program of the shader manager. -/
inductive ProgramOutcome where
  /-- `createProgram` fails, before it draws an id -/
  | refused (ret : IOReturn)
  /-- `linkProgram` fails -/
  | unlinked (ret : IOReturn)
  | linked
  deriving DecidableEq, Repr

/-! ## The bridge -/

structure MetalBridge where
  /-- `m_next_resource_id` -/
  nextResourceId : Nat
  /-- `m_resource_map` -/
  resourceMap : ResourceKey → Option MetalObject
  /-- how many objects were made -/
  made : Nat
  /-- `g_command_buffer_pools` -/
  commandBufferPools : List CommandBufferPool
  /-- `g_command_buffer_registry` -/
  registry : List CommandBufferInfo
  /-- `m_next_program_id`, where the accelerator has a shader manager -/
  nextProgramId : Option Nat
  /-- `g_gpu_memory_pools` -/
  memory : GPUMemory

namespace MetalBridge

/-- A new bridge, with or without a shader manager in a state of its own. -/
def start (nextProgramId : Option Nat) : MetalBridge where
  nextResourceId := 1
  resourceMap := fun _ => none
  made := 0
  commandBufferPools := []
  registry := []
  nextProgramId := nextProgramId
  memory := .start

/-- `allocateResourceId`. -/
def allocateResourceId (m : MetalBridge) : Nat × MetalBridge :=
  (m.nextResourceId, { m with nextResourceId := inc32 m.nextResourceId })

/-- The expected kind makes no difference. -/
def findResource (id : Nat) (_ : MetalKind) (m : MetalBridge) : Option MetalObject :=
  m.resourceMap (.id id)

/-- The next object. -/
def object (kind : MetalKind) (capacity : Nat) (m : MetalBridge) : MetalObject :=
  ⟨kind, m.made, capacity⟩

/-- An object is made and, if the dictionary has room or grows, entered. -/
def enter (key : ResourceKey) (stored : Bool) (o : MetalObject) (m : MetalBridge) : MetalBridge :=
  { m with
    made := m.made + 1
    resourceMap := if stored then Function.update m.resourceMap key (some o) else m.resourceMap }

def createCommandQueue (device : Nat) (array stored : Bool) (m : MetalBridge) :
    Except IOReturn Nat × MetalBridge :=
  if device ≠ 1 then (.error .badArgument, m)
  else if array = false then (.error .noMemory, m)
  else
    let (id, m) := m.allocateResourceId
    (.ok id, m.enter (.id id) stored (m.object .commandQueue 0))

/-! ### Command buffers -/

/-- `initializeCommandBufferPools`. -/
def initialPools : List CommandBufferPool := [⟨64, 0⟩, ⟨128, 0⟩, ⟨32, 0⟩, ⟨16, 0⟩]

/-- The pool with the most room, `best` being the best before the `i`th. -/
def roomiest : List CommandBufferPool → Nat → Nat × Nat → Nat
  | [], _, best => best.1
  | p :: ps, i, best =>
      if p.poolSize - p.activeBuffers > best.2 then
        roomiest ps (i + 1) (i, p.poolSize - p.activeBuffers)
      else roomiest ps (i + 1) best

def selectOptimalCommandBufferPool (queue : Nat) (pools : List CommandBufferPool) : Nat :=
  let base := queue % pools.length
  let p := pools.getD base ⟨0, 0⟩
  if p.activeBuffers < p.poolSize then base else roomiest pools 0 (0, 0)

/-- `expandCommandBufferPool`, up to 512 buffers. -/
def expandCommandBufferPool (p : CommandBufferPool) : Option CommandBufferPool :=
  let newSize := p.poolSize + max (p.poolSize / 2) 8
  if newSize > 512 then
    if p.poolSize ≥ 512 then none else some { p with poolSize := 512 }
  else some { p with poolSize := newSize }

/-- The pool for a command buffer: the one selected, expanded if need be, or else
the first one with room. -/
def commandBufferPool (queue : Nat) (pools : List CommandBufferPool) :
    Option (Nat × List CommandBufferPool) :=
  let i := selectOptimalCommandBufferPool queue pools
  let p := pools.getD i ⟨0, 0⟩
  if p.activeBuffers ≥ p.poolSize then
    match expandCommandBufferPool p with
    | some p => some (i, pools.set i p)
    | none => (pools.findIdx? fun p => p.activeBuffers < p.poolSize).map fun j => (j, pools)
  else some (i, pools)

/-- `findLRUCommandBuffer`: the first of the oldest. -/
def findLRUCommandBuffer : List CommandBufferInfo → Nat → Nat × Option Nat → Option Nat
  | [], _, best => best.2
  | e :: es, i, best =>
      if e.creationTime < best.1 then findLRUCommandBuffer es (i + 1) (e.creationTime, some i)
      else findLRUCommandBuffer es (i + 1) best

/-- A free slot of the registry, or else the least recently used one. -/
def register (e : CommandBufferInfo) (registry : List CommandBufferInfo) :
    Option (List CommandBufferInfo) :=
  if registry.length < 256 then some (registry ++ [e])
  else (findLRUCommandBuffer registry 0 (u64 - 1, none)).map fun i => registry.set i e

/-- The part of `createCommandBuffer` behind the context, for pool `i`. The buffer is
entered under a key of its own kind. -/
def finishCommandBuffer (i id : Nat) (e : CommandBufferEnv) (stored : Bool) (m : MetalBridge) :
    Except IOReturn Nat × MetalBridge :=
  if id = 0 then (.error .noResources, m)
  else
    match register ⟨id, e.now⟩ m.registry with
    | none => (.error .noMemory, m)
    | some registry =>
        if e.dictionary = false then (.error .noMemory, { m with registry := registry })
        else
          (.ok id, { m.enter (.commandBuffer id) stored (m.object .commandBuffer 0) with
            registry := registry
            commandBufferPools := m.commandBufferPools.modify i fun p =>
              { p with activeBuffers := p.activeBuffers + 1 } })

/-- Whatever has the id of the queue will do. -/
def createCommandBuffer (queue : Nat) (e : CommandBufferEnv) (stored : Bool) (m : MetalBridge) :
    Except IOReturn Nat × MetalBridge :=
  if queue = 0 then (.error .badArgument, m)
  else if m.findResource queue .commandQueue = none then (.error .notFound, m)
  else
    let pools := if m.commandBufferPools = [] then initialPools else m.commandBufferPools
    match commandBufferPool queue pools with
    | none => (.error .noResources, { m with commandBufferPools := pools })
    | some (i, pools) =>
        let m := { m with commandBufferPools := pools }
        if e.context ≠ .success then (.error e.context, m)
        else
          let (id, m) := m.allocateResourceId
          m.finishCommandBuffer i id e stored

/-! ### Buffers, textures and pipelines -/

def createBuffer (device : Nat) (length : Option Nat) (e : StorageEnv) (stored : Bool)
    (m : MetalBridge) : Except IOReturn Nat × MetalBridge :=
  match length with
  | none => (.error .badArgument, m)
  | some length =>
      if device ≠ 1 then (.error .badArgument, m)
      else if e.resource ≠ .success then (.error e.resource, m)
      else if e.memory length = false then (.error .noMemory, m)
      else
        let (id, m) := m.allocateResourceId
        (.ok id, m.enter (.id id) stored (m.object .buffer length))

/-- The bytes of a pixel, for `VM_METAL_PIXEL_FORMAT_R8_UNORM` and so on. -/
def bytesPerPixel (pixelFormat : Nat) : Nat :=
  if pixelFormat = 10 then 1
  else if pixelFormat = 30 ∨ pixelFormat = 25 then 2
  else 4

/-- The sizes of the levels added up, modulo 2^32. Only a 3D texture gets flatter. -/
def levelsSize (bytes : Nat) (is3D : Bool) : Nat → Nat → Nat → Nat → Nat
  | 0, _, _, _ => 0
  | levels + 1, width, height, depth =>
      (width * height * depth * bytes +
        levelsSize bytes is3D levels (max (width / 2) 1) (max (height / 2) 1)
          (if is3D then max (depth / 2) 1 else 1)) % u32

def textureSize (d : MetalTextureDescriptor) : Nat :=
  levelsSize (bytesPerPixel d.pixelFormat) (d.textureType = 2) (max d.mipmapLevelCount 1)
    d.width d.height d.depth

/-- The checks of `createTexture`. -/
def textureRefused (d : MetalTextureDescriptor) : Prop :=
  d.width = 0 ∨ d.height = 0 ∨ d.depth = 0 ∨ d.width > 16384 ∨ d.height > 16384 ∨ d.depth > 2048

instance (d : MetalTextureDescriptor) : Decidable (textureRefused d) :=
  inferInstanceAs (Decidable (d.width = 0 ∨ d.height = 0 ∨ d.depth = 0 ∨ d.width > 16384 ∨
    d.height > 16384 ∨ d.depth > 2048))

/-- The dictionary has the metadata of a texture, where there is memory for them. -/
def createTexture (device : Nat) (descriptor : Option MetalTextureDescriptor) (e : StorageEnv)
    (stored : Bool) (m : MetalBridge) : Except IOReturn Nat × MetalBridge :=
  match descriptor with
  | none => (.error .badArgument, m)
  | some d =>
      if device ≠ 1 then (.error .badArgument, m)
      else if textureRefused d then (.error .badArgument, m)
      else if e.resource ≠ .success then (.error e.resource, m)
      else if e.memory (textureSize d) = false then (.error .noMemory, m)
      else
        let (id, m) := m.allocateResourceId
        (.ok id, m.enter (.id id) (e.metadata && stored) (m.object .texture 0))

/-- Another program of the shader manager. -/
def drawProgram (m : MetalBridge) : MetalBridge :=
  { m with nextProgramId := m.nextProgramId.map inc32 }

/-- A pipeline has the id of its program, if there are programs. `number` is the
`OSNumber` that goes into the dictionary. -/
def createRenderPipelineState (device : Nat) (descriptor : Bool) (program : ProgramOutcome)
    (number stored : Bool) (m : MetalBridge) : Except IOReturn Nat × MetalBridge :=
  if descriptor = false ∨ device ≠ 1 then (.error .badArgument, m)
  else
    match m.nextProgramId with
    | some n =>
        match program with
        | .refused ret => (.error ret, m)
        | .unlinked ret => (.error ret, m.drawProgram)
        | .linked =>
            let m := m.drawProgram
            (.ok (inc32 n),
              m.enter (.id (inc32 n)) (number && stored) (m.object .renderPipeline 0))
    | none =>
        let (id, m) := m.allocateResourceId
        (.ok id, m.enter (.id id) (number && stored) (m.object .renderPipeline 0))

/-! ### Use -/

/-- The operations that are given an id. -/
inductive Use where
  | updateBuffer
  | drawPrimitives
  | commitCommandBuffer
  | createCommandBuffer
  deriving DecidableEq, Repr

/-- The kind of object an operation asks `findResource` for. -/
def Use.expects : Use → MetalKind
  | .updateBuffer => .buffer
  | .drawPrimitives | .commitCommandBuffer => .commandBuffer
  | .createCommandBuffer => .commandQueue

/-- What an operation works on. Only `updateBuffer` looks at the class of the object. -/
def lookup (use : Use) (id : Nat) (m : MetalBridge) : Option MetalObject :=
  match use with
  | .updateBuffer => (m.findResource id .buffer).filter fun o => o.kind = .buffer
  | .drawPrimitives | .commitCommandBuffer => m.findResource id .commandBuffer
  | .createCommandBuffer => m.findResource id .commandQueue

/-- `bytes` is the address of the buffer, `sync` what the synchronization gets, if
the device does 3D. What becomes of it does not matter. -/
def updateBuffer (id : Nat) (data : Bool) (offset size : Nat) (bytes : Bool)
    (sync : Option SyncEnv) (m : MetalBridge) : IOReturn × MetalBridge :=
  if data = false ∨ size = 0 then (.badArgument, m)
  else
    match m.lookup .updateBuffer id with
    | none => (.notFound, m)
    | some o =>
        if offset ≥ o.capacity ∨ (offset + size) % u32 > o.capacity then (.badArgument, m)
        else if bytes = false then (.noMemory, m)
        else
          match sync with
          | none => (.success, m)
          | some e => (.success, { m with memory := (m.memory.synchronize e id size).2 })

/-- `ret` is what the accelerator returns. -/
def drawPrimitives (id : Nat) (descriptor : Bool) (ret : IOReturn) (m : MetalBridge) : IOReturn :=
  if descriptor = false then .badArgument
  else if m.lookup .drawPrimitives id = none then .notFound
  else ret

/-- `ret` is what `executeCommands` returns. -/
def commitCommandBuffer (id : Nat) (ret : IOReturn) (m : MetalBridge) : IOReturn :=
  if m.lookup .commitCommandBuffer id = none then .notFound else ret

end MetalBridge

/-! ## Creation -/

namespace MetalBridge

/-- The key an object is entered under. -/
def keyOf : MetalKind → Nat → ResourceKey
  | .commandBuffer, id => .commandBuffer id
  | .commandQueue, id | .buffer, id | .texture, id | .renderPipeline, id => .id id

/-- How a call that creates may end. Without programs ids come from the counter. -/
inductive Creation (m : MetalBridge) (kind : MetalKind) (capacity : Nat) (stored : Bool) :
    Except IOReturn Nat × MetalBridge → Prop
  | failed {ret : IOReturn} {m' : MetalBridge} (hmap : m'.resourceMap = m.resourceMap)
      (hnext : m'.nextResourceId = m.nextResourceId ∨
        m'.nextResourceId = inc32 m.nextResourceId)
      (hprograms : m.nextProgramId = none → m'.nextProgramId = none) :
      Creation m kind capacity stored (.error ret, m')
  | made {id : Nat} {m' : MetalBridge}
      (hmap : m'.resourceMap =
        if stored then Function.update m.resourceMap (keyOf kind id) (m.object kind capacity)
        else m.resourceMap)
      (hid : m.nextProgramId = none →
        id = m.nextResourceId ∧ m'.nextResourceId = inc32 m.nextResourceId)
      (hprograms : m.nextProgramId = none → m'.nextProgramId = none) :
      Creation m kind capacity stored (.ok id, m')

variable {m : MetalBridge} {stored : Bool}

theorem Creation.refused {kind : MetalKind} {capacity : Nat} {ret : IOReturn} :
    Creation m kind capacity stored (.error ret, m) :=
  .failed rfl (Or.inl rfl) fun h => h

theorem creation_createCommandQueue {device : Nat} {array : Bool} :
    Creation m .commandQueue 0 stored (m.createCommandQueue device array stored) := by
  unfold createCommandQueue
  split
  · exact .refused
  split
  · exact .refused
  · exact .made rfl (fun _ => ⟨rfl, rfl⟩) fun h => h

theorem creation_finishCommandBuffer {m' : MetalBridge} {i : Nat} {e : CommandBufferEnv}
    (hmap : m'.resourceMap = m.resourceMap) (hmade : m'.made = m.made)
    (hnext : m'.nextResourceId = inc32 m.nextResourceId)
    (hprograms : m'.nextProgramId = m.nextProgramId) :
    Creation m .commandBuffer 0 stored (m'.finishCommandBuffer i m.nextResourceId e stored) := by
  unfold finishCommandBuffer
  split
  · exact .failed hmap (Or.inr hnext) fun h => hprograms.trans h
  split
  · exact .failed hmap (Or.inr hnext) fun h => hprograms.trans h
  split
  · exact .failed hmap (Or.inr hnext) fun h => hprograms.trans h
  · refine .made ?_ (fun _ => ⟨rfl, hnext⟩) fun h => hprograms.trans h
    unfold enter object keyOf
    rw [hmap, hmade]

theorem creation_createCommandBuffer {queue : Nat} {e : CommandBufferEnv} :
    Creation m .commandBuffer 0 stored (m.createCommandBuffer queue e stored) := by
  unfold createCommandBuffer
  split
  · exact .refused
  split
  · exact .refused
  dsimp only
  split
  · exact .failed rfl (Or.inl rfl) fun h => h
  split
  · exact .failed rfl (Or.inl rfl) fun h => h
  · exact creation_finishCommandBuffer rfl rfl rfl rfl

theorem creation_createBuffer {device : Nat} {length : Option Nat} {e : StorageEnv} :
    Creation m .buffer (length.getD 0) stored (m.createBuffer device length e stored) := by
  unfold createBuffer
  split
  · exact .refused
  split
  · exact .refused
  split
  · exact .refused
  split
  · exact .refused
  · exact .made rfl (fun _ => ⟨rfl, rfl⟩) fun h => h

theorem creation_createTexture {device : Nat} {descriptor : Option MetalTextureDescriptor}
    {e : StorageEnv} :
    Creation m .texture 0 (e.metadata && stored) (m.createTexture device descriptor e stored) := by
  unfold createTexture
  split
  · exact .refused
  split
  · exact .refused
  split
  · exact .refused
  split
  · exact .refused
  split
  · exact .refused
  · exact .made rfl (fun _ => ⟨rfl, rfl⟩) fun h => h

theorem creation_createRenderPipelineState {device : Nat} {descriptor number : Bool}
    {program : ProgramOutcome} :
    Creation m .renderPipeline 0 (number && stored)
      (m.createRenderPipelineState device descriptor program number stored) := by
  unfold createRenderPipelineState
  split
  · exact .refused
  split
  · rename_i n hn
    have hsome : m.nextProgramId ≠ none := by
      rw [hn]
      exact Option.some_ne_none n
    cases program with
    | refused ret => exact .refused
    | unlinked ret => exact .failed rfl (Or.inl rfl) fun h => absurd h hsome
    | linked => exact .made rfl (fun h => absurd h hsome) fun h => absurd h hsome
  · exact .made rfl (fun _ => ⟨rfl, rfl⟩) fun h => h

end MetalBridge

/-! ## Runs -/

/-- An id that a successful call returned, with the object it was returned for. -/
structure LiveResource where
  kind : MetalKind
  id : Nat
  object : MetalObject
  deriving DecidableEq, Repr

/-- `otherProgram` is a program that somebody else has the shader manager create. -/
inductive MetalCall where
  | createCommandQueue (device : Nat) (array stored : Bool)
  | createCommandBuffer (queue : Nat) (e : CommandBufferEnv) (stored : Bool)
  | createBuffer (device : Nat) (length : Option Nat) (e : StorageEnv) (stored : Bool)
  | createTexture (device : Nat) (descriptor : Option MetalTextureDescriptor) (e : StorageEnv)
      (stored : Bool)
  | createRenderPipelineState (device : Nat) (descriptor : Bool) (program : ProgramOutcome)
      (number stored : Bool)
  | updateBuffer (id : Nat) (data : Bool) (offset size : Nat) (bytes : Bool)
      (sync : Option SyncEnv)
  | drawPrimitives (id : Nat) (descriptor : Bool) (ret : IOReturn)
  | commitCommandBuffer (id : Nat) (ret : IOReturn)
  | otherProgram

/-- The bridge with all that was created. Nothing is ever destroyed. -/
structure MetalRun where
  bridge : MetalBridge
  live : List LiveResource

namespace MetalRun

def start (nextProgramId : Option Nat) : MetalRun := ⟨.start nextProgramId, []⟩

/-- The state after a call that creates. -/
def created (r : MetalRun) (kind : MetalKind) (capacity : Nat)
    (result : Except IOReturn Nat × MetalBridge) : MetalRun :=
  match result.1 with
  | .ok id => ⟨result.2, ⟨kind, id, r.bridge.object kind capacity⟩ :: r.live⟩
  | .error _ => ⟨result.2, r.live⟩

def step (r : MetalRun) : MetalCall → Option MetalRun
  | .createCommandQueue device array stored =>
      some (r.created .commandQueue 0 (r.bridge.createCommandQueue device array stored))
  | .createCommandBuffer queue e stored =>
      some (r.created .commandBuffer 0 (r.bridge.createCommandBuffer queue e stored))
  | .createBuffer device length e stored =>
      some (r.created .buffer (length.getD 0) (r.bridge.createBuffer device length e stored))
  | .createTexture device descriptor e stored =>
      some (r.created .texture 0 (r.bridge.createTexture device descriptor e stored))
  | .createRenderPipelineState device descriptor program number stored =>
      some (r.created .renderPipeline 0
        (r.bridge.createRenderPipelineState device descriptor program number stored))
  | .updateBuffer id data offset size bytes sync =>
      some { r with bridge := (r.bridge.updateBuffer id data offset size bytes sync).2 }
  | .drawPrimitives .. | .commitCommandBuffer .. => some r
  | .otherProgram => some { r with bridge := r.bridge.drawProgram }

def machine (nextProgramId : Option Nat) : Machine MetalRun MetalCall where
  init := start nextProgramId
  step := step

/-- Ids are distinct; each one is the id of its object, for `findResource` and for
the operations that expect its kind, and for no other operation. -/
structure Sound (r : MetalRun) : Prop where
  distinct : (r.live.map LiveResource.id).Nodup
  resolved : ∀ x ∈ r.live, ∀ kind, r.bridge.findResource x.id kind = some x.object
  accepted : ∀ x ∈ r.live, ∀ use : MetalBridge.Use, use.expects = x.kind →
    r.bridge.lookup use x.id = some x.object
  rejected : ∀ x ∈ r.live, ∀ use : MetalBridge.Use, use.expects ≠ x.kind →
    r.bridge.lookup use x.id = none

/-! ### What is in the dictionary -/

/-- An entry under a plain id is of an object that was returned with that id, and
command buffers are not entered so. -/
def Entered (r : MetalRun) : Prop :=
  ∀ id o, r.bridge.resourceMap (.id id) = some o →
    ∃ x ∈ r.live, x.id = id ∧ x.object = o ∧ x.kind ≠ .commandBuffer

/-- A resource is looked up for whatever is to be drawn. -/
theorem Sound.commandBuffer {r : MetalRun} (h : r.Sound) {x : LiveResource} (hx : x ∈ r.live) :
    x.kind = .commandBuffer := by
  by_contra hne
  have hfound := h.resolved x hx .commandBuffer
  have hnone := h.rejected x hx .drawPrimitives (Ne.symm hne)
  rw [show r.bridge.lookup .drawPrimitives x.id = r.bridge.findResource x.id .commandBuffer
    from rfl, hfound] at hnone
  cases hnone

/-- **As soon as there is anything, something is wrong.** -/
theorem Entered.sound_iff {r : MetalRun} (h : r.Entered) : r.Sound ↔ r.live = [] := by
  constructor
  · intro hs
    by_contra hne
    obtain ⟨x, hx⟩ := List.exists_mem_of_ne_nil _ hne
    -- what is found is no command buffer, but there is nothing else
    obtain ⟨y, hy, -, -, hother⟩ := h x.id x.object (hs.resolved x hx .commandBuffer)
    exact hother (hs.commandBuffer hy)
  · intro hnil
    constructor <;> rw [hnil]
    · exact List.nodup_nil
    all_goals exact fun _ h => (by cases h)

variable {r r' : MetalRun} {n : Option Nat}

theorem entered_start : (start n).Entered := fun _ _ h => (by cases h)

/-- A call that leaves the entries alone. -/
theorem Entered.of_map {b : MetalBridge} (h : r.Entered)
    (hb : b.resourceMap = r.bridge.resourceMap) : Entered { r with bridge := b } := by
  intro id o ho
  rw [hb] at ho
  exact h id o ho

theorem Entered.created {kind : MetalKind} {capacity : Nat} {stored : Bool}
    {result : Except IOReturn Nat × MetalBridge} (h : r.Entered)
    (hc : r.bridge.Creation kind capacity stored result) :
    (r.created kind capacity result).Entered := by
  cases hc with
  | failed hmap => exact h.of_map hmap
  | made hmap =>
      rename_i id m' _ _
      have hold : ∀ i o, r.bridge.resourceMap (.id i) = some o →
          ∃ x ∈ (⟨kind, id, r.bridge.object kind capacity⟩ :: r.live : List LiveResource),
            x.id = i ∧ x.object = o ∧ x.kind ≠ .commandBuffer := by
        intro i o ho
        obtain ⟨x, hx, hfound⟩ := h i o ho
        exact ⟨x, List.mem_cons_of_mem _ hx, hfound⟩
      intro i o ho
      have ho : m'.resourceMap (.id i) = some o := ho
      rw [hmap] at ho
      split at ho
      · by_cases hkey : ResourceKey.id i = MetalBridge.keyOf kind id
        · rw [hkey, Function.update_self] at ho
          cases ho
          refine ⟨_, List.mem_cons_self, ?_, rfl, ?_⟩
          · cases kind <;> cases hkey <;> rfl
          · rintro rfl
            cases hkey
        · rw [Function.update_of_ne hkey] at ho
          exact hold i o ho
      · exact hold i o ho

theorem Entered.step {c : MetalCall} (h : r.Entered) (hs : r.step c = some r') :
    r'.Entered := by
  cases c with
  | createCommandQueue device array stored =>
      cases hs
      exact h.created MetalBridge.creation_createCommandQueue
  | createCommandBuffer queue e stored =>
      cases hs
      exact h.created MetalBridge.creation_createCommandBuffer
  | createBuffer device length e stored =>
      cases hs
      exact h.created MetalBridge.creation_createBuffer
  | createTexture device descriptor e stored =>
      cases hs
      exact h.created MetalBridge.creation_createTexture
  | createRenderPipelineState device descriptor program number stored =>
      cases hs
      exact h.created MetalBridge.creation_createRenderPipelineState
  | updateBuffer id data offset size bytes sync =>
      cases hs
      refine h.of_map ?_
      unfold MetalBridge.updateBuffer
      repeat' split
      all_goals rfl
  | drawPrimitives | commitCommandBuffer =>
      cases hs
      exact h
  | otherProgram =>
      cases hs
      exact h.of_map rfl

/-! ### Nothing is created -/

/-- A call that would create something fails. Without a queue there are no command
buffers. -/
def Fails (r : MetalRun) : MetalCall → Prop
  | .createCommandQueue device array _ => device = 1 → array = false
  | .createBuffer device length e _ =>
      ∀ n ∈ length, device = 1 → e.resource = .success → e.memory n = false
  | .createTexture device descriptor e _ =>
      ∀ d ∈ descriptor, device = 1 → ¬ MetalBridge.textureRefused d → e.resource = .success →
        e.memory (MetalBridge.textureSize d) = false
  | .createRenderPipelineState device descriptor program _ _ =>
      descriptor = true → device = 1 → r.bridge.nextProgramId ≠ none ∧ program ≠ .linked
  | _ => True

/-- What a creating call leaves of nothing. -/
theorem live_created {kind : MetalKind} {capacity : Nat}
    {result : Except IOReturn Nat × MetalBridge} (hnil : r.live = []) :
    (r.created kind capacity result).live = [] ↔ result.1.isOk = false := by
  unfold created
  split
  · rename_i id hok
    rw [hok]
    exact ⟨fun h => (by cases h), fun h => (by cases h)⟩
  · rename_i ret herror
    rw [herror]
    exact ⟨fun _ => rfl, fun _ => hnil⟩

/-! What each function needs to create something. -/

section Fail

variable {device : Nat} {e : StorageEnv} {stored : Bool}

theorem createCommandQueue_fails_iff {array : Bool} :
    (r.bridge.createCommandQueue device array stored).1.isOk = false ↔
      (device = 1 → array = false) := by
  unfold MetalBridge.createCommandQueue
  by_cases hdevice : device = 1
  · rw [if_neg (not_not.mpr hdevice)]
    cases array
    · exact ⟨fun _ _ => rfl, fun _ => rfl⟩
    · exact ⟨fun h => (by cases h), fun h => absurd (h hdevice) (by decide)⟩
  · rw [if_pos hdevice]
    exact ⟨fun _ h1 => absurd h1 hdevice, fun _ => rfl⟩

theorem createCommandBuffer_fails {queue : Nat} {e : CommandBufferEnv}
    (h : r.bridge.findResource queue .commandQueue = none) :
    (r.bridge.createCommandBuffer queue e stored).1.isOk = false := by
  unfold MetalBridge.createCommandBuffer
  rw [if_pos h]
  split <;> rfl

theorem createBuffer_fails_iff {length : Option Nat} :
    (r.bridge.createBuffer device length e stored).1.isOk = false ↔
      ∀ n ∈ length, device = 1 → e.resource = .success → e.memory n = false := by
  unfold MetalBridge.createBuffer
  cases length with
  | none => exact ⟨fun _ _ h => (by cases h), fun _ => rfl⟩
  | some n =>
      dsimp only [Option.mem_def]
      split
      · next hdevice => exact ⟨fun _ _ _ h1 => absurd h1 hdevice, fun _ => rfl⟩
      next hdevice =>
      split
      · next hres => exact ⟨fun _ _ _ _ h1 => absurd h1 hres, fun _ => rfl⟩
      next hres =>
      split
      · next hmem =>
        refine ⟨fun _ n' hn _ _ => ?_, fun _ => rfl⟩
        cases hn
        exact hmem
      · next hmem =>
        exact ⟨fun h => (by cases h), fun h =>
          absurd (h n rfl (not_not.mp hdevice) (not_not.mp hres)) hmem⟩

theorem createTexture_fails_iff {descriptor : Option MetalTextureDescriptor} :
    (r.bridge.createTexture device descriptor e stored).1.isOk = false ↔
      ∀ d ∈ descriptor, device = 1 → ¬ MetalBridge.textureRefused d → e.resource = .success →
        e.memory (MetalBridge.textureSize d) = false := by
  unfold MetalBridge.createTexture
  cases descriptor with
  | none => exact ⟨fun _ _ h => (by cases h), fun _ => rfl⟩
  | some d =>
      dsimp only [Option.mem_def]
      split
      · next hdevice => exact ⟨fun _ _ _ h1 => absurd h1 hdevice, fun _ => rfl⟩
      next hdevice =>
      split
      · next hrefused =>
        refine ⟨fun _ d' hd _ h1 => ?_, fun _ => rfl⟩
        cases hd
        exact absurd hrefused h1
      next hrefused =>
      split
      · next hres => exact ⟨fun _ _ _ _ _ h1 => absurd h1 hres, fun _ => rfl⟩
      next hres =>
      split
      · next hmem =>
        refine ⟨fun _ d' hd _ _ _ => ?_, fun _ => rfl⟩
        cases hd
        exact hmem
      · next hmem =>
        exact ⟨fun h => (by cases h), fun h =>
          absurd (h d rfl (not_not.mp hdevice) hrefused (not_not.mp hres)) hmem⟩

theorem createRenderPipelineState_fails_iff {descriptor number : Bool} {program : ProgramOutcome} :
    (r.bridge.createRenderPipelineState device descriptor program number stored).1.isOk = false ↔
      (descriptor = true → device = 1 → r.bridge.nextProgramId ≠ none ∧ program ≠ .linked) := by
  unfold MetalBridge.createRenderPipelineState
  split
  · next hbad =>
    refine ⟨fun _ hdescriptor hdevice => ?_, fun _ => rfl⟩
    rcases hbad with hfalse | hdev
    · rw [hfalse] at hdescriptor
      cases hdescriptor
    · exact absurd hdevice hdev
  next hgood =>
  rw [not_or, Bool.not_eq_false, not_not] at hgood
  cases hprograms : r.bridge.nextProgramId with
  | none => exact ⟨fun h => (by cases h), fun h => absurd rfl (h hgood.1 hgood.2).1⟩
  | some n =>
      have hsome : some n ≠ none := Option.some_ne_none n
      cases program with
      | refused ret => exact ⟨fun _ _ _ => ⟨hsome, fun h => (by cases h)⟩, fun _ => rfl⟩
      | unlinked ret => exact ⟨fun _ _ _ => ⟨hsome, fun h => (by cases h)⟩, fun _ => rfl⟩
      | linked => exact ⟨fun h => (by cases h), fun h => absurd rfl (h hgood.1 hgood.2).2⟩

end Fail

/-- **One call**, where there is nothing yet. -/
theorem live_step_iff {c : MetalCall} (h : r.Entered) (hnil : r.live = [])
    (hs : r.step c = some r') : r'.live = [] ↔ r.Fails c := by
  cases c with
  | createCommandQueue device array stored =>
      cases hs
      exact (live_created hnil).trans createCommandQueue_fails_iff
  | createCommandBuffer queue e stored =>
      cases hs
      have hnone : r.bridge.findResource queue .commandQueue = none := by
        rw [Option.eq_none_iff_forall_ne_some]
        intro o ho
        obtain ⟨x, hx, -⟩ := h queue o ho
        rw [hnil] at hx
        cases hx
      rw [live_created hnil]
      exact iff_of_true (createCommandBuffer_fails hnone) trivial
  | createBuffer device length e stored =>
      cases hs
      exact (live_created hnil).trans createBuffer_fails_iff
  | createTexture device descriptor e stored =>
      cases hs
      exact (live_created hnil).trans createTexture_fails_iff
  | createRenderPipelineState device descriptor program number stored =>
      cases hs
      exact (live_created hnil).trans createRenderPipelineState_fails_iff
  | updateBuffer | drawPrimitives | commitCommandBuffer | otherProgram =>
      cases hs
      exact ⟨fun _ => trivial, fun _ => hnil⟩

/-- **The names are sound** exactly in the runs in which nothing is ever created. -/
theorem names_sound_iff (n : Option Nat) (calls : List MetalCall) :
    (machine n).Always Sound (start n) calls ↔ (machine n).Along Fails (start n) calls := by
  refine (machine n).always_iff_along (fun r c r' h hs => h.step hs) (fun r c r' h hP hs => ?_)
    entered_start (entered_start.sound_iff.mpr rfl)
  rw [(h.step hs).sound_iff]
  exact live_step_iff h (h.sound_iff.mp hP) hs

/-- A command buffer is not found under its id. -/
theorem names_unsound :
    ¬ ∀ (n : Option Nat) (calls : List MetalCall), (machine n).Always Sound (start n) calls := by
  intro h
  have hrun := h none [.createCommandQueue 1 true true,
    .createCommandBuffer 1 ⟨1, .success, true⟩ true]
  obtain ⟨r, hr, hlost⟩ := hrun.of_any _ (p := fun r : MetalRun =>
    decide (∃ x ∈ r.live, r.bridge.findResource x.id .commandBuffer ≠ some x.object))
    (by decide)
  obtain ⟨x, hx, hne⟩ := of_decide_eq_true hlost
  exact hne (hr.resolved x hx .commandBuffer)

/-! ### What the names are good for

Without programs, and as long as entries are made and the counter has not come
round, ids are distinct, and all but those of command buffers are found. -/

structure Named (r : MetalRun) : Prop where
  distinct : (r.live.map LiveResource.id).Nodup
  found : ∀ x ∈ r.live, x.kind ≠ .commandBuffer →
    ∀ kind, r.bridge.findResource x.id kind = some x.object
  hidden : ∀ x ∈ r.live, x.kind = .commandBuffer →
    ∀ kind, r.bridge.findResource x.id kind = none

/-- The call gets room for its entry, and there is another id. -/
def KeepsNames (r : MetalRun) (c : MetalCall) : Prop :=
  r.bridge.nextResourceId + 1 < u32 ∧
    match c with
    | .createCommandQueue _ _ stored | .createBuffer _ _ _ stored => stored = true
    | .createTexture _ _ e stored => (e.metadata && stored) = true
    | .createRenderPipelineState _ _ _ number stored => (number && stored) = true
    | _ => True

/-- All ids are below the counter, and so are the keys. -/
structure Counted (r : MetalRun) : Prop where
  named : r.Named
  programs : r.bridge.nextProgramId = none
  below : ∀ x ∈ r.live, x.id < r.bridge.nextResourceId
  fresh : ∀ id, r.bridge.nextResourceId ≤ id → r.bridge.resourceMap (.id id) = none

/-- Only the counter may have moved. -/
theorem Counted.of_map {b : MetalBridge} (h : r.Counted)
    (hb : b.resourceMap = r.bridge.resourceMap)
    (hnext : r.bridge.nextResourceId ≤ b.nextResourceId) (hp : b.nextProgramId = none) :
    Counted { r with bridge := b } where
  named := by
    refine ⟨h.named.distinct, fun x hx hk kind => ?_, fun x hx hk kind => ?_⟩
    · show b.resourceMap (.id x.id) = _
      rw [hb]
      exact h.named.found x hx hk kind
    · show b.resourceMap (.id x.id) = _
      rw [hb]
      exact h.named.hidden x hx hk kind
  programs := hp
  below := fun x hx => Nat.lt_of_lt_of_le (h.below x hx) hnext
  fresh := by
    intro id hid
    show b.resourceMap (.id id) = _
    rw [hb]
    exact h.fresh id (Nat.le_trans hnext hid)

theorem Counted.created {kind : MetalKind} {capacity : Nat} {stored : Bool}
    {result : Except IOReturn Nat × MetalBridge} (h : r.Counted)
    (hnext : r.bridge.nextResourceId + 1 < u32)
    (hstored : kind ≠ .commandBuffer → stored = true)
    (hc : r.bridge.Creation kind capacity stored result) :
    (r.created kind capacity result).Counted := by
  cases hc with
  | failed hmap hnext' hprograms =>
      refine h.of_map hmap ?_ (hprograms h.programs)
      rcases hnext' with heq | heq
      · exact Nat.le_of_eq heq.symm
      · rw [heq, inc32_eq_succ hnext]
        exact Nat.le_succ _
  | made hmap hid hprograms =>
      rename_i id m'
      obtain ⟨rfl, hnext'⟩ := hid h.programs
      rw [inc32_eq_succ hnext] at hnext'
      -- the entry of the new object leaves the others alone
      have hold : ∀ i, i ≠ r.bridge.nextResourceId →
          m'.resourceMap (.id i) = r.bridge.resourceMap (.id i) := by
        intro i hi
        rw [hmap]
        split
        · apply Function.update_of_ne
          cases kind <;> simp [MetalBridge.keyOf, hi]
        · rfl
      have hlt : ∀ x ∈ r.live, x.id ≠ r.bridge.nextResourceId :=
        fun x hx => Nat.ne_of_lt (h.below x hx)
      constructor
      · constructor
        · refine List.nodup_cons.mpr ⟨fun hmem => ?_, h.named.distinct⟩
          obtain ⟨x, hx, heq⟩ := List.mem_map.mp hmem
          exact hlt x hx heq
        · intro x hx hk kind'
          rcases List.mem_cons.mp hx with rfl | hx
          · show m'.resourceMap (.id r.bridge.nextResourceId) = _
            have hkey : MetalBridge.keyOf kind r.bridge.nextResourceId =
                .id r.bridge.nextResourceId := by
              cases kind <;> first | rfl | exact absurd rfl hk
            rw [hmap, if_pos (hstored hk), hkey, Function.update_self]
          · exact (hold x.id (hlt x hx)).trans (h.named.found x hx hk kind')
        · intro x hx hk kind'
          rcases List.mem_cons.mp hx with rfl | hx
          · show m'.resourceMap (.id r.bridge.nextResourceId) = _
            have hkey : ResourceKey.id r.bridge.nextResourceId ≠
                MetalBridge.keyOf kind r.bridge.nextResourceId := by
              rw [show kind = .commandBuffer from hk]
              intro hkey
              cases hkey
            have hnone := h.fresh _ (Nat.le_refl _)
            rw [hmap]
            split
            · rw [Function.update_of_ne hkey, hnone]
            · exact hnone
          · exact (hold x.id (hlt x hx)).trans (h.named.hidden x hx hk kind')
      · exact hprograms h.programs
      · intro x hx
        show x.id < m'.nextResourceId
        rw [hnext']
        rcases List.mem_cons.mp hx with rfl | hx
        · exact Nat.lt_succ_self _
        · exact Nat.lt_succ_of_lt (h.below x hx)
      · intro i hi
        have hi : m'.nextResourceId ≤ i := hi
        rw [hnext'] at hi
        exact (hold i (Nat.ne_of_gt hi)).trans (h.fresh i (Nat.le_of_succ_le hi))

theorem Counted.step {c : MetalCall} (h : r.Counted) (hC : r.KeepsNames c)
    (hs : r.step c = some r') : r'.Counted := by
  obtain ⟨hnext, hC⟩ := hC
  cases c with
  | createCommandQueue device array stored =>
      cases hs
      exact h.created hnext (fun _ => hC) MetalBridge.creation_createCommandQueue
  | createCommandBuffer queue e stored =>
      cases hs
      exact h.created hnext (fun hne => absurd rfl hne) MetalBridge.creation_createCommandBuffer
  | createBuffer device length e stored =>
      cases hs
      exact h.created hnext (fun _ => hC) MetalBridge.creation_createBuffer
  | createTexture device descriptor e stored =>
      cases hs
      exact h.created hnext (fun _ => hC) MetalBridge.creation_createTexture
  | createRenderPipelineState device descriptor program number stored =>
      cases hs
      exact h.created hnext (fun _ => hC) MetalBridge.creation_createRenderPipelineState
  | updateBuffer id data offset size bytes sync =>
      cases hs
      unfold MetalBridge.updateBuffer
      repeat' split
      all_goals exact h.of_map rfl (Nat.le_refl _) h.programs
  | drawPrimitives | commitCommandBuffer =>
      cases hs
      exact h
  | otherProgram =>
      cases hs
      exact h.of_map rfl (Nat.le_refl _) (congrArg (Option.map inc32) h.programs :)

end MetalRun

end VMQemuVGA
