import VMQemuVGA.Accelerator.State
import VMQemuVGA.Metal.Resources

/-! # Creation that fails

A creator of `VMMetalBridge` takes what it needs from the accelerator, the device and the
shader manager, one after the other, and where one of the later steps fails it has to give
back what it has. The bridge here stands beside those others. -/

namespace VMQemuVGA

/-! ## The shader manager -/

/-- `ShaderProgram`. `number` tells the stored programs apart. -/
structure ManagedProgram where
  programId : Nat
  number : Nat
  deriving DecidableEq, Repr

/-- `m_programs`. -/
structure ProgramStore where
  programs : List ManagedProgram
  /-- how many programs were made -/
  made : Nat
  numbered : ∀ p ∈ programs, p.number < made

namespace ProgramStore

def empty : ProgramStore := ⟨[], 0, nofun⟩

/-- The next program. -/
def fresh (id : Nat) (s : ProgramStore) : ManagedProgram := ⟨id, s.made⟩

/-- `createProgram`; `stored` says whether the array has room or grows. -/
def createProgram (id : Nat) (stored : Bool) (s : ProgramStore) : ProgramStore where
  programs := if stored then s.programs ++ [s.fresh id] else s.programs
  made := s.made + 1
  numbered := by
    intro p hp
    split at hp
    · rcases List.mem_append.mp hp with h | h
      · exact Nat.lt_succ_of_lt (s.numbered p h)
      · rw [List.mem_singleton.mp h]
        exact Nat.lt_succ_self _
    · exact Nat.lt_succ_of_lt (s.numbered p hp)

/-- `destroyProgram`: the first one with the id. -/
def destroyProgram (id : Nat) (s : ProgramStore) : ProgramStore where
  programs := s.programs.eraseP fun p => p.programId == id
  made := s.made
  numbered := fun p hp => s.numbered p (List.mem_of_mem_eraseP hp)

def Knows (id : Nat) (s : ProgramStore) : Prop := ∃ p ∈ s.programs, p.programId = id

end ProgramStore

/-! ## The system -/

structure MetalSystem where
  bridge : MetalBridge
  accelerator : Accelerator
  /-- of the shader manager, if the accelerator has one -/
  programs : ProgramStore

/-- What a creator gets, from a host that takes contexts and resources back. -/
structure CreatorEnv extends AccelEnv where
  destroys : ∀ ctx, (ask (.ctxDestroy ctx)).ret = .success
  unrefs : ∀ id, (ask (.resourceUnref id)).ret = .success
  now : Nat
  /-- the dictionary of a command buffer -/
  dictionary : Bool
  /-- the dictionary of a texture -/
  metadata : Bool
  /-- `m_resource_map` has room or grows -/
  stored : Bool
  /-- the `OSNumber` of a pipeline -/
  number : Bool
  program : ProgramOutcome
  /-- `m_programs` has room or grows -/
  programStored : Bool

/-- The capacity is granted. -/
def CreatorEnv.grants (e : CreatorEnv) (size : Nat) : Bool := (e.withCapacity size).isSome

/-! ### Constants -/

/-- `VIRTIO_GPU_RESOURCE_TARGET_BUFFER`. -/
def resourceTargetBuffer : Nat := 1

/-- The target for a texture type, `VIRTIO_GPU_RESOURCE_TARGET_2D` by default. -/
def metalTextureTarget (textureType : Nat) : Nat :=
  if textureType = 0 then resourceTargetBuffer
  else if textureType = 2 then 2
  else if textureType = 3 then 3
  else if textureType = 4 then 5
  else if textureType = 5 then 6
  else resourceTarget2D

/-- `translateVMPixelFormat`, for `VM_METAL_PIXEL_FORMAT_R8_UNORM` and so on. -/
def translateVMPixelFormat (pixelFormat : Nat) : Nat :=
  if pixelFormat = 10 then 1
  else if pixelFormat = 30 then 2
  else if pixelFormat = 70 then 3
  else if pixelFormat = 80 then 4
  else if pixelFormat = 25 then 5
  else if pixelFormat = 55 then 6
  else 3

/-! ## Creators -/

/-- `createCommandBuffer` gets as far as its context. -/
def MetalBridge.reachesContext (queue : Nat) (m : MetalBridge) : Bool :=
  decide (queue ≠ 0) && (m.findResource queue .commandQueue).isSome &&
    (commandBufferPool queue
      (if m.commandBufferPools = [] then initialPools else m.commandBufferPools)).isSome

/-- A resource of the device and the memory for it; where there is no memory, the resource
goes back. -/
def Gpu.allocateStorage (e : Env) (g : Gpu) (target format width height depth : Nat)
    (granted : Bool) : IOReturn × Gpu :=
  let (ret, g₁) := g.allocateResource3D e target format width height depth
  if ret ≠ .success ∨ granted = true then (ret, g₁)
  else (ret, (g₁.deallocateResource e g₁.nextResourceId).2)

namespace MetalSystem

def createCommandBuffer (queue : Nat) (e : CreatorEnv) (s : MetalSystem) :
    Except IOReturn Nat × MetalSystem :=
  if s.bridge.reachesContext queue then
    let (ret, accelerator) := s.accelerator.create3DContext e.toAccelEnv
    let (result, bridge) := s.bridge.createCommandBuffer queue ⟨e.now, ret, e.dictionary⟩ e.stored
    (result, { s with bridge := bridge, accelerator := accelerator })
  else
    let (result, bridge) :=
      s.bridge.createCommandBuffer queue ⟨e.now, .success, e.dictionary⟩ e.stored
    (result, { s with bridge := bridge })

/-- The bridge's part of a creation that has got `ret` from the device. -/
def storage (ret : IOReturn) (e : CreatorEnv) : StorageEnv := ⟨ret, e.grants, e.metadata⟩

def createBuffer (device : Nat) (length : Option Nat) (e : CreatorEnv) (s : MetalSystem) :
    Except IOReturn Nat × MetalSystem :=
  match length with
  | none => (.error .badArgument, s)
  | some n =>
      if device ≠ 1 then (.error .badArgument, s)
      else
        let (ret, gpu) := s.accelerator.gpu.allocateStorage e.toEnv resourceTargetBuffer 0 n 1 1
          (e.grants n)
        let (result, bridge) := s.bridge.createBuffer device (some n) (storage ret e) e.stored
        (result, { s with bridge := bridge, accelerator := s.accelerator.withGpu gpu })

def createTexture (device : Nat) (descriptor : Option MetalTextureDescriptor) (e : CreatorEnv)
    (s : MetalSystem) : Except IOReturn Nat × MetalSystem :=
  match descriptor with
  | none => (.error .badArgument, s)
  | some d =>
      if device ≠ 1 ∨ MetalBridge.textureRefused d then (.error .badArgument, s)
      else
        let (ret, gpu) := s.accelerator.gpu.allocateStorage e.toEnv
          (metalTextureTarget d.textureType) (translateVMPixelFormat d.pixelFormat) d.width
          d.height d.depth (e.grants (MetalBridge.textureSize d))
        let (result, bridge) := s.bridge.createTexture device (some d) (storage ret e) e.stored
        (result, { s with bridge := bridge, accelerator := s.accelerator.withGpu gpu })

/-- What becomes of the programs when a pipeline is made with program `id`. -/
def pipelinePrograms (id : Nat) (e : CreatorEnv) (programs : ProgramStore) : ProgramStore :=
  match e.program with
  | .refused _ => programs
  | .unlinked _ => (programs.createProgram id e.programStored).destroyProgram id
  | .linked => programs.createProgram id e.programStored

def createRenderPipelineState (device : Nat) (descriptor : Bool) (e : CreatorEnv)
    (s : MetalSystem) : Except IOReturn Nat × MetalSystem :=
  let (result, bridge) :=
    s.bridge.createRenderPipelineState device descriptor e.program e.number e.stored
  match s.bridge.nextProgramId with
  | some n =>
      if descriptor = false ∨ device ≠ 1 then (result, { s with bridge := bridge })
      else
        (result, { s with
          bridge := bridge
          programs := pipelinePrograms (inc32 n) e s.programs })
  | none => (result, { s with bridge := bridge })

/-! ## Runs -/

inductive Creator where
  | commandBuffer (queue : Nat)
  | buffer (device : Nat) (length : Option Nat)
  | texture (device : Nat) (descriptor : Option MetalTextureDescriptor)
  | renderPipeline (device : Nat) (descriptor : Bool)

def create (c : Creator) (e : CreatorEnv) (s : MetalSystem) : Except IOReturn Nat × MetalSystem :=
  match c with
  | .commandBuffer queue => s.createCommandBuffer queue e
  | .buffer device length => s.createBuffer device length e
  | .texture device descriptor => s.createTexture device descriptor e
  | .renderPipeline device descriptor => s.createRenderPipelineState device descriptor e

/-- Between the calls of creators there are queues, and what others do to the accelerator
and the shader manager, whatever it is. -/
inductive Call where
  | create (c : Creator) (e : CreatorEnv)
  | createCommandQueue (device : Nat) (array stored : Bool)
  | elsewhere (accelerator : Accelerator) (programs : ProgramStore) (nextProgramId : Option Nat)

def step (s : MetalSystem) : Call → MetalSystem
  | .create c e => (s.create c e).2
  | .createCommandQueue device array stored =>
      { s with bridge := (s.bridge.createCommandQueue device array stored).2 }
  | .elsewhere accelerator programs nextProgramId =>
      { bridge := { s.bridge with nextProgramId := nextProgramId }
        accelerator := accelerator
        programs := programs }

def start (nextProgramId : Option Nat) (accelerator : Accelerator) : MetalSystem :=
  ⟨.start nextProgramId, accelerator, .empty⟩

def machine (s : MetalSystem) : Machine MetalSystem Call where
  init := s
  step := fun s call => some (s.step call)

/-! ## What is asked of a creator -/

/-- Everything that creators add to is as it was. -/
structure Restored (s t : MetalSystem) : Prop where
  contexts : t.accelerator.contexts.entries = s.accelerator.contexts.entries
  resources : ∀ r, t.accelerator.gpu.pool.Live r ↔ s.accelerator.gpu.pool.Live r
  programs : t.programs.programs = s.programs.programs
  registry : t.bridge.registry = s.bridge.registry
  map : t.bridge.resourceMap = s.bridge.resourceMap

/-- A creator that fails leaves nothing behind, and no command buffer loses its slot of the
registry; none of them is ever marked as committed there. -/
structure Right (s : MetalSystem) (c : Creator) (e : CreatorEnv) : Prop where
  failed : ∀ ret, (s.create c e).1 = .error ret → s.Restored (s.create c e).2
  kept : ∀ (i : Nat) (entry : CommandBufferInfo), s.bridge.registry[i]? = some entry →
    (s.create c e).2.bridge.registry[i]? = some entry

/-- The registry has a free slot, or the one it would use holds that very entry already. -/
def Room (entry : CommandBufferInfo) (registry : List CommandBufferInfo) : Prop :=
  registry.length < 256 ∨
    ∃ i, MetalBridge.findLRUCommandBuffer registry 0 (u64 - 1, none) = some i ∧
      registry[i]? = some entry

/-- The condition. Behind its context nothing may fail for a command buffer, and its entry
must not cost another one; a program that cannot be linked must have an id of its own. -/
def Meets (s : MetalSystem) (e : CreatorEnv) : Creator → Prop
  | .commandBuffer queue =>
      s.bridge.reachesContext queue = true →
        (s.accelerator.create3DContext e.toAccelEnv).1 = .success →
          s.bridge.nextResourceId ≠ 0 ∧ e.dictionary = true ∧
            Room ⟨s.bridge.nextResourceId, e.now⟩ s.bridge.registry
  | .buffer .. => True
  | .texture .. => True
  | .renderPipeline device descriptor =>
      device = 1 → descriptor = true → ∀ n ret, s.bridge.nextProgramId = some n →
        e.program = .unlinked ret → ¬ s.programs.Knows (inc32 n)

end MetalSystem

/-! ## Contexts and resources -/

namespace Gpu

theorem pool_destroyRenderContext (e : Env) (g : Gpu) (id : Nat) :
    (g.destroyRenderContext e id).2.pool = g.pool := by
  unfold destroyRenderContext
  split
  · rfl
  split
  · rfl
  dsimp only [submitCommand]
  split <;> rfl

theorem pool_createRenderContext (e : Env) (g : Gpu) :
    (g.createRenderContext e).2.pool = g.pool := by
  obtain ⟨n, l, h⟩ := createRenderContext_frame e g
  rw [h]

/-- `createResource3D` registers the resource in a free slot or nowhere, and does not fail
if it does. -/
theorem createResource3D_cases (e : Env) (g : Gpu)
    (id target format bind width height depth : Nat) :
    let result := g.createResource3D e id target format bind width height depth
    (result.1 = .success → g.pool.find? id = none) ∧
      (result.2.pool = g.pool ∨ result.1 = .success ∧
        ∃ i r, g.pool.IsFree i ∧ r.resourceId = id ∧ result.2.pool = g.pool.put i r) := by
  intro result
  subst result
  unfold createResource3D
  split
  · exact ⟨nofun, Or.inl rfl⟩
  split
  · exact ⟨nofun, Or.inl rfl⟩
  next hknown =>
    refine ⟨fun _ => by simpa [findResource] using hknown, ?_⟩
    dsimp only [submitCommand]
    split
    next hok =>
      split
      · exact Or.inl rfl
      next i hi => exact Or.inr ⟨hok.1, i, _, SlotTable.isFree_of_freeIdx? hi, rfl, rfl⟩
    · exact Or.inl rfl

theorem pool_deallocateResource {e : Env} {id : Nat} (g : Gpu)
    (hunref : (e.ask (.resourceUnref id)).ret = .success) :
    (g.deallocateResource e id).2.pool = g.pool.clear id .free := by
  unfold deallocateResource submitCommand
  dsimp only
  rw [if_pos hunref]
  rfl

/-- A resource without memory does not stay. -/
theorem live_allocateStorage {e : Env} {g : Gpu} {target format width height depth : Nat}
    {granted : Bool} (hunref : ∀ id, (e.ask (.resourceUnref id)).ret = .success)
    (h : (g.allocateStorage e target format width height depth granted).1 ≠ .success ∨
      granted = false) (r : GpuResource) :
    (g.allocateStorage e target format width height depth granted).2.pool.Live r ↔
      g.pool.Live r := by
  unfold allocateStorage allocateResource3D at h ⊢
  dsimp only at h ⊢
  generalize hid : g.drawResourceId.nextResourceId = id at h ⊢
  obtain ⟨hfresh, hpool⟩ :=
    createResource3D_cases e g.drawResourceId id target format 0 width height depth
  obtain ⟨p, n, l, hframe⟩ :=
    createResource3D_frame e g.drawResourceId id target format 0 width height depth
  generalize g.drawResourceId.createResource3D e id target format 0 width height depth = result
    at h hfresh hpool hframe ⊢
  obtain ⟨ret, g₁⟩ := result
  by_cases hret : ret = .success
  · have hgranted : granted = false := h.resolve_left fun hne => by
      split at hne
      · exact hne hret
      · exact hne hret
    have hnext : g₁.nextResourceId = id := (congrArg nextResourceId hframe).trans hid
    rw [if_neg (by simp [hret, hgranted])]
    show (g₁.deallocateResource e g₁.nextResourceId).2.pool.Live r ↔ g.pool.Live r
    rw [hnext, pool_deallocateResource g₁ (hunref id)]
    rcases hpool with hsame | ⟨-, i, r', hfree, hkey, hput⟩
    · rw [show g₁.pool = g.pool from hsame]
      exact SlotTable.live_clear_absent rfl (hfresh hret)
    · rw [show g₁.pool = g.pool.put i r' from hput]
      exact SlotTable.live_clear_put rfl (hfresh hret) hfree hkey
  · rw [if_pos (Or.inl hret)]
    rcases hpool with hsame | ⟨hok, -⟩
    · rw [show g₁.pool = g.pool from hsame]
    · exact absurd hok hret

end Gpu

namespace Accelerator

/-- **A context is entered or not, and no resource.** -/
theorem create3DContext_cases (e : AccelEnv) (s : Accelerator) :
    (s.create3DContext e).2.gpu.pool = s.gpu.pool ∧
      ((s.create3DContext e).1 ≠ .success ∧ (s.create3DContext e).2.contexts = s.contexts ∨
        (s.create3DContext e).1 = .success ∧
          (s.create3DContext e).2.contexts.entries ≠ s.contexts.entries) := by
  have hcreate := Gpu.pool_createRenderContext e.toEnv s.gpu
  have hdestroy := fun id =>
    (Gpu.pool_destroyRenderContext e.toEnv (s.gpu.createRenderContext e.toEnv).2 id).trans hcreate
  unfold create3DContext
  dsimp only
  split
  next hret => exact ⟨hcreate, Or.inl ⟨hret, rfl⟩⟩
  split
  · exact ⟨hdestroy _, Or.inl ⟨nofun, rfl⟩⟩
  · split
    · exact ⟨hdestroy _, Or.inl ⟨nofun, rfl⟩⟩
    next pool hpool =>
      refine ⟨hcreate, Or.inr ⟨rfl, fun heq => ?_⟩⟩
      have hlength := (Pool.entries_add hpool).length_eq
      rw [show pool.entries = s.contexts.entries from heq] at hlength
      exact absurd hlength (by simp)

end Accelerator

/-! ## The bridge -/

namespace MetalBridge
variable {m : MetalBridge} {queue i id : Nat} {stored : Bool}

/-- What a creator's failure before it enters anything leaves. -/
structure Untouched (m : MetalBridge) (result : Except IOReturn Nat × MetalBridge) : Prop where
  error : ∃ ret, result.1 = .error ret
  registry : result.2.registry = m.registry
  map : result.2.resourceMap = m.resourceMap

theorem createCommandBuffer_unreached (h : ¬ m.reachesContext queue = true)
    (e : CommandBufferEnv) (stored : Bool) :
    m.Untouched (m.createCommandBuffer queue e stored) := by
  unfold createCommandBuffer
  split
  · exact ⟨⟨_, rfl⟩, rfl, rfl⟩
  next hqueue =>
    split
    · exact ⟨⟨_, rfl⟩, rfl, rfl⟩
    next hfound =>
      dsimp only
      split
      · exact ⟨⟨_, rfl⟩, rfl, rfl⟩
      next hpool =>
        refine absurd ?_ h
        simp [reachesContext, hqueue, Option.isSome_iff_ne_none, hfound, hpool]

/-- With its context a command buffer gets an id. -/
theorem createCommandBuffer_reached (h : m.reachesContext queue = true) (e : CommandBufferEnv)
    (stored : Bool) :
    (e.context ≠ .success ∧ m.Untouched (m.createCommandBuffer queue e stored)) ∨
      (e.context = .success ∧ ∃ (i : Nat) (m' : MetalBridge), m'.registry = m.registry ∧
        m'.resourceMap = m.resourceMap ∧ m.createCommandBuffer queue e stored =
          m'.finishCommandBuffer i m.nextResourceId e stored) := by
  simp only [reachesContext, Bool.and_eq_true, decide_eq_true_eq] at h
  obtain ⟨⟨hqueue, hfound⟩, hpool⟩ := h
  obtain ⟨⟨i, pools⟩, hpools⟩ := Option.isSome_iff_exists.mp hpool
  unfold createCommandBuffer
  rw [if_neg hqueue, if_neg (Option.isSome_iff_ne_none.mp hfound)]
  dsimp only
  rw [hpools]
  by_cases hctx : e.context = .success
  · refine Or.inr ⟨hctx, i, ({ m with commandBufferPools := pools }).allocateResourceId.2, rfl,
      rfl, ?_⟩
    dsimp only
    rw [if_neg (not_not.mpr hctx)]
    rfl
  · left
    dsimp only
    rw [if_pos hctx]
    exact ⟨hctx, ⟨_, rfl⟩, rfl, rfl⟩

/-- **The end of `createCommandBuffer`.** -/
theorem finishCommandBuffer_cases (m : MetalBridge) (i : Nat) (e : CommandBufferEnv)
    (stored : Bool) (hid : id ≠ 0) (hdictionary : e.dictionary = true) :
    (register ⟨id, e.now⟩ m.registry = none ∧
        m.finishCommandBuffer i id e stored = (.error .noMemory, m)) ∨
      ∃ registry, register ⟨id, e.now⟩ m.registry = some registry ∧
        (m.finishCommandBuffer i id e stored).1 = .ok id ∧
        (m.finishCommandBuffer i id e stored).2.registry = registry := by
  unfold finishCommandBuffer
  rw [if_neg hid]
  cases hregister : register ⟨id, e.now⟩ m.registry with
  | none => exact Or.inl ⟨rfl, rfl⟩
  | some registry =>
      refine Or.inr ⟨registry, rfl, ?_⟩
      dsimp only
      rw [if_neg (by simp [hdictionary])]
      exact ⟨rfl, rfl⟩

theorem finishCommandBuffer_failed (m : MetalBridge) (i : Nat) (e : CommandBufferEnv)
    (stored : Bool) (h : id = 0 ∨ e.dictionary = false) :
    ∃ ret, (m.finishCommandBuffer i id e stored).1 = .error ret := by
  unfold finishCommandBuffer
  split
  · exact ⟨_, rfl⟩
  next hid =>
    split
    · exact ⟨_, rfl⟩
    · rw [if_pos (h.resolve_left hid)]
      exact ⟨_, rfl⟩

/-! ### The registry -/

theorem findLRUCommandBuffer_lt {es : List CommandBufferInfo} {start : Nat}
    {best : Nat × Option Nat} (hbest : ∀ j, best.2 = some j → j < start)
    (h : findLRUCommandBuffer es start best = some i) : i < start + es.length := by
  induction es generalizing start best with
  | nil => exact hbest i h
  | cons e es ih =>
      unfold findLRUCommandBuffer at h
      rw [List.length_cons, Nat.add_comm es.length, ← Nat.add_assoc]
      split at h
      · refine ih (fun j hj => ?_) h
        obtain rfl := Option.some.inj hj
        exact Nat.lt_succ_self start
      · exact ih (fun j hj => Nat.lt_succ_of_lt (hbest j hj)) h

/-- Every entry keeps its slot exactly if there is room for the new one. -/
theorem register_keeps_iff {entry : CommandBufferInfo} {registry registry' : List CommandBufferInfo}
    (h : register entry registry = some registry') :
    (∀ (j : Nat) (e : CommandBufferInfo), registry[j]? = some e → registry'[j]? = some e) ↔
      MetalSystem.Room entry registry := by
  unfold register at h
  split at h
  next hroom =>
    obtain rfl := Option.some.inj h
    refine iff_of_true (fun j e hj => ?_) (Or.inl hroom)
    rw [List.getElem?_append_left (List.getElem?_eq_some_iff.mp hj).1]
    exact hj
  next hfull =>
    obtain ⟨i, hi, rfl⟩ := Option.map_eq_some_iff.mp h
    have hlt : i < registry.length := by
      have := findLRUCommandBuffer_lt (fun j hj => by cases hj) hi
      omega
    have hold : registry[i]? = some registry[i] := List.getElem?_eq_getElem hlt
    have hnew : (registry.set i entry)[i]? = some entry := by
      rw [List.getElem?_set_self hlt]
    constructor
    · intro hkeeps
      have hsame := (hkeeps i registry[i] hold).symm.trans hnew
      exact Or.inr ⟨i, hi, hold.trans hsame⟩
    · rintro (hroom | ⟨i', hi', hentry⟩) j e hj
      · exact absurd hroom hfull
      · obtain rfl : i = i' := Option.some.inj (hi.symm.trans hi')
        by_cases hji : i = j
        · subst hji
          rw [hnew, ← hentry, hj]
        · rw [List.getElem?_set_ne hji]
          exact hj

/-- There is no room where the registry cannot take the entry. -/
theorem not_room_of_register {entry : CommandBufferInfo} {registry : List CommandBufferInfo}
    (h : register entry registry = none) : ¬ MetalSystem.Room entry registry := by
  unfold register at h
  split at h
  · cases h
  next hfull =>
    rintro (hroom | ⟨i, hi, -⟩)
    · exact hfull hroom
    · rw [Option.map_eq_none_iff.mp h] at hi
      cases hi

/-! ### Buffers and textures -/

/-- A creation that fails only where the device or the memory has failed it. -/
structure Backed (m : MetalBridge) (refused : Prop) (result : Except IOReturn Nat × MetalBridge) :
    Prop where
  registry : result.2.registry = m.registry
  failed : ∀ code, result.1 = .error code → refused ∧ result.2.resourceMap = m.resourceMap

theorem backed_createBuffer (length : Nat) (e : StorageEnv) :
    m.Backed (e.resource ≠ .success ∨ e.memory length = false)
      (m.createBuffer 1 (some length) e stored) := by
  unfold createBuffer
  dsimp only
  rw [if_neg (not_not.mpr rfl)]
  split
  next hrefused => exact ⟨rfl, fun _ _ => ⟨Or.inl hrefused, rfl⟩⟩
  split
  next hmemory => exact ⟨rfl, fun _ _ => ⟨Or.inr hmemory, rfl⟩⟩
  · exact ⟨rfl, nofun⟩

theorem backed_createTexture {d : MetalTextureDescriptor} (hd : ¬ textureRefused d)
    (e : StorageEnv) :
    m.Backed (e.resource ≠ .success ∨ e.memory (textureSize d) = false)
      (m.createTexture 1 (some d) e stored) := by
  unfold createTexture
  dsimp only
  rw [if_neg (not_not.mpr rfl), if_neg hd]
  split
  next hrefused => exact ⟨rfl, fun _ _ => ⟨Or.inl hrefused, rfl⟩⟩
  split
  next hmemory => exact ⟨rfl, fun _ _ => ⟨Or.inr hmemory, rfl⟩⟩
  · exact ⟨rfl, nofun⟩

/-! ### Pipelines -/

theorem createRenderPipelineState_result (m : MetalBridge) (device : Nat)
    (descriptor : Bool) (program : ProgramOutcome) (number stored : Bool) :
    (m.createRenderPipelineState device descriptor program number stored).2.registry = m.registry ∧
      ∀ code,
        (m.createRenderPipelineState device descriptor program number stored).1 = .error code →
        (m.createRenderPipelineState device descriptor program number stored).2.resourceMap =
          m.resourceMap ∧
        (∀ n, m.nextProgramId = some n → device = 1 → descriptor = true → program ≠ .linked) := by
  unfold createRenderPipelineState
  split
  next hbad =>
    refine ⟨rfl, fun _ _ => ⟨rfl, fun n _ hdevice hdescriptor => ?_⟩⟩
    rcases hbad with h | h
    · exact absurd (h.symm.trans hdescriptor) Bool.false_ne_true
    · exact absurd hdevice h
  · split
    · cases program with
      | refused ret => exact ⟨rfl, fun _ _ => ⟨rfl, fun _ _ _ _ => nofun⟩⟩
      | unlinked ret => exact ⟨rfl, fun _ _ => ⟨rfl, fun _ _ _ _ => nofun⟩⟩
      | linked => exact ⟨rfl, nofun⟩
    · exact ⟨rfl, nofun⟩

theorem createRenderPipelineState_unlinked {device n : Nat} {descriptor number : Bool}
    {program : ProgramOutcome} {ret : IOReturn} (hdevice : device = 1)
    (hdescriptor : descriptor = true) (hnext : m.nextProgramId = some n)
    (hprogram : program = .unlinked ret) :
    (m.createRenderPipelineState device descriptor program number stored).1 = .error ret := by
  subst hdevice hdescriptor hprogram
  unfold createRenderPipelineState
  rw [if_neg (by decide), hnext]

end MetalBridge

/-! ## The programs -/

namespace ProgramStore
variable {id : Nat} {stored : Bool} {s : ProgramStore}

/-- A program that is created and destroyed is gone, if no other one has its id; else an
older one is gone. -/
theorem destroy_create_iff :
    ((s.createProgram id stored).destroyProgram id).programs = s.programs ↔ ¬ s.Knows id := by
  have herase : s.Knows id → (s.programs.eraseP fun p => p.programId == id).length <
      s.programs.length := by
    rintro ⟨p, hp, hid⟩
    have hpos := List.length_pos_of_mem hp
    rw [List.length_eraseP_of_mem hp (by simpa using hid)]
    omega
  have hkeep : ¬ s.Knows id → ∀ p ∈ s.programs, ¬ (p.programId == id) = true := by
    intro h p hp heq
    exact h ⟨p, hp, by simpa using heq⟩
  show (List.eraseP _ (if stored then s.programs ++ [s.fresh id] else s.programs)) = _ ↔ _
  by_cases hknows : s.Knows id
  · refine iff_of_false (fun heq => ?_) (not_not.mpr hknows)
    split at heq
    · -- the new one is left, and was not there before
      obtain ⟨p, hp, hid⟩ := hknows
      rw [List.eraseP_append_left (by simpa using hid) _ hp] at heq
      have hnew : s.fresh id ∈ s.programs := by
        rw [← heq]
        exact List.mem_append_right _ List.mem_cons_self
      exact Nat.lt_irrefl _ (s.numbered _ hnew)
    · exact Nat.ne_of_lt (herase hknows) (congrArg List.length heq)
  · refine iff_of_true ?_ hknows
    split
    · rw [List.eraseP_append_right _ (hkeep hknows), List.eraseP_cons_of_pos (by simp [fresh]),
        List.append_nil]
    · exact List.eraseP_of_forall_not (hkeep hknows)

end ProgramStore

/-! ## The creators -/

namespace MetalSystem
variable {s : MetalSystem} {e : CreatorEnv}

/-- A failed creator restores everything if bridge, contexts, resources and programs are
as they were. -/
theorem right_of_restored {c : Creator} (h : s.Restored (s.create c e).2) : s.Right c e :=
  ⟨fun _ _ => h, fun i entry hi => by rwa [h.registry]⟩

/-! ### Command buffers -/

section CommandBuffers
variable {queue : Nat}

/-- Not even a context is asked for. -/
theorem right_of_unreached (h : ¬ s.bridge.reachesContext queue = true) :
    s.Right (.commandBuffer queue) e := by
  have hcreate : s.create (.commandBuffer queue) e =
      ((s.bridge.createCommandBuffer queue ⟨e.now, .success, e.dictionary⟩ e.stored).1,
        { s with bridge := (s.bridge.createCommandBuffer queue
            ⟨e.now, .success, e.dictionary⟩ e.stored).2 }) :=
    if_neg h
  have huntouched := MetalBridge.createCommandBuffer_unreached h
    ⟨e.now, .success, e.dictionary⟩ e.stored
  apply right_of_restored
  rw [hcreate]
  exact ⟨rfl, fun _ => Iff.rfl, rfl, huntouched.registry, huntouched.map⟩

theorem create_commandBuffer (h : s.bridge.reachesContext queue = true) :
    s.create (.commandBuffer queue) e =
      ((s.bridge.createCommandBuffer queue
          ⟨e.now, (s.accelerator.create3DContext e.toAccelEnv).1, e.dictionary⟩ e.stored).1,
        { s with
          bridge := (s.bridge.createCommandBuffer queue
            ⟨e.now, (s.accelerator.create3DContext e.toAccelEnv).1, e.dictionary⟩ e.stored).2
          accelerator := (s.accelerator.create3DContext e.toAccelEnv).2 }) :=
  if_pos h

/-- The context is refused. -/
theorem right_of_refused (h : s.bridge.reachesContext queue = true)
    (hctx : (s.accelerator.create3DContext e.toAccelEnv).1 ≠ .success) :
    s.Right (.commandBuffer queue) e := by
  obtain ⟨hpool, hcontexts⟩ := s.accelerator.create3DContext_cases e.toAccelEnv
  have hsame := (hcontexts.resolve_right fun h => hctx h.1).2
  rcases MetalBridge.createCommandBuffer_reached h
      ⟨e.now, (s.accelerator.create3DContext e.toAccelEnv).1, e.dictionary⟩ e.stored with
    ⟨-, huntouched⟩ | ⟨hok, -⟩
  · apply right_of_restored
    rw [create_commandBuffer h]
    exact ⟨congrArg Pool.entries hsame, fun r => by rw [hpool], rfl, huntouched.registry,
      huntouched.map⟩
  · exact absurd hok hctx

/-- The context is there and stays: what comes after it must not fail. -/
theorem right_of_granted_iff (h : s.bridge.reachesContext queue = true)
    (hctx : (s.accelerator.create3DContext e.toAccelEnv).1 = .success) :
    s.Right (.commandBuffer queue) e ↔ s.bridge.nextResourceId ≠ 0 ∧ e.dictionary = true ∧
      Room ⟨s.bridge.nextResourceId, e.now⟩ s.bridge.registry := by
  obtain ⟨-, hcontexts⟩ := s.accelerator.create3DContext_cases e.toAccelEnv
  have hstays := (hcontexts.resolve_left fun h => h.1 hctx).2
  obtain ⟨hrefused, -⟩ | ⟨-, i, m', hregistry, -, hfinish⟩ :=
    MetalBridge.createCommandBuffer_reached h
      ⟨e.now, (s.accelerator.create3DContext e.toAccelEnv).1, e.dictionary⟩ e.stored
  · exact absurd hctx hrefused
  have hwrong : ∀ ret, (s.create (.commandBuffer queue) e).1 = .error ret →
      ¬ s.Right (.commandBuffer queue) e := by
    intro ret herror hright
    have hrestored := hright.failed ret herror
    rw [create_commandBuffer h] at hrestored
    exact hstays hrestored.contexts
  rw [create_commandBuffer h, hfinish] at hwrong
  by_cases hlate : s.bridge.nextResourceId = 0 ∨ e.dictionary = false
  · obtain ⟨ret, herror⟩ := MetalBridge.finishCommandBuffer_failed m' i
      ⟨e.now, (s.accelerator.create3DContext e.toAccelEnv).1, e.dictionary⟩ e.stored hlate
    refine iff_of_false (hwrong ret herror) ?_
    rintro ⟨hid, hdictionary, -⟩
    rcases hlate with hzero | hnone
    · exact hid hzero
    · exact Bool.false_ne_true (hnone.symm.trans hdictionary)
  · obtain ⟨hid, hdictionary⟩ := not_or.mp hlate
    rw [Bool.not_eq_false] at hdictionary
    rw [and_iff_right hid, and_iff_right hdictionary]
    obtain ⟨hnone, herror⟩ | ⟨registry, hsome, hok, hnew⟩ :=
      MetalBridge.finishCommandBuffer_cases m' i
        ⟨e.now, (s.accelerator.create3DContext e.toAccelEnv).1, e.dictionary⟩ e.stored hid
        hdictionary
    · rw [hregistry] at hnone
      exact iff_of_false (hwrong .noMemory (by rw [herror]))
        (MetalBridge.not_room_of_register hnone)
    · rw [hregistry] at hsome
      have hresult : (s.create (.commandBuffer queue) e).2.bridge.registry = registry := by
        rw [create_commandBuffer h, hfinish]
        exact hnew
      rw [← MetalBridge.register_keeps_iff hsome, ← hresult]
      refine ⟨Right.kept, fun hkept => ⟨fun ret herror => ?_, hkept⟩⟩
      rw [create_commandBuffer h, hfinish, hok] at herror
      cases herror

theorem right_commandBuffer_iff :
    s.Right (.commandBuffer queue) e ↔ s.Meets e (.commandBuffer queue) := by
  by_cases hreach : s.bridge.reachesContext queue = true
  · by_cases hctx : (s.accelerator.create3DContext e.toAccelEnv).1 = .success
    · exact (right_of_granted_iff hreach hctx).trans ⟨fun h _ _ => h, fun h => h hreach hctx⟩
    · exact iff_of_true (right_of_refused hreach hctx) fun _ h => absurd h hctx
  · exact iff_of_true (right_of_unreached hreach) fun h => absurd h hreach

end CommandBuffers

/-! ### Buffers and textures -/

/-- What comes of a creation that got as far as the device. -/
theorem right_of_storage {c : Creator} {granted : Bool} (device : IOReturn × Gpu)
    (finish : IOReturn → Except IOReturn Nat × MetalBridge)
    (hcreate : s.create c e = ((finish device.1).1, { s with
      bridge := (finish device.1).2
      accelerator := s.accelerator.withGpu device.2 }))
    (hlive : device.1 ≠ .success ∨ granted = false → ∀ r,
      device.2.pool.Live r ↔ s.accelerator.gpu.pool.Live r)
    (hbacked : ∀ ret, s.bridge.Backed (ret ≠ .success ∨ granted = false) (finish ret)) :
    s.Right c e := by
  replace hbacked := hbacked device.1
  constructor
  · intro code herror
    rw [hcreate] at herror ⊢
    obtain ⟨hno, hmap⟩ := hbacked.failed code herror
    exact ⟨rfl, hlive hno, rfl, hbacked.registry, hmap⟩
  · intro i entry hi
    rw [hcreate]
    exact (congrArg (·[i]?) hbacked.registry).trans hi

theorem right_of_unchanged {c : Creator} (h : (s.create c e).2 = s) : s.Right c e := by
  apply right_of_restored
  rw [h]
  exact ⟨rfl, fun _ => Iff.rfl, rfl, rfl, rfl⟩

theorem right_buffer {device : Nat} {length : Option Nat} : s.Right (.buffer device length) e := by
  cases length with
  | none => exact right_of_unchanged rfl
  | some n =>
      by_cases hdevice : device = 1
      · subst hdevice
        exact right_of_storage
          (s.accelerator.gpu.allocateStorage e.toEnv resourceTargetBuffer 0 n 1 1 (e.grants n))
          (fun ret => s.bridge.createBuffer 1 (some n) (storage ret e) e.stored) rfl
          (Gpu.live_allocateStorage e.unrefs)
          fun ret => MetalBridge.backed_createBuffer n (storage ret e)
      · exact right_of_unchanged (congrArg Prod.snd (if_pos hdevice))

theorem right_texture {device : Nat} {descriptor : Option MetalTextureDescriptor} :
    s.Right (.texture device descriptor) e := by
  cases descriptor with
  | none => exact right_of_unchanged rfl
  | some d =>
      by_cases hbad : device ≠ 1 ∨ MetalBridge.textureRefused d
      · exact right_of_unchanged (congrArg Prod.snd (if_pos hbad))
      · obtain ⟨hdevice, hd⟩ := not_or.mp hbad
        obtain rfl := not_not.mp hdevice
        exact right_of_storage
          (s.accelerator.gpu.allocateStorage e.toEnv (metalTextureTarget d.textureType)
            (translateVMPixelFormat d.pixelFormat) d.width d.height d.depth
            (e.grants (MetalBridge.textureSize d)))
          (fun ret => s.bridge.createTexture 1 (some d) (storage ret e) e.stored) (if_neg hbad)
          (Gpu.live_allocateStorage e.unrefs)
          fun ret => MetalBridge.backed_createTexture hd (storage ret e)

/-! ### Pipelines -/

/-- What a pipeline leaves of the programs. -/
theorem create_renderPipeline (device : Nat) (descriptor : Bool) (e : CreatorEnv)
    (s : MetalSystem) :
    let result := s.bridge.createRenderPipelineState device descriptor e.program e.number e.stored
    ∃ programs, s.create (.renderPipeline device descriptor) e =
        (result.1, { s with bridge := result.2, programs := programs }) ∧
      ((∃ n, s.bridge.nextProgramId = some n ∧ device = 1 ∧ descriptor = true ∧
          programs = pipelinePrograms (inc32 n) e s.programs) ∨
        (¬ (∃ n, s.bridge.nextProgramId = some n ∧ device = 1 ∧ descriptor = true) ∧
          programs = s.programs)) := by
  intro result
  unfold create createRenderPipelineState
  dsimp only
  cases hnext : s.bridge.nextProgramId with
  | none => exact ⟨_, rfl, Or.inr ⟨fun ⟨n, h, _⟩ => Option.some_ne_none n h.symm, rfl⟩⟩
  | some n =>
      dsimp only
      split
      next hbad =>
        refine ⟨_, rfl, Or.inr ⟨fun ⟨_, _, hdevice, hdescriptor⟩ => ?_, rfl⟩⟩
        rcases hbad with h | h
        · exact Bool.false_ne_true (h.symm.trans hdescriptor)
        · exact h hdevice
      next hgood =>
        obtain ⟨hdescriptor, hdevice⟩ := not_or.mp hgood
        exact ⟨_, rfl, Or.inl ⟨n, rfl, not_not.mp hdevice, by simpa using hdescriptor, rfl⟩⟩

theorem right_renderPipeline_iff {device : Nat} {descriptor : Bool} :
    s.Right (.renderPipeline device descriptor) e ↔
      s.Meets e (.renderPipeline device descriptor) := by
  obtain ⟨programs, hcreate, hprograms⟩ := create_renderPipeline device descriptor e s
  obtain ⟨hregistry, hfailed⟩ := s.bridge.createRenderPipelineState_result device descriptor
    e.program e.number e.stored
  constructor
  · -- an error, and so the programs are the same
    intro h hdevice hdescriptor n ret hnext hprogram
    obtain ⟨n', hnext', -, -, rfl⟩ | ⟨hnot, -⟩ := hprograms
    · obtain rfl : n = n' := Option.some.inj (hnext.symm.trans hnext')
      have herror : (s.create (.renderPipeline device descriptor) e).1 = .error ret := by
        rw [hcreate]
        exact MetalBridge.createRenderPipelineState_unlinked hdevice hdescriptor hnext hprogram
      have hrestored := h.failed ret herror
      rw [hcreate] at hrestored
      have hsame := hrestored.programs
      unfold pipelinePrograms at hsame
      rw [hprogram] at hsame
      exact ProgramStore.destroy_create_iff.mp hsame
    · exact absurd ⟨n, hnext, hdevice, hdescriptor⟩ hnot
  · intro h
    constructor
    · intro code herror
      rw [hcreate] at herror ⊢
      obtain ⟨hmap, hlinked⟩ := hfailed code herror
      refine ⟨rfl, fun _ => Iff.rfl, ?_, hregistry, hmap⟩
      obtain ⟨n, hnext, hdevice, hdescriptor, rfl⟩ | ⟨-, rfl⟩ := hprograms
      · unfold pipelinePrograms
        cases hprogram : e.program with
        | refused ret => rfl
        | unlinked ret =>
            exact ProgramStore.destroy_create_iff.mpr (h hdevice hdescriptor n ret hnext hprogram)
        | linked => exact absurd hprogram (hlinked n hnext hdevice hdescriptor)
      · rfl
    · intro i entry hi
      rw [hcreate]
      exact (congrArg (·[i]?) hregistry).trans hi

/-- **When a creator leaves nothing behind.** -/
theorem right_iff {c : Creator} : s.Right c e ↔ s.Meets e c := by
  cases c with
  | commandBuffer queue => exact right_commandBuffer_iff
  | buffer device length => exact iff_of_true right_buffer trivial
  | texture device descriptor => exact iff_of_true right_texture trivial
  | renderPipeline device descriptor => exact right_renderPipeline_iff

/-! ## Along runs -/

/-- What is asked of the creators among the calls. -/
def RightCall (s : MetalSystem) : Call → Prop
  | .create c e => s.Right c e
  | .createCommandQueue .. | .elsewhere .. => True

def MeetsCall (s : MetalSystem) : Call → Prop
  | .create c e => s.Meets e c
  | .createCommandQueue .. | .elsewhere .. => True

theorem rightCall_iff (s : MetalSystem) (call : Call) : s.RightCall call ↔ s.MeetsCall call := by
  cases call with
  | create c e => exact right_iff
  | createCommandQueue device array stored => exact Iff.rfl
  | elsewhere accelerator programs nextProgramId => exact Iff.rfl

/-- **Whatever happens between the creators' calls.** -/
theorem along_creators_iff (nextProgramId : Option Nat) (accelerator : Accelerator)
    (calls : List Call) :
    (machine (start nextProgramId accelerator)).Along RightCall (start nextProgramId accelerator)
        calls ↔
      (machine (start nextProgramId accelerator)).Along MeetsCall (start nextProgramId accelerator)
        calls :=
  Machine.along_iff_along (I := fun _ => True) _ (fun _ _ _ _ _ _ => trivial)
    (fun s call _ _ _ => rightCall_iff s call) trivial

/-- Everything but the dictionary of a command buffer. -/
def noDictionary : CreatorEnv where
  toAccelEnv := .accepting
  destroys := fun _ => rfl
  unrefs := fun _ => rfl
  now := 1
  dictionary := false
  metadata := true
  stored := true
  number := true
  program := .linked
  programStored := true

/-- **No memory for the dictionary: the context and the slot of the registry are lost.** -/
theorem lost_without_dictionary :
    ¬ (machine (start none (.init true 1))).Along RightCall (start none (.init true 1))
      [.createCommandQueue 1 true true, .create (.commandBuffer 1) noDictionary] := by
  rintro ⟨-, hright, -⟩
  have hrestored := hright.failed .noMemory rfl
  exact absurd (congrArg List.length hrestored.registry) (by decide)

end MetalSystem

end VMQemuVGA
