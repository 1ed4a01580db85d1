import VMQemuVGA.Lib.FirstMatch
import VMQemuVGA.Metal.CommandBufferPools
import VMQemuVGA.Metal.Creators

/-! # Which command buffer depends on which

`createCommandBuffer` ends with the dependencies of the new command buffer: it is entered
among the tracked resources, compared with the other command buffers of the registry, and
connected with those it depends on by edges of the dependency graph. -/

namespace VMQemuVGA

/-- `VMMetalCommandBufferInfo`, as far as dependencies go. -/
structure CommandBufferEntry extends CommandBufferInfo where
  queueId : Nat
  priorityLevel : Nat
  hasDependencies : Bool
  deriving DecidableEq, Repr

/-- `VMResourceDependencyInfo`. -/
structure ResourceDependencyInfo where
  resourceId : Nat
  /-- `dependent_buffers`, the first `dependency_count` of them -/
  dependentBuffers : List Nat
  hasWriteDependency : Bool
  requiresMemoryBarrier : Bool
  deriving DecidableEq, Repr

/-- `VMDependencyEdge`. -/
structure DependencyEdge where
  sourceBufferId : Nat
  targetBufferId : Nat
  dependencyType : Nat
  isResolved : Bool
  requiresSynchronization : Bool
  deriving DecidableEq, Repr

/-- `VMDependencyStats`. -/
structure DependencyStats where
  totalDependencies : Nat
  resolvedDependencies : Nat
  activeBarriers : Nat
  hazardDetections : Nat
  graphNodes : Nat
  graphEdges : Nat
  deriving DecidableEq, Repr

def DependencyStats.zero : DependencyStats := ⟨0, 0, 0, 0, 0, 0⟩

/-- What a memory barrier gets: whether the device does 3D, and what `executeCommands`
returns. -/
structure BarrierEnv where
  supports3D : Bool
  executed : IOReturn

structure DependencyTracker where
  /-- `g_command_buffer_registry` -/
  registry : List CommandBufferEntry
  /-- the entries of `g_resource_dependencies` in use -/
  resources : List ResourceDependencyInfo
  /-- `g_dependency_edges` -/
  edges : List DependencyEdge
  stats : DependencyStats

namespace DependencyTracker

def start : DependencyTracker := ⟨[], [], [], .zero⟩

/-! ## Two command buffers -/

/-- The same function is used for queues and for command buffers. -/
def determineCommandBufferPriority (queue : Nat) : Nat :=
  if queue ≤ 2 then 3 else if queue ≤ 8 then 2 else if queue ≤ 32 then 1 else 0

def analyzeResourceConflicts (buffer₁ buffer₂ : Nat) : Bool :=
  determineCommandBufferPriority buffer₁ ≥ determineCommandBufferPriority buffer₂

def detectMemoryHazards (info₁ info₂ : CommandBufferEntry) : Bool :=
  info₁.creationTime < info₂.creationTime ||
    (info₁.queueId = info₂.queueId && info₁.priorityLevel = info₂.priorityLevel)

/-- 0 for a read after a write, 1 for a write after a read, 2 for a write after a write. -/
def determineDependencyType (source target : Nat) : Nat :=
  if determineCommandBufferPriority source > determineCommandBufferPriority target then 0
  else if determineCommandBufferPriority source < determineCommandBufferPriority target then 1
  else 2

/-- `configureSyncPrimitive` knows the first three types. -/
def configureSyncPrimitive (edge : DependencyEdge) : IOReturn :=
  if edge.dependencyType ≤ 2 then .success else .unsupported

/-! ## The phases -/

/-- A slot of the registry, as `MetalBridge.register` finds it. -/
def register (entry : CommandBufferEntry) (t : DependencyTracker) : DependencyTracker :=
  { t with
    registry :=
      if t.registry.length < 256 then t.registry ++ [entry]
      else
        match MetalBridge.findLRUCommandBuffer (t.registry.map (·.toCommandBufferInfo)) 0
            (u64 - 1, none) with
        | some i => t.registry.set i entry
        | none => t.registry }

/-- Edges and counts are cleared before the first entry. -/
def initializeAdvancedDependencyTracking (id : Nat) (t : DependencyTracker) :
    IOReturn × DependencyTracker :=
  let t := if t.resources = [] then { t with edges := [], stats := .zero } else t
  if t.resources.length < 256 then
    (.success, { t with
      resources := t.resources ++ [⟨id, [], false, false⟩]
      stats := { t.stats with totalDependencies := t.stats.totalDependencies + 1 } })
  else (.noMemory, t)

/-- The entry of a resource: the first with its id. -/
def findResourceDependency (id : Nat) (t : DependencyTracker) : Option ResourceDependencyInfo :=
  t.resources.find? fun r => r.resourceId = id

/-- The other command buffers of the registry. -/
def others (id : Nat) (t : DependencyTracker) : List CommandBufferEntry :=
  t.registry.filter fun other => other.bufferId ≠ 0 ∧ other.bufferId ≠ id

/-- The command buffers in conflict, 16 at most. -/
def dependents (id : Nat) (t : DependencyTracker) : List Nat :=
  (((t.others id).filter fun other => analyzeResourceConflicts id other.bufferId).map
    (·.bufferId)).take 16

/-- Change the entry of a resource. -/
def setResource (id : Nat) (change : ResourceDependencyInfo → ResourceDependencyInfo)
    (t : DependencyTracker) : DependencyTracker :=
  { t with resources := FirstMatch.modify (fun r => r.resourceId = id) change t.resources }

/-- The command buffers in conflict become those depended on; a hazard asks for a barrier. -/
def analyzeCommandBufferResourceDependencies (id : Nat) (info : CommandBufferEntry)
    (t : DependencyTracker) : IOReturn × DependencyTracker :=
  if t.findResourceDependency id = none then (.notFound, t)
  else
    let hazards := (t.others id).countP (detectMemoryHazards info)
    let t' := t.setResource id fun r => { r with
      dependentBuffers := t.dependents id
      hasWriteDependency := r.hasWriteDependency || decide (0 < hazards)
      requiresMemoryBarrier := r.requiresMemoryBarrier || decide (0 < hazards) }
    (if t.dependents id = [] then .notFound else .success, { t' with
      stats := { t.stats with hazardDetections := t.stats.hazardDetections + hazards } })

/-- One edge more, if there is room for one. -/
def addEdge (source : Nat) (t : DependencyTracker) (target : Nat) : DependencyTracker :=
  if target ≠ 0 ∧ t.edges.length < 512 then
    let type := determineDependencyType source target
    { t with
      edges := t.edges ++ [⟨source, target, type, false, type ≠ 3⟩]
      stats := { t.stats with graphEdges := t.stats.graphEdges + 1 } }
  else t

def constructDependencyGraph (id : Nat) (t : DependencyTracker) : IOReturn × DependencyTracker :=
  match t.findResourceDependency id with
  | none => (.notFound, t)
  | some r =>
      let t := (r.dependentBuffers.take 16).foldl (addEdge id) t
      (.success, { t with stats := { t.stats with graphNodes := t.stats.graphNodes + 1 } })

/-- The edge is one that a primitive is configured for. -/
def synchronizes (id : Nat) (edge : DependencyEdge) : Bool :=
  edge.sourceBufferId = id && edge.requiresSynchronization &&
    configureSyncPrimitive edge = .success

/-- Set the flag of a command buffer. -/
def flag (id : Nat) (value : Bool) (t : DependencyTracker) : DependencyTracker :=
  { t with
    registry := FirstMatch.modify (fun entry => entry.bufferId = id)
      (fun entry => { entry with hasDependencies := value }) t.registry }

/-- The edges of the command buffer are resolved. -/
def configureSynchronizationPrimitives (id : Nat) (t : DependencyTracker) : DependencyTracker :=
  let configured := t.edges.countP (synchronizes id)
  let t' := { t with
    edges := t.edges.map fun edge =>
      if synchronizes id edge then { edge with isResolved := true } else edge
    stats := { t.stats with
      resolvedDependencies := t.stats.resolvedDependencies + configured } }
  if configured > 0 then t'.flag id true else t'

def setupMemoryBarriers (id : Nat) (env : BarrierEnv) (t : DependencyTracker) :
    IOReturn × DependencyTracker :=
  match t.findResourceDependency id with
  | none => (.notFound, t)
  | some r =>
      if r.requiresMemoryBarrier then
        if env.supports3D ∧ env.executed = .success then
          (.success, { t with
            stats := { t.stats with activeBarriers := t.stats.activeBarriers + 1 } })
        else (.success, t)
      else (.notFound, t)

/-- What a phase returns is looked at after the first two only. -/
def initializeCommandBufferDependencies (id : Nat) (env : BarrierEnv) (t : DependencyTracker) :
    IOReturn × DependencyTracker :=
  match t.registry.find? fun entry => entry.bufferId = id with
  | none => (.notFound, t)
  | some info =>
      let t := t.flag id false
      let (ret, t) := t.initializeAdvancedDependencyTracking id
      if ret ≠ .success then (ret, t)
      else
        let (ret, t) := t.analyzeCommandBufferResourceDependencies id info
        let t := if ret = .success then t.flag id true else t
        let t := (t.constructDependencyGraph id).2
        let t := t.configureSynchronizationPrimitives id
        (.success, (t.setupMemoryBarriers id env).2)

end DependencyTracker

/-! ## With the bridge -/

/-- `createCommandBuffer` gets as far as the registry. -/
def MetalBridge.reachesRegistry (queue : Nat) (e : CommandBufferEnv) (m : MetalBridge) : Bool :=
  m.reachesContext queue && e.context = .success && m.nextResourceId ≠ 0

/-- A bridge with its run, and the dependencies of its command buffers. -/
structure TrackedRun where
  run : MetalRun
  tracker : DependencyTracker

namespace TrackedRun

def start (nextProgramId : Option Nat) : TrackedRun := ⟨.start nextProgramId, .start⟩

/-- The dependencies after a call. -/
def track (s : TrackedRun) (env : BarrierEnv) : MetalCall → DependencyTracker
  | .createCommandBuffer queue e stored =>
      if s.run.bridge.reachesRegistry queue e then
        let t := s.tracker.register ⟨⟨s.run.bridge.nextResourceId, e.now⟩, queue,
          DependencyTracker.determineCommandBufferPriority queue, false⟩
        match (s.run.bridge.createCommandBuffer queue e stored).1 with
        | .ok id => (t.initializeCommandBufferDependencies id env).2
        | .error _ => t
      else s.tracker
  | _ => s.tracker

def step (s : TrackedRun) (c : MetalCall × BarrierEnv) : Option TrackedRun :=
  (s.run.step c.1).map fun run => ⟨run, s.track c.2 c.1⟩

def machine (nextProgramId : Option Nat) : Machine TrackedRun (MetalCall × BarrierEnv) where
  init := start nextProgramId
  step := step

end TrackedRun
end VMQemuVGA
