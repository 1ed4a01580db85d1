import Mathlib.Logic.Relation
import VMQemuVGA.Metal.Dependencies

/-! # The dependency graph of the command buffers

A command buffer comes to depend on those before it that are of its own priority. Ids being
handed out in order, the edges of the graph lead back to smaller ids, so that no command
buffer waits for itself, whatever detours there are. -/

namespace VMQemuVGA

open DependencyTracker

/-- An edge leads to an earlier command buffer of the same priority, as a write after a write,
and is resolved. -/
structure DependencyEdge.Settled (edge : DependencyEdge) : Prop where
  earlier : edge.targetBufferId < edge.sourceBufferId
  priority : determineCommandBufferPriority edge.sourceBufferId =
    determineCommandBufferPriority edge.targetBufferId
  type : edge.dependencyType = 2
  resolved : edge.isResolved = true
  synchronized : edge.requiresSynchronization = true

namespace DependencyTracker

variable {t u : DependencyTracker} {id i next : Nat}

/-- The registry as the bridge has it. -/
def infos (t : DependencyTracker) : List CommandBufferInfo :=
  t.registry.map (·.toCommandBufferInfo)

/-- One command buffer waits for another. -/
def WaitsFor (t : DependencyTracker) (a b : Nat) : Prop :=
  ∃ edge ∈ t.edges, edge.sourceBufferId = a ∧ edge.targetBufferId = b

structure Sound (t : DependencyTracker) : Prop where
  acyclic : ∀ a, ¬ Relation.TransGen t.WaitsFor a a
  settled : ∀ edge ∈ t.edges, edge.Settled
  /-- 512 edges in all, 16 from each command buffer -/
  few : t.edges.length ≤ 512
  fewEach : ∀ a, t.edges.countP (fun edge => edge.sourceBufferId = a) ≤ 16
  /-- the statistics count the edges -/
  resolved : t.stats.resolvedDependencies = t.edges.length
  counted : t.stats.graphEdges = t.edges.length

/-- The invariant: all ids are below the next one. -/
structure Ordered (next : Nat) (t : DependencyTracker) : Prop where
  entries : ∀ x ∈ t.infos, x.bufferId < next
  sources : ∀ edge ∈ t.edges, edge.sourceBufferId < next
  settled : ∀ edge ∈ t.edges, edge.Settled
  few : t.edges.length ≤ 512
  fewEach : ∀ a, t.edges.countP (fun edge => edge.sourceBufferId = a) ≤ 16
  resolved : t.stats.resolvedDependencies = t.edges.length
  counted : t.stats.graphEdges = t.edges.length
  unused : t.resources = [] → t.edges = []

/-- Waiting leads to ever smaller ids. -/
theorem Ordered.sound (h : t.Ordered next) : t.Sound where
  acyclic a hcycle := by
    have hless : ∀ b, Relation.TransGen t.WaitsFor a b → b < a := by
      intro b hb
      induction hb with
      | single hstep =>
          obtain ⟨edge, hedge, rfl, rfl⟩ := hstep
          exact (h.settled edge hedge).earlier
      | tail _ hstep ih =>
          obtain ⟨edge, hedge, rfl, rfl⟩ := hstep
          exact Nat.lt_trans (h.settled edge hedge).earlier ih
    exact Nat.lt_irrefl a (hless a hcycle)
  settled := h.settled
  few := h.few
  fewEach := h.fewEach
  resolved := h.resolved
  counted := h.counted

theorem Ordered.mono {next' : Nat} (h : t.Ordered next) (hle : next ≤ next') : t.Ordered next' where
  entries x hx := Nat.lt_of_lt_of_le (h.entries x hx) hle
  sources edge hedge := Nat.lt_of_lt_of_le (h.sources edge hedge) hle
  settled := h.settled
  few := h.few
  fewEach := h.fewEach
  resolved := h.resolved
  counted := h.counted
  unused := h.unused

/-! ## Priorities -/

theorem determineCommandBufferPriority_anti {a b : Nat} (h : a ≤ b) :
    determineCommandBufferPriority b ≤ determineCommandBufferPriority a := by
  unfold determineCommandBufferPriority
  split <;> split <;> grind

/-- An earlier command buffer is in conflict exactly if it is of the same priority. -/
theorem priority_eq_of_conflict {d : Nat} (hle : d ≤ id)
    (h : analyzeResourceConflicts id d = true) :
    determineCommandBufferPriority id = determineCommandBufferPriority d := by
  have hge : determineCommandBufferPriority d ≤ determineCommandBufferPriority id :=
    of_decide_eq_true h
  exact Nat.le_antisymm (determineCommandBufferPriority_anti hle) hge

/-! ## The phases -/

/-- Nothing of the graph changes, nor which command buffers are registered. -/
structure SameGraph (t u : DependencyTracker) : Prop where
  infos : u.infos = t.infos
  edges : u.edges = t.edges
  resolved : u.stats.resolvedDependencies = t.stats.resolvedDependencies
  counted : u.stats.graphEdges = t.stats.graphEdges

theorem SameGraph.trans {v : DependencyTracker} (h₁ : SameGraph t u) (h₂ : SameGraph u v) :
    SameGraph t v where
  infos := h₂.infos.trans h₁.infos
  edges := h₂.edges.trans h₁.edges
  resolved := h₂.resolved.trans h₁.resolved
  counted := h₂.counted.trans h₁.counted

theorem sameGraph_flag (id : Nat) (value : Bool) : SameGraph t (t.flag id value) where
  infos := FirstMatch.map_modify fun _ => rfl
  edges := rfl
  resolved := rfl
  counted := rfl

/-- The new entry goes behind the others, if there is room. -/
theorem initializeAdvancedDependencyTracking_cases (id : Nat) (t : DependencyTracker) :
    (t.resources.length < 256 ∧ (t.initializeAdvancedDependencyTracking id).1 = .success ∧
      (t.initializeAdvancedDependencyTracking id).2.resources =
        t.resources ++ [⟨id, [], false, false⟩]) ∨
      256 ≤ t.resources.length ∧ t.initializeAdvancedDependencyTracking id = (.noMemory, t) := by
  unfold initializeAdvancedDependencyTracking
  by_cases hnil : t.resources = []
  · left
    simp [hnil]
  · dsimp only
    rw [if_neg hnil]
    split
    · next hlt => exact .inl ⟨hlt, rfl, rfl⟩
    · next hge => exact .inr ⟨Nat.le_of_not_lt hge, rfl⟩

/-- Before the first entry there is nothing to clear. -/
theorem sameGraph_initializeAdvancedDependencyTracking (id : Nat)
    (hunused : t.resources = [] → t.edges = [] ∧ t.stats.resolvedDependencies = 0 ∧
      t.stats.graphEdges = 0) :
    SameGraph t (t.initializeAdvancedDependencyTracking id).2 := by
  unfold initializeAdvancedDependencyTracking
  dsimp only
  by_cases hnil : t.resources = []
  · obtain ⟨hedges, hresolved, hcounted⟩ := hunused hnil
    rw [if_pos hnil]
    split
    · exact ⟨rfl, hedges.symm, hresolved.symm, hcounted.symm⟩
    · exact ⟨rfl, hedges.symm, hresolved.symm, hcounted.symm⟩
  · rw [if_neg hnil]
    split
    · exact ⟨rfl, rfl, rfl, rfl⟩
    · exact ⟨rfl, rfl, rfl, rfl⟩

theorem analyze_spec (id : Nat) (info : CommandBufferEntry) (t : DependencyTracker) :
    SameGraph t (t.analyzeCommandBufferResourceDependencies id info).2 ∧
      (t.analyzeCommandBufferResourceDependencies id info).2.resources.map (·.resourceId) =
        t.resources.map (·.resourceId) ∧
      ∀ r, (t.analyzeCommandBufferResourceDependencies id info).2.findResourceDependency id =
        some r → r.dependentBuffers = t.dependents id := by
  unfold analyzeCommandBufferResourceDependencies
  split
  · next hnone =>
    refine ⟨⟨rfl, rfl, rfl, rfl⟩, rfl, fun r hr => ?_⟩
    rw [hnone] at hr
    cases hr
  · next hsome =>
    refine ⟨⟨rfl, rfl, rfl, rfl⟩, FirstMatch.map_modify fun _ => rfl, fun r hr => ?_⟩
    obtain ⟨r₀, hr₀⟩ := Option.ne_none_iff_exists'.mp hsome
    have hid := List.find?_some hr₀
    have hfound := (FirstMatch.find?_modify hr₀ hid).symm.trans hr
    exact Option.some.inj hfound ▸ rfl

theorem setupMemoryBarriers_spec (id : Nat) (env : BarrierEnv) :
    SameGraph t (t.setupMemoryBarriers id env).2 ∧
      (t.setupMemoryBarriers id env).2.resources = t.resources := by
  unfold setupMemoryBarriers
  split
  · exact ⟨⟨rfl, rfl, rfl, rfl⟩, rfl⟩
  split
  · split
    · exact ⟨⟨rfl, rfl, rfl, rfl⟩, rfl⟩
    · exact ⟨⟨rfl, rfl, rfl, rfl⟩, rfl⟩
  · exact ⟨⟨rfl, rfl, rfl, rfl⟩, rfl⟩

/-- The command buffers depended on come earlier and are of the same priority. -/
theorem dependents_spec (hlisted : ∀ x ∈ t.infos, x.bufferId < id + 1) :
    (t.dependents id).length ≤ 16 ∧ ∀ d ∈ t.dependents id, d < id ∧
      determineCommandBufferPriority id = determineCommandBufferPriority d := by
  refine ⟨List.length_take_le _ _, fun d hd => ?_⟩
  obtain ⟨x, hx, rfl⟩ := List.mem_map.mp (List.mem_of_mem_take hd)
  obtain ⟨hx, hconflict⟩ := List.mem_filter.mp hx
  obtain ⟨hx, hother⟩ := List.mem_filter.mp hx
  obtain ⟨-, hne⟩ := of_decide_eq_true hother
  have hle : x.bufferId ≤ id := Nat.le_of_lt_succ (hlisted _ (List.mem_map_of_mem hx))
  exact ⟨Nat.lt_of_le_of_ne hle hne, priority_eq_of_conflict hle hconflict⟩

/-! ### Edges -/

/-- The edge from one command buffer to another. -/
def newEdge (resolved : Bool) (source target : Nat) : DependencyEdge :=
  ⟨source, target, determineDependencyType source target, resolved,
    determineDependencyType source target ≠ 3⟩

/-- Edges to the targets are added behind the others. -/
structure Grown (id : Nat) (targets : List Nat) (t u : DependencyTracker) : Prop where
  infos : u.infos = t.infos
  resources : u.resources = t.resources
  edges : u.edges = t.edges ++ targets.map (newEdge false id)
  few : u.edges.length ≤ 512
  resolved : u.stats.resolvedDependencies = t.stats.resolvedDependencies
  counted : u.stats.graphEdges = t.stats.graphEdges + targets.length

/-- As long as there is room every edge is added. -/
theorem foldl_addEdge (id : Nat) (ds : List Nat) (hfew : t.edges.length ≤ 512) :
    ∃ targets, targets.Sublist ds ∧ Grown id targets t (ds.foldl (addEdge id) t) := by
  induction ds generalizing t with
  | nil => exact ⟨[], .slnil, rfl, rfl, (List.append_nil _).symm, hfew, rfl, rfl⟩
  | cons d ds ih =>
      rw [List.foldl_cons]
      by_cases hadd : d ≠ 0 ∧ t.edges.length < 512
      · have hedges : (t.addEdge id d).edges = t.edges ++ [newEdge false id d] := by
          rw [addEdge, if_pos hadd]
          rfl
        have hcounted : (t.addEdge id d).stats.graphEdges = t.stats.graphEdges + 1 := by
          rw [addEdge, if_pos hadd]
        have hsame : (t.addEdge id d).infos = t.infos ∧ (t.addEdge id d).resources = t.resources ∧
            (t.addEdge id d).stats.resolvedDependencies = t.stats.resolvedDependencies := by
          rw [addEdge, if_pos hadd]
          exact ⟨rfl, rfl, rfl⟩
        have hlength : (t.addEdge id d).edges.length ≤ 512 := by
          rw [hedges, List.length_append, List.length_singleton]
          exact hadd.2
        obtain ⟨targets, hsub, hgrown⟩ := ih hlength
        refine ⟨d :: targets, hsub.cons_cons d, hgrown.infos.trans hsame.1,
          hgrown.resources.trans hsame.2.1, ?_, hgrown.few, hgrown.resolved.trans hsame.2.2, ?_⟩
        · rw [hgrown.edges, hedges, List.append_assoc]
          rfl
        · rw [hgrown.counted, hcounted, List.length_cons]
          omega
      · have hsame : t.addEdge id d = t := by rw [addEdge, if_neg hadd]
        rw [hsame]
        obtain ⟨targets, hsub, hgrown⟩ := ih hfew
        exact ⟨targets, hsub.cons d, hgrown⟩

/-- The graph gets an edge to each of some of the command buffers depended on. -/
theorem constructDependencyGraph_grown {ds : List Nat} (hfew : t.edges.length ≤ 512)
    (hds : ∀ r, t.findResourceDependency id = some r → r.dependentBuffers = ds) :
    ∃ targets, targets.Sublist ds ∧ Grown id targets t (t.constructDependencyGraph id).2 := by
  unfold constructDependencyGraph
  split
  · exact ⟨[], List.nil_sublist _, rfl, rfl, (List.append_nil _).symm, hfew, rfl, rfl⟩
  · next r hr =>
    obtain ⟨targets, hsub, hgrown⟩ := foldl_addEdge id (r.dependentBuffers.take 16) hfew
    refine ⟨targets, ?_, hgrown.infos, hgrown.resources, hgrown.edges, hgrown.few,
      hgrown.resolved, hgrown.counted⟩
    rw [← hds r hr]
    exact hsub.trans (List.take_sublist _ _)

/-- New edges are resolved at once. -/
structure Connected (id : Nat) (targets : List Nat) (t u : DependencyTracker) : Prop where
  infos : u.infos = t.infos
  edges : u.edges = t.edges ++ targets.map (newEdge true id)
  few : u.edges.length ≤ 512
  resolved : u.stats.resolvedDependencies = t.stats.resolvedDependencies + targets.length
  counted : u.stats.graphEdges = t.stats.graphEdges + targets.length

theorem synchronizes_newEdge {d : Nat} (htype : determineDependencyType id d = 2) :
    synchronizes id (newEdge false id d) = true := by
  simp [synchronizes, newEdge, configureSyncPrimitive, htype]

theorem infos_configureSynchronizationPrimitives (id : Nat) (t : DependencyTracker) :
    (t.configureSynchronizationPrimitives id).infos = t.infos := by
  unfold configureSynchronizationPrimitives
  dsimp only
  split
  · exact (sameGraph_flag id true).infos
  · rfl

/-- What is configured, apart from the flag. -/
theorem configureSynchronizationPrimitives_eq (id : Nat) (t : DependencyTracker) :
    (t.configureSynchronizationPrimitives id).resources = t.resources ∧
      (t.configureSynchronizationPrimitives id).edges = (t.edges.map fun edge =>
        if synchronizes id edge then { edge with isResolved := true } else edge) ∧
      (t.configureSynchronizationPrimitives id).stats = { t.stats with
        resolvedDependencies := t.stats.resolvedDependencies +
          t.edges.countP (synchronizes id) } := by
  unfold configureSynchronizationPrimitives
  dsimp only
  split
  · exact ⟨rfl, rfl, rfl⟩
  · exact ⟨rfl, rfl, rfl⟩

theorem Grown.connected {targets : List Nat} (h : Grown id targets t u)
    (hold : ∀ edge ∈ t.edges, edge.sourceBufferId ≠ id)
    (htype : ∀ d ∈ targets, determineDependencyType id d = 2) :
    Connected id targets t (u.configureSynchronizationPrimitives id) := by
  obtain ⟨-, hedges, hstats⟩ := configureSynchronizationPrimitives_eq id u
  have hskip : ∀ edge ∈ t.edges, synchronizes id edge = false := by
    intro edge hedge
    simp [synchronizes, hold edge hedge]
  have hnew : ∀ edge ∈ targets.map (newEdge false id), synchronizes id edge = true := by
    intro edge hedge
    obtain ⟨d, hd, rfl⟩ := List.mem_map.mp hedge
    exact synchronizes_newEdge (htype d hd)
  have hcount : u.edges.countP (synchronizes id) = targets.length := by
    rw [h.edges, List.countP_append, List.countP_eq_length.mpr hnew, List.length_map]
    have hzero : t.edges.countP (synchronizes id) = 0 :=
      List.countP_eq_zero.mpr fun edge hedge => by rw [hskip edge hedge]; exact Bool.false_ne_true
    omega
  refine ⟨(infos_configureSynchronizationPrimitives id u).trans h.infos, ?_, ?_, ?_, ?_⟩
  · rw [hedges, h.edges, List.map_append]
    congr 1
    · refine (List.map_congr_left fun edge hedge => ?_).trans (List.map_id _)
      rw [hskip edge hedge]
      rfl
    · rw [List.map_map]
      refine List.map_congr_left fun d hd => ?_
      show (if synchronizes id (newEdge false id d) then _ else _) = _
      rw [synchronizes_newEdge (htype d hd)]
      rfl
  · rw [hedges, List.length_map]
    exact h.few
  · rw [hstats, hcount, h.resolved]
  · rw [hstats, h.counted]

/-! ## A new command buffer -/

theorem constructDependencyGraph_keeps (id : Nat) (t : DependencyTracker) :
    (t.constructDependencyGraph id).2.registry = t.registry ∧
      (t.constructDependencyGraph id).2.resources = t.resources := by
  have hfold : ∀ (ds : List Nat) (t : DependencyTracker),
      (ds.foldl (addEdge id) t).registry = t.registry ∧
        (ds.foldl (addEdge id) t).resources = t.resources := by
    intro ds
    induction ds with
    | nil => exact fun _ => ⟨rfl, rfl⟩
    | cons d ds ih =>
        intro t
        obtain ⟨hregistry, hresources⟩ := ih (t.addEdge id d)
        rw [List.foldl_cons, hregistry, hresources]
        unfold addEdge
        split
        · exact ⟨rfl, rfl⟩
        · exact ⟨rfl, rfl⟩
  unfold constructDependencyGraph
  split
  · exact ⟨rfl, rfl⟩
  · exact hfold _ t

/-- Which command buffers are registered does not change. -/
theorem infos_initializeCommandBufferDependencies (id : Nat) (env : BarrierEnv)
    (t : DependencyTracker) : (t.initializeCommandBufferDependencies id env).2.infos = t.infos := by
  have hadvanced : ∀ t : DependencyTracker,
      (t.initializeAdvancedDependencyTracking id).2.infos = t.infos := by
    intro t
    unfold initializeAdvancedDependencyTracking
    dsimp only
    split <;> split <;> rfl
  have hgraph : ∀ t : DependencyTracker, (t.constructDependencyGraph id).2.infos = t.infos :=
    fun t => congrArg (List.map _) (constructDependencyGraph_keeps id t).1
  unfold initializeCommandBufferDependencies
  split
  · rfl
  next info hinfo =>
  dsimp only
  split
  · rw [hadvanced, (sameGraph_flag id false).infos]
  · rw [(setupMemoryBarriers_spec id env).1.infos, infos_configureSynchronizationPrimitives, hgraph]
    split
    · rw [(sameGraph_flag id true).infos, (analyze_spec id info _).1.infos, hadvanced,
        (sameGraph_flag id false).infos]
    · rw [(analyze_spec id info _).1.infos, hadvanced, (sameGraph_flag id false).infos]

/-- **A registered command buffer is tracked exactly if there is room.** -/
theorem ids_initializeCommandBufferDependencies (env : BarrierEnv)
    (hregistered : (t.registry.find? fun entry => entry.bufferId = id) ≠ none) :
    (t.initializeCommandBufferDependencies id env).2.resources.map (·.resourceId) =
      if t.resources.length < 256 then t.resources.map (·.resourceId) ++ [id]
      else t.resources.map (·.resourceId) := by
  obtain ⟨info, hinfo⟩ := Option.ne_none_iff_exists'.mp hregistered
  unfold initializeCommandBufferDependencies
  rw [hinfo]
  dsimp only
  rcases initializeAdvancedDependencyTracking_cases id (t.flag id false) with
    ⟨hroom, hret, hresources⟩ | ⟨hfull, heq⟩
  · rw [if_neg (not_not.mpr hret), if_pos (show t.resources.length < 256 from hroom),
      (setupMemoryBarriers_spec id env).2, (configureSynchronizationPrimitives_eq id _).1,
      (constructDependencyGraph_keeps id _).2]
    have hids := (analyze_spec id info ((t.flag id false).initializeAdvancedDependencyTracking
      id).2).2.1
    rw [hresources, List.map_append] at hids
    split
    · exact hids
    · exact hids
  · have hfailed : IOReturn.noMemory ≠ .success := IOReturn.noConfusion
    have hfull : ¬ t.resources.length < 256 := Nat.not_lt.mpr hfull
    rw [heq, if_pos hfailed, if_neg hfull]
    rfl

/-- **A new command buffer changes nothing, or adds its own edges.** -/
theorem initializeCommandBufferDependencies_cases (env : BarrierEnv)
    (hunused : t.resources = [] → t.edges = [] ∧ t.stats.resolvedDependencies = 0 ∧
      t.stats.graphEdges = 0)
    (hfew : t.edges.length ≤ 512) (hlisted : ∀ x ∈ t.infos, x.bufferId < id + 1)
    (hold : ∀ edge ∈ t.edges, edge.sourceBufferId ≠ id) :
    SameGraph t (t.initializeCommandBufferDependencies id env).2 ∨
      ∃ targets, targets.length ≤ 16 ∧ (∀ d ∈ targets, d < id ∧
          determineCommandBufferPriority id = determineCommandBufferPriority d) ∧
        Connected id targets t (t.initializeCommandBufferDependencies id env).2 := by
  unfold initializeCommandBufferDependencies
  split
  · exact .inl ⟨rfl, rfl, rfl, rfl⟩
  next info hinfo =>
  dsimp only
  have hflagged : SameGraph t (t.flag id false) := sameGraph_flag id false
  have htracked := hflagged.trans (sameGraph_initializeAdvancedDependencyTracking id hunused)
  split
  · exact .inl htracked
  obtain ⟨hsame, -, hfound⟩ := analyze_spec id info
    ((t.flag id false).initializeAdvancedDependencyTracking id).2
  generalize (t.flag id false).initializeAdvancedDependencyTracking id = tracked
    at htracked hsame hfound ⊢
  have hlisted' : ∀ x ∈ tracked.2.infos, x.bufferId < id + 1 := by
    rw [htracked.infos]
    exact hlisted
  obtain ⟨hsixteen, htargets⟩ := dependents_spec hlisted'
  generalize tracked.2.analyzeCommandBufferResourceDependencies id info = analyzed
    at hsame hfound ⊢
  -- the flag after the analysis does not matter
  have hmarked : ∃ marked, (if analyzed.1 = .success then analyzed.2.flag id true
      else analyzed.2) = marked ∧ SameGraph t marked ∧
      ∀ r, marked.findResourceDependency id = some r →
        r.dependentBuffers = tracked.2.dependents id := by
    refine ⟨_, rfl, ?_, ?_⟩
    · split
      · exact (htracked.trans hsame).trans (sameGraph_flag id true)
      · exact htracked.trans hsame
    · split
      · exact hfound
      · exact hfound
  obtain ⟨marked, heq, hgraph, hds⟩ := hmarked
  rw [heq]
  have hroom : marked.edges.length ≤ 512 := by
    rw [hgraph.edges]
    exact hfew
  obtain ⟨targets, hsub, hgrown⟩ := constructDependencyGraph_grown hroom hds
  have hmine : ∀ d ∈ targets, d < id ∧
      determineCommandBufferPriority id = determineCommandBufferPriority d :=
    fun d hd => htargets d (hsub.subset hd)
  have htype : ∀ d ∈ targets, determineDependencyType id d = 2 := by
    intro d hd
    simp [determineDependencyType, (hmine d hd).2]
  have hconnected := hgrown.connected (by rw [hgraph.edges]; exact hold) htype
  have hbarrier := (setupMemoryBarriers_spec id env
    (t := (marked.constructDependencyGraph id).2.configureSynchronizationPrimitives id)).1
  refine .inr ⟨targets, Nat.le_trans hsub.length_le hsixteen, hmine,
    (hbarrier.infos.trans hconnected.infos).trans hgraph.infos, ?_, ?_, ?_, ?_⟩
  · rw [hbarrier.edges, hconnected.edges, hgraph.edges]
  · rw [hbarrier.edges]
    exact hconnected.few
  · rw [hbarrier.resolved, hconnected.resolved, hgraph.resolved]
  · rw [hbarrier.counted, hconnected.counted, hgraph.counted]

/-- The edges of a new command buffer are in order. -/
theorem Connected.ordered {targets : List Nat} (h : Connected id targets t u)
    (hordered : t.Ordered (id + 1)) (hold : ∀ edge ∈ t.edges, edge.sourceBufferId ≠ id)
    (hsixteen : targets.length ≤ 16) (hmine : ∀ d ∈ targets, d < id ∧
      determineCommandBufferPriority id = determineCommandBufferPriority d)
    (hused : u.resources ≠ []) : u.Ordered (id + 1) := by
  have hnew : ∀ edge ∈ targets.map (newEdge true id), edge.sourceBufferId = id ∧ edge.Settled := by
    intro edge hedge
    obtain ⟨d, hd, rfl⟩ := List.mem_map.mp hedge
    obtain ⟨hlt, heq⟩ := hmine d hd
    have htype : determineDependencyType id d = 2 := by simp [determineDependencyType, heq]
    exact ⟨rfl, hlt, heq, htype, rfl, by simp [newEdge, htype]⟩
  have hedge : ∀ edge ∈ u.edges, edge ∈ t.edges ∨ edge ∈ targets.map (newEdge true id) := by
    intro edge hedge
    rw [h.edges] at hedge
    exact List.mem_append.mp hedge
  have hlength : u.edges.length = t.edges.length + targets.length := by
    rw [h.edges, List.length_append, List.length_map]
  refine ⟨h.infos ▸ hordered.entries, fun edge he => ?_, fun edge he => ?_, h.few, fun a => ?_, ?_,
    ?_, fun hnil => absurd hnil hused⟩
  · rcases hedge edge he with he | he
    · exact hordered.sources edge he
    · rw [(hnew edge he).1]
      exact Nat.lt_succ_self id
  · rcases hedge edge he with he | he
    · exact hordered.settled edge he
    · exact (hnew edge he).2
  · -- the edges of one command buffer are all made at once
    rw [h.edges, List.countP_append]
    by_cases ha : a = id
    · have hzero : t.edges.countP (fun edge => edge.sourceBufferId = a) = 0 :=
        List.countP_eq_zero.mpr fun edge he => by simpa [ha] using hold edge he
      have hle := List.countP_le_length (p := fun edge => decide (edge.sourceBufferId = a))
        (l := targets.map (newEdge true id))
      rw [List.length_map] at hle
      omega
    · have hzero : (targets.map (newEdge true id)).countP (fun edge => edge.sourceBufferId = a) =
          0 := by
        refine List.countP_eq_zero.mpr fun edge he => ?_
        rw [(hnew edge he).1]
        simpa using Ne.symm ha
      rw [hzero]
      exact hordered.fewEach a
  · rw [h.resolved, hlength, hordered.resolved]
  · rw [h.counted, hlength, hordered.counted]

theorem Ordered.initialize (h : t.Ordered (id + 1))
    (hold : ∀ edge ∈ t.edges, edge.sourceBufferId ≠ id) (env : BarrierEnv) :
    (t.initializeCommandBufferDependencies id env).2.Ordered (id + 1) := by
  by_cases hregistered : (t.registry.find? fun entry => entry.bufferId = id) = none
  · unfold initializeCommandBufferDependencies
    rw [hregistered]
    exact h
  have hused : (t.initializeCommandBufferDependencies id env).2.resources ≠ [] := by
    intro hnil
    have hids := ids_initializeCommandBufferDependencies env hregistered
    rw [hnil] at hids
    split at hids
    · exact List.append_ne_nil_of_right_ne_nil _ (List.cons_ne_nil id []) hids.symm
    · next hfull =>
      rw [List.map_nil, eq_comm, List.map_eq_nil_iff] at hids
      rw [hids] at hfull
      exact hfull (Nat.zero_lt_succ _)
  have hunused : t.resources = [] → t.edges = [] ∧ t.stats.resolvedDependencies = 0 ∧
      t.stats.graphEdges = 0 := by
    intro hnil
    have hedges := h.unused hnil
    rw [h.resolved, h.counted, hedges]
    exact ⟨rfl, rfl, rfl⟩
  rcases initializeCommandBufferDependencies_cases env hunused h.few h.entries hold with
    hsame | ⟨targets, hsixteen, hmine, hconnected⟩
  · refine ⟨hsame.infos ▸ h.entries, hsame.edges ▸ h.sources, hsame.edges ▸ h.settled,
      hsame.edges ▸ h.few, hsame.edges ▸ h.fewEach, ?_, ?_, fun hnil => absurd hnil hused⟩
    · rw [hsame.resolved, hsame.edges, h.resolved]
    · rw [hsame.counted, hsame.edges, h.counted]
  · exact hconnected.ordered h hold hsixteen hmine hused

/-- The registry is the bridge's. -/
theorem infos_register (entry : CommandBufferEntry) (t : DependencyTracker) :
    (t.register entry).infos =
      (MetalBridge.register entry.toCommandBufferInfo t.infos).getD t.infos := by
  unfold register MetalBridge.register infos
  dsimp only
  rw [List.length_map]
  split
  · rw [List.map_append]
    rfl
  · cases MetalBridge.findLRUCommandBuffer (t.registry.map (·.toCommandBufferInfo)) 0
      (u64 - 1, none) with
    | none => rfl
    | some i => exact List.map_set

/-- Where no slot is found, nothing is registered. -/
theorem register_eq_self {entry : CommandBufferEntry}
    (h : MetalBridge.register entry.toCommandBufferInfo t.infos = none) : t.register entry = t := by
  unfold MetalBridge.register infos at h
  rw [List.length_map] at h
  unfold register
  split at h
  · cases h
  · next hfull =>
    rw [if_neg hfull, Option.map_eq_none_iff.mp h]

end DependencyTracker

/-! ## With the bridge -/

namespace MetalBridge

/-- What is registered is in the registry. -/
theorem mem_of_register {entry : CommandBufferInfo} {registry registry' : List CommandBufferInfo}
    (h : register entry registry = some registry') :
    entry ∈ registry' ∧ ∀ x ∈ registry', x ∈ registry ∨ x = entry := by
  unfold register at h
  split at h
  · obtain rfl := Option.some.inj h
    refine ⟨List.mem_append_right _ (List.mem_singleton_self _), fun x hx => ?_⟩
    exact (List.mem_append.mp hx).imp_right List.mem_singleton.mp
  · obtain ⟨i, hi, rfl⟩ := Option.map_eq_some_iff.mp h
    have hlt : i < 0 + registry.length := findLRUCommandBuffer_lt (fun j hj => by cases hj) hi
    rw [Nat.zero_add] at hlt
    exact ⟨List.mem_set hlt _, fun x hx => List.mem_or_eq_of_mem_set hx⟩

/-- How `createCommandBuffer` ends: before the registry, at the registry, or behind it. -/
inductive Registration (m : MetalBridge) (queue : Nat) (e : CommandBufferEnv) :
    Except IOReturn Nat × MetalBridge → Prop
  | before {ret m'} (hreach : m.reachesRegistry queue e = false) (hregistry : m'.registry =
      m.registry) (hnext : m'.nextResourceId = m.nextResourceId ∨
        m'.nextResourceId = inc32 m.nextResourceId) : Registration m queue e (.error ret, m')
  | refused {ret m'} (hreach : m.reachesRegistry queue e = true)
      (hregister : register ⟨m.nextResourceId, e.now⟩ m.registry = none)
      (hregistry : m'.registry = m.registry)
      (hnext : m'.nextResourceId = inc32 m.nextResourceId) : Registration m queue e (.error ret, m')
  | registered {result m'} (hreach : m.reachesRegistry queue e = true)
      (hregister : register ⟨m.nextResourceId, e.now⟩ m.registry = some m'.registry)
      (hresult : ∀ id, result = .ok id → id = m.nextResourceId)
      (hnext : m'.nextResourceId = inc32 m.nextResourceId) : Registration m queue e (result, m')

theorem registration_createCommandBuffer (m : MetalBridge) (queue : Nat) (e : CommandBufferEnv)
    (stored : Bool) : m.Registration queue e (m.createCommandBuffer queue e stored) := by
  unfold createCommandBuffer
  split
  · next hqueue =>
    exact .before (by simp [reachesRegistry, reachesContext, hqueue]) rfl (.inl rfl)
  next hqueue =>
  split
  · next hnone =>
    exact .before (by simp [reachesRegistry, reachesContext, hnone]) rfl (.inl rfl)
  next hfound =>
  dsimp only
  split
  · next hpool =>
    exact .before (by simp [reachesRegistry, reachesContext, hpool]) rfl (.inl rfl)
  next i pools hpool =>
  split
  · next hcontext =>
    exact .before (by simp [reachesRegistry, hcontext]) rfl (.inl rfl)
  next hcontext =>
  unfold finishCommandBuffer
  split
  · next hid =>
    have hid : m.nextResourceId = 0 := hid
    exact .before (by simp [reachesRegistry, hid]) rfl (.inr rfl)
  next hid =>
  have hid : m.nextResourceId ≠ 0 := hid
  have hreach : m.reachesRegistry queue e = true := by
    have hsome := Option.isSome_iff_ne_none.mpr hfound
    simp [reachesRegistry, reachesContext, hqueue, hsome, hpool, not_not.mp hcontext, hid]
  split
  · next hregister => exact .refused hreach hregister rfl rfl
  next registry hregister =>
  split
  · exact .registered hreach hregister (fun id h => by cases h) rfl
  · exact .registered hreach hregister (fun id h => (Except.ok.inj h).symm) rfl

end MetalBridge

namespace TrackedRun

variable {s s' : TrackedRun} {c : MetalCall × BarrierEnv}

/-- The tracker has the registry of the bridge. -/
def Linked (s : TrackedRun) : Prop := s.tracker.infos = s.run.bridge.registry

/-- No id is handed out a second time. -/
def IdsLeft (s : TrackedRun) (_ : MetalCall × BarrierEnv) : Prop :=
  s.run.bridge.nextResourceId + 1 < u32

instance (s : TrackedRun) (c : MetalCall × BarrierEnv) : Decidable (s.IdsLeft c) :=
  inferInstanceAs (Decidable (s.run.bridge.nextResourceId + 1 < u32))

theorem step_eq_some (h : s.step c = some s') :
    s.run.step c.1 = some s'.run ∧ s'.tracker = s.track c.2 c.1 := by
  obtain ⟨run, hrun, rfl⟩ := Option.map_eq_some_iff.mp h
  exact ⟨hrun, rfl⟩

/-- What a call does to tracker and bridge. -/
inductive Turn (s : TrackedRun) (env : BarrierEnv) (s' : TrackedRun) : Prop
  | same (htracker : s'.tracker = s.tracker)
      (hregistry : s'.run.bridge.registry = s.run.bridge.registry)
      (hmade : s'.run.commandBuffers = s.run.commandBuffers)
      (hnext : s'.run.bridge.nextResourceId = s.run.bridge.nextResourceId ∨
        s'.run.bridge.nextResourceId = inc32 s.run.bridge.nextResourceId)
  | registered (entry : CommandBufferEntry)
      (hid : entry.bufferId = s.run.bridge.nextResourceId)
      (hregister : MetalBridge.register entry.toCommandBufferInfo s.run.bridge.registry =
        some s'.run.bridge.registry)
      (hnext : s'.run.bridge.nextResourceId = inc32 s.run.bridge.nextResourceId)
      (hend : (s'.tracker = s.tracker.register entry ∧
          s'.run.commandBuffers = s.run.commandBuffers) ∨
        s'.tracker = ((s.tracker.register entry).initializeCommandBufferDependencies
            entry.bufferId env).2 ∧
          ∃ o, s'.run.commandBuffers =
            s.run.commandBuffers ++ [⟨.commandBuffer, entry.bufferId, o⟩])

theorem track_other (h : c.1.isCreateCommandBuffer = false) : s.track c.2 c.1 = s.tracker := by
  obtain ⟨call, env⟩ := c
  cases call with
  | createCommandBuffer => cases h
  | _ => rfl

theorem turn_of_step (hlinked : s.Linked) (h : s.step c = some s') : s.Turn c.2 s' := by
  obtain ⟨hrun, htracker⟩ := step_eq_some h
  obtain ⟨call, env⟩ := c
  obtain ⟨run', tracker'⟩ := s'
  dsimp only at hrun htracker ⊢
  cases MetalRun.course_of_step hrun with
  | other _ _ hother haside hsame =>
      exact .same (htracker.trans (track_other (c := (call, env)) hother)) haside.registry hsame
        haside.next
  | createCommandBuffer queue e stored =>
      have hend := s.run.bridge.registration_createCommandBuffer queue e stored
      have htracker : tracker' = s.track env (.createCommandBuffer queue e stored) := htracker
      subst htracker
      unfold track
      dsimp only
      generalize s.run.bridge.createCommandBuffer queue e stored = result at hend hrun ⊢
      cases hend with
      | before hreach hregistry hnext =>
          refine .same ?_ hregistry rfl hnext
          rw [hreach]
          rfl
      | refused hreach hregister hregistry hnext =>
          refine .same ?_ hregistry rfl (.inr hnext)
          rw [if_pos hreach]
          exact DependencyTracker.register_eq_self (hlinked ▸ hregister)
      | @registered result _ hreach hregister hresult hnext =>
          refine .registered ⟨⟨s.run.bridge.nextResourceId, e.now⟩, queue,
            determineCommandBufferPriority queue, false⟩ rfl ?_ ?_ ?_
          · rw [MetalRun.bridge_created]
            exact hregister
          · rw [MetalRun.bridge_created]
            exact hnext
          dsimp only
          rw [if_pos hreach]
          cases result with
          | error ret => exact .inl ⟨rfl, rfl⟩
          | ok id =>
              obtain rfl := hresult id rfl
              refine .inr ⟨rfl, s.run.bridge.object .commandBuffer 0, ?_⟩
              show List.reverse (List.filter _ (_ :: _)) = _
              rw [List.filter_cons_of_pos (by simp), List.reverse_cons]
              rfl

/-! ## Runs -/

theorem Linked.step (hlinked : s.Linked) (h : s.step c = some s') : s'.Linked := by
  unfold Linked at hlinked ⊢
  cases turn_of_step hlinked h with
  | same htracker hregistry => rw [htracker, hregistry, hlinked]
  | registered entry hid hregister hnext hend =>
      have hinfos : (s.tracker.register entry).infos = s'.run.bridge.registry := by
        rw [DependencyTracker.infos_register, hlinked, hregister]
        rfl
      rcases hend with ⟨htracker, -⟩ | ⟨htracker, -⟩
      · rw [htracker, hinfos]
      · rw [htracker, DependencyTracker.infos_initializeCommandBufferDependencies, hinfos]

/-- The tracked resources are the first command buffers made. -/
def TracksFirst (s : TrackedRun) : Prop :=
  s.tracker.resources.map (·.resourceId) = (s.run.commandBuffers.map (·.id)).take 256

theorem TracksFirst.step (hlinked : s.Linked) (h : s.TracksFirst) (hs : s.step c = some s') :
    s'.TracksFirst := by
  unfold TracksFirst at h ⊢
  cases turn_of_step hlinked hs with
  | same htracker hregistry hmade => rw [htracker, hmade, h]
  | registered entry hid hregister hnext hend =>
      rcases hend with ⟨htracker, hmade⟩ | ⟨htracker, o, hmade⟩
      · rw [htracker, hmade]
        exact h
      have hfound : ((s.tracker.register entry).registry.find? fun x =>
          x.bufferId = entry.bufferId) ≠ none := by
        have hinfos : (s.tracker.register entry).infos = s'.run.bridge.registry := by
          rw [DependencyTracker.infos_register, hlinked, hregister]
          rfl
        have hmem := (MetalBridge.mem_of_register hregister).1
        rw [← hinfos] at hmem
        obtain ⟨x, hx, heq⟩ := List.mem_map.mp hmem
        intro hnone
        have hne := List.find?_eq_none.mp hnone x hx
        have hsame : x.bufferId = entry.bufferId := congrArg CommandBufferInfo.bufferId heq
        simp [hsame] at hne
      have hlength : s.tracker.resources.length = min 256 s.run.commandBuffers.length := by
        have hcount := congrArg List.length h
        rwa [List.length_map, List.length_take, List.length_map] at hcount
      have hresources : (s.tracker.register entry).resources = s.tracker.resources := rfl
      rw [htracker, DependencyTracker.ids_initializeCommandBufferDependencies c.2 hfound,
        hresources, hmade, List.map_append, h]
      split
      · next hroom =>
        rw [List.take_of_length_le (by rw [List.length_map]; omega), List.take_of_length_le]
        · rfl
        · rw [List.length_append, List.length_map, List.length_map, List.length_singleton]
          omega
      · next hfull =>
        rw [List.take_append_of_le_length (by rw [List.length_map]; omega)]

/-- **The first 256 command buffers are tracked, and no others**, whatever the calls and
their outcomes. -/
theorem always_tracksFirst (nextProgramId : Option Nat) (calls : List (MetalCall × BarrierEnv)) :
    (machine nextProgramId).Always TracksFirst (machine nextProgramId).init calls := by
  have hall : (machine nextProgramId).Always (fun s => s.Linked ∧ s.TracksFirst)
      (machine nextProgramId).init calls :=
    (machine nextProgramId).always_of_along (C := fun _ _ => True)
      (fun s c s' h _ hs => ⟨h.1.step hs, h.2.step h.1 hs⟩) ⟨rfl, rfl⟩
      ((machine nextProgramId).along_true _ _)
  exact hall.imp _ fun s h => h.2

theorem ordered_step (hlinked : s.Linked) (h : s.tracker.Ordered s.run.bridge.nextResourceId)
    (hleft : s.IdsLeft c) (hs : s.step c = some s') :
    s'.tracker.Ordered s'.run.bridge.nextResourceId := by
  cases turn_of_step hlinked hs with
  | same htracker hregistry hmade hnext =>
      rw [htracker]
      rcases hnext with hnext | hnext
      · rw [hnext]
        exact h
      · rw [hnext, inc32_eq_succ hleft]
        exact h.mono (Nat.le_succ _)
  | registered entry hid hregister hnext hend =>
      rw [hnext, inc32_eq_succ hleft]
      have hregistered : (s.tracker.register entry).Ordered (s.run.bridge.nextResourceId + 1) := by
        have hmore := h.mono (Nat.le_succ s.run.bridge.nextResourceId)
        refine ⟨fun x hx => ?_, hmore.sources, hmore.settled, hmore.few, hmore.fewEach,
          hmore.resolved, hmore.counted, hmore.unused⟩
        rw [DependencyTracker.infos_register, hlinked, hregister] at hx
        rcases (MetalBridge.mem_of_register hregister).2 x hx with hx | rfl
        · exact hmore.entries x (hlinked ▸ hx)
        · rw [hid]
          exact Nat.lt_succ_self _
      rcases hend with ⟨htracker, -⟩ | ⟨htracker, -⟩
      · rw [htracker]
        exact hregistered
      · rw [htracker, hid]
        exact hregistered.initialize (fun edge hedge => Nat.ne_of_lt (h.sources edge hedge)) c.2

/-- **No command buffer waits for itself**, whatever the calls and their outcomes, as long as
the ids have not come round: the dependency graph has no cycle, and all its edges are between
command buffers of the same priority, writes after writes, resolved, and counted. -/
theorem always_acyclic (nextProgramId : Option Nat) {calls : List (MetalCall × BarrierEnv)}
    (hleft : (machine nextProgramId).Along IdsLeft (machine nextProgramId).init calls) :
    (machine nextProgramId).Always (fun s => s.tracker.Sound) (machine nextProgramId).init
      calls := by
  have hall : (machine nextProgramId).Always
      (fun s => s.Linked ∧ s.tracker.Ordered s.run.bridge.nextResourceId)
      (machine nextProgramId).init calls := by
    refine (machine nextProgramId).always_of_along (fun s c s' h hc hs => ?_) ⟨rfl, ?_⟩ hleft
    · exact ⟨h.1.step hs, ordered_step h.1 h.2 hc hs⟩
    · exact ⟨fun _ h => (by cases h), fun _ h => (by cases h), fun _ h => (by cases h),
        Nat.zero_le _, fun _ => Nat.zero_le _, rfl, rfl, fun _ => rfl⟩
  exact hall.imp _ fun s h => h.2.sound

/-- A queue and four command buffers, two of them with something to wait for. -/
theorem always_acyclic_four : (machine none).Always (fun s => s.tracker.Sound) (machine none).init
    ((.createCommandQueue 1 true true, ⟨true, .success⟩) ::
      List.replicate 4 (.createCommandBuffer 1 ⟨0, .success, true⟩ true, ⟨true, .success⟩)) :=
  always_acyclic none (by decide)

end TrackedRun
end VMQemuVGA
