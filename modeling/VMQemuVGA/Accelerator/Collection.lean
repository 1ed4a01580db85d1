import VMQemuVGA.Accelerator.Bindings

/-! # Garbage collection

`garbageCollectTextures` frees by size, by age and by binding. Only the last of
the three ever runs, since the counter the other two go by stays at zero. Here
the collection keeps a list of what it gives up with the surfaces it frees. -/

namespace VMQemuVGA

/-! ## What is given up -/

/-- Backing memories released and resources unreferenced, in order. -/
structure Freed where
  backings : List MemoryDescriptor
  resources : List Nat
  deriving DecidableEq

namespace Freed

/-- Free a surface. -/
def give (f : Freed) (x : AccelSurface) : Freed where
  backings := f.backings ++ x.backingMemory.toList
  resources := f.resources ++ if x.gpuResourceId ≠ 0 then [x.gpuResourceId] else []

/-- A strategy that notes what it frees. -/
def noting (visit : Collector → AccelSurface → Bool × Collector) (w : Freed × Collector)
    (x : AccelSurface) : Bool × Freed × Collector :=
  let (drop, c) := visit w.2 x
  (drop, if drop then w.1.give x else w.1, c)

theorem foldl_give (f : Freed) (l : List AccelSurface) :
    l.foldl give f =
      ⟨f.backings ++ l.filterMap AccelSurface.backingMemory,
        f.resources ++ (l.map AccelSurface.gpuResourceId).filter fun id => decide (id ≠ 0)⟩ := by
  induction l generalizing f with
  | nil => simp
  | cons x l ih =>
      rw [List.foldl_cons, ih]
      unfold give
      congr 1
      · cases hx : x.backingMemory with
        | none => simp [hx]
        | some d => simp [hx]
      · by_cases hx : x.gpuResourceId = 0
        · simp [hx]
        · simp [hx]

end Freed

namespace Accelerator
variable {e : AccelEnv} {s : Accelerator}

/-- Strategies 1 and 2, with notes. -/
def relieveNoting (e : AccelEnv) (s : Accelerator) (w : Freed × Collector) :
    (Freed × Collector) × Pool AccelSurface :=
  if w.2.current > 64 * 1024 * 1024 then
    let (w₁, pool) := s.surfaces.sweep (Freed.noting (Collector.visitLarge e)) w
    pool.sweep (Freed.noting (Collector.visitMedium e)) w₁
  else (w, s.surfaces)

/-- All three strategies, with notes. -/
def collect (e : AccelEnv) (s : Accelerator) : (Freed × Collector) × Pool AccelSurface :=
  let (w₁, pool₁) := s.relieveNoting e (⟨[], []⟩, ⟨s.gpu, s.memoryAllocated, s.gcGeneration, 0⟩)
  pool₁.sweep (Freed.noting (Collector.visitLost e s.lost)) w₁

/-- The notes have no part in it. -/
theorem garbageCollectTextures_eq (e : AccelEnv) (s : Accelerator) :
    s.garbageCollectTextures e = (.success, { s with
      gpu := (s.collect e).1.2.gpu
      surfaces := (s.collect e).2
      contexts := s.contexts.map (AccelContext.keepBound (s.collect e).2)
      memoryAllocated := s.memoryAllocated - (s.collect e).1.2.freedMemory
      gcGeneration := (s.collect e).1.2.generation }) := by
  have hproj : ∀ visit (p : Pool AccelSurface) (w : Freed × Collector),
      ((p.sweep (Freed.noting visit) w).1.2, (p.sweep (Freed.noting visit) w).2) =
        p.sweep visit w.2 :=
    fun visit p w => Pool.sweep_proj (π := Prod.snd) (fun _ _ => rfl) p w
  have hrelieve : ∀ w : Freed × Collector,
      ((s.relieveNoting e w).1.2, (s.relieveNoting e w).2) = s.relieve e w.2 := by
    intro w
    unfold relieveNoting relieve
    split
    · dsimp only
      rw [hproj, ← hproj (Collector.visitLarge e)]
    · rfl
  unfold garbageCollectTextures collect
  dsimp only
  rw [← hrelieve (⟨[], []⟩, ⟨s.gpu, s.memoryAllocated, s.gcGeneration, 0⟩)]
  dsimp only
  rw [← hproj]

/-! ## A collection as it should be -/

/-- What `garbageCollectTextures` makes of `s`: the surfaces no live context has
bound go, and no others; with them go their backing memories and resources. -/
structure Collects (e : AccelEnv) (s : Accelerator) : Prop where
  remains : (s.garbageCollectTextures e).2.surfaces.entries =
    s.surfaces.entries.filter fun x => !s.lost x
  released : (s.collect e).1.1.backings =
    (s.surfaces.entries.filter s.lost).filterMap AccelSurface.backingMemory
  backed : ∀ x ∈ s.surfaces.entries, x.backingMemory.isSome = true
  unreferenced : (s.collect e).1.1.resources =
    ((s.surfaces.entries.filter s.lost).map AccelSurface.gpuResourceId).filter
      fun id => decide (id ≠ 0)
  device : (s.garbageCollectTextures e).2.gpu = (s.collect e).1.1.resources.foldl
    (fun g id => (g.deallocateResource e.toEnv id).2) s.gpu
  /-- in their old order, what is bound and still there with its backing -/
  bound : (s.garbageCollectTextures e).2.contexts.entries = s.contexts.entries.map fun c =>
    { c with boundSurfaceIds := c.boundSurfaceIds.filter fun id =>
      ((s.garbageCollectTextures e).2.findSurface id).any fun x => x.backingMemory.isSome }
  present : ∀ c ∈ (s.garbageCollectTextures e).2.contexts.entries, ∀ id ∈ c.boundSurfaceIds,
    ∃ x, (s.garbageCollectTextures e).2.findSurface id = some x ∧ x.backingMemory.isSome = true
  once : ∀ c ∈ (s.garbageCollectTextures e).2.contexts.entries, c.boundSurfaceIds.Nodup

/-- What is freed is what is lost. -/
theorem foldl_visitLost (e : AccelEnv) (lost : AccelSurface → Bool) (w : Freed × Collector)
    (l : List AccelSurface) :
    (l.foldl (fun w x => (Freed.noting (Collector.visitLost e lost) w x).2) w).1 =
        (l.filter lost).foldl Freed.give w.1 ∧
      (l.foldl (fun w x => (Freed.noting (Collector.visitLost e lost) w x).2) w).2.gpu =
        (((l.filter lost).map AccelSurface.gpuResourceId).filter fun id => decide (id ≠ 0)).foldl
          (fun g id => (g.deallocateResource e.toEnv id).2) w.2.gpu := by
  induction l generalizing w with
  | nil => exact ⟨rfl, rfl⟩
  | cons x l ih =>
      rw [List.foldl_cons]
      obtain ⟨hfreed, hgpu⟩ := ih (Freed.noting (Collector.visitLost e lost) w x).2
      rw [hfreed, hgpu]
      cases hx : lost x with
      | false =>
          rw [List.filter_cons_of_neg (by rw [hx]; exact Bool.false_ne_true)]
          simp [Freed.noting, Collector.visitLost, hx]
      | true =>
          rw [List.filter_cons_of_pos hx]
          by_cases hres : x.gpuResourceId = 0
          · simp [Freed.noting, Collector.visitLost, Collector.release, hx, hres]
          · simp [Freed.noting, Collector.visitLost, Collector.release, hx, hres]

theorem Orderly.collect_eq (h : s.Orderly) (e : AccelEnv) :
    s.collect e = s.surfaces.sweep (Freed.noting (Collector.visitLost e s.lost))
      (⟨[], []⟩, ⟨s.gpu, 0, s.gcGeneration, 0⟩) := by
  unfold collect relieveNoting
  rw [h.allocated]
  dsimp only
  rw [if_neg (Nat.not_lt_zero _)]

theorem Orderly.collects (h : s.Orderly) (e : AccelEnv) : s.Collects e := by
  have hcollect := h.collect_eq e
  obtain ⟨hfreed, hgpu⟩ := foldl_visitLost e s.lost
    (⟨[], []⟩, ⟨s.gpu, 0, s.gcGeneration, 0⟩) s.surfaces.entries
  rw [← Pool.sweep_fst, ← hcollect, Freed.foldl_give] at hfreed
  rw [← Pool.sweep_fst, ← hcollect] at hgpu
  have hentries : (s.collect e).2.entries = s.surfaces.entries.filter fun x => !s.lost x := by
    rw [hcollect]
    refine Pool.entries_sweep ?_ _ _
    exact fun w x => visitLost_fst e s.lost w.2 x
  have heq := congrArg Prod.snd (garbageCollectTextures_eq e s)
  have hcontexts : (s.garbageCollectTextures e).2.contexts.entries =
      s.contexts.entries.map fun c =>
        { c with boundSurfaceIds := c.boundSurfaceIds.filter fun id =>
          ((s.garbageCollectTextures e).2.findSurface id).any fun x =>
            x.backingMemory.isSome } := by
    rw [heq]
    exact Pool.entries_map _ _
  constructor
  · rw [heq]
    exact hentries
  · rw [hfreed]
    exact List.nil_append _
  · exact h.backed
  · rw [hfreed]
    exact List.nil_append _
  · rw [heq, hfreed]
    exact hgpu
  · exact hcontexts
  · intro c hc id hid
    rw [hcontexts] at hc
    obtain ⟨d, hd, rfl⟩ := List.mem_map.mp hc
    obtain ⟨-, hany⟩ := List.mem_filter.mp hid
    exact (Option.any_eq_true _ _).mp hany
  · intro c hc
    rw [hcontexts] at hc
    obtain ⟨d, hd, rfl⟩ := List.mem_map.mp hc
    exact (h.boundOnce d hd).filter _

end Accelerator

/-! ## Runs -/

namespace AccelRun

/-- Every step comes to changes of the three kinds. -/
theorem moves_step {s t : AccelRun} {call : ClientCall} {e e' : AccelEnv}
    (h : s.step call e e' = some t) : ∃ n, Accelerator.Moves n s.accel t.accel ∧
      n ≤ ((s.issues call).map AccelCall.mayDraw).getD 0 := by
  rcases step_cases h with ⟨hnone, haccel, -⟩ | ⟨c, hc, haccel, -⟩ | ⟨hnone, l, -, haccel, -⟩
  · rw [haccel]
    exact ⟨0, .sheds (.refl s.accel), Nat.zero_le _⟩
  · obtain ⟨n, hn, hmoves⟩ := Accelerator.moves_call e e' s.accel c
    rw [haccel, hc]
    exact ⟨n, hmoves, hn⟩
  · rw [haccel]
    exact ⟨0, .sheds (.withGpu s.accel _), Nat.zero_le _⟩

theorem always_orderly (host : Env → Env) (supports3D : Bool) (maxScanouts : Nat)
    (calls : List (ClientCall × AccelEnv × AccelEnv)) :
    (machine host supports3D maxScanouts).Always (fun s => s.accel.Orderly)
      (machine host supports3D maxScanouts).init calls := by
  refine (machine host supports3D maxScanouts).always_of_along (C := fun _ _ => True)
    (fun s c t hs _ h => ?_) ⟨?_, ?_, rfl⟩ (Machine.along_true ..)
  · obtain ⟨n, hmoves, -⟩ := moves_step h
    exact hmoves.orderly hs
  · intro c hc
    cases hc
  · intro x hx
    cases hx

/-- **In every reachable state a collection frees the surfaces that no live
context has bound, and just these.** -/
theorem always_collects (host : Env → Env) (supports3D : Bool) (maxScanouts : Nat)
    (calls : List (ClientCall × AccelEnv × AccelEnv)) :
    (machine host supports3D maxScanouts).Always (fun s => ∀ e, s.accel.Collects e)
      (machine host supports3D maxScanouts).init calls :=
  (always_orderly host supports3D maxScanouts calls).imp _ fun _ hs e => hs.collects e

end AccelRun
end VMQemuVGA
