import Mathlib.Data.List.Perm.Subperm
import VMQemuVGA.Accelerator.Isolation
import VMQemuVGA.Accelerator.Creations

/-! # What calls do to surfaces and bindings

Whatever a call is for, it comes to three kinds of changes of the pools: surfaces
and bindings go, an id is drawn for nothing, or a surface comes in under the next
id. What no such change breaks holds of every reachable accelerator. -/

namespace VMQemuVGA
namespace Accelerator

/-! ## Changes -/

/-- Surfaces and bindings may have gone, and none have come. -/
structure Sheds (s t : Accelerator) : Prop where
  next : t.nextSurfaceId = s.nextSurfaceId
  allocated : t.memoryAllocated ≤ s.memoryAllocated
  surfaces : ∀ x ∈ t.surfaces.entries, ∃ y ∈ s.surfaces.entries,
    x.surfaceId = y.surfaceId ∧ x.backingMemory = y.backingMemory
  bound : ∀ c ∈ t.contexts.entries, c.boundSurfaceIds = [] ∨
    ∃ d ∈ s.contexts.entries, c.boundSurfaceIds.Subperm d.boundSurfaceIds

/-- From `s` to `t` by changes that draw `n` ids. -/
inductive Moves : Nat → Accelerator → Accelerator → Prop
  | sheds {s t : Accelerator} (h : Sheds s t) : Moves 0 s t
  | draws {s t : Accelerator} (hkept : KeepsPools s t)
      (hnext : t.nextSurfaceId = inc32 s.nextSurfaceId) : Moves 1 s t
  | enters {e : AccelEnv} {ctx : Nat} {x : AccelSurface} {s t : Accelerator}
      (hbacked : x.backingMemory.isSome = true) (henter : Enters e ctx x s t) : Moves 1 s t
  | trans {m n : Nat} {s t u : Accelerator} (h : Moves m s t) (h' : Moves n t u) :
      Moves (m + n) s u

variable {e e' : AccelEnv} {s t u : Accelerator} {ctx : Nat}

namespace Sheds

theorem of_eq (hsurfaces : t.surfaces = s.surfaces) (hcontexts : t.contexts = s.contexts)
    (hnext : t.nextSurfaceId = s.nextSurfaceId)
    (hallocated : t.memoryAllocated = s.memoryAllocated) : Sheds s t where
  next := hnext
  allocated := Nat.le_of_eq hallocated
  surfaces := fun x hx => ⟨x, hsurfaces ▸ hx, rfl, rfl⟩
  bound := fun c hc => Or.inr ⟨c, hcontexts ▸ hc, List.Subperm.refl _⟩

theorem refl (s : Accelerator) : Sheds s s := of_eq rfl rfl rfl rfl

theorem withGpu (s : Accelerator) (g : Gpu) : Sheds s (s.withGpu g) := of_eq rfl rfl rfl rfl

theorem trans (h : Sheds s t) (h' : Sheds t u) : Sheds s u where
  next := h'.next.trans h.next
  allocated := Nat.le_trans h'.allocated h.allocated
  surfaces := fun x hx => by
    obtain ⟨y, hy, hid, hbacking⟩ := h'.surfaces x hx
    obtain ⟨z, hz, hid', hbacking'⟩ := h.surfaces y hy
    exact ⟨z, hz, hid.trans hid', hbacking.trans hbacking'⟩
  bound := fun c hc => by
    rcases h'.bound c hc with hnil | ⟨d, hd, hsub⟩
    · exact Or.inl hnil
    rcases h.bound d hd with hnil | ⟨b, hb, hsub'⟩
    · rw [hnil] at hsub
      exact Or.inl (List.subperm_nil.mp hsub)
    · exact Or.inr ⟨b, hb, hsub.trans hsub'⟩

theorem modifyContext {f : AccelContext → AccelContext}
    (hf : ∀ c, (f c).boundSurfaceIds.Subperm c.boundSurfaceIds) (s : Accelerator) (ctx : Nat) :
    Sheds s (s.modifyContext ctx f) where
  next := rfl
  allocated := Nat.le_refl _
  surfaces := fun x hx => ⟨x, hx, rfl, rfl⟩
  bound := fun c hc => by
    rcases Pool.of_mem_modify hc with hc | ⟨d, hd, rfl⟩
    · exact Or.inr ⟨c, hc, List.Subperm.refl _⟩
    · exact Or.inr ⟨d, Pool.mem_of_find? hd, hf d⟩

theorem modifySurface {f : AccelSurface → AccelSurface}
    (hf : ∀ x, (f x).surfaceId = x.surfaceId ∧ (f x).backingMemory = x.backingMemory)
    (s : Accelerator) (surface : Nat) : Sheds s (s.modifySurface surface f) where
  next := rfl
  allocated := Nat.le_refl _
  surfaces := fun x hx => by
    rcases Pool.of_mem_modify hx with hx | ⟨y, hy, rfl⟩
    · exact ⟨x, hx, rfl, rfl⟩
    · exact ⟨y, Pool.mem_of_find? hy, hf y⟩
  bound := fun c hc => Or.inr ⟨c, hc, List.Subperm.refl _⟩

end Sheds

/-! ## Every call -/

theorem sheds_removeSurface (s : Accelerator) (ctx surface : Nat) :
    Sheds s
      ((s.modifyContext ctx (AccelContext.unbindSurface surface)).removeSurface surface) := by
  have hunbind := Sheds.modifyContext (f := AccelContext.unbindSurface surface) (fun c =>
    (perm_unbindSurface surface c).subperm.trans List.erase_sublist.subperm) s ctx
  refine hunbind.trans ⟨rfl, Nat.le_refl _, fun x hx => ?_, fun c hc => ?_⟩
  · have hsub : x ∈ s.surfaces.entries.eraseP fun y => y.surfaceId == surface :=
      Pool.entries_remove s.surfaces _ ▸ hx
    exact ⟨x, List.eraseP_subset hsub, rfl, rfl⟩
  · exact Or.inr ⟨c, hc, List.Subperm.refl _⟩

theorem sheds_destroySurfaceInternal (s : Accelerator) (ctx surface : Nat) :
    Sheds s (s.destroySurfaceInternal ctx surface).2 := by
  unfold destroySurfaceInternal
  split
  · exact .refl s
  · exact sheds_removeSurface s ctx surface

theorem sheds_destroy3DSurface (s : Accelerator) (ctx surface : Nat) :
    Sheds s (s.destroy3DSurface ctx surface).2 := by
  unfold destroy3DSurface
  split
  · exact sheds_removeSurface s ctx surface
  · exact .refl s

theorem sheds_create3DContext (e : AccelEnv) (s : Accelerator) :
    Sheds s (s.create3DContext e).2 := by
  unfold create3DContext
  dsimp only
  split
  · exact .withGpu s _
  split
  · exact .withGpu s _
  split
  · exact .of_eq rfl rfl rfl rfl
  · next pool hadd =>
    refine ⟨rfl, Nat.le_refl _, fun x hx => ⟨x, hx, rfl, rfl⟩, fun c hc => ?_⟩
    rcases List.mem_cons.mp ((Pool.entries_add hadd).mem_iff.mp hc) with rfl | hc
    · exact Or.inl rfl
    · exact Or.inr ⟨c, hc, List.Subperm.refl _⟩

theorem sheds_destroy3DContext (e : AccelEnv) (s : Accelerator) (ctx : Nat) :
    Sheds s (s.destroy3DContext e ctx).2 := by
  unfold destroy3DContext destroyContextInternal
  split
  · exact .refl s
  · refine ⟨rfl, Nat.le_refl _, fun x hx => ⟨x, hx, rfl, rfl⟩, fun c hc => ?_⟩
    have hsub : c ∈ s.contexts.entries.eraseP fun c => c.contextId == ctx :=
      Pool.entries_remove s.contexts _ ▸ hc
    exact Or.inr ⟨c, List.eraseP_subset hsub, List.Subperm.refl _⟩

theorem sheds_submit3DCommands (e : AccelEnv) (s : Accelerator) (ctx : Nat)
    (commands : Option Nat) : Sheds s (s.submit3DCommands e ctx commands).2 := by
  unfold submit3DCommands
  split
  · exact .refl s
  split
  · exact .refl s
  · exact .withGpu s _

theorem sheds_beginRenderPass (e : AccelEnv) (s : Accelerator) (ctx : Nat) :
    Sheds s (s.beginRenderPass e ctx).2 := by
  unfold beginRenderPass
  split
  · exact .refl s
  split
  · exact .refl s
  dsimp only
  split
  · exact (Sheds.withGpu s _).trans
      (.modifyContext (f := AccelContext.keepRenderState) (fun c => List.Subperm.refl _) _ ctx)
  · exact .withGpu s _

theorem sheds_finalizeRendering (e : AccelEnv) (s : Accelerator) (ctx : Nat) (c : AccelContext) :
    Sheds s (s.finalizeRendering e ctx c).2 := by
  unfold finalizeRendering
  split
  · exact .refl s
  split
  · exact .refl s
  · exact (Sheds.withGpu s _).trans
      (.modifyContext (f := AccelContext.bumpGpuContextId) (fun c => List.Subperm.refl _) _ ctx)

theorem sheds_resetTextureUnits (e : AccelEnv) (s : Accelerator) :
    Sheds s (s.resetTextureUnits e) := by
  obtain ⟨pool, heq, hentries⟩ := resetTextureUnits_eq e s
  rw [heq]
  refine ⟨rfl, Nat.le_refl _, fun x hx => ?_, fun c hc => Or.inr ⟨c, hc, List.Subperm.refl _⟩⟩
  rw [hentries] at hx
  obtain ⟨y, hy, rfl⟩ := List.mem_map.mp hx
  exact ⟨y, hy, rfl, rfl⟩

theorem sublist_relieve (e : AccelEnv) (s : Accelerator) (w : Collector) :
    (s.relieve e w).2.entries.Sublist s.surfaces.entries := by
  unfold relieve
  split
  · exact (Pool.sublist_sweep ..).trans (Pool.sublist_sweep ..)
  · exact List.Sublist.refl _

theorem sheds_garbageCollectTextures (e : AccelEnv) (s : Accelerator) :
    Sheds s (s.garbageCollectTextures e).2 := by
  unfold garbageCollectTextures
  have hrelieve := sublist_relieve e s ⟨s.gpu, s.memoryAllocated, s.gcGeneration, 0⟩
  generalize s.relieve e ⟨s.gpu, s.memoryAllocated, s.gcGeneration, 0⟩ = r at hrelieve
  obtain ⟨w, pool⟩ := r
  have hsub := (Pool.sublist_sweep pool (Collector.visitLost e s.lost) w).trans hrelieve
  refine ⟨rfl, Nat.sub_le _ _, fun x hx => ⟨x, hsub.subset hx, rfl, rfl⟩, fun c hc => ?_⟩
  dsimp only at hc
  rw [Pool.entries_map] at hc
  obtain ⟨d, hd, rfl⟩ := List.mem_map.mp hc
  exact Or.inr ⟨d, hd, List.filter_sublist.subperm⟩

theorem sheds_returnCommandBuffer (e : AccelEnv) (s : Accelerator) (ctx : Nat) :
    Sheds s (s.returnCommandBuffer e ctx) := by
  unfold returnCommandBuffer
  split
  · exact .refl s
  split
  · exact .refl s
  · exact .withGpu s _

theorem sheds_endRenderPass (e e' : AccelEnv) (s : Accelerator) (ctx : Nat) :
    Sheds s (s.endRenderPass e e' ctx).2 := by
  unfold endRenderPass
  cases hc : s.findContext ctx with
  | none => exact .refl s
  | some c =>
  have hfinal := sheds_finalizeRendering e s ctx c
  dsimp only
  by_cases hcollects : s.collects e ctx
  swap
  · rw [if_pos fun hsuccess => hcollects ⟨c, hc, hsuccess⟩]
    exact hfinal
  · obtain ⟨d, hd, hsuccess⟩ := hcollects
    cases hc.symm.trans hd
    rw [if_neg (not_not.mpr hsuccess)]
    exact hfinal.trans ((sheds_resetTextureUnits e _).trans
      ((sheds_garbageCollectTextures e' _).trans (sheds_returnCommandBuffer e' _ ctx)))

theorem sheds_present3DSurface (e : AccelEnv) (s : Accelerator) (ctx surface : Nat) :
    Sheds s (s.present3DSurface e ctx surface).2 := by
  unfold present3DSurface
  split
  · dsimp only
    split
    · exact .withGpu s _
    generalize presentByCommands _ _ _ _ = r
    split
    · exact .withGpu s _
    · exact (Sheds.withGpu s _).trans
        (.modifySurface (f := AccelSurface.markPresented) (fun x => ⟨rfl, rfl⟩) _ surface)
  · exact .refl s

end Accelerator

/-- The number of ids a call may draw. -/
def AccelCall.mayDraw : AccelCall → Nat
  | .create3DSurface _ _ => 1
  | .createFramebuffer _ _ _ colorFormat depthFormat =>
      (if colorFormat = 0 then 0 else 1) + if depthFormat = 0 then 0 else 1
  | _ => 0

namespace Accelerator
variable {e e' : AccelEnv} {s t u : Accelerator} {ctx : Nat}

theorem KeepsPools.moves (h : KeepsPools s t) : ∃ n ≤ 1, Moves n s t := by
  rcases h.next with hnext | hnext
  · exact ⟨0, Nat.zero_le 1, .sheds (.of_eq h.surfaces h.contexts hnext h.allocated)⟩
  · exact ⟨1, Nat.le_refl 1, .draws h hnext⟩

theorem SurfaceCreation.moves {size : Nat} {info : SurfaceInfo} {r : IOReturn × Accelerator}
    (h : SurfaceCreation e s ctx size info r) : ∃ n ≤ 1, Moves n s r.2 := by
  cases h with
  | failed hret hkept => exact hkept.moves
  | made hfound hd henter => exact ⟨1, Nat.le_refl 1, .enters rfl henter⟩

theorem OptionalCreation.moves {info : SurfaceInfo} {l : List AccelSurface}
    (h : OptionalCreation e s ctx info l t) :
    ∃ n ≤ if info.format = 0 then 0 else 1, Moves n s t := by
  cases h with
  | absent hformat => exact ⟨0, Nat.zero_le _, .sheds (.refl s)⟩
  | made hformat hd henter =>
      rw [if_neg hformat]
      exact ⟨1, Nat.le_refl 1, .enters rfl henter⟩

theorem FramebufferCreation.moves {color depth : SurfaceInfo} {r : IOReturn × Accelerator}
    (h : FramebufferCreation e e' s ctx color depth r) :
    ∃ n ≤ (if color.format = 0 then 0 else 1) + if depth.format = 0 then 0 else 1,
      Moves n s r.2 := by
  cases h with
  | made hfits hcolor hdepth =>
      obtain ⟨m, hm, hmoves⟩ := hcolor.moves
      obtain ⟨n, hn, hmoves'⟩ := hdepth.moves
      exact ⟨m + n, Nat.add_le_add hm hn, hmoves.trans hmoves'⟩
  | refused hret => exact ⟨0, Nat.zero_le _, .sheds (.refl s)⟩
  | failed hret hformat hkept =>
      obtain ⟨n, hn, hmoves⟩ := hkept.moves
      refine ⟨n, Nat.le_trans hn ?_, hmoves⟩
      rcases hformat with hformat | hformat
      · rw [if_neg hformat]
        exact Nat.le_add_right 1 _
      · rw [if_neg hformat]
        exact Nat.le_add_left 1 _
  | undone hret hcolor hdepth hbacked henter hkept =>
      rw [if_neg hcolor, if_neg hdepth]
      obtain ⟨n, hn, hmoves⟩ := hkept.moves
      refine ⟨1 + n, Nat.add_le_add_left hn 1, (Moves.enters hbacked henter).trans ?_⟩
      dsimp only
      split
      · exact hmoves
      · exact hmoves.trans (.sheds (sheds_destroySurfaceInternal ..))

/-- **Every call comes to changes of the three kinds.** -/
theorem moves_call (e e' : AccelEnv) (s : Accelerator) (call : AccelCall) :
    ∃ n ≤ call.mayDraw, Moves n s (s.call e e' call).2 := by
  have hnone : Sheds s (s.call e e' call).2 → ∃ n ≤ call.mayDraw, Moves n s (s.call e e' call).2 :=
    fun h => ⟨0, Nat.zero_le _, .sheds h⟩
  cases call with
  | create3DContext => exact hnone (sheds_create3DContext e s)
  | destroy3DContext ctx => exact hnone (sheds_destroy3DContext e s ctx)
  | submit3DCommands ctx commands => exact hnone (sheds_submit3DCommands e s ctx commands)
  | beginRenderPass ctx => exact hnone (sheds_beginRenderPass e s ctx)
  | endRenderPass ctx => exact hnone (sheds_endRenderPass e e' s ctx)
  | present3DSurface ctx surface => exact hnone (sheds_present3DSurface e s ctx surface)
  | create3DSurface ctx info => exact (creation_create3DSurface e s ctx info).moves
  | destroy3DSurface ctx surface => exact hnone (sheds_destroy3DSurface s ctx surface)
  | createFramebuffer ctx width height colorFormat depthFormat =>
      exact (creation_createFramebuffer e e' s ctx width height colorFormat depthFormat).moves
  | garbageCollectTextures => exact hnone (sheds_garbageCollectTextures e s)

/-! ## What always holds -/

/-- Nothing is bound twice, every surface has its backing memory, and nothing is
ever put into `m_memory_allocated`. -/
structure Orderly (s : Accelerator) : Prop where
  boundOnce : ∀ c ∈ s.contexts.entries, c.boundSurfaceIds.Nodup
  backed : ∀ x ∈ s.surfaces.entries, x.backingMemory.isSome = true
  allocated : s.memoryAllocated = 0

/-- Of every context in the pool after an `Enters`. -/
theorem Enters.mem_contexts {x : AccelSurface} (h : Enters e ctx x s t) {c : AccelContext}
    (hc : c ∈ t.contexts.entries) : c ∈ s.contexts.entries ∨
      ∃ d ∈ s.contexts.entries, c = d.bindSurface e x.surfaceId := by
  rw [h.contexts] at hc
  rcases Pool.of_mem_modify hc with hc | ⟨d, hd, rfl⟩
  · exact Or.inl hc
  · exact Or.inr ⟨d, Pool.mem_of_find? hd, rfl⟩

theorem Enters.mem_surfaces {x y : AccelSurface} (h : Enters e ctx x s t) :
    y ∈ t.surfaces.entries ↔ y = x ∨ y ∈ s.surfaces.entries := by
  rw [(Pool.entries_add h.surfaces).mem_iff, List.mem_cons]

theorem Moves.orderly {n : Nat} (h : Moves n s t) (hs : s.Orderly) : t.Orderly := by
  induction h with
  | sheds h =>
      refine ⟨fun c hc => ?_, fun x hx => ?_, Nat.le_zero.mp (hs.allocated ▸ h.allocated)⟩
      · rcases h.bound c hc with hnil | ⟨d, hd, hsub⟩
        · rw [hnil]
          exact List.nodup_nil
        · obtain ⟨l, hperm, hsublist⟩ := hsub
          exact hperm.nodup_iff.mp ((hs.boundOnce d hd).sublist hsublist)
      · obtain ⟨y, hy, -, hbacking⟩ := h.surfaces x hx
        rw [hbacking]
        exact hs.backed y hy
  | draws hkept hnext =>
      refine ⟨?_, ?_, hkept.allocated.trans hs.allocated⟩
      · rw [hkept.contexts]
        exact hs.boundOnce
      · rw [hkept.surfaces]
        exact hs.backed
  | enters hbacked henter =>
      refine ⟨fun c hc => ?_, fun y hy => ?_, henter.allocated.trans hs.allocated⟩
      · rcases henter.mem_contexts hc with hc | ⟨d, hd, rfl⟩
        · exact hs.boundOnce c hc
        · exact nodup_bindSurface _ _ (hs.boundOnce d hd)
      · rcases henter.mem_surfaces.mp hy with rfl | hy
        · exact hbacked
        · exact hs.backed y hy
  | trans h h' ih ih' => exact ih' (ih hs)

/-! ## Ids and their counter -/

/-- No id in the pool or in a list of bound surfaces is ahead of the counter. -/
structure Below (s : Accelerator) : Prop where
  surfaces : ∀ x ∈ s.surfaces.entries, x.surfaceId ≤ s.nextSurfaceId
  bound : ∀ c ∈ s.contexts.entries, ∀ id ∈ c.boundSurfaceIds, id ≤ s.nextSurfaceId

/-- As long as the counter does not come round. -/
theorem Moves.keepsBelow {n : Nat} (h : Moves n s t) (hs : s.Below)
    (hn : s.nextSurfaceId + n < u32) : t.Below ∧ t.nextSurfaceId = s.nextSurfaceId + n := by
  have hinc : ∀ k, k + 1 < u32 → inc32 k = k + 1 := fun k hk => Nat.mod_eq_of_lt hk
  induction h with
  | sheds h =>
      refine ⟨⟨fun x hx => ?_, fun c hc id hid => ?_⟩, h.next⟩
      · obtain ⟨y, hy, hxy, -⟩ := h.surfaces x hx
        rw [hxy, h.next]
        exact hs.surfaces y hy
      · rw [h.next]
        rcases h.bound c hc with hnil | ⟨d, hd, hsub⟩
        · rw [hnil] at hid
          cases hid
        · exact hs.bound d hd id (hsub.subset hid)
  | draws hkept hnext =>
      rw [hinc _ hn] at hnext
      refine ⟨⟨fun x hx => ?_, fun c hc id hid => ?_⟩, hnext⟩
      · rw [hnext]
        exact Nat.le_succ_of_le (hs.surfaces x (hkept.surfaces ▸ hx))
      · rw [hnext]
        exact Nat.le_succ_of_le (hs.bound c (hkept.contexts ▸ hc) id hid)
  | enters hbacked henter =>
      have hnext := henter.next
      have hx := henter.id
      rw [hinc _ hn] at hnext hx
      refine ⟨⟨fun y hy => ?_, fun c hc id hid => ?_⟩, hnext⟩
      · rw [hnext]
        rcases henter.mem_surfaces.mp hy with rfl | hy
        · exact Nat.le_of_eq hx
        · exact Nat.le_succ_of_le (hs.surfaces y hy)
      · rw [hnext]
        rcases henter.mem_contexts hc with hc | ⟨d, hd, rfl⟩
        · exact Nat.le_succ_of_le (hs.bound c hc id hid)
        · rcases mem_bindSurface hid with hid | rfl
          · exact Nat.le_succ_of_le (hs.bound d hd id hid)
          · exact Nat.le_of_eq hx
  | trans h h' ih ih' =>
      obtain ⟨ht, hnext⟩ := ih hs (by omega)
      obtain ⟨hu, hnext'⟩ := ih' ht (by omega)
      exact ⟨hu, by omega⟩

end Accelerator
end VMQemuVGA
