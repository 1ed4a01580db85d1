import Mathlib.Data.List.Nodup
import VMQemuVGA.Accelerator.Accounts

/-! # What calls made through one context do to the surfaces of another

Surface ids come from one counter and are looked up in one pool. Which surface
belongs to which context is written down in the contexts' lists of bound
surfaces, and `contextHasSurface` reads them; `present3DSurface` and
`destroy3DSurface` do not ask it. This module says which calls stay among the
surfaces of the context they are made through. -/

namespace VMQemuVGA
namespace Accelerator

/-! ## Whose surfaces they are -/

/-- `contextHasSurface`. -/
def contextHasSurface (s : Accelerator) (ctx surface : Nat) : Bool :=
  (s.findContext ctx).any fun c => decide (surface ∈ c.boundSurfaceIds)

/-- Under which context the surface of an id was created. What is not there
before a call is a surface of the context the call is made through. -/
def attributed (owner : Nat → Nat) (s : Accelerator) (call : AccelCall) : Nat → Nat :=
  match call.context? with
  | none => owner
  | some ctx => fun id => if (s.findSurface id).isSome then owner id else ctx

/-- The surfaces created under `ctx` and the record of `ctx` are the same. -/
structure SameFor (owner owner' : Nat → Nat) (ctx : Nat) (s t : Accelerator) : Prop where
  context : t.findContext ctx = s.findContext ctx
  surfaces : ∀ x : AccelSurface, (x ∈ t.surfaces.entries ∧ owner' x.surfaceId = ctx) ↔
    (x ∈ s.surfaces.entries ∧ owner x.surfaceId = ctx)

/-- What `ctx` can do next with its surfaces comes to the same. -/
def SameNext (owner : Nat → Nat) (ctx : Nat) (s t : Accelerator) : Prop :=
  ∀ (e : AccelEnv), ∀ x ∈ s.surfaces.entries, owner x.surfaceId = ctx →
    (t.present3DSurface e ctx x.surfaceId).1 = (s.present3DSurface e ctx x.surfaceId).1 ∧
    (t.destroy3DSurface ctx x.surfaceId).1 = (s.destroy3DSurface ctx x.surfaceId).1

/-- A call presents and destroys only what its context has bound, and leaves the
surfaces of the other live contexts alone. -/
structure Isolated (owner : Nat → Nat) (e e' : AccelEnv) (s : Accelerator) (call : AccelCall) :
    Prop where
  refused : ∀ ctx surface,
    call = .present3DSurface ctx surface ∨ call = .destroy3DSurface ctx surface →
    s.contextHasSurface ctx surface = false →
    (s.call e e' call).1 ≠ .success ∧ (s.call e e' call).2 = s
  others : ∀ ctx, call.context? ≠ some ctx → (s.findContext ctx).isSome = true →
    SameFor owner (attributed owner s call) ctx s (s.call e e' call).2 ∧
    SameNext owner ctx s (s.call e e' call).2

/-! ## The condition on one call -/

/-- A surface of the id that is found is bound to the context. -/
def OwnSurface (s : Accelerator) (ctx surface : Nat) : Prop :=
  (s.findContext ctx).isSome = true → (s.findSurface surface).isSome = true →
    s.contextHasSurface ctx surface = true

/-- The id is that of no surface. -/
def NewSurface (s : Accelerator) (id : Nat) : Prop := ∀ x ∈ s.surfaces.entries, x.surfaceId ≠ id

/-- A surface of another live context than `through`. -/
def Foreign (owner : Nat → Nat) (s : Accelerator) (through : Option Nat) (x : AccelSurface) :
    Prop :=
  through ≠ some (owner x.surfaceId) ∧
    ∃ c ∈ s.contexts.entries, c.contextId = owner x.surfaceId

/-- What a collection frees is of no other live context. -/
def CollectsOwn (owner : Nat → Nat) (s : Accelerator) (through : Option Nat) : Prop :=
  ∀ x ∈ s.surfaces.entries, s.lost x = true → ¬ s.Foreign owner through x

/-- Resetting the texture units takes the mark from no surface of another live
context. -/
def ResetsOwn (owner : Nat → Nat) (e : AccelEnv) (s : Accelerator) (through : Option Nat) : Prop :=
  e.unitUnbound = true → ∀ x ∈ s.surfaces.entries, x.gpuResourceId ≠ 0 → x.isRenderTarget = true →
    ¬ s.Foreign owner through x

/-- What a call must meet to stay among the surfaces of its context. -/
def OwnOk (owner : Nat → Nat) (e : AccelEnv) (s : Accelerator) : AccelCall → Prop
  | .create3DContext => ∀ c ∈ s.contexts.entries, c.contextId ≠ inc32 s.nextContextId
  | .present3DSurface ctx surface => s.OwnSurface ctx surface
  | .destroy3DSurface ctx surface => s.OwnSurface ctx surface
  | .create3DSurface _ _ => s.NewSurface (inc32 s.nextSurfaceId)
  | .createFramebuffer .. =>
      s.NewSurface (inc32 s.nextSurfaceId) ∧ s.NewSurface (inc32 (inc32 s.nextSurfaceId))
  | .endRenderPass ctx =>
      s.collects e ctx → s.CollectsOwn owner (some ctx) ∧ s.ResetsOwn owner e (some ctx)
  | .garbageCollectTextures => s.CollectsOwn owner none
  | .destroy3DContext _ => True
  | .submit3DCommands _ _ => True
  | .beginRenderPass _ => True

/-! The condition can be tested on a concrete call. -/

section
variable (owner : Nat → Nat) (e : AccelEnv) (s : Accelerator) (through : Option Nat)

instance (ctx surface : Nat) : Decidable (s.OwnSurface ctx surface) :=
  inferInstanceAs (Decidable (_ → _ → _))

instance (id : Nat) : Decidable (s.NewSurface id) := inferInstanceAs (Decidable (∀ x ∈ _, _))

instance (x : AccelSurface) : Decidable (s.Foreign owner through x) :=
  inferInstanceAs (Decidable (_ ∧ ∃ c ∈ _, _))

instance : Decidable (s.CollectsOwn owner through) :=
  inferInstanceAs (Decidable (∀ x ∈ _, _ → ¬ s.Foreign owner through x))

instance : Decidable (s.ResetsOwn owner e through) :=
  inferInstanceAs (Decidable (_ → ∀ x ∈ _, _ → _ → ¬ s.Foreign owner through x))

instance (ctx : Nat) : Decidable (s.collects e ctx) :=
  match h : s.findContext ctx with
  | none => isFalse fun ⟨c, hc, _⟩ => by rw [h] at hc; cases hc
  | some c => decidable_of_iff
      ((if (s.finalizeRendering e ctx c).1 ≠ .success then
          e.framebuffer.getD (s.finalizeRendering e ctx c).1
        else (s.finalizeRendering e ctx c).1) = .success)
      ⟨fun hret => ⟨c, h, hret⟩, fun ⟨d, hd, hret⟩ => by
        rw [h] at hd
        cases hd
        exact hret⟩

instance : (call : AccelCall) → Decidable (s.OwnOk owner e call)
  | .create3DContext => inferInstanceAs (Decidable (∀ c ∈ _, _))
  | .present3DSurface ctx surface => inferInstanceAs (Decidable (s.OwnSurface ctx surface))
  | .destroy3DSurface ctx surface => inferInstanceAs (Decidable (s.OwnSurface ctx surface))
  | .create3DSurface _ _ => inferInstanceAs (Decidable (s.NewSurface _))
  | .createFramebuffer .. => inferInstanceAs (Decidable (s.NewSurface _ ∧ s.NewSurface _))
  | .endRenderPass ctx => inferInstanceAs (Decidable (s.collects e ctx →
      s.CollectsOwn owner (some ctx) ∧ s.ResetsOwn owner e (some ctx)))
  | .garbageCollectTextures => inferInstanceAs (Decidable (s.CollectsOwn owner none))
  | .destroy3DContext _ => isTrue trivial
  | .submit3DCommands _ _ => isTrue trivial
  | .beginRenderPass _ => isTrue trivial

end

/-! ## The invariant -/

/-- Ids differ, and what a context has bound is there and its own. -/
structure Owned (owner : Nat → Nat) (s : Accelerator) : Prop where
  contextsOnce : (s.contexts.entries.map AccelContext.contextId).Nodup
  surfacesOnce : (s.surfaces.entries.map AccelSurface.surfaceId).Nodup
  bound : ∀ c ∈ s.contexts.entries, ∀ id ∈ c.boundSurfaceIds,
    id ∈ s.surfaces.entries.map AccelSurface.surfaceId ∧ owner id = c.contextId
  boundOnce : ∀ c ∈ s.contexts.entries, c.boundSurfaceIds.Nodup
  backed : ∀ x ∈ s.surfaces.entries, x.backingMemory.isSome = true
  allocated : s.memoryAllocated = 0

/-- Contexts other than `through` stay, and so do the surfaces of the other
live contexts; none are added to them. -/
structure Confined (owner : Nat → Nat) (through : Option Nat) (s t : Accelerator) : Prop where
  contexts : ∀ c ∈ s.contexts.entries, through ≠ some c.contextId → c ∈ t.contexts.entries
  surfaces : ∀ x, s.Foreign owner through x → (x ∈ t.surfaces.entries ↔ x ∈ s.surfaces.entries)

/-- The invariant is kept, and the step confined to `through`. -/
structure Keeps (owner : Nat → Nat) (through : Option Nat) (s t : Accelerator) : Prop where
  owned : Owned owner t
  confined : Confined owner through s t

section
variable {owner : Nat → Nat} {through : Option Nat} {s t u : Accelerator}

theorem Foreign.of_confined {x : AccelSurface} (h : Confined owner through s t)
    (hx : s.Foreign owner through x) : t.Foreign owner through x := by
  obtain ⟨hne, c, hc, hid⟩ := hx
  exact ⟨hne, c, h.contexts c hc (hid ▸ hne), hid⟩

theorem Confined.refl (owner : Nat → Nat) (through : Option Nat) (s : Accelerator) :
    Confined owner through s s := ⟨fun _ hc _ => hc, fun _ _ => Iff.rfl⟩

theorem Confined.trans (h : Confined owner through s t) (h' : Confined owner through t u) :
    Confined owner through s u where
  contexts := fun c hc hne => h'.contexts c (h.contexts c hc hne) hne
  surfaces := fun x hx => (h'.surfaces x (hx.of_confined h)).trans (h.surfaces x hx)

theorem Keeps.refl (h : Owned owner s) : Keeps owner through s s := ⟨h, .refl owner through s⟩

theorem Keeps.trans (h : Keeps owner through s t) (h' : Keeps owner through t u) :
    Keeps owner through s u := ⟨h'.owned, h.confined.trans h'.confined⟩

/-- Contexts and surfaces are left alone. -/
theorem Keeps.of_eq (h : Owned owner s) (hc : t.contexts = s.contexts)
    (hx : t.surfaces = s.surfaces) (hm : t.memoryAllocated = s.memoryAllocated) :
    Keeps owner through s t where
  owned := by
    obtain ⟨h₁, h₂, h₃, h₄, h₅, h₆⟩ := h
    rw [← hc] at h₁ h₃ h₄
    rw [← hx] at h₂ h₃ h₅
    exact ⟨h₁, h₂, h₃, h₄, h₅, hm.trans h₆⟩
  confined := by
    refine ⟨fun c hmem _ => ?_, fun x _ => ?_⟩
    · rw [hc]
      exact hmem
    · rw [hx]

theorem Keeps.withGpu (h : Owned owner s) (g : Gpu) : Keeps owner through s (s.withGpu g) :=
  .of_eq h rfl rfl rfl

end

/-! ## Records of one context -/

theorem Keeps.modifyContext {owner : Nat → Nat} {s : Accelerator} (h : Owned owner s) {ctx : Nat}
    {f : AccelContext → AccelContext} (hid : ∀ c, (f c).contextId = c.contextId)
    (hf : ∀ c ∈ s.contexts.entries, c.contextId = ctx → (f c).boundSurfaceIds.Nodup ∧
      ∀ id ∈ (f c).boundSurfaceIds,
        id ∈ s.surfaces.entries.map AccelSurface.surfaceId ∧ owner id = ctx) :
    Keeps owner (some ctx) s (s.modifyContext ctx f) := by
  have hmem : ∀ c ∈ (s.modifyContext ctx f).contexts.entries,
      (c ∈ s.contexts.entries ∧ c.contextId ≠ ctx) ∨
        ∃ d ∈ s.contexts.entries, d.contextId = ctx ∧ c = f d := fun c hc =>
    Pool.of_mem_modify_key h.contextsOnce hc
  have hids : (s.modifyContext ctx f).contexts.entries.map AccelContext.contextId =
      s.contexts.entries.map AccelContext.contextId := Pool.map_modify s.contexts hid
  refine ⟨⟨hids ▸ h.contextsOnce, h.surfacesOnce, ?_, ?_, h.backed, h.allocated⟩, ?_, ?_⟩
  · intro c hc id hbound
    rcases hmem c hc with ⟨hc, -⟩ | ⟨d, hd, hctx, rfl⟩
    · exact h.bound c hc id hbound
    · rw [hid, hctx]
      exact (hf d hd hctx).2 id hbound
  · intro c hc
    rcases hmem c hc with ⟨hc, -⟩ | ⟨d, hd, hctx, rfl⟩
    · exact h.boundOnce c hc
    · exact (hf d hd hctx).1
  · intro c hc hne
    have hne' : c.contextId ≠ ctx := fun hctx => hne (congrArg some hctx.symm)
    exact (Pool.mem_modify_key_iff h.contextsOnce hne' hid).mpr hc
  · exact fun x _ => Iff.rfl

/-- A change that does not touch the list of bound surfaces. -/
theorem Keeps.modifyRecord {owner : Nat → Nat} {s : Accelerator} (h : Owned owner s) {ctx : Nat}
    {f : AccelContext → AccelContext} (hid : ∀ c, (f c).contextId = c.contextId)
    (hbound : ∀ c, (f c).boundSurfaceIds = c.boundSurfaceIds) :
    Keeps owner (some ctx) s (s.modifyContext ctx f) := by
  refine Keeps.modifyContext h hid fun c hc hctx => ?_
  rw [hbound, ← hctx]
  exact ⟨h.boundOnce c hc, h.bound c hc⟩

/-! ### Binding and unbinding -/

theorem mem_bindSurface {e : AccelEnv} {id k : Nat} {c : AccelContext}
    (h : k ∈ (c.bindSurface e id).boundSurfaceIds) : k ∈ c.boundSurfaceIds ∨ k = id := by
  unfold AccelContext.bindSurface at h
  split at h
  · exact Or.inl h
  split at h
  · split at h
    · exact Or.inl h
    · simpa using h
  · simpa using h

theorem nodup_bindSurface (e : AccelEnv) (id : Nat) {c : AccelContext}
    (h : c.boundSurfaceIds.Nodup) : (c.bindSurface e id).boundSurfaceIds.Nodup := by
  unfold AccelContext.bindSurface
  split
  · exact h
  next hnot =>
  have happend : (c.boundSurfaceIds ++ [id]).Nodup := by
    simpa using List.Nodup.concat hnot h
  split
  · split
    · exact h
    · exact happend
  · exact happend

theorem idxOf?_append_cons {id : Nat} {l₁ : List Nat} (h : id ∉ l₁) (l₂ : List Nat) :
    (l₁ ++ id :: l₂).idxOf? id = some l₁.length := by
  induction l₁ with
  | nil => simp [List.idxOf?_cons]
  | cons k l₁ ih =>
      obtain ⟨hne, hnot⟩ := List.ne_and_not_mem_of_not_mem_cons h
      have hk : (k == id) = false := beq_false_of_ne hne.symm
      rw [List.cons_append, List.idxOf?_cons, hk, ih hnot]
      rfl

/-- Unbinding takes the id out once, and the last id comes into its place. -/
theorem perm_unbindSurface (id : Nat) (c : AccelContext) :
    (c.unbindSurface id).boundSurfaceIds.Perm (c.boundSurfaceIds.erase id) := by
  by_cases hmem : id ∈ c.boundSurfaceIds
  swap
  · have hnone : c.boundSurfaceIds.idxOf? id = none := List.idxOf?_eq_none_iff.mpr hmem
    unfold AccelContext.unbindSurface
    rw [hnone, List.erase_of_not_mem hmem]
  obtain ⟨l₁, l₂, hnot, hl, herase⟩ := List.exists_erase_eq hmem
  have hidx : c.boundSurfaceIds.idxOf? id = some l₁.length := hl ▸ idxOf?_append_cons hnot l₂
  unfold AccelContext.unbindSurface
  rw [herase, hidx]
  rcases List.eq_nil_or_concat' l₂ with rfl | ⟨l₃, last, rfl⟩
  · have hlast : c.boundSurfaceIds.getLast? = some id := by simp [hl]
    rw [hlast]
    simp [hl]
  · have hlast : c.boundSurfaceIds.getLast? = some last := by
      rw [hl, ← List.cons_append, ← List.append_assoc, List.getLast?_concat]
    have hset : c.boundSurfaceIds.set l₁.length last = (l₁ ++ last :: l₃) ++ [last] := by
      rw [hl, List.set_append_right _ _ (Nat.le_refl _), Nat.sub_self, List.set_cons_zero,
        List.append_assoc, List.cons_append]
    rw [hlast]
    show ((c.boundSurfaceIds.set l₁.length last).dropLast).Perm _
    rw [hset, List.dropLast_concat]
    have hswap : ([last] ++ l₃).Perm (l₃ ++ [last]) := List.perm_append_comm
    exact hswap.append_left l₁

theorem contextId_unbindSurface (id : Nat) (c : AccelContext) :
    (c.unbindSurface id).contextId = c.contextId := by
  unfold AccelContext.unbindSurface
  split
  · rfl
  · rfl

/-! ## Surfaces of one context -/

/-- A surface comes into the pool under a new id of the context. -/
theorem Keeps.enterSurface {owner : Nat → Nat} {s t : Accelerator} (h : Owned owner s)
    {e : AccelEnv} {ctx : Nat} {x : AccelSurface} (hnew : s.NewSurface x.surfaceId)
    (howner : owner x.surfaceId = ctx) (hbacked : x.backingMemory.isSome = true)
    (ht : s.enterSurface e ctx x = some t) : Keeps owner (some ctx) s t := by
  unfold Accelerator.enterSurface at ht
  rw [Option.map_eq_some_iff] at ht
  obtain ⟨pool, hpool, rfl⟩ := ht
  have hperm := Pool.entries_add hpool
  have hmem : ∀ y, y ∈ pool.entries ↔ y = x ∨ y ∈ s.surfaces.entries := fun y => by
    rw [hperm.mem_iff, List.mem_cons]
  have hids : ∀ id, id ∈ s.surfaces.entries.map AccelSurface.surfaceId →
      id ∈ pool.entries.map AccelSurface.surfaceId := by
    intro id hid
    rw [(hperm.map _).mem_iff]
    exact List.mem_cons_of_mem _ hid
  have hnot : x.surfaceId ∉ s.surfaces.entries.map AccelSurface.surfaceId := by
    intro hx
    obtain ⟨y, hy, hid⟩ := List.mem_map.mp hx
    exact hnew y hy hid
  have hadd : Keeps owner (some ctx) s { s with surfaces := pool } := by
    refine ⟨⟨h.contextsOnce, ?_, ?_, h.boundOnce, ?_, h.allocated⟩, fun c hc _ => hc, ?_⟩
    · exact (hperm.map _).nodup_iff.mpr (List.nodup_cons.mpr ⟨hnot, h.surfacesOnce⟩)
    · intro c hc id hid
      obtain ⟨hin, hown⟩ := h.bound c hc id hid
      exact ⟨hids id hin, hown⟩
    · intro y hy
      rcases (hmem y).mp hy with rfl | hy
      · exact hbacked
      · exact h.backed y hy
    · intro y hy
      have hne : y ≠ x := fun hyx => hy.1 (by rw [hyx, howner])
      exact (hmem y).trans (or_iff_right hne)
  refine hadd.trans (Keeps.modifyContext hadd.owned (contextId_bindSurface e x.surfaceId) ?_)
  intro c hc hctx
  refine ⟨nodup_bindSurface e _ (h.boundOnce c hc), fun id hid => ?_⟩
  rcases mem_bindSurface hid with hid | rfl
  · exact hctx ▸ hadd.owned.bound c hc id hid
  · exact ⟨List.mem_map.mpr ⟨x, (hmem x).mpr (Or.inl rfl), rfl⟩, howner⟩

/-- A surface of the context is unbound and leaves the pool. -/
theorem Keeps.removeSurface {owner : Nat → Nat} {s : Accelerator} (h : Owned owner s)
    {ctx surface : Nat} (howner : owner surface = ctx) :
    Keeps owner (some ctx) s
      ((s.modifyContext ctx (AccelContext.unbindSurface surface)).removeSurface surface) := by
  have hunbound : ∀ c ∈ s.contexts.entries, ∀ id,
      id ∈ (c.unbindSurface surface).boundSurfaceIds → id ∈ c.boundSurfaceIds ∧ id ≠ surface := by
    intro c hc id hid
    rw [(perm_unbindSurface surface c).mem_iff, (h.boundOnce c hc).mem_erase_iff] at hid
    exact hid.symm
  have hunbind : Keeps owner (some ctx) s
      (s.modifyContext ctx (AccelContext.unbindSurface surface)) := by
    refine Keeps.modifyContext h (contextId_unbindSurface surface) fun c hc hctx => ⟨?_, ?_⟩
    · exact (perm_unbindSurface surface c).nodup_iff.mpr ((h.boundOnce c hc).erase surface)
    · intro id hid
      exact hctx ▸ h.bound c hc id (hunbound c hc id hid).1
  -- no other context has it bound, as it is not theirs
  have hfree : ∀ c ∈ (s.modifyContext ctx (AccelContext.unbindSurface surface)).contexts.entries,
      surface ∉ c.boundSurfaceIds := by
    intro c hc hbound
    rcases Pool.of_mem_modify_key h.contextsOnce hc with ⟨hold, hne⟩ | ⟨d, hd, -, rfl⟩
    · exact hne ((h.bound c hold surface hbound).2.symm.trans howner)
    · exact (hunbound d hd surface hbound).2 rfl
  have hmem : ∀ y, y ∈ ((s.modifyContext ctx (AccelContext.unbindSurface surface)).removeSurface
      surface).surfaces.entries ↔ y ∈ s.surfaces.entries ∧ y.surfaceId ≠ surface := fun y =>
    Pool.mem_remove_key_iff h.surfacesOnce
  have hsub : ((s.modifyContext ctx (AccelContext.unbindSurface surface)).removeSurface
      surface).surfaces.entries.Sublist s.surfaces.entries := by
    show (s.surfaces.remove _).entries.Sublist _
    rw [Pool.entries_remove]
    exact List.eraseP_sublist
  refine hunbind.trans ⟨⟨hunbind.owned.contextsOnce, h.surfacesOnce.sublist (hsub.map _), ?_,
    hunbind.owned.boundOnce, fun y hy => h.backed y (hsub.subset hy), h.allocated⟩,
    fun c hc _ => hc, ?_⟩
  · intro c hc id hid
    obtain ⟨hin, hown⟩ := hunbind.owned.bound c hc id hid
    obtain ⟨y, hy, rfl⟩ := List.mem_map.mp hin
    refine ⟨List.mem_map.mpr ⟨y, (hmem y).mpr ⟨hy, fun hs => ?_⟩, rfl⟩, hown⟩
    exact hfree c hc (hs ▸ hid)
  · intro y hy
    have hne : y.surfaceId ≠ surface := fun hs => hy.1 (by rw [hs, howner])
    exact (hmem y).trans (and_iff_left hne)

/-- A presented surface gets no more than a mark. -/
theorem Keeps.markPresented {owner : Nat → Nat} {s : Accelerator} (h : Owned owner s)
    {ctx surface : Nat} (howner : owner surface = ctx) :
    Keeps owner (some ctx) s (s.modifySurface surface AccelSurface.markPresented) := by
  have hids : (s.modifySurface surface AccelSurface.markPresented).surfaces.entries.map
      AccelSurface.surfaceId = s.surfaces.entries.map AccelSurface.surfaceId :=
    Pool.map_modify s.surfaces fun _ => rfl
  refine ⟨⟨h.contextsOnce, hids ▸ h.surfacesOnce, ?_, h.boundOnce, ?_, h.allocated⟩,
    fun c hc _ => hc, ?_⟩
  · intro c hc id hid
    rw [hids]
    exact h.bound c hc id hid
  · intro x hx
    rcases Pool.of_mem_modify_key h.surfacesOnce hx with ⟨hx, -⟩ | ⟨y, hy, -, rfl⟩
    · exact h.backed x hx
    · exact h.backed y hy
  · intro y hy
    have hne : y.surfaceId ≠ surface := fun hs => hy.1 (by rw [hs, howner])
    exact Pool.mem_modify_key_iff h.surfacesOnce hne fun _ => rfl

/-! ## Calls

What each call keeps, under any attribution that gives its context the surfaces
it makes. -/

section
variable {owner : Nat → Nat} {e e' : AccelEnv} {s : Accelerator} {ctx : Nat}

/-- What a context has bound is its own. -/
theorem Owned.owner_eq (h : Owned owner s) {surface : Nat}
    (hhas : s.contextHasSurface ctx surface = true) : owner surface = ctx := by
  obtain ⟨c, hc, hbound⟩ := (Option.any_eq_true _ _).mp hhas
  obtain ⟨hmem, hid⟩ := (Pool.find?_key_eq_some_iff h.contextsOnce).mp hc
  rw [(h.bound c hmem surface (of_decide_eq_true hbound)).2, hid]

theorem keeps_create3DContext (h : Owned owner s)
    (hnew : ∀ c ∈ s.contexts.entries, c.contextId ≠ inc32 s.nextContextId) :
    Keeps owner none s (s.create3DContext e).2 := by
  unfold create3DContext
  dsimp only
  split
  · exact .withGpu h _
  split
  · exact .withGpu h _
  split
  · exact .of_eq h rfl rfl rfl
  next pool hpool =>
  have hperm := Pool.entries_add hpool
  have hmem : ∀ c, c ∈ pool.entries ↔ c = .fresh (inc32 s.nextContextId)
      (s.gpu.createRenderContext e.toEnv).2.nextContextId ∨ c ∈ s.contexts.entries := fun c => by
    rw [hperm.mem_iff, List.mem_cons]
  have hnot : inc32 s.nextContextId ∉ s.contexts.entries.map AccelContext.contextId := by
    intro hid
    obtain ⟨c, hc, heq⟩ := List.mem_map.mp hid
    exact hnew c hc heq
  refine ⟨⟨?_, h.surfacesOnce, ?_, ?_, h.backed, h.allocated⟩, ?_, fun x _ => Iff.rfl⟩
  · exact (hperm.map _).nodup_iff.mpr (List.nodup_cons.mpr ⟨hnot, h.contextsOnce⟩)
  · intro c hc id hid
    rcases (hmem c).mp hc with rfl | hc
    · cases hid
    · exact h.bound c hc id hid
  · intro c hc
    rcases (hmem c).mp hc with rfl | hc
    · exact List.nodup_nil
    · exact h.boundOnce c hc
  · exact fun c hc _ => (hmem c).mpr (Or.inr hc)

theorem keeps_destroy3DContext (h : Owned owner s) :
    Keeps owner (some ctx) s (s.destroy3DContext e ctx).2 := by
  unfold destroy3DContext destroyContextInternal
  split
  · exact .refl h
  next c hc =>
  have hmem : ∀ d, d ∈ (s.contexts.remove fun c => c.contextId == ctx).entries ↔
      d ∈ s.contexts.entries ∧ d.contextId ≠ ctx := fun d =>
    Pool.mem_remove_key_iff h.contextsOnce
  have hsub : (s.contexts.remove fun c => c.contextId == ctx).entries.Sublist
      s.contexts.entries := by
    rw [Pool.entries_remove]
    exact List.eraseP_sublist
  refine ⟨⟨h.contextsOnce.sublist (hsub.map _), h.surfacesOnce,
    fun d hd => h.bound d (hsub.subset hd), fun d hd => h.boundOnce d (hsub.subset hd), h.backed,
    h.allocated⟩, ?_, fun x _ => Iff.rfl⟩
  intro d hd hne
  exact (hmem d).mpr ⟨hd, fun hctx => hne (congrArg some hctx.symm)⟩

theorem keeps_submit3DCommands (h : Owned owner s) (commands : Option Nat) :
    Keeps owner (some ctx) s (s.submit3DCommands e ctx commands).2 := by
  unfold submit3DCommands
  split
  · exact .refl h
  split
  · exact .refl h
  · exact .withGpu h _

theorem keeps_beginRenderPass (h : Owned owner s) :
    Keeps owner (some ctx) s (s.beginRenderPass e ctx).2 := by
  unfold beginRenderPass
  split
  · exact .refl h
  split
  · exact .refl h
  dsimp only
  have hsent : ∀ g, Keeps owner (some ctx) s (s.withGpu g) := .withGpu h
  split
  · exact (hsent _).trans (.modifyRecord (hsent _).owned (f := AccelContext.keepRenderState)
      (fun _ => rfl) fun _ => rfl)
  · exact hsent _

theorem keeps_finalizeRendering (e : AccelEnv) (ctx : Nat) (h : Owned owner s) (c : AccelContext) :
    Keeps owner (some ctx) s (s.finalizeRendering e ctx c).2 := by
  unfold finalizeRendering
  split
  · exact .refl h
  split
  · exact .refl h
  have hsent : ∀ g, Keeps owner (some ctx) s (s.withGpu g) := .withGpu h
  exact (hsent _).trans
    (.modifyRecord (hsent _).owned (f := AccelContext.bumpGpuContextId) (fun _ => rfl)
      fun _ => rfl)

theorem keeps_returnCommandBuffer {through : Option Nat} (h : Owned owner s) :
    Keeps owner through s (s.returnCommandBuffer e ctx) := by
  unfold returnCommandBuffer
  split
  · exact .refl h
  split
  · exact .refl h
  · exact .withGpu h _

theorem keeps_present3DSurface (h : Owned owner s) {surface : Nat}
    (hown : s.OwnSurface ctx surface) :
    Keeps owner (some ctx) s (s.present3DSurface e ctx surface).2 := by
  unfold present3DSurface
  split
  swap
  · exact .refl h
  next c x hc hx =>
  have howner : owner surface = ctx := h.owner_eq (hown (by rw [hc]; rfl) (by rw [hx]; rfl))
  have hsent : ∀ g, Keeps owner (some ctx) s (s.withGpu g) := .withGpu h
  have hmarked : ∀ g, Keeps owner (some ctx) s
      ((s.withGpu g).modifySurface surface AccelSurface.markPresented) := fun g =>
    (hsent g).trans (.markPresented (hsent g).owned howner)
  dsimp only
  split
  · exact hsent _
  -- with or without a copy to the framebuffer
  split
  · split
    · exact hsent _
    · exact hmarked _
  · split
    · exact hsent _
    · exact hmarked _

theorem keeps_destroy3DSurface (h : Owned owner s) {surface : Nat}
    (hown : s.OwnSurface ctx surface) :
    Keeps owner (some ctx) s (s.destroy3DSurface ctx surface).2 := by
  unfold destroy3DSurface
  split
  · next c x hc hx =>
    exact .removeSurface h (h.owner_eq (hown (by rw [hc]; rfl) (by rw [hx]; rfl)))
  · exact .refl h

theorem keeps_backSurface (h : Owned owner s) (resource : Nat) (info : SurfaceInfo)
    (hnew : s.NewSurface (inc32 s.nextSurfaceId)) (howner : owner (inc32 s.nextSurfaceId) = ctx) :
    Keeps owner (some ctx) s (s.backSurface e ctx resource info).2 := by
  unfold backSurface
  split
  · exact .withGpu h _
  have hdraw : Keeps owner (some ctx) s s.drawSurfaceId := .of_eq h rfl rfl rfl
  dsimp only
  split
  · exact hdraw.trans (.withGpu hdraw.owned _)
  split
  · exact hdraw.trans (.withGpu hdraw.owned _)
  · next t ht =>
    have henter : Keeps owner (some ctx) s.drawSurfaceId t := by
      refine Keeps.enterSurface hdraw.owned ?_ ?_ ?_ ht
      · exact hnew
      · exact howner
      · rfl
    exact hdraw.trans (henter.trans (.of_eq henter.owned rfl rfl rfl))

theorem keeps_create3DSurface (h : Owned owner s) (info : SurfaceInfo)
    (hnew : s.NewSurface (inc32 s.nextSurfaceId)) (howner : owner (inc32 s.nextSurfaceId) = ctx) :
    Keeps owner (some ctx) s (s.create3DSurface e ctx info).2 := by
  unfold create3DSurface
  split
  · exact .refl h
  dsimp only
  have hsent : ∀ g, Keeps owner (some ctx) s (s.withGpu g) := .withGpu h
  split
  · exact hsent _
  · exact (hsent _).trans (keeps_backSurface (hsent _).owned _ _ hnew howner)

/-- A surface of a framebuffer comes under the next id, or not at all. -/
theorem keeps_createSurfaceInternal (h : Owned owner s) (info : SurfaceInfo)
    (hnew : s.NewSurface (inc32 s.nextSurfaceId)) (howner : owner (inc32 s.nextSurfaceId) = ctx) :
    Keeps owner (some ctx) s (s.createSurfaceInternal e ctx info).2 := by
  unfold createSurfaceInternal
  split
  · exact .refl h
  split
  · exact .refl h
  have hdraw : Keeps owner (some ctx) s s.drawSurfaceId := .of_eq h rfl rfl rfl
  dsimp only
  split
  · exact hdraw
  split
  · exact hdraw
  · next t ht =>
    refine hdraw.trans (Keeps.enterSurface hdraw.owned ?_ ?_ ?_ ht)
    · exact hnew
    · exact howner
    · rfl

/-- Where the colour surface is made, the next id but one is still new. -/
theorem newSurface_createSurfaceInternal {info : SurfaceInfo}
    (hnew : s.NewSurface (inc32 (inc32 s.nextSurfaceId)))
    (hret : (s.createSurfaceInternal e ctx info).1 = .success) :
    (s.createSurfaceInternal e ctx info).2.nextSurfaceId = inc32 s.nextSurfaceId ∧
    (s.createSurfaceInternal e ctx info).2.NewSurface (inc32 (inc32 s.nextSurfaceId)) := by
  unfold createSurfaceInternal at hret ⊢
  cases hc : s.findContext ctx with
  | none =>
      rw [hc] at hret
      cases hret
  | some c =>
      rw [hc] at hret
      dsimp only at hret ⊢
      split at hret
      · cases hret
      next halloc =>
      rw [if_neg halloc]
      split at hret
      · cases hret
      split at hret
      · cases hret
      next t ht =>
      unfold Accelerator.enterSurface at ht
      rw [Option.map_eq_some_iff] at ht
      obtain ⟨pool, hpool, rfl⟩ := ht
      refine ⟨rfl, fun x hx => ?_⟩
      rcases List.mem_cons.mp ((Pool.entries_add hpool).mem_iff.mp hx) with rfl | hx
      · exact (inc32_ne _).symm
      · exact hnew x hx

theorem keeps_destroySurfaceInternal (h : Owned owner s) {surface : Nat}
    (howner : owner surface = ctx) :
    Keeps owner (some ctx) s (s.destroySurfaceInternal ctx surface).2 := by
  unfold destroySurfaceInternal
  split
  · exact .refl h
  · exact .removeSurface h howner

theorem keeps_addDepthSurface (h : Owned owner s) {color : Nat} (info : SurfaceInfo)
    (hnew : s.NewSurface (inc32 s.nextSurfaceId)) (howner : owner (inc32 s.nextSurfaceId) = ctx)
    (hcolor : color ≠ 0 → owner color = ctx) :
    Keeps owner (some ctx) s (s.addDepthSurface e ctx color info).2 := by
  have hcreate := keeps_createSurfaceInternal (e := e) h info hnew howner
  unfold addDepthSurface
  split
  · exact .refl h
  dsimp only
  split
  · exact hcreate
  split
  · exact hcreate
  · next hne => exact hcreate.trans (keeps_destroySurfaceInternal hcreate.owned (hcolor hne))

theorem keeps_createFramebuffer (h : Owned owner s) (width height colorFormat depthFormat : Nat)
    (hnew : s.NewSurface (inc32 s.nextSurfaceId)) (howner : owner (inc32 s.nextSurfaceId) = ctx)
    (hnew' : s.NewSurface (inc32 (inc32 s.nextSurfaceId)))
    (howner' : owner (inc32 (inc32 s.nextSurfaceId)) = ctx) :
    Keeps owner (some ctx) s
      (s.createFramebuffer e e' ctx width height colorFormat depthFormat).2 := by
  unfold createFramebuffer
  split
  · exact .refl h
  split
  · exact .refl h
  split
  · exact keeps_addDepthSurface h _ hnew howner fun hne => absurd rfl hne
  have hcreate := keeps_createSurfaceInternal (e := e) h ⟨colorFormat, width, height, 1⟩ hnew howner
  dsimp only
  split
  · exact hcreate
  next hret =>
  obtain ⟨hnext, hnew₁⟩ := newSurface_createSurfaceInternal hnew' (not_not.mp hret)
  refine hcreate.trans (keeps_addDepthSurface hcreate.owned _ ?_ ?_ fun _ => ?_)
  · rw [hnext]
    exact hnew₁
  · rw [hnext]
    exact howner'
  · rw [hnext]
    exact howner

/-! ### Collections -/

theorem foreign_congr {t : Accelerator} {through : Option Nat} {x : AccelSurface}
    (h : t.contexts.entries.map AccelContext.contextId =
      s.contexts.entries.map AccelContext.contextId) :
    t.Foreign owner through x ↔ s.Foreign owner through x := by
  have hlive : ∀ u : Accelerator,
      (∃ c ∈ u.contexts.entries, c.contextId = owner x.surfaceId) ↔
        owner x.surfaceId ∈ u.contexts.entries.map AccelContext.contextId := fun u =>
    List.mem_map.symm
  unfold Foreign
  rw [hlive, hlive, h]

theorem surfaceIds_resetTextureUnits (e : AccelEnv) (s : Accelerator) :
    (s.resetTextureUnits e).surfaces.entries.map AccelSurface.surfaceId =
      s.surfaces.entries.map AccelSurface.surfaceId := by
  obtain ⟨pool, heq, hentries⟩ := resetTextureUnits_eq e s
  rw [heq, hentries, List.map_map]
  rfl

theorem keeps_resetTextureUnits {through : Option Nat} (h : Owned owner s)
    (hown : s.ResetsOwn owner e through) : Keeps owner through s (s.resetTextureUnits e) := by
  have hids := surfaceIds_resetTextureUnits e s
  obtain ⟨pool, heq, hentries⟩ := resetTextureUnits_eq e s
  rw [heq] at hids ⊢
  -- what is reset of another context has nothing to lose
  have hsame : ∀ x ∈ s.surfaces.entries, s.Foreign owner through x →
      { x with isRenderTarget := staysMarked e x } = x := by
    intro x hx hforeign
    rw [staysMarked]
    split
    · next hres =>
      have hmark : x.isRenderTarget = false := by
        rw [← Bool.not_eq_true]
        exact fun hmark => hown hres.1 x hx hres.2 hmark hforeign
      rw [← hmark]
    · rfl
  refine ⟨⟨h.contextsOnce, hids ▸ h.surfacesOnce, ?_, h.boundOnce, ?_, h.allocated⟩,
    fun c hc _ => hc, ?_⟩
  · intro c hc id hid
    rw [hids]
    exact h.bound c hc id hid
  · intro x hx
    rw [hentries] at hx
    obtain ⟨y, hy, rfl⟩ := List.mem_map.mp hx
    exact h.backed y hy
  · intro x hforeign
    rw [hentries, List.mem_map]
    constructor
    · rintro ⟨y, hy, rfl⟩
      rw [hsame y hy hforeign]
      exact hy
    · intro hx
      exact ⟨x, hx, hsame x hx hforeign⟩

theorem keeps_garbageCollectTextures {through : Option Nat} (h : Owned owner s)
    (hown : s.CollectsOwn owner through) :
    Keeps owner through s (s.garbageCollectTextures e).2 := by
  unfold garbageCollectTextures
  rw [relieve_of_allocated_eq_zero e h.allocated]
  dsimp only
  generalize hsweep : s.surfaces.sweep (Collector.visitLost e s.lost)
    ⟨s.gpu, 0, s.gcGeneration, 0⟩ = swept
  obtain ⟨w, pool⟩ := swept
  have hentries : pool.entries = s.surfaces.entries.filter fun x => !s.lost x := by
    have hsnd := Pool.entries_sweep (visitLost_fst e s.lost) s.surfaces
      ⟨s.gpu, 0, s.gcGeneration, 0⟩
    rw [hsweep] at hsnd
    exact hsnd
  have hmem : ∀ x, x ∈ pool.entries ↔ x ∈ s.surfaces.entries ∧ s.lost x = false := fun x => by
    rw [hentries, List.mem_filter, Bool.not_eq_true']
  have hsub : pool.entries.Sublist s.surfaces.entries := hentries ▸ List.filter_sublist
  -- what a context has bound is not lost, so the context forgets nothing
  have hkeep : ∀ c ∈ s.contexts.entries, c.keepBound pool = c := by
    intro c hc
    have hall : ∀ id ∈ c.boundSurfaceIds,
        ((pool.find? fun x => x.surfaceId == id).any fun x => x.backingMemory.isSome) = true := by
      intro id hid
      obtain ⟨x, hx, hxid⟩ := List.mem_map.mp (h.bound c hc id hid).1
      have hlost : s.lost x = false := by
        unfold lost
        rw [Bool.not_eq_false', List.any_eq_true]
        exact ⟨c, hc, decide_eq_true (hxid ▸ hid)⟩
      have hfind := (Pool.find?_key_eq_some_iff (h.surfacesOnce.sublist (hsub.map _))).mpr
        ⟨(hmem x).mpr ⟨hx, hlost⟩, hxid⟩
      rw [hfind]
      exact h.backed x hx
    unfold AccelContext.keepBound
    rw [List.filter_eq_self.mpr hall]
  have hcontexts : (s.contexts.map (AccelContext.keepBound pool)).entries = s.contexts.entries := by
    rw [Pool.entries_map]
    exact (List.map_congr_left hkeep).trans (List.map_id _)
  refine ⟨⟨hcontexts ▸ h.contextsOnce, h.surfacesOnce.sublist (hsub.map _), ?_,
    hcontexts ▸ h.boundOnce, fun x hx => h.backed x (hsub.subset hx), ?_⟩, ?_, ?_⟩
  · intro c hc id hid
    have hc' : c ∈ s.contexts.entries := hcontexts ▸ hc
    obtain ⟨hin, hown'⟩ := h.bound c hc' id hid
    obtain ⟨x, hx, rfl⟩ := List.mem_map.mp hin
    have hlost : s.lost x = false := by
      unfold lost
      rw [Bool.not_eq_false', List.any_eq_true]
      exact ⟨c, hc', decide_eq_true hid⟩
    exact ⟨List.mem_map.mpr ⟨x, (hmem x).mpr ⟨hx, hlost⟩, rfl⟩, hown'⟩
  · show s.memoryAllocated - w.freedMemory = 0
    rw [h.allocated, Nat.zero_sub]
  · intro c hc _
    show c ∈ (s.contexts.map (AccelContext.keepBound pool)).entries
    rw [hcontexts]
    exact hc
  · intro x hforeign
    refine (hmem x).trans ⟨And.left, fun hx => ⟨hx, ?_⟩⟩
    rw [← Bool.not_eq_true]
    exact fun hlost => hown x hx hlost hforeign

/-- What a collection frees is known by the ids of the surfaces, and by the ids
and lists of the contexts. -/
theorem CollectsOwn.congr {t : Accelerator} {through : Option Nat}
    (h : s.CollectsOwn owner through)
    (hsurfaces : t.surfaces.entries.map AccelSurface.surfaceId =
      s.surfaces.entries.map AccelSurface.surfaceId)
    (hbound : t.contexts.entries.map AccelContext.boundSurfaceIds =
      s.contexts.entries.map AccelContext.boundSurfaceIds)
    (hids : t.contexts.entries.map AccelContext.contextId =
      s.contexts.entries.map AccelContext.contextId) : t.CollectsOwn owner through := by
  intro x hx hlost hforeign
  have hid : x.surfaceId ∈ s.surfaces.entries.map AccelSurface.surfaceId :=
    hsurfaces ▸ List.mem_map_of_mem hx
  obtain ⟨y, hy, hyx⟩ := List.mem_map.mp hid
  have hlost' : s.lost y = true := by
    rw [lost_congr hbound] at hlost
    unfold lost at hlost ⊢
    rw [hyx]
    exact hlost
  have hforeign' : s.Foreign owner through y := by
    rw [foreign_congr hids] at hforeign
    unfold Foreign at hforeign ⊢
    rw [hyx]
    exact hforeign
  exact h y hy hlost' hforeign'

theorem keeps_endRenderPass (h : Owned owner s)
    (hown : s.collects e ctx → s.CollectsOwn owner (some ctx) ∧ s.ResetsOwn owner e (some ctx)) :
    Keeps owner (some ctx) s (s.endRenderPass e e' ctx).2 := by
  unfold endRenderPass
  cases hc : s.findContext ctx with
  | none => exact .refl h
  | some c =>
      have hfinal := keeps_finalizeRendering e ctx h c
      obtain ⟨hsurfaces, hbound, hids⟩ := pools_finalizeRendering e s ctx c
      by_cases hcollects : s.collects e ctx
      swap
      · dsimp only
        rw [if_pos fun hsuccess => hcollects ⟨c, hc, hsuccess⟩]
        exact hfinal
      obtain ⟨hcollect, hreset⟩ := hown hcollects
      obtain ⟨d, hd, hsuccess⟩ := hcollects
      cases hc.symm.trans hd
      dsimp only at hsuccess ⊢
      rw [if_neg (not_not.mpr hsuccess)]
      generalize (s.finalizeRendering e ctx c).2 = s₁ at hfinal hsurfaces hbound hids ⊢
      have hreset₁ : s₁.ResetsOwn owner e (some ctx) := by
        intro hunit x hx hres hmark hforeign
        exact hreset hunit x (hsurfaces ▸ hx) hres hmark ((foreign_congr hids).mp hforeign)
      have hmarks := keeps_resetTextureUnits hfinal.owned hreset₁
      have hcollect₁ : (s₁.resetTextureUnits e).CollectsOwn owner (some ctx) := by
        apply hcollect.congr
        · rw [surfaceIds_resetTextureUnits, hsurfaces]
        · rw [contexts_resetTextureUnits]
          exact hbound
        · rw [contexts_resetTextureUnits]
          exact hids
      have hgc := keeps_garbageCollectTextures (e := e') hmarks.owned hcollect₁
      exact hfinal.trans (hmarks.trans (hgc.trans (keeps_returnCommandBuffer hgc.owned)))

/-! ### Every call -/

theorem attributed_of_new {call : AccelCall} (hctx : call.context? = some ctx) {id : Nat}
    (hnew : s.NewSurface id) : attributed owner s call id = ctx := by
  have hnone : (s.findSurface id).isSome = false := by
    rw [← Bool.not_eq_true]
    intro hsome
    obtain ⟨x, hx, hid⟩ := Pool.isSome_find?_key_iff.mp hsome
    exact hnew x hx hid
  unfold attributed
  rw [hctx]
  exact if_neg (by rw [hnone]; exact Bool.false_ne_true)

/-- What is there already keeps its attribution. -/
theorem attributed_of_mem {call : AccelCall} {x : AccelSurface} (hx : x ∈ s.surfaces.entries) :
    attributed owner s call x.surfaceId = owner x.surfaceId := by
  have hsome : (s.findSurface x.surfaceId).isSome = true :=
    Pool.isSome_find?_key_iff.mpr ⟨x, hx, rfl⟩
  unfold attributed
  cases call.context? with
  | none => rfl
  | some ctx => exact if_pos hsome

theorem owned_attributed (h : Owned owner s) (call : AccelCall) :
    Owned (attributed owner s call) s := by
  refine ⟨h.contextsOnce, h.surfacesOnce, fun c hc id hid => ?_, h.boundOnce, h.backed,
    h.allocated⟩
  obtain ⟨hin, hown⟩ := h.bound c hc id hid
  obtain ⟨x, hx, rfl⟩ := List.mem_map.mp hin
  exact ⟨hin, (attributed_of_mem hx).trans hown⟩

theorem foreign_attributed {call : AccelCall} {through : Option Nat} {x : AccelSurface}
    (hx : x ∈ s.surfaces.entries) :
    s.Foreign (attributed owner s call) through x ↔ s.Foreign owner through x := by
  unfold Foreign
  rw [attributed_of_mem hx]

/-- **One call** that is `OwnOk` keeps the invariant and stays among the
surfaces of its context. -/
theorem keeps_call (e' : AccelEnv) (h : Owned owner s) {call : AccelCall}
    (hok : s.OwnOk owner e call) :
    Keeps (attributed owner s call) call.context? s (s.call e e' call).2 := by
  have h' := owned_attributed h call
  have hcollects : ∀ through, s.CollectsOwn owner through →
      s.CollectsOwn (attributed owner s call) through := fun through hown x hx hlost hforeign =>
    hown x hx hlost ((foreign_attributed hx).mp hforeign)
  cases call with
  | create3DContext => exact keeps_create3DContext h' hok
  | destroy3DContext ctx => exact keeps_destroy3DContext h'
  | submit3DCommands ctx commands => exact keeps_submit3DCommands h' commands
  | beginRenderPass ctx => exact keeps_beginRenderPass h'
  | endRenderPass ctx =>
      refine keeps_endRenderPass h' fun hcol => ⟨hcollects _ (hok hcol).1, ?_⟩
      intro hunit x hx hres hmark hforeign
      exact (hok hcol).2 hunit x hx hres hmark ((foreign_attributed hx).mp hforeign)
  | present3DSurface ctx surface => exact keeps_present3DSurface h' hok
  | create3DSurface ctx info =>
      exact keeps_create3DSurface h' info hok (attributed_of_new rfl hok)
  | destroy3DSurface ctx surface => exact keeps_destroy3DSurface h' hok
  | createFramebuffer ctx width height colorFormat depthFormat =>
      exact keeps_createFramebuffer h' width height colorFormat depthFormat hok.1
        (attributed_of_new rfl hok.1) hok.2 (attributed_of_new rfl hok.2)
  | garbageCollectTextures => exact keeps_garbageCollectTextures h' (hcollects none hok)

end

/-! ## What comes of it for the other contexts -/

section
variable {owner : Nat → Nat} {e e' : AccelEnv} {s t : Accelerator} {ctx : Nat}

theorem isSome_findSurface_of_mem {x : AccelSurface} (hx : x ∈ s.surfaces.entries) :
    (s.findSurface x.surfaceId).isSome = true := Pool.isSome_find?_key_iff.mpr ⟨x, hx, rfl⟩

/-- What presenting and destroying return is a matter of context and surface
being found. -/
theorem returns_of_found (e : AccelEnv) (ctx : Nat) {surface : Nat}
    (hx : (s.findSurface surface).isSome = true) :
    (s.present3DSurface e ctx surface).1 =
      (if (s.findContext ctx).isSome = true then .success else .notFound) ∧
    (s.destroy3DSurface ctx surface).1 =
      (if (s.findContext ctx).isSome = true then .success else .badArgument) := by
  obtain ⟨x, hx⟩ := Option.isSome_iff_exists.mp hx
  unfold present3DSurface destroy3DSurface
  rw [hx]
  cases s.findContext ctx with
  | none => exact ⟨rfl, rfl⟩
  | some c =>
      refine ⟨?_, rfl⟩
      dsimp only [Option.isSome_some]
      split
      · rfl
      split
      · split
        · rfl
        · rfl
      · split
        · rfl
        · rfl

theorem SameFor.sameNext {owner' : Nat → Nat} (h : SameFor owner owner' ctx s t) :
    SameNext owner ctx s t := by
  intro e x hx hown
  have hx' : x ∈ t.surfaces.entries := ((h.surfaces x).mpr ⟨hx, hown⟩).1
  obtain ⟨hp, hd⟩ := returns_of_found e ctx (isSome_findSurface_of_mem hx)
  obtain ⟨hp', hd'⟩ := returns_of_found e ctx (isSome_findSurface_of_mem hx')
  rw [hp, hd, hp', hd', h.context]
  exact ⟨rfl, rfl⟩

theorem sameFor_call (h : Owned owner s) {call : AccelCall} (hok : s.OwnOk owner e call)
    (hne : call.context? ≠ some ctx) (hlive : (s.findContext ctx).isSome = true) :
    SameFor owner (attributed owner s call) ctx s (s.call e e' call).2 := by
  obtain ⟨howned, hconfined⟩ := keeps_call e' h hok
  obtain ⟨c, hc⟩ := Option.isSome_iff_exists.mp hlive
  obtain ⟨hmem, hid⟩ := (Pool.find?_key_eq_some_iff h.contextsOnce).mp hc
  refine ⟨?_, fun x => ⟨?_, ?_⟩⟩
  · rw [hc]
    exact (Pool.find?_key_eq_some_iff howned.contextsOnce).mpr
      ⟨hconfined.contexts c hmem (hid ▸ hne), hid⟩
  · rintro ⟨hx, hown⟩
    have hforeign : s.Foreign (attributed owner s call) call.context? x :=
      ⟨hown ▸ hne, c, hmem, hid.trans hown.symm⟩
    have hx' := (hconfined.surfaces x hforeign).mp hx
    exact ⟨hx', (attributed_of_mem hx').symm.trans hown⟩
  · rintro ⟨hx, hown⟩
    have hown' : attributed owner s call x.surfaceId = ctx := (attributed_of_mem hx).trans hown
    have hforeign : s.Foreign (attributed owner s call) call.context? x :=
      ⟨hown' ▸ hne, c, hmem, hid.trans hown'.symm⟩
    exact ⟨(hconfined.surfaces x hforeign).mpr hx, hown'⟩

/-- What is not bound to the context is not found, and the call comes to
nothing. -/
theorem refused_call {call : AccelCall} (hok : s.OwnOk owner e call) {surface : Nat}
    (hcall : call = .present3DSurface ctx surface ∨ call = .destroy3DSurface ctx surface)
    (hnot : s.contextHasSurface ctx surface = false) :
    (s.call e e' call).1 ≠ .success ∧ (s.call e e' call).2 = s := by
  have hown : s.OwnSurface ctx surface := by
    rcases hcall with rfl | rfl
    · exact hok
    · exact hok
  have hmissing : s.findContext ctx = none ∨ s.findSurface surface = none := by
    cases hc : s.findContext ctx with
    | none => exact Or.inl rfl
    | some c =>
        refine Or.inr (Option.not_isSome_iff_eq_none.mp fun hx => ?_)
        have hhas := hown (by rw [hc]; rfl) hx
        rw [hnot] at hhas
        cases hhas
  have hpresent : s.present3DSurface e ctx surface = (.notFound, s) := by
    unfold present3DSurface
    split
    · next c x hc hx =>
      rw [hc, hx] at hmissing
      rcases hmissing with hnone | hnone <;> cases hnone
    · rfl
  have hdestroy : s.destroy3DSurface ctx surface = (.badArgument, s) := by
    unfold destroy3DSurface
    split
    · next c x hc hx =>
      rw [hc, hx] at hmissing
      rcases hmissing with hnone | hnone <;> cases hnone
    · rfl
  rcases hcall with rfl | rfl
  · show (s.present3DSurface e ctx surface).1 ≠ _ ∧ (s.present3DSurface e ctx surface).2 = s
    rw [hpresent]
    exact ⟨IOReturn.noConfusion, rfl⟩
  · show (s.destroy3DSurface ctx surface).1 ≠ _ ∧ (s.destroy3DSurface ctx surface).2 = s
    rw [hdestroy]
    exact ⟨IOReturn.noConfusion, rfl⟩

theorem isolated_call (h : Owned owner s) {call : AccelCall} (hok : s.OwnOk owner e call) :
    Isolated owner e e' s call where
  refused := fun _ _ hcall hnot => refused_call hok hcall hnot
  others := fun _ hne hlive =>
    ⟨sameFor_call h hok hne hlive, (sameFor_call h hok hne hlive).sameNext⟩

end

end Accelerator

/-! ## Runs -/

/-- A run, and under which context each surface was created. -/
structure OwnedRun where
  run : AccelRun
  owner : Nat → Nat

namespace OwnedRun

def step (s : OwnedRun) (call : ClientCall) (e e' : AccelEnv) : Option OwnedRun :=
  (s.run.step call e e').map fun t =>
    ⟨t, match s.run.issues call with
      | none => s.owner
      | some c => s.run.accel.attributed s.owner c⟩

/-- All runs of any number of clients. -/
def machine (supports3D : Bool) (maxScanouts : Nat) :
    Machine OwnedRun (ClientCall × AccelEnv × AccelEnv) where
  init := ⟨.init supports3D maxScanouts, fun _ => 0⟩
  step := fun s c => s.step c.1 c.2.1 c.2.2

/-- What a step issues stays among the surfaces of its context. -/
def Isolated (s : OwnedRun) (c : ClientCall × AccelEnv × AccelEnv) : Prop :=
  ∀ call, s.run.issues c.1 = some call →
    s.run.accel.Isolated s.owner c.2.1 c.2.2 call

/-- What a step issues is `OwnOk`. -/
def OwnOk (s : OwnedRun) (c : ClientCall × AccelEnv × AccelEnv) : Prop :=
  ∀ call, s.run.issues c.1 = some call → s.run.accel.OwnOk s.owner c.2.1 call

/-- What a step issues is not made through `ctx`. -/
def NotThrough (ctx : Nat) (s : OwnedRun) (c : ClientCall × AccelEnv × AccelEnv) : Prop :=
  ∀ call, s.run.issues c.1 = some call → call.context? ≠ some ctx

/-- For the context `ctx`, two states are the same. -/
def SameFor (ctx : Nat) (s t : OwnedRun) : Prop :=
  s.run.accel.SameFor s.owner t.owner ctx t.run.accel

theorem sameFor_refl (ctx : Nat) (s : OwnedRun) : s.SameFor ctx s := ⟨rfl, fun _ => Iff.rfl⟩

theorem SameFor.trans {ctx : Nat} {s t u : OwnedRun} (h : s.SameFor ctx t) (h' : t.SameFor ctx u) :
    s.SameFor ctx u :=
  ⟨h'.context.trans h.context, fun x => (h'.surfaces x).trans (h.surfaces x)⟩

/-- **One step.** It keeps the invariant, and is the same for every live context
it is not made through. -/
theorem step_spec {s t : OwnedRun} {c : ClientCall × AccelEnv × AccelEnv}
    (h : s.run.accel.Owned s.owner) (hok : s.OwnOk c) (hstep : s.step c.1 c.2.1 c.2.2 = some t) :
    t.run.accel.Owned t.owner ∧ ∀ ctx, s.NotThrough ctx c →
      (s.run.accel.findContext ctx).isSome = true → s.SameFor ctx t := by
  unfold step at hstep
  rw [Option.map_eq_some_iff] at hstep
  obtain ⟨r, hr, rfl⟩ := hstep
  rcases AccelRun.step_cases hr with ⟨hnone, haccel, -⟩ | ⟨call, hcall, haccel, -⟩ |
    ⟨hnone, l, -, haccel, -⟩
  · rw [hnone]
    refine ⟨?_, fun ctx _ _ => ?_⟩
    · show r.accel.Owned s.owner
      rw [haccel]
      exact h
    · show s.run.accel.SameFor s.owner s.owner ctx r.accel
      rw [haccel]
      exact ⟨rfl, fun _ => Iff.rfl⟩
  · rw [hcall]
    refine ⟨?_, fun ctx hnot hlive => ?_⟩
    · show r.accel.Owned (s.run.accel.attributed s.owner call)
      rw [haccel]
      exact (Accelerator.keeps_call _ h (hok call hcall)).owned
    · show s.run.accel.SameFor s.owner (s.run.accel.attributed s.owner call) ctx r.accel
      rw [haccel]
      exact Accelerator.sameFor_call h (hok call hcall) (hnot call hcall) hlive
  · -- the host executes a late command
    rw [hnone]
    have hgpu : Accelerator.Keeps s.owner none s.run.accel r.accel := haccel ▸ .withGpu h _
    refine ⟨hgpu.owned, fun ctx _ _ => ?_⟩
    show s.run.accel.SameFor s.owner s.owner ctx r.accel
    rw [haccel]
    exact ⟨rfl, fun _ => Iff.rfl⟩

theorem owned_init (supports3D : Bool) (maxScanouts : Nat) :
    (machine supports3D maxScanouts).init.run.accel.Owned
      (machine supports3D maxScanouts).init.owner where
  contextsOnce := List.nodup_nil
  surfacesOnce := List.nodup_nil
  bound := fun c hc => by cases hc
  boundOnce := fun c hc => by cases hc
  backed := fun x hx => by cases hx
  allocated := rfl

/-- **Isolation along the runs whose steps are all `OwnOk`.** Every call stays
among the surfaces of its context; and from any state of the run on, a live
context through which no call is made finds itself, its surfaces, and what it
can do with them the same, whatever the other calls were. -/
theorem isolated_of_ownOk (supports3D : Bool) (maxScanouts : Nat)
    (calls : List (ClientCall × AccelEnv × AccelEnv))
    (h : (machine supports3D maxScanouts).Along OwnOk
      (machine supports3D maxScanouts).init calls) :
    (machine supports3D maxScanouts).Along Isolated
        (machine supports3D maxScanouts).init calls ∧
      ∀ before after s t ctx, calls = before ++ after →
        (machine supports3D maxScanouts).run (machine supports3D maxScanouts).init before = some s →
        (machine supports3D maxScanouts).run s after = some t →
        (machine supports3D maxScanouts).Along (NotThrough ctx) s after →
        (s.run.accel.findContext ctx).isSome = true →
        s.SameFor ctx t ∧ s.run.accel.SameNext s.owner ctx t.run.accel := by
  let m := machine supports3D maxScanouts
  have hinit := owned_init supports3D maxScanouts
  have hstep : ∀ (s : OwnedRun) c t, s.run.accel.Owned s.owner → s.OwnOk c →
      m.step s c = some t → t.run.accel.Owned t.owner := fun s c t hs hok hst =>
    (step_spec hs hok hst).1
  refine ⟨m.along_of_along hstep (fun s c t hs hok _ call hcall => ?_) hinit h, ?_⟩
  · exact Accelerator.isolated_call hs (hok call hcall)
  intro before after s t ctx hcalls hs ht hnot hlive
  obtain ⟨hbefore, hafter⟩ := (m.along_append hs).mp (hcalls ▸ h)
  have howned : s.run.accel.Owned s.owner := (m.always_of_along hstep hinit hbefore).run m hs
  -- as long as the context is there it stays, since nobody goes through it
  have hsame : (s.run.accel.findContext ctx).isSome = true → s.SameFor ctx t := by
    refine m.rel_of_along
      (R := fun s t => (s.run.accel.findContext ctx).isSome = true → s.SameFor ctx t)
      (fun s _ => sameFor_refl ctx s) (fun s t u hst htu hs => ?_)
      (fun s c t hs hok => hstep s c t hs hok.1)
      (fun s c t hs hok hst hlive => (step_spec hs hok.1 hst).2 ctx hok.2 hlive) howned
      (m.along_and.mpr ⟨hafter, hnot⟩) ht
    have hst' := hst hs
    exact hst'.trans (htu (by rw [hst'.context]; exact hs))
  exact ⟨hsame hlive, (hsame hlive).sameNext⟩

instance (s : OwnedRun) (c : ClientCall × AccelEnv × AccelEnv) : Decidable (s.OwnOk c) :=
  match h : s.run.issues c.1 with
  | none => isTrue fun call hcall => by rw [h] at hcall; cases hcall
  | some call => decidable_of_iff (s.run.accel.OwnOk s.owner c.2.1 call)
      ⟨fun hok call' hcall => by
        rw [h] at hcall
        cases hcall
        exact hok, fun hok => hok call h⟩

/-- Two clients make a context and a surface each. -/
def twoClients : List (ClientCall × AccelEnv × AccelEnv) :=
  [(.create3DContext 0, .accepting, .accepting), (.create3DContext 1, .accepting, .accepting),
    (.create3DSurface 0 2 ⟨21, 640, 480, 1⟩, .accepting, .accepting),
    (.create3DSurface 1 3 ⟨21, 640, 480, 1⟩, .accepting, .accepting)]

/-- Each client presents its own surface, and the first surface is destroyed. -/
theorem own_surfaces_isolated :
    (machine true 1).Along Isolated (machine true 1).init
      (twoClients ++ [(.present3DSurface 0 2 2, .accepting, .accepting),
        (.present3DSurface 1 3 3, .accepting, .accepting),
        (.bridge (.destroy3DSurface 2 2), .accepting, .accepting)]) :=
  (isolated_of_ownOk true 1 _ (by decide)).1

/-- The first client presents the second's surface. -/
theorem foreign_surface_presented :
    ¬ (machine true 1).Along Isolated (machine true 1).init
      (twoClients ++ [(.present3DSurface 0 2 3, .accepting, .accepting)]) := by
  have hrun : ((machine true 1).run (machine true 1).init twoClients).any (fun s =>
      s.run.accel.contextHasSurface 2 3 == false &&
        decide (s.run.issues (.present3DSurface 0 2 3) = some (.present3DSurface 2 3)) &&
        (s.step (.present3DSurface 0 2 3) .accepting .accepting).isSome &&
        decide ((s.run.accel.present3DSurface .accepting 2 3).1 = .success)) = true := by
    decide
  obtain ⟨s, hs, htest⟩ := (Option.any_eq_true _ _).mp hrun
  simp only [Bool.and_eq_true, beq_iff_eq, decide_eq_true_eq] at htest
  obtain ⟨⟨⟨hnot, hissues⟩, hsome⟩, hret⟩ := htest
  obtain ⟨t, ht⟩ := Option.isSome_iff_exists.mp hsome
  have ht' : (machine true 1).step s (.present3DSurface 0 2 3, .accepting, .accepting) = some t :=
    ht
  intro h
  have hlast := (((machine true 1).along_append hs).mp h).2
  have hisolated := (((machine true 1).along_cons_some ht').mp hlast).1
  exact ((hisolated _ hissues).refused 2 3 (Or.inl rfl) hnot).1 hret

end OwnedRun
end VMQemuVGA
