import Mathlib.Data.List.Nodup
import VMQemuVGA.Accelerator.Clients

/-! # Surfaces, their resources, and the memory account

A surface made by `create3DSurface` has a resource on the host and is charged
to `m_memory_used`. It leaves the pool by `destroy3DSurface`, by a collection,
or when a framebuffer cannot be completed; of these only the collection gives
the resource up, and nothing ever takes the charge back. This module says which
calls keep resources and account in step with the pool. -/

namespace VMQemuVGA

/-! ## Accounts -/

/-- The resources among pairs of resource and size; `0` is none. -/
def resourcesOf (held : List (Nat × Nat)) : List Nat :=
  (held.map Prod.fst).filter fun id => decide (id ≠ 0)

def sizeOf (held : List (Nat × Nat)) : Nat := (held.map Prod.snd).sum

/-- Pairs of resource and size of the surfaces held, against the resources the
host has and the memory charged. -/
structure Accounts (held : List (Nat × Nat)) (host : List Nat) (used : Nat) : Prop where
  resources : host.Perm (resourcesOf held)
  memory : used = sizeOf held

@[simp] theorem sizeOf_cons (x : Nat × Nat) (held : List (Nat × Nat)) :
    sizeOf (x :: held) = x.2 + sizeOf held := rfl

theorem sizeOf_append (held held' : List (Nat × Nat)) :
    sizeOf (held ++ held') = sizeOf held + sizeOf held' := by
  unfold sizeOf
  rw [List.map_append, List.sum_append]

theorem resourcesOf_append (held held' : List (Nat × Nat)) :
    resourcesOf (held ++ held') = resourcesOf held ++ resourcesOf held' := by
  unfold resourcesOf
  rw [List.map_append, List.filter_append]

theorem resourcesOf_cons_zero (size : Nat) (held : List (Nat × Nat)) :
    resourcesOf ((0, size) :: held) = resourcesOf held := rfl

theorem resourcesOf_cons_of_ne {x : Nat × Nat} (h : x.1 ≠ 0) (held : List (Nat × Nat)) :
    resourcesOf (x :: held) = x.1 :: resourcesOf held :=
  List.filter_cons_of_pos (decide_eq_true h)

theorem perm_resourcesOf {held held' : List (Nat × Nat)} (h : held.Perm held') :
    (resourcesOf held).Perm (resourcesOf held') := (h.map _).filter _

theorem sizeOf_perm {held held' : List (Nat × Nat)} (h : held.Perm held') :
    sizeOf held = sizeOf held' := (h.map _).sum_nat

/-- What the host has after it is asked for a resource. -/
def asked (host : List Nat) (id : Nat) : List Nat := if id ∈ host then host else host ++ [id]

/-- What the host has left when it has given up `l`. -/
def without (host l : List Nat) : List Nat := host.filter fun r => decide (r ∉ l)

theorem without_cons (host l : List Nat) (id : Nat) :
    without host (id :: l) = without (host.filter fun r => decide (r ≠ id)) l := by
  unfold without
  rw [List.filter_filter]
  refine List.filter_congr fun r _ => ?_
  rw [← Bool.decide_and]
  exact decide_eq_decide.mpr (by rw [List.mem_cons, not_or, and_comm])

namespace Accounts
variable {held held' gone : List (Nat × Nat)} {host : List Nat} {used : Nat}

theorem of_perm (hp : held.Perm held') (h : Accounts held host used) :
    Accounts held' host used :=
  ⟨h.resources.trans (perm_resourcesOf hp), h.memory.trans (sizeOf_perm hp)⟩

theorem perm_iff (hp : held.Perm held') : Accounts held host used ↔ Accounts held' host used :=
  ⟨of_perm hp, of_perm hp.symm⟩

/-- Only the surfaces change. -/
theorem held_iff (h : Accounts held host used) : Accounts held' host used ↔
    (resourcesOf held).Perm (resourcesOf held') ∧ sizeOf held = sizeOf held' := by
  constructor
  · intro h'
    exact ⟨h.resources.symm.trans h'.resources, h.memory.symm.trans h'.memory⟩
  · rintro ⟨hr, hm⟩
    exact ⟨h.resources.trans hr, h.memory.trans hm⟩

/-- A surface is dropped, and nothing else. -/
theorem drop_iff {x : Nat × Nat} (h : Accounts (x :: held) host used) :
    Accounts held host used ↔ x.1 = 0 ∧ x.2 = 0 := by
  obtain ⟨id, size⟩ := x
  rw [h.held_iff, sizeOf_cons]
  by_cases hid : id = 0
  · subst hid
    rw [resourcesOf_cons_zero]
    constructor
    · rintro ⟨-, hm⟩
      exact ⟨rfl, by dsimp only at hm ⊢; omega⟩
    · rintro ⟨-, hm⟩
      exact ⟨List.Perm.refl _, by dsimp only at hm ⊢; omega⟩
  · refine iff_of_false (fun hc => ?_) fun hc => hid hc.1
    have hlen := hc.1.length_eq
    rw [resourcesOf_cons_of_ne hid, List.length_cons] at hlen
    omega

/-- A surface comes without a resource and without a charge. -/
theorem uncharged_iff (h : Accounts held host used) (size : Nat) :
    Accounts ((0, size) :: held) host used ↔ size = 0 := by
  rw [h.held_iff, resourcesOf_cons_zero, sizeOf_cons]
  constructor
  · rintro ⟨-, hm⟩
    dsimp only at hm
    omega
  · rintro rfl
    exact ⟨List.Perm.refl _, (Nat.zero_add _).symm⟩

/-- Such a surface comes and another one goes. -/
theorem swap_iff {y : Nat × Nat} {size : Nat} (h : Accounts held host used)
    (hp : ((0, size) :: held).Perm (y :: held')) :
    Accounts held' host used ↔ y.1 = 0 ∧ y.2 = size := by
  have hr := perm_resourcesOf hp
  have hm := sizeOf_perm hp
  rw [resourcesOf_cons_zero] at hr
  simp only [sizeOf_cons] at hm
  rw [h.held_iff]
  obtain ⟨id, size'⟩ := y
  by_cases hid : id = 0
  · subst hid
    rw [resourcesOf_cons_zero] at hr
    dsimp only at hm ⊢
    constructor
    · rintro ⟨-, hm'⟩
      exact ⟨rfl, by omega⟩
    · rintro ⟨-, hsize⟩
      exact ⟨hr, by omega⟩
  · refine iff_of_false (fun hc => ?_) fun hc => hid hc.1
    have hlen := hr.length_eq
    have hlen' := hc.1.length_eq
    rw [resourcesOf_cons_of_ne hid, List.length_cons] at hlen
    omega

/-- A surface comes with a resource and a charge. -/
theorem charged_iff (h : Accounts held host used) (id size : Nat) :
    Accounts ((id, size) :: held) (asked host id) ((used + size) % 2 ^ 64) ↔
      id ≠ 0 ∧ id ∉ host ∧ used + size < 2 ^ 64 := by
  have hlen := h.resources.length_eq
  have hused := h.memory
  unfold asked
  constructor
  · intro hnew
    have hm : (used + size) % 2 ^ 64 = size + sizeOf held := hnew.memory
    have hlen' := hnew.resources.length_eq
    have hlt : used + size < 2 ^ 64 := by omega
    by_cases hid : id = 0
    · -- the resource `0` counts for none
      subst hid
      rw [resourcesOf_cons_zero] at hlen'
      split at hlen'
      · next hmem =>
        have hzero := h.resources.mem_iff.mp hmem
        exact absurd rfl (of_decide_eq_true (List.mem_filter.mp hzero).2)
      · rw [List.length_append, List.length_singleton] at hlen'
        omega
    · rw [resourcesOf_cons_of_ne hid, List.length_cons] at hlen'
      split at hlen'
      · omega
      · next hmem => exact ⟨hid, hmem, hlt⟩
  · rintro ⟨hid, hmem, hlt⟩
    rw [if_neg hmem]
    refine ⟨?_, ?_⟩
    · rw [resourcesOf_cons_of_ne hid]
      exact (List.perm_append_singleton id host).trans (h.resources.cons id)
    · rw [sizeOf_cons, Nat.mod_eq_of_lt hlt]
      dsimp only
      omega

/-- A resource is asked for and given back. -/
theorem givenBack_iff (h : Accounts held host used) (id : Nat) :
    Accounts held ((asked host id).filter fun r => decide (r ≠ id)) used ↔ id ∉ host := by
  unfold asked
  split
  · next hmem =>
    refine iff_of_false (fun hc => ?_) (not_not.mpr hmem)
    have hback := (h.resources.trans hc.resources.symm).mem_iff.mp hmem
    exact of_decide_eq_true (List.mem_filter.mp hback).2 rfl
  · next hmem =>
    refine iff_of_true ?_ hmem
    have hkeep : (host.filter fun r => decide (r ≠ id)) = host := by
      refine List.filter_eq_self.mpr fun r hr => decide_eq_true ?_
      rintro rfl
      exact hmem hr
    rw [List.filter_append, hkeep]
    simpa using h

/-- Surfaces go, with their resources. -/
theorem collected_iff (h : Accounts (gone ++ held) host used) (hnodup : host.Nodup) :
    Accounts held (without host (resourcesOf gone)) used ↔ sizeOf gone = 0 := by
  have hr : (without host (resourcesOf gone)).Perm (resourcesOf held) := by
    have hp := h.resources
    rw [resourcesOf_append] at hp
    have hdisjoint := (List.nodup_append.mp (hp.nodup_iff.mp hnodup)).2.2
    have hgone : ((resourcesOf gone).filter fun r => decide (r ∉ resourcesOf gone)) = [] :=
      List.filter_eq_nil_iff.mpr fun r hr hc => of_decide_eq_true hc hr
    have hheld : ((resourcesOf held).filter fun r => decide (r ∉ resourcesOf gone)) =
        resourcesOf held :=
      List.filter_eq_self.mpr fun r hr => decide_eq_true fun hc => hdisjoint r hc r hr rfl
    refine (hp.filter _).trans (List.Perm.of_eq ?_)
    rw [List.filter_append, hgone, hheld]
    rfl
  have hm := h.memory
  rw [sizeOf_append] at hm
  constructor
  · intro h'
    have hm' := h'.memory
    omega
  · intro hz
    exact ⟨hr, by omega⟩

end Accounts
/-! ## The host -/

/-- Every command is answered, and with success. -/
def Env.Accepts (e : Env) : Prop := ∀ cmd, e.ask cmd = .reply respOkNodata

theorem accepts_hostAccepts (e : Env) : e.hostAccepts.Accepts := fun _ => rfl

namespace Gpu

/-- The resources on the host. -/
def hostIds (g : Gpu) : List Nat := g.link.host.resources.map HostResource.id

/-- The host's resources are those of `g`, and nothing waits for it. -/
structure Stays (g g' : Gpu) : Prop where
  hostIds : g'.hostIds = g.hostIds
  pending : g'.link.pending = g.link.pending

theorem Stays.refl (g : Gpu) : Stays g g := ⟨rfl, rfl⟩

theorem Stays.trans {g g' g'' : Gpu} (h : Stays g g') (h' : Stays g' g'') : Stays g g'' :=
  ⟨h'.hostIds.trans h.hostIds, h'.pending.trans h.pending⟩

theorem submitCommand_of_accepts {e : Env} (he : e.Accepts) (g : Gpu) (cmd : HostCmd) :
    g.submitCommand e cmd = (.success, g.afterSend cmd (.reply respOkNodata)) := by
  unfold submitCommand
  rw [he]
  rfl

/-- An accepted command that is not about resources. -/
theorem stays_afterSend (cmd : HostCmd) (h : ∀ host : Host, (host.exec cmd).resources =
    host.resources) (g : Gpu) : Stays g (g.afterSend cmd (.reply respOkNodata)) :=
  ⟨congrArg (List.map HostResource.id) (h g.link.host), rfl⟩

theorem stays_executeCommands {e : Env} (he : e.Accepts) (g : Gpu) (ctx : Nat)
    (commands : Option Nat) : Stays g (g.executeCommands e ctx commands).2 := by
  unfold executeCommands
  split
  · exact Stays.refl g
  cases commands with
  | none => exact Stays.refl g
  | some size =>
      dsimp only
      rw [submitCommand_of_accepts he]
      split
      · exact Stays.refl g
      split
      · exact Stays.refl g
      split
      · exact Stays.refl g
      · exact stays_afterSend (.submit3D ctx size) (fun _ => rfl) g

theorem stays_updateDisplay {e : Env} (he : e.Accepts) (g : Gpu)
    (scanout id width height : Nat) : Stays g (g.updateDisplay e scanout id width height).2 := by
  unfold updateDisplay
  simp only [submitCommand_of_accepts he]
  split
  · exact Stays.refl g
  split
  · exact Stays.refl g
  split
  · exact Stays.refl g
  · exact (stays_afterSend (.transferToHost2D id) (fun _ => rfl) g).trans
      (stays_afterSend (.resourceFlush id) (fun _ => rfl) _)

theorem stays_createRenderContext {e : Env} (he : e.Accepts) (g : Gpu) :
    Stays g (g.createRenderContext e).2 := by
  unfold createRenderContext
  simp only [submitCommand_of_accepts he]
  split
  · exact Stays.refl g
  · obtain ⟨hids, hpending⟩ :=
      stays_afterSend (.ctxCreate (inc32 g.nextContextId)) (fun _ => rfl) g
    exact ⟨hids, hpending⟩

theorem stays_destroyRenderContext {e : Env} (he : e.Accepts) (g : Gpu) (ctx : Nat) :
    Stays g (g.destroyRenderContext e ctx).2 := by
  unfold destroyRenderContext
  simp only [submitCommand_of_accepts he]
  split
  · exact Stays.refl g
  split
  · exact Stays.refl g
  · obtain ⟨hids, hpending⟩ := stays_afterSend (.ctxDestroy ctx) (fun _ => rfl) g
    exact ⟨hids, hpending⟩

theorem hostIds_deallocateResource {e : Env} (he : e.Accepts) (g : Gpu) (id : Nat) :
    (g.deallocateResource e id).2.hostIds = g.hostIds.filter (fun r => decide (r ≠ id)) ∧
      (g.deallocateResource e id).2.link.pending = g.link.pending := by
  unfold deallocateResource
  simp only [submitCommand_of_accepts he]
  refine ⟨?_, rfl⟩
  show (g.link.host.resources.filter fun r => decide (r.id ≠ id)).map HostResource.id = _
  rw [hostIds, List.filter_map]
  rfl

/-- `allocateResource3D` gets as far as asking the host. -/
def allocates (g : Gpu) : Bool :=
  g.supports3D && (g.findResource (inc32 g.nextResourceId)).isNone

theorem hostIds_addResource (host : Host) (id : Nat) :
    (host.addResource id).resources.map HostResource.id =
      asked (host.resources.map HostResource.id) id := by
  unfold Host.addResource asked
  have hmem : host.hasResource id = true ↔ id ∈ host.resources.map HostResource.id := by
    rw [Host.hasResource_iff, List.mem_map]
  by_cases h : host.hasResource id = true
  · rw [if_pos h, if_pos (hmem.mp h)]
  · rw [if_neg h, if_neg (hmem.not.mp h), List.map_append]
    rfl

/-- What `allocateResource3D` comes to. -/
structure Allocated (g g' : Gpu) : Prop where
  hostIds : g'.hostIds = asked g.hostIds (inc32 g.nextResourceId)
  pending : g'.link.pending = g.link.pending
  nextResourceId : g'.nextResourceId = inc32 g.nextResourceId

theorem allocateResource3D_of_allocates {e : Env} (he : e.Accepts) {g : Gpu}
    (h : g.allocates = true) (target format width height depth : Nat) :
    (g.allocateResource3D e target format width height depth).1 = .success ∧
      Allocated g (g.allocateResource3D e target format width height depth).2 := by
  unfold allocates at h
  rw [Bool.and_eq_true, Option.isNone_iff_eq_none] at h
  have h3 : g.drawResourceId.supports3D = true := h.1
  have hnew : g.drawResourceId.findResource (inc32 g.nextResourceId) = none := h.2
  unfold allocateResource3D createResource3D
  dsimp only
  rw [if_neg (by rw [h3]; exact Bool.noConfusion),
    show g.drawResourceId.nextResourceId = inc32 g.nextResourceId from rfl, hnew,
    if_neg Bool.noConfusion, submitCommand_of_accepts he, he]
  have hids := hostIds_addResource g.link.host (inc32 g.nextResourceId)
  split
  · split
    · exact ⟨rfl, hids, rfl, rfl⟩
    · exact ⟨rfl, hids, rfl, rfl⟩
  · exact ⟨rfl, hids, rfl, rfl⟩

theorem allocateResource3D_of_not_allocates {e : Env} {g : Gpu} (h : g.allocates = false)
    (target format width height depth : Nat) :
    (g.allocateResource3D e target format width height depth).1 ≠ .success ∧
      Stays g (g.allocateResource3D e target format width height depth).2 := by
  unfold allocateResource3D createResource3D
  dsimp only
  split
  · exact ⟨IOReturn.noConfusion, rfl, rfl⟩
  next h3 =>
  have h3' : g.supports3D = true := (Bool.not_eq_false _).mp h3
  rw [allocates, h3', Bool.true_and, Option.isNone_eq_false_iff] at h
  rw [show g.drawResourceId.nextResourceId = inc32 g.nextResourceId from rfl,
    show g.drawResourceId.findResource (inc32 g.nextResourceId) =
      g.findResource (inc32 g.nextResourceId) from rfl, if_pos h]
  exact ⟨IOReturn.noConfusion, rfl, rfl⟩

end Gpu
/-! ## What a call does to the accounts -/

namespace Accelerator

/-- Of every surface, its resource and its size. -/
def held (s : Accelerator) : List (Nat × Nat) :=
  s.surfaces.entries.map fun x => (x.gpuResourceId, x.size)

/-- From `s` to `t` the surfaces become `held`, the resources on the host
`host`, and the charge `used`. -/
structure Effect (s t : Accelerator) (held : List (Nat × Nat)) (host : List Nat) (used : Nat) :
    Prop where
  held : t.held.Perm held
  host : t.gpu.hostIds = host
  used : t.memoryUsed = used
  allocated : s.memoryAllocated = 0 → t.memoryAllocated = 0
  pending : t.gpu.link.pending = s.gpu.link.pending

/-- Nothing of it changes. -/
abbrev Steady (s t : Accelerator) : Prop := Effect s t s.held s.gpu.hostIds s.memoryUsed

namespace Effect
variable {s t u : Accelerator} {held : List (Nat × Nat)} {host : List Nat} {used : Nat}

theorem accounts_iff (h : Effect s t held host used) :
    Accounts t.held t.gpu.hostIds t.memoryUsed ↔ Accounts held host used := by
  rw [Accounts.perm_iff h.held, h.host, h.used]

theorem refl (s : Accelerator) : Steady s s := ⟨List.Perm.refl _, rfl, rfl, id, rfl⟩

theorem after (h : Steady s t) (h' : Effect t u held host used) : Effect s u held host used :=
  ⟨h'.held, h'.host, h'.used, fun hz => h'.allocated (h.allocated hz),
    h'.pending.trans h.pending⟩

theorem before (h : Effect s t held host used) (h' : Steady t u) : Effect s u held host used :=
  ⟨h'.held.trans h.held, h'.host.trans h.host, h'.used.trans h.used,
    fun hz => h'.allocated (h.allocated hz), h'.pending.trans h.pending⟩

theorem withGpu {g : Gpu} (h : Gpu.Stays s.gpu g) : Steady s (s.withGpu g) :=
  ⟨List.Perm.refl _, h.hostIds, rfl, id, h.pending⟩

theorem of_withGpu {g : Gpu} (hp : g.link.pending = s.gpu.link.pending)
    (h : Effect (s.withGpu g) t held host used) : Effect s t held host used :=
  ⟨h.held, h.host, h.used, h.allocated, h.pending.trans hp⟩

theorem drawSurfaceId (s : Accelerator) : Steady s s.drawSurfaceId :=
  ⟨List.Perm.refl _, rfl, rfl, id, rfl⟩

end Effect

/-! ### Calls that are steady -/

section
variable {e : AccelEnv} (he : e.toEnv.Accepts) (s : Accelerator)
include he

theorem steady_create3DContext : Steady s (s.create3DContext e).2 := by
  have hcreate := Gpu.stays_createRenderContext he s.gpu
  have hdestroy := fun id => hcreate.trans
    (Gpu.stays_destroyRenderContext he (s.gpu.createRenderContext e.toEnv).2 id)
  unfold create3DContext
  dsimp only
  split
  · exact Effect.withGpu hcreate
  split
  · exact Effect.withGpu (hdestroy _)
  split
  · exact ⟨List.Perm.refl _, (hdestroy _).hostIds, rfl, id, (hdestroy _).pending⟩
  · exact ⟨List.Perm.refl _, hcreate.hostIds, rfl, id, hcreate.pending⟩

theorem steady_destroy3DContext (ctx : Nat) : Steady s (s.destroy3DContext e ctx).2 := by
  unfold destroy3DContext destroyContextInternal
  split
  · exact Effect.refl s
  · next c _ =>
    have hdestroy := Gpu.stays_destroyRenderContext he s.gpu c.gpuContextId
    exact ⟨List.Perm.refl _, hdestroy.hostIds, rfl, id, hdestroy.pending⟩

theorem steady_submit3DCommands (ctx : Nat) (commands : Option Nat) :
    Steady s (s.submit3DCommands e ctx commands).2 := by
  unfold submit3DCommands
  split
  · exact Effect.refl s
  split
  · exact Effect.refl s
  · exact Effect.withGpu (Gpu.stays_executeCommands he s.gpu _ commands)

theorem steady_beginRenderPass (ctx : Nat) : Steady s (s.beginRenderPass e ctx).2 := by
  unfold beginRenderPass
  split
  · exact Effect.refl s
  next c _ =>
  split
  · exact Effect.refl s
  have hexec := Gpu.stays_executeCommands he s.gpu c.gpuContextId (some 512)
  dsimp only
  split
  · exact ⟨List.Perm.refl _, hexec.hostIds, rfl, id, hexec.pending⟩
  · exact Effect.withGpu hexec

theorem steady_finalizeRendering (ctx : Nat) (c : AccelContext) :
    Steady s (s.finalizeRendering e ctx c).2 := by
  unfold finalizeRendering
  split
  · exact Effect.refl s
  split
  · exact Effect.refl s
  · have hexec := Gpu.stays_executeCommands he s.gpu c.bumpGpuContextId.gpuContextId (some 256)
    exact ⟨List.Perm.refl _, hexec.hostIds, rfl, id, hexec.pending⟩

theorem steady_returnCommandBuffer (ctx : Nat) : Steady s (s.returnCommandBuffer e ctx) := by
  unfold returnCommandBuffer
  split
  · exact Effect.refl s
  split
  · exact Effect.refl s
  · exact Effect.withGpu (Gpu.stays_executeCommands he s.gpu _ _)

theorem stays_presentOnDisplay (x : AccelSurface) :
    Gpu.Stays s.gpu (s.presentOnDisplay e x).2 := by
  unfold presentOnDisplay
  split
  · exact Gpu.Stays.refl s.gpu
  · exact Gpu.stays_updateDisplay he s.gpu ..

omit s in
theorem stays_presentByCommands (g : Gpu) (c : AccelContext) (ret : IOReturn) :
    Gpu.Stays g (presentByCommands e g c ret).2 := by
  unfold presentByCommands
  split
  · exact Gpu.Stays.refl g
  · exact Gpu.stays_executeCommands he g _ _

theorem steady_present3DSurface (ctx surface : Nat) :
    Steady s (s.present3DSurface e ctx surface).2 := by
  unfold present3DSurface
  split
  swap
  · exact Effect.refl s
  next c x _ _ =>
  have hshown := stays_presentOnDisplay he s x
  dsimp only
  split
  · exact Effect.withGpu hshown
  generalize (if x.backingMemory.isSome = true then _ else _ : IOReturn) = copied
  have hsent := hshown.trans (stays_presentByCommands he (s.presentOnDisplay e x).2 c copied)
  split
  · exact Effect.withGpu hsent
  · refine ⟨List.Perm.of_eq ?_, hsent.hostIds, rfl, id, hsent.pending⟩
    exact Pool.map_modify s.surfaces fun _ => rfl

end

/-- What `resetTextureUnits` leaves of a surface's mark. -/
def staysMarked (e : AccelEnv) (x : AccelSurface) : Bool :=
  if e.unitUnbound = true ∧ x.gpuResourceId ≠ 0 then false else x.isRenderTarget

/-- Nothing but the marks of the surfaces is touched. -/
theorem resetTextureUnits_eq (e : AccelEnv) (s : Accelerator) : ∃ pool,
    s.resetTextureUnits e = { s with surfaces := pool } ∧
      pool.entries =
        s.surfaces.entries.map fun x => { x with isRenderTarget := staysMarked e x } := by
  unfold resetTextureUnits
  split
  · next hunit => exact ⟨s.surfaces, rfl, by simp [staysMarked, hunit]⟩
  · next hunit =>
    have hbound : e.unitUnbound = true := by simpa using hunit
    refine ⟨_, rfl, ?_⟩
    rw [Pool.entries_map]
    apply List.map_congr_left
    intro x _
    by_cases hres : x.gpuResourceId ≠ 0
    · rw [if_pos hres, staysMarked, if_pos ⟨hbound, hres⟩]
    · rw [if_neg hres, staysMarked, if_neg fun h => hres h.2]

theorem steady_resetTextureUnits (e : AccelEnv) (s : Accelerator) :
    Steady s (s.resetTextureUnits e) := by
  obtain ⟨pool, heq, hentries⟩ := resetTextureUnits_eq e s
  rw [heq]
  refine ⟨List.Perm.of_eq ?_, rfl, rfl, id, rfl⟩
  unfold held
  rw [hentries, List.map_map]
  rfl

/-! ### Surfaces come -/

theorem isSome_enterSurface (e : AccelEnv) (s : Accelerator) (ctx : Nat) (x : AccelSurface) :
    (s.enterSurface e ctx x).isSome = s.surfaces.hasRoom (s.grownSurfaces e) := by
  unfold enterSurface
  rw [Option.isSome_map, Pool.isSome_add]

theorem effect_enterSurface {e : AccelEnv} {s t : Accelerator} {ctx : Nat} {x : AccelSurface}
    (h : s.enterSurface e ctx x = some t) :
    Effect s t ((x.gpuResourceId, x.size) :: s.held) s.gpu.hostIds s.memoryUsed := by
  unfold enterSurface at h
  rw [Option.map_eq_some_iff] at h
  obtain ⟨pool, hadd, rfl⟩ := h
  exact ⟨(Pool.entries_add hadd).map _, rfl, rfl, id, rfl⟩

theorem effect_giveBack {e : AccelEnv} (he : e.toEnv.Accepts) (s : Accelerator) (id : Nat) :
    Effect s (s.giveBack e id) s.held (s.gpu.hostIds.filter fun r => decide (r ≠ id))
      s.memoryUsed := by
  obtain ⟨hids, hpending⟩ := Gpu.hostIds_deallocateResource he s.gpu id
  exact ⟨List.Perm.refl _, hids, rfl, fun h => h, hpending⟩

/-- A new surface of `bytes` bytes can be allocated, backed and entered. -/
def surfaceFits (e : AccelEnv) (s : Accelerator) (bytes : Nat) : Bool :=
  e.accelAlloc .surface && (e.withCapacity bytes).isSome &&
    s.surfaces.hasRoom (s.grownSurfaces e)

theorem surfaceFits_of_alloc_eq_false {e : AccelEnv} (h : e.accelAlloc .surface = false)
    (s : Accelerator) (bytes : Nat) : s.surfaceFits e bytes = false := by
  rw [surfaceFits, h]
  rfl

theorem surfaceFits_of_withCapacity_eq_none {e : AccelEnv} {bytes : Nat}
    (h : e.withCapacity bytes = none) (s : Accelerator) : s.surfaceFits e bytes = false := by
  rw [surfaceFits, h, Option.isSome_none, Bool.and_false, Bool.false_and]

/-- With memory at hand it is up to the pool. -/
theorem surfaceFits_eq_isSome {e : AccelEnv} {bytes : Nat} {d : MemoryDescriptor}
    (halloc : e.accelAlloc .surface = true) (h : e.withCapacity bytes = some d)
    (s : Accelerator) (ctx : Nat) (x : AccelSurface) :
    s.surfaceFits e bytes = (s.drawSurfaceId.enterSurface e ctx x).isSome := by
  rw [surfaceFits, halloc, h, isSome_enterSurface]
  rfl

theorem effect_backSurface {e : AccelEnv} (he : e.toEnv.Accepts) (s : Accelerator)
    (ctx id : Nat) (info : SurfaceInfo) :
    if s.surfaceFits e (calculateSurfaceSize info) = true then
      Effect s (s.backSurface e ctx id info).2 ((id, calculateSurfaceSize info) :: s.held)
        s.gpu.hostIds ((s.memoryUsed + calculateSurfaceSize info) % 2 ^ 64)
    else
      Effect s (s.backSurface e ctx id info).2 s.held
        (s.gpu.hostIds.filter fun r => decide (r ≠ id)) s.memoryUsed := by
  have hback := effect_giveBack he s id
  have hback' := (Effect.drawSurfaceId s).after (effect_giveBack he s.drawSurfaceId id)
  unfold backSurface
  by_cases halloc : e.accelAlloc .surface = false
  · rw [surfaceFits_of_alloc_eq_false halloc, if_pos halloc]
    exact hback
  rw [if_neg halloc]
  dsimp only
  cases hd : e.withCapacity (calculateSurfaceSize info) with
  | none =>
      rw [surfaceFits_of_withCapacity_eq_none hd]
      exact hback'
  | some d =>
      rw [surfaceFits_eq_isSome ((Bool.not_eq_false _).mp halloc) hd s ctx
        ⟨s.drawSurfaceId.nextSurfaceId, id, info, some d, false⟩]
      dsimp only
      cases henter : s.drawSurfaceId.enterSurface e ctx
          ⟨s.drawSurfaceId.nextSurfaceId, id, info, some d, false⟩ with
      | none => exact hback'
      | some t =>
          obtain ⟨hheld, hhost, hused, halloc', hpending⟩ := effect_enterSurface henter
          refine ⟨hheld, hhost, ?_, halloc', hpending⟩
          show (t.memoryUsed + calculateSurfaceSize info) % 2 ^ 64 = _
          rw [hused]
          rfl

/-- The call gets as far as a resource. -/
def createsResource (s : Accelerator) (ctx : Nat) : Prop :=
  (s.findContext ctx).isSome = true ∧ s.gpu.allocates = true

theorem steady_create3DSurface {e : AccelEnv} {s : Accelerator} {ctx : Nat}
    (h : ¬ s.createsResource ctx) (info : SurfaceInfo) :
    Steady s (s.create3DSurface e ctx info).2 := by
  unfold create3DSurface
  cases hc : s.findContext ctx with
  | none => exact Effect.refl s
  | some c =>
      have hnot : s.gpu.allocates = false := by
        rw [← Bool.not_eq_true]
        intro halloc
        exact h ⟨by rw [hc]; rfl, halloc⟩
      obtain ⟨hret, hstays⟩ := Gpu.allocateResource3D_of_not_allocates (e := e.toEnv) hnot
        resourceTarget2D info.format info.width info.height 1
      dsimp only
      rw [if_pos hret]
      exact Effect.withGpu hstays

theorem effect_create3DSurface {e : AccelEnv} (he : e.toEnv.Accepts) {s : Accelerator}
    {ctx : Nat} (h : s.createsResource ctx) (info : SurfaceInfo) :
    if s.surfaceFits e (calculateSurfaceSize info) = true then
      Effect s (s.create3DSurface e ctx info).2
        ((inc32 s.gpu.nextResourceId, calculateSurfaceSize info) :: s.held)
        (asked s.gpu.hostIds (inc32 s.gpu.nextResourceId))
        ((s.memoryUsed + calculateSurfaceSize info) % 2 ^ 64)
    else
      Effect s (s.create3DSurface e ctx info).2 s.held
        ((asked s.gpu.hostIds (inc32 s.gpu.nextResourceId)).filter
          fun r => decide (r ≠ inc32 s.gpu.nextResourceId)) s.memoryUsed := by
  obtain ⟨hsome, halloc⟩ := h
  obtain ⟨c, hc⟩ := Option.isSome_iff_exists.mp hsome
  obtain ⟨hret, hids, hpending, hnext⟩ := Gpu.allocateResource3D_of_allocates he halloc
    resourceTarget2D info.format info.width info.height 1
  unfold create3DSurface
  rw [hc]
  dsimp only
  generalize s.gpu.allocateResource3D e.toEnv resourceTarget2D info.format info.width info.height 1
    = r at hret hids hpending hnext ⊢
  rw [if_neg (not_not.mpr hret), hnext, ← hids]
  have hback := effect_backSurface he (s.withGpu r.2) ctx (inc32 s.gpu.nextResourceId) info
  have hfits : (s.withGpu r.2).surfaceFits e (calculateSurfaceSize info) =
      s.surfaceFits e (calculateSurfaceSize info) := rfl
  rw [hfits] at hback
  split
  · next hif =>
    rw [if_pos hif] at hback
    exact hback.of_withGpu hpending
  · next hif =>
    rw [if_neg hif] at hback
    exact hback.of_withGpu hpending

/-! ### Surfaces go -/

theorem effect_removeSurface {s : Accelerator} {surface : Nat} {x : AccelSurface}
    (h : s.findSurface surface = some x) (ctx : Nat) :
    let t := (s.modifyContext ctx (AccelContext.unbindSurface surface)).removeSurface surface
    s.held.Perm ((x.gpuResourceId, x.size) :: t.held) ∧
      Effect s t t.held s.gpu.hostIds s.memoryUsed :=
  ⟨(Pool.perm_remove h).map _, List.Perm.refl _, rfl, rfl, id, rfl⟩

theorem destroy3DSurface_eq {s : Accelerator} {ctx surface : Nat} {x : AccelSurface}
    (hc : (s.findContext ctx).isSome = true) (hx : s.findSurface surface = some x) :
    (s.destroy3DSurface ctx surface).2 =
      (s.modifyContext ctx (AccelContext.unbindSurface surface)).removeSurface surface := by
  obtain ⟨c, hc⟩ := Option.isSome_iff_exists.mp hc
  unfold destroy3DSurface
  rw [hc, hx]

theorem steady_destroy3DSurface {s : Accelerator} {ctx surface : Nat}
    (h : ¬ ((s.findContext ctx).isSome = true ∧ (s.findSurface surface).isSome = true)) :
    Steady s (s.destroy3DSurface ctx surface).2 := by
  unfold destroy3DSurface
  split
  · next c x hc hx => exact absurd ⟨by rw [hc]; rfl, by rw [hx]; rfl⟩ h
  · exact Effect.refl s

/-! ### Collections -/

/-- Resources and sizes of the surfaces no live context has bound. -/
def lostHeld (s : Accelerator) : List (Nat × Nat) :=
  (s.surfaces.entries.filter s.lost).map fun x => (x.gpuResourceId, x.size)

theorem hostIds_release {e : AccelEnv} (he : e.toEnv.Accepts) (w : Collector)
    (x : AccelSurface) (l : List (Nat × Nat)) :
    without (w.release e x).gpu.hostIds (resourcesOf l) =
        without w.gpu.hostIds (resourcesOf ((x.gpuResourceId, x.size) :: l)) ∧
      (w.release e x).gpu.link.pending = w.gpu.link.pending := by
  unfold Collector.release
  dsimp only
  split
  · next hid =>
    obtain ⟨hids, hpending⟩ := Gpu.hostIds_deallocateResource he w.gpu x.gpuResourceId
    rw [hids, resourcesOf_cons_of_ne hid, without_cons]
    exact ⟨rfl, hpending⟩
  · next hid =>
    rw [not_not.mp hid]
    exact ⟨rfl, rfl⟩

/-- What is left of the host's resources when those of lost surfaces go. -/
theorem hostIds_visitLost {e : AccelEnv} (he : e.toEnv.Accepts) (lost : AccelSurface → Bool)
    (l : List AccelSurface) (w : Collector) :
    let t := l.foldl (fun w x => (w.visitLost e lost x).2) w
    t.gpu.hostIds = without w.gpu.hostIds
        (resourcesOf ((l.filter lost).map fun x => (x.gpuResourceId, x.size))) ∧
      t.gpu.link.pending = w.gpu.link.pending := by
  induction l generalizing w with
  | nil => exact ⟨(List.filter_eq_self.mpr fun _ _ => rfl).symm, rfl⟩
  | cons x l ih =>
      obtain ⟨hids, hpending⟩ := ih (w.visitLost e lost x).2
      rw [List.foldl_cons]
      by_cases hlost : lost x = true
      · have hvisit : (w.visitLost e lost x).2 = w.release e x := by
          unfold Collector.visitLost
          rw [if_pos hlost]
        rw [hvisit] at hids hpending ⊢
        obtain ⟨hrelease, hpending'⟩ := hostIds_release he w x
          ((l.filter lost).map fun x => (x.gpuResourceId, x.size))
        rw [List.filter_cons_of_pos hlost, List.map_cons]
        exact ⟨hids.trans hrelease, hpending.trans hpending'⟩
      · have hvisit : (w.visitLost e lost x).2 = w := by
          unfold Collector.visitLost
          rw [if_neg hlost]
        rw [hvisit] at hids hpending ⊢
        rw [List.filter_cons_of_neg hlost]
        exact ⟨hids, hpending⟩

theorem visitLost_fst (e : AccelEnv) (lost : AccelSurface → Bool) (w : Collector)
    (x : AccelSurface) : (w.visitLost e lost x).1 = lost x := by
  unfold Collector.visitLost
  split
  · next h => exact h.symm
  · next h => exact ((Bool.not_eq_true _).mp h).symm

/-- With nothing in `m_memory_allocated`, which nothing ever puts there, only
strategy 3 runs. -/
theorem relieve_of_allocated_eq_zero (e : AccelEnv) {s : Accelerator} (h : s.memoryAllocated = 0)
    (g : Gpu) (generation : Nat) :
    s.relieve e ⟨g, s.memoryAllocated, generation, 0⟩ = (⟨g, 0, generation, 0⟩, s.surfaces) := by
  unfold relieve
  rw [h]
  exact if_neg (Nat.not_lt_zero _)

theorem effect_garbageCollectTextures {e : AccelEnv} (he : e.toEnv.Accepts) {s : Accelerator}
    (h : s.memoryAllocated = 0) :
    let t := (s.garbageCollectTextures e).2
    s.held.Perm (s.lostHeld ++ t.held) ∧
      Effect s t t.held (without s.gpu.hostIds (resourcesOf s.lostHeld)) s.memoryUsed := by
  unfold garbageCollectTextures
  rw [relieve_of_allocated_eq_zero e h]
  obtain ⟨hids, hpending⟩ := hostIds_visitLost he s.lost s.surfaces.entries
    ⟨s.gpu, 0, s.gcGeneration, 0⟩
  rw [← Pool.sweep_fst] at hids hpending
  refine ⟨?_, List.Perm.refl _, hids, rfl, fun _ => ?_, hpending⟩
  · have hleft := Pool.entries_sweep (visitLost_fst e s.lost) s.surfaces
      ⟨s.gpu, 0, s.gcGeneration, 0⟩
    unfold held lostHeld
    dsimp only
    rw [hleft, ← List.map_append]
    exact ((List.filter_append_perm s.lost s.surfaces.entries).map _).symm
  · show s.memoryAllocated - _ = 0
    rw [h, Nat.zero_sub]

/-! ### Framebuffers -/

/-- `createSurfaceInternal` gets a surface in, if it finds its context. -/
def internalFits (e : AccelEnv) (s : Accelerator) (info : SurfaceInfo) : Bool :=
  s.surfaceFits e (info.width * info.height * info.depth * 4 % u32)

theorem createSurfaceInternal_of_not_fits {e : AccelEnv} {s : Accelerator} {ctx : Nat}
    {info : SurfaceInfo} (hc : (s.findContext ctx).isSome = true)
    (h : s.internalFits e info = false) :
    (s.createSurfaceInternal e ctx info).1 ≠ .success ∧
      ((s.createSurfaceInternal e ctx info).2 = s ∨
        (s.createSurfaceInternal e ctx info).2 = s.drawSurfaceId) := by
  obtain ⟨c, hc⟩ := Option.isSome_iff_exists.mp hc
  unfold createSurfaceInternal
  rw [hc]
  dsimp only
  by_cases halloc : e.accelAlloc .surface = false
  · rw [if_pos halloc]
    exact ⟨IOReturn.noConfusion, Or.inl rfl⟩
  rw [if_neg halloc]
  cases hd : e.withCapacity (info.width * info.height * info.depth * 4 % u32) with
  | none => exact ⟨IOReturn.noConfusion, Or.inr rfl⟩
  | some d =>
      rw [internalFits, surfaceFits_eq_isSome ((Bool.not_eq_false _).mp halloc) hd s ctx
        ⟨s.drawSurfaceId.nextSurfaceId, 0, info, some d, false⟩, Option.isSome_eq_false_iff,
        Option.isNone_iff_eq_none] at h
      dsimp only
      rw [h]
      exact ⟨IOReturn.noConfusion, Or.inr rfl⟩

/-- The surface that is made. -/
theorem createSurfaceInternal_eq_of_fits {e : AccelEnv} {s : Accelerator} {ctx : Nat}
    {info : SurfaceInfo} (hc : (s.findContext ctx).isSome = true)
    (h : s.internalFits e info = true) :
    ∃ d t, s.drawSurfaceId.enterSurface e ctx ⟨inc32 s.nextSurfaceId, 0, info, some d, false⟩ =
      some t ∧ s.createSurfaceInternal e ctx info = (.success, t) := by
  obtain ⟨c, hc⟩ := Option.isSome_iff_exists.mp hc
  unfold createSurfaceInternal
  rw [hc]
  dsimp only
  by_cases halloc : e.accelAlloc .surface = false
  · rw [internalFits, surfaceFits_of_alloc_eq_false halloc] at h
    cases h
  rw [if_neg halloc]
  cases hd : e.withCapacity (info.width * info.height * info.depth * 4 % u32) with
  | none =>
      rw [internalFits, surfaceFits_of_withCapacity_eq_none hd] at h
      cases h
  | some d =>
      rw [internalFits, surfaceFits_eq_isSome ((Bool.not_eq_false _).mp halloc) hd s ctx
        ⟨s.drawSurfaceId.nextSurfaceId, 0, info, some d, false⟩] at h
      obtain ⟨t, ht⟩ := Option.isSome_iff_exists.mp h
      refine ⟨d, t, ht, ?_⟩
      dsimp only
      rw [ht]

theorem createSurfaceInternal_of_fits {e : AccelEnv} {s : Accelerator} {ctx : Nat}
    {info : SurfaceInfo} (hc : (s.findContext ctx).isSome = true)
    (h : s.internalFits e info = true) :
    (s.createSurfaceInternal e ctx info).1 = .success ∧
      Effect s (s.createSurfaceInternal e ctx info).2 ((0, calculateSurfaceSize info) :: s.held)
        s.gpu.hostIds s.memoryUsed := by
  obtain ⟨d, t, ht, heq⟩ := createSurfaceInternal_eq_of_fits hc h
  rw [heq]
  exact ⟨rfl, (Effect.drawSurfaceId s).after (effect_enterSurface ht)⟩

/-- A framebuffer's surface is never empty. -/
theorem calculateSurfaceSize_pos {width height : Nat} (h : framebufferFits width height = true)
    (format : Nat) : 0 < calculateSurfaceSize ⟨format, width, height, 1⟩ := by
  simp only [framebufferFits, Bool.and_eq_true, decide_eq_true_eq] at h
  obtain ⟨⟨⟨hw, hh⟩, hw'⟩, hh'⟩ := h
  have hle : width * height ≤ 8192 * 8192 := Nat.mul_le_mul hw' hh'
  have hpos : 0 < width * height := Nat.mul_pos (Nat.pos_of_ne_zero hw) (Nat.pos_of_ne_zero hh)
  unfold calculateSurfaceSize
  dsimp only
  rw [u32_eq]
  split
  · omega
  · omega

/-! The depth surface is made for the same context, and finds it as before. -/

theorem isSome_findContext_iff {s : Accelerator} {ctx : Nat} :
    (s.findContext ctx).isSome = true ↔ ctx ∈ s.contexts.entries.map AccelContext.contextId := by
  unfold findContext Pool.find?
  rw [List.find?_isSome, List.mem_map]
  simp only [beq_iff_eq]

theorem contextId_bindSurface (e : AccelEnv) (id : Nat) (c : AccelContext) :
    (c.bindSurface e id).contextId = c.contextId := by
  unfold AccelContext.bindSurface
  split
  · rfl
  split
  · split
    · rfl
    · rfl
  · rfl

theorem contextIds_enterSurface {e : AccelEnv} {s t : Accelerator} {ctx : Nat} {x : AccelSurface}
    (h : s.enterSurface e ctx x = some t) :
    t.contexts.entries.map AccelContext.contextId =
      s.contexts.entries.map AccelContext.contextId := by
  unfold enterSurface at h
  rw [Option.map_eq_some_iff] at h
  obtain ⟨pool, -, rfl⟩ := h
  exact Pool.map_modify s.contexts (contextId_bindSurface e x.surfaceId)

theorem isSome_findContext_createSurfaceInternal {e : AccelEnv} {s : Accelerator} {ctx : Nat}
    (info : SurfaceInfo) (hc : (s.findContext ctx).isSome = true) :
    ((s.createSurfaceInternal e ctx info).2.findContext ctx).isSome = true := by
  have hids : (s.createSurfaceInternal e ctx info).2.contexts.entries.map AccelContext.contextId =
      s.contexts.entries.map AccelContext.contextId := by
    unfold createSurfaceInternal
    split
    · rfl
    split
    · rfl
    dsimp only
    split
    · rfl
    split
    · rfl
    · next t ht =>
      have henter := contextIds_enterSurface ht
      exact henter
  rw [isSome_findContext_iff] at hc ⊢
  rw [hids]
  exact hc

/-- Where the depth surface is wanted and cannot be made, the colour surface is
taken back: what its id finds has no resource and the size `size`. -/
def TakesBack (e : AccelEnv) (s : Accelerator) (color size : Nat) (depth : SurfaceInfo) : Prop :=
  depth.format ≠ 0 ∧ s.internalFits e depth = false ∧ color ≠ 0 ∧
    ∃ y, s.findSurface color = some y ∧ y.gpuResourceId = 0 ∧ y.size = size

/-- A surface that comes behind a first one can be allocated, backed and entered. -/
def fitsBehind (e e' : AccelEnv) (s : Accelerator) (info : SurfaceInfo) : Bool :=
  e'.accelAlloc .surface &&
    (e'.withCapacity (info.width * info.height * info.depth * 4 % u32)).isSome &&
      s.surfaces.hasRoomBehind (s.grownSurfaces e) (grownCapacity e' .surfacePool 64)

/-- An older surface that has the next surface id, and is found before the new one, is
without resource and of `size` bytes. -/
def NextIdFinds (s : Accelerator) (size : Nat) : Prop :=
  ∀ y, s.surfaces.findAhead? (fun x => x.surfaceId == inc32 s.nextSurfaceId) = some y →
    y.gpuResourceId = 0 ∧ y.size = size

/-- Whether a colour surface will be taken back is told from the state before it is made. -/
theorem takesBack_createSurfaceInternal_iff {e : AccelEnv} {s : Accelerator} {ctx : Nat}
    {color : SurfaceInfo} (hc : (s.findContext ctx).isSome = true)
    (h : s.internalFits e color = true) (e' : AccelEnv) (depth : SurfaceInfo) :
    let t := (s.createSurfaceInternal e ctx color).2
    t.TakesBack e' t.nextSurfaceId (calculateSurfaceSize color) depth ↔
      depth.format ≠ 0 ∧ s.fitsBehind e e' depth = false ∧ inc32 s.nextSurfaceId ≠ 0 ∧
        s.NextIdFinds (calculateSurfaceSize color) := by
  obtain ⟨d, t, ht, heq⟩ := createSurfaceInternal_eq_of_fits hc h
  rw [heq]
  unfold enterSurface at ht
  rw [Option.map_eq_some_iff] at ht
  obtain ⟨pool, hadd, rfl⟩ := ht
  refine and_congr_right fun _ => and_congr (Eq.congr_left ?_) (and_congr_right fun _ => ?_)
  · exact congrArg _ (Pool.hasRoom_add hadd (grownCapacity e' .surfacePool 64))
  · have hfind := Pool.find?_add (q := fun x => x.surfaceId == inc32 s.nextSurfaceId) hadd
      (beq_self_eq_true _)
    show (∃ y, pool.find? (fun x => x.surfaceId == inc32 s.nextSurfaceId) = some y ∧ _) ↔ _
    rw [hfind]
    unfold NextIdFinds
    show (∃ y, some ((s.surfaces.findAhead? _).getD _) = some y ∧ _) ↔ _
    cases s.surfaces.findAhead? fun x => x.surfaceId == inc32 s.nextSurfaceId with
    | none => exact iff_of_true ⟨_, rfl, rfl, rfl⟩ (fun _ hy => by cases hy)
    | some z => simp

theorem addDepthSurface_of_format_eq_zero {info : SurfaceInfo} (h : info.format = 0)
    (e : AccelEnv) (s : Accelerator) (ctx color : Nat) :
    (s.addDepthSurface e ctx color info).2 = s := by
  unfold addDepthSurface
  rw [if_pos h]

theorem addDepthSurface_of_fits {e : AccelEnv} {s : Accelerator} {ctx : Nat} {info : SurfaceInfo}
    (hc : (s.findContext ctx).isSome = true) (hformat : info.format ≠ 0)
    (h : s.internalFits e info = true) (color : Nat) :
    Effect s (s.addDepthSurface e ctx color info).2 ((0, calculateSurfaceSize info) :: s.held)
      s.gpu.hostIds s.memoryUsed := by
  obtain ⟨hret, heffect⟩ := createSurfaceInternal_of_fits hc h
  unfold addDepthSurface
  rw [if_neg hformat]
  dsimp only
  rw [if_pos hret]
  exact heffect

/-- A failed depth surface leaves at most a drawn id, and takes `color` away. -/
theorem addDepthSurface_of_not_fits {e : AccelEnv} {s : Accelerator} {ctx : Nat}
    {info : SurfaceInfo} (hc : (s.findContext ctx).isSome = true) (hformat : info.format ≠ 0)
    (h : s.internalFits e info = false) (color : Nat) :
    let t := (s.addDepthSurface e ctx color info).2
    Steady s t ∧ (color = 0 ∨ s.findSurface color = none) ∨
      ∃ y, color ≠ 0 ∧ s.findSurface color = some y ∧
        s.held.Perm ((y.gpuResourceId, y.size) :: t.held) ∧
        Effect s t t.held s.gpu.hostIds s.memoryUsed := by
  obtain ⟨hret, hsame⟩ := createSurfaceInternal_of_not_fits hc h
  unfold addDepthSurface
  rw [if_neg hformat]
  dsimp only
  rw [if_neg hret]
  generalize (s.createSurfaceInternal e ctx info).2 = s₁ at hsame
  have hsteady : Steady s s₁ := by
    rcases hsame with hs₁ | hs₁
    · rw [hs₁]
      exact Effect.refl s
    · rw [hs₁]
      exact Effect.drawSurfaceId s
  have hfind : s₁.findSurface color = s.findSurface color := by
    rcases hsame with hs₁ | hs₁
    · rw [hs₁]
    · rw [hs₁]
      rfl
  split
  · next hcolor => exact Or.inl ⟨hsteady, Or.inl hcolor⟩
  next hcolor =>
  unfold destroySurfaceInternal
  cases hy : s₁.findSurface color with
  | none => exact Or.inl ⟨hsteady, Or.inr (hfind.symm.trans hy)⟩
  | some y =>
      obtain ⟨hperm, heffect⟩ := effect_removeSurface hy ctx
      refine Or.inr ⟨y, hcolor, hfind.symm.trans hy, hsteady.held.symm.trans hperm, ?_⟩
      rw [← hsteady.host, ← hsteady.used]
      exact hsteady.after heffect

/-! ### The end of a render pass -/

/-- `endRenderPass` goes on to a collection. -/
def collects (e : AccelEnv) (s : Accelerator) (ctx : Nat) : Prop :=
  ∃ c, s.findContext ctx = some c ∧
    let ret := (s.finalizeRendering e ctx c).1
    (if ret ≠ .success then e.framebuffer.getD ret else ret) = .success

/-- What is lost depends on what the contexts have bound only. -/
theorem lost_congr {s t : Accelerator}
    (h : t.contexts.entries.map AccelContext.boundSurfaceIds =
      s.contexts.entries.map AccelContext.boundSurfaceIds) : t.lost = s.lost := by
  funext x
  have hany : ∀ u : Accelerator,
      (u.contexts.entries.any fun c => decide (x.surfaceId ∈ c.boundSurfaceIds)) =
        (u.contexts.entries.map AccelContext.boundSurfaceIds).any
          fun ids => decide (x.surfaceId ∈ ids) := fun u => by
    rw [List.any_map]
    rfl
  unfold lost
  rw [hany, hany, h]

/-- Finalizing counts up an id, and that is all the pools see of it. -/
theorem pools_finalizeRendering (e : AccelEnv) (s : Accelerator) (ctx : Nat) (c : AccelContext) :
    let t := (s.finalizeRendering e ctx c).2
    t.surfaces = s.surfaces ∧
      t.contexts.entries.map AccelContext.boundSurfaceIds =
        s.contexts.entries.map AccelContext.boundSurfaceIds ∧
      t.contexts.entries.map AccelContext.contextId =
        s.contexts.entries.map AccelContext.contextId := by
  unfold finalizeRendering
  split
  · exact ⟨rfl, rfl, rfl⟩
  split
  · exact ⟨rfl, rfl, rfl⟩
  · exact ⟨rfl, Pool.map_modify s.contexts fun _ => rfl, Pool.map_modify s.contexts fun _ => rfl⟩

theorem lostHeld_finalizeRendering (e : AccelEnv) (s : Accelerator) (ctx : Nat)
    (c : AccelContext) : (s.finalizeRendering e ctx c).2.lostHeld = s.lostHeld := by
  obtain ⟨hsurfaces, hbound, -⟩ := pools_finalizeRendering e s ctx c
  unfold lostHeld
  rw [lost_congr hbound, hsurfaces]

theorem contexts_resetTextureUnits (e : AccelEnv) (s : Accelerator) :
    (s.resetTextureUnits e).contexts = s.contexts := by
  obtain ⟨pool, heq, -⟩ := resetTextureUnits_eq e s
  rw [heq]

theorem lostHeld_resetTextureUnits (e : AccelEnv) (s : Accelerator) :
    (s.resetTextureUnits e).lostHeld = s.lostHeld := by
  have hlost : (s.resetTextureUnits e).lost = s.lost := by
    apply lost_congr
    rw [contexts_resetTextureUnits]
  obtain ⟨pool, heq, hentries⟩ := resetTextureUnits_eq e s
  unfold lostHeld
  rw [hlost, heq, hentries, List.filter_map, List.map_map]
  rfl

theorem steady_endRenderPass {e : AccelEnv} (he : e.toEnv.Accepts) (e' : AccelEnv)
    {s : Accelerator} {ctx : Nat} (h : ¬ s.collects e ctx) :
    Steady s (s.endRenderPass e e' ctx).2 := by
  unfold endRenderPass
  cases hc : s.findContext ctx with
  | none => exact Effect.refl s
  | some c =>
      dsimp only
      rw [if_pos fun hsuccess => h ⟨c, hc, hsuccess⟩]
      exact steady_finalizeRendering he s ctx c

theorem effect_endRenderPass {e e' : AccelEnv} (he : e.toEnv.Accepts) (he' : e'.toEnv.Accepts)
    {s : Accelerator} {ctx : Nat} (hz : s.memoryAllocated = 0) (h : s.collects e ctx) :
    let t := (s.endRenderPass e e' ctx).2
    s.held.Perm (s.lostHeld ++ t.held) ∧
      Effect s t t.held (without s.gpu.hostIds (resourcesOf s.lostHeld)) s.memoryUsed := by
  obtain ⟨c, hc, hsuccess⟩ := h
  unfold endRenderPass
  rw [hc]
  dsimp only at hsuccess ⊢
  rw [if_neg (not_not.mpr hsuccess)]
  have hfinal := steady_finalizeRendering he s ctx c
  have hlost := lostHeld_finalizeRendering e s ctx c
  generalize (s.finalizeRendering e ctx c).2 = s₁ at hfinal hlost ⊢
  have hreset := hfinal.before (steady_resetTextureUnits e s₁)
  have hlost' := (lostHeld_resetTextureUnits e s₁).trans hlost
  generalize s₁.resetTextureUnits e = s₂ at hreset hlost' ⊢
  obtain ⟨hperm, hcollect⟩ := effect_garbageCollectTextures he' (hreset.allocated hz)
  have hflush := steady_returnCommandBuffer he' (s₂.garbageCollectTextures e').2 ctx
  rw [hlost'] at hperm hcollect
  refine ⟨(hreset.held.symm.trans hperm).trans (hflush.held.symm.append_left _), ?_⟩
  have hall := (hreset.after hcollect).before hflush
  rw [hreset.host, hreset.used] at hall
  exact ⟨List.Perm.refl _, hall.host, hall.used, hall.allocated, hall.pending⟩

/-! ## The condition on one call -/

/-- What holds after every call on an accepting host. -/
structure Settled (s : Accelerator) : Prop where
  /-- nothing ever counts into `m_memory_allocated` -/
  allocated : s.memoryAllocated = 0
  pending : s.gpu.link.pending = []
  once : s.gpu.hostIds.Nodup

/-- Surfaces, resources and charge are in step. -/
def InStep (s : Accelerator) : Prop := Accounts s.held s.gpu.hostIds s.memoryUsed

/-- `createFramebuffer` is in order if it leaves no surface behind: none is asked for or
can be made, or the colour surface is taken back, as the depth surface cannot be made. -/
def FramebufferOk (e e' : AccelEnv) (s : Accelerator)
    (ctx width height colorFormat depthFormat : Nat) : Prop :=
  let color : SurfaceInfo := ⟨colorFormat, width, height, 1⟩
  let depth : SurfaceInfo := ⟨depthFormat, width, height, 1⟩
  (s.findContext ctx).isSome = true → framebufferFits width height = true →
    if colorFormat = 0 then depthFormat = 0 ∨ s.internalFits e' depth = false
    else s.internalFits e color = true →
      depthFormat ≠ 0 ∧ s.fitsBehind e e' depth = false ∧ inc32 s.nextSurfaceId ≠ 0 ∧
        s.NextIdFinds (calculateSurfaceSize color)

/-- No surface that counts is lost. -/
def NoneLost (s : Accelerator) : Prop := ∀ x ∈ s.surfaces.entries, s.lost x = true → x.size = 0

/-- **The exact condition on one call.** -/
def AccountOk (e e' : AccelEnv) (s : Accelerator) : AccelCall → Prop
  | .create3DSurface ctx info => s.createsResource ctx →
      inc32 s.gpu.nextResourceId ∉ s.gpu.hostIds ∧
      (s.surfaceFits e (calculateSurfaceSize info) = true →
        inc32 s.gpu.nextResourceId ≠ 0 ∧ s.memoryUsed + calculateSurfaceSize info < 2 ^ 64)
  | .destroy3DSurface ctx surface => (s.findContext ctx).isSome = true →
      ∀ x, s.findSurface surface = some x → x.gpuResourceId = 0 ∧ x.size = 0
  | .createFramebuffer ctx width height colorFormat depthFormat =>
      s.FramebufferOk e e' ctx width height colorFormat depthFormat
  | .garbageCollectTextures => s.NoneLost
  | .endRenderPass ctx => s.collects e ctx → s.NoneLost
  | _ => True

theorem sizeOf_lostHeld_eq_zero_iff {s : Accelerator} : sizeOf s.lostHeld = 0 ↔ s.NoneLost := by
  unfold sizeOf lostHeld NoneLost
  rw [List.map_map, List.sum_eq_zero_iff_forall_eq_nat]
  simp only [List.mem_map, List.mem_filter, Function.comp]
  constructor
  · intro h x hx hlost
    exact h x.size ⟨x, ⟨hx, hlost⟩, rfl⟩
  · rintro h _ ⟨x, ⟨hx, hlost⟩, rfl⟩
    exact h x hx hlost

namespace Effect
variable {s t : Accelerator} {held : List (Nat × Nat)} {host : List Nat} {used : Nat}

theorem settled (h : Effect s t held host used) (hs : s.Settled) (hn : host.Nodup) :
    t.Settled where
  allocated := h.allocated hs.allocated
  pending := h.pending.trans hs.pending
  once := h.host ▸ hn

theorem settled_of_steady (h : Steady s t) (hs : s.Settled) : t.Settled := h.settled hs hs.once

end Effect

theorem nodup_asked {host : List Nat} (h : host.Nodup) (id : Nat) : (asked host id).Nodup := by
  unfold asked
  split
  · exact h
  · next hid =>
    rw [List.nodup_append]
    refine ⟨h, List.nodup_singleton id, fun a ha b hb hab => hid ?_⟩
    rw [List.mem_singleton.mp hb] at hab
    exact hab ▸ ha

theorem inStep_create3DSurface_iff {e : AccelEnv} (he : e.toEnv.Accepts) {s : Accelerator}
    (h : s.InStep) (ctx : Nat) (info : SurfaceInfo) :
    (s.create3DSurface e ctx info).2.InStep ↔
      (s.createsResource ctx → inc32 s.gpu.nextResourceId ∉ s.gpu.hostIds ∧
        (s.surfaceFits e (calculateSurfaceSize info) = true →
          inc32 s.gpu.nextResourceId ≠ 0 ∧
            s.memoryUsed + calculateSurfaceSize info < 2 ^ 64)) := by
  by_cases hcreates : s.createsResource ctx
  swap
  · exact iff_of_true ((steady_create3DSurface hcreates info).accounts_iff.mpr h)
      fun hc => absurd hc hcreates
  rw [forall_prop_of_true hcreates]
  have heffect := effect_create3DSurface he hcreates info
  split at heffect
  · next hfits =>
    rw [forall_prop_of_true hfits]
    unfold InStep
    rw [heffect.accounts_iff, Accounts.charged_iff h]
    exact and_left_comm
  · next hfits =>
    unfold InStep
    rw [heffect.accounts_iff, Accounts.givenBack_iff h]
    exact ⟨fun hnew => ⟨hnew, fun hc => absurd hc hfits⟩, And.left⟩

theorem inStep_destroy3DSurface_iff {s : Accelerator} (h : s.InStep) (ctx surface : Nat) :
    (s.destroy3DSurface ctx surface).2.InStep ↔
      ((s.findContext ctx).isSome = true →
        ∀ x, s.findSurface surface = some x → x.gpuResourceId = 0 ∧ x.size = 0) := by
  by_cases hboth : (s.findContext ctx).isSome = true ∧ (s.findSurface surface).isSome = true
  swap
  · refine iff_of_true ((steady_destroy3DSurface hboth).accounts_iff.mpr h) fun hc x hx => ?_
    exact absurd ⟨hc, by rw [hx]; rfl⟩ hboth
  obtain ⟨hc, hsome⟩ := hboth
  obtain ⟨x, hx⟩ := Option.isSome_iff_exists.mp hsome
  obtain ⟨hperm, heffect⟩ := effect_removeSurface hx ctx
  rw [destroy3DSurface_eq hc hx, forall_prop_of_true hc]
  unfold InStep
  rw [heffect.accounts_iff, Accounts.drop_iff (Accounts.of_perm hperm h)]
  constructor
  · rintro hzero y hy
    cases hx.symm.trans hy
    exact hzero
  · intro hall
    exact hall x hx

/-- A depth surface alone. -/
theorem inStep_depth_iff {e : AccelEnv} {s : Accelerator} (h : s.InStep) {ctx : Nat}
    (hc : (s.findContext ctx).isSome = true) {info : SurfaceInfo}
    (hpos : 0 < calculateSurfaceSize info) :
    (s.addDepthSurface e ctx 0 info).2.InStep ↔
      info.format = 0 ∨ s.internalFits e info = false := by
  by_cases hformat : info.format = 0
  · rw [addDepthSurface_of_format_eq_zero hformat]
    exact iff_of_true h (Or.inl hformat)
  by_cases hfits : s.internalFits e info = true
  · have heffect := addDepthSurface_of_fits hc hformat hfits 0
    refine iff_of_false (fun hafter => ?_) ?_
    · have hzero := (Accounts.uncharged_iff h _).mp (heffect.accounts_iff.mp hafter)
      omega
    · rintro (hf | hf)
      · exact hformat hf
      · rw [hfits] at hf
        cases hf
  · have hnot : s.internalFits e info = false := by simpa using hfits
    refine iff_of_true ?_ (Or.inr hnot)
    rcases addDepthSurface_of_not_fits hc hformat hnot 0 with ⟨hsteady, -⟩ | ⟨y, hz, -⟩
    · exact hsteady.accounts_iff.mpr h
    · exact absurd rfl hz

/-- A depth surface behind a colour surface, with `held` the surfaces before. -/
theorem inStep_depth_behind_iff {e : AccelEnv} {s : Accelerator} {held : List (Nat × Nat)}
    {size : Nat} (h : Accounts held s.gpu.hostIds s.memoryUsed)
    (hp : s.held.Perm ((0, size) :: held)) (hsize : 0 < size) {ctx : Nat}
    (hc : (s.findContext ctx).isSome = true) {info : SurfaceInfo} (color : Nat) :
    (s.addDepthSurface e ctx color info).2.InStep ↔ s.TakesBack e color size info := by
  have hnot : ¬ s.InStep := fun hin => by
    have hzero := (Accounts.uncharged_iff h size).mp (Accounts.of_perm hp hin)
    omega
  unfold TakesBack
  by_cases hformat : info.format = 0
  · rw [addDepthSurface_of_format_eq_zero hformat]
    exact iff_of_false hnot fun hc => hc.1 hformat
  by_cases hfits : s.internalFits e info = true
  · have heffect := addDepthSurface_of_fits hc hformat hfits color
    refine iff_of_false (fun hafter => ?_) fun hc => ?_
    · have hm := (heffect.accounts_iff.mp hafter).memory
      have hm' := h.memory
      rw [sizeOf_cons, sizeOf_perm hp, sizeOf_cons] at hm
      dsimp only at hm
      omega
    · rw [hfits] at hc
      cases hc.2.1
  · have hnotFits : s.internalFits e info = false := by simpa using hfits
    rcases addDepthSurface_of_not_fits hc hformat hnotFits color with
      ⟨hsteady, hcolor⟩ | ⟨y, hcolor, hy, hperm, heffect⟩
    · refine iff_of_false (fun hafter => hnot (hsteady.accounts_iff.mp hafter)) ?_
      rintro ⟨-, -, hne, y, hy, -⟩
      rcases hcolor with hz | hnone
      · exact hne hz
      · cases hnone.symm.trans hy
    · unfold InStep
      rw [heffect.accounts_iff, Accounts.swap_iff h (hp.symm.trans hperm)]
      constructor
      · intro hsame
        exact ⟨hformat, hnotFits, hcolor, y, hy, hsame⟩
      · rintro ⟨-, -, -, y', hy', hsame⟩
        cases hy.symm.trans hy'
        exact hsame

theorem inStep_createFramebuffer_iff {e e' : AccelEnv} {s : Accelerator} (h : s.InStep)
    (ctx width height colorFormat depthFormat : Nat) :
    (s.createFramebuffer e e' ctx width height colorFormat depthFormat).2.InStep ↔
      s.FramebufferOk e e' ctx width height colorFormat depthFormat := by
  unfold createFramebuffer FramebufferOk
  dsimp only
  by_cases hc : (s.findContext ctx).isSome = true
  swap
  · rw [if_pos (by simpa using hc)]
    exact iff_of_true h fun hc' => absurd hc' hc
  have hfound : ¬ (s.findContext ctx).isNone = true := by
    rw [Bool.not_eq_true, Option.isNone_eq_false_iff]
    exact hc
  rw [if_neg hfound, forall_prop_of_true hc]
  by_cases hdim : framebufferFits width height = true
  swap
  · rw [if_pos (by simpa using hdim)]
    exact iff_of_true h fun hdim' => absurd hdim' hdim
  rw [if_neg (by simpa using hdim), forall_prop_of_true hdim]
  by_cases hcolor : colorFormat = 0
  · rw [if_pos hcolor, if_pos hcolor]
    exact inStep_depth_iff h hc (calculateSurfaceSize_pos hdim depthFormat)
  rw [if_neg hcolor, if_neg hcolor]
  by_cases hfits : s.internalFits e ⟨colorFormat, width, height, 1⟩ = true
  · obtain ⟨hret, heffect⟩ := createSurfaceInternal_of_fits hc hfits
    have hc₁ := isSome_findContext_createSurfaceInternal (e := e)
      ⟨colorFormat, width, height, 1⟩ hc
    have hback := takesBack_createSurfaceInternal_iff hc hfits e' ⟨depthFormat, width, height, 1⟩
    rw [if_neg (not_not.mpr hret), forall_prop_of_true hfits]
    refine (inStep_depth_behind_iff ?_ heffect.held (calculateSurfaceSize_pos hdim colorFormat)
      hc₁ _).trans hback
    rw [heffect.host, heffect.used]
    exact h
  · obtain ⟨hret, hsame⟩ := createSurfaceInternal_of_not_fits hc
      ((Bool.not_eq_true _).mp hfits)
    rw [if_pos hret]
    refine iff_of_true ?_ fun hc' => absurd hc' hfits
    dsimp only
    rcases hsame with hs₁ | hs₁
    · rw [hs₁]
      exact h
    · rw [hs₁]
      exact h

theorem settled_addDepthSurface {e : AccelEnv} {s : Accelerator} (hs : s.Settled) {ctx : Nat}
    (hc : (s.findContext ctx).isSome = true) (color : Nat) (info : SurfaceInfo) :
    (s.addDepthSurface e ctx color info).2.Settled := by
  by_cases hformat : info.format = 0
  · rw [addDepthSurface_of_format_eq_zero hformat]
    exact hs
  by_cases hfits : s.internalFits e info = true
  · exact (addDepthSurface_of_fits hc hformat hfits color).settled hs hs.once
  · rcases addDepthSurface_of_not_fits hc hformat
      ((Bool.not_eq_true _).mp hfits) color with ⟨hsteady, -⟩ | ⟨y, -, -, -, heffect⟩
    · exact hsteady.settled_of_steady hs
    · exact heffect.settled hs hs.once

theorem settled_createFramebuffer {e e' : AccelEnv} {s : Accelerator} (hs : s.Settled)
    (ctx width height colorFormat depthFormat : Nat) :
    (s.createFramebuffer e e' ctx width height colorFormat depthFormat).2.Settled := by
  unfold createFramebuffer
  split
  · exact hs
  next hfound =>
  have hc : (s.findContext ctx).isSome = true := by
    rw [Bool.not_eq_true, Option.isNone_eq_false_iff] at hfound
    exact hfound
  split
  · exact hs
  split
  · exact settled_addDepthSurface hs hc 0 _
  have hc₁ := isSome_findContext_createSurfaceInternal (e := e) ⟨colorFormat, width, height, 1⟩ hc
  have hs₁ : (s.createSurfaceInternal e ctx ⟨colorFormat, width, height, 1⟩).2.Settled := by
    by_cases hfits : s.internalFits e ⟨colorFormat, width, height, 1⟩ = true
    · exact (createSurfaceInternal_of_fits hc hfits).2.settled hs hs.once
    · rcases (createSurfaceInternal_of_not_fits hc ((Bool.not_eq_true _).mp hfits)).2
        with hsame | hsame
      · rw [hsame]
        exact hs
      · rw [hsame]
        exact (Effect.drawSurfaceId s).settled_of_steady hs
  dsimp only
  split
  · exact hs₁
  · exact settled_addDepthSurface hs₁ hc₁ _ _

theorem inStep_collected_iff {s t : Accelerator} (h : s.InStep) (hs : s.Settled)
    (hperm : s.held.Perm (s.lostHeld ++ t.held))
    (heffect : Effect s t t.held (without s.gpu.hostIds (resourcesOf s.lostHeld)) s.memoryUsed) :
    t.InStep ↔ s.NoneLost := by
  unfold InStep
  rw [heffect.accounts_iff, Accounts.collected_iff (Accounts.of_perm hperm h) hs.once,
    sizeOf_lostHeld_eq_zero_iff]

/-! ### Every call -/

theorem settled_call {e e' : AccelEnv} (he : e.toEnv.Accepts) (he' : e'.toEnv.Accepts)
    {s : Accelerator} (hs : s.Settled) (call : AccelCall) : (s.call e e' call).2.Settled := by
  have hwithout : ∀ l, (without s.gpu.hostIds l).Nodup := fun l => hs.once.filter _
  cases call with
  | create3DContext => exact (steady_create3DContext he s).settled_of_steady hs
  | destroy3DContext ctx => exact (steady_destroy3DContext he s ctx).settled_of_steady hs
  | submit3DCommands ctx commands =>
      exact (steady_submit3DCommands he s ctx commands).settled_of_steady hs
  | beginRenderPass ctx => exact (steady_beginRenderPass he s ctx).settled_of_steady hs
  | endRenderPass ctx =>
      by_cases hcollects : s.collects e ctx
      · exact (effect_endRenderPass he he' hs.allocated hcollects).2.settled hs (hwithout _)
      · exact (steady_endRenderPass he e' hcollects).settled_of_steady hs
  | present3DSurface ctx surface =>
      exact (steady_present3DSurface he s ctx surface).settled_of_steady hs
  | create3DSurface ctx info =>
      by_cases hcreates : s.createsResource ctx
      swap
      · exact (steady_create3DSurface hcreates info).settled_of_steady hs
      have hasked := nodup_asked hs.once (inc32 s.gpu.nextResourceId)
      have heffect := effect_create3DSurface he hcreates info
      split at heffect
      · exact heffect.settled hs hasked
      · exact heffect.settled hs (hasked.filter _)
  | destroy3DSurface ctx surface =>
      by_cases hboth : (s.findContext ctx).isSome = true ∧ (s.findSurface surface).isSome = true
      swap
      · exact (steady_destroy3DSurface hboth).settled_of_steady hs
      obtain ⟨x, hx⟩ := Option.isSome_iff_exists.mp hboth.2
      show (s.destroy3DSurface ctx surface).2.Settled
      rw [destroy3DSurface_eq hboth.1 hx]
      exact (effect_removeSurface hx ctx).2.settled hs hs.once
  | createFramebuffer ctx width height colorFormat depthFormat =>
      exact settled_createFramebuffer hs ctx width height colorFormat depthFormat
  | garbageCollectTextures =>
      exact (effect_garbageCollectTextures he hs.allocated).2.settled hs (hwithout _)

/-- **One call** keeps surfaces, resources and charge in step exactly if it is
`AccountOk`. -/
theorem inStep_call_iff {e e' : AccelEnv} (he : e.toEnv.Accepts) (he' : e'.toEnv.Accepts)
    {s : Accelerator} (hs : s.Settled) (h : s.InStep) (call : AccelCall) :
    (s.call e e' call).2.InStep ↔ s.AccountOk e e' call := by
  cases call with
  | create3DContext =>
      exact iff_of_true ((steady_create3DContext he s).accounts_iff.mpr h) trivial
  | destroy3DContext ctx =>
      exact iff_of_true ((steady_destroy3DContext he s ctx).accounts_iff.mpr h) trivial
  | submit3DCommands ctx commands =>
      exact iff_of_true ((steady_submit3DCommands he s ctx commands).accounts_iff.mpr h) trivial
  | beginRenderPass ctx =>
      exact iff_of_true ((steady_beginRenderPass he s ctx).accounts_iff.mpr h) trivial
  | endRenderPass ctx =>
      by_cases hcollects : s.collects e ctx
      · obtain ⟨hperm, heffect⟩ := effect_endRenderPass he he' hs.allocated hcollects
        have hiff := inStep_collected_iff h hs hperm heffect
        exact ⟨fun hin _ => hiff.mp hin, fun hok => hiff.mpr (hok hcollects)⟩
      · exact iff_of_true ((steady_endRenderPass he e' hcollects).accounts_iff.mpr h)
          fun hc => absurd hc hcollects
  | present3DSurface ctx surface =>
      exact iff_of_true ((steady_present3DSurface he s ctx surface).accounts_iff.mpr h) trivial
  | create3DSurface ctx info => exact inStep_create3DSurface_iff he h ctx info
  | destroy3DSurface ctx surface => exact inStep_destroy3DSurface_iff h ctx surface
  | createFramebuffer ctx width height colorFormat depthFormat =>
      exact inStep_createFramebuffer_iff h ctx width height colorFormat depthFormat
  | garbageCollectTextures =>
      obtain ⟨hperm, heffect⟩ := effect_garbageCollectTextures he hs.allocated
      exact inStep_collected_iff h hs hperm heffect

end Accelerator

/-! ## Runs -/

namespace AccelRun

/-- The resources on the host are those of the surfaces in the pool, each once,
and `m_memory_used` is the sum of the sizes of these surfaces. -/
structure Accounted (s : AccelRun) : Prop where
  resources : (s.accel.gpu.link.host.resources.map HostResource.id).Perm
    ((s.accel.surfaces.entries.map AccelSurface.gpuResourceId).filter fun id => decide (id ≠ 0))
  once : (s.accel.gpu.link.host.resources.map HostResource.id).Nodup
  memory : s.accel.memoryUsed =
    (s.accel.surfaces.entries.map fun x => calculateSurfaceSize x.info).sum

/-- What a step issues is `AccountOk`. -/
def AccountOk (s : AccelRun) (c : ClientCall × AccelEnv × AccelEnv) : Prop :=
  ∀ call, s.issues c.1 = some call →
    s.accel.AccountOk (c.2.1.mapEnv Env.hostAccepts) (c.2.2.mapEnv Env.hostAccepts) call

theorem accounted_iff {s : AccelRun} (hs : s.accel.Settled) : s.Accounted ↔ s.accel.InStep := by
  have hids : resourcesOf s.accel.held =
      (s.accel.surfaces.entries.map AccelSurface.gpuResourceId).filter
        fun id => decide (id ≠ 0) := by
    unfold resourcesOf Accelerator.held
    rw [List.map_map]
    rfl
  have hsizes : sizeOf s.accel.held =
      (s.accel.surfaces.entries.map fun x => calculateSurfaceSize x.info).sum := by
    unfold sizeOf Accelerator.held
    rw [List.map_map]
    rfl
  constructor
  · intro h
    exact ⟨hids ▸ h.resources, hsizes ▸ h.memory⟩
  · intro h
    exact ⟨hids ▸ h.resources, hs.once, hsizes ▸ h.memory⟩

theorem settled_step {s t : AccelRun} {call : ClientCall} {e e' : AccelEnv}
    (he : e.toEnv.Accepts) (he' : e'.toEnv.Accepts) (hs : s.accel.Settled)
    (h : s.step call e e' = some t) : t.accel.Settled := by
  rcases step_cases h with ⟨-, haccel, -⟩ | ⟨c, -, haccel, -⟩ | ⟨-, l, hl, -⟩
  · rw [haccel]
    exact hs
  · rw [haccel]
    exact Accelerator.settled_call he he' hs c
  · -- nothing is ever late on an accepting host
    rw [Link.execLate, hs.pending] at hl
    cases hl

theorem inStep_step_iff {s t : AccelRun} {call : ClientCall} {e e' : AccelEnv}
    (he : e.toEnv.Accepts) (he' : e'.toEnv.Accepts) (hs : s.accel.Settled)
    (hin : s.accel.InStep) (h : s.step call e e' = some t) :
    t.accel.InStep ↔ ∀ c, s.issues call = some c → s.accel.AccountOk e e' c := by
  rcases step_cases h with ⟨hnone, haccel, -⟩ | ⟨c, hc, haccel, -⟩ | ⟨-, l, hl, -⟩
  · rw [haccel]
    refine iff_of_true hin fun c hc => ?_
    cases hnone.symm.trans hc
  · rw [haccel, Accelerator.inStep_call_iff he he' hs hin c]
    refine ⟨fun hok c' hc' => ?_, fun hok => hok c hc⟩
    cases hc.symm.trans hc'
    exact hok
  · rw [Link.execLate, hs.pending] at hl
    cases hl

/-- **Resources and account match the pool exactly along the runs whose steps
are all `AccountOk`.** -/
theorem always_accounted_iff (supports3D : Bool) (maxScanouts : Nat)
    (calls : List (ClientCall × AccelEnv × AccelEnv)) :
    (machine Env.hostAccepts supports3D maxScanouts).Always Accounted
        (machine Env.hostAccepts supports3D maxScanouts).init calls ↔
      (machine Env.hostAccepts supports3D maxScanouts).Along AccountOk
        (machine Env.hostAccepts supports3D maxScanouts).init calls := by
  have he : ∀ e : AccelEnv, (e.mapEnv Env.hostAccepts).toEnv.Accepts :=
    fun e => accepts_hostAccepts e.toEnv
  refine (machine Env.hostAccepts supports3D maxScanouts).always_iff_along
    (J := fun s => s.accel.Settled) (fun s c t hs h => ?_) (fun s c t hs hacc h => ?_) ?_ ?_
  · exact settled_step (he c.2.1) (he c.2.2) hs h
  · rw [accounted_iff (settled_step (he c.2.1) (he c.2.2) hs h)]
    exact inStep_step_iff (he c.2.1) (he c.2.2) hs ((accounted_iff hs).mp hacc) h
  · exact ⟨rfl, rfl, List.nodup_nil⟩
  · exact ⟨List.Perm.refl _, List.nodup_nil, rfl⟩

/-- A surface made and destroyed leaves its resource and its charge behind. -/
theorem destroyed_surface_stays :
    ¬ (machine Env.hostAccepts true 1).Always Accounted
      (machine Env.hostAccepts true 1).init
      [(.bridge .create3DContext, .accepting, .accepting),
        (.bridge (.create3DSurface 2 ⟨21, 640, 480, 1⟩), .accepting, .accepting),
        (.bridge (.destroy3DSurface 2 2), .accepting, .accepting)] := by
  intro h
  have hrun : ((machine Env.hostAccepts true 1).run (machine Env.hostAccepts true 1).init
      [(.bridge .create3DContext, .accepting, .accepting),
        (.bridge (.create3DSurface 2 ⟨21, 640, 480, 1⟩), .accepting, .accepting),
        (.bridge (.destroy3DSurface 2 2), .accepting, .accepting)]).any
      (fun s => decide (s.accel.surfaces.entries = []) &&
        decide (s.accel.gpu.link.host.resources.map HostResource.id = [2]) &&
        decide (s.accel.memoryUsed = 640 * 480 * 4)) = true := by
    decide
  obtain ⟨s, hs, htest⟩ := h.of_any _ hrun
  simp only [Bool.and_eq_true, decide_eq_true_eq] at htest
  obtain ⟨⟨hempty, -⟩, hused⟩ := htest
  have hmemory := hs.memory
  rw [hempty, hused] at hmemory
  cases hmemory

end AccelRun
end VMQemuVGA
