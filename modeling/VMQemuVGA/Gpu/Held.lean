import VMQemuVGA.Gpu.ResourceIds
import VMQemuVGA.Gpu.ResourcePool

/-! # Where an id can come from

An id that the host holds, that a command still to be carried out will create
there, or that the device's pool lists was brought in by some call. This module
says by which: a creating call brings in the id it is given, the calls that draw
ids only those they draw, all others none. -/

namespace VMQemuVGA

/-- The resource a command creates. -/
def HostCmd.creates : HostCmd → Option Nat
  | .resourceCreate2D id .. => some id
  | .resourceCreate3D _ id _ => some id
  | _ => none

namespace Host

theorem hasResource_exec {h : Host} {cmd : HostCmd} {id : Nat}
    (hid : (h.exec cmd).hasResource id = true) :
    h.hasResource id = true ∨ cmd.creates = some id := by
  have hadd : ∀ k, (h.addResource k).hasResource id = true →
      h.hasResource id = true ∨ some k = some id := by
    intro k hk
    unfold addResource at hk
    split at hk
    · exact Or.inl hk
    · rw [hasResource, List.any_append, Bool.or_eq_true] at hk
      refine hk.imp (fun hk => hk) fun hk => ?_
      simpa using hk
  have hback : ∀ k b, (h.setBacking k b).hasResource id = true → h.hasResource id = true := by
    intro k b hk
    obtain ⟨r, hr, hrid⟩ := hasResource_iff.mp hk
    obtain ⟨r₀, hr₀, rfl⟩ := List.mem_map.mp hr
    refine hasResource_iff.mpr ⟨r₀, hr₀, ?_⟩
    rw [← hrid]
    split <;> rfl
  cases cmd with
  | resourceCreate2D k f w l => exact hadd k hid
  | resourceCreate3D c k t => exact hadd k hid
  | resourceUnref k =>
      obtain ⟨r, hr, hrid⟩ := hasResource_iff.mp hid
      exact Or.inl (hasResource_iff.mpr ⟨r, (List.mem_filter.mp hr).1, hrid⟩)
  | resourceAttachBacking k l => exact Or.inl (hback k _ hid)
  | resourceDetachBacking k => exact Or.inl (hback k _ hid)
  | _ => exact Or.inl hid

end Host

namespace Gpu

/-- The host holds the resource, or will once it has carried out what is pending. -/
def Held (g : Gpu) (id : Nat) : Prop :=
  g.link.host.hasResource id = true ∨ ∃ cmd ∈ g.link.pending, cmd.creates = some id

instance (g : Gpu) (id : Nat) : Decidable (g.Held id) :=
  inferInstanceAs (Decidable (_ = true ∨ ∃ cmd ∈ g.link.pending, cmd.creates = some id))

/-- The ids drawn so far. -/
def handed (g : Gpu) : List Nat := g.kernelIds ++ g.winsysIds

/-- The ids drawn between two states. -/
def newIds (g g' : Gpu) : List Nat :=
  g'.kernelIds.drop g.kernelIds.length ++ g'.winsysIds.drop g.winsysIds.length

/-- From `g` to `g'` no id is brought in but those of `P`. -/
structure BringsIn (P : Nat → Prop) (g g' : Gpu) : Prop where
  held : ∀ id, g'.Held id → g.Held id ∨ P id
  pooled : ∀ id, (g'.findResource id).isSome = true → (g.findResource id).isSome = true ∨ P id

section
variable {g g₁ g₂ : Gpu} {P Q : Nat → Prop}

/-- What is there afterwards was there before, or was brought in. -/
theorem BringsIn.before (h : BringsIn P g g₁) {id : Nat}
    (hid : g₁.Held id ∨ (g₁.findResource id).isSome = true) :
    (g.Held id ∨ (g.findResource id).isSome = true) ∨ P id := by
  rcases hid with hid | hid
  · exact (h.held id hid).imp_left Or.inl
  · exact (h.pooled id hid).imp_left Or.inr

theorem BringsIn.refl (P : Nat → Prop) (g : Gpu) : BringsIn P g g :=
  ⟨fun _ h => Or.inl h, fun _ h => Or.inl h⟩

theorem BringsIn.trans (h₁ : BringsIn P g g₁) (h₂ : BringsIn P g₁ g₂) : BringsIn P g g₂ where
  held := fun id h => (h₂.held id h).elim (h₁.held id) Or.inr
  pooled := fun id h => (h₂.pooled id h).elim (h₁.pooled id) Or.inr

theorem BringsIn.mono (h : BringsIn P g g₁) (hPQ : ∀ id, P id → Q id) : BringsIn Q g g₁ where
  held := fun id hid => (h.held id hid).imp_right (hPQ id)
  pooled := fun id hid => (h.pooled id hid).imp_right (hPQ id)

/-- Only the link and the pool count. -/
theorem bringsIn_of_eq (hlink : g₁.link = g.link) (hpool : g₁.pool = g.pool) :
    BringsIn P g g₁ := by
  refine ⟨fun id h => Or.inl ?_, fun id h => Or.inl ?_⟩
  · unfold Held at h ⊢
    rwa [hlink] at h
  · unfold findResource at h ⊢
    rwa [hpool] at h

theorem bringsIn_submitCommand (e : Env) (g : Gpu) (cmd : HostCmd) :
    BringsIn (fun id => cmd.creates = some id) g (g.submitCommand e cmd).2 := by
  refine ⟨fun id h => ?_, fun id h => Or.inl h⟩
  rcases h with h | ⟨c, hc, hid⟩
  · by_cases hret : (e.ask cmd).ret = .success
    · have hhost : (g.submitCommand e cmd).2.link.host = g.link.host.exec cmd := by
        show (g.link.send cmd (e.ask cmd)).host = _
        rw [Link.send_of_success hret]
      rw [hhost] at h
      exact (Host.hasResource_exec h).imp_left Or.inl
    · have hhost : (g.submitCommand e cmd).2.link.host = g.link.host :=
        Link.host_send_of_not_success hret
      rw [hhost] at h
      exact Or.inl (Or.inl h)
  · rcases Link.mem_pending_send hc with hold | ⟨rfl, -⟩
    · exact Or.inl (Or.inr ⟨c, hold, hid⟩)
    · exact Or.inr hid

/-- A command that creates nothing. -/
theorem bringsIn_send {cmd : HostCmd} (e : Env) (g : Gpu) (h : cmd.creates = none) :
    BringsIn P g (g.submitCommand e cmd).2 :=
  (bringsIn_submitCommand e g cmd).mono fun id hid => by rw [h] at hid; cases hid

/-- A slot is written. -/
theorem bringsIn_put {id : Nat} (g : Gpu) (i n : Nat) {r : GpuResource} (hr : r.resourceId = id) :
    BringsIn (fun k => k = id) g { g with pool := g.pool.put i r, resourceCount := n } := by
  refine ⟨fun k h => Or.inl h, fun k h => ?_⟩
  rcases SlotTable.find?_put_isSome h with h | h
  · exact Or.inl h
  · exact Or.inr (h.symm.trans hr)

/-! ## Creating and releasing -/

theorem bringsIn_attachBacking (e : Env) (g : Gpu) (id : Nat) (memory : Option MemoryDescriptor) :
    BringsIn P g (g.attachBacking e id memory).2 := by
  unfold attachBacking
  split
  · exact .refl P g
  cases memory with
  | none => exact .refl P g
  | some d =>
      dsimp only
      split
      · exact .refl P g
      split
      · exact .refl P g
      split
      · exact .refl P g
      · exact bringsIn_send e g rfl

theorem bringsIn_register {id : Nat} (g : Gpu) (i : Nat) {r : GpuResource}
    (hr : r.resourceId = id) : BringsIn (fun k => k = id) g (g.register i r) :=
  bringsIn_put g i _ hr

theorem bringsIn_backAndRegister (e : Env) (g : Gpu) (id format width height : Nat)
    (backing : Option MemoryDescriptor) :
    BringsIn (fun k => k = id) g (g.backAndRegister e id format width height backing).2 := by
  unfold backAndRegister
  split
  · exact .refl _ g
  next d _ =>
    have hattach := bringsIn_attachBacking (P := fun k => k = id) e g id (some d)
    dsimp only
    split
    · exact hattach
    split
    · exact hattach.trans (bringsIn_send e _ rfl)
    · exact hattach.trans (bringsIn_register _ _ rfl)

theorem bringsIn_createResource2D (e : Env) (g : Gpu) (id format width height : Nat)
    (backing : Option MemoryDescriptor) :
    BringsIn (fun k => k = id) g (g.createResource2D e id format width height backing).2 := by
  have hsend := (bringsIn_submitCommand e g (.resourceCreate2D id format width height)).mono
    (Q := fun k => k = id) fun k hk => (Option.some.inj hk).symm
  unfold createResource2D
  split
  · exact .refl _ g
  dsimp only
  split
  · exact hsend
  · exact hsend.trans (bringsIn_backAndRegister ..)

theorem bringsIn_createResource3D (e : Env) (g : Gpu)
    (id target format bind width height depth : Nat) :
    BringsIn (fun k => k = id) g
      (g.createResource3D e id target format bind width height depth).2 := by
  have hsend := (bringsIn_submitCommand e g (create3DCmd id target format bind width height
    depth)).mono (Q := fun k => k = id) fun k hk => (Option.some.inj hk).symm
  unfold createResource3D
  split
  · exact .refl _ g
  split
  · exact .refl _ g
  dsimp only
  split
  · split
    · exact hsend
    · exact hsend.trans (bringsIn_register _ _ rfl)
  · exact hsend

theorem bringsIn_deallocateResource (e : Env) (g : Gpu) (id : Nat) :
    BringsIn P g (g.deallocateResource e id).2 := by
  have hsend : BringsIn P g (g.submitCommand e (.resourceUnref id)).2 := bringsIn_send e g rfl
  unfold deallocateResource
  dsimp only
  split
  · refine ⟨hsend.held, fun k hk => hsend.pooled k ?_⟩
    exact SlotTable.find?_clear_isSome resourceId_free hk
  · exact hsend

/-- The host gets round to a command: what it then holds was held. -/
theorem bringsIn_hostLate {l : Link} (h : g.link.execLate = some l) :
    BringsIn P g { g with link := l } := by
  obtain ⟨cmd, rest, hp, rfl⟩ := Link.execLate_eq_some h
  refine ⟨fun id hid => Or.inl ?_, fun id hid => Or.inl hid⟩
  rcases hid with hid | ⟨c, hc, hid⟩
  · rcases Host.hasResource_exec hid with hold | hnew
    · exact Or.inl hold
    · refine Or.inr ⟨cmd, ?_, hnew⟩
      rw [hp]
      exact List.mem_cons_self
  · refine Or.inr ⟨c, ?_, hid⟩
    rw [hp]
    exact List.mem_cons_of_mem _ hc

/-! ## Calls that draw ids -/

/-- From `g` to `g'` ids are drawn, and no others brought in. -/
structure Draws (g g' : Gpu) : Prop where
  kernel : g.kernelIds <+: g'.kernelIds
  winsys : g.winsysIds <+: g'.winsysIds
  brings : BringsIn (fun id => id ∈ g.newIds g') g g'

theorem newIds_mono (h : g₁.kernelIds <+: g₂.kernelIds) (h' : g₁.winsysIds <+: g₂.winsysIds)
    {id : Nat} (hid : id ∈ g.newIds g₁) : id ∈ g.newIds g₂ := by
  obtain ⟨ks, hks⟩ := h
  obtain ⟨ws, hws⟩ := h'
  unfold newIds
  rw [← hks, ← hws, List.drop_append, List.drop_append]
  rcases List.mem_append.mp hid with hid | hid
  · exact List.mem_append_left _ (List.mem_append_left _ hid)
  · exact List.mem_append_right _ (List.mem_append_left _ hid)

theorem mem_newIds_of_later (h : g.kernelIds <+: g₁.kernelIds) (h' : g.winsysIds <+: g₁.winsysIds)
    {id : Nat} (hid : id ∈ g₁.newIds g₂) : id ∈ g.newIds g₂ := by
  rcases List.mem_append.mp hid with hid | hid
  · exact List.mem_append_left _
      ((List.drop_sublist_drop_left _ h.length_le).subset hid)
  · exact List.mem_append_right _
      ((List.drop_sublist_drop_left _ h'.length_le).subset hid)

theorem Draws.trans (h₁ : Draws g g₁) (h₂ : Draws g₁ g₂) : Draws g g₂ where
  kernel := h₁.kernel.trans h₂.kernel
  winsys := h₁.winsys.trans h₂.winsys
  brings := (h₁.brings.mono fun _ => newIds_mono h₂.kernel h₂.winsys).trans
    (h₂.brings.mono fun _ => mem_newIds_of_later h₁.kernel h₁.winsys)

/-- Nothing is drawn, and nothing brought in. -/
theorem SameIds.draws (h : SameIds g g₁) (hb : BringsIn (fun _ => False) g g₁) : Draws g g₁ where
  kernel := h.kernel ▸ List.prefix_rfl
  winsys := h.winsys ▸ List.prefix_rfl
  brings := hb.mono fun _ => False.elim

theorem draws_drawResourceId (g : Gpu) : Draws g g.drawResourceId where
  kernel := List.prefix_append _ _
  winsys := List.prefix_rfl
  brings := bringsIn_of_eq rfl rfl

theorem draws_allocateUserResourceId (g : Gpu) : Draws g g.allocateUserResourceId.2 where
  kernel := List.prefix_rfl
  winsys := List.prefix_append _ _
  brings := bringsIn_of_eq rfl rfl

theorem mem_newIds_drawResourceId (g : Gpu) :
    g.drawResourceId.nextResourceId ∈ g.newIds g.drawResourceId := by
  refine List.mem_append_left _ ?_
  show _ ∈ (g.kernelIds ++ [inc32 g.nextResourceId]).drop g.kernelIds.length
  rw [List.drop_left]
  exact List.mem_singleton_self _

/-- A call after a draw that brings in nothing but the id drawn. -/
theorem draws_then (id : Nat) (hdraw : Draws g g₁) (hid : id ∈ g.newIds g₁) (hs : SameIds g₁ g₂)
    (hb : BringsIn (fun k => k = id) g₁ g₂) : Draws g g₂ where
  kernel := by
    rw [hs.kernel]
    exact hdraw.kernel
  winsys := by
    rw [hs.winsys]
    exact hdraw.winsys
  brings := by
    have hkeep : ∀ k, k ∈ g.newIds g₁ → k ∈ g.newIds g₂ := by
      intro k hk
      unfold newIds
      rw [hs.kernel, hs.winsys]
      exact hk
    refine (hdraw.brings.mono hkeep).trans (hb.mono ?_)
    rintro k rfl
    exact hkeep k hid

/-- An id is drawn for a resource that is then created. -/
theorem draws_create2D (e : Env) (g : Gpu) (format width height : Nat)
    (backing : Option MemoryDescriptor) :
    Draws g (g.drawResourceId.createResource2D e g.drawResourceId.nextResourceId format width
      height backing).2 :=
  draws_then _ (draws_drawResourceId g) (mem_newIds_drawResourceId g) (sameIds_createResource2D ..)
    (bringsIn_createResource2D ..)

theorem draws_create3D (e : Env) (g : Gpu) (target format bind width height depth : Nat) :
    Draws g (g.drawResourceId.createResource3D e g.drawResourceId.nextResourceId target format bind
      width height depth).2 :=
  draws_then _ (draws_drawResourceId g) (mem_newIds_drawResourceId g) (sameIds_createResource3D ..)
    (bringsIn_createResource3D ..)

theorem draws_send {cmd : HostCmd} (e : Env) (g : Gpu) (h : cmd.creates = none) :
    Draws g (g.submitCommand e cmd).2 :=
  (sameIds_submitCommand e g cmd).draws (bringsIn_send e g h)

theorem draws_refl (g : Gpu) : Draws g g := SameIds.draws ⟨rfl, rfl, rfl, rfl⟩ (.refl _ g)

theorem draws_setupScanout (e : Env) (g : Gpu) (scanout width height : Nat) :
    Draws g (g.setupScanout e scanout width height).2 := by
  unfold setupScanout
  split
  · exact draws_refl g
  dsimp only
  split
  · exact draws_create2D ..
  · exact (draws_create2D ..).trans (draws_send e _ rfl)

theorem draws_setupDisplayResource (e : Env) (g : Gpu) (width height : Nat) :
    Draws g (g.setupDisplayResource e width height).2 := by
  unfold setupDisplayResource
  split
  · exact draws_refl g
  dsimp only
  have hcreate := draws_create2D e g formatB8G8R8A8 width height none
  split
  · exact hcreate
  have hstore := hcreate.trans ((sameIds_setDisplayResource _ g.drawResourceId.nextResourceId).draws
    (bringsIn_of_eq rfl rfl))
  split
  · exact hstore.trans (draws_create2D ..)
  · exact hstore

theorem draws_mapGuestMemory (e : Env) (g : Gpu) (memory : Option MemoryDescriptor) :
    Draws g (g.mapGuestMemory e memory).2 := by
  unfold mapGuestMemory
  cases memory with
  | none => exact draws_refl g
  | some d =>
      dsimp only
      split
      · exact draws_refl g
      split
      · exact draws_refl g
      split
      · exact draws_refl g
      have hcreates :
          (HostCmd.resourceAttachBacking g.drawResourceId.nextResourceId .empty).creates =
            none := rfl
      have hsend := (draws_drawResourceId g).trans (draws_send e g.drawResourceId hcreates)
      split
      · exact hsend
      split
      · exact hsend
      split
      · -- the id is written into a slot
        exact draws_then _ hsend (mem_newIds_drawResourceId g) ⟨rfl, rfl, rfl, rfl⟩
          (bringsIn_put _ _ _ rfl)
      · exact hsend

theorem draws_initializeWebGLAcceleration (e : Env) (g : Gpu) :
    Draws g (g.initializeWebGLAcceleration e) := by
  unfold initializeWebGLAcceleration
  split
  · exact draws_refl g
  split
  · exact draws_refl g
  dsimp only
  have hctx : Draws g (g.createRenderContext e).2 := by
    refine (sameIds_createRenderContext e g).draws ?_
    unfold createRenderContext
    split
    · exact .refl _ g
    · have hdraw : BringsIn (fun _ => False) g { g with nextContextId := inc32 g.nextContextId } :=
        bringsIn_of_eq rfl rfl
      exact hdraw.trans (bringsIn_send e _ rfl)
  split
  · exact hctx
  · exact (hctx.trans (draws_create3D ..)).trans (draws_create3D ..)

theorem draws_createResource3DEx (e : Env) (g : Gpu) (ctx : Nat) (texture : Texture) :
    Draws g (g.createResource3DEx e ctx texture).2 := by
  unfold createResource3DEx
  refine draws_then g.nextUserResourceId (draws_allocateUserResourceId g) ?_
    (sameIds_submitCommand ..) ?_
  · refine List.mem_append_right _ ?_
    show _ ∈ (g.winsysIds ++ [g.nextUserResourceId]).drop g.winsysIds.length
    rw [List.drop_left]
    exact List.mem_singleton_self _
  · exact (bringsIn_submitCommand ..).mono fun k hk => (Option.some.inj hk).symm

/-- Whatever a call brings in, it has drawn. -/
theorem draws_run (e : Env) (g : Gpu) (c : IdCall) : Draws g (c.run e g) := by
  cases c with
  | allocateResource3D target format width height depth => exact draws_create3D ..
  | setupScanout scanout width height => exact draws_setupScanout ..
  | setupDisplayResource width height => exact draws_setupDisplayResource ..
  | mapGuestMemory memory => exact draws_mapGuestMemory ..
  | initializeWebGLAcceleration => exact draws_initializeWebGLAcceleration e g
  | createResource3DEx ctx texture => exact draws_createResource3DEx ..

/-- The ids a call is about to draw. -/
def IdCall.ids (e : Env) (g : Gpu) (c : IdCall) : List Nat :=
  Counter.handed u32 (g.nextResourceId + 1) (c.kernelDraws e g) ++
    Counter.handed u32 g.nextUserResourceId c.winsysDraws

theorem newIds_run {e : Env} {g : Gpu} {c : IdCall} (h : HandedOut g) :
    g.newIds (c.run e g) = c.ids e g := by
  have hhands := hands_run e g c
  have hout := hhands.keeps h
  have hkernel : (c.run e g).kernelIds.drop g.kernelIds.length =
      Counter.handed u32 (g.nextResourceId + 1) (c.kernelDraws e g) := by
    rw [hout.kernel, hhands.kernel, Counter.drop_handed, h.kernel_next]
    apply Counter.handed_congr
    rw [Nat.mod_add_mod]
    congr 1
    omega
  have hwinsys : (c.run e g).winsysIds.drop g.winsysIds.length =
      Counter.handed u32 g.nextUserResourceId c.winsysDraws := by
    rw [hout.winsys, hhands.winsys, Counter.drop_handed, h.winsys_next]
    apply Counter.handed_congr
    rw [Nat.mod_mod]
  rw [newIds, hkernel, hwinsys, IdCall.ids]

end
end Gpu
end VMQemuVGA
