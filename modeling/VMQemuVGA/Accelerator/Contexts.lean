import VMQemuVGA.Accelerator.Clients

/-! # Contexts of the accelerator and contexts of the host

Every `AccelContext` stands for the context that `createRenderContext` made for
it on the host. This module says what breaks the correspondence: destroying a
context, since `destroyRenderContext` looks for its id in a table that nothing
fills, and ending a render pass, which counts the id up. -/

namespace VMQemuVGA

/-! ## One to one -/

/-- Pairs of the id a context was created with and the id it now carries,
against the contexts the host has. -/
structure Matches (ids : List (Nat × Nat)) (host : List Nat) : Prop where
  /-- every context carries the id it was created with -/
  keeps : ∀ x ∈ ids, x.2 = x.1
  /-- no two carry the same -/
  distinct : (ids.map Prod.snd).Nodup
  /-- the host has just these -/
  on_host : ∀ id, id ∈ host ↔ id ∈ ids.map Prod.fst

namespace Matches
variable {ids ids' : List (Nat × Nat)} {host : List Nat}

theorem map_snd (h : Matches ids host) : ids.map Prod.snd = ids.map Prod.fst :=
  List.map_congr_left h.keeps

theorem of_perm (hp : ids.Perm ids') (h : Matches ids host) : Matches ids' host where
  keeps := fun x hx => h.keeps x (hp.mem_iff.mpr hx)
  distinct := (hp.map Prod.snd).nodup_iff.mp h.distinct
  on_host := fun id => (h.on_host id).trans (hp.map Prod.fst).mem_iff

theorem perm_iff (hp : ids.Perm ids') : Matches ids host ↔ Matches ids' host :=
  ⟨of_perm hp, of_perm hp.symm⟩

/-- A new context on both sides. -/
theorem cons_insert_iff (h : Matches ids host) (id : Nat) :
    Matches ((id, id) :: ids) (host.insert id) ↔ id ∉ ids.map Prod.fst := by
  constructor
  · intro hnew
    have hdistinct : ((id :: ids.map Prod.snd) : List Nat).Nodup := hnew.distinct
    rw [h.map_snd] at hdistinct
    exact (List.nodup_cons.mp hdistinct).1
  · intro hid
    refine ⟨fun x hx => ?_, ?_, fun k => ?_⟩
    · rcases List.mem_cons.mp hx with rfl | hx
      · rfl
      · exact h.keeps x hx
    · rw [List.map_cons, h.map_snd, List.nodup_cons, ← h.map_snd]
      exact ⟨h.map_snd ▸ hid, h.distinct⟩
    · rw [List.mem_insert_iff, List.map_cons, List.mem_cons, h.on_host]

/-- A new context on the host only. -/
theorem insert_iff (h : Matches ids host) (id : Nat) :
    Matches ids (host.insert id) ↔ id ∈ ids.map Prod.fst := by
  constructor
  · intro hnew
    exact (hnew.on_host id).mp List.mem_insert_self
  · intro hid
    refine ⟨h.keeps, h.distinct, fun k => ?_⟩
    rw [List.mem_insert_iff, h.on_host]
    refine ⟨?_, Or.inr⟩
    rintro (rfl | hk)
    · exact hid
    · exact hk

/-- A context that goes on one side only. -/
theorem not_tail {x : Nat × Nat} (h : Matches (x :: ids) host) : ¬ Matches ids host := by
  intro htail
  have hx : x.1 ∈ ids.map Prod.fst :=
    (htail.on_host x.1).mp ((h.on_host x.1).mpr List.mem_cons_self)
  have hdistinct : ((x.2 :: ids.map Prod.snd) : List Nat).Nodup := h.distinct
  rw [h.keeps x List.mem_cons_self, htail.map_snd] at hdistinct
  exact (List.nodup_cons.mp hdistinct).1 hx

end Matches

/-! ## Commands that leave the contexts alone -/

/-- No context is created or destroyed, and commands are submitted under ids in
`p` only. -/
def HostCmd.Within (p : Nat → Prop) : HostCmd → Prop
  | .ctxCreate _ => False
  | .ctxDestroy _ => False
  | .submit3D ctx _ => p ctx
  | _ => True

theorem HostCmd.Within.imp {p q : Nat → Prop} {cmd : HostCmd} (hpq : ∀ c, p c → q c)
    (h : cmd.Within p) : cmd.Within q := by
  cases cmd with
  | submit3D ctx size => exact hpq ctx h
  | _ => exact h

theorem Host.contexts_exec_of_within {p : Nat → Prop} {cmd : HostCmd} (h : cmd.Within p)
    (host : Host) : (host.exec cmd).contexts = host.contexts := by
  cases cmd with
  | ctxCreate ctx => exact False.elim h
  | ctxDestroy ctx => exact False.elim h
  | resourceCreate2D id format width height => exact contexts_addResource host id
  | resourceCreate3D ctx id texture => exact contexts_addResource host id
  | _ => rfl

/-- What `g` published on the way to `g'` was all `Within p`. -/
structure Serves (p : Nat → Prop) (g g' : Gpu) : Prop where
  table : g'.contexts = g.contexts
  supports3D : g'.supports3D = g.supports3D
  host : g'.link.host.contexts = g.link.host.contexts
  pending : ∀ cmd ∈ g'.link.pending, cmd ∈ g.link.pending ∨ cmd.Within p
  sent : ∃ l, g'.link.sent = g.link.sent ++ l ∧ ∀ x ∈ l, x.1.Within p

namespace Serves
variable {p : Nat → Prop} {g g' g'' : Gpu}

/-- Nothing was published. -/
theorem of_link (ht : g'.contexts = g.contexts) (hs : g'.supports3D = g.supports3D)
    (hl : g'.link = g.link) : Serves p g g' where
  table := ht
  supports3D := hs
  host := by rw [hl]
  pending := fun cmd hcmd => Or.inl (hl ▸ hcmd)
  sent := ⟨[], by rw [hl, List.append_nil], fun x hx => by cases hx⟩

theorem refl (g : Gpu) : Serves p g g := of_link rfl rfl rfl

theorem trans (h : Serves p g g') (h' : Serves p g' g'') : Serves p g g'' where
  table := h'.table.trans h.table
  supports3D := h'.supports3D.trans h.supports3D
  host := h'.host.trans h.host
  pending := fun cmd hcmd => (h'.pending cmd hcmd).elim (h.pending cmd) Or.inr
  sent := by
    obtain ⟨l, hl, hp⟩ := h.sent
    obtain ⟨l', hl', hp'⟩ := h'.sent
    refine ⟨l ++ l', by rw [hl', hl, List.append_assoc], fun x hx => ?_⟩
    rcases List.mem_append.mp hx with hx | hx
    · exact hp x hx
    · exact hp' x hx

theorem afterSend (cmd : HostCmd) (hcmd : cmd.Within p) (g : Gpu) (a : Answer) :
    Serves p g (g.afterSend cmd a) where
  table := rfl
  supports3D := rfl
  host := by
    cases a with
    | reply type =>
        show (if respIsOk type then _ else _ : Host).contexts = _
        split
        · exact Host.contexts_exec_of_within hcmd g.link.host
        · rfl
    | timeout => rfl
    | refused why => rfl
  pending := fun c hc => by
    rcases Link.mem_pending_send hc with hc | ⟨rfl, -⟩
    · exact Or.inl hc
    · exact Or.inr hcmd
  sent := by
    cases a with
    | refused why => exact ⟨[], (List.append_nil _).symm, fun x hx => by cases hx⟩
    | _ => exact ⟨[(cmd, _)], rfl, fun x hx => by
        rw [List.mem_singleton.mp hx]
        exact hcmd⟩

end Serves

theorem serves_executeCommands {p : Nat → Prop} (e : Env) (g : Gpu) {ctx : Nat} (hp : p ctx)
    (commands : Option Nat) : Serves p g (g.executeCommands e ctx commands).2 := by
  unfold Gpu.executeCommands
  split
  · exact Serves.refl g
  cases commands with
  | none => exact Serves.refl g
  | some size =>
      dsimp only
      split
      · exact Serves.refl g
      split
      · exact Serves.refl g
      split
      · exact Serves.refl g
      · exact Serves.afterSend (.submit3D ctx size) hp g _

theorem serves_updateDisplay {p : Nat → Prop} (e : Env) (g : Gpu)
    (scanout id width height : Nat) :
    Serves p g (g.updateDisplay e scanout id width height).2 := by
  unfold Gpu.updateDisplay
  split
  · exact Serves.refl g
  split
  · exact Serves.refl g
  split
  · exact Serves.refl g
  have htransfer := Serves.afterSend (p := p) (.transferToHost2D id) trivial g
    (e.ask (.transferToHost2D id))
  dsimp only [Gpu.submitCommand]
  split
  · exact htransfer
  · exact htransfer.trans (Serves.afterSend (.resourceFlush id) trivial _ _)

theorem serves_deallocateResource {p : Nat → Prop} (e : Env) (g : Gpu) (id : Nat) :
    Serves p g (g.deallocateResource e id).2 := by
  have hunref := Serves.afterSend (p := p) (.resourceUnref id) trivial g
    (e.ask (.resourceUnref id))
  unfold Gpu.deallocateResource
  dsimp only [Gpu.submitCommand]
  split
  · exact hunref.trans (Serves.of_link rfl rfl rfl)
  · exact hunref

theorem serves_createResource3D {p : Nat → Prop} (e : Env) (g : Gpu)
    (id target format bind width height depth : Nat) :
    Serves p g (g.createResource3D e id target format bind width height depth).2 := by
  unfold Gpu.createResource3D
  split
  · exact Serves.refl g
  split
  · exact Serves.refl g
  have hcreate := Serves.afterSend (p := p)
    (Gpu.create3DCmd id target format bind width height depth) trivial g
    (e.ask (Gpu.create3DCmd id target format bind width height depth))
  dsimp only [Gpu.submitCommand]
  split
  · split
    · exact hcreate
    · exact hcreate.trans (Serves.of_link rfl rfl rfl)
  · exact hcreate

theorem serves_allocateResource3D {p : Nat → Prop} (e : Env) (g : Gpu)
    (target format width height depth : Nat) :
    Serves p g (g.allocateResource3D e target format width height depth).2 := by
  have hdraw : Serves p g g.drawResourceId := Serves.of_link rfl rfl rfl
  exact hdraw.trans (serves_createResource3D ..)

/-! ## Calls that leave the contexts alone -/

/-- `f` touches neither of the two ids. -/
def AccelContext.KeepsIds (f : AccelContext → AccelContext) : Prop :=
  ∀ c, ((f c).created, (f c).gpuContextId) = (c.created, c.gpuContextId)

namespace AccelContext

theorem keepsIds_bindSurface (e : AccelEnv) (id : Nat) : KeepsIds (bindSurface e id) := by
  intro c
  unfold bindSurface
  split
  · rfl
  split
  · split
    · rfl
    · rfl
  · rfl

theorem keepsIds_unbindSurface (id : Nat) : KeepsIds (unbindSurface id) := by
  intro c
  unfold unbindSurface
  split
  · rfl
  · rfl

theorem keepsIds_keepRenderState : KeepsIds keepRenderState := fun _ => rfl

end AccelContext

namespace Accelerator

/-- Of every context, the id it was created with and the id it carries. -/
def ids (s : Accelerator) : List (Nat × Nat) :=
  s.contexts.entries.map fun c => (c.created, c.gpuContextId)

/-- The contexts are those of `s` and what was published is `Within p`. -/
structure Quiet (p : Nat → Prop) (s t : Accelerator) : Prop where
  ids : t.ids = s.ids
  serves : Serves p s.gpu t.gpu

namespace Quiet
variable {p : Nat → Prop} {s t u : Accelerator}

theorem of_eq (hc : t.contexts = s.contexts) (hg : t.gpu = s.gpu) : Quiet p s t where
  ids := by rw [Accelerator.ids, hc, Accelerator.ids]
  serves := by
    rw [hg]
    exact Serves.refl s.gpu

theorem refl (s : Accelerator) : Quiet p s s := of_eq rfl rfl

theorem trans (h : Quiet p s t) (h' : Quiet p t u) : Quiet p s u :=
  ⟨h'.ids.trans h.ids, h.serves.trans h'.serves⟩

theorem withGpu {g : Gpu} (h : Serves p s.gpu g) : Quiet p s (s.withGpu g) := ⟨rfl, h⟩

theorem modifyContext {f : AccelContext → AccelContext} (hf : AccelContext.KeepsIds f)
    (s : Accelerator) (ctx : Nat) : Quiet p s (s.modifyContext ctx f) :=
  ⟨Pool.map_modify s.contexts hf, Serves.refl s.gpu⟩

end Quiet

theorem mem_ids_of_find {s : Accelerator} {ctx : Nat} {c : AccelContext}
    (h : s.findContext ctx = some c) : (c.created, c.gpuContextId) ∈ s.ids :=
  List.mem_map_of_mem (Pool.mem_of_find? h)

theorem quiet_enterSurface {p : Nat → Prop} {e : AccelEnv} {s t : Accelerator} {ctx : Nat}
    {x : AccelSurface} (h : s.enterSurface e ctx x = some t) : Quiet p s t := by
  unfold enterSurface at h
  rw [Option.map_eq_some_iff] at h
  obtain ⟨pool, -, rfl⟩ := h
  have hpool : Quiet p s { s with surfaces := pool } := Quiet.of_eq rfl rfl
  exact hpool.trans (Quiet.modifyContext (AccelContext.keepsIds_bindSurface e x.surfaceId) _ ctx)

theorem quiet_giveBack {p : Nat → Prop} (e : AccelEnv) (s : Accelerator) (resource : Nat) :
    Quiet p s (s.giveBack e resource) :=
  Quiet.withGpu (serves_deallocateResource e.toEnv s.gpu resource)

theorem quiet_backSurface {p : Nat → Prop} (e : AccelEnv) (s : Accelerator) (ctx resource : Nat)
    (info : SurfaceInfo) : Quiet p s (s.backSurface e ctx resource info).2 := by
  have hdraw : Quiet p s s.drawSurfaceId := Quiet.of_eq rfl rfl
  unfold backSurface
  split
  · exact quiet_giveBack e s resource
  dsimp only
  split
  · exact hdraw.trans (quiet_giveBack e s.drawSurfaceId resource)
  split
  · exact hdraw.trans (quiet_giveBack e s.drawSurfaceId resource)
  · next t ht => exact (hdraw.trans (quiet_enterSurface ht)).trans (Quiet.of_eq rfl rfl)

theorem quiet_create3DSurface {p : Nat → Prop} (e : AccelEnv) (s : Accelerator) (ctx : Nat)
    (info : SurfaceInfo) : Quiet p s (s.create3DSurface e ctx info).2 := by
  unfold create3DSurface
  split
  · exact Quiet.refl s
  have halloc : Quiet p s (s.withGpu (s.gpu.allocateResource3D e.toEnv resourceTarget2D info.format
    info.width info.height 1).2) := Quiet.withGpu (serves_allocateResource3D ..)
  dsimp only
  split
  · exact halloc
  · exact halloc.trans (quiet_backSurface ..)

theorem quiet_removeSurface {p : Nat → Prop} (s : Accelerator) (ctx surface : Nat) :
    Quiet p s ((s.modifyContext ctx (AccelContext.unbindSurface surface)).removeSurface
      surface) :=
  (Quiet.modifyContext (AccelContext.keepsIds_unbindSurface surface) s ctx).trans
    (Quiet.of_eq rfl rfl)

theorem quiet_destroy3DSurface {p : Nat → Prop} (s : Accelerator) (ctx surface : Nat) :
    Quiet p s (s.destroy3DSurface ctx surface).2 := by
  unfold destroy3DSurface
  split
  · exact quiet_removeSurface s ctx surface
  · exact Quiet.refl s

theorem quiet_createSurfaceInternal {p : Nat → Prop} (e : AccelEnv) (s : Accelerator) (ctx : Nat)
    (info : SurfaceInfo) : Quiet p s (s.createSurfaceInternal e ctx info).2 := by
  have hdraw : Quiet p s s.drawSurfaceId := Quiet.of_eq rfl rfl
  unfold createSurfaceInternal
  split
  · exact Quiet.refl s
  split
  · exact Quiet.refl s
  dsimp only
  split
  · exact hdraw
  split
  · exact hdraw
  · next t ht => exact hdraw.trans (quiet_enterSurface ht)

theorem quiet_destroySurfaceInternal {p : Nat → Prop} (s : Accelerator) (ctx surface : Nat) :
    Quiet p s (s.destroySurfaceInternal ctx surface).2 := by
  unfold destroySurfaceInternal
  split
  · exact Quiet.refl s
  · exact quiet_removeSurface s ctx surface

theorem quiet_addDepthSurface {p : Nat → Prop} (e : AccelEnv) (s : Accelerator) (ctx color : Nat)
    (info : SurfaceInfo) : Quiet p s (s.addDepthSurface e ctx color info).2 := by
  have hdepth : Quiet p s (s.createSurfaceInternal e ctx info).2 :=
    quiet_createSurfaceInternal e s ctx info
  unfold addDepthSurface
  split
  · exact Quiet.refl s
  dsimp only
  split
  · exact hdepth
  split
  · exact hdepth
  · exact hdepth.trans (quiet_destroySurfaceInternal ..)

theorem quiet_createFramebuffer {p : Nat → Prop} (e e' : AccelEnv) (s : Accelerator)
    (ctx width height colorFormat depthFormat : Nat) :
    Quiet p s (s.createFramebuffer e e' ctx width height colorFormat depthFormat).2 := by
  have hcolor : Quiet p s (s.createSurfaceInternal e ctx ⟨colorFormat, width, height, 1⟩).2 :=
    quiet_createSurfaceInternal ..
  unfold createFramebuffer
  split
  · exact Quiet.refl s
  split
  · exact Quiet.refl s
  split
  · exact quiet_addDepthSurface ..
  dsimp only
  split
  · exact hcolor
  · exact hcolor.trans (quiet_addDepthSurface ..)

/-! ### Collection -/

theorem serves_release {p : Nat → Prop} (e : AccelEnv) (w : Collector) (x : AccelSurface) :
    Serves p w.gpu (w.release e x).gpu := by
  show Serves p w.gpu (if x.gpuResourceId ≠ 0 then _ else _)
  split
  · exact serves_deallocateResource ..
  · exact Serves.refl w.gpu

theorem serves_visitLarge {p : Nat → Prop} (e : AccelEnv) (w : Collector) (x : AccelSurface) :
    Serves p w.gpu (w.visitLarge e x).2.gpu := by
  unfold Collector.visitLarge
  split
  · exact Serves.refl w.gpu
  split
  · exact serves_release e w x
  · exact Serves.refl w.gpu

theorem serves_visitMedium {p : Nat → Prop} (e : AccelEnv) (w : Collector) (x : AccelSurface) :
    Serves p w.gpu (w.visitMedium e x).2.gpu := by
  unfold Collector.visitMedium
  split
  · exact Serves.refl w.gpu
  split
  · dsimp only
    split
    · exact serves_release e { w with generation := inc32 w.generation } x
    · exact Serves.refl w.gpu
  · exact Serves.refl w.gpu

theorem serves_visitLost {p : Nat → Prop} (e : AccelEnv) (lost : AccelSurface → Bool)
    (w : Collector) (x : AccelSurface) : Serves p w.gpu (w.visitLost e lost x).2.gpu := by
  unfold Collector.visitLost
  split
  · exact serves_release e w x
  · exact Serves.refl w.gpu

/-- Sweeping the pool publishes what the visits publish. -/
theorem serves_sweep {p : Nat → Prop} {visit : Collector → AccelSurface → Bool × Collector}
    (h : ∀ w x, Serves p w.gpu (visit w x).2.gpu) (pool : Pool AccelSurface) (w : Collector) :
    Serves p w.gpu (pool.sweep visit w).1.gpu :=
  Pool.sweep_rel (R := fun w w' => Serves p w.gpu w'.gpu) (fun w => Serves.refl w.gpu)
    (fun _ _ _ => Serves.trans) h pool w

theorem serves_relieve {p : Nat → Prop} (e : AccelEnv) (s : Accelerator) (w : Collector) :
    Serves p w.gpu (s.relieve e w).1.gpu := by
  unfold relieve
  split
  · exact (serves_sweep (serves_visitLarge e) s.surfaces w).trans
      (serves_sweep (serves_visitMedium e) _ _)
  · exact Serves.refl w.gpu

theorem quiet_garbageCollectTextures {p : Nat → Prop} (e : AccelEnv) (s : Accelerator) :
    Quiet p s (s.garbageCollectTextures e).2 where
  ids := by
    unfold garbageCollectTextures ids
    dsimp only
    rw [Pool.entries_map, List.map_map]
    rfl
  serves := (serves_relieve e s ⟨s.gpu, s.memoryAllocated, s.gcGeneration, 0⟩).trans
    (serves_sweep (serves_visitLost e s.lost) _ _)

/-! ### Render calls

They publish commands, all under the id their context carries. -/

theorem quiet_submit3DCommands {p : Nat → Prop} (e : AccelEnv) (s : Accelerator) (ctx : Nat)
    (commands : Option Nat) (hp : ∀ c, s.findContext ctx = some c → p c.gpuContextId) :
    Quiet p s (s.submit3DCommands e ctx commands).2 := by
  unfold submit3DCommands
  split
  · exact Quiet.refl s
  split
  · exact Quiet.refl s
  · next c hc => exact Quiet.withGpu (serves_executeCommands e.toEnv s.gpu (hp c hc) commands)

theorem quiet_beginRenderPass {p : Nat → Prop} (e : AccelEnv) (s : Accelerator) (ctx : Nat)
    (hp : ∀ c, s.findContext ctx = some c → p c.gpuContextId) :
    Quiet p s (s.beginRenderPass e ctx).2 := by
  unfold beginRenderPass
  split
  · exact Quiet.refl s
  next c hc =>
  split
  · exact Quiet.refl s
  have hexec : Quiet p s (s.withGpu (s.gpu.executeCommands e.toEnv c.gpuContextId (some 512)).2) :=
    Quiet.withGpu (serves_executeCommands e.toEnv s.gpu (hp c hc) _)
  dsimp only
  split
  · exact hexec.trans (Quiet.modifyContext AccelContext.keepsIds_keepRenderState _ ctx)
  · exact hexec

theorem quiet_returnCommandBuffer {p : Nat → Prop} (e : AccelEnv) (s : Accelerator) (ctx : Nat)
    (hp : ∀ c, s.findContext ctx = some c → p c.gpuContextId) :
    Quiet p s (s.returnCommandBuffer e ctx) := by
  unfold returnCommandBuffer
  split
  · exact Quiet.refl s
  next c hc =>
  split
  · exact Quiet.refl s
  · exact Quiet.withGpu (serves_executeCommands e.toEnv s.gpu (hp c hc) _)

theorem serves_presentOnDisplay {p : Nat → Prop} (e : AccelEnv) (s : Accelerator)
    (x : AccelSurface) : Serves p s.gpu (s.presentOnDisplay e x).2 := by
  unfold presentOnDisplay
  split
  · exact Serves.refl s.gpu
  · exact serves_updateDisplay ..

theorem serves_presentByCommands {p : Nat → Prop} (e : AccelEnv) (g : Gpu) {c : AccelContext}
    (hp : p c.gpuContextId) (ret : IOReturn) : Serves p g (presentByCommands e g c ret).2 := by
  unfold presentByCommands
  split
  · exact Serves.refl g
  · exact serves_executeCommands e.toEnv g hp _

theorem quiet_present3DSurface {p : Nat → Prop} (e : AccelEnv) (s : Accelerator)
    (ctx surface : Nat) (hp : ∀ c, s.findContext ctx = some c → p c.gpuContextId) :
    Quiet p s (s.present3DSurface e ctx surface).2 := by
  unfold present3DSurface
  split
  swap
  · exact Quiet.refl s
  next c x hc _ =>
  have hshown : Serves p s.gpu (s.presentOnDisplay e x).2 := serves_presentOnDisplay e s x
  dsimp only
  split
  · exact Quiet.withGpu hshown
  generalize (if x.backingMemory.isSome = true then _ else _ : IOReturn) = copied
  have hsent := hshown.trans
    (serves_presentByCommands e (s.presentOnDisplay e x).2 (hp c hc) copied)
  split
  · exact Quiet.withGpu hsent
  · exact (Quiet.withGpu hsent).trans (Quiet.of_eq rfl rfl)

/-! ### The end of a render pass -/

/-- `endRenderPass` gets as far as counting up the id of `c`. -/
def fences (e : AccelEnv) (s : Accelerator) (c : AccelContext) : Prop :=
  s.gpu.supports3D = true ∧ c.gpuContextId ≠ 0 ∧ e.accelAlloc .commandBuffer = true

theorem finalizeRendering_of_not_fences {e : AccelEnv} {s : Accelerator} {c : AccelContext}
    (h : ¬ s.fences e c) (ctx : Nat) : (s.finalizeRendering e ctx c).2 = s := by
  unfold finalizeRendering
  split
  · rfl
  next h3 =>
  split
  · rfl
  next halloc =>
  rw [not_or, Bool.not_eq_false] at h3
  rw [Bool.not_eq_false] at halloc
  exact absurd ⟨h3.1, h3.2, halloc⟩ h

theorem finalizeRendering_of_fences {e : AccelEnv} {s : Accelerator} {c : AccelContext}
    (h : s.fences e c) (ctx : Nat) : (s.finalizeRendering e ctx c).2 =
      (s.withGpu (s.gpu.executeCommands e.toEnv c.bumpGpuContextId.gpuContextId
        (some 256)).2).modifyContext ctx AccelContext.bumpGpuContextId := by
  obtain ⟨h3, hid, halloc⟩ := h
  unfold finalizeRendering
  rw [if_neg (by simp [h3, hid]), if_neg (by simp [halloc])]

/-- A collection does not change which context an id finds, nor its ids. -/
theorem findContext_garbageCollectTextures (e : AccelEnv) (s : Accelerator) (ctx : Nat) :
    (s.garbageCollectTextures e).2.findContext ctx =
      (s.findContext ctx).map (AccelContext.keepBound (s.garbageCollectTextures e).2.surfaces) := by
  show ((s.contexts.map (AccelContext.keepBound _)).entries.find? _) = _
  rw [Pool.entries_map, List.find?_map]
  rfl

/-- Past the device part, the pass ends without touching an id. -/
theorem quiet_endRenderPass {p : Nat → Prop} (e e' : AccelEnv) (s : Accelerator) {ctx : Nat}
    {c : AccelContext} (hc : s.findContext ctx = some c)
    (hp : ∀ c', (s.finalizeRendering e ctx c).2.findContext ctx = some c' → p c'.gpuContextId) :
    Quiet p (s.finalizeRendering e ctx c).2 (s.endRenderPass e e' ctx).2 := by
  unfold endRenderPass
  rw [hc]
  dsimp only
  generalize s.finalizeRendering e ctx c = r at hp ⊢
  generalize (if r.1 ≠ IOReturn.success then _ else _ : IOReturn) = result
  split
  · exact Quiet.refl r.2
  have hreset : Quiet p r.2 (r.2.resetTextureUnits e) := by
    unfold resetTextureUnits
    split
    · exact Quiet.refl r.2
    · exact Quiet.of_eq rfl rfl
  have hctx : (r.2.resetTextureUnits e).findContext ctx = r.2.findContext ctx := by
    unfold resetTextureUnits
    split
    · rfl
    · rfl
  refine (hreset.trans (quiet_garbageCollectTextures e' _)).trans
    (quiet_returnCommandBuffer e' _ ctx fun c' hc' => ?_)
  rw [findContext_garbageCollectTextures, hctx, Option.map_eq_some_iff] at hc'
  obtain ⟨c₀, hc₀, rfl⟩ := hc'
  exact hp c₀ hc₀

/-- The id is counted up, and stays so. -/
theorem mem_ids_endRenderPass {e : AccelEnv} {s : Accelerator} {ctx : Nat} {c : AccelContext}
    (hc : s.findContext ctx = some c) (h : s.fences e c) (e' : AccelEnv) :
    (c.created, inc32 c.gpuContextId) ∈ (s.endRenderPass e e' ctx).2.ids := by
  have hquiet := quiet_endRenderPass (p := fun _ => True) e e' s hc fun _ _ => trivial
  rw [hquiet.ids, finalizeRendering_of_fences h]
  exact List.mem_map_of_mem (f := fun c : AccelContext => (c.created, c.gpuContextId))
    (Pool.mem_modify_of_find? hc)

end Accelerator
/-! ## The host -/

/-- A host that accepts `CTX_CREATE` and `CTX_DESTROY`, whatever it makes of
other commands. -/
def Env.contextsAccepted (e : Env) : Env :=
  { e with ask := fun cmd =>
      match cmd with
      | .ctxCreate _ => .reply respOkNodata
      | .ctxDestroy _ => .reply respOkNodata
      | cmd => e.ask cmd }

/-- A device whose host has taken in the next context. -/
def Gpu.withContext (g : Gpu) : Gpu :=
  { g with nextContextId := inc32 g.nextContextId }.afterSend
    (.ctxCreate (inc32 g.nextContextId)) (.reply respOkNodata)

/-- What counts of such a host for the runs below. -/
def AccelEnv.TakesContexts (e : AccelEnv) : Prop :=
  ∀ ctx, e.ask (.ctxCreate ctx) = .reply respOkNodata

theorem takesContexts_mapEnv (e : AccelEnv) : (e.mapEnv Env.contextsAccepted).TakesContexts :=
  fun _ => rfl

theorem createRenderContext_of_takesContexts {e : AccelEnv} (he : e.TakesContexts) {g : Gpu}
    (h3 : g.supports3D = true) : g.createRenderContext e.toEnv = (.success, g.withContext) := by
  unfold Gpu.createRenderContext
  rw [if_neg (by simp [h3])]
  dsimp only [Gpu.submitCommand]
  rw [he]
  rfl

/-- With an empty table no context is ever destroyed. -/
theorem destroyRenderContext_of_empty (e : Env) {g : Gpu} (h : g.contexts = []) (id : Nat) :
    (g.destroyRenderContext e id).2 = g := by
  unfold Gpu.destroyRenderContext
  split
  · rfl
  · rw [if_pos (by rw [h]; exact List.not_mem_nil)]

namespace Accelerator

/-! ## The invariant of all calls -/

structure Sane (s : Accelerator) : Prop where
  /-- `m_contexts` is never filled -/
  table : s.gpu.contexts = []
  /-- a device without 3D gives out no contexts -/
  device : s.gpu.supports3D = false → s.ids = []
  pending : ∀ cmd ∈ s.gpu.link.pending, cmd.Within fun _ => True

theorem Sane.of_quiet {p : Nat → Prop} {s t : Accelerator} (h : s.Sane) (hq : Quiet p s t) :
    t.Sane where
  table := hq.serves.table.trans h.table
  device := fun h3 => hq.ids.trans (h.device (hq.serves.supports3D ▸ h3))
  pending := fun cmd hcmd => (hq.serves.pending cmd hcmd).elim (h.pending cmd)
    (HostCmd.Within.imp fun _ _ => trivial)

theorem Sane.supports3D {s : Accelerator} (h : s.Sane) {x : Nat × Nat} (hx : x ∈ s.ids) :
    s.gpu.supports3D = true := by
  rw [← Bool.not_eq_false]
  intro h3
  rw [h.device h3] at hx
  cases hx

/-! ### create3DContext -/

/-- The `AccelContext` of a new context can be allocated and entered. -/
def contextFits (e : AccelEnv) (s : Accelerator) : Bool :=
  e.accelAlloc .context && s.contexts.hasRoom (s.grownContexts e)

/-- What `create3DContext` comes to on a 3D device with an empty table. -/
structure Created (s t : Accelerator) (fits : Bool) : Prop where
  gpu : t.gpu = s.gpu.withContext
  ids : if fits = true then
      t.ids.Perm ((inc32 s.gpu.nextContextId, inc32 s.gpu.nextContextId) :: s.ids)
    else t.ids = s.ids

theorem create3DContext_unsupported (e : AccelEnv) {s : Accelerator}
    (h3 : s.gpu.supports3D = false) : (s.create3DContext e).2 = s := by
  unfold create3DContext Gpu.createRenderContext
  rw [if_pos h3]
  rfl

theorem created_create3DContext {e : AccelEnv} (he : e.TakesContexts) {s : Accelerator}
    (hs : s.Sane) (h3 : s.gpu.supports3D = true) :
    Created s (s.create3DContext e).2 (s.contextFits e) := by
  have htable : s.gpu.withContext.contexts = [] := hs.table
  unfold create3DContext contextFits
  rw [createRenderContext_of_takesContexts he h3]
  dsimp only
  rw [if_neg (not_not.mpr rfl), destroyRenderContext_of_empty _ htable]
  by_cases halloc : e.accelAlloc .context = false
  · rw [if_pos halloc, halloc]
    exact ⟨rfl, rfl⟩
  rw [if_neg halloc]
  rw [Bool.not_eq_false] at halloc
  rw [halloc, Bool.true_and]
  split
  · next hadd =>
    rw [Pool.add_eq_none.mp hadd]
    exact ⟨rfl, rfl⟩
  · next pool hadd =>
    have hroom : s.contexts.hasRoom (s.grownContexts e) = true := by
      rw [← Pool.isSome_add, hadd]
      rfl
    rw [hroom]
    exact ⟨rfl, (Pool.entries_add hadd).map _⟩

theorem Sane.create3DContext {e : AccelEnv} (he : e.TakesContexts) {s : Accelerator}
    (hs : s.Sane) : (s.create3DContext e).2.Sane := by
  by_cases h3 : s.gpu.supports3D = true
  swap
  · rw [create3DContext_unsupported e (by simpa using h3)]
    exact hs
  have hgpu := (created_create3DContext he hs h3).gpu
  refine ⟨?_, fun h => ?_, fun cmd hcmd => ?_⟩
  · rw [hgpu]
    exact hs.table
  · rw [hgpu] at h
    exact absurd (h3.symm.trans h) Bool.noConfusion
  · rw [hgpu] at hcmd
    exact hs.pending cmd hcmd

/-! ### destroy3DContext -/

theorem gpu_destroy3DContext (e : AccelEnv) {s : Accelerator} (hs : s.Sane) (ctx : Nat) :
    (s.destroy3DContext e ctx).2.gpu = s.gpu := by
  unfold destroy3DContext destroyContextInternal
  split
  · rfl
  · next c _ => exact destroyRenderContext_of_empty e.toEnv hs.table c.gpuContextId

theorem ids_destroy3DContext (e : AccelEnv) {s : Accelerator} {ctx : Nat} {c : AccelContext}
    (hc : s.findContext ctx = some c) :
    s.ids.Perm ((c.created, c.gpuContextId) :: (s.destroy3DContext e ctx).2.ids) := by
  unfold destroy3DContext destroyContextInternal
  rw [hc]
  exact (Pool.perm_remove hc).map _

theorem destroy3DContext_of_none (e : AccelEnv) {s : Accelerator} {ctx : Nat}
    (hc : s.findContext ctx = none) : (s.destroy3DContext e ctx).2 = s := by
  unfold destroy3DContext destroyContextInternal
  rw [hc]

theorem Sane.destroy3DContext (e : AccelEnv) {s : Accelerator} (hs : s.Sane) (ctx : Nat) :
    (s.destroy3DContext e ctx).2.Sane := by
  cases hc : s.findContext ctx with
  | none =>
      rw [destroy3DContext_of_none e hc]
      exact hs
  | some c =>
      have hgpu := gpu_destroy3DContext e hs ctx
      refine ⟨?_, fun h3 => ?_, ?_⟩
      · rw [hgpu]
        exact hs.table
      · rw [hgpu] at h3
        exact absurd (hs.supports3D (mem_ids_of_find hc)) (by rw [h3]; exact Bool.noConfusion)
      · rw [hgpu]
        exact hs.pending

/-! ### All calls -/

/-- The calls that neither make nor destroy a context nor count up an id. -/
theorem quiet_call {p : Nat → Prop} (e e' : AccelEnv) {s : Accelerator} {call : AccelCall}
    (hcreate : call ≠ .create3DContext) (hdestroy : ∀ ctx, call ≠ .destroy3DContext ctx)
    (hend : ∀ ctx c, call = .endRenderPass ctx → s.findContext ctx = some c → ¬ s.fences e c)
    (hp : ∀ ctx c, call.context? = some ctx → s.findContext ctx = some c → p c.gpuContextId) :
    Quiet p s (s.call e e' call).2 := by
  cases call with
  | create3DContext => exact absurd rfl hcreate
  | destroy3DContext ctx => exact absurd rfl (hdestroy ctx)
  | submit3DCommands ctx commands =>
      exact quiet_submit3DCommands e s ctx commands (fun c => hp ctx c rfl)
  | beginRenderPass ctx => exact quiet_beginRenderPass e s ctx (fun c => hp ctx c rfl)
  | endRenderPass ctx =>
      cases hc : s.findContext ctx with
      | none =>
          show Quiet p s (s.endRenderPass e e' ctx).2
          unfold endRenderPass
          rw [hc]
          exact Quiet.refl s
      | some c =>
          have hsame := finalizeRendering_of_not_fences (hend ctx c rfl hc) ctx
          have hquiet := quiet_endRenderPass (p := p) e e' s hc
          rw [hsame] at hquiet
          exact hquiet fun c' => hp ctx c' rfl
  | present3DSurface ctx surface =>
      exact quiet_present3DSurface e s ctx surface (fun c => hp ctx c rfl)
  | create3DSurface ctx info => exact quiet_create3DSurface e s ctx info
  | destroy3DSurface ctx surface => exact quiet_destroy3DSurface s ctx surface
  | createFramebuffer ctx width height colorFormat depthFormat =>
      exact quiet_createFramebuffer e e' s ctx width height colorFormat depthFormat
  | garbageCollectTextures => exact quiet_garbageCollectTextures e s

theorem Sane.finalizeRendering (e : AccelEnv) {s : Accelerator} (hs : s.Sane) (ctx : Nat)
    (c : AccelContext) : (s.finalizeRendering e ctx c).2.Sane := by
  by_cases hf : s.fences e c
  swap
  · rw [finalizeRendering_of_not_fences hf]
    exact hs
  rw [finalizeRendering_of_fences hf]
  have hexec : Quiet (fun _ => True) s (s.withGpu (s.gpu.executeCommands e.toEnv
      c.bumpGpuContextId.gpuContextId (some 256)).2) :=
    Quiet.withGpu (serves_executeCommands e.toEnv s.gpu trivial _)
  have hmid := hs.of_quiet hexec
  refine ⟨hmid.table, fun h3 => ?_, hmid.pending⟩
  have h3' := hexec.serves.supports3D.symm.trans h3
  exact absurd (hf.1.symm.trans h3') Bool.noConfusion

theorem Sane.call {e : AccelEnv} (he : e.TakesContexts) (e' : AccelEnv) {s : Accelerator}
    (hs : s.Sane) (call : AccelCall) : (s.call e e' call).2.Sane := by
  by_cases hcreate : call = .create3DContext
  · subst hcreate
    exact hs.create3DContext he
  by_cases hdestroy : ∃ ctx, call = .destroy3DContext ctx
  · obtain ⟨ctx, rfl⟩ := hdestroy
    exact hs.destroy3DContext e ctx
  by_cases hend : ∃ ctx c, call = .endRenderPass ctx ∧ s.findContext ctx = some c
  · obtain ⟨ctx, c, rfl, hc⟩ := hend
    exact (hs.finalizeRendering e ctx c).of_quiet
      (quiet_endRenderPass (p := fun _ => True) e e' s hc fun _ _ => trivial)
  · exact hs.of_quiet (quiet_call (p := fun _ => True) e e' hcreate
      (fun ctx h => hdestroy ⟨ctx, h⟩) (fun ctx c h hc => absurd ⟨ctx, c, h, hc⟩ hend)
      fun _ _ _ _ => trivial)

/-- **The exact condition on one call.** A new context is entered exactly if no
context has its id, no context is destroyed, and no pass of a context ends with
commands to the device. -/
def MapOk (e : AccelEnv) (s : Accelerator) : AccelCall → Prop
  | .create3DContext => s.gpu.supports3D = true →
      (s.contextFits e = true ↔ inc32 s.gpu.nextContextId ∉ s.ids.map Prod.fst)
  | .destroy3DContext ctx => s.findContext ctx = none
  | .endRenderPass ctx => ∀ c, s.findContext ctx = some c → ¬ s.fences e c
  | _ => True

end Accelerator

/-! ## Runs -/

namespace AccelRun

/-- The contexts of accelerator and host correspond, and every command
submitted on behalf of a context carries the id it was created with. -/
structure Mapped (s : AccelRun) : Prop where
  matched : Matches s.accel.ids s.accel.gpu.link.host.contexts
  carried : ∀ x ∈ s.submitted, x.2 = x.1

/-- What a step issues is `MapOk`. -/
def MapOk (s : AccelRun) (c : ClientCall × AccelEnv × AccelEnv) : Prop :=
  ∀ call, s.issues c.1 = some call → s.accel.MapOk c.2.1 call

theorem mem_newSubmits {p : Nat → Prop} {g g' : Gpu} (h : Serves p g g') {ctx : Nat}
    (hctx : ctx ∈ newSubmits g g') : p ctx := by
  obtain ⟨l, hl, hp⟩ := h.sent
  unfold newSubmits at hctx
  rw [hl, List.drop_left, List.mem_filterMap] at hctx
  obtain ⟨x, hx, hcmd⟩ := hctx
  have hwithin := hp x hx
  split at hcmd
  · next heq =>
    cases hcmd
    rw [heq] at hwithin
    exact hwithin
  · cases hcmd

/-- Where the context is found with the id it was created with, what is logged
for it fits. -/
theorem carried_logged {s : AccelRun} (hs : s.Mapped) {call : AccelCall} {t : Accelerator}
    (h : ∀ p : Nat → Prop, (∀ ctx c, call.context? = some ctx →
      s.accel.findContext ctx = some c → p c.gpuContextId) → Serves p s.accel.gpu t.gpu) :
    ∀ x ∈ s.logged call t, x.2 = x.1 := by
  intro x hx
  unfold logged at hx
  split at hx
  · exact hs.carried x hx
  next c hc =>
  rw [Option.bind_eq_some_iff] at hc
  obtain ⟨ctx, hctx, hc⟩ := hc
  rcases List.mem_append.mp hx with hx | hx
  · exact hs.carried x hx
  obtain ⟨id, hid, rfl⟩ := List.mem_map.mp hx
  refine mem_newSubmits (h (· = c.created) fun ctx' c' hctx' hc' => ?_) hid
  cases hctx.symm.trans hctx'
  cases hc.symm.trans hc'
  exact hs.matched.keeps _ (Accelerator.mem_ids_of_find hc)

/-- The contexts of `t` and what was published for them are as the quiet call
left them. -/
theorem mapped_of_quiet {s t : AccelRun} {call : AccelCall} (hs : s.Mapped)
    (hlog : t.submitted = s.logged call t.accel)
    (h : ∀ p : Nat → Prop, (∀ ctx c, call.context? = some ctx →
      s.accel.findContext ctx = some c → p c.gpuContextId) →
      Accelerator.Quiet p s.accel t.accel) : t.Mapped where
  matched := by
    have hquiet := h (fun _ => True) fun _ _ _ _ => trivial
    rw [hquiet.ids, hquiet.serves.host]
    exact hs.matched
  carried := by
    rw [hlog]
    exact carried_logged hs fun p hp => (h p hp).serves

theorem mapped_create_iff {s t : AccelRun} {e : AccelEnv} (he : e.TakesContexts)
    (hi : s.accel.Sane) (hs : s.Mapped) (ht : t.accel = (s.accel.create3DContext e).2)
    (hlog : t.submitted = s.submitted) :
    t.Mapped ↔ s.accel.MapOk e .create3DContext := by
  have hcarried : ∀ x ∈ t.submitted, x.2 = x.1 := hlog ▸ hs.carried
  have hmapped : t.Mapped ↔ Matches t.accel.ids t.accel.gpu.link.host.contexts :=
    ⟨Mapped.matched, fun h => ⟨h, hcarried⟩⟩
  rw [hmapped, ht]
  unfold Accelerator.MapOk
  by_cases h3 : s.accel.gpu.supports3D = true
  swap
  · rw [Accelerator.create3DContext_unsupported e (by simpa using h3)]
    exact iff_of_true hs.matched fun h => absurd h h3
  obtain ⟨hgpu, hids⟩ := Accelerator.created_create3DContext he hi h3
  have hhost : (s.accel.create3DContext e).2.gpu.link.host.contexts =
      s.accel.gpu.link.host.contexts.insert (inc32 s.accel.gpu.nextContextId) := by
    rw [hgpu]
    rfl
  rw [hhost, forall_prop_of_true h3]
  split at hids
  · next hfits =>
    rw [Matches.perm_iff hids, hs.matched.cons_insert_iff, hfits]
    exact (iff_true_left rfl).symm
  · next hfits =>
    rw [hids, hs.matched.insert_iff, iff_false_left hfits, not_not]

theorem mapped_destroy_iff {s t : AccelRun} {e : AccelEnv} {ctx : Nat}
    (hi : s.accel.Sane) (hs : s.Mapped) (ht : t.accel = (s.accel.destroy3DContext e ctx).2)
    (hlog : t.submitted = s.logged (.destroy3DContext ctx) t.accel) :
    t.Mapped ↔ s.accel.MapOk e (.destroy3DContext ctx) := by
  unfold Accelerator.MapOk
  dsimp only
  cases hc : s.accel.findContext ctx with
  | none =>
      refine iff_of_true (mapped_of_quiet hs hlog fun p _ => ?_) rfl
      rw [ht, Accelerator.destroy3DContext_of_none e hc]
      exact Accelerator.Quiet.refl s.accel
  | some c =>
      refine iff_of_false (fun hmapped => ?_) (Option.some_ne_none c)
      have hbefore := (Matches.perm_iff (Accelerator.ids_destroy3DContext e hc)).mp hs.matched
      have hafter := hmapped.matched
      rw [ht, Accelerator.gpu_destroy3DContext e hi] at hafter
      exact hbefore.not_tail hafter

/-- **One call** keeps `Mapped` exactly if it is `MapOk`. -/
theorem mapped_call_iff {s t : AccelRun} {e e' : AccelEnv} {call : AccelCall}
    (he : e.TakesContexts) (hi : s.accel.Sane) (hs : s.Mapped)
    (ht : t.accel = (s.accel.call e e' call).2) (hlog : t.submitted = s.logged call t.accel) :
    t.Mapped ↔ s.accel.MapOk e call := by
  by_cases hcreate : call = .create3DContext
  · subst hcreate
    exact mapped_create_iff he hi hs ht hlog
  by_cases hdestroy : ∃ ctx, call = .destroy3DContext ctx
  · obtain ⟨ctx, rfl⟩ := hdestroy
    exact mapped_destroy_iff hi hs ht hlog
  by_cases hend : ∃ ctx c, call = .endRenderPass ctx ∧ s.accel.findContext ctx = some c ∧
      s.accel.fences e c
  · -- the context now carries another id than the one it was created with
    obtain ⟨ctx, c, rfl, hc, hfences⟩ := hend
    refine iff_of_false (fun hmapped => ?_) fun hok => hok c hc hfences
    have hold := Accelerator.mem_ids_of_find hc
    have hnew := Accelerator.mem_ids_endRenderPass hc hfences e'
    have hkept : inc32 c.gpuContextId = c.created := by
      refine hmapped.matched.keeps (c.created, inc32 c.gpuContextId) ?_
      rw [ht]
      exact hnew
    have hsame : c.gpuContextId = c.created := hs.matched.keeps _ hold
    exact inc32_ne _ (hkept.trans hsame.symm)
  · have hnot : ∀ ctx c, call = .endRenderPass ctx → s.accel.findContext ctx = some c →
        ¬ s.accel.fences e c := fun ctx c h hc hf => hend ⟨ctx, c, h, hc, hf⟩
    refine iff_of_true (mapped_of_quiet hs hlog fun p hp => ?_) ?_
    · rw [ht]
      exact Accelerator.quiet_call e e' hcreate (fun ctx h => hdestroy ⟨ctx, h⟩) hnot hp
    · cases call with
      | create3DContext => exact absurd rfl hcreate
      | destroy3DContext ctx => exact absurd ⟨ctx, rfl⟩ hdestroy
      | endRenderPass ctx => exact fun c => hnot ctx c rfl
      | _ => trivial

/-! ### Steps -/

theorem execLate_contexts {g : Gpu} {l : Link}
    (hp : ∀ cmd ∈ g.link.pending, cmd.Within fun _ => True) (h : g.link.execLate = some l) :
    l.host.contexts = g.link.host.contexts ∧ ∀ cmd ∈ l.pending, cmd ∈ g.link.pending := by
  obtain ⟨cmd, rest, hpending, rfl⟩ := Link.execLate_eq_some h
  rw [hpending] at hp
  refine ⟨Host.contexts_exec_of_within (hp cmd List.mem_cons_self) _, fun c hc => ?_⟩
  rw [hpending]
  exact List.mem_cons_of_mem cmd hc

theorem sane_step {s t : AccelRun} {call : ClientCall} {e e' : AccelEnv}
    (he : e.TakesContexts) (hi : s.accel.Sane) (h : s.step call e e' = some t) : t.accel.Sane := by
  rcases step_cases h with ⟨-, haccel, -⟩ | ⟨c, -, haccel, -⟩ | ⟨-, l, hl, haccel, -⟩
  · rw [haccel]
    exact hi
  · rw [haccel]
    exact hi.call he e' c
  · rw [haccel]
    obtain ⟨-, hpending⟩ := execLate_contexts hi.pending hl
    exact ⟨hi.table, hi.device, fun cmd hcmd => hi.pending cmd (hpending cmd hcmd)⟩

theorem mapped_step_iff {s t : AccelRun} {call : ClientCall} {e e' : AccelEnv}
    (he : e.TakesContexts) (hi : s.accel.Sane) (hs : s.Mapped)
    (h : s.step call e e' = some t) : t.Mapped ↔ s.MapOk (call, e, e') := by
  unfold MapOk
  rcases step_cases h with ⟨hnone, haccel, hlog⟩ | ⟨c, hc, haccel, hlog⟩ |
    ⟨hnone, l, hl, haccel, hlog⟩
  · refine iff_of_true ⟨?_, ?_⟩ fun c hc => ?_
    · rw [haccel]
      exact hs.matched
    · rw [hlog]
      exact hs.carried
    · cases hnone.symm.trans hc
  · rw [mapped_call_iff he hi hs haccel hlog]
    refine ⟨fun hok c' hc' => ?_, fun hok => hok c hc⟩
    cases hc.symm.trans hc'
    exact hok
  · refine iff_of_true ⟨?_, ?_⟩ fun c hc => ?_
    · rw [haccel]
      show Matches s.accel.ids l.host.contexts
      rw [(execLate_contexts hi.pending hl).1]
      exact hs.matched
    · rw [hlog]
      exact hs.carried
    · cases hnone.symm.trans hc

/-- **The contexts correspond exactly along the runs whose steps are all
`MapOk`.** -/
theorem always_mapped_iff (supports3D : Bool) (maxScanouts : Nat)
    (calls : List (ClientCall × AccelEnv × AccelEnv)) :
    (machine Env.contextsAccepted supports3D maxScanouts).Always Mapped
        (machine Env.contextsAccepted supports3D maxScanouts).init calls ↔
      (machine Env.contextsAccepted supports3D maxScanouts).Along MapOk
        (machine Env.contextsAccepted supports3D maxScanouts).init calls := by
  refine (machine Env.contextsAccepted supports3D maxScanouts).always_iff_along
    (J := fun s => s.accel.Sane) (fun s c t hi h => ?_) (fun s c t hi hs h => ?_) ?_ ?_
  · exact sane_step (takesContexts_mapEnv c.2.1) hi h
  · have hiff := mapped_step_iff (takesContexts_mapEnv c.2.1) hi hs h
    exact hiff
  · exact ⟨rfl, fun _ => rfl, fun cmd hcmd => (by cases hcmd)⟩
  · exact ⟨⟨fun x hx => (by cases hx), List.nodup_nil, fun id => Iff.rfl⟩,
      fun x hx => (by cases hx)⟩

/-- A client that opens a context and closes leaves it behind on the host. -/
theorem closed_context_stays :
    ¬ (machine Env.contextsAccepted true 1).Always Mapped
      (machine Env.contextsAccepted true 1).init
      [(.create3DContext 0, .accepting, .accepting), (.clientClose 0, .accepting, .accepting)] := by
  intro h
  have hrun : ((machine Env.contextsAccepted true 1).run
      (machine Env.contextsAccepted true 1).init
      [(.create3DContext 0, .accepting, .accepting),
        (.clientClose 0, .accepting, .accepting)]).any
      (fun s => decide (s.accel.ids = []) && decide (s.accel.gpu.link.host.contexts = [2])) =
        true := by
    decide
  obtain ⟨s, hs, htest⟩ := h.of_any _ hrun
  rw [Bool.and_eq_true, decide_eq_true_eq, decide_eq_true_eq] at htest
  have hmatched := hs.matched
  rw [htest.1, htest.2] at hmatched
  cases (hmatched.on_host 2).mp List.mem_cons_self

end AccelRun
end VMQemuVGA
