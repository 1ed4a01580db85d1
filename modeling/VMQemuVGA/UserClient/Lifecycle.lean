import VMQemuVGA.UserClient.Surfaces

/-! # What a client leaves behind

A `VMVirtIOGPUUserClient` has contexts and resources made on the host through
six selectors. None of them writes down what it made, so nothing can be undone
when the client goes away: `clientClose` gives back the client's memory and
empties two arrays that were never filled. -/

namespace VMQemuVGA

/-! ## The client -/

/-- A client as its selectors for contexts and resources see it. -/
structure UserClient where
  /-- `m_gpu_device` is set -/
  attached : Bool
  surfaces : SurfaceClient
  deriving DecidableEq, Repr

/-- `VMVirtIOGPU::create3DContext`. -/
def Gpu.create3DContext (e : Env) (g : Gpu) : IOReturn × Gpu := g.createRenderContext e

namespace UserClient

/-- The client once `start` has found a device. -/
def init : UserClient := { attached := true, surfaces := .init }

/-! ### Contexts -/

def create3DContext (e : Env) (c : UserClient) (g : Gpu) : IOReturn × Gpu :=
  if c.attached = false then (.badArgument, g)
  else if g.supports3D = false then (.unsupported, g)
  else g.create3DContext e

/-- `destroy3DContext`, which only logs. -/
def destroy3DContext (c : UserClient) (g : Gpu) : IOReturn × Gpu :=
  if c.attached = false then (.badArgument, g) else (.success, g)

/-- `createVirglContext`; the id the caller chose goes into the log only. -/
def createVirglContext (e : Env) (c : UserClient) (g : Gpu) : IOReturn × Gpu :=
  if c.attached = false then (.badArgument, g)
  else if g.supports3D = false then (.unsupported, g)
  else g.createRenderContext e

def createVirglContextEx (e : Env) (c : UserClient) (g : Gpu) : IOReturn × Gpu :=
  if c.attached = false then (.badArgument, g) else g.createVirglContextEx e

def destroyVirglContextEx (e : Env) (c : UserClient) (g : Gpu) (ctx : Nat) : IOReturn × Gpu :=
  if c.attached = false then (.notReady, g) else g.destroyVirglContextEx e ctx

/-! ### Resources -/

/-- `VIRGL_BIND_RENDER_TARGET | VIRGL_BIND_SAMPLER_VIEW | VIRGL_BIND_SCANOUT`. -/
def virglBind : Nat := 0x2 ||| 0x8 ||| 0x40000

/-- `VIRTIO_GPU_RESOURCE_TARGET_2D`. -/
def virglTarget : Nat := 1

/-- `createVirglResource`, under the id the caller chose. -/
def createVirglResource (e : Env) (c : UserClient) (g : Gpu) (id width height format : Nat) :
    IOReturn × Gpu :=
  if c.attached = false then (.badArgument, g)
  else if SurfaceClient.inLimits width height = false then (.badArgument, g)
  else g.createResource3D e id virglTarget format virglBind width height 1

def createResource3DEx (e : Env) (c : UserClient) (g : Gpu) (ctx : Nat) (texture : Texture) :
    IOReturn × Gpu :=
  if c.attached = false then (.badArgument, g) else g.createResource3DEx e ctx texture

/-- `resourceUnref`, the memory of the client aside. -/
def resourceUnref (e : Env) (c : UserClient) (g : Gpu) (id : Nat) : IOReturn × Gpu :=
  if c.attached = false then (.notReady, g)
  else if id = 0 then (.badArgument, g)
  else g.submitCommand e (.resourceUnref id)

def createSurface (e : Env) (c : UserClient) (g : Gpu) (width height format : Nat) :
    IOReturn × UserClient × Gpu :=
  if c.attached = false then (.badArgument, c, g) else
  let (ret, surfaces, g₁) := c.surfaces.createSurface e g width height format
  (ret, { c with surfaces }, g₁)

def destroySurface (e : Env) (c : UserClient) (g : Gpu) (sid : Nat) : IOReturn × Gpu :=
  if c.attached = false then (.badArgument, g) else c.surfaces.destroySurface e g sid

/-! ### The end -/

/-- `stop`: the arrays are flushed and the device forgotten. -/
def stop (c : UserClient) : UserClient := { c with attached := false }

/-- `clientClose`, the memory of the client aside: two empty arrays are flushed. -/
def clientClose (c : UserClient) (g : Gpu) : IOReturn × UserClient × Gpu := (.success, c, g)

def clientDied (c : UserClient) (g : Gpu) : IOReturn × UserClient × Gpu := c.clientClose g

end UserClient

/-! ## Runs -/

/-- A thing the host holds. -/
inductive HostObject where
  | context (id : Nat)
  | resource (id : Nat)
  deriving DecidableEq, Repr

def Host.objects (h : Host) : List HostObject :=
  h.contexts.map .context ++ h.resources.map fun r => .resource r.id

inductive LifeCall where
  | create3DContext (client : Nat)
  | destroy3DContext (client ctx : Nat)
  | createVirglContext (client ctx : Nat)
  | createVirglContextEx (client : Nat)
  | destroyVirglContextEx (client ctx : Nat)
  | createVirglResource (client id width height format : Nat)
  | createResource3DEx (client ctx : Nat) (texture : Texture)
  | resourceUnref (client id : Nat)
  | createSurface (client width height format : Nat)
  | destroySurface (client sid : Nat)
  | stop (client : Nat)
  | clientClose (client : Nat)
  | clientDied (client : Nat)
  deriving DecidableEq, Repr

/-- One device and its clients. `created` are the objects on the host, each with
the client whose call made it; `closed` the clients that have made no call since
their close; `undestroyed` the objects that were there after a call to destroy
them had returned success. -/
structure LifeRun where
  gpu : Gpu
  client : Nat → UserClient
  created : List (Nat × HostObject)
  closed : Nat → Bool
  undestroyed : List (Nat × HostObject)

namespace LifeRun

def objects (s : LifeRun) : List HostObject := s.gpu.link.host.objects

/-- The state after a call of `client` that left it at `c` and the device at `g`,
and was to destroy `target`. -/
def next (s : LifeRun) (client : Nat) (target : Option HostObject) (closed : Bool)
    (r : IOReturn × UserClient × Gpu) : LifeRun where
  gpu := r.2.2
  client := Function.update s.client client r.2.1
  created :=
    s.created.filter (fun p => p.2 ∈ r.2.2.link.host.objects) ++
      (r.2.2.link.host.objects.filter fun o => o ∉ s.objects).map fun o => (client, o)
  closed := Function.update s.closed client closed
  undestroyed :=
    if r.1 = .success then
      s.undestroyed ++ (target.toList.filter fun o => o ∈ r.2.2.link.host.objects).map fun o =>
        (client, o)
    else s.undestroyed

/-- A call that does not change what the client knows. -/
def ofDevice (c : UserClient) (r : IOReturn × Gpu) : IOReturn × UserClient × Gpu := (r.1, c, r.2)

/-- The host accepts every command. -/
def step (s : LifeRun) : LifeCall × Env → Option LifeRun
  | (.create3DContext i, e) =>
      some (s.next i none false (ofDevice (s.client i) ((s.client i).create3DContext e.hostAccepts
        s.gpu)))
  | (.destroy3DContext i ctx, _) =>
      some (s.next i (some (.context ctx)) false (ofDevice (s.client i)
        ((s.client i).destroy3DContext s.gpu)))
  | (.createVirglContext i _, e) =>
      some (s.next i none false (ofDevice (s.client i) ((s.client i).createVirglContext
        e.hostAccepts s.gpu)))
  | (.createVirglContextEx i, e) =>
      some (s.next i none false (ofDevice (s.client i) ((s.client i).createVirglContextEx
        e.hostAccepts s.gpu)))
  | (.destroyVirglContextEx i ctx, e) =>
      some (s.next i (some (.context ctx)) false (ofDevice (s.client i)
        ((s.client i).destroyVirglContextEx e.hostAccepts s.gpu ctx)))
  | (.createVirglResource i id width height format, e) =>
      some (s.next i none false (ofDevice (s.client i) ((s.client i).createVirglResource
        e.hostAccepts s.gpu id width height format)))
  | (.createResource3DEx i ctx texture, e) =>
      some (s.next i none false (ofDevice (s.client i) ((s.client i).createResource3DEx
        e.hostAccepts s.gpu ctx texture)))
  | (.resourceUnref i id, e) =>
      some (s.next i (some (.resource id)) false (ofDevice (s.client i)
        ((s.client i).resourceUnref e.hostAccepts s.gpu id)))
  | (.createSurface i width height format, e) =>
      some (s.next i none false ((s.client i).createSurface e.hostAccepts s.gpu width height
        format))
  | (.destroySurface i sid, e) =>
      some (s.next i (some (.resource (surfaceResourceId sid))) false (ofDevice (s.client i)
        ((s.client i).destroySurface e.hostAccepts s.gpu sid)))
  | (.stop i, _) =>
      some { s with client := Function.update s.client i (s.client i).stop }
  | (.clientClose i, _) => some (s.next i none true ((s.client i).clientClose s.gpu))
  | (.clientDied i, _) => some (s.next i none true ((s.client i).clientDied s.gpu))

/-- A device in any state, and no client that has done anything yet. -/
def machine (g : Gpu) : Machine LifeRun (LifeCall × Env) where
  init := ⟨g, fun _ => .init, [], fun _ => false, []⟩
  step := step

/-! ## The property -/

structure Clean (s : LifeRun) : Prop where
  /-- the host holds nothing that a closed client had made -/
  closed : ∀ p ∈ s.created, s.closed p.1 = false
  /-- what was destroyed with success is gone -/
  destroyed : s.undestroyed = []

/-- `destroy3DContext` is called for a context that is not there, and a client is
closed once nothing is left of what its calls have made. -/
def CallOk (s : LifeRun) : LifeCall × Env → Prop
  | (.destroy3DContext i ctx, _) => (s.client i).attached = true → .context ctx ∉ s.objects
  | (.clientClose i, _) | (.clientDied i, _) => ∀ p ∈ s.created, p.1 ≠ i
  | _ => True

/-- `created` lists objects that are there. -/
def Present (s : LifeRun) : Prop := ∀ p ∈ s.created, p.2 ∈ s.objects

/-! ## Single calls -/

variable {s : LifeRun} {i : Nat} {target : Option HostObject}

theorem mem_created_next {closed : Bool} {r : IOReturn × UserClient × Gpu} {p : Nat × HostObject} :
    p ∈ (s.next i target closed r).created ↔
      p.2 ∈ r.2.2.link.host.objects ∧ (p ∈ s.created ∨ p.1 = i ∧ p.2 ∉ s.objects) := by
  unfold next
  simp only [List.mem_append, List.mem_filter, List.mem_map, decide_eq_true_eq]
  constructor
  · rintro (⟨hp, ho⟩ | ⟨o, ⟨ho, hnew⟩, rfl⟩)
    · exact ⟨ho, Or.inl hp⟩
    · exact ⟨ho, Or.inr ⟨rfl, hnew⟩⟩
  · rintro ⟨ho, hp | ⟨rfl, hnew⟩⟩
    · exact Or.inl ⟨hp, ho⟩
    · exact Or.inr ⟨p.2, ⟨ho, hnew⟩, rfl⟩

theorem present_next (closed : Bool) (r : IOReturn × UserClient × Gpu) :
    (s.next i target closed r).Present := fun _ hp => (mem_created_next.mp hp).1

/-- Nothing named for destruction is there after a call that returned success. -/
def Removes (target : Option HostObject) (r : IOReturn × UserClient × Gpu) : Prop :=
  r.1 = .success → ∀ o ∈ target, o ∉ r.2.2.link.host.objects

theorem undestroyed_next_iff {closed : Bool} {r : IOReturn × UserClient × Gpu}
    (hs : s.undestroyed = []) :
    (s.next i target closed r).undestroyed = [] ↔ Removes target r := by
  unfold next Removes
  dsimp only
  split
  next hret =>
    rw [hs, List.nil_append, List.map_eq_nil_iff, List.filter_eq_nil_iff]
    simp only [hret, true_imp_iff, Option.mem_toList, decide_eq_true_eq]
    rfl
  next hret => simp only [hs, hret, false_imp_iff]

/-- A call other than a close keeps everything clean that it does not fail to
destroy. -/
theorem clean_call_iff {r : IOReturn × UserClient × Gpu} (hs : s.Clean) :
    (s.next i target false r).Clean ↔ Removes target r := by
  refine ⟨fun h => (undestroyed_next_iff hs.destroyed).mp h.destroyed,
    fun h => ⟨fun p hp => ?_, (undestroyed_next_iff hs.destroyed).mpr h⟩⟩
  show Function.update s.closed i false p.1 = false
  by_cases hi : p.1 = i
  · rw [hi, Function.update_self]
  · rw [Function.update_of_ne hi]
    rcases (mem_created_next.mp hp).2 with hold | ⟨hnew, -⟩
    · exact hs.closed p hold
    · exact absurd hnew hi

/-- A close sends nothing, so everything that was there still is. -/
theorem clean_close_iff (hs : s.Clean) (hp : s.Present) :
    (s.next i none true ((s.client i).clientClose s.gpu)).Clean ↔ ∀ p ∈ s.created, p.1 ≠ i := by
  have hkept : ∀ p, p ∈ (s.next i none true ((s.client i).clientClose s.gpu)).created ↔
      p ∈ s.created := by
    intro p
    rw [mem_created_next]
    show p.2 ∈ s.objects ∧ _ ↔ _
    constructor
    · rintro ⟨ho, hold | ⟨-, hnew⟩⟩
      · exact hold
      · exact absurd ho hnew
    · exact fun h => ⟨hp p h, Or.inl h⟩
  constructor
  · intro h p hmem hi
    have hclosed := h.closed p ((hkept p).mpr hmem)
    change Function.update s.closed i true p.1 = false at hclosed
    rw [hi, Function.update_self] at hclosed
    cases hclosed
  · intro h
    refine ⟨fun p hmem => ?_, (undestroyed_next_iff hs.destroyed).mpr fun _ o ho => by cases ho⟩
    have hold := (hkept p).mp hmem
    show Function.update s.closed i true p.1 = false
    rw [Function.update_of_ne (h p hold)]
    exact hs.closed p hold

/-! ### What is destroyed -/

theorem removes_none (r : IOReturn × UserClient × Gpu) : Removes none r :=
  fun _ _ ho => by cases ho

theorem removes_of_failure {r : IOReturn × UserClient × Gpu} (h : r.1 ≠ .success) :
    Removes target r := fun hret => absurd hret h

theorem not_mem_objects_ctxDestroy (h : Host) (ctx : Nat) :
    .context ctx ∉ (h.exec (.ctxDestroy ctx)).objects := by
  intro hmem
  rcases List.mem_append.mp hmem with hmem | hmem
  · obtain ⟨c, hc, heq⟩ := List.mem_map.mp hmem
    cases heq
    simpa using (List.mem_filter.mp hc).2
  · obtain ⟨r, -, heq⟩ := List.mem_map.mp hmem
    cases heq

theorem not_mem_objects_resourceUnref (h : Host) (id : Nat) :
    .resource id ∉ (h.exec (.resourceUnref id)).objects := by
  intro hmem
  rcases List.mem_append.mp hmem with hmem | hmem
  · obtain ⟨c, -, heq⟩ := List.mem_map.mp hmem
    cases heq
  · obtain ⟨r, hr, heq⟩ := List.mem_map.mp hmem
    cases heq
    simpa using (List.mem_filter.mp hr).2

theorem removes_destroyVirglContextEx (e : Env) (c : UserClient) (g : Gpu) (ctx : Nat) :
    Removes (some (.context ctx))
      (ofDevice c (c.destroyVirglContextEx e.hostAccepts g ctx)) := by
  unfold UserClient.destroyVirglContextEx
  split
  · exact removes_of_failure (by simp [ofDevice])
  · intro _ o ho
    cases ho
    exact not_mem_objects_ctxDestroy g.link.host ctx

theorem removes_resourceUnref (e : Env) (c : UserClient) (g : Gpu) (id : Nat) :
    Removes (some (.resource id)) (ofDevice c (c.resourceUnref e.hostAccepts g id)) := by
  unfold UserClient.resourceUnref
  split
  · exact removes_of_failure (by simp [ofDevice])
  split
  · exact removes_of_failure (by simp [ofDevice])
  · intro _ o ho
    cases ho
    exact not_mem_objects_resourceUnref g.link.host id

theorem removes_destroySurface (e : Env) (c : UserClient) (g : Gpu) (sid : Nat) :
    Removes (some (.resource (surfaceResourceId sid)))
      (ofDevice c (c.destroySurface e.hostAccepts g sid)) := by
  unfold UserClient.destroySurface SurfaceClient.destroySurface
  split
  · exact removes_of_failure (by simp [ofDevice])
  split
  · exact removes_of_failure (by simp [ofDevice])
  · intro _ o ho
    cases ho
    exact not_mem_objects_resourceUnref g.link.host (surfaceResourceId sid)

/-- The call that only logs removes what was not there. -/
theorem removes_destroy3DContext_iff {c : UserClient} {g : Gpu} {ctx : Nat} :
    Removes (some (.context ctx)) (ofDevice c (c.destroy3DContext g)) ↔
      (c.attached = true → .context ctx ∉ g.link.host.objects) := by
  unfold UserClient.destroy3DContext
  cases c.attached
  · exact iff_of_true (removes_of_failure (by simp [ofDevice])) fun h => by cases h
  · exact ⟨fun h _ => h rfl _ rfl, fun h _ o ho => by cases ho; exact h rfl⟩

/-! ## The result -/

theorem clean_step_iff {call : LifeCall × Env} {t : LifeRun} (hs : s.Clean) (hp : s.Present)
    (h : s.step call = some t) : t.Clean ↔ s.CallOk call := by
  obtain ⟨call, e⟩ := call
  cases call <;> cases h
  case destroy3DContext i ctx =>
    exact Iff.trans (clean_call_iff hs) removes_destroy3DContext_iff
  case destroyVirglContextEx i ctx =>
    exact iff_of_true ((clean_call_iff hs).mpr (removes_destroyVirglContextEx _ _ _ _)) trivial
  case resourceUnref i id =>
    exact iff_of_true ((clean_call_iff hs).mpr (removes_resourceUnref _ _ _ _)) trivial
  case destroySurface i sid =>
    exact iff_of_true ((clean_call_iff hs).mpr (removes_destroySurface _ _ _ _)) trivial
  case stop i => exact iff_of_true ⟨hs.closed, hs.destroyed⟩ trivial
  case clientClose i => exact clean_close_iff hs hp
  case clientDied i => exact clean_close_iff hs hp
  -- the selectors that create
  all_goals exact iff_of_true ((clean_call_iff hs).mpr (removes_none _)) trivial

theorem present_step {call : LifeCall × Env} {t : LifeRun} (hp : s.Present)
    (h : s.step call = some t) : t.Present := by
  obtain ⟨call, e⟩ := call
  cases call <;> cases h
  case stop i => exact hp
  all_goals exact present_next _ _

/-- **What is left behind, exactly.** -/
theorem always_clean_iff (g : Gpu) (calls : List (LifeCall × Env)) :
    (machine g).Always Clean (machine g).init calls ↔
      (machine g).Along CallOk (machine g).init calls :=
  (machine g).always_iff_along (J := Present) (fun _ _ _ hp h => present_step hp h)
    (fun _ _ _ hp hs h => clean_step_iff hs hp h) (fun _ hp => by cases hp)
    ⟨fun _ hp => (by cases hp), rfl⟩

/-- A client makes a context and dies. -/
theorem context_outlives_client :
    ¬ (machine (.init true 1)).Always Clean (machine (.init true 1)).init
      [(.create3DContext 0, .accepting), (.clientDied 0, .accepting)] := by
  intro h
  obtain ⟨s, hs, hp⟩ := h.of_any _
    (p := fun s : LifeRun => decide ((0, HostObject.context 2) ∈ s.created) && s.closed 0)
    (by decide)
  obtain ⟨hmem, hclosed⟩ := Bool.and_eq_true_iff.mp hp
  have hopen : s.closed 0 = false := hs.closed _ (of_decide_eq_true hmem)
  rw [hclosed] at hopen
  cases hopen

end LifeRun
end VMQemuVGA
