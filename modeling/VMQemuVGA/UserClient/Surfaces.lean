import Mathlib.Data.List.Count
import VMQemuVGA.Gpu.ResourcePool

/-! # Surfaces of user clients

Every `VMVirtIOGPUUserClient` numbers its surfaces on its own and turns a
surface id into a resource id of the shared device by setting bit 16. Two
surfaces whose ids agree up to that bit share a resource, whichever clients
they belong to; this module says what that costs. -/

namespace VMQemuVGA

/-- `surface_id | 0x10000`. -/
def surfaceResourceId (sid : Nat) : Nat := sid ||| 0x10000

theorem surfaceResourceId_ne_zero (sid : Nat) : surfaceResourceId sid ≠ 0 := by
  have h : 0x10000 ≤ surfaceResourceId sid := Nat.right_le_or
  omega

/-! ## The client -/

/-- The part of a `VMVirtIOGPUUserClient` that numbers its surfaces. -/
structure SurfaceClient where
  nextSurfaceId : Nat
  /-- `m_surfaces->getCount()`; nothing is ever put into the array -/
  surfaceCount : Nat
  deriving DecidableEq, Repr

namespace SurfaceClient

def init : SurfaceClient := { nextSurfaceId := 1, surfaceCount := 0 }

/-- `m_next_surface_id` moves on, and never to 0. -/
def drawSurfaceId (c : SurfaceClient) : SurfaceClient :=
  { c with nextSurfaceId := if c.nextSurfaceId = u32 - 1 then 1 else c.nextSurfaceId + 1 }

/-- The format sent to the device; 0 asks for the default. -/
def virtioFormat (format : Nat) : Nat := if format = 0 then Gpu.formatB8G8R8A8 else format

def inLimits (width height : Nat) : Bool :=
  !(decide (width = 0) || decide (height = 0) || decide (width > 8192) || decide (height > 8192))

/-- `createSurface`; the surface id is the counter before the call. -/
def createSurface (e : Env) (c : SurfaceClient) (g : Gpu) (width height format : Nat) :
    IOReturn × SurfaceClient × Gpu :=
  if inLimits width height = false then (.badArgument, c, g)
  else if c.surfaceCount > 1000 then (.noMemory, c, g) else
  let (ret, g₁) := g.createResource2D e (surfaceResourceId c.nextSurfaceId) (virtioFormat format)
    width height none
  (ret, c.drawSurfaceId, g₁)

/-- The range check of `destroySurface`. -/
def mayDestroy (c : SurfaceClient) (sid : Nat) : Bool :=
  !(decide (sid = 0) || decide (sid ≥ c.nextSurfaceId))

def destroySurface (e : Env) (c : SurfaceClient) (g : Gpu) (sid : Nat) : IOReturn × Gpu :=
  if c.mayDestroy sid = false then (.badArgument, g)
  else g.deallocateResource e (surfaceResourceId sid)

end SurfaceClient

/-! ## Runs -/

inductive SurfaceCall where
  | createSurface (client width height format : Nat)
  | destroySurface (client sid : Nat)
  deriving DecidableEq, Repr

/-- One device and its clients. `live` are the surfaces handed out and not yet
destroyed by their owner, `refused` the clients that were denied a surface
within the size limits, `stray` the live surfaces whose resource went away when
another one was destroyed. -/
structure SurfaceRun where
  gpu : Gpu
  client : Nat → SurfaceClient
  live : List (Nat × Nat)
  refused : List Nat
  stray : List (Nat × Nat)

namespace SurfaceRun

def sharing (l : List (Nat × Nat)) (sid : Nat) : List (Nat × Nat) :=
  l.filter fun x => decide (surfaceResourceId x.2 = surfaceResourceId sid)

def create (s : SurfaceRun) (e : Env) (client width height format : Nat) : SurfaceRun :=
  let c := s.client client
  let (ret, c', g) := c.createSurface e s.gpu width height format
  { s with
    gpu := g
    client := Function.update s.client client c'
    live := if ret = .success then (client, c.nextSurfaceId) :: s.live else s.live
    refused := if SurfaceClient.inLimits width height = true ∧ ret ≠ .success then
      client :: s.refused else s.refused }

def destroy (s : SurfaceRun) (e : Env) (client sid : Nat) : SurfaceRun :=
  let (ret, g) := (s.client client).destroySurface e s.gpu sid
  if ret = .success then
    let others := s.live.erase (client, sid)
    { s with gpu := g, live := others, stray := sharing others sid ++ s.stray }
  else { s with gpu := g }

/-- The host accepts every command, and a surface is asked for only while the
pool has room. -/
def step (s : SurfaceRun) : SurfaceCall × Env → Option SurfaceRun
  | (.createSurface client width height format, e) =>
      if s.gpu.pool.freeIdx?.isSome then some (s.create e.hostAccepts client width height format)
      else none
  | (.destroySurface client sid, e) => some (s.destroy e.hostAccepts client sid)

def machine (supports3D : Bool) (maxScanouts : Nat) : Machine SurfaceRun (SurfaceCall × Env) where
  init := ⟨.init supports3D maxScanouts, fun _ => .init, [], [], []⟩
  step := step

/-! ## The property -/

/-- What users of surfaces rely on. -/
structure Sound (s : SurfaceRun) : Prop where
  injective : s.live.Pairwise fun x y => surfaceResourceId x.2 ≠ surfaceResourceId y.2
  creates : s.refused = []
  destroyable : ∀ x ∈ s.live, ∀ e : Env,
    ((s.client x.1).destroySurface e.hostAccepts s.gpu x.2).1 = .success
  own_only : s.stray = []

/-- This memory can be prepared, and its segments sent. -/
def attaches (e : Env) (d : MemoryDescriptor) : Bool :=
  decide (d.prepareRet = .success) && !(decide (d.segments = []) || decide (d.walked = 0)) &&
    e.alloc .attachCommand

/-- The backing of a 2D resource of this size can be allocated and attached. -/
def backs (e : Env) (width height : Nat) : Bool :=
  (e.withCapacity (width * height * 4 % u32)).any (attaches e)

/-- When a call keeps `Sound`: a surface within limits needs its backing, a
counter short of `UINT32_MAX`, and no live surface, of any client, whose id
agrees with the new one up to bit 16; an id passing the check of
`destroySurface` must not share its resource with another live surface. -/
def CallOk (s : SurfaceRun) : SurfaceCall × Env → Prop
  | (.createSurface client width height _, e) =>
      SurfaceClient.inLimits width height = true →
        backs e width height = true ∧ (s.client client).nextSurfaceId ≠ u32 - 1 ∧
          sharing s.live (s.client client).nextSurfaceId = []
  | (.destroySurface client sid, _) =>
      (s.client client).mayDestroy sid = true → sharing (s.live.erase (client, sid)) sid = []

/-! ## The state between calls -/

/-- The pool holds a resource once for every live surface that uses it. -/
def PoolMatches (s : SurfaceRun) : Prop :=
  ∀ k, s.gpu.liveSlots k = s.live.countP fun x => decide (surfaceResourceId x.2 = k)

structure Inv (s : SurfaceRun) : Prop where
  ready : s.gpu.ready = true
  count : ∀ c, (s.client c).surfaceCount = 0
  next_pos : ∀ c, 0 < (s.client c).nextSurfaceId
  next_lt : ∀ c, (s.client c).nextSurfaceId < u32
  live_pos : ∀ x ∈ s.live, 0 < x.2
  matches_pool : s.stray = [] → s.PoolMatches

theorem sharing_eq_nil_iff {l : List (Nat × Nat)} {sid : Nat} :
    sharing l sid = [] ↔ ∀ x ∈ l, surfaceResourceId x.2 ≠ surfaceResourceId sid := by
  simp only [sharing, List.filter_eq_nil_iff, decide_eq_true_eq, ne_eq]

theorem countP_eq_zero_iff_sharing {l : List (Nat × Nat)} {sid : Nat} :
    (l.countP fun x => decide (surfaceResourceId x.2 = surfaceResourceId sid)) = 0 ↔
      sharing l sid = [] := by
  rw [sharing_eq_nil_iff, List.countP_eq_zero]
  simp only [decide_eq_true_eq, ne_eq]

/-! ### The device under a host that accepts -/

theorem attachBacking_hostAccepts (e : Env) {g : Gpu} (id : Nat) (d : MemoryDescriptor)
    (hready : g.ready = true) :
    attaches e d = true ∧ (g.attachBacking e.hostAccepts id (some d)).1 = .success ∨
      attaches e d = false ∧ (g.attachBacking e.hostAccepts id (some d)).1 ≠ .success := by
  unfold Gpu.attachBacking attaches
  split
  · next h => exact absurd (hready.symm.trans h) Bool.noConfusion
  dsimp only [Gpu.submitCommand]
  split
  · next hprep => exact Or.inr ⟨by simp [hprep], hprep⟩
  split
  · next hseg =>
    refine Or.inr ⟨?_, IOReturn.noConfusion⟩
    rcases hseg with h | h
    · simp [h]
    · simp [h]
  split
  · next halloc =>
    have halloc : e.alloc .attachCommand = false := halloc
    exact Or.inr ⟨by simp [halloc], IOReturn.noConfusion⟩
  · next hprep hseg halloc =>
    have halloc : e.alloc .attachCommand = true := Bool.not_eq_false _ ▸ halloc
    rw [not_not] at hprep
    exact Or.inl ⟨by simp [hprep, not_or.mp hseg, halloc], rfl⟩

/-- With room in the pool, an accepted resource is refused only for want of backing. -/
theorem backAndRegister_succeeds_iff (e : Env) {g : Gpu} {id : Nat} (format width height : Nat)
    (hready : g.ready = true) (hfree : g.pool.freeIdx?.isSome = true) :
    (g.backAndRegister e.hostAccepts id format width height none).1 = .success ↔
      backs e width height = true := by
  unfold Gpu.backAndRegister backs
  rw [show ((none : Option MemoryDescriptor).orElse fun _ =>
    e.hostAccepts.withCapacity (width * height * 4 % u32)) =
      e.withCapacity (width * height * 4 % u32) from rfl]
  cases hmem : e.withCapacity (width * height * 4 % u32) with
  | none => exact iff_of_false IOReturn.noConfusion Bool.false_ne_true
  | some d =>
      dsimp only [Option.any]
      obtain ⟨l, hl⟩ := Gpu.attachBacking_frame e.hostAccepts g id (some d)
      rcases attachBacking_hostAccepts e id d hready with ⟨hd, hret⟩ | ⟨hd, hret⟩
      · obtain ⟨i, hi⟩ := Option.isSome_iff_exists.mp hfree
        rw [if_neg (not_not.mpr hret), hl, hd]
        dsimp only
        rw [hi]
        exact iff_of_true rfl rfl
      · rw [if_pos hret, hd]
        exact iff_of_false hret Bool.false_ne_true

theorem createResource2D_succeeds_iff (e : Env) {g : Gpu} {id : Nat} (format width height : Nat)
    (hready : g.ready = true) (hfree : g.pool.freeIdx?.isSome = true) (hnew : g.liveSlots id = 0) :
    (g.createResource2D e.hostAccepts id format width height none).1 = .success ↔
      backs e width height = true := by
  unfold Gpu.createResource2D
  rw [if_neg (Gpu.findResource_of_untracked hnew)]
  dsimp only [Gpu.submitCommand]
  split
  · next hbad => exact absurd hbad (by rintro (h | h) <;> exact h rfl)
  · exact backAndRegister_succeeds_iff e format width height hready hfree

theorem createResource2D_effect (e : Env) {g : Gpu} {id : Nat} (format width height : Nat)
    (hid : id ≠ 0) :
    let r := g.createResource2D e.hostAccepts id format width height none
    r.1 = .success ∧ Gpu.Registers g r.2 id ∨ r.1 ≠ .success ∧ Gpu.SamePool g r.2 := by
  by_cases hpos : 0 < g.liveSlots id
  · rw [Gpu.createResource2D_of_found hpos]
    exact Or.inr ⟨IOReturn.noConfusion, rfl, rfl⟩
  · have hcreated := Gpu.createResource2D_created e.hostAccepts g id format width height none hid
      (by omega)
    generalize g.createResource2D e.hostAccepts id format width height none = r at hcreated ⊢
    cases hcreated with
    | lost h hp => exact absurd (show false = true from h) Bool.false_ne_true
    | failed h hret hp => exact Or.inr ⟨hret, hp⟩
    | registered h hid hp => exact Or.inl ⟨rfl, hp⟩

theorem ready_createResource2D (e : Env) (g : Gpu) (id format width height : Nat) :
    (g.createResource2D e id format width height none).2.ready = g.ready := by
  obtain ⟨p, n, l, h⟩ := Gpu.createResource2D_frame e g id format width height none
  rw [h]

theorem deallocateResource_hostAccepts (e : Env) (g : Gpu) (id : Nat) :
    g.deallocateResource e.hostAccepts id = (.success,
      { g.afterSend (.resourceUnref id) (.reply respOkNodata) with
        pool := g.pool.clear id .free }) := rfl

/-! ### createSurface -/

/-- What `createSurface` comes to for the run. -/
theorem create_eq (s : SurfaceRun) (e : Env) (client width height format : Nat) (hi : s.Inv) :
    s.create e client width height format =
      if SurfaceClient.inLimits width height = false then s else
      let c := s.client client
      let r := s.gpu.createResource2D e (surfaceResourceId c.nextSurfaceId)
        (SurfaceClient.virtioFormat format) width height none
      { s with
        gpu := r.2
        client := Function.update s.client client c.drawSurfaceId
        live := if r.1 = .success then (client, c.nextSurfaceId) :: s.live else s.live
        refused := if r.1 ≠ .success then client :: s.refused else s.refused } := by
  unfold create SurfaceClient.createSurface
  dsimp only
  by_cases hlim : SurfaceClient.inLimits width height = false
  · rw [if_pos hlim, if_pos hlim]
    simp [hlim, Function.update_eq_self]
  · rw [if_neg hlim, if_neg hlim, if_neg (by rw [hi.count]; omega)]
    rw [Bool.not_eq_false] at hlim
    simp [hlim]

theorem drawSurfaceId_pos {c : SurfaceClient} : 0 < c.drawSurfaceId.nextSurfaceId := by
  unfold SurfaceClient.drawSurfaceId
  dsimp only
  split <;> omega

theorem drawSurfaceId_lt {c : SurfaceClient} (h : c.nextSurfaceId < u32) :
    c.drawSurfaceId.nextSurfaceId < u32 := by
  have hu := u32_eq
  unfold SurfaceClient.drawSurfaceId
  dsimp only
  split <;> omega

/-- What all clients have and one keeps, all keep. -/
theorem forall_client_update {P : SurfaceClient → Prop} {client : Nat → SurfaceClient}
    (h : ∀ c, P (client c)) {c : Nat} {new : SurfaceClient} (hnew : P new) :
    ∀ c', P (Function.update client c new c') :=
  (Function.forall_update_iff client fun _ x => P x).mpr ⟨hnew, fun c' _ => h c'⟩

theorem inv_create {s : SurfaceRun} (e : Env) (client width height format : Nat) (hi : s.Inv) :
    (s.create e.hostAccepts client width height format).Inv := by
  rw [create_eq s _ client width height format hi]
  split
  · exact hi
  have heff := createResource2D_effect e (g := s.gpu)
    (SurfaceClient.virtioFormat format) width height
    (surfaceResourceId_ne_zero (s.client client).nextSurfaceId)
  refine ⟨?_, ?_, ?_, ?_, fun x hx => ?_, fun hstray k => ?_⟩
  · exact (ready_createResource2D ..).trans hi.ready
  · exact forall_client_update (P := fun c => c.surfaceCount = 0) hi.count (hi.count client)
  · exact forall_client_update (P := fun c => 0 < c.nextSurfaceId) hi.next_pos drawSurfaceId_pos
  · exact forall_client_update (P := fun c => c.nextSurfaceId < u32) hi.next_lt
      (drawSurfaceId_lt (hi.next_lt client))
  · dsimp only at hx
    split at hx
    · rcases List.mem_cons.mp hx with rfl | hx
      · exact hi.next_pos client
      · exact hi.live_pos x hx
    · exact hi.live_pos x hx
  · have hold := hi.matches_pool hstray k
    dsimp only
    rcases heff with ⟨hret, hreg⟩ | ⟨hret, hsame⟩
    · rw [if_pos hret, List.countP_cons, hreg.liveSlots, hold]
      by_cases hk : surfaceResourceId (s.client client).nextSurfaceId = k
      · subst hk
        simp [surfaceResourceId_ne_zero]
      · simp [hk]
    · rw [if_neg hret, hsame.liveSlots]
      exact hold

/-! ### destroySurface -/

theorem destroy_eq (s : SurfaceRun) (e : Env) (client sid : Nat) :
    s.destroy e.hostAccepts client sid =
      if (s.client client).mayDestroy sid = false then s else
      { s with
        gpu := (s.gpu.deallocateResource e.hostAccepts (surfaceResourceId sid)).2
        live := s.live.erase (client, sid)
        stray := sharing (s.live.erase (client, sid)) sid ++ s.stray } := by
  unfold destroy SurfaceClient.destroySurface
  by_cases hmay : (s.client client).mayDestroy sid = false
  · rw [if_pos hmay, if_pos hmay]
    rfl
  · rw [if_neg hmay, if_neg hmay, deallocateResource_hostAccepts]
    rfl

theorem inv_destroy {s : SurfaceRun} (e : Env) (client sid : Nat) (hi : s.Inv) :
    (s.destroy e.hostAccepts client sid).Inv := by
  rw [destroy_eq]
  split
  · exact hi
  refine ⟨hi.ready, hi.count, hi.next_pos, hi.next_lt,
    fun x hx => hi.live_pos x (List.mem_of_mem_erase hx), fun hstray k => ?_⟩
  dsimp only at hstray ⊢
  obtain ⟨hsharing, hstray⟩ := List.append_eq_nil_iff.mp hstray
  have hold := hi.matches_pool hstray k
  have hslots : (s.gpu.deallocateResource e.hostAccepts (surfaceResourceId sid)).2.liveSlots k =
      if k = surfaceResourceId sid then s.gpu.liveSlots (surfaceResourceId sid) - 1
      else s.gpu.liveSlots k :=
    SlotTable.mult_clear Gpu.resourceId_free (surfaceResourceId sid) k
  rw [hslots, List.countP_erase]
  by_cases hk : k = surfaceResourceId sid
  · subst hk
    rw [if_pos rfl, hold]
    by_cases hmem : (client, sid) ∈ s.live
    · simp [hmem]
    · rw [List.erase_of_not_mem hmem] at hsharing
      have h0 := countP_eq_zero_iff_sharing.mpr hsharing
      simp [hmem, h0]
  · rw [if_neg hk, hold]
    have hk' : ¬ surfaceResourceId sid = k := fun h => hk h.symm
    simp [hk']

/-! ### One call -/

theorem step_inv (s : SurfaceRun) (c : SurfaceCall × Env) (t : SurfaceRun) (hi : s.Inv)
    (h : s.step c = some t) : t.Inv := by
  obtain ⟨call, e⟩ := c
  cases call with
  | createSurface client width height format =>
      simp only [step, Option.ite_none_right_eq_some, Option.some.injEq] at h
      obtain ⟨-, rfl⟩ := h
      exact inv_create e client width height format hi
  | destroySurface client sid =>
      cases h
      exact inv_destroy e client sid hi

/-- A live surface can be destroyed as long as its owner's counter is past it. -/
theorem destroyable_iff {s : SurfaceRun} {x : Nat × Nat} (hx : 0 < x.2) :
    (∀ e : Env, ((s.client x.1).destroySurface e.hostAccepts s.gpu x.2).1 = .success) ↔
      x.2 < (s.client x.1).nextSurfaceId := by
  have hmay : (s.client x.1).mayDestroy x.2 = decide (x.2 < (s.client x.1).nextSurfaceId) := by
    unfold SurfaceClient.mayDestroy
    rw [decide_eq_false (by omega : ¬ x.2 = 0), Bool.false_or, ← decide_not]
    exact decide_eq_decide.mpr (by omega)
  unfold SurfaceClient.destroySurface
  rw [hmay]
  by_cases hlt : x.2 < (s.client x.1).nextSurfaceId
  · refine iff_of_true (fun e => ?_) hlt
    simp only [hlt, decide_true, Bool.true_eq_false, if_false]
    rfl
  · refine iff_of_false (fun h => ?_) hlt
    have hbad := h .accepting
    simp only [hlt, decide_false, if_true] at hbad
    cases hbad

/-- `Sound`, in terms of the counters. -/
theorem sound_iff {s : SurfaceRun} (hi : s.Inv) : s.Sound ↔
    (s.live.Pairwise fun x y => surfaceResourceId x.2 ≠ surfaceResourceId y.2) ∧
      s.refused = [] ∧ (∀ x ∈ s.live, x.2 < (s.client x.1).nextSurfaceId) ∧ s.stray = [] :=
  ⟨fun h => ⟨h.1, h.2, fun x hx => (destroyable_iff (hi.live_pos x hx)).mp (h.3 x hx), h.4⟩,
    fun ⟨h₁, h₂, h₃, h₄⟩ =>
      ⟨h₁, h₂, fun x hx => (destroyable_iff (hi.live_pos x hx)).mpr (h₃ x hx), h₄⟩⟩

/-- The counters are past the old surfaces and the new one unless drawing the
new one turned its counter back to 1. -/
theorem past_draw_iff {s : SurfaceRun} (client : Nat) (hi : s.Inv)
    (hlt : ∀ x ∈ s.live, x.2 < (s.client x.1).nextSurfaceId) :
    (∀ x ∈ (client, (s.client client).nextSurfaceId) :: s.live,
      x.2 < (Function.update s.client client (s.client client).drawSurfaceId x.1).nextSurfaceId) ↔
      (s.client client).nextSurfaceId ≠ u32 - 1 := by
  have hpos := hi.next_pos client
  constructor
  · intro h hmax
    have hnew := h _ List.mem_cons_self
    simp only [Function.update_self, SurfaceClient.drawSurfaceId, hmax, if_true] at hnew
    omega
  · intro hmax x hx
    have hdraw : (s.client client).drawSurfaceId.nextSurfaceId =
        (s.client client).nextSurfaceId + 1 := if_neg hmax
    rcases List.mem_cons.mp hx with rfl | hx
    · rw [Function.update_self, hdraw]
      exact Nat.lt_succ_self _
    · have hold := hlt x hx
      -- an old surface of the same client is below the counter drawn from
      by_cases hc : x.1 = client
      · rw [hc] at hold ⊢
        rw [Function.update_self, hdraw]
        omega
      · rw [Function.update_of_ne hc]
        exact hold

theorem sound_create_iff {s : SurfaceRun} (e : Env) (client width height format : Nat)
    (hi : s.Inv) (hs : s.Sound) (hfree : s.gpu.pool.freeIdx?.isSome = true) :
    (s.create e.hostAccepts client width height format).Sound ↔
      s.CallOk (.createSurface client width height format, e) := by
  have ht := inv_create e client width height format hi
  obtain ⟨hpair, hrefused, hlt, hstray⟩ := (sound_iff hi).mp hs
  rw [sound_iff ht, create_eq s _ client width height format hi]
  unfold CallOk
  by_cases hlim : SurfaceClient.inLimits width height = false
  · rw [if_pos hlim]
    exact iff_of_true ⟨hpair, hrefused, hlt, hstray⟩ fun hc => by rw [hlim] at hc; cases hc
  rw [if_neg hlim]
  rw [Bool.not_eq_false] at hlim
  have hslots := hi.matches_pool hstray (surfaceResourceId (s.client client).nextSurfaceId)
  dsimp only
  generalize hr : s.gpu.createResource2D e.hostAccepts
    (surfaceResourceId (s.client client).nextSurfaceId) (SurfaceClient.virtioFormat format)
    width height none = r
  by_cases hshare : sharing s.live (s.client client).nextSurfaceId = []
  swap
  · -- some live surface has the resource: the create is turned away
    have hpos : 0 < s.gpu.liveSlots (surfaceResourceId (s.client client).nextSurfaceId) := by
      rw [hslots]
      exact Nat.pos_of_ne_zero fun h => hshare (countP_eq_zero_iff_sharing.mp h)
    rw [Gpu.createResource2D_of_found hpos] at hr
    subst hr
    exact iff_of_false (fun hc => by simp at hc) fun hc => hshare (hc hlim).2.2
  have hnew : s.gpu.liveSlots (surfaceResourceId (s.client client).nextSurfaceId) = 0 := by
    rw [hslots]
    exact countP_eq_zero_iff_sharing.mpr hshare
  have hsucc : r.1 = .success ↔ backs e width height = true := by
    rw [← hr]
    exact createResource2D_succeeds_iff e _ width height hi.ready hfree hnew
  by_cases hback : backs e width height = true
  swap
  · have hfail : ¬ r.1 = .success := fun hc => hback (hsucc.mp hc)
    exact iff_of_false (fun hc => by simp [hfail] at hc) fun hc => hback (hc hlim).1
  have hok := hsucc.mpr hback
  rw [if_pos hok, if_neg (not_not.mpr hok)]
  have hpast := past_draw_iff client hi hlt
  constructor
  · rintro ⟨-, -, hlt', -⟩ -
    exact ⟨hback, hpast.mp hlt', hshare⟩
  · intro hcall
    obtain ⟨-, hmax, -⟩ := hcall hlim
    refine ⟨List.pairwise_cons.mpr ⟨fun x hx => ?_, hpair⟩, hrefused, hpast.mpr hmax, hstray⟩
    exact (sharing_eq_nil_iff.mp hshare x hx).symm

theorem sound_destroy_iff {s : SurfaceRun} (e : Env) (client sid : Nat) (hi : s.Inv)
    (hs : s.Sound) :
    (s.destroy e.hostAccepts client sid).Sound ↔ s.CallOk (.destroySurface client sid, e) := by
  have ht := inv_destroy e client sid hi
  obtain ⟨hpair, hrefused, hlt, hstray⟩ := (sound_iff hi).mp hs
  rw [sound_iff ht, destroy_eq]
  unfold CallOk
  by_cases hmay : (s.client client).mayDestroy sid = false
  · rw [if_pos hmay]
    exact iff_of_true ⟨hpair, hrefused, hlt, hstray⟩ fun hc => by rw [hmay] at hc; cases hc
  rw [if_neg hmay]
  rw [Bool.not_eq_false] at hmay
  dsimp only
  rw [List.append_eq_nil_iff]
  constructor
  · rintro ⟨-, -, -, hshare, -⟩ -
    exact hshare
  · intro hcall
    exact ⟨hpair.sublist List.erase_sublist, hrefused,
      fun x hx => hlt x (List.mem_of_mem_erase hx), hcall hmay, hstray⟩

/-- **Surfaces are sound exactly along the runs whose calls are all `CallOk`.** -/
theorem always_sound_iff (supports3D : Bool) (maxScanouts : Nat)
    (calls : List (SurfaceCall × Env)) :
    (machine supports3D maxScanouts).Always Sound (machine supports3D maxScanouts).init calls ↔
      (machine supports3D maxScanouts).Along CallOk
        (machine supports3D maxScanouts).init calls := by
  have hone : 1 < u32 := by decide
  have hinit : (machine supports3D maxScanouts).init.Inv :=
    ⟨rfl, fun _ => rfl, fun _ => Nat.one_pos, fun _ => hone, fun x hx => (by cases hx),
      fun _ k => Gpu.liveSlots_init supports3D maxScanouts k⟩
  have hsound : (machine supports3D maxScanouts).init.Sound :=
    ⟨List.Pairwise.nil, rfl, fun x hx => (by cases hx), rfl⟩
  refine (machine supports3D maxScanouts).always_iff_along step_inv (fun s c t hi hs h => ?_)
    hinit hsound
  obtain ⟨call, e⟩ := c
  cases call with
  | createSurface client width height format =>
      simp only [machine, step, Option.ite_none_right_eq_some, Option.some.injEq] at h
      obtain ⟨hfree, rfl⟩ := h
      exact sound_create_iff e client width height format hi hs hfree
  | destroySurface client sid =>
      cases h
      exact sound_destroy_iff e client sid hi hs

/-- The first surface of a second client is refused. -/
theorem second_client_refused :
    ¬ (machine true 1).Always Sound (machine true 1).init
      [(.createSurface 0 640 480 0, .accepting), (.createSurface 1 640 480 0, .accepting)] := by
  intro h
  have hrun : ((machine true 1).run (machine true 1).init
      [(.createSurface 0 640 480 0, .accepting), (.createSurface 1 640 480 0, .accepting)]).any
      (fun s => decide (s.refused = [1])) = true := by
    decide
  obtain ⟨s, hs, hrefused⟩ := h.of_any _ hrun
  rw [decide_eq_true_eq, hs.creates] at hrefused
  cases hrefused

end SurfaceRun
end VMQemuVGA
