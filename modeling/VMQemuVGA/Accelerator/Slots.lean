import Mathlib.Data.List.Pairwise
import VMQemuVGA.Lib.PointerArray
import VMQemuVGA.Accelerator.Clients

/-! # The two pools as the accelerator keeps them

`m_context_pool` and `m_surface_pool` are arrays of pointers, with a count and
a capacity beside each. `Accelerator` holds them as `Pool`s; here every call is
followed on the arrays, for whatever the device, the allocator and the
collection come to. -/

namespace VMQemuVGA

/-! ## Objects and pools -/

/-- An `AccelContext` or `AccelSurface`: where it is, and its id, which is
written once. -/
structure AccelObject where
  address : Nat
  id : Nat
  deriving DecidableEq, Repr

/-- One of the pools and the counter its ids are drawn from. The code keeps
neither the objects that were added and not removed, nor the number of ids. -/
structure AccelPool where
  pool : PointerArray AccelObject
  /-- `m_next_context_id` or `m_next_surface_id` -/
  nextId : Nat
  live : List AccelObject
  issued : Nat

namespace AccelPool

/-- A pool of `n` slots; the counter starts at `1` and is counted up first. -/
def init (n : Nat) : AccelPool := ⟨.empty n, 1, [], 0⟩

/-- `findContext` and `findSurface`. -/
def find (p : AccelPool) (id : Nat) : Option AccelObject := p.pool.find? fun x => x.id == id

/-- `++m_next_context_id` and `++m_next_surface_id`. -/
def drawId (p : AccelPool) : AccelPool :=
  { p with nextId := inc32 p.nextId, issued := p.issued + 1 }

/-- `poolAddContext` and `poolAddSurface`, growing where they must. -/
def poolAdd (newCap : Option Nat) (x : AccelObject) (p : AccelPool) : Bool × AccelPool :=
  let (added, pool) := p.pool.add x newCap
  (added, { p with pool := pool, live := if added then x :: p.live else p.live })

/-- `poolRemoveContext` and `poolRemoveSurface`; the object is freed after. -/
def poolRemove (x : AccelObject) (p : AccelPool) : AccelPool :=
  { p with
    pool := p.pool.remove fun y => y.address == x.address
    live := p.live.filter fun y => y.address != x.address }

/-- How `stop` leaves the surface pool. -/
def clear (p : AccelPool) : AccelPool := { p with pool := p.pool.clear, live := [] }

end AccelPool

structure AccelPools where
  contexts : AccelPool
  surfaces : AccelPool

/-- What the surroundings answer during one call, as far as the pools go. -/
structure SlotEnv extends AccelEnv where
  /-- what the device answers to the call -/
  gpuRet : IOReturn
  /-- where `ioMallocZero` puts the object -/
  address : Nat
  /-- whether a strategy of the collection frees what is in a slot -/
  frees : Nat → Nat → Bool

/-! ## Operations -/

namespace AccelPools

/-- The pools as `init` leaves them. -/
def init : AccelPools := ⟨.init 16, .init 64⟩

def findContext (s : AccelPools) (id : Nat) : Option AccelObject := s.contexts.find id

def findSurface (s : AccelPools) (id : Nat) : Option AccelObject := s.surfaces.find id

/-- `poolAddContext`. -/
def poolAddContext (e : SlotEnv) (s : AccelPools) (x : AccelObject) : Bool × AccelPools :=
  let newCap := grownCapacity e.toAccelEnv .contextPool 16 s.contexts.pool.slots.length
  let (added, p) := s.contexts.poolAdd newCap x
  (added, { s with contexts := p })

/-- `poolAddSurface`. -/
def poolAddSurface (e : SlotEnv) (s : AccelPools) (x : AccelObject) : Bool × AccelPools :=
  let newCap := grownCapacity e.toAccelEnv .surfacePool 64 s.surfaces.pool.slots.length
  let (added, p) := s.surfaces.poolAdd newCap x
  (added, { s with surfaces := p })

def poolRemoveContext (s : AccelPools) (x : AccelObject) : AccelPools :=
  { s with contexts := s.contexts.poolRemove x }

def poolRemoveSurface (s : AccelPools) (x : AccelObject) : AccelPools :=
  { s with surfaces := s.surfaces.poolRemove x }

def drawContextId (s : AccelPools) : AccelPools := { s with contexts := s.contexts.drawId }

def drawSurfaceId (s : AccelPools) : AccelPools := { s with surfaces := s.surfaces.drawId }

def create3DContext (e : SlotEnv) (s : AccelPools) : IOReturn × AccelPools :=
  if e.gpuRet ≠ .success then (e.gpuRet, s)
  else if e.accelAlloc .context = false then (.noMemory, s) else
  let s₁ := s.drawContextId
  let (added, s₂) := s₁.poolAddContext e ⟨e.address, s₁.contexts.nextId⟩
  (if added then .success else .noMemory, s₂)

def destroyContextInternal (s : AccelPools) (ctx : Nat) : IOReturn × AccelPools :=
  match s.findContext ctx with
  | none => (.notFound, s)
  | some x => (.success, s.poolRemoveContext x)

/-- From `ioMallocZero` on, `create3DSurface` and `createSurfaceInternal` treat
the surface pool alike; they differ in the size of the backing memory. -/
def newSurface (e : SlotEnv) (s : AccelPools) (size : Nat) : IOReturn × AccelPools :=
  if e.accelAlloc .surface = false then (.noMemory, s) else
  let s₁ := s.drawSurfaceId
  match e.withCapacity size with
  | none => (.noMemory, s₁)
  | some _ =>
      let (added, s₂) := s₁.poolAddSurface e ⟨e.address, s₁.surfaces.nextId⟩
      (if added then .success else .noMemory, s₂)

def create3DSurface (e : SlotEnv) (s : AccelPools) (ctx : Nat) (info : SurfaceInfo) :
    IOReturn × AccelPools :=
  match s.findContext ctx with
  | none => (.notFound, s)
  | some _ =>
      if e.gpuRet ≠ .success then (e.gpuRet, s)
      else s.newSurface e (calculateSurfaceSize info)

def createSurfaceInternal (e : SlotEnv) (s : AccelPools) (ctx : Nat) (info : SurfaceInfo) :
    IOReturn × AccelPools :=
  match s.findContext ctx with
  | none => (.badArgument, s)
  | some _ => s.newSurface e (info.width * info.height * info.depth * 4 % u32)

def destroy3DSurface (s : AccelPools) (ctx surface : Nat) : IOReturn × AccelPools :=
  match s.findContext ctx, s.findSurface surface with
  | some _, some x => (.success, s.poolRemoveSurface x)
  | _, _ => (.badArgument, s)

def destroySurfaceInternal (s : AccelPools) (surface : Nat) : IOReturn × AccelPools :=
  match s.findSurface surface with
  | none => (.badArgument, s)
  | some x => (.success, s.poolRemoveSurface x)

/-- The depth part of `createFramebuffer`; a failure takes the colour surface
back, if there is one. -/
def addDepthSurface (e : SlotEnv) (s : AccelPools) (ctx color : Nat) (info : SurfaceInfo) :
    IOReturn × AccelPools :=
  if info.format = 0 then (.success, s) else
  let (ret, s₁) := s.createSurfaceInternal e ctx info
  if ret = .success then (.success, s₁)
  else if color = 0 then (ret, s₁)
  else (ret, (s₁.destroySurfaceInternal color).2)

/-- `createFramebuffer`; `e'` answers for the depth surface. -/
def createFramebuffer (e e' : SlotEnv) (s : AccelPools)
    (ctx width height colorFormat depthFormat : Nat) : IOReturn × AccelPools :=
  if (s.findContext ctx).isNone then (.badArgument, s)
  else if Accelerator.framebufferFits width height = false then (.badArgument, s)
  else if colorFormat = 0 then s.addDepthSurface e' ctx 0 ⟨depthFormat, width, height, 1⟩ else
  let (ret, s₁) := s.createSurfaceInternal e ctx ⟨colorFormat, width, height, 1⟩
  if ret ≠ .success then (ret, s₁)
  else s₁.addDepthSurface e' ctx s₁.surfaces.nextId ⟨depthFormat, width, height, 1⟩

/-- One strategy of the collection goes over the surface slots. -/
def freeSurfaces (frees : Nat → Bool) (s : AccelPools) : AccelPools :=
  PointerArray.forSlots (fun s => s.surfaces.pool)
    (fun si x s => if frees si then s.poolRemoveSurface x else s) s.surfaces.pool.slots.length s

/-- `garbageCollectTextures`: three strategies, one after the other. Which
surfaces they free is left open. -/
def garbageCollectTextures (e : SlotEnv) (s : AccelPools) : IOReturn × AccelPools :=
  (.success, ((s.freeSurfaces (e.frees 1)).freeSurfaces (e.frees 2)).freeSurfaces (e.frees 3))

/-- `endRenderPass`: a pass the device or the framebuffer completed is followed
by a collection. -/
def endRenderPass (e e' : SlotEnv) (s : AccelPools) (ctx : Nat) : IOReturn × AccelPools :=
  match s.findContext ctx with
  | none => (.notFound, s)
  | some _ =>
      if e.gpuRet ≠ .success ∧ e.framebuffer ≠ some .success then (.success, s)
      else (.success, (s.garbageCollectTextures e').2)

/-- `stop`: every context by its id, then the surfaces in their slots. -/
def stop (s : AccelPools) : AccelPools :=
  let s₁ := PointerArray.forSlots (fun s => s.contexts.pool)
    (fun _ x s => (s.destroyContextInternal x.id).2) s.contexts.pool.slots.length s
  { s₁ with surfaces := s₁.surfaces.clear }

/-- Make a call; those that are not named do not touch the pools. -/
def call (e e' : SlotEnv) (s : AccelPools) : AccelCall → IOReturn × AccelPools
  | .create3DContext => s.create3DContext e
  | .destroy3DContext ctx => s.destroyContextInternal ctx
  | .endRenderPass ctx => s.endRenderPass e e' ctx
  | .create3DSurface ctx info => s.create3DSurface e ctx info
  | .destroy3DSurface ctx surface => s.destroy3DSurface ctx surface
  | .createFramebuffer ctx width height colorFormat depthFormat =>
      s.createFramebuffer e e' ctx width height colorFormat depthFormat
  | .garbageCollectTextures => s.garbageCollectTextures e
  | _ => (e.gpuRet, s)

/-! ## Runs -/

/-- Nothing that is in use is at the address. -/
def vacant (s : AccelPools) (address : Nat) : Bool :=
  (s.contexts.live ++ s.surfaces.live).all fun x => x.address != address

/-- A call or a `stop`. The addresses the allocator gives out during it are of
objects not in use, nor are two the same. -/
def step (s : AccelPools) (call : Option AccelCall) (e e' : SlotEnv) : Option AccelPools :=
  if s.vacant e.address && s.vacant e'.address && e.address != e'.address then
    match call with
    | none => some s.stop
    | some c => some (s.call e e' c).2
  else none

def machine : Machine AccelPools (Option AccelCall × SlotEnv × SlotEnv) where
  init := init
  step := fun s c => s.step c.1 c.2.1 c.2.2

end AccelPools

/-! ## Finite maps

What the two pools are for. -/

/-- The array is a finite map from ids to the objects added and not removed. -/
structure AccelPool.FiniteMap (p : AccelPool) : Prop where
  count : p.pool.count = p.pool.slots.countP Option.isSome
  once : ∀ x ∈ p.live, p.pool.slots.count (some x) = 1
  only : ∀ x, some x ∈ p.pool.slots → x ∈ p.live
  distinct : (p.live.map AccelObject.id).Nodup
  find : ∀ id x, p.find id = some x ↔ x ∈ p.live ∧ x.id = id
  keeps : ∀ (newCap : Option Nat) (x y : AccelObject) (i : Nat),
    p.pool.slots[i]? = some (some y) → (p.poolAdd newCap x).2.pool.slots[i]? = some (some y)

/-! ## What every operation keeps -/

/-- The count is right, the slots hold the live objects, and these differ in
address. The capacity is a power of two, so that doubling leads to a larger one
or to `0`. As long as the counter has not come round, ids differ too. -/
structure AccelPool.Kept (p : AccelPool) : Prop where
  counted : p.pool.Counted
  holds : p.pool.entries.Perm p.live
  addresses : (p.live.map AccelObject.address).Nodup
  capacity : ∃ k, k < 32 ∧ p.pool.slots.length = 2 ^ k
  counter : p.nextId = (p.issued + 1) % u32
  serial : ∀ x ∈ p.live, ∃ k, 0 < k ∧ k ≤ p.issued ∧ x.id = (k + 1) % u32
  distinct : p.issued < u32 → (p.live.map AccelObject.id).Nodup

/-- Growing doubles, or does not happen. -/
theorem grownCapacity_eq_some {e : AccelEnv} {site : AccelSite} {initial k n : Nat} (hk : k < 32)
    (h : grownCapacity e site initial (2 ^ k) = some n) : k + 1 < 32 ∧ n = 2 ^ (k + 1) := by
  have hpos : 2 ^ k ≠ 0 := Nat.ne_of_gt (Nat.two_pow_pos k)
  unfold grownCapacity at h
  rw [if_neg hpos, ← Nat.pow_succ] at h
  have hne : k ≠ 31 := by
    rintro rfl
    have hz : 2 ^ (31 + 1) % u32 = 0 := rfl
    rw [hz] at h
    simp at h
  have hlt : 2 ^ (k + 1) < u32 := Nat.pow_lt_pow_right (by omega) (by omega)
  rw [Nat.mod_eq_of_lt hlt] at h
  dsimp only at h
  split at h
  · cases h
  · exact ⟨by omega, (Option.some.inj h).symm⟩

/-- Where keys differ, erasing one is filtering it out. -/
theorem eraseP_eq_filter {l : List AccelObject} (h : (l.map AccelObject.address).Nodup) (a : Nat) :
    l.eraseP (fun x => x.address == a) = l.filter fun x => x.address != a := by
  induction l with
  | nil => rfl
  | cons x l ih =>
      obtain ⟨hx, hl⟩ := List.nodup_cons.mp h
      by_cases ha : x.address = a
      · have hnot : ∀ y ∈ l, (y.address != a) = true := by
          intro y hy
          refine bne_iff_ne.mpr fun hya => hx ?_
          exact List.mem_map.mpr ⟨y, hy, hya.trans ha.symm⟩
        rw [List.eraseP_cons_of_pos (by simpa using ha),
          List.filter_cons_of_neg (by simpa using ha)]
        exact (List.filter_eq_self.mpr hnot).symm
      · rw [List.eraseP_cons_of_neg (by simpa using ha),
          List.filter_cons_of_pos (by simpa using ha), ih hl]

namespace AccelPool
variable {p : AccelPool}

theorem kept_init {k : Nat} (hk : k < 32) : (init (2 ^ k)).Kept where
  counted := by
    show 0 = (List.filterMap id (List.replicate (2 ^ k) none)).length
    rw [List.filterMap_replicate_of_none rfl, List.length_nil]
  holds := by
    show (List.filterMap id (List.replicate (2 ^ k) none)).Perm []
    rw [List.filterMap_replicate_of_none rfl]
  addresses := List.nodup_nil
  capacity := ⟨k, hk, List.length_replicate⟩
  counter := rfl
  serial := fun x hx => by cases hx
  distinct := fun _ => List.nodup_nil

/-- A drawn id is that of no live object until the counter comes round. -/
theorem Kept.fresh (h : p.Kept) (hissued : p.issued + 1 < u32) :
    p.drawId.nextId ∉ p.live.map AccelObject.id := by
  intro hmem
  obtain ⟨x, hx, hid⟩ := List.mem_map.mp hmem
  obtain ⟨k, hpos, hle, hk⟩ := h.serial x hx
  have hnext : p.drawId.nextId = (p.issued + 2) % u32 := by
    show inc32 p.nextId = _
    rw [inc32, h.counter, Nat.mod_add_mod]
  rw [hnext, hk, u32_eq] at hid
  rw [u32_eq] at hissued
  omega

theorem Kept.drawId (h : p.Kept) : p.drawId.Kept where
  counted := h.counted
  holds := h.holds
  addresses := h.addresses
  capacity := h.capacity
  counter := by
    show inc32 p.nextId = (p.issued + 1 + 1) % u32
    rw [inc32, h.counter, Nat.mod_add_mod]
  serial := by
    intro x hx
    obtain ⟨k, hpos, hle, hk⟩ := h.serial x hx
    exact ⟨k, hpos, Nat.le_succ_of_le hle, hk⟩
  distinct := fun hissued => h.distinct (Nat.lt_of_succ_lt hissued)

/-- On an array that is a pool, adding is adding to the pool. -/
theorem Kept.poolAdd_cases (h : p.Kept) (e : AccelEnv) (site : AccelSite) (initial : Nat)
    (x : AccelObject) :
    let newCap := grownCapacity e site initial p.pool.slots.length
    p.poolAdd newCap x = (false, p) ∨
    ∃ q, q.Counted ∧ q.entries.Perm (x :: p.live) ∧ (∃ k, k < 32 ∧ q.slots.length = 2 ^ k) ∧
      p.poolAdd newCap x = (true, { p with pool := q, live := x :: p.live }) := by
  intro newCap
  obtain ⟨k, hk, hlen⟩ := h.capacity
  have hgrow : ∀ n, newCap = some n → p.pool.slots.length < n ∧ ∃ k, k < 32 ∧ n = 2 ^ k := by
    intro n hn
    have hn' : grownCapacity e site initial (2 ^ k) = some n := hlen ▸ hn
    obtain ⟨hk', rfl⟩ := grownCapacity_eq_some hk hn'
    refine ⟨?_, k + 1, hk', rfl⟩
    rw [hlen]
    exact Nat.pow_lt_pow_right (by omega) (by omega)
  have hlength := p.pool.length_add x fun n hn => (hgrow n hn).1
  obtain ⟨q, hq⟩ := PointerArray.counted_iff_ofPool.mp h.counted
  have hslots : q.slots = p.pool.slots := congrArg PointerArray.slots hq.symm
  have hentries : q.entries = p.pool.entries := congrArg PointerArray.entries hq.symm
  have hadd := PointerArray.add_ofPool q x fun n hn => hslots ▸ (hgrow n hn).1
  rw [← hq] at hadd
  unfold poolAdd
  cases hx : q.add x newCap with
  | none =>
      rw [hx] at hadd
      left
      simp only [hadd, Option.getD_none, ← hq]
      rfl
  | some r =>
      rw [hx] at hadd
      right
      have hperm := (Pool.entries_add hx).trans (hentries ▸ h.holds.cons x)
      refine ⟨.ofPool r, r.count_eq, hperm, ?_, by simp only [hadd]; rfl⟩
      rw [hadd] at hlength
      rcases hlength with hsame | hnew
      · exact ⟨k, hk, hsame.trans hlen⟩
      · exact (hgrow _ hnew).2

/-- A new object under a new id. -/
theorem Kept.enter (h : p.Kept) {e : AccelEnv} {site : AccelSite} {initial address : Nat}
    (hvacant : address ∉ p.live.map AccelObject.address) :
    (p.drawId.poolAdd (grownCapacity e site initial p.pool.slots.length)
      ⟨address, p.drawId.nextId⟩).2.Kept := by
  have hdraw := h.drawId
  rcases hdraw.poolAdd_cases e site initial
    ⟨address, p.drawId.nextId⟩ with hfail | ⟨q, hcounted, hholds, hcap, hok⟩
  · exact congrArg Prod.snd hfail ▸ hdraw
  · refine congrArg Prod.snd hok ▸ ⟨hcounted, hholds, ?_, hcap, hdraw.counter, ?_, ?_⟩
    · exact List.nodup_cons.mpr ⟨hvacant, h.addresses⟩
    · intro x hx
      rcases List.mem_cons.mp hx with rfl | hx
      · exact ⟨p.issued + 1, Nat.succ_pos _, Nat.le_refl _, hdraw.counter⟩
      · exact hdraw.serial x hx
    · intro hissued
      exact List.nodup_cons.mpr ⟨h.fresh hissued, h.distinct (Nat.lt_of_succ_lt hissued)⟩

theorem Kept.poolRemove (h : p.Kept) (x : AccelObject) : (p.poolRemove x).Kept := by
  obtain ⟨q, hq⟩ := PointerArray.counted_iff_ofPool.mp h.counted
  have hsub : (p.poolRemove x).live.Sublist p.live := List.filter_sublist
  have hpool : (p.poolRemove x).pool = .ofPool (q.remove fun y => y.address == x.address) := by
    rw [← PointerArray.remove_ofPool, ← hq]
    rfl
  refine ⟨?_, ?_, h.addresses.sublist (hsub.map _), ?_, h.counter, ?_, ?_⟩
  · exact PointerArray.counted_iff_ofPool.mpr ⟨_, hpool⟩
  · have hentries : q.entries = p.pool.entries := congrArg PointerArray.entries hq.symm
    have hq' : q.entries.Perm p.live := hentries ▸ h.holds
    have haddr : (q.entries.map AccelObject.address).Nodup :=
      (hq'.map _).nodup_iff.mpr h.addresses
    rw [hpool, PointerArray.entries_ofPool, Pool.entries_remove, eraseP_eq_filter haddr]
    exact hq'.filter _
  · obtain ⟨k, hk, hlen⟩ := h.capacity
    exact ⟨k, hk, (PointerArray.length_remove _ _).trans hlen⟩
  · exact fun y hy => h.serial y (hsub.subset hy)
  · exact fun hissued => (h.distinct hissued).sublist (hsub.map _)

theorem Kept.clear (h : p.Kept) : p.clear.Kept where
  counted := by
    show 0 = p.pool.clear.entries.length
    rw [PointerArray.entries_clear, List.length_nil]
  holds := by
    show p.pool.clear.entries.Perm []
    rw [PointerArray.entries_clear]
  addresses := List.nodup_nil
  capacity := by
    obtain ⟨k, hk, hlen⟩ := h.capacity
    exact ⟨k, hk, (PointerArray.length_clear _).trans hlen⟩
  counter := h.counter
  serial := fun x hx => by cases hx
  distinct := fun _ => List.nodup_nil

/-- **What is kept makes a finite map**, until the counter comes round. -/
theorem Kept.finiteMap (h : p.Kept) (hissued : p.issued < u32) : p.FiniteMap where
  count := by
    rw [h.counted]
    unfold PointerArray.entries
    generalize p.pool.slots = slots
    induction slots with
    | nil => rfl
    | cons o slots ih =>
        cases o with
        | none =>
            rw [List.countP_cons_of_neg Bool.false_ne_true]
            exact ih
        | some x =>
            rw [List.countP_cons_of_pos rfl]
            exact congrArg (· + 1) ih
  once := by
    intro x hx
    have hnodup : p.pool.entries.Nodup :=
      h.holds.nodup_iff.mpr (List.Nodup.of_map _ h.addresses)
    exact PointerArray.count_slots hnodup (h.holds.mem_iff.mpr hx)
  only := fun x hx => h.holds.mem_iff.mp (PointerArray.mem_entries.mpr hx)
  distinct := h.distinct hissued
  find := by
    intro id x
    have hids : (p.pool.entries.map AccelObject.id).Nodup :=
      (h.holds.map _).nodup_iff.mpr (h.distinct hissued)
    rw [← h.holds.mem_iff]
    constructor
    · intro hfind
      exact ⟨List.mem_of_find?_eq_some hfind, by simpa using List.find?_some hfind⟩
    · rintro ⟨hx, rfl⟩
      show p.pool.entries.find? (fun y => y.id == x.id) = some x
      cases hfind : p.pool.entries.find? (fun y => y.id == x.id) with
      | none => exact absurd (List.find?_eq_none.mp hfind x hx) (by simp)
      | some y =>
          have hy : y ∈ p.pool.entries := List.mem_of_find?_eq_some hfind
          have hid : y.id = x.id := by simpa using List.find?_some hfind
          rw [List.inj_on_of_nodup_map hids hy hx hid]
  keeps := fun newCap x y i hi => PointerArray.getElem?_add h.counted hi

end AccelPool

/-! ## Every call keeps both pools -/

namespace AccelPools
variable {e e' : SlotEnv} {s : AccelPools}

/-- Both pools are kept. -/
structure Kept (s : AccelPools) : Prop where
  contexts : s.contexts.Kept
  surfaces : s.surfaces.Kept

theorem vacant_iff {address : Nat} : s.vacant address = true ↔
    address ∉ s.contexts.live.map AccelObject.address ∧
    address ∉ s.surfaces.live.map AccelObject.address := by
  unfold vacant
  simp only [List.all_append, Bool.and_eq_true, List.all_eq_true, bne_iff_ne, ne_eq,
    List.mem_map, not_exists, not_and]

theorem kept_init : init.Kept := ⟨AccelPool.kept_init (k := 4) (by decide),
  AccelPool.kept_init (k := 6) (by decide)⟩

theorem Kept.create3DContext (h : s.Kept) (hvacant : s.vacant e.address = true) :
    (s.create3DContext e).2.Kept := by
  unfold AccelPools.create3DContext
  split
  · exact h
  · split
    · exact h
    · exact ⟨h.contexts.enter (vacant_iff.mp hvacant).1, h.surfaces⟩

theorem Kept.poolRemoveContext (h : s.Kept) (x : AccelObject) : (s.poolRemoveContext x).Kept :=
  ⟨h.contexts.poolRemove x, h.surfaces⟩

theorem Kept.poolRemoveSurface (h : s.Kept) (x : AccelObject) : (s.poolRemoveSurface x).Kept :=
  ⟨h.contexts, h.surfaces.poolRemove x⟩

theorem Kept.destroyContextInternal (h : s.Kept) (ctx : Nat) :
    (s.destroyContextInternal ctx).2.Kept := by
  unfold AccelPools.destroyContextInternal
  split
  · exact h
  · exact h.poolRemoveContext _

theorem Kept.newSurface (h : s.Kept) (hvacant : s.vacant e.address = true) (size : Nat) :
    (s.newSurface e size).2.Kept := by
  unfold AccelPools.newSurface
  split
  · exact h
  · split
    · exact ⟨h.contexts, h.surfaces.drawId⟩
    · exact ⟨h.contexts, h.surfaces.enter (vacant_iff.mp hvacant).2⟩

theorem Kept.createSurfaceInternal (h : s.Kept) (hvacant : s.vacant e.address = true) (ctx : Nat)
    (info : SurfaceInfo) : (s.createSurfaceInternal e ctx info).2.Kept := by
  unfold AccelPools.createSurfaceInternal
  split
  · exact h
  · exact h.newSurface hvacant _

theorem Kept.destroySurfaceInternal (h : s.Kept) (surface : Nat) :
    (s.destroySurfaceInternal surface).2.Kept := by
  unfold AccelPools.destroySurfaceInternal
  split
  · exact h
  · exact h.poolRemoveSurface _

theorem Kept.addDepthSurface (h : s.Kept) (hvacant : s.vacant e.address = true) (ctx color : Nat)
    (info : SurfaceInfo) : (s.addDepthSurface e ctx color info).2.Kept := by
  have hcreate := h.createSurfaceInternal hvacant ctx info
  unfold AccelPools.addDepthSurface
  split
  · exact h
  · dsimp only
    split
    · exact hcreate
    · split
      · exact hcreate
      · exact hcreate.destroySurfaceInternal color

/-- A new surface takes up no address but its own. -/
theorem vacant_createSurfaceInternal {address ctx : Nat} {info : SurfaceInfo}
    (hvacant : s.vacant address = true) (hne : e.address ≠ address) :
    (s.createSurfaceInternal e ctx info).2.vacant address = true := by
  have hadd : ∀ (newCap : Option Nat) (p : AccelPool) (id : Nat),
      address ∉ p.live.map AccelObject.address →
      address ∉ (p.poolAdd newCap ⟨e.address, id⟩).2.live.map AccelObject.address := by
    intro newCap p id hp
    unfold AccelPool.poolAdd
    dsimp only
    split
    · exact List.not_mem_cons_of_ne_of_not_mem hne.symm hp
    · exact hp
  unfold AccelPools.createSurfaceInternal
  split
  · exact hvacant
  · unfold AccelPools.newSurface
    split
    · exact hvacant
    · split
      · exact hvacant
      · obtain ⟨hcontexts, hsurfaces⟩ := vacant_iff.mp hvacant
        exact vacant_iff.mpr ⟨hcontexts, hadd _ s.surfaces.drawId _ hsurfaces⟩

theorem Kept.createFramebuffer (h : s.Kept) (he : s.vacant e.address = true)
    (he' : s.vacant e'.address = true) (hne : e.address ≠ e'.address)
    (ctx width height colorFormat depthFormat : Nat) :
    (s.createFramebuffer e e' ctx width height colorFormat depthFormat).2.Kept := by
  unfold AccelPools.createFramebuffer
  split
  · exact h
  · split
    · exact h
    · split
      · exact h.addDepthSurface he' _ _ _
      · dsimp only
        split
        · exact h.createSurfaceInternal he _ _
        · exact (h.createSurfaceInternal he _ _).addDepthSurface
            (vacant_createSurfaceInternal he' hne) _ _ _

theorem Kept.freeSurfaces (h : s.Kept) (frees : Nat → Bool) : (s.freeSurfaces frees).Kept := by
  unfold AccelPools.freeSurfaces
  refine PointerArray.forSlots_induct ?_ _ h
  intro si x t ht _
  split
  · exact ht.poolRemoveSurface x
  · exact ht

theorem Kept.garbageCollectTextures (h : s.Kept) : (s.garbageCollectTextures e).2.Kept :=
  ((h.freeSurfaces _).freeSurfaces _).freeSurfaces _

theorem Kept.endRenderPass (h : s.Kept) (ctx : Nat) : (s.endRenderPass e e' ctx).2.Kept := by
  unfold AccelPools.endRenderPass
  split
  · exact h
  · split
    · exact h
    · exact h.garbageCollectTextures

theorem Kept.create3DSurface (h : s.Kept) (hvacant : s.vacant e.address = true) (ctx : Nat)
    (info : SurfaceInfo) : (s.create3DSurface e ctx info).2.Kept := by
  unfold AccelPools.create3DSurface
  split
  · exact h
  · split
    · exact h
    · exact h.newSurface hvacant _

theorem Kept.destroy3DSurface (h : s.Kept) (ctx surface : Nat) :
    (s.destroy3DSurface ctx surface).2.Kept := by
  unfold AccelPools.destroy3DSurface
  split
  · exact h.poolRemoveSurface _
  · exact h

/-- `stop` frees each context by its id while it goes over the array. -/
theorem Kept.stop (h : s.Kept) : s.stop.Kept := by
  have hcontexts : (PointerArray.forSlots (fun s => s.contexts.pool)
      (fun _ x s => (s.destroyContextInternal x.id).2) s.contexts.pool.slots.length s).Kept := by
    apply PointerArray.forSlots_induct _ _ h
    intro _ x t ht _
    exact ht.destroyContextInternal x.id
  exact ⟨hcontexts.contexts, hcontexts.surfaces.clear⟩

theorem Kept.call (h : s.Kept) (he : s.vacant e.address = true) (he' : s.vacant e'.address = true)
    (hne : e.address ≠ e'.address) (c : AccelCall) : (s.call e e' c).2.Kept := by
  cases c with
  | create3DContext => exact h.create3DContext he
  | destroy3DContext ctx => exact h.destroyContextInternal ctx
  | submit3DCommands ctx commands => exact h
  | beginRenderPass ctx => exact h
  | endRenderPass ctx => exact h.endRenderPass ctx
  | present3DSurface ctx surface => exact h
  | create3DSurface ctx info => exact h.create3DSurface he ctx info
  | destroy3DSurface ctx surface => exact h.destroy3DSurface ctx surface
  | createFramebuffer ctx width height colorFormat depthFormat =>
      exact h.createFramebuffer he he' hne ctx width height colorFormat depthFormat
  | garbageCollectTextures => exact h.garbageCollectTextures

/-- **One step.** -/
theorem Kept.step {t : AccelPools} {c : Option AccelCall} (h : s.Kept)
    (hstep : s.step c e e' = some t) : t.Kept := by
  unfold AccelPools.step at hstep
  split at hstep
  · next hvacant =>
    rw [Bool.and_eq_true, Bool.and_eq_true, bne_iff_ne] at hvacant
    obtain ⟨⟨he, he'⟩, hne⟩ := hvacant
    cases c with
    | none =>
        cases hstep
        exact h.stop
    | some c =>
        cases hstep
        exact h.call he he' hne c
  · cases hstep

/-- **The pools are finite maps**, all along every run, each as long as fewer
than `2 ^ 32` ids have been drawn for it. -/
theorem pools_finiteMap (events : List (Option AccelCall × SlotEnv × SlotEnv)) :
    machine.Always
      (fun s => (s.contexts.issued < u32 → s.contexts.FiniteMap) ∧
        (s.surfaces.issued < u32 → s.surfaces.FiniteMap))
      machine.init events := by
  have hkept : machine.Always Kept machine.init events := by
    apply machine.always_of_along (C := fun _ _ => True) _ kept_init (machine.along_true _ _)
    intro s c t hs _ hstep
    exact hs.step hstep
  exact hkept.imp machine fun s hs => ⟨hs.contexts.finiteMap, hs.surfaces.finiteMap⟩

end AccelPools
end VMQemuVGA
