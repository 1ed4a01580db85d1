import Mathlib.Logic.Function.Basic
import VMQemuVGA.Lib.Machine
import VMQemuVGA.Gpu.Device

/-! # Does the resource pool track the host?

The pool is meant to hold exactly the ids whose last create succeeded and that
were not deallocated since. Every operation is summed up by what it does to
the pool (`SamePool`, `Registers`, or a tombstone); from there on only the
number of slots that hold an id matters. -/

namespace VMQemuVGA
namespace Gpu

/-! ## What the operations do to the pool -/

/-- The number of live slots that hold `id`. -/
def liveSlots (g : Gpu) (id : Nat) : Nat := g.pool.mult id

/-- Slots from the high-water mark on are free. -/
def HighWater (g : Gpu) : Prop := ∀ i, g.resourceCount ≤ i → i < 64 → g.pool.IsFree i

def SamePool (g g' : Gpu) : Prop := g'.pool = g.pool ∧ g'.resourceCount = g.resourceCount

/-- The first free slot now holds `id`. -/
def Registers (g g' : Gpu) (id : Nat) : Prop :=
  ∃ i r, g.pool.freeIdx? = some i ∧ r.resourceId = id ∧ g'.pool = g.pool.put i r ∧
    g'.resourceCount = if i ≥ g.resourceCount then i + 1 else g.resourceCount

theorem findResource_isSome_iff {g : Gpu} {id : Nat} :
    (g.findResource id).isSome = true ↔ 0 < g.liveSlots id := SlotTable.find?_isSome_iff

theorem SamePool.trans {g g' g'' : Gpu} (h : SamePool g g') (h' : SamePool g' g'') :
    SamePool g g'' := ⟨h'.1.trans h.1, h'.2.trans h.2⟩

theorem SamePool.liveSlots {g g' : Gpu} (h : SamePool g g') (id : Nat) :
    g'.liveSlots id = g.liveSlots id := by
  unfold Gpu.liveSlots
  rw [h.1]

theorem SamePool.highWater {g g' : Gpu} (h : SamePool g g') (hw : g.HighWater) :
    g'.HighWater := by
  intro i hi hlt
  rw [h.1]
  exact hw i (h.2 ▸ hi) hlt

theorem Registers.liveSlots {g g' : Gpu} {id : Nat} (h : Registers g g' id) (k : Nat) :
    g'.liveSlots k = g.liveSlots k + if k ≠ 0 ∧ id = k then 1 else 0 := by
  obtain ⟨i, r, hi, rfl, hpool, -⟩ := h
  unfold Gpu.liveSlots
  rw [hpool]
  exact SlotTable.mult_put_free (SlotTable.isFree_of_freeIdx? hi) r k

theorem Registers.highWater {g g' : Gpu} {id : Nat} (h : Registers g g' id)
    (hw : g.HighWater) : g'.HighWater := by
  obtain ⟨i, r, -, -, hpool, hcount⟩ := h
  intro j hj hlt
  rw [hcount] at hj
  rw [hpool]
  have hne : j ≠ i := by split at hj <;> omega
  exact SlotTable.isFree_put_ne hne (hw j (by split at hj <;> omega) hlt)

/-! ## Creating

A create of an untracked id has three outcomes for the pool. In the one that
matters most the host has the resource, the caller is told so, and the pool
has no live slot for it: `lost` is the condition for that on the inputs. -/

inductive Created (g : Gpu) (id : Nat) (lost : Bool) : IOReturn × Gpu → Prop where
  | lost {g'} (h : lost = true) (hp : SamePool g g' ∨ id = 0 ∧ Registers g g' id) :
      Created g id lost (.success, g')
  | failed {ret g'} (h : lost = false) (hret : ret ≠ .success) (hp : SamePool g g') :
      Created g id lost (ret, g')
  | registered {g'} (h : lost = false) (hid : id ≠ 0) (hp : Registers g g' id) :
      Created g id lost (.success, g')

/-- The host accepts the create with a response other than `OK_NODATA`: the
call then returns success without registering anything. -/
def loses2D (a : Answer) : Bool := decide (a.ret = .success) && decide (a.type ≠ respOkNodata)

/-- The host accepts the create but the id ends up in no live slot: the answer
is not `OK_NODATA`, the entry cannot be allocated, no slot is free, or the id
is the free mark itself. -/
def loses3D (e : Env) (g : Gpu) (id : Nat) (a : Answer) : Bool :=
  g.supports3D && decide (a.ret = .success) &&
    !(decide (a.type = respOkNodata) && e.alloc .gpuResource && g.pool.freeIdx?.isSome &&
      decide (id ≠ 0))

theorem createResource2D_of_found {e : Env} {g : Gpu} {id format width height : Nat}
    {backing : Option MemoryDescriptor} (h : 0 < g.liveSlots id) :
    g.createResource2D e id format width height backing = (.badArgument, g) := by
  unfold createResource2D
  rw [if_pos (findResource_isSome_iff.mpr h)]

theorem createResource3D_of_found {e : Env} {g : Gpu}
    {id target format bind width height depth : Nat} (h : 0 < g.liveSlots id) :
    g.createResource3D e id target format bind width height depth =
      (if g.supports3D = false then .unsupported else .badArgument, g) := by
  unfold createResource3D
  split
  · rfl
  · rw [if_pos (findResource_isSome_iff.mpr h)]

theorem findResource_of_untracked {g : Gpu} {id : Nat} (h : g.liveSlots id = 0) :
    ¬ (g.findResource id).isSome = true := by
  rw [findResource_isSome_iff, h]
  exact Nat.lt_irrefl 0

/-- Once the create is accepted, success and a slot go together. -/
theorem backAndRegister_pool (e : Env) (g : Gpu) (id format width height : Nat)
    (backing : Option MemoryDescriptor) :
    let r := g.backAndRegister e id format width height backing
    r.1 ≠ .success ∧ SamePool g r.2 ∨ r.1 = .success ∧ Registers g r.2 id := by
  unfold backAndRegister
  split
  · exact Or.inl ⟨IOReturn.noConfusion, rfl, rfl⟩
  next d _ =>
  obtain ⟨l, hl⟩ := attachBacking_frame e g id (some d)
  dsimp only [submitCommand]
  split
  · next hatt => exact Or.inl ⟨hatt, by rw [hl], by rw [hl]⟩
  rw [hl]
  split
  · exact Or.inl ⟨IOReturn.noConfusion, rfl, rfl⟩
  · next i hfree => exact Or.inr ⟨rfl, i, _, hfree, rfl, rfl, rfl⟩

theorem createResource2D_created (e : Env) (g : Gpu) (id format width height : Nat)
    (backing : Option MemoryDescriptor) (hid : id ≠ 0) (h : g.liveSlots id = 0) :
    Created g id (loses2D (e.ask (.resourceCreate2D id format width height)))
      (g.createResource2D e id format width height backing) := by
  unfold createResource2D
  rw [if_neg (findResource_of_untracked h)]
  dsimp only [submitCommand]
  split
  · next hbad =>
    by_cases hret : (e.ask (.resourceCreate2D id format width height)).ret = .success
    · rw [hret]
      have htype := hbad.resolve_left (not_not.mpr hret)
      exact .lost (by simp [loses2D, hret, htype]) (Or.inl ⟨rfl, rfl⟩)
    · exact .failed (by simp [loses2D, hret]) hret ⟨rfl, rfl⟩
  · next hok =>
    obtain ⟨-, htype⟩ := not_or.mp hok
    have hlost : loses2D (e.ask (.resourceCreate2D id format width height)) = false := by
      simp only [loses2D, decide_eq_false htype, Bool.and_false]
    have hpool := backAndRegister_pool e (g.afterSend (.resourceCreate2D id format width height)
      (e.ask (.resourceCreate2D id format width height))) id format width height backing
    generalize (g.afterSend (.resourceCreate2D id format width height) (e.ask (.resourceCreate2D id
      format width height))).backAndRegister e id format width height backing = r at hpool ⊢
    obtain ⟨ret, g'⟩ := r
    rcases hpool with ⟨hret, hsame⟩ | ⟨hret, hreg⟩
    · exact .failed hlost hret hsame
    · cases hret
      exact .registered hlost hid hreg

theorem createResource3D_created (e : Env) (g : Gpu)
    (id target format bind width height depth : Nat) (h : g.liveSlots id = 0) :
    Created g id
      (loses3D e g id (e.ask (create3DCmd id target format bind width height depth)))
      (g.createResource3D e id target format bind width height depth) := by
  unfold createResource3D
  by_cases h3 : g.supports3D = false
  · rw [if_pos h3]
    exact .failed (by simp [loses3D, h3]) IOReturn.noConfusion ⟨rfl, rfl⟩
  rw [if_neg h3, if_neg (findResource_of_untracked h)]
  rw [Bool.not_eq_false] at h3
  dsimp only [submitCommand]
  split
  · next hreg =>
    obtain ⟨hret, htype, halloc⟩ := hreg
    rw [hret]
    split
    · next hfree =>
      have hfree : g.pool.freeIdx? = none := hfree
      exact .lost (by simp [loses3D, h3, hret, hfree]) (Or.inl ⟨rfl, rfl⟩)
    · next i hfree =>
      have hfree : g.pool.freeIdx? = some i := hfree
      have hr : Registers g ((g.afterSend (create3DCmd id target format bind width height
          depth) (e.ask (create3DCmd id target format bind width height depth))).register
          i ⟨id, width, height, format, none⟩) id := ⟨i, _, hfree, rfl, rfl, rfl⟩
      by_cases hid : id = 0
      · exact .lost (by rw [loses3D, h3, hret]; simp [hid]) (Or.inr ⟨hid, hr⟩)
      · exact .registered (by simp [loses3D, htype, halloc, hfree, hid]) hid hr
  · next hreg =>
    by_cases hret : (e.ask (create3DCmd id target format bind width height depth)).ret
        = .success
    · rw [hret]
      refine .lost ?_ (Or.inl ⟨rfl, rfl⟩)
      rw [loses3D, h3, hret]
      by_cases htype : (e.ask (create3DCmd id target format bind width height depth)).type
          = respOkNodata
      · have halloc : ¬ e.alloc .gpuResource = true := fun hc => hreg ⟨hret, htype, hc⟩
        simp [halloc]
      · simp [htype]
    · exact .failed (by simp [loses3D, hret]) hret ⟨rfl, rfl⟩

/-! ## Freeing and mapping -/

theorem deallocateResource_fst (e : Env) (g : Gpu) (id : Nat) :
    (g.deallocateResource e id).1 = (e.ask (.resourceUnref id)).ret := by
  unfold deallocateResource
  dsimp only [submitCommand]
  split <;> rfl

theorem deallocateResource_of_success {e : Env} {g : Gpu} {id : Nat}
    (h : (e.ask (.resourceUnref id)).ret = .success) :
    (g.deallocateResource e id).2.pool = g.pool.clear id .free ∧
      (g.deallocateResource e id).2.resourceCount = g.resourceCount := by
  unfold deallocateResource
  dsimp only [submitCommand]
  rw [if_pos h]
  exact ⟨rfl, rfl⟩

theorem deallocateResource_of_failure {e : Env} {g : Gpu} {id : Nat}
    (h : (e.ask (.resourceUnref id)).ret ≠ .success) :
    SamePool g (g.deallocateResource e id).2 := by
  unfold deallocateResource
  dsimp only [submitCommand]
  rw [if_neg h]
  exact ⟨rfl, rfl⟩

/-- All checks of `mapGuestMemory` pass, the host accepts the attach, and
there is room at the high-water mark. -/
def mapsGuest (e : Env) (g : Gpu) : Option MemoryDescriptor → Bool
  | none => false
  | some d =>
      decide (d.length ≠ 0) && decide (d.prepareRet = .success) && d.firstSegment.isSome &&
      decide ((e.ask (.resourceAttachBacking (inc32 g.nextResourceId) .empty)).ret = .success) &&
      e.alloc .gpuResource && decide (g.resourceCount < 64)

/-- The slot at the high-water mark now holds the id drawn. -/
def MapsAtMark (g g' : Gpu) : Prop :=
  ∃ r, r.resourceId = inc32 g.nextResourceId ∧ g.resourceCount < 64 ∧
    g'.pool = g.pool.put g.resourceCount r ∧ g'.resourceCount = g.resourceCount + 1

theorem mapGuestMemory_pool (e : Env) (g : Gpu) (memory : Option MemoryDescriptor) :
    g.mapsGuest e memory = true ∧ MapsAtMark g (g.mapGuestMemory e memory).2 ∨
      g.mapsGuest e memory = false ∧ SamePool g (g.mapGuestMemory e memory).2 := by
  cases memory with
  | none => exact Or.inr ⟨rfl, rfl, rfl⟩
  | some d =>
      unfold mapGuestMemory
      dsimp only [submitCommand]
      split
      · next hlen => exact Or.inr ⟨by simp [mapsGuest, hlen], rfl, rfl⟩
      split
      · next hprep => exact Or.inr ⟨by simp [mapsGuest, hprep], rfl, rfl⟩
      split
      · next hseg =>
        rw [Option.isNone_iff_eq_none] at hseg
        exact Or.inr ⟨by simp [mapsGuest, hseg], rfl, rfl⟩
      next hlen hprep hseg =>
      rw [not_not] at hprep
      rw [Option.isNone_iff_eq_none, ← ne_eq, Option.ne_none_iff_isSome] at hseg
      split
      · next hret =>
        have hret : ¬ (e.ask (.resourceAttachBacking (inc32 g.nextResourceId) .empty)).ret
          = .success := hret
        exact Or.inr ⟨by simp [mapsGuest, hret], rfl, rfl⟩
      split
      · next halloc => exact Or.inr ⟨by simp [mapsGuest, halloc], rfl, rfl⟩
      next hret halloc =>
      have hret : (e.ask (.resourceAttachBacking (inc32 g.nextResourceId) .empty)).ret = .success :=
        not_not.mp hret
      rw [Bool.not_eq_false] at halloc
      split
      · next hroom =>
        have hroom : g.resourceCount < 64 := hroom
        refine Or.inl ⟨?_, _, rfl, hroom, rfl, rfl⟩
        simp [mapsGuest, hlen, hprep, hseg, hret, halloc, hroom]
      · next hroom =>
        have hroom : ¬ g.resourceCount < 64 := hroom
        exact Or.inr ⟨by simp [mapsGuest, hroom], rfl, rfl⟩

theorem MapsAtMark.highWater {g g' : Gpu} (h : MapsAtMark g g') (hw : g.HighWater) :
    g'.HighWater := by
  obtain ⟨r, -, -, hpool, hcount⟩ := h
  intro j hj hlt
  rw [hpool]
  exact SlotTable.isFree_put_ne (by omega) (hw j (by omega) hlt)

theorem MapsAtMark.liveSlots {g g' : Gpu} (h : MapsAtMark g g') (hw : g.HighWater) (k : Nat) :
    g'.liveSlots k =
      g.liveSlots k + if k ≠ 0 ∧ inc32 g.nextResourceId = k then 1 else 0 := by
  obtain ⟨r, hr, hroom, hpool, -⟩ := h
  unfold Gpu.liveSlots
  rw [hpool, SlotTable.mult_put_free (hw _ (Nat.le_refl _) hroom), hr]

theorem resourceId_free : GpuResource.free.resourceId = 0 := rfl

theorem highWater_init (b : Bool) (n : Nat) : (init b n).HighWater :=
  fun _ _ hlt => SlotTable.isFree_replicate resourceId_free hlt

theorem liveSlots_init (b : Bool) (n id : Nat) : (init b n).liveSlots id = 0 :=
  SlotTable.mult_replicate resourceId_free id

end Gpu

/-! ## Runs

`fate` remembers for every id how its last create or deallocation went. A
create that is turned away while the id is live is not its last create: the
resource it asks for is there. -/

inductive Fate where
  | unknown
  | live
  | dead
  deriving DecidableEq, Repr

/-- The calls of a run, with their arguments. -/
inductive PoolCall where
  | createResource2D (id format width height : Nat) (backing : Option MemoryDescriptor)
  | createResource3D (id target format bind width height depth : Nat)
  | deallocateResource (id : Nat)
  | allocateResource3D (target format width height depth : Nat)
  | mapGuestMemory (memory : Option MemoryDescriptor)
  deriving DecidableEq, Repr

structure PoolRun where
  gpu : Gpu
  fate : Nat → Fate

namespace PoolRun

def afterCreate (fate : Nat → Fate) (id : Nat) (ret : IOReturn) : Nat → Fate :=
  if ret = .success then Function.update fate id .live
  else if fate id = .live then fate
  else Function.update fate id .dead

def afterDeallocate (fate : Nat → Fate) (id : Nat) (ret : IOReturn) : Nat → Fate :=
  if ret = .success then Function.update fate id .dead else fate

/-- One call; the ids that callers pass are nonzero. -/
def step (s : PoolRun) : PoolCall × Env → Option PoolRun
  | (.createResource2D id format width height backing, e) =>
      if id = 0 then none else
      let r := s.gpu.createResource2D e id format width height backing
      some ⟨r.2, afterCreate s.fate id r.1⟩
  | (.createResource3D id target format bind width height depth, e) =>
      if id = 0 then none else
      let r := s.gpu.createResource3D e id target format bind width height depth
      some ⟨r.2, afterCreate s.fate id r.1⟩
  | (.deallocateResource id, e) =>
      if id = 0 then none else
      let r := s.gpu.deallocateResource e id
      some ⟨r.2, afterDeallocate s.fate id r.1⟩
  | (.allocateResource3D target format width height depth, e) =>
      let r := s.gpu.allocateResource3D e target format width height depth
      some ⟨r.2, afterCreate s.fate s.gpu.drawResourceId.nextResourceId r.1⟩
  | (.mapGuestMemory memory, e) => some ⟨(s.gpu.mapGuestMemory e memory).2, s.fate⟩

def machine (supports3D : Bool) (maxScanouts : Nat) : Machine PoolRun (PoolCall × Env) where
  init := ⟨.init supports3D maxScanouts, fun _ => .unknown⟩
  step := step

/-- The pool tracks the host: one slot for a live id, none for a dead one. -/
def Tracks (s : PoolRun) : Prop :=
  ∀ id, (s.fate id = .live → s.gpu.liveSlots id = 1) ∧
    (s.fate id = .dead → s.gpu.liveSlots id = 0)

/-- A create of `id` keeps the pool tracking: either the id is tracked already
and its create had succeeded, or the id is new and its entry is not lost. -/
def CreateOk (s : PoolRun) (id : Nat) (lost : Bool) : Prop :=
  if 0 < s.gpu.liveSlots id then s.fate id = .live else lost = false

/-- When a call keeps the pool tracking the host. -/
def CallOk (s : PoolRun) : PoolCall × Env → Prop
  | (.createResource2D id format width height _, e) =>
      s.CreateOk id (Gpu.loses2D (e.ask (.resourceCreate2D id format width height)))
  | (.createResource3D id target format bind width height depth, e) =>
      s.CreateOk id (Gpu.loses3D e s.gpu id
        (e.ask (Gpu.create3DCmd id target format bind width height depth)))
  | (.deallocateResource id, e) =>
      (e.ask (.resourceUnref id)).ret = .success → s.gpu.liveSlots id ≤ 1
  | (.allocateResource3D target format width height depth, e) =>
      let id := inc32 s.gpu.nextResourceId
      s.CreateOk id (Gpu.loses3D e s.gpu id
        (e.ask (Gpu.create3DCmd id target format 0 width height depth)))
  | (.mapGuestMemory memory, e) =>
      let id := inc32 s.gpu.nextResourceId
      s.gpu.mapsGuest e memory = true → id = 0 ∨ s.fate id = .unknown

/-- A call that leaves all ids but one alone is right as far as it is right about
that one. -/
theorem tracks_iff_at {s t : PoolRun} {id : Nat} (ht : s.Tracks)
    (hfate : ∀ k, k ≠ id → t.fate k = s.fate k)
    (hslots : ∀ k, k ≠ id → t.gpu.liveSlots k = s.gpu.liveSlots k) :
    t.Tracks ↔ (t.fate id = .live → t.gpu.liveSlots id = 1) ∧
      (t.fate id = .dead → t.gpu.liveSlots id = 0) := by
  constructor
  · intro h
    exact h id
  · intro hid k
    by_cases hk : k = id
    · subst hk
      exact hid
    · rw [hfate k hk, hslots k hk]
      exact ht k

theorem tracks_of_samePool {s : PoolRun} {g : Gpu} (ht : s.Tracks) (h : Gpu.SamePool s.gpu g) :
    Tracks ⟨g, s.fate⟩ := by
  intro k
  rw [h.liveSlots]
  exact ht k

/-! ### One create -/

theorem afterCreate_of_ne (fate : Nat → Fate) {id k : Nat} (ret : IOReturn) (h : k ≠ id) :
    afterCreate fate id ret k = fate k := by
  unfold afterCreate
  split
  · exact Function.update_of_ne h ..
  split
  · rfl
  · exact Function.update_of_ne h ..

theorem afterCreate_success (fate : Nat → Fate) (id : Nat) :
    afterCreate fate id .success id = .live := Function.update_self ..

theorem afterCreate_failure {fate : Nat → Fate} {id : Nat} {ret : IOReturn}
    (hret : ret ≠ .success) (hlive : fate id ≠ .live) : afterCreate fate id ret id = .dead := by
  rw [afterCreate, if_neg hret, if_neg hlive]
  exact Function.update_self ..

/-- Turned away while a slot has the id: right exactly if the id was live. -/
theorem tracks_duplicate_iff {s : PoolRun} {id : Nat} {r : IOReturn × Gpu} (ht : s.Tracks)
    (hpos : 0 < s.gpu.liveSlots id) (hret : r.1 ≠ .success) (hsame : Gpu.SamePool s.gpu r.2) :
    Tracks ⟨r.2, afterCreate s.fate id r.1⟩ ↔ s.fate id = .live := by
  by_cases hlive : s.fate id = .live
  · rw [afterCreate, if_neg hret, if_pos hlive]
    exact iff_of_true (tracks_of_samePool ht hsame) hlive
  · refine iff_of_false (fun hc => ?_) hlive
    have h0 := (hc id).2 (afterCreate_failure hret hlive)
    rw [hsame.liveSlots] at h0
    omega

/-- With no slot for the id before, the create is right unless it is lost. -/
theorem tracks_created_iff {s : PoolRun} {id : Nat} {lost : Bool} {r : IOReturn × Gpu}
    (ht : s.Tracks) (h0 : s.gpu.liveSlots id = 0) (hcreated : Gpu.Created s.gpu id lost r) :
    Tracks ⟨r.2, afterCreate s.fate id r.1⟩ ↔ lost = false := by
  cases hcreated with
  | lost h hp =>
      refine iff_of_false (fun hc => ?_) (by simp [h])
      have h1 := (hc id).1 (afterCreate_success s.fate id)
      rcases hp with hsame | ⟨rfl, hreg⟩
      · rw [hsame.liveSlots] at h1
        omega
      · exact absurd h1 (by simp [Gpu.liveSlots])
  | @failed ret g h hret hp =>
      refine iff_of_true ?_ h
      -- the id was not live, having no slot
      have hnlive : s.fate id ≠ .live := fun hc => by
        have := (ht id).1 hc
        omega
      rw [tracks_iff_at ht (fun k hk => afterCreate_of_ne s.fate ret hk) fun k _ => hp.liveSlots k]
      simp [afterCreate_failure hret hnlive, hp.liveSlots, h0]
  | @registered g h hid hp =>
      refine iff_of_true ?_ h
      rw [tracks_iff_at ht (fun k hk => afterCreate_of_ne s.fate .success hk) fun k hk => by
        rw [hp.liveSlots, if_neg fun hc => hk hc.2.symm, Nat.add_zero]]
      simp [afterCreate_success, hp.liveSlots, h0, hid]

/-- Same argument for all three creating calls: what is left of the call is
its code and what it did to the pool. -/
theorem tracks_afterCreate_iff {s : PoolRun} {id : Nat} {lost : Bool} {r : IOReturn × Gpu}
    (ht : s.Tracks)
    (hdup : 0 < s.gpu.liveSlots id → r.1 ≠ .success ∧ Gpu.SamePool s.gpu r.2)
    (hnew : s.gpu.liveSlots id = 0 → Gpu.Created s.gpu id lost r) :
    Tracks ⟨r.2, afterCreate s.fate id r.1⟩ ↔ s.CreateOk id lost := by
  unfold CreateOk
  split
  · next hpos =>
    obtain ⟨hret, hsame⟩ := hdup hpos
    exact tracks_duplicate_iff ht hpos hret hsame
  · next hnpos =>
    have h0 : s.gpu.liveSlots id = 0 := Nat.eq_zero_of_not_pos hnpos
    exact tracks_created_iff ht h0 (hnew h0)

theorem tracks_createResource2D_iff {s : PoolRun} (e : Env) {id : Nat}
    (format width height : Nat) (backing : Option MemoryDescriptor) (ht : s.Tracks)
    (hid : id ≠ 0) :
    let r := s.gpu.createResource2D e id format width height backing
    Tracks ⟨r.2, afterCreate s.fate id r.1⟩ ↔
      s.CreateOk id (Gpu.loses2D (e.ask (.resourceCreate2D id format width height))) := by
  refine tracks_afterCreate_iff ht (fun hpos => ?_)
    (Gpu.createResource2D_created e s.gpu id format width height backing hid)
  rw [Gpu.createResource2D_of_found hpos]
  exact ⟨IOReturn.noConfusion, rfl, rfl⟩

theorem tracks_createResource3D_iff {s : PoolRun} (e : Env)
    (id target format bind width height depth : Nat) (ht : s.Tracks) :
    let r := s.gpu.createResource3D e id target format bind width height depth
    Tracks ⟨r.2, afterCreate s.fate id r.1⟩ ↔
      s.CreateOk id (Gpu.loses3D e s.gpu id
        (e.ask (Gpu.create3DCmd id target format bind width height depth))) := by
  refine tracks_afterCreate_iff ht (fun hpos => ?_)
    (Gpu.createResource3D_created e s.gpu id target format bind width height depth)
  rw [Gpu.createResource3D_of_found hpos]
  refine ⟨?_, rfl, rfl⟩
  split <;> exact IOReturn.noConfusion

/-! ### The other calls -/

theorem liveSlots_deallocateResource {g : Gpu} {e : Env} {id : Nat}
    (hret : (e.ask (.resourceUnref id)).ret = .success) (k : Nat) :
    (g.deallocateResource e id).2.liveSlots k =
      if k = id then g.liveSlots id - 1 else g.liveSlots k := by
  unfold Gpu.liveSlots
  rw [(Gpu.deallocateResource_of_success hret).1]
  exact SlotTable.mult_clear Gpu.resourceId_free id k

theorem tracks_deallocateResource_iff {s : PoolRun} (e : Env) {id : Nat} (ht : s.Tracks) :
    let r := s.gpu.deallocateResource e id
    Tracks ⟨r.2, afterDeallocate s.fate id r.1⟩ ↔
      ((e.ask (.resourceUnref id)).ret = .success → s.gpu.liveSlots id ≤ 1) := by
  dsimp only
  rw [Gpu.deallocateResource_fst, afterDeallocate]
  by_cases hret : (e.ask (.resourceUnref id)).ret = .success
  · rw [if_pos hret]
    have hslots := liveSlots_deallocateResource (g := s.gpu) hret
    rw [tracks_iff_at ht (fun k hk => Function.update_of_ne hk ..) fun k hk => by
      rw [hslots, if_neg hk]]
    simp only [hret, hslots, Function.update_self, if_true, reduceCtorEq, false_imp_iff,
      true_imp_iff, true_and]
    omega
  · rw [if_neg hret]
    exact iff_of_true (tracks_of_samePool ht (Gpu.deallocateResource_of_failure hret))
      fun hc => absurd hc hret

/-- One more slot is right only for an id that nobody created. -/
theorem tracks_mapped_iff {s : PoolRun} {g : Gpu} {id : Nat} (ht : s.Tracks) (hid : id ≠ 0)
    (hslots : ∀ k, g.liveSlots k = s.gpu.liveSlots k + if k ≠ 0 ∧ id = k then 1 else 0) :
    Tracks ⟨g, s.fate⟩ ↔ s.fate id = .unknown := by
  have hone : g.liveSlots id = s.gpu.liveSlots id + 1 := by
    rw [hslots, if_pos ⟨hid, rfl⟩]
  have hold := ht id
  have hrest : ∀ k, k ≠ id → g.liveSlots k = s.gpu.liveSlots k := fun k hk => by
    rw [hslots, if_neg fun hc => hk hc.2.symm, Nat.add_zero]
  rw [tracks_iff_at (t := ⟨g, s.fate⟩) ht (fun _ _ => rfl) hrest]
  dsimp only
  rw [hone]
  cases hf : s.fate id with
  | unknown => simp
  | live => simp [hold.1 hf]
  | dead => simp

theorem tracks_mapGuestMemory_iff {s : PoolRun} (e : Env) (memory : Option MemoryDescriptor)
    (hw : s.gpu.HighWater) (ht : s.Tracks) :
    Tracks ⟨(s.gpu.mapGuestMemory e memory).2, s.fate⟩ ↔
      (s.gpu.mapsGuest e memory = true →
        inc32 s.gpu.nextResourceId = 0 ∨ s.fate (inc32 s.gpu.nextResourceId) = .unknown) := by
  rcases Gpu.mapGuestMemory_pool e s.gpu memory with ⟨hmap, hmark⟩ | ⟨hmap, hsame⟩
  · simp only [hmap, true_imp_iff]
    have hslots := hmark.liveSlots hw
    by_cases h0 : inc32 s.gpu.nextResourceId = 0
    · -- the wrapped counter draws the free mark, and the slot stays free
      refine iff_of_true (fun k => ?_) (Or.inl h0)
      rw [hslots, if_neg (by rw [h0]; exact fun hc => hc.1 hc.2.symm), Nat.add_zero]
      exact ht k
    · rw [tracks_mapped_iff ht h0 hslots]
      exact (or_iff_right h0).symm
  · exact iff_of_true (tracks_of_samePool ht hsame) fun hc => by simp [hmap] at hc

/-! ### The high-water mark -/

theorem highWater_create {s : PoolRun} {id : Nat} {lost : Bool} {r : IOReturn × Gpu}
    (hw : s.gpu.HighWater) (hdup : 0 < s.gpu.liveSlots id → Gpu.SamePool s.gpu r.2)
    (hnew : s.gpu.liveSlots id = 0 → Gpu.Created s.gpu id lost r) : r.2.HighWater := by
  by_cases hpos : 0 < s.gpu.liveSlots id
  · exact (hdup hpos).highWater hw
  · cases hnew (by omega) with
    | lost h hp => exact hp.elim (·.highWater hw) (·.2.highWater hw)
    | failed h hret hp => exact hp.highWater hw
    | registered h hid hp => exact hp.highWater hw

theorem highWater_createResource3D {s : PoolRun} (e : Env)
    (id target format bind width height depth : Nat) (hw : s.gpu.HighWater) :
    (s.gpu.createResource3D e id target format bind width height depth).2.HighWater := by
  refine highWater_create hw (fun hpos => ?_)
    (Gpu.createResource3D_created e s.gpu id target format bind width height depth)
  rw [Gpu.createResource3D_of_found hpos]
  exact ⟨rfl, rfl⟩

theorem highWater_deallocateResource {g : Gpu} (e : Env) (id : Nat) (hw : g.HighWater) :
    (g.deallocateResource e id).2.HighWater := by
  by_cases hret : (e.ask (.resourceUnref id)).ret = .success
  · obtain ⟨hpool, hcount⟩ := Gpu.deallocateResource_of_success hret
    intro i hi hlt
    rw [hcount] at hi
    rw [hpool]
    exact SlotTable.isFree_clear Gpu.resourceId_free (hw i hi hlt)
  · exact (Gpu.deallocateResource_of_failure hret).highWater hw

theorem highWater_mapGuestMemory {g : Gpu} (e : Env) (memory : Option MemoryDescriptor)
    (hw : g.HighWater) : (g.mapGuestMemory e memory).2.HighWater := by
  rcases Gpu.mapGuestMemory_pool e g memory with ⟨-, hmark⟩ | ⟨-, hsame⟩
  · exact hmark.highWater hw
  · exact hsame.highWater hw

/-! ### One call -/

theorem step_highWater (s : PoolRun) (c : PoolCall × Env) (t : PoolRun)
    (hw : s.gpu.HighWater) (h : s.step c = some t) : t.gpu.HighWater := by
  obtain ⟨call, e⟩ := c
  cases call with
  | createResource2D id format width height backing =>
      simp only [step, Option.ite_none_left_eq_some, Option.some.injEq] at h
      obtain ⟨hid, rfl⟩ := h
      refine highWater_create hw (fun hpos => ?_)
        (Gpu.createResource2D_created e s.gpu id format width height backing hid)
      rw [Gpu.createResource2D_of_found hpos]
      exact ⟨rfl, rfl⟩
  | createResource3D id target format bind width height depth =>
      simp only [step, Option.ite_none_left_eq_some, Option.some.injEq] at h
      obtain ⟨-, rfl⟩ := h
      exact highWater_createResource3D e id target format bind width height depth hw
  | deallocateResource id =>
      simp only [step, Option.ite_none_left_eq_some, Option.some.injEq] at h
      obtain ⟨-, rfl⟩ := h
      exact highWater_deallocateResource e id hw
  | allocateResource3D target format width height depth =>
      simp only [step, Option.some.injEq] at h
      subst h
      have hw' : s.gpu.drawResourceId.HighWater := hw
      have := highWater_createResource3D (s := ⟨s.gpu.drawResourceId, s.fate⟩) e
        s.gpu.drawResourceId.nextResourceId target format 0 width height depth hw'
      exact this
  | mapGuestMemory memory =>
      simp only [step, Option.some.injEq] at h
      subst h
      exact highWater_mapGuestMemory e memory hw

/-- **Step lemma.** A call keeps the pool tracking the host exactly when it
meets `CallOk`. -/
theorem step_tracks_iff (s : PoolRun) (c : PoolCall × Env) (t : PoolRun)
    (hw : s.gpu.HighWater) (ht : s.Tracks) (h : s.step c = some t) : t.Tracks ↔ s.CallOk c := by
  obtain ⟨call, e⟩ := c
  cases call with
  | createResource2D id format width height backing =>
      simp only [step, Option.ite_none_left_eq_some, Option.some.injEq] at h
      obtain ⟨hid, rfl⟩ := h
      exact tracks_createResource2D_iff e format width height backing ht hid
  | createResource3D id target format bind width height depth =>
      simp only [step, Option.ite_none_left_eq_some, Option.some.injEq] at h
      obtain ⟨-, rfl⟩ := h
      exact tracks_createResource3D_iff e id target format bind width height depth ht
  | deallocateResource id =>
      simp only [step, Option.ite_none_left_eq_some, Option.some.injEq] at h
      obtain ⟨-, rfl⟩ := h
      exact tracks_deallocateResource_iff e ht
  | allocateResource3D target format width height depth =>
      simp only [step, Option.some.injEq] at h
      subst h
      -- drawing the id touches neither the pool nor the fates
      have ht' : Tracks ⟨s.gpu.drawResourceId, s.fate⟩ := ht
      exact tracks_createResource3D_iff e s.gpu.drawResourceId.nextResourceId target format 0
        width height depth ht'
  | mapGuestMemory memory =>
      simp only [step, Option.some.injEq] at h
      subst h
      exact tracks_mapGuestMemory_iff e memory hw ht

/-! ### Whole runs -/

/-- What the pool promises its users: a live id is found, in one slot; a dead
id is not found; and a second create of a live id is turned away before
anything is sent. -/
structure TracksHost (s : PoolRun) : Prop where
  live_once : ∀ id, s.fate id = .live →
    (s.gpu.findResource id).isSome = true ∧ s.gpu.liveSlots id = 1
  dead_gone : ∀ id, s.fate id = .dead → s.gpu.findResource id = none
  refuses2D : ∀ id, s.fate id = .live → ∀ e format width height backing,
    s.gpu.createResource2D e id format width height backing = (.badArgument, s.gpu)
  refuses3D : ∀ id, s.fate id = .live → ∀ e target format bind width height depth,
    s.gpu.createResource3D e id target format bind width height depth =
      (if s.gpu.supports3D = false then .unsupported else .badArgument, s.gpu)

theorem tracksHost_iff {s : PoolRun} : s.TracksHost ↔ s.Tracks := by
  constructor
  · intro h id
    exact ⟨fun hl => (h.live_once id hl).2, fun hd => SlotTable.find?_eq_none_iff.mp
      (h.dead_gone id hd)⟩
  · intro h
    have hpos : ∀ id, s.fate id = .live → 0 < s.gpu.liveSlots id := by
      intro id hl
      rw [(h id).1 hl]
      exact Nat.one_pos
    exact {
      live_once := fun id hl => ⟨Gpu.findResource_isSome_iff.mpr (hpos id hl), (h id).1 hl⟩
      dead_gone := fun id hd => SlotTable.find?_eq_none_iff.mpr ((h id).2 hd)
      refuses2D := fun id hl _ _ _ _ _ => Gpu.createResource2D_of_found (hpos id hl)
      refuses3D := fun id hl _ _ _ _ _ _ _ => Gpu.createResource3D_of_found (hpos id hl) }

/-- **The pool tracks the host exactly along the runs whose calls are all
`CallOk`**: no accepted create loses its entry, no create goes to an id that
only a mapping holds, no mapping draws an id that was ever created, and no
deallocation meets an id held twice. -/
theorem always_tracksHost_iff (supports3D : Bool) (maxScanouts : Nat)
    (calls : List (PoolCall × Env)) :
    (machine supports3D maxScanouts).Always TracksHost (machine supports3D maxScanouts).init calls
      ↔ (machine supports3D maxScanouts).Along CallOk (machine supports3D maxScanouts).init
        calls := by
  have hinit : (machine supports3D maxScanouts).init.Tracks := by
    intro id
    exact ⟨fun hc => by simp [machine] at hc, fun hc => by simp [machine] at hc⟩
  refine (machine supports3D maxScanouts).always_iff_along
    (fun s c t => step_highWater s c t) (fun s c t hw ht h => ?_)
    (Gpu.highWater_init supports3D maxScanouts) (tracksHost_iff.mpr hinit)
  rw [tracksHost_iff]
  exact step_tracks_iff s c t hw (tracksHost_iff.mp ht) h

/-- Sixty-five 3D resources: the last create returns success with the pool full,
and its id is in no slot. -/
theorem full_pool_drops_resource :
    ¬ (machine true 1).Always TracksHost (machine true 1).init
      (List.replicate 65 (.allocateResource3D 2 1 64 64 1, .accepting)) := by
  intro h
  have hrun : ((machine true 1).run (machine true 1).init
      (List.replicate 65 (.allocateResource3D 2 1 64 64 1, .accepting))).any
        (fun s => decide (s.fate 66 = .live) && decide (s.gpu.liveSlots 66 = 0)) = true := by
    decide +kernel
  obtain ⟨s, htracks, hp⟩ := h.of_any _ hrun
  simp only [Bool.and_eq_true, decide_eq_true_eq] at hp
  have hone := (htracks.live_once 66 hp.1).2
  omega

end PoolRun
end VMQemuVGA
