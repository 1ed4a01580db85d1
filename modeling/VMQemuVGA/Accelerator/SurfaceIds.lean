import VMQemuVGA.Accelerator.Creations

/-! # The id a caller reads back

`create3DSurface` takes a record whose `surface_id` its callers read afterwards,
but writes the id it drew into its own copy only. `createSurfaceInternal` writes
it into both. -/

namespace VMQemuVGA

/-- A `VM3DSurfaceInfo` as a caller passes it. -/
structure SurfaceRequest where
  surfaceId : Nat
  info : SurfaceInfo
  deriving DecidableEq, Repr

/-! ## Calls with their records -/

namespace Accelerator

/-- `create3DSurface`, with the record of the caller afterwards: it is only read. -/
def create3DSurfaceFor (e : AccelEnv) (s : Accelerator) (ctx : Nat) (r : SurfaceRequest) :
    IOReturn × SurfaceRequest × Accelerator :=
  let (ret, t) := s.create3DSurface e ctx r.info
  (ret, r, t)

/-- `createSurfaceInternal`: the id is in the record as soon as it is drawn. -/
def createSurfaceInternalFor (e : AccelEnv) (s : Accelerator) (ctx : Nat) (r : SurfaceRequest) :
    IOReturn × SurfaceRequest × Accelerator :=
  let (ret, t) := s.createSurfaceInternal e ctx r.info
  if (s.findContext ctx).isSome = true ∧ e.accelAlloc .surface = true then
    (ret, { r with surfaceId := inc32 s.nextSurfaceId }, t)
  else (ret, r, t)

end Accelerator

/-- Where a client may ask for a surface. -/
inductive CreateCall where
  | sCreate3DSurface (client ctx : Nat)
  | create3DSurface (ctx : Nat)
  deriving DecidableEq, Repr

namespace AccelRun

/-- `sCreate3DSurface`; the scalar output is there after a success only. -/
def sCreate3DSurface (e : AccelEnv) (s : AccelRun) (client ctx : Nat) (r : SurfaceRequest) :
    IOReturn × Option Nat × Accelerator :=
  if s.owns client ctx = true then
    let (ret, r', t) := s.accel.create3DSurfaceFor e ctx r
    (ret, if ret = .success then some r'.surfaceId else none, t)
  else (.badArgument, none, s.accel)

/-- What is answered, the id that is handed back, and the accelerator after. -/
def create (e : AccelEnv) (s : AccelRun) (r : SurfaceRequest) :
    CreateCall → IOReturn × Option Nat × Accelerator
  | .sCreate3DSurface client ctx => s.sCreate3DSurface e client ctx r
  | .create3DSurface ctx =>
      let (ret, r', t) := s.accel.create3DSurfaceFor e ctx r
      (ret, some r'.surfaceId, t)

end AccelRun

/-! ## The right id -/

namespace Accelerator
variable {e : AccelEnv} {s t : Accelerator} {ctx : Nat}

/-- `id` is that of the surface that has come into the first free slot, has the
dimensions and format of `info`, and is what `findSurface` finds. -/
def HandsBack (s t : Accelerator) (info : SurfaceInfo) (id : Nat) : Prop :=
  ∃ x, t.surfaces.slots[s.surfaces.room]? = some (some x) ∧ x.surfaceId = id ∧ x.info = info ∧
    t.surfaces.slot? (fun x => x.surfaceId == id) = some s.surfaces.room ∧
    t.findSurface id = some x

/-- No surface in a slot before the first free one has this id. -/
def Unshadowed (s : Accelerator) (id : Nat) : Prop :=
  ∀ i ∈ s.surfaces.slot? fun x => x.surfaceId == id, s.surfaces.room ≤ i

instance (id : Nat) : Decidable (s.Unshadowed id) :=
  match h : s.surfaces.slot? fun x => x.surfaceId == id with
  | none => isTrue fun i hi => by rw [h] at hi; cases hi
  | some i => decidable_of_iff (s.surfaces.room ≤ i) (by
      unfold Unshadowed
      rw [h]
      exact ⟨fun hle j hj => by cases hj; exact hle, fun hall => hall i rfl⟩)

/-- The id that is drawn next, and nothing before the new surface has it. -/
def NamesNext (s : Accelerator) (id : Nat) : Prop :=
  id = inc32 s.nextSurfaceId ∧ s.Unshadowed id

theorem Enters.handsBack_iff {x : AccelSurface} (h : Enters e ctx x s t) (id : Nat) :
    HandsBack s t x.info id ↔ s.NamesNext id := by
  have hroom := Pool.getElem?_add_room h.surfaces
  constructor
  · rintro ⟨y, hy, rfl, -, hslot, -⟩
    cases hroom.symm.trans hy
    refine ⟨h.id, ?_⟩
    exact (Pool.slot?_add_eq_iff (q := fun y => y.surfaceId == x.surfaceId) h.surfaces
      (beq_self_eq_true _)).mp hslot
  · rintro ⟨hid, hfirst⟩
    have hx : x.surfaceId = id := h.id.trans hid.symm
    have hslot : t.surfaces.slot? (fun x => x.surfaceId == id) = some s.surfaces.room :=
      (Pool.slot?_add_eq_iff h.surfaces (by rw [hx]; exact beq_self_eq_true id)).mpr hfirst
    exact ⟨x, hroom, hx, rfl, hslot, Pool.find?_of_slot? hslot hroom⟩

theorem SurfaceCreation.handsBack_iff {size : Nat} {info : SurfaceInfo}
    {r : IOReturn × Accelerator} (h : SurfaceCreation e s ctx size info r) (id : Nat) :
    (r.1 = .success → HandsBack s r.2 info id) ↔ (r.1 = .success → s.NamesNext id) := by
  cases h with
  | failed hret hkept => exact iff_of_true (fun h => absurd h hret) fun h => absurd h hret
  | made hfound hd henter => exact imp_congr_right fun _ => henter.handsBack_iff id

theorem accelAlloc_of_createSurfaceInternal {info : SurfaceInfo}
    (h : (s.createSurfaceInternal e ctx info).1 = .success) :
    (s.findContext ctx).isSome = true ∧ e.accelAlloc .surface = true := by
  unfold createSurfaceInternal at h
  split at h
  · cases h
  · next hc =>
    split at h
    · cases h
    · next hsite => exact ⟨by rw [hc]; rfl, by simpa using hsite⟩

end Accelerator

namespace AccelRun

/-- The context is one of the client's, where one asks, and the surface is granted. -/
def Grants (e : AccelEnv) (s : AccelRun) (info : SurfaceInfo) : CreateCall → Prop
  | .sCreate3DSurface client ctx => s.owns client ctx = true ∧ s.accel.Grants3DSurface e ctx info
  | .create3DSurface ctx => s.accel.Grants3DSurface e ctx info

theorem create_success_iff (e : AccelEnv) (s : AccelRun) (r : SurfaceRequest) (c : CreateCall) :
    (s.create e r c).1 = .success ↔ s.Grants e r.info c := by
  cases c with
  | sCreate3DSurface client ctx =>
      show (s.sCreate3DSurface e client ctx r).1 = .success ↔ _
      unfold sCreate3DSurface
      split
      · next howns => exact Accelerator.create3DSurface_success_iff.trans (and_iff_right howns).symm
      · next howns => exact iff_of_false IOReturn.noConfusion fun h => howns h.1
  | create3DSurface ctx => exact Accelerator.create3DSurface_success_iff

/-- **The id that comes back is that of the surface exactly if it was the right
one to begin with.** -/
theorem create_handsBack_iff (e : AccelEnv) (s : AccelRun) (r : SurfaceRequest) (c : CreateCall) :
    ((s.create e r c).1 = .success →
        ∃ id ∈ (s.create e r c).2.1, Accelerator.HandsBack s.accel (s.create e r c).2.2 r.info id) ↔
      (s.Grants e r.info c → s.accel.NamesNext r.surfaceId) := by
  rw [← create_success_iff]
  cases c with
  | sCreate3DSurface client ctx =>
      unfold create sCreate3DSurface
      dsimp only [Accelerator.create3DSurfaceFor]
      split
      · rw [← (Accelerator.creation_create3DSurface e s.accel ctx r.info).handsBack_iff]
        refine imp_congr_right fun hret => ?_
        obtain hret : (s.accel.create3DSurface e ctx r.info).1 = .success := hret
        simp [hret]
      · exact iff_of_true (fun h => by cases h) fun h => by cases h
  | create3DSurface ctx =>
      unfold create
      dsimp only [Accelerator.create3DSurfaceFor]
      rw [← (Accelerator.creation_create3DSurface e s.accel ctx r.info).handsBack_iff]
      simp

/-- The first surface of a client has the id `2`, whatever is in its record. -/
theorem zero_handed_back : ∃ s,
    (machine Env.hostAccepts true 1).run (machine Env.hostAccepts true 1).init
      [(.create3DContext 7, .accepting, .accepting)] = some s ∧
    ¬ ((s.create .accepting ⟨0, ⟨21, 640, 480, 1⟩⟩ (.sCreate3DSurface 7 2)).1 = .success →
      ∃ id ∈ (s.create .accepting ⟨0, ⟨21, 640, 480, 1⟩⟩ (.sCreate3DSurface 7 2)).2.1,
        s.accel.HandsBack
          (s.create .accepting ⟨0, ⟨21, 640, 480, 1⟩⟩ (.sCreate3DSurface 7 2)).2.2
          ⟨21, 640, 480, 1⟩ id) := by
  refine ⟨_, rfl, fun h => ?_⟩
  obtain ⟨id, hid, hback⟩ := h (by decide)
  have hmade := Accelerator.creation_create3DSurface .accepting
    ((init true 1).accel.create3DContext .accepting).2 2 ⟨21, 640, 480, 1⟩
  have hnext := (hmade.handsBack_iff id).mp (fun _ => hback) (by decide)
  have hzero : id = 0 := (Option.some.inj hid).symm
  exact absurd (hzero.symm.trans hnext.1) (by decide)

end AccelRun
end VMQemuVGA
