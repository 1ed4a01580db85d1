import VMQemuVGA.Accelerator.Accounts

/-! # How surfaces are made

The three functions that make surfaces, seen from the pools: a surface comes in
under the next id, or nothing changes but the counter. What memory a new surface
gets is then a matter of three products modulo 2^32. -/

namespace VMQemuVGA

/-- A resource is allocated if the host is asked for it and says yes. -/
theorem Gpu.allocateResource3D_success_iff {e : Env} {g : Gpu}
    (target format width height depth : Nat) :
    (g.allocateResource3D e target format width height depth).1 = .success ↔
      g.allocates = true ∧
        (e.ask (create3DCmd (inc32 g.nextResourceId) target format 0 width height depth)).ret =
          .success := by
  by_cases h : g.allocates = false
  · have hret := (allocateResource3D_of_not_allocates (e := e) h target format width height depth).1
    exact iff_of_false hret fun h' => Bool.noConfusion (h.symm.trans h'.1)
  have hallocates : g.allocates = true := (Bool.not_eq_false _).mp h
  have hparts := hallocates
  rw [allocates, Bool.and_eq_true, Option.isNone_iff_eq_none] at hparts
  have h3 : g.drawResourceId.supports3D = true := hparts.1
  have hnew : g.drawResourceId.findResource (inc32 g.nextResourceId) = none := hparts.2
  refine Iff.trans ?_ (and_iff_right hallocates).symm
  unfold allocateResource3D createResource3D
  dsimp only
  rw [if_neg (by rw [h3]; exact Bool.noConfusion),
    show g.drawResourceId.nextResourceId = inc32 g.nextResourceId from rfl, hnew,
    if_neg Bool.noConfusion]
  -- a resource that is not registered is still allocated
  split
  · split
    · exact Iff.rfl
    · exact Iff.rfl
  · exact Iff.rfl

/-! ## Two ways a creation ends -/

namespace Accelerator

/-- The pools are as they were; an id may have been drawn. -/
structure KeepsPools (s t : Accelerator) : Prop where
  surfaces : t.surfaces = s.surfaces
  contexts : t.contexts = s.contexts
  next : t.nextSurfaceId = s.nextSurfaceId ∨ t.nextSurfaceId = inc32 s.nextSurfaceId
  allocated : t.memoryAllocated = s.memoryAllocated

/-- The surface `x` comes into the pool under the next id, and is bound to `ctx`. -/
structure Enters (e : AccelEnv) (ctx : Nat) (x : AccelSurface) (s t : Accelerator) : Prop where
  id : x.surfaceId = inc32 s.nextSurfaceId
  surfaces : s.surfaces.add x (s.grownSurfaces e) = some t.surfaces
  contexts : t.contexts =
    s.contexts.modify (fun c => c.contextId == ctx) (AccelContext.bindSurface e x.surfaceId)
  next : t.nextSurfaceId = inc32 s.nextSurfaceId
  allocated : t.memoryAllocated = s.memoryAllocated

/-- How the creation of a surface of `size` bytes may end. -/
inductive SurfaceCreation (e : AccelEnv) (s : Accelerator) (ctx size : Nat) (info : SurfaceInfo) :
    IOReturn × Accelerator → Prop
  | failed {ret : IOReturn} {t : Accelerator} (hret : ret ≠ .success) (hkept : KeepsPools s t) :
      SurfaceCreation e s ctx size info (ret, t)
  | made {resource : Nat} {d : MemoryDescriptor} {t : Accelerator}
      (hfound : (s.findContext ctx).isSome = true) (hd : e.withCapacity size = some d)
      (henter : Enters e ctx ⟨inc32 s.nextSurfaceId, resource, info, some d, false⟩ s t) :
      SurfaceCreation e s ctx size info (.success, t)

variable {e e' : AccelEnv} {s t : Accelerator} {ctx : Nat} {info : SurfaceInfo}

theorem KeepsPools.refl (s : Accelerator) : KeepsPools s s := ⟨rfl, rfl, Or.inl rfl, rfl⟩

theorem KeepsPools.withGpu (s : Accelerator) (g : Gpu) : KeepsPools s (s.withGpu g) :=
  ⟨rfl, rfl, Or.inl rfl, rfl⟩

theorem KeepsPools.drawSurfaceId (s : Accelerator) : KeepsPools s s.drawSurfaceId :=
  ⟨rfl, rfl, Or.inr rfl, rfl⟩

/-- What `enterSurface` does with a surface under a new id. -/
theorem enters_of_enterSurface {resource : Nat} {d : MemoryDescriptor}
    (h : s.drawSurfaceId.enterSurface e ctx
      ⟨s.drawSurfaceId.nextSurfaceId, resource, info, some d, false⟩ = some t) :
    Enters e ctx ⟨inc32 s.nextSurfaceId, resource, info, some d, false⟩ s t := by
  unfold enterSurface at h
  rw [Option.map_eq_some_iff] at h
  obtain ⟨pool, hpool, rfl⟩ := h
  exact ⟨rfl, hpool, rfl, rfl, rfl⟩

theorem creation_create3DSurface (e : AccelEnv) (s : Accelerator) (ctx : Nat)
    (info : SurfaceInfo) :
    SurfaceCreation e s ctx (calculateSurfaceSize info) info (s.create3DSurface e ctx info) := by
  unfold create3DSurface
  cases hc : s.findContext ctx with
  | none => exact .failed IOReturn.noConfusion (.refl s)
  | some c =>
      dsimp only
      split
      · next hret => exact .failed hret (.withGpu s _)
      unfold backSurface
      split
      · exact .failed IOReturn.noConfusion (.withGpu s _)
      dsimp only
      split
      · exact .failed IOReturn.noConfusion ⟨rfl, rfl, Or.inr rfl, rfl⟩
      next d hd =>
      split
      · exact .failed IOReturn.noConfusion ⟨rfl, rfl, Or.inr rfl, rfl⟩
      · next t ht =>
        obtain ⟨hid, hsurfaces, hcontexts, hnext, hallocated⟩ := enters_of_enterSurface ht
        exact .made (by rw [hc]; rfl) hd ⟨hid, hsurfaces, hcontexts, hnext, hallocated⟩

theorem creation_createSurfaceInternal (e : AccelEnv) (s : Accelerator) (ctx : Nat)
    (info : SurfaceInfo) :
    SurfaceCreation e s ctx (info.width * info.height * info.depth * 4 % u32) info
      (s.createSurfaceInternal e ctx info) := by
  unfold createSurfaceInternal
  cases hc : s.findContext ctx with
  | none => exact .failed IOReturn.noConfusion (.refl s)
  | some c =>
      dsimp only
      split
      · exact .failed IOReturn.noConfusion (.refl s)
      split
      · exact .failed IOReturn.noConfusion ⟨rfl, rfl, Or.inr rfl, rfl⟩
      next d hd =>
      split
      · exact .failed IOReturn.noConfusion (.drawSurfaceId s)
      · next t ht => exact .made (by rw [hc]; rfl) hd (enters_of_enterSurface ht)

/-! ### What a creation needs -/

/-- The call finds its context, gets a resource from the host, and gets all that goes
into a surface. -/
def Grants3DSurface (e : AccelEnv) (s : Accelerator) (ctx : Nat) (info : SurfaceInfo) : Prop :=
  s.createsResource ctx ∧
    (e.ask (Gpu.create3DCmd (inc32 s.gpu.nextResourceId) resourceTarget2D info.format 0
      info.width info.height 1)).ret = .success ∧
    s.surfaceFits e (calculateSurfaceSize info) = true

/-- The call finds its context, and gets all that goes into a surface of `size` bytes. -/
def GrantsSurface (e : AccelEnv) (s : Accelerator) (ctx size : Nat) : Prop :=
  (s.findContext ctx).isSome = true ∧ s.surfaceFits e size = true

theorem backSurface_success_iff {resource : Nat} :
    (s.backSurface e ctx resource info).1 = .success ↔
      s.surfaceFits e (calculateSurfaceSize info) = true := by
  unfold backSurface
  by_cases halloc : e.accelAlloc .surface = false
  · rw [if_pos halloc, surfaceFits_of_alloc_eq_false halloc]
    exact iff_of_false IOReturn.noConfusion Bool.noConfusion
  rw [if_neg halloc]
  dsimp only
  cases hd : e.withCapacity (calculateSurfaceSize info) with
  | none =>
      rw [surfaceFits_of_withCapacity_eq_none hd]
      exact iff_of_false IOReturn.noConfusion Bool.noConfusion
  | some d =>
      rw [surfaceFits_eq_isSome ((Bool.not_eq_false _).mp halloc) hd s ctx
        ⟨s.drawSurfaceId.nextSurfaceId, resource, info, some d, false⟩]
      dsimp only
      cases s.drawSurfaceId.enterSurface e ctx
          ⟨s.drawSurfaceId.nextSurfaceId, resource, info, some d, false⟩ with
      | none => exact iff_of_false IOReturn.noConfusion Bool.noConfusion
      | some t => exact iff_of_true rfl rfl

theorem create3DSurface_success_iff :
    (s.create3DSurface e ctx info).1 = .success ↔ s.Grants3DSurface e ctx info := by
  unfold create3DSurface Grants3DSurface createsResource
  cases s.findContext ctx with
  | none => exact iff_of_false IOReturn.noConfusion fun h => Bool.noConfusion h.1.1
  | some c =>
      have hres := Gpu.allocateResource3D_success_iff (e := e.toEnv) (g := s.gpu)
        resourceTarget2D info.format info.width info.height 1
      dsimp only
      split
      · next hret =>
        refine iff_of_false hret fun h => hret (hres.mpr ⟨h.1.2, h.2.1⟩)
      · next hret =>
        obtain ⟨halloc, hask⟩ := hres.mp (not_not.mp hret)
        rw [backSurface_success_iff]
        exact ⟨fun hfits => ⟨⟨rfl, halloc⟩, hask, hfits⟩, fun h => h.2.2⟩

theorem createSurfaceInternal_success_iff :
    (s.createSurfaceInternal e ctx info).1 = .success ↔
      s.GrantsSurface e ctx (info.width * info.height * info.depth * 4 % u32) := by
  unfold createSurfaceInternal GrantsSurface
  cases s.findContext ctx with
  | none => exact iff_of_false IOReturn.noConfusion fun h => Bool.noConfusion h.1
  | some c =>
      dsimp only
      rw [Option.isSome_some, eq_self_iff_true, true_and]
      by_cases halloc : e.accelAlloc .surface = false
      · rw [if_pos halloc, surfaceFits_of_alloc_eq_false halloc]
        exact iff_of_false IOReturn.noConfusion Bool.noConfusion
      rw [if_neg halloc]
      cases hd : e.withCapacity (info.width * info.height * info.depth * 4 % u32) with
      | none =>
          rw [surfaceFits_of_withCapacity_eq_none hd]
          exact iff_of_false IOReturn.noConfusion Bool.noConfusion
      | some d =>
          rw [surfaceFits_eq_isSome ((Bool.not_eq_false _).mp halloc) hd s ctx
            ⟨s.drawSurfaceId.nextSurfaceId, 0, info, some d, false⟩]
          dsimp only
          cases s.drawSurfaceId.enterSurface e ctx
              ⟨s.drawSurfaceId.nextSurfaceId, 0, info, some d, false⟩ with
          | none => exact iff_of_false IOReturn.noConfusion Bool.noConfusion
          | some t => exact iff_of_true rfl rfl

/-! ### Framebuffers -/

/-- A surface that is made if there is a format for it. -/
inductive OptionalCreation (e : AccelEnv) (s : Accelerator) (ctx : Nat) (info : SurfaceInfo) :
    List AccelSurface → Accelerator → Prop
  | absent (hformat : info.format = 0) : OptionalCreation e s ctx info [] s
  | made {d : MemoryDescriptor} {t : Accelerator} {resource : Nat} (hformat : info.format ≠ 0)
      (hd : e.withCapacity (info.width * info.height * info.depth * 4 % u32) = some d)
      (henter : Enters e ctx ⟨inc32 s.nextSurfaceId, resource, info, some d, false⟩ s t) :
      OptionalCreation e s ctx info [⟨inc32 s.nextSurfaceId, resource, info, some d, false⟩] t

/-- A depth surface that is wanted may not come about; `color` is then taken back. -/
theorem addDepthSurface_cases (e : AccelEnv) (s : Accelerator) (ctx color : Nat)
    (info : SurfaceInfo) :
    let r := s.addDepthSurface e ctx color info
    (r.1 = .success ∧ ∃ l, OptionalCreation e s ctx info l r.2) ∨
      (r.1 ≠ .success ∧ info.format ≠ 0 ∧ ∃ s₁, KeepsPools s s₁ ∧
        r.2 = if color = 0 then s₁ else (s₁.destroySurfaceInternal ctx color).2) := by
  unfold addDepthSurface
  by_cases hformat : info.format = 0
  · rw [if_pos hformat]
    exact Or.inl ⟨rfl, [], .absent hformat⟩
  rw [if_neg hformat]
  have hcreate := creation_createSurfaceInternal e s ctx info
  generalize s.createSurfaceInternal e ctx info = r at hcreate
  cases hcreate with
  | failed hret hkept =>
      rename_i ret t
      right
      dsimp only
      rw [if_neg hret]
      by_cases hcolor : color = 0
      · rw [if_pos hcolor]
        exact ⟨hret, hformat, t, hkept, by rw [if_pos hcolor]⟩
      · rw [if_neg hcolor]
        exact ⟨hret, hformat, t, hkept, by rw [if_neg hcolor]⟩
  | made hfound hd henter =>
      left
      dsimp only
      rw [if_pos rfl]
      exact ⟨rfl, _, .made hformat hd henter⟩

/-- How `createFramebuffer` may end: with its surfaces in the pool, with nothing
done, with at most an id drawn, or with the colour surface made and taken back. -/
inductive FramebufferCreation (e e' : AccelEnv) (s : Accelerator) (ctx : Nat)
    (color depth : SurfaceInfo) : IOReturn × Accelerator → Prop
  | made {l l' : List AccelSurface} {s₁ t : Accelerator}
      (hfits : framebufferFits color.width color.height = true)
      (hcolor : OptionalCreation e s ctx color l s₁)
      (hdepth : OptionalCreation e' s₁ ctx depth l' t) :
      FramebufferCreation e e' s ctx color depth (.success, t)
  | refused {ret : IOReturn} (hret : ret ≠ .success) :
      FramebufferCreation e e' s ctx color depth (ret, s)
  | failed {ret : IOReturn} {t : Accelerator} (hret : ret ≠ .success)
      (hformat : color.format ≠ 0 ∨ depth.format ≠ 0) (hkept : KeepsPools s t) :
      FramebufferCreation e e' s ctx color depth (ret, t)
  | undone {ret : IOReturn} {x : AccelSurface} {s₁ s₂ : Accelerator} (hret : ret ≠ .success)
      (hcolor : color.format ≠ 0) (hdepth : depth.format ≠ 0)
      (hbacked : x.backingMemory.isSome = true) (henter : Enters e ctx x s s₁)
      (hkept : KeepsPools s₁ s₂) :
      FramebufferCreation e e' s ctx color depth (ret,
        if x.surfaceId = 0 then s₂ else (s₂.destroySurfaceInternal ctx x.surfaceId).2)

theorem creation_createFramebuffer (e e' : AccelEnv) (s : Accelerator)
    (ctx width height colorFormat depthFormat : Nat) :
    FramebufferCreation e e' s ctx ⟨colorFormat, width, height, 1⟩ ⟨depthFormat, width, height, 1⟩
      (s.createFramebuffer e e' ctx width height colorFormat depthFormat) := by
  unfold createFramebuffer
  split
  · exact .refused IOReturn.noConfusion
  split
  · exact .refused IOReturn.noConfusion
  next hfits =>
  obtain hfits : framebufferFits width height = true := Bool.not_eq_false _ ▸ hfits
  by_cases hcolor : colorFormat = 0
  · rw [if_pos hcolor]
    have hdepth := addDepthSurface_cases e' s ctx 0 ⟨depthFormat, width, height, 1⟩
    generalize s.addDepthSurface e' ctx 0 ⟨depthFormat, width, height, 1⟩ = r at hdepth
    obtain ⟨ret, t⟩ := r
    rcases hdepth with ⟨hret, l, hmade⟩ | ⟨hret, hformat, s₁, hkept, rfl⟩
    · cases hret
      exact .made hfits (.absent hcolor) hmade
    · exact .failed hret (Or.inr hformat) hkept
  rw [if_neg hcolor]
  have hmade := creation_createSurfaceInternal e s ctx ⟨colorFormat, width, height, 1⟩
  generalize s.createSurfaceInternal e ctx ⟨colorFormat, width, height, 1⟩ = r at hmade
  cases hmade with
  | failed hret hkept =>
      dsimp only
      rw [if_pos hret]
      exact .failed hret (Or.inl hcolor) hkept
  | made hfound hd henter =>
      rename_i resource d s₁
      dsimp only
      rw [if_neg (not_not.mpr rfl), henter.next]
      have hdepth := addDepthSurface_cases e' s₁ ctx (inc32 s.nextSurfaceId)
        ⟨depthFormat, width, height, 1⟩
      generalize s₁.addDepthSurface e' ctx (inc32 s.nextSurfaceId)
        ⟨depthFormat, width, height, 1⟩ = r at hdepth
      obtain ⟨ret, t⟩ := r
      rcases hdepth with ⟨hret, l, hdepth⟩ | ⟨hret, hformat, s₂, hkept, rfl⟩
      · cases hret
        exact .made hfits (.made hcolor hd henter) hdepth
      · exact .undone hret hcolor hformat rfl henter hkept

end Accelerator

/-! ## What backs a surface -/

namespace SurfaceInfo

/-- Bytes of a pixel. -/
def bytesPerPixel (info : SurfaceInfo) : Nat := if info.format = formatR5G6B5 then 2 else 4

/-- What all the pixels take, as an unbounded number. -/
def exactSize (info : SurfaceInfo) : Nat :=
  info.width * info.height * info.depth * info.bytesPerPixel

/-- `size` bytes hold all the pixels, and as much as `calculateSurfaceSize` says. -/
def FitsIn (info : SurfaceInfo) (size : Nat) : Prop :=
  info.exactSize ≤ size ∧ calculateSurfaceSize info ≤ size

theorem bytesPerPixel_cases (info : SurfaceInfo) :
    info.bytesPerPixel = 2 ∨ info.bytesPerPixel = 4 := by
  unfold bytesPerPixel
  split
  · exact Or.inl rfl
  · exact Or.inr rfl

theorem bytesPerPixel_pos (info : SurfaceInfo) : 0 < info.bytesPerPixel := by
  rcases info.bytesPerPixel_cases with h | h
  · omega
  · omega

theorem calculateSurfaceSize_eq (info : SurfaceInfo) :
    calculateSurfaceSize info = info.width * info.height * info.bytesPerPixel % u32 := rfl

/-- What `allocateSurfaceMemory` takes does for one layer, if nothing wraps. -/
theorem fitsIn_calculateSurfaceSize_iff (info : SurfaceInfo) :
    info.FitsIn (calculateSurfaceSize info) ↔ info.exactSize = 0 ∨
      info.depth = 1 ∧ info.width * info.height * info.bytesPerPixel < u32 := by
  unfold FitsIn exactSize
  rw [calculateSurfaceSize_eq, Nat.mul_right_comm _ info.depth]
  generalize info.width * info.height * info.bytesPerPixel = layer
  have hlayer : layer % u32 ≤ layer := Nat.mod_le ..
  have hbound : layer % u32 < u32 := Nat.mod_lt _ (by decide)
  rcases Nat.lt_trichotomy info.depth 1 with hd | hd | hd
  · have hzero : info.depth = 0 := by omega
    rw [hzero, Nat.mul_zero]
    simp
  · rw [hd, Nat.mul_one]
    constructor
    · intro h
      exact Or.inr ⟨rfl, by omega⟩
    · rintro (h | h)
      · simp [h]
      · exact ⟨Nat.le_of_eq (Nat.mod_eq_of_lt h.2).symm, Nat.le_refl _⟩
  · constructor
    · intro h
      have htwo : layer * 2 ≤ layer * info.depth := Nat.mul_le_mul_left layer hd
      exact Or.inl (by
        have hz : layer = 0 := by omega
        rw [hz, Nat.zero_mul])
    · rintro (h | h)
      · rw [h]
        exact ⟨Nat.zero_le _, Nat.le_refl _⟩
      · omega

/-- What `createSurfaceInternal` takes counts every pixel as four bytes. -/
theorem fitsIn_internal_iff (info : SurfaceInfo) :
    info.FitsIn (info.width * info.height * info.depth * 4 % u32) ↔
      info.width * info.height * info.depth * 4 < u32 ∧
        (0 < info.depth ∨ calculateSurfaceSize info = 0) := by
  unfold FitsIn exactSize
  by_cases hd : info.depth = 0
  · rw [hd]
    simp [u32]
  have hpos : 0 < info.depth := Nat.pos_of_ne_zero hd
  have hle : calculateSurfaceSize info ≤
      info.width * info.height * info.depth * info.bytesPerPixel := by
    rw [calculateSurfaceSize_eq, Nat.mul_right_comm _ info.depth]
    exact Nat.le_trans (Nat.mod_le ..) (Nat.le_mul_of_pos_right _ hpos)
  generalize info.width * info.height * info.depth = pixels at hle ⊢
  constructor
  · rintro ⟨h, -⟩
    refine ⟨?_, Or.inl hpos⟩
    rcases info.bytesPerPixel_cases with hb | hb
    · rw [hb] at h
      unfold u32 at *
      omega
    · rw [hb] at h
      unfold u32 at *
      omega
  · rintro ⟨h, -⟩
    rw [Nat.mod_eq_of_lt h]
    have hfour : pixels * info.bytesPerPixel ≤ pixels * 4 := by
      refine Nat.mul_le_mul_left pixels ?_
      rcases info.bytesPerPixel_cases with hb | hb
      · omega
      · omega
    exact ⟨hfour, Nat.le_trans hle hfour⟩

end SurfaceInfo

/-- The backing memory of the surface holds all of it. -/
def AccelSurface.FullyBacked (x : AccelSurface) : Prop :=
  ∃ d, x.backingMemory = some d ∧ x.info.FitsIn d.length

/-- The calls that make surfaces. -/
inductive MakeCall where
  | create3DSurface (ctx : Nat) (info : SurfaceInfo)
  | createSurfaceInternal (ctx : Nat) (info : SurfaceInfo)
  | createFramebuffer (ctx width height colorFormat depthFormat : Nat)
  deriving DecidableEq, Repr

namespace MakeCall

/-- The surfaces that are asked for. -/
def requested : MakeCall → List SurfaceInfo
  | .create3DSurface _ info => [info]
  | .createSurfaceInternal _ info => [info]
  | .createFramebuffer _ width height colorFormat depthFormat =>
      (if colorFormat = 0 then [] else [⟨colorFormat, width, height, 1⟩]) ++
        if depthFormat = 0 then [] else [⟨depthFormat, width, height, 1⟩]

/-- What is granted has a size that does not wrap, and one layer or, where the layers
count, at least one. -/
def Sized (e : AccelEnv) (s : Accelerator) : MakeCall → Prop
  | .create3DSurface ctx info => s.Grants3DSurface e ctx info →
      info.exactSize = 0 ∨ info.depth = 1 ∧ info.width * info.height * info.bytesPerPixel < u32
  | .createSurfaceInternal ctx info =>
      s.GrantsSurface e ctx (info.width * info.height * info.depth * 4 % u32) →
        info.width * info.height * info.depth * 4 < u32 ∧
          (0 < info.depth ∨ calculateSurfaceSize info = 0)
  | .createFramebuffer .. => True

end MakeCall

namespace Accelerator
variable {e e' : AccelEnv} {s t : Accelerator} {ctx : Nat} {info : SurfaceInfo}

/-- Make surfaces; `e'` answers for the second one. -/
def make (e e' : AccelEnv) (s : Accelerator) : MakeCall → IOReturn × Accelerator
  | .create3DSurface ctx info => s.create3DSurface e ctx info
  | .createSurfaceInternal ctx info => s.createSurfaceInternal e ctx info
  | .createFramebuffer ctx width height colorFormat depthFormat =>
      s.createFramebuffer e e' ctx width height colorFormat depthFormat

/-- What has come into the pool is what was `requested`, all of it fully backed. -/
def Backs (s t : Accelerator) (requested : List SurfaceInfo) : Prop :=
  ∃ new : List AccelSurface, t.surfaces.entries.Perm (new ++ s.surfaces.entries) ∧
    new.map AccelSurface.info = requested ∧ ∀ x ∈ new, x.FullyBacked

/-- A surface that has come in is the one there is to back. -/
theorem Enters.backs_iff {x : AccelSurface} (h : Enters e ctx x s t) :
    Backs s t [x.info] ↔ x.FullyBacked := by
  have hx : t.surfaces.entries.Perm ([x] ++ s.surfaces.entries) := Pool.entries_add h.surfaces
  constructor
  · rintro ⟨new, hnew, -, hbacked⟩
    have hperm : [x].Perm new := (List.perm_append_right_iff _).mp (hx.symm.trans hnew)
    exact hbacked x (hperm.mem_iff.mp List.mem_cons_self)
  · intro hbacked
    exact ⟨[x], hx, rfl, fun y hy => by rwa [List.mem_singleton.mp hy]⟩

theorem SurfaceCreation.backs_iff {size : Nat} {r : IOReturn × Accelerator}
    (hcap : ∀ n d, e.withCapacity n = some d → d.length = n)
    (h : SurfaceCreation e s ctx size info r) :
    (r.1 = .success → Backs s r.2 [info]) ↔ (r.1 = .success → info.FitsIn size) := by
  cases h with
  | failed hret _ => exact iff_of_true (fun h => absurd h hret) fun h => absurd h hret
  | made hfound hd henter =>
      refine imp_congr_right fun _ => (henter.backs_iff).trans ?_
      rw [← hcap _ _ hd]
      constructor
      · rintro ⟨d', hd', hfits⟩
        cases hd'
        exact hfits
      · exact fun hfits => ⟨_, rfl, hfits⟩

theorem OptionalCreation.backs {l : List AccelSurface}
    (hcap : ∀ n d, e.withCapacity n = some d → d.length = n)
    (hfits : info.FitsIn (info.width * info.height * info.depth * 4 % u32))
    (h : OptionalCreation e s ctx info l t) :
    Backs s t (if info.format = 0 then [] else [info]) := by
  cases h with
  | absent hformat =>
      rw [if_pos hformat]
      exact ⟨[], .refl _, rfl, fun x hx => by cases hx⟩
  | made hformat hd henter =>
      rw [if_neg hformat, henter.backs_iff]
      exact ⟨_, rfl, by rwa [hcap _ _ hd]⟩

theorem Backs.trans {u : Accelerator} {l l' : List SurfaceInfo} (h : Backs s t l)
    (h' : Backs t u l') : Backs s u (l ++ l') := by
  obtain ⟨new, hnew, rfl, hbacked⟩ := h
  obtain ⟨new', hnew', rfl, hbacked'⟩ := h'
  refine ⟨new ++ new', ?_, List.map_append, fun x hx => ?_⟩
  · rw [List.append_assoc]
    refine hnew'.trans ((List.Perm.append_left new' hnew).trans ?_)
    rw [← List.append_assoc, ← List.append_assoc]
    exact List.perm_append_comm.append_right _
  · rcases List.mem_append.mp hx with hx | hx
    · exact hbacked x hx
    · exact hbacked' x hx

/-- The dimensions of a framebuffer are small enough for any format. -/
theorem fitsIn_of_framebufferFits {width height : Nat} (h : framebufferFits width height = true)
    (format : Nat) :
    SurfaceInfo.FitsIn ⟨format, width, height, 1⟩ (width * height * 1 * 4 % u32) := by
  refine (SurfaceInfo.fitsIn_internal_iff ⟨format, width, height, 1⟩).mpr ⟨?_, Or.inl Nat.one_pos⟩
  simp only [framebufferFits, Bool.and_eq_true, decide_eq_true_eq] at h
  have hpixels : width * height ≤ 8192 * 8192 := Nat.mul_le_mul h.1.2 h.2
  dsimp only [u32]
  omega

/-- **A call that succeeds backs what it makes exactly if its sizes do not wrap
and it counts the layers.** -/
theorem make_backs_iff (hcap : ∀ n d, e.withCapacity n = some d → d.length = n)
    (hcap' : ∀ n d, e'.withCapacity n = some d → d.length = n) (s : Accelerator)
    (call : MakeCall) :
    ((s.make e e' call).1 = .success → Backs s (s.make e e' call).2 call.requested) ↔
      call.Sized e s := by
  cases call with
  | create3DSurface ctx info =>
      refine ((creation_create3DSurface e s ctx info).backs_iff hcap).trans ?_
      rw [info.fitsIn_calculateSurfaceSize_iff, create3DSurface_success_iff]
      rfl
  | createSurfaceInternal ctx info =>
      refine ((creation_createSurfaceInternal e s ctx info).backs_iff hcap).trans ?_
      rw [info.fitsIn_internal_iff, createSurfaceInternal_success_iff]
      rfl
  | createFramebuffer ctx width height colorFormat depthFormat =>
      refine iff_of_true (fun hret => ?_) trivial
      have hmade := creation_createFramebuffer e e' s ctx width height colorFormat depthFormat
      unfold make at hret ⊢
      dsimp only at hret ⊢
      generalize s.createFramebuffer e e' ctx width height colorFormat depthFormat = r
        at hmade hret
      cases hmade with
      | made hfits hcolor hdepth =>
          exact (hcolor.backs hcap (fitsIn_of_framebufferFits hfits colorFormat)).trans
            (hdepth.backs hcap' (fitsIn_of_framebufferFits hfits depthFormat))
      | refused hret' => exact absurd hret hret'
      | failed hret' hformat hkept => exact absurd hret hret'
      | undone hret' hcolor hdepth hbacked henter hkept => exact absurd hret hret'

theorem length_of_accepting (n : Nat) (d : MemoryDescriptor)
    (h : AccelEnv.accepting.withCapacity n = some d) : d.length = n := by
  cases h
  rfl

/-- An accelerator with one context. -/
def oneContext : Accelerator := ((init true 1).create3DContext .accepting).2

/-- A framebuffer with a colour surface only. -/
theorem make_backs_accepting :
    (∀ n d, AccelEnv.accepting.withCapacity n = some d → d.length = n) ∧
      (((oneContext.make .accepting .accepting (.createFramebuffer 2 640 480 21 0)).1 = .success →
        Backs oneContext
          (oneContext.make .accepting .accepting (.createFramebuffer 2 640 480 21 0)).2
          (MakeCall.requested (.createFramebuffer 2 640 480 21 0))) ↔
        MakeCall.Sized .accepting oneContext (.createFramebuffer 2 640 480 21 0)) :=
  ⟨length_of_accepting, make_backs_iff length_of_accepting length_of_accepting oneContext
    (.createFramebuffer 2 640 480 21 0)⟩

/-- 65536 by 16385 pixels of four bytes get 256 KiB. -/
theorem wrapped_surface_short :
    ¬ ((oneContext.make .accepting .accepting (.create3DSurface 2 ⟨21, 65536, 16385, 1⟩)).1 =
        .success →
      Backs oneContext
        (oneContext.make .accepting .accepting (.create3DSurface 2 ⟨21, 65536, 16385, 1⟩)).2
        (MakeCall.requested (.create3DSurface 2 ⟨21, 65536, 16385, 1⟩))) := by
  intro h
  have hfits := ((creation_create3DSurface .accepting oneContext 2
    ⟨21, 65536, 16385, 1⟩).backs_iff length_of_accepting).mp h (by decide)
  have hshort : calculateSurfaceSize ⟨21, 65536, 16385, 1⟩ = 262144 := by decide
  have hexact : SurfaceInfo.exactSize ⟨21, 65536, 16385, 1⟩ = 4295229440 := by decide
  have hle := hfits.1
  rw [hshort, hexact] at hle
  omega

end Accelerator
end VMQemuVGA
