import VMQemuVGA.Texture.Existence

/-! # What a creation leaves behind

`createTexture` keeps the initial data as soon as it has a texture to keep it in, and
makes the wrapper object after that. Where it fails it gives the wrapper back, and the
data never. -/

namespace VMQemuVGA

/-! ## The call -/

/-- What a creation can change. -/
structure CreationState where
  tables : TextureTables
  /-- references to the initial data -/
  dataRefs : Nat
  /-- references to the wrapper object of this call -/
  wrapperRefs : Nat
  deriving DecidableEq, Repr

namespace CreationState
variable (s : CreationState)

def manager : TextureManager := s.tables.manager

def setManager (m : TextureManager) : CreationState :=
  { s with tables := { s.tables with manager := m } }

/-- `managed_texture->data->retain()`, if there is initial data. -/
def retainData (data : Bool) : CreationState :=
  if data then { s with dataRefs := s.dataRefs + 1 } else s

/-- `OSTypeAlloc`, or a collection that keeps the wrapper. -/
def retainWrapper : CreationState := { s with wrapperRefs := s.wrapperRefs + 1 }

def releaseWrapper : CreationState := { s with wrapperRefs := s.wrapperRefs - 1 }

/-- The wrapper goes into the array, and under its key into the dictionary. -/
def register (keyed : Bool) : CreationState :=
  let s := (s.setManager { s.manager with textures := s.manager.textures + 1 }).retainWrapper
  if keyed then
    { s with
      tables := { s.tables with textureMap := "temp_key" :: s.tables.textureMap } }.retainWrapper
  else s

/-- `createTexture` once it has drawn an id. The texture it deletes where it fails does
not release its data. -/
def finishTexture (e : TextureEnv) (d : TextureDescriptor) (data keyed : Bool) (id : Nat) :
    Except IOReturn Nat × CreationState :=
  if e.managed = false then (.error .noMemory, s)
  else
    let s := s.retainData data
    if s.manager.textures ≥ 10000 then (.error .noMemory, s)
    else if e.object = false then (.error .noMemory, s)
    else
      let s := s.retainWrapper
      if TextureManager.containerReady d.compressed = false then
        (.error .noMemory, s.releaseWrapper)
      else if TextureManager.readyForUse e.enhanced = false then (.error .error, s.releaseWrapper)
      else if e.stored = false then (.error .noMemory, s.releaseWrapper)
      else
        let s := s.register keyed
        (.ok id, s.setManager (s.manager.charge d.totalSize))

def createTexture (e : TextureEnv) (d : TextureDescriptor) (data keyed : Bool) :
    Except IOReturn Nat × CreationState :=
  if passes 85 (s.manager.validationChecks d) = false then (.error .badArgument, s)
  else if (s.manager.textureMemoryUsage + d.totalSize) % u64 > s.manager.maxTextureMemory then
    (.error .noMemory, s)
  else (s.setManager s.manager.drawTextureId).finishTexture e d data keyed s.manager.nextTextureId

end CreationState

/-- If all are met, so are enough of them. -/
theorem passes_of_forall {percent : Nat} {checks : List Bool} (hpercent : percent ≤ 100)
    (h : ∀ check ∈ checks, check = true) : passes percent checks = true := by
  have hcount : checks.count true = checks.length :=
    List.count_eq_length.mpr fun check hcheck => (h check hcheck).symm
  unfold passes
  rw [hcount, decide_eq_true_eq, Nat.mul_comm]
  exact Nat.mul_le_mul_right _ hpercent

/-- All the objects that a creation asks for. -/
def TextureEnv.Grants (e : TextureEnv) : Prop :=
  e.managed = true ∧ e.object = true ∧ e.stored = true

/-! ## What it should do -/

/-- The descriptor passes every check, and what is planned for it fits. -/
structure Creatable (d : TextureDescriptor) (s : CreationState) : Prop where
  room : s.manager.textures < 10000
  checks : ∀ check ∈ s.manager.validationChecks d, check = true
  fits : s.manager.textureMemoryUsage + d.totalSize ≤ s.manager.maxTextureMemory
  /-- `m_max_texture_memory` is a `uint64_t` -/
  budget : s.manager.maxTextureMemory < u64

namespace CreationState

/-- As before a call. -/
structure SameAs (s t : CreationState) : Prop where
  textures : t.manager.textures = s.manager.textures
  textureMap : t.tables.textureMap = s.tables.textureMap
  usage : t.manager.textureMemoryUsage = s.manager.textureMemoryUsage
  data : t.dataRefs = s.dataRefs
  wrapper : t.wrapperRefs = s.wrapperRefs

/-- A creation does what it should; `issued` are the ids of earlier calls. -/
structure CreatesRight (e : TextureEnv) (d : TextureDescriptor) (data keyed : Bool)
    (issued : List Nat) (s : CreationState) : Prop where
  success : e.Grants → ∃ id t, s.createTexture e d data keyed = (.ok id, t) ∧ id ∉ issued ∧
    t.manager.textures = s.manager.textures + 1 ∧
    t.manager.textureMemoryUsage = s.manager.textureMemoryUsage + d.totalSize
  failure : ∀ ret t, s.createTexture e d data keyed = (.error ret, t) → s.SameAs t

/-! ## The call and the tables -/

variable {s : CreationState}

@[simp] theorem tables_retainData (data : Bool) (s : CreationState) :
    (s.retainData data).tables = s.tables := by
  cases data <;> rfl

/-- A new texture has its entry in both tables, if it has a key. -/
theorem tables_register (keyed : Bool) (s : CreationState) :
    (s.register keyed).tables =
      ⟨{ s.manager with textures := s.manager.textures + 1 },
        if keyed then "temp_key" :: s.tables.textureMap else s.tables.textureMap⟩ := by
  cases keyed <;> rfl

theorem finishTexture_tables (e : TextureEnv) (d : TextureDescriptor) (data keyed : Bool)
    (id : Nat) (s : CreationState) :
    ((s.finishTexture e d data keyed id).1, (s.finishTexture e d data keyed id).2.tables) =
      match s.manager.finishTexture e d id with
      | (.ok id, m) => (.ok id, ⟨m, if keyed then "temp_key" :: s.tables.textureMap
          else s.tables.textureMap⟩)
      | (.error ret, m) => (.error ret, ⟨m, s.tables.textureMap⟩) := by
  have hmanager : (s.retainData data).manager = s.manager :=
    congrArg TextureTables.manager (tables_retainData data s)
  have htables : (s.retainData data).retainWrapper.tables = s.tables := tables_retainData data s
  unfold finishTexture TextureManager.finishTexture
  split
  · rfl
  dsimp only
  rw [hmanager]
  split
  · rw [tables_retainData]
    rfl
  split
  · rw [tables_retainData]
    rfl
  split
  · exact congrArg (Prod.mk _) htables
  split
  · exact congrArg (Prod.mk _) htables
  split
  · exact congrArg (Prod.mk _) htables
  · simp only [setManager, manager, tables_register, htables]

/-- The references are all there is to it beyond what the tables already say. -/
theorem createTexture_tables (e : TextureEnv) (d : TextureDescriptor) (data keyed : Bool)
    (s : CreationState) :
    ((s.createTexture e d data keyed).1, (s.createTexture e d data keyed).2.tables) =
      s.tables.createTexture e d keyed := by
  unfold createTexture TextureTables.createTexture TextureManager.createTexture manager
  split
  · rfl
  split
  · rfl
  · exact finishTexture_tables e d data keyed _ _

/-! ## Every call fails -/

/-- Whatever is granted, the target of the wrapper is out of reach. -/
theorem finishTexture_eq (e : TextureEnv) (d : TextureDescriptor) (data keyed : Bool) (id : Nat)
    (s : CreationState) : ∃ ret, s.finishTexture e d data keyed id =
      (.error ret, if e.managed then s.retainData data else s) := by
  unfold finishTexture
  cases hmanaged : e.managed with
  | false => exact ⟨_, rfl⟩
  | true =>
      simp only [Bool.true_eq_false, if_false, if_true, TextureManager.readyForUse_false]
      split_ifs
      all_goals exact ⟨_, rfl⟩

/-- A creation that is let through takes the reference to its data with it. -/
theorem createTexture_eq (e : TextureEnv) {d : TextureDescriptor} (data keyed : Bool)
    (h : Creatable d s) : ∃ ret, s.createTexture e d data keyed = (.error ret,
      if e.managed then (s.setManager s.manager.drawTextureId).retainData data
      else s.setManager s.manager.drawTextureId) := by
  have hchecks : passes 85 _ = true := passes_of_forall (by decide) h.checks
  have hfits : (s.manager.textureMemoryUsage + d.totalSize) % u64 ≤ s.manager.maxTextureMemory := by
    rw [Nat.mod_eq_of_lt (Nat.lt_of_le_of_lt h.fits h.budget)]
    exact h.fits
  unfold createTexture
  rw [hchecks, if_neg (by decide), if_neg (Nat.not_lt_of_le hfits)]
  exact finishTexture_eq e d data keyed _ _

theorem sameAs_drawn (s : CreationState) : s.SameAs (s.setManager s.manager.drawTextureId) :=
  ⟨rfl, rfl, rfl, rfl, rfl⟩

/-- **A creation does what it should exactly where an object is refused it, and, if it
has initial data, the first one already.** -/
theorem createsRight_iff {e : TextureEnv} {d : TextureDescriptor} {data keyed : Bool}
    {issued : List Nat} (h : Creatable d s) :
    s.CreatesRight e d data keyed issued ↔ ¬ e.Grants ∧ (data = true → e.managed = false) := by
  obtain ⟨ret, heq⟩ := createTexture_eq e data keyed h
  constructor
  · intro hright
    refine ⟨fun hgrants => ?_, fun hdata => ?_⟩
    · obtain ⟨id, t, hok, -⟩ := hright.success hgrants
      rw [heq] at hok
      cases hok
    · rw [← Bool.not_eq_true]
      intro hmanaged
      have hsame := (hright.failure _ _ heq).data
      rw [hmanaged, hdata] at hsame
      exact absurd hsame (Nat.succ_ne_self _)
  · rintro ⟨hgrants, hdata⟩
    refine ⟨fun hall => absurd hall hgrants, fun ret' t hfail => ?_⟩
    rw [heq] at hfail
    obtain ⟨-, rfl⟩ := Prod.ext_iff.mp hfail
    cases data with
    | false => cases e.managed <;> exact sameAs_drawn s
    | true =>
        rw [hdata rfl]
        exact sameAs_drawn s

/-- The first texture of all is not created, with everything granted. -/
theorem first_not_createsRight : ¬ ∀ (e : TextureEnv) (d : TextureDescriptor) (data keyed : Bool)
    (issued : List Nat) (s : CreationState), Creatable d s →
      s.CreatesRight e d data keyed issued := by
  intro h
  have hcreatable : Creatable ⟨70, 64, 64, 1, 1⟩ ⟨.init, 1, 0⟩ :=
    ⟨by decide, by decide, by decide, by decide⟩
  obtain ⟨id, t, hok, -⟩ := (h .granting ⟨70, 64, 64, 1, 1⟩ false true [] ⟨.init, 1, 0⟩
    hcreatable).success ⟨rfl, rfl, rfl⟩
  obtain ⟨ret, heq⟩ := createTexture_eq .granting false true hcreatable
  rw [heq] at hok
  cases hok

/-- Refused its wrapper, an empty texture leaves no trace. -/
theorem createsRight_of_no_wrapper :
    Creatable ⟨70, 64, 64, 1, 1⟩ ⟨.init, 0, 0⟩ ∧
      CreatesRight ⟨true, false, true, true⟩ ⟨70, 64, 64, 1, 1⟩ false true [] ⟨.init, 0, 0⟩ := by
  have hcreatable : Creatable ⟨70, 64, 64, 1, 1⟩ ⟨.init, 0, 0⟩ :=
    ⟨by decide, by decide, by decide, by decide⟩
  refine ⟨hcreatable, (createsRight_iff hcreatable).mpr ⟨?_, by decide⟩⟩
  rintro ⟨-, hobject, -⟩
  cases hobject

end CreationState
end VMQemuVGA
