import VMQemuVGA.Texture.Usage

/-! # Which textures there are

The operations on a texture have three ways to tell whether an id names one: a
search of the collections, any entry of the array, and the counter of ids. What
they should tell is what creation and destruction have returned. -/

namespace VMQemuVGA

/-! ## The three ways -/

/-- The manager with the dictionary beside it. -/
structure TextureTables where
  manager : TextureManager
  /-- the keys of `m_texture_map` -/
  textureMap : List String
  deriving DecidableEq, Repr

/-- `"texture_%d"` of a `uint32_t`. -/
def textureKey (id : Nat) : String :=
  if id < 2 ^ 31 then "texture_" ++ toString id else "texture_-" ++ toString (u32 - id)

namespace TextureTables
variable (id : Nat) (s : TextureTables)

/-- Whether `findTexture` returns an object. One that is in the dictionary is not
returned; in the array the object in the middle is taken for it. -/
def findTexture : Bool :=
  if id = 0 then false
  else if textureKey id ∈ s.textureMap then false
  else decide (s.manager.textures > 0)

/-- `texture_exists_in_system` of `getTextureDescriptor`: the first object of the
array or the one key of the dictionary will do. -/
def existsInSystem : Bool :=
  decide (0 < id ∧ id < 0xFFFF0000) &&
    (decide (s.manager.textures > 0) || decide ("temp_key" ∈ s.textureMap))

def init : TextureTables := ⟨.init, []⟩

/-- A successful creation enters the dictionary under the same key every time, if
it gets the key and the entry. -/
def createTexture (e : TextureEnv) (d : TextureDescriptor) (keyed : Bool) :
    Except IOReturn Nat × TextureTables :=
  match s.manager.createTexture e d with
  | (.ok id, m) => (.ok id, ⟨m, if keyed then "temp_key" :: s.textureMap else s.textureMap⟩)
  | (.error ret, m) => (.error ret, ⟨m, s.textureMap⟩)

/-- `bindTexture`. With id 0 it unbinds. -/
def bindTexture (point : Nat) : IOReturn :=
  if point ≥ 32 then .badArgument
  else if s.findTexture id = false ∧ id ≠ 0 then .badArgument
  else .success

end TextureTables

/-- The places where an operation is given the id of a texture. -/
inductive TextureUse where
  | getTextureDescriptor
  | updateTexture
  | readTexture
  | copySource
  | copyDest
  | generateMipmaps
  | generateMipmapsRange
  | setMipmapMode
  | bindTexture
  deriving DecidableEq, Repr

/-- The operation takes the id for that of a texture. -/
def TextureUse.finds (use : TextureUse) (id : Nat) (s : TextureTables) : Bool :=
  match use with
  | getTextureDescriptor => s.existsInSystem id
  | updateTexture | bindTexture => s.findTexture id
  | readTexture | copySource | copyDest | generateMipmaps | generateMipmapsRange
  | setMipmapMode => s.manager.known id

/-! ## Runs -/

/-- The tables with the ids that were handed out and not taken back. -/
structure ExistenceRun where
  tables : TextureTables
  live : List Nat
  deriving DecidableEq, Repr

inductive ExistenceCall where
  | createTexture (e : TextureEnv) (d : TextureDescriptor) (keyed : Bool)
  | destroyTexture (id : Nat)
  /-- one of the operations that change nothing here: `getTextureDescriptor`,
  `updateTexture`, `readTexture`, `copyTexture`, `bindTexture` -/
  | look (use : TextureUse) (id : Nat)
  | generateMipmaps (id : Nat)
  | generateMipmapsRange (id base last : Nat)
  | setMipmapMode (id mode : Nat)
  deriving DecidableEq, Repr

namespace ExistenceRun

def setManager (m : TextureManager) (s : ExistenceRun) : ExistenceRun :=
  { s with tables := { s.tables with manager := m } }

def step (s : ExistenceRun) : ExistenceCall → Option ExistenceRun
  | .createTexture e d keyed =>
      match s.tables.createTexture e d keyed with
      | (.ok id, tables) => some ⟨tables, id :: s.live⟩
      | (.error _, tables) => some ⟨tables, s.live⟩
  | .destroyTexture id =>
      match s.tables.manager.destroyTexture id with
      | (.success, m) => some { s.setManager m with live := s.live.filter fun a => a ≠ id }
      | (_, m) => some (s.setManager m)
  | .look _ _ => some s
  | .generateMipmaps id => some (s.setManager (s.tables.manager.generateMipmaps id).2)
  | .generateMipmapsRange id base last =>
      (s.tables.manager.generateMipmapsRange id base last).map fun r => s.setManager r.2
  | .setMipmapMode id mode => some (s.setManager (s.tables.manager.setMipmapMode id mode).2)

def init : ExistenceRun := ⟨.init, []⟩

def machine : Machine ExistenceRun ExistenceCall := ⟨init, step⟩

/-- All operations know exactly the ids that are in use. -/
def Agrees (s : ExistenceRun) : Prop :=
  ∀ (use : TextureUse) (id : Nat), id < u32 → (use.finds id s.tables = true ↔ id ∈ s.live)

/-- The condition on a call: a creation is refused before it draws an id, for its
descriptor or for want of memory. -/
def Refused (s : ExistenceRun) : ExistenceCall → Prop
  | .createTexture _ d _ =>
      passes 85 (s.tables.manager.validationChecks d) = false ∨
        (s.tables.manager.textureMemoryUsage + d.totalSize) % u64 >
          s.tables.manager.maxTextureMemory
  | _ => True

/-- Nothing was ever stored. -/
structure Empty (s : ExistenceRun) : Prop where
  textures : s.tables.manager.textures = 0
  textureMap : s.tables.textureMap = []
  live : s.live = []

end ExistenceRun

/-! ## What the calls change -/

namespace TextureManager
variable {s : TextureManager}

/-- A creation that is not refused has drawn an id when it fails. -/
theorem createTexture_draws (e : TextureEnv) {d : TextureDescriptor}
    (hchecks : passes 85 (s.validationChecks d) = true)
    (hbudget : (s.textureMemoryUsage + d.totalSize) % u64 ≤ s.maxTextureMemory) :
    ∃ ret, s.createTexture e d = (.error ret, s.drawTextureId) := by
  unfold createTexture
  rw [hchecks, if_neg (by simp), if_neg (Nat.not_lt_of_le hbudget)]
  exact s.drawTextureId.finishTexture_fails e d s.nextTextureId

/-- A creation that is refused changes nothing. -/
theorem createTexture_refused (e : TextureEnv) {d : TextureDescriptor}
    (h : passes 85 (s.validationChecks d) = false ∨
      (s.textureMemoryUsage + d.totalSize) % u64 > s.maxTextureMemory) :
    ∃ ret, s.createTexture e d = (.error ret, s) := by
  unfold createTexture
  by_cases hchecks : passes 85 (s.validationChecks d) = false
  · rw [if_pos hchecks]
    exact ⟨_, rfl⟩
  · rw [if_neg hchecks, if_pos (h.resolve_left hchecks)]
    exact ⟨_, rfl⟩

/-- Two managers with the same counter of ids and as many textures. -/
def SameTextures (s t : TextureManager) : Prop :=
  t.nextTextureId = s.nextTextureId ∧ t.textures = s.textures

theorem SameTextures.refl (s : TextureManager) : s.SameTextures s := ⟨rfl, rfl⟩

theorem sameTextures_charge (bytes : Nat) (s : TextureManager) :
    s.SameTextures (s.charge bytes) := ⟨rfl, rfl⟩

theorem sameTextures_generateMipmaps (id : Nat) (s : TextureManager) :
    s.SameTextures (s.generateMipmaps id).2 := by
  rcases s.generateMipmaps_cases id with ⟨-, ret, heq⟩ | ⟨-, heq⟩
  · rw [heq]
    exact SameTextures.refl s
  · rw [heq]
    exact s.sameTextures_charge _

theorem sameTextures_generateMipmapsRange {id base last : Nat} {r : IOReturn × TextureManager}
    (h : s.generateMipmapsRange id base last = some r) : s.SameTextures r.2 := by
  rcases generateMipmapsRange_cases h with ⟨-, heq⟩ | ⟨-, heq⟩
  · rw [heq]
    exact SameTextures.refl s
  · rw [heq]
    exact s.sameTextures_charge _

theorem sameTextures_setMipmapMode (id mode : Nat) (s : TextureManager) :
    s.SameTextures (s.setMipmapMode id mode).2 := by
  rcases s.setMipmapMode_cases id mode with ⟨-, heq | heq⟩ | ⟨-, heq⟩
  · rw [heq]
    exact SameTextures.refl s
  · rw [heq]
    exact s.sameTextures_charge _
  · rw [heq]
    exact s.sameTextures_charge _

end TextureManager

/-! ## One step -/

namespace ExistenceRun
variable {s t : ExistenceRun}

/-- The next id that a creation will be given. -/
def nextId (s : ExistenceRun) : Nat := s.tables.manager.nextTextureId

/-- In empty tables the searches find nothing, and the counter still knows the ids
it has passed. -/
theorem finds_of_empty (hs : s.Empty) (use : TextureUse) (id : Nat)
    (h : use.finds id s.tables = true) : 0 < id ∧ id < s.nextId := by
  have hfind : s.tables.findTexture id = false := by
    unfold TextureTables.findTexture
    simp [hs.textures, hs.textureMap]
  have hexists : s.tables.existsInSystem id = false := by
    unfold TextureTables.existsInSystem
    simp [hs.textures, hs.textureMap]
  cases use with
  | getTextureDescriptor => exact absurd (hexists.symm.trans h) (by simp)
  | updateTexture | bindTexture => exact absurd (hfind.symm.trans h) (by simp)
  | readTexture | copySource | copyDest | generateMipmaps | generateMipmapsRange
  | setMipmapMode => simpa [TextureUse.finds, TextureManager.known, nextId] using h

/-- While nothing is stored, the operations agree as long as the counter has not
passed an id. -/
theorem agrees_iff (hs : s.Empty) : s.Agrees ↔ s.nextId ≤ 1 := by
  constructor
  · intro h
    apply Nat.le_of_not_lt
    intro hlt
    have hknown : s.tables.manager.known 1 = true := by
      simpa [TextureManager.known, nextId] using hlt
    have hlive : 1 ∈ s.live := (h .readTexture 1 (by decide)).mp hknown
    rw [hs.live] at hlive
    exact absurd hlive (by simp)
  · intro h use id _
    rw [hs.live]
    refine iff_of_false (fun hfinds => ?_) (by simp)
    obtain ⟨hpos, hlt⟩ := finds_of_empty hs use id hfinds
    omega

theorem Empty.setManager (hs : s.Empty) {m : TextureManager}
    (h : s.tables.manager.SameTextures m) : (s.setManager m).Empty :=
  ⟨h.2.trans hs.textures, hs.textureMap, hs.live⟩

/-- **One step.** Nothing is ever stored, and the counter moves exactly where a
creation is not refused. -/
theorem step_cases {call : ExistenceCall} (hs : s.Empty) (h : s.step call = some t) :
    t.Empty ∧ ((s.Refused call ∧ t.nextId = s.nextId) ∨
      (¬ s.Refused call ∧ t.nextId = inc32 s.nextId)) := by
  cases call with
  | createTexture e d keyed =>
      simp only [step, TextureTables.createTexture] at h
      by_cases hrefused : s.Refused (.createTexture e d keyed)
      · obtain ⟨ret, heq⟩ := TextureManager.createTexture_refused e hrefused
        rw [heq] at h
        cases h
        exact ⟨hs, Or.inl ⟨hrefused, rfl⟩⟩
      · have hnot := not_or.mp hrefused
        obtain ⟨ret, heq⟩ := TextureManager.createTexture_draws e
          (eq_true_of_ne_false hnot.1) (Nat.le_of_not_lt hnot.2)
        rw [heq] at h
        cases h
        exact ⟨⟨hs.textures, hs.textureMap, hs.live⟩, Or.inr ⟨hrefused, rfl⟩⟩
  | destroyTexture id =>
      cases h
      refine ⟨⟨hs.textures, hs.textureMap, ?_⟩, Or.inl ⟨trivial, rfl⟩⟩
      show s.live.filter _ = []
      rw [hs.live, List.filter_nil]
  | look use id =>
      cases h
      exact ⟨hs, Or.inl ⟨trivial, rfl⟩⟩
  | generateMipmaps id =>
      cases h
      have hsame := s.tables.manager.sameTextures_generateMipmaps id
      exact ⟨hs.setManager hsame, Or.inl ⟨trivial, hsame.1⟩⟩
  | generateMipmapsRange id base last =>
      obtain ⟨r, hr, rfl⟩ := Option.map_eq_some_iff.mp h
      have hsame := TextureManager.sameTextures_generateMipmapsRange hr
      exact ⟨hs.setManager hsame, Or.inl ⟨trivial, hsame.1⟩⟩
  | setMipmapMode id mode =>
      cases h
      have hsame := s.tables.manager.sameTextures_setMipmapMode id mode
      exact ⟨hs.setManager hsame, Or.inl ⟨trivial, hsame.1⟩⟩

/-! ## Whole runs -/

theorem empty_init : init.Empty := ⟨rfl, rfl, rfl⟩

/-- No id has been drawn yet. -/
def Fresh (s : ExistenceRun) : Prop := s.nextId = 1

/-- From a fresh manager, a step leaves the operations in agreement exactly where
it draws no id. -/
theorem agrees_step_iff {call : ExistenceCall} (hs : s.Empty) (hfresh : s.Fresh)
    (h : s.step call = some t) : t.Agrees ∧ t.Fresh ↔ s.Refused call := by
  obtain ⟨ht, hcases⟩ := step_cases hs h
  rw [agrees_iff ht]
  rcases hcases with ⟨hrefused, hnext⟩ | ⟨hdraws, hnext⟩
  · have hone : t.nextId = 1 := hnext.trans hfresh
    exact iff_of_true ⟨Nat.le_of_eq hone, hone⟩ hrefused
  · refine iff_of_false (fun hagrees => ?_) hdraws
    rw [hnext, hfresh] at hagrees
    exact absurd hagrees.1 (by decide)

/-- **The operations agree on every texture exactly as long as no creation draws an
id.** -/
theorem always_agrees_iff (calls : List ExistenceCall) :
    machine.Always Agrees init calls ↔ machine.Along Refused init calls := by
  have hagrees₀ : init.Agrees := (agrees_iff empty_init).mpr (Nat.le_refl 1)
  have hexact : machine.Always (fun s => s.Agrees ∧ s.Fresh) init calls ↔
      machine.Along Refused init calls :=
    machine.always_iff_along (J := Empty) (fun _ _ _ hs h => (step_cases hs h).1)
      (fun _ _ _ hs hP h => agrees_step_iff hs hP.2 h) empty_init ⟨hagrees₀, rfl⟩
  rw [← hexact]
  constructor
  · intro h
    refine Machine.Always.strengthen machine (J := Empty) (fun _ _ _ hs h => (step_cases hs h).1)
      ?_ empty_init rfl h
    intro u a v hu hfresh hstep hv
    obtain ⟨hv', ⟨-, hnext⟩ | ⟨-, hnext⟩⟩ := step_cases hu hstep
    · exact hnext.trans hfresh
    · have hle := (agrees_iff hv').mp hv
      rw [hnext, hfresh] at hle
      exact absurd hle (by decide)
  · exact Machine.Always.imp machine fun _ => And.left

/-- A creation fails, and `readTexture` knows the id it has used up. -/
theorem failed_creation_known : ¬ ∀ calls, machine.Always Agrees init calls := by
  intro h
  have hrun := h [.createTexture .granting ⟨70, 256, 256, 1, 1⟩ true]
  obtain ⟨s, hs, hp⟩ := hrun.of_any _
    (p := fun s : ExistenceRun =>
      TextureUse.readTexture.finds 1 s.tables && decide (1 ∉ s.live))
    (by decide)
  obtain ⟨hfinds, hlive⟩ := Bool.and_eq_true_iff.mp hp
  exact of_decide_eq_true hlive ((hs .readTexture 1 (by decide)).mp hfinds)

end ExistenceRun
end VMQemuVGA
