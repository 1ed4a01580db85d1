import VMQemuVGA.Texture.Manager

/-! # What the textures take

The ledger has an entry for every texture that was created and not destroyed,
with the mip levels it has at the time. The counter of the manager is meant to
be its sum. -/

namespace VMQemuVGA

/-! ## The ledger -/

/-- A texture: what its creation was charged, and its mip levels with what each of
them takes. -/
structure TextureAccount where
  id : Nat
  created : Nat
  levels : List (Nat × Nat)
  deriving DecidableEq, Repr

namespace TextureAccount

def bytes (a : TextureAccount) : Nat := a.created + levelsBytes a.levels

/-- Those levels that are not there yet are added. -/
def generate (levels : List (Nat × Nat)) (a : TextureAccount) : TextureAccount :=
  { a with levels := a.levels ++ levels.filter fun l => decide (l.1 ∉ a.levels.map Prod.fst) }

/-- The mip levels are given back. -/
def drop (a : TextureAccount) : TextureAccount := { a with levels := [] }

/-- A new mode: generating at once adds the whole chain, and no mipmaps at all give
it back. -/
def setMode (mode : Nat) (a : TextureAccount) : TextureAccount :=
  if mode = TextureManager.modeAutoGenerate then
    a.generate (sizedLevels 1024 0 (mipLevels 1024 - 1))
  else if mode = TextureManager.modeNone then a.drop
  else a

end TextureAccount

def ledgerBytes (ledger : List TextureAccount) : Nat := (ledger.map TextureAccount.bytes).sum

/-- Change the account of one texture. -/
def changeAccount (id : Nat) (f : TextureAccount → TextureAccount)
    (ledger : List TextureAccount) : List TextureAccount :=
  ledger.map fun a => if a.id = id then f a else a

/-! ## Runs -/

/-- The manager with the ledger beside it. -/
structure TextureRun where
  manager : TextureManager
  ledger : List TextureAccount
  deriving DecidableEq, Repr

inductive TextureCall where
  | createTexture (e : TextureEnv) (d : TextureDescriptor)
  | destroyTexture (id : Nat)
  | generateMipmaps (id : Nat)
  | generateMipmapsRange (id base last : Nat)
  | setMipmapMode (id mode : Nat)
  deriving DecidableEq, Repr

namespace TextureRun

/-- The ledger follows a call that has succeeded. -/
def follow (ret : IOReturn) (id : Nat) (f : TextureAccount → TextureAccount)
    (m : TextureManager) (s : TextureRun) : TextureRun :=
  ⟨m, if ret = .success then changeAccount id f s.ledger else s.ledger⟩

def step (s : TextureRun) : TextureCall → Option TextureRun
  | .createTexture e d =>
      let r := s.manager.createTexture e d
      match r.1 with
      | .ok id => some ⟨r.2, ⟨id, d.totalSize, []⟩ :: s.ledger⟩
      | .error _ => some ⟨r.2, s.ledger⟩
  | .destroyTexture id =>
      some ⟨(s.manager.destroyTexture id).2, s.ledger.filter fun a => a.id ≠ id⟩
  | .generateMipmaps id =>
      let r := s.manager.generateMipmaps id
      some (s.follow r.1 id (.generate TextureManager.chainLevels) r.2)
  | .generateMipmapsRange id base last =>
      (s.manager.generateMipmapsRange id base last).map fun r =>
        s.follow r.1 id (.generate (sizedLevels 1024 base last)) r.2
  | .setMipmapMode id mode =>
      let r := s.manager.setMipmapMode id mode
      some (s.follow r.1 id (.setMode mode) r.2)

def init : TextureRun := ⟨.init, []⟩

def machine : Machine TextureRun TextureCall := ⟨init, step⟩

/-- The counter is the sum of the ledger, within the budget. -/
structure Balanced (s : TextureRun) : Prop where
  usage : s.manager.textureMemoryUsage = ledgerBytes s.ledger
  budget : s.manager.textureMemoryUsage ≤ s.manager.maxTextureMemory

/-- The condition on a call: it is refused, or asks for no memory. -/
def Idle (s : TextureRun) : TextureCall → Prop
  | .createTexture _ _ => True
  | .destroyTexture _ => True
  | .generateMipmaps id => s.manager.known id = false
  | .generateMipmapsRange id base last =>
      s.manager.known id = false ∨ base ≥ last ∨ last > 11
  | .setMipmapMode id mode => s.manager.known id = false ∨ mode ≠ TextureManager.modeAutoGenerate

end TextureRun

/-! ## What the calls charge -/

namespace TextureManager
variable {s : TextureManager}

/-- The last score never reaches its threshold. -/
theorem readyForUse_false (enhanced : Bool) : readyForUse enhanced = false := by
  cases enhanced <;> rfl

/-- Small textures fail for want of encryption, large ones for want of efficiency. -/
theorem finishTexture_fails (e : TextureEnv) (d : TextureDescriptor) (id : Nat)
    (s : TextureManager) : ∃ ret, s.finishTexture e d id = (.error ret, s) := by
  unfold finishTexture
  split
  · exact ⟨_, rfl⟩
  · split
    · exact ⟨_, rfl⟩
    · split
      · exact ⟨_, rfl⟩
      · split
        · exact ⟨_, rfl⟩
        · rw [if_pos (readyForUse_false e.enhanced)]
          exact ⟨_, rfl⟩

/-- **No texture is ever created.** At most an id is used up. -/
theorem createTexture_fails (e : TextureEnv) (d : TextureDescriptor) (s : TextureManager) :
    ∃ ret t, s.createTexture e d = (.error ret, t) ∧ (t = s ∨ t = s.drawTextureId) := by
  unfold createTexture
  split
  · exact ⟨_, s, rfl, Or.inl rfl⟩
  · split
    · exact ⟨_, s, rfl, Or.inl rfl⟩
    · obtain ⟨ret, hret⟩ := s.drawTextureId.finishTexture_fails e d s.nextTextureId
      exact ⟨ret, s.drawTextureId, hret, Or.inr rfl⟩

/-- **Generating the chain.** -/
theorem generateMipmaps_cases (id : Nat) (s : TextureManager) :
    (s.known id = false ∧ ∃ ret, s.generateMipmaps id = (ret, s)) ∨
    (s.known id = true ∧ s.generateMipmaps id = (.success, s.charge 349524)) := by
  unfold generateMipmaps
  by_cases hid : id = 0
  · rw [if_pos hid, hid]
    exact Or.inl ⟨rfl, _, rfl⟩
  · rw [if_neg hid]
    cases s.known id with
    | false => exact Or.inl ⟨rfl, _, rfl⟩
    | true => exact Or.inr ⟨rfl, rfl⟩

/-- The ranges that fit pass the checks, and there are not many of them. -/
theorem range_sizes : ∀ last < 12, ∀ base < last, passes 75 (rangeChecks base last) = true ∧
    0 < levelsBytes (sizedLevels 1024 base last) ∧
      levelsBytes (sizedLevels 1024 base last) < u64 := by
  decide

theorem rangeFits_iff {base last : Nat} (h : base < last) :
    rangeFits base last = true ↔ last ≤ 11 := by
  unfold rangeFits
  rw [decide_eq_true_iff, show mipLevels 1024 = 11 by decide]
  omega

/-- **Generating a range.** -/
theorem generateMipmapsRange_cases {id base last : Nat} {r : IOReturn × TextureManager}
    (h : s.generateMipmapsRange id base last = some r) :
    ((s.known id = false ∨ base ≥ last ∨ last > 11) ∧ r.2 = s) ∨
    ((s.known id = true ∧ base < last ∧ last ≤ 11) ∧
      r = (.success, s.charge (levelsBytes (sizedLevels 1024 base last)))) := by
  unfold generateMipmapsRange at h
  by_cases hid : id = 0
  · rw [if_pos hid] at h
    cases h
    exact Or.inl ⟨Or.inl (by rw [hid]; rfl), rfl⟩
  · rw [if_neg hid] at h
    by_cases hbase : base ≥ last
    · rw [if_pos hbase] at h
      cases h
      exact Or.inl ⟨Or.inr (Or.inl hbase), rfl⟩
    · rw [if_neg hbase] at h
      have hlt : base < last := Nat.lt_of_not_le hbase
      cases hknown : s.known id with
      | false =>
          rw [if_pos hknown] at h
          cases h
          exact Or.inl ⟨Or.inl rfl, rfl⟩
      | true =>
          rw [if_neg (by rw [hknown]; decide)] at h
          by_cases hfits : last ≤ 11
          · have hmax : ¬ last ≥ u32 - 1 := by
              rw [u32_eq]
              omega
            have hchecks := (range_sizes last (by omega) base hlt).1
            rw [if_neg hmax, (rangeFits_iff hlt).mpr hfits, hchecks] at h
            cases h
            exact Or.inr ⟨⟨rfl, hlt, hfits⟩, rfl⟩
          · have hbad : rangeFits base last = false :=
              eq_false_of_ne_true fun hf => hfits ((rangeFits_iff hlt).mp hf)
            rw [hbad, if_pos rfl] at h
            split at h
            · cases h
            · cases h
              exact Or.inl ⟨Or.inr (Or.inr (Nat.lt_of_not_le hfits)), rfl⟩

theorem compatible {mode : Nat} (h : mode ≤ 3) : passes 70 (compatibilityChecks mode) = true := by
  unfold compatibilityChecks
  rw [decide_eq_true (show mode ≤ modeAutoGenerateOnWrite from h),
    decide_eq_true (show mipLevels 1024 > 1 ∨ mode = modeNone from Or.inl (by decide))]
  decide

/-- No mode gives anything back. -/
theorem mode_change (mode : Nat) : sub64 (modeAllocated mode) (modeReleased mode) =
    if mode = modeAutoGenerate then 1398101 else 0 := by
  have hreleased : modeReleased mode = 0 := if_neg fun h => absurd h.2 (by decide)
  rw [hreleased, modeAllocated]
  split
  · decide
  · decide

/-- **A new mode.** -/
theorem setMipmapMode_cases (id mode : Nat) (s : TextureManager) :
    ((s.known id = false ∨ mode ≠ modeAutoGenerate) ∧ ((s.setMipmapMode id mode).2 = s ∨
      s.setMipmapMode id mode = (.success, s.charge 0))) ∨
    ((s.known id = true ∧ mode = modeAutoGenerate) ∧
      s.setMipmapMode id mode = (.success, s.charge 1398101)) := by
  unfold setMipmapMode
  by_cases hid : id = 0
  · rw [if_pos hid, hid]
    exact Or.inl ⟨Or.inl rfl, Or.inl rfl⟩
  · rw [if_neg hid]
    by_cases hmode : mode > modeAutoGenerateOnWrite
    · rw [if_pos hmode]
      refine Or.inl ⟨Or.inr ?_, Or.inl rfl⟩
      rintro rfl
      exact absurd hmode (by decide)
    · rw [if_neg hmode]
      cases s.known id with
      | false => exact Or.inl ⟨Or.inl rfl, Or.inl rfl⟩
      | true =>
          rw [if_neg (by decide), if_neg (by rw [compatible (Nat.le_of_not_lt hmode)]; decide),
            mode_change]
          by_cases hauto : mode = modeAutoGenerate
          · rw [if_pos hauto]
            exact Or.inr ⟨⟨rfl, hauto⟩, rfl⟩
          · rw [if_neg hauto]
            exact Or.inl ⟨Or.inr hauto, Or.inr rfl⟩

end TextureManager

/-! ## One step -/

namespace TextureRun
variable {s t : TextureRun}

/-- A call leaves the counter alone. -/
theorem Balanced.same (hs : s.Balanced) (hempty : s.ledger = [])
    (husage : t.manager.textureMemoryUsage = s.manager.textureMemoryUsage)
    (hbudget : t.manager.maxTextureMemory = s.manager.maxTextureMemory) (ht : t.ledger = []) :
    t.Balanced := by
  constructor
  · rw [husage, hs.usage, hempty, ht]
  · rw [husage, hbudget]
    exact hs.budget

/-- A call charges bytes to nobody's account. -/
theorem balanced_charge_iff (hs : s.Balanced) (hempty : s.ledger = []) (bytes : Nat)
    (hbytes : bytes < u64) (hm : t.manager = s.manager.charge bytes) (ht : t.ledger = []) :
    t.Balanced ↔ bytes = 0 := by
  have hzero : s.manager.textureMemoryUsage = 0 := by
    rw [hs.usage, hempty]
    rfl
  have husage : t.manager.textureMemoryUsage = bytes := by
    rw [hm]
    show (s.manager.textureMemoryUsage + bytes) % u64 = bytes
    rw [hzero, Nat.zero_add, Nat.mod_eq_of_lt hbytes]
  constructor
  · intro hbalanced
    rw [← husage, hbalanced.usage, ht]
    rfl
  · intro hnone
    constructor
    · rw [husage, hnone, ht]
      rfl
    · rw [husage, hnone]
      exact Nat.zero_le _

/-- Where there are no accounts, none is changed. -/
theorem follow_empty (hempty : s.ledger = []) (ret : IOReturn) (id : Nat)
    (f : TextureAccount → TextureAccount) (m : TextureManager) :
    s.follow ret id f m = ⟨m, []⟩ := by
  unfold follow
  rw [hempty]
  split
  · rfl
  · rfl

/-- **One step.** The ledger stays empty, and the counter is right where nothing
was charged. -/
theorem step_spec {call : TextureCall} (hempty : s.ledger = []) (h : s.step call = some t) :
    t.ledger = [] ∧ (s.Balanced → (t.Balanced ↔ s.Idle call)) := by
  cases call with
  | createTexture e d =>
      obtain ⟨ret, m, heq, hm⟩ := s.manager.createTexture_fails e d
      unfold step at h
      dsimp only at h
      rw [heq] at h
      cases h
      refine ⟨hempty, fun hs => iff_of_true ?_ trivial⟩
      rcases hm with rfl | rfl
      · exact hs.same hempty rfl rfl hempty
      · exact hs.same hempty rfl rfl hempty
  | destroyTexture id =>
      cases h
      have hnone : s.ledger.filter (fun a => a.id ≠ id) = [] := by
        rw [hempty]
        rfl
      exact ⟨hnone, fun hs => iff_of_true (hs.same hempty rfl rfl hnone) trivial⟩
  | generateMipmaps id =>
      cases h
      rw [follow_empty hempty]
      refine ⟨rfl, fun hs => ?_⟩
      show _ ↔ s.manager.known id = false
      rcases s.manager.generateMipmaps_cases id with ⟨hknown, ret, heq⟩ | ⟨hknown, heq⟩
      · rw [heq]
        exact iff_of_true (hs.same hempty rfl rfl rfl) hknown
      · rw [balanced_charge_iff hs hempty 349524 (by decide) (by rw [heq]) rfl, hknown]
        decide
  | generateMipmapsRange id base last =>
      obtain ⟨r, hr, rfl⟩ := Option.map_eq_some_iff.mp h
      rw [follow_empty hempty]
      refine ⟨rfl, fun hs => ?_⟩
      show _ ↔ s.manager.known id = false ∨ base ≥ last ∨ last > 11
      rcases TextureManager.generateMipmapsRange_cases hr with
        ⟨hidle, heq⟩ | ⟨⟨hknown, hlt, hfits⟩, heq⟩
      · rw [heq]
        exact iff_of_true (hs.same hempty rfl rfl rfl) hidle
      · obtain ⟨-, hpos, hbound⟩ :=
          TextureManager.range_sizes last (Nat.lt_succ_of_le hfits) base hlt
        rw [balanced_charge_iff hs hempty _ hbound (by rw [heq]) rfl, hknown]
        refine iff_of_false (Nat.ne_of_gt hpos) ?_
        rintro (hfalse | hge | hgt)
        · cases hfalse
        · exact Nat.not_le_of_lt hlt hge
        · exact Nat.not_le_of_lt hgt hfits
  | setMipmapMode id mode =>
      cases h
      rw [follow_empty hempty]
      refine ⟨rfl, fun hs => ?_⟩
      show _ ↔ s.manager.known id = false ∨ mode ≠ TextureManager.modeAutoGenerate
      rcases s.manager.setMipmapMode_cases id mode with
        ⟨hidle, heq | heq⟩ | ⟨⟨hknown, hmode⟩, heq⟩
      · rw [heq]
        exact iff_of_true (hs.same hempty rfl rfl rfl) hidle
      · rw [balanced_charge_iff hs hempty 0 (by decide) (by rw [heq]) rfl]
        exact iff_of_true rfl hidle
      · rw [balanced_charge_iff hs hempty 1398101 (by decide) (by rw [heq]) rfl, hknown, hmode]
        decide

/-! ## Whole runs -/

theorem balanced_init : init.Balanced := ⟨rfl, Nat.zero_le _⟩

/-- **The counter is right exactly as long as nothing is charged.** -/
theorem always_balanced_iff (calls : List TextureCall) :
    machine.Always Balanced init calls ↔ machine.Along Idle init calls :=
  machine.always_iff_along (J := fun s : TextureRun => s.ledger = [])
    (fun _ _ _ hempty h => (step_spec hempty h).1)
    (fun _ _ _ hempty hs h => (step_spec hempty h).2 hs) rfl balanced_init

/-- A failed creation uses up an id, and mip levels are charged for it. -/
theorem charged_for_nothing : ¬ ∀ calls, machine.Always Balanced init calls := by
  intro h
  have hrun := h [.createTexture .granting ⟨70, 256, 256, 1, 1⟩, .generateMipmaps 1]
  obtain ⟨s, hs, hp⟩ := hrun.of_any _
    (p := fun s : TextureRun => decide (s.ledger = [] ∧ s.manager.textureMemoryUsage = 349524))
    (by decide)
  obtain ⟨hledger, husage⟩ := of_decide_eq_true hp
  have hsum := hs.usage
  rw [hledger, husage] at hsum
  exact absurd hsum (by decide)

end TextureRun
end VMQemuVGA
