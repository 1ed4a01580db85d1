import VMQemuVGA.IOSurface.Effects

/-! # Whether the caches can be seen

Two caches answer in front of the surfaces, and no creation or destruction tells
them. They are transparent as long as every entry repeats what the dictionary
and the records say. -/

namespace VMQemuVGA

open Lookaside

/-! ## The property cache -/

namespace PropertyEntry
variable {map : Nat → Option IOSurfaceDescriptor} {cache : List PropertyEntry}
variable {now id : Nat} {own : IOSurfaceDescriptor}

theorem sourced_insert (h : map id = some own) :
    Sourced surfaceId descriptor map cache (insert now id own cache) := by
  unfold insert
  split
  · exact Sourced.concat h
  · exact Sourced.set h _

theorem sourced_modifyFirst {f : PropertyEntry → PropertyEntry}
    (hid : ∀ e, (f e).surfaceId = e.surfaceId) (hd : ∀ e, (f e).descriptor = e.descriptor) :
    Sourced surfaceId descriptor map cache (modifyFirst id f cache) :=
  Sourced.modify _ hid hd

theorem sourced_serve (h : map id = some own) :
    Sourced surfaceId descriptor map cache (serve now id own cache).2 := by
  unfold serve
  split
  · exact sourced_insert h
  · split
    · have hflag : Sourced surfaceId descriptor map cache
          (modifyFirst id (fun e => { e with needsRefresh := false }) cache) :=
        sourced_modifyFirst (fun _ => rfl) fun _ => rfl
      exact hflag.trans (sourced_insert h)
    · exact sourced_modifyFirst (fun _ => rfl) fun _ => rfl

theorem serve_fst (hc : Agrees surfaceId descriptor cache map) (h : map id = some own) :
    (serve now id own cache).1 = own := by
  unfold serve
  split
  · rfl
  · rename_i e he
    split
    · rfl
    · have hmem : e ∈ cache := List.mem_of_find?_eq_some he
      have hid : e.surfaceId = id := by
        have hfound := List.find?_some he
        simp only [Bool.and_eq_true, decide_eq_true_eq] at hfound
        exact hfound.1
      have hmap : map id = some e.descriptor := hid ▸ hc e hmem
      rw [h] at hmap
      exact (Option.some.inj hmap).symm

end PropertyEntry

namespace IOSurfaceManager
variable {cfg : IOSurfaceConfig} {m m' : IOSurfaceManager} {id a : Nat}

/-! ## Transparency -/

/-- What the surface that has an id says about itself. -/
def described (cfg : IOSurfaceConfig) (m : IOSurfaceManager) (id : Nat) :
    Option IOSurfaceDescriptor :=
  (m.store.surfaceMap id).map fun a => (m.store.records a).descriptor.describe cfg.yuv

/-- The caches cannot be seen: lookups answer what the dictionary holds,
descriptors are those of the surfaces, and a surface that is not there cannot be
destroyed. -/
structure Transparent (cfg : IOSurfaceConfig) (m : IOSurfaceManager) : Prop where
  find : ∀ now id, (m.findSurface now id).1 = m.store.surfaceMap id
  describe : ∀ now id, id ≠ 0 → (m.getSurfaceDescriptor cfg now id).1 =
    match m.described cfg id with
    | some d => .ok d
    | none => .error .notFound
  destroy : ∀ now id number, id ≠ 0 → m.store.surfaceMap id = none →
    (m.destroySurface now id number).1 = .notFound ∧
      (m.destroySurface now id number).2 = m.lookedUp now id

/-- Every entry of the caches repeats the dictionary and the records. -/
structure Faithful (cfg : IOSurfaceConfig) (m : IOSurfaceManager) : Prop where
  searched : ∀ id a, m.store.surfaceMap id = some a → Discovery.Searched id
  keyed : ∀ id a, m.store.surfaceMap id = some a → (m.store.records a).surfaceId = id
  discovery : Agrees DiscoveryEntry.surfaceId DiscoveryEntry.object m.discovery.entries
    m.store.surfaceMap
  properties : Agrees PropertyEntry.surfaceId PropertyEntry.descriptor m.properties
    (m.described cfg)

namespace Faithful

theorem served (h : Faithful cfg m) : m.served id = m.store.surfaceMap id := by
  unfold IOSurfaceManager.served Discovery.served
  split
  · exact h.discovery.serve
  · rename_i hid
    cases hmap : m.store.surfaceMap id with
    | none => rfl
    | some a => exact absurd (h.searched id a hmap) hid

theorem live (h : Faithful cfg m) (ha : m.store.surfaceMap id = some a) :
    m.store.live a = true := by
  unfold SurfaceStore.live
  rw [h.keyed id a ha, ha]
  simp

theorem lookedUp {now : Nat} (h : Faithful cfg m) : Faithful cfg (m.lookedUp now id) where
  searched := h.searched
  keyed := h.keyed
  discovery := h.discovery.sourced leaves_lookedUp
  properties := h.properties

theorem described_eq (ha : m.store.surfaceMap id = some a) :
    m.described cfg id = some ((m.store.records a).descriptor.describe cfg.yuv) := by
  unfold described
  rw [ha]
  rfl

theorem transparent (h : Faithful cfg m) : Transparent cfg m where
  find := by
    intro now id
    rw [findSurface_eq]
    exact h.served
  describe := by
    intro now id hid
    unfold getSurfaceDescriptor
    rw [if_neg hid, findSurface_eq, h.served]
    cases ha : m.store.surfaceMap id with
    | none =>
        unfold described
        rw [ha]
        rfl
    | some a =>
        rw [described_eq ha]
        dsimp only
        rw [if_pos (show (m.lookedUp now id).store.live a = true from h.live ha)]
        exact congrArg Except.ok (PropertyEntry.serve_fst h.properties (described_eq ha))
  destroy := by
    intro now id number hid hnone
    unfold destroySurface onSurface
    rw [if_neg hid, findSurface_eq, h.served, hnone]
    exact ⟨rfl, rfl⟩

end Faithful

/-! ## Steps -/

/-- Neither cache has an entry for the id. -/
def Uncached (m : IOSurfaceManager) (id : Nat) : Prop :=
  (∀ e ∈ m.discovery.entries, e.surfaceId ≠ id) ∧ ∀ e ∈ m.properties, e.surfaceId ≠ id

/-- The call does not change what a cache may know: it destroys no surface,
changes no format that the property cache holds, and gives no surface an id that
lookups refuse or a cache holds. -/
def SparesCaches (cfg : IOSurfaceConfig) (m : IOSurfaceManager) : ManagerCall → Prop
  | .createSurface d env =>
      m.store.accepts cfg.yuv d env = true →
        Discovery.Searched m.store.nextId ∧ m.Uncached m.store.nextId
  | .destroySurface _ id _ => ∀ a ∈ m.store.surfaceMap id, m.store.destroys a = false
  | .convertSurfaceFormat _ _ source dest format =>
      (∀ e ∈ m.properties, e.surfaceId ≠ dest) ∨
      ∀ a ∈ m.store.surfaceMap source, ∀ b ∈ m.store.surfaceMap dest,
        SurfaceStore.unconverted format (m.store.records a) (m.store.records b) ≠ none ∨
          (m.store.records b).descriptor.pixelFormat = format
  | _ => True

instance (m : IOSurfaceManager) (id : Nat) : Decidable (m.Uncached id) :=
  inferInstanceAs (Decidable ((∀ e ∈ m.discovery.entries, e.surfaceId ≠ id) ∧
    ∀ e ∈ m.properties, e.surfaceId ≠ id))

instance (cfg : IOSurfaceConfig) (m : IOSurfaceManager) : ∀ c, Decidable (m.SparesCaches cfg c)
  | .createSurface d env =>
      inferInstanceAs (Decidable (m.store.accepts cfg.yuv d env = true →
        Discovery.Searched m.store.nextId ∧ m.Uncached m.store.nextId))
  | .destroySurface _ id _ =>
      inferInstanceAs (Decidable (∀ a ∈ m.store.surfaceMap id, m.store.destroys a = false))
  | .convertSurfaceFormat _ _ source dest format =>
      inferInstanceAs (Decidable ((∀ e ∈ m.properties, e.surfaceId ≠ dest) ∨
        ∀ a ∈ m.store.surfaceMap source, ∀ b ∈ m.store.surfaceMap dest,
          SurfaceStore.unconverted format (m.store.records a) (m.store.records b) ≠ none ∨
            (m.store.records b).descriptor.pixelFormat = format))
  | .findSurface .. | .getSurfaceDescriptor .. | .lockSurface .. | .unlockSurface ..
  | .lockSurfacePlane .. | .unlockSurfacePlane .. | .updateSurfaceDescriptor ..
  | .evictUnusedSurfaces .. | .compactSurfaceMemory .. | .registerClient ..
  | .unregisterClient .. | .shareSurface .. | .unshareSurface .. | .canClientAccessSurface .. =>
      isTrue trivial

namespace Faithful

/-- Lookups do no harm, whatever else the call does. -/
theorem caches {c : ManagerCall} (h : Faithful cfg m) (he : Effect cfg m m' c) :
    Faithful cfg { m' with store := m.store } where
  searched := h.searched
  keyed := h.keyed
  discovery := h.discovery.sourced he.discovery
  properties := by
    have hsame : m'.properties = m.properties → Agrees PropertyEntry.surfaceId
        PropertyEntry.descriptor m'.properties (m.described cfg) := by
      intro hp
      rw [hp]
      exact h.properties
    cases c with
    | getSurfaceDescriptor now id =>
        rcases he.properties with hp | ⟨a, ha, hp⟩
        · exact hsame hp
        · rw [h.served] at ha
          show Agrees _ _ m'.properties (m.described cfg)
          rw [hp]
          exact h.properties.sourced (PropertyEntry.sourced_serve (described_eq ha))
    | _ => exact hsame he.properties

/-- The records may change as long as no cached descriptor does. -/
theorem of_records {s : SurfaceStore} (h : Faithful cfg m)
    (hmap : s.surfaceMap = m.store.surfaceMap)
    (hid : ∀ a, (s.records a).surfaceId = (m.store.records a).surfaceId)
    (hd : ∀ e ∈ m.properties, ∀ a, m.store.surfaceMap e.surfaceId = some a →
      (s.records a).descriptor = (m.store.records a).descriptor) :
    Faithful cfg { m with store := s } where
  searched := by
    intro id a ha
    exact h.searched id a (hmap ▸ ha)
  keyed := by
    intro id a ha
    rw [hid]
    exact h.keyed id a (hmap ▸ ha)
  discovery := by
    show Agrees _ _ _ s.surfaceMap
    rw [hmap]
    exact h.discovery
  properties := by
    refine h.properties.congr fun e he => ?_
    unfold described
    dsimp only
    rw [hmap]
    cases ha : m.store.surfaceMap e.surfaceId with
    | none => rfl
    | some a => simp [hd e he a ha]

theorem of_sameDescriptors {s : SurfaceStore} (h : Faithful cfg m)
    (hs : SurfaceStore.SameDescriptors m.store s) : Faithful cfg { m with store := s } :=
  h.of_records hs.surfaceMap hs.surfaceId fun _ _ a _ => hs.descriptor a

/-- A new surface gets an id that no cache holds. -/
theorem register {d : IOSurfaceDescriptor} {env : CreateEnv} {p : SurfaceStore.Parts}
    {ids : IdPool} (h : Faithful cfg m) (hnew : m.store.live p.data = false)
    (hid : Discovery.Searched id) (hc : m.Uncached id) :
    Faithful cfg { m with store := { m.store with surfaceIds := ids }.register id d env p } := by
  -- the new object is none of those in the dictionary
  have hne : ∀ i a, m.store.surfaceMap i = some a → a ≠ p.data := by
    intro i a ha heq
    rw [← heq, h.live ha] at hnew
    cases hnew
  have hold : ∀ i a, m.store.surfaceMap i = some a →
      ({ m.store with surfaceIds := ids }.register id d env p).records a = m.store.records a :=
    fun i a ha => SurfaceStore.register_records_of_ne (hne i a ha)
  have hmap : ∀ i, i ≠ id → ({ m.store with surfaceIds := ids }.register id d env p).surfaceMap i =
      m.store.surfaceMap i := by
    intro i hi
    unfold SurfaceStore.register
    dsimp only
    split
    · exact Function.update_of_ne hi ..
    · rfl
  have hcases : ∀ i a, ({ m.store with surfaceIds := ids }.register id d env p).surfaceMap i =
      some a → m.store.surfaceMap i = some a ∨ i = id ∧ a = p.data := by
    intro i a ha
    unfold SurfaceStore.register at ha
    dsimp only at ha
    split at ha
    · rw [Function.update_apply] at ha
      split at ha
      · rename_i hi
        exact Or.inr ⟨hi, (Option.some.inj ha).symm⟩
      · exact Or.inl ha
    · exact Or.inl ha
  constructor
  · intro i a ha
    rcases hcases i a ha with ha | ⟨rfl, -⟩
    · exact h.searched i a ha
    · exact hid
  · intro i a ha
    rcases hcases i a ha with ha | ⟨rfl, rfl⟩
    · rw [hold i a ha]
      exact h.keyed i a ha
    · rw [SurfaceStore.register_records_self]
      rfl
  · exact h.discovery.congr fun e he => hmap e.surfaceId (hc.1 e he)
  · refine h.properties.congr fun e he => ?_
    unfold described
    dsimp only
    rw [hmap e.surfaceId (hc.2 e he)]
    cases ha : m.store.surfaceMap e.surfaceId with
    | none => rfl
    | some a => simp only [Option.map_some, hold _ a ha]

theorem convertSurfaceFormat (now : Nat) {source dest a b : Nat} {format : PixelFormat}
    (h : Faithful cfg m) (ha : m.store.surfaceMap source = some a)
    (hb : m.store.surfaceMap dest = some b)
    (hC : (∀ e ∈ m.properties, e.surfaceId ≠ dest) ∨
      ∀ a ∈ m.store.surfaceMap source, ∀ b ∈ m.store.surfaceMap dest,
        SurfaceStore.unconverted format (m.store.records a) (m.store.records b) ≠ none ∨
          (m.store.records b).descriptor.pixelFormat = format) :
    Faithful cfg { m with store := (m.store.convertSurfaceFormat now format a b).2 } := by
  unfold SurfaceStore.convertSurfaceFormat
  cases hu : SurfaceStore.unconverted format (m.store.records a) (m.store.records b) with
  | some r => exact h
  | none =>
      refine h.of_records rfl (fun i => ?_) fun e he i hi => ?_
      · by_cases hib : i = b
        · subst hib
          dsimp only
          rw [SurfaceStore.setRecord_records_self]
        · dsimp only
          rw [SurfaceStore.setRecord_records_of_ne hib]
      · by_cases hib : i = b
        · subst hib
          have hdest : e.surfaceId = dest :=
            (h.keyed _ _ hi).symm.trans (h.keyed _ _ hb)
          rcases hC with hC | hC
          · exact absurd hdest (hC e he)
          · rcases hC a ha i hb with hC | hC
            · exact absurd hu hC
            · dsimp only
              rw [SurfaceStore.setRecord_records_self, ← hC]
        · dsimp only
          rw [SurfaceStore.setRecord_records_of_ne hib]

/-- What the caches say stays true in a step that spares them. -/
theorem step {c : ManagerCall} (h : Faithful cfg m) (hC : m.SparesCaches cfg c)
    (hs : m.step cfg c = some m') : Faithful cfg m' := by
  have he := step_effect hs
  have hcaches := h.caches he
  have hsame : SurfaceStore.SameDescriptors m.store m'.store → Faithful cfg m' :=
    fun hsame => hcaches.of_sameDescriptors hsame
  have hrefl : SurfaceStore.SameDescriptors m.store m.store :=
    (SurfaceStore.Steady.refl m.store).sameDescriptors
  cases c with
  | createSurface d env =>
      obtain ⟨hp, hafter⟩ := step_eq_some hs
      cases hafter
      show Faithful cfg { m with store := (m.store.createSurface cfg.yuv d env).2 }
      rcases SurfaceStore.createSurface_cases m.store cfg.yuv d env with
        ⟨r, hr⟩ | ⟨r, -, -, hr⟩ | ⟨p, href, hb, hr⟩
      · rw [hr]
        exact h
      · rw [hr]
        exact h.of_records rfl (fun _ => rfl) fun _ _ _ _ => rfl
      · rw [hr]
        have hC := hC (SurfaceStore.accepts_eq_true href hb)
        exact h.register (hp.2 p.data (SurfaceStore.build_eq_ok hb).1) hC.1 hC.2
  | destroySurface now id number =>
      rcases he.store with hst | ⟨a, ha, -, hst⟩
      · exact hsame (hst ▸ hrefl)
      · rw [h.served] at ha
        rcases SurfaceStore.destroySurface_cases m.store number id a with ⟨-, hd⟩ | ⟨hd, -⟩
        · exact hsame (hst ▸ hd.sameDescriptors)
        · rw [hC a ha] at hd
          cases hd
  | convertSurfaceFormat now now' source dest format =>
      rcases he.store with hst | ⟨a, b, ha, hb, -, -, -, hst⟩
      · exact hsame (hst ▸ hrefl)
      · rw [h.served] at ha
        rw [h.lookedUp.served] at hb
        have hp : m'.properties = m.properties := he.properties
        have hstore := hcaches.convertSurfaceFormat now' ha hb
          (hC.imp (fun hu e hmem => hu e (hp ▸ hmem)) fun hsame => hsame)
        dsimp only at hstore
        rw [← hst] at hstore
        exact hstore
  | lockSurface now id readOnly =>
      rcases he.store with hst | ⟨a, -, -, hst⟩
      · exact hsame (hst ▸ hrefl)
      · exact hsame (hst ▸ SurfaceStore.steady_lockSurface.sameDescriptors)
  | unlockSurface now id =>
      rcases he.store with hst | ⟨a, -, -, hst⟩
      · exact hsame (hst ▸ hrefl)
      · exact hsame (hst ▸ SurfaceStore.steady_unlockSurface.sameDescriptors)
  | lockSurfacePlane now id plane =>
      rcases he.store with hst | ⟨a, -, -, hst⟩
      · exact hsame (hst ▸ hrefl)
      · exact hsame (hst ▸ SurfaceStore.steady_lockSurfacePlane.sameDescriptors)
  | unlockSurfacePlane now id plane =>
      rcases he.store with hst | ⟨a, -, -, hst⟩
      · exact hsame (hst ▸ hrefl)
      · exact hsame (hst ▸ SurfaceStore.steady_unlockSurfacePlane.sameDescriptors)
  | updateSurfaceDescriptor id d buffer =>
      exact hsame (he.store ▸ SurfaceStore.sameDescriptors_updateSurfaceDescriptor)
  | evictUnusedSurfaces now limit enough =>
      exact hsame (he.store ▸ SurfaceStore.sameDescriptors_evictUnusedSurfaces)
  | _ => exact hsame (he.store ▸ hrefl)

end Faithful

theorem faithful_start : Faithful cfg start where
  searched := fun _ _ h => (by cases h)
  keyed := fun _ _ h => (by cases h)
  discovery := agrees_nil
  properties := agrees_nil

/-- **The caches are invisible** in every run whose calls spare them. -/
theorem caches_invisible (cfg : IOSurfaceConfig) (calls : List ManagerCall)
    (hC : (machine cfg).Along (SparesCaches cfg) start calls) :
    (machine cfg).Always (Transparent cfg) start calls := by
  have hfaithful : (machine cfg).Always (Faithful cfg) start calls :=
    (machine cfg).always_of_along (fun _ _ _ h hc hs => h.step hc hs) faithful_start hC
  exact hfaithful.imp _ fun _ h => h.transparent

/-- Two surfaces, found, described and converted before anyone asks for the new
format. -/
theorem caches_invisible_two :
    (machine ⟨true, false⟩).Always (Transparent ⟨true, false⟩) start
      [.createSurface (.plain .bgra32 4 4) (.granted 1 1 1),
        .createSurface (.plain .rgba32 4 4) (.granted 2 2 2), .findSurface 3 1,
        .getSurfaceDescriptor 4 1, .convertSurfaceFormat 5 6 2 1 .rgba32,
        .convertSurfaceFormat 7 8 1 2 .rgba32, .getSurfaceDescriptor 9 2, .findSurface 10 2] :=
  caches_invisible _ _ (by decide)

/-- A destroyed surface is still found. -/
theorem caches_visible :
    ¬ ∀ (cfg : IOSurfaceConfig) (calls : List ManagerCall),
      (machine cfg).Always (Transparent cfg) start calls := by
  intro h
  have hrun := h ⟨true, false⟩ [.createSurface (.plain .bgra32 4 4) (.granted 1 1 1),
    .destroySurface 2 1 true]
  obtain ⟨m, hm, hshown⟩ := hrun.of_any _ (p := fun m : IOSurfaceManager =>
    decide ((m.findSurface 3 1).1 ≠ m.store.surfaceMap 1)) (by decide)
  exact of_decide_eq_true hshown (hm.find 3 1)

end IOSurfaceManager

end VMQemuVGA
