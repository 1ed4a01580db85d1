import VMQemuVGA.IOSurface.Manager

/-! # What a call does to the manager

Said once for each part of the state: what a lookup answers and leaves in the
cache, and which operation on the surfaces a call comes down to. -/

namespace VMQemuVGA

open Lookaside

/-! ## Operations on the surfaces -/

/-- The record without what comes and goes: locks, references and times. -/
def VMIOSurface.still (v : VMIOSurface) : VMIOSurface :=
  { v with lockCount := 0, isLocked := false, refCount := 0, lastAccessTime := 0 }

theorem VMIOSurface.still_dropRef {v : VMIOSurface} : v.dropRef.still = v.still := rfl

namespace SurfaceStore
variable {s s' : SurfaceStore} {now id a : Nat} {v : VMIOSurface}

/-- Nothing but locks, references and times has changed. -/
structure Steady (s s' : SurfaceStore) : Prop where
  surfaceIds : s'.surfaceIds = s.surfaceIds
  surfaces : s'.surfaces = s.surfaces
  surfaceMap : s'.surfaceMap = s.surfaceMap
  surfaceCount : s'.surfaceCount = s.surfaceCount
  allocatedMemory : s'.allocatedMemory = s.allocatedMemory
  buffers : s'.buffers = s.buffers
  still : ∀ a, (s'.records a).still = (s.records a).still

theorem Steady.refl (s : SurfaceStore) : Steady s s := ⟨rfl, rfl, rfl, rfl, rfl, rfl, fun _ => rfl⟩

@[simp] theorem setRecord_records_self : (s.setRecord a v).records a = v := Function.update_self ..

theorem setRecord_records_of_ne {b : Nat} (h : b ≠ a) :
    (s.setRecord a v).records b = s.records b := Function.update_of_ne h ..

theorem register_records_self {d : IOSurfaceDescriptor} {env : CreateEnv} {p : Parts} :
    (s.register id d env p).records p.data = .make id env.now p.buffer d p.planes :=
  Function.update_self ..

theorem register_records_of_ne {d : IOSurfaceDescriptor} {env : CreateEnv} {p : Parts}
    (h : a ≠ p.data) : (s.register id d env p).records a = s.records a :=
  Function.update_of_ne h ..

theorem steady_setRecord (h : v.still = (s.records a).still) : Steady s (s.setRecord a v) where
  surfaceIds := rfl
  surfaces := rfl
  surfaceMap := rfl
  surfaceCount := rfl
  allocatedMemory := rfl
  buffers := rfl
  still := by
    intro b
    by_cases hb : b = a
    · subst hb
      rw [setRecord_records_self]
      exact h
    · rw [setRecord_records_of_ne hb]

theorem steady_lockSurface {readOnly : Bool} : Steady s (s.lockSurface now readOnly a).2 := by
  unfold lockSurface
  split
  · split
    · exact Steady.refl s
    · exact steady_setRecord rfl
  · exact Steady.refl s

theorem steady_unlockSurface : Steady s (s.unlockSurface now a).2 := by
  unfold unlockSurface
  split
  · exact Steady.refl s
  · exact steady_setRecord rfl

theorem steady_lockSurfacePlane {plane : Nat} : Steady s (s.lockSurfacePlane now plane a).2 := by
  unfold lockSurfacePlane
  split
  · exact Steady.refl s
  split
  · exact steady_setRecord rfl
  · exact Steady.refl s

theorem steady_unlockSurfacePlane {plane : Nat} :
    Steady s (s.unlockSurfacePlane now plane a).2 := by
  unfold unlockSurfacePlane
  split
  · exact Steady.refl s
  · exact steady_unlockSurface

/-- The dictionary is the same, and every record says the same about its surface. -/
structure SameDescriptors (s s' : SurfaceStore) : Prop where
  surfaceMap : s'.surfaceMap = s.surfaceMap
  surfaceId : ∀ a, (s'.records a).surfaceId = (s.records a).surfaceId
  descriptor : ∀ a, (s'.records a).descriptor = (s.records a).descriptor

theorem Steady.sameDescriptors (h : Steady s s') : SameDescriptors s s' where
  surfaceMap := h.surfaceMap
  surfaceId := fun a => (congrArg VMIOSurface.surfaceId (h.still a) :)
  descriptor := fun a => (congrArg VMIOSurface.descriptor (h.still a) :)

theorem sameDescriptors_of_record {b : Nat} (hmap : s'.surfaceMap = s.surfaceMap)
    (hrec : s'.records = Function.update s.records b v)
    (hid : v.surfaceId = (s.records b).surfaceId)
    (hd : v.descriptor = (s.records b).descriptor) : SameDescriptors s s' where
  surfaceMap := hmap
  surfaceId := by
    intro a
    rw [hrec, Function.update_apply]
    split
    · rename_i hab
      rw [hab, hid]
    · rfl
  descriptor := by
    intro a
    rw [hrec, Function.update_apply]
    split
    · rename_i hab
      rw [hab, hd]
    · rfl

theorem sameDescriptors_updateSurfaceDescriptor {inPlace : Bool} {d : IOSurfaceDescriptor}
    {buffer : Option Nat} :
    SameDescriptors s (s.updateSurfaceDescriptor inPlace id d buffer).2 := by
  unfold updateSurfaceDescriptor
  split
  · exact (Steady.refl s).sameDescriptors
  split
  · exact sameDescriptors_of_record rfl rfl rfl rfl
  · unfold replaceMemory
    cases buffer with
    | none => exact sameDescriptors_of_record rfl rfl rfl rfl
    | some b => exact sameDescriptors_of_record rfl rfl rfl rfl

theorem sameDescriptors_evictUnusedSurfaces {limit : Nat} {enough : Bool} :
    SameDescriptors s (s.evictUnusedSurfaces now limit enough).2 := by
  unfold evictUnusedSurfaces
  split
  · exact (Steady.refl s).sameDescriptors
  split
  · exact (Steady.refl s).sameDescriptors
  · refine ⟨rfl, fun a => ?_, fun a => ?_⟩
    · dsimp only
      split <;> rfl
    · dsimp only
      split <;> rfl

/-- A surface is removed, or only a reference to it is. -/
theorem destroySurface_cases (s : SurfaceStore) (number : Bool) (id a : Nat) :
    (s.destroys a = false ∧ Steady s (s.destroySurface number id a).2) ∨
    (s.destroys a = true ∧ s.destroySurface number id a = (.success, s.remove number id a)) := by
  unfold destroySurface destroys
  cases hb : (s.records a).busy with
  | true => exact Or.inl ⟨rfl, Steady.refl s⟩
  | false =>
      rw [if_neg Bool.false_ne_true, Bool.not_false, Bool.true_and, decide_eq_true_eq,
        decide_eq_false_iff_not]
      rcases Nat.eq_zero_or_pos (s.records a).dropRef.refCount with hr | hr
      · rw [if_neg (Nat.not_lt.mpr (Nat.le_of_eq hr))]
        exact Or.inr ⟨hr, rfl⟩
      · rw [if_pos hr]
        exact Or.inl ⟨Nat.ne_of_gt hr, steady_setRecord VMIOSurface.still_dropRef⟩

/-- What a request has passed when an id is drawn for it. -/
theorem refusal_eq_none {yuv : Bool} {d : IOSurfaceDescriptor} (h : s.refusal yuv d = none) :
    d.pixelFormat.validate yuv = .success ∧
    (0 < d.width ∧ d.width ≤ 16384 ∧ 0 < d.height ∧ d.height ≤ 16384) ∧
    0 < d.calculateSurfaceSize ∧
    (s.allocatedMemory + d.calculateSurfaceSize) % u64 ≤ totalMemory := by
  unfold refusal at h
  split at h
  · cases h
  rename_i hformat
  split at h
  · cases h
  split at h
  · cases h
  split at h
  · cases h
  refine ⟨not_not.mp hformat, ?_, ?_, ?_⟩ <;> omega

/-- Where the parts come from. -/
theorem build_eq_ok {d : IOSurfaceDescriptor} {env : CreateEnv} {p : Parts}
    (h : build d env = .ok p) : env.data = some p.data ∧ env.buffer = some p.buffer ∧
      IOSurfaceDescriptor.setupPlaneInfo d.pixelFormat d.width d.height d.planes =
        some p.planes := by
  unfold build at h
  split at h
  · cases h
  split at h
  · cases h
  rename_i planes hplanes
  split at h
  · cases h
  rename_i buffer hbuffer
  split at h
  · cases h
  split at h
  · cases h
  split at h
  · cases h
  rename_i data hdata
  cases h
  exact ⟨hdata, hbuffer, hplanes⟩

theorem accepts_eq_true {yuv : Bool} {d : IOSurfaceDescriptor} {env : CreateEnv} {p : Parts}
    (hr : s.refusal yuv d = none) (hb : build d env = .ok p) : s.accepts yuv d env = true := by
  unfold accepts
  rw [hr, hb]
  rfl

/-- How `createSurface` ends. -/
theorem createSurface_cases (s : SurfaceStore) (yuv : Bool) (d : IOSurfaceDescriptor)
    (env : CreateEnv) :
    (∃ r, s.createSurface yuv d env = (.error r, s)) ∨
    (∃ r, s.refusal yuv d = none ∧ build d env = .error r ∧
      s.createSurface yuv d env = (.error r, { s with
        surfaceIds := releaseSurfaceId env.number (s.surfaceIds.allocate u32).1
          (s.surfaceIds.allocate u32).2 })) ∨
    ∃ p, s.refusal yuv d = none ∧ build d env = .ok p ∧
      s.createSurface yuv d env = (.ok (s.surfaceIds.allocate u32).1,
        { s with surfaceIds := (s.surfaceIds.allocate u32).2 }.register
          (s.surfaceIds.allocate u32).1 d env p) := by
  unfold createSurface
  cases hr : s.refusal yuv d with
  | some r => exact Or.inl ⟨r, rfl⟩
  | none =>
      cases hb : build d env with
      | error r => exact Or.inr (Or.inl ⟨r, rfl, rfl, rfl⟩)
      | ok p => exact Or.inr (Or.inr ⟨p, rfl, rfl, rfl⟩)

end SurfaceStore

/-! ## Lookups -/

namespace Discovery
variable {d : Discovery} {map : Nat → Option Nat} {now id a : Nat}

/-- What a lookup answers. -/
def served (map : Nat → Option Nat) (d : Discovery) (id : Nat) : Option Nat :=
  if Searched id then
    serve DiscoveryEntry.surfaceId DiscoveryEntry.object d.entries map id
  else none

/-- Nothing enters the cache that neither the cache nor the dictionary says. -/
abbrev Leaves (map : Nat → Option Nat) (d d' : Discovery) : Prop :=
  Sourced DiscoveryEntry.surfaceId DiscoveryEntry.object map d.entries d'.entries

theorem findSurface_fst : (d.findSurface now id map).1 = d.served map id := by
  unfold findSurface served serve held
  split
  · cases d.entries.find? fun e => e.surfaceId = id with
    | some e => rfl
    | none => cases map id <;> rfl
  · rfl

theorem counted_entries : (d.counted id).entries = d.entries := by
  unfold counted
  split <;> rfl

theorem adapted_entries : d.adapted.entries = d.entries := by
  unfold adapted
  repeat' split
  all_goals rfl

theorem leaves_touched : Leaves map d (d.touched now id) :=
  Sourced.modify _ (fun _ => rfl) fun _ => rfl

theorem leaves_prefetched : Leaves map d (d.prefetched now id map) := by
  unfold prefetched
  split
  · cases ha : map (id + 1) with
    | none => exact Sourced.refl
    | some a => exact Sourced.concat ha
  · exact Sourced.refl

theorem leaves_inserted (ha : map id = some a) : Leaves map d (d.inserted now id a) := by
  unfold inserted
  split
  · exact Sourced.concat ha
  · exact Sourced.set ha _

theorem leaves_findSurface : Leaves map d (d.findSurface now id map).2 := by
  unfold findSurface
  split
  · cases d.entries.find? fun e => e.surfaceId = id with
    | some e =>
        simp only [Leaves, counted_entries]
        exact leaves_touched (d := d.looked)
    | none =>
        cases ha : map id with
        | none => exact leaves_prefetched (d := d.looked)
        | some a =>
            simp only [Leaves, counted_entries, adapted_entries]
            exact (leaves_prefetched (d := d.looked)).trans (leaves_inserted ha)
  · exact Sourced.refl

/-! ### What a lookup has found is in the cache -/

end Discovery

namespace IOSurfaceManager
variable {cfg : IOSurfaceConfig} {m m' : IOSurfaceManager} {now id a : Nat}

/-- What `findSurface` answers. -/
def served (m : IOSurfaceManager) (id : Nat) : Option Nat :=
  m.discovery.served m.store.surfaceMap id

/-- The manager after a lookup. -/
def lookedUp (now id : Nat) (m : IOSurfaceManager) : IOSurfaceManager :=
  { m with discovery := (m.discovery.findSurface now id m.store.surfaceMap).2 }

theorem findSurface_eq : m.findSurface now id = (m.served id, m.lookedUp now id) := by
  unfold findSurface served lookedUp
  rw [← Discovery.findSurface_fst]

@[simp] theorem lookedUp_store : (m.lookedUp now id).store = m.store := rfl

@[simp] theorem lookedUp_clients : (m.lookedUp now id).clients = m.clients := rfl

@[simp] theorem lookedUp_wild : (m.lookedUp now id).wild = m.wild := rfl

/-- The three ways an operation on a surface can go. -/
theorem onSurface_cases {β : Type} {stop : IOReturn → β}
    {op : Nat → SurfaceStore → β × SurfaceStore} {r : β × IOSurfaceManager}
    (h : m.onSurface now id stop op = r) :
    (m.served id = none ∧ r = (stop .notFound, m.lookedUp now id)) ∨
    (∃ a, m.served id = some a ∧ m.store.live a = true ∧
      r = ((op a m.store).1, { m.lookedUp now id with store := (op a m.store).2 })) ∨
    (∃ a, m.served id = some a ∧ m.store.live a = false ∧
      r = (stop .error, { m.lookedUp now id with wild := true })) := by
  unfold onSurface at h
  rw [findSurface_eq] at h
  cases hs : m.served id with
  | none =>
      rw [hs] at h
      exact Or.inl ⟨rfl, h.symm⟩
  | some a =>
      rw [hs] at h
      cases hl : m.store.live a with
      | true =>
          simp only [lookedUp_store, hl, if_true] at h
          exact Or.inr (Or.inl ⟨a, rfl, hl, h.symm⟩)
      | false =>
          simp only [lookedUp_store, hl, Bool.false_eq_true, if_false] at h
          exact Or.inr (Or.inr ⟨a, rfl, hl, h.symm⟩)

/-! ## Calls -/

/-- The operation on the surfaces that a call comes down to. -/
def StoreEffect (cfg : IOSurfaceConfig) (m : IOSurfaceManager) (s : SurfaceStore) :
    ManagerCall → Prop
  | .createSurface d env => s = (m.store.createSurface cfg.yuv d env).2
  | .destroySurface _ id number =>
      s = m.store ∨ ∃ a, m.served id = some a ∧ m.store.live a = true ∧
        s = (m.store.destroySurface number id a).2
  | .convertSurfaceFormat now now' source dest format =>
      s = m.store ∨ ∃ a b, m.served source = some a ∧ (m.lookedUp now source).served dest = some b ∧
        m.store.live a = true ∧ m.store.live b = true ∧ format.validate cfg.yuv = .success ∧
        s = (m.store.convertSurfaceFormat now' format a b).2
  | .lockSurface now id readOnly =>
      s = m.store ∨ ∃ a, m.served id = some a ∧ m.store.live a = true ∧
        s = (m.store.lockSurface now readOnly a).2
  | .unlockSurface now id =>
      s = m.store ∨ ∃ a, m.served id = some a ∧ m.store.live a = true ∧
        s = (m.store.unlockSurface now a).2
  | .lockSurfacePlane now id plane =>
      s = m.store ∨ ∃ a, m.served id = some a ∧ m.store.live a = true ∧
        s = (m.store.lockSurfacePlane now plane a).2
  | .unlockSurfacePlane now id plane =>
      s = m.store ∨ ∃ a, m.served id = some a ∧ m.store.live a = true ∧
        s = (m.store.unlockSurfacePlane now plane a).2
  | .updateSurfaceDescriptor id d buffer =>
      s = (m.store.updateSurfaceDescriptor cfg.inPlace id d buffer).2
  | .evictUnusedSurfaces now limit enough => s = (m.store.evictUnusedSurfaces now limit enough).2
  | .findSurface .. | .getSurfaceDescriptor .. | .compactSurfaceMemory .. | .registerClient ..
  | .unregisterClient .. | .shareSurface .. | .unshareSurface .. | .canClientAccessSurface .. =>
      s = m.store

/-- The property cache takes up what a surface says, if anything. -/
def PropertyEffect (cfg : IOSurfaceConfig) (m : IOSurfaceManager) (cache : List PropertyEntry) :
    ManagerCall → Prop
  | .getSurfaceDescriptor now id =>
      cache = m.properties ∨ ∃ a, m.served id = some a ∧ cache =
        (PropertyEntry.serve now id ((m.store.records a).descriptor.describe cfg.yuv)
          m.properties).2
  | _ => cache = m.properties

def ClientEffect (m : IOSurfaceManager) (t : ClientTable) : ManagerCall → Prop
  | .registerClient env => t = (m.clients.registerClient env).2
  | .unregisterClient id number => t = (m.clients.unregisterClient number id).2
  | .shareSurface _ id _ targets _ =>
      t = m.clients ∨ id ≠ 0 ∧ m.served id ≠ none ∧ t = m.clients.share id (targets.getD [])
  | .unshareSurface id client => t = (m.clients.unshareSurface id client).2
  | _ => t = m.clients

/-- What a call does to each part. Nothing enters the discovery cache that is not
there or in the dictionary. -/
structure Effect (cfg : IOSurfaceConfig) (m m' : IOSurfaceManager) (c : ManagerCall) : Prop where
  store : StoreEffect cfg m m'.store c
  discovery : Discovery.Leaves m.store.surfaceMap m.discovery m'.discovery
  properties : PropertyEffect cfg m m'.properties c
  clients : ClientEffect m m'.clients c

theorem leaves_lookedUp :
    Discovery.Leaves m.store.surfaceMap m.discovery (m.lookedUp now id).discovery :=
  Discovery.leaves_findSurface

/-- An operation on the record of a surface leaves the rest alone. -/
theorem onSurface_spec {β : Type} {stop : IOReturn → β}
    {op : Nat → SurfaceStore → β × SurfaceStore} {r : β × IOSurfaceManager}
    (h : m.onSurface now id stop op = r) :
    (r.2.store = m.store ∨ ∃ a, m.served id = some a ∧ m.store.live a = true ∧
      r.2.store = (op a m.store).2) ∧
    Discovery.Leaves m.store.surfaceMap m.discovery r.2.discovery ∧
    r.2.properties = m.properties ∧ r.2.clients = m.clients := by
  rcases onSurface_cases h with ⟨-, rfl⟩ | ⟨a, hs, hl, rfl⟩ | ⟨a, -, -, rfl⟩
  · exact ⟨Or.inl rfl, leaves_lookedUp, rfl, rfl⟩
  · exact ⟨Or.inr ⟨a, hs, hl, rfl⟩, leaves_lookedUp, rfl, rfl⟩
  · exact ⟨Or.inl rfl, leaves_lookedUp, rfl, rfl⟩

theorem effect_convertSurfaceFormat {now' source dest : Nat} {format : PixelFormat} :
    Effect cfg m (m.convertSurfaceFormat cfg now now' source dest format).2
      (.convertSurfaceFormat now now' source dest format) := by
  have hsame : Effect cfg m m (.convertSurfaceFormat now now' source dest format) :=
    ⟨Or.inl rfl, Sourced.refl, rfl, rfl⟩
  unfold convertSurfaceFormat
  split
  · exact hsame
  split
  · exact hsame
  split
  · exact hsame
  rename_i hvalid
  rw [findSurface_eq]
  cases hs : m.served source with
  | none => exact ⟨Or.inl rfl, leaves_lookedUp, rfl, rfl⟩
  | some a =>
      have htwo : Discovery.Leaves m.store.surfaceMap m.discovery
          ((m.lookedUp now source).lookedUp now' dest).discovery :=
        leaves_lookedUp.trans leaves_lookedUp
      simp only [findSurface_eq]
      cases hd : (m.lookedUp now source).served dest with
      | none => exact ⟨Or.inl rfl, htwo, rfl, rfl⟩
      | some b =>
          dsimp only
          split
          · rename_i hl
            obtain ⟨ha, hb⟩ := (Bool.and_eq_true _ _).mp hl
            exact ⟨Or.inr ⟨a, b, hs, hd, ha, hb, not_not.mp hvalid, rfl⟩, htwo, rfl, rfl⟩
          · exact ⟨Or.inl rfl, htwo, rfl, rfl⟩

theorem effect_getSurfaceDescriptor :
    Effect cfg m (m.getSurfaceDescriptor cfg now id).2 (.getSurfaceDescriptor now id) := by
  unfold getSurfaceDescriptor
  rw [findSurface_eq]
  split
  · exact ⟨rfl, Sourced.refl, Or.inl rfl, rfl⟩
  cases hs : m.served id with
  | none => exact ⟨rfl, leaves_lookedUp, Or.inl rfl, rfl⟩
  | some a =>
      dsimp only
      split
      · exact ⟨rfl, leaves_lookedUp, Or.inr ⟨a, hs, rfl⟩, rfl⟩
      · exact ⟨rfl, leaves_lookedUp, Or.inl rfl, rfl⟩

theorem effect_shareSurface {descId : Nat} {targets : Option (List (Nat × Bool))} {array : Bool} :
    Effect cfg m (m.shareSurface now id descId targets array).2
      (.shareSurface now id descId targets array) := by
  unfold shareSurface
  rw [findSurface_eq]
  split
  · exact ⟨rfl, Sourced.refl, rfl, Or.inl rfl⟩
  rename_i hid
  split
  · exact ⟨rfl, Sourced.refl, rfl, Or.inl rfl⟩
  cases hs : m.served id with
  | none => exact ⟨rfl, leaves_lookedUp, rfl, Or.inl rfl⟩
  | some a =>
      dsimp only
      split
      · exact ⟨rfl, leaves_lookedUp, rfl, Or.inl rfl⟩
      · have hne : m.served id ≠ none := by
          rw [hs]
          exact Option.some_ne_none a
        exact ⟨rfl, leaves_lookedUp, rfl, Or.inr ⟨hid, hne, rfl⟩⟩

theorem effect_canClientAccessSurface {client : Nat} :
    Effect cfg m (m.canClientAccessSurface now client id).2
      (.canClientAccessSurface now client id) := by
  unfold canClientAccessSurface
  rw [findSurface_eq]
  split
  · exact ⟨rfl, Sourced.refl, rfl, rfl⟩
  split
  · exact ⟨rfl, Sourced.refl, rfl, rfl⟩
  cases m.served id <;> exact ⟨rfl, leaves_lookedUp, rfl, rfl⟩

/-- The loop of `compactSurfaceMemory` only looks surfaces up. -/
theorem compact_spec {clock : Nat → Nat} {as : List Nat} (h : compact clock as m = some m') :
    m'.store = m.store ∧ Discovery.Leaves m.store.surfaceMap m.discovery m'.discovery ∧
      m'.properties = m.properties ∧ m'.clients = m.clients := by
  induction as generalizing m with
  | nil =>
      cases h
      exact ⟨rfl, Sourced.refl, rfl, rfl⟩
  | cons a as ih =>
      simp only [compact, findSurface_eq] at h
      -- the rest of the loop starts from a manager that differs in the cache and in `wild` only
      have hrest : ∀ m₁ : IOSurfaceManager, compact clock as m₁ = some m' → m₁.store = m.store →
          Discovery.Leaves m.store.surfaceMap m.discovery m₁.discovery →
          m₁.properties = m.properties → m₁.clients = m.clients →
          m'.store = m.store ∧ Discovery.Leaves m.store.surfaceMap m.discovery m'.discovery ∧
            m'.properties = m.properties ∧ m'.clients = m.clients := by
        intro m₁ h₁ hs hd hp hc
        obtain ⟨hs', hd', hp', hc'⟩ := ih h₁
        rw [hs] at hd'
        exact ⟨hs'.trans hs, hd.trans hd', hp'.trans hp, hc'.trans hc⟩
      cases hs : m.served (m.store.records a).surfaceId with
      | none =>
          rw [hs] at h
          exact hrest _ h rfl leaves_lookedUp rfl rfl
      | some b =>
          rw [hs] at h
          dsimp only at h
          split at h
          · split at h
            · cases h
            · exact hrest _ h rfl leaves_lookedUp rfl rfl
          · exact hrest _ h rfl leaves_lookedUp rfl rfl

theorem step_eq_some {c : ManagerCall} (h : m.step cfg c = some m') :
    m.Possible cfg c ∧ m.after cfg c = some m' := by
  unfold step at h
  split at h
  case isTrue hp => exact ⟨hp, h⟩
  case isFalse => cases h

theorem step_effect {c : ManagerCall} (h : m.step cfg c = some m') : Effect cfg m m' c := by
  obtain ⟨-, h⟩ := step_eq_some h
  cases c with
  | createSurface d env =>
      cases h
      exact ⟨rfl, Sourced.refl, rfl, rfl⟩
  | destroySurface now id number =>
      cases h
      show Effect cfg m (m.destroySurface now id number).2 _
      unfold destroySurface
      split
      · exact ⟨Or.inl rfl, Sourced.refl, rfl, rfl⟩
      · obtain ⟨hs, hd, hp, hc⟩ := onSurface_spec (rfl : m.onSurface now id _ _ = _)
        exact ⟨hs, hd, hp, hc⟩
  | findSurface now id =>
      cases h
      rw [findSurface_eq]
      exact ⟨rfl, leaves_lookedUp, rfl, rfl⟩
  | getSurfaceDescriptor now id =>
      cases h
      exact effect_getSurfaceDescriptor
  | convertSurfaceFormat now now' source dest format =>
      cases h
      exact effect_convertSurfaceFormat
  | lockSurface now id readOnly =>
      cases h
      obtain ⟨hs, hd, hp, hc⟩ := onSurface_spec (rfl : m.lockSurface now id readOnly = _)
      exact ⟨hs, hd, hp, hc⟩
  | unlockSurface now id =>
      cases h
      obtain ⟨hs, hd, hp, hc⟩ := onSurface_spec (rfl : m.unlockSurface now id = _)
      exact ⟨hs, hd, hp, hc⟩
  | lockSurfacePlane now id plane =>
      cases h
      show Effect cfg m (m.lockSurfacePlane now id plane).2 _
      unfold lockSurfacePlane
      split
      · exact ⟨Or.inl rfl, Sourced.refl, rfl, rfl⟩
      · obtain ⟨hs, hd, hp, hc⟩ := onSurface_spec (rfl : m.onSurface now id _ _ = _)
        exact ⟨hs, hd, hp, hc⟩
  | unlockSurfacePlane now id plane =>
      cases h
      show Effect cfg m (m.unlockSurfacePlane now id plane).2 _
      unfold unlockSurfacePlane
      split
      · exact ⟨Or.inl rfl, Sourced.refl, rfl, rfl⟩
      · obtain ⟨hs, hd, hp, hc⟩ := onSurface_spec (rfl : m.onSurface now id _ _ = _)
        exact ⟨hs, hd, hp, hc⟩
  | updateSurfaceDescriptor id d buffer =>
      cases h
      exact ⟨rfl, Sourced.refl, rfl, rfl⟩
  | evictUnusedSurfaces now limit enough =>
      cases h
      exact ⟨rfl, Sourced.refl, rfl, rfl⟩
  | compactSurfaceMemory clock =>
      obtain ⟨hs, hd, hp, hc⟩ := compact_spec h
      exact ⟨hs, hd, hp, hc⟩
  | registerClient env =>
      cases h
      exact ⟨rfl, Sourced.refl, rfl, rfl⟩
  | unregisterClient id number =>
      cases h
      exact ⟨rfl, Sourced.refl, rfl, rfl⟩
  | shareSurface now id descId targets array =>
      cases h
      exact effect_shareSurface
  | unshareSurface id client =>
      cases h
      exact ⟨rfl, Sourced.refl, rfl, rfl⟩
  | canClientAccessSurface now client id =>
      cases h
      exact effect_canClientAccessSurface

/-- Only creation and destruction change the dictionary. -/
theorem Effect.surfaceMap {c : ManagerCall} (he : Effect cfg m m' c) :
    match c with
    | .createSurface .. | .destroySurface .. => True
    | _ => m'.store.surfaceMap = m.store.surfaceMap := by
  have hst := he.store
  cases c with
  | createSurface | destroySurface => trivial
  | convertSurfaceFormat now now' source dest format =>
      rcases hst with hst | ⟨a, b, -, -, -, -, -, hst⟩
      · exact congrArg SurfaceStore.surfaceMap hst
      · dsimp only
        rw [hst]
        unfold SurfaceStore.convertSurfaceFormat
        split <;> rfl
  | lockSurface now id readOnly =>
      rcases hst with hst | ⟨a, -, -, hst⟩
      · exact congrArg SurfaceStore.surfaceMap hst
      · dsimp only
        rw [hst]
        exact SurfaceStore.steady_lockSurface.surfaceMap
  | unlockSurface now id =>
      rcases hst with hst | ⟨a, -, -, hst⟩
      · exact congrArg SurfaceStore.surfaceMap hst
      · dsimp only
        rw [hst]
        exact SurfaceStore.steady_unlockSurface.surfaceMap
  | lockSurfacePlane now id plane =>
      rcases hst with hst | ⟨a, -, -, hst⟩
      · exact congrArg SurfaceStore.surfaceMap hst
      · dsimp only
        rw [hst]
        exact SurfaceStore.steady_lockSurfacePlane.surfaceMap
  | unlockSurfacePlane now id plane =>
      rcases hst with hst | ⟨a, -, -, hst⟩
      · exact congrArg SurfaceStore.surfaceMap hst
      · dsimp only
        rw [hst]
        exact SurfaceStore.steady_unlockSurfacePlane.surfaceMap
  | updateSurfaceDescriptor id d buffer =>
      dsimp only
      rw [hst]
      exact SurfaceStore.sameDescriptors_updateSurfaceDescriptor.surfaceMap
  | evictUnusedSurfaces now limit enough =>
      dsimp only
      rw [hst]
      exact SurfaceStore.sameDescriptors_evictUnusedSurfaces.surfaceMap
  | _ => exact congrArg SurfaceStore.surfaceMap hst

/-! ## Freed objects -/

/-- Whatever lookups of the id may hand out exists. -/
def Known (m : IOSurfaceManager) (id : Nat) : Prop :=
  (∀ e ∈ m.discovery.entries, e.surfaceId = id → m.store.live e.object = true) ∧
    ∀ a ∈ m.store.surfaceMap id, m.store.live a = true

instance (m : IOSurfaceManager) (id : Nat) : Decidable (m.Known id) :=
  inferInstanceAs (Decidable ((∀ e ∈ m.discovery.entries, e.surfaceId = id →
    m.store.live e.object = true) ∧ ∀ a ∈ m.store.surfaceMap id, m.store.live a = true))

/-- No lookup hands the call an object that no longer exists. -/
def Tame (m : IOSurfaceManager) : ManagerCall → Prop
  | .destroySurface _ id _ | .getSurfaceDescriptor _ id | .lockSurface _ id _ | .unlockSurface _ id
  | .lockSurfacePlane _ id _ | .unlockSurfacePlane _ id _ =>
      ∀ a ∈ m.served id, m.store.live a = true
  | .convertSurfaceFormat now _ source dest _ =>
      (∀ a ∈ m.served source, m.store.live a = true) ∧
        ∀ b ∈ (m.lookedUp now source).served dest, m.store.live b = true
  | .compactSurfaceMemory _ => ∀ a ∈ m.store.surfaces, m.Known (m.store.records a).surfaceId
  | _ => True

instance (m : IOSurfaceManager) : ∀ c, Decidable (m.Tame c)
  | .destroySurface _ id _ | .getSurfaceDescriptor _ id | .lockSurface _ id _ | .unlockSurface _ id
  | .lockSurfacePlane _ id _ | .unlockSurfacePlane _ id _ =>
      inferInstanceAs (Decidable (∀ a ∈ m.served id, m.store.live a = true))
  | .convertSurfaceFormat now _ source dest _ =>
      inferInstanceAs (Decidable ((∀ a ∈ m.served source, m.store.live a = true) ∧
        ∀ b ∈ (m.lookedUp now source).served dest, m.store.live b = true))
  | .compactSurfaceMemory _ =>
      inferInstanceAs (Decidable (∀ a ∈ m.store.surfaces, m.Known (m.store.records a).surfaceId))
  | .createSurface .. | .findSurface .. | .updateSurfaceDescriptor .. | .evictUnusedSurfaces ..
  | .registerClient .. | .unregisterClient .. | .shareSurface .. | .unshareSurface ..
  | .canClientAccessSurface .. => isTrue trivial

theorem onSurface_wild {β : Type} {stop : IOReturn → β}
    {op : Nat → SurfaceStore → β × SurfaceStore}
    (h : ∀ a ∈ m.served id, m.store.live a = true) :
    (m.onSurface now id stop op).2.wild = m.wild := by
  rcases onSurface_cases (rfl : m.onSurface now id stop op = _) with
    ⟨-, hr⟩ | ⟨a, -, -, hr⟩ | ⟨a, hs, hl, -⟩
  · rw [hr]
    rfl
  · rw [hr]
    rfl
  · rw [h a hs] at hl
    cases hl

theorem convertSurfaceFormat_wild {now' source dest : Nat} {format : PixelFormat}
    (ha : ∀ a ∈ m.served source, m.store.live a = true)
    (hb : ∀ b ∈ (m.lookedUp now source).served dest, m.store.live b = true) :
    (m.convertSurfaceFormat cfg now now' source dest format).2.wild = m.wild := by
  unfold convertSurfaceFormat
  split
  · rfl
  split
  · rfl
  split
  · rfl
  rw [findSurface_eq]
  cases hs : m.served source with
  | none => rfl
  | some a =>
      simp only [findSurface_eq]
      cases hd : (m.lookedUp now source).served dest with
      | none => rfl
      | some b =>
          have hl : (m.store.live a && m.store.live b) = true := by
            rw [ha a hs, hb b hd]
            rfl
          dsimp only
          rw [if_pos (show (((m.lookedUp now source).lookedUp now' dest).store.live a &&
            ((m.lookedUp now source).lookedUp now' dest).store.live b) = true from hl)]
          rfl

theorem Known.live_of_served (h : m.Known id) (hs : m.served id = some a) :
    m.store.live a = true := by
  unfold served Discovery.served at hs
  split at hs
  · unfold serve at hs
    cases hc : held DiscoveryEntry.surfaceId DiscoveryEntry.object m.discovery.entries id with
    | none =>
        rw [hc] at hs
        exact h.2 a hs
    | some b =>
        rw [hc] at hs
        cases hs
        obtain ⟨e, he, hid, rfl⟩ := held_eq_some hc
        exact h.1 e he hid
  · cases hs

theorem Known.leaves (h : m.Known id) (hs : m'.store = m.store)
    (hd : Discovery.Leaves m.store.surfaceMap m.discovery m'.discovery) : m'.Known id := by
  unfold Known
  rw [hs]
  refine ⟨fun e he hid => ?_, h.2⟩
  rcases hd e he with ⟨e', he', hid', hobj⟩ | hmap
  · rw [← hobj]
    exact h.1 e' he' (hid'.trans hid)
  · rw [hid] at hmap
    exact h.2 _ hmap

theorem compact_wild {clock : Nat → Nat} {as : List Nat}
    (hk : ∀ a ∈ as, m.Known (m.store.records a).surfaceId) (h : compact clock as m = some m') :
    m'.wild = m.wild := by
  induction as generalizing m with
  | nil =>
      cases h
      rfl
  | cons a as ih =>
      simp only [compact, findSurface_eq] at h
      have hrest : compact clock as (m.lookedUp (clock as.length)
          (m.store.records a).surfaceId) = some m' → m'.wild = m.wild := by
        intro h
        refine ih (m := m.lookedUp _ _) (fun b hb => ?_) h
        exact (hk b (List.mem_cons_of_mem a hb)).leaves rfl leaves_lookedUp
      cases hs : m.served (m.store.records a).surfaceId with
      | none =>
          rw [hs] at h
          exact hrest h
      | some b =>
          rw [hs] at h
          dsimp only at h
          rw [if_pos (show (m.lookedUp _ _).store.live b = true from
            (hk a List.mem_cons_self).live_of_served hs)] at h
          split at h
          · cases h
          · exact hrest h

theorem step_wild {c : ManagerCall} (ht : m.Tame c) (h : m.step cfg c = some m') :
    m'.wild = m.wild := by
  obtain ⟨-, h⟩ := step_eq_some h
  cases c with
  | compactSurfaceMemory clock => exact compact_wild (fun a ha => ht a (List.mem_reverse.mp ha)) h
  | createSurface | updateSurfaceDescriptor | evictUnusedSurfaces | registerClient
  | unregisterClient | unshareSurface | findSurface =>
      cases h
      rfl
  | destroySurface now id number =>
      cases h
      show (m.destroySurface now id number).2.wild = m.wild
      unfold destroySurface
      split
      · rfl
      · exact onSurface_wild ht
  | getSurfaceDescriptor now id =>
      cases h
      show (m.getSurfaceDescriptor cfg now id).2.wild = m.wild
      unfold getSurfaceDescriptor
      rw [findSurface_eq]
      split
      · rfl
      cases hs : m.served id with
      | none => rfl
      | some a =>
          dsimp only
          rw [if_pos (show (m.lookedUp now id).store.live a = true from ht a hs)]
          rfl
  | convertSurfaceFormat now now' source dest format =>
      cases h
      exact convertSurfaceFormat_wild ht.1 ht.2
  | lockSurface | unlockSurface =>
      cases h
      exact onSurface_wild ht
  | lockSurfacePlane now id plane =>
      cases h
      show (m.lockSurfacePlane now id plane).2.wild = m.wild
      unfold lockSurfacePlane
      split
      · rfl
      · exact onSurface_wild ht
  | unlockSurfacePlane now id plane =>
      cases h
      show (m.unlockSurfacePlane now id plane).2.wild = m.wild
      unfold unlockSurfacePlane
      split
      · rfl
      · exact onSurface_wild ht
  | shareSurface now id descId targets array =>
      cases h
      show (m.shareSurface now id descId targets array).2.wild = m.wild
      unfold shareSurface
      rw [findSurface_eq]
      split
      · rfl
      split
      · rfl
      cases m.served id with
      | none => rfl
      | some a =>
          dsimp only
          split <;> rfl
  | canClientAccessSurface now client id =>
      cases h
      show (m.canClientAccessSurface now client id).2.wild = m.wild
      unfold canClientAccessSurface
      rw [findSurface_eq]
      split
      · rfl
      split
      · rfl
      cases m.served id <;> rfl

end IOSurfaceManager

end VMQemuVGA
