import VMQemuVGA.IOSurface.Effects

/-! # The accounts of the surfaces

The array, the dictionary, the ids, the number of surfaces and the bytes they
take are kept by hand, each operation for itself. -/

namespace VMQemuVGA

/-! ## The surfaces -/

namespace SurfaceStore
variable {s s' : SurfaceStore} {id a : Nat}

/-- The ids of the surfaces in the array. -/
def ids (s : SurfaceStore) : List Nat := s.surfaces.map fun a => (s.records a).surfaceId

/-- The bytes of the surfaces in the array. -/
def sizes (s : SurfaceStore) : List Nat := s.surfaces.map fun a => (s.records a).memorySize

/-- The books are right: different ids other than 0, the same surfaces in the
array and in the dictionary, their number, and their bytes within the budget. -/
structure Sound (s : SurfaceStore) : Prop where
  nodup : s.ids.Nodup
  nonzero : ∀ id ∈ s.ids, id ≠ 0
  mapped : ∀ id a, s.surfaceMap id = some a ↔ a ∈ s.surfaces ∧ (s.records a).surfaceId = id
  count : s.surfaceCount = s.surfaces.length
  memory : s.allocatedMemory = s.sizes.sum
  budget : s.allocatedMemory ≤ totalMemory

/-- What keeps the books right: the ids come from a pool that knows those in use,
and no surface is empty. -/
structure Kept (s : SurfaceStore) : Prop where
  sound : s.Sound
  tidy : IdPool.Tidy u32 s.ids s.surfaceIds
  sized : ∀ n ∈ s.sizes, 0 < n

theorem kept_start : start.Kept where
  sound := ⟨List.nodup_nil, fun _ h => (by cases h), fun _ _ => ⟨fun h => (by cases h),
    fun h => (by cases h.1)⟩, rfl, rfl, Nat.zero_le _⟩
  tidy := IdPool.tidy_start (by decide)
  sized := fun _ h => (by cases h)

theorem Sound.nodup_surfaces (h : s.Sound) : s.surfaces.Nodup := List.Nodup.of_map _ h.nodup

/-- No surface is empty, so there are not more than the budget has bytes. -/
theorem Kept.length_le (h : s.Kept) : s.surfaces.length ≤ s.allocatedMemory := by
  have hlen : ∀ l : List Nat, (∀ n ∈ l, 0 < n) → l.length ≤ l.sum := by
    intro l
    induction l with
    | nil => simp
    | cons n l ih =>
        intro hl
        have hn := hl n List.mem_cons_self
        have hrest := ih fun k hk => hl k (List.mem_cons_of_mem n hk)
        simp only [List.length_cons, List.sum_cons]
        omega
  rw [h.sound.memory, ← List.length_map (fun a => (s.records a).memorySize)]
  exact hlen s.sizes h.sized

/-! ### Operations that keep every surface -/

/-- Nothing the books are about has changed. -/
structure SameAccounts (s s' : SurfaceStore) : Prop where
  surfaceIds : s'.surfaceIds = s.surfaceIds
  surfaces : s'.surfaces = s.surfaces
  surfaceMap : s'.surfaceMap = s.surfaceMap
  surfaceCount : s'.surfaceCount = s.surfaceCount
  allocatedMemory : s'.allocatedMemory = s.allocatedMemory
  surfaceId : ∀ a, (s'.records a).surfaceId = (s.records a).surfaceId
  memorySize : ∀ a, (s'.records a).memorySize = (s.records a).memorySize

theorem SameAccounts.ids (h : SameAccounts s s') : s'.ids = s.ids := by
  unfold SurfaceStore.ids
  rw [h.surfaces]
  exact List.map_congr_left fun a _ => h.surfaceId a

theorem SameAccounts.sizes (h : SameAccounts s s') : s'.sizes = s.sizes := by
  unfold SurfaceStore.sizes
  rw [h.surfaces]
  exact List.map_congr_left fun a _ => h.memorySize a

theorem Kept.same (hk : s.Kept) (h : SameAccounts s s') : s'.Kept where
  sound :=
    { nodup := by
        rw [h.ids]
        exact hk.sound.nodup
      nonzero := by
        rw [h.ids]
        exact hk.sound.nonzero
      mapped := by
        intro id a
        rw [h.surfaceMap, h.surfaces, h.surfaceId]
        exact hk.sound.mapped id a
      count := by
        rw [h.surfaceCount, h.surfaces]
        exact hk.sound.count
      memory := by
        rw [h.allocatedMemory, h.sizes]
        exact hk.sound.memory
      budget := by
        rw [h.allocatedMemory]
        exact hk.sound.budget }
  tidy := by
    rw [h.ids, h.surfaceIds]
    exact hk.tidy
  sized := by
    rw [h.sizes]
    exact hk.sized

theorem Steady.sameAccounts (h : Steady s s') : SameAccounts s s' where
  surfaceIds := h.surfaceIds
  surfaces := h.surfaces
  surfaceMap := h.surfaceMap
  surfaceCount := h.surfaceCount
  allocatedMemory := h.allocatedMemory
  surfaceId := fun a => (congrArg VMIOSurface.surfaceId (h.still a) :)
  memorySize := fun a => (congrArg VMIOSurface.memorySize (h.still a) :)

theorem sameAccounts_setRecord {v : VMIOSurface} (hid : v.surfaceId = (s.records a).surfaceId)
    (hsize : v.memorySize = (s.records a).memorySize) : SameAccounts s (s.setRecord a v) := by
  refine ⟨rfl, rfl, rfl, rfl, rfl, fun b => ?_, fun b => ?_⟩
  · by_cases hb : b = a
    · subst hb
      rw [setRecord_records_self, hid]
    · rw [setRecord_records_of_ne hb]
  · by_cases hb : b = a
    · subst hb
      rw [setRecord_records_self, hsize]
    · rw [setRecord_records_of_ne hb]

theorem sameAccounts_convertSurfaceFormat {now source dest : Nat} {format : PixelFormat} :
    SameAccounts s (s.convertSurfaceFormat now format source dest).2 := by
  unfold convertSurfaceFormat
  split
  · exact (Steady.refl s).sameAccounts
  · exact sameAccounts_setRecord rfl rfl

/-- An update keeps the books unless it finds a buffer of another size. -/
theorem sameAccounts_updateSurfaceDescriptor {inPlace : Bool} {d : IOSurfaceDescriptor}
    {buffer : Option Nat} (h : ∀ a ∈ s.updated inPlace id,
      VMIOSurface.newSize d = (s.records a).memorySize ∨ buffer = none) :
    SameAccounts s (s.updateSurfaceDescriptor inPlace id d buffer).2 := by
  unfold updateSurfaceDescriptor
  split
  · exact (Steady.refl s).sameAccounts
  · rename_i a ha
    split
    · exact sameAccounts_setRecord rfl rfl
    · rename_i hne
      rcases h a ha with hsize | rfl
      · exact absurd hsize hne
      · obtain ⟨-, -, -, -, -, hid, hsize⟩ := sameAccounts_setRecord (s := s) (a := a)
          (v := { (s.records a).describeAs d with memory := none }) rfl rfl
        exact ⟨rfl, rfl, rfl, rfl, rfl, hid, hsize⟩

theorem sameAccounts_evictUnusedSurfaces {now limit : Nat} {enough : Bool}
    (hk : s.Kept) (h : enough = true → s.evictable now limit = []) :
    SameAccounts s (s.evictUnusedSurfaces now limit enough).2 := by
  unfold evictUnusedSurfaces
  split
  · exact (Steady.refl s).sameAccounts
  split
  · exact (Steady.refl s).sameAccounts
  · rename_i henough
    have hnone := h (Bool.not_eq_false _ ▸ henough)
    dsimp only
    rw [hnone]
    have hm : s.allocatedMemory < u64 :=
      Nat.lt_of_le_of_lt hk.sound.budget (by decide)
    refine ⟨rfl, rfl, rfl, rfl, sub64_of_le (Nat.zero_le _) hm, fun a => ?_, fun a => ?_⟩
    · dsimp only
      split <;> rfl
    · dsimp only
      split <;> rfl

/-! ### Creation and destruction -/

theorem tidy_releaseSurfaceId {live : List Nat} {ids : IdPool} {number : Bool}
    (h : IdPool.Tidy u32 (id :: live) ids) :
    IdPool.Tidy u32 live (releaseSurfaceId number id ids) := by
  unfold releaseSurfaceId
  rw [if_neg (Nat.ne_of_gt (h.pos List.mem_cons_self))]
  split
  · exact h.release
  · exact h.forget

/-- An object in the array or in the dictionary is in both. -/
theorem Sound.live_iff (h : s.Sound) : s.live a = true ↔ a ∈ s.surfaces := by
  unfold live
  rw [Bool.or_eq_true, decide_eq_true_eq, decide_eq_true_eq]
  refine ⟨?_, Or.inl⟩
  rintro (ha | ha)
  · exact ha
  · exact ((h.mapped _ a).mp ha).1

theorem pageAlign_lt {n : Nat} : IOSurfaceDescriptor.pageAlign n < u32 := by
  unfold IOSurfaceDescriptor.pageAlign
  rw [u32_eq]
  omega

theorem calculateSurfaceSize_lt {d : IOSurfaceDescriptor} : d.calculateSurfaceSize < u32 := by
  unfold IOSurfaceDescriptor.calculateSurfaceSize
  split
  · decide
  · exact pageAlign_lt

variable {d : IOSurfaceDescriptor} {env : CreateEnv} {p : Parts}

/-- The surfaces after one has entered, in the words of those before. -/
theorem register_spec (id : Nat) (d : IOSurfaceDescriptor) (pool : IdPool) (hs : s.Sound)
    (hnew : s.live p.data = false) (harray : env.arrayStored = true)
    (hmap : env.mapStored = true) :
    ({ s with surfaceIds := pool }.register id d env p).surfaces = s.surfaces ++ [p.data] ∧
    ({ s with surfaceIds := pool }.register id d env p).surfaceMap =
      Function.update s.surfaceMap id (some p.data) ∧
    p.data ∉ s.surfaces ∧
    ({ s with surfaceIds := pool }.register id d env p).ids = s.ids ++ [id] ∧
    ({ s with surfaceIds := pool }.register id d env p).sizes =
      s.sizes ++ [d.calculateSurfaceSize] := by
  have hmem : p.data ∉ s.surfaces := by
    intro h
    rw [hs.live_iff.mpr h] at hnew
    cases hnew
  have hold : ∀ a ∈ s.surfaces, Function.update s.records p.data
      (.make id env.now p.buffer d p.planes) a = s.records a := by
    intro a ha
    apply Function.update_of_ne
    rintro rfl
    exact hmem ha
  refine ⟨?_, ?_, hmem, ?_, ?_⟩
  · simp only [register, harray, if_true]
  · simp only [register, hmap, if_true]
  · simp only [ids, register, harray, if_true, List.map_append, List.map_cons, List.map_nil,
      Function.update_self]
    exact congrArg (· ++ [id]) (List.map_congr_left fun a ha => by rw [hold a ha])
  · simp only [sizes, register, harray, if_true, List.map_append, List.map_cons, List.map_nil,
      Function.update_self]
    exact congrArg (· ++ [d.calculateSurfaceSize]) (List.map_congr_left fun a ha => by
      rw [hold a ha])

theorem Kept.register {yuv : Bool} (h : s.Kept) (hr : s.refusal yuv d = none)
    (hu : s.surfaceIds.Unwrapped) (hnew : s.live p.data = false)
    (harray : env.arrayStored = true) (hmap : env.mapStored = true) :
    ({ s with surfaceIds := (s.surfaceIds.allocate u32).2 }.register
      (s.surfaceIds.allocate u32).1 d env p).Kept := by
  obtain ⟨hsurfaces, hsmap, hmem, hids, hsizes⟩ := register_spec
    (s.surfaceIds.allocate u32).1 d (s.surfaceIds.allocate u32).2 h.sound hnew harray hmap
  obtain ⟨-, -, hpos, hbudget⟩ := refusal_eq_none hr
  have htidy := h.tidy.allocate hu
  generalize (s.surfaceIds.allocate u32).1 = id at *
  generalize (s.surfaceIds.allocate u32).2 = pool at *
  have hperm : (s.ids ++ [id]).Perm (id :: s.ids) := List.perm_append_singleton id s.ids
  have hlen := h.length_le
  have hsum : (s.allocatedMemory + d.calculateSurfaceSize) % u64 =
      s.allocatedMemory + d.calculateSurfaceSize := by
    have hsize := calculateSurfaceSize_lt (d := d)
    have hb := h.sound.budget
    apply Nat.mod_eq_of_lt
    unfold totalMemory at hb
    unfold u32 at hsize
    unfold u64
    omega
  rw [hsum] at hbudget
  refine ⟨⟨?_, ?_, ?_, ?_, ?_, ?_⟩, ?_, ?_⟩
  · rw [hids]
    exact hperm.nodup_iff.mpr htidy.live_nodup
  · intro i hi
    rw [hids] at hi
    exact Nat.ne_of_gt (htidy.pos (hperm.mem_iff.mp hi))
  · intro i a
    rw [hsmap, hsurfaces, List.mem_append, List.mem_singleton]
    have hfresh : id ∉ s.ids := (List.nodup_cons.mp htidy.live_nodup).1
    have hself : (({ s with surfaceIds := pool }.register id d env p).records p.data).surfaceId =
        id := by
      rw [register_records_self]
      rfl
    by_cases ha : a = p.data
    · subst ha
      rw [hself, Function.update_apply]
      constructor
      · intro h'
        split at h'
        · rename_i hi
          exact ⟨Or.inr rfl, hi.symm⟩
        · exact absurd ((h.sound.mapped i p.data).mp h').1 hmem
      · rintro ⟨-, rfl⟩
        rw [if_pos rfl]
    · have hother : ({ s with surfaceIds := pool }.register id d env p).records a =
          s.records a := register_records_of_ne ha
      rw [hother, or_iff_left ha, ← h.sound.mapped, Function.update_apply]
      split
      · rename_i hi
        subst hi
        constructor
        · intro h'
          exact absurd (Option.some.inj h').symm ha
        · intro h'
          obtain ⟨ha', hid⟩ := (h.sound.mapped i a).mp h'
          exact absurd (List.mem_map.mpr ⟨a, ha', hid⟩) hfresh
      · exact Iff.rfl
  · rw [hsurfaces, List.length_append]
    show inc32 s.surfaceCount = _
    rw [h.sound.count, inc32_eq_succ]
    · rfl
    · unfold totalMemory at hbudget
      rw [u32_eq]
      omega
  · rw [hsizes, List.sum_append, List.sum_singleton, ← h.sound.memory]
    exact hsum
  · show (s.allocatedMemory + d.calculateSurfaceSize) % u64 ≤ totalMemory
    rw [hsum]
    exact hbudget
  · rw [hids]
    exact htidy.perm hperm.symm
  · intro n hn
    rw [hsizes, List.mem_append, List.mem_singleton] at hn
    rcases hn with hn | rfl
    · exact h.sized n hn
    · exact hpos

/-- The surfaces without one of them. -/
theorem remove_spec (number : Bool) (id : Nat) (hs : s.Sound) (ha : a ∈ s.surfaces) :
    s.ids.Perm ((s.records a).surfaceId :: (s.remove number id a).ids) ∧
    s.sizes.Perm ((s.records a).memorySize :: (s.remove number id a).sizes) := by
  have hperm := List.perm_cons_erase ha
  have hrest : ∀ b ∈ s.surfaces.erase a, (s.remove number id a).records b = s.records b := by
    intro b hb
    apply Function.update_of_ne
    rintro rfl
    exact hs.nodup_surfaces.not_mem_erase hb
  constructor
  · have hids : (s.remove number id a).ids =
        (s.surfaces.erase a).map fun b => (s.records b).surfaceId :=
      List.map_congr_left fun b hb => by rw [hrest b hb]
    rw [hids]
    exact hperm.map fun b => (s.records b).surfaceId
  · have hsizes : (s.remove number id a).sizes =
        (s.surfaces.erase a).map fun b => (s.records b).memorySize :=
      List.map_congr_left fun b hb => by rw [hrest b hb]
    rw [hsizes]
    exact hperm.map fun b => (s.records b).memorySize

theorem Kept.remove {number : Bool} (h : s.Kept) (ha : s.surfaceMap id = some a) :
    (s.remove number id a).Kept := by
  obtain ⟨hmem, hid⟩ := (h.sound.mapped id a).mp ha
  obtain ⟨hids, hsizes⟩ := remove_spec number id h.sound hmem
  rw [hid] at hids
  have hnodup := hids.nodup_iff.mp h.sound.nodup
  have hsum : s.sizes.sum = (s.records a).memorySize + (s.remove number id a).sizes.sum := by
    rw [hsizes.sum_nat, List.sum_cons]
  have hmemory : (s.remove number id a).allocatedMemory = (s.remove number id a).sizes.sum := by
    show sub64 s.allocatedMemory (s.records a).memorySize = _
    have hbudget : s.allocatedMemory < u64 := Nat.lt_of_le_of_lt h.sound.budget (by decide)
    have hbooks := h.sound.memory
    rw [sub64_of_le (by omega) hbudget]
    omega
  refine ⟨⟨?_, ?_, ?_, ?_, hmemory, ?_⟩, ?_, ?_⟩
  · exact (List.nodup_cons.mp hnodup).2
  · intro i hi
    exact h.sound.nonzero i (hids.mem_iff.mpr (List.mem_cons_of_mem id hi))
  · intro i b
    show Function.update s.surfaceMap id none i = some b ↔
      b ∈ s.surfaces.erase a ∧ ((s.remove number id a).records b).surfaceId = i
    rw [h.sound.nodup_surfaces.mem_erase_iff]
    by_cases hb : b = a
    · subst hb
      constructor
      · intro h'
        rw [Function.update_apply] at h'
        split at h'
        · cases h'
        · rename_i hi
          exact absurd (((h.sound.mapped i b).mp h').2.symm.trans hid) hi
      · rintro ⟨⟨hne, -⟩, -⟩
        exact absurd rfl hne
    · have hother : (s.remove number id a).records b = s.records b :=
        Function.update_of_ne hb ..
      rw [hother, and_iff_right hb, ← h.sound.mapped, Function.update_apply]
      split
      · rename_i hi
        subst hi
        rw [ha]
        exact ⟨fun h' => (by cases h'), fun h' => absurd (Option.some.inj h').symm hb⟩
      · exact Iff.rfl
  · show dec32 s.surfaceCount = (s.surfaces.erase a).length
    rw [h.sound.count, List.length_erase_of_mem hmem]
    exact dec32_of_pos (List.length_pos_of_mem hmem)
  · have hbudget := h.sound.budget
    have hbooks := h.sound.memory
    omega
  · exact tidy_releaseSurfaceId (h.tidy.perm hids)
  · intro n hn
    exact h.sized n (hsizes.mem_iff.mpr (List.mem_cons_of_mem _ hn))

end SurfaceStore

/-! ## Runs -/

namespace IOSurfaceManager
variable {cfg : IOSurfaceConfig} {m m' : IOSurfaceManager}

/-- The call does not upset the books. If it creates a surface, the counter of ids
has not come round and both collections have room for the surface; if it destroys
one, it is the one in the dictionary. An update finds a buffer of the right size
or gets none; nothing is evicted. -/
def BooksKept (cfg : IOSurfaceConfig) (m : IOSurfaceManager) : ManagerCall → Prop
  | .createSurface d env =>
      m.store.refusal cfg.yuv d = none → m.store.surfaceIds.Unwrapped ∧
        ((SurfaceStore.build d env).isOk = true → env.arrayStored = true ∧ env.mapStored = true)
  | .destroySurface _ id _ => m.served id = m.store.surfaceMap id
  | .updateSurfaceDescriptor id d buffer => ∀ a ∈ m.store.updated cfg.inPlace id,
      VMIOSurface.newSize d = (m.store.records a).memorySize ∨ buffer = none
  | .evictUnusedSurfaces now limit enough => enough = true → m.store.evictable now limit = []
  | _ => True

instance (cfg : IOSurfaceConfig) (m : IOSurfaceManager) : ∀ c, Decidable (m.BooksKept cfg c)
  | .createSurface d env =>
      inferInstanceAs (Decidable (m.store.refusal cfg.yuv d = none → m.store.surfaceIds.Unwrapped ∧
        ((SurfaceStore.build d env).isOk = true → env.arrayStored = true ∧ env.mapStored = true)))
  | .destroySurface _ id _ => inferInstanceAs (Decidable (m.served id = m.store.surfaceMap id))
  | .updateSurfaceDescriptor id d buffer =>
      inferInstanceAs (Decidable (∀ a ∈ m.store.updated cfg.inPlace id,
        VMIOSurface.newSize d = (m.store.records a).memorySize ∨ buffer = none))
  | .evictUnusedSurfaces now limit enough =>
      inferInstanceAs (Decidable (enough = true → m.store.evictable now limit = []))
  | .findSurface .. | .getSurfaceDescriptor .. | .convertSurfaceFormat .. | .lockSurface ..
  | .unlockSurface .. | .lockSurfacePlane .. | .unlockSurfacePlane .. | .compactSurfaceMemory ..
  | .registerClient .. | .unregisterClient .. | .shareSurface .. | .unshareSurface ..
  | .canClientAccessSurface .. => isTrue trivial

/-- In addition, the call uses no object that was freed. -/
def KeepsAccounts (cfg : IOSurfaceConfig) (m : IOSurfaceManager) (c : ManagerCall) : Prop :=
  m.Tame c ∧ m.BooksKept cfg c

instance (cfg : IOSurfaceConfig) (m : IOSurfaceManager) (c : ManagerCall) :
    Decidable (m.KeepsAccounts cfg c) :=
  inferInstanceAs (Decidable (m.Tame c ∧ m.BooksKept cfg c))

/-- The books are right, and no freed object was used. -/
structure Accounted (m : IOSurfaceManager) : Prop where
  sound : m.store.Sound
  tame : m.wild = false

theorem kept_step {c : ManagerCall} (h : m.store.Kept) (hC : m.KeepsAccounts cfg c)
    (hs : m.step cfg c = some m') : m'.store.Kept := by
  have he := (step_effect hs).store
  have hsame : SurfaceStore.SameAccounts m.store m'.store → m'.store.Kept := h.same
  have hrefl : SurfaceStore.SameAccounts m.store m.store :=
    (SurfaceStore.Steady.refl m.store).sameAccounts
  obtain ⟨-, hC⟩ := hC
  cases c with
  | createSurface d env =>
      have hp := (step_eq_some hs).1
      rcases SurfaceStore.createSurface_cases m.store cfg.yuv d env with
        ⟨r, hr⟩ | ⟨r, href, -, hr⟩ | ⟨p, href, hb, hr⟩
      · rw [he, hr]
        exact h
      · obtain ⟨hu, -⟩ := hC href
        rw [he, hr]
        exact ⟨⟨h.sound.nodup, h.sound.nonzero, h.sound.mapped, h.sound.count, h.sound.memory,
          h.sound.budget⟩, SurfaceStore.tidy_releaseSurfaceId (h.tidy.allocate hu), h.sized⟩
      · obtain ⟨hu, hstored⟩ := hC href
        obtain ⟨harray, hmap⟩ := hstored (by rw [hb]; rfl)
        rw [he, hr]
        exact h.register href hu (hp.2 p.data (SurfaceStore.build_eq_ok hb).1) harray hmap
  | destroySurface now id number =>
      rcases he with he | ⟨a, ha, -, he⟩
      · exact hsame (he ▸ hrefl)
      · rcases SurfaceStore.destroySurface_cases m.store number id a with ⟨-, hd⟩ | ⟨-, hd⟩
        · exact hsame (he ▸ hd.sameAccounts)
        · rw [he, hd]
          exact h.remove (hC.symm.trans ha)
  | convertSurfaceFormat now now' source dest format =>
      rcases he with he | ⟨a, b, -, -, -, -, -, he⟩
      · exact hsame (he ▸ hrefl)
      · exact hsame (he ▸ SurfaceStore.sameAccounts_convertSurfaceFormat)
  | lockSurface now id readOnly =>
      rcases he with he | ⟨a, -, -, he⟩
      · exact hsame (he ▸ hrefl)
      · exact hsame (he ▸ SurfaceStore.steady_lockSurface.sameAccounts)
  | unlockSurface now id =>
      rcases he with he | ⟨a, -, -, he⟩
      · exact hsame (he ▸ hrefl)
      · exact hsame (he ▸ SurfaceStore.steady_unlockSurface.sameAccounts)
  | lockSurfacePlane now id plane =>
      rcases he with he | ⟨a, -, -, he⟩
      · exact hsame (he ▸ hrefl)
      · exact hsame (he ▸ SurfaceStore.steady_lockSurfacePlane.sameAccounts)
  | unlockSurfacePlane now id plane =>
      rcases he with he | ⟨a, -, -, he⟩
      · exact hsame (he ▸ hrefl)
      · exact hsame (he ▸ SurfaceStore.steady_unlockSurfacePlane.sameAccounts)
  | updateSurfaceDescriptor id d buffer =>
      exact hsame (he ▸ SurfaceStore.sameAccounts_updateSurfaceDescriptor hC)
  | evictUnusedSurfaces now limit enough =>
      exact hsame (he ▸ SurfaceStore.sameAccounts_evictUnusedSurfaces h hC)
  | _ => exact hsame (he ▸ hrefl)

/-- **The books are right** in every run whose calls do not upset them. -/
theorem accounts_right (cfg : IOSurfaceConfig) (calls : List ManagerCall)
    (hC : (machine cfg).Along (KeepsAccounts cfg) start calls) :
    (machine cfg).Always Accounted start calls := by
  have hkept : (machine cfg).Always (fun m => m.store.Kept ∧ m.wild = false) start calls := by
    refine (machine cfg).always_of_along (fun m c m' h hc hs => ?_)
      ⟨SurfaceStore.kept_start, rfl⟩ hC
    exact ⟨kept_step h.1 hc hs, (step_wild hc.1 hs).trans h.2⟩
  exact hkept.imp _ fun m h => ⟨h.1.sound, h.2⟩

/-- Two surfaces, a third one under the id of the first, and an eviction that
finds nothing to evict. -/
theorem accounts_right_three :
    (machine ⟨true, true⟩).Always Accounted start
      [.createSurface (.plain .bgra32 4 4) (.granted 1 1 1),
        .createSurface (.plain .rgba32 64 64) (.granted 2 2 2),
        .compactSurfaceMemory fun _ => 2, .destroySurface 3 1 true,
        .createSurface (.plain .argb32 8 8) (.granted 3 3 3), .lockSurface 4 2 false,
        .destroySurface 5 2 true,
        .updateSurfaceDescriptor 2 { IOSurfaceDescriptor.plain .rgba32 64 64 with depth := 1 } none,
        .evictUnusedSurfaces 6 0 true] :=
  accounts_right _ _ (by decide)

/-- An evicted surface stays, with its bytes off the account. -/
theorem accounts_wrong :
    ¬ ∀ (cfg : IOSurfaceConfig) (calls : List ManagerCall),
      (machine cfg).Always Accounted start calls := by
  intro h
  have hrun := h ⟨true, false⟩ [.createSurface (.plain .bgra32 4 4) (.granted 1 1 1),
    .evictUnusedSurfaces 100000000000000000 0 true]
  obtain ⟨m, hm, hwrong⟩ := hrun.of_any _ (p := fun m : IOSurfaceManager =>
    decide (m.store.allocatedMemory ≠ m.store.sizes.sum)) (by decide)
  exact of_decide_eq_true hwrong hm.sound.memory

end IOSurfaceManager

end VMQemuVGA
