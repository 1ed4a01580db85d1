import VMQemuVGA.IOSurface.CacheKeeping

/-! # How old an answer can be

The caches are not told when a surface goes or changes. What can be said of an answer is how
far it reaches back: not behind the last flush, and for a descriptor not behind the last
moment at which the property cache had no entry for the surface that counts. -/

namespace VMQemuVGA

open Lookaside

/-! ## What enters the discovery cache -/

namespace SurfaceCache
variable {c c' : SurfaceCache} {map : Nat → Option Nat} {now id : Nat}

/-- Nothing enters the cache that neither the cache nor the dictionary says. -/
abbrev Leaves (map : Nat → Option Nat) (c c' : SurfaceCache) : Prop :=
  Discovery.Leaves map c.discovery c'.discovery

theorem findSurface_fst : (c.findSurface now id map).1 = c.discovery.served map id := by
  have h : (c.discovery.findSurface now id map).1 = c.discovery.served map id :=
    Discovery.findSurface_fst
  rw [findSurface_discovery] at h
  exact h

theorem leaves_findSurface : Leaves map c (c.findSurface now id map).2 := by
  have h : Discovery.Leaves map c.discovery (c.discovery.findSurface now id map).2 :=
    Discovery.leaves_findSurface
  rw [findSurface_discovery] at h
  exact h

theorem leaves_flushDiscoveryCache : Leaves map c c.flushDiscoveryCache :=
  fun _ he => absurd he List.not_mem_nil

theorem leaves_optimizeDiscoveryCache : Leaves map c c.optimizeDiscoveryCache := by
  intro e he
  have hperm := (BubbleSort.sort_perm SurfaceCacheEntry.accessCount c.entries).map
    SurfaceCacheEntry.toDiscoveryEntry
  exact .inl ⟨e, hperm.mem_iff.mp he, rfl, rfl⟩

theorem leaves_prewarmed : Leaves map c (c.prewarmed map id) := by
  unfold prewarmed
  split
  · split
    · exact Sourced.refl
    · cases ha : map id with
      | none => exact Sourced.refl
      | some a =>
          unfold Leaves Discovery.Leaves discovery
          rw [List.map_append]
          exact Sourced.concat ha
  · exact Sourced.refl

theorem leaves_prewarmDiscoveryCache {ids : List Nat} :
    Leaves map c (c.prewarmDiscoveryCache map ids).2 := by
  have hfold : Leaves map c (ids.foldl (prewarmed map) c) := by
    induction ids generalizing c with
    | nil => exact Sourced.refl
    | cons i ids ih => exact leaves_prewarmed.trans ih
  unfold prewarmDiscoveryCache
  split
  · exact Sourced.refl
  · exact hfold

end SurfaceCache

/-! ## What enters the property cache -/

namespace PropertyCacheEntry
variable {now id : Nat} {own : IOSurfaceDescriptor} {cache : List PropertyCacheEntry}
  {e : PropertyCacheEntry}

theorem lookup_eq_some (h : lookup id cache = some e) :
    e ∈ cache ∧ e.surfaceId = id ∧ e.isValidated = true := by
  have hfound := List.find?_some h
  rw [Bool.and_eq_true, decide_eq_true_eq] at hfound
  exact ⟨List.mem_of_find?_eq_some h, hfound.1, hfound.2⟩

theorem lookup_eq_none_iff :
    lookup id cache = none ↔ ∀ e ∈ cache, e.surfaceId = id → e.isValidated = false := by
  unfold lookup
  rw [List.find?_eq_none]
  simp only [Bool.and_eq_true, decide_eq_true_eq, not_and, Bool.not_eq_true]

/-- An entry repeats another that counted already, if it does, or it is the new one. -/
def Repeats (cache : List PropertyCacheEntry) (id : Nat) (own : IOSurfaceDescriptor)
    (e : PropertyCacheEntry) : Prop :=
  (∃ e' ∈ cache, e'.surfaceId = e.surfaceId ∧ e'.descriptor = e.descriptor ∧
    (e.isValidated = true → e'.isValidated = true)) ∨ e.surfaceId = id ∧ e.descriptor = own

theorem repeats_of_mem (h : e ∈ cache) : Repeats cache id own e :=
  .inl ⟨e, h, rfl, rfl, fun hv => hv⟩

theorem repeats_of_mem_insert (h : e ∈ insert now id own cache) : Repeats cache id own e := by
  unfold insert at h
  split at h
  · rcases List.mem_append.mp h with h | h
    · exact repeats_of_mem h
    · rw [List.mem_singleton.mp h]
      exact .inr ⟨rfl, rfl⟩
  · rcases List.mem_or_eq_of_mem_set h with h | rfl
    · exact repeats_of_mem h
    · exact .inr ⟨rfl, rfl⟩

theorem repeats_of_mem_modifyFirst {f : PropertyCacheEntry → PropertyCacheEntry}
    (hid : ∀ e, (f e).surfaceId = e.surfaceId) (hd : ∀ e, (f e).descriptor = e.descriptor)
    (hv : ∀ e, (f e).isValidated = e.isValidated) (h : e ∈ modifyFirst id f cache) :
    ∃ e' ∈ cache, e'.surfaceId = e.surfaceId ∧ e'.descriptor = e.descriptor ∧
      e'.isValidated = e.isValidated := by
  rcases FirstMatch.mem_modify h with h | ⟨a, ha, -, rfl⟩
  · exact ⟨e, h, rfl, rfl, rfl⟩
  · exact ⟨a, ha, (hid a).symm, (hd a).symm, (hv a).symm⟩

theorem repeats_of_mem_serve (h : e ∈ (serve now id own cache).2) : Repeats cache id own e := by
  unfold serve at h
  split at h
  · exact repeats_of_mem_insert h
  · split at h
    · rcases repeats_of_mem_insert h with ⟨e', he', hid, hd, hv⟩ | hnew
      · obtain ⟨e'', he'', hid', hd', hv'⟩ := repeats_of_mem_modifyFirst
          (f := fun e => { e with needsRefresh := false }) (fun _ => rfl) (fun _ => rfl)
          (fun _ => rfl) he'
        exact .inl ⟨e'', he'', hid'.trans hid, hd'.trans hd, fun h => hv'.trans (hv h)⟩
      · exact .inr hnew
    · obtain ⟨e', he', hid, hd, hv⟩ := repeats_of_mem_modifyFirst
        (f := fun e => { e with lastAccessTime := now, accessCount := inc32 e.accessCount })
        (fun _ => rfl) (fun _ => rfl) (fun _ => rfl) h
      exact .inl ⟨e', he', hid, hd, fun h => hv.trans h⟩

/-- The answer is an entry's, or it has just been worked out. -/
theorem serve_fst_cases (now id : Nat) (own : IOSurfaceDescriptor)
    (cache : List PropertyCacheEntry) :
    (serve now id own cache).1 = own ∨ ∃ e, lookup id cache = some e ∧
      e.needsRefresh = false ∧ (serve now id own cache).1 = e.descriptor := by
  unfold serve
  cases he : lookup id cache with
  | none => exact .inl rfl
  | some e =>
      dsimp only
      cases hr : e.needsRefresh with
      | true => exact .inl rfl
      | false => exact .inr ⟨e, rfl, hr, rfl⟩

end PropertyCacheEntry

/-! ## Steps -/

namespace CachedSurfaces
variable {w w' w'' u v : CachedSurfaces} {now found id a : Nat} {d : IOSurfaceDescriptor}
  {c : CacheCall} {calls : List CacheCall}

/-- Lookups have been made, and nothing has happened to the surfaces. -/
structure LookedUp (w w' : CachedSurfaces) : Prop where
  leaves : SurfaceCache.Leaves w.surfaceMap w.surfaceCache w'.surfaceCache
  surfaceMap : w'.surfaceMap = w.surfaceMap
  described : w'.described = w.described

theorem LookedUp.refl (w : CachedSurfaces) : LookedUp w w := ⟨Sourced.refl, rfl, rfl⟩

theorem LookedUp.trans (h : LookedUp u v) (h' : LookedUp v w) : LookedUp u w where
  leaves := h.leaves.trans (h.surfaceMap ▸ h'.leaves)
  surfaceMap := h'.surfaceMap.trans h.surfaceMap
  described := h'.described.trans h.described

theorem lookedUp_findSurface (now id : Nat) (w : CachedSurfaces) :
    LookedUp w (w.findSurface now id).2 :=
  ⟨SurfaceCache.leaves_findSurface, rfl, rfl⟩

/-- The cache or the dictionary has this object for the id. -/
def Knows (w : CachedSurfaces) (id a : Nat) : Prop :=
  (∃ e ∈ w.surfaceCache.discovery.entries, e.surfaceId = id ∧ e.object = a) ∨
    w.surfaceMap id = some a

theorem LookedUp.knows (h : LookedUp w w') (hk : w'.Knows id a) : w.Knows id a := by
  rcases hk with ⟨e, he, rfl, rfl⟩ | hmap
  · rcases h.leaves e he with ⟨e', he', hid, hobject⟩ | hmap
    · exact .inl ⟨e', he', hid, hobject⟩
    · exact .inr hmap
  · exact .inr (h.surfaceMap ▸ hmap)

theorem knows_of_findSurface (h : (w.findSurface now id).1 = some a) : w.Knows id a := by
  have hserved : w.surfaceCache.discovery.served w.surfaceMap id = some a :=
    SurfaceCache.findSurface_fst.symm.trans h
  unfold Discovery.served at hserved
  split at hserved
  · unfold serve at hserved
    cases hheld : held DiscoveryEntry.surfaceId DiscoveryEntry.object
        w.surfaceCache.discovery.entries id with
    | some b =>
        rw [hheld] at hserved
        cases hserved
        exact .inl (held_eq_some hheld)
    | none =>
        rw [hheld] at hserved
        exact .inr hserved
  · cases hserved

theorem getSurfaceDescriptor_eq (now found id : Nat) (w : CachedSurfaces) :
    w.getSurfaceDescriptor now found id =
      if id = 0 then some (.error .badArgument, w)
      else
        match (w.findSurface found id).1 with
        | none => some (.error .notFound, (w.findSurface found id).2)
        | some a =>
            (w.described a).map fun own =>
              (.ok (PropertyCacheEntry.serve now id own w.propertyCache).1,
                { (w.findSurface found id).2 with
                  propertyCache := (PropertyCacheEntry.serve now id own w.propertyCache).2 }) := by
  unfold getSurfaceDescriptor
  have hpair : w.findSurface found id =
      ((w.findSurface found id).1, (w.findSurface found id).2) := rfl
  rw [hpair]
  cases (w.findSurface found id).1 <;> rfl

/-- How `getSurfaceDescriptor` ends. -/
theorem getSurfaceDescriptor_cases {r : Except IOReturn IOSurfaceDescriptor × CachedSurfaces}
    (h : w.getSurfaceDescriptor now found id = some r) :
    r.2 = w ∧ r.1 = .error .badArgument ∨
    r.2 = (w.findSurface found id).2 ∧ r.1 = .error .notFound ∨
    ∃ a own, (w.findSurface found id).1 = some a ∧ w.described a = some own ∧
      r.1 = .ok (PropertyCacheEntry.serve now id own w.propertyCache).1 ∧
      r.2 = { (w.findSurface found id).2 with
        propertyCache := (PropertyCacheEntry.serve now id own w.propertyCache).2 } := by
  rw [getSurfaceDescriptor_eq] at h
  split at h
  · cases h
    exact .inl ⟨rfl, rfl⟩
  · cases hfound : (w.findSurface found id).1 with
    | none =>
        rw [hfound] at h
        cases h
        exact .inr (.inl ⟨rfl, rfl⟩)
    | some a =>
        rw [hfound] at h
        obtain ⟨own, hown, rfl⟩ := Option.map_eq_some_iff.mp h
        exact .inr (.inr ⟨a, own, rfl, hown, rfl, rfl⟩)

/-- An entry of the property cache that counts. -/
def Counts (w : CachedSurfaces) (id : Nat) (d : IOSurfaceDescriptor) : Prop :=
  ∃ e ∈ w.propertyCache, e.surfaceId = id ∧ e.isValidated = true ∧ e.descriptor = d

/-- What counts now did so before, or it is what an object says that was known. -/
def Describes (w w' : CachedSurfaces) : Prop :=
  ∀ id d, w'.Counts id d → w.Counts id d ∨ ∃ a, w.Knows id a ∧ w.described a = some d

theorem Describes.trans (hlook : LookedUp u v) (h : Describes u v) (h' : Describes v w) :
    Describes u w := by
  intro id d hd
  rcases h' id d hd with hd | ⟨a, ha, hown⟩
  · exact h id d hd
  · exact .inr ⟨a, hlook.knows ha, hlook.described ▸ hown⟩

theorem getSurfaceDescriptor_spec {r : Except IOReturn IOSurfaceDescriptor × CachedSurfaces}
    (h : w.getSurfaceDescriptor now found id = some r) : LookedUp w r.2 ∧ Describes w r.2 := by
  rcases getSurfaceDescriptor_cases h with ⟨hr, -⟩ | ⟨hr, -⟩ | ⟨a, own, hfound, hown, -, hr⟩
  · rw [hr]
    exact ⟨.refl w, fun _ _ hd => .inl hd⟩
  · rw [hr]
    exact ⟨lookedUp_findSurface found id w, fun _ _ hd => .inl hd⟩
  · rw [hr]
    refine ⟨⟨SurfaceCache.leaves_findSurface, rfl, rfl⟩, ?_⟩
    rintro i d ⟨e, he, rfl, hv, rfl⟩
    rcases PropertyCacheEntry.repeats_of_mem_serve he with ⟨e', he', hid, hd, hv'⟩ | ⟨rfl, hd⟩
    · exact .inl ⟨e', he', hid, hv' hv, hd⟩
    · rw [hd]
      exact .inr ⟨a, knows_of_findSurface hfound, hown⟩

theorem prewarmProperties_spec {ps : List Prewarming} (h : w.prewarmProperties ps = some w') :
    LookedUp w w' ∧ Describes w w' := by
  have hrefl : LookedUp w w ∧ Describes w w := ⟨.refl w, fun _ _ hd => .inl hd⟩
  induction ps generalizing w with
  | nil =>
      cases h
      exact hrefl
  | cons p ps ih =>
      rw [prewarmProperties] at h
      split at h
      · split at h
        · exact ih h hrefl
        · obtain ⟨r, hr, hrest⟩ := Option.bind_eq_some_iff.mp h
          obtain ⟨hlook, hdescribe⟩ := getSurfaceDescriptor_spec hr
          obtain ⟨hlook', hdescribe'⟩ := ih hrest ⟨.refl r.2, fun _ _ hd => .inl hd⟩
          exact ⟨hlook.trans hlook', hdescribe.trans hlook hdescribe'⟩
      · cases h
        exact hrefl

/-- What a step may bring into the caches. -/
theorem step_spec (h : machine.step w c = some w') :
    SurfaceCache.Leaves w.surfaceMap w.surfaceCache w'.surfaceCache ∧ Describes w w' := by
  cases c with
  | findSurface now id =>
      cases h
      exact ⟨SurfaceCache.leaves_findSurface, fun _ _ hd => .inl hd⟩
  | getSurfaceDescriptor now found id =>
      obtain ⟨r, hr, rfl⟩ := Option.map_eq_some_iff.mp h
      exact ⟨(getSurfaceDescriptor_spec hr).1.leaves, (getSurfaceDescriptor_spec hr).2⟩
  | flushDiscoveryCache =>
      cases h
      exact ⟨SurfaceCache.leaves_flushDiscoveryCache, fun _ _ hd => .inl hd⟩
  | prewarmDiscoveryCache ids =>
      cases h
      exact ⟨SurfaceCache.leaves_prewarmDiscoveryCache, fun _ _ hd => .inl hd⟩
  | optimizeDiscoveryCache =>
      cases h
      exact ⟨SurfaceCache.leaves_optimizeDiscoveryCache, fun _ _ hd => .inl hd⟩
  | resetDiscoveryStatistics =>
      cases h
      exact ⟨Sourced.refl, fun _ _ hd => .inl hd⟩
  | flushPropertyCache =>
      cases h
      refine ⟨Sourced.refl, ?_⟩
      rintro i d ⟨e, he, -⟩
      exact absurd he List.not_mem_nil
  | invalidatePropertyCache id =>
      cases h
      refine ⟨Sourced.refl, ?_⟩
      rintro i d ⟨e, he, hid, hv, hd⟩
      rcases FirstMatch.mem_modify he with he | ⟨e', -, -, rfl⟩
      · exact .inl ⟨e, he, hid, hv, hd⟩
      · cases hv
  | prewarmPropertyCache ps =>
      exact ⟨(prewarmProperties_spec h).1.leaves, (prewarmProperties_spec h).2⟩
  | optimizePropertyCache =>
      cases h
      refine ⟨Sourced.refl, ?_⟩
      rintro i d ⟨e, he, hd⟩
      exact .inl ⟨e, (BubbleSort.sort_perm _ _).mem_iff.mp he, hd⟩
  | surfaces surfaceMap described =>
      cases h
      exact ⟨Sourced.refl, fun _ _ hd => .inl hd⟩

/-! ## Runs -/

/-- An object that is known was in the dictionary, some time after the cache had no entry for
its id. -/
theorem known_since (hempty : ∀ e ∈ w.surfaceCache.entries, e.surfaceId ≠ id)
    (hrun : machine.run w calls = some u) (hknown : u.Knows id a) :
    ∃ before after v, calls = before ++ after ∧ machine.run w before = some v ∧
      machine.run v after = some u ∧ v.surfaceMap id = some a := by
  rcases hknown with hcached | hmap
  · have hstart : ¬ ∃ e ∈ w.surfaceCache.discovery.entries, e.surfaceId = id ∧ e.object = a := by
      rintro ⟨_, he, hid, -⟩
      obtain ⟨e, hmem, rfl⟩ := List.mem_map.mp he
      exact hempty e hmem hid
    obtain ⟨before, c, after, v, v', rfl, hbefore, hstep, hafter, hnot, e, he, rfl, rfl⟩ :=
      machine.exists_origin (P := fun w : CachedSurfaces =>
        ∃ e ∈ w.surfaceCache.discovery.entries, e.surfaceId = id ∧ e.object = a) hrun hstart hcached
    refine ⟨before, c :: after, v, rfl, hbefore, ?_, ?_⟩
    · exact machine.run_cons_eq_some.mpr ⟨v', hstep, hafter⟩
    rcases (step_spec hstep).1 e he with ⟨e', he', hid, hobject⟩ | hmap
    · exact absurd ⟨e', he', hid, hobject⟩ hnot
    · exact hmap
  · exact ⟨calls, [], u, (List.append_nil _).symm, hrun, rfl, hmap⟩

/-- **What `findSurface` answers, the dictionary has said since the last flush**, whatever
has become of the surfaces in between. -/
theorem findSurface_since_flush (hid : Discovery.Searched id)
    (hrun : machine.run w (.flushDiscoveryCache :: calls) = some w') :
    ∃ before after u, calls = before ++ after ∧
      machine.run w (.flushDiscoveryCache :: before) = some u ∧
      (w'.findSurface now id).1 = u.surfaceMap id := by
  cases hanswer : (w'.findSurface now id).1 with
  | some a =>
      obtain ⟨before, after, u, hcalls, hbefore, -, hmap⟩ := known_since
        (fun _ he => absurd he List.not_mem_nil) ((machine.run_cons_some rfl).symm.trans hrun)
        (knows_of_findSurface hanswer)
      exact ⟨before, after, u, hcalls, (machine.run_cons_some rfl).trans hbefore, hmap.symm⟩
  | none =>
      -- nothing is answered only if the dictionary has nothing now
      have hserved : w'.surfaceCache.discovery.served w'.surfaceMap id = none :=
        SurfaceCache.findSurface_fst.symm.trans hanswer
      unfold Discovery.served at hserved
      rw [if_pos hid, serve_eq_none_iff] at hserved
      exact ⟨calls, [], w', (List.append_nil _).symm, hrun, hserved.2.symm⟩

/-- The dictionary has lost the id in the meantime. -/
theorem findSurface_since_flush_at_seven : ∃ w' before after u,
    machine.run start [.flushDiscoveryCache, .surfaces (fun _ => some 4096) (fun _ => none),
      .findSurface 1 7, .surfaces (fun _ => none) (fun _ => none)] = some w' ∧
    [.surfaces (fun _ => some 4096) (fun _ => none), .findSurface 1 7,
      .surfaces (fun _ => none) (fun _ => none)] = before ++ after ∧
    machine.run start (.flushDiscoveryCache :: before) = some u ∧
    (w'.findSurface 2 7).1 = some 4096 ∧ u.surfaceMap 7 = some 4096 := by
  have hrun : machine.run start [.flushDiscoveryCache,
      .surfaces (fun _ => some 4096) (fun _ => none), .findSurface 1 7,
      .surfaces (fun _ => none) (fun _ => none)] = some _ := rfl
  obtain ⟨before, after, u, hcalls, hbefore, hmap⟩ :=
    @findSurface_since_flush start _ 2 7 _ (by decide) hrun
  exact ⟨_, before, after, u, hrun, hcalls, hbefore, rfl, hmap.symm⟩

/-- **A descriptor is what an object has said that the dictionary had for the id**, both some
time after the caches had nothing for the id that counts. -/
theorem getSurfaceDescriptor_since (hsurface : ∀ e ∈ w.surfaceCache.entries, e.surfaceId ≠ id)
    (hproperty : PropertyCacheEntry.lookup id w.propertyCache = none)
    (hrun : machine.run w calls = some w')
    (h : w'.getSurfaceDescriptor now found id = some (.ok d, w'')) :
    ∃ as bs cs u v a, calls = as ++ (bs ++ cs) ∧ machine.run w as = some u ∧
      machine.run u bs = some v ∧ u.surfaceMap id = some a ∧ v.described a = some d := by
  -- the descriptor comes from an object that is known, now or at an earlier step
  have horigin : ∃ before after v a, calls = before ++ after ∧ machine.run w before = some v ∧
      v.Knows id a ∧ v.described a = some d := by
    rcases getSurfaceDescriptor_cases h with ⟨-, he⟩ | ⟨-, he⟩ | ⟨a, own, hfound, hown, hok, -⟩
    · cases he
    · cases he
    · cases hok
      rcases PropertyCacheEntry.serve_fst_cases now id own w'.propertyCache with
        hserve | ⟨e, he, -, hserve⟩
      · rw [hserve]
        exact ⟨calls, [], w', a, (List.append_nil _).symm, hrun, knows_of_findSurface hfound, hown⟩
      · rw [hserve]
        obtain ⟨hmem, heid, hv⟩ := PropertyCacheEntry.lookup_eq_some he
        have hstart : ¬ w.Counts id e.descriptor := by
          rintro ⟨e', he', hid', hv', -⟩
          rw [PropertyCacheEntry.lookup_eq_none_iff.mp hproperty e' he' hid'] at hv'
          cases hv'
        obtain ⟨before, c, after, v, v', rfl, hbefore, hstep, -, hnot, hcounts⟩ :=
          machine.exists_origin (P := fun w : CachedSurfaces => w.Counts id e.descriptor) hrun
            hstart ⟨e, hmem, heid, hv, rfl⟩
        rcases (step_spec hstep).2 id e.descriptor hcounts with hcounts | ⟨b, hknows, hown'⟩
        · exact absurd hcounts hnot
        · exact ⟨before, c :: after, v, b, rfl, hbefore, hknows, hown'⟩
  obtain ⟨before, after, v, a, rfl, hbefore, hknows, hown⟩ := horigin
  obtain ⟨as, bs, u, rfl, has, hbs, hmap⟩ := known_since hsurface hbefore hknows
  exact ⟨as, bs, after, u, v, a, List.append_assoc as bs after, has, hbs, hmap, hown⟩

/-- What was cached before the surface changed. -/
theorem getSurfaceDescriptor_since_at_seven :
    ∃ w' w'' as cs u v a, ∃ bs : List CacheCall,
      machine.run start [.surfaces (fun _ => some 4096) (fun _ => some .zero),
        .getSurfaceDescriptor 1 2 7,
        .surfaces (fun _ => none) (fun _ => some { IOSurfaceDescriptor.zero with width := 64 })] =
          some w' ∧
      w'.getSurfaceDescriptor 3 4 7 = some (.ok .zero, w'') ∧
      [.surfaces (fun _ => some 4096) (fun _ => some .zero), .getSurfaceDescriptor 1 2 7,
        .surfaces (fun _ => none) (fun _ => some { IOSurfaceDescriptor.zero with width := 64 })] =
          as ++ (bs ++ cs) ∧
      machine.run start as = some u ∧ machine.run u bs = some v ∧
      u.surfaceMap 7 = some a ∧ v.described a = some .zero := by
  have hrun : machine.run start [.surfaces (fun _ => some 4096) (fun _ => some .zero),
      .getSurfaceDescriptor 1 2 7,
      .surfaces (fun _ => none) (fun _ => some { IOSurfaceDescriptor.zero with width := 64 })] =
        some _ := rfl
  obtain ⟨as, bs, cs, u, v, a, hrest⟩ := @getSurfaceDescriptor_since start _ _ 3 4 7 .zero _
    (fun _ he => absurd he List.not_mem_nil) rfl hrun rfl
  exact ⟨_, _, as, cs, u, v, a, bs, hrun, rfl, hrest⟩

end CachedSurfaces

end VMQemuVGA
