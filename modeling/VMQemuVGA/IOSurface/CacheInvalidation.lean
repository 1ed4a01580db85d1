import VMQemuVGA.IOSurface.CacheFreshness

/-! # Invalidation

`invalidatePropertyCache` marks the first entry of an id, whether it counts or not. A lookup
that finds no entry that counts leaves the marked one where it is and adds another behind it,
and from then on the marked one is in front. -/

namespace VMQemuVGA

/-! ## The array of the discovery cache -/

namespace SurfaceCache
variable {c : SurfaceCache} {now id a : Nat} {map : Nat → Option Nat}

theorem length_prefetched (h : c.entries.length ≤ 64) :
    (c.prefetched now id map).entries.length ≤ 64 := by
  unfold prefetched
  split
  next hroom =>
    cases map (id + 1) with
    | none => exact h
    | some a =>
        show (c.entries ++ [_]).length ≤ 64
        rw [List.length_append, List.length_singleton]
        exact hroom.2.2
  next => exact h

theorem length_inserted (h : c.entries.length ≤ 64) :
    (c.inserted now id a).entries.length ≤ 64 := by
  unfold inserted
  split
  next hroom =>
    show (c.entries ++ [_]).length ≤ 64
    rw [List.length_append, List.length_singleton]
    exact hroom
  next =>
    show (c.entries.set _ _).length ≤ 64
    rw [List.length_set]
    exact h

theorem entries_counted : (c.counted id).entries = c.entries := by
  unfold counted
  split <;> rfl

theorem entries_adapted : c.adapted.entries = c.entries := by
  unfold adapted
  repeat' split
  all_goals rfl

theorem length_findSurface (h : c.entries.length ≤ 64) :
    (c.findSurface now id map).2.entries.length ≤ 64 := by
  unfold findSurface
  split
  · cases c.entries.find? fun e => decide (e.surfaceId = id) with
    | some e =>
        simp only [entries_counted]
        exact le_of_eq_of_le (FirstMatch.length_modify _ _ c.entries) h
    | none =>
        cases map id with
        | none => exact length_prefetched (c := c.looked) h
        | some a =>
            simp only [entries_adapted, entries_counted]
            exact length_inserted (length_prefetched (c := c.looked) h)
  · exact h

theorem length_prewarmed (h : c.entries.length ≤ 64) :
    (c.prewarmed map id).entries.length ≤ 64 := by
  unfold prewarmed
  split
  next hroom =>
    split
    · exact h
    · cases map id with
      | none => exact h
      | some a =>
          show (c.entries ++ [_]).length ≤ 64
          rw [List.length_append, List.length_singleton]
          exact hroom
  next => exact h

theorem length_prewarmDiscoveryCache {ids : List Nat} (h : c.entries.length ≤ 64) :
    (c.prewarmDiscoveryCache map ids).2.entries.length ≤ 64 := by
  have hfold : (ids.foldl (prewarmed map) c).entries.length ≤ 64 := by
    induction ids generalizing c with
    | nil => exact h
    | cons i ids ih => exact ih (length_prewarmed h)
  unfold prewarmDiscoveryCache
  split
  · exact h
  · exact hfold

end SurfaceCache

/-! ## Entries that count -/

namespace PropertyCacheEntry
variable {now id : Nat} {own : IOSurfaceDescriptor} {cache : List PropertyCacheEntry}
  {e x : PropertyCacheEntry} {i : Nat} {d : IOSurfaceDescriptor}

/-- At most one entry of an id counts. -/
abbrev Distinct (a b : PropertyCacheEntry) : Prop :=
  a.isValidated = true → b.isValidated = true → a.surfaceId ≠ b.surfaceId

theorem Distinct.symm {a b : PropertyCacheEntry} (h : Distinct a b) : Distinct b a :=
  fun hb ha heq => h ha hb heq.symm

/-- What is always the case with `g_property_cache`. -/
structure Sound (cache : List PropertyCacheEntry) : Prop where
  fits : cache.length ≤ 128
  distinct : cache.Pairwise Distinct
  fresh : ∀ e ∈ cache, e.isValidated = true → e.needsRefresh = false

theorem sound_nil : Sound [] := ⟨Nat.zero_le _, .nil, fun _ he => absurd he List.not_mem_nil⟩

theorem length_insert (now id : Nat) (own : IOSurfaceDescriptor)
    (cache : List PropertyCacheEntry) :
    (insert now id own cache).length = if cache.length < 128 then cache.length + 1
      else cache.length := by
  unfold insert
  split
  · rw [List.length_append, List.length_singleton]
  · rw [List.length_set]

/-- One entry takes the place of another. -/
theorem pairwise_set {R : PropertyCacheEntry → PropertyCacheEntry → Prop} (h : cache.Pairwise R)
    (hleft : ∀ y ∈ cache, R x y) (hright : ∀ y ∈ cache, R y x) (i : Nat) :
    (cache.set i x).Pairwise R := by
  induction h generalizing i with
  | nil => exact .nil
  | @cons a l ha hl ih =>
      cases i with
      | zero => exact .cons (fun y hy => hleft y (List.mem_cons_of_mem a hy)) hl
      | succ i =>
          refine .cons (fun y hy => ?_) (ih (fun y hy => hleft y (List.mem_cons_of_mem a hy))
            (fun y hy => hright y (List.mem_cons_of_mem a hy)) i)
          rcases List.mem_or_eq_of_mem_set hy with hy | rfl
          · exact ha y hy
          · exact hright a List.mem_cons_self

/-- A relation that holds of the new entry and every other. -/
theorem pairwise_insert {R : PropertyCacheEntry → PropertyCacheEntry → Prop} (h : cache.Pairwise R)
    (hleft : ∀ y ∈ cache, R ⟨⟨id, own, now, true, false⟩, 1⟩ y)
    (hright : ∀ y ∈ cache, R y ⟨⟨id, own, now, true, false⟩, 1⟩) :
    (insert now id own cache).Pairwise R := by
  unfold insert
  split
  · refine List.pairwise_append.mpr ⟨h, List.pairwise_singleton _ _, fun y hy z hz => ?_⟩
    rw [List.mem_singleton.mp hz]
    exact hright y hy
  · exact pairwise_set h hleft hright _

theorem mem_insert (h : e ∈ insert now id own cache) :
    e ∈ cache ∨ e = ⟨⟨id, own, now, true, false⟩, 1⟩ := by
  unfold insert at h
  split at h
  · exact (List.mem_append.mp h).imp_right List.mem_singleton.mp
  · exact List.mem_or_eq_of_mem_set h

theorem Sound.insert (h : Sound cache) (hnone : lookup id cache = none) :
    Sound (insert now id own cache) where
  fits := by
    have hfits := h.fits
    rw [length_insert]
    split <;> omega
  distinct := by
    refine pairwise_insert h.distinct ?_ ?_
    · intro y hy _ hv heq
      rw [lookup_eq_none_iff.mp hnone y hy heq.symm] at hv
      cases hv
    · intro y hy hv _ heq
      rw [lookup_eq_none_iff.mp hnone y hy heq] at hv
      cases hv
  fresh := by
    intro e he hv
    rcases mem_insert he with he | rfl
    · exact h.fresh e he hv
    · rfl

/-- Where an entry that counts needs no refresh, an answer comes from it if there is one. -/
theorem serve_eq (hfresh : ∀ e ∈ cache, e.isValidated = true → e.needsRefresh = false)
    (now id : Nat) (own : IOSurfaceDescriptor) :
    serve now id own cache = match lookup id cache with
      | none => (own, PropertyCacheEntry.insert now id own cache)
      | some e =>
          (e.descriptor, modifyFirst id
            (fun e => { e with lastAccessTime := now, accessCount := inc32 e.accessCount })
            cache) := by
  unfold serve
  cases he : lookup id cache with
  | none => rfl
  | some e =>
      obtain ⟨hmem, -, hv⟩ := lookup_eq_some he
      dsimp only
      rw [hfresh e hmem hv]
      rfl

theorem Sound.serve (h : Sound cache) (now id : Nat) (own : IOSurfaceDescriptor) :
    Sound (serve now id own cache).2 := by
  rw [serve_eq h.fresh]
  cases he : lookup id cache with
  | none => exact h.insert he
  | some e =>
      refine ⟨?_, ?_, ?_⟩
      · show (modifyFirst id _ cache).length ≤ 128
        rw [modifyFirst, FirstMatch.length_modify]
        exact h.fits
      · exact FirstMatch.pairwise_modify h.distinct (fun _ _ _ hab => hab) fun _ _ _ hab => hab
      · intro x hx hv
        rcases FirstMatch.mem_modify hx with hx | ⟨y, hy, -, rfl⟩
        · exact h.fresh x hx hv
        · exact h.fresh y hy hv

theorem Sound.invalidatePropertyCache (h : Sound cache) (id : Nat) :
    Sound (invalidatePropertyCache id cache) where
  fits := by
    rw [PropertyCacheEntry.invalidatePropertyCache, FirstMatch.length_modify]
    exact h.fits
  distinct := by
    refine FirstMatch.pairwise_modify h.distinct ?_ ?_
    · intro a b _ _ hv
      cases hv
    · intro a _ b _ _ hv
      cases hv
  fresh := by
    intro x hx hv
    rcases FirstMatch.mem_modify hx with hx | ⟨y, -, -, rfl⟩
    · exact h.fresh x hx hv
    · cases hv

theorem Sound.perm {cache' : List PropertyCacheEntry} (h : Sound cache)
    (hperm : cache'.Perm cache) : Sound cache' where
  fits := by
    rw [hperm.length_eq]
    exact h.fits
  distinct := hperm.symm.pairwise h.distinct fun hab => hab.symm
  fresh := fun e he => h.fresh e (hperm.mem_iff.mp he)

/-! ## Marked entries -/

/-- The first entry of the id does not count. -/
def Marked (id : Nat) (cache : List PropertyCacheEntry) : Prop :=
  (cache.find? fun e => e.surfaceId = id).map (fun e => e.isValidated) = some false

theorem marked_invalidatePropertyCache (h : ∃ e ∈ cache, e.surfaceId = id) :
    Marked id (invalidatePropertyCache id cache) := by
  obtain ⟨e, he, hid⟩ := h
  cases hfind : cache.find? fun e => e.surfaceId = id with
  | none =>
      have hnot := List.find?_eq_none.mp hfind e he
      exact absurd (decide_eq_true hid) hnot
  | some e =>
      have hfound := List.find?_some hfind
      rw [Marked, invalidatePropertyCache, FirstMatch.find?_modify hfind hfound]
      rfl

theorem Marked.insert (h : Marked id cache) (hroom : (insert now i own cache).length < 128) :
    Marked id (insert now i own cache) := by
  rw [length_insert] at hroom
  have hlength : cache.length < 128 := by
    split at hroom <;> omega
  obtain ⟨e, hfind, hv⟩ := Option.map_eq_some_iff.mp h
  rw [Marked, PropertyCacheEntry.insert, if_pos hlength, List.find?_append, hfind, Option.some_or,
    Option.map_some, hv]

theorem lookup_insert (h : lookup id cache = some e)
    (hroom : (insert now i own cache).length < 128) :
    lookup id (insert now i own cache) = some e := by
  rw [length_insert] at hroom
  have hlength : cache.length < 128 := by
    split at hroom <;> omega
  rw [insert, if_pos hlength, lookup, List.find?_append]
  exact congrArg (Option.or · _) h

theorem length_serve_ge (h : Sound cache) (now i : Nat) (own : IOSurfaceDescriptor) :
    cache.length ≤ (serve now i own cache).2.length := by
  rw [serve_eq h.fresh]
  cases lookup i cache with
  | none =>
      show cache.length ≤ (insert now i own cache).length
      rw [length_insert]
      split <;> omega
  | some e => exact le_of_eq (FirstMatch.length_modify _ _ cache).symm

theorem Marked.serve (h : Marked id cache) (hsound : Sound cache)
    (hroom : (serve now i own cache).2.length < 128) : Marked id (serve now i own cache).2 := by
  rw [serve_eq hsound.fresh] at hroom ⊢
  cases hl : lookup i cache with
  | none =>
      rw [hl] at hroom
      exact h.insert hroom
  | some e =>
      refine (FirstMatch.find?_map_modify ?_ ?_).trans h
      · exact fun _ => rfl
      · exact fun _ => rfl

/-- The descriptor of the entry that counts. -/
def descriptorOf (id : Nat) (cache : List PropertyCacheEntry) : Option IOSurfaceDescriptor :=
  (lookup id cache).map fun e => e.descriptor

theorem descriptorOf_serve (h : descriptorOf id cache = some d) (hsound : Sound cache)
    (hroom : (serve now i own cache).2.length < 128) :
    descriptorOf id (serve now i own cache).2 = some d := by
  rw [serve_eq hsound.fresh] at hroom ⊢
  cases hl : lookup i cache with
  | none =>
      rw [hl] at hroom
      obtain ⟨e, he, hd⟩ := Option.map_eq_some_iff.mp h
      exact Option.map_eq_some_iff.mpr ⟨e, lookup_insert he hroom, hd⟩
  | some e =>
      refine (FirstMatch.find?_map_modify ?_ ?_).trans h
      · exact fun _ => rfl
      · exact fun _ => rfl

/-- A marked entry stays in front, and hides what is behind it. -/
theorem Marked.invalidatePropertyCache (h : Marked id cache) (i : Nat) :
    Marked id (invalidatePropertyCache i cache) ∧
      lookup id (invalidatePropertyCache i cache) = lookup id cache := by
  by_cases hi : i = id
  · subst hi
    obtain ⟨e, hfind, hv⟩ := Option.map_eq_some_iff.mp h
    refine ⟨marked_invalidatePropertyCache ⟨e, List.mem_of_find?_eq_some hfind, ?_⟩, ?_⟩
    · simpa using List.find?_some hfind
    · refine FirstMatch.find?_modify_of_not fun a ha => ?_
      rw [hfind] at ha
      cases ha
      exact ⟨by rw [hv, Bool.and_false], Bool.and_false _⟩
  · have hother : ∀ a, cache.find? (fun e => e.surfaceId = i) = some a →
        decide (a.surfaceId = id) = false := by
      intro a ha
      have hai : a.surfaceId = i := by simpa using List.find?_some ha
      exact decide_eq_false fun heq => hi (hai.symm.trans heq)
    constructor
    · rw [Marked, PropertyCacheEntry.invalidatePropertyCache, FirstMatch.find?_modify_of_not]
      · exact h
      · exact fun a ha => ⟨hother a ha, hother a ha⟩
    · exact FirstMatch.find?_modify_of_not fun a ha =>
        ⟨by rw [hother a ha, Bool.false_and], Bool.and_false _⟩

end PropertyCacheEntry

/-! ## Runs -/

namespace CachedSurfaces
variable {w w' w'' u : CachedSurfaces} {now found id : Nat} {d : IOSurfaceDescriptor}
  {c : CacheCall} {calls as bs : List CacheCall} {Q : List PropertyCacheEntry → Prop}

theorem getSurfaceDescriptor_keeps
    (hserve : ∀ now id own cache, Q cache → Q (PropertyCacheEntry.serve now id own cache).2)
    {r : Except IOReturn IOSurfaceDescriptor × CachedSurfaces}
    (h : w.getSurfaceDescriptor now found id = some r) (hQ : Q w.propertyCache) :
    Q r.2.propertyCache := by
  rcases getSurfaceDescriptor_cases h with ⟨hr, -⟩ | ⟨hr, -⟩ | ⟨a, own, -, -, -, hr⟩
  · rw [hr]
    exact hQ
  · rw [hr]
    exact hQ
  · rw [hr]
    exact hserve now id own w.propertyCache hQ

theorem prewarmProperties_keeps
    (hserve : ∀ now id own cache, Q cache → Q (PropertyCacheEntry.serve now id own cache).2)
    {ps : List Prewarming} (h : w.prewarmProperties ps = some w') (hQ : Q w.propertyCache) :
    Q w'.propertyCache := by
  induction ps generalizing w with
  | nil =>
      cases h
      exact hQ
  | cons p ps ih =>
      rw [prewarmProperties] at h
      split at h
      · split at h
        · exact ih h hQ
        · obtain ⟨r, hr, hrest⟩ := Option.bind_eq_some_iff.mp h
          exact ih hrest (getSurfaceDescriptor_keeps hserve hr hQ)
      · cases h
        exact hQ

/-- What a step keeps of the property cache. -/
theorem step_keeps
    (hserve : ∀ now id own cache, Q cache → Q (PropertyCacheEntry.serve now id own cache).2)
    (hinvalidate : ∀ id cache, Q cache → Q (PropertyCacheEntry.invalidatePropertyCache id cache))
    (hflush : c = .flushPropertyCache → Q [])
    (hoptimize : c = .optimizePropertyCache →
      Q (PropertyCacheEntry.optimizePropertyCache w.propertyCache))
    (h : machine.step w c = some w') (hQ : Q w.propertyCache) : Q w'.propertyCache := by
  cases c with
  | getSurfaceDescriptor now found id =>
      obtain ⟨r, hr, rfl⟩ := Option.map_eq_some_iff.mp h
      exact getSurfaceDescriptor_keeps hserve hr hQ
  | prewarmPropertyCache ps => exact prewarmProperties_keeps hserve h hQ
  | flushPropertyCache =>
      cases h
      exact hflush rfl
  | invalidatePropertyCache id =>
      cases h
      exact hinvalidate id _ hQ
  | optimizePropertyCache =>
      cases h
      exact hoptimize rfl
  | _ =>
      cases h
      exact hQ

theorem sound_step (h : machine.step w c = some w')
    (hsound : PropertyCacheEntry.Sound w.propertyCache) :
    PropertyCacheEntry.Sound w'.propertyCache :=
  step_keeps (fun now id own _ hQ => hQ.serve now id own)
    (fun id _ hQ => hQ.invalidatePropertyCache id) (fun _ => PropertyCacheEntry.sound_nil)
    (fun _ => hsound.perm (BubbleSort.sort_perm _ _)) h hsound

theorem sound_run (h : machine.run w calls = some w')
    (hsound : PropertyCacheEntry.Sound w.propertyCache) :
    PropertyCacheEntry.Sound w'.propertyCache := by
  have halways := machine.always_of_along (I := fun w => PropertyCacheEntry.Sound w.propertyCache)
    (C := fun _ _ => True) (fun _ _ _ hI _ hstep => sound_step hstep hI) hsound
    (machine.along_true w calls)
  exact halways.run machine h

theorem length_getSurfaceDescriptor
    {r : Except IOReturn IOSurfaceDescriptor × CachedSurfaces}
    (h : w.getSurfaceDescriptor now found id = some r)
    (hlength : w.surfaceCache.entries.length ≤ 64) : r.2.surfaceCache.entries.length ≤ 64 := by
  rcases getSurfaceDescriptor_cases h with ⟨hr, -⟩ | ⟨hr, -⟩ | ⟨a, own, -, -, -, hr⟩
  · rw [hr]
    exact hlength
  · rw [hr]
    exact SurfaceCache.length_findSurface hlength
  · rw [hr]
    exact SurfaceCache.length_findSurface hlength

theorem length_prewarmProperties {ps : List Prewarming} (h : w.prewarmProperties ps = some w')
    (hlength : w.surfaceCache.entries.length ≤ 64) : w'.surfaceCache.entries.length ≤ 64 := by
  induction ps generalizing w with
  | nil =>
      cases h
      exact hlength
  | cons p ps ih =>
      rw [prewarmProperties] at h
      split at h
      · split at h
        · exact ih h hlength
        · obtain ⟨r, hr, hrest⟩ := Option.bind_eq_some_iff.mp h
          exact ih hrest (length_getSurfaceDescriptor hr hlength)
      · cases h
        exact hlength

theorem length_step (h : machine.step w c = some w')
    (hlength : w.surfaceCache.entries.length ≤ 64) : w'.surfaceCache.entries.length ≤ 64 := by
  cases c with
  | findSurface now id =>
      cases h
      exact SurfaceCache.length_findSurface hlength
  | getSurfaceDescriptor now found id =>
      obtain ⟨r, hr, rfl⟩ := Option.map_eq_some_iff.mp h
      exact length_getSurfaceDescriptor hr hlength
  | flushDiscoveryCache =>
      cases h
      exact Nat.zero_le 64
  | prewarmDiscoveryCache ids =>
      cases h
      exact SurfaceCache.length_prewarmDiscoveryCache hlength
  | optimizeDiscoveryCache =>
      cases h
      exact le_of_eq_of_le (BubbleSort.sort_perm _ w.surfaceCache.entries).length_eq hlength
  | prewarmPropertyCache ps => exact length_prewarmProperties h hlength
  | _ =>
      cases h
      exact hlength

/-- Both arrays are kept within their bounds, and the property cache sound. -/
structure SoundCaches (w : CachedSurfaces) : Prop where
  surfaces : w.surfaceCache.entries.length ≤ 64
  properties : PropertyCacheEntry.Sound w.propertyCache

/-- **Whatever is done with them, the caches stay sound**: no array is written behind its end,
at most one entry of an id counts, and none that counts waits for a refresh. -/
theorem always_soundCaches (calls : List CacheCall) : machine.Always SoundCaches start calls :=
  machine.always_of_along (C := fun _ _ => True)
    (fun _ _ _ hI _ hstep => ⟨length_step hstep hI.surfaces, sound_step hstep hI.properties⟩)
    ⟨Nat.zero_le 64, PropertyCacheEntry.sound_nil⟩ (machine.along_true start calls)

/-- The calls that leave the entries of the property cache in their order. -/
def KeepsOrder : CacheCall → Prop
  | .flushPropertyCache | .optimizePropertyCache => False
  | _ => True

/-- What holds of sound caches with room, and what lookups and invalidations keep. -/
theorem run_keeps {P : List PropertyCacheEntry → Prop}
    (hserve : ∀ now id own cache, PropertyCacheEntry.Sound cache → P cache →
      (PropertyCacheEntry.serve now id own cache).2.length < 128 →
      P (PropertyCacheEntry.serve now id own cache).2)
    (hinvalidate : ∀ id cache, P cache → P (PropertyCacheEntry.invalidatePropertyCache id cache))
    (horder : ∀ c ∈ calls, KeepsOrder c) (h : machine.run w calls = some w')
    (hsound : PropertyCacheEntry.Sound w.propertyCache)
    (hP : w.propertyCache.length < 128 → P w.propertyCache)
    (hroom : w'.propertyCache.length < 128) : P w'.propertyCache := by
  induction calls generalizing w with
  | nil =>
      simp only [Machine.run_nil, Option.some.injEq] at h
      subst h
      exact hP hroom
  | cons c calls ih =>
      obtain ⟨v, hstep, hrun⟩ := machine.run_cons_eq_some.mp h
      have hc := horder c List.mem_cons_self
      refine ih (fun c hc => horder c (List.mem_cons_of_mem _ hc)) hrun (sound_step hstep hsound) ?_
      -- an entry is never taken away, so what has room had room before
      refine (step_keeps (Q := fun cache => PropertyCacheEntry.Sound cache ∧
        (cache.length < 128 → P cache)) ?_ ?_ ?_ ?_ hstep ⟨hsound, hP⟩).2
      · intro now id own cache hQ
        refine ⟨hQ.1.serve now id own, fun hlt => hserve now id own cache hQ.1 (hQ.2 ?_) hlt⟩
        exact lt_of_le_of_lt (PropertyCacheEntry.length_serve_ge hQ.1 now id own) hlt
      · intro id cache hQ
        refine ⟨hQ.1.invalidatePropertyCache id, fun hlt => hinvalidate id cache (hQ.2 ?_)⟩
        rw [PropertyCacheEntry.invalidatePropertyCache, FirstMatch.length_modify] at hlt
        exact hlt
      · rintro rfl
        cases hc
      · rintro rfl
        cases hc

/-- **An invalidation works once.** When the cache has an entry for the id that it marks, the
descriptor that is cached next is answered for good: until the cache is flushed, sorted or
full, no change to the surface shows, and no further invalidation has any effect. -/
theorem descriptor_frozen {pre : List CacheCall} {e : PropertyCacheEntry}
    (hpre : machine.run start pre = some w) (hentry : ∃ e ∈ w.propertyCache, e.surfaceId = id)
    (has : machine.run w (.invalidatePropertyCache id :: as) = some u)
    (hcached : PropertyCacheEntry.lookup id u.propertyCache = some e)
    (hbs : machine.run u bs = some w') (horder : ∀ c ∈ as ++ bs, KeepsOrder c)
    (hroom : w'.propertyCache.length < 128)
    (hanswer : w'.getSurfaceDescriptor now found id = some (.ok d, w'')) : d = e.descriptor := by
  have hsound := sound_run hpre PropertyCacheEntry.sound_nil
  have hsoundu := sound_run has hsound
  have hmarked : u.propertyCache.length < 128 → PropertyCacheEntry.Marked id u.propertyCache := by
    obtain ⟨v, hstep, hrun⟩ := machine.run_cons_eq_some.mp has
    refine run_keeps (fun _ _ _ _ hsound hm hlt => hm.serve hsound hlt)
      (fun i _ hm => (hm.invalidatePropertyCache i).1)
      (fun c hc => horder c (List.mem_append_left _ hc)) hrun (sound_step hstep hsound) fun _ => ?_
    cases hstep
    exact PropertyCacheEntry.marked_invalidatePropertyCache hentry
  have hkept := run_keeps (P := fun cache => PropertyCacheEntry.Marked id cache ∧
      PropertyCacheEntry.descriptorOf id cache = some e.descriptor)
    (fun _ _ _ _ hsound hP hlt => ⟨hP.1.serve hsound hlt,
      PropertyCacheEntry.descriptorOf_serve hP.2 hsound hlt⟩)
    (fun i _ hP => ⟨(hP.1.invalidatePropertyCache i).1, by
      rw [PropertyCacheEntry.descriptorOf, (hP.1.invalidatePropertyCache i).2]
      exact hP.2⟩)
    (fun c hc => horder c (List.mem_append_right _ hc)) hbs hsoundu
    (fun hlt => ⟨hmarked hlt, by rw [PropertyCacheEntry.descriptorOf, hcached]; rfl⟩) hroom
  obtain ⟨e', he', hd⟩ := Option.map_eq_some_iff.mp hkept.2
  rcases getSurfaceDescriptor_cases hanswer with ⟨-, hr⟩ | ⟨-, hr⟩ | ⟨a, own, -, -, hr, -⟩
  · cases hr
  · cases hr
  · cases hr
    rw [PropertyCacheEntry.serve_eq (sound_run hbs hsoundu).fresh, he']
    exact hd

theorem descriptor_frozen_at_seven :
    ∃ w u w' w'' d,
      machine.run start [.surfaces (fun _ => some 4096) (fun _ => some .zero),
        .getSurfaceDescriptor 1 2 7] = some w ∧
      machine.run w [.invalidatePropertyCache 7, .getSurfaceDescriptor 3 4 7] = some u ∧
      machine.run u [.surfaces (fun _ => some 4096)
        (fun _ => some { IOSurfaceDescriptor.zero with width := 64 }),
        .invalidatePropertyCache 7] = some w' ∧
      w'.getSurfaceDescriptor 5 6 7 = some (.ok d, w'') ∧ d = .zero := by
  have hpre : machine.run start [.surfaces (fun _ => some 4096) (fun _ => some .zero),
      .getSurfaceDescriptor 1 2 7] = some _ := rfl
  have hanswer := @descriptor_frozen _ _ _ _ 5 6 7 _ [.getSurfaceDescriptor 3 4 7]
    [.surfaces (fun _ => some 4096) (fun _ => some { IOSurfaceDescriptor.zero with width := 64 }),
      .invalidatePropertyCache 7] _ _
    hpre ⟨_, List.mem_cons_self, rfl⟩ rfl rfl rfl (by simp [KeepsOrder]) (by decide) rfl
  exact ⟨_, _, _, _, _, hpre, rfl, rfl, rfl, hanswer⟩

end CachedSurfaces

end VMQemuVGA
