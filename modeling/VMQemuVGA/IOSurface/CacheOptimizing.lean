import VMQemuVGA.IOSurface.CacheInvalidation
import Mathlib.Data.List.Nodup
import Mathlib.Data.List.Perm.Basic

/-! # Sorting the property cache

`optimizePropertyCache` puts the entries that are used most in front. Where no entry has been
invalidated and the clock never shows the same twice, nothing else can be told from it: every
descriptor is answered as if the cache had never been sorted. -/

namespace VMQemuVGA

/-! ## The least recently used entry -/

/-- The fold of `lruIndex` ends with the first pair or with one of the others, and no time is
before its time. -/
theorem foldl_least (l : List (Nat × Nat)) (best : Nat × Nat) :
    ∃ r, l.foldl (fun best t => if t.1 < best.1 then t else best) best = r ∧
      (r = best ∨ r ∈ l) ∧ r.1 ≤ best.1 ∧ ∀ t ∈ l, r.1 ≤ t.1 := by
  induction l generalizing best with
  | nil => exact ⟨best, rfl, .inl rfl, le_rfl, fun _ ht => absurd ht List.not_mem_nil⟩
  | cons t l ih =>
      obtain ⟨r, hr, hmem, hbest, hle⟩ := ih (if t.1 < best.1 then t else best)
      refine ⟨r, hr, ?_, ?_, ?_⟩
      · split at hmem
        · exact .inr (List.mem_cons.mpr hmem)
        · exact hmem.imp_right (List.mem_cons_of_mem t)
      · split at hbest
        next hlt => exact le_trans hbest (le_of_lt hlt)
        next => exact hbest
      · intro u hu
        rcases List.mem_cons.mp hu with rfl | hu
        · split at hbest
          next => exact hbest
          next hlt => exact le_trans hbest (not_lt.mp hlt)
        · exact hle u hu

theorem getElem?_lruIndex {times : List Nat} (h : times ≠ []) :
    ∃ t, times[lruIndex times]? = some t ∧ ∀ u ∈ times, t ≤ u := by
  obtain ⟨r, hr, hmem, -, hle⟩ := foldl_least times.zipIdx (times.headD 0, 0)
  refine ⟨r.1, ?_, ?_⟩
  · unfold lruIndex
    rw [hr]
    rcases hmem with rfl | hmem
    · cases times with
      | nil => exact absurd rfl h
      | cons t times => rfl
    · exact List.mem_zipIdx_iff_getElem?.mp hmem
  · intro u hu
    obtain ⟨i, hi, rfl⟩ := List.mem_iff_getElem.mp hu
    exact hle (times[i], i) (List.mem_zipIdx_iff_getElem?.mpr (List.getElem?_eq_getElem hi))

/-! ## Caches in another order -/

namespace PropertyCacheEntry
variable {cache cache' : List PropertyCacheEntry} {now id : Nat} {own : IOSurfaceDescriptor}

/-- The times of last access. -/
def times (cache : List PropertyCacheEntry) : List Nat := cache.map fun e => e.lastAccessTime

/-- Every entry counts, and no two are of one id or of one time. -/
structure Tidy (cache : List PropertyCacheEntry) : Prop where
  distinct : (cache.map fun e => e.surfaceId).Nodup
  apart : (times cache).Nodup
  counts : ∀ e ∈ cache, e.isValidated = true ∧ e.needsRefresh = false

theorem tidy_nil : Tidy [] :=
  ⟨List.nodup_nil, List.nodup_nil, fun _ he => absurd he List.not_mem_nil⟩

theorem Tidy.perm (h : Tidy cache) (hperm : cache'.Perm cache) : Tidy cache' where
  distinct := (hperm.map _).nodup_iff.mpr h.distinct
  apart := (hperm.map _).nodup_iff.mpr h.apart
  counts := fun e he => h.counts e (hperm.mem_iff.mp he)

/-- One entry at most is meant by a lookup. -/
theorem Tidy.one (h : Tidy cache) (id : Nat) : cache.Pairwise fun a b =>
    ¬ ((decide (a.surfaceId = id) && a.isValidated) = true ∧
      (decide (b.surfaceId = id) && b.isValidated) = true) := by
  refine (List.pairwise_map.mp h.distinct).imp fun hne hboth => ?_
  simp only [Bool.and_eq_true, decide_eq_true_eq] at hboth
  exact hne (hboth.1.1.trans hboth.2.1.symm)

theorem Tidy.lookup_perm (h : Tidy cache) (hperm : cache'.Perm cache) (id : Nat) :
    lookup id cache' = lookup id cache :=
  (FirstMatch.find?_perm hperm.symm (h.one id)).symm

theorem Tidy.modifyFirst_perm (h : Tidy cache) (hperm : cache'.Perm cache) (id : Nat)
    (f : PropertyCacheEntry → PropertyCacheEntry) :
    (modifyFirst id f cache').Perm (modifyFirst id f cache) := by
  rw [modifyFirst, modifyFirst, FirstMatch.modify_eq_map ((h.perm hperm).one id),
    FirstMatch.modify_eq_map (h.one id)]
  exact hperm.map _

/-- Where no two entries are of one time, the same one is replaced. -/
theorem Tidy.insert_perm (h : Tidy cache) (hperm : cache'.Perm cache) :
    (insert now id own cache').Perm (insert now id own cache) := by
  unfold insert
  rw [hperm.length_eq]
  split
  · exact hperm.append_right _
  next hfull =>
    have hne : times cache ≠ [] := by
      intro hnil
      rw [List.map_eq_nil_iff.mp hnil] at hfull
      exact hfull (Nat.zero_lt_succ 127)
    have hperm_times : (times cache').Perm (times cache) := hperm.map _
    have hne' : times cache' ≠ [] := fun hnil => hne (hnil ▸ hperm_times).nil_eq.symm
    obtain ⟨t, ht, hleast⟩ := getElem?_lruIndex hne
    obtain ⟨t', ht', hleast'⟩ := getElem?_lruIndex hne'
    obtain ⟨e, he, rfl⟩ := Option.map_eq_some_iff.mp ((List.getElem?_map).symm.trans ht)
    obtain ⟨e', he', rfl⟩ := Option.map_eq_some_iff.mp ((List.getElem?_map).symm.trans ht')
    have hmem := List.mem_of_getElem? he
    have hmem' := hperm.mem_iff.mp (List.mem_of_getElem? he')
    have htime : e'.lastAccessTime = e.lastAccessTime :=
      le_antisymm (hleast' _ (hperm_times.mem_iff.mpr (List.mem_map_of_mem hmem)))
        (hleast _ (List.mem_map_of_mem hmem'))
    have hsame : e' = e := List.inj_on_of_nodup_map h.apart hmem' hmem htime
    have hindex : ∀ {l : List PropertyCacheEntry} {i : Nat} {x : PropertyCacheEntry},
        l[i]? = some x → i < l.length := fun hx => (List.getElem?_eq_some_iff.mp hx).1
    refine (List.set_perm_cons_eraseIdx (hindex he') _).trans
      (List.Perm.trans (List.Perm.cons _ ?_) (List.set_perm_cons_eraseIdx (hindex he) _).symm)
    exact (List.perm_eraseIdx_of_getElem?_eq (he'.trans (hsame ▸ he.symm))).mpr hperm

theorem Tidy.fresh (h : Tidy cache) : ∀ e ∈ cache, e.isValidated = true → e.needsRefresh = false :=
  fun e he _ => (h.counts e he).2

/-- **The order of the entries is not seen** in an answer, and what an answer leaves behind
differs in order only. -/
theorem Tidy.serve_perm (h : Tidy cache) (hperm : cache'.Perm cache) (now id : Nat)
    (own : IOSurfaceDescriptor) :
    (serve now id own cache').1 = (serve now id own cache).1 ∧
      (serve now id own cache').2.Perm (serve now id own cache).2 := by
  rw [serve_eq h.fresh, serve_eq (h.perm hperm).fresh, h.lookup_perm hperm]
  cases lookup id cache with
  | none => exact ⟨rfl, h.insert_perm hperm⟩
  | some e => exact ⟨rfl, h.modifyFirst_perm hperm id _⟩

/-- The times after a lookup: that of the lookup is new. -/
theorem mem_times_serve (h : Tidy cache) {t : Nat} (ht : t ∈ times (serve now id own cache).2) :
    t ∈ times cache ∨ t = now := by
  obtain ⟨e, he, rfl⟩ := List.mem_map.mp ht
  rw [serve_eq h.fresh] at he
  cases hl : lookup id cache with
  | none =>
      rw [hl] at he
      rcases mem_insert he with he | rfl
      · exact .inl (List.mem_map_of_mem he)
      · exact .inr rfl
  | some x =>
      rw [hl] at he
      rcases FirstMatch.mem_modify he with he | ⟨y, -, -, rfl⟩
      · exact .inl (List.mem_map_of_mem he)
      · exact .inr rfl

theorem Tidy.serve (h : Tidy cache) (hnow : now ∉ times cache) (id : Nat)
    (own : IOSurfaceDescriptor) : Tidy (serve now id own cache).2 := by
  have hothers : ∀ e ∈ cache, e.lastAccessTime ≠ now := by
    rintro e he rfl
    exact hnow (List.mem_map_of_mem he)
  rw [serve_eq h.fresh]
  cases hl : lookup id cache with
  | none =>
      have hid : ∀ e ∈ cache, e.surfaceId ≠ id := by
        intro e he heq
        have hnot := lookup_eq_none_iff.mp hl e he heq
        rw [(h.counts e he).1] at hnot
        cases hnot
      refine ⟨?_, ?_, ?_⟩
      · refine List.pairwise_map.mpr (pairwise_insert (List.pairwise_map.mp h.distinct) ?_ ?_)
        · exact fun y hy => (hid y hy).symm
        · exact hid
      · refine List.pairwise_map.mpr (pairwise_insert (List.pairwise_map.mp h.apart) ?_ ?_)
        · exact fun y hy => (hothers y hy).symm
        · exact hothers
      · intro e he
        rcases mem_insert he with he | rfl
        · exact h.counts e he
        · exact ⟨rfl, rfl⟩
  | some x =>
      refine ⟨?_, ?_, ?_⟩
      · rw [modifyFirst, FirstMatch.map_modify]
        · exact h.distinct
        · exact fun _ => rfl
      · refine List.pairwise_map.mpr
          (FirstMatch.pairwise_modify (List.pairwise_map.mp h.apart) ?_ ?_)
        · exact fun _ y hy _ => (hothers y hy).symm
        · exact fun y hy _ _ => hothers y hy
      · intro e he
        rcases FirstMatch.mem_modify he with he | ⟨y, hy, -, rfl⟩
        · exact h.counts e he
        · exact h.counts y hy

/-- The entries come in the order of their access counts. -/
theorem optimizePropertyCache_sorts (cache : List PropertyCacheEntry) :
    (optimizePropertyCache cache).Perm cache ∧
      (optimizePropertyCache cache).Pairwise fun a b => b.accessCount ≤ a.accessCount :=
  ⟨BubbleSort.sort_perm _ cache, BubbleSort.pairwise_sort _ cache⟩

end PropertyCacheEntry

/-! ## Runs -/

/-- What the clock shows to the property lookups of a call. -/
def CacheCall.clock : CacheCall → List Nat
  | .getSurfaceDescriptor now _ _ => [now]
  | .prewarmPropertyCache ps => ps.map CachedSurfaces.Prewarming.now
  | _ => []

/-- The call is not `optimizePropertyCache`. -/
def CacheCall.leavesUnsorted : CacheCall → Bool
  | .optimizePropertyCache => false
  | _ => true

namespace CachedSurfaces
open PropertyCacheEntry (Tidy times)

variable {w w' t t' : CachedSurfaces} {now found id : Nat} {c : CacheCall} {calls : List CacheCall}

/-- The same, but for the order in the property cache. -/
def Reordered (w t : CachedSurfaces) : Prop :=
  ∃ cache, cache.Perm w.propertyCache ∧ t = { w with propertyCache := cache }

theorem Reordered.refl (w : CachedSurfaces) : Reordered w w := ⟨w.propertyCache, .refl _, rfl⟩

/-- What is answered is the same in any order. -/
theorem Reordered.getSurfaceDescriptor (hR : Reordered w t) (h : Tidy w.propertyCache)
    (now found id : Nat) :
    (w.getSurfaceDescriptor now found id = none ∧ t.getSurfaceDescriptor now found id = none) ∨
    ∃ r r', w.getSurfaceDescriptor now found id = some r ∧
      t.getSurfaceDescriptor now found id = some r' ∧ r'.1 = r.1 ∧ Reordered r.2 r'.2 := by
  obtain ⟨cache, hperm, rfl⟩ := hR
  have hfound : (findSurface found id { w with propertyCache := cache }).1 =
      (w.findSurface found id).1 := rfl
  rw [getSurfaceDescriptor_eq, getSurfaceDescriptor_eq, hfound]
  split
  · exact .inr ⟨_, _, rfl, rfl, rfl, cache, hperm, rfl⟩
  · cases (w.findSurface found id).1 with
    | none => exact .inr ⟨_, _, rfl, rfl, rfl, cache, hperm, rfl⟩
    | some a =>
        dsimp only
        cases w.described a with
        | none => exact .inl ⟨rfl, rfl⟩
        | some own =>
            obtain ⟨hanswer, hleft⟩ := h.serve_perm hperm now id own
            exact .inr ⟨_, _, rfl, rfl, congrArg Except.ok hanswer, _, hleft, rfl⟩

/-- The time of a lookup is the only new one. -/
theorem tidy_getSurfaceDescriptor {r : Except IOReturn IOSurfaceDescriptor × CachedSurfaces}
    (hr : w.getSurfaceDescriptor now found id = some r) (h : Tidy w.propertyCache)
    (hnow : now ∉ times w.propertyCache) :
    Tidy r.2.propertyCache ∧
      ∀ x ∈ times r.2.propertyCache, x ∈ times w.propertyCache ∨ x = now := by
  rcases getSurfaceDescriptor_cases hr with ⟨hr, -⟩ | ⟨hr, -⟩ | ⟨a, own, -, -, -, hr⟩
  · rw [hr]
    exact ⟨h, fun _ hx => .inl hx⟩
  · rw [hr]
    exact ⟨h, fun _ hx => .inl hx⟩
  · rw [hr]
    exact ⟨h.serve hnow id own, fun _ hx => PropertyCacheEntry.mem_times_serve h hx⟩

theorem Reordered.length_eq (hR : Reordered w t) :
    t.propertyCache.length = w.propertyCache.length := by
  obtain ⟨cache, hperm, rfl⟩ := hR
  exact hperm.length_eq

/-- The other order all through the loop. -/
theorem Reordered.prewarmProperties {ps : List Prewarming} (hR : Reordered w t)
    (h : Tidy w.propertyCache) (hclock : (times w.propertyCache ++ ps.map Prewarming.now).Nodup)
    (hw : w.prewarmProperties ps = some w') :
    ∃ t', t.prewarmProperties ps = some t' ∧ Reordered w' t' ∧ Tidy w'.propertyCache ∧
      ∀ x ∈ times w'.propertyCache, x ∈ times w.propertyCache ++ ps.map Prewarming.now := by
  induction ps generalizing w t with
  | nil =>
      cases hw
      exact ⟨t, rfl, hR, h, fun x hx => List.mem_append_left _ hx⟩
  | cons p ps ih =>
      obtain ⟨hold, hnew, hapart⟩ := List.nodup_append.mp hclock
      obtain ⟨hnow, hps⟩ := List.nodup_cons.mp hnew
      rw [CachedSurfaces.prewarmProperties] at hw ⊢
      rw [hR.length_eq]
      split at hw
      next hroom =>
        rw [if_pos hroom]
        split at hw
        next hzero =>
          rw [if_pos hzero]
          have hrest : (times w.propertyCache ++ ps.map Prewarming.now).Nodup :=
            List.nodup_append.mpr
              ⟨hold, hps, fun x hx y hy => hapart x hx y (List.mem_cons_of_mem _ hy)⟩
          obtain ⟨t', ht', hR', h', htimes⟩ := ih hR h hrest hw
          refine ⟨t', ht', hR', h', fun x hx => ?_⟩
          exact (List.mem_append.mp (htimes x hx)).elim (List.mem_append_left _)
            fun hx => List.mem_append_right _ (List.mem_cons_of_mem _ hx)
        next hid =>
          rw [if_neg hid]
          have hfresh : p.now ∉ times w.propertyCache := fun hx =>
            hapart _ hx _ List.mem_cons_self rfl
          obtain ⟨r, hr, hrun⟩ := Option.bind_eq_some_iff.mp hw
          obtain ⟨htidy, htimes⟩ := tidy_getSurfaceDescriptor hr h hfresh
          rcases hR.getSurfaceDescriptor h p.now p.found p.surfaceId with ⟨hnone, -⟩ |
            ⟨r₁, r', hr₁, hr', -, hRr⟩
          · rw [hnone] at hr
            cases hr
          · obtain rfl := Option.some.inj (hr.symm.trans hr₁)
            have hrest : (times r.2.propertyCache ++ ps.map Prewarming.now).Nodup := by
              refine List.nodup_append.mpr ⟨htidy.apart, hps, fun x hx y hy => ?_⟩
              rcases htimes x hx with hx | rfl
              · exact hapart x hx y (List.mem_cons_of_mem _ hy)
              · rintro rfl
                exact hnow hy
            obtain ⟨t', ht', hR', h', htimes'⟩ := ih hRr htidy hrest hrun
            refine ⟨t', Option.bind_eq_some_iff.mpr ⟨r', hr', ht'⟩, hR', h', fun x hx => ?_⟩
            rcases List.mem_append.mp (htimes' x hx) with hx | hx
            · rcases htimes x hx with hx | rfl
              · exact List.mem_append_left _ hx
              · exact List.mem_append_right _ List.mem_cons_self
            · exact List.mem_append_right _ (List.mem_cons_of_mem _ hx)
      next hfull =>
        cases hw
        rw [if_neg hfull]
        exact ⟨t, rfl, hR, h, fun x hx => List.mem_append_left _ hx⟩

/-- The call invalidates nothing, and finds the clock at times that no entry has. -/
def Ticks (w : CachedSurfaces) (c : CacheCall) : Prop :=
  (∀ id, c ≠ .invalidatePropertyCache id) ∧ (times w.propertyCache ++ c.clock).Nodup

/-- One call, with the cache sorted in one way and in another. -/
theorem Reordered.step (hR : Reordered w t) (h : Tidy w.propertyCache) (hc : Ticks w c)
    (hw : machine.step w c = some w') :
    (∃ t', machine.step t c = some t' ∧ Reordered w' t') ∧ Tidy w'.propertyCache ∧
      ∀ x ∈ times w'.propertyCache, x ∈ times w.propertyCache ++ c.clock := by
  have hsame : ∀ x ∈ times w.propertyCache, x ∈ times w.propertyCache ++ c.clock :=
    fun _ hx => List.mem_append_left _ hx
  cases c with
  | getSurfaceDescriptor now found id =>
      obtain ⟨r, hr, rfl⟩ := Option.map_eq_some_iff.mp hw
      have hfresh : now ∉ times w.propertyCache := fun hx =>
        (List.nodup_append.mp hc.2).2.2 _ hx _ List.mem_cons_self rfl
      obtain ⟨htidy, htimes⟩ := tidy_getSurfaceDescriptor hr h hfresh
      rcases hR.getSurfaceDescriptor h now found id with ⟨hnone, -⟩ | ⟨r₁, r', hr₁, hr', -, hRr⟩
      · rw [hnone] at hr
        cases hr
      · obtain rfl := Option.some.inj (hr.symm.trans hr₁)
        refine ⟨⟨r'.2, Option.map_eq_some_iff.mpr ⟨r', hr', rfl⟩, hRr⟩, htidy, fun x hx => ?_⟩
        rcases htimes x hx with hx | rfl
        · exact List.mem_append_left _ hx
        · exact List.mem_append_right _ List.mem_cons_self
  | prewarmPropertyCache ps =>
      obtain ⟨t', ht', hR', htidy, htimes⟩ := hR.prewarmProperties h hc.2 hw
      exact ⟨⟨t', ht', hR'⟩, htidy, htimes⟩
  | invalidatePropertyCache id => exact absurd rfl (hc.1 id)
  | flushPropertyCache =>
      obtain ⟨cache, hperm, rfl⟩ := hR
      cases hw
      exact ⟨⟨_, rfl, [], .nil, rfl⟩, PropertyCacheEntry.tidy_nil,
        fun x hx => absurd hx List.not_mem_nil⟩
  | optimizePropertyCache =>
      obtain ⟨cache, hperm, rfl⟩ := hR
      cases hw
      have hsort := BubbleSort.sort_perm PropertyCacheEntry.accessCount
      refine ⟨⟨_, rfl, _, ?_, rfl⟩, h.perm (hsort _), fun x hx => ?_⟩
      · exact ((hsort cache).trans hperm).trans (hsort w.propertyCache).symm
      · exact hsame x (((hsort w.propertyCache).map _).mem_iff.mp hx)
  | _ =>
      obtain ⟨cache, hperm, rfl⟩ := hR
      cases hw
      exact ⟨⟨_, rfl, cache, hperm, rfl⟩, h, hsame⟩

/-- The cache stays tidy, and every call finds a new time. -/
theorem along_ticks (hno : ∀ id, .invalidatePropertyCache id ∉ calls) (h : Tidy w.propertyCache)
    (hclock : (times w.propertyCache ++ calls.flatMap CacheCall.clock).Nodup) :
    machine.Along (fun w c => Tidy w.propertyCache ∧ Ticks w c) w calls := by
  induction calls generalizing w with
  | nil => trivial
  | cons c calls ih =>
      rw [List.flatMap_cons, ← List.append_assoc] at hclock
      obtain ⟨hhere, hlater, hapart⟩ := List.nodup_append.mp hclock
      have hc : Ticks w c := by
        refine ⟨?_, hhere⟩
        rintro id rfl
        exact hno id List.mem_cons_self
      cases hstep : machine.step w c with
      | none => exact machine.along_cons_none hstep
      | some w' =>
          obtain ⟨-, htidy, htimes⟩ := (Reordered.refl w).step h hc hstep
          refine (machine.along_cons_some hstep).mpr ⟨⟨h, hc⟩, ih ?_ htidy ?_⟩
          · exact fun id hmem => hno id (List.mem_cons_of_mem _ hmem)
          · exact List.nodup_append.mpr
              ⟨htidy.apart, hlater, fun x hx y hy => hapart x (htimes x hx) y hy⟩

/-- **Sorting is not seen**: where no entry is invalidated and the clock never shows the same
twice, the calls can be made without the sorting in between, and every descriptor is answered
as before. -/
theorem optimizePropertyCache_invisible (hno : ∀ id, .invalidatePropertyCache id ∉ calls)
    (hclock : (calls.flatMap CacheCall.clock).Nodup) (hrun : machine.run start calls = some w) :
    ∃ t, machine.run start (calls.filter CacheCall.leavesUnsorted) = some t ∧
      ∀ now found id, (w.getSurfaceDescriptor now found id).map Prod.fst =
        (t.getSurfaceDescriptor now found id).map Prod.fst := by
  have hhidden : ∀ w t c w', Reordered w t ∧ Tidy w.propertyCache →
      Tidy w.propertyCache ∧ Ticks w c → c.leavesUnsorted = false → machine.step w c = some w' →
      Reordered w' t ∧ Tidy w'.propertyCache := by
    intro w t c w' hR hC hkeep hstep
    cases c with
    | optimizePropertyCache =>
        obtain ⟨cache, hperm, rfl⟩ := hR.1
        cases hstep
        have hsort := BubbleSort.sort_perm PropertyCacheEntry.accessCount w.propertyCache
        exact ⟨⟨cache, hperm.trans hsort.symm, rfl⟩, hC.1.perm hsort⟩
    | _ => cases hkeep
  have hkept : ∀ w t c w', Reordered w t ∧ Tidy w.propertyCache →
      Tidy w.propertyCache ∧ Ticks w c → c.leavesUnsorted = true → machine.step w c = some w' →
      ∃ t', machine.step t c = some t' ∧ Reordered w' t' ∧ Tidy w'.propertyCache := by
    intro w t c w' hR hC _ hstep
    obtain ⟨⟨t', ht', hR'⟩, htidy, -⟩ := hR.1.step hC.1 hC.2 hstep
    exact ⟨t', ht', hR', htidy⟩
  obtain ⟨t, ht, hR, htidy⟩ := machine.run_filter hhidden hkept
    ⟨.refl start, PropertyCacheEntry.tidy_nil⟩
    (along_ticks hno PropertyCacheEntry.tidy_nil hclock) hrun
  refine ⟨t, ht, fun now found id => ?_⟩
  rcases hR.getSurfaceDescriptor htidy now found id with ⟨hw, ht⟩ | ⟨r, r', hr, hr', heq, -⟩
  · rw [hw, ht]
  · rw [hr, hr', Option.map_some, Option.map_some, heq]

theorem optimizePropertyCache_invisible_at_seven :
    ∃ w t,
      machine.run start [.surfaces (fun _ => some 4096) (fun _ => some .zero),
        .getSurfaceDescriptor 1 2 6, .getSurfaceDescriptor 3 4 7, .getSurfaceDescriptor 5 6 7,
        .optimizePropertyCache] = some w ∧
      machine.run start [.surfaces (fun _ => some 4096) (fun _ => some .zero),
        .getSurfaceDescriptor 1 2 6, .getSurfaceDescriptor 3 4 7,
        .getSurfaceDescriptor 5 6 7] = some t ∧
      w.propertyCache.map (fun e => e.surfaceId) = [7, 6] ∧
      t.propertyCache.map (fun e => e.surfaceId) = [6, 7] ∧
      (w.getSurfaceDescriptor 7 8 7).map Prod.fst =
        (t.getSurfaceDescriptor 7 8 7).map Prod.fst := by
  have hrun : machine.run start [.surfaces (fun _ => some 4096) (fun _ => some .zero),
      .getSurfaceDescriptor 1 2 6, .getSurfaceDescriptor 3 4 7, .getSurfaceDescriptor 5 6 7,
      .optimizePropertyCache] = some _ := rfl
  have hno : ∀ id, CacheCall.invalidatePropertyCache id ∉
      [.surfaces (fun _ => some 4096) (fun _ => some .zero), .getSurfaceDescriptor 1 2 6,
        .getSurfaceDescriptor 3 4 7, .getSurfaceDescriptor 5 6 7, .optimizePropertyCache] := by
    simp
  obtain ⟨t, ht, hanswers⟩ := optimizePropertyCache_invisible hno (by decide) hrun
  cases ht
  exact ⟨_, _, hrun, rfl, rfl, rfl, hanswers 7 8 7⟩

end CachedSurfaces

end VMQemuVGA
