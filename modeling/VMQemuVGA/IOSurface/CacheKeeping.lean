import VMQemuVGA.Lib.BubbleSort
import VMQemuVGA.Lib.FirstMatch
import VMQemuVGA.IOSurface.Effects
import Mathlib.Data.Nat.Basic

/-! # Keeping the caches

Both caches have calls that empty them, fill them ahead of time, sort them by use, and one
that invalidates an entry. Here the slots have the access counts that the sorting goes by.
What else becomes of the surfaces is left open: between any two calls the dictionary, and what
the objects in it say, may change to anything. -/

namespace VMQemuVGA

/-! ## The discovery cache -/

/-- A slot of `g_surface_cache` in use, with its `access_count`. -/
structure SurfaceCacheEntry extends DiscoveryEntry where
  accessCount : Nat
  deriving DecidableEq, Repr

/-- `g_surface_cache` and what is kept along with it. -/
structure SurfaceCache where
  entries : List SurfaceCacheEntry
  totalLookups : Nat
  cacheHits : Nat
  cacheMisses : Nat
  sequentialAccessCount : Nat
  randomAccessCount : Nat
  lastAccessed : Nat
  /-- `g_sequential_prediction_window` -/
  window : Nat
  deriving DecidableEq, Repr

namespace SurfaceCache

def start : SurfaceCache := ⟨[], 0, 0, 0, 0, 0, 0, 8⟩

/-- Without the access counts. -/
def discovery (c : SurfaceCache) : Discovery :=
  ⟨c.entries.map SurfaceCacheEntry.toDiscoveryEntry, c.totalLookups, c.cacheHits, c.cacheMisses,
    c.sequentialAccessCount, c.randomAccessCount, c.lastAccessed, c.window⟩

def looked (c : SurfaceCache) : SurfaceCache := { c with totalLookups := inc32 c.totalLookups }

def missed (c : SurfaceCache) : SurfaceCache := { c with cacheMisses := inc32 c.cacheMisses }

def counted (id : Nat) (c : SurfaceCache) : SurfaceCache :=
  if c.lastAccessed = id - 1 then
    { c with sequentialAccessCount := inc32 c.sequentialAccessCount }
  else { c with randomAccessCount := inc32 c.randomAccessCount }

def touched (now id : Nat) (c : SurfaceCache) : SurfaceCache :=
  { c with
    entries := FirstMatch.modify (fun e => e.surfaceId = id)
      (fun e => { e with lastAccessTime := now, accessCount := inc32 e.accessCount }) c.entries
    cacheHits := inc32 c.cacheHits }

def prefetched (now id : Nat) (map : Nat → Option Nat) (c : SurfaceCache) : SurfaceCache :=
  if c.sequentialAccessCount > c.randomAccessCount * 2 % u32 ∧ id + 1 < id + c.window ∧
      c.entries.length < 64 then
    match map (id + 1) with
    | none => c
    | some a => { c with entries := c.entries ++ [⟨⟨id + 1, a, now⟩, 0⟩] }
  else c

def inserted (now id a : Nat) (c : SurfaceCache) : SurfaceCache :=
  if c.entries.length < 64 then { c with entries := c.entries ++ [⟨⟨id, a, now⟩, 1⟩] }
  else
    { c with entries :=
        c.entries.set (lruIndex (c.entries.map fun e => e.lastAccessTime)) ⟨⟨id, a, now⟩, 1⟩ }

def adapted (c : SurfaceCache) : SurfaceCache :=
  if c.totalLookups > 0 ∧ c.totalLookups % 500 = 0 then
    if c.cacheHits > c.cacheMisses * 3 % u32 then
      if c.window < 16 then { c with window := c.window + 1 } else c
    else if c.cacheMisses > c.cacheHits * 2 % u32 then
      if c.window > 4 then { c with window := c.window - 1 } else c
    else c
  else c

def findSurface (now id : Nat) (map : Nat → Option Nat) (c : SurfaceCache) :
    Option Nat × SurfaceCache :=
  if Discovery.Searched id then
    match c.entries.find? fun e => e.surfaceId = id with
    | some e => (some e.object, { (c.looked.touched now id).counted id with lastAccessed := id })
    | none =>
        match map id with
        | none => (none, { (c.looked.prefetched now id map).missed with lastAccessed := id })
        | some a =>
            (some a, { (((c.looked.prefetched now id map).inserted now id a).counted id).adapted
              with lastAccessed := id })
  else (none, c.looked.missed)

def flushDiscoveryCache (c : SurfaceCache) : SurfaceCache :=
  { c with entries := [], lastAccessed := 0 }

/-- One turn of the loop of `prewarmDiscoveryCache`. -/
def prewarmed (map : Nat → Option Nat) (c : SurfaceCache) (id : Nat) : SurfaceCache :=
  if c.entries.length < 64 then
    if id = 0 then c
    else
      match map id with
      | none => c
      | some a => { c with entries := c.entries ++ [⟨⟨id, a, 0⟩, 0⟩] }
  else c

def prewarmDiscoveryCache (map : Nat → Option Nat) (ids : List Nat) (c : SurfaceCache) :
    IOReturn × SurfaceCache :=
  if ids = [] then (.badArgument, c) else (.success, ids.foldl (prewarmed map) c)

/-- The loops compare the access counts of neighbours. -/
def optimizeDiscoveryCache (c : SurfaceCache) : SurfaceCache :=
  { c with entries := BubbleSort.sort SurfaceCacheEntry.accessCount c.entries }

def resetDiscoveryStatistics (c : SurfaceCache) : SurfaceCache :=
  { c with
    totalLookups := 0
    cacheHits := 0
    cacheMisses := 0
    sequentialAccessCount := 0
    randomAccessCount := 0 }

/-! ### Lookups do not read the access counts -/

section
variable {c : SurfaceCache} {now id a : Nat} {map : Nat → Option Nat}

theorem discovery_counted : (c.counted id).discovery = c.discovery.counted id := by
  unfold counted Discovery.counted
  split
  next h => rw [if_pos (show c.discovery.lastAccessed = id - 1 from h)]; rfl
  next h => rw [if_neg (show ¬ c.discovery.lastAccessed = id - 1 from h)]; rfl

theorem discovery_adapted : c.adapted.discovery = c.discovery.adapted := by
  unfold adapted Discovery.adapted
  show _ = if c.totalLookups > 0 ∧ c.totalLookups % 500 = 0 then
      if c.cacheHits > c.cacheMisses * 3 % u32 then
        if c.window < 16 then { c.discovery with window := c.window + 1 } else c.discovery
      else if c.cacheMisses > c.cacheHits * 2 % u32 then
        if c.window > 4 then { c.discovery with window := c.window - 1 } else c.discovery
      else c.discovery
    else c.discovery
  simp only [apply_ite discovery]
  rfl

/-- The entries are searched the same way. -/
theorem find?_discovery (p : DiscoveryEntry → Bool) :
    c.discovery.entries.find? p =
      (c.entries.find? fun e => p e.toDiscoveryEntry).map SurfaceCacheEntry.toDiscoveryEntry :=
  List.find?_map

theorem discovery_touched : (c.touched now id).discovery = c.discovery.touched now id := by
  have hentries : (FirstMatch.modify (fun e : SurfaceCacheEntry => e.surfaceId = id)
      (fun e => { e with lastAccessTime := now, accessCount := inc32 e.accessCount })
      c.entries).map SurfaceCacheEntry.toDiscoveryEntry =
        FirstMatch.modify (fun e : DiscoveryEntry => e.surfaceId = id)
          (fun e => { e with lastAccessTime := now }) c.discovery.entries :=
    FirstMatch.map_modify_comm (fun _ => rfl) fun _ => rfl
  rw [FirstMatch.modify_eq _ _ c.discovery.entries] at hentries
  unfold touched discovery
  rw [hentries]
  rfl

theorem length_discovery : c.discovery.entries.length = c.entries.length := List.length_map _

theorem discovery_prefetched :
    (c.prefetched now id map).discovery = c.discovery.prefetched now id map := by
  unfold prefetched Discovery.prefetched
  rw [length_discovery]
  show _ = if c.sequentialAccessCount > c.randomAccessCount * 2 % u32 ∧ id + 1 < id + c.window ∧
      c.entries.length < 64 then _ else c.discovery
  split
  · cases map (id + 1) with
    | none => rfl
    | some a =>
        unfold discovery
        rw [List.map_append]
        rfl
  · rfl

theorem discovery_inserted : (c.inserted now id a).discovery = c.discovery.inserted now id a := by
  unfold inserted Discovery.inserted
  rw [length_discovery]
  split
  · unfold discovery
    rw [List.map_append]
    rfl
  · have htimes : c.discovery.entries.map DiscoveryEntry.lastAccessTime =
        c.entries.map fun e => e.lastAccessTime := List.map_map
    rw [htimes]
    unfold discovery
    rw [List.map_set]

/-- **The cache with access counts is the cache without**: a lookup answers the same and
leaves the same behind. -/
theorem findSurface_discovery (now id : Nat) (map : Nat → Option Nat) (c : SurfaceCache) :
    c.discovery.findSurface now id map =
      ((c.findSurface now id map).1, (c.findSurface now id map).2.discovery) := by
  unfold findSurface Discovery.findSurface
  split
  · rw [find?_discovery]
    cases c.entries.find? fun e => decide (e.surfaceId = id) with
    | some e =>
        refine Prod.ext rfl ?_
        have h : ((c.looked.touched now id).counted id).discovery =
            (c.looked.touched now id).discovery.counted id := discovery_counted
        rw [discovery_touched] at h
        exact (congrArg (fun d : Discovery => { d with lastAccessed := id }) h).symm
    | none =>
        cases map id with
        | none =>
            refine Prod.ext rfl ?_
            have h : (c.looked.prefetched now id map).discovery =
                c.looked.discovery.prefetched now id map := discovery_prefetched
            exact (congrArg (fun d : Discovery => { d.missed with lastAccessed := id }) h).symm
        | some a =>
            refine Prod.ext rfl ?_
            have h := discovery_adapted
              (c := ((c.looked.prefetched now id map).inserted now id a).counted id)
            rw [discovery_counted, discovery_inserted, discovery_prefetched] at h
            exact (congrArg (fun d : Discovery => { d with lastAccessed := id }) h).symm
  · rfl

end

end SurfaceCache

/-! ## The property cache -/

/-- A slot of `g_property_cache` in use, with its `access_count`. -/
structure PropertyCacheEntry extends PropertyEntry where
  accessCount : Nat
  deriving DecidableEq, Repr

namespace PropertyCacheEntry

/-- The first entry of `id` that counts. -/
def lookup (id : Nat) (cache : List PropertyCacheEntry) : Option PropertyCacheEntry :=
  cache.find? fun e => e.surfaceId = id && e.isValidated

def modifyFirst (id : Nat) (f : PropertyCacheEntry → PropertyCacheEntry)
    (cache : List PropertyCacheEntry) : List PropertyCacheEntry :=
  FirstMatch.modify (fun e => e.surfaceId = id && e.isValidated) f cache

def insert (now id : Nat) (d : IOSurfaceDescriptor) (cache : List PropertyCacheEntry) :
    List PropertyCacheEntry :=
  if cache.length < 128 then cache ++ [⟨⟨id, d, now, true, false⟩, 1⟩]
  else
    cache.set (lruIndex (cache.map fun e => e.lastAccessTime)) ⟨⟨id, d, now, true, false⟩, 1⟩

/-- The part of `getSurfaceDescriptor` behind the surface it has found. -/
def serve (now id : Nat) (own : IOSurfaceDescriptor) (cache : List PropertyCacheEntry) :
    IOSurfaceDescriptor × List PropertyCacheEntry :=
  match lookup id cache with
  | none => (own, insert now id own cache)
  | some e =>
      if e.needsRefresh then
        (own, insert now id own (modifyFirst id (fun e => { e with needsRefresh := false }) cache))
      else
        (e.descriptor, modifyFirst id
          (fun e => { e with lastAccessTime := now, accessCount := inc32 e.accessCount }) cache)

/-- The first entry of the id is marked, and whether it counts is not looked at. -/
def invalidatePropertyCache (id : Nat) (cache : List PropertyCacheEntry) :
    List PropertyCacheEntry :=
  FirstMatch.modify (fun e => e.surfaceId = id)
    (fun e => { e with needsRefresh := true, isValidated := false }) cache

def optimizePropertyCache (cache : List PropertyCacheEntry) : List PropertyCacheEntry :=
  BubbleSort.sort PropertyCacheEntry.accessCount cache

/-! ### Neither do property lookups -/

section
variable {now id : Nat} {own : IOSurfaceDescriptor} {cache : List PropertyCacheEntry}

/-- Without the access counts. -/
def properties (cache : List PropertyCacheEntry) : List PropertyEntry :=
  cache.map PropertyCacheEntry.toPropertyEntry

theorem properties_modifyFirst {f : PropertyCacheEntry → PropertyCacheEntry}
    {f' : PropertyEntry → PropertyEntry} (hf : ∀ e, (f e).toPropertyEntry = f' e.toPropertyEntry) :
    properties (modifyFirst id f cache) = PropertyEntry.modifyFirst id f' (properties cache) := by
  have h := FirstMatch.map_modify_comm (l := cache)
    (p := fun e => e.surfaceId = id && e.isValidated)
    (q := fun e : PropertyEntry => e.surfaceId = id && e.isValidated) (fun _ => rfl) hf
  rw [FirstMatch.modify_eq _ _ (cache.map _)] at h
  exact h

theorem properties_insert :
    properties (insert now id own cache) = PropertyEntry.insert now id own (properties cache) := by
  have hlength : (properties cache).length = cache.length := List.length_map _
  have htimes : (properties cache).map PropertyEntry.lastAccessTime =
      cache.map fun e => e.lastAccessTime := List.map_map
  unfold insert PropertyEntry.insert
  rw [hlength, htimes]
  split
  · exact List.map_append
  · exact List.map_set

/-- **The cache with access counts is the cache without**, here too. -/
theorem serve_properties (now id : Nat) (own : IOSurfaceDescriptor)
    (cache : List PropertyCacheEntry) :
    PropertyEntry.serve now id own (properties cache) =
      ((serve now id own cache).1, properties (serve now id own cache).2) := by
  have hlookup : PropertyEntry.lookup id (properties cache) =
      (lookup id cache).map PropertyCacheEntry.toPropertyEntry := List.find?_map
  unfold serve PropertyEntry.serve
  rw [hlookup]
  cases lookup id cache with
  | none => exact Prod.ext rfl properties_insert.symm
  | some e =>
      dsimp only [Option.map_some]
      split
      · have hrefreshed : properties (modifyFirst id (fun e => { e with needsRefresh := false })
            cache) = PropertyEntry.modifyFirst id (fun e => { e with needsRefresh := false })
              (properties cache) := properties_modifyFirst fun _ => rfl
        refine Prod.ext rfl ?_
        rw [properties_insert, hrefreshed]
      · exact Prod.ext rfl (properties_modifyFirst fun _ => rfl).symm

end

end PropertyCacheEntry

/-! ## Both caches over the surfaces -/

structure CachedSurfaces where
  surfaceCache : SurfaceCache
  /-- `g_property_cache` -/
  propertyCache : List PropertyCacheEntry
  /-- `m_surface_map` -/
  surfaceMap : Nat → Option Nat
  /-- what `getSurfaceDescriptor` works out from the object at an address, if there is one -/
  described : Nat → Option IOSurfaceDescriptor

namespace CachedSurfaces

def start : CachedSurfaces := ⟨.start, [], fun _ => none, fun _ => none⟩

def findSurface (now id : Nat) (w : CachedSurfaces) : Option Nat × CachedSurfaces :=
  let r := w.surfaceCache.findSurface now id w.surfaceMap
  (r.1, { w with surfaceCache := r.2 })

/-- `now` is read before the surface is looked up, `found` in the lookup. With the address of
an object that no longer exists it is not known what follows. -/
def getSurfaceDescriptor (now found id : Nat) (w : CachedSurfaces) :
    Option (Except IOReturn IOSurfaceDescriptor × CachedSurfaces) :=
  if id = 0 then some (.error .badArgument, w)
  else
    match w.findSurface found id with
    | (none, w) => some (.error .notFound, w)
    | (some a, w) =>
        (w.described a).map fun own =>
          let r := PropertyCacheEntry.serve now id own w.propertyCache
          (.ok r.1, { w with propertyCache := r.2 })

/-- An id handed to `prewarmPropertyCache`, and what the clock shows in the call for it. -/
structure Prewarming where
  surfaceId : Nat
  now : Nat
  found : Nat

/-- The loop of `prewarmPropertyCache`. -/
def prewarmProperties : List Prewarming → CachedSurfaces → Option CachedSurfaces
  | [], w => some w
  | p :: ps, w =>
      if w.propertyCache.length < 128 then
        if p.surfaceId = 0 then prewarmProperties ps w
        else
          (w.getSurfaceDescriptor p.now p.found p.surfaceId).bind fun r => prewarmProperties ps r.2
      else some w

end CachedSurfaces

/-! ## Runs -/

inductive CacheCall where
  | findSurface (now id : Nat)
  | getSurfaceDescriptor (now found id : Nat)
  | flushDiscoveryCache
  | prewarmDiscoveryCache (ids : List Nat)
  | optimizeDiscoveryCache
  | resetDiscoveryStatistics
  | flushPropertyCache
  | invalidatePropertyCache (id : Nat)
  | prewarmPropertyCache (ps : List CachedSurfaces.Prewarming)
  | optimizePropertyCache
  /-- something else happens to the surfaces -/
  | surfaces (surfaceMap : Nat → Option Nat) (described : Nat → Option IOSurfaceDescriptor)

namespace CachedSurfaces

def step (w : CachedSurfaces) : CacheCall → Option CachedSurfaces
  | .findSurface now id => some (w.findSurface now id).2
  | .getSurfaceDescriptor now found id => (w.getSurfaceDescriptor now found id).map Prod.snd
  | .flushDiscoveryCache => some { w with surfaceCache := w.surfaceCache.flushDiscoveryCache }
  | .prewarmDiscoveryCache ids =>
      some { w with surfaceCache := (w.surfaceCache.prewarmDiscoveryCache w.surfaceMap ids).2 }
  | .optimizeDiscoveryCache =>
      some { w with surfaceCache := w.surfaceCache.optimizeDiscoveryCache }
  | .resetDiscoveryStatistics =>
      some { w with surfaceCache := w.surfaceCache.resetDiscoveryStatistics }
  | .flushPropertyCache => some { w with propertyCache := [] }
  | .invalidatePropertyCache id =>
      some { w with propertyCache := PropertyCacheEntry.invalidatePropertyCache id w.propertyCache }
  | .prewarmPropertyCache ps => w.prewarmProperties ps
  | .optimizePropertyCache =>
      some { w with propertyCache := PropertyCacheEntry.optimizePropertyCache w.propertyCache }
  | .surfaces surfaceMap described =>
      some { w with surfaceMap := surfaceMap, described := described }

def machine : Machine CachedSurfaces CacheCall where
  init := start
  step := step

end CachedSurfaces

end VMQemuVGA
