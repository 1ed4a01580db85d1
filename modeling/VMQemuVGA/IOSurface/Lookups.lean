import VMQemuVGA.IOSurface.Effects

/-! # Lookups and their counters

Which surfaces a call of `VMIOSurfaceManager` looks up, in which order, and how many of
these lookups the wrapping counters of the discovery cache have seen. Some lookups make
a report, which divides by the counters. -/

namespace VMQemuVGA

/-- `a / b`; `none` where it traps. -/
def divide (a b : Nat) : Option Nat := if b = 0 then none else some (a / b)

/-! ## Lookups -/

namespace Discovery

/-- The lookup is answered by the dictionary. -/
def fresh (id : Nat) (map : Nat → Option Nat) (d : Discovery) : Bool :=
  Searched id && (d.entries.find? fun e => e.surfaceId = id).isNone && (map id).isSome

/-- The rates `findSurface` reports; `time` is `total_discovery_time_ns`. -/
def report (time : Nat) (d : Discovery) : Option (Nat × Nat × Nat) :=
  (divide (d.cacheHits * 100 % u32) d.totalLookups).bind fun hitRate =>
    (divide time d.totalLookups).bind fun average =>
      (divide (d.sequentialAccessCount * 100 % u32)
        ((d.sequentialAccessCount + d.randomAccessCount) % u32)).bind fun sequential =>
          some (hitRate, average, sequential)

/-- A lookup the dictionary answers makes a report every 100 lookups, with the counters
as the lookup leaves them; `true` where that traps. -/
def traps (now id : Nat) (map : Nat → Option Nat) (d : Discovery) : Bool :=
  d.fresh id map && decide ((d.findSurface now id map).2.totalLookups % 100 = 0) &&
    ((d.findSurface now id map).2.report 0).isNone

/-- Lookups one after the other, each at its time. -/
def lookAll (map : Nat → Option Nat) : List (Nat × Nat) → Discovery → Discovery
  | [], d => d
  | l :: ls, d => lookAll map ls (d.findSurface l.1 l.2 map).2

/-- One of them traps. -/
def trapsAll (map : Nat → Option Nat) : List (Nat × Nat) → Discovery → Bool
  | [], _ => false
  | l :: ls, d => d.traps l.1 l.2 map || trapsAll map ls (d.findSurface l.1 l.2 map).2

/-- How many of them find something. -/
def foundAll (map : Nat → Option Nat) : List (Nat × Nat) → Discovery → Nat
  | [], _ => 0
  | l :: ls, d =>
      (if (d.findSurface l.1 l.2 map).1.isSome then 1 else 0) +
        foundAll map ls (d.findSurface l.1 l.2 map).2

/-- `generateDiscoveryReport`. -/
def generateReport (time fastPathHits prefetchHits accesses : Nat) (d : Discovery) :
    Option (List Nat) :=
  let operations := (d.cacheHits + d.cacheMisses) % u32
  let patterns := (d.sequentialAccessCount + d.randomAccessCount) % u32
  if operations = 0 then some []
  else
    (divide (d.cacheHits * 100 % u32) operations).bind fun hits =>
      (divide (fastPathHits * 100 % u32) operations).bind fun fast =>
        (divide (prefetchHits * 100 % u32) operations).bind fun prefetched =>
          (divide time operations).bind fun average =>
            (if patterns > 0 then divide (d.sequentialAccessCount * 100 % u32) patterns
              else some 0).bind fun sequential =>
              (if d.entries.length > 0 then divide accesses d.entries.length else some 0).bind
                fun access => some [hits, fast, prefetched, average, sequential, access]

/-- `resetDiscoveryStatistics`: the cache stays. -/
def reset (d : Discovery) : Discovery :=
  { d with totalLookups := 0, cacheHits := 0, cacheMisses := 0, sequentialAccessCount := 0,
           randomAccessCount := 0 }

variable {map : Nat → Option Nat} {d : Discovery} {now id : Nat}

theorem report_eq_none (time : Nat) : d.report time = none ↔
    d.totalLookups = 0 ∨ (d.sequentialAccessCount + d.randomAccessCount) % u32 = 0 := by
  by_cases hlookups : d.totalLookups = 0
  · simp [report, divide, hlookups]
  · by_cases haccesses : (d.sequentialAccessCount + d.randomAccessCount) % u32 = 0
    · simp [report, divide, hlookups, haccesses]
    · simp [report, divide, hlookups, haccesses]

/-- Its guards keep `generateDiscoveryReport` from trapping. -/
theorem generateReport_isSome (time fastPathHits prefetchHits accesses : Nat) :
    (d.generateReport time fastPathHits prefetchHits accesses).isSome = true := by
  simp only [generateReport]
  by_cases hoperations : (d.cacheHits + d.cacheMisses) % u32 = 0
  · simp [hoperations]
  · by_cases hpatterns : (d.sequentialAccessCount + d.randomAccessCount) % u32 = 0
    · by_cases hentries : d.entries.length = 0
      · simp [divide, hoperations, hpatterns, hentries]
      · simp [divide, hoperations, hpatterns, Nat.pos_of_ne_zero hentries, hentries]
    · by_cases hentries : d.entries.length = 0
      · simp [divide, hoperations, Nat.pos_of_ne_zero hpatterns, hpatterns, hentries]
      · simp [divide, hoperations, Nat.pos_of_ne_zero hpatterns, hpatterns,
          Nat.pos_of_ne_zero hentries, hentries]

/-! ### The counters of lookups -/

/-- `lookups` lookups, of which `accesses` found something, modulo the counters. -/
structure Counts (d : Discovery) (lookups accesses : Nat) : Prop where
  lookups : d.totalLookups = lookups % u32
  accesses : (d.sequentialAccessCount + d.randomAccessCount) % u32 = accesses % u32

/-- The counters that `Counts` reads are the same. -/
structure SameCounts (d d' : Discovery) : Prop where
  total : d'.totalLookups = d.totalLookups
  sequential : d'.sequentialAccessCount = d.sequentialAccessCount
  random : d'.randomAccessCount = d.randomAccessCount

theorem Counts.same {d' : Discovery} {n k : Nat} (h : d.Counts n k) (hs : SameCounts d d') :
    d'.Counts n k :=
  ⟨hs.total.trans h.lookups, by rw [hs.sequential, hs.random]; exact h.accesses⟩

theorem sameCounts_prefetched : SameCounts d (d.prefetched now id map) := by
  unfold prefetched
  split
  · split
    · exact ⟨rfl, rfl, rfl⟩
    · exact ⟨rfl, rfl, rfl⟩
  · exact ⟨rfl, rfl, rfl⟩

theorem sameCounts_inserted {a : Nat} : SameCounts d (d.inserted now id a) := by
  unfold inserted
  split
  · exact ⟨rfl, rfl, rfl⟩
  · exact ⟨rfl, rfl, rfl⟩

theorem sameCounts_adapted : SameCounts d d.adapted := by
  unfold adapted
  split_ifs <;> exact ⟨rfl, rfl, rfl⟩

theorem Counts.looked {n k : Nat} (h : d.Counts n k) : d.looked.Counts (n + 1) k := by
  refine ⟨?_, h.accesses⟩
  show inc32 d.totalLookups = _
  rw [h.lookups, inc32, Nat.mod_add_mod]

theorem Counts.counted {n k : Nat} (h : d.Counts n k) : (d.counted id).Counts n (k + 1) := by
  have hsum := h.accesses
  unfold Discovery.counted
  split
  · refine ⟨h.lookups, ?_⟩
    show (inc32 d.sequentialAccessCount + d.randomAccessCount) % u32 = _
    rw [inc32, Nat.mod_add_mod, Nat.add_right_comm, Nat.add_mod, hsum, ← Nat.add_mod]
  · refine ⟨h.lookups, ?_⟩
    show (d.sequentialAccessCount + inc32 d.randomAccessCount) % u32 = _
    rw [inc32, Nat.add_mod_mod, ← Nat.add_assoc, Nat.add_mod, hsum, ← Nat.add_mod]

/-- **One lookup** is counted, and so is that it found something. -/
theorem Counts.findSurface {n k : Nat} (h : d.Counts n k) :
    (d.findSurface now id map).2.Counts (n + 1)
      (k + if (d.findSurface now id map).1.isSome then 1 else 0) := by
  have hlooked : d.looked.Counts (n + 1) k := h.looked
  have hprefetched : (d.looked.prefetched now id map).Counts (n + 1) k :=
    hlooked.same sameCounts_prefetched
  unfold Discovery.findSurface
  by_cases hid : Searched id
  · rw [if_pos hid]
    cases d.entries.find? fun e => e.surfaceId = id with
    | some e =>
        have htouched : (d.looked.touched now id).Counts (n + 1) k := ⟨hlooked.1, hlooked.2⟩
        have hcounted : ((d.looked.touched now id).counted id).Counts (n + 1) (k + 1) :=
          htouched.counted
        exact ⟨hcounted.1, hcounted.2⟩
    | none =>
        cases map id with
        | none => exact ⟨hprefetched.1, hprefetched.2⟩
        | some a =>
            have hinserted : ((d.looked.prefetched now id map).inserted now id a).Counts
                (n + 1) k := hprefetched.same sameCounts_inserted
            have hcounted : (((d.looked.prefetched now id map).inserted now id a).counted
                id).Counts (n + 1) (k + 1) := hinserted.counted
            have hadapted := hcounted.same sameCounts_adapted
            exact ⟨hadapted.1, hadapted.2⟩
  · rw [if_neg hid]
    exact ⟨hlooked.1, hlooked.2⟩

/-- Lookups and finds between two resets at which no report divides by zero: with
`n` lookups and `k` finds before, a report that is due comes when neither number is a
multiple of 2³². -/
def Quiet (map : Nat → Option Nat) : List (Nat × Nat) → Nat → Nat → Discovery → Prop
  | [], _, _, _ => True
  | l :: ls, n, k, d =>
      (d.fresh l.2 map = true → (n + 1) % u32 % 100 = 0 →
        (n + 1) % u32 ≠ 0 ∧ (k + 1) % u32 ≠ 0) ∧
      Quiet map ls (n + 1) (k + if (d.findSurface l.1 l.2 map).1.isSome then 1 else 0)
        (d.findSurface l.1 l.2 map).2

/-- What the dictionary answers is found. -/
theorem isSome_of_fresh (h : d.fresh id map = true) :
    (d.findSurface now id map).1.isSome = true := by
  simp only [fresh, Bool.and_eq_true, decide_eq_true_eq, Option.isNone_iff_eq_none] at h
  obtain ⟨⟨hid, hentry⟩, hmap⟩ := h
  obtain ⟨a, ha⟩ := Option.isSome_iff_exists.mp hmap
  simp [Discovery.findSurface, hid, hentry, ha]

theorem traps_iff {n k : Nat} (h : d.Counts n k) : d.traps now id map = false ↔
    (d.fresh id map = true → (n + 1) % u32 % 100 = 0 →
      (n + 1) % u32 ≠ 0 ∧ (k + 1) % u32 ≠ 0) := by
  cases hfresh : d.fresh id map with
  | false => simp [traps, hfresh]
  | true =>
      have hcounts : (d.findSurface now id map).2.Counts (n + 1) (k + _) := h.findSurface
      rw [isSome_of_fresh hfresh, if_pos rfl] at hcounts
      have hreport : ((d.findSurface now id map).2.report 0).isNone = false ↔
          (n + 1) % u32 ≠ 0 ∧ (k + 1) % u32 ≠ 0 := by
        rw [← not_or, ← hcounts.lookups, ← hcounts.accesses,
          ← report_eq_none 0, ← Option.isNone_iff_eq_none, Bool.not_eq_true]
      rw [traps, hfresh, Bool.true_and, Bool.and_eq_false_iff, hreport, hcounts.lookups,
        decide_eq_false_iff_not, ← imp_iff_not_or]
      exact ⟨fun himp _ => himp, fun himp => himp rfl⟩

theorem trapsAll_iff {ls : List (Nat × Nat)} {n k : Nat} (h : d.Counts n k) :
    trapsAll map ls d = false ↔ Quiet map ls n k d := by
  induction ls generalizing d n k with
  | nil => simp [trapsAll, Quiet]
  | cons l ls ih =>
      rw [trapsAll, Bool.or_eq_false_iff, traps_iff h, ih h.findSurface, Quiet]

/-- **Any number of lookups** is counted. -/
theorem Counts.lookAll {ls : List (Nat × Nat)} {n k : Nat} (h : d.Counts n k) :
    (Discovery.lookAll map ls d).Counts (n + ls.length) (k + foundAll map ls d) := by
  induction ls generalizing d n k with
  | nil => exact h
  | cons l ls ih =>
      have hfirst : (d.findSurface l.1 l.2 map).2.Counts (n + 1) (k + _) := h.findSurface
      have hrest := ih hfirst
      rw [List.length_cons, Nat.add_comm ls.length, ← Nat.add_assoc, foundAll, ← Nat.add_assoc]
      exact hrest

theorem counts_start : Counts start 0 0 := ⟨rfl, rfl⟩

theorem counts_reset : d.reset.Counts 0 0 := ⟨rfl, rfl⟩

end Discovery

/-! ## The lookups of a call -/

namespace IOSurfaceManager

/-- An operation on the records of two surfaces; `both` if it looks the second one up
whether or not it finds the first. -/
def onSurfaces (now now' source dest : Nat) (both : Bool)
    (op : Nat → Nat → SurfaceStore → IOReturn × SurfaceStore) (m : IOSurfaceManager) :
    IOReturn × IOSurfaceManager :=
  match m.findSurface now source with
  | (none, m) => if both then (.notFound, (m.findSurface now' dest).2) else (.notFound, m)
  | (some a, m) =>
      match m.findSurface now' dest with
      | (none, m) => (.notFound, m)
      | (some b, m) =>
          if m.store.live a && m.store.live b then
            ((op a b m.store).1, { m with store := (op a b m.store).2 })
          else (.error, { m with wild := true })

/-- The records after a copy: only the time of the destination. -/
def copied (now : Nat) (refuse : VMIOSurface → VMIOSurface → Option IOReturn) (a b : Nat)
    (s : SurfaceStore) : IOReturn × SurfaceStore :=
  match refuse (s.records a) (s.records b) with
  | some r => (r, s)
  | none => (.success, s.setRecord b { s.records b with lastAccessTime := now })

def copySurface (now now' source dest : Nat) (m : IOSurfaceManager) :
    IOReturn × IOSurfaceManager :=
  if source = 0 ∨ dest = 0 then (.badArgument, m)
  else if source = dest then (.success, m)
  else
    m.onSurfaces now now' source dest false <| copied now' fun v w =>
      if v.width ≠ w.width ∨ v.height ≠ w.height ∨
          v.descriptor.pixelFormat ≠ w.descriptor.pixelFormat then some .badArgument
      else if v.memory = none ∨ w.memory = none ∨ v.baseAddress = none ∨ w.baseAddress = none then
        some .notReady
      else none

def copySurfaceRegion (now now' source dest srcX srcY dstX dstY width height : Nat)
    (m : IOSurfaceManager) : IOReturn × IOSurfaceManager :=
  if source = 0 ∨ dest = 0 ∨ width = 0 ∨ height = 0 then (.badArgument, m)
  else
    m.onSurfaces now now' source dest true <| copied now' fun v w =>
      if v.baseAddress = none ∨ w.baseAddress = none then some .notReady
      else if (srcX + width) % u32 > v.width ∨ (srcY + height) % u32 > v.height ∨
          (dstX + width) % u32 > w.width ∨ (dstY + height) % u32 > w.height then some .badArgument
      else if v.descriptor.pixelFormat ≠ w.descriptor.pixelFormat then some .badArgument
      else none

/-- The lookups of `compactSurfaceMemory`, up to the surface it would destroy. -/
def compactLookups (clock : Nat → Nat) : List Nat → IOSurfaceManager → List (Nat × Nat)
  | [], _ => []
  | a :: rest, m =>
      let now := clock rest.length
      (now, (m.store.records a).surfaceId) ::
        match m.findSurface now (m.store.records a).surfaceId with
        | (none, m) => compactLookups clock rest m
        | (some b, m) =>
            if m.store.live b then
              if shouldEvict now (m.store.records b) && (m.store.records a).lockCount = 0 &&
                  decide ((m.store.records a).refCount ≤ 1) then []
              else compactLookups clock rest m
            else compactLookups clock rest { m with wild := true }

/-- The two lookups of an operation on two surfaces. -/
def pairLookups (now now' source dest : Nat) (both : Bool) (m : IOSurfaceManager) :
    List (Nat × Nat) :=
  (now, source) :: if both || (m.served source).isSome then [(now', dest)] else []

/-- The lookups of a call, in their order: times and ids. -/
def lookups (cfg : IOSurfaceConfig) (m : IOSurfaceManager) : ManagerCall → List (Nat × Nat)
  | .createSurface .. | .updateSurfaceDescriptor .. | .evictUnusedSurfaces .. | .registerClient ..
  | .unregisterClient .. | .unshareSurface .. => []
  | .findSurface now id | .lockSurface now id _ | .unlockSurface now id => [(now, id)]
  | .destroySurface now id _ | .getSurfaceDescriptor now id => if id = 0 then [] else [(now, id)]
  | .lockSurfacePlane now id plane | .unlockSurfacePlane now id plane =>
      if plane ≥ 4 then [] else [(now, id)]
  | .convertSurfaceFormat now now' source dest format =>
      if source = 0 ∨ dest = 0 ∨ source = dest ∨ format.validate cfg.yuv ≠ .success then []
      else m.pairLookups now now' source dest false
  | .compactSurfaceMemory clock => compactLookups clock m.store.surfaces.reverse m
  | .shareSurface now id descId _ _ => if id = 0 ∨ descId ≠ id then [] else [(now, id)]
  | .canClientAccessSurface now client id =>
      if client = 0 ∨ id = 0 ∨ m.clients.findClient client = none then [] else [(now, id)]

/-! ### They are what the call does to the cache -/

variable {cfg : IOSurfaceConfig} {m m' : IOSurfaceManager} {now now' id source dest : Nat}

/-- The cache after some lookups. -/
def LooksUp (m m' : IOSurfaceManager) (ls : List (Nat × Nat)) : Prop :=
  m'.discovery = Discovery.lookAll m.store.surfaceMap ls m.discovery

theorem looksUp_onSurface {β : Type} {stop : IOReturn → β}
    {op : Nat → SurfaceStore → β × SurfaceStore} :
    LooksUp m (m.onSurface now id stop op).2 [(now, id)] := by
  rcases onSurface_cases (rfl : m.onSurface now id stop op = _) with
    ⟨-, h⟩ | ⟨a, -, -, h⟩ | ⟨a, -, -, h⟩
  · rw [h]; rfl
  · rw [h]; rfl
  · rw [h]; rfl

theorem looksUp_onSurfaces {both : Bool} {op : Nat → Nat → SurfaceStore → IOReturn × SurfaceStore} :
    LooksUp m (m.onSurfaces now now' source dest both op).2
      (m.pairLookups now now' source dest both) := by
  rw [LooksUp, onSurfaces, findSurface_eq, pairLookups]
  cases m.served source with
  | none =>
      cases both with
      | true => rfl
      | false => rfl
  | some a =>
      dsimp only
      rw [findSurface_eq, Option.isSome_some, Bool.or_true, if_pos rfl]
      cases (m.lookedUp now source).served dest with
      | none => rfl
      | some b =>
          dsimp only
          split_ifs
          · rfl
          · rfl

theorem looksUp_convertSurfaceFormat {format : PixelFormat} :
    LooksUp m (m.convertSurfaceFormat cfg now now' source dest format).2
      (m.lookups cfg (.convertSurfaceFormat now now' source dest format)) := by
  rw [lookups, convertSurfaceFormat]
  by_cases hids : source = 0 ∨ dest = 0
  · rw [if_pos hids, if_pos (by tauto)]
    rfl
  by_cases hsame : source = dest
  · rw [if_neg hids, if_pos hsame, if_pos (by tauto)]
    rfl
  by_cases hformat : format.validate cfg.yuv ≠ .success
  · rw [if_neg hids, if_neg hsame, if_pos hformat, if_pos (by tauto)]
    rfl
  rw [if_neg hids, if_neg hsame, if_neg hformat, if_neg (by tauto)]
  -- a conversion is an operation on two surfaces
  have hpair : LooksUp m (m.onSurfaces now now' source dest false fun a b s =>
      s.convertSurfaceFormat now' format a b).2 (m.pairLookups now now' source dest false) :=
    looksUp_onSurfaces
  rw [onSurfaces] at hpair
  rcases hfind : m.findSurface now source with ⟨_ | a, t⟩
  · rw [hfind] at hpair
    exact hpair
  · rw [hfind] at hpair
    exact hpair

theorem looksUp_compact {clock : Nat → Nat} {as : List Nat} (h : compact clock as m = some m') :
    LooksUp m m' (compactLookups clock as m) := by
  induction as generalizing m with
  | nil =>
      cases h
      rfl
  | cons a as ih =>
      rw [LooksUp, compactLookups, Discovery.lookAll]
      rw [compact, findSurface_eq] at h
      rw [findSurface_eq]
      cases hs : m.served (m.store.records a).surfaceId with
      | none =>
          rw [hs] at h
          exact ih h
      | some b =>
          rw [hs] at h
          dsimp only at h ⊢
          split_ifs at h ⊢ with hlive hevict
          · exact ih h
          · exact ih h

/-- **The lookups of a call** are all that it does to the counters of the cache. -/
theorem looksUp_after {c : ManagerCall} (h : m.after cfg c = some m') :
    LooksUp m m' (m.lookups cfg c) := by
  cases c with
  | createSurface d env =>
      cases h
      rfl
  | findSurface now id =>
      cases h
      rw [findSurface_eq]
      rfl
  | destroySurface now id number =>
      cases h
      rw [lookups, destroySurface]
      split_ifs
      · rfl
      · exact looksUp_onSurface
  | getSurfaceDescriptor now id =>
      cases h
      rw [lookups, getSurfaceDescriptor, findSurface_eq]
      split_ifs
      · rfl
      · cases m.served id with
        | none => rfl
        | some a =>
            dsimp only
            split_ifs
            · rfl
            · rfl
  | convertSurfaceFormat now now' source dest format =>
      cases h
      exact looksUp_convertSurfaceFormat
  | lockSurface now id readOnly =>
      cases h
      exact looksUp_onSurface
  | unlockSurface now id =>
      cases h
      exact looksUp_onSurface
  | lockSurfacePlane now id plane =>
      cases h
      rw [lookups, lockSurfacePlane]
      split_ifs
      · rfl
      · exact looksUp_onSurface
  | unlockSurfacePlane now id plane =>
      cases h
      rw [lookups, unlockSurfacePlane]
      split_ifs
      · rfl
      · exact looksUp_onSurface
  | updateSurfaceDescriptor id d buffer =>
      cases h
      rfl
  | evictUnusedSurfaces now limit enough =>
      cases h
      rfl
  | compactSurfaceMemory clock => exact looksUp_compact h
  | registerClient env =>
      cases h
      rfl
  | unregisterClient id number =>
      cases h
      rfl
  | shareSurface now id descId targets array =>
      cases h
      rw [lookups, shareSurface]
      by_cases hid : id = 0
      · rw [if_pos hid, if_pos (.inl hid)]
        rfl
      by_cases hdesc : descId ≠ id
      · rw [if_neg hid, if_pos hdesc, if_pos (.inr hdesc)]
        rfl
      rw [if_neg hid, if_neg hdesc, if_neg (not_or.mpr ⟨hid, hdesc⟩), findSurface_eq]
      cases m.served id with
      | none => rfl
      | some a =>
          dsimp only
          split_ifs
          · rfl
          · rfl
  | unshareSurface id client =>
      cases h
      rfl
  | canClientAccessSurface now client id =>
      cases h
      rw [lookups, canClientAccessSurface]
      by_cases hids : client = 0 ∨ id = 0
      · rw [if_pos hids, if_pos (by tauto)]
        rfl
      by_cases hclient : m.clients.findClient client = none
      · rw [if_neg hids, if_pos hclient, if_pos (.inr (.inr hclient))]
        rfl
      rw [if_neg hids, if_neg hclient, if_neg (by tauto), findSurface_eq]
      cases m.served id with
      | none => rfl
      | some a => rfl

/-- The lookups of the two copies. -/
def copyLookups (now now' source dest : Nat) (m : IOSurfaceManager) : List (Nat × Nat) :=
  if source = 0 ∨ dest = 0 ∨ source = dest then [] else m.pairLookups now now' source dest false

def copyRegionLookups (now now' source dest width height : Nat) (m : IOSurfaceManager) :
    List (Nat × Nat) :=
  if source = 0 ∨ dest = 0 ∨ width = 0 ∨ height = 0 then []
  else m.pairLookups now now' source dest true

theorem looksUp_copySurface : LooksUp m (m.copySurface now now' source dest).2
    (m.copyLookups now now' source dest) := by
  rw [copySurface, copyLookups]
  by_cases hids : source = 0 ∨ dest = 0
  · rw [if_pos hids, if_pos (by tauto)]
    rfl
  by_cases hsame : source = dest
  · rw [if_neg hids, if_pos hsame, if_pos (by tauto)]
    rfl
  rw [if_neg hids, if_neg hsame, if_neg (by tauto)]
  exact looksUp_onSurfaces

theorem looksUp_copySurfaceRegion {srcX srcY dstX dstY width height : Nat} :
    LooksUp m (m.copySurfaceRegion now now' source dest srcX srcY dstX dstY width height).2
      (m.copyRegionLookups now now' source dest width height) := by
  rw [copySurfaceRegion, copyRegionLookups]
  split_ifs
  · rfl
  · exact looksUp_onSurfaces

end IOSurfaceManager

end VMQemuVGA
