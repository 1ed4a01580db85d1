import VMQemuVGA.IOSurface.Lookups

/-! # Averages and rates of `VMIOSurfaceManager`

The counters of the manager wrap, and resets put some of them back to zero. Beside the
counters the model keeps what has happened since the last reset: the counters are
these numbers modulo their width, and a division by zero is a matter of them alone. -/

namespace VMQemuVGA

/-! ## The property statistics -/

/-- `g_property_stats`, as far as the reports read it. -/
structure PropertyStats where
  lookups : Nat
  cacheHits : Nat
  validationFailures : Nat
  deriving DecidableEq, Repr

namespace PropertyStats

def zero : PropertyStats := ⟨0, 0, 0⟩

def looked (p : PropertyStats) : PropertyStats := { p with lookups := inc32 p.lookups }

def failed (p : PropertyStats) : PropertyStats :=
  { p with validationFailures := inc32 p.validationFailures }

def hit (p : PropertyStats) : PropertyStats := { p with cacheHits := inc32 p.cacheHits }

/-- The rates both reports compute; `time` is `total_property_time_ns`. -/
def rates (time : Nat) (p : PropertyStats) : Option (Nat × Nat × Nat) :=
  (divide (p.cacheHits * 100 % u32) p.lookups).bind fun hitRate =>
    (divide time p.lookups).bind fun average =>
      (divide ((p.lookups + (u32 - p.validationFailures)) % u32 * 100 % u32) p.lookups).bind
        fun success => some (hitRate, average, success)

/-- `generatePropertyReport`. -/
def generateReport (time : Nat) (p : PropertyStats) : Option (Nat × Nat × Nat) :=
  if p.lookups = 0 then some (0, 0, 0) else p.rates time

theorem rates_eq_none {p : PropertyStats} (time : Nat) : p.rates time = none ↔ p.lookups = 0 := by
  by_cases h : p.lookups = 0
  · simp [rates, divide, h]
  · simp [rates, divide, h]

theorem generateReport_isSome {p : PropertyStats} (time : Nat) :
    (p.generateReport time).isSome = true := by
  rw [generateReport]
  split_ifs with h
  · rfl
  · rw [Option.isSome_iff_ne_none, ne_eq, rates_eq_none]
    exact h

end PropertyStats

namespace IOSurfaceManager

/-- The property cache answers for a surface. -/
def cached (id : Nat) (m : IOSurfaceManager) : Bool :=
  match PropertyEntry.lookup id m.properties with
  | none => false
  | some e => !e.needsRefresh

/-- `getSurfaceDescriptor` gets to its own computation, and so to its report. -/
def computes (id : Nat) (m : IOSurfaceManager) : Bool :=
  id ≠ 0 && (m.served id).any (fun a => m.store.live a) && !m.cached id

/-- What `getSurfaceDescriptor` counts. -/
def describeStats (id : Nat) (m : IOSurfaceManager) (p : PropertyStats) : PropertyStats :=
  if id = 0 ∨ m.served id = none then p.looked.failed
  else if m.cached id then p.looked.hit
  else p.looked

/-- Every 50 lookups `getSurfaceDescriptor` makes a report; `true` where that traps. -/
def describeTraps (id : Nat) (m : IOSurfaceManager) (p : PropertyStats) : Bool :=
  m.computes id && decide (p.looked.lookups % 50 = 0) && (p.looked.rates 0).isNone

end IOSurfaceManager

/-! ## The averages -/

/-- The averages of `getIOSurfaceStats`; the times are the sums kept for them. -/
def averages (allocTime lockTime copyTime created locks copies : Nat) :
    Option (Nat × Nat × Nat) :=
  if (created + locks + copies) % u64 > 0 then
    (divide allocTime created).bind fun alloc =>
      (divide lockTime ((locks + 1) % u64)).bind fun lock =>
        (divide copyTime ((copies + 1) % u64)).bind fun copy => some (alloc, lock, copy)
  else some (0, 0, 0)

/-- The averages `logPerformanceData` prints, under its own guard. -/
def loggedAverages (allocTime lockTime copyTime created locks copies : Nat) :
    Option (Nat × Nat × Nat) :=
  if created > 0 then
    (divide allocTime created).bind fun alloc =>
      (divide lockTime ((locks + 1) % u64)).bind fun lock =>
        (divide copyTime ((copies + 1) % u64)).bind fun copy => some (alloc, lock, copy)
  else some (0, 0, 0)

theorem averages_eq_none {created locks copies : Nat} (t t' t'' : Nat) :
    averages t t' t'' created locks copies = none ↔
      (created + locks + copies) % u64 ≠ 0 ∧
        (created = 0 ∨ (locks + 1) % u64 = 0 ∨ (copies + 1) % u64 = 0) := by
  by_cases hsum : (created + locks + copies) % u64 = 0
  · simp [averages, hsum]
  · rw [averages, if_pos (Nat.pos_of_ne_zero hsum)]
    by_cases hcreated : created = 0
    · simp [divide, hcreated] at hsum ⊢
      exact hsum
    by_cases hlocks : (locks + 1) % u64 = 0
    · simp [divide, hcreated, hlocks, hsum]
    by_cases hcopies : (copies + 1) % u64 = 0
    · simp [divide, hcreated, hlocks, hcopies, hsum]
    · simp [divide, hcreated, hlocks, hcopies]

theorem loggedAverages_eq_none {created locks copies : Nat} (t t' t'' : Nat) :
    loggedAverages t t' t'' created locks copies = none ↔
      created ≠ 0 ∧ ((locks + 1) % u64 = 0 ∨ (copies + 1) % u64 = 0) := by
  by_cases hcreated : created = 0
  · simp [loggedAverages, hcreated]
  · rw [loggedAverages, if_pos (Nat.pos_of_ne_zero hcreated)]
    by_cases hlocks : (locks + 1) % u64 = 0
    · simp [divide, hcreated, hlocks]
    by_cases hcopies : (copies + 1) % u64 = 0
    · simp [divide, hcreated, hlocks, hcopies]
    · simp [divide, hcreated, hlocks, hcopies]

/-! ## Runs -/

/-- A call that counts, looks surfaces up or reads statistics. -/
inductive MeteredCall where
  | call (c : ManagerCall)
  /-- `getSurfaceDescriptor` without a place to put it -/
  | nullDescriptor
  | copySurface (now now' source dest : Nat)
  | copySurfaceRegion (now now' source dest srcX srcY dstX dstY width height : Nat)
  /-- `given` and `room` say that the buffer is there and large enough; also
  `getPerformanceStats` -/
  | getIOSurfaceStats (given room : Bool)
  | logPerformanceData
  | generateDiscoveryReport
  | generatePropertyReport
  | resetIOSurfaceCounters
  | resetPerformanceCounters
  | resetDiscoveryStatistics
  | resetPropertyStatistics

/-- What has happened since the last reset of the respective counters. -/
structure SinceReset where
  created : Nat
  locks : Nat
  copies : Nat
  lookups : Nat
  /-- lookups that found something -/
  accesses : Nat
  descriptors : Nat
  deriving DecidableEq, Repr

structure MeteredManager where
  manager : IOSurfaceManager
  /-- `m_surfaces_created`, `m_surface_locks` and `m_copy_operations` -/
  surfacesCreated : Nat
  surfaceLocks : Nat
  copyOperations : Nat
  properties : PropertyStats
  /-- a division by zero has happened -/
  trapped : Bool
  /-- not in the code -/
  since : SinceReset

namespace MeteredManager

def init : MeteredManager := ⟨.start, 0, 0, 0, .zero, false, ⟨0, 0, 0, 0, 0, 0⟩⟩

variable (cfg : IOSurfaceConfig)

/-- `1` for a call that creates a surface. -/
def creations (m : IOSurfaceManager) : ManagerCall → Nat
  | .createSurface d env => if (m.createSurface cfg d env).1.isOk then 1 else 0
  | _ => 0

/-- `1` for a call that `lockSurface` counts. -/
def lockings (m : IOSurfaceManager) : ManagerCall → Nat
  | .lockSurface now id readOnly => if (m.lockSurface now id readOnly).1.isOk then 1 else 0
  | _ => 0

def descriptors : ManagerCall → Nat
  | .getSurfaceDescriptor .. => 1
  | _ => 0

/-- The property statistics after a call. -/
def stats (m : IOSurfaceManager) (p : PropertyStats) : ManagerCall → PropertyStats
  | .getSurfaceDescriptor _ id => m.describeStats id p
  | _ => p

/-- `n` more of an event, on a `uint64_t`. -/
def add64 (counter n : Nat) : Nat := (counter + n) % u64

/-- Some lookups, in the history. -/
def SinceReset.looked (m : IOSurfaceManager) (ls : List (Nat × Nat)) (h : SinceReset) :
    SinceReset :=
  { h with
    lookups := h.lookups + ls.length
    accesses := h.accesses + Discovery.foundAll m.store.surfaceMap ls m.discovery }

/-- A copy: the lookups, and the count where it gets to the end. -/
def copy (s : MeteredManager) (r : IOReturn × IOSurfaceManager) (ls : List (Nat × Nat)) :
    MeteredManager :=
  let copies := if r.1 = .success ∧ ls ≠ [] then 1 else 0
  { s with
    manager := r.2
    copyOperations := add64 s.copyOperations copies
    since := { SinceReset.looked s.manager ls s.since with copies := s.since.copies + copies } }

/-- The reset of the operation counters, in both functions that make it. -/
def resetCounters (s : MeteredManager) : MeteredManager :=
  { s with surfacesCreated := 0, surfaceLocks := 0, copyOperations := 0,
           since := { s.since with created := 0, locks := 0, copies := 0 } }

/-- The call divides by zero. -/
def traps (s : MeteredManager) : MeteredCall → Bool
  | .call c =>
      Discovery.trapsAll s.manager.store.surfaceMap (s.manager.lookups cfg c) s.manager.discovery ||
        match c with
        | .getSurfaceDescriptor _ id => s.manager.describeTraps id s.properties
        | _ => false
  | .copySurface now now' source dest =>
      Discovery.trapsAll s.manager.store.surfaceMap (s.manager.copyLookups now now' source dest)
        s.manager.discovery
  | .copySurfaceRegion now now' source dest _ _ _ _ width height =>
      Discovery.trapsAll s.manager.store.surfaceMap
        (s.manager.copyRegionLookups now now' source dest width height) s.manager.discovery
  | .getIOSurfaceStats given room =>
      given && room && (averages 0 0 0 s.surfacesCreated s.surfaceLocks s.copyOperations).isNone
  | .logPerformanceData =>
      (loggedAverages 0 0 0 s.surfacesCreated s.surfaceLocks s.copyOperations).isNone
  | .generateDiscoveryReport => (s.manager.discovery.generateReport 0 0 0 0).isNone
  | .generatePropertyReport => (s.properties.generateReport 0).isNone
  | .nullDescriptor | .resetIOSurfaceCounters | .resetPerformanceCounters
  | .resetDiscoveryStatistics | .resetPropertyStatistics => false

/-- What a call leaves that does not divide by zero. -/
def after (s : MeteredManager) : MeteredCall → Option MeteredManager
  | .call c =>
      (s.manager.after cfg c).map fun m =>
        { s with
          manager := m
          surfacesCreated := add64 s.surfacesCreated (creations cfg s.manager c)
          surfaceLocks := add64 s.surfaceLocks (lockings s.manager c)
          properties := stats s.manager s.properties c
          since :=
            { SinceReset.looked s.manager (s.manager.lookups cfg c) s.since with
              created := s.since.created + creations cfg s.manager c
              locks := s.since.locks + lockings s.manager c
              descriptors := s.since.descriptors + descriptors c } }
  | .nullDescriptor =>
      some { s with properties := s.properties.looked.failed,
                    since := { s.since with descriptors := s.since.descriptors + 1 } }
  | .copySurface now now' source dest =>
      some (s.copy (s.manager.copySurface now now' source dest)
        (s.manager.copyLookups now now' source dest))
  | .copySurfaceRegion now now' source dest srcX srcY dstX dstY width height =>
      some (s.copy
        (s.manager.copySurfaceRegion now now' source dest srcX srcY dstX dstY width height)
        (s.manager.copyRegionLookups now now' source dest width height))
  | .getIOSurfaceStats .. | .logPerformanceData | .generateDiscoveryReport
  | .generatePropertyReport => some s
  | .resetIOSurfaceCounters | .resetPerformanceCounters => some s.resetCounters
  | .resetDiscoveryStatistics =>
      some { s with manager := { s.manager with discovery := s.manager.discovery.reset },
                    since := { s.since with lookups := 0, accesses := 0 } }
  | .resetPropertyStatistics =>
      some { s with properties := .zero, since := { s.since with descriptors := 0 } }

/-- What a call needs from the kernel is there. -/
def Possible (s : MeteredManager) : MeteredCall → Prop
  | .call c => s.manager.Possible cfg c
  | _ => True

instance (s : MeteredManager) : ∀ call, Decidable (s.Possible cfg call)
  | .call c => inferInstanceAs (Decidable (s.manager.Possible cfg c))
  | .nullDescriptor | .copySurface .. | .copySurfaceRegion .. | .getIOSurfaceStats ..
  | .logPerformanceData | .generateDiscoveryReport | .generatePropertyReport
  | .resetIOSurfaceCounters | .resetPerformanceCounters | .resetDiscoveryStatistics
  | .resetPropertyStatistics => isTrue trivial

/-- After a division by zero nothing happens any more. -/
def step (s : MeteredManager) (call : MeteredCall) : Option MeteredManager :=
  if s.trapped = true ∨ ¬ s.Possible cfg call then none
  else if s.traps cfg call then some { s with trapped := true }
  else s.after cfg call

def machine : Machine MeteredManager MeteredCall := ⟨init, step cfg⟩

/-! ### The counters and the history -/

variable {cfg} {s t : MeteredManager}

/-- Every counter is the number it counts, modulo its width. -/
structure Consistent (s : MeteredManager) : Prop where
  created : s.surfacesCreated = s.since.created % u64
  locks : s.surfaceLocks = s.since.locks % u64
  copies : s.copyOperations = s.since.copies % u64
  lookups : s.manager.discovery.Counts s.since.lookups s.since.accesses
  properties : s.properties.lookups = s.since.descriptors % u32

theorem consistent_init : init.Consistent :=
  ⟨rfl, rfl, rfl, Discovery.counts_start, rfl⟩

theorem add64_mod {counter n k : Nat} (h : counter = n % u64) :
    add64 counter k = (n + k) % u64 := by
  rw [add64, h, Nat.mod_add_mod]

theorem stats_lookups (m : IOSurfaceManager) (p : PropertyStats) (c : ManagerCall) :
    (stats m p c).lookups = (p.lookups + descriptors c) % u32 ∨
      descriptors c = 0 ∧ stats m p c = p := by
  cases c with
  | getSurfaceDescriptor now id =>
      left
      simp only [stats, IOSurfaceManager.describeStats]
      split_ifs
      · rfl
      · rfl
      · rfl
  | _ => exact .inr ⟨rfl, rfl⟩

theorem Consistent.looked (hs : s.Consistent) {m : IOSurfaceManager} {ls : List (Nat × Nat)}
    (h : s.manager.LooksUp m ls) :
    m.discovery.Counts (SinceReset.looked s.manager ls s.since).lookups
      (SinceReset.looked s.manager ls s.since).accesses := by
  rw [h]
  exact hs.lookups.lookAll

theorem Consistent.copy (hs : s.Consistent) {r : IOReturn × IOSurfaceManager}
    {ls : List (Nat × Nat)} (h : s.manager.LooksUp r.2 ls) : (s.copy r ls).Consistent where
  created := hs.created
  locks := hs.locks
  copies := add64_mod hs.copies
  lookups := hs.looked h
  properties := hs.properties

/-- **One call** keeps the counters and the history together. -/
theorem Consistent.after {call : MeteredCall} (hs : s.Consistent)
    (h : s.after cfg call = some t) : t.Consistent := by
  cases call with
  | call c =>
      obtain ⟨m, hm, rfl⟩ := Option.map_eq_some_iff.mp h
      refine ⟨add64_mod hs.created, add64_mod hs.locks, hs.copies,
        hs.looked (IOSurfaceManager.looksUp_after hm), ?_⟩
      rcases stats_lookups s.manager s.properties c with hstats | ⟨hnone, hsame⟩
      · show (stats s.manager s.properties c).lookups = _
        rw [hstats, hs.properties, Nat.mod_add_mod]
      · show (stats s.manager s.properties c).lookups = (s.since.descriptors + descriptors c) % u32
        rw [hsame, hnone]
        exact hs.properties
  | nullDescriptor =>
      cases h
      refine ⟨hs.created, hs.locks, hs.copies, hs.lookups, ?_⟩
      show inc32 s.properties.lookups = _
      rw [hs.properties, inc32, Nat.mod_add_mod]
  | copySurface now now' source dest =>
      cases h
      exact hs.copy IOSurfaceManager.looksUp_copySurface
  | copySurfaceRegion now now' source dest srcX srcY dstX dstY width height =>
      cases h
      exact hs.copy IOSurfaceManager.looksUp_copySurfaceRegion
  | getIOSurfaceStats given room =>
      cases h
      exact hs
  | logPerformanceData =>
      cases h
      exact hs
  | generateDiscoveryReport =>
      cases h
      exact hs
  | generatePropertyReport =>
      cases h
      exact hs
  | resetIOSurfaceCounters =>
      cases h
      exact ⟨rfl, rfl, rfl, hs.lookups, hs.properties⟩
  | resetPerformanceCounters =>
      cases h
      exact ⟨rfl, rfl, rfl, hs.lookups, hs.properties⟩
  | resetDiscoveryStatistics =>
      cases h
      exact ⟨hs.created, hs.locks, hs.copies, Discovery.counts_reset, hs.properties⟩
  | resetPropertyStatistics =>
      cases h
      exact ⟨hs.created, hs.locks, hs.copies, hs.lookups, rfl⟩

theorem Consistent.step {call : MeteredCall} (hs : s.Consistent)
    (h : s.step cfg call = some t) : t.Consistent := by
  rw [MeteredManager.step] at h
  split_ifs at h
  · cases h
    exact ⟨hs.created, hs.locks, hs.copies, hs.lookups, hs.properties⟩
  · exact hs.after h

/-! ### When a call divides by zero -/

/-- The lookups of a call make no report at a multiple of 2³² lookups or finds. -/
def QuietLookups (s : MeteredManager) (ls : List (Nat × Nat)) : Prop :=
  Discovery.Quiet s.manager.store.surfaceMap ls s.since.lookups s.since.accesses
    s.manager.discovery

/-- The numbers of events since the last reset with which a call does not divide by
zero. -/
def Harmless (cfg : IOSurfaceConfig) (s : MeteredManager) : MeteredCall → Prop
  | .call c =>
      s.QuietLookups (s.manager.lookups cfg c) ∧
        match c with
        | .getSurfaceDescriptor _ id =>
            s.manager.computes id = true → (s.since.descriptors + 1) % u32 ≠ 0
        | _ => True
  | .copySurface now now' source dest =>
      s.QuietLookups (s.manager.copyLookups now now' source dest)
  | .copySurfaceRegion now now' source dest _ _ _ _ width height =>
      s.QuietLookups (s.manager.copyRegionLookups now now' source dest width height)
  | .getIOSurfaceStats given room =>
      given = true → room = true →
        (s.since.created + s.since.locks + s.since.copies) % u64 = 0 ∨
          s.since.created % u64 ≠ 0 ∧ (s.since.locks + 1) % u64 ≠ 0 ∧
            (s.since.copies + 1) % u64 ≠ 0
  | .logPerformanceData =>
      s.since.created % u64 ≠ 0 →
        (s.since.locks + 1) % u64 ≠ 0 ∧ (s.since.copies + 1) % u64 ≠ 0
  | _ => True

theorem describeTraps_iff (hs : s.Consistent) {id : Nat} :
    s.manager.describeTraps id s.properties = false ↔
      (s.manager.computes id = true → (s.since.descriptors + 1) % u32 ≠ 0) := by
  have hlookups : s.properties.looked.lookups = (s.since.descriptors + 1) % u32 := by
    show inc32 s.properties.lookups = _
    rw [hs.properties, inc32, Nat.mod_add_mod]
  cases hcomputes : s.manager.computes id with
  | false => simp [IOSurfaceManager.describeTraps, hcomputes]
  | true =>
      by_cases hzero : (s.since.descriptors + 1) % u32 = 0
      · -- 0 is a multiple of 50
        have hnone := (PropertyStats.rates_eq_none 0).mpr (hlookups.trans hzero)
        simp [IOSurfaceManager.describeTraps, hcomputes, hlookups, hzero, hnone]
      · have hsome : s.properties.looked.rates 0 ≠ none := by
          rw [ne_eq, PropertyStats.rates_eq_none, hlookups]
          exact hzero
        have hisNone : (s.properties.looked.rates 0).isNone = false := by
          rw [Bool.eq_false_iff, ne_eq, Option.isNone_iff_eq_none]
          exact hsome
        simp [IOSurfaceManager.describeTraps, hcomputes, hisNone, hzero]

theorem traps_iff (hs : s.Consistent) {call : MeteredCall} :
    s.traps cfg call = false ↔ s.Harmless cfg call := by
  cases call with
  | call c =>
      refine Bool.or_eq_false_iff.trans (and_congr (Discovery.trapsAll_iff hs.lookups) ?_)
      cases c with
      | getSurfaceDescriptor now id => exact describeTraps_iff hs
      | _ => exact iff_of_true rfl trivial
  | copySurface now now' source dest => exact Discovery.trapsAll_iff hs.lookups
  | copySurfaceRegion now now' source dest srcX srcY dstX dstY width height =>
      exact Discovery.trapsAll_iff hs.lookups
  | getIOSurfaceStats given room =>
      have hcongr : ∀ a b c : Nat, (a % u64 + b % u64 + c % u64) % u64 = (a + b + c) % u64 := by
        intro a b c
        rw [Nat.add_mod (a % u64 + b % u64), Nat.mod_mod, ← Nat.add_mod a b, ← Nat.add_mod]
      have haverages : (averages 0 0 0 s.surfacesCreated s.surfaceLocks s.copyOperations).isNone =
          false ↔ ((s.since.created + s.since.locks + s.since.copies) % u64 = 0 ∨
            s.since.created % u64 ≠ 0 ∧ (s.since.locks + 1) % u64 ≠ 0 ∧
              (s.since.copies + 1) % u64 ≠ 0) := by
        rw [Bool.eq_false_iff, ne_eq, Option.isNone_iff_eq_none, averages_eq_none, hs.created,
          hs.locks, hs.copies, hcongr, Nat.mod_add_mod, Nat.mod_add_mod]
        tauto
      cases given with
      | false => exact iff_of_true rfl (fun h => absurd h Bool.false_ne_true)
      | true =>
          cases room with
          | false => exact iff_of_true rfl (fun _ h => absurd h Bool.false_ne_true)
          | true => exact haverages.trans ⟨fun h _ _ => h, fun h => h rfl rfl⟩
  | logPerformanceData =>
      rw [traps, Harmless, Bool.eq_false_iff, ne_eq, Option.isNone_iff_eq_none,
        loggedAverages_eq_none, hs.created, hs.locks, hs.copies, Nat.mod_add_mod, Nat.mod_add_mod]
      tauto
  | generateDiscoveryReport =>
      refine iff_of_true ?_ trivial
      rw [traps, ← Option.not_isSome, Discovery.generateReport_isSome]
      rfl
  | generatePropertyReport =>
      refine iff_of_true ?_ trivial
      rw [traps, ← Option.not_isSome, PropertyStats.generateReport_isSome]
      rfl
  | nullDescriptor => exact iff_of_true rfl trivial
  | resetIOSurfaceCounters => exact iff_of_true rfl trivial
  | resetPerformanceCounters => exact iff_of_true rfl trivial
  | resetDiscoveryStatistics => exact iff_of_true rfl trivial
  | resetPropertyStatistics => exact iff_of_true rfl trivial

theorem after_trapped {call : MeteredCall} (h : s.after cfg call = some t) :
    t.trapped = s.trapped := by
  cases call with
  | call c =>
      obtain ⟨m, -, rfl⟩ := Option.map_eq_some_iff.mp h
      rfl
  | _ =>
      cases h
      rfl

/-- **One step** divides by zero unless it is harmless. -/
theorem untrapped_step_iff {call : MeteredCall} (hs : s.Consistent) (hP : s.trapped = false)
    (h : s.step cfg call = some t) : t.trapped = false ↔ s.Harmless cfg call := by
  rw [← traps_iff hs]
  rw [MeteredManager.step] at h
  split_ifs at h with _ htraps
  · cases h
    rw [htraps]
  · rw [after_trapped h, hP]
    exact iff_of_true rfl (Bool.eq_false_iff.mpr htraps)

/-- **No statistics code divides by zero in a run exactly if no call asks for averages,
or makes a report, at the wrong count of events since the last reset.** -/
theorem always_untrapped_iff (calls : List MeteredCall) :
    (machine cfg).Always (fun s => s.trapped = false) init calls ↔
      (machine cfg).Along (Harmless cfg) init calls :=
  (machine cfg).always_iff_along (J := Consistent) (fun _ _ _ hs h => hs.step h)
    (fun _ _ _ hs hP h => untrapped_step_iff hs hP h) consistent_init rfl

/-- A 64 by 64 BGRA surface is created, the counters are reset, the surface is locked,
and somebody asks for the statistics. -/
theorem stats_after_reset_trap : ¬ ∀ calls, (machine ⟨true, false⟩).Always
    (fun s => s.trapped = false) init calls := by
  intro h
  have hrun := h [.call (.createSurface (.plain .bgra32 64 64) (.granted 1000 0x10000 0x20000)),
    .resetIOSurfaceCounters, .call (.lockSurface 2000 1 false), .getIOSurfaceStats true true]
  obtain ⟨s, hs, hp⟩ := hrun.of_any _ (p := fun s => s.trapped) (by decide)
  rw [hs] at hp
  cases hp

end MeteredManager

end VMQemuVGA
