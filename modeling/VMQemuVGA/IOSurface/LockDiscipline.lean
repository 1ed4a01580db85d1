import VMQemuVGA.Lib.LockTrace
import VMQemuVGA.IOSurface.Manager

/-! # Who takes `m_surface_lock`

The operations of `VMIOSurfaceManager` as far as they take and drop the lock: the
checks before they take it, the checks that drop it again, and the operations that
call others meanwhile. What the checks look at is left open, except where it decides
whether an operation is called with the lock held. -/

namespace VMQemuVGA

/-- What a check of an operation looks at. -/
inductive LockCheck where
  /-- pointers and ids are given -/
  | arguments
  /-- the other arguments are in range -/
  | values
  | distinct
  | supported
  | found
  | destFound
  | isData
  | record
  /-- the memory, or what is needed of it, is there -/
  | memory
  | idle
  | locked
  | lastReference
  | plane
  | sizes
  | region
  | formats
  | converts
  /-- a collection is there, or could be made -/
  | collection
  | map
  | client
  | listed
  | attached
  | fits
  | room
  | planes
  | allocated
  | prepared
  | mapped
  | wrapped
  deriving DecidableEq, Repr

/-- The public operations that call no other with the lock held. -/
inductive SurfaceOp where
  | destroySurface
  | updateSurfaceDescriptor
  | lockSurface
  | unlockSurface
  | setSurfaceProperty
  | getSurfaceProperty
  | lockSurfacePlane
  | unlockSurfacePlane
  | getSurfacePlaneInfo
  | registerClient
  | unregisterClient
  | getClientDescriptor
  | setClientAccessRights
  | shareSurface
  | unshareSurface
  | getSurfaceClients
  | canClientAccessSurface
  | copySurface
  | copySurfaceRegion
  | fillSurface
  | fillSurfaceRegion
  | bindSurfaceToTexture
  | bindSurfaceToBuffer
  | createTextureFromSurface
  | updateSurfaceFromTexture
  | setVideoSurfaceColorSpace
  | getVideoSurfaceColorSpace
  | attachVideoDecoder
  | detachVideoDecoder
  | convertSurfaceFormat
  | defragmentMemoryPools
  | setSurfaceMemoryPriority
  | evictUnusedSurfaces
  | getIOSurfaceStats
  | getMemoryUsage
  | resetIOSurfaceCounters
  | logIOSurfaceState
  | getPerformanceStats
  | resetPerformanceCounters
  | logPerformanceData
  | enableDebugLogging
  | setLoggingLevel
  | captureMemorySnapshot
  | analyzeMemoryFragmentation
  | validateSurface
  | checkSurfaceIntegrity
  | dumpSurfaceInfo
  deriving DecidableEq, Repr

/-- The public operations that never take the lock. -/
inductive LockFreeOp where
  | configureMemoryPools
  | getSurfaceDescriptor
  | synchronizeSurface
  | isFormatSupported
  | getBytesPerPixel
  | getPlaneCount
  deriving DecidableEq, Repr

namespace SurfaceOp

variable (o : LockCheck → Bool)

/-- The surface, the `OSData` and the record in it. -/
def lookup : List (Bool × IOReturn) :=
  [(o .found, .notFound), (o .isData, .error), (o .record, .error)]

/-- The same for two surfaces. -/
def lookups : List (Bool × IOReturn) :=
  [(o .found, .notFound), (o .destFound, .notFound), (o .isData, .error), (o .record, .error)]

/-- A new entry in a collection. -/
def entry : List (Bool × IOReturn) :=
  [(o .collection, .noMemory), (o .allocated, .noMemory), (o .wrapped, .noMemory)]

/-- The checks before the lock is taken. -/
def early : SurfaceOp → List (Bool × IOReturn)
  | fillSurface | unlockSurface | resetIOSurfaceCounters | logIOSurfaceState | validateSurface
  | defragmentMemoryPools | evictUnusedSurfaces | checkSurfaceIntegrity | dumpSurfaceInfo
  | resetPerformanceCounters | logPerformanceData | enableDebugLogging => []
  | copySurface => [(o .arguments, .badArgument), (o .distinct, .success)]
  | convertSurfaceFormat =>
      [(o .arguments, .badArgument), (o .distinct, .success), (o .values, .unsupported)]
  | getIOSurfaceStats | getPerformanceStats | captureMemorySnapshot =>
      [(o .arguments, .badArgument), (o .values, .noSpace)]
  | shareSurface | setSurfaceMemoryPriority =>
      [(o .arguments, .badArgument), (o .values, .badArgument)]
  | setLoggingLevel => [(o .values, .badArgument)]
  | bindSurfaceToTexture | bindSurfaceToBuffer | createTextureFromSurface
  | updateSurfaceFromTexture => [(o .arguments, .badArgument), (o .supported, .unsupported)]
  -- the check of an operation that returns a `bool` stands for `false`
  | canClientAccessSurface => [(o .arguments, .error)]
  | destroySurface | updateSurfaceDescriptor | lockSurface | setSurfaceProperty
  | getSurfaceProperty | lockSurfacePlane | unlockSurfacePlane | getSurfacePlaneInfo
  | registerClient | unregisterClient | getClientDescriptor | setClientAccessRights
  | unshareSurface | getSurfaceClients | copySurfaceRegion | fillSurfaceRegion
  | setVideoSurfaceColorSpace | getVideoSurfaceColorSpace | attachVideoDecoder
  | detachVideoDecoder | getMemoryUsage | analyzeMemoryFragmentation =>
      [(o .arguments, .badArgument)]

/-- The checks that drop the lock where they fail. -/
def checks : SurfaceOp → List (Bool × IOReturn)
  | destroySurface => lookup o ++ [(o .idle, .busy), (o .lastReference, .success)]
  | updateSurfaceDescriptor => [(o .listed, .notFound)]
  | lockSurface => lookup o ++ [(o .memory, .notReady), (o .idle, .busy)]
  | unlockSurface => lookup o ++ [(o .locked, .notOpen)]
  | setSurfaceProperty => [(o .listed, .notFound), (o .values, .unsupported)]
  | getSurfaceProperty =>
      [(o .listed, .notFound), (o .values, .unsupported), (o .fits, .noSpace)]
  | lockSurfacePlane => lookup o ++ [(o .plane, .badArgument), (o .memory, .notReady)]
  | unlockSurfacePlane => lookup o ++ [(o .plane, .badArgument), (o .locked, .notOpen)]
  | getSurfacePlaneInfo => lookup o ++ [(o .plane, .badArgument)]
  | registerClient =>
      [(o .collection, .noMemory), (o .map, .noMemory), (o .allocated, .noMemory),
        (o .wrapped, .noMemory)]
  | unregisterClient => [(o .map, .notFound), (o .client, .notFound), (o .record, .error)]
  | getClientDescriptor | setClientAccessRights =>
      [(o .map, .notFound), (o .client, .notFound), (o .record, .notFound)]
  | shareSurface => [(o .found, .notFound), (o .collection, .noMemory)]
  | unshareSurface => [(o .collection, .notFound), (o .listed, .notFound)]
  | canClientAccessSurface => [(o .client, .error), (o .found, .error)]
  | copySurface => lookups o ++ [(o .sizes, .badArgument), (o .memory, .notReady)]
  | copySurfaceRegion =>
      [(o .found, .notFound), (o .isData, .error), (o .memory, .notReady),
        (o .region, .badArgument), (o .formats, .badArgument)]
  | fillSurface =>
      [(o .found, .notFound), (o .isData, .error), (o .memory, .notReady),
        (o .formats, .unsupported)]
  | fillSurfaceRegion =>
      [(o .found, .notFound), (o .isData, .error), (o .memory, .notReady),
        (o .region, .badArgument), (o .formats, .unsupported)]
  | bindSurfaceToTexture | bindSurfaceToBuffer => lookup o ++ entry o
  | createTextureFromSurface =>
      [(o .found, .notFound), (o .isData, .error), (o .memory, .notReady)] ++ entry o
  | updateSurfaceFromTexture =>
      [(o .found, .notFound), (o .isData, .error), (o .memory, .notReady),
        (o .sizes, .badArgument), (o .listed, .notFound)]
  | setVideoSurfaceColorSpace | getVideoSurfaceColorSpace => [(o .listed, .notFound)]
  | attachVideoDecoder => [(o .idle, .busy), (o .listed, .notFound)] ++ entry o
  | detachVideoDecoder => [(o .attached, .notOpen), (o .listed, .notFound)]
  | convertSurfaceFormat =>
      lookups o ++ [(o .memory, .notReady), (o .sizes, .badArgument), (o .formats, .success),
        (o .converts, .unsupported)]
  | defragmentMemoryPools => [(o .collection, .success), (o .allocated, .noMemory)]
  | setSurfaceMemoryPriority | validateSurface | checkSurfaceIntegrity | dumpSurfaceInfo =>
      lookup o
  | evictUnusedSurfaces =>
      [(o .listed, .success), (o .collection, .noMemory), (o .allocated, .noMemory)]
  | getSurfaceClients | getIOSurfaceStats | getMemoryUsage | resetIOSurfaceCounters
  | logIOSurfaceState | getPerformanceStats | resetPerformanceCounters | logPerformanceData
  | enableDebugLogging | setLoggingLevel | captureMemorySnapshot | analyzeMemoryFragmentation =>
      []

/-- `result` is what `validateSurface` and `checkSurfaceIntegrity` find out. -/
def visit (result : IOReturn) (op : SurfaceOp) : Visit IOReturn :=
  .guarded (op.early o) (op.checks o)
    (match op with
      | validateSurface | checkSurfaceIntegrity => result
      | _ => .success)

end SurfaceOp

/-! ## Operations that call others -/

namespace PixelFormat

/-- `validateVideoPixelFormat`. -/
def validateVideo (yuv : Bool) (codecType : Nat) (format : PixelFormat) : IOReturn :=
  if format = .other 0x79757634 ∨ format = .other 0x79757632 ∨ format = .other 0x79757620 ∨
      format = .bgra32 ∨ format = .rgba32 then .success
  else if format = .other 0x61766331 ∨ format = .other 0x48323634 then
    if codecType &&& 0xFFFF = 0x264 then .success else .badArgument
  else if format = .other 0x68766331 ∨ format = .other 0x48323635 then
    if codecType &&& 0xFFFF = 0x265 then .success else .badArgument
  else format.validate yuv

end PixelFormat

namespace IOSurfaceManager

/-- `given` says that neither pointer is null. -/
def visitCreate (yuv given : Bool) (d : IOSurfaceDescriptor) (o : LockCheck → Bool) :
    Visit IOReturn :=
  .guarded
    [(given, .badArgument),
      (decide (d.pixelFormat.validate yuv = .success), d.pixelFormat.validate yuv),
      (decide (0 < d.width ∧ 0 < d.height ∧ d.width ≤ 16384 ∧ d.height ≤ 16384), .badArgument)]
    [(o .sizes, .badArgument), (o .room, .noMemory), (o .allocated, .noMemory),
      (o .planes, .unsupported), (o .memory, .noMemory), (o .prepared, .vmError),
      (o .mapped, .vmError), (o .wrapped, .noMemory)] .success

def visitDestroy (o : LockCheck → Bool) : Visit IOReturn :=
  SurfaceOp.destroySurface.visit o .success

/-- `o` is for its own checks, `inner` for those of the calls it makes. -/
def visitCreateVideo (video yuv given : Bool) (d : IOSurfaceDescriptor) (codecType : Nat)
    (o inner : LockCheck → Bool) : Visit IOReturn :=
  if given = false then ([], .badArgument)
  else if video = false then ([], .unsupported)
  else if d.pixelFormat.validateVideo yuv codecType ≠ .success then
    ([.lock, .unlock], d.pixelFormat.validateVideo yuv codecType)
  else
    let created := visitCreate yuv true d inner
    if created.2 ≠ .success then (.lock :: created.1 ++ [.unlock], created.2)
    else if o .collection && o .allocated && o .wrapped then
      (.lock :: created.1 ++ [.unlock], .success)
    else (.lock :: created.1 ++ ((visitDestroy inner).1 ++ [.unlock]), .noMemory)

/-- The surfaces `compactSurfaceMemory` looks at, from the end of the array: whether
it destroys one, when it has destroyed none before. -/
def evictions (clock : Nat → Nat) : List Nat → IOSurfaceManager → List Bool
  | [], _ => []
  | a :: rest, m =>
      let now := clock rest.length
      match m.findSurface now (m.store.records a).surfaceId with
      | (none, m) => false :: evictions clock rest m
      | (some b, m) =>
          if m.store.live b then
            (shouldEvict now (m.store.records b) && (m.store.records a).lockCount = 0 &&
              decide ((m.store.records a).refCount ≤ 1)) :: evictions clock rest m
          else false :: evictions clock rest { m with wild := true }

/-- A surface that was found has an id other than 0: `destroySurface` gets to the lock. -/
def visitCompact (evicted : List Bool) (inner : LockCheck → Bool) : Visit IOReturn :=
  let destroyed := (visitDestroy (Function.update inner .arguments true)).1
  (.lock :: (evicted.flatMap fun e => if e then destroyed else []) ++ [.unlock], .success)

/-- 256 by 256 pixels. -/
def benchmarkDescriptor : IOSurfaceDescriptor :=
  { IOSurfaceDescriptor.plain .bgra32 256 256 with
    bytesPerRow := 256 * 4
    planeCount := 1
    allocSize := 256 * 256 * 4
    usageFlags := 3 }

/-- One creation and destruction of `benchmarkSurfaceOperations`. -/
def visitCycle (yuv : Bool) (o : LockCheck → Bool) : List LockEvent :=
  let created := visitCreate yuv true benchmarkDescriptor o
  if created.2 = .success then created.1 ++ (visitDestroy o).1 else created.1

def visitBenchmark (yuv given : Bool) (iterations : Nat) (o : Nat → LockCheck → Bool) :
    Visit IOReturn :=
  if given = false ∨ iterations = 0 then ([], .badArgument)
  else ((List.range iterations).flatMap fun i => visitCycle yuv (o i), .success)

/-! ### What they do with the lock -/


section
variable {yuv video given : Bool} {d : IOSurfaceDescriptor} {o inner : LockCheck → Bool}

theorem balanced_visitCreate : LockEvent.Balanced (visitCreate yuv given d o).1 :=
  Visit.balanced_guarded _ _ _

theorem balanced_visitDestroy : LockEvent.Balanced (visitDestroy o).1 :=
  Visit.balanced_guarded _ _ _

theorem balanced_visitBenchmark {iterations : Nat} {o : Nat → LockCheck → Bool} :
    LockEvent.Balanced (visitBenchmark yuv given iterations o).1 := by
  rw [visitBenchmark]
  split_ifs
  · exact LockEvent.balanced_nil
  · apply LockEvent.Balanced.flatMap
    intro i
    simp only [visitCycle]
    split_ifs
    · exact balanced_visitCreate.append balanced_visitDestroy
    · exact balanced_visitCreate

/-- The checks `createSurface` makes before it takes the lock. -/
def Creatable (yuv : Bool) (d : IOSurfaceDescriptor) : Prop :=
  d.pixelFormat.validate yuv = .success ∧
    0 < d.width ∧ 0 < d.height ∧ d.width ≤ 16384 ∧ d.height ≤ 16384

theorem visitCreate_of_creatable (h : Creatable yuv d) :
    (visitCreate yuv true d o).1 = [.lock, .unlock] := by
  rw [visitCreate, Visit.guarded_events, if_pos]
  simp only [Creatable] at h
  simp [Visit.failed, h]

theorem visitCreate_of_not (h : ¬ Creatable yuv d) :
    (visitCreate yuv true d o).1 = [] ∧ (visitCreate yuv true d o).2 ≠ .success := by
  rw [visitCreate, Visit.guarded]
  by_cases hformat : d.pixelFormat.validate yuv = .success
  · have hsize : ¬ (0 < d.width ∧ 0 < d.height ∧ d.width ≤ 16384 ∧ d.height ≤ 16384) :=
      fun hsize => h ⟨hformat, hsize⟩
    simp [Visit.failed, hformat, hsize]
  · simp [Visit.failed, hformat]

theorem balanced_visitCreateVideo {codecType : Nat} :
    LockEvent.Balanced (visitCreateVideo video yuv given d codecType o inner).1 ↔
      ¬ (given = true ∧ video = true ∧ d.pixelFormat.validateVideo yuv codecType = .success ∧
        Creatable yuv d) := by
  rw [visitCreateVideo]
  by_cases hgiven : given = false
  · simp [hgiven, LockEvent.balanced_nil]
  by_cases hvideo : video = false
  · simp [hgiven, hvideo, LockEvent.balanced_nil]
  by_cases hformat : d.pixelFormat.validateVideo yuv codecType = .success
  · by_cases hcreatable : Creatable yuv d
    · -- whatever comes after the creation, it is too late
      have hcreated := visitCreate_of_creatable (o := inner) hcreatable
      refine iff_of_false ?_ (not_not.mpr ⟨?_, ?_, hformat, hcreatable⟩)
      · rw [if_neg hgiven, if_neg hvideo, if_neg (not_not.mpr hformat)]
        dsimp only
        rw [hcreated]
        split_ifs
        · exact LockEvent.not_balanced_nested
        · exact LockEvent.not_balanced_nested
        · exact LockEvent.not_balanced_nested
      · exact eq_true_of_ne_false hgiven
      · exact eq_true_of_ne_false hvideo
    · obtain ⟨hevents, hret⟩ := visitCreate_of_not (o := inner) hcreatable
      simp [hgiven, hvideo, hformat, hcreatable, hevents, hret, LockEvent.balanced_pair]
  · simp [hgiven, hvideo, hformat, LockEvent.balanced_pair]

/-- With the lock held, destroying one surface is the end. -/
theorem run_evicted (evicted : List Bool) :
    LockEvent.run true (evicted.flatMap fun e => if e then
      (visitDestroy (Function.update inner .arguments true)).1 else []) =
        if true ∈ evicted then none else some true := by
  have hdestroy : (visitDestroy (Function.update inner .arguments true)).1 =
      [.lock, .unlock] := by
    refine (Visit.guarded_events _ _ _).trans (if_pos ?_)
    simp [Visit.failed, SurfaceOp.early]
  rw [hdestroy]
  induction evicted with
  | nil => rfl
  | cons e rest ih =>
      cases e with
      | true => simp [LockEvent.run]
      | false => simpa using ih

theorem balanced_visitCompact {evicted : List Bool} :
    LockEvent.Balanced (visitCompact evicted inner).1 ↔ true ∉ evicted := by
  rw [visitCompact, LockEvent.Balanced, List.cons_append, LockEvent.run, LockEvent.run_append,
    run_evicted]
  split_ifs with h
  · exact iff_of_false (by simp) (not_not.mpr h)
  · exact iff_of_true rfl h

end

end IOSurfaceManager

/-! ## Runs -/

/-- A public operation, with the outcomes of its checks. -/
inductive LockCall where
  | setupIOSurfaceSupport
  | lockFree (op : LockFreeOp)
  | surfaceOp (op : SurfaceOp) (o : LockCheck → Bool) (result : IOReturn)
  | createSurface (given : Bool) (d : IOSurfaceDescriptor) (o : LockCheck → Bool)
  | createVideoSurface (given : Bool) (d : IOSurfaceDescriptor) (codecType : Nat)
      (o inner : LockCheck → Bool)
  | compactSurfaceMemory (clock : Nat → Nat) (inner : LockCheck → Bool)
  | benchmarkSurfaceOperations (given : Bool) (iterations : Nat) (o : Nat → LockCheck → Bool)

/-- The manager and its lock. -/
structure LockedManager where
  manager : IOSurfaceManager
  /-- `m_supports_yuv_surfaces` and `m_supports_video_surfaces` -/
  supportsYuv : Bool
  supportsVideo : Bool
  /-- `m_surface_lock` is taken -/
  held : Bool
  /-- a call waits for the lock it holds itself -/
  waiting : Bool

namespace LockedManager

/-- Before `setupIOSurfaceSupport`. -/
def init : LockedManager := ⟨.start, false, false, false, false⟩

/-- What a call does with the lock. -/
def visit (s : LockedManager) : LockCall → Visit IOReturn
  | .setupIOSurfaceSupport => ([], .success)
  | .lockFree _ => ([], .success)
  | .surfaceOp op o result => op.visit o result
  | .createSurface given d o => IOSurfaceManager.visitCreate s.supportsYuv given d o
  | .createVideoSurface given d codecType o inner =>
      IOSurfaceManager.visitCreateVideo s.supportsVideo s.supportsYuv given d codecType o inner
  | .compactSurfaceMemory clock inner =>
      IOSurfaceManager.visitCompact
        (s.manager.evictions clock s.manager.store.surfaces.reverse) inner
  | .benchmarkSurfaceOperations given iterations o =>
      IOSurfaceManager.visitBenchmark s.supportsYuv given iterations o

/-- What a call that returns leaves in the flags. -/
def flagged (s : LockedManager) : LockCall → LockedManager
  | .setupIOSurfaceSupport => { s with supportsYuv := true, supportsVideo := true }
  | _ => s

/-- A call, and the data it leaves, which may be any. -/
def step (s : LockedManager) (call : LockCall × IOSurfaceManager) : Option LockedManager :=
  if s.waiting then none
  else
    match LockEvent.run s.held (s.visit call.1).1 with
    | none => some { s with waiting := true }
    | some held => some { s.flagged call.1 with manager := call.2, held }

def machine : Machine LockedManager (LockCall × IOSurfaceManager) := ⟨init, step⟩

/-- Every call has returned, and the lock is free. -/
def Free (s : LockedManager) : Prop := s.held = false ∧ s.waiting = false

/-- The call takes the lock once: `compactSurfaceMemory` meets no surface to destroy, and
`createVideoSurface` is refused by itself or by `createSurface` before that takes the
lock. -/
def Single (s : LockedManager) (call : LockCall × IOSurfaceManager) : Prop :=
  match call.1 with
  | .compactSurfaceMemory clock _ =>
      true ∉ s.manager.evictions clock s.manager.store.surfaces.reverse
  | .createVideoSurface given d codecType _ _ =>
      ¬ (given = true ∧ s.supportsVideo = true ∧
        d.pixelFormat.validateVideo s.supportsYuv codecType = .success ∧
        IOSurfaceManager.Creatable s.supportsYuv d)
  | _ => True

variable {s t : LockedManager} {call : LockCall × IOSurfaceManager}

/-- From a free lock, the single calls are those that come back to a free lock. -/
theorem balanced_visit_iff :
    LockEvent.Balanced (s.visit call.1).1 ↔ s.Single call := by
  obtain ⟨call, next⟩ := call
  cases call with
  | setupIOSurfaceSupport => exact iff_of_true LockEvent.balanced_nil trivial
  | lockFree op => exact iff_of_true LockEvent.balanced_nil trivial
  | surfaceOp op o result => exact iff_of_true (Visit.balanced_guarded _ _ _) trivial
  | createSurface given d o =>
      exact iff_of_true IOSurfaceManager.balanced_visitCreate trivial
  | createVideoSurface given d codecType o inner =>
      exact IOSurfaceManager.balanced_visitCreateVideo
  | compactSurfaceMemory clock inner => exact IOSurfaceManager.balanced_visitCompact
  | benchmarkSurfaceOperations given iterations o =>
      exact iff_of_true IOSurfaceManager.balanced_visitBenchmark trivial

theorem flagged_keeps (s : LockedManager) (call : LockCall) :
    (s.flagged call).held = s.held ∧ (s.flagged call).waiting = s.waiting := by
  cases call <;> exact ⟨rfl, rfl⟩

/-- **One step.** A call that finds the lock free returns and leaves it free exactly if
it takes it once. -/
theorem free_step_iff (hs : s.Free) (h : s.step call = some t) : t.Free ↔ s.Single call := by
  rw [← balanced_visit_iff]
  simp only [step, hs.1, hs.2, Bool.false_eq_true, if_false] at h
  cases hrun : LockEvent.run false (s.visit call.1).1 with
  | none =>
      rw [hrun] at h
      cases h
      refine iff_of_false (fun hfree => absurd hfree.2 (by simp)) (fun hbalanced => ?_)
      rw [LockEvent.Balanced, hrun] at hbalanced
      cases hbalanced
  | some held =>
      rw [hrun] at h
      cases h
      rw [LockEvent.Balanced, hrun, Option.some_inj]
      have hwaiting : (s.flagged call.1).waiting = false :=
        (s.flagged_keeps call.1).2.trans hs.2
      exact ⟨fun hfree => hfree.1, fun hheld => ⟨hheld, hwaiting⟩⟩

/-- **In every run, each call returns and leaves the lock free exactly as long as no
call makes another with the lock held.** -/
theorem always_free_iff (calls : List (LockCall × IOSurfaceManager)) :
    machine.Always Free init calls ↔ machine.Along Single init calls :=
  machine.always_iff_along (J := fun _ => True) (fun _ _ _ _ _ => trivial)
    (fun _ _ _ _ hs h => free_step_iff hs h) trivial ⟨rfl, rfl⟩

/-- A 64 by 64 BGRA surface. -/
def smallSurface : IOSurfaceDescriptor := .plain .bgra32 64 64

/-- The manager with that surface, 20 seconds old. -/
def oneSurface : IOSurfaceManager :=
  (IOSurfaceManager.start.createSurface ⟨true, false⟩ smallSurface
    (.granted 1000 0x10000 0x20000)).2

/-- Neither a video surface nor the compaction of an idle surface comes back. -/
theorem nested_calls_wait :
    (¬ ∀ calls, machine.Always Free init calls) ∧
      ¬ machine.Always Free init [(.setupIOSurfaceSupport, .start),
        (.createVideoSurface true smallSurface 0x264 (fun _ => true) fun _ => true, .start)] ∧
      ¬ machine.Always Free init [(.setupIOSurfaceSupport, .start),
        (.createSurface true smallSurface fun _ => true, oneSurface),
        (.compactSurfaceMemory (fun _ => 20000000000) fun _ => true, oneSurface)] := by
  have hwaits : ∀ calls, (machine.run init calls).any (fun s => s.waiting) = true →
      ¬ machine.Always Free init calls := by
    intro calls hrun hfree
    obtain ⟨t, ht, hwaiting⟩ := hfree.of_any _ hrun
    rw [ht.2] at hwaiting
    cases hwaiting
  have hvideo := hwaits [(.setupIOSurfaceSupport, .start),
    (.createVideoSurface true smallSurface 0x264 (fun _ => true) fun _ => true, .start)]
    (by decide)
  refine ⟨fun h => hvideo (h _), hvideo, hwaits _ ?_⟩
  decide

end LockedManager

end VMQemuVGA
