import VMQemuVGA.Lib.Machine
import VMQemuVGA.Virtqueue.BringUpOrder

/-! # Rings in memory

`initVirtIOGPU` and `cleanupVirtIOGPU` in any order, any number of times, with any outcome of
each allocation. A queue that the device has enabled is to lie in memory of the driver, and
the pointers of an initialized queue are to point into memory. -/

namespace VMQemuVGA

open VirtioConfig
open RegProg (exec)

/-- The driver, and the accesses to the device so far. -/
structure GpuSystem where
  driver : GpuDriver
  trace : List (RegAccess VirtioReg)

inductive GpuEvent where
  | initVirtIOGPU (mapped : Bool) (env : SetupEnv)
  | cleanupVirtIOGPU

namespace GpuSystem

/-- What the device has been told. -/
def config (s : GpuSystem) : VirtioConfig := file.replay .reset s.trace

def step (dev : RegDevice VirtioReg) (s : GpuSystem) : GpuEvent → GpuSystem
  | .initVirtIOGPU mapped env =>
      let out := (VMQemuVGA.initVirtIOGPU mapped env s.driver).exec width dev s.trace
      ⟨out.1.2, s.trace ++ out.2⟩
  | .cleanupVirtIOGPU =>
      let out := (teardownControlVirtQueue s.driver).exec width dev s.trace
      ⟨out.1, s.trace ++ out.2⟩

/-- Any device answers. -/
def machine (dev : RegDevice VirtioReg) : Machine GpuSystem GpuEvent where
  init := ⟨.init, []⟩
  step s a := some (s.step dev a)

/-- A queue of the device, if it is enabled, has all its areas in memory that the driver has
not released. -/
def InMemory (x : VirtioQueue) (m : QueueMembers) (heap : DmaHeap) : Prop :=
  x.enabled = true → ∃ mem n start, m.vringMem = some mem ∧ mem.serial ∈ heap.live ∧
    x.Placed n start ∧
    ∀ a, mem.phys ≤ start a ∧ start a + VirtioQueue.areaSize n a ≤ mem.phys + mem.size

structure DmaSafe (s : GpuSystem) : Prop where
  control : InMemory (s.config.queue 0) s.driver.control s.driver.heap
  cursor : InMemory (s.config.queue 1) s.driver.cursor s.driver.heap
  others : ∀ q, 2 ≤ q → (s.config.queue q).enabled = false

/-- No cleanup finds the control queue enabled that the setup has left unfinished. -/
def FinishedFirst (s : GpuSystem) : GpuEvent → Prop
  | .initVirtIOGPU _ _ => True
  | .cleanupVirtIOGPU => (s.config.queue 0).enabled = true → s.driver.control.initialized = true

/-! ## The steps -/

/-- What holds all along. -/
structure Kept (s : GpuSystem) : Prop where
  owned : s.driver.Owned
  mapped : s.driver.control.initialized = true → s.driver.commonCfg = true

variable {dev : RegDevice VirtioReg} {s : GpuSystem} {env : SetupEnv} {mapped : Bool}
  {x : VirtioQueue} {m : QueueMembers} {mem : DmaMemory} {heap : DmaHeap}

theorem inMemory_of_drives (h : m.Drives x mem) (hlive : mem.serial ∈ heap.live) :
    InMemory x m heap :=
  fun _ => ⟨mem, m.size, _, h.vringMem, hlive, h.placed, fun a => by
    rw [h.memSize]
    exact start_add_areaSize_le _ _ a⟩

/-- `initVirtIOGPU`, with a common configuration or without. -/
theorem initVirtIOGPU_cases (dev : RegDevice VirtioReg) (past : List (RegAccess VirtioReg))
    (c : VirtioConfig) (mapped : Bool) (env : SetupEnv) (d : GpuDriver) :
    (∃ set, SetupDone env { d with commonCfg := true }
        (set, ((VMQemuVGA.initVirtIOGPU mapped env d).exec width dev past).1.2)
        (file.replay c ((VMQemuVGA.initVirtIOGPU mapped env d).exec width dev past).2)) ∨
      (((VMQemuVGA.initVirtIOGPU mapped env d).exec width dev past).1.2 = d ∧
        (file.replay c ((VMQemuVGA.initVirtIOGPU mapped env d).exec width dev past).2 = c ∨
          (file.replay c ((VMQemuVGA.initVirtIOGPU mapped env d).exec width dev past).2).queue =
            fun _ => .reset)) := by
  cases hdevice : env.deviceConfig with
  | false =>
      rw [exec_initVirtIOGPU_of_absent hdevice]
      exact .inr ⟨rfl, .inl rfl⟩
  | true =>
      rw [exec_initVirtIOGPU hdevice]
      dsimp only
      rw [RegFile.replay_append]
      cases henv : env.commonConfig with
      | true =>
          obtain ⟨tr, us, htrace, -, -, -, -, hdone⟩ := setup_exec henv _
          rw [htrace, RegFile.replay_append]
          exact .inl ⟨_, hdone⟩
      | false =>
          refine .inr ?_
          rw [setupControlVirtQueue, if_pos henv]
          cases mapped with
          | true => exact ⟨rfl, .inr rfl⟩
          | false => exact ⟨rfl, .inl rfl⟩

theorem config_init : (s.step dev (.initVirtIOGPU mapped env)).config =
    file.replay s.config
      ((VMQemuVGA.initVirtIOGPU mapped env s.driver).exec width dev s.trace).2 :=
  RegFile.replay_append

theorem count_release (heap : DmaHeap) (mem : Option DmaMemory) (n : Nat) :
    (heap.release mem).live.count n = heap.live.count n - holds mem n := by
  cases mem with
  | none => rfl
  | some m =>
      rw [holds_some, DmaHeap.release, List.count_erase]
      simp only [beq_iff_eq]

/-- What the cleanup does to the device: it disables the control queue, if that is initialized. -/
theorem config_cleanup (dev : RegDevice VirtioReg) (s : GpuSystem) :
    (s.step dev .cleanupVirtIOGPU).config.queue =
      if s.driver.control.initialized = true ∧ s.driver.commonCfg = true then
        Function.update s.config.queue 0 { s.config.queue 0 with enabled := false }
      else s.config.queue := by
  rw [config, step]
  dsimp only
  rw [RegFile.replay_append, teardownControlVirtQueue]
  split
  · rfl
  · rfl

/-- Releasing what the control queue holds leaves the rest. -/
theorem count_cleanup (s : GpuSystem) (n : Nat) :
    (s.step dev .cleanupVirtIOGPU).driver.heap.live.count n =
      s.driver.heap.live.count n - s.driver.control.holds n := by
  have hheap : (s.step dev .cleanupVirtIOGPU).driver.heap =
      ((s.driver.heap.release s.driver.control.cmdBuf).release s.driver.control.respBuf).release
        s.driver.control.vringMem := by
    rw [step, teardownControlVirtQueue]
    split <;> rfl
  rw [hheap, count_release, count_release, count_release, QueueMembers.holds]
  omega

theorem members_cleanup (dev : RegDevice VirtioReg) (s : GpuSystem) :
    (s.step dev .cleanupVirtIOGPU).driver.cursor = s.driver.cursor ∧
      (s.step dev .cleanupVirtIOGPU).driver.control.initialized = false ∧
      (s.step dev .cleanupVirtIOGPU).driver.control.vringMem = none ∧
      ∀ n, (s.step dev .cleanupVirtIOGPU).driver.control.holds n = 0 := by
  rw [step, teardownControlVirtQueue]
  split <;> exact ⟨rfl, rfl, rfl, fun _ => rfl⟩

theorem kept_step {a : GpuEvent} (h : Kept s) : Kept (s.step dev a) := by
  cases a with
  | initVirtIOGPU mapped env =>
      rcases initVirtIOGPU_cases dev s.trace s.config mapped env s.driver with
        ⟨_, hdone⟩ | ⟨hsame, -⟩
      · exact ⟨hdone.owned h.owned, fun _ => hdone.commonCfg⟩
      · refine ⟨?_, ?_⟩
        · show GpuDriver.Owned _
          rw [step, hsame]
          exact h.owned
        · rw [step, hsame]
          exact h.mapped
  | cleanupVirtIOGPU =>
      obtain ⟨hcursor, hinit, -, hnone⟩ := members_cleanup dev s
      refine ⟨fun n => ?_, fun h => ?_⟩
      · have hn := h.owned n
        rw [count_cleanup, hnone, hcursor]
        omega
      · rw [hinit] at h
        cases h

theorem safe_init (h : DmaSafe s) :
    DmaSafe (s.step dev (.initVirtIOGPU mapped env)) := by
  rcases initVirtIOGPU_cases dev s.trace s.config mapped env s.driver with
    ⟨_, hdone⟩ | ⟨hsame, hconfig | hconfig⟩
  · rw [← config_init] at hdone
    refine ⟨fun henabled => ?_, fun henabled => ?_, hdone.others⟩
    · obtain ⟨mem, hdrives, hlive⟩ := hdone.control henabled
      exact inMemory_of_drives hdrives hlive henabled
    · obtain ⟨mem, hdrives, hlive⟩ := hdone.cursor henabled
      exact inMemory_of_drives hdrives hlive henabled
  · rw [← config_init] at hconfig
    have hdriver : (s.step dev (.initVirtIOGPU mapped env)).driver = s.driver := hsame
    exact ⟨hconfig ▸ hdriver ▸ h.control, hconfig ▸ hdriver ▸ h.cursor, hconfig ▸ h.others⟩
  · rw [← config_init] at hconfig
    refine ⟨fun henabled => ?_, fun henabled => ?_, fun q _ => ?_⟩
    · rw [hconfig] at henabled
      cases henabled
    · rw [hconfig] at henabled
      cases henabled
    · rw [hconfig]
      rfl

theorem safe_cleanup_iff (hkept : Kept s) (h : DmaSafe s) :
    DmaSafe (s.step dev .cleanupVirtIOGPU) ↔ FinishedFirst s .cleanupVirtIOGPU := by
  obtain ⟨hcursor, hinit, hnone, -⟩ := members_cleanup dev s
  constructor
  · intro hsafe henabled
    by_contra hnot
    have hsame := config_cleanup dev s
    rw [if_neg fun h => hnot h.1] at hsame
    obtain ⟨mem, n, start, hmem, -⟩ := hsafe.control (hsame ▸ henabled)
    rw [hnone] at hmem
    cases hmem
  · intro hfinished
    have hqueue : ∀ q, ((s.step dev .cleanupVirtIOGPU).config.queue q).enabled = true →
        q ≠ 0 ∧ (s.step dev .cleanupVirtIOGPU).config.queue q = s.config.queue q := by
      intro q henabled
      rw [config_cleanup] at henabled ⊢
      split at henabled
      next hdisabled =>
        rw [if_pos hdisabled]
        by_cases hq : q = 0
        · subst hq
          cases henabled
        · exact ⟨hq, Function.update_of_ne hq _ _⟩
      next hnot =>
        rw [if_neg hnot]
        refine ⟨?_, rfl⟩
        rintro rfl
        have hinitialized := hfinished henabled
        exact hnot ⟨hinitialized, hkept.mapped hinitialized⟩
    refine ⟨fun henabled => absurd rfl (hqueue 0 henabled).1, fun henabled => ?_, fun q hq => ?_⟩
    · have hsame := (hqueue 1 henabled).2
      rw [hsame] at henabled ⊢
      obtain ⟨mem, n, start, hmem, hlive, hplaced⟩ := h.cursor henabled
      refine ⟨mem, n, start, hcursor ▸ hmem, List.count_pos_iff.mp ?_, hplaced⟩
      have hn := hkept.owned mem.serial
      have hholds : 1 ≤ s.driver.cursor.holds mem.serial := by
        rw [QueueMembers.holds, hmem, holds_some, if_pos rfl]
        omega
      rw [count_cleanup]
      omega
    · cases henabled : ((s.step dev .cleanupVirtIOGPU).config.queue q).enabled with
      | false => rfl
      | true =>
          have hsame := (hqueue q henabled).2
          rw [hsame, h.others q hq] at henabled
          cases henabled

/-- **The device's rings stay in the driver's memory**, for every device and in every order of
setups and cleanups, exactly where no cleanup finds the control queue enabled that a setup
has left unfinished. -/
theorem always_dmaSafe_iff (dev : RegDevice VirtioReg) (as : List GpuEvent) :
    (machine dev).Always DmaSafe (machine dev).init as ↔
      (machine dev).Along FinishedFirst (machine dev).init as := by
  refine (machine dev).always_iff_along (J := Kept) ?_ ?_ ?_ ?_
  · rintro s a t hs ⟨⟩
    exact kept_step hs
  · rintro s a t hs hsafe ⟨⟩
    cases a with
    | initVirtIOGPU mapped env => exact iff_of_true (safe_init hsafe) trivial
    | cleanupVirtIOGPU => exact safe_cleanup_iff hs hsafe
  · exact ⟨fun _ => le_rfl, fun h => by cases h⟩
  · exact ⟨fun h => (by cases h), fun h => (by cases h), fun _ _ => rfl⟩

/-- No allocation of a free list fails for a queue that is initialized. -/
def ListGranted (s : GpuSystem) : GpuEvent → Prop
  | .initVirtIOGPU _ env =>
      (env.control.freeNext = true ∨ s.driver.control.initialized = false) ∧
        (env.cursor.freeNext = true ∨ s.driver.cursor.initialized = false)
  | .cleanupVirtIOGPU => True

theorem used_step {a : GpuEvent} (h : s.driver.Used) (hgranted : ListGranted s a) :
    (s.step dev a).driver.Used := by
  cases a with
  | initVirtIOGPU mapped env =>
      rcases initVirtIOGPU_cases dev s.trace s.config mapped env s.driver with
        ⟨_, hdone⟩ | ⟨hsame, -⟩
      · exact hdone.used hgranted.1 hgranted.2 ⟨h.used, h.control, h.cursor⟩
      · rw [step, hsame]
        exact h
  | cleanupVirtIOGPU =>
      obtain ⟨hcursor, hinit, hnone, hholds⟩ := members_cleanup dev s
      refine ⟨fun n => ?_, fun h => ?_, hcursor ▸ h.cursor⟩
      · have hn := h.used n
        have hzero : (s.step dev .cleanupVirtIOGPU).driver.control.uses n = 0 := by
          have hz := hholds n
          simp only [QueueMembers.holds, QueueMembers.uses, hnone, hinit] at hz ⊢
          simp
          omega
        have hle : s.driver.control.holds n ≤ s.driver.control.uses n := by
          simp only [QueueMembers.holds, QueueMembers.uses, VMQemuVGA.holds]
          grind
        rw [count_cleanup, hzero, hcursor]
        omega
      · rw [hinit] at h
        cases h

theorem ringAlive_of_used {rest : Nat → Nat} (h : ∀ n, m.uses n + rest n ≤ heap.live.count n)
    (hring : m.initialized = true → m.ring.isSome = true) : m.RingAlive heap := by
  intro hinit
  obtain ⟨p, hp⟩ := Option.isSome_iff_exists.mp (hring hinit)
  refine ⟨p, hp, List.count_pos_iff.mp ?_⟩
  have hn := h p.mem.serial
  simp only [QueueMembers.uses, hp, hinit, Option.map_some, and_self, or_true, if_true] at hn
  omega

/-- **The rings of initialized queues stay allocated**, for every device and in every order of
setups and cleanups, as long as the array of a free list is granted wherever a queue is set up
that is initialized. -/
theorem always_ringAlive (dev : RegDevice VirtioReg) (as : List GpuEvent)
    (h : (machine dev).Along ListGranted (machine dev).init as) :
    (machine dev).Always (fun s => s.driver.control.RingAlive s.driver.heap ∧
      s.driver.cursor.RingAlive s.driver.heap) (machine dev).init as := by
  have hused : (machine dev).Always (fun s => s.driver.Used) (machine dev).init as := by
    refine (machine dev).always_of_along ?_ ?_ h
    · rintro s a t hs hgranted ⟨⟩
      exact used_step hs hgranted
    · exact ⟨fun n => le_rfl, fun h => (by cases h), fun h => (by cases h)⟩
  refine hused.imp _ fun s hs => ⟨?_, ?_⟩
  · exact ringAlive_of_used hs.used hs.control
  · exact ringAlive_of_used (fun n => (Nat.add_comm _ _).trans_le (hs.used n)) hs.cursor

theorem always_ringAlive_twice :
    (machine fun _ _ => 1).Always (fun s => s.driver.control.RingAlive s.driver.heap ∧
      s.driver.cursor.RingAlive s.driver.heap) (machine fun _ _ => 1).init
      [.initVirtIOGPU true .all, .cleanupVirtIOGPU, .initVirtIOGPU true .all] :=
  always_ringAlive _ _ ⟨⟨.inl rfl, .inl rfl⟩, trivial, ⟨.inl rfl, .inl rfl⟩, trivial⟩

end GpuSystem
end VMQemuVGA
