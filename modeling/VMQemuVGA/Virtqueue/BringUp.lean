import VMQemuVGA.Lib.Layout
import VMQemuVGA.Lib.Virtio
import VMQemuVGA.Virtqueue.Descriptors

/-! # Bringing the device up

`setupControlVirtQueue` resets the device, negotiates the features and sets up the control
queue, and the cursor queue on the way; `teardownControlVirtQueue` undoes the first of these
only. `initVirtIOGPU` runs through a handshake of its own before. -/

namespace VMQemuVGA

/-! ## The driver's members -/

/-- Memory for DMA: which allocation it is, and where. -/
structure DmaMemory where
  serial : Nat
  phys : Nat
  size : Nat
  deriving DecidableEq, Repr

/-- `m_vq_desc`, `m_vq_avail` and `m_vq_used`: the memory they point into, and the offsets of
the last two. -/
structure RingPointers where
  mem : DmaMemory
  availOffset : Nat
  usedOffset : Nat
  deriving DecidableEq, Repr

/-- The members of one queue. -/
structure QueueMembers where
  vringMem : Option DmaMemory
  ring : Option RingPointers
  size : Nat
  freeHead : Nat
  /-- the array, and the number of bytes it was allocated with -/
  freeNext : Option (Nat × (Nat → Nat))
  lastUsed : Nat
  availIdx : Nat
  cmdBuf : Option DmaMemory
  respBuf : Option DmaMemory
  notifyOffset : Nat
  initialized : Bool

/-- The allocations for DMA that are not released, by their numbers. -/
structure DmaHeap where
  live : List Nat
  allocated : Nat

structure GpuDriver where
  /-- `m_common_cfg` and `m_common_map` -/
  commonCfg : Bool
  control : QueueMembers
  cursor : QueueMembers
  heap : DmaHeap

def QueueMembers.zero : QueueMembers where
  vringMem := none
  ring := none
  size := 0
  freeHead := 0
  freeNext := none
  lastUsed := 0
  availIdx := 0
  cmdBuf := none
  respBuf := none
  notifyOffset := 0
  initialized := false

def GpuDriver.init : GpuDriver where
  commonCfg := false
  control := .zero
  cursor := .zero
  heap := ⟨[], 0⟩

/-- What the allocations for one queue give. Memory of 32-bit addresses is asked for, and
contiguous memory starts with a page. -/
structure QueueGrants where
  /-- the physical address of memory of so many bytes -/
  vring : Nat → Option Nat
  aligned : ∀ n p, vring n = some p → 16 ∣ p
  below : ∀ n p, vring n = some p → p + n ≤ u32
  freeNext : Bool
  cmdBuf : Option Nat
  respBuf : Option Nat

/-- What a setup finds. -/
structure SetupEnv where
  /-- `findVirtIOCapability` finds the configuration of the device -/
  deviceConfig : Bool
  /-- the common configuration is found and mapped -/
  commonConfig : Bool
  /-- what `initializeVirtIOQueues` returns, which allocates memory for the older queues -/
  olderQueues : Bool
  control : QueueGrants
  cursor : QueueGrants

namespace DmaHeap

/-- The next allocation; `grant` is its address. -/
def allocate (h : DmaHeap) (grant : Option Nat) (size : Nat) : Option DmaMemory × DmaHeap :=
  match grant with
  | none => (none, h)
  | some phys => (some ⟨h.allocated, phys, size⟩, ⟨h.allocated :: h.live, h.allocated + 1⟩)

/-- Release what a member points to, if anything. -/
def release (h : DmaHeap) (mem : Option DmaMemory) : DmaHeap :=
  match mem with
  | none => h
  | some m => { h with live := h.live.erase m.serial }

end DmaHeap

/-! ## The ring in its memory -/

structure RingLayout where
  availOffset : Nat
  usedOffset : Nat
  totalSize : Nat

def ringLayout (qsize : Nat) : RingLayout :=
  let descSize := qsize * 16
  let availSize := 4 + 2 * qsize + 2
  let usedSize := 4 + 8 * qsize + 2
  let availOffset := Layout.rounded 2 descSize
  let usedOffset := Layout.rounded 4 (availOffset + availSize)
  { availOffset := availOffset
    usedOffset := usedOffset
    totalSize := Layout.rounded 4096 (usedOffset + usedSize) }

/-- Where an area is, in memory at an address. -/
def RingLayout.start (l : RingLayout) (phys : Nat) : RingArea → Nat
  | .desc => phys
  | .avail => phys + l.availOffset
  | .used => phys + l.usedOffset

/-- The memory is there, zeroed, and the queue is empty. -/
def QueueMembers.withRing (m : QueueMembers) (mem : DmaMemory) (qsize : Nat) : QueueMembers :=
  { m with
    vringMem := some mem
    ring := some ⟨mem, (ringLayout qsize).availOffset, (ringLayout qsize).usedOffset⟩
    size := qsize
    freeHead := 0
    lastUsed := 0
    availIdx := 0 }

/-- The ring, and `m_vq_free_next`; the ring is released if `IOMalloc` does not give the
array. -/
def allocateRing (g : QueueGrants) (h : DmaHeap) (m : QueueMembers) (qsize : Nat) :
    Option DmaMemory × DmaHeap × QueueMembers :=
  let l := ringLayout qsize
  match h.allocate (g.vring l.totalSize) l.totalSize with
  | (none, h) => (none, h, { m with vringMem := none })
  | (some mem, h) =>
      let m := m.withRing mem qsize
      if g.freeNext = false then
        (none, h.release (some mem), { m with freeNext := none, vringMem := none })
      else (some mem, h, { m with freeNext := some (qsize * 2, (setupFreeList qsize).next) })

/-- The command and the response buffer, and whether both are there. -/
def allocateBuffers (g : QueueGrants) (h : DmaHeap) (m : QueueMembers) (cmdSize respSize : Nat) :
    Bool × DmaHeap × QueueMembers :=
  let (cmdBuf, h) := h.allocate g.cmdBuf cmdSize
  let (respBuf, h) := h.allocate g.respBuf respSize
  (cmdBuf.isSome && respBuf.isSome, h, { m with cmdBuf := cmdBuf, respBuf := respBuf })

/-! ## Programs -/

open RegProg (write read)

/-- Bit 0 of a word of features, if the device offers it. -/
def acceptBit0 (offered : Nat) : Nat := if offered &&& 1 ≠ 0 then 1 else 0

/-- `VIRTIO_GPU_F_VIRGL` is bit 0 of the first word, `VIRTIO_F_VERSION_1` that of the second. -/
def negotiateFeatures : RegProg VirtioReg Bool := do
  write .dfSelect 0
  let devFeat0 ← read .df
  write .dfSelect 1
  let devFeat1 ← read .df
  write .tfSelect 0
  write .tf (acceptBit0 devFeat0)
  write .tfSelect 1
  write .tf (acceptBit0 devFeat1)
  let status ← read .deviceStatus
  write .deviceStatus (status ||| StatusBit.featuresOk.mask)
  let status ← read .deviceStatus
  return StatusBit.featuresOk.isIn status

/-- The addresses of the three areas, as two halves each. -/
def writeRingAddresses (l : RingLayout) (phys : Nat) : RegProg VirtioReg Unit := do
  write (.qAddr .desc false) (l.start phys .desc % 2 ^ 32)
  write (.qAddr .desc true) (l.start phys .desc / 2 ^ 32)
  write (.qAddr .avail false) (l.start phys .avail % 2 ^ 32)
  write (.qAddr .avail true) (l.start phys .avail / 2 ^ 32)
  write (.qAddr .used false) (l.start phys .used % 2 ^ 32)
  write (.qAddr .used true) (l.start phys .used / 2 ^ 32)

/-- The size `setupCursorQueue` settles on, if the device has the queue. -/
def cursorSize (offered : Nat) : Option Nat :=
  if offered = 0 then none
  else
    let qsize := if offered > 16 then 16 else offered
    some (doubleWhile qsize 1 Nat.one_pos)

def setupCursorQueue (g : QueueGrants) (d : GpuDriver) :
    RegProg VirtioReg (Bool × GpuDriver) := do
  write .qSelect 1
  let offered ← read .qSize
  match cursorSize offered with
  | none => return (false, d)
  | some qsize =>
      write .qSize qsize
      let notifyOff ← read .qNotifyOff
      match allocateRing g d.heap { d.cursor with notifyOffset := notifyOff } qsize with
      | (none, heap, cursor) => return (false, { d with heap := heap, cursor := cursor })
      | (some mem, heap, cursor) =>
          match allocateBuffers g heap cursor 128 64 with
          | (false, heap, cursor) => return (false, { d with heap := heap, cursor := cursor })
          | (true, heap, cursor) =>
              writeRingAddresses (ringLayout qsize) mem.phys
              write .qEnable 1
              write .qSelect 1
              let _ ← read .qEnable
              let _ ← read .qSize
              return (true,
                { d with heap := heap, cursor := { cursor with initialized := true } })

/-- Reset, ACKNOWLEDGE, DRIVER, and the features. -/
def handshake : RegProg VirtioReg Bool := do
  write .deviceStatus 0
  write .deviceStatus StatusBit.acknowledge.mask
  write .deviceStatus (StatusBit.acknowledge.mask ||| StatusBit.driver.mask)
  negotiateFeatures

/-- The end of `setupControlVirtQueue`, when the device is running already. -/
def finishSetup (g : QueueGrants) (d : GpuDriver) (notifyOff : Nat) : Bool × GpuDriver :=
  match allocateBuffers g d.heap d.control 4096 4096 with
  | (false, heap, control) => (false, { d with heap := heap, control := control })
  | (true, heap, control) =>
      (true,
        { d with
          heap := heap
          control := { control with notifyOffset := notifyOff, initialized := true } })

/-- `setupControlVirtQueue` behind the handshake. -/
def setupQueues (env : SetupEnv) (d : GpuDriver) : RegProg VirtioReg (Bool × GpuDriver) := do
  write .qSelect 0
  let offered ← read .qSize
  match negotiatedSize offered with
  | none => return (false, d)
  | some qsize =>
      write .qSize qsize
      let notifyOff ← read .qNotifyOff
      match allocateRing env.control d.heap d.control qsize with
      | (none, heap, control) => return (false, { d with heap := heap, control := control })
      | (some mem, heap, control) =>
          writeRingAddresses (ringLayout qsize) mem.phys
          write .qEnable 1
          let _ ← read .qEnable
          let (_, d) ← setupCursorQueue env.cursor { d with heap := heap, control := control }
          let status ← read .deviceStatus
          write .deviceStatus (status ||| StatusBit.driverOk.mask)
          return finishSetup env.control d notifyOff

/-- The result of the negotiation makes no difference. -/
def setupControlVirtQueue (env : SetupEnv) (d : GpuDriver) :
    RegProg VirtioReg (Bool × GpuDriver) :=
  if env.commonConfig = false then return (false, d)
  else do
    let _ ← handshake
    setupQueues env { d with commonCfg := true }

/-- The members are cleared whether or not the queue has been disabled. -/
def teardownControlVirtQueue (d : GpuDriver) : RegProg VirtioReg GpuDriver := do
  if d.control.initialized = true ∧ d.commonCfg = true then
    write .qSelect 0
    write .qEnable 0
  return { d with
    commonCfg := false
    heap := ((d.heap.release d.control.cmdBuf).release d.control.respBuf).release
      d.control.vringMem
    control := { d.control with
      initialized := false
      cmdBuf := none
      respBuf := none
      freeNext := none
      vringMem := none
      ring := none
      size := 0 } }

/-- The handshake `initVirtIOGPU` needs for reading the device's configuration, where it
gets that far. -/
def configHandshake : RegProg VirtioReg Unit := do
  write .deviceStatus 0
  write .deviceStatus 1
  write .deviceStatus (1 ||| 2)
  write .deviceStatus (1 ||| 2 ||| 4)
  let _ ← read .deviceStatus

/-- `initVirtIOGPU`. Without a configuration of the device it assumes one and returns; a
control queue that cannot be set up is only complained about. -/
def initVirtIOGPU (mapped : Bool) (env : SetupEnv) (d : GpuDriver) :
    RegProg VirtioReg (Bool × GpuDriver) :=
  if env.deviceConfig = false then return (true, d)
  else do
    if mapped = true then configHandshake
    let (_, d) ← setupControlVirtQueue env d
    return (env.olderQueues, d)

/-! ## Sizes -/

theorem doubleWhile_one {qsize : Nat} (h : 0 < qsize) :
    doubleWhile qsize 1 Nat.one_pos = 2 ^ Nat.log 2 qsize :=
  doubleWhile_two_pow 0 Nat.one_pos h

theorem cursorSize_eq_some {offered qsize : Nat} (h : cursorSize offered = some qsize) :
    qsize ≤ offered ∧ qsize ≤ 16 ∧ ∃ k, qsize = 2 ^ k := by
  unfold cursorSize at h
  split at h
  · cases h
  next h0 =>
    have hmin : (if offered > 16 then 16 else offered) = min offered 16 := by split <;> omega
    rw [Option.some.injEq] at h
    rw [hmin, doubleWhile_one (by omega)] at h
    have hle := Nat.pow_log_le_self 2 (show min offered 16 ≠ 0 by omega)
    exact ⟨by omega, by omega, _, h.symm⟩

theorem negotiatedSize_eq_some {offered qsize : Nat} (h : negotiatedSize offered = some qsize) :
    qsize ≤ offered ∧ qsize ≤ 256 ∧ ∃ k, qsize = 2 ^ k := by
  have h0 : offered ≠ 0 := by
    rintro rfl
    cases h
  rw [negotiatedSize_eq h0, Option.some.injEq] at h
  have hle := Nat.pow_log_le_self 2 (show min offered 256 ≠ 0 by omega)
  exact ⟨by omega, by omega, _, h.symm⟩

/-! ## Where a ring lies -/

/-- The queue as the driver has placed it. -/
def placedQueue (offered : Option Nat) (qsize phys : Nat) (enabled : Bool) : VirtioQueue where
  offered := offered
  size := some qsize
  addr := fun a high =>
    let n := (ringLayout qsize).start phys a
    some (if high then n / 2 ^ 32 else n % 2 ^ 32)
  enabled := enabled

theorem ringLayout_le (qsize : Nat) :
    16 * qsize ≤ (ringLayout qsize).availOffset ∧
      (ringLayout qsize).availOffset + (6 + 2 * qsize) ≤ (ringLayout qsize).usedOffset ∧
      (ringLayout qsize).usedOffset + (6 + 8 * qsize) ≤ (ringLayout qsize).totalSize := by
  have havail := Layout.le_rounded (qsize * 16) (show 0 < 2 by decide)
  have hused := Layout.le_rounded ((ringLayout qsize).availOffset + (4 + 2 * qsize + 2))
    (show 0 < 4 by decide)
  have htotal := Layout.le_rounded ((ringLayout qsize).usedOffset + (4 + 8 * qsize + 2))
    (show 0 < 4096 by decide)
  change qsize * 16 ≤ (ringLayout qsize).availOffset at havail
  change _ ≤ (ringLayout qsize).usedOffset at hused
  change _ ≤ (ringLayout qsize).totalSize at htotal
  omega

/-- **The three areas fit the memory, do not meet, and are aligned.** -/
theorem placed_placedQueue {phys : Nat} (offered : Option Nat) (qsize : Nat) (enabled : Bool)
    (hphys : 16 ∣ phys) :
    (placedQueue offered qsize phys enabled).Placed qsize ((ringLayout qsize).start phys) := by
  obtain ⟨havail, hused, -⟩ := ringLayout_le qsize
  refine ⟨rfl, fun a => ?_, fun a => ?_, fun a b hne => ?_⟩
  · exact congrArg some (Nat.mod_add_div _ _)
  · cases a with
    | desc => exact hphys
    | avail =>
        exact (Nat.dvd_add_right (Dvd.dvd.trans (by decide) hphys)).mpr (Layout.dvd_rounded 2 _)
    | used =>
        exact (Nat.dvd_add_right (Dvd.dvd.trans (by decide) hphys)).mpr (Layout.dvd_rounded 4 _)
  · cases a <;> cases b <;>
      simp only [RingLayout.start, VirtioQueue.areaSize, ne_eq, not_true_eq_false] at hne ⊢ <;>
      omega

theorem start_add_areaSize_le (qsize phys : Nat) (a : RingArea) :
    phys ≤ (ringLayout qsize).start phys a ∧
      (ringLayout qsize).start phys a + VirtioQueue.areaSize qsize a ≤
        phys + (ringLayout qsize).totalSize := by
  obtain ⟨havail, hused, htotal⟩ := ringLayout_le qsize
  cases a <;> simp only [RingLayout.start, VirtioQueue.areaSize] <;> omega

/-! ## The ring of a queue -/

/-- The queue the device has is the one in the driver's members, in the memory `mem`. -/
structure QueueMembers.Drives (m : QueueMembers) (x : VirtioQueue) (mem : DmaMemory) : Prop where
  vringMem : m.vringMem = some mem
  ring : m.ring = some ⟨mem, (ringLayout m.size).availOffset, (ringLayout m.size).usedOffset⟩
  memSize : mem.size = (ringLayout m.size).totalSize
  size : ∃ k, m.size = 2 ^ k
  enabled : x.enabled = true
  placed : x.Placed m.size ((ringLayout m.size).start mem.phys)
  free : m.freeHead = 0 ∧ m.freeNext = some (m.size * 2, (setupFreeList m.size).next)
  fresh : m.lastUsed = 0 ∧ m.availIdx = 0

/-- A ring that has been allocated, and nothing else. -/
structure RingReady (g : QueueGrants) (qsize : Nat) (mem : DmaMemory) (m : QueueMembers) :
    Prop where
  vringMem : m.vringMem = some mem
  ring : m.ring = some ⟨mem, (ringLayout qsize).availOffset, (ringLayout qsize).usedOffset⟩
  size : m.size = qsize
  memSize : mem.size = (ringLayout qsize).totalSize
  granted : g.vring (ringLayout qsize).totalSize = some mem.phys
  free : m.freeHead = 0 ∧ m.freeNext = some (qsize * 2, (setupFreeList qsize).next)
  fresh : m.lastUsed = 0 ∧ m.availIdx = 0

variable {g : QueueGrants} {heap heap' : DmaHeap} {m m' : QueueMembers} {mem : DmaMemory}
  {qsize : Nat}

/-- No memory, no array, or both. -/
theorem allocateRing_cases (g : QueueGrants) (heap : DmaHeap) (m : QueueMembers) (qsize : Nat) :
    allocateRing g heap m qsize = (none, heap, { m with vringMem := none }) ∨
    (∃ mem, g.freeNext = false ∧ allocateRing g heap m qsize =
      (none, { heap with allocated := heap.allocated + 1 },
        { m.withRing mem qsize with freeNext := none, vringMem := none })) ∨
    (∃ mem, mem.serial = heap.allocated ∧ RingReady g qsize mem (allocateRing g heap m qsize).2.2 ∧
      allocateRing g heap m qsize =
        (some mem, ⟨heap.allocated :: heap.live, heap.allocated + 1⟩,
          { m.withRing mem qsize with
            freeNext := some (qsize * 2, (setupFreeList qsize).next) })) := by
  cases hg : g.vring (ringLayout qsize).totalSize with
  | none => exact .inl (by simp only [allocateRing, DmaHeap.allocate, hg])
  | some phys =>
      let mem : DmaMemory := ⟨heap.allocated, phys, (ringLayout qsize).totalSize⟩
      cases hfree : g.freeNext with
      | false =>
          refine .inr (.inl ⟨mem, rfl, ?_⟩)
          simp [allocateRing, DmaHeap.allocate, DmaHeap.release, hg, hfree, mem]
      | true =>
          have heq : allocateRing g heap m qsize =
              (some mem, ⟨heap.allocated :: heap.live, heap.allocated + 1⟩,
                { m.withRing mem qsize with
                  freeNext := some (qsize * 2, (setupFreeList qsize).next) }) := by
            simp [allocateRing, DmaHeap.allocate, hg, hfree, mem]
          refine .inr (.inr ⟨mem, rfl, ?_, heq⟩)
          rw [heq]
          exact ⟨rfl, rfl, rfl, rfl, hg, ⟨rfl, rfl⟩, ⟨rfl, rfl⟩⟩

/-! ## What is held -/

/-- Whether a member points to the allocation `n`. -/
def holds (mem : Option DmaMemory) (n : Nat) : Nat :=
  if mem.map DmaMemory.serial = some n then 1 else 0

@[simp] theorem holds_none (n : Nat) : holds none n = 0 := rfl

@[simp] theorem holds_some (mem : DmaMemory) (n : Nat) :
    holds (some mem) n = if mem.serial = n then 1 else 0 := by
  simp [holds]

/-- How many members point to the allocation `n`. -/
def QueueMembers.holds (m : QueueMembers) (n : Nat) : Nat :=
  VMQemuVGA.holds m.vringMem n + VMQemuVGA.holds m.cmdBuf n + VMQemuVGA.holds m.respBuf n

/-- The same, where an initialized queue points to its ring also by `ring`. -/
def QueueMembers.uses (m : QueueMembers) (n : Nat) : Nat :=
  (if m.vringMem.map DmaMemory.serial = some n ∨
    (m.initialized = true ∧ m.ring.map (fun p => p.mem.serial) = some n) then 1 else 0) +
    VMQemuVGA.holds m.cmdBuf n + VMQemuVGA.holds m.respBuf n

/-- The pointers of an initialized queue point into memory. -/
def QueueMembers.RingAlive (m : QueueMembers) (heap : DmaHeap) : Prop :=
  m.initialized = true → ∃ p, m.ring = some p ∧ p.mem.serial ∈ heap.live

/-- What allocations for one queue do: what was allocated stays so, and what the members and
others (`rest`) point to. The ring is among that if the step is `safe`. -/
structure HeapStep (safe : Prop) (heap : DmaHeap) (m : QueueMembers) (heap' : DmaHeap)
    (m' : QueueMembers) : Prop where
  owned : ∀ rest : Nat → Nat, (∀ n, m.holds n + rest n ≤ heap.live.count n) →
    ∀ n, m'.holds n + rest n ≤ heap'.live.count n
  used : safe → ∀ rest : Nat → Nat, (∀ n, m.uses n + rest n ≤ heap.live.count n) →
    ∀ n, m'.uses n + rest n ≤ heap'.live.count n
  kept : ∀ n, heap.live.count n ≤ heap'.live.count n
  ringed : (m.initialized = true → m.ring.isSome = true) →
    m'.initialized = true → m'.ring.isSome = true

variable {safe : Prop} {heap'' : DmaHeap} {m'' : QueueMembers}

theorem HeapStep.trans (h : HeapStep safe heap m heap' m')
    (h' : HeapStep safe heap' m' heap'' m'') :
    HeapStep safe heap m heap'' m'' where
  owned rest hrest := h'.owned rest (h.owned rest hrest)
  used hsafe rest hrest := h'.used hsafe rest (h.used hsafe rest hrest)
  kept n := (h.kept n).trans (h'.kept n)
  ringed hring := h'.ringed (h.ringed hring)

theorem HeapStep.refl : HeapStep safe heap m heap m :=
  ⟨fun _ h => h, fun _ _ h => h, fun _ => le_rfl, fun h => h⟩

theorem mem_live_of_kept (h : ∀ n, heap.live.count n ≤ heap'.live.count n) {n : Nat}
    (hn : n ∈ heap.live) : n ∈ heap'.live :=
  List.count_pos_iff.mp ((List.count_pos_iff.mpr hn).trans_le (h n))

theorem heapStep_allocateRing {r : Option DmaMemory}
    (h : allocateRing g heap m qsize = (r, heap', m')) :
    HeapStep (g.freeNext = true ∨ m.initialized = false) heap m heap' m' := by
  rcases allocateRing_cases g heap m qsize with heq | ⟨mem, hfree, heq⟩ | ⟨mem, hserial, -, heq⟩
  · cases h.symm.trans heq
    refine ⟨fun rest h n => ?_, fun _ rest h n => ?_, fun n => le_rfl, fun h => h⟩
    · have hn := h n
      simp only [QueueMembers.holds, holds_none] at hn ⊢
      omega
    · have hn := h n
      simp only [QueueMembers.uses, Option.map_none, reduceCtorEq, false_or] at hn ⊢
      split_ifs at hn ⊢ <;> grind
  · cases h.symm.trans heq
    refine ⟨fun rest h n => ?_, fun hsafe rest h n => ?_, fun n => le_rfl, fun _ _ => rfl⟩
    · have hn := h n
      simp only [QueueMembers.holds, QueueMembers.withRing, holds_none] at hn ⊢
      omega
    · have hinit : m.initialized = false :=
        hsafe.resolve_left (by rw [hfree]; exact Bool.false_ne_true)
      have hn := h n
      simp only [QueueMembers.uses, QueueMembers.withRing, Option.map_none, reduceCtorEq, false_or,
        hinit, Bool.false_eq_true, false_and, if_false] at hn ⊢
      omega
  · cases h.symm.trans heq
    refine ⟨fun rest h n => ?_, fun _ rest h n => ?_, fun n => ?_, fun _ _ => rfl⟩
    · have hn := h n
      simp only [QueueMembers.holds, QueueMembers.withRing, holds_some, List.count_cons,
        beq_iff_eq, hserial] at hn ⊢
      omega
    · have hn := h n
      simp only [QueueMembers.uses, QueueMembers.withRing, Option.map_some, Option.some.injEq,
        hserial, List.count_cons, beq_iff_eq] at hn ⊢
      split_ifs at hn ⊢ <;> grind
    · exact List.count_le_count_cons

theorem ringReady_of_allocateRing (h : allocateRing g heap m qsize = (some mem, heap', m')) :
    RingReady g qsize mem m' ∧ mem.serial ∈ heap'.live := by
  rcases allocateRing_cases g heap m qsize with heq | ⟨_, _, heq⟩ | ⟨mem', hserial, hready, heq⟩
  · cases h.symm.trans heq
  · cases h.symm.trans heq
  · rw [h] at hready
    cases h.symm.trans heq
    exact ⟨hready, hserial ▸ List.mem_cons_self⟩

theorem count_allocate (heap : DmaHeap) (grant : Option Nat) (size n : Nat) :
    (heap.allocate grant size).2.live.count n =
      heap.live.count n + holds (heap.allocate grant size).1 n := by
  cases grant with
  | none => rfl
  | some phys => simp [DmaHeap.allocate, List.count_cons]

theorem heapStep_allocateBuffers {r : Bool} {cmdSize respSize : Nat} (safe : Prop)
    (h : allocateBuffers g heap m cmdSize respSize = (r, heap', m')) :
    HeapStep safe heap m heap' m' := by
  have hcmd := count_allocate heap g.cmdBuf cmdSize
  have hresp := count_allocate (heap.allocate g.cmdBuf cmdSize).2 g.respBuf respSize
  simp only [allocateBuffers, Prod.mk.injEq] at h
  obtain ⟨-, rfl, rfl⟩ := h
  have hkept : ∀ n, heap.live.count n ≤
      ((heap.allocate g.cmdBuf cmdSize).2.allocate g.respBuf respSize).2.live.count n := by
    intro n
    have hc := hcmd n
    have hr := hresp n
    omega
  refine ⟨fun rest h n => ?_, fun _ rest h n => ?_, hkept, fun h => h⟩
  · have hn := h n
    have hc := hcmd n
    have hr := hresp n
    simp only [QueueMembers.holds] at hn ⊢
    omega
  · have hn := h n
    have hc := hcmd n
    have hr := hresp n
    simp only [QueueMembers.uses] at hn ⊢
    omega

/-- The buffers make no difference to the ring. -/
theorem RingReady.buffers {r : Bool} {cmdSize respSize : Nat} (hready : RingReady g qsize mem m)
    (h : allocateBuffers g heap m cmdSize respSize = (r, heap', m')) :
    RingReady g qsize mem m' := by
  cases h
  exact ⟨hready.vringMem, hready.ring, hready.size, hready.memSize, hready.granted, hready.free,
    hready.fresh⟩

/-- Every allocation that members point to is there, once for each of them. -/
def GpuDriver.Owned (d : GpuDriver) : Prop :=
  ∀ n, d.control.holds n + d.cursor.holds n ≤ d.heap.live.count n

/-- The same, with the rings of the initialized queues, which there are. -/
structure GpuDriver.Used (d : GpuDriver) : Prop where
  used : ∀ n, d.control.uses n + d.cursor.uses n ≤ d.heap.live.count n
  control : d.control.initialized = true → d.control.ring.isSome = true
  cursor : d.cursor.initialized = true → d.cursor.ring.isSome = true

/-- A ring that is allocated drives the queue that its addresses are written to. -/
theorem RingReady.drives (h : RingReady g qsize mem m) (hsize : ∃ k, qsize = 2 ^ k)
    (o : Option Nat) : m.Drives (placedQueue o qsize mem.phys true) mem := by
  obtain ⟨hmem, hring, rfl, hmemSize, hgranted, hfree, hfresh⟩ := h
  exact ⟨hmem, hring, hmemSize, hsize, rfl,
    placed_placedQueue o m.size true (g.aligned _ _ hgranted), hfree, hfresh⟩

/-- A new initialized queue has a ring, in memory. -/
theorem HeapStep.initialized {notifyOff : Nat} (h : HeapStep safe heap m heap' m')
    (hready : RingReady g qsize mem m') :
    HeapStep safe heap m heap' { m' with notifyOffset := notifyOff, initialized := true } := by
  refine ⟨h.owned, fun hsafe rest hrest n => ?_, h.kept, fun _ _ => by rw [hready.ring]; rfl⟩
  have hn := h.used hsafe rest hrest n
  simp only [QueueMembers.uses, hready.vringMem, hready.ring, Option.map_some] at hn ⊢
  grind

theorem RingReady.initialized {notifyOff : Nat} (h : RingReady g qsize mem m) :
    RingReady g qsize mem { m with notifyOffset := notifyOff, initialized := true } :=
  ⟨h.vringMem, h.ring, h.size, h.memSize, h.granted, h.free, h.fresh⟩

theorem missing_of_allocateBuffers {cmdSize respSize : Nat}
    (h : allocateBuffers g heap m cmdSize respSize = (false, heap', m')) :
    g.cmdBuf = none ∨ g.respBuf = none := by
  have hfst := congrArg Prod.fst h
  unfold allocateBuffers DmaHeap.allocate at hfst
  cases hc : g.cmdBuf <;> cases hr : g.respBuf <;> simp [hc, hr] at hfst ⊢

end VMQemuVGA
