import VMQemuVGA.Lib.Machine
import VMQemuVGA.IOKit

/-! # The GPU memory pools of `VMMetalBridge`

`updateBuffer` copies what it was given and hands the copy to the device, at an
address from one of six pools. The pools are shared by all bridges. -/

namespace VMQemuVGA

/-- `VMGPUMemoryPool`. Nothing ever sets its `fragmentation_level`. -/
structure GPUMemoryPool where
  baseAddress : Nat
  poolSize : Nat
  allocatedSize : Nat
  availableSize : Nat
  allocationCount : Nat
  isCoherentPool : Bool
  deriving DecidableEq, Repr

/-- What a synchronization gets from the kernel and the device. -/
structure SyncEnv where
  /-- `IOBufferMemoryDescriptor::withBytes` -/
  memory : Bool
  mapGuestMemory : IOReturn
  executeCommands : IOReturn
  deriving DecidableEq, Repr

/-- `size` rounded up to the next 256 bytes, as a `uint32_t`. -/
def align256 (size : Nat) : Nat := (size + 255) % u32 / 256 * 256

/-- An address rounded up to the next 256 bytes. -/
def alignAddress (a : Nat) : Nat := (a + 255) % u64 / 256 * 256

namespace GPUMemoryPool

/-- A pool that is not in use yet, as the array has it. -/
def zero : GPUMemoryPool := ⟨0, 0, 0, 0, 0, false⟩

/-- A new pool, the `i`th. -/
def fresh (i size : Nat) (coherent : Bool) : GPUMemoryPool :=
  ⟨0x40000000 + i * 0x10000000, size, 0, size, 0, coherent⟩

/-- How well a transfer suits the pool. Every pool counts as little fragmented. -/
def score (transferSize bufferId : Nat) (p : GPUMemoryPool) : Nat :=
  (if transferSize ≤ p.poolSize / 4 then 30 else if transferSize ≤ p.poolSize / 2 then 20 else 10) +
    (if p.isCoherentPool = true ∧ bufferId % 2 = 0 then 20 else 0) + 15 +
    let percent := p.availableSize * 100 % u64 / p.poolSize % u32
    if percent > 75 then 15 else if percent > 50 then 10 else if percent > 25 then 5 else 0

/-- What `expandGPUMemoryPool` adds, if it can. -/
def expansion (required : Nat) (p : GPUMemoryPool) : Option Nat :=
  let wanted := max (required * 3 % u32 / 2) (p.poolSize / 4)
  if p.poolSize + wanted > 1024 * 1024 * 1024 then
    let rest := 1024 * 1024 * 1024 - p.poolSize
    if rest < required then none else some rest
  else some wanted

def expand (bytes : Nat) (p : GPUMemoryPool) : GPUMemoryPool :=
  { p with
    poolSize := (p.poolSize + bytes) % u64
    availableSize := (p.availableSize + bytes) % u64 }

/-- The offset of the next allocation, before it is rounded up. -/
def offset (p : GPUMemoryPool) : Nat := sub64 p.poolSize p.availableSize

def address (p : GPUMemoryPool) : Nat := alignAddress ((p.baseAddress + p.offset) % u64)

/-- The accounts of a transfer that has been made. -/
def charge (size : Nat) (p : GPUMemoryPool) : GPUMemoryPool :=
  { p with
    allocatedSize := (p.allocatedSize + size) % u64
    availableSize := sub64 p.availableSize size
    allocationCount := inc32 p.allocationCount }

/-- `deallocateGPUMemoryInPool`. -/
def deallocate (size : Nat) (p : GPUMemoryPool) : GPUMemoryPool :=
  { p with
    allocatedSize := sub64 p.allocatedSize (align256 size)
    availableSize := (p.availableSize + align256 size) % u64
    allocationCount := dec32 p.allocationCount }

end GPUMemoryPool

/-! ## The pools -/

/-- `g_gpu_memory_pools`, of which `g_gpu_memory_pool_count` are in use. -/
structure GPUMemory where
  pools : List GPUMemoryPool
  deriving DecidableEq, Repr

namespace GPUMemory

def start : GPUMemory := ⟨[]⟩

/-- The pools of `initializeGPUMemoryPools`. -/
def initial : List GPUMemoryPool :=
  [.fresh 0 (64 * 1024 * 1024) true, .fresh 1 (128 * 1024 * 1024) true,
    .fresh 2 (32 * 1024 * 1024) false, .fresh 3 (16 * 1024 * 1024) true,
    .fresh 4 (8 * 1024 * 1024) false, .fresh 5 (256 * 1024 * 1024) false]

/-- The first synchronization sets the pools up. -/
def initialized (m : GPUMemory) : GPUMemory := if m.pools = [] then ⟨initial⟩ else m

def pool (m : GPUMemory) (i : Nat) : GPUMemoryPool := m.pools.getD i .zero

def modifyPool (m : GPUMemory) (i : Nat) (f : GPUMemoryPool → GPUMemoryPool) : GPUMemory :=
  ⟨m.pools.modify i f⟩

/-- The best pool with its score, `best` being the best before the `i`th. -/
def selectFrom (transferSize bufferId : Nat) : List GPUMemoryPool → Nat → Nat × Nat → Nat
  | [], _, best => best.1
  | p :: ps, i, best =>
      if p.availableSize < transferSize then selectFrom transferSize bufferId ps (i + 1) best
      else if p.score transferSize bufferId > best.2 then
        selectFrom transferSize bufferId ps (i + 1) (i, p.score transferSize bufferId)
      else selectFrom transferSize bufferId ps (i + 1) best

/-- Pool 0 where none has room. -/
def selectOptimalGPUMemoryPool (transferSize bufferId : Nat) (m : GPUMemory) : Nat :=
  selectFrom transferSize bufferId m.pools 0 (0, 0)

def expandGPUMemoryPool (i required : Nat) (m : GPUMemory) : IOReturn × GPUMemory :=
  if i ≥ m.pools.length then (.badArgument, m)
  else
    match (m.pool i).expansion required with
    | none => (.noResources, m)
    | some bytes => (.success, m.modifyPool i (GPUMemoryPool.expand bytes))

def findAvailableGPUMemoryPool (required : Nat) (m : GPUMemory) : Option Nat :=
  m.pools.findIdx? fun p => p.availableSize ≥ required

/-- `0` says that there is no room. Nothing is written down. -/
def allocateGPUMemoryInPool (i size : Nat) (m : GPUMemory) : Nat :=
  if i ≥ m.pools.length then 0
  else if (m.pool i).availableSize < align256 size then 0
  else (m.pool i).address

/-- The pool for a transfer: the one selected, expanded if need be, or else the
first one with room. -/
def target (bufferId size : Nat) (m : GPUMemory) : Option (Nat × GPUMemory) :=
  let i := m.selectOptimalGPUMemoryPool size bufferId
  if (m.pool i).availableSize < size then
    match m.expandGPUMemoryPool i size with
    | (.success, m) => some (i, m)
    | (_, m) => (m.findAvailableGPUMemoryPool size).map fun j => (j, m)
  else some (i, m)

/-- `performAdvancedGPUMemorySynchronization`. -/
def synchronize (e : SyncEnv) (bufferId size : Nat) (m : GPUMemory) : IOReturn × GPUMemory :=
  match m.initialized.target bufferId size with
  | none => (.noResources, m.initialized)
  | some (i, m) =>
      if e.memory = false then (.noMemory, m)
      else if m.allocateGPUMemoryInPool i size = 0 then (.noMemory, m)
      else if e.mapGuestMemory ≠ .success then
        (e.mapGuestMemory, m.modifyPool i (GPUMemoryPool.deallocate size))
      else if e.executeCommands ≠ .success then
        (e.executeCommands, m.modifyPool i (GPUMemoryPool.deallocate size))
      else (.success, m.modifyPool i (GPUMemoryPool.charge size))

/-! ### One pool changed -/

variable {m : GPUMemory} {i j : Nat} {f : GPUMemoryPool → GPUMemoryPool}

theorem length_modifyPool : (m.modifyPool i f).pools.length = m.pools.length :=
  List.length_modify ..

theorem pool_modifyPool_self (h : i < m.pools.length) :
    (m.modifyPool i f).pool i = f (m.pool i) := by
  unfold pool modifyPool
  rw [List.getD_eq_getElem?_getD, List.getD_eq_getElem?_getD, List.getElem?_modify,
    List.getElem?_eq_getElem h]
  simp

theorem pool_modifyPool_of_ne (h : j ≠ i) : (m.modifyPool i f).pool j = m.pool j := by
  unfold pool modifyPool
  rw [List.getD_eq_getElem?_getD, List.getD_eq_getElem?_getD, List.getElem?_modify]
  simp [Ne.symm h]

theorem initialized_of_ne (h : m.pools ≠ []) : m.initialized = m := if_neg h

end GPUMemory

/-! ## Ranges -/

/-- A range of addresses handed out, with the index of its pool. -/
structure GPURange where
  pool : Nat
  address : Nat
  size : Nat
  deriving DecidableEq, Repr

/-- Two ranges have no address in common. -/
def GPURange.Apart (r r' : GPURange) : Prop :=
  r.address + r.size ≤ r'.address ∨ r'.address + r'.size ≤ r.address

/-- `n` rounded up to the next 256, without a width. -/
def roundUp256 (n : Nat) : Nat := (n + 255) / 256 * 256

theorem roundUp256_mono {a b : Nat} (h : a ≤ b) : roundUp256 a ≤ roundUp256 b :=
  Nat.mul_le_mul_right 256 (Nat.div_le_div_right (Nat.add_le_add_right h 255))

namespace GPUMemoryPool
variable {p : GPUMemoryPool} {size : Nat}

/-- The accounts are right. -/
structure Balanced (p : GPUMemoryPool) : Prop where
  total : p.allocatedSize + p.availableSize = p.poolSize
  limit : p.poolSize ≤ 1024 * 1024 * 1024

theorem Balanced.offset (h : p.Balanced) : p.offset = p.allocatedSize := by
  have htotal := h.total
  have hlimit := h.limit
  have hu := u64_eq
  unfold GPUMemoryPool.offset
  rw [sub64_of_le (by omega) (by omega)]
  omega

theorem Balanced.address (h : p.Balanced) {k : Nat} (hb : p.baseAddress = k * 256)
    (hk : k < 2 ^ 32) : p.address = p.baseAddress + roundUp256 p.allocatedSize := by
  have htotal := h.total
  have hlimit := h.limit
  have hu := u64_eq
  unfold GPUMemoryPool.address alignAddress roundUp256
  rw [h.offset, Nat.mod_eq_of_lt (show p.baseAddress + p.allocatedSize < u64 by omega),
    Nat.mod_eq_of_lt (by omega)]
  omega

theorem Balanced.charge (h : p.Balanced) (hs : p.allocatedSize + size ≤ p.poolSize) :
    (p.charge size).Balanced ∧ (p.charge size).allocatedSize = p.allocatedSize + size := by
  have htotal := h.total
  have hlimit := h.limit
  have hu := u64_eq
  have hsum : (p.charge size).allocatedSize = p.allocatedSize + size :=
    Nat.mod_eq_of_lt (by omega)
  have hrest : (p.charge size).availableSize = p.availableSize - size :=
    sub64_of_le (by omega) (by omega)
  refine ⟨⟨?_, hlimit⟩, hsum⟩
  rw [hsum, hrest]
  show _ = p.poolSize
  omega

/-- An expanded pool is at most 1 GB. -/
theorem expansion_le {required bytes : Nat} (hp : p.poolSize ≤ 1024 * 1024 * 1024)
    (h : p.expansion required = some bytes) : p.poolSize + bytes ≤ 1024 * 1024 * 1024 := by
  unfold expansion at h
  dsimp only at h
  split at h
  · split at h
    · cases h
    · cases h
      omega
  · cases h
    omega

theorem Balanced.expand (h : p.Balanced) {required bytes : Nat}
    (hb : p.expansion required = some bytes) :
    (p.expand bytes).Balanced ∧ p.poolSize ≤ (p.expand bytes).poolSize := by
  have htotal := h.total
  have hle := expansion_le h.limit hb
  have hu := u64_eq
  have hsize : (p.expand bytes).poolSize = p.poolSize + bytes := Nat.mod_eq_of_lt (by omega)
  have hrest : (p.expand bytes).availableSize = p.availableSize + bytes :=
    Nat.mod_eq_of_lt (by omega)
  refine ⟨⟨?_, ?_⟩, ?_⟩
  · rw [hsize, hrest]
    show p.allocatedSize + _ = _
    omega
  · rw [hsize]
    exact hle
  · rw [hsize]
    omega

end GPUMemoryPool

/-! ## What is kept -/

namespace GPUMemory
variable {m : GPUMemory} {ranges : List GPURange} {i size : Nat}

/-- A range lies in its pool, below what the pool hands out next and, but for the
last pool, before the next pool. -/
structure Contains (m : GPUMemory) (r : GPURange) : Prop where
  pool : r.pool < 6
  above : (m.pool r.pool).baseAddress ≤ r.address
  within : r.address + r.size ≤ (m.pool r.pool).baseAddress + (m.pool r.pool).poolSize
  used : r.address + r.size ≤
    (m.pool r.pool).baseAddress + roundUp256 (m.pool r.pool).allocatedSize
  spaced : r.pool = 5 ∨ r.address + r.size ≤ (m.pool r.pool).baseAddress + 0x10000000

structure Kept (m : GPUMemory) (ranges : List GPURange) : Prop where
  length : m.pools.length = 6
  base : ∀ i < 6, (m.pool i).baseAddress = 0x40000000 + i * 0x10000000
  balanced : ∀ i < 6, (m.pool i).Balanced
  contains : ∀ r ∈ ranges, m.Contains r
  apart : ranges.Pairwise GPURange.Apart

theorem kept_initial : Kept ⟨initial⟩ [] where
  length := rfl
  base := by decide
  balanced := by
    intro i hi
    match i, hi with
    | 0, _ | 1, _ | 2, _ | 3, _ | 4, _ | 5, _ => exact ⟨rfl, by decide⟩
  contains := fun _ h => (by cases h)
  apart := List.Pairwise.nil

/-- A pool changed in its accounts only, and its used part and its size at most grew. -/
theorem Kept.modifyPool {f : GPUMemoryPool → GPUMemoryPool} (h : m.Kept ranges) (hi : i < 6)
    (hbase : (f (m.pool i)).baseAddress = (m.pool i).baseAddress)
    (hbalanced : (f (m.pool i)).Balanced)
    (hsize : (m.pool i).poolSize ≤ (f (m.pool i)).poolSize)
    (hused : (m.pool i).allocatedSize ≤ (f (m.pool i)).allocatedSize) :
    (m.modifyPool i f).Kept ranges := by
  have hself : (m.modifyPool i f).pool i = f (m.pool i) :=
    pool_modifyPool_self (by rw [h.length]; exact hi)
  constructor
  · rw [length_modifyPool]
    exact h.length
  · intro j hj
    by_cases hij : j = i
    · subst hij
      rw [hself, hbase]
      exact h.base j hj
    · rw [pool_modifyPool_of_ne hij]
      exact h.base j hj
  · intro j hj
    by_cases hij : j = i
    · subst hij
      rw [hself]
      exact hbalanced
    · rw [pool_modifyPool_of_ne hij]
      exact h.balanced j hj
  · intro r hr
    obtain ⟨hpool, habove, hwithin, hend, hspaced⟩ := h.contains r hr
    by_cases hij : r.pool = i
    · subst hij
      constructor
      · exact hpool
      · rw [hself, hbase]
        exact habove
      · rw [hself, hbase]
        omega
      · rw [hself, hbase]
        exact Nat.le_trans hend (Nat.add_le_add_left (roundUp256_mono hused) _)
      · rw [hself, hbase]
        exact hspaced
    · refine ⟨hpool, ?_, ?_, ?_, ?_⟩ <;> rw [pool_modifyPool_of_ne hij] <;> assumption
  · exact h.apart

/-- The next range of the `i`th pool: it ends in the pool and, but for the last
pool, before the next pool, and the padding behind it is no less than in front. -/
structure Placed (i size : Nat) (p : GPUMemoryPool) : Prop where
  within : roundUp256 p.offset + size ≤ p.poolSize
  spaced : i = 5 ∨ roundUp256 p.offset + size ≤ 0x10000000
  padded : roundUp256 p.offset + size ≤ roundUp256 (p.offset + size)

instance (i size : Nat) (p : GPUMemoryPool) : Decidable (Placed i size p) :=
  decidable_of_iff (roundUp256 p.offset + size ≤ p.poolSize ∧
    (i = 5 ∨ roundUp256 p.offset + size ≤ 0x10000000) ∧
    roundUp256 p.offset + size ≤ roundUp256 (p.offset + size))
    ⟨fun ⟨hw, hs, hp⟩ => ⟨hw, hs, hp⟩, fun ⟨hw, hs, hp⟩ => ⟨hw, hs, hp⟩⟩

theorem le_roundUp256 (n : Nat) : n ≤ roundUp256 n := by
  unfold roundUp256
  omega

theorem Kept.address (h : m.Kept ranges) (hi : i < 6) :
    (m.pool i).address = (m.pool i).baseAddress + roundUp256 (m.pool i).allocatedSize := by
  have hb := h.base i hi
  exact (h.balanced i hi).address (k := 0x400000 + i * 0x100000) (by omega) (by omega)

/-- The next range is apart from all others. -/
theorem Kept.apart_next (h : m.Kept ranges) (hi : i < 6)
    (hs : i = 5 ∨ roundUp256 (m.pool i).allocatedSize + size ≤ 0x10000000) :
    ∀ r ∈ ranges, GPURange.Apart ⟨i, (m.pool i).address, size⟩ r := by
  intro r hr
  obtain ⟨hpool, habove, -, hend, hspaced⟩ := h.contains r hr
  have hbase := h.base i hi
  have hbase' := h.base r.pool hpool
  unfold GPURange.Apart
  rw [h.address hi]
  dsimp only
  rcases Nat.lt_trichotomy r.pool i with hlt | heq | hgt
  · right
    have := hspaced.resolve_left (by omega)
    omega
  · right
    rw [← heq]
    exact hend
  · left
    have := hs.resolve_left (by omega)
    omega

/-- A transfer is made. -/
theorem Kept.charge (h : m.Kept ranges) (hi : i < 6) (hp : Placed i size (m.pool i)) :
    (m.modifyPool i (GPUMemoryPool.charge size)).Kept
      (⟨i, (m.pool i).address, size⟩ :: ranges) := by
  have hbalanced := h.balanced i hi
  obtain ⟨hwithin, hspaced, hpadded⟩ := hp
  rw [hbalanced.offset] at hwithin hspaced hpadded
  have hle := le_roundUp256 (m.pool i).allocatedSize
  have hroom : (m.pool i).allocatedSize + size ≤ (m.pool i).poolSize := by omega
  obtain ⟨hcharged, hsum⟩ := hbalanced.charge hroom
  have hself : (m.modifyPool i (GPUMemoryPool.charge size)).pool i = (m.pool i).charge size :=
    pool_modifyPool_self (by rw [h.length]; exact hi)
  have hkept : (m.modifyPool i (GPUMemoryPool.charge size)).Kept ranges :=
    h.modifyPool hi rfl hcharged (Nat.le_refl _) (by rw [hsum]; exact Nat.le_add_right ..)
  refine ⟨hkept.length, hkept.base, hkept.balanced, ?_, List.pairwise_cons.mpr
    ⟨h.apart_next hi hspaced, h.apart⟩⟩
  intro r hr
  rcases List.mem_cons.mp hr with rfl | hr
  · rw [h.address hi]
    constructor <;> dsimp only
    · exact hi
    · rw [hself]
      exact Nat.le_add_right ..
    · rw [hself]
      show _ ≤ (m.pool i).baseAddress + (m.pool i).poolSize
      omega
    · rw [hself, hsum]
      show _ ≤ (m.pool i).baseAddress + _
      omega
    · rw [hself]
      exact hspaced.imp_right fun hs => by
        show _ ≤ (m.pool i).baseAddress + _
        omega
  · exact hkept.contains r hr

/-! ### The functions on pools -/

/-- An expansion moves nothing. -/
theorem Kept.expandGPUMemoryPool (h : m.Kept ranges) (required : Nat) :
    (m.expandGPUMemoryPool i required).2.Kept ranges := by
  unfold GPUMemory.expandGPUMemoryPool
  split
  · exact h
  rename_i hi
  rw [h.length, ge_iff_le, Nat.not_le] at hi
  split
  · exact h
  · rename_i bytes hbytes
    obtain ⟨hbalanced, hsize⟩ := (h.balanced i hi).expand hbytes
    exact h.modifyPool hi rfl hbalanced hsize (Nat.le_refl _)

theorem selectFrom_lt {transferSize bufferId n : Nat} {ps : List GPUMemoryPool}
    {best : Nat × Nat} (hbest : best.1 < n) (hn : i + ps.length ≤ n) :
    selectFrom transferSize bufferId ps i best < n := by
  induction ps generalizing i best with
  | nil => exact hbest
  | cons p ps ih =>
      rw [List.length_cons] at hn
      unfold selectFrom
      split
      · exact ih hbest (by omega)
      split
      · exact ih (by dsimp only; omega) (by omega)
      · exact ih hbest (by omega)

/-- The pool a transfer goes to. -/
theorem Kept.target {bufferId : Nat} {m' : GPUMemory} (h : m.Kept ranges)
    (ht : m.target bufferId size = some (i, m')) : i < 6 ∧ m'.Kept ranges := by
  have hselected : m.selectOptimalGPUMemoryPool size bufferId < 6 :=
    selectFrom_lt (by decide) (by simp [h.length])
  unfold GPUMemory.target at ht
  dsimp only at ht
  split at ht
  · have hexpanded := h.expandGPUMemoryPool (i := m.selectOptimalGPUMemoryPool size bufferId) size
    split at ht
    · rename_i m₁ hm₁
      rw [hm₁] at hexpanded
      cases ht
      exact ⟨hselected, hexpanded⟩
    · rename_i m₁ _ hm₁
      rw [hm₁] at hexpanded
      obtain ⟨j, hj, heq⟩ := Option.map_eq_some_iff.mp ht
      cases heq
      refine ⟨?_, hexpanded⟩
      have hlt := (List.findIdx?_eq_some_iff_findIdx_eq.mp hj).1
      rw [hexpanded.length] at hlt
      exact hlt
  · cases ht
    exact ⟨hselected, h⟩

end GPUMemory

/-! ## Runs -/

/-- What happens to the pools. `expandGPUMemoryPool` may also be called alone. -/
inductive PoolEvent where
  | synchronize (e : SyncEnv) (bufferId size : Nat)
  | expandGPUMemoryPool (i required : Nat)

/-- The pools with the ranges handed out and not given back; `intact` says that
no synchronization that failed has changed the accounts. -/
structure MemoryRun where
  memory : GPUMemory
  ranges : List GPURange
  intact : Bool

namespace MemoryRun

def start : MemoryRun := ⟨.start, [], true⟩

/-- A synchronization that succeeds keeps its range. -/
def handedOut (r : MemoryRun) (bufferId size : Nat) (ret : IOReturn) : List GPURange :=
  match r.memory.initialized.target bufferId size with
  | some (i, m) =>
      if ret = .success then ⟨i, (m.pool i).address, size⟩ :: r.ranges else r.ranges
  | none => r.ranges

/-- Sizes are `uint32_t`s, and `updateBuffer` refuses 0. -/
def step (r : MemoryRun) : PoolEvent → Option MemoryRun
  | .synchronize e bufferId size =>
      if 0 < size ∧ size < u32 then
        let s := r.memory.synchronize e bufferId size
        some ⟨s.2, r.handedOut bufferId size s.1,
          r.intact && (s.1 = .success || s.2 = r.memory.initialized)⟩
      else none
  | .expandGPUMemoryPool i required =>
      if required < u32 then
        some { r with memory := (r.memory.expandGPUMemoryPool i required).2 }
      else none

def machine : Machine MemoryRun PoolEvent where
  init := start
  step := step

/-- The accounts are right, failures have left no trace, and the ranges lie in
their pools and apart. -/
structure Sound (r : MemoryRun) : Prop where
  accounts : ∀ p ∈ r.memory.pools, p.allocatedSize + p.availableSize = p.poolSize ∧
    p.allocatedSize ≤ p.poolSize ∧ p.availableSize ≤ p.poolSize
  intact : r.intact = true
  within : ∀ x ∈ r.ranges, (r.memory.pool x.pool).baseAddress ≤ x.address ∧
    x.address + x.size ≤
      (r.memory.pool x.pool).baseAddress + (r.memory.pool x.pool).poolSize
  apart : r.ranges.Pairwise GPURange.Apart

/-- A synchronization that gets an address goes through, at a place where the next
range belongs; one that gets none has not expanded a pool. -/
def KeepsPools (r : MemoryRun) : PoolEvent → Prop
  | .synchronize e bufferId size =>
      ∀ t ∈ r.memory.initialized.target bufferId size,
        if e.memory = true ∧ align256 size ≤ (t.2.pool t.1).availableSize then
          e.mapGuestMemory = .success ∧ e.executeCommands = .success ∧
            GPUMemory.Placed t.1 size (t.2.pool t.1)
        else t.2 = r.memory.initialized
  | .expandGPUMemoryPool .. => True

instance (r : MemoryRun) : ∀ e, Decidable (r.KeepsPools e)
  | .synchronize e bufferId size =>
      inferInstanceAs (Decidable (∀ t ∈ r.memory.initialized.target bufferId size,
        if e.memory = true ∧ align256 size ≤ (t.2.pool t.1).availableSize then
          e.mapGuestMemory = .success ∧ e.executeCommands = .success ∧
            GPUMemory.Placed t.1 size (t.2.pool t.1)
        else t.2 = r.memory.initialized))
  | .expandGPUMemoryPool .. => isTrue trivial

/-- Before the first synchronization there are no pools. -/
def Kept (r : MemoryRun) : Prop :=
  r.memory.initialized.Kept r.ranges ∧ (r.memory.pools = [] → r.ranges = []) ∧ r.intact = true

theorem kept_start : start.Kept :=
  ⟨GPUMemory.kept_initial, fun _ => rfl, rfl⟩

variable {r r' : MemoryRun} {i size bufferId : Nat}

/-- A state with pools is kept as it stands. -/
theorem Kept.of_memory {m : GPUMemory} {ranges : List GPURange} {intact : Bool}
    (h : m.Kept ranges) (hi : intact = true) : Kept ⟨m, ranges, intact⟩ := by
  have hne : m.pools ≠ [] := by
    intro hnil
    have hlen := h.length
    rw [hnil] at hlen
    cases hlen
  refine ⟨?_, fun hnil => absurd hnil hne, hi⟩
  rw [GPUMemory.initialized_of_ne hne]
  exact h

theorem allocate_eq_zero_iff {m : GPUMemory} {ranges : List GPURange} (h : m.Kept ranges)
    (hi : i < 6) :
    m.allocateGPUMemoryInPool i size = 0 ↔ ¬ align256 size ≤ (m.pool i).availableSize := by
  unfold GPUMemory.allocateGPUMemoryInPool
  rw [h.length, if_neg (Nat.not_le.mpr hi), Nat.not_le]
  split
  · rename_i hlt
    exact ⟨fun _ => hlt, fun _ => rfl⟩
  · rename_i hle
    rw [h.address hi, h.base i hi]
    exact ⟨fun h0 => (by omega), fun hlt => absurd hlt hle⟩

/-- A transfer that gets no memory or no address stops there. -/
theorem synchronize_refused {e : SyncEnv} {m m' : GPUMemory} {ranges : List GPURange}
    (ht : m.initialized.target bufferId size = some (i, m')) (hm : m'.Kept ranges) (hi : i < 6)
    (h : ¬ (e.memory = true ∧ align256 size ≤ (m'.pool i).availableSize)) :
    m.synchronize e bufferId size = (.noMemory, m') := by
  unfold GPUMemory.synchronize
  rw [ht]
  dsimp only
  by_cases hmem : e.memory = false
  · rw [if_pos hmem]
  · have hle : ¬ align256 size ≤ (m'.pool i).availableSize :=
      fun hle => h ⟨Bool.not_eq_false _ ▸ hmem, hle⟩
    rw [if_neg hmem, if_pos ((allocate_eq_zero_iff hm hi).mpr hle)]

theorem synchronize_granted {e : SyncEnv} {m m' : GPUMemory} {ranges : List GPURange}
    (ht : m.initialized.target bufferId size = some (i, m')) (hm : m'.Kept ranges) (hi : i < 6)
    (h : e.memory = true ∧ align256 size ≤ (m'.pool i).availableSize)
    (hmap : e.mapGuestMemory = .success) (hexec : e.executeCommands = .success) :
    m.synchronize e bufferId size = (.success, m'.modifyPool i (GPUMemoryPool.charge size)) := by
  have haddress : m'.allocateGPUMemoryInPool i size ≠ 0 := fun h0 =>
    (allocate_eq_zero_iff hm hi).mp h0 h.2
  unfold GPUMemory.synchronize
  rw [ht]
  dsimp only
  rw [if_neg (by rw [h.1]; decide), if_neg haddress, if_neg (not_not.mpr hmap),
    if_neg (not_not.mpr hexec)]

/-- **One synchronization.** -/
theorem Kept.synchronize {e : SyncEnv} (h : r.Kept)
    (hC : r.KeepsPools (.synchronize e bufferId size))
    (hs : r.step (.synchronize e bufferId size) = some r') : r'.Kept := by
  obtain ⟨hkept, -, hintact⟩ := h
  simp only [step] at hs
  split at hs
  swap
  · cases hs
  cases hs
  cases ht : r.memory.initialized.target bufferId size with
  | none =>
      have hret : r.memory.synchronize e bufferId size = (.noResources, r.memory.initialized) := by
        unfold GPUMemory.synchronize
        rw [ht]
      simp only [hret, handedOut, ht]
      exact Kept.of_memory hkept (by simp [hintact])
  | some t =>
      obtain ⟨i, m⟩ := t
      obtain ⟨hi, hm⟩ := hkept.target ht
      have hC := hC (i, m) ht
      dsimp only at hC
      by_cases hgets : e.memory = true ∧ align256 size ≤ (m.pool i).availableSize
      · -- an address is handed out
        rw [if_pos hgets] at hC
        obtain ⟨hmap, hexec, hplaced⟩ := hC
        simp only [synchronize_granted ht hm hi hgets hmap hexec, handedOut, ht, if_true]
        exact Kept.of_memory (hm.charge hi hplaced) (by simp [hintact])
      · rw [if_neg hgets] at hC
        simp only [synchronize_refused ht hm hi hgets, handedOut, ht, reduceCtorEq, if_false]
        exact Kept.of_memory hm (by simp [hintact, hC])

theorem Kept.step {e : PoolEvent} (h : r.Kept) (hC : r.KeepsPools e)
    (hs : r.step e = some r') : r'.Kept := by
  cases e with
  | synchronize e bufferId size => exact h.synchronize hC hs
  | expandGPUMemoryPool i required =>
      simp only [MemoryRun.step] at hs
      split at hs
      · cases hs
        by_cases hnil : r.memory.pools = []
        · -- there is nothing to expand
          unfold GPUMemory.expandGPUMemoryPool
          rw [hnil, if_pos (show i ≥ ([] : List GPUMemoryPool).length from Nat.zero_le i)]
          exact h
        · have hkept := h.1
          rw [GPUMemory.initialized_of_ne hnil] at hkept
          exact Kept.of_memory (hkept.expandGPUMemoryPool required) h.2.2
      · cases hs

theorem Kept.sound (h : r.Kept) : r.Sound := by
  obtain ⟨hkept, hempty, hintact⟩ := h
  by_cases hnil : r.memory.pools = []
  · have hranges := hempty hnil
    constructor
    · intro p hp
      rw [hnil] at hp
      cases hp
    · exact hintact
    · intro x hx
      rw [hranges] at hx
      cases hx
    · rw [hranges]
      exact List.Pairwise.nil
  · rw [GPUMemory.initialized_of_ne hnil] at hkept
    constructor
    · intro p hp
      obtain ⟨i, hi, rfl⟩ := List.mem_iff_getElem.mp hp
      have hpool : r.memory.pool i = r.memory.pools[i] := by
        unfold GPUMemory.pool
        rw [List.getD_eq_getElem?_getD, List.getElem?_eq_getElem hi]
        rfl
      have htotal := (hkept.balanced i (hkept.length ▸ hi)).total
      rw [hpool] at htotal
      omega
    · exact hintact
    · intro x hx
      have hx := hkept.contains x hx
      exact ⟨hx.above, hx.within⟩
    · exact hkept.apart

/-- **The pools are sound** in every run in which a synchronization that gets an
address goes through, at a place that suits. -/
theorem pools_sound (events : List PoolEvent) (hC : machine.Along KeepsPools start events) :
    machine.Always Sound start events :=
  (machine.always_of_along (fun _ _ _ h hc hs => h.step hc hs) kept_start hC).imp _
    fun _ h => h.sound

/-- Two transfers, one that gets no memory, and another one into a grown pool. -/
theorem pools_sound_three :
    machine.Always Sound start
      [.synchronize ⟨true, .success, .success⟩ 1 4096,
        .synchronize ⟨false, .success, .success⟩ 2 100,
        .expandGPUMemoryPool 0 4096, .synchronize ⟨true, .success, .success⟩ 2 300,
        .synchronize ⟨true, .success, .success⟩ 3 65536] :=
  pools_sound _ (by decide)

/-- A mapping that fails gives back what was never taken. -/
theorem pools_unsound :
    ¬ ∀ events : List PoolEvent, machine.Always Sound start events := by
  intro h
  have hrun := h [.synchronize ⟨true, .noMemory, .success⟩ 1 4096]
  obtain ⟨r, hr, hwrapped⟩ := hrun.of_any _ (p := fun r : MemoryRun =>
    decide (∃ p ∈ r.memory.pools, ¬ p.availableSize ≤ p.poolSize)) (by decide)
  obtain ⟨p, hp, hmore⟩ := of_decide_eq_true hwrapped
  exact hmore (hr.accounts p hp).2.2

end MemoryRun

end VMQemuVGA
