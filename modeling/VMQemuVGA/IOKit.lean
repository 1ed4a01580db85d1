import Mathlib.Algebra.GroupWithZero.Nat
import Mathlib.Tactic.Common

/-! # What the driver takes from the kernel

Return codes, counters of fixed width and memory descriptors, as far as the code under
verification looks at them. -/

namespace VMQemuVGA

/-- The return codes the modelled functions use. -/
inductive IOReturn where
  | success
  | error
  | badArgument
  | notFound
  | noMemory
  | noSpace
  | noResources
  | unsupported
  | unsupportedMode
  | notReady
  | notOpen
  | timeout
  | busy
  | exclusiveAccess
  | vmError
  deriving DecidableEq, Repr

/-! ## Counters of fixed width -/

/-- The values of a `uint32_t`. -/
abbrev u32 : Nat := 2 ^ 32

theorem u32_eq : u32 = 4294967296 := rfl

/-- `++counter` on a `uint32_t`. -/
def inc32 (n : Nat) : Nat := (n + 1) % u32

theorem inc32_lt (n : Nat) : inc32 n < u32 := Nat.mod_lt _ (by decide)

theorem inc32_ne (n : Nat) : inc32 n ≠ n := by
  unfold inc32
  rw [u32_eq]
  omega

theorem inc32_eq_succ {n : Nat} (h : n + 1 < u32) : inc32 n = n + 1 := Nat.mod_eq_of_lt h

/-- `--counter` on a `uint32_t`. -/
def dec32 (n : Nat) : Nat := if n = 0 then u32 - 1 else n - 1

theorem dec32_of_pos {n : Nat} (h : 0 < n) : dec32 n = n - 1 := if_neg (Nat.ne_of_gt h)

/-- The values of a `uint64_t`. -/
abbrev u64 : Nat := 2 ^ 64

theorem u64_eq : u64 = 18446744073709551616 := rfl

/-- `a - b` on `uint64_t`s. -/
def sub64 (a b : Nat) : Nat := (a + (u64 - b % u64)) % u64

theorem sub64_of_le {m n : Nat} (h : n ≤ m) (hm : m < u64) : sub64 m n = m - n := by
  unfold sub64
  rw [Nat.mod_eq_of_lt (Nat.lt_of_le_of_lt h hm)]
  rw [show m + (u64 - n) = (m - n) + u64 by omega, Nat.add_mod_right]
  exact Nat.mod_eq_of_lt (by omega)

/-! ## Memory descriptors -/

/-- One entry of a scatter list: a physical segment. -/
@[ext]
structure MemEntry where
  addr : Nat
  length : Nat
  deriving DecidableEq, Repr

/-- An `IOMemoryDescriptor` as the driver sees it: its length, what `prepare`
returns, and the physical segments a walk with `getPhysicalSegment` meets. -/
structure MemoryDescriptor where
  length : Nat
  prepareRet : IOReturn
  segments : List MemEntry
  deriving DecidableEq, Repr

/-- `total_length` after the segment walk. -/
def MemoryDescriptor.walked (d : MemoryDescriptor) : Nat :=
  (d.segments.map MemEntry.length).sum

/-- The segments as a command carries them: lengths are `uint32_t` there. -/
def MemoryDescriptor.wireEntries (d : MemoryDescriptor) : List MemEntry :=
  d.segments.map fun s => { s with length := s.length % u32 }

/-- The command says the same as the segments if none is of 4 GiB or more. -/
theorem MemoryDescriptor.wireEntries_eq_iff {d : MemoryDescriptor} :
    d.wireEntries = d.segments ↔ ∀ s ∈ d.segments, s.length < u32 := by
  unfold wireEntries
  conv_lhs => rhs; rw [← List.map_id d.segments]
  rw [List.map_inj_left]
  refine forall₂_congr fun s _ => ?_
  rw [MemEntry.ext_iff]
  refine ⟨fun h => ?_, fun h => ⟨rfl, Nat.mod_eq_of_lt h⟩⟩
  have hmod : s.length % u32 = s.length := h.2
  rw [← hmod]
  exact Nat.mod_lt _ (by decide)

/-- `getPhysicalSegment(0, &length)`, when it yields a usable segment. -/
def MemoryDescriptor.firstSegment (d : MemoryDescriptor) : Option MemEntry :=
  d.segments.head?.filter fun s => decide (s.addr ≠ 0) && decide (s.length ≠ 0)

/-- The places where a modelled call allocates with `IOMalloc`, `new` or
`withCapacity` something whose contents the model does not follow. -/
inductive AllocSite where
  | gpuResource
  | attachCommand
  | mapCommands
  | submitCommand
  | inlineWrite
  | commandBytes
  deriving DecidableEq, Repr

end VMQemuVGA
