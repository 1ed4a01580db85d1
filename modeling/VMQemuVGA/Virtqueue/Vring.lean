import Mathlib.Logic.Function.Basic
import VMQemuVGA.IOKit

/-! # A split virtqueue

Descriptor table, available ring and used ring, as driver and device share
them, and what the device does on its own: it takes published chains in ring
order, and completes the chains it has taken whenever it likes.

Ring indices are `uint16_t` and wrap around; a ring of `size` entries is
accessed at the index modulo `size`. -/

namespace VMQemuVGA

/-- `++index` on a `uint16_t`. -/
def inc16 (n : Nat) : Nat := (n + 1) % 2 ^ 16

theorem inc16_ne (n : Nat) : inc16 n ≠ n := by
  have h : inc16 n = (n + 1) % 65536 := rfl
  omega

/-! ## Memory -/

/-- What a descriptor points at. -/
inductive Buffer where
  /-- the queue's own command buffer -/
  | command
  /-- a buffer allocated for one large command -/
  | temp (n : Nat)
  /-- the queue's response buffer -/
  | response
  deriving DecidableEq, Repr

/-- `VRingDesc`; `next` stands for the flag `VRING_DESC_F_NEXT` and the index,
`deviceWrites` for `VRING_DESC_F_WRITE`. -/
structure Desc where
  buffer : Buffer
  len : Nat
  next : Option Nat
  deviceWrites : Bool
  deriving DecidableEq, Repr

/-- An entry of one of the rings: the head of a chain. `call` is not in memory:
it says which call the chain was published by. -/
structure RingEntry where
  head : Nat
  call : Option Nat
  deriving DecidableEq, Repr

def RingEntry.zero : RingEntry := { head := 0, call := none }

/-! ## The queue -/

structure Vring where
  size : Nat
  desc : Nat → Desc
  availRing : Nat → RingEntry
  availIdx : Nat
  usedRing : Nat → RingEntry
  usedIdx : Nat
  /-- the available index up to which the device has taken chains -/
  seen : Nat
  /-- the chains taken and not completed, oldest first -/
  inFlight : List RingEntry

namespace Vring

/-- Zeroed memory, and a device that has seen nothing. -/
def init (size : Nat) : Vring where
  size := size
  desc := fun _ => ⟨.command, 0, none, false⟩
  availRing := fun _ => .zero
  availIdx := 0
  usedRing := fun _ => .zero
  usedIdx := 0
  seen := 0
  inFlight := []

/-! ### The driver's side -/

def setDesc (v : Vring) (i : Nat) (d : Desc) : Vring :=
  { v with desc := Function.update v.desc i d }

/-- Put a chain on the available ring. -/
def publish (v : Vring) (x : RingEntry) : Vring :=
  { v with
    availRing := Function.update v.availRing (v.availIdx % v.size) x
    availIdx := inc16 v.availIdx }

/-- The used-ring entry at a driver's index. -/
def usedAt (v : Vring) (lastUsed : Nat) : RingEntry := v.usedRing (lastUsed % v.size)

/-! ### The device's side -/

/-- Take the next chain, if the available index shows one. -/
def take (v : Vring) : Option (RingEntry × Vring) :=
  if v.seen = v.availIdx then none else
  let x := v.availRing (v.seen % v.size)
  some (x, { v with seen := inc16 v.seen, inFlight := v.inFlight ++ [x] })

/-- Put the `i`-th of the chains in flight on the used ring. -/
def complete (v : Vring) (i : Nat) : Option (RingEntry × Vring) :=
  v.inFlight[i]?.map fun x =>
    (x, { v with
      usedRing := Function.update v.usedRing (v.usedIdx % v.size) x
      usedIdx := inc16 v.usedIdx
      inFlight := v.inFlight.eraseIdx i })

theorem take_eq_some {v v' : Vring} {x : RingEntry} (h : v.take = some (x, v')) :
    v.seen ≠ v.availIdx ∧ x = v.availRing (v.seen % v.size) ∧
      v' = { v with seen := inc16 v.seen, inFlight := v.inFlight ++ [x] } := by
  unfold take at h
  split at h
  · cases h
  · next hne =>
    obtain ⟨rfl, rfl⟩ := Prod.mk.injEq .. ▸ Option.some.inj h
    exact ⟨hne, rfl, rfl⟩

theorem complete_eq_some {v v' : Vring} {i : Nat} {x : RingEntry}
    (h : v.complete i = some (x, v')) : v.inFlight[i]? = some x ∧
      v' = { v with
        usedRing := Function.update v.usedRing (v.usedIdx % v.size) x
        usedIdx := inc16 v.usedIdx
        inFlight := v.inFlight.eraseIdx i } := by
  obtain ⟨y, hy, heq⟩ := Option.map_eq_some_iff.mp h
  obtain ⟨rfl, rfl⟩ := Prod.mk.injEq .. ▸ heq
  exact ⟨hy, rfl⟩

end Vring

/-! ## Calls -/

/-- The arguments of a call: the command's bytes, and the size of the response
buffer if the caller passes one. -/
structure Submission where
  bytes : List UInt8
  respSize : Option Nat
  deriving DecidableEq, Repr

/-- Whether a response is copied to the caller. -/
def Submission.wantsResponse (sub : Submission) : Bool := sub.respSize.any fun n => decide (0 < n)

/-- A return of a call that got past the checks of its arguments. `consumed` is
the used-ring element it took the response for, if it copied one out. -/
structure Return where
  call : Nat
  ret : IOReturn
  consumed : Option RingEntry
  deriving DecidableEq, Repr

end VMQemuVGA
