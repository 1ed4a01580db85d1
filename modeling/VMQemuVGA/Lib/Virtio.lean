import Mathlib.Data.Nat.Bitwise
import Mathlib.Logic.Function.Basic
import VMQemuVGA.Lib.RegProg

/-! # The common configuration of a virtio device

The registers a driver brings a device up through, what is in them, and the order in which
they may be written: reset, acknowledge, negotiate the features, set up the queues, go.

What is kept of the registers is what driver and device have told each other since the last
reset, so that it holds for a device that answers anything at all. -/

/-- The three areas of a split virtqueue. -/
inductive RingArea where
  | desc
  | avail
  | used
  deriving DecidableEq, Repr

inductive VirtioReg where
  | dfSelect
  | df
  | tfSelect
  | tf
  | deviceStatus
  | qSelect
  | qSize
  | qEnable
  | qNotifyOff
  /-- half of the address of an area -/
  | qAddr (area : RingArea) (high : Bool)
  deriving DecidableEq, Repr

/-- The bits of the device status. -/
inductive StatusBit where
  | acknowledge
  | driver
  | driverOk
  | featuresOk
  deriving DecidableEq, Repr

namespace StatusBit

def index : StatusBit → Nat
  | acknowledge => 0
  | driver => 1
  | driverOk => 2
  | featuresOk => 3

/-- The status with this bit only. -/
def mask (b : StatusBit) : Nat := 2 ^ b.index

def isIn (b : StatusBit) (status : Nat) : Bool := status.testBit b.index

@[simp] theorem isIn_or (b : StatusBit) (m n : Nat) : b.isIn (m ||| n) = (b.isIn m || b.isIn n) :=
  Nat.testBit_or ..

@[simp] theorem isIn_mask (b b' : StatusBit) : b.isIn b'.mask = (b == b') := by
  cases b <;> cases b' <;> rfl

theorem or_mask_lt {s : Nat} (b : StatusBit) (h : s < 2 ^ 8) : s ||| b.mask < 2 ^ 8 := by
  have hb : b.mask < 2 ^ 8 := by cases b <;> decide
  exact Nat.or_lt_two_pow h hb

theorem or_mask_ne_zero (s : Nat) (b : StatusBit) : s ||| b.mask ≠ 0 := by
  intro h
  have hb := congrArg b.isIn h
  rw [isIn_or, isIn_mask, beq_self_eq_true, Bool.or_true] at hb
  cases b <;> cases hb

end StatusBit

/-- Nothing in `m` is missing in `n`. -/
def BitsKept (m n : Nat) : Prop := m &&& n = m

instance (m n : Nat) : Decidable (BitsKept m n) := inferInstanceAs (Decidable (_ = _))

theorem bitsKept_or (m n : Nat) : BitsKept m (m ||| n) := by
  apply Nat.eq_of_testBit_eq
  intro i
  simp only [Nat.testBit_and, Nat.testBit_or]
  cases m.testBit i <;> simp

/-! ## One queue -/

structure VirtioQueue where
  /-- the size the device has answered last -/
  offered : Option Nat
  size : Option Nat
  addr : RingArea → Bool → Option Nat
  enabled : Bool

namespace VirtioQueue

def reset : VirtioQueue where
  offered := none
  size := none
  addr := fun _ _ => none
  enabled := false

/-- Write half of the address of an area. -/
def setAddr (q : VirtioQueue) (a : RingArea) (high : Bool) (v : Nat) : VirtioQueue :=
  { q with addr := Function.update q.addr a (Function.update (q.addr a) high (some v)) }

/-- An address, if both halves of it are written. -/
def area (q : VirtioQueue) (a : RingArea) : Option Nat :=
  (q.addr a false).bind fun low => (q.addr a true).map fun high => low + 2 ^ 32 * high

/-- How many bytes an area of a queue of `n` entries takes, with the event fields. -/
def areaSize (n : Nat) : RingArea → Nat
  | .desc => 16 * n
  | .avail => 6 + 2 * n
  | .used => 6 + 8 * n

def areaAlign : RingArea → Nat
  | .desc => 16
  | .avail => 2
  | .used => 4

/-- The queue has a size and three areas, each aligned, that do not meet. -/
structure Placed (q : VirtioQueue) (n : Nat) (start : RingArea → Nat) : Prop where
  size : q.size = some n
  area : ∀ a, q.area a = some (start a)
  aligned : ∀ a, areaAlign a ∣ start a
  apart : ∀ a b, a ≠ b →
    start a + areaSize n a ≤ start b ∨ start b + areaSize n b ≤ start a

end VirtioQueue

/-! ## The device -/

structure VirtioConfig where
  /-- the status that was written or answered last -/
  status : Nat
  /-- DRIVER, FEATURES_OK and DRIVER_OK have been written -/
  started : Bool
  proposed : Bool
  live : Bool
  /-- the device has answered with FEATURES_OK after that was written -/
  confirmed : Bool
  dfSelect : Option Nat
  tfSelect : Option Nat
  /-- the words of features the device has answered -/
  offered : Nat → Option Nat
  /-- the words of features the driver has written -/
  accepted : Nat → Option Nat
  qSelect : Option Nat
  queue : Nat → VirtioQueue

namespace VirtioConfig

def reset : VirtioConfig where
  status := 0
  started := false
  proposed := false
  live := false
  confirmed := false
  dfSelect := none
  tfSelect := none
  offered := fun _ => none
  accepted := fun _ => none
  qSelect := none
  queue := fun _ => .reset

/-- Change the queue that is selected. -/
def onQueue (c : VirtioConfig) (f : VirtioQueue → VirtioQueue) : VirtioConfig :=
  match c.qSelect with
  | none => c
  | some q => { c with queue := Function.update c.queue q (f (c.queue q)) }

def writeStatus (c : VirtioConfig) (v : Nat) : VirtioConfig :=
  if v = 0 then reset
  else
    { c with
      status := v
      started := c.started || StatusBit.driver.isIn v
      proposed := c.proposed || StatusBit.featuresOk.isIn v
      live := c.live || (StatusBit.driverOk.isIn v && !StatusBit.driverOk.isIn c.status) }

def next (c : VirtioConfig) : RegAccess VirtioReg → VirtioConfig
  | .write .dfSelect v => { c with dfSelect := some v }
  | .write .tfSelect v => { c with tfSelect := some v }
  | .write .tf v =>
      match c.tfSelect with
      | none => c
      | some w => { c with accepted := Function.update c.accepted w (some v) }
  | .write .deviceStatus v => c.writeStatus v
  | .write .qSelect v => { c with qSelect := some v }
  | .write .qSize v => c.onQueue fun q => { q with size := some v }
  | .write (.qAddr a high) v => c.onQueue fun q => q.setAddr a high v
  | .write .qEnable v => c.onQueue fun q => { q with enabled := v == 1 }
  | .read .df v =>
      match c.dfSelect with
      | none => c
      | some w => { c with offered := Function.update c.offered w (some v) }
  | .read .deviceStatus v =>
      { c with
        status := v
        confirmed := c.confirmed || (c.proposed && StatusBit.featuresOk.isIn v) }
  | .read .qSize v => c.onQueue fun q => { q with offered := some v }
  | _ => c

def width : VirtioReg → Nat
  | .dfSelect | .df | .tfSelect | .tf | .qAddr _ _ => 32
  | .deviceStatus => 8
  | .qSelect | .qSize | .qEnable | .qNotifyOff => 16

def file : RegFile VirtioConfig VirtioReg where
  width := width
  next := next

@[simp] theorem width_file : file.width = width := rfl

@[simp] theorem next_file : file.next = next := rfl

/-- A queue is being set up: the features are settled, the device does not run yet, and the
queue `q` is selected and not enabled. -/
structure Configuring (c : VirtioConfig) (q : Nat) : Prop where
  confirmed : c.confirmed = true
  live : c.live = false
  selected : c.qSelect = some q
  disabled : (c.queue q).enabled = false

/-- What the order of bringing a device up permits. -/
def Allowed (c : VirtioConfig) : RegAccess VirtioReg → Prop
  | .read _ _ => True
  | .write .dfSelect _ => True
  | .write .tfSelect _ => True
  | .write .tf v => c.started = true ∧ c.proposed = false ∧
      ∃ w o, c.tfSelect = some w ∧ c.offered w = some o ∧ BitsKept v o
  | .write .deviceStatus v => v = 0 ∨
      (BitsKept c.status v ∧
        (StatusBit.driver.isIn v = true → StatusBit.driver.isIn c.status = true ∨
          StatusBit.acknowledge.isIn c.status = true) ∧
        (StatusBit.featuresOk.isIn v = true → c.started = true) ∧
        (StatusBit.driverOk.isIn v = true → StatusBit.driverOk.isIn c.status = true ∨
          c.confirmed = true))
  | .write .qSelect _ => c.confirmed = true ∧ c.live = false
  | .write .qSize v => ∃ q o, c.Configuring q ∧ (c.queue q).offered = some o ∧ v ≤ o ∧
      ∃ k, v = 2 ^ k
  | .write (.qAddr _ _) _ => ∃ q, c.Configuring q ∧ (c.queue q).size.isSome = true
  | .write .qEnable v => v = 1 ∧ ∃ q n start, c.Configuring q ∧ (c.queue q).Placed n start
  | .write .df _ => False
  | .write .qNotifyOff _ => False

/-- The accesses bring a device up in the right order. -/
def Obeys (c : VirtioConfig) (tr : List (RegAccess VirtioReg)) : Prop := file.Obeys Allowed c tr

/-! ## Setting a bit of the status -/

variable {c : VirtioConfig} {b : StatusBit} {s : Nat}

/-- A bit is set beside those that the device shows. -/
theorem allowed_setBit (hstatus : c.status = s) (hs : s < 2 ^ 8) (hb : b ≠ .driver)
    (hstarted : c.started = true) (hgo : b = .driverOk → c.confirmed = true) :
    c.Allowed (.write .deviceStatus ((s ||| b.mask) % 2 ^ 8)) := by
  rw [Nat.mod_eq_of_lt (StatusBit.or_mask_lt b hs)]
  refine .inr ⟨hstatus ▸ bitsKept_or _ _, fun h => ?_, fun _ => hstarted, fun h => ?_⟩
  · rw [StatusBit.isIn_or, StatusBit.isIn_mask, Bool.or_eq_true, beq_iff_eq] at h
    exact .inl (hstatus ▸ h.resolve_right hb.symm)
  · rw [StatusBit.isIn_or, StatusBit.isIn_mask, Bool.or_eq_true, beq_iff_eq] at h
    exact h.imp (fun h => hstatus ▸ h) fun h => hgo h.symm

theorem next_setBit (hstatus : c.status = s) (hs : s < 2 ^ 8) :
    c.next (.write .deviceStatus ((s ||| b.mask) % 2 ^ 8)) =
      { c with
        status := s ||| b.mask
        started := c.started || (StatusBit.driver.isIn s || .driver == b)
        proposed := c.proposed || (StatusBit.featuresOk.isIn s || .featuresOk == b)
        live := c.live || ((StatusBit.driverOk.isIn s || .driverOk == b) &&
          !StatusBit.driverOk.isIn s) } := by
  rw [Nat.mod_eq_of_lt (StatusBit.or_mask_lt b hs)]
  show c.writeStatus (s ||| b.mask) = _
  rw [writeStatus, if_neg (StatusBit.or_mask_ne_zero _ _), hstatus]
  simp only [StatusBit.isIn_or, StatusBit.isIn_mask]

end VirtioConfig
