import VMQemuVGA.IOKit
import VMQemuVGA.Pci.Bars

/-! # Doorbells

To tell the device of a command the driver writes to an address made of a mapping, an
offset in it, the queue's own offset and a multiplier. `setupControlVirtQueue` sets these
from the notify capability; `setupGPUMemoryRegions` sets the mapping and the offset again,
in one of several ways, and each way has its own idea of what the offset is in. -/

namespace VMQemuVGA

/-! ## State -/

/-- A mapping that doorbells are written through, with the address it maps. -/
structure NotifyMap where
  phys : Nat
  length : Nat
  virt : Nat
  deriving DecidableEq, Repr

/-- What a doorbell is made of. -/
structure Notify where
  /-- `m_notify_map`. -/
  map : Option NotifyMap
  /-- The mapping whose virtual address `m_notify_base` is. -/
  base : Option NotifyMap
  capOffset : UInt32
  multiplier : UInt32
  /-- `m_notify_offset`, of the control queue. -/
  controlOffset : UInt32
  cursorOffset : UInt32
  deriving DecidableEq, Repr

/-- A write of four bytes. -/
structure Doorbell where
  through : NotifyMap
  offset : Nat
  value : UInt32
  deriving DecidableEq, Repr

/-- What else decides about a submission: the error it is turned away with before it
gets to the doorbell, and what the used ring is found to hold afterwards. -/
structure Poll where
  rejected : Option { r : IOReturn // r ≠ .success }
  answered : Bool

namespace PciDevice

def notifyMapAt (d : PciDevice) (i : Nat) : Option NotifyMap :=
  d.regions[i]?.bind fun r => r.mapping.map fun m => ⟨r.phys, m.length, m.virt⟩

/-- What `mapBarByNumber` gives, with the address that is mapped; its cache makes no
difference. -/
def barMap (d : PciDevice) (bar : UInt8) : Option (Nat × NotifyMap) :=
  (d.resolveBar bar).bind fun x => (d.notifyMapAt x.1).map fun m => (x.1, m)

/-- The size check and the check of the virtual address of `setupGPUMemoryRegions`. -/
def Usable (m : NotifyMap) (offset : UInt32) : Prop :=
  m.length ≥ (offset + 4).toNat ∧ m.virt ≠ 0

instance (m : NotifyMap) (offset : UInt32) : Decidable (Usable m offset) :=
  inferInstanceAs (Decidable (_ ∧ _))

/-- The direct mapping of the page of the doorbells. `direct` is what mapping some bytes
of physical memory gives. -/
def directMap (d : PciDevice) (direct : Nat → Nat → Option Nat) (i : Nat) (offset : UInt32) :
    Option (NotifyMap × UInt32) :=
  match d.regions[i]? with
  | none => none
  | some r =>
      if r.phys = 0 then none
      else if r.phys < 0x1000 ∨ r.phys > 0xFFFFFFFFFFFF then none
      else if r.length > 0 ∧ (offset + 0x1000).toNat > r.length then none
      else if offset > 0x100000 then none
      else
        let targetPhys := r.phys + offset.toNat
        let pageBase := targetPhys / 4096 * 4096
        let pageOffset := targetPhys - pageBase
        let mapLen := pageOffset + 4
        if pageBase < r.phys ∨ pageBase + mapLen > r.phys + r.length then none
        else
          match direct pageBase mapLen with
          | none => none
          | some virt =>
              if virt ≠ 0 then some (⟨pageBase, mapLen, virt⟩, UInt32.ofNat pageOffset) else none

end PciDevice

namespace Notify

/-- `setupControlVirtQueue`, behind its mapping of the common config: what
`readNotifyConfig` found, and the offsets of the two queues. -/
def setupControlVirtQueue (s : Notify) (d : PciDevice) (found : Option (UInt8 × UInt32 × UInt32))
    (controlOffset cursorOffset : UInt16) : Notify :=
  let s₁ :=
    match found with
    | none => s
    | some (bar, offset, multiplier) =>
        let map := s.map.or (d.notifyMapAt bar.toNat)
        { s with
          map := map
          base := match map with
            | some m => if m.virt ≠ 0 then some m else none
            | none => s.base
          capOffset := offset
          multiplier := multiplier }
  { s₁ with controlOffset := controlOffset.toUInt32, cursorOffset := cursorOffset.toUInt32 }

/-- `setupGPUMemoryRegions`, up to where the notification region is set up. -/
def setupGPUMemoryRegions (s : Notify) (d : PciDevice) (direct : Nat → Nat → Option Nat)
    (found : Option Capability) : Bool × Notify :=
  let s₁ := { s with base := none }
  let (bar, offset) :=
    match found with
    | some cap => (cap.bar, cap.offset)
    | none => (0, 0x10)
  match d.barMap bar with
  | none => (false, { s₁ with map := none })
  | some (i, m) =>
      if PciDevice.Usable m offset then (true, { s₁ with map := some m, capOffset := offset })
      else
        match d.directMap direct i offset with
        | some (map, pageOffset) => (true, { s₁ with map := some map, capOffset := pageOffset })
        | none =>
            -- the region of index 0, with the offset of legacy devices
            match d.notifyMapAt 0 with
            | none => (false, { s₁ with map := none })
            | some map => (true, { s₁ with map := some map, capOffset := 0x10 })

/-- The mapping of a doorbell: that of `m_notify_base` where there is a multiplier, else
`m_notify_map`. -/
def through (s : Notify) : Option NotifyMap :=
  if s.multiplier > 0 then s.base.or s.map else s.map

/-- The doorbell of a queue. The product has 32 bits, the sum is one of pointers. -/
def doorbell (s : Notify) (queueOffset value : UInt32) : Option Doorbell :=
  s.through.map fun m =>
    ⟨m, s.capOffset.toNat + (queueOffset * s.multiplier).toNat, value⟩

/-- The end of `submitCommand`, from the doorbell on; `later` is what it makes of an
answer. -/
def submitCommand (s : Notify) (p : Poll) (later : IOReturn) : IOReturn × Option Doorbell :=
  match p.rejected with
  | some r => (r.val, none)
  | none =>
      match s.doorbell s.controlOffset 0 with
      | some b => (if p.answered then later else .timeout, some b)
      | none => (.notReady, none)

/-- The end of `submitCursorCommand`, which polls also where there is no doorbell. -/
def submitCursorCommand (s : Notify) (p : Poll) : IOReturn × Option Doorbell :=
  match p.rejected with
  | some r => (r.val, none)
  | none => (if p.answered then .success else .timeout, s.doorbell s.cursorOffset 1)

end Notify

/-! ## What is asked for -/

/-- The doorbell is written where it should be, and inside its mapping. -/
structure Doorbell.Right (b : Doorbell) (target : Nat) : Prop where
  mapped : b.through.virt ≠ 0
  address : b.through.phys + b.offset = target
  inside : b.offset + 4 ≤ b.through.length

namespace PciDevice

/-- A submission rings at the address of the BAR plus `rest`, or rings nowhere and
reports an error. -/
def RingsRight (d : PciDevice) (bar : UInt8) (rest : Nat) (out : IOReturn × Option Doorbell) :
    Prop :=
  match out.2 with
  | some b => ∃ a, d.barAddress bar = some a ∧ b.Right (a + rest)
  | none => out.1 ≠ .success

/-- The state after both functions, for the notify capability `cap`. -/
def afterSetup (d : PciDevice) (direct : Nat → Nat → Option Nat) (cap : Capability)
    (multiplier : UInt32) (controlOffset cursorOffset : UInt16) (s : Notify) : Notify :=
  ((s.setupControlVirtQueue d (some (cap.bar, cap.offset, multiplier)) controlOffset
    cursorOffset).setupGPUMemoryRegions d direct (some cap)).2

/-- What is asked of both queues, for submissions that go as `p` and `p'` say. -/
def DoorbellsRight (d : PciDevice) (direct : Nat → Nat → Option Nat) (cap : Capability)
    (multiplier : UInt32) (controlOffset cursorOffset : UInt16) (p p' : Poll) : Prop :=
  ∀ (s : Notify) (later : IOReturn),
    d.RingsRight cap.bar (cap.offset.toNat + controlOffset.toNat * multiplier.toNat)
        ((d.afterSetup direct cap multiplier controlOffset cursorOffset s).submitCommand p later) ∧
      d.RingsRight cap.bar (cap.offset.toNat + cursorOffset.toNat * multiplier.toNat)
        ((d.afterSetup direct cap multiplier controlOffset cursorOffset s).submitCursorCommand p')

/-- What puts the doorbell of a queue in its place, `k` being the queue's offset times the
multiplier: on each way the setup takes, what that way needs. Where there is no mapping in
the end, the submission is to be silent. -/
structure InPlace (d : PciDevice) (direct : Nat → Nat → Option Nat) (cap : Capability) (k : Nat)
    (silent : Prop) : Prop where
  /-- No region is at the BAR's address. -/
  unresolved : d.barMap cap.bar = none → silent
  /-- The mapping of the BAR passes the check, which leaves out `k`. -/
  mapped : ∀ i m, d.barMap cap.bar = some (i, m) → Usable m cap.offset →
    k < 2 ^ 32 ∧ cap.offset.toNat + k + 4 ≤ m.length
  /-- The direct mapping has four bytes. -/
  paged : ∀ i m, d.barMap cap.bar = some (i, m) → ¬ Usable m cap.offset →
    (d.directMap direct i cap.offset).isSome → k = 0
  /-- The region of index 0 is mapped instead. -/
  legacy : ∀ i m m₀, d.barMap cap.bar = some (i, m) → ¬ Usable m cap.offset →
    d.directMap direct i cap.offset = none → d.notifyMapAt 0 = some m₀ →
      m₀.virt ≠ 0 ∧ m₀.phys + (0x10 + k % 2 ^ 32) = m.phys + (cap.offset.toNat + k) ∧
        0x10 + k % 2 ^ 32 + 4 ≤ m₀.length
  /-- Nor can that one be mapped. -/
  unmapped : ∀ i m, d.barMap cap.bar = some (i, m) → ¬ Usable m cap.offset →
    d.directMap direct i cap.offset = none → d.notifyMapAt 0 = none → silent

/-! ## What the setup leaves -/

/-- The mapping and the offset that are left, if there is a mapping. -/
def notifyTarget (d : PciDevice) (direct : Nat → Nat → Option Nat) (cap : Capability) :
    Option (NotifyMap × UInt32) :=
  (d.barMap cap.bar).bind fun x =>
    if Usable x.2 cap.offset then some (x.2, cap.offset)
    else (d.directMap direct x.1 cap.offset).or ((d.notifyMapAt 0).map fun m => (m, 0x10))

variable {d : PciDevice} {direct : Nat → Nat → Option Nat} {cap : Capability}
  {multiplier offset pageOffset : UInt32} {controlOffset cursorOffset : UInt16} {s : Notify}
  {p : Poll} {later : IOReturn} {bar : UInt8} {i k a : Nat} {m : NotifyMap} {r : MemoryRegion}

theorem setupGPUMemoryRegions_eq (s : Notify) :
    (s.setupGPUMemoryRegions d direct (some cap)).2 =
      match d.notifyTarget direct cap with
      | some (m, offset) => { s with base := none, map := some m, capOffset := offset }
      | none => { s with base := none, map := none } := by
  unfold Notify.setupGPUMemoryRegions notifyTarget
  cases hbar : d.barMap cap.bar with
  | none => simp only [hbar, Option.bind_none]
  | some x =>
      obtain ⟨i, m⟩ := x
      simp only [hbar, Option.bind_some]
      by_cases hu : Usable m cap.offset
      · simp only [hu, if_true]
      · simp only [hu, if_false]
        cases hdirect : d.directMap direct i cap.offset with
        | some x => simp only [Option.some_or]
        | none =>
            simp only [Option.none_or]
            cases d.notifyMapAt 0 with
            | none => rfl
            | some m₀ => rfl

/-- The doorbells are those of the target, whatever went before. -/
theorem doorbell_afterSetup (queueOffset : UInt16) (value : UInt32) :
    (d.afterSetup direct cap multiplier controlOffset cursorOffset s).doorbell
        queueOffset.toUInt32 value =
      (d.notifyTarget direct cap).map fun x =>
        ⟨x.1, x.2.toNat + queueOffset.toNat * multiplier.toNat % 2 ^ 32, value⟩ := by
  rw [afterSetup, setupGPUMemoryRegions_eq]
  cases d.notifyTarget direct cap with
  | none =>
      simp only [Notify.doorbell, Notify.through, Option.none_or, ite_self, Option.map_none]
  | some x =>
      obtain ⟨m, offset⟩ := x
      simp only [Notify.doorbell, Notify.through, Option.none_or, ite_self, Option.map_some]
      rw [UInt32.toNat_mul, UInt16.toNat_toUInt32]
      rfl

theorem offsets_afterSetup :
    (d.afterSetup direct cap multiplier controlOffset cursorOffset s).controlOffset =
        controlOffset.toUInt32 ∧
      (d.afterSetup direct cap multiplier controlOffset cursorOffset s).cursorOffset =
        cursorOffset.toUInt32 := by
  rw [afterSetup, setupGPUMemoryRegions_eq]
  cases d.notifyTarget direct cap with
  | none => exact ⟨rfl, rfl⟩
  | some x => exact ⟨rfl, rfl⟩

/-- A BAR that is mapped is where its registers say. -/
theorem barMap_eq_some (h : d.barMap bar = some (i, m)) :
    d.barAddress bar = some m.phys ∧ ∃ r, d.regions[i]? = some r ∧ r.phys = m.phys := by
  obtain ⟨⟨j, mapping⟩, hj, hmap⟩ := Option.bind_eq_some_iff.mp h
  obtain ⟨m', hm', heq⟩ := Option.map_eq_some_iff.mp hmap
  cases heq
  obtain ⟨a, r, ha, hr, hmapping, hphys⟩ := resolveBar_eq_some hj
  rw [notifyMapAt, hr, Option.bind_some, hmapping, Option.map_some] at hm'
  cases hm'
  exact ⟨hphys ▸ ha, r, hr, rfl⟩

/-- The direct mapping ends with the first doorbell. -/
theorem directMap_eq_some (hr : d.regions[i]? = some r)
    (h : d.directMap direct i offset = some (m, pageOffset)) :
    m.virt ≠ 0 ∧ m.phys + pageOffset.toNat = r.phys + offset.toNat ∧
      m.length = pageOffset.toNat + 4 := by
  unfold directMap at h
  rw [hr] at h
  dsimp only at h
  split at h
  · cases h
  split at h
  · cases h
  split at h
  · cases h
  split at h
  · cases h
  split at h
  · cases h
  split at h
  · cases h
  split at h
  next hvirt =>
    cases h
    -- an offset in a page fits into 32 bits
    have hpage : r.phys + offset.toNat - (r.phys + offset.toNat) / 4096 * 4096 < 4096 := by omega
    rw [UInt32.toNat_ofNat_of_lt' (Nat.lt_trans hpage (by decide))]
    exact ⟨hvirt, Nat.add_sub_of_le (Nat.div_mul_le_self _ _), rfl⟩
  · cases h

/-! ## Where the doorbells go -/

theorem ringsRight_of_none {out : IOReturn × Option Doorbell} {rest : Nat} (h : out.2 = none) :
    d.RingsRight bar rest out ↔ out.1 ≠ .success := by
  rw [RingsRight, h]

theorem ringsRight_of_some {out : IOReturn × Option Doorbell} {rest : Nat} {b : Doorbell}
    (h : out.2 = some b) (ha : d.barAddress bar = some a) :
    d.RingsRight bar rest out ↔ b.Right (a + rest) := by
  rw [RingsRight, h, ha]
  constructor
  · rintro ⟨a', ha', hb⟩
    cases ha'
    exact hb
  · intro hb
    exact ⟨a, rfl, hb⟩

/-! On each way only what that way needs is asked for. -/

theorem inPlace_of_unresolved {silent : Prop} (h : d.barMap cap.bar = none) :
    d.InPlace direct cap k silent ↔ silent := by
  constructor
  · intro hp
    exact hp.unresolved h
  · intro hs
    exact ⟨fun _ => hs, by simp [h], by simp [h], by simp [h], by simp [h]⟩

theorem inPlace_of_mapped {silent : Prop} (h : d.barMap cap.bar = some (i, m))
    (hu : Usable m cap.offset) :
    d.InPlace direct cap k silent ↔ k < 2 ^ 32 ∧ cap.offset.toNat + k + 4 ≤ m.length := by
  constructor
  · intro hp
    exact hp.mapped i m h hu
  · intro hk
    refine ⟨by simp [h], ?_, ?_, ?_, ?_⟩
    · rintro i' m' heq -
      cases h.symm.trans heq
      exact hk
    · rintro i' m' heq hnot
      cases h.symm.trans heq
      exact absurd hu hnot
    · rintro i' m' m₀ heq hnot
      cases h.symm.trans heq
      exact absurd hu hnot
    · rintro i' m' heq hnot
      cases h.symm.trans heq
      exact absurd hu hnot

theorem inPlace_of_paged {silent : Prop} {x : NotifyMap × UInt32}
    (h : d.barMap cap.bar = some (i, m)) (hu : ¬ Usable m cap.offset)
    (hdirect : d.directMap direct i cap.offset = some x) :
    d.InPlace direct cap k silent ↔ k = 0 := by
  constructor
  · intro hp
    exact hp.paged i m h hu (by rw [hdirect]; rfl)
  · intro hk
    refine ⟨by simp [h], ?_, fun _ _ _ _ _ => hk, ?_, ?_⟩
    · rintro i' m' heq hu'
      cases h.symm.trans heq
      exact absurd hu' hu
    · rintro i' m' m₀ heq - hno
      cases h.symm.trans heq
      cases hdirect.symm.trans hno
    · rintro i' m' heq - hno
      cases h.symm.trans heq
      cases hdirect.symm.trans hno

theorem inPlace_of_legacy {silent : Prop} {m₀ : NotifyMap} (h : d.barMap cap.bar = some (i, m))
    (hu : ¬ Usable m cap.offset) (hdirect : d.directMap direct i cap.offset = none)
    (hzero : d.notifyMapAt 0 = some m₀) :
    d.InPlace direct cap k silent ↔
      m₀.virt ≠ 0 ∧ m₀.phys + (0x10 + k % 2 ^ 32) = m.phys + (cap.offset.toNat + k) ∧
        0x10 + k % 2 ^ 32 + 4 ≤ m₀.length := by
  constructor
  · intro hp
    exact hp.legacy i m m₀ h hu hdirect hzero
  · intro hk
    refine ⟨by simp [h], ?_, ?_, ?_, ?_⟩
    · rintro i' m' heq hu'
      cases h.symm.trans heq
      exact absurd hu' hu
    · rintro i' m' heq - hsome
      cases h.symm.trans heq
      rw [hdirect] at hsome
      cases hsome
    · rintro i' m' m₁ heq - - hm₁
      cases h.symm.trans heq
      cases hzero.symm.trans hm₁
      exact hk
    · rintro i' m' heq - - hno
      cases hzero.symm.trans hno

theorem inPlace_of_unmapped {silent : Prop} (h : d.barMap cap.bar = some (i, m))
    (hu : ¬ Usable m cap.offset) (hdirect : d.directMap direct i cap.offset = none)
    (hzero : d.notifyMapAt 0 = none) : d.InPlace direct cap k silent ↔ silent := by
  constructor
  · intro hp
    exact hp.unmapped i m h hu hdirect hzero
  · intro hs
    refine ⟨by simp [h], ?_, ?_, ?_, fun _ _ _ _ _ _ => hs⟩
    · rintro i' m' heq hu'
      cases h.symm.trans heq
      exact absurd hu' hu
    · rintro i' m' heq - hsome
      cases h.symm.trans heq
      rw [hdirect] at hsome
      cases hsome
    · rintro i' m' m₀ heq - - hno
      cases hzero.symm.trans hno

/-- The target on each way. -/
theorem notifyTarget_eq (h : d.barMap cap.bar = some (i, m)) :
    d.notifyTarget direct cap =
      if Usable m cap.offset then some (m, cap.offset)
      else (d.directMap direct i cap.offset).or ((d.notifyMapAt 0).map fun m => (m, 0x10)) := by
  rw [notifyTarget, h]
  rfl

/-- One queue, whose doorbell is that of the target: one case for each way the setup
takes. -/
theorem ringsRight_iff {out : IOReturn × Option Doorbell} {silent : Prop} (value : UInt32)
    (hbell : out.2 = (d.notifyTarget direct cap).map fun x =>
      ⟨x.1, x.2.toNat + k % 2 ^ 32, value⟩)
    (hsilent : out.2 = none → (out.1 ≠ .success ↔ silent)) :
    d.RingsRight cap.bar (cap.offset.toNat + k) out ↔ d.InPlace direct cap k silent := by
  cases hbar : d.barMap cap.bar with
  | none =>
      rw [notifyTarget, hbar] at hbell
      rw [ringsRight_of_none hbell, hsilent hbell, inPlace_of_unresolved hbar]
  | some x =>
      obtain ⟨i, m⟩ := x
      obtain ⟨haddress, r, hr, hphys⟩ := barMap_eq_some hbar
      have hmod : k % 2 ^ 32 ≤ k := Nat.mod_le _ _
      have hlt : k % 2 ^ 32 = k ↔ k < 2 ^ 32 := Nat.mod_eq_iff_lt (by decide)
      rw [notifyTarget_eq hbar] at hbell
      by_cases hu : Usable m cap.offset
      · rw [if_pos hu] at hbell
        rw [ringsRight_of_some hbell haddress, inPlace_of_mapped hbar hu]
        constructor
        · rintro ⟨-, haddr, hin⟩
          dsimp only at haddr hin
          -- a product that wrapped rings at another address
          have hk : k % 2 ^ 32 = k := by omega
          rw [hk] at hin
          exact ⟨hlt.mp hk, hin⟩
        · rintro ⟨hk, hin⟩
          rw [hlt.mpr hk]
          exact ⟨hu.2, rfl, hin⟩
      rw [if_neg hu] at hbell
      cases hdirect : d.directMap direct i cap.offset with
      | some y =>
          obtain ⟨page, pageOffset⟩ := y
          obtain ⟨hvirt, hpage, hlen⟩ := directMap_eq_some hr hdirect
          rw [hdirect] at hbell
          rw [ringsRight_of_some hbell haddress, inPlace_of_paged hbar hu hdirect]
          constructor
          · rintro ⟨-, haddr, hin⟩
            dsimp only at haddr hin
            -- the four bytes behind the page offset are all there is
            omega
          · rintro rfl
            refine ⟨hvirt, ?_, Nat.le_of_eq hlen.symm⟩
            show page.phys + pageOffset.toNat = m.phys + cap.offset.toNat
            rw [hpage, hphys]
      | none =>
          rw [hdirect, Option.none_or] at hbell
          cases hzero : d.notifyMapAt 0 with
          | none =>
              rw [hzero] at hbell
              rw [ringsRight_of_none hbell, hsilent hbell,
                inPlace_of_unmapped hbar hu hdirect hzero]
          | some m₀ =>
              rw [hzero] at hbell
              rw [ringsRight_of_some hbell haddress, inPlace_of_legacy hbar hu hdirect hzero]
              exact ⟨fun h => ⟨h.mapped, h.address, h.inside⟩, fun h => ⟨h.1, h.2.1, h.2.2⟩⟩

/-! ### Both queues -/

theorem submitCommand_rejected (later : IOReturn) (h : p.rejected ≠ none) :
    (s.submitCommand p later).2 = none ∧ (s.submitCommand p later).1 ≠ .success := by
  obtain ⟨r, hr⟩ := Option.ne_none_iff_exists'.mp h
  rw [Notify.submitCommand, hr]
  exact ⟨rfl, r.property⟩

theorem submitCursorCommand_rejected (h : p.rejected ≠ none) :
    (s.submitCursorCommand p).2 = none ∧ (s.submitCursorCommand p).1 ≠ .success := by
  obtain ⟨r, hr⟩ := Option.ne_none_iff_exists'.mp h
  rw [Notify.submitCursorCommand, hr]
  exact ⟨rfl, r.property⟩

/-- Without a doorbell `submitCommand` says so. -/
theorem submitCommand_of_accepted (later : IOReturn) (h : p.rejected = none) :
    (s.submitCommand p later).2 = s.doorbell s.controlOffset 0 ∧
      ((s.submitCommand p later).2 = none → (s.submitCommand p later).1 = .notReady) := by
  rw [Notify.submitCommand, h]
  cases s.doorbell s.controlOffset 0 with
  | none => exact ⟨rfl, fun _ => rfl⟩
  | some b => exact ⟨rfl, fun hnone => by cases hnone⟩

/-- `submitCursorCommand` says what the poll does. -/
theorem submitCursorCommand_of_accepted (h : p.rejected = none) :
    (s.submitCursorCommand p).2 = s.doorbell s.cursorOffset 1 ∧
      ((s.submitCursorCommand p).1 ≠ .success ↔ p.answered = false) := by
  rw [Notify.submitCursorCommand, h]
  refine ⟨rfl, ?_⟩
  cases p.answered with
  | false => exact iff_of_true (fun h => by cases h) rfl
  | true => exact iff_of_false (fun h => h rfl) (by decide)

theorem control_ringsRight_iff :
    d.RingsRight cap.bar (cap.offset.toNat + controlOffset.toNat * multiplier.toNat)
        ((d.afterSetup direct cap multiplier controlOffset cursorOffset s).submitCommand p later) ↔
      (p.rejected = none →
        d.InPlace direct cap (controlOffset.toNat * multiplier.toNat) True) := by
  by_cases hp : p.rejected = none
  · rw [forall_prop_of_true hp]
    obtain ⟨hbell, hsilent⟩ := submitCommand_of_accepted
      (s := d.afterSetup direct cap multiplier controlOffset cursorOffset s) later hp
    refine ringsRight_iff 0 ?_ fun hnone => iff_of_true ?_ trivial
    · rw [hbell, offsets_afterSetup.1]
      exact doorbell_afterSetup controlOffset 0
    · rw [hsilent hnone]
      decide
  · obtain ⟨hnone, hret⟩ := submitCommand_rejected
      (s := d.afterSetup direct cap multiplier controlOffset cursorOffset s) later hp
    exact iff_of_true ((ringsRight_of_none hnone).mpr hret) fun h => absurd h hp

theorem cursor_ringsRight_iff :
    d.RingsRight cap.bar (cap.offset.toNat + cursorOffset.toNat * multiplier.toNat)
        ((d.afterSetup direct cap multiplier controlOffset cursorOffset s).submitCursorCommand p) ↔
      (p.rejected = none →
        d.InPlace direct cap (cursorOffset.toNat * multiplier.toNat) (p.answered = false)) := by
  by_cases hp : p.rejected = none
  · rw [forall_prop_of_true hp]
    obtain ⟨hbell, hret⟩ := submitCursorCommand_of_accepted
      (s := d.afterSetup direct cap multiplier controlOffset cursorOffset s) hp
    refine ringsRight_iff 1 ?_ fun _ => hret
    rw [hbell, offsets_afterSetup.2]
    exact doorbell_afterSetup cursorOffset 1
  · obtain ⟨hnone, hret⟩ := submitCursorCommand_rejected
      (s := d.afterSetup direct cap multiplier controlOffset cursorOffset s) hp
    exact iff_of_true ((ringsRight_of_none hnone).mpr hret) fun h => absurd h hp

/-- **Exact condition.** The doorbells of both queues go where they should, or there is
none and an error, exactly where the offsets are in place on the way the setup takes; a
submission that is turned away before asks for nothing. -/
theorem doorbellsRight_iff (d : PciDevice) (direct : Nat → Nat → Option Nat) (cap : Capability)
    (multiplier : UInt32) (controlOffset cursorOffset : UInt16) (p p' : Poll) :
    d.DoorbellsRight direct cap multiplier controlOffset cursorOffset p p' ↔
      (p.rejected = none →
        d.InPlace direct cap (controlOffset.toNat * multiplier.toNat) True) ∧
      (p'.rejected = none →
        d.InPlace direct cap (cursorOffset.toNat * multiplier.toNat) (p'.answered = false)) := by
  constructor
  · intro h
    -- what went before makes no difference, so one state is enough
    obtain ⟨hcontrol, hcursor⟩ := h ⟨none, none, 0, 0, 0, 0⟩ .success
    exact ⟨control_ringsRight_iff.mp hcontrol, cursor_ringsRight_iff.mp hcursor⟩
  · rintro ⟨hcontrol, hcursor⟩ s later
    exact ⟨control_ringsRight_iff.mpr hcontrol, cursor_ringsRight_iff.mpr hcursor⟩

/-- BAR 2 at 0xE0000000, of which IOKit maps as much as the first doorbell needs. -/
def shortMapping : PciDevice where
  config :=
    { read8 := fun _ => 0
      read32 := fun p => if p = 0x18 then 0xE0000000 else 0 }
  regions := [⟨0xE0000000, 0x4000, some ⟨0x3004, 0x10000⟩⟩]

/-- The doorbell of the cursor queue, at offset 1 with a multiplier of 4, lies behind the
end of the mapping. -/
theorem shortMapping_not_right :
    ¬ shortMapping.DoorbellsRight (fun _ _ => none) ⟨2, 0x3000, 0x1000⟩ 4 0 1 ⟨none, true⟩
      ⟨none, true⟩ := by
  intro h
  obtain ⟨a, -, hright⟩ := (h ⟨none, none, 0, 0, 0, 0⟩ .success).2
  exact absurd hright.inside (by decide)

end PciDevice
end VMQemuVGA
