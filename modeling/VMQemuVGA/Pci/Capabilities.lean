import Mathlib.Data.Finset.Card
import Mathlib.Order.Interval.Finset.Nat
import VMQemuVGA.Lib.Loop

/-! # The capability list of PCI configuration space

`findVirtIOCapability` and `readNotifyConfig` follow the list that starts at 0x34,
one next pointer after the other. All of it is the device's: where the pointers
lead, which capabilities are there, and what stands in them. -/

namespace VMQemuVGA

/-- What `configRead8` and `configRead32` return. Offsets are bytes, and wrap. -/
structure ConfigSpace where
  read8 : UInt8 → UInt8
  read32 : UInt8 → UInt32

/-- What `findVirtIOCapability` hands back. -/
structure Capability where
  bar : UInt8
  offset : UInt32
  length : UInt32
  deriving DecidableEq, Repr

/-- The vendor-specific capability. -/
def capVendor : UInt8 := 0x09

/-! `VIRTIO_PCI_CAP_COMMON_CFG` to `VIRTIO_PCI_CAP_DEVICE_CFG`. -/

def commonCfg : UInt8 := 1

def notifyCfg : UInt8 := 2

def isrCfg : UInt8 := 3

def deviceCfg : UInt8 := 4

/-- The hard-coded values, for the four types that have them. -/
def fallbackCapability (cfgType : UInt8) : Option Capability :=
  if cfgType = commonCfg then some ⟨2, 0x1000, 0x800⟩
  else if cfgType = isrCfg then some ⟨2, 0x1800, 0x800⟩
  else if cfgType = deviceCfg then some ⟨2, 0x2000, 0x1000⟩
  else if cfgType = notifyCfg then some ⟨2, 0x3000, 0x1000⟩
  else none

/-- The offsets at which both walks look for a capability. -/
def Admissible (p : UInt8) : Prop := 0x40 ≤ p ∧ p < 0xfc

instance (p : UInt8) : Decidable (Admissible p) := inferInstanceAs (Decidable (_ ∧ _))

namespace ConfigSpace

/-- Where the list starts. -/
def first (c : ConfigSpace) : UInt8 := c.read8 0x34

def next (c : ConfigSpace) (p : UInt8) : UInt8 := c.read8 (p + 1)

/-- At `p` is a VirtIO capability of the type. -/
def IsCap (c : ConfigSpace) (cfgType p : UInt8) : Prop :=
  c.read8 p = capVendor ∧ c.read8 (p + 3) = cfgType

instance (c : ConfigSpace) (cfgType p : UInt8) : Decidable (c.IsCap cfgType p) :=
  inferInstanceAs (Decidable (_ ∧ _))

def capabilityAt (c : ConfigSpace) (p : UInt8) : Capability :=
  ⟨c.read8 (p + 4), c.read32 (p + 8), c.read32 (p + 12)⟩

/-- The walk of `findVirtIOCapability`; it is left with where the match is, if
there is one. -/
def findLoop (c : ConfigSpace) (cfgType : UInt8) : Loop UInt8 (Option UInt8) where
  body := fun p =>
    if Admissible p then
      if c.IsCap cfgType p then .inl (some p)
      else if c.next p = 0 ∨ c.next p = p then .inl none
      else .inr (c.next p)
    else .inl none

/-- `findVirtIOCapability`, for as long as the fuel lasts. -/
def findVirtIOCapability (c : ConfigSpace) (cfgType : UInt8) (fuel : Nat) :
    Option (Option Capability) :=
  ((c.findLoop cfgType).run fuel c.first).map fun
    | some p => some (c.capabilityAt p)
    | none => fallbackCapability cfgType

/-- The walk of `readNotifyConfig`, which looks for the multiplier. -/
def notifyLoop (c : ConfigSpace) : Loop UInt8 (Option UInt8) where
  body := fun p =>
    if Admissible p then
      if c.IsCap notifyCfg p then .inl (some p) else .inr (c.next p)
    else .inl none

/-- `readNotifyConfig`: the bar, the offset and the multiplier, 0 where the walk
finds none. -/
def readNotifyConfig (c : ConfigSpace) (fuel : Nat) : Option (Option (UInt8 × UInt32 × UInt32)) :=
  match c.findVirtIOCapability notifyCfg fuel with
  | none => none
  | some none => some none
  | some (some cap) =>
      (c.notifyLoop.run fuel c.first).map fun
        | some p => some (cap.bar, cap.offset, c.read32 (p + 16))
        | none => some (cap.bar, cap.offset, 0)

/-! ## The pointers -/

/-- Following the pointers from an offset, as long as they are admissible, meets
one that satisfies `P`. -/
inductive Meets (c : ConfigSpace) (P : UInt8 → Prop) : UInt8 → Prop where
  | here {p : UInt8} : P p → Meets c P p
  | next {p : UInt8} : Admissible p → Meets c P (c.next p) → Meets c P p

variable {c : ConfigSpace} {P Q : UInt8 → Prop} {p t : UInt8}

theorem Meets.mono (hPQ : ∀ p, P p → Q p) (h : c.Meets P p) : c.Meets Q p := by
  induction h with
  | here h => exact .here (hPQ _ h)
  | next hadm _ ih => exact .next hadm ih

theorem meets_or : c.Meets (fun p => P p ∨ Q p) p ↔ c.Meets P p ∨ c.Meets Q p := by
  constructor
  · intro h
    induction h with
    | here h => exact h.imp .here .here
    | next hadm _ ih => exact ih.imp (.next hadm) (.next hadm)
  · rintro (h | h)
    · exact h.mono fun _ => .inl
    · exact h.mono fun _ => .inr

/-- Nothing is met behind a pointer that is not admissible. -/
theorem Meets.of_not_admissible (h : c.Meets P p) (hp : ¬ Admissible p) : P p := by
  cases h with
  | here h => exact h
  | next hadm _ => exact absurd hadm hp

/-- The pointers lead out of the admissible offsets. -/
def Ends (c : ConfigSpace) : Prop := c.Meets (fun p => ¬ Admissible p) c.first

/-- They lead to a capability that points at itself. -/
def MeetsItself (c : ConfigSpace) : Prop := c.Meets (fun p => c.next p = p) c.first

/-- There is a capability of the type on the list. -/
def Lists (c : ConfigSpace) (cfgType : UInt8) : Prop :=
  c.Meets (fun p => Admissible p ∧ c.IsCap cfgType p) c.first

/-! ## When the walks end -/

theorem findLoop_out (h : ¬ Admissible p) : (c.findLoop t).body p = .inl none := if_neg h

theorem findLoop_found (h : Admissible p) (hcap : c.IsCap t p) :
    (c.findLoop t).body p = .inl (some p) :=
  (if_pos h).trans (if_pos hcap)

theorem findLoop_stops (h : Admissible p) (hcap : ¬ c.IsCap t p)
    (hend : c.next p = 0 ∨ c.next p = p) : (c.findLoop t).body p = .inl none :=
  (if_pos h).trans ((if_neg hcap).trans (if_pos hend))

theorem findLoop_goes_on (h : Admissible p) (hcap : ¬ c.IsCap t p)
    (hend : ¬ (c.next p = 0 ∨ c.next p = p)) : (c.findLoop t).body p = .inr (c.next p) :=
  (if_pos h).trans ((if_neg hcap).trans (if_neg hend))

theorem notifyLoop_out (h : ¬ Admissible p) : c.notifyLoop.body p = .inl none := if_neg h

theorem notifyLoop_found (h : Admissible p) (hcap : c.IsCap notifyCfg p) :
    c.notifyLoop.body p = .inl (some p) :=
  (if_pos h).trans (if_pos hcap)

theorem notifyLoop_goes_on (h : Admissible p) (hcap : ¬ c.IsCap notifyCfg p) :
    c.notifyLoop.body p = .inr (c.next p) :=
  (if_pos h).trans (if_neg hcap)

/-- The first walk ends where it is led out, meets a pointer to itself or finds what
it looks for. -/
theorem halts_findLoop_iff :
    (c.findLoop t).Halts p ↔
      c.Meets (fun p => ¬ Admissible p ∨ c.next p = p ∨ Admissible p ∧ c.IsCap t p) p := by
  constructor
  · intro h
    by_contra hnot
    -- where none of these is met, every round goes on
    refine Loop.not_halts_of_invariant (I := fun q => ¬ c.Meets _ q) (fun q hq => ?_) hnot h
    have hadm : Admissible q := by
      by_contra hout
      exact hq (.here (.inl hout))
    have hcap : ¬ c.IsCap t q := fun hcap => hq (.here (.inr (.inr ⟨hadm, hcap⟩)))
    have hself : c.next q ≠ q := fun hself => hq (.here (.inr (.inl hself)))
    have hrest := fun hnext => hq (.next hadm hnext)
    -- so the check for zero decides nothing that the range does not
    have hzero : c.next q ≠ 0 := by
      intro hzero
      exact hrest (.here (.inl (by rw [hzero]; decide)))
    exact ⟨c.next q, findLoop_goes_on hadm hcap (not_or.mpr ⟨hzero, hself⟩), hrest⟩
  · intro h
    -- on the pointers up to what is met; the walk may be left before
    induction h with
    | @here q h =>
        by_cases hadm : Admissible q
        · by_cases hcap : c.IsCap t q
          · exact Loop.halts_of_inl (findLoop_found hadm hcap)
          · have hself : c.next q = q :=
              (h.resolve_left (not_not.mpr hadm)).resolve_right fun h => hcap h.2
            exact Loop.halts_of_inl (findLoop_stops hadm hcap (.inr hself))
        · exact Loop.halts_of_inl (findLoop_out hadm)
    | @next q hadm _ ih =>
        by_cases hcap : c.IsCap t q
        · exact Loop.halts_of_inl (findLoop_found hadm hcap)
        by_cases hend : c.next q = 0 ∨ c.next q = q
        · exact Loop.halts_of_inl (findLoop_stops hadm hcap hend)
        · exact (Loop.halts_iff_of_inr (findLoop_goes_on hadm hcap hend)).mpr ih

/-- The second walk has no guard but the range. -/
theorem halts_notifyLoop_iff :
    c.notifyLoop.Halts p ↔
      c.Meets (fun p => ¬ Admissible p ∨ Admissible p ∧ c.IsCap notifyCfg p) p := by
  constructor
  · intro h
    by_contra hnot
    refine Loop.not_halts_of_invariant (I := fun q => ¬ c.Meets _ q) (fun q hq => ?_) hnot h
    have hadm : Admissible q := by
      by_contra hout
      exact hq (.here (.inl hout))
    have hcap : ¬ c.IsCap notifyCfg q := fun hcap => hq (.here (.inr ⟨hadm, hcap⟩))
    exact ⟨c.next q, notifyLoop_goes_on hadm hcap, fun hnext => hq (.next hadm hnext)⟩
  · intro h
    induction h with
    | @here q h =>
        by_cases hadm : Admissible q
        · have hcap := (h.resolve_left (not_not.mpr hadm)).2
          exact Loop.halts_of_inl (notifyLoop_found hadm hcap)
        · exact Loop.halts_of_inl (notifyLoop_out hadm)
    | @next q hadm _ ih =>
        by_cases hcap : c.IsCap notifyCfg q
        · exact Loop.halts_of_inl (notifyLoop_found hadm hcap)
        · exact (Loop.halts_iff_of_inr (notifyLoop_goes_on hadm hcap)).mpr ih

/-- There are fewer admissible offsets than types, so some type is at none of them. -/
theorem exists_type_not_listed (c : ConfigSpace) :
    ∃ t, ∀ p, Admissible p → ¬ c.IsCap t p := by
  let types := (Finset.Ico 0x40 0xfc).image fun n => (c.read8 (UInt8.ofNat n + 3)).toNat
  have hcard : types.card < (Finset.range 256).card := by
    refine Nat.lt_of_le_of_lt Finset.card_image_le ?_
    rw [Nat.card_Ico, Finset.card_range]
    decide
  obtain ⟨n, hn, hnot⟩ := Finset.exists_mem_notMem_of_card_lt_card hcard
  refine ⟨UInt8.ofNat n, fun p hp hcap => hnot ?_⟩
  refine Finset.mem_image.mpr ⟨p.toNat, Finset.mem_Ico.mpr ⟨hp.1, hp.2⟩, ?_⟩
  rw [UInt8.ofNat_toNat, hcap.2]
  exact UInt8.toNat_ofNat_of_lt' (Finset.mem_range.mp hn)

/-- All walks for a match end exactly where the pointers lead out or to themselves. -/
theorem halts_findLoop_all :
    (∀ t, (c.findLoop t).Halts c.first) ↔ c.Ends ∨ c.MeetsItself := by
  rw [Ends, MeetsItself, ← meets_or]
  constructor
  · intro h
    -- the walk for a type that is nowhere is not left at a match
    obtain ⟨t, ht⟩ := c.exists_type_not_listed
    refine (halts_findLoop_iff.mp (h t)).mono fun p hp => ?_
    exact hp.imp_right fun hp => hp.resolve_right fun hcap => ht p hcap.1 hcap.2
  · intro h t
    exact halts_findLoop_iff.mpr (h.mono fun p hp => hp.imp_right .inl)

theorem halts_notifyLoop_first :
    c.notifyLoop.Halts c.first ↔ c.Ends ∨ c.Lists notifyCfg :=
  halts_notifyLoop_iff.trans meets_or

/-- Where there is a notify capability on the list, both walks are left at the same
one. -/
theorem same_notify (h : c.Meets (fun p => Admissible p ∧ c.IsCap notifyCfg p) p) :
    ∃ q, Admissible q ∧ c.IsCap notifyCfg q ∧ (c.findLoop notifyCfg).Returns p (some q) ∧
      c.notifyLoop.Returns p (some q) := by
  induction h with
  | @here q h =>
      exact ⟨q, h.1, h.2, Loop.returns_of_inl (findLoop_found h.1 h.2),
        Loop.returns_of_inl (notifyLoop_found h.1 h.2)⟩
  | @next p hadm hrest ih =>
      by_cases hcap : c.IsCap notifyCfg p
      · exact ⟨p, hadm, hcap, Loop.returns_of_inl (findLoop_found hadm hcap),
          Loop.returns_of_inl (notifyLoop_found hadm hcap)⟩
      obtain ⟨q, hq, hcapq, hfind, hnotify⟩ := ih
      have hnotify' := (Loop.returns_iff_of_inr (notifyLoop_goes_on hadm hcap)).mpr hnotify
      refine ⟨q, hq, hcapq, ?_, hnotify'⟩
      by_cases hself : c.next p = p
      · -- then what is met behind `p` is met at `p`
        rw [hself] at hfind
        exact hfind
      · -- a pointer of zero would lead out
        have hzero : c.next p ≠ 0 := by
          intro hzero
          rw [hzero] at hrest
          exact absurd (hrest.of_not_admissible (by decide)).1 (by decide)
        exact (Loop.returns_iff_of_inr
          (findLoop_goes_on hadm hcap (not_or.mpr ⟨hzero, hself⟩))).mpr hfind

/-! ## The two functions -/

theorem find_of_returns {q : Option UInt8} {fuel : Nat}
    (h : (c.findLoop t).run fuel c.first = some q) :
    c.findVirtIOCapability t fuel =
      some (q.elim (fallbackCapability t) fun p => some (c.capabilityAt p)) := by
  rw [findVirtIOCapability, h]
  cases q <;> rfl

theorem find_ends_iff :
    (∃ fuel, (c.findVirtIOCapability t fuel).isSome) ↔ (c.findLoop t).Halts c.first := by
  constructor
  · rintro ⟨fuel, h⟩
    rw [findVirtIOCapability, Option.isSome_map] at h
    obtain ⟨r, hr⟩ := Option.isSome_iff_exists.mp h
    exact ⟨r, fuel, hr⟩
  · rintro ⟨r, fuel, hr⟩
    exact ⟨fuel, by rw [find_of_returns hr]; rfl⟩

/-- A notify capability is always found, be it the hard-coded one. -/
theorem exists_notify {q : Option UInt8} {fuel : Nat}
    (h : (c.findLoop notifyCfg).run fuel c.first = some q) :
    ∃ cap, c.findVirtIOCapability notifyCfg fuel = some (some cap) := by
  rw [find_of_returns h]
  cases q with
  | none => exact ⟨_, rfl⟩
  | some p => exact ⟨_, rfl⟩

/-- `readNotifyConfig` ends where both of its walks do. -/
theorem readNotify_ends_iff :
    (∃ fuel, (c.readNotifyConfig fuel).isSome) ↔
      (c.findLoop notifyCfg).Halts c.first ∧ c.notifyLoop.Halts c.first := by
  constructor
  · rintro ⟨fuel, h⟩
    have hfind : (c.findLoop notifyCfg).Halts c.first := by
      refine find_ends_iff.mp ⟨fuel, ?_⟩
      cases hcap : c.findVirtIOCapability notifyCfg fuel with
      | none => rw [readNotifyConfig, hcap] at h; exact h
      | some cap => rfl
    refine ⟨hfind, ?_⟩
    cases hrun : (c.findLoop notifyCfg).run fuel c.first with
    | none =>
        rw [readNotifyConfig, findVirtIOCapability, hrun] at h
        cases h
    | some q =>
        obtain ⟨cap, hcap⟩ := exists_notify hrun
        rw [readNotifyConfig, hcap, Option.isSome_map] at h
        obtain ⟨r, hr⟩ := Option.isSome_iff_exists.mp h
        exact ⟨r, fuel, hr⟩
  · rintro ⟨⟨q, n, hq⟩, ⟨r, m, hr⟩⟩
    -- fuel that is enough for both
    obtain ⟨cap, hcap⟩ := exists_notify (Loop.run_mono (Nat.le_max_left n m) hq)
    refine ⟨max n m, ?_⟩
    rw [readNotifyConfig, hcap, Option.isSome_map, Loop.run_mono (Nat.le_max_right n m) hr]
    rfl

/-- What is asked of the walks: they end, and where there is a notify capability on
the list, its bar, its offset and its multiplier are read together. -/
structure Walks (c : ConfigSpace) : Prop where
  find : ∀ cfgType, ∃ fuel, (c.findVirtIOCapability cfgType fuel).isSome
  readNotify : ∃ fuel, (c.readNotifyConfig fuel).isSome
  together : c.Lists notifyCfg → ∃ p fuel, Admissible p ∧ c.IsCap notifyCfg p ∧
    c.findVirtIOCapability notifyCfg fuel = some (some (c.capabilityAt p)) ∧
    c.readNotifyConfig fuel =
      some (some ((c.capabilityAt p).bar, (c.capabilityAt p).offset, c.read32 (p + 16)))

theorem read_together (h : c.Lists notifyCfg) :
    ∃ p fuel, Admissible p ∧ c.IsCap notifyCfg p ∧
      c.findVirtIOCapability notifyCfg fuel = some (some (c.capabilityAt p)) ∧
      c.readNotifyConfig fuel =
        some (some ((c.capabilityAt p).bar, (c.capabilityAt p).offset, c.read32 (p + 16))) := by
  obtain ⟨p, hadm, hcap, ⟨n, hn⟩, ⟨m, hm⟩⟩ := same_notify h
  have hfind := find_of_returns (Loop.run_mono (Nat.le_max_left n m) hn)
  refine ⟨p, max n m, hadm, hcap, hfind, ?_⟩
  rw [readNotifyConfig, hfind, Option.elim_some]
  show (c.notifyLoop.run (max n m) c.first).map _ = _
  rw [Loop.run_mono (Nat.le_max_right n m) hm]
  rfl

/-- **Exact condition.** The walks do what is asked of them exactly where the pointers
lead out of the admissible offsets, or to a capability that points at itself and there is
a notify capability on the list. -/
theorem walks_iff (c : ConfigSpace) :
    c.Walks ↔ c.Ends ∨ c.MeetsItself ∧ c.Lists notifyCfg := by
  constructor
  · intro h
    have hfind := halts_findLoop_all.mp fun t => find_ends_iff.mp (h.find t)
    have hnotify := halts_notifyLoop_first.mp (readNotify_ends_iff.mp h.readNotify).2
    rcases hfind with hends | hself
    · exact .inl hends
    · exact hnotify.imp_right fun hlists => ⟨hself, hlists⟩
  · intro h
    have hfind := halts_findLoop_all.mpr (h.imp_right And.left)
    have hnotify := halts_notifyLoop_first.mpr (h.imp_right And.right)
    exact
      { find := fun t => find_ends_iff.mpr (hfind t)
        readNotify := readNotify_ends_iff.mpr ⟨hfind notifyCfg, hnotify⟩
        together := read_together }

/-- Two capabilities that point at each other, of no type at all. -/
def twoInACircle : ConfigSpace where
  read8 := fun p =>
    if p = 0x34 then 0x40 else if p = 0x41 then 0x50 else if p = 0x51 then 0x40 else 0
  read32 := fun _ => 0

theorem twoInACircle_not_walks : ¬ twoInACircle.Walks := by
  intro h
  have hround : ∀ p, p = 0x40 ∨ p = 0x50 →
      ∃ q, (twoInACircle.findLoop commonCfg).body p = .inr q ∧ (q = 0x40 ∨ q = 0x50) := by
    rintro p (rfl | rfl)
    · exact ⟨0x50, rfl, .inr rfl⟩
    · exact ⟨0x40, rfl, .inl rfl⟩
  exact Loop.not_halts_of_invariant hround (.inl rfl) (find_ends_iff.mp (h.find commonCfg))

end ConfigSpace
end VMQemuVGA
