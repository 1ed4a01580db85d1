import Mathlib.Data.List.Nodup
import VMQemuVGA.UserClient.Backings

/-! # What a client prepares and completes

`prepare` and `complete`, the allocation of a descriptor and its `release` are paired by
hand, on every way out of `attachBackingUser` and wherever a slot of `m_user_backings` is
given up. Here they are counted, descriptor by descriptor, for one client whose calls may fail
in any way. -/

namespace VMQemuVGA

/-- A `VMVirtIOGPUUserClient`, with what it did to each descriptor. -/
structure BackingClient where
  /-- there is an `m_gpu_device` -/
  device : Bool
  backings : UserBackings
  /-- `prepare`s without a `complete` -/
  prepared : Nat → Int
  /-- references that were not released -/
  retained : Nat → Int
  nextSerial : Nat

namespace BackingClient

/-- As `initWithTask` leaves it. -/
def init : BackingClient := ⟨false, .empty, fun _ => 0, fun _ => 0, 0⟩

/-! ## Descriptors -/

/-- A count that goes up, or down. -/
def count (f : Nat → Int) (serial : Nat) (change : Int) : Nat → Int :=
  Function.update f serial (f serial + change)

variable (s : BackingClient)

/-- The reference that comes with a new object. -/
def retain (serial : Nat) : BackingClient := { s with retained := count s.retained serial 1 }

def release (serial : Nat) : BackingClient := { s with retained := count s.retained serial (-1) }

/-- A `prepare` that succeeds. -/
def prepare (serial : Nat) : BackingClient := { s with prepared := count s.prepared serial 1 }

def complete (serial : Nat) : BackingClient := { s with prepared := count s.prepared serial (-1) }

/-- `complete` and `release`. -/
def giveUp (serial : Nat) : BackingClient := (s.complete serial).release serial

/-! ## The calls -/

/-- `start` sets `m_gpu_device` if it finds a device. -/
def start (found : Bool) : BackingClient := { s with device := found }

/-- `stop` forgets it. -/
def stop : BackingClient := { s with device := false }

def removeUserBacking (id : Nat) : BackingClient :=
  if id = 0 then s else
  match s.backings.find? id with
  | none => s
  | some b =>
      let s₁ :=
        match b.desc with
        | none => s
        | some d => s.giveUp d.serial
      { s₁ with backings := s.backings.clear id .free }

def removeAllUserBackings : BackingClient :=
  { s.backings.serials.foldl giveUp s with backings := .empty }

/-- `attachBackingUser` from the new descriptor on. Its number is drawn for good once the
command is built; an object that is gone before leaves it to the next. -/
def attachDescriptor (e : Env) (cmd : HostCmd) (id serial : Nat) (d : MemoryDescriptor) :
    IOReturn × BackingClient :=
  let s₁ := s.retain serial
  if d.prepareRet ≠ .success then (d.prepareRet, s₁.release serial) else
  let s₂ := s₁.prepare serial
  if d.segments = [] ∨ d.walked ≠ d.length then (.noMemory, s₂.giveUp serial)
  else if e.alloc .attachCommand = false then (.noMemory, s₂.giveUp serial) else
  let s₃ := { s₂ with nextSerial := s.nextSerial + 1 }
  let ret := (e.ask cmd).ret
  if ret ≠ .success then (ret, s₃.giveUp serial) else
  match s.backings.addUserBacking id ⟨serial, d⟩ with
  | none => (.noResources, s₃.giveUp serial)
  | some t => (.success, { s₃ with backings := t })

/-- The command for memory that client `client` has described. -/
def attachCmd (client id : Nat) (d : MemoryDescriptor) : HostCmd :=
  .resourceAttachBacking id ⟨d.wireEntries, some ⟨client, s.nextSerial⟩⟩

def attachBackingUser (e : Env) (client id addr len : Nat) : IOReturn × BackingClient :=
  if s.device = false then (.notReady, s)
  else if id = 0 ∨ addr = 0 ∨ len = 0 then (.badArgument, s)
  else if (s.backings.findUserBacking id).isSome then (.busy, s) else
  match e.withAddressRange addr len with
  | none => (.noMemory, s)
  | some d => s.attachDescriptor e (s.attachCmd client id d) id s.nextSerial d

def detachBackingUser (e : Env) (id : Nat) : IOReturn × BackingClient :=
  if s.device = false then (.notReady, s)
  else ((e.ask (.resourceDetachBacking id)).ret, s.removeUserBacking id)

def resourceUnref (e : Env) (id : Nat) : IOReturn × BackingClient :=
  if s.device = false then (.notReady, s)
  else if id = 0 then (.badArgument, s)
  else
    let s₁ := if (s.backings.findUserBacking id).isSome then s.removeUserBacking id else s
    ((e.ask (.resourceUnref id)).ret, s₁)

/-- Without a probe in progress. -/
def clientClose : BackingClient := s.removeAllUserBackings

def free : BackingClient := s.removeAllUserBackings

/-! ## Runs -/

inductive ClientCall where
  | start (found : Bool)
  | stop
  | attachBackingUser (e : Env) (client id addr len : Nat)
  | detachBackingUser (e : Env) (id : Nat)
  | resourceUnref (e : Env) (id : Nat)
  | removeAllUserBackings
  | clientClose
  | free

def step (s : BackingClient) : ClientCall → Option BackingClient
  | .start found => some (s.start found)
  | .stop => some s.stop
  | .attachBackingUser e client id addr len => some (s.attachBackingUser e client id addr len).2
  | .detachBackingUser e id => some (s.detachBackingUser e id).2
  | .resourceUnref e id => some (s.resourceUnref e id).2
  | .removeAllUserBackings => some s.removeAllUserBackings
  | .clientClose => some s.clientClose
  | .free => some s.free

def machine : Machine BackingClient ClientCall := ⟨init, step⟩

/-- The table is a finite map, and what is prepared and held is what is in it. -/
structure Tidy (s : BackingClient) : Prop where
  distinct : ((s.backings.slots.map UserBacking.resourceId).filter fun id => id ≠ 0).Nodup
  paired : ∀ b ∈ s.backings.slots, b.resourceId = 0 ↔ b.desc = none
  stored : s.backings.serials.Nodup
  prepared : ∀ serial, s.prepared serial = if serial ∈ s.backings.serials then 1 else 0
  retained : ∀ serial, s.retained serial = if serial ∈ s.backings.serials then 1 else 0

/-! ## Counting -/

theorem count_count (f : Nat → Int) (serial : Nat) : count (count f serial 1) serial (-1) = f := by
  unfold count
  rw [Function.update_self, Function.update_idem, Int.add_neg_cancel_right, Function.update_eq_self]

theorem count_apply (f : Nat → Int) (serial n : Nat) (change : Int) :
    count f serial change n = f n + if serial = n then change else 0 := by
  unfold count
  by_cases h : serial = n
  · rw [h, Function.update_self, if_pos rfl]
  · rw [Function.update_of_ne (Ne.symm h), if_neg h, Int.add_zero]

variable {s}

theorem release_retain (serial : Nat) : (s.retain serial).release serial = s := by
  rw [release, retain, count_count]

/-- What was allocated and prepared is given up. -/
theorem giveUp_prepare (serial : Nat) : ((s.retain serial).prepare serial).giveUp serial = s := by
  rw [giveUp, complete, release, prepare, retain, count_count, count_count]

theorem giveUp_drawn (serial next : Nat) :
    ({ (s.retain serial).prepare serial with nextSerial := next } : BackingClient).giveUp serial =
      { s with nextSerial := next } := by
  show { ((s.retain serial).prepare serial).giveUp serial with nextSerial := next } = _
  rw [giveUp_prepare]

/-! ## The descriptors in the table -/

/-- A slot holds the descriptor. -/
def holds (serial : Nat) (b : UserBacking) : Bool :=
  decide (b.resourceId ≠ 0 ∧ b.desc.map UserDescriptor.serial = some serial)

theorem count_serials (t : UserBackings) (serial : Nat) :
    t.serials.count serial = t.slots.countP (holds serial) := by
  rw [UserBackings.serials, List.count_filterMap]
  refine List.countP_congr fun b _ => ?_
  rw [holds, decide_eq_true_eq, beq_iff_eq]
  by_cases hid : b.resourceId = 0
  · simp [hid]
  · simp [hid]

theorem holds_stored {id : Nat} (hid : id ≠ 0) (d : UserDescriptor) (serial : Nat) :
    holds serial ⟨id, some d⟩ = decide (d.serial = serial) := by
  simp [holds, hid]

theorem holds_free {b : UserBacking} (hb : b.resourceId = 0) (serial : Nat) :
    holds serial b = false := by
  simp [holds, hb]

/-- A slot is filled. -/
theorem count_serials_put {t : UserBackings} {i id : Nat} (hi : t.IsFree i) (hid : id ≠ 0)
    (d : UserDescriptor) (serial : Nat) :
    (UserBackings.serials (t.put i ⟨id, some d⟩)).count serial =
      t.serials.count serial + if d.serial = serial then 1 else 0 := by
  obtain ⟨b, hb, hfree⟩ := hi
  have h := SlotTable.countP_put hb ⟨id, some d⟩ (holds serial)
  rw [holds_free hfree, holds_stored hid, if_neg Bool.false_ne_true] at h
  simpa [count_serials] using h

/-- A slot is given up. -/
theorem count_serials_clear {t : UserBackings} {id : Nat} {d : UserDescriptor}
    (h : t.find? id = some ⟨id, some d⟩) (serial : Nat) :
    (UserBackings.serials (t.clear id .free)).count serial + (if d.serial = serial then 1 else 0) =
      t.serials.count serial := by
  have hid : id ≠ 0 := (SlotTable.live_of_find? h).1.2
  obtain ⟨i, hi, hclear⟩ := SlotTable.clear_eq_put UserBacking.free h
  have hcount := SlotTable.countP_put hi UserBacking.free (holds serial)
  rw [holds_free UserBacking.resourceId_free, holds_stored hid, if_neg Bool.false_ne_true] at hcount
  rw [hclear]
  simpa [count_serials] using hcount

theorem serials_empty : UserBackings.empty.serials = [] := by decide

/-! ## What every call keeps -/

/-- In numbers. -/
structure Counted (s : BackingClient) : Prop where
  once : ∀ id, s.backings.mult id ≤ 1
  paired : ∀ b ∈ s.backings.slots, b.resourceId = 0 ↔ b.desc = none
  single : ∀ serial, s.backings.serials.count serial ≤ 1
  fresh : ∀ serial, s.nextSerial ≤ serial → s.backings.serials.count serial = 0
  prepared : ∀ serial, s.prepared serial = s.backings.serials.count serial
  retained : ∀ serial, s.retained serial = s.backings.serials.count serial

theorem counted_init : init.Counted where
  once id := by
    show UserBackings.empty.mult id ≤ 1
    rw [UserBackings.empty, SlotTable.mult_replicate UserBacking.resourceId_free]
    exact Nat.zero_le _
  paired b hb := by
    obtain ⟨-, rfl⟩ := List.mem_replicate.mp hb
    exact iff_of_true rfl rfl
  single serial := by
    show UserBackings.empty.serials.count serial ≤ 1
    simp [serials_empty]
  fresh serial _ := by
    show UserBackings.empty.serials.count serial = 0
    simp [serials_empty]
  prepared serial := by
    show (0 : Int) = UserBackings.empty.serials.count serial
    simp [serials_empty]
  retained serial := by
    show (0 : Int) = UserBackings.empty.serials.count serial
    simp [serials_empty]

/-- The device and numbers that are left out make no difference. -/
theorem Counted.of_same {t : BackingClient} (h : s.Counted) (hbackings : t.backings = s.backings)
    (hprepared : t.prepared = s.prepared) (hretained : t.retained = s.retained)
    (hnext : s.nextSerial ≤ t.nextSerial) : t.Counted where
  once := hbackings ▸ h.once
  paired := hbackings ▸ h.paired
  single := hbackings ▸ h.single
  fresh serial hserial := hbackings ▸ h.fresh serial (Nat.le_trans hnext hserial)
  prepared serial := by rw [hprepared, hbackings, h.prepared]
  retained serial := by rw [hretained, hbackings, h.retained]

/-! ### A descriptor is stored -/

/-- **`attachBackingUser`** leaves the client alone but for a number, or has prepared one new
descriptor and stored it. -/
theorem attachBackingUser_cases (e : Env) (client id addr len : Nat) (s : BackingClient) :
    (∃ next, s.nextSerial ≤ next ∧
      (s.attachBackingUser e client id addr len).2 = { s with nextSerial := next }) ∨
    ∃ d t, s.backings.addUserBacking id ⟨s.nextSerial, d⟩ = some t ∧
      (s.attachBackingUser e client id addr len).2 =
        { (s.retain s.nextSerial).prepare s.nextSerial with
          backings := t, nextSerial := s.nextSerial + 1 } := by
  have hsame : ∃ next, s.nextSerial ≤ next ∧ s = { s with nextSerial := next } :=
    ⟨s.nextSerial, Nat.le_refl _, rfl⟩
  unfold attachBackingUser
  split
  · exact Or.inl hsame
  split
  · exact Or.inl hsame
  split
  · exact Or.inl hsame
  split
  · exact Or.inl hsame
  next d _ =>
  simp only [attachDescriptor]
  split
  · rw [release_retain]
    exact Or.inl hsame
  split
  · rw [giveUp_prepare]
    exact Or.inl hsame
  split
  · rw [giveUp_prepare]
    exact Or.inl hsame
  -- past the command its number is drawn
  split
  · rw [giveUp_drawn]
    exact Or.inl ⟨_, Nat.le_succ _, rfl⟩
  split
  · rw [giveUp_drawn]
    exact Or.inl ⟨_, Nat.le_succ _, rfl⟩
  next t ht => exact Or.inr ⟨d, t, ht, rfl⟩

theorem Counted.findUserBacking_eq_none (h : s.Counted) {id : Nat}
    (hnone : s.backings.findUserBacking id = none) : s.backings.mult id = 0 := by
  unfold UserBackings.findUserBacking at hnone
  rw [← SlotTable.find?_eq_none_iff]
  cases hfind : s.backings.find? id with
  | none => rfl
  | some b =>
      rw [hfind] at hnone
      obtain ⟨⟨hmem, hlive⟩, -⟩ := SlotTable.live_of_find? hfind
      exact absurd ((h.paired b hmem).mpr hnone) hlive

theorem Counted.attachBackingUser (h : s.Counted) (e : Env) (client id addr len : Nat) :
    (s.attachBackingUser e client id addr len).2.Counted := by
  rcases s.attachBackingUser_cases e client id addr len with ⟨next, hnext, heq⟩ | ⟨d, t, hadd, heq⟩
  · rw [heq]
    exact h.of_same rfl rfl rfl hnext
  · rw [heq]
    unfold UserBackings.addUserBacking at hadd
    split at hadd
    · cases hadd
    next hid =>
    split at hadd
    · cases hadd
    next hfound =>
    have hzero := h.findUserBacking_eq_none (Option.not_isSome_iff_eq_none.mp hfound)
    obtain ⟨i, hi, rfl⟩ := Option.map_eq_some_iff.mp hadd
    have hfree := SlotTable.isFree_of_freeIdx? hi
    have hcount := count_serials_put hfree hid ⟨s.nextSerial, d⟩
    have hnew := h.fresh s.nextSerial (Nat.le_refl _)
    constructor
    · intro k
      rw [SlotTable.mult_put_free hfree]
      have honce := h.once k
      split
      · next hk =>
        obtain ⟨-, rfl⟩ := hk
        exact Nat.le_of_eq (by rw [hzero])
      · exact honce
    · intro b hb
      rcases List.mem_or_eq_of_mem_set hb with hold | rfl
      · exact h.paired b hold
      · exact iff_of_false hid (by simp)
    · intro serial
      rw [hcount]
      have hsingle := h.single serial
      split
      · next hserial =>
        obtain rfl : s.nextSerial = serial := hserial
        exact Nat.le_of_eq (by rw [hnew])
      · exact hsingle
    · intro serial hserial
      rw [hcount, h.fresh serial (Nat.le_of_succ_le hserial), if_neg (Nat.ne_of_lt hserial)]
    · intro serial
      show count s.prepared s.nextSerial 1 serial = _
      rw [hcount, count_apply, h.prepared]
      by_cases hserial : s.nextSerial = serial
      · simp [hserial]
      · simp [hserial]
    · intro serial
      show count s.retained s.nextSerial 1 serial = _
      rw [hcount, count_apply, h.retained]
      by_cases hserial : s.nextSerial = serial
      · simp [hserial]
      · simp [hserial]

/-! ### Descriptors are given up -/

/-- **`removeUserBacking`** finds nothing, or a descriptor that it gives up with its slot. -/
theorem Counted.removeUserBacking_cases (h : s.Counted) (id : Nat) :
    s.removeUserBacking id = s ∨
      ∃ d : UserDescriptor, s.backings.find? id = some ⟨id, some d⟩ ∧
        s.removeUserBacking id =
          { s.giveUp d.serial with backings := s.backings.clear id .free } := by
  unfold removeUserBacking
  split
  · exact Or.inl rfl
  split
  · exact Or.inl rfl
  next b hfind =>
  obtain ⟨⟨hmem, hlive⟩, hkey⟩ := SlotTable.live_of_find? hfind
  obtain ⟨k, desc⟩ := b
  obtain rfl : k = id := hkey
  cases desc with
  | none => exact absurd ((h.paired _ hmem).mpr rfl) hlive
  | some d => exact Or.inr ⟨d, hfind, rfl⟩

theorem Counted.removeUserBacking (h : s.Counted) (id : Nat) :
    (s.removeUserBacking id).Counted := by
  rcases h.removeUserBacking_cases id with heq | ⟨d, hfind, heq⟩
  · rw [heq]
    exact h
  · rw [heq]
    have hcount := count_serials_clear hfind
    constructor
    · intro k
      rw [SlotTable.mult_clear UserBacking.resourceId_free]
      split
      · next hk => exact Nat.le_trans (Nat.sub_le _ _) (h.once id)
      · exact h.once k
    · intro b hb
      obtain ⟨i, -, hclear⟩ := SlotTable.clear_eq_put UserBacking.free hfind
      rw [hclear] at hb
      rcases List.mem_or_eq_of_mem_set hb with hold | rfl
      · exact h.paired b hold
      · exact iff_of_true rfl rfl
    · intro serial
      exact Nat.le_trans (Nat.le.intro (hcount serial)) (h.single serial)
    · intro serial hserial
      exact Nat.le_zero.mp (h.fresh serial hserial ▸ Nat.le.intro (hcount serial))
    · intro serial
      show count s.prepared d.serial (-1) serial = _
      rw [count_apply, h.prepared, ← hcount serial]
      split
      · push_cast
        exact Int.add_neg_cancel_right _ _
      · push_cast
        rfl
    · intro serial
      show count s.retained d.serial (-1) serial = _
      rw [count_apply, h.retained, ← hcount serial]
      split
      · push_cast
        exact Int.add_neg_cancel_right _ _
      · push_cast
        rfl

theorem foldl_giveUp_rest (serials : List Nat) (s : BackingClient) :
    (serials.foldl giveUp s).device = s.device ∧
      (serials.foldl giveUp s).nextSerial = s.nextSerial := by
  induction serials generalizing s with
  | nil => exact ⟨rfl, rfl⟩
  | cons serial serials ih => exact ih (s.giveUp serial)

theorem foldl_giveUp (serials : List Nat) (s : BackingClient) (n : Nat) :
    (serials.foldl giveUp s).prepared n = s.prepared n - serials.count n ∧
      (serials.foldl giveUp s).retained n = s.retained n - serials.count n := by
  induction serials generalizing s with
  | nil => simp
  | cons serial serials ih =>
      rw [List.foldl_cons, (ih _).1, (ih _).2, List.count_cons]
      show count s.prepared serial (-1) n - _ = _ ∧ count s.retained serial (-1) n - _ = _
      rw [count_apply, count_apply]
      by_cases h : serial = n
      · subst h
        simp
        omega
      · simp [h]

theorem Counted.removeAllUserBackings (h : s.Counted) : s.removeAllUserBackings.Counted where
  once := counted_init.once
  paired := counted_init.paired
  single := counted_init.single
  fresh serial _ := counted_init.fresh serial (Nat.zero_le _)
  prepared serial := by
    have hzero := counted_init.prepared serial
    show (s.backings.serials.foldl giveUp s).prepared serial =
      UserBackings.empty.serials.count serial
    rw [(foldl_giveUp _ s serial).1, h.prepared, Int.sub_self]
    exact hzero
  retained serial := by
    have hzero := counted_init.retained serial
    show (s.backings.serials.foldl giveUp s).retained serial =
      UserBackings.empty.serials.count serial
    rw [(foldl_giveUp _ s serial).2, h.retained, Int.sub_self]
    exact hzero

/-! ## One of the clients on a device -/

/-- The client is client `client` of the device, which is there. -/
structure Follows (c : BackingClient) (s : BackingRun) (client : Nat) : Prop where
  device : c.device = true
  backings : c.backings = s.client client
  nextSerial : c.nextSerial = s.nextSerial

/-- The calls return the same and leave the client as the device has it. -/
def Agree (client : Nat) (p : IOReturn × BackingClient) (q : IOReturn × BackingRun) : Prop :=
  p.1 = q.1 ∧ p.2.Follows q.2 client

section Follows
variable {c : BackingClient} {r : BackingRun} {client : Nat}

/-- **`attachBackingUser`** is the same call in both models. -/
theorem Follows.attachBackingUser (h : c.Follows r client) (e : Env) (id addr len : Nat) :
    Agree client (c.attachBackingUser e client id addr len)
      (r.attachBackingUser e client id addr len) := by
  obtain ⟨device, backings, prepared, retained, nextSerial⟩ := c
  obtain ⟨rfl, rfl, rfl⟩ := h
  unfold BackingClient.attachBackingUser BackingRun.attachBackingUser BackingRun.describeUserMemory
  have hdevice : ¬ true = false := by decide
  simp only [if_neg hdevice]
  by_cases hargs : id = 0 ∨ addr = 0 ∨ len = 0
  · simp only [if_pos hargs]
    exact ⟨rfl, rfl, rfl, rfl⟩
  simp only [if_neg hargs]
  by_cases hfound : ((r.client client).findUserBacking id).isSome = true
  · simp only [if_pos hfound]
    exact ⟨rfl, rfl, rfl, rfl⟩
  simp only [if_neg hfound]
  cases e.withAddressRange addr len with
  | none => exact ⟨rfl, rfl, rfl, rfl⟩
  | some d =>
      simp only [attachDescriptor]
      by_cases hprepare : d.prepareRet ≠ .success
      · simp only [if_pos hprepare]
        exact ⟨rfl, rfl, rfl, rfl⟩
      simp only [if_neg hprepare]
      by_cases hwalk : d.segments = [] ∨ d.walked ≠ d.length
      · simp only [if_pos hwalk]
        exact ⟨rfl, rfl, rfl, rfl⟩
      simp only [if_neg hwalk]
      by_cases halloc : e.alloc .attachCommand = false
      · simp only [if_pos halloc]
        exact ⟨rfl, rfl, rfl, rfl⟩
      simp only [if_neg halloc]
      have hcmd : (BackingClient.mk true (r.client client) prepared retained r.nextSerial).attachCmd
          client id d = r.attachCmd client id d := rfl
      rw [hcmd]
      unfold BackingRun.attachUserMemory
      by_cases hsent : (e.ask (r.attachCmd client id d)).ret ≠ .success
      · rw [if_pos hsent]
        dsimp only [BackingRun.send, Gpu.submitCommand]
        rw [if_pos hsent]
        exact ⟨rfl, rfl, rfl, rfl⟩
      · rw [if_neg hsent]
        dsimp only [BackingRun.send, Gpu.submitCommand]
        rw [if_neg hsent]
        cases (r.client client).addUserBacking id ⟨r.nextSerial, d⟩ with
        | none => exact ⟨rfl, rfl, rfl, rfl⟩
        | some t => exact ⟨rfl, rfl, (BackingRun.client_setTable_self ..).symm, rfl⟩

/-- **`removeUserBacking`** likewise. -/
theorem Follows.removeUserBacking (h : c.Follows r client) (id : Nat) :
    (c.removeUserBacking id).Follows (r.removeUserBacking client id) client := by
  obtain ⟨device, backings, prepared, retained, nextSerial⟩ := c
  obtain ⟨rfl, rfl, rfl⟩ := h
  unfold BackingClient.removeUserBacking BackingRun.removeUserBacking
  by_cases hid : id = 0
  · simp only [if_pos hid]
    exact ⟨rfl, rfl, rfl⟩
  simp only [if_neg hid]
  cases (r.client client).find? id with
  | none => exact ⟨rfl, rfl, rfl⟩
  | some b =>
      obtain ⟨k, desc⟩ := b
      cases desc with
      | none => exact ⟨rfl, (BackingRun.client_setTable_self ..).symm, rfl⟩
      | some d => exact ⟨rfl, (BackingRun.client_setTable_self ..).symm, rfl⟩

theorem Follows.detachBackingUser (h : c.Follows r client) (e : Env) (id : Nat) :
    Agree client (c.detachBackingUser e id) (r.detachBackingUser e client id) := by
  have hsent : c.Follows (r.send e (.resourceDetachBacking id)).2 client := ⟨h.1, h.2, h.3⟩
  unfold BackingClient.detachBackingUser
  rw [h.device, if_neg (by decide)]
  exact ⟨rfl, hsent.removeUserBacking id⟩

theorem Follows.resourceUnref (h : c.Follows r client) (e : Env) (id : Nat) :
    Agree client (c.resourceUnref e id) (r.resourceUnref e client id) := by
  unfold BackingClient.resourceUnref BackingRun.resourceUnref
  rw [h.device, if_neg (by decide)]
  by_cases hid : id = 0
  · rw [if_pos hid, if_pos hid]
    exact ⟨rfl, h⟩
  rw [if_neg hid, if_neg hid, h.backings]
  dsimp only
  by_cases hfound : ((r.client client).findUserBacking id).isSome = true
  · obtain ⟨hdevice, hbackings, hnext⟩ := h.removeUserBacking id
    rw [if_pos hfound, if_pos hfound]
    exact ⟨rfl, hdevice, hbackings, hnext⟩
  · rw [if_neg hfound, if_neg hfound]
    exact ⟨rfl, h.1, h.2, h.3⟩

theorem Follows.clientClose (h : c.Follows r client) :
    c.clientClose.Follows (r.clientClose client) client := by
  obtain ⟨hdevice, hnext⟩ := foldl_giveUp_rest c.backings.serials c
  have hempty : (r.clientClose client).client client = .empty := Function.update_self ..
  exact ⟨hdevice.trans h.device, hempty.symm, hnext.trans h.nextSerial⟩

end Follows

/-! ## Whole runs -/

/-- **One step.** -/
theorem Counted.step (h : s.Counted) {call : ClientCall} {t : BackingClient}
    (hstep : s.step call = some t) : t.Counted := by
  cases call with
  | start found =>
      cases hstep
      exact h.of_same rfl rfl rfl (Nat.le_refl _)
  | stop =>
      cases hstep
      exact h.of_same rfl rfl rfl (Nat.le_refl _)
  | attachBackingUser e client id addr len =>
      cases hstep
      exact h.attachBackingUser e client id addr len
  | detachBackingUser e id =>
      cases hstep
      unfold detachBackingUser
      split
      · exact h
      · exact h.removeUserBacking id
  | resourceUnref e id =>
      cases hstep
      unfold resourceUnref
      split
      · exact h
      split
      · exact h
      dsimp only
      split
      · exact h.removeUserBacking id
      · exact h
  | removeAllUserBackings =>
      cases hstep
      exact h.removeAllUserBackings
  | clientClose =>
      cases hstep
      exact h.removeAllUserBackings
  | free =>
      cases hstep
      exact h.removeAllUserBackings

theorem Counted.tidy (h : s.Counted) : s.Tidy where
  distinct := by
    rw [List.nodup_iff_count_le_one]
    intro id
    by_cases hid : id = 0
    · rw [List.count_eq_zero.mpr (by simp [hid])]
      exact Nat.zero_le _
    · rw [List.count_filter (by simpa using hid)]
      have honce := h.once id
      unfold SlotTable.mult at honce
      rw [if_neg hid] at honce
      rw [List.count_eq_countP, List.countP_map]
      refine Nat.le_trans (Nat.le_of_eq (List.countP_congr fun b _ => ?_)) honce
      simp
  paired := h.paired
  stored := List.nodup_iff_count_le_one.mpr h.single
  prepared serial := by
    rw [h.prepared, List.Nodup.count (List.nodup_iff_count_le_one.mpr h.single)]
    split
    · rfl
    · rfl
  retained serial := by
    rw [h.retained, List.Nodup.count (List.nodup_iff_count_le_one.mpr h.single)]
    split
    · rfl
    · rfl

/-- **The table and the descriptors** agree all along every run. -/
theorem always_tidy (calls : List ClientCall) : machine.Always Tidy init calls := by
  have hcounted : machine.Always Counted init calls :=
    machine.always_of_along (fun _ _ _ h _ hstep => h.step hstep) counted_init
      (machine.along_true init calls)
  exact hcounted.imp machine fun _ h => h.tidy

end BackingClient
end VMQemuVGA
