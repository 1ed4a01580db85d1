import VMQemuVGA.IOSurface.Layout

/-! # Locks on surfaces

A record counts the locks on its surface and does not say whose they are or what
they are for. Each run is kept with the locks that are outstanding: who holds
one, on which object, for writing or not, and the buffer it was handed. -/

namespace VMQemuVGA

structure SurfaceLock where
  client : Nat
  object : Nat
  write : Bool
  base : Nat
  deriving DecidableEq, Repr

/-- The locks on an object. -/
def SurfaceLock.count (a : Nat) (held : List SurfaceLock) : Nat :=
  held.countP fun l => l.object = a

/-- Locks are shared by readers, or there is one writer. -/
def SurfaceLock.Exclusive (held : List SurfaceLock) : Prop :=
  ∀ l ∈ held, l.write = true → SurfaceLock.count l.object held ≤ 1

/-- Nobody holds a lock for writing. -/
def SurfaceLock.Unwritten (a : Nat) (held : List SurfaceLock) : Prop :=
  ∀ l ∈ held, l.object = a → l.write = false

namespace SurfaceLock
variable {held : List SurfaceLock} {l : SurfaceLock} {a : Nat}

theorem count_cons_self : count l.object (l :: held) = count l.object held + 1 := by
  unfold count
  rw [List.countP_cons_of_pos (by simp)]

theorem count_cons_of_ne (h : l.object ≠ a) : count a (l :: held) = count a held := by
  unfold count
  rw [List.countP_cons_of_neg (by simpa using h)]

theorem count_pos (h : l ∈ held) : 0 < count l.object held :=
  List.countP_pos_iff.mpr ⟨l, h, by simp⟩

theorem count_perm {held' : List SurfaceLock} (h : held.Perm held') :
    count a held = count a held' := h.countP_eq _

/-- A reader may join where nobody writes, a writer where nobody is. -/
theorem Exclusive.cons (h : Exclusive held)
    (hl : if l.write then count l.object held = 0 else Unwritten l.object held) :
    Exclusive (l :: held) := by
  intro x hx hw
  rcases List.mem_cons.mp hx with rfl | hx
  · rw [if_pos hw] at hl
    exact Nat.le_of_eq (count_cons_self.trans (congrArg Nat.succ hl))
  · by_cases hobj : l.object = x.object
    · split at hl
      · rw [hobj] at hl
        have := count_pos hx
        omega
      · rw [hl x hx hobj.symm] at hw
        cases hw
    · rw [count_cons_of_ne hobj]
      exact h x hx hw

theorem Exclusive.erase (h : Exclusive held) : Exclusive (held.erase l) := by
  intro x hx hw
  have hle : count x.object (held.erase l) ≤ count x.object held :=
    (List.erase_sublist).countP_le
  exact Nat.le_trans hle (h x (List.mem_of_mem_erase hx) hw)

end SurfaceLock

/-! ## Operations on the records -/

namespace SurfaceStore
variable {s s' : SurfaceStore} {now id a : Nat} {held : List SurfaceLock}

/-- The counts are those of the outstanding locks, and every lock is on an object
that exists, with the buffer it was handed. -/
structure Guarded (s : SurfaceStore) (held : List SurfaceLock) : Prop where
  backed : s.Backed
  counted : ∀ a, s.live a = true → (s.records a).lockCount = SurfaceLock.count a held
  flagged : ∀ a, s.live a = true → ((s.records a).isLocked = true ↔ 0 < (s.records a).lockCount)
  there : ∀ l ∈ held, s.live l.object = true ∧ (s.records l.object).memory = some l.base
  exclusive : SurfaceLock.Exclusive held

theorem guarded_start : start.Guarded [] where
  backed := backed_start
  counted := fun _ h => (by cases h)
  flagged := fun _ h => (by cases h)
  there := fun _ h => (by cases h)
  exclusive := fun _ h => (by cases h)

/-- The locks say the same. -/
def SameLocks (s s' : SurfaceStore) : Prop :=
  ∀ a, (s'.records a).lockCount = (s.records a).lockCount ∧
    (s'.records a).isLocked = (s.records a).isLocked

theorem Guarded.same (h : s.Guarded held) (he : SameExtents s s') (hl : SameLocks s s') :
    s'.Guarded held where
  backed := h.backed.same he
  counted := by
    intro a ha
    rw [(hl a).1]
    exact h.counted a (he.live ▸ ha)
  flagged := by
    intro a ha
    rw [(hl a).1, (hl a).2]
    exact h.flagged a (he.live ▸ ha)
  there := by
    intro l hmem
    rw [he.live, he.memory]
    exact h.there l hmem
  exclusive := h.exclusive

/-- A lock is granted. -/
theorem Guarded.grant {l : SurfaceLock} (h : s.Guarded held) (hl : s.live l.object = true)
    (hb : (s.records l.object).baseAddress = some l.base)
    (hlt : (s.records l.object).lockCount + 1 < u32)
    (hex : if l.write then SurfaceLock.count l.object held = 0
      else SurfaceLock.Unwritten l.object held) :
    (s.setRecord l.object ((s.records l.object).lock now)).Guarded (l :: held) := by
  have he : SameExtents s (s.setRecord l.object ((s.records l.object).lock now)) :=
    sameExtents_setRecord rfl rfl rfl rfl
  constructor
  · exact h.backed.same he
  · intro a ha
    rw [he.live] at ha
    by_cases hobj : l.object = a
    · subst hobj
      rw [setRecord_records_self, SurfaceLock.count_cons_self, ← h.counted _ ha]
      exact inc32_eq_succ hlt
    · rw [setRecord_records_of_ne (Ne.symm hobj), SurfaceLock.count_cons_of_ne hobj]
      exact h.counted a ha
  · intro a ha
    rw [he.live] at ha
    by_cases hobj : a = l.object
    · subst hobj
      rw [setRecord_records_self]
      refine ⟨fun _ => ?_, fun _ => rfl⟩
      show 0 < inc32 (s.records l.object).lockCount
      rw [inc32_eq_succ hlt]
      exact Nat.succ_pos _
    · rw [setRecord_records_of_ne hobj]
      exact h.flagged a ha
  · intro x hx
    rw [he.live, he.memory]
    rcases List.mem_cons.mp hx with rfl | hx
    · obtain ⟨b, hm, hbase, -⟩ := h.backed.buffer _ hl
      rw [hb] at hbase
      exact ⟨hl, hm.trans hbase.symm⟩
    · exact h.there x hx
  · exact h.exclusive.cons hex

/-- A lock is given back. -/
theorem Guarded.release {l : SurfaceLock} (h : s.Guarded held) (hl : l ∈ held) :
    (s.setRecord l.object ((s.records l.object).unlock now)).Guarded (held.erase l) := by
  have he : SameExtents s (s.setRecord l.object ((s.records l.object).unlock now)) :=
    sameExtents_setRecord rfl rfl rfl rfl
  have hperm := List.perm_cons_erase hl
  constructor
  · exact h.backed.same he
  · intro a ha
    rw [he.live] at ha
    have hcount := h.counted a ha
    rw [SurfaceLock.count_perm hperm] at hcount
    by_cases hobj : l.object = a
    · subst hobj
      rw [SurfaceLock.count_cons_self] at hcount
      rw [setRecord_records_self]
      show (s.records l.object).lockCount - 1 = _
      omega
    · rw [SurfaceLock.count_cons_of_ne hobj] at hcount
      rw [setRecord_records_of_ne (Ne.symm hobj)]
      exact hcount
  · intro a ha
    rw [he.live] at ha
    have hflag := h.flagged a ha
    by_cases hobj : a = l.object
    · subst hobj
      have hpos : 0 < (s.records l.object).lockCount := by
        rw [h.counted _ ha]
        exact SurfaceLock.count_pos hl
      rw [setRecord_records_self]
      show (if (s.records l.object).lockCount - 1 = 0 then false
        else (s.records l.object).isLocked) = true ↔ 0 < (s.records l.object).lockCount - 1
      split
      · rename_i hzero
        rw [hzero]
        exact ⟨fun h => (by cases h), fun h => absurd h (Nat.lt_irrefl 0)⟩
      · exact ⟨fun _ => by omega, fun _ => hflag.mpr hpos⟩
    · rw [setRecord_records_of_ne hobj]
      exact hflag
  · intro x hx
    rw [he.live, he.memory]
    exact h.there x (List.mem_of_mem_erase hx)
  · exact h.exclusive.erase

/-- A new surface has no locks. -/
theorem Guarded.register {d : IOSurfaceDescriptor} {env : CreateEnv} {p : Parts} {pool : IdPool}
    (h : s.Guarded held) (hnew : s.live p.data = false) (hfree : s.buffers p.buffer = none)
    (hid : s.surfaceMap id = none) :
    ({ s with surfaceIds := pool }.register id d env p).Guarded held := by
  have hother : ∀ l ∈ held, l.object ≠ p.data := by
    intro l hl heq
    rw [← heq, (h.there l hl).1] at hnew
    cases hnew
  have hnone : SurfaceLock.count p.data held = 0 := by
    unfold SurfaceLock.count
    rw [List.countP_eq_zero]
    intro l hl hobj
    exact hother l hl (of_decide_eq_true hobj)
  have hself : ({ s with surfaceIds := pool }.register id d env p).records p.data = _ :=
    register_records_self
  constructor
  · exact h.backed.register hnew hfree
  · intro a ha
    rcases live_register ha with rfl | ⟨-, hl, hrec⟩
    · rw [hself, hnone]
      rfl
    · rw [hrec]
      exact h.counted a hl
  · intro a ha
    rcases live_register ha with rfl | ⟨-, hl, hrec⟩
    · rw [hself]
      exact ⟨fun h => (by cases h), fun h => (by cases h)⟩
    · rw [hrec]
      exact h.flagged a hl
  · intro l hl
    obtain ⟨hlive, hmem⟩ := h.there l hl
    have hrec : ({ s with surfaceIds := pool }.register id d env p).records l.object =
        s.records l.object := register_records_of_ne (hother l hl)
    rw [hrec, live_iff, hrec]
    refine ⟨(live_iff.mp hlive).imp (fun hin => ?_) fun hmapped => ?_, hmem⟩
    · unfold SurfaceStore.register
      dsimp only
      split
      · exact List.mem_append_left _ hin
      · exact hin
    · unfold SurfaceStore.register
      dsimp only
      split
      · rw [Function.update_of_ne]
        · exact hmapped
        · intro heq
          rw [heq, hid] at hmapped
          cases hmapped
      · exact hmapped
  · exact h.exclusive

/-- A surface that is destroyed has no locks. -/
theorem Guarded.remove {number : Bool} (h : s.Guarded held) (ha : s.surfaceMap id = some a)
    (hd : s.destroys a = true) : (s.remove number id a).Guarded held := by
  have hlive : s.live a = true :=
    live_iff.mpr (Or.inr (by rw [h.backed.keyed id a ha]; exact ha))
  have hother : ∀ l ∈ held, l.object ≠ a := by
    rintro l hl rfl
    have hpos := SurfaceLock.count_pos hl
    rw [← h.counted _ hlive] at hpos
    unfold destroys VMIOSurface.busy at hd
    simp only [Bool.and_eq_true, Bool.not_eq_true', Bool.or_eq_false_iff, decide_eq_false_iff_not]
      at hd
    exact hd.1.2 hpos
  constructor
  · exact h.backed.remove ha
  · intro b hb
    obtain ⟨-, hl, hrec⟩ := live_remove h.backed ha hb
    rw [hrec]
    exact h.counted b hl
  · intro b hb
    obtain ⟨-, hl, hrec⟩ := live_remove h.backed ha hb
    rw [hrec]
    exact h.flagged b hl
  · intro l hl
    obtain ⟨hlive', hmem⟩ := h.there l hl
    have hne := hother l hl
    have hrec : (s.remove number id a).records l.object = s.records l.object :=
      Function.update_of_ne hne ..
    rw [hrec, live_iff, hrec]
    refine ⟨(live_iff.mp hlive').imp (fun hin => ?_) fun hmapped => ?_, hmem⟩
    · exact (List.mem_erase_of_ne hne).mpr hin
    · show Function.update s.surfaceMap id none _ = _
      rw [Function.update_of_ne]
      · exact hmapped
      · intro heq
        rw [heq, ha] at hmapped
        exact hne (Option.some.inj hmapped).symm
  · exact h.exclusive

/-! ### The calls on locks -/

theorem lockSurface_cases (s : SurfaceStore) (now : Nat) (readOnly : Bool) (a : Nat) :
    (∃ r, s.lockSurface now readOnly a = (.error r, s)) ∨
    ∃ base, (s.records a).baseAddress = some base ∧
      ¬ ((s.records a).isLocked = true ∧ readOnly = false) ∧
      s.lockSurface now readOnly a = (.ok base, s.setRecord a ((s.records a).lock now)) := by
  unfold lockSurface
  split
  · rename_i base _ hbase
    split
    · exact Or.inl ⟨_, rfl⟩
    · rename_i hfree
      exact Or.inr ⟨base, hbase, hfree, rfl⟩
  · exact Or.inl ⟨_, rfl⟩

theorem lockSurfacePlane_cases (s : SurfaceStore) (now plane a : Nat) :
    (∃ r, s.lockSurfacePlane now plane a = (.error r, s)) ∨
    ∃ base, plane < (s.records a).descriptor.planeCount ∧
      (s.records a).baseAddress = some base ∧
      s.lockSurfacePlane now plane a = (.ok base, s.setRecord a ((s.records a).lock now)) := by
  unfold lockSurfacePlane
  split
  · exact Or.inl ⟨_, rfl⟩
  rename_i hplane
  split
  · rename_i base _ hbase
    exact Or.inr ⟨base, Nat.lt_of_not_le hplane, hbase, rfl⟩
  · exact Or.inl ⟨_, rfl⟩

theorem unlockSurface_cases (s : SurfaceStore) (now a : Nat) :
    (s.unlockSurface now a = (.notOpen, s)) ∨
    (0 < (s.records a).lockCount ∧
      s.unlockSurface now a = (.success, s.setRecord a ((s.records a).unlock now))) := by
  unfold unlockSurface
  split
  · exact Or.inl rfl
  · rename_i h
    exact Or.inr ⟨Nat.pos_of_ne_zero (not_or.mp h).2, rfl⟩

/-! ### Calls that leave the locks alone -/

theorem sameLocks_refl : SameLocks s s := fun _ => ⟨rfl, rfl⟩

theorem sameLocks_setRecord {v : VMIOSurface} (hc : v.lockCount = (s.records a).lockCount)
    (hf : v.isLocked = (s.records a).isLocked) : SameLocks s (s.setRecord a v) := by
  intro b
  by_cases hb : b = a
  · subst hb
    rw [setRecord_records_self]
    exact ⟨hc, hf⟩
  · rw [setRecord_records_of_ne hb]
    exact ⟨rfl, rfl⟩

theorem sameLocks_convertSurfaceFormat {source dest : Nat} {format : PixelFormat} :
    SameLocks s (s.convertSurfaceFormat now format source dest).2 := by
  unfold convertSurfaceFormat
  split
  · exact sameLocks_refl
  · exact sameLocks_setRecord rfl rfl

theorem sameLocks_evictUnusedSurfaces {limit : Nat} {enough : Bool} :
    SameLocks s (s.evictUnusedSurfaces now limit enough).2 := by
  unfold evictUnusedSurfaces
  split
  · exact sameLocks_refl
  split
  · exact sameLocks_refl
  · intro b
    dsimp only
    split <;> exact ⟨rfl, rfl⟩

theorem sameLocks_updateSurfaceDescriptor {inPlace : Bool} {d : IOSurfaceDescriptor}
    {buffer : Option Nat} (h : ∀ a ∈ s.updated inPlace id,
      VMIOSurface.newSize d = (s.records a).memorySize) :
    SameLocks s (s.updateSurfaceDescriptor inPlace id d buffer).2 := by
  unfold updateSurfaceDescriptor
  split
  · exact sameLocks_refl
  · rename_i a ha
    rw [if_pos (h a ha)]
    exact sameLocks_setRecord rfl rfl

/-- Without the end of `destroySurface` only a reference goes. -/
theorem sameLocks_destroySurface {number : Bool} (hd : s.destroys a = false) :
    SameLocks s (s.destroySurface number id a).2 := by
  unfold destroySurface
  unfold destroys at hd
  split
  · exact sameLocks_refl
  rename_i hb
  split
  · exact sameLocks_setRecord rfl rfl
  · rename_i hr
    rw [Bool.not_eq_true] at hb
    rw [hb, Bool.not_false, Bool.true_and, decide_eq_false_iff_not] at hd
    omega

end SurfaceStore

/-! ## Runs -/

/-- A call with the client that makes it; `write` says what a plane is locked for,
or which of the client's locks an unlock gives back. -/
structure LockEvent where
  call : ManagerCall
  client : Nat
  write : Bool

structure LockRun where
  manager : IOSurfaceManager
  held : List SurfaceLock

namespace LockRun

def start : LockRun := ⟨.start, []⟩

/-- The lock a client has or gets on an object. -/
def lockOn (r : LockRun) (client a : Nat) (write : Bool) : SurfaceLock :=
  ⟨client, a, write, ((r.manager.store.records a).baseAddress.getD 0)⟩

/-- A lock for which the call returned an address. -/
def granted (r : LockRun) (id client : Nat) (write : Bool) :
    Except IOReturn Nat → List SurfaceLock
  | .ok _ =>
      match r.manager.served id with
      | some a => r.lockOn client a write :: r.held
      | none => r.held
  | .error _ => r.held

def released (r : LockRun) (id client : Nat) (write : Bool) (result : IOReturn) :
    List SurfaceLock :=
  match r.manager.served id with
  | some a => if result = .success then r.held.erase (r.lockOn client a write) else r.held
  | none => r.held

/-- The outstanding locks after a call. -/
def heldAfter (r : LockRun) (e : LockEvent) : List SurfaceLock :=
  match e.call with
  | .lockSurface now id readOnly =>
      r.granted id e.client (!readOnly) (r.manager.lockSurface now id readOnly).1
  | .lockSurfacePlane now id plane =>
      r.granted id e.client e.write (r.manager.lockSurfacePlane now id plane).1
  | .unlockSurface now id =>
      r.released id e.client e.write (r.manager.unlockSurface now id).1
  | .unlockSurfacePlane now id plane =>
      r.released id e.client e.write (r.manager.unlockSurfacePlane now id plane).1
  | _ => r.held

def step (cfg : IOSurfaceConfig) (r : LockRun) (e : LockEvent) : Option LockRun :=
  (r.manager.step cfg e.call).map fun m => ⟨m, r.heldAfter e⟩

def machine (cfg : IOSurfaceConfig) : Machine LockRun LockEvent where
  init := start
  step := step cfg

/-- A writer is alone, the flag tells whether there are locks, and a locked
surface and its buffer are there. -/
structure Safe (r : LockRun) : Prop where
  exclusive : SurfaceLock.Exclusive r.held
  flagged : ∀ a, r.manager.store.live a = true →
    ((r.manager.store.records a).isLocked = true ↔ 0 < (r.manager.store.records a).lockCount)
  there : ∀ l ∈ r.held, r.manager.store.live l.object = true ∧
    r.manager.store.buffers l.base ≠ none
  tame : r.manager.wild = false

/-- A lock is asked for where it may be granted: the count does not come round, a
writer finds no lock, a reader no writer. -/
def MayLock (r : LockRun) (write : Bool) (a : Nat) : Prop :=
  (r.manager.store.records a).lockCount + 1 < u32 ∧
    if write then SurfaceLock.count a r.held = 0 else SurfaceLock.Unwritten a r.held

/-- Who gives a lock back holds it. -/
def MayUnlock (r : LockRun) (client : Nat) (write : Bool) (a : Nat) : Prop :=
  0 < (r.manager.store.records a).lockCount → r.lockOn client a write ∈ r.held

/-- The call is about a plane that the surface has. -/
def HasPlane (r : LockRun) (plane a : Nat) : Prop :=
  plane < 4 ∧ plane < (r.manager.store.records a).descriptor.planeCount

/-- What the code leaves to its callers. A new surface gets an id that is not in
use; a reader does not ask while somebody writes, nor anyone for a plane while he
would be in the way; who unlocks holds the lock. -/
def Asked (cfg : IOSurfaceConfig) (r : LockRun) (e : LockEvent) : Prop :=
  match e.call with
  | .createSurface d env =>
      r.manager.store.accepts cfg.yuv d env = true →
        r.manager.store.surfaceMap r.manager.store.nextId = none
  | .lockSurface _ id readOnly =>
      ∀ a ∈ r.manager.served id, readOnly = true → r.MayLock false a
  | .lockSurfacePlane _ id plane =>
      ∀ a ∈ r.manager.served id, r.HasPlane plane a → r.MayLock e.write a
  | .unlockSurface _ id => ∀ a ∈ r.manager.served id, r.MayUnlock e.client e.write a
  | .unlockSurfacePlane _ id plane =>
      ∀ a ∈ r.manager.served id, r.HasPlane plane a → r.MayUnlock e.client e.write a
  | _ => True

/-- In addition, the call uses no freed object and replaces no buffer. -/
def KeepsLocks (cfg : IOSurfaceConfig) (r : LockRun) (e : LockEvent) : Prop :=
  r.manager.Tame e.call ∧ r.manager.BuffersKept cfg e.call ∧ r.Asked cfg e

instance (held : List SurfaceLock) (a : Nat) : Decidable (SurfaceLock.Unwritten a held) :=
  inferInstanceAs (Decidable (∀ l ∈ held, l.object = a → l.write = false))

instance (r : LockRun) (write : Bool) (a : Nat) : Decidable (r.MayLock write a) :=
  inferInstanceAs (Decidable ((r.manager.store.records a).lockCount + 1 < u32 ∧
    if write then SurfaceLock.count a r.held = 0 else SurfaceLock.Unwritten a r.held))

instance (r : LockRun) (client : Nat) (write : Bool) (a : Nat) :
    Decidable (r.MayUnlock client write a) :=
  inferInstanceAs (Decidable (0 < (r.manager.store.records a).lockCount →
    r.lockOn client a write ∈ r.held))

instance (r : LockRun) (plane a : Nat) : Decidable (r.HasPlane plane a) :=
  inferInstanceAs (Decidable (plane < 4 ∧
    plane < (r.manager.store.records a).descriptor.planeCount))

instance (cfg : IOSurfaceConfig) (r : LockRun) : ∀ e, Decidable (r.Asked cfg e)
  | ⟨.createSurface d env, _, _⟩ =>
      inferInstanceAs (Decidable (r.manager.store.accepts cfg.yuv d env = true →
        r.manager.store.surfaceMap r.manager.store.nextId = none))
  | ⟨.lockSurface _ id readOnly, _, _⟩ =>
      inferInstanceAs (Decidable (∀ a ∈ r.manager.served id, readOnly = true → r.MayLock false a))
  | ⟨.lockSurfacePlane _ id plane, _, write⟩ =>
      inferInstanceAs (Decidable (∀ a ∈ r.manager.served id, r.HasPlane plane a →
        r.MayLock write a))
  | ⟨.unlockSurface _ id, client, write⟩ =>
      inferInstanceAs (Decidable (∀ a ∈ r.manager.served id, r.MayUnlock client write a))
  | ⟨.unlockSurfacePlane _ id plane, client, write⟩ =>
      inferInstanceAs (Decidable (∀ a ∈ r.manager.served id, r.HasPlane plane a →
        r.MayUnlock client write a))
  | ⟨.destroySurface .., _, _⟩ | ⟨.findSurface .., _, _⟩ | ⟨.getSurfaceDescriptor .., _, _⟩
  | ⟨.convertSurfaceFormat .., _, _⟩ | ⟨.updateSurfaceDescriptor .., _, _⟩
  | ⟨.evictUnusedSurfaces .., _, _⟩ | ⟨.compactSurfaceMemory .., _, _⟩
  | ⟨.registerClient .., _, _⟩ | ⟨.unregisterClient .., _, _⟩ | ⟨.shareSurface .., _, _⟩
  | ⟨.unshareSurface .., _, _⟩ | ⟨.canClientAccessSurface .., _, _⟩ => isTrue trivial

instance (cfg : IOSurfaceConfig) (r : LockRun) (e : LockEvent) : Decidable (r.KeepsLocks cfg e) :=
  inferInstanceAs (Decidable (r.manager.Tame e.call ∧ r.manager.BuffersKept cfg e.call ∧
    r.Asked cfg e))

/-! ### Steps -/

variable {cfg : IOSurfaceConfig} {r r' : LockRun} {now id client : Nat} {write : Bool}

theorem lockOn_base {a base : Nat}
    (hb : (r.manager.store.records a).baseAddress = some base) :
    (r.manager.store.records (r.lockOn client a write).object).baseAddress =
      some (r.lockOn client a write).base := by
  show (r.manager.store.records a).baseAddress =
    some ((r.manager.store.records a).baseAddress.getD 0)
  rw [hb]
  rfl

/-- A call that hands out an address where it grants a lock. -/
theorem guarded_granted {op : Nat → SurfaceStore → Except IOReturn Nat × SurfaceStore}
    (h : r.manager.store.Guarded r.held)
    (hop : ∀ a, r.manager.served id = some a → r.manager.store.live a = true →
      (∃ e, op a r.manager.store = (.error e, r.manager.store)) ∨
      ∃ base, (r.manager.store.records a).baseAddress = some base ∧ r.MayLock write a ∧
        op a r.manager.store = (.ok base,
          r.manager.store.setRecord a ((r.manager.store.records a).lock now))) :
    (r.manager.onSurface now id .error op).2.store.Guarded
      (r.granted id client write (r.manager.onSurface now id .error op).1) := by
  rcases IOSurfaceManager.onSurface_cases (rfl : r.manager.onSurface now id .error op = _) with
    ⟨-, hr⟩ | ⟨a, hs, hl, hr⟩ | ⟨a, -, -, hr⟩
  · rw [hr]
    exact h
  · rw [hr]
    rcases hop a hs hl with ⟨e, he⟩ | ⟨base, hbase, hmay, hok⟩
    · rw [he]
      exact h
    · rw [hok]
      unfold granted
      rw [hs]
      exact h.grant (l := r.lockOn client a write) hl (lockOn_base hbase) hmay.1 hmay.2
  · rw [hr]
    exact h

/-- A call that takes a lock back where it succeeds. -/
theorem guarded_released {op : Nat → SurfaceStore → IOReturn × SurfaceStore}
    (h : r.manager.store.Guarded r.held)
    (hop : ∀ a, r.manager.served id = some a →
      (∃ e, e ≠ .success ∧ op a r.manager.store = (e, r.manager.store)) ∨
      (r.lockOn client a write ∈ r.held ∧ op a r.manager.store = (.success,
        r.manager.store.setRecord a ((r.manager.store.records a).unlock now)))) :
    (r.manager.onSurface now id (fun e => e) op).2.store.Guarded
      (r.released id client write (r.manager.onSurface now id (fun e => e) op).1) := by
  rcases IOSurfaceManager.onSurface_cases
      (rfl : r.manager.onSurface now id (fun e => e) op = _) with
    ⟨hs, hr⟩ | ⟨a, hs, hl, hr⟩ | ⟨a, hs, -, hr⟩
  · rw [hr]
    unfold released
    rw [hs]
    exact h
  · rw [hr]
    unfold released
    rw [hs]
    rcases hop a hs with ⟨e, hne, he⟩ | ⟨hheld, hok⟩
    · rw [he]
      dsimp only
      rw [if_neg hne]
      exact h
    · rw [hok]
      exact h.release hheld
  · rw [hr]
    unfold released
    rw [hs]
    exact h

theorem mayLock_writer {a : Nat} (h : r.manager.store.Guarded r.held)
    (hl : r.manager.store.live a = true) (hf : (r.manager.store.records a).isLocked = false) :
    r.MayLock true a := by
  have hzero : (r.manager.store.records a).lockCount = 0 := by
    by_contra hne
    rw [(h.flagged a hl).mpr (Nat.pos_of_ne_zero hne)] at hf
    cases hf
  refine ⟨?_, ?_⟩
  · rw [hzero]
    decide
  · rw [if_pos rfl, ← h.counted a hl]
    exact hzero

/-- **One call**: the locks granted and given back are those the records count. -/
theorem guarded_step {e : LockEvent} (h : r.manager.store.Guarded r.held)
    (hB : r.manager.BuffersKept cfg e.call) (hA : r.Asked cfg e) (hs : r.step cfg e = some r') :
    r'.manager.store.Guarded r'.held := by
  obtain ⟨m', hm, rfl⟩ := Option.map_eq_some_iff.mp hs
  have he := (IOSurfaceManager.step_effect hm).store
  have hsame : m'.store = r.manager.store → m'.store.Guarded r.held := fun heq => heq ▸ h
  obtain ⟨c, client, write⟩ := e
  cases c with
  | createSurface d env =>
      have hp := (IOSurfaceManager.step_eq_some hm).1
      show m'.store.Guarded r.held
      rcases SurfaceStore.createSurface_cases r.manager.store cfg.yuv d env with
        ⟨x, hx⟩ | ⟨x, -, -, hx⟩ | ⟨p, href, hb, hx⟩
      · exact hsame (he.trans (congrArg Prod.snd hx :))
      · rw [show m'.store = _ from he, hx]
        exact h.same ⟨rfl, rfl, rfl, fun _ => rfl, fun _ => rfl, fun _ => rfl, fun _ => rfl⟩
          fun _ => ⟨rfl, rfl⟩
      · rw [show m'.store = _ from he, hx]
        obtain ⟨hdata, hbuffer, -⟩ := SurfaceStore.build_eq_ok hb
        exact h.register (hp.2 p.data hdata) (hp.1 p.buffer hbuffer)
          (hA (SurfaceStore.accepts_eq_true href hb))
  | destroySurface now id number =>
      show m'.store.Guarded r.held
      rcases he with heq | ⟨a, ha, -, heq⟩
      · exact hsame heq
      · rcases SurfaceStore.destroySurface_cases r.manager.store number id a with
          ⟨hd, hsteady⟩ | ⟨hd, hremove⟩
        · rw [heq]
          exact h.same hsteady.sameExtents (SurfaceStore.sameLocks_destroySurface hd)
        · rw [heq, hremove]
          exact h.remove (hB.symm.trans ha) hd
  | convertSurfaceFormat now now' source dest format =>
      show m'.store.Guarded r.held
      rcases he with heq | ⟨a, b, -, -, -, -, -, heq⟩
      · exact hsame heq
      · rw [heq]
        exact h.same SurfaceStore.sameExtents_convertSurfaceFormat
          SurfaceStore.sameLocks_convertSurfaceFormat
  | lockSurface now id readOnly =>
      obtain ⟨-, hafter⟩ := IOSurfaceManager.step_eq_some hm
      cases hafter
      refine guarded_granted h fun a ha hl => ?_
      rcases SurfaceStore.lockSurface_cases r.manager.store now readOnly a with
        ⟨x, hx⟩ | ⟨base, hbase, hfree, hx⟩
      · exact Or.inl ⟨x, hx⟩
      · refine Or.inr ⟨base, hbase, ?_, hx⟩
        cases readOnly with
        | true => exact hA a ha rfl
        | false =>
            refine mayLock_writer h hl ?_
            by_contra hlocked
            exact hfree ⟨Bool.not_eq_false _ ▸ hlocked, rfl⟩
  | unlockSurface now id =>
      obtain ⟨-, hafter⟩ := IOSurfaceManager.step_eq_some hm
      cases hafter
      refine guarded_released h fun a ha => ?_
      rcases SurfaceStore.unlockSurface_cases r.manager.store now a with hx | ⟨hpos, hx⟩
      · exact Or.inl ⟨_, by decide, hx⟩
      · exact Or.inr ⟨hA a ha hpos, hx⟩
  | lockSurfacePlane now id plane =>
      obtain ⟨-, hafter⟩ := IOSurfaceManager.step_eq_some hm
      cases hafter
      show SurfaceStore.Guarded (r.manager.lockSurfacePlane now id plane).2.store
        (r.granted id client write (r.manager.lockSurfacePlane now id plane).1)
      unfold IOSurfaceManager.lockSurfacePlane
      split
      · exact h
      rename_i hplane
      refine guarded_granted h fun a ha hl => ?_
      rcases SurfaceStore.lockSurfacePlane_cases r.manager.store now plane a with
        ⟨x, hx⟩ | ⟨base, hhas, hbase, hx⟩
      · exact Or.inl ⟨x, hx⟩
      · exact Or.inr ⟨base, hbase, hA a ha ⟨Nat.lt_of_not_le hplane, hhas⟩, hx⟩
  | unlockSurfacePlane now id plane =>
      obtain ⟨-, hafter⟩ := IOSurfaceManager.step_eq_some hm
      cases hafter
      show SurfaceStore.Guarded (r.manager.unlockSurfacePlane now id plane).2.store
        (r.released id client write (r.manager.unlockSurfacePlane now id plane).1)
      unfold IOSurfaceManager.unlockSurfacePlane
      split
      · unfold released
        split <;> exact h
      rename_i hplane
      refine guarded_released h fun a ha => ?_
      unfold SurfaceStore.unlockSurfacePlane
      split
      · exact Or.inl ⟨_, by decide, rfl⟩
      rename_i hhas
      rcases SurfaceStore.unlockSurface_cases r.manager.store now a with hx | ⟨hpos, hx⟩
      · exact Or.inl ⟨_, by decide, hx⟩
      · exact Or.inr ⟨hA a ha ⟨Nat.lt_of_not_le hplane, Nat.lt_of_not_le hhas⟩ hpos, hx⟩
  | updateSurfaceDescriptor id d buffer =>
      show m'.store.Guarded r.held
      rw [show m'.store = _ from he]
      exact h.same (SurfaceStore.sameExtents_updateSurfaceDescriptor hB)
        (SurfaceStore.sameLocks_updateSurfaceDescriptor hB)
  | evictUnusedSurfaces now limit enough =>
      show m'.store.Guarded r.held
      rw [show m'.store = _ from he]
      exact h.same SurfaceStore.sameExtents_evictUnusedSurfaces
        SurfaceStore.sameLocks_evictUnusedSurfaces
  | _ => exact hsame he

/-- **Locks exclude** in every run of which the callers keep to their part, and
what is locked stays where it is. -/
theorem locks_exclude (cfg : IOSurfaceConfig) (events : List LockEvent)
    (hC : (machine cfg).Along (KeepsLocks cfg) start events) :
    (machine cfg).Always Safe start events := by
  have hkept : (machine cfg).Always
      (fun r => r.manager.store.Guarded r.held ∧ r.manager.wild = false) start events := by
    refine (machine cfg).always_of_along (fun r e r' h hc hs => ?_)
      ⟨SurfaceStore.guarded_start, rfl⟩ hC
    obtain ⟨hg, hw⟩ := h
    obtain ⟨ht, hB, hA⟩ := hc
    refine ⟨guarded_step hg hB hA hs, ?_⟩
    obtain ⟨m', hm, rfl⟩ := Option.map_eq_some_iff.mp hs
    exact (IOSurfaceManager.step_wild ht hm).trans hw
  refine hkept.imp _ fun r ⟨hg, hw⟩ => ⟨hg.exclusive, hg.flagged, fun l hl => ?_, hw⟩
  obtain ⟨hlive, hmem⟩ := hg.there l hl
  refine ⟨hlive, ?_⟩
  obtain ⟨b, hm, -, hbuf⟩ := hg.backed.buffer _ hlive
  rw [hm] at hmem
  cases hmem
  rw [hbuf]
  exact Option.some_ne_none _

/-- A writer after two readers, and another client after the writer. -/
theorem locks_exclude_three :
    (machine ⟨true, true⟩).Always Safe start
      [⟨.createSurface (.plain .bgra32 4 4) (.granted 1 1 1), 0, false⟩,
        ⟨.lockSurface 2 1 true, 1, false⟩, ⟨.lockSurface 3 1 true, 2, false⟩,
        ⟨.lockSurface 4 1 false, 3, true⟩, ⟨.unlockSurface 5 1, 1, false⟩,
        ⟨.destroySurface 6 1 true, 1, false⟩, ⟨.unlockSurface 7 1, 2, false⟩,
        ⟨.lockSurface 8 1 false, 3, true⟩, ⟨.unlockSurface 9 1, 3, true⟩,
        ⟨.lockSurfacePlane 10 1 0, 1, true⟩, ⟨.unlockSurfacePlane 11 1 0, 1, true⟩] :=
  locks_exclude _ _ (by decide +kernel)

/-- A reader is let in beside a writer. -/
theorem locks_shared :
    ¬ ∀ (cfg : IOSurfaceConfig) (events : List LockEvent),
      (machine cfg).Always Safe start events := by
  intro h
  have hrun := h ⟨true, false⟩
    [⟨.createSurface (.plain .bgra32 4 4) (.granted 1 1 1), 0, false⟩,
      ⟨.lockSurface 2 1 false, 1, true⟩, ⟨.lockSurface 3 1 true, 2, false⟩]
  obtain ⟨r, hr, hshared⟩ := hrun.of_any _ (p := fun r : LockRun =>
    decide (∃ l ∈ r.held, l.write = true ∧ ¬ SurfaceLock.count l.object r.held ≤ 1))
    (by decide)
  obtain ⟨l, hl, hw, hmany⟩ := of_decide_eq_true hshared
  exact hmany (hr.exclusive l hl hw)

end LockRun

end VMQemuVGA
