import Mathlib.Data.List.Nodup
import VMQemuVGA.CommandBuffer.Pool

/-! # Who holds the command buffers

Callers allocate buffers, record into them and give them back, in any order, and the pool
is reset now and then. The pool does not know who holds what. -/

namespace VMQemuVGA

/-! ## Runs -/

/-- The pool, the buffers that are out, those of them that were out at a `resetPool`, and
the one the last step handed out. -/
structure BufferRun where
  pool : VMCommandBufferPool
  held : List Nat
  stray : List Nat
  handed : Option Nat

inductive BufferEvent where
  | allocate (outBuffer : Bool) (env : BufferEnv)
  | release (b : Nat) (memory : Bool)
  | resetPool
  | draw (b : Nat) (env : RecordEnv)
  | compute (b : Nat) (env : RecordEnv)
  | bind (b : Nat) (binding : ResourceBinding) (env : RecordEnv)

namespace BufferRun

/-- What a caller does with a buffer it holds. -/
def use (b : Nat) (f : VMCommandBuffer → VMCommandBuffer) (s : BufferRun) : Option BufferRun :=
  if b ∈ s.held then some { s with pool := s.pool.modifyBuffer b f, handed := none } else none

/-- Only a buffer that is out is given back. -/
def step (s : BufferRun) : BufferEvent → Option BufferRun
  | .allocate outBuffer env =>
      match s.pool.allocateCommandBuffer outBuffer env with
      | (.ok b, p) => some { s with pool := p, held := b :: s.held, handed := some b }
      | (.error _, p) => some { s with pool := p, handed := none }
  | .release b memory =>
      if b ∈ s.held then
        some { pool := (s.pool.releaseCommandBuffer (some b) memory).2, held := s.held.erase b,
               stray := s.stray.erase b, handed := none }
      else none
  | .resetPool => some { s with pool := s.pool.resetPool.2, stray := s.held, handed := none }
  | .draw b env => s.use b fun c => (c.addDrawCommand env).2
  | .compute b env => s.use b fun c => (c.addComputeCommand env).2
  | .bind b binding env => s.use b fun c => (c.addResourceBinding binding env).2

def machine (maxBuffers : Nat) : Machine BufferRun BufferEvent where
  init := ⟨.init maxBuffers, [], [], none⟩
  step := step

/-- The references: those of callers and those of the two arrays. -/
def holders (s : BufferRun) : List Nat :=
  s.held ++ (s.pool.active.objects ++ s.pool.available.objects)

/-- What a pool promises. -/
structure Sound (s : BufferRun) : Prop where
  /-- a buffer that is still there is in one array, or in none after a reset -/
  placed : ∀ b, 0 < s.pool.refs b →
    b ∈ s.pool.available.objects ∧ b ∉ s.pool.active.objects ∨
      b ∉ s.pool.available.objects ∧ b ∈ s.pool.active.objects ∨
      b ∉ s.pool.available.objects ∧ b ∉ s.pool.active.objects ∧ b ∈ s.stray
  once : s.pool.available.objects.Nodup ∧ s.pool.active.objects.Nodup
  /-- no buffer has two holders -/
  alone : s.held.Nodup
  bounded : s.held.length ≤ s.pool.maxBuffers
  balanced : RefCount.Balanced s.pool.refs s.holders
  /-- a buffer that is handed out has nothing in it -/
  empty : ∀ b ∈ s.handed, s.pool.buffers b = .fresh

/-- All buffers are out when one that was out at a reset is still missing: another one
is not asked for, or there is no memory for it. -/
def Patient (s : BufferRun) : BufferEvent → Prop
  | .allocate outBuffer env => outBuffer = true → env.buffer = true →
      s.held.length = s.pool.maxBuffers → s.stray = []
  | _ => True

instance (s : BufferRun) (e : BufferEvent) : Decidable (s.Patient e) := by
  cases e <;> unfold Patient <;> infer_instance

/-- As long as callers are patient, more is true. -/
structure Tidy (s : BufferRun) : Prop where
  balanced : RefCount.Balanced s.pool.refs s.holders
  unmade : ∀ b, s.pool.made ≤ b → s.pool.refs b = 0
  heldOnce : s.held.Nodup
  activeOnce : s.pool.active.objects.Nodup
  availableOnce : s.pool.available.objects.Nodup
  strayOnce : s.stray.Nodup
  apart : ∀ b ∈ s.held, b ∉ s.pool.available.objects
  held_iff : ∀ b, b ∈ s.held ↔ b ∈ s.pool.active.objects ∨ b ∈ s.stray
  lost : ∀ b ∈ s.stray, b ∉ s.pool.active.objects
  total : s.held.length + s.pool.available.objects.length ≤ s.pool.maxBuffers
  capacities : s.pool.maxBuffers ≤ s.pool.available.capacity ∧
    s.pool.maxBuffers ≤ s.pool.active.capacity
  recording : ∀ b, (s.pool.buffers b).state = .initial ∧ (s.pool.buffers b).maxCommands = 256
  back : ∀ b ∈ s.pool.available.objects, s.pool.buffers b = .fresh
  empty : ∀ b ∈ s.handed, s.pool.buffers b = .fresh

variable {s t : BufferRun} {p : VMCommandBufferPool} {b : Nat} {env : BufferEnv} {memory : Bool}

theorem Tidy.active_le (h : s.Tidy) : s.pool.active.objects.length ≤ s.held.length :=
  (List.subperm_of_subset h.activeOnce fun b hb => (h.held_iff b).mpr (.inl hb)).length_le

theorem Tidy.sound (h : s.Tidy) : s.Sound where
  placed := by
    intro b hb
    rw [h.balanced.pos_iff] at hb
    by_cases hheld : b ∈ s.held
    · have hav := h.apart b hheld
      by_cases hact : b ∈ s.pool.active.objects
      · exact .inr (.inl ⟨hav, hact⟩)
      · exact .inr (.inr ⟨hav, hact, ((h.held_iff b).mp hheld).resolve_left hact⟩)
    · have hact : b ∉ s.pool.active.objects := fun hact => hheld ((h.held_iff b).mpr (.inl hact))
      simp only [holders, List.mem_append, hheld, hact, false_or] at hb
      exact .inl ⟨hb, hact⟩
  once := ⟨h.availableOnce, h.activeOnce⟩
  alone := h.heldOnce
  bounded := Nat.le_trans (Nat.le_add_right _ _) h.total
  balanced := h.balanced
  empty := h.empty

/-! ## Allocating -/

/-- An array that has room takes what it is given. -/
theorem setActive_of_lt (hroom : p.active.objects.length < p.active.capacity) :
    p.setActive b memory =
      { p with
        active := { p.active with objects := p.active.objects ++ [b] }
        refs := RefCount.retain p.refs b } := by
  rw [VMCommandBufferPool.setActive, ObjectArray.setObject, if_pos hroom]
  rfl

theorem setAvailable_of_lt (hroom : p.available.objects.length < p.available.capacity) :
    p.setAvailable b memory =
      { p with
        available := { p.available with objects := p.available.objects ++ [b] }
        refs := RefCount.retain p.refs b } := by
  rw [VMCommandBufferPool.setAvailable, ObjectArray.setObject, if_pos hroom]
  rfl

/-- A buffer that is back goes out again. -/
theorem allocate_reuse {rest : List Nat} (hback : p.available.objects = b :: rest)
    (hroom : p.active.objects.length < p.active.capacity) :
    p.allocateCommandBuffer true env =
      (.ok b,
        { p with
          available := { p.available with objects := rest }
          active := { p.active with objects := p.active.objects ++ [b] }
          refs := RefCount.retain (RefCount.release (RefCount.retain p.refs b) b) b }) := by
  simp only [VMCommandBufferPool.allocateCommandBuffer, hback]
  rw [setActive_of_lt (p := (p.retain b).removeAvailable b) hroom]
  simp only [VMCommandBufferPool.removeAvailable, VMCommandBufferPool.retain,
    VMCommandBufferPool.release, hback, List.tail_cons]
  rfl

/-- A new one is made. -/
theorem allocate_new (hback : p.available.objects = [])
    (hlt : p.active.objects.length < p.maxBuffers) (hnew : env.buffer = true)
    (hroom : p.active.objects.length < p.active.capacity) :
    p.allocateCommandBuffer true env =
      (.ok p.made,
        { p with
          active := { p.active with objects := p.active.objects ++ [p.made] }
          buffers := Function.update p.buffers p.made .fresh
          refs := RefCount.retain (RefCount.retain p.refs p.made) p.made
          made := p.made + 1 }) := by
  simp only [VMCommandBufferPool.allocateCommandBuffer, hback, if_pos (And.intro hlt hnew)]
  rw [setActive_of_lt (p := p.withAccelerator) hroom]
  rfl

theorem allocate_none (hback : p.available.objects = [])
    (h : ¬ (p.active.objects.length < p.maxBuffers ∧ env.buffer = true)) :
    p.allocateCommandBuffer true env = (.error .noSpace, p) := by
  simp only [VMCommandBufferPool.allocateCommandBuffer, hback, if_neg h]
  rfl

/-! A buffer that is not out goes to a caller and into the array of active ones. -/

theorem Tidy.not_active (h : s.Tidy) (hheld : b ∉ s.held) : b ∉ s.pool.active.objects :=
  fun hin => hheld ((h.held_iff b).mpr (.inl hin))

theorem Tidy.activeOnce_append (h : s.Tidy) (hheld : b ∉ s.held) :
    (s.pool.active.objects ++ [b]).Nodup := by
  rw [← List.concat_eq_append]
  exact List.Nodup.concat (h.not_active hheld) h.activeOnce

theorem Tidy.held_iff_append (h : s.Tidy) (b x : Nat) :
    x ∈ b :: s.held ↔ x ∈ s.pool.active.objects ++ [b] ∨ x ∈ s.stray := by
  simp only [List.mem_cons, List.mem_append, List.not_mem_nil, or_false, h.held_iff x]
  tauto

theorem Tidy.lost_append (h : s.Tidy) (hheld : b ∉ s.held) :
    ∀ x ∈ s.stray, x ∉ s.pool.active.objects ++ [b] := by
  intro x hx hin
  rcases List.mem_append.mp hin with hin | hin
  · exact h.lost x hx hin
  · rw [List.mem_singleton.mp hin] at hx
    exact hheld ((h.held_iff _).mpr (.inr hx))

/-- A buffer that goes out again. -/
theorem Tidy.reuse {rest : List Nat} (h : s.Tidy)
    (hback : s.pool.available.objects = b :: rest) :
    Tidy { s with
      pool := { s.pool with
        available := { s.pool.available with objects := rest }
        active := { s.pool.active with objects := s.pool.active.objects ++ [b] }
        refs := RefCount.retain (RefCount.release (RefCount.retain s.pool.refs b) b) b }
      held := b :: s.held
      handed := some b } := by
  have hmem : b ∈ s.pool.available.objects := by rw [hback]; exact List.mem_cons_self
  have hheld : b ∉ s.held := fun hin => h.apart b hin hmem
  have honce := h.availableOnce
  rw [hback] at honce
  have hcounted : ∃ x, s.pool.refs b = x + 1 := ⟨_, (Nat.succ_pred_eq_of_pos
    (h.balanced.pos_iff.mpr (by simp [holders, hmem]))).symm⟩
  have hbalanced := h.balanced
  rw [holders, hback] at hbalanced
  constructor
  · -- retained by the caller, released by one array, retained by the other
    have hcaller := hbalanced.retain b
    have hmoved : (b :: (s.held ++ (s.pool.active.objects ++ b :: rest))).Perm
        (b :: (b :: s.held ++ (s.pool.active.objects ++ rest))) := by
      refine List.perm_iff_count.mpr fun x => ?_
      simp only [List.count_cons, List.count_append, List.cons_append]
      omega
    refine (RefCount.Balanced.retain (hcaller.perm hmoved).release b).perm ?_
    refine List.perm_iff_count.mpr fun x => ?_
    simp only [holders, List.count_cons, List.count_append, List.cons_append, List.count_nil]
    omega
  · intro x hx
    have hxb : x ≠ b := by
      rintro rfl
      obtain ⟨n, hn⟩ := hcounted
      rw [h.unmade x hx] at hn
      cases hn
    simp only [RefCount.retain, RefCount.release, Function.update_of_ne hxb]
    exact h.unmade x hx
  · exact List.nodup_cons.mpr ⟨hheld, h.heldOnce⟩
  · exact h.activeOnce_append hheld
  · exact honce.of_cons
  · exact h.strayOnce
  · intro x hx hin
    rcases List.mem_cons.mp hx with rfl | hx
    · exact (List.nodup_cons.mp honce).1 hin
    · exact h.apart x hx (by rw [hback]; exact List.mem_cons_of_mem b hin)
  · exact h.held_iff_append _
  · exact h.lost_append hheld
  · have htotal := h.total
    rw [hback] at htotal
    simp only [List.length_cons] at htotal ⊢
    omega
  · exact h.capacities
  · exact h.recording
  · intro x hx
    exact h.back x (by rw [hback]; exact List.mem_cons_of_mem b hx)
  · rintro x hx
    obtain rfl : b = x := Option.some.inj hx
    exact h.back b hmem

/-- A buffer that is made. -/
theorem Tidy.create (h : s.Tidy) (hback : s.pool.available.objects = [])
    (hlt : s.held.length < s.pool.maxBuffers) :
    Tidy { s with
      pool := { s.pool with
        active := { s.pool.active with objects := s.pool.active.objects ++ [s.pool.made] }
        buffers := Function.update s.pool.buffers s.pool.made .fresh
        refs := RefCount.retain (RefCount.retain s.pool.refs s.pool.made) s.pool.made
        made := s.pool.made + 1 }
      held := s.pool.made :: s.held
      handed := some s.pool.made } := by
  have hnew : s.pool.made ∉ s.holders := by
    rw [← h.balanced.pos_iff, h.unmade s.pool.made (Nat.le_refl _)]
    exact Nat.lt_irrefl 0
  simp only [holders, List.mem_append, not_or] at hnew
  have hheld := hnew.1
  constructor
  · refine ((h.balanced.retain s.pool.made).retain s.pool.made).perm ?_
    refine List.perm_iff_count.mpr fun x => ?_
    simp only [holders, List.count_cons, List.count_append, List.cons_append, List.count_nil]
    omega
  · intro x hx
    have hne : x ≠ s.pool.made := Nat.ne_of_gt hx
    simp only [RefCount.retain, Function.update_of_ne hne]
    exact h.unmade x (Nat.le_of_lt hx)
  · exact List.nodup_cons.mpr ⟨hheld, h.heldOnce⟩
  · exact h.activeOnce_append hheld
  · exact h.availableOnce
  · exact h.strayOnce
  · intro x _ hin
    rw [hback] at hin
    cases hin
  · exact h.held_iff_append _
  · exact h.lost_append hheld
  · rw [hback]
    exact hlt
  · exact h.capacities
  · intro x
    dsimp only
    by_cases hx : x = s.pool.made
    · rw [hx, Function.update_self]
      exact ⟨rfl, rfl⟩
    · rw [Function.update_of_ne hx]
      exact h.recording x
  · intro x hx
    rw [hback] at hx
    cases hx
  · intro x hx
    obtain rfl : s.pool.made = x := Option.some.inj hx
    exact Function.update_self ..

/-- Nothing is handed out. -/
theorem Tidy.unhanded (h : s.Tidy) : Tidy { s with handed := none } where
  balanced := h.balanced
  unmade := h.unmade
  heldOnce := h.heldOnce
  activeOnce := h.activeOnce
  availableOnce := h.availableOnce
  strayOnce := h.strayOnce
  apart := h.apart
  held_iff := h.held_iff
  lost := h.lost
  total := h.total
  capacities := h.capacities
  recording := h.recording
  back := h.back
  empty := fun _ hb => by cases hb

/-! ## Giving back -/

theorem releaseCommandBuffer_eq (hroom : p.available.objects.length < p.available.capacity) :
    (p.releaseCommandBuffer (some b) memory).2 =
      { p with
        available := { p.available with objects := p.available.objects ++ [b] }
        active := { p.active with objects := p.active.objects.erase b }
        buffers := Function.update p.buffers b (p.buffers b).reset.2
        refs := RefCount.release (RefCount.retain
          (if b ∈ p.active.objects then RefCount.release p.refs b else p.refs) b) b } := by
  unfold VMCommandBufferPool.releaseCommandBuffer
  by_cases hin : b ∈ p.active.objects
  · simp only [if_pos hin]
    rw [setAvailable_of_lt (p := (p.removeActive b).modifyBuffer b _) hroom]
    rfl
  · simp only [if_neg hin]
    rw [setAvailable_of_lt (p := p.modifyBuffer b _) hroom, List.erase_of_not_mem hin]
    rfl

/-- How often a buffer is in a list that loses one. -/
theorem count_of_mem {l : List Nat} (h : b ∈ l) (x : Nat) :
    l.count x = (l.erase b).count x + if b == x then 1 else 0 := by
  rw [(List.perm_cons_erase h).count_eq x, List.count_cons]

theorem Tidy.giveBack (h : s.Tidy) (hheld : b ∈ s.held) :
    Tidy
      { pool := (s.pool.releaseCommandBuffer (some b) memory).2
        held := s.held.erase b, stray := s.stray.erase b, handed := none } := by
  have hlength : (s.held.erase b).length + 1 = s.held.length := by
    have hpos := List.length_pos_of_mem hheld
    rw [List.length_erase_of_mem hheld]
    omega
  have htotal := h.total
  rw [releaseCommandBuffer_eq (Nat.lt_of_lt_of_le (by omega) h.capacities.1)]
  obtain ⟨hstate, hmax⟩ := h.recording b
  have hreset : (s.pool.buffers b).reset.2 = .fresh := by
    rw [VMCommandBuffer.reset, if_neg (by rw [hstate]; decide), VMCommandBuffer.fresh, hmax]
  have hcount := count_of_mem hheld
  constructor
  · -- released by one array if it is there, retained by the other, released by the caller
    have hshorter : RefCount.Balanced
        (if b ∈ s.pool.active.objects then RefCount.release s.pool.refs b else s.pool.refs)
        (s.held ++ (s.pool.active.objects.erase b ++ s.pool.available.objects)) := by
      by_cases hin : b ∈ s.pool.active.objects
      · rw [if_pos hin]
        refine (h.balanced.perm (List.perm_iff_count.mpr fun x => ?_)).release
        simp only [holders, List.count_append, List.count_cons, count_of_mem hin x]
        omega
      · rw [if_neg hin, List.erase_of_not_mem hin]
        exact h.balanced
    refine ((hshorter.retain b).perm (List.perm_iff_count.mpr fun x => ?_)).release
    simp only [holders, List.count_append, List.count_cons, List.count_nil, hcount x]
    omega
  · intro x hx
    have hxb : x ≠ b := by
      rintro rfl
      have hpos := h.balanced.pos_iff.mpr (List.mem_append_left _ hheld)
      rw [h.unmade x hx] at hpos
      exact absurd hpos (Nat.lt_irrefl 0)
    simp only [RefCount.retain, RefCount.release, Function.update_of_ne hxb]
    split
    · rw [Function.update_of_ne hxb]
      exact h.unmade x hx
    · exact h.unmade x hx
  · exact h.heldOnce.erase b
  · exact h.activeOnce.erase b
  · rw [← List.concat_eq_append]
    exact List.Nodup.concat (h.apart b hheld) h.availableOnce
  · exact h.strayOnce.erase b
  · intro x hx hin
    obtain ⟨hne, hx⟩ := (List.Nodup.mem_erase_iff h.heldOnce).mp hx
    rcases List.mem_append.mp hin with hin | hin
    · exact h.apart x hx hin
    · exact hne (List.mem_singleton.mp hin)
  · intro x
    by_cases hne : x = b
    · subst hne
      refine iff_of_false h.heldOnce.not_mem_erase fun hin => ?_
      rcases hin with hin | hin
      · exact h.activeOnce.not_mem_erase hin
      · exact h.strayOnce.not_mem_erase hin
    · rw [List.mem_erase_of_ne hne, List.mem_erase_of_ne hne, List.mem_erase_of_ne hne]
      exact h.held_iff x
  · intro x hx hin
    exact h.lost x (List.mem_of_mem_erase hx) (List.mem_of_mem_erase hin)
  · simp only [List.length_append, List.length_singleton]
    omega
  · exact h.capacities
  · intro x
    dsimp only
    by_cases hx : x = b
    · rw [hx, Function.update_self, hreset]
      exact ⟨rfl, rfl⟩
    · rw [Function.update_of_ne hx]
      exact h.recording x
  · intro x hx
    dsimp only
    by_cases hxb : x = b
    · rw [hxb, Function.update_self, hreset]
    · rw [Function.update_of_ne hxb]
      rcases List.mem_append.mp hx with hx | hx
      · exact h.back x hx
      · exact absurd (List.mem_singleton.mp hx) hxb
  · intro x hx
    cases hx

/-! ## Resets and recordings -/

/-- The counts after a reset are those of the callers. -/
theorem Tidy.balanced_reset (h : s.Tidy) :
    RefCount.Balanced s.pool.resetPool.2.refs s.held := by
  have hmoved : s.holders.Perm
      (s.pool.available.objects ++ (s.pool.active.objects ++ s.held)) := by
    refine List.perm_iff_count.mpr fun x => ?_
    simp only [holders, List.count_append]
    omega
  exact (h.balanced.perm hmoved).flush.flush

theorem Tidy.reset (h : s.Tidy) :
    Tidy { s with pool := s.pool.resetPool.2, stray := s.held, handed := none } where
  balanced := by
    rw [holders]
    simp only [VMCommandBufferPool.resetPool, List.append_nil]
    exact h.balanced_reset
  unmade := by
    intro b hb
    have hnot : b ∉ s.held := by
      intro hin
      have hpos := h.balanced.pos_iff.mpr (List.mem_append_left _ hin)
      rw [h.unmade b hb] at hpos
      exact absurd hpos (Nat.lt_irrefl 0)
    rw [h.balanced_reset b]
    exact List.count_eq_zero.mpr hnot
  heldOnce := h.heldOnce
  activeOnce := List.nodup_nil
  availableOnce := List.nodup_nil
  strayOnce := h.heldOnce
  apart := fun b _ hin => by cases hin
  held_iff := fun b => by simp [VMCommandBufferPool.resetPool]
  lost := fun b _ hin => by cases hin
  total := Nat.le_trans (Nat.le_add_right _ _) h.total
  capacities := h.capacities
  recording := h.recording
  back := fun b hin => by cases hin
  empty := fun b hin => by cases hin

/-- What is recorded stays in the buffer. -/
theorem Tidy.modified {f : VMCommandBuffer → VMCommandBuffer} (h : s.Tidy) (hheld : b ∈ s.held)
    (hf : ∀ c, (f c).state = c.state ∧ (f c).maxCommands = c.maxCommands) :
    Tidy { s with pool := s.pool.modifyBuffer b f, handed := none } where
  balanced := h.balanced
  unmade := h.unmade
  heldOnce := h.heldOnce
  activeOnce := h.activeOnce
  availableOnce := h.availableOnce
  strayOnce := h.strayOnce
  apart := h.apart
  held_iff := h.held_iff
  lost := h.lost
  total := h.total
  capacities := h.capacities
  recording := by
    intro x
    dsimp only [VMCommandBufferPool.modifyBuffer]
    by_cases hx : x = b
    · subst hx
      rw [Function.update_self, (hf _).1, (hf _).2]
      exact h.recording x
    · rw [Function.update_of_ne hx]
      exact h.recording x
  back := by
    intro x hx
    have hne : x ≠ b := by
      rintro rfl
      exact h.apart x hheld hx
    dsimp only [VMCommandBufferPool.modifyBuffer]
    rw [Function.update_of_ne hne]
    exact h.back x hx
  empty := fun _ hx => by cases hx

theorem addCommand_keeps (type : GPUCommandType) (size : Nat) (env : RecordEnv)
    (c : VMCommandBuffer) : (c.addCommand type size env).2.state = c.state ∧
      (c.addCommand type size env).2.maxCommands = c.maxCommands := by
  unfold VMCommandBuffer.addCommand
  split_ifs <;> exact ⟨rfl, rfl⟩

theorem addResourceBinding_keeps (binding : ResourceBinding) (env : RecordEnv)
    (c : VMCommandBuffer) : (c.addResourceBinding binding env).2.state = c.state ∧
      (c.addResourceBinding binding env).2.maxCommands = c.maxCommands := by
  unfold VMCommandBuffer.addResourceBinding
  split_ifs <;> exact ⟨rfl, rfl⟩

theorem Tidy.use {f : VMCommandBuffer → VMCommandBuffer} (h : s.Tidy)
    (hf : ∀ c, (f c).state = c.state ∧ (f c).maxCommands = c.maxCommands)
    (hstep : s.use b f = some t) : t.Tidy := by
  unfold BufferRun.use at hstep
  split at hstep
  · next hheld =>
    obtain rfl := Option.some.inj hstep
    exact h.modified hheld hf
  · cases hstep

/-! ## Runs of patient callers -/

theorem Tidy.allocate {outBuffer : Bool} (h : s.Tidy)
    (hpatient : s.Patient (.allocate outBuffer env))
    (hstep : s.step (.allocate outBuffer env) = some t) : t.Tidy := by
  have hle := h.active_le
  have htotal := h.total
  cases outBuffer with
  | false =>
      obtain rfl := Option.some.inj hstep
      exact h.unhanded
  | true =>
      simp only [step] at hstep
      cases hback : s.pool.available.objects with
      | cons b rest =>
          rw [hback, List.length_cons] at htotal
          rw [allocate_reuse hback (Nat.lt_of_lt_of_le (by omega) h.capacities.2)] at hstep
          obtain rfl := Option.some.inj hstep
          exact h.reuse hback
      | nil =>
          by_cases hnew : s.pool.active.objects.length < s.pool.maxBuffers ∧ env.buffer = true
          · rw [allocate_new hback hnew.1 hnew.2 (Nat.lt_of_lt_of_le hnew.1 h.capacities.2)]
              at hstep
            obtain rfl := Option.some.inj hstep
            refine h.create hback (Nat.lt_of_le_of_ne (by omega) fun hfull => ?_)
            -- nothing is stray, so all that is out is active
            have hstray := hpatient rfl hnew.2 hfull
            have hsame : s.held.length ≤ s.pool.active.objects.length :=
              (List.subperm_of_subset h.heldOnce fun b hb => by
                have hcases := (h.held_iff b).mp hb
                rw [hstray] at hcases
                exact hcases.resolve_right List.not_mem_nil).length_le
            omega
          · rw [allocate_none hback hnew] at hstep
            obtain rfl := Option.some.inj hstep
            exact h.unhanded

theorem Tidy.step {e : BufferEvent} (h : s.Tidy) (hpatient : s.Patient e)
    (hstep : s.step e = some t) : t.Tidy := by
  cases e with
  | allocate outBuffer env => exact h.allocate hpatient hstep
  | release b memory =>
      simp only [BufferRun.step] at hstep
      split at hstep
      · next hheld =>
        obtain rfl := Option.some.inj hstep
        exact h.giveBack hheld
      · cases hstep
  | resetPool =>
      obtain rfl := Option.some.inj hstep
      exact h.reset
  | draw b env => exact h.use (addCommand_keeps .draw 16 env) hstep
  | compute b env => exact h.use (addCommand_keeps .dispatch 16 env) hstep
  | bind b binding env => exact h.use (addResourceBinding_keeps binding env) hstep

/-- An impatient caller gets one buffer too many. -/
theorem Tidy.patient {e : BufferEvent} (h : s.Tidy) (hstep : s.step e = some t)
    (hbounded : t.held.length ≤ t.pool.maxBuffers) : s.Patient e := by
  cases e with
  | allocate outBuffer env =>
      intro hout hnew hfull
      subst hout
      by_contra hstray
      have htotal := h.total
      have hback : s.pool.available.objects = [] := List.eq_nil_of_length_eq_zero (by omega)
      obtain ⟨b, hb⟩ := List.exists_mem_of_ne_nil _ hstray
      have hactive : (b :: s.pool.active.objects).length ≤ s.held.length := by
        refine (List.subperm_of_subset
          (List.nodup_cons.mpr ⟨h.lost b hb, h.activeOnce⟩) fun x hx => ?_).length_le
        rcases List.mem_cons.mp hx with rfl | hx
        · exact (h.held_iff x).mpr (.inr hb)
        · exact (h.held_iff x).mpr (.inl hx)
      rw [List.length_cons] at hactive
      have hlt : s.pool.active.objects.length < s.pool.maxBuffers := by omega
      simp only [BufferRun.step] at hstep
      rw [allocate_new hback hlt hnew (Nat.lt_of_lt_of_le hlt h.capacities.2)] at hstep
      obtain rfl := Option.some.inj hstep
      rw [List.length_cons] at hbounded
      dsimp only at hbounded
      omega
  | release b memory => trivial
  | resetPool => trivial
  | draw b env => trivial
  | compute b env => trivial
  | bind b binding env => trivial

theorem init_tidy (maxBuffers : Nat) : (machine maxBuffers).init.Tidy where
  balanced := RefCount.balanced_nil
  unmade := fun _ _ => rfl
  heldOnce := List.nodup_nil
  activeOnce := List.nodup_nil
  availableOnce := List.nodup_nil
  strayOnce := List.nodup_nil
  apart := fun _ hb => by cases hb
  held_iff := fun b => by simp [machine, VMCommandBufferPool.init, ObjectArray.withCapacity]
  lost := fun b hin => by cases hin
  total := Nat.zero_le _
  capacities := ⟨Nat.le_refl _, Nat.le_refl _⟩
  recording := fun _ => ⟨rfl, rfl⟩
  back := fun _ hb => by cases hb
  empty := fun _ hb => by cases hb

/-- **A pool keeps its promises exactly as long as its callers are patient.** -/
theorem buffers_sound_iff (maxBuffers : Nat) (evs : List BufferEvent) :
    (machine maxBuffers).Always Sound (machine maxBuffers).init evs ↔
      (machine maxBuffers).Along Patient (machine maxBuffers).init evs := by
  rw [← (machine maxBuffers).always_iff_along (J := fun _ => True) (P := Tidy) (C := Patient)
    (fun _ _ _ _ _ => trivial) (fun s e t _ h hstep =>
      ⟨fun ht => h.patient hstep ht.sound.bounded, fun hpatient => h.step hpatient hstep⟩)
    trivial (init_tidy maxBuffers)]
  constructor
  · intro h
    have hboth := h.strengthen (machine maxBuffers) (J := fun _ => True) (Q := Tidy)
      (fun _ _ _ _ _ => trivial)
      (fun s e t _ hs hstep ht => hs.step (hs.patient hstep ht.bounded) hstep) trivial
      (init_tidy maxBuffers)
    exact hboth.imp _ fun _ h => h.2
  · exact fun h => h.imp _ fun _ h => h.sound

/-- A buffer is out, the pool is reset, and a pool for one buffer hands out another. -/
theorem two_out_of_one : ¬ (machine 1).Always Sound (machine 1).init
    [.allocate true ⟨true, true⟩, .resetPool, .allocate true ⟨true, true⟩] := by
  intro h
  obtain ⟨t, ht, hout⟩ := h.of_any (machine 1)
    (p := fun s => decide (s.pool.maxBuffers < s.held.length)) (by decide)
  exact absurd ht.bounded (Nat.not_le_of_lt (of_decide_eq_true hout))

end BufferRun
end VMQemuVGA
