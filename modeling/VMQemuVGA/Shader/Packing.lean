import VMQemuVGA.Lib.NextFit
import VMQemuVGA.Shader.Compilation

/-! # Uniform buffers

`linkProgram` puts the uniforms of a program into buffers of 64 KiB, in their order. When 16
buffers have been closed no further one is opened, and the rest goes where the open one has
got to. The limits are compared with counters that have stopped at the limits. -/

namespace VMQemuVGA

/-! ## The loop -/

/-- `uniform_buffer_count`, `uniform_buffer_total_size` and `current_buffer_size`. -/
structure BufferPacking where
  count : Nat
  total : Nat
  current : Nat
  deriving DecidableEq, Repr

/-- A uniform, the number of the buffer that was open for it, and its offset. -/
structure PlacedUniform where
  uniform : ShaderUniform
  buffer : Nat
  offset : Nat
  deriving DecidableEq, Repr

/-- The buffer is closed if the uniform does not fit and there may be another one. -/
def BufferPacking.close (p : BufferPacking) (size : Nat) : BufferPacking :=
  if 65536 < (p.current + size) % u32 ∧ p.count < 16 then
    ⟨p.count + 1, (p.total + p.current) % u32, 0⟩
  else p

/-- One turn. The offset is `current_buffer_size - aligned_size` after the addition. -/
def BufferPacking.add (p : BufferPacking) (u : ShaderUniform) : BufferPacking × PlacedUniform :=
  let p' := p.close u.alignedSize
  ({ p' with current := (p'.current + u.alignedSize) % u32 }, ⟨u, p'.count, p'.current⟩)

/-- The loop. -/
def BufferPacking.addAll : BufferPacking → List ShaderUniform → BufferPacking × List PlacedUniform
  | p, [] => (p, [])
  | p, u :: us =>
      let (p', placed) := p.add u
      let (last, rest) := addAll p' us
      (last, placed :: rest)

/-- What is in the open buffer is counted at last. -/
def BufferPacking.finish (p : BufferPacking) : BufferPacking :=
  if 0 < p.current ∧ p.count < 16 then ⟨p.count + 1, (p.total + p.current) % u32, p.current⟩
  else p

/-! ## Resources and limits -/

/-- `gpu_resources`, as far as the limits look at it, and where the uniforms are. -/
structure GpuResources where
  buffers : Nat
  totalSize : Nat
  textureUnits : Nat
  attributes : Nat
  placed : List PlacedUniform
  deriving DecidableEq, Repr

/-- Samplers of two kinds take a texture unit. -/
def ShaderUniform.isSampler (u : ShaderUniform) : Bool := decide (u.type = 0x8B5E ∨ u.type = 0x8B60)

/-- Texture units stop at 32 and attributes at 16. -/
def allocateResources (uniforms : List ShaderUniform) (attributes : List ShaderAttribute) :
    GpuResources :=
  let (packed, placed) := BufferPacking.addAll ⟨0, 0, 0⟩ uniforms
  { buffers := packed.finish.count
    totalSize := packed.finish.total
    textureUnits := min 32 (uniforms.countP ShaderUniform.isSampler)
    attributes := min 16 attributes.length
    placed }

/-- `overall_limits_valid`. -/
def GpuResources.limitsValid (r : GpuResources) (uniformCount : Nat) : Bool :=
  (decide (uniformCount ≤ 1024) && decide (r.buffers ≤ 16)) &&
    (decide (r.attributes ≤ 16) && decide (r.attributes * 4 ≤ 128)) &&
    decide (r.textureUnits ≤ 32)

/-- `uniform->offset` is overwritten. -/
def GpuResources.uniforms (r : GpuResources) : List ShaderUniform :=
  r.placed.map fun p => { p.uniform with offset := p.offset }

/-! ## What is right -/

/-- The size, rounded up. -/
def ShaderUniform.aligned (u : ShaderUniform) : Nat := (u.bytes + 15) / 16 * 16

/-- Two uniforms of one buffer have no byte in common. -/
def PlacedUniform.Apart (p q : PlacedUniform) : Prop :=
  p.buffer = q.buffer →
    p.offset + p.uniform.bytes ≤ q.offset ∨ q.offset + q.uniform.bytes ≤ p.offset

/-- Every uniform is in one of at most 16 buffers, aligned, inside and apart from the others;
the total is right; and no declared limit is exceeded. -/
structure GpuResources.Right (r : GpuResources) (uniforms : List ShaderUniform)
    (attributes : List ShaderAttribute) : Prop where
  all : r.placed.map PlacedUniform.uniform = uniforms
  buffer : ∀ p ∈ r.placed, p.buffer < 16
  aligned : ∀ p ∈ r.placed, 16 ∣ p.offset
  inside : ∀ p ∈ r.placed, p.offset + p.uniform.bytes ≤ 65536
  apart : r.placed.Pairwise PlacedUniform.Apart
  total : r.totalSize = (uniforms.map ShaderUniform.aligned).sum
  buffers : r.buffers ≤ 16
  attributes : attributes.length ≤ 16
  samplers : uniforms.countP ShaderUniform.isSampler ≤ 32

/-- No uniform is larger than a buffer, in the order of the list 16 buffers are enough, and
there are no more attributes and samplers than declared. -/
structure FitsLimits (uniforms : List ShaderUniform) (attributes : List ShaderAttribute) :
    Prop where
  size : ∀ u ∈ uniforms, u.bytes ≤ 65536
  buffers : (NextFit.last 65536 (0, 0) (uniforms.map ShaderUniform.aligned)).1 < 16
  attributes : attributes.length ≤ 16
  samplers : uniforms.countP ShaderUniform.isSampler ≤ 32

/-! ## The loop against the packing it stands for -/

theorem ShaderUniform.aligned_spec {u : ShaderUniform} (h : u.bytes ≤ 65536) :
    u.alignedSize = u.aligned ∧ u.bytes ≤ u.aligned ∧ u.aligned ≤ 65536 := by
  unfold ShaderUniform.alignedSize ShaderUniform.aligned
  rw [Nat.mod_eq_of_lt (by rw [u32_eq]; omega), Nat.mod_eq_of_lt (by rw [u32_eq]; omega)]
  omega

namespace BufferPacking
variable {p : BufferPacking} {u : ShaderUniform} {us : List ShaderUniform}

/-- No closed buffer holds more than a buffer does. -/
structure Sound (p : BufferPacking) : Prop where
  count : p.count < 16
  current : p.current ≤ 65536
  total : p.total ≤ p.count * 65536

theorem sound_zero : Sound ⟨0, 0, 0⟩ := ⟨by decide, by decide, by decide⟩

/-- One turn places a uniform as it should, while there are buffers. -/
theorem add_spec (hp : p.Sound) (hu : u.bytes ≤ 65536)
    (hroom : (NextFit.place 65536 u.aligned (p.count, p.current)).1 < 16) :
    ((p.add u).2.buffer, (p.add u).2.offset) =
        NextFit.place 65536 u.aligned (p.count, p.current) ∧
      ((p.add u).1.count, (p.add u).1.current) =
        NextFit.fill u.aligned (NextFit.place 65536 u.aligned (p.count, p.current)) ∧
      (p.add u).1.total + (p.add u).1.current = p.total + p.current + u.aligned ∧
      (p.add u).1.Sound := by
  obtain ⟨hsize, -, hle⟩ := ShaderUniform.aligned_spec hu
  obtain ⟨hcount, hcurrent, htotal⟩ := hp
  have hsum : (p.current + u.alignedSize) % u32 = p.current + u.aligned := by
    rw [hsize]
    exact Nat.mod_eq_of_lt (by rw [u32_eq]; omega)
  by_cases hfits : p.current + u.aligned ≤ 65536
  · have hclose : p.close u.alignedSize = p := if_neg (by rw [hsum]; omega)
    simp only [add, hclose, hsum, NextFit.place_of_le (s := (p.count, p.current)) hfits,
      NextFit.fill, true_and]
    exact ⟨by omega, hcount, hfits, htotal⟩
  · rw [NextFit.place_of_lt (s := (p.count, p.current)) (Nat.lt_of_not_le hfits)] at hroom ⊢
    have hclose : p.close u.alignedSize = ⟨p.count + 1, (p.total + p.current) % u32, 0⟩ :=
      if_pos (by rw [hsum]; omega)
    have hmod : (p.total + p.current) % u32 = p.total + p.current :=
      Nat.mod_eq_of_lt (by rw [u32_eq]; omega)
    have hzero : u.alignedSize % u32 = u.aligned := by
      rw [hsize]
      exact Nat.mod_eq_of_lt (by rw [u32_eq]; omega)
    simp only [add, hclose, hmod, NextFit.fill, Nat.zero_add, hzero, true_and]
    exact ⟨hroom, hle, by dsimp only; omega⟩

/-- **The loop is a next-fit packing as long as that needs 16 buffers at most.** -/
theorem addAll_spec (hp : p.Sound) (hus : ∀ u ∈ us, u.bytes ≤ 65536)
    (hroom : (NextFit.last 65536 (p.count, p.current) (us.map ShaderUniform.aligned)).1 < 16) :
    (p.addAll us).2 = (us.zip
        (NextFit.places 65536 (p.count, p.current) (us.map ShaderUniform.aligned))).map
          (fun q => ⟨q.1, q.2.1, q.2.2⟩) ∧
      (p.addAll us).1.total + (p.addAll us).1.current =
        p.total + p.current + (us.map ShaderUniform.aligned).sum ∧
      (p.addAll us).1.Sound := by
  induction us generalizing p with
  | nil => exact ⟨rfl, rfl, hp⟩
  | cons u us ih =>
      have hhead : (NextFit.place 65536 u.aligned (p.count, p.current)).1 < 16 :=
        Nat.lt_of_le_of_lt (NextFit.bin_le_last (List.mem_cons_self :
          _ ∈ NextFit.places _ _ ((u :: us).map ShaderUniform.aligned))) hroom
      obtain ⟨hplace, hfill, htotal, hsound⟩ :=
        add_spec hp (hus u List.mem_cons_self) hhead
      have hrest := ih hsound (fun v hv => hus v (List.mem_cons_of_mem u hv))
        (by rw [hfill]; exact hroom)
      rw [hfill, htotal] at hrest
      obtain ⟨hplaced, hsum, hlast⟩ := hrest
      refine ⟨?_, ?_, hlast⟩
      · have hcons : (p.addAll (u :: us)).2 = (p.add u).2 :: ((p.add u).1.addAll us).2 := rfl
        rw [hcons, hplaced, List.map_cons, NextFit.places, List.zip_cons_cons, List.map_cons,
          List.cons_eq_cons]
        exact ⟨by rw [← hplace]; rfl, rfl⟩
      · rw [List.map_cons, List.sum_cons, ← Nat.add_assoc]
        exact hsum

/-- With more uniforms than that, one of them is in no buffer that there may be. -/
theorem exists_beyond (hp : p.Sound) (hus : ∀ u ∈ us, u.bytes ≤ 65536)
    (hroom : 16 ≤ (NextFit.last 65536 (p.count, p.current) (us.map ShaderUniform.aligned)).1) :
    ∃ q ∈ (p.addAll us).2, 16 ≤ q.buffer := by
  induction us generalizing p with
  | nil => exact absurd hp.count (Nat.not_lt_of_le hroom)
  | cons u us ih =>
      by_cases hhead : (NextFit.place 65536 u.aligned (p.count, p.current)).1 < 16
      · obtain ⟨-, hfill, -, hsound⟩ := add_spec hp (hus u List.mem_cons_self) hhead
        obtain ⟨q, hq, hbuffer⟩ := ih hsound (fun v hv => hus v (List.mem_cons_of_mem u hv))
          (by rw [hfill]; exact hroom)
        exact ⟨q, List.mem_cons_of_mem _ hq, hbuffer⟩
      · refine ⟨(p.add u).2, List.mem_cons_self, ?_⟩
        obtain ⟨hsize, -, hle⟩ := ShaderUniform.aligned_spec (hus u List.mem_cons_self)
        obtain ⟨hcount, hcurrent, -⟩ := hp
        have hfull : ¬ p.current + u.aligned ≤ 65536 := by
          intro hfits
          rw [NextFit.place_of_le (s := (p.count, p.current)) hfits] at hhead
          exact hhead hcount
        rw [NextFit.place_of_lt (s := (p.count, p.current)) (Nat.lt_of_not_le hfull)] at hhead
        have hsum : (p.current + u.alignedSize) % u32 = p.current + u.aligned := by
          rw [hsize]
          exact Nat.mod_eq_of_lt (by rw [u32_eq]; omega)
        have hclose : p.close u.alignedSize = ⟨p.count + 1, (p.total + p.current) % u32, 0⟩ :=
          if_pos (by rw [hsum]; omega)
        simp only [add, hclose]
        omega

theorem map_uniform_addAll : (p.addAll us).2.map PlacedUniform.uniform = us := by
  induction us generalizing p with
  | nil => rfl
  | cons u us ih =>
      rw [addAll, List.map_cons, ih]
      rfl

end BufferPacking

namespace BufferPacking

theorem count_add_le {p : BufferPacking} (h : p.count ≤ 16) (u : ShaderUniform) :
    (p.add u).1.count ≤ 16 := by
  simp only [add, close]
  split
  next hclose => exact hclose.2
  next => exact h

theorem count_addAll_le {p : BufferPacking} (h : p.count ≤ 16) (us : List ShaderUniform) :
    (p.addAll us).1.count ≤ 16 := by
  induction us generalizing p with
  | nil => exact h
  | cons u us ih => exact ih (count_add_le h u)

end BufferPacking

/-- The counters have stopped at their limits: only the number of uniforms is checked. -/
theorem limitsValid_iff (us : List ShaderUniform) (as : List ShaderAttribute) (n : Nat) :
    (allocateResources us as).limitsValid n = true ↔ n ≤ 1024 := by
  have hcount := BufferPacking.count_addAll_le (p := ⟨0, 0, 0⟩) (by decide) us
  have hbuffers : (allocateResources us as).buffers ≤ 16 := by
    simp only [allocateResources, BufferPacking.finish]
    split
    next hopen => exact hopen.2
    next => exact hcount
  have hattributes : (allocateResources us as).attributes ≤ 16 := Nat.min_le_left _ _
  have hunits : (allocateResources us as).textureUnits ≤ 32 := Nat.min_le_left _ _
  simp only [GpuResources.limitsValid, Bool.and_eq_true, decide_eq_true_eq]
  omega

/-! ## Which programs fit -/

/-- Where the uniforms of a program that fits are. -/
theorem FitsLimits.placed_eq {us : List ShaderUniform} {as : List ShaderAttribute}
    (h : FitsLimits us as) :
    (allocateResources us as).placed =
      (us.zip (NextFit.places 65536 (0, 0) (us.map ShaderUniform.aligned))).map
        fun q => ⟨q.1, q.2.1, q.2.2⟩ :=
  (BufferPacking.addAll_spec BufferPacking.sound_zero h.size h.buffers).1

/-- The sizes behind a list of placements. -/
theorem mem_zip_aligned {us : List ShaderUniform} {ps : List (Nat × Nat)}
    {q : ShaderUniform × Nat × Nat} (h : q ∈ us.zip ps) :
    (q.1.aligned, q.2) ∈ (us.map ShaderUniform.aligned).zip ps := by
  rw [List.zip_map_left]
  exact List.mem_map.mpr ⟨q, h, rfl⟩

theorem FitsLimits.total_eq {us : List ShaderUniform} {as : List ShaderAttribute}
    (h : FitsLimits us as) :
    (allocateResources us as).totalSize = (us.map ShaderUniform.aligned).sum ∧
      (allocateResources us as).buffers ≤ 16 := by
  obtain ⟨-, hsum, hcount, hcurrent, htotal⟩ :=
    BufferPacking.addAll_spec BufferPacking.sound_zero h.size h.buffers
  rw [Nat.zero_add, Nat.zero_add] at hsum
  unfold allocateResources BufferPacking.finish
  dsimp only
  split
  next hopen =>
    rw [Nat.mod_eq_of_lt (by rw [u32_eq]; omega)]
    exact ⟨hsum, hcount⟩
  next hclosed =>
    have hempty : ((BufferPacking.addAll ⟨0, 0, 0⟩ us).1).current = 0 := by omega
    rw [hempty, Nat.add_zero] at hsum
    exact ⟨hsum, Nat.le_of_lt hcount⟩

theorem FitsLimits.right {us : List ShaderUniform} {as : List ShaderAttribute}
    (h : FitsLimits us as) : (allocateResources us as).Right us as where
  all := BufferPacking.map_uniform_addAll
  buffer := by
    rw [h.placed_eq]
    intro p hp
    obtain ⟨q, hq, rfl⟩ := List.mem_map.mp hp
    exact Nat.lt_of_le_of_lt (NextFit.bin_le_last (List.of_mem_zip hq).2) h.buffers
  aligned := by
    rw [h.placed_eq]
    intro p hp
    obtain ⟨q, hq, rfl⟩ := List.mem_map.mp hp
    refine NextFit.dvd_of_mem_places ?_ (Nat.dvd_zero 16) (List.of_mem_zip hq).2
    intro x hx
    obtain ⟨u, -, rfl⟩ := List.mem_map.mp hx
    exact Nat.dvd_mul_left 16 _
  inside := by
    rw [h.placed_eq]
    intro p hp
    obtain ⟨q, hq, rfl⟩ := List.mem_map.mp hp
    have hbytes := (ShaderUniform.aligned_spec (h.size q.1 (List.of_mem_zip hq).1)).2.1
    refine Nat.le_trans (Nat.add_le_add_left hbytes _)
      (NextFit.add_le_of_mem_zip (s := (0, 0)) ?_ (mem_zip_aligned hq))
    intro x hx
    obtain ⟨u, hu, rfl⟩ := List.mem_map.mp hx
    exact (ShaderUniform.aligned_spec (h.size u hu)).2.2
  apart := by
    have hpairs := NextFit.pairwise_places 65536 (0, 0) (us.map ShaderUniform.aligned)
    rw [List.zip_map_left, List.pairwise_map] at hpairs
    rw [h.placed_eq, List.pairwise_map]
    refine hpairs.imp_of_mem fun {a b} ha _ hab hbuffer => .inl ?_
    have hbytes := (ShaderUniform.aligned_spec (h.size a.1 (List.of_mem_zip ha).1)).2.1
    exact Nat.le_trans (Nat.add_le_add_left hbytes _) (hab hbuffer)
  total := h.total_eq.1
  buffers := h.total_eq.2
  attributes := h.attributes
  samplers := h.samplers

/-- **The allocation is right exactly for what fits the declared limits.** -/
theorem allocateResources_right_iff (us : List ShaderUniform) (as : List ShaderAttribute) :
    (allocateResources us as).Right us as ↔ FitsLimits us as := by
  refine ⟨fun h => ?_, FitsLimits.right⟩
  have hsize : ∀ u ∈ us, u.bytes ≤ 65536 := by
    intro u hu
    have hmem : u ∈ (allocateResources us as).placed.map PlacedUniform.uniform := by
      rw [h.all]
      exact hu
    obtain ⟨p, hp, rfl⟩ := List.mem_map.mp hmem
    exact Nat.le_trans (Nat.le_add_left _ _) (h.inside p hp)
  refine ⟨hsize, ?_, h.attributes, h.samplers⟩
  by_contra hroom
  obtain ⟨q, hq, hbuffer⟩ := BufferPacking.exists_beyond BufferPacking.sound_zero hsize
    (Nat.le_of_not_lt hroom)
  exact absurd (h.buffer q hq) (Nat.not_lt_of_le hbuffer)

end VMQemuVGA
