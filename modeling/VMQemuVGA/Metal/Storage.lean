import Mathlib.Tactic.Ring
import VMQemuVGA.Lib.Bytes
import VMQemuVGA.Metal.Resources

/-! # The memory behind Metal's textures and buffers

How much memory `createTexture` asks for, and which of it `updateBuffer` writes. Both
count in words of 32 bits. -/

namespace VMQemuVGA

/-! ## Textures -/

namespace MetalBridge

/-- The capacity of the memory of a texture that has been created. -/
def textureMemory (device : Nat) (d : MetalTextureDescriptor) (e : StorageEnv) (stored : Bool)
    (m : MetalBridge) : Option Nat :=
  match (m.createTexture device (some d) e stored).1 with
  | .ok _ => some (textureSize d)
  | .error _ => none

end MetalBridge

/-- A dimension at a mip level. -/
def mipExtent (n level : Nat) : Nat := max (n / 2 ^ level) 1

/-- The bytes of `levels` levels, all slices or layers counted. Only the depth of a 3D
texture gets less. -/
def mipBytes (bytes : Nat) (is3D : Bool) (levels width height depth : Nat) : Nat :=
  ((List.range levels).map fun level =>
    mipExtent width level * mipExtent height level *
      (if is3D = true then mipExtent depth level else depth) * bytes).sum

namespace MetalTextureDescriptor

/-- What all the levels of a texture take. -/
def exactSize (d : MetalTextureDescriptor) : Nat :=
  mipBytes (MetalBridge.bytesPerPixel d.pixelFormat) (d.textureType = 2) (max d.mipmapLevelCount 1)
    d.width d.height d.depth

end MetalTextureDescriptor

variable {bytes levels width height depth n : Nat} {is3D : Bool} {d : MetalTextureDescriptor}

theorem mipExtent_zero (h : 0 < n) : mipExtent n 0 = n := by
  rw [mipExtent, Nat.pow_zero, Nat.div_one]
  exact Nat.max_eq_left h

/-- The next level of `n` is the level of what `n` is halved to. -/
theorem mipExtent_succ (n level : Nat) :
    mipExtent n (level + 1) = mipExtent (max (n / 2) 1) level := by
  unfold mipExtent
  rw [Nat.pow_succ, Nat.mul_comm, ← Nat.div_div_eq_div_mul]
  rcases Nat.eq_zero_or_pos (n / 2) with hz | hpos
  · rw [hz, Nat.zero_div, Nat.max_eq_right (Nat.zero_le 1),
      Nat.max_eq_right (Nat.div_le_self 1 _)]
  · rw [Nat.max_eq_left (a := n / 2) hpos]

theorem mipBytes_succ (hw : 0 < width) (hh : 0 < height) (hd : 0 < depth) :
    mipBytes bytes is3D (levels + 1) width height depth = width * height * depth * bytes +
      mipBytes bytes is3D levels (max (width / 2) 1) (max (height / 2) 1)
        (if is3D = true then max (depth / 2) 1 else depth) := by
  simp only [mipBytes, List.range_succ_eq_map, List.map_cons, List.map_map, List.sum_cons,
    mipExtent_zero hw, mipExtent_zero hh, mipExtent_zero hd, ite_self, Function.comp_def,
    mipExtent_succ]
  cases is3D
  · rfl
  · rfl

theorem half_pos (n : Nat) : 0 < max (n / 2) 1 :=
  Nat.lt_of_lt_of_le Nat.one_pos (Nat.le_max_right _ _)

/-- The sum is right, up to words, if the depth is right at all levels. -/
theorem levelsSize_eq (hw : 0 < width) (hh : 0 < height) (hd : 0 < depth)
    (h : is3D = true ∨ depth = 1) :
    MetalBridge.levelsSize bytes is3D levels width height depth =
      mipBytes bytes is3D levels width height depth % u32 := by
  induction levels generalizing width height depth with
  | zero => rfl
  | succ levels ih =>
      have hdepth : (if is3D = true then max (depth / 2) 1 else 1) =
          if is3D = true then max (depth / 2) 1 else depth := by
        rcases h with h | h
        · rw [if_pos h, if_pos h]
        · rw [h]
      have hpos : 0 < (if is3D = true then max (depth / 2) 1 else depth) := by
        split
        · exact half_pos depth
        · exact hd
      have hnext : is3D = true ∨ (if is3D = true then max (depth / 2) 1 else depth) = 1 := by
        rcases h with h | h
        · exact .inl h
        · right
          rw [h]
          split <;> rfl
      rw [MetalBridge.levelsSize, hdepth, ih (half_pos width) (half_pos height) hpos hnext,
        mipBytes_succ hw hh hd, Nat.add_mod_mod]

/-- Layers that stay are so many times one layer. -/
theorem mipBytes_layers (hw : 0 < width) (hh : 0 < height) (hd : 0 < depth) :
    mipBytes bytes false levels width height depth =
      depth * mipBytes bytes false levels width height 1 := by
  induction levels generalizing width height with
  | zero => rfl
  | succ levels ih =>
      have hrest := ih (half_pos width) (half_pos height)
      rw [mipBytes_succ hw hh hd, mipBytes_succ hw hh Nat.one_pos, if_neg Bool.false_ne_true,
        if_neg Bool.false_ne_true, hrest]
      ring

/-- Layers that are counted at the first level only leave the sum short. -/
theorem levelsSize_lt (hw : 0 < width) (hh : 0 < height) (hd : 1 < depth) (hb : 0 < bytes)
    (hl : 1 < levels) : MetalBridge.levelsSize bytes false levels width height depth <
      mipBytes bytes false levels width height depth := by
  obtain ⟨levels, rfl⟩ := Nat.exists_eq_add_of_lt hl
  have hw' := half_pos width
  have hh' := half_pos height
  rw [show 1 + levels + 1 = levels + 1 + 1 by omega]
  have hdepth : 0 < depth := Nat.zero_lt_of_lt hd
  have hlayer : 0 < mipBytes bytes false (levels + 1) (max (width / 2) 1)
      (max (height / 2) 1) 1 := by
    rw [mipBytes_succ hw' hh' Nat.one_pos, Nat.mul_one]
    exact Nat.add_pos_left (Nat.mul_pos (Nat.mul_pos hw' hh') hb) _
  calc MetalBridge.levelsSize bytes false (levels + 1 + 1) width height depth
      ≤ width * height * depth * bytes + MetalBridge.levelsSize bytes false (levels + 1)
          (max (width / 2) 1) (max (height / 2) 1) 1 := Nat.mod_le _ _
    _ ≤ width * height * depth * bytes + mipBytes bytes false (levels + 1)
          (max (width / 2) 1) (max (height / 2) 1) 1 := by
        rw [levelsSize_eq hw' hh' Nat.one_pos (.inr rfl)]
        exact Nat.add_le_add_left (Nat.mod_le _ _) _
    _ < width * height * depth * bytes + depth * mipBytes bytes false (levels + 1)
          (max (width / 2) 1) (max (height / 2) 1) 1 :=
        Nat.add_lt_add_left ((Nat.lt_mul_iff_one_lt_left hlayer).mpr hd) _
    _ = mipBytes bytes false (levels + 1 + 1) width height depth := by
        rw [mipBytes_succ hw hh hdepth, if_neg Bool.false_ne_true,
          mipBytes_layers hw' hh' hdepth]

theorem levelsSize_lt_u32 (bytes : Nat) (is3D : Bool) (levels width height depth : Nat) :
    MetalBridge.levelsSize bytes is3D levels width height depth < u32 := by
  cases levels with
  | zero => exact Nat.zero_lt_of_lt (Nat.lt_two_pow_self (n := 32))
  | succ levels => exact Nat.mod_lt _ (by decide)

theorem bytesPerPixel_pos (pixelFormat : Nat) : 0 < MetalBridge.bytesPerPixel pixelFormat := by
  unfold MetalBridge.bytesPerPixel
  split_ifs <;> decide

/-- What is asked for is enough exactly if it is a word, and there is one layer, or one
level, or depth that gets less. -/
theorem exactSize_le_iff (h : ¬ MetalBridge.textureRefused d) :
    d.exactSize ≤ MetalBridge.textureSize d ↔
      d.exactSize < u32 ∧ (d.textureType = 2 ∨ d.depth = 1 ∨ d.mipmapLevelCount ≤ 1) := by
  simp only [MetalBridge.textureRefused, not_or] at h
  have hw : 0 < d.width := Nat.pos_of_ne_zero h.1
  have hh : 0 < d.height := Nat.pos_of_ne_zero h.2.1
  have hd : 0 < d.depth := Nat.pos_of_ne_zero h.2.2.1
  unfold MetalTextureDescriptor.exactSize MetalBridge.textureSize
  constructor
  · intro hle
    refine ⟨Nat.lt_of_le_of_lt hle (levelsSize_lt_u32 ..), ?_⟩
    by_contra hnot
    simp only [not_or] at hnot
    rw [decide_eq_false hnot.1] at hle
    exact absurd hle (Nat.not_le_of_lt (levelsSize_lt hw hh (by omega)
      (bytesPerPixel_pos d.pixelFormat) (by omega)))
  · rintro ⟨hlt, hcases⟩
    by_cases hcounted : d.textureType = 2 ∨ d.depth = 1
    · rw [levelsSize_eq hw hh hd (hcounted.imp_left decide_eq_true), Nat.mod_eq_of_lt hlt]
    · have hone : max d.mipmapLevelCount 1 = 0 + 1 := by omega
      rw [hone] at hlt ⊢
      rw [mipBytes_succ hw hh hd] at hlt ⊢
      rw [MetalBridge.levelsSize]
      exact Nat.le_of_eq (Nat.mod_eq_of_lt hlt).symm

/-- A texture with memory has passed the checks. -/
theorem MetalBridge.of_textureMemory {device capacity : Nat} {e : StorageEnv} {stored : Bool}
    {m : MetalBridge} (h : m.textureMemory device d e stored = some capacity) :
    ¬ textureRefused d ∧ textureSize d = capacity := by
  unfold textureMemory at h
  split at h
  · next hret =>
    refine ⟨fun hrefused => ?_, Option.some.inj h⟩
    simp only [createTexture, if_pos hrefused] at hret
    split at hret
    · cases hret
    · cases hret
  · cases h

/-! ## Buffers -/

namespace MetalBridge

/-- `updateBuffer` with the bytes it moves, from the address `data` into the buffer at the
address `bytes`. -/
def updateBufferBytes (id : Nat) (data : Option Nat) (offset size : Nat) (bytes : Option Nat)
    (sync : Option SyncEnv) (m : MetalBridge) (r : Ram) : IOReturn × MetalBridge × Ram :=
  match data with
  | none => (.badArgument, m, r)
  | some src =>
      if size = 0 then (.badArgument, m, r)
      else
        match m.lookup .updateBuffer id with
        | none => (.notFound, m, r)
        | some o =>
            if offset ≥ o.capacity ∨ (offset + size) % u32 > o.capacity then (.badArgument, m, r)
            else
              match bytes with
              | none => (.noMemory, m, r)
              | some base =>
                  let r := r.bcopy .moving ⟨base, o.capacity⟩ ⟨src, size⟩ (base + offset) src size
                  match sync with
                  | none => (.success, m, r)
                  | some e => (.success, { m with memory := (m.memory.synchronize e id size).2 }, r)

/-- It is `updateBuffer`, as far as that goes. -/
theorem updateBufferBytes_eq (id : Nat) (data : Option Nat) (offset size : Nat)
    (bytes : Option Nat) (sync : Option SyncEnv) (m : MetalBridge) (r : Ram) :
    ((m.updateBufferBytes id data offset size bytes sync r).1,
      (m.updateBufferBytes id data offset size bytes sync r).2.1) =
        m.updateBuffer id data.isSome offset size bytes.isSome sync := by
  unfold updateBufferBytes updateBuffer
  cases data with
  | none => simp
  | some src =>
      by_cases hsize : size = 0
      · simp [hsize]
      cases m.lookup .updateBuffer id with
      | none => simp [hsize]
      | some o =>
          by_cases hrange : offset ≥ o.capacity ∨ (offset + size) % u32 > o.capacity
          · simp [hsize, hrange]
          · cases bytes with
            | none => simp [hsize, hrange]
            | some base => cases sync <;> simp [hsize, hrange]

/-- Capacities are words, as buffers are created with the length of a descriptor. -/
def Words (m : MetalBridge) : Prop := ∀ key o, m.resourceMap key = some o → o.capacity < u32

end MetalBridge

/-- A call of `updateBuffer`. -/
structure BufferUpdate where
  bridge : MetalBridge
  id : Nat
  data : Option Nat
  offset : Nat
  size : Nat
  bytes : Option Nat
  sync : Option SyncEnv
  words : bridge.Words

namespace BufferUpdate

def run (u : BufferUpdate) (r : Ram) : IOReturn × MetalBridge × Ram :=
  u.bridge.updateBufferBytes u.id u.data u.offset u.size u.bytes u.sync r

/-- The bytes in the range, and no others, are those of the data, and the range lies in
the buffer. -/
def Correct (u : BufferUpdate) : Prop :=
  ∀ r, (u.run r).1 = .success →
    ∃ o base src, u.bridge.lookup .updateBuffer u.id = some o ∧ u.bytes = some base ∧
      u.data = some src ∧ u.offset + u.size ≤ o.capacity ∧
        Writes (base + u.offset) u.size (fun i => r.bytes (src + i)) r (u.run r).2.2

/-- What the checks let through. -/
structure Accepted (u : BufferUpdate) (o : MetalObject) (base src : Nat) : Prop where
  data : u.data = some src
  size : u.size ≠ 0
  found : u.bridge.lookup .updateBuffer u.id = some o
  offset : u.offset < o.capacity
  range : (u.offset + u.size) % u32 ≤ o.capacity
  bytes : u.bytes = some base

variable {u : BufferUpdate} {o : MetalObject} {base src : Nat} {r : Ram}

theorem run_of_accepted (h : u.Accepted o base src) (r : Ram) :
    (u.run r).1 = .success ∧ (u.run r).2.2 = r.bcopy .moving ⟨base, o.capacity⟩ ⟨src, u.size⟩
      (base + u.offset) src u.size := by
  have hrange : ¬ (u.offset ≥ o.capacity ∨ (u.offset + u.size) % u32 > o.capacity) := by
    have hoffset := h.offset
    have hend := h.range
    omega
  unfold run MetalBridge.updateBufferBytes
  rw [h.data, h.bytes]
  dsimp only
  rw [if_neg h.size, h.found]
  dsimp only
  rw [if_neg hrange]
  cases u.sync with
  | none => exact ⟨rfl, rfl⟩
  | some e => exact ⟨rfl, rfl⟩

theorem accepted_of_run (h : (u.run r).1 = .success) : ∃ o base src, u.Accepted o base src := by
  unfold run MetalBridge.updateBufferBytes at h
  cases hdata : u.data with
  | none => simp [hdata] at h
  | some src =>
      simp only [hdata] at h
      split at h
      · cases h
      next hsize =>
      split at h
      · cases h
      next o hfound =>
      split at h
      · cases h
      next hrange =>
      split at h
      · cases h
      next base hbytes =>
      exact ⟨o, base, src, hdata, hsize, hfound, by omega, by omega, hbytes⟩

/-- A buffer that is found has a capacity of 32 bits. -/
theorem Accepted.capacity_lt (h : u.Accepted o base src) : o.capacity < u32 := by
  have hfound := h.found
  simp only [MetalBridge.lookup, MetalBridge.findResource, Option.filter_eq_some_iff] at hfound
  exact u.words _ o hfound.1

theorem correct_iff (u : BufferUpdate) : u.Correct ↔
    ∀ o base src, u.Accepted o base src → u.offset + u.size < u32 := by
  constructor
  · intro h o base src haccepted
    obtain ⟨o', base', src', hfound, -, -, hend, -⟩ :=
      h ⟨fun _ => 0, false⟩ (run_of_accepted haccepted _).1
    obtain rfl : o = o' := Option.some.inj (haccepted.found.symm.trans hfound)
    exact Nat.lt_of_le_of_lt hend haccepted.capacity_lt
  · intro h r hsuccess
    obtain ⟨o, base, src, haccepted⟩ := accepted_of_run hsuccess
    have hend := haccepted.range
    rw [Nat.mod_eq_of_lt (h o base src haccepted)] at hend
    refine ⟨o, base, src, haccepted.found, haccepted.bytes, haccepted.data, hend, ?_⟩
    rw [(run_of_accepted haccepted r).2]
    exact bcopy_moving_writes ..

end BufferUpdate

/-! ### Every bridge has capacities of 32 bits -/

/-- The length of a buffer is a `uint32_t`. -/
def MetalCall.Sized : MetalCall → Prop
  | .createBuffer _ length _ _ => ∀ n ∈ length, n < u32
  | _ => True

namespace MetalBridge

variable {m : MetalBridge} {kind : MetalKind} {capacity : Nat} {stored : Bool}
  {result : Except IOReturn Nat × MetalBridge}

theorem Words.of_map {m' : MetalBridge} (h : m.Words) (hmap : m'.resourceMap = m.resourceMap) :
    m'.Words := by
  intro key o ho
  rw [hmap] at ho
  exact h key o ho

theorem Words.created (h : m.Words) (hcapacity : capacity < u32)
    (hc : m.Creation kind capacity stored result) : result.2.Words := by
  cases hc with
  | failed hmap => exact h.of_map hmap
  | made hmap =>
      rename_i id m' _ _
      intro key o ho
      dsimp only at ho
      rw [hmap] at ho
      split at ho
      · by_cases hkey : key = keyOf kind id
        · rw [hkey, Function.update_self] at ho
          obtain rfl := Option.some.inj ho
          exact hcapacity
        · rw [Function.update_of_ne hkey] at ho
          exact h key o ho
      · exact h key o ho

end MetalBridge

theorem MetalRun.bridge_created (r : MetalRun) (kind : MetalKind) (capacity : Nat)
    (result : Except IOReturn Nat × MetalBridge) :
    (r.created kind capacity result).bridge = result.2 := by
  unfold MetalRun.created
  split <;> rfl

theorem MetalBridge.Words.step {r r' : MetalRun} {c : MetalCall} (h : r.bridge.Words)
    (hsized : c.Sized) (hs : r.step c = some r') : r'.bridge.Words := by
  cases c with
  | createCommandQueue device array stored =>
      cases hs
      rw [MetalRun.bridge_created]
      exact h.created (by decide) creation_createCommandQueue
  | createCommandBuffer queue e stored =>
      cases hs
      rw [MetalRun.bridge_created]
      exact h.created (by decide) creation_createCommandBuffer
  | createBuffer device length e stored =>
      cases hs
      rw [MetalRun.bridge_created]
      refine h.created ?_ creation_createBuffer
      cases length with
      | none => decide
      | some n => exact hsized n rfl
  | createTexture device descriptor e stored =>
      cases hs
      rw [MetalRun.bridge_created]
      exact h.created (by decide) creation_createTexture
  | createRenderPipelineState device descriptor program number stored =>
      cases hs
      rw [MetalRun.bridge_created]
      exact h.created (by decide) creation_createRenderPipelineState
  | updateBuffer id data offset size bytes sync =>
      cases hs
      refine h.of_map ?_
      unfold MetalBridge.updateBuffer
      repeat' split
      all_goals rfl
  | drawPrimitives | commitCommandBuffer =>
      cases hs
      exact h
  | otherProgram =>
      cases hs
      exact h.of_map rfl

/-- The bridges of all runs are those of buffer updates. -/
theorem MetalRun.always_words (n : Option Nat) (calls : List MetalCall)
    (hsized : (machine n).Along (fun _ c => c.Sized) (machine n).init calls) :
    (machine n).Always (fun r => r.bridge.Words) (machine n).init calls :=
  (machine n).always_of_along (fun _ _ _ h hC hs => h.step hC hs)
    (fun _ _ ho => by cases ho) hsized

/-! ## Both -/

/-- A texture to be created, or a buffer to be updated. -/
inductive StorageCall where
  | createTexture (d : MetalTextureDescriptor)
  | updateBuffer (u : BufferUpdate)

namespace StorageCall

/-- A texture that has been created has memory for all its levels, whatever the bridge and
its surroundings; an update that succeeds writes its range of the buffer. -/
def Correct : StorageCall → Prop
  | .createTexture d => ∀ device e stored (m : MetalBridge) capacity,
      m.textureMemory device d e stored = some capacity → d.exactSize ≤ capacity
  | .updateBuffer u => u.Correct

/-- All levels together take less than 4 GiB, and if there are several levels, several
layers are those of a 3D texture; a range that is accepted ends below 4 GiB. -/
def Safe : StorageCall → Prop
  | .createTexture d => ¬ MetalBridge.textureRefused d →
      d.exactSize < u32 ∧ (d.textureType = 2 ∨ d.depth = 1 ∨ d.mipmapLevelCount ≤ 1)
  | .updateBuffer u => ∀ o base src, u.Accepted o base src → u.offset + u.size < u32

/-- **Memory is enough, and ranges are kept, exactly where the sums are words and all
layers are counted.** -/
theorem storage_correct_iff (c : StorageCall) : c.Correct ↔ c.Safe := by
  cases c with
  | updateBuffer u => exact u.correct_iff
  | createTexture d =>
      constructor
      · intro h hrefused
        refine (exactSize_le_iff hrefused).mp
          (h 1 ⟨.success, fun _ => true, true⟩ true (.start none) _ ?_)
        simp [MetalBridge.textureMemory, MetalBridge.createTexture, hrefused]
      · intro h device e stored m capacity hcapacity
        obtain ⟨hrefused, rfl⟩ := MetalBridge.of_textureMemory hcapacity
        exact (exactSize_le_iff hrefused).mpr (h hrefused)

/-- A 2D array of RGBA8 with two layers of 256 by 256 and two levels. -/
def layers : MetalTextureDescriptor := ⟨70, 4, 256, 256, 2, 2⟩

/-- The second layer of the second level is not counted. -/
theorem layers_not_correct : ¬ (createTexture layers).Correct := by
  intro h
  have hle := h 1 ⟨.success, fun _ => true, true⟩ true (.start none)
    (MetalBridge.textureSize layers) (by decide)
  exact absurd hle (by decide)

end StorageCall

end VMQemuVGA
