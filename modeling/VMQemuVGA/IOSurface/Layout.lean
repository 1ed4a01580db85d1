import VMQemuVGA.IOSurface.Effects

/-! # Surfaces and the memory behind them

The buffer of a surface is as large as the request says; its planes are laid out
from width, height and format; other operations change the format or the buffer.
Nobody compares the three. -/

namespace VMQemuVGA

namespace SurfaceStore
variable {s s' : SurfaceStore} {id a b : Nat} {v w : VMIOSurface}

/-! ## Buffers -/

/-- Every object has a buffer of its own, mapped where it says and as large as it
says. -/
structure Backed (s : SurfaceStore) : Prop where
  nodup : s.surfaces.Nodup
  keyed : ∀ id a, s.surfaceMap id = some a → (s.records a).surfaceId = id
  buffer : ∀ a, s.live a = true → ∃ b, (s.records a).memory = some b ∧
    (s.records a).baseAddress = some b ∧ s.buffers b = some (s.records a).memorySize
  apart : ∀ a b, s.live a = true → s.live b = true →
    (s.records a).memory = (s.records b).memory → a = b

theorem backed_start : start.Backed where
  nodup := List.nodup_nil
  keyed := fun _ _ h => (by cases h)
  buffer := fun _ h => (by cases h)
  apart := fun _ _ h => (by cases h)

theorem live_iff : s.live a = true ↔
    a ∈ s.surfaces ∨ s.surfaceMap (s.records a).surfaceId = some a := by
  unfold live
  rw [Bool.or_eq_true, decide_eq_true_eq, decide_eq_true_eq]

/-- The objects, their buffers and what the records say of both are the same. -/
structure SameExtents (s s' : SurfaceStore) : Prop where
  surfaces : s'.surfaces = s.surfaces
  surfaceMap : s'.surfaceMap = s.surfaceMap
  buffers : s'.buffers = s.buffers
  surfaceId : ∀ a, (s'.records a).surfaceId = (s.records a).surfaceId
  memory : ∀ a, (s'.records a).memory = (s.records a).memory
  baseAddress : ∀ a, (s'.records a).baseAddress = (s.records a).baseAddress
  memorySize : ∀ a, (s'.records a).memorySize = (s.records a).memorySize

theorem SameExtents.live (h : SameExtents s s') : s'.live a = s.live a := by
  unfold SurfaceStore.live
  rw [h.surfaces, h.surfaceMap, h.surfaceId]

theorem Backed.same (hb : s.Backed) (h : SameExtents s s') : s'.Backed where
  nodup := by
    rw [h.surfaces]
    exact hb.nodup
  keyed := by
    intro id a
    rw [h.surfaceMap, h.surfaceId]
    exact hb.keyed id a
  buffer := by
    intro a
    rw [h.live, h.memory, h.baseAddress, h.buffers, h.memorySize]
    exact hb.buffer a
  apart := by
    intro a b
    rw [h.live, h.live, h.memory, h.memory]
    exact hb.apart a b

theorem Steady.sameExtents (h : Steady s s') : SameExtents s s' where
  surfaces := h.surfaces
  surfaceMap := h.surfaceMap
  buffers := h.buffers
  surfaceId := fun a => (congrArg VMIOSurface.surfaceId (h.still a) :)
  memory := fun a => (congrArg VMIOSurface.memory (h.still a) :)
  baseAddress := fun a => (congrArg VMIOSurface.baseAddress (h.still a) :)
  memorySize := fun a => (congrArg VMIOSurface.memorySize (h.still a) :)

theorem sameExtents_setRecord (hid : v.surfaceId = (s.records a).surfaceId)
    (hm : v.memory = (s.records a).memory) (hb : v.baseAddress = (s.records a).baseAddress)
    (hn : v.memorySize = (s.records a).memorySize) : SameExtents s (s.setRecord a v) := by
  have hrec : ∀ c, (s.setRecord a v).records c = if c = a then v else s.records c :=
    fun c => Function.update_apply ..
  refine ⟨rfl, rfl, rfl, fun c => ?_, fun c => ?_, fun c => ?_, fun c => ?_⟩
  all_goals
    rw [hrec]
    split
    · rename_i hc
      subst hc
      assumption
    · rfl

theorem sameExtents_convertSurfaceFormat {now source dest : Nat} {format : PixelFormat} :
    SameExtents s (s.convertSurfaceFormat now format source dest).2 := by
  unfold convertSurfaceFormat
  split
  · exact (Steady.refl s).sameExtents
  · exact sameExtents_setRecord rfl rfl rfl rfl

theorem sameExtents_evictUnusedSurfaces {now limit : Nat} {enough : Bool} :
    SameExtents s (s.evictUnusedSurfaces now limit enough).2 := by
  unfold evictUnusedSurfaces
  split
  · exact (Steady.refl s).sameExtents
  split
  · exact (Steady.refl s).sameExtents
  · refine ⟨rfl, rfl, rfl, fun c => ?_, fun c => ?_, fun c => ?_, fun c => ?_⟩
    all_goals
      dsimp only
      split <;> rfl

theorem still_evictUnusedSurfaces {now limit : Nat} {enough : Bool} :
    ((s.evictUnusedSurfaces now limit enough).2.records a).still = (s.records a).still := by
  unfold evictUnusedSurfaces
  split
  · rfl
  split
  · rfl
  · dsimp only
    split <;> rfl

/-- An update that asks for the size there is keeps the buffer. -/
theorem sameExtents_updateSurfaceDescriptor {inPlace : Bool} {d : IOSurfaceDescriptor}
    {buffer : Option Nat} (h : ∀ a ∈ s.updated inPlace id,
      VMIOSurface.newSize d = (s.records a).memorySize) :
    SameExtents s (s.updateSurfaceDescriptor inPlace id d buffer).2 := by
  unfold updateSurfaceDescriptor
  split
  · exact (Steady.refl s).sameExtents
  · rename_i a ha
    rw [if_pos (h a ha)]
    exact sameExtents_setRecord rfl rfl rfl rfl

/-! ### Creation and destruction -/

variable {d : IOSurfaceDescriptor} {env : CreateEnv} {p : Parts} {pool : IdPool}

/-- The objects after a creation: the new one, and those there were. -/
theorem live_register
    (hl : ({ s with surfaceIds := pool }.register id d env p).live a = true) :
    a = p.data ∨ a ≠ p.data ∧ s.live a = true ∧
      ({ s with surfaceIds := pool }.register id d env p).records a = s.records a := by
  by_cases ha : a = p.data
  · exact Or.inl ha
  have hrec : ({ s with surfaceIds := pool }.register id d env p).records a = s.records a :=
    register_records_of_ne ha
  refine Or.inr ⟨ha, ?_, hrec⟩
  rw [live_iff, hrec] at hl
  rw [live_iff]
  rcases hl with hl | hl
  · left
    unfold SurfaceStore.register at hl
    dsimp only at hl
    split at hl
    · rcases List.mem_append.mp hl with hl | hl
      · exact hl
      · exact absurd (List.mem_singleton.mp hl) ha
    · exact hl
  · right
    unfold SurfaceStore.register at hl
    dsimp only at hl
    split at hl
    · rw [Function.update_apply] at hl
      split at hl
      · exact absurd (Option.some.inj hl).symm ha
      · exact hl
    · exact hl

theorem Backed.register (hb : s.Backed) (hnew : s.live p.data = false)
    (hfree : s.buffers p.buffer = none) :
    ({ s with surfaceIds := pool }.register id d env p).Backed := by
  have hold : ∀ a, ({ s with surfaceIds := pool }.register id d env p).live a = true →
      a = p.data ∨ a ≠ p.data ∧ s.live a = true ∧
        ({ s with surfaceIds := pool }.register id d env p).records a = s.records a :=
    fun a => live_register
  -- the buffers of the old objects are in use, so none of them is the new one
  have hother : ∀ a, s.live a = true → (s.records a).memory ≠ some p.buffer := by
    intro a ha hm
    obtain ⟨b, hmem, -, hbuf⟩ := hb.buffer a ha
    rw [hm] at hmem
    cases hmem
    rw [hfree] at hbuf
    cases hbuf
  have hself : ({ s with surfaceIds := pool }.register id d env p).records p.data = _ :=
    register_records_self
  constructor
  · unfold SurfaceStore.register
    dsimp only
    split
    · refine List.nodup_append.mpr ⟨hb.nodup, List.nodup_singleton _, ?_⟩
      rintro x hx y hy rfl
      rw [List.mem_singleton.mp hy] at hx
      rw [live_iff.mpr (Or.inl hx)] at hnew
      cases hnew
    · exact hb.nodup
  · intro i a ha
    unfold SurfaceStore.register at ha
    dsimp only at ha
    have hmapped : s.surfaceMap i = some a →
        (({ s with surfaceIds := pool }.register id d env p).records a).surfaceId = i := by
      intro hs
      have hne : a ≠ p.data := by
        rintro rfl
        rw [live_iff.mpr (Or.inr (by rw [hb.keyed i _ hs]; exact hs))] at hnew
        cases hnew
      rw [register_records_of_ne hne]
      exact hb.keyed i a hs
    split at ha
    · rw [Function.update_apply] at ha
      split at ha
      · cases ha
        rw [hself]
        rename_i hi
        exact hi.symm
      · exact hmapped ha
    · exact hmapped ha
  · intro a ha
    rcases hold a ha with rfl | ⟨-, hl, hrec⟩
    · rw [hself]
      exact ⟨p.buffer, rfl, rfl, Function.update_self ..⟩
    · rw [hrec]
      obtain ⟨b, hm, hbase, hbuf⟩ := hb.buffer a hl
      refine ⟨b, hm, hbase, ?_⟩
      have hne : b ≠ p.buffer := by
        rintro rfl
        exact hother a hl hm
      exact (Function.update_of_ne hne ..).trans hbuf
  · intro a a' ha ha' hm
    rcases hold a ha with rfl | ⟨-, hl, hrec⟩
    · rcases hold a' ha' with rfl | ⟨-, hl', hrec'⟩
      · rfl
      · rw [hself, hrec'] at hm
        exact absurd hm.symm (hother a' hl')
    · rcases hold a' ha' with rfl | ⟨-, hl', hrec'⟩
      · rw [hself, hrec] at hm
        exact absurd hm (hother a hl)
      · rw [hrec, hrec'] at hm
        exact hb.apart a a' hl hl' hm

/-- What is left after a surface was removed was there before. -/
theorem live_remove {number : Bool} (hb : s.Backed) (ha : s.surfaceMap id = some a)
    (hl : (s.remove number id a).live b = true) :
    b ≠ a ∧ s.live b = true ∧ (s.remove number id a).records b = s.records b := by
  have hne : b ≠ a := by
    rintro rfl
    rw [live_iff] at hl
    rcases hl with hl | hl
    · exact hb.nodup.not_mem_erase hl
    · have hid : ((s.remove number id b).records b).surfaceId = id := by
        unfold remove
        dsimp only
        rw [Function.update_self]
        exact hb.keyed id b ha
      rw [hid] at hl
      unfold remove at hl
      dsimp only at hl
      rw [Function.update_self] at hl
      cases hl
  have hrec : (s.remove number id a).records b = s.records b := Function.update_of_ne hne ..
  refine ⟨hne, ?_, hrec⟩
  rw [live_iff, hrec] at hl
  rw [live_iff]
  rcases hl with hl | hl
  · exact Or.inl (List.mem_of_mem_erase hl)
  · right
    unfold remove at hl
    dsimp only at hl
    rw [Function.update_apply] at hl
    split at hl
    · cases hl
    · exact hl

theorem Backed.remove {number : Bool} (hb : s.Backed) (ha : s.surfaceMap id = some a) :
    (s.remove number id a).Backed := by
  have hlive : s.live a = true := live_iff.mpr (Or.inr (by rw [hb.keyed id a ha]; exact ha))
  obtain ⟨ba, hma, -, -⟩ := hb.buffer a hlive
  constructor
  · exact hb.nodup.erase a
  · intro i c hc
    unfold SurfaceStore.remove at hc
    dsimp only at hc
    rw [Function.update_apply] at hc
    split at hc
    · cases hc
    · rename_i hi
      have hne : c ≠ a := by
        rintro rfl
        exact hi ((hb.keyed i c hc).symm.trans (hb.keyed id c ha))
      have hrec : (s.remove number id a).records c = s.records c := Function.update_of_ne hne ..
      rw [hrec]
      exact hb.keyed i c hc
  · intro c hc
    obtain ⟨hne, hl, hrec⟩ := live_remove hb ha hc
    rw [hrec]
    obtain ⟨b, hm, hbase, hbuf⟩ := hb.buffer c hl
    refine ⟨b, hm, hbase, ?_⟩
    have hb' : b ≠ ba := by
      rintro rfl
      exact hne (hb.apart c a hl hlive (hm.trans hma.symm))
    show freeBuffer s.buffers (s.records a).memory b = _
    rw [hma]
    exact (Function.update_of_ne hb' ..).trans hbuf
  · intro c c' hc hc' hm
    obtain ⟨-, hl, hrec⟩ := live_remove hb ha hc
    obtain ⟨-, hl', hrec'⟩ := live_remove hb ha hc'
    rw [hrec, hrec'] at hm
    exact hb.apart c c' hl hl' hm

end SurfaceStore

namespace IOSurfaceManager
variable {cfg : IOSurfaceConfig} {m m' : IOSurfaceManager}

/-- The call destroys no other surface than the one in the dictionary and
replaces no buffer. -/
def BuffersKept (cfg : IOSurfaceConfig) (m : IOSurfaceManager) : ManagerCall → Prop
  | .destroySurface _ id _ => m.served id = m.store.surfaceMap id
  | .updateSurfaceDescriptor id d _ => ∀ a ∈ m.store.updated cfg.inPlace id,
      VMIOSurface.newSize d = (m.store.records a).memorySize
  | _ => True

instance (cfg : IOSurfaceConfig) (m : IOSurfaceManager) : ∀ c, Decidable (m.BuffersKept cfg c)
  | .destroySurface _ id _ => inferInstanceAs (Decidable (m.served id = m.store.surfaceMap id))
  | .updateSurfaceDescriptor id d _ =>
      inferInstanceAs (Decidable (∀ a ∈ m.store.updated cfg.inPlace id,
        VMIOSurface.newSize d = (m.store.records a).memorySize))
  | .createSurface .. | .findSurface .. | .getSurfaceDescriptor .. | .convertSurfaceFormat ..
  | .lockSurface .. | .unlockSurface .. | .lockSurfacePlane .. | .unlockSurfacePlane ..
  | .evictUnusedSurfaces .. | .compactSurfaceMemory .. | .registerClient ..
  | .unregisterClient .. | .shareSurface .. | .unshareSurface .. | .canClientAccessSurface .. =>
      isTrue trivial

/-- What a call may do to the objects and their buffers. -/
inductive BufferEffect (m : IOSurfaceManager) (s : SurfaceStore) : ManagerCall → Prop
  | same {c : ManagerCall} (h : SurfaceStore.SameExtents m.store s) : BufferEffect m s c
  | register {d : IOSurfaceDescriptor} {env : CreateEnv} {p : SurfaceStore.Parts} {pool : IdPool}
      {id : Nat} (hnew : m.store.live p.data = false) (hfree : m.store.buffers p.buffer = none)
      (hs : s = { m.store with surfaceIds := pool }.register id d env p) :
      BufferEffect m s (.createSurface d env)
  | remove {now id a : Nat} {number : Bool} (ha : m.store.surfaceMap id = some a)
      (hd : m.store.destroys a = true) (hs : s = m.store.remove number id a) :
      BufferEffect m s (.destroySurface now id number)

theorem step_buffers {c : ManagerCall} (hC : m.BuffersKept cfg c)
    (hs : m.step cfg c = some m') : BufferEffect m m'.store c := by
  have he := (step_effect hs).store
  have hrefl : SurfaceStore.SameExtents m.store m.store :=
    (SurfaceStore.Steady.refl m.store).sameExtents
  cases c with
  | createSurface d env =>
      have hp := (step_eq_some hs).1
      have he : m'.store = (m.store.createSurface cfg.yuv d env).2 := he
      rcases SurfaceStore.createSurface_cases m.store cfg.yuv d env with
        ⟨r, hr⟩ | ⟨r, -, -, hr⟩ | ⟨p, -, hb, hr⟩
      · rw [hr] at he
        exact .same (he ▸ hrefl)
      · rw [hr] at he
        exact .same (he ▸ ⟨rfl, rfl, rfl, fun _ => rfl, fun _ => rfl, fun _ => rfl, fun _ => rfl⟩)
      · rw [hr] at he
        obtain ⟨hdata, hbuffer, -⟩ := SurfaceStore.build_eq_ok hb
        exact .register (hp.2 p.data hdata) (hp.1 p.buffer hbuffer) he
  | destroySurface now id number =>
      rcases he with he | ⟨a, ha, -, he⟩
      · exact .same (he ▸ hrefl)
      · rcases SurfaceStore.destroySurface_cases m.store number id a with ⟨-, hd⟩ | ⟨hd, hremove⟩
        · exact .same (he ▸ hd.sameExtents)
        · rw [hremove] at he
          exact .remove (hC.symm.trans ha) hd he
  | convertSurfaceFormat now now' source dest format =>
      rcases he with he | ⟨a, b, -, -, -, -, -, he⟩
      · exact .same (he ▸ hrefl)
      · exact .same (he ▸ SurfaceStore.sameExtents_convertSurfaceFormat)
  | lockSurface now id readOnly =>
      rcases he with he | ⟨a, -, -, he⟩
      · exact .same (he ▸ hrefl)
      · exact .same (he ▸ SurfaceStore.steady_lockSurface.sameExtents)
  | unlockSurface now id =>
      rcases he with he | ⟨a, -, -, he⟩
      · exact .same (he ▸ hrefl)
      · exact .same (he ▸ SurfaceStore.steady_unlockSurface.sameExtents)
  | lockSurfacePlane now id plane =>
      rcases he with he | ⟨a, -, -, he⟩
      · exact .same (he ▸ hrefl)
      · exact .same (he ▸ SurfaceStore.steady_lockSurfacePlane.sameExtents)
  | unlockSurfacePlane now id plane =>
      rcases he with he | ⟨a, -, -, he⟩
      · exact .same (he ▸ hrefl)
      · exact .same (he ▸ SurfaceStore.steady_unlockSurfacePlane.sameExtents)
  | updateSurfaceDescriptor id d buffer =>
      exact .same (he ▸ SurfaceStore.sameExtents_updateSurfaceDescriptor hC)
  | evictUnusedSurfaces now limit enough =>
      exact .same (he ▸ SurfaceStore.sameExtents_evictUnusedSurfaces)
  | _ => exact .same (he ▸ hrefl)

theorem backed_step {c : ManagerCall} (h : m.store.Backed) (hC : m.BuffersKept cfg c)
    (hs : m.step cfg c = some m') : m'.store.Backed := by
  cases step_buffers hC hs with
  | same hsame => exact h.same hsame
  | register hnew hfree hreg => exact hreg ▸ h.register hnew hfree
  | remove ha _ hrem => exact hrem ▸ h.remove ha

end IOSurfaceManager

/-! ## Planes -/

/-- Two planes have no byte in common. -/
def PlaneInfo.Apart (p q : PlaneInfo) : Prop :=
  p.offset + p.size ≤ q.offset ∨ q.offset + q.size ≤ p.offset

/-- The planes are apart and in the memory, and so is every pixel of a format with
one plane. -/
structure VMIOSurface.LaidOut (v : VMIOSurface) : Prop where
  apart : v.descriptor.layout.Pairwise PlaneInfo.Apart
  within : ∀ p ∈ v.descriptor.layout, p.offset + p.size ≤ v.memorySize
  pixels : v.descriptor.pixelFormat.planeCount = 1 →
    v.width * v.height * v.descriptor.pixelFormat.bytesPerPixel ≤ v.memorySize

theorem PixelFormat.of_isRgb32 {f : PixelFormat} (h : f.isRgb32 = true) :
    f.planeCount = 1 ∧ f.bytesPerPixel = 4 := by
  unfold isRgb32 at h
  simp only [Bool.or_eq_true, decide_eq_true_eq] at h
  rcases h with ((rfl | rfl) | rfl) | rfl <;> exact ⟨rfl, rfl⟩

namespace IOSurfaceDescriptor
variable {d : IOSurfaceDescriptor} {planes : Vector PlaneInfo 4} {width height : Nat}

/-- The end of the last plane of a format that `setupPlaneInfo` knows. -/
def needed (d : IOSurfaceDescriptor) : Nat :=
  if d.pixelFormat.isRgb32 then d.width * d.height * 4
  else d.width * d.height + d.width * d.height / 2

theorem toList_four {α : Type} (v : Vector α 4) :
    ∃ a b c d, v.toList = [a, b, c, d] := by
  have hlen : v.toList.length = 4 := by simp
  match v.toList, hlen with
  | [a, b, c, d], _ => exact ⟨a, b, c, d, rfl⟩

theorem mul_lt_u32 (hw : width ≤ 16384) (hh : height ≤ 16384) : width * height * 4 < u32 := by
  have hle : width * height ≤ 16384 * 16384 := Nat.mul_le_mul hw hh
  rw [u32_eq]
  omega

theorem rgbPlane_size (hw : width ≤ 16384) (hh : height ≤ 16384) :
    (rgbPlane width height).size = width * height * 4 := by
  have hrow : width * 4 % u32 = width * 4 := by
    apply Nat.mod_eq_of_lt
    rw [u32_eq]
    omega
  have hmul : width * 4 * height = width * height * 4 := Nat.mul_right_comm ..
  unfold rgbPlane
  dsimp only
  rw [hrow, hmul]
  exact Nat.mod_eq_of_lt (mul_lt_u32 hw hh)

theorem lumaPlane_size (hw : width ≤ 16384) (hh : height ≤ 16384) :
    (lumaPlane width height).size = width * height := by
  unfold lumaPlane
  apply Nat.mod_eq_of_lt
  have := mul_lt_u32 hw hh
  omega

theorem chromaPlane_size (hw : width ≤ 16384) (hh : height ≤ 16384) :
    (chromaPlane width height).size = width * height / 2 := by
  show width * height % u32 / 2 = _
  rw [show width * height % u32 = width * height from lumaPlane_size hw hh]

/-- What the record of a new surface has for planes. -/
theorem layout_make (h : setupPlaneInfo d.pixelFormat d.width d.height d.planes = some planes)
    (id now buffer : Nat) :
    (d.pixelFormat.isRgb32 = true ∧
      (VMIOSurface.make id now buffer d planes).descriptor.layout = [rgbPlane d.width d.height]) ∨
    (d.pixelFormat = .nv12 ∧ (VMIOSurface.make id now buffer d planes).descriptor.layout =
      [lumaPlane d.width d.height, chromaPlane d.width d.height]) := by
  obtain ⟨p₀, p₁, p₂, p₃, hlist⟩ := toList_four d.planes
  unfold setupPlaneInfo at h
  split at h
  · rename_i hrgb
    cases h
    left
    refine ⟨hrgb, ?_⟩
    have hcount := (PixelFormat.of_isRgb32 hrgb).1
    simp [VMIOSurface.make, layout, hcount, Vector.toList_set, hlist]
  · split at h
    · rename_i hnv
      cases h
      right
      refine ⟨hnv, ?_⟩
      simp [VMIOSurface.make, layout, hnv, PixelFormat.planeCount, Vector.toList_set, hlist]
    · cases h

/-- A request for enough memory gives a surface that fits into it. -/
theorem laidOut_make (h : setupPlaneInfo d.pixelFormat d.width d.height d.planes = some planes)
    (hw : d.width ≤ 16384) (hh : d.height ≤ 16384) (hn : d.needed ≤ d.calculateSurfaceSize)
    {id now buffer : Nat} : (VMIOSurface.make id now buffer d planes).LaidOut := by
  rcases layout_make h id now buffer with ⟨hrgb, hl⟩ | ⟨hnv, hl⟩
  · unfold needed at hn
    rw [if_pos hrgb] at hn
    constructor
    · rw [hl]
      exact List.pairwise_singleton ..
    · intro p hp
      rw [hl, List.mem_singleton] at hp
      rw [hp, rgbPlane_size hw hh]
      show 0 + d.width * d.height * 4 ≤ d.calculateSurfaceSize
      omega
    · intro _
      show d.width * d.height * d.pixelFormat.bytesPerPixel ≤ d.calculateSurfaceSize
      rw [(PixelFormat.of_isRgb32 hrgb).2]
      exact hn
  · unfold needed at hn
    rw [if_neg (by rw [hnv]; decide)] at hn
    constructor
    · rw [hl]
      refine List.Pairwise.cons (fun q hq => ?_) (List.pairwise_singleton ..)
      rw [List.mem_singleton.mp hq]
      left
      show 0 + (lumaPlane d.width d.height).size ≤ (lumaPlane d.width d.height).size
      omega
    · intro p hp
      rw [hl] at hp
      show p.offset + p.size ≤ d.calculateSurfaceSize
      rcases List.mem_cons.mp hp with rfl | hp
      · rw [lumaPlane_size hw hh]
        show 0 + d.width * d.height ≤ d.calculateSurfaceSize
        omega
      · rw [List.mem_singleton.mp hp, chromaPlane_size hw hh]
        show (lumaPlane d.width d.height).size + _ ≤ d.calculateSurfaceSize
        rw [lumaPlane_size hw hh]
        exact hn
    · intro hone
      rw [show (VMIOSurface.make id now buffer d planes).descriptor.pixelFormat = .nv12 from hnv]
        at hone
      cases hone

end IOSurfaceDescriptor

/-! ## Runs -/

theorem VMIOSurface.LaidOut.of_still {v w : VMIOSurface} (h : w.LaidOut)
    (hs : v.still = w.still) : v.LaidOut := by
  have hd : v.descriptor = w.descriptor := (congrArg VMIOSurface.descriptor hs :)
  have hn : v.memorySize = w.memorySize := (congrArg VMIOSurface.memorySize hs :)
  have hw : v.width = w.width := (congrArg VMIOSurface.width hs :)
  have hh : v.height = w.height := (congrArg VMIOSurface.height hs :)
  constructor
  · rw [hd]
    exact h.apart
  · rw [hd, hn]
    exact h.within
  · rw [hd, hn, hw, hh]
    exact h.pixels

namespace SurfaceStore
variable {s t : SurfaceStore} (h : ∀ a, s.live a = true → (s.records a).LaidOut)
include h

theorem laidOut_of_steady (hst : Steady s t) : ∀ a, t.live a = true → (t.records a).LaidOut := by
  intro a ha
  rw [hst.sameExtents.live] at ha
  exact (h a ha).of_still (hst.still a)

theorem laidOut_createSurface {yuv : Bool} {d : IOSurfaceDescriptor} {env : CreateEnv}
    (hE : s.accepts yuv d env = true → d.needed ≤ d.calculateSurfaceSize) :
    ∀ a, (s.createSurface yuv d env).2.live a = true →
      ((s.createSurface yuv d env).2.records a).LaidOut := by
  rcases createSurface_cases s yuv d env with ⟨r, hr⟩ | ⟨r, -, -, hr⟩ | ⟨p, href, hbuild, hr⟩
  · rw [hr]
    exact h
  · rw [hr]
    exact h
  · have hn : d.needed ≤ d.calculateSurfaceSize := hE (accepts_eq_true href hbuild)
    obtain ⟨-, ⟨-, hw, -, hh⟩, -⟩ := refusal_eq_none href
    rw [hr]
    intro a ha
    rcases live_register ha with rfl | ⟨-, hl, hrec⟩
    · rw [register_records_self]
      exact IOSurfaceDescriptor.laidOut_make (build_eq_ok hbuild).2.2 hw hh hn
    · rw [hrec]
      exact h a hl

/-- The target's planes stay, and its pixels find room. -/
theorem laidOut_convertSurfaceFormat {now : Nat} {format : PixelFormat} {a b : Nat}
    (hE : unconverted format (s.records a) (s.records b) = none →
      (s.records b).width * (s.records b).height * format.bytesPerPixel ≤
        (s.records b).memorySize) :
    ∀ x, (s.convertSurfaceFormat now format a b).2.live x = true →
      ((s.convertSurfaceFormat now format a b).2.records x).LaidOut := by
  have hsame : SameExtents s (s.convertSurfaceFormat now format a b).2 :=
    sameExtents_convertSurfaceFormat
  intro x hx
  rw [hsame.live] at hx
  unfold convertSurfaceFormat
  cases hu : unconverted format (s.records a) (s.records b) with
  | some r => exact h x hx
  | none =>
      dsimp only
      by_cases hxb : x = b
      · subst hxb
        rw [setRecord_records_self]
        exact ⟨(h x hx).apart, (h x hx).within, fun _ => hE hu⟩
      · rw [setRecord_records_of_ne hxb]
        exact h x hx

/-- An update that keeps the buffer changes the size of the surface only. -/
theorem laidOut_updateSurfaceDescriptor {inPlace : Bool} {id : Nat} {d : IOSurfaceDescriptor}
    {buffer : Option Nat}
    (hB : ∀ a ∈ s.updated inPlace id, VMIOSurface.newSize d = (s.records a).memorySize)
    (hE : ∀ a ∈ s.updated inPlace id, (s.records a).descriptor.pixelFormat.planeCount = 1 →
      d.width * d.height * (s.records a).descriptor.pixelFormat.bytesPerPixel ≤
        (s.records a).memorySize) :
    ∀ x, (s.updateSurfaceDescriptor inPlace id d buffer).2.live x = true →
      ((s.updateSurfaceDescriptor inPlace id d buffer).2.records x).LaidOut := by
  have hsame : SameExtents s (s.updateSurfaceDescriptor inPlace id d buffer).2 :=
    sameExtents_updateSurfaceDescriptor hB
  intro x hx
  rw [hsame.live] at hx
  unfold updateSurfaceDescriptor
  cases hup : s.updated inPlace id with
  | none => exact h x hx
  | some a =>
      dsimp only
      rw [if_pos (hB a hup)]
      by_cases hxa : x = a
      · subst hxa
        dsimp only
        rw [setRecord_records_self]
        exact ⟨(h x hx).apart, (h x hx).within, hE x hup⟩
      · dsimp only
        rw [setRecord_records_of_ne hxa]
        exact h x hx

end SurfaceStore

namespace IOSurfaceManager
variable {cfg : IOSurfaceConfig} {m m' : IOSurfaceManager}

/-- Every object has the buffer its record says and is laid out in it. -/
structure Fitting (m : IOSurfaceManager) : Prop where
  buffer : ∀ a, m.store.live a = true → ∃ b, (m.store.records a).baseAddress = some b ∧
    m.store.buffers b = some (m.store.records a).memorySize
  laidOut : ∀ a, m.store.live a = true → (m.store.records a).LaidOut
  tame : m.wild = false

/-- What is asked for is enough: a new surface gets as many bytes as its planes
take, a conversion finds room for the pixels of the new format, and an update for
those of the new size. -/
def Enough (cfg : IOSurfaceConfig) (m : IOSurfaceManager) : ManagerCall → Prop
  | .createSurface d env =>
      m.store.accepts cfg.yuv d env = true → d.needed ≤ d.calculateSurfaceSize
  | .convertSurfaceFormat now _ source dest format =>
      ∀ a ∈ m.served source, ∀ b ∈ (m.lookedUp now source).served dest,
        SurfaceStore.unconverted format (m.store.records a) (m.store.records b) = none →
        (m.store.records b).width * (m.store.records b).height * format.bytesPerPixel ≤
          (m.store.records b).memorySize
  | .updateSurfaceDescriptor id d _ =>
      ∀ a ∈ m.store.updated cfg.inPlace id,
        (m.store.records a).descriptor.pixelFormat.planeCount = 1 →
        d.width * d.height * (m.store.records a).descriptor.pixelFormat.bytesPerPixel ≤
          (m.store.records a).memorySize
  | _ => True

instance (cfg : IOSurfaceConfig) (m : IOSurfaceManager) : ∀ c, Decidable (m.Enough cfg c)
  | .createSurface d env =>
      inferInstanceAs (Decidable (m.store.accepts cfg.yuv d env = true →
        d.needed ≤ d.calculateSurfaceSize))
  | .convertSurfaceFormat now _ source dest format =>
      inferInstanceAs (Decidable (∀ a ∈ m.served source,
        ∀ b ∈ (m.lookedUp now source).served dest,
          SurfaceStore.unconverted format (m.store.records a) (m.store.records b) = none →
          (m.store.records b).width * (m.store.records b).height * format.bytesPerPixel ≤
            (m.store.records b).memorySize))
  | .updateSurfaceDescriptor id d _ =>
      inferInstanceAs (Decidable (∀ a ∈ m.store.updated cfg.inPlace id,
        (m.store.records a).descriptor.pixelFormat.planeCount = 1 →
        d.width * d.height * (m.store.records a).descriptor.pixelFormat.bytesPerPixel ≤
          (m.store.records a).memorySize))
  | .destroySurface .. | .findSurface .. | .getSurfaceDescriptor .. | .lockSurface ..
  | .unlockSurface .. | .lockSurfacePlane .. | .unlockSurfacePlane .. | .evictUnusedSurfaces ..
  | .compactSurfaceMemory .. | .registerClient .. | .unregisterClient .. | .shareSurface ..
  | .unshareSurface .. | .canClientAccessSurface .. => isTrue trivial

/-- The call uses no freed object, replaces no buffer, and asks for enough. -/
def KeepsFit (cfg : IOSurfaceConfig) (m : IOSurfaceManager) (c : ManagerCall) : Prop :=
  m.Tame c ∧ m.BuffersKept cfg c ∧ m.Enough cfg c

instance (cfg : IOSurfaceConfig) (m : IOSurfaceManager) (c : ManagerCall) :
    Decidable (m.KeepsFit cfg c) :=
  inferInstanceAs (Decidable (m.Tame c ∧ m.BuffersKept cfg c ∧ m.Enough cfg c))

/-- The records of the objects there were stay laid out. -/
theorem laidOut_step {c : ManagerCall} (hb : m.store.Backed)
    (h : ∀ a, m.store.live a = true → (m.store.records a).LaidOut) (hB : m.BuffersKept cfg c)
    (hE : m.Enough cfg c) (hs : m.step cfg c = some m') :
    ∀ a, m'.store.live a = true → (m'.store.records a).LaidOut := by
  have he := (step_effect hs).store
  have hrefl := SurfaceStore.Steady.refl m.store
  cases c with
  | createSurface d env =>
      have he : m'.store = (m.store.createSurface cfg.yuv d env).2 := he
      rw [he]
      exact SurfaceStore.laidOut_createSurface h hE
  | destroySurface now id number =>
      rcases he with he | ⟨a, ha, -, he⟩
      · exact SurfaceStore.laidOut_of_steady h (he ▸ hrefl)
      · rcases SurfaceStore.destroySurface_cases m.store number id a with ⟨-, hd⟩ | ⟨-, hremove⟩
        · exact SurfaceStore.laidOut_of_steady h (he ▸ hd)
        · rw [he, hremove]
          intro b hl
          obtain ⟨-, hold, hrec⟩ := SurfaceStore.live_remove hb (hB.symm.trans ha) hl
          rw [hrec]
          exact h b hold
  | convertSurfaceFormat now now' source dest format =>
      rcases he with he | ⟨a, b, ha, hd, -, hlive, -, he⟩
      · exact SurfaceStore.laidOut_of_steady h (he ▸ hrefl)
      · rw [he]
        exact SurfaceStore.laidOut_convertSurfaceFormat h (hE a ha b hd)
  | lockSurface now id readOnly =>
      rcases he with he | ⟨a, -, -, he⟩
      · exact SurfaceStore.laidOut_of_steady h (he ▸ hrefl)
      · exact SurfaceStore.laidOut_of_steady h (he ▸ SurfaceStore.steady_lockSurface)
  | unlockSurface now id =>
      rcases he with he | ⟨a, -, -, he⟩
      · exact SurfaceStore.laidOut_of_steady h (he ▸ hrefl)
      · exact SurfaceStore.laidOut_of_steady h (he ▸ SurfaceStore.steady_unlockSurface)
  | lockSurfacePlane now id plane =>
      rcases he with he | ⟨a, -, -, he⟩
      · exact SurfaceStore.laidOut_of_steady h (he ▸ hrefl)
      · exact SurfaceStore.laidOut_of_steady h (he ▸ SurfaceStore.steady_lockSurfacePlane)
  | unlockSurfacePlane now id plane =>
      rcases he with he | ⟨a, -, -, he⟩
      · exact SurfaceStore.laidOut_of_steady h (he ▸ hrefl)
      · exact SurfaceStore.laidOut_of_steady h (he ▸ SurfaceStore.steady_unlockSurfacePlane)
  | updateSurfaceDescriptor id d buffer =>
      have he : m'.store = (m.store.updateSurfaceDescriptor cfg.inPlace id d buffer).2 := he
      rw [he]
      exact SurfaceStore.laidOut_updateSurfaceDescriptor h hB hE
  | evictUnusedSurfaces now limit enough =>
      have he : m'.store = (m.store.evictUnusedSurfaces now limit enough).2 := he
      have hsame : SurfaceStore.SameExtents m.store
          (m.store.evictUnusedSurfaces now limit enough).2 :=
        SurfaceStore.sameExtents_evictUnusedSurfaces
      rw [he]
      intro x hx
      rw [hsame.live] at hx
      exact (h x hx).of_still SurfaceStore.still_evictUnusedSurfaces
  | _ => exact SurfaceStore.laidOut_of_steady h (he ▸ hrefl)

/-- **Surfaces fit into their memory** in every run whose calls ask for enough and
replace no buffer. -/
theorem surfaces_fit (cfg : IOSurfaceConfig) (calls : List ManagerCall)
    (hC : (machine cfg).Along (KeepsFit cfg) start calls) :
    (machine cfg).Always Fitting start calls := by
  have hkept : (machine cfg).Always (fun m => m.store.Backed ∧
      (∀ a, m.store.live a = true → (m.store.records a).LaidOut) ∧ m.wild = false)
      start calls := by
    refine (machine cfg).always_of_along (fun m c m' h hc hs => ?_)
      ⟨SurfaceStore.backed_start, fun _ h => (by cases h), rfl⟩ hC
    obtain ⟨hb, hl, hw⟩ := h
    obtain ⟨ht, hB, hE⟩ := hc
    exact ⟨backed_step hb hB hs, laidOut_step hb hl hB hE hs, (step_wild ht hs).trans hw⟩
  refine hkept.imp _ fun m ⟨hb, hl, hw⟩ => ⟨fun a ha => ?_, hl, hw⟩
  obtain ⟨b, -, hbase, hbuf⟩ := hb.buffer a ha
  exact ⟨b, hbase, hbuf⟩

/-- Surfaces of both kinds of formats, one of them converted, one destroyed. -/
theorem surfaces_fit_three :
    (machine ⟨true, true⟩).Always Fitting start
      [.createSurface (.plain .bgra32 4 4) (.granted 1 1 1),
        .createSurface (.plain .rgba32 4 4) (.granted 2 2 2),
        .convertSurfaceFormat 3 4 1 2 .rgba32, .convertSurfaceFormat 5 6 2 1 .bgra32,
        .createSurface { IOSurfaceDescriptor.plain .nv12 64 64 with
          planes := Vector.replicate 4 { PlaneInfo.zero with size := 4096 } } (.granted 7 3 3),
        .lockSurfacePlane 8 3 1, .destroySurface 9 1 true] :=
  surfaces_fit _ _ (by decide)

/-- A request may name a row that is shorter than its pixels. -/
theorem surfaces_unfit :
    ¬ ∀ (cfg : IOSurfaceConfig) (calls : List ManagerCall),
      (machine cfg).Always Fitting start calls := by
  intro h
  have hrun := h ⟨true, false⟩ [.createSurface
    { IOSurfaceDescriptor.plain .bgra32 1920 1080 with bytesPerRow := 1 } (.granted 1 1 1)]
  obtain ⟨m, hm, hshort⟩ := hrun.of_any _ (p := fun m : IOSurfaceManager =>
    decide (m.store.live 1 = true ∧ ∃ p ∈ (m.store.records 1).descriptor.layout,
      ¬ p.offset + p.size ≤ (m.store.records 1).memorySize)) (by decide)
  obtain ⟨hl, p, hp, hout⟩ := of_decide_eq_true hshort
  exact hout ((hm.laidOut 1 hl).within p hp)

end IOSurfaceManager

end VMQemuVGA
