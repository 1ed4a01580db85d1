import Mathlib.Algebra.Order.Field.Rat
import Mathlib.Data.List.Nodup
import Mathlib.Tactic.NormNum
import VMQemuVGA.CoreAnimation.State

/-! # How long an animation lasts

`processAnimations` counts the animations that have come to their end and restarts those
that repeat. `cleanupCompletedAnimations` then looks for them again, among records that
have changed in between, and only if there was anything to count. Times and repeat counts
are rationals here. -/

namespace VMQemuVGA

/-! ## Animations -/

/-- What decides how long an animation lasts. -/
structure AnimationTiming where
  duration : ℚ
  positive : 0 < duration
  repeatCount : ℚ
  deriving DecidableEq

/-- `AnimationRecord`, as far as its lifetime. `object` tells the stored objects apart. -/
structure TimedAnimation extends AnimationTiming where
  object : Nat
  animationId : Nat
  layerId : Nat
  deriving DecidableEq

namespace TimedAnimation

/-- `progress >= 1.0`; every animation began at time zero. -/
def due (time : ℚ) (a : TimedAnimation) : Bool := decide (1 ≤ time / a.duration)

/-- `completed_count` counts it. -/
def finished (time : ℚ) (a : TimedAnimation) : Bool := a.due time && decide (a.repeatCount ≤ 0)

/-- The record after the loop of `processAnimations`. -/
def stepped (time : ℚ) (a : TimedAnimation) : TimedAnimation :=
  if a.due time = true ∧ 0 < a.repeatCount then { a with repeatCount := a.repeatCount - 1 } else a

/-- What the loop has decided about it: it goes, or it stays as the loop left it. -/
def fate (time : ℚ) (a : TimedAnimation) : Option TimedAnimation :=
  if a.finished time then none else some (a.stepped time)

end TimedAnimation

/-! ## State -/

structure AnimationRun where
  /-- `findLayer` finds a layer -/
  layers : Nat → Bool
  /-- `m_compositor_active` -/
  active : Bool
  /-- `frame_number` -/
  frameNumber : Nat
  animations : List TimedAnimation
  /-- `m_next_animation_id` and `m_released_animation_ids` -/
  ids : IdPool
  /-- `animations_running` -/
  running : Nat
  /-- how many objects were made -/
  made : Nat

/-- What `cleanupCompletedAnimations` gets. -/
structure CleanupEnv where
  /-- `completed_indices` -/
  indices : Bool
  /-- the index of an object can be written down -/
  number : Nat → Bool

namespace AnimationRun

def init (layers : Nat → Bool) (active : Bool) (frameNumber : Nat) : AnimationRun where
  layers := layers
  active := active
  frameNumber := frameNumber
  animations := []
  ids := ⟨1, []⟩
  running := 0
  made := 0

/-- `timestamp`; `m_frame_interval` is 16667 microseconds. -/
def time (s : AnimationRun) : ℚ := ((s.frameNumber * 16667 % u64 : Nat) : ℚ) / 1000000

/-- `addAnimation`; `given` says that neither pointer is null, `stored` that the array has
room or grows. -/
def addAnimation (given : Bool) (e : LayerEnv) (stored : Bool) (layer : Nat)
    (timing : AnimationTiming) (s : AnimationRun) : Except IOReturn Nat × AnimationRun :=
  if given = false then (.error .badArgument, s)
  else if s.layers layer = false then (.error .notFound, s) else
  let id := (s.ids.allocate u32).1
  let ids := (s.ids.allocate u32).2
  if e.data = false then
    (.error .noMemory, { s with ids := CoreAnimation.releaseAnimationId e.number id ids })
  else
    (.ok id, { s with
      ids := ids
      animations := if stored then s.animations ++ [⟨timing, s.made, id, layer⟩] else s.animations
      running := inc32 s.running
      made := s.made + 1 })

def findAnimation (id : Nat) (s : AnimationRun) : Option TimedAnimation :=
  if id = 0 then none else s.animations.find? fun a => a.animationId == id

/-- `removeAnimation`; the layer makes no difference. -/
def removeAnimation (number : Bool) (id : Nat) (s : AnimationRun) : IOReturn × AnimationRun :=
  match s.findAnimation id with
  | none => (.notFound, s)
  | some _ =>
      (.success, { s with
        animations := s.animations.eraseP fun a => a.animationId == id
        ids := CoreAnimation.releaseAnimationId number id s.ids
        running := s.running - 1 })

/-- Take animations out, each of them off `animations_running` while that is above zero. -/
def keep (kept : List TimedAnimation) (s : AnimationRun) : AnimationRun :=
  { s with
    animations := kept
    running := s.running - (s.animations.length - kept.length) }

/-- `cleanupCompletedAnimations`, told of `count` animations. Where it cannot make a list
it takes the last ones; no id is released. -/
def cleanupCompletedAnimations (e : CleanupEnv) (count : Nat) (s : AnimationRun) : AnimationRun :=
  if count = 0 then s
  else if e.indices = false then s.keep (s.animations.take (s.animations.length - count))
  else s.keep (s.animations.filter fun a =>
    !(a.due s.time && a.repeatCount == 0 && e.number a.object))

def processAnimations (e : CleanupEnv) (s : AnimationRun) : AnimationRun :=
  if s.running = 0 then s
  else
    { s with animations := s.animations.map (TimedAnimation.stepped s.time)
      }.cleanupCompletedAnimations e (s.animations.countP (TimedAnimation.finished s.time))

/-- `++frame_number`. -/
def nextFrame (s : AnimationRun) : AnimationRun :=
  { s with frameNumber := (s.frameNumber + 1) % u64 }

def compositeFrame (e : CleanupEnv) (s : AnimationRun) : IOReturn × AnimationRun :=
  if s.active = false then (.notReady, s) else (.success, s.nextFrame.processAnimations e)

/-! ### Runs -/

inductive AnimationCall where
  | addAnimation (given : Bool) (e : LayerEnv) (stored : Bool) (layer : Nat)
      (timing : AnimationTiming)
  | removeAnimation (number : Bool) (layer id : Nat)
  | compositeFrame (e : CleanupEnv)

def step (s : AnimationRun) : AnimationCall → AnimationRun
  | .addAnimation given e stored layer timing => (s.addAnimation given e stored layer timing).2
  | .removeAnimation number _ id => (s.removeAnimation number id).2
  | .compositeFrame e => (s.compositeFrame e).2

def machine (s : AnimationRun) : Machine AnimationRun AnimationCall where
  init := s
  step := fun s call => some (s.step call)

/-! ## What is asked of a run -/

/-- A frame does to each animation what its own fate is, and `animations_running` counts
what is stored. -/
def Exact (s : AnimationRun) (call : AnimationCall) : Prop :=
  (∀ e, call = .compositeFrame e → s.active = true →
    (s.step call).animations = s.animations.filterMap (TimedAnimation.fate s.nextFrame.time)) ∧
  (s.step call).running = (s.step call).animations.length

/-- The id of an animation the call removes is among the released ones after it. -/
def Recycles (s : AnimationRun) (call : AnimationCall) : Prop :=
  ∀ a ∈ s.animations, a.object ∉ (s.step call).animations.map TimedAnimation.object →
    a.animationId ∈ (s.step call).ids.released

/-! ### Conditions on the calls -/

/-- `releaseAnimationId` has the id released, if it is not already. -/
def Releasable (s : AnimationRun) (number : Bool) (id : Nat) : Prop :=
  id ∈ s.ids.released ∨ id < s.ids.next ∧ number = true

/-- The second look at the records finds the animations that the first one has counted. -/
def FoundAgain (time : ℚ) (e : CleanupEnv) (animations : List TimedAnimation) : Prop :=
  if e.indices then
    ∀ a ∈ animations, a.due time = true →
      (a.repeatCount = 1 → e.number a.object = false) ∧
      (a.repeatCount = 0 → e.number a.object = true) ∧ 0 ≤ a.repeatCount
  else
    ∃ first last, animations = first ++ last ∧ (∀ a ∈ first, a.finished time = false) ∧
      ∀ a ∈ last, a.finished time = true

/-- The condition for `Exact`. -/
def Meets (s : AnimationRun) : AnimationCall → Prop
  | .addAnimation given e stored layer _ =>
      given = true → s.layers layer = true → e.data = true →
        stored = true ∧ s.animations.length + 1 < u32
  | .removeAnimation .. => True
  | .compositeFrame e =>
      s.active = true → (∃ a ∈ s.animations, a.finished s.nextFrame.time = true) →
        FoundAgain s.nextFrame.time e s.animations

/-- The condition for `Recycles`: a frame that ends an animation releases nothing. -/
def MeetsIds (s : AnimationRun) : AnimationCall → Prop
  | .addAnimation .. => True
  | .removeAnimation number _ id => (s.findAnimation id).isSome → s.Releasable number id
  | .compositeFrame _ =>
      s.active = true → ∀ a ∈ s.animations, a.finished s.nextFrame.time = true →
        a.animationId ∈ s.ids.released

/-! ## Animations one by one -/

end AnimationRun

namespace TimedAnimation
variable {time : ℚ} {a : TimedAnimation} {l l₁ l₂ : List TimedAnimation}

@[simp] theorem object_stepped (time : ℚ) (a : TimedAnimation) :
    (a.stepped time).object = a.object := by
  unfold stepped
  split <;> rfl

@[simp] theorem due_stepped : (a.stepped time).due time = a.due time := by
  unfold stepped
  split <;> rfl

theorem map_object_stepped (time : ℚ) (l : List TimedAnimation) :
    (l.map (stepped time)).map object = l.map object := by
  simp

theorem filterMap_fate (l : List TimedAnimation) :
    l.filterMap (fate time) = (l.filter fun a => !a.finished time).map (stepped time) := by
  induction l with
  | nil => rfl
  | cons a l ih =>
      cases h : a.finished time with
      | false => simp [fate, h, ih]
      | true => simp [fate, h, ih]

/-- Objects that are all different say which animations a part of the list has. -/
theorem mem_of_map_object_eq (hl : (l.map object).Nodup) (h₁ : l₁ ⊆ l) (h₂ : l₂ ⊆ l)
    (heq : l₁.map object = l₂.map object) (ha : a ∈ l₁) : a ∈ l₂ := by
  have hobject : a.object ∈ l₂.map object := heq ▸ List.mem_map_of_mem ha
  obtain ⟨b, hb, hba⟩ := List.mem_map.mp hobject
  have hsame : b = a := List.inj_on_of_nodup_map hl (h₂ hb) (h₁ ha) hba
  exact hsame ▸ hb

/-- Two choices from the list are the same, stepped or not, if they choose alike. -/
theorem filter_stepped_eq_iff (hl : (l.map object).Nodup) (p q : TimedAnimation → Bool) :
    (l.filter p).map (stepped time) = (l.filter q).map (stepped time) ↔
      ∀ a ∈ l, p a = q a := by
  constructor
  · intro heq a ha
    have hobjects : (l.filter p).map object = (l.filter q).map object := by
      rw [← map_object_stepped time, heq, map_object_stepped]
    have hp : l.filter p ⊆ l := List.filter_subset_self l
    have hq : l.filter q ⊆ l := List.filter_subset_self l
    rw [Bool.eq_iff_iff]
    constructor
    · intro hpa
      exact (List.mem_filter.mp (mem_of_map_object_eq hl hp hq hobjects
        (List.mem_filter.mpr ⟨ha, hpa⟩))).2
    · intro hqa
      exact (List.mem_filter.mp (mem_of_map_object_eq hl hq hp hobjects.symm
        (List.mem_filter.mpr ⟨ha, hqa⟩))).2
  · intro h
    rw [List.filter_congr h]

/-- The last ones are taken out, as many as are finished: these are the finished ones if
they come last. -/
theorem take_stepped_eq_iff (hl : (l.map object).Nodup) :
    (l.take (l.length - l.countP (finished time))).map (stepped time) =
        (l.filter fun a => !a.finished time).map (stepped time) ↔
      ∃ first last, l = first ++ last ∧ (∀ a ∈ first, a.finished time = false) ∧
        ∀ a ∈ last, a.finished time = true := by
  constructor
  · intro heq
    generalize l.length - l.countP (finished time) = n at heq
    have hobjects : (l.take n).map object = (l.filter fun a => !a.finished time).map object := by
      rw [← map_object_stepped time, heq, map_object_stepped]
    have htake : l.take n ⊆ l := List.take_subset n l
    have hfilter : (l.filter fun a => !a.finished time) ⊆ l := List.filter_subset_self l
    refine ⟨l.take n, l.drop n, (List.take_append_drop n l).symm, fun a ha => ?_, fun a ha => ?_⟩
    · have hmem := mem_of_map_object_eq hl htake hfilter hobjects ha
      simpa using (List.mem_filter.mp hmem).2
    -- an unfinished one would stand in both parts
    · by_contra hfin
      have hmem : a ∈ l.take n := mem_of_map_object_eq hl hfilter htake hobjects.symm
        (List.mem_filter.mpr ⟨List.mem_of_mem_drop ha, by simpa using hfin⟩)
      have hnodup : (l.take n ++ l.drop n).Nodup := by
        rw [List.take_append_drop]
        exact hl.of_map object
      exact (List.nodup_append.mp hnodup).2.2 a hmem a ha rfl
  · rintro ⟨first, last, rfl, hfirst, hlast⟩
    have hcount : (first ++ last).countP (finished time) = last.length := by
      rw [List.countP_append, List.countP_eq_zero.mpr (by simpa using hfirst),
        List.countP_eq_length.mpr hlast, Nat.zero_add]
    have hkeep : (first.filter fun a => !a.finished time) = first :=
      List.filter_eq_self.mpr (by simpa using hfirst)
    have hdrop : (last.filter fun a => !a.finished time) = [] :=
      List.filter_eq_nil_iff.mpr (by simpa using hlast)
    rw [hcount, List.length_append, Nat.add_sub_cancel, List.take_left', List.filter_append,
      hkeep, hdrop, List.append_nil]
    rfl

/-- When the second look says the same of an animation as the first. -/
theorem found_iff (time : ℚ) (number : Nat → Bool) (a : TimedAnimation) :
    (!a.finished time) = !((a.stepped time).due time && (a.stepped time).repeatCount == 0 &&
        number (a.stepped time).object) ↔
      (a.due time = true → (a.repeatCount = 1 → number a.object = false) ∧
        (a.repeatCount = 0 → number a.object = true) ∧ 0 ≤ a.repeatCount) := by
  rw [due_stepped, object_stepped]
  generalize number a.object = number
  cases hdue : a.due time with
  | false => simp [finished, hdue]
  | true =>
      by_cases hpos : 0 < a.repeatCount
      · have hfin : a.finished time = false := by simp [finished, hdue, hpos]
        have hstep : (a.stepped time).repeatCount = a.repeatCount - 1 := by
          simp [stepped, hdue, hpos]
        rw [hfin, hstep]
        simp [sub_eq_zero, hpos.ne', hpos.le, imp_iff_not_or]
      · have hnonpos : a.repeatCount ≤ 0 := not_lt.mp hpos
        have hfin : a.finished time = true := by simp [finished, hdue, hnonpos]
        have hstep : (a.stepped time).repeatCount = a.repeatCount := by
          simp [stepped, hpos]
        have hone : a.repeatCount ≠ 1 := by
          intro h1
          rw [h1] at hpos
          exact hpos one_pos
        have hend : (a.repeatCount = 0 ∧ number = true) ↔
            (a.repeatCount = 0 → number = true) ∧ 0 ≤ a.repeatCount := by
          constructor
          · rintro ⟨hzero, hnumber⟩
            exact ⟨fun _ => hnumber, hzero.ge⟩
          · rintro ⟨hnumber, hnonneg⟩
            have hzero : a.repeatCount = 0 := le_antisymm hnonpos hnonneg
            exact ⟨hzero, hnumber hzero⟩
        rw [hfin, hstep]
        simpa [hone] using hend

end TimedAnimation

namespace AnimationRun
variable {s : AnimationRun} {call : AnimationCall}

/-! ## Exact conditions, call by call -/

/-- Between calls: the count is right, and the objects are told apart. -/
structure Sound (s : AnimationRun) : Prop where
  running : s.running = s.animations.length
  objects : (s.animations.map TimedAnimation.object).Nodup
  made : ∀ a ∈ s.animations, a.object < s.made

theorem findAnimation_eq_some {id : Nat} {b : TimedAnimation} (h : s.findAnimation id = some b) :
    id ≠ 0 ∧ ∃ first last, s.animations = first ++ b :: last ∧ b.animationId = id ∧
      (s.animations.eraseP fun a => a.animationId == id) = first ++ last := by
  unfold findAnimation at h
  split at h
  · exact absurd h nofun
  next hid =>
  obtain ⟨hb, first, last, hl, hfirst⟩ := List.find?_eq_some_iff_append.mp h
  refine ⟨hid, first, last, hl, by simpa using hb, ?_⟩
  rw [hl, List.eraseP_append_right _ (by simpa using hfirst)]
  simp [hb]

theorem countP_finished_eq_zero {time : ℚ} {l : List TimedAnimation} :
    l.countP (TimedAnimation.finished time) = 0 ↔ ¬ ∃ a ∈ l, a.finished time = true := by
  simp [List.countP_eq_zero]

/-- The animations that a frame leaves, where `r` has the time of the frame. -/
theorem processAnimations_exact_iff {e : CleanupEnv} {r : AnimationRun} (hr : r.Sound) :
    (r.processAnimations e).animations = r.animations.filterMap (TimedAnimation.fate r.time) ↔
      ((∃ a ∈ r.animations, a.finished r.time = true) → FoundAgain r.time e r.animations) := by
  unfold processAnimations
  by_cases hidle : r.running = 0
  · have hnil : r.animations = [] := List.length_eq_zero_iff.mp (hr.running.symm.trans hidle)
    simp [hidle, hnil]
  · rw [if_neg hidle, cleanupCompletedAnimations]
    by_cases hcount : r.animations.countP (TimedAnimation.finished r.time) = 0
    · have hnone := countP_finished_eq_zero.mp hcount
      rw [if_pos hcount, TimedAnimation.filterMap_fate, List.filter_eq_self.mpr]
      · exact iff_of_true rfl (fun h => absurd h hnone)
      · intro a ha
        by_contra hfin
        exact hnone ⟨a, ha, by simpa using hfin⟩
    · have hsome : ∃ a ∈ r.animations, a.finished r.time = true := by
        by_contra hnone
        exact hcount (countP_finished_eq_zero.mpr hnone)
      rw [if_neg hcount, TimedAnimation.filterMap_fate]
      simp only [hsome, forall_const]
      unfold FoundAgain
      cases e.indices with
      | false =>
          simp only [if_true, keep, List.length_map, ← List.map_take, Bool.false_eq_true, if_false]
          exact TimedAnimation.take_stepped_eq_iff hr.objects
      | true =>
          simp only [Bool.true_eq_false, if_false, keep, List.filter_map, if_true]
          rw [TimedAnimation.filter_stepped_eq_iff hr.objects]
          refine forall₂_congr fun a _ => ?_
          rw [eq_comm]
          exact TimedAnimation.found_iff r.time e.number a

/-- A part of the animations stays, and is counted. -/
theorem keep_spec {kept : List TimedAnimation} (hrunning : s.running = s.animations.length)
    (hkept : kept.Sublist s.animations) :
    (s.keep kept).running = (s.keep kept).animations.length := by
  show s.running - (s.animations.length - kept.length) = kept.length
  have hle : kept.length ≤ s.animations.length := hkept.length_le
  omega

/-- What every frame keeps, whatever it is granted. -/
structure Thinned (s t : AnimationRun) : Prop where
  running : t.running = t.animations.length
  objects : (t.animations.map TimedAnimation.object).Sublist
    (s.animations.map TimedAnimation.object)
  ids : t.ids = s.ids
  made : t.made = s.made

theorem thinned_keep {kept : List TimedAnimation} (hrunning : s.running = s.animations.length)
    (hkept : kept.Sublist s.animations) : Thinned s (s.keep kept) where
  running := keep_spec hrunning hkept
  objects := hkept.map _
  ids := rfl
  made := rfl

theorem thinned_processAnimations (e : CleanupEnv) (hrunning : s.running = s.animations.length) :
    Thinned s (s.processAnimations e) := by
  unfold processAnimations
  split
  · exact ⟨hrunning, List.Sublist.refl _, rfl, rfl⟩
  · -- the stepped records have the objects of the stored ones
    have hstepped : ∀ t, Thinned { s with
        animations := s.animations.map (TimedAnimation.stepped s.time) } t → Thinned s t := by
      intro t ht
      refine ⟨ht.running, ?_, ht.ids, ht.made⟩
      have hobjects := ht.objects
      rwa [TimedAnimation.map_object_stepped] at hobjects
    apply hstepped
    have hrunning' : s.running = (s.animations.map (TimedAnimation.stepped s.time)).length := by
      rw [List.length_map, hrunning]
    unfold cleanupCompletedAnimations
    split
    · exact ⟨hrunning', List.Sublist.refl _, rfl, rfl⟩
    split
    · exact thinned_keep hrunning' (List.take_sublist _ _)
    · exact thinned_keep hrunning' List.filter_sublist

theorem Thinned.sound {t : AnimationRun} (h : Thinned s t) (hs : s.Sound) : t.Sound where
  running := h.running
  objects := hs.objects.sublist h.objects
  made := by
    intro a ha
    obtain ⟨b, hb, hba⟩ := List.mem_map.mp (h.objects.subset (List.mem_map_of_mem ha))
    rw [← hba, h.made]
    exact hs.made b hb

/-! ### Adding and removing -/

theorem addAnimation_cases (given : Bool) (e : LayerEnv) (stored : Bool) (layer : Nat)
    (timing : AnimationTiming) :
    (¬ (given = true ∧ s.layers layer = true ∧ e.data = true) ∧
      (s.addAnimation given e stored layer timing).2.animations = s.animations ∧
      (s.addAnimation given e stored layer timing).2.running = s.running ∧
      (s.addAnimation given e stored layer timing).2.made = s.made) ∨
    ((given = true ∧ s.layers layer = true ∧ e.data = true) ∧
      (s.addAnimation given e stored layer timing).2.animations = (if stored then
        s.animations ++ [⟨timing, s.made, (s.ids.allocate u32).1, layer⟩] else s.animations) ∧
      (s.addAnimation given e stored layer timing).2.running = inc32 s.running ∧
      (s.addAnimation given e stored layer timing).2.made = s.made + 1) := by
  unfold addAnimation
  split
  · next hgiven => simp [hgiven]
  split
  · next hlayer => simp [hlayer]
  dsimp only
  split
  · next hdata => simp [hdata]
  · next hgiven hlayer hdata =>
    have hgranted : given = true ∧ s.layers layer = true ∧ e.data = true :=
      ⟨by simpa using hgiven, by simpa using hlayer, by simpa using hdata⟩
    exact Or.inr ⟨hgranted, rfl, rfl, rfl⟩

theorem inc32_eq_add_one_iff (n : Nat) : inc32 n = n + 1 ↔ n + 1 < u32 := by
  unfold inc32
  rw [u32_eq]
  omega

/-- `removeAnimation` finds nothing, or takes one animation out and releases its id. -/
theorem removeAnimation_cases (number : Bool) (id : Nat) :
    (s.findAnimation id = none ∧ (s.removeAnimation number id).2 = s) ∨
    ∃ b first last, s.findAnimation id = some b ∧ id ≠ 0 ∧ b.animationId = id ∧
      s.animations = first ++ b :: last ∧ (s.removeAnimation number id).2 =
        { s with
          animations := first ++ last
          ids := CoreAnimation.releaseAnimationId number id s.ids
          running := s.running - 1 } := by
  unfold removeAnimation
  cases hfind : s.findAnimation id with
  | none => exact Or.inl ⟨rfl, rfl⟩
  | some b =>
      obtain ⟨hid, first, last, hl, hb, herase⟩ := findAnimation_eq_some hfind
      refine Or.inr ⟨b, first, last, rfl, hid, hb, hl, ?_⟩
      simp only [herase]

/-! ### The count and the frames -/

theorem exact_iff (hs : s.Sound) : s.Exact call ↔ s.Meets call := by
  cases call with
  | addAnimation given e stored layer timing =>
      have hcount : s.Exact (.addAnimation given e stored layer timing) ↔
          (s.addAnimation given e stored layer timing).2.running =
            (s.addAnimation given e stored layer timing).2.animations.length :=
        and_iff_right nofun
      rw [hcount]
      rcases addAnimation_cases (s := s) given e stored layer timing with
        ⟨hrefused, ha, hr, -⟩ | ⟨⟨hgiven, hlayer, hdata⟩, ha, hr, -⟩
      · rw [ha, hr]
        refine iff_of_true hs.running fun h1 h2 h3 => ?_
        exact absurd ⟨h1, h2, h3⟩ hrefused
      · rw [ha, hr, hs.running]
        cases stored with
        | false => simpa [Meets, hgiven, hlayer, hdata] using inc32_ne s.animations.length
        | true =>
            simpa [Meets, hgiven, hlayer, hdata] using inc32_eq_add_one_iff s.animations.length
  | removeAnimation number layer id =>
      refine iff_of_true ⟨nofun, ?_⟩ trivial
      show (s.removeAnimation number id).2.running =
        (s.removeAnimation number id).2.animations.length
      rcases removeAnimation_cases (s := s) number id with
        ⟨-, ht⟩ | ⟨b, first, last, -, -, -, hl, ht⟩
      · rw [ht, hs.running]
      · rw [ht, hs.running, hl]
        simp
  | compositeFrame e =>
      cases hactive : s.active with
      | false =>
          have ht : s.step (.compositeFrame e) = s := by simp [step, compositeFrame, hactive]
          refine iff_of_true ⟨fun _ _ h => ?_, ?_⟩ fun h => ?_
          · exact absurd (hactive.symm.trans h) nofun
          · rw [ht]
            exact hs.running
          · exact absurd (hactive.symm.trans h) nofun
      | true =>
          have ht : s.step (.compositeFrame e) = s.nextFrame.processAnimations e := by
            simp [step, compositeFrame, hactive]
          have hnext : s.nextFrame.Sound := ⟨hs.running, hs.objects, hs.made⟩
          have hthinned := thinned_processAnimations e hnext.running
          have hexact : s.Exact (.compositeFrame e) ↔
              (s.nextFrame.processAnimations e).animations =
                s.animations.filterMap (TimedAnimation.fate s.nextFrame.time) := by
            unfold Exact
            rw [ht]
            simp [hactive, hthinned.running]
          rw [hexact, Meets]
          simp only [hactive, forall_const]
          exact processAnimations_exact_iff hnext

theorem frame_thinned (e : CleanupEnv) (hs : s.Sound) : Thinned s (s.compositeFrame e).2 := by
  unfold compositeFrame
  split
  · exact ⟨hs.running, List.Sublist.refl _, rfl, rfl⟩
  · have hthinned := thinned_processAnimations (s := s.nextFrame) e hs.running
    exact ⟨hthinned.running, hthinned.objects, hthinned.ids, hthinned.made⟩

theorem sound_step (hs : s.Sound) (hexact : s.Exact call) : (s.step call).Sound := by
  cases call with
  | addAnimation given e stored layer timing =>
      have hcount : (s.addAnimation given e stored layer timing).2.running =
        (s.addAnimation given e stored layer timing).2.animations.length := hexact.2
      rcases addAnimation_cases (s := s) given e stored layer timing with
        ⟨-, ha, -, hm⟩ | ⟨-, ha, -, hm⟩
      · exact ⟨hcount, ha ▸ hs.objects, by rw [step, ha, hm]; exact hs.made⟩
      · refine ⟨hcount, ?_, ?_⟩
        · rw [step, ha]
          split
          · rw [List.map_append, List.map_singleton, List.nodup_append]
            refine ⟨hs.objects, List.nodup_singleton _, ?_⟩
            rintro o ho o' ho' rfl
            obtain ⟨a, hmem, rfl⟩ := List.mem_map.mp ho
            exact Nat.ne_of_lt (hs.made a hmem) (List.mem_singleton.mp ho')
          · exact hs.objects
        · rw [step, ha, hm]
          intro a hmem
          split at hmem
          · rcases List.mem_append.mp hmem with hold | hnew
            · exact Nat.lt_succ_of_lt (hs.made a hold)
            · rw [List.mem_singleton.mp hnew]
              exact Nat.lt_succ_self _
          · exact Nat.lt_succ_of_lt (hs.made a hmem)
  | removeAnimation number layer id =>
      have hcount : (s.removeAnimation number id).2.running =
        (s.removeAnimation number id).2.animations.length := hexact.2
      rcases removeAnimation_cases (s := s) number id with
        ⟨-, ht⟩ | ⟨b, first, last, -, -, -, hl, ht⟩
      · rw [step, ht]
        exact hs
      · have hless : (first ++ last).Sublist s.animations := by
          rw [hl]
          exact (List.sublist_cons_self b last).append_left first
        refine ⟨hcount, ?_, ?_⟩
        · rw [step, ht]
          exact hs.objects.sublist (hless.map _)
        · rw [step, ht]
          intro a hmem
          exact hs.made a (hless.subset hmem)
  | compositeFrame e => exact (frame_thinned e hs).sound hs

/-! ### The ids -/

theorem mem_releaseAnimationId_iff {number : Bool} {id : Nat} {ids : IdPool} (hid : id ≠ 0) :
    id ∈ (CoreAnimation.releaseAnimationId number id ids).released ↔
      id ∈ ids.released ∨ id < ids.next ∧ number = true := by
  unfold CoreAnimation.releaseAnimationId
  split
  · next hbad =>
    have hge : ¬ id < ids.next := by omega
    simp [hge]
  split
  · next hmem => simp [hmem]
  next hgood hmem =>
  have hlt : id < ids.next := by omega
  have htake : ∀ n, id ∉ ids.released.take n := fun n h => hmem (List.mem_of_mem_take h)
  cases number with
  | true => simp [IdPool.release, hlt]
  | false =>
      split
      · simp [hmem]
      · simp [hmem, htake]

/-- One animation taken out is the one that is gone. -/
theorem gone_iff {first last : List TimedAnimation} {b : TimedAnimation}
    (hobjects : ((first ++ b :: last).map TimedAnimation.object).Nodup) (released : List Nat) :
    (∀ a ∈ first ++ b :: last, a.object ∉ (first ++ last).map TimedAnimation.object →
      a.animationId ∈ released) ↔ b.animationId ∈ released := by
  constructor
  · intro hall
    apply hall b (List.mem_append_right _ List.mem_cons_self)
    rw [List.map_append, List.map_cons, List.nodup_middle, List.nodup_cons] at hobjects
    rw [List.map_append]
    exact hobjects.1
  · intro hb a ha hgone
    rcases List.mem_append.mp ha with hfirst | hrest
    · exact absurd (List.mem_map_of_mem (List.mem_append_left _ hfirst)) hgone
    rcases List.mem_cons.mp hrest with rfl | hlast
    · exact hb
    · exact absurd (List.mem_map_of_mem (List.mem_append_right _ hlast)) hgone

/-- After an exact frame the finished animations are gone, and no others. -/
theorem not_mem_filterMap_fate_iff {time : ℚ} {l : List TimedAnimation} {a : TimedAnimation}
    (hl : (l.map TimedAnimation.object).Nodup) (ha : a ∈ l) :
    a.object ∉ (l.filterMap (TimedAnimation.fate time)).map TimedAnimation.object ↔
      a.finished time = true := by
  rw [TimedAnimation.filterMap_fate, TimedAnimation.map_object_stepped]
  constructor
  · intro hgone
    by_contra hfin
    have hkept : a ∈ l.filter fun a => !a.finished time :=
      List.mem_filter.mpr ⟨ha, by simpa using hfin⟩
    exact hgone (List.mem_map_of_mem hkept)
  · intro hfin hmem
    obtain ⟨b, hb, hba⟩ := List.mem_map.mp hmem
    obtain ⟨hbl, hbfin⟩ := List.mem_filter.mp hb
    have hsame : b = a := List.inj_on_of_nodup_map hl hbl ha hba
    rw [hsame, hfin] at hbfin
    exact absurd hbfin nofun

theorem recycles_iff (hs : s.Sound) (hexact : s.Exact call) :
    s.Recycles call ↔ s.MeetsIds call := by
  cases call with
  | addAnimation given e stored layer timing =>
      refine iff_of_true (fun a ha hgone => ?_) trivial
      refine absurd (List.mem_map_of_mem ?_) hgone
      rcases addAnimation_cases (s := s) given e stored layer timing with
        ⟨-, hl, -, -⟩ | ⟨-, hl, -, -⟩
      · rw [step, hl]
        exact ha
      · rw [step, hl]
        split
        · exact List.mem_append_left _ ha
        · exact ha
  | removeAnimation number layer id =>
      have hmeets : s.MeetsIds (.removeAnimation number layer id) ↔
        ((s.findAnimation id).isSome → s.Releasable number id) := Iff.rfl
      rw [hmeets]
      unfold Recycles
      rcases removeAnimation_cases (s := s) number id with
        ⟨hfind, ht⟩ | ⟨b, first, last, hfind, hid, hb, hl, ht⟩
      · rw [step, ht, hfind]
        exact iff_of_true (fun a ha hgone => absurd (List.mem_map_of_mem ha) hgone) nofun
      · rw [step, ht, hfind, hl]
        simp only [Option.isSome_some, forall_const]
        rw [Releasable, ← mem_releaseAnimationId_iff hid, gone_iff (hl ▸ hs.objects), hb]
  | compositeFrame e =>
      have hmeets : s.MeetsIds (.compositeFrame e) ↔ (s.active = true → ∀ a ∈ s.animations,
        a.finished s.nextFrame.time = true → a.animationId ∈ s.ids.released) := Iff.rfl
      have hids : (s.step (.compositeFrame e)).ids = s.ids := (frame_thinned e hs).ids
      rw [hmeets]
      unfold Recycles
      rw [hids]
      cases hactive : s.active with
      | false =>
          have ht : s.step (.compositeFrame e) = s := by simp [step, compositeFrame, hactive]
          rw [ht]
          exact iff_of_true (fun a ha hgone => absurd (List.mem_map_of_mem ha) hgone) nofun
      | true =>
          rw [hexact.1 e rfl hactive]
          simp only [forall_const]
          refine forall₂_congr fun a ha => ?_
          rw [not_mem_filterMap_fate_iff hs.objects ha]

/-! ## All runs -/

theorem sound_init (layers : Nat → Bool) (active : Bool) (frameNumber : Nat) :
    (init layers active frameNumber).Sound :=
  ⟨rfl, List.nodup_nil, nofun⟩

/-- **In every run, a frame removes the finished animations and no others, and
`animations_running` counts what is stored, exactly as long as every animation added is
stored and counted, and the second look finds again what the first one has counted. The
ids of removed animations can be used again exactly as long as, besides, no frame removes
any.** -/
theorem along_lifetimes_iff (layers : Nat → Bool) (active : Bool) (frameNumber : Nat)
    (calls : List AnimationCall) :
    let s := init layers active frameNumber
    ((machine s).Along Exact s calls ↔ (machine s).Along Meets s calls) ∧
    ((machine s).Along (fun s call => s.Exact call ∧ s.Recycles call) s calls ↔
      (machine s).Along (fun s call => s.Meets call ∧ s.MeetsIds call) s calls) := by
  intro s
  have hs : s.Sound := sound_init layers active frameNumber
  constructor
  · refine (machine s).along_iff_along (I := Sound) ?_ ?_ hs
    · intro r call t hr hexact hstep
      exact Option.some.inj hstep ▸ sound_step hr hexact
    · intro r call t hr _
      exact exact_iff hr
  · refine (machine s).along_iff_along (I := Sound) ?_ ?_ hs
    · intro r call t hr hright hstep
      exact Option.some.inj hstep ▸ sound_step hr hright.1
    · intro r call t hr _
      rw [← exact_iff hr]
      exact and_congr_right fun hexact => recycles_iff hr hexact

/-- A hundredth of a second, once or twice. -/
def hundredth (repeatCount : ℚ) : AnimationTiming := ⟨1 / 100, by norm_num, repeatCount⟩

/-- One animation is restarted in the frame in which another one ends: both are removed. -/
theorem restarted_removed :
    ¬ (machine (init (fun _ => true) true 0)).Along Exact (init (fun _ => true) true 0)
      [.addAnimation true .granting true 1 (hundredth 1),
        .addAnimation true .granting true 1 (hundredth 0),
        .compositeFrame ⟨true, fun _ => true⟩] := by
  intro halong
  have hframe := halong.2.2.1.1 _ rfl rfl
  exact absurd (congrArg List.length hframe) (by decide +kernel)

end AnimationRun
end VMQemuVGA
