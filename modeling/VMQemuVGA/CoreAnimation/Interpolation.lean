import Mathlib.Algebra.Order.Group.Abs
import Mathlib.Data.Rat.Floor
import VMQemuVGA.CoreAnimation.Keyframes
import VMQemuVGA.CoreAnimation.State

/-! # What a frame does to the layers

An interpolation sets one property of a layer. There are two families of them: one is told
its layer, the other takes the root layer, or layer 1 if there is no root layer. The first
knows fewer key paths, and where it has to handle keyframes it calls the second.

Doubles are rationals here, floats are the rationals that rounding leaves. Times of keyframes
can be other things; what becomes of these is left open. -/

namespace VMQemuVGA

/-! ## Layers -/

/-- The members of `VMCALayerProperties` that an animation can set. -/
inductive LayerField where
  | positionX
  | positionY
  | boundsWidth
  | boundsHeight
  | opacity
  | transform (row column : Fin 4)
  | red
  | green
  | blue
  | alpha
  | cornerRadius
  deriving DecidableEq, Repr

/-- `VMCALayerProperties`. -/
abbrev LayerProperties : Type := LayerField → ℚ

/-- What is found under the id of each layer. -/
abbrev LayerContents : Type := Nat → LayerProperties

/-- The property that a key path names. -/
def KeyPath.Names : KeyPath → LayerField → Prop
  | .positionX, .positionX => True
  | .positionY, .positionY => True
  | .boundsWidth, .boundsWidth => True
  | .boundsHeight, .boundsHeight => True
  | .opacity, .opacity => True
  | .cornerRadius, .cornerRadius => True
  | .rotationZ, .transform _ _ => True
  | .scaleX, .transform _ _ => True
  | .scaleY, .transform _ _ => True
  | .backgroundColor, .red => True
  | .backgroundColor, .green => True
  | .backgroundColor, .blue => True
  | .backgroundColor, .alpha => True
  | _, _ => False

/-! ## Numbers -/

/-- The floating point unit. -/
structure FloatUnit where
  /-- the float that a double is stored as -/
  round : ℚ → ℚ
  /-- what the two loops leave of an angle; they subtract and add `TWO_PI`. This no longer
  changes a float beyond 2 to the 27th: for such an angle they do not end, and nothing is said
  of it here -/
  normalize : ℚ → ℚ
  /-- what stands for infinities, and for what is not a number -/
  special : Double → ℚ

/-- A unit that need not round, and angles that need not be normalized. -/
def FloatUnit.exact : FloatUnit := ⟨id, id, fun _ => 0⟩

/-- The number that the bits of a finite float stand for. -/
def floatValue (bits : Nat) : ℚ :=
  let exponent : Nat := bits / 2 ^ 23 % 2 ^ 8
  let fraction : Nat := bits % 2 ^ 23
  let magnitude : ℚ :=
    if exponent = 0 then (fraction : ℚ) / 2 ^ 149
    else (((2 ^ 23 + fraction) * 2 ^ exponent : Nat) : ℚ) / 2 ^ 150
  if bits / 2 ^ 31 % 2 = 1 then -magnitude else magnitude

/-- `*(float*)pointer`. -/
def floatAt (mem : Nat → UInt8) (a : Nat) : ℚ := floatValue (wordAt mem a)

/-- `applyEnhancedEasing`. -/
def applyEnhancedEasing (progress : ℚ) : TimingFunction → ℚ
  | .easeIn => progress * progress * progress
  | .easeOut => 1 + (progress - 1) * (progress - 1) * (progress - 1)
  | .easeInOut =>
      if progress < 1 / 2 then 4 * progress * progress * progress
      else 1 + 4 * (progress - 1) * (progress - 1) * (progress - 1)
  | .linear | .default => progress

namespace FloatUnit
variable (u : FloatUnit)

/-- A double in calculations. -/
def number : Double → ℚ
  | .finite q => q
  | x => u.special x

/-- `from_val + (to_val - from_val) * progress`. -/
def lerp (start stop progress : ℚ) : ℚ := u.round (start + u.round (stop - start) * progress)

/-- `opacity` stays between zero and one. -/
def clampOpacity (x : ℚ) : ℚ :=
  let low := if x < 0 then 0 else x
  if 1 < low then 1 else low

/-- `PI`. -/
def pi : ℚ := u.round (3141592654 / 1000000000)

/-- `cos_val` and `sin_val`. -/
def cosSin (angle : ℚ) : ℚ × ℚ :=
  let a := u.normalize angle
  let size := if a < 0 then -a else a
  if size ≤ u.round (u.pi / 2) then
    let square := u.round (a * a)
    let fourth := u.round (square * square)
    let sixth := u.round (fourth * square)
    (u.round (u.round (u.round (1 - u.round (square / 2)) + u.round (fourth / 24)) -
        u.round (sixth / 720)),
      u.round (u.round (u.round (a - u.round (u.round (a * square) / 6)) +
        u.round (u.round (a * fourth) / 120)) - u.round (u.round (a * sixth) / 5040)))
  else
    let reduced := u.round (u.pi - size)
    let square := u.round (reduced * reduced)
    let fourth := u.round (square * square)
    let cosReduced := u.round (u.round (1 - u.round (square / 2)) + u.round (fourth / 24))
    let sinReduced := u.round (u.round (reduced - u.round (u.round (reduced * square) / 6)) +
      u.round (u.round (reduced * fourth) / 120))
    (-cosReduced, if a < 0 then -sinReduced else sinReduced)

/-- The matrix of a rotation. -/
def rotation (angle : ℚ) (row column : Fin 4) : ℚ :=
  let (cos, sin) := u.cosSin angle
  match row, column with
  | 0, 0 => cos
  | 0, 1 => -sin
  | 1, 0 => sin
  | 1, 1 => cos
  | 2, 2 => 1
  | 3, 3 => 1
  | _, _ => 0

/-- One of the four components of a color, as a float. -/
def component (start stop : Nat) (progress : ℚ) : ℚ :=
  u.round (⌊(start : ℚ) + ((stop : ℚ) - start) * progress⌋ / 255)

end FloatUnit

/-! ## Properties set -/

def setField (field : LayerField) (x : ℚ) (p : LayerProperties) : LayerProperties :=
  Function.update p field x

def setTransform (matrix : Fin 4 → Fin 4 → ℚ) (p : LayerProperties) : LayerProperties
  | .transform row column => matrix row column
  | field => p field

/-- `background_color`, from the four bytes of a color. -/
def setColor (u : FloatUnit) (start stop : Nat) (progress : ℚ) (p : LayerProperties) :
    LayerProperties
  | .red => u.component (start / 2 ^ 24 % 256) (stop / 2 ^ 24 % 256) progress
  | .green => u.component (start / 2 ^ 16 % 256) (stop / 2 ^ 16 % 256) progress
  | .blue => u.component (start / 2 ^ 8 % 256) (stop / 2 ^ 8 % 256) progress
  | .alpha => u.component (start % 256) (stop % 256) progress
  | field => p field

/-! ## What an interpolation sets -/

namespace AnimationDescriptor
variable (u : FloatUnit) (d : AnimationDescriptor) (progress : ℚ)

/-- `interpolateBasicAnimation`, past its null checks. -/
def basicChange (start stop : Nat → UInt8) : KeyPath → Option (LayerProperties → LayerProperties)
  | .positionX => some (setField .positionX (u.lerp (floatAt start 0) (floatAt stop 0) progress))
  | .positionY => some (setField .positionY (u.lerp (floatAt start 0) (floatAt stop 0) progress))
  | .boundsWidth =>
      some (setField .boundsWidth (u.lerp (floatAt start 0) (floatAt stop 0) progress))
  | .boundsHeight =>
      some (setField .boundsHeight (u.lerp (floatAt start 0) (floatAt stop 0) progress))
  | .opacity => some (setField .opacity
      (FloatUnit.clampOpacity (u.lerp (floatAt start 0) (floatAt stop 0) progress)))
  | .rotationZ =>
      some (setTransform (u.rotation (u.lerp (floatAt start 0) (floatAt stop 0) progress)))
  | .scaleX =>
      some (setField (.transform 0 0) (u.lerp (floatAt start 0) (floatAt stop 0) progress))
  | .scaleY =>
      some (setField (.transform 1 1) (u.lerp (floatAt start 0) (floatAt stop 0) progress))
  | .backgroundColor => some (setColor u (wordAt start 0) (wordAt stop 0) progress)
  | .cornerRadius =>
      some (setField .cornerRadius (u.lerp (floatAt start 0) (floatAt stop 0) progress))
  | .other => none

/-- `interpolateBasicAnimationForLayer`, past its null checks. -/
def basicChangeForLayer (start stop : Nat → UInt8) :
    KeyPath → Option (LayerProperties → LayerProperties)
  | .positionX => some (setField .positionX (u.lerp (floatAt start 0) (floatAt stop 0) progress))
  | .positionY => some (setField .positionY (u.lerp (floatAt start 0) (floatAt stop 0) progress))
  | .opacity => some (setField .opacity
      (FloatUnit.clampOpacity (u.lerp (floatAt start 0) (floatAt stop 0) progress)))
  | _ => none

/-- A keyframe between the ends, for a property that is a float. -/
def curveValue (start stop : ℚ) (i : Nat) : ℚ :=
  let time := u.number (d.keyframeTime i)
  let range := u.round (stop - start)
  let base := u.round (start + range * time)
  match d.timingFunction with
  | .easeIn =>
      if i = d.keyframeCount - 2 then u.round (base + u.round (range * u.round (8 / 100)))
      else base
  | .easeOut => if i = 1 then u.round (base + u.round (range * u.round (12 / 100))) else base
  | .easeInOut =>
      u.round (base + u.round (u.round (range * u.round (6 / 100)) * (1 - 2 * |time - 1 / 2|)))
  | .linear | .default =>
      if d.keyframeCount > 4 ∧ i > 1 ∧ i < d.keyframeCount - 2 then
        u.round (base + u.round (u.round (range * u.round (3 / 100)) * (1 - 2 * |time - 1 / 2|)))
      else base

/-- A keyframe between the ends of a rotation. -/
def spinValue (start stop : ℚ) (i : Nat) : ℚ :=
  let time := u.number (d.keyframeTime i)
  let base := u.round (start + u.round (stop - start) * time)
  match d.timingFunction with
  | .easeIn => u.round (base + u.round (8 / 10 * time * time))
  | .easeOut => u.round (base + u.round (6 / 10 * (1 - (1 - time) * (1 - time))))
  | .easeInOut =>
      let middle := 1 - 2 * |time - 1 / 2|
      u.round (base + u.round (7 / 10 * middle * middle))
  | .linear | .default => u.round (base + u.round (4 / 10 * time * (1 - time)))

/-- `float_values[i]` or `rotation[i]`; both arrays are the first of the values. -/
def keyframeValue (between : ℚ → ℚ → Nat → ℚ) (type : Nat) (start stop : Nat → UInt8)
    (i : Nat) : ℚ :=
  if d.detectKeyframes.1 = true ∧ d.keyframeType = type then floatAt start (88 + 4 * i)
  else if i = 0 then floatAt start 0
  else if i = d.keyframeCount - 1 then floatAt stop 0
  else between (floatAt start 0) (floatAt stop 0) i

/-- `eased_local_progress`. -/
def easedLocalProgress : ℚ :=
  let segment := d.currentSegment progress
  let start := d.keyframeTime segment
  let duration := (d.keyframeTime (segment + 1)).sub start
  let progress :=
    if (Double.finite 0).lt duration then
      (clampProgress progress - u.number start) / u.number duration
    else 0
  match d.timingFunction with
  | .easeIn => progress * progress * progress
  | .easeOut => 1 - (1 - progress) * (1 - progress) * (1 - progress)
  | .easeInOut =>
      if progress < 1 / 2 then 4 * progress * progress * progress
      else 1 + 4 * (progress - 1) * (progress - 1) * (progress - 1)
  | .linear | .default => progress

/-- `current_val` or `current_rotation`. -/
def currentValue (value : Nat → ℚ) : ℚ :=
  let segment := d.currentSegment progress
  u.round (value segment +
    u.round (value (segment + 1) - value segment) * d.easedLocalProgress u progress)

def floatKeyframes (start stop : Nat → UInt8) : ℚ :=
  d.currentValue u progress (d.keyframeValue (d.curveValue u) 0 start stop)

/-- `interpolateKeyframeAnimation`, with both values given. -/
def keyframeChange (start stop : Nat → UInt8) :
    KeyPath → Option (LayerProperties → LayerProperties)
  | .positionX => some (setField .positionX (d.floatKeyframes u progress start stop))
  | .positionY => some (setField .positionY (d.floatKeyframes u progress start stop))
  | .boundsWidth => some (setField .boundsWidth (d.floatKeyframes u progress start stop))
  | .boundsHeight => some (setField .boundsHeight (d.floatKeyframes u progress start stop))
  | .opacity =>
      some (setField .opacity (FloatUnit.clampOpacity (d.floatKeyframes u progress start stop)))
  | .cornerRadius => some (setField .cornerRadius (d.floatKeyframes u progress start stop))
  | .rotationZ => some (setTransform
      (u.rotation (d.currentValue u progress (d.keyframeValue (d.spinValue u) 3 start stop))))
  -- the fallback to `interpolateBasicAnimation`
  | .scaleX => basicChange u (clampProgress progress) start stop .scaleX
  | .scaleY => basicChange u (clampProgress progress) start stop .scaleY
  | .backgroundColor => basicChange u (clampProgress progress) start stop .backgroundColor
  | .other => basicChange u (clampProgress progress) start stop .other

/-- The null checks: without a key path or one of the values nothing is set. -/
def given (change : (Nat → UInt8) → (Nat → UInt8) → KeyPath →
    Option (LayerProperties → LayerProperties)) : Option (LayerProperties → LayerProperties) :=
  match d.keyPath, d.fromValue, d.toValue with
  | some path, some start, some stop => change start stop path
  | _, _, _ => none

end AnimationDescriptor

/-! ## Frames -/

/-- A stored animation: what is read of its record and its descriptor. -/
structure LayerAnimation where
  layerId : Nat
  type : AnimationType
  repeatCount : ℚ
  descriptor : AnimationDescriptor

/-- The accelerator when the frame of an active compositor starts. -/
structure Scene where
  /-- `findLayer` finds a layer -/
  present : Nat → Bool
  /-- `m_layers->getCount()` -/
  layerCount : Nat
  /-- `m_root_layer_id` -/
  root : Nat
  /-- `animations_running` -/
  running : Nat
  /-- the `timestamp` of the frame -/
  timestamp : ℚ
  animations : List LayerAnimation

/-- `progress`; a quotient by zero is infinite. -/
def LayerAnimation.progress (timestamp : ℚ) (a : LayerAnimation) : ℚ :=
  if a.descriptor.duration = 0 ∨ 1 ≤ timestamp / a.descriptor.duration then
    if 0 < a.repeatCount then 0 else 1
  else timestamp / a.descriptor.duration

/-- `eased_progress`. -/
def LayerAnimation.eased (timestamp : ℚ) (a : LayerAnimation) : ℚ :=
  applyEnhancedEasing (a.progress timestamp) a.descriptor.timingFunction

namespace Scene
variable (u : FloatUnit) (s : Scene)

/-- `getLayerProperties` and `updateLayerProperties`; `data` says whether the new `OSData`
is granted. -/
def change (data : Bool) (layer : Nat) (f : Option (LayerProperties → LayerProperties))
    (c : LayerContents) : LayerContents :=
  match f with
  | some set =>
      if s.present layer = true ∧ data = true then Function.update c layer (set (c layer)) else c
  | none => c

/-- `target_layer_id`, where there is no layer to be told. -/
def targetLayer : Nat := if s.root = 0 ∧ s.layerCount > 0 then 1 else s.root

/-! ### The layer-less family, with its target -/

def interpolateBasicAnimation (data : Bool) (target : Nat) (d : AnimationDescriptor)
    (progress : ℚ) : LayerContents → LayerContents :=
  s.change data target
    (d.given (AnimationDescriptor.basicChange u (AnimationDescriptor.clampProgress progress)))

def interpolateKeyframeAnimation (data : Bool) (target : Nat) (d : AnimationDescriptor)
    (progress : ℚ) : LayerContents → LayerContents :=
  s.change data target (d.given (d.keyframeChange u progress))

/-! ### The family that is told its layer -/

def interpolateBasicAnimationForLayer (data : Bool) (d : AnimationDescriptor) (target : Nat)
    (progress : ℚ) : LayerContents → LayerContents :=
  s.change data target
    (d.given (AnimationDescriptor.basicChangeForLayer u
      (AnimationDescriptor.clampProgress progress)))

/-- The layer is not passed on. -/
def interpolateKeyframeAnimationForLayer (data : Bool) (d : AnimationDescriptor) (_target : Nat)
    (progress : ℚ) : LayerContents → LayerContents :=
  s.interpolateKeyframeAnimation u data s.targetLayer d progress

/-! ### The loop -/

/-- One turn of `processAnimations`; groups, transitions and springs are only logged. -/
def turn (data : Bool) (a : LayerAnimation) (c : LayerContents) : LayerContents :=
  if s.running = 0 then c
  else
    match a.type with
    | .basic => s.interpolateBasicAnimationForLayer u data a.descriptor a.layerId
        (a.eased s.timestamp) c
    | .keyframe => s.interpolateKeyframeAnimationForLayer u data a.descriptor a.layerId
        (a.eased s.timestamp) c
    | .group | .transition | .spring | .unknown => c

/-- The turns, one after the other; the kernel decides for each whether it gets its data. -/
def processAnimations (data : Nat → Bool) (c : LayerContents) : LayerContents :=
  s.animations.zipIdx.foldl (fun c a => s.turn u (data a.2) a.1 c) c

/-! ## What is asked of a frame -/

/-- The layer-less interpolation with the layer of the animation as its target. -/
def referenceTurn (data : Bool) (a : LayerAnimation) : LayerContents → LayerContents :=
  match a.type with
  | .basic => s.interpolateBasicAnimation u data a.layerId a.descriptor (a.eased s.timestamp)
  | .keyframe => s.interpolateKeyframeAnimation u data a.layerId a.descriptor (a.eased s.timestamp)
  | .group | .transition | .spring | .unknown => id

def referenceFrame (data : Nat → Bool) (c : LayerContents) : LayerContents :=
  s.animations.zipIdx.foldl (fun c a => s.referenceTurn u (data a.2) a.1 c) c

/-- Whatever the layers look like, each animation does to its layer what the layer-less
interpolation would have done to it, and so does the frame; what the frame changes belongs
to a stored animation. -/
structure Right (data : Nat → Bool) : Prop where
  turns : ∀ a ∈ s.animations.zipIdx, ∀ c,
    s.turn u (data a.2) a.1 c = s.referenceTurn u (data a.2) a.1 c
  frame : ∀ c, s.processAnimations u data c = s.referenceFrame u data c
  named : ∀ c layer field, s.processAnimations u data c layer field ≠ c layer field →
    ∃ a ∈ s.animations, a.layerId = layer ∧
      ∃ path, a.descriptor.keyPath = some path ∧ path.Names field

end Scene

/-- One of the three key paths that both families know. -/
def AnimationDescriptor.Shared (d : AnimationDescriptor) : Prop :=
  d.keyPath = some .positionX ∨ d.keyPath = some .positionY ∨ d.keyPath = some .opacity

/-- Both values are given, and a key path that the layer-less interpolation knows. -/
def AnimationDescriptor.Supported (d : AnimationDescriptor) : Prop :=
  d.fromValue.isSome = true ∧ d.toValue.isSome = true ∧
    ∃ path, d.keyPath = some path ∧ path ≠ .other

namespace Scene
variable (s : Scene)

/-- A basic animation of a layer that exists has one of three key paths, and a keyframe
animation has its layer for the target, unless neither of them exists. -/
def Served (a : LayerAnimation) : Prop :=
  match a.type with
  | .basic => s.present a.layerId = true → s.running ≠ 0 ∧ a.descriptor.Shared
  | .keyframe =>
      (s.present a.layerId = true → s.running ≠ 0 ∧ s.targetLayer = a.layerId) ∧
        (s.running ≠ 0 → s.present s.targetLayer = true → s.targetLayer = a.layerId)
  | .group | .transition | .spring | .unknown => True

/-- The condition on a frame. -/
def Meets (data : Nat → Bool) : Prop :=
  ∀ a ∈ s.animations.zipIdx, data a.2 = true → a.1.descriptor.Supported → s.Served a.1

end Scene

/-! ## Changes -/

/-- It sets what the key path names, and makes a difference to some layer. -/
structure KeyPath.Sets (path : KeyPath) (f : LayerProperties → LayerProperties) : Prop where
  moves : ∃ p, f p ≠ p
  named : ∀ p field, f p field ≠ p field → path.Names field

theorem setField_sets {path : KeyPath} {field : LayerField} (x : ℚ) (h : path.Names field) :
    path.Sets (setField field x) := by
  constructor
  · refine ⟨fun _ => x + 1, fun heq => ?_⟩
    have hfield := congrFun heq field
    rw [setField, Function.update_self] at hfield
    exact absurd hfield.symm (by simp)
  · intro p other hne
    by_cases hother : other = field
    · exact hother ▸ h
    · rw [setField, Function.update_of_ne hother] at hne
      exact absurd rfl hne

theorem setTransform_sets (matrix : Fin 4 → Fin 4 → ℚ) :
    KeyPath.rotationZ.Sets (setTransform matrix) := by
  constructor
  · refine ⟨fun _ => matrix 0 0 + 1, fun heq => ?_⟩
    have hfield := congrFun heq (.transform 0 0)
    exact absurd hfield.symm (by simp [setTransform])
  · intro p field hne
    cases field with
    | transform row column => trivial
    | _ => exact absurd rfl hne

theorem setColor_sets (u : FloatUnit) (start stop : Nat) (progress : ℚ) :
    KeyPath.backgroundColor.Sets (setColor u start stop progress) := by
  constructor
  · refine ⟨fun _ => setColor u start stop progress (fun _ => 0) .red + 1, fun heq => ?_⟩
    have hfield := congrFun heq .red
    exact absurd hfield.symm (by simp [setColor])
  · intro p field hne
    cases field with
    | red | green | blue | alpha => trivial
    | _ => exact absurd rfl hne

namespace AnimationDescriptor
variable {u : FloatUnit} {d : AnimationDescriptor} {progress : ℚ} {start stop : Nat → UInt8}
  {path : KeyPath}

theorem basicChange_sets (h : path ≠ .other) :
    ∃ f, basicChange u progress start stop path = some f ∧ path.Sets f := by
  cases path with
  | positionX | positionY | boundsWidth | boundsHeight | opacity | cornerRadius | scaleX | scaleY =>
      exact ⟨_, rfl, setField_sets _ trivial⟩
  | rotationZ => exact ⟨_, rfl, setTransform_sets _⟩
  | backgroundColor => exact ⟨_, rfl, setColor_sets u _ _ progress⟩
  | other => exact absurd rfl h

theorem keyframeChange_sets (h : path ≠ .other) :
    ∃ f, d.keyframeChange u progress start stop path = some f ∧ path.Sets f := by
  cases path with
  | positionX | positionY | boundsWidth | boundsHeight | opacity | cornerRadius =>
      exact ⟨_, rfl, setField_sets _ trivial⟩
  | rotationZ => exact ⟨_, rfl, setTransform_sets _⟩
  | scaleX | scaleY | backgroundColor => exact basicChange_sets h
  | other => exact absurd rfl h

theorem given_congr {change change' : (Nat → UInt8) → (Nat → UInt8) → KeyPath →
      Option (LayerProperties → LayerProperties)}
    (h : ∀ start stop path, d.keyPath = some path →
      change start stop path = change' start stop path) :
    d.given change = d.given change' := by
  unfold given
  split
  next path start stop hpath _ _ => exact h start stop path hpath
  next => rfl

theorem given_none (d : AnimationDescriptor) : d.given (fun _ _ _ => none) = none := by
  unfold given
  split <;> rfl

theorem given_basicChangeForLayer (u : FloatUnit) (progress : ℚ) (d : AnimationDescriptor) :
    (d.Shared ∧ d.given (basicChangeForLayer u progress) = d.given (basicChange u progress)) ∨
      (¬ d.Shared ∧ d.given (basicChangeForLayer u progress) = none) := by
  by_cases hshared : d.Shared
  · refine Or.inl ⟨hshared, given_congr fun start stop path hpath => ?_⟩
    rcases hshared with h | h | h
    all_goals
      rw [hpath] at h
      obtain rfl := Option.some.inj h
      rfl
  · refine Or.inr ⟨hshared, ?_⟩
    rw [← d.given_none]
    refine given_congr fun start stop path hpath => ?_
    cases path with
    | positionX => exact absurd (Or.inl hpath) hshared
    | positionY => exact absurd (Or.inr (Or.inl hpath)) hshared
    | opacity => exact absurd (Or.inr (Or.inr hpath)) hshared
    | _ => rfl

/-- What is given and supported sets something; the rest sets nothing. -/
theorem given_cases {change : (Nat → UInt8) → (Nat → UInt8) → KeyPath →
      Option (LayerProperties → LayerProperties)}
    (hsets : ∀ start stop path, path ≠ .other → ∃ f, change start stop path = some f ∧ path.Sets f)
    (hother : ∀ start stop, change start stop .other = none) (d : AnimationDescriptor) :
    (d.Supported ∧ ∃ f path, d.given change = some f ∧ d.keyPath = some path ∧ path.Sets f) ∨
      (¬ d.Supported ∧ d.given change = none) := by
  obtain ⟨key, start, stop, duration, timing⟩ := d
  match key, start, stop with
  | none, _, _ => exact Or.inr ⟨fun h => Option.some_ne_none _ h.2.2.choose_spec.1.symm, rfl⟩
  | some _, none, _ => exact Or.inr ⟨fun h => Bool.false_ne_true h.1, rfl⟩
  | some _, some _, none => exact Or.inr ⟨fun h => Bool.false_ne_true h.2.1, rfl⟩
  | some path, some start, some stop =>
      by_cases hpath : path = .other
      · subst hpath
        refine Or.inr ⟨?_, hother start stop⟩
        rintro ⟨-, -, path, hsome, hne⟩
        exact hne (Option.some.inj hsome).symm
      · obtain ⟨f, hf, hset⟩ := hsets start stop path hpath
        exact Or.inl ⟨⟨rfl, rfl, path, rfl, hpath⟩, f, path, hf, rfl, hset⟩

end AnimationDescriptor

/-! ## Turns -/

namespace Scene
variable {u : FloatUnit} {s : Scene} {data : Bool} {layer layer' : Nat}
  {f : LayerProperties → LayerProperties} {path : KeyPath} {a : LayerAnimation}

/-- Nothing can be written to the layer. -/
theorem change_idle (f : Option (LayerProperties → LayerProperties)) (c : LayerContents)
    (h : ¬ (s.present layer = true ∧ data = true)) : s.change data layer f c = c := by
  cases f with
  | none => rfl
  | some set => exact if_neg h

theorem change_some (h : s.present layer = true ∧ data = true) (c : LayerContents) :
    s.change data layer (some f) c = Function.update c layer (f (c layer)) := if_pos h

/-- A change that makes a difference makes it to a layer that can be written to. -/
theorem exists_change_ne (hf : path.Sets f) (h : s.present layer = true ∧ data = true) :
    ∃ c, s.change data layer (some f) c layer ≠ c layer := by
  obtain ⟨p, hp⟩ := hf.moves
  refine ⟨fun _ => p, ?_⟩
  rw [change_some h, Function.update_self]
  exact hp

theorem change_other (f : Option (LayerProperties → LayerProperties)) (c : LayerContents)
    (h : layer' ≠ layer) : s.change data layer f c layer' = c layer' := by
  unfold change
  split
  · split
    · rw [Function.update_of_ne h]
    · rfl
  · rfl

theorem change_eq_self_iff (hf : path.Sets f) :
    (∀ c, c = s.change data layer (some f) c) ↔ (data = true → s.present layer = false) := by
  constructor
  · intro h hdata
    rw [Bool.eq_false_iff]
    intro hpresent
    obtain ⟨c, hc⟩ := exists_change_ne hf ⟨hpresent, hdata⟩
    exact hc (congrFun (h c) layer).symm
  · intro h c
    refine (change_idle _ c fun hboth => ?_).symm
    exact Bool.false_ne_true ((h hboth.2).symm.trans hboth.1)

/-- The same change to two layers is the same only if it reaches neither of them. -/
theorem change_eq_change_iff (hf : path.Sets f) :
    (∀ c, s.change data layer (some f) c = s.change data layer' (some f) c) ↔
      (data = true → (s.present layer' = true → layer = layer') ∧
        (s.present layer = true → layer = layer')) := by
  constructor
  · intro h hdata
    constructor
    · intro hpresent
      by_contra hne
      obtain ⟨c, hc⟩ := exists_change_ne hf ⟨hpresent, hdata⟩
      rw [← h c, change_other _ c (Ne.symm hne)] at hc
      exact hc rfl
    · intro hpresent
      by_contra hne
      obtain ⟨c, hc⟩ := exists_change_ne hf ⟨hpresent, hdata⟩
      rw [h c, change_other _ c hne] at hc
      exact hc rfl
  · intro h c
    by_cases hsame : layer = layer'
    · rw [hsame]
    · rw [change_idle _ c fun hboth => hsame ((h hboth.2).2 hboth.1),
        change_idle _ c fun hboth => hsame ((h hboth.2).1 hboth.1)]

/-- What a change changes is named by the key path. -/
theorem change_named {change : (Nat → UInt8) → (Nat → UInt8) → KeyPath →
      Option (LayerProperties → LayerProperties)}
    (hsets : ∀ start stop path, path ≠ .other → ∃ f, change start stop path = some f ∧ path.Sets f)
    (hother : ∀ start stop, change start stop .other = none) {d : AnimationDescriptor}
    {c : LayerContents} {field : LayerField}
    (h : s.change data layer (d.given change) c layer' field ≠ c layer' field) :
    layer = layer' ∧ ∃ path, d.keyPath = some path ∧ path.Names field := by
  by_cases hlayer : layer' = layer
  · subst hlayer
    refine ⟨rfl, ?_⟩
    rcases AnimationDescriptor.given_cases hsets hother d with
      ⟨-, f, path, hf, hpath, hset⟩ | ⟨-, hf⟩
    · refine ⟨path, hpath, hset.named (c layer') field fun heq => h ?_⟩
      by_cases hboth : s.present layer' = true ∧ data = true
      · rw [hf, change_some hboth, Function.update_self, heq]
      · rw [change_idle _ c hboth]
    · rw [hf] at h
      exact absurd rfl h
  · rw [change_other _ c hlayer] at h
    exact absurd rfl h

theorem referenceTurn_named {c : LayerContents} {field : LayerField}
    (h : s.referenceTurn u data a c layer field ≠ c layer field) :
    a.layerId = layer ∧ ∃ path, a.descriptor.keyPath = some path ∧ path.Names field := by
  unfold referenceTurn at h
  cases htype : a.type with
  | basic =>
      rw [htype] at h
      exact change_named (fun _ _ _ => AnimationDescriptor.basicChange_sets) (fun _ _ => rfl) h
  | keyframe =>
      rw [htype] at h
      exact change_named (fun _ _ _ => AnimationDescriptor.keyframeChange_sets) (fun _ _ => rfl) h
  | group | transition | spring | unknown =>
      rw [htype] at h
      exact absurd rfl h

/-! ### Turn by turn -/

theorem basic_turn_iff (htype : a.type = .basic) :
    (∀ c, s.turn u data a c = s.referenceTurn u data a c) ↔
      (data = true → a.descriptor.Supported → s.Served a) := by
  unfold turn referenceTurn Served
  rw [htype]
  dsimp only [interpolateBasicAnimation, interpolateBasicAnimationForLayer]
  generalize AnimationDescriptor.clampProgress (a.eased s.timestamp) = progress
  rcases AnimationDescriptor.given_cases (fun _ _ _ => AnimationDescriptor.basicChange_sets)
    (fun _ _ => rfl) a.descriptor with ⟨hsupported, f, path, hf, -, hset⟩ | ⟨hnot, hf⟩
  · rcases AnimationDescriptor.given_basicChangeForLayer u progress a.descriptor with
      ⟨hshared, hsame⟩ | ⟨hother, hnone⟩
    · by_cases hrunning : s.running = 0
      · simp only [hrunning, if_true]
        rw [hf, change_eq_self_iff hset]
        simp [hsupported]
      · simp [hrunning, hsame, hshared]
    · rw [hnone, hf]
      have hidle : ∀ c, (if s.running = 0 then c else s.change data a.layerId none c) = c :=
        fun c => by split <;> rfl
      simp only [hidle]
      rw [change_eq_self_iff hset]
      simp [hsupported, hother]
  · rw [hf]
    refine iff_of_true (fun c => ?_) fun _ hsupported => absurd hsupported hnot
    rcases AnimationDescriptor.given_basicChangeForLayer u progress a.descriptor with
      ⟨-, hsame⟩ | ⟨-, hnone⟩
    · rw [hsame, hf]
      split <;> rfl
    · rw [hnone]
      split <;> rfl

theorem keyframe_turn_iff (htype : a.type = .keyframe) :
    (∀ c, s.turn u data a c = s.referenceTurn u data a c) ↔
      (data = true → a.descriptor.Supported → s.Served a) := by
  unfold turn referenceTurn Served
  rw [htype]
  dsimp only [interpolateKeyframeAnimation, interpolateKeyframeAnimationForLayer]
  rcases AnimationDescriptor.given_cases (fun _ _ _ => AnimationDescriptor.keyframeChange_sets)
    (fun _ _ => rfl) a.descriptor with ⟨hsupported, f, path, hf, -, hset⟩ | ⟨hnot, hf⟩
  · rw [hf]
    by_cases hrunning : s.running = 0
    · simp only [hrunning, if_true]
      rw [change_eq_self_iff hset]
      simp [hsupported]
    · simp only [hrunning, if_false]
      rw [change_eq_change_iff hset]
      simp [hsupported, hrunning]
  · rw [hf]
    refine iff_of_true (fun c => ?_) fun _ hsupported => absurd hsupported hnot
    split <;> rfl

/-- **One turn.** -/
theorem turn_right_iff : (∀ c, s.turn u data a c = s.referenceTurn u data a c) ↔
    (data = true → a.descriptor.Supported → s.Served a) := by
  cases htype : a.type with
  | basic => exact basic_turn_iff htype
  | keyframe => exact keyframe_turn_iff htype
  | group | transition | spring | unknown =>
      unfold turn referenceTurn Served
      rw [htype]
      refine iff_of_true (fun c => ?_) fun _ _ => trivial
      split <;> rfl

/-! ## Frames -/

/-- What a run of turns changes, one of the turns changes. -/
theorem exists_of_foldl_ne {α β γ : Type} {f : β → α → β} (look : β → γ) {l : List α} {b : β}
    (h : look (l.foldl f b) ≠ look b) : ∃ a ∈ l, ∃ b', look (f b' a) ≠ look b' := by
  induction l generalizing b with
  | nil => exact absurd rfl h
  | cons a l ih =>
      by_cases hfirst : look (f b a) = look b
      · obtain ⟨a', ha', hne⟩ := ih (b := f b a) (by rwa [hfirst])
        exact ⟨a', List.mem_cons_of_mem a ha', hne⟩
      · exact ⟨a, List.mem_cons_self, b, hfirst⟩

/-- A frame changes what a key path of a stored animation names in its layer, if its turns
do. -/
theorem named_of_turns {data : Nat → Bool} (hturns : ∀ a ∈ s.animations.zipIdx, ∀ c,
      s.turn u (data a.2) a.1 c = s.referenceTurn u (data a.2) a.1 c)
    {c : LayerContents} {field : LayerField}
    (h : s.processAnimations u data c layer field ≠ c layer field) :
    ∃ a ∈ s.animations, a.layerId = layer ∧
      ∃ path, a.descriptor.keyPath = some path ∧ path.Names field := by
  obtain ⟨a, ha, c', hne⟩ := exists_of_foldl_ne (fun c : LayerContents => c layer field) h
  rw [hturns a ha c'] at hne
  exact ⟨a.1, (List.mem_zipIdx' ha).2 ▸ List.getElem_mem _, referenceTurn_named hne⟩

/-- **When a frame does to the layers what it should.** -/
theorem compositeFrame_right_iff (u : FloatUnit) (s : Scene) (data : Nat → Bool) :
    s.Right u data ↔ s.Meets data := by
  constructor
  · intro h a ha
    exact turn_right_iff.mp (h.turns a ha)
  · intro h
    have hturns := fun a ha => turn_right_iff (u := u).mpr (h a ha)
    exact ⟨hturns, fun c => List.foldl_ext _ _ c fun c' a ha => hturns a ha c',
      fun c layer field => named_of_turns hturns⟩

/-- A keyframe animation for the opacity of layer 2. -/
def fading : LayerAnimation where
  layerId := 2
  type := .keyframe
  repeatCount := 0
  descriptor := {
    keyPath := some .opacity
    fromValue := some fun _ => 0
    toValue := some fun a => [0, 0, 0x80, 0x3F].getD a 0
    duration := 1
    timingFunction := .linear }

/-- Two layers; the other one is the root layer. -/
def stray : Scene where
  present := fun id => id == 1 || id == 2
  layerCount := 2
  root := 1
  running := 1
  timestamp := 16667 / 1000000
  animations := [fading]

/-- **The root layer changes instead.** -/
theorem stray_changes_root : ¬ stray.Right .exact fun _ => true := by
  intro h
  rcases AnimationDescriptor.given_cases (fun _ _ _ => AnimationDescriptor.keyframeChange_sets
      (u := .exact) (d := fading.descriptor))
    (fun _ _ => rfl) fading.descriptor with ⟨-, f, path, hf, -, hset⟩ | ⟨hnot, -⟩
  · obtain ⟨c, hc⟩ : ∃ c, stray.change true 1 (some f) c 1 ≠ c 1 :=
      exists_change_ne hset ⟨rfl, rfl⟩
    have hframe : stray.processAnimations .exact (fun _ => true) c =
        stray.change true 1 (some f) c := by
      rw [← hf]
      rfl
    rw [← hframe] at hc
    obtain ⟨field, hfield⟩ := Function.ne_iff.mp hc
    obtain ⟨a, ha, hlayer, -⟩ := h.named c 1 field hfield
    obtain rfl := List.mem_singleton.mp ha
    exact absurd hlayer (by decide)
  · exact hnot ⟨rfl, rfl, .opacity, rfl, by decide⟩

end Scene

end VMQemuVGA
