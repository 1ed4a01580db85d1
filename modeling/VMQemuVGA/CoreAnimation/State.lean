import Mathlib.Logic.Function.Basic
import VMQemuVGA.IOKit
import VMQemuVGA.Lib.IdPool
import VMQemuVGA.Lib.Machine

/-! # `VMCoreAnimationAccelerator`

A layer is an object in an array, in a dictionary under its id and, once it has
been made a sublayer, in the layer tree. The root layer and the animations name
their layers by id. -/

namespace VMQemuVGA

/-- `VMCAAnimationType`. -/
inductive AnimationType where
  | basic
  | keyframe
  | group
  | transition
  | spring
  | unknown
  deriving DecidableEq, Repr

/-- `AnimationRecord`, with what is read of its descriptor here. -/
structure AnimationRecord where
  animationId : Nat
  layerId : Nat
  type : AnimationType
  repeatCount : Nat
  /-- how many layers were older than its layer; the code keeps no such note -/
  born : Nat
  deriving DecidableEq, Repr

/-! ## Surroundings -/

/-- What the kernel grants during a call. -/
structure LayerEnv where
  /-- the `OSData` of the properties or of the record -/
  data : Bool
  /-- the second `OSData` of `createLayer` -/
  info : Bool
  /-- `m_layers` has room or grows -/
  layers : Bool
  /-- `m_layer_map` has room or grows -/
  map : Bool
  /-- a released id can be written down -/
  number : Bool

def LayerEnv.granting : LayerEnv := ⟨true, true, true, true, true⟩

/-- What a frame gets, animation by animation. -/
structure FrameEnv where
  /-- `elapsed / duration` has reached `1.0` -/
  due : Nat → Bool
  /-- type, values and key path make the animation change a property -/
  writes : Nat → Bool
  /-- the new `OSData` of the layer it changes -/
  data : Nat → Bool
  /-- `completed_indices` -/
  indices : Bool
  /-- a completed index can be written down -/
  number : Nat → Bool

/-- Every animation changes its layer, and none is over. -/
def FrameEnv.moving : FrameEnv :=
  ⟨fun _ => false, fun _ => true, fun _ => true, true, fun _ => true⟩

/-! ## State -/

structure CoreAnimation where
  /-- `m_layers`; an object is the number it was made under -/
  layers : List Nat
  /-- `m_layer_map` -/
  layerMap : Nat → Option Nat
  /-- `m_layer_tree` -/
  layerTree : List Nat
  animations : List AnimationRecord
  rootLayerId : Nat
  /-- `m_next_layer_id` and `m_released_layer_ids` -/
  layerIds : IdPool
  /-- `m_next_animation_id` and `m_released_animation_ids` -/
  animationIds : IdPool
  compositorActive : Bool
  animationsRunning : Nat
  /-- how many objects were made -/
  made : Nat
  /-- how many layers were created -/
  created : Nat
  /-- the layers that were not destroyed: their ids, and how many were older -/
  live : List (Nat × Nat)

namespace CoreAnimation

def init : CoreAnimation where
  layers := []
  layerMap := fun _ => none
  layerTree := []
  animations := []
  rootLayerId := 0
  layerIds := ⟨1, []⟩
  animationIds := ⟨1, []⟩
  compositorActive := false
  animationsRunning := 0
  made := 0
  created := 0
  live := []

def findLayer (id : Nat) (s : CoreAnimation) : Option Nat := s.layerMap id

def findAnimation (id : Nat) (s : CoreAnimation) : Option AnimationRecord :=
  if id = 0 then none else s.animations.find? fun a => a.animationId == id

/-! ### Ids -/

/-- The id `allocateLayerId` hands out. -/
def nextLayerId (s : CoreAnimation) : Nat := (s.layerIds.allocate u32).1

/-- `releaseLayerId`: no more than 128 ids are kept. -/
def releaseLayerId (number : Bool) (id : Nat) (ids : IdPool) : IdPool :=
  if id = 0 ∨ id ≥ ids.next then ids
  else if id ∈ ids.released then ids
  else if ids.released.length < 128 ∧ number = true then ids.release id
  else ids

/-- `releaseAnimationId`: of 256 ids the 64 oldest make room. -/
def releaseAnimationId (number : Bool) (id : Nat) (ids : IdPool) : IdPool :=
  if id = 0 ∨ id ≥ ids.next then ids
  else if id ∈ ids.released then ids
  else
    let kept : IdPool :=
      if ids.released.length < 256 then ids
      else { ids with released := ids.released.take (ids.released.length - 64) }
    if number then kept.release id else kept

/-! ### Layers -/

def createLayer (e : LayerEnv) (s : CoreAnimation) : Except IOReturn Nat × CoreAnimation :=
  let id := s.nextLayerId
  let ids := (s.layerIds.allocate u32).2
  if e.data = false ∨ e.info = false then
    (.error .noMemory, { s with layerIds := releaseLayerId e.number id ids })
  else
    (.ok id, { s with
      layerIds := ids
      layers := if e.layers then s.layers ++ [s.made] else s.layers
      layerMap := if e.map then Function.update s.layerMap id (some s.made) else s.layerMap
      made := s.made + 1
      created := s.created + 1
      live := (id, s.created) :: s.live })

/-- `destroyLayer`: the root layer and the animations are not looked at. -/
def destroyLayer (number : Bool) (id : Nat) (s : CoreAnimation) : IOReturn × CoreAnimation :=
  match s.findLayer id with
  | none => (.notFound, s)
  | some o =>
      (.success, { s with
        layerTree := s.layerTree.erase o
        layerMap := Function.update s.layerMap id none
        layers := s.layers.erase o
        layerIds := releaseLayerId number id s.layerIds
        live := s.live.filter fun l => l.1 ≠ id })

/-- `updateLayerProperties`: a new object takes the place of the old one, but
not in the tree. -/
def updateLayerProperties (data : Bool) (id : Nat) (s : CoreAnimation) :
    IOReturn × CoreAnimation :=
  match s.findLayer id with
  | none => (.notFound, s)
  | some o =>
      if data = false then (.noMemory, s)
      else
        (.success, { s with
          layerMap := Function.update s.layerMap id (some s.made)
          layers := s.layers.replace o s.made
          made := s.made + 1 })

/-- `addSublayer`; `stored` says whether the tree has room or grows. -/
def addSublayer (stored : Bool) (parent child : Nat) (s : CoreAnimation) :
    IOReturn × CoreAnimation :=
  match s.findLayer parent, s.findLayer child with
  | some _, some o =>
      if o ∈ s.layerTree ∨ stored = false then (.success, s)
      else (.success, { s with layerTree := s.layerTree ++ [o] })
  | _, _ => (.notFound, s)

/-- `removeSublayer`; the parent makes no difference. -/
def removeSublayer (child : Nat) (s : CoreAnimation) : IOReturn × CoreAnimation :=
  match s.findLayer child with
  | none => (.notFound, s)
  | some o => (.success, { s with layerTree := s.layerTree.erase o })

def setRootLayer (id : Nat) (s : CoreAnimation) : IOReturn × CoreAnimation :=
  match s.findLayer id with
  | none => (.notFound, s)
  | some _ => (.success, { s with rootLayerId := id })

/-! ### Animations -/

/-- `addAnimation`; `stored` says whether the array has room or grows. -/
def addAnimation (e : LayerEnv) (stored : Bool) (layer : Nat) (type : AnimationType)
    (repeatCount : Nat) (s : CoreAnimation) : Except IOReturn Nat × CoreAnimation :=
  match s.findLayer layer with
  | none => (.error .notFound, s)
  | some _ =>
      let id := (s.animationIds.allocate u32).1
      let ids := (s.animationIds.allocate u32).2
      if e.data = false then
        (.error .noMemory, { s with animationIds := releaseAnimationId e.number id ids })
      else
        (.ok id, { s with
          animationIds := ids
          animations :=
            if stored then
              s.animations ++ [⟨id, layer, type, repeatCount, (s.live.lookup layer).getD 0⟩]
            else s.animations
          animationsRunning := inc32 s.animationsRunning })

/-- `removeAnimation`; the layer makes no difference. -/
def removeAnimation (number : Bool) (id : Nat) (s : CoreAnimation) : IOReturn × CoreAnimation :=
  match s.findAnimation id with
  | none => (.notFound, s)
  | some _ =>
      (.success, { s with
        animations := s.animations.eraseP fun a => a.animationId == id
        animationIds := releaseAnimationId number id s.animationIds
        animationsRunning := s.animationsRunning - 1 })

/-! ### The compositor -/

/-- `startCompositor` clears the state of the compositor, running animations
included. -/
def startCompositor (s : CoreAnimation) : CoreAnimation :=
  if s.compositorActive = true then s
  else { s with compositorActive := true, animationsRunning := 0 }

/-- `stopCompositor`: everything goes, but no id is released. -/
def stopCompositor (s : CoreAnimation) : CoreAnimation :=
  if s.compositorActive = false then s
  else
    { s with
      layers := []
      animations := []
      layerMap := fun _ => none
      layerTree := []
      compositorActive := false
      rootLayerId := 0
      live := [] }

/-- The layer an animation changes. A keyframe animation does not ask for its
own. -/
def target (a : AnimationRecord) (s : CoreAnimation) : Option Nat :=
  match a.type with
  | .basic => some a.layerId
  | .keyframe => some (if s.rootLayerId = 0 ∧ s.layers ≠ [] then 1 else s.rootLayerId)
  | _ => none

/-- The `i`th animation, in the loop of `processAnimations`. -/
def animate (e : FrameEnv) (s : CoreAnimation) (p : AnimationRecord × Nat) : CoreAnimation :=
  match s.target p.1 with
  | none => s
  | some id => if e.writes p.2 then (s.updateLayerProperties (e.data p.2) id).2 else s

/-- What has to be repeated is not over. -/
def rewind (e : FrameEnv) (p : AnimationRecord × Nat) : AnimationRecord :=
  if e.due p.2 = true ∧ p.1.repeatCount > 0 then
    { p.1 with repeatCount := p.1.repeatCount - 1 }
  else p.1

/-- The completed animations, as they are counted. -/
def completed (e : FrameEnv) (animations : List AnimationRecord) : Nat :=
  (animations.zipIdx.filter fun p => e.due p.2 && p.1.repeatCount == 0).length

/-- What `cleanupCompletedAnimations` leaves, given how many it was told of. The
last ones go where it cannot make a list. -/
def remaining (e : FrameEnv) (count : Nat) (animations : List AnimationRecord) :
    List AnimationRecord :=
  if e.indices = false then animations.take (animations.length - count)
  else
    (animations.zipIdx.filter fun p =>
      !(e.due p.2 && p.1.repeatCount == 0 && e.number p.2)).map Prod.fst

/-- `cleanupCompletedAnimations`. No id is released. -/
def cleanupCompletedAnimations (e : FrameEnv) (count : Nat) (s : CoreAnimation) : CoreAnimation :=
  if count = 0 then s
  else
    { s with
      animations := remaining e count s.animations
      animationsRunning := s.animationsRunning -
        (s.animations.length - (remaining e count s.animations).length) }

def processAnimations (e : FrameEnv) (s : CoreAnimation) : CoreAnimation :=
  if s.animationsRunning = 0 then s
  else
    let t := s.animations.zipIdx.foldl (animate e) s
    cleanupCompletedAnimations e (completed e s.animations)
      { t with animations := s.animations.zipIdx.map (rewind e) }

def compositeFrame (e : FrameEnv) (s : CoreAnimation) : IOReturn × CoreAnimation :=
  if s.compositorActive = false then (.notReady, s) else (.success, s.processAnimations e)

end CoreAnimation

/-! ## Runs -/

inductive LayerCall where
  | createLayer (e : LayerEnv)
  | destroyLayer (number : Bool) (id : Nat)
  | updateLayerProperties (data : Bool) (id : Nat)
  | addSublayer (stored : Bool) (parent child : Nat)
  | removeSublayer (parent child : Nat)
  | setRootLayer (id : Nat)
  | addAnimation (e : LayerEnv) (stored : Bool) (layer : Nat) (type : AnimationType)
      (repeatCount : Nat)
  | removeAnimation (number : Bool) (layer id : Nat)
  | compositeFrame (e : FrameEnv)
  | startCompositor
  | stopCompositor

namespace CoreAnimation

def step (s : CoreAnimation) : LayerCall → CoreAnimation
  | .createLayer e => (s.createLayer e).2
  | .destroyLayer number id => (s.destroyLayer number id).2
  | .updateLayerProperties data id => (s.updateLayerProperties data id).2
  | .addSublayer stored parent child => (s.addSublayer stored parent child).2
  | .removeSublayer _ child => (s.removeSublayer child).2
  | .setRootLayer id => (s.setRootLayer id).2
  | .addAnimation e stored layer type repeatCount =>
      (s.addAnimation e stored layer type repeatCount).2
  | .removeAnimation number _ id => (s.removeAnimation number id).2
  | .compositeFrame e => (s.compositeFrame e).2
  | .startCompositor => s.startCompositor
  | .stopCompositor => s.stopCompositor

def machine : Machine CoreAnimation LayerCall where
  init := init
  step := fun s call => some (s.step call)

end CoreAnimation
end VMQemuVGA
