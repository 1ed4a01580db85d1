import VMQemuVGA.CoreAnimation.State
import VMQemuVGA.Lib.Numbering

/-! # The links between layers

What holds of every run is how ids and objects are supplied. What is to hold of
the links, each call keeps under a condition of its own. -/

namespace VMQemuVGA
namespace CoreAnimation
open Numbering
variable {s : CoreAnimation}

/-! ## The invariant -/

/-- The ids of the layers. -/
def liveIds (s : CoreAnimation) : List Nat := s.live.map Prod.fst

/-- Ids and objects are handed out once. -/
structure Supplied (s : CoreAnimation) : Prop where
  ids : IdPool.Tidy u32 s.liveIds s.layerIds
  layers : Objects s.made s.layers
  map : Dictionary s.made s.layerMap
  tree : Objects s.made s.layerTree
  known : ∀ id o, s.layerMap id = some o → id ∈ s.liveIds

/-- The links as they are meant. -/
structure Linked (s : CoreAnimation) : Prop where
  ids : s.liveIds.Nodup
  recycled : ∀ id ∈ s.liveIds, id ∉ s.layerIds.released
  once : s.layers.Nodup
  layers : Matches s.layers s.layerMap
  tree : ∀ o ∈ s.layerTree, ∃ id ∈ s.liveIds, s.layerMap id = some o
  root : s.rootLayerId = 0 ∨ s.rootLayerId ∈ s.liveIds
  animations : ∀ a ∈ s.animations, (a.layerId, a.born) ∈ s.live

/-- Where ids and objects are supplied, the first three are. -/
theorem Supplied.linked_iff (h : Supplied s) :
    s.Linked ↔ Matches s.layers s.layerMap ∧ Within s.layerTree s.layerMap ∧
      (s.rootLayerId = 0 ∨ s.rootLayerId ∈ s.liveIds) ∧
        ∀ a ∈ s.animations, (a.layerId, a.born) ∈ s.live := by
  constructor
  · intro hl
    refine ⟨hl.layers, fun o ho => ?_, hl.root, hl.animations⟩
    obtain ⟨id, -, hid⟩ := hl.tree o ho
    exact ⟨id, hid⟩
  · rintro ⟨hlayers, htree, hroot, hanimations⟩
    refine ⟨h.ids.live_nodup, fun id hid => h.ids.not_mem_released hid, h.layers.once, hlayers,
      fun o ho => ?_, hroot, hanimations⟩
    obtain ⟨id, hid⟩ := htree o ho
    exact ⟨id, h.known id o hid, hid⟩

theorem Linked.within (h : s.Linked) : Within s.layerTree s.layerMap := fun o ho =>
  (h.tree o ho).imp fun _ hid => hid.2

theorem supplied_init : Supplied init where
  ids := IdPool.tidy_start (by decide)
  layers := .nil 0
  map := .empty 0
  tree := .nil 0
  known := fun _ _ h => (by cases h)

theorem linked_init : init.Linked :=
  supplied_init.linked_iff.mpr ⟨fun o => ⟨fun h => (by cases h), fun ⟨_, h⟩ => (by cases h)⟩,
    fun o ho => (by cases ho), Or.inl rfl, fun a ha => (by cases ha)⟩

/-- An id that is neither a layer's nor released. -/
theorem tidy_releaseLayerId {live : List Nat} {ids : IdPool} {id : Nat} {number : Bool}
    (h : IdPool.Tidy u32 (id :: live) ids) :
    IdPool.Tidy u32 live (releaseLayerId number id ids) := by
  unfold releaseLayerId
  split
  · exact h.forget
  · split
    · exact h.forget
    · split
      · exact h.release
      · exact h.forget

/-! ## The condition -/

/-- The layer is not in the tree. -/
def OffTree (s : CoreAnimation) (id : Nat) : Prop :=
  ∀ o, s.layerMap id = some o → o ∉ s.layerTree

/-- The layers a frame changes. -/
def changed (e : FrameEnv) (s : CoreAnimation) : List Nat :=
  if s.compositorActive = false ∨ s.animationsRunning = 0 then []
  else
    s.animations.zipIdx.filterMap fun p =>
      if e.writes p.2 = true ∧ e.data p.2 = true then s.target p.1 else none

/-- The condition on a call. -/
def Keeps (s : CoreAnimation) : LayerCall → Prop
  | .createLayer e => e.data = true → e.info = true → e.layers = e.map
  | .destroyLayer _ id =>
      s.layerMap id ≠ none → s.rootLayerId ≠ id ∧ ∀ a ∈ s.animations, a.layerId ≠ id
  | .updateLayerProperties data id => data = true → s.OffTree id
  | .compositeFrame e => ∀ id ∈ s.changed e, s.OffTree id
  | _ => True

/-- A new id is drawn before the counter has come round. -/
def InTime (s : CoreAnimation) : LayerCall → Prop
  | .createLayer _ => s.layerIds.Unwrapped
  | _ => True

instance (s : CoreAnimation) : ∀ call, Decidable (s.InTime call)
  | .createLayer _ => inferInstanceAs (Decidable s.layerIds.Unwrapped)
  | .destroyLayer .. | .updateLayerProperties .. | .addSublayer .. | .removeSublayer ..
  | .setRootLayer .. | .addAnimation .. | .removeAnimation .. | .compositeFrame .. => isTrue trivial
  | .startCompositor | .stopCompositor => isTrue trivial

/-! ## Creation -/

section Creation
variable {e : LayerEnv}

theorem createLayer_failed (h : ¬ (e.data = true ∧ e.info = true)) (s : CoreAnimation) :
    (s.createLayer e).2 = { s with
      layerIds := releaseLayerId e.number s.nextLayerId (s.layerIds.allocate u32).2 } := by
  have hfail : e.data = false ∨ e.info = false := by
    cases hd : e.data
    · exact Or.inl rfl
    · cases hi : e.info
      · exact Or.inr rfl
      · exact absurd ⟨hd, hi⟩ h
  unfold createLayer
  dsimp only
  rw [if_pos hfail]

theorem createLayer_made (h : e.data = true ∧ e.info = true) (s : CoreAnimation) :
    (s.createLayer e).2 = { s with
      layerIds := (s.layerIds.allocate u32).2
      layers := if e.layers then s.layers ++ [s.made] else s.layers
      layerMap :=
        if e.map then Function.update s.layerMap s.nextLayerId (some s.made) else s.layerMap
      made := s.made + 1
      created := s.created + 1
      live := (s.nextLayerId, s.created) :: s.live } := by
  unfold createLayer
  dsimp only
  rw [if_neg (by rw [h.1, h.2]; decide)]

/-- The id of a new layer maps nothing yet. -/
theorem Supplied.next_none (h : Supplied s) (hu : s.layerIds.Unwrapped) :
    s.layerMap s.nextLayerId = none := by
  have hnew := (h.ids.allocate hu).live_nodup
  cases hmap : s.layerMap s.nextLayerId with
  | none => rfl
  | some o => exact absurd (h.known _ o hmap) (List.nodup_cons.mp hnew).1

theorem Supplied.createLayer (h : Supplied s) (hu : s.layerIds.Unwrapped) (e : LayerEnv) :
    Supplied (s.createLayer e).2 := by
  by_cases hok : e.data = true ∧ e.info = true
  · rw [createLayer_made hok]
    refine ⟨h.ids.allocate hu, ?_, ?_, h.tree.mono (Nat.le_succ _), ?_⟩
    · dsimp only
      split
      · exact h.layers.append_next
      · exact h.layers.mono (Nat.le_succ _)
    · dsimp only
      split
      · exact h.map.enter _
      · exact h.map.mono (Nat.le_succ _)
    · intro id o ho
      dsimp only at ho
      show id ∈ s.nextLayerId :: s.liveIds
      split at ho
      · by_cases hid : id = s.nextLayerId
        · exact hid ▸ List.mem_cons_self
        · rw [Function.update_of_ne hid] at ho
          exact List.mem_cons_of_mem _ (h.known id o ho)
      · exact List.mem_cons_of_mem _ (h.known id o ho)
  · rw [createLayer_failed hok]
    exact ⟨tidy_releaseLayerId (h.ids.allocate hu), h.layers, h.map, h.tree, h.known⟩

theorem createLayer_linked_iff (h : Supplied s) (hu : s.layerIds.Unwrapped) (hl : s.Linked)
    (e : LayerEnv) : (s.createLayer e).2.Linked ↔ s.Keeps (.createLayer e) := by
  rw [(h.createLayer hu e).linked_iff]
  show _ ↔ (e.data = true → e.info = true → e.layers = e.map)
  by_cases hok : e.data = true ∧ e.info = true
  · rw [createLayer_made hok]
    have hnone := h.next_none hu
    simp only [hok.1, hok.2, true_imp_iff]
    constructor
    · rintro ⟨hlayers, -⟩
      cases he : e.layers with
      | true =>
          cases hm : e.map with
          | true => rfl
          | false =>
              rw [he, hm] at hlayers
              exact absurd hlayers (not_matches_append h.map s.layers)
      | false =>
          cases hm : e.map with
          | true =>
              rw [he, hm] at hlayers
              exact absurd hlayers (not_matches_update h.layers s.layerMap s.nextLayerId)
          | false => rfl
    · intro heq
      refine ⟨?_, ?_, hl.root.imp_right (List.mem_cons_of_mem _),
        fun a ha => List.mem_cons_of_mem _ (hl.animations a ha)⟩
      · rw [heq]
        split
        · exact hl.layers.enter hnone
        · exact hl.layers
      · split
        · exact hl.within.enter hnone
        · exact hl.within
  · rw [createLayer_failed hok]
    exact iff_of_true ⟨hl.layers, hl.within, hl.root, hl.animations⟩
      fun hd hi => absurd ⟨hd, hi⟩ hok

end Creation

/-! ## Destruction -/

section Destruction
variable {id o : Nat}

theorem destroyLayer_found (h : s.layerMap id = some o) (number : Bool) :
    (s.destroyLayer number id).2 = { s with
      layerTree := s.layerTree.erase o
      layerMap := Function.update s.layerMap id none
      layers := s.layers.erase o
      layerIds := releaseLayerId number id s.layerIds
      live := s.live.filter fun l => l.1 ≠ id } := by
  unfold destroyLayer findLayer
  rw [h]

theorem destroyLayer_none (h : s.layerMap id = none) (number : Bool) :
    (s.destroyLayer number id).2 = s := by
  unfold destroyLayer findLayer
  rw [h]

theorem liveIds_filter (s : CoreAnimation) (id : Nat) :
    (s.live.filter fun l => l.1 ≠ id).map Prod.fst = s.liveIds.filter fun i => i ≠ id := by
  unfold liveIds
  rw [List.filter_map]
  rfl

/-- The id of a layer that goes, and the ids of those that stay. -/
theorem Supplied.without (h : Supplied s) (hid : id ∈ s.liveIds) :
    IdPool.Tidy u32 (id :: s.liveIds.filter fun i => i ≠ id) s.layerIds := by
  have herase : s.liveIds.erase id = s.liveIds.filter fun i => i ≠ id := by
    rw [h.ids.live_nodup.erase_eq_filter]
    refine List.filter_congr fun i _ => Bool.eq_iff_iff.mpr ?_
    rw [bne_iff_ne, decide_eq_true_iff]
  rw [← herase]
  exact h.ids.perm (List.perm_cons_erase hid)

theorem Supplied.destroyLayer (h : Supplied s) (number : Bool) (id : Nat) :
    Supplied (s.destroyLayer number id).2 := by
  cases hmap : s.layerMap id with
  | none => exact (destroyLayer_none hmap number).symm ▸ h
  | some o =>
      rw [destroyLayer_found hmap]
      refine ⟨?_, h.layers.erase o, h.map.remove id, h.tree.erase o, fun i a ha => ?_⟩
      · unfold liveIds
        rw [liveIds_filter]
        exact tidy_releaseLayerId (h.without (h.known id o hmap))
      · dsimp only at ha
        unfold liveIds
        rw [liveIds_filter, List.mem_filter, decide_eq_true_iff]
        by_cases hi : i = id
        · rw [hi, Function.update_self] at ha
          cases ha
        · rw [Function.update_of_ne hi] at ha
          exact ⟨h.known i a ha, hi⟩

theorem destroyLayer_linked_iff (h : Supplied s) (hl : s.Linked) (number : Bool) (id : Nat) :
    (s.destroyLayer number id).2.Linked ↔ s.Keeps (.destroyLayer number id) := by
  rw [(h.destroyLayer number id).linked_iff]
  show _ ↔ (s.layerMap id ≠ none → s.rootLayerId ≠ id ∧ ∀ a ∈ s.animations, a.layerId ≠ id)
  cases hmap : s.layerMap id with
  | none =>
      rw [destroyLayer_none hmap]
      exact iff_of_true ⟨hl.layers, hl.within, hl.root, hl.animations⟩ fun hne => absurd rfl hne
  | some o =>
      have hpos : 0 < id := h.ids.pos (h.known id o hmap)
      rw [destroyLayer_found hmap]
      unfold liveIds
      simp only [liveIds_filter, List.mem_filter, decide_eq_true_iff]
      constructor
      · rintro ⟨-, -, hroot, hanimations⟩ -
        refine ⟨?_, fun a ha => (hanimations a ha).2⟩
        rcases hroot with hroot | ⟨-, hroot⟩
        · rw [hroot]
          exact Nat.ne_of_lt hpos
        · exact hroot
      · intro hok
        obtain ⟨hroot, hanimations⟩ := hok (Option.some_ne_none o)
        exact ⟨hl.layers.remove h.layers h.map hmap, hl.within.remove h.tree h.map hmap,
          hl.root.imp_right fun hlive => ⟨hlive, hroot⟩,
          fun a ha => ⟨hl.animations a ha, hanimations a ha⟩⟩

end Destruction

/-! ## New properties

A layer gets a new object everywhere but in the tree. -/

section Updates
variable {id o : Nat}

/-- What a change of properties leaves alone. -/
structure SameLinks (s t : CoreAnimation) : Prop where
  tree : t.layerTree = s.layerTree
  root : t.rootLayerId = s.rootLayerId
  ids : t.layerIds = s.layerIds
  live : t.live = s.live
  count : t.layers.length = s.layers.length

theorem SameLinks.refl (s : CoreAnimation) : SameLinks s s := ⟨rfl, rfl, rfl, rfl, rfl⟩

theorem SameLinks.trans {t u : CoreAnimation} (h : SameLinks s t) (h' : SameLinks t u) :
    SameLinks s u :=
  ⟨h'.tree.trans h.tree, h'.root.trans h.root, h'.ids.trans h.ids, h'.live.trans h.live,
    h'.count.trans h.count⟩

theorem updateLayerProperties_found (h : s.layerMap id = some o) :
    (s.updateLayerProperties true id).2 = { s with
      layerMap := Function.update s.layerMap id (some s.made)
      layers := s.layers.replace o s.made
      made := s.made + 1 } := by
  unfold updateLayerProperties findLayer
  rw [h]
  rfl

theorem updateLayerProperties_idle {data : Bool} (h : s.layerMap id = none ∨ data = false) :
    (s.updateLayerProperties data id).2 = s := by
  unfold updateLayerProperties findLayer
  rcases h with h | h
  · rw [h]
  · split
    · rfl
    · rw [if_pos h]

/-- **A change of properties.** -/
theorem updateLayerProperties_cases (s : CoreAnimation) (data : Bool) (id : Nat) :
    ((s.layerMap id = none ∨ data = false) ∧ (s.updateLayerProperties data id).2 = s) ∨
    ∃ o, s.layerMap id = some o ∧ data = true ∧ (s.updateLayerProperties data id).2 = { s with
      layerMap := Function.update s.layerMap id (some s.made)
      layers := s.layers.replace o s.made
      made := s.made + 1 } := by
  cases hmap : s.layerMap id with
  | none => exact Or.inl ⟨Or.inl rfl, updateLayerProperties_idle (Or.inl hmap)⟩
  | some o =>
      cases data with
      | false => exact Or.inl ⟨Or.inr rfl, updateLayerProperties_idle (Or.inr rfl)⟩
      | true => exact Or.inr ⟨o, rfl, rfl, updateLayerProperties_found hmap⟩

theorem sameLinks_update (s : CoreAnimation) (data : Bool) (id : Nat) :
    SameLinks s (s.updateLayerProperties data id).2 := by
  rcases updateLayerProperties_cases s data id with ⟨-, heq⟩ | ⟨o, -, -, heq⟩
  · rw [heq]
    exact .refl s
  · rw [heq]
    exact ⟨rfl, rfl, rfl, rfl, List.length_replace⟩

theorem Supplied.update (h : Supplied s) (data : Bool) (id : Nat) :
    Supplied (s.updateLayerProperties data id).2 := by
  rcases updateLayerProperties_cases s data id with ⟨-, heq⟩ | ⟨o, hmap, -, heq⟩
  · rw [heq]
    exact h
  · rw [heq]
    refine ⟨h.ids, h.layers.replace o, h.map.enter id, h.tree.mono (Nat.le_succ _),
      fun i a ha => ?_⟩
    by_cases hi : i = id
    · rw [hi]
      exact h.known id o hmap
    · dsimp only at ha
      rw [Function.update_of_ne hi] at ha
      exact h.known i a ha

/-- Array and dictionary change together. -/
theorem matches_update (h : Supplied s) (hm : Matches s.layers s.layerMap) (data : Bool)
    (id : Nat) :
    Matches (s.updateLayerProperties data id).2.layers
      (s.updateLayerProperties data id).2.layerMap := by
  rcases updateLayerProperties_cases s data id with ⟨-, heq⟩ | ⟨o, hmap, -, heq⟩
  · rw [heq]
    exact hm
  · rw [heq]
    exact hm.replace h.layers h.map hmap

/-- The tree does not. -/
theorem within_update_iff (h : Supplied s) (data : Bool) (id : Nat) :
    Within (s.updateLayerProperties data id).2.layerTree
        (s.updateLayerProperties data id).2.layerMap ↔
      Within s.layerTree s.layerMap ∧ (data = true → s.OffTree id) := by
  rcases updateLayerProperties_cases s data id with ⟨hidle, heq⟩ | ⟨o, hmap, hdata, heq⟩
  · rw [heq]
    refine ⟨fun hw => ⟨hw, fun hd o ho => ?_⟩, And.left⟩
    rcases hidle with hnone | hdata
    · rw [hnone] at ho
      cases ho
    · rw [hdata] at hd
      cases hd
  · rw [heq]
    refine (within_replace_iff h.tree h.map hmap).trans (and_congr_right fun _ => ?_)
    constructor
    · intro hoff _ a ha
      rw [hmap] at ha
      exact Option.some.inj ha ▸ hoff
    · intro hoff
      exact hoff hdata o hmap

/-- A layer that has just changed is off the tree, and the others are where they
were. -/
theorem offTree_update_iff (h : Supplied s) {data : Bool} (hoff : data = true → s.OffTree id)
    (id' : Nat) : (s.updateLayerProperties data id).2.OffTree id' ↔ s.OffTree id' := by
  rcases updateLayerProperties_cases s data id with ⟨-, heq⟩ | ⟨o, hmap, hdata, heq⟩
  · rw [heq]
  · rw [heq]
    by_cases hid : id' = id
    · subst hid
      refine iff_of_true (fun a ha => ?_) (hoff hdata)
      dsimp only at ha
      rw [Function.update_self] at ha
      exact Option.some.inj ha ▸ h.tree.next_not_mem
    · unfold OffTree
      dsimp only
      rw [Function.update_of_ne hid]

theorem updateLayerProperties_linked_iff (h : Supplied s) (hl : s.Linked) (data : Bool)
    (id : Nat) :
    (s.updateLayerProperties data id).2.Linked ↔ s.Keeps (.updateLayerProperties data id) := by
  have hsame := sameLinks_update s data id
  have hanimations : (s.updateLayerProperties data id).2.animations = s.animations := by
    rcases updateLayerProperties_cases s data id with ⟨-, heq⟩ | ⟨o, -, -, heq⟩
    · rw [heq]
    · rw [heq]
  rw [(h.update data id).linked_iff, within_update_iff h]
  unfold liveIds
  rw [hsame.root, hsame.live, hanimations]
  constructor
  · rintro ⟨-, ⟨-, hoff⟩, -⟩
    exact hoff
  · intro hoff
    exact ⟨matches_update h hl.layers data id, ⟨hl.within, hoff⟩, hl.root, hl.animations⟩

end Updates

/-! ## The tree, the root and the animations -/

section Rest

theorem Supplied.addSublayer (h : Supplied s) (stored : Bool) (parent child : Nat) :
    Supplied (s.addSublayer stored parent child).2 := by
  unfold CoreAnimation.addSublayer findLayer
  split
  · next _ o _ hchild =>
    split
    · exact h
    · next hnew =>
      rw [not_or] at hnew
      exact ⟨h.ids, h.layers, h.map, h.tree.append (h.map.old child o hchild) hnew.1, h.known⟩
  · exact h

theorem addSublayer_linked (h : Supplied s) (hl : s.Linked) (stored : Bool) (parent child : Nat) :
    (s.addSublayer stored parent child).2.Linked := by
  rw [(h.addSublayer stored parent child).linked_iff]
  unfold addSublayer findLayer
  split
  · next _ o _ hchild =>
    split
    · exact ⟨hl.layers, hl.within, hl.root, hl.animations⟩
    · exact ⟨hl.layers, hl.within.append hchild, hl.root, hl.animations⟩
  · exact ⟨hl.layers, hl.within, hl.root, hl.animations⟩

theorem Supplied.removeSublayer (h : Supplied s) (child : Nat) :
    Supplied (s.removeSublayer child).2 := by
  unfold CoreAnimation.removeSublayer
  split
  · exact h
  · exact ⟨h.ids, h.layers, h.map, h.tree.erase _, h.known⟩

theorem removeSublayer_linked (h : Supplied s) (hl : s.Linked) (child : Nat) :
    (s.removeSublayer child).2.Linked := by
  rw [(h.removeSublayer child).linked_iff]
  unfold removeSublayer
  split
  · exact ⟨hl.layers, hl.within, hl.root, hl.animations⟩
  · exact ⟨hl.layers, hl.within.erase _, hl.root, hl.animations⟩

theorem Supplied.setRootLayer (h : Supplied s) (id : Nat) : Supplied (s.setRootLayer id).2 := by
  unfold CoreAnimation.setRootLayer
  split
  · exact h
  · exact ⟨h.ids, h.layers, h.map, h.tree, h.known⟩

theorem setRootLayer_linked (h : Supplied s) (hl : s.Linked) (id : Nat) :
    (s.setRootLayer id).2.Linked := by
  rw [(h.setRootLayer id).linked_iff]
  unfold setRootLayer findLayer
  split
  · exact ⟨hl.layers, hl.within, hl.root, hl.animations⟩
  · next o hid => exact ⟨hl.layers, hl.within, Or.inr (h.known id o hid), hl.animations⟩

theorem Supplied.addAnimation (h : Supplied s) (e : LayerEnv) (stored : Bool) (layer : Nat)
    (type : AnimationType) (repeatCount : Nat) :
    Supplied (s.addAnimation e stored layer type repeatCount).2 := by
  unfold CoreAnimation.addAnimation
  split
  · exact h
  · dsimp only
    split
    · exact ⟨h.ids, h.layers, h.map, h.tree, h.known⟩
    · exact ⟨h.ids, h.layers, h.map, h.tree, h.known⟩

/-- What is noted down for a layer. -/
theorem lookup_mem {live : List (Nat × Nat)} {layer : Nat} (h : layer ∈ live.map Prod.fst) :
    (layer, (live.lookup layer).getD 0) ∈ live := by
  induction live with
  | nil => cases h
  | cons l ls ih =>
      obtain ⟨id, born⟩ := l
      by_cases hid : layer = id
      · subst hid
        rw [List.lookup_cons_self]
        exact List.mem_cons_self
      · rw [List.lookup_cons, beq_eq_false_iff_ne.mpr hid]
        rw [List.map_cons, List.mem_cons] at h
        exact List.mem_cons_of_mem _ (ih (h.resolve_left hid))

theorem addAnimation_linked (h : Supplied s) (hl : s.Linked) (e : LayerEnv) (stored : Bool)
    (layer : Nat) (type : AnimationType) (repeatCount : Nat) :
    (s.addAnimation e stored layer type repeatCount).2.Linked := by
  rw [(h.addAnimation e stored layer type repeatCount).linked_iff]
  unfold addAnimation findLayer
  split
  · exact ⟨hl.layers, hl.within, hl.root, hl.animations⟩
  · next o hlayer =>
    dsimp only
    split
    · exact ⟨hl.layers, hl.within, hl.root, hl.animations⟩
    · refine ⟨hl.layers, hl.within, hl.root, fun a ha => ?_⟩
      dsimp only at ha
      split at ha
      · rcases List.mem_append.mp ha with ha | ha
        · exact hl.animations a ha
        · rw [List.mem_singleton.mp ha]
          exact lookup_mem (h.known layer o hlayer)
      · exact hl.animations a ha

theorem Supplied.removeAnimation (h : Supplied s) (number : Bool) (id : Nat) :
    Supplied (s.removeAnimation number id).2 := by
  unfold CoreAnimation.removeAnimation
  split
  · exact h
  · exact ⟨h.ids, h.layers, h.map, h.tree, h.known⟩

theorem removeAnimation_linked (h : Supplied s) (hl : s.Linked) (number : Bool) (id : Nat) :
    (s.removeAnimation number id).2.Linked := by
  rw [(h.removeAnimation number id).linked_iff]
  unfold removeAnimation
  split
  · exact ⟨hl.layers, hl.within, hl.root, hl.animations⟩
  · exact ⟨hl.layers, hl.within, hl.root,
      fun a ha => hl.animations a (List.mem_of_mem_eraseP ha)⟩

theorem Supplied.startCompositor (h : Supplied s) : Supplied s.startCompositor := by
  unfold CoreAnimation.startCompositor
  split
  · exact h
  · exact ⟨h.ids, h.layers, h.map, h.tree, h.known⟩

theorem startCompositor_linked (h : Supplied s) (hl : s.Linked) : s.startCompositor.Linked := by
  rw [h.startCompositor.linked_iff]
  unfold startCompositor
  split
  · exact ⟨hl.layers, hl.within, hl.root, hl.animations⟩
  · exact ⟨hl.layers, hl.within, hl.root, hl.animations⟩

/-- The ids of all layers are lost at once. -/
theorem tidy_nil {live : List Nat} {ids : IdPool} (h : IdPool.Tidy u32 live ids) :
    IdPool.Tidy u32 [] ids := by
  induction live with
  | nil => exact h
  | cons id live ih => exact ih h.forget

theorem Supplied.stopCompositor (h : Supplied s) : Supplied s.stopCompositor := by
  unfold CoreAnimation.stopCompositor
  split
  · exact h
  · exact ⟨tidy_nil h.ids, .nil _, .empty _, .nil _, fun _ _ ho => (by cases ho)⟩

theorem stopCompositor_linked (h : Supplied s) (hl : s.Linked) : s.stopCompositor.Linked := by
  rw [h.stopCompositor.linked_iff]
  unfold stopCompositor
  split
  · exact ⟨hl.layers, hl.within, hl.root, hl.animations⟩
  · exact ⟨fun o => ⟨fun ho => (by cases ho), fun ⟨_, ho⟩ => (by cases ho)⟩,
      fun o ho => (by cases ho), Or.inl rfl, fun a ha => (by cases ha)⟩

end Rest

/-! ## Frames -/

section Frames
variable {e : FrameEnv}

/-- What an animation comes to: a change of one layer, or nothing. -/
def change (e : FrameEnv) (s : CoreAnimation) (p : AnimationRecord × Nat) : Option Nat :=
  if e.writes p.2 = true ∧ e.data p.2 = true then s.target p.1 else none

/-- What an animation changes does not depend on those before it. -/
theorem SameLinks.change_eq {t : CoreAnimation} (h : SameLinks s t)
    (p : AnimationRecord × Nat) : change e t p = change e s p := by
  have hnil : t.layers ≠ [] ↔ s.layers ≠ [] := by
    rw [← List.length_pos_iff, ← List.length_pos_iff, h.count]
  unfold change target
  rw [h.root]
  simp only [hnil]

/-- One animation. -/
theorem animate_cases (e : FrameEnv) (s : CoreAnimation) (p : AnimationRecord × Nat) :
    (change e s p = none ∧ animate e s p = s) ∨
    ∃ id, change e s p = some id ∧ animate e s p = (s.updateLayerProperties true id).2 := by
  unfold change animate
  cases htarget : s.target p.1 with
  | none => exact Or.inl ⟨ite_self none, rfl⟩
  | some id =>
      cases hwrites : e.writes p.2 with
      | false => exact Or.inl ⟨rfl, rfl⟩
      | true =>
          cases hdata : e.data p.2 with
          | false => exact Or.inl ⟨rfl, updateLayerProperties_idle (Or.inr rfl)⟩
          | true => exact Or.inr ⟨id, rfl, rfl⟩

/-- What a row of animations leaves, wherever it starts. -/
structure Animated (e : FrameEnv) (s : CoreAnimation) (ps : List (AnimationRecord × Nat))
    (t : CoreAnimation) : Prop where
  same : SameLinks s t
  supplied : Supplied t
  layers : Matches s.layers s.layerMap → Matches t.layers t.layerMap
  tree : Within t.layerTree t.layerMap ↔
    Within s.layerTree s.layerMap ∧ ∀ id ∈ ps.filterMap (change e s), s.OffTree id

theorem animated_foldl (h : Supplied s) (e : FrameEnv) (ps : List (AnimationRecord × Nat)) :
    Animated e s ps (ps.foldl (animate e) s) := by
  induction ps generalizing s with
  | nil => exact ⟨.refl s, h, id, ⟨fun hw => ⟨hw, fun _ hid => (by cases hid)⟩, And.left⟩⟩
  | cons p ps ih =>
      rw [List.foldl_cons]
      rcases animate_cases e s p with ⟨hchange, heq⟩ | ⟨id, hchange, heq⟩
      · rw [heq]
        obtain ⟨hsame, hsupplied, hlayers, htree⟩ := ih h
        refine ⟨hsame, hsupplied, hlayers, ?_⟩
        rw [List.filterMap_cons_none hchange]
        exact htree
      · rw [heq]
        have hsame₁ := sameLinks_update s true id
        obtain ⟨hsame, hsupplied, hlayers, htree⟩ := ih (h.update true id)
        refine ⟨hsame₁.trans hsame, hsupplied, fun hm => hlayers (matches_update h hm true id), ?_⟩
        have hchanges : ps.filterMap (change e (s.updateLayerProperties true id).2) =
            ps.filterMap (change e s) :=
          List.filterMap_congr fun q _ => hsame₁.change_eq q
        rw [htree, hchanges, within_update_iff h, List.filterMap_cons_some hchange,
          List.forall_mem_cons]
        constructor
        · rintro ⟨⟨hw, hoff⟩, hrest⟩
          exact ⟨hw, hoff rfl, fun i hi => (offTree_update_iff h hoff i).mp (hrest i hi)⟩
        · rintro ⟨hw, hoff, hrest⟩
          exact ⟨⟨hw, fun _ => hoff⟩,
            fun i hi => (offTree_update_iff h (fun _ => hoff) i).mpr (hrest i hi)⟩

/-- An animation that stays is one there was. -/
theorem mem_remaining {count : Nat} {a : AnimationRecord} {as : List AnimationRecord}
    (h : a ∈ remaining e count as) : a ∈ as := by
  unfold remaining at h
  split at h
  · exact List.mem_of_mem_take h
  · obtain ⟨p, hp, rfl⟩ := List.mem_map.mp h
    exact List.fst_mem_of_mem_zipIdx (List.mem_of_mem_filter hp)

/-- It is rewound, but aims at the same layer. -/
theorem mem_rewound {a : AnimationRecord} {as : List AnimationRecord}
    (h : a ∈ as.zipIdx.map (rewind e)) :
    ∃ b ∈ as, a.layerId = b.layerId ∧ a.born = b.born := by
  obtain ⟨p, hp, rfl⟩ := List.mem_map.mp h
  refine ⟨p.1, List.fst_mem_of_mem_zipIdx hp, ?_⟩
  unfold rewind
  split
  · exact ⟨rfl, rfl⟩
  · exact ⟨rfl, rfl⟩

/-- A frame of a running compositor. -/
theorem processAnimations_animated (h : Supplied s) (e : FrameEnv) :
    (s.animationsRunning = 0 ∧ s.processAnimations e = s) ∨
    (s.animationsRunning ≠ 0 ∧ ∃ t animations running, Animated e s s.animations.zipIdx t ∧
      s.processAnimations e = { t with
        animations := animations
        animationsRunning := running } ∧
      ∀ a ∈ animations, ∃ b ∈ s.animations, a.layerId = b.layerId ∧ a.born = b.born) := by
  unfold processAnimations
  by_cases hrunning : s.animationsRunning = 0
  · exact Or.inl ⟨hrunning, if_pos hrunning⟩
  · refine Or.inr ⟨hrunning, ?_⟩
    rw [if_neg hrunning]
    unfold cleanupCompletedAnimations
    split
    · exact ⟨_, _, _, animated_foldl h e _, rfl, fun a ha => mem_rewound ha⟩
    · exact ⟨_, _, _, animated_foldl h e _, rfl, fun a ha => mem_rewound (mem_remaining ha)⟩

/-- **A frame.** -/
theorem compositeFrame_cases (h : Supplied s) (e : FrameEnv) :
    (s.changed e = [] ∧ (s.compositeFrame e).2 = s) ∨
    ∃ t animations running, Animated e s s.animations.zipIdx t ∧
      s.changed e = s.animations.zipIdx.filterMap (change e s) ∧
      (s.compositeFrame e).2 = { t with
        animations := animations
        animationsRunning := running } ∧
      ∀ a ∈ animations, ∃ b ∈ s.animations, a.layerId = b.layerId ∧ a.born = b.born := by
  unfold compositeFrame changed
  cases hactive : s.compositorActive with
  | false => exact Or.inl ⟨rfl, rfl⟩
  | true =>
      rcases processAnimations_animated h e with ⟨hrunning, heq⟩ |
        ⟨hrunning, t, animations, running, ht, heq, hanimations⟩
      · exact Or.inl ⟨if_pos (Or.inr hrunning), heq⟩
      · refine Or.inr ⟨t, animations, running, ht, if_neg ?_, heq, hanimations⟩
        rintro (hfalse | hzero)
        · cases hfalse
        · exact hrunning hzero

theorem Supplied.compositeFrame (h : Supplied s) (e : FrameEnv) :
    Supplied (s.compositeFrame e).2 := by
  rcases compositeFrame_cases h e with ⟨-, heq⟩ | ⟨t, animations, running, ht, -, heq, -⟩
  · rw [heq]
    exact h
  · rw [heq]
    have hs := ht.supplied
    exact ⟨hs.ids, hs.layers, hs.map, hs.tree, hs.known⟩

theorem compositeFrame_linked_iff (h : Supplied s) (hl : s.Linked) (e : FrameEnv) :
    (s.compositeFrame e).2.Linked ↔ s.Keeps (.compositeFrame e) := by
  rw [(h.compositeFrame e).linked_iff]
  show _ ↔ ∀ id ∈ s.changed e, s.OffTree id
  rcases compositeFrame_cases h e with ⟨hnone, heq⟩ |
    ⟨t, animations, running, ht, hchanged, heq, hanimations⟩
  · rw [heq, hnone]
    exact iff_of_true ⟨hl.layers, hl.within, hl.root, hl.animations⟩ fun _ hid => (by cases hid)
  · rw [heq, hchanged]
    unfold liveIds
    dsimp only
    rw [ht.same.root, ht.same.live, ht.tree]
    constructor
    · rintro ⟨-, ⟨-, hoff⟩, -⟩
      exact hoff
    · intro hoff
      refine ⟨ht.layers hl.layers, ⟨hl.within, hoff⟩, hl.root, fun a ha => ?_⟩
      obtain ⟨b, hb, hlayer, hborn⟩ := hanimations a ha
      rw [hlayer, hborn]
      exact hl.animations b hb

end Frames

/-! ## Whole runs -/

theorem supplied_step {t : CoreAnimation} {call : LayerCall} (h : Supplied s)
    (hu : s.InTime call) (hs : machine.step s call = some t) : Supplied t := by
  cases hs
  cases call with
  | createLayer e => exact h.createLayer hu e
  | destroyLayer number id => exact h.destroyLayer number id
  | updateLayerProperties data id => exact h.update data id
  | addSublayer stored parent child => exact h.addSublayer stored parent child
  | removeSublayer parent child => exact h.removeSublayer child
  | setRootLayer id => exact h.setRootLayer id
  | addAnimation e stored layer type repeatCount =>
      exact h.addAnimation e stored layer type repeatCount
  | removeAnimation number layer id => exact h.removeAnimation number id
  | compositeFrame e => exact h.compositeFrame e
  | startCompositor => exact h.startCompositor
  | stopCompositor => exact h.stopCompositor

/-- **One step.** -/
theorem linked_step_iff {t : CoreAnimation} {call : LayerCall} (h : Supplied s) (hl : s.Linked)
    (hu : s.InTime call) (hs : machine.step s call = some t) : t.Linked ↔ s.Keeps call := by
  cases hs
  cases call with
  | createLayer e => exact createLayer_linked_iff h hu hl e
  | destroyLayer number id => exact destroyLayer_linked_iff h hl number id
  | updateLayerProperties data id => exact updateLayerProperties_linked_iff h hl data id
  | compositeFrame e => exact compositeFrame_linked_iff h hl e
  | addSublayer stored parent child =>
      exact iff_of_true (addSublayer_linked h hl stored parent child) trivial
  | removeSublayer parent child => exact iff_of_true (removeSublayer_linked h hl child) trivial
  | setRootLayer id => exact iff_of_true (setRootLayer_linked h hl id) trivial
  | addAnimation e stored layer type repeatCount =>
      exact iff_of_true (addAnimation_linked h hl e stored layer type repeatCount) trivial
  | removeAnimation number layer id =>
      exact iff_of_true (removeAnimation_linked h hl number id) trivial
  | startCompositor => exact iff_of_true (startCompositor_linked h hl) trivial
  | stopCompositor => exact iff_of_true (stopCompositor_linked h hl) trivial

/-- **The links hold exactly as long as** no layer changes that is in the tree, and
none goes that is the root or has animations. -/
theorem always_linked_iff (calls : List LayerCall) (hu : machine.Along InTime init calls) :
    machine.Always Linked init calls ↔ machine.Along Keeps init calls :=
  machine.always_iff_along_of (fun _ _ _ h hc hs => supplied_step h hc hs)
    (fun _ _ _ h hl hc hs => linked_step_iff h hl hc hs) hu supplied_init linked_init

/-- A layer with a sublayer and an animation, and the end of them all. -/
def scene : List LayerCall :=
  [.createLayer .granting, .createLayer .granting, .addSublayer true 1 2, .setRootLayer 1,
    .addAnimation .granting true 1 .basic 0, .startCompositor, .compositeFrame .moving,
    .stopCompositor]

theorem always_linked_scene :
    machine.Along InTime init scene ∧
      (machine.Always Linked init scene ↔ machine.Along Keeps init scene) :=
  ⟨by decide, always_linked_iff scene (by decide)⟩

/-- An animation outlives its layer, and the next layer gets the id. -/
theorem animation_outlives_layer :
    ¬ ∀ calls, machine.Along InTime init calls → machine.Always Linked init calls := by
  intro h
  have hrun := h [.createLayer .granting, .addAnimation .granting true 1 .basic 0,
    .destroyLayer true 1, .createLayer .granting] (by decide)
  obtain ⟨s, hs, hp⟩ := hrun.of_any _
    (p := fun s : CoreAnimation => decide (s.live = [(1, 1)] ∧
      s.animations = [⟨1, 1, .basic, 0, 0⟩]))
    (by decide)
  obtain ⟨hlive, hanimations⟩ := of_decide_eq_true hp
  have hmem := hs.animations ⟨1, 1, .basic, 0, 0⟩
    (by rw [hanimations]; exact List.mem_singleton_self _)
  rw [hlive] at hmem
  exact absurd hmem (by decide)

end CoreAnimation
end VMQemuVGA
