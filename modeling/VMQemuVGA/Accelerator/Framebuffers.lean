import VMQemuVGA.Lib.History
import VMQemuVGA.Accelerator.SurfaceIds
import VMQemuVGA.Accelerator.Collection

/-! # Framebuffers

`createFramebuffer` makes up to two surfaces and puts their ids together into
one word, sixteen bits each. A framebuffer id is as good as the surface ids are
small; and a framebuffer that is not made leaves nothing behind as long as the
counter of the surface ids has not come round. -/

namespace VMQemuVGA

/-! ## The id that is written -/

namespace Accelerator

/-- One surface of a framebuffer and its id, which is `0` if there is no format. -/
def addSurface (e : AccelEnv) (s : Accelerator) (ctx : Nat) (info : SurfaceInfo) :
    IOReturn × Nat × Accelerator :=
  if info.format = 0 then (.success, 0, s) else
  let (ret, r, t) := s.createSurfaceInternalFor e ctx ⟨0, info⟩
  (ret, r.surfaceId, t)

/-- `createFramebuffer` with what it writes to `framebuffer_id`, which `out` says
is not null; `e'` answers for the depth surface. -/
def createFramebufferFor (e e' : AccelEnv) (s : Accelerator)
    (ctx width height colorFormat depthFormat : Nat) (out : Bool) :
    IOReturn × Option Nat × Accelerator :=
  if (s.findContext ctx).isNone then (.badArgument, none, s)
  else if out = false then (.badArgument, none, s)
  else if framebufferFits width height = false then (.badArgument, none, s) else
  let (ret, color, s₁) := s.addSurface e ctx ⟨colorFormat, width, height, 1⟩
  if ret ≠ .success then (ret, none, s₁) else
  let (ret', depth, s₂) := s₁.addSurface e' ctx ⟨depthFormat, width, height, 1⟩
  if ret' ≠ .success then
    (ret', none, if color = 0 then s₂ else (s₂.destroySurfaceInternal ctx color).2)
  else (.success, some ((color <<< 16) % u32 ||| depth), s₂)

variable {e e' : AccelEnv} {s t : Accelerator} {ctx : Nat} {info : SurfaceInfo}

theorem createSurfaceInternalFor_fst (e : AccelEnv) (s : Accelerator) (ctx : Nat)
    (r : SurfaceRequest) :
    ((s.createSurfaceInternalFor e ctx r).1, (s.createSurfaceInternalFor e ctx r).2.2) =
      s.createSurfaceInternal e ctx r.info := by
  unfold createSurfaceInternalFor
  dsimp only
  split
  · rfl
  · rfl

/-- A surface that is made has the next id, in the record and in the counter. -/
theorem surfaceId_of_success {r : SurfaceRequest}
    (h : (s.createSurfaceInternal e ctx r.info).1 = .success) :
    (s.createSurfaceInternalFor e ctx r).2.1.surfaceId = inc32 s.nextSurfaceId ∧
      (s.createSurfaceInternal e ctx r.info).2.nextSurfaceId = inc32 s.nextSurfaceId := by
  constructor
  · unfold createSurfaceInternalFor
    dsimp only
    rw [if_pos (accelAlloc_of_createSurfaceInternal h)]
  · have hmade := creation_createSurfaceInternal e s ctx r.info
    generalize s.createSurfaceInternal e ctx r.info = a at h hmade
    cases hmade with
    | failed hret hkept => exact absurd h hret
    | made hfound hd henter => exact henter.next

/-- A surface, if there is a format for it, and its id if it is made. -/
theorem addSurface_eq (e : AccelEnv) (s : Accelerator) (ctx : Nat) (info : SurfaceInfo) :
    ((s.addSurface e ctx info).1, (s.addSurface e ctx info).2.2) =
        (if info.format = 0 then (.success, s) else s.createSurfaceInternal e ctx info) ∧
      ((s.addSurface e ctx info).1 = .success →
        (s.addSurface e ctx info).2.1 =
            (if info.format = 0 then 0 else inc32 s.nextSurfaceId) ∧
          (s.addSurface e ctx info).2.2.nextSurfaceId =
            if info.format = 0 then s.nextSurfaceId else inc32 s.nextSurfaceId) := by
  unfold addSurface
  by_cases hformat : info.format = 0
  · rw [if_pos hformat, if_pos hformat, if_pos hformat, if_pos hformat]
    exact ⟨rfl, fun _ => ⟨rfl, rfl⟩⟩
  · rw [if_neg hformat, if_neg hformat, if_neg hformat, if_neg hformat]
    have heq := createSurfaceInternalFor_fst e s ctx ⟨0, info⟩
    refine ⟨heq, fun hret => ?_⟩
    obtain ⟨hfst, hsnd⟩ := Prod.ext_iff.mp heq
    obtain ⟨hid, hnext⟩ := surfaceId_of_success (r := ⟨0, info⟩) (hfst.symm.trans hret)
    exact ⟨hid, (congrArg nextSurfaceId hsnd).trans hnext⟩

/-- The depth part of `createFramebuffer`. -/
theorem addDepthSurface_eq (e : AccelEnv) (s : Accelerator) (ctx color : Nat)
    (info : SurfaceInfo) :
    s.addDepthSurface e ctx color info =
      if (s.addSurface e ctx info).1 ≠ .success then
        ((s.addSurface e ctx info).1,
          if color = 0 then (s.addSurface e ctx info).2.2
          else ((s.addSurface e ctx info).2.2.destroySurfaceInternal ctx color).2)
      else (.success, (s.addSurface e ctx info).2.2) := by
  obtain ⟨hpair, -⟩ := addSurface_eq e s ctx info
  obtain ⟨hfst, hsnd⟩ := Prod.ext_iff.mp hpair
  dsimp only at hfst hsnd
  rw [hfst, hsnd]
  unfold addDepthSurface
  by_cases hformat : info.format = 0
  · rw [if_pos hformat, if_pos hformat, if_neg (not_not.mpr rfl)]
  rw [if_neg hformat, if_neg hformat]
  dsimp only
  by_cases hret : (s.createSurfaceInternal e ctx info).1 = .success
  · rw [if_pos hret, if_neg (not_not.mpr hret)]
  · rw [if_neg hret, if_pos hret]
    split
    · rfl
    · rfl

/-- `createFramebuffer` is this function without what it writes. -/
theorem createFramebufferFor_eq (e e' : AccelEnv) (s : Accelerator)
    (ctx width height colorFormat depthFormat : Nat) :
    ((s.createFramebufferFor e e' ctx width height colorFormat depthFormat true).1,
        (s.createFramebufferFor e e' ctx width height colorFormat depthFormat true).2.2) =
      s.createFramebuffer e e' ctx width height colorFormat depthFormat := by
  unfold createFramebufferFor createFramebuffer
  split
  · rfl
  rw [if_neg Bool.true_eq_false.mp]
  split
  · rfl
  obtain ⟨hcolor, hcolorId⟩ := addSurface_eq e s ctx ⟨colorFormat, width, height, 1⟩
  generalize s.addSurface e ctx ⟨colorFormat, width, height, 1⟩ = r at hcolor hcolorId
  obtain ⟨ret, color, s₁⟩ := r
  dsimp only at hcolor hcolorId ⊢
  by_cases hformat : colorFormat = 0
  · rw [if_pos hformat] at hcolor hcolorId ⊢
    cases hcolor
    obtain ⟨rfl, -⟩ := hcolorId rfl
    rw [if_neg (not_not.mpr rfl), addDepthSurface_eq]
    split
    · rfl
    · rfl
  · rw [if_neg hformat] at hcolor hcolorId ⊢
    rw [← hcolor]
    by_cases hret : ret = .success
    · rw [if_neg (not_not.mpr hret)]
      dsimp only
      rw [if_neg (not_not.mpr hret), addDepthSurface_eq]
      obtain ⟨rfl, hnext⟩ := hcolorId hret
      rw [if_neg hformat] at hnext
      rw [hnext]
      split
      · rfl
      · rfl
    · rw [if_pos hret]
      dsimp only
      rw [if_pos hret]

/-- The ids of the colour and the depth surface of a framebuffer made next. -/
def nextPair (s : Accelerator) (colorFormat depthFormat : Nat) : Nat × Nat :=
  (if colorFormat = 0 then 0 else inc32 s.nextSurfaceId,
    if depthFormat = 0 then 0
    else inc32 (if colorFormat = 0 then s.nextSurfaceId else inc32 s.nextSurfaceId))

/-- An id is written in the end only. -/
theorem createFramebufferFor_written {width height colorFormat depthFormat id : Nat} {out : Bool}
    (h : (s.createFramebufferFor e e' ctx width height colorFormat depthFormat out).2.1 = some id) :
    (s.createFramebufferFor e e' ctx width height colorFormat depthFormat out).1 = .success ∧
      id = ((s.nextPair colorFormat depthFormat).1 <<< 16) % u32 |||
        (s.nextPair colorFormat depthFormat).2 := by
  unfold createFramebufferFor at h ⊢
  obtain ⟨-, hcolor⟩ := addSurface_eq e s ctx ⟨colorFormat, width, height, 1⟩
  generalize s.addSurface e ctx ⟨colorFormat, width, height, 1⟩ = r at h hcolor ⊢
  obtain ⟨ret, color, s₁⟩ := r
  obtain ⟨-, hdepth⟩ := addSurface_eq e' s₁ ctx ⟨depthFormat, width, height, 1⟩
  dsimp only at h hcolor hdepth ⊢
  generalize s₁.addSurface e' ctx ⟨depthFormat, width, height, 1⟩ = r at h hdepth ⊢
  obtain ⟨ret', depth, s₂⟩ := r
  dsimp only at h hdepth ⊢
  split at h
  · cases h
  split at h
  · cases h
  split at h
  · cases h
  split at h
  · cases h
  split at h
  · cases h
  next hfound hout hfits hret hret' =>
  obtain ⟨rfl, hnext⟩ := hcolor (not_not.mp hret)
  obtain ⟨rfl, -⟩ := hdepth (not_not.mp hret')
  rw [if_neg hfound, if_neg hout, if_neg hfits, if_neg hret, if_neg hret']
  refine ⟨rfl, ?_⟩
  rw [hnext] at h
  exact (Option.some.inj h).symm

/-! ## What a failure leaves -/

/-- The surfaces in the pool and the lists of bound surfaces are as before. -/
structure LeftAlone (s t : Accelerator) : Prop where
  surfaces : t.surfaces.entries = s.surfaces.entries
  bound : t.contexts.entries.map (fun c => (c.contextId, c.boundSurfaceIds)) =
    s.contexts.entries.map fun c => (c.contextId, c.boundSurfaceIds)

/-- A new id is bound last, so unbinding it brings the list back. -/
theorem boundSurfaceIds_unbind_bind (e : AccelEnv) {id : Nat} {c : AccelContext}
    (hnew : id ∉ c.boundSurfaceIds) :
    ((c.bindSurface e id).unbindSurface id).boundSurfaceIds = c.boundSurfaceIds := by
  have hlast : ∀ d : AccelContext, d.boundSurfaceIds = c.boundSurfaceIds ++ [id] →
      (d.unbindSurface id).boundSurfaceIds = c.boundSurfaceIds := by
    intro d hd
    have hidx : d.boundSurfaceIds.idxOf? id = some c.boundSurfaceIds.length :=
      hd ▸ idxOf?_append_cons hnew []
    have hget : d.boundSurfaceIds.getLast? = some id := by rw [hd, List.getLast?_concat]
    unfold AccelContext.unbindSurface
    rw [hidx, hget]
    dsimp only
    rw [hd, List.set_append_right _ _ (Nat.le_refl _), Nat.sub_self, List.set_cons_zero,
      List.dropLast_concat]
  unfold AccelContext.bindSurface
  rw [if_neg hnew]
  split
  · split
    · unfold AccelContext.unbindSurface
      rw [List.idxOf?_eq_none_iff.mpr hnew]
    · exact hlast _ rfl
  · exact hlast _ rfl

/-- Taking back the surface that came last. -/
theorem Enters.leftAlone {x : AccelSurface} {s₁ s₂ : Accelerator} (h : Enters e ctx x s s₁)
    (hkept : KeepsPools s₁ s₂) (hnew : s.NewSurface x.surfaceId)
    (hbound : ∀ c ∈ s.contexts.entries, x.surfaceId ∉ c.boundSurfaceIds) :
    LeftAlone s (s₂.destroySurfaceInternal ctx x.surfaceId).2 := by
  have hfound : (s₂.findSurface x.surfaceId).isSome = true := by
    refine Pool.isSome_find?_key_iff.mpr ⟨x, ?_, rfl⟩
    rw [hkept.surfaces]
    exact h.mem_surfaces.mpr (Or.inl rfl)
  unfold destroySurfaceInternal
  split
  · next hnone =>
    rw [hnone] at hfound
    cases hfound
  · refine ⟨?_, ?_⟩
    · show (s₂.surfaces.remove _).entries = _
      rw [hkept.surfaces]
      refine Pool.entries_remove_add h.surfaces (beq_self_eq_true x.surfaceId) fun y hy => ?_
      exact beq_false_of_ne (hnew y hy)
    · show (s₂.contexts.modify _ _).entries.map _ = _
      rw [hkept.contexts, h.contexts, Pool.modify_modify _ fun c => by
        rw [contextId_bindSurface]]
      refine Pool.map_modify_of_find? fun c hc => ?_
      dsimp only [Function.comp]
      rw [contextId_unbindSurface, contextId_bindSurface,
        boundSurfaceIds_unbind_bind e (hbound c (Pool.mem_of_find? hc))]

/-- **A framebuffer that is not made leaves nothing behind**, as long as the counter
does not come round. -/
theorem leftAlone_createFramebuffer (hs : s.Below) {width height colorFormat depthFormat : Nat}
    (hn : s.nextSurfaceId +
      (AccelCall.createFramebuffer ctx width height colorFormat depthFormat).mayDraw < u32)
    (hret : (s.createFramebuffer e e' ctx width height colorFormat depthFormat).1 ≠ .success) :
    LeftAlone s (s.createFramebuffer e e' ctx width height colorFormat depthFormat).2 := by
  have hmade := creation_createFramebuffer e e' s ctx width height colorFormat depthFormat
  generalize s.createFramebuffer e e' ctx width height colorFormat depthFormat = r at hret hmade
  cases hmade with
  | made hfits hcolor hdepth => exact absurd rfl hret
  | refused hret' => exact ⟨rfl, rfl⟩
  | failed hret' hformat hkept => exact ⟨by rw [hkept.surfaces], by rw [hkept.contexts]⟩
  | undone hret' hcolor hdepth hbacked henter hkept =>
      rename_i x s₁ s₂
      have hid : x.surfaceId = s.nextSurfaceId + 1 := by
        dsimp only [AccelCall.mayDraw] at hn hcolor
        rw [if_neg hcolor] at hn
        exact henter.id.trans (Nat.mod_eq_of_lt (by unfold u32 at hn ⊢; omega))
      have hne : x.surfaceId ≠ 0 := by omega
      dsimp only
      rw [if_neg hne]
      refine henter.leftAlone hkept (fun y hy => ?_) fun c hc hmem => ?_
      · have hle := hs.surfaces y hy
        omega
      · have hle := hs.bound c hc _ hmem
        omega

/-- Whatever the pointer. -/
theorem leftAlone_createFramebufferFor (hs : s.Below)
    {width height colorFormat depthFormat : Nat} {out : Bool}
    (hn : s.nextSurfaceId +
      (AccelCall.createFramebuffer ctx width height colorFormat depthFormat).mayDraw < u32)
    (hret : (s.createFramebufferFor e e' ctx width height colorFormat depthFormat out).1 ≠
      .success) :
    (s.createFramebufferFor e e' ctx width height colorFormat depthFormat out).2.1 = none ∧
      LeftAlone s
        (s.createFramebufferFor e e' ctx width height colorFormat depthFormat out).2.2 := by
  constructor
  · rw [Option.eq_none_iff_forall_not_mem]
    exact fun id hid => hret (createFramebufferFor_written hid).1
  cases out with
  | true =>
      obtain ⟨hfst, hsnd⟩ := Prod.ext_iff.mp
        (createFramebufferFor_eq e e' s ctx width height colorFormat depthFormat)
      dsimp only at hfst hsnd
      rw [hsnd]
      exact leftAlone_createFramebuffer hs hn (hfst ▸ hret)
  | false =>
      unfold createFramebufferFor
      split
      · exact ⟨rfl, rfl⟩
      · exact ⟨rfl, rfl⟩

end Accelerator

/-! ## Runs -/

/-- What the surface ids are to stay below. -/
def AccelCall.idLimit : AccelCall → Nat
  | .createFramebuffer .. => 2 ^ 16
  | _ => u32

/-- A framebuffer that was made: its id, and which surfaces it was made of. The
surfaces are numbered as the counter would number them if it never came round;
`0` is for none. -/
structure MadeFramebuffer where
  id : Nat
  color : Nat
  depth : Nat
  deriving DecidableEq, Repr

/-- The number drawn last, and the framebuffers so far. -/
structure FramebufferNotes where
  counter : Nat
  made : List MadeFramebuffer

namespace AccelRun

/-- The framebuffer a step makes, if it makes one. -/
def framebufferOf (s : AccelRun) (counter : Nat) (e e' : AccelEnv) :
    Option AccelCall → Option MadeFramebuffer
  | some (.createFramebuffer ctx width height colorFormat depthFormat) =>
      (s.accel.createFramebufferFor e e' ctx width height colorFormat depthFormat true).2.1.map
        fun id => {
          id := id
          color := if colorFormat = 0 then 0 else counter + 1
          depth := if depthFormat = 0 then 0
            else (if colorFormat = 0 then counter else counter + 1) + 1 }
  | _ => none

/-- Write down the ids a step draws and the framebuffer it makes. -/
def noteFramebuffers (host : Env → Env) (s : AccelRun) (c : ClientCall × AccelEnv × AccelEnv)
    (t : AccelRun) (h : FramebufferNotes) : FramebufferNotes where
  counter := h.counter + (t.accel.nextSurfaceId + (u32 - s.accel.nextSurfaceId)) % u32
  made := (s.framebufferOf h.counter (c.2.1.mapEnv host) (c.2.2.mapEnv host)
    (s.issues c.1)).toList ++ h.made

/-- All runs, with their framebuffers. -/
def framebufferMachine (host : Env → Env) (supports3D : Bool) (maxScanouts : Nat) :
    Machine (AccelRun × FramebufferNotes) (ClientCall × AccelEnv × AccelEnv) :=
  (machine host supports3D maxScanouts).withHistory ⟨1, []⟩ (noteFramebuffers host)

/-- Framebuffers of one id are made of the same surfaces, and one that is not made
leaves nothing behind. -/
structure Faithful (p : AccelRun × FramebufferNotes) : Prop where
  determines : ∀ f ∈ p.2.made, ∀ g ∈ p.2.made, f.id = g.id → f.color = g.color ∧ f.depth = g.depth
  clean : ∀ e e' ctx width height colorFormat depthFormat out,
    p.1.accel.nextSurfaceId +
      (AccelCall.createFramebuffer ctx width height colorFormat depthFormat).mayDraw < u32 →
    (p.1.accel.createFramebufferFor e e' ctx width height colorFormat depthFormat out).1 ≠
      .success →
    (p.1.accel.createFramebufferFor e e' ctx width height colorFormat depthFormat out).2.1 = none ∧
      Accelerator.LeftAlone p.1.accel
        (p.1.accel.createFramebufferFor e e' ctx width height colorFormat depthFormat out).2.2

/-- The ids a call may draw have sixteen bits where they go into a framebuffer, and
the counter does not come round. -/
def SmallIds (p : AccelRun × FramebufferNotes) (c : ClientCall × AccelEnv × AccelEnv) : Prop :=
  ∀ call ∈ p.1.issues c.1, p.1.accel.nextSurfaceId + call.mayDraw < call.idLimit

instance (p : AccelRun × FramebufferNotes) (c : ClientCall × AccelEnv × AccelEnv) :
    Decidable (SmallIds p c) :=
  inferInstanceAs (Decidable (∀ call ∈ p.1.issues c.1, _))

/-- What holds along the way: the counter has not come round, and every framebuffer
id is its two numbers side by side. -/
structure SmallSoFar (p : AccelRun × FramebufferNotes) : Prop where
  below : p.1.accel.Below
  counter : p.2.counter = p.1.accel.nextSurfaceId
  bound : p.1.accel.nextSurfaceId < u32
  packed : ∀ f ∈ p.2.made, f.depth < 2 ^ 16 ∧ f.id = f.color * 2 ^ 16 + f.depth

/-- Two numbers of sixteen bits in one word. -/
theorem pack_eq {color depth : Nat} (hcolor : color < 2 ^ 16) (hdepth : depth < 2 ^ 16) :
    (color <<< 16) % u32 ||| depth = color * 2 ^ 16 + depth := by
  have hlt : color <<< 16 < u32 := by
    rw [Nat.shiftLeft_eq]
    unfold u32
    omega
  rw [Nat.mod_eq_of_lt hlt, ← Nat.shiftLeft_add_eq_or_of_lt hdepth, Nat.shiftLeft_eq]

/-- The framebuffer a small step makes. -/
theorem packed_framebufferOf {p : AccelRun × FramebufferNotes} (hs : SmallSoFar p)
    {c : ClientCall × AccelEnv × AccelEnv} (hc : SmallIds p c) {e e' : AccelEnv}
    {f : MadeFramebuffer} (hf : p.1.framebufferOf p.2.counter e e' (p.1.issues c.1) = some f) :
    f.depth < 2 ^ 16 ∧ f.id = f.color * 2 ^ 16 + f.depth := by
  unfold framebufferOf at hf
  split at hf
  swap
  · cases hf
  next ctx width height colorFormat depthFormat hissues =>
  have hsmall := hc _ hissues
  dsimp only [AccelCall.mayDraw, AccelCall.idLimit] at hsmall
  rw [Option.map_eq_some_iff] at hf
  obtain ⟨id, hid, rfl⟩ := hf
  obtain ⟨-, rfl⟩ := Accelerator.createFramebufferFor_written hid
  have hinc : ∀ k, k + 1 < 2 ^ 16 → inc32 k = k + 1 := fun k hk =>
    Nat.mod_eq_of_lt (by unfold u32; omega)
  unfold Accelerator.nextPair
  rw [hs.counter]
  dsimp only
  by_cases hcolor : colorFormat = 0
  · simp only [if_pos hcolor] at hsmall ⊢
    by_cases hdepth : depthFormat = 0
    · simp only [if_pos hdepth]
      exact ⟨by decide, pack_eq (by decide) (by decide)⟩
    · simp only [if_neg hdepth] at hsmall ⊢
      rw [hinc _ (by omega)]
      exact ⟨by omega, pack_eq (by decide) (by omega)⟩
  · simp only [if_neg hcolor] at hsmall ⊢
    rw [hinc _ (by omega)]
    by_cases hdepth : depthFormat = 0
    · simp only [if_pos hdepth]
      exact ⟨by decide, pack_eq (by omega) (by decide)⟩
    · simp only [if_neg hdepth] at hsmall ⊢
      rw [hinc _ (by omega)]
      exact ⟨by omega, pack_eq (by omega) (by omega)⟩

/-- What a small step may draw does not bring the counter round. -/
theorem SmallIds.lt {p : AccelRun × FramebufferNotes} {c : ClientCall × AccelEnv × AccelEnv}
    (hc : SmallIds p c) (hs : SmallSoFar p) :
    p.1.accel.nextSurfaceId + ((p.1.issues c.1).map AccelCall.mayDraw).getD 0 < u32 := by
  cases hissues : p.1.issues c.1 with
  | none => exact hs.bound
  | some call =>
      have hlimit : call.idLimit ≤ u32 := by
        cases call with
        | createFramebuffer => exact (by decide : 2 ^ 16 ≤ u32)
        | _ => exact Nat.le_refl u32
      exact Nat.lt_of_lt_of_le (hc call hissues) hlimit

theorem smallSoFar_step {host : Env → Env} {supports3D : Bool} {maxScanouts : Nat}
    {p p' : AccelRun × FramebufferNotes} {c : ClientCall × AccelEnv × AccelEnv}
    (hs : SmallSoFar p) (hc : SmallIds p c)
    (h : (framebufferMachine host supports3D maxScanouts).step p c = some p') :
    SmallSoFar p' := by
  obtain ⟨hstep, hnote⟩ := ((machine host supports3D maxScanouts).withHistory_step_eq_some _ _).mp h
  obtain ⟨n, hmoves, hn⟩ := moves_step hstep
  have hlt := hc.lt hs
  obtain ⟨hbelow, hnext⟩ := hmoves.keepsBelow hs.below (by omega)
  refine ⟨hbelow, ?_, by omega, fun f hf => ?_⟩
  · have hbound := hs.bound
    rw [hnote]
    dsimp only [noteFramebuffers]
    rw [hs.counter, hnext, show p.1.accel.nextSurfaceId + n + (u32 - p.1.accel.nextSurfaceId) =
      n + u32 by omega, Nat.add_mod_right, Nat.mod_eq_of_lt (by omega)]
  · rw [hnote] at hf
    rcases List.mem_append.mp hf with hf | hf
    · exact packed_framebufferOf hs hc (Option.mem_toList.mp hf)
    · exact hs.packed f hf

theorem SmallSoFar.faithful {p : AccelRun × FramebufferNotes} (hs : SmallSoFar p) :
    Faithful p where
  determines := fun f hf g hg hid => by
    obtain ⟨hf₁, hf₂⟩ := hs.packed f hf
    obtain ⟨hg₁, hg₂⟩ := hs.packed g hg
    omega
  clean := fun e e' ctx width height colorFormat depthFormat out hn hret =>
    Accelerator.leftAlone_createFramebufferFor hs.below hn hret

theorem smallSoFar_init (supports3D : Bool) (maxScanouts : Nat) :
    SmallSoFar (init supports3D maxScanouts, ⟨1, []⟩) where
  below := ⟨fun x hx => (List.not_mem_nil hx).elim, fun c hc => (List.not_mem_nil hc).elim⟩
  counter := rfl
  bound := Nat.lt_of_sub_pos (by decide : 0 < u32 - 1)
  packed := fun f hf => by cases hf

/-- **As long as the surface ids are small, a framebuffer id says what the
framebuffer is made of, and one that is not made leaves nothing behind.** -/
theorem always_faithful (host : Env → Env) (supports3D : Bool) (maxScanouts : Nat)
    {calls : List (ClientCall × AccelEnv × AccelEnv)}
    (h : (framebufferMachine host supports3D maxScanouts).Along SmallIds
      (framebufferMachine host supports3D maxScanouts).init calls) :
    (framebufferMachine host supports3D maxScanouts).Always Faithful
      (framebufferMachine host supports3D maxScanouts).init calls :=
  Machine.Always.imp _ (fun _ => SmallSoFar.faithful)
    ((framebufferMachine host supports3D maxScanouts).always_of_along
      (fun _ _ _ hs hc hstep => smallSoFar_step hs hc hstep)
      (smallSoFar_init supports3D maxScanouts) h)

/-- A framebuffer with both surfaces, and one with a colour surface only. -/
def twoFramebuffers : List (ClientCall × AccelEnv × AccelEnv) :=
  [(.bridge .create3DContext, .accepting, .accepting),
    (.bridge (.createFramebuffer 2 640 480 21 75), .accepting, .accepting),
    (.bridge (.createFramebuffer 2 640 480 21 0), .accepting, .accepting)]

theorem two_framebuffers_faithful :
    (framebufferMachine Env.hostAccepts true 1).Along SmallIds
        (framebufferMachine Env.hostAccepts true 1).init twoFramebuffers ∧
      (framebufferMachine Env.hostAccepts true 1).Always Faithful
        (framebufferMachine Env.hostAccepts true 1).init twoFramebuffers := by
  have hsmall : (framebufferMachine Env.hostAccepts true 1).Along SmallIds
      (framebufferMachine Env.hostAccepts true 1).init twoFramebuffers := by
    decide
  exact ⟨hsmall, always_faithful Env.hostAccepts true 1 hsmall⟩

/-! ### Ids with more than sixteen bits -/

/-- No memory for the surface that is asked for. -/
def outOfMemory : AccelEnv := { AccelEnv.accepting with withCapacity := fun _ => none }

/-- A framebuffer of one pixel, colour only. -/
def onePixel (e : AccelEnv) : ClientCall × AccelEnv × AccelEnv :=
  (.bridge (.createFramebuffer 2 1 1 21 0), e, .accepting)

/-- `n` ids drawn for nothing. -/
def drawn (n : Nat) (p : AccelRun × FramebufferNotes) : AccelRun × FramebufferNotes :=
  ({ p.1 with accel :=
    { p.1.accel with nextSurfaceId := (p.1.accel.nextSurfaceId + n) % u32 } },
    { p.2 with counter := p.2.counter + n })

theorem createFramebufferFor_outOfMemory (e' : AccelEnv) {s : Accelerator}
    (hc : (s.findContext 2).isSome = true) :
    s.createFramebufferFor (outOfMemory.mapEnv Env.hostAccepts) e' 2 1 1 21 0 true =
      (.noMemory, none, s.drawSurfaceId) := by
  obtain ⟨c, hc⟩ := Option.isSome_iff_exists.mp hc
  have hmade : s.createSurfaceInternal (outOfMemory.mapEnv Env.hostAccepts) 2 ⟨21, 1, 1, 1⟩ =
      (.noMemory, s.drawSurfaceId) := by
    unfold Accelerator.createSurfaceInternal
    rw [hc]
    rfl
  unfold Accelerator.createFramebufferFor Accelerator.addSurface
    Accelerator.createSurfaceInternalFor
  rw [hmade, hc]
  rfl

theorem step_outOfMemory {p : AccelRun × FramebufferNotes}
    (hc : (p.1.accel.findContext 2).isSome = true) (hn : p.1.accel.nextSurfaceId < u32) :
    (framebufferMachine Env.hostAccepts true 1).step p (onePixel outOfMemory) =
      some (drawn 1 p) := by
  have hfor := createFramebufferFor_outOfMemory (AccelEnv.accepting.mapEnv Env.hostAccepts) hc
  have hcall : p.1.accel.call (outOfMemory.mapEnv Env.hostAccepts)
      (AccelEnv.accepting.mapEnv Env.hostAccepts) (.createFramebuffer 2 1 1 21 0) =
        (.noMemory, p.1.accel.drawSurfaceId) := by
    refine (Accelerator.createFramebufferFor_eq ..).symm.trans ?_
    rw [hfor]
  have hlogged : p.1.logged (.createFramebuffer 2 1 1 21 0) p.1.accel.drawSurfaceId =
      p.1.submitted := by
    unfold logged
    split
    · rfl
    · have hnone : newSubmits p.1.accel.gpu p.1.accel.gpu = [] := by
        unfold newSubmits
        rw [List.drop_length]
        rfl
      show p.1.submitted ++ (newSubmits p.1.accel.gpu p.1.accel.gpu).map _ = _
      rw [hnone]
      exact List.append_nil _
  have hstep : (machine Env.hostAccepts true 1).step p.1 (onePixel outOfMemory) =
      some (drawn 1 p).1 := by
    show some (p.1.perform _ _ (.createFramebuffer 2 1 1 21 0)) = _
    dsimp only [onePixel, perform]
    rw [hcall, hlogged]
    rfl
  refine ((machine Env.hostAccepts true 1).withHistory_step_eq_some _ _).mpr ⟨hstep, ?_⟩
  have hcounter : ((p.1.accel.nextSurfaceId + 1) % u32 + (u32 - p.1.accel.nextSurfaceId)) % u32 =
      1 := by
    unfold u32 at hn ⊢
    omega
  show { counter := p.2.counter + 1, made := p.2.made : FramebufferNotes } =
    { counter := p.2.counter +
        ((p.1.accel.nextSurfaceId + 1) % u32 + (u32 - p.1.accel.nextSurfaceId)) % u32
      made := ((p.1.accel.createFramebufferFor _ _ 2 1 1 21 0 true).2.1.map _).toList ++
        p.2.made }
  dsimp only [onePixel]
  rw [hcounter, hfor]
  rfl

theorem run_outOfMemory {p : AccelRun × FramebufferNotes}
    (hc : (p.1.accel.findContext 2).isSome = true) (hn : p.1.accel.nextSurfaceId < u32) (n : Nat) :
    (framebufferMachine Env.hostAccepts true 1).run p
      (List.replicate n (onePixel outOfMemory)) = some (drawn n p) := by
  induction n generalizing p with
  | zero =>
      unfold drawn
      rw [Nat.add_zero, Nat.mod_eq_of_lt hn]
      rfl
  | succ n ih =>
      rw [List.replicate_succ, Machine.run_cons_some _ (step_outOfMemory hc hn),
        ih (p := drawn 1 p) hc (Nat.mod_lt _ (by decide))]
      unfold drawn
      dsimp only
      rw [Nat.mod_add_mod, Nat.add_assoc, Nat.add_assoc, Nat.add_comm 1 n]

/-- The state with one framebuffer in it. -/
def afterFirst : AccelRun × FramebufferNotes :=
  ((framebufferMachine Env.hostAccepts true 1).run
    (framebufferMachine Env.hostAccepts true 1).init
    [(.bridge .create3DContext, .accepting, .accepting), onePixel .accepting]).getD
      (framebufferMachine Env.hostAccepts true 1).init

/-- After 65536 ids the first framebuffer id comes back. -/
theorem framebuffer_id_comes_back :
    ¬ (framebufferMachine Env.hostAccepts true 1).Always Faithful
      (framebufferMachine Env.hostAccepts true 1).init
      ([(.bridge .create3DContext, .accepting, .accepting), onePixel .accepting] ++
        (List.replicate 65535 (onePixel outOfMemory) ++ [onePixel .accepting])) := by
  intro h
  have hfirst : (framebufferMachine Env.hostAccepts true 1).run
      (framebufferMachine Env.hostAccepts true 1).init
      [(.bridge .create3DContext, .accepting, .accepting), onePixel .accepting] =
        some afterFirst := rfl
  have hdrawn := run_outOfMemory (p := afterFirst) (by decide) (by decide) 65535
  have hmade : ((framebufferMachine Env.hostAccepts true 1).step (drawn 65535 afterFirst)
      (onePixel .accepting)).any (fun p => decide (p.2.made =
        [⟨131072, 65538, 0⟩, ⟨131072, 2, 0⟩])) = true := by
    decide
  obtain ⟨p, hp, hnotes⟩ := (Option.any_eq_true _ _).mp hmade
  have hrun : (framebufferMachine Env.hostAccepts true 1).run
      (framebufferMachine Env.hostAccepts true 1).init
      ([(.bridge .create3DContext, .accepting, .accepting), onePixel .accepting] ++
        (List.replicate 65535 (onePixel outOfMemory) ++ [onePixel .accepting])) = some p := by
    rw [Machine.run_append _ hfirst, Machine.run_append _ hdrawn,
      Machine.run_cons_some _ hp, Machine.run_nil]
  have hfaithful := h.run _ hrun
  have hnotes : p.2.made = [⟨131072, 65538, 0⟩, ⟨131072, 2, 0⟩] := of_decide_eq_true hnotes
  have hsame := hfaithful.determines ⟨131072, 65538, 0⟩ (by rw [hnotes]; decide)
    ⟨131072, 2, 0⟩ (by rw [hnotes]; decide) rfl
  exact absurd hsame.1 (by decide)

end AccelRun
end VMQemuVGA
