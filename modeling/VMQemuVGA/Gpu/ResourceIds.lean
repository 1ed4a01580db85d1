import VMQemuVGA.Lib.Counter
import VMQemuVGA.Lib.Machine
import VMQemuVGA.Gpu.Device

/-! # The resource-id partition

Two counters hand out resource ids: `m_next_resource_id`, from 2 on, to the
kernel's own paths, and `m_next_user_resource_id`, from 0x100 on, to the
winsys. The ids 0xFFF8 to 0xFFFF are reserved for probes. Nothing bounds either
counter; this module says exactly how far the partition carries. -/

namespace VMQemuVGA
namespace Gpu

/-! ## Histories of the counters -/

/-- The histories are what the two counters hand out, in order. -/
structure HandedOut (g : Gpu) : Prop where
  kernel : g.kernelIds = Counter.handed u32 2 g.kernelIds.length
  kernel_next : g.nextResourceId = (1 + g.kernelIds.length) % u32
  winsys : g.winsysIds = Counter.handed u32 0x100 g.winsysIds.length
  winsys_next : g.nextUserResourceId = (0x100 + g.winsysIds.length) % u32

/-- Nothing was handed out between two states. -/
structure SameIds (g g' : Gpu) : Prop where
  kernel : g'.kernelIds = g.kernelIds
  kernel_next : g'.nextResourceId = g.nextResourceId
  winsys : g'.winsysIds = g.winsysIds
  winsys_next : g'.nextUserResourceId = g.nextUserResourceId

theorem HandedOut.congr {g g' : Gpu} (h : HandedOut g) (hs : SameIds g g') : HandedOut g' where
  kernel := by rw [hs.kernel]; exact h.kernel
  kernel_next := by rw [hs.kernel_next, hs.kernel]; exact h.kernel_next
  winsys := by rw [hs.winsys]; exact h.winsys
  winsys_next := by rw [hs.winsys_next, hs.winsys]; exact h.winsys_next

theorem handedOut_init (b : Bool) (n : Nat) : HandedOut (init b n) := ⟨rfl, rfl, rfl, rfl⟩

theorem HandedOut.drawResourceId {g : Gpu} (h : HandedOut g) : HandedOut g.drawResourceId where
  kernel := by
    show g.kernelIds ++ [inc32 g.nextResourceId] =
      Counter.handed u32 2 (g.kernelIds ++ [inc32 g.nextResourceId]).length
    have hid : inc32 g.nextResourceId = (2 + g.kernelIds.length) % u32 := by
      rw [inc32, h.kernel_next, Nat.mod_add_mod]
      congr 1
      omega
    rw [List.length_append, List.length_singleton, Counter.handed_succ, ← h.kernel, hid]
  kernel_next := by
    show inc32 g.nextResourceId = (1 + (g.kernelIds ++ [inc32 g.nextResourceId]).length) % u32
    rw [inc32, h.kernel_next, Nat.mod_add_mod, List.length_append, List.length_singleton]
    rfl
  winsys := h.winsys
  winsys_next := h.winsys_next

theorem HandedOut.allocateUserResourceId {g : Gpu} (h : HandedOut g) :
    HandedOut g.allocateUserResourceId.2 where
  kernel := h.kernel
  kernel_next := h.kernel_next
  winsys := by
    show g.winsysIds ++ [g.nextUserResourceId] =
      Counter.handed u32 0x100 (g.winsysIds ++ [g.nextUserResourceId]).length
    rw [List.length_append, List.length_singleton, Counter.handed_succ, ← h.winsys, h.winsys_next]
  winsys_next := by
    show inc32 g.nextUserResourceId =
      (0x100 + (g.winsysIds ++ [g.nextUserResourceId]).length) % u32
    rw [inc32, h.winsys_next, Nat.mod_add_mod, List.length_append, List.length_singleton]
    rfl

/-! ## The partition -/

/-- What the comment at the counters promises. -/
structure Partitioned (g : Gpu) : Prop where
  distinct : (g.kernelIds ++ g.winsysIds).Nodup
  nonzero : ∀ id ∈ g.kernelIds ++ g.winsysIds, id ≠ 0
  no_sentinel : ∀ id ∈ g.kernelIds ++ g.winsysIds, ¬ (0xFFF8 ≤ id ∧ id ≤ 0xFFFF)

/-- How much has been handed out where the promise holds: the kernel counter is
below the sentinels, the winsys counter at most at the first of them, and they
have not met. -/
structure Bounded (g : Gpu) : Prop where
  kernel : g.kernelIds.length + 1 < 0xFFF8
  winsys : g.winsysIds.length + 0x100 ≤ 0xFFF8
  apart : g.winsysIds.length = 0 ∨ g.kernelIds.length + 1 < 0x100

theorem partitioned_of_bounded {g : Gpu} (h : HandedOut g) (hb : Bounded g) : Partitioned g := by
  obtain ⟨hk, hw, hapart⟩ := hb
  have hu := u32_eq
  have hmemk : ∀ id, id ∈ g.kernelIds ↔ 2 ≤ id ∧ id < 2 + g.kernelIds.length := fun id => by
    rw [h.kernel, Counter.length_handed, Counter.mem_handed_iff (by omega)]
  have hmemw : ∀ id, id ∈ g.winsysIds ↔ 0x100 ≤ id ∧ id < 0x100 + g.winsysIds.length :=
    fun id => by rw [h.winsys, Counter.length_handed, Counter.mem_handed_iff (by omega)]
  refine ⟨List.nodup_append.mpr ⟨?_, ?_, ?_⟩, ?_, ?_⟩
  · rw [h.kernel]
    exact Counter.nodup_handed (by omega)
  · rw [h.winsys]
    exact Counter.nodup_handed (by omega)
  · intro a ha b hb hab
    rw [hmemk] at ha
    rw [hmemw] at hb
    omega
  · intro id hid
    rw [List.mem_append, hmemk, hmemw] at hid
    omega
  · intro id hid
    rw [List.mem_append, hmemk, hmemw] at hid
    omega

theorem bounded_of_partitioned {g : Gpu} (h : HandedOut g) (hp : Partitioned g) : Bounded g := by
  -- the first id out of bounds is handed out by name
  have hmemk : ∀ id, 2 ≤ id → id < 2 + g.kernelIds.length → id < u32 → id ∈ g.kernelIds := by
    intro id h2 hlt hm
    rw [h.kernel]
    exact Counter.mem_handed h2 hlt hm
  have hmemw : ∀ id, 0x100 ≤ id → id < 0x100 + g.winsysIds.length → id < u32 →
      id ∈ g.winsysIds := by
    intro id h2 hlt hm
    rw [h.winsys]
    exact Counter.mem_handed h2 hlt hm
  have hk : g.kernelIds.length + 1 < 0xFFF8 := by
    by_contra hc
    have hin := hmemk 0xFFF8 (by decide) (by omega) (by decide)
    exact hp.no_sentinel _ (List.mem_append_left _ hin) (by decide)
  have hw : g.winsysIds.length + 0x100 ≤ 0xFFF8 := by
    by_contra hc
    have hin := hmemw 0xFFF8 (by decide) (by omega) (by decide)
    exact hp.no_sentinel _ (List.mem_append_right _ hin) (by decide)
  refine ⟨hk, hw, ?_⟩
  by_contra hc
  have hink := hmemk 0x100 (by decide) (by omega) (by decide)
  have hinw := hmemw 0x100 (Nat.le_refl _) (by omega) (by decide)
  exact (List.nodup_append.mp hp.distinct).2.2 _ hink _ hinw rfl

theorem partitioned_iff_bounded {g : Gpu} (h : HandedOut g) : Partitioned g ↔ Bounded g :=
  ⟨bounded_of_partitioned h, partitioned_of_bounded h⟩

/-! ## What a call hands out -/

/-- `k` kernel ids and `w` winsys ids are handed out from `g` to `g'`. -/
structure Hands (k w : Nat) (g g' : Gpu) : Prop where
  kernel : g'.kernelIds.length = g.kernelIds.length + k
  winsys : g'.winsysIds.length = g.winsysIds.length + w
  keeps : HandedOut g → HandedOut g'

theorem SameIds.hands {g g' : Gpu} (h : SameIds g g') : Hands 0 0 g g' where
  kernel := by rw [h.kernel, Nat.add_zero]
  winsys := by rw [h.winsys, Nat.add_zero]
  keeps := fun hg => hg.congr h

theorem Hands.trans {k k' w w' : Nat} {g g' g'' : Gpu} (h : Hands k w g g')
    (h' : Hands k' w' g' g'') : Hands (k + k') (w + w') g g'' where
  kernel := by rw [h'.kernel, h.kernel, Nat.add_assoc]
  winsys := by rw [h'.winsys, h.winsys, Nat.add_assoc]
  keeps := fun hg => h'.keeps (h.keeps hg)

theorem hands_drawResourceId (g : Gpu) : Hands 1 0 g g.drawResourceId where
  kernel := List.length_append
  winsys := rfl
  keeps := HandedOut.drawResourceId

theorem hands_allocateUserResourceId (g : Gpu) : Hands 0 1 g g.allocateUserResourceId.2 where
  kernel := rfl
  winsys := List.length_append
  keeps := HandedOut.allocateUserResourceId

theorem sameIds_submitCommand (e : Env) (g : Gpu) (cmd : HostCmd) :
    SameIds g (g.submitCommand e cmd).2 := ⟨rfl, rfl, rfl, rfl⟩

theorem sameIds_setDisplayResource (g : Gpu) (id : Nat) :
    SameIds g (g.setDisplayResource id) := ⟨rfl, rfl, rfl, rfl⟩

theorem sameIds_createResource2D (e : Env) (g : Gpu) (id format width height : Nat)
    (backing : Option MemoryDescriptor) :
    SameIds g (g.createResource2D e id format width height backing).2 := by
  obtain ⟨p, n, l, h⟩ := createResource2D_frame e g id format width height backing
  rw [h]
  exact ⟨rfl, rfl, rfl, rfl⟩

theorem sameIds_createResource3D (e : Env) (g : Gpu)
    (id target format bind width height depth : Nat) :
    SameIds g (g.createResource3D e id target format bind width height depth).2 := by
  obtain ⟨p, n, l, h⟩ := createResource3D_frame e g id target format bind width height depth
  rw [h]
  exact ⟨rfl, rfl, rfl, rfl⟩

theorem sameIds_createRenderContext (e : Env) (g : Gpu) :
    SameIds g (g.createRenderContext e).2 := by
  obtain ⟨n, l, h⟩ := createRenderContext_frame e g
  rw [h]
  exact ⟨rfl, rfl, rfl, rfl⟩

/-- The calls that draw a resource id. -/
inductive IdCall where
  | allocateResource3D (target format width height depth : Nat)
  | setupScanout (scanout width height : Nat)
  | setupDisplayResource (width height : Nat)
  | mapGuestMemory (memory : Option MemoryDescriptor)
  | initializeWebGLAcceleration
  | createResource3DEx (ctx : Nat) (texture : Texture)
  deriving DecidableEq, Repr

def IdCall.run (e : Env) (g : Gpu) : IdCall → Gpu
  | .allocateResource3D target format width height depth =>
      (g.allocateResource3D e target format width height depth).2
  | .setupScanout scanout width height => (g.setupScanout e scanout width height).2
  | .setupDisplayResource width height => (g.setupDisplayResource e width height).2
  | .mapGuestMemory memory => (g.mapGuestMemory e memory).2
  | .initializeWebGLAcceleration => g.initializeWebGLAcceleration e
  | .createResource3DEx ctx texture => (g.createResource3DEx e ctx texture).2

/-- How many kernel ids a call draws: none when one of its early checks fails,
a second one for the second buffer of a large display or of the WebGL set-up. -/
def IdCall.kernelDraws (e : Env) (g : Gpu) : IdCall → Nat
  | .allocateResource3D .. => 1
  | .setupScanout scanout .. => if scanout ≥ g.maxScanouts then 0 else 1
  | .setupDisplayResource width height =>
      if g.ready = false then 0
      else if (g.drawResourceId.createResource2D e g.drawResourceId.nextResourceId formatB8G8R8A8
        width height none).1 = .success ∧ width ≥ 1920 ∧ height ≥ 1080 then 2
      else 1
  | .mapGuestMemory none => 0
  | .mapGuestMemory (some d) =>
      if d.length = 0 ∨ d.prepareRet ≠ .success ∨ d.firstSegment.isNone then 0 else 1
  | .initializeWebGLAcceleration =>
      if g.ready = true ∧ g.supports3D = true ∧ (g.createRenderContext e).1 = .success ∧
        inc32 g.nextContextId ≠ 0 then 2 else 0
  | .createResource3DEx .. => 0

def IdCall.winsysDraws : IdCall → Nat
  | .createResource3DEx .. => 1
  | _ => 0

theorem hands_mapGuestMemory (e : Env) (g : Gpu) (memory : Option MemoryDescriptor) :
    Hands (IdCall.kernelDraws e g (.mapGuestMemory memory)) 0 g (g.mapGuestMemory e memory).2 := by
  have hsame : Hands 0 0 g g := SameIds.hands ⟨rfl, rfl, rfl, rfl⟩
  have hdraw := hands_drawResourceId g
  cases memory with
  | none => exact hsame
  | some d =>
      unfold mapGuestMemory IdCall.kernelDraws
      dsimp only [submitCommand]
      by_cases hlen : d.length = 0
      · rw [if_pos hlen, if_pos (Or.inl hlen)]
        exact hsame
      by_cases hprep : d.prepareRet ≠ .success
      · rw [if_neg hlen, if_pos hprep, if_pos (Or.inr (Or.inl hprep))]
        exact hsame
      by_cases hseg : d.firstSegment.isNone = true
      · rw [if_neg hlen, if_neg hprep, if_pos hseg, if_pos (Or.inr (Or.inr hseg))]
        exact hsame
      rw [if_neg hlen, if_neg hprep, if_neg hseg, if_neg (by tauto)]
      -- from here on only the host and the pool change
      split
      · exact ⟨hdraw.1, hdraw.2, fun h => (h.drawResourceId).congr ⟨rfl, rfl, rfl, rfl⟩⟩
      split
      · exact ⟨hdraw.1, hdraw.2, fun h => (h.drawResourceId).congr ⟨rfl, rfl, rfl, rfl⟩⟩
      split
      · exact ⟨hdraw.1, hdraw.2, fun h => (h.drawResourceId).congr ⟨rfl, rfl, rfl, rfl⟩⟩
      · exact ⟨hdraw.1, hdraw.2, fun h => (h.drawResourceId).congr ⟨rfl, rfl, rfl, rfl⟩⟩

theorem hands_setupScanout (e : Env) (g : Gpu) (scanout width height : Nat) :
    Hands (IdCall.kernelDraws e g (.setupScanout scanout width height)) 0 g
      (g.setupScanout e scanout width height).2 := by
  unfold setupScanout
  dsimp only [IdCall.kernelDraws]
  by_cases hid : scanout ≥ g.maxScanouts
  · rw [if_pos hid, if_pos hid]
    exact SameIds.hands ⟨rfl, rfl, rfl, rfl⟩
  rw [if_neg hid, if_neg hid]
  have hcreate : Hands 1 0 g (g.drawResourceId.createResource2D e g.drawResourceId.nextResourceId
      formatB8G8R8A8 width height none).2 :=
    (hands_drawResourceId g).trans (sameIds_createResource2D ..).hands
  split
  · exact hcreate
  · exact hcreate.trans (sameIds_submitCommand ..).hands

theorem hands_setupDisplayResource (e : Env) (g : Gpu) (width height : Nat) :
    Hands (IdCall.kernelDraws e g (.setupDisplayResource width height)) 0 g
      (g.setupDisplayResource e width height).2 := by
  unfold setupDisplayResource
  dsimp only [IdCall.kernelDraws]
  by_cases hready : g.ready = false
  · rw [if_pos hready, if_pos hready]
    exact SameIds.hands ⟨rfl, rfl, rfl, rfl⟩
  rw [if_neg hready, if_neg hready]
  have hcreate : Hands 1 0 g (g.drawResourceId.createResource2D e g.drawResourceId.nextResourceId
      formatB8G8R8A8 width height none).2 :=
    (hands_drawResourceId g).trans (sameIds_createResource2D ..).hands
  by_cases hret : (g.drawResourceId.createResource2D e g.drawResourceId.nextResourceId
    formatB8G8R8A8 width height none).1 = .success
  · rw [if_neg (not_not.mpr hret)]
    by_cases hlarge : width ≥ 1920 ∧ height ≥ 1080
    · rw [if_pos hlarge, if_pos ⟨hret, hlarge⟩]
      have hstore :=
        hcreate.trans (sameIds_setDisplayResource _ g.drawResourceId.nextResourceId).hands
      exact (hstore.trans (hands_drawResourceId _)).trans (sameIds_createResource2D ..).hands
    · rw [if_neg hlarge, if_neg fun hc => hlarge hc.2]
      exact hcreate.trans (sameIds_setDisplayResource _ _).hands
  · rw [if_pos hret, if_neg fun hc => hret hc.1]
    exact hcreate

theorem hands_initializeWebGLAcceleration (e : Env) (g : Gpu) :
    Hands (IdCall.kernelDraws e g .initializeWebGLAcceleration) 0 g
      (g.initializeWebGLAcceleration e) := by
  have hsame : Hands 0 0 g g := SameIds.hands ⟨rfl, rfl, rfl, rfl⟩
  have hctx := (sameIds_createRenderContext e g).hands
  unfold initializeWebGLAcceleration
  dsimp only [IdCall.kernelDraws]
  by_cases hready : g.ready = false
  · rw [if_pos hready, if_neg (by simp [hready])]
    exact hsame
  by_cases h3 : g.supports3D = false
  · rw [if_neg hready, if_pos h3, if_neg (by simp [h3])]
    exact hsame
  have hnext : (g.createRenderContext e).2.nextContextId = inc32 g.nextContextId := by
    unfold createRenderContext
    rw [if_neg h3]
    rfl
  rw [if_neg hready, if_neg h3]
  rw [Bool.not_eq_false] at hready h3
  rw [hnext]
  by_cases hok : (g.createRenderContext e).1 = .success ∧ inc32 g.nextContextId ≠ 0
  · rw [if_pos ⟨hready, h3, hok⟩, if_neg fun hc => hc.elim (· hok.1) hok.2]
    have hcanvas := hctx.trans (hands_drawResourceId _)
    exact ((hcanvas.trans (sameIds_createResource3D ..).hands).trans
      (hands_drawResourceId _)).trans (sameIds_createResource3D ..).hands
  · rw [if_neg fun hc => hok hc.2.2, if_pos (by rwa [not_and_or, not_not] at hok)]
    exact hctx

/-- **One call.** It hands out as many ids of each kind as its checks say. -/
theorem hands_run (e : Env) (g : Gpu) (c : IdCall) :
    Hands (c.kernelDraws e g) c.winsysDraws g (c.run e g) := by
  cases c with
  | allocateResource3D target format width height depth =>
      exact (hands_drawResourceId g).trans (sameIds_createResource3D ..).hands
  | setupScanout scanout width height => exact hands_setupScanout e g scanout width height
  | setupDisplayResource width height => exact hands_setupDisplayResource e g width height
  | mapGuestMemory memory => exact hands_mapGuestMemory e g memory
  | initializeWebGLAcceleration => exact hands_initializeWebGLAcceleration e g
  | createResource3DEx ctx texture =>
      exact (hands_allocateUserResourceId g).trans (sameIds_submitCommand ..).hands

/-! ## Runs -/

/-- Any mix of calls on one device. -/
def idMachine (supports3D : Bool) (maxScanouts : Nat) : Machine Gpu (IdCall × Env) where
  init := .init supports3D maxScanouts
  step := fun g c => some (c.1.run c.2 g)

/-- The ids a call draws stay in their range: kernel ids below the sentinels,
and below 0x100 once the winsys has drawn; winsys ids below the sentinels, and
only while the kernel counter is below 0x100. -/
def DrawsOk (g : Gpu) (c : IdCall × Env) : Prop :=
  let k := c.1.kernelDraws c.2 g
  (k = 0 ∨ g.nextResourceId + k < 0xFFF8 ∧
      (g.nextUserResourceId = 0x100 ∨ g.nextResourceId + k < 0x100)) ∧
    (c.1.winsysDraws = 0 ∨ g.nextUserResourceId < 0xFFF8 ∧ g.nextResourceId < 0x100)

theorem winsysDraws_le_one (c : IdCall) : c.winsysDraws ≤ 1 := by
  cases c <;> simp [IdCall.winsysDraws]

theorem kernelDraws_eq_zero_of_winsysDraws {e : Env} {g : Gpu} {c : IdCall}
    (h : c.winsysDraws ≠ 0) : c.kernelDraws e g = 0 := by
  cases c with
  | createResource3DEx ctx texture => rfl
  | _ => exact absurd rfl h

theorem bounded_step_iff {g : Gpu} {c : IdCall × Env} (h : HandedOut g) (hb : Bounded g) :
    Bounded (c.1.run c.2 g) ↔ DrawsOk g c := by
  obtain ⟨hk, hw, hapart⟩ := hb
  have hu := u32_eq
  have hnext : g.nextResourceId = 1 + g.kernelIds.length := by
    rw [h.kernel_next, Nat.mod_eq_of_lt (by omega)]
  have huser : g.nextUserResourceId = 0x100 + g.winsysIds.length := by
    rw [h.winsys_next, Nat.mod_eq_of_lt (by omega)]
  have hhands := hands_run c.2 g c.1
  have hone := winsysDraws_le_one c.1
  have hexcl : c.1.winsysDraws ≠ 0 → c.1.kernelDraws c.2 g = 0 :=
    kernelDraws_eq_zero_of_winsysDraws
  have hkl := hhands.kernel
  have hwl := hhands.winsys
  unfold DrawsOk
  dsimp only
  rw [hnext, huser]
  constructor
  · rintro ⟨hk', hw', hapart'⟩
    rw [hkl] at hk' hapart'
    rw [hwl] at hw' hapart'
    omega
  · rintro ⟨hkok, hwok⟩
    refine ⟨?_, ?_, ?_⟩
    · rw [hkl]
      omega
    · rw [hwl]
      omega
    · rw [hkl, hwl]
      omega

/-- **The partition holds exactly along the runs whose draws are in range.** -/
theorem always_partitioned_iff (supports3D : Bool) (maxScanouts : Nat)
    (calls : List (IdCall × Env)) :
    (idMachine supports3D maxScanouts).Always Partitioned (idMachine supports3D maxScanouts).init
      calls ↔
    (idMachine supports3D maxScanouts).Along DrawsOk (idMachine supports3D maxScanouts).init
      calls := by
  have hinit : HandedOut (idMachine supports3D maxScanouts).init :=
    handedOut_init supports3D maxScanouts
  have hbounded : Bounded (idMachine supports3D maxScanouts).init :=
    ⟨by simp [idMachine, init], by simp [idMachine, init], Or.inl rfl⟩
  refine (idMachine supports3D maxScanouts).always_iff_along (J := HandedOut)
    (fun g c t hg h => ?_) (fun g c t hg hp h => ?_) hinit ((partitioned_iff_bounded hinit).mpr
      hbounded)
  · cases h
    exact (hands_run c.2 g c.1).keeps hg
  · cases h
    rw [partitioned_iff_bounded ((hands_run c.2 g c.1).keeps hg)]
    exact bounded_step_iff hg ((partitioned_iff_bounded hg).mp hp)

/-- The kernel draws its 255th id, 0x100, and the winsys then draws the same. -/
theorem counters_meet :
    ¬ (idMachine true 1).Always Partitioned (idMachine true 1).init
      (List.replicate 255 (.allocateResource3D 2 1 64 64 1, .accepting) ++
        [(.createResource3DEx 1 ⟨2, 1, 2, 64, 64, 1, 1, 0, 0, 0⟩, .accepting)]) := by
  intro h
  have hrun : ((idMachine true 1).run (idMachine true 1).init
      (List.replicate 255 (.allocateResource3D 2 1 64 64 1, .accepting) ++
        [(.createResource3DEx 1 ⟨2, 1, 2, 64, 64, 1, 1, 0, 0, 0⟩, .accepting)])).any
      (fun g => decide (0x100 ∈ g.kernelIds) && decide (0x100 ∈ g.winsysIds)) = true := by
    decide +kernel
  obtain ⟨g, hp, hboth⟩ := h.of_any _ hrun
  simp only [Bool.and_eq_true, decide_eq_true_eq] at hboth
  exact (List.nodup_append.mp hp.distinct).2.2 _ hboth.1 _ hboth.2 rfl

end Gpu
end VMQemuVGA
