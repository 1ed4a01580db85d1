import Mathlib.Logic.Function.Basic
import VMQemuVGA.Gpu.Watch

/-! # The framebuffer and its screen

`VMVirtIOFramebuffer` keeps one resource, number 1, over a buffer that is
allocated once, and shows it on scanout 0. `Display` is the framebuffer with the
device it drives, `Screen` what the host makes of the commands it carries out. -/

namespace VMQemuVGA

/-! ## Modes -/

/-- A row of `kSupportedModes`. -/
structure SupportedMode where
  id : Nat
  width : Nat
  height : Nat
  isDefault : Bool
  deriving DecidableEq, Repr

def kSupportedModes : List SupportedMode :=
  [⟨1, 1024, 768, false⟩, ⟨2, 1280, 1024, false⟩, ⟨3, 1440, 900, false⟩, ⟨4, 1680, 1050, false⟩,
    ⟨5, 1920, 1080, true⟩, ⟨6, 2560, 1440, false⟩, ⟨7, 3840, 2160, false⟩]

/-- `getInformationForDisplayMode`: the nominal width and height of a mode. -/
def getInformationForDisplayMode (mode : Nat) : Option (Nat × Nat) :=
  (kSupportedModes.find? fun m => m.id = mode).map fun m => (m.width, m.height)

/-! ## State -/

structure Framebuffer where
  /-- `m_gpu_driver` is set, and with it the device's `m_framebuffer` -/
  gpuDriver : Bool
  fbBacking : Option MemoryDescriptor
  /-- `m_fb_device_memory` is set -/
  fbDeviceMemory : Bool
  fbResourceId : Nat
  scanoutTakenOverBy3D : Bool
  fullRefreshTickCount : Nat
  width : Nat
  height : Nat
  displayModes : List Nat
  currentMode : Nat
  /-- the function-static `already_enabled` and `call_count` -/
  alreadyEnabled : Bool
  callCount : Nat
  /-- the function-static flags of the one-shot probes -/
  resourceTrackingProbed : Bool
  recreateProbed : Bool
  cursorProbed : Bool
  transport3DProbed : Bool
  deriving DecidableEq

namespace Framebuffer

/-- The modes of the table that fit into `bytes` bytes, in its order. -/
def fitting (bytes : Nat) : List SupportedMode :=
  kSupportedModes.filter fun m => decide (m.width * m.height * 4 ≤ bytes)

/-- The mode with the most pixels, the earlier one of equals; 0 if there is none. -/
def largest (modes : List SupportedMode) : Nat × Nat :=
  modes.foldl (fun best m =>
    if m.width * m.height > best.2 then (m.id, m.width * m.height) else best) (0, 0)

/-- `filterModesByAllocation`. -/
def filterModesByAllocation (fb : Framebuffer) : Framebuffer :=
  match fb.fbBacking with
  | none => { fb with displayModes := [], currentMode := 0 }
  | some backing =>
      let modes := fitting backing.length
      { fb with
        displayModes := modes.map SupportedMode.id
        currentMode := match modes.find? SupportedMode.isDefault with
          | some m => m.id
          | none => (largest modes).1 }

/-- The object as `init` and `start` leave it, over the buffer `start` got. -/
def start (gpuDriver : Bool) (backing : Option MemoryDescriptor) : Framebuffer :=
  filterModesByAllocation {
    gpuDriver := gpuDriver
    fbBacking := backing
    fbDeviceMemory := backing.isSome
    fbResourceId := 0
    scanoutTakenOverBy3D := false
    fullRefreshTickCount := 0
    width := 1024
    height := 768
    displayModes := []
    currentMode := 0
    alreadyEnabled := false
    callCount := 0
    resourceTrackingProbed := false
    recreateProbed := false
    cursorProbed := false
    transport3DProbed := false }

end Framebuffer

/-- A framebuffer and the device it drives. -/
structure Display where
  gpu : Gpu
  fb : Framebuffer
  deriving DecidableEq

/-! ## Transfers -/

namespace Gpu

/-- The same device with another pool. -/
def withPool (g : Gpu) (p : ResourcePool) : Gpu := { g with pool := p }

@[simp] theorem withPool_pool (g : Gpu) (p : ResourcePool) : (g.withPool p).pool = p := rfl

@[simp] theorem withPool_ready (g : Gpu) (p : ResourcePool) : (g.withPool p).ready = g.ready := rfl

def transferToHost2D (e : Env) (g : Gpu) (id : Nat) : IOReturn × Gpu :=
  if g.ready = false then (.notReady, g) else g.submitCommand e (.transferToHost2D id)

def flushResource (e : Env) (g : Gpu) (id : Nat) : IOReturn × Gpu :=
  if g.ready = false then (.notReady, g) else g.submitCommand e (.resourceFlush id)

/-- `enableScanout`; `secondary` is what the property
`secondary-display-resource-id` holds, if anything. -/
def enableScanout (e : Env) (g : Gpu) (secondary : Option Nat) (scanout width height : Nat) :
    IOReturn × Gpu :=
  if g.ready = false then (.notReady, g)
  else if g.displayResourceId = 0 then (.notReady, g) else
  let id := if scanout = 1 then secondary.getD g.displayResourceId else g.displayResourceId
  g.submitCommand e (.setScanout scanout id width height)

end Gpu

/-! ## Scanouts -/

/-- Neither nothing nor the framebuffer's own resource. -/
def is3DResource (id : Nat) : Bool := decide (id ≠ 1) && decide (id ≠ 0)

namespace Display

def withGpu (d : Display) (g : Gpu) : Display := { d with gpu := g }

/-- `setScanoutTakenOverBy3D`. -/
def setScanoutTakenOverBy3D (d : Display) (taken : Bool) : Display :=
  { d with fb := { d.fb with scanoutTakenOverBy3D := taken } }

/-- `setscanout`, which tells the framebuffer who is on screen now. -/
def setscanout (e : Env) (d : Display) (scanout id width height : Nat) : IOReturn × Display :=
  if d.gpu.ready = false then (.notReady, d) else
  let (ret, g) := d.gpu.submitCommand e (.setScanout scanout id width height)
  if ret ≠ .success then (ret, d.withGpu g)
  else if d.fb.gpuDriver = false then (.success, d.withGpu g)
  else (.success, (d.withGpu g).setScanoutTakenOverBy3D (is3DResource id))

/-! ## The framebuffer resource -/

/-- `m_fb_resource_id = id`. -/
def setFbResourceId (d : Display) (id : Nat) : Display :=
  { d with fb := { d.fb with fbResourceId := id } }

/-- `m_width = width, m_height = height`. -/
def setDims (d : Display) (width height : Nat) : Display :=
  { d with fb := { d.fb with width := width, height := height } }

def teardownFramebufferResource (e : Env) (d : Display) : Display :=
  if d.fb.fbResourceId ≠ 0 ∧ d.fb.gpuDriver = true then
    (d.withGpu (d.gpu.deallocateResource e d.fb.fbResourceId).2).setFbResourceId 0
  else d

/-- What `setupFramebufferResource` does once its checks are behind it: drop the
old resource, create the new one over the fixed buffer, and show it. The
surroundings answer in turn for the teardown, the create, `SET_SCANOUT`, and
the teardown after a failure. -/
def recreate (es : Nat → Env) (d : Display) (width height : Nat) : IOReturn × Display :=
  let d₁ := (d.teardownFramebufferResource (es 0)).setFbResourceId 1
  let (ret, g) := d₁.gpu.createResource2D (es 1) 1 Gpu.formatB8G8R8A8 width height d.fb.fbBacking
  let d₂ := d₁.withGpu g
  if ret ≠ .success then (ret, d₂.teardownFramebufferResource (es 3)) else
  let (ret, d₃) := d₂.setscanout (es 2) 0 1 width height
  if ret ≠ .success then (ret, d₃.teardownFramebufferResource (es 3))
  else (.success, d₃.setDims width height)

def setupFramebufferResource (es : Nat → Env) (d : Display) (width height : Nat) :
    IOReturn × Display :=
  if d.fb.gpuDriver = false then (.notReady, d)
  else if width = 0 ∨ height = 0 ∨ width > 8192 ∨ height > 8192 then (.badArgument, d) else
  match d.fb.fbBacking with
  | none => (.notReady, d)
  | some backing =>
      if d.fb.fbDeviceMemory = false then (.notReady, d)
      -- the live resource has these dimensions already
      else if d.fb.fbResourceId ≠ 0 ∧ d.fb.width = width ∧ d.fb.height = height then (.success, d)
      else if backing.length < width * height * 4 then (.noSpace, d)
      else d.recreate es width height

end Display

/-! ## The host's screen -/

/-- A 2D or 3D resource as a scanout can show it. -/
structure Surface where
  width : Nat
  height : Nat
  backing : Option ScatterList
  deriving DecidableEq, Repr

/-- What the host keeps of resources and scanouts; 0 on a scanout is nothing. -/
structure Screen where
  surfaces : Nat → Option Surface
  scanouts : Nat → Nat

namespace Screen

/-- No resources, nothing shown. -/
def blank : Screen := ⟨fun _ => none, fun _ => 0⟩

/-- `id` gets the surface `x`, or is freed. -/
def setSurface (s : Screen) (id : Nat) (x : Option Surface) : Screen :=
  { s with surfaces := Function.update s.surfaces id x }

/-- Replace the scatter list of a resource. -/
def setBacking (s : Screen) (id : Nat) (b : Option ScatterList) : Screen :=
  s.setSurface id ((s.surfaces id).map fun x => { x with backing := b })

/-- The host carries a command out. A create it accepts gives a fresh resource,
and a resource that is unreferenced leaves the scanouts it was on. -/
def exec (s : Screen) : HostCmd → Screen
  | .resourceCreate2D id _ width height => s.setSurface id (some ⟨width, height, none⟩)
  | .resourceCreate3D _ id texture => s.setSurface id (some ⟨texture.width, texture.height, none⟩)
  | .resourceUnref id =>
      { surfaces := Function.update s.surfaces id none
        scanouts := fun k => if s.scanouts k = id then 0 else s.scanouts k }
  | .resourceAttachBacking id list => s.setBacking id (some list)
  | .resourceDetachBacking id => s.setBacking id none
  | .setScanout scanout id _ _ => { s with scanouts := Function.update s.scanouts scanout id }
  | _ => s

/-- The host carries commands out one after the other. -/
def run (s : Screen) (cmds : List HostCmd) : Screen := cmds.foldl exec s

/-- A create for an id the host has. -/
def refuses (s : Screen) : HostCmd → Bool
  | .resourceCreate2D id .. => (s.surfaces id).isSome
  | .resourceCreate3D _ id _ => (s.surfaces id).isSome
  | _ => false

/-- The host gets to a command nobody waits for any more. -/
def late (s : Screen) (cmd : HostCmd) : Screen := if s.refuses cmd then s else s.exec cmd

@[simp] theorem run_nil (s : Screen) : s.run [] = s := rfl

@[simp] theorem run_cons (s : Screen) (c : HostCmd) (cmds : List HostCmd) :
    s.run (c :: cmds) = (s.exec c).run cmds := rfl

@[simp] theorem run_append (s : Screen) (cmds cmds' : List HostCmd) :
    s.run (cmds ++ cmds') = (s.run cmds).run cmds' := List.foldl_append

/-- An accepted `UNREF` clears the scanouts its resource was on. -/
theorem scanouts_run_unref (s : Screen) (e : Env) (id k : Nat) :
    (s.run (e.accepted (.resourceUnref id))).scanouts k =
      if e.Takes (.resourceUnref id) ∧ s.scanouts k = id then 0 else s.scanouts k := by
  by_cases h : e.Takes (.resourceUnref id)
  · rw [Env.accepted_of_takes h]
    simp [exec, h]
  · rw [Env.accepted_of_not h, run_nil, if_neg fun hc => h hc.1]

theorem scanouts_run_setScanout (s : Screen) (e : Env) (scanout id width height k : Nat) :
    (s.run (e.accepted (.setScanout scanout id width height))).scanouts k =
      if e.Takes (.setScanout scanout id width height) ∧ k = scanout then id
      else s.scanouts k := by
  by_cases h : e.Takes (.setScanout scanout id width height)
  · rw [Env.accepted_of_takes h]
    simp [exec, h, Function.update_apply]
  · rw [Env.accepted_of_not h, run_nil, if_neg fun hc => h hc.1]

/-- Of `createResource2D` a scanout notices the resource that was taken back. -/
theorem scanouts_run_createResource2D (s : Screen) (e : Env) (g : Gpu)
    (id format width height : Nat) (backing : Option MemoryDescriptor) (k : Nat) :
    (s.run (g.executedSince (g.createResource2D e id format width height backing).2)).scanouts k =
      if g.TakesBack e id format width height backing ∧ s.scanouts k = id then 0
      else s.scanouts k := by
  have hcases := Gpu.createResource2D_cases e g id format width height backing
  generalize g.createResource2D e id format width height backing = r at hcases
  cases hcases with
  | failed hbacked _ _ _ hran =>
      rw [if_neg fun hc => hbacked hc.1.1]
      rcases hran with hran | hran
      · rw [hran.executedSince, run_nil]
      · rw [hran.executedSince]
        rfl
  | unconfirmed hbacked _ _ hran =>
      rw [if_neg fun hc => hbacked hc.1.1, hran.executedSince]
      rfl
  | noSlot hbacked hfree _ hran =>
      have htakes : g.TakesBack e id format width height backing ↔ e.Takes (.resourceUnref id) :=
        ⟨fun hc => hc.2.2, fun hc => ⟨hbacked, hfree, hc⟩⟩
      rw [hran.executedSince, run_append, scanouts_run_unref]
      exact if_congr (and_congr_left' htakes.symm) rfl rfl
  | landed hbacked _ hfree _ hran =>
      rw [if_neg fun hc => by simp [Gpu.TakesBack, hfree] at hc, hran.executedSince]
      rfl

end Screen

/-! ## Watching the screen -/

/-- A display and the screen the host shows for it. -/
structure Watched where
  display : Display
  screen : Screen

namespace Watched

/-- The display becomes `d`, and the screen follows. -/
def next (s : Watched) (d : Display) : Watched :=
  ⟨d, s.screen.run (s.display.gpu.executedSince d.gpu)⟩

/-- The host gets to the oldest command it was given too late. -/
def hostLate (s : Watched) : Option Watched :=
  match s.display.gpu.link.pending with
  | [] => none
  | cmd :: _ => s.display.gpu.link.execLate.map fun l =>
      ⟨s.display.withGpu { s.display.gpu with link := l }, s.screen.late cmd⟩

/-- Two calls in a row. -/
theorem next_next {s : Watched} {d₁ d₂ : Display} (h₁ : s.display.gpu.Grows d₁.gpu)
    (h₂ : d₁.gpu.Grows d₂.gpu) : (s.next d₁).next d₂ = s.next d₂ := by
  unfold next
  rw [Gpu.executedSince_trans h₁ h₂, Screen.run_append]

theorem next_of_ran {s : Watched} {d : Display} {cmds : List HostCmd}
    (h : s.display.gpu.Ran d.gpu cmds) : s.next d = ⟨d, s.screen.run cmds⟩ := by
  unfold next
  rw [h.executedSince]

theorem next_withGpu {s : Watched} {g : Gpu} {cmds : List HostCmd}
    (h : s.display.gpu.Ran g cmds) :
    s.next (s.display.withGpu g) = ⟨s.display.withGpu g, s.screen.run cmds⟩ := next_of_ran h

/-- From `d` to `d'` the property `P` goes on holding, whatever the screen. -/
def Preserves (P : Watched → Prop) (d d' : Display) : Prop :=
  d.gpu.Grows d'.gpu ∧ ∀ scr, P ⟨d, scr⟩ → P (next ⟨d, scr⟩ d')

theorem Preserves.refl (P : Watched → Prop) (d : Display) : Preserves P d d := by
  refine ⟨.refl d.gpu, fun scr h => ?_⟩
  rw [next_of_ran (.refl d.gpu)]
  exact h

theorem Preserves.trans {P : Watched → Prop} {d d₁ d₂ : Display} (h₁ : Preserves P d d₁)
    (h₂ : Preserves P d₁ d₂) : Preserves P d d₂ := by
  refine ⟨h₁.1.trans h₂.1, fun scr h => ?_⟩
  rw [← next_next (s := ⟨d, scr⟩) h₁.1 h₂.1]
  exact h₂.2 _ (h₁.2 scr h)

theorem hostLate_eq_some {s t : Watched} (h : s.hostLate = some t) :
    ∃ cmd rest l, s.display.gpu.link.pending = cmd :: rest ∧
      t = ⟨s.display.withGpu { s.display.gpu with link := l }, s.screen.late cmd⟩ := by
  unfold hostLate at h
  split at h
  · cases h
  · next cmd rest hp =>
    obtain ⟨l, -, rfl⟩ := Option.map_eq_some_iff.mp h
    exact ⟨cmd, rest, l, hp, rfl⟩

end Watched

/-! ## Commands of the framebuffer's calls -/

namespace Display

/-- `setscanout` on a ready device, over a command the host takes. -/
def SetsScanout (d : Display) (e : Env) (scanout id width height : Nat) : Prop :=
  d.gpu.ready = true ∧ e.Takes (.setScanout scanout id width height)

instance (d : Display) (e : Env) (scanout id width height : Nat) :
    Decidable (d.SetsScanout e scanout id width height) :=
  inferInstanceAs (Decidable (_ ∧ _))

theorem setscanout_cases (e : Env) (d : Display) (scanout id width height : Nat)
    (hdriver : d.fb.gpuDriver = true) :
    (d.SetsScanout e scanout id width height ∧
      ∃ l, d.setscanout e scanout id width height =
          (.success, (d.withGpu { d.gpu with link := l }).setScanoutTakenOverBy3D
            (is3DResource id)) ∧
        d.gpu.Ran { d.gpu with link := l } [.setScanout scanout id width height]) ∨
    (¬ d.SetsScanout e scanout id width height ∧
      ∃ ret l, d.setscanout e scanout id width height = (ret, d.withGpu { d.gpu with link := l }) ∧
        ret ≠ .success ∧ d.gpu.Ran { d.gpu with link := l } []) := by
  unfold setscanout SetsScanout
  by_cases hready : d.gpu.ready = true
  swap
  · rw [if_pos (by simpa using hready)]
    exact Or.inr ⟨fun hc => hready hc.1, _, d.gpu.link, rfl, IOReturn.noConfusion, .refl d.gpu⟩
  rw [if_neg (by simp [hready])]
  have hran := Gpu.ran_submitCommand e d.gpu (.setScanout scanout id width height)
  dsimp only
  by_cases htakes : e.Takes (.setScanout scanout id width height)
  · rw [Env.accepted_of_takes htakes] at hran
    have hret : (d.gpu.submitCommand e (.setScanout scanout id width height)).1 = .success := htakes
    rw [if_neg (not_not.mpr hret), if_neg (by simp [hdriver])]
    exact Or.inl ⟨⟨hready, htakes⟩, _, rfl, hran⟩
  · rw [Env.accepted_of_not htakes] at hran
    have hret : (d.gpu.submitCommand e (.setScanout scanout id width height)).1 ≠ .success := htakes
    rw [if_pos hret]
    exact Or.inr ⟨fun hc => htakes hc.2, _, _, rfl, hret, hran⟩

theorem gpuDriver_teardown (e : Env) (d : Display) :
    (d.teardownFramebufferResource e).fb.gpuDriver = d.fb.gpuDriver := by
  unfold teardownFramebufferResource
  split
  · rfl
  · rfl

/-- The checks of `setupFramebufferResource` that stand before a recreation. -/
def Recreates (d : Display) (width height : Nat) : Prop :=
  d.fb.gpuDriver = true ∧ (0 < width ∧ width ≤ 8192) ∧ (0 < height ∧ height ≤ 8192) ∧
    d.fb.fbDeviceMemory = true ∧ (∃ b ∈ d.fb.fbBacking, width * height * 4 ≤ b.length) ∧
    ¬ (d.fb.fbResourceId ≠ 0 ∧ d.fb.width = width ∧ d.fb.height = height)

instance (d : Display) (width height : Nat) : Decidable (d.Recreates width height) :=
  inferInstanceAs (Decidable (_ ∧ _))

theorem setupFramebufferResource_cases (es : Nat → Env) (d : Display) (width height : Nat) :
    (¬ d.Recreates width height ∧ ((d.setupFramebufferResource es width height).1 = .success →
        d.fb.fbResourceId ≠ 0 ∧ d.fb.width = width ∧ d.fb.height = height) ∧
      (d.setupFramebufferResource es width height).2 = d) ∨
    (d.Recreates width height ∧
      d.setupFramebufferResource es width height = d.recreate es width height) := by
  unfold setupFramebufferResource Recreates
  split
  · next h => exact Or.inl ⟨by simp [h], by simp, rfl⟩
  next hdriver =>
  split
  · next h => exact Or.inl ⟨by omega, by simp, rfl⟩
  next hdims =>
  cases hb : d.fb.fbBacking with
  | none => exact Or.inl ⟨by simp, by simp, rfl⟩
  | some backing =>
      dsimp only
      split
      · next h => exact Or.inl ⟨by simp [h], by simp, rfl⟩
      next hmem =>
      split
      · next h => exact Or.inl ⟨by tauto, fun _ => h, rfl⟩
      next hsame =>
      split
      · next h => exact Or.inl ⟨by simp; omega, by simp, rfl⟩
      · next h =>
        refine Or.inr ⟨⟨by simpa using hdriver, by omega, by omega, by simpa using hmem, ?_, hsame⟩,
          rfl⟩
        exact ⟨backing, rfl, by omega⟩

/-- Everything a teardown can do. -/
theorem teardownFramebufferResource_cases (e : Env) (d : Display)
    (hdriver : d.fb.gpuDriver = true) :
    (d.fb.fbResourceId = 0 ∧ d.teardownFramebufferResource e = d) ∨
    (d.fb.fbResourceId ≠ 0 ∧ d.teardownFramebufferResource e =
      (d.withGpu (d.gpu.deallocateResource e d.fb.fbResourceId).2).setFbResourceId 0) := by
  unfold teardownFramebufferResource
  by_cases hid : d.fb.fbResourceId = 0
  · exact Or.inl ⟨hid, if_neg fun hc => hc.1 hid⟩
  · exact Or.inr ⟨hid, if_pos ⟨hid, hdriver⟩⟩

/-- With a driver, a teardown leaves no resource. -/
theorem fb_teardownFramebufferResource (e : Env) {d : Display} (hdriver : d.fb.gpuDriver = true) :
    (d.teardownFramebufferResource e).fb = { d.fb with fbResourceId := 0 } := by
  rcases teardownFramebufferResource_cases e d hdriver with ⟨hid, heq⟩ | ⟨-, heq⟩
  · rw [heq, ← hid]
  · rw [heq]
    rfl

/-- What a recreation leaves of the framebuffer: nothing but its loss when a
step fails, and the new resource on screen when all succeed. -/
theorem fb_recreate (es : Nat → Env) {d : Display} (hdriver : d.fb.gpuDriver = true)
    (width height : Nat) :
    ((d.recreate es width height).1 ≠ .success ∧
      (d.recreate es width height).2.fb = { d.fb with fbResourceId := 0 }) ∨
    ((d.recreate es width height).1 = .success ∧
      (d.recreate es width height).2.fb = { d.fb with
        fbResourceId := 1, scanoutTakenOverBy3D := false, width := width, height := height }) := by
  unfold recreate
  dsimp only
  have hfb₁ : ((d.teardownFramebufferResource (es 0)).setFbResourceId 1).fb =
      { d.fb with fbResourceId := 1 } := by
    unfold setFbResourceId
    rw [fb_teardownFramebufferResource (es 0) hdriver]
  generalize (d.teardownFramebufferResource (es 0)).setFbResourceId 1 = d₁ at hfb₁ ⊢
  generalize d₁.gpu.createResource2D (es 1) 1 Gpu.formatB8G8R8A8 width height d.fb.fbBacking = r
  have hdriver₁ : (d₁.withGpu r.2).fb.gpuDriver = true := by
    show d₁.fb.gpuDriver = true
    rw [hfb₁]
    exact hdriver
  split
  · next hret =>
    refine Or.inl ⟨hret, ?_⟩
    rw [fb_teardownFramebufferResource (es 3) hdriver₁]
    show { d₁.fb with fbResourceId := 0 } = _
    rw [hfb₁]
  · rcases setscanout_cases (es 2) (d₁.withGpu r.2) 0 1 width height hdriver₁ with
      ⟨-, l, heq, -⟩ | ⟨-, ret, l, heq, hret, -⟩
    · rw [heq]
      refine Or.inr ⟨rfl, ?_⟩
      show { d₁.fb with scanoutTakenOverBy3D := false, width := width, height := height } = _
      rw [hfb₁]
    · rw [heq, if_pos hret]
      refine Or.inl ⟨hret, ?_⟩
      have hdriver₃ : ((d₁.withGpu r.2).withGpu { r.2 with link := l }).fb.gpuDriver = true :=
        hdriver₁
      refine (fb_teardownFramebufferResource (es 3) hdriver₃).trans ?_
      show { d₁.fb with fbResourceId := 0 } = _
      rw [hfb₁]

/-- Of the framebuffer `setscanout` writes the flag only. -/
theorem fb_setscanout (e : Env) (d : Display) (scanout id width height : Nat) :
    ∃ taken, (d.setscanout e scanout id width height).2.fb =
      { d.fb with scanoutTakenOverBy3D := taken } := by
  unfold setscanout
  split
  · exact ⟨_, rfl⟩
  dsimp only
  split
  · exact ⟨_, rfl⟩
  split
  · exact ⟨_, rfl⟩
  · exact ⟨_, rfl⟩

/-! ### When a recreation succeeds -/

/-- The pool behind the teardown a recreation starts with. -/
def recreatePool (e : Env) (d : Display) : ResourcePool :=
  if d.fb.fbResourceId ≠ 0 ∧ e.Takes (.resourceUnref d.fb.fbResourceId) then
    d.gpu.pool.clear d.fb.fbResourceId .free
  else d.gpu.pool

/-- Everything a recreation asks for is granted: resource 1 is free in the pool
by then, the host creates and backs it, there is a slot for it, and it is shown. -/
def Served (es : Nat → Env) (d : Display) (width height : Nat) : Prop :=
  (d.gpu.withPool (d.recreatePool (es 0))).Lands (es 1) 1 Gpu.formatB8G8R8A8 width height
      d.fb.fbBacking ∧
    d.SetsScanout (es 2) 0 1 width height

instance (es : Nat → Env) (d : Display) (width height : Nat) :
    Decidable (d.Served es width height) :=
  inferInstanceAs (Decidable (_ ∧ _))

/-- The create of a recreation, where the host takes it, is answered with
`OK_NODATA`. -/
def Confirmed (e : Env) (width height : Nat) : Prop :=
  e.Takes (.resourceCreate2D 1 Gpu.formatB8G8R8A8 width height) →
    e.ask (.resourceCreate2D 1 Gpu.formatB8G8R8A8 width height) = .reply respOkNodata

theorem gpu_teardownFramebufferResource (e : Env) {d : Display} (hdriver : d.fb.gpuDriver = true) :
    (d.teardownFramebufferResource e).gpu.pool = d.recreatePool e ∧
      (d.teardownFramebufferResource e).gpu.ready = d.gpu.ready ∧
      d.gpu.Grows (d.teardownFramebufferResource e).gpu := by
  unfold recreatePool
  rcases teardownFramebufferResource_cases e d hdriver with ⟨hid, heq⟩ | ⟨hid, heq⟩
  · rw [heq, if_neg fun hc => hc.1 hid]
    exact ⟨rfl, rfl, .refl d.gpu⟩
  · rw [heq]
    refine ⟨?_, ?_, (Gpu.ran_deallocateResource e d.gpu d.fb.fbResourceId).grows⟩
    · show (d.gpu.deallocateResource e d.fb.fbResourceId).2.pool = _
      unfold Gpu.deallocateResource
      dsimp only
      by_cases htakes : e.Takes (.resourceUnref d.fb.fbResourceId)
      · have hret : (d.gpu.submitCommand e (.resourceUnref d.fb.fbResourceId)).1 = .success :=
          htakes
        rw [if_pos hret, if_pos ⟨hid, htakes⟩]
        rfl
      · have hret : (d.gpu.submitCommand e (.resourceUnref d.fb.fbResourceId)).1 ≠ .success :=
          htakes
        rw [if_neg hret, if_neg fun hc => htakes hc.2]
        rfl
    · show (d.gpu.deallocateResource e d.fb.fbResourceId).2.ready = _
      unfold Gpu.deallocateResource
      dsimp only
      split
      · rfl
      · rfl

theorem grows_recreate (es : Nat → Env) {d : Display} (hdriver : d.fb.gpuDriver = true)
    (width height : Nat) : d.gpu.Grows (d.recreate es width height).2.gpu := by
  have hgrows₁ := (gpu_teardownFramebufferResource (es 0) hdriver).2.2
  have hdriver₁ : ((d.teardownFramebufferResource (es 0)).setFbResourceId 1).fb.gpuDriver = true :=
    (gpuDriver_teardown (es 0) d).trans hdriver
  unfold recreate
  dsimp only
  have hgrows₂ : d.gpu.Grows ((d.teardownFramebufferResource (es 0)).setFbResourceId 1).gpu :=
    hgrows₁
  generalize (d.teardownFramebufferResource (es 0)).setFbResourceId 1 = d₁ at hgrows₂ hdriver₁ ⊢
  have hgrows₃ := hgrows₂.trans (Gpu.grows_createResource2D (es 1) d₁.gpu 1 Gpu.formatB8G8R8A8 width
    height d.fb.fbBacking)
  generalize d₁.gpu.createResource2D (es 1) 1 Gpu.formatB8G8R8A8 width height d.fb.fbBacking = r
    at hgrows₃ ⊢
  split
  · exact hgrows₃.trans (gpu_teardownFramebufferResource (es 3) (d := d₁.withGpu r.2) hdriver₁).2.2
  · rcases setscanout_cases (es 2) (d₁.withGpu r.2) 0 1 width height hdriver₁ with
      ⟨-, l, heq, hran⟩ | ⟨-, ret, l, heq, hret, hran⟩
    · rw [heq]
      exact hgrows₃.trans hran.grows
    · rw [heq, if_pos hret]
      exact (hgrows₃.trans hran.grows).trans (gpu_teardownFramebufferResource (es 3)
        (d := (d₁.withGpu r.2).withGpu { r.2 with link := l }) hdriver₁).2.2

/-- **A recreation succeeds exactly when it is served**, and then it ends with the
resource created, backed and shown, in one slot of the pool. -/
theorem recreate_success (es : Nat → Env) {d : Display} (hdriver : d.fb.gpuDriver = true)
    {b : MemoryDescriptor} (hback : d.fb.fbBacking = some b) (width height : Nat)
    (hconf : Confirmed (es 1) width height) :
    ((d.recreate es width height).1 = .success ↔ d.Served es width height) ∧
    ((d.recreate es width height).1 = .success → ∃ cmds,
      d.gpu.Ran (d.recreate es width height).2.gpu (cmds ++
        [.resourceCreate2D 1 Gpu.formatB8G8R8A8 width height,
          .resourceAttachBacking 1 ⟨b.wireEntries, none⟩, .setScanout 0 1 width height]) ∧
      (d.recreate es width height).2.gpu.pool.mult 1 = 1 ∧
      (d.recreate es width height).2.gpu.ready = true) := by
  obtain ⟨hpool₁, hready₁, hgrows₁⟩ := gpu_teardownFramebufferResource (es 0) hdriver
  have hdriver₁ : ((d.teardownFramebufferResource (es 0)).setFbResourceId 1).fb.gpuDriver = true :=
    (gpuDriver_teardown (es 0) d).trans hdriver
  unfold recreate Served
  dsimp only
  have hpool₁ : ((d.teardownFramebufferResource (es 0)).setFbResourceId 1).gpu.pool =
    d.recreatePool (es 0) := hpool₁
  have hready₁ : ((d.teardownFramebufferResource (es 0)).setFbResourceId 1).gpu.ready =
    d.gpu.ready := hready₁
  have hgrows₁ : d.gpu.Grows ((d.teardownFramebufferResource (es 0)).setFbResourceId 1).gpu :=
    hgrows₁
  generalize (d.teardownFramebufferResource (es 0)).setFbResourceId 1 = d₁
    at hpool₁ hready₁ hgrows₁ hdriver₁ ⊢
  have hbacked := Gpu.backed2D_congr (g := d.gpu.withPool (d.recreatePool (es 0))) hready₁ hpool₁
    (es 1) 1 Gpu.formatB8G8R8A8 width height d.fb.fbBacking
  have hcases := Gpu.createResource2D_cases (es 1) d₁.gpu 1 Gpu.formatB8G8R8A8 width height
    d.fb.fbBacking
  obtain ⟨p, n, l, hframe⟩ := Gpu.createResource2D_frame (es 1) d₁.gpu 1 Gpu.formatB8G8R8A8 width
    height d.fb.fbBacking
  have hready₂ : (d₁.gpu.createResource2D (es 1) 1 Gpu.formatB8G8R8A8 width height
      d.fb.fbBacking).2.ready = d.gpu.ready := by rw [hframe, ← hready₁]
  clear hframe
  generalize d₁.gpu.createResource2D (es 1) 1 Gpu.formatB8G8R8A8 width height d.fb.fbBacking = r
    at hcases hready₂ ⊢
  cases hcases with
  | failed hno _ hret =>
      rw [if_pos hret]
      exact ⟨iff_of_false hret fun hc => hno (hbacked.mpr hc.1.1), fun hc => absurd hc hret⟩
  | unconfirmed _ hun =>
      have hask := hconf hun.2.1
      exact absurd (by rw [hask]; rfl) hun.2.2
  | noSlot hb hfree =>
      rw [hpool₁] at hfree
      have hret : IOReturn.noSpace ≠ .success := by decide
      rw [if_pos hret]
      exact ⟨iff_of_false hret fun hc => hc.1.2 hfree, fun hc => absurd hc hret⟩
  | @landed g' b' i hb hd hfree hpool hran =>
      rw [hback] at hd
      obtain rfl : b = b' := Option.some.inj hd
      rw [if_neg (not_not.mpr rfl)]
      have hlands : (d.gpu.withPool (d.recreatePool (es 0))).Lands (es 1) 1
          Gpu.formatB8G8R8A8 width height d.fb.fbBacking := by
        refine ⟨hbacked.mp hb, ?_⟩
        show (d.recreatePool (es 0)).freeIdx? ≠ none
        rw [← hpool₁, hfree]
        exact Option.some_ne_none i
      have hsets : (d₁.withGpu g').SetsScanout (es 2) 0 1 width height ↔
          d.SetsScanout (es 2) 0 1 width height := by
        unfold SetsScanout
        rw [show (d₁.withGpu g').gpu.ready = d.gpu.ready from hready₂]
      rcases setscanout_cases (es 2) (d₁.withGpu g') 0 1 width height hdriver₁ with
        ⟨hset, l, heq, hran₂⟩ | ⟨hset, ret, l, heq, hret, -⟩
      · rw [heq]
        refine ⟨iff_of_true rfl ⟨hlands, hsets.mp hset⟩, fun _ => ?_⟩
        refine ⟨_, hgrows₁.ran.trans (hran.trans hran₂), ?_, hset.1⟩
        obtain ⟨b', hput⟩ := hpool
        show g'.pool.mult 1 = 1
        rw [hput, SlotTable.mult_put_free (SlotTable.isFree_of_freeIdx? hfree),
          SlotTable.find?_eq_none_iff.mp hb.1]
        rfl
      · rw [heq, if_pos hret]
        exact ⟨iff_of_false hret fun hc => hset (hsets.mpr hc.2), fun hc => absurd hc hret⟩

end Display
end VMQemuVGA
