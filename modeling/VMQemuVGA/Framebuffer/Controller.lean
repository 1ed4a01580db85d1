import VMQemuVGA.Framebuffer.State

/-! # Bringing the controller up

`enableController` and `setDisplayMode`, the two ways to a framebuffer resource,
with the probes that run on the way. A probe makes and frees resources of its
own (0xFFFE, 0xFFFD, 0xFFFA) and leaves the framebuffer's alone. -/

namespace VMQemuVGA

/-! ## Probes -/

namespace Gpu

/-- `probeResourceTracking`: create, create again, free. Whatever the second
create returns, the resource is freed. -/
def probeResourceTracking (es : Nat → Env) (g : Gpu) : Gpu :=
  let (ret, g₁) := g.createResource2D (es 0) 0xFFFE formatB8G8R8A8 1 1 none
  if ret ≠ .success then g₁ else
  let g₂ := (g₁.createResource2D (es 1) 0xFFFE formatB8G8R8A8 1 1 none).2
  (g₂.deallocateResource (es 2) 0xFFFE).2

/-- `probeCursorTransport`, up to the commands on the cursor queue. -/
def probeCursorTransport (es : Nat → Env) (cursorVqInitialized : Bool) (g : Gpu) : Gpu :=
  if cursorVqInitialized = false then g else
  let (ret, g₁) := g.createResource2D (es 0) 0xFFFD formatB8G8R8A8 64 64 none
  if ret ≠ .success then g₁ else
  match g₁.findResource 0xFFFD with
  | none => g₁
  | some r => if r.backingMemory.isNone then g₁ else (g₁.transferToHost2D (es 1) 0xFFFD).2

/-- `PROBE_CTX`. -/
def probeCtx : Nat := 0xFFFB

/-- `PROBE_RES`. -/
def probeRes : Nat := 0xFFFA

/-- A command buffer of `size` bytes, if it can be had. -/
def commandBuffer (e : Env) (size : Nat) : Option Nat := (e.withCapacity size).map fun _ => size

/-- Phases G to the end of the negative control of `probeTransport3D`: clear and
read back, twice. -/
def probeReadback (es : Nat → Env) (g : Gpu) : Gpu :=
  let (ret, g₁) := g.executeCommands (es 5) probeCtx (commandBuffer (es 5) 56)
  if ret ≠ .success then g₁ else
  let readback := HostCmd.transferFromHost3D probeCtx probeRes
  let g₂ := (g₁.submitCommand (es 6) readback).2
  if (es 6).ask readback ≠ .reply respOkNodata then g₂ else
  let (ret, g₃) := g₂.executeCommands (es 7) probeCtx (commandBuffer (es 7) 56)
  if ret ≠ .success then g₃ else (g₃.submitCommand (es 8) readback).2

/-- Phase F: create a surface object, and destroy it in the cleanup. -/
def probeSurface (es : Nat → Env) (g : Gpu) : Gpu :=
  let (ret, g₁) := g.executeCommands (es 4) probeCtx (commandBuffer (es 4) 24)
  if ret ≠ .success then g₁ else
  ((probeReadback es g₁).executeCommands (es 9) probeCtx (commandBuffer (es 9) 8)).2

/-- Phase E: attach the resource to the context; its failure is only logged. -/
def probeAttached (es : Nat → Env) (g : Gpu) : Gpu :=
  let g₁ := (g.submitCommand (es 3) (.ctxAttachResource probeCtx probeRes)).2
  ((probeSurface es g₁).submitCommand (es 10) (.ctxDetachResource probeCtx probeRes)).2

/-- Phase D: back the resource, if the memory can be had. -/
def probeBacked (es : Nat → Env) (g : Gpu) : Gpu :=
  match (es 2).withCapacity 16384 with
  | none => g
  | some d =>
      let (ret, g₁) := g.attachBacking (es 2) probeRes (some d)
      if ret ≠ .success then g₁ else probeAttached es g₁

/-- Phase C: create the resource, and free it in the cleanup. -/
def probeResource (es : Nat → Env) (g : Gpu) : Gpu :=
  let create := HostCmd.resourceCreate3D probeCtx probeRes
    ⟨target2D, 67, bindRenderTarget, 64, 64, 1, 1, 0, 0, 0⟩
  let g₁ := (g.submitCommand (es 1) create).2
  if (es 1).ask create ≠ .reply respOkNodata then g₁
  else ((probeBacked es g₁).deallocateResource (es 11) probeRes).2

/-- `probeTransport3D`; `capsets` says that the device has any. -/
def probeTransport3D (es : Nat → Env) (capsets : Bool) (g : Gpu) : Gpu :=
  if g.ready = false ∨ g.supports3D = false ∨ capsets = false then g else
  let g₁ := (g.submitCommand (es 0) (.ctxCreate probeCtx)).2
  if (es 0).ask (.ctxCreate probeCtx) ≠ .reply respOkNodata then g₁
  else ((probeResource es g₁).destroy3DContext (es 12) probeCtx).2

end Gpu

/-! ## Modes -/

/-- The parts of `enableController` that talk to the device. -/
inductive Stage where
  | negativeControl
  | trackingProbe
  | setup
  | recreateProbe
  | recreateRestore
  | cursorProbe
  | transportProbe
  | initialTransfer
  deriving DecidableEq, Repr

/-- What the surroundings answer during `enableController`. -/
structure ControllerEnv where
  stage : Stage → Nat → Env
  cursorVqInitialized : Bool
  capsets : Bool

namespace Display

/-- `refreshDisplay`, one tick in four and not while a 3D resource has the
screen: transfer, then flush. -/
def refreshDisplay (es : Nat → Env) (d : Display) : Display :=
  if d.fb.gpuDriver = false then d
  else if d.fb.scanoutTakenOverBy3D = true then d
  else if d.fb.fullRefreshTickCount + 1 < 4 then
    { d with fb := { d.fb with fullRefreshTickCount := d.fb.fullRefreshTickCount + 1 } }
  else
    let d₁ := { d with fb := { d.fb with fullRefreshTickCount := 0 } }
    -- `m_scanout_resource_id` is 1 from the start
    let (ret, g) := d₁.gpu.transferToHost2D (es 0) 1
    if ret ≠ .success then d₁.withGpu g else d₁.withGpu (g.flushResource (es 1) 1).2

/-- `m_current_mode = mode`. -/
def setCurrentMode (d : Display) (mode : Nat) : Display :=
  { d with fb := { d.fb with currentMode := mode } }

/-- The dimensions or the resource have to change for a mode of this size. -/
def NeedsSetup (d : Display) (width height : Nat) : Prop :=
  width ≠ d.fb.width ∨ height ≠ d.fb.height ∨ d.fb.fbResourceId = 0

instance (d : Display) (width height : Nat) : Decidable (d.NeedsSetup width height) :=
  inferInstanceAs (Decidable (_ ∨ _))

/-- `setDisplayMode`. The mode is current before anything can fail. -/
def setDisplayMode (es : Nat → Env) (d : Display) (mode : Nat) : IOReturn × Display :=
  if mode ∉ d.fb.displayModes then (.unsupported, d) else
  let d₁ := d.setCurrentMode mode
  match getInformationForDisplayMode mode with
  | none => (.success, d₁)
  | some (width, height) =>
      if d₁.NeedsSetup width height then
        let (ret, d₂) := d₁.setupFramebufferResource es width height
        if ret ≠ .success then (ret, d₂) else (.success, d₂.refreshDisplay fun n => es (n + 4))
      else (.success, d₁.refreshDisplay fun n => es (n + 4))

/-- The dimensions at which the recreation is tried out. -/
def probeDim (n : Nat) : Nat := if n > 100 then n - 100 else n + 100

/-- `probeResourceRecreate`: recreate at other dimensions, and put the old ones
back, whether that worked or not. -/
def probeResourceRecreate (es es' : Nat → Env) (d : Display) : Display :=
  if d.fb.fbBacking.isNone ∨ d.fb.fbDeviceMemory = false ∨ d.fb.fbResourceId = 0 then d else
  let d₁ := (d.setupFramebufferResource es (probeDim d.fb.width) (probeDim d.fb.height)).2
  (d₁.setupFramebufferResource es' d.fb.width d.fb.height).2

/-- A probe that runs once: `flag` was not up yet, and is now. -/
def probeOnce (flag : Framebuffer → Bool) (raise : Framebuffer → Framebuffer)
    (probe : Display → Display) (d : Display) : Display :=
  if flag d.fb = true then d else probe { d with fb := raise d.fb }

def recreateOnce (es : ControllerEnv) (d : Display) : Display :=
  d.probeOnce Framebuffer.recreateProbed ({ · with recreateProbed := true })
    (probeResourceRecreate (es.stage .recreateProbe) (es.stage .recreateRestore))

def cursorOnce (es : ControllerEnv) (d : Display) : Display :=
  d.probeOnce Framebuffer.cursorProbed ({ · with cursorProbed := true }) fun d =>
    d.withGpu (d.gpu.probeCursorTransport (es.stage .cursorProbe) es.cursorVqInitialized)

def transport3DOnce (es : ControllerEnv) (d : Display) : Display :=
  d.probeOnce Framebuffer.transport3DProbed ({ · with transport3DProbed := true }) fun d =>
    d.withGpu (d.gpu.probeTransport3D (es.stage .transportProbe) es.capsets)

/-- The first content for the screen. -/
def initialTransfer (es : Nat → Env) (d : Display) : Display :=
  let g := (d.gpu.transferToHost2D (es 0) d.fb.fbResourceId).2
  d.withGpu (g.flushResource (es 1) d.fb.fbResourceId).2

/-- The part of `enableController` behind a successful setup. -/
def probeAndTransfer (es : ControllerEnv) (d : Display) : Display :=
  (((d.recreateOnce es).cursorOnce es).transport3DOnce es).initialTransfer
    (es.stage .initialTransfer)

/-- `call_count++`, and `already_enabled = true` for a call that is not skipped. -/
def countCall (d : Display) : Display :=
  { d with fb := { d.fb with callCount := d.fb.callCount + 1, alreadyEnabled := true } }

/-- A call after the second is skipped. -/
def skipsEnable (d : Display) : Bool := d.fb.alreadyEnabled && decide (d.fb.callCount + 1 > 2)

/-- The native scanout setup of `enableController`, up to the setup proper: take
the dimensions of the mode over, show a resource that does not exist, and probe
the tracking of resources. -/
def beforeSetup (es : ControllerEnv) (d : Display) (width height : Nat) : Display :=
  let d₁ := ((d.setDims width height).setscanout (es.stage .negativeControl 0) 0 999 width height).2
  d₁.probeOnce Framebuffer.resourceTrackingProbed ({ · with resourceTrackingProbed := true })
    fun d => d.withGpu (d.gpu.probeResourceTracking (es.stage .trackingProbe))

/-- The native scanout setup of `enableController` for a mode of this size. -/
def nativeScanout (es : ControllerEnv) (d : Display) (width height : Nat) : Display :=
  let (ret, d₁) := (d.beforeSetup es width height).setupFramebufferResource (es.stage .setup)
    width height
  if ret ≠ .success then d₁ else d₁.probeAndTransfer es

/-- `enableController`, which always returns success. -/
def enableController (es : ControllerEnv) (d : Display) : IOReturn × Display :=
  if d.skipsEnable = true then
    (.success, { d with fb := { d.fb with callCount := d.fb.callCount + 1 } })
  else
    let d₁ := d.countCall
    if d₁.fb.gpuDriver = false then (.success, d₁) else
    match getInformationForDisplayMode d₁.fb.currentMode with
    | none => (.success, d₁)
    | some (width, height) => (.success, d₁.nativeScanout es width height)

end Display

/-! ## What the probes leave alone -/

/-- A command that neither makes, frees nor backs resource `k`, and does not
touch scanout 0. -/
def HostCmd.Spares (k : Nat) : HostCmd → Prop
  | .resourceCreate2D id .. => id ≠ k
  | .resourceCreate3D _ id _ => id ≠ k
  | .resourceUnref id => id ≠ k
  | .resourceAttachBacking id _ => id ≠ k
  | .resourceDetachBacking id => id ≠ k
  | .setScanout scanout .. => scanout ≠ 0
  | _ => True

theorem Screen.exec_spares {k : Nat} {c : HostCmd} (h : c.Spares k) (s : Screen) :
    (s.exec c).surfaces k = s.surfaces k ∧
      (s.scanouts 0 = k → (s.exec c).scanouts 0 = s.scanouts 0) := by
  cases c with
  | resourceCreate2D id format width height =>
      exact ⟨Function.update_of_ne (Ne.symm h) .., fun _ => rfl⟩
  | resourceCreate3D ctx id texture => exact ⟨Function.update_of_ne (Ne.symm h) .., fun _ => rfl⟩
  | resourceAttachBacking id list => exact ⟨Function.update_of_ne (Ne.symm h) .., fun _ => rfl⟩
  | resourceDetachBacking id => exact ⟨Function.update_of_ne (Ne.symm h) .., fun _ => rfl⟩
  | resourceUnref id =>
      refine ⟨Function.update_of_ne (Ne.symm h) .., fun hk => ?_⟩
      exact if_neg fun hc => h (hc.symm.trans hk)
  | setScanout scanout id width height => exact ⟨rfl, fun _ => Function.update_of_ne (Ne.symm h) ..⟩
  | _ => exact ⟨rfl, fun _ => rfl⟩

theorem Screen.run_spares {k : Nat} {cmds : List HostCmd} (h : ∀ c ∈ cmds, c.Spares k)
    (s : Screen) : (s.run cmds).surfaces k = s.surfaces k ∧
      (s.scanouts 0 = k → (s.run cmds).scanouts 0 = s.scanouts 0) := by
  induction cmds generalizing s with
  | nil => exact ⟨rfl, fun _ => rfl⟩
  | cons c cmds ih =>
      obtain ⟨hsurf, hscan⟩ := exec_spares (h c List.mem_cons_self) s
      obtain ⟨hsurfs, hscans⟩ := ih (fun c' hc' => h c' (List.mem_cons_of_mem c hc')) (s.exec c)
      refine ⟨hsurfs.trans hsurf, fun hk => ?_⟩
      rw [run_cons, hscans ((hscan hk).trans hk), hscan hk]

namespace Gpu

/-- From `g` to `g'` the calls were about other things than resource `k`. -/
structure Spares (k : Nat) (g g' : Gpu) : Prop where
  ran : ∃ cmds, g.Ran g' cmds ∧ ∀ c ∈ cmds, c.Spares k
  slots : g'.pool.mult k = g.pool.mult k
  ready : g'.ready = g.ready

theorem Spares.refl (k : Nat) (g : Gpu) : Spares k g g := ⟨⟨[], .refl g, by simp⟩, rfl, rfl⟩

theorem Spares.trans {k : Nat} {g g₁ g₂ : Gpu} (h₁ : Spares k g g₁) (h₂ : Spares k g₁ g₂) :
    Spares k g g₂ := by
  obtain ⟨cmds₁, hran₁, hsp₁⟩ := h₁.ran
  obtain ⟨cmds₂, hran₂, hsp₂⟩ := h₂.ran
  refine ⟨⟨cmds₁ ++ cmds₂, hran₁.trans hran₂, fun c hc => ?_⟩, h₂.slots.trans h₁.slots,
    h₂.ready.trans h₁.ready⟩
  exact (List.mem_append.mp hc).elim (hsp₁ c) (hsp₂ c)

theorem spares_submitCommand {k : Nat} (cmd : HostCmd) (h : cmd.Spares k) (e : Env) (g : Gpu) :
    Spares k g (g.submitCommand e cmd).2 := by
  refine ⟨⟨_, ran_submitCommand e g cmd, fun c hc => ?_⟩, rfl, rfl⟩
  unfold Env.accepted at hc
  split at hc
  · exact List.mem_singleton.mp hc ▸ h
  · cases hc

theorem spares_createResource2D {k id : Nat} (hne : id ≠ k) (e : Env) (g : Gpu)
    (format width height : Nat) (backing : Option MemoryDescriptor) :
    Spares k g (g.createResource2D e id format width height backing).2 := by
  have hcases := createResource2D_cases e g id format width height backing
  obtain ⟨p, n, l, hframe⟩ := createResource2D_frame e g id format width height backing
  have hready : (g.createResource2D e id format width height backing).2.ready = g.ready := by
    rw [hframe]
  clear hframe
  generalize g.createResource2D e id format width height backing = r at hcases hready
  cases hcases with
  | failed _ _ _ hpool hran =>
      refine ⟨?_, congrArg (·.mult k) hpool, hready⟩
      rcases hran with hran | hran
      · exact ⟨[], hran, by simp⟩
      · exact ⟨_, hran, by simpa [HostCmd.Spares] using hne⟩
  | unconfirmed _ _ hpool hran =>
      exact ⟨⟨_, hran, by simpa [HostCmd.Spares] using hne⟩, congrArg (·.mult k) hpool,
        hready⟩
  | noSlot _ _ hpool hran =>
      refine ⟨⟨_, hran, fun c hc => ?_⟩, congrArg (·.mult k) hpool, hready⟩
      rcases List.mem_append.mp hc with hc | hc
      · simp only [List.mem_cons, List.not_mem_nil, or_false] at hc
        rcases hc with rfl | rfl <;> exact hne
      · unfold Env.accepted at hc
        split at hc
        · exact List.mem_singleton.mp hc ▸ hne
        · cases hc
  | landed _ _ hfree hpool hran =>
      refine ⟨⟨_, hran, fun c hc => ?_⟩, ?_, hready⟩
      · simp only [List.mem_cons, List.not_mem_nil, or_false] at hc
        rcases hc with rfl | rfl <;> exact hne
      · obtain ⟨b, hput⟩ := hpool
        rw [hput, SlotTable.mult_put_free (SlotTable.isFree_of_freeIdx? hfree),
          if_neg fun hc => hne hc.2, Nat.add_zero]

theorem spares_deallocateResource {k id : Nat} (hne : id ≠ k) (e : Env) (g : Gpu) :
    Spares k g (g.deallocateResource e id).2 := by
  have hsub := spares_submitCommand (.resourceUnref id) hne e g
  unfold deallocateResource
  dsimp only
  split
  · obtain ⟨cmds, hran, hsp⟩ := hsub.ran
    refine ⟨⟨cmds, hran.of_link_eq rfl, hsp⟩, ?_, rfl⟩
    have hfree : GpuResource.free.resourceId = 0 := rfl
    exact (SlotTable.mult_clear hfree id k).trans (if_neg (Ne.symm hne))
  · exact hsub

theorem spares_attachBacking {k id : Nat} (hne : id ≠ k) (e : Env) (g : Gpu)
    (d : MemoryDescriptor) : Spares k g (g.attachBacking e id (some d)).2 := by
  obtain ⟨l, hl⟩ := attachBacking_frame e g id (some d)
  have hslots : (g.attachBacking e id (some d)).2.pool.mult k = g.pool.mult k := by rw [hl]
  have hready : (g.attachBacking e id (some d)).2.ready = g.ready := by rw [hl]
  rcases attachBacking_cases e g id d with ⟨-, -, hran⟩ | ⟨-, -, hran⟩
  · exact ⟨⟨_, hran, by simpa [HostCmd.Spares] using hne⟩, hslots, hready⟩
  · exact ⟨⟨_, hran, by simp⟩, hslots, hready⟩

theorem spares_transferToHost2D (k id : Nat) (e : Env) (g : Gpu) :
    Spares k g (g.transferToHost2D e id).2 := by
  unfold transferToHost2D
  split
  · exact .refl k g
  · exact spares_submitCommand (.transferToHost2D id) trivial e g

theorem spares_flushResource (k id : Nat) (e : Env) (g : Gpu) :
    Spares k g (g.flushResource e id).2 := by
  unfold flushResource
  split
  · exact .refl k g
  · exact spares_submitCommand (.resourceFlush id) trivial e g

theorem spares_executeCommands (k ctx : Nat) (e : Env) (g : Gpu) (commands : Option Nat) :
    Spares k g (g.executeCommands e ctx commands).2 := by
  unfold executeCommands
  split
  · exact .refl k g
  cases commands with
  | none => exact .refl k g
  | some size =>
      dsimp only
      split
      · exact .refl k g
      split
      · exact .refl k g
      split
      · exact .refl k g
      · exact spares_submitCommand (.submit3D ctx size) trivial e g

theorem spares_destroy3DContext (k id : Nat) (e : Env) (g : Gpu) :
    Spares k g (g.destroy3DContext e id).2 := by
  unfold destroy3DContext
  split
  · exact .refl k g
  split
  · exact .refl k g
  · exact spares_submitCommand (.ctxDestroy id) trivial e g

/-! ### The probes -/

theorem spares_probeResourceTracking (es : Nat → Env) (g : Gpu) :
    Spares 1 g (g.probeResourceTracking es) := by
  unfold probeResourceTracking
  dsimp only
  have hcreate := spares_createResource2D (show 0xFFFE ≠ 1 by decide) (es 0) g
    formatB8G8R8A8 1 1 none
  split
  · exact hcreate
  · refine (hcreate.trans ?_).trans (spares_deallocateResource (by decide) (es 2) _)
    exact spares_createResource2D (by decide) (es 1) _ formatB8G8R8A8 1 1 none

theorem spares_probeCursorTransport (es : Nat → Env) (vq : Bool) (g : Gpu) :
    Spares 1 g (g.probeCursorTransport es vq) := by
  unfold probeCursorTransport
  split
  · exact .refl 1 g
  dsimp only
  have hcreate := spares_createResource2D (show 0xFFFD ≠ 1 by decide) (es 0) g
    formatB8G8R8A8 64 64 none
  split
  · exact hcreate
  split
  · exact hcreate
  · split
    · exact hcreate
    · exact hcreate.trans (spares_transferToHost2D 1 0xFFFD (es 1) _)

theorem spares_probeReadback (es : Nat → Env) (g : Gpu) : Spares 1 g (probeReadback es g) := by
  unfold probeReadback
  dsimp only
  have hclear := spares_executeCommands 1 probeCtx (es 5) g (commandBuffer (es 5) 56)
  split
  · exact hclear
  have hread := hclear.trans (spares_submitCommand (.transferFromHost3D probeCtx probeRes)
    trivial (es 6) _)
  split
  · exact hread
  have hclear' := hread.trans (spares_executeCommands 1 probeCtx (es 7) _ (commandBuffer (es 7) 56))
  split
  · exact hclear'
  · exact hclear'.trans (spares_submitCommand (.transferFromHost3D probeCtx probeRes)
      trivial (es 8) _)

theorem spares_probeSurface (es : Nat → Env) (g : Gpu) : Spares 1 g (probeSurface es g) := by
  unfold probeSurface
  dsimp only
  have hcreate := spares_executeCommands 1 probeCtx (es 4) g (commandBuffer (es 4) 24)
  split
  · exact hcreate
  · exact (hcreate.trans (spares_probeReadback es _)).trans
      (spares_executeCommands 1 probeCtx (es 9) _ _)

theorem spares_probeAttached (es : Nat → Env) (g : Gpu) : Spares 1 g (probeAttached es g) := by
  have hattach := spares_submitCommand (k := 1) (.ctxAttachResource probeCtx probeRes)
    trivial (es 3) g
  exact (hattach.trans (spares_probeSurface es _)).trans
    (spares_submitCommand (.ctxDetachResource probeCtx probeRes) trivial (es 10) _)

theorem spares_probeBacked (es : Nat → Env) (g : Gpu) : Spares 1 g (probeBacked es g) := by
  unfold probeBacked
  split
  · exact .refl 1 g
  next d _ =>
  have hback := spares_attachBacking (show probeRes ≠ 1 by decide) (es 2) g d
  dsimp only
  split
  · exact hback
  · exact hback.trans (spares_probeAttached es _)

theorem spares_probeResource (es : Nat → Env) (g : Gpu) : Spares 1 g (probeResource es g) := by
  unfold probeResource
  dsimp only
  have hcreate := spares_submitCommand (k := 1) (.resourceCreate3D probeCtx probeRes
    ⟨target2D, 67, bindRenderTarget, 64, 64, 1, 1, 0, 0, 0⟩) (show probeRes ≠ 1 by decide) (es 1) g
  split
  · exact hcreate
  · exact (hcreate.trans (spares_probeBacked es _)).trans
      (spares_deallocateResource (by decide) (es 11) _)

theorem spares_probeTransport3D (es : Nat → Env) (capsets : Bool) (g : Gpu) :
    Spares 1 g (g.probeTransport3D es capsets) := by
  unfold probeTransport3D
  split
  · exact .refl 1 g
  dsimp only
  have hctx := spares_submitCommand (k := 1) (.ctxCreate probeCtx) trivial (es 0) g
  split
  · exact hctx
  · exact (hctx.trans (spares_probeResource es _)).trans
      (spares_destroy3DContext 1 probeCtx (es 12) _)

end Gpu
end VMQemuVGA
