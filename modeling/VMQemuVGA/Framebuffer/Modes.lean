import VMQemuVGA.Lib.Machine
import VMQemuVGA.Framebuffer.Controller

/-! # The mode, the dimensions and the resource

`m_current_mode` is what the framebuffer reports, `m_width` and `m_height` are
what its resource was made with, and the host has the resource. They are written
at different points of a destroy-then-create, any step of which can fail. -/

namespace VMQemuVGA

/-- Every mode of the table has dimensions a resource may have. -/
theorem dims_of_supportedMode {mode width height : Nat}
    (h : getInformationForDisplayMode mode = some (width, height)) :
    (0 < width ∧ width ≤ 8192) ∧ (0 < height ∧ height ≤ 8192) := by
  unfold getInformationForDisplayMode at h
  obtain ⟨m, hfind, hdims⟩ := Option.map_eq_some_iff.mp h
  have hmem := List.mem_of_find?_eq_some hfind
  have hall : ∀ m ∈ kSupportedModes,
      (0 < m.width ∧ m.width ≤ 8192) ∧ (0 < m.height ∧ m.height ≤ 8192) := by decide
  simp only [Prod.mk.injEq] at hdims
  obtain ⟨rfl, rfl⟩ := hdims
  exact hall m hmem

theorem probeDim_ne (n : Nat) : Display.probeDim n ≠ n := by
  unfold Display.probeDim
  split <;> omega

/-! ## The live resource -/

/-- The parts of the framebuffer that say what its resource is. -/
structure SameResource (fb fb' : Framebuffer) : Prop where
  gpuDriver : fb'.gpuDriver = fb.gpuDriver
  fbBacking : fb'.fbBacking = fb.fbBacking
  fbDeviceMemory : fb'.fbDeviceMemory = fb.fbDeviceMemory
  fbResourceId : fb'.fbResourceId = fb.fbResourceId
  width : fb'.width = fb.width
  height : fb'.height = fb.height

namespace Watched

/-- The framebuffer has a resource, over the fixed buffer `b`, and all parties
agree on it: the object, its slot in the pool, and the host. -/
structure Live (s : Watched) (b : MemoryDescriptor) : Prop where
  gpuDriver : s.display.fb.gpuDriver = true
  ready : s.display.gpu.ready = true
  fbResourceId : s.display.fb.fbResourceId = 1
  fbBacking : s.display.fb.fbBacking = some b
  fbDeviceMemory : s.display.fb.fbDeviceMemory = true
  fits : s.display.fb.width * s.display.fb.height * 4 ≤ b.length
  slot : s.display.gpu.pool.mult 1 = 1
  surface : s.screen.surfaces 1 =
    some ⟨s.display.fb.width, s.display.fb.height, some ⟨b.wireEntries, none⟩⟩
  shown : s.screen.scanouts 0 = 1

/-- A framebuffer with a resource id has a live resource. -/
def Sound (s : Watched) : Prop := s.display.fb.fbResourceId ≠ 0 → ∃ b, s.Live b

/-- Calls about other things leave the resource alive. -/
theorem sound_spares {d d' : Display} (hfb : SameResource d.fb d'.fb)
    (hgpu : Gpu.Spares 1 d.gpu d'.gpu) : Preserves Sound d d' := by
  obtain ⟨cmds, hran, hsp⟩ := hgpu.ran
  refine ⟨hran.grows, fun scr hs hid => ?_⟩
  rw [next_of_ran hran] at hid ⊢
  obtain ⟨b, hlive⟩ := hs (hfb.fbResourceId ▸ hid)
  obtain ⟨hsurf, hscan⟩ := Screen.run_spares hsp scr
  exact ⟨b, {
    gpuDriver := hfb.gpuDriver.trans hlive.gpuDriver
    ready := hgpu.ready.trans hlive.ready
    fbResourceId := hfb.fbResourceId.trans hlive.fbResourceId
    fbBacking := hfb.fbBacking.trans hlive.fbBacking
    fbDeviceMemory := hfb.fbDeviceMemory.trans hlive.fbDeviceMemory
    fits := by
      rw [hfb.width, hfb.height]
      exact hlive.fits
    slot := hgpu.slots.trans hlive.slot
    surface := by
      rw [hfb.width, hfb.height]
      exact hsurf.trans hlive.surface
    shown := (hscan hlive.shown).trans hlive.shown }⟩

/-- Without a resource there is nothing to keep. -/
theorem sound_of_no_resource {d d' : Display} (hgrows : d.gpu.Grows d'.gpu)
    (hid : d'.fb.fbResourceId = 0) : Preserves Sound d d' :=
  ⟨hgrows, fun _ _ hc => absurd hid hc⟩

theorem sound_setupFramebufferResource (es : Nat → Env) (d : Display) (width height : Nat)
    (hconf : d.Recreates width height → Display.Confirmed (es 1) width height) :
    Preserves Sound d (d.setupFramebufferResource es width height).2 := by
  rcases Display.setupFramebufferResource_cases es d width height with
    ⟨-, -, heq⟩ | ⟨hrec, heq⟩
  · rw [heq]
    exact .refl Sound d
  rw [heq]
  obtain ⟨hdriver, -, -, hmem, ⟨b, hb, hfits⟩, -⟩ := id hrec
  rcases Display.fb_recreate es hdriver width height with ⟨-, hfb⟩ | ⟨hret, hfb⟩
  · refine sound_of_no_resource (Display.grows_recreate es hdriver width height) ?_
    rw [hfb]
  · obtain ⟨cmds, hran, hslot, hready⟩ :=
      (Display.recreate_success es hdriver hb width height (hconf hrec)).2 hret
    refine ⟨hran.grows, fun scr _ _ => ⟨b, ?_⟩⟩
    rw [next_of_ran hran]
    exact {
      gpuDriver := by rw [hfb]; exact hdriver
      ready := hready
      fbResourceId := by rw [hfb]
      fbBacking := by rw [hfb]; exact hb
      fbDeviceMemory := by rw [hfb]; exact hmem
      fits := by rw [hfb]; exact hfits
      slot := hslot
      surface := by
        rw [hfb, Screen.run_append]
        simp [Screen.exec, Screen.setSurface, Screen.setBacking]
      shown := by
        rw [Screen.run_append]
        simp [Screen.exec] }

theorem sound_teardownFramebufferResource (e : Env) (d : Display) :
    Preserves Sound d (d.teardownFramebufferResource e) := by
  by_cases hdriver : d.fb.gpuDriver = true
  · refine sound_of_no_resource (Display.gpu_teardownFramebufferResource e hdriver).2.2 ?_
    rw [Display.fb_teardownFramebufferResource e hdriver]
  · have heq : d.teardownFramebufferResource e = d := if_neg fun hc => hdriver hc.2
    rw [heq]
    exact .refl Sound d

theorem sound_refreshDisplay (es : Nat → Env) (d : Display) :
    Preserves Sound d (d.refreshDisplay es) := by
  unfold Display.refreshDisplay
  split
  · exact .refl Sound d
  split
  · exact .refl Sound d
  split
  · exact sound_spares ⟨rfl, rfl, rfl, rfl, rfl, rfl⟩ (.refl 1 d.gpu)
  dsimp only
  have htransfer := Gpu.spares_transferToHost2D 1 1 (es 0) d.gpu
  split
  · exact sound_spares ⟨rfl, rfl, rfl, rfl, rfl, rfl⟩ htransfer
  · exact sound_spares ⟨rfl, rfl, rfl, rfl, rfl, rfl⟩
      (htransfer.trans (Gpu.spares_flushResource 1 1 (es 1) _))

/-! ## Recreating a live resource -/

/-- The host grants a live resource over `b` a recreation: the `UNREF`, the
create, the backing and the scanout. -/
def Serves (es : Nat → Env) (b : MemoryDescriptor) (width height : Nat) : Prop :=
  (es 0).Takes (.resourceUnref 1) ∧
    (es 1).ask (.resourceCreate2D 1 Gpu.formatB8G8R8A8 width height) = .reply respOkNodata ∧
    (b.prepareRet = .success ∧ b.segments ≠ [] ∧ b.walked ≠ 0 ∧
      (es 1).alloc .attachCommand = true ∧
      (es 1).Takes (.resourceAttachBacking 1 ⟨b.wireEntries, none⟩)) ∧
    (es 2).Takes (.setScanout 0 1 width height)

/-- What is left of a live resource in the pool after an accepted `UNREF`. -/
theorem recreatePool_of_live {s : Watched} {b : MemoryDescriptor} (hlive : s.Live b) {e : Env}
    (htakes : e.Takes (.resourceUnref 1)) :
    (s.display.recreatePool e).mult 1 = 0 ∧ (s.display.recreatePool e).freeIdx? ≠ none := by
  unfold Display.recreatePool
  rw [if_pos ⟨by rw [hlive.fbResourceId]; decide, by rw [hlive.fbResourceId]; exact htakes⟩,
    hlive.fbResourceId]
  have hfree : GpuResource.free.resourceId = 0 := rfl
  refine ⟨?_, SlotTable.freeIdx?_clear_ne_none hfree ?_⟩
  · rw [SlotTable.mult_clear hfree, if_pos rfl, hlive.slot]
  · rw [hlive.slot]
    exact Nat.one_ne_zero

/-- For a live resource `Served` is a matter of the host. -/
theorem served_iff_of_live {s : Watched} {b : MemoryDescriptor} (hlive : s.Live b)
    (es : Nat → Env) (width height : Nat) :
    s.display.Served es width height ↔ Serves es b width height := by
  unfold Display.Served Serves Gpu.Lands Gpu.Backed2D Gpu.Attaches Display.SetsScanout
  by_cases htakes : (es 0).Takes (.resourceUnref 1)
  · obtain ⟨hslot, hfree⟩ := recreatePool_of_live hlive htakes
    have hnone : (s.display.gpu.withPool (s.display.recreatePool (es 0))).findResource 1 = none :=
      SlotTable.find?_eq_none_iff.mpr hslot
    simp only [hnone, hfree, Gpu.withPool_pool, Gpu.withPool_ready, hlive.ready, hlive.fbBacking,
      htakes, Gpu.backing2D,
      Option.orElse_some, Option.mem_some_iff, exists_eq_left', true_and, ne_eq, not_false_eq_true,
      and_true, and_assoc]
  · -- the resource keeps its slot, and a second one with its id is turned away
    refine iff_of_false (fun hc => ?_) fun hc => htakes hc.1
    have hpool : s.display.recreatePool (es 0) = s.display.gpu.pool := by
      refine if_neg fun hc => htakes ?_
      rw [hlive.fbResourceId] at hc
      exact hc.2
    have hnone := SlotTable.find?_eq_none_iff.mp hc.1.1.1
    rw [Gpu.withPool_pool, hpool, hlive.slot] at hnone
    exact absurd hnone Nat.one_ne_zero

/-! ## Dimensions -/

/-- The dimensions follow a setup that succeeds, and no other; the modes stay. -/
theorem dims_setupFramebufferResource (es : Nat → Env) (d : Display) (width height : Nat) :
    ((d.setupFramebufferResource es width height).1 = .success →
      (d.setupFramebufferResource es width height).2.fb.width = width ∧
      (d.setupFramebufferResource es width height).2.fb.height = height) ∧
    ((d.setupFramebufferResource es width height).1 ≠ .success →
      (d.setupFramebufferResource es width height).2.fb.width = d.fb.width ∧
      (d.setupFramebufferResource es width height).2.fb.height = d.fb.height) ∧
    (d.setupFramebufferResource es width height).2.fb.currentMode = d.fb.currentMode ∧
    (d.setupFramebufferResource es width height).2.fb.displayModes = d.fb.displayModes := by
  rcases Display.setupFramebufferResource_cases es d width height with
    ⟨-, hsame, heq⟩ | ⟨hrec, heq⟩
  · rw [heq]
    exact ⟨fun hok => (hsame hok).2, fun _ => ⟨rfl, rfl⟩, rfl, rfl⟩
  · rw [heq]
    rcases Display.fb_recreate es hrec.1 width height with ⟨hret, hfb⟩ | ⟨hret, hfb⟩
    · rw [hfb]
      exact ⟨fun hok => absurd hok hret, fun _ => ⟨rfl, rfl⟩, rfl, rfl⟩
    · rw [hfb]
      exact ⟨fun _ => ⟨rfl, rfl⟩, fun hno => absurd hret hno, rfl, rfl⟩

theorem fbBacking_setupFramebufferResource (es : Nat → Env) (d : Display) (width height : Nat) :
    (d.setupFramebufferResource es width height).2.fb.fbBacking = d.fb.fbBacking := by
  rcases Display.setupFramebufferResource_cases es d width height with ⟨-, -, heq⟩ | ⟨hrec, heq⟩
  · rw [heq]
  · rw [heq]
    rcases Display.fb_recreate es hrec.1 width height with ⟨-, hfb⟩ | ⟨-, hfb⟩
    · rw [hfb]
    · rw [hfb]

/-- A setup that gets to the recreation and is served there succeeds. -/
theorem setup_success_iff_served {es : Nat → Env} {d : Display} {width height : Nat}
    (hrec : d.Recreates width height) (hconf : Display.Confirmed (es 1) width height) :
    (d.setupFramebufferResource es width height).1 = .success ↔ d.Served es width height := by
  rcases Display.setupFramebufferResource_cases es d width height with ⟨hno, -⟩ | ⟨-, heq⟩
  · exact absurd hrec hno
  · obtain ⟨b, hb, -⟩ := hrec.2.2.2.2.1
    rw [heq, (Display.recreate_success es hrec.1 hb width height hconf).1]

/-- A recreation at other dimensions of a live resource goes the way the host
decides. -/
theorem setup_success_iff_of_live {s : Watched} {b : MemoryDescriptor} (hlive : s.Live b)
    (es : Nat → Env) {width height : Nat} (hrec : s.display.Recreates width height)
    (hconf : Display.Confirmed (es 1) width height) :
    (s.display.setupFramebufferResource es width height).1 = .success ↔
      Serves es b width height := by
  rw [setup_success_iff_served hrec hconf]
  exact served_iff_of_live hlive es width height

/-- The probe of the recreation gives a live resource its dimensions back, if
the host that granted the first recreation grants the second. -/
theorem dims_probeResourceRecreate {s : Watched} (hs : s.Sound) (es es' : Nat → Env)
    (hdims : (0 < s.display.fb.width ∧ s.display.fb.width ≤ 8192) ∧
      (0 < s.display.fb.height ∧ s.display.fb.height ≤ 8192))
    (hconf : Display.Confirmed (es 1) (Display.probeDim s.display.fb.width)
      (Display.probeDim s.display.fb.height))
    (hconf' : Display.Confirmed (es' 1) s.display.fb.width s.display.fb.height)
    (hserves : ∀ b ∈ s.display.fb.fbBacking,
      Serves es b (Display.probeDim s.display.fb.width) (Display.probeDim s.display.fb.height) →
        Serves es' b s.display.fb.width s.display.fb.height) :
    (s.display.probeResourceRecreate es es').fb.width = s.display.fb.width ∧
      (s.display.probeResourceRecreate es es').fb.height = s.display.fb.height := by
  unfold Display.probeResourceRecreate
  split
  · exact ⟨rfl, rfl⟩
  next hguard =>
  have hid : s.display.fb.fbResourceId ≠ 0 := fun hc => hguard (Or.inr (Or.inr hc))
  obtain ⟨b, hlive⟩ := hs hid
  generalize hw : Display.probeDim s.display.fb.width = w at hconf hserves ⊢
  generalize hh : Display.probeDim s.display.fb.height = h at hconf hserves ⊢
  have hne : w ≠ s.display.fb.width := by rw [← hw]; exact probeDim_ne _
  obtain ⟨hokA, hfailA, -, -⟩ := dims_setupFramebufferResource es s.display w h
  have hsound := (sound_setupFramebufferResource es s.display w h fun _ => hconf).2 s.screen hs
  have hA : (s.display.setupFramebufferResource es w h).1 = .success → Serves es b w h := by
    intro hok
    rcases Display.setupFramebufferResource_cases es s.display w h with ⟨-, hsame, -⟩ | ⟨hrec, -⟩
    · exact absurd (hsame hok).2.1.symm hne
    · exact (setup_success_iff_of_live hlive es hrec hconf).mp hok
  have hgrew : (s.display.setupFramebufferResource es w h).1 = .success →
      (s.display.setupFramebufferResource es w h).2.fb.fbResourceId ≠ 0 := by
    intro hok
    rcases Display.setupFramebufferResource_cases es s.display w h with ⟨-, hsame, -⟩ | ⟨hrec, heq⟩
    · exact absurd (hsame hok).2.1.symm hne
    · rw [heq] at hok ⊢
      rcases Display.fb_recreate es hrec.1 w h with ⟨hret, -⟩ | ⟨-, hfb⟩
      · exact absurd hok hret
      · rw [hfb]
        exact Nat.one_ne_zero
  have hback :
      (s.display.setupFramebufferResource es w h).2.fb.fbBacking = s.display.fb.fbBacking :=
    fbBacking_setupFramebufferResource es s.display w h
  generalize s.display.setupFramebufferResource es w h = r at *
  obtain ⟨hokC, hfailC, -, -⟩ :=
    dims_setupFramebufferResource es' r.2 s.display.fb.width s.display.fb.height
  by_cases hretC : (r.2.setupFramebufferResource es' s.display.fb.width s.display.fb.height).1
      = .success
  · exact hokC hretC
  by_cases hretA : r.1 = .success
  swap
  · -- the dimensions never moved
    obtain ⟨hwC, hhC⟩ := hfailC hretC
    obtain ⟨hwA, hhA⟩ := hfailA hretA
    exact ⟨hwC.trans hwA, hhC.trans hhA⟩
  obtain ⟨b', hlive'⟩ := hsound (hgrew hretA)
  obtain rfl : b = b' := by
    have := hlive'.fbBacking.symm.trans (hback.trans hlive.fbBacking)
    exact (Option.some.inj this).symm
  refine absurd ((setup_success_iff_of_live hlive' es' ⟨hlive'.gpuDriver, hdims.1, hdims.2,
    hlive'.fbDeviceMemory, ⟨b, hlive'.fbBacking, hlive.fits⟩, ?_⟩ hconf').mpr
      (hserves b hlive.fbBacking (hA hretA))) hretC
  intro hc
  exact hne ((hokA hretA).1.symm.trans hc.2.1)

/-! ## The controller -/

/-- What has to be answered while the controller comes up for a mode of this
size, for the framebuffer to keep its resource. -/
structure Confirms (es : ControllerEnv) (width height : Nat) : Prop where
  setup : Display.Confirmed (es.stage .setup 1) width height
  recreateProbe : Display.Confirmed (es.stage .recreateProbe 1) (Display.probeDim width)
    (Display.probeDim height)
  recreateRestore : Display.Confirmed (es.stage .recreateRestore 1) width height

theorem sound_probeOnce {flag : Framebuffer → Bool} {raise : Framebuffer → Framebuffer}
    {probe : Display → Display} {d : Display} (hraise : SameResource d.fb (raise d.fb))
    (hprobe : Preserves Sound { d with fb := raise d.fb } (probe { d with fb := raise d.fb })) :
    Preserves Sound d (d.probeOnce flag raise probe) := by
  unfold Display.probeOnce
  split
  · exact .refl Sound d
  · have hraised : Preserves Sound d { d with fb := raise d.fb } :=
      sound_spares hraise (.refl 1 d.gpu)
    exact hraised.trans hprobe

theorem sound_probeResourceRecreate (es es' : Nat → Env) (d : Display)
    (hconf : Display.Confirmed (es 1) (Display.probeDim d.fb.width) (Display.probeDim d.fb.height))
    (hconf' : Display.Confirmed (es' 1) d.fb.width d.fb.height) :
    Preserves Sound d (d.probeResourceRecreate es es') := by
  unfold Display.probeResourceRecreate
  split
  · exact .refl Sound d
  · exact (sound_setupFramebufferResource es d _ _ fun _ => hconf).trans
      (sound_setupFramebufferResource es' _ _ _ fun _ => hconf')

theorem sound_recreateOnce (es : ControllerEnv) (d : Display)
    (hconf : Confirms es d.fb.width d.fb.height) : Preserves Sound d (d.recreateOnce es) :=
  sound_probeOnce ⟨rfl, rfl, rfl, rfl, rfl, rfl⟩
    (sound_probeResourceRecreate _ _ { d with fb := { d.fb with recreateProbed := true } }
      hconf.recreateProbe hconf.recreateRestore)

theorem sound_cursorOnce (es : ControllerEnv) (d : Display) :
    Preserves Sound d (d.cursorOnce es) :=
  sound_probeOnce ⟨rfl, rfl, rfl, rfl, rfl, rfl⟩
    (sound_spares ⟨rfl, rfl, rfl, rfl, rfl, rfl⟩ (Gpu.spares_probeCursorTransport _ _ _))

theorem sound_transport3DOnce (es : ControllerEnv) (d : Display) :
    Preserves Sound d (d.transport3DOnce es) :=
  sound_probeOnce ⟨rfl, rfl, rfl, rfl, rfl, rfl⟩
    (sound_spares ⟨rfl, rfl, rfl, rfl, rfl, rfl⟩ (Gpu.spares_probeTransport3D _ _ _))

theorem sound_initialTransfer (es : Nat → Env) (d : Display) :
    Preserves Sound d (d.initialTransfer es) :=
  sound_spares ⟨rfl, rfl, rfl, rfl, rfl, rfl⟩
    ((Gpu.spares_transferToHost2D 1 _ _ _).trans (Gpu.spares_flushResource 1 _ _ _))

theorem sound_probeAndTransfer (es : ControllerEnv) (d : Display)
    (hconf : Confirms es d.fb.width d.fb.height) : Preserves Sound d (d.probeAndTransfer es) :=
  (((sound_recreateOnce es d hconf).trans (sound_cursorOnce es _)).trans
    (sound_transport3DOnce es _)).trans (sound_initialTransfer _ _)

/-- The negative control does no harm where there is no resource to lose, or
where it is refused as it is meant to be. -/
theorem sound_setscanout (e : Env) {d : Display} (hdriver : d.fb.gpuDriver = true)
    (id width height : Nat)
    (hrefused : d.fb.fbResourceId ≠ 0 → ¬ d.SetsScanout e 0 id width height) :
    Preserves Sound d (d.setscanout e 0 id width height).2 := by
  rcases Display.setscanout_cases e d 0 id width height hdriver with
    ⟨hset, l, heq, hran⟩ | ⟨-, ret, l, heq, -, hran⟩
  · rw [heq]
    by_cases hid : d.fb.fbResourceId = 0
    · exact sound_of_no_resource hran.grows hid
    · exact absurd hset (hrefused hid)
  · rw [heq]
    exact sound_spares ⟨rfl, rfl, rfl, rfl, rfl, rfl⟩ ⟨⟨[], hran, by simp⟩, rfl, rfl⟩

theorem sound_setDims {d : Display} {width height : Nat}
    (hdims : d.fb.fbResourceId ≠ 0 → d.fb.width = width ∧ d.fb.height = height) :
    Preserves Sound d (d.setDims width height) := by
  by_cases hid : d.fb.fbResourceId = 0
  · exact sound_of_no_resource (.refl d.gpu) hid
  · obtain ⟨rfl, rfl⟩ := hdims hid
    exact sound_spares ⟨rfl, rfl, rfl, rfl, rfl, rfl⟩ (.refl 1 d.gpu)

/-- What the native setup leaves of the state it starts from, up to the setup
proper. -/
theorem sound_beforeSetup (es : ControllerEnv) {d : Display} {width height : Nat}
    (hdriver : d.fb.gpuDriver = true)
    (hdims : d.fb.fbResourceId ≠ 0 → (d.fb.width = width ∧ d.fb.height = height) ∧
      ¬ d.SetsScanout (es.stage .negativeControl 0) 0 999 width height) :
    Preserves Sound d (d.beforeSetup es width height) := by
  unfold Display.beforeSetup
  refine ((sound_setDims fun hid => (hdims hid).1).trans
    (sound_setscanout _ (d := d.setDims width height) hdriver 999 width height
      fun hid => (hdims hid).2)).trans ?_
  exact sound_probeOnce ⟨rfl, rfl, rfl, rfl, rfl, rfl⟩
    (sound_spares ⟨rfl, rfl, rfl, rfl, rfl, rfl⟩ (Gpu.spares_probeResourceTracking _ _))

theorem sound_nativeScanout (es : ControllerEnv) {d : Display} {width height : Nat}
    (hdriver : d.fb.gpuDriver = true)
    (hdims : d.fb.fbResourceId ≠ 0 → (d.fb.width = width ∧ d.fb.height = height) ∧
      ¬ d.SetsScanout (es.stage .negativeControl 0) 0 999 width height)
    (hconf : Confirms es width height) : Preserves Sound d (d.nativeScanout es width height) := by
  have hbefore := sound_beforeSetup es hdriver hdims
  unfold Display.nativeScanout
  dsimp only
  generalize d.beforeSetup es width height = d₁ at hbefore ⊢
  have hsetup := hbefore.trans
    (sound_setupFramebufferResource (es.stage .setup) d₁ width height fun _ => hconf.setup)
  split
  · exact hsetup
  · next hret =>
    obtain ⟨hw, hh⟩ := (dims_setupFramebufferResource (es.stage .setup) d₁ width height).1
      (not_not.mp hret)
    refine hsetup.trans (sound_probeAndTransfer es _ ?_)
    rw [hw, hh]
    exact hconf

/-! ### What it reports -/

/-- The parts of the framebuffer that a mode is about. -/
structure SameModes (fb fb' : Framebuffer) : Prop where
  width : fb'.width = fb.width
  height : fb'.height = fb.height
  currentMode : fb'.currentMode = fb.currentMode
  displayModes : fb'.displayModes = fb.displayModes

theorem SameModes.trans {fb fb₁ fb₂ : Framebuffer} (h₁ : SameModes fb fb₁)
    (h₂ : SameModes fb₁ fb₂) : SameModes fb fb₂ :=
  ⟨h₂.width.trans h₁.width, h₂.height.trans h₁.height, h₂.currentMode.trans h₁.currentMode,
    h₂.displayModes.trans h₁.displayModes⟩

theorem sameModes_cursorOnce (es : ControllerEnv) (d : Display) :
    SameModes d.fb (d.cursorOnce es).fb := by
  unfold Display.cursorOnce Display.probeOnce
  split
  · exact ⟨rfl, rfl, rfl, rfl⟩
  · exact ⟨rfl, rfl, rfl, rfl⟩

theorem sameModes_transport3DOnce (es : ControllerEnv) (d : Display) :
    SameModes d.fb (d.transport3DOnce es).fb := by
  unfold Display.transport3DOnce Display.probeOnce
  split
  · exact ⟨rfl, rfl, rfl, rfl⟩
  · exact ⟨rfl, rfl, rfl, rfl⟩

theorem sameModes_refreshDisplay (es : Nat → Env) (d : Display) :
    SameModes d.fb (d.refreshDisplay es).fb := by
  unfold Display.refreshDisplay
  split
  · exact ⟨rfl, rfl, rfl, rfl⟩
  split
  · exact ⟨rfl, rfl, rfl, rfl⟩
  split
  · exact ⟨rfl, rfl, rfl, rfl⟩
  dsimp only
  split
  · exact ⟨rfl, rfl, rfl, rfl⟩
  · exact ⟨rfl, rfl, rfl, rfl⟩

/-- The modes stay through the probe of the recreation, whatever comes of it. -/
theorem modes_probeResourceRecreate (es es' : Nat → Env) (d : Display) :
    (d.probeResourceRecreate es es').fb.currentMode = d.fb.currentMode ∧
      (d.probeResourceRecreate es es').fb.displayModes = d.fb.displayModes := by
  unfold Display.probeResourceRecreate
  split
  · exact ⟨rfl, rfl⟩
  · obtain ⟨-, -, hmode, hmodes⟩ := dims_setupFramebufferResource es d
      (Display.probeDim d.fb.width) (Display.probeDim d.fb.height)
    obtain ⟨-, -, hmode', hmodes'⟩ := dims_setupFramebufferResource es'
      (d.setupFramebufferResource es (Display.probeDim d.fb.width)
        (Display.probeDim d.fb.height)).2 d.fb.width d.fb.height
    exact ⟨hmode'.trans hmode, hmodes'.trans hmodes⟩

/-- If the one-shot recreation is tried out, the host that grants it also grants
the way back. -/
def RestoreServed (es : ControllerEnv) (fb : Framebuffer) (width height : Nat) : Prop :=
  fb.recreateProbed = false → ∀ b ∈ fb.fbBacking,
    Serves (es.stage .recreateProbe) b (Display.probeDim width) (Display.probeDim height) →
      Serves (es.stage .recreateRestore) b width height

theorem restoreServed_setup {es : ControllerEnv} (es' : Nat → Env) {d : Display}
    {width height : Nat} (h : RestoreServed es d.fb width height) :
    RestoreServed es (d.setupFramebufferResource es' width height).2.fb width height := by
  have hprobed : (d.setupFramebufferResource es' width height).2.fb.recreateProbed =
      d.fb.recreateProbed := by
    rcases Display.setupFramebufferResource_cases es' d width height with ⟨-, -, heq⟩ | ⟨hrec, heq⟩
    · rw [heq]
    · rw [heq]
      rcases Display.fb_recreate es' hrec.1 width height with ⟨-, hfb⟩ | ⟨-, hfb⟩
      · rw [hfb]
      · rw [hfb]
  unfold RestoreServed
  rw [hprobed, fbBacking_setupFramebufferResource]
  exact h

theorem sameModes_probeAndTransfer (es : ControllerEnv) {s : Watched} (hs : s.Sound)
    (hdims : (0 < s.display.fb.width ∧ s.display.fb.width ≤ 8192) ∧
      (0 < s.display.fb.height ∧ s.display.fb.height ≤ 8192))
    (hconf : Confirms es s.display.fb.width s.display.fb.height)
    (hserved : RestoreServed es s.display.fb s.display.fb.width s.display.fb.height) :
    SameModes s.display.fb (s.display.probeAndTransfer es).fb := by
  have hrecreate : SameModes s.display.fb (s.display.recreateOnce es).fb := by
    unfold Display.recreateOnce Display.probeOnce
    split
    · exact ⟨rfl, rfl, rfl, rfl⟩
    · next hprobed =>
      have hraised : Preserves Sound s.display
          { s.display with fb := { s.display.fb with recreateProbed := true } } :=
        sound_spares ⟨rfl, rfl, rfl, rfl, rfl, rfl⟩ (.refl 1 s.display.gpu)
      have hsound := hraised.2 s.screen hs
      obtain ⟨hw, hh⟩ := dims_probeResourceRecreate hsound (es.stage .recreateProbe)
        (es.stage .recreateRestore) hdims hconf.recreateProbe hconf.recreateRestore
        (hserved (Bool.not_eq_true _ ▸ hprobed))
      obtain ⟨hmode, hmodes⟩ := modes_probeResourceRecreate (es.stage .recreateProbe)
        (es.stage .recreateRestore)
        { s.display with fb := { s.display.fb with recreateProbed := true } }
      exact ⟨hw, hh, hmode, hmodes⟩
  refine ((hrecreate.trans (sameModes_cursorOnce es _)).trans
    (sameModes_transport3DOnce es _)).trans ?_
  exact ⟨rfl, rfl, rfl, rfl⟩

/-- Up to the setup proper, the dimensions are those of the mode, and what the
one-shot recreation depends on stays. -/
theorem modes_beforeSetup (es : ControllerEnv) (d : Display) (width height : Nat) :
    SameModes (d.setDims width height).fb (d.beforeSetup es width height).fb ∧
      (d.beforeSetup es width height).fb.recreateProbed = d.fb.recreateProbed ∧
      (d.beforeSetup es width height).fb.fbBacking = d.fb.fbBacking := by
  obtain ⟨taken, hfb⟩ := Display.fb_setscanout (es.stage .negativeControl 0)
    (d.setDims width height) 0 999 width height
  unfold Display.beforeSetup Display.probeOnce
  dsimp only
  split
  · rw [hfb]
    exact ⟨⟨rfl, rfl, rfl, rfl⟩, rfl, rfl⟩
  · simp only [Display.withGpu, hfb]
    exact ⟨⟨rfl, rfl, rfl, rfl⟩, rfl, rfl⟩

/-- **The dimensions after the native setup are those of the mode it is for.** -/
theorem sameModes_nativeScanout (es : ControllerEnv) {s : Watched} (hs : s.Sound)
    {width height : Nat} (hdriver : s.display.fb.gpuDriver = true)
    (hdims : s.display.fb.fbResourceId ≠ 0 →
      (s.display.fb.width = width ∧ s.display.fb.height = height) ∧
        ¬ s.display.SetsScanout (es.stage .negativeControl 0) 0 999 width height)
    (hrange : (0 < width ∧ width ≤ 8192) ∧ (0 < height ∧ height ≤ 8192))
    (hconf : Confirms es width height) (hserved : RestoreServed es s.display.fb width height) :
    SameModes (s.display.setDims width height).fb (s.display.nativeScanout es width height).fb := by
  have hsound := (sound_beforeSetup es hdriver hdims).2 s.screen hs
  obtain ⟨hmodes, hprobed, hback⟩ := modes_beforeSetup es s.display width height
  have hserved' : RestoreServed es (s.display.beforeSetup es width height).fb width height := by
    unfold RestoreServed
    rw [hprobed, hback]
    exact hserved
  unfold Display.nativeScanout
  dsimp only
  generalize s.display.beforeSetup es width height = d₁ at hsound hmodes hserved' ⊢
  obtain ⟨hok, hfail, hmode₂, hmodes₂⟩ :=
    dims_setupFramebufferResource (es.stage .setup) d₁ width height
  have hsound₂ := (sound_setupFramebufferResource (es.stage .setup) d₁ width height
    fun _ => hconf.setup).2 _ hsound
  have hserved₂ := restoreServed_setup (es.stage .setup) hserved'
  generalize d₁.setupFramebufferResource (es.stage .setup) width height = r at *
  split
  · next hret =>
    obtain ⟨hw, hh⟩ := hfail hret
    exact hmodes.trans ⟨hw, hh, hmode₂, hmodes₂⟩
  · next hret =>
    obtain ⟨hw, hh⟩ := hok (not_not.mp hret)
    have hsame : SameModes (s.display.setDims width height).fb r.2.fb :=
      ⟨hw, hh, hmode₂.trans hmodes.currentMode, hmodes₂.trans hmodes.displayModes⟩
    refine hsame.trans (sameModes_probeAndTransfer es hsound₂ ?_ ?_ ?_)
    · show (0 < r.2.fb.width ∧ r.2.fb.width ≤ 8192) ∧ (0 < r.2.fb.height ∧ r.2.fb.height ≤ 8192)
      rw [hw, hh]
      exact hrange
    · show Confirms es r.2.fb.width r.2.fb.height
      rw [hw, hh]
      exact hconf
    · show RestoreServed es r.2.fb r.2.fb.width r.2.fb.height
      rw [hw, hh]
      exact hserved₂

/-- The list of modes is not written once it has been made. -/
theorem displayModes_nativeScanout (es : ControllerEnv) (d : Display) (width height : Nat) :
    (d.nativeScanout es width height).fb.displayModes = d.fb.displayModes := by
  obtain ⟨hbefore, -, -⟩ := modes_beforeSetup es d width height
  unfold Display.nativeScanout
  dsimp only
  generalize d.beforeSetup es width height = d₁ at hbefore ⊢
  obtain ⟨-, -, -, hsetup⟩ := dims_setupFramebufferResource (es.stage .setup) d₁ width height
  generalize d₁.setupFramebufferResource (es.stage .setup) width height = r at hsetup ⊢
  have hr : r.2.fb.displayModes = d.fb.displayModes := hsetup.trans hbefore.displayModes
  split
  · exact hr
  have hrecreate : (r.2.recreateOnce es).fb.displayModes = r.2.fb.displayModes := by
    unfold Display.recreateOnce Display.probeOnce
    split
    · rfl
    · exact (modes_probeResourceRecreate _ _
        { r.2 with fb := { r.2.fb with recreateProbed := true } }).2
  have hcursor := (sameModes_cursorOnce es (r.2.recreateOnce es)).displayModes
  have htransport :=
    (sameModes_transport3DOnce es ((r.2.recreateOnce es).cursorOnce es)).displayModes
  exact htransport.trans (hcursor.trans (hrecreate.trans hr))

end Watched

/-! ## Runs -/

/-- A display with its screen, whether the last mode call returned success, and
whether every mode call that returned an error has left the reported mode as it
was. -/
structure ModeRun where
  watched : Watched
  modeOk : Bool
  modeKept : Bool

inductive ModeEvent where
  | enableController (es : ControllerEnv)
  | setDisplayMode (mode : Nat) (es : Nat → Env)
  | setupFramebufferResource (width height : Nat) (es : Nat → Env)
  | teardownFramebufferResource (e : Env)
  | hostLate

namespace ModeRun

abbrev display (s : ModeRun) : Display := s.watched.display
abbrev fb (s : ModeRun) : Framebuffer := s.watched.display.fb

/-- A mode call has come to the code and the display of `r`. -/
def afterMode (s : ModeRun) (r : IOReturn × Display) : ModeRun where
  watched := s.watched.next r.2
  modeOk := decide (r.1 = .success)
  modeKept := s.modeKept &&
    (decide (r.1 = .success) || decide (r.2.fb.currentMode = s.fb.currentMode))

def step (s : ModeRun) : ModeEvent → Option ModeRun
  | .enableController es =>
      some { s with watched := s.watched.next (s.display.enableController es).2 }
  | .setDisplayMode mode es => some (s.afterMode (s.display.setDisplayMode es mode))
  | .setupFramebufferResource width height es =>
      some { s with
        watched := s.watched.next (s.display.setupFramebufferResource es width height).2 }
  | .teardownFramebufferResource e =>
      some { s with watched := s.watched.next (s.display.teardownFramebufferResource e) }
  | .hostLate => s.watched.hostLate.map fun w => { s with watched := w }

/-- A framebuffer that has just been started, with or without a device, over any
buffer, in front of any screen. -/
def machine (g : Gpu) (scr : Screen) (gpuDriver : Bool) (backing : Option MemoryDescriptor) :
    Machine ModeRun ModeEvent where
  init := ⟨⟨⟨g, .start gpuDriver backing⟩, scr⟩, false, true⟩
  step := step

/-- What the framebuffer promises:
* with a resource id, the host has resource 1 at the framebuffer's dimensions, backed by a
  buffer that is large enough, and shows it on scanout 0;
* after a mode call that succeeded, the reported mode has those dimensions;
* no mode call that failed has changed the reported mode. -/
structure Agrees (s : ModeRun) : Prop where
  backed : s.fb.fbResourceId ≠ 0 → ∃ b ∈ s.fb.fbBacking, s.fb.width * s.fb.height * 4 ≤ b.length ∧
    s.watched.screen.surfaces 1 = some ⟨s.fb.width, s.fb.height, some ⟨b.wireEntries, none⟩⟩ ∧
    s.watched.screen.scanouts 0 = 1
  reported : s.modeOk = true →
    getInformationForDisplayMode s.fb.currentMode = some (s.fb.width, s.fb.height)
  kept : s.modeKept = true

/-! ### When it keeps them -/

/-- `enableController` for a mode of this size: it takes over dimensions that a
live resource has, the negative control is refused while there is one, and a
recreation it tries out is undone. -/
def EnableOk (s : ModeRun) (es : ControllerEnv) : Prop :=
  s.display.skipsEnable = false → s.fb.gpuDriver = true → ∀ width height,
    getInformationForDisplayMode s.fb.currentMode = some (width, height) →
      (s.fb.fbResourceId ≠ 0 → (s.fb.width = width ∧ s.fb.height = height) ∧
        ¬ s.display.SetsScanout (es.stage .negativeControl 0) 0 999 width height) ∧
      Watched.Confirms es width height ∧
      (s.modeOk = true → Watched.RestoreServed es s.fb width height)

/-- When a call keeps the promises. -/
def CallOk (s : ModeRun) : ModeEvent → Prop
  | .enableController es => s.EnableOk es
  | .setDisplayMode mode es =>
      mode ∈ s.fb.displayModes → ∀ width height,
        getInformationForDisplayMode mode = some (width, height) →
          s.display.NeedsSetup width height →
            (s.display.Recreates width height → Display.Confirmed (es 1) width height) ∧
            (mode ≠ s.fb.currentMode →
              s.display.Recreates width height ∧ s.display.Served es width height)
  | .setupFramebufferResource width height es =>
      s.display.Recreates width height → Display.Confirmed (es 1) width height ∧
        (s.modeOk = true → s.display.Served es width height →
          getInformationForDisplayMode s.fb.currentMode = some (width, height))
  | .teardownFramebufferResource _ => True
  | .hostLate => s.fb.fbResourceId ≠ 0 → ∀ cmd ∈ s.display.gpu.link.pending.head?,
      (s.watched.screen.late cmd).surfaces 1 = s.watched.screen.surfaces 1 ∧
        (s.watched.screen.late cmd).scanouts 0 = s.watched.screen.scanouts 0

/-- Behind the promises: the resource is live, and every mode on offer is one of
the table. -/
structure Sound (s : ModeRun) : Prop where
  resource : s.watched.Sound
  offered : ∀ mode ∈ s.fb.displayModes, (getInformationForDisplayMode mode).isSome = true
  reported : s.modeOk = true →
    getInformationForDisplayMode s.fb.currentMode = some (s.fb.width, s.fb.height)
  kept : s.modeKept = true

theorem Sound.agrees {s : ModeRun} (h : s.Sound) : s.Agrees where
  backed hid := by
    obtain ⟨b, hlive⟩ := h.resource hid
    exact ⟨b, hlive.fbBacking, hlive.fits, hlive.surface, hlive.shown⟩
  reported := h.reported
  kept := h.kept

theorem sound_init (g : Gpu) (scr : Screen) (gpuDriver : Bool)
    (backing : Option MemoryDescriptor) : (machine g scr gpuDriver backing).init.Sound where
  resource := by
    intro hid
    cases backing <;> exact absurd rfl hid
  offered := by
    cases backing with
    | none => exact fun _ hm => nomatch hm
    | some b =>
        intro mode hm
        obtain ⟨m, hfit, rfl⟩ := List.mem_map.mp hm
        have hall : ∀ m ∈ kSupportedModes, (getInformationForDisplayMode m.id).isSome = true := by
          decide
        exact hall m (List.mem_filter.mp hfit).1
  reported := fun h => nomatch h
  kept := rfl

/-! ### One call -/

/-- What a mode call that succeeds has to leave for the promises to hold. -/
theorem sound_afterMode_ok {s : ModeRun} {d : Display} (hs : s.Sound)
    (hres : (s.watched.next d).Sound) (hoffer : d.fb.displayModes = s.fb.displayModes)
    (hrep : getInformationForDisplayMode d.fb.currentMode = some (d.fb.width, d.fb.height)) :
    (s.afterMode (.success, d)).Sound where
  resource := hres
  offered := by
    intro mode hm
    exact hs.offered mode (hoffer ▸ hm)
  reported _ := hrep
  kept := by simp [afterMode, hs.kept]

/-- And one that fails. -/
theorem sound_afterMode_fail {s : ModeRun} {ret : IOReturn} {d : Display} (hs : s.Sound)
    (hret : ret ≠ .success) (hres : (s.watched.next d).Sound)
    (hoffer : d.fb.displayModes = s.fb.displayModes)
    (hkept : d.fb.currentMode = s.fb.currentMode) : (s.afterMode (ret, d)).Sound where
  resource := hres
  offered := by
    intro mode hm
    exact hs.offered mode (hoffer ▸ hm)
  reported h := absurd (of_decide_eq_true h) hret
  kept := by simp [afterMode, hs.kept, hkept]

theorem sound_setDisplayMode {s : ModeRun} (hs : s.Sound) (mode : Nat) (es : Nat → Env)
    (hok : s.CallOk (.setDisplayMode mode es)) :
    (s.afterMode (s.display.setDisplayMode es mode)).Sound := by
  unfold Display.setDisplayMode
  by_cases hmem : mode ∈ s.fb.displayModes
  swap
  · rw [if_pos hmem]
    refine sound_afterMode_fail hs IOReturn.noConfusion ?_ rfl rfl
    exact (Watched.Preserves.refl Watched.Sound s.display).2 _ hs.resource
  rw [if_neg (not_not.mpr hmem)]
  -- the new mode says nothing about the resource
  have hset : Watched.Preserves Watched.Sound s.display (s.display.setCurrentMode mode) :=
    Watched.sound_spares ⟨rfl, rfl, rfl, rfl, rfl, rfl⟩ (.refl 1 s.display.gpu)
  cases hinfo : getInformationForDisplayMode mode with
  | none =>
      have hsome := hs.offered mode hmem
      rw [hinfo] at hsome
      cases hsome
  | some dims =>
      obtain ⟨width, height⟩ := dims
      dsimp only
      by_cases hneeds : s.display.NeedsSetup width height
      swap
      · have hneeds₁ : ¬ (s.display.setCurrentMode mode).NeedsSetup width height := hneeds
        rw [if_neg hneeds₁]
        have hrefresh := Watched.sameModes_refreshDisplay (fun n => es (n + 4))
          (s.display.setCurrentMode mode)
        refine sound_afterMode_ok hs ((hset.trans (Watched.sound_refreshDisplay _ _)).2 _
          hs.resource) hrefresh.displayModes ?_
        rw [hrefresh.currentMode, hrefresh.width, hrefresh.height]
        show getInformationForDisplayMode mode = some (s.fb.width, s.fb.height)
        unfold Display.NeedsSetup at hneeds
        obtain ⟨hw, hh⟩ : width = s.fb.width ∧ height = s.fb.height := by tauto
        rw [hinfo, hw, hh]
      · have hneeds₁ : (s.display.setCurrentMode mode).NeedsSetup width height := hneeds
        rw [if_pos hneeds₁]
        obtain ⟨hconf, hserved⟩ := hok hmem width height hinfo hneeds
        have hsetup := hset.trans (Watched.sound_setupFramebufferResource es
          (s.display.setCurrentMode mode) width height hconf)
        obtain ⟨hdims, -, hmode, hmodes⟩ := Watched.dims_setupFramebufferResource es
          (s.display.setCurrentMode mode) width height
        have hgrant : mode ≠ s.fb.currentMode →
            ((s.display.setCurrentMode mode).setupFramebufferResource es width height).1
              = .success := by
          intro hne
          obtain ⟨hrec, hserve⟩ := hserved hne
          exact (Watched.setup_success_iff_served (d := s.display.setCurrentMode mode) hrec
            (hconf hrec)).mpr hserve
        generalize (s.display.setCurrentMode mode).setupFramebufferResource es width height = r
          at hsetup hdims hmode hmodes hgrant ⊢
        by_cases hret : r.1 = .success
        · rw [if_neg (not_not.mpr hret)]
          obtain ⟨hw, hh⟩ := hdims hret
          have hrefresh := Watched.sameModes_refreshDisplay (fun n => es (n + 4)) r.2
          refine sound_afterMode_ok hs ((hsetup.trans (Watched.sound_refreshDisplay _ _)).2 _
            hs.resource) (hrefresh.displayModes.trans hmodes) ?_
          rw [hrefresh.currentMode, hrefresh.width, hrefresh.height, hmode, hw, hh]
          exact hinfo
        · rw [if_pos hret]
          -- only a call for the mode that was current may fail
          refine sound_afterMode_fail hs hret (hsetup.2 _ hs.resource) hmodes (hmode.trans ?_)
          exact not_not.mp fun hne => hret (hgrant hne)

theorem sound_enableController {s : ModeRun} (hs : s.Sound) (es : ControllerEnv)
    (hok : s.EnableOk es) :
    ({ s with watched := s.watched.next (s.display.enableController es).2 } : ModeRun).Sound := by
  unfold Display.enableController
  split
  · have hskipped : Watched.Preserves Watched.Sound s.display
        { s.display with fb := { s.fb with callCount := s.fb.callCount + 1 } } :=
      Watched.sound_spares ⟨rfl, rfl, rfl, rfl, rfl, rfl⟩ (.refl 1 s.display.gpu)
    exact ⟨hskipped.2 _ hs.resource, hs.offered, hs.reported, hs.kept⟩
  next hskip =>
  have hcount : Watched.Preserves Watched.Sound s.display s.display.countCall :=
    Watched.sound_spares ⟨rfl, rfl, rfl, rfl, rfl, rfl⟩ (.refl 1 s.display.gpu)
  dsimp only
  split
  · exact ⟨hcount.2 _ hs.resource, hs.offered, hs.reported, hs.kept⟩
  next hdriver =>
  rw [Bool.not_eq_false] at hdriver
  have hdriver : s.fb.gpuDriver = true := hdriver
  cases hinfo : getInformationForDisplayMode s.display.countCall.fb.currentMode with
  | none => exact ⟨hcount.2 _ hs.resource, hs.offered, hs.reported, hs.kept⟩
  | some dims =>
      obtain ⟨width, height⟩ := dims
      obtain ⟨hdims, hconf, hserved⟩ :=
        hok (Bool.not_eq_true _ ▸ hskip) hdriver width height hinfo
      have hnative := hcount.trans (Watched.sound_nativeScanout es (d := s.display.countCall)
        hdriver hdims hconf)
      refine ⟨hnative.2 _ hs.resource, ?_, fun hmode => ?_, hs.kept⟩
      · intro mode hm
        refine hs.offered mode ?_
        have hsame := Watched.displayModes_nativeScanout es s.display.countCall width height
        exact hsame ▸ hm
      · have hsame : Watched.SameModes (s.display.countCall.setDims width height).fb
            (s.display.countCall.nativeScanout es width height).fb :=
          Watched.sameModes_nativeScanout es (s := s.watched.next s.display.countCall)
            (hcount.2 _ hs.resource) hdriver hdims (dims_of_supportedMode hinfo) hconf
            (hserved hmode)
        show getInformationForDisplayMode
            (s.display.countCall.nativeScanout es width height).fb.currentMode =
          some ((s.display.countCall.nativeScanout es width height).fb.width,
            (s.display.countCall.nativeScanout es width height).fb.height)
        rw [hsame.currentMode, hsame.width, hsame.height]
        exact hinfo

theorem sound_setup {s : ModeRun} (hs : s.Sound) (width height : Nat) (es : Nat → Env)
    (hok : s.CallOk (.setupFramebufferResource width height es)) :
    ({ s with watched := s.watched.next (s.display.setupFramebufferResource es width height).2 } :
      ModeRun).Sound := by
  have hres := Watched.sound_setupFramebufferResource es s.display width height
    fun hrec => (hok hrec).1
  obtain ⟨hdims, hfail, hmode, hmodes⟩ :=
    Watched.dims_setupFramebufferResource es s.display width height
  refine ⟨hres.2 _ hs.resource, fun mode hm => hs.offered mode (hmodes ▸ hm), fun hmodeOk => ?_,
    hs.kept⟩
  show getInformationForDisplayMode
      (s.display.setupFramebufferResource es width height).2.fb.currentMode =
    some ((s.display.setupFramebufferResource es width height).2.fb.width,
      (s.display.setupFramebufferResource es width height).2.fb.height)
  rw [hmode]
  by_cases hret : (s.display.setupFramebufferResource es width height).1 = .success
  · rcases Display.setupFramebufferResource_cases es s.display width height with
      ⟨-, -, heq⟩ | ⟨hrec, -⟩
    · -- the live resource was left alone
      rw [heq]
      exact hs.reported hmodeOk
    · obtain ⟨hw, hh⟩ := hdims hret
      rw [hw, hh]
      exact (hok hrec).2 hmodeOk ((Watched.setup_success_iff_served hrec (hok hrec).1).mp hret)
  · obtain ⟨hw, hh⟩ := hfail hret
    rw [hw, hh]
    exact hs.reported hmodeOk

theorem sound_teardown {s : ModeRun} (hs : s.Sound) (e : Env) :
    ({ s with watched := s.watched.next (s.display.teardownFramebufferResource e) } :
      ModeRun).Sound := by
  have hres := (Watched.sound_teardownFramebufferResource e s.display).2 _ hs.resource
  have hfb : ∃ id,
      (s.display.teardownFramebufferResource e).fb = { s.fb with fbResourceId := id } := by
    unfold Display.teardownFramebufferResource
    split
    · exact ⟨_, rfl⟩
    · exact ⟨s.fb.fbResourceId, rfl⟩
  obtain ⟨id, hfb⟩ := hfb
  refine ⟨hres, fun mode hm => hs.offered mode ?_, fun hmodeOk => ?_, hs.kept⟩
  · have hm : mode ∈ (s.display.teardownFramebufferResource e).fb.displayModes := hm
    rw [hfb] at hm
    exact hm
  · show getInformationForDisplayMode (s.display.teardownFramebufferResource e).fb.currentMode =
      some ((s.display.teardownFramebufferResource e).fb.width,
        (s.display.teardownFramebufferResource e).fb.height)
    rw [hfb]
    exact hs.reported hmodeOk

theorem sound_hostLate {s : ModeRun} {w : Watched} (hs : s.Sound) (hok : s.CallOk .hostLate)
    (h : s.watched.hostLate = some w) : ({ s with watched := w } : ModeRun).Sound := by
  obtain ⟨cmd, rest, l, hp, rfl⟩ := Watched.hostLate_eq_some h
  refine ⟨fun hid => ?_, hs.offered, hs.reported, hs.kept⟩
  obtain ⟨b, hlive⟩ := hs.resource hid
  obtain ⟨hsurf, hscan⟩ := hok hid cmd (by
    show cmd ∈ s.watched.display.gpu.link.pending.head?
    rw [hp]
    rfl)
  exact ⟨b, { hlive with surface := hsurf.trans hlive.surface, shown := hscan.trans hlive.shown }⟩

/-- **Step lemma.** A call that is `CallOk` keeps the promises and what is behind
them. -/
theorem sound_step {s t : ModeRun} {a : ModeEvent} (hs : s.Sound) (hok : s.CallOk a)
    (h : s.step a = some t) : t.Sound := by
  cases a with
  | enableController es =>
      simp only [step, Option.some.injEq] at h
      exact h ▸ sound_enableController hs es hok
  | setDisplayMode mode es =>
      simp only [step, Option.some.injEq] at h
      exact h ▸ sound_setDisplayMode hs mode es hok
  | setupFramebufferResource width height es =>
      simp only [step, Option.some.injEq] at h
      exact h ▸ sound_setup hs width height es hok
  | teardownFramebufferResource e =>
      simp only [step, Option.some.injEq] at h
      exact h ▸ sound_teardown hs e
  | hostLate =>
      obtain ⟨w, hw, rfl⟩ := Option.map_eq_some_iff.mp h
      exact sound_hostLate hs hok hw

/-! ### Whole runs -/

/-- **Along every run whose calls are all `CallOk` the mode, the dimensions and
the host's resource agree.** -/
theorem always_agrees (g : Gpu) (scr : Screen) (gpuDriver : Bool)
    (backing : Option MemoryDescriptor) (events : List ModeEvent)
    (hok : (machine g scr gpuDriver backing).Along CallOk (machine g scr gpuDriver backing).init
      events) :
    (machine g scr gpuDriver backing).Always Agrees (machine g scr gpuDriver backing).init events :=
  ((machine g scr gpuDriver backing).always_of_along (fun _ _ _ hs hc h => sound_step hs hc h)
    (sound_init g scr gpuDriver backing) hok).imp _ fun _ => Sound.agrees

/-- A buffer of one segment for 4096 by 2160 pixels, as `start` allocates it. -/
def largestBuffer : MemoryDescriptor := ⟨35389440, .success, [⟨0x1000, 35389440⟩]⟩

/-- A mode is set, and the resource torn down again, by a host that accepts it all. -/
theorem mode_set_agrees :
    (machine (.init true 1) .blank true (some largestBuffer)).Always Agrees
      (machine (.init true 1) .blank true (some largestBuffer)).init
      [.setDisplayMode 6 fun _ => .accepting, .teardownFramebufferResource .accepting] := by
  refine always_agrees _ _ _ _ _ ((Machine.along_cons_some _ rfl).mpr ⟨?_, ?_⟩)
  · intro _ width height hinfo _
    obtain ⟨rfl, rfl⟩ : 2560 = width ∧ 1440 = height := by simpa using Option.some.inj hinfo
    exact ⟨fun _ _ => rfl, fun _ => by decide⟩
  · exact (Machine.along_cons_some _ rfl).mpr ⟨trivial, trivial⟩

/-- A host that has no room for a larger resource. -/
def outOfMemory : Env := { Env.accepting with
  ask := fun cmd => match cmd with
    | .resourceCreate2D .. => .reply 0x1201
    | _ => .reply respOkNodata }

/-- The mode call fails, and the mode is reported all the same. -/
theorem failed_mode_reported :
    ¬ (machine (.init true 1) .blank true (some largestBuffer)).Always Agrees
      (machine (.init true 1) .blank true (some largestBuffer)).init
      [.setDisplayMode 6 fun _ => outOfMemory] := by
  intro h
  have hrun : ((machine (.init true 1) .blank true (some largestBuffer)).run
      (machine (.init true 1) .blank true (some largestBuffer)).init
      [.setDisplayMode 6 fun _ => outOfMemory]).any (fun s => !s.modeKept) = true := by
    decide
  obtain ⟨s, hagrees, hp⟩ := h.of_any _ hrun
  rw [hagrees.kept] at hp
  cases hp

end ModeRun
end VMQemuVGA
