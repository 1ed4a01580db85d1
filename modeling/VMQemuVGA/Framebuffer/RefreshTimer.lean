import VMQemuVGA.Lib.Machine
import VMQemuVGA.Framebuffer.Controller

/-! # The timer that refreshes the display

Pixels reach the host when a timer transfers them. `start` makes the timer,
`enableController` arms it, every tick arms it again, and `close` destroys it.

When `enableController` is called is `IOFramebuffer`'s decision: in the first `open` of an
object that gets so far (`opened` lets every later one pass, and nothing puts it down), and in
a second `start` of the object. -/

namespace VMQemuVGA

/-! ## The driver stays

Nothing after `start` writes `m_gpu_driver`. -/

namespace Display

theorem gpuDriver_setscanout (e : Env) (d : Display) (scanout id width height : Nat) :
    (d.setscanout e scanout id width height).2.fb.gpuDriver = d.fb.gpuDriver := by
  unfold setscanout
  split
  · rfl
  dsimp only
  split_ifs <;> rfl

theorem gpuDriver_recreate (es : Nat → Env) (d : Display) (width height : Nat) :
    (d.recreate es width height).2.fb.gpuDriver = d.fb.gpuDriver := by
  unfold recreate
  dsimp only
  split
  · rw [gpuDriver_teardown]
    exact gpuDriver_teardown (es 0) d
  split
  · rw [gpuDriver_teardown, gpuDriver_setscanout]
    exact gpuDriver_teardown (es 0) d
  · show (Display.setscanout _ _ _ _ _ _).2.fb.gpuDriver = _
    rw [gpuDriver_setscanout]
    exact gpuDriver_teardown (es 0) d

theorem gpuDriver_setup (es : Nat → Env) (d : Display) (width height : Nat) :
    (d.setupFramebufferResource es width height).2.fb.gpuDriver = d.fb.gpuDriver := by
  unfold setupFramebufferResource
  split
  · rfl
  split
  · rfl
  split
  · rfl
  split_ifs
  · rfl
  · rfl
  · rfl
  · exact gpuDriver_recreate es d width height

theorem gpuDriver_refreshDisplay (es : Nat → Env) (d : Display) :
    (d.refreshDisplay es).fb.gpuDriver = d.fb.gpuDriver := by
  unfold refreshDisplay
  split_ifs
  · rfl
  · rfl
  · rfl
  dsimp only
  split_ifs <;> rfl

theorem gpuDriver_setDisplayMode (es : Nat → Env) (d : Display) (mode : Nat) :
    (d.setDisplayMode es mode).2.fb.gpuDriver = d.fb.gpuDriver := by
  unfold setDisplayMode
  split
  · rfl
  dsimp only
  split
  · rfl
  next width height _ =>
  split
  · have hsetup := gpuDriver_setup es (d.setCurrentMode mode) width height
    split
    · exact hsetup
    · rw [gpuDriver_refreshDisplay]
      exact hsetup
  · exact gpuDriver_refreshDisplay _ _

theorem gpuDriver_probeOnce {flag : Framebuffer → Bool} {raise : Framebuffer → Framebuffer}
    {probe : Display → Display} (hraise : ∀ fb, (raise fb).gpuDriver = fb.gpuDriver)
    (hprobe : ∀ d, (probe d).fb.gpuDriver = d.fb.gpuDriver) (d : Display) :
    (d.probeOnce flag raise probe).fb.gpuDriver = d.fb.gpuDriver := by
  unfold probeOnce
  split
  · rfl
  · rw [hprobe]
    exact hraise d.fb

theorem gpuDriver_probeResourceRecreate (es es' : Nat → Env) (d : Display) :
    (d.probeResourceRecreate es es').fb.gpuDriver = d.fb.gpuDriver := by
  unfold probeResourceRecreate
  split
  · rfl
  · rw [gpuDriver_setup, gpuDriver_setup]

theorem gpuDriver_recreateOnce (es : ControllerEnv) (d : Display) :
    (d.recreateOnce es).fb.gpuDriver = d.fb.gpuDriver := by
  apply gpuDriver_probeOnce
  · exact fun _ => rfl
  · exact gpuDriver_probeResourceRecreate _ _

theorem gpuDriver_cursorOnce (es : ControllerEnv) (d : Display) :
    (d.cursorOnce es).fb.gpuDriver = d.fb.gpuDriver := by
  apply gpuDriver_probeOnce
  · exact fun _ => rfl
  · exact fun _ => rfl

theorem gpuDriver_transport3DOnce (es : ControllerEnv) (d : Display) :
    (d.transport3DOnce es).fb.gpuDriver = d.fb.gpuDriver := by
  apply gpuDriver_probeOnce
  · exact fun _ => rfl
  · exact fun _ => rfl

theorem gpuDriver_beforeSetup (es : ControllerEnv) (d : Display) (width height : Nat) :
    (d.beforeSetup es width height).fb.gpuDriver = d.fb.gpuDriver := by
  refine Eq.trans ?_ (gpuDriver_setscanout (es.stage .negativeControl 0) (d.setDims width height)
    0 999 width height)
  apply gpuDriver_probeOnce
  · exact fun _ => rfl
  · exact fun _ => rfl

theorem gpuDriver_nativeScanout (es : ControllerEnv) (d : Display) (width height : Nat) :
    (d.nativeScanout es width height).fb.gpuDriver = d.fb.gpuDriver := by
  have hsetup := gpuDriver_setup (es.stage .setup) (d.beforeSetup es width height) width height
  rw [gpuDriver_beforeSetup] at hsetup
  unfold nativeScanout
  dsimp only
  split
  · exact hsetup
  · show (((Display.recreateOnce es _).cursorOnce es).transport3DOnce es).fb.gpuDriver = _
    rw [gpuDriver_transport3DOnce, gpuDriver_cursorOnce, gpuDriver_recreateOnce]
    exact hsetup

theorem gpuDriver_enableController (es : ControllerEnv) (d : Display) :
    (d.enableController es).2.fb.gpuDriver = d.fb.gpuDriver := by
  unfold enableController
  split
  · rfl
  dsimp only
  split
  · rfl
  split
  · rfl
  · exact gpuDriver_nativeScanout es d.countCall _ _

end Display

/-! ## Runs -/

/-- What becomes of `IOFramebuffer::start`; `incomplete` is a first start that fails once
`__private` is set. -/
inductive SuperStart where
  | failed
  | incomplete
  | done
  deriving DecidableEq, Repr

/-- What `start` finds, and what it gets for the timer. -/
structure StartEnv where
  super : SuperStart
  /-- the provider is a PCI device or a `VMVirtIOGPU` -/
  provider : Bool
  gpuDriver : Bool
  gpu : Gpu
  pciDevice : Bool
  vramRange : Bool
  workLoop : Bool
  timer : Bool
  /-- `addEventSource` succeeds -/
  added : Bool
  backing : Option MemoryDescriptor

namespace StartEnv

/-- `start` does not come to `m_refresh_timer`. -/
def keepsTimer (e : StartEnv) : Bool := !(e.gpuDriver && e.pciDevice && e.vramRange && e.workLoop)

/-- `m_refresh_timer` after `start`. A timer it makes is not armed yet. -/
def refreshTimer (e : StartEnv) (timer : Option Bool) : Option Bool :=
  if e.keepsTimer = true then timer
  else if e.timer && e.added then some false else none

theorem refreshTimer_eq_armed {e : StartEnv} {timer : Option Bool} :
    e.refreshTimer timer = some true ↔ e.keepsTimer = true ∧ timer = some true := by
  unfold refreshTimer
  split_ifs <;> simp_all

end StartEnv

namespace Framebuffer

/-- A new object, as `init` leaves it. What is static in its functions stays as it is. -/
def anew (fb : Framebuffer) : Framebuffer :=
  { Framebuffer.start false none with
    alreadyEnabled := fb.alreadyEnabled
    callCount := fb.callCount
    resourceTrackingProbed := fb.resourceTrackingProbed
    recreateProbed := fb.recreateProbed
    cursorProbed := fb.cursorProbed
    transport3DProbed := fb.transport3DProbed }

/-- `start` on an object. A buffer that can be had takes the place of the one there is. -/
def setUp (fb : Framebuffer) (gpuDriver : Bool) (backing : Option MemoryDescriptor) : Framebuffer :=
  filterModesByAllocation { fb with
    gpuDriver := gpuDriver
    fbBacking := backing.or fb.fbBacking
    fbDeviceMemory := backing.isSome || fb.fbDeviceMemory }

theorem gpuDriver_setUp (fb : Framebuffer) (gpuDriver : Bool) (backing : Option MemoryDescriptor) :
    (fb.setUp gpuDriver backing).gpuDriver = gpuDriver := by
  unfold setUp filterModesByAllocation
  split <;> rfl

end Framebuffer

/-- A framebuffer with its timer. -/
structure RefreshRun where
  display : Display
  /-- `m_refresh_timer`, and whether it is armed -/
  timer : Option Bool
  /-- armed timers that `m_refresh_timer` has been taken from by another `start` -/
  older : Nat
  /-- `__private` is set: a `start` is a second one -/
  hasPrivate : Bool
  started : Bool
  /-- `opened` of `IOFramebuffer`: the controller is enabled -/
  opened : Bool
  /-- there has been no `close` since the last `open` -/
  isOpen : Bool
  /-- there has been a `close` -/
  closed : Bool
  /-- a successful `enableController` has followed the last `open`, or was part of it -/
  enabled : Bool

/-- `otherEnable` is an `enableController` of another framebuffer, `olderTick` the firing of a
timer that `m_refresh_timer` does not point to any more. -/
inductive RefreshEvent where
  | start (e : StartEnv) (es : ControllerEnv)
  | stop (e : Env)
  /-- `ready`: what `IOFramebuffer::open` checks before `enableController` is there -/
  | openDisplay (ready : Bool) (es : ControllerEnv)
  | otherEnable
  | tick (es : Nat → Env)
  | olderTick (es : Nat → Env)
  | setDisplayMode (mode : Nat) (es : Nat → Env)
  | close

namespace RefreshRun

/-- The end of `enableController`, which a skipped call does not come to. -/
def armedBy (s : RefreshRun) : Option Bool :=
  if s.display.skipsEnable = true then s.timer
  else if s.display.fb.gpuDriver = true then s.timer.map fun _ => true
  else s.timer

/-- `IOFramebuffer` calls `enableController`. -/
def enable (s : RefreshRun) (es : ControllerEnv) : RefreshRun :=
  let (ret, display) := s.display.enableController es
  { s with display, timer := s.armedBy
           opened := s.opened || decide (ret = .success), enabled := decide (ret = .success) }

/-- What `start` does after `super::start`. The timer that is replaced stays in the work loop. -/
def setUp (s : RefreshRun) (e : StartEnv) : RefreshRun :=
  { s with display := ⟨e.gpu, s.display.fb.setUp e.gpuDriver e.backing⟩
           timer := e.refreshTimer s.timer
           older := if e.keepsTimer = false ∧ s.timer = some true then s.older + 1 else s.older
           started := true }

/-- What `super::open` returns is not looked at. -/
def step (s : RefreshRun) : RefreshEvent → Option RefreshRun
  | .start e es =>
      if s.started = true then none else
      match e.super with
      | .failed => some s
      | .incomplete => some { s with hasPrivate := true }
      | .done =>
          let s₁ := if s.hasPrivate = true then s.enable es else { s with hasPrivate := true }
          some (if e.provider = true then s₁.setUp e else s₁)
  | .stop e =>
      -- the timer goes on
      if s.started = true then
        some { s with display := s.display.teardownFramebufferResource e, started := false }
      else none
  | .openDisplay ready es =>
      if s.started = true then
        let s₁ := { s with isOpen := true, enabled := false }
        some (if s.opened = true ∨ ready = false then s₁ else s₁.enable es)
      else none
  | .otherEnable =>
      some { s with display := { s.display with fb := { s.display.fb with
        callCount := s.display.fb.callCount + 1, alreadyEnabled := true } } }
  | .tick es =>
      -- only an armed timer fires, and `displayRefreshTimer` arms it again
      if s.timer = some true then some { s with display := s.display.refreshDisplay es } else none
  | .olderTick es =>
      -- `displayRefreshTimer` arms `m_refresh_timer`, whichever timer has fired
      if 0 < s.older then
        some { s with display := s.display.refreshDisplay es
                      timer := s.timer.map fun _ => true, older := s.older - 1 }
      else none
  | .setDisplayMode mode es =>
      if s.hasPrivate = true then
        some { s with display := (s.display.setDisplayMode es mode).2 }
      else none
  | .close =>
      if s.isOpen = true then
        some { s with timer := none, isOpen := false, closed := true, enabled := false }
      else none

/-- Before anything is started; other framebuffers may have been there. -/
def machine (d : Display) : Machine RefreshRun RefreshEvent where
  init := ⟨⟨d.gpu, d.fb.anew⟩, none, 0, false, false, false, false, false, false⟩
  step := step

/-- A display in use has its timer, armed: an open one with a driver, enabled since it was
opened or, where it has been closed and opened again, enabled at all. -/
def Live (s : RefreshRun) : Prop :=
  s.isOpen = true → s.display.fb.gpuDriver = true →
    (s.enabled = true ∨ (s.closed = true ∧ s.opened = true)) → s.timer = some true

/-- There is a timer, and `enableController` arms it, unless it is armed. -/
def CanArm (s : RefreshRun) : Prop :=
  s.timer.isSome = true ∧
    (s.timer = some true ∨ (s.display.skipsEnable = false ∧ s.display.fb.gpuDriver = true))

/-- An `open` that enables the controller finds a timer it can arm, one that does so no more
after a `close` finds it armed, and so does a second `start` of an open framebuffer, which
makes no new timer. -/
def Timed (s : RefreshRun) : RefreshEvent → Prop
  | .openDisplay ready _ => s.display.fb.gpuDriver = true →
      (s.opened = true → s.closed = true → s.timer = some true) ∧
      (s.opened = false → ready = true → s.CanArm)
  | .start e _ => s.isOpen = true → e.super = .done →
      (e.provider = false → s.display.fb.gpuDriver = true → s.CanArm) ∧
      (e.provider = true → e.gpuDriver = true → e.keepsTimer = true ∧ s.CanArm)
  | _ => True

/-- Nothing is open or started that was never set up. -/
structure Known (s : RefreshRun) : Prop where
  isOpen : s.isOpen = true → s.hasPrivate = true
  started : s.started = true → s.hasPrivate = true

variable {s t : RefreshRun}

/-! ### `enableController` -/

theorem armedBy_iff : s.armedBy = some true ↔ s.CanArm := by
  unfold armedBy CanArm
  cases s.timer with
  | none => simp
  | some armed => cases s.display.skipsEnable <;> cases s.display.fb.gpuDriver <;> simp

/-- `enableController` always returns success. -/
theorem enableController_success (es : ControllerEnv) (d : Display) :
    (d.enableController es).1 = .success := by
  unfold Display.enableController
  split
  · rfl
  dsimp only
  split
  · rfl
  split
  · rfl
  · rfl

@[simp] theorem enable_timer (es : ControllerEnv) : (s.enable es).timer = s.armedBy := rfl

@[simp] theorem enable_isOpen (es : ControllerEnv) : (s.enable es).isOpen = s.isOpen := rfl

@[simp] theorem enable_hasPrivate (es : ControllerEnv) :
    (s.enable es).hasPrivate = s.hasPrivate := rfl

@[simp] theorem enable_started (es : ControllerEnv) : (s.enable es).started = s.started := rfl

@[simp] theorem enable_gpuDriver (es : ControllerEnv) :
    (s.enable es).display.fb.gpuDriver = s.display.fb.gpuDriver :=
  Display.gpuDriver_enableController es s.display

@[simp] theorem enable_enabled (es : ControllerEnv) : (s.enable es).enabled = true := by
  show decide ((s.display.enableController es).1 = .success) = true
  rw [enableController_success]
  rfl

/-- An open display whose controller has just been enabled. -/
theorem live_enable_iff {es : ControllerEnv} : (s.enable es).Live ↔
    (s.isOpen = true → s.display.fb.gpuDriver = true → s.CanArm) := by
  unfold Live
  simp [armedBy_iff]

/-- The same after the rest of a second `start`. -/
theorem live_setUp_enable_iff {e : StartEnv} {es : ControllerEnv} :
    ((s.enable es).setUp e).Live ↔
      (s.isOpen = true → e.gpuDriver = true → e.keepsTimer = true ∧ s.CanArm) := by
  unfold Live setUp
  simp [Framebuffer.gpuDriver_setUp, StartEnv.refreshTimer_eq_armed, armedBy_iff]

/-! ### Steps -/

theorem known_step {e : RefreshEvent} (hs : s.Known) (h : s.step e = some t) : t.Known := by
  cases e with
  | start e es =>
      simp only [step] at h
      split at h
      · cases h
      split at h
      · exact Option.some.inj h ▸ hs
      · obtain rfl := Option.some.inj h
        exact ⟨fun _ => rfl, fun _ => rfl⟩
      · obtain rfl := Option.some.inj h
        have hprivate : ∀ s₁ : RefreshRun, s₁.hasPrivate = true →
            Known (if e.provider = true then s₁.setUp e else s₁) := by
          intro s₁ h₁
          split
          · exact ⟨fun _ => h₁, fun _ => h₁⟩
          · exact ⟨fun _ => h₁, fun _ => h₁⟩
        apply hprivate
        split
        · assumption
        · rfl
  | stop e =>
      simp only [step] at h
      split at h
      · obtain rfl := Option.some.inj h
        exact ⟨hs.isOpen, fun hstarted => by cases hstarted⟩
      · cases h
  | openDisplay ready es =>
      simp only [step] at h
      split at h
      · next hstarted =>
        have hprivate : s.hasPrivate = true := hs.started hstarted
        obtain rfl := Option.some.inj h
        split
        · exact ⟨fun _ => hprivate, fun _ => hprivate⟩
        · exact ⟨fun _ => hprivate, fun _ => hprivate⟩
      · cases h
  | otherEnable =>
      obtain rfl := Option.some.inj h
      exact ⟨hs.isOpen, hs.started⟩
  | tick es =>
      simp only [step] at h
      split at h
      · obtain rfl := Option.some.inj h
        exact ⟨hs.isOpen, hs.started⟩
      · cases h
  | olderTick es =>
      simp only [step] at h
      split at h
      · obtain rfl := Option.some.inj h
        exact ⟨hs.isOpen, hs.started⟩
      · cases h
  | setDisplayMode mode es =>
      simp only [step] at h
      split at h
      · obtain rfl := Option.some.inj h
        exact ⟨hs.isOpen, hs.started⟩
      · cases h
  | close =>
      simp only [step] at h
      split at h
      · obtain rfl := Option.some.inj h
        exact ⟨fun hopen => (by cases hopen), hs.started⟩
      · cases h

theorem live_start_iff {e : StartEnv} {es : ControllerEnv} (hk : s.Known) (hs : s.Live)
    (h : s.step (.start e es) = some t) : t.Live ↔ s.Timed (.start e es) := by
  simp only [step] at h
  split at h
  · cases h
  split at h
  · next hsuper =>
    obtain rfl := Option.some.inj h
    exact iff_of_true hs fun _ hdone => by rw [hsuper] at hdone; cases hdone
  · next hsuper =>
    obtain rfl := Option.some.inj h
    exact iff_of_true hs fun _ hdone => by rw [hsuper] at hdone; cases hdone
  next hdone =>
  obtain rfl := Option.some.inj h
  by_cases hprivate : s.hasPrivate = true
  · rw [if_pos hprivate]
    by_cases hprovider : e.provider = true
    · rw [if_pos hprovider, live_setUp_enable_iff]
      simp [Timed, hdone, hprovider]
    · rw [if_neg hprovider, live_enable_iff]
      simp [Timed, hdone, hprovider]
  · -- in a first start nothing is open yet
    have hclosed : s.isOpen ≠ true := fun hopen => hprivate (hk.isOpen hopen)
    refine iff_of_true (fun hopen => absurd ?_ hclosed) fun hopen => absurd hopen hclosed
    rw [if_neg hprivate] at hopen
    split at hopen
    · exact hopen
    · exact hopen

theorem live_open_iff {ready : Bool} {es : ControllerEnv}
    (h : s.step (.openDisplay ready es) = some t) : t.Live ↔ s.Timed (.openDisplay ready es) := by
  simp only [step] at h
  split at h
  swap
  · cases h
  obtain rfl := Option.some.inj h
  by_cases hopened : s.opened = true
  · rw [if_pos (Or.inl hopened)]
    simp [Live, Timed, hopened]
  · cases ready with
    | false =>
        rw [if_pos (Or.inr rfl)]
        simp [Live, Timed, hopened]
    | true =>
        rw [if_neg (by simp [hopened]), live_enable_iff]
        simp [Timed, CanArm, hopened]

/-- **Step lemma.** Only `start` and `open` bring a display into use. -/
theorem live_step_iff {e : RefreshEvent} (hk : s.Known) (hs : s.Live) (h : s.step e = some t) :
    t.Live ↔ s.Timed e := by
  cases e with
  | start e es => exact live_start_iff hk hs h
  | openDisplay ready es => exact live_open_iff h
  | stop e =>
      refine iff_of_true (fun hopen hdriver => ?_) trivial
      simp only [step] at h
      split at h
      · obtain rfl := Option.some.inj h
        dsimp only at hdriver
        rw [Display.gpuDriver_teardown] at hdriver
        exact hs hopen hdriver
      · cases h
  | otherEnable =>
      obtain rfl := Option.some.inj h
      exact iff_of_true hs trivial
  | tick es =>
      refine iff_of_true (fun _ _ _ => ?_) trivial
      simp only [step] at h
      split at h
      · next harmed =>
        obtain rfl := Option.some.inj h
        exact harmed
      · cases h
  | olderTick es =>
      refine iff_of_true (fun hopen hdriver hin => ?_) trivial
      simp only [step] at h
      split at h
      · obtain rfl := Option.some.inj h
        dsimp only at hdriver
        rw [Display.gpuDriver_refreshDisplay] at hdriver
        show s.timer.map _ = _
        rw [hs hopen hdriver hin]
        rfl
      · cases h
  | setDisplayMode mode es =>
      refine iff_of_true (fun hopen hdriver => ?_) trivial
      simp only [step] at h
      split at h
      · obtain rfl := Option.some.inj h
        dsimp only at hdriver
        rw [Display.gpuDriver_setDisplayMode] at hdriver
        exact hs hopen hdriver
      · cases h
  | close =>
      refine iff_of_true (fun hopen => ?_) trivial
      simp only [step] at h
      split at h
      · obtain rfl := Option.some.inj h
        cases hopen
      · cases h

/-- **A display in use has an armed timer exactly as long as no `open` and no second `start`
misses the timer.** -/
theorem always_live_iff (d : Display) (evs : List RefreshEvent) :
    (machine d).Always Live (machine d).init evs ↔ (machine d).Along Timed (machine d).init evs :=
  (machine d).always_iff_along (J := Known) (fun _ _ _ hk h => known_step hk h)
    (fun _ _ _ hk hs h => live_step_iff hk hs h) ⟨fun h => (by cases h), fun h => (by cases h)⟩
    fun hopen => by cases hopen

/-- Everything is there when `start` asks for it. -/
def startAll : StartEnv :=
  ⟨.done, true, true, .init true 1, true, true, true, true, true,
    some ⟨35389440, .success, [⟨0x1000, 35389440⟩]⟩⟩

/-- A device that does what it is asked. -/
def serving : ControllerEnv := ⟨fun _ _ => .accepting, true, true⟩

/-- The display is closed and opened again. -/
def reopened : List RefreshEvent :=
  [.start startAll serving, .openDisplay true serving, .close, .openDisplay true serving]

/-- The display is in use again, and there is no timer. -/
theorem reopened_without_timer :
    ¬ (machine ⟨.init true 1, .start false none⟩).Always Live
      (machine ⟨.init true 1, .start false none⟩).init reopened := by
  intro h
  obtain ⟨t, hlive, ht⟩ := h.of_any (machine ⟨.init true 1, .start false none⟩)
    (p := fun s => s.isOpen && s.display.fb.gpuDriver && s.closed && s.opened && s.timer.isNone)
    (by decide)
  simp only [Bool.and_eq_true, Option.isNone_iff_eq_none] at ht
  obtain ⟨⟨⟨⟨hopen, hdriver⟩, hclosed⟩, hopened⟩, htimer⟩ := ht
  rw [hlive hopen hdriver (Or.inr ⟨hclosed, hopened⟩)] at htimer
  cases htimer

end RefreshRun

end VMQemuVGA
