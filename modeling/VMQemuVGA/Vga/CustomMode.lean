import Mathlib.Logic.Function.Basic
import VMQemuVGA.Lib.Machine
import VMQemuVGA.Vga.State

/-! # Switching to a custom mode

`CustomMode` stores a size, raises the switch to 1 and waits for the window
server, which sees the custom mode only, sets it, and raises the switch to 2.
Two seconds later `RestoreAllModes` brings the other modes back and lowers the
switch. From then on `setDisplayMode` leaves the hardware alone until a mode of
the custom size is chosen. Callers, window server and the delayed call share
four variables and no lock, so each store of `CustomMode` and each half of
`setDisplayMode` is a step of its own. -/

namespace VMQemuVGA

/-! ## Runs -/

/-- Where a caller of `CustomMode` stands. -/
inductive CustomCaller where
  | out
  | storeWidth (data : CustomModeData) (w h : Nat)
  | storeHeight (data : CustomModeData) (h : Nat)
  | signal (data : CustomModeData)
  | wait (data : CustomModeData)
  | finish (data : CustomModeData)
  deriving DecidableEq, Repr

inductive CustomEvent where
  | customMode (caller : Nat) (args : CustomModeArgs)
  /-- the next step of a caller of `CustomMode` -/
  | resume (caller : Nat)
  | getDisplayModeCount
  | getDisplayModes
  | setDisplayMode (mode depth : Nat)
  /-- the rest of the `setDisplayMode` under way -/
  | storeDisplayMode
  | setCapturedAttribute (value : Nat)
  | restoreAllModes
  deriving DecidableEq, Repr

/-- What the last step returned; `RestoreAllModes` with whether it was due. -/
inductive CustomReturn where
  | setDisplayMode (ret : IOReturn)
  | customMode (ret : IOReturn) (out : Option CustomModeData)
  | restoreAllModes (due : Bool)
  deriving DecidableEq, Repr

structure CustomRun where
  fb : VgaFramebuffer
  caller : Nat → CustomCaller
  /-- the mode of a `setDisplayMode` that has not stored it yet -/
  half : Option Nat
  /-- `RestoreAllModes` is entered to be called -/
  scheduled : Bool
  /-- the window server's count of modes, and the modes it has been told of -/
  count : Nat
  advertised : List Nat
  /-- the last `setDisplayMode` set the hardware, or was asked for the size on the screen, and
  its mode has kept its size since; before any, the screen has the size of the first mode -/
  shown : Bool
  /-- the switch has reached step 2, and `RestoreAllModes` has not run since -/
  due : Bool
  last : Option CustomReturn

namespace CustomRun

/-- The mode that is current, or will be once it is stored. -/
def target (s : CustomRun) : Nat := s.half.getD s.fb.displayMode

/-- A store into `customMode`, which may be the mode on the screen. -/
def storeCustom (s : CustomRun) (fb : VgaFramebuffer) : CustomRun :=
  { s with fb, shown := s.shown && (decide (s.target ≠ customModeId) ||
      decide (fb.customMode.size = s.fb.customMode.size)) }

/-- The next step of the caller `i`. The wait is over where the switch is at 2. -/
def resume (s : CustomRun) (i : Nat) : Option CustomRun :=
  let moved (caller : CustomCaller) : Nat → CustomCaller := Function.update s.caller i caller
  match s.caller i with
  | .out => none
  | .storeWidth data w h =>
      some { s.storeCustom (s.fb.storeCustomWidth w) with caller := moved (.storeHeight data h) }
  | .storeHeight data h =>
      some { s.storeCustom (s.fb.storeCustomHeight h) with caller := moved (.signal data) }
  | .signal data => some { s with fb := s.fb.customSwitchStepSet 1, caller := moved (.wait data) }
  | .wait data =>
      if s.fb.customSwitch ≠ 2 then none
      else some { s with scheduled := true, caller := moved (.finish data) }
  | .finish data =>
      let (ret, out) := s.fb.finishCustomMode data
      some { s with caller := moved .out, last := some (.customMode ret out) }

def enterCustomMode (s : CustomRun) (i : Nat) (args : CustomModeArgs) : Option CustomRun :=
  if s.caller i ≠ .out then none else
  match s.fb.beginCustomMode args with
  | .error ret => some { s with last := some (.customMode ret none) }
  | .ok (data, none) => some { s with caller := Function.update s.caller i (.finish data) }
  | .ok (data, some (w, h)) =>
      some { s with caller := Function.update s.caller i (.storeWidth data w h) }

/-- The window server sets a mode it has been told of, one at a time. -/
def enterDisplayMode (s : CustomRun) (mode depth : Nat) : Option CustomRun :=
  if mode ∉ s.advertised ∨ s.half ≠ none then none else
  let (ret, fb) := s.fb.beginDisplayMode mode depth
  if ret ≠ .success then some { s with last := some (.setDisplayMode ret) }
  else some { s with
    fb, half := some mode,
    shown := !s.fb.customModeSwitched || decide (s.fb.sizeOf mode = some s.fb.svga.size) }

def step (s₀ : CustomRun) (event : CustomEvent) : Option CustomRun :=
  let s := { s₀ with last := none }
  match event with
  | .customMode i args => s.enterCustomMode i args
  | .resume i => s.resume i
  | .getDisplayModeCount => some { s with count := s.fb.getDisplayModeCount }
  | .getDisplayModes =>
      some { s with advertised := s.advertised ++ s.fb.getDisplayModes.take s.count }
  | .setDisplayMode mode depth => s.enterDisplayMode mode depth
  | .storeDisplayMode =>
      s.half.map fun mode =>
        { s with
          fb := s.fb.storeDisplayMode mode, half := none, last := some (.setDisplayMode .success) }
  | .setCapturedAttribute value =>
      let fb := s.fb.setCapturedAttribute value
      some { s with fb, due := s.due || (s.fb.customSwitch ≠ 2 && fb.customSwitch = 2) }
  | .restoreAllModes =>
      if s.scheduled = false then none
      else some { s with
        fb := s.fb.restoreAllModes, scheduled := false, due := false,
        last := some (.restoreAllModes s.due) }

/-- A framebuffer as `start` leaves it, on a device in any mode. -/
def machine (svga : QemuVGADevice) (vramBytes : Nat) (restoreCall : Bool) :
    Machine CustomRun CustomEvent where
  init :=
    let fb := VgaFramebuffer.start svga vramBytes restoreCall
    { fb, caller := fun _ => .out, half := none, scheduled := false, count := 0, advertised := [],
      shown := fb.sizeOf fb.displayMode = some svga.size, due := false, last := none }
  step := step

/-! ## The property -/

/-- The last step was the end of a call that succeeded. -/
def Succeeded (s : CustomRun) : Prop :=
  s.last = some (.setDisplayMode .success) ∨ ∃ out, s.last = some (.customMode .success out)

/-- Outside a switch the mode reported is the one on the screen, `CustomMode`
answers with what is on the screen, and `RestoreAllModes` ends a switch. -/
structure Agrees (s : CustomRun) : Prop where
  reported : s.Succeeded → s.fb.customSwitch = 0 →
    s.fb.sizeOf s.fb.displayMode = some s.fb.svga.size
  answered : ∀ ret out, s.last = some (.customMode ret (some out)) →
    (out.width, out.height) = s.fb.svga.size
  restored : s.last = some (.restoreAllModes true) → s.fb.customSwitch = 0

/-- What a caller of `CustomMode` may do: it answers with a mode that is on the screen, and not
between the halves of a `setDisplayMode` to another size. -/
def ResumeOk (s : CustomRun) : CustomCaller → Prop
  | .finish _ => s.shown = true ∧ ∀ mode ∈ s.half, s.fb.sizeOf mode = s.fb.sizeOf s.fb.displayMode
  | _ => True

/-- What a step may do. `setDisplayMode` returns outside a switch where its mode is on the
screen; `RestoreAllModes` finds a switch that was answered still at 2, and an active mode of
another size. -/
def StepOk (s : CustomRun) : CustomEvent → Prop
  | .resume i => s.ResumeOk (s.caller i)
  | .storeDisplayMode => s.fb.customSwitch = 0 → s.shown = true
  | .restoreAllModes =>
      s.due = true → s.fb.customSwitch = 2 ∧ s.fb.modes.any s.fb.differs = true
  | _ => True

instance (s : CustomRun) : (caller : CustomCaller) → Decidable (s.ResumeOk caller)
  | .finish _ => inferInstanceAs (Decidable (_ ∧ _))
  | .out | .storeWidth .. | .storeHeight .. | .signal _ | .wait _ => isTrue trivial

instance (s : CustomRun) : (event : CustomEvent) → Decidable (s.StepOk event)
  | .resume i => inferInstanceAs (Decidable (s.ResumeOk (s.caller i)))
  | .storeDisplayMode => inferInstanceAs (Decidable (_ → _))
  | .restoreAllModes => inferInstanceAs (Decidable (_ → _))
  | .customMode .. | .getDisplayModeCount | .getDisplayModes | .setDisplayMode ..
  | .setCapturedAttribute _ => isTrue trivial

/-! ## The sizes of the modes -/

end CustomRun

namespace VgaFramebuffer
variable {fb fb' : VgaFramebuffer} {mode : Nat}

@[simp] theorem sizeOf_customModeId : fb.sizeOf customModeId = some fb.customMode.size := by
  unfold sizeOf getDisplayMode
  rw [if_pos rfl]
  rfl

/-- Only the custom mode changes its size. -/
theorem sizeOf_of_ne (fb fb' : VgaFramebuffer) (h : mode ≠ customModeId) :
    fb'.sizeOf mode = fb.sizeOf mode := by
  unfold sizeOf getDisplayMode
  rw [if_neg h, if_neg h]

theorem sizeOf_congr (h : fb'.customMode = fb.customMode) : fb'.sizeOf mode = fb.sizeOf mode := by
  unfold sizeOf getDisplayMode
  rw [h]

/-- The ways the first half of `setDisplayMode` can come out. -/
inductive Begins (fb : VgaFramebuffer) (mode : Nat) : IOReturn × VgaFramebuffer → Prop
  | failed {ret : IOReturn} (hret : ret ≠ .success) : Begins fb mode (ret, fb)
  | matching (hswitched : fb.customModeSwitched = true)
      (hsize : fb.sizeOf mode = some fb.customMode.size) :
      Begins fb mode (.success, { fb with customModeSwitched := false })
  | suppressed (hswitched : fb.customModeSwitched = true) : Begins fb mode (.success, fb)
  | set (hswitched : fb.customModeSwitched = false) {svga : QemuVGADevice}
      (hsize : fb.sizeOf mode = some svga.size) :
      Begins fb mode (.success, { fb with svga })

theorem beginDisplayMode_begins (fb : VgaFramebuffer) (mode depth : Nat) :
    Begins fb mode (fb.beginDisplayMode mode depth) := by
  unfold beginDisplayMode
  split
  · exact .failed (by decide)
  split
  · exact .failed (by decide)
  next dme hdme =>
  have hsize : fb.sizeOf mode = some dme.size := by
    unfold sizeOf
    rw [hdme]
    rfl
  split
  next hswitched =>
    split
    next heq =>
      refine .matching hswitched ?_
      rw [hsize]
      exact congrArg some (Prod.ext heq.1.symm heq.2.symm)
    next => exact .suppressed hswitched
  next hswitched => exact .set (by simpa using hswitched) hsize

/-- What `RestoreAllModes` does at step 2. -/
theorem restoreAllModes_of_any (hswitch : fb.customSwitch = 2)
    (hany : fb.modes.any fb.differs = true) :
    ∃ modes, fb.restoreAllModes =
      { fb with modes, customModeSwitched := true, customSwitch := 0 } := by
  unfold restoreAllModes
  rw [if_neg (not_not.mpr hswitch)]
  split
  next hnone =>
    obtain ⟨m, hm, hdiff⟩ := List.any_eq_true.mp hany
    have hfalse := List.findIdx?_eq_none_iff.mp hnone m hm
    rw [hdiff] at hfalse
    cases hfalse
  next i _ => exact ⟨_, rfl⟩

theorem restoreAllModes_frame (fb : VgaFramebuffer) :
    fb.restoreAllModes.svga = fb.svga ∧ fb.restoreAllModes.customMode = fb.customMode ∧
      fb.restoreAllModes.displayMode = fb.displayMode := by
  unfold restoreAllModes
  split
  · exact ⟨rfl, rfl, rfl⟩
  split
  · exact ⟨rfl, rfl, rfl⟩
  · exact ⟨rfl, rfl, rfl⟩

end VgaFramebuffer

namespace CustomRun

/-! ## What is on the screen -/

/-- The note tells the truth: the mode that is current or about to be is on the screen. -/
def Truthful (s : CustomRun) : Prop :=
  s.shown = true → s.fb.sizeOf s.target = some s.fb.svga.size

variable {s t : CustomRun}

/-- A step that leaves the screen, the custom mode and the target alone. -/
theorem Truthful.congr (hs : s.Truthful) (hsvga : t.fb.svga = s.fb.svga)
    (hcustom : t.fb.customMode = s.fb.customMode) (htarget : t.target = s.target)
    (hshown : t.shown = s.shown) : t.Truthful := by
  intro h
  rw [htarget, VgaFramebuffer.sizeOf_congr hcustom, hsvga]
  exact hs (hshown ▸ h)

theorem truthful_storeCustom {fb : VgaFramebuffer} (hs : s.Truthful) (hsvga : fb.svga = s.fb.svga)
    (hmode : fb.displayMode = s.fb.displayMode) : (s.storeCustom fb).Truthful := by
  intro h
  obtain ⟨hshown, hkept⟩ := Bool.and_eq_true_iff.mp h
  have htarget : (s.storeCustom fb).target = s.target := by
    show s.half.getD fb.displayMode = s.half.getD s.fb.displayMode
    rw [hmode]
  show fb.sizeOf (s.storeCustom fb).target = some fb.svga.size
  rw [htarget, hsvga, ← hs hshown]
  by_cases hcustom : s.target = customModeId
  · rw [hcustom, VgaFramebuffer.sizeOf_customModeId, VgaFramebuffer.sizeOf_customModeId]
    rw [hcustom] at hkept
    exact congrArg some (by simpa using hkept)
  · exact VgaFramebuffer.sizeOf_of_ne s.fb fb hcustom

theorem truthful_resume {i : Nat} (hs : s.Truthful) (h : s.resume i = some t) : t.Truthful := by
  unfold resume at h
  split at h
  · cases h
  next w _ _ =>
    cases h
    have hstored : (s.storeCustom (s.fb.storeCustomWidth w)).Truthful :=
      truthful_storeCustom hs rfl rfl
    exact hstored.congr rfl rfl rfl rfl
  next height _ =>
    cases h
    have hstored : (s.storeCustom (s.fb.storeCustomHeight height)).Truthful :=
      truthful_storeCustom hs rfl rfl
    exact hstored.congr rfl rfl rfl rfl
  · cases h
    exact hs.congr rfl rfl rfl rfl
  · split at h
    · cases h
    · cases h
      exact hs.congr rfl rfl rfl rfl
  · cases h
    exact hs.congr rfl rfl rfl rfl

theorem truthful_enterCustomMode {i : Nat} {args : CustomModeArgs} (hs : s.Truthful)
    (h : s.enterCustomMode i args = some t) : t.Truthful := by
  unfold enterCustomMode at h
  split at h
  · cases h
  split at h
  · cases h
    exact hs.congr rfl rfl rfl rfl
  · cases h
    exact hs.congr rfl rfl rfl rfl
  · cases h
    exact hs.congr rfl rfl rfl rfl

/-- Where the hardware is set the mode is on the screen, and where it is left alone the note says
whether it is. -/
theorem truthful_enterDisplayMode {mode depth : Nat} (hs : s.Truthful)
    (h : s.enterDisplayMode mode depth = some t) : t.Truthful := by
  unfold enterDisplayMode at h
  split at h
  · cases h
  have hbegins := s.fb.beginDisplayMode_begins mode depth
  generalize s.fb.beginDisplayMode mode depth = r at h hbegins
  cases hbegins with
  | failed hret =>
      dsimp only at h
      rw [if_pos hret] at h
      cases h
      exact hs.congr rfl rfl rfl rfl
  | matching hswitched =>
      cases h
      intro hshown
      have hsize : (!s.fb.customModeSwitched ||
        decide (s.fb.sizeOf mode = some s.fb.svga.size)) = true := hshown
      rw [hswitched] at hsize
      exact of_decide_eq_true hsize
  | suppressed hswitched =>
      cases h
      intro hshown
      have hsize : (!s.fb.customModeSwitched ||
        decide (s.fb.sizeOf mode = some s.fb.svga.size)) = true := hshown
      rw [hswitched] at hsize
      exact of_decide_eq_true hsize
  | set _ hsize =>
      cases h
      exact fun _ => hsize

theorem truthful_step {event : CustomEvent} (hs : s.Truthful) (h : s.step event = some t) :
    t.Truthful := by
  have hs₀ : ({ s with last := none } : CustomRun).Truthful := hs.congr rfl rfl rfl rfl
  cases event with
  | customMode i args => exact truthful_enterCustomMode hs₀ h
  | resume i => exact truthful_resume hs₀ h
  | getDisplayModeCount =>
      cases h
      exact hs.congr rfl rfl rfl rfl
  | getDisplayModes =>
      cases h
      exact hs.congr rfl rfl rfl rfl
  | setDisplayMode mode depth => exact truthful_enterDisplayMode hs₀ h
  | storeDisplayMode =>
      obtain ⟨mode, hhalf, rfl⟩ := Option.map_eq_some_iff.mp h
      refine hs.congr rfl rfl ?_ rfl
      have hhalf : s.half = some mode := hhalf
      unfold target
      rw [hhalf]
      rfl
  | setCapturedAttribute value =>
      cases h
      unfold VgaFramebuffer.setCapturedAttribute
      split
      · exact hs.congr rfl rfl rfl rfl
      · exact hs.congr rfl rfl rfl rfl
  | restoreAllModes =>
      unfold step at h
      dsimp only at h
      split at h
      · cases h
      cases h
      obtain ⟨hsvga, hcustom, hmode⟩ := s.fb.restoreAllModes_frame
      refine hs.congr hsvga hcustom ?_ rfl
      show s.half.getD s.fb.restoreAllModes.displayMode = _
      rw [hmode]
      rfl

/-! ## What is returned -/

/-- Where nothing was returned there is nothing to agree on. -/
theorem agrees_of_last (h : t.last = none) : t.Agrees := by
  refine ⟨?_, ?_, ?_⟩
  · rintro (hlast | ⟨out, hlast⟩)
    · rw [h] at hlast
      cases hlast
    · rw [h] at hlast
      cases hlast
  · intro ret out hlast
    rw [h] at hlast
    cases hlast
  · intro hlast
    rw [h] at hlast
    cases hlast

/-- Nor is there where a call has failed. -/
theorem agrees_of_failed {ret : IOReturn} (hret : ret ≠ .success)
    (h : t.last = some (.setDisplayMode ret) ∨ t.last = some (.customMode ret none)) :
    t.Agrees := by
  refine ⟨?_, ?_, ?_⟩
  · rintro (hlast | ⟨out, hlast⟩)
    · rcases h with h | h
      · rw [h] at hlast
        cases hlast
        exact absurd rfl hret
      · rw [h] at hlast
        cases hlast
    · rcases h with h | h
      · rw [h] at hlast
        cases hlast
      · rw [h] at hlast
        cases hlast
        exact absurd rfl hret
  · intro ret out hlast
    rcases h with h | h
    · rw [h] at hlast
      cases hlast
    · rw [h] at hlast
      cases hlast
  · intro hlast
    rcases h with h | h
    · rw [h] at hlast
      cases hlast
    · rw [h] at hlast
      cases hlast

theorem beginCustomMode_ne_success {fb : VgaFramebuffer} {args : CustomModeArgs} {ret : IOReturn}
    (h : fb.beginCustomMode args = .error ret) : ret ≠ .success := by
  unfold VgaFramebuffer.beginCustomMode at h
  rintro rfl
  split at h
  · cases h
  split at h
  · cases h
  split at h
  · cases h
  split at h
  · cases h
  split at h
  · cases h
  split at h
  · cases h
  dsimp only at h
  split at h
  · cases h
  split at h
  · cases h
  · cases h

theorem agrees_enterCustomMode {i : Nat} {args : CustomModeArgs} (hlast : s.last = none)
    (h : s.enterCustomMode i args = some t) : t.Agrees := by
  unfold enterCustomMode at h
  split at h
  · cases h
  split at h
  next ret hret =>
    cases h
    exact agrees_of_failed (beginCustomMode_ne_success hret) (Or.inr rfl)
  next =>
    cases h
    exact agrees_of_last hlast
  next =>
    cases h
    exact agrees_of_last hlast

/-- `CustomMode` answers with the current mode. -/
theorem agrees_finish {data : CustomModeData} {caller : Nat → CustomCaller} (hs : s.Truthful)
    (hok : s.ResumeOk (.finish data)) :
    let r := s.fb.finishCustomMode data
    Agrees { s with caller, last := some (.customMode r.1 r.2) } := by
  -- a mode about to be stored is of the same size
  have hsize : s.fb.sizeOf s.fb.displayMode = some s.fb.svga.size := by
    obtain ⟨hshown, hhalf⟩ := hok
    rw [← hs hshown]
    unfold target
    cases h : s.half with
    | none => rfl
    | some mode => exact (hhalf mode h).symm
  refine ⟨fun _ _ => hsize, ?_, ?_⟩
  · intro ret out hlast
    obtain ⟨-, hout⟩ := CustomReturn.customMode.inj (Option.some.inj hlast)
    unfold VgaFramebuffer.finishCustomMode at hout
    unfold VgaFramebuffer.sizeOf at hsize
    split at hout
    · cases hout
    next dme hdme =>
      cases hout
      rw [hdme] at hsize
      exact Option.some.inj hsize
  · intro hres
    cases hres

theorem agrees_resume {i : Nat} (hs : s.Truthful) (hlast : s.last = none)
    (hok : s.ResumeOk (s.caller i)) (h : s.resume i = some t) : t.Agrees := by
  unfold resume at h
  split at h
  next => cases h
  next =>
    cases h
    exact agrees_of_last hlast
  next =>
    cases h
    exact agrees_of_last hlast
  next =>
    cases h
    exact agrees_of_last hlast
  next =>
    split at h
    · cases h
    · cases h
      exact agrees_of_last hlast
  next data hcaller =>
    cases h
    rw [hcaller] at hok
    exact agrees_finish hs hok

theorem agrees_enterDisplayMode {mode depth : Nat} (hlast : s.last = none)
    (h : s.enterDisplayMode mode depth = some t) : t.Agrees := by
  unfold enterDisplayMode at h
  split at h
  · cases h
  dsimp only at h
  split at h
  next hret =>
    cases h
    exact agrees_of_failed hret (Or.inl rfl)
  next =>
    cases h
    exact agrees_of_last hlast

theorem agrees_storeDisplayMode {mode : Nat} (hs : s.Truthful) (hhalf : s.half = some mode)
    (hok : s.fb.customSwitch = 0 → s.shown = true) :
    Agrees { s with
      fb := s.fb.storeDisplayMode mode, half := none
      last := some (.setDisplayMode .success) } := by
  refine ⟨?_, ?_, ?_⟩
  · intro _ hswitch
    have hsize := hs (hok hswitch)
    unfold target at hsize
    rw [hhalf] at hsize
    exact hsize
  · intro ret out hout
    cases hout
  · intro hres
    cases hres

theorem agrees_restoreAllModes (hok : s.StepOk .restoreAllModes) :
    Agrees { s with
      fb := s.fb.restoreAllModes, scheduled := false, due := false,
      last := some (.restoreAllModes s.due) } := by
  refine ⟨?_, ?_, ?_⟩
  · rintro (hsuc | ⟨out, hsuc⟩)
    · cases hsuc
    · cases hsuc
  · intro ret out hout
    cases hout
  · intro hres
    have hdue : s.due = true := CustomReturn.restoreAllModes.inj (Option.some.inj hres)
    obtain ⟨hswitch, hany⟩ := hok hdue
    obtain ⟨modes, hfb⟩ := VgaFramebuffer.restoreAllModes_of_any hswitch hany
    show s.fb.restoreAllModes.customSwitch = 0
    rw [hfb]

/-! ## The result -/

theorem agrees_step {event : CustomEvent} (hs : s.Truthful) (hok : s.StepOk event)
    (h : s.step event = some t) : t.Agrees := by
  have hs₀ : ({ s with last := none } : CustomRun).Truthful := hs.congr rfl rfl rfl rfl
  cases event with
  | customMode i args => exact agrees_enterCustomMode rfl h
  | resume i => exact agrees_resume hs₀ rfl hok h
  | getDisplayModeCount =>
      cases h
      exact agrees_of_last rfl
  | getDisplayModes =>
      cases h
      exact agrees_of_last rfl
  | setDisplayMode mode depth => exact agrees_enterDisplayMode rfl h
  | storeDisplayMode =>
      obtain ⟨mode, hhalf, rfl⟩ := Option.map_eq_some_iff.mp h
      exact agrees_storeDisplayMode hs₀ hhalf hok
  | setCapturedAttribute value =>
      cases h
      exact agrees_of_last rfl
  | restoreAllModes =>
      unfold step at h
      dsimp only at h
      split at h
      · cases h
      · cases h
        exact agrees_restoreAllModes (s := { s with last := none }) hok

theorem truthful_init (svga : QemuVGADevice) (vramBytes : Nat) (restoreCall : Bool) :
    (machine svga vramBytes restoreCall).init.Truthful :=
  fun hshown => of_decide_eq_true hshown

/-- **Mode reports over whole runs.** -/
theorem agrees_along (svga : QemuVGADevice) (vramBytes : Nat) (restoreCall : Bool)
    (events : List CustomEvent)
    (hok : (machine svga vramBytes restoreCall).Along StepOk
      (machine svga vramBytes restoreCall).init events) :
    (machine svga vramBytes restoreCall).Always Agrees
      (machine svga vramBytes restoreCall).init events := by
  have hinit := truthful_init svga vramBytes restoreCall
  have hrun := (machine svga vramBytes restoreCall).always_of_along
    (I := fun s => s.Truthful ∧ s.Agrees)
    (fun _ _ _ hI hC h => ⟨truthful_step hI.1 h, agrees_step hI.1 hC h⟩)
    ⟨hinit, agrees_of_last rfl⟩ hok
  exact hrun.imp _ fun _ hI => hI.2

/-- One caller switches to a size, and the window server follows. -/
def switchTo (width height : Nat) : List CustomEvent :=
  [.customMode 0 ⟨some ⟨1, width, height⟩, 12, true, some 12⟩, .resume 0, .resume 0, .resume 0,
    .getDisplayModeCount, .getDisplayModes, .setDisplayMode 1 0, .storeDisplayMode,
    .setCapturedAttribute 0, .resume 0, .resume 0]

/-- Between two switches the custom mode is set once more. -/
theorem setBetween_agrees :
    (machine ⟨1024, 768, 32, 2560, 1600⟩ 0x1000000 true).Always Agrees
      (machine ⟨1024, 768, 32, 2560, 1600⟩ 0x1000000 true).init
      (switchTo 1600 1000 ++ [.restoreAllModes, .setDisplayMode 1 0, .storeDisplayMode] ++
        switchTo 1700 1000) :=
  agrees_along _ _ _ _ (by decide)

/-- The second of two switches is answered with its size, and the screen keeps that of the
first. -/
theorem second_switch_not_shown :
    ¬ (machine ⟨1024, 768, 32, 2560, 1600⟩ 0x1000000 true).Always Agrees
      (machine ⟨1024, 768, 32, 2560, 1600⟩ 0x1000000 true).init
      (switchTo 1600 1000 ++ [.restoreAllModes] ++ switchTo 1700 1000) := by
  intro h
  obtain ⟨s, hs, hp⟩ := h.of_any _ (p := fun s : CustomRun =>
    decide (s.last = some (.customMode .success (some ⟨1, 1700, 1000⟩))) &&
      decide (s.fb.svga.size = (1600, 1000))) (by decide)
  simp only [Bool.and_eq_true, decide_eq_true_eq] at hp
  obtain ⟨hlast, hsize⟩ := hp
  have hanswer := hs.answered _ _ hlast
  rw [hsize] at hanswer
  cases hanswer

end CustomRun
end VMQemuVGA
