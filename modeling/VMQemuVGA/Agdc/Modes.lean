import VMQemuVGA.Agdc.Service

/-! # Calls of the graphics device control service

Which calls come back to a free lock, and what `getDisplayMetrics` has to report after
them. The lock decides about most of it: with valid metrics `getDisplayMetrics` calls
`updateDisplayMetrics`, and with a registered service `enableAGDCService` calls
`unregisterFromGPUWrangler`, and both wait for the lock their caller holds. -/

namespace VMQemuVGA

/-! ## Specification -/

/-- The pixel clock a mode has, in kHz. -/
def pixelClockOf (width height refreshRate : UInt32) : Nat :=
  width.toNat * height.toNat * refreshRate.toNat / 1000

/-- The metrics are those of a mode. -/
structure AGDCDisplayMetrics.Matches (m : AGDCDisplayMetrics)
    (width height refreshRate : UInt32) : Prop where
  width_eq : m.width = width
  height_eq : m.height = height
  refreshRate_eq : m.refreshRate = refreshRate
  pixelClock_eq : pixelClockOf width height refreshRate < u32 →
    m.pixelClock.toNat = pixelClockOf width height refreshRate

/-- The service, and the mode that was set last since it was started. -/
structure AgdcRun where
  agdc : VMVirtIOAGDC
  mode : Option (UInt32 × UInt32 × UInt32)
  deriving DecidableEq, Repr

namespace AgdcRun

def init : AgdcRun := ⟨.init, none⟩

/-- The mode set last, after an operation. -/
def modeAfter (mode : Option (UInt32 × UInt32 × UInt32)) :
    AgdcOp → Option (UInt32 × UInt32 × UInt32)
  | .setDisplayMode width height refreshRate => some (width, height, refreshRate)
  -- a service that starts goes back to the default mode
  | .start superStarts provider =>
      if superStarts = true ∧ provider ≠ .other then none else mode
  | _ => mode

/-- How a call takes and drops the lock. -/
def events (r : AgdcRun) (call : AgdcCall) : LockTrace :=
  match call.op with
  | none => []
  | some op => (r.agdc.perform op).events

def after (r : AgdcRun) (call : AgdcCall) : AgdcRun :=
  match call.op with
  | none => r
  | some op => ⟨(r.agdc.perform op).after, modeAfter r.mode op⟩

/-- Calls in any order, on a service that is not started yet. -/
def machine : Machine (Locked AgdcRun) AgdcCall := Locked.machine events after init

/-- What `getDisplayMetrics` copies out, if anything, is the mode set last. -/
def Reports (r : AgdcRun) : Prop :=
  ∀ m, (r.agdc.getDisplayMetrics true).ret.2 = some m →
    ∀ width height refreshRate, r.mode = some (width, height, refreshRate) →
      m.Matches width height refreshRate

/-- Every call so far has returned and left the lock free, and `getDisplayMetrics` has
the right metrics to report. -/
def Sound (s : Locked AgdcRun) : Prop := s.Free ∧ s.data.Reports

end AgdcRun

namespace VMVirtIOAGDC
variable (s : VMVirtIOAGDC)

/-- The operation does not find the lock taken by itself. -/
def Returns : AgdcOp → Prop
  | .getDisplayMetrics metrics => metrics = true → s.displayMetricsValid = false
  | .enableAGDCService enable => enable = false → s.agdcRegistered = false
  | _ => True

/-- If it sets a mode that can be asked for, the product is not cut off, or the clock
has no room anyway. -/
def Fits : AgdcOp → Prop
  | .setDisplayMode width height refreshRate =>
      s.displayMetricsValid = true →
        width.toNat * height.toNat * refreshRate.toNat < u32 ∨
          u32 ≤ pixelClockOf width height refreshRate
  | _ => True

end VMVirtIOAGDC

/-- A call that comes to nothing, or to an operation that returns and fits. -/
def AgdcRun.Meets (r : AgdcRun) (call : AgdcCall) : Prop :=
  ∀ op ∈ call.op, r.agdc.Returns op ∧ r.agdc.Fits op

/-! ## The lock -/

namespace VMVirtIOAGDC
variable {s : VMVirtIOAGDC}

theorem balanced_start (superStarts : Bool) (provider : AgdcProvider) :
    LockEvent.Balanced (s.start superStarts provider).events := by
  rw [start]
  split_ifs with hsuper hother
  · exact Traced.balanced_plain _ _
  · exact Traced.balanced_plain _ _
  · exact Traced.balanced_andThen (Traced.balanced_locked_plain _ _) (Traced.balanced_plain _ _)

theorem balanced_stop : LockEvent.Balanced s.stop.events := by
  rw [stop]
  split_ifs
  · exact LockEvent.balanced_pair
  · exact Traced.balanced_plain _ _

theorem balanced_getDisplayMetrics_iff (metrics : Bool) :
    LockEvent.Balanced (s.getDisplayMetrics metrics).events ↔
      (metrics = true → s.displayMetricsValid = false) := by
  rw [getDisplayMetrics]
  cases metrics with
  | false => exact iff_of_true (Traced.balanced_plain _ _) nofun
  | true =>
      cases hvalid : s.displayMetricsValid with
      | false => exact iff_of_true (Traced.balanced_locked_plain _ _) fun _ => rfl
      | true =>
          -- `updateDisplayMetrics` takes the lock again
          refine iff_of_false (Traced.not_balanced_locked_locked _ _) fun h => ?_
          cases h rfl

theorem balanced_enableAGDCService_iff (enable : Bool) :
    LockEvent.Balanced (s.enableAGDCService enable).events ↔
      (enable = false → s.agdcRegistered = false) := by
  rw [enableAGDCService]
  cases enable with
  | true =>
      refine iff_of_true ?_ nofun
      cases s.agdcRegistered with
      | false => exact LockEvent.balanced_pair
      | true => exact LockEvent.balanced_pair
  | false =>
      cases hregistered : s.agdcRegistered with
      | false => exact iff_of_true (Traced.balanced_locked_plain _ _) fun _ => rfl
      | true =>
          -- `unregisterFromGPUWrangler` takes the lock again
          refine iff_of_false (Traced.not_balanced_locked_locked _ _) fun h => ?_
          cases h rfl

/-- The other operations take the lock once at most, or one time after the other. -/
theorem balanced_perform_iff (op : AgdcOp) :
    LockEvent.Balanced (s.perform op).events ↔ s.Returns op := by
  cases op with
  | start superStarts provider => exact iff_of_true (balanced_start _ _) trivial
  | stop => exact iff_of_true balanced_stop trivial
  | getDisplayMetrics metrics => exact balanced_getDisplayMetrics_iff metrics
  | setDisplayMode width height refreshRate =>
      exact iff_of_true LockEvent.balanced_pair trivial
  | getServiceInfo info =>
      refine iff_of_true ?_ trivial
      cases info with
      | false => exact LockEvent.balanced_nil
      | true => exact LockEvent.balanced_pair
  | enableAGDCService enable => exact balanced_enableAGDCService_iff enable
  | registerAGDCService serviceType => exact iff_of_true LockEvent.balanced_pair trivial
  | getAGDCCapabilities capabilities =>
      refine iff_of_true ?_ trivial
      cases capabilities with
      | false => exact LockEvent.balanced_nil
      | true => exact LockEvent.balanced_nil
  | getAGDCDeviceInfo vendorId deviceId =>
      refine iff_of_true ?_ trivial
      simp only [perform, getAGDCDeviceInfo, Traced.done_events]
      split_ifs
      · exact LockEvent.balanced_nil
      · exact LockEvent.balanced_nil
  | requestDisplayBounds width height =>
      refine iff_of_true ?_ trivial
      simp only [perform, requestDisplayBounds, Traced.done_events]
      split_ifs
      · exact LockEvent.balanced_nil
      · exact LockEvent.balanced_pair
  | notifyDisplayChange changeType => exact iff_of_true LockEvent.balanced_pair trivial
  | validateDisplayConfiguration width height =>
      refine iff_of_true ?_ trivial
      simp only [perform, validateDisplayConfiguration, Traced.done_events]
      split_ifs
      · exact LockEvent.balanced_nil
      · exact LockEvent.balanced_nil
  | setPowerState powerState superRet => exact iff_of_true LockEvent.balanced_pair trivial
  | getAGDCDebugInfo bufferSize =>
      refine iff_of_true ?_ trivial
      simp only [perform, getAGDCDebugInfo, Traced.done_events]
      cases bufferSize with
      | none => exact LockEvent.balanced_nil
      | some size =>
          dsimp only
          split_ifs
          · exact LockEvent.balanced_nil
          · exact LockEvent.balanced_pair
  | getAGDCInformation infoBuffer bufferSize =>
      refine iff_of_true ?_ trivial
      simp only [perform, getAGDCInformation, Traced.done_events]
      split_ifs
      · exact LockEvent.balanced_nil
      · exact LockEvent.balanced_nil
      · exact LockEvent.balanced_pair
  | acquireMap map =>
      refine iff_of_true ?_ trivial
      cases map with
      | false => exact LockEvent.balanced_nil
      | true => exact LockEvent.balanced_nil
  | releaseMap => exact iff_of_true LockEvent.balanced_nil trivial
  | locateServiceDependencies =>
      refine iff_of_true ?_ trivial
      simp only [perform, locateServiceDependencies, Traced.done_events]
      split_ifs
      · exact LockEvent.balanced_nil
      · exact LockEvent.balanced_nil

/-! ## The metrics -/

/-- Valid metrics as before, but for their flags. -/
structure KeepsMetrics (s t : VMVirtIOAGDC) : Prop where
  valid_eq : t.displayMetricsValid = s.displayMetricsValid
  metrics_eq : t.displayMetrics = { s.displayMetrics with flags := t.displayMetrics.flags }

theorem KeepsMetrics.refl (s : VMVirtIOAGDC) : KeepsMetrics s s := ⟨rfl, rfl⟩

/-- The operations that set a mode. -/
def setsMode : AgdcOp → Bool
  | .setDisplayMode _ _ _ => true
  | .start superStarts provider => superStarts && decide (provider ≠ .other)
  | _ => false

theorem keepsMetrics_perform {op : AgdcOp} (h : setsMode op = false) :
    KeepsMetrics s (s.perform op).after := by
  cases op with
  | start superStarts provider =>
      cases superStarts with
      | false => exact .refl s
      | true =>
          cases provider with
          | other => exact ⟨rfl, rfl⟩
          | framebuffer => cases h
          | gpuDevice => cases h
  | setDisplayMode width height refreshRate => cases h
  | stop =>
      rw [perform, stop]
      split_ifs
      · exact ⟨rfl, rfl⟩
      · exact .refl s
  | getDisplayMetrics metrics =>
      rw [perform, getDisplayMetrics, Traced.done_after]
      split_ifs
      · exact .refl s
      · exact .refl s
      · exact ⟨rfl, rfl⟩
  | getServiceInfo info =>
      cases info with
      | false => exact .refl s
      | true => exact .refl s
  | enableAGDCService enable =>
      rw [perform, enableAGDCService, Traced.done_after]
      split_ifs
      · exact ⟨rfl, rfl⟩
      · exact ⟨rfl, rfl⟩
      · exact .refl s
  | registerAGDCService serviceType => exact ⟨rfl, rfl⟩
  | getAGDCCapabilities capabilities =>
      cases capabilities with
      | false => exact .refl s
      | true => exact .refl s
  | getAGDCDeviceInfo vendorId deviceId =>
      rw [perform, getAGDCDeviceInfo, Traced.done_after]
      split_ifs
      · exact .refl s
      · exact .refl s
  | requestDisplayBounds width height =>
      rw [perform, requestDisplayBounds, Traced.done_after]
      split_ifs
      · exact .refl s
      · exact .refl s
  | notifyDisplayChange changeType => exact ⟨rfl, rfl⟩
  | validateDisplayConfiguration width height =>
      rw [perform, validateDisplayConfiguration, Traced.done_after]
      split_ifs
      · exact .refl s
      · exact .refl s
  | setPowerState powerState superRet => exact ⟨rfl, rfl⟩
  | getAGDCDebugInfo bufferSize =>
      cases bufferSize with
      | none => exact .refl s
      | some size =>
          simp only [perform, getAGDCDebugInfo, Traced.done_after]
          split_ifs
          · exact .refl s
          · exact .refl s
  | getAGDCInformation infoBuffer bufferSize =>
      rw [perform, getAGDCInformation, Traced.done_after]
      split_ifs
      · exact .refl s
      · exact .refl s
      · exact .refl s
  | acquireMap map =>
      cases map with
      | false => exact .refl s
      | true => exact .refl s
  | releaseMap => exact .refl s
  | locateServiceDependencies =>
      rw [perform, locateServiceDependencies, Traced.done_after]
      split_ifs
      · exact .refl s
      · exact .refl s

/-- The product of a mode in 32 bits gives the clock exactly if it fits, or if the clock
does not. -/
theorem setDisplayMode_matches_iff (width height refreshRate : UInt32) :
    (s.setDisplayMode width height refreshRate).after.displayMetrics.Matches
        width height refreshRate ↔
      width.toNat * height.toNat * refreshRate.toNat < u32 ∨
        u32 ≤ pixelClockOf width height refreshRate := by
  have hclock : (width * height * refreshRate / 1000).toNat =
      width.toNat * height.toNat * refreshRate.toNat % u32 / 1000 := by
    rw [UInt32.toNat_div, UInt32.toNat_mul, UInt32.toNat_mul, Nat.mod_mul_mod]
    rfl
  constructor
  · intro h
    rw [or_iff_not_imp_right]
    intro hroom
    have heq := h.pixelClock_eq (Nat.lt_of_not_le hroom)
    dsimp only [setDisplayMode, Traced.locked_after, Traced.plain_after] at heq
    rw [hclock] at heq
    unfold pixelClockOf at heq
    rw [u32_eq] at heq ⊢
    omega
  · intro h
    refine ⟨rfl, rfl, rfl, fun hroom => hclock.trans ?_⟩
    have hsmall := h.resolve_right (Nat.not_le_of_gt hroom)
    rw [Nat.mod_eq_of_lt hsmall]
    rfl

end VMVirtIOAGDC

namespace AgdcRun
open VMVirtIOAGDC
variable {r : AgdcRun}

theorem reports_iff : r.Reports ↔ (r.agdc.displayMetricsValid = true →
    ∀ width height refreshRate, r.mode = some (width, height, refreshRate) →
      r.agdc.displayMetrics.Matches width height refreshRate) := by
  unfold Reports getDisplayMetrics
  cases r.agdc.displayMetricsValid with
  | false => exact iff_of_true nofun nofun
  | true =>
      refine ⟨fun h _ width height refreshRate hmode => ?_,
        fun h m hm width height refreshRate hmode => ?_⟩
      · have hmatches := h _ rfl width height refreshRate hmode
        exact ⟨hmatches.1, hmatches.2, hmatches.3, hmatches.4⟩
      · have hmatches := h rfl width height refreshRate hmode
        cases hm
        exact ⟨hmatches.1, hmatches.2, hmatches.3, hmatches.4⟩

theorem modeAfter_eq {op : AgdcOp} {mode : Option (UInt32 × UInt32 × UInt32)}
    (h : setsMode op = false) : modeAfter mode op = mode := by
  cases op with
  | setDisplayMode width height refreshRate => cases h
  | start superStarts provider =>
      refine if_neg fun hstarts => ?_
      rw [setsMode, hstarts.1, decide_eq_true hstarts.2] at h
      cases h
  | _ => rfl

/-- What is reported stays right as long as no mode is set whose product is cut off. -/
theorem reports_perform_iff {op : AgdcOp} (h : r.Reports) :
    Reports ⟨(r.agdc.perform op).after, modeAfter r.mode op⟩ ↔ r.agdc.Fits op := by
  cases hsets : setsMode op with
  | false =>
      have hfits : r.agdc.Fits op := by
        cases op with
        | setDisplayMode width height refreshRate => cases hsets
        | _ => trivial
      refine iff_of_true (reports_iff.mpr ?_) hfits
      obtain ⟨hvalid, hmetrics⟩ := keepsMetrics_perform (s := r.agdc) hsets
      rw [modeAfter_eq hsets]
      intro hv width height refreshRate hmode
      have hmatches := reports_iff.mp h (hvalid.symm.trans hv) width height refreshRate hmode
      dsimp only
      rw [hmetrics]
      exact ⟨hmatches.1, hmatches.2, hmatches.3, hmatches.4⟩
  | true =>
      cases op with
      | setDisplayMode width height refreshRate =>
          rw [reports_iff]
          refine imp_congr_right fun _ => ?_
          rw [← setDisplayMode_matches_iff (s := r.agdc) width height refreshRate]
          constructor
          · intro hmatches
            exact hmatches width height refreshRate rfl
          · intro hmatches w h' f hmode
            cases hmode
            exact hmatches
      | start superStarts provider =>
          rw [setsMode, Bool.and_eq_true, decide_eq_true_eq] at hsets
          refine iff_of_true (reports_iff.mpr fun _ w h' f hmode => ?_) trivial
          rw [modeAfter, if_pos hsets] at hmode
          cases hmode
      | _ => cases hsets

theorem sound_step_iff {s t : Locked AgdcRun} {call : AgdcCall} (hs : Sound s)
    (h : machine.step s call = some t) : Sound t ↔ s.data.Meets call := by
  rw [Sound, Locked.step_free_and_iff events after hs.1 h, events, after, Meets]
  cases call.op with
  | none => exact iff_of_true ⟨LockEvent.balanced_nil, hs.2⟩ nofun
  | some op =>
      rw [balanced_perform_iff op, reports_perform_iff hs.2]
      refine ⟨fun hmeets o ho => ?_, fun hmeets => hmeets op rfl⟩
      rw [← Option.some.inj ho]
      exact hmeets

/-- **In every run, each call returns with the lock free and `getDisplayMetrics` would
report the mode set last, exactly as long as nobody asks for valid metrics, nobody
disables a registered service, and no mode is set whose clock is cut off.** -/
theorem always_soundAgdc_iff (calls : List AgdcCall) :
    machine.Always Sound machine.init calls ↔
      machine.Along (fun s call => s.data.Meets call) machine.init calls := by
  refine machine.always_iff_along (J := fun _ => True) (fun _ _ _ _ _ => trivial)
    (fun s call t _ hs h => sound_step_iff hs h) trivial ⟨⟨rfl, rfl⟩, ?_⟩
  exact reports_iff.mpr nofun

/-- A started service has valid metrics: the first `getDisplayMetrics` never returns. -/
theorem first_getDisplayMetrics_waits :
    ¬ machine.Always Sound machine.init
      [.service (.start true .framebuffer), .service (.getDisplayMetrics true)] := by
  intro hsound
  obtain ⟨t, ht, hwaiting⟩ := hsound.of_any (p := fun s => s.waiting) _ (by decide)
  rw [ht.1.2] at hwaiting
  cases hwaiting

end AgdcRun
end VMQemuVGA
