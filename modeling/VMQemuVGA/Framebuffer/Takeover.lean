import VMQemuVGA.Lib.Machine
import VMQemuVGA.Framebuffer.State

/-! # Who is on screen

`m_scanout_taken_over_by_3d` pauses the 2D refresh. It is written by
`setscanout` alone, for whatever scanout that names, while `enableScanout` and
`setupScanout` change what is shown without it, and the host takes a resource
off the screen when it is unreferenced. -/

namespace VMQemuVGA

/-! ## Runs -/

/-- What can happen to scanouts and resources, with what is answered meanwhile. -/
inductive TakeoverEvent where
  | setscanout (scanout id width height : Nat) (e : Env)
  | enableScanout (secondary : Option Nat) (scanout width height : Nat) (e : Env)
  | setupScanout (scanout width height : Nat) (e : Env)
  | setupFramebufferResource (width height : Nat) (es : Nat → Env)
  | deallocateResource (id : Nat) (e : Env)
  | hostLate

namespace Watched

def takeoverStep (s : Watched) : TakeoverEvent → Option Watched
  | .setscanout scanout id width height e =>
      some (s.next (s.display.setscanout e scanout id width height).2)
  | .enableScanout secondary scanout width height e =>
      some (s.next (s.display.withGpu
        (s.display.gpu.enableScanout e secondary scanout width height).2))
  | .setupScanout scanout width height e =>
      some (s.next (s.display.withGpu (s.display.gpu.setupScanout e scanout width height).2))
  | .setupFramebufferResource width height es =>
      some (s.next (s.display.setupFramebufferResource es width height).2)
  | .deallocateResource id e =>
      some (s.next (s.display.withGpu (s.display.gpu.deallocateResource e id).2))
  | .hostLate => s.hostLate

/-- A framebuffer that has just been started on a device in any state, with
nothing on screen. -/
def takeoverMachine (g : Gpu) (backing : Option MemoryDescriptor) :
    Machine Watched TakeoverEvent where
  init := ⟨⟨g, .start true backing⟩, .blank⟩
  step := takeoverStep

/-- The flag is up exactly while scanout 0 shows something that is not the
framebuffer's resource 1. -/
def FlagTells (s : Watched) : Prop :=
  s.display.fb.scanoutTakenOverBy3D = true ↔ s.screen.scanouts 0 ≠ 0 ∧ s.screen.scanouts 0 ≠ 1

/-! ## The exact condition -/

/-- The flag and what scanout 0 shows, before a call. -/
abbrev flag (s : Watched) : Bool := s.display.fb.scanoutTakenOverBy3D
abbrev shown (s : Watched) : Nat := s.screen.scanouts 0

/-- A command that is carried out too late leaves the screen in the hands of
those the flag says have it. -/
def LateOk (s : Watched) : HostCmd → Prop
  | .setScanout scanout id _ _ => scanout = 0 → is3DResource id = s.flag
  | .resourceUnref id => s.shown = id → is3DResource id = false
  | _ => True

/-- When a call leaves the flag telling the truth:
* `setscanout` has set the flag for scanout 0, or it already was as for the resource shown
  elsewhere;
* `enableScanout` and `setupScanout` show a resource of the kind the flag says;
* no resource is unreferenced while it has the screen, unless it is the framebuffer's. -/
def CallOk (s : Watched) : TakeoverEvent → Prop
  | .setscanout scanout id width height e =>
      s.display.SetsScanout e scanout id width height → scanout = 0 ∨ is3DResource id = s.flag
  | .enableScanout _ scanout width height e =>
      s.display.gpu.displayResourceId ≠ 0 →
        s.display.SetsScanout e scanout s.display.gpu.displayResourceId width height →
          scanout = 0 → is3DResource s.display.gpu.displayResourceId = s.flag
  | .setupScanout scanout width height e =>
      let g := s.display.gpu.drawResourceId
      let id := g.nextResourceId
      scanout < g.maxScanouts →
        (g.Created2D e id Gpu.formatB8G8R8A8 width height none →
          e.Takes (.setScanout scanout id width height) → scanout = 0 →
            is3DResource id = s.flag) ∧
        (g.TakesBack e id Gpu.formatB8G8R8A8 width height none → s.shown = id →
          is3DResource id = false)
  | .setupFramebufferResource .. => True
  | .deallocateResource id e => e.Takes (.resourceUnref id) → s.shown = id → is3DResource id = false
  | .hostLate => ∀ cmd ∈ s.display.gpu.link.pending.head?, s.LateOk cmd

theorem is3DResource_iff {id : Nat} : is3DResource id = true ↔ id ≠ 0 ∧ id ≠ 1 := by
  simp only [is3DResource, Bool.and_eq_true, decide_eq_true_eq]
  exact and_comm

theorem flagTells_iff {s : Watched} : s.FlagTells ↔ is3DResource s.shown = s.flag := by
  unfold FlagTells
  rw [← is3DResource_iff]
  exact iff_comm.trans Bool.eq_iff_iff.symm

/-! ### The single calls -/

/-- The flag stays, and what was shown may be gone. -/
theorem flagTells_unref_iff {s t : Watched} {c : Prop} [Decidable c] {id : Nat} (hs : s.FlagTells)
    (hflag : t.flag = s.flag) (hshown : t.shown = if c ∧ s.shown = id then 0 else s.shown) :
    t.FlagTells ↔ (c → s.shown = id → is3DResource id = false) := by
  rw [flagTells_iff] at hs ⊢
  rw [hflag, hshown, ← hs]
  by_cases h : c ∧ s.shown = id
  · rw [if_pos h]
    obtain ⟨hc, rfl⟩ := h
    exact ⟨fun h0 _ _ => h0.symm.trans rfl, fun h0 => (h0 hc rfl).symm ▸ rfl⟩
  · rw [if_neg h]
    exact iff_of_true rfl fun hc heq => absurd ⟨hc, heq⟩ h

/-- The flag stays, and scanout 0 may show another resource. -/
theorem flagTells_show_iff {s t : Watched} {c : Prop} [Decidable c] {id : Nat} (hs : s.FlagTells)
    (hflag : t.flag = s.flag) (hshown : t.shown = if c then id else s.shown) :
    t.FlagTells ↔ (c → is3DResource id = s.flag) := by
  rw [flagTells_iff] at hs ⊢
  rw [hflag, hshown]
  by_cases h : c
  · rw [if_pos h]
    exact ⟨fun h0 _ => h0, fun h0 => h0 h⟩
  · rw [if_neg h]
    exact iff_of_true hs fun hc => absurd hc h

theorem flagTells_setscanout_iff {s : Watched} (hdriver : s.display.fb.gpuDriver = true)
    (hs : s.FlagTells) (scanout id width height : Nat) (e : Env) :
    (s.next (s.display.setscanout e scanout id width height).2).FlagTells ↔
      s.CallOk (.setscanout scanout id width height e) := by
  rcases Display.setscanout_cases e s.display scanout id width height hdriver with
    ⟨hsets, l, heq, hran⟩ | ⟨hsets, ret, l, heq, -, hran⟩
  · rw [heq, next_of_ran hran, flagTells_iff]
    rw [flagTells_iff] at hs
    unfold CallOk
    simp only [hsets, true_imp_iff]
    show is3DResource (Function.update s.screen.scanouts scanout id 0) = is3DResource id ↔ _
    by_cases h0 : scanout = 0
    · subst h0
      rw [Function.update_self]
      exact iff_of_true rfl (Or.inl rfl)
    · rw [Function.update_of_ne (Ne.symm h0), hs, or_iff_right h0]
      exact eq_comm
  · rw [heq, next_of_ran hran]
    exact iff_of_true hs fun hc => absurd hc hsets

theorem flagTells_deallocateResource_iff {s : Watched} (hs : s.FlagTells) (id : Nat) (e : Env) :
    (s.next (s.display.withGpu (s.display.gpu.deallocateResource e id).2)).FlagTells ↔
      s.CallOk (.deallocateResource id e) := by
  rw [next_withGpu (Gpu.ran_deallocateResource e s.display.gpu id)]
  exact flagTells_unref_iff hs rfl (Screen.scanouts_run_unref s.screen e id 0)

theorem flagTells_enableScanout_iff {s : Watched} (hs : s.FlagTells) (secondary : Option Nat)
    (scanout width height : Nat) (e : Env) :
    (s.next (s.display.withGpu
      (s.display.gpu.enableScanout e secondary scanout width height).2)).FlagTells ↔
      s.CallOk (.enableScanout secondary scanout width height e) := by
  unfold Gpu.enableScanout CallOk Display.SetsScanout
  by_cases hready : s.display.gpu.ready = true
  swap
  · rw [if_pos (by simpa using hready), next_withGpu (.refl _)]
    exact iff_of_true hs fun _ hc => absurd hc.1 hready
  rw [if_neg (by simp [hready])]
  by_cases hid : s.display.gpu.displayResourceId = 0
  · rw [if_pos hid, next_withGpu (.refl _)]
    exact iff_of_true hs fun hc => absurd hid hc
  rw [if_neg hid]
  dsimp only
  rw [next_withGpu (Gpu.ran_submitCommand e _ _)]
  refine Iff.trans (flagTells_show_iff hs rfl
    (Screen.scanouts_run_setScanout s.screen e scanout _ width height 0)) ?_
  -- on scanout 0 the secondary resource plays no part
  by_cases h0 : scanout = 0
  · subst h0
    simp [hready, hid]
  · exact iff_of_true (fun hc => absurd hc.2.symm h0) fun _ _ hc => absurd hc h0

theorem flagTells_setupScanout_iff {s : Watched} (hs : s.FlagTells) (scanout width height : Nat)
    (e : Env) :
    (s.next (s.display.withGpu
      (s.display.gpu.setupScanout e scanout width height).2)).FlagTells ↔
      s.CallOk (.setupScanout scanout width height e) := by
  unfold Gpu.setupScanout CallOk
  by_cases hmax : scanout < s.display.gpu.maxScanouts
  swap
  · rw [if_pos (Nat.le_of_not_lt hmax), next_withGpu (.refl _)]
    exact iff_of_true hs fun hc => absurd hc hmax
  rw [if_neg (Nat.not_le_of_lt hmax)]
  dsimp only
  have hmax' : scanout < s.display.gpu.drawResourceId.maxScanouts := hmax
  generalize hg : s.display.gpu.drawResourceId = g at hmax' ⊢
  have hdraw : s.display.gpu.Ran g [] := Gpu.ran_of_link_eq (by rw [← hg]; rfl)
  simp only [hmax', true_imp_iff]
  have hcreate := Gpu.createResource2D_fst_eq_success_iff e g g.nextResourceId Gpu.formatB8G8R8A8
    width height none
  have hgrows :=
    Gpu.grows_createResource2D e g g.nextResourceId Gpu.formatB8G8R8A8 width height none
  have hshown := Screen.scanouts_run_createResource2D s.screen e g g.nextResourceId
    Gpu.formatB8G8R8A8 width height none 0
  generalize g.createResource2D e g.nextResourceId Gpu.formatB8G8R8A8 width height none = r
    at hcreate hgrows hshown ⊢
  have hran := hdraw.trans hgrows.ran
  rw [List.nil_append] at hran
  by_cases hok : r.1 = .success
  · have hmade := hcreate.mp hok
    have hback : ¬ g.TakesBack e g.nextResourceId Gpu.formatB8G8R8A8 width height none := by
      intro hc
      rcases hmade with hlands | hun
      · exact hlands.2 hc.2.1
      · exact hun.2.2 (by rw [hc.1.2.1]; rfl)
    rw [if_neg (not_not.mpr hok), next_withGpu
      (hran.trans (Gpu.ran_submitCommand e r.2 _)), Screen.run_append]
    rw [if_neg fun hc => hback hc.1] at hshown
    have hset := Screen.scanouts_run_setScanout (s.screen.run (g.executedSince r.2)) e scanout
      g.nextResourceId width height 0
    rw [hshown] at hset
    refine Iff.trans (flagTells_show_iff hs rfl hset) ?_
    simp only [hmade, hback, true_imp_iff, false_imp_iff, and_true]
    exact ⟨fun h htakes h0 => h ⟨htakes, h0.symm⟩, fun h hc => h hc.1 hc.2.symm⟩
  · have hmade := mt hcreate.mpr hok
    rw [if_pos hok, next_withGpu hran]
    refine Iff.trans (flagTells_unref_iff hs rfl hshown) ?_
    simp only [hmade, false_imp_iff, true_and]

theorem flagTells_hostLate_iff {s t : Watched} (hs : s.FlagTells) (h : s.hostLate = some t) :
    t.FlagTells ↔ s.CallOk .hostLate := by
  obtain ⟨cmd, rest, l, hp, rfl⟩ := hostLate_eq_some h
  unfold CallOk
  simp only [hp, List.head?_cons, Option.mem_some_iff, forall_eq']
  unfold Screen.late
  split
  · -- a create the host has no use for
    refine iff_of_true hs ?_
    unfold LateOk
    split <;> trivial
  · cases cmd with
    | setScanout scanout id width height =>
        have hshown : (s.screen.exec (.setScanout scanout id width height)).scanouts 0 =
            if scanout = 0 then id else s.shown := by
          show Function.update s.screen.scanouts scanout id 0 = _
          rw [Function.update_apply]
          exact if_congr eq_comm rfl rfl
        exact flagTells_show_iff hs rfl hshown
    | resourceUnref id =>
        have hshown : (s.screen.exec (.resourceUnref id)).scanouts 0 =
            if True ∧ s.shown = id then 0 else s.shown := by
          simp [Screen.exec]
        exact Iff.trans (flagTells_unref_iff hs rfl hshown) true_imp_iff
    | _ => exact iff_of_true hs trivial

/-! ### Setting the framebuffer up

Everything in it is about resource 1, and the flag treats that like nothing at
all. So each of its parts leaves the flag telling, whatever is answered. -/

/-- From `d` to `d'` the flag goes on telling, whatever the screen. -/
abbrev KeepsTold : Display → Display → Prop := Preserves FlagTells

/-- The flag is all that counts of the framebuffer. -/
theorem keepsTold_of_flag {d d' : Display} (hgpu : d'.gpu = d.gpu)
    (hflag : d'.fb.scanoutTakenOverBy3D = d.fb.scanoutTakenOverBy3D) : KeepsTold d d' := by
  have hran : d.gpu.Ran d'.gpu [] := Gpu.ran_of_link_eq (by rw [hgpu])
  refine ⟨hran.grows, fun scr h => ?_⟩
  rw [next_of_ran hran]
  unfold FlagTells at h ⊢
  rw [← hflag] at h
  exact h

/-- Resource 1 may go: the screen then shows nothing. -/
theorem keepsTold_of_unref {d d' : Display} {c : Prop} [Decidable c]
    (hgrows : d.gpu.Grows d'.gpu)
    (hflag : d'.fb.scanoutTakenOverBy3D = d.fb.scanoutTakenOverBy3D)
    (hshown : ∀ scr : Screen, (scr.run (d.gpu.executedSince d'.gpu)).scanouts 0 =
      if c ∧ scr.scanouts 0 = 1 then 0 else scr.scanouts 0) : KeepsTold d d' :=
  ⟨hgrows, fun scr h => (flagTells_unref_iff h hflag (hshown scr)).mpr fun _ _ => rfl⟩

theorem keepsTold_teardown (e : Env) {d : Display} (hdriver : d.fb.gpuDriver = true)
    (hid : d.fb.fbResourceId = 0 ∨ d.fb.fbResourceId = 1) :
    KeepsTold d (d.teardownFramebufferResource e) := by
  rcases Display.teardownFramebufferResource_cases e d hdriver with ⟨-, heq⟩ | ⟨hne, heq⟩
  · rw [heq]
    exact Preserves.refl _ d
  · have hran := Gpu.ran_deallocateResource e d.gpu d.fb.fbResourceId
    rw [heq, hid.resolve_left hne]
    rw [hid.resolve_left hne] at hran
    refine keepsTold_of_unref (c := e.Takes (.resourceUnref 1)) hran.grows rfl fun scr => ?_
    show (scr.run (d.gpu.executedSince (d.gpu.deallocateResource e 1).2)).scanouts 0 = _
    rw [hran.executedSince]
    exact Screen.scanouts_run_unref scr e 1 0

theorem keepsTold_createResource2D (e : Env) (d : Display) (format width height : Nat)
    (backing : Option MemoryDescriptor) :
    KeepsTold d (d.withGpu (d.gpu.createResource2D e 1 format width height backing).2) :=
  keepsTold_of_unref (Gpu.grows_createResource2D e d.gpu 1 format width height backing) rfl
    fun scr => Screen.scanouts_run_createResource2D scr e d.gpu 1 format width height backing 0

theorem keepsTold_setscanout (e : Env) {d : Display} (hdriver : d.fb.gpuDriver = true)
    (width height : Nat) : KeepsTold d (d.setscanout e 0 1 width height).2 := by
  refine ⟨?_, fun scr h => ?_⟩
  · rcases Display.setscanout_cases e d 0 1 width height hdriver with
      ⟨-, l, heq, hran⟩ | ⟨-, ret, l, heq, -, hran⟩
    · rw [heq]
      exact hran.grows
    · rw [heq]
      exact hran.grows
  · exact (flagTells_setscanout_iff (s := ⟨d, scr⟩) hdriver h 0 1 width height e).mpr
      fun _ => Or.inl rfl

theorem keepsTold_recreate (es : Nat → Env) {d : Display} (hdriver : d.fb.gpuDriver = true)
    (hid : d.fb.fbResourceId = 0 ∨ d.fb.fbResourceId = 1) (width height : Nat) :
    KeepsTold d (d.recreate es width height).2 := by
  have hdown : KeepsTold d ((d.teardownFramebufferResource (es 0)).setFbResourceId 1) :=
    (keepsTold_teardown (es 0) hdriver hid).trans (keepsTold_of_flag rfl rfl)
  have hdriver₁ : (d.teardownFramebufferResource (es 0)).fb.gpuDriver = true :=
    Display.gpuDriver_teardown (es 0) d ▸ hdriver
  unfold Display.recreate
  dsimp only
  generalize hd₁ : (d.teardownFramebufferResource (es 0)).setFbResourceId 1 = d₁ at hdown ⊢
  have hone₁ : d₁.fb.fbResourceId = 1 := by rw [← hd₁]; rfl
  replace hdriver₁ : d₁.fb.gpuDriver = true := by rw [← hd₁]; exact hdriver₁
  have hcreate := hdown.trans (keepsTold_createResource2D (es 1) d₁ Gpu.formatB8G8R8A8 width height
    d.fb.fbBacking)
  generalize d₁.gpu.createResource2D (es 1) 1 Gpu.formatB8G8R8A8 width height d.fb.fbBacking = r
    at hcreate ⊢
  split
  · exact hcreate.trans (keepsTold_teardown (es 3) hdriver₁ (Or.inr hone₁))
  have hset :=
    hcreate.trans (keepsTold_setscanout (es 2) (d := d₁.withGpu r.2) hdriver₁ width height)
  rcases Display.setscanout_cases (es 2) (d₁.withGpu r.2) 0 1 width height hdriver₁ with
    ⟨-, l, heq, -⟩ | ⟨-, ret, l, heq, hret, -⟩
  · rw [heq] at hset ⊢
    exact hset.trans (keepsTold_of_flag rfl rfl)
  · rw [heq] at hset ⊢
    rw [if_pos hret]
    exact hset.trans (keepsTold_teardown (es 3) hdriver₁ (Or.inr hone₁))

theorem keepsTold_setupFramebufferResource (es : Nat → Env) {d : Display}
    (hdriver : d.fb.gpuDriver = true) (hid : d.fb.fbResourceId = 0 ∨ d.fb.fbResourceId = 1)
    (width height : Nat) : KeepsTold d (d.setupFramebufferResource es width height).2 := by
  rcases Display.setupFramebufferResource_cases es d width height with
    ⟨-, -, heq⟩ | ⟨-, heq⟩
  · rw [heq]
    exact Preserves.refl _ d
  · rw [heq]
    exact keepsTold_recreate es hdriver hid width height

/-! ## Whole runs -/

/-- The framebuffer has its driver, and no resource other than 1. -/
def Own (s : Watched) : Prop :=
  s.display.fb.gpuDriver = true ∧
    (s.display.fb.fbResourceId = 0 ∨ s.display.fb.fbResourceId = 1)

theorem own_setupFramebufferResource (es : Nat → Env) {s : Watched} (width height : Nat)
    (hs : s.Own) : (s.next (s.display.setupFramebufferResource es width height).2).Own := by
  unfold Own next
  rcases Display.setupFramebufferResource_cases es s.display width height with
    ⟨-, -, heq⟩ | ⟨-, heq⟩
  · rw [heq]
    exact hs
  · rw [heq]
    rcases Display.fb_recreate es hs.1 width height with ⟨-, hfb⟩ | ⟨-, hfb⟩
    · rw [hfb]
      exact ⟨hs.1, Or.inl rfl⟩
    · rw [hfb]
      exact ⟨hs.1, Or.inr rfl⟩

theorem own_takeoverStep {s t : Watched} {a : TakeoverEvent} (hs : s.Own)
    (h : s.takeoverStep a = some t) : t.Own := by
  cases a with
  | setscanout scanout id width height e =>
      simp only [takeoverStep, Option.some.injEq] at h
      subst h
      obtain ⟨taken, hfb⟩ := Display.fb_setscanout e s.display scanout id width height
      unfold Own next
      rw [hfb]
      exact hs
  | setupFramebufferResource width height es =>
      simp only [takeoverStep, Option.some.injEq] at h
      subst h
      exact own_setupFramebufferResource es width height hs
  | hostLate =>
      obtain ⟨cmd, rest, l, -, rfl⟩ := hostLate_eq_some h
      exact hs
  | _ =>
      simp only [takeoverStep, Option.some.injEq] at h
      subst h
      exact hs

/-- **Step lemma.** A call leaves the flag telling exactly when it is `CallOk`. -/
theorem flagTells_step_iff {s t : Watched} {a : TakeoverEvent} (hown : s.Own) (hs : s.FlagTells)
    (h : s.takeoverStep a = some t) : t.FlagTells ↔ s.CallOk a := by
  cases a with
  | hostLate => exact flagTells_hostLate_iff hs h
  | setscanout scanout id width height e =>
      simp only [takeoverStep, Option.some.injEq] at h
      exact h ▸ flagTells_setscanout_iff hown.1 hs scanout id width height e
  | enableScanout secondary scanout width height e =>
      simp only [takeoverStep, Option.some.injEq] at h
      exact h ▸ flagTells_enableScanout_iff hs secondary scanout width height e
  | setupScanout scanout width height e =>
      simp only [takeoverStep, Option.some.injEq] at h
      exact h ▸ flagTells_setupScanout_iff hs scanout width height e
  | setupFramebufferResource width height es =>
      simp only [takeoverStep, Option.some.injEq] at h
      subst h
      exact iff_of_true
        ((keepsTold_setupFramebufferResource es hown.1 hown.2 width height).2 s.screen hs) trivial
  | deallocateResource id e =>
      simp only [takeoverStep, Option.some.injEq] at h
      exact h ▸ flagTells_deallocateResource_iff hs id e

/-- **The flag tells who is on screen exactly along the runs whose calls are all
`CallOk`.** -/
theorem always_flagTells_iff (g : Gpu) (backing : Option MemoryDescriptor)
    (events : List TakeoverEvent) :
    (takeoverMachine g backing).Always FlagTells (takeoverMachine g backing).init events ↔
      (takeoverMachine g backing).Along CallOk (takeoverMachine g backing).init events := by
  have hfb : (Framebuffer.start true backing).gpuDriver = true ∧
      (Framebuffer.start true backing).fbResourceId = 0 ∧
      (Framebuffer.start true backing).scanoutTakenOverBy3D = false := by
    cases backing <;> exact ⟨rfl, rfl, rfl⟩
  have hown : (takeoverMachine g backing).init.Own := ⟨hfb.1, Or.inl hfb.2.1⟩
  have htells : (takeoverMachine g backing).init.FlagTells := by
    rw [flagTells_iff]
    exact hfb.2.2.symm
  exact (takeoverMachine g backing).always_iff_along
    (fun s a t hs h => own_takeoverStep hs h) (fun s a t hown hs h => flagTells_step_iff hown hs h)
    hown htells

/-- A second screen with a resource of its own: the refresh of the first stops,
although the desktop is what it shows. -/
theorem second_scanout_stops_refresh :
    ¬ (takeoverMachine (.init true 2) (some ⟨8294400, .success, [⟨0x1000, 8294400⟩]⟩)).Always
      FlagTells
      (takeoverMachine (.init true 2) (some ⟨8294400, .success, [⟨0x1000, 8294400⟩]⟩)).init
      [.setupFramebufferResource 1024 768 fun _ => .accepting,
        .setupScanout 1 640 480 .accepting, .setscanout 1 2 640 480 .accepting] := by
  intro h
  have hrun : ((takeoverMachine (.init true 2)
      (some ⟨8294400, .success, [⟨0x1000, 8294400⟩]⟩)).run
      (takeoverMachine (.init true 2) (some ⟨8294400, .success, [⟨0x1000, 8294400⟩]⟩)).init
      [.setupFramebufferResource 1024 768 fun _ => .accepting,
        .setupScanout 1 640 480 .accepting, .setscanout 1 2 640 480 .accepting]).any
      (fun s => s.flag && decide (s.shown = 1)) = true := by
    decide
  obtain ⟨s, htells, hp⟩ := h.of_any _ hrun
  simp only [Bool.and_eq_true, decide_eq_true_eq] at hp
  exact (htells.mp hp.1).2 hp.2

end Watched
end VMQemuVGA
