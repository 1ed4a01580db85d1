import Mathlib.Logic.Function.Basic
import VMQemuVGA.Lib.Machine
import VMQemuVGA.Accelerator.State

/-! # Clients of the accelerator

Any number of `VMQemuVGA3DUserClient`s and `VMCGLContext`s, each with at most
one context of its own, and the bridges, which call the accelerator with
whatever ids they like. A run interleaves their calls. -/

namespace VMQemuVGA

/-! ## Calls on the accelerator -/

inductive AccelCall where
  | create3DContext
  | destroy3DContext (ctx : Nat)
  | submit3DCommands (ctx : Nat) (commands : Option Nat)
  | beginRenderPass (ctx : Nat)
  | endRenderPass (ctx : Nat)
  | present3DSurface (ctx surface : Nat)
  | create3DSurface (ctx : Nat) (info : SurfaceInfo)
  | destroy3DSurface (ctx surface : Nat)
  | createFramebuffer (ctx width height colorFormat depthFormat : Nat)
  | garbageCollectTextures
  deriving DecidableEq, Repr

namespace Accelerator

/-- Make a call; `e'` answers for the second half of those that have one. -/
def call (e e' : AccelEnv) (s : Accelerator) : AccelCall → IOReturn × Accelerator
  | .create3DContext => s.create3DContext e
  | .destroy3DContext ctx => s.destroy3DContext e ctx
  | .submit3DCommands ctx commands => s.submit3DCommands e ctx commands
  | .beginRenderPass ctx => s.beginRenderPass e ctx
  | .endRenderPass ctx => s.endRenderPass e e' ctx
  | .present3DSurface ctx surface => s.present3DSurface e ctx surface
  | .create3DSurface ctx info => s.create3DSurface e ctx info
  | .destroy3DSurface ctx surface => s.destroy3DSurface ctx surface
  | .createFramebuffer ctx width height colorFormat depthFormat =>
      s.createFramebuffer e e' ctx width height colorFormat depthFormat
  | .garbageCollectTextures => s.garbageCollectTextures e

end Accelerator

/-- The context a call is made for. -/
def AccelCall.context? : AccelCall → Option Nat
  | .create3DContext => none
  | .destroy3DContext ctx => some ctx
  | .submit3DCommands ctx _ => some ctx
  | .beginRenderPass ctx => some ctx
  | .endRenderPass ctx => some ctx
  | .present3DSurface ctx _ => some ctx
  | .create3DSurface ctx _ => some ctx
  | .destroy3DSurface ctx _ => some ctx
  | .createFramebuffer ctx .. => some ctx
  | .garbageCollectTextures => none

/-! ## Clients -/

/-- `VMQemuVGA3DUserClient`. -/
structure UserClient3D where
  hasContext : Bool
  contextId : Nat
  deriving DecidableEq, Repr

/-- A user client without a context. -/
def UserClient3D.idle : UserClient3D := ⟨false, 0⟩

/-- `VMCGLContext`. -/
structure CGLContext where
  contextValid : Bool
  contextId : Nat
  currentSurfaceId : Nat
  deriving DecidableEq, Repr

/-- The accelerator with its clients, and of every `SUBMIT_3D` published on
behalf of a context what `createRenderContext` returned for that context and
the id the command carries. -/
structure AccelRun where
  accel : Accelerator
  user : Nat → UserClient3D
  cgl : Nat → CGLContext
  submitted : List (Nat × Nat)

/-- What can happen: a direct call, a call of a user client, one of a CGL
context, or the host executing a command whose caller timed out. -/
inductive ClientCall where
  | bridge (call : AccelCall)
  | create3DContext (client : Nat)
  | destroy3DContext (client ctx : Nat)
  | create3DSurface (client ctx : Nat) (info : SurfaceInfo)
  | destroy3DSurface (client ctx surface : Nat)
  | submit3DCommands (client ctx : Nat) (commands : Option Nat)
  | present3DSurface (client ctx surface : Nat)
  | clientClose (client : Nat)
  | cglCreateContext (client : Nat)
  | cglDestroyContext (client : Nat)
  | cglSetSurface (client surface : Nat)
  | cglFlushContext (client : Nat)
  | cglSubmitCommands (client : Nat) (commands : Option Nat)
  | cglClientClose (client : Nat)
  | hostLate
  deriving DecidableEq, Repr

namespace AccelRun

def setUser (s : AccelRun) (client : Nat) (u : UserClient3D) : AccelRun :=
  { s with user := Function.update s.user client u }

def setCgl (s : AccelRun) (client : Nat) (c : CGLContext) : AccelRun :=
  { s with cgl := Function.update s.cgl client c }

/-- `m_has_context && context_id == m_context_id`. -/
def owns (s : AccelRun) (client ctx : Nat) : Bool :=
  (s.user client).hasContext && decide (ctx = (s.user client).contextId)

/-- The call on the accelerator a client's call comes to, if it gets there. -/
def issues (s : AccelRun) : ClientCall → Option AccelCall
  | .bridge call => some call
  | .create3DContext client =>
      if (s.user client).hasContext = true then none else some .create3DContext
  | .destroy3DContext client ctx =>
      if s.owns client ctx = true then some (.destroy3DContext ctx) else none
  | .create3DSurface client ctx info =>
      if s.owns client ctx = true then some (.create3DSurface ctx info) else none
  -- the selector answers without a call
  | .destroy3DSurface _ _ _ => none
  | .submit3DCommands client ctx commands =>
      if s.owns client ctx = true then some (.submit3DCommands ctx commands) else none
  | .present3DSurface client ctx surface =>
      if s.owns client ctx = true then some (.present3DSurface ctx surface) else none
  | .clientClose client =>
      if (s.user client).hasContext = true then
        some (.destroy3DContext (s.user client).contextId)
      else none
  | .cglCreateContext client =>
      if (s.cgl client).contextValid = true then none else some .create3DContext
  | .cglDestroyContext client =>
      if (s.cgl client).contextValid = true then
        some (.destroy3DContext (s.cgl client).contextId)
      else none
  | .cglSetSurface _ _ => none
  | .cglFlushContext client =>
      if (s.cgl client).contextValid = true ∧ (s.cgl client).currentSurfaceId ≠ 0 then
        some (.present3DSurface (s.cgl client).contextId (s.cgl client).currentSurfaceId)
      else none
  | .cglSubmitCommands client commands =>
      if (s.cgl client).contextValid = true ∧ commands.isSome = true then
        some (.submit3DCommands (s.cgl client).contextId commands)
      else none
  | .cglClientClose client =>
      if (s.cgl client).contextValid = true then
        some (.destroy3DContext (s.cgl client).contextId)
      else none
  | .hostLate => none

/-- What a client keeps of the answer `ret` to its call. -/
def note (s : AccelRun) (ret : IOReturn) : ClientCall → AccelRun
  | .create3DContext client =>
      if ret = .success then s.setUser client ⟨true, s.accel.nextContextId⟩ else s
  | .destroy3DContext client _ => if ret = .success then s.setUser client .idle else s
  | .clientClose client => s.setUser client .idle
  | .cglCreateContext client =>
      if ret = .success then
        s.setCgl client ⟨true, s.accel.nextContextId, (s.cgl client).currentSurfaceId⟩
      else s
  | .cglDestroyContext client =>
      if ret = .success then s.setCgl client ⟨false, 0, (s.cgl client).currentSurfaceId⟩ else s
  | .cglClientClose client =>
      if ret = .success then s.setCgl client ⟨false, 0, (s.cgl client).currentSurfaceId⟩ else s
  | _ => s

/-- The context ids of the `SUBMIT_3D`s published between two states. -/
def newSubmits (g g' : Gpu) : List Nat :=
  (g'.link.sent.drop g.link.sent.length).filterMap fun x =>
    match x.1 with
    | .submit3D ctx _ => some ctx
    | _ => none

/-- Write down what a call published on behalf of its context. -/
def logged (s : AccelRun) (call : AccelCall) (t : Accelerator) : List (Nat × Nat) :=
  match call.context?.bind s.accel.findContext with
  | none => s.submitted
  | some c => s.submitted ++ (newSubmits s.accel.gpu t.gpu).map (c.created, ·)

/-- One call on the accelerator. -/
def perform (e e' : AccelEnv) (s : AccelRun) (call : AccelCall) : AccelRun :=
  { s with
    accel := (s.accel.call e e' call).2
    submitted := s.logged call (s.accel.call e e' call).2 }

def step (s : AccelRun) (call : ClientCall) (e e' : AccelEnv) : Option AccelRun :=
  match call with
  | .hostLate =>
      s.accel.gpu.link.execLate.map fun l =>
        { s with accel := s.accel.withGpu { s.accel.gpu with link := l } }
  | .cglSetSurface client surface =>
      if (s.cgl client).contextValid = true then
        some (s.setCgl client { s.cgl client with currentSurfaceId := surface })
      else some s
  | call =>
      match s.issues call with
      | none => some s
      | some c => some ((s.perform e e' c).note (s.accel.call e e' c).1 call)

/-- Nothing has happened yet. -/
def init (supports3D : Bool) (maxScanouts : Nat) : AccelRun where
  accel := .init supports3D maxScanouts
  user := fun _ => .idle
  cgl := fun _ => ⟨false, 0, 0⟩
  submitted := []

/-- All runs, in surroundings whose device and host are as `host` makes them. -/
def machine (host : Env → Env) (supports3D : Bool) (maxScanouts : Nat) :
    Machine AccelRun (ClientCall × AccelEnv × AccelEnv) where
  init := init supports3D maxScanouts
  step := fun s c => s.step c.1 (c.2.1.mapEnv host) (c.2.2.mapEnv host)

/-! ## One step

A step comes to one call on the accelerator, to the host executing a late
command, or to nothing. -/

/-- What of a run the clients' own records have no part in. -/
def SameAccel (s t : AccelRun) : Prop := t.accel = s.accel ∧ t.submitted = s.submitted

theorem sameAccel_note (s : AccelRun) (ret : IOReturn) (call : ClientCall) :
    s.SameAccel (s.note ret call) := by
  unfold note
  split
  · split
    · exact ⟨rfl, rfl⟩
    · exact ⟨rfl, rfl⟩
  · split
    · exact ⟨rfl, rfl⟩
    · exact ⟨rfl, rfl⟩
  · exact ⟨rfl, rfl⟩
  · split
    · exact ⟨rfl, rfl⟩
    · exact ⟨rfl, rfl⟩
  · split
    · exact ⟨rfl, rfl⟩
    · exact ⟨rfl, rfl⟩
  · split
    · exact ⟨rfl, rfl⟩
    · exact ⟨rfl, rfl⟩
  · exact ⟨rfl, rfl⟩

/-- **One step.** -/
theorem step_cases {s t : AccelRun} {call : ClientCall} {e e' : AccelEnv}
    (h : s.step call e e' = some t) :
    (s.issues call = none ∧ s.SameAccel t) ∨
    (∃ c, s.issues call = some c ∧ t.accel = (s.accel.call e e' c).2 ∧
      t.submitted = s.logged c t.accel) ∨
    (s.issues call = none ∧ ∃ l, s.accel.gpu.link.execLate = some l ∧
      t.accel = s.accel.withGpu { s.accel.gpu with link := l } ∧ t.submitted = s.submitted) := by
  unfold step at h
  split at h
  · rw [Option.map_eq_some_iff] at h
    obtain ⟨l, hl, rfl⟩ := h
    exact Or.inr (Or.inr ⟨rfl, l, hl, rfl, rfl⟩)
  · refine Or.inl ⟨rfl, ?_⟩
    split at h
    · cases h
      exact ⟨rfl, rfl⟩
    · cases h
      exact ⟨rfl, rfl⟩
  · split at h
    · next hnone =>
      cases h
      exact Or.inl ⟨hnone, rfl, rfl⟩
    · next c hc =>
      cases h
      obtain ⟨haccel, hsubmitted⟩ :=
        sameAccel_note (s.perform e e' c) (s.accel.call e e' c).1 call
      refine Or.inr (Or.inl ⟨c, hc, haccel, ?_⟩)
      rw [hsubmitted, haccel]
      rfl

end AccelRun
end VMQemuVGA
