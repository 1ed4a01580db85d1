import VMQemuVGA.Lib.Locked
import VMQemuVGA.Accelerator.Clients

/-! # Who takes `m_lock`

Every public operation of the accelerator as far as it takes and drops the lock, and
what it checks meanwhile. Two of them call another one that takes it: `endRenderPass`
without the lock, `enableDepthTest` with it. `createFramebuffer` holds the lock too, and
calls the internal functions, which leave it alone. -/

namespace VMQemuVGA

/-- The public operations that never take the lock, and leave both pools alone. -/
inductive AccelLockFree where
  | newUserClient
  | setPowerState
  | getDrawCallCount
  | getTriangleCount
  | getMemoryUsage
  | supportsShaders
  | supportsHardwareTransform
  | supportsMultisample
  | getMaxTextureSize
  | getMaxRenderTargets
  | getFramebuffer
  | getGPUDevice
  | getShaderManager
  | getTextureManager
  | getCommandPool
  | getPhase3Manager
  | getMetalBridge
  | compileShader
  | destroyShader
  | createShaderProgram
  | useShaderProgram
  | setShaderUniform
  | createTexture
  | unbindTexture
  | getTextureMemoryUsage
  | returnCommandBuffer
  | getCommandPoolStatistics
  | drawPrimitives
  | getPerformanceStats
  | supportsAcceleration
  | logAcceleratorState
  | performBlit
  | performFill
  | synchronize
  | getCurrentTimestamp
  | convertToMicroseconds
  | calculateFPS
  | flushVRAMCache
  | updateFrameStatistics
  | blitSurfaceAccelerated
  | fillSurfaceAccelerated
  | synchronizeAccelerator
  deriving DecidableEq, Repr

/-- `VM3D_FORMAT_A8R8G8B8` and `VM3D_FORMAT_X8R8G8B8`. -/
def formatA8R8G8B8 : Nat := 21
def formatX8R8G8B8 : Nat := 22

/-- The calls with a pointer to check. That of `submit3DCommands` is its buffer. -/
def AccelCall.takesPointer : AccelCall → Bool
  | .create3DContext | .create3DSurface .. | .createFramebuffer .. => true
  | _ => false

namespace Accelerator

/-! ## One call -/

/-- `given` says that the pointer is not null. -/
def visitCreate3DContext (e : AccelEnv) (s : Accelerator) (given : Bool) : Visit IOReturn :=
  let (ret, g) := s.gpu.createRenderContext e.toEnv
  .guarded [(given, .badArgument)]
    [(decide (ret = .success), ret), (e.accelAlloc .context, .noMemory),
      ((s.contexts.add (.fresh (inc32 s.nextContextId) g.nextContextId)
        (s.grownContexts e)).isSome, .noMemory)] .success

def visitCreate3DSurface (e : AccelEnv) (s : Accelerator) (given : Bool) (ctx : Nat)
    (info : SurfaceInfo) : Visit IOReturn :=
  let (ret, g) := s.gpu.allocateResource3D e.toEnv resourceTarget2D info.format info.width
    info.height 1
  let s₁ := (s.withGpu g).drawSurfaceId
  let memory := e.withCapacity (calculateSurfaceSize info)
  .guarded [(given, .badArgument)]
    [((s.findContext ctx).isSome, .notFound), (decide (ret = .success), ret),
      (e.accelAlloc .surface, .noMemory), (memory.isSome, .noMemory),
      ((s₁.enterSurface e ctx ⟨s₁.nextSurfaceId, g.nextResourceId, info, memory, false⟩).isSome,
        .noMemory)] .success

def visitSubmit3DCommands (e : AccelEnv) (s : Accelerator) (ctx : Nat) (commands : Option Nat) :
    Visit IOReturn :=
  .guarded [(commands.isSome, .badArgument)] [((s.findContext ctx).isSome, .notFound)]
    (s.submit3DCommands e ctx commands).1

/-- A display that shows the surface is one more way out. -/
def visitPresent3DSurface (e : AccelEnv) (s : Accelerator) (ctx surface : Nat) :
    Visit IOReturn :=
  .guarded []
    [((s.findContext ctx).isSome, .notFound), ((s.findSurface surface).isSome, .notFound),
      (!(s.gpu.supports3D && (s.findSurface surface).any fun x =>
        decide ((s.presentOnDisplay e x).1 = .success)), .success)] .success

/-- The colour part and the depth part come to a code each. -/
def visitCreateFramebuffer (e e' : AccelEnv) (s : Accelerator) (given : Bool)
    (ctx width height colorFormat depthFormat : Nat) : Visit IOReturn :=
  let (color, s₁) := s.createSurfaceInternal e ctx ⟨colorFormat, width, height, 1⟩
  let depth := if colorFormat = 0 then s.addDepthSurface e' ctx 0 ⟨depthFormat, width, height, 1⟩
    else s₁.addDepthSurface e' ctx s₁.nextSurfaceId ⟨depthFormat, width, height, 1⟩
  .guarded []
    [((s.findContext ctx).isSome, .badArgument), (given, .badArgument),
      (framebufferFits width height, .badArgument),
      (decide (colorFormat = 0 ∨ color = .success), color),
      (decide (depth.1 = .success), depth.1)] .success

/-- The texture manager is there. -/
def visitGarbageCollectTextures : Visit IOReturn := .guarded [] [] .success

/-- `endRenderPass` collects where rendering came to a success, and holds no lock of its
own then. -/
def visitEndRenderPass (e : AccelEnv) (s : Accelerator) (ctx : Nat) : Visit IOReturn :=
  match s.findContext ctx with
  | none => ([], .notFound)
  | some c =>
      let ret := (s.finalizeRendering e ctx c).1
      let result := if ret ≠ .success then e.framebuffer.getD ret else ret
      if result ≠ .success then ([], .success)
      else (visitGarbageCollectTextures.1, .success)

def visitDestroy3DSurface (s : Accelerator) (ctx surface : Nat) : Visit IOReturn :=
  .guarded []
    [((s.findContext ctx).isSome, .badArgument), ((s.findSurface surface).isSome, .badArgument)]
    .success

/-- What a call does with the lock, and what it returns. -/
def visitCall (e e' : AccelEnv) (s : Accelerator) (given : Bool) : AccelCall → Visit IOReturn
  | .create3DContext => s.visitCreate3DContext e given
  | .destroy3DContext ctx => .guarded [] [] (s.destroyContextInternal e ctx).1
  | .submit3DCommands ctx commands => s.visitSubmit3DCommands e ctx commands
  | .beginRenderPass ctx => ([], (s.beginRenderPass e ctx).1)
  | .endRenderPass ctx => s.visitEndRenderPass e ctx
  | .present3DSurface ctx surface => s.visitPresent3DSurface e ctx surface
  | .create3DSurface ctx info => s.visitCreate3DSurface e given ctx info
  | .destroy3DSurface ctx surface => s.visitDestroy3DSurface ctx surface
  | .createFramebuffer ctx width height colorFormat depthFormat =>
      s.visitCreateFramebuffer e e' given ctx width height colorFormat depthFormat
  | .garbageCollectTextures => visitGarbageCollectTextures

/-! ## Render state -/

/-- A command buffer of `size` bytes goes out for a context, if it may and can. -/
def sendCommands (e : AccelEnv) (s : Accelerator) (c : AccelContext) (size : Nat) : Gpu :=
  if s.gpu.supports3D = false ∨ c.gpuContextId = 0 ∨ e.accelAlloc .commandBuffer = false then
    s.gpu
  else (s.gpu.executeCommands e.toEnv c.gpuContextId (some size)).2

/-- What `enableBlending`, `enableDepthTest` and `clearDepthBuffer` do to the device. -/
def sendState (e : AccelEnv) (s : Accelerator) (ctx : Nat) : Accelerator :=
  match s.findContext ctx with
  | none => s
  | some c => s.withGpu (s.sendCommands e c 256)

/-- What `enableDepthTest` takes for a depth buffer. -/
def hasDepthBuffer (s : Accelerator) (c : AccelContext) : Bool :=
  c.boundSurfaceIds.any fun id => (s.findSurface id).any fun x =>
    decide (x.info.format = formatX8R8G8B8 ∨ x.info.format = formatA8R8G8B8)

/-- `enableDepthTest` calls `create3DSurface` itself. `mode` is what the framebuffer says
of its size; `inner` answers for the surface. Whatever the device makes of its commands,
software takes over. -/
def visitEnableDepthTest (e inner : AccelEnv) (s : Accelerator) (ctx : Nat) (enable : Bool)
    (mode : SurfaceInfo) : Visit IOReturn :=
  match s.findContext ctx with
  | none => ([.lock, .unlock], .notFound)
  | some c =>
      if enable = true ∧ s.hasDepthBuffer c = false then
        let created := (s.sendState e ctx).visitCreate3DSurface inner true ctx
          { mode with format := formatA8R8G8B8 }
        (.lock :: created.1 ++ [.unlock], .success)
      else ([.lock, .unlock], .success)

/-- `stop`: both pools are emptied, and every context is taken from the device. -/
def stop (s : Accelerator) (g : Gpu) : Accelerator :=
  { s with
    gpu := g
    contexts := .empty s.contexts.slots.length
    surfaces := .empty s.surfaces.slots.length }

end Accelerator

/-! ## Calls -/

/-- A public operation, with what the surroundings answer. Where that depends on parts of
the driver that are not looked at here, `ret` is the answer, and `gpu` the device that is
left. -/
inductive LockedCall where
  | accelCall (given : Bool) (call : AccelCall) (e e' : AccelEnv)
  | lockFree (op : AccelLockFree) (gpu : Gpu)
  | stop (gpu : Gpu)
  | resetStatistics
  | enableBlending (ctx : Nat) (enable : Bool) (e : AccelEnv)
  | enableDepthTest (ctx : Nat) (enable : Bool) (mode : SurfaceInfo) (e inner : AccelEnv)
  | clearColorBuffer (ctx : Nat) (ret : IOReturn) (gpu : Gpu)
  | clearDepthBuffer (ctx : Nat) (e : AccelEnv)
  | bindTexture (ctx : Nat) (ret : IOReturn)
  | updateTexture (ctx : Nat) (given wrapped : Bool) (ret : IOReturn)

namespace Accelerator

def visit (s : Accelerator) : LockedCall → Visit IOReturn
  | .accelCall given call e e' => s.visitCall e e' given call
  | .lockFree _ _ => ([], .success)
  | .stop _ => .guarded [] [] .success
  | .resetStatistics => .guarded [] [] .success
  | .enableBlending ctx _ _ => .guarded [] [((s.findContext ctx).isSome, .notFound)] .success
  | .enableDepthTest ctx enable mode e inner => s.visitEnableDepthTest e inner ctx enable mode
  | .clearColorBuffer ctx ret _ => .guarded [] [((s.findContext ctx).isSome, .notFound)] ret
  | .clearDepthBuffer ctx _ => .guarded [] [((s.findContext ctx).isSome, .notFound)] .success
  | .bindTexture ctx ret => .guarded [] [((s.findContext ctx).isSome, .badArgument)] ret
  | .updateTexture ctx given wrapped ret =>
      .guarded []
        [((s.findContext ctx).isSome, .badArgument), (given, .badArgument), (wrapped, .noMemory)]
        ret

/-- The accelerator after a call that returns. -/
def after (s : Accelerator) : LockedCall → Accelerator
  | .accelCall given call e e' =>
      if given = false ∧ call.takesPointer = true then s else (s.call e e' call).2
  | .lockFree _ gpu => s.withGpu gpu
  | .stop gpu => s.stop gpu
  | .resetStatistics => s
  | .enableBlending ctx _ e => s.sendState e ctx
  | .enableDepthTest ctx _ _ e _ => s.sendState e ctx
  | .clearColorBuffer ctx _ gpu => if (s.findContext ctx).isSome then s.withGpu gpu else s
  | .clearDepthBuffer ctx e => s.sendState e ctx
  | .bindTexture _ _ => s
  | .updateTexture _ _ _ _ => s

/-- The call takes the lock once: no depth buffer has to be made. -/
def Single (s : Accelerator) : LockedCall → Prop
  | .enableDepthTest ctx enable _ _ _ =>
      enable = true → ∀ c, s.findContext ctx = some c → s.hasDepthBuffer c = true
  | _ => True

/-! ## What calls return -/

variable {e e' inner : AccelEnv} {s : Accelerator} {given : Bool} {ctx : Nat}

/-- The answer of a call with a pointer to check. -/
def answer (given : Bool) (ret : IOReturn) : IOReturn :=
  if given = false then .badArgument else ret

theorem visitCreate3DContext_returns :
    (s.visitCreate3DContext e given).2 = answer given (s.create3DContext e).1 := by
  rw [visitCreate3DContext, create3DContext, answer]
  rcases s.gpu.createRenderContext e.toEnv with ⟨ret, g⟩
  simp only [Visit.guarded_returns, List.cons_append, List.nil_append, Visit.failed_cons_getD,
    Visit.failed_nil_getD]
  cases given with
  | false => rfl
  | true =>
      by_cases hret : ret = .success
      · cases halloc : e.accelAlloc .context with
        | false => simp [hret]
        | true =>
            cases s.contexts.add (.fresh (inc32 s.nextContextId) g.nextContextId)
                (s.grownContexts e) with
            | none => simp [hret]
            | some pool => simp [hret]
      · simp [hret]

theorem visitCreate3DSurface_returns {info : SurfaceInfo} :
    (s.visitCreate3DSurface e given ctx info).2 =
      answer given (s.create3DSurface e ctx info).1 := by
  rw [visitCreate3DSurface, create3DSurface, answer]
  rcases s.gpu.allocateResource3D e.toEnv resourceTarget2D info.format info.width info.height 1
    with ⟨ret, g⟩
  simp only [Visit.guarded_returns, List.cons_append, List.nil_append, Visit.failed_cons_getD,
    Visit.failed_nil_getD]
  cases given with
  | false => rfl
  | true =>
      cases s.findContext ctx with
      | none => rfl
      | some c =>
          by_cases hret : ret = .success
          · rw [backSurface]
            cases e.accelAlloc .surface with
            | false => simp [hret]
            | true =>
                cases e.withCapacity (calculateSurfaceSize info) with
                | none => simp [hret]
                | some d =>
                    cases henter : (s.withGpu g).drawSurfaceId.enterSurface e ctx
                        ⟨(s.withGpu g).drawSurfaceId.nextSurfaceId, g.nextResourceId, info,
                          some d, false⟩ with
                    | none => simp [hret, henter]
                    | some t => simp [hret, henter]
          · simp [hret]

theorem visitSubmit3DCommands_returns {commands : Option Nat} :
    (s.visitSubmit3DCommands e ctx commands).2 = (s.submit3DCommands e ctx commands).1 := by
  simp only [visitSubmit3DCommands, Visit.guarded_returns, List.cons_append, List.nil_append,
    Visit.failed_cons_getD, Visit.failed_nil_getD, submit3DCommands]
  cases commands with
  | none => rfl
  | some size =>
      cases s.findContext ctx with
      | none => rfl
      | some c => rfl

theorem visitPresent3DSurface_returns {surface : Nat} :
    (s.visitPresent3DSurface e ctx surface).2 = (s.present3DSurface e ctx surface).1 := by
  simp only [visitPresent3DSurface, Visit.guarded_returns, List.nil_append,
    Visit.failed_cons_getD, Visit.failed_nil_getD, ite_self, present3DSurface]
  cases s.findContext ctx with
  | none => rfl
  | some c =>
      cases s.findSurface surface with
      | none => rfl
      | some x =>
          -- whatever way it is shown, that is a success
          rw [Option.isSome_some, Option.isSome_some, if_pos rfl, if_pos rfl]
          dsimp only
          split_ifs <;> rfl

theorem visitDestroy3DSurface_returns {surface : Nat} :
    (s.visitDestroy3DSurface ctx surface).2 = (s.destroy3DSurface ctx surface).1 := by
  simp only [visitDestroy3DSurface, Visit.guarded_returns, List.nil_append,
    Visit.failed_cons_getD, Visit.failed_nil_getD, destroy3DSurface]
  cases s.findContext ctx with
  | none => rfl
  | some c =>
      cases s.findSurface surface with
      | none => rfl
      | some x => rfl

theorem visitEndRenderPass_returns :
    (s.visitEndRenderPass e ctx).2 = (s.endRenderPass e e' ctx).1 := by
  rw [visitEndRenderPass, endRenderPass]
  cases s.findContext ctx with
  | none => rfl
  | some c =>
      rcases s.finalizeRendering e ctx c with ⟨ret, t⟩
      dsimp only
      split_ifs <;> rfl

theorem visitCreateFramebuffer_returns {width height colorFormat depthFormat : Nat} :
    (s.visitCreateFramebuffer e e' given ctx width height colorFormat depthFormat).2 =
      answer given (s.createFramebuffer e e' ctx width height colorFormat depthFormat).1 := by
  rw [visitCreateFramebuffer, createFramebuffer, answer]
  rcases s.createSurfaceInternal e ctx ⟨colorFormat, width, height, 1⟩ with ⟨color, t⟩
  simp only [Visit.guarded_returns, List.nil_append, Visit.failed_cons_getD,
    Visit.failed_nil_getD]
  cases s.findContext ctx with
  | none => cases given <;> rfl
  | some c =>
      cases given with
      | false => rfl
      | true =>
          cases framebufferFits width height with
          | false => rfl
          | true =>
              by_cases hformat : colorFormat = 0
              · simp only [hformat]
                rcases s.addDepthSurface e' ctx 0 ⟨depthFormat, width, height, 1⟩ with ⟨ret, u⟩
                by_cases hret : ret = .success <;> simp [hret]
              · by_cases hcolor : color = .success
                · simp only [hformat, hcolor]
                  rcases t.addDepthSurface e' ctx t.nextSurfaceId
                    ⟨depthFormat, width, height, 1⟩ with ⟨ret, u⟩
                  by_cases hret : ret = .success <;> simp [hret]
                · simp [hformat, hcolor]

/-- **The visits are those of the operations:** each returns what its operation returns. -/
theorem visitCall_returns {call : AccelCall} :
    (s.visitCall e e' given call).2 =
      answer (!call.takesPointer || given) (s.call e e' call).1 := by
  cases call with
  | create3DContext => exact visitCreate3DContext_returns
  | destroy3DContext ctx => rfl
  | submit3DCommands ctx commands => exact visitSubmit3DCommands_returns
  | beginRenderPass ctx => rfl
  | endRenderPass ctx => exact visitEndRenderPass_returns
  | present3DSurface ctx surface => exact visitPresent3DSurface_returns
  | create3DSurface ctx info => exact visitCreate3DSurface_returns
  | destroy3DSurface ctx surface => exact visitDestroy3DSurface_returns
  | createFramebuffer ctx width height colorFormat depthFormat =>
      exact visitCreateFramebuffer_returns
  | garbageCollectTextures => rfl

/-! ## What calls do with the lock -/

theorem balanced_visitEndRenderPass : LockEvent.Balanced (s.visitEndRenderPass e ctx).1 := by
  rw [visitEndRenderPass]
  cases s.findContext ctx with
  | none => exact LockEvent.balanced_nil
  | some c =>
      -- `garbageCollectTextures` finds the lock free
      dsimp only
      split_ifs
      · exact LockEvent.balanced_nil
      · exact Visit.balanced_guarded _ _ _
      · exact Visit.balanced_guarded _ _ _

theorem balanced_visitCall (call : AccelCall) :
    LockEvent.Balanced (s.visitCall e e' given call).1 := by
  cases call with
  | beginRenderPass ctx => exact LockEvent.balanced_nil
  | endRenderPass ctx => exact balanced_visitEndRenderPass
  | create3DContext => exact Visit.balanced_guarded _ _ _
  | destroy3DContext ctx => exact Visit.balanced_guarded _ _ _
  | submit3DCommands ctx commands => exact Visit.balanced_guarded _ _ _
  | present3DSurface ctx surface => exact Visit.balanced_guarded _ _ _
  | create3DSurface ctx info => exact Visit.balanced_guarded _ _ _
  | destroy3DSurface ctx surface => exact Visit.balanced_guarded _ _ _
  | createFramebuffer ctx width height colorFormat depthFormat =>
      exact Visit.balanced_guarded _ _ _
  | garbageCollectTextures => exact Visit.balanced_guarded _ _ _

/-- `create3DSurface` takes the lock before it checks anything but the pointer. -/
theorem visitCreate3DSurface_events {info : SurfaceInfo} :
    (s.visitCreate3DSurface e true ctx info).1 = [.lock, .unlock] :=
  (Visit.guarded_events _ _ _).trans (if_pos rfl)

theorem balanced_visitEnableDepthTest_iff {enable : Bool} {mode : SurfaceInfo} :
    LockEvent.Balanced (s.visitEnableDepthTest e inner ctx enable mode).1 ↔
      (enable = true → ∀ c, s.findContext ctx = some c → s.hasDepthBuffer c = true) := by
  rw [visitEnableDepthTest]
  cases s.findContext ctx with
  | none => exact iff_of_true LockEvent.balanced_pair (fun _ c h => nomatch h)
  | some c =>
      dsimp only
      split_ifs with hmade
      · refine iff_of_false ?_ fun h => ?_
        · rw [visitCreate3DSurface_events]
          exact LockEvent.not_balanced_nested
        · have hdepth := h hmade.1 c rfl
          rw [hmade.2] at hdepth
          cases hdepth
      · refine iff_of_true LockEvent.balanced_pair fun henable d hd => ?_
        rw [← Option.some.inj hd]
        exact eq_true_of_ne_false fun hnone => hmade ⟨henable, hnone⟩

/-- From a free lock, the single calls are those that come back to a free lock. -/
theorem balanced_visit_iff (call : LockedCall) :
    LockEvent.Balanced (s.visit call).1 ↔ s.Single call := by
  cases call with
  | accelCall given call e e' => exact iff_of_true (balanced_visitCall call) trivial
  | lockFree op gpu => exact iff_of_true LockEvent.balanced_nil trivial
  | enableDepthTest ctx enable mode e inner => exact balanced_visitEnableDepthTest_iff
  | stop gpu => exact iff_of_true (Visit.balanced_guarded _ _ _) trivial
  | resetStatistics => exact iff_of_true (Visit.balanced_guarded _ _ _) trivial
  | enableBlending ctx enable e => exact iff_of_true (Visit.balanced_guarded _ _ _) trivial
  | clearColorBuffer ctx ret gpu => exact iff_of_true (Visit.balanced_guarded _ _ _) trivial
  | clearDepthBuffer ctx e => exact iff_of_true (Visit.balanced_guarded _ _ _) trivial
  | bindTexture ctx ret => exact iff_of_true (Visit.balanced_guarded _ _ _) trivial
  | updateTexture ctx given wrapped ret =>
      exact iff_of_true (Visit.balanced_guarded _ _ _) trivial

/-! ## Runs -/

/-- The accelerator behind its lock. -/
def lockMachine (supports3D : Bool) (maxScanouts : Nat) :
    Machine (Locked Accelerator) LockedCall :=
  Locked.machine (fun s call => (s.visit call).1) after (.init supports3D maxScanouts)

/-- **In every run, each call returns and leaves the lock free exactly as long as no
`enableDepthTest` has to make a depth buffer.** -/
theorem always_released_iff (supports3D : Bool) (maxScanouts : Nat) (calls : List LockedCall) :
    (lockMachine supports3D maxScanouts).Always Locked.Free
        (lockMachine supports3D maxScanouts).init calls ↔
      (lockMachine supports3D maxScanouts).Along (fun s call => s.data.Single call)
        (lockMachine supports3D maxScanouts).init calls := by
  have hsingle : (fun (s : Locked Accelerator) call => LockEvent.Balanced (s.data.visit call).1) =
      fun s call => s.data.Single call :=
    funext fun s => funext fun call => propext (balanced_visit_iff call)
  rw [← hsingle]
  exact Locked.always_iff_balanced _ after _ calls

/-- A new context has no surface that would do: its first `enableDepthTest` never
returns. -/
theorem first_enableDepthTest_waits :
    ¬ (lockMachine true 1).Always Locked.Free (lockMachine true 1).init
      [.accelCall true .create3DContext .accepting .accepting,
        .enableDepthTest 2 true ⟨0, 1024, 768, 0⟩ .accepting .accepting] := by
  intro hfree
  obtain ⟨t, ht, hwaiting⟩ := hfree.of_any (p := fun s => s.waiting) _ (by decide)
  rw [ht.2] at hwaiting
  cases hwaiting

end Accelerator
end VMQemuVGA
