import VMQemuVGA.OpenGL.ThreadProbe

/-! # `probeOpenGLVersionFromContext`

Contexts are created for one version of OpenGL after the other, from the highest down,
until one of them stands the tests of its version. -/

namespace VMQemuVGA
namespace GLProbe

open Session (ask tell forEach wp Keeps)

/-! ## The tests of OpenGL 3 -/

def testContextBasicRendering (d : Devices) (context : Nat) : Probe Verdict := do
  if !d.accelerator then
    return .error kIOReturnNoDevice
  else
    match ← ask (.clearColorBuffer context) with
    | .error ret => return .error ret
    | .ok _ =>
        tell (.enableDepthTest context)
        return .ok ()

/-- What stands after the first `return` is never reached. -/
def queryOpenGL3SpecificFeatures (d : Devices) (context : Nat) : Probe Verdict := do
  if !d.accelerator || !d.gpu then
    return .error kIOReturnNoDevice
  else if ← holds (.supportsFeature feature3D) then
    let blob ← holds (.supportsFeature featureResourceBlob)
    let supportsGL32 ← if blob then holds (.supportsFeature featureContextInit) else pure false
    tell .getShaderManager
    match ← ask (.create3DSurface context ⟨64, 64, .A8R8G8B8, 1⟩) with
    | .error _ => tell (.setSupports false false)
    | .ok surface =>
        tell (.destroy3DSurface context surface)
        tell (.setSupports true supportsGL32)
    return .ok ()
  else
    tell (.setSupports false false)
    return .ok ()

/-- Here the shaders are destroyed in the order in which they were compiled. -/
def testShaderCompilationSupport (d : Devices) (context : Nat) : Probe Verdict := do
  if !d.accelerator then
    return .error kIOReturnNoDevice
  else if !(← holds .getShaderManager) then
    return .error kIOReturnUnsupported
  else
    match ← ask (.compileShader context .vertex) with
    | .error ret => return .error ret
    | .ok vertexShader =>
        match ← ask (.compileShader context .fragment) with
        | .error ret =>
            tell (.destroyShader context vertexShader)
            return .error ret
        | .ok fragmentShader =>
            match ← ask (.createShaderProgram context [vertexShader, fragmentShader]) with
            | .error ret =>
                tell (.destroyShader context vertexShader)
                tell (.destroyShader context fragmentShader)
                return .error ret
            | .ok _ =>
                -- the program is not given back
                tell (.destroyShader context vertexShader)
                tell (.destroyShader context fragmentShader)
                return .ok ()

/-- A framebuffer that could not be created has the id 0. -/
def testMultipleRenderTargets (d : Devices) (context : Nat) : Probe Verdict := do
  if !d.accelerator then
    return .error kIOReturnNoDevice
  else
    match ← ask (.create3DSurface context ⟨256, 256, .A8R8G8B8, 1⟩) with
    | .error ret => return .error ret
    | .ok color =>
        match ← ask (.create3DSurface context ⟨256, 256, .A8R8G8B8, 1⟩) with
        | .error ret =>
            tell (.destroy3DSurface context color)
            return .error ret
        | .ok color2 =>
            let created ← ask (.createFramebuffer context 256 256 .A8R8G8B8 .D24S8)
            if ← holds (.beginRenderPass context (created.toOption.getD 0)) then
              tell (.endRenderPass context)
            -- the framebuffer is not given back
            tell (.destroy3DSurface context color2)
            tell (.destroy3DSurface context color)
            return .ok ()

def testModernTextureSupport (d : Devices) (context : Nat) : Probe Verdict := do
  if !d.accelerator then
    return .error kIOReturnNoDevice
  else
    match ← ask (.createTexture context ⟨.A8R8G8B8, 256, 256, 1, 0x01⟩) with
    | .error ret => return .error ret
    | .ok texture =>
        -- nor is the texture
        tell (.updateTexture context texture [0, 0, 32, 32])
        tell (.bindTexture context 0 texture)
        return .ok ()

def testContextOpenGL3Features (d : Devices) (context : Nat) : Probe Verdict := do
  match ← queryOpenGL3SpecificFeatures d context with
  | .error ret => return .error ret
  | .ok () =>
      match ← ask (.create3DSurface context (colorSurface 256 256)) with
      | .error ret => return .error ret
      | .ok surface =>
          match ← testShaderCompilationSupport d context with
          | .error ret =>
              tell (.destroy3DSurface context surface)
              return .error ret
          | .ok () =>
              let _ ← testMultipleRenderTargets d context
              let _ ← testModernTextureSupport d context
              tell (.destroy3DSurface context surface)
              return .ok ()

def testContextOpenGL32Features (d : Devices) (context : Nat) : Probe Verdict := do
  match ← testContextOpenGL3Features d context with
  | .error ret => return .error ret
  | .ok () => return .ok ()

/-! ## The tests of OpenGL 4 -/

def testTessellationSupport (d : Devices) (context : Nat) : Probe Verdict := do
  if !d.accelerator then
    return .error kIOReturnNoDevice
  else
    match ← ask (.compileShader context .tessellationControl) with
    | .error ret => return .error ret
    | .ok control =>
        match ← ask (.compileShader context .tessellationEvaluation) with
        | .error ret =>
            tell (.destroyShader context control)
            return .error ret
        | .ok eval =>
            match ← ask (.createShaderProgram context [control, eval]) with
            | .error ret =>
                tell (.destroyShader context eval)
                tell (.destroyShader context control)
                return .error ret
            | .ok _ =>
                tell (.destroyShader context eval)
                tell (.destroyShader context control)
                return .ok ()

/-- A program that cannot be linked is no failure here. -/
def testSeparateShaderObjects (d : Devices) (context : Nat) : Probe Verdict := do
  if !d.accelerator then
    return .error kIOReturnNoDevice
  else
    match ← ask (.compileShader context .vertex) with
    | .error ret => return .error ret
    | .ok vertexShader =>
        match ← ask (.compileShader context .fragment) with
        | .error ret =>
            tell (.destroyShader context vertexShader)
            return .error ret
        | .ok fragmentShader =>
            let _ ← ask (.createShaderProgram context [vertexShader, fragmentShader])
            tell (.destroyShader context fragmentShader)
            tell (.destroyShader context vertexShader)
            return .ok ()

def testOpenGL42AdvancedFeatures (d : Devices) (context : Nat) : Probe Verdict := do
  if !d.accelerator then
    return .error kIOReturnNoDevice
  else
    let _ ← ask (.createTexture context ⟨.A8R8G8B8, 512, 512, 1, 0x03⟩)
    match ← ask (.create3DSurface context (colorSurface 256 256)) with
    | .error _ => return .ok ()
    | .ok feedback =>
        tell (.destroy3DSurface context feedback)
        return .ok ()

def testComputeShaderSupport (d : Devices) (context : Nat) : Probe Verdict := do
  if !d.accelerator then
    return .error kIOReturnNoDevice
  else
    match ← ask (.compileShader context .compute) with
    | .error ret => return .error ret
    | .ok computeShader =>
        match ← ask (.createShaderProgram context [computeShader]) with
        | .error ret =>
            tell (.destroyShader context computeShader)
            return .error ret
        | .ok _ =>
            match ← ask (.ioMalloc 128) with
            | .error _ =>
                tell (.destroyShader context computeShader)
                return .error kIOReturnNoMemory
            | .ok commands =>
                match ← ask (.withAddress commands 128) with
                | .error _ => pure ()
                | .ok buffer =>
                    tell (.submit3DCommands context buffer)
                    tell (.release buffer)
                tell (.ioFree commands 128)
                tell (.destroyShader context computeShader)
                return .ok ()

def testBufferStorageSupport (d : Devices) (context : Nat) : Probe Verdict := do
  if !d.accelerator then
    return .error kIOReturnNoDevice
  else
    match ← ask (.create3DSurface context ⟨1024, 1, .A8R8G8B8, 0⟩) with
    | .error ret => return .error ret
    | .ok vertexBuffer =>
        match ← ask (.create3DSurface context ⟨256, 1, .R5G6B5, 0⟩) with
        | .error ret =>
            tell (.destroy3DSurface context vertexBuffer)
            return .error ret
        | .ok indexBuffer =>
            match ← ask (.create3DSurface context ⟨2048, 1, .A8R8G8B8, 0⟩) with
            | .error _ => tell (.present3DSurface context vertexBuffer)
            | .ok uniformBuffer =>
                tell (.present3DSurface context vertexBuffer)
                tell (.destroy3DSurface context uniformBuffer)
            tell (.destroy3DSurface context indexBuffer)
            tell (.destroy3DSurface context vertexBuffer)
            return .ok ()

def testContextOpenGL4Features (d : Devices) (context : Nat) : Probe Verdict := do
  match ← testContextOpenGL32Features d context with
  | .error ret => return .error ret
  | .ok () =>
      match ← testTessellationSupport d context with
      | .error ret => return .error ret
      | .ok () =>
          let _ ← testSeparateShaderObjects d context
          let _ ← testOpenGL42AdvancedFeatures d context
          let _ ← testComputeShaderSupport d context
          let _ ← testBufferStorageSupport d context
          return .ok ()

/-! ## Contexts for a version -/

structure GLVersion where
  major : Nat
  minor : Nat
  deriving DecidableEq, Repr

def validateContextOpenGLCapabilities (d : Devices) (context : Nat) (v : GLVersion) :
    Probe Verdict := do
  if !d.accelerator then
    return .error kIOReturnNoDevice
  else
    match ← testContextBasicRendering d context with
    | .error ret => return .error ret
    | .ok () =>
        if 4 ≤ v.major then
          testContextOpenGL4Features d context
        else if v.major = 3 ∧ 2 ≤ v.minor then
          testContextOpenGL32Features d context
        else if v.major = 3 then
          testContextOpenGL3Features d context
        else
          return .ok ()

/-- What `configureContextForOpenGL4` and `configureContextForOpenGL32Plus` do. -/
def configureWithShaderManager (context : Nat) : Probe Verdict := do
  if !(← holds .getShaderManager) then
    return .error kIOReturnUnsupported
  else
    tell (.enableDepthTest context)
    return .ok ()

def configureContextForOpenGL4 (context : Nat) : Probe Verdict := configureWithShaderManager context

def configureContextForOpenGL32Plus (context : Nat) : Probe Verdict :=
  configureWithShaderManager context

def configureContextForOpenGL3Legacy (context : Nat) : Probe Verdict := do
  tell .getShaderManager
  tell (.enableDepthTest context)
  return .ok ()

def configureContextForOpenGL2 (context : Nat) : Probe Verdict := do
  tell (.enableDepthTest context)
  return .ok ()

def configureContextForVersion (context : Nat) (v : GLVersion) : Probe Verdict :=
  if 4 ≤ v.major then
    configureContextForOpenGL4 context
  else if v.major = 3 then
    if 2 ≤ v.minor then configureContextForOpenGL32Plus context
    else configureContextForOpenGL3Legacy context
  else if v.major = 2 then
    configureContextForOpenGL2 context
  else
    -- `configureContextForLegacyOpenGL` has nothing to configure
    return .ok ()

def verifyContextVersionCapabilities (d : Devices) (context : Nat) (v : GLVersion) :
    Probe Verdict :=
  validateContextOpenGLCapabilities d context v

def createVersionSpecificContext (d : Devices) (v : GLVersion) : Probe Answer := do
  if !d.accelerator then
    return .error kIOReturnBadArgument
  else
    match ← ask .create3DContext with
    | .error ret => return .error ret
    | .ok context =>
        match ← configureContextForVersion context v with
        | .error ret =>
            tell (.destroy3DContext context)
            return .error ret
        | .ok () =>
            match ← verifyContextVersionCapabilities d context v with
            | .error ret =>
                tell (.destroy3DContext context)
                return .error ret
            | .ok () => return .ok context

/-- The loop of `attemptFallbackVersionDetection`; versions above the target are left out. -/
def tryFallbacks (d : Devices) (context : Nat) (target : GLVersion) :
    List GLVersion → Probe (Option GLVersion)
  | [] => return none
  | v :: versions => do
      if target.major < v.major ∨ (v.major = target.major ∧ target.minor < v.minor) then
        tryFallbacks d context target versions
      else
        match ← validateContextOpenGLCapabilities d context v with
        | .ok () => return some v
        | .error _ => tryFallbacks d context target versions

def attemptFallbackVersionDetection (d : Devices) (context : Nat) (target : GLVersion) :
    Probe (Option GLVersion) := do
  if !d.accelerator then
    return none
  else
    tryFallbacks d context target [⟨3, 3⟩, ⟨3, 0⟩, ⟨2, 1⟩, ⟨1, 5⟩]

/-- The last resort: whether the features of the device speak for the version. -/
def assumeVersion (v : GLVersion) : Probe Bool := do
  if (← holds (.supportsFeature featureVirgl)) = true ∧ 4 ≤ v.major then
    return true
  else if (← holds (.supportsFeature featureResourceBlob)) = true ∧ v.major = 3 ∧ 2 ≤ v.minor then
    return true
  else if (← holds (.supportsFeature feature3D)) = true ∧ v.major = 3 ∧ v.minor = 0 then
    return true
  else
    return decide (v.major ≤ 2)

/-- The version that is settled on with a context for `v`. -/
def settleVersion (d : Devices) (context : Nat) (v : GLVersion) : Probe (Option GLVersion) := do
  match ← validateContextOpenGLCapabilities d context v with
  | .ok () => return some v
  | .error _ =>
      match ← attemptFallbackVersionDetection d context v with
      | some found => return some found
      | none => if ← assumeVersion v then return some v else return none

/-- The loop over the versions. -/
def probeVersions (d : Devices) : List GLVersion → Probe (Option GLVersion)
  | [] => return none
  | v :: versions => do
      match ← createVersionSpecificContext d v with
      | .error _ => probeVersions d versions
      | .ok context =>
          match ← settleVersion d context v with
          | some found =>
              tell (.destroy3DContext context)
              return some found
          | none =>
              tell (.destroy3DContext context)
              probeVersions d versions

/-- `major` and `minor` tell whether the pointers are there. If every probe fails, it is
OpenGL 2.1. -/
def probeOpenGLVersionFromContext (d : Devices) (major minor : Bool) :
    Probe (Except Failure GLVersion) := do
  if !major || !minor || !d.gpu then
    return .error kIOReturnBadArgument
  else
    match ← probeVersions d [⟨4, 6⟩, ⟨4, 5⟩, ⟨4, 4⟩, ⟨4, 3⟩, ⟨4, 2⟩, ⟨4, 1⟩, ⟨4, 0⟩, ⟨3, 3⟩,
        ⟨3, 2⟩, ⟨3, 1⟩, ⟨3, 0⟩, ⟨2, 1⟩] with
    | some found => return .ok found
    | none => return .ok ⟨2, 1⟩

/-! ## What the tests leave -/

attribute [local simp] see book Call.entry Call.takes Call.creates Call.wideDescriptor
  Resource.lasting wp_ask Session.wp_tell holds

variable (d : Devices) (context : Nat)

theorem keeps_testContextBasicRendering :
    Keeps (see false) (testContextBasicRendering d context) := by
  intro s
  simp [testContextBasicRendering]

theorem keeps_queryOpenGL3SpecificFeatures :
    Keeps (see false) (queryOpenGL3SpecificFeatures d context) := by
  intro s
  simp [queryOpenGL3SpecificFeatures]

theorem keeps_testShaderCompilationSupport :
    Keeps (see false) (testShaderCompilationSupport d context) := by
  intro s
  simp [testShaderCompilationSupport]

theorem keeps_testMultipleRenderTargets :
    Keeps (see false) (testMultipleRenderTargets d context) := by
  intro s
  simp [testMultipleRenderTargets]

theorem keeps_testModernTextureSupport :
    Keeps (see false) (testModernTextureSupport d context) := by
  intro s
  simp [testModernTextureSupport]

theorem keeps_testTessellationSupport :
    Keeps (see false) (testTessellationSupport d context) := by
  intro s
  simp [testTessellationSupport]

theorem keeps_testSeparateShaderObjects :
    Keeps (see false) (testSeparateShaderObjects d context) := by
  intro s
  simp [testSeparateShaderObjects]

theorem keeps_testOpenGL42AdvancedFeatures :
    Keeps (see false) (testOpenGL42AdvancedFeatures d context) := by
  intro s
  simp [testOpenGL42AdvancedFeatures]

theorem keeps_testComputeShaderSupport :
    Keeps (see false) (testComputeShaderSupport d context) := by
  intro s
  simp [testComputeShaderSupport]

theorem keeps_testBufferStorageSupport :
    Keeps (see false) (testBufferStorageSupport d context) := by
  intro s
  simp [testBufferStorageSupport]

theorem keeps_assumeVersion (v : GLVersion) : Keeps (see false) (assumeVersion v) := by
  intro s
  simp [assumeVersion]

theorem keeps_configureContextForVersion (v : GLVersion) :
    Keeps (see false) (configureContextForVersion context v) := by
  intro s
  simp [configureContextForVersion, configureContextForOpenGL4, configureContextForOpenGL32Plus,
    configureWithShaderManager, configureContextForOpenGL3Legacy, configureContextForOpenGL2]

theorem keeps_testContextOpenGL3Features :
    Keeps (see false) (testContextOpenGL3Features d context) := by
  refine (keeps_queryOpenGL3SpecificFeatures d context).bind fun queried s => ?_
  cases queried with
  | error ret => rfl
  | ok _ =>
      refine wp_ask_andThen (fun ret => rfl) (fun surface => ?_)
      refine (keeps_testShaderCompilationSupport d context).andThen fun tested => ?_
      cases tested with
      | error ret => simp
      | ok _ =>
          refine (keeps_testMultipleRenderTargets d context).andThen fun _ => ?_
          refine (keeps_testModernTextureSupport d context).andThen fun _ => ?_
          simp

theorem keeps_testContextOpenGL32Features :
    Keeps (see false) (testContextOpenGL32Features d context) := by
  refine (keeps_testContextOpenGL3Features d context).bind fun tested => ?_
  cases tested with
  | error ret => exact Session.keeps_pure _
  | ok _ => exact Session.keeps_pure _

theorem keeps_testContextOpenGL4Features :
    Keeps (see false) (testContextOpenGL4Features d context) := by
  refine (keeps_testContextOpenGL32Features d context).bind fun tested => ?_
  cases tested with
  | error ret => exact Session.keeps_pure _
  | ok _ =>
      refine (keeps_testTessellationSupport d context).bind fun tested => ?_
      cases tested with
      | error ret => exact Session.keeps_pure _
      | ok _ =>
          refine (keeps_testSeparateShaderObjects d context).bind fun _ => ?_
          refine (keeps_testOpenGL42AdvancedFeatures d context).bind fun _ => ?_
          refine (keeps_testComputeShaderSupport d context).bind fun _ => ?_
          exact (keeps_testBufferStorageSupport d context).bind fun _ => Session.keeps_pure _

theorem keeps_validateContextOpenGLCapabilities (v : GLVersion) :
    Keeps (see false) (validateContextOpenGLCapabilities d context v) := by
  intro s
  refine Session.wp_ite.mpr ?_
  split
  · rfl
  · refine (keeps_testContextBasicRendering d context).andThen fun tested => ?_
    cases tested with
    | error ret => rfl
    | ok _ =>
        dsimp only
        split
        · exact keeps_testContextOpenGL4Features d context s
        split
        · exact keeps_testContextOpenGL32Features d context s
        split
        · exact keeps_testContextOpenGL3Features d context s
        · rfl

theorem keeps_tryFallbacks (target : GLVersion) (versions : List GLVersion) :
    Keeps (see false) (tryFallbacks d context target versions) := by
  induction versions with
  | nil => exact Session.keeps_pure _
  | cons v versions ih =>
      intro s
      refine Session.wp_ite.mpr ?_
      split
      · exact ih s
      · refine (keeps_validateContextOpenGLCapabilities d context v).andThen fun tested => ?_
        cases tested with
        | error ret => exact ih s
        | ok _ => rfl

theorem keeps_attemptFallbackVersionDetection (target : GLVersion) :
    Keeps (see false) (attemptFallbackVersionDetection d context target) := by
  intro s
  refine Session.wp_ite.mpr ?_
  split
  · rfl
  · exact keeps_tryFallbacks d context target _ s

theorem keeps_settleVersion (v : GLVersion) : Keeps (see false) (settleVersion d context v) := by
  refine (keeps_validateContextOpenGLCapabilities d context v).bind fun tested => ?_
  cases tested with
  | ok _ => exact Session.keeps_pure _
  | error ret =>
      refine (keeps_attemptFallbackVersionDetection d context v).bind fun found => ?_
      cases found with
      | some found => exact Session.keeps_pure _
      | none =>
          refine (keeps_assumeVersion v).bind fun assumed => ?_
          cases assumed with
          | true => exact Session.keeps_pure _
          | false => exact Session.keeps_pure _

/-- The one function that keeps what it creates, and only if it succeeds. -/
theorem wp_createVersionSpecificContext (v : GLVersion) (s : Tally) :
    wp (see false) (createVersionSpecificContext d v) (fun created t => match created with
      | .ok context => t = s.acquire (.context context)
      | .error _ => t = s) s := by
  refine Session.wp_ite.mpr ?_
  split
  · rfl
  · refine wp_ask_andThen (fun ret => rfl) (fun context => ?_)
    refine (keeps_configureContextForVersion context v).andThen fun configured => ?_
    cases configured with
    | error ret => simp
    | ok _ =>
        refine (keeps_validateContextOpenGLCapabilities d context v).andThen fun tested => ?_
        cases tested with
        | error ret => simp
        | ok _ => rfl

theorem keeps_probeVersions (versions : List GLVersion) :
    Keeps (see false) (probeVersions d versions) := by
  induction versions with
  | nil => exact Session.keeps_pure _
  | cons v versions ih =>
      intro s
      refine (wp_createVersionSpecificContext d v s).andThen ?_
      intro created t ht
      cases created with
      | error ret =>
          rw [ht]
          exact ih s
      | ok context =>
          rw [ht]
          refine (keeps_settleVersion d context v).andThen fun settled => ?_
          cases settled with
          | some found => simp
          | none => simpa using ih s

theorem keeps_probeOpenGLVersionFromContext (major minor : Bool) :
    Keeps (see false) (probeOpenGLVersionFromContext d major minor) := by
  intro s
  refine Session.wp_ite.mpr ?_
  split
  · rfl
  · refine (keeps_probeVersions d _).andThen fun found => ?_
    cases found with
    | none => rfl
    | some found => rfl

/-- The version probe is neutral if nothing that lasts was handed out to it. -/
theorem probeOpenGLVersionFromContext_neutral_iff (major minor : Bool)
    (answers : Nat → Answer) :
    ResourceNeutral (probeOpenGLVersionFromContext d major minor) answers ↔
      LastingRefused ((probeOpenGLVersionFromContext d major minor).run answers).1 := by
  have hrun := (keeps_probeOpenGLVersionFromContext d major minor .blank).run answers
  rw [ResourceNeutral, neutral_entries_iff false, hrun]
  exact and_iff_left ⟨rfl, rfl⟩

/-! ## Both ways of finding out -/

end GLProbe
end VMQemuVGA
