import VMQemuVGA.OpenGL.CapabilityCalls

/-! # `validateAccelerator3DCapabilities`

The stages of the validation, each with what it creates and gives back. All but one
leave the monitor as it was. -/

namespace VMQemuVGA
namespace GLProbe

open Session (ask tell forEach wp Keeps)

/-- What the bridge is connected to. -/
structure Devices where
  /-- `m_gpu_device` is there -/
  gpu : Bool
  /-- `m_accelerator` is there -/
  accelerator : Bool
  deriving DecidableEq, Repr

/-- `GL_TRIANGLES` -/
def triangles : Nat := 0x0004

/-- A surface of `VM3D_FORMAT_A8R8G8B8`. -/
def colorSurface (width height : Nat) : SurfaceWish := ⟨width, height, .A8R8G8B8, 0⟩

/-- A surface of `VM3D_FORMAT_D24S8`. -/
def depthSurface (width height : Nat) : SurfaceWish := ⟨width, height, .D24S8, 0⟩

/-! ## Geometry -/

def testMultiplePrimitiveTypes (context : Nat) : Probe Verdict := do
  forEach [(0x0000, 6), (0x0001, 6), (0x0003, 4), (0x0004, 6), (0x0005, 4), (0x0006, 5),
      (0x000A, 8), (0x000C, 6)] fun (primitive, count) =>
    tell (.drawPrimitives context primitive count 0)
  return .ok ()

/-- The loop that fills `created_surfaces`. -/
def createVertexBuffers (context : Nat) : List SurfaceWish → List Nat → Probe (List Nat)
  | [], created => return created
  | format :: formats, created => do
      match ← ask (.create3DSurface context format) with
      | .error _ => createVertexBuffers context formats created
      | .ok surface => createVertexBuffers context formats (created ++ [surface])

/-- The draws of `testInterleavedVertexAttributes`, from the `i`-th on. -/
def drawInterleaved (context : Nat) : Nat → List Nat → Probe Verdict
  | _, [] => return .ok ()
  | i, _ :: surfaces => do
      match ← ask (.drawPrimitives context triangles 6 (i * 6)) with
      | .error ret => return .error ret
      | .ok _ => drawInterleaved context (i + 1) surfaces

def testInterleavedVertexAttributes (context : Nat) (surfaces : List Nat) : Probe Verdict :=
  match surfaces with
  | [] => return .error kIOReturnBadArgument
  | surface :: _ => do
      match ← drawInterleaved context 0 surfaces with
      | .error ret => return .error ret
      | .ok () =>
          tell (.present3DSurface context surface)
          return .ok ()

def testLargeVertexBufferCapabilities (context : Nat) : Probe Verdict := do
  forEach [4096, 16384, 65536, 262144] fun size => do
    match ← ask (.create3DSurface context (colorSurface (size / 16) 1)) with
    | .error _ => return ⟨⟩
    | .ok surface =>
        tell (.drawPrimitives context triangles (size / 16) 0)
        tell (.destroy3DSurface context surface)
  return .ok ()

def testAdvancedVertexBufferOperations (context : Nat) : Probe Verdict := do
  let created ← createVertexBuffers context
    [⟨1024, 1, .A8R8G8B8, 0⟩, ⟨512, 1, .X8R8G8B8, 0⟩, ⟨256, 1, .R5G6B5, 0⟩, ⟨128, 1, .D24S8, 0⟩] []
  if 2 ≤ created.length then
    let _ ← testInterleavedVertexAttributes context created
  let _ ← testLargeVertexBufferCapabilities context
  forEach created fun surface => tell (.destroy3DSurface context surface)
  return .ok ()

def testInstancedRenderingCapabilities (context surface : Nat) : Probe Verdict := do
  forEach [(1, 3), (4, 3), (16, 6), (64, 12)] fun (instances, vertices) => do
    forEach (List.range instances) fun i =>
      tell (.drawPrimitives context triangles vertices (i * vertices))
    tell (.present3DSurface context surface)
  return .ok ()

def testGeometryShaderTransformFeedback (context geometryShader : Nat) : Probe Verdict := do
  match ← ask (.compileShader context .vertex) with
  | .error ret => return .error ret
  | .ok vertexShader =>
      match ← ask (.compileShader context .fragment) with
      | .error ret =>
          tell (.destroyShader context vertexShader)
          return .error ret
      | .ok fragmentShader =>
          let shaders := [vertexShader, geometryShader, fragmentShader]
          match ← ask (.createShaderProgram context shaders) with
          | .error _ => pure ()
          | .ok program =>
              if ← holds (.useShaderProgram context program) then
                tell (.drawPrimitives context triangles 6 0)
          -- the program is not given back
          tell (.destroyShader context fragmentShader)
          tell (.destroyShader context vertexShader)
          return .ok ()

def testTransformFeedbackCapabilities (context : Nat) : Probe Verdict := do
  if ← holds .getShaderManager then
    match ← ask (.compileShader context .geometry) with
    | .error _ => pure ()
    | .ok geometryShader =>
        let _ ← testGeometryShaderTransformFeedback context geometryShader
        tell (.destroyShader context geometryShader)
  return .ok ()

/-! ### Command buffers -/

def numThreads : Nat := 4

/-- The allocation of the command buffers; `left` are still to be allocated. -/
def allocateCommandBuffers (array left : Nat) (buffers : List Nat) : Probe (Option (List Nat)) :=
  match left with
  | 0 => return some buffers
  | left + 1 => do
      match ← ask (.ioMalloc 128) with
      | .error _ =>
          forEach buffers fun buffer => tell (.ioFree buffer 128)
          tell (.ioFree array (numThreads * 8))
          return none
      | .ok buffer => allocateCommandBuffers array left (buffers ++ [buffer])

/-- The descriptors of the command buffers; a buffer that has one stands beside it. -/
def describeBuffers (array : Nat) (buffers : List Nat) (described : List (Nat × Nat)) :
    Probe (Option (List (Nat × Nat))) :=
  match buffers with
  | [] => return some described
  | buffer :: buffers => do
      match ← ask (.withAddress buffer 128) with
      | .error _ =>
          -- the buffers that come after this one are left behind
          forEach described fun (buffer, descriptor) => do
            tell (.release descriptor)
            tell (.ioFree buffer 128)
          tell (.ioFree buffer 128)
          tell (.ioFree array (numThreads * 8))
          return none
      | .ok descriptor => describeBuffers array buffers (described ++ [(buffer, descriptor)])

/-- What the last submission that failed returned. -/
def submitAll (context : Nat) : List (Nat × Nat) → Verdict → Probe Verdict
  | [], overall => return overall
  | (_, descriptor) :: described, overall => do
      match ← ask (.submit3DCommands context descriptor) with
      | .error ret => submitAll context described (.error ret)
      | .ok _ => submitAll context described overall

def testMultithreadedRenderingCapabilities (context surface : Nat) : Probe Verdict := do
  match ← ask (.ioMalloc (numThreads * 8)) with
  | .error _ => return .error kIOReturnNoMemory
  | .ok array =>
      match ← allocateCommandBuffers array numThreads [] with
      | none => return .error kIOReturnNoMemory
      | some buffers =>
          match ← describeBuffers array buffers [] with
          | none => return .error kIOReturnNoMemory
          | some described =>
              let overall ← submitAll context described (.ok ())
              forEach (List.range numThreads) fun _ => tell (.present3DSurface context surface)
              forEach described fun (_, descriptor) => tell (.release descriptor)
              -- neither pointer is null here
              forEach described fun (buffer, descriptor) => do
                tell (.release descriptor)
                tell (.ioFree buffer 128)
              tell (.ioFree array (numThreads * 8))
              return overall

/-- The rounds of one workload; the first draw that fails ends it. -/
def runWorkload (context surface vertices : Nat) : Nat → Probe PUnit
  | 0 => return ⟨⟩
  | rounds + 1 => do
      match ← ask (.drawPrimitives context triangles vertices 0) with
      | .error _ => return ⟨⟩
      | .ok _ =>
          tell (.present3DSurface context surface)
          runWorkload context surface vertices rounds

def performGeometryPerformanceBenchmark (context surface : Nat) : Probe Verdict := do
  forEach [(100, 10), (1000, 5), (10000, 2), (50000, 1)] fun (triangleCount, iterations) =>
    runWorkload context surface (triangleCount * 3) iterations
  return .ok ()

/-- A stage that fails does not keep the next from being tried. -/
def validateAdvanced3DGeometryCapabilities (d : Devices) (context surface : Nat) :
    Probe Verdict := do
  if !d.accelerator || !d.gpu then
    return .error kIOReturnNoDevice
  else
    let _ ← testMultiplePrimitiveTypes context
    let _ ← testAdvancedVertexBufferOperations context
    let _ ← testInstancedRenderingCapabilities context surface
    let _ ← testTransformFeedbackCapabilities context
    let _ ← testMultithreadedRenderingCapabilities context surface
    let _ ← performGeometryPerformanceBenchmark context surface
    return .ok ()

/-! ## The stages -/

def validate3DRenderingCapabilities : Probe Verdict := do
  match ← ask .create3DContext with
  | .error ret => return .error ret
  | .ok context =>
      match ← ask (.create3DSurface context (colorSurface 256 256)) with
      | .error ret =>
          tell (.destroy3DContext context)
          return .error ret
      | .ok surface =>
          -- a failed presentation is not critical
          tell (.present3DSurface context surface)
          tell (.destroy3DSurface context surface)
          tell (.destroy3DContext context)
          return .ok ()

def validateGeometryProcessingCapabilities (d : Devices) : Probe Verdict := do
  match ← ask .create3DContext with
  | .error ret => return .error ret
  | .ok context =>
      match ← ask (.create3DSurface context (colorSurface 512 512)) with
      | .error ret =>
          tell (.destroy3DContext context)
          return .error ret
      | .ok surface =>
          let _ ← validateAdvanced3DGeometryCapabilities d context surface
          match ← ask (.ioMalloc 64) with
          | .error _ =>
              tell (.destroy3DSurface context surface)
              tell (.destroy3DContext context)
              return .error kIOReturnNoMemory
          | .ok drawCommands =>
              match ← ask (.withAddress drawCommands 64) with
              | .error _ =>
                  tell (.ioFree drawCommands 64)
                  tell (.destroy3DSurface context surface)
                  tell (.destroy3DContext context)
                  return .error kIOReturnNoMemory
              | .ok commandBuffer =>
                  tell (.submit3DCommands context commandBuffer)
                  tell (.release commandBuffer)
                  tell (.ioFree drawCommands 64)
                  tell (.destroy3DSurface context surface)
                  tell (.destroy3DContext context)
                  return .ok ()

def validateFragmentProcessingCapabilities : Probe Verdict := do
  match ← ask .create3DContext with
  | .error ret => return .error ret
  | .ok context =>
      match ← ask (.create3DSurface context (colorSurface 256 256)) with
      | .error ret =>
          tell (.destroy3DContext context)
          return .error ret
      | .ok surface =>
          match ← ask (.create3DSurface context (colorSurface 256 256)) with
          | .error _ => tell (.present3DSurface context surface)
          | .ok surface2 =>
              tell (.present3DSurface context surface)
              tell (.destroy3DSurface context surface2)
          tell (.destroy3DSurface context surface)
          tell (.destroy3DContext context)
          return .ok ()

def validateTextureCapabilities : Probe Verdict := do
  match ← ask .create3DContext with
  | .error ret => return .error ret
  | .ok context =>
      match ← ask (.createTexture context ⟨.A8R8G8B8, 128, 128, 1, 0x01⟩) with
      | .error ret =>
          tell (.destroy3DContext context)
          return .error ret
      | .ok texture =>
          tell (.updateTexture context texture [0, 0, 32, 32])
          -- the texture is not given back
          tell (.destroy3DContext context)
          return .ok ()

def validateFramebufferCapabilities : Probe Verdict := do
  match ← ask .create3DContext with
  | .error ret => return .error ret
  | .ok context =>
      match ← ask (.create3DSurface context (colorSurface 256 256)) with
      | .error ret =>
          tell (.destroy3DContext context)
          return .error ret
      | .ok color =>
          match ← ask (.create3DSurface context (depthSurface 256 256)) with
          | .error _ => tell (.present3DSurface context color)
          | .ok depth =>
              tell (.present3DSurface context color)
              tell (.present3DSurface context depth)
              tell (.destroy3DSurface context depth)
          tell (.destroy3DSurface context color)
          tell (.destroy3DContext context)
          return .ok ()

def validateShaderCapabilities : Probe Verdict := do
  match ← ask .create3DContext with
  | .error ret => return .error ret
  | .ok context =>
      if !(← holds .getShaderManager) then
        -- a fixed function pipeline will do
        tell (.destroy3DContext context)
        return .ok ()
      else
        match ← ask (.compileShader context .vertex) with
        | .error ret =>
            tell (.destroy3DContext context)
            return .error ret
        | .ok vertexShader =>
            match ← ask (.compileShader context .fragment) with
            | .error ret =>
                tell (.destroyShader context vertexShader)
                tell (.destroy3DContext context)
                return .error ret
            | .ok fragmentShader =>
                match ← ask (.createShaderProgram context [vertexShader, fragmentShader]) with
                | .error ret =>
                    tell (.destroyShader context fragmentShader)
                    tell (.destroyShader context vertexShader)
                    tell (.destroy3DContext context)
                    return .error ret
                | .ok program =>
                    tell (.useShaderProgram context program)
                    -- the program is not given back
                    tell (.destroyShader context fragmentShader)
                    tell (.destroyShader context vertexShader)
                    tell (.destroy3DContext context)
                    return .ok ()

/-- The stages in order, up to the first that fails. -/
def inOrder : List (Probe Verdict) → Probe Verdict
  | [] => return .ok ()
  | stage :: stages => do
      match ← stage with
      | .error ret => return .error ret
      | .ok () => inOrder stages

def validateAccelerator3DCapabilities (d : Devices) : Probe Verdict := do
  if !d.gpu then
    return .error kIOReturnNoDevice
  else if !(← holds .supports3D) then
    return .error kIOReturnUnsupported
  else if !d.accelerator then
    return .error kIOReturnNoDevice
  else
    inOrder [validate3DRenderingCapabilities, validateGeometryProcessingCapabilities d,
      validateFragmentProcessingCapabilities, validateTextureCapabilities,
      validateFramebufferCapabilities, validateShaderCapabilities]

attribute [local simp] see book Call.entry Call.takes Call.creates Call.wideDescriptor
  Resource.lasting wp_ask Session.wp_tell

theorem keeps_validate3DRenderingCapabilities {watch : Bool} :
    Keeps (see watch) validate3DRenderingCapabilities := by
  intro s
  simp [validate3DRenderingCapabilities]

theorem keeps_validateFragmentProcessingCapabilities {watch : Bool} :
    Keeps (see watch) validateFragmentProcessingCapabilities := by
  intro s
  simp [validateFragmentProcessingCapabilities]

theorem keeps_validateTextureCapabilities {watch : Bool} :
    Keeps (see watch) validateTextureCapabilities := by
  intro s
  simp [validateTextureCapabilities]

theorem keeps_validateFramebufferCapabilities {watch : Bool} :
    Keeps (see watch) validateFramebufferCapabilities := by
  intro s
  simp [validateFramebufferCapabilities]

theorem keeps_validateShaderCapabilities {watch : Bool} :
    Keeps (see watch) validateShaderCapabilities := by
  intro s
  simp [validateShaderCapabilities, holds]

/-- Giving many things back, one in each round. -/
theorem wp_forEach_release {watch : Bool} {ι : Type} {body : ι → Probe Unit} (x : ι → Resource)
    (hbody : ∀ i t, wp (see watch) (body i) (fun _ u => u = t.release (x i)) t)
    {is : List ι} {s : Tally} {post : Unit → Tally → Prop}
    (h : post () (s.releases (is.map x))) : wp (see watch) (forEach is body) post s := by
  induction is generalizing s with
  | nil => exact h
  | cons i is ih =>
      refine (hbody i s).andThen fun _ t ht => ?_
      rw [ht]
      exact ih h

theorem keeps_testMultiplePrimitiveTypes {watch : Bool} (context : Nat) :
    Keeps (see watch) (testMultiplePrimitiveTypes context) := by
  refine (Keeps.forEach (fun i s => ?_) _).bind fun _ => Session.keeps_pure _
  simp

theorem wp_createVertexBuffers {watch : Bool} (context : Nat) (formats : List SurfaceWish)
    (created : List Nat) (s : Tally) :
    wp (see watch) (createVertexBuffers context formats created)
      (fun ids t => t = s.acquires (ids.map (.surface context)))
      (s.acquires (created.map (.surface context))) := by
  induction formats generalizing created with
  | nil => rfl
  | cons format formats ih =>
      have hmore (id : Nat) :
          (s.acquires (created.map (.surface context))).acquire (.surface context id) =
            s.acquires ((created ++ [id]).map (.surface context)) := by
        rw [List.map_append, Ledger.acquires_append]
        rfl
      simp [createVertexBuffers, ih]
      intro id
      rw [hmore]
      exact ih (created ++ [id])

theorem keeps_drawInterleaved {watch : Bool} (context i : Nat) (surfaces : List Nat) :
    Keeps (see watch) (drawInterleaved context i surfaces) := by
  induction surfaces generalizing i with
  | nil => exact Session.keeps_pure _
  | cons surface surfaces ih =>
      intro s
      simp [drawInterleaved, ih (i + 1) s]

theorem keeps_testInterleavedVertexAttributes {watch : Bool} (context : Nat)
    (surfaces : List Nat) :
    Keeps (see watch) (testInterleavedVertexAttributes context surfaces) := by
  cases surfaces with
  | nil => exact Session.keeps_pure _
  | cons surface surfaces =>
      refine (keeps_drawInterleaved context 0 _).bind fun drawn s => ?_
      cases drawn with
      | error ret => rfl
      | ok _ => simp

theorem keeps_testLargeVertexBufferCapabilities {watch : Bool} (context : Nat) :
    Keeps (see watch) (testLargeVertexBufferCapabilities context) := by
  refine (Keeps.forEach (fun size s => ?_) _).bind fun _ => Session.keeps_pure _
  simp

/-- The surfaces are destroyed in the order in which they were created. -/
theorem keeps_testAdvancedVertexBufferOperations {watch : Bool} (context : Nat) :
    Keeps (see watch) (testAdvancedVertexBufferOperations context) := by
  intro s
  refine (wp_createVertexBuffers context _ [] s).andThen fun ids t ht => ?_
  have hrest : wp (see watch) (do
      let _ ← testLargeVertexBufferCapabilities context
      forEach ids fun surface => tell (.destroy3DSurface context surface)
      return Except.ok ()) (fun (_ : Verdict) t => t = s) t := by
    refine (keeps_testLargeVertexBufferCapabilities context).andThen fun _ => ?_
    refine Session.wp_bind.mpr (wp_forEach_release (.surface context) (fun _ _ => by simp) ?_)
    rw [ht]
    exact Ledger.releases_acquires s _
  by_cases htwo : 2 ≤ ids.length
  · simp only [htwo, if_true]
    have hdraws : Keeps (see watch) _ := keeps_testInterleavedVertexAttributes context ids
    exact hdraws.andThen fun _ => hrest
  · simp only [htwo, if_false]
    exact hrest

theorem keeps_testInstancedRenderingCapabilities {watch : Bool} (context surface : Nat) :
    Keeps (see watch) (testInstancedRenderingCapabilities context surface) := by
  refine (Keeps.forEach (fun i => ?_) _).bind fun _ => Session.keeps_pure _
  refine (Keeps.forEach (fun k s => ?_) _).bind fun _ s => ?_
  · simp
  · simp

theorem keeps_testGeometryShaderTransformFeedback {watch : Bool} (context shader : Nat) :
    Keeps (see watch) (testGeometryShaderTransformFeedback context shader) := by
  intro s
  simp [testGeometryShaderTransformFeedback, holds]

theorem keeps_testTransformFeedbackCapabilities {watch : Bool} (context : Nat) :
    Keeps (see watch) (testTransformFeedbackCapabilities context) := by
  intro s
  simp [testTransformFeedbackCapabilities, holds]
  intro id
  refine (keeps_testGeometryShaderTransformFeedback context id).wp fun _ => ?_
  simp

theorem keeps_runWorkload {watch : Bool} (context surface vertices rounds : Nat) :
    Keeps (see watch) (runWorkload context surface vertices rounds) := by
  induction rounds with
  | zero => exact Session.keeps_pure _
  | succ rounds ih =>
      intro s
      simp [runWorkload, ih s]

theorem keeps_performGeometryPerformanceBenchmark {watch : Bool} (context surface : Nat) :
    Keeps (see watch) (performGeometryPerformanceBenchmark context surface) := by
  refine (Keeps.forEach (fun i => ?_) _).bind fun _ => Session.keeps_pure _
  exact keeps_runWorkload context surface _ _

end GLProbe
end VMQemuVGA
