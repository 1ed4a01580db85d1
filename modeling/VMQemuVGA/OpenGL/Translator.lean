import VMQemuVGA.Gpu.Device
import VMQemuVGA.OpenGL.Protocol

/-! # The OpenGL translator

`VMOpenGLTranslator` turns immediate-mode calls into virgl buffers and passes
them to `executeCommands`. The code builds each buffer by hand; so does this
module, one list of words for each.

Beside the code's state stand what the translator passed on (each buffer with
the command it is meant to be), the vertex buffers it asked the device for, and
how many of these belong to the primitive begun last. -/

namespace VMQemuVGA

/-! ## State -/

structure Vec4 where
  x : Float32
  y : Float32
  z : Float32
  w : Float32

def Vec4.words (v : Vec4) : List Nat := [v.x, v.y, v.z, v.w].map virglPackFloat

/-- The twelve floats of a vertex: position, color and texture coordinate. -/
structure Vertex where
  position : Vec4
  color : Vec4
  texcoord : Vec4

def Vertex.words (v : Vertex) : List Nat := v.position.words ++ v.color.words ++ v.texcoord.words

@[simp] theorem Vertex.length_words (v : Vertex) : v.words.length = 12 := rfl

/-- `VMGLState`, as far as a call reads it; `vertices` are the first
`vertex_count` entries of `vertex_data`. -/
structure VMGLState where
  primitiveMode : Nat
  vertices : List Vertex
  inBeginEnd : Bool
  currentColor : Vec4
  currentTexcoord : Vec4
  viewportX : Int
  viewportY : Int
  viewportWidth : Int
  viewportHeight : Int
  depthNear : Float32
  depthFar : Float32
  clearColor : Vec4
  clearDepth : Float32
  clearStencil : Nat

/-- A vertex buffer that was asked for, and whether its id was taken then. -/
structure VertexBuffer where
  handle : Nat
  taken : Bool
  deriving DecidableEq, Repr

structure Translator where
  /-- `m_accelerator` is set. -/
  accelerator : Bool
  contextId : Nat
  state : VMGLState
  nextHandle : Nat
  passed : List (VirglCommand × List Nat)
  vertexBuffers : List VertexBuffer
  inUse : Nat

/-- A translator and the device behind its accelerator. -/
structure GLStack where
  translator : Translator
  gpu : Gpu

/-- The surroundings of one submission, with what `getVirtIOGPUDevice` finds. -/
structure GLEnv extends Env where
  gpuDevice : Bool

def GLEnv.accepting : GLEnv := { toEnv := .accepting, gpuDevice := true }

/-- The submissions of a flush, in order. -/
inductive FlushStage where
  | createBuffer
  | upload
  | createElements
  | bind
  | setBuffers
  | draw
  deriving DecidableEq, Repr

def maxBatchVertices : Nat := 10000

/-- `init`, before an accelerator is known. -/
def Translator.init : Translator where
  accelerator := false
  contextId := 0
  state :=
    { primitiveMode := 0
      vertices := []
      inBeginEnd := false
      currentColor := ⟨1, 1, 1, 1⟩
      currentTexcoord := ⟨0, 0, 0, 0⟩
      viewportX := 0
      viewportY := 0
      viewportWidth := 0
      viewportHeight := 0
      depthNear := 0
      depthFar := 1
      clearColor := ⟨0, 0, 0, 1⟩
      clearDepth := 1
      clearStencil := 0 }
  nextHandle := 100
  passed := []
  vertexBuffers := []
  inUse := 0

/-! ## Encoders -/

/-- `glPrimitiveToVirgl`: the GL modes 0 to 9 are virgl's, others are triangles. -/
def glPrimitiveToVirgl (mode : Nat) : Nat := if mode ≤ 9 then mode else pipePrimTriangles

/-- The buffers `glClear` names, from the GL bits of color, depth and stencil. -/
def clearBuffers (mask : Nat) : Nat :=
  (if mask &&& 0x4000 ≠ 0 then pipeClearColor0 else 0) |||
    (if mask &&& 0x100 ≠ 0 then pipeClearDepth else 0) |||
    (if mask &&& 0x400 ≠ 0 then pipeClearStencil else 0)

namespace VMGLState

def clearCmd (s : VMGLState) (mask : Nat) : List Nat :=
  let depth := virglPackDouble s.clearDepth.toFloat
  [virglCmdHdr VirglCommand.clear.opcode (virglClearSize - 1),
    clearBuffers mask,
    virglPackFloat s.clearColor.x,
    virglPackFloat s.clearColor.y,
    virglPackFloat s.clearColor.z,
    virglPackFloat s.clearColor.w,
    depth.1,
    depth.2,
    s.clearStencil]

def viewportCmd (s : VMGLState) : List Nat :=
  let scaleX := Float32.ofInt s.viewportWidth / 2
  let scaleY := Float32.ofInt s.viewportHeight / 2
  let scaleZ := (s.depthFar - s.depthNear) / 2
  let transX := Float32.ofInt s.viewportX + scaleX
  let transY := Float32.ofInt s.viewportY + scaleY
  let transZ := (s.depthFar + s.depthNear) / 2
  [virglCmdHdr VirglCommand.setViewportState.opcode 7,
    0, -- start slot
    virglPackFloat scaleX,
    virglPackFloat scaleY,
    virglPackFloat scaleZ,
    virglPackFloat transX,
    virglPackFloat transY,
    virglPackFloat transZ]

def drawCmd (s : VMGLState) : List Nat :=
  [virglCmdHdr VirglCommand.drawVbo.opcode (virglDrawVboSize - 1),
    0, -- start
    s.vertices.length,
    glPrimitiveToVirgl s.primitiveMode,
    0, -- not indexed
    1, -- one instance
    0, 0, 0, 0, 0,
    s.vertices.length - 1]

end VMGLState

/-- One color buffer, resource 2, and the depth buffer, resource 3: the ones
`initializeWebGLAcceleration` is supposed to have made. -/
def framebufferCmd : List Nat :=
  [virglCmdHdr VirglCommand.setFramebufferState.opcode (virglSetFramebufferStateSize - 1),
    1, 3, 2, 0, 0, 0, 0, 0, 0, 0]

/-- The command of `uploadBufferData`, with the words of `data` behind it. -/
def inlineWriteCmd (handle : Nat) (data : List Nat) (offset : Nat) : List Nat :=
  let total := virglInlineWriteHdrSize + data.length
  virglCmdHdr VirglCommand.resourceInlineWrite.opcode (total - 1) ::
    ([handle,
      0, 0, 0, 0, -- level, usage and strides
      offset, 0, 0,
      data.length * 4, 1, 1] ++ data)

/-- Three elements, each of four floats at its offset in a vertex. -/
def vertexElementsCmd (handle : Nat) : List Nat :=
  [virglCmdHdr 1 14, handle, VirglObject.vertexElements.code,
    0, 0, 0, pipeFormatR32G32B32A32Float,
    16, 0, 0, pipeFormatR32G32B32A32Float,
    32, 0, 0, pipeFormatR32G32B32A32Float]

def bindElementsCmd (handle : Nat) : List Nat :=
  [virglCmdHdr 2 2, handle, VirglObject.vertexElements.code]

def vertexBuffersCmd (handle : Nat) : List Nat :=
  [virglCmdHdr VirglCommand.setVertexBuffers.opcode 4, 48, 0, handle, 0]

/-! ## Calls -/

/-- An id that names a resource of the host or of the device's pool. -/
def Gpu.isLive (g : Gpu) (id : Nat) : Bool :=
  g.link.host.hasResource id || (g.findResource id).isSome

namespace GLStack

def vertices (s : GLStack) : List Vertex := s.translator.state.vertices

def withState (s : GLStack) (f : VMGLState → VMGLState) : GLStack :=
  { s with translator := { s.translator with state := f s.translator.state } }

/-- `m_next_handle++`. -/
def allocateHandle (s : GLStack) : Nat × GLStack :=
  (s.translator.nextHandle,
    { s with translator := { s.translator with nextHandle := inc32 s.translator.nextHandle } })

/-- `submitVirglCommand` with a buffer that is meant to be the command `c`. -/
def submitVirglCommand (e : GLEnv) (s : GLStack) (c : VirglCommand) (cmd : List Nat) :
    IOReturn × GLStack :=
  if s.translator.accelerator = false then (.notReady, s)
  else if e.gpuDevice = false then (.notReady, s)
  else if e.alloc .commandBytes = false then (.noMemory, s) else
  let (ret, g) := s.gpu.executeCommands e.toEnv s.translator.contextId (some (cmd.length * 4))
  (ret, ⟨{ s.translator with passed := s.translator.passed ++ [(c, cmd)] }, g⟩)

/-- `createVirglBuffer`: the handle is passed on as a resource id. -/
def createVirglBuffer (e : GLEnv) (s : GLStack) (size bind handle : Nat) : IOReturn × GLStack :=
  if s.translator.accelerator = false then (.notReady, s)
  else if e.gpuDevice = false then (.notReady, s) else
  let (ret, g) := s.gpu.createResource3D e.toEnv handle virglTargetBuffer virglFormatR8G8B8A8Unorm
    bind size 1 1
  (ret,
    ⟨{ s.translator with
        vertexBuffers := s.translator.vertexBuffers ++ [⟨handle, s.gpu.isLive handle⟩]
        inUse := s.translator.inUse + 1 }, g⟩)

def uploadBufferData (e : GLEnv) (s : GLStack) (handle : Nat) (data : List Nat) (offset : Nat) :
    IOReturn × GLStack :=
  if s.translator.accelerator = false then (.badArgument, s)
  else if e.alloc .inlineWrite = false then (.noMemory, s)
  else s.submitVirglCommand e .resourceInlineWrite (inlineWriteCmd handle data offset)

/-- `createVertexElements`; the handle it draws replaces the caller's. -/
def createVertexElements (e : GLEnv) (s : GLStack) : Nat × IOReturn × GLStack :=
  let (handle, s₁) := s.allocateHandle
  (handle,
    s₁.submitVirglCommand e (.createObject .vertexElements handle) (vertexElementsCmd handle))

/-- The last three submissions of a flush; only the draw's result counts. -/
def drawBatch (es : FlushStage → GLEnv) (s : GLStack) (vbo elements : Nat) : IOReturn × GLStack :=
  let s₁ := (s.submitVirglCommand (es .bind) (.bindObject .vertexElements elements)
    (bindElementsCmd elements)).2
  let s₂ := (s₁.submitVirglCommand (es .setBuffers) .setVertexBuffers (vertexBuffersCmd vbo)).2
  s₂.submitVirglCommand (es .draw) .drawVbo s₂.translator.state.drawCmd

/-- A flush once the vertex buffer has its data. -/
def drawUploaded (es : FlushStage → GLEnv) (s : GLStack) (vbo : Nat) : IOReturn × GLStack :=
  let (_, s₁) := s.allocateHandle
  let (elements, ret, s₂) := s₁.createVertexElements (es .createElements)
  if ret ≠ .success then (ret, s₂) else s₂.drawBatch es vbo elements

/-- A flush once the vertex buffer exists. -/
def uploadAndDraw (es : FlushStage → GLEnv) (s : GLStack) (vbo : Nat) : IOReturn × GLStack :=
  let (ret, s₁) := s.uploadBufferData (es .upload) vbo (s.vertices.flatMap Vertex.words) 0
  if ret ≠ .success then (ret, s₁) else s₁.drawUploaded es vbo

def flushVertexBatch (es : FlushStage → GLEnv) (s : GLStack) : IOReturn × GLStack :=
  if s.vertices.length = 0 then (.success, s)
  else if s.translator.accelerator = false then (.notReady, s) else
  let (vbo, s₁) := s.allocateHandle
  let (ret, s₂) := s₁.createVirglBuffer (es .createBuffer) (s.vertices.length * 12 * 4)
    virglBindVertexBuffer vbo
  if ret ≠ .success then (ret, s₂) else s₂.uploadAndDraw es vbo

/-! ### Entry points -/

def glClear (e : GLEnv) (s : GLStack) (mask : Nat) : IOReturn × GLStack :=
  if s.translator.accelerator = false then (.notReady, s)
  else s.submitVirglCommand e .clear (s.translator.state.clearCmd mask)

def glClearColor (s : GLStack) (color : Vec4) : IOReturn × GLStack :=
  (.success, s.withState fun t => { t with clearColor := color })

def glClearDepth (s : GLStack) (depth : Float) : IOReturn × GLStack :=
  (.success, s.withState fun t => { t with clearDepth := depth.toFloat32 })

def updateViewport (e : GLEnv) (s : GLStack) : IOReturn × GLStack :=
  if s.translator.accelerator = false then (.notReady, s)
  else s.submitVirglCommand e .setViewportState s.translator.state.viewportCmd

def glViewport (e : GLEnv) (s : GLStack) (x y width height : Int) : IOReturn × GLStack :=
  (s.withState fun t =>
    { t with viewportX := x, viewportY := y, viewportWidth := width,
             viewportHeight := height }).updateViewport e

def glBegin (s : GLStack) (mode : Nat) : IOReturn × GLStack :=
  if s.translator.state.inBeginEnd = true then (.error, s) else
  let s₁ := s.withState fun t =>
    { t with inBeginEnd := true, primitiveMode := mode, vertices := [] }
  (.success, { s₁ with translator := { s₁.translator with inUse := 0 } })

def glEnd (es : FlushStage → GLEnv) (s : GLStack) : IOReturn × GLStack :=
  if s.translator.state.inBeginEnd = false then (.error, s)
  else (s.withState fun t => { t with inBeginEnd := false }).flushVertexBatch es

/-- `glVertex4f`; a full batch is flushed first, whatever comes of it. -/
def glVertex4f (es : FlushStage → GLEnv) (s : GLStack) (v : Vec4) : IOReturn × GLStack :=
  if s.translator.state.inBeginEnd = false then (.error, s) else
  let s₁ :=
    if s.vertices.length ≥ maxBatchVertices then
      (s.flushVertexBatch es).2.withState fun t => { t with vertices := [] }
    else s
  (.success, s₁.withState fun t =>
    { t with vertices := t.vertices ++ [⟨v, t.currentColor, t.currentTexcoord⟩] })

def glVertex3f (es : FlushStage → GLEnv) (s : GLStack) (x y z : Float32) : IOReturn × GLStack :=
  s.glVertex4f es ⟨x, y, z, 1⟩

def glVertex2f (es : FlushStage → GLEnv) (s : GLStack) (x y : Float32) : IOReturn × GLStack :=
  s.glVertex4f es ⟨x, y, 0, 1⟩

def glColor4f (s : GLStack) (color : Vec4) : IOReturn × GLStack :=
  (.success, s.withState fun t => { t with currentColor := color })

def glColor3f (s : GLStack) (r g b : Float32) : IOReturn × GLStack := s.glColor4f ⟨r, g, b, 1⟩

def glTexCoord3f (s : GLStack) (r q t : Float32) : IOReturn × GLStack :=
  (.success, s.withState fun u => { u with currentTexcoord := ⟨r, q, t, 1⟩ })

def glTexCoord2f (s : GLStack) (r q : Float32) : IOReturn × GLStack := s.glTexCoord3f r q 0

def setupRenderTarget (e : GLEnv) (s : GLStack) : IOReturn × GLStack :=
  if s.translator.accelerator = false then (.notReady, s)
  else if e.gpuDevice = false then (.notReady, s)
  else s.submitVirglCommand e .setFramebufferState framebufferCmd

/-- `initWithAccelerator`; `createDefaultShaders` sends nothing. -/
def initWithAccelerator (e e' : GLEnv) (s : GLStack) (accelerator : Bool) (contextId : Nat) :
    GLStack :=
  let s₁ : GLStack :=
    { s with
      translator := { s.translator with accelerator := accelerator, contextId := contextId } }
  ((s₁.setupRenderTarget e).2.glViewport e' 0 0 640 480).2

end GLStack
end VMQemuVGA
