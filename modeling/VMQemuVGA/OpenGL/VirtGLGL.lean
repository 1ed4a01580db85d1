import VMQemuVGA.OpenGL.Flushes

/-! # The user-space library

`VirtGLGL` takes the same GL calls as the translator and submits its own clear command,
with a header packed by its own copy of `virgl_protocol.h`. The last section compares the
two over any sequence of calls. -/

namespace VMQemuVGA

/-! ## State -/

/-- The globals of `VirtGLGL.cpp`; `vertices` are the first `g_vertexCount` of them. -/
structure VirtGLGL where
  /-- `g_client` is set -/
  client : Bool
  contextId : Nat
  resourceId : Nat
  initialized : Bool
  primitiveMode : Nat
  inBeginEnd : Bool
  vertices : List Vec4
  currentColor : Vec4

/-- How the calls of the client turn out in `VirtGLGL_Initialize`. -/
structure InitEnv where
  connect : Bool
  createContext : Bool
  createResource : Bool
  attachResource : Bool
  deriving DecidableEq, Repr

/-- Every step of an initialization is accepted. -/
def InitEnv.accepts (e : InitEnv) : Bool :=
  e.connect && e.createContext && e.createResource && e.attachResource

/-- What `glClear` asks the client for. -/
inductive IOServiceCall where
  | submitCommands (words : List Nat)
  | setScanout (scanout resource x y width height : Nat)
  | flushResource (resource x y width height : Nat)
  deriving DecidableEq, Repr

namespace VirtGLGL

def maxVertices : Nat := 65536

def init : VirtGLGL where
  client := false
  contextId := 0
  resourceId := 0
  initialized := false
  primitiveMode := 0
  inBeginEnd := false
  vertices := []
  currentColor := ⟨1, 1, 1, 1⟩

/-! ## Calls -/

/-- `virgl_cmd_header_pack` of the library: the length starts at bit 8. -/
def cmdHeaderPack (cmd len : Nat) : Nat := (cmd &&& 0xFF) ||| ((len &&& 0xFFFFFF) <<< 8)

def initializeLibrary (e : InitEnv) (s : VirtGLGL) : Bool × VirtGLGL :=
  if s.initialized then (true, s)
  else if !e.connect then (false, { s with client := false })
  else if !e.createContext then (false, { s with client := false, contextId := 1 })
  else if !e.createResource then
    (false, { s with client := false, contextId := 1, resourceId := 2 })
  else if !e.attachResource then
    (false, { s with client := false, contextId := 1, resourceId := 2 })
  else (true, { s with client := true, contextId := 1, resourceId := 2, initialized := true })

def shutdown (s : VirtGLGL) : VirtGLGL :=
  if !s.initialized then s else { s with client := false, initialized := false }

/-- The mask of `glClear` in virgl's bits. -/
def clearMask (mask : Nat) : Nat :=
  (if mask &&& 0x4000 ≠ 0 then 4 else 0) ||| (if mask &&& 0x100 ≠ 0 then 1 else 0) |||
    (if mask &&& 0x400 ≠ 0 then 2 else 0)

def clearCmd (s : VirtGLGL) (mask : Nat) : List Nat :=
  [cmdHeaderPack 7 7,
    clearMask mask,
    virglPackFloat s.currentColor.x,
    virglPackFloat s.currentColor.y,
    virglPackFloat s.currentColor.z,
    virglPackFloat s.currentColor.w,
    virglPackFloat 1, -- depth
    0] -- stencil

def glClear (e : InitEnv) (s : VirtGLGL) (mask : Nat) : List IOServiceCall × VirtGLGL :=
  let s := (s.initializeLibrary e).2
  if !s.client then ([], s)
  else
    (.submitCommands (s.clearCmd mask) ::
      if 0 < s.resourceId then
        [.setScanout 0 s.resourceId 0 0 800 600, .flushResource s.resourceId 0 0 800 600]
      else [], s)

def glClearColor (s : VirtGLGL) (color : Vec4) : VirtGLGL := { s with currentColor := color }

def glBegin (s : VirtGLGL) (mode : Nat) : VirtGLGL :=
  if s.inBeginEnd then s else { s with primitiveMode := mode, vertices := [], inBeginEnd := true }

def glEnd (s : VirtGLGL) : VirtGLGL :=
  if !s.inBeginEnd then s else { s with inBeginEnd := false, vertices := [] }

def glVertex3f (s : VirtGLGL) (x y z : Float32) : VirtGLGL :=
  if !s.inBeginEnd then s
  else if maxVertices ≤ s.vertices.length then s
  else { s with vertices := s.vertices ++ [⟨x, y, z, 1⟩] }

def glVertex2f (s : VirtGLGL) (x y : Float32) : VirtGLGL := s.glVertex3f x y 0

def glColor4f (s : VirtGLGL) (color : Vec4) : VirtGLGL := { s with currentColor := color }

def glColor3f (s : VirtGLGL) (r g b : Float32) : VirtGLGL := s.glColor4f ⟨r, g, b, 1⟩

end VirtGLGL

/-! ## Sequences of calls -/

/-- The calls both sides have, and the two that only the library has. The surroundings
of `glClear` are those of the library. -/
inductive LibraryCall where
  | initializeLibrary (e : InitEnv)
  | shutdown
  | glClear (mask : Nat) (e : InitEnv)
  | glClearColor (color : Vec4)
  | glBegin (mode : Nat)
  | glVertex2f (x y : Float32)
  | glVertex3f (x y z : Float32)
  | glEnd
  | glColor3f (r g b : Float32)
  | glColor4f (color : Vec4)

def VirtGLGL.call (s : VirtGLGL) : LibraryCall → VirtGLGL
  | .initializeLibrary e => (s.initializeLibrary e).2
  | .shutdown => s.shutdown
  | .glClear mask e => (s.glClear e mask).2
  | .glClearColor color => s.glClearColor color
  | .glBegin mode => s.glBegin mode
  | .glVertex2f x y => s.glVertex2f x y
  | .glVertex3f x y z => s.glVertex3f x y z
  | .glEnd => s.glEnd
  | .glColor3f r g b => s.glColor3f r g b
  | .glColor4f color => s.glColor4f color

/-- The same call on the translator, where the device may answer as it likes. -/
def LibraryCall.translate (es : FlushStage → GLEnv) : LibraryCall → Option GLCall
  | .initializeLibrary _ | .shutdown => none
  | .glClear mask _ => some (.glClear mask (es .draw))
  | .glClearColor color => some (.glClearColor color)
  | .glBegin mode => some (.glBegin mode)
  | .glVertex2f x y => some (.glVertex2f x y es)
  | .glVertex3f x y z => some (.glVertex3f x y z es)
  | .glEnd => some (.glEnd es)
  | .glColor3f r g b => some (.glColor3f r g b)
  | .glColor4f color => some (.glColor4f color)

/-- A call, and how the device answers the translator meanwhile. -/
abbrev SharedCall := LibraryCall × (FlushStage → GLEnv)

def VirtGLGL.after (s : VirtGLGL) (calls : List SharedCall) : VirtGLGL :=
  calls.foldl (fun s call => s.call call.1) s

def GLStack.after (s : GLStack) (calls : List SharedCall) : GLStack :=
  calls.foldl
    (fun s call => ((call.1.translate call.2).bind fun c => s.callStep c).getD s) s

/-- The color `glClearColor` set last. -/
def lastClearColor (color : Vec4) : List SharedCall → Vec4
  | [] => color
  | (.glClearColor color', _) :: calls => lastClearColor color' calls
  | _ :: calls => lastClearColor color calls

/-! ## Specification -/

/-- A clear of the buffers in the mask, with a color, depth 1.0 as a double, and
stencil 0. -/
def clearPacket (mask : Nat) (color : Vec4) : CommandStream.Packet where
  opcode := VirglCommand.clear.opcode
  kind := 0
  payload :=
    clearBuffers mask :: (color.words ++
      [(virglPackDouble (1 : Float32).toFloat).1, (virglPackDouble (1 : Float32).toFloat).2, 0])

/-- Whatever the library's `glClear` submits is one command, the one the translator
passes on for the same calls, with the color set last by `glClearColor`. -/
def LibraryAgrees (t : GLStack) (calls : List SharedCall) (mask : Nat) (e : InitEnv) : Prop :=
  ∀ words, .submitCommands words ∈ ((VirtGLGL.init.after calls).glClear e mask).1 →
    CommandStream.decode words = some [clearPacket mask (lastClearColor ⟨0, 0, 0, 1⟩ calls)] ∧
      CommandStream.decode words =
        CommandStream.decode ((t.after calls).translator.state.clearCmd mask)

/-! ## What the translator passes on -/

namespace GLStack
variable {s t : GLStack}

/-- The state `glClear` reads is still at its defaults, but for the color. -/
structure ClearsWith (s : GLStack) (color : Vec4) : Prop where
  color_eq : s.translator.state.clearColor = color
  depth_eq : s.translator.state.clearDepth = 1
  stencil_eq : s.translator.state.clearStencil = 0

theorem ClearsWith.congr {color : Vec4} (h : s.ClearsWith color)
    (hc : t.translator.state.clearColor = s.translator.state.clearColor)
    (hd : t.translator.state.clearDepth = s.translator.state.clearDepth)
    (hs : t.translator.state.clearStencil = s.translator.state.clearStencil) :
    t.ClearsWith color :=
  ⟨hc.trans h.1, hd.trans h.2, hs.trans h.3⟩

theorem ClearsWith.state {color : Vec4} (h : s.ClearsWith color)
    (ht : t.translator.state = s.translator.state) : t.ClearsWith color :=
  h.congr (congrArg _ ht) (congrArg _ ht) (congrArg _ ht)

theorem ClearsWith.glVertex4f {color : Vec4} (h : s.ClearsWith color) (es : FlushStage → GLEnv)
    (v : Vec4) : (s.glVertex4f es v).2.ClearsWith color := by
  unfold GLStack.glVertex4f
  split
  · exact h
  · dsimp only
    split
    · have hflush := h.state (state_flush es s)
      exact ⟨hflush.1, hflush.2, hflush.3⟩
    · exact ⟨h.1, h.2, h.3⟩

theorem ClearsWith.glEnd {color : Vec4} (h : s.ClearsWith color) (es : FlushStage → GLEnv) :
    (s.glEnd es).2.ClearsWith color := by
  unfold GLStack.glEnd
  split
  · exact h
  · exact ClearsWith.state (s := s.withState fun t => { t with inBeginEnd := false })
      ⟨h.1, h.2, h.3⟩ (state_flush es _)

theorem ClearsWith.glBegin {color : Vec4} (h : s.ClearsWith color) (mode : Nat) :
    (s.glBegin mode).2.ClearsWith color := by
  unfold GLStack.glBegin
  split
  · exact h
  · exact ⟨h.1, h.2, h.3⟩

theorem ClearsWith.glClear {color : Vec4} (h : s.ClearsWith color) (e : GLEnv) (mask : Nat) :
    (s.glClear e mask).2.ClearsWith color := by
  unfold GLStack.glClear
  split
  · exact h
  · exact h.state (state_submit ..)

theorem ClearsWith.after {color : Vec4} (h : s.ClearsWith color) (calls : List SharedCall) :
    (s.after calls).ClearsWith (lastClearColor color calls) := by
  induction calls generalizing s color with
  | nil => exact h
  | cons call calls ih =>
      obtain ⟨call, es⟩ := call
      cases call with
      | initializeLibrary e => exact ih h
      | shutdown => exact ih h
      | glClear mask e => exact ih (h.glClear (es .draw) mask)
      | glClearColor color' => exact ih ⟨rfl, h.2, h.3⟩
      | glBegin mode => exact ih (h.glBegin mode)
      | glVertex2f x y => exact ih (h.glVertex4f es _)
      | glVertex3f x y z => exact ih (h.glVertex4f es _)
      | glEnd => exact ih (h.glEnd es)
      | glColor3f r g b => exact ih ⟨h.1, h.2, h.3⟩
      | glColor4f color' => exact ih ⟨h.1, h.2, h.3⟩

end GLStack

/-! ## What the library submits -/

namespace VirtGLGL
variable {s : VirtGLGL}

/-- The client is there exactly while the library is initialized. -/
def Connected (s : VirtGLGL) : Prop := s.client = s.initialized

theorem Connected.initializeLibrary (h : s.Connected) (e : InitEnv) :
    (s.initializeLibrary e).2.Connected ∧
      ((s.initializeLibrary e).2.initialized = true ↔
        s.initialized = true ∨ e.accepts = true) := by
  unfold Connected at h
  unfold VirtGLGL.initializeLibrary Connected InitEnv.accepts
  cases hinit : s.initialized with
  | true => exact ⟨h, iff_of_true hinit (Or.inl rfl)⟩
  | false =>
      obtain ⟨connect, createContext, createResource, attachResource⟩ := e
      cases connect <;> cases createContext <;> cases createResource <;> cases attachResource <;>
        simp

theorem Connected.call (h : s.Connected) (call : LibraryCall) : (s.call call).Connected := by
  cases call with
  | initializeLibrary e => exact (h.initializeLibrary e).1
  | shutdown =>
      rw [VirtGLGL.call, VirtGLGL.shutdown]
      split
      · exact h
      · rfl
  | glClear mask e =>
      have hinit := (h.initializeLibrary e).1
      rw [VirtGLGL.call, VirtGLGL.glClear]
      split
      · exact hinit
      · exact hinit
  | glClearColor color => exact h
  | glBegin mode =>
      rw [VirtGLGL.call, VirtGLGL.glBegin]
      split
      · exact h
      · exact h
  | glVertex2f x y =>
      rw [VirtGLGL.call, glVertex2f, glVertex3f]
      split_ifs
      · exact h
      · exact h
      · exact h
  | glVertex3f x y z =>
      rw [VirtGLGL.call, VirtGLGL.glVertex3f]
      split_ifs
      · exact h
      · exact h
      · exact h
  | glEnd =>
      rw [VirtGLGL.call, VirtGLGL.glEnd]
      split
      · exact h
      · exact h
  | glColor3f r g b => exact h
  | glColor4f color => exact h

theorem Connected.after (h : s.Connected) (calls : List SharedCall) :
    (s.after calls).Connected := by
  induction calls generalizing s with
  | nil => exact h
  | cons call calls ih => exact ih (h.call call.1)

/-- A `glClear` submits what it has built once it has a client. -/
theorem submitCommands_mem_glClear_iff (h : s.Connected) {e : InitEnv} {mask : Nat}
    {words : List Nat} : .submitCommands words ∈ (s.glClear e mask).1 ↔
      (s.initialized = true ∨ e.accepts = true) ∧
        words = (s.initializeLibrary e).2.clearCmd mask := by
  obtain ⟨hconnected, hinit⟩ := h.initializeLibrary e
  rw [← hinit, ← hconnected]
  unfold VirtGLGL.glClear
  dsimp only
  cases hclient : (s.initializeLibrary e).2.client with
  | false =>
      refine iff_of_false (fun hmem => ?_) (fun hsent => ?_)
      · cases hmem
      · cases hsent.1
  | true =>
      simp only [Bool.not_true, Bool.false_eq_true, if_false, true_and, List.mem_cons,
        IOServiceCall.submitCommands.injEq, or_iff_left_iff_imp]
      intro hmem
      split at hmem
      · simp only [List.mem_cons, reduceCtorEq, List.not_mem_nil, or_self] at hmem
      · cases hmem

/-- A length that starts at bit 8 ends up in the kind: the header announces nothing. -/
theorem decode_clearCmd_ne (mask : Nat) (p : CommandStream.Packet) :
    CommandStream.decode (s.clearCmd mask) ≠ some [p] := by
  intro h
  obtain ⟨header, rest, heq, hlen, -⟩ := CommandStream.decode_eq_singleton_iff.mp h
  cases heq
  cases hlen

/-! ## The color -/

end VirtGLGL

/-! ## The comparison -/

/-- **The library clears as the translator does exactly as long as it submits nothing:**
it is not initialized and cannot be. -/
theorem libraryAgrees_iff (g : Gpu) (e₀ e₁ : GLEnv) (accelerator : Bool) (contextId : Nat)
    (calls : List SharedCall) (mask : Nat) (e : InitEnv) :
    LibraryAgrees ((⟨.init, g⟩ : GLStack).initWithAccelerator e₀ e₁ accelerator contextId)
        calls mask e ↔
      (VirtGLGL.init.after calls).initialized = false ∧ e.accepts = false := by
  have hconnected : (VirtGLGL.init.after calls).Connected :=
    VirtGLGL.Connected.after (s := .init) rfl calls
  constructor
  · intro hagrees
    rw [← Bool.not_eq_true, ← Bool.not_eq_true, ← not_or]
    intro hsubmits
    have hsent : .submitCommands (((VirtGLGL.init.after calls).initializeLibrary e).2.clearCmd
        mask) ∈ ((VirtGLGL.init.after calls).glClear e mask).1 :=
      (VirtGLGL.submitCommands_mem_glClear_iff hconnected).mpr ⟨hsubmits, rfl⟩
    exact VirtGLGL.decode_clearCmd_ne mask _ (hagrees _ hsent).1
  · rintro ⟨hinit, he⟩ words hsent
    have hsubmits := ((VirtGLGL.submitCommands_mem_glClear_iff hconnected).mp hsent).1
    rw [hinit, he] at hsubmits
    simp only [Bool.false_eq_true, or_self] at hsubmits

/-- With a device that accepts everything, the first clear of the color buffer is no
clear command. -/
theorem first_clear_not_agrees :
    ¬ LibraryAgrees ((⟨.init, .init true 1⟩ : GLStack).initWithAccelerator .accepting .accepting
        true 1) [] 0x4000 ⟨true, true, true, true⟩ := by
  intro hagrees
  have hsent :
      .submitCommands
          ((VirtGLGL.init.initializeLibrary ⟨true, true, true, true⟩).2.clearCmd 0x4000) ∈
        (VirtGLGL.init.glClear ⟨true, true, true, true⟩ 0x4000).1 := List.mem_cons_self
  exact VirtGLGL.decode_clearCmd_ne _ _ (hagrees _ hsent).1

end VMQemuVGA
