import VMQemuVGA.Gpu.Watch
import VMQemuVGA.Lib.Machine
import VMQemuVGA.OpenGL.Translator

/-! # What the translator encodes

Every encoder writes one command and takes its length from the buffer it fills,
so a buffer decodes as long as that length fits its 16 bits. None of them writes
the object type into the header, which only the commands on objects miss. -/

namespace VMQemuVGA

/-! ## The encoders -/

namespace VirglCommand
variable {c : VirglCommand} {len : Nat} {payload : List Nat}

/-- Under a header that `VIRGL_SET_COMMAND` writes: the length has to fit, and
the command must not be one on an object. -/
theorem decodes_hdr_iff : c.Decodes (virglCmdHdr c.opcode len :: payload) ↔
    len % 65536 = payload.length ∧ c.handle? = none ∧ c.objectType = 0 := by
  have hop := c.opcode_lt
  have hhdr : virglCmdHdr c.opcode len = len % 65536 * 65536 + (0 * 256 + c.opcode) := by
    rw [virglCmdHdr_eq (by omega), Nat.zero_mul, Nat.zero_add]
  have hlen : CommandStream.lengthOf (virglCmdHdr c.opcode len) = len % 65536 := by
    rw [hhdr]
    exact CommandStream.lengthOf_fields hop (by decide) (Nat.mod_lt _ (by decide))
  have hkind : CommandStream.kindOf (virglCmdHdr c.opcode len) = 0 := by
    rw [hhdr]
    exact CommandStream.kindOf_fields hop (by decide)
  have hopcode : CommandStream.opcodeOf (virglCmdHdr c.opcode len) = c.opcode := by
    rw [hhdr]
    exact CommandStream.opcodeOf_fields hop
  constructor
  · rintro ⟨p, hdec, -, hk, hobj⟩
    obtain ⟨header, rest, heq, hl, rfl⟩ := CommandStream.decode_eq_singleton_iff.mp hdec
    obtain ⟨rfl, rfl⟩ := List.cons.inj heq
    have hzero : c.objectType = 0 := hk.symm.trans hkind
    refine ⟨hlen.symm.trans hl, ?_, hzero⟩
    -- a command with a handle would need a type that is not zero
    by_contra hne
    exact (hobj (Option.isSome_iff_ne_none.mpr hne)).1 hzero
  · rintro ⟨hl, hnone, hzero⟩
    refine ⟨⟨_, _, payload⟩, CommandStream.decode_eq_singleton_iff.mpr
      ⟨_, payload, rfl, hlen.trans hl, rfl⟩, hopcode, hkind.trans hzero.symm, ?_⟩
    intro hsome
    simp only [hnone, Option.isSome_none, Bool.false_eq_true] at hsome

end VirglCommand

theorem clearCmd_decodes (s : VMGLState) (mask : Nat) :
    VirglCommand.clear.Decodes (s.clearCmd mask) :=
  VirglCommand.decodes_hdr_iff.mpr ⟨rfl, rfl, rfl⟩

theorem viewportCmd_decodes (s : VMGLState) :
    VirglCommand.setViewportState.Decodes s.viewportCmd :=
  VirglCommand.decodes_hdr_iff.mpr ⟨rfl, rfl, rfl⟩

theorem framebufferCmd_decodes : VirglCommand.setFramebufferState.Decodes framebufferCmd :=
  VirglCommand.decodes_hdr_iff.mpr ⟨rfl, rfl, rfl⟩

/-- The length of an inline write is cut off from 65536 words on. -/
theorem inlineWriteCmd_decodes_iff {handle offset : Nat} {data : List Nat} :
    VirglCommand.resourceInlineWrite.Decodes (inlineWriteCmd handle data offset) ↔
      data.length + 11 < 65536 := by
  unfold inlineWriteCmd
  rw [VirglCommand.decodes_hdr_iff]
  simp only [VirglCommand.handle?, VirglCommand.objectType, VirglObject.code, and_self, and_true,
    virglInlineWriteHdrSize, List.length_append, List.length_cons, List.length_nil]
  omega

/-- The header says `VIRGL_OBJECT_NULL`, whatever the object. -/
theorem not_createObject_decodes (handle : Nat) :
    ¬ (VirglCommand.createObject .vertexElements handle).Decodes (vertexElementsCmd handle) := by
  intro h
  have hnone := (VirglCommand.decodes_hdr_iff.mp h).2.1
  cases hnone

/-! ## What a submission passes on -/

namespace GLStack
variable {e : GLEnv} {s : GLStack} {c : VirglCommand} {cmd : List Nat}

/-- Every buffer passed to `executeCommands` is the command it is meant to be. -/
def WellPassed (s : GLStack) : Prop := ∀ p ∈ s.translator.passed, p.1.Decodes p.2

/-- `submitVirglCommand` gets as far as `executeCommands`. -/
structure Passes (s : GLStack) (e : GLEnv) : Prop where
  accelerator : s.translator.accelerator = true
  gpuDevice : e.gpuDevice = true
  commandBytes : e.alloc .commandBytes = true

theorem submit_of_passes (h : s.Passes e) :
    s.submitVirglCommand e c cmd =
      ((s.gpu.executeCommands e.toEnv s.translator.contextId (some (cmd.length * 4))).1,
        ⟨{ s.translator with passed := s.translator.passed ++ [(c, cmd)] },
          (s.gpu.executeCommands e.toEnv s.translator.contextId (some (cmd.length * 4))).2⟩) := by
  unfold submitVirglCommand
  rw [h.accelerator, h.gpuDevice, h.commandBytes]
  rfl

theorem submit_of_not_passes (c : VirglCommand) (cmd : List Nat) (h : ¬ s.Passes e) :
    ∃ ret, ret ≠ IOReturn.success ∧ s.submitVirglCommand e c cmd = (ret, s) := by
  unfold submitVirglCommand
  split
  · exact ⟨_, by decide, rfl⟩
  next haccel =>
    split
    · exact ⟨_, by decide, rfl⟩
    next hgpu =>
      split
      · exact ⟨_, by decide, rfl⟩
      next hbytes =>
        simp only [Bool.not_eq_false] at haccel hgpu hbytes
        exact absurd ⟨haccel, hgpu, hbytes⟩ h

theorem wellPassed_submit_iff :
    (s.submitVirglCommand e c cmd).2.WellPassed ↔
      s.WellPassed ∧ (s.Passes e → c.Decodes cmd) := by
  by_cases h : s.Passes e
  · rw [submit_of_passes h]
    unfold WellPassed
    simp only [List.mem_append, List.mem_singleton, or_imp, forall_and, forall_eq, h, true_imp_iff]
  · obtain ⟨ret, -, heq⟩ := submit_of_not_passes (s := s) (e := e) c _ h
    rw [heq]
    simp only [h, false_imp_iff, and_true]

theorem WellPassed.submit (hs : s.WellPassed) (hc : c.Decodes cmd) :
    (s.submitVirglCommand e c cmd).2.WellPassed :=
  wellPassed_submit_iff.mpr ⟨hs, fun _ => hc⟩

/-- A state with the same record is as good. -/
theorem wellPassed_congr {t : GLStack} (h : t.translator.passed = s.translator.passed) :
    t.WellPassed ↔ s.WellPassed := by
  unfold WellPassed
  rw [h]

end GLStack

/-! ## When a flush gets how far -/

namespace GLStack
variable {e : GLEnv} {es : FlushStage → GLEnv} {s : GLStack} {vbo elements : Nat}

theorem passes_congr {t : GLStack} (h : t.translator.accelerator = s.translator.accelerator) :
    t.Passes e ↔ s.Passes e :=
  ⟨fun x => ⟨h ▸ x.accelerator, x.gpuDevice, x.commandBytes⟩,
    fun x => ⟨h ▸ x.accelerator, x.gpuDevice, x.commandBytes⟩⟩

theorem submit_fst_eq_success_iff {c : VirglCommand} {cmd : List Nat} :
    (s.submitVirglCommand e c cmd).1 = .success ↔
      s.Passes e ∧ s.gpu.Executes e.toEnv s.translator.contextId (cmd.length * 4) := by
  by_cases h : s.Passes e
  · rw [submit_of_passes h]
    exact Gpu.executeCommands_fst_eq_success_iff.trans (and_iff_right h).symm
  · obtain ⟨ret, hne, heq⟩ := submit_of_not_passes c cmd h
    rw [heq]
    exact iff_of_false hne fun x => h x.1

theorem accelerator_submit (e : GLEnv) (s : GLStack) (c : VirglCommand) (cmd : List Nat) :
    (s.submitVirglCommand e c cmd).2.translator.accelerator = s.translator.accelerator := by
  by_cases h : s.Passes e
  · rw [submit_of_passes h]
  · obtain ⟨ret, -, heq⟩ := submit_of_not_passes c cmd h
    rw [heq]

/-- What went wrong before the last submissions stays wrong. -/
theorem wellPassed_of_drawBatch (h : (s.drawBatch es vbo elements).2.WellPassed) :
    s.WellPassed := by
  unfold drawBatch at h
  have h₂ := (wellPassed_submit_iff.mp h).1
  have h₁ := (wellPassed_submit_iff.mp h₂).1
  exact (wellPassed_submit_iff.mp h₁).1

/-- The vertex elements go wrong wherever they are passed on. -/
theorem wellPassed_drawUploaded_iff :
    (s.drawUploaded es vbo).2.WellPassed ↔ s.WellPassed ∧ ¬ s.Passes (es .createElements) := by
  have hpasses : s.allocateHandle.2.allocateHandle.2.Passes (es .createElements) ↔
      s.Passes (es .createElements) := passes_congr rfl
  have hcreate : (s.allocateHandle.2.createVertexElements (es .createElements)).2.2.WellPassed ↔
      s.WellPassed ∧ ¬ s.Passes (es .createElements) := by
    refine Iff.trans wellPassed_submit_iff (and_congr (wellPassed_congr rfl) ?_)
    refine Iff.trans (imp_congr hpasses (iff_false_intro (not_createObject_decodes _))) ?_
    rfl
  rw [← hcreate]
  unfold drawUploaded
  dsimp only
  split
  · rfl
  next hret =>
    -- where the elements were accepted they had been passed on
    have hfst := not_not.mp hret
    have hpassed := hpasses.mp (submit_fst_eq_success_iff.mp hfst).1
    refine iff_of_false (fun h => ?_) fun h => (hcreate.mp h).2 hpassed
    exact (hcreate.mp (wellPassed_of_drawBatch h)).2 hpassed

/-- The inline write of the batch gets to `executeCommands` in `s`. -/
structure Writes (s : GLStack) (e : GLEnv) : Prop where
  command : e.alloc .inlineWrite = true
  passes : s.Passes e

theorem upload_of_writes {handle offset : Nat} {data : List Nat} (h : s.Writes e) :
    s.uploadBufferData e handle data offset =
      s.submitVirglCommand e .resourceInlineWrite (inlineWriteCmd handle data offset) := by
  unfold uploadBufferData
  rw [h.passes.accelerator, h.command]
  rfl

theorem upload_of_not_writes (handle offset : Nat) (data : List Nat) (h : ¬ s.Writes e) :
    ∃ ret, ret ≠ IOReturn.success ∧ s.uploadBufferData e handle data offset = (ret, s) := by
  unfold uploadBufferData
  split
  · exact ⟨_, by decide, rfl⟩
  split
  · exact ⟨_, by decide, rfl⟩
  next hcmd =>
    apply submit_of_not_passes
    exact fun hp => h ⟨by simpa using hcmd, hp⟩

theorem length_inlineWriteCmd (handle offset : Nat) (data : List Nat) :
    (inlineWriteCmd handle data offset).length = data.length + 12 := by
  simp [inlineWriteCmd]

theorem length_vertexWords (vs : List Vertex) :
    (vs.flatMap Vertex.words).length = 12 * vs.length := by
  induction vs with
  | nil => rfl
  | cons v vs ih =>
      rw [List.flatMap_cons, List.length_append, ih, Vertex.length_words, List.length_cons]
      omega

/-- How large a batch is on its way to the host, in bytes. -/
def uploadSize (s : GLStack) : Nat := (12 * s.vertices.length + 12) * 4

/-- What is left of a flush once it has its buffer: a batch whose inline write is
passed on is small enough, and the vertex elements behind it are not passed on. -/
def UploadOk (s : GLStack) (es : FlushStage → GLEnv) : Prop :=
  s.Writes (es .upload) → s.vertices.length ≤ 5460 ∧
    ¬ (s.gpu.Executes (es .upload).toEnv s.translator.contextId s.uploadSize ∧
      s.Passes (es .createElements))

theorem uploadOk_congr {t : GLStack} (ha : t.translator.accelerator = s.translator.accelerator)
    (hc : t.translator.contextId = s.translator.contextId) (hv : t.vertices = s.vertices)
    (h3D : t.gpu.supports3D = s.gpu.supports3D) : t.UploadOk es ↔ s.UploadOk es := by
  have hwrites : t.Writes (es .upload) ↔ s.Writes (es .upload) :=
    ⟨fun h => ⟨h.command, (passes_congr ha).mp h.passes⟩,
      fun h => ⟨h.command, (passes_congr ha).mpr h.passes⟩⟩
  unfold UploadOk uploadSize
  rw [hwrites, hc, hv, Gpu.executes_congr h3D, passes_congr ha]

theorem wellPassed_uploadAndDraw_iff :
    (s.uploadAndDraw es vbo).2.WellPassed ↔ s.WellPassed ∧ s.UploadOk es := by
  unfold uploadAndDraw UploadOk
  by_cases hw : s.Writes (es .upload)
  · rw [upload_of_writes hw]
    simp only [hw, true_imp_iff]
    generalize hcmd : inlineWriteCmd vbo (s.vertices.flatMap Vertex.words) 0 = cmd
    have hlen : cmd.length * 4 = s.uploadSize := by
      rw [← hcmd, length_inlineWriteCmd, length_vertexWords]
      rfl
    have hdec : VirglCommand.resourceInlineWrite.Decodes cmd ↔ s.vertices.length ≤ 5460 := by
      rw [← hcmd, inlineWriteCmd_decodes_iff, length_vertexWords]
      omega
    have hwrite : (s.submitVirglCommand (es .upload) .resourceInlineWrite cmd).2.WellPassed ↔
        s.WellPassed ∧ s.vertices.length ≤ 5460 := by
      rw [wellPassed_submit_iff, hdec]
      simp only [hw.passes, true_imp_iff]
    have hfst : (s.submitVirglCommand (es .upload) .resourceInlineWrite cmd).1 = .success ↔
        s.gpu.Executes (es .upload).toEnv s.translator.contextId s.uploadSize := by
      rw [submit_fst_eq_success_iff, hlen]
      exact and_iff_right hw.passes
    by_cases hret : (s.submitVirglCommand (es .upload) .resourceInlineWrite cmd).1 = .success
    · rw [if_neg (not_not.mpr hret), wellPassed_drawUploaded_iff, hwrite,
        passes_congr (accelerator_submit ..)]
      simp only [hfst.mp hret, true_and, and_assoc]
    · rw [if_pos hret, hwrite]
      simp only [mt hfst.mpr hret, false_and, not_false_eq_true, and_true]
  · obtain ⟨ret, hret, heq⟩ := upload_of_not_writes vbo 0
      (s.vertices.flatMap Vertex.words) hw
    rw [heq]
    dsimp only
    rw [if_pos hret]
    simp only [hw, false_imp_iff, and_true]

theorem createVirglBuffer_frame (e : GLEnv) (s : GLStack) (size bind handle : Nat) :
    ∃ v n p r l, (s.createVirglBuffer e size bind handle).2 =
      ⟨{ s.translator with vertexBuffers := v, inUse := n },
        { s.gpu with pool := p, resourceCount := r, link := l }⟩ := by
  unfold createVirglBuffer
  split
  · exact ⟨_, _, _, _, _, rfl⟩
  split
  · exact ⟨_, _, _, _, _, rfl⟩
  · obtain ⟨p, r, l, h⟩ := s.gpu.createResource3D_frame e.toEnv handle virglTargetBuffer
      virglFormatR8G8B8A8Unorm bind size 1 1
    dsimp only
    rw [h]
    exact ⟨_, _, _, _, _, rfl⟩

theorem createVirglBuffer_fst_eq_success_iff (size bind handle : Nat)
    (ha : s.translator.accelerator = true) :
    (s.createVirglBuffer e size bind handle).1 = .success ↔
      e.gpuDevice = true ∧ s.gpu.Creates3D e.toEnv handle virglTargetBuffer
        virglFormatR8G8B8A8Unorm bind size 1 1 := by
  unfold createVirglBuffer
  rw [ha, if_neg (by decide)]
  split
  next hno => exact iff_of_false (fun h => by cases h) fun h => by rw [h.1] at hno; cases hno
  next hgpu =>
    refine Iff.trans ?_ (and_iff_right (by simpa using hgpu)).symm
    exact Gpu.createResource3D_fst_eq_success_iff

/-- A flush in `s` gets its vertex buffer. -/
structure GetsBuffer (s : GLStack) (es : FlushStage → GLEnv) : Prop where
  batch : s.vertices.length ≠ 0
  accelerator : s.translator.accelerator = true
  gpuDevice : (es .createBuffer).gpuDevice = true
  created : s.gpu.Creates3D (es .createBuffer).toEnv s.translator.nextHandle virglTargetBuffer
    virglFormatR8G8B8A8Unorm virglBindVertexBuffer (s.vertices.length * 12 * 4) 1 1

/-- What a flush needs. -/
def FlushOk (s : GLStack) (es : FlushStage → GLEnv) : Prop := s.GetsBuffer es → s.UploadOk es

theorem wellPassed_flush_iff :
    (s.flushVertexBatch es).2.WellPassed ↔ s.WellPassed ∧ s.FlushOk es := by
  unfold flushVertexBatch
  by_cases hn : s.vertices.length = 0
  · rw [if_pos hn]
    exact (and_iff_left fun h : s.GetsBuffer es => absurd hn h.batch).symm
  by_cases ha : s.translator.accelerator = false
  · rw [if_neg hn, if_pos ha]
    refine (and_iff_left fun h : s.GetsBuffer es => ?_).symm
    rw [h.accelerator] at ha
    cases ha
  have haccel : s.translator.accelerator = true := by simpa using ha
  rw [if_neg hn, if_neg ha]
  dsimp only [allocateHandle]
  -- the buffer is made in the state in which its handle has been drawn
  generalize hs₁ : ({ s with translator :=
    { s.translator with nextHandle := inc32 s.translator.nextHandle } } : GLStack) = s₁
  have haccel₁ : s₁.translator.accelerator = true := by
    rw [← hs₁]
    exact haccel
  have hcreated := createVirglBuffer_fst_eq_success_iff (e := es .createBuffer)
    (s.vertices.length * 12 * 4) virglBindVertexBuffer s.translator.nextHandle haccel₁
  obtain ⟨v, n, p, r, l, hframe⟩ := createVirglBuffer_frame (es .createBuffer) s₁
    (s.vertices.length * 12 * 4) virglBindVertexBuffer s.translator.nextHandle
  by_cases hret : (s₁.createVirglBuffer (es .createBuffer) (s.vertices.length * 12 * 4)
      virglBindVertexBuffer s.translator.nextHandle).1 = .success
  · obtain ⟨hgpu, hmade⟩ := hcreated.mp hret
    rw [if_neg (not_not.mpr hret), wellPassed_uploadAndDraw_iff, hframe]
    subst hs₁
    refine and_congr (wellPassed_congr rfl) (Iff.trans (uploadOk_congr (s := s) rfl rfl rfl rfl) ?_)
    have hgets : s.GetsBuffer es := ⟨hn, haccel, hgpu, hmade⟩
    exact (imp_iff_right hgets).symm
  · rw [if_pos hret, hframe]
    subst hs₁
    refine Iff.trans (wellPassed_congr rfl) (and_iff_left fun h : s.GetsBuffer es => ?_).symm
    exact absurd (hcreated.mpr ⟨h.gpuDevice, h.created⟩) hret

end GLStack

/-! ## Runs -/

/-- The calls on a translator. Between two of them anything may have happened to
the device. -/
inductive GLCall where
  | initWithAccelerator (accelerator : Bool) (contextId : Nat) (e e' : GLEnv)
  | setupRenderTarget (e : GLEnv)
  | glClear (mask : Nat) (e : GLEnv)
  | glClearColor (color : Vec4)
  | glClearDepth (depth : Float)
  | glViewport (x y width height : Int) (e : GLEnv)
  | glBegin (mode : Nat)
  | glEnd (es : FlushStage → GLEnv)
  | glVertex2f (x y : Float32) (es : FlushStage → GLEnv)
  | glVertex3f (x y z : Float32) (es : FlushStage → GLEnv)
  | glVertex4f (v : Vec4) (es : FlushStage → GLEnv)
  | glColor3f (r g b : Float32)
  | glColor4f (color : Vec4)
  | glTexCoord2f (r q : Float32)
  | glTexCoord3f (r q t : Float32)
  | deviceChanges (gpu : Gpu)

namespace GLStack
variable {s : GLStack}

def callStep (s : GLStack) : GLCall → Option GLStack
  | .initWithAccelerator accelerator contextId e e' =>
      some (s.initWithAccelerator e e' accelerator contextId)
  | .setupRenderTarget e => some (s.setupRenderTarget e).2
  | .glClear mask e => some (s.glClear e mask).2
  | .glClearColor color => some (s.glClearColor color).2
  | .glClearDepth depth => some (s.glClearDepth depth).2
  | .glViewport x y width height e => some (s.glViewport e x y width height).2
  | .glBegin mode => some (s.glBegin mode).2
  | .glEnd es => some (s.glEnd es).2
  | .glVertex2f x y es => some (s.glVertex2f es x y).2
  | .glVertex3f x y z es => some (s.glVertex3f es x y z).2
  | .glVertex4f v es => some (s.glVertex4f es v).2
  | .glColor3f r g b => some (s.glColor3f r g b).2
  | .glColor4f color => some (s.glColor4f color).2
  | .glTexCoord2f r q => some (s.glTexCoord2f r q).2
  | .glTexCoord3f r q t => some (s.glTexCoord3f r q t).2
  | .deviceChanges gpu => some { s with gpu }

/-- A new translator, in front of a device in any state. -/
def callMachine (g : Gpu) : Machine GLStack GLCall where
  init := ⟨.init, g⟩
  step := callStep

/-- The two places that flush: `glEnd`, and a vertex that finds the batch full. -/
def CallOk (s : GLStack) : GLCall → Prop
  | .glEnd es => s.translator.state.inBeginEnd = true → s.FlushOk es
  | .glVertex2f _ _ es | .glVertex3f _ _ _ es | .glVertex4f _ es =>
      s.translator.state.inBeginEnd = true → s.vertices.length ≥ maxBatchVertices → s.FlushOk es
  | _ => True

/-! ### The single calls -/

theorem WellPassed.glClear {e : GLEnv} {mask : Nat} (hs : s.WellPassed) :
    (s.glClear e mask).2.WellPassed := by
  unfold GLStack.glClear
  split
  · exact hs
  · exact hs.submit (clearCmd_decodes _ mask)

theorem WellPassed.glViewport {e : GLEnv} {x y width height : Int} (hs : s.WellPassed) :
    (s.glViewport e x y width height).2.WellPassed := by
  unfold GLStack.glViewport updateViewport
  split
  · exact (wellPassed_congr rfl).mpr hs
  · exact WellPassed.submit ((wellPassed_congr rfl).mpr hs) (viewportCmd_decodes _)

theorem WellPassed.setupRenderTarget {e : GLEnv} (hs : s.WellPassed) :
    (s.setupRenderTarget e).2.WellPassed := by
  unfold GLStack.setupRenderTarget
  split
  · exact hs
  split
  · exact hs
  · exact hs.submit framebufferCmd_decodes

theorem WellPassed.glBegin {mode : Nat} (hs : s.WellPassed) : (s.glBegin mode).2.WellPassed := by
  unfold GLStack.glBegin
  split
  · exact hs
  · exact (wellPassed_congr rfl).mpr hs

theorem wellPassed_glEnd_iff {es : FlushStage → GLEnv} (hs : s.WellPassed) :
    (s.glEnd es).2.WellPassed ↔ s.CallOk (.glEnd es) := by
  unfold GLStack.glEnd CallOk
  by_cases hin : s.translator.state.inBeginEnd = false
  · rw [if_pos hin]
    refine iff_of_true hs fun h => ?_
    rw [hin] at h
    cases h
  · rw [if_neg hin, wellPassed_flush_iff]
    have hin' : s.translator.state.inBeginEnd = true := by simpa using hin
    simp only [hin', true_imp_iff]
    refine Iff.trans (and_iff_right ((wellPassed_congr rfl).mpr hs)) ?_
    -- leaving the primitive changes nothing a flush looks at
    exact imp_congr ⟨fun h => ⟨h.1, h.2, h.3, h.4⟩, fun h => ⟨h.1, h.2, h.3, h.4⟩⟩
      (uploadOk_congr rfl rfl rfl rfl)

theorem wellPassed_glVertex4f_iff {es : FlushStage → GLEnv} {v : Vec4} (hs : s.WellPassed) :
    (s.glVertex4f es v).2.WellPassed ↔ s.CallOk (.glVertex4f v es) := by
  unfold GLStack.glVertex4f CallOk
  by_cases hin : s.translator.state.inBeginEnd = false
  · rw [if_pos hin]
    refine iff_of_true hs fun h => ?_
    rw [hin] at h
    cases h
  · have hin' : s.translator.state.inBeginEnd = true := by simpa using hin
    rw [if_neg hin]
    simp only [hin', true_imp_iff]
    refine Iff.trans (wellPassed_congr rfl) ?_
    by_cases hfull : s.vertices.length ≥ maxBatchVertices
    · rw [if_pos hfull]
      refine Iff.trans (Iff.trans (wellPassed_congr rfl) wellPassed_flush_iff) ?_
      exact (and_iff_right hs).trans (imp_iff_right hfull).symm
    · rw [if_neg hfull]
      exact iff_of_true hs fun h => absurd h hfull

/-! ### The result -/

theorem wellPassed_step_iff {call : GLCall} {t : GLStack} (hs : s.WellPassed)
    (h : s.callStep call = some t) : t.WellPassed ↔ s.CallOk call := by
  cases call
  case glEnd es =>
    cases h
    exact wellPassed_glEnd_iff hs
  case glVertex2f x y es =>
    cases h
    exact wellPassed_glVertex4f_iff hs
  case glVertex3f x y z es =>
    cases h
    exact wellPassed_glVertex4f_iff hs
  case glVertex4f v es =>
    cases h
    exact wellPassed_glVertex4f_iff hs
  all_goals
    cases h
    refine iff_of_true ?_ trivial
  case initWithAccelerator accelerator contextId e e' =>
    exact WellPassed.glViewport (WellPassed.setupRenderTarget ((wellPassed_congr rfl).mpr hs))
  case setupRenderTarget e => exact hs.setupRenderTarget
  case glClear mask e => exact hs.glClear
  case glViewport x y width height e => exact hs.glViewport
  case glBegin mode => exact hs.glBegin
  -- the calls that only change what later calls send
  all_goals exact (wellPassed_congr rfl).mpr hs

/-- **Well-formed buffers, exactly.** Every buffer of a run is the command it is
meant to be if and only if every flush of the run keeps to `FlushOk`. -/
theorem always_wellPassed_iff (g : Gpu) (calls : List GLCall) :
    (callMachine g).Always WellPassed (callMachine g).init calls ↔
      (callMachine g).Along CallOk (callMachine g).init calls := by
  refine (callMachine g).always_iff_along (J := fun _ => True) (fun _ _ _ _ _ => trivial)
    (fun s call t _ hs h => wellPassed_step_iff hs h) trivial ?_
  intro p hp
  cases hp

/-- A translator on context 1 draws a single vertex. -/
def onePoint : List GLCall :=
  [.initWithAccelerator true 1 .accepting .accepting, .glBegin 0,
    .glVertex2f 0 0 fun _ => .accepting, .glEnd fun _ => .accepting]

/-- Its vertex elements go out under `VIRGL_OBJECT_NULL`. -/
theorem vertex_elements_without_type :
    ¬ (callMachine (.init true 1)).Always WellPassed (callMachine (.init true 1)).init
      onePoint := by
  intro h
  obtain ⟨t, ht, hp⟩ := Machine.Always.of_any _
    (p := fun s => s.translator.passed.any fun q =>
      decide (q.1 = .createObject .vertexElements 102) && decide (q.2 = vertexElementsCmd 102))
    h (by decide)
  obtain ⟨q, hq, heq⟩ := List.any_eq_true.mp hp
  obtain ⟨hc, hcmd⟩ := Bool.and_eq_true_iff.mp heq
  have hdec := ht q hq
  rw [of_decide_eq_true hc, of_decide_eq_true hcmd] at hdec
  exact not_createObject_decodes 102 hdec

end GLStack
end VMQemuVGA
