import VMQemuVGA.OpenGL.Batches

/-! # The translator's calls are those of immediate mode

`Immediate` leaves a flush to the device and keeps what it comes to. Here it is
the translator's own flush: what it returns, whether all six of its submissions go
well, and which commands the device then has of it. Seen so, every call of the
translator is the call of `Immediate` of the same name, or none. -/

namespace VMQemuVGA

def Vec4.bits (v : Vec4) : Vec4Bits := ⟨v.x.toBits, v.y.toBits, v.z.toBits, v.w.toBits⟩

def Vertex.bits (v : Vertex) : VertexBits := ⟨v.position.bits, v.color.bits, v.texcoord.bits⟩

namespace GLStack
variable {s t : GLStack} {es : FlushStage → GLEnv} {vbo elements : Nat}

/-! ## Whole flushes -/

/-- The last three submissions, the results of the first two of which are not looked at. -/
def drawBatchWhole (es : FlushStage → GLEnv) (s : GLStack) (vbo elements : Nat) : Bool :=
  let (r₁, s₁) := s.submitVirglCommand (es .bind) (.bindObject .vertexElements elements)
    (bindElementsCmd elements)
  let (r₂, s₂) := s₁.submitVirglCommand (es .setBuffers) .setVertexBuffers (vertexBuffersCmd vbo)
  let (r₃, _) := s₂.submitVirglCommand (es .draw) .drawVbo s₂.translator.state.drawCmd
  r₁ = .success && r₂ = .success && r₃ = .success

def drawUploadedWhole (es : FlushStage → GLEnv) (s : GLStack) (vbo : Nat) : Bool :=
  let (_, s₁) := s.allocateHandle
  let (elements, ret, s₂) := s₁.createVertexElements (es .createElements)
  ret = .success && s₂.drawBatchWhole es vbo elements

def uploadAndDrawWhole (es : FlushStage → GLEnv) (s : GLStack) (vbo : Nat) : Bool :=
  let (ret, s₁) := s.uploadBufferData (es .upload) vbo (s.vertices.flatMap Vertex.words) 0
  ret = .success && s₁.drawUploadedWhole es vbo

/-- Every submission of the flush returns success. -/
def flushWhole (es : FlushStage → GLEnv) (s : GLStack) : Bool :=
  let (vbo, s₁) := s.allocateHandle
  let (ret, s₂) := s₁.createVirglBuffer (es .createBuffer) (s.vertices.length * 12 * 4)
    virglBindVertexBuffer vbo
  s.translator.accelerator && ret = .success && s₂.uploadAndDrawWhole es vbo

theorem drawBatch_of_whole (h : s.drawBatchWhole es vbo elements = true) :
    (s.drawBatch es vbo elements).1 = .success := by
  simp only [drawBatchWhole, Bool.and_eq_true, decide_eq_true_eq] at h
  exact h.2

theorem drawUploaded_of_whole (h : s.drawUploadedWhole es vbo = true) :
    (s.drawUploaded es vbo).1 = .success := by
  simp only [drawUploadedWhole, Bool.and_eq_true, decide_eq_true_eq] at h
  simp only [drawUploaded, h.1, ne_eq, not_true_eq_false, if_false]
  exact drawBatch_of_whole h.2

theorem uploadAndDraw_of_whole (h : s.uploadAndDrawWhole es vbo = true) :
    (s.uploadAndDraw es vbo).1 = .success := by
  simp only [uploadAndDrawWhole, Bool.and_eq_true, decide_eq_true_eq] at h
  simp only [uploadAndDraw, h.1, ne_eq, not_true_eq_false, if_false]
  exact drawUploaded_of_whole h.2

theorem flush_of_whole (h : s.flushWhole es = true) : (s.flushVertexBatch es).1 = .success := by
  simp only [flushWhole, Bool.and_eq_true, decide_eq_true_eq] at h
  obtain ⟨⟨haccel, hbuffer⟩, hrest⟩ := h
  unfold flushVertexBatch
  split
  · rfl
  · simp only [haccel, hbuffer, ne_eq, not_true_eq_false, if_false, Bool.true_eq_false]
    exact uploadAndDraw_of_whole hrest

/-- What becomes of a flush. -/
def flushOutcome (es : FlushStage → GLEnv) (s : GLStack) : FlushOutcome :=
  ⟨(s.flushVertexBatch es).1, s.flushWhole es, flush_of_whole⟩

/-! ## What a flush leaves alone -/

theorem state_submit (e : GLEnv) (s : GLStack) (c : VirglCommand) (cmd : List Nat) :
    (s.submitVirglCommand e c cmd).2.translator.state = s.translator.state := by
  by_cases h : s.Passes e
  · rw [submit_of_passes h]
  · obtain ⟨ret, -, heq⟩ := submit_of_not_passes c cmd h
    rw [heq]

theorem state_upload (e : GLEnv) (s : GLStack) (handle : Nat) (data : List Nat) (offset : Nat) :
    (s.uploadBufferData e handle data offset).2.translator.state = s.translator.state := by
  by_cases h : s.Writes e
  · rw [upload_of_writes h]
    exact state_submit ..
  · obtain ⟨ret, -, heq⟩ := upload_of_not_writes handle offset data h
    rw [heq]

theorem state_createVirglBuffer (e : GLEnv) (s : GLStack) (size bind handle : Nat) :
    (s.createVirglBuffer e size bind handle).2.translator.state = s.translator.state := by
  unfold createVirglBuffer
  split
  · rfl
  split <;> rfl

theorem state_drawBatch (es : FlushStage → GLEnv) (s : GLStack) (vbo elements : Nat) :
    (s.drawBatch es vbo elements).2.translator.state = s.translator.state :=
  ((state_submit ..).trans (state_submit ..)).trans (state_submit ..)

theorem state_drawUploaded (es : FlushStage → GLEnv) (s : GLStack) (vbo : Nat) :
    (s.drawUploaded es vbo).2.translator.state = s.translator.state := by
  unfold drawUploaded
  dsimp only
  split
  · exact state_submit ..
  · exact (state_drawBatch ..).trans (state_submit ..)

theorem state_uploadAndDraw (es : FlushStage → GLEnv) (s : GLStack) (vbo : Nat) :
    (s.uploadAndDraw es vbo).2.translator.state = s.translator.state := by
  unfold uploadAndDraw
  dsimp only
  split
  · exact state_upload ..
  · exact (state_drawUploaded ..).trans (state_upload ..)

/-- A flush leaves `VMGLState` as it is. -/
theorem state_flush (es : FlushStage → GLEnv) (s : GLStack) :
    (s.flushVertexBatch es).2.translator.state = s.translator.state := by
  unfold flushVertexBatch
  split
  · rfl
  split
  · rfl
  dsimp only
  split
  · exact state_createVirglBuffer ..
  · exact (state_uploadAndDraw ..).trans (state_createVirglBuffer ..)

/-! ## What the device has of a whole flush -/

theorem passed_of_success {e : GLEnv} {c : VirglCommand} {cmd : List Nat}
    (h : (s.submitVirglCommand e c cmd).1 = .success) :
    (s.submitVirglCommand e c cmd).2.translator.passed = s.translator.passed ++ [(c, cmd)] := by
  by_cases hp : s.Passes e
  · rw [submit_of_passes hp]
  · obtain ⟨ret, hne, heq⟩ := submit_of_not_passes c cmd hp
    rw [heq] at h
    exact absurd h hne

theorem passed_upload_of_success {e : GLEnv} {handle offset : Nat} {data : List Nat}
    (h : (s.uploadBufferData e handle data offset).1 = .success) :
    (s.uploadBufferData e handle data offset).2.translator.passed =
      s.translator.passed ++ [(.resourceInlineWrite, inlineWriteCmd handle data offset)] := by
  by_cases hw : s.Writes e
  · rw [upload_of_writes hw] at h ⊢
    exact passed_of_success h
  · obtain ⟨ret, hne, heq⟩ := upload_of_not_writes handle offset data hw
    rw [heq] at h
    exact absurd h hne

theorem passed_createVirglBuffer (e : GLEnv) (s : GLStack) (size bind handle : Nat) :
    (s.createVirglBuffer e size bind handle).2.translator.passed = s.translator.passed := by
  unfold createVirglBuffer
  split
  · rfl
  split <;> rfl

/-- The vertices in a buffer, the elements, and one draw command that names the
mode and the number of vertices. -/
def flushCommands (state : VMGLState) (vbo elements : Nat) : List (VirglCommand × List Nat) :=
  [(.resourceInlineWrite, inlineWriteCmd vbo (state.vertices.flatMap Vertex.words) 0),
    (.createObject .vertexElements elements, vertexElementsCmd elements),
    (.bindObject .vertexElements elements, bindElementsCmd elements),
    (.setVertexBuffers, vertexBuffersCmd vbo),
    (.drawVbo, state.drawCmd)]

theorem passed_drawBatch (h : s.drawBatchWhole es vbo elements = true) :
    (s.drawBatch es vbo elements).2.translator.passed = s.translator.passed ++
      [(.bindObject .vertexElements elements, bindElementsCmd elements),
        (.setVertexBuffers, vertexBuffersCmd vbo), (.drawVbo, s.translator.state.drawCmd)] := by
  simp only [drawBatchWhole, Bool.and_eq_true, decide_eq_true_eq] at h
  obtain ⟨⟨h₁, h₂⟩, h₃⟩ := h
  unfold drawBatch
  dsimp only
  -- the draw command is made from the state behind two submissions, which is the same
  rw [passed_of_success h₃, passed_of_success h₂, passed_of_success h₁, state_submit, state_submit,
    List.append_assoc, List.append_assoc]
  rfl

theorem passed_drawUploaded (h : s.drawUploadedWhole es vbo = true) :
    ∃ elements, (s.drawUploaded es vbo).2.translator.passed =
      s.translator.passed ++ (flushCommands s.translator.state vbo elements).tail := by
  simp only [drawUploadedWhole, Bool.and_eq_true, decide_eq_true_eq] at h
  obtain ⟨h₁, h₂⟩ := h
  refine ⟨(s.allocateHandle.2.createVertexElements (es .createElements)).1, ?_⟩
  simp only [drawUploaded, h₁, ne_eq, not_true_eq_false, if_false]
  rw [passed_drawBatch h₂]
  unfold createVertexElements at h₁ ⊢
  rw [passed_of_success h₁, state_submit, List.append_assoc]
  rfl

/-- A flush all of whose submissions go well passes its vertices on and has them
drawn. -/
theorem passed_flush (hn : s.vertices.length ≠ 0) (h : s.flushWhole es = true) :
    ∃ elements, (s.flushVertexBatch es).2.translator.passed =
      s.translator.passed ++
        flushCommands s.translator.state s.translator.nextHandle elements := by
  simp only [flushWhole, Bool.and_eq_true, decide_eq_true_eq] at h
  obtain ⟨⟨haccel, hbuffer⟩, hrest⟩ := h
  simp only [uploadAndDrawWhole, Bool.and_eq_true, decide_eq_true_eq] at hrest
  obtain ⟨hupload, hdraw⟩ := hrest
  obtain ⟨elements, heq⟩ := passed_drawUploaded hdraw
  refine ⟨elements, ?_⟩
  simp only [flushVertexBatch, hn, haccel, hbuffer, uploadAndDraw, hupload, ne_eq,
    not_true_eq_false, if_false, Bool.true_eq_false]
  -- creating the buffer goes to the device directly, not through the stream
  rw [heq, passed_upload_of_success hupload, passed_createVirglBuffer, state_upload, vertices,
    state_createVirglBuffer, List.append_assoc]
  rfl

/-! ## Calls -/

/-- What was drawn, each batch with its mode, and what was dropped. -/
structure GLAccount where
  drawn : List (Nat × List VertexBits)
  dropped : List VertexBits

/-- A flush adds its vertices: drawn, if all its submissions go well (`passed_flush` says
what the device then has), else dropped. -/
def accountFlush (es : FlushStage → GLEnv) (s : GLStack) (a : GLAccount) : GLAccount :=
  if s.vertices.length = 0 then a
  else if s.flushWhole es = true then
    { a with
      drawn := a.drawn ++
        [(glPrimitiveToVirgl s.translator.state.primitiveMode, s.vertices.map Vertex.bits)] }
  else { a with dropped := a.dropped ++ s.vertices.map Vertex.bits }

def accountEnd (es : FlushStage → GLEnv) (s : GLStack) (a : GLAccount) : GLAccount :=
  if s.translator.state.inBeginEnd = false then a
  else (s.withState fun t => { t with inBeginEnd := false }).accountFlush es a

def accountVertex (es : FlushStage → GLEnv) (s : GLStack) (a : GLAccount) : GLAccount :=
  if s.translator.state.inBeginEnd = false then a
  else if s.vertices.length ≥ maxBatchVertices then s.accountFlush es a
  else a

/-- What a call adds. -/
def accountCall (s : GLStack) (a : GLAccount) : GLCall → GLAccount
  | .glEnd es => s.accountEnd es a
  | .glVertex2f _ _ es | .glVertex3f _ _ _ es | .glVertex4f _ es => s.accountVertex es a
  | _ => a

/-- The translator as immediate mode sees it, with an account of its flushes. -/
def immediate (s : GLStack) (a : GLAccount) : Immediate where
  inBeginEnd := s.translator.state.inBeginEnd
  primitiveMode := s.translator.state.primitiveMode
  vertices := s.vertices.map Vertex.bits
  currentColor := s.translator.state.currentColor.bits
  currentTexcoord := s.translator.state.currentTexcoord.bits
  drawn := a.drawn
  dropped := a.dropped

variable {a : GLAccount}

/-- A state with the same record looks the same. -/
theorem immediate_congr (h : t.translator.state = s.translator.state) :
    t.immediate a = s.immediate a := by
  unfold immediate vertices
  rw [h]

/-- The flush of the translator is the flush of immediate mode. -/
theorem immediate_flush (es : FlushStage → GLEnv) (s : GLStack) (a : GLAccount) :
    (s.immediate a).flushVertexBatch (s.flushOutcome es) =
      ((s.flushVertexBatch es).1, (s.flushVertexBatch es).2.immediate (s.accountFlush es a)) := by
  have hlen : (s.immediate a).vertices.length = s.vertices.length := List.length_map ..
  rw [immediate_congr (state_flush es s), Immediate.flushVertexBatch, hlen, accountFlush]
  split
  next hnil => rw [flushVertexBatch, if_pos hnil]
  next =>
    show (if s.flushWhole es = true then _ else _) = _
    split
    · rfl
    · rfl

theorem immediate_glEnd (es : FlushStage → GLEnv) (s : GLStack) (a : GLAccount) :
    (s.immediate a).glEnd ((s.withState fun t => { t with inBeginEnd := false }).flushOutcome es) =
      ((s.glEnd es).1, (s.glEnd es).2.immediate (s.accountEnd es a)) := by
  unfold accountEnd
  by_cases hin : s.translator.state.inBeginEnd = false
  · have hin' : (s.immediate a).inBeginEnd = false := hin
    rw [Immediate.glEnd, if_pos hin', glEnd, if_pos hin, if_pos hin]
  · have hin' : ¬ (s.immediate a).inBeginEnd = false := hin
    rw [Immediate.glEnd, if_neg hin', glEnd, if_neg hin, if_neg hin]
    exact immediate_flush es (s.withState fun t => { t with inBeginEnd := false }) a

theorem immediate_glVertex4f (es : FlushStage → GLEnv) (s : GLStack) (v : Vec4) (a : GLAccount) :
    (s.immediate a).glVertex4f v.bits (s.flushOutcome es) =
      ((s.glVertex4f es v).1, (s.glVertex4f es v).2.immediate (s.accountVertex es a)) := by
  unfold accountVertex
  by_cases hin : s.translator.state.inBeginEnd = false
  · have hin' : (s.immediate a).inBeginEnd = false := hin
    rw [Immediate.glVertex4f, if_pos hin', glVertex4f, if_pos hin, if_pos hin]
  have hin' : ¬ (s.immediate a).inBeginEnd = false := hin
  have hlen : (s.immediate a).vertices.length = s.vertices.length := List.length_map ..
  rw [Immediate.glVertex4f, if_neg hin', glVertex4f, if_neg hin, if_neg hin, hlen]
  by_cases hfull : s.vertices.length ≥ maxBatchVertices
  · rw [if_pos hfull, if_pos hfull, if_pos hfull, immediate_flush es s a]
    rfl
  · rw [if_neg hfull, if_neg hfull, if_neg hfull]
    refine Prod.ext rfl ?_
    simp [immediate, vertices, withState, Vertex.bits]

theorem immediate_glBegin (s : GLStack) (mode : Nat) (a : GLAccount) :
    (s.immediate a).glBegin mode = ((s.glBegin mode).1, (s.glBegin mode).2.immediate a) := by
  by_cases hin : s.translator.state.inBeginEnd = true
  · have hin' : (s.immediate a).inBeginEnd = true := hin
    rw [Immediate.glBegin, if_pos hin', glBegin, if_pos hin]
  · have hin' : ¬ (s.immediate a).inBeginEnd = true := hin
    rw [Immediate.glBegin, if_neg hin', glBegin, if_neg hin]
    rfl

/-! ## Runs -/

/-- The call of immediate mode that a call is in `s`. -/
def immediateCall (s : GLStack) : GLCall → Option ImmediateCall
  | .glBegin mode => some (.glBegin mode)
  | .glEnd es =>
      some (.glEnd ((s.withState fun t => { t with inBeginEnd := false }).flushOutcome es))
  | .glVertex2f x y es => some (.glVertex4f (Vec4.mk x y 0 1).bits (s.flushOutcome es))
  | .glVertex3f x y z es => some (.glVertex4f (Vec4.mk x y z 1).bits (s.flushOutcome es))
  | .glVertex4f v es => some (.glVertex4f v.bits (s.flushOutcome es))
  | .glColor3f r g b => some (.glColor4f (Vec4.mk r g b 1).bits)
  | .glColor4f color => some (.glColor4f color.bits)
  | .glTexCoord2f r q => some (.glTexCoord3f (Vec4.mk r q 0 1).bits)
  | .glTexCoord3f r q t => some (.glTexCoord3f (Vec4.mk r q t 1).bits)
  | _ => none

theorem accountCall_other {call : GLCall} (hnone : s.immediateCall call = none) :
    s.accountCall a call = a := by
  cases call <;> first | rfl | cases hnone

/-- The other calls leave the record as immediate mode sees it. -/
theorem immediate_other {call : GLCall} (hnone : s.immediateCall call = none)
    (hstep : s.callStep call = some t) : t.immediate a = s.immediate a := by
  have hviewport (e : GLEnv) (u : GLStack) (x y width height : Int) :
      (u.glViewport e x y width height).2.immediate a = u.immediate a := by
    unfold glViewport updateViewport
    split
    · rfl
    · exact (immediate_congr (state_submit ..)).trans rfl
  have htarget (e : GLEnv) (u : GLStack) :
      (u.setupRenderTarget e).2.immediate a = u.immediate a := by
    unfold setupRenderTarget
    split
    · rfl
    split
    · rfl
    · exact immediate_congr (state_submit ..)
  cases call with
  | initWithAccelerator accelerator contextId e e' =>
      cases hstep
      exact (hviewport e' _ 0 0 640 480).trans (htarget e _)
  | setupRenderTarget e =>
      cases hstep
      exact htarget e s
  | glClear mask e =>
      cases hstep
      unfold glClear
      split
      · rfl
      · exact immediate_congr (state_submit ..)
  | glClearColor color =>
      cases hstep
      rfl
  | glClearDepth depth =>
      cases hstep
      rfl
  | glViewport x y width height e =>
      cases hstep
      exact hviewport e s x y width height
  | deviceChanges gpu =>
      cases hstep
      rfl
  | _ => cases hnone

/-- Step lemma: a call is the call of immediate mode that it is. -/
theorem immediate_step {call : GLCall} {c : ImmediateCall} (a : GLAccount)
    (hc : s.immediateCall call = some c) (hstep : s.callStep call = some t) :
    ((s.immediate a).call c).2 = t.immediate (s.accountCall a call) := by
  have hvertex (v : Vec4) (es : FlushStage → GLEnv) :
      ((s.immediate a).call (.glVertex4f v.bits (s.flushOutcome es))).2 =
        (s.glVertex4f es v).2.immediate (s.accountVertex es a) :=
    congrArg Prod.snd (immediate_glVertex4f es s v a)
  cases call with
  | glBegin mode =>
      cases hc
      cases hstep
      exact congrArg Prod.snd (immediate_glBegin s mode a)
  | glEnd es =>
      cases hc
      cases hstep
      exact congrArg Prod.snd (immediate_glEnd es s a)
  | glVertex2f x y es =>
      cases hc
      cases hstep
      exact hvertex ⟨x, y, 0, 1⟩ es
  | glVertex3f x y z es =>
      cases hc
      cases hstep
      exact hvertex ⟨x, y, z, 1⟩ es
  | glVertex4f v es =>
      cases hc
      cases hstep
      exact hvertex v es
  | glColor3f r g b =>
      cases hc
      cases hstep
      rfl
  | glColor4f color =>
      cases hc
      cases hstep
      rfl
  | glTexCoord2f r q =>
      cases hc
      cases hstep
      rfl
  | glTexCoord3f r q t =>
      cases hc
      cases hstep
      rfl
  | _ => cases hc

/-- The calls of immediate mode that a run from `s` makes. -/
def immediateCalls (s : GLStack) : List GLCall → List ImmediateCall
  | [] => []
  | call :: calls =>
      (s.immediateCall call).toList ++
        (s.callStep call).elim [] fun t => immediateCalls t calls

/-- The account at the end of a run from `s`. -/
def account (s : GLStack) (a : GLAccount) : List GLCall → GLAccount
  | [] => a
  | call :: calls =>
      (s.callStep call).elim a fun t => account t (s.accountCall a call) calls

/-- **Simulation.** A run of the translator is the run of immediate mode over the
calls it makes, with what the translator's own flushes come to and what they drew. -/
theorem immediate_run {g : Gpu} {calls : List GLCall} (a : GLAccount)
    (hrun : (callMachine g).run s calls = some t) :
    Immediate.machine.run (s.immediate a) (s.immediateCalls calls) =
      some (t.immediate (s.account a calls)) := by
  induction calls generalizing s a with
  | nil =>
      cases hrun
      rfl
  | cons call calls ih =>
      obtain ⟨u, hstep, hrest⟩ := (callMachine g).run_cons_eq_some.mp hrun
      have hstep' : s.callStep call = some u := hstep
      rw [immediateCalls, account, hstep', Option.elim_some, Option.elim_some]
      cases hc : s.immediateCall call with
      | none =>
          have hsame : s.accountCall a call = a := accountCall_other hc
          rw [hsame, ← immediate_other hc hstep', Option.toList_none, List.nil_append]
          exact ih a hrest
      | some c =>
          rw [Option.toList_some, List.singleton_append,
            Machine.run_cons_some _ (Immediate.step_eq _ c), immediate_step a hc hstep']
          exact ih _ hrest

end GLStack
end VMQemuVGA
