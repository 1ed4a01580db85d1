import VMQemuVGA.Gpu.Held
import VMQemuVGA.Lib.Machine
import VMQemuVGA.OpenGL.Encoding

/-! # Handles as resource ids

Each translator counts its handles from 100 in a counter of its own, and a flush
passes one of them to the device as the id of a resource. The ids are the
device's, which hands out the same numbers to others, and nothing ever releases
a vertex buffer. -/

namespace VMQemuVGA
namespace GLStack
variable {e : GLEnv} {es : FlushStage → GLEnv} {s t u : GLStack}

/-! ## What a call does with vertex buffers -/

/-- No buffer is asked for, and no id brought in. -/
structure Keeps (s t : GLStack) : Prop where
  vertexBuffers : t.translator.vertexBuffers = s.translator.vertexBuffers
  inUse : t.translator.inUse = s.translator.inUse
  sameIds : Gpu.SameIds s.gpu t.gpu
  brings : Gpu.BringsIn (fun _ => False) s.gpu t.gpu

theorem Keeps.trans (h₁ : Keeps s t) (h₂ : Keeps t u) : Keeps s u where
  vertexBuffers := h₂.vertexBuffers.trans h₁.vertexBuffers
  inUse := h₂.inUse.trans h₁.inUse
  sameIds :=
    ⟨h₂.sameIds.1.trans h₁.sameIds.1, h₂.sameIds.2.trans h₁.sameIds.2,
      h₂.sameIds.3.trans h₁.sameIds.3, h₂.sameIds.4.trans h₁.sameIds.4⟩
  brings := h₁.brings.trans h₂.brings

/-- A state with the same device and the same buffers. -/
theorem keeps_of_eq (hv : t.translator.vertexBuffers = s.translator.vertexBuffers)
    (hn : t.translator.inUse = s.translator.inUse) (hg : t.gpu = s.gpu) : Keeps s t := by
  refine ⟨hv, hn, ?_, ?_⟩
  · rw [hg]
    exact ⟨rfl, rfl, rfl, rfl⟩
  · rw [hg]
    exact .refl _ _

theorem Keeps.refl (s : GLStack) : Keeps s s := keeps_of_eq rfl rfl rfl

theorem sameIds_executeCommands (e : Env) (g : Gpu) (ctx : Nat) (commands : Option Nat) :
    Gpu.SameIds g (g.executeCommands e ctx commands).2 ∧
      Gpu.BringsIn (fun _ => False) g (g.executeCommands e ctx commands).2 := by
  have hsame : Gpu.SameIds g g ∧ Gpu.BringsIn (fun _ => False) g g :=
    ⟨⟨rfl, rfl, rfl, rfl⟩, .refl _ g⟩
  unfold Gpu.executeCommands
  split
  · exact hsame
  cases commands with
  | none => exact hsame
  | some size =>
      dsimp only
      split
      · exact hsame
      split
      · exact hsame
      split
      · exact hsame
      · exact ⟨Gpu.sameIds_submitCommand .., Gpu.bringsIn_send e g rfl⟩

theorem keeps_submit (e : GLEnv) (s : GLStack) (c : VirglCommand) (cmd : List Nat) :
    Keeps s (s.submitVirglCommand e c cmd).2 := by
  by_cases h : s.Passes e
  · rw [submit_of_passes h]
    obtain ⟨hsame, hbrings⟩ := sameIds_executeCommands e.toEnv s.gpu s.translator.contextId
      (some (cmd.length * 4))
    exact ⟨rfl, rfl, hsame, hbrings⟩
  · obtain ⟨ret, -, heq⟩ := submit_of_not_passes c cmd h
    rw [heq]
    exact .refl s

theorem keeps_allocateHandle (s : GLStack) : Keeps s s.allocateHandle.2 := keeps_of_eq rfl rfl rfl

theorem keeps_withState (s : GLStack) (f : VMGLState → VMGLState) : Keeps s (s.withState f) :=
  keeps_of_eq rfl rfl rfl

theorem keeps_uploadBufferData (e : GLEnv) (s : GLStack) (handle : Nat) (data : List Nat)
    (offset : Nat) : Keeps s (s.uploadBufferData e handle data offset).2 := by
  by_cases h : s.Writes e
  · rw [upload_of_writes h]
    exact keeps_submit ..
  · obtain ⟨ret, -, heq⟩ := upload_of_not_writes handle offset data h
    rw [heq]
    exact .refl s

theorem keeps_drawBatch (es : FlushStage → GLEnv) (s : GLStack) (vbo elements : Nat) :
    Keeps s (s.drawBatch es vbo elements).2 :=
  ((keeps_submit ..).trans (keeps_submit ..)).trans (keeps_submit ..)

theorem keeps_drawUploaded (es : FlushStage → GLEnv) (s : GLStack) (vbo : Nat) :
    Keeps s (s.drawUploaded es vbo).2 := by
  have hcreate : Keeps s (s.allocateHandle.2.createVertexElements (es .createElements)).2.2 :=
    ((keeps_allocateHandle s).trans (keeps_allocateHandle _)).trans (keeps_submit ..)
  unfold drawUploaded
  dsimp only
  split
  · exact hcreate
  · exact hcreate.trans (keeps_drawBatch ..)

theorem keeps_uploadAndDraw (es : FlushStage → GLEnv) (s : GLStack) (vbo : Nat) :
    Keeps s (s.uploadAndDraw es vbo).2 := by
  unfold uploadAndDraw
  dsimp only
  split
  · exact keeps_uploadBufferData ..
  · exact (keeps_uploadBufferData ..).trans (keeps_drawUploaded ..)

/-! ### A flush -/

/-- A flush in `s` passes its handle to `createResource3D`. -/
structure Asks (s : GLStack) (es : FlushStage → GLEnv) : Prop where
  batch : s.vertices.length ≠ 0
  accelerator : s.translator.accelerator = true
  gpuDevice : (es .createBuffer).gpuDevice = true

/-- One buffer has been asked for, under the id `handle`, and no other id
brought in. -/
structure Bought (handle : Nat) (s t : GLStack) : Prop where
  vertexBuffers : t.translator.vertexBuffers =
    s.translator.vertexBuffers ++ [⟨handle, s.gpu.isLive handle⟩]
  inUse : t.translator.inUse = s.translator.inUse + 1
  sameIds : Gpu.SameIds s.gpu t.gpu
  brings : Gpu.BringsIn (fun id => id = handle) s.gpu t.gpu

theorem Bought.then {handle : Nat} (h₁ : Bought handle s t) (h₂ : Keeps t u) :
    Bought handle s u where
  vertexBuffers := h₂.vertexBuffers.trans h₁.vertexBuffers
  inUse := h₂.inUse.trans h₁.inUse
  sameIds :=
    ⟨h₂.sameIds.1.trans h₁.sameIds.1, h₂.sameIds.2.trans h₁.sameIds.2,
      h₂.sameIds.3.trans h₁.sameIds.3, h₂.sameIds.4.trans h₁.sameIds.4⟩
  brings := h₁.brings.trans (h₂.brings.mono fun _ => False.elim)

theorem bought_createVirglBuffer (s : GLStack) (size bind handle : Nat)
    (ha : s.translator.accelerator = true) (hg : e.gpuDevice = true) :
    Bought handle s (s.createVirglBuffer e size bind handle).2 := by
  unfold createVirglBuffer
  rw [ha, hg]
  exact ⟨rfl, rfl, Gpu.sameIds_createResource3D .., Gpu.bringsIn_createResource3D ..⟩

theorem createVirglBuffer_of_no_device {size bind handle : Nat} (hg : e.gpuDevice = false) :
    s.createVirglBuffer e size bind handle = (.notReady, s) := by
  unfold createVirglBuffer
  rw [hg]
  split
  · rfl
  · rfl

/-- A flush asks for one buffer, or for none. -/
theorem flush_cases (es : FlushStage → GLEnv) (s : GLStack) :
    s.Asks es ∧ Bought s.translator.nextHandle s (s.flushVertexBatch es).2 ∨
      ¬ s.Asks es ∧ Keeps s (s.flushVertexBatch es).2 := by
  unfold flushVertexBatch
  by_cases hn : s.vertices.length = 0
  · rw [if_pos hn]
    exact Or.inr ⟨fun h => h.batch hn, .refl s⟩
  by_cases ha : s.translator.accelerator = false
  · rw [if_neg hn, if_pos ha]
    refine Or.inr ⟨fun h => ?_, .refl s⟩
    rw [h.accelerator] at ha
    cases ha
  rw [if_neg hn, if_neg ha]
  dsimp only
  have haccel : s.translator.accelerator = true := by simpa using ha
  by_cases hg : (es .createBuffer).gpuDevice = true
  · refine Or.inl ⟨⟨hn, haccel, hg⟩, ?_⟩
    have hbought := bought_createVirglBuffer (e := es .createBuffer) s.allocateHandle.2
      (s.vertices.length * 12 * 4) virglBindVertexBuffer s.translator.nextHandle haccel hg
    -- drawing the handle changes nothing that counts here
    have hbought' : Bought s.translator.nextHandle s (s.allocateHandle.2.createVirglBuffer
        (es .createBuffer) (s.vertices.length * 12 * 4) virglBindVertexBuffer
        s.translator.nextHandle).2 := ⟨hbought.1, hbought.2, hbought.3, hbought.4⟩
    split
    · exact hbought'
    · exact hbought'.then (keeps_uploadAndDraw ..)
  · refine Or.inr ⟨fun h => hg h.gpuDevice, ?_⟩
    rw [createVirglBuffer_of_no_device (by simpa using hg)]
    exact keeps_allocateHandle s

/-! ### All calls -/

/-- The call flushes a batch and so asks for a buffer. -/
def BuyingCall (s : GLStack) : GLCall → Prop
  | .glEnd es => s.translator.state.inBeginEnd = true ∧ s.Asks es
  | .glVertex2f _ _ es | .glVertex3f _ _ _ es | .glVertex4f _ es =>
      s.translator.state.inBeginEnd = true ∧ s.vertices.length ≥ maxBatchVertices ∧ s.Asks es
  | _ => False

/-- The call begins a primitive. -/
def BeginningCall (s : GLStack) : GLCall → Prop
  | .glBegin _ => s.translator.state.inBeginEnd = false
  | _ => False

instance (s : GLStack) (es : FlushStage → GLEnv) : Decidable (s.Asks es) :=
  decidable_of_iff (s.vertices.length ≠ 0 ∧ s.translator.accelerator = true ∧
    (es .createBuffer).gpuDevice = true) ⟨fun h => ⟨h.1, h.2.1, h.2.2⟩, fun h => ⟨h.1, h.2, h.3⟩⟩

instance (s : GLStack) : (call : GLCall) → Decidable (s.BuyingCall call)
  | .glEnd _ => inferInstanceAs (Decidable (_ ∧ _))
  | .glVertex2f .. | .glVertex3f .. | .glVertex4f .. => inferInstanceAs (Decidable (_ ∧ _ ∧ _))
  | .initWithAccelerator .. | .setupRenderTarget _ | .glClear .. | .glClearColor _ |
    .glClearDepth _ | .glViewport .. | .glBegin _ | .glColor3f .. | .glColor4f _ |
    .glTexCoord2f .. | .glTexCoord3f .. | .deviceChanges _ => inferInstanceAs (Decidable False)

instance (s : GLStack) : (call : GLCall) → Decidable (s.BeginningCall call)
  | .glBegin _ => inferInstanceAs (Decidable (_ = _))
  | .initWithAccelerator .. | .setupRenderTarget _ | .glClear .. | .glClearColor _ |
    .glClearDepth _ | .glViewport .. | .glEnd _ | .glVertex2f .. | .glVertex3f .. |
    .glVertex4f .. | .glColor3f .. | .glColor4f _ | .glTexCoord2f .. | .glTexCoord3f .. |
    .deviceChanges _ => inferInstanceAs (Decidable False)

/-- The count starts again. -/
structure Begins (s t : GLStack) : Prop where
  vertexBuffers : t.translator.vertexBuffers = s.translator.vertexBuffers
  inUse : t.translator.inUse = 0
  gpu : t.gpu = s.gpu

theorem keeps_glClear (e : GLEnv) (s : GLStack) (mask : Nat) : Keeps s (s.glClear e mask).2 := by
  unfold glClear
  split
  · exact .refl s
  · exact keeps_submit ..

theorem keeps_glViewport (e : GLEnv) (s : GLStack) (x y width height : Int) :
    Keeps s (s.glViewport e x y width height).2 := by
  unfold glViewport updateViewport
  split
  · exact keeps_of_eq rfl rfl rfl
  · exact (keeps_withState ..).trans (keeps_submit ..)

theorem keeps_setupRenderTarget (e : GLEnv) (s : GLStack) : Keeps s (s.setupRenderTarget e).2 := by
  unfold setupRenderTarget
  split
  · exact .refl s
  split
  · exact .refl s
  · exact keeps_submit ..

theorem glBegin_cases (s : GLStack) (mode : Nat) :
    s.BeginningCall (.glBegin mode) ∧ Begins s (s.glBegin mode).2 ∨ Keeps s (s.glBegin mode).2 := by
  unfold glBegin
  by_cases hin : s.translator.state.inBeginEnd = true
  · rw [if_pos hin]
    exact Or.inr (.refl s)
  · rw [if_neg hin]
    exact Or.inl ⟨by simpa [BeginningCall] using hin, rfl, rfl, rfl⟩

theorem glEnd_cases (es : FlushStage → GLEnv) (s : GLStack) :
    s.BuyingCall (.glEnd es) ∧ Bought s.translator.nextHandle s (s.glEnd es).2 ∨
      Keeps s (s.glEnd es).2 := by
  unfold glEnd
  by_cases hin : s.translator.state.inBeginEnd = false
  · rw [if_pos hin]
    exact Or.inr (.refl s)
  · rw [if_neg hin]
    have hflush := flush_cases es (s.withState fun t => { t with inBeginEnd := false })
    rcases hflush with ⟨hasks, hbought⟩ | ⟨-, hkeeps⟩
    · exact Or.inl ⟨⟨by simpa using hin, hasks.1, hasks.2, hasks.3⟩,
        hbought.1, hbought.2, hbought.3, hbought.4⟩
    · exact Or.inr ((keeps_withState ..).trans hkeeps)

theorem glVertex4f_cases (es : FlushStage → GLEnv) (s : GLStack) (v : Vec4) :
    s.BuyingCall (.glVertex4f v es) ∧ Bought s.translator.nextHandle s (s.glVertex4f es v).2 ∨
      Keeps s (s.glVertex4f es v).2 := by
  unfold glVertex4f
  by_cases hin : s.translator.state.inBeginEnd = false
  · rw [if_pos hin]
    exact Or.inr (.refl s)
  rw [if_neg hin]
  dsimp only
  by_cases hfull : s.vertices.length ≥ maxBatchVertices
  · rw [if_pos hfull]
    rcases flush_cases es s with ⟨hasks, hbought⟩ | ⟨-, hkeeps⟩
    · exact Or.inl ⟨⟨by simpa using hin, hfull, hasks⟩,
        (hbought.then (keeps_withState ..)).then (keeps_withState ..)⟩
    · exact Or.inr ((hkeeps.trans (keeps_withState ..)).trans (keeps_withState ..))
  · rw [if_neg hfull]
    exact Or.inr (keeps_withState ..)

/-- **What a call does with buffers.** It asks for one, starts a new primitive,
or keeps out of it. -/
theorem callStep_cases {call : GLCall} (hcall : ∀ g, call ≠ .deviceChanges g)
    (h : s.callStep call = some t) :
    s.BuyingCall call ∧ Bought s.translator.nextHandle s t ∨
      s.BeginningCall call ∧ Begins s t ∨ Keeps s t := by
  cases call
  case glEnd es =>
    cases h
    exact (glEnd_cases es s).imp_right Or.inr
  case glVertex2f x y es =>
    cases h
    exact (glVertex4f_cases es s _).imp_right Or.inr
  case glVertex3f x y z es =>
    cases h
    exact (glVertex4f_cases es s _).imp_right Or.inr
  case glVertex4f v es =>
    cases h
    exact (glVertex4f_cases es s v).imp_right Or.inr
  case glBegin mode =>
    cases h
    exact Or.inr (glBegin_cases s mode)
  case deviceChanges g => exact absurd rfl (hcall g)
  all_goals
    cases h
    refine Or.inr (Or.inr ?_)
  case initWithAccelerator accelerator contextId e e' =>
    have hset : Keeps s ⟨{ s.translator with accelerator, contextId }, s.gpu⟩ :=
      keeps_of_eq rfl rfl rfl
    exact (hset.trans (keeps_setupRenderTarget e _)).trans (keeps_glViewport ..)
  case setupRenderTarget e => exact keeps_setupRenderTarget e s
  case glClear mask e => exact keeps_glClear e s mask
  case glViewport x y width height e => exact keeps_glViewport ..
  all_goals exact keeps_of_eq rfl rfl rfl

end GLStack

/-! ## Several translators on one device -/

/-- The ids of the vertex buffers a translator has asked for. -/
def Translator.handles (t : Translator) : List Nat := t.vertexBuffers.map VertexBuffer.handle

/-- How many of a translator's vertex buffers the host holds. -/
def Translator.alive (t : Translator) (g : Gpu) : Nat :=
  t.vertexBuffers.countP fun b => g.link.host.hasResource b.handle

structure Fleet where
  translators : List Translator
  gpu : Gpu

/-- A translator appears or is called, the kernel or the winsys draws ids, the
framebuffer makes its resource 1, a resource is released, or the host gets round
to a command. -/
inductive FleetEvent where
  | newTranslator
  | call (i : Nat) (call : GLCall)
  | draw (call : Gpu.IdCall) (e : Env)
  | framebufferResource (format width height : Nat) (backing : Option MemoryDescriptor) (e : Env)
  | deallocateResource (id : Nat) (e : Env)
  | hostLate

namespace Fleet

/-- A call of one translator, with the device as it is. -/
def callStep (s : Fleet) (i : Nat) (call : GLCall) : Option Fleet :=
  match call, s.translators[i]? with
  | .deviceChanges _, _ => none
  | _, none => none
  | call, some t =>
      (GLStack.callStep ⟨t, s.gpu⟩ call).map fun u => ⟨s.translators.set i u.translator, u.gpu⟩

def step (s : Fleet) : FleetEvent → Option Fleet
  | .newTranslator => some { s with translators := s.translators ++ [.init] }
  | .call i call => s.callStep i call
  | .draw call e => some { s with gpu := call.run e s.gpu }
  | .framebufferResource format width height backing e =>
      some { s with gpu := (s.gpu.createResource2D e 1 format width height backing).2 }
  | .deallocateResource id e => some { s with gpu := (s.gpu.deallocateResource e id).2 }
  | .hostLate => s.gpu.link.execLate.map fun l => { s with gpu := { s.gpu with link := l } }

def machine (supports3D : Bool) (maxScanouts : Nat) : Machine Fleet FleetEvent where
  init := ⟨[], .init supports3D maxScanouts⟩
  step := step

/-- No vertex buffer was asked for under an id that was taken, and no translator
keeps more of them alive than it has batches in the primitive begun last. -/
def Sound (s : Fleet) : Prop :=
  ∀ t ∈ s.translators, (∀ b ∈ t.vertexBuffers, b.taken = false) ∧ t.alive s.gpu ≤ t.inUse

/-! ### The condition -/

/-- The id has not been handed out: not by the device, not by a translator. -/
structure Unused (s : Fleet) (id : Nat) : Prop where
  handed : id ∉ s.gpu.handed
  framebuffer : id ≠ 1
  translators : ∀ t ∈ s.translators, id ∉ t.handles

/-- A flush has an id that nobody has handed out, the device draws none that a
translator has used, and a primitive begins when none of the translator's earlier
buffers is on the host or still to be made there. -/
def EventOk (s : Fleet) : FleetEvent → Prop
  | .call i call => ∀ t ∈ s.translators[i]?,
      (GLStack.BuyingCall ⟨t, s.gpu⟩ call → s.Unused t.nextHandle) ∧
        (GLStack.BeginningCall ⟨t, s.gpu⟩ call → ∀ b ∈ t.vertexBuffers, ¬ s.gpu.Held b.handle)
  | .draw call e => ∀ id ∈ call.ids e s.gpu, ∀ t ∈ s.translators, id ∉ t.handles
  | _ => True

instance (s : Fleet) (id : Nat) : Decidable (s.Unused id) :=
  decidable_of_iff (id ∉ s.gpu.handed ∧ id ≠ 1 ∧ ∀ t ∈ s.translators, id ∉ t.handles)
    ⟨fun h => ⟨h.1, h.2.1, h.2.2⟩, fun h => ⟨h.1, h.2, h.3⟩⟩

instance (s : Fleet) : (event : FleetEvent) → Decidable (s.EventOk event)
  | .call i call => inferInstanceAs (Decidable (∀ t ∈ s.translators[i]?,
      (GLStack.BuyingCall ⟨t, s.gpu⟩ call → s.Unused t.nextHandle) ∧
        (GLStack.BeginningCall ⟨t, s.gpu⟩ call → ∀ b ∈ t.vertexBuffers, ¬ s.gpu.Held b.handle)))
  | .draw call e => inferInstanceAs (Decidable (∀ id ∈ call.ids e s.gpu, ∀ t ∈ s.translators,
      id ∉ t.handles))
  | .newTranslator | .framebufferResource .. | .deallocateResource .. | .hostLate =>
      inferInstanceAs (Decidable True)

end Fleet

/-! ### The invariant -/

/-- A translator's buffers: none was asked for under a taken id or under the
framebuffer's, and those from before the last primitive are gone. -/
structure Translator.Tidy (t : Translator) (g : Gpu) : Prop where
  untaken : ∀ b ∈ t.vertexBuffers, b.taken = false
  framebuffer : 1 ∉ t.handles
  gone : ∃ old new, t.vertexBuffers = old ++ new ∧ new.length = t.inUse ∧
    ∀ b ∈ old, ¬ g.Held b.handle

theorem Translator.mem_handles {t : Translator} {b : VertexBuffer} (h : b ∈ t.vertexBuffers) :
    b.handle ∈ t.handles := List.mem_map_of_mem h

theorem Translator.tidy_init (g : Gpu) : Translator.init.Tidy g where
  untaken := fun _ h => by cases h
  framebuffer := fun h => by cases h
  gone := ⟨[], [], rfl, rfl, fun _ h => by cases h⟩

/-- What is gone stays gone while nobody brings one of the ids in. -/
theorem Translator.Tidy.device {t : Translator} {g g' : Gpu} {P : Nat → Prop} (h : t.Tidy g)
    (hb : Gpu.BringsIn P g g') (hP : ∀ id, P id → id ∉ t.handles) : t.Tidy g' where
  untaken := h.untaken
  framebuffer := h.framebuffer
  gone := by
    obtain ⟨old, new, heq, hlen, hgone⟩ := h.gone
    refine ⟨old, new, heq, hlen, fun b hmem hheld => ?_⟩
    rcases hb.held _ hheld with hbefore | hnew
    · exact hgone b hmem hbefore
    · refine hP _ hnew (mem_handles ?_)
      rw [heq]
      exact List.mem_append_left _ hmem

/-- Gone buffers are not alive, and the others are in use. -/
theorem Translator.Tidy.alive_le {t : Translator} {g : Gpu} (h : t.Tidy g) :
    t.alive g ≤ t.inUse := by
  obtain ⟨old, new, heq, hlen, hgone⟩ := h.gone
  have hold : old.countP (fun b => g.link.host.hasResource b.handle) = 0 := by
    rw [List.countP_eq_zero]
    intro b hb hhost
    exact hgone b hb (Or.inl hhost)
  unfold alive
  rw [heq, List.countP_append, hold, Nat.zero_add, ← hlen]
  exact List.countP_le_length

/-- The call of one translator asks for a buffer. -/
theorem Translator.Tidy.bought {t : Translator} {u : GLStack} {g : Gpu} (h : t.Tidy g)
    (hb : GLStack.Bought t.nextHandle ⟨t, g⟩ u) (hlive : g.isLive t.nextHandle = false)
    (hone : t.nextHandle ≠ 1) (hnew : t.nextHandle ∉ t.handles) : u.translator.Tidy u.gpu where
  untaken := by
    rw [hb.vertexBuffers]
    intro b hmem
    rcases List.mem_append.mp hmem with hmem | hmem
    · exact h.untaken b hmem
    · rw [List.mem_singleton.mp hmem]
      exact hlive
  framebuffer := by
    unfold Translator.handles
    rw [hb.vertexBuffers, List.map_append, List.mem_append]
    rintro (hold | hbought)
    · exact h.framebuffer hold
    · exact hone (List.mem_singleton.mp hbought).symm
  gone := by
    obtain ⟨old, new, heq, hlen, hgone⟩ := h.gone
    refine ⟨old, new ++ [⟨t.nextHandle, g.isLive t.nextHandle⟩], ?_, ?_, fun b hmem hheld => ?_⟩
    · rw [hb.vertexBuffers, ← List.append_assoc, ← heq]
    · rw [List.length_append, hlen, hb.inUse]
      rfl
    · rcases hb.brings.held _ hheld with hbefore | hsame
      · exact hgone b hmem hbefore
      · refine hnew ?_
        rw [← hsame]
        refine Translator.mem_handles ?_
        rw [heq]
        exact List.mem_append_left _ hmem

namespace Fleet
variable {s s' : Fleet}

structure Tidy (s : Fleet) : Prop where
  handedOut : s.gpu.HandedOut
  /-- Whatever is live has been handed out. -/
  known : ∀ id, s.gpu.Held id ∨ (s.gpu.findResource id).isSome = true →
    id ∈ s.gpu.handed ∨ id = 1 ∨ ∃ t ∈ s.translators, id ∈ t.handles
  translators : ∀ t ∈ s.translators, t.Tidy s.gpu

theorem tidy_init (supports3D : Bool) (maxScanouts : Nat) :
    (machine supports3D maxScanouts).init.Tidy where
  handedOut := Gpu.handedOut_init supports3D maxScanouts
  known := by
    rintro id ((hhost | ⟨cmd, hcmd, -⟩) | hpool)
    · cases hhost
    · cases hcmd
    · rw [Gpu.findResource_isSome_iff] at hpool
      have hnone : (Gpu.init supports3D maxScanouts).liveSlots id = 0 :=
        Gpu.liveSlots_init supports3D maxScanouts id
      exact absurd hpool (Nat.not_lt.mpr (Nat.le_of_eq hnone))
  translators := fun t ht => by cases ht

theorem Tidy.sound (h : s.Tidy) : s.Sound := fun t ht =>
  ⟨(h.translators t ht).untaken, (h.translators t ht).alive_le⟩

/-- An id nobody has handed out is not live. -/
theorem Tidy.not_isLive (h : s.Tidy) {id : Nat} (hid : s.Unused id) : s.gpu.isLive id = false := by
  by_contra hlive
  have hlive' : s.gpu.Held id ∨ (s.gpu.findResource id).isSome = true := by
    rw [Bool.not_eq_false, Gpu.isLive, Bool.or_eq_true] at hlive
    exact hlive.imp_left Or.inl
  rcases h.known id hlive' with hk | hk | ⟨t, ht, hk⟩
  · exact hid.handed hk
  · exact hid.framebuffer hk
  · exact hid.translators t ht hk

/-! ### Steps -/

/-- Only the device changes, and what it brings in is accounted for. -/
theorem Tidy.device {g : Gpu} {P : Nat → Prop} (h : s.Tidy) (hout : g.HandedOut)
    (hmono : ∀ id ∈ s.gpu.handed, id ∈ g.handed) (hb : Gpu.BringsIn P s.gpu g)
    (hP : ∀ id, P id → (id ∈ g.handed ∨ id = 1) ∧ ∀ t ∈ s.translators, id ∉ t.handles) :
    Tidy { s with gpu := g } where
  handedOut := hout
  known := by
    intro id hid
    rcases hb.before hid with hold | hnew
    · exact (h.known id hold).imp_left (hmono id)
    · exact (hP id hnew).1.imp_right Or.inl
  translators := fun t ht => (h.translators t ht).device hb fun id hid => (hP id hid).2 t ht

/-- The device hands out nothing and brings in nothing. -/
theorem Tidy.quiet {g : Gpu} (h : s.Tidy) (hs : Gpu.SameIds s.gpu g)
    (hb : Gpu.BringsIn (fun _ => False) s.gpu g) : Tidy { s with gpu := g } := by
  refine h.device (h.handedOut.congr hs) (fun id hid => ?_) hb fun _ => False.elim
  rw [Gpu.handed, hs.kernel, hs.winsys]
  exact hid

theorem Tidy.draw (h : s.Tidy) (call : Gpu.IdCall) (e : Env) (hok : s.EventOk (.draw call e)) :
    Tidy { s with gpu := call.run e s.gpu } := by
  have hdraws := Gpu.draws_run e s.gpu call
  have hmono : ∀ id ∈ s.gpu.handed, id ∈ (call.run e s.gpu).handed := fun id hid =>
    List.mem_append.mpr ((List.mem_append.mp hid).imp (fun h => hdraws.kernel.subset h)
      fun h => hdraws.winsys.subset h)
  refine h.device ((Gpu.hands_run e s.gpu call).keeps h.handedOut) hmono hdraws.brings
    fun id hid => ⟨Or.inl ?_, ?_⟩
  · rcases List.mem_append.mp hid with hid | hid
    · exact List.mem_append_left _ (List.mem_of_mem_drop hid)
    · exact List.mem_append_right _ (List.mem_of_mem_drop hid)
  · rw [Gpu.newIds_run h.handedOut] at hid
    exact hok id hid

/-- A translator is called: the others are as they were, on a device that has
brought in at most what the call asked for. -/
theorem Tidy.setTranslator {t t' : Translator} {g : Gpu} {i : Nat} {P : Nat → Prop} (h : s.Tidy)
    (ht : s.translators[i]? = some t) (hs : Gpu.SameIds s.gpu g) (hb : Gpu.BringsIn P s.gpu g)
    (ht' : t'.Tidy g) (hsub : ∀ id ∈ t.handles, id ∈ t'.handles) (hP : ∀ id, P id → id ∈ t'.handles)
    (hfree : ∀ id, P id → ∀ u ∈ s.translators, id ∉ u.handles) :
    Tidy ⟨s.translators.set i t', g⟩ where
  handedOut := h.handedOut.congr hs
  known := by
    obtain ⟨hi, hget⟩ := List.getElem?_eq_some_iff.mp ht
    have hmem' : t' ∈ s.translators.set i t' := List.mem_set hi t'
    intro id hid
    rcases hb.before hid with hold | hnew
    · rcases h.known id hold with hk | hk | ⟨u, hu, hk⟩
      · refine Or.inl ?_
        show id ∈ g.kernelIds ++ g.winsysIds
        rw [hs.kernel, hs.winsys]
        exact hk
      · exact Or.inr (Or.inl hk)
      · -- the handle of another translator, or one that the called one keeps
        obtain ⟨j, hj, rfl⟩ := List.getElem_of_mem hu
        by_cases hij : i = j
        · subst hij
          rw [hget] at hk
          exact Or.inr (Or.inr ⟨t', hmem', hsub id hk⟩)
        · refine Or.inr (Or.inr ⟨s.translators[j], ?_, hk⟩)
          refine List.mem_of_getElem? (i := j) ?_
          rw [List.getElem?_set_ne hij, List.getElem?_eq_getElem hj]
    · exact Or.inr (Or.inr ⟨t', hmem', hP id hnew⟩)
  translators := by
    intro u hu
    rcases List.mem_or_eq_of_mem_set hu with hu | rfl
    · exact (h.translators u hu).device hb fun id hid => hfree id hid u hu
    · exact ht'

theorem callStep_eq {t : Translator} {i : Nat} {call : GLCall} (ht : s.translators[i]? = some t)
    (hcall : ∀ g, call ≠ .deviceChanges g) :
    s.callStep i call = (GLStack.callStep ⟨t, s.gpu⟩ call).map fun u =>
      ⟨s.translators.set i u.translator, u.gpu⟩ := by
  unfold callStep
  rw [ht]
  cases call
  case deviceChanges g => exact absurd rfl (hcall g)
  all_goals rfl

theorem Tidy.call {i : Nat} {call : GLCall} (h : s.Tidy) (hok : s.EventOk (.call i call))
    (hstep : s.callStep i call = some s') : s'.Tidy := by
  cases ht : s.translators[i]? with
  | none => cases call <;> simp [callStep, ht] at hstep
  | some t =>
      have hcall : ∀ g, call ≠ .deviceChanges g := by
        rintro g rfl
        simp [callStep] at hstep
      rw [callStep_eq ht hcall] at hstep
      obtain ⟨u, hu, rfl⟩ := Option.map_eq_some_iff.mp hstep
      have hmem : t ∈ s.translators := List.mem_of_getElem? ht
      have htidy : t.Tidy s.gpu := h.translators t hmem
      obtain ⟨hbuy, hbegin⟩ := hok t ht
      rcases GLStack.callStep_cases hcall hu with
        ⟨hbuying, hbought⟩ | ⟨hbeginning, hbegins⟩ | hkeeps
      · -- the buffer is asked for under an id that nobody has
        have hunused := hbuy hbuying
        have htidy' := htidy.bought hbought (h.not_isLive hunused) hunused.framebuffer
          (hunused.translators t hmem)
        refine h.setTranslator ht hbought.sameIds hbought.brings htidy' ?_ ?_ ?_
        · intro id hid
          unfold Translator.handles
          rw [hbought.vertexBuffers, List.map_append]
          exact List.mem_append_left _ hid
        · rintro id rfl
          refine Translator.mem_handles (b := ⟨t.nextHandle, s.gpu.isLive t.nextHandle⟩) ?_
          rw [hbought.vertexBuffers]
          exact List.mem_append_right _ (List.mem_singleton_self _)
        · rintro id rfl
          exact hunused.translators
      · -- all earlier buffers are gone, and none is in use yet
        have hold := hbegin hbeginning
        have hhandles : u.translator.handles = t.handles := by
          unfold Translator.handles
          rw [hbegins.vertexBuffers]
        have htidy' : u.translator.Tidy s.gpu := by
          refine ⟨hbegins.vertexBuffers ▸ htidy.untaken, hhandles ▸ htidy.framebuffer, ?_⟩
          refine ⟨t.vertexBuffers, [], ?_, hbegins.inUse.symm, hold⟩
          rw [List.append_nil, hbegins.vertexBuffers]
        rw [hbegins.gpu]
        exact h.setTranslator (P := fun _ => False) ht ⟨rfl, rfl, rfl, rfl⟩ (.refl _ _) htidy'
          (fun id hid => hhandles ▸ hid) (fun _ => False.elim) fun _ => False.elim
      · have hhandles : u.translator.handles = t.handles := by
          unfold Translator.handles
          rw [hkeeps.vertexBuffers]
        have hdevice := htidy.device hkeeps.brings fun _ => False.elim
        have htidy' : u.translator.Tidy u.gpu := by
          refine ⟨hkeeps.vertexBuffers ▸ hdevice.untaken, hhandles ▸ hdevice.framebuffer, ?_⟩
          rw [hkeeps.vertexBuffers, hkeeps.inUse]
          exact hdevice.gone
        exact h.setTranslator ht hkeeps.sameIds hkeeps.brings htidy'
          (fun id hid => hhandles ▸ hid) (fun _ => False.elim) fun _ => False.elim

theorem tidy_step {event : FleetEvent} (h : s.Tidy) (hok : s.EventOk event)
    (hstep : s.step event = some s') : s'.Tidy := by
  cases event with
  | newTranslator =>
      cases hstep
      refine ⟨h.handedOut, fun id hid => ?_, fun t ht => ?_⟩
      · exact (h.known id hid).imp_right fun hk => hk.imp_right fun ⟨t, ht, hid⟩ =>
          ⟨t, List.mem_append_left _ ht, hid⟩
      · rcases List.mem_append.mp ht with ht | ht
        · exact h.translators t ht
        · rw [List.mem_singleton.mp ht]
          exact Translator.tidy_init _
  | call i call => exact h.call hok hstep
  | draw call e =>
      cases hstep
      exact h.draw call e hok
  | framebufferResource format width height backing e =>
      cases hstep
      have hs := Gpu.sameIds_createResource2D e s.gpu 1 format width height backing
      refine h.device (h.handedOut.congr hs) (fun id hid => ?_)
        (Gpu.bringsIn_createResource2D ..) ?_
      · rw [Gpu.handed, hs.kernel, hs.winsys]
        exact hid
      · rintro id rfl
        exact ⟨Or.inr rfl, fun t ht => (h.translators t ht).framebuffer⟩
  | deallocateResource id e =>
      cases hstep
      refine h.quiet ?_ (Gpu.bringsIn_deallocateResource ..)
      unfold Gpu.deallocateResource
      dsimp only
      split
      · exact ⟨rfl, rfl, rfl, rfl⟩
      · exact ⟨rfl, rfl, rfl, rfl⟩
  | hostLate =>
      obtain ⟨l, hl, rfl⟩ := Option.map_eq_some_iff.mp hstep
      exact h.quiet ⟨rfl, rfl, rfl, rfl⟩ (Gpu.bringsIn_hostLate hl)

/-- **Handles as ids.** In every run whose steps keep to `EventOk` no vertex
buffer is asked for under an id that is taken, and none outlives the batches in
use. -/
theorem always_sound {supports3D : Bool} {maxScanouts : Nat} {events : List FleetEvent}
    (h : (machine supports3D maxScanouts).Along EventOk (machine supports3D maxScanouts).init
      events) :
    (machine supports3D maxScanouts).Always Sound (machine supports3D maxScanouts).init events :=
  ((machine supports3D maxScanouts).always_of_along (fun _ _ _ hs hok hstep =>
    tidy_step hs hok hstep) (tidy_init supports3D maxScanouts) h).imp _ fun _ => Tidy.sound

/-- A translator on context 1 draws a point. -/
def drawsPoint (i : Nat) : List FleetEvent :=
  [.newTranslator, .call i (.initWithAccelerator true 1 .accepting .accepting),
    .call i (.glBegin 0), .call i (.glVertex2f 0 0 fun _ => .accepting),
    .call i (.glEnd fun _ => .accepting)]

/-- The condition can be met: one translator draws one primitive. -/
theorem one_primitive_sound :
    (machine true 1).Always Sound (machine true 1).init (drawsPoint 0) :=
  always_sound (by decide)

/-- The second translator's first buffer has the id of the first one's. -/
theorem second_translator_collides :
    ¬ (machine true 1).Always Sound (machine true 1).init (drawsPoint 0 ++ drawsPoint 1) := by
  intro h
  obtain ⟨s, hs, hp⟩ := h.of_any _
    (p := fun s => s.translators.any fun t => t.vertexBuffers.any VertexBuffer.taken)
    (by decide)
  obtain ⟨t, ht, htaken⟩ := List.any_eq_true.mp hp
  obtain ⟨b, hb, hbtaken⟩ := List.any_eq_true.mp htaken
  rw [(hs t ht).1 b hb] at hbtaken
  cases hbtaken

end Fleet
end VMQemuVGA
