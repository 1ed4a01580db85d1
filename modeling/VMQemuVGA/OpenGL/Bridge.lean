import Mathlib.Logic.Function.Basic
import VMQemuVGA.Lib.Machine
import VMQemuVGA.Accelerator.Clients

/-! # `VMOpenGLBridge`

GL contexts, buffers and shaders draw their ids from one counter and are
entered into one dictionary. What the bridge calls the accelerator for is the
current context, by its GL id. -/

namespace VMQemuVGA

/-! ## The accelerator's side -/

/-- What a state change or a clear of the accelerator submits for the context it
found, and what it makes of it. -/
structure ContextWork where
  ret : IOReturn
  commands : List (Option Nat)

/-- Nothing is submitted, and all is well. -/
def ContextWork.idle : ContextWork := ⟨.success, []⟩

namespace Accelerator

/-- `drawPrimitives`: there are no commands to execute. -/
def drawPrimitives (e : Env) (ctx : Nat) (s : Accelerator) : IOReturn × Accelerator :=
  match s.findContext ctx with
  | none => (.notFound, s)
  | some c =>
      ((s.gpu.executeCommands e c.gpuContextId none).1,
        s.withGpu (s.gpu.executeCommands e c.gpuContextId none).2)

/-- The common course of what changes or clears something of a context. -/
def workOn (e : Env) (work : ContextWork) (ctx : Nat) (s : Accelerator) : IOReturn × Accelerator :=
  match s.findContext ctx with
  | none => (.notFound, s)
  | some c =>
      (work.ret, s.withGpu
        (work.commands.foldl (fun g size => (g.executeCommands e c.gpuContextId size).2) s.gpu))

def enableDepthTest (e : Env) (work : ContextWork) (ctx : Nat) (s : Accelerator) :
    IOReturn × Accelerator :=
  s.workOn e work ctx

def enableBlending (e : Env) (work : ContextWork) (ctx : Nat) (s : Accelerator) :
    IOReturn × Accelerator :=
  s.workOn e work ctx

def clearColorBuffer (e : Env) (work : ContextWork) (ctx : Nat) (s : Accelerator) :
    IOReturn × Accelerator :=
  s.workOn e work ctx

def clearDepthBuffer (e : Env) (work : ContextWork) (ctx : Nat) (s : Accelerator) :
    IOReturn × Accelerator :=
  s.workOn e work ctx

/-- `useShaderProgram`; `used` is what the shader manager answers, if there is one. -/
def useShaderProgram (used : Option IOReturn) (ctx : Nat) (s : Accelerator) :
    IOReturn × Accelerator :=
  match used, s.findContext ctx with
  | none, _ => (.badArgument, s)
  | some _, none => (.notFound, s)
  | some ret, some _ => (ret, s)

end Accelerator

/-! ## The bridge -/

/-- What is read of a `VMGLRenderState`. -/
structure GLRenderState where
  depthTestEnabled : Bool
  blendEnabled : Bool
  depthFunc : Nat
  srcBlendFactor : Nat
  dstBlendFactor : Nat
  deriving DecidableEq, Repr

/-- `VM_GL_LESS`, `VM_GL_ONE` and `VM_GL_ZERO`. -/
def GLRenderState.initial : GLRenderState := ⟨false, false, 0x0201, 1, 0⟩

structure OpenGLBridge where
  /-- `m_next_gl_id` -/
  nextGLId : Nat
  /-- `m_gl_resource_map`, the numbers under the keys `"%u"` -/
  resourceMap : Nat → Option Nat
  /-- `m_current_context_id` -/
  currentContextId : Nat
  currentState : GLRenderState
  boundArrayBuffer : Nat
  boundElementArrayBuffer : Nat
  currentProgram : Nat

namespace OpenGLBridge

def init : OpenGLBridge where
  nextGLId := 1
  resourceMap := fun _ => none
  currentContextId := 0
  currentState := .initial
  boundArrayBuffer := 0
  boundElementArrayBuffer := 0
  currentProgram := 0

def findGLResource (id : Nat) (b : OpenGLBridge) : Option Nat := b.resourceMap id

/-- `allocateGLId`; the id is the counter before. -/
def allocateGLId (b : OpenGLBridge) : OpenGLBridge := { b with nextGLId := inc32 b.nextGLId }

/-- An object is entered if its number could be made. -/
def setObject (id : Nat) (number : Option Nat) (b : OpenGLBridge) : OpenGLBridge :=
  match number with
  | none => b
  | some n => { b with resourceMap := Function.update b.resourceMap id (some n) }

/-- A new object, of whatever kind. -/
def newObject (number : Option Nat) (b : OpenGLBridge) : OpenGLBridge :=
  b.allocateGLId.setObject b.nextGLId number

/-- `genBuffers`, given for each buffer the number of its Metal buffer, if there
is one. -/
def genBuffers (metal : List (Option Nat)) (b : OpenGLBridge) : IOReturn × OpenGLBridge :=
  if metal = [] then (.badArgument, b)
  else (.success, metal.foldl (fun b number => b.newObject number) b)

/-- `bindBuffer`; the id is not looked up. -/
def bindBuffer (target id : Nat) (b : OpenGLBridge) : IOReturn × OpenGLBridge :=
  if target = 0x8892 then (.success, { b with boundArrayBuffer := id })
  else if target = 0x8893 then (.success, { b with boundElementArrayBuffer := id })
  else (.badArgument, b)

/-- `createShader`; `compile` is what the shader manager answers, if there is
one. Its id is drawn in any case. -/
def createShader (compile : Option (IOReturn × Option Nat)) (b : OpenGLBridge) :
    IOReturn × OpenGLBridge :=
  match compile with
  | none => (.success, b.allocateGLId)
  | some (ret, number) =>
      if ret = .success then (ret, b.newObject number) else (ret, b.allocateGLId)

/-- Something bound is there. -/
def bound (id : Nat) (b : OpenGLBridge) : Bool :=
  decide (id = 0) || (b.findGLResource id).isSome

def validateResourceState (b : OpenGLBridge) : IOReturn :=
  if b.bound b.boundArrayBuffer = false then .badArgument
  else if b.bound b.boundElementArrayBuffer = false then .badArgument
  else if b.bound b.currentProgram = false then .badArgument
  else .success

def validateOpenGLState (b : OpenGLBridge) : IOReturn :=
  if b.currentState.blendEnabled = true ∧
      (b.currentState.srcBlendFactor = 0 ∨ b.currentState.dstBlendFactor = 0) then .badArgument
  else if b.currentState.depthFunc < 0x0200 ∨ b.currentState.depthFunc > 0x0207 then .badArgument
  else .success

/-- `performContextValidation`, on a device with or without 3D. -/
def performContextValidation (supports3D : Bool) (b : OpenGLBridge) : IOReturn :=
  if b.currentContextId = 0 then .notReady
  else if supports3D = false then .unsupported
  else if (b.findGLResource b.currentContextId).isNone then .notFound
  else if b.validateResourceState ≠ .success then b.validateResourceState
  else b.validateOpenGLState

end OpenGLBridge

/-! ## The bridge on its accelerator -/

/-- What the surroundings answer during one call. -/
structure BridgeEnv extends AccelEnv where
  depthTest : ContextWork
  blending : ContextWork
  colorClear : ContextWork
  depthClear : ContextWork
  program : Option IOReturn

/-- Nothing fails. -/
def BridgeEnv.accepting : BridgeEnv where
  toAccelEnv := .accepting
  depthTest := .idle
  blending := .idle
  colorClear := .idle
  depthClear := .idle
  program := some .success

/-- The same surroundings with another device and host. -/
def BridgeEnv.mapEnv (f : Env → Env) (e : BridgeEnv) : BridgeEnv :=
  { e with toAccelEnv := e.toAccelEnv.mapEnv f }

/-- A call on the accelerator for a context: what was current, the id the call
carries, and whether another client had got that id. -/
structure ContextCall where
  current : Nat
  carried : Nat
  foreign : Bool
  deriving DecidableEq, Repr

/-- The two, and what a run is asked about afterwards: no code keeps the rest. -/
structure BridgeRun where
  bridge : OpenGLBridge
  accel : Accelerator
  /-- what `createContext` returned, with what `create3DContext` had -/
  contexts : List (Nat × Nat)
  /-- what `create3DContext` returned to other clients -/
  others : List Nat
  calls : List ContextCall
  /-- `makeContextCurrent` has accepted `0` and the contexts, and nothing else -/
  honest : Bool
  /-- a `makeContextCurrent` that failed has changed nothing of what was current -/
  kept : Bool

/-- What can happen: calls on the bridge, calls of other clients on the
accelerator, and the host executing a command whose caller timed out. -/
inductive BridgeCall where
  | createContext (stored : Bool)
  | makeContextCurrent (id : Nat)
  | genBuffers (metal : List (Option Nat))
  | bindBuffer (target id : Nat)
  | createShader (compile : Option (IOReturn × Option Nat))
  | drawArrays
  | clear (mask : Nat)
  | client (call : AccelCall)
  | hostLate
  deriving DecidableEq, Repr

namespace BridgeRun

/-- `m_accelerator->op(carried, …)`. -/
def callAccel (carried : Nat) (op : Nat → Accelerator → IOReturn × Accelerator) (s : BridgeRun) :
    IOReturn × BridgeRun :=
  ((op carried s.accel).1,
    { s with
      accel := (op carried s.accel).2
      calls := s.calls ++ [⟨s.bridge.currentContextId, carried, decide (carried ∈ s.others)⟩] })

/-- One of several calls in a row: made if it is wanted and the ones before it
went well. -/
def callIf (wanted : Bool) (op : Nat → Accelerator → IOReturn × Accelerator)
    (r : IOReturn × BridgeRun) : IOReturn × BridgeRun :=
  if wanted = true ∧ r.1 = .success then r.2.callAccel r.2.bridge.currentContextId op else r

/-- `createContext`; `stored` says whether its number could be made. -/
def createContext (e : BridgeEnv) (stored : Bool) (s : BridgeRun) : IOReturn × BridgeRun :=
  let r := s.accel.create3DContext e.toAccelEnv
  if r.1 ≠ .success then (r.1, { s with accel := r.2 })
  else
    (.success, { s with
      accel := r.2
      bridge := s.bridge.newObject (if stored then some s.bridge.nextGLId else none)
      contexts := s.contexts ++ [(s.bridge.nextGLId, r.2.nextContextId)] })

/-- The calls of `syncGLState`. -/
def syncCalls (e : BridgeEnv) (s : BridgeRun) : IOReturn × BridgeRun :=
  callIf (decide (s.bridge.currentProgram ≠ 0)) (Accelerator.useShaderProgram e.program)
    (callIf s.bridge.currentState.blendEnabled (Accelerator.enableBlending e.toEnv e.blending)
      (callIf s.bridge.currentState.depthTestEnabled
        (Accelerator.enableDepthTest e.toEnv e.depthTest) (.success, s)))

def syncGLState (e : BridgeEnv) (s : BridgeRun) : IOReturn × BridgeRun :=
  if s.bridge.currentContextId = 0 then (.success, s) else
  let r := s.syncCalls e
  if r.1 ≠ .success then r
  else (r.2.bridge.performContextValidation r.2.accel.gpu.supports3D, r.2)

/-- `m_current_context_id = id`. -/
def setCurrent (id : Nat) (s : BridgeRun) : BridgeRun :=
  { s with bridge := { s.bridge with currentContextId := id } }

/-- `makeContextCurrent`: whatever is found under the id will do. -/
def makeContextCurrent (e : BridgeEnv) (id : Nat) (s : BridgeRun) : IOReturn × BridgeRun :=
  if id = 0 then (.success, s.setCurrent 0)
  else if (s.bridge.findGLResource id).isNone then (.notFound, s)
  else (s.setCurrent id).syncGLState e

def drawArrays (e : BridgeEnv) (s : BridgeRun) : IOReturn × BridgeRun :=
  if s.bridge.currentContextId = 0 then (.notReady, s)
  else s.callAccel s.bridge.currentContextId (Accelerator.drawPrimitives e.toEnv)

/-- `clear`: the colour buffer first. -/
def clear (e : BridgeEnv) (mask : Nat) (s : BridgeRun) : IOReturn × BridgeRun :=
  if s.bridge.currentContextId = 0 then (.notReady, s)
  else
    callIf (decide (mask &&& 0x0100 ≠ 0)) (Accelerator.clearDepthBuffer e.toEnv e.depthClear)
      (callIf (decide (mask &&& 0x4000 ≠ 0)) (Accelerator.clearColorBuffer e.toEnv e.colorClear)
        (.success, s))

/-! ## Runs -/

/-- The ids `createContext` has returned. -/
def created (s : BridgeRun) : List Nat := s.contexts.map Prod.fst

/-- Write down how `makeContextCurrent id` went. -/
def judge (s : BridgeRun) (id : Nat) (r : IOReturn × BridgeRun) : BridgeRun :=
  { r.2 with
    honest := s.honest && decide (r.1 = .success ↔ id = 0 ∨ id ∈ s.created)
    kept := s.kept && (decide (r.1 = .success) ||
      decide (r.2.bridge.currentContextId = s.bridge.currentContextId)) }

/-- A call of another client. -/
def client (e e' : AccelEnv) (call : AccelCall) (s : BridgeRun) : BridgeRun :=
  let r := s.accel.call e e' call
  { s with
    accel := r.2
    others :=
      if call = .create3DContext ∧ r.1 = .success then s.others ++ [r.2.nextContextId]
      else s.others }

def step (s : BridgeRun) (call : BridgeCall) (e e' : BridgeEnv) : Option BridgeRun :=
  match call with
  | .createContext stored => some (s.createContext e stored).2
  | .makeContextCurrent id => some (s.judge id (s.makeContextCurrent e id))
  | .genBuffers metal => some { s with bridge := (s.bridge.genBuffers metal).2 }
  | .bindBuffer target id => some { s with bridge := (s.bridge.bindBuffer target id).2 }
  | .createShader compile => some { s with bridge := (s.bridge.createShader compile).2 }
  | .drawArrays => some (s.drawArrays e).2
  | .clear mask => some (s.clear e mask).2
  | .client call => some (s.client e.toAccelEnv e'.toAccelEnv call)
  | .hostLate =>
      s.accel.gpu.link.execLate.map fun l =>
        { s with accel := s.accel.withGpu { s.accel.gpu with link := l } }

/-- Nothing has happened yet. -/
def init (supports3D : Bool) (maxScanouts : Nat) : BridgeRun where
  bridge := .init
  accel := .init supports3D maxScanouts
  contexts := []
  others := []
  calls := []
  honest := true
  kept := true

/-- All runs, in surroundings whose device and host are as `host` makes them. -/
def machine (host : Env → Env) (supports3D : Bool) (maxScanouts : Nat) :
    Machine BridgeRun (BridgeCall × BridgeEnv × BridgeEnv) where
  init := init supports3D maxScanouts
  step := fun s c => s.step c.1 (c.2.1.mapEnv host) (c.2.2.mapEnv host)

/-! ## What is asked of a run -/

/-- Every call for a context carried what its creation got from the accelerator,
and nobody else had that; `makeContextCurrent` did what it says. -/
structure Right (s : BridgeRun) : Prop where
  calls : ∀ c ∈ s.calls, (c.current, c.carried) ∈ s.contexts ∧ c.foreign = false
  honest : s.honest = true
  kept : s.kept = true

/-- The current context got its own id from the accelerator too, and no other
client did. -/
def OwnId (s : BridgeRun) : Prop :=
  (s.bridge.currentContextId, s.bridge.currentContextId) ∈ s.contexts ∧
    s.bridge.currentContextId ∉ s.others

/-- What is validated once something is current. -/
def Valid (s : BridgeRun) : Prop :=
  s.accel.gpu.supports3D = true ∧ s.bridge.bound s.bridge.boundArrayBuffer = true ∧
    s.bridge.bound s.bridge.boundElementArrayBuffer = true

/-- There is an object under the id, of whatever kind. -/
def Known (s : BridgeRun) (id : Nat) : Prop := (s.bridge.findGLResource id).isSome = true

/-- Exactly the contexts are there to be made current, and what is there stays
current or passes the validation. -/
def Makes (s : BridgeRun) (id : Nat) : Prop :=
  id = 0 ∨ ((id ∈ s.created ↔ s.Known id ∧ s.Valid) ∧
    (s.Known id → s.Valid ∨ id = s.bridge.currentContextId))

/-- The condition on a call. -/
def Meets (s : BridgeRun) : BridgeCall → Prop
  | .makeContextCurrent id => s.Makes id
  | .drawArrays => s.bridge.currentContextId = 0 ∨ s.OwnId
  | .clear mask =>
      s.bridge.currentContextId = 0 ∨ (mask &&& 0x4000 = 0 ∧ mask &&& 0x0100 = 0) ∨ s.OwnId
  | _ => True

/-! ## The state nobody changes -/

/-- The render state is the initial one, and no program is in use. -/
structure Untouched (b : OpenGLBridge) : Prop where
  state : b.currentState = .initial
  program : b.currentProgram = 0

theorem untouched_init : Untouched .init := ⟨rfl, rfl⟩

theorem Untouched.newObject {b : OpenGLBridge} (h : Untouched b) (number : Option Nat) :
    Untouched (b.newObject number) := by
  cases number with
  | none => exact ⟨h.state, h.program⟩
  | some n => exact ⟨h.state, h.program⟩

theorem Untouched.genBuffers {b : OpenGLBridge} (h : Untouched b) (metal : List (Option Nat)) :
    Untouched (b.genBuffers metal).2 := by
  unfold OpenGLBridge.genBuffers
  split
  · exact h
  · induction metal generalizing b with
    | nil => exact h
    | cons number metal ih =>
        by_cases hnil : metal = []
        · subst hnil
          exact h.newObject number
        · exact ih (h.newObject number) hnil

theorem Untouched.bindBuffer {b : OpenGLBridge} (h : Untouched b) (target id : Nat) :
    Untouched (b.bindBuffer target id).2 := by
  unfold OpenGLBridge.bindBuffer
  split
  · exact ⟨h.state, h.program⟩
  · split
    · exact ⟨h.state, h.program⟩
    · exact h

theorem Untouched.createShader {b : OpenGLBridge} (h : Untouched b)
    (compile : Option (IOReturn × Option Nat)) : Untouched (b.createShader compile).2 := by
  rcases compile with _ | ⟨ret, number⟩
  · exact ⟨h.state, h.program⟩
  · unfold OpenGLBridge.createShader
    dsimp only
    split
    · exact h.newObject number
    · exact ⟨h.state, h.program⟩

/-- The initial state passes its validation. -/
theorem Untouched.validateOpenGLState {b : OpenGLBridge} (h : Untouched b) :
    b.validateOpenGLState = .success := by
  unfold OpenGLBridge.validateOpenGLState
  rw [h.state]
  rfl

/-! ## What the calls do -/

section Calls
variable {s : BridgeRun} {e : BridgeEnv}

@[simp] theorem callIf_false (op : Nat → Accelerator → IOReturn × Accelerator)
    (r : IOReturn × BridgeRun) : callIf false op r = r :=
  if_neg fun h => Bool.noConfusion h.1

@[simp] theorem callIf_true (op : Nat → Accelerator → IOReturn × Accelerator) (s : BridgeRun) :
    callIf true op (.success, s) = s.callAccel s.bridge.currentContextId op :=
  if_pos ⟨rfl, rfl⟩

/-- Nothing is called to bring the accelerator up to date. -/
theorem syncCalls_of_untouched (h : Untouched s.bridge) : s.syncCalls e = (.success, s) := by
  unfold syncCalls
  rw [h.state, h.program]
  rfl

/-- The validation of what is there. -/
theorem performContextValidation_iff (h : Untouched s.bridge)
    (hcur : s.bridge.currentContextId ≠ 0) (hknown : s.Known s.bridge.currentContextId) :
    s.bridge.performContextValidation s.accel.gpu.supports3D = .success ↔ s.Valid := by
  have hfound : (s.bridge.findGLResource s.bridge.currentContextId).isNone = false := by
    rw [← Option.not_isSome, hknown]
    rfl
  have hprogram : s.bridge.bound s.bridge.currentProgram = true := by
    rw [h.program]
    rfl
  unfold OpenGLBridge.performContextValidation OpenGLBridge.validateResourceState Valid
  rw [if_neg hcur, hfound, hprogram, h.validateOpenGLState]
  cases s.accel.gpu.supports3D <;> cases s.bridge.bound s.bridge.boundArrayBuffer <;>
    cases s.bridge.bound s.bridge.boundElementArrayBuffer <;> simp

/-- **What `makeContextCurrent` makes of an id.** -/
theorem makeContextCurrent_cases (h : Untouched s.bridge) (e : BridgeEnv) (id : Nat) :
    (id = 0 ∧ s.makeContextCurrent e id = (.success, s.setCurrent 0)) ∨
    (id ≠ 0 ∧ ¬ s.Known id ∧ s.makeContextCurrent e id = (.notFound, s)) ∨
    (id ≠ 0 ∧ s.Known id ∧ ∃ ret, (ret = .success ↔ s.Valid) ∧
      s.makeContextCurrent e id = (ret, s.setCurrent id)) := by
  unfold makeContextCurrent
  by_cases hid : id = 0
  · exact Or.inl ⟨hid, if_pos hid⟩
  · rw [if_neg hid]
    by_cases hknown : s.Known id
    · have hsome : (s.bridge.findGLResource id).isSome = true := hknown
      have hnone : ¬ (s.bridge.findGLResource id).isNone = true := by
        rw [← Option.not_isSome, hsome]
        decide
      have hu : Untouched (s.setCurrent id).bridge := ⟨h.state, h.program⟩
      have hvalid := performContextValidation_iff (s := s.setCurrent id) hu hid hknown
      refine Or.inr (Or.inr ⟨hid, hknown, _, hvalid, ?_⟩)
      rw [if_neg hnone]
      unfold syncGLState
      rw [if_neg (show (s.setCurrent id).bridge.currentContextId ≠ 0 from hid),
        syncCalls_of_untouched hu]
      rfl
    · have hnone : (s.bridge.findGLResource id).isNone = true := by
        rw [← Option.not_isSome]
        exact (Bool.not_eq_true' _).mpr (eq_false_of_ne_true hknown)
      exact Or.inr (Or.inl ⟨hid, hknown, if_pos hnone⟩)

/-- What a call for the current context is written down as. -/
def entry (s : BridgeRun) : ContextCall :=
  ⟨s.bridge.currentContextId, s.bridge.currentContextId,
    decide (s.bridge.currentContextId ∈ s.others)⟩

theorem ownId_iff :
    (s.entry.current, s.entry.carried) ∈ s.contexts ∧ s.entry.foreign = false ↔ s.OwnId := by
  unfold entry OwnId
  rw [decide_eq_false_iff_not]

/-- What a row of calls for the current context writes down. -/
structure Wrote (s : BridgeRun) (calls : List ContextCall) (t : BridgeRun) : Prop where
  bridge : t.bridge = s.bridge
  contexts : t.contexts = s.contexts
  others : t.others = s.others
  honest : t.honest = s.honest
  kept : t.kept = s.kept
  calls : t.calls = s.calls ++ calls

theorem Wrote.refl (s : BridgeRun) : s.Wrote [] s := ⟨rfl, rfl, rfl, rfl, rfl, by simp⟩

theorem wrote_callAccel (op : Nat → Accelerator → IOReturn × Accelerator) :
    s.Wrote [s.entry] (s.callAccel s.bridge.currentContextId op).2 :=
  ⟨rfl, rfl, rfl, rfl, rfl, rfl⟩

/-- What one call more writes down. -/
theorem Wrote.callAccel {t : BridgeRun} {calls : List ContextCall} (h : s.Wrote calls t)
    (op : Nat → Accelerator → IOReturn × Accelerator) :
    s.Wrote (calls ++ [s.entry]) (t.callAccel t.bridge.currentContextId op).2 := by
  have hentry : t.entry = s.entry := by
    unfold entry
    rw [h.bridge, h.others]
  refine ⟨h.bridge, h.contexts, h.others, h.honest, h.kept, ?_⟩
  show t.calls ++ [t.entry] = s.calls ++ (calls ++ [s.entry])
  rw [h.calls, hentry, List.append_assoc]

/-- A row of equal calls is right where the first is. -/
theorem Wrote.right_iff {t : BridgeRun} {calls : List ContextCall} (h : s.Wrote calls t)
    (hs : s.Right) (hcalls : ∀ c ∈ calls, c = s.entry) :
    t.Right ↔ calls = [] ∨ s.OwnId := by
  constructor
  · intro ht
    by_cases hnil : calls = []
    · exact Or.inl hnil
    · obtain ⟨c, hc⟩ := List.exists_mem_of_ne_nil calls hnil
      have hright := ht.calls c (by rw [h.calls]; exact List.mem_append_right _ hc)
      rw [hcalls c hc, h.contexts] at hright
      exact Or.inr (ownId_iff.mp hright)
  · intro hown
    refine ⟨fun c hc => ?_, h.honest.trans hs.honest, h.kept.trans hs.kept⟩
    rw [h.calls, List.mem_append] at hc
    rw [h.contexts]
    rcases hc with hc | hc
    · exact hs.calls c hc
    · rcases hown with rfl | hown
      · cases hc
      · rw [hcalls c hc]
        exact ownId_iff.mpr hown

end Calls

/-! ## One step -/

section Steps
variable {s : BridgeRun}

theorem drawArrays_right_iff (hs : s.Right) (e : BridgeEnv) :
    (s.drawArrays e).2.Right ↔ s.Meets .drawArrays := by
  unfold drawArrays
  by_cases hcur : s.bridge.currentContextId = 0
  · rw [if_pos hcur]
    exact ⟨fun _ => Or.inl hcur, fun _ => hs⟩
  · rw [if_neg hcur, (wrote_callAccel _).right_iff hs fun c hc => List.mem_singleton.mp hc]
    exact ⟨fun h => Or.inr (h.resolve_left (List.cons_ne_nil _ _)),
      fun h => Or.inr (h.resolve_left hcur)⟩

/-- What `clear` writes down: nothing exactly where the mask has neither bit. -/
theorem clear_wrote (hcur : s.bridge.currentContextId ≠ 0) (e : BridgeEnv) (mask : Nat) :
    ∃ calls, s.Wrote calls (s.clear e mask).2 ∧ (∀ c ∈ calls, c = s.entry) ∧
      (calls = [] ↔ mask &&& 0x4000 = 0 ∧ mask &&& 0x0100 = 0) := by
  unfold clear
  rw [if_neg hcur]
  by_cases hcolor : mask &&& 0x4000 = 0
  · by_cases hdepth : mask &&& 0x0100 = 0
    · refine ⟨[], ?_, fun c hc => (by cases hc), fun _ => ⟨hcolor, hdepth⟩, fun _ => rfl⟩
      rw [decide_eq_false (not_not.mpr hcolor), decide_eq_false (not_not.mpr hdepth)]
      exact .refl s
    · refine ⟨[s.entry], ?_, fun c hc => List.mem_singleton.mp hc, fun h => (by cases h),
        fun h => absurd h.2 hdepth⟩
      rw [decide_eq_false (not_not.mpr hcolor), decide_eq_true hdepth, callIf_false]
      exact wrote_callAccel _
  · rw [decide_eq_true hcolor, callIf_true]
    have hfirst := wrote_callAccel (s := s) (Accelerator.clearColorBuffer e.toEnv e.colorClear)
    unfold callIf
    split
    · refine ⟨_, hfirst.callAccel _, fun c hc => ?_, fun h => (by cases h),
        fun h => absurd h.1 hcolor⟩
      simpa using hc
    · exact ⟨_, hfirst, fun c hc => List.mem_singleton.mp hc, fun h => (by cases h),
        fun h => absurd h.1 hcolor⟩

theorem clear_right_iff (hs : s.Right) (e : BridgeEnv) (mask : Nat) :
    (s.clear e mask).2.Right ↔ s.Meets (.clear mask) := by
  by_cases hcur : s.bridge.currentContextId = 0
  · unfold clear
    rw [if_pos hcur]
    exact ⟨fun _ => Or.inl hcur, fun _ => hs⟩
  · obtain ⟨calls, hwrote, hcalls, hnil⟩ := clear_wrote hcur e mask
    rw [hwrote.right_iff hs hcalls, hnil]
    exact ⟨Or.inr, fun h => h.resolve_left hcur⟩

/-- Where nothing is called, only the two verdicts matter. -/
theorem judge_right_iff (hs : s.Right) {id : Nat} {ret : IOReturn} {t : BridgeRun}
    (hcalls : t.calls = s.calls) (hcontexts : t.contexts = s.contexts) :
    (s.judge id (ret, t)).Right ↔
      (ret = .success ↔ id = 0 ∨ id ∈ s.created) ∧
        (ret = .success ∨ t.bridge.currentContextId = s.bridge.currentContextId) := by
  have hhonest : (s.judge id (ret, t)).honest = true ↔
      (ret = .success ↔ id = 0 ∨ id ∈ s.created) := by
    show (s.honest && _) = true ↔ _
    rw [hs.honest, Bool.true_and, decide_eq_true_iff]
  have hkept : (s.judge id (ret, t)).kept = true ↔
      (ret = .success ∨ t.bridge.currentContextId = s.bridge.currentContextId) := by
    show (s.kept && _) = true ↔ _
    rw [hs.kept, Bool.true_and, Bool.or_eq_true, decide_eq_true_iff, decide_eq_true_iff]
  constructor
  · intro ht
    exact ⟨hhonest.mp ht.honest, hkept.mp ht.kept⟩
  · rintro ⟨hh, hk⟩
    refine ⟨fun c hc => ?_, hhonest.mpr hh, hkept.mpr hk⟩
    have hc' : c ∈ s.calls := hcalls ▸ hc
    show (c.current, c.carried) ∈ t.contexts ∧ c.foreign = false
    rw [hcontexts]
    exact hs.calls c hc'

theorem makeContextCurrent_right_iff (hu : Untouched s.bridge) (hs : s.Right) (e : BridgeEnv)
    (id : Nat) :
    (s.judge id (s.makeContextCurrent e id)).Right ↔ s.Meets (.makeContextCurrent id) := by
  show _ ↔ s.Makes id
  unfold Makes
  rcases makeContextCurrent_cases hu e id with ⟨hid, heq⟩ | ⟨hid, hknown, heq⟩ |
    ⟨hid, hknown, ret, hret, heq⟩
  · rw [heq, judge_right_iff (t := s.setCurrent 0) hs rfl rfl]
    simp only [hid, true_or, true_and]
  · rw [heq, judge_right_iff hs rfl rfl]
    simp only [hid, hknown, false_or, false_and, iff_false, reduceCtorEq, false_iff,
      false_imp_iff, and_true]
  · rw [heq, judge_right_iff (t := s.setCurrent id) hs rfl rfl, hret]
    show (_ ∧ (_ ∨ id = _)) ↔ _
    simp only [hid, hknown, false_or, true_and, true_imp_iff]
    rw [iff_comm (a := s.Valid)]

/-- What leaves calls and verdicts alone, and takes away no context. -/
theorem Right.mono {t : BridgeRun} (hs : s.Right) (hcalls : t.calls = s.calls)
    (hcontexts : ∀ p ∈ s.contexts, p ∈ t.contexts) (hhonest : t.honest = s.honest)
    (hkept : t.kept = s.kept) : t.Right := by
  refine ⟨fun c hc => ?_, hhonest.trans hs.honest, hkept.trans hs.kept⟩
  rw [hcalls] at hc
  exact ⟨hcontexts _ (hs.calls c hc).1, (hs.calls c hc).2⟩

theorem createContext_untouched (h : Untouched s.bridge) (e : BridgeEnv) (stored : Bool) :
    Untouched (s.createContext e stored).2.bridge := by
  unfold createContext
  dsimp only
  split
  · exact h
  · exact h.newObject _

theorem createContext_right (hs : s.Right) (e : BridgeEnv) (stored : Bool) :
    (s.createContext e stored).2.Right := by
  unfold createContext
  dsimp only
  split
  · exact hs.mono rfl (fun p hp => hp) rfl rfl
  · exact hs.mono rfl (fun p hp => List.mem_append_left _ hp) rfl rfl

/-- No step touches the render state. -/
theorem step_untouched {t : BridgeRun} {call : BridgeCall} {e e' : BridgeEnv}
    (hu : Untouched s.bridge) (h : s.step call e e' = some t) : Untouched t.bridge := by
  cases call with
  | createContext stored =>
      cases h
      exact createContext_untouched hu e stored
  | makeContextCurrent id =>
      cases h
      show Untouched (s.makeContextCurrent e id).2.bridge
      rcases makeContextCurrent_cases hu e id with ⟨-, heq⟩ | ⟨-, -, heq⟩ | ⟨-, -, ret, -, heq⟩
      · rw [heq]
        exact ⟨hu.state, hu.program⟩
      · rw [heq]
        exact hu
      · rw [heq]
        exact ⟨hu.state, hu.program⟩
  | genBuffers metal =>
      cases h
      exact hu.genBuffers metal
  | bindBuffer target id =>
      cases h
      exact hu.bindBuffer target id
  | createShader compile =>
      cases h
      exact hu.createShader compile
  | drawArrays =>
      cases h
      unfold drawArrays
      split
      · exact hu
      · exact hu
  | clear mask =>
      cases h
      by_cases hcur : s.bridge.currentContextId = 0
      · unfold clear
        rw [if_pos hcur]
        exact hu
      · obtain ⟨calls, hwrote, -⟩ := clear_wrote hcur e mask
        rw [hwrote.bridge]
        exact hu
  | client call =>
      cases h
      exact hu
  | hostLate =>
      obtain ⟨l, -, rfl⟩ := Option.map_eq_some_iff.mp h
      exact hu

/-- **One step.** It leaves a right run right exactly where its call meets the
condition. -/
theorem step_right_iff {t : BridgeRun} {call : BridgeCall} {e e' : BridgeEnv}
    (hu : Untouched s.bridge) (hs : s.Right) (h : s.step call e e' = some t) :
    t.Right ↔ s.Meets call := by
  cases call with
  | createContext stored =>
      cases h
      exact iff_of_true (createContext_right hs e stored) trivial
  | makeContextCurrent id =>
      cases h
      exact makeContextCurrent_right_iff hu hs e id
  | drawArrays =>
      cases h
      exact drawArrays_right_iff hs e
  | clear mask =>
      cases h
      exact clear_right_iff hs e mask
  | genBuffers metal =>
      cases h
      exact iff_of_true (hs.mono rfl (fun p hp => hp) rfl rfl) trivial
  | bindBuffer target id =>
      cases h
      exact iff_of_true (hs.mono rfl (fun p hp => hp) rfl rfl) trivial
  | createShader compile =>
      cases h
      exact iff_of_true (hs.mono rfl (fun p hp => hp) rfl rfl) trivial
  | client call =>
      cases h
      exact iff_of_true (hs.mono rfl (fun p hp => hp) rfl rfl) trivial
  | hostLate =>
      obtain ⟨l, -, rfl⟩ := Option.map_eq_some_iff.mp h
      exact iff_of_true (hs.mono rfl (fun p hp => hp) rfl rfl) trivial

end Steps

/-! ## Whole runs -/

theorem right_init (supports3D : Bool) (maxScanouts : Nat) : (init supports3D maxScanouts).Right :=
  ⟨fun c hc => (by cases hc), rfl, rfl⟩

/-- **The bridge is right exactly as long as its two counters agree** and nothing
but contexts is made current. -/
theorem contexts_right_iff (host : Env → Env) (supports3D : Bool) (maxScanouts : Nat)
    (calls : List (BridgeCall × BridgeEnv × BridgeEnv)) :
    (machine host supports3D maxScanouts).Always Right (init supports3D maxScanouts) calls ↔
      (machine host supports3D maxScanouts).Along (fun s c => s.Meets c.1)
        (init supports3D maxScanouts) calls :=
  (machine host supports3D maxScanouts).always_iff_along
    (J := fun s : BridgeRun => Untouched s.bridge)
    (fun _ _ _ hu h => step_untouched hu h)
    (fun _ _ _ hu hs h => step_right_iff hu hs h)
    untouched_init (right_init supports3D maxScanouts)

/-- A run of calls under which nothing fails. -/
def plain (calls : List BridgeCall) : List (BridgeCall × BridgeEnv × BridgeEnv) :=
  calls.map fun call => (call, .accepting, .accepting)

/-- Another client has context `2` of the accelerator, and the bridge draws there
for its own second context, which is `4`. -/
theorem draw_astray : ¬ ∀ calls, (machine id true 1).Always Right (init true 1) calls := by
  intro h
  have hrun := h (plain
    [.client .create3DContext, .createContext true, .createContext true, .makeContextCurrent 2,
      .drawArrays])
  obtain ⟨s, hs, hp⟩ := hrun.of_any _
    (p := fun s : BridgeRun => decide (s.contexts = [(1, 3), (2, 4)] ∧ s.calls = [⟨2, 2, true⟩]))
    (by decide)
  obtain ⟨hcontexts, hcalls⟩ := of_decide_eq_true hp
  have hright := hs.calls ⟨2, 2, true⟩ (by rw [hcalls]; exact List.mem_singleton_self _)
  exact absurd hright.2 (by decide)

end BridgeRun
end VMQemuVGA
