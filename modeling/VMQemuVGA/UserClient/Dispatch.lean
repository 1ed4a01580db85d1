import VMQemuVGA.UserClient.Submit3D
import VMQemuVGA.Lib.Machine

/-! # Two ways to submit commands

`VMQemuVGA3DUserClient` and `VMCGLContext` both hand a client's commands to the accelerator.
A call comes through a dispatch entry, which `IOUserClient::externalMethod` compares with the
sizes of the arguments, and then to a handler, which may have checks of its own. -/

namespace VMQemuVGA

/-! ## Calls -/

/-- The four sizes of a call. -/
inductive ArgumentField where
  | scalarInput
  | structureInput
  | scalarOutput
  | structureOutput
  deriving DecidableEq, Repr

/-- What the caller passes. -/
structure MethodArguments where
  scalarInput : List Nat
  structureInput : List UInt8
  scalarOutputCount : Nat
  structureOutputSize : Nat
  deriving DecidableEq, Repr

namespace MethodArguments
variable (a : MethodArguments)

/-- A structure input has as many bytes as it has, in either form. -/
def size : ArgumentField → Nat
  | .scalarInput => a.scalarInput.length
  | .structureInput => a.structureInput.length
  | .scalarOutput => a.scalarOutputCount
  | .structureOutput => a.structureOutputSize

/-- What is delivered inline. -/
def inlineLimit : Nat := 4096

/-- `structureInputDescriptor`. -/
def inputDescriptor : Option (List UInt8) :=
  if a.structureInput.length ≤ inlineLimit then none else some a.structureInput

/-- `(uint32_t)args->scalarInput[0]`. -/
def firstScalar : Nat := a.scalarInput.headD 0 % u32

end MethodArguments

/-! ## Dispatch entries -/

/-- `kIOUCVariableStructureSize`. -/
def variableSize : Nat := 0xFFFFFFFF

/-- An `IOExternalMethodDispatch`, its fields in their order. -/
structure DispatchEntry where
  checkScalarInputCount : Nat
  checkStructureInputSize : Nat
  checkScalarOutputCount : Nat
  checkStructureOutputSize : Nat
  deriving DecidableEq, Repr

namespace DispatchEntry
variable (d : DispatchEntry)

def wanted : ArgumentField → Nat
  | .scalarInput => d.checkScalarInputCount
  | .structureInput => d.checkStructureInputSize
  | .scalarOutput => d.checkScalarOutputCount
  | .structureOutput => d.checkStructureOutputSize

def accepts (field : ArgumentField) (size : Nat) : Bool :=
  decide (d.wanted field = variableSize ∨ d.wanted field = size)

/-- All four sizes are accepted. -/
def admits (a : MethodArguments) : Bool :=
  d.accepts .scalarInput (a.size .scalarInput) &&
    d.accepts .structureInput (a.size .structureInput) &&
    d.accepts .scalarOutput (a.size .scalarOutput) &&
    d.accepts .structureOutput (a.size .structureOutput)

end DispatchEntry

/-- A check of a handler: what it wants of one of the sizes. -/
structure HandlerCheck where
  field : ArgumentField
  met : Nat → Bool

def HandlerCheck.exactly (field : ArgumentField) (size : Nat) : HandlerCheck :=
  ⟨field, fun n => decide (n = size)⟩

/-! ## User clients -/

/-- Whether the client has a context, and its id. -/
structure ClientContext where
  contextId : Nat
  live : Bool
  deriving DecidableEq, Repr

/-- What the accelerator answers, and whether `withAddress` gets its descriptor. -/
structure MethodEnv where
  create : Except IOReturn Nat
  destroy : IOReturn
  withAddress : Bool
  submit : IOReturn
  other : IOReturn

/-- What a call returns and leaves, with the buffers it hands to `submit3DCommands`, each
with a context. -/
structure Served where
  ret : IOReturn
  client : ClientContext
  submitted : List (Nat × List UInt8)

/-- A class of user clients with the methods `μ`. -/
structure UserClientClass (μ : Type) where
  entry : μ → DispatchEntry
  checks : μ → List HandlerCheck
  handler : μ → MethodEnv → MethodArguments → ClientContext → Served

namespace ClientContext
variable (c : ClientContext)

def init : ClientContext := ⟨0, false⟩

/-- Nothing happens. -/
def answer (ret : IOReturn) : Served := ⟨ret, c, []⟩

/-- `create3DContext` for a client that has no context. -/
def create (e : MethodEnv) : Served :=
  if c.live then c.answer .exclusiveAccess
  else
    match e.create with
    | .error ret => c.answer ret
    | .ok id => ⟨.success, ⟨id, true⟩, []⟩

/-- `destroy3DContext` of the client's context. -/
def destroy (e : MethodEnv) : Served :=
  if e.destroy ≠ .success then c.answer e.destroy else ⟨.success, init, []⟩

/-- `submit3DCommands` in the client's context. -/
def submit (e : MethodEnv) (commands : List UInt8) : Served :=
  ⟨e.submit, c, [(c.contextId, commands)]⟩

end ClientContext

/-! ### VMQemuVGA3DUserClient -/

inductive ThreeDMethod where
  | create3DContext
  | destroy3DContext
  | create3DSurface
  | destroy3DSurface
  | submit3DCommands
  | present3DSurface
  | getCapabilities
  deriving DecidableEq, Repr

namespace ThreeDMethod

/-- `sizeof(VM3DSurfaceInfo)`. -/
def surfaceInfoSize : Nat := 40

/-- `sMethods`. -/
def sMethods : ThreeDMethod → DispatchEntry
  | create3DContext => ⟨0, 0, 1, 0⟩
  | destroy3DContext => ⟨1, 0, 0, 0⟩
  | create3DSurface => ⟨1, surfaceInfoSize, 1, 0⟩
  | destroy3DSurface => ⟨2, 0, 0, 0⟩
  | submit3DCommands => ⟨1, 0, 0, 0⟩
  | present3DSurface => ⟨2, 0, 0, 0⟩
  | getCapabilities => ⟨0, 0, 0, 256⟩

/-- Only the commands have to come in a descriptor. -/
def checks : ThreeDMethod → List HandlerCheck
  | submit3DCommands => [⟨.structureInput, fun n => decide (MethodArguments.inlineLimit < n)⟩]
  | _ => []

/-- `!me->m_has_context || context_id != me->m_context_id`. -/
def foreign (a : MethodArguments) (c : ClientContext) : Bool :=
  !c.live || decide (a.firstScalar ≠ c.contextId)

def handler (m : ThreeDMethod) (e : MethodEnv) (a : MethodArguments) (c : ClientContext) :
    Served :=
  match m with
  | create3DContext => c.create e
  | destroy3DContext => if foreign a c then c.answer .badArgument else c.destroy e
  | submit3DCommands =>
      if foreign a c then c.answer .badArgument
      else
        match a.inputDescriptor with
        | none => c.answer .badArgument
        | some commands => c.submit e commands
  | getCapabilities => c.answer .success
  | _ => if foreign a c then c.answer .badArgument else c.answer e.other

/-- `VMQemuVGA3DUserClient`. -/
def client : UserClientClass ThreeDMethod := ⟨sMethods, checks, handler⟩

end ThreeDMethod

/-! ### VMCGLContext -/

inductive CGLMethod where
  | createContext
  | destroyContext
  | setSurface
  | flushContext
  | submitCommands
  | setParameter
  | getParameter
  | setVirtualScreen
  | getVirtualScreen
  | updateContext
  | clearDrawable
  | lockContext
  | unlockContext
  | setupSharedMemory
  deriving DecidableEq, Repr

namespace CGLMethod

def dispatchTable : CGLMethod → DispatchEntry
  | createContext => ⟨2, 1, 0, 0⟩
  | destroyContext => ⟨0, 0, 0, 0⟩
  | setSurface => ⟨3, 0, 0, 0⟩
  | flushContext => ⟨0, 0, 0, 0⟩
  | submitCommands => ⟨1, 0, 0, variableSize⟩
  | setParameter => ⟨2, 0, 0, 0⟩
  | getParameter => ⟨1, 2, 0, 0⟩
  | setVirtualScreen => ⟨1, 0, 0, 0⟩
  | getVirtualScreen => ⟨0, 1, 0, 0⟩
  | updateContext => ⟨0, 0, 0, 0⟩
  | clearDrawable => ⟨0, 0, 0, 0⟩
  | lockContext => ⟨0, 0, 0, 0⟩
  | unlockContext => ⟨0, 0, 0, 0⟩
  | setupSharedMemory => ⟨2, 0, 0, 0⟩

/-- The counts that the handlers compare; the commands have to come inline. -/
def checks : CGLMethod → List HandlerCheck
  | createContext => [.exactly .scalarInput 2, .exactly .scalarOutput 1]
  | setSurface => [.exactly .scalarInput 3]
  | submitCommands =>
      [.exactly .scalarInput 1,
        ⟨.structureInput, fun n => decide (0 < n ∧ n ≤ MethodArguments.inlineLimit)⟩]
  | setParameter => [.exactly .scalarInput 2]
  | getParameter => [.exactly .scalarInput 1, .exactly .scalarOutput 2]
  | setVirtualScreen => [.exactly .scalarInput 1]
  | getVirtualScreen => [.exactly .scalarOutput 1]
  | setupSharedMemory => [.exactly .scalarInput 2]
  | _ => []

/-- The methods behind the handlers. -/
def method (m : CGLMethod) (e : MethodEnv) (a : MethodArguments) (c : ClientContext) : Served :=
  match m with
  | createContext => c.create e
  | destroyContext => if c.live = false then c.answer .notOpen else c.destroy e
  | submitCommands =>
      if e.withAddress = false then c.answer .noMemory
      else if c.live = false then c.answer .notOpen
      else c.submit e a.structureInput
  | _ => if c.live = false then c.answer .notOpen else c.answer e.other

def handler (m : CGLMethod) (e : MethodEnv) (a : MethodArguments) (c : ClientContext) : Served :=
  if (m.checks.all fun check => check.met (a.size check.field)) = false then c.answer .badArgument
  else m.method e a c

/-- `VMCGLContext`. -/
def client : UserClientClass CGLMethod := ⟨dispatchTable, checks, handler⟩

end CGLMethod

/-! ## Dispatch -/

namespace UserClientClass
variable {μ : Type} (k : UserClientClass μ)

def externalMethod (m : μ) (e : MethodEnv) (a : MethodArguments) (c : ClientContext) : Served :=
  if (k.entry m).admits a then k.handler m e a c else c.answer .badArgument

/-- One client and its calls. -/
def machine : Machine ClientContext (μ × MethodEnv × MethodArguments) where
  init := .init
  step c call := some (k.externalMethod call.1 call.2.1 call.2.2 c).client

/-- Every size that the handler checks for is let through by the entry. -/
def LetsThrough (m : μ) : Prop :=
  ∀ check ∈ k.checks m, ∀ size, check.met size = true →
    (k.entry m).accepts check.field size = true

/-- Some client comes to a context, and its call hands just these bytes to the accelerator,
for its own context. -/
def Submits (bytes : List UInt8) : Prop :=
  ∃ calls c, k.machine.run .init calls = some c ∧ c.live = true ∧
    ∃ m e a, a.structureInput = bytes ∧
      (k.externalMethod m e a c).submitted = [(c.contextId, bytes)]

end UserClientClass

/-- The accelerator's `submit3DCommands` down to the wire, for a buffer of one of its
contexts. -/
def submit3DCommands (env : SubmitEnv) (gpuContext : Nat → Option Nat)
    (submission : Nat × List UInt8) : IOReturn × List (List UInt8) :=
  match gpuContext submission.1 with
  | none => (.notFound, [])
  | some ctx => env.executeCommands ctx submission.2

/-- The commands get through, on both ways alike. -/
structure SubmitsBothWays (bytes : List UInt8) : Prop where
  threeD : ThreeDMethod.client.Submits bytes
  cgl : CGLMethod.client.Submits bytes
  payload : ∀ env gpuContext ctx ctx', gpuContext ctx = gpuContext ctx' →
    submit3DCommands env gpuContext (ctx, bytes) = submit3DCommands env gpuContext (ctx', bytes)

/-! ## Commands -/

/-- **What the accelerator gets** it puts on the wire whole, or not at all. -/
theorem submit3DCommands_whole (env : SubmitEnv) {gpuContext : Nat → Option Nat} {ctx gpu : Nat}
    {bytes : List UInt8} (hctx : gpuContext ctx = some gpu)
    (h : bytes.length ≤ UserClient.maxCommandBytes) :
    SentWhole (gpu % u32) bytes (submit3DCommands env gpuContext (ctx, bytes)) := by
  simp only [submit3DCommands, hctx]
  exact env.executeCommands_whole gpu h

/-- An entry that wants no structure input admits no commands. -/
theorem DispatchEntry.not_admits {d : DispatchEntry} {a : MethodArguments}
    (hd : d.checkStructureInputSize = 0) (ha : a.structureInput ≠ []) : d.admits a = false := by
  have hlength : a.structureInput.length ≠ 0 := by simpa using ha
  have hrefused : d.accepts .structureInput (a.size .structureInput) = false := by
    simp only [accepts, wanted, hd, MethodArguments.size, decide_eq_false_iff_not, not_or]
    exact ⟨by decide, hlength.symm⟩
  rw [admits, hrefused, Bool.and_false, Bool.false_and, Bool.false_and]

/-- A count that both want. -/
theorem DispatchEntry.accepts_of_exactly {d : DispatchEntry} {field : ArgumentField} {n size : Nat}
    (hd : d.wanted field = n) (h : (HandlerCheck.exactly field n).met size = true) :
    d.accepts field size = true := by
  have hsize : size = n := of_decide_eq_true h
  exact decide_eq_true (Or.inr (hd.trans hsize.symm))

theorem submitted_create (c : ClientContext) (e : MethodEnv) : (c.create e).submitted = [] := by
  unfold ClientContext.create
  split
  · rfl
  · split
    · rfl
    · rfl

theorem submitted_destroy (c : ClientContext) (e : MethodEnv) : (c.destroy e).submitted = [] := by
  unfold ClientContext.destroy
  split
  · rfl
  · rfl

namespace ThreeDMethod

/-- Only one handler submits anything. -/
theorem submitted_handler {m : ThreeDMethod} (hm : m ≠ submit3DCommands) (e : MethodEnv)
    (a : MethodArguments) (c : ClientContext) : (m.handler e a c).submitted = [] := by
  cases m with
  | submit3DCommands => exact absurd rfl hm
  | create3DContext => exact submitted_create c e
  | destroy3DContext =>
      simp only [handler]
      split
      · rfl
      · exact submitted_destroy c e
  | getCapabilities => rfl
  | _ =>
      simp only [handler]
      split
      · rfl
      · rfl

/-- **Commands do not get past the entry.** -/
theorem submits_nothing (m : ThreeDMethod) (e : MethodEnv) {a : MethodArguments}
    (ha : a.structureInput ≠ []) (c : ClientContext) :
    (client.externalMethod m e a c).submitted = [] := by
  unfold UserClientClass.externalMethod
  split
  case isFalse => rfl
  case isTrue hadmits =>
    refine submitted_handler ?_ e a c
    rintro rfl
    rw [DispatchEntry.not_admits rfl ha] at hadmits
    cases hadmits

end ThreeDMethod

namespace CGLMethod

theorem submitted_method {m : CGLMethod} (hm : m ≠ submitCommands) (e : MethodEnv)
    (a : MethodArguments) (c : ClientContext) : (m.method e a c).submitted = [] := by
  cases m with
  | submitCommands => exact absurd rfl hm
  | createContext => exact submitted_create c e
  | destroyContext =>
      simp only [method]
      split
      · rfl
      · exact submitted_destroy c e
  | _ =>
      simp only [method]
      split
      · rfl
      · rfl

/-- **Commands do not get past the entry** here either. -/
theorem submits_nothing (m : CGLMethod) (e : MethodEnv) {a : MethodArguments}
    (ha : a.structureInput ≠ []) (c : ClientContext) :
    (client.externalMethod m e a c).submitted = [] := by
  unfold UserClientClass.externalMethod
  split
  case isFalse => rfl
  case isTrue hadmits =>
    show (m.handler e a c).submitted = []
    unfold handler
    split
    · rfl
    · refine submitted_method ?_ e a c
      rintro rfl
      rw [DispatchEntry.not_admits rfl ha] at hadmits
      cases hadmits

/-- The entry of `createContext` wants no scalar output, its handler wants one. -/
theorem createContext_refused (e : MethodEnv) (a : MethodArguments) (c : ClientContext) :
    client.externalMethod createContext e a c = c.answer .badArgument := by
  unfold UserClientClass.externalMethod
  split
  case isFalse => rfl
  case isTrue hadmits =>
    have hnone : a.scalarOutputCount = 0 := by
      simp only [client, dispatchTable, DispatchEntry.admits, DispatchEntry.accepts,
        DispatchEntry.wanted, MethodArguments.size, Bool.and_eq_true] at hadmits
      simpa [variableSize, eq_comm] using hadmits.1.2
    show handler createContext e a c = _
    simp [handler, checks, HandlerCheck.exactly, MethodArguments.size, hnone]

theorem not_live_externalMethod (m : CGLMethod) (e : MethodEnv) (a : MethodArguments)
    {c : ClientContext} (hc : c.live = false) :
    (client.externalMethod m e a c).client.live = false := by
  by_cases hm : m = createContext
  · rw [hm, createContext_refused]
    exact hc
  unfold UserClientClass.externalMethod
  split
  case isFalse => exact hc
  case isTrue =>
    show (m.handler e a c).client.live = false
    unfold handler
    split
    · exact hc
    -- without a context every other method answers at once
    · cases m with
      | createContext => exact absurd rfl hm
      | submitCommands =>
          simp only [method, if_pos hc]
          split
          · exact hc
          · exact hc
      | _ =>
          simp only [method, if_pos hc]
          exact hc

/-- **No context.** No call of a `VMCGLContext` makes its context valid. -/
theorem never_live (calls : List (CGLMethod × MethodEnv × MethodArguments)) :
    client.machine.Always (fun c => c.live = false) .init calls := by
  refine client.machine.always_of_along ?_ rfl (client.machine.along_true _ calls)
  rintro c ⟨m, e, a⟩ t hc - hstep
  cases hstep
  exact not_live_externalMethod m e a hc

end CGLMethod

/-! ## Both ways, and the shapes -/

theorem ThreeDMethod.not_submits {bytes : List UInt8} (h : bytes ≠ []) :
    ¬ ThreeDMethod.client.Submits bytes := by
  rintro ⟨-, c, -, -, m, e, a, rfl, hsubmitted⟩
  rw [submits_nothing m e h c] at hsubmitted
  cases hsubmitted

theorem CGLMethod.not_submits (bytes : List UInt8) : ¬ CGLMethod.client.Submits bytes := by
  rintro ⟨calls, c, hrun, hlive, -⟩
  rw [(never_live calls).run client.machine hrun] at hlive
  cases hlive

/-- The commands of one byte, say. -/
theorem not_submitsBothWays_zero : ¬ SubmitsBothWays [0] := fun h =>
  ThreeDMethod.not_submits (List.cons_ne_nil _ _) h.threeD

/-- **Commands and shapes.** On neither way do any commands get through. What the handlers
check for, the entries let through, with five exceptions. -/
theorem commands_and_shapes (bytes : List UInt8) (m : ThreeDMethod) (method : CGLMethod) :
    (bytes ≠ [] → ¬ SubmitsBothWays bytes ∧ ¬ ThreeDMethod.client.Submits bytes ∧
      ¬ CGLMethod.client.Submits bytes) ∧
    (ThreeDMethod.client.LetsThrough m ↔ m ≠ .submit3DCommands) ∧
    (CGLMethod.client.LetsThrough method ↔
      method ∉ [.createContext, .submitCommands, .getParameter, .getVirtualScreen]) := by
  refine ⟨fun h => ?_, ?_, ?_⟩
  · have hthreeD := ThreeDMethod.not_submits h
    exact ⟨fun hboth => hthreeD hboth.threeD, hthreeD, CGLMethod.not_submits bytes⟩
  · cases m with
    | submit3DCommands =>
        refine iff_of_false (fun h => ?_) (by decide)
        exact absurd (h _ (List.mem_singleton_self _) 4097 (by decide)) (by decide)
    | _ =>
        refine iff_of_true ?_ (by decide)
        rintro check hcheck
        cases hcheck
  · cases method with
    | createContext =>
        refine iff_of_false (fun h => ?_) (by decide)
        exact absurd (h (.exactly .scalarOutput 1) (by simp [CGLMethod.client, CGLMethod.checks]) 1
          (by decide)) (by decide)
    | submitCommands =>
        refine iff_of_false (fun h => ?_) (by decide)
        exact absurd (h _ (List.mem_cons_of_mem _ (List.mem_singleton_self _)) 1 (by decide))
          (by decide)
    | getParameter =>
        refine iff_of_false (fun h => ?_) (by decide)
        exact absurd (h (.exactly .scalarOutput 2) (by simp [CGLMethod.client, CGLMethod.checks]) 2
          (by decide)) (by decide)
    | getVirtualScreen =>
        refine iff_of_false (fun h => ?_) (by decide)
        exact absurd (h _ (List.mem_singleton_self _) 1 (by decide)) (by decide)
    | setSurface | setParameter | setVirtualScreen | setupSharedMemory =>
        refine iff_of_true (fun check hcheck size hmet => ?_) (by decide)
        obtain rfl := List.mem_singleton.mp hcheck
        exact DispatchEntry.accepts_of_exactly rfl hmet
    | _ =>
        refine iff_of_true ?_ (by decide)
        rintro check hcheck
        cases hcheck

end VMQemuVGA
