import VMQemuVGA.Lib.FirstMatch
import VMQemuVGA.Lib.Ledger
import VMQemuVGA.Lib.Machine
import VMQemuVGA.Shader.Interfaces
import VMQemuVGA.Shader.Packing

/-! # `VMShaderManager`

Shaders and programs are found by their ids, the first of an id counting. A shader has a
reference count; programs keep the ids of their shaders, and blocks of their own for the
uniforms and attributes that linking has collected.

The records and blocks are raw structs, which the code puts into an `OSArray` or an
`OSDictionary` by a cast. An assumption of every model over this one is that the collections
hold what was put into them all the same: that they retain and release such an entry is left
out. `m_accelerator` is taken as given, as its only caller passes itself. -/

namespace VMQemuVGA

/-! ## Shaders and programs -/

/-- `VMShaderType`, and whatever else a caller passes. -/
inductive ShaderType where
  | vertex
  | fragment
  | geometry
  | tessellationControl
  | tessellationEvaluation
  | compute
  | other
  deriving DecidableEq, Repr

/-- The record of a shader. A missing array is an empty one here. -/
structure CompiledShader where
  id : Nat
  type : ShaderType
  bytecode : ShaderSource
  uniforms : List ShaderUniform
  attributes : List ShaderAttribute
  refCount : Nat

/-- What `IOMalloc` has given for a uniform or an attribute. -/
structure Block (α : Type) where
  address : Nat
  value : α
  deriving DecidableEq, Repr

structure ShaderProgram where
  id : Nat
  shaderIds : List Nat
  isLinked : Bool
  uniforms : List (Block ShaderUniform)
  attributes : List (Block ShaderAttribute)
  deriving DecidableEq, Repr

/-- The blocks a program has. -/
def ShaderProgram.blocks (p : ShaderProgram) : List Nat :=
  p.uniforms.map Block.address ++ p.attributes.map Block.address

/-! ## Blocks -/

/-- How many blocks have been asked for, and what has been allocated and freed of them. A
block is known by the number of its request. -/
structure BlockHeap where
  requests : Nat
  trace : List (Entry Nat)
  deriving DecidableEq, Repr

namespace BlockHeap

/-- `IOMalloc`, with the answers to all requests. -/
def request (grant : Nat → Bool) (h : BlockHeap) : Option Nat × BlockHeap :=
  if grant h.requests then (some h.requests, ⟨h.requests + 1, h.trace ++ [.acquire h.requests]⟩)
  else (none, ⟨h.requests + 1, h.trace⟩)

/-- `IOFree` of many. -/
def free (blocks : List Nat) (h : BlockHeap) : BlockHeap :=
  { h with trace := h.trace ++ blocks.map .release }

/-- A copy of a value at the end of a list, if there is a block for it. -/
def put {α : Type} (grant : Nat → Bool) (value : α) (l : List (Block α)) (h : BlockHeap) :
    List (Block α) × BlockHeap :=
  match h.request grant with
  | (some address, h') => (l ++ [⟨address, value⟩], h')
  | (none, h') => (l, h')

end BlockHeap

/-! ## Linking -/

/-- What a link gets from elsewhere. -/
structure LinkAnswers where
  /-- `IOMalloc`, by the number of the request -/
  grant : Nat → Bool
  /-- the evaluation shader of this id is found to have a primitive mode -/
  primitiveMode : Nat → Bool
  /-- what phases 5B and 5C find, of a program with a geometry shader -/
  geometryCompatible : Bool
  /-- `overall_compatibility` of the symbol resolution -/
  symbolsCompatible : Bool
  /-- the memory behind the names of the inputs -/
  beyond : Nat → InterfaceVariable

def LinkAnswers.granting : LinkAnswers :=
  ⟨fun _ => true, fun _ => true, true, true, fun _ => .blank⟩

/-- What the stage loop has found: the last shader of each kind. -/
structure Stages where
  vertex : Option Nat
  fragment : Option Nat
  geometry : Option Nat
  compute : Option Nat
  deriving DecidableEq, Repr

def Stages.none : Stages := ⟨Option.none, Option.none, Option.none, Option.none⟩

/-- What a control shader adds. The location is the number of uniforms so far. -/
def tessellationControlUniforms : List ShaderUniform :=
  [⟨ascii "gl_TessLevelOuter", 0x1406, 0, 16, 4, 0⟩,
    ⟨ascii "gl_TessLevelInner", 0x1406, 0, 8, 2, 16⟩]

def tessellationEvaluationUniforms : List ShaderUniform :=
  [⟨ascii "gl_TessCoord", 0x8B51, 0, 12, 1, 0⟩, ⟨ascii "gl_PatchVerticesIn", 0x1404, 0, 4, 1, 12⟩]

/-- The uniforms of a program while it is linked. -/
abbrev UniformBlocks : Type := List (Block ShaderUniform) × BlockHeap

/-- A uniform at the end of `all_uniforms`, with its place there for a location. -/
def addUniform (grant : Nat → Bool) (b : UniformBlocks) (u : ShaderUniform) : UniformBlocks :=
  b.2.put grant { u with location := b.1.length } b.1

/-- What the uniforms of a program get from a stage. -/
def ShaderType.ownUniforms : ShaderType → List ShaderUniform
  | .tessellationControl => tessellationControlUniforms
  | .tessellationEvaluation => tessellationEvaluationUniforms
  | _ => []

/-- A shader of a kind is noted; a later one takes its place. -/
def Stages.note (id : Nat) (type : ShaderType) (st : Stages) : Stages :=
  match type with
  | .vertex => { st with vertex := some id }
  | .fragment => { st with fragment := some id }
  | .geometry => { st with geometry := some id }
  | .compute => { st with compute := some id }
  | _ => st

/-- The stage loop. Where it fails, what it has added stays. -/
def stageLoop (find : Nat → Option CompiledShader) (e : LinkAnswers) :
    List Nat → Stages → UniformBlocks → Except IOReturn Stages × UniformBlocks
  | [], st, b => (.ok st, b)
  | id :: ids, st, b =>
      match find id with
      | none => (.error .notFound, b)
      | some x =>
          if x.type = .tessellationEvaluation ∧ e.primitiveMode id = false then
            (.error .badArgument, b)
          else
            stageLoop find e ids (st.note id x.type)
              (x.type.ownUniforms.foldl (addUniform e.grant) b)

/-- `pipeline_valid`. -/
def Stages.valid (st : Stages) : Bool :=
  if st.compute.isSome then
    st.vertex.isNone && st.fragment.isNone && st.geometry.isNone
  else st.vertex.isSome && st.fragment.isSome

/-- The uniforms of all shaders, in their order. -/
def declaredUniforms (find : Nat → Option CompiledShader) (ids : List Nat) : List ShaderUniform :=
  ids.flatMap fun id => (find id).elim [] CompiledShader.uniforms

/-- A uniform is copied unless there is one of its name. -/
def mergeUniform (grant : Nat → Bool) (b : UniformBlocks) (u : ShaderUniform) : UniformBlocks :=
  if b.1.any fun existing => decide (existing.value.name = u.name) then b
  else addUniform grant b u

/-- `all_uniforms`, from the empty collection. -/
def mergeUniforms (find : Nat → Option CompiledShader) (e : LinkAnswers) (ids : List Nat)
    (h : BlockHeap) : UniformBlocks :=
  (declaredUniforms find ids).foldl (mergeUniform e.grant) ([], h)

/-- The attributes of the vertex shader. -/
def declaredAttributes (find : Nat → Option CompiledShader) (vertex : Option Nat) :
    List ShaderAttribute :=
  (vertex.bind find).elim [] CompiledShader.attributes

/-- An attribute is copied in any case. -/
def addAttribute (grant : Nat → Bool) (b : List (Block ShaderAttribute) × BlockHeap)
    (a : ShaderAttribute) : List (Block ShaderAttribute) × BlockHeap :=
  b.2.put grant a b.1

/-- `all_attributes`, from the empty collection. -/
def copyAttributes (find : Nat → Option CompiledShader) (e : LinkAnswers) (vertex : Option Nat)
    (h : BlockHeap) : List (Block ShaderAttribute) × BlockHeap :=
  (declaredAttributes find vertex).foldl (addAttribute e.grant) ([], h)

/-- Phase 5A, where there are both stages. -/
def interfaceCompatible (find : Nat → Option CompiledShader) (e : LinkAnswers) (st : Stages) :
    Bool :=
  let matching := match st.vertex.bind find, st.fragment.bind find with
    | some v, some f => phase5A v.bytecode f.bytecode e.beyond
    | _, _ => true
  matching && (st.geometry.isNone || e.geometryCompatible)

/-- The symbol resolution, where there are both stages. -/
def symbolsResolved (e : LinkAnswers) (st : Stages) : Bool :=
  st.vertex.isNone || st.fragment.isNone || e.symbolsCompatible

/-- The offsets of the packing in the blocks. -/
def packBlocks (us : List (Block ShaderUniform)) (r : GpuResources) :
    List (Block ShaderUniform) :=
  us.zipWith (fun b u => { b with value := u }) r.uniforms

/-- What a link makes of the program once its stages are known. The collections are emptied
without freeing what is in them.

Left out are the phases whose findings are only logged: 5B and 5C, the geometry interfaces
(what decides there is `geometryCompatible`), and 7A, estimates over the bytecode of the
vertex shader. The scans of 7A run up to `vs_bytecode_size - 4`, `- 8` and `- 12`, which wrap
where the bytecode is shorter, and then read far behind it. -/
def linkStages (find : Nat → Option CompiledShader) (e : LinkAnswers) (st : Stages)
    (p : ShaderProgram) (h : BlockHeap) : IOReturn × ShaderProgram × BlockHeap :=
  let us := mergeUniforms find e p.shaderIds h
  let as := copyAttributes find e st.vertex us.2
  let resources := allocateResources (us.1.map Block.value) (as.1.map Block.value)
  let linked := symbolsResolved e st && resources.limitsValid us.1.length &&
    interfaceCompatible find e st
  (if linked then .success else .error,
    { p with isLinked := linked, uniforms := packBlocks us.1 resources, attributes := as.1 }, as.2)

/-- `linkProgram`, for a program that has been found. -/
def linkFound (find : Nat → Option CompiledShader) (e : LinkAnswers) (p : ShaderProgram)
    (h : BlockHeap) : IOReturn × ShaderProgram × BlockHeap :=
  if p.shaderIds = [] then (.badArgument, p, h)
  else
    match stageLoop find e p.shaderIds .none (p.uniforms, h) with
    | (.error ret, us, h) => (ret, { p with uniforms := us }, h)
    | (.ok st, us, h) =>
        if st.valid then linkStages find e st { p with uniforms := us } h
        else (.badArgument, { p with uniforms := us }, h)

/-! ## The manager -/

structure ShaderManager where
  shaders : List CompiledShader
  programs : List ShaderProgram
  /-- `m_context_programs` -/
  contexts : List Nat
  nextShaderId : Nat
  nextProgramId : Nat
  heap : BlockHeap

/-- What `createProgram` gets. -/
structure CreateAnswers where
  /-- neither pointer is null -/
  given : Bool
  /-- `IOMalloc` of the record -/
  record : Bool
  /-- `OSNumber::withNumber`, for each id -/
  number : Nat → Bool
  /-- `m_programs` has room or grows -/
  stored : Bool

def CreateAnswers.granting : CreateAnswers := ⟨true, true, fun _ => true, true⟩

namespace ShaderManager

def init : ShaderManager := ⟨[], [], List.replicate 32 0, 1, 1, ⟨0, []⟩⟩

variable (s : ShaderManager)

def findShader (id : Nat) : Option CompiledShader := s.shaders.find? fun x => decide (x.id = id)

def findProgram (id : Nat) : Option ShaderProgram := s.programs.find? fun p => decide (p.id = id)

/-- `compileShader`, with what `compileShaderInternal` returns. `stored`: `m_shaders` has
room or grows. -/
def compileShader (result : Except IOReturn CompiledShader) (stored : Bool) :
    IOReturn × ShaderManager :=
  match result with
  | .error ret => (ret, s)
  | .ok shader =>
      let id := inc32 s.nextShaderId
      (.success, { s with
        nextShaderId := id
        shaders := if stored then s.shaders ++ [{ shader with id, refCount := 1 }]
          else s.shaders })

/-- `destroyShader`. -/
def destroyShader (id : Nat) : IOReturn × ShaderManager :=
  match s.findShader id with
  | none => (.notFound, s)
  | some shader =>
      let refCount := dec32 shader.refCount
      (.success, { s with
        shaders :=
          if refCount = 0 then s.shaders.eraseP fun x => decide (x.id = id)
          else FirstMatch.modify (fun x => decide (x.id = id)) (fun x => { x with refCount })
            s.shaders })

/-- `validateShaderCompatibility`. -/
def validateShaders (ids : List Nat) : IOReturn :=
  if ids.any fun id => (s.findShader id).isNone then .notFound
  else if (ids.any fun id => (s.findShader id).any fun x => decide (x.type = .vertex)) &&
      ids.any fun id => (s.findShader id).any fun x => decide (x.type = .fragment) then .success
  else .badArgument

/-- `createProgram`. Ids without a number are left out, and no count is taken. -/
def createProgram (ids : List Nat) (a : CreateAnswers) : IOReturn × ShaderManager :=
  if a.given = false ∨ ids = [] then (.badArgument, s)
  else if s.validateShaders ids ≠ .success then (s.validateShaders ids, s)
  else if a.record = false then (.noMemory, s)
  else
    let id := inc32 s.nextProgramId
    let kept := (ids.zipIdx.filter fun x => a.number x.2).map Prod.fst
    (.success, { s with
      nextProgramId := id
      programs := if a.stored then s.programs ++ [⟨id, kept, false, [], []⟩] else s.programs })

/-- `linkProgram`. -/
def linkProgram (id : Nat) (e : LinkAnswers) : IOReturn × ShaderManager :=
  match s.findProgram id with
  | none => (.notFound, s)
  | some p =>
      let (ret, p', heap) := linkFound s.findShader e p s.heap
      (ret, { s with
        heap
        programs := FirstMatch.modify (fun x => decide (x.id = id)) (fun _ => p') s.programs })

/-- `useProgram`. `number`: there is an `OSNumber` for the program. -/
def useProgram (context id : Nat) (number : Bool) : IOReturn × ShaderManager :=
  if 32 ≤ context then (.badArgument, s)
  else
    match s.findProgram id with
    | none => (.notFound, s)
    | some p =>
        if p.isLinked = false then (.notReady, s)
        else if number then
          let padded := s.contexts ++ List.replicate (context + 1 - s.contexts.length) 0
          (.success, { s with contexts := padded.set context id })
        else (.success, s)

/-- The count of a shader is lowered if it is not 0; what gets to 0 is not removed. -/
def dropReference (shaders : List CompiledShader) (id : Nat) : List CompiledShader :=
  FirstMatch.modify (fun x => decide (x.id = id))
    (fun x => if 0 < x.refCount then { x with refCount := x.refCount - 1 } else x) shaders

/-- `destroyProgram`. `zero`: there is an `OSNumber` for the context. -/
def destroyProgram (id : Nat) (zero : Nat → Bool) : IOReturn × ShaderManager :=
  match s.findProgram id with
  | none => (.notFound, s)
  | some p =>
      (.success, { s with
        contexts := s.contexts.mapIdx fun i c => if c = id ∧ i < 32 ∧ zero i then 0 else c
        shaders := p.shaderIds.foldl dropReference s.shaders
        heap := s.heap.free p.blocks
        programs := s.programs.eraseP fun x => decide (x.id = id) })

/-- `setUniform`. It takes the entries of `all_uniforms` for `OSData`, which they are not:
what it does with the first of them is `none` here. -/
def setUniform (id : Nat) (_name : List UInt8) (given : Bool) : Option IOReturn :=
  if given = false then some .badArgument
  else
    match s.findProgram id with
    | none => some .notFound
    | some p =>
        if p.isLinked = false then some .notFound
        else if p.uniforms = [] then some .notFound
        else none

/-! ## Calls -/

inductive Call where
  | compileShader (result : Except IOReturn CompiledShader) (stored : Bool)
  | destroyShader (id : Nat)
  | createProgram (ids : List Nat) (a : CreateAnswers)
  | linkProgram (id : Nat) (e : LinkAnswers)
  | useProgram (context id : Nat) (number : Bool)
  | destroyProgram (id : Nat) (zero : Nat → Bool)

/-- A call that returns. -/
def call : Call → IOReturn × ShaderManager
  | .compileShader result stored => s.compileShader result stored
  | .destroyShader id => s.destroyShader id
  | .createProgram ids a => s.createProgram ids a
  | .linkProgram id e => s.linkProgram id e
  | .useProgram context id number => s.useProgram context id number
  | .destroyProgram id zero => s.destroyProgram id zero

/-- The calls come in any order. -/
def machine : Machine ShaderManager Call where
  init := .init
  step := fun s c => some (s.call c).2

end ShaderManager
end VMQemuVGA
