import VMQemuVGA.Lib.FirstMatch
import VMQemuVGA.Shader.Compilation
import Mathlib.Data.List.Infix

/-! # The interface between two stages

`linkProgram` compares what the vertex shader puts out with what the fragment shader takes
in, twice. Phase 5A looks for a fixed list of outputs among a guessed list of inputs; the
symbol resolution reads the outputs from the bytecode and takes a copy of them for the
inputs. -/

namespace VMQemuVGA

/-! ## Variables -/

/-- A variable between two stages. `hash` is its `semantic_hash`. -/
structure InterfaceVariable where
  name : List UInt8
  type : Nat
  location : Nat
  components : Nat
  hash : Nat
  deriving DecidableEq, Repr

/-- Nothing has been written to the entry. -/
def InterfaceVariable.blank : InterfaceVariable := ⟨[], 0, 0, 0, 0⟩

/-- What becomes of an output: how many inputs of its name differ from it before the one
that does not. -/
structure Matching where
  types : Nat
  locations : Nat
  input : Option Nat
  deriving DecidableEq, Repr

/-- The inner loop over the inputs, from index `i` on. It is left at the first full match. -/
def matchOutput (same : InterfaceVariable → InterfaceVariable → Bool) (v : InterfaceVariable) :
    List InterfaceVariable → Nat → Matching
  | [], _ => ⟨0, 0, none⟩
  | f :: fs, i =>
      let rest := matchOutput same v fs (i + 1)
      if same v f then
        if v.type = f.type then
          if v.location = f.location then ⟨0, 0, some i⟩
          else { rest with locations := rest.locations + 1 }
        else { rest with types := rest.types + 1 }
      else rest

namespace ShaderSource
variable (src : ShaderSource)

/-- The test for SPIR-V, by its magic number. -/
def isSpirv : Bool :=
  decide (20 ≤ src.size) && src.startsWith 0 [0x03, 0x02, 0x23, 0x07]

end ShaderSource

/-! ## Phase 5A -/

/-- `std_outputs`. -/
def standardOutputs : List InterfaceVariable :=
  [⟨ascii "gl_Position", 0x8B52, 0, 4, 0⟩, ⟨ascii "v_texcoord0", 0x8B50, 1, 2, 0⟩,
    ⟨ascii "v_normal", 0x8B51, 2, 3, 0⟩, ⟨ascii "v_color", 0x8B52, 3, 4, 0⟩]

/-- `common_inputs` and, behind them, `extended_inputs`: names, types and components. -/
def commonInputs : List (String × Nat × Nat) :=
  [("v_position", 0x8B52, 4), ("v_normal", 0x8B52, 3), ("v_texcoord0", 0x8B50, 2),
    ("v_texcoord1", 0x8B50, 2), ("v_color", 0x8B52, 4), ("v_tangent", 0x8B51, 3),
    ("v_bitangent", 0x8B51, 3), ("v_worldPos", 0x8B51, 3)]

def extendedInputs : List (String × Nat × Nat) :=
  [("v_lightDir", 0x8B51, 3), ("v_shadowCoord", 0x8B52, 4), ("v_fogCoord", 0x1406, 1),
    ("v_materialID", 0x1404, 1), ("v_viewDir", 0x8B51, 3), ("v_reflection", 0x8B51, 3),
    ("v_refraction", 0x8B51, 3), ("v_displacement", 0x8B51, 3)]

/-- The entry of a fragment input. Only 32 of them are filled in; `beyond` is what the
memory behind holds. -/
def fragmentInput (beyond : Nat → InterfaceVariable) (i : Nat) : InterfaceVariable :=
  if i < 32 then
    let (name, type, components) :=
      if i < 8 then commonInputs.getD i ("", 0, 0) else extendedInputs.getD ((i - 8) % 8) ("", 0, 0)
    ⟨ascii name, type, i, components, 0⟩
  else beyond i

namespace ShaderSource
variable (src : ShaderSource)

/-- The size as a `uint32_t`. -/
def size32 : Nat := min src.size (u32 - 1)

/-- What the walk over the instructions keeps: the ids of the inputs and samplers, and
`user_input_count`, a `uint32_t`. -/
structure InputWalk where
  offset : Nat
  tracked : List Nat
  user : Nat
  deriving DecidableEq, Repr

/-- `OpVariable` adds an input or a sampler; a decoration `BuiltIn` takes an input away
again. -/
def trackInput (w : InputWalk) : InputWalk :=
  let at' := fun k => src.word (w.offset + k)
  let within := fun k => decide (w.offset + k < src.size32 / 4)
  let opcode := at' 0 % 65536
  if opcode = 59 ∧ within 3 then
    if at' 3 = 1 then { w with tracked := w.tracked ++ [at' 2], user := inc32 w.user }
    else if at' 3 = 0 then { w with tracked := w.tracked ++ [at' 2] }
    else w
  else if opcode = 71 ∧ within 3 ∧ at' 2 = 11 ∧ at' 1 ∈ w.tracked then
    { w with user := dec32 w.user }
  else w

/-- The walk. Every instruction that is not of length 0 moves on, so that there are no more
turns than words. -/
def walkInputs : Nat → InputWalk → Nat
  | 0, w => w.user
  | n + 1, w =>
      if w.offset < src.size32 / 4 ∧ w.tracked.length < 64 then
        let length := src.word w.offset / 65536
        if length = 0 then w.user
        else
          let next := src.trackInput w
          walkInputs n { next with offset := w.offset + length }
      else w.user

/-- The first `;` or end of a line among so many bytes, or the position behind them. -/
def declarationEnd : Nat → Nat → Nat
  | 0, pos => pos
  | n + 1, pos =>
      if src.bytes pos = 0x3B ∨ src.bytes pos = 0x0A then pos else declarationEnd n (pos + 1)

/-- How many declarations begin with `in `, 32 at most. The last byte is not looked at. -/
def countInputs : Nat → Nat → Nat → Nat
  | 0, _, count => count
  | n + 1, pos, count =>
      if count < 32 then
        let declared := pos + 3 < src.size32 && src.startsWith pos (ascii "in ") &&
          src.declarationEnd (src.size32 - (pos + 3)) (pos + 3) - pos < 256
        countInputs n (pos + 1) (if declared then count + 1 else count)
      else count

/-- What tells a source text from anything else. -/
def isText : Bool :=
  decide (8 ≤ src.size32) && (src.startsWith 0 (ascii "#version") || decide (src.bytes 0 = 0x2F) ||
    decide (src.bytes 0 = 0x69))

/-- `user_input_count`, as it is found in the bytecode or guessed. -/
def userInputs : Nat :=
  if src.isSpirv then src.walkInputs (src.size32 / 4) ⟨5, [], 0⟩
  else if src.isText then src.countInputs (src.size32 - 1) 0 0
  else 6

/-- The inputs of a fragment shader. Without bytecode there are four empty entries. -/
def fragmentInputs (beyond : Nat → InterfaceVariable) : List InterfaceVariable :=
  if src.size = 0 then List.replicate 4 .blank
  else
    let expected := if 0 < src.userInputs then src.userInputs else 8
    (List.range expected).map (fragmentInput beyond)

end ShaderSource

/-- The comparison by names. -/
def namesMatch (outputs inputs : List InterfaceVariable) : Bool :=
  let matching := fun v => matchOutput (fun v f => decide (v.name = f.name)) v inputs 0
  let unsatisfied := fun f => !outputs.any fun v =>
    decide (f.name = v.name) && (matching v).input.isSome
  outputs.all (fun v => decide ((matching v).types = 0)) &&
    outputs.all (fun v => decide ((matching v).locations = 0)) &&
    decide (inputs.countP unsatisfied = 0) &&
    decide ((outputs.map InterfaceVariable.components).sum ≤ 32)

/-- `vertex_fragment_compatible` of a program with both stages. -/
def phase5A (vertex fragment : ShaderSource) (beyond : Nat → InterfaceVariable) : Bool :=
  decide (vertex.size ≠ 0) && namesMatch standardOutputs (fragment.fragmentInputs beyond)

/-! ## Symbol resolution -/

/-- `semantic_hash`: characters are signed. -/
def semanticHash (name : List UInt8) : Nat :=
  name.foldl (fun h b => (h * 33 + if b < 0x80 then b.toNat else b.toNat + (u32 - 256)) % u32) 5381

/-- An entry of `spirv_outputs`. -/
structure SpirvOutput where
  id : Nat
  location : Option Nat
  name : List UInt8
  deriving DecidableEq, Repr

/-- The first entry of an id is written to. -/
def updateOutput (id : Nat) (f : SpirvOutput → SpirvOutput) (outputs : List SpirvOutput) :
    List SpirvOutput :=
  FirstMatch.modify (fun o => decide (o.id = id)) f outputs

namespace ShaderSource
variable (src : ShaderSource)

/-- `debug_name` as `OpName` sets it: of a name of more than 63 characters 62 are kept. -/
def debugName (i : Nat) : List UInt8 :=
  let name := cString ((List.range 64).map fun k => src.bytes (4 * i + k))
  if 63 < name.length then name.take 62 else name

/-- One instruction. Offsets are `uint32_t`. -/
def trackOutput (offset : Nat) (outputs : List SpirvOutput) : List SpirvOutput :=
  let at' := fun k => src.word ((offset + k) % u32)
  let within := fun k => decide ((offset + k) % u32 < src.size / 4)
  let opcode := at' 0 % 65536
  if opcode = 59 then
    if within 3 ∧ at' 3 = 3 then outputs ++ [⟨at' 2, none, ascii "unknown_output"⟩] else outputs
  else if opcode = 71 then
    if within 3 ∧ at' 2 = 30 then
      updateOutput (at' 1) (fun o => { o with location := some (at' 3) }) outputs
    else outputs
  else if opcode = 5 then
    if within 2 ∧ 2 < at' 0 / 65536 then
      updateOutput (at' 1) (fun o => { o with name := src.debugName ((offset + 2) % u32) }) outputs
    else outputs
  else outputs

/-- The walk over the instructions, up to 32 outputs. -/
def walkOutputs : Loop (Nat × List SpirvOutput) (List SpirvOutput) where
  body := fun (offset, outputs) =>
    if offset < src.size / 4 ∧ outputs.length < 32 then
      .inr ((offset + max 1 (src.word offset / 65536)) % u32, src.trackOutput offset outputs)
    else .inl outputs

/-- The type of an output that stands at the beginning of the text. -/
def outputType (text : List UInt8) : Option (Nat × Nat) :=
  if (ascii "vec4").isPrefixOf text then some (0x8B52, 4)
  else if (ascii "vec3").isPrefixOf text then some (0x8B51, 3)
  else if (ascii "vec2").isPrefixOf text then some (0x8B50, 2)
  else if (ascii "float").isPrefixOf text then some (0x1406, 1)
  else none

/-- What ends the name. -/
def endsName (b : UInt8) : Bool := decide (b = 0x20 ∨ b = 0x09 ∨ b = 0x3B ∨ b = 0x2C)

/-- The first type in the line. The name is taken to begin with the second character of the
type. -/
def outputIn (index : Nat) : List UInt8 → Option InterfaceVariable
  | [] => none
  | b :: bs =>
      match outputType (b :: bs) with
      | some (type, components) =>
          let name := bs.takeWhile fun b => !endsName b
          some ⟨name.take 63, type, index, components, semanticHash name⟩
      | none => outputIn index bs

/-- A line of the text. -/
def lineOutput (line : List UInt8) (index : Nat) : Option InterfaceVariable :=
  if 10 < line.length ∧ line.length < 256 ∧ ascii "out " <:+: line then
    outputIn index (cString line)
  else none

/-- The lines of the text, up to 32 outputs. -/
def readOutputs : Loop (Nat × Nat × List InterfaceVariable) (List InterfaceVariable) where
  body := fun (pos, lineStart, outputs) =>
    if pos ≤ src.size32 ∧ outputs.length < 32 then
      if pos = src.size32 ∨ src.bytes pos = 0x0A then
        let line := (List.range (pos - lineStart)).map fun k => src.bytes (lineStart + k)
        .inr ((pos + 1) % u32, (pos + 1) % u32, outputs ++ (lineOutput line outputs.length).toList)
      else .inr ((pos + 1) % u32, lineStart, outputs)
    else .inl outputs

/-- `default_outputs`, for a shader without bytecode. Their hash is not computed. -/
def defaultOutputs : List InterfaceVariable :=
  [⟨ascii "v_position", 0x8B52, 0, 4, 0⟩, ⟨ascii "v_normal", 0x8B51, 1, 3, 0⟩,
    ⟨ascii "v_texcoord", 0x8B50, 2, 2, 0⟩, ⟨ascii "v_color", 0x8B52, 3, 4, 0⟩]

/-- The outputs that the symbol resolution finds in a vertex shader. -/
inductive Outputs : List InterfaceVariable → Prop
  | default : src.size = 0 → Outputs defaultOutputs
  | spirv {outputs : List SpirvOutput} : src.isSpirv = true →
      src.walkOutputs.Returns (5, []) outputs →
      Outputs (outputs.mapIdx fun i o =>
        ⟨o.name, 0x8B51, o.location.getD i, 3, semanticHash o.name⟩)
  | text {outputs : List InterfaceVariable} : src.size ≠ 0 → src.isSpirv = false →
      src.readOutputs.Returns (0, 0, []) outputs → Outputs outputs

end ShaderSource

/-- The comparison by hashes. `matching_confidence` is above 0.8. -/
def symbolsMatch (outputs inputs : List InterfaceVariable) : Bool :=
  let matching := fun v => matchOutput (fun v f => decide (v.hash = f.hash)) v inputs 0
  let successes := outputs.countP fun v => (matching v).input.isSome
  let total := outputs.length + inputs.length
  outputs.all (fun v => decide ((matching v).types = 0)) &&
    outputs.all (fun v => decide ((matching v).locations = 0)) &&
    (List.range inputs.length).all (fun i =>
      outputs.any fun v => decide ((matching v).input = some i)) &&
    decide (total = 0 ∨ 4 * total < 5 * (successes * 2))

/-- `overall_compatibility`, for the outputs that have been found. -/
def symbolResolution (fragment : ShaderSource) (outputs : List InterfaceVariable) : Bool :=
  symbolsMatch outputs (if fragment.size = 0 then [] else outputs)

end VMQemuVGA
