import VMQemuVGA.Lib.LockTrace
import VMQemuVGA.Shader.Metadata

/-! # `compileShader`

The translation, the allocations and the metadata, one after the other. The phases that
only estimate something for the log are left out, with what they allocate and free again;
each of them comes to an end. -/

namespace VMQemuVGA

/-- What the call allocates. -/
inductive CompileObject where
  | record
  | uniforms
  | attributes
  | resources
  | bytecode
  deriving DecidableEq, Repr

/-- What a compilation gets from elsewhere. -/
structure CompileAnswers where
  record : Bool
  uniforms : Bool
  attributes : Bool
  resources : Bool
  /-- `IOBufferMemoryDescriptor::withCapacity` -/
  bytecode : Bool
  /-- `map`, for the metadata -/
  mapped : Bool
  /-- what the memory of the descriptor holds where nothing is written to it -/
  beyond : Nat → UInt8

def CompileAnswers.granting : CompileAnswers := ⟨true, true, true, true, true, true, fun _ => 0⟩

/-- The arrays of the record. A missing one is not noticed here; where the descriptor is mapped,
`extractShaderMetadata` asks the missing array for its count, which is left out. -/
def CompileAnswers.arrays (a : CompileAnswers) : List CompileObject :=
  (if a.uniforms then [.uniforms] else []) ++ (if a.attributes then [.attributes] else []) ++
    (if a.resources then [.resources] else [])

/-- What the caller is told, and what is allocated afterwards. -/
structure Compiled where
  ret : IOReturn
  bytecode : Option Bytecode
  /-- `info.bytecode_size` -/
  bytecodeSize : Nat
  objects : List CompileObject
  deriving DecidableEq, Repr

/-- With the size of the bytecode known. Without a descriptor only the record is freed. -/
def compileWithSize (src : ShaderSource) (a : CompileAnswers) (size : Nat) : Compiled :=
  if a.bytecode then
    ⟨.success, some (.ofSource src size), size % u32, .record :: (a.arrays ++ [.bytecode])⟩
  else ⟨.noMemory, none, 0, a.arrays⟩

/-- What the bytecode is read as. -/
def ShaderLanguage.read : ShaderLanguage → BytecodeLanguage
  | .glsl | .hlsl => .text
  | .spirv => .spirv
  | .msl | .other => .other

/-- `extractShaderMetadata` gets to read this. -/
def CompileAnswers.Maps (a : CompileAnswers) (src : ShaderSource) (size : Nat)
    (data : ShaderSource) : Prop :=
  a.bytecode = true ∧ a.mapped = true ∧ data = (Bytecode.ofSource src size).memory a.beyond

/-- `compileShaderInternal` returns with this. Type and flags only go into `info`. -/
inductive CompileInternal (language : ShaderLanguage) (src : ShaderSource) (a : CompileAnswers) :
    Compiled → Prop
  | noRecord : a.record = false → CompileInternal language src a ⟨.noMemory, none, 0, []⟩
  | compiled {size : Nat} : a.record = true → BytecodeSize src language size →
      (∀ data, a.Maps src size data → MetadataEnds language.read data) →
      CompileInternal language src a (compileWithSize src a size)

/-- `compileShader` returns with this, and has taken and dropped `m_shader_lock` so.
`given`: neither pointer is null. -/
inductive CompileShader (language : ShaderLanguage) (given : Bool) (src : ShaderSource)
    (a : CompileAnswers) : Compiled → LockTrace → Prop
  | refused : given = false ∨ src.size = 0 →
      CompileShader language given src a ⟨.badArgument, none, 0, []⟩ []
  | taken {o : Compiled} : given = true → src.size ≠ 0 → CompileInternal language src a o →
      CompileShader language given src a o [.lock, .unlock]

end VMQemuVGA
