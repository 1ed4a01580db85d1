import VMQemuVGA.Shader.Compilation

/-! # Reading a declaration

Lines of a source are searched for `uniform `, and a state machine reads the type and the
name behind it. Where it gives up, the two words behind `uniform` are taken. A C string is
the list of its bytes here, without the zero at its end. What the machine notes for its log
messages only, the place given in a layout among it, is left out. -/

namespace VMQemuVGA

/-! ## Strings -/

/-- `strncmp(l, s, strlen(s)) == 0`. -/
def begins (s : String) (l : List UInt8) : Bool := (ascii s).isPrefixOf l

/-- `kernel_strstr`: the text from the first occurrence on. -/
def kernelStrstr (needle : String) : List UInt8 → Option (List UInt8)
  | [] => none
  | b :: l => if begins needle (b :: l) then some (b :: l) else kernelStrstr needle l

/-- The text has this in it. -/
def contains (needle : String) (l : List UInt8) : Bool := (kernelStrstr needle l).isSome

/-- Up to a byte, which need not be there. -/
def upToByte (c : UInt8) (l : List UInt8) : List UInt8 := l.takeWhile fun b => decide (b ≠ c)

/-- From a byte on. -/
def fromByte (c : UInt8) (l : List UInt8) : List UInt8 := l.dropWhile fun b => decide (b ≠ c)

def isDigit (b : UInt8) : Bool := decide (0x30 ≤ b ∧ b ≤ 0x39)

/-- The number that digits stand for. -/
def numeral (l : List UInt8) : Nat := l.foldl (fun n b => 10 * n + (b.toNat - 0x30)) 0

/-- `kernel_simple_atoi`, as a `uint32_t`; the `int` wraps around. -/
def kernelSimpleAtoi : List UInt8 → Nat
  | 0x2D :: l => (u32 - numeral (l.takeWhile isDigit) % u32) % u32
  | 0x2B :: l => numeral (l.takeWhile isDigit) % u32
  | l => numeral (l.takeWhile isDigit) % u32

/-- The number of entries; an array has one at least. -/
def arrayCount (number : List UInt8) : Nat :=
  if kernelSimpleAtoi number = 0 then 1 else kernelSimpleAtoi number

def isBlank (b : UInt8) : Bool := decide (b = 0x20 ∨ b = 0x09)

/-- `%s`: a word of 63 bytes at most, and what is left behind it. -/
def scanWord (l : List UInt8) : Option (List UInt8 × List UInt8) :=
  let l := l.dropWhile isBlank
  let word := (l.takeWhile fun b => !isBlank b && decide (b ≠ 0x3B ∧ b ≠ 0x2C)).take 63
  if word = [] then none else some (word, l.drop word.length)

/-- `kernel_simple_sscanf` with `%s %s` behind a literal, where it finds both. -/
def kernelSimpleSscanf (literal : String) (l : List UInt8) : Option (List UInt8 × List UInt8) :=
  if begins literal l then
    (scanWord (l.drop (ascii literal).length)).bind fun (first, l) =>
      (scanWord l).map fun (second, _) => (first, second)
  else none

/-! ## Types -/

/-- The entry of the first name that is in the text. -/
def firstWithin (table : List (String × Nat)) (default : Nat) (l : List UInt8) : Nat :=
  ((table.find? fun entry => contains entry.1 l).map Prod.snd).getD default

/-- `base_type`: so many bytes are dropped, wherever the precision is. -/
def baseType (l : List UInt8) : List UInt8 :=
  if contains "highp " l then l.drop 6
  else if contains "mediump " l then l.drop 8
  else if contains "lowp " l then l.drop 5
  else l

/-- The tests of `parseShaderDataType`, in their order. -/
def dataTypes : List (String × Nat) :=
  [("mat4", 0x8B5C), ("mat3", 0x8B5B), ("mat2", 0x8B5A), ("mat4x4", 0x8B5C),
    ("mat4x3", 0x8B68), ("mat4x2", 0x8B69), ("mat3x4", 0x8B6A), ("mat3x2", 0x8B67),
    ("mat2x4", 0x8B66), ("mat2x3", 0x8B65),
    ("vec4", 0x8B52), ("vec3", 0x8B51), ("vec2", 0x8B50),
    ("ivec4", 0x8B55), ("ivec3", 0x8B54), ("ivec2", 0x8B53),
    ("uvec4", 0x8DC8), ("uvec3", 0x8DC7), ("uvec2", 0x8DC6),
    ("bvec4", 0x8B58), ("bvec3", 0x8B57), ("bvec2", 0x8B56),
    ("sampler2D", 0x8B5E), ("samplerCube", 0x8B60), ("sampler3D", 0x8B5F),
    ("sampler2DArray", 0x8DC1), ("samplerBuffer", 0x8DC2), ("sampler2DShadow", 0x8B62),
    ("image2D", 0x9063), ("image3D", 0x9064), ("imageCube", 0x9066),
    ("float", 0x1406), ("int", 0x1404), ("uint", 0x1405), ("bool", 0x8B56),
    ("double", 0x140A), ("dvec4", 0x8FFC), ("dvec3", 0x8FFB), ("dvec2", 0x8FFA),
    ("atomic_uint", 0x92DB)]

def parseShaderDataType (l : List UInt8) : Nat := firstWithin dataTypes 0x1406 (baseType l)

/-- The tests of `calculateUniformSize`. -/
def typeSizes : List (String × Nat) :=
  [("mat4", 64), ("mat3", 36), ("mat2", 16),
    ("vec4", 16), ("ivec4", 16), ("uvec4", 16), ("bvec4", 4),
    ("vec3", 12), ("ivec3", 12), ("uvec3", 12), ("bvec3", 3),
    ("vec2", 8), ("ivec2", 8), ("uvec2", 8), ("bvec2", 2),
    ("sampler", 4), ("image", 4), ("float", 4), ("int", 4), ("uint", 4), ("bool", 1),
    ("double", 8), ("dvec4", 32), ("dvec3", 24), ("dvec2", 16)]

def calculateUniformSize (l : List UInt8) : Nat := firstWithin typeSizes 4 (baseType l)

/-- `extractArraySize`. -/
def extractArraySize (name : List UInt8) : Nat :=
  match fromByte 0x5B name with
  | [] => 1
  | _ :: l =>
      let number := upToByte 0x5D l
      if fromByte 0x5D l = [] ∨ number = [] ∨ 32 ≤ number.length then 1 else arrayCount number

/-- The tests of the simple parser: a type and its size. -/
def simpleTypes : List (String × Nat × Nat) :=
  [("mat4", 0x8B5C, 64), ("mat3", 0x8B5B, 36), ("vec4", 0x8B52, 16), ("vec3", 0x8B51, 12),
    ("vec2", 0x8B50, 8), ("float", 0x1406, 4), ("sampler2D", 0x8B5E, 4)]

def simpleType (l : List UInt8) : Nat × Nat :=
  ((simpleTypes.find? fun entry => contains entry.1 l).map Prod.snd).getD (0x1406, 4)

/-! ## The state machine -/

inductive ParserState where
  | seekingUniform
  | seekingQualifiers
  | parsingType
  | parsingName
  | parsingArray
  | complete
  | error
  deriving DecidableEq, Repr

structure ParserContext where
  /-- from `current_pos` to `line_end` -/
  rest : List UInt8
  state : ParserState
  /-- `precision_qualifier`, where `has_precision_qualifier` -/
  precision : Option (List UInt8)
  fullType : List UInt8
  baseName : List UInt8
  arraySpecifier : List UInt8
  arraySize : Nat
  deriving DecidableEq, Repr

namespace ParserContext

def start (declaration : List UInt8) : ParserContext :=
  ⟨declaration, .seekingUniform, none, [], [], [], 1⟩

/-- What the outer loop skips. -/
def skip (l : List UInt8) : List UInt8 := l.dropWhile fun b => isBlank b || decide (b = 0x0A)

/-- Behind the keyword there has to be a blank. -/
def beginsUniform (l : List UInt8) : Bool := begins "uniform" l && (l.drop 7).head?.any isBlank

/-- Behind `layout` and its brackets. Of what is between them 127 bytes are taken. -/
def behindLayout (l : List UInt8) : List UInt8 :=
  match fromByte 0x28 (l.drop 6) with
  | [] => []
  | _ :: l =>
      let l := l.drop ((upToByte 0x29 l).take 127).length
      if l.head? = some 0x29 then l.tail else l

/-- A qualifier at the front: what is behind it, and the precision if it is one that can be
kept. -/
def qualifier (l : List UInt8) : Option (List UInt8 × Option (List UInt8)) :=
  let word := l.takeWhile fun b => !isBlank b
  let behind := l.dropWhile fun b => !isBlank b
  if begins "layout" l then some (behindLayout l, none)
  else if begins "highp" l || begins "mediump" l || begins "lowp" l then
    some (behind, if word.length < 16 then some word else none)
  else if begins "invariant" l then some (l.drop 9, none)
  else if begins "smooth" l || begins "flat" l || begins "noperspective" l then
    some (behind, none)
  else none

/-- How far a type goes: a struct with its name, or a word that ends at a bracket too. -/
def typeLength (l : List UInt8) : Nat :=
  if begins "struct" l then
    let keyword := l.takeWhile fun b => !isBlank b
    let l := l.drop keyword.length
    let gap := l.takeWhile isBlank
    keyword.length + gap.length + ((l.drop gap.length).takeWhile fun b => !isBlank b).length
  else (l.takeWhile fun b => !isBlank b && decide (b ≠ 0x5B)).length

/-- What a name goes on with. -/
def isNameByte (b : UInt8) : Bool :=
  !isBlank b && decide (b ≠ 0x5B ∧ b ≠ 0x3B ∧ b ≠ 0x3D ∧ b ≠ 0x2C)

/-- One turn in each state, from something that is not blank. -/
def turn (ctx : ParserContext) : ParserContext :=
  match ctx.state with
  | .seekingUniform =>
      if beginsUniform ctx.rest then
        { ctx with rest := ctx.rest.drop 7, state := .seekingQualifiers }
      else { ctx with state := .error }
  | .seekingQualifiers =>
      let l := ctx.rest.dropWhile isBlank
      match qualifier l with
      | some (behind, precision) =>
          { ctx with rest := behind, precision := precision.or ctx.precision }
      | none => { ctx with rest := l, state := .parsingType }
  | .parsingType =>
      let n := typeLength ctx.rest
      if 0 < n ∧ n < 128 then
        { ctx with rest := ctx.rest.drop n, fullType := ctx.rest.take n, state := .parsingName }
      else { ctx with rest := ctx.rest.drop n, state := .error }
  | .parsingName =>
      let l := ctx.rest.dropWhile isBlank
      let name := l.takeWhile isNameByte
      let behind := l.dropWhile isNameByte
      if 0 < name.length ∧ name.length < 64 then
        { ctx with
          rest := behind
          baseName := name
          state := if behind.head? = some 0x5B then .parsingArray else .complete }
      else { ctx with rest := behind, state := .error }
  | .parsingArray =>
      let number := upToByte 0x5D ctx.rest.tail
      match fromByte 0x5D ctx.rest.tail with
      | [] => { ctx with rest := [], state := .error }
      | _ :: behind =>
          if number.length < 32 then
            { ctx with
              rest := behind
              arraySpecifier := number
              arraySize := if number = [] then ctx.arraySize else arrayCount number
              state := .complete }
          else { ctx with rest := behind, state := .complete }
  | .complete => ctx
  | .error => ctx

/-- The outer loop. -/
def loop : Loop ParserContext ParserContext where
  body := fun ctx =>
    if ctx.rest = [] ∨ ctx.state = .error then .inl ctx
    else if skip ctx.rest = [] then .inl { ctx with rest := [] }
    else .inr (turn { ctx with rest := skip ctx.rest })

/-- `complete_type`, as far as it fits. -/
def typeOut (ctx : ParserContext) : List UInt8 :=
  (ctx.precision.elim [] (· ++ [0x20]) ++ ctx.fullType).take 63

/-- The name, with the brackets of an array of more than one. -/
def nameOut (ctx : ParserContext) : List UInt8 :=
  (if 1 < ctx.arraySize ∧ ctx.arraySpecifier ≠ [] then
    ctx.baseName ++ [0x5B] ++ ctx.arraySpecifier ++ [0x5D]
  else ctx.baseName).take 63

/-- What the parser returns: a type and a name, if it is successful. -/
def result (ctx : ParserContext) : Option (List UInt8 × List UInt8) :=
  if ctx.state = .complete ∨ ctx.state = .parsingName ∧ ctx.baseName ≠ [] then
    some (ctx.typeOut, ctx.nameOut)
  else none

end ParserContext

/-- `parseUniformDeclarationAdvanced` returns with this. -/
def ParsesUniform (declaration : List UInt8) (result : Option (List UInt8 × List UInt8)) : Prop :=
  ∃ ctx, ParserContext.loop.Returns (.start declaration) ctx ∧ ctx.result = result

/-! ## `extractUniformFromLine` -/

/-- What a line gives: everything but location and offset. -/
structure UniformEntry where
  name : List UInt8
  type : Nat
  size : Nat
  arraySize : Nat
  deriving DecidableEq, Repr

/-- From the state machine. -/
def UniformEntry.advanced (type name : List UInt8) : UniformEntry :=
  let name := upToByte 0x3B name
  ⟨name, parseShaderDataType type, calculateUniformSize type, extractArraySize name⟩

/-- From the two words. -/
def UniformEntry.simple (type name : List UInt8) : UniformEntry :=
  ⟨upToByte 0x3B name, (simpleType type).1, (simpleType type).2, 1⟩

/-- `calculateUniformOffset`. -/
def calculateUniformOffset (existing : List ShaderUniform) (size : Nat) : Nat :=
  let total := existing.foldl (fun n u => (n + u.alignedSize) % u32) 0
  if 16 ≤ size then (total + 15) % u32 / 16 * 16
  else if 8 ≤ size then (total + 7) % u32 / 8 * 8
  else (total + 3) % u32 / 4 * 4

/-- The record, at the end of the array. Only the state machine's have an offset. -/
def UniformEntry.record (e : UniformEntry) (existing : List ShaderUniform) (advanced : Bool) :
    ShaderUniform :=
  ⟨e.name, e.type, existing.length, e.size, e.arraySize,
    if advanced then calculateUniformOffset existing e.size else 0⟩

/-- `extractUniformFromLine` returns with these uniforms. `memory`: there is some for a
record. -/
inductive ExtractsUniform (memory : Bool) (existing : List ShaderUniform) (line : List UInt8) :
    List ShaderUniform → Prop
  | noUniform : kernelStrstr "uniform " line = none →
      ExtractsUniform memory existing line existing
  | advanced {text type name : List UInt8} : kernelStrstr "uniform " line = some text →
      ParsesUniform text (some (type, name)) →
      ExtractsUniform memory existing line (if memory then
        existing ++ [(UniformEntry.advanced type name).record existing true] else existing)
  | simple {text type name : List UInt8} : kernelStrstr "uniform " line = some text →
      ParsesUniform text none → kernelSimpleSscanf "uniform" text = some (type, name) →
      ExtractsUniform memory existing line (if memory then
        existing ++ [(UniformEntry.simple type name).record existing false] else existing)
  | noWords {text : List UInt8} : kernelStrstr "uniform " line = some text →
      ParsesUniform text none → kernelSimpleSscanf "uniform" text = none →
      ExtractsUniform memory existing line existing

end VMQemuVGA
