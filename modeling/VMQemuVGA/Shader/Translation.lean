import VMQemuVGA.IOKit
import VMQemuVGA.Lib.Loop

/-! # The translation of shader sources

`compileShaderInternal` rewrites HLSL and MSL sources keyword by keyword, in one chain of
tests for each language. The chains differ in their keywords only, so each is a list of
rules here, tried in the order of the source. What the loop counts for its log messages
is left out. -/

namespace VMQemuVGA

/-! ## Sources -/

/-- The memory from `source_code` on. `strncmp` may look behind the end. -/
structure ShaderSource where
  bytes : Nat → UInt8
  size : Nat

/-- The bytes of a keyword or a replacement. -/
def ascii (s : String) : List UInt8 := s.toList.map fun c => UInt8.ofNat c.toNat

-- with `rfl` for the hypothesis, the characters of a literal are not decoded from its bytes
theorem ascii_eq {s : String} {cs : List Char} (hs : s = String.ofList cs) :
    ascii s = cs.map fun c => UInt8.ofNat c.toNat := by
  rw [hs, ascii, String.toList_ofList]

theorem length_ascii {s : String} {cs : List Char} (hs : s = String.ofList cs) :
    (ascii s).length = cs.length := by
  rw [ascii_eq hs, List.length_map]

namespace ShaderSource
variable (src : ShaderSource)

/-- A source of the given bytes, with zeros behind. -/
def ofString (s : String) : ShaderSource := ⟨fun i => (ascii s).getD i 0, (ascii s).length⟩

/-- `strncmp(src_ptr, keyword, n) == 0`, where `n` is the length of the keyword. -/
def startsWith : Nat → List UInt8 → Bool
  | _, [] => true
  | pos, b :: bs => decide (src.bytes pos = b) && startsWith (pos + 1) bs

/-- What an identifier is made of, but for digits. -/
def isLetter (b : UInt8) : Bool :=
  decide (0x61 ≤ b ∧ b ≤ 0x7A) || decide (0x41 ≤ b ∧ b ≤ 0x5A) || decide (b = 0x5F)

/-- No letter is directly before the position or directly behind the keyword. -/
def standsAlone (pos length : Nat) : Bool :=
  (decide (pos = 0) || !isLetter (src.bytes (pos - 1))) &&
    (decide (src.size ≤ pos + length) || !isLetter (src.bytes (pos + length)))

/-- The digits of a number, at most so many. -/
def digits : Nat → Nat → List UInt8
  | 0, _ => []
  | n + 1, pos =>
      if pos < src.size ∧ 0x30 ≤ src.bytes pos ∧ src.bytes pos ≤ 0x39 then
        src.bytes pos :: digits n (pos + 1)
      else []

/-- The first `]` among so many bytes, or the position behind them. -/
def closing : Nat → Nat → Nat
  | 0, pos => pos
  | n + 1, pos => if src.bytes pos = 0x5D then pos else closing n (pos + 1)

/-- Behind a `]`, if there is one. -/
def behindBracket (pos : Nat) : Nat :=
  if pos < src.size ∧ src.bytes pos = 0x5D then pos + 1 else pos

end ShaderSource

/-! ## Rules -/

/-- What becomes of a keyword. -/
inductive ShaderAction where
  | replace
  /-- only where it is not part of a longer identifier -/
  | retype
  /-- with the number behind it, if `room` bytes are left, and `close` -/
  | bind (close : String) (advance room : Nat)
  deriving DecidableEq, Repr

structure ShaderRule where
  keyword : String
  replacement : String
  action : ShaderAction
  deriving DecidableEq, Repr

def hlslRules : List ShaderRule :=
  [⟨": POSITION", " // POSITION semantic -> layout(location = 0)", .replace⟩,
    ⟨": NORMAL", " // NORMAL semantic -> layout(location = 1)", .replace⟩,
    ⟨": TEXCOORD", " // TEXCOORD semantic -> layout(location = 2)", .replace⟩,
    ⟨": SV_POSITION", " // SV_POSITION -> gl_Position", .replace⟩,
    ⟨": SV_Target", " // SV_Target -> gl_FragColor", .replace⟩,
    ⟨"cbuffer", "layout(std140) uniform", .replace⟩,
    ⟨"Texture2D", "uniform sampler2D", .replace⟩,
    ⟨"TextureCube", "uniform samplerCube", .replace⟩,
    ⟨"Texture3D", "uniform sampler3D", .replace⟩,
    ⟨"SamplerState", "// SamplerState (combined with texture in GLSL)", .replace⟩,
    ⟨"mul(", "/* HLSL mul() */ (", .replace⟩,
    ⟨"tex2D(", "texture(", .replace⟩,
    ⟨"tex2Dlod(", "textureLod(", .replace⟩,
    ⟨"texCUBE(", "texture(", .replace⟩,
    ⟨"float4", "vec4", .retype⟩,
    ⟨"float3", "vec3", .retype⟩,
    ⟨"float2", "vec2", .retype⟩,
    ⟨"float4x4", "mat4", .retype⟩,
    ⟨"float3x3", "mat3", .retype⟩]

def mslRules : List ShaderRule :=
  [⟨"[[attribute(", "// MSL attribute -> layout(location = ", .bind ")" 1 4⟩,
    ⟨"[[buffer(", "// MSL buffer -> layout(std140, binding = ", .bind ") uniform" 10 20⟩,
    ⟨"[[texture(", "// MSL texture -> layout(binding = ", .bind ") uniform" 10 20⟩,
    ⟨"[[vertex_id]]", "/* MSL vertex_id -> gl_VertexID */", .replace⟩,
    ⟨"[[instance_id]]", "/* MSL instance_id -> gl_InstanceID */", .replace⟩,
    ⟨"[[position]]", "/* MSL position -> gl_Position */", .replace⟩,
    ⟨"float4", "vec4", .retype⟩,
    ⟨"float3", "vec3", .retype⟩,
    ⟨"float2", "vec2", .retype⟩,
    ⟨"float4x4", "mat4", .retype⟩,
    ⟨"stage_in", "/* MSL stage_in */ in", .replace⟩,
    ⟨"stage_out", "/* MSL stage_out */ out", .replace⟩,
    ⟨"threadgroup", "/* MSL threadgroup */ shared", .replace⟩]

/-! ## The loop -/

/-- `src_ptr - source_text`, `remaining_dst`, and what is in front of `dst_ptr`. -/
structure Translation where
  pos : Nat
  remaining : Nat
  out : List UInt8
  deriving DecidableEq, Repr

namespace Translation

/-- A replacement is left out where there is no room for it. -/
def emit (text : List UInt8) (t : Translation) : Translation :=
  if text.length < t.remaining then
    { t with remaining := t.remaining - text.length, out := t.out ++ text }
  else t

/-- The number, cut off by `strlcat`. `dst_ptr` goes on by `advance` more than its length
in any case, and `remaining_dst` is a `size_t`. -/
def bindNumber (number : List UInt8) (close : String) (advance room : Nat) (t : Translation) :
    Translation :=
  if number ≠ [] ∧ number.length < sub64 t.remaining room then
    let text := (number ++ ascii close).take (t.remaining - 1)
    { t with
      remaining := sub64 t.remaining (number.length + advance)
      out := t.out ++ (text ++ List.replicate (number.length + advance - text.length) 0) }
  else t

variable (src : ShaderSource)

/-- A keyword is met at `t.pos`. -/
def apply (rule : ShaderRule) (t : Translation) : Translation :=
  let length := (ascii rule.keyword).length
  match rule.action with
  | .replace => { t.emit (ascii rule.replacement) with pos := t.pos + length }
  | .retype =>
      -- a keyword that fails the test is not copied either
      if src.standsAlone t.pos length then
        { t.emit (ascii rule.replacement) with pos := t.pos + length }
      else t
  | .bind close advance room =>
      { (t.emit (ascii rule.replacement)).bindNumber (src.digits 7 (t.pos + length)) close advance
          room with
        pos := src.behindBracket (src.behindBracket (src.closing (src.size - t.pos) t.pos)) }

/-- The first rule whose keyword is at the position. -/
def ruleAt (rules : List ShaderRule) (pos : Nat) : Option ShaderRule :=
  rules.find? fun rule => src.startsWith pos (ascii rule.keyword)

/-- One iteration. -/
def turn (rules : List ShaderRule) (t : Translation) : Translation :=
  match ruleAt src rules t.pos with
  | some rule => t.apply src rule
  | none => ⟨t.pos + 1, t.remaining - 1, t.out ++ [src.bytes t.pos]⟩

/-- The condition of the loop. -/
def goesOn (t : Translation) : Bool := decide (t.pos < src.size ∧ 10 < t.remaining)

def loop (rules : List ShaderRule) : Loop Translation Translation where
  body := fun t => if t.goesOn src then .inr (t.turn src rules) else .inl t

/-- Behind a header of the given length, in a buffer of 32768 bytes. -/
def start (headerLength : Nat) : Translation := ⟨0, sub64 (sub64 32768 headerLength) 1, []⟩

end Translation

/-! ## Languages -/

inductive ShaderLanguage where
  | glsl
  | hlsl
  | msl
  | spirv
  | other
  deriving DecidableEq, Repr

def ShaderLanguage.rules : ShaderLanguage → Option (List ShaderRule)
  | .hlsl => some hlslRules
  | .msl => some mslRules
  | .glsl | .spirv | .other => none

/-- What both chains have in common. -/
theorem ShaderLanguage.forall_rules {language : ShaderLanguage} {rules : List ShaderRule}
    {p : ShaderRule → Prop} (hhlsl : ∀ rule ∈ hlslRules, p rule) (hmsl : ∀ rule ∈ mslRules, p rule)
    (h : language.rules = some rules) : ∀ rule ∈ rules, p rule := by
  cases language with
  | hlsl =>
      cases h
      exact hhlsl
  | msl =>
      cases h
      exact hmsl
  | glsl => cases h
  | spirv => cases h
  | other => cases h

end VMQemuVGA
