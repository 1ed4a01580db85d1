import VMQemuVGA.Shader.Translation
import Mathlib.Data.List.Defs
import Mathlib.Data.Nat.Digits.Defs

/-! # What a compilation leaves

`compileShaderInternal` allocates the record, three arrays and the descriptor of the
bytecode. The text it has compiled stays in its work buffer: of that text only the length
is used, for the capacity of the descriptor, and what is written there is the source. -/

namespace VMQemuVGA

/-! ## What a shader declares -/

/-- `VMShaderUniform`. -/
structure ShaderUniform where
  name : List UInt8
  type : Nat
  location : Nat
  size : Nat
  arraySize : Nat
  offset : Nat
  deriving DecidableEq, Repr

/-- What it takes, exactly. -/
def ShaderUniform.bytes (u : ShaderUniform) : Nat := u.size * u.arraySize

/-- `aligned_size`, in `uint32_t`. -/
def ShaderUniform.alignedSize (u : ShaderUniform) : Nat := (u.bytes % u32 + 15) % u32 / 16 * 16

/-- `VMShaderAttribute`. -/
structure ShaderAttribute where
  name : List UInt8
  type : Nat
  location : Nat
  components : Nat
  normalized : Nat
  deriving DecidableEq, Repr

/-! ## Lines of a source -/

namespace ShaderSource
variable (src : ShaderSource)

/-- The first bytes of the memory at `source_code`. -/
def upTo (n : Nat) : List UInt8 := (List.range n).map src.bytes

/-- The source itself. -/
def text : List UInt8 := src.upTo src.size

/-- A word of SPIR-V. -/
def word (i : Nat) : Nat :=
  (src.bytes (4 * i)).toNat + 256 * (src.bytes (4 * i + 1)).toNat +
    65536 * (src.bytes (4 * i + 2)).toNat + 16777216 * (src.bytes (4 * i + 3)).toNat

/-- The first end of a line among so many bytes, or the position behind them. -/
def lineEnd : Nat → Nat → Nat
  | 0, pos => pos
  | n + 1, pos => if src.bytes pos = 0x0A ∨ src.bytes pos = 0 then pos else lineEnd n (pos + 1)

/-- Where the lines from `pos` on start, and how long they are; at most so many. -/
def lines : Nat → Nat → List (Nat × Nat)
  | 0, _ => []
  | n + 1, pos =>
      if pos < src.size then
        let stop := src.lineEnd (src.size - pos) pos
        (pos, stop - pos) :: lines n (stop + 1)
      else []

/-- `strnstr_local(line, keyword, length)` finds something. -/
def finds (keyword : String) (line : Nat × Nat) : Bool :=
  let needle := ascii keyword
  decide (needle.length ≤ line.2) &&
    (List.range (line.2 - needle.length + 1)).any fun i => src.startsWith (line.1 + i) needle

/-- The lines that are analysed: 50001 at most. -/
def analysed : List (Nat × Nat) := src.lines 50001 0

/-- How many lines a keyword is in. -/
def count (keyword : String) : Nat := src.analysed.countP (src.finds keyword)

/-- A keyword is in one of the lines. -/
def uses (keyword : String) : Bool := src.analysed.any (src.finds keyword)

end ShaderSource

/-! ## Headers -/

/-- `%d`. -/
def decimal (n : Nat) : List UInt8 := (Nat.toDigits 10 n).map fun c => UInt8.ofNat c.toNat

/-- `%s` of a flag. -/
def yesNo (b : Bool) : List UInt8 := if b then ascii "yes" else ascii "no"

namespace ShaderSource
variable (src : ShaderSource)

/-- `required_glsl_version` of an HLSL source: the later test wins. -/
def hlslVersion : Nat :=
  if 0 < src.count "register(u" then 420 else if src.uses "[numthreads" then 430 else 330

/-- `hlsl_target_header`. -/
def hlslHeader : List UInt8 :=
  ascii "#version " ++ decimal src.hlslVersion ++ ascii " core\n" ++
    ascii "// Compiled from HLSL - Advanced Cross-Platform Translation\n" ++
    ascii "// Original semantics: " ++ decimal (src.count ": POSITION") ++ ascii " input, " ++
    decimal (src.count ": SV_POSITION" + src.count ": SV_Target") ++ ascii " output, " ++
    decimal (src.count ": SV_POSITION" + src.count ": SV_Target" + src.count "SV_InstanceID" +
      src.count "SV_VertexID") ++ ascii " system values\n" ++
    ascii "// Resource bindings: " ++ decimal (src.count "register(b") ++ ascii " CBV, " ++
    decimal (src.count "register(t") ++ ascii " SRV, " ++ decimal (src.count "register(s") ++
    ascii " samplers, " ++ decimal (src.count "register(u") ++ ascii " UAV\n" ++ ascii "\n" ++
    ascii "// HLSL to GLSL semantic mapping extensions\n" ++
    ascii "#extension GL_ARB_separate_shader_objects : enable\n" ++
    (if 0 < src.count "register(u" then
      ascii "#extension GL_ARB_shader_image_load_store : enable\n" else []) ++
    (if src.uses "[numthreads" then ascii "#extension GL_ARB_compute_shader : enable\n" else []) ++
    ascii "\n"

/-- `required_glsl_version` of an MSL source. -/
def mslVersion : Nat :=
  if src.uses "barycentric" then 450
  else if src.uses "stage_in" || src.uses "stage_out" then 330
  else if src.uses "atomic_" then 420
  else 330

/-- `msl_target_header`. -/
def mslHeader : List UInt8 :=
  ascii "#version " ++ decimal src.mslVersion ++ ascii " core\n" ++
    ascii "// Compiled from Metal Shading Language (MSL) - " ++
    ascii "Advanced Cross-Platform Translation\n" ++
    ascii "// Original interface: " ++ decimal (src.count "[[attribute(") ++
    ascii " attributes, " ++ decimal (src.count "[[buffer(") ++ ascii " buffers, " ++
    decimal (src.count "[[texture(") ++ ascii " textures, " ++
    decimal (src.count "[[sampler(") ++ ascii " samplers\n" ++
    ascii "// MSL builtins: vertex_id=" ++ yesNo (src.uses "[[vertex_id]]") ++
    ascii ", instance_id=" ++ yesNo (src.uses "[[instance_id]]") ++
    ascii ", position=" ++ yesNo (src.uses "[[position]]") ++ ascii "\n" ++ ascii "\n" ++
    ascii "// MSL to GLSL interface mapping extensions\n" ++
    ascii "#extension GL_ARB_separate_shader_objects : enable\n" ++
    (if src.uses "atomic_" then
      ascii "#extension GL_ARB_shader_atomic_counters : enable\n" else []) ++
    (if src.uses "barycentric" then
      ascii "#extension GL_AMD_shader_explicit_vertex_parameter : enable\n" else []) ++
    ascii "\n"

end ShaderSource

/-- What stands in the work buffer before the translation starts. -/
def ShaderLanguage.header (src : ShaderSource) : ShaderLanguage → List UInt8
  | .hlsl => src.hlslHeader
  | .msl => src.mslHeader
  | .glsl | .spirv | .other => []

theorem length_decimal_le {n k : Nat} (hk : 0 < k) (h : n < 10 ^ k) : (decimal n).length ≤ k := by
  rw [decimal, List.length_map]
  exact Nat.toDigits_length 10 n k hk h

theorem length_yesNo_le (b : Bool) : (yesNo b).length ≤ 3 := by
  cases b
  · rw [yesNo, if_neg Bool.false_ne_true, length_ascii rfl]
    decide
  · rw [yesNo, if_pos rfl, length_ascii rfl]
    decide

namespace ShaderSource
variable (src : ShaderSource)

theorem length_lines_le (n pos : Nat) : (src.lines n pos).length ≤ n := by
  induction n generalizing pos with
  | zero => exact Nat.le_refl _
  | succ n ih =>
      rw [lines]
      split
      · exact Nat.succ_le_succ (ih _)
      · exact Nat.zero_le _

theorem count_le (keyword : String) : src.count keyword ≤ 50001 :=
  Nat.le_trans List.countP_le_length (src.length_lines_le 50001 0)

theorem length_hlslHeader_lt : src.hlslHeader.length < 1024 := by
  have hcount (keyword : String) : (decimal (src.count keyword)).length ≤ 6 :=
    length_decimal_le (by decide) (Nat.lt_of_le_of_lt (src.count_le keyword) (by decide))
  have hversion : (decimal src.hlslVersion).length ≤ 3 := by
    refine length_decimal_le (by decide) ?_
    unfold hlslVersion
    split
    · decide
    · split <;> decide
  have h₁ := src.count_le ": SV_POSITION"
  have h₂ := src.count_le ": SV_Target"
  have h₃ := src.count_le "SV_InstanceID"
  have h₄ := src.count_le "SV_VertexID"
  have houtputs : (decimal (src.count ": SV_POSITION" + src.count ": SV_Target")).length ≤ 6 :=
    length_decimal_le (by decide) (by omega)
  have hvalues : (decimal (src.count ": SV_POSITION" + src.count ": SV_Target" +
      src.count "SV_InstanceID" + src.count "SV_VertexID")).length ≤ 6 :=
    length_decimal_le (by decide) (by omega)
  have h₅ := hcount ": POSITION"
  have h₆ := hcount "register(b"
  have h₇ := hcount "register(t"
  have h₈ := hcount "register(s"
  have h₉ := hcount "register(u"
  unfold hlslHeader
  simp only [List.length_append, apply_ite List.length, List.length_nil]
  repeat rw [length_ascii rfl]
  simp only [List.length_cons, List.length_nil]
  split_ifs <;> omega

theorem length_mslHeader_lt : src.mslHeader.length < 1024 := by
  have hcount (keyword : String) : (decimal (src.count keyword)).length ≤ 6 :=
    length_decimal_le (by decide) (Nat.lt_of_le_of_lt (src.count_le keyword) (by decide))
  have hversion : (decimal src.mslVersion).length ≤ 3 := by
    refine length_decimal_le (by decide) ?_
    unfold mslVersion
    split_ifs <;> decide
  have h₁ := hcount "[[attribute("
  have h₂ := hcount "[[buffer("
  have h₃ := hcount "[[texture("
  have h₄ := hcount "[[sampler("
  have h₅ := length_yesNo_le (src.uses "[[vertex_id]]")
  have h₆ := length_yesNo_le (src.uses "[[instance_id]]")
  have h₇ := length_yesNo_le (src.uses "[[position]]")
  unfold mslHeader
  simp only [List.length_append, apply_ite List.length, List.length_nil]
  repeat rw [length_ascii rfl]
  simp only [List.length_cons, List.length_nil]
  split_ifs <;> omega
end ShaderSource

/-- **A header fits the 1024 bytes it is put together in.** -/
theorem ShaderLanguage.length_header_lt (src : ShaderSource) (language : ShaderLanguage) :
    (language.header src).length < 1024 := by
  cases language with
  | hlsl => exact src.length_hlslHeader_lt
  | msl => exact src.length_mslHeader_lt
  | glsl => exact Nat.zero_lt_succ _
  | spirv => exact Nat.zero_lt_succ _
  | other => exact Nat.zero_lt_succ _

/-! ## The descriptor -/

/-- What `strlen` counts, in a buffer that goes on with a zero. -/
def cString (l : List UInt8) : List UInt8 := l.takeWhile fun b => decide (b ≠ 0)

/-- An `IOBufferMemoryDescriptor`, and what was written to it from its start on. -/
structure Bytecode where
  capacity : Nat
  written : List UInt8
  deriving DecidableEq, Repr

/-- `writeBytes(0, ..)` writes what there is room for. -/
def Bytecode.ofSource (src : ShaderSource) (capacity : Nat) : Bytecode :=
  ⟨capacity, src.text.take capacity⟩

/-- The memory of a descriptor. Not all of it need have been written. -/
def Bytecode.memory (b : Bytecode) (beyond : Nat → UInt8) : ShaderSource :=
  ⟨fun i => (b.written[i]?).getD (beyond i), b.capacity⟩

/-- The languages that are compiled in the work buffer. -/
def ShaderLanguage.isText : ShaderLanguage → Bool
  | .glsl | .hlsl | .msl => true
  | .spirv | .other => false

/-- `bytecode_size` in the end. The optimizer's estimates have been given up by then. -/
inductive BytecodeSize (src : ShaderSource) : ShaderLanguage → Nat → Prop
  /-- copied to the work buffer, as far as it fits -/
  | glsl : BytecodeSize src .glsl (cString (src.text.take 32767)).length
  | translated {language : ShaderLanguage} {rules : List ShaderRule} {t : Translation} :
      language.rules = some rules →
      (Translation.loop src rules).Returns (.start (language.header src).length) t →
      BytecodeSize src language (cString (language.header src ++ t.out)).length
  | binary {language : ShaderLanguage} : language.isText = false →
      BytecodeSize src language src.size

end VMQemuVGA
