import VMQemuVGA.Shader.UniformReading

/-! # `extractShaderMetadata`

The bytes of the descriptor are read as text, line by line, where the language is one of
two; for SPIR-V its words are counted. Whatever was found, the standard uniforms of a vertex
or fragment shader come behind it. The attributes come later, and the estimates for the log
are left out. -/

namespace VMQemuVGA

/-! ## Lines -/

/-- The lines of a text, so many at most. A zero ends a line too, and the text where it
begins one. -/
def textLines : Nat → List UInt8 → List (List UInt8)
  | 0, _ => []
  | _ + 1, [] => []
  | n + 1, b :: l =>
      if b = 0 then []
      else
        let line := (b :: l).takeWhile fun c => decide (c ≠ 0x0A ∧ c ≠ 0)
        line :: textLines n ((b :: l).drop (line.length + 1))

/-- A comment, behind blanks. -/
def isComment (line : List UInt8) : Bool := begins "//" (line.dropWhile isBlank)

def lowerCase (line : List UInt8) : List UInt8 :=
  line.map fun b => if 0x41 ≤ b ∧ b ≤ 0x5A then b + 32 else b

/-- What is analysed of the text: `line_buffer`, for every line of code. The loop is left
after the line with which it has more than 10000. -/
def codeLines (text : List UInt8) : List (List UInt8) :=
  ((textLines 10001 text).filter fun line => !isComment line).map fun line => line.take 511

/-- The lines that are searched for a uniform. -/
def uniformLines (text : List UInt8) : List (List UInt8) :=
  (codeLines text).filter fun line => contains "uniform " (lowerCase line)

/-- `texture_samples` of a text. -/
def textSamples (text : List UInt8) : Nat :=
  (codeLines text).countP fun line =>
    contains "texture" (lowerCase line) || contains "sample" (lowerCase line)

/-- `texture_samples` from an instruction on; so many instructions at most. -/
def spirvSamplesFrom (d : ShaderSource) : Nat → Nat → Nat
  | 0, _ => 0
  | n + 1, i =>
      let length := d.word i / 65536
      if d.size ≤ 4 * i ∨ length = 0 then 0
      else (if d.word i % 65536 = 87 then 1 else 0) + spirvSamplesFrom d n (i + length)

def spirvSamples (d : ShaderSource) : Nat :=
  if 20 ≤ d.size ∧ d.word 0 = 0x07230203 then spirvSamplesFrom d 1000 5 else 0

/-! ## Standard uniforms -/

/-- A standard uniform, and its offset. -/
structure StandardUniform where
  name : List UInt8
  type : Nat
  size : Nat
  offset : Nat
  deriving DecidableEq, Repr

def standardVertexUniforms : List StandardUniform :=
  ["mvpMatrix", "modelMatrix", "viewMatrix", "projectionMatrix"].zipIdx.map fun (name, i) =>
    ⟨ascii name, 0x8B5C, 64, 64 * i⟩

def standardFragmentUniforms : List StandardUniform := [⟨ascii "time", 0x1406, 4, 0⟩]

/-- `texture0`, `texture1` and so on, for eight texture units at most. -/
def textureSamplers (count : Nat) : List StandardUniform :=
  (List.range (min count 8)).map fun i =>
    ⟨ascii "texture" ++ [0x30 + UInt8.ofNat i], 0x8B5E, 4, 4 * i⟩

/-- The kinds of shader that get standard uniforms. -/
inductive StandardKind where
  | vertex
  | fragment
  | other
  deriving DecidableEq, Repr

def StandardKind.uniforms (samples : Nat) : StandardKind → List StandardUniform
  | .vertex => standardVertexUniforms
  | .fragment => standardFragmentUniforms ++ textureSamplers samples
  | .other => []

def StandardUniform.record (u : StandardUniform) (existing : List ShaderUniform) : ShaderUniform :=
  ⟨u.name, u.type, existing.length, u.size, 1, u.offset⟩

/-! ## The function -/

/-- The language of the bytecode: the text of two of them is read. -/
inductive BytecodeLanguage where
  | text
  | spirv
  | other
  deriving DecidableEq, Repr

/-- What `IOMalloc` answers, and `map`. -/
structure MetadataAnswers where
  mapped : Bool
  /-- for the uniform of the line of this number -/
  line : Nat → Bool
  /-- for the standard uniform of this number -/
  standard : Nat → Bool

def MetadataAnswers.granting : MetadataAnswers := ⟨true, fun _ => true, fun _ => true⟩

/-- The lines one after the other, from the one with this number on. -/
inductive ExtractsLines (a : MetadataAnswers) :
    Nat → List (List UInt8) → List ShaderUniform → List ShaderUniform → Prop
  | nil {n : Nat} {us : List ShaderUniform} : ExtractsLines a n [] us us
  | cons {n : Nat} {line : List UInt8} {lines : List (List UInt8)}
      {us us₁ us₂ : List ShaderUniform} : ExtractsUniform (a.line n) us line us₁ →
      ExtractsLines a (n + 1) lines us₁ us₂ → ExtractsLines a n (line :: lines) us us₂

/-- The standard uniforms for which there is memory. -/
def MetadataAnswers.given (a : MetadataAnswers) (standard : List StandardUniform) :
    List StandardUniform :=
  (standard.zipIdx.filter fun u => a.standard u.2).map Prod.fst

/-- They come behind what there is. -/
def addStandard (existing : List ShaderUniform) (given : List StandardUniform) :
    List ShaderUniform :=
  given.foldl (fun us u => us ++ [u.record us]) existing

def BytecodeLanguage.lines (data : ShaderSource) : BytecodeLanguage → List (List UInt8)
  | .text => uniformLines data.text
  | .spirv | .other => []

def BytecodeLanguage.samples (data : ShaderSource) : BytecodeLanguage → Nat
  | .text => textSamples data.text
  | .spirv => spirvSamples data
  | .other => 0

/-- `extractShaderMetadata` returns with these uniforms. `data`: the memory of the
descriptor. -/
inductive ExtractsMetadata (a : MetadataAnswers) (kind : StandardKind)
    (language : BytecodeLanguage) (data : ShaderSource) : List ShaderUniform → Prop
  | unmapped : a.mapped = false → ExtractsMetadata a kind language data []
  | mapped {us : List ShaderUniform} : a.mapped = true →
      ExtractsLines a 0 (language.lines data) [] us →
      ExtractsMetadata a kind language data
        (addStandard us (a.given (kind.uniforms (language.samples data))))

/-! ## What is recorded -/

open UniformReading

/-- What the lines give, as far as there is memory. -/
def MetadataAnswers.declared (a : MetadataAnswers) (n : Nat) (lines : List (List UInt8)) :
    List (UniformEntry × Bool) :=
  (lines.zipIdx n).filterMap fun l => if a.line l.2 then lineEntry l.1 else none

/-- One after the other, behind what there is. -/
def recordAll (existing : List ShaderUniform) (entries : List (UniformEntry × Bool)) :
    List ShaderUniform :=
  entries.foldl (fun us e => us ++ [e.1.record us e.2]) existing

/-- The parser ends on every line. -/
def MetadataEnds (language : BytecodeLanguage) (data : ShaderSource) : Prop :=
  ∀ line ∈ language.lines data, EndsWithin line

theorem extractsLines_iff {a : MetadataAnswers} {n : Nat} {lines : List (List UInt8)}
    {us us' : List ShaderUniform} :
    ExtractsLines a n lines us us' ↔
      (∀ line ∈ lines, EndsWithin line) ∧ us' = recordAll us (a.declared n lines) := by
  induction lines generalizing n us with
  | nil =>
      constructor
      · rintro ⟨⟩
        exact ⟨nofun, rfl⟩
      · rintro ⟨-, rfl⟩
        exact .nil
  | cons line lines ih =>
      have hone : recordAll us (a.declared n (line :: lines)) =
          recordAll (us ++ records (a.line n) us (lineEntry line)) (a.declared (n + 1) lines) := by
        have hnone :=
          congrArg (fun l => recordAll l (a.declared (n + 1) lines)) (List.append_nil us).symm
        rw [MetadataAnswers.declared, List.zipIdx_cons, List.filterMap_cons]
        cases a.line n with
        | false => exact hnone
        | true =>
            cases lineEntry line with
            | none => exact hnone
            | some e => rfl
      rw [List.forall_mem_cons, hone]
      constructor
      · rintro (_ | ⟨hfirst, hrest⟩)
        obtain ⟨hends, rfl⟩ := extractsUniform_iff.mp hfirst
        obtain ⟨hall, rfl⟩ := ih.mp hrest
        exact ⟨⟨hends, hall⟩, rfl⟩
      · rintro ⟨⟨hends, hall⟩, rfl⟩
        exact .cons (extractsUniform_iff.mpr ⟨hends, rfl⟩) (ih.mpr ⟨hall, rfl⟩)

/-- **The function comes back exactly if it cannot map the bytecode or the parser ends on
every line.** -/
theorem exists_extractsMetadata_iff {a : MetadataAnswers} {kind : StandardKind}
    {language : BytecodeLanguage} {data : ShaderSource} :
    (∃ us, ExtractsMetadata a kind language data us) ↔
      (a.mapped = true → MetadataEnds language data) := by
  constructor
  · rintro ⟨_, hunmapped | ⟨-, hlines⟩⟩ hmapped
    · rw [hmapped] at hunmapped
      cases hunmapped
    · exact (extractsLines_iff.mp hlines).1
  · intro h
    cases hmapped : a.mapped with
    | false => exact ⟨_, .unmapped hmapped⟩
    | true => exact ⟨_, .mapped hmapped (extractsLines_iff.mpr ⟨h hmapped, rfl⟩)⟩

end VMQemuVGA
