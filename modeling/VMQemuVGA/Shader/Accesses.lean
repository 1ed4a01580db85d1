import VMQemuVGA.Lib.Probe
import VMQemuVGA.Shader.CompileShader

/-! # What a compilation touches

`compileShaderInternal` reads the source, and writes its text to a work buffer. Its own
loops test the position against the end before they read. `strncmp` does not: it goes on
behind the end as long as the keyword does. And `remaining_dst` is a `size_t` that a number
can take below zero. -/

namespace VMQemuVGA

namespace ShaderSource
variable (src : ShaderSource)

/-- `while (ptr < end && test(*ptr)) ptr++;` comes to this place. -/
def skip (test : UInt8 → Bool) (stop pos : Nat) : Nat :=
  Probe.scan src.bytes test (stop - pos) pos

def skipReads (test : UInt8 → Bool) (stop pos : Nat) : List Nat :=
  Probe.scanReads src.bytes test (stop - pos) pos

/-- `if (ptr < end && test(*ptr))`. -/
def peekReads (stop pos : Nat) : List Nat := if pos < stop then [pos] else []

/-- `strnstr_local`. -/
def searchReads (keyword : String) (window : Nat × Nat) : List Nat :=
  Probe.search src.bytes (ascii keyword) window.1 window.2

/-- The keywords are looked for at one place, each in so many bytes, up to the first that is
found. -/
def searchEach (pos : Nat) : List (String × Nat) → List Nat
  | [] => []
  | (keyword, length) :: keywords =>
      src.searchReads keyword (pos, length) ++
        if src.finds keyword (pos, length) then [] else searchEach pos keywords

def inLine (b : UInt8) : Bool := !decide (b = 0x0A ∨ b = 0)

/-! ## The preprocessor scan -/

/-- Where `#` stands, if the line begins with one behind its blanks. -/
def hash (line : Nat × Nat) : Option Nat :=
  let start := src.skip isBlank (line.1 + line.2) line.1
  if start < line.1 + line.2 ∧ src.bytes start = 0x23 then some start else none

/-- `directive_start`. -/
def directive (line : Nat × Nat) : Option Nat :=
  (src.hash line).map fun start => src.skip isBlank (line.1 + line.2) (start + 1)

/-- The names that are compared there, in this order. -/
def directives : List (List UInt8) :=
  ["version", "define", "include", "ifdef", "ifndef", "pragma", "extension"].map ascii

def notBlank (b : UInt8) : Bool := !isBlank b

/-- The version and the profile behind it are copied, 31 bytes at most of each. One byte
more is looked at, before the test of the length. -/
def versionReads (stop pos : Nat) : List Nat :=
  let version := src.skip isBlank stop pos
  let behind := Probe.scan src.bytes notBlank (min 31 (stop - version)) version
  let profile := src.skip isBlank stop behind
  src.skipReads isBlank stop pos ++
    Probe.scanReads src.bytes notBlank (min 32 (stop - version)) version ++
    src.skipReads isBlank stop behind ++
    Probe.scanReads src.bytes notBlank (min 32 (stop - profile)) profile

def inExtension (b : UInt8) : Bool := !decide (b = 0x20 ∨ b = 0x3A)

/-- Behind what is already in `required_extensions`, and a comma. -/
def extensionStart (length : Nat) : Nat := if 0 < length then length + 2 else 0

/-- The name is copied as far as there is room for it. -/
def extensionReads (length stop pos : Nat) : List Nat :=
  let name := src.skip isBlank stop pos
  src.skipReads isBlank stop pos ++
    if length < 400 then
      Probe.scanReads src.bytes inExtension (min (511 - extensionStart length) (stop - name)) name
    else []

/-- `strlen(required_extensions)` then. -/
def extensionLength (length stop pos : Nat) : Nat :=
  let name := src.skip isBlank stop pos
  if length < 400 then
    extensionStart length +
      (Probe.scan src.bytes inExtension (min (510 - extensionStart length) (stop - name)) name -
        name)
  else length

/-- The keyword is there. -/
def isAt (keyword : String) (pos : Nat) : Bool := src.startsWith pos (ascii keyword)

/-- What the scan reads of a directive whose name starts there. -/
def directiveReads (length stop pos : Nat) : List Nat :=
  (Probe.tried src.bytes pos directives).flatMap (Probe.reads src.bytes pos) ++
    if src.isAt "version" pos then src.versionReads stop (pos + 7)
    else if src.isAt "extension" pos then src.extensionReads length stop (pos + 9)
    else []

def lineReads (length : Nat) (line : Nat × Nat) : List Nat :=
  let stop := line.1 + line.2
  let start := src.skip isBlank stop line.1
  src.skipReads inLine src.size line.1 ++ src.skipReads isBlank stop line.1 ++
    peekReads stop start ++
    match src.directive line with
    | none => []
    | some pos => src.skipReads isBlank stop (start + 1) ++ src.directiveReads length stop pos

/-- `required_extensions` grows with every extension. -/
def lengthAfter (length : Nat) (line : Nat × Nat) : Nat :=
  match src.directive line with
  | none => length
  | some pos =>
      if src.isAt "extension" pos then src.extensionLength length (line.1 + line.2) (pos + 9)
      else length

def preprocessReads : Nat → List (Nat × Nat) → List Nat
  | _, [] => []
  | length, line :: lines =>
      src.lineReads length line ++ preprocessReads (src.lengthAfter length line) lines

/-- The lines of that scan: 50000 at most. -/
def preprocessed : List (Nat × Nat) := src.lines 50000 0

/-! ## The analysis before a translation -/

def hlslKeywords : List String :=
  [": POSITION", ": SV_POSITION", ": SV_Target", "SV_InstanceID", "SV_VertexID", "register(b",
    "register(t", "register(s", "register(u", "StructuredBuffer", "ByteAddressBuffer",
    "[maxvertexcount", "[numthreads", "[earlydepthstencil"]

def mslKeywords : List String :=
  ["[[attribute(", "[[buffer(", "[[texture(", "[[sampler(", "[[constant_id(", "[[vertex_id]]",
    "[[instance_id]]", "[[position]]", "[[point_size]]", "[[front_facing]]", "stage_in",
    "stage_out", "threadgroup", "#include <metal_stdlib>", "#include <simd/simd.h>", "atomic_",
    "imageblock", "barycentric", "using namespace metal"]

/-- What the analysis reads of a line. -/
def analysisReads (line : Nat × Nat) : ShaderLanguage → List Nat
  | .hlsl => src.skipReads inLine src.size line.1 ++
      hlslKeywords.flatMap (src.searchReads · line) ++
      src.searchEach line.1 [("WaveReadLane", line.2), ("WaveBroadcast", line.2)]
  | .msl => src.skipReads inLine src.size line.1 ++ mslKeywords.flatMap (src.searchReads · line)
  | .glsl | .spirv | .other => []

/-! ## The instructions of SPIR-V -/

/-- The words at which an instruction is looked at, so many at most. -/
def visited : Nat → Nat → List Nat
  | 0, _ => []
  | n + 1, i =>
      if 4 * i < src.size then
        i :: if src.word i / 65536 = 0 ∨ 1000 < src.word i / 65536 then []
          else visited n (i + src.word i / 65536)
      else []

def wordReads (i : Nat) : List Nat := List.range' (4 * i) 4

def hasMagic : Bool := decide (20 ≤ src.size ∧ src.word 0 = 0x07230203)

/-- The header, and the walk over the instructions behind it. -/
def spirvReads : List Nat :=
  (if 20 ≤ src.size then wordReads 0 else []) ++
    if src.hasMagic then [1, 2, 3, 4].flatMap wordReads ++ (src.visited 10000 5).flatMap wordReads
    else []

/-! ## Tests inside the translation -/

/-- The test of a type name reads the byte before it and, only then, the byte behind it. -/
def aloneReads (pos length : Nat) : List Nat :=
  (if pos = 0 then [] else [pos - 1]) ++
    if pos ≠ 0 ∧ isLetter (src.bytes (pos - 1)) = true then []
    else peekReads src.size (pos + length)

def digitReads (pos : Nat) : List Nat :=
  Probe.scanReads src.bytes isDigit (min 7 (src.size - pos)) pos

/-- The bracket is looked for, and so is a second one. -/
def bracketReads (pos : Nat) : List Nat :=
  let close := src.closing (src.size - pos) pos
  src.skipReads (fun b => !decide (b = 0x5D)) src.size pos ++ peekReads src.size close ++
    peekReads src.size (src.behindBracket close)

/-! ## Reads that stop by themselves -/

section stops
variable {src : ShaderSource} {limit stop pos length : Nat} {test : UInt8 → Bool}
  {keyword : String} {keywords : List (String × Nat)}

theorem skip_le (h : pos ≤ stop) : src.skip test stop pos ≤ stop := by
  have hbound : src.skip test stop pos ≤ pos + (stop - pos) := (Probe.scan_bounds _ _ _).2
  rwa [Nat.add_sub_cancel' h] at hbound

theorem within_skipReads (h : stop ≤ limit) : Within limit (src.skipReads test stop pos) :=
  Probe.within_scanReads (by omega)

theorem within_peekReads (h : stop ≤ limit) : Within limit (peekReads stop pos) := by
  rw [peekReads, within_ite]
  intro hlt
  simp only [within_cons, within_nil, and_true]
  exact Nat.lt_of_lt_of_le hlt h

theorem within_searchReads (h : pos + length ≤ limit) :
    Within limit (src.searchReads keyword (pos, length)) := Probe.within_search h

theorem within_searchEach (h : ∀ k ∈ keywords, pos + k.2 ≤ limit) :
    Within limit (src.searchEach pos keywords) := by
  induction keywords with
  | nil => exact within_nil
  | cons k keywords ih =>
      rw [List.forall_mem_cons] at h
      rw [searchEach, within_append]
      refine ⟨within_searchReads h.1, ?_⟩
      split
      · exact within_nil
      · exact ih h.2

end stops

/-! ## Reads of the source -/

section source
variable {src : ShaderSource} {limit stop pos length : Nat} {line : Nat × Nat}
  {lines : List (Nat × Nat)}

theorem lineEnd_le (n pos : Nat) : src.lineEnd n pos ≤ pos + n := by
  induction n generalizing pos with
  | zero => exact Nat.le_refl _
  | succ n ih =>
      rw [lineEnd]
      split
      · exact Nat.le_add_right _ _
      · exact Nat.le_trans (ih (pos + 1)) (by omega)

theorem le_lineEnd (n pos : Nat) : pos ≤ src.lineEnd n pos := by
  induction n generalizing pos with
  | zero => exact Nat.le_refl _
  | succ n ih =>
      rw [lineEnd]
      split
      · exact Nat.le_refl _
      · exact Nat.le_trans (Nat.le_succ pos) (ih (pos + 1))

/-- Every line is in the source. -/
theorem line_le {n : Nat} (h : line ∈ src.lines n pos) : line.1 + line.2 ≤ src.size := by
  induction n generalizing pos with
  | zero => cases h
  | succ n ih =>
      rw [lines] at h
      split at h
      next hpos =>
        have hstop := src.lineEnd_le (src.size - pos) pos
        have hstart := src.le_lineEnd (src.size - pos) pos
        rcases List.mem_cons.mp h with rfl | h
        · show pos + (src.lineEnd (src.size - pos) pos - pos) ≤ src.size
          omega
        · exact ih h
      next => cases h

theorem within_versionReads (h : stop ≤ limit) : Within limit (src.versionReads stop pos) := by
  simp only [versionReads, within_append]
  refine ⟨⟨⟨within_skipReads h, ?_⟩, within_skipReads h⟩, ?_⟩
  · exact Probe.within_scanReads (by omega)
  · exact Probe.within_scanReads (by omega)

theorem within_extensionReads (h : stop ≤ limit) :
    Within limit (src.extensionReads length stop pos) := by
  simp only [extensionReads, within_append, within_ite]
  exact ⟨within_skipReads h, fun _ => Probe.within_scanReads (by omega)⟩

theorem directive_le (h : src.directive line = some pos) : pos ≤ line.1 + line.2 := by
  rw [directive, hash] at h
  split at h
  next hhash =>
    cases h
    exact skip_le hhash.1
  next => cases h

/-- Only the names of the directives are compared behind the end. -/
theorem within_directiveReads_iff (hstop : stop ≤ src.size) (hpos : pos ≤ src.size) :
    Within src.size (src.directiveReads length stop pos) ↔
      ∀ word ∈ Probe.tried src.bytes pos directives,
        ¬ Probe.CutOff src.bytes src.size pos word := by
  rw [directiveReads, within_append, Probe.within_tried_iff hpos]
  refine and_iff_left_of_imp fun _ => ?_
  split
  · exact within_versionReads hstop
  · split
    · exact within_extensionReads hstop
    · exact within_nil

theorem within_lineReads_iff (hline : line.1 + line.2 ≤ src.size) :
    Within src.size (src.lineReads length line) ↔
      ∀ pos, src.directive line = some pos → ∀ word ∈ Probe.tried src.bytes pos directives,
        ¬ Probe.CutOff src.bytes src.size pos word := by
  simp only [lineReads, within_append]
  rw [and_iff_right ⟨⟨within_skipReads (Nat.le_refl _), within_skipReads hline⟩,
    within_peekReads hline⟩]
  cases hdirective : src.directive line with
  | none => exact iff_of_true within_nil fun _ h => absurd h (by simp)
  | some pos =>
      have hpos : pos ≤ src.size := Nat.le_trans (directive_le hdirective) hline
      dsimp only
      rw [within_append, and_iff_right (within_skipReads hline),
        within_directiveReads_iff hline hpos]
      simp only [Option.some.injEq, forall_eq']

/-- **The preprocessor scan stays in the source exactly if its end cuts off no name of a
directive.** -/
theorem within_preprocessReads_iff (h : ∀ line ∈ lines, line.1 + line.2 ≤ src.size) :
    Within src.size (src.preprocessReads length lines) ↔
      ∀ line ∈ lines, ∀ pos, src.directive line = some pos →
        ∀ word ∈ Probe.tried src.bytes pos directives,
          ¬ Probe.CutOff src.bytes src.size pos word := by
  induction lines generalizing length with
  | nil => exact iff_of_true within_nil fun _ h => absurd h List.not_mem_nil
  | cons line lines ih =>
      rw [List.forall_mem_cons] at h ⊢
      rw [preprocessReads, within_append, within_lineReads_iff h.1, ih h.2]

theorem within_analysisReads (language : ShaderLanguage) (h : line.1 + line.2 ≤ src.size) :
    Within src.size (src.analysisReads line language) := by
  have hsearches (keywords : List String) :
      Within src.size (keywords.flatMap (src.searchReads · line)) := by
    rw [within_flatMap]
    exact fun _ _ => within_searchReads h
  cases language with
  | hlsl =>
      simp only [analysisReads, within_append]
      refine ⟨⟨within_skipReads (Nat.le_refl _), hsearches _⟩, within_searchEach ?_⟩
      simp only [List.forall_mem_cons]
      exact ⟨h, h, fun _ hk => absurd hk List.not_mem_nil⟩
  | msl =>
      simp only [analysisReads, within_append]
      exact ⟨within_skipReads (Nat.le_refl _), hsearches _⟩
  | glsl => exact within_nil
  | spirv => exact within_nil
  | other => exact within_nil

theorem within_aloneReads (h : pos < src.size) : Within src.size (src.aloneReads pos length) := by
  rw [aloneReads, within_append]
  constructor
  · split
    · exact within_nil
    · simp only [within_cons, within_nil, and_true]
      omega
  · split
    · exact within_nil
    · exact within_peekReads (Nat.le_refl _)

theorem within_digitReads : Within src.size (src.digitReads pos) :=
  Probe.within_scanReads (by omega)

theorem within_bracketReads : Within src.size (src.bracketReads pos) := by
  simp only [bracketReads, within_append]
  exact ⟨⟨within_skipReads (Nat.le_refl _), within_peekReads (Nat.le_refl _)⟩,
    within_peekReads (Nat.le_refl _)⟩

theorem visited_lt {n i j : Nat} (h : j ∈ src.visited n i) : 4 * j < src.size := by
  induction n generalizing i with
  | zero => cases h
  | succ n ih =>
      rw [visited] at h
      split at h
      next hi =>
        rcases List.mem_cons.mp h with rfl | h
        · exact hi
        · split at h
          · cases h
          · exact ih h
      next => cases h

theorem within_wordReads_iff {i : Nat} : Within limit (wordReads i) ↔ 4 * i + 4 ≤ limit := by
  constructor
  · intro h
    exact h (4 * i + 3) (List.mem_range'_1.mpr (by omega))
  · exact within_range'

/-- **The walk stays in the source exactly if it comes to no instruction of which only a part
is there.** -/
theorem within_spirvReads_iff : Within src.size src.spirvReads ↔
    (src.hasMagic = true → src.size % 4 = 0 ∨ src.size / 4 ∉ src.visited 10000 5) := by
  have hheader {l : List Nat} (hl : ∀ i ∈ l, i < 5) (hsize : 20 ≤ src.size) :
      Within src.size (l.flatMap wordReads) := by
    rw [within_flatMap]
    intro i hi
    have hlt := hl i hi
    exact within_wordReads_iff.mpr (by omega)
  have hwalk : Within src.size ((src.visited 10000 5).flatMap wordReads) ↔
      src.size % 4 = 0 ∨ src.size / 4 ∉ src.visited 10000 5 := by
    simp only [within_flatMap, within_wordReads_iff]
    constructor
    · intro h
      by_contra hpart
      rw [not_or, not_not] at hpart
      have hle := h _ hpart.2
      omega
    · intro h i hi
      have hlt := visited_lt hi
      by_contra hpart
      have hlast : src.size / 4 = i := by omega
      rcases h with h | h
      · omega
      · exact h (hlast ▸ hi)
  rw [spirvReads, within_append, within_ite, within_ite, within_append, hwalk]
  constructor
  · exact fun h hmagic => (h.2 hmagic).2
  · intro h
    refine ⟨fun hsize => within_wordReads_iff.mpr (by omega), fun hmagic => ⟨?_, h hmagic⟩⟩
    exact hheader (by decide) (of_decide_eq_true hmagic).1

end source

end ShaderSource

/-! ## The translation -/

namespace Translation
variable (src : ShaderSource) (rules : List ShaderRule) (headerLength : Nat) (t : Translation)

/-- The keywords that an iteration compares. -/
def triedKeywords : List (List UInt8) :=
  Probe.tried src.bytes t.pos (rules.map fun rule => ascii rule.keyword)

/-- What an iteration reads of the source. -/
def turnReads : List Nat :=
  t.pos :: ((triedKeywords src rules t).flatMap (Probe.reads src.bytes t.pos) ++
    match ruleAt src rules t.pos with
    | none => []
    | some rule =>
        match rule.action with
        | .replace => []
        | .retype => src.aloneReads t.pos (ascii rule.keyword).length
        | .bind _ _ _ => src.digitReads (t.pos + (ascii rule.keyword).length) ++
            src.bracketReads t.pos)

/-- `dst_ptr - compiled_source`. -/
def dst : Nat := headerLength + t.out.length

/-- `strlcpy` of a replacement that fits, with the zero behind it. -/
def emitWrites (text : List UInt8) : List Nat :=
  if text.length < t.remaining then List.range' (t.dst headerLength) (text.length + 1) else []

/-- `remaining_dst - room` is taken for what is left. -/
def admits (number : List UInt8) (room : Nat) : Prop :=
  number ≠ [] ∧ number.length < sub64 t.remaining room

instance (number : List UInt8) (room : Nat) : Decidable (t.admits number room) :=
  inferInstanceAs (Decidable (_ ∧ _))

/-- `strlcat` of the number and of what closes it. A zero is behind them in any case. -/
def bindWrites (number : List UInt8) (close : String) (room : Nat) : List Nat :=
  if t.admits number room then
    List.range' (t.dst headerLength)
      (min (number.length + (ascii close).length) (t.remaining - 1) + 1)
  else []

/-- `strlcat` looks for the end of what is there: nothing, and then the number. -/
def bindReads (number : List UInt8) (room : Nat) : List Nat :=
  if t.admits number room then
    List.range' (t.dst headerLength) (min number.length (t.remaining - 1) + 1)
  else []

/-- What an iteration writes to the work buffer. -/
def turnWrites : List Nat :=
  match ruleAt src rules t.pos with
  | none => [t.dst headerLength]
  | some rule =>
      match rule.action with
      | .replace => t.emitWrites headerLength (ascii rule.replacement)
      | .retype =>
          if src.standsAlone t.pos (ascii rule.keyword).length then
            t.emitWrites headerLength (ascii rule.replacement)
          else []
      | .bind close _ room =>
          t.emitWrites headerLength (ascii rule.replacement) ++
            (t.emit (ascii rule.replacement)).bindWrites headerLength
              (src.digits 7 (t.pos + (ascii rule.keyword).length)) close room

/-- What an iteration reads of the work buffer. -/
def turnBufferReads : List Nat :=
  match ruleAt src rules t.pos with
  | none => []
  | some rule =>
      match rule.action with
      | .replace | .retype => []
      | .bind _ _ room => (t.emit (ascii rule.replacement)).bindReads headerLength
          (src.digits 7 (t.pos + (ascii rule.keyword).length)) room

end Translation

end VMQemuVGA
