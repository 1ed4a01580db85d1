import VMQemuVGA.Shader.Metadata
import VMQemuVGA.Shader.UniformDeclarations

/-! # Vertex attributes

`extractShaderMetadata` searches the lines of a source for `attribute ` and `in `, and takes
the two words behind for the type and the name. A vertex shader without any gets four
standard ones. The count of the declarations, for the log, is left out. -/

namespace VMQemuVGA

/-- What a line gives: everything but the location, and what all attributes have. -/
structure AttributeEntry where
  name : List UInt8
  components : Nat
  deriving DecidableEq, Repr

/-! ## `extractAttributeFromLine` -/

/-- The component count of a type. -/
def attributeComponents (type : List UInt8) : Nat :=
  firstWithin [("vec4", 4), ("vec3", 3), ("vec2", 2)] 1 type

/-- `attr_pos` -/
def attributePos (line : List UInt8) : Option (List UInt8) :=
  (kernelStrstr "attribute " line).or (kernelStrstr "in " line)

/-- What is read behind the first blank. -/
def attributeEntry (line : List UInt8) : Option AttributeEntry :=
  (attributePos line).bind fun text =>
    match fromByte 0x20 text with
    | [] => none
    | _ :: l =>
        (kernelSimpleSscanf "" l).map fun (type, name) =>
          ⟨upToByte 0x3B name, attributeComponents type⟩

/-- The type is `GL_FLOAT` always, the location the number of attributes there are. -/
def AttributeEntry.record (e : AttributeEntry) (existing : List ShaderAttribute) :
    ShaderAttribute :=
  ⟨e.name, 0x1406, existing.length, e.components, 0⟩

/-- `memory`: there is some for a record. -/
def extractAttributeFromLine (memory : Bool) (line : List UInt8) (existing : List ShaderAttribute) :
    List ShaderAttribute :=
  match attributeEntry line with
  | none => existing
  | some e => if memory then existing ++ [e.record existing] else existing

/-! ## The attributes of a shader -/

/-- The lines that are searched for an attribute. -/
def attributeLines (text : List UInt8) : List (List UInt8) :=
  (codeLines text).filter fun line =>
    contains "attribute " (lowerCase line) || contains "in " (lowerCase line)

def BytecodeLanguage.attributeLines (data : ShaderSource) : BytecodeLanguage → List (List UInt8)
  | .text => VMQemuVGA.attributeLines data.text
  | .spirv | .other => []

/-- Their locations are fixed. -/
def defaultVertexAttributes : List ShaderAttribute :=
  [("position", "vec3"), ("normal", "vec3"), ("texCoord", "vec2"), ("color", "vec4")].zipIdx.map
    fun ((name, type), i) => ⟨ascii name, 0x1406, i, attributeComponents (ascii type), 0⟩

/-- What `IOMalloc` answers. -/
structure AttributeAnswers where
  /-- for the attribute of the line of this number -/
  line : Nat → Bool
  /-- for the standard attribute of this number -/
  standard : Nat → Bool

def AttributeAnswers.granting : AttributeAnswers := ⟨fun _ => true, fun _ => true⟩

/-- The attributes of lines, one after the other. -/
def AttributeAnswers.declared (b : AttributeAnswers) (lines : List (List UInt8)) :
    List ShaderAttribute :=
  lines.zipIdx.foldl (fun as l => extractAttributeFromLine (b.line l.2) l.1 as) []

/-- `addDefaultVertexAttributes` -/
def addDefaultVertexAttributes (b : AttributeAnswers) : List ShaderAttribute :=
  (defaultVertexAttributes.zipIdx.filter fun a => b.standard a.2).map Prod.fst

def shaderAttributes (b : AttributeAnswers) (kind : StandardKind) (language : BytecodeLanguage)
    (data : ShaderSource) : List ShaderAttribute :=
  let declared := b.declared (language.attributeLines data)
  if kind = .vertex ∧ declared = [] then addDefaultVertexAttributes b else declared

/-- `extractShaderMetadata` returns with these uniforms and these attributes. -/
def ReturnsMetadata (a : MetadataAnswers) (b : AttributeAnswers) (kind : StandardKind)
    (language : BytecodeLanguage) (data : ShaderSource) (us : List ShaderUniform)
    (attributes : List ShaderAttribute) : Prop :=
  ExtractsMetadata a kind language data us ∧
    attributes = if a.mapped then shaderAttributes b kind language data else []

/-! ## The form of a text -/

/-- The types that fit in one location, with their components. -/
def attributeTypes : List (String × Nat) :=
  [("float", 1), ("vec2", 2), ("vec3", 3), ("vec4", 4),
    ("int", 1), ("ivec2", 2), ("ivec3", 3), ("ivec4", 4),
    ("uint", 1), ("uvec2", 2), ("uvec3", 3), ("uvec4", 4)]

/-- A type, a name and a semicolon. -/
inductive AttributeTail : List UInt8 → AttributeEntry → Prop
  | intro {s₁ s₂ name s₃ rest : List UInt8} {type : String} {n : Nat} : Blanks s₁ →
      (type, n) ∈ attributeTypes → Blanks s₂ → s₂ ≠ [] → IsIdentifier name → name.length ≤ 63 →
      Blanks s₃ →
      AttributeTail (s₁ ++ (ascii type ++ (s₂ ++ (name ++ (s₃ ++ 0x3B :: rest))))) ⟨name, n⟩

/-- The line declares this attribute. In front of the keyword there may be anything, a layout
for one, that the keyword is not in. A line with `in ` has `attribute ` nowhere, not even
behind the declaration: it would be found first. -/
inductive DeclaresAttribute : List UInt8 → AttributeEntry → Prop
  | attributeWord {front tail : List UInt8} {e : AttributeEntry} :
      contains "attribute " (front ++ ascii "attribute") = false → AttributeTail tail e →
      DeclaresAttribute (front ++ (ascii "attribute " ++ tail)) e
  | inWord {front tail : List UInt8} {e : AttributeEntry} :
      contains "in " (front ++ ascii "in") = false →
      contains "attribute " (front ++ (ascii "in " ++ tail)) = false → AttributeTail tail e →
      DeclaresAttribute (front ++ (ascii "in " ++ tail)) e

/-- What a line of a source is to give. -/
inductive SourceLine : List UInt8 → Option AttributeEntry → Prop
  | comment {line : List UInt8} : isComment line = true → SourceLine line none
  | other {line : List UInt8} : contains "attribute " line = false → contains "in " line = false →
      SourceLine line none
  | declares {line : List UInt8} {e : AttributeEntry} : isComment line = false →
      line.length ≤ 511 → DeclaresAttribute line e → SourceLine line (some e)

/-- Lines as a text. Every line ends with a newline, the last one too. -/
def textOf (lines : List (List UInt8)) : List UInt8 := lines.flatMap (· ++ [0x0A])

/-- The attributes at the locations that follow from their order. -/
def located (es : List AttributeEntry) : List ShaderAttribute :=
  es.zipIdx.map fun (e, i) => ⟨e.name, 0x1406, i, e.components, 0⟩

/-! ## Strings -/

section strings
open ParserContext

variable {needle : String} {l front : List UInt8}

theorem contains_eq_false_iff : contains needle l = false ↔ kernelStrstr needle l = none := by
  rw [contains, Option.isSome_eq_false_iff, Option.isNone_iff_eq_none]

/-- What is not found is nowhere in the text. -/
theorem kernelStrstr_eq_none_iff (hne : ascii needle ≠ []) :
    kernelStrstr needle l = none ↔ ¬ ascii needle <:+: l := by
  induction l with
  | nil => exact iff_of_true rfl fun h => hne (List.infix_nil.mp h)
  | cons b l ih =>
      rw [kernelStrstr, List.infix_cons_iff]
      split
      next h =>
        exact iff_of_false (Option.some_ne_none _) fun hnot => hnot (.inl (begins_iff.mp h))
      next h =>
        rw [ih, not_or]
        exact ⟨fun hl => ⟨fun hprefix => h (begins_iff.mpr hprefix), hl⟩, And.right⟩

theorem not_contains_iff (hne : ascii needle ≠ []) :
    contains needle l = false ↔ ¬ ascii needle <:+: l :=
  contains_eq_false_iff.trans (kernelStrstr_eq_none_iff hne)

/-- The first occurrence is found. -/
theorem kernelStrstr_append {word : List UInt8} {b : UInt8} (hneedle : ascii needle = word ++ [b])
    (h : contains needle (front ++ word) = false) (l : List UInt8) :
    kernelStrstr needle (front ++ (ascii needle ++ l)) = some (ascii needle ++ l) := by
  induction front with
  | nil =>
      cases hl : ascii needle ++ l with
      | nil =>
          rw [hneedle, List.append_assoc] at hl
          cases (List.append_eq_nil_iff.mp hl).2
      | cons c l' =>
          rw [List.nil_append, kernelStrstr, if_pos]
          rw [← hl]
          exact begins_iff.mpr (List.prefix_append _ _)
  | cons c front ih =>
      rw [contains_eq_false_iff, List.cons_append, kernelStrstr] at h
      split at h
      next => cases h
      next hnot =>
        rw [List.cons_append, kernelStrstr, if_neg, ih (contains_eq_false_iff.mpr h)]
        intro hbegins
        -- an occurrence before the end of the front is one in the front and the word
        have htext : c :: (front ++ (ascii needle ++ l)) = c :: (front ++ word) ++ (b :: l) := by
          simp only [hneedle, List.append_assoc, List.cons_append, List.nil_append]
        refine hnot (begins_iff.mpr (List.prefix_of_prefix_length_le (begins_iff.mp hbegins) ?_ ?_))
        · rw [htext]
          exact List.prefix_append _ _
        · simp only [hneedle, List.length_append, List.length_cons, List.length_nil]
          omega

/-- What is nowhere in the text in small letters is nowhere in the text, if it is in small
letters itself. -/
theorem not_contains_of_lowerCase (hne : ascii needle ≠ [])
    (hneedle : lowerCase (ascii needle) = ascii needle)
    (h : contains needle (lowerCase l) = false) : contains needle l = false := by
  rw [not_contains_iff hne] at h ⊢
  intro hl
  apply h
  rw [← hneedle]
  exact hl.map _

theorem not_contains_take (hne : ascii needle ≠ []) (h : contains needle l = false) (n : Nat) :
    contains needle (l.take n) = false := by
  rw [not_contains_iff hne] at h ⊢
  intro htake
  exact h (htake.trans (List.take_prefix n l).isInfix)

end strings

/-! ## Words -/

section words
variable {s w l : List UInt8} {b : UInt8}

/-- What a word of `%s` goes on with. -/
def isWordByte (b : UInt8) : Bool := !isBlank b && decide (b ≠ 0x3B ∧ b ≠ 0x2C)

theorem scanWord_append (hs : Blanks s) (hw : ∀ c ∈ w, isWordByte c = true) (hne : w ≠ [])
    (hlength : w.length ≤ 63) (hb : isWordByte b = false) (l : List UInt8) :
    scanWord (s ++ (w ++ b :: l)) = some (w, b :: l) := by
  have hdrop : (s ++ (w ++ b :: l)).dropWhile isBlank = w ++ b :: l := by
    rw [List.dropWhile_append_of_pos hs]
    obtain ⟨c, w, rfl⟩ := List.exists_cons_of_ne_nil hne
    have hc := hw c List.mem_cons_self
    simp only [isWordByte, Bool.and_eq_true, Bool.not_eq_true'] at hc
    rw [List.cons_append, List.dropWhile_cons_of_neg (by rw [hc.1]; exact Bool.false_ne_true)]
  have htake : (w ++ b :: l).takeWhile isWordByte = w := (takeWhile_append_cons hw hb).1
  unfold scanWord
  dsimp only
  rw [hdrop, show (fun b => !isBlank b && decide (b ≠ 0x3B ∧ b ≠ 0x2C)) = isWordByte from rfl,
    htake, List.take_of_length_le hlength, if_neg hne, List.drop_left]

theorem isWordByte_of_identifier (hw : IsIdentifier w) : ∀ c ∈ w, isWordByte c = true := by
  intro c hc
  have hkind := hw.2 c hc
  simp only [isWordByte, isBlank, Bool.and_eq_true, Bool.not_eq_true', decide_eq_false_iff_not,
    decide_eq_true_eq]
  refine ⟨?_, ?_, ?_⟩
  · rintro (rfl | rfl) <;> revert hkind <;> decide
  · rintro rfl
    revert hkind
    decide
  · rintro rfl
    revert hkind
    decide

theorem isWordByte_of_blank (hb : isBlank b = true) : isWordByte b = false := by
  rw [isWordByte, hb]
  rfl

/-- Two words with blanks before them. -/
theorem kernelSimpleSscanf_words {s₁ s₂ w₁ w₂ : List UInt8} (hs₁ : Blanks s₁)
    (hw₁ : ∀ c ∈ w₁, isWordByte c = true) (hne₁ : w₁ ≠ []) (hlength₁ : w₁.length ≤ 63)
    (hs₂ : Blanks s₂) (hne : s₂ ≠ []) (hw₂ : ∀ c ∈ w₂, isWordByte c = true) (hne₂ : w₂ ≠ [])
    (hlength₂ : w₂.length ≤ 63) (hb : isWordByte b = false) (l : List UInt8) :
    kernelSimpleSscanf "" (s₁ ++ (w₁ ++ (s₂ ++ (w₂ ++ b :: l)))) = some (w₁, w₂) := by
  have hfirst : scanWord (s₁ ++ (w₁ ++ (s₂ ++ (w₂ ++ b :: l)))) =
      some (w₁, s₂ ++ (w₂ ++ b :: l)) := by
    obtain ⟨c, s₂, rfl⟩ := List.exists_cons_of_ne_nil hne
    exact scanWord_append hs₁ hw₁ hne₁ hlength₁ (isWordByte_of_blank (hs₂ c List.mem_cons_self)) _
  unfold kernelSimpleSscanf
  rw [if_pos (show begins "" _ = true from rfl), show (ascii "").length = 0 from rfl,
    List.drop_zero, hfirst, Option.bind_some]
  dsimp only
  rw [scanWord_append hs₂ hw₂ hne₂ hlength₂ hb]
  rfl

end words

/-! ## Lines -/

theorem attributeEntry_of_tail {tail : List UInt8} {e : AttributeEntry} (h : AttributeTail tail e) :
    (kernelSimpleSscanf "" tail).map (fun r =>
      (⟨upToByte 0x3B r.2, attributeComponents r.1⟩ : AttributeEntry)) = some e := by
  cases h with
  | @intro s₁ s₂ name s₃ rest type n hs₁ htype hs₂ hne hname hlength hs₃ =>
      have htypes : (attributeTypes.all fun t => (ascii t.1).all isWordByte &&
          decide (0 < (ascii t.1).length ∧ (ascii t.1).length ≤ 63) &&
          decide (attributeComponents (ascii t.1) = t.2)) = true := by decide
      have hthis := List.all_eq_true.mp htypes _ htype
      simp only [Bool.and_eq_true, decide_eq_true_eq, List.all_eq_true] at hthis
      obtain ⟨⟨hword, hpos, hle⟩, hcomponents⟩ := hthis
      have hname' := isWordByte_of_identifier hname
      obtain ⟨⟨c, cs, hcons, -⟩, -⟩ := hname
      have hnameNe : name ≠ [] := by
        rw [hcons]
        exact List.cons_ne_nil _ _
      have hends : ∃ b u, s₃ ++ 0x3B :: rest = b :: u ∧ isWordByte b = false := by
        cases s₃ with
        | nil => exact ⟨0x3B, rest, rfl, by decide⟩
        | cons b s₃ => exact ⟨b, _, rfl, isWordByte_of_blank (hs₃ b List.mem_cons_self)⟩
      obtain ⟨b, u, hbehind, hb⟩ := hends
      have hsemicolon : upToByte 0x3B name = name := by
        refine List.takeWhile_eq_self_iff.mpr fun c hc => ?_
        have hc' := hname' c hc
        simp only [isWordByte, Bool.and_eq_true, decide_eq_true_eq] at hc'
        exact decide_eq_true hc'.2.1
      rw [hbehind, kernelSimpleSscanf_words hs₁ hword (List.ne_nil_of_length_pos hpos) hle hs₂ hne
        hname' hnameNe hlength hb, Option.map_some, hsemicolon, hcomponents]

/-- **A declaration gives the attribute it declares.** -/
theorem attributeEntry_of_declares {line : List UInt8} {e : AttributeEntry}
    (h : DeclaresAttribute line e) : attributeEntry line = some e := by
  cases h with
  | @attributeWord front tail _ hfront htail =>
      have hfound : kernelStrstr "attribute " (front ++ (ascii "attribute " ++ tail)) =
          some (ascii "attribute " ++ tail) := kernelStrstr_append (b := 0x20) rfl hfront tail
      rw [attributeEntry, attributePos, hfound, Option.some_or, Option.bind_some]
      exact attributeEntry_of_tail htail
  | @inWord front tail _ hfront hno htail =>
      have hfound : kernelStrstr "in " (front ++ (ascii "in " ++ tail)) =
          some (ascii "in " ++ tail) := kernelStrstr_append (b := 0x20) rfl hfront tail
      rw [attributeEntry, attributePos, contains_eq_false_iff.mp hno, hfound, Option.none_or,
        Option.bind_some]
      exact attributeEntry_of_tail htail

theorem attributeEntry_eq_none {line : List UInt8} (hattribute : contains "attribute " line = false)
    (hin : contains "in " line = false) : attributeEntry line = none := by
  rw [attributeEntry, attributePos, contains_eq_false_iff.mp hattribute,
    contains_eq_false_iff.mp hin]
  rfl

/-- What small letters find and the line itself does not have gives nothing. -/
theorem filterMap_attributeLines (text : List UInt8) :
    (attributeLines text).filterMap attributeEntry = (codeLines text).filterMap attributeEntry := by
  rw [attributeLines, List.filterMap_filter]
  refine List.filterMap_congr fun line _ => ?_
  split
  next => rfl
  next hnot =>
    rw [Bool.or_eq_true, not_or, Bool.not_eq_true, Bool.not_eq_true] at hnot
    refine (attributeEntry_eq_none ?_ ?_).symm
    · exact not_contains_of_lowerCase (by decide) rfl hnot.1
    · exact not_contains_of_lowerCase (by decide) rfl hnot.2

/-- The lines of a text made of lines. -/
theorem textLines_textOf {lines : List (List UInt8)} {n : Nat} (hn : lines.length ≤ n)
    (hbytes : ∀ line ∈ lines, ∀ b ∈ line, b ≠ 0 ∧ b ≠ 0x0A) :
    textLines n (textOf lines) = lines := by
  induction lines generalizing n with
  | nil => cases n <;> rfl
  | cons line lines ih =>
      cases n with
      | zero => cases hn
      | succ n =>
          have hrest := ih (Nat.le_of_succ_le_succ hn) fun l hl =>
            hbytes l (List.mem_cons_of_mem _ hl)
          have hline := hbytes line List.mem_cons_self
          have htext : textOf (line :: lines) = line ++ 0x0A :: textOf lines := by
            simp only [textOf, List.flatMap_cons, List.append_assoc, List.cons_append,
              List.nil_append]
          obtain ⟨b, l, hcons, hb⟩ : ∃ b l, line ++ 0x0A :: textOf lines = b :: l ∧ b ≠ 0 := by
            cases line with
            | nil => exact ⟨0x0A, _, rfl, by decide⟩
            | cons b line => exact ⟨b, _, rfl, (hline b List.mem_cons_self).1⟩
          have htake : (b :: l).takeWhile (fun c => decide (c ≠ 0x0A ∧ c ≠ 0)) = line := by
            rw [← hcons]
            refine (takeWhile_append_cons (fun c hc => decide_eq_true ?_) (by decide)).1
            exact ⟨(hline c hc).2, (hline c hc).1⟩
          rw [htext, hcons, textLines, if_neg hb, htake]
          dsimp only
          have hdrop : (line ++ 0x0A :: textOf lines).drop (line.length + 1) = textOf lines := by
            rw [List.drop_length_add_append]
            rfl
          rw [← hcons, hdrop, hrest]

/-! ## Records -/

theorem declared_granting (lines : List (List UInt8)) :
    AttributeAnswers.granting.declared lines = located (lines.filterMap attributeEntry) := by
  have hrun : ∀ (n : Nat) (existing : List ShaderAttribute),
      (lines.zipIdx n).foldl (fun as l => extractAttributeFromLine true l.1 as) existing =
        existing ++ ((lines.filterMap attributeEntry).zipIdx existing.length).map fun (e, i) =>
          ⟨e.name, 0x1406, i, e.components, 0⟩ := by
    induction lines with
    | nil => exact fun _ existing => (List.append_nil existing).symm
    | cons line lines ih =>
        intro n existing
        rw [List.zipIdx_cons, List.foldl_cons, ih, extractAttributeFromLine, List.filterMap_cons]
        cases attributeEntry line with
        | none => rfl
        | some e =>
            dsimp only
            rw [if_pos rfl, List.length_append, List.append_assoc]
            rfl
  exact hrun 0 []

theorem located_eq_nil_iff {es : List AttributeEntry} : located es = [] ↔ es = [] := by
  rw [located, List.map_eq_nil_iff, List.zipIdx_eq_nil_iff]

/-- What a line is to give, it gives, comments apart. -/
theorem entry_of_sourceLine {line : List UInt8} {e : Option AttributeEntry}
    (h : SourceLine line e) :
    (if !isComment line then attributeEntry (line.take 511) else none) = e := by
  cases h with
  | comment hcomment =>
      rw [hcomment]
      rfl
  | other hattribute hin =>
      have hnone : attributeEntry (line.take 511) = none := by
        apply attributeEntry_eq_none
        · exact not_contains_take (by decide) hattribute 511
        · exact not_contains_take (by decide) hin 511
      rw [hnone, ite_self]
  | declares hcode hlength hdeclares =>
      rw [hcode, List.take_of_length_le hlength, attributeEntry_of_declares hdeclares]
      rfl

/-- **Declarations are read back**: of a text of lines that declare an attribute, do not have
either keyword, or are comments, `extractShaderMetadata` returns exactly the declared attributes,
in their order and numbered from zero, whatever location a layout in front of them asks for; a
vertex shader without any has the standard four. It returns if the uniforms let it. -/
theorem extractShaderMetadata_attributes {kind : StandardKind} {data : ShaderSource}
    {lines : List (List UInt8 × Option AttributeEntry)} {attributes : List ShaderAttribute}
    (hdata : data.text = textOf (lines.map Prod.fst)) (hcount : lines.length ≤ 10001)
    (hbytes : ∀ l ∈ lines, ∀ b ∈ l.1, b ≠ 0 ∧ b ≠ 0x0A)
    (hlines : ∀ l ∈ lines, SourceLine l.1 l.2) :
    (∃ us, ReturnsMetadata .granting .granting kind .text data us attributes) ↔
      MetadataEnds .text data ∧ attributes =
        if kind = .vertex ∧ lines.filterMap Prod.snd = [] then defaultVertexAttributes
        else located (lines.filterMap Prod.snd) := by
  have hentries : (attributeLines data.text).filterMap attributeEntry =
      lines.filterMap Prod.snd := by
    rw [filterMap_attributeLines, codeLines, hdata, textLines_textOf, List.filterMap_map,
      List.filterMap_filter, List.filterMap_map]
    · exact List.filterMap_congr fun l hl => entry_of_sourceLine (hlines l hl)
    · rwa [List.length_map]
    · intro line hline
      obtain ⟨l, hl, rfl⟩ := List.mem_map.mp hline
      exact hbytes l hl
  have hattributes : shaderAttributes .granting kind .text data =
      if kind = .vertex ∧ lines.filterMap Prod.snd = [] then defaultVertexAttributes
      else located (lines.filterMap Prod.snd) := by
    have hdeclared : AttributeAnswers.granting.declared
        (BytecodeLanguage.attributeLines data .text) = located (lines.filterMap Prod.snd) :=
      (declared_granting _).trans (congrArg located hentries)
    simp only [shaderAttributes, hdeclared, located_eq_nil_iff]
    rfl
  have hreturns : (∃ us, ExtractsMetadata .granting kind .text data us) ↔ MetadataEnds .text data :=
    exists_extractsMetadata_iff.trans ⟨fun h => h rfl, fun h _ => h⟩
  rw [← hattributes, ← hreturns]
  exact exists_and_right

/-- A comment, a declaration with a layout, and one with two blanks. -/
theorem extractShaderMetadata_attributes_of_two : ∃ us, ReturnsMetadata .granting .granting .vertex
    .text (.ofString "// in x;\nlayout(location = 4) in vec2 uv;\nattribute  vec3 pos ;\n")
    us [⟨ascii "uv", 0x1406, 0, 2, 0⟩, ⟨ascii "pos", 0x1406, 1, 3, 0⟩] := by
  have hblank : Blanks [0x20] := List.forall_mem_singleton.mpr rfl
  have hidentifier {b : UInt8} {bs : List UInt8} (hb : ShaderSource.isLetter b = true)
      (hbs : (bs.all fun c => ShaderSource.isLetter c || isDigit c) = true) :
      IsIdentifier (b :: bs) := by
    refine ⟨⟨b, bs, rfl, hb⟩, List.forall_mem_cons.mpr ⟨.inl hb, fun c hc => ?_⟩⟩
    exact Bool.or_eq_true_iff.mp (List.all_eq_true.mp hbs c hc)
  have huv : DeclaresAttribute (ascii "layout(location = 4) " ++ (ascii "in " ++ ([] ++
      (ascii "vec2" ++ ([0x20] ++ (ascii "uv" ++ ([] ++ [0x3B]))))))) ⟨ascii "uv", 2⟩ :=
    .inWord rfl rfl (.intro nofun (by decide) hblank (by decide) (hidentifier rfl rfl)
      (by decide) nofun)
  have hpos : DeclaresAttribute ([] ++ (ascii "attribute " ++ ([0x20] ++ (ascii "vec3" ++
      ([0x20] ++ (ascii "pos" ++ ([0x20] ++ [0x3B]))))))) ⟨ascii "pos", 3⟩ :=
    .attributeWord rfl (.intro hblank (by decide) hblank (by decide) (hidentifier rfl rfl)
      (by decide) hblank)
  have hlines : ∀ l ∈ [(ascii "// in x;", none),
      (ascii "layout(location = 4) in vec2 uv;", some ⟨ascii "uv", 2⟩),
      (ascii "attribute  vec3 pos ;", some ⟨ascii "pos", 3⟩)], SourceLine l.1 l.2 := by
    intro l hl
    simp only [List.mem_cons, List.not_mem_nil, or_false] at hl
    rcases hl with rfl | rfl | rfl
    · exact .comment rfl
    · exact .declares rfl (by decide) huv
    · exact .declares rfl (by decide) hpos
  have hbytes : ([ascii "// in x;", ascii "layout(location = 4) in vec2 uv;",
      ascii "attribute  vec3 pos ;"].all fun l => l.all fun b => decide (b ≠ 0 ∧ b ≠ 0x0A)) =
        true := rfl
  have hnone : uniformLines (ShaderSource.ofString
      "// in x;\nlayout(location = 4) in vec2 uv;\nattribute  vec3 pos ;\n").text = [] := by decide
  refine (extractShaderMetadata_attributes (by decide) (by decide) (fun l hl b hb => ?_)
    hlines).mpr ⟨?_, rfl⟩
  · exact of_decide_eq_true
      (List.all_eq_true.mp (List.all_eq_true.mp hbytes l.1 (List.mem_map_of_mem hl)) b hb)
  · intro line hline
    rw [BytecodeLanguage.lines, hnone] at hline
    cases hline

end VMQemuVGA
