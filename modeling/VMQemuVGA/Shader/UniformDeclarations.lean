import VMQemuVGA.Shader.UniformReading
import Mathlib.Data.List.Basic

/-! # Declarations of uniforms

What a line has to look like to declare uniforms, and what is to be recorded for it. A
declaration ends with a semicolon, which the state machine never gets behind: it goes on
forever where it has read a name, and gives up only where the text of a layout is longer
than its buffer or the name does not fit. -/

namespace VMQemuVGA

/-! ## The form of a line -/

/-- The types that have a GL type, with its code as `parseShaderDataType` gives it for the
type in full, and its size. -/
def glTypes : List (String × Nat × Nat) :=
  [("mat4", 0x8B5C, 64), ("mat3", 0x8B5B, 36), ("mat2", 0x8B5A, 16),
    ("mat4x4", 0x8B5C, 64), ("mat4x3", 0x8B68, 48), ("mat4x2", 0x8B69, 32),
    ("mat3x4", 0x8B6A, 48), ("mat3x3", 0x8B5B, 36), ("mat3x2", 0x8B67, 24),
    ("mat2x4", 0x8B66, 32), ("mat2x3", 0x8B65, 24), ("mat2x2", 0x8B5A, 16),
    ("vec4", 0x8B52, 16), ("vec3", 0x8B51, 12), ("vec2", 0x8B50, 8),
    ("ivec4", 0x8B55, 16), ("ivec3", 0x8B54, 12), ("ivec2", 0x8B53, 8),
    ("uvec4", 0x8DC8, 16), ("uvec3", 0x8DC7, 12), ("uvec2", 0x8DC6, 8),
    ("bvec4", 0x8B58, 4), ("bvec3", 0x8B57, 3), ("bvec2", 0x8B56, 2),
    ("sampler2D", 0x8B5E, 4), ("samplerCube", 0x8B60, 4), ("sampler3D", 0x8B5F, 4),
    ("sampler2DArray", 0x8DC1, 4), ("samplerBuffer", 0x8DC2, 4), ("sampler2DShadow", 0x8B62, 4),
    ("image2D", 0x9063, 4), ("image3D", 0x9064, 4), ("imageCube", 0x9066, 4),
    ("float", 0x1406, 4), ("int", 0x1404, 4), ("uint", 0x1405, 4), ("bool", 0x8B56, 1),
    ("double", 0x140A, 8), ("dvec4", 0x8FFC, 32), ("dvec3", 0x8FFB, 24), ("dvec2", 0x8FFA, 16),
    ("atomic_uint", 0x92DB, 4),
    ("float4x4", 0x8B5C, 64), ("float3x3", 0x8B5B, 36), ("float4", 0x8B52, 16),
    ("float3", 0x8B51, 12), ("float2", 0x8B50, 8)]

def Blanks (l : List UInt8) : Prop := ∀ b ∈ l, isBlank b = true

/-- A letter, and then letters and digits. -/
def IsIdentifier (l : List UInt8) : Prop :=
  (∃ b bs, l = b :: bs ∧ ShaderSource.isLetter b = true) ∧
    ∀ b ∈ l, ShaderSource.isLetter b = true ∨ isDigit b = true

/-- `layout(..)`, with what is between the brackets; or nothing. -/
inductive LayoutPart : List UInt8 → List UInt8 → Prop
  | absent : LayoutPart [] []
  | present {s content s' : List UInt8} : Blanks s → 0x29 ∉ content → Blanks s' →
      LayoutPart (ascii "layout" ++ s ++ 0x28 :: content ++ 0x29 :: s') content

def qualifierWords : List String :=
  ["highp", "mediump", "lowp", "invariant", "smooth", "flat", "noperspective"]

inductive QualifierPart : List UInt8 → Prop
  | nil : QualifierPart []
  | cons {word : String} {s l : List UInt8} : word ∈ qualifierWords → Blanks s → s ≠ [] →
      QualifierPart l → QualifierPart (ascii word ++ s ++ l)

/-- `[n]`, and the number of entries; without brackets it is one. -/
inductive ArrayPart : List UInt8 → Nat → Prop
  | absent {s : List UInt8} : Blanks s → ArrayPart s 1
  | present {s s₁ number s₂ s₃ : List UInt8} : Blanks s → Blanks s₁ → number ≠ [] →
      (∀ b ∈ number, isDigit b = true) → Blanks s₂ → Blanks s₃ →
      ArrayPart (s ++ 0x5B :: s₁ ++ number ++ s₂ ++ 0x5D :: s₃) (numeral number)

/-- An expression: commas are in brackets only, and brackets are closed. -/
inductive Expression : Bool → List UInt8 → Prop
  | nil {inside : Bool} : Expression inside []
  | byte {inside : Bool} {b : UInt8} {l : List UInt8} : b ≠ 0x28 → b ≠ 0x29 → b ≠ 0x3B →
      (b = 0x2C → inside = true) → Expression inside l → Expression inside (b :: l)
  | group {inside : Bool} {l l' : List UInt8} : Expression true l → Expression inside l' →
      Expression inside (0x28 :: l ++ 0x29 :: l')

/-- `= init`, or nothing. -/
inductive InitPart : List UInt8 → Prop
  | absent : InitPart []
  | present {l : List UInt8} : Expression false l → InitPart (0x3D :: l)

/-- `name[n] = init, ..`, of a type with this code and size. -/
inductive Declarators (code size : Nat) : List UInt8 → List UniformEntry → Prop
  | last {name array init : List UInt8} {n : Nat} : IsIdentifier name → ArrayPart array n →
      InitPart init → Declarators code size (name ++ array ++ init) [⟨name, code, size, n⟩]
  | cons {name array init s l : List UInt8} {n : Nat} {ds : List UniformEntry} :
      IsIdentifier name → ArrayPart array n → InitPart init → Blanks s →
      Declarators code size l ds →
      Declarators code size (name ++ array ++ init ++ 0x2C :: s ++ l) (⟨name, code, size, n⟩ :: ds)

/-- The line declares these uniforms; `content` is the text of its layout. -/
inductive Declares : List UInt8 → List UInt8 → List UniformEntry → Prop
  | intro {s₀ s₁ layout content qualifiers s₂ body s₃ : List UInt8} {type : String}
      {code size : Nat} {ds : List UniformEntry} :
      Blanks s₀ → Blanks s₁ → s₁ ≠ [] → LayoutPart layout content → QualifierPart qualifiers →
      (type, code, size) ∈ glTypes → Blanks s₂ → s₂ ≠ [] → Declarators code size body ds →
      Blanks s₃ →
      Declares (s₀ ++ (ascii "uniform" ++ (s₁ ++ (layout ++ (qualifiers ++
        (ascii type ++ (s₂ ++ (body ++ 0x3B :: s₃)))))))) content ds

/-! ## Pieces of a declaration -/

section pieces
open ParserContext UniformReading

variable {s l : List UInt8}

/-- Blanks at the front are skipped. -/
theorem skip_append_of_blanks (hs : Blanks s) (l : List UInt8) : skip (s ++ l) = skip l :=
  List.dropWhile_append_of_pos fun b hb => by rw [hs b hb, Bool.true_or]

theorem skip_ne_nil_of_semicolon (h : 0x3B ∈ l) : skip l ≠ [] := by
  intro hnil
  have hall := List.dropWhile_eq_nil_iff.mp hnil 0x3B h
  exact absurd hall (by decide)

/-- A run of bytes ends where the next one does not go on with it. -/
theorem takeWhile_append_cons {p : UInt8 → Bool} {w : List UInt8} {b : UInt8}
    (hw : ∀ c ∈ w, p c = true) (hb : p b = false) :
    (w ++ b :: l).takeWhile p = w ∧ (w ++ b :: l).dropWhile p = b :: l := by
  rw [List.takeWhile_append_of_pos hw, List.dropWhile_append_of_pos hw,
    List.takeWhile_cons, List.dropWhile_cons, if_neg (by rw [hb]; exact Bool.false_ne_true),
    if_neg (by rw [hb]; exact Bool.false_ne_true), List.append_nil]
  exact ⟨rfl, rfl⟩

/-- What is checked of a word byte by byte. -/
theorem not_blank_of_all {word : String} (h : ((ascii word).all fun c => !isBlank c) = true) :
    ∀ c ∈ ascii word, isBlank c = false := by
  intro c hc
  simpa using List.all_eq_true.mp h c hc

theorem qualifierWords_not_blank {word : String} (hword : word ∈ qualifierWords) :
    ∀ c ∈ ascii word, isBlank c = false := by
  have hall : (qualifierWords.all fun w => (ascii w).all fun c => !isBlank c) = true := by rfl
  exact not_blank_of_all (List.all_eq_true.mp hall word hword)

/-- A keyword without blanks is at the front of a word only if it is in the word. -/
theorem begins_word {keyword : String} {w : List UInt8} {b : UInt8}
    (hplain : ((ascii keyword).all fun c => !isBlank c) = true) (hb : isBlank b = true) :
    begins keyword (w ++ b :: l) = begins keyword w := by
  have hkeyword := not_blank_of_all hplain
  rw [Bool.eq_iff_iff, begins_iff, begins_iff]
  constructor
  · intro h
    have hword : w ++ [b] <+: w ++ b :: l := ⟨l, by rw [List.append_assoc]; rfl⟩
    rcases List.prefix_or_prefix_of_prefix h hword with hin | hover
    · rcases List.prefix_concat_iff.mp hin with heq | hin
      · have hmem : b ∈ ascii keyword := by
          rw [heq]
          exact List.mem_append_right _ (List.mem_singleton.mpr rfl)
        rw [hkeyword b hmem] at hb
        cases hb
      · exact hin
    · have hmem : b ∈ ascii keyword :=
        hover.subset (List.mem_append_right _ (List.mem_singleton.mpr rfl))
      rw [hkeyword b hmem] at hb
      cases hb
  · intro h
    exact h.trans (List.prefix_append w _)

/-! ### Qualifiers -/

/-- Where there is a qualifier, one more is gone. -/
theorem behindQualifiers_step {n : Nat} {p q : Option (List UInt8)} {behind : List UInt8}
    (hn : l.length ≤ n) (h : qualifier (skip l) = some (behind, q)) :
    ∃ m, behind.length ≤ m ∧ behindQualifiers n l p = behindQualifiers m behind (q.or p) := by
  have hlt := length_lt_of_qualifier h
  have hle := length_skip_le l
  obtain ⟨m, rfl⟩ := Nat.exists_eq_add_of_le' (Nat.lt_of_lt_of_le (Nat.lt_of_lt_of_le hlt hle) hn)
  refine ⟨behind.length + m, Nat.le_add_right _ _, ?_⟩
  rw [Nat.add_succ, ← Nat.add_comm m, behindQualifiers, h]

theorem behindQualifiers_done {n : Nat} {p : Option (List UInt8)} (h : qualifier (skip l) = none) :
    behindQualifiers n l p = (skip l, p) := by
  cases n with
  | zero => rfl
  | succ n => rw [behindQualifiers, h]

/-- A qualifier with a blank behind it is taken as a whole. -/
theorem qualifier_word {word : String} (hword : word ∈ qualifierWords) (hs : Blanks s)
    (hne : s ≠ []) (l : List UInt8) :
    ∃ q, qualifier (ascii word ++ (s ++ l)) = some (s ++ l, q) := by
  obtain ⟨b, s, rfl⟩ := List.exists_cons_of_ne_nil hne
  have hb : isBlank b = true := hs b List.mem_cons_self
  obtain ⟨htake, hdrop⟩ := takeWhile_append_cons (p := fun c => !isBlank c) (l := s ++ l)
    (fun c hc => by rw [qualifierWords_not_blank hword c hc]; rfl) (b := b) (by rw [hb]; rfl)
  have hbegins (keyword : String) (h : ((ascii keyword).all fun c => !isBlank c) = true) :
      begins keyword (ascii word ++ b :: (s ++ l)) = begins keyword (ascii word) :=
    begins_word h hb
  rw [List.cons_append]
  unfold qualifier
  rw [htake, hdrop, hbegins "layout" rfl, hbegins "highp" rfl, hbegins "mediump" rfl,
    hbegins "lowp" rfl, hbegins "invariant" rfl, hbegins "smooth" rfl, hbegins "flat" rfl,
    hbegins "noperspective" rfl]
  simp only [qualifierWords, List.mem_cons, List.not_mem_nil, or_false] at hword
  rcases hword with rfl | rfl | rfl | rfl | rfl | rfl | rfl
  all_goals exact ⟨_, rfl⟩

/-- A layout is taken as a whole if its text fits. -/
theorem qualifier_layout {content s' : List UInt8} (hs : Blanks s) (hcontent : 0x29 ∉ content)
    (hlength : content.length ≤ 127) (l : List UInt8) :
    qualifier (ascii "layout" ++ (s ++ (0x28 :: (content ++ 0x29 :: (s' ++ l))))) =
      some (s' ++ l, none) := by
  have hbegins : begins "layout"
      (ascii "layout" ++ (s ++ (0x28 :: (content ++ 0x29 :: (s' ++ l))))) = true :=
    begins_iff.mpr (List.prefix_append _ _)
  have hopen := (takeWhile_append_cons (p := fun b => decide (b ≠ 0x28)) (w := s) (b := 0x28)
    (l := content ++ 0x29 :: (s' ++ l)) (fun c hc => decide_eq_true fun h => by
      have hblank := hs c hc
      rw [h] at hblank
      exact absurd hblank (by decide)) (by decide)).2
  have hclose := (takeWhile_append_cons (p := fun b => decide (b ≠ 0x29)) (w := content) (b := 0x29)
    (l := s' ++ l) (fun c hc => decide_eq_true fun h => hcontent (h ▸ hc)) (by decide)).1
  have hdrop : (ascii "layout" ++ (s ++ (0x28 :: (content ++ 0x29 :: (s' ++ l))))).drop 6 =
      s ++ (0x28 :: (content ++ 0x29 :: (s' ++ l))) := List.drop_left' (by decide)
  unfold qualifier
  rw [if_pos hbegins, behindLayout, hdrop, fromByte, hopen]
  dsimp only
  rw [upToByte, hclose, List.take_of_length_le hlength, List.drop_left]
  rfl

/-- The qualifiers of a declaration are all taken, up to something that is none. -/
theorem behindQualifiers_part {quals : List UInt8} (hquals : QualifierPart quals)
    (hskip : skip l = l) (hnone : qualifier l = none) (hs : Blanks s) {n : Nat}
    {p : Option (List UInt8)} (hn : (s ++ (quals ++ l)).length ≤ n) :
    (behindQualifiers n (s ++ (quals ++ l)) p).1 = l := by
  induction hquals generalizing s n p with
  | nil =>
      rw [List.nil_append] at hn ⊢
      have hs' : skip (s ++ l) = l := (skip_append_of_blanks hs l).trans hskip
      rw [behindQualifiers_done (by rw [hs', hnone]), hs']
  | @cons word s₁ quals hword hs₁ hne _ ih =>
      obtain ⟨q, hqualifier⟩ := qualifier_word hword hs₁ hne (quals ++ l)
      have hfirst :
          skip (ascii word ++ (s₁ ++ (quals ++ l))) = ascii word ++ (s₁ ++ (quals ++ l)) := by
        simp only [qualifierWords, List.mem_cons, List.not_mem_nil, or_false] at hword
        rcases hword with rfl | rfl | rfl | rfl | rfl | rfl | rfl <;> rfl
      have hs' : skip (s ++ (ascii word ++ s₁ ++ quals ++ l)) =
          ascii word ++ (s₁ ++ (quals ++ l)) := by
        rw [skip_append_of_blanks hs, List.append_assoc, List.append_assoc, hfirst]
      obtain ⟨m, hm, heq⟩ := behindQualifiers_step (p := p) hn (by rw [hs']; exact hqualifier)
      rw [heq]
      exact ih hs₁ hm

theorem behindQualifiers_layout {layout content quals : List UInt8}
    (hlayout : LayoutPart layout content) (hlength : content.length ≤ 127)
    (hquals : QualifierPart quals) (hskip : skip l = l) (hnone : qualifier l = none)
    (hs : Blanks s) {n : Nat} {p : Option (List UInt8)}
    (hn : (s ++ (layout ++ (quals ++ l))).length ≤ n) :
    (behindQualifiers n (s ++ (layout ++ (quals ++ l))) p).1 = l := by
  cases hlayout with
  | absent => exact behindQualifiers_part hquals hskip hnone hs hn
  | @present s₁ _ s₂ hs₁ hcontent hs₂ =>
      have hassoc : ascii "layout" ++ s₁ ++ 0x28 :: content ++ 0x29 :: s₂ ++ (quals ++ l) =
          ascii "layout" ++ (s₁ ++ (0x28 :: (content ++ 0x29 :: (s₂ ++ (quals ++ l))))) := by
        simp only [List.append_assoc, List.cons_append]
      rw [hassoc] at hn ⊢
      have hs' : skip (s ++ (ascii "layout" ++ (s₁ ++ (0x28 :: (content ++ 0x29 ::
          (s₂ ++ (quals ++ l))))))) =
          ascii "layout" ++ (s₁ ++ (0x28 :: (content ++ 0x29 :: (s₂ ++ (quals ++ l))))) := by
        rw [skip_append_of_blanks hs]
        rfl
      obtain ⟨m, hm, heq⟩ := behindQualifiers_step (p := p) hn
        (by rw [hs']; exact qualifier_layout hs₁ hcontent hlength _)
      rw [heq]
      exact behindQualifiers_part hquals hskip hnone hs₂ hm

/-! ### Type, name and brackets -/

/-- What the machine looks for at the front of a type. -/
def frontWords : List String := "layout" :: "struct" :: qualifierWords

/-- What is needed of the name of a type. -/
def plainType (w : List UInt8) : Bool :=
  w.all (fun b => !isBlank b && decide (b ≠ 0x5B ∧ b ≠ 0x0A)) &&
    decide (0 < w.length ∧ w.length < 128) && frontWords.all fun word => !begins word w

theorem plainType_of_mem {t : String × Nat × Nat} (h : t ∈ glTypes) :
    plainType (ascii t.1) = true := by
  have hall : (glTypes.all fun t => plainType (ascii t.1)) = true := by decide
  exact List.all_eq_true.mp hall t h

/-- The name of a type is taken for a type. -/
theorem splitType_of_plain {w : List UInt8} {b : UInt8} (hw : plainType w = true)
    (hb : isBlank b = true) (l : List UInt8) :
    skip (w ++ b :: l) = w ++ b :: l ∧ qualifier (w ++ b :: l) = none ∧
      splitType (w ++ b :: l) = some (w, b :: l) := by
  simp only [plainType, Bool.and_eq_true, List.all_eq_true, decide_eq_true_eq,
    Bool.not_eq_true'] at hw
  obtain ⟨⟨hbytes, hlength⟩, hwords⟩ := hw
  have hbegins : ∀ word ∈ frontWords, begins word (w ++ b :: l) = false := by
    intro word hword
    have hall : (frontWords.all fun w => (ascii w).all fun c => !isBlank c) = true := by rfl
    rw [begins_word (List.all_eq_true.mp hall word hword) hb]
    exact hwords word hword
  have htake := (takeWhile_append_cons (p := fun c => !isBlank c && decide (c ≠ 0x5B)) (w := w)
    (l := l) (fun c hc => by
      obtain ⟨hblank, hbracket, -⟩ := hbytes c hc
      rw [hblank, decide_eq_true hbracket]
      rfl) (b := b) (by rw [hb]; rfl)).1
  have htype : typeLength (w ++ b :: l) = w.length := by
    rw [typeLength, hbegins "struct" (by decide), htake]
    rfl
  refine ⟨?_, ?_, ?_⟩
  · obtain ⟨c, w, rfl⟩ := List.exists_cons_of_length_pos hlength.1
    obtain ⟨hblank, -, hline⟩ := hbytes c List.mem_cons_self
    exact skip_ne_nil_of_cons (by rw [hblank, Bool.false_or]; exact decide_eq_false hline)
  · unfold qualifier
    rw [hbegins "layout" (by decide), hbegins "highp" (by decide), hbegins "mediump" (by decide),
      hbegins "lowp" (by decide), hbegins "invariant" (by decide), hbegins "smooth" (by decide),
      hbegins "flat" (by decide), hbegins "noperspective" (by decide)]
    rfl
  · rw [splitType, htype, if_pos hlength, List.take_left, List.drop_left]

/-- What an identifier is made of belongs to a name. -/
theorem isNameByte_of_identifier {name : List UInt8} (h : IsIdentifier name) :
    ∀ b ∈ name, isNameByte b = true := by
  intro b hb
  by_contra hname
  simp only [isNameByte, isBlank, Bool.and_eq_true, Bool.not_eq_true', decide_eq_false_iff_not,
    decide_eq_true_eq] at hname
  obtain rfl | rfl | rfl | rfl | rfl | rfl :
      b = 0x20 ∨ b = 0x09 ∨ b = 0x5B ∨ b = 0x3B ∨ b = 0x3D ∨ b = 0x2C := by grind
  all_goals exact absurd (h.2 _ hb) (by decide)

theorem skip_identifier {name : List UInt8} (h : IsIdentifier name) (l : List UInt8) :
    skip (name ++ l) = name ++ l := by
  obtain ⟨⟨b, bs, rfl, hb⟩, -⟩ := h
  refine skip_ne_nil_of_cons ?_
  rw [Bool.eq_false_iff]
  intro hblank
  simp only [isBlank, Bool.or_eq_true, decide_eq_true_eq] at hblank
  obtain (rfl | rfl) | rfl := hblank
  all_goals exact absurd hb (by decide)

/-- A declarator goes on behind its name with something that is no part of a name, and the
semicolon is behind the brackets. -/
theorem splitArray_of_part {array u : List UInt8} {n : Nat} {b : UInt8} (harray : ArrayPart array n)
    (hb : b = 0x3D ∨ b = 0x2C ∨ b = 0x3B) (hsemicolon : 0x3B ∈ b :: u) :
    (∃ c t, array ++ b :: u = c :: t ∧ isNameByte c = false) ∧
      ∃ number left, splitArray (array ++ b :: u) = some (number, left) ∧ 0x3B ∈ left := by
  have hblank {c : UInt8} (hc : isBlank c = true) : isNameByte c = false ∧ c ≠ 0x5B := by
    refine ⟨by rw [isNameByte, hc]; rfl, ?_⟩
    rintro rfl
    exact absurd hc (by decide)
  have hnone {l : List UInt8} {c : UInt8} (hc : c ≠ 0x5B) (hl : 0x3B ∈ c :: l) :
      ∃ number left, splitArray (c :: l) = some (number, left) ∧ 0x3B ∈ left :=
    ⟨none, c :: l, if_neg fun h => hc (Option.some.inj h), hl⟩
  cases harray with
  | absent hs =>
      cases array with
      | nil =>
          have hends : isNameByte b = false ∧ b ≠ 0x5B := by
            rcases hb with rfl | rfl | rfl <;> decide
          exact ⟨⟨b, u, rfl, hends.1⟩, hnone hends.2 hsemicolon⟩
      | cons c s =>
          obtain ⟨hname, hbracket⟩ := hblank (hs c List.mem_cons_self)
          exact ⟨⟨c, _, rfl, hname⟩,
            hnone hbracket (List.mem_cons_of_mem c (List.mem_append_right s hsemicolon))⟩
  | @present s s₁ number s₂ s₃ hs hs₁ _ hdigits hs₂ hs₃ =>
      cases s with
      | cons c s =>
          obtain ⟨hname, hbracket⟩ := hblank (hs c List.mem_cons_self)
          refine ⟨⟨c, _, rfl, hname⟩, hnone hbracket (List.mem_cons_of_mem c ?_)⟩
          exact List.mem_append_right _ hsemicolon
      | nil =>
          refine ⟨⟨0x5B, _, rfl, by decide⟩, ?_⟩
          have hinside : ∀ c ∈ s₁ ++ number ++ s₂, decide (c ≠ 0x5D) = true := by
            intro c hc
            refine decide_eq_true ?_
            rintro rfl
            rcases List.mem_append.mp hc with hc | hc
            · rcases List.mem_append.mp hc with hc | hc
              · exact absurd (hs₁ _ hc) (by decide)
              · exact absurd (hdigits _ hc) (by decide)
            · exact absurd (hs₂ _ hc) (by decide)
          have hclose := (takeWhile_append_cons (l := s₃ ++ b :: u) hinside (b := 0x5D)
            (by decide)).2
          have hassoc : [] ++ 0x5B :: s₁ ++ number ++ s₂ ++ 0x5D :: s₃ ++ b :: u =
              0x5B :: (s₁ ++ number ++ s₂ ++ 0x5D :: (s₃ ++ b :: u)) := by
            simp only [List.nil_append, List.append_assoc, List.cons_append]
          rw [hassoc]
          refine ⟨some (upToByte 0x5D (s₁ ++ number ++ s₂ ++ 0x5D :: (s₃ ++ b :: u))),
            s₃ ++ b :: u, ?_, List.mem_append_right s₃ hsemicolon⟩
          rw [splitArray, if_pos (List.head?_cons ..), List.tail_cons, fromByte, hclose]

/-- The first declarator, and what is behind its brackets. -/
theorem declarators_front {code size : Nat} {body : List UInt8} {ds : List UniformEntry}
    (h : Declarators code size body ds) (s₃ : List UInt8) :
    ∃ name array n ds' b u, body ++ 0x3B :: s₃ = name ++ (array ++ b :: u) ∧
      IsIdentifier name ∧ ArrayPart array n ∧ (b = 0x3D ∨ b = 0x2C ∨ b = 0x3B) ∧
      0x3B ∈ b :: u ∧ ds = ⟨name, code, size, n⟩ :: ds' := by
  cases h with
  | @last name array init n hname harray hinit =>
      cases hinit with
      | absent =>
          refine ⟨name, array, n, [], 0x3B, s₃, ?_, hname, harray, .inr (.inr rfl),
            List.mem_cons_self, rfl⟩
          simp only [List.append_nil, List.append_assoc]
      | @present l _ =>
          refine ⟨name, array, n, [], 0x3D, l ++ 0x3B :: s₃, ?_, hname, harray, .inl rfl,
            List.mem_cons_of_mem _ (List.mem_append_right l List.mem_cons_self), rfl⟩
          simp only [List.append_assoc, List.cons_append]
  | @cons name array init s l n ds hname harray hinit _ _ =>
      cases hinit with
      | absent =>
          refine ⟨name, array, n, ds, 0x2C, s ++ (l ++ 0x3B :: s₃), ?_, hname, harray,
            .inr (.inl rfl), ?_, rfl⟩
          · simp only [List.append_nil, List.append_assoc, List.cons_append]
          · exact List.mem_cons_of_mem _ (List.mem_append_right s
              (List.mem_append_right l List.mem_cons_self))
      | @present e _ =>
          refine ⟨name, array, n, ds, 0x3D, e ++ (0x2C :: (s ++ (l ++ 0x3B :: s₃))), ?_, hname,
            harray, .inl rfl, ?_, rfl⟩
          · simp only [List.append_assoc, List.cons_append]
          · exact List.mem_cons_of_mem _ (List.mem_append_right e (List.mem_cons_of_mem _
              (List.mem_append_right s (List.mem_append_right l List.mem_cons_self))))

/-- **A declaration is read up to the name of its first uniform**, if that and the text of
the layout fit, and the semicolon is left. -/
theorem reading_of_declares {line content : List UInt8} {d : UniformEntry}
    {ds : List UniformEntry} (h : Declares line content (d :: ds)) (hcontent : content.length ≤ 127)
    (hname : d.name.length < 64) : ∃ r, reading line = some r ∧ skip r.left ≠ [] := by
  cases h with
  | @intro s₀ s₁ layout _ quals s₂ body s₃ type code size _ hs₀ hs₁ hne₁ hlayout hquals htype
      hs₂ hne₂ hbody hs₃ =>
      obtain ⟨name, array, n, ds', b, u, hfront, hidentifier, harray, hb, hsemicolon, heq⟩ :=
        declarators_front hbody s₃
      cases heq
      obtain ⟨⟨c, t, hbehind, hc⟩, number, left, hsplit, hleft⟩ :=
        splitArray_of_part harray hb hsemicolon
      rw [hfront]
      obtain ⟨b₁, s₁', rfl⟩ := List.exists_cons_of_ne_nil hne₁
      obtain ⟨b₂, s₂', rfl⟩ := List.exists_cons_of_ne_nil hne₂
      obtain ⟨hskip, hnone, hsplitType⟩ := splitType_of_plain (plainType_of_mem htype)
        (hs₂ b₂ List.mem_cons_self) (s₂' ++ (name ++ (array ++ b :: u)))
      have huniform : behindUniform (s₀ ++ (ascii "uniform" ++ (b₁ :: s₁' ++ (layout ++ (quals ++
          (ascii type ++ (b₂ :: s₂' ++ (name ++ (array ++ b :: u))))))))) =
          some (b₁ :: s₁' ++ (layout ++ (quals ++ (ascii type ++ (b₂ :: s₂' ++
            (name ++ (array ++ b :: u))))))) := by
        rw [behindUniform, skip_append_of_blanks hs₀]
        have hfirst (l : List UInt8) : skip (ascii "uniform" ++ l) = ascii "uniform" ++ l := rfl
        rw [hfirst, if_pos]
        · rw [List.drop_left' (by decide)]
        · rw [beginsUniform, Bool.and_eq_true]
          refine ⟨begins_iff.mpr (List.prefix_append _ _), ?_⟩
          rw [List.drop_left' (by decide)]
          exact hs₁ b₁ List.mem_cons_self
      have hquals' := behindQualifiers_layout hlayout hcontent hquals hskip hnone hs₁
        (p := none) (Nat.le_refl _)
      have hsplitName : splitName (b₂ :: s₂' ++ (name ++ (array ++ b :: u))) =
          some (name, array ++ b :: u) := by
        rw [splitName, skip_append_of_blanks hs₂, skip_identifier hidentifier, hbehind]
        obtain ⟨htake, hdrop⟩ := takeWhile_append_cons (l := t)
          (isNameByte_of_identifier hidentifier) hc
        rw [htake, hdrop, if_pos]
        obtain ⟨⟨_, _, rfl, -⟩, -⟩ := hidentifier
        exact ⟨Nat.succ_pos _, hname⟩
      have htype' : splitType (behindQualifiers _ (b₁ :: s₁' ++ (layout ++ (quals ++ (ascii type ++
          (b₂ :: s₂' ++ (name ++ (array ++ b :: u))))))) none).1 = some (ascii type, _) :=
        (congrArg splitType hquals').trans hsplitType
      exact ⟨_, reading_of_pieces huniform htype' hsplitName hsplit,
        skip_ne_nil_of_semicolon hleft⟩

/-! ### The end of a line -/

/-- What is not skipped. -/
def solid (l : List UInt8) : List UInt8 := l.filter fun b => !(isBlank b || decide (b = 0x0A))

theorem solid_append (l l' : List UInt8) : solid (l ++ l') = solid l ++ solid l' :=
  List.filter_append ..

theorem solid_eq_nil_iff : solid l = [] ↔ skip l = [] := by
  rw [solid, List.filter_eq_nil_iff, skip, List.dropWhile_eq_nil_iff]
  exact forall₂_congr fun b _ => by rw [Bool.not_eq_true', Bool.not_eq_false]

theorem skip_suffix (l : List UInt8) : skip l <:+ l := List.dropWhile_suffix _

theorem kernelStrstr_suffix {needle : String} {text : List UInt8}
    (h : kernelStrstr needle l = some text) : text <:+ l := by
  induction l with
  | nil => cases h
  | cons b l ih =>
      rw [kernelStrstr] at h
      split at h
      · cases h
        exact List.suffix_refl _
      · exact (ih h).trans (List.suffix_cons b l)

theorem behindLayout_suffix (l : List UInt8) : behindLayout l <:+ l := by
  unfold behindLayout
  split
  next => exact List.nil_suffix
  next b l' hl =>
    have hl' : l' <:+ l := ((List.suffix_cons b l').trans
      (hl ▸ List.dropWhile_suffix _)).trans (List.drop_suffix 6 l)
    dsimp only
    split
    · exact (List.tail_suffix _).trans ((List.drop_suffix _ _).trans hl')
    · exact (List.drop_suffix _ _).trans hl'

theorem suffix_of_qualifier {behind : List UInt8} {q : Option (List UInt8)}
    (h : qualifier l = some (behind, q)) : behind <:+ l := by
  unfold qualifier at h
  dsimp only at h
  split at h
  · cases h
    exact behindLayout_suffix l
  · split at h
    · cases h
      exact List.dropWhile_suffix _
    · split at h
      · cases h
        exact List.drop_suffix 9 l
      · split at h
        · cases h
          exact List.dropWhile_suffix _
        · cases h

theorem behindQualifiers_suffix (n : Nat) (l : List UInt8) (p : Option (List UInt8)) :
    (behindQualifiers n l p).1 <:+ l := by
  induction n generalizing l p with
  | zero => exact skip_suffix l
  | succ n ih =>
      rw [behindQualifiers]
      split
      next behind q hq => exact (ih behind _).trans ((suffix_of_qualifier hq).trans (skip_suffix l))
      next => exact skip_suffix l

theorem splitName_eq_some {name l' : List UInt8} (h : splitName l = some (name, l')) :
    skip l = name ++ l' ∧ 0x3B ∉ name ∧ name.length ≤ 63 ∧ solid name ≠ [] := by
  unfold splitName at h
  dsimp only at h
  split at h
  next hlength =>
    cases h
    refine ⟨List.takeWhile_append_dropWhile.symm, fun hmem => ?_, Nat.le_of_lt_succ hlength.2, ?_⟩
    · exact absurd (List.mem_takeWhile_imp hmem) (by decide)
    · -- the first byte of the name is where the blanks have ended
      obtain ⟨b, bs, hbs⟩ := List.exists_cons_of_length_pos hlength.1
      have hskip : skip (skip l) = skip l := skip_skip l
      rw [← List.takeWhile_append_dropWhile (p := isNameByte) (l := skip l), hbs] at hskip
      rw [hbs]
      intro hnil
      have hb : skip (b :: bs) = [] := solid_eq_nil_iff.mp hnil
      have hblank := List.dropWhile_eq_nil_iff.mp hb b List.mem_cons_self
      have hlt : (skip (b :: bs ++ (skip l).dropWhile isNameByte)).length <
          (b :: bs ++ (skip l).dropWhile isNameByte).length := by
        rw [List.cons_append, skip, List.dropWhile_cons, if_pos hblank]
        exact Nat.lt_succ_of_le (List.dropWhile_suffix _).length_le
      rw [hskip] at hlt
      exact Nat.lt_irrefl _ hlt
  next => cases h

theorem splitArray_eq_some {number : Option (List UInt8)} {left : List UInt8}
    (h : splitArray l = some (number, left)) :
    l = left ∨ ∃ pre, l = pre ++ (0x5D :: left) := by
  unfold splitArray at h
  split at h
  next hbracket =>
    obtain ⟨l', rfl⟩ := List.head?_eq_some_iff.mp hbracket
    split at h
    next => cases h
    next b left' hclose =>
      cases h
      rw [List.tail_cons] at hclose
      have hb : b = 0x5D := by
        have hhead := List.head?_dropWhile_not (fun b : UInt8 => decide (b ≠ 0x5D)) l'
        rw [fromByte] at hclose
        rw [hclose] at hhead
        exact of_not_not (of_decide_eq_false hhead)
      refine .inr ⟨0x5B :: upToByte 0x5D l', ?_⟩
      rw [List.cons_append, ← hb, ← hclose, upToByte, fromByte, hb, List.takeWhile_append_dropWhile]
  next =>
    cases h
    exact .inl rfl

/-- The last piece is not a semicolon. -/
theorem reading_last {d : List UInt8} {r : UniformReading} (h : reading d = some r) :
    ∃ pre mid, d = pre ++ (mid ++ r.left) ∧ 0x3B ∉ mid ∧ solid mid ≠ [] := by
  unfold reading at h
  obtain ⟨l, huniform, h⟩ := Option.bind_eq_some_iff.mp h
  obtain ⟨⟨type, l₁⟩, htype, h⟩ := Option.bind_eq_some_iff.mp h
  obtain ⟨⟨name, l₂⟩, hname, h⟩ := Option.bind_eq_some_iff.mp h
  obtain ⟨⟨number, left⟩, harray, h⟩ := Option.map_eq_some_iff.mp h
  cases h
  have hl : l <:+ d := by
    unfold behindUniform at huniform
    split at huniform
    · cases huniform
      exact (List.drop_suffix 7 _).trans (skip_suffix d)
    · cases huniform
  have hl₁ : l₁ <:+ l := by
    unfold splitType at htype
    split at htype
    · cases htype
      exact (List.drop_suffix _ _).trans (behindQualifiers_suffix _ l none)
    · cases htype
  obtain ⟨heq, hsemicolon, -, hsolid⟩ := splitName_eq_some hname
  obtain ⟨pre, hpre⟩ := (skip_suffix l₁).trans (hl₁.trans hl)
  rw [heq] at hpre
  rcases splitArray_eq_some harray with rfl | ⟨inner, rfl⟩
  · exact ⟨pre, name, hpre.symm, hsemicolon, hsolid⟩
  · refine ⟨pre ++ name ++ inner, [0x5D], ?_, by decide, by decide⟩
    rw [← hpre]
    simp only [List.append_assoc, List.cons_append, List.nil_append]

/-- Of a text that ends with a semicolon something is left. -/
theorem skip_left_ne_nil (before : List UInt8) {line text s₃ : List UInt8} {r : UniformReading}
    (hline : line = before ++ 0x3B :: s₃) (hs₃ : Blanks s₃) (htext : text <:+ line)
    (h : reading text = some r) : skip r.left ≠ [] := by
  intro hleft
  obtain ⟨pre, mid, rfl, hsemicolon, hsolid⟩ := reading_last h
  obtain ⟨start, hstart⟩ := htext
  have hblanks : solid s₃ = [] := by
    rw [solid_eq_nil_iff, ← List.append_nil s₃, skip_append_of_blanks hs₃]
    rfl
  have hlast : solid line = solid before ++ [0x3B] := by
    rw [hline, solid_append, solid, solid, List.filter_cons_of_pos (by decide)]
    exact congrArg (fun t => solid before ++ 0x3B :: t) hblanks
  have hmid : solid line = solid (start ++ pre) ++ solid mid := by
    rw [← hstart, ← List.append_assoc, solid_append, solid_append mid, solid_eq_nil_iff.mpr hleft,
      List.append_nil]
  have hlast' := congrArg List.getLast? (hlast.symm.trans hmid)
  rw [List.getLast?_append_of_ne_nil _ hsolid, List.getLast?_append_of_ne_nil _
    (List.cons_ne_nil _ _)] at hlast'
  have hmem : 0x3B ∈ solid mid := List.mem_of_getLast? hlast'.symm
  exact hsemicolon (List.mem_of_mem_filter hmem)

/-! ### What is recorded -/

theorem scanWord_eq_some {word left : List UInt8} (h : scanWord l = some (word, left)) :
    word.length ≤ 63 := by
  unfold scanWord at h
  dsimp only at h
  split at h
  next => cases h
  next =>
    cases h
    exact List.length_take_le _ _

/-- Names are cut off. -/
theorem length_name_le {line : List UInt8} {e : UniformEntry × Bool} (h : lineEntry line = some e) :
    e.1.name.length ≤ 63 := by
  unfold lineEntry at h
  obtain ⟨text, -, h⟩ := Option.bind_eq_some_iff.mp h
  split at h
  next r _ =>
    cases h
    exact Nat.le_trans (List.takeWhile_prefix _).length_le (List.length_take_le 63 _)
  next =>
    obtain ⟨⟨type, name⟩, hwords, rfl⟩ := Option.map_eq_some_iff.mp h
    unfold kernelSimpleSscanf at hwords
    split at hwords
    next =>
      obtain ⟨⟨first, l⟩, -, hwords⟩ := Option.bind_eq_some_iff.mp hwords
      obtain ⟨⟨second, left⟩, hsecond, hwords⟩ := Option.map_eq_some_iff.mp hwords
      cases hwords
      exact Nat.le_trans (List.takeWhile_prefix _).length_le (scanWord_eq_some hsecond)
    next => cases hwords

end pieces

/-! ## The claim on a line -/

/-- All of a record but location and offset. -/
def ShaderUniform.entry (u : ShaderUniform) : UniformEntry := ⟨u.name, u.type, u.size, u.arraySize⟩

/-- The parser ends, and what is recorded is what the line declares; for a line that is no
declaration, nothing. -/
structure LineRight (memory : Bool) (existing : List ShaderUniform) (line : List UInt8) : Prop where
  ends : ∃ result, ParsesUniform line result
  recorded : ∃ new, ExtractsUniform memory existing line (existing ++ new) ∧
    ((∃ content, Declares line content (new.map ShaderUniform.entry)) ∨
      ((¬ ∃ content ds, Declares line content ds) ∧ new = []))

/-- There is no `uniform ` in the line; or the machine gives up on what is from there on, and
it has no two words. -/
def Silent (line : List UInt8) : Prop :=
  ∀ text, kernelStrstr "uniform " line = some text →
    UniformReading.reading text = none ∧ kernelSimpleSscanf "uniform" text = none

/-- The machine gives up, and the two words happen to be the type and the name. -/
def Lucky (line : List UInt8) (d : UniformEntry) : Prop :=
  ∃ text type name, kernelStrstr "uniform " line = some text ∧
    UniformReading.reading text = none ∧
    kernelSimpleSscanf "uniform" text = some (type, name) ∧ d = .simple type name

/-- Nothing is left behind a name that is read. And the line is no declaration, and gives
nothing; or there is memory, it declares one uniform, and by the length of its layout is
read in the other way. -/
structure LineTolerated (memory : Bool) (line : List UInt8) : Prop where
  ends : UniformReading.Ends line
  endsWithin : UniformReading.EndsWithin line
  silent : ((¬ ∃ content ds, Declares line content ds) ∧ (memory = true → Silent line)) ∨
    ∃ content d, Declares line content [d] ∧ 127 < content.length ∧ memory = true ∧ Lucky line d

section claim
open UniformReading

variable {memory : Bool} {existing : List ShaderUniform} {line : List UInt8}

theorem map_entry_records (memory : Bool) (existing : List ShaderUniform) (line : List UInt8) :
    (records memory existing (lineEntry line)).map ShaderUniform.entry =
      if memory then ((lineEntry line).map Prod.fst).toList else [] := by
  cases memory with
  | false => rfl
  | true => cases lineEntry line <;> rfl

theorem lineEntry_eq_none_iff : lineEntry line = none ↔ Silent line := by
  unfold lineEntry Silent
  cases htext : kernelStrstr "uniform " line with
  | none => exact iff_of_true rfl nofun
  | some text =>
      rw [Option.bind_some]
      cases hreading : reading text with
      | some r =>
          refine iff_of_false nofun fun h => ?_
          have hnone := (h text rfl).1
          rw [hreading] at hnone
          cases hnone
      | none =>
          dsimp only
          rw [Option.map_eq_none_iff]
          constructor
          · rintro hwords _ ⟨⟩
            exact ⟨hreading, hwords⟩
          · exact fun h => (h text rfl).2

theorem exists_declarator {content : List UInt8} {ds : List UniformEntry}
    (h : Declares line content ds) : ∃ d ds', ds = d :: ds' := by
  cases h with
  | intro _ _ _ _ _ _ _ _ hbody _ =>
      cases hbody with
      | last => exact ⟨_, _, rfl⟩
      | cons => exact ⟨_, _, rfl⟩

/-- A declaration that is recorded as it is has a layout that is too long, and luck. -/
theorem lucky_of_declares {content : List UInt8} {ds : List UniformEntry}
    {e : UniformEntry × Bool} (hdeclares : Declares line content ds) (hends : Ends line)
    (hwithin : EndsWithin line) (he : lineEntry line = some e) (heq : ds = [e.1]) :
    127 < content.length ∧ Lucky line e.1 := by
  subst heq
  constructor
  · by_contra hlength
    obtain ⟨r, hr, hleft⟩ := reading_of_declares hdeclares (Nat.le_of_not_lt hlength)
      (Nat.lt_succ_of_le (length_name_le he))
    exact hleft (hends r hr)
  · unfold lineEntry at he
    obtain ⟨text, htext, he⟩ := Option.bind_eq_some_iff.mp he
    cases hreading : reading text with
    | some r =>
        cases hdeclares with
        | @intro s₀ s₁ layout _ quals s₂ body s₃ type _ _ _ _ _ _ _ _ _ _ _ _ hs₃ =>
            have hleft := skip_left_ne_nil (s₀ ++ (ascii "uniform" ++ (s₁ ++ (layout ++
              (quals ++ (ascii type ++ (s₂ ++ body))))))) (by simp only [List.append_assoc]) hs₃
              (kernelStrstr_suffix htext) hreading
            exact absurd (hwithin text htext r hreading) hleft
    | none =>
        rw [hreading] at he
        obtain ⟨⟨type, name⟩, hwords, rfl⟩ := Option.map_eq_some_iff.mp he
        exact ⟨text, type, name, htext, hreading, hwords, rfl⟩

theorem lineEntry_of_lucky {d : UniformEntry} (h : Lucky line d) :
    lineEntry line = some (d, false) := by
  obtain ⟨text, type, name, htext, hreading, hwords, rfl⟩ := h
  rw [lineEntry, htext, Option.bind_some, hreading]
  exact congrArg (Option.map _) hwords

/-- **A line is treated right exactly if** the machine has nothing left to read, and the line
is no declaration and gives nothing, or is a declaration it gives up on by the length of its
layout, with the type and the name in the right places all the same. -/
theorem lineRight_iff (memory : Bool) (existing : List ShaderUniform) (line : List UInt8) :
    LineRight memory existing line ↔ LineTolerated memory line := by
  constructor
  · rintro ⟨hends, new, hextracts, hnew⟩
    have hends' := exists_parsesUniform_iff.mp hends
    obtain ⟨hwithin, heq⟩ := extractsUniform_iff.mp hextracts
    have hrecords := List.append_cancel_left heq
    have hentries := map_entry_records memory existing line
    rw [← hrecords] at hentries
    refine ⟨hends', hwithin, ?_⟩
    rcases hnew with ⟨content, hdeclares⟩ | ⟨hnot, hnil⟩
    · obtain ⟨d, ds, hds⟩ := exists_declarator hdeclares
      rw [hds] at hentries
      cases memory with
      | false => cases hentries
      | true =>
          cases he : lineEntry line with
          | none =>
              rw [he] at hentries
              cases hentries
          | some e =>
              rw [he] at hentries
              have hone : new.map ShaderUniform.entry = [e.1] := hds.trans hentries
              obtain ⟨hlength, hlucky⟩ := lucky_of_declares hdeclares hends' hwithin he hone
              rw [hone] at hdeclares
              exact .inr ⟨content, e.1, hdeclares, hlength, rfl, hlucky⟩
    · refine .inl ⟨hnot, fun hmemory => lineEntry_eq_none_iff.mp ?_⟩
      rw [hnil, hmemory] at hentries
      cases he : lineEntry line with
      | none => rfl
      | some e =>
          rw [he] at hentries
          cases hentries
  · rintro ⟨hends, hwithin, hsilent⟩
    refine ⟨exists_parsesUniform_iff.mpr hends, _, extractsUniform_iff.mpr ⟨hwithin, rfl⟩, ?_⟩
    rcases hsilent with ⟨hnot, hsilent⟩ | ⟨content, d, hdeclares, -, hmemory, hlucky⟩
    · refine .inr ⟨hnot, ?_⟩
      cases memory with
      | false => rfl
      | true =>
          rw [lineEntry_eq_none_iff.mpr (hsilent rfl)]
          rfl
    · refine .inl ⟨content, ?_⟩
      rw [map_entry_records, hmemory, lineEntry_of_lucky hlucky]
      exact hdeclares

/-- The simplest declaration there is: the machine is complete at the semicolon, and goes on
forever. -/
theorem uniform_color_not_right : ¬ LineRight true [] (ascii "uniform vec4 color;") := by
  rintro ⟨hends, -⟩
  rw [exists_parsesUniform_iff] at hends
  have hleft := hends ⟨none, ascii "vec4", ascii "color", none, ascii ";"⟩ (by decide)
  exact absurd hleft (by decide)

end claim
end VMQemuVGA
