import VMQemuVGA.Shader.UniformParser
import Mathlib.Data.List.DropRight

/-! # What the state machine reads

The machine takes a declaration to pieces from the front: the keyword, the qualifiers, the
type, the name, the brackets. Here the same is done piece by piece. The machine reads what
is read here, and gives up where it is given up here; but it ends only if nothing is left
behind the last piece. -/

namespace VMQemuVGA

/-! ## Piece by piece -/

/-- The pieces of a declaration, and what is left behind them. -/
structure UniformReading where
  precision : Option (List UInt8)
  type : List UInt8
  name : List UInt8
  /-- what is between the brackets -/
  array : Option (List UInt8)
  left : List UInt8
  deriving DecidableEq, Repr

namespace UniformReading
open ParserContext

def behindUniform (l : List UInt8) : Option (List UInt8) :=
  if beginsUniform (skip l) then some ((skip l).drop 7) else none

/-- What is behind the qualifiers, so many at most, and the last precision. -/
def behindQualifiers : Nat → List UInt8 → Option (List UInt8) →
    List UInt8 × Option (List UInt8)
  | 0, l, precision => (skip l, precision)
  | n + 1, l, precision =>
      match qualifier (skip l) with
      | some (behind, p) => behindQualifiers n behind (p.or precision)
      | none => (skip l, precision)

def splitType (l : List UInt8) : Option (List UInt8 × List UInt8) :=
  if 0 < typeLength l ∧ typeLength l < 128 then
    some (l.take (typeLength l), l.drop (typeLength l))
  else none

def splitName (l : List UInt8) : Option (List UInt8 × List UInt8) :=
  let name := (skip l).takeWhile isNameByte
  if 0 < name.length ∧ name.length < 64 then some (name, (skip l).dropWhile isNameByte) else none

def splitArray (l : List UInt8) : Option (Option (List UInt8) × List UInt8) :=
  if l.head? = some 0x5B then
    match fromByte 0x5D l.tail with
    | [] => none
    | _ :: left => some (some (upToByte 0x5D l.tail), left)
  else some (none, l)

/-- The pieces, if all are there. -/
def reading (declaration : List UInt8) : Option UniformReading :=
  (behindUniform declaration).bind fun l =>
    let (l, precision) := behindQualifiers l.length l none
    (splitType l).bind fun (type, l) =>
      (splitName l).bind fun (name, l) =>
        (splitArray l).map fun (array, left) => ⟨precision, type, name, array, left⟩

theorem reading_of_pieces {d l l₁ l₂ left type name : List UInt8} {array : Option (List UInt8)}
    (huniform : behindUniform d = some l)
    (htype : splitType (behindQualifiers l.length l none).1 = some (type, l₁))
    (hname : splitName l₁ = some (name, l₂)) (harray : splitArray l₂ = some (array, left)) :
    reading d = some ⟨(behindQualifiers l.length l none).2, type, name, array, left⟩ := by
  rw [reading, huniform, Option.bind_some]
  dsimp only
  rw [htype, Option.bind_some, hname, Option.bind_some, harray]
  rfl

/-- The machine behind the last piece. -/
def context (r : UniformReading) : ParserContext :=
  let kept := r.array.filter fun number => decide (number.length < 32)
  { rest := r.left
    state := .complete
    precision := r.precision
    fullType := r.type
    baseName := r.name
    arraySpecifier := kept.getD []
    arraySize := kept.elim 1 fun number => if number = [] then 1 else arrayCount number }

end UniformReading

/-! ## The machine -/

namespace ParserContext
open UniformReading

variable {ctx : ParserContext} {l : List UInt8}

theorem skip_skip (l : List UInt8) : skip (skip l) = skip l := List.dropWhile_idempotent _ l

/-- What was skipped does not begin with a blank. -/
theorem dropWhile_skip (l : List UInt8) : (skip l).dropWhile isBlank = skip l := by
  unfold skip
  induction l with
  | nil => rfl
  | cons b l ih =>
      rw [List.dropWhile_cons]
      split
      · exact ih
      next hb =>
        rw [List.dropWhile_cons, if_neg]
        intro hblank
        exact hb (by rw [hblank, Bool.true_or])

theorem length_skip_le (l : List UInt8) : (skip l).length ≤ l.length :=
  (List.dropWhile_suffix _).length_le

/-- A turn, where there is something to read. -/
theorem reaches_turn (ctx : ParserContext) (hstate : ctx.state ≠ .error)
    (hrest : skip ctx.rest ≠ []) :
    loop.Reaches ctx (turn { ctx with rest := skip ctx.rest }) := by
  refine .head ?_ .refl
  have hne : ctx.rest ≠ [] := by
    rintro h
    rw [h] at hrest
    exact hrest rfl
  simp only [loop]
  rw [if_neg (not_or.mpr ⟨hne, hstate⟩), if_neg hrest]

/-- The loop is left where nothing is left to read. -/
theorem returns_of_skip_eq_nil (ctx : ParserContext) (hrest : skip ctx.rest = []) :
    ∃ ctx', loop.Returns ctx ctx' ∧ ctx'.result = ctx.result := by
  by_cases hdone : ctx.rest = [] ∨ ctx.state = .error
  · exact ⟨ctx, Loop.returns_of_inl (if_pos hdone), rfl⟩
  · refine ⟨{ ctx with rest := [] }, Loop.returns_of_inl ?_, rfl⟩
    simp only [loop]
    rw [if_neg hdone, if_pos hrest]

theorem returns_of_error (hstate : ctx.state = .error) :
    ∃ ctx', loop.Returns ctx ctx' ∧ ctx'.result = none := by
  refine ⟨ctx, Loop.returns_of_inl (if_pos (.inr hstate)), ?_⟩
  rw [result, if_neg]
  rw [hstate]
  rintro (h | ⟨h, -⟩) <;> cases h

/-- **Nothing is done with what is left when all is complete**: the loop goes on forever. -/
theorem not_halts_of_complete (hstate : ctx.state = .complete) (hrest : skip ctx.rest ≠ []) :
    ¬ loop.Halts ctx := by
  have hturn : turn { ctx with rest := skip ctx.rest } = { ctx with rest := skip ctx.rest } := by
    simp only [turn, hstate]
  have hreaches := reaches_turn ctx (by rw [hstate]; exact nofun) hrest
  rw [hturn] at hreaches
  refine Loop.not_halts_of_stuck hreaches ?_
  have hne : skip ctx.rest ≠ [] := hrest
  simp only [loop, skip_skip]
  rw [if_neg (not_or.mpr ⟨hne, by rw [hstate]; exact nofun⟩), if_neg hne, hturn]

/-! ### Qualifiers -/

theorem begins_iff {s : String} : begins s l = true ↔ ascii s <+: l := List.isPrefixOf_iff_prefix

theorem length_behindLayout_le (l : List UInt8) : (behindLayout l).length ≤ l.length - 6 := by
  have hdrop : (l.drop 6).length = l.length - 6 := List.length_drop
  have hfrom : (fromByte 0x28 (l.drop 6)).length ≤ (l.drop 6).length :=
    (List.dropWhile_suffix _).length_le
  unfold behindLayout
  split
  next => exact Nat.zero_le _
  next b l' hl =>
    rw [hl, List.length_cons] at hfrom
    have hcut : ∀ n, (l'.drop n).length ≤ l'.length := fun n => by
      rw [List.length_drop]
      exact Nat.sub_le _ _
    dsimp only
    split
    · rw [List.length_tail]
      have := hcut ((upToByte 0x29 l').take 127).length
      omega
    · have := hcut ((upToByte 0x29 l').take 127).length
      omega

/-- A word that begins with a keyword is not empty. -/
theorem length_dropWhile_lt {s : String} {b : UInt8} {bs : List UInt8} (hs : ascii s = b :: bs)
    (hb : isBlank b = false) (h : begins s l = true) :
    (l.dropWhile fun b => !isBlank b).length < l.length := by
  obtain ⟨l', rfl⟩ := begins_iff.mp h
  rw [hs, List.cons_append, List.dropWhile_cons, if_pos (by rw [hb]; rfl), List.length_cons]
  exact Nat.lt_succ_of_le (List.dropWhile_suffix _).length_le

/-- A qualifier takes something. -/
theorem length_lt_of_qualifier {behind : List UInt8} {p : Option (List UInt8)}
    (h : qualifier l = some (behind, p)) : behind.length < l.length := by
  unfold qualifier at h
  dsimp only at h
  split at h
  next hlayout =>
    cases h
    have hlength := (begins_iff.mp hlayout).length_le
    have hle := length_behindLayout_le l
    have hsix : (ascii "layout").length = 6 := by decide
    omega
  next =>
    split at h
    next hprecision =>
      cases h
      rw [Bool.or_eq_true, Bool.or_eq_true] at hprecision
      rcases hprecision with (h | h) | h
      · exact length_dropWhile_lt rfl (by decide) h
      · exact length_dropWhile_lt rfl (by decide) h
      · exact length_dropWhile_lt rfl (by decide) h
    next =>
      split at h
      next hinvariant =>
        cases h
        have hlength := (begins_iff.mp hinvariant).length_le
        have hnine : (ascii "invariant").length = 9 := by decide
        rw [List.length_drop]
        omega
      next =>
        split at h
        next hinterpolation =>
          cases h
          rw [Bool.or_eq_true, Bool.or_eq_true] at hinterpolation
          rcases hinterpolation with (h | h) | h
          · exact length_dropWhile_lt rfl (by decide) h
          · exact length_dropWhile_lt rfl (by decide) h
          · exact length_dropWhile_lt rfl (by decide) h
        next => cases h

theorem qualifier_nil : qualifier [] = none := by decide

/-- The machine gets behind the qualifiers. -/
theorem reaches_behindQualifiers {n : Nat} {p : Option (List UInt8)} (hn : l.length ≤ n) :
    ∃ l', loop.Reaches ⟨l, .seekingQualifiers, p, [], [], [], 1⟩
        ⟨l', .seekingQualifiers, (behindQualifiers n l p).2, [], [], [], 1⟩ ∧
      skip l' = (behindQualifiers n l p).1 ∧ qualifier (behindQualifiers n l p).1 = none := by
  induction n generalizing l p with
  | zero =>
      rw [List.length_eq_zero_iff.mp (Nat.le_zero.mp hn)]
      exact ⟨[], .refl, rfl, qualifier_nil⟩
  | succ n ih =>
      rw [behindQualifiers]
      cases hqualifier : qualifier (skip l) with
      | none => exact ⟨l, .refl, rfl, hqualifier⟩
      | some q =>
          obtain ⟨behind, q⟩ := q
          have hlt := length_lt_of_qualifier hqualifier
          have hne : skip l ≠ [] := by
            intro h
            rw [h, qualifier_nil] at hqualifier
            cases hqualifier
          have hle := length_skip_le l
          obtain ⟨l', hreaches, hrest⟩ := ih (l := behind) (p := q.or p) (by omega)
          refine ⟨l', .trans ?_ hreaches, hrest⟩
          have hturn := reaches_turn ⟨l, .seekingQualifiers, p, [], [], [], 1⟩
            (by exact nofun) hne
          simp only [turn, dropWhile_skip, hqualifier] at hturn
          exact hturn

/-! ### All pieces -/

/-- The loop is left without success. -/
def GivesUp (ctx : ParserContext) : Prop := ∃ ctx', loop.Returns ctx ctx' ∧ ctx'.result = none

theorem GivesUp.of_reaches {ctx' : ParserContext} (h : GivesUp ctx')
    (hreaches : loop.Reaches ctx ctx') : GivesUp ctx := by
  obtain ⟨t, ht, hresult⟩ := h
  exact ⟨t, hreaches.returns_iff.mpr ht, hresult⟩

/-- Nothing left to read, and not complete. -/
theorem givesUp_of_skip_eq_nil (hrest : skip ctx.rest = []) (hstate : ctx.state ≠ .complete)
    (hname : ctx.baseName = []) : GivesUp ctx := by
  obtain ⟨ctx', hreturns, hresult⟩ := returns_of_skip_eq_nil ctx hrest
  refine ⟨ctx', hreturns, hresult.trans ?_⟩
  rw [result, if_neg]
  rintro (h | ⟨-, h⟩)
  · exact hstate h
  · exact h hname

theorem skip_ne_nil_of_cons {b : UInt8} (hb : (isBlank b || decide (b = 0x0A)) = false) :
    skip (b :: l) = b :: l := by
  unfold skip
  rw [List.dropWhile_cons, if_neg (by rw [hb]; exact Bool.false_ne_true)]

/-- The keyword. -/
theorem start_stage (d : List UInt8) :
    (∃ l, behindUniform d = some l ∧
        loop.Reaches (.start d) ⟨l, .seekingQualifiers, none, [], [], [], 1⟩) ∨
      (behindUniform d = none ∧ GivesUp (.start d)) := by
  unfold behindUniform
  by_cases hd : skip d = []
  · refine .inr ⟨if_neg (by rw [hd]; decide), givesUp_of_skip_eq_nil hd (by exact nofun) rfl⟩
  · have hturn := reaches_turn ⟨d, .seekingUniform, none, [], [], [], 1⟩
      (by exact nofun) hd
    simp only [turn] at hturn
    split
    next huniform =>
      rw [if_pos huniform] at hturn
      exact .inl ⟨_, rfl, hturn⟩
    next huniform =>
      rw [if_neg huniform] at hturn
      exact .inr ⟨rfl, .of_reaches (returns_of_error rfl) hturn⟩

/-- Qualifiers and type. -/
theorem type_stage (l : List UInt8) :
    (∃ type l', splitType (behindQualifiers l.length l none).1 = some (type, l') ∧
        loop.Reaches ⟨l, .seekingQualifiers, none, [], [], [], 1⟩
          ⟨l', .parsingName, (behindQualifiers l.length l none).2, type, [], [], 1⟩) ∨
      (splitType (behindQualifiers l.length l none).1 = none ∧
        GivesUp ⟨l, .seekingQualifiers, none, [], [], [], 1⟩) := by
  obtain ⟨l', hreaches, hrest, hqualifier⟩ :=
    reaches_behindQualifiers (p := none) (Nat.le_refl l.length)
  generalize behindQualifiers l.length l none = q at *
  by_cases hq : q.1 = []
  · refine .inr ⟨by rw [hq]; rfl, .of_reaches ?_ hreaches⟩
    exact givesUp_of_skip_eq_nil (hrest.trans hq) (by exact nofun) rfl
  · have hne : skip l' ≠ [] := by rwa [hrest]
    have hdrop : q.1.dropWhile isBlank = q.1 := by rw [← hrest, dropWhile_skip]
    have hturn := reaches_turn ⟨l', .seekingQualifiers, q.2, [], [], [], 1⟩
      (by exact nofun) hne
    simp only [turn, hrest, hdrop, hqualifier] at hturn
    have hskip : skip q.1 = q.1 := by rw [← hrest, skip_skip]
    have hturn' := reaches_turn ⟨q.1, .parsingType, q.2, [], [], [], 1⟩
      (by exact nofun) (by rwa [hskip])
    simp only [turn, hskip] at hturn'
    unfold splitType
    split
    next hlength =>
      rw [if_pos hlength] at hturn'
      exact .inl ⟨_, _, rfl, hreaches.trans (hturn.trans hturn')⟩
    next hlength =>
      rw [if_neg hlength] at hturn'
      exact .inr ⟨rfl, .of_reaches (returns_of_error rfl) (hreaches.trans (hturn.trans hturn'))⟩

/-- The name. -/
theorem name_stage (l type : List UInt8) (p : Option (List UInt8)) :
    (∃ name l', splitName l = some (name, l') ∧
        loop.Reaches ⟨l, .parsingName, p, type, [], [], 1⟩
          ⟨l', if l'.head? = some 0x5B then .parsingArray else .complete, p, type, name, [], 1⟩) ∨
      (splitName l = none ∧ GivesUp ⟨l, .parsingName, p, type, [], [], 1⟩) := by
  unfold splitName
  by_cases hl : skip l = []
  · refine .inr ⟨?_, givesUp_of_skip_eq_nil hl (by exact nofun) rfl⟩
    rw [hl]
    rfl
  · have hturn := reaches_turn ⟨l, .parsingName, p, type, [], [], 1⟩ (by exact nofun) hl
    simp only [turn, dropWhile_skip] at hturn
    dsimp only
    split
    next hlength =>
      rw [if_pos hlength] at hturn
      exact .inl ⟨_, _, rfl, hturn⟩
    next hlength =>
      rw [if_neg hlength] at hturn
      exact .inr ⟨rfl, .of_reaches (returns_of_error rfl) hturn⟩

/-- The brackets, if there are any. -/
theorem array_stage (l type name : List UInt8) (p : Option (List UInt8)) :
    (∃ array left, splitArray l = some (array, left) ∧
        loop.Reaches
          ⟨l, if l.head? = some 0x5B then .parsingArray else .complete, p, type, name, [], 1⟩
          (UniformReading.context ⟨p, type, name, array, left⟩)) ∨
      (splitArray l = none ∧ GivesUp
        ⟨l, if l.head? = some 0x5B then .parsingArray else .complete, p, type, name, [], 1⟩) := by
  unfold splitArray
  split
  next hbracket =>
    obtain ⟨l', rfl⟩ := List.head?_eq_some_iff.mp hbracket
    have hskip := skip_ne_nil_of_cons (b := 0x5B) (l := l') (by decide)
    have hturn := reaches_turn ⟨0x5B :: l', .parsingArray, p, type, name, [], 1⟩
      (by exact nofun) (by rw [hskip]; exact List.cons_ne_nil _ _)
    simp only [turn, hskip, List.tail_cons] at hturn
    dsimp only [List.tail_cons]
    split
    next hend =>
      simp only [hend] at hturn
      exact .inr ⟨rfl, .of_reaches (returns_of_error rfl) hturn⟩
    next left hend =>
      simp only [hend] at hturn
      refine .inl ⟨_, _, rfl, ?_⟩
      unfold context
      split at hturn
      next hshort =>
        rw [Option.filter_some, if_pos (decide_eq_true hshort)]
        exact hturn
      next hlong =>
        rw [Option.filter_some, if_neg (by rw [decide_eq_true_eq]; exact hlong)]
        exact hturn
  next => exact .inl ⟨none, l, rfl, .refl⟩

/-- **The machine reads the pieces**, or gives up. -/
theorem reading_spec (d : List UInt8) :
    (∃ r, reading d = some r ∧ loop.Reaches (.start d) r.context) ∨
      (reading d = none ∧ GivesUp (.start d)) := by
  unfold reading
  obtain ⟨l, huniform, hstart⟩ | ⟨huniform, hnone⟩ := start_stage d
  · rw [huniform, Option.bind_some]
    obtain ⟨type, l₁, htype, hreaches₁⟩ | ⟨htype, hnone⟩ := type_stage l
    · simp only [htype, Option.bind_some]
      obtain ⟨name, l₂, hname, hreaches₂⟩ | ⟨hname, hnone⟩ :=
        name_stage l₁ type (behindQualifiers l.length l none).2
      · simp only [hname, Option.bind_some]
        have hreaches := hstart.trans (hreaches₁.trans hreaches₂)
        obtain ⟨array, left, harray, hreaches₃⟩ | ⟨harray, hnone⟩ :=
          array_stage l₂ type name (behindQualifiers l.length l none).2
        · rw [harray]
          exact .inl ⟨_, rfl, hreaches.trans hreaches₃⟩
        · rw [harray]
          exact .inr ⟨rfl, .of_reaches hnone hreaches⟩
      · simp only [hname]
        exact .inr ⟨rfl, .of_reaches hnone (hstart.trans hreaches₁)⟩
    · simp only [htype]
      exact .inr ⟨rfl, .of_reaches hnone hstart⟩
  · rw [huniform]
    exact .inr ⟨rfl, hnone⟩

end ParserContext

/-! ## What the parser returns -/

namespace UniformReading
open ParserContext

/-- The type and the name that are returned. -/
def out (r : UniformReading) : List UInt8 × List UInt8 := (r.context.typeOut, r.context.nameOut)

/-- Nothing but blanks is behind the last piece. -/
def Ends (d : List UInt8) : Prop := ∀ r, reading d = some r → skip r.left = []

/-- **The parser returns exactly if nothing is left behind the last piece**, and then what
has been read. -/
theorem parsesUniform_iff {d : List UInt8} {result : Option (List UInt8 × List UInt8)} :
    ParsesUniform d result ↔ Ends d ∧ result = (reading d).map out := by
  obtain ⟨r, hr, hreaches⟩ | ⟨hnone, ctx, hreturns, hresult⟩ := reading_spec d
  · unfold Ends
    rw [hr]
    have hleft : (∀ r', some r = some r' → skip r'.left = []) ↔ skip r.left = [] :=
      ⟨fun h => h r rfl, fun h r' hr' => by cases hr'; exact h⟩
    rw [hleft]
    by_cases hskip : skip r.left = []
    · obtain ⟨ctx, hreturns, hctx⟩ := returns_of_skip_eq_nil r.context hskip
      have hcomplete : r.context.result = some r.out := if_pos (.inl rfl)
      rw [and_iff_right hskip]
      constructor
      · rintro ⟨ctx', hreturns', rfl⟩
        have heq := (hreaches.returns_iff.mp hreturns').unique hreturns
        rw [heq, hctx]
        exact hcomplete
      · rintro rfl
        exact ⟨ctx, hreaches.returns_iff.mpr hreturns, hctx.trans hcomplete⟩
    · refine iff_of_false ?_ fun h => hskip h.1
      rintro ⟨ctx', hreturns', -⟩
      exact not_halts_of_complete rfl hskip ⟨ctx', hreaches.returns_iff.mp hreturns'⟩
  · have hends : Ends d := fun r hr => by
      rw [hnone] at hr
      cases hr
    rw [and_iff_right hends, hnone]
    constructor
    · rintro ⟨ctx', hreturns', rfl⟩
      rw [hreturns'.unique hreturns]
      exact hresult
    · rintro rfl
      exact ⟨ctx, hreturns, hresult⟩

theorem exists_parsesUniform_iff {d : List UInt8} :
    (∃ result, ParsesUniform d result) ↔ Ends d := by
  constructor
  · rintro ⟨result, h⟩
    exact (parsesUniform_iff.mp h).1
  · intro h
    exact ⟨_, parsesUniform_iff.mpr ⟨h, rfl⟩⟩

/-! ## What a line gives -/

/-- What is recorded for a line, and whether the state machine has read it. -/
def lineEntry (line : List UInt8) : Option (UniformEntry × Bool) :=
  (kernelStrstr "uniform " line).bind fun text =>
    match reading text with
    | some r => some (.advanced r.out.1 r.out.2, true)
    | none => (kernelSimpleSscanf "uniform" text).map fun words => (.simple words.1 words.2, false)

/-- The parser ends on what it is given of the line. -/
def EndsWithin (line : List UInt8) : Prop :=
  ∀ text, kernelStrstr "uniform " line = some text → Ends text

/-- The records of an entry, if there is memory. -/
def records (memory : Bool) (existing : List ShaderUniform) (entry : Option (UniformEntry × Bool)) :
    List ShaderUniform :=
  if memory then (entry.map fun e => e.1.record existing e.2).toList else []

/-- **A line is recorded where the parser ends.** -/
theorem extractsUniform_iff {memory : Bool} {existing us : List ShaderUniform} {line : List UInt8} :
    ExtractsUniform memory existing line us ↔
      EndsWithin line ∧ us = existing ++ records memory existing (lineEntry line) := by
  have hnil : existing = existing ++ records memory existing none := by
    cases memory <;> exact (List.append_nil existing).symm
  have hone (e : UniformEntry × Bool) :
      (if memory then existing ++ [e.1.record existing e.2] else existing) =
        existing ++ records memory existing (some e) := by
    cases memory
    · exact (List.append_nil existing).symm
    · rfl
  unfold EndsWithin lineEntry
  constructor
  · intro h
    cases h with
    | noUniform hnone =>
        rw [hnone]
        exact ⟨nofun, hnil⟩
    | @advanced text type name htext hparse =>
        obtain ⟨hends, hout⟩ := UniformReading.parsesUniform_iff.mp hparse
        obtain ⟨r, hr, hreading⟩ := Option.map_eq_some_iff.mp hout.symm
        rw [htext, Option.bind_some, hr]
        dsimp only
        rw [hreading]
        exact ⟨fun _ h => by cases h; exact hends, hone (_, true)⟩
    | simple htext hparse hwords =>
        obtain ⟨hends, hout⟩ := UniformReading.parsesUniform_iff.mp hparse
        rw [htext, Option.bind_some, Option.map_eq_none_iff.mp hout.symm, hwords]
        exact ⟨fun _ h => by cases h; exact hends, hone (_, false)⟩
    | noWords htext hparse hwords =>
        obtain ⟨hends, hout⟩ := UniformReading.parsesUniform_iff.mp hparse
        rw [htext, Option.bind_some, Option.map_eq_none_iff.mp hout.symm, hwords]
        exact ⟨fun _ h => by cases h; exact hends, hnil⟩
  · rintro ⟨hends, rfl⟩
    cases htext : kernelStrstr "uniform " line with
    | none =>
        rw [Option.bind_none, ← hnil]
        exact .noUniform htext
    | some text =>
        have hparse := UniformReading.parsesUniform_iff.mpr ⟨hends text htext, rfl⟩
        rw [Option.bind_some]
        cases hreading : reading text with
        | some r =>
            rw [hreading] at hparse
            rw [← hone]
            exact .advanced htext hparse
        | none =>
            rw [hreading] at hparse
            cases hwords : kernelSimpleSscanf "uniform" text with
            | none =>
                rw [Option.map_none, ← hnil]
                exact .noWords htext hparse hwords
            | some words =>
                rw [Option.map_some, ← hone]
                exact .simple htext hparse hwords

end UniformReading
end VMQemuVGA
