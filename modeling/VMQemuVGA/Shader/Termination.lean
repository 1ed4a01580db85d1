import VMQemuVGA.Shader.CompileShader

/-! # When the compilation of a shader ends

Every test of the chains that succeeds moves on behind its keyword, and where none
succeeds one character is copied. The exception is the test of a type name: inside it is
tested that the name is no part of a longer identifier, and where it is, nothing is
consumed at all. The next iteration then finds the same name at the same place. -/

namespace VMQemuVGA

/-! ## Rules that consume something -/

/-- There is a keyword, and it is not found at a closing bracket. -/
def ShaderRule.Proper (rule : ShaderRule) : Prop := ∃ b bs, ascii rule.keyword = b :: bs ∧ b ≠ 0x5D

theorem proper_hlslRules : ∀ rule ∈ hlslRules, rule.Proper := by
  simp only [hlslRules, List.forall_mem_cons]
  and_intros
  all_goals first
    | exact ⟨_, _, ascii_eq rfl, by decide⟩
    | exact nofun

theorem proper_mslRules : ∀ rule ∈ mslRules, rule.Proper := by
  simp only [mslRules, List.forall_mem_cons]
  and_intros
  all_goals first
    | exact ⟨_, _, ascii_eq rfl, by decide⟩
    | exact nofun

theorem ShaderLanguage.proper_rules {language : ShaderLanguage} {rules : List ShaderRule}
    (h : language.rules = some rules) : ∀ rule ∈ rules, rule.Proper :=
  forall_rules proper_hlslRules proper_mslRules h

namespace ShaderSource
variable {src : ShaderSource}

theorem le_closing (n pos : Nat) : pos ≤ src.closing n pos := by
  induction n generalizing pos with
  | zero => exact Nat.le_refl _
  | succ n ih =>
      rw [closing]
      split
      · exact Nat.le_refl _
      · exact Nat.le_trans (Nat.le_succ pos) (ih (pos + 1))

/-- The search for the bracket goes on from anything else. -/
theorem lt_closing {n pos : Nat} (hn : 0 < n) (h : src.bytes pos ≠ 0x5D) :
    pos < src.closing n pos := by
  obtain ⟨n, rfl⟩ := Nat.exists_eq_add_of_le' hn
  rw [closing, if_neg h]
  exact le_closing n (pos + 1)

theorem le_behindBracket (pos : Nat) : pos ≤ src.behindBracket pos := by
  rw [behindBracket]
  split
  · exact Nat.le_succ pos
  · exact Nat.le_refl pos

end ShaderSource

namespace Translation
variable {src : ShaderSource} {rules : List ShaderRule} {t u : Translation}

/-- At this position of the source the loop does nothing: the first keyword that is there
is a type name, and it is part of a longer identifier. -/
def Stuck (src : ShaderSource) (rules : List ShaderRule) (pos : Nat) : Prop :=
  ∃ rule, ruleAt src rules pos = some rule ∧ rule.action = .retype ∧
    src.standsAlone pos (ascii rule.keyword).length = false

theorem ruleAt_eq_some {pos : Nat} {rule : ShaderRule} (h : ruleAt src rules pos = some rule) :
    rule ∈ rules ∧ src.startsWith pos (ascii rule.keyword) = true :=
  ⟨List.mem_of_find?_eq_some h,
    List.find?_some (p := fun rule : ShaderRule => src.startsWith pos (ascii rule.keyword)) h⟩

theorem turn_of_stuck (h : Stuck src rules t.pos) : t.turn src rules = t := by
  obtain ⟨rule, hrule, haction, halone⟩ := h
  simp only [turn, hrule, apply, haction, halone, Bool.false_eq_true, if_false]

/-- Where a keyword is met and something done about it, it is left behind. -/
theorem lt_apply {rule : ShaderRule} (hproper : rule.Proper) (hpos : t.pos < src.size)
    (hat : src.startsWith t.pos (ascii rule.keyword) = true)
    (h : rule.action = .retype → src.standsAlone t.pos (ascii rule.keyword).length = true) :
    t.pos < (t.apply src rule).pos := by
  obtain ⟨b, bs, hkeyword, hb⟩ := hproper
  have hlength : 0 < (ascii rule.keyword).length := by
    rw [hkeyword]
    exact Nat.succ_pos _
  unfold apply
  cases haction : rule.action with
  | replace => exact Nat.lt_add_of_pos_right hlength
  | retype =>
      dsimp only
      rw [if_pos (h haction)]
      exact Nat.lt_add_of_pos_right hlength
  | bind close advance room =>
      -- the keyword does not start with the bracket that is looked for
      rw [hkeyword, ShaderSource.startsWith, Bool.and_eq_true, decide_eq_true_eq] at hat
      have hclosing : t.pos < src.closing (src.size - t.pos) t.pos :=
        ShaderSource.lt_closing (Nat.sub_pos_of_lt hpos) (hat.1 ▸ hb)
      exact Nat.lt_of_lt_of_le hclosing (Nat.le_trans (ShaderSource.le_behindBracket _)
        (ShaderSource.le_behindBracket _))

/-- **One iteration** consumes something exactly if it is not stuck. -/
theorem lt_turn_iff (hproper : ∀ rule ∈ rules, rule.Proper) (hpos : t.pos < src.size) :
    t.pos < (t.turn src rules).pos ↔ ¬ Stuck src rules t.pos := by
  constructor
  · intro hlt hstuck
    rw [turn_of_stuck hstuck] at hlt
    exact Nat.lt_irrefl _ hlt
  · intro hstuck
    unfold turn
    cases hrule : ruleAt src rules t.pos with
    | none => exact Nat.lt_succ_self _
    | some rule =>
        obtain ⟨hmem, hat⟩ := ruleAt_eq_some hrule
        refine lt_apply (hproper rule hmem) hpos hat fun haction => ?_
        by_contra halone
        exact hstuck ⟨rule, hrule, haction, eq_false_of_ne_true halone⟩

theorem loop_body_of_goesOn (h : t.goesOn src = true) :
    (loop src rules).body t = .inr (t.turn src rules) := if_pos h

theorem goesOn_of_inr (h : (loop src rules).body t = .inr u) :
    t.goesOn src = true ∧ u = t.turn src rules := by
  simp only [loop] at h
  split at h
  next hgoes => exact ⟨hgoes, (Sum.inr.inj h).symm⟩
  next => cases h

theorem pos_lt_of_goesOn (h : t.goesOn src = true) : t.pos < src.size :=
  (of_decide_eq_true h).1

/-- **The loop ends exactly if no iteration is stuck.** -/
theorem halts_iff (hproper : ∀ rule ∈ rules, rule.Proper) :
    (loop src rules).Halts t ↔
      ∀ u, (loop src rules).Reaches t u → u.goesOn src = true → ¬ Stuck src rules u.pos := by
  constructor
  · intro hhalts u hu hgoes hstuck
    refine Loop.not_halts_of_stuck hu ?_ hhalts
    rw [loop_body_of_goesOn hgoes, turn_of_stuck hstuck]
  · intro hfree
    -- what is left of the source gets smaller
    refine Loop.halts_of_measure (fun u => src.size - u.pos) fun u v hu hv => ?_
    obtain ⟨hgoes, rfl⟩ := goesOn_of_inr hv
    have hpos := pos_lt_of_goesOn hgoes
    have hlt := (lt_turn_iff hproper hpos).mpr (hfree u hu hgoes)
    omega

end Translation

/-! ## `compileShader` -/

section call
variable {language : ShaderLanguage} {given : Bool} {src : ShaderSource} {a : CompileAnswers}

/-- A translated language is a text. -/
theorem ShaderLanguage.isText_of_rules {rules : List ShaderRule}
    (h : language.rules = some rules) : language.isText = true := by
  cases language with
  | hlsl => rfl
  | msl => rfl
  | glsl => cases h
  | spirv => cases h
  | other => cases h

theorem BytecodeSize.unique {m n : Nat} (hm : BytecodeSize src language m)
    (hn : BytecodeSize src language n) : m = n := by
  cases hm with
  | glsl =>
      cases hn with
      | glsl => rfl
      | translated hrules => cases hrules
      | binary hbinary => cases hbinary
  | binary hbinary =>
      cases hn with
      | glsl => cases hbinary
      | translated hrules =>
          rw [ShaderLanguage.isText_of_rules hrules] at hbinary
          cases hbinary
      | binary => rfl
  | translated hrules ht =>
      cases hn with
      | glsl => cases hrules
      | binary hbinary =>
          rw [ShaderLanguage.isText_of_rules hrules] at hbinary
          cases hbinary
      | translated hrules' ht' =>
          rw [hrules] at hrules'
          cases hrules'
          rw [ht.unique ht']

/-- There is a size wherever the loop ends. -/
theorem exists_bytecodeSize_iff : (∃ size, BytecodeSize src language size) ↔
    ∀ rules, language.rules = some rules →
      (Translation.loop src rules).Halts (.start (language.header src).length) := by
  constructor
  · rintro ⟨size, hsize⟩ rules hrules
    cases hsize with
    | glsl => cases hrules
    | binary hbinary =>
        rw [ShaderLanguage.isText_of_rules hrules] at hbinary
        cases hbinary
    | translated hrules' ht =>
        rw [hrules] at hrules'
        cases hrules'
        exact ⟨_, ht⟩
  · intro h
    cases language with
    | glsl => exact ⟨_, .glsl⟩
    | spirv => exact ⟨_, .binary rfl⟩
    | other => exact ⟨_, .binary rfl⟩
    | hlsl =>
        obtain ⟨t, ht⟩ := h _ rfl
        exact ⟨_, .translated rfl ht⟩
    | msl =>
        obtain ⟨t, ht⟩ := h _ rfl
        exact ⟨_, .translated rfl ht⟩

/-- The call gets to an iteration of the translation loop in this state. -/
def Iterates (language : ShaderLanguage) (given : Bool) (src : ShaderSource) (a : CompileAnswers)
    (rules : List ShaderRule) (t : Translation) : Prop :=
  given = true ∧ src.size ≠ 0 ∧ a.record = true ∧ language.rules = some rules ∧
    (Translation.loop src rules).Reaches (.start (language.header src).length) t ∧
    t.goesOn src = true

/-- The call gets to this line, in which it looks for a uniform. -/
def Searches (language : ShaderLanguage) (given : Bool) (src : ShaderSource) (a : CompileAnswers)
    (line : List UInt8) : Prop :=
  given = true ∧ src.size ≠ 0 ∧ a.record = true ∧ ∃ size data,
    BytecodeSize src language size ∧ a.Maps src size data ∧ line ∈ language.read.lines data

/-- Every iteration consumes a byte at least, and `compileShader` returns with the lock
released. -/
def CompileTerminates (language : ShaderLanguage) (given : Bool) (src : ShaderSource)
    (a : CompileAnswers) : Prop :=
  (∀ rules t, Iterates language given src a rules t → t.pos < (t.turn src rules).pos) ∧
    ∃ o events, CompileShader language given src a o events ∧ LockEvent.Balanced events

theorem exists_compileInternal_iff : (∃ o, CompileInternal language src a o) ↔
    (a.record = true → ∃ size, BytecodeSize src language size ∧
      ∀ data, a.Maps src size data → MetadataEnds language.read data) := by
  constructor
  · rintro ⟨o, h⟩ hrecord
    cases h with
    | noRecord hnone =>
        rw [hrecord] at hnone
        cases hnone
    | compiled _ hsize hends => exact ⟨_, hsize, hends⟩
  · intro h
    cases hrecord : a.record with
    | false => exact ⟨_, .noRecord hrecord⟩
    | true =>
        obtain ⟨size, hsize, hends⟩ := h hrecord
        exact ⟨_, .compiled hrecord hsize hends⟩

theorem exists_compileShader_iff :
    (∃ o events, CompileShader language given src a o events ∧ LockEvent.Balanced events) ↔
      (given = true → src.size ≠ 0 → ∃ o, CompileInternal language src a o) := by
  constructor
  · rintro ⟨o, events, h, -⟩ hgiven hsize
    cases h with
    | refused hrefused =>
        rcases hrefused with hnull | hempty
        · rw [hgiven] at hnull
          cases hnull
        · exact absurd hempty hsize
    | taken _ _ hinternal => exact ⟨o, hinternal⟩
  · intro h
    by_cases htaken : given = true ∧ src.size ≠ 0
    · obtain ⟨o, ho⟩ := h htaken.1 htaken.2
      exact ⟨o, _, .taken htaken.1 htaken.2 ho, LockEvent.balanced_pair⟩
    · rw [not_and_or, Bool.not_eq_true, not_not] at htaken
      exact ⟨_, _, .refused htaken, LockEvent.balanced_nil⟩

/-- `compileShader` returns wherever the loop and the search for uniforms end, and not
otherwise. -/
theorem compileShader_returns_iff :
    (∃ o events, CompileShader language given src a o events ∧ LockEvent.Balanced events) ↔
      (given = true → src.size ≠ 0 → a.record = true → ∀ rules, language.rules = some rules →
        (Translation.loop src rules).Halts (.start (language.header src).length)) ∧
      ∀ line, Searches language given src a line → UniformReading.EndsWithin line := by
  rw [exists_compileShader_iff]
  constructor
  · intro h
    constructor
    · intro hgiven hne hrecord
      obtain ⟨size, hsize, -⟩ := exists_compileInternal_iff.mp (h hgiven hne) hrecord
      exact exists_bytecodeSize_iff.mp ⟨size, hsize⟩
    · rintro line ⟨hgiven, hne, hrecord, size, data, hsize, hmaps, hline⟩
      obtain ⟨size', hsize', hends⟩ := exists_compileInternal_iff.mp (h hgiven hne) hrecord
      exact hends data (hsize'.unique hsize ▸ hmaps) line hline
  · rintro ⟨hhalts, hlines⟩ hgiven hne
    refine exists_compileInternal_iff.mpr fun hrecord => ?_
    obtain ⟨size, hsize⟩ := exists_bytecodeSize_iff.mpr (hhalts hgiven hne hrecord)
    exact ⟨size, hsize, fun data hmaps line hline =>
      hlines line ⟨hgiven, hne, hrecord, size, data, hsize, hmaps, hline⟩⟩

end call

/-- **`compileShader` ends, with a byte consumed by every iteration, exactly if no
iteration finds a type name that is part of a longer identifier**, and the parser of uniforms
ends on every line it is given of the bytecode. -/
theorem compileTerminates_iff (language : ShaderLanguage) (given : Bool) (src : ShaderSource)
    (a : CompileAnswers) :
    CompileTerminates language given src a ↔
      (∀ rules t, Iterates language given src a rules t → ¬ Translation.Stuck src rules t.pos) ∧
        ∀ line, Searches language given src a line → UniformReading.EndsWithin line := by
  have hturn {rules : List ShaderRule} {t : Translation}
      (h : Iterates language given src a rules t) :
      t.pos < (t.turn src rules).pos ↔ ¬ Translation.Stuck src rules t.pos :=
    Translation.lt_turn_iff (ShaderLanguage.proper_rules h.2.2.2.1)
      (Translation.pos_lt_of_goesOn h.2.2.2.2.2)
  constructor
  · rintro ⟨hconsumes, hreturns⟩
    exact ⟨fun rules t ht => (hturn ht).mp (hconsumes rules t ht),
      (compileShader_returns_iff.mp hreturns).2⟩
  · rintro ⟨hfree, hlines⟩
    refine ⟨fun rules t ht => (hturn ht).mpr (hfree rules t ht), ?_⟩
    refine compileShader_returns_iff.mpr ⟨?_, hlines⟩
    intro hgiven hsize hrecord rules hrules
    rw [Translation.halts_iff (ShaderLanguage.proper_rules hrules)]
    exact fun t ht hgoes => hfree rules t ⟨hgiven, hsize, hrecord, hrules, ht, hgoes⟩

/-- `float4x4` starts with the name of another type: the call never returns. -/
theorem float4x4_not_terminates :
    ¬ CompileTerminates .hlsl true (.ofString "float4x4 m;") .granting := by
  rintro ⟨-, hreturns⟩
  have hstuck : Translation.Stuck (.ofString "float4x4 m;") hlslRules 0 :=
    ⟨⟨"float4", "vec4", .retype⟩, by decide, rfl, by decide⟩
  have hhalts := (compileShader_returns_iff.mp hreturns).1 rfl (by decide) rfl hlslRules rfl
  refine Loop.not_halts_of_stuck .refl ?_ hhalts
  rw [Translation.loop_body_of_goesOn (by decide +kernel), Translation.turn_of_stuck hstuck]

end VMQemuVGA
