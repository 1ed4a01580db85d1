import VMQemuVGA.Shader.Termination
import Mathlib.Data.List.TakeWhile

/-! # What is in the bytecode of a shader

The descriptor has the length of what was compiled and the bytes of what was given. For a
translated source the two never agree: the header starts with a `#`, and no rule takes one
away before the first bracket. -/

namespace VMQemuVGA

/-! ## What a source begins with -/

/-- How many `#` stand before the first `[`. -/
def hashes (l : List UInt8) : Nat := (l.takeWhile fun b => decide (b ≠ 0x5B)).count 0x23

theorem hashes_append_of_free {l : List UInt8} (h : 0x5B ∉ l) (k : List UInt8) :
    hashes (l ++ k) = l.count 0x23 + hashes k := by
  have htake : (l ++ k).takeWhile (fun b => decide (b ≠ 0x5B)) =
      l ++ k.takeWhile fun b => decide (b ≠ 0x5B) :=
    List.takeWhile_append_of_pos fun b hb => decide_eq_true fun hb' => h (hb' ▸ hb)
  rw [hashes, htake, List.count_append]
  rfl

theorem hashes_of_free {l : List UInt8} (h : 0x5B ∉ l) : hashes l = l.count 0x23 := by
  have happend := hashes_append_of_free h []
  rwa [List.append_nil] at happend

/-- Behind a bracket nothing counts. -/
theorem hashes_append_of_mem {l : List UInt8} (h : 0x5B ∈ l) (k : List UInt8) :
    hashes (l ++ k) = hashes l := by
  induction l with
  | nil => cases h
  | cons b l ih =>
      by_cases hb : b = 0x5B
      · subst hb
        rfl
      · have hmem : 0x5B ∈ l := (List.mem_cons.mp h).resolve_left fun h => hb h.symm
        have hcons : ∀ m : List UInt8, hashes (b :: m) = [b].count 0x23 + hashes m := fun m =>
          hashes_append_of_free (l := [b]) (fun h => hb (List.mem_singleton.mp h).symm) m
        rw [List.cons_append, hcons, hcons, ih hmem]

theorem hashes_le_append (l k : List UInt8) : hashes l ≤ hashes (l ++ k) := by
  by_cases h : 0x5B ∈ l
  · exact Nat.le_of_eq (hashes_append_of_mem h k).symm
  · rw [hashes_append_of_free h, hashes_of_free h]
    exact Nat.le_add_right _ _

namespace ShaderSource
variable (src : ShaderSource)

theorem length_upTo (n : Nat) : (src.upTo n).length = n := by
  rw [upTo, List.length_map, List.length_range]

theorem upTo_succ (n : Nat) : src.upTo (n + 1) = src.upTo n ++ [src.bytes n] := by
  rw [upTo, List.range_succ, List.map_append]
  rfl

theorem upTo_add (m n : Nat) :
    src.upTo (m + n) = src.upTo m ++ (List.range n).map fun i => src.bytes (m + i) := by
  rw [upTo, List.range_add, List.map_append, List.map_map]
  rfl

theorem upTo_of_le {m n : Nat} (h : m ≤ n) :
    src.upTo n = src.upTo m ++ (List.range (n - m)).map fun i => src.bytes (m + i) := by
  rw [← upTo_add, Nat.add_sub_cancel' h]

variable {src}

/-- The keyword is what is consumed with it. -/
theorem eq_of_startsWith {pos : Nat} {keyword : List UInt8}
    (h : src.startsWith pos keyword = true) :
    ((List.range keyword.length).map fun i => src.bytes (pos + i)) = keyword := by
  induction keyword generalizing pos with
  | nil => rfl
  | cons b bs ih =>
      rw [startsWith, Bool.and_eq_true, decide_eq_true_eq] at h
      rw [List.length_cons, List.range_succ_eq_map, List.map_cons, List.map_map, Nat.add_zero, h.1]
      refine congrArg (b :: ·) (Eq.trans (List.map_congr_left fun i _ => ?_) (ih h.2))
      rw [Function.comp_apply, Nat.succ_eq_add_one, Nat.add_assoc, Nat.add_comm 1 i]

end ShaderSource

/-! ## What the translation keeps -/

/-- What the rules have in common: they neither take a `#` away nor bring a bracket in. -/
def ShaderRule.Keeps (rule : ShaderRule) : Prop :=
  0x23 ∉ ascii rule.keyword ∧ 0x5B ∉ ascii rule.replacement ∧
    match rule.action with
    | .replace | .retype =>
        0x5B ∈ ascii rule.keyword → (ascii rule.keyword).head? = some 0x5B
    | .bind close _ _ => (ascii rule.keyword).head? = some 0x5B ∧ 0x5B ∉ ascii close

theorem keeps_hlslRules : ∀ rule ∈ hlslRules, rule.Keeps := by
  simp only [hlslRules, List.forall_mem_cons, ShaderRule.Keeps]
  and_intros
  all_goals first
    | (rw [ascii_eq rfl]; decide)
    | exact fun rule h => absurd h List.not_mem_nil

theorem keeps_mslRules : ∀ rule ∈ mslRules, rule.Keeps := by
  simp only [mslRules, List.forall_mem_cons, ShaderRule.Keeps]
  and_intros
  all_goals first
    | (rw [ascii_eq rfl]; decide)
    | exact fun rule h => absurd h List.not_mem_nil

theorem ShaderLanguage.keeps_of_mem {language : ShaderLanguage} {rules : List ShaderRule}
    (h : language.rules = some rules) : ∀ rule ∈ rules, rule.Keeps :=
  forall_rules keeps_hlslRules keeps_mslRules h

namespace Translation
variable {src : ShaderSource} {rules : List ShaderRule} {t u : Translation}

/-- What is consumed has no `#` before its first bracket that is not in the text. -/
def Kept (src : ShaderSource) (t : Translation) : Prop :=
  hashes (src.upTo t.pos) ≤ hashes t.out ∧ (0x5B ∉ src.upTo t.pos → 0x5B ∉ t.out)

theorem kept_start (n : Nat) : Kept src (.start n) := ⟨Nat.le_refl _, fun h => h⟩

/-- From a bracket on nothing is asked. -/
theorem Kept.bracket (h : Kept src t) {c e : List UInt8}
    (hpos : src.upTo u.pos = src.upTo t.pos ++ 0x5B :: c) (hout : u.out = t.out ++ e) :
    Kept src u := by
  refine ⟨?_, fun hfree => absurd ?_ hfree⟩
  · have hsame : hashes (src.upTo u.pos) = hashes (src.upTo t.pos) := by
      rw [hpos]
      by_cases hmem : 0x5B ∈ src.upTo t.pos
      · exact hashes_append_of_mem hmem _
      · rw [hashes_append_of_free hmem, hashes_of_free hmem]
        rfl
    rw [hsame, hout]
    exact Nat.le_trans h.1 (hashes_le_append _ _)
  · rw [hpos]
    exact List.mem_append_right _ List.mem_cons_self

theorem Kept.free (h : Kept src t) {c e : List UInt8} (hpos : src.upTo u.pos = src.upTo t.pos ++ c)
    (hout : u.out = t.out ++ e) (he : 0x5B ∉ e) (hcount : c.count 0x23 ≤ e.count 0x23) :
    Kept src u := by
  by_cases hmem : 0x5B ∈ src.upTo t.pos
  · refine ⟨?_, fun hfree => absurd ?_ hfree⟩
    · rw [hpos, hashes_append_of_mem hmem, hout]
      exact Nat.le_trans h.1 (hashes_le_append _ _)
    · rw [hpos]
      exact List.mem_append_left _ hmem
  · have hfree := h.2 hmem
    have hfree' : 0x5B ∉ t.out ++ e := fun h' => (List.mem_append.mp h').elim hfree he
    refine ⟨?_, fun _ => hout ▸ hfree'⟩
    have hle := h.1
    rw [hashes_of_free hmem, hashes_of_free hfree] at hle
    rw [hpos, hout, hashes_of_free hfree', List.count_append, hashes_append_of_free hmem]
    have htail : hashes c ≤ c.count 0x23 :=
      List.Sublist.count_le _ (List.takeWhile_sublist _)
    omega

/-- A bracket at the position is consumed, with whatever else. -/
theorem Kept.skip (h : Kept src t) {e : List UInt8} (hbyte : src.bytes t.pos = 0x5B)
    (hlt : t.pos < u.pos) (hout : u.out = t.out ++ e) : Kept src u := by
  refine h.bracket (c := (List.range (u.pos - (t.pos + 1))).map fun i =>
    src.bytes (t.pos + 1 + i)) ?_ hout
  rw [ShaderSource.upTo_of_le src hlt, ShaderSource.upTo_succ, hbyte, List.append_assoc]
  rfl

/-- What is appended is the text or nothing. -/
theorem exists_emit (text : List UInt8) (t : Translation) :
    ∃ e, (t.emit text).out = t.out ++ e ∧ ∀ b ∈ e, b ∈ text := by
  unfold emit
  split
  · exact ⟨text, rfl, fun _ h => h⟩
  · exact ⟨[], (List.append_nil _).symm, nofun⟩

theorem exists_bindNumber (number : List UInt8) (close : String) (advance room : Nat)
    (t : Translation) : ∃ e, (t.bindNumber number close advance room).out = t.out ++ e := by
  unfold bindNumber
  split
  · exact ⟨_, rfl⟩
  · exact ⟨[], (List.append_nil _).symm⟩

/-- A keyword is consumed and its replacement appended. -/
theorem Kept.replace (h : Kept src t) {rule : ShaderRule} (hhash : 0x23 ∉ ascii rule.keyword)
    (hreplacement : 0x5B ∉ ascii rule.replacement)
    (hhead : 0x5B ∈ ascii rule.keyword → (ascii rule.keyword).head? = some 0x5B)
    (hat : src.startsWith t.pos (ascii rule.keyword) = true) :
    Kept src { t.emit (ascii rule.replacement) with
      pos := t.pos + (ascii rule.keyword).length } := by
  obtain ⟨e, hout, he⟩ := exists_emit (ascii rule.replacement) t
  have hpos : src.upTo (t.pos + (ascii rule.keyword).length) =
      src.upTo t.pos ++ ascii rule.keyword := by
    rw [ShaderSource.upTo_add, ShaderSource.eq_of_startsWith hat]
  by_cases hbracket : 0x5B ∈ ascii rule.keyword
  · obtain ⟨bs, hbs⟩ := List.head?_eq_some_iff.mp (hhead hbracket)
    exact h.bracket (hpos.trans (by rw [hbs])) hout
  · refine h.free hpos hout (fun hmem => hreplacement (he _ hmem)) ?_
    rw [List.count_eq_zero_of_not_mem hhash]
    exact Nat.zero_le _

theorem Kept.apply (h : Kept src t) {rule : ShaderRule} (hkeeps : rule.Keeps)
    (hproper : rule.Proper) (hsize : t.pos < src.size)
    (hat : src.startsWith t.pos (ascii rule.keyword) = true) : Kept src (t.apply src rule) := by
  obtain ⟨hhash, hreplacement, hrest⟩ := hkeeps
  have hlt : rule.action ≠ .retype → t.pos < (t.apply src rule).pos := fun hne =>
    lt_apply hproper hsize hat fun heq => absurd heq hne
  unfold Translation.apply at hlt ⊢
  cases haction : rule.action with
  | replace =>
      rw [haction] at hrest
      exact h.replace hhash hreplacement hrest hat
  | retype =>
      rw [haction] at hrest
      dsimp only
      split
      · exact h.replace hhash hreplacement hrest hat
      · exact h
  | bind close advance room =>
      -- the keyword starts with the bracket
      rw [haction] at hrest hlt
      obtain ⟨bs, hbs⟩ := List.head?_eq_some_iff.mp hrest.1
      have hbyte : src.bytes t.pos = 0x5B := by
        rw [hbs, ShaderSource.startsWith, Bool.and_eq_true, decide_eq_true_eq] at hat
        exact hat.1
      obtain ⟨e, hemit, -⟩ := exists_emit (ascii rule.replacement) t
      obtain ⟨e', hbind⟩ := exists_bindNumber
        (src.digits 7 (t.pos + (ascii rule.keyword).length)) close advance room
        (t.emit (ascii rule.replacement))
      rw [hemit, List.append_assoc] at hbind
      exact h.skip hbyte (hlt (by intro h; cases h)) hbind

theorem Kept.turn (h : Kept src t) (hkeeps : ∀ rule ∈ rules, rule.Keeps)
    (hproper : ∀ rule ∈ rules, rule.Proper) (hsize : t.pos < src.size) :
    Kept src (t.turn src rules) := by
  unfold Translation.turn
  cases hrule : ruleAt src rules t.pos with
  | some rule =>
      obtain ⟨hmem, hat⟩ := ruleAt_eq_some hrule
      exact h.apply (hkeeps rule hmem) (hproper rule hmem) hsize hat
  | none =>
      by_cases hbracket : src.bytes t.pos = 0x5B
      · exact h.bracket (c := []) (by rw [ShaderSource.upTo_succ, hbracket]) rfl
      · exact h.free (ShaderSource.upTo_succ src t.pos) rfl
          (fun hmem => hbracket (List.mem_singleton.mp hmem).symm) (Nat.le_refl _)

theorem kept_of_returns {language : ShaderLanguage} (hrules : language.rules = some rules)
    (h : (loop src rules).Returns t u) (ht : Kept src t) : Kept src u := by
  obtain ⟨v, hreach, hbody⟩ := h.exists_reaches
  have hv : Kept src v := hreach.keeps (fun w x hw hx => by
    obtain ⟨hgoes, rfl⟩ := goesOn_of_inr hx
    exact hw.turn (ShaderLanguage.keeps_of_mem hrules) (ShaderLanguage.proper_rules hrules)
      (pos_lt_of_goesOn hgoes)) ht
  simp only [loop] at hbody
  split at hbody
  · cases hbody
  · cases hbody
    exact hv

end Translation

/-! ## Headers -/

theorem not_mem_decimal (n : Nat) : 0x5B ∉ decimal n := by
  rw [decimal, List.mem_map]
  rintro ⟨c, hc, hbyte⟩
  have hdigit := Nat.isDigit_of_mem_toDigits (by decide) (by decide) hc
  rw [Char.isDigit, Bool.and_eq_true, decide_eq_true_eq, decide_eq_true_eq] at hdigit
  have hlow : 48 ≤ c.toNat := hdigit.1
  have hhigh : c.toNat ≤ 57 := hdigit.2
  have hnat := congrArg UInt8.toNat hbyte
  rw [UInt8.toNat_ofNat', Nat.mod_eq_of_lt (by omega)] at hnat
  have hvalue : (0x5B : UInt8).toNat = 91 := rfl
  omega

theorem not_mem_yesNo (b : Bool) : 0x5B ∉ yesNo b := by
  cases b
  · rw [yesNo, if_neg Bool.false_ne_true, ascii_eq rfl]
    decide
  · rw [yesNo, if_pos rfl, ascii_eq rfl]
    decide

namespace ShaderSource
variable (src : ShaderSource)

theorem not_mem_hlslHeader : 0x5B ∉ src.hlslHeader := by
  unfold hlslHeader
  simp only [List.mem_append, not_or, not_mem_decimal, not_false_eq_true, and_true]
  and_intros
  all_goals first
    | (rw [ascii_eq rfl]; decide)
    | (split
       · rw [ascii_eq rfl]
         decide
       · exact List.not_mem_nil)

theorem not_mem_mslHeader : 0x5B ∉ src.mslHeader := by
  unfold mslHeader
  simp only [List.mem_append, not_or, not_mem_decimal, not_mem_yesNo, not_false_eq_true, and_true]
  and_intros
  all_goals first
    | (rw [ascii_eq rfl]; decide)
    | (split
       · rw [ascii_eq rfl]
         decide
       · exact List.not_mem_nil)

theorem mem_hlslHeader : 0x23 ∈ src.hlslHeader := by
  have hversion : 0x23 ∈ ascii "#version " := by
    rw [ascii_eq rfl]
    decide
  unfold hlslHeader
  simp only [List.mem_append, hversion, true_or]

theorem mem_mslHeader : 0x23 ∈ src.mslHeader := by
  have hversion : 0x23 ∈ ascii "#version " := by
    rw [ascii_eq rfl]
    decide
  unfold mslHeader
  simp only [List.mem_append, hversion, true_or]

end ShaderSource

/-- There is a `#` in a header, and no bracket. -/
theorem ShaderLanguage.header_spec (src : ShaderSource) {language : ShaderLanguage}
    {rules : List ShaderRule} (h : language.rules = some rules) :
    0x5B ∉ language.header src ∧ 0x23 ∈ language.header src := by
  cases language with
  | glsl => cases h
  | spirv => cases h
  | other => cases h
  | hlsl => exact ⟨src.not_mem_hlslHeader, src.mem_hlslHeader⟩
  | msl => exact ⟨src.not_mem_mslHeader, src.mem_mslHeader⟩

/-- **No source begins with its own translation**, header and all. -/
theorem not_prefix_of_returns {language : ShaderLanguage} {rules : List ShaderRule}
    {src : ShaderSource} {t : Translation} (hrules : language.rules = some rules)
    (h : (Translation.loop src rules).Returns (.start (language.header src).length) t)
    (hwhole : src.size ≤ t.pos) : ¬ language.header src ++ t.out <+: src.text := by
  rintro ⟨tail, htail⟩
  obtain ⟨hfree, hhash⟩ := ShaderLanguage.header_spec src hrules
  have hkept := (Translation.kept_of_returns hrules h (Translation.kept_start _)).1
  rw [ShaderSource.upTo_of_le src hwhole] at hkept
  have hsource := Nat.le_trans (hashes_le_append _ _) hkept
  have hcount := List.count_pos_iff.mpr hhash
  have hout := hashes_le_append t.out tail
  change hashes src.text ≤ _ at hsource
  rw [← htail, List.append_assoc, hashes_append_of_free hfree] at hsource
  omega

/-! ## What is right -/

/-- The compiled program. -/
def IsProgram (language : ShaderLanguage) (src : ShaderSource) (p : List UInt8) : Prop :=
  match language.rules with
  | none => p = src.text
  | some rules =>
      ∃ t, (Translation.loop src rules).Returns (.start (language.header src).length) t ∧
        src.size ≤ t.pos ∧ p = language.header src ++ t.out

/-- A success with the program in the descriptor, all of it and nothing else, or an error
with nothing left behind. -/
def Compiled.Right (language : ShaderLanguage) (src : ShaderSource) (o : Compiled) : Prop :=
  if o.ret = .success then
    ∃ p, IsProgram language src p ∧ o.bytecode = some ⟨p.length, p⟩ ∧ o.bytecodeSize = p.length
  else o.objects = []

/-- What a call must be given for that. -/
def BytecodeKept (language : ShaderLanguage) (given : Bool) (src : ShaderSource)
    (a : CompileAnswers) : Prop :=
  given = true → src.size ≠ 0 → a.record = true →
    if a.bytecode then
      match language with
      | .glsl => src.size ≤ 32767 ∧ 0 ∉ src.text
      | .hlsl | .msl => False
      | .spirv | .other => src.size < u32
    else a.arrays = []

theorem length_text (src : ShaderSource) : src.text.length = src.size := src.length_upTo _

/-- A C string is the whole list only if there is no zero in it. -/
theorem cString_eq_self {l : List UInt8} : cString l = l ↔ 0 ∉ l := by
  rw [cString, List.takeWhile_eq_self_iff]
  constructor
  · intro h hmem
    exact of_decide_eq_true (h 0 hmem) rfl
  · intro h b hb
    exact decide_eq_true fun hzero => h (hzero ▸ hb)

theorem length_cString_le (l : List UInt8) : (cString l).length ≤ l.length :=
  (List.takeWhile_sublist _).length_le

/-- The prefix before the first zero is as long as the list only if it is the list. -/
theorem length_cString_eq {l : List UInt8} : (cString l).length = l.length ↔ 0 ∉ l := by
  rw [← cString_eq_self]
  refine ⟨fun h => ?_, fun h => congrArg List.length h⟩
  exact (List.takeWhile_sublist _).eq_of_length h

/-- The work buffer gives the length of a source that fits and has no zero in it. -/
theorem glsl_size_eq_iff (src : ShaderSource) :
    (cString (src.text.take 32767)).length = src.size ↔ src.size ≤ 32767 ∧ 0 ∉ src.text := by
  constructor
  · intro h
    have hle := length_cString_le (src.text.take 32767)
    rw [h, List.length_take, length_text] at hle
    have hfits : src.size ≤ 32767 := Nat.le_trans hle (Nat.min_le_left _ _)
    rw [List.take_of_length_le (by rw [length_text]; exact hfits), ← length_text,
      length_cString_eq] at h
    exact ⟨hfits, h⟩
  · rintro ⟨hfits, hfree⟩
    rw [List.take_of_length_le (by rw [length_text]; exact hfits), length_cString_eq.mpr hfree,
      length_text]

/-- A descriptor with the source in it holds this text and no more. -/
theorem ofSource_eq_iff {src : ShaderSource} {size : Nat} {p : List UInt8} :
    Bytecode.ofSource src size = ⟨p.length, p⟩ ↔ size = p.length ∧ p <+: src.text := by
  rw [Bytecode.ofSource, Bytecode.mk.injEq]
  refine and_congr_right fun hsize => ?_
  rw [hsize, eq_comm, List.prefix_iff_eq_take]

/-- What is right of a source whose bytes are the program. -/
theorem right_of_untranslated {language : ShaderLanguage} {src : ShaderSource} {a : CompileAnswers}
    {size : Nat} (hrules : language.rules = none) (ha : a.bytecode = true) :
    (compileWithSize src a size).Right language src ↔ size = src.size ∧ src.size < u32 := by
  have hsuccess : (compileWithSize src a size) =
      ⟨.success, some (.ofSource src size), size % u32, .record :: (a.arrays ++ [.bytecode])⟩ :=
    if_pos ha
  rw [hsuccess, Compiled.Right, if_pos rfl]
  simp only [IsProgram, hrules, Option.some.injEq, ofSource_eq_iff, exists_eq_left, length_text,
    List.prefix_rfl, and_true]
  refine and_congr_right fun hsize => ?_
  rw [hsize]
  exact ⟨fun h => h ▸ Nat.mod_lt _ (by decide), Nat.mod_eq_of_lt⟩

theorem not_right_of_translated {language : ShaderLanguage} {rules : List ShaderRule}
    {src : ShaderSource} {a : CompileAnswers} {size : Nat} (hrules : language.rules = some rules)
    (ha : a.bytecode = true) : ¬ (compileWithSize src a size).Right language src := by
  have hsuccess : (compileWithSize src a size) =
      ⟨.success, some (.ofSource src size), size % u32, .record :: (a.arrays ++ [.bytecode])⟩ :=
    if_pos ha
  rw [hsuccess, Compiled.Right, if_pos rfl]
  rintro ⟨p, hp, hbytecode, -⟩
  simp only [IsProgram, hrules] at hp
  obtain ⟨t, ht, hwhole, rfl⟩ := hp
  exact not_prefix_of_returns hrules ht hwhole (ofSource_eq_iff.mp (Option.some.inj hbytecode)).2

theorem right_of_no_bytecode {language : ShaderLanguage} {src : ShaderSource} {a : CompileAnswers}
    {size : Nat} (ha : a.bytecode = false) :
    (compileWithSize src a size).Right language src ↔ a.arrays = [] := by
  have hfailed : compileWithSize src a size = ⟨.noMemory, none, 0, a.arrays⟩ :=
    if_neg (by rw [ha]; exact Bool.false_ne_true)
  rw [hfailed, Compiled.Right, if_neg nofun]

/-- **A call leaves the right bytecode, or nothing, exactly if** it was refused or had no
record, or the source is in GLSL and neither too long for the work buffer nor with a zero
in it, or in SPIR-V and shorter than 4 GiB, or there was no descriptor and none of the
arrays either. -/
theorem compiled_right_iff {language : ShaderLanguage} {given : Bool} {src : ShaderSource}
    {a : CompileAnswers} {o : Compiled} {events : LockTrace}
    (h : CompileShader language given src a o events) :
    o.Right language src ↔ BytecodeKept language given src a := by
  unfold BytecodeKept
  cases h with
  | refused hrefused =>
      refine iff_of_true ?_ fun hgiven hsize => ?_
      · rw [Compiled.Right, if_neg nofun]
      · rcases hrefused with hnull | hempty
        · rw [hgiven] at hnull
          cases hnull
        · exact absurd hempty hsize
  | taken hgiven hsize hinternal =>
      simp only [hgiven, hsize, ne_eq, not_false_eq_true, forall_const]
      cases hinternal with
      | noRecord hrecord =>
          refine iff_of_true ?_ fun hrecord' => ?_
          · rw [Compiled.Right, if_neg nofun]
          · rw [hrecord] at hrecord'
            cases hrecord'
      | compiled hrecord hbytes =>
          rw [forall_prop_of_true hrecord]
          cases ha : a.bytecode with
          | false => exact right_of_no_bytecode ha
          | true =>
              rw [if_pos rfl]
              cases hbytes with
              | glsl =>
                  rw [right_of_untranslated rfl ha, glsl_size_eq_iff]
                  refine and_iff_left_of_imp fun hfits => ?_
                  rw [u32_eq]
                  omega
              | binary hbinary =>
                  cases language with
                  | glsl => cases hbinary
                  | hlsl => cases hbinary
                  | msl => cases hbinary
                  | spirv =>
                      rw [right_of_untranslated rfl ha]
                      exact and_iff_right rfl
                  | other =>
                      rw [right_of_untranslated rfl ha]
                      exact and_iff_right rfl
              | translated hrules =>
                  refine iff_of_false (not_right_of_translated hrules ha) ?_
                  cases language with
                  | hlsl => exact id
                  | msl => exact id
                  | glsl => cases hrules
                  | spirv => cases hrules
                  | other => cases hrules

/-- With all that is asked for, a source with nothing to look for in its bytecode is
compiled. -/
theorem compileShader_of_lines {language : ShaderLanguage} (src : ShaderSource) {size : Nat}
    (hne : src.size ≠ 0) (hsize : BytecodeSize src language size)
    (hlines : BytecodeLanguage.lines ((Bytecode.ofSource src size).memory fun _ => 0) .text = []) :
    CompileShader language true src .granting (compileWithSize src .granting size)
      [.lock, .unlock] := by
  refine .taken rfl hne (.compiled rfl hsize ?_)
  rintro data ⟨-, -, rfl⟩ line hline
  cases hread : language.read with
  | text =>
      rw [hread] at hline
      have hnone : line ∈ BytecodeLanguage.lines
        ((Bytecode.ofSource src size).memory fun _ => 0) .text := hline
      rw [hlines] at hnone
      cases hnone
  | spirv =>
      rw [hread] at hline
      cases hline
  | other =>
      rw [hread] at hline
      cases hline

/-- A short GLSL source is kept. -/
theorem compiled_right_glsl :
    ∃ o events, CompileShader .glsl true (.ofString "void main(){}") .granting o events ∧
      o.Right .glsl (.ofString "void main(){}") := by
  have h := compileShader_of_lines (.ofString "void main(){}") (by decide) .glsl
    (by decide)
  exact ⟨_, _, h, (compiled_right_iff h).mpr fun _ _ _ => by decide⟩

/-- The bytecode of an HLSL source is not its translation. -/
theorem hlsl_not_right :
    ∃ o events, CompileShader .hlsl true (.ofString "float4 c;") .granting o events ∧
      ¬ o.Right .hlsl (.ofString "float4 c;") := by
  have hends : ((Translation.loop (.ofString "float4 c;") hlslRules).run 10
      (.start (ShaderLanguage.header (.ofString "float4 c;") .hlsl).length)).any (fun t =>
        decide (BytecodeLanguage.lines ((Bytecode.ofSource (.ofString "float4 c;") (cString
          (ShaderLanguage.header (.ofString "float4 c;") .hlsl ++ t.out)).length).memory
            fun _ => 0) .text = [])) = true := by
    decide +kernel
  obtain ⟨t, ht, hlines⟩ := (Option.any_eq_true _ _).mp hends
  exact ⟨_, _, compileShader_of_lines _ (by decide) (.translated rfl ⟨10, ht⟩)
    (of_decide_eq_true hlines), not_right_of_translated rfl rfl⟩

end VMQemuVGA
