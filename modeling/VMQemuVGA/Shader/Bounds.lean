import VMQemuVGA.Shader.Overrun
import VMQemuVGA.Shader.WorkBuffer

/-! # The bounds of a compilation

`compileShaderInternal` reads the source and reads and writes the work buffer. Its loops test
where they are; what can go past an end is a comparison at the end of the source, an
instruction that is only there in part, a number for which there is no room, and a search
behind a `return;` or behind a block. -/

namespace VMQemuVGA

/-! ## What is touched -/

/-- A byte of the source is read, or one of the work buffer is read or written. -/
inductive ShaderAccess where
  | source (i : Nat)
  | read (i : Nat)
  | write (i : Nat)
  deriving DecidableEq, Repr

/-- The byte is one of those that are there. -/
def ShaderAccess.Inside (size : Nat) : ShaderAccess → Prop
  | .source i => i < size
  | .read i | .write i => i < 32768

/-- The work buffer with a text at its start, and the memory behind it. -/
def workBuffer (text : List UInt8) (size : Nat) (behind : Nat → UInt8) : ShaderSource :=
  ⟨fun i => if i < 32768 then text.getD i 0 else behind i, size⟩

/-- What the optimizer scans: `compiled_source`, and `compiled_size`. -/
inductive WorkText (src : ShaderSource) (behind : Nat → UInt8) :
    ShaderLanguage → ShaderSource → Prop
  | glsl : WorkText src behind .glsl
      (workBuffer (src.text.take 32767) (min src.size 32767) behind)
  | translated {language : ShaderLanguage} {rules : List ShaderRule} {t : Translation} :
      language.rules = some rules →
      (Translation.loop src rules).Returns (.start (language.header src).length) t →
      WorkText src behind language (workBuffer (language.header src ++ t.out)
        (cString (language.header src ++ t.out)).length behind)

/-- An iteration of the translation loop. -/
def Translates (language : ShaderLanguage) (src : ShaderSource) (rules : List ShaderRule)
    (t : Translation) : Prop :=
  language.rules = some rules ∧
    (Translation.loop src rules).Reaches (.start (language.header src).length) t ∧
    t.goesOn src = true

/-- A compilation that has got its record touches this byte. -/
inductive Touches (language : ShaderLanguage) (src : ShaderSource) (a : CompileAnswers)
    (behind : Nat → UInt8) : ShaderAccess → Prop
  | preprocess {i : Nat} : language.isText = true →
      i ∈ src.preprocessReads 0 src.preprocessed → Touches language src a behind (.source i)
  | analyse {line : Nat × Nat} {i : Nat} : line ∈ src.analysed →
      i ∈ src.analysisReads line language → Touches language src a behind (.source i)
  /-- `strlcpy` of the header -/
  | header {i : Nat} : language.rules.isSome = true → i ≤ (language.header src).length →
      Touches language src a behind (.write i)
  | turn {rules : List ShaderRule} {t : Translation} {i : Nat} :
      Translates language src rules t → i ∈ t.turnReads src rules →
      Touches language src a behind (.source i)
  | turnRead {rules : List ShaderRule} {t : Translation} {i : Nat} :
      Translates language src rules t →
      i ∈ t.turnBufferReads src rules (language.header src).length →
      Touches language src a behind (.read i)
  | turnWrite {rules : List ShaderRule} {t : Translation} {i : Nat} :
      Translates language src rules t →
      i ∈ t.turnWrites src rules (language.header src).length →
      Touches language src a behind (.write i)
  /-- `*dst_ptr = '\0'` behind the loop -/
  | close {rules : List ShaderRule} {t : Translation} : language.rules = some rules →
      (Translation.loop src rules).Returns (.start (language.header src).length) t →
      Touches language src a behind (.write (t.dst (language.header src).length))
  /-- `memcpy` of a source in GLSL -/
  | copy {i : Nat} : language = .glsl → i < min src.size 32767 →
      Touches language src a behind (.source i)
  | copied {i : Nat} : language = .glsl → i ≤ min src.size 32767 →
      Touches language src a behind (.write i)
  | scan {work : ShaderSource} {i : Nat} : WorkText src behind language work →
      i ∈ work.workReads → Touches language src a behind (.read i)
  | walk {i : Nat} : language = .spirv → i ∈ src.spirvReads →
      Touches language src a behind (.source i)
  /-- `writeBytes` to the descriptor -/
  | bytecode {size i : Nat} : a.bytecode = true → BytecodeSize src language size →
      i < min size src.size → Touches language src a behind (.source i)

/-- Without a record nothing is touched. -/
def CompileTouches (language : ShaderLanguage) (src : ShaderSource) (a : CompileAnswers)
    (behind : Nat → UInt8) (access : ShaderAccess) : Prop :=
  a.record = true ∧ Touches language src a behind access

/-- What keeps the compilation inside. -/
structure Contained (language : ShaderLanguage) (src : ShaderSource) (behind : Nat → UInt8) :
    Prop where
  /-- No name of a directive is cut off where it is compared. -/
  directives : language.isText = true → ∀ line ∈ src.preprocessed, ∀ pos,
    src.directive line = some pos → ∀ word ∈ Probe.tried src.bytes pos ShaderSource.directives,
      ¬ Probe.CutOff src.bytes src.size pos word
  /-- No keyword is cut off where it is compared. -/
  keywords : ∀ rules t, Translates language src rules t → ∀ word ∈ t.triedKeywords src rules,
    ¬ Probe.CutOff src.bytes src.size t.pos word
  /-- Behind a number that is too long the loop does nothing any more. -/
  numbers : ∀ rules t, Translates language src rules t → t.Overruns src rules →
    (t.turn src rules).Idle src rules
  searches : ∀ work, WorkText src behind language work → work.SearchesEnd
  /-- The walk does not come to an instruction that is only there in part. -/
  instructions : language = .spirv → src.hasMagic = true →
    src.size % 4 = 0 ∨ src.size / 4 ∉ src.visited 10000 5

/-! ## One iteration -/

namespace Translation
variable {src : ShaderSource} {rules : List ShaderRule} {t : Translation}

/-- Only keywords are compared behind the end. -/
theorem within_turnReads_iff (hgoes : t.goesOn src = true) :
    Within src.size (t.turnReads src rules) ↔
      ∀ word ∈ t.triedKeywords src rules, ¬ Probe.CutOff src.bytes src.size t.pos word := by
  have hpos : t.pos < src.size := pos_lt_of_goesOn hgoes
  rw [turnReads, within_cons, within_append, and_iff_right hpos, triedKeywords,
    Probe.within_tried_iff (Nat.le_of_lt hpos)]
  refine and_iff_left_of_imp fun _ => ?_
  cases ruleAt src rules t.pos with
  | none => exact within_nil
  | some rule =>
      dsimp only
      cases rule.action with
      | replace => exact within_nil
      | retype => exact ShaderSource.within_aloneReads hpos
      | bind close advance room =>
          dsimp only
          rw [within_append]
          exact ⟨ShaderSource.within_digitReads, ShaderSource.within_bracketReads⟩

end Translation

/-! ## The buffer -/

section buffer
variable {language : ShaderLanguage} {src : ShaderSource} {behind : Nat → UInt8}

/-- The last byte of the buffer stays zero. -/
theorem bytes_workBuffer {text : List UInt8} {size : Nat} (h : text.length ≤ 32767) :
    (workBuffer text size behind).bytes 32767 = 0 := by
  show (if 32767 < 32768 then text.getD 32767 0 else behind 32767) = 0
  rw [if_pos (by decide), List.getD_eq_getElem?_getD, List.getElem?_eq_none h]
  rfl

theorem WorkText.bounds {work : ShaderSource} (h : WorkText src behind language work)
    (hfits : ∀ rules t, language.rules = some rules →
      (Translation.loop src rules).Returns (.start (language.header src).length) t →
      t.Fits (language.header src).length) :
    work.size ≤ 32767 ∧ work.bytes 32767 = 0 := by
  cases h with
  | glsl => exact ⟨Nat.min_le_right _ _, bytes_workBuffer (List.length_take_le _ _)⟩
  | @translated _ rules t hrules ht =>
      have hlength : (language.header src ++ t.out).length ≤ 32767 := by
        have h := hfits _ _ hrules ht
        rw [Translation.Fits, Translation.dst] at h
        rw [List.length_append]
        exact Nat.le_trans (Nat.le_add_right _ _) (Nat.le_of_eq h)
      exact ⟨Nat.le_trans (List.takeWhile_sublist _).length_le hlength, bytes_workBuffer hlength⟩

end buffer

/-! ## All of it -/

section compile
variable {language : ShaderLanguage} {src : ShaderSource} {a : CompileAnswers}
  {behind : Nat → UInt8}

/-- What is written in all runs of the loop. -/
theorem numbers_iff :
    (∀ rules, language.rules = some rules →
      (∀ t, (Translation.loop src rules).Reaches (.start (language.header src).length) t →
        t.goesOn src = true →
        Within 32768 (t.turnWrites src rules (language.header src).length)) ∧
      ∀ t, (Translation.loop src rules).Returns (.start (language.header src).length) t →
        t.dst (language.header src).length < 32768) ↔
      ∀ rules t, Translates language src rules t → t.Overruns src rules →
        (t.turn src rules).Idle src rules := by
  constructor
  · rintro h rules t ⟨hrules, hreach, hgoes⟩
    exact (Translation.within_iff (ShaderLanguage.snug_of_mem hrules)
      (language.length_header_lt src)).mp (h rules hrules) t hreach hgoes
  · intro h rules hrules
    exact (Translation.within_iff (ShaderLanguage.snug_of_mem hrules)
      (language.length_header_lt src)).mpr fun t hreach hgoes => h rules t ⟨hrules, hreach, hgoes⟩

theorem fits_of_contained
    (h : ∀ rules t, Translates language src rules t → t.Overruns src rules →
      (t.turn src rules).Idle src rules) (rules : List ShaderRule) (t : Translation)
    (hrules : language.rules = some rules)
    (hreturns : (Translation.loop src rules).Returns (.start (language.header src).length) t) :
    t.Fits (language.header src).length :=
  Translation.fits_of_returns (ShaderLanguage.snug_of_mem hrules) (language.length_header_lt src)
    (fun u hreach hgoes => h rules u ⟨hrules, hreach, hgoes⟩) hreturns

/-- What is inside has to be contained. -/
theorem contained_of_inside
    (h : ∀ access, Touches language src a behind access → access.Inside src.size) :
    Contained language src behind := by
  have hnumbers : ∀ rules t, Translates language src rules t → t.Overruns src rules →
      (t.turn src rules).Idle src rules :=
    numbers_iff.mp fun rules hrules =>
      ⟨fun t hreach hgoes i hi => h (.write i) (.turnWrite ⟨hrules, hreach, hgoes⟩ hi),
        fun t hreturns => h (.write _) (.close hrules hreturns)⟩
  constructor
  · intro htext
    refine (ShaderSource.within_preprocessReads_iff fun line hline =>
      ShaderSource.line_le hline).mp fun i hi => h (.source i) (.preprocess htext hi)
  · intro rules t ht
    exact (Translation.within_turnReads_iff ht.2.2).mp fun i hi => h (.source i) (.turn ht hi)
  · exact hnumbers
  · intro work hwork
    obtain ⟨hsize, hlast⟩ := hwork.bounds (fits_of_contained hnumbers)
    exact (ShaderSource.within_workReads_iff hsize hlast).mp
      fun i hi => h (.read i) (.scan hwork hi)
  · intro hspirv
    exact ShaderSource.within_spirvReads_iff.mp fun i hi => h (.source i) (.walk hspirv hi)

/-- What is contained touches nothing outside. -/
theorem inside_of_contained (h : Contained language src behind) {access : ShaderAccess}
    (htouches : Touches language src a behind access) : access.Inside src.size := by
  have hsettled {rules : List ShaderRule} {t : Translation} (ht : Translates language src rules t) :
      t.Settled src rules (language.header src).length :=
    Translation.settled_of_idle (ShaderLanguage.snug_of_mem ht.1) (language.length_header_lt src)
      (fun u hreach hgoes _ => h.numbers rules u ⟨ht.1, hreach, hgoes⟩) ht.2.1
  have hheader := language.length_header_lt src
  cases htouches with
  | @preprocess i htext hi =>
      exact (ShaderSource.within_preprocessReads_iff fun line hline =>
        ShaderSource.line_le hline).mpr (h.directives htext) i hi
  | @analyse line i hline hi =>
      exact ShaderSource.within_analysisReads language (ShaderSource.line_le hline) i hi
  | @header i _ hi => exact Nat.lt_of_le_of_lt hi (Nat.lt_trans hheader (by decide))
  | @turn rules t i ht hi =>
      exact (Translation.within_turnReads_iff ht.2.2).mpr (h.keywords rules t ht) i hi
  | @turnRead rules t i ht hi => exact Translation.within_turnBufferReads (hsettled ht) ht.2.2 i hi
  | @turnWrite rules t i ht hi => exact Translation.within_turnWrites (hsettled ht) ht.2.2 i hi
  | @close rules t hrules hreturns => exact (numbers_iff.mpr h.numbers rules hrules).2 t hreturns
  | @copy i _ hi => exact Nat.lt_of_lt_of_le hi (Nat.min_le_left _ _)
  | @copied i _ hi =>
      exact Nat.lt_of_le_of_lt (Nat.le_trans hi (Nat.min_le_right _ _)) (by decide)
  | @scan work i hwork hi =>
      obtain ⟨hsize, hlast⟩ := hwork.bounds (fits_of_contained h.numbers)
      exact (ShaderSource.within_workReads_iff hsize hlast).mpr (h.searches work hwork) i hi
  | @walk i hspirv hi => exact ShaderSource.within_spirvReads_iff.mpr (h.instructions hspirv) i hi
  | @bytecode size i _ _ hi => exact Nat.lt_of_lt_of_le hi (Nat.min_le_right _ _)

end compile

/-- **`compileShaderInternal` touches no byte outside exactly if no word is cut off where it
is compared**, nothing is written behind a number that is too long, the searches behind a
`return;` and behind a block end in the buffer, and no instruction is there only in part. -/
theorem compileTouches_inside_iff (language : ShaderLanguage) (src : ShaderSource)
    (a : CompileAnswers) (behind : Nat → UInt8) :
    (∀ access, CompileTouches language src a behind access → access.Inside src.size) ↔
      (a.record = true → Contained language src behind) := by
  constructor
  · intro h hrecord
    exact contained_of_inside fun access htouches => h access ⟨hrecord, htouches⟩
  · rintro h access ⟨hrecord, htouches⟩
    exact inside_of_contained (h hrecord) htouches

/-- The one byte of `#` is followed by a comparison with `version`. -/
theorem hash_not_inside : ¬ ∀ access,
    CompileTouches .glsl (.ofString "#") .granting (fun _ => 0) access → access.Inside 1 := by
  intro h
  have hread : 1 ∈ (ShaderSource.ofString "#").preprocessReads 0
      (ShaderSource.ofString "#").preprocessed := by decide
  exact absurd (h (.source 1) ⟨rfl, .preprocess rfl hread⟩) (Nat.lt_irrefl 1)

end VMQemuVGA
