import VMQemuVGA.Shader.Accesses

/-! # Scans of the work buffer

The optimizer looks for control flow in the compiled text. Its loops stop at the end of the
text, and the text ends in the buffer. `strnstr_local` does not stop there: it looks as
far as its window goes, and a window may begin anywhere in the text where the search is for
what stands behind a `return` or behind a block. -/

namespace VMQemuVGA

namespace ShaderSource
variable (work : ShaderSource)

/-- `if (strnstr_local(ptr, keyword, length))`. -/
def whereFound (keyword : String) (length pos : Nat) (then_ : List Nat) : List Nat :=
  work.searchReads keyword (pos, length) ++ if work.finds keyword (pos, length) then then_ else []

/-! ## Control flow -/

/-- Phase A, at one place: how far the first keywords are. -/
def patternReads (pos : Nat) : List Nat :=
  ["if (", "for (", "while (", "do \x7b", "return"].flatMap (work.searchReads · (pos, 50))

def inStatement (b : UInt8) : Bool := !decide (b = 0x3B ∨ b = 0x0A)

def isSpace (b : UInt8) : Bool := decide (b = 0x20 ∨ b = 0x09 ∨ b = 0x0A)

/-- What is looked for behind a `return;`, and in how many bytes. -/
def afterReturnKeywords : List (String × Nat) := [("\x7d", 5), ("else", 10), ("case", 10)]

/-- `return_end`. -/
def returnEnd (pos : Nat) : Nat := work.skip inStatement work.size pos

/-- `after_return`. -/
def afterReturn (pos : Nat) : Nat := work.skip isSpace work.size (work.returnEnd pos + 1)

/-- There is something else behind the `return;`. -/
def goesOnBehind (pos : Nat) : Prop :=
  work.afterReturn pos < work.size ∧ work.bytes (work.afterReturn pos) ≠ 0x7D ∧
    work.bytes (work.afterReturn pos) ≠ 0

instance (pos : Nat) : Decidable (work.goesOnBehind pos) := inferInstanceAs (Decidable (_ ∧ _))

def isOperator (b : UInt8) : Bool := decide (b = 0x28 ∨ b = 0x2B ∨ b = 0x2A ∨ b = 0x2F)

/-- The expression is read until it is complex enough. -/
def expressionReads : Nat → Nat → Nat → List Nat
  | 0, _, _ => []
  | n + 1, pos, complexity =>
      if complexity < 50 then
        pos :: expressionReads n (pos + 1)
          (if isOperator (work.bytes pos) then complexity + 1 else complexity)
      else []

/-- Behind `return;`. -/
def afterReturnReads (pos : Nat) : List Nat :=
  work.skipReads isSpace work.size (work.returnEnd pos + 1) ++
    peekReads work.size (work.afterReturn pos) ++
    if work.goesOnBehind pos then work.searchEach (work.afterReturn pos) afterReturnKeywords else []

def returnReads (pos : Nat) : List Nat :=
  work.whereFound "return" 100 pos
    (work.skipReads inStatement work.size pos ++ work.searchReads "return;" (pos, 20) ++
      if work.finds "return;" (pos, 20) then work.afterReturnReads pos
      else work.whereFound "return " 20 pos
        (work.expressionReads (work.returnEnd pos - (pos + 7)) (pos + 7) 0))

def notSemicolon (b : UInt8) : Bool := !decide (b = 0x3B)

/-- Behind `break` or `continue`, a word of the given length. -/
def afterJumpReads (length pos : Nat) : List Nat :=
  let stop := work.skip notSemicolon work.size (pos + length)
  work.skipReads notSemicolon work.size (pos + length) ++
    if stop < work.size then
      work.skipReads isSpace work.size (stop + 1) ++
        peekReads work.size (work.skip isSpace work.size (stop + 1))
    else []

def jumpReads (keyword : String) (length pos : Nat) : List Nat :=
  work.whereFound keyword 50 pos (work.afterJumpReads length pos)

/-- The cases of a `switch`, so many places at most. -/
def caseReads : Nat → Nat → List Nat
  | 0, _ => []
  | n + 1, pos =>
      if pos < work.size then
        work.searchReads "case " (pos, 10) ++ work.searchReads "default:" (pos, 15) ++
          pos :: if work.bytes pos = 0x7D then [] else caseReads n (pos + 1)
      else []

def switchReads (pos : Nat) : List Nat :=
  work.whereFound "switch" 50 pos (work.caseReads 994 (pos + 6))

def loopKeywords : List (String × Nat) := [("while", 50), ("for", 50), ("do", 50)]

def infiniteKeywords : List (String × Nat) :=
  [("while(true)", 100), ("while (true)", 100), ("for(;;)", 100), ("for (;;)", 100)]

/-- A condition, to the parenthesis that closes it: a `do` loop. -/
def conditionReads : Nat → Nat → Nat → List Nat
  | 0, _, _ => []
  | n + 1, pos, depth =>
      let depth := if work.bytes pos = 0x28 then depth + 1
        else if work.bytes pos = 0x29 then depth - 1 else depth
      pos :: if 0 < depth then conditionReads n (pos + 1) depth else []

def notParenthesis (b : UInt8) : Bool := !decide (b = 0x28)

def loopReads (pos : Nat) : List Nat :=
  let start := work.skip notParenthesis work.size pos
  work.searchEach pos loopKeywords ++
    if loopKeywords.any fun keyword => work.finds keyword.1 (pos, keyword.2) then
      work.searchEach pos infiniteKeywords ++ work.skipReads notParenthesis work.size pos ++
        if start < work.size then work.conditionReads (work.size - start) start 0 else []
    else []

/-- `brace_depth`, a `uint32_t`, behind this byte. -/
def braceDepth (b : UInt8) (depth : Nat) : Nat :=
  if b = 0x7B then inc32 depth else if b = 0x7D then dec32 depth else depth

/-- A block is read to the brace that closes it, so many places at most. -/
def blockReads : Nat → Nat → Nat → List Nat
  | 0, _, _ => []
  | n + 1, pos, depth =>
      if pos < work.size then
        pos :: if work.bytes pos = 0x7D ∧ dec32 depth = 0 then []
          else blockReads n (pos + 1) (braceDepth (work.bytes pos) depth)
      else []

/-- Where the brace is, if it is met. -/
def blockEnd : Nat → Nat → Nat → Option Nat
  | 0, _, _ => none
  | n + 1, pos, depth =>
      if pos < work.size then
        if work.bytes pos = 0x7D ∧ dec32 depth = 0 then some pos
        else blockEnd n (pos + 1) (braceDepth (work.bytes pos) depth)
      else none

/-- `after_if`, for the closing brace. -/
def afterIf (stop : Nat) : Nat := work.skip isSpace work.size (stop + 1)

/-- An `else` is looked for behind the block. -/
def ifReads (pos : Nat) : List Nat :=
  work.whereFound "if" 50 pos
    (work.blockReads 498 (pos + 2) 0 ++
      match work.blockEnd 498 (pos + 2) 0 with
      | none => []
      | some stop => work.skipReads isSpace work.size (stop + 1) ++
          work.searchReads "else" (work.afterIf stop, 10))

/-- Phase B, at one place. -/
def controlReads (pos : Nat) : List Nat :=
  work.returnReads pos ++ work.jumpReads "break" 5 pos ++ work.jumpReads "continue" 8 pos ++
    work.switchReads pos ++ [pos] ++ work.loopReads pos ++ work.ifReads pos ++
    work.searchEach pos [("try", 50), ("catch", 50)]

/-! ## Resources -/

/-- `kernel_strstr`, which stops at a zero. There is one at the end of the buffer. -/
def strstrReads (keyword : List UInt8) : Nat → Nat → List Nat
  | 0, _ => []
  | n + 1, pos =>
      pos :: if work.bytes pos = 0 then []
        else Probe.reads work.bytes pos keyword ++
          if work.startsWith pos keyword then [] else strstrReads keyword n (pos + 1)

def strstrFinds (keyword : List UInt8) : Nat → Nat → Bool
  | 0, _ => false
  | n + 1, pos =>
      decide (work.bytes pos ≠ 0) &&
        (work.startsWith pos keyword || strstrFinds keyword n (pos + 1))

/-- The second of two names is looked for where the first is not. -/
def strstrEach : List String → List Nat
  | [] => []
  | keyword :: keywords =>
      work.strstrReads (ascii keyword) 32768 0 ++
        if work.strstrFinds (ascii keyword) 32768 0 then [] else strstrEach keywords

def resourceKeywords : List (List String) :=
  [["uniform "], ["sampler2D", "samplerCube"], ["buffer", "ssbo"], ["image2D", "imageBuffer"]]

def notZero (b : UInt8) : Bool := !decide (b = 0)

/-- `strlen(compiled_source)`. -/
def strlenReads : List Nat := Probe.scanReads work.bytes notZero 32768 0

/-! ## All of it -/

def phaseA : List Nat := List.range (min work.size 10001)

def phaseB : List Nat := List.range (min work.size 8000)

/-- What is read of the work buffer once the text is in it. -/
def workReads : List Nat :=
  work.phaseA.flatMap work.patternReads ++ work.phaseB.flatMap work.controlReads ++
    resourceKeywords.flatMap work.strstrEach ++ work.strlenReads

/-! ## Where they may leave the buffer -/

/-- None of the searches looks behind the limit. -/
def EachEndsBefore (limit pos : Nat) : List (String × Nat) → Prop
  | [] => True
  | (keyword, length) :: keywords =>
      Probe.EndsBefore work.bytes limit (ascii keyword) pos length ∧
        (work.finds keyword (pos, length) = false → EachEndsBefore limit pos keywords)

/-- What is looked for behind a `return;` or behind a block is found in the buffer, or the
buffer goes on for long enough. -/
structure SearchesEnd (work : ShaderSource) : Prop where
  returns : ∀ pos ∈ work.phaseB, work.finds "return" (pos, 100) = true →
    work.finds "return;" (pos, 20) = true → work.goesOnBehind pos →
    work.EachEndsBefore 32768 (work.afterReturn pos) afterReturnKeywords
  blocks : ∀ pos ∈ work.phaseB, work.finds "if" (pos, 50) = true →
    ∀ stop, work.blockEnd 498 (pos + 2) 0 = some stop →
      Probe.EndsBefore work.bytes 32768 (ascii "else") (work.afterIf stop) 10

/-! ## Searches and loops -/

section searches
variable {work : ShaderSource} {limit stop pos length n depth complexity : Nat}
  {keyword : String}

theorem within_whereFound_iff {l : List Nat} (h : pos + length ≤ limit) :
    Within limit (work.whereFound keyword length pos l) ↔
      (work.finds keyword (pos, length) = true → Within limit l) := by
  rw [whereFound, within_append, within_ite, and_iff_right (within_searchReads h)]

theorem within_expressionReads (h : n = 0 ∨ pos + n ≤ limit) :
    Within limit (work.expressionReads n pos complexity) := by
  induction n generalizing pos complexity with
  | zero => exact within_nil
  | succ n ih =>
      rw [expressionReads, within_ite, within_cons]
      exact fun _ => ⟨by omega, ih (by omega)⟩

theorem within_caseReads (h : pos + n + 15 ≤ limit) : Within limit (work.caseReads n pos) := by
  induction n generalizing pos with
  | zero => exact within_nil
  | succ n ih =>
      rw [caseReads, within_ite, within_append, within_append, within_cons]
      refine fun _ => ⟨⟨within_searchReads (by omega), within_searchReads (by omega)⟩, by omega, ?_⟩
      split
      · exact within_nil
      · exact ih (by omega)

theorem within_conditionReads (h : pos + n ≤ limit) :
    Within limit (work.conditionReads n pos depth) := by
  induction n generalizing pos depth with
  | zero => exact within_nil
  | succ n ih =>
      rw [conditionReads, within_cons, within_ite]
      exact ⟨by omega, fun _ => ih (by omega)⟩

theorem within_blockReads (h : work.size ≤ limit) :
    Within limit (work.blockReads n pos depth) := by
  induction n generalizing pos depth with
  | zero => exact within_nil
  | succ n ih =>
      rw [blockReads, within_ite, within_cons]
      refine fun hpos => ⟨Nat.lt_of_lt_of_le hpos h, ?_⟩
      split
      · exact within_nil
      · exact ih

theorem lt_of_blockEnd (h : work.blockEnd n pos depth = some stop) : stop < work.size := by
  induction n generalizing pos depth with
  | zero => cases h
  | succ n ih =>
      rw [blockEnd] at h
      split at h
      next hpos =>
        split at h
        · cases h
          exact hpos
        · exact ih h
      next => cases h

end searches

/-! ## The searches that begin anywhere -/

/-- What can be looked for in so many bytes. -/
structure Findable (keyword : String) (length : Nat) : Prop where
  nonempty : ascii keyword ≠ []
  zeroFree : 0 ∉ ascii keyword
  fits : (ascii keyword).length ≤ length

theorem findable_else : Findable "else" 10 := by
  constructor
  all_goals rw [ascii_eq rfl]
  all_goals decide

theorem findable_afterReturn : ∀ k ∈ afterReturnKeywords, Findable k.1 k.2 := by
  simp only [afterReturnKeywords, List.forall_mem_cons]
  and_intros
  · constructor
    all_goals rw [ascii_eq rfl]
    all_goals decide
  · exact findable_else
  · constructor
    all_goals rw [ascii_eq rfl]
    all_goals decide
  · intro k hk
    cases hk

theorem zeroFree_resourceKeywords :
    ∀ keywords ∈ resourceKeywords, ∀ keyword ∈ keywords, 0 ∉ ascii keyword := by
  simp only [resourceKeywords, List.forall_mem_cons]
  and_intros
  all_goals first
    | rw [ascii_eq rfl]; decide
    | exact fun _ h => absurd h List.not_mem_nil

section buffer
variable {work : ShaderSource} {limit pos n length : Nat} {keyword : String}
  {keywords : List (String × Nat)}

theorem within_search_iff (hlast : work.bytes (limit - 1) = 0) (hpos : pos ≤ limit)
    (hk : Findable keyword length) :
    Within limit (work.searchReads keyword (pos, length)) ↔
      Probe.EndsBefore work.bytes limit (ascii keyword) pos length :=
  Probe.within_search_iff (by rw [hlast]; exact hk.zeroFree) hk.nonempty hpos hk.fits

theorem within_searchEach_iff (hlast : work.bytes (limit - 1) = 0) (hpos : pos ≤ limit)
    (hk : ∀ k ∈ keywords, Findable k.1 k.2) :
    Within limit (work.searchEach pos keywords) ↔ work.EachEndsBefore limit pos keywords := by
  induction keywords with
  | nil => exact iff_of_true within_nil trivial
  | cons k keywords ih =>
      rw [List.forall_mem_cons] at hk
      rw [searchEach, EachEndsBefore, within_append, within_search_iff hlast hpos hk.1]
      refine and_congr_right fun _ => ?_
      cases hfinds : work.finds k.1 (pos, k.2) with
      | false =>
          rw [if_neg Bool.false_ne_true, ih hk.2]
          exact ⟨fun h _ => h, fun h => h rfl⟩
      | true =>
          rw [if_pos rfl]
          exact iff_of_true within_nil fun h => absurd h.symm Bool.false_ne_true

/-- A zero at the end stops every comparison. -/
theorem within_strstrReads {word : List UInt8} (hlast : work.bytes (limit - 1) = 0)
    (hword : 0 ∉ word) (h : pos + n ≤ limit) : Within limit (work.strstrReads word n pos) := by
  induction n generalizing pos with
  | zero => exact within_nil
  | succ n ih =>
      have hpos : pos < limit := by omega
      rw [strstrReads, within_cons]
      refine ⟨hpos, ?_⟩
      split
      · exact within_nil
      · rw [within_append, Probe.within_reads_iff (Nat.le_of_lt hpos)]
        refine ⟨Probe.not_cutOff_of_last hpos (by rwa [hlast]), ?_⟩
        split
        · exact within_nil
        · exact ih (by omega)

theorem within_strstrEach {keywords : List String} (hlast : work.bytes 32767 = 0)
    (hk : ∀ keyword ∈ keywords, 0 ∉ ascii keyword) :
    Within 32768 (work.strstrEach keywords) := by
  induction keywords with
  | nil => exact within_nil
  | cons keyword keywords ih =>
      rw [List.forall_mem_cons] at hk
      rw [strstrEach, within_append]
      refine ⟨within_strstrReads hlast hk.1 (Nat.le_refl _), ?_⟩
      split
      · exact within_nil
      · exact ih hk.2

end buffer

section scans
variable {work : ShaderSource} {pos : Nat}

theorem lt_of_mem_phaseB (h : pos ∈ work.phaseB) : pos < work.size ∧ pos < 8000 :=
  Nat.lt_min.mp (List.mem_range.mp h)

theorem within_patternReads (h : pos ∈ work.phaseA) : Within 32768 (work.patternReads pos) := by
  have hpos : pos < 10001 := (Nat.lt_min.mp (List.mem_range.mp h)).2
  rw [patternReads, within_flatMap]
  exact fun _ _ => within_searchReads (by omega)

variable (hsize : work.size ≤ 32767) (hlast : work.bytes 32767 = 0)
include hsize

theorem afterReturn_le (h : pos < work.size) : work.afterReturn pos ≤ 32768 := by
  have hend : work.returnEnd pos ≤ work.size := skip_le (Nat.le_of_lt h)
  by_cases hlt : work.returnEnd pos + 1 ≤ work.size
  · have hskip : work.afterReturn pos ≤ work.size := skip_le hlt
    omega
  · have hstop : work.size - (work.returnEnd pos + 1) = 0 := by omega
    rw [afterReturn, skip, hstop, Probe.scan]
    omega

theorem within_jumpReads {keyword : String} {length : Nat} (h : pos ∈ work.phaseB) :
    Within 32768 (work.jumpReads keyword length pos) := by
  have hpos := lt_of_mem_phaseB h
  rw [jumpReads, within_whereFound_iff (by omega), afterJumpReads]
  intro _
  rw [within_append, within_ite, within_append]
  exact ⟨within_skipReads (by omega), fun _ => ⟨within_skipReads (by omega),
    within_peekReads (by omega)⟩⟩

omit hsize in
theorem within_switchReads (h : pos ∈ work.phaseB) : Within 32768 (work.switchReads pos) := by
  have hpos := lt_of_mem_phaseB h
  rw [switchReads, within_whereFound_iff (by omega)]
  exact fun _ => within_caseReads (by omega)

theorem within_loopReads (h : pos ∈ work.phaseB) : Within 32768 (work.loopReads pos) := by
  have hpos := lt_of_mem_phaseB h
  have hwindow {ks : List (String × Nat)} (hks : ∀ k ∈ ks, k.2 ≤ 100) :
      Within 32768 (work.searchEach pos ks) :=
    within_searchEach fun k hk => by
      have hle := hks k hk
      omega
  rw [loopReads, within_append, within_ite, within_append, within_append, within_ite]
  refine ⟨hwindow (by decide), fun _ => ⟨⟨hwindow (by decide), within_skipReads (by omega)⟩,
    fun hstart => within_conditionReads (by omega)⟩⟩

include hlast

theorem within_returnReads_iff (h : pos ∈ work.phaseB) :
    Within 32768 (work.returnReads pos) ↔
      (work.finds "return" (pos, 100) = true → work.finds "return;" (pos, 20) = true →
        work.goesOnBehind pos →
        work.EachEndsBefore 32768 (work.afterReturn pos) afterReturnKeywords) := by
  have hpos := lt_of_mem_phaseB h
  rw [returnReads, within_whereFound_iff (by omega), within_append, within_append]
  refine imp_congr_right fun _ => ?_
  rw [and_iff_right ⟨within_skipReads (by omega), within_searchReads (by omega)⟩]
  by_cases hreturn : work.finds "return;" (pos, 20) = true
  · rw [if_pos hreturn, afterReturnReads, within_append, within_append, within_ite,
      and_iff_right ⟨within_skipReads (by omega), within_peekReads (by omega)⟩,
      within_searchEach_iff hlast (afterReturn_le hsize hpos.1) findable_afterReturn]
    exact ⟨fun h _ => h, fun h => h hreturn⟩
  · rw [if_neg hreturn, within_whereFound_iff (by omega)]
    refine iff_of_true (fun _ => within_expressionReads ?_) fun hfound => absurd hfound hreturn
    have hend : work.returnEnd pos ≤ work.size := skip_le (Nat.le_of_lt hpos.1)
    omega

theorem within_ifReads_iff (h : pos ∈ work.phaseB) :
    Within 32768 (work.ifReads pos) ↔
      (work.finds "if" (pos, 50) = true → ∀ stop, work.blockEnd 498 (pos + 2) 0 = some stop →
        Probe.EndsBefore work.bytes 32768 (ascii "else") (work.afterIf stop) 10) := by
  have hpos := lt_of_mem_phaseB h
  rw [ifReads, within_whereFound_iff (by omega), within_append]
  refine imp_congr_right fun _ => ?_
  rw [and_iff_right (within_blockReads (by omega))]
  cases hstop : work.blockEnd 498 (pos + 2) 0 with
  | none => exact iff_of_true within_nil fun _ h => absurd h (by simp)
  | some stop =>
      have hlt := lt_of_blockEnd hstop
      have hafter : work.afterIf stop ≤ work.size := skip_le hlt
      dsimp only
      rw [within_append, and_iff_right (within_skipReads (by omega)),
        within_search_iff hlast (by omega) findable_else]
      simp only [Option.some.injEq, forall_eq']

omit hlast in
theorem within_controlReads_iff (h : pos ∈ work.phaseB) :
    Within 32768 (work.controlReads pos) ↔
      Within 32768 (work.returnReads pos) ∧ Within 32768 (work.ifReads pos) := by
  have hpos := lt_of_mem_phaseB h
  have htry : Within 32768 (work.searchEach pos [("try", 50), ("catch", 50)]) := by
    refine within_searchEach ?_
    simp only [List.forall_mem_cons]
    exact ⟨by omega, by omega, fun _ h => absurd h List.not_mem_nil⟩
  have hself : Within 32768 [pos] := by
    simp only [within_cons, within_nil, and_true]
    omega
  simp only [controlReads, within_append, htry, hself, within_jumpReads hsize h,
    within_switchReads h, within_loopReads hsize h, and_true]

/-- **The scans stay in the buffer exactly if the searches behind a `return;` and behind a
block end there.** -/
theorem within_workReads_iff : Within 32768 work.workReads ↔ work.SearchesEnd := by
  have hcontrol : Within 32768 (work.phaseB.flatMap work.controlReads) ↔ work.SearchesEnd := by
    rw [within_flatMap]
    constructor
    · intro h
      have hparts (pos : Nat) (hpos : pos ∈ work.phaseB) :=
        (within_controlReads_iff hsize hpos).mp (h pos hpos)
      exact ⟨fun pos hpos => (within_returnReads_iff hsize hlast hpos).mp (hparts pos hpos).1,
        fun pos hpos => (within_ifReads_iff hsize hlast hpos).mp (hparts pos hpos).2⟩
    · intro h pos hpos
      exact (within_controlReads_iff hsize hpos).mpr
        ⟨(within_returnReads_iff hsize hlast hpos).mpr (h.returns pos hpos),
          (within_ifReads_iff hsize hlast hpos).mpr (h.blocks pos hpos)⟩
  have hpatterns : Within 32768 (work.phaseA.flatMap work.patternReads) := by
    rw [within_flatMap]
    exact fun pos hpos => within_patternReads hpos
  have hresources : Within 32768 (resourceKeywords.flatMap work.strstrEach) := by
    rw [within_flatMap]
    exact fun keywords hk => within_strstrEach hlast (zeroFree_resourceKeywords keywords hk)
  have hstrlen : Within 32768 work.strlenReads := Probe.within_scanReads (.inr (Nat.le_refl _))
  rw [workReads, within_append, within_append, within_append, hcontrol]
  exact ⟨fun h => h.1.1.2, fun h => ⟨⟨⟨hpatterns, h⟩, hresources⟩, hstrlen⟩⟩

end scans
end ShaderSource
end VMQemuVGA
