import VMQemuVGA.Shader.Accesses
import VMQemuVGA.Shader.Termination

/-! # What the translation writes

`dst_ptr` and `remaining_dst` go on together: what is in the work buffer and what is left of
it are all of it but one byte. A number is admitted by what is left less a reserve, and that
is a `size_t`: with less left than the reserve any number is admitted. What is left can then
wrap around itself, and from there on the loop writes behind the buffer, unless it is stuck
and writes nothing any more. -/

namespace VMQemuVGA

/-! ## Rules that keep the count -/

/-- A replacement is short, and `dst_ptr` goes on behind what closes a number. -/
structure ShaderRule.Snug (rule : ShaderRule) : Prop where
  short : (ascii rule.replacement).length < 100
  closes : match rule.action with
    | .replace | .retype => True
    | .bind close advance _ => (ascii close).length ≤ advance ∧ advance ≤ 10

theorem snug_hlslRules : ∀ rule ∈ hlslRules, rule.Snug := by
  simp only [hlslRules, List.forall_mem_cons]
  and_intros
  all_goals first
    | exact ⟨by rw [length_ascii rfl]; decide, trivial⟩
    | exact fun rule h => absurd h List.not_mem_nil

theorem snug_mslRules : ∀ rule ∈ mslRules, rule.Snug := by
  simp only [mslRules, List.forall_mem_cons]
  and_intros
  all_goals first
    | exact ⟨by rw [length_ascii rfl]; decide, trivial⟩
    | exact ⟨by rw [length_ascii rfl]; decide, by rw [length_ascii rfl]; decide, by decide⟩
    | exact fun rule h => absurd h List.not_mem_nil

theorem ShaderLanguage.snug_of_mem {language : ShaderLanguage} {rules : List ShaderRule}
    (h : language.rules = some rules) : ∀ rule ∈ rules, rule.Snug :=
  forall_rules snug_hlslRules snug_mslRules h

theorem ShaderSource.length_digits_le (src : ShaderSource) (n pos : Nat) :
    (src.digits n pos).length ≤ n := by
  induction n generalizing pos with
  | zero => exact Nat.le_refl _
  | succ n ih =>
      rw [digits]
      split
      · exact Nat.succ_le_succ (ih (pos + 1))
      · exact Nat.zero_le _

namespace Translation

/-! ## States -/

/-- What is written and what is left are all of the buffer but one byte. -/
def Fits (headerLength : Nat) (t : Translation) : Prop :=
  t.dst headerLength + t.remaining = 32767

/-- `dst_ptr` is behind the buffer, and there seems to be room. -/
def Over (headerLength : Nat) (t : Translation) : Prop :=
  32768 ≤ t.dst headerLength ∧ 100 ≤ t.remaining

section states
variable (src : ShaderSource) (rules : List ShaderRule)

/-- A number is put where there is no room for it. -/
def Overruns (t : Translation) : Prop :=
  ∃ rule close advance room, ruleAt src rules t.pos = some rule ∧
    rule.action = .bind close advance room ∧
    (t.emit (ascii rule.replacement)).admits
      (src.digits 7 (t.pos + (ascii rule.keyword).length)) room ∧
    (t.emit (ascii rule.replacement)).remaining <
      (src.digits 7 (t.pos + (ascii rule.keyword).length)).length + advance

/-- The loop goes on and does nothing any more. -/
def Idle (t : Translation) : Prop := t.goesOn src = true ∧ Stuck src rules t.pos

/-- Nothing behind the buffer will be written from here. -/
def Settled (headerLength : Nat) (t : Translation) : Prop :=
  t.Fits headerLength ∨ t.Idle src rules

end states

variable {src : ShaderSource} {rules : List ShaderRule} {headerLength : Nat} {t : Translation}
  {text number : List UInt8} {close : String} {advance room : Nat}

theorem fits_start (h : headerLength < 1024) : (start headerLength).Fits headerLength := by
  have hheader : sub64 32768 headerLength = 32768 - headerLength :=
    sub64_of_le (by omega) (by decide)
  have hlast : sub64 (32768 - headerLength) 1 = 32768 - headerLength - 1 :=
    sub64_of_le (by omega) (by rw [u64_eq]; omega)
  show headerLength + 0 + sub64 (sub64 32768 headerLength) 1 = 32767
  rw [hheader, hlast]
  omega

/-! ## Replacements and numbers -/

theorem fits_emit (h : t.Fits headerLength) : (t.emit text).Fits headerLength := by
  rw [emit]
  split
  next hlt =>
    show headerLength + (t.out ++ text).length + (t.remaining - text.length) = 32767
    rw [Fits, dst] at h
    rw [List.length_append]
    omega
  next => exact h

theorem remaining_emit_pos (h : 0 < t.remaining) : 0 < (t.emit text).remaining := by
  rw [emit]
  split
  next hlt => exact Nat.sub_pos_of_lt hlt
  next => exact h

theorem bindNumber_of_not_admits (h : ¬ t.admits number room) :
    t.bindNumber number close advance room = t := if_neg h

theorem remaining_bindNumber (h : t.admits number room) :
    (t.bindNumber number close advance room).remaining =
      sub64 t.remaining (number.length + advance) := congrArg remaining (if_pos h)

theorem out_bindNumber (h : t.admits number room) :
    (t.bindNumber number close advance room).out =
      t.out ++ ((number ++ ascii close).take (t.remaining - 1) ++
        List.replicate (number.length + advance -
          ((number ++ ascii close).take (t.remaining - 1)).length) 0) :=
  congrArg out (if_pos h)

/-- `dst_ptr` goes on by so much, whatever of the text there was room for. -/
theorem dst_bindNumber (hclose : (ascii close).length ≤ advance) (h : t.admits number room) :
    (t.bindNumber number close advance room).dst headerLength =
      t.dst headerLength + (number.length + advance) := by
  rw [dst, dst, out_bindNumber h]
  simp only [List.length_append, List.length_take, List.length_replicate]
  omega

theorem fits_bindNumber (hclose : (ascii close).length ≤ advance) (h : t.Fits headerLength)
    (hroom : t.admits number room → number.length + advance ≤ t.remaining) :
    (t.bindNumber number close advance room).Fits headerLength := by
  by_cases hadmits : t.admits number room
  · have hle := hroom hadmits
    rw [Fits] at h ⊢
    rw [dst_bindNumber hclose hadmits, remaining_bindNumber hadmits,
      sub64_of_le hle (by rw [u64_eq]; omega)]
    omega
  · rwa [bindNumber_of_not_admits hadmits]

theorem over_bindNumber (hclose : (ascii close).length ≤ advance) (hadvance : advance ≤ 10)
    (hnumber : number.length ≤ 7) (h : t.Fits headerLength) (hadmits : t.admits number room)
    (hlt : t.remaining < number.length + advance) :
    (t.bindNumber number close advance room).Over headerLength := by
  rw [Fits] at h
  constructor
  · rw [dst_bindNumber hclose hadmits]
    omega
  · rw [remaining_bindNumber hadmits, sub64, u64_eq]
    omega

/-! ## One iteration -/

theorem fits_turn (hsnug : ∀ rule ∈ rules, rule.Snug) (h : t.Fits headerLength)
    (hgoes : t.goesOn src = true) (hroom : ¬ t.Overruns src rules) :
    (t.turn src rules).Fits headerLength := by
  have hremaining : 10 < t.remaining := (of_decide_eq_true hgoes).2
  rw [turn]
  cases hrule : ruleAt src rules t.pos with
  | none =>
      show headerLength + (t.out ++ [src.bytes t.pos]).length + (t.remaining - 1) = 32767
      rw [Fits, dst] at h
      rw [List.length_append, List.length_singleton]
      omega
  | some rule =>
      have hcloses := (hsnug rule (ruleAt_eq_some hrule).1).closes
      show (t.apply src rule).Fits headerLength
      rw [apply]
      cases haction : rule.action with
      | replace => exact fits_emit h
      | retype =>
          dsimp only
          split
          · exact fits_emit h
          · exact h
      | bind close advance room =>
          rw [haction] at hcloses
          have hnumber (hadmits : (t.emit (ascii rule.replacement)).admits
              (src.digits 7 (t.pos + (ascii rule.keyword).length)) room) :
              (src.digits 7 (t.pos + (ascii rule.keyword).length)).length + advance ≤
                (t.emit (ascii rule.replacement)).remaining :=
            Nat.le_of_not_lt fun hlt =>
              hroom ⟨rule, close, advance, room, hrule, haction, hadmits, hlt⟩
          exact fits_bindNumber hcloses.1 (fits_emit h) hnumber

theorem over_turn (hsnug : ∀ rule ∈ rules, rule.Snug) (h : t.Fits headerLength)
    (hover : t.Overruns src rules) : (t.turn src rules).Over headerLength := by
  obtain ⟨rule, close, advance, room, hrule, haction, hadmits, hlt⟩ := hover
  have hcloses := (hsnug rule (ruleAt_eq_some hrule).1).closes
  rw [haction] at hcloses
  have hturn : t.turn src rules = t.apply src rule := by rw [turn, hrule]
  rw [hturn, apply, haction]
  exact over_bindNumber hcloses.1 hcloses.2 (src.length_digits_le 7 _) (fits_emit h) hadmits hlt

/-- Where the loop is idle it meets the name of a type, and no number. -/
theorem fits_of_overruns (h : t.Settled src rules headerLength) (hover : t.Overruns src rules) :
    t.Fits headerLength := by
  refine h.resolve_right ?_
  rintro ⟨-, rule, hrule, haction, -⟩
  obtain ⟨rule', close, advance, room, hrule', haction', -⟩ := hover
  rw [hrule] at hrule'
  cases hrule'
  rw [haction] at haction'
  cases haction'

/-- **One iteration** keeps what is settled, if the loop is idle where a number was too
long. -/
theorem settled_turn (hsnug : ∀ rule ∈ rules, rule.Snug) (h : t.Settled src rules headerLength)
    (hgoes : t.goesOn src = true)
    (hidle : t.Overruns src rules → (t.turn src rules).Idle src rules) :
    (t.turn src rules).Settled src rules headerLength := by
  rcases h with h | h
  · by_cases hover : t.Overruns src rules
    · exact .inr (hidle hover)
    · exact .inl (fits_turn hsnug h hgoes hover)
  · rw [turn_of_stuck h.2]
    exact .inr h

/-! ## Places in the buffer -/

theorem within_emitWrites (h : t.Fits headerLength) :
    Within 32768 (t.emitWrites headerLength text) := by
  rw [emitWrites, within_ite]
  rw [Fits] at h
  exact fun hlt => within_range' (by omega)

theorem within_bindWrites (h : t.Fits headerLength) (hpos : 0 < t.remaining) :
    Within 32768 (t.bindWrites headerLength number close room) := by
  rw [bindWrites, within_ite]
  rw [Fits] at h
  exact fun _ => within_range' (by omega)

theorem within_bindReads (h : t.Fits headerLength) (hpos : 0 < t.remaining) :
    Within 32768 (t.bindReads headerLength number room) := by
  rw [bindReads, within_ite]
  rw [Fits] at h
  exact fun _ => within_range' (by omega)

/-- What is settled writes in the buffer only. -/
theorem within_turnWrites (h : t.Settled src rules headerLength) (hgoes : t.goesOn src = true) :
    Within 32768 (t.turnWrites src rules headerLength) := by
  have hremaining : 10 < t.remaining := (of_decide_eq_true hgoes).2
  rw [turnWrites]
  rcases h with h | ⟨-, rule, hrule, haction, halone⟩
  · cases hrule : ruleAt src rules t.pos with
    | none =>
        rw [Fits] at h
        simp only [within_cons, within_nil, and_true]
        omega
    | some rule =>
        dsimp only
        cases haction : rule.action with
        | replace => exact within_emitWrites h
        | retype =>
            dsimp only
            rw [within_ite]
            exact fun _ => within_emitWrites h
        | bind close advance room =>
            dsimp only
            rw [within_append]
            exact ⟨within_emitWrites h,
              within_bindWrites (fits_emit h) (remaining_emit_pos (by omega))⟩
  · simp only [hrule, haction, halone, Bool.false_eq_true, if_false]
    exact within_nil

theorem within_turnBufferReads (h : t.Settled src rules headerLength)
    (hgoes : t.goesOn src = true) :
    Within 32768 (t.turnBufferReads src rules headerLength) := by
  have hremaining : 10 < t.remaining := (of_decide_eq_true hgoes).2
  rw [turnBufferReads]
  rcases h with h | ⟨-, rule, hrule, haction, -⟩
  · cases hrule : ruleAt src rules t.pos with
    | none => exact within_nil
    | some rule =>
        dsimp only
        cases haction : rule.action with
        | replace => exact within_nil
        | retype => exact within_nil
        | bind close advance room =>
            exact within_bindReads (fits_emit h) (remaining_emit_pos (by omega))
  · simp only [hrule, haction]
    exact within_nil

/-- Behind the buffer every iteration writes something, unless it is stuck. -/
theorem stuck_of_over (hsnug : ∀ rule ∈ rules, rule.Snug) (h : t.Over headerLength)
    (hinside : Within 32768 (t.turnWrites src rules headerLength)) :
    Stuck src rules t.pos := by
  obtain ⟨hdst, hremaining⟩ := h
  rw [turnWrites] at hinside
  have hemit {rule : ShaderRule} (hmem : rule ∈ rules) :
      ¬ Within 32768 (t.emitWrites headerLength (ascii rule.replacement)) := by
    have hshort := (hsnug rule hmem).short
    intro hwithin
    rw [emitWrites, if_pos (by omega)] at hwithin
    have hlt := hwithin (t.dst headerLength) (List.mem_range'_1.mpr (by omega))
    omega
  cases hrule : ruleAt src rules t.pos with
  | none =>
      rw [hrule] at hinside
      have hlt := hinside _ List.mem_cons_self
      omega
  | some rule =>
      have hmem := (ruleAt_eq_some hrule).1
      rw [hrule] at hinside
      dsimp only at hinside
      cases haction : rule.action with
      | replace =>
          rw [haction] at hinside
          exact absurd hinside (hemit hmem)
      | retype =>
          rw [haction] at hinside
          dsimp only at hinside
          refine ⟨rule, hrule, haction, eq_false_of_ne_true fun halone => ?_⟩
          rw [if_pos halone] at hinside
          exact hemit hmem hinside
      | bind close advance room =>
          rw [haction] at hinside
          dsimp only at hinside
          rw [within_append] at hinside
          exact absurd hinside.1 (hemit hmem)

/-! ## Runs -/

section runs
variable (hsnug : ∀ rule ∈ rules, rule.Snug) (hheader : headerLength < 1024)
include hsnug

/-- Where all that is written is in the buffer, the loop is idle after a number that is too
long. -/
theorem idle_of_within
    (hwrites : ∀ t, (loop src rules).Reaches (.start headerLength) t → t.goesOn src = true →
      Within 32768 (t.turnWrites src rules headerLength))
    (hclose : ∀ t, (loop src rules).Returns (.start headerLength) t → t.dst headerLength < 32768)
    (h : (loop src rules).Reaches (.start headerLength) t) (hgoes : t.goesOn src = true)
    (hsettled : t.Settled src rules headerLength) (hover : t.Overruns src rules) :
    (t.turn src rules).Idle src rules := by
  have hbehind := over_turn hsnug (fits_of_overruns hsettled hover) hover
  have hreach : (loop src rules).Reaches (.start headerLength) (t.turn src rules) :=
    h.trans (.head (loop_body_of_goesOn hgoes) .refl)
  by_cases hnext : (t.turn src rules).goesOn src = true
  · exact ⟨hnext, stuck_of_over hsnug hbehind (hwrites _ hreach hnext)⟩
  · have hreturns : (loop src rules).Returns (.start headerLength) (t.turn src rules) :=
      hreach.returns_iff.mpr (Loop.returns_of_inl (if_neg hnext))
    exact absurd (hclose _ hreturns) (Nat.not_lt_of_le hbehind.1)

include hheader

/-- A run is settled throughout if a number that is too long is the last thing it does. -/
theorem settled_of_idle
    (hidle : ∀ t, (loop src rules).Reaches (.start headerLength) t → t.goesOn src = true →
      t.Settled src rules headerLength → t.Overruns src rules → (t.turn src rules).Idle src rules)
    (h : (loop src rules).Reaches (.start headerLength) t) :
    t.Settled src rules headerLength := by
  refine (Loop.Reaches.keeps (I := fun t => (loop src rules).Reaches (.start headerLength) t ∧
    t.Settled src rules headerLength) ?_ h ⟨.refl, .inl (fits_start hheader)⟩).2
  rintro t u ⟨hreach, hsettled⟩ hstep
  obtain ⟨hgoes, rfl⟩ := goesOn_of_inr hstep
  exact ⟨hreach.trans (.head hstep .refl),
    settled_turn hsnug hsettled hgoes (hidle t hreach hgoes hsettled)⟩

/-- The closing zero has its place then. -/
theorem fits_of_returns
    (hidle : ∀ t, (loop src rules).Reaches (.start headerLength) t → t.goesOn src = true →
      t.Overruns src rules → (t.turn src rules).Idle src rules)
    (h : (loop src rules).Returns (.start headerLength) t) : t.Fits headerLength := by
  obtain ⟨u, hreach, hleft⟩ := h.exists_reaches
  have hsettled := settled_of_idle hsnug hheader (fun t ht hgoes _ => hidle t ht hgoes) hreach
  simp only [loop] at hleft
  split at hleft
  next => cases hleft
  next hgoes =>
    cases hleft
    exact hsettled.resolve_right fun h => hgoes h.1

/-- **The translation writes in the buffer only exactly if a number that is too long is the
last thing it does.** -/
theorem within_iff :
    ((∀ t, (loop src rules).Reaches (.start headerLength) t → t.goesOn src = true →
        Within 32768 (t.turnWrites src rules headerLength)) ∧
      ∀ t, (loop src rules).Returns (.start headerLength) t → t.dst headerLength < 32768) ↔
      ∀ t, (loop src rules).Reaches (.start headerLength) t → t.goesOn src = true →
        t.Overruns src rules → (t.turn src rules).Idle src rules := by
  constructor
  · rintro ⟨hwrites, hclose⟩ t hreach hgoes hover
    refine idle_of_within hsnug hwrites hclose hreach hgoes ?_ hover
    exact settled_of_idle hsnug hheader
      (fun t ht hgoes => idle_of_within hsnug hwrites hclose ht hgoes) hreach
  · intro hidle
    refine ⟨fun t hreach hgoes => within_turnWrites ?_ hgoes, fun t hreturns => ?_⟩
    · exact settled_of_idle hsnug hheader (fun t ht hgoes _ => hidle t ht hgoes) hreach
    · have hfits := fits_of_returns hsnug hheader hidle hreturns
      rw [Fits] at hfits
      omega

end runs
end Translation
end VMQemuVGA
