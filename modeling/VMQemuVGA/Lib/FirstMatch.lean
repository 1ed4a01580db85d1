import Mathlib.Tactic.Common

/-! # The first entry that is meant

A search from the front, and a change to the entry it finds. Entries behind it stay what
they are, also those that would do as well. -/

universe u v

namespace FirstMatch
variable {α : Type u} {β : Type v}

/-- The first entry that satisfies `p` becomes `f` of it. -/
def modify (p : α → Bool) (f : α → α) : List α → List α
  | [] => []
  | a :: l => if p a then f a :: l else a :: modify p f l

variable {p : α → Bool} {f : α → α} {l : List α} {a : α}

@[simp] theorem modify_nil : modify p f [] = [] := rfl

theorem modify_cons_of_pos (h : p a = true) : modify p f (a :: l) = f a :: l := if_pos h

theorem modify_cons_of_neg (h : p a = false) : modify p f (a :: l) = a :: modify p f l :=
  if_neg (by rw [h]; exact Bool.false_ne_true)

/-- What the change keeps of every entry, it keeps of the list. -/
theorem map_modify {g : α → β} (h : ∀ a, g (f a) = g a) : (modify p f l).map g = l.map g := by
  induction l with
  | nil => rfl
  | cons a l ih =>
      rw [modify]
      split
      · rw [List.map_cons, List.map_cons, h]
      · rw [List.map_cons, List.map_cons, ih]

/-- What was found is found again, as long as it is still what is looked for. -/
theorem find?_modify (h : l.find? p = some a) (hf : p (f a) = true) :
    (modify p f l).find? p = some (f a) := by
  induction l with
  | nil => cases h
  | cons b l ih =>
      cases hb : p b with
      | true =>
          rw [List.find?_cons_of_pos hb] at h
          cases h
          rw [modify_cons_of_pos hb, List.find?_cons_of_pos hf]
      | false =>
          have hb' : ¬ p b = true := by
            rw [hb]
            exact Bool.false_ne_true
          rw [List.find?_cons_of_neg hb'] at h
          rw [modify_cons_of_neg hb, List.find?_cons_of_neg hb']
          exact ih h

/-- A view that search and change go through. -/
theorem map_modify_comm {g : α → β} {q : β → Bool} {f' : β → β} (hq : ∀ a, q (g a) = p a)
    (hf : ∀ a, g (f a) = f' (g a)) : (modify p f l).map g = modify q f' (l.map g) := by
  induction l with
  | nil => rfl
  | cons a l ih =>
      rw [modify, List.map_cons, modify, hq]
      split
      · rw [List.map_cons, hf]
      · rw [List.map_cons, ih]

/-- The same by the index of what is found. -/
theorem modify_eq (p : α → Bool) (f : α → α) (l : List α) :
    modify p f l = l.modify (l.findIdx p) f := by
  induction l with
  | nil => rfl
  | cons a l ih =>
      rw [modify, List.findIdx_cons]
      cases p a with
      | true => rfl
      | false =>
          rw [if_neg Bool.false_ne_true, ih]
          rfl

theorem length_modify (p : α → Bool) (f : α → α) (l : List α) :
    (modify p f l).length = l.length := by
  rw [modify_eq, List.length_modify]

/-- An entry was there before, or it is what one that was meant has become. -/
theorem mem_modify {x : α} (h : x ∈ modify p f l) : x ∈ l ∨ ∃ a ∈ l, p a = true ∧ x = f a := by
  induction l with
  | nil => exact .inl h
  | cons a l ih =>
      rw [modify] at h
      split at h
      next ha =>
        rcases List.mem_cons.mp h with rfl | h
        · exact .inr ⟨a, List.mem_cons_self, ha, rfl⟩
        · exact .inl (List.mem_cons_of_mem a h)
      next =>
        rcases List.mem_cons.mp h with rfl | h
        · exact .inl List.mem_cons_self
        · rcases ih h with h | ⟨b, hb, hp, rfl⟩
          · exact .inl (List.mem_cons_of_mem a h)
          · exact .inr ⟨b, List.mem_cons_of_mem a hb, hp, rfl⟩

/-- A relation that the change keeps on either side. -/
theorem pairwise_modify {R : α → α → Prop} (h : l.Pairwise R)
    (hleft : ∀ a, ∀ b ∈ l, R a b → R (f a) b) (hright : ∀ a ∈ l, ∀ b, R a b → R a (f b)) :
    (modify p f l).Pairwise R := by
  induction h with
  | nil => exact .nil
  | @cons a l ha hl ih =>
      rw [modify]
      split
      · exact .cons (fun b hb => hleft a b (List.mem_cons_of_mem a hb) (ha b hb)) hl
      · refine .cons (fun b hb => ?_) (ih (fun c b hb => hleft c b (List.mem_cons_of_mem a hb))
          fun c hc => hright c (List.mem_cons_of_mem a hc))
        rcases mem_modify hb with hb | ⟨c, hc, -, rfl⟩
        · exact ha b hb
        · exact hright a List.mem_cons_self c (ha c hc)

/-- Another search, of which the change keeps the outcome. -/
theorem find?_map_modify {q : α → Bool} {g : α → β} (hq : ∀ a, q (f a) = q a)
    (hg : ∀ a, g (f a) = g a) : ((modify p f l).find? q).map g = (l.find? q).map g := by
  induction l with
  | nil => rfl
  | cons a l ih =>
      rw [modify]
      split
      · rw [List.find?_cons, List.find?_cons, hq]
        cases q a with
        | true => exact congrArg some (hg a)
        | false => rfl
      · rw [List.find?_cons, List.find?_cons]
        cases q a with
        | true => rfl
        | false => exact ih

/-- Another search that neither what was found nor what has become of it is meant by. -/
theorem find?_modify_of_not {q : α → Bool}
    (h : ∀ a, l.find? p = some a → q a = false ∧ q (f a) = false) :
    (modify p f l).find? q = l.find? q := by
  induction l with
  | nil => rfl
  | cons a l ih =>
      rw [modify]
      split
      next hp =>
        obtain ⟨ha, hfa⟩ := h a (List.find?_cons_of_pos hp)
        rw [List.find?_cons, List.find?_cons, ha, hfa]
      next hp =>
        rw [List.find?_cons, List.find?_cons, ih fun b hb => h b (by
          rw [List.find?_cons_of_neg hp]
          exact hb)]

/-- Where one entry at most is meant, every one that is meant changes. -/
theorem modify_eq_map (h : l.Pairwise fun a b => ¬ (p a = true ∧ p b = true)) :
    modify p f l = l.map fun a => if p a then f a else a := by
  induction h with
  | nil => rfl
  | @cons a l ha _ ih =>
      rw [modify, List.map_cons]
      split
      next hp =>
        have hsame : ∀ b ∈ l, (if p b then f b else b) = b := fun b hb =>
          if_neg fun hpb => ha b hb ⟨hp, hpb⟩
        rw [List.map_congr_left hsame, List.map_id']
      next => rw [ih]

/-- Where one entry at most is meant, the order does not matter. -/
theorem find?_perm {l' : List α} (hperm : l.Perm l')
    (h : l.Pairwise fun a b => ¬ (p a = true ∧ p b = true)) : l.find? p = l'.find? p := by
  rw [← List.head?_filter, ← List.head?_filter]
  have hfilter := hperm.filter p
  have hfew : (l.filter p).Pairwise fun a b => ¬ (p a = true ∧ p b = true) := h.filter p
  cases hl : l.filter p with
  | nil =>
      rw [hl] at hfilter
      rw [hfilter.nil_eq]
  | cons a l₁ =>
      cases l₁ with
      | nil =>
          rw [hl] at hfilter
          rw [List.singleton_perm.mp hfilter]
      | cons b l₁ =>
          have hmem : ∀ c ∈ l.filter p, p c = true := fun c hc => (List.mem_filter.mp hc).2
          rw [hl] at hmem hfew
          have ha := hmem a List.mem_cons_self
          have hb := hmem b (List.mem_cons_of_mem a List.mem_cons_self)
          exact absurd ⟨ha, hb⟩ (List.rel_of_pairwise_cons hfew List.mem_cons_self)

end FirstMatch
