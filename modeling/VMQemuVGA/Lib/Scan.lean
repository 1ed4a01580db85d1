import Mathlib.Tactic.Common

/-! # Loops that stop at the first bad turn

`for (i = first; i < first + n; i++) { accesses; if (!ok(i)) break; }`. What such a loop
finds out is whether every turn is good; what it touches is what the turns up to the first
bad one touch. -/

universe u

variable {α : Type u} (accesses : Nat → List α) (ok : Nat → Bool)

/-- Whether all turns are good, and what the loop accesses. -/
def scan : Nat → Nat → Bool × List α
  | 0, _ => (true, [])
  | n + 1, first =>
      if ok first then
        let (rest, more) := scan n (first + 1)
        (rest, accesses first ++ more)
      else (false, accesses first)

variable {accesses ok} {n first : Nat}

theorem scan_fst_iff :
    (scan accesses ok n first).1 = true ↔ ∀ i, first ≤ i → i < first + n → ok i = true := by
  induction n generalizing first with
  | zero =>
      refine iff_of_true rfl fun i hle hlt => ?_
      exact absurd hlt (Nat.not_lt_of_le hle)
  | succ n ih =>
      cases hok : ok first with
      | false =>
          rw [scan, hok, if_neg Bool.false_ne_true]
          refine iff_of_false nofun fun hall => ?_
          have hfirst := hall first (Nat.le_refl _) (by omega)
          rw [hok] at hfirst
          exact Bool.false_ne_true hfirst
      | true =>
          rw [scan, hok, if_pos rfl]
          refine ih.trans ⟨fun hall i hle hlt => ?_, fun hall i hle hlt => ?_⟩
          · rcases Nat.eq_or_lt_of_le hle with rfl | hgt
            · exact hok
            · exact hall i hgt (by omega)
          · exact hall i (by omega) (by omega)

/-- The loop accesses what a turn does that all earlier turns lead up to. -/
theorem mem_scan_iff {a : α} : a ∈ (scan accesses ok n first).2 ↔
    ∃ i, first ≤ i ∧ i < first + n ∧ (∀ k, first ≤ k → k < i → ok k = true) ∧
      a ∈ accesses i := by
  induction n generalizing first with
  | zero =>
      refine iff_of_false List.not_mem_nil ?_
      rintro ⟨i, hle, hlt, -⟩
      omega
  | succ n ih =>
      have hnone : ∀ k, first ≤ k → k < first → ok k = true := by
        intro k hle hlt
        omega
      cases hok : ok first with
      | false =>
          rw [scan, hok, if_neg Bool.false_ne_true]
          constructor
          · intro ha
            exact ⟨first, Nat.le_refl _, by omega, hnone, ha⟩
          · rintro ⟨i, hle, -, hbefore, ha⟩
            rcases Nat.eq_or_lt_of_le hle with rfl | hgt
            · exact ha
            · have hfirst := hbefore first (Nat.le_refl _) hgt
              rw [hok] at hfirst
              exact absurd hfirst Bool.false_ne_true
      | true =>
          rw [scan, hok, if_pos rfl]
          refine List.mem_append.trans ⟨?_, ?_⟩
          · rintro (ha | ha)
            · exact ⟨first, Nat.le_refl _, by omega, hnone, ha⟩
            · obtain ⟨i, hle, hlt, hbefore, hmem⟩ := ih.mp ha
              refine ⟨i, by omega, by omega, fun k hk hki => ?_, hmem⟩
              rcases Nat.eq_or_lt_of_le hk with rfl | hgt
              · exact hok
              · exact hbefore k hgt hki
          · rintro ⟨i, hle, hlt, hbefore, ha⟩
            rcases Nat.eq_or_lt_of_le hle with rfl | hgt
            · exact Or.inl ha
            · refine Or.inr (ih.mpr ⟨i, hgt, by omega, fun k hk hki => ?_, ha⟩)
              exact hbefore k (by omega) hki
