import Mathlib.Tactic.Common
import Mathlib.Data.List.Infix

/-! # Where a search looks.

A memory is compared with words at some place, or searched for them from there on, with no
regard to where it ends. The comparison stops at the first difference; so whether it goes
past a limit is a question about the words and what stands before the limit. -/

universe u v

/-- All these places are before the limit. -/
def Within (limit : Nat) (places : List Nat) : Prop := ∀ i ∈ places, i < limit

section within
variable {limit : Nat} {l l' : List Nat}

@[simp] theorem within_nil : Within limit [] := fun _ h => absurd h List.not_mem_nil

@[simp] theorem within_cons {i : Nat} : Within limit (i :: l) ↔ i < limit ∧ Within limit l :=
  List.forall_mem_cons

@[simp] theorem within_append : Within limit (l ++ l') ↔ Within limit l ∧ Within limit l' :=
  List.forall_mem_append

@[simp] theorem within_flatMap {β : Type v} {f : β → List Nat} {bs : List β} :
    Within limit (bs.flatMap f) ↔ ∀ b ∈ bs, Within limit (f b) := by
  simp only [Within, List.mem_flatMap, forall_exists_index, and_imp]
  exact ⟨fun h b hb i hi => h i b hb hi, fun h i b hb hi => h b hb i hi⟩

theorem within_range' {start length : Nat} (h : start + length ≤ limit) :
    Within limit (List.range' start length) := fun _ hi =>
  Nat.lt_of_lt_of_le (List.mem_range'_1.mp hi).2 h

/-- What is looked at in one case only. -/
theorem within_ite {c : Prop} [Decidable c] :
    Within limit (if c then l else []) ↔ (c → Within limit l) := by
  split
  next hc => exact (forall_prop_of_true (q := fun _ => Within limit l) hc).symm
  next hc => exact iff_of_true within_nil fun h => absurd h hc

end within

namespace Probe
variable {α : Type u}

section definitions
variable (memory : Nat → α)

/-- Places are looked at as long as what is there satisfies `p`, so many at most. -/
def scanReads (p : α → Bool) : Nat → Nat → List Nat
  | 0, _ => []
  | n + 1, pos => pos :: if p (memory pos) then scanReads p n (pos + 1) else []

/-- Where that ends. -/
def scan (p : α → Bool) : Nat → Nat → Nat
  | 0, pos => pos
  | n + 1, pos => if p (memory pos) then scan p n (pos + 1) else pos

/-- What stands from a place on before the limit. -/
def rest (limit pos : Nat) : List α := (List.range' pos (limit - pos)).map memory

/-- The limit cuts the word off: what stands before it is the beginning of the word. -/
def CutOff (limit pos : Nat) (word : List α) : Prop :=
  rest memory limit pos <+: word ∧ (rest memory limit pos).length < word.length

variable [DecidableEq α]

/-- The places a comparison with the word looks at. -/
def reads : Nat → List α → List Nat
  | _, [] => []
  | pos, b :: bs => pos :: if memory pos = b then reads (pos + 1) bs else []

/-- The word stands there. -/
def agrees : Nat → List α → Bool
  | _, [] => true
  | pos, b :: bs => decide (memory pos = b) && agrees (pos + 1) bs

/-- The words that are tried: all up to the first that stands there. -/
def tried (pos : Nat) : List (List α) → List (List α)
  | [] => []
  | word :: words => word :: if agrees memory pos word then [] else tried pos words

/-- So many places are tried one after the other, until the word stands at one. -/
def searchFrom (word : List α) : Nat → Nat → List Nat
  | 0, _ => []
  | n + 1, pos =>
      reads memory pos word ++ if agrees memory pos word then [] else searchFrom word n (pos + 1)

/-- The word is looked for in a window of the given length. -/
def search (word : List α) (pos length : Nat) : List Nat :=
  if word.length ≤ length then searchFrom memory word (length - word.length + 1) pos else []

/-- The search is over before the limit: it has its places there, or the word stands at one
of them. -/
def EndsBefore (limit : Nat) (word : List α) (pos length : Nat) : Prop :=
  pos + (length - word.length + 1) ≤ limit ∨
    ∃ i < length - word.length + 1, pos + i < limit ∧ agrees memory (pos + i) word = true

end definitions

section limits
variable {memory : Nat → α} {limit pos n : Nat} {word : List α} {words : List (List α)}

theorem rest_of_le (h : limit ≤ pos) : rest memory limit pos = [] := by
  rw [rest, Nat.sub_eq_zero_of_le h]
  rfl

theorem rest_of_lt (h : pos < limit) :
    rest memory limit pos = memory pos :: rest memory limit (pos + 1) := by
  rw [rest, rest, ← Nat.succ_pred_eq_of_pos (Nat.sub_pos_of_lt h), List.range'_succ, List.map_cons]
  rfl

theorem cutOff_of_le {b : α} (h : limit ≤ pos) : CutOff memory limit pos (b :: word) := by
  rw [CutOff, rest_of_le h]
  exact ⟨List.nil_prefix, Nat.succ_pos _⟩

theorem cutOff_cons {b : α} (h : pos < limit) :
    CutOff memory limit pos (b :: word) ↔ memory pos = b ∧ CutOff memory limit (pos + 1) word := by
  rw [CutOff, CutOff, rest_of_lt h, List.cons_prefix_cons, and_assoc]
  simp only [List.length_cons, Nat.succ_lt_succ_iff]

/-- What stands before the limit and ends with something that is not in the word is not the
beginning of the word. -/
theorem not_cutOff_of_last (hpos : pos < limit) (hlast : memory (limit - 1) ∉ word) :
    ¬ CutOff memory limit pos word := by
  rintro ⟨hstart, -⟩
  refine hlast (hstart.subset ?_)
  exact List.mem_map.mpr ⟨limit - 1, List.mem_range'_1.mpr (by omega), rfl⟩

/-- A scan that is told where to stop stops there. -/
theorem within_scanReads {p : α → Bool} (h : n = 0 ∨ pos + n ≤ limit) :
    Within limit (scanReads memory p n pos) := by
  induction n generalizing pos with
  | zero => exact within_nil
  | succ n ih =>
      rw [scanReads, within_cons, within_ite]
      exact ⟨by omega, fun _ => ih (by omega)⟩

theorem scan_bounds (p : α → Bool) (n pos : Nat) :
    pos ≤ scan memory p n pos ∧ scan memory p n pos ≤ pos + n := by
  induction n generalizing pos with
  | zero => exact ⟨Nat.le_refl _, Nat.le_refl _⟩
  | succ n ih =>
      rw [scan]
      split
      · have h := ih (pos + 1)
        omega
      · omega

variable [DecidableEq α]

/-- **A comparison stays before the limit exactly if the limit does not cut the word
off.** -/
theorem within_reads_iff (hpos : pos ≤ limit) :
    Within limit (reads memory pos word) ↔ ¬ CutOff memory limit pos word := by
  induction word generalizing pos with
  | nil => exact iff_of_true within_nil fun h => Nat.not_lt_zero _ h.2
  | cons b bs ih =>
      rw [reads, within_cons, within_ite]
      by_cases hlt : pos < limit
      · rw [cutOff_cons hlt, and_iff_right hlt, not_and]
        exact forall_congr' fun _ => ih hlt
      · exact iff_of_false (fun h => hlt h.1) (not_not_intro (cutOff_of_le (Nat.le_of_not_lt hlt)))

theorem within_reads (h : pos + word.length ≤ limit) : Within limit (reads memory pos word) := by
  induction word generalizing pos with
  | nil => exact within_nil
  | cons b bs ih =>
      rw [List.length_cons] at h
      rw [reads, within_cons, within_ite]
      exact ⟨by omega, fun _ => ih (by omega)⟩

theorem within_searchFrom (h : pos + n + word.length ≤ limit + 1) :
    Within limit (searchFrom memory word n pos) := by
  induction n generalizing pos with
  | zero => exact within_nil
  | succ n ih =>
      rw [searchFrom, within_append]
      refine ⟨within_reads (by omega), ?_⟩
      split
      · exact within_nil
      · exact ih (by omega)

/-- **A search stays in its window.** -/
theorem within_search {length : Nat} (h : pos + length ≤ limit) :
    Within limit (search memory word pos length) := by
  rw [search, within_ite]
  exact fun hle => within_searchFrom (by omega)

theorem within_searchFrom_iff (hlast : memory (limit - 1) ∉ word) (hne : word ≠ [])
    (hpos : pos ≤ limit) :
    Within limit (searchFrom memory word n pos) ↔
      pos + n ≤ limit ∨ ∃ i < n, pos + i < limit ∧ agrees memory (pos + i) word = true := by
  induction n generalizing pos with
  | zero => exact iff_of_true within_nil (.inl hpos)
  | succ n ih =>
      rw [searchFrom, within_append]
      by_cases hlt : pos < limit
      · have hreads := (within_reads_iff hpos).mpr (not_cutOff_of_last hlt hlast)
        by_cases hagrees : agrees memory pos word = true
        · rw [if_pos hagrees]
          exact iff_of_true ⟨hreads, within_nil⟩ (.inr ⟨0, Nat.succ_pos n, hlt, hagrees⟩)
        · have hle : pos + 1 ≤ limit := hlt
          rw [if_neg hagrees, and_iff_right hreads, ih hle]
          refine or_congr (by omega) ⟨?_, ?_⟩
          · rintro ⟨i, hi, hinside, h⟩
            rw [Nat.add_assoc, Nat.add_comm 1 i] at hinside h
            exact ⟨i + 1, Nat.succ_lt_succ hi, hinside, h⟩
          · rintro ⟨_ | i, hi, hinside, h⟩
            · exact absurd h hagrees
            · rw [← Nat.add_assoc, Nat.add_right_comm] at hinside h
              exact ⟨i, Nat.lt_of_succ_lt_succ hi, hinside, h⟩
      · obtain ⟨b, bs, rfl⟩ := List.exists_cons_of_ne_nil hne
        refine iff_of_false (fun h => hlt ?_) ?_
        · rw [reads, within_cons] at h
          exact h.1.1
        · rintro (hle | ⟨i, -, hinside, -⟩)
          · omega
          · omega

/-- **A search behind whose limit nothing of the word can begin** stays before it exactly if
it is over there. -/
theorem within_search_iff {length : Nat} (hlast : memory (limit - 1) ∉ word) (hne : word ≠ [])
    (hpos : pos ≤ limit) (hlength : word.length ≤ length) :
    Within limit (search memory word pos length) ↔ EndsBefore memory limit word pos length := by
  rw [search, if_pos hlength]
  exact within_searchFrom_iff hlast hne hpos

/-- The words that are tried one after the other stay before the limit exactly if it cuts off
none of them. -/
theorem within_tried_iff (hpos : pos ≤ limit) :
    Within limit ((tried memory pos words).flatMap (reads memory pos)) ↔
      ∀ word ∈ tried memory pos words, ¬ CutOff memory limit pos word := by
  rw [within_flatMap]
  exact forall₂_congr fun _ _ => within_reads_iff hpos

end limits
end Probe
