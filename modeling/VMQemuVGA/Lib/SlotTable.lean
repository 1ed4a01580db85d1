import Mathlib.Data.List.Forall2
import Mathlib.Tactic.Common

/-! # Slot tables with a tombstone key

A table of `n` slots in which a slot whose key is `0` is free, whatever else is
still written in it. Looking up, taking the first free slot and tombstoning the
first slot of a key are linear scans from slot `0`.

`mult t k` counts the slots that hold `k`. All the lemmas say what an operation
does to these numbers; "at most one slot for a key" is `mult t k ≤ 1`. -/

universe u

/-- `n` slots, each with a key; `0` is the key of a free slot. -/
structure SlotTable {ρ : Type u} (key : ρ → Nat) (n : Nat) where
  slots : List ρ
  size_eq : slots.length = n

namespace SlotTable
variable {ρ : Type u} {key : ρ → Nat} {n : Nat}

instance [DecidableEq ρ] : DecidableEq (SlotTable key n) := fun s t =>
  match s, t with
  | ⟨a, _⟩, ⟨b, _⟩ => decidable_of_iff (a = b) (by simp)

/-! ## Operations -/

/-- All slots hold the same (free) record. -/
def replicate (blank : ρ) : SlotTable key n := ⟨List.replicate n blank, List.length_replicate⟩

/-- The first live slot with key `k`. -/
def find? (t : SlotTable key n) (k : Nat) : Option ρ :=
  t.slots.find? fun r => decide (key r ≠ 0) && decide (key r = k)

/-- The first free slot. -/
def freeIdx? (t : SlotTable key n) : Option Nat := t.slots.findIdx? fun r => decide (key r = 0)

/-- Write slot `i`. -/
def put (t : SlotTable key n) (i : Nat) (r : ρ) : SlotTable key n :=
  ⟨t.slots.set i r, by rw [List.length_set, t.size_eq]⟩

/-- Overwrite the first slot with key `k`. -/
def clear (t : SlotTable key n) (k : Nat) (blank : ρ) : SlotTable key n :=
  match t.slots.findIdx? fun r => decide (key r = k) with
  | none => t
  | some i => t.put i blank

/-- In how many slots `k` is live; `0` never is. -/
def mult (t : SlotTable key n) (k : Nat) : Nat :=
  if k = 0 then 0 else t.slots.countP fun r => decide (key r = k)

/-- Slot `i` exists and is free. -/
def IsFree (t : SlotTable key n) (i : Nat) : Prop := ∃ r, t.slots[i]? = some r ∧ key r = 0

/-! ## Looking up -/

@[simp] theorem mult_zero (t : SlotTable key n) : t.mult 0 = 0 := rfl

theorem mult_replicate {blank : ρ} (hb : key blank = 0) (k : Nat) :
    (replicate blank : SlotTable key n).mult k = 0 := by
  unfold mult replicate
  split
  · rfl
  · next hk =>
    rw [List.countP_eq_zero]
    intro r hr
    obtain ⟨-, rfl⟩ := List.mem_replicate.mp hr
    simp only [hb, decide_eq_true_eq]
    exact Ne.symm hk

theorem find?_isSome_iff {t : SlotTable key n} {k : Nat} :
    (t.find? k).isSome = true ↔ 0 < t.mult k := by
  unfold find? mult
  by_cases hk : k = 0
  · simp only [hk, if_true, Nat.lt_irrefl, iff_false, Bool.not_eq_true, Option.isSome_eq_false_iff,
      Option.isNone_iff_eq_none, List.find?_eq_none]
    intro r _
    simp
  · simp only [hk, if_false, List.find?_isSome, List.countP_pos_iff, Bool.and_eq_true,
      decide_eq_true_eq]
    constructor
    · rintro ⟨r, hr, -, h⟩
      exact ⟨r, hr, h⟩
    · rintro ⟨r, hr, h⟩
      exact ⟨r, hr, h ▸ hk, h⟩

theorem find?_eq_none_iff {t : SlotTable key n} {k : Nat} : t.find? k = none ↔ t.mult k = 0 := by
  rw [← Option.not_isSome_iff_eq_none, find?_isSome_iff, Nat.pos_iff_ne_zero, ne_eq, not_not]

/-! ## Free slots -/

theorem isFree_of_freeIdx? {t : SlotTable key n} {i : Nat} (h : t.freeIdx? = some i) :
    t.IsFree i := by
  obtain ⟨hi, hp, -⟩ := List.findIdx?_eq_some_iff_getElem.mp h
  exact ⟨t.slots[i], List.getElem?_eq_getElem hi, by simpa using hp⟩

/-! ## Writing -/

/-- Writing a record into a free slot adds one to its key's number and leaves
all others alone. -/
theorem mult_put_free {t : SlotTable key n} {i : Nat} (h : t.IsFree i) (r : ρ) (k : Nat) :
    (t.put i r).mult k = t.mult k + if k ≠ 0 ∧ key r = k then 1 else 0 := by
  obtain ⟨r₀, hr₀, hfree⟩ := h
  obtain ⟨hi, rfl⟩ := List.getElem?_eq_some_iff.mp hr₀
  unfold mult put
  by_cases hk : k = 0
  · simp [hk]
  · have hold : ¬ key t.slots[i] = k := fun h => hk (h ▸ hfree)
    simp only [hk, if_false, ne_eq, not_false_eq_true, true_and]
    rw [List.countP_set hi]
    simp only [decide_eq_true_eq, hold, if_false, Nat.sub_zero]

/-- Tombstoning a key takes one of its slots away, if it has any. -/
theorem mult_clear {t : SlotTable key n} {blank : ρ} (hb : key blank = 0) (k k' : Nat) :
    (t.clear k blank).mult k' = if k' = k then t.mult k - 1 else t.mult k' := by
  unfold clear
  cases hidx : t.slots.findIdx? fun r => decide (key r = k) with
  | none =>
      have hnone : t.mult k = 0 := by
        unfold mult
        split
        · rfl
        · rw [List.countP_eq_zero]
          intro r hr
          rw [List.findIdx?_eq_none_iff.mp hidx r hr]
          exact Bool.false_ne_true
      by_cases hk : k' = k
      · subst hk; simp [hnone]
      · simp [hk]
  | some i =>
      obtain ⟨hi, hp, -⟩ := List.findIdx?_eq_some_iff_getElem.mp hidx
      simp only [decide_eq_true_eq] at hp
      unfold mult put
      by_cases hk' : k' = 0
      · subst hk'
        by_cases hk : 0 = k
        · subst hk; simp
        · simp [hk]
      · have hblank : ¬ key blank = k' := fun h => hk' (h ▸ hb)
        simp only [hk', if_false]
        rw [List.countP_set hi]
        simp only [decide_eq_true_eq, hblank, if_false, Nat.add_zero, hp]
        by_cases hk : k' = k
        · subst hk; simp [hk']
        · simp [hk, Ne.symm hk]

/-- There is nothing to tombstone under a key that is not there. -/
theorem clear_of_find?_eq_none {t : SlotTable key n} {k : Nat} {blank : ρ} (hk : k ≠ 0)
    (h : t.find? k = none) : t.clear k blank = t := by
  have hnone : t.slots.findIdx? (fun r => decide (key r = k)) = none := by
    rw [List.findIdx?_eq_none_iff]
    intro r hr
    have hr' := List.find?_eq_none.mp h r hr
    by_cases hkey : key r = k
    · simp only [hkey, hk, ne_eq, not_false_eq_true, decide_true, Bool.and_self,
        not_true_eq_false] at hr'
    · exact decide_eq_false hkey
  unfold clear
  rw [hnone]

/-- Tombstoning a key that is there overwrites the record that is found under it. -/
theorem clear_eq_put {t : SlotTable key n} {k : Nat} {r : ρ} (blank : ρ) (h : t.find? k = some r) :
    ∃ i, t.slots[i]? = some r ∧ t.clear k blank = t.put i blank := by
  obtain ⟨i, hi, hr, hfirst⟩ := List.find?_eq_some_iff_getElem.mp h |>.2
  have hp := (List.find?_eq_some_iff_getElem.mp h).1
  simp only [Bool.and_eq_true, decide_eq_true_eq] at hp
  have hidx : t.slots.findIdx? (fun r => decide (key r = k)) = some i := by
    refine List.findIdx?_eq_some_iff_getElem.mpr ⟨hi, by simp [hr, hp.2], fun j hj => ?_⟩
    have hother := hfirst j hj
    simp only [Bool.not_and, Bool.or_eq_true, Bool.not_eq_true', decide_eq_false_iff_not,
      not_not] at hother
    rw [decide_eq_true_eq]
    rintro hkey
    rcases hother with hzero | hne
    · exact hp.1 (hp.2.trans (hkey ▸ hzero))
    · exact hne hkey
  refine ⟨i, by rw [List.getElem?_eq_getElem hi, hr], ?_⟩
  unfold clear
  rw [hidx]

/-- Writing a slot takes the old record out of a count and the new one in. -/
theorem countP_put {t : SlotTable key n} {i : Nat} {r₀ : ρ} (h : t.slots[i]? = some r₀) (r : ρ)
    (p : ρ → Bool) : (t.put i r).slots.countP p + (if p r₀ then 1 else 0) =
      t.slots.countP p + if p r then 1 else 0 := by
  obtain ⟨hi, rfl⟩ := List.getElem?_eq_some_iff.mp h
  have hpos : p t.slots[i] = true → 0 < t.slots.countP p := fun hp =>
    List.countP_pos_iff.mpr ⟨_, List.getElem_mem hi, hp⟩
  unfold put
  rw [List.countP_set hi]
  split
  · next hp =>
    have := hpos hp
    omega
  · omega

/-- Writing one slot leaves the others free. -/
theorem isFree_put_ne {t : SlotTable key n} {i j : Nat} {r : ρ} (hne : j ≠ i)
    (h : t.IsFree j) : (t.put i r).IsFree j := by
  obtain ⟨r₀, hr₀, hfree⟩ := h
  refine ⟨r₀, ?_, hfree⟩
  rw [← hr₀]
  exact List.getElem?_set_ne (Ne.symm hne)

theorem isFree_replicate {blank : ρ} (hb : key blank = 0) {i : Nat} (hi : i < n) :
    (replicate blank : SlotTable key n).IsFree i := by
  refine ⟨blank, ?_, hb⟩
  rw [replicate, List.getElem?_replicate, if_pos hi]

/-- Tombstoning keeps free slots free. -/
theorem isFree_clear {t : SlotTable key n} {k j : Nat} {blank : ρ} (hb : key blank = 0)
    (h : t.IsFree j) : (t.clear k blank).IsFree j := by
  unfold clear
  split
  · exact h
  · next i _ =>
    by_cases hji : j = i
    · subst hji
      obtain ⟨r₀, hr₀, -⟩ := h
      obtain ⟨hj, -⟩ := List.getElem?_eq_some_iff.mp hr₀
      exact ⟨blank, List.getElem?_set_self hj, hb⟩
    · exact isFree_put_ne hji h

/-- A table with a free slot finds one. -/
theorem freeIdx?_ne_none {t : SlotTable key n} {i : Nat} (h : t.IsFree i) : t.freeIdx? ≠ none := by
  obtain ⟨r, hr, hfree⟩ := h
  intro hc
  have hnone := List.findIdx?_eq_none_iff.mp hc r (List.mem_of_getElem? hr)
  simp [hfree] at hnone

/-- Tombstoning a key that is live makes room. -/
theorem freeIdx?_clear_ne_none {t : SlotTable key n} {k : Nat} {blank : ρ} (hb : key blank = 0)
    (hk : t.mult k ≠ 0) : (t.clear k blank).freeIdx? ≠ none := by
  obtain ⟨r, hr⟩ := Option.ne_none_iff_exists'.mp fun hc => hk (find?_eq_none_iff.mp hc)
  have hmem := List.mem_of_find?_eq_some hr
  have hkey := List.find?_some hr
  simp only [Bool.and_eq_true, decide_eq_true_eq] at hkey
  unfold clear
  cases hidx : t.slots.findIdx? fun r => decide (key r = k) with
  | none =>
      have hnone := List.findIdx?_eq_none_iff.mp hidx r hmem
      simp [hkey.2] at hnone
  | some i =>
      obtain ⟨hi, -, -⟩ := List.findIdx?_eq_some_iff_getElem.mp hidx
      exact freeIdx?_ne_none (i := i) ⟨blank, List.getElem?_set_self hi, hb⟩

/-- What can be found after a write could be before, or has been written. -/
theorem find?_put_isSome {t : SlotTable key n} {i k : Nat} {r : ρ}
    (h : ((t.put i r).find? k).isSome = true) : (t.find? k).isSome = true ∨ key r = k := by
  unfold find? at h ⊢
  obtain ⟨r', hmem, hkey⟩ := List.find?_isSome.mp h
  rcases List.mem_or_eq_of_mem_set hmem with hold | rfl
  · exact Or.inl (List.find?_isSome.mpr ⟨r', hold, hkey⟩)
  · rw [Bool.and_eq_true, decide_eq_true_eq, decide_eq_true_eq] at hkey
    exact Or.inr hkey.2

theorem find?_clear_isSome {t : SlotTable key n} {k k' : Nat} {blank : ρ} (hb : key blank = 0)
    (h : ((t.clear k blank).find? k').isSome = true) : (t.find? k').isSome = true := by
  rw [find?_isSome_iff, mult_clear hb] at h
  rw [find?_isSome_iff]
  split at h
  next heq =>
    subst heq
    omega
  · exact h

/-! ## Live records -/

/-- `r` sits in a slot that is not free. -/
def Live (t : SlotTable key n) (r : ρ) : Prop := r ∈ t.slots ∧ key r ≠ 0

theorem mult_eq_zero_iff {t : SlotTable key n} {k : Nat} (hk : k ≠ 0) :
    t.mult k = 0 ↔ ∀ r, t.Live r → key r ≠ k := by
  simp only [mult, hk, if_false, List.countP_eq_zero, decide_eq_true_eq]
  constructor
  · intro h r hr
    exact h r hr.1
  · intro h r hr hkey
    exact h r ⟨hr, hkey ▸ hk⟩ hkey

theorem live_of_find? {t : SlotTable key n} {k : Nat} {r : ρ} (h : t.find? k = some r) :
    t.Live r ∧ key r = k := by
  have hp := List.find?_some h
  simp only [Bool.and_eq_true, decide_eq_true_eq] at hp
  exact ⟨⟨List.mem_of_find?_eq_some h, hp.1⟩, hp.2⟩

theorem not_live_replicate {blank r : ρ} (hb : key blank = 0) :
    ¬ (replicate blank : SlotTable key n).Live r := by
  rintro ⟨hr, hkey⟩
  obtain ⟨-, rfl⟩ := List.mem_replicate.mp hr
  exact hkey hb

/-- A record in a slot that is in use stays when a free slot is filled. -/
theorem Live.put_free {t : SlotTable key n} {i : Nat} {r' : ρ} (hlive : t.Live r')
    (h : t.IsFree i) (r : ρ) : (t.put i r).Live r' := by
  obtain ⟨r₀, hr₀, hfree⟩ := h
  obtain ⟨hi, rfl⟩ := List.getElem?_eq_some_iff.mp hr₀
  obtain ⟨hmem, hkey⟩ := hlive
  obtain ⟨j, hj, rfl⟩ := List.getElem_of_mem hmem
  have hne : i ≠ j := fun h => hkey (by subst h; exact hfree)
  have hget : (t.slots.set i r)[j]? = some t.slots[j] := by
    rw [List.getElem?_set_ne hne, List.getElem?_eq_getElem hj]
  exact ⟨List.mem_of_getElem? hget, hkey⟩

theorem live_put_free {t : SlotTable key n} {i : Nat} {r r' : ρ} (h : t.IsFree i)
    (hr : key r ≠ 0) : (t.put i r).Live r' ↔ t.Live r' ∨ r' = r := by
  constructor
  · rintro ⟨hmem, hkey⟩
    exact (List.mem_or_eq_of_mem_set hmem).imp (fun h => ⟨h, hkey⟩) id
  · rintro (hlive | rfl)
    · exact hlive.put_free h r
    · obtain ⟨r₀, hr₀, -⟩ := h
      obtain ⟨hi, -⟩ := List.getElem?_eq_some_iff.mp hr₀
      exact ⟨List.mem_set hi r', hr⟩

/-- A free record in a free slot makes no difference. -/
theorem live_put_blank {t : SlotTable key n} {i : Nat} {r r' : ρ} (h : t.IsFree i)
    (hr : key r = 0) : (t.put i r).Live r' ↔ t.Live r' := by
  constructor
  · rintro ⟨hmem, hkey⟩
    refine ⟨(List.mem_or_eq_of_mem_set hmem).resolve_right fun heq => ?_, hkey⟩
    exact hkey (heq ▸ hr)
  · intro hlive
    exact hlive.put_free h r

/-- Tombstoning a key held once takes its record away and leaves the others. -/
theorem live_clear {t : SlotTable key n} {k : Nat} {blank r : ρ} (hb : key blank = 0)
    (hk : k ≠ 0) (honce : t.mult k ≤ 1) : (t.clear k blank).Live r ↔ t.Live r ∧ key r ≠ k := by
  have hgone : (t.clear k blank).mult k = 0 := by
    rw [mult_clear hb, if_pos rfl]
    omega
  constructor
  · intro hr
    refine ⟨⟨?_, hr.2⟩, (mult_eq_zero_iff hk).mp hgone r hr⟩
    have hmem := hr.1
    unfold clear at hmem
    split at hmem
    · exact hmem
    · exact (List.mem_or_eq_of_mem_set hmem).resolve_right fun h => hr.2 (h ▸ hb)
  · rintro ⟨⟨hmem, hkey⟩, hne⟩
    unfold clear
    split
    · exact ⟨hmem, hkey⟩
    · next i hi =>
      obtain ⟨hlt, hp, -⟩ := List.findIdx?_eq_some_iff_getElem.mp hi
      obtain ⟨j, hj, rfl⟩ := List.getElem_of_mem hmem
      have hij : i ≠ j := fun h => hne (by subst h; simpa using hp)
      have hget : (t.put i blank).slots[j]? = some t.slots[j] := by
        unfold put
        rw [List.getElem?_set_ne hij, List.getElem?_eq_getElem hj]
      exact ⟨List.mem_of_getElem? hget, hkey⟩

/-- Key zero, or one that is not there: no record goes. -/
theorem live_clear_absent {t : SlotTable key n} {k : Nat} {r blank : ρ} (hb : key blank = 0)
    (hk : t.find? k = none) : (t.clear k blank).Live r ↔ t.Live r := by
  by_cases hzero : k = 0
  · subst hzero
    unfold clear
    split
    · exact Iff.rfl
    · next j hj => exact live_put_blank (isFree_of_freeIdx? hj) hb
  · rw [clear_of_find?_eq_none hzero hk]

/-- A record that is written and taken back leaves the records as they were. -/
theorem live_clear_put {t : SlotTable key n} {k i : Nat} {r r' blank : ρ} (hb : key blank = 0)
    (hk : t.find? k = none) (hi : t.IsFree i) (hr : key r = k) :
    ((t.put i r).clear k blank).Live r' ↔ t.Live r' := by
  by_cases hzero : k = 0
  · -- such a record does not count
    subst hzero
    exact (live_clear_absent hb (find?_eq_none_iff.mpr (mult_zero _))).trans
      (live_put_blank hi hr)
  · have hnone : t.mult k = 0 := find?_eq_none_iff.mp hk
    have honce : (t.put i r).mult k ≤ 1 := by
      rw [mult_put_free hi, hnone]
      split <;> omega
    rw [live_clear hb hzero honce, live_put_free hi (hr ▸ hzero)]
    constructor
    · rintro ⟨hlive | rfl, hne⟩
      · exact hlive
      · exact absurd hr hne
    · intro hlive
      exact ⟨Or.inl hlive, (mult_eq_zero_iff hzero).mp hnone r' hlive⟩

/-! ## Two tables alike

Slot by slot the records of two tables are related, for instance equal but for
their keys. Scans then stop at the same slot. -/

section Alike
variable {r : ρ → ρ → Prop} {t t' : SlotTable key n} {k k' : Nat}

def Alike (r : ρ → ρ → Prop) (t t' : SlotTable key n) : Prop := List.Forall₂ r t.slots t'.slots

theorem findIdx?_forall₂ {l l' : List ρ} {p q : ρ → Bool} (h : List.Forall₂ r l l')
    (hpq : ∀ a b, r a b → p a = q b) : l.findIdx? p = l'.findIdx? q := by
  induction h with
  | nil => rfl
  | cons hab _ ih => rw [List.findIdx?_cons, List.findIdx?_cons, hpq _ _ hab, ih]

theorem find?_forall₂ {l l' : List ρ} {p q : ρ → Bool} (h : List.Forall₂ r l l')
    (hpq : ∀ a b, r a b → p a = q b) : Option.Rel r (l.find? p) (l'.find? q) := by
  induction h with
  | nil => exact .none
  | @cons a b l l' hab _ ih =>
      rw [List.find?_cons, List.find?_cons, hpq a b hab]
      cases q b with
      | true => exact .some hab
      | false => exact ih

theorem alike_replicate {blank : ρ} (h : r blank blank) :
    Alike r (replicate blank : SlotTable key n) (replicate blank) := by
  unfold Alike replicate
  induction n with
  | zero => exact .nil
  | succ n ih => exact .cons h ih

theorem set_forall₂ {l l' : List ρ} (h : List.Forall₂ r l l') (i : Nat) {a b : ρ} (hab : r a b) :
    List.Forall₂ r (l.set i a) (l'.set i b) := by
  induction h generalizing i with
  | nil => exact .nil
  | cons hxy hl ih =>
      cases i with
      | zero => exact .cons hab hl
      | succ i => exact .cons hxy (ih i)

theorem Alike.put (h : Alike r t t') (i : Nat) {a b : ρ} (hab : r a b) :
    Alike r (t.put i a) (t'.put i b) := set_forall₂ h i hab

theorem Alike.freeIdx? (h : Alike r t t') (hkey : ∀ a b, r a b → (key a = 0 ↔ key b = 0)) :
    t.freeIdx? = t'.freeIdx? := by
  refine findIdx?_forall₂ h fun a b hab => ?_
  rw [decide_eq_decide]
  exact hkey a b hab

theorem Alike.find? (h : Alike r t t')
    (hkey : ∀ a b, r a b → (key a = 0 ↔ key b = 0) ∧ (key a = k ↔ key b = k')) :
    Option.Rel r (t.find? k) (t'.find? k') := by
  refine find?_forall₂ h fun a b hab => ?_
  obtain ⟨hzero, hk⟩ := hkey a b hab
  rw [decide_eq_decide.mpr (not_congr hzero), decide_eq_decide.mpr hk]

theorem Alike.clear (h : Alike r t t') (hkey : ∀ a b, r a b → (key a = k ↔ key b = k'))
    {blank : ρ} (hblank : r blank blank) : Alike r (t.clear k blank) (t'.clear k' blank) := by
  have hidx : (t.slots.findIdx? fun a => decide (key a = k)) =
      t'.slots.findIdx? fun b => decide (key b = k') := by
    refine findIdx?_forall₂ h fun a b hab => ?_
    rw [decide_eq_decide]
    exact hkey a b hab
  unfold SlotTable.clear
  rw [hidx]
  split
  · exact h
  · exact h.put _ hblank

end Alike
end SlotTable
