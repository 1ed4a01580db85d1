import Mathlib.Data.List.Induction
import Mathlib.Data.Multiset.AddSub
import Mathlib.Data.Multiset.ZeroCons
import Mathlib.Tactic.Common

/-! # What was acquired, and what was given back

A program acquires things and releases them. It is neutral if it never releases what it
does not hold, and holds nothing in the end. A ledger follows the program: it keeps what
is held, and what was released too often. -/

universe u v

inductive Entry (τ : Type u) where
  | acquire (x : τ)
  | release (x : τ)
  deriving DecidableEq, Repr

/-- Each thing is released as often as it was acquired, and at no time more often. -/
structure Neutral {τ : Type u} [DecidableEq τ] (es : List (Entry τ)) : Prop where
  owned : ∀ x, ∀ es' : List (Entry τ), es' <+: es →
    es'.count (.release x) ≤ es'.count (.acquire x)
  settled : ∀ x, es.count (.release x) = es.count (.acquire x)

/-- What is held, what was released without being held, and remarks on the way. -/
@[ext]
structure Ledger (τ : Type u) (β : Type v) where
  held : Multiset τ
  excess : Multiset τ
  noted : List β

namespace Ledger
variable {τ : Type u} {β : Type v}

def blank : Ledger τ β := ⟨0, 0, []⟩

def acquire (l : Ledger τ β) (x : τ) : Ledger τ β := { l with held := x ::ₘ l.held }

def note (l : Ledger τ β) (b : β) : Ledger τ β := { l with noted := l.noted ++ [b] }

/-- One ledger on top of another. -/
def add (l d : Ledger τ β) : Ledger τ β :=
  ⟨d.held + l.held, d.excess + l.excess, l.noted ++ d.noted⟩

@[simp] theorem add_blank (l : Ledger τ β) : l.add blank = l := by
  simp [add, blank]

@[simp] theorem blank_add (d : Ledger τ β) : blank.add d = d := by
  simp [add, blank]

theorem add_assoc (l d e : Ledger τ β) : (l.add d).add e = l.add (d.add e) := by
  simp [add, Multiset.add_assoc]

theorem acquire_comm (l : Ledger τ β) (x y : τ) :
    (l.acquire x).acquire y = (l.acquire y).acquire x := by
  rw [acquire, acquire, acquire, acquire, Multiset.cons_swap]

@[simp] theorem add_acquire (l d : Ledger τ β) (x : τ) :
    (l.acquire x).add d = (l.add d).acquire x := by
  simp [add, acquire]

/-- Many at once. -/
def acquires (l : Ledger τ β) (xs : List τ) : Ledger τ β := xs.foldl acquire l

@[simp] theorem acquires_nil (l : Ledger τ β) : l.acquires [] = l := rfl

@[simp] theorem acquires_cons (l : Ledger τ β) (x : τ) (xs : List τ) :
    l.acquires (x :: xs) = (l.acquires xs).acquire x := by
  induction xs generalizing l with
  | nil => rfl
  | cons y xs ih =>
      have hstep : l.acquires (x :: y :: xs) = ((l.acquire x).acquire y).acquires xs := rfl
      rw [hstep, acquire_comm]
      exact ih (l.acquire y)

@[simp] theorem acquire_acquires (l : Ledger τ β) (x : τ) (xs : List τ) :
    (l.acquire x).acquires xs = (l.acquires xs).acquire x :=
  acquires_cons l x xs

theorem acquires_append (l : Ledger τ β) (xs ys : List τ) :
    l.acquires (xs ++ ys) = (l.acquires xs).acquires ys :=
  List.foldl_append

theorem acquires_eq (l : Ledger τ β) (xs : List τ) :
    l.acquires xs = { l with held := (xs : Multiset τ) + l.held } := by
  induction xs with
  | nil => simp
  | cons x xs ih =>
      rw [acquires_cons, ih, acquire, ← Multiset.cons_coe, Multiset.cons_add]

theorem acquires_perm {xs ys : List τ} (l : Ledger τ β) (h : xs.Perm ys) :
    l.acquires xs = l.acquires ys := by
  rw [acquires_eq, acquires_eq, Multiset.coe_eq_coe.mpr h]

/-- Many remarks at once. -/
def notes (l : Ledger τ β) (bs : List β) : Ledger τ β := { l with noted := l.noted ++ bs }

@[simp] theorem notes_nil (l : Ledger τ β) : l.notes [] = l := by simp [notes]

theorem notes_note (l : Ledger τ β) (b : β) (bs : List β) :
    (l.note b).notes bs = l.notes (b :: bs) := by
  simp [notes, note]

@[simp] theorem note_acquire (l : Ledger τ β) (x : τ) (b : β) :
    (l.acquire x).note b = (l.note b).acquire x := rfl

@[simp] theorem note_acquires (l : Ledger τ β) (xs : List τ) (b : β) :
    (l.acquires xs).note b = (l.note b).acquires xs := by
  rw [acquires_eq, acquires_eq]
  rfl

theorem notes_acquires (l : Ledger τ β) (bs : List β) (xs : List τ) :
    (l.notes bs).acquires xs = l.add ⟨xs, 0, bs⟩ := by
  rw [acquires_eq]
  simp [notes, add]

theorem notes_eq_add (l : Ledger τ β) (bs : List β) : l.notes bs = l.add ⟨0, 0, bs⟩ := by
  simp [notes, add]

@[simp] theorem add_acquires (l d : Ledger τ β) (xs : List τ) :
    (l.acquires xs).add d = (l.add d).acquires xs := by
  induction xs with
  | nil => rfl
  | cons x xs ih => rw [acquires_cons, acquires_cons, add_acquire, ih]

theorem add_excess_cons (l : Ledger τ β) (x : τ) (xs : List τ) :
    (l.add ⟨0, {x}, []⟩).add ⟨0, (xs : Multiset τ), []⟩ =
      l.add ⟨0, ((x :: xs : List τ) : Multiset τ), []⟩ := by
  rw [add_assoc, ← Multiset.cons_coe, ← Multiset.singleton_add, Multiset.add_comm {x}]
  simp [add]

theorem mem_acquires {l : Ledger τ β} {xs : List τ} {x : τ} :
    x ∈ (l.acquires xs).held ↔ x ∈ xs ∨ x ∈ l.held := by
  rw [acquires_eq]
  simp

variable [DecidableEq τ]

def release (l : Ledger τ β) (x : τ) : Ledger τ β :=
  if x ∈ l.held then { l with held := l.held.erase x } else { l with excess := x ::ₘ l.excess }

@[simp] theorem release_acquire (l : Ledger τ β) (x : τ) : (l.acquire x).release x = l := by
  have hmem : x ∈ (l.acquire x).held := Multiset.mem_cons_self x l.held
  rw [release, if_pos hmem]
  simp [acquire]

/-- The order of two acquisitions is of no importance. -/
@[simp] theorem release_acquire_acquire (l : Ledger τ β) (x y : τ) :
    ((l.acquire x).acquire y).release x = l.acquire y := by
  rw [acquire_comm, release_acquire]

theorem release_of_notMem {l : Ledger τ β} {x : τ} (h : x ∉ l.held) :
    l.release x = l.add ⟨0, {x}, []⟩ := by
  rw [release, if_neg h]
  simp [add]

@[simp] theorem noted_release (l : Ledger τ β) (x : τ) : (l.release x).noted = l.noted := by
  unfold release
  split
  · rfl
  · rfl

def releases (l : Ledger τ β) (xs : List τ) : Ledger τ β := xs.foldl release l

@[simp] theorem releases_nil (l : Ledger τ β) : l.releases [] = l := rfl

@[simp] theorem releases_cons (l : Ledger τ β) (x : τ) (xs : List τ) :
    l.releases (x :: xs) = (l.release x).releases xs := rfl

@[simp] theorem releases_acquires (l : Ledger τ β) (xs : List τ) :
    (l.acquires xs).releases xs = l := by
  induction xs with
  | nil => rfl
  | cons x xs ih => rw [acquires_cons, releases_cons, release_acquire, ih]

/-! ## Neutral lists of entries -/

def enter (l : Ledger τ β) : Entry τ → Ledger τ β
  | .acquire x => l.acquire x
  | .release x => l.release x

def enters (l : Ledger τ β) (es : List (Entry τ)) : Ledger τ β := es.foldl enter l

@[simp] theorem enters_nil (l : Ledger τ β) : l.enters [] = l := rfl

@[simp] theorem enters_cons (l : Ledger τ β) (e : Entry τ) (es : List (Entry τ)) :
    l.enters (e :: es) = (l.enter e).enters es := rfl

theorem enters_append (l : Ledger τ β) (es fs : List (Entry τ)) :
    l.enters (es ++ fs) = (l.enters es).enters fs :=
  List.foldl_append

/-- The books are balanced in every thing. -/
theorem count_enters (l : Ledger τ β) (es : List (Entry τ)) (x : τ) :
    (l.enters es).held.count x + es.count (.release x) + l.excess.count x =
      l.held.count x + es.count (.acquire x) + (l.enters es).excess.count x := by
  induction es generalizing l with
  | nil => simp
  | cons e es ih =>
      have hrest := ih (l.enter e)
      cases e with
      | acquire y =>
          by_cases hxy : x = y
          · subst hxy
            simp [enter, acquire] at hrest ⊢
            omega
          · simp [enter, acquire, hxy, Ne.symm hxy] at hrest ⊢
            omega
      | release y =>
          by_cases hmem : y ∈ l.held
          · have hpos : 0 < l.held.count y := Multiset.count_pos.mpr hmem
            by_cases hxy : x = y
            · subst hxy
              simp [enter, release, hmem] at hrest ⊢
              omega
            · simp [enter, release, hmem, hxy, Ne.symm hxy] at hrest ⊢
              omega
          · by_cases hxy : x = y
            · subst hxy
              simp [enter, release, hmem] at hrest ⊢
              omega
            · simp [enter, release, hmem, hxy, Ne.symm hxy] at hrest ⊢
              omega

theorem excess_le_enters (l : Ledger τ β) (es : List (Entry τ)) :
    l.excess ≤ (l.enters es).excess := by
  induction es generalizing l with
  | nil => exact le_refl _
  | cons e es ih =>
      refine le_trans ?_ (ih (l.enter e))
      cases e with
      | acquire y => exact le_refl _
      | release y =>
          by_cases hmem : y ∈ l.held
          · simp [enter, release, hmem]
          · simp [enter, release, hmem, Multiset.le_cons_self]

variable (β) in
/-- From a blank ledger nothing is released too often if no beginning of the list
releases more than it acquires. -/
theorem excess_enters_eq_zero_iff (es : List (Entry τ)) :
    ((blank : Ledger τ β).enters es).excess = 0 ↔ ∀ x, ∀ es' : List (Entry τ), es' <+: es →
      es'.count (.release x) ≤ es'.count (.acquire x) := by
  constructor
  · rintro hexcess x es' ⟨fs, rfl⟩
    have hle := excess_le_enters ((blank : Ledger τ β).enters es') fs
    rw [← enters_append, hexcess] at hle
    have hzero : ((blank : Ledger τ β).enters es').excess = 0 := Multiset.le_zero.mp hle
    have hcount := count_enters (blank : Ledger τ β) es' x
    rw [hzero] at hcount
    simp [blank] at hcount
    omega
  · intro howned
    -- from the end of the list: its last entry is released too often only if it is not held
    induction es using List.reverseRecOn with
    | nil => rfl
    | append_singleton es e ih =>
        have hzero := ih fun x es' hes' => howned x es' (hes'.trans (List.prefix_append es [e]))
        rw [enters_append]
        cases e with
        | acquire y => exact hzero
        | release y =>
            have hcount := count_enters (blank : Ledger τ β) es y
            have hle := howned y (es ++ [.release y]) (List.prefix_refl _)
            rw [hzero] at hcount
            simp [blank] at hcount hle
            have hpos : 0 < ((blank : Ledger τ β).enters es).held.count y := by
              simp only [blank]
              omega
            have hmem := Multiset.count_pos.mp hpos
            simp [enter, release, hmem, hzero]

variable (β) in
/-- A list is neutral if it leaves a blank ledger blank. -/
theorem neutral_iff (es : List (Entry τ)) :
    Neutral es ↔ ((blank : Ledger τ β).enters es).held = 0 ∧
      ((blank : Ledger τ β).enters es).excess = 0 := by
  constructor
  · intro h
    have hexcess := (excess_enters_eq_zero_iff β es).mpr h.owned
    refine ⟨?_, hexcess⟩
    ext x
    have hcount := count_enters (blank : Ledger τ β) es x
    have hsettled := h.settled x
    rw [hexcess] at hcount
    rw [Multiset.count_zero]
    simp only [blank, Multiset.count_zero, Nat.zero_add, Nat.add_zero] at hcount ⊢
    omega
  · rintro ⟨hheld, hexcess⟩
    refine ⟨(excess_enters_eq_zero_iff β es).mp hexcess, fun x => ?_⟩
    have hcount := count_enters (blank : Ledger τ β) es x
    rw [hheld, hexcess] at hcount
    simpa [blank] using hcount

theorem enters_map_acquire (l : Ledger τ β) (xs : List τ) :
    l.enters (xs.map .acquire) = l.acquires xs := by
  rw [enters, List.foldl_map]
  rfl

theorem enters_map_release (l : Ledger τ β) (xs : List τ) :
    l.enters (xs.map .release) = l.releases xs := by
  rw [enters, List.foldl_map]
  rfl

/-- What is acquired and then released leaves nothing behind. -/
theorem neutral_acquires_releases (xs : List τ) :
    Neutral (xs.map Entry.acquire ++ xs.map Entry.release) := by
  rw [neutral_iff Unit, enters_append, enters_map_acquire, enters_map_release, releases_acquires]
  exact ⟨rfl, rfl⟩

end Ledger
