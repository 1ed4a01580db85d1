import Mathlib.Data.List.TakeWhile
import Mathlib.Data.Nat.Bitwise
import Mathlib.Tactic.Common

/-! # Loops over memory made of bytes

Memory is a function from addresses to bytes. Beside it goes a mark that says
whether an access has left the ranges it was allowed in. -/

universe u

/-! ## Counting loops -/

/-- `for (i = 0; i < n; i++) body(i)`. -/
def loop {σ : Type u} : Nat → (Nat → σ → σ) → σ → σ
  | 0, _, s => s
  | n + 1, body, s => body n (loop n body s)

/-- What holds before the loop and is carried on by each turn holds at the end. -/
theorem loop_invariant {σ : Type u} {body : Nat → σ → σ} {s : σ} {n : Nat} (I : Nat → σ → Prop)
    (h₀ : I 0 s) (hstep : ∀ i < n, ∀ t, I i t → I (i + 1) (body i t)) : I n (loop n body s) := by
  induction n with
  | zero => exact h₀
  | succ n ih =>
      apply hstep n (Nat.lt_succ_self n)
      apply ih
      intro i hi
      exact hstep i (Nat.lt_succ_of_lt hi)

theorem loop_congr {σ : Type u} {body body' : Nat → σ → σ} {n : Nat} (s : σ)
    (h : ∀ i < n, body i = body' i) : loop n body s = loop n body' s := by
  induction n with
  | zero => rfl
  | succ n ih =>
      have hrest := ih fun i hi => h i (Nat.lt_succ_of_lt hi)
      rw [loop, loop, hrest, h n (Nat.lt_succ_self n)]

/-- What one turn establishes and the later ones keep holds at the end. -/
theorem loop_of_turn {σ : Type u} {body : Nat → σ → σ} {s : σ} {n i : Nat} (P : σ → Prop)
    (hi : i < n) (h₀ : P (body i (loop i body s)))
    (hstep : ∀ j, i < j → j < n → ∀ t, P t → P (body j t)) : P (loop n body s) := by
  induction n with
  | zero => exact absurd hi (Nat.not_lt_zero i)
  | succ n ih =>
      rcases Nat.lt_succ_iff_lt_or_eq.mp hi with hlt | rfl
      · apply hstep n hlt (Nat.lt_succ_self n)
        apply ih hlt
        intro j hij hj
        exact hstep j hij (Nat.lt_succ_of_lt hj)
      · exact h₀

/-! ## Ranges -/

/-- `size` bytes from `base` on. -/
structure Extent where
  base : Nat
  size : Nat
  deriving DecidableEq, Repr

namespace Extent

def Has (e : Extent) (a : Nat) : Prop := e.base ≤ a ∧ a < e.base + e.size

/-- All of the `n` bytes from `a` on lie in the range. -/
def Spans (e : Extent) (a n : Nat) : Prop := e.base ≤ a ∧ a + n ≤ e.base + e.size

def Apart (e f : Extent) : Prop := e.base + e.size ≤ f.base ∨ f.base + f.size ≤ e.base

instance (e : Extent) (a : Nat) : Decidable (e.Has a) :=
  inferInstanceAs (Decidable (e.base ≤ a ∧ a < e.base + e.size))

instance (e : Extent) (a n : Nat) : Decidable (e.Spans a n) :=
  inferInstanceAs (Decidable (e.base ≤ a ∧ a + n ≤ e.base + e.size))

instance (e f : Extent) : Decidable (e.Apart f) :=
  inferInstanceAs (Decidable (e.base + e.size ≤ f.base ∨ f.base + f.size ≤ e.base))

variable {e f : Extent} {a b n m : Nat}

/-- Parts of ranges that are apart are apart. -/
theorem Apart.of_spans (h : e.Apart f) (ha : e.Spans a n) (hb : f.Spans b m) :
    Apart ⟨a, n⟩ ⟨b, m⟩ := by
  obtain ⟨ha₁, ha₂⟩ := ha
  obtain ⟨hb₁, hb₂⟩ := hb
  rcases h with h | h
  · exact .inl (ha₂.trans (h.trans hb₁))
  · exact .inr (hb₂.trans (h.trans ha₁))

theorem Apart.not_has (h : e.Apart f) (ha : f.Has a) : ¬ e.Has a := by
  intro hin
  obtain ⟨h₁, h₂⟩ := ha
  obtain ⟨h₃, h₄⟩ := hin
  rcases h with h | h
  · exact absurd (Nat.lt_of_lt_of_le h₄ (h.trans h₁)) (Nat.lt_irrefl a)
  · exact absurd (Nat.lt_of_lt_of_le h₂ (h.trans h₃)) (Nat.lt_irrefl a)

end Extent

/-! ## Memory -/

structure Ram where
  bytes : Nat → UInt8
  /-- an access has left its range -/
  wild : Bool

/-- `memcpy`. What it leaves in the destination is fixed only where the two ranges do
not overlap. -/
structure Memcpy where
  run : (Nat → UInt8) → Nat → Nat → Nat → Nat → UInt8
  copies : ∀ bytes dst src n, Extent.Apart ⟨dst, n⟩ ⟨src, n⟩ → ∀ i < n,
    run bytes dst src n (dst + i) = bytes (src + i)
  outside : ∀ bytes dst src n a, ¬ Extent.Has ⟨dst, n⟩ a → run bytes dst src n a = bytes a

/-- A `memcpy` that spoils what it copies between ranges that overlap. -/
def Memcpy.spoiling : Memcpy where
  run bytes dst src n a :=
    if Extent.Has ⟨dst, n⟩ a then
      bytes (src + (a - dst)) + if Extent.Apart ⟨dst, n⟩ ⟨src, n⟩ then 0 else 1
    else bytes a
  copies := by
    intro bytes dst src n hapart i hi
    have hin : Extent.Has ⟨dst, n⟩ (dst + i) := ⟨Nat.le_add_right dst i, Nat.add_lt_add_left hi dst⟩
    simp only [if_pos hin, if_pos hapart, Nat.add_sub_cancel_left, UInt8.add_zero]
  outside := by
    intro bytes dst src n a ha
    simp only [if_neg ha]

/-- What moves bytes between ranges that overlap as between others. -/
def Memcpy.moving : Memcpy where
  run bytes dst src n a := if Extent.Has ⟨dst, n⟩ a then bytes (src + (a - dst)) else bytes a
  copies := by
    intro bytes dst src n _ i hi
    have hin : Extent.Has ⟨dst, n⟩ (dst + i) := ⟨Nat.le_add_right dst i, Nat.add_lt_add_left hi dst⟩
    simp only [if_pos hin, Nat.add_sub_cancel_left]
  outside := by
    intro bytes dst src n a ha
    exact if_neg ha

namespace Ram

/-- An access that is allowed in `e` only. -/
def access (e : Extent) (a n : Nat) (r : Ram) : Ram :=
  { r with wild := r.wild || !decide (e.Spans a n) }

/-- Write bytes from `a` on. -/
def store (e : Extent) (a : Nat) (bs : List UInt8) (r : Ram) : Ram :=
  { r.access e a bs.length with
    bytes := fun b => if a ≤ b ∧ b < a + bs.length then bs.getD (b - a) 0 else r.bytes b }

/-- Copy from the range `e` to the range `f`. -/
def copy (cpy : Memcpy) (f e : Extent) (dst src n : Nat) (r : Ram) : Ram :=
  { (r.access e src n).access f dst n with bytes := cpy.run r.bytes dst src n }

variable {e f : Extent} {r t : Ram} {a n : Nat}

@[simp] theorem access_bytes : (r.access e a n).bytes = r.bytes := rfl

/-- An access inside its range leaves no mark. -/
theorem access_wild (h : e.Spans a n) : (r.access e a n).wild = r.wild := by
  simp [access, h]

/-- An access outside does. -/
theorem access_wild_of_not (h : ¬ e.Spans a n) : (r.access e a n).wild = true := by
  simp [access, h]

theorem store_wild {bs : List UInt8} (h : e.Spans a bs.length) :
    (r.store e a bs).wild = r.wild := access_wild h

theorem store_wild_of (bs : List UInt8) (h : r.wild = true) : (r.store e a bs).wild = true := by
  simp [store, access, h]

theorem store_wild_of_not {bs : List UInt8} (h : ¬ e.Spans a bs.length) :
    (r.store e a bs).wild = true := access_wild_of_not h

theorem copy_wild_eq {cpy : Memcpy} {dst src : Nat} : (r.copy cpy f e dst src n).wild =
    (r.wild || !decide (e.Spans src n) || !decide (f.Spans dst n)) := rfl

theorem copy_wild {cpy : Memcpy} {dst src : Nat} (hsrc : e.Spans src n) (hdst : f.Spans dst n) :
    (r.copy cpy f e dst src n).wild = r.wild :=
  (access_wild hdst).trans (access_wild hsrc)

end Ram

/-! ## What was written -/

/-- `t` is `r` with the bytes `f 0, f 1, …` in the `n` places from `a` on. -/
structure Writes (a n : Nat) (f : Nat → UInt8) (r t : Ram) : Prop where
  inside : ∀ i < n, t.bytes (a + i) = f i
  outside : ∀ b, ¬ Extent.Has ⟨a, n⟩ b → t.bytes b = r.bytes b

/-- The same for `rows` pieces of `len` bytes, `stride` bytes from one to the next. -/
structure WritesGrid (start stride len rows : Nat) (f : Nat → Nat → UInt8) (r t : Ram) :
    Prop where
  inside : ∀ row < rows, ∀ i < len, t.bytes (start + row * stride + i) = f row i
  outside : ∀ b, (∀ row < rows, ¬ Extent.Has ⟨start + row * stride, len⟩ b) →
    t.bytes b = r.bytes b

theorem Ram.store_writes (e : Extent) (a : Nat) (bs : List UInt8) (r : Ram) :
    Writes a bs.length (fun i => bs.getD i 0) r (r.store e a bs) := by
  constructor
  · intro i hi
    show (if a ≤ a + i ∧ a + i < a + bs.length then bs.getD (a + i - a) 0 else _) = _
    rw [if_pos ⟨Nat.le_add_right a i, Nat.add_lt_add_left hi a⟩, Nat.add_sub_cancel_left]
  · intro b hb
    exact if_neg hb

/-- Earlier pieces end before later ones begin. -/
theorem row_before (start : Nat) {stride len row row' i : Nat} (hlen : len ≤ stride)
    (h : row' < row) (hi : i < len) : start + row' * stride + i < start + row * stride := by
  have hnext : (row' + 1) * stride ≤ row * stride := Nat.mul_le_mul_right stride h
  rw [Nat.succ_mul] at hnext
  omega

/-- Parts of the rows of a grid are apart unless they share a column of one row. -/
theorem apart_rows_iff {base stride a b len row row' : Nat} (ha : a + len ≤ stride)
    (hb : b + len ≤ stride) :
    Extent.Apart ⟨base + row * stride + a, len⟩ ⟨base + row' * stride + b, len⟩ ↔
      row ≠ row' ∨ a + len ≤ b ∨ b + len ≤ a := by
  unfold Extent.Apart
  dsimp only
  rcases Nat.lt_trichotomy row row' with hlt | rfl | hlt
  · have hnext : (row + 1) * stride ≤ row' * stride := Nat.mul_le_mul_right stride hlt
    rw [Nat.succ_mul] at hnext
    exact iff_of_true (.inl (by omega)) (.inl (Nat.ne_of_lt hlt))
  · omega
  · have hnext : (row' + 1) * stride ≤ row * stride := Nat.mul_le_mul_right stride hlt
    rw [Nat.succ_mul] at hnext
    exact iff_of_true (.inr (by omega)) (.inl (Nat.ne_of_gt hlt))

/-- A part of one row is apart from the same columns of rows that follow each other exactly
if it lies beside them, above them or below them. -/
theorem apart_rows_below_iff {base stride a b len rows row row' : Nat} (ha : a + len ≤ stride)
    (hb : b + len ≤ stride) :
    (∀ i < rows, Extent.Apart ⟨base + row * stride + a, len⟩
      ⟨base + (row' + i) * stride + b, len⟩) ↔
      a + len ≤ b ∨ b + len ≤ a ∨ row < row' ∨ row' + rows ≤ row := by
  simp only [apart_rows_iff ha hb]
  constructor
  · intro h
    by_contra hnot
    -- the row that meets it
    have hmeet := h (row - row') (by omega)
    omega
  · intro h i hi
    omega

/-- **Writing piece by piece.** Each turn writes its own piece, whatever the earlier
ones have left. -/
theorem writesGrid_loop {start stride len rows : Nat} {f : Nat → Nat → UInt8} {r : Ram}
    {body : Nat → Ram → Ram} (hlen : len ≤ stride)
    (hbody : ∀ row < rows, ∀ t, WritesGrid start stride len row f r t →
      Writes (start + row * stride) len (f row) t (body row t)) :
    WritesGrid start stride len rows f r (loop rows body r) := by
  refine loop_invariant (fun row t => WritesGrid start stride len row f r t) ?_ ?_
  · constructor
    · intro row hrow
      exact absurd hrow (Nat.not_lt_zero row)
    · intro b _
      rfl
  · intro row hrow t ht
    have hw := hbody row hrow t ht
    constructor
    · intro row' hrow' i hi
      rcases Nat.lt_succ_iff_lt_or_eq.mp hrow' with hlt | rfl
      · have hbefore := row_before start hlen hlt hi
        rw [hw.outside _ fun hin => Nat.not_le_of_lt hbefore hin.1]
        exact ht.inside row' hlt i hi
      · exact hw.inside i hi
    · intro b hb
      rw [hw.outside b (hb row (Nat.lt_succ_self row))]
      apply ht.outside
      intro row' hrow'
      exact hb row' (Nat.lt_succ_of_lt hrow')

/-- Pieces without gaps are one piece. -/
theorem WritesGrid.writes {start len rows : Nat} {f : Nat → Nat → UInt8} {r t : Ram}
    (h : WritesGrid start len len rows f r t) :
    Writes start (rows * len) (fun i => f (i / len) (i % len)) r t := by
  constructor
  · intro i hi
    have hpos : 0 < len := by
      apply Nat.pos_of_ne_zero
      rintro rfl
      exact absurd hi (Nat.not_lt_zero i)
    have hrow : i / len < rows := (Nat.div_lt_iff_lt_mul hpos).mpr hi
    have hin := h.inside (i / len) hrow (i % len) (Nat.mod_lt i hpos)
    rw [Nat.add_assoc, Nat.mul_comm, Nat.div_add_mod] at hin
    exact hin
  · intro b hb
    apply h.outside
    intro row hrow hin
    apply hb
    have hend : (row + 1) * len ≤ rows * len := Nat.mul_le_mul_right len hrow
    rw [Nat.succ_mul] at hend
    exact ⟨Nat.le_trans (Nat.le_add_right _ _) hin.1, by have := hin.2; dsimp only at *; omega⟩

/-- A loop whose turns leave no mark leaves none. -/
theorem loop_wild {body : Nat → Ram → Ram} {n : Nat} {r : Ram}
    (h : ∀ i < n, ∀ t, (body i t).wild = t.wild) : (loop n body r).wild = r.wild :=
  loop_invariant (fun _ t => t.wild = r.wild) rfl fun i hi t ht => (h i hi t).trans ht

/-- A loop with a turn that leaves a mark leaves one. -/
theorem loop_wild_of_turn {body : Nat → Ram → Ram} {n i : Nat} {r : Ram} (hi : i < n)
    (h : ∀ t, (body i t).wild = true)
    (hstep : ∀ j t, t.wild = true → (body j t).wild = true) : (loop n body r).wild = true :=
  loop_of_turn (fun t : Ram => t.wild = true) hi (h _) fun j _ _ => hstep j

/-- A byte that no turn writes. -/
theorem loop_bytes {body : Nat → Ram → Ram} {n a : Nat} {r : Ram}
    (h : ∀ i < n, ∀ t, (body i t).bytes a = t.bytes a) :
    (loop n body r).bytes a = r.bytes a :=
  loop_invariant (fun _ t => t.bytes a = r.bytes a) rfl fun i hi t ht => (h i hi t).trans ht

/-- A byte that no turn after one of them writes. -/
theorem loop_bytes_of_turn {body : Nat → Ram → Ram} {n i a : Nat} {r : Ram} (hi : i < n)
    (h : ∀ j, i < j → j < n → ∀ t, (body j t).bytes a = t.bytes a) :
    (loop n body r).bytes a = (body i (loop i body r)).bytes a :=
  loop_of_turn (fun t : Ram => t.bytes a = (body i (loop i body r)).bytes a) hi rfl
    fun j hij hj t ht => (h j hij hj t).trans ht

/-! ## Memories with one byte that differs -/

theorem add_one_ne (b : UInt8) : b + 1 ≠ b := by
  intro h
  have hone : (1 : UInt8) = 0 := by
    rw [← UInt8.add_right_inj b, h, UInt8.add_zero]
  exact absurd hone (by decide)

/-- A memory whose byte at `a`, and no other, is not `b`. -/
def unlike (a : Nat) (b : UInt8) : Nat → UInt8 := fun i => if i = a then b + 1 else b

theorem unlike_ne (a : Nat) (b : UInt8) : unlike a b a ≠ b := by
  rw [unlike, if_pos rfl]
  exact add_one_ne b

theorem unlike_of_ne {a i : Nat} (b : UInt8) (h : i ≠ a) : unlike a b i = b := if_neg h

/-! ## Copying piece by piece -/

section CopyPieces

variable {cpy : Memcpy} {f e : Extent} {start stride len rows : Nat} {src : Nat → Nat} {r : Ram}

/-- Copy pieces to `start` and every `stride` bytes behind. -/
def copyPieces (cpy : Memcpy) (f e : Extent) (start stride len rows : Nat) (src : Nat → Nat) :
    Ram → Ram :=
  loop rows fun row => Ram.copy cpy f e (start + row * stride) (src row) len

/-- The pieces arrive as they were if none is read in or after the turn that writes
over it. -/
theorem copyPieces_writes (hlen : len ≤ stride)
    (h : ∀ row < rows, ∀ row' ≤ row, Extent.Apart ⟨start + row' * stride, len⟩ ⟨src row, len⟩) :
    WritesGrid start stride len rows (fun row i => r.bytes (src row + i)) r
      (copyPieces cpy f e start stride len rows src r) := by
  apply writesGrid_loop hlen
  intro row hrow t ht
  constructor
  · intro i hi
    have hcopied := cpy.copies t.bytes _ _ len (h row hrow row (Nat.le_refl row)) i hi
    refine hcopied.trans (ht.outside _ fun row' hrow' => ?_)
    apply (h row hrow row' (Nat.le_of_lt hrow')).not_has
    exact ⟨Nat.le_add_right _ _, Nat.add_lt_add_left hi _⟩
  · intro b hb
    exact cpy.outside t.bytes _ _ len b hb

theorem copyPieces_wild (hsrc : ∀ row < rows, e.Spans (src row) len)
    (hdst : ∀ row < rows, f.Spans (start + row * stride) len) :
    (copyPieces cpy f e start stride len rows src r).wild = r.wild :=
  loop_wild fun row hrow _ => Ram.copy_wild (hsrc row hrow) (hdst row hrow)

/-- A byte of a piece stays as its own turn leaves it. -/
theorem copyPieces_turn (hlen : len ≤ stride) {row n i : Nat} (hrow : row < n) (hi : i < len) :
    (copyPieces cpy f e start stride len n src r).bytes (start + row * stride + i) =
      cpy.run (copyPieces cpy f e start stride len row src r).bytes (start + row * stride)
        (src row) len (start + row * stride + i) := by
  refine loop_bytes_of_turn hrow fun j hj _ t => cpy.outside t.bytes _ _ len _ fun hin => ?_
  exact absurd hin.1 (Nat.not_le_of_lt (row_before start hlen hj hi))

/-- The first byte of all, as the first turn leaves it. -/
theorem copyPieces_first (hlen : len ≤ stride) (hpos : 0 < len) (hrows : 0 < rows) :
    (copyPieces .spoiling f e start stride len rows src r).bytes start =
      r.bytes (src 0) + if Extent.Apart ⟨start, len⟩ ⟨src 0, len⟩ then 0 else 1 := by
  have hturn : (copyPieces .spoiling f e start stride len rows src r).bytes
      (start + 0 * stride + 0) = _ := copyPieces_turn hlen hrows hpos
  have hhas : Extent.Has ⟨start, len⟩ start := ⟨Nat.le_refl _, Nat.lt_add_of_pos_right hpos⟩
  simp only [Memcpy.spoiling, Nat.zero_mul, Nat.add_zero, if_pos hhas, Nat.sub_self, copyPieces,
    loop] at hturn
  exact hturn

/-- A first piece that overlaps its source may arrive spoiled. -/
theorem copyPieces_overlap (hlen : len ≤ stride) (hpos : 0 < len) (hrows : 0 < rows)
    (h : ¬ Extent.Apart ⟨start, len⟩ ⟨src 0, len⟩) :
    ¬ WritesGrid start stride len rows (fun row i => r.bytes (src row + i)) r
      (copyPieces .spoiling f e start stride len rows src r) := by
  intro hgrid
  have hin := hgrid.inside 0 hrows 0 hpos
  rw [Nat.zero_mul, Nat.add_zero, Nat.add_zero, copyPieces_first hlen hpos hrows, if_neg h] at hin
  exact add_one_ne _ hin

/-- A piece that is read after the first turn has written over it does not arrive. -/
theorem copyPieces_stale (hlen : len ≤ stride) {row i j : Nat} (hfirst : 0 < row)
    (hrow : row < rows) (hi : i < len) (hj : j < len) (hmeet : start + j = src row + i)
    (h₀ : Extent.Apart ⟨start, len⟩ ⟨src 0, len⟩)
    (h : Extent.Apart ⟨start + row * stride, len⟩ ⟨src row, len⟩) : ∃ bytes,
    ¬ WritesGrid start stride len rows (fun row i => bytes (src row + i)) ⟨bytes, false⟩
      (copyPieces cpy f e start stride len rows src ⟨bytes, false⟩) := by
  -- a memory in which only the byte that gets lost differs
  refine ⟨unlike (start + j) 0, fun hgrid => ?_⟩
  have hother : src 0 + j ≠ start + j := by
    intro heq
    have hread : Extent.Has ⟨src 0, len⟩ (src 0 + j) :=
      ⟨Nat.le_add_right _ _, Nat.add_lt_add_left hj _⟩
    apply h₀.not_has hread
    rw [heq]
    exact ⟨Nat.le_add_right _ _, Nat.add_lt_add_left hj _⟩
  have hlost : (copyPieces cpy f e start stride len row src ⟨unlike (start + j) 0, false⟩).bytes
      (start + 0 * stride + j) = 0 := by
    rw [copyPieces_turn hlen hfirst hj, Nat.zero_mul, Nat.add_zero]
    exact (cpy.copies _ _ _ _ h₀ j hj).trans (unlike_of_ne 0 hother)
  have hin := hgrid.inside row hrow i hi
  rw [copyPieces_turn hlen hrow hi, cpy.copies _ _ _ _ h i hi, ← hmeet] at hin
  rw [Nat.zero_mul, Nat.add_zero, hin] at hlost
  exact unlike_ne _ 0 hlost

/-- Pieces that lie as far from each other as their sources: all of them arrive, whatever
`memcpy` and memory do, exactly if none is read in or after the turn that writes over it. -/
theorem copyPieces_writes_iff (hlen : len ≤ stride) (hpos : 0 < len) {source : Nat} :
    (∀ cpy bytes, WritesGrid start stride len rows
      (fun row i => bytes (source + row * stride + i)) ⟨bytes, false⟩
      (copyPieces cpy f e start stride len rows (fun row => source + row * stride)
        ⟨bytes, false⟩)) ↔
      ∀ row < rows, Extent.Apart ⟨start, len⟩ ⟨source + row * stride, len⟩ := by
  constructor
  · intro h row hrow
    have hfirst : Extent.Apart ⟨start, len⟩ ⟨source + 0 * stride, len⟩ := by
      by_contra hover
      exact copyPieces_overlap (r := ⟨fun _ => 0, false⟩) hlen hpos (Nat.zero_lt_of_lt hrow) hover
        (h .spoiling fun _ => 0)
    rcases Nat.eq_zero_or_pos row with rfl | hlater
    · exact hfirst
    by_contra hover
    obtain ⟨hlow, hhigh⟩ := not_or.mp hover
    dsimp only at hlow hhigh
    -- the first place the piece and the source of the later turn share
    have hmeet : ∃ i < len, ∃ j < len, start + j = source + row * stride + i := by
      rcases Nat.le_total start (source + row * stride) with hle | hle
      · exact ⟨0, hpos, source + row * stride - start, by omega, by omega⟩
      · exact ⟨start - (source + row * stride), by omega, 0, hpos, by omega⟩
    obtain ⟨i, hi, j, hj, hmeet⟩ := hmeet
    have hown : Extent.Apart ⟨start + row * stride, len⟩ ⟨source + row * stride, len⟩ := by
      rcases hfirst with hend | hend
      · left
        dsimp only at hend ⊢
        omega
      · right
        dsimp only at hend ⊢
        omega
    obtain ⟨bytes, hbytes⟩ := @copyPieces_stale .spoiling f e start stride len rows
      (fun row => source + row * stride) hlen row i j hlater hrow hi hj hmeet hfirst hown
    exact hbytes (h .spoiling bytes)
  · intro h cpy bytes
    refine @copyPieces_writes cpy f e start stride len rows (fun row => source + row * stride)
      ⟨bytes, false⟩ hlen ?_
    intro row hrow row' hrow'
    obtain ⟨k, rfl⟩ := Nat.exists_eq_add_of_le hrow'
    have hpieces := h k (by omega)
    rw [Nat.add_mul]
    rcases hpieces with hend | hend
    · left
      dsimp only at hend ⊢
      omega
    · right
      dsimp only at hend ⊢
      omega

/-- No piece has left its range. -/
theorem copyPieces_spans (h : (copyPieces cpy f e start stride len rows src r).wild = false)
    {row : Nat} (hrow : row < rows) :
    e.Spans (src row) len ∧ f.Spans (start + row * stride) len := by
  by_contra hnot
  have hwild : (copyPieces cpy f e start stride len rows src r).wild = true := by
    refine loop_wild_of_turn hrow (fun t => ?_) fun j t ht => ?_
    · by_cases hsrc : e.Spans (src row) len
      · exact Ram.access_wild_of_not fun hdst => hnot ⟨hsrc, hdst⟩
      · rw [Ram.copy_wild_eq, decide_eq_false hsrc]
        simp
    · rw [Ram.copy_wild_eq, ht]
      rfl
  rw [h] at hwild
  cases hwild

/-- Between ranges that are apart, every byte is as it was or comes from its place in
some piece. -/
theorem copyPieces_origin (hapart : f.Apart e) (hsrc : ∀ row < rows, e.Spans (src row) len)
    (hdst : ∀ row < rows, f.Spans (start + row * stride) len) (a : Nat) :
    (copyPieces cpy f e start stride len rows src r).bytes a = r.bytes a ∨
      ∃ row < rows, ∃ i < len, a = start + row * stride + i ∧
        (copyPieces cpy f e start stride len rows src r).bytes a = r.bytes (src row + i) := by
  refine (loop_invariant (fun n (t : Ram) => (∀ b, e.Has b → t.bytes b = r.bytes b) ∧
    ∀ b, t.bytes b = r.bytes b ∨ ∃ row < n, ∃ i < len, b = start + row * stride + i ∧
      t.bytes b = r.bytes (src row + i)) ⟨fun _ _ => rfl, fun _ => Or.inl rfl⟩ ?_).2 a
  rintro row hrow t ⟨hsource, horigin⟩
  have hpieces := Extent.Apart.of_spans hapart (hdst row hrow) (hsrc row hrow)
  constructor
  · intro b hb
    refine (cpy.outside t.bytes _ _ len b fun hin => ?_).trans (hsource b hb)
    obtain ⟨hlow, hhigh⟩ := hdst row hrow
    have hf : f.Has b := ⟨Nat.le_trans hlow hin.1, Nat.lt_of_lt_of_le hin.2 hhigh⟩
    rcases hapart with h | h
    · exact absurd (Nat.lt_of_lt_of_le hf.2 (Nat.le_trans h hb.1)) (Nat.lt_irrefl b)
    · exact absurd (Nat.lt_of_lt_of_le hb.2 (Nat.le_trans h hf.1)) (Nat.lt_irrefl b)
  · intro b
    by_cases hin : Extent.Has ⟨start + row * stride, len⟩ b
    · right
      obtain ⟨hlow, hhigh⟩ := hin
      dsimp only at hlow hhigh
      obtain ⟨i, rfl⟩ := Nat.exists_eq_add_of_le hlow
      have hi : i < len := by omega
      refine ⟨row, Nat.lt_succ_self row, i, hi, rfl, ?_⟩
      refine (cpy.copies t.bytes _ _ len hpieces i hi).trans (hsource _ ?_)
      obtain ⟨hl, hh⟩ := hsrc row hrow
      exact ⟨Nat.le_trans hl (Nat.le_add_right _ _),
        Nat.lt_of_lt_of_le (Nat.add_lt_add_left hi _) hh⟩
    · have hkept := cpy.outside t.bytes (start + row * stride) (src row) len b hin
      rcases horigin b with hb | ⟨row', hrow', i, hi, hplace, hb⟩
      · exact Or.inl (hkept.trans hb)
      · exact Or.inr ⟨row', Nat.lt_succ_of_lt hrow', i, hi, hplace, hkept.trans hb⟩

/-- A byte that is to come from another range, whatever is in it, comes from its place
in some piece. -/
theorem copyPieces_source (hapart : f.Apart e) (hsrc : ∀ row < rows, e.Spans (src row) len)
    (hdst : ∀ row < rows, f.Spans (start + row * stride) len) {a b : Nat} (ha : f.Has a)
    (hb : e.Has b)
    (h : ∀ bytes, (copyPieces cpy f e start stride len rows src ⟨bytes, false⟩).bytes a =
      bytes b) : ∃ row < rows, ∃ i < len, a = start + row * stride + i ∧ b = src row + i := by
  have hne : a ≠ b := fun heq => hapart.not_has (heq ▸ hb) ha
  have harrives := h (unlike b 0)
  rcases @copyPieces_origin cpy f e start stride len rows src ⟨unlike b 0, false⟩ hapart hsrc hdst a
    with hkept | ⟨row, hrow, i, hi, hplace, hread⟩
  · rw [hkept] at harrives
    exact absurd (harrives.symm.trans (unlike_of_ne 0 hne)) (unlike_ne b 0)
  · refine ⟨row, hrow, i, hi, hplace, ?_⟩
    by_contra hother
    rw [hread] at harrives
    exact absurd (harrives.symm.trans (unlike_of_ne 0 (Ne.symm hother))) (unlike_ne b 0)

end CopyPieces

/-! ## Copies of no bytes -/

/-- `bcopy`, which does not look at its pointers when there is nothing to copy. -/
def Ram.bcopy (cpy : Memcpy) (f e : Extent) (dst src n : Nat) (r : Ram) : Ram :=
  if n = 0 then r else r.copy cpy f e dst src n

/-- Bytes that are moved arrive as they were. -/
theorem bcopy_moving_writes (f e : Extent) (dst src n : Nat) (r : Ram) :
    Writes dst n (fun i => r.bytes (src + i)) r (r.bcopy .moving f e dst src n) := by
  by_cases hn : n = 0
  · rw [Ram.bcopy, if_pos hn]
    refine ⟨fun i hi => ?_, fun _ _ => rfl⟩
    omega
  · rw [Ram.bcopy, if_neg hn]
    refine ⟨fun i hi => ?_, fun a ha => Memcpy.moving.outside r.bytes dst src n a ha⟩
    have hin : Extent.Has ⟨dst, n⟩ (dst + i) := ⟨Nat.le_add_right dst i, Nat.add_lt_add_left hi dst⟩
    simp only [Ram.copy, Memcpy.moving, if_pos hin, Nat.add_sub_cancel_left]

theorem loop_bcopy (cpy : Memcpy) (f e : Extent) (start stride len rows : Nat) (src : Nat → Nat)
    (r : Ram) :
    loop rows (fun row => Ram.bcopy cpy f e (start + row * stride) (src row) len) r =
      if len = 0 then r else copyPieces cpy f e start stride len rows src r := by
  by_cases hlen : len = 0
  · rw [if_pos hlen]
    refine loop_invariant (fun _ t => t = r) rfl fun row _ t ht => ?_
    rw [Ram.bcopy, if_pos hlen]
    exact ht
  · rw [if_neg hlen]
    refine loop_congr r fun row _ => ?_
    funext t
    exact if_neg hlen

/-! ## Words -/

/-- The four bytes of a 32-bit word, the lowest first. -/
def wordBytes (w : Nat) : List UInt8 :=
  [UInt8.ofNat w, UInt8.ofNat (w >>> 8), UInt8.ofNat (w >>> 16), UInt8.ofNat (w >>> 24)]

/-- The word at an address. -/
def wordAt (bytes : Nat → UInt8) (a : Nat) : Nat :=
  (bytes a).toNat + 2 ^ 8 * (bytes (a + 1)).toNat + 2 ^ 16 * (bytes (a + 2)).toNat +
    2 ^ 24 * (bytes (a + 3)).toNat

theorem wordAt_lt (bytes : Nat → UInt8) (a : Nat) : wordAt bytes a < 2 ^ 32 := by
  have h₀ := (bytes a).toNat_lt
  have h₁ := (bytes (a + 1)).toNat_lt
  have h₂ := (bytes (a + 2)).toNat_lt
  have h₃ := (bytes (a + 3)).toNat_lt
  unfold wordAt
  omega

@[simp] theorem length_wordBytes (w : Nat) : (wordBytes w).length = 4 := rfl

/-- The bytes of a word, put together from bytes, shifted or not. -/
theorem byte_of_word {b₀ b₁ b₂ b₃ : Nat} (h₀ : b₀ < 2 ^ 8) (h₁ : b₁ < 2 ^ 8) (h₂ : b₂ < 2 ^ 8)
    (h₃ : b₃ < 2 ^ 8) :
    let w := b₀ + 2 ^ 8 * b₁ + 2 ^ 16 * b₂ + 2 ^ 24 * b₃
    w &&& 0xFF = b₀ ∧ (w >>> 8) &&& 0xFF = b₁ ∧ (w >>> 16) &&& 0xFF = b₂ ∧
      (w >>> 24) &&& 0xFF = b₃ := by
  intro w
  have hand : ∀ n, n &&& 0xFF = n % 2 ^ 8 := fun n => Nat.and_two_pow_sub_one_eq_mod n 8
  simp only [hand, Nat.shiftRight_eq_div_pow, w]
  omega

/-- Bytes shifted to their places and joined. -/
theorem join_bytes {b₀ b₁ b₂ b₃ : Nat} (h₀ : b₀ < 2 ^ 8) (h₁ : b₁ < 2 ^ 8) (h₂ : b₂ < 2 ^ 8) :
    (b₃ <<< 24) ||| (b₂ <<< 16) ||| (b₁ <<< 8) ||| b₀ =
      b₀ + 2 ^ 8 * b₁ + 2 ^ 16 * b₂ + 2 ^ 24 * b₃ := by
  have h₃₂ : b₃ <<< 24 ||| b₂ <<< 16 = (b₃ * 2 ^ 8 + b₂) <<< 16 := by
    rw [← Nat.shiftLeft_add_eq_or_of_lt (by rw [Nat.shiftLeft_eq]; omega)]
    simp only [Nat.shiftLeft_eq]
    omega
  have h₂₁ : (b₃ * 2 ^ 8 + b₂) <<< 16 ||| b₁ <<< 8 = ((b₃ * 2 ^ 8 + b₂) * 2 ^ 8 + b₁) <<< 8 := by
    rw [← Nat.shiftLeft_add_eq_or_of_lt (by rw [Nat.shiftLeft_eq]; omega)]
    simp only [Nat.shiftLeft_eq]
    omega
  rw [h₃₂, h₂₁, ← Nat.shiftLeft_add_eq_or_of_lt h₀, Nat.shiftLeft_eq]
  omega

/-- A word put together from bytes falls apart into them. -/
theorem wordBytes_of_bytes (b₀ b₁ b₂ b₃ : UInt8) :
    wordBytes (b₀.toNat + 2 ^ 8 * b₁.toNat + 2 ^ 16 * b₂.toNat + 2 ^ 24 * b₃.toNat) =
      [b₀, b₁, b₂, b₃] := by
  have hbyte : ∀ (n : Nat) (b : UInt8), n &&& 0xFF = b.toNat → UInt8.ofNat n = b := by
    intro n b h
    rw [← UInt8.toNat_inj, UInt8.toNat_ofNat', ← h]
    exact (Nat.and_two_pow_sub_one_eq_mod n 8).symm
  obtain ⟨h₀, h₁, h₂, h₃⟩ :=
    byte_of_word b₀.toNat_lt b₁.toNat_lt b₂.toNat_lt b₃.toNat_lt
  rw [wordBytes, hbyte _ _ h₀, hbyte _ _ h₁, hbyte _ _ h₂, hbyte _ _ h₃]

/-! ## Lists of bytes in memory -/

section Peek

variable {bytes : Nat → UInt8} {bs cs : List UInt8} {a b n m : Nat}

/-- The `n` bytes from `a` on. -/
def peek (bytes : Nat → UInt8) (a n : Nat) : List UInt8 := (List.range n).map fun i => bytes (a + i)

/-- Write bytes from `a` on. -/
def poke (bytes : Nat → UInt8) (a : Nat) (bs : List UInt8) : Nat → UInt8 :=
  fun b => if Extent.Has ⟨a, bs.length⟩ b then bs.getD (b - a) 0 else bytes b

@[simp] theorem length_peek : (peek bytes a n).length = n := by
  simp [peek]

theorem peek_congr {bytes' : Nat → UInt8} (h : ∀ i < n, bytes (a + i) = bytes' (a + i)) :
    peek bytes a n = peek bytes' a n := by
  apply List.map_congr_left
  intro i hi
  exact h i (List.mem_range.mp hi)

theorem peek_add : peek bytes a (n + m) = peek bytes a n ++ peek bytes (a + n) m := by
  simp [peek, List.range_add, Nat.add_assoc, Function.comp_def]

theorem poke_of_not_has (h : ¬ Extent.Has ⟨a, bs.length⟩ b) : poke bytes a bs b = bytes b :=
  if_neg h

theorem poke_of_lt {i : Nat} (h : i < bs.length) : poke bytes a bs (a + i) = bs[i] := by
  have hin : Extent.Has ⟨a, bs.length⟩ (a + i) := ⟨Nat.le_add_right a i, Nat.add_lt_add_left h a⟩
  rw [poke, if_pos hin, Nat.add_sub_cancel_left, List.getD_eq_getElem _ _ h]

/-- What was written is read back. -/
theorem peek_poke_same : peek (poke bytes a bs) a bs.length = bs := by
  apply List.ext_getElem length_peek
  intro i _ hi
  simp only [peek, List.getElem_map, List.getElem_range]
  exact poke_of_lt hi

/-- What lies apart from it is kept. -/
theorem peek_poke_apart (h : Extent.Apart ⟨a, bs.length⟩ ⟨b, n⟩) :
    peek (poke bytes a bs) b n = peek bytes b n := by
  apply peek_congr
  intro i hi
  apply poke_of_not_has
  apply h.not_has
  exact ⟨Nat.le_add_right b i, Nat.add_lt_add_left hi b⟩

theorem wordAt_congr {bytes' : Nat → UInt8} (h : ∀ i < 4, bytes (a + i) = bytes' (a + i)) :
    wordAt bytes a = wordAt bytes' a := by
  have h₀ : bytes a = bytes' a := h 0 (by decide)
  rw [wordAt, h₀, h 1 (by decide), h 2 (by decide), h 3 (by decide)]
  rfl

/-- A word that was written is read back, as far as it has 32 bits. -/
theorem wordAt_poke_same (bytes : Nat → UInt8) (a w : Nat) :
    wordAt (poke bytes a (wordBytes w)) a = w % 2 ^ 32 := by
  have hbyte : ∀ i (hi : i < 4), poke bytes a (wordBytes w) (a + i) = (wordBytes w).get ⟨i, hi⟩ :=
    fun i hi => poke_of_lt hi
  have h₀ : poke bytes a (wordBytes w) a = UInt8.ofNat w := hbyte 0 (by decide)
  rw [wordAt, h₀, hbyte 1 (by decide), hbyte 2 (by decide), hbyte 3 (by decide)]
  simp only [wordBytes, List.get_eq_getElem, List.getElem_cons_succ, List.getElem_cons_zero,
    UInt8.toNat_ofNat', Nat.shiftRight_eq_div_pow]
  omega

theorem wordAt_poke_apart (h : Extent.Apart ⟨a, bs.length⟩ ⟨b, 4⟩) :
    wordAt (poke bytes a bs) b = wordAt bytes b := by
  apply wordAt_congr
  intro i hi
  apply poke_of_not_has
  apply h.not_has
  exact ⟨Nat.le_add_right b i, Nat.add_lt_add_left hi b⟩

/-- The eight bytes of a 64-bit word at an address. -/
def pokeLong (bytes : Nat → UInt8) (a w : Nat) : Nat → UInt8 :=
  poke (poke bytes a (wordBytes w)) (a + 4) (wordBytes (w >>> 32))

/-- The 64-bit word at an address. -/
def longAt (bytes : Nat → UInt8) (a : Nat) : Nat := wordAt bytes a + 2 ^ 32 * wordAt bytes (a + 4)

theorem wordAt_poke_word {w : Nat} (h : a + 4 ≤ b ∨ b + 4 ≤ a) :
    wordAt (poke bytes a (wordBytes w)) b = wordAt bytes b := wordAt_poke_apart h

theorem wordAt_pokeLong {w : Nat} (h : a + 8 ≤ b ∨ b + 4 ≤ a) :
    wordAt (pokeLong bytes a w) b = wordAt bytes b := by
  rw [pokeLong, wordAt_poke_word (by omega), wordAt_poke_word (by omega)]

theorem longAt_pokeLong (bytes : Nat → UInt8) (a w : Nat) :
    longAt (pokeLong bytes a w) a = w % 2 ^ 64 := by
  rw [longAt, pokeLong, wordAt_poke_same, wordAt_poke_word (by omega), wordAt_poke_same,
    Nat.shiftRight_eq_div_pow]
  omega

/-- A list read back from memory that begins with it. -/
theorem peek_getD (l : List UInt8) : peek (fun i => l.getD i 0) 0 l.length = l := by
  apply List.ext_getElem length_peek
  intro i _ hi
  simp only [peek, List.getElem_map, List.getElem_range, Nat.zero_add]
  exact List.getD_eq_getElem l 0 hi

/-- A word inside a list that was read. -/
theorem wordAt_peek (h : a + 4 ≤ n) :
    wordAt (fun i => (peek bytes 0 n).getD i 0) a = wordAt bytes a := by
  apply wordAt_congr
  intro i hi
  rw [List.getD_eq_getElem _ _ (by rw [length_peek]; omega)]
  simp [peek]

theorem peek_eq_iff {bytes' : Nat → UInt8} :
    peek bytes 0 n = peek bytes' 0 n ↔ ∀ b < n, bytes b = bytes' b := by
  simp only [peek, Nat.zero_add, List.map_inj_left, List.mem_range]

end Peek

/-! ## Several writes

What memory held before shows through exactly where no write reaches. -/

section PokeAll

variable {bytes : Nat → UInt8} {ws : List (Nat × List UInt8)} {b n : Nat}

/-- Writes, one after the other. -/
def pokeAll (bytes : Nat → UInt8) : List (Nat × List UInt8) → Nat → UInt8
  | [] => bytes
  | w :: ws => pokeAll (poke bytes w.1 w.2) ws

/-- One of the writes reaches the address. -/
def Reaches (ws : List (Nat × List UInt8)) (b : Nat) : Prop :=
  ∃ w ∈ ws, Extent.Has ⟨w.1, w.2.length⟩ b

theorem pokeAll_append (bytes : Nat → UInt8) (ws vs : List (Nat × List UInt8)) :
    pokeAll bytes (ws ++ vs) = pokeAll (pokeAll bytes ws) vs := by
  induction ws generalizing bytes with
  | nil => rfl
  | cons w ws ih => exact ih _

theorem reaches_append {vs : List (Nat × List UInt8)} :
    Reaches (ws ++ vs) b ↔ Reaches ws b ∨ Reaches vs b := by
  simp only [Reaches, List.mem_append, or_and_right, exists_or]

theorem pokeAll_of_not_reaches (h : ¬ Reaches ws b) : pokeAll bytes ws b = bytes b := by
  induction ws generalizing bytes with
  | nil => rfl
  | cons w ws ih =>
      have hrest : ¬ Reaches ws b := fun ⟨v, hv, hb⟩ => h ⟨v, List.mem_cons_of_mem w hv, hb⟩
      rw [pokeAll, ih hrest]
      exact poke_of_not_has fun hb => h ⟨w, List.mem_cons_self, hb⟩

theorem pokeAll_of_reaches (h : Reaches ws b) (bytes bytes' : Nat → UInt8) :
    pokeAll bytes ws b = pokeAll bytes' ws b := by
  induction ws generalizing bytes bytes' with
  | nil =>
      obtain ⟨w, hw, -⟩ := h
      cases hw
  | cons w ws ih =>
      by_cases hrest : Reaches ws b
      · exact ih hrest _ _
      · -- the first write is the last to reach the address
        obtain ⟨v, hv, hb⟩ := h
        have hvw : v = w := by
          rcases List.mem_cons.mp hv with hvw | hv
          · exact hvw
          · exact absurd ⟨v, hv, hb⟩ hrest
        subst hvw
        rw [pokeAll, pokeAll, pokeAll_of_not_reaches hrest, pokeAll_of_not_reaches hrest, poke,
          poke, if_pos hb, if_pos hb]

/-- Memory read after the same writes is the same if it was where no write reaches. -/
theorem peek_pokeAll_eq_iff {bytes' : Nat → UInt8} :
    peek (pokeAll bytes ws) 0 n = peek (pokeAll bytes' ws) 0 n ↔
      ∀ b < n, ¬ Reaches ws b → bytes b = bytes' b := by
  rw [peek_eq_iff]
  refine forall₂_congr fun b _ => ?_
  by_cases hb : Reaches ws b
  · exact iff_of_true (pokeAll_of_reaches hb _ _) fun h => absurd hb h
  · rw [pokeAll_of_not_reaches hb, pokeAll_of_not_reaches hb]
    exact ⟨fun h _ => h, fun h => h hb⟩

end PokeAll

/-! ## Strings that end with a zero -/

section CString

variable {l l' t : List UInt8}

/-- The bytes before the first zero. -/
def untilZero (l : List UInt8) : List UInt8 := l.takeWhile (· ≠ 0)

/-- The string at the front; `none` if it does not end. -/
def cString (l : List UInt8) : Option (List UInt8) := if 0 ∈ l then some (untilZero l) else none

theorem untilZero_append_of_not_mem (h : 0 ∉ l) : untilZero (l ++ t) = l ++ untilZero t := by
  apply List.takeWhile_append_of_pos
  intro b hb
  simpa using ne_of_mem_of_not_mem hb h

theorem untilZero_of_not_mem (h : 0 ∉ l) : untilZero l = l := by
  simpa [untilZero] using untilZero_append_of_not_mem (t := []) h

theorem not_mem_untilZero : 0 ∉ untilZero l := by
  intro h
  simpa using List.mem_takeWhile_imp h

theorem untilZero_append_of_mem (h : 0 ∈ l) : untilZero (l ++ t) = untilZero l := by
  induction l with
  | nil => simp at h
  | cons b l ih =>
      by_cases hb : b = 0
      · simp [untilZero, hb]
      · have hl : 0 ∈ l := (List.mem_cons.mp h).resolve_left (Ne.symm hb)
        simp only [untilZero] at ih ⊢
        rw [List.cons_append, List.takeWhile_cons, List.takeWhile_cons, ih hl]

theorem length_untilZero (h : 0 ∈ l) : (untilZero l).length < l.length := by
  have hfront : untilZero l <+: l := List.takeWhile_prefix _
  refine lt_of_le_of_ne hfront.length_le fun heq => not_mem_untilZero (l := l) ?_
  rwa [hfront.eq_of_length heq]

theorem cString_append_of_mem (h : 0 ∈ l) : cString (l ++ t) = some (untilZero l) := by
  rw [cString, if_pos (List.mem_append_left t h), untilZero_append_of_mem h]

theorem cString_append_of_not_mem (h : 0 ∉ l) : cString (l ++ t) = (cString t).map (l ++ ·) := by
  by_cases ht : 0 ∈ t
  · rw [cString, cString, if_pos (List.mem_append_right l ht), if_pos ht,
      untilZero_append_of_not_mem h, Option.map_some]
  · rw [cString, cString, if_neg (by simp [h, ht]), if_neg ht, Option.map_none]

/-- A string that ends in `l` and one that does not end in `l'` differ. -/
theorem untilZero_ne (hlen : l.length = l'.length) (h : 0 ∈ l) : untilZero l ≠ l' ++ t := by
  intro heq
  have hshort := length_untilZero h
  rw [heq, List.length_append] at hshort
  omega

/-- Another beginning of the same length gives the same string if the two agree up to
their zeros, or if no string ends at all. -/
theorem cString_append_inj (hlen : l.length = l'.length) :
    cString (l ++ t) = cString (l' ++ t) ↔
      untilZero l = untilZero l' ∨ (0 ∉ l ∧ 0 ∉ l' ∧ 0 ∉ t) := by
  by_cases h : 0 ∈ l
  · have hne : ∀ u, untilZero l ≠ l' ++ u := fun u => untilZero_ne hlen h
    rw [cString_append_of_mem h]
    by_cases h' : 0 ∈ l'
    · simp [cString_append_of_mem h', h]
    · have hself := hne []
      rw [List.append_nil] at hself
      rw [cString_append_of_not_mem h', untilZero_of_not_mem h', cString]
      split_ifs with ht
      · simp [h, hne, hself]
      · simp [h, hself]
  · rw [cString_append_of_not_mem h, untilZero_of_not_mem h]
    by_cases h' : 0 ∈ l'
    · have hne : ∀ u, l ++ u ≠ untilZero l' := fun u => (untilZero_ne hlen.symm h').symm
      have hself := hne []
      rw [List.append_nil] at hself
      rw [cString_append_of_mem h', cString]
      split_ifs with ht
      · simp [h', hne, hself]
      · simp [h', hself]
    · rw [cString_append_of_not_mem h', untilZero_of_not_mem h', cString]
      split_ifs with ht
      · simp [ht]
      · simp [ht, h, h']

end CString
