import Mathlib.Data.List.Perm.Basic
import Mathlib.Tactic.Common

/-! # What a vertex sequence draws

The ten primitive modes of OpenGL, over any type of vertices. A mode reads a
sequence of vertices as a list of primitives, each a list of vertices in the
order the rasterizer takes them. Vertices that make up no whole primitive are
left out, as OpenGL says.

A sequence that is handed over in pieces draws the primitives of its pieces.
When these are the primitives of the whole is what this module is about. -/

namespace VMQemuVGA

/-- The modes, from `GL_POINTS` to `GL_POLYGON`. -/
inductive Prim where
  | points
  | lines
  | lineLoop
  | lineStrip
  | triangles
  | triangleStrip
  | triangleFan
  | quads
  | quadStrip
  | polygon
  deriving DecidableEq, Repr

namespace Prim
variable {V : Type*}

/-! ## The primitives of a mode -/

def lineList : List V → List (List V)
  | a :: b :: vs => [a, b] :: lineList vs
  | _ => []

def chain : List V → List (List V)
  | a :: b :: vs => [a, b] :: chain (b :: vs)
  | _ => []

/-- A chain whose last vertex is joined to its first. -/
def loop : List V → List (List V)
  | a :: b :: vs => chain (a :: b :: vs) ++ [[(b :: vs).getLastD b, a]]
  | _ => []

def triangleList : List V → List (List V)
  | a :: b :: c :: vs => [a, b, c] :: triangleList vs
  | _ => []

/-- Every other triangle of a strip is turned, so that all of them face one way. -/
def strip : Bool → List V → List (List V)
  | turned, a :: b :: c :: vs =>
      (if turned then [b, a, c] else [a, b, c]) :: strip (!turned) (b :: c :: vs)
  | _, _ => []

def fan : List V → List (List V)
  | [] => []
  | a :: vs => (chain vs).map (a :: ·)

def quadList : List V → List (List V)
  | a :: b :: c :: d :: vs => [a, b, c, d] :: quadList vs
  | _ => []

def ladder : List V → List (List V)
  | a :: b :: c :: d :: vs => [a, b, d, c] :: ladder (c :: d :: vs)
  | _ => []

def primitives : Prim → List V → List (List V)
  | points, vs => vs.map ([·])
  | lines, vs => lineList vs
  | lineLoop, vs => loop vs
  | lineStrip, vs => chain vs
  | triangles, vs => triangleList vs
  | triangleStrip, vs => strip false vs
  | triangleFan, vs => fan vs
  | quads, vs => quadList vs
  | quadStrip, vs => ladder vs
  | polygon, vs => if vs.length < 3 then [] else [vs]

/-- A strip of five vertices has three triangles, the second one turned. -/
example : primitives triangleStrip [0, 1, 2, 3, 4] = [[0, 1, 2], [2, 1, 3], [2, 3, 4]] := rfl

@[simp] theorem primitives_nil (p : Prim) : primitives p ([] : List V) = [] := by
  cases p <;> rfl

/-! ## A primitive has only vertices of its sequence -/

theorem mem_of_mem_lineList {q : List V} {v : V} :
    ∀ {vs : List V}, q ∈ lineList vs → v ∈ q → v ∈ vs
  | a :: b :: vs, hq, hv => by
    rcases List.mem_cons.mp hq with rfl | hq
    · exact List.mem_append_left vs hv
    · exact List.mem_append_right [a, b] (mem_of_mem_lineList hq hv)

theorem mem_of_mem_chain {q : List V} {v : V} :
    ∀ {vs : List V}, q ∈ chain vs → v ∈ q → v ∈ vs
  | a :: b :: vs, hq, hv => by
    rcases List.mem_cons.mp hq with rfl | hq
    · exact List.mem_append_left vs hv
    · exact List.mem_cons_of_mem a (mem_of_mem_chain hq hv)

theorem mem_of_mem_loop {q : List V} {v : V} :
    ∀ {vs : List V}, q ∈ loop vs → v ∈ q → v ∈ vs
  | a :: b :: vs, hq, hv => by
    rcases List.mem_append.mp hq with hq | hq
    · exact mem_of_mem_chain hq hv
    · -- the segment that closes the loop
      rw [List.mem_singleton.mp hq] at hv
      rcases List.mem_cons.mp hv with rfl | hv
      · rw [List.getLastD_eq_getLast?, List.getLast?_eq_some_getLast (List.cons_ne_nil b vs)]
        exact List.mem_cons_of_mem a (List.getLast_mem _)
      · exact List.mem_cons.mpr (.inl (List.mem_singleton.mp hv))

theorem mem_of_mem_triangleList {q : List V} {v : V} :
    ∀ {vs : List V}, q ∈ triangleList vs → v ∈ q → v ∈ vs
  | a :: b :: c :: vs, hq, hv => by
    rcases List.mem_cons.mp hq with rfl | hq
    · exact List.mem_append_left vs hv
    · exact List.mem_append_right [a, b, c] (mem_of_mem_triangleList hq hv)

theorem mem_of_mem_strip {q : List V} {v : V} :
    ∀ {turned : Bool} {vs : List V}, q ∈ strip turned vs → v ∈ q → v ∈ vs
  | turned, a :: b :: c :: vs, hq, hv => by
    rcases List.mem_cons.mp hq with rfl | hq
    · have hv : v ∈ [a, b, c] := by
        cases turned with
        | false => exact hv
        | true => exact (List.Perm.swap a b [c]).mem_iff.mp hv
      exact List.mem_append_left vs hv
    · exact List.mem_cons_of_mem a (mem_of_mem_strip hq hv)

theorem mem_of_mem_fan {q : List V} {v : V} :
    ∀ {vs : List V}, q ∈ fan vs → v ∈ q → v ∈ vs
  | a :: vs, hq, hv => by
    obtain ⟨r, hr, rfl⟩ := List.mem_map.mp hq
    rcases List.mem_cons.mp hv with rfl | hv
    · exact List.mem_cons_self
    · exact List.mem_cons_of_mem a (mem_of_mem_chain hr hv)

theorem mem_of_mem_quadList {q : List V} {v : V} :
    ∀ {vs : List V}, q ∈ quadList vs → v ∈ q → v ∈ vs
  | a :: b :: c :: d :: vs, hq, hv => by
    rcases List.mem_cons.mp hq with rfl | hq
    · exact List.mem_append_left vs hv
    · exact List.mem_append_right [a, b, c, d] (mem_of_mem_quadList hq hv)

theorem mem_of_mem_ladder {q : List V} {v : V} :
    ∀ {vs : List V}, q ∈ ladder vs → v ∈ q → v ∈ vs
  | a :: b :: c :: d :: vs, hq, hv => by
    rcases List.mem_cons.mp hq with rfl | hq
    · have hv : v ∈ [a, b, c, d] := (((List.Perm.swap c d []).cons b).cons a).mem_iff.mp hv
      exact List.mem_append_left vs hv
    · exact List.mem_append_right [a, b] (mem_of_mem_ladder hq hv)

/-- Every vertex of a primitive was given. -/
theorem mem_of_mem_primitives {p : Prim} {vs q : List V} {v : V} (hq : q ∈ primitives p vs)
    (hv : v ∈ q) : v ∈ vs := by
  cases p with
  | points =>
      obtain ⟨w, hw, rfl⟩ := List.mem_map.mp hq
      exact List.mem_singleton.mp hv ▸ hw
  | lines => exact mem_of_mem_lineList hq hv
  | lineLoop => exact mem_of_mem_loop hq hv
  | lineStrip => exact mem_of_mem_chain hq hv
  | triangles => exact mem_of_mem_triangleList hq hv
  | triangleStrip => exact mem_of_mem_strip hq hv
  | triangleFan => exact mem_of_mem_fan hq hv
  | quads => exact mem_of_mem_quadList hq hv
  | quadStrip => exact mem_of_mem_ladder hq hv
  | polygon =>
      simp only [primitives] at hq
      split at hq
      · exact absurd hq List.not_mem_nil
      · exact List.mem_singleton.mp hq ▸ hv

/-! ## Where a sequence may be split

Three modes take their vertices in groups of one size and nothing from one
group to the next. -/

/-- The size of the groups of a mode that takes its vertices in groups. -/
def groupSize : Prim → Option Nat
  | points => some 1
  | lines => some 2
  | triangles => some 3
  | quads => some 4
  | _ => none

theorem lineList_append (ys : List V) :
    ∀ {xs : List V}, 2 ∣ xs.length → lineList (xs ++ ys) = lineList xs ++ lineList ys
  | [], _ => rfl
  | [_], h => absurd h (by decide : ¬2 ∣ 1)
  | a :: b :: xs, h =>
    congrArg ([a, b] :: ·) (lineList_append ys ((Nat.dvd_add_left (Nat.dvd_refl 2)).mp h))

theorem triangleList_append (ys : List V) :
    ∀ {xs : List V}, 3 ∣ xs.length → triangleList (xs ++ ys) = triangleList xs ++ triangleList ys
  | [], _ => rfl
  | [_], h => absurd h (by decide : ¬3 ∣ 1)
  | [_, _], h => absurd h (by decide : ¬3 ∣ 2)
  | a :: b :: c :: xs, h =>
    congrArg ([a, b, c] :: ·) (triangleList_append ys ((Nat.dvd_add_left (Nat.dvd_refl 3)).mp h))

theorem quadList_append (ys : List V) :
    ∀ {xs : List V}, 4 ∣ xs.length → quadList (xs ++ ys) = quadList xs ++ quadList ys
  | [], _ => rfl
  | [_], h => absurd h (by decide : ¬4 ∣ 1)
  | [_, _], h => absurd h (by decide : ¬4 ∣ 2)
  | [_, _, _], h => absurd h (by decide : ¬4 ∣ 3)
  | a :: b :: c :: d :: xs, h =>
    congrArg ([a, b, c, d] :: ·) (quadList_append ys ((Nat.dvd_add_left (Nat.dvd_refl 4)).mp h))

/-- Between two groups a sequence may be split. -/
theorem primitives_append {p : Prim} {k : Nat} (hp : p.groupSize = some k) {xs : List V}
    (h : k ∣ xs.length) (ys : List V) :
    primitives p (xs ++ ys) = primitives p xs ++ primitives p ys := by
  cases p with
  | points => exact List.map_append
  | lines =>
      cases hp
      exact lineList_append ys h
  | triangles =>
      cases hp
      exact triangleList_append ys h
  | quads =>
      cases hp
      exact quadList_append ys h
  | _ => exact absurd hp (by simp [groupSize])

/-- So it may be split into any number of pieces of whole groups and a rest. -/
theorem primitives_flatten_append {p : Prim} {k : Nat} (hp : p.groupSize = some k) (rest : List V)
    {pieces : List (List V)} (h : ∀ xs ∈ pieces, k ∣ xs.length) :
    primitives p (pieces.flatten ++ rest) =
      pieces.flatMap (primitives p) ++ primitives p rest := by
  induction pieces with
  | nil => rfl
  | cons xs pieces ih =>
      rw [List.flatten_cons, List.append_assoc, primitives_append hp (h xs List.mem_cons_self),
        ih fun ys hys => h ys (List.mem_cons_of_mem xs hys), List.flatMap_cons,
        List.append_assoc]

/-- One vertex after whole triangles draws nothing. -/
theorem triangleList_append_singleton (v : V) :
    ∀ {xs : List V}, xs.length % 3 = 1 → triangleList (xs ++ [v]) = triangleList xs
  | [], h => absurd h (by decide : ¬0 % 3 = 1)
  | [_], _ => rfl
  | [_, _], h => absurd h (by decide : ¬2 % 3 = 1)
  | a :: b :: c :: xs, h =>
    congrArg ([a, b, c] :: ·)
      (triangleList_append_singleton v ((Nat.add_mod_right xs.length 3).symm.trans h))

/-- Nor does one after whole rungs of a ladder. -/
theorem ladder_append_singleton (v : V) :
    ∀ xs : List V, xs.length % 2 = 0 → ladder (xs ++ [v]) = ladder xs
  | [], _ => rfl
  | [_], h => absurd h (by decide : ¬1 % 2 = 0)
  | [_, _], _ => rfl
  | [_, _, _], h => absurd h (by decide : ¬3 % 2 = 0)
  | a :: b :: c :: d :: xs, h =>
    congrArg ([a, b, d, c] :: ·) (ladder_append_singleton v (c :: d :: xs)
      ((Nat.add_mod_right (xs.length + 2) 2).symm.trans h))

/-! ## Where it may not

In the other modes some primitive reaches from one side of the split to the
other. -/

theorem mem_chain (a b : V) (ys : List V) :
    ∀ xs : List V, [a, b] ∈ chain (xs ++ a :: b :: ys)
  | [] => List.mem_cons_self
  | [x] => List.mem_cons_of_mem [x, a] (mem_chain a b ys [])
  | x :: y :: xs => List.mem_cons_of_mem [x, y] (mem_chain a b ys (y :: xs))

theorem chain_subset_loop : ∀ {vs q : List V}, q ∈ chain vs → q ∈ loop vs
  | _ :: _ :: _, _, h => List.mem_append_left _ h

theorem mem_fan (x a b : V) (xs ys : List V) : [x, a, b] ∈ fan (x :: xs ++ a :: b :: ys) :=
  List.mem_map_of_mem (mem_chain a b ys xs)

theorem mem_triangleList (a b c : V) (ys : List V) {xs : List V} (h : 3 ∣ xs.length) :
    [a, b, c] ∈ triangleList (xs ++ a :: b :: c :: ys) := by
  rw [triangleList_append _ h]
  exact List.mem_append_right _ List.mem_cons_self

theorem exists_mem_strip (a b c : V) (ys : List V) :
    ∀ (turned : Bool) (xs : List V), ∃ q ∈ strip turned (xs ++ a :: b :: c :: ys), a ∈ q ∧ c ∈ q
  | false, [] => ⟨[a, b, c], List.mem_cons_self, by simp⟩
  | true, [] => ⟨[b, a, c], List.mem_cons_self, by simp⟩
  | turned, x :: xs => by
    obtain ⟨q, hq, hac⟩ := exists_mem_strip a b c ys (!turned) xs
    refine ⟨q, ?_, hac⟩
    -- two more vertices follow the first, whatever `xs` is
    match xs, hq with
    | [], hq => exact List.mem_cons_of_mem _ hq
    | [_], hq => exact List.mem_cons_of_mem _ hq
    | _ :: _ :: _, hq => exact List.mem_cons_of_mem _ hq

theorem mem_ladder (a b c d : V) (ys : List V) :
    ∀ xs : List V, 2 ∣ xs.length → [a, b, d, c] ∈ ladder (xs ++ a :: b :: c :: d :: ys)
  | [], _ => List.mem_cons_self
  | [_], h => absurd h (by decide : ¬2 ∣ 1)
  | [x, y], _ => List.mem_cons_of_mem [x, y, b, a] (mem_ladder a b c d ys [] (Nat.dvd_zero 2))
  | [_, _, _], h => absurd h (by decide : ¬2 ∣ 3)
  | x :: y :: z :: w :: xs, h =>
    List.mem_cons_of_mem [x, y, w, z] (mem_ladder a b c d ys (z :: w :: xs)
      ((Nat.dvd_add_left (Nat.dvd_refl 2)).mp h))

end Prim
end VMQemuVGA
