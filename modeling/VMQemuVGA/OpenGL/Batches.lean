import VMQemuVGA.Lib.Machine
import VMQemuVGA.OpenGL.Encoding
import VMQemuVGA.OpenGL.Primitives

/-! # Immediate mode in batches

`glVertex4f` collects vertices and flushes them when `MAX_BATCH_VERTICES` have
come together; `glEnd` flushes what is left. Every flush is a draw command of its
own, in the mode of `glBegin`, so a sequence of vertices is drawn in pieces of ten
thousand.

The translator is looked at from here: its vertices, the batches it drew, and the
vertices of flushes that came to nothing. What becomes of a flush is up to the
device and comes with the call that makes it. Floats only pass through, so they
are the words that hold them. -/

namespace VMQemuVGA

/-- The constant of a mode, `GL_POINTS` to `GL_POLYGON`. -/
def Prim.gl : Prim → Nat
  | points => 0
  | lines => 1
  | lineLoop => 2
  | lineStrip => 3
  | triangles => 4
  | triangleStrip => 5
  | triangleFan => 6
  | quads => 7
  | quadStrip => 8
  | polygon => 9

/-- What the host takes the mode of a draw command for, `PIPE_PRIM_POINTS` to
`PIPE_PRIM_POLYGON`. -/
def Prim.ofVirgl : Nat → Option Prim
  | 0 => some points
  | 1 => some lines
  | 2 => some lineLoop
  | 3 => some lineStrip
  | 4 => some triangles
  | 5 => some triangleStrip
  | 6 => some triangleFan
  | 7 => some quads
  | 8 => some quadStrip
  | 9 => some polygon
  | _ => none

/-- A flush hands its mode on unchanged. -/
@[simp] theorem Prim.ofVirgl_glPrimitiveToVirgl (p : Prim) :
    ofVirgl (glPrimitiveToVirgl p.gl) = some p := by
  cases p <;> rfl

/-! ## State and calls -/

/-- Four floats. -/
structure Vec4Bits where
  x : UInt32
  y : UInt32
  z : UInt32
  w : UInt32
  deriving DecidableEq, Repr

/-- The twelve floats of a vertex. -/
structure VertexBits where
  position : Vec4Bits
  color : Vec4Bits
  texcoord : Vec4Bits
  deriving DecidableEq, Repr

/-- What became of a flush: what it returned, and whether every submission of it
went well. The two differ where the code does not look at a result. -/
structure FlushOutcome where
  ret : IOReturn
  whole : Bool
  sound : whole = true → ret = .success

def FlushOutcome.done : FlushOutcome := ⟨.success, true, fun _ => rfl⟩

/-- `VMGLState`, as far as it matters here; `drawn` and `dropped` are kept beside it. -/
structure Immediate where
  inBeginEnd : Bool
  primitiveMode : Nat
  vertices : List VertexBits
  currentColor : Vec4Bits
  currentTexcoord : Vec4Bits
  /-- The draw commands, each with its mode. -/
  drawn : List (Nat × List VertexBits)
  /-- The vertices of flushes that were not whole. -/
  dropped : List VertexBits
  deriving DecidableEq, Repr

/-- The calls of immediate mode; those that may flush bring what becomes of it. -/
inductive ImmediateCall where
  | glBegin (mode : Nat)
  | glColor4f (color : Vec4Bits)
  | glTexCoord3f (texcoord : Vec4Bits)
  | glVertex4f (v : Vec4Bits) (r : FlushOutcome)
  | glEnd (r : FlushOutcome)

namespace Immediate

def flushVertexBatch (m : Immediate) (r : FlushOutcome) : IOReturn × Immediate :=
  if m.vertices.length = 0 then (.success, m)
  else if r.whole then
    (r.ret, { m with drawn := m.drawn ++ [(glPrimitiveToVirgl m.primitiveMode, m.vertices)] })
  else (r.ret, { m with dropped := m.dropped ++ m.vertices })

def glBegin (m : Immediate) (mode : Nat) : IOReturn × Immediate :=
  if m.inBeginEnd = true then (.error, m)
  else (.success, { m with inBeginEnd := true, primitiveMode := mode, vertices := [] })

def glColor4f (m : Immediate) (color : Vec4Bits) : IOReturn × Immediate :=
  (.success, { m with currentColor := color })

def glTexCoord3f (m : Immediate) (texcoord : Vec4Bits) : IOReturn × Immediate :=
  (.success, { m with currentTexcoord := texcoord })

/-- `glVertex4f`; a full batch is flushed first, whatever comes of it. -/
def glVertex4f (m : Immediate) (v : Vec4Bits) (r : FlushOutcome) : IOReturn × Immediate :=
  if m.inBeginEnd = false then (.error, m) else
  let m₁ :=
    if m.vertices.length ≥ maxBatchVertices then { (m.flushVertexBatch r).2 with vertices := [] }
    else m
  (.success, { m₁ with vertices := m₁.vertices ++ [⟨v, m₁.currentColor, m₁.currentTexcoord⟩] })

def glEnd (m : Immediate) (r : FlushOutcome) : IOReturn × Immediate :=
  if m.inBeginEnd = false then (.error, m)
  else { m with inBeginEnd := false }.flushVertexBatch r

def call (m : Immediate) : ImmediateCall → IOReturn × Immediate
  | .glBegin mode => m.glBegin mode
  | .glColor4f color => m.glColor4f color
  | .glTexCoord3f texcoord => m.glTexCoord3f texcoord
  | .glVertex4f v r => m.glVertex4f v r
  | .glEnd r => m.glEnd r

def init : Immediate := ⟨false, 0, [], ⟨0, 0, 0, 0⟩, ⟨0, 0, 0, 0⟩, [], []⟩

def machine : Machine Immediate ImmediateCall where
  init := init
  step := fun m c => some (m.call c).2

/-! ## What is asked for -/

/-- The vertices the calls give, each with the color and the texture coordinate
current when it is given. -/
def given : Vec4Bits → Vec4Bits → List ImmediateCall → List VertexBits
  | _, _, [] => []
  | _, t, .glColor4f color :: calls => given color t calls
  | c, _, .glTexCoord3f texcoord :: calls => given c texcoord calls
  | c, t, .glVertex4f v _ :: calls => ⟨v, c, t⟩ :: given c t calls
  | c, t, _ :: calls => given c t calls

/-- What becomes of the flushes of the vertices, were they to flush. -/
def outcomes : List ImmediateCall → List FlushOutcome
  | [] => []
  | .glVertex4f _ r :: calls => r :: outcomes calls
  | _ :: calls => outcomes calls

/-- Calls that do not end the sequence. -/
def Inside (calls : List ImmediateCall) : Prop := ∀ r, .glEnd r ∉ calls

/-- The primitives of the draw commands. -/
def primitivesDrawn (m : Immediate) : List (List VertexBits) :=
  m.drawn.flatMap fun d => (Prim.ofVirgl d.1).elim [] (Prim.primitives · d.2)

/-- A call that drops vertices says so. -/
def Reports (m : Immediate) (c : ImmediateCall) : Prop :=
  (m.call c).2.dropped = m.dropped ∨ (m.call c).1 ≠ .success

/-- Whatever vertices are given from `glBegin` to `glEnd`: no flush fails
unreported, and if none fails, what is drawn is what they denote. `rs` are the
flushes of the vertices and `last` that of `glEnd`. -/
def Faithful (p : Prim) (rs : List FlushOutcome) (last : FlushOutcome) : Prop :=
  ∀ (m : Immediate) (body : List ImmediateCall), m.inBeginEnd = false → m.drawn = [] →
    m.dropped = [] → Inside body → outcomes body = rs →
      machine.Along Reports m (.glBegin p.gl :: body ++ [.glEnd last]) ∧
      ∀ m', machine.run m (.glBegin p.gl :: body ++ [.glEnd last]) = some m' → m'.dropped = [] →
        m'.primitivesDrawn.Perm (p.primitives (given m.currentColor m.currentTexcoord body))

/-! ## One call -/

variable {m m' : Immediate} {p : Prim} {vs : List VertexBits} {v c t : Vec4Bits}
  {r last : FlushOutcome} {calls body : List ImmediateCall} {rs rs' : List FlushOutcome} {n : Nat}

theorem flushVertexBatch_of_nil (h : m.vertices = []) :
    m.flushVertexBatch r = (.success, m) := by
  rw [flushVertexBatch, h]
  rfl

theorem flushVertexBatch_of_whole (h : m.vertices ≠ []) (hr : r.whole = true) :
    m.flushVertexBatch r = (.success,
      { m with drawn := m.drawn ++ [(glPrimitiveToVirgl m.primitiveMode, m.vertices)] }) := by
  rw [flushVertexBatch, if_neg (mt List.length_eq_zero_iff.mp h), if_pos hr, r.sound hr]

theorem flushVertexBatch_of_not_whole (h : m.vertices ≠ []) (hr : r.whole = false) :
    m.flushVertexBatch r = (r.ret, { m with dropped := m.dropped ++ m.vertices }) := by
  rw [flushVertexBatch, if_neg (mt List.length_eq_zero_iff.mp h), if_neg (by simp [hr])]

theorem ne_nil_of_full (h : m.vertices.length ≥ maxBatchVertices) : m.vertices ≠ [] := by
  rintro hnil
  rw [hnil] at h
  exact absurd h (by decide)

/-- There is room for the vertex. -/
theorem glVertex4f_of_room (hin : m.inBeginEnd = true)
    (h : ¬ m.vertices.length ≥ maxBatchVertices) :
    m.glVertex4f v r = (.success,
      { m with vertices := m.vertices ++ [⟨v, m.currentColor, m.currentTexcoord⟩] }) := by
  simp only [glVertex4f, hin, h, if_false, Bool.true_eq_false]

/-- The batch is full, and drawn. -/
theorem glVertex4f_of_drawn (hin : m.inBeginEnd = true)
    (h : m.vertices.length ≥ maxBatchVertices) (hr : r.whole = true) :
    m.glVertex4f v r = (.success,
      { m with drawn := m.drawn ++ [(glPrimitiveToVirgl m.primitiveMode, m.vertices)]
               vertices := [⟨v, m.currentColor, m.currentTexcoord⟩] }) := by
  simp only [glVertex4f, hin, h, if_true, if_false, Bool.true_eq_false,
    flushVertexBatch_of_whole (ne_nil_of_full h) hr, List.nil_append]

/-- The batch is full, and lost. -/
theorem glVertex4f_of_lost (hin : m.inBeginEnd = true)
    (h : m.vertices.length ≥ maxBatchVertices) (hr : r.whole = false) :
    m.glVertex4f v r = (.success,
      { m with dropped := m.dropped ++ m.vertices
               vertices := [⟨v, m.currentColor, m.currentTexcoord⟩] }) := by
  simp only [glVertex4f, hin, h, if_true, if_false, Bool.true_eq_false,
    flushVertexBatch_of_not_whole (ne_nil_of_full h) hr, List.nil_append]

/-- A flush leaves what the next vertex will carry. -/
theorem current_flushVertexBatch (m : Immediate) (r : FlushOutcome) :
    (m.flushVertexBatch r).2.currentColor = m.currentColor ∧
      (m.flushVertexBatch r).2.currentTexcoord = m.currentTexcoord := by
  unfold flushVertexBatch
  split
  · exact ⟨rfl, rfl⟩
  split <;> exact ⟨rfl, rfl⟩

theorem given_cons (m : Immediate) (call : ImmediateCall) (calls : List ImmediateCall) :
    given m.currentColor m.currentTexcoord (call :: calls) =
      given m.currentColor m.currentTexcoord [call] ++
        given (m.call call).2.currentColor (m.call call).2.currentTexcoord calls := by
  cases call with
  | glColor4f color => rfl
  | glTexCoord3f texcoord => rfl
  | glBegin mode =>
      simp only [Immediate.call, glBegin]
      split <;> rfl
  | glVertex4f v r =>
      have hcurrent : ((m.call (.glVertex4f v r)).2.currentColor = m.currentColor) ∧
          (m.call (.glVertex4f v r)).2.currentTexcoord = m.currentTexcoord := by
        simp only [Immediate.call, glVertex4f]
        split
        · exact ⟨rfl, rfl⟩
        split
        · exact current_flushVertexBatch m r
        · exact ⟨rfl, rfl⟩
      rw [hcurrent.1, hcurrent.2]
      rfl
  | glEnd r =>
      have hcurrent : ((m.call (.glEnd r)).2.currentColor = m.currentColor) ∧
          (m.call (.glEnd r)).2.currentTexcoord = m.currentTexcoord := by
        simp only [Immediate.call, glEnd]
        split
        · exact ⟨rfl, rfl⟩
        · exact current_flushVertexBatch { m with inBeginEnd := false } r
      rw [hcurrent.1, hcurrent.2]
      rfl

theorem outcomes_cons (call : ImmediateCall) (calls : List ImmediateCall) :
    outcomes (call :: calls) = outcomes [call] ++ outcomes calls := by
  cases call <;> rfl

theorem length_given (c t : Vec4Bits) (calls : List ImmediateCall) :
    (given c t calls).length = (outcomes calls).length := by
  induction calls generalizing c t with
  | nil => rfl
  | cons call calls ih =>
      cases call with
      | glVertex4f v r => exact congrArg (· + 1) (ih c t)
      | glColor4f color => exact ih color t
      | glTexCoord3f texcoord => exact ih c texcoord
      | glBegin mode => exact ih c t
      | glEnd r => exact ih c t

/-! ## Batches along a run -/

/-- The flushes of vertices from the `n`-th on go well, where there is one: before
a vertex that comes after some number of full batches. -/
def Refills : Nat → List FlushOutcome → Prop
  | _, [] => True
  | n, r :: rs => (0 < n → maxBatchVertices ∣ n → r.whole = true) ∧ Refills (n + 1) rs

theorem refills_iff : Refills n rs ↔
    ∀ j r, rs[j]? = some r → 0 < n + j → maxBatchVertices ∣ n + j → r.whole = true := by
  induction rs generalizing n with
  | nil => exact iff_of_true trivial fun j r h => absurd h (by simp)
  | cons r rs ih =>
      rw [Refills, ih]
      constructor
      · rintro ⟨hr, hrs⟩ j r' hj
        cases j with
        | zero =>
            cases hj
            exact hr
        | succ j =>
            rw [Nat.add_comm j, ← Nat.add_assoc]
            exact hrs j r' hj
      · intro h
        refine ⟨h 0 r rfl, fun j r' hj => ?_⟩
        rw [Nat.add_assoc, Nat.add_comm 1]
        exact h (j + 1) r' hj

theorem refills_append : Refills n (rs ++ rs') ↔ Refills n rs ∧ Refills (n + rs.length) rs' := by
  induction rs generalizing n with
  | nil => exact ⟨fun h => ⟨trivial, h⟩, And.right⟩
  | cons r rs ih =>
      rw [List.cons_append, Refills, Refills, ih, and_assoc, List.length_cons, Nat.add_assoc,
        Nat.add_comm 1]

/-- In the middle of a sequence whose vertices so far are `vs`: all of them are in
full batches that were drawn, or in the one that fills. -/
structure Filled (p : Prim) (vs : List VertexBits) (m : Immediate) : Prop where
  inside : m.inBeginEnd = true
  mode : m.primitiveMode = p.gl
  vertices : (m.drawn.map Prod.snd).flatten ++ m.vertices = vs
  drawn : ∀ d ∈ m.drawn, d.1 = glPrimitiveToVirgl p.gl ∧ d.2.length = maxBatchVertices
  room : m.vertices.length ≤ maxBatchVertices
  started : m.vertices = [] → m.drawn = []
  dropped : m.dropped = []

theorem Filled.length (h : Filled p vs m) :
    vs.length = m.drawn.length * maxBatchVertices + m.vertices.length := by
  have hbatches : ∀ n ∈ (m.drawn.map Prod.snd).map List.length, n = maxBatchVertices := by
    simp only [List.map_map, List.mem_map]
    rintro n ⟨d, hd, rfl⟩
    exact (h.drawn d hd).2
  rw [← h.vertices, List.length_append, List.length_flatten, List.eq_replicate_of_mem hbatches,
    List.sum_replicate_nat, List.length_map, List.length_map]

/-- A flush is due where the vertices so far fill batches. -/
theorem Filled.full_iff (h : Filled p vs m) :
    m.vertices.length ≥ maxBatchVertices ↔ 0 < vs.length ∧ maxBatchVertices ∣ vs.length := by
  have hlen := h.length
  have hroom := h.room
  constructor
  · intro hfull
    have heq : m.vertices.length = maxBatchVertices := Nat.le_antisymm hroom hfull
    rw [heq, ← Nat.succ_mul] at hlen
    exact ⟨hlen ▸ Nat.mul_pos (Nat.succ_pos _) (by decide), hlen ▸ Nat.dvd_mul_left ..⟩
  · rintro ⟨hpos, hdvd⟩
    rw [hlen] at hdvd
    have hdvd' : maxBatchVertices ∣ m.vertices.length :=
      (Nat.dvd_add_right (Nat.dvd_mul_left _ _)).mp hdvd
    refine Nat.le_of_dvd (List.length_pos_iff.mpr fun hnil => ?_) hdvd'
    -- nothing has been given, or the batch is not empty
    rw [hlen, h.started hnil, hnil] at hpos
    exact absurd hpos (by simp)

/-- A vertex whose flush, if there is one, goes well joins the others. -/
theorem Filled.glVertex4f (h : Filled p vs m)
    (hr : 0 < vs.length → maxBatchVertices ∣ vs.length → r.whole = true) :
    Filled p (vs ++ [⟨v, m.currentColor, m.currentTexcoord⟩]) (m.glVertex4f v r).2 ∧
      Reports m (.glVertex4f v r) := by
  by_cases hfull : m.vertices.length ≥ maxBatchVertices
  · obtain ⟨hpos, hdvd⟩ := h.full_iff.mp hfull
    have heq := glVertex4f_of_drawn (v := v) h.inside hfull (hr hpos hdvd)
    refine ⟨?_, .inl (congrArg (fun x => x.2.dropped) heq)⟩
    rw [heq]
    exact
      { inside := h.inside
        mode := h.mode
        vertices := by
          rw [← h.vertices, List.map_append, List.flatten_append]
          simp
        drawn := by
          intro d hd
          rcases List.mem_append.mp hd with hd | hd
          · exact h.drawn d hd
          · rw [List.mem_singleton.mp hd]
            exact ⟨congrArg glPrimitiveToVirgl h.mode, Nat.le_antisymm h.room hfull⟩
        room := (by decide : 1 ≤ maxBatchVertices)
        started := fun hnil => absurd hnil (List.cons_ne_nil _ _)
        dropped := h.dropped }
  · have heq := glVertex4f_of_room (v := v) (r := r) h.inside hfull
    refine ⟨?_, .inl (congrArg (fun x => x.2.dropped) heq)⟩
    rw [heq]
    exact
      { inside := h.inside
        mode := h.mode
        vertices := by rw [← h.vertices, List.append_assoc]
        drawn := h.drawn
        room := by
          rw [List.length_append]
          exact Nat.lt_of_not_ge hfull
        started := fun hnil => absurd hnil (List.append_ne_nil_of_right_ne_nil _ (by simp))
        dropped := h.dropped }

/-- A state that differs in what the next vertex will carry only. -/
theorem Filled.congr (h : Filled p vs m) (hin : m'.inBeginEnd = m.inBeginEnd)
    (hmode : m'.primitiveMode = m.primitiveMode) (hvs : m'.vertices = m.vertices)
    (hdrawn : m'.drawn = m.drawn) (hdropped : m'.dropped = m.dropped) : Filled p vs m' where
  inside := hin.trans h.inside
  mode := hmode.trans h.mode
  vertices := by rw [hdrawn, hvs, h.vertices]
  drawn := hdrawn ▸ h.drawn
  room := hvs ▸ h.room
  started := by rw [hvs, hdrawn]; exact h.started
  dropped := hdropped.trans h.dropped

/-- Step lemma: one case for each call that does not end the sequence. -/
theorem Filled.call {call : ImmediateCall} (h : Filled p vs m) (hc : ∀ r, call ≠ .glEnd r)
    (hr : Refills vs.length (outcomes [call])) :
    Filled p (vs ++ given m.currentColor m.currentTexcoord [call]) (m.call call).2 ∧
      Reports m call := by
  cases call with
  | glVertex4f v r => exact h.glVertex4f hr.1
  | glEnd r => exact absurd rfl (hc r)
  | glColor4f color => exact ⟨(List.append_nil vs).symm ▸ h.congr rfl rfl rfl rfl rfl, .inl rfl⟩
  | glTexCoord3f texcoord =>
      exact ⟨(List.append_nil vs).symm ▸ h.congr rfl rfl rfl rfl rfl, .inl rfl⟩
  | glBegin mode =>
      -- a nested `glBegin` is turned away
      have heq : m.call (.glBegin mode) = (.error, m) := if_pos h.inside
      refine ⟨?_, .inl (by rw [heq])⟩
      rw [heq]
      exact (List.append_nil vs).symm ▸ h

/-- And the other way round: a flush that goes wrong there is not reported. -/
theorem Filled.refills_of_reports {call : ImmediateCall} (h : Filled p vs m)
    (hrep : Reports m call) (hc : ∀ r, call ≠ .glEnd r) :
    Refills vs.length (outcomes [call]) := by
  cases call with
  | glVertex4f v r =>
      refine ⟨fun hpos hdvd => ?_, trivial⟩
      have hfull := h.full_iff.mpr ⟨hpos, hdvd⟩
      by_contra hr
      have heq := glVertex4f_of_lost (v := v) h.inside hfull (by simpa using hr)
      rcases hrep with hdropped | hret
      · rw [Immediate.call, heq] at hdropped
        exact ne_nil_of_full hfull (List.append_right_eq_self.mp hdropped)
      · rw [Immediate.call, heq] at hret
        exact hret rfl
  | glEnd r => exact absurd rfl (hc r)
  | glColor4f color => trivial
  | glTexCoord3f texcoord => trivial
  | glBegin mode => trivial

theorem step_eq (m : Immediate) (call : ImmediateCall) :
    machine.step m call = some (m.call call).2 := rfl

theorem Inside.head {call : ImmediateCall} (h : Inside (call :: calls)) (r : FlushOutcome) :
    call ≠ .glEnd r :=
  fun heq => h r (heq ▸ List.mem_cons_self)

theorem Inside.tail {call : ImmediateCall} (h : Inside (call :: calls)) : Inside calls :=
  fun r hr => h r (List.mem_cons_of_mem call hr)

/-- Every call returns. -/
theorem exists_run (m : Immediate) (calls : List ImmediateCall) :
    ∃ m', machine.run m calls = some m' := by
  induction calls generalizing m with
  | nil => exact ⟨m, rfl⟩
  | cons call calls ih =>
      obtain ⟨m', hrun⟩ := ih (m.call call).2
      exact ⟨m', (machine.run_cons_some (step_eq m call)).trans hrun⟩

/-- Run lemma, by induction on the calls. -/
theorem Filled.run (h : Filled p vs m) (hin : Inside calls)
    (hr : Refills vs.length (outcomes calls)) :
    ∃ m', machine.run m calls = some m' ∧
      Filled p (vs ++ given m.currentColor m.currentTexcoord calls) m' := by
  -- each call moves one vertex, or none, from `given` to the vertices so far
  induction calls generalizing vs m with
  | nil => exact ⟨m, rfl, (List.append_nil vs).symm ▸ h⟩
  | cons call calls ih =>
      rw [outcomes_cons, refills_append] at hr
      obtain ⟨hcall, -⟩ := h.call hin.head hr.1
      have hlen : vs.length + (outcomes [call]).length =
          (vs ++ given m.currentColor m.currentTexcoord [call]).length := by
        rw [List.length_append, length_given]
      obtain ⟨m', hrun, hm'⟩ := ih hcall hin.tail (hlen ▸ hr.2)
      refine ⟨m', (machine.run_cons_some (step_eq m call)).trans hrun, ?_⟩
      rw [given_cons, ← List.append_assoc]
      exact hm'

/-- Nothing goes unreported exactly when the flushes go well that the code makes. -/
theorem Filled.along_reports_iff (h : Filled p vs m) (hin : Inside calls) :
    machine.Along Reports m calls ↔ Refills vs.length (outcomes calls) := by
  induction calls generalizing vs m with
  | nil => exact Iff.rfl
  | cons call calls ih =>
      have hlen : vs.length + (outcomes [call]).length =
          (vs ++ given m.currentColor m.currentTexcoord [call]).length := by
        rw [List.length_append, length_given]
      rw [machine.along_cons_some (step_eq m call), outcomes_cons, refills_append]
      constructor
      · rintro ⟨hrep, hcalls⟩
        have hr := h.refills_of_reports hrep hin.head
        obtain ⟨hcall, -⟩ := h.call hin.head hr
        exact ⟨hr, hlen ▸ (ih hcall hin.tail).mp hcalls⟩
      · rintro ⟨hr, hrs⟩
        obtain ⟨hcall, hrep⟩ := h.call hin.head hr
        exact ⟨hrep, (ih hcall hin.tail).mpr (hlen ▸ hrs)⟩

/-! ## The end of the sequence -/

theorem glEnd_of_inside (h : m.inBeginEnd = true) :
    m.glEnd last = { m with inBeginEnd := false }.flushVertexBatch last := by
  rw [glEnd, if_neg (by simp [h])]

theorem Filled.vertices_ne_nil (h : Filled p vs m) (hvs : vs ≠ []) : m.vertices ≠ [] := by
  intro hnil
  apply hvs
  rw [← h.vertices, h.started hnil, hnil]
  rfl

theorem Filled.glEnd_of_nil (h : Filled p [] m) :
    m.glEnd last = (.success, { m with inBeginEnd := false }) := by
  rw [glEnd_of_inside h.inside]
  exact flushVertexBatch_of_nil (List.append_eq_nil_iff.mp h.vertices).2

theorem Filled.glEnd_of_whole (h : Filled p vs m) (hvs : vs ≠ []) (hlast : last.whole = true) :
    m.glEnd last = (.success,
      { m with inBeginEnd := false
               drawn := m.drawn ++ [(glPrimitiveToVirgl m.primitiveMode, m.vertices)] }) := by
  rw [glEnd_of_inside h.inside]
  exact flushVertexBatch_of_whole (m := { m with inBeginEnd := false }) (h.vertices_ne_nil hvs)
    hlast

theorem Filled.glEnd_of_not_whole (h : Filled p vs m) (hvs : vs ≠ [])
    (hlast : last.whole = false) :
    m.glEnd last =
      (last.ret, { m with inBeginEnd := false, dropped := m.dropped ++ m.vertices }) := by
  rw [glEnd_of_inside h.inside]
  exact flushVertexBatch_of_not_whole (m := { m with inBeginEnd := false })
    (h.vertices_ne_nil hvs) hlast

/-- `glEnd` reports what it drops exactly when its flush does. -/
theorem Filled.reports_glEnd_iff (h : Filled p vs m) :
    Reports m (.glEnd last) ↔ vs ≠ [] → last.whole = false → last.ret ≠ .success := by
  by_cases hvs : vs = []
  · subst hvs
    refine iff_of_true (.inl ?_) fun hne => absurd rfl hne
    rw [Immediate.call, h.glEnd_of_nil]
  cases hlast : last.whole with
  | true =>
      refine iff_of_true (.inl ?_) fun _ hne => absurd hne (by decide)
      rw [Immediate.call, h.glEnd_of_whole hvs hlast]
  | false =>
      rw [Reports, Immediate.call, h.glEnd_of_not_whole hvs hlast]
      have hlost : ¬ m.dropped ++ m.vertices = m.dropped :=
        fun heq => h.vertices_ne_nil hvs (List.append_right_eq_self.mp heq)
      exact ⟨fun hrep _ _ => hrep.resolve_left hlost, fun hret => .inr (hret hvs rfl)⟩

/-- The sequence so far, batch by batch. -/
def batches (m : Immediate) : List (List VertexBits) := m.drawn.map Prod.snd

theorem Filled.primitivesDrawn_eq (h : Filled p vs m) :
    m.primitivesDrawn = m.batches.flatMap p.primitives := by
  rw [primitivesDrawn, batches, List.flatMap_map]
  refine List.flatMap_congr fun d hd => ?_
  rw [(h.drawn d hd).1, Prim.ofVirgl_glPrimitiveToVirgl]
  rfl

/-- What a whole sequence draws: the primitives of its batches. -/
theorem Filled.primitivesDrawn_glEnd (h : Filled p vs m) (hvs : vs ≠ [])
    (hlast : last.whole = true) :
    (m.glEnd last).2.primitivesDrawn =
      m.batches.flatMap p.primitives ++ p.primitives m.vertices := by
  rw [h.glEnd_of_whole hvs hlast, ← h.primitivesDrawn_eq]
  simp only [primitivesDrawn, List.flatMap_append, List.flatMap_singleton, h.mode,
    Prim.ofVirgl_glPrimitiveToVirgl, Option.elim_some]

/-! ## Modes and numbers that survive the splitting -/

/-- There is one batch only, or the mode takes its vertices in groups that fill
batches, or one vertex is left that draws nothing on either side. -/
def Splits (p : Prim) (n : Nat) : Prop :=
  n ≤ maxBatchVertices ∨ p = .points ∨ p = .lines ∨ p = .quads ∨
    n = maxBatchVertices + 1 ∧ (p = .triangles ∨ p = .quadStrip)

instance (p : Prim) (n : Nat) : Decidable (Splits p n) := by
  unfold Splits
  infer_instance

theorem Filled.batches_nil (h : Filled p vs m) (hvs : vs ≠ [])
    (hle : vs.length ≤ maxBatchVertices) : m.batches = [] := by
  have hpos : 0 < m.vertices.length := List.length_pos_iff.mpr (h.vertices_ne_nil hvs)
  have hlen := h.length
  have hzero : m.drawn.length = 0 := by
    by_contra hne
    have := Nat.le_mul_of_pos_left maxBatchVertices (Nat.pos_of_ne_zero hne)
    omega
  rw [batches, List.length_eq_zero_iff.mp hzero]
  rfl

theorem Filled.primitives_of_groups {k : Nat} (h : Filled p vs m) (hp : p.groupSize = some k)
    (hk : k ∣ maxBatchVertices) :
    m.batches.flatMap p.primitives ++ p.primitives m.vertices = p.primitives vs := by
  rw [← h.vertices]
  refine (Prim.primitives_flatten_append hp m.vertices fun xs hxs => ?_).symm
  obtain ⟨d, hd, rfl⟩ := List.mem_map.mp hxs
  exact (h.drawn d hd).2.symm ▸ hk

/-- One full batch and one vertex. -/
theorem Filled.one_more (h : Filled p vs m) (hlen : vs.length = maxBatchVertices + 1) :
    ∃ xs v, xs.length = maxBatchVertices ∧ m.batches = [xs] ∧ m.vertices = [v] ∧
      vs = xs ++ [v] := by
  have hvs : vs ≠ [] := List.length_pos_iff.mp (by omega)
  have hpos : 0 < m.vertices.length := List.length_pos_iff.mpr (h.vertices_ne_nil hvs)
  have hroom := h.room
  have hbatches := h.length
  have hL : maxBatchVertices = 10000 := rfl
  rw [hL] at hlen hroom hbatches
  have hone : m.drawn.length = 1 ∧ m.vertices.length = 1 := by omega
  obtain ⟨d, hd⟩ := List.length_eq_one_iff.mp hone.1
  obtain ⟨v, hv⟩ := List.length_eq_one_iff.mp hone.2
  refine ⟨d.2, v, (h.drawn d (hd ▸ List.mem_singleton_self d)).2, ?_, hv, ?_⟩
  · rw [batches, hd]
    rfl
  · rw [← h.vertices, hd, hv, List.map_singleton, List.flatten_singleton]

theorem Filled.primitives_of_splits (h : Filled p vs m) (hvs : vs ≠ [])
    (hs : Splits p vs.length) :
    m.batches.flatMap p.primitives ++ p.primitives m.vertices = p.primitives vs := by
  rcases hs with hle | rfl | rfl | rfl | ⟨hlen, rfl | rfl⟩
  · have hnil := h.batches_nil hvs hle
    have hall := h.vertices
    rw [← batches, hnil] at hall
    rw [hnil, ← hall]
    rfl
  · exact h.primitives_of_groups rfl (by decide)
  · exact h.primitives_of_groups rfl (by decide)
  · exact h.primitives_of_groups rfl (by decide)
  · obtain ⟨xs, v, hxs, hb, hv, rfl⟩ := h.one_more hlen
    rw [hb, hv, List.flatMap_singleton]
    refine (List.append_nil _).trans (Prim.triangleList_append_singleton v ?_).symm
    rw [hxs]
    rfl
  · obtain ⟨xs, v, hxs, hb, hv, rfl⟩ := h.one_more hlen
    rw [hb, hv, List.flatMap_singleton]
    refine (List.append_nil _).trans (Prim.ladder_append_singleton v xs ?_).symm
    rw [hxs]
    rfl

/-! ## The others do not

The first ten thousand vertices are one and the same, and all that follow are
another. Every batch is of one kind, and some primitive is not. -/

theorem exists_mixed (a b : VertexBits) {k : Nat} (hs : ¬ Splits p (maxBatchVertices + k)) :
    ∃ q ∈ p.primitives (List.replicate maxBatchVertices a ++ List.replicate k b),
      a ∈ q ∧ b ∈ q := by
  have hk : k ≠ 0 := by
    rintro rfl
    exact hs (.inl (Nat.le_refl _))
  obtain ⟨k, rfl⟩ := Nat.exists_eq_succ_of_ne_zero hk
  -- the last of the one kind, two of it, and the first of the other
  have hlast : List.replicate maxBatchVertices a ++ List.replicate (k + 1) b =
      List.replicate 9999 a ++ a :: b :: List.replicate k b := by
    rw [List.append_cons (List.replicate 9999 a), ← List.replicate_succ']
    rfl
  have htwo : List.replicate maxBatchVertices a ++ List.replicate (k + 1) b =
      List.replicate 9998 a ++ a :: a :: b :: List.replicate k b := by
    rw [hlast, List.append_cons (List.replicate 9998 a), ← List.replicate_succ']
  cases p with
  | points => exact absurd (.inr (.inl rfl)) hs
  | lines => exact absurd (.inr (.inr (.inl rfl))) hs
  | quads => exact absurd (.inr (.inr (.inr (.inl rfl)))) hs
  | lineStrip =>
      rw [hlast]
      exact ⟨[a, b], Prim.mem_chain .., by simp⟩
  | lineLoop =>
      have hchain := Prim.mem_chain a b (List.replicate k b) (List.replicate 9999 a)
      rw [← hlast] at hchain
      exact ⟨[a, b], Prim.chain_subset_loop hchain, by simp⟩
  | triangleFan =>
      rw [hlast]
      exact ⟨[a, a, b], Prim.mem_fan a a b (List.replicate 9998 a) _, by simp⟩
  | triangleStrip =>
      rw [htwo]
      exact Prim.exists_mem_strip a a b _ false _
  | polygon =>
      have hlong : ¬ (List.replicate maxBatchVertices a ++
          List.replicate k.succ b).length < 3 := by
        rw [List.length_append, List.length_replicate]
        exact Nat.not_lt.mpr (Nat.le_add_right_of_le (by decide))
      rw [Prim.primitives, if_neg hlong]
      exact ⟨_, List.mem_singleton_self _,
        List.mem_append_left _ (List.mem_replicate.mpr ⟨by decide, rfl⟩),
        List.mem_append_right _ (List.mem_replicate.mpr ⟨Nat.succ_ne_zero k, rfl⟩)⟩
  | triangles =>
      have hk : k ≠ 0 := by
        rintro rfl
        exact hs (.inr (.inr (.inr (.inr ⟨rfl, .inl rfl⟩))))
      obtain ⟨k, rfl⟩ := Nat.exists_eq_succ_of_ne_zero hk
      rw [hlast]
      refine ⟨[a, b, b], Prim.mem_triangleList a b b _ ?_, by simp⟩
      rw [List.length_replicate]
      decide
  | quadStrip =>
      have hk : k ≠ 0 := by
        rintro rfl
        exact hs (.inr (.inr (.inr (.inr ⟨rfl, .inr rfl⟩))))
      obtain ⟨k, rfl⟩ := Nat.exists_eq_succ_of_ne_zero hk
      rw [htwo]
      refine ⟨[a, a, b, b], Prim.mem_ladder a a b b _ _ ?_, by simp⟩
      rw [List.length_replicate]
      decide

theorem Filled.not_mixed {a b : VertexBits} {k : Nat} (hab : a ≠ b) (hk : 0 < k)
    (h : Filled p (List.replicate maxBatchVertices a ++ List.replicate k b) m)
    {xs : List VertexBits} (hxs : xs ∈ m.batches ++ [m.vertices]) : ¬ (a ∈ xs ∧ b ∈ xs) := by
  rintro ⟨ha, hb⟩
  have hall := h.vertices
  rw [← batches] at hall
  have hfull : ∀ ys ∈ m.batches, ys.length = maxBatchVertices := by
    intro ys hys
    obtain ⟨d, hd, rfl⟩ := List.mem_map.mp hys
    exact (h.drawn d hd).2
  cases hbs : m.batches with
  | nil =>
      -- the one batch would be too long
      have hroom := h.room
      rw [hbs, List.flatten_nil, List.nil_append] at hall
      rw [hall, List.length_append, List.length_replicate, List.length_replicate] at hroom
      omega
  | cons first rest =>
      rw [hbs, List.flatten_cons, List.append_assoc] at hall
      obtain ⟨hfirst, hrest⟩ := List.append_inj hall
        ((hfull first (hbs ▸ List.mem_cons_self)).trans List.length_replicate.symm)
      rw [hbs] at hxs
      -- the first batch is of the one kind, all the rest of the other
      rcases List.mem_cons.mp hxs with rfl | hxs
      · exact hab (List.eq_of_mem_replicate (hfirst ▸ hb)).symm
      · have hmem : a ∈ rest.flatten ++ m.vertices := by
          rcases List.mem_append.mp hxs with hxs | hxs
          · exact List.mem_append_left _ (List.mem_flatten_of_mem hxs ha)
          · exact List.mem_append_right _ (List.mem_singleton.mp hxs ▸ ha)
        rw [hrest] at hmem
        exact hab (List.eq_of_mem_replicate hmem)

theorem Filled.not_perm {a b : VertexBits} {k : Nat} (hab : a ≠ b)
    (h : Filled p (List.replicate maxBatchVertices a ++ List.replicate k b) m)
    (hs : ¬ Splits p (maxBatchVertices + k)) :
    ¬ (m.batches.flatMap p.primitives ++ p.primitives m.vertices).Perm
      (p.primitives (List.replicate maxBatchVertices a ++ List.replicate k b)) := by
  intro hperm
  have hk : 0 < k := by
    refine Nat.pos_of_ne_zero ?_
    rintro rfl
    exact hs (.inl (Nat.le_refl _))
  obtain ⟨q, hq, ha, hb⟩ := exists_mixed a b hs
  have hdrawn := hperm.symm.subset hq
  rw [← List.flatMap_singleton p.primitives m.vertices, ← List.flatMap_append] at hdrawn
  obtain ⟨xs, hxs, hq⟩ := List.mem_flatMap.mp hdrawn
  exact h.not_mixed hab hk hxs
    ⟨Prim.mem_of_mem_primitives hq ha, Prim.mem_of_mem_primitives hq hb⟩

/-! ## Whole sequences -/

/-- Calls that give the one vertex ten thousand times, and then another. -/
def twoKinds (rs : List FlushOutcome) : List ImmediateCall :=
  (rs.take maxBatchVertices).map (.glVertex4f ⟨0, 0, 0, 0⟩ ·) ++
    (rs.drop maxBatchVertices).map (.glVertex4f ⟨1, 0, 0, 0⟩ ·)

theorem inside_twoKinds (rs : List FlushOutcome) : Inside (twoKinds rs) := by
  intro r hr
  rcases List.mem_append.mp hr with hr | hr
  · obtain ⟨_, -, heq⟩ := List.mem_map.mp hr
    cases heq
  · obtain ⟨_, -, heq⟩ := List.mem_map.mp hr
    cases heq

theorem outcomes_vertices (v : Vec4Bits) (rs : List FlushOutcome)
    (calls : List ImmediateCall) :
    outcomes (rs.map (.glVertex4f v ·) ++ calls) = rs ++ outcomes calls := by
  induction rs with
  | nil => rfl
  | cons r rs ih => exact congrArg (r :: ·) ih

theorem given_vertices (v : Vec4Bits) (rs : List FlushOutcome) (calls : List ImmediateCall) :
    given c t (rs.map (.glVertex4f v ·) ++ calls) =
      List.replicate rs.length ⟨v, c, t⟩ ++ given c t calls := by
  induction rs with
  | nil => rfl
  | cons r rs ih => exact congrArg (⟨v, c, t⟩ :: ·) ih

theorem outcomes_twoKinds (rs : List FlushOutcome) : outcomes (twoKinds rs) = rs := by
  have h := outcomes_vertices ⟨1, 0, 0, 0⟩ (rs.drop maxBatchVertices) []
  rw [List.append_nil] at h
  rw [twoKinds, outcomes_vertices, h, outcomes, List.append_nil, List.take_append_drop]

theorem given_twoKinds {k : Nat} (hlen : rs.length = maxBatchVertices + k) :
    given c t (twoKinds rs) =
      List.replicate maxBatchVertices ⟨⟨0, 0, 0, 0⟩, c, t⟩ ++
        List.replicate k ⟨⟨1, 0, 0, 0⟩, c, t⟩ := by
  have h := given_vertices (c := c) (t := t) ⟨1, 0, 0, 0⟩ (rs.drop maxBatchVertices) []
  rw [List.append_nil, List.length_drop, hlen, Nat.add_sub_cancel_left, given,
    List.append_nil] at h
  rw [twoKinds, given_vertices, h, List.length_take_of_le (hlen ▸ Nat.le_add_right _ _)]

theorem filled_glBegin (hout : m.inBeginEnd = false) (hdrawn : m.drawn = [])
    (hdropped : m.dropped = []) : Filled p [] (m.glBegin p.gl).2 := by
  have heq : m.glBegin p.gl =
      (.success, { m with inBeginEnd := true, primitiveMode := p.gl, vertices := [] }) := by
    rw [glBegin, if_neg (by simp [hout])]
  rw [heq]
  exact
    { inside := rfl
      mode := rfl
      vertices := by rw [hdrawn]; rfl
      drawn := by rw [hdrawn]; exact fun d hd => absurd hd List.not_mem_nil
      room := Nat.zero_le _
      started := fun _ => hdrawn
      dropped := hdropped }

theorem current_glBegin (m : Immediate) (mode : Nat) :
    (m.glBegin mode).2.currentColor = m.currentColor ∧
      (m.glBegin mode).2.currentTexcoord = m.currentTexcoord := by
  unfold glBegin
  split <;> exact ⟨rfl, rfl⟩

/-- Where a sequence gets to whose flushes of vertices go well. -/
theorem run_body (hout : m.inBeginEnd = false) (hdrawn : m.drawn = []) (hdropped : m.dropped = [])
    (hin : Inside body) (hr : Refills 0 (outcomes body)) :
    ∃ m', Filled p (given m.currentColor m.currentTexcoord body) m' ∧
      machine.run m (.glBegin p.gl :: body) = some m' := by
  obtain ⟨m', hrun, hm'⟩ := (filled_glBegin hout hdrawn hdropped).run hin hr
  rw [(current_glBegin m p.gl).1, (current_glBegin m p.gl).2] at hm'
  exact ⟨m', hm', (machine.run_cons_some (step_eq m _)).trans hrun⟩

/-- What goes unreported in a sequence. -/
theorem along_reports_iff (hout : m.inBeginEnd = false) (hdrawn : m.drawn = [])
    (hdropped : m.dropped = []) (hin : Inside body) :
    machine.Along Reports m (.glBegin p.gl :: body ++ [.glEnd last]) ↔
      Refills 0 (outcomes body) ∧
        (outcomes body ≠ [] → last.whole = false → last.ret ≠ .success) := by
  have hbegin := filled_glBegin (p := p) hout hdrawn hdropped
  have hfirst : Reports m (.glBegin p.gl) := by
    left
    rw [Immediate.call, glBegin]
    split <;> rfl
  have hbody : machine.Along Reports m (.glBegin p.gl :: body) ↔ Refills 0 (outcomes body) :=
    (machine.along_cons_some (step_eq m _)).trans
      ((and_iff_right hfirst).trans (hbegin.along_reports_iff hin))
  have hgiven : given m.currentColor m.currentTexcoord body ≠ [] ↔ outcomes body ≠ [] := by
    rw [← List.length_pos_iff, ← List.length_pos_iff, length_given]
  constructor
  · intro h
    obtain ⟨_, hrun⟩ := exists_run m (.glBegin p.gl :: body)
    have hr : Refills 0 (outcomes body) := hbody.mp ((machine.along_append hrun).mp h).1
    -- where the body gets to is known once its flushes are known to go well
    obtain ⟨m', hm', hrun'⟩ := run_body (p := p) hout hdrawn hdropped hin hr
    have hend := ((machine.along_append hrun').mp h).2
    rw [machine.along_cons_some (step_eq m' _), hm'.reports_glEnd_iff, hgiven] at hend
    exact ⟨hr, hend.1⟩
  · rintro ⟨hr, hlast⟩
    obtain ⟨m', hm', hrun⟩ := run_body (p := p) hout hdrawn hdropped hin hr
    refine (machine.along_append hrun).mpr ⟨hbody.mpr hr, ?_⟩
    rw [machine.along_cons_some (step_eq m' _), hm'.reports_glEnd_iff, hgiven]
    exact ⟨hlast, trivial⟩

/-- What a sequence draws whose flushes all go well. -/
theorem run_sequence (hout : m.inBeginEnd = false) (hdrawn : m.drawn = [])
    (hdropped : m.dropped = []) (hin : Inside body) (hr : Refills 0 (outcomes body))
    (hne : outcomes body ≠ []) (hlast : last.whole = true) :
    ∃ m', Filled p (given m.currentColor m.currentTexcoord body) m' ∧
      machine.run m (.glBegin p.gl :: body ++ [.glEnd last]) = some (m'.glEnd last).2 ∧
      (m'.glEnd last).2.dropped = [] ∧
      (m'.glEnd last).2.primitivesDrawn =
        m'.batches.flatMap p.primitives ++ p.primitives m'.vertices := by
  obtain ⟨m', hm', hrun⟩ := run_body (p := p) hout hdrawn hdropped hin hr
  have hgiven : given m.currentColor m.currentTexcoord body ≠ [] := by
    rw [← List.length_pos_iff, length_given, List.length_pos_iff]
    exact hne
  refine ⟨m', hm', ?_, ?_, hm'.primitivesDrawn_glEnd hgiven hlast⟩
  · rw [machine.run_append hrun]
    rfl
  · rw [hm'.glEnd_of_whole hgiven hlast]
    exact hm'.dropped

/-- What makes a sequence of a given length faithful: the flushes before vertices
go well, and that of `glEnd` goes well in a mode that survives the splitting, or
says that it did not. -/
def Delivers (p : Prim) (rs : List FlushOutcome) (last : FlushOutcome) : Prop :=
  (∀ j r, rs[j]? = some r → 0 < j → maxBatchVertices ∣ j → r.whole = true) ∧
    (rs ≠ [] → (last.whole = false → last.ret ≠ .success) ∧
      (last.whole = true → Splits p rs.length))

theorem delivers_iff : Delivers p rs last ↔
    Refills 0 rs ∧ (rs ≠ [] → (last.whole = false → last.ret ≠ .success) ∧
      (last.whole = true → Splits p rs.length)) := by
  rw [refills_iff]
  simp only [Nat.zero_add]
  exact Iff.rfl

theorem Faithful.delivers (h : Faithful p rs last) : Delivers p rs last := by
  rw [delivers_iff]
  obtain ⟨hreports, hdraws⟩ := h init (twoKinds rs) rfl rfl rfl (inside_twoKinds rs)
    (outcomes_twoKinds rs)
  rw [along_reports_iff rfl rfl rfl (inside_twoKinds rs), outcomes_twoKinds] at hreports
  obtain ⟨hr, hlast⟩ := hreports
  refine ⟨hr, fun hne => ⟨hlast hne, fun hwhole => ?_⟩⟩
  by_contra hs
  -- too many vertices for one batch, so that there are both kinds
  obtain ⟨k, hk⟩ := Nat.exists_eq_add_of_le (Nat.le_of_not_le fun hle => hs (.inl hle))
  obtain ⟨m', hm', hrun, hdropped, heq⟩ := run_sequence (p := p) (m := init) rfl rfl rfl
    (inside_twoKinds rs) ((outcomes_twoKinds rs).symm ▸ hr) ((outcomes_twoKinds rs).symm ▸ hne)
    hwhole
  have hperm := hdraws _ hrun hdropped
  rw [heq] at hperm
  rw [given_twoKinds hk] at hperm hm'
  exact hm'.not_perm (by decide) (hk ▸ hs) hperm

theorem Delivers.faithful (h : Delivers p rs last) : Faithful p rs last := by
  rw [delivers_iff] at h
  obtain ⟨hr, hend⟩ := h
  rintro m body hout hdrawn hdropped hin rfl
  refine ⟨(along_reports_iff hout hdrawn hdropped hin).mpr ⟨hr, fun hne => (hend hne).1⟩, ?_⟩
  intro m₁ hrun₁ hnone
  obtain ⟨m', hm', hrun⟩ := run_body (p := p) hout hdrawn hdropped hin hr
  have hrun' : machine.run m (.glBegin p.gl :: body ++ [.glEnd last]) =
      some (m'.glEnd last).2 := by
    rw [machine.run_append hrun]
    rfl
  cases hrun'.symm.trans hrun₁
  by_cases hne : outcomes body = []
  · -- nothing is given, nothing drawn
    have hnil : given m.currentColor m.currentTexcoord body = [] := by
      rw [← List.length_eq_zero_iff, length_given, hne]
      rfl
    rw [hnil] at hm' ⊢
    rw [hm'.glEnd_of_nil, Prim.primitives_nil]
    have hd : m'.drawn = [] := hm'.started (List.append_eq_nil_iff.mp hm'.vertices).2
    rw [primitivesDrawn, hd]
    exact .refl _
  have hgiven : given m.currentColor m.currentTexcoord body ≠ [] := by
    rw [← List.length_pos_iff, length_given, List.length_pos_iff]
    exact hne
  cases hwhole : last.whole with
  | true =>
      rw [hm'.primitivesDrawn_glEnd hgiven hwhole, hm'.primitives_of_splits hgiven]
      rw [length_given]
      exact (hend hne).2 hwhole
  | false =>
      rw [hm'.glEnd_of_not_whole hgiven hwhole] at hnone
      exact absurd (List.append_eq_nil_iff.mp hnone).2 (hm'.vertices_ne_nil hgiven)

/-- **Exact condition.** Every sequence of a mode and a number of vertices is drawn
as what it denotes, or a call says that it is not, exactly when the flushes that
`glVertex4f` does not look at go well, that of `glEnd` returns what became of it,
and there is one batch or a mode that survives the splitting. -/
theorem faithful_iff (p : Prim) (rs : List FlushOutcome) (last : FlushOutcome) :
    Faithful p rs last ↔ Delivers p rs last :=
  ⟨Faithful.delivers, Delivers.faithful⟩

/-- A line strip of 10001 vertices, every flush of which goes well, lacks the line
between its two batches. -/
theorem long_strip_not_faithful :
    ¬ Faithful .lineStrip (List.replicate 10001 .done) .done := by
  intro h
  have hne : List.replicate 10001 FlushOutcome.done ≠ [] :=
    List.ne_nil_of_length_pos (by rw [List.length_replicate]; decide)
  have hs := (h.delivers.2 hne).2 rfl
  rw [List.length_replicate] at hs
  exact absurd hs (by decide)

end Immediate
end VMQemuVGA
