import VMQemuVGA.Shader.Manager
import VMQemuVGA.Shader.Matching

/-! # What linking decides

A program with a vertex and a fragment shader fails phase 5A, whatever the two are, and is
never linked. What can be linked is a program whose only stage is a compute shader:
`createProgram` does not allow one, but it leaves out the ids for which it gets no number. -/

namespace VMQemuVGA

/-! ## Stages -/

section stages
variable {find : Nat → Option CompiledShader} {e : LinkAnswers} {ids : List Nat}
  {st st' : Stages} {b b' : UniformBlocks}

/-- Every shader is there, and every evaluation shader has a primitive mode. -/
def Complete (find : Nat → Option CompiledShader) (e : LinkAnswers) (ids : List Nat) : Prop :=
  ∀ id ∈ ids, ∃ x, find id = some x ∧
    (x.type = .tessellationEvaluation → e.primitiveMode id = true)

/-- One of the shaders is of this type. -/
def Includes (find : Nat → Option CompiledShader) (ids : List Nat) (type : ShaderType) : Prop :=
  ∃ id ∈ ids, ∃ x, find id = some x ∧ x.type = type

theorem stageLoop_cons {id : Nat} {x : CompiledShader} (hx : find id = some x)
    (hmode : x.type = .tessellationEvaluation → e.primitiveMode id = true) :
    stageLoop find e (id :: ids) st b = stageLoop find e ids (st.note id x.type)
      (x.type.ownUniforms.foldl (addUniform e.grant) b) := by
  rw [stageLoop, hx]
  refine if_neg fun hfails => ?_
  rw [hmode hfails.1] at hfails
  exact Bool.noConfusion hfails.2

theorem complete_cons {id : Nat} :
    Complete find e (id :: ids) ↔ (∃ x, find id = some x ∧
      (x.type = .tessellationEvaluation → e.primitiveMode id = true)) ∧ Complete find e ids :=
  List.forall_mem_cons

/-- The loop ends with the stages exactly if all of them are complete. -/
theorem exists_stageLoop_iff :
    (∃ st' b', stageLoop find e ids st b = (.ok st', b')) ↔ Complete find e ids := by
  induction ids generalizing st b with
  | nil => exact iff_of_true ⟨st, b, rfl⟩ nofun
  | cons id ids ih =>
      rw [complete_cons]
      cases hx : find id with
      | none =>
          rw [stageLoop, hx]
          refine iff_of_false ?_ ?_
          · rintro ⟨_, _, h⟩
            cases h
          · rintro ⟨⟨_, h, _⟩, _⟩
            cases h
      | some x =>
          by_cases hmode : x.type = .tessellationEvaluation → e.primitiveMode id = true
          · rw [stageLoop_cons hx hmode, ih]
            exact (and_iff_right ⟨x, rfl, hmode⟩).symm
          · have hfails : x.type = .tessellationEvaluation ∧ e.primitiveMode id = false := by
              rw [Classical.not_imp, Bool.not_eq_true] at hmode
              exact hmode
            rw [stageLoop, hx]
            dsimp only
            rw [if_pos hfails]
            refine iff_of_false ?_ ?_
            · rintro ⟨_, _, h⟩
              cases h
            · rintro ⟨⟨y, hy, hmode'⟩, _⟩
              cases hy
              exact hmode hmode'

/-- A loop that fails says so. -/
theorem ne_success_of_stageLoop {ret : IOReturn}
    (h : stageLoop find e ids st b = (.error ret, b')) : ret ≠ .success := by
  induction ids generalizing st b with
  | nil => cases h
  | cons id ids ih =>
      rw [stageLoop] at h
      split at h
      next =>
        cases h
        exact nofun
      next =>
        split at h
        · cases h
          exact nofun
        · exact ih h

/-- Where the loop ends, it has taken the turn of every shader. -/
theorem complete_of_stageLoop (h : stageLoop find e ids st b = (.ok st', b')) :
    Complete find e ids :=
  exists_stageLoop_iff.mp ⟨st', b', h⟩

/-- What a stage field is after the loop: what it was, or the id of a shader of its type. -/
structure Stages.Field (type : ShaderType) (get : Stages → Option Nat) : Prop where
  own : ∀ id (st : Stages), get (st.note id type) = some id
  other : ∀ id t (st : Stages), t ≠ type → get (st.note id t) = get st

theorem Stages.field_vertex : Stages.Field .vertex Stages.vertex :=
  ⟨fun _ _ => rfl, fun _ t _ h => by cases t <;> first | rfl | exact absurd rfl h⟩

theorem Stages.field_fragment : Stages.Field .fragment Stages.fragment :=
  ⟨fun _ _ => rfl, fun _ t _ h => by cases t <;> first | rfl | exact absurd rfl h⟩

theorem Stages.field_geometry : Stages.Field .geometry Stages.geometry :=
  ⟨fun _ _ => rfl, fun _ t _ h => by cases t <;> first | rfl | exact absurd rfl h⟩

theorem Stages.field_compute : Stages.Field .compute Stages.compute :=
  ⟨fun _ _ => rfl, fun _ t _ h => by cases t <;> first | rfl | exact absurd rfl h⟩

theorem Stages.Field.after {type : ShaderType} {get : Stages → Option Nat}
    (hget : Stages.Field type get) (h : stageLoop find e ids st b = (.ok st', b')) :
    (Includes find ids type ∧ ∃ id ∈ ids, get st' = some id ∧ ∃ x, find id = some x ∧
        x.type = type) ∨
      (¬ Includes find ids type ∧ get st' = get st) := by
  induction ids generalizing st b with
  | nil =>
      cases h
      exact .inr ⟨fun ⟨_, hid, _⟩ => absurd hid List.not_mem_nil, rfl⟩
  | cons id ids ih =>
      obtain ⟨⟨x, hx, hmode⟩, -⟩ := complete_cons.mp (complete_of_stageLoop h)
      rw [stageLoop_cons hx hmode] at h
      rcases ih h with ⟨⟨i, hi, y, hy⟩, j, hj, hget', hz⟩ | ⟨hnone, hget'⟩
      · exact .inl ⟨⟨i, List.mem_cons_of_mem id hi, y, hy⟩, j, List.mem_cons_of_mem id hj, hget',
          hz⟩
      · by_cases htype : x.type = type
        · refine .inl ⟨⟨id, List.mem_cons_self, x, hx, htype⟩, id, List.mem_cons_self, ?_, x, hx,
            htype⟩
          rw [hget', htype, hget.own]
        · refine .inr ⟨?_, by rw [hget', hget.other _ _ _ htype]⟩
          rintro ⟨i, hi, y, hy, hytype⟩
          rcases List.mem_cons.mp hi with rfl | hi
          · rw [hx] at hy
            cases hy
            exact htype hytype
          · exact hnone ⟨i, hi, y, hy, hytype⟩

/-- From the beginning on, a field is set exactly if there is a shader of its type. -/
theorem Stages.Field.isSome_iff {type : ShaderType} {get : Stages → Option Nat}
    (hget : Stages.Field type get) (hnone : get Stages.none = Option.none)
    (h : stageLoop find e ids .none b = (.ok st', b')) :
    (get st').isSome = true ↔ Includes find ids type := by
  rcases hget.after h with ⟨hincludes, id, -, hid, -⟩ | ⟨hnot, hsame⟩
  · exact iff_of_true (by rw [hid]; rfl) hincludes
  · exact iff_of_false (by rw [hsame, hnone]; exact Bool.noConfusion) hnot

end stages
/-! ## The verdict -/

section verdict
variable {find : Nat → Option CompiledShader} {e : LinkAnswers} {p : ShaderProgram}
  {h : BlockHeap}

/-- A compute shader, without vertex, fragment and geometry shaders; tessellation does no
harm. -/
structure ComputeOnly (find : Nat → Option CompiledShader) (e : LinkAnswers) (ids : List Nat) :
    Prop where
  complete : Complete find e ids
  compute : Includes find ids .compute
  vertex : ¬ Includes find ids .vertex
  fragment : ¬ Includes find ids .fragment
  geometry : ¬ Includes find ids .geometry

/-- The link gets to collect these uniforms and attributes. -/
def Collects (find : Nat → Option CompiledShader) (e : LinkAnswers) (p : ShaderProgram)
    (h : BlockHeap) (us : List ShaderUniform) (as : List ShaderAttribute) : Prop :=
  ∃ st b, stageLoop find e p.shaderIds .none (p.uniforms, h) = (.ok st, b) ∧
    us = (mergeUniforms find e p.shaderIds b.2).1.map Block.value ∧
    as = (copyAttributes find e st.vertex (mergeUniforms find e p.shaderIds b.2).2).1.map
      Block.value

/-- Both stages are there, and phase 5A rejects them. -/
theorem interfaceCompatible_of_both {ids : List Nat} {st : Stages} {b b' : UniformBlocks}
    (hloop : stageLoop find e ids .none b = (.ok st, b')) (hvertex : Includes find ids .vertex)
    (hfragment : Includes find ids .fragment) : interfaceCompatible find e st = false := by
  obtain ⟨-, v, -, hv, x, hx, -⟩ | ⟨hnot, -⟩ := Stages.field_vertex.after hloop
  · obtain ⟨-, f, -, hf, y, hy, -⟩ | ⟨hnot, -⟩ := Stages.field_fragment.after hloop
    · simp only [interfaceCompatible, hv, hf, Option.bind_some, hx, hy, phase5A_eq_false,
        Bool.false_and]
    · exact absurd hfragment hnot
  · exact absurd hvertex hnot

theorem valid_iff {ids : List Nat} {st : Stages} {b b' : UniformBlocks}
    (hloop : stageLoop find e ids .none b = (.ok st, b')) :
    st.valid = true ↔ (Includes find ids .compute ∧ ¬ Includes find ids .vertex ∧
        ¬ Includes find ids .fragment ∧ ¬ Includes find ids .geometry) ∨
      (¬ Includes find ids .compute ∧ Includes find ids .vertex ∧
        Includes find ids .fragment) := by
  rw [← Stages.field_vertex.isSome_iff rfl hloop, ← Stages.field_fragment.isSome_iff rfl hloop,
    ← Stages.field_geometry.isSome_iff rfl hloop, ← Stages.field_compute.isSome_iff rfl hloop]
  cases hcompute : st.compute with
  | none => simp [Stages.valid, hcompute]
  | some _ => simp [Stages.valid, hcompute, and_assoc]

theorem linkStages_success_iff {st : Stages} :
    (linkStages find e st p h).1 = .success ↔
      symbolsResolved e st = true ∧ (mergeUniforms find e p.shaderIds h).1.length ≤ 1024 ∧
        interfaceCompatible find e st = true := by
  rw [← limitsValid_iff ((mergeUniforms find e p.shaderIds h).1.map Block.value)
    ((copyAttributes find e st.vertex (mergeUniforms find e p.shaderIds h).2).1.map Block.value),
    ← and_assoc, ← Bool.and_eq_true, ← Bool.and_eq_true]
  unfold linkStages
  dsimp only
  split
  next hlinked => exact iff_of_true rfl hlinked
  next hlinked => exact iff_of_false nofun hlinked

/-- Past the stage loop, a valid pipeline without both stages is a compute shader alone. -/
theorem valid_and_linked_iff {ids : List Nat} {st : Stages} {b b' : UniformBlocks} {n : Nat}
    (hloop : stageLoop find e ids .none b = (.ok st, b')) :
    (st.valid = true ∧ symbolsResolved e st = true ∧ n ≤ 1024 ∧
        interfaceCompatible find e st = true) ↔
      ComputeOnly find e ids ∧ n ≤ 1024 := by
  rw [valid_iff hloop]
  constructor
  · rintro ⟨⟨hcompute, hvertex, hfragment, hgeometry⟩ | ⟨-, hvertex, hfragment⟩, -, hn, hmatch⟩
    · exact ⟨⟨complete_of_stageLoop hloop, hcompute, hvertex, hfragment, hgeometry⟩, hn⟩
    · rw [interfaceCompatible_of_both hloop hvertex hfragment] at hmatch
      cases hmatch
  · rintro ⟨honly, hn⟩
    have hvertex : st.vertex = none := by
      rw [← Option.not_isSome_iff_eq_none, Stages.field_vertex.isSome_iff rfl hloop]
      exact honly.vertex
    have hgeometry : st.geometry = none := by
      rw [← Option.not_isSome_iff_eq_none, Stages.field_geometry.isSome_iff rfl hloop]
      exact honly.geometry
    refine ⟨.inl ⟨honly.compute, honly.vertex, honly.fragment, honly.geometry⟩, ?_, hn, ?_⟩
    · simp only [symbolsResolved, hvertex, Option.isNone_none, Bool.true_or]
    · simp only [interfaceCompatible, hvertex, hgeometry, Option.bind_none, Option.isNone_none,
        Bool.true_or, Bool.and_self]

/-- **A link succeeds exactly for a compute shader** without vertex, fragment and geometry
shaders, and with no more than 1024 uniforms. -/
theorem linkFound_success_iff :
    (linkFound find e p h).1 = .success ↔
      ComputeOnly find e p.shaderIds ∧ ∃ us as, Collects find e p h us as ∧ us.length ≤ 1024 := by
  unfold linkFound
  split
  next hempty =>
    refine iff_of_false nofun ?_
    rintro ⟨honly, -⟩
    obtain ⟨id, hid, -⟩ := honly.compute
    rw [hempty] at hid
    cases hid
  next hids =>
    cases hloop : stageLoop find e p.shaderIds .none (p.uniforms, h) with
    | mk result b =>
        cases result with
        | error ret =>
            have hincomplete : ¬ Complete find e p.shaderIds := fun hcomplete => by
              obtain ⟨st, b', hok⟩ := exists_stageLoop_iff.mpr hcomplete
              rw [hloop] at hok
              cases hok
            refine iff_of_false ?_ fun honly => hincomplete honly.1.complete
            exact ne_success_of_stageLoop hloop
        | ok st =>
            dsimp only
            have hcollects (n : Nat) : (∃ us as, Collects find e p h us as ∧ us.length ≤ n) ↔
                (mergeUniforms find e p.shaderIds b.2).1.length ≤ n := by
              constructor
              · rintro ⟨us, as, ⟨st', b', hloop', rfl, -⟩, hn⟩
                rw [hloop] at hloop'
                cases hloop'
                rwa [List.length_map] at hn
              · intro hn
                exact ⟨_, _, ⟨st, b, hloop, rfl, rfl⟩, by rwa [List.length_map]⟩
            rw [hcollects, ← valid_and_linked_iff hloop]
            split
            next hvalid => rw [linkStages_success_iff, and_iff_right hvalid]
            next hvalid => exact iff_of_false nofun fun h => hvalid h.1

end verdict

namespace ShaderManager
variable {s : ShaderManager} {id : Nat} {e : LinkAnswers}

theorem findProgram_modify {p p' : ShaderProgram} (h : s.findProgram id = some p)
    (hid : p'.id = id) (heap : BlockHeap) :
    ShaderManager.findProgram { s with
      heap
      programs := FirstMatch.modify (fun x => decide (x.id = id)) (fun _ => p') s.programs } id =
        some p' :=
  FirstMatch.find?_modify (f := fun _ => p') h (decide_eq_true hid)

theorem linkProgram_of_found {p : ShaderProgram} (h : s.findProgram id = some p) :
    (s.linkProgram id e).1 = (linkFound s.findShader e p s.heap).1 := by
  rw [linkProgram, h]

/-! ## Uniform buffers -/

/-- If the link succeeds, the resources are allocated as they should be. -/
def LinkPacks (s : ShaderManager) (id : Nat) (e : LinkAnswers) : Prop :=
  (s.linkProgram id e).1 = .success → ∀ p us as, s.findProgram id = some p →
    Collects s.findShader e p s.heap us as → (allocateResources us as).Right us as

/-- **A link packs its uniforms right exactly if** it fails, as it does with a vertex, fragment
or geometry shader, without a compute shader, and with more than 1024 uniforms, or what it
collects fits the declared limits. -/
theorem linkPacks_iff (s : ShaderManager) (id : Nat) (e : LinkAnswers) :
    LinkPacks s id e ↔ ∀ p us as, s.findProgram id = some p →
      ComputeOnly s.findShader e p.shaderIds → Collects s.findShader e p s.heap us as →
      us.length ≤ 1024 → FitsLimits us as := by
  constructor
  · intro h p us as hp honly hcollects hcount
    rw [← allocateResources_right_iff]
    refine h ?_ p us as hp hcollects
    rw [linkProgram_of_found hp, linkFound_success_iff]
    exact ⟨honly, us, as, hcollects, hcount⟩
  · intro h hsuccess p us as hp hcollects
    rw [allocateResources_right_iff]
    rw [linkProgram_of_found hp, linkFound_success_iff] at hsuccess
    obtain ⟨honly, us', as', hcollects', hcount⟩ := hsuccess
    obtain ⟨st, b, hloop, rfl, rfl⟩ := hcollects
    obtain ⟨st', b', hloop', rfl, rfl⟩ := hcollects'
    rw [hloop] at hloop'
    cases hloop'
    exact h p _ _ hp honly ⟨st, b, hloop, rfl, rfl⟩ hcount

/-- `uniform mat4 big[2000];` takes more than a buffer. -/
def bigUniform : ShaderUniform := ⟨ascii "big", 0x8B5C, 0, 64, 2000, 0⟩

/-- Of three ids only that of the compute shader gets a number. -/
def loneCompute : ShaderManager :=
  let shader := fun type us =>
    Call.compileShader (.ok ⟨0, type, .ofString "void main(){}", us, [], 0⟩) true
  let s₁ := (init.call (shader .vertex [])).2
  let s₂ := (s₁.call (shader .fragment [])).2
  let s₃ := (s₂.call (shader .compute [bigUniform])).2
  (s₃.call (.createProgram [2, 3, 4] ⟨true, true, fun i => decide (i = 2), true⟩)).2

/-- The uniform is placed at the beginning of a buffer, and ends behind it. -/
theorem loneCompute_not_packs : ¬ LinkPacks loneCompute 2 .granting := by
  intro h
  have hright := h (by decide) ⟨2, [4], false, [], []⟩ [bigUniform] [] (by decide)
    ⟨⟨none, none, none, some 4⟩, ([], ⟨0, []⟩), rfl, rfl, rfl⟩
  have hinside := hright.inside ⟨bigUniform, 1, 0⟩ (by decide)
  exact absurd hinside (by decide)

/-! ## Interfaces -/

/-- The program consists of these two shaders. -/
def IsPair (s : ShaderManager) (id : Nat) (v f : CompiledShader) : Prop :=
  ∃ p i j, s.findProgram id = some p ∧ (p.shaderIds = [i, j] ∨ p.shaderIds = [j, i]) ∧
    s.findShader i = some v ∧ s.findShader j = some f ∧ v.type = .vertex ∧ f.type = .fragment

/-- What is linked fits together, for what the two shaders are said to declare, and the two
checks come to the same verdict. `outputs` is what the symbol resolution reads. -/
structure InterfacesRight (s : ShaderManager) (id : Nat) (e : LinkAnswers) (v f : CompiledShader)
    (outputs : List InterfaceVariable)
    (outputsOf inputsOf : ShaderSource → List InterfaceVariable) : Prop where
  sound : (s.linkProgram id e).1 = .success ∨
      ((s.linkProgram id e).2.findProgram id).any ShaderProgram.isLinked = true →
    ∀ i ∈ inputsOf f.bytecode, ∃ o ∈ outputsOf v.bytecode,
      o.name = i.name ∧ o.type = i.type ∧ o.location = i.location
  agree : phase5A v.bytecode f.bytecode e.beyond = symbolResolution f.bytecode outputs

/-- The outputs have different hashes, and there is a fragment shader to copy them for. -/
def ResolvesSymbols (f : ShaderSource) (outputs : List InterfaceVariable) : Prop :=
  Distinguished outputs ∧ (f.size ≠ 0 ∨ outputs = [])

theorem symbolResolution_iff (f : ShaderSource) (outputs : List InterfaceVariable) :
    symbolResolution f outputs = true ↔ ResolvesSymbols f outputs := by
  unfold symbolResolution ResolvesSymbols
  split
  next hsize =>
    rw [symbolsMatch_nil_iff]
    constructor
    · rintro rfl
      exact ⟨List.nodup_nil, .inr rfl⟩
    · rintro ⟨-, hne | hnil⟩
      · exact absurd hsize hne
      · exact hnil
  next hsize =>
    rw [symbolsMatch_self_iff]
    exact (and_iff_left (.inl hsize)).symm

/-- A link keeps the id of the program. -/
theorem id_linkFound {find : Nat → Option CompiledShader} {p : ShaderProgram} {h : BlockHeap} :
    (linkFound find e p h).2.1.id = p.id := by
  unfold linkFound
  split
  · rfl
  · split
    · rfl
    · split
      · rfl
      · rfl

/-- A link that fails leaves the program unlinked, if it gets past the stage loop. -/
theorem isLinked_linkStages {find : Nat → Option CompiledShader} {p : ShaderProgram}
    {h : BlockHeap} {st : Stages} :
    (linkStages find e st p h).2.1.isLinked = true ↔ (linkStages find e st p h).1 = .success := by
  unfold linkStages
  dsimp only
  split
  next hlinked => exact iff_of_true hlinked rfl
  next hlinked => exact iff_of_false hlinked nofun

/-- Where the pipeline is valid, the link gets to its end. -/
theorem linkFound_of_valid {find : Nat → Option CompiledShader} {p : ShaderProgram}
    {h : BlockHeap} {st : Stages} {b : UniformBlocks}
    (hloop : stageLoop find e p.shaderIds .none (p.uniforms, h) = (.ok st, b))
    (hids : p.shaderIds ≠ []) (hvalid : st.valid = true) :
    linkFound find e p h = linkStages find e st { p with uniforms := b.1 } b.2 := by
  rw [linkFound, if_neg hids, hloop]
  exact if_pos hvalid

/-- **A program of a vertex and a fragment shader is never linked.** -/
theorem pair_not_linked {v f : CompiledShader} (h : IsPair s id v f) :
    (s.linkProgram id e).1 ≠ .success ∧
      ((s.linkProgram id e).2.findProgram id).any ShaderProgram.isLinked = false := by
  obtain ⟨p, i, j, hp, hids, hv, hf, hvertex, hfragment⟩ := h
  have hmem (k : Nat) : k ∈ p.shaderIds ↔ k = i ∨ k = j := by
    rcases hids with hids | hids
    · rw [hids, List.mem_pair]
    · rw [hids, List.mem_pair, or_comm]
  have hcomplete : Complete s.findShader e p.shaderIds := by
    intro k hk
    rcases (hmem k).mp hk with rfl | rfl
    · exact ⟨v, hv, fun htype => by rw [hvertex] at htype; cases htype⟩
    · exact ⟨f, hf, fun htype => by rw [hfragment] at htype; cases htype⟩
  obtain ⟨st, b, hloop⟩ : ∃ st b, stageLoop s.findShader e p.shaderIds .none (p.uniforms, s.heap) =
      (.ok st, b) := exists_stageLoop_iff.mpr hcomplete
  have hboth : Includes s.findShader p.shaderIds .vertex ∧
      Includes s.findShader p.shaderIds .fragment :=
    ⟨⟨i, (hmem i).mpr (.inl rfl), v, hv, hvertex⟩, ⟨j, (hmem j).mpr (.inr rfl), f, hf, hfragment⟩⟩
  have hnocompute : ¬ Includes s.findShader p.shaderIds .compute := by
    rintro ⟨k, hk, x, hx, htype⟩
    rcases (hmem k).mp hk with rfl | rfl
    · rw [hv] at hx
      cases hx
      rw [hvertex] at htype
      cases htype
    · rw [hf] at hx
      cases hx
      rw [hfragment] at htype
      cases htype
  have hvalid : st.valid = true := (valid_iff hloop).mpr (.inr ⟨hnocompute, hboth⟩)
  have hnonempty : p.shaderIds ≠ [] := List.ne_nil_of_mem ((hmem i).mpr (.inl rfl))
  have hfails : (linkFound s.findShader e p s.heap).1 ≠ .success := by
    rw [ne_eq, linkFound_success_iff]
    exact fun honly => honly.1.vertex hboth.1
  refine ⟨by rwa [linkProgram_of_found hp], ?_⟩
  have hfound : (s.linkProgram id e).2.findProgram id =
      some (linkFound s.findShader e p s.heap).2.1 := by
    rw [linkProgram, hp]
    refine findProgram_modify hp ?_ _
    rw [id_linkFound]
    exact of_decide_eq_true (List.find?_some (p := fun p : ShaderProgram => decide (p.id = id)) hp)
  rw [hfound, Option.any_some]
  rw [linkFound_of_valid hloop hnonempty hvalid] at hfails ⊢
  rw [← Bool.not_eq_true, isLinked_linkStages]
  exact hfails

/-- **The interfaces are right exactly if the symbol resolution fails as well**, because two
outputs share a hash. -/
theorem interfacesRight_iff {v f : CompiledShader} {outputs : List InterfaceVariable}
    (hpair : IsPair s id v f) (_ : v.bytecode.Outputs outputs)
    (outputsOf inputsOf : ShaderSource → List InterfaceVariable) :
    InterfacesRight s id e v f outputs outputsOf inputsOf ↔
      ¬ ResolvesSymbols f.bytecode outputs := by
  rw [← symbolResolution_iff, Bool.not_eq_true, ← phase5A_eq_false v.bytecode f.bytecode e.beyond]
  refine ⟨fun h => h.agree.symm, fun h => ⟨fun hlinked => ?_, h.symm⟩⟩
  obtain ⟨hfails, hunlinked⟩ := pair_not_linked (e := e) hpair
  rcases hlinked with hsuccess | hlinked
  · exact absurd hsuccess hfails
  · rw [hunlinked] at hlinked
    cases hlinked

/-- A program of two shaders of these texts. -/
def pairOf (vertex fragment : String) : ShaderManager :=
  let shader := fun type source =>
    Call.compileShader (.ok ⟨0, type, .ofString source, [], [], 0⟩) true
  let s₁ := (init.call (shader .vertex vertex)).2
  let s₂ := (s₁.call (shader .fragment fragment)).2
  (s₂.call (.createProgram [2, 3] .granting)).2

theorem isPair_pairOf (vertex fragment : String) :
    IsPair (pairOf vertex fragment) 2 ⟨2, .vertex, .ofString vertex, [], [], 1⟩
      ⟨3, .fragment, .ofString fragment, [], [], 1⟩ :=
  ⟨⟨2, [2, 3], false, [], []⟩, 2, 3, rfl, .inl rfl, rfl, rfl, rfl, rfl⟩

/-- What is read of a line with an output of type `vec3`: its name is taken for `ec3`. -/
def outputEc3 (location : Nat) : InterfaceVariable :=
  ⟨ascii "ec3", 0x8B51, location, 3, semanticHash (ascii "ec3")⟩

theorem outputs_two : (ShaderSource.ofString "out vec3 one;\nout vec3 two;\n").Outputs
    [outputEc3 0, outputEc3 1] :=
  .text (by decide) (by decide) ⟨40, by decide⟩

theorem outputs_one : (ShaderSource.ofString "out vec3 one;\n").Outputs [outputEc3 0] :=
  .text (by decide) (by decide) ⟨20, by decide⟩

/-- Two outputs of one type are both taken to be named after it: the checks agree. -/
theorem interfacesRight_same_types :
    InterfacesRight (pairOf "out vec3 one;\nout vec3 two;\n" "in vec3 one;\n") 2 .granting
      ⟨2, .vertex, .ofString "out vec3 one;\nout vec3 two;\n", [], [], 1⟩
      ⟨3, .fragment, .ofString "in vec3 one;\n", [], [], 1⟩ [outputEc3 0, outputEc3 1]
      (fun _ => []) fun _ => [] := by
  refine (interfacesRight_iff (isPair_pairOf _ _) outputs_two _ _).mpr ?_
  rw [← symbolResolution_iff]
  decide

/-- The output is there for the input, and only the symbol resolution is satisfied. -/
theorem interfaces_not_right :
    (ShaderSource.ofString "out vec3 one;\n").Outputs [outputEc3 0] ∧
      ∀ outputsOf inputsOf, ¬ InterfacesRight (pairOf "out vec3 one;\n" "in vec3 one;\n") 2
        .granting ⟨2, .vertex, .ofString "out vec3 one;\n", [], [], 1⟩
        ⟨3, .fragment, .ofString "in vec3 one;\n", [], [], 1⟩ [outputEc3 0] outputsOf
        inputsOf := by
  refine ⟨outputs_one, fun _ _ h => ?_⟩
  have hagree := h.agree
  rw [phase5A_eq_false] at hagree
  exact absurd hagree.symm (by decide)

end ShaderManager
end VMQemuVGA
