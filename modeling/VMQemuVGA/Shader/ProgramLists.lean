import VMQemuVGA.Lib.History
import VMQemuVGA.Shader.Linking

/-! # The lists of a program

Linking copies the uniforms of the shaders, one of each name, into blocks that the program
keeps until it is destroyed. Linking again empties the lists without freeing the blocks, and
`setUniform` never finds a name: a program with uniforms is not linked, or its uniforms are
taken for something else. -/

namespace VMQemuVGA

/-! ## Blocks -/

section blocks
variable {α : Type} {grant : Nat → Bool}

/-- What a list has been extended by, and what has been allocated for that. -/
def Grew (b b' : List (Block α) × BlockHeap) : Prop :=
  ∃ new : List (Block α), b'.1 = b.1 ++ new ∧
    b'.2.trace = b.2.trace ++ (new.map Block.address).map .acquire

theorem Grew.refl (b : List (Block α) × BlockHeap) : Grew b b :=
  ⟨[], (List.append_nil _).symm, (List.append_nil _).symm⟩

theorem Grew.trans {b c d : List (Block α) × BlockHeap} (h : Grew b c) (h' : Grew c d) :
    Grew b d := by
  obtain ⟨new, hlist, htrace⟩ := h
  obtain ⟨new', hlist', htrace'⟩ := h'
  refine ⟨new ++ new', ?_, ?_⟩
  · rw [hlist', hlist, List.append_assoc]
  · rw [htrace', htrace, List.map_append, List.map_append, List.append_assoc]

theorem grew_put (grant : Nat → Bool) (value : α) (b : List (Block α) × BlockHeap) :
    Grew b (b.2.put grant value b.1) := by
  unfold BlockHeap.put BlockHeap.request
  cases grant b.2.requests with
  | true => exact ⟨[⟨b.2.requests, value⟩], rfl, rfl⟩
  | false => exact .refl b

/-- A fold grows where its steps do. -/
theorem grew_foldl {β : Type} {f : List (Block α) × BlockHeap → β → List (Block α) × BlockHeap}
    (hf : ∀ b x, Grew b (f b x)) (xs : List β) (b : List (Block α) × BlockHeap) :
    Grew b (xs.foldl f b) := by
  induction xs generalizing b with
  | nil => exact .refl b
  | cons x xs ih => exact (hf b x).trans (ih (f b x))

theorem put_granted {h : BlockHeap} (hgrant : grant h.requests = true) (value : α)
    (l : List (Block α)) : h.put grant value l =
      (l ++ [⟨h.requests, value⟩], ⟨h.requests + 1, h.trace ++ [.acquire h.requests]⟩) := by
  unfold BlockHeap.put BlockHeap.request
  rw [if_pos hgrant]

theorem put_refused {h : BlockHeap} (hgrant : grant h.requests = false) (value : α)
    (l : List (Block α)) : h.put grant value l = (l, ⟨h.requests + 1, h.trace⟩) := by
  unfold BlockHeap.put BlockHeap.request
  rw [if_neg (by rw [hgrant]; exact Bool.false_ne_true)]

/-- Where every request of a fold is refused, only the requests are counted. -/
theorem foldl_refused {β : Type} {f : List (Block α) × BlockHeap → β → List (Block α) × BlockHeap}
    (hf : ∀ b x, grant b.2.requests = false → f b x = (b.1, ⟨b.2.requests + 1, b.2.trace⟩))
    (xs : List β) (b : List (Block α) × BlockHeap)
    (hgrant : ∀ i < xs.length, grant (b.2.requests + i) = false) :
    xs.foldl f b = (b.1, ⟨b.2.requests + xs.length, b.2.trace⟩) := by
  induction xs generalizing b with
  | nil => rfl
  | cons x xs ih =>
      rw [List.foldl_cons, hf b x (hgrant 0 (Nat.succ_pos _)), ih]
      · rw [List.length_cons, Nat.add_assoc, Nat.add_comm 1]
      · intro i hi
        rw [Nat.add_assoc, Nat.add_comm 1]
        exact hgrant (i + 1) (Nat.succ_lt_succ hi)

end blocks

/-! ## Merging -/

/-- The names in a list of uniforms. -/
def uniformNames (us : List (Block ShaderUniform)) : List (List UInt8) :=
  us.map fun b => b.value.name

/-- The names are different, the locations count the places, and every uniform has the name,
type and sizes of one of those declared. -/
structure Merged (declared : List ShaderUniform) (us : List (Block ShaderUniform)) : Prop where
  distinct : (uniformNames us).Nodup
  locations : (us.map fun b => b.value.location) = List.range us.length
  origin : ∀ b ∈ us, ∃ u ∈ declared, b.value.name = u.name ∧ b.value.type = u.type ∧
    b.value.size = u.size ∧ b.value.arraySize = u.arraySize

theorem merged_nil (declared : List ShaderUniform) : Merged declared [] :=
  ⟨List.nodup_nil, rfl, nofun⟩

/-- The names of a list are given blocks: a name that has none yet is given one, or it is
declared again further on and given one there. `n` is the number of the next request. -/
def Provided (grant : Nat → Bool) : Nat → List (List UInt8) → List ShaderUniform → Prop
  | _, _, [] => True
  | n, names, u :: us =>
      if u.name ∈ names then Provided grant n names us
      else if grant n then Provided grant (n + 1) (names ++ [u.name]) us
      else (∃ v ∈ us, v.name = u.name) ∧ Provided grant (n + 1) names us

/-- Memory is enough. -/
theorem provided_of_granted {grant : Nat → Bool} (hgrant : ∀ n, grant n = true) (n : Nat)
    (names : List (List UInt8)) (us : List ShaderUniform) : Provided grant n names us := by
  induction us generalizing n names with
  | nil => trivial
  | cons u us ih =>
      rw [Provided]
      split
      next => exact ih n names
      next =>
        rw [if_pos (hgrant n)]
        exact ih (n + 1) (names ++ [u.name])

section merging
variable {grant : Nat → Bool} {declared : List ShaderUniform} {b : UniformBlocks}
  {u : ShaderUniform}

theorem mergeUniform_of_mem (h : u.name ∈ uniformNames b.1) : mergeUniform grant b u = b := by
  obtain ⟨c, hc, heq⟩ := List.mem_map.mp h
  exact if_pos (List.any_eq_true.mpr ⟨c, hc, decide_eq_true heq⟩)

theorem mergeUniform_of_notMem (h : u.name ∉ uniformNames b.1) :
    mergeUniform grant b u = addUniform grant b u := by
  refine if_neg fun hany => h ?_
  obtain ⟨c, hc, heq⟩ := List.any_eq_true.mp hany
  exact List.mem_map.mpr ⟨c, hc, of_decide_eq_true heq⟩

theorem addUniform_granted (h : grant b.2.requests = true) :
    addUniform grant b u = (b.1 ++ [⟨b.2.requests, { u with location := b.1.length }⟩],
      ⟨b.2.requests + 1, b.2.trace ++ [.acquire b.2.requests]⟩) :=
  put_granted h _ _

theorem addUniform_refused (h : grant b.2.requests = false) :
    addUniform grant b u = (b.1, ⟨b.2.requests + 1, b.2.trace⟩) :=
  put_refused h _ _

/-- One uniform keeps the list merged. -/
theorem Merged.mergeUniform (h : Merged declared b.1) (hu : u ∈ declared) :
    Merged declared (mergeUniform grant b u).1 := by
  by_cases hname : u.name ∈ uniformNames b.1
  · rw [mergeUniform_of_mem hname]
    exact h
  · rw [mergeUniform_of_notMem hname]
    cases hgrant : grant b.2.requests with
    | false =>
        rw [addUniform_refused hgrant]
        exact h
    | true =>
        rw [addUniform_granted hgrant]
        refine ⟨?_, ?_, ?_⟩
        · rw [uniformNames, List.map_append]
          refine List.nodup_append.mpr ⟨h.distinct, List.nodup_singleton _, ?_⟩
          intro n hn m hm heq
          rw [List.mem_singleton.mp hm] at heq
          have hn' : n = u.name := heq
          exact hname (hn' ▸ hn)
        · rw [List.map_append, h.locations, List.length_append, List.length_singleton,
            List.range_succ]
          rfl
        · intro c hc
          rcases List.mem_append.mp hc with hc | hc
          · exact h.origin c hc
          · rw [List.mem_singleton.mp hc]
            exact ⟨u, hu, rfl, rfl, rfl, rfl⟩

theorem merged_foldl {us : List ShaderUniform} (hsub : ∀ u ∈ us, u ∈ declared)
    (h : Merged declared b.1) : Merged declared (us.foldl (mergeUniform grant) b).1 := by
  induction us generalizing b with
  | nil => exact h
  | cons u us ih =>
      exact ih (fun v hv => hsub v (List.mem_cons_of_mem u hv))
        (h.mergeUniform (hsub u List.mem_cons_self))

/-- The names that are provided for get into the list. -/
theorem mem_uniformNames_foldl {us : List ShaderUniform}
    (h : Provided grant b.2.requests (uniformNames b.1) us) {name : List UInt8}
    (hname : name ∈ uniformNames b.1 ∨ ∃ u ∈ us, u.name = name) :
    name ∈ uniformNames (us.foldl (mergeUniform grant) b).1 := by
  induction us generalizing b with
  | nil => exact hname.resolve_right fun ⟨_, hu, _⟩ => absurd hu List.not_mem_nil
  | cons u us ih =>
      rw [List.foldl_cons]
      rw [Provided] at h
      -- what is looked for is there already, or this one, or one of the others
      have hcases : name ∈ uniformNames b.1 ∨ u.name = name ∨ ∃ v ∈ us, v.name = name := by
        rcases hname with hold | ⟨v, hv, heq⟩
        · exact .inl hold
        · rcases List.mem_cons.mp hv with rfl | hv
          · exact .inr (.inl heq)
          · exact .inr (.inr ⟨v, hv, heq⟩)
      by_cases hmem : u.name ∈ uniformNames b.1
      · rw [if_pos hmem] at h
        rw [mergeUniform_of_mem hmem]
        refine ih h ?_
        rcases hcases with hold | rfl | hlater
        · exact .inl hold
        · exact .inl hmem
        · exact .inr hlater
      · rw [if_neg hmem] at h
        rw [mergeUniform_of_notMem hmem]
        cases hgrant : grant b.2.requests with
        | true =>
            rw [if_pos hgrant] at h
            have hnames : uniformNames (addUniform grant b u).1 = uniformNames b.1 ++ [u.name] := by
              rw [addUniform_granted hgrant, uniformNames, List.map_append]
              rfl
            refine ih (by rwa [hnames, addUniform_granted hgrant]) ?_
            rw [hnames]
            rcases hcases with hold | rfl | hlater
            · exact .inl (List.mem_append_left _ hold)
            · exact .inl (List.mem_append_right _ (List.mem_singleton.mpr rfl))
            · exact .inr hlater
        | false =>
            rw [if_neg (by rw [hgrant]; exact Bool.false_ne_true)] at h
            rw [addUniform_refused hgrant]
            refine ih h.2 ?_
            rcases hcases with hold | rfl | hlater
            · exact .inl hold
            · exact .inr h.1
            · exact .inr hlater

theorem grew_addUniform (b : UniformBlocks) (u : ShaderUniform) : Grew b (addUniform grant b u) :=
  grew_put grant _ b

theorem grew_mergeUniform (grant : Nat → Bool) (b : UniformBlocks) (u : ShaderUniform) :
    Grew b (mergeUniform grant b u) := by
  unfold mergeUniform
  split
  next => exact .refl b
  next => exact grew_addUniform b u

end merging

/-! ## One link -/

section link
variable {find : Nat → Option CompiledShader} {e : LinkAnswers} {ids : List Nat}
  {st st' : Stages} {b b' : UniformBlocks} {p : ShaderProgram} {h : BlockHeap}

/-- What the stage loop adds for the shaders it gets to. -/
def stageUniforms (find : Nat → Option CompiledShader) (e : LinkAnswers) :
    List Nat → List ShaderUniform
  | [] => []
  | id :: ids =>
      match find id with
      | none => []
      | some x =>
          if x.type = .tessellationEvaluation ∧ e.primitiveMode id = false then []
          else x.type.ownUniforms ++ stageUniforms find e ids

/-- The stages of a list of shaders. -/
def stagesOf (find : Nat → Option CompiledShader) (ids : List Nat) (st : Stages) : Stages :=
  ids.foldl (fun st id => (find id).elim st fun x => st.note id x.type) st

/-- The link gets past the stage checks. -/
def Passes (find : Nat → Option CompiledShader) (e : LinkAnswers) (ids : List Nat) : Prop :=
  Complete find e ids ∧ (stagesOf find ids .none).valid = true

theorem stageLoop_snd (st : Stages) :
    (stageLoop find e ids st b).2 = (stageUniforms find e ids).foldl (addUniform e.grant) b := by
  induction ids generalizing st b with
  | nil => rfl
  | cons id ids ih =>
      rw [stageLoop, stageUniforms]
      cases find id with
      | none => rfl
      | some x =>
          dsimp only
          split
          next => rfl
          next => rw [ih, List.foldl_append]

theorem stages_eq_of_stageLoop (hloop : stageLoop find e ids st b = (.ok st', b')) :
    st' = stagesOf find ids st := by
  induction ids generalizing st b with
  | nil =>
      cases hloop
      rfl
  | cons id ids ih =>
      obtain ⟨⟨x, hx, hmode⟩, -⟩ := complete_cons.mp (complete_of_stageLoop hloop)
      rw [stageLoop_cons hx hmode] at hloop
      rw [ih hloop, stagesOf, stagesOf, List.foldl_cons, hx]
      rfl

/-- A link that does not get past the stage checks changes no list but by the stage loop. -/
theorem linkFound_of_not_passes (hpasses : ¬ Passes find e p.shaderIds) :
    (linkFound find e p h).2 =
      ({ p with uniforms := ((stageUniforms find e p.shaderIds).foldl (addUniform e.grant)
          (p.uniforms, h)).1 },
        ((stageUniforms find e p.shaderIds).foldl (addUniform e.grant) (p.uniforms, h)).2) := by
  rw [← stageLoop_snd .none, linkFound]
  by_cases hids : p.shaderIds = []
  · obtain ⟨id, shaderIds, isLinked, us, as⟩ := p
    cases hids
    rfl
  · rw [if_neg hids]
    cases hloop : stageLoop find e p.shaderIds .none (p.uniforms, h) with
    | mk result b =>
        cases result with
        | error ret => rfl
        | ok st =>
            have hvalid : st.valid ≠ true := fun hvalid => hpasses
              ⟨complete_of_stageLoop hloop, by rwa [← stages_eq_of_stageLoop hloop]⟩
            dsimp only
            rw [if_neg hvalid]

theorem linkFound_of_passes (hpasses : Passes find e p.shaderIds) :
    linkFound find e p h = linkStages find e (stagesOf find p.shaderIds .none)
      { p with uniforms := ((stageUniforms find e p.shaderIds).foldl (addUniform e.grant)
        (p.uniforms, h)).1 }
      ((stageUniforms find e p.shaderIds).foldl (addUniform e.grant) (p.uniforms, h)).2 := by
  obtain ⟨st, b, hloop⟩ := exists_stageLoop_iff.mpr hpasses.1
  have hst := stages_eq_of_stageLoop hloop
  have hids : p.shaderIds ≠ [] := by
    intro hnil
    have hvalid := hpasses.2
    rw [hnil] at hvalid
    cases hvalid
  rw [← stageLoop_snd .none, hloop, ← hst]
  exact ShaderManager.linkFound_of_valid hloop hids (hst ▸ hpasses.2)

/-- What does not depend on the offset, the packing leaves as it is. -/
theorem map_packBlocks {β : Type} {f : Block ShaderUniform → β}
    (hf : ∀ b offset, f { b with value := { b.value with offset } } = f b)
    (us : List (Block ShaderUniform)) (as : List ShaderAttribute) :
    (packBlocks us (allocateResources (us.map Block.value) as)).map f = us.map f := by
  have hplaced : ∀ placed : List PlacedUniform,
      placed.map PlacedUniform.uniform = us.map Block.value →
      (us.zipWith (fun b u => { b with value := u })
        (placed.map fun p => { p.uniform with offset := p.offset })).map f = us.map f := by
    induction us with
    | nil => exact fun _ _ => rfl
    | cons b us ih =>
        intro placed hplaced
        cases placed with
        | nil => cases hplaced
        | cons q placed =>
            obtain ⟨hhead, htail⟩ := List.cons.inj hplaced
            rw [List.map_cons, List.zipWith_cons_cons, List.map_cons, List.map_cons,
              ih placed htail, hhead, hf]
  exact hplaced _ BufferPacking.map_uniform_addAll

theorem Merged.packBlocks {declared : List ShaderUniform} {us : List (Block ShaderUniform)}
    (hmerged : Merged declared us) (as : List ShaderAttribute) :
    Merged declared (packBlocks us (allocateResources (us.map Block.value) as)) := by
  have hlength : (VMQemuVGA.packBlocks us (allocateResources (us.map Block.value) as)).length =
      us.length := by
    have hunits := congrArg List.length (map_packBlocks (f := fun _ => ()) (fun _ _ => rfl) us as)
    rwa [List.length_map, List.length_map] at hunits
  refine ⟨?_, ?_, ?_⟩
  · rw [uniformNames, map_packBlocks (fun _ _ => rfl)]
    exact hmerged.distinct
  · rw [map_packBlocks (fun _ _ => rfl), hlength]
    exact hmerged.locations
  · intro b hb
    have hkept := map_packBlocks (f := fun c => (c.value.name, c.value.type, c.value.size,
      c.value.arraySize)) (fun _ _ => rfl) us as
    have hmem := List.mem_map_of_mem (f := fun c : Block ShaderUniform =>
      (c.value.name, c.value.type, c.value.size, c.value.arraySize)) hb
    rw [hkept] at hmem
    obtain ⟨c, hc, heq⟩ := List.mem_map.mp hmem
    obtain ⟨u, hu, horigin⟩ := hmerged.origin c hc
    simp only [Prod.mk.injEq] at heq
    obtain ⟨hname, htype, hsize, harray⟩ := heq
    rw [← hname, ← htype, ← hsize, ← harray]
    exact ⟨u, hu, horigin⟩

/-- What a link collects is in blocks of its own. -/
theorem trace_linkStages :
    (linkStages find e st p h).2.2.trace =
      h.trace ++ (linkStages find e st p h).2.1.blocks.map .acquire := by
  obtain ⟨us, hus, htrace⟩ := grew_foldl (grew_mergeUniform e.grant)
    (declaredUniforms find p.shaderIds) ([], h)
  obtain ⟨as, has, htrace'⟩ := grew_foldl (fun b a => grew_put e.grant a b)
    (declaredAttributes find st.vertex) ([], (mergeUniforms find e p.shaderIds h).2)
  have hblocks : (linkStages find e st p h).2.1.blocks =
      us.map Block.address ++ as.map Block.address := by
    show (packBlocks _ _).map Block.address ++ _ = _
    rw [map_packBlocks (fun _ _ => rfl), mergeUniforms, hus]
    exact congrArg _ (congrArg _ has)
  rw [hblocks, List.map_append, ← List.append_assoc, ← htrace]
  exact htrace'

end link

/-! ## Runs of one program -/

/-- What a program holds, whatever the blocks are. -/
def ShaderProgram.lists (p : ShaderProgram) : List ShaderUniform × List ShaderAttribute :=
  (p.uniforms.map Block.value, p.attributes.map Block.value)

/-- A call for one program. -/
inductive ProgramCall where
  | link (e : LinkAnswers)
  | use (context : Nat) (number : Bool)

namespace ShaderManager

def programCall (id : Nat) (s : ShaderManager) : ProgramCall → ShaderManager
  | .link e => (s.linkProgram id e).2
  | .use context number => (s.useProgram context id number).2

/-- The call is a link that gets to collect. -/
def gathers (id : Nat) (s : ShaderManager) : ProgramCall → Bool
  | .link e =>
      match s.findProgram id with
      | none => false
      | some p =>
          match (stageLoop s.findShader e p.shaderIds .none (p.uniforms, s.heap)).1 with
          | .ok st => st.valid
          | .error _ => false
  | .use _ _ => false

/-- The lists that links have collected. -/
abbrev Collected : Type := List (List ShaderUniform × List ShaderAttribute)

def noteLists (id : Nat) (s : ShaderManager) (c : ProgramCall) (t : ShaderManager)
    (collected : Collected) : Collected :=
  if s.gathers id c then
    collected ++ [(t.findProgram id).elim ([], []) ShaderProgram.lists]
  else collected

/-- The calls come in any order, and what a link collects is noted. -/
def linking (s₀ : ShaderManager) (id : Nat) : Machine (ShaderManager × Collected) ProgramCall :=
  Machine.withHistory ⟨s₀, fun s c => some (s.programCall id c)⟩ [] (noteLists id)

/-- After a last `destroyProgram` every block has been freed once; all links have collected
the same; and the uniforms are those declared, one of each name, in the order of their
locations. -/
structure Gathered (s₀ : ShaderManager) (id : Nat) (ids : List Nat)
    (r : ShaderManager × Collected) : Prop where
  freed : ∀ zero, ∃ es, (r.1.destroyProgram id zero).2.heap.trace = s₀.heap.trace ++ es ∧
    Neutral es
  repeated : ∀ l ∈ r.2, ∀ l' ∈ r.2, l = l'
  merged : ∃ p, r.1.findProgram id = some p ∧
    Merged (declaredUniforms s₀.findShader ids) p.uniforms ∧
    (r.2 ≠ [] → ∀ u ∈ declaredUniforms s₀.findShader ids, u.name ∈ uniformNames p.uniforms)

/-- Moreover a linked program has only declarations that agree, and `setUniform` finds the
names. -/
structure ListsRight (s₀ : ShaderManager) (id : Nat) (ids : List Nat)
    (r : ShaderManager × Collected) : Prop extends Gathered s₀ id ids r where
  agree : (r.1.findProgram id).any ShaderProgram.isLinked = true →
    ∀ u ∈ declaredUniforms s₀.findShader ids, ∀ u' ∈ declaredUniforms s₀.findShader ids,
      u.name = u'.name → u.type = u'.type ∧ u.size = u'.size ∧ u.arraySize = u'.arraySize
  found : ∀ name, r.1.setUniform id name true = some .success ↔
    ∃ p, r.1.findProgram id = some p ∧ name ∈ uniformNames p.uniforms

/-- The link has no memory for what the stage loop adds. If it gets past the stage checks,
the program holds no block, every declared name is given one, and it is the first such link
or none of its attributes is given a block. -/
structure Orderly (s : ShaderManager) (e : LinkAnswers) (p : ShaderProgram)
    (collected : Collected) : Prop where
  stages : ∀ i < (stageUniforms s.findShader e p.shaderIds).length,
    e.grant (s.heap.requests + i) = false
  empty : Passes s.findShader e p.shaderIds → p.blocks = []
  provided : Passes s.findShader e p.shaderIds →
    Provided e.grant (s.heap.requests + (stageUniforms s.findShader e p.shaderIds).length) []
      (declaredUniforms s.findShader p.shaderIds)
  attributes : Passes s.findShader e p.shaderIds → collected = [] ∨
    ∀ i < (declaredAttributes s.findShader
        (stagesOf s.findShader p.shaderIds .none).vertex).length,
      e.grant (s.heap.requests + (stageUniforms s.findShader e p.shaderIds).length + i) = false

/-- Every link is orderly. -/
def OrderlyCall (id : Nat) (r : ShaderManager × Collected) : ProgramCall → Prop
  | .link e => ∀ p, r.1.findProgram id = some p → Orderly r.1 e p r.2
  | .use _ _ => True

/-! ## What a run keeps -/

/-- What holds of the program of a run. -/
structure Keeps (s₀ : ShaderManager) (id : Nat) (ids : List Nat)
    (r : ShaderManager × Collected) (p : ShaderProgram) : Prop where
  shaders : r.1.shaders = s₀.shaders
  found : r.1.findProgram id = some p
  shaderIds : p.shaderIds = ids
  trace : r.1.heap.trace = s₀.heap.trace ++ p.blocks.map .acquire
  merged : Merged (declaredUniforms s₀.findShader ids) p.uniforms
  complete : r.2 ≠ [] → ∀ u ∈ declaredUniforms s₀.findShader ids, u.name ∈ uniformNames p.uniforms
  lists : ∀ l ∈ r.2, l = p.lists
  fresh : r.2 = [] → p.uniforms = [] ∧ p.isLinked = false

section run
variable {s s₀ : ShaderManager} {id : Nat} {ids : List Nat} {e : LinkAnswers} {p : ShaderProgram}
  {r : ShaderManager × Collected}

theorem gathers_iff (hp : s.findProgram id = some p) :
    s.gathers id (.link e) = true ↔ Passes s.findShader e p.shaderIds := by
  unfold gathers
  rw [hp]
  dsimp only
  cases hloop : stageLoop s.findShader e p.shaderIds .none (p.uniforms, s.heap) with
  | mk result b =>
      cases result with
      | error ret =>
          refine iff_of_false nofun fun hpasses => ?_
          obtain ⟨st, b', hok⟩ := exists_stageLoop_iff.mpr hpasses.1
          rw [hloop] at hok
          cases hok
      | ok st =>
          rw [Passes, ← stages_eq_of_stageLoop hloop]
          exact (and_iff_right (complete_of_stageLoop hloop)).symm

/-- Without memory the stage loop changes only the number of requests. -/
theorem Orderly.foldl_eq {collected : Collected} (h : Orderly s e p collected) :
    (stageUniforms s.findShader e p.shaderIds).foldl (addUniform e.grant) (p.uniforms, s.heap) =
      (p.uniforms, ⟨s.heap.requests + (stageUniforms s.findShader e p.shaderIds).length,
        s.heap.trace⟩) :=
  foldl_refused (fun _ _ hgrant => addUniform_refused hgrant) _ _ h.stages

/-- What a link makes of the program it finds. -/
theorem linkProgram_spec (hp : s.findProgram id = some p) :
    (s.linkProgram id e).2.shaders = s.shaders ∧
      (s.linkProgram id e).2.findProgram id = some (linkFound s.findShader e p s.heap).2.1 ∧
      (s.linkProgram id e).2.heap = (linkFound s.findShader e p s.heap).2.2 := by
  rw [linkProgram, hp]
  refine ⟨rfl, findProgram_modify hp ?_ _, rfl⟩
  rw [id_linkFound]
  have hid := List.find?_some (p := fun x : ShaderProgram => decide (x.id = id)) hp
  exact of_decide_eq_true hid

theorem useProgram_spec (id : Nat) (context : Nat) (number : Bool) :
    (s.useProgram context id number).2.shaders = s.shaders ∧
      (s.useProgram context id number).2.programs = s.programs ∧
      (s.useProgram context id number).2.heap = s.heap := by
  unfold useProgram
  split
  · exact ⟨rfl, rfl, rfl⟩
  · split
    · exact ⟨rfl, rfl, rfl⟩
    · split
      · exact ⟨rfl, rfl, rfl⟩
      · split <;> exact ⟨rfl, rfl, rfl⟩

/-- A use of the program keeps everything. -/
theorem Keeps.use (h : Keeps s₀ id ids r p) (context : Nat) (number : Bool) :
    Keeps s₀ id ids ((r.1.useProgram context id number).2, r.2) p := by
  obtain ⟨hshaders, hprograms, hheap⟩ := r.1.useProgram_spec id context number
  refine ⟨hshaders.trans h.shaders, ?_, h.shaderIds, ?_, h.merged, h.complete, h.lists, h.fresh⟩
  · have hfound := h.found
    rw [findProgram] at hfound ⊢
    rwa [hprograms]
  · dsimp only
    rw [hheap]
    exact h.trace

/-- A link that does not get past the stage checks changes nothing the program has. -/
theorem Keeps.link_of_not_passes (h : Keeps s₀ id ids r p) (horderly : Orderly r.1 e p r.2)
    (hpasses : ¬ Passes r.1.findShader e p.shaderIds) :
    Keeps s₀ id ids ((r.1.linkProgram id e).2, r.2) p := by
  obtain ⟨hshaders, hfound, hheap⟩ := linkProgram_spec (e := e) h.found
  rw [linkFound_of_not_passes hpasses, horderly.foldl_eq] at hfound hheap
  refine ⟨hshaders.trans h.shaders, hfound, h.shaderIds, ?_, h.merged, h.complete, h.lists,
    h.fresh⟩
  dsimp only
  rw [hheap]
  exact h.trace

/-- Without declared uniforms and memory for attributes a link collects nothing. -/
theorem lists_linkStages_of_refused {find : Nat → Option CompiledShader} {st : Stages}
    {h : BlockHeap} (hdeclared : declaredUniforms find p.shaderIds = [])
    (hgrant : ∀ i < (declaredAttributes find st.vertex).length,
      e.grant (h.requests + i) = false) :
    (linkStages find e st p h).2.1.lists = ([], []) := by
  have hus : mergeUniforms find e p.shaderIds h = ([], h) := by
    rw [mergeUniforms, hdeclared]
    rfl
  have has : (copyAttributes find e st.vertex h).1 = [] := by
    rw [copyAttributes, foldl_refused (f := addAttribute e.grant)
      (fun b a hrefused => put_refused hrefused a b.1) _ _ hgrant]
  unfold linkStages ShaderProgram.lists
  dsimp only
  rw [hus, has]
  rfl

/-- **A link that collects**, where the program holds no block. -/
theorem Keeps.link_of_passes (h : Keeps s₀ id ids r p) (horderly : Orderly r.1 e p r.2)
    (hpasses : Passes r.1.findShader e p.shaderIds) :
    ∃ p', Keeps s₀ id ids ((r.1.linkProgram id e).2, r.2 ++ [p'.lists]) p' := by
  obtain ⟨hshaders, hfound, hheap⟩ := linkProgram_spec (e := e) h.found
  rw [linkFound_of_passes hpasses, horderly.foldl_eq] at hfound hheap
  have hfind : r.1.findShader = s₀.findShader := by
    unfold findShader
    rw [h.shaders]
  have hempty := horderly.empty hpasses
  have hprovided := horderly.provided hpasses
  have hattributes := horderly.attributes hpasses
  generalize hheap₁ : (⟨r.1.heap.requests + (stageUniforms r.1.findShader e p.shaderIds).length,
    r.1.heap.trace⟩ : BlockHeap) = heap₁ at hfound hheap
  have hrequests : heap₁.requests =
      r.1.heap.requests + (stageUniforms r.1.findShader e p.shaderIds).length := by rw [← hheap₁]
  have htrace : heap₁.trace = s₀.heap.trace := by
    rw [← hheap₁]
    show r.1.heap.trace = _
    rw [h.trace, hempty]
    exact List.append_nil _
  rw [← hrequests] at hprovided hattributes
  rw [hfind, h.shaderIds] at hprovided hattributes hfound hheap
  refine ⟨_, hshaders.trans h.shaders, hfound, rfl, ?_, ?_, fun _ => ?_, ?_, ?_⟩
  · dsimp only
    rw [hheap, ← htrace]
    exact trace_linkStages
  · refine Merged.packBlocks ?_ _
    exact merged_foldl (fun _ hu => hu) (merged_nil _)
  · intro u hu
    show u.name ∈ uniformNames (VMQemuVGA.packBlocks _ _)
    rw [uniformNames, map_packBlocks (fun _ _ => rfl)]
    exact mem_uniformNames_foldl hprovided (.inr ⟨u, hu, rfl⟩)
  · intro l hl
    rcases List.mem_append.mp hl with hl | hl
    · have hne : r.2 ≠ [] := List.ne_nil_of_mem hl
      obtain ⟨hfirst, hsecond⟩ := List.append_eq_nil_iff.mp hempty
      have huniforms : p.uniforms = [] := List.map_eq_nil_iff.mp hfirst
      have hattribs : p.attributes = [] := List.map_eq_nil_iff.mp hsecond
      have hdeclared : declaredUniforms s₀.findShader ids = [] := by
        refine List.eq_nil_iff_forall_not_mem.mpr fun u hu => ?_
        have hname := h.complete hne u hu
        rw [huniforms] at hname
        cases hname
      rw [lists_linkStages_of_refused hdeclared (hattributes.resolve_left hne), h.lists l hl,
        ShaderProgram.lists, huniforms, hattribs]
      rfl
    · exact List.mem_singleton.mp hl
  · intro hnil
    exact absurd hnil (List.append_ne_nil_of_right_ne_nil _ (List.cons_ne_nil _ _))

/-- An orderly call keeps what holds of the program. -/
theorem keeps_step {r' : ShaderManager × Collected} {c : ProgramCall}
    (h : ∃ p, Keeps s₀ id ids r p) (hC : OrderlyCall id r c)
    (hstep : (linking s₀ id).step r c = some r') : ∃ p, Keeps s₀ id ids r' p := by
  obtain ⟨p, h⟩ := h
  cases hstep
  cases c with
  | use context number => exact ⟨p, h.use context number⟩
  | link e =>
      have horderly := hC p h.found
      show ∃ p', Keeps s₀ id ids ((r.1.linkProgram id e).2, noteLists id r.1 (.link e) _ r.2) p'
      by_cases hpasses : Passes r.1.findShader e p.shaderIds
      · obtain ⟨p', h'⟩ := h.link_of_passes horderly hpasses
        refine ⟨p', ?_⟩
        rw [noteLists, if_pos ((gathers_iff h.found).mpr hpasses)]
        show Keeps s₀ id ids (_, r.2 ++ [((r.1.linkProgram id e).2.findProgram id).elim _ _]) p'
        rw [h'.found]
        exact h'
      · refine ⟨p, ?_⟩
        rw [noteLists, if_neg fun hgathers => hpasses ((gathers_iff h.found).mp hgathers)]
        exact h.link_of_not_passes horderly hpasses

/-! ## What follows for the lists -/

theorem Keeps.gathered (h : Keeps s₀ id ids r p) : Gathered s₀ id ids r := by
  refine ⟨fun zero => ⟨_, ?_, Ledger.neutral_acquires_releases p.blocks⟩, ?_,
    p, h.found, h.merged, h.complete⟩
  · rw [destroyProgram, h.found]
    show r.1.heap.trace ++ p.blocks.map .release = _
    rw [h.trace, List.append_assoc]
  · intro l hl l' hl'
    rw [h.lists l hl, h.lists l' hl']

/-- `setUniform` is never successful. -/
theorem setUniform_ne_success (s : ShaderManager) (id : Nat) (name : List UInt8) (given : Bool) :
    s.setUniform id name given ≠ some .success := by
  unfold setUniform
  split
  · exact nofun
  · split
    · exact nofun
    · split
      · exact nofun
      · split
        · exact nofun
        · exact nofun

theorem Keeps.right_iff (h : Keeps s₀ id ids r p) :
    ListsRight s₀ id ids r ↔ r.2 = [] ∨ declaredUniforms s₀.findShader ids = [] := by
  constructor
  · intro hright
    by_cases hcollected : r.2 = []
    · exact .inl hcollected
    · refine .inr (List.eq_nil_iff_forall_not_mem.mpr fun u hu => ?_)
      exact r.1.setUniform_ne_success id u.name true
        ((hright.found u.name).mpr ⟨p, h.found, h.complete hcollected u hu⟩)
  · intro hnone
    have huniforms : p.uniforms = [] := by
      rcases hnone with hcollected | hdeclared
      · exact (h.fresh hcollected).1
      · refine List.eq_nil_iff_forall_not_mem.mpr fun b hb => ?_
        obtain ⟨u, hu, -⟩ := h.merged.origin b hb
        rw [hdeclared] at hu
        cases hu
    refine ⟨h.gathered, ?_, fun name => iff_of_false (r.1.setUniform_ne_success id name true) ?_⟩
    · intro hlinked u hu
      rcases hnone with hcollected | hdeclared
      · rw [h.found] at hlinked
        exact absurd hlinked (by rw [Option.any_some, (h.fresh hcollected).2]; exact nofun)
      · rw [hdeclared] at hu
        cases hu
    · rintro ⟨q, hq, hname⟩
      rw [h.found] at hq
      cases hq
      rw [huniforms] at hname
      cases hname

/-- **Lists of uniforms over all runs.** As long as every link is orderly, the blocks, the
lists and the names are what they should be; and `setUniform` and the declarations are
exactly as long as no link has collected a declared uniform. -/
theorem listsRight_iff (s₀ : ShaderManager) (id : Nat) (ids : List Nat)
    (hfound : s₀.findProgram id = some ⟨id, ids, false, [], []⟩) (cs : List ProgramCall)
    (hC : (linking s₀ id).Along (OrderlyCall id) (linking s₀ id).init cs) :
    (linking s₀ id).Always (fun r => Gathered s₀ id ids r ∧
      (ListsRight s₀ id ids r ↔ r.2 = [] ∨ declaredUniforms s₀.findShader ids = []))
      (linking s₀ id).init cs := by
  have hinit : ∃ p, Keeps s₀ id ids (s₀, []) p :=
    ⟨_, rfl, hfound, rfl, (List.append_nil _).symm, merged_nil _, fun h => absurd rfl h, nofun,
      fun _ => ⟨rfl, rfl⟩⟩
  refine ((linking s₀ id).always_of_along (fun r c r' h hc hs => keeps_step h hc hs)
    hinit hC).imp _ ?_
  rintro r ⟨p, h⟩
  exact ⟨h.gathered, h.right_iff⟩

/-- A vertex shader with one uniform and a fragment shader, and a program of both. -/
def pairWithUniform : ShaderManager :=
  let shader := fun type us =>
    Call.compileShader (.ok ⟨0, type, .ofString "void main(){}", us, [], 0⟩) true
  let s₁ := (init.call (shader .vertex [⟨ascii "tint", 0x1406, 0, 4, 1, 0⟩])).2
  let s₂ := (s₁.call (shader .fragment [])).2
  (s₂.call (.createProgram [2, 3] .granting)).2

/-- The program is used and linked once. -/
theorem listsRight_iff_pair :
    pairWithUniform.findProgram 2 = some ⟨2, [2, 3], false, [], []⟩ ∧
      (linking pairWithUniform 2).Along (OrderlyCall 2) (linking pairWithUniform 2).init
        [.use 0 true, .link .granting] ∧
      (linking pairWithUniform 2).Always (fun r => Gathered pairWithUniform 2 [2, 3] r ∧
        (ListsRight pairWithUniform 2 [2, 3] r ↔
          r.2 = [] ∨ declaredUniforms pairWithUniform.findShader [2, 3] = []))
        (linking pairWithUniform 2).init [.use 0 true, .link .granting] := by
  have hfound : pairWithUniform.findProgram 2 = some ⟨2, [2, 3], false, [], []⟩ := by decide
  have hC : (linking pairWithUniform 2).Along (OrderlyCall 2) (linking pairWithUniform 2).init
      [.use 0 true, .link .granting] := by
    refine ⟨trivial, ?_, trivial⟩
    intro p hp
    cases hp
    exact ⟨nofun, fun _ => rfl, fun _ => provided_of_granted (fun _ => rfl) _ _ _,
      fun _ => .inl rfl⟩
  exact ⟨hfound, hC, listsRight_iff pairWithUniform 2 [2, 3] hfound _ hC⟩

/-- Linked twice, the program forgets the first block of its uniform. -/
theorem pair_lists_not_right :
    ¬ (linking pairWithUniform 2).Always (ListsRight pairWithUniform 2 [2, 3])
      (linking pairWithUniform 2).init [.link .granting, .link .granting] := by
  rintro ⟨-, -, hright⟩
  obtain ⟨es, hes, hneutral⟩ := hright.freed fun _ => true
  have htrace : es = [.acquire 0, .acquire 1, .release 1] := by
    rw [← List.nil_append es]
    exact hes.symm.trans (by decide)
  rw [htrace] at hneutral
  exact absurd (hneutral.settled 0) (by decide)

end run
end ShaderManager
end VMQemuVGA
