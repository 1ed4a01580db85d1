import VMQemuVGA.Lib.History
import VMQemuVGA.Shader.Manager

/-! # References to shaders

A shader is created with one reference. `createProgram` takes none for the shaders it
names, but `destroyProgram` drops one for each of them, and removes no shader of which it
was the last. Counts are right, then, as long as there is no program. -/

namespace VMQemuVGA
namespace ShaderManager

/-! ## What counts should be -/

/-- The ids of the shaders whose creator has not destroyed them, and of the programs. -/
structure ShaderNotes where
  held : List Nat
  created : List Nat
  deriving DecidableEq, Repr

def note (s : ShaderManager) (c : Call) (_ : ShaderManager) (h : ShaderNotes) : ShaderNotes :=
  match c with
  | .compileShader (.ok _) _ => { h with held := h.held ++ [inc32 s.nextShaderId] }
  | .destroyShader id =>
      if (s.findShader id).isSome then { h with held := h.held.erase id } else h
  | .createProgram ids a =>
      if (s.createProgram ids a).1 = .success then
        { h with created := h.created ++ [inc32 s.nextProgramId] }
      else h
  | .destroyProgram id _ =>
      if (s.findProgram id).isSome then { h with created := h.created.erase id } else h
  | _ => h

/-- A manager that notes who has created what. -/
def noted : Machine (ShaderManager × ShaderNotes) Call := machine.withHistory ⟨[], []⟩ note

/-- How often the live programs name a shader. -/
def occurrences (s : ShaderManager) (id : Nat) : Nat :=
  (s.programs.map fun p => p.shaderIds.count id).sum

/-- Counts are references, nobody's shader is missing, every program finds its shaders, the
contexts name live programs, and every shader can be got rid of. -/
structure Counted (s : ShaderManager) (h : ShaderNotes) : Prop where
  count : ∀ x ∈ s.shaders, x.refCount = (if x.id ∈ h.held then 1 else 0) + s.occurrences x.id
  live : ∀ x ∈ s.shaders, 0 < x.refCount
  kept : ∀ id, h.held.count id ≤ (s.shaders.map CompiledShader.id).count id
  linkable : ∀ id ∈ h.created, ∃ p, s.findProgram id = some p ∧ p.shaderIds ≠ [] ∧
    ∀ i ∈ p.shaderIds, (s.findShader i).isSome = true
  contexts : ∀ c ∈ s.contexts, c = 0 ∨ ∃ p ∈ s.programs, p.id = c
  freeable : ∀ x ∈ s.shaders, ∃ calls t, machine.run s calls = some t ∧
    ∀ y ∈ t.shaders, y.id ≠ x.id

/-- No program is created, and no shader compiled that there is no place for. -/
def Unshared (s : ShaderManager) : Call → Prop
  | .compileShader (.ok _) stored => stored = true
  | .createProgram ids a =>
      a.given = false ∨ ids = [] ∨ s.validateShaders ids ≠ .success ∨ a.record = false
  | _ => True

/-- A creation that is refused leaves everything as it is. -/
theorem createProgram_of_refused {s : ShaderManager} {ids : List Nat} {a : CreateAnswers}
    (h : a.given = false ∨ ids = [] ∨ s.validateShaders ids ≠ .success ∨ a.record = false) :
    (s.createProgram ids a).2 = s ∧ (s.createProgram ids a).1 ≠ .success := by
  unfold createProgram
  split
  next => exact ⟨rfl, nofun⟩
  next hargs =>
    split
    next hvalid => exact ⟨rfl, hvalid⟩
    next hvalid =>
      split
      next => exact ⟨rfl, nofun⟩
      next hrecord =>
        exfalso
        rcases h with h | h | h | h
        · exact hargs (.inl h)
        · exact hargs (.inr h)
        · exact hvalid h
        · exact hrecord h

/-- The ids of which there are numbers. -/
def keptIds (ids : List Nat) (a : CreateAnswers) : List Nat :=
  (ids.zipIdx.filter fun x => a.number x.2).map Prod.fst

theorem mem_of_mem_keptIds {ids : List Nat} {a : CreateAnswers} {id : Nat}
    (h : id ∈ keptIds ids a) : id ∈ ids := by
  obtain ⟨x, hx, rfl⟩ := List.mem_map.mp h
  obtain ⟨-, -, hget⟩ := List.mem_zipIdx (List.mem_of_mem_filter hx)
  rw [hget]
  exact List.getElem_mem _

theorem createProgram_of_taken {s : ShaderManager} {ids : List Nat} {a : CreateAnswers}
    (hgiven : a.given = true) (hids : ids ≠ []) (hvalid : s.validateShaders ids = .success)
    (hrecord : a.record = true) :
    s.createProgram ids a = (.success, { s with
      nextProgramId := inc32 s.nextProgramId
      programs := if a.stored then
        s.programs ++ [⟨inc32 s.nextProgramId, keptIds ids a, false, [], []⟩]
        else s.programs }) := by
  unfold createProgram
  rw [if_neg (by simp only [hgiven, hids, reduceCtorEq, or_self, not_false_eq_true]),
    if_neg (not_not.mpr hvalid), if_neg (by rw [hrecord]; exact Bool.noConfusion)]
  rfl

/-- Valid ids are ids of shaders. -/
theorem findShader_of_valid {s : ShaderManager} {ids : List Nat} {id : Nat}
    (h : s.validateShaders ids = .success) (hid : id ∈ ids) : ∃ x, s.findShader id = some x := by
  unfold validateShaders at h
  split at h
  next => cases h
  next hfound =>
    refine Option.isSome_iff_exists.mp ?_
    by_contra hnone
    rw [Bool.not_eq_true, Option.isSome_eq_false_iff] at hnone
    exact hfound (List.any_eq_true.mpr ⟨id, hid, hnone⟩)

/-! ## Without programs -/

/-- There has been no program. -/
structure Quiet (s : ShaderManager) (h : ShaderNotes) : Prop where
  programs : s.programs = []
  created : h.created = []
  single : ∀ x ∈ s.shaders, x.refCount = 1
  held : h.held = s.shaders.map CompiledShader.id
  contexts : ∀ c ∈ s.contexts, c = 0

theorem quiet_init : Quiet init ⟨[], []⟩ where
  programs := rfl
  created := rfl
  single := nofun
  held := rfl
  contexts := fun _ h => List.eq_of_mem_replicate h

theorem map_id_eraseP (shaders : List CompiledShader) (id : Nat) :
    (shaders.eraseP fun x => decide (x.id = id)).map CompiledShader.id =
      (shaders.map CompiledShader.id).erase id := by
  induction shaders with
  | nil => rfl
  | cons x xs ih =>
      by_cases hx : x.id = id
      · rw [List.eraseP_cons_of_pos (p := fun y : CompiledShader => decide (y.id = id))
          (decide_eq_true hx), List.map_cons, hx, List.erase_cons_head]
      · rw [List.eraseP_cons_of_neg (p := fun y : CompiledShader => decide (y.id = id))
          (by rwa [decide_eq_true_eq]), List.map_cons, ih, List.map_cons,
          List.erase_cons_tail (by rwa [beq_iff_eq])]

theorem mem_of_findShader {s : ShaderManager} {id : Nat} {x : CompiledShader}
    (h : s.findShader id = some x) : x ∈ s.shaders ∧ x.id = id :=
  ⟨List.mem_of_find?_eq_some h, of_decide_eq_true (List.find?_some (p := fun x : CompiledShader =>
    decide (x.id = id)) h)⟩

namespace Quiet
variable {s : ShaderManager} {h : ShaderNotes}

theorem findProgram (hq : Quiet s h) (id : Nat) : s.findProgram id = none := by
  rw [ShaderManager.findProgram, hq.programs]
  rfl

/-- The last reference goes with the creator's. -/
theorem destroyShader (hq : Quiet s h) {id : Nat} {x : CompiledShader}
    (hx : s.findShader id = some x) :
    (s.destroyShader id).2 =
      { s with shaders := s.shaders.eraseP fun x => decide (x.id = id) } := by
  have hone := hq.single x (mem_of_findShader hx).1
  unfold ShaderManager.destroyShader
  rw [hx]
  dsimp only
  rw [hone, if_pos (by decide)]

theorem erase (hq : Quiet s h) (id : Nat) :
    Quiet { s with shaders := s.shaders.eraseP fun x => decide (x.id = id) }
      { h with held := h.held.erase id } where
  programs := hq.programs
  created := hq.created
  single := fun x hx => hq.single x (List.mem_of_mem_eraseP hx)
  held := by
    rw [hq.held]
    exact (map_id_eraseP s.shaders id).symm
  contexts := hq.contexts

/-- Shaders of an id go one after the other. -/
theorem exists_run (hq : Quiet s h) (id : Nat) : ∃ calls t, machine.run s calls = some t ∧
    ∀ y ∈ t.shaders, y.id ≠ id := by
  induction hn : s.shaders.length using Nat.strongRecOn generalizing s h with
  | _ n ih =>
      cases hx : s.findShader id with
      | none =>
          refine ⟨[], s, rfl, fun y hy heq => ?_⟩
          have hnone := List.find?_eq_none.mp hx y hy
          exact hnone (decide_eq_true heq)
      | some x =>
          obtain ⟨hmem, hid⟩ := mem_of_findShader hx
          have hlength := List.length_eraseP_of_mem (p := fun x : CompiledShader =>
            decide (x.id = id)) hmem (decide_eq_true hid)
          have hpos := List.length_pos_of_mem hmem
          obtain ⟨calls, t, hrun, hfree⟩ := ih (s.shaders.length - 1) (by omega) (hq.erase id)
            hlength
          refine ⟨.destroyShader id :: calls, t, ?_, hfree⟩
          rw [machine.run_cons_some (t := (s.destroyShader id).2) rfl, hq.destroyShader hx]
          exact hrun

theorem counted (hq : Quiet s h) : Counted s h where
  count := by
    intro x hx
    have hheld : x.id ∈ h.held := by
      rw [hq.held]
      exact List.mem_map_of_mem hx
    rw [hq.single x hx, if_pos hheld, occurrences, hq.programs]
    rfl
  live := fun x hx => by
    rw [hq.single x hx]
    exact Nat.one_pos
  kept := fun id => by rw [hq.held]
  linkable := by
    rw [hq.created]
    exact nofun
  contexts := fun c hc => .inl (hq.contexts c hc)
  freeable := fun x _ => hq.exists_run x.id

/-- Nothing of this shares a shader. -/
theorem step (hq : Quiet s h) {c : Call} (hc : Unshared s c) :
    Quiet (s.call c).2 (note s c (s.call c).2 h) := by
  cases c with
  | compileShader result stored =>
      cases result with
      | error ret => exact hq
      | ok shader =>
          have hstored : stored = true := hc
          subst hstored
          exact {
            programs := hq.programs
            created := hq.created
            single := by
              intro x hx
              rcases List.mem_append.mp hx with hx | hx
              · exact hq.single x hx
              · rw [List.mem_singleton.mp hx]
            held := by
              change h.held ++ _ = (s.shaders ++ _).map CompiledShader.id
              rw [hq.held, List.map_append]
              rfl
            contexts := hq.contexts }
  | destroyShader id =>
      simp only [call, note]
      cases hx : s.findShader id with
      | none =>
          simp only [ShaderManager.destroyShader, hx]
          exact hq
      | some x =>
          rw [hq.destroyShader hx]
          exact hq.erase id
  | createProgram ids a =>
      have hret := createProgram_of_refused hc
      simp only [call, note, if_neg hret.2, hret.1]
      exact hq
  | linkProgram id e =>
      simp only [call, note, ShaderManager.linkProgram, hq.findProgram id]
      exact hq
  | useProgram context id number =>
      simp only [call, note, ShaderManager.useProgram, hq.findProgram id]
      split <;> exact hq
  | destroyProgram id zero =>
      simp only [call, note, ShaderManager.destroyProgram, hq.findProgram id]
      exact hq

/-- A program shares shaders whose counts do not know of it. -/
theorem not_counted_of_create (hq : Quiet s h) {ids : List Nat} {a : CreateAnswers}
    (hgiven : a.given = true) (hids : ids ≠ []) (hvalid : s.validateShaders ids = .success)
    (hrecord : a.record = true) :
    ¬ Counted (s.call (.createProgram ids a)).2
      (note s (.createProgram ids a) (s.call (.createProgram ids a)).2 h) := by
  have htaken := createProgram_of_taken hgiven hids hvalid hrecord
  simp only [call, note, htaken, if_true, hq.created, hq.programs, List.nil_append]
  intro hcounted
  obtain ⟨p, hp, hnonempty, hfound⟩ := hcounted.linkable _ (List.mem_singleton.mpr rfl)
  have hp' := List.mem_of_find?_eq_some hp
  by_cases hstored : a.stored = true
  · rw [if_pos hstored] at hp'
    obtain rfl := List.mem_singleton.mp hp'
    obtain ⟨i, hi⟩ := List.exists_mem_of_ne_nil _ hnonempty
    obtain ⟨x, hx⟩ := findShader_of_valid hvalid (mem_of_mem_keptIds hi)
    obtain ⟨hmem, hid⟩ := mem_of_findShader hx
    -- the shader has one reference, and both its creator and the program count
    have hcount := hcounted.count x hmem
    have hheld : x.id ∈ h.held := by
      rw [hq.held]
      exact List.mem_map_of_mem hmem
    have hpos : 0 < (keptIds ids a).count x.id := List.count_pos_iff.mpr (hid ▸ hi)
    simp only [occurrences, hstored, if_true, List.map_cons, List.map_nil, List.sum_cons,
      List.sum_nil, if_pos hheld, hq.single x hmem] at hcount
    omega
  · rw [if_neg hstored] at hp'
    cases hp'

theorem unshared (hq : Quiet s h) {c : Call}
    (hcounted : Counted (s.call c).2 (note s c (s.call c).2 h)) : Unshared s c := by
  cases c with
  | compileShader result stored =>
      cases result with
      | error ret => trivial
      | ok shader =>
          by_contra hstored
          have hlost : stored = false := Bool.eq_false_iff.mpr hstored
          subst hlost
          have hkept := hcounted.kept (inc32 s.nextShaderId)
          have hheld : (note s (.compileShader (.ok shader) false) s h).held =
              s.shaders.map CompiledShader.id ++ [inc32 s.nextShaderId] := by
            rw [← hq.held]
            rfl
          change (note s (.compileShader (.ok shader) false) s h).held.count _ ≤
            (s.shaders.map CompiledShader.id).count _ at hkept
          rw [hheld, List.count_append, List.count_singleton_self] at hkept
          omega
  | createProgram ids a =>
      by_contra hcreated
      simp only [Unshared, not_or, not_not, Bool.not_eq_false] at hcreated
      obtain ⟨hgiven, hids, hvalid, hrecord⟩ := hcreated
      exact hq.not_counted_of_create hgiven hids hvalid hrecord hcounted
  | destroyShader id => trivial
  | linkProgram id e => trivial
  | useProgram context id number => trivial
  | destroyProgram id zero => trivial

end Quiet
/-! ## Runs -/

/-- **Counts stay right in exactly the runs that create no program** (and in which every
compiled shader finds a place in the collection). -/
theorem counted_iff (calls : List Call) :
    noted.Always (fun p => Counted p.1 p.2) noted.init calls ↔
      machine.Along Unshared init calls := by
  rw [← machine.along_withHistory ⟨[], []⟩ note (init, ⟨[], []⟩)]
  refine noted.always_iff_along_within (Q := fun p => Quiet p.1 p.2)
    (fun _ hq => hq.counted) ?_ ?_ quiet_init
  · intro p c p' hq hstep hcounted
    obtain ⟨hcall, hnote⟩ := (machine.withHistory_step_eq_some _ _).mp hstep
    have hstate : p'.1 = (p.1.call c).2 := (Option.some.inj hcall).symm
    rw [hnote, hstate] at hcounted
    exact hq.unshared hcounted
  · intro p c p' hq hc hstep
    obtain ⟨hcall, hnote⟩ := (machine.withHistory_step_eq_some _ _).mp hstep
    have hstate : p'.1 = (p.1.call c).2 := (Option.some.inj hcall).symm
    rw [hnote, hstate]
    exact hq.step hc

/-- A shader of a type, with no bytecode to speak of. -/
def shaderOf (type : ShaderType) : CompiledShader :=
  ⟨0, type, .ofString "void main(){}", [], [], 0⟩

/-- A program of a vertex and a fragment shader is created and destroyed: the vertex shader
is left with no reference, and its creator's `destroyShader` makes `2 ^ 32 - 1` of that. -/
def sharedRun : List Call :=
  [.compileShader (.ok (shaderOf .vertex)) true, .compileShader (.ok (shaderOf .fragment)) true,
    .createProgram [2, 3] .granting, .destroyProgram 2 fun _ => true, .destroyShader 2]

theorem sharedRun_not_counted :
    (machine.run init sharedRun).map (fun s => s.shaders.map CompiledShader.refCount) =
        some [u32 - 1, 0] ∧
      ¬ noted.Always (fun p => Counted p.1 p.2) noted.init sharedRun := by
  refine ⟨by decide, fun h => ?_⟩
  obtain ⟨q, hq, hzero⟩ := Machine.Always.of_any noted
    (p := fun q : ShaderManager × ShaderNotes => q.1.shaders.any fun x => decide (x.refCount = 0))
    h (by decide)
  obtain ⟨x, hx, hcount⟩ := List.any_eq_true.mp hzero
  have hlive := hq.live x hx
  rw [of_decide_eq_true hcount] at hlive
  exact Nat.lt_irrefl 0 hlive

end ShaderManager
end VMQemuVGA
