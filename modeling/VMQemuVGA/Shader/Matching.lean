import VMQemuVGA.Shader.Interfaces
import Mathlib.Data.List.Nodup

/-! # What the two interface checks find

Phase 5A never finds a match for the first input it guesses. The symbol resolution compares
the outputs with their own copy, so that only outputs of the same hash can get in each
other's way. -/

namespace VMQemuVGA

/-! ## Phase 5A -/

/-- There is an input, and no output has its name. -/
theorem exists_unmatched (src : ShaderSource) (beyond : Nat → InterfaceVariable) :
    ∃ f ∈ src.fragmentInputs beyond, ∀ v ∈ standardOutputs, f.name ≠ v.name := by
  unfold ShaderSource.fragmentInputs
  split
  · exact ⟨.blank, by decide, by decide⟩
  · refine ⟨fragmentInput beyond 0, List.mem_map.mpr ⟨0, List.mem_range.mpr ?_, rfl⟩, ?_⟩
    · split
      next hpos => exact hpos
      next => decide
    · have hfirst : fragmentInput beyond 0 = ⟨ascii "v_position", 0x8B52, 0, 4, 0⟩ := rfl
      rw [hfirst]
      decide

/-- **Phase 5A is never satisfied.** -/
theorem phase5A_eq_false (vertex fragment : ShaderSource) (beyond : Nat → InterfaceVariable) :
    phase5A vertex fragment beyond = false := by
  obtain ⟨f, hf, hnames⟩ := exists_unmatched fragment beyond
  refine Bool.eq_false_iff.mpr fun h => ?_
  simp only [phase5A, namesMatch, Bool.and_eq_true, decide_eq_true_eq, List.countP_eq_zero] at h
  refine h.2.1.2 f hf ?_
  rw [Bool.not_eq_true', List.any_eq_false]
  intro v hv
  rw [Bool.and_eq_true, decide_eq_true_eq]
  exact fun h => hnames v hv h.1

/-! ## Symbol resolution -/

variable {same : InterfaceVariable → InterfaceVariable → Bool} {v : InterfaceVariable}

theorem matchOutput_of_not {fs : List InterfaceVariable} {f : InterfaceVariable} {i : Nat}
    (h : same v f = false) : matchOutput same v (f :: fs) i = matchOutput same v fs (i + 1) := by
  rw [matchOutput]
  exact if_neg (by rw [h]; exact Bool.false_ne_true)

/-- Inputs of other names are passed over. -/
theorem matchOutput_append {as fs : List InterfaceVariable} {i : Nat}
    (h : ∀ f ∈ as, same v f = false) :
    matchOutput same v (as ++ fs) i = matchOutput same v fs (i + as.length) := by
  induction as generalizing i with
  | nil => rfl
  | cons a as ih =>
      rw [List.cons_append, matchOutput_of_not (h a List.mem_cons_self),
        ih fun f hf => h f (List.mem_cons_of_mem a hf), List.length_cons]
      congr 1
      omega

/-- An output matches a copy of itself. -/
theorem matchOutput_self {fs : List InterfaceVariable} {i : Nat} (h : same v v = true) :
    matchOutput same v (v :: fs) i = ⟨0, 0, some i⟩ := by
  rw [matchOutput, if_pos h, if_pos rfl, if_pos rfl]

/-- Without a mismatch the first input of the name is the one. -/
theorem input_of_clean {fs : List InterfaceVariable} {f : InterfaceVariable} {i : Nat}
    (h : same v f = true) (htypes : (matchOutput same v (f :: fs) i).types = 0)
    (hlocations : (matchOutput same v (f :: fs) i).locations = 0) :
    (matchOutput same v (f :: fs) i).input = some i := by
  rw [matchOutput, if_pos h] at htypes hlocations ⊢
  by_cases htype : v.type = f.type
  · rw [if_pos htype] at hlocations ⊢
    by_cases hlocation : v.location = f.location
    · rw [if_pos hlocation]
    · rw [if_neg hlocation] at hlocations
      cases hlocations
  · rw [if_neg htype] at htypes
    cases htypes

/-- What is matched is of the same name. -/
theorem same_of_input {fs : List InterfaceVariable} {i k : Nat}
    (h : (matchOutput same v fs i).input = some k) :
    ∃ n f, k = i + n ∧ fs[n]? = some f ∧ same v f = true := by
  induction fs generalizing i with
  | nil => cases h
  | cons f fs ih =>
      have hlater (hrest : (matchOutput same v fs (i + 1)).input = some k) :
          ∃ n g, k = i + n ∧ (f :: fs)[n]? = some g ∧ same v g = true := by
        obtain ⟨n, g, hk, hg, hsame⟩ := ih hrest
        exact ⟨n + 1, g, by omega, hg, hsame⟩
      cases hsame : same v f with
      | false =>
          rw [matchOutput_of_not hsame] at h
          exact hlater h
      | true =>
          rw [matchOutput, if_pos hsame] at h
          by_cases htype : v.type = f.type
          · rw [if_pos htype] at h
            by_cases hlocation : v.location = f.location
            · rw [if_pos hlocation] at h
              exact ⟨0, f, (Option.some.inj h).symm, rfl, hsame⟩
            · rw [if_neg hlocation] at h
              exact hlater h
          · rw [if_neg htype] at h
            exact hlater h

/-- Among inputs of one name no later one is matched. -/
theorem input_ne_of_clean (same : InterfaceVariable → InterfaceVariable → Bool)
    {v : InterfaceVariable} {as fs : List InterfaceVariable} {f : InterfaceVariable} {i : Nat}
    (hf : f ∈ as) (hsame : same v f = true)
    (htypes : (matchOutput same v (as ++ fs) i).types = 0)
    (hlocations : (matchOutput same v (as ++ fs) i).locations = 0) :
    (matchOutput same v (as ++ fs) i).input ≠ some (i + as.length) := by
  induction as generalizing i with
  | nil => cases hf
  | cons a as ih =>
      cases ha : same v a with
      | true =>
          rw [List.cons_append] at htypes hlocations ⊢
          rw [input_of_clean ha htypes hlocations, List.length_cons]
          intro heq
          have hi := Option.some.inj heq
          omega
      | false =>
          rw [List.cons_append, matchOutput_of_not ha] at htypes hlocations ⊢
          have hmem : f ∈ as := by
            rcases List.mem_cons.mp hf with rfl | hmem
            · rw [hsame] at ha
              cases ha
            · exact hmem
          have hne := ih hmem htypes hlocations
          rw [List.length_cons]
          intro heq
          refine hne (heq.trans ?_)
          congr 1
          omega

/-- The hashes of the outputs tell them apart. -/
def Distinguished (outputs : List InterfaceVariable) : Prop :=
  (outputs.map InterfaceVariable.hash).Nodup

/-- In a list of different hashes each output matches its own copy. -/
theorem matchOutput_of_nodup {as fs : List InterfaceVariable} {v : InterfaceVariable}
    (h : Distinguished (as ++ v :: fs)) :
    matchOutput (fun v f => decide (v.hash = f.hash)) v (as ++ v :: fs) 0 =
      ⟨0, 0, some as.length⟩ := by
  rw [Distinguished, List.map_append, List.map_cons, List.nodup_append] at h
  rw [matchOutput_append, matchOutput_self (decide_eq_true rfl), Nat.zero_add]
  intro f hf
  refine decide_eq_false fun heq => ?_
  exact h.2.2 f.hash (List.mem_map_of_mem hf) v.hash List.mem_cons_self heq.symm

/-- **The symbol resolution is satisfied exactly if no two outputs share a hash.** -/
theorem symbolsMatch_self_iff (outputs : List InterfaceVariable) :
    symbolsMatch outputs outputs = true ↔ Distinguished outputs := by
  simp only [symbolsMatch, Bool.and_eq_true, decide_eq_true_eq, List.all_eq_true,
    List.any_eq_true, List.mem_range]
  constructor
  · rintro ⟨⟨⟨htypes, hlocations⟩, hsatisfied⟩, -⟩
    rw [Distinguished, List.nodup_iff_pairwise_ne, List.pairwise_map, List.pairwise_iff_getElem]
    -- the copy of the later one of two outputs has nobody to satisfy it
    intro i j hi hj hij heq
    obtain ⟨v, hv, hinput⟩ := hsatisfied j hj
    obtain ⟨n, f, hn, hf, hsame⟩ := same_of_input hinput
    rw [Nat.zero_add] at hn
    subst hn
    rw [List.getElem?_eq_getElem hj] at hf
    cases hf
    have htypes' := htypes v hv
    have hlocations' := hlocations v hv
    have hlength : (outputs.take j).length = j := by
      rw [List.length_take, Nat.min_eq_left (Nat.le_of_lt hj)]
    have hearlier : outputs[i] ∈ outputs.take j := by
      rw [List.mem_take_iff_getElem]
      exact ⟨i, by omega, rfl⟩
    rw [← List.take_append_drop j outputs] at htypes' hlocations' hinput
    have hsame' : decide (v.hash = outputs[i].hash) = true :=
      decide_eq_true ((of_decide_eq_true hsame).trans heq.symm)
    refine input_ne_of_clean (fun v f => decide (v.hash = f.hash)) hearlier hsame'
      htypes' hlocations' (hinput.trans ?_)
    rw [hlength, Nat.zero_add]
  · intro h
    have hmatch (i : Nat) (hi : i < outputs.length) :
        matchOutput (fun v f => decide (v.hash = f.hash)) outputs[i] outputs 0 =
          ⟨0, 0, some i⟩ := by
      have hsplit : outputs = outputs.take i ++ outputs[i] :: outputs.drop (i + 1) := by
        rw [← List.drop_eq_getElem_cons hi, List.take_append_drop]
      have hself : Distinguished (outputs.take i ++ outputs[i] :: outputs.drop (i + 1)) :=
        hsplit ▸ h
      have hfound := matchOutput_of_nodup hself
      rw [← hsplit, List.length_take, Nat.min_eq_left (Nat.le_of_lt hi)] at hfound
      exact hfound
    have hclean (v : InterfaceVariable) (hv : v ∈ outputs) :
        ∃ i, matchOutput (fun v f => decide (v.hash = f.hash)) v outputs 0 = ⟨0, 0, some i⟩ := by
      obtain ⟨i, hi, rfl⟩ := List.getElem_of_mem hv
      exact ⟨i, hmatch i hi⟩
    refine ⟨⟨⟨fun v hv => ?_, fun v hv => ?_⟩, fun i hi => ?_⟩, ?_⟩
    · obtain ⟨i, hi⟩ := hclean v hv
      rw [hi]
    · obtain ⟨i, hi⟩ := hclean v hv
      rw [hi]
    · exact ⟨outputs[i], List.getElem_mem hi, by rw [hmatch i hi]⟩
    · have hall : (outputs.countP fun v =>
          (matchOutput (fun v f => decide (v.hash = f.hash)) v outputs 0).input.isSome) =
            outputs.length := by
        rw [List.countP_eq_length]
        intro v hv
        obtain ⟨i, hi⟩ := hclean v hv
        rw [hi]
        rfl
      rw [hall]
      omega

/-- Without a copy there is nothing to be satisfied with. -/
theorem symbolsMatch_nil_iff (outputs : List InterfaceVariable) :
    symbolsMatch outputs [] = true ↔ outputs = [] := by
  cases outputs with
  | nil => exact iff_of_true (by decide) rfl
  | cons v vs =>
      refine iff_of_false (fun h => ?_) nofun
      have hnone : ∀ w, (matchOutput (fun v f => decide (v.hash = f.hash)) w [] 0).input.isSome =
        false := fun _ => rfl
      simp only [symbolsMatch, hnone, Bool.and_eq_true, decide_eq_true_eq] at h
      simp at h

end VMQemuVGA
