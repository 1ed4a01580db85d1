import VMQemuVGA.Lib.Layout
import VMQemuVGA.Shader.Bytecode
import Mathlib.Data.List.Pairwise

/-! # Where the uniforms of a shader are

The uniforms that a source declares get offsets one behind the other; a standard uniform has
an offset of its own, whatever there is already. So does a declared one that only the simple
parser has read. -/

namespace VMQemuVGA

/-! ## What is right -/

/-- Two ranges, each a start and a length, do not meet. -/
def Separate (p q : Nat × Nat) : Prop := p.1 + p.2 ≤ q.1 ∨ q.1 + q.2 ≤ p.1

/-- The bytes of a uniform, exactly. -/
def ShaderUniform.span (u : ShaderUniform) : Nat × Nat := (u.offset, u.bytes)

def StandardUniform.span (u : StandardUniform) : Nat × Nat := (u.offset, u.size)

/-- What the offset of a uniform of this size is to be a multiple of. -/
def sizeAlignment (size : Nat) : Nat := if 16 ≤ size then 16 else if 8 ≤ size then 8 else 4

structure UniformsRight (us : List ShaderUniform) : Prop where
  locations : (us.map ShaderUniform.location).Nodup
  names : (us.map ShaderUniform.name).Nodup
  separate : (us.map ShaderUniform.span).Pairwise Separate
  aligned : ∀ u ∈ us, sizeAlignment u.size ∣ u.offset

/-- The bytes of an entry, exactly. -/
def UniformEntry.bytes (e : UniformEntry) : Nat := e.size * e.arraySize

/-- All but the first are read by the state machine, and all but the last take less than
4 GiB. -/
structure Tidy (entries : List (UniformEntry × Bool)) : Prop where
  advanced : ∀ e ∈ entries.tail, e.2 = true
  total : Layout.total 16 (entries.dropLast.map fun e => e.1.bytes) < u32

/-- What is declared and the standard uniforms that are given have different names; what is
declared is tidy; `time` and `texture0` are not both given; and no standard uniform meets
what is declared, laid out one behind the other. -/
structure LayoutTolerated (entries : List (UniformEntry × Bool)) (given : List StandardUniform) :
    Prop where
  names : (entries.map (fun e => e.1.name) ++ given.map StandardUniform.name).Nodup
  tidy : Tidy entries
  time : ¬ (⟨ascii "time", 0x1406, 4, 0⟩ ∈ given ∧ ⟨ascii "texture0", 0x8B5E, 4, 0⟩ ∈ given)
  apart : ∀ p ∈ Layout.ranges 16 0 (entries.map fun e => e.1.bytes), ∀ u ∈ given,
    Separate p u.span

/-! ## Offsets -/

section offsets
variable {u : ShaderUniform} {us : List ShaderUniform} {n : Nat}

theorem dvd_alignedSize : 16 ∣ u.alignedSize := ⟨_, Nat.mul_comm _ _⟩

theorem alignedSize_of_lt (h : Layout.rounded 16 u.bytes < u32) :
    u.alignedSize = Layout.rounded 16 u.bytes := by
  have hle := Layout.le_rounded u.bytes (show 0 < 16 by decide)
  have hbytes : u.bytes + 15 < u32 := by
    have hround : (u.bytes + 15) / 16 * 16 < u32 := h
    rw [u32_eq] at hround ⊢
    omega
  rw [ShaderUniform.alignedSize, Nat.mod_eq_of_lt (Nat.lt_of_le_of_lt hle h),
    Nat.mod_eq_of_lt hbytes]
  rfl

/-- `total_offset` before it is aligned. -/
def totalOffset (n : Nat) (us : List ShaderUniform) : Nat :=
  us.foldl (fun n u => (n + u.alignedSize) % u32) n

theorem dvd_totalOffset (us : List ShaderUniform) (hdvd : 16 ∣ n) (hlt : n < u32) :
    16 ∣ totalOffset n us ∧ totalOffset n us < u32 := by
  induction us generalizing n with
  | nil => exact ⟨hdvd, hlt⟩
  | cons u us ih =>
      refine ih ?_ (Nat.mod_lt _ (by rw [u32_eq]; decide))
      rw [Nat.dvd_mod_iff (by rw [u32_eq]; decide)]
      exact Nat.dvd_add hdvd dvd_alignedSize

/-- Without a wrap-around it is the exact sum. -/
theorem totalOffset_of_lt (h : n + Layout.total 16 (us.map ShaderUniform.bytes) < u32) :
    totalOffset n us = n + Layout.total 16 (us.map ShaderUniform.bytes) := by
  induction us generalizing n with
  | nil => rfl
  | cons u us ih =>
      rw [List.map_cons, Layout.total_cons] at h ⊢
      have hfirst : (n + u.alignedSize) % u32 = n + Layout.rounded 16 u.bytes := by
        rw [alignedSize_of_lt (by omega)]
        exact Nat.mod_eq_of_lt (by omega)
      rw [totalOffset, List.foldl_cons, hfirst, ← Nat.add_assoc]
      exact ih (by omega)

/-- The alignment changes nothing: the sum is a multiple of 16 already. -/
theorem calculateUniformOffset_eq (us : List ShaderUniform) (size : Nat) :
    calculateUniformOffset us size = totalOffset 0 us := by
  obtain ⟨⟨k, hk⟩, hlt⟩ := dvd_totalOffset us (Nat.dvd_zero 16)
    (by rw [u32_eq]; decide)
  show (if 16 ≤ size then (totalOffset 0 us + 15) % u32 / 16 * 16
    else if 8 ≤ size then (totalOffset 0 us + 7) % u32 / 8 * 8
    else (totalOffset 0 us + 3) % u32 / 4 * 4) = totalOffset 0 us
  rw [hk, u32_eq] at hlt ⊢
  split
  · omega
  · split <;> omega

end offsets

/-! ## What is declared -/

section declared
variable {entries : List (UniformEntry × Bool)} {e : UniformEntry × Bool}
  {existing : List ShaderUniform}

theorem recordAll_concat :
    recordAll existing (entries ++ [e]) =
      recordAll existing entries ++ [e.1.record (recordAll existing entries) e.2] :=
  List.foldl_append

theorem map_recordAll {β : Type} {f : ShaderUniform → β} {g : UniformEntry × Bool → β}
    (h : ∀ (e : UniformEntry × Bool) us, f (e.1.record us e.2) = g e) :
    (recordAll [] entries).map f = entries.map g := by
  induction entries using List.reverseRecOn with
  | nil => rfl
  | append_singleton entries e ih =>
      rw [recordAll_concat, List.map_append, List.map_append, ih]
      exact congrArg (fun b => entries.map g ++ [b]) (h e _)

theorem map_bytes_recordAll :
    (recordAll [] entries).map ShaderUniform.bytes = entries.map fun e => e.1.bytes :=
  map_recordAll fun _ _ => rfl

/-- An offset is a multiple of 16, in any case. -/
theorem dvd_offset_record (us : List ShaderUniform) :
    16 ∣ (e.1.record us e.2).offset ∧ (e.1.record us e.2).offset < u32 := by
  have hzero : 16 ∣ 0 ∧ 0 < u32 := ⟨Nat.dvd_zero 16, by rw [u32_eq]; decide⟩
  show 16 ∣ (if e.2 then calculateUniformOffset us e.1.size else 0) ∧
    (if e.2 then calculateUniformOffset us e.1.size else 0) < u32
  split
  · rw [calculateUniformOffset_eq]
    exact dvd_totalOffset _ hzero.1 hzero.2
  · exact hzero

theorem tidy_nil : Tidy [] := ⟨nofun, by rw [u32_eq]; decide⟩

/-- One more uniform has to be read by the state machine, and to start below 4 GiB. -/
theorem tidy_concat (hne : entries ≠ []) :
    Tidy (entries ++ [e]) ↔
      Tidy entries ∧ e.2 = true ∧ Layout.total 16 (entries.map fun e => e.1.bytes) < u32 := by
  have htail : (entries ++ [e]).tail = entries.tail ++ [e] := List.tail_append_of_ne_nil hne
  have hlast : (entries ++ [e]).dropLast = entries := List.dropLast_concat
  constructor
  · rintro ⟨hadvanced, htotal⟩
    rw [htail] at hadvanced
    rw [hlast] at htotal
    refine ⟨⟨fun e' he' => hadvanced e' (List.mem_append_left _ he'), ?_⟩,
      hadvanced e (List.mem_append_right _ (List.mem_singleton.mpr rfl)), htotal⟩
    refine Nat.lt_of_le_of_lt ?_ htotal
    rw [← List.dropLast_append_getLast hne, List.map_append, Layout.total_append,
      List.dropLast_concat]
    exact Nat.le_add_right _ _
  · rintro ⟨⟨hadvanced, -⟩, he, htotal⟩
    refine ⟨fun e' he' => ?_, by rwa [hlast]⟩
    rw [htail] at he'
    rcases List.mem_append.mp he' with he' | he'
    · exact hadvanced e' he'
    · rw [List.mem_singleton.mp he']
      exact he

theorem tidy_singleton : Tidy [e] := ⟨nofun, tidy_nil.total⟩

/-- What is tidy is laid out one behind the other. -/
theorem spans_of_tidy (h : Tidy entries) :
    (recordAll [] entries).map ShaderUniform.span =
      Layout.ranges 16 0 (entries.map fun e => e.1.bytes) := by
  induction entries using List.reverseRecOn with
  | nil => rfl
  | append_singleton entries e ih =>
      rw [recordAll_concat, List.map_append, List.map_append, Layout.ranges_append, Nat.zero_add]
      by_cases hne : entries = []
      · subst hne
        show [((if e.2 then calculateUniformOffset [] e.1.size else 0), e.1.bytes)] =
          [(0, e.1.bytes)]
        rw [calculateUniformOffset_eq]
        split <;> rfl
      · obtain ⟨htidy, he, htotal⟩ := (tidy_concat hne).mp h
        rw [ih htidy]
        have hoffset : (e.1.record (recordAll [] entries) e.2).offset =
            Layout.total 16 (entries.map fun e => e.1.bytes) := by
          show (if e.2 then calculateUniformOffset (recordAll [] entries) e.1.size else 0) = _
          rw [if_pos he, calculateUniformOffset_eq, totalOffset_of_lt, map_bytes_recordAll,
            Nat.zero_add]
          rwa [map_bytes_recordAll, Nat.zero_add]
        show _ ++ [((e.1.record (recordAll [] entries) e.2).offset, e.1.bytes)] = _
        rw [hoffset]
        rfl

/-- **What is declared does not meet exactly if it is tidy.** -/
theorem separate_iff_tidy (hpos : ∀ e ∈ entries, 0 < e.1.bytes) :
    ((recordAll [] entries).map ShaderUniform.span).Pairwise Separate ↔ Tidy entries := by
  constructor
  · intro h
    induction entries using List.reverseRecOn with
    | nil => exact tidy_nil
    | append_singleton entries e ih =>
        by_cases hne : entries = []
        · subst hne
          exact tidy_singleton
        rw [recordAll_concat, List.map_append, List.pairwise_append] at h
        obtain ⟨hold, -, hnew⟩ := h
        have hpos' : ∀ e ∈ entries, 0 < e.1.bytes := fun e he => hpos e (List.mem_append_left _ he)
        have htidy := ih hpos' hold
        rw [tidy_concat hne]
        refine ⟨htidy, ?_⟩
        -- otherwise the new one begins inside what is laid out already
        by_contra hnot
        obtain ⟨hdvd, hlt⟩ := dvd_offset_record (e := e) (recordAll [] entries)
        have hinside : (e.1.record (recordAll [] entries) e.2).offset <
            Layout.total 16 (entries.map fun e => e.1.bytes) := by
          by_cases he : e.2 = true
          · have htotal : ¬ Layout.total 16 (entries.map fun e => e.1.bytes) < u32 :=
              fun htotal => hnot ⟨he, htotal⟩
            exact Nat.lt_of_lt_of_le hlt (Nat.le_of_not_lt htotal)
          · obtain ⟨e₀, es, rfl⟩ := List.exists_cons_of_ne_nil hne
            have hfirst := hpos' e₀ List.mem_cons_self
            have hround := Layout.le_rounded e₀.1.bytes (show 0 < 16 by decide)
            have hzero : (e.1.record (recordAll [] (e₀ :: es)) e.2).offset = 0 := if_neg he
            rw [hzero, List.map_cons, Layout.total_cons]
            omega
        obtain ⟨p, hp, hle, hbehind⟩ := Layout.exists_range (show 0 < 16 by decide)
          (Nat.dvd_zero 16) hdvd (Nat.zero_le _) (by rwa [Nat.zero_add]) (by
            intro n hn
            obtain ⟨e', he', rfl⟩ := List.mem_map.mp hn
            exact hpos' e' he')
        rw [← spans_of_tidy htidy] at hp
        have hseparate := hnew p hp _ (List.mem_singleton.mpr rfl)
        have hbytes := hpos e (List.mem_append_right _ (List.mem_singleton.mpr rfl))
        have hspan : (e.1.record (recordAll [] entries) e.2).span =
          ((e.1.record (recordAll [] entries) e.2).offset, e.1.bytes) := rfl
        rw [hspan, Separate] at hseparate
        dsimp only at hseparate
        omega
  · intro h
    rw [spans_of_tidy h]
    exact (Layout.pairwise_ranges (by decide)).imp Or.inl

end declared

/-! ## Sizes -/

theorem firstWithin_pos {table : List (String × Nat)} {default : Nat} (hdefault : 0 < default)
    (htable : ∀ t ∈ table, 0 < t.2) (l : List UInt8) : 0 < firstWithin table default l := by
  unfold firstWithin
  cases h : table.find? fun entry => contains entry.1 l with
  | none => exact hdefault
  | some t => exact htable t (List.mem_of_find?_eq_some h)

theorem simpleType_pos (l : List UInt8) : 0 < (simpleType l).2 := by
  unfold simpleType
  cases h : simpleTypes.find? fun entry => contains entry.1 l with
  | none => decide
  | some t =>
      have hall : ∀ t ∈ simpleTypes, 0 < t.2.2 := by decide
      exact hall t (List.mem_of_find?_eq_some h)

theorem arrayCount_pos (number : List UInt8) : 0 < arrayCount number := by
  unfold arrayCount
  split
  next => exact Nat.one_pos
  next h => exact Nat.pos_of_ne_zero h

theorem extractArraySize_pos (name : List UInt8) : 0 < extractArraySize name := by
  unfold extractArraySize
  split
  · exact Nat.one_pos
  · dsimp only
    split
    · exact Nat.one_pos
    · exact arrayCount_pos _

/-- Whatever a line gives takes some bytes. -/
theorem bytes_pos_of_lineEntry {line : List UInt8} {e : UniformEntry × Bool}
    (h : UniformReading.lineEntry line = some e) : 0 < e.1.bytes := by
  unfold UniformReading.lineEntry at h
  obtain ⟨text, -, h⟩ := Option.bind_eq_some_iff.mp h
  split at h
  next r _ =>
    cases h
    exact Nat.mul_pos (firstWithin_pos (by decide) (by decide) _) (extractArraySize_pos _)
  next =>
    obtain ⟨words, -, rfl⟩ := Option.map_eq_some_iff.mp h
    exact Nat.mul_pos (simpleType_pos _) Nat.one_pos

theorem bytes_pos_of_declared {a : MetadataAnswers} {n : Nat} {lines : List (List UInt8)} :
    ∀ e ∈ a.declared n lines, 0 < e.1.bytes := by
  intro e he
  obtain ⟨l, -, hl⟩ := List.mem_filterMap.mp he
  split at hl
  · exact bytes_pos_of_lineEntry hl
  · cases hl

/-! ## Standard uniforms -/

section standard
variable {given : List StandardUniform} {existing : List ShaderUniform} {kind : StandardKind}
  {samples : Nat}

theorem map_addStandard {β : Type} {f : ShaderUniform → β} {g : StandardUniform → β}
    (h : ∀ (u : StandardUniform) us, f (u.record us) = g u) :
    (addStandard existing given).map f = existing.map f ++ given.map g := by
  induction given generalizing existing with
  | nil => exact (List.append_nil _).symm
  | cons u given ih =>
      rw [addStandard, List.foldl_cons, ← addStandard, ih, List.map_append, List.append_assoc]
      exact congrArg (fun b => existing.map f ++ (b :: given.map g)) (h u existing)

theorem given_sublist (a : MetadataAnswers) (l : List StandardUniform) : (a.given l).Sublist l := by
  have h := (List.filter_sublist (p := fun u : StandardUniform × Nat => a.standard u.2)
    (l := l.zipIdx)).map Prod.fst
  rwa [List.zipIdx_map_fst] at h

theorem separate_textureSamplers :
    ((textureSamplers samples).map StandardUniform.span).Pairwise Separate := by
  rw [textureSamplers, List.map_map, List.pairwise_map]
  refine List.pairwise_lt_range.imp fun {i j} hij => .inl ?_
  show 4 * i + 4 ≤ 4 * j
  omega

/-- **Two standard uniforms meet only if they are `time` and `texture0`.** -/
theorem separate_standard_iff (hsub : given.Sublist (kind.uniforms samples)) :
    (given.map StandardUniform.span).Pairwise Separate ↔
      ¬ (⟨ascii "time", 0x1406, 4, 0⟩ ∈ given ∧ ⟨ascii "texture0", 0x8B5E, 4, 0⟩ ∈ given) := by
  cases kind with
  | other =>
      rw [List.sublist_nil.mp hsub]
      exact iff_of_true List.Pairwise.nil fun h => List.not_mem_nil h.1
  | vertex =>
      have hall : (standardVertexUniforms.map StandardUniform.span).Pairwise Separate := by
        unfold Separate
        decide
      have htime : ⟨ascii "time", 0x1406, 4, 0⟩ ∉ standardVertexUniforms := by decide
      exact iff_of_true (hall.sublist (hsub.map _)) fun h => htime (hsub.subset h.1)
  | fragment =>
      have hsub' : given.Sublist (⟨ascii "time", 0x1406, 4, 0⟩ :: textureSamplers samples) := hsub
      constructor
      · rintro h ⟨htime, htexture⟩
        rw [List.pairwise_map] at h
        have hsymm : Std.Symm fun u v : StandardUniform => Separate u.span v.span :=
          ⟨fun _ _ => Or.symm⟩
        have hmeet := h.forall htime htexture (by decide)
        exact absurd hmeet (by unfold Separate; decide)
      · intro hnot
        rcases List.sublist_cons_iff.mp hsub' with hrest | ⟨r, rfl, hrest⟩
        · exact separate_textureSamplers.sublist (hrest.map _)
        · rw [List.map_cons]
          refine List.Pairwise.cons ?_ (separate_textureSamplers.sublist (hrest.map _))
          intro q hq
          obtain ⟨u, hu, rfl⟩ := List.mem_map.mp hq
          obtain ⟨i, -, rfl⟩ := List.mem_map.mp (hrest.subset hu)
          -- the other samplers are behind the first
          have hi : i ≠ 0 := by
            rintro rfl
            exact hnot ⟨List.mem_cons_self, List.mem_cons_of_mem _ hu⟩
          refine .inl ?_
          show 0 + 4 ≤ 4 * i
          omega

theorem sizeAlignment_dvd (size : Nat) : sizeAlignment size ∣ 16 := by
  unfold sizeAlignment
  split
  · decide
  · split <;> decide

theorem aligned_standard : ∀ u ∈ kind.uniforms samples, sizeAlignment u.size ∣ u.offset := by
  cases kind with
  | other => exact nofun
  | vertex =>
      have hall : ∀ u ∈ standardVertexUniforms, sizeAlignment u.size ∣ u.offset := by decide
      exact hall
  | fragment =>
      intro u hu
      rcases List.mem_append.mp hu with hu | hu
      · rw [List.mem_singleton.mp hu]
        decide
      · obtain ⟨i, -, rfl⟩ := List.mem_map.mp hu
        exact ⟨i, rfl⟩

end standard

/-! ## All uniforms of a shader -/

/-- Each gets the number of those before it for a location. -/
theorem locations_foldl {β : Type} {f : β → List ShaderUniform → ShaderUniform}
    (hf : ∀ x us, (f x us).location = us.length) (xs : List β) (us : List ShaderUniform)
    (h : us.map ShaderUniform.location = List.range us.length) :
    ∃ n, (xs.foldl (fun us x => us ++ [f x us]) us).map ShaderUniform.location = List.range n := by
  induction xs generalizing us with
  | nil => exact ⟨_, h⟩
  | cons x xs ih =>
      refine ih (us ++ [f x us]) ?_
      rw [List.map_append, h, List.length_append, List.length_singleton, List.range_succ]
      exact congrArg (fun n => List.range us.length ++ [n]) (hf x us)

section whole
variable {entries : List (UniformEntry × Bool)} {given : List StandardUniform}
  {kind : StandardKind} {samples : Nat}

theorem locations_all : ((addStandard (recordAll [] entries) given).map
    ShaderUniform.location).Nodup := by
  have hlocations : (recordAll [] entries).map ShaderUniform.location =
      List.range (recordAll [] entries).length := by
    obtain ⟨n, hn⟩ := locations_foldl (f := fun (e : UniformEntry × Bool) us => e.1.record us e.2)
      (fun _ _ => rfl) entries [] rfl
    have hlength := congrArg List.length hn
    rw [List.length_map, List.length_range] at hlength
    exact hn.trans (congrArg List.range hlength.symm)
  obtain ⟨n, hn⟩ :=
    locations_foldl (f := StandardUniform.record) (fun _ _ => rfl) given _ hlocations
  rw [addStandard, hn]
  exact List.nodup_range

theorem aligned_all (hsub : given.Sublist (kind.uniforms samples)) :
    ∀ u ∈ addStandard (recordAll [] entries) given, sizeAlignment u.size ∣ u.offset := by
  intro u hu
  have hmem := List.mem_map_of_mem (f := fun u : ShaderUniform => (u.size, u.offset)) hu
  rw [map_addStandard (g := fun u => (u.size, u.offset)) fun _ _ => rfl] at hmem
  rcases List.mem_append.mp hmem with hold | hnew
  · obtain ⟨v, hv, heq⟩ := List.mem_map.mp hold
    obtain ⟨hsize, hoffset⟩ := Prod.mk.inj heq
    have hdvd : 16 ∣ v.offset := by
      clear hu hmem hold
      induction entries using List.reverseRecOn with
      | nil => cases hv
      | append_singleton entries e ih =>
          rw [recordAll_concat] at hv
          rcases List.mem_append.mp hv with hv | hv
          · exact ih hv
          · rw [List.mem_singleton.mp hv]
            exact (dvd_offset_record _).1
    rw [← hoffset]
    exact (sizeAlignment_dvd _).trans hdvd
  · obtain ⟨v, hv, heq⟩ := List.mem_map.mp hnew
    obtain ⟨hsize, hoffset⟩ := Prod.mk.inj heq
    rw [← hsize, ← hoffset]
    exact aligned_standard v (hsub.subset hv)

theorem uniformsRight_addStandard_iff (hpos : ∀ e ∈ entries, 0 < e.1.bytes)
    (hsub : given.Sublist (kind.uniforms samples)) :
    UniformsRight (addStandard (recordAll [] entries) given) ↔ LayoutTolerated entries given := by
  have hnames : (addStandard (recordAll [] entries) given).map ShaderUniform.name =
      entries.map (fun e => e.1.name) ++ given.map StandardUniform.name := by
    rw [map_addStandard (g := StandardUniform.name) fun _ _ => rfl,
      map_recordAll (g := fun e => e.1.name) fun _ _ => rfl]
  have hspans : (addStandard (recordAll [] entries) given).map ShaderUniform.span =
      (recordAll [] entries).map ShaderUniform.span ++ given.map StandardUniform.span :=
    map_addStandard fun u us => Prod.ext rfl (Nat.mul_one u.size)
  constructor
  · intro h
    obtain ⟨hdeclared, hstandard, hcross⟩ := List.pairwise_append.mp (hspans ▸ h.separate)
    have htidy := (separate_iff_tidy hpos).mp hdeclared
    rw [spans_of_tidy htidy] at hcross
    exact ⟨hnames ▸ h.names, htidy, (separate_standard_iff hsub).mp hstandard,
      fun p hp u hu => hcross p hp u.span (List.mem_map_of_mem hu)⟩
  · intro h
    refine ⟨locations_all, by rw [hnames]; exact h.names, ?_, aligned_all hsub⟩
    rw [hspans, List.pairwise_append]
    refine ⟨(separate_iff_tidy hpos).mpr h.tidy, (separate_standard_iff hsub).mpr h.time, ?_⟩
    rw [spans_of_tidy h.tidy]
    intro p hp q hq
    obtain ⟨u, hu, rfl⟩ := List.mem_map.mp hq
    exact h.apart p hp u hu

/-- Where a standard uniform is at offset 0, nothing may be declared. -/
theorem eq_nil_of_tolerated (h : LayoutTolerated entries given)
    (hpos : ∀ e ∈ entries, 0 < e.1.bytes) {u : StandardUniform} (hu : u ∈ given)
    (hoffset : u.offset = 0) (hsize : 0 < u.size) : entries = [] := by
  cases entries with
  | nil => rfl
  | cons e entries =>
      have hfirst := hpos e List.mem_cons_self
      have hmeet := h.apart (0, e.1.bytes) List.mem_cons_self u hu
      rw [Separate, StandardUniform.span] at hmeet
      dsimp only at hmeet
      omega

/-- With memory for all, a vertex shader may declare no uniform. -/
theorem tolerated_vertex_iff (hpos : ∀ e ∈ entries, 0 < e.1.bytes) :
    LayoutTolerated entries standardVertexUniforms ↔ entries = [] := by
  constructor
  · intro h
    exact eq_nil_of_tolerated h hpos (u := ⟨ascii "mvpMatrix", 0x8B5C, 64, 0⟩) (by decide)
      rfl (by decide)
  · rintro rfl
    exact ⟨by decide, tidy_nil, by decide, nofun⟩

end whole

/-! ## Compiled shaders -/

/-- `compileShader` is successful, and these uniforms are recorded. -/
structure RecordsUniforms (language : ShaderLanguage) (src : ShaderSource) (a : CompileAnswers)
    (m : MetadataAnswers) (kind : StandardKind) (data : ShaderSource) (us : List ShaderUniform) :
    Prop where
  compiled : ∃ o events b, CompileShader language true src a o events ∧ o.ret = .success ∧
    o.bytecode = some b ∧ data = b.memory a.beyond
  mapped : m.mapped = a.mapped
  extracted : ExtractsMetadata m kind language.read data us

/-- **The uniforms of a shader are right exactly if** the bytecode is not mapped, or what
it declares is tidy and keeps clear of the standard uniforms. -/
theorem recordsUniforms_right_iff {language : ShaderLanguage} {src : ShaderSource}
    {a : CompileAnswers} {m : MetadataAnswers} {kind : StandardKind} {data : ShaderSource}
    {us : List ShaderUniform} (h : RecordsUniforms language src a m kind data us) :
    UniformsRight us ↔ (a.mapped = true →
      LayoutTolerated (m.declared 0 (language.read.lines data))
        (m.given (kind.uniforms (language.read.samples data)))) := by
  rw [← h.mapped]
  cases h.extracted with
  | unmapped hmapped =>
      rw [hmapped]
      exact iff_of_true ⟨List.nodup_nil, List.nodup_nil, List.Pairwise.nil, nofun⟩ nofun
  | mapped hmapped hlines =>
      obtain ⟨-, rfl⟩ := extractsLines_iff.mp hlines
      rw [forall_prop_of_true hmapped]
      exact uniformsRight_addStandard_iff bytes_pos_of_declared (given_sublist m _)

/-- The bytecode of a GLSL source, as far as the work buffer holds it. -/
def glslBytecode (s : String) : ShaderSource :=
  (Bytecode.ofSource (.ofString s)
    (cString ((ShaderSource.ofString s).text.take 32767)).length).memory fun _ => 0

/-- A source without uniforms is left with the standard ones. -/
theorem recordsUniforms_of_text {s : String} (kind : StandardKind) (hne : (ascii s).length ≠ 0)
    (hlines : BytecodeLanguage.lines (glslBytecode s) .text = []) :
    RecordsUniforms .glsl (.ofString s) .granting .granting kind (glslBytecode s)
      (addStandard [] (MetadataAnswers.granting.given
        (kind.uniforms (BytecodeLanguage.samples (glslBytecode s) .text)))) := by
  refine ⟨⟨_, _, _, compileShader_of_lines _ hne .glsl hlines, rfl, rfl, rfl⟩, rfl,
    .mapped rfl ?_⟩
  rw [ShaderLanguage.read, hlines]
  exact .nil

/-- A vertex shader without declarations. -/
theorem recordsUniforms_right_vertex :
    ∃ us, RecordsUniforms .glsl (.ofString "void main(){}") .granting .granting .vertex
        (glslBytecode "void main(){}") us ∧ UniformsRight us := by
  have hlines : BytecodeLanguage.lines (glslBytecode "void main(){}") .text = [] := by
    decide
  have h := recordsUniforms_of_text .vertex (by decide) hlines
  refine ⟨_, h, (recordsUniforms_right_iff h).mpr fun _ => ?_⟩
  rw [ShaderLanguage.read, hlines]
  exact (tolerated_vertex_iff fun _ he => absurd he List.not_mem_nil).mpr rfl

/-- A fragment shader that samples a texture: the sampler and the time share their bytes. -/
theorem sampling_not_right :
    ∃ us, RecordsUniforms .glsl (.ofString "c=texture(t,v);") .granting .granting .fragment
        (glslBytecode "c=texture(t,v);") us ∧ ¬ UniformsRight us := by
  have hlines : BytecodeLanguage.lines (glslBytecode "c=texture(t,v);") .text = [] := by
    decide
  have h := recordsUniforms_of_text .fragment (by decide) hlines
  refine ⟨_, h, fun hright => ?_⟩
  have htolerated := (uniformsRight_addStandard_iff
    (fun (e : UniformEntry × Bool) (he : e ∈ []) => absurd he List.not_mem_nil)
    (given_sublist .granting _)).mp hright
  exact htolerated.time (by decide)

end VMQemuVGA
