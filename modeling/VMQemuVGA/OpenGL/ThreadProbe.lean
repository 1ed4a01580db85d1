import VMQemuVGA.OpenGL.AcceleratorProbes

/-! # The test with several command buffers

The one stage of the validation that does not keep the books: it gives every
descriptor back twice when all goes well, and leaves buffers behind when a descriptor is
refused. -/

namespace VMQemuVGA
namespace GLProbe

open Session (ask tell forEach wp Keeps)

attribute [local simp] see book Call.entry Call.takes Call.creates Call.wideDescriptor
  Resource.lasting wp_ask Session.wp_tell

/-- The array of pointers. -/
def arrayBlock (array : Nat) : Resource := .block array (numThreads * 8)

/-- The command buffers. -/
def bufferBlocks (buffers : List Nat) : List Resource := buffers.map (.block · 128)

/-- The command buffers that have a descriptor, with it. -/
def describedBlocks (described : List (Nat × Nat)) : List Resource :=
  described.flatMap fun p => [.descriptor p.2, .block p.1 128]

@[simp] theorem bufferBlocks_nil : bufferBlocks [] = [] := rfl

@[simp] theorem bufferBlocks_cons (buffer : Nat) (buffers : List Nat) :
    bufferBlocks (buffer :: buffers) = .block buffer 128 :: bufferBlocks buffers := rfl

@[simp] theorem describedBlocks_nil : describedBlocks [] = [] := rfl

@[simp] theorem describedBlocks_cons (p : Nat × Nat) (described : List (Nat × Nat)) :
    describedBlocks (p :: described) =
      .descriptor p.2 :: .block p.1 128 :: describedBlocks described := rfl

theorem wp_allocateCommandBuffers {watch : Bool} (s : Tally) (array left : Nat)
    (buffers : List Nat) :
    wp (see watch) (allocateCommandBuffers array left buffers)
      (fun allocated t => match allocated with
        | none => t = s
        | some all => all.length = buffers.length + left ∧
            t = (s.acquire (arrayBlock array)).acquires (bufferBlocks all))
      ((s.acquire (arrayBlock array)).acquires (bufferBlocks buffers)) := by
  induction left generalizing buffers with
  | zero => exact ⟨rfl, rfl⟩
  | succ left ih =>
      refine wp_ask_andThen (fun ret => ?_) (fun buffer => ?_)
      · -- what was allocated so far is freed, and the array
        refine Session.wp_bind.mpr (wp_forEach_release (.block · 128) (fun _ _ => by simp) ?_)
        have hfree := Ledger.releases_acquires (s.acquire (arrayBlock array)) (bufferBlocks buffers)
        simp only [see, book, Call.entry, Call.takes, Call.creates, Call.wideDescriptor]
        rw [bufferBlocks] at hfree
        rw [bufferBlocks, hfree]
        simp [arrayBlock]
      · have hmore : (((s.acquire (arrayBlock array)).acquires (bufferBlocks buffers)).acquire
            (.block buffer 128)) = (s.acquire (arrayBlock array)).acquires
              (bufferBlocks (buffers ++ [buffer])) := by
          rw [bufferBlocks, bufferBlocks, List.map_append, Ledger.acquires_append]
          rfl
        refine (hmore ▸ ih (buffers ++ [buffer])).mono fun allocated t ht => ?_
        cases allocated with
        | none => exact ht
        | some all =>
            refine ⟨?_, ht.2⟩
            rw [ht.1, List.length_append, List.length_singleton]
            omega

/-- The buffers that have a descriptor are freed with it. -/
theorem wp_forEach_described {watch : Bool} {described : List (Nat × Nat)} {s t : Tally}
    {post : Unit → Tally → Prop} (hs : s = t.acquires (describedBlocks described))
    (h : post () t) :
    wp (see watch) (forEach described fun (buffer, descriptor) => do
      tell (.release descriptor)
      tell (.ioFree buffer 128)) post s := by
  rw [hs]
  clear hs
  induction described with
  | nil => exact h
  | cons p described ih =>
      simp [forEach]
      exact ih

theorem wp_describeBuffers (s : Tally) (array : Nat) (buffers : List Nat)
    (described : List (Nat × Nat)) :
    wp (see true) (describeBuffers array buffers described)
      (fun result t => match result with
        | none => ∃ granted left, granted + 1 + List.length left = buffers.length ∧
            t = (s.notes (List.replicate granted true ++ [false])).acquires (bufferBlocks left)
        | some all => all.length = described.length + buffers.length ∧
            t = ((s.notes (List.replicate buffers.length true)).acquire (arrayBlock array)).acquires
              (describedBlocks all))
      (((s.acquire (arrayBlock array)).acquires (bufferBlocks buffers)).acquires
        (describedBlocks described)) := by
  induction buffers generalizing s described with
  | nil => simp [describeBuffers]
  | cons buffer buffers ih =>
      refine wp_ask_andThen (fun ret => ?_) (fun descriptor => ?_)
      · have hstate : see true (((s.acquire (arrayBlock array)).acquires
              (bufferBlocks (buffer :: buffers))).acquires (describedBlocks described))
              (.withAddress buffer 128) (.error ret) =
            ((((s.note false).acquires (bufferBlocks buffers)).acquire (arrayBlock array)).acquire
              (.block buffer 128)).acquires (describedBlocks described) := by
          simp [Except.isOk, Except.toBool]
        refine Session.wp_bind.mpr (wp_forEach_described hstate ?_)
        simp [arrayBlock]
        exact ⟨0, buffers, by omega, rfl⟩
      · have hnext := ih (s.note true) (described ++ [(buffer, descriptor)])
        have hstate : see true (((s.acquire (arrayBlock array)).acquires
              (bufferBlocks (buffer :: buffers))).acquires (describedBlocks described))
              (.withAddress buffer 128) (.ok descriptor) =
            ((((s.note true).acquire (arrayBlock array)).acquires (bufferBlocks buffers)).acquires
              (describedBlocks (described ++ [(buffer, descriptor)]))) := by
          simp [Except.isOk, Except.toBool, describedBlocks, Ledger.acquires_append]
        rw [hstate]
        refine hnext.mono fun result t ht => ?_
        cases result with
        | none =>
            obtain ⟨granted, left, hlen, rfl⟩ := ht
            refine ⟨granted + 1, left, by simp; omega, ?_⟩
            rw [Ledger.notes_note]
            rfl
        | some all =>
            refine ⟨?_, ?_⟩
            · rw [ht.1]
              simp
              omega
            · rw [ht.2, Ledger.notes_note]
              rfl

theorem keeps_submitAll {watch : Bool} (context : Nat) (described : List (Nat × Nat))
    (overall : Verdict) : Keeps (see watch) (submitAll context described overall) := by
  induction described generalizing overall with
  | nil => exact Session.keeps_pure _
  | cons p described ih =>
      intro s
      simp [submitAll, ih (.error _) s, ih overall s]

/-- The descriptors, apart from the buffers. -/
def descriptorsOf (described : List (Nat × Nat)) : List Resource :=
  described.map fun p => .descriptor p.2

theorem describedBlocks_perm (described : List (Nat × Nat)) :
    (describedBlocks described).Perm
      (bufferBlocks (described.map Prod.fst) ++ descriptorsOf described) := by
  induction described with
  | nil => exact List.Perm.refl _
  | cons p described ih =>
      simp only [describedBlocks_cons, descriptorsOf, List.map_cons, bufferBlocks_cons,
        List.cons_append]
      refine (List.Perm.swap _ _ _).trans (List.Perm.cons _ ?_)
      exact (List.Perm.cons _ ih).trans List.perm_middle.symm

/-- Descriptors that are not there any more are released with the buffers. -/
theorem wp_forEach_again {watch : Bool} {described : List (Nat × Nat)} {s : Tally}
    (hs : ∀ id, .descriptor id ∉ s.held) {post : Unit → Tally → Prop}
    (h : post () (s.add ⟨0, (descriptorsOf described : Multiset Resource), []⟩)) :
    wp (see watch) (forEach described fun (buffer, descriptor) => do
      tell (.release descriptor)
      tell (.ioFree buffer 128)) post (s.acquires (bufferBlocks (described.map Prod.fst))) := by
  induction described generalizing s with
  | nil =>
      have hnone : s.add ⟨0, ((descriptorsOf [] : List Resource) : Multiset Resource), []⟩ = s :=
        Ledger.add_blank s
      rw [hnone] at h
      exact h
  | cons p described ih =>
      have hmem : .descriptor p.2 ∉ ((s.acquires (bufferBlocks (described.map Prod.fst))).acquire
          (.block p.1 128)).held := by
        rw [← Ledger.acquires_cons, Ledger.mem_acquires]
        simp [bufferBlocks, hs p.2]
      have hexcess : (s.add ⟨0, {.descriptor p.2}, []⟩).add
          ⟨0, (descriptorsOf described : Multiset Resource), []⟩ =
          s.add ⟨0, (descriptorsOf (p :: described) : Multiset Resource), []⟩ :=
        Ledger.add_excess_cons s _ _
      have hrest := @ih (s.add ⟨0, {.descriptor p.2}, []⟩) (by simpa [Ledger.add] using hs)
        (hexcess ▸ h)
      simp [forEach, Ledger.release_of_notMem hmem]
      exact hrest

/-- Of the descriptors of 128 bytes none was asked for, or of the four the last alone was
refused. -/
def WideSettled (answers : List Bool) : Prop :=
  answers = [] ∨ answers = [true, true, true, false]

instance (answers : List Bool) : Decidable (WideSettled answers) :=
  inferInstanceAs (Decidable (_ ∨ _))

/-- What is left behind or released too often goes on top of `s`, and by the remarks it
can be told whether that is anything. -/
def Residue (s t : Tally) : Prop :=
  ∃ d : Tally, t = s.add d ∧ (d.held = 0 ∧ d.excess = 0 ↔ WideSettled d.noted)

theorem Residue.refl (s : Tally) : Residue s s :=
  ⟨.blank, (Ledger.add_blank s).symm, iff_of_true ⟨rfl, rfl⟩ (Or.inl rfl)⟩

/-- A refused descriptor leaves the buffers that come after it. -/
theorem residue_of_refused (s : Tally) {granted : Nat} {left : List Nat}
    (h : granted + 1 + left.length = numThreads) :
    Residue s
      ((s.notes (List.replicate granted true ++ [false])).acquires (bufferBlocks left)) := by
  refine ⟨_, Ledger.notes_acquires _ _ _, ?_⟩
  have hnum : numThreads = 4 := rfl
  rw [hnum] at h
  cases left with
  | nil =>
      have hgranted : granted = 3 := by simpa using h
      rw [hgranted]
      exact iff_of_true ⟨rfl, rfl⟩ (Or.inr rfl)
  | cons buffer left =>
      refine iff_of_false (by simp) ?_
      rintro (hnone | hlast)
      · simp at hnone
      · have hlen := congrArg List.length hlast
        simp at hlen h
        omega

/-- With all descriptors there, each of them is released once too often. -/
theorem residue_of_granted (s : Tally) {described : List (Nat × Nat)}
    (h : described.length = numThreads) :
    Residue s ((s.notes (List.replicate numThreads true)).add
      ⟨0, (descriptorsOf described : Multiset Resource), []⟩) := by
  rw [Ledger.notes_eq_add, Ledger.add_assoc]
  refine ⟨_, rfl, iff_of_false ?_ ?_⟩
  · rintro ⟨-, hexcess⟩
    cases described with
    | nil => cases h
    | cons p described => simp [Ledger.add, descriptorsOf] at hexcess
  · simp [Ledger.add, WideSettled, numThreads, List.replicate]

theorem wp_testMultithreadedRenderingCapabilities (context surface : Nat) {s : Tally}
    (hs : ∀ id, .descriptor id ∉ s.held) :
    wp (see true) (testMultithreadedRenderingCapabilities context surface)
      (fun _ t => Residue s t) s := by
  refine wp_ask_andThen (fun ret => Residue.refl s) (fun array => ?_)
  refine (wp_allocateCommandBuffers s array numThreads []).andThen ?_
  intro allocated t ht
  cases allocated with
  | none =>
      rw [ht]
      exact Residue.refl s
  | some buffers =>
      obtain ⟨hlen, rfl⟩ := ht
      refine (wp_describeBuffers s array buffers []).andThen ?_
      intro result t ht
      cases result with
      | none =>
          obtain ⟨granted, left, hleft, rfl⟩ := ht
          refine residue_of_refused s ?_
          rw [hleft, hlen]
          exact Nat.zero_add _
      | some described =>
          obtain ⟨hdescribed, rfl⟩ := ht
          simp only [List.length_nil, Nat.zero_add] at hlen hdescribed
          rw [hlen] at hdescribed ⊢
          rw [Ledger.acquires_perm _ (describedBlocks_perm described), Ledger.acquires_append]
          refine (keeps_submitAll context described _).andThen fun overall => ?_
          refine (Keeps.forEach (fun i t => ?_) _).andThen fun _ => ?_
          · simp
          refine Session.wp_bind.mpr
            (wp_forEach_release (fun p => .descriptor p.2) (fun p t => by simp) ?_)
          -- once is right
          have hfree := Ledger.releases_acquires
            (((s.notes (List.replicate numThreads true)).acquire (arrayBlock array)).acquires
              (bufferBlocks (described.map Prod.fst))) (descriptorsOf described)
          rw [descriptorsOf] at hfree ⊢
          rw [hfree]
          -- twice is not
          refine Session.wp_bind.mpr (wp_forEach_again (fun id => ?_) ?_)
          · simp [Ledger.acquire, Ledger.notes, arrayBlock, hs id]
          · simp [arrayBlock]
            exact residue_of_granted s hdescribed

/-! ## The validation as a whole -/

theorem wp_validateAdvanced3DGeometryCapabilities (d : Devices) (context surface : Nat) {s : Tally}
    (hs : ∀ id, .descriptor id ∉ s.held) :
    wp (see true) (validateAdvanced3DGeometryCapabilities d context surface)
      (fun _ t => Residue s t) s := by
  unfold validateAdvanced3DGeometryCapabilities
  refine Session.wp_ite.mpr ?_
  split
  · exact Residue.refl s
  · refine (keeps_testMultiplePrimitiveTypes context).andThen fun _ => ?_
    refine (keeps_testAdvancedVertexBufferOperations context).andThen fun _ => ?_
    refine (keeps_testInstancedRenderingCapabilities context surface).andThen fun _ => ?_
    refine (keeps_testTransformFeedbackCapabilities context).andThen fun _ => ?_
    refine (wp_testMultithreadedRenderingCapabilities context surface hs).andThen fun _ t ht => ?_
    exact (keeps_performGeometryPerformanceBenchmark context surface).andThen fun _ => ht

theorem wp_validateGeometryProcessingCapabilities (d : Devices) {s : Tally}
    (hs : ∀ id, .descriptor id ∉ s.held) :
    wp (see true) (validateGeometryProcessingCapabilities d) (fun _ t => Residue s t) s := by
  refine wp_ask_andThen (fun ret => Residue.refl s) (fun context => ?_)
  refine wp_ask_andThen (fun ret => ?_) (fun surface => ?_)
  · simp [Residue.refl s]
  · have hmore : ∀ id, .descriptor id ∉
        ((s.acquire (.context context)).acquire (.surface context surface)).held := by
      intro id
      simp [Ledger.acquire, hs id]
    refine (wp_validateAdvanced3DGeometryCapabilities d context surface hmore).andThen ?_
    rintro _ t ⟨extra, rfl, hextra⟩
    -- whatever was left behind, the rest gives back what it has created
    simp
    exact ⟨extra, rfl, hextra⟩

theorem keeps_inOrder {watch : Bool} {stages : List (Probe Verdict)}
    (h : ∀ stage ∈ stages, Keeps (see watch) stage) : Keeps (see watch) (inOrder stages) := by
  induction stages with
  | nil => exact Session.keeps_pure _
  | cons stage stages ih =>
      refine (h stage List.mem_cons_self).bind fun verdict => ?_
      cases verdict with
      | error ret => exact Session.keeps_pure _
      | ok _ => exact ih fun stage hstage => h stage (List.mem_cons_of_mem _ hstage)

theorem wp_validateAccelerator3DCapabilities (d : Devices) {s : Tally}
    (hs : ∀ id, .descriptor id ∉ s.held) :
    wp (see true) (validateAccelerator3DCapabilities d) (fun _ t => Residue s t) s := by
  have hstages : wp (see true) (inOrder [validate3DRenderingCapabilities,
      validateGeometryProcessingCapabilities d, validateFragmentProcessingCapabilities,
      validateTextureCapabilities, validateFramebufferCapabilities, validateShaderCapabilities])
      (fun _ t => Residue s t) s := by
    refine keeps_validate3DRenderingCapabilities.andThen fun verdict => ?_
    cases verdict with
    | error ret => exact Residue.refl s
    | ok _ =>
        refine (wp_validateGeometryProcessingCapabilities d hs).andThen fun verdict t ht => ?_
        cases verdict with
        | error ret => exact ht
        | ok _ =>
            refine (keeps_inOrder fun stage hstage => ?_).wp fun _ => ht
            simp only [List.mem_cons, List.not_mem_nil, or_false] at hstage
            rcases hstage with rfl | rfl | rfl | rfl
            · exact keeps_validateFragmentProcessingCapabilities
            · exact keeps_validateTextureCapabilities
            · exact keeps_validateFramebufferCapabilities
            · exact keeps_validateShaderCapabilities
  unfold validateAccelerator3DCapabilities
  cases d.gpu with
  | false => exact Residue.refl s
  | true =>
      cases d.accelerator with
      | false => simp [holds, Residue.refl s]
      | true => simpa [holds, Residue.refl s] using hstages

/-- The validation is neutral if no texture and no program was handed out to it, and of
the four descriptors of the test with several command buffers, if it asked for them, all
but the last. -/
theorem validateAccelerator3DCapabilities_neutral_iff (d : Devices) (answers : Nat → Answer) :
    ResourceNeutral (validateAccelerator3DCapabilities d) answers ↔
      LastingRefused ((validateAccelerator3DCapabilities d).run answers).1 ∧
      WideSettled (wideDescriptors ((validateAccelerator3DCapabilities d).run answers).1) := by
  have hblank (id : Nat) : .descriptor id ∉ (Ledger.blank : Tally).held :=
    Multiset.notMem_zero _
  obtain ⟨extra, hextra, hiff⟩ := (wp_validateAccelerator3DCapabilities d hblank).run answers
  have hnoted := noted_foldl_see ((validateAccelerator3DCapabilities d).run answers).1 .blank
  rw [hextra, Ledger.blank_add] at hnoted
  rw [ResourceNeutral, neutral_entries_iff true, hextra, Ledger.blank_add, hiff, hnoted]
  rfl

end GLProbe
end VMQemuVGA
