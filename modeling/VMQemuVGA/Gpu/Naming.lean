import Mathlib.Logic.Relator
import VMQemuVGA.Gpu.Watch

/-! # What a command names

A host that turns a command away exactly when it names a context or a resource
that is not there. Such a host sees no more in an id than what it stands for, so
two hosts that hold the same things under other ids answer alike and stay alike. -/

namespace VMQemuVGA

/-! ## The host's answers -/

namespace Host

/-- Context 0 stands for none. -/
def knowsCtx (h : Host) (ctx : Nat) : Bool := ctx == 0 || decide (ctx ∈ h.contexts)

/-- Everything that the command names, other than what it creates, is there. -/
def knows (h : Host) : HostCmd → Bool
  | .resourceCreate2D .. | .ctxCreate _ => true
  | .resourceCreate3D ctx .. | .ctxDestroy ctx | .submit3D ctx _ => h.knowsCtx ctx
  | .ctxAttachResource ctx id | .ctxDetachResource ctx id
  | .transferToHost3D ctx id | .transferFromHost3D ctx id => h.knowsCtx ctx && h.hasResource id
  | .resourceUnref id | .resourceAttachBacking id _ | .resourceDetachBacking id
  | .transferToHost2D id | .resourceFlush id => h.hasResource id
  | .setScanout _ id _ _ => id == 0 || h.hasResource id

/-- The addresses the host has for a resource; `none` where there is no resource. -/
def view (h : Host) (id : Nat) : Option (Option (List MemEntry)) :=
  (h.resources.find? fun r => decide (r.id = id)).map fun r => r.backing.map ScatterList.entries

end Host

/-- `VIRTIO_GPU_RESP_ERR_INVALID_RESOURCE_ID`. -/
def respErrInvalidResourceId : Nat := 0x1203

/-- The same surroundings with a host that rejects only commands that name
something which is not there. -/
def Env.answeredBy (e : Env) (h : Host) : Env :=
  { e with
    ask := fun cmd => .reply (if h.knows cmd then respOkNodata else respErrInvalidResourceId) }

theorem ret_answeredBy (e : Env) (h : Host) (cmd : HostCmd) :
    ((e.answeredBy h).ask cmd).ret = if h.knows cmd then .success else .error := by
  show (Answer.reply (if h.knows cmd then _ else _)).ret = _
  split
  · rfl
  · rfl

/-! ## What an executed command changes -/

namespace Host
variable {h h' : Host} {cmd cmd' : HostCmd} {id n : Nat}

theorem hasResource_eq (h : Host) (id : Nat) : h.hasResource id = (h.view id).isSome := by
  rw [Bool.eq_iff_iff, hasResource_iff]
  unfold view
  rw [Option.isSome_map, List.find?_isSome]
  simp only [decide_eq_true_eq]

theorem view_addResource (h : Host) (id n : Nat) :
    (h.addResource id).view n = if n = id ∧ h.view id = none then some none else h.view n := by
  unfold addResource
  by_cases hhas : h.hasResource id = true
  · rw [if_pos hhas, if_neg]
    rintro ⟨-, hnone⟩
    rw [hasResource_eq, hnone] at hhas
    cases hhas
  · have hnone : h.view id = none := by
      rw [hasResource_eq] at hhas
      exact Option.not_isSome_iff_eq_none.mp hhas
    rw [if_neg hhas]
    show (List.find? _ (h.resources ++ [⟨id, none⟩])).map _ = _
    rw [List.find?_append]
    by_cases hn : n = id
    · subst hn
      rw [if_pos ⟨rfl, hnone⟩, Option.map_eq_none_iff.mp hnone]
      simp only [Option.none_or, List.find?_cons, decide_true, Option.map_some, Option.map_none]
    · rw [if_neg fun hc => hn hc.1, List.find?_cons_of_neg (by simpa using Ne.symm hn),
        List.find?_nil, Option.or_none]
      rfl

theorem view_setBacking (h : Host) (id n : Nat) (b : Option ScatterList) :
    (h.setBacking id b).view n =
      if n = id then (h.view n).map fun _ => b.map ScatterList.entries else h.view n := by
  unfold setBacking view
  have hid : ((fun r : HostResource => decide (r.id = n)) ∘
      fun r => if r.id = id then { r with backing := b } else r) = fun r => decide (r.id = n) := by
    funext r
    show decide ((if r.id = id then { r with backing := b } else r).id = n) = _
    split <;> rfl
  rw [List.find?_map, hid]
  cases hfind : h.resources.find? fun r => decide (r.id = n) with
  | none => simp only [Option.map_none, ite_self]
  | some r =>
      have hr : r.id = n := by simpa using List.find?_some hfind
      simp only [Option.map_some, hr]
      split
      · rfl
      · rfl

theorem view_unref (h : Host) (id n : Nat) :
    (h.exec (.resourceUnref id)).view n = if n = id then none else h.view n := by
  show (List.find? _ (h.resources.filter _)).map _ = _
  rw [List.find?_filter]
  by_cases hn : n = id
  · rw [if_pos hn]
    refine congrArg _ (List.find?_eq_none.mpr fun r _ hr => ?_)
    simp only [decide_eq_true_eq] at hr
    exact hr.1 (hr.2.trans hn)
  · rw [if_neg hn]
    unfold view
    congr 2
    funext r
    by_cases hr : r.id = n
    · simp only [hr, ne_eq, hn, not_false_eq_true, decide_true, and_self]
    · simp only [hr, decide_false, Bool.false_eq_true, and_false]

/-- The resources after a command. -/
theorem view_exec (h : Host) (cmd : HostCmd) (n : Nat) :
    (h.exec cmd).view n =
      match cmd with
      | .resourceCreate2D id .. | .resourceCreate3D _ id _ =>
          if n = id ∧ h.view id = none then some none else h.view n
      | .resourceUnref id => if n = id then none else h.view n
      | .resourceAttachBacking id list =>
          if n = id then (h.view n).map fun _ => some list.entries else h.view n
      | .resourceDetachBacking id => if n = id then (h.view n).map fun _ => none else h.view n
      | _ => h.view n := by
  cases cmd with
  | resourceCreate2D id format width height => exact view_addResource h id n
  | resourceCreate3D ctx id texture => exact view_addResource h id n
  | resourceUnref id => exact view_unref h id n
  | resourceAttachBacking id list => exact view_setBacking h id n (some list)
  | resourceDetachBacking id => exact view_setBacking h id n none
  | _ => rfl

/-- The contexts after a command. -/
theorem mem_contexts_exec_iff (h : Host) (cmd : HostCmd) (c : Nat) :
    c ∈ (h.exec cmd).contexts ↔
      match cmd with
      | .ctxCreate ctx => c = ctx ∨ c ∈ h.contexts
      | .ctxDestroy ctx => c ∈ h.contexts ∧ c ≠ ctx
      | _ => c ∈ h.contexts := by
  cases cmd with
  | ctxCreate ctx => exact List.mem_insert_iff
  | ctxDestroy ctx =>
      show c ∈ h.contexts.filter _ ↔ _
      rw [List.mem_filter, decide_eq_true_eq]
  | resourceCreate2D id format width height => rw [exec, contexts_addResource]
  | resourceCreate3D ctx id texture => rw [exec, contexts_addResource]
  | _ => exact Iff.rfl

end Host

/-! ## What a command works on -/

namespace HostCmd

/-- The context a command works on. Creating a resource is no work on a context. -/
def ctx? : HostCmd → Option Nat
  | .ctxCreate ctx | .ctxDestroy ctx | .submit3D ctx _ | .ctxAttachResource ctx _
  | .ctxDetachResource ctx _ | .transferToHost3D ctx _ | .transferFromHost3D ctx _ => some ctx
  | _ => none

/-- The resource a command works on. -/
def resource? : HostCmd → Option Nat
  | .resourceCreate2D id .. | .resourceCreate3D _ id _ | .resourceUnref id
  | .resourceAttachBacking id _ | .resourceDetachBacking id | .setScanout _ id _ _
  | .transferToHost2D id | .resourceFlush id | .ctxAttachResource _ id | .ctxDetachResource _ id
  | .transferToHost3D _ id | .transferFromHost3D _ id => some id
  | _ => none

/-- The same winsys command on the same things, under the numbers of two hosts. -/
inductive Alike (sc sr : Nat → Nat → Prop) : HostCmd → HostCmd → Prop
  | ctxCreate {c c'} (hc : sc c c') : Alike sc sr (.ctxCreate c) (.ctxCreate c')
  | ctxDestroy {c c'} (hc : sc c c') : Alike sc sr (.ctxDestroy c) (.ctxDestroy c')
  | resourceCreate3D {c c' n n' texture} (hc : sc c c') (hn : sr n n') :
      Alike sc sr (.resourceCreate3D c n texture) (.resourceCreate3D c' n' texture)
  | resourceUnref {n n'} (hn : sr n n') : Alike sc sr (.resourceUnref n) (.resourceUnref n')
  | resourceAttachBacking {n n' l l'} (hn : sr n n')
      (hl : ScatterList.entries l = ScatterList.entries l') :
      Alike sc sr (.resourceAttachBacking n l) (.resourceAttachBacking n' l')
  | resourceDetachBacking {n n'} (hn : sr n n') :
      Alike sc sr (.resourceDetachBacking n) (.resourceDetachBacking n')
  | ctxAttachResource {c c' n n'} (hc : sc c c') (hn : sr n n') :
      Alike sc sr (.ctxAttachResource c n) (.ctxAttachResource c' n')
  | transferToHost3D {c c' n n'} (hc : sc c c') (hn : sr n n') :
      Alike sc sr (.transferToHost3D c n) (.transferToHost3D c' n')
  | transferFromHost3D {c c' n n'} (hc : sc c c') (hn : sr n n') :
      Alike sc sr (.transferFromHost3D c n) (.transferFromHost3D c' n')
  | submit3D {c c' size} (hc : sc c c') : Alike sc sr (.submit3D c size) (.submit3D c' size)

theorem Alike.mono {sc sc' sr sr' : Nat → Nat → Prop} {cmd cmd' : HostCmd}
    (h : Alike sc sr cmd cmd') (hsc : ∀ c c', sc c c' → sc' c c')
    (hsr : ∀ n n', sr n n' → sr' n n') : Alike sc' sr' cmd cmd' := by
  cases h with
  | ctxCreate hc => exact .ctxCreate (hsc _ _ hc)
  | ctxDestroy hc => exact .ctxDestroy (hsc _ _ hc)
  | resourceCreate3D hc hn => exact .resourceCreate3D (hsc _ _ hc) (hsr _ _ hn)
  | resourceUnref hn => exact .resourceUnref (hsr _ _ hn)
  | resourceAttachBacking hn hl => exact .resourceAttachBacking (hsr _ _ hn) hl
  | resourceDetachBacking hn => exact .resourceDetachBacking (hsr _ _ hn)
  | ctxAttachResource hc hn => exact .ctxAttachResource (hsc _ _ hc) (hsr _ _ hn)
  | transferToHost3D hc hn => exact .transferToHost3D (hsc _ _ hc) (hsr _ _ hn)
  | transferFromHost3D hc hn => exact .transferFromHost3D (hsc _ _ hc) (hsr _ _ hn)
  | submit3D hc => exact .submit3D (hsc _ _ hc)

end HostCmd

namespace Host
variable {h h' : Host} {cmd cmd' : HostCmd}

/-- A command leaves the contexts alone that it does not work on. -/
theorem mem_contexts_exec_of_ne {c : Nat} (hne : cmd.ctx? ≠ some c) :
    c ∈ (h.exec cmd).contexts ↔ c ∈ h.contexts := by
  rw [mem_contexts_exec_iff]
  cases cmd with
  | ctxCreate ctx =>
      refine or_iff_right fun hc => hne ?_
      rw [hc]
      rfl
  | ctxDestroy ctx =>
      refine and_iff_left fun hc => hne ?_
      rw [hc]
      rfl
  | _ => exact Iff.rfl

/-- And the resources. -/
theorem view_exec_of_ne {n : Nat} (hne : cmd.resource? ≠ some n) :
    (h.exec cmd).view n = h.view n := by
  have hid : ∀ id, cmd.resource? = some id → n ≠ id := by
    rintro id hid rfl
    exact hne hid
  rw [view_exec]
  cases cmd with
  | resourceCreate2D id format width height => exact if_neg fun hc => hid id rfl hc.1
  | resourceCreate3D ctx id texture => exact if_neg fun hc => hid id rfl hc.1
  | resourceUnref id => exact if_neg (hid id rfl)
  | resourceAttachBacking id list => exact if_neg (hid id rfl)
  | resourceDetachBacking id => exact if_neg (hid id rfl)
  | _ => rfl

/-! ## Hosts alike -/

/-- Two hosts hold the same for what is numbered in both. -/
structure Alike (sc sr : Nat → Nat → Prop) (h h' : Host) : Prop where
  contexts : ∀ c c', sc c c' → (c ∈ h.contexts ↔ c' ∈ h'.contexts)
  resources : ∀ n n', sr n n' → h.view n = h'.view n'

section Alike
variable {sc sr : Nat → Nat → Prop}

theorem Alike.hasResource (ha : h.Alike sc sr h') {n n' : Nat} (hn : sr n n') :
    h.hasResource n = h'.hasResource n' := by
  rw [hasResource_eq, hasResource_eq, ha.resources n n' hn]

theorem Alike.knowsCtx (ha : h.Alike sc sr h') (hsc : Relator.BiUnique sc) (hzero : sc 0 0)
    {c c' : Nat} (hc : sc c c') : h.knowsCtx c = h'.knowsCtx c' := by
  unfold Host.knowsCtx
  rw [Bool.eq_iff_iff, Bool.or_eq_true, Bool.or_eq_true, beq_iff_eq, beq_iff_eq, decide_eq_true_eq,
    decide_eq_true_eq, ha.contexts c c' hc]
  exact or_congr_left (Relator.rel_eq hsc hc hzero)

/-- Hosts alike answer alike, -/
theorem Alike.knows (ha : h.Alike sc sr h') (hsc : Relator.BiUnique sc) (hzero : sc 0 0)
    (hcmd : cmd.Alike sc sr cmd') : h.knows cmd = h'.knows cmd' := by
  cases hcmd with
  | ctxCreate hc => rfl
  | ctxDestroy hc => exact ha.knowsCtx hsc hzero hc
  | resourceCreate3D hc hn => exact ha.knowsCtx hsc hzero hc
  | resourceUnref hn => exact ha.hasResource hn
  | resourceAttachBacking hn hl => exact ha.hasResource hn
  | resourceDetachBacking hn => exact ha.hasResource hn
  | ctxAttachResource hc hn => exact congrArg₂ and (ha.knowsCtx hsc hzero hc) (ha.hasResource hn)
  | transferToHost3D hc hn => exact congrArg₂ and (ha.knowsCtx hsc hzero hc) (ha.hasResource hn)
  | transferFromHost3D hc hn => exact congrArg₂ and (ha.knowsCtx hsc hzero hc) (ha.hasResource hn)
  | submit3D hc => exact ha.knowsCtx hsc hzero hc

/-- and stay alike. -/
theorem Alike.exec (ha : h.Alike sc sr h') (hsc : Relator.BiUnique sc) (hsr : Relator.BiUnique sr)
    (hcmd : cmd.Alike sc sr cmd') : (h.exec cmd).Alike sc sr (h'.exec cmd') where
  contexts := by
    intro c c' hc
    rw [mem_contexts_exec_iff, mem_contexts_exec_iff]
    have hold := ha.contexts c c' hc
    cases hcmd with
    | ctxCreate hk => exact or_congr (Relator.rel_eq hsc hc hk) hold
    | ctxDestroy hk => exact and_congr hold (not_congr (Relator.rel_eq hsc hc hk))
    | _ => exact hold
  resources := by
    intro n n' hn
    rw [view_exec, view_exec]
    have hold := ha.resources n n' hn
    cases hcmd with
    | resourceCreate3D _ hk =>
        simp only [Relator.rel_eq hsr hn hk, ha.resources _ _ hk, hold]
    | resourceUnref hk => simp only [Relator.rel_eq hsr hn hk, hold]
    | resourceAttachBacking hk hl => simp only [Relator.rel_eq hsr hn hk, hl, hold]
    | resourceDetachBacking hk => simp only [Relator.rel_eq hsr hn hk, hold]
    | _ => exact hold

end Alike
end Host
end VMQemuVGA
