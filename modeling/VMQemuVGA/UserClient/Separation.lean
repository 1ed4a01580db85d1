import VMQemuVGA.Gpu.Held
import VMQemuVGA.Lib.Machine
import VMQemuVGA.UserClient.Renaming

/-! # Clients that keep apart

What one client's calls do to another's objects and return codes comes through the
ids alone: the tables are each client's own, and the counters only number things. So
as long as the others name nothing of a client's, it cannot tell by the return codes
of its calls whether they are there. The data that `0x6006` and `0x6007` copy out of the
response buffer all clients share is another matter, and not in these runs. -/

namespace VMQemuVGA
namespace WinsysRun

open Pairing

/-! ## The state after a call -/

variable {e : Env} {b i : Nat} {s t : WinsysRun} {call : WinsysCall Nat}
  {r : IOReturn × BackingRun}

theorem contexts_next_self (s : WinsysRun) (i : Nat) (call : WinsysCall Nat)
    (r : IOReturn × BackingRun) : (s.next i call r).contexts i =
      if r.1 = .success then s.contexts i ++ call.drawnContexts s.gpu else s.contexts i :=
  Function.update_self ..

theorem resources_next_self (s : WinsysRun) (i : Nat) (call : WinsysCall Nat)
    (r : IOReturn × BackingRun) : (s.next i call r).resources i =
      if r.1 = .success then s.resources i ++ call.drawnResources s.gpu else s.resources i :=
  Function.update_self ..

theorem returned_next_self (s : WinsysRun) (i : Nat) (call : WinsysCall Nat)
    (r : IOReturn × BackingRun) : (s.next i call r).returned i = s.returned i ++ [r.1] :=
  Function.update_self ..

theorem contexts_next_of_ne (hne : b ≠ i) : (s.next i call r).contexts b = s.contexts b :=
  Function.update_of_ne hne ..

theorem resources_next_of_ne (hne : b ≠ i) : (s.next i call r).resources b = s.resources b :=
  Function.update_of_ne hne ..

theorem returned_next_of_ne (hne : b ≠ i) : (s.next i call r).returned b = s.returned b :=
  Function.update_of_ne hne ..

theorem dealings_next (s : WinsysRun) (i : Nat) (call : WinsysCall Nat)
    (r : IOReturn × BackingRun) (b : Nat) : (s.next i call r).dealings b =
      s.dealings b ++ (s.gpu.executedSince r.2.gpu).filter
        (concerns ((s.next i call r).contexts b) ((s.next i call r).resources b)) := rfl

/-- The counters move on by what was drawn. -/
theorem counters_next (hr : WinsysCall.Runs e i s.backings call r)
    (hctx : ∀ c ∈ call.drawnContexts s.gpu, c + 1 < u32)
    (hres : ∀ n ∈ call.drawnResources s.gpu, n + 1 < u32) :
    (s.next i call r).gpu.nextExContextId =
        s.gpu.nextExContextId + (call.drawnContexts s.gpu).length ∧
      (s.next i call r).gpu.nextUserResourceId =
        s.gpu.nextUserResourceId + (call.drawnResources s.gpu).length ∧
      (s.next i call r).gpu.supports3D = s.gpu.supports3D ∧
      (s.next i call r).gpu.ready = s.gpu.ready := by
  obtain ⟨l, hgpu⟩ := hr.gpu
  have hgpu : (s.next i call r).gpu = { call.draw s.gpu with link := l } := hgpu
  rw [hgpu]
  exact ⟨WinsysCall.nextExContextId_draw hctx, WinsysCall.nextUserResourceId_draw hres,
    WinsysCall.supports3D_draw call s.gpu, WinsysCall.ready_draw call s.gpu⟩

/-! ## Numbers of one run

All numbers in use are below the counters, and what was given out is not in use
by the driver itself. -/

structure Numbered (b : Nat) (s : WinsysRun) : Prop where
  contexts : Drawn winsysBase (s.contexts b)
  resources : Drawn winsysBase (s.resources b)
  base_le_context : winsysBase ≤ s.gpu.nextExContextId
  base_le_resource : winsysBase ≤ s.gpu.nextUserResourceId
  context_lt : ∀ c ∈ s.contexts b, c < s.gpu.nextExContextId
  resource_lt : ∀ n ∈ s.resources b, n < s.gpu.nextUserResourceId
  host_context : ∀ c ∈ s.host.contexts, 0 < c ∧ c < s.gpu.nextExContextId
  host_resource : ∀ n, s.host.hasResource n = true → n < s.gpu.nextUserResourceId

theorem winsysBase_pos : 0 < winsysBase := by decide

/-- What is drawn is what the counter stood at. -/
theorem eq_of_mem_drawn {d : List Nat} {n m : Nat} (hd : d = [] ∨ d = [n]) (hm : m ∈ d) :
    m = n := by
  rcases hd with rfl | rfl
  · cases hm
  · exact List.mem_singleton.mp hm

/-- A list that a call may have added to. -/
theorem drawn_given {l d : List Nat} {p : Prop} [Decidable p] {n : Nat}
    (hl : Drawn winsysBase l) (hlt : ∀ m ∈ l, m < n) (hn : winsysBase ≤ n)
    (hd : d = [] ∨ d = [n]) :
    Drawn winsysBase (if p then l ++ d else l) ∧
      ∀ m ∈ (if p then l ++ d else l), m < n + d.length := by
  have hnew : ∀ m ∈ d, m = n := fun m hm => eq_of_mem_drawn hd hm
  have hdrawn : Drawn winsysBase d := by
    rcases hd with rfl | rfl
    · exact .nil
    · exact .singleton hn
  split
  · refine ⟨hl.append hdrawn fun m hm hold => ?_, fun m hm => ?_⟩
    · have := hlt m hold
      have := hnew m hm
      omega
    · rcases List.mem_append.mp hm with hold | hm
      · exact Nat.lt_add_right _ (hlt m hold)
      · have := hnew m hm
        have := List.length_pos_of_mem hm
        omega
  · exact ⟨hl, fun m hm => Nat.lt_add_right _ (hlt m hm)⟩

/-- Calls keep the numbers in order, as long as no counter wraps. -/
theorem Numbered.next (h : s.Numbered b)
    (hr : WinsysCall.Runs (e.answeredBy s.host) i s.backings call r)
    (hctx : ∀ c ∈ call.drawnContexts s.gpu, c + 1 < u32)
    (hres : ∀ n ∈ call.drawnResources s.gpu, n + 1 < u32) : (s.next i call r).Numbered b := by
  obtain ⟨hc, hn, -, -⟩ := counters_next hr hctx hres
  obtain ⟨o, hdid, hsends⟩ := hr.did
  have hcs : Drawn winsysBase ((s.next i call r).contexts b) ∧
      ∀ c ∈ (s.next i call r).contexts b, c < (s.next i call r).gpu.nextExContextId := by
    rw [hc]
    by_cases hi : b = i
    · subst hi
      rw [contexts_next_self]
      exact drawn_given h.contexts h.context_lt h.base_le_context (call.drawnContexts_eq s.gpu)
    · rw [contexts_next_of_ne hi]
      exact ⟨h.contexts, fun c hmem => Nat.lt_add_right _ (h.context_lt c hmem)⟩
  have hrs : Drawn winsysBase ((s.next i call r).resources b) ∧
      ∀ n ∈ (s.next i call r).resources b, n < (s.next i call r).gpu.nextUserResourceId := by
    rw [hn]
    by_cases hi : b = i
    · subst hi
      rw [resources_next_self]
      exact drawn_given h.resources h.resource_lt h.base_le_resource (call.drawnResources_eq s.gpu)
    · rw [resources_next_of_ne hi]
      exact ⟨h.resources, fun n hmem => Nat.lt_add_right _ (h.resource_lt n hmem)⟩
  refine ⟨hcs.1, hrs.1, ?_, ?_, hcs.2, hrs.2, fun c hmem => ?_, fun n hhas => ?_⟩
  · rw [hc]
    exact Nat.le_add_right_of_le h.base_le_context
  · rw [hn]
    exact Nat.le_add_right_of_le h.base_le_resource
  · have hold : c ∈ s.host.contexts ∨ c ∈ call.drawnContexts s.gpu := by
      have hmem : c ∈ r.2.gpu.link.host.contexts := hmem
      rw [hdid.host] at hmem
      cases o with
      | none => exact Or.inl hmem
      | some cmd => exact (Host.mem_contexts_exec hmem).imp_right ((hsends cmd rfl).1.creates.1 c)
    rw [hc]
    rcases hold with hold | hdrawn
    · obtain ⟨hpos, hlt⟩ := h.host_context c hold
      exact ⟨hpos, Nat.lt_add_right _ hlt⟩
    · have hlen := List.length_pos_of_mem hdrawn
      have heq := eq_of_mem_drawn (call.drawnContexts_eq s.gpu) hdrawn
      have hbase := h.base_le_context
      have := winsysBase_pos
      omega
  · have hold : s.host.hasResource n = true ∨ n ∈ call.drawnResources s.gpu := by
      have hhas : r.2.gpu.link.host.hasResource n = true := hhas
      rw [hdid.host] at hhas
      cases o with
      | none => exact Or.inl hhas
      | some cmd => exact (Host.hasResource_exec hhas).imp_right ((hsends cmd rfl).1.creates.2 n)
    rw [hn]
    rcases hold with hold | hdrawn
    · exact Nat.lt_add_right _ (h.host_resource n hold)
    · have hlen := List.length_pos_of_mem hdrawn
      have heq := eq_of_mem_drawn (call.drawnResources_eq s.gpu) hdrawn
      omega

theorem Numbered.drawn_contexts (h : s.Numbered b) (call : WinsysCall Nat) :
    Drawn winsysBase (s.contexts b ++ call.drawnContexts s.gpu) := by
  have hgiven := drawn_given (p := True) h.contexts h.context_lt h.base_le_context
    (call.drawnContexts_eq s.gpu)
  rw [if_pos trivial] at hgiven
  exact hgiven.1

theorem Numbered.drawn_resources (h : s.Numbered b) (call : WinsysCall Nat) :
    Drawn winsysBase (s.resources b ++ call.drawnResources s.gpu) := by
  have hgiven := drawn_given (p := True) h.resources h.resource_lt h.base_le_resource
    (call.drawnResources_eq s.gpu)
  rw [if_pos trivial] at hgiven
  exact hgiven.1

/-- The next resource is not on the host. -/
theorem Numbered.view_fresh (h : s.Numbered b) : s.host.view s.gpu.nextUserResourceId = none := by
  cases hview : s.host.view s.gpu.nextUserResourceId with
  | none => rfl
  | some backing =>
      have hhas : s.host.hasResource s.gpu.nextUserResourceId = true := by
        rw [Host.hasResource_eq, hview]
        rfl
      exact absurd (h.host_resource _ hhas) (Nat.lt_irrefl _)

/-! ## Two runs

The run `t` is the run `s` without some calls of others. Its counters are behind. -/

structure Mirrors (b : Nat) (s t : WinsysRun) : Prop extends SameFor b s t where
  left : s.Numbered b
  right : t.Numbered b
  context_le : t.gpu.nextExContextId ≤ s.gpu.nextExContextId
  resource_le : t.gpu.nextUserResourceId ≤ s.gpu.nextUserResourceId
  supports3D : s.gpu.supports3D = t.gpu.supports3D
  ready : s.gpu.ready = t.gpu.ready
  table : (s.backings.client b).Alike (s.ResPartner t b) (t.backings.client b)

/-! ### A call that is left out -/

/-- What a call of another client has the host do is done to nothing of `b`. -/
theorem untouched {cmd : HostCmd} (h : s.Numbered b) (hapart : s.Apart b call)
    (hsends : WinsysCall.Sends i s.backings call cmd) (hknows : s.host.knows cmd = true) :
    (∀ c, cmd.ctx? = some c → c = 0 ∨ c ∉ s.contexts b ∧ winsysBase ≤ c) ∧
      ∀ n, cmd.resource? = some n → n ∉ s.resources b ∧ winsysBase ≤ n := by
  constructor
  · intro c hc
    rcases hsends.ctx hknows hc with hdrawn | rfl | ⟨hwork, hhas⟩
    · obtain rfl := eq_of_mem_drawn (call.drawnContexts_eq s.gpu) hdrawn
      exact Or.inr ⟨fun hmem => Nat.lt_irrefl _ (h.context_lt _ hmem), h.base_le_context⟩
    · exact Or.inl rfl
    · exact Or.inr (hapart.1 c hwork hhas)
  · intro n hn
    rcases hsends.resource hknows hn with hdrawn | ⟨hnamed, hhas⟩
    · obtain rfl := eq_of_mem_drawn (call.drawnResources_eq s.gpu) hdrawn
      exact ⟨fun hmem => Nat.lt_irrefl _ (h.resource_lt _ hmem), h.base_le_resource⟩
    · exact hapart.2 n hnamed hhas

theorem concerns_eq_false {contexts resources : List Nat} {cmd : HostCmd}
    (hctx : ∀ c, cmd.ctx? = some c → c = 0 ∨ c ∉ contexts ∧ winsysBase ≤ c)
    (hzero : 0 ∉ contexts)
    (hres : ∀ n, cmd.resource? = some n → n ∉ resources ∧ winsysBase ≤ n) :
    concerns contexts resources cmd = false := by
  unfold concerns
  rw [Bool.or_eq_false_iff]
  constructor
  · cases hc : cmd.ctx? with
    | none => rfl
    | some c =>
        rw [Option.any_some]
        rcases hctx c hc with rfl | ⟨hnot, hle⟩
        · simp only [hzero, ne_eq, not_true_eq_false, decide_false, Bool.false_and, Bool.or_false]
        · simp only [hnot, Nat.not_lt.mpr hle, decide_false, Bool.and_false, Bool.or_false]
  · cases hn : cmd.resource? with
    | none => rfl
    | some n =>
        obtain ⟨hnot, hle⟩ := hres n hn
        rw [Option.any_some]
        simp only [hnot, Nat.not_lt.mpr hle, decide_false, Bool.or_false]

/-- So all that is there for `b` stays as it was. -/
theorem unchanged_next (h : s.Numbered b) (hne : b ≠ i)
    (hr : WinsysCall.Runs (e.answeredBy s.host) i s.backings call r) (hapart : s.Apart b call)
    (hpos : ∀ c ∈ (s.next i call r).host.contexts, 0 < c) :
    (∀ c, c ∈ s.contexts b ∨ c < winsysBase →
        (c ∈ (s.next i call r).host.contexts ↔ c ∈ s.host.contexts)) ∧
      (∀ n, n ∈ s.resources b ∨ n < winsysBase →
        (s.next i call r).host.view n = s.host.view n) ∧
      (s.next i call r).dealings b = s.dealings b := by
  rw [dealings_next, contexts_next_of_ne hne, resources_next_of_ne hne]
  obtain ⟨o, hdid, ho⟩ := hr.did
  have hhost : (s.next i call r).host = _ := hdid.host
  have hexec : s.gpu.executedSince r.2.gpu = _ := hdid.executed
  rw [hexec]
  cases o with
  | none =>
      rw [hhost]
      exact ⟨fun _ _ => Iff.rfl, fun _ _ => rfl, List.append_nil _⟩
  | some cmd =>
  obtain ⟨hsends, hknows⟩ := ho cmd rfl
  obtain ⟨hctx, hres⟩ := untouched h hapart hsends hknows
  have hzero : 0 ∉ s.contexts b := fun hmem =>
    absurd (h.contexts.base_le 0 hmem) (Nat.not_le.mpr winsysBase_pos)
  refine ⟨fun c hc => ?_, fun n hn => ?_, ?_⟩
  · by_cases hworks : cmd.ctx? = some c
    · rcases hctx c hworks with rfl | ⟨hnot, hle⟩
      · -- no host has a context 0, whatever it is asked to do with it
        exact iff_of_false (fun hmem => Nat.lt_irrefl 0 (hpos 0 hmem))
          fun hmem => Nat.lt_irrefl 0 (h.host_context 0 hmem).1
      · exact absurd hc (not_or.mpr ⟨hnot, Nat.not_lt.mpr hle⟩)
    · rw [hhost]
      exact Host.mem_contexts_exec_of_ne hworks
  · rw [hhost]
    refine Host.view_exec_of_ne fun hworks => ?_
    obtain ⟨hnot, hle⟩ := hres n hworks
    exact absurd hn (not_or.mpr ⟨hnot, Nat.not_lt.mpr hle⟩)
  · rw [Option.toList_some, List.filter_cons, concerns_eq_false hctx hzero hres]
    exact List.append_nil _

theorem Mirrors.hidden (h : s.Mirrors b t) (hne : b ≠ i)
    (hr : WinsysCall.Runs (e.answeredBy s.host) i s.backings call r) (hapart : s.Apart b call)
    (hctx : ∀ c ∈ call.drawnContexts s.gpu, c + 1 < u32)
    (hres : ∀ n ∈ call.drawnResources s.gpu, n + 1 < u32) : (s.next i call r).Mirrors b t := by
  have hleft := h.left.next hr hctx hres
  obtain ⟨hc, hn, h3D, hready⟩ := counters_next hr hctx hres
  obtain ⟨hctxs, hviews, hdealings⟩ := unchanged_next h.left hne hr hapart fun c hmem =>
    (hleft.host_context c hmem).1
  have hcp : (s.next i call r).CtxPartner t b = s.CtxPartner t b := by
    unfold CtxPartner
    rw [contexts_next_of_ne hne]
  have hrp : (s.next i call r).ResPartner t b = s.ResPartner t b := by
    unfold ResPartner
    rw [resources_next_of_ne hne]
  refine ⟨⟨?_, ?_, ?_, ?_, ?_⟩, hleft, h.right, ?_, ?_, ?_, ?_, ?_⟩
  · rw [returned_next_of_ne hne]
    exact h.returned
  · rw [contexts_next_of_ne hne]
    exact h.contexts
  · rw [resources_next_of_ne hne]
    exact h.resources
  · rw [hcp, hrp]
    refine ⟨fun c c' hp => ?_, fun n n' hp => ?_⟩
    · rw [hctxs c hp.mem_or_lt]
      exact h.host.contexts c c' hp
    · rw [hviews n hp.mem_or_lt]
      exact h.host.resources n n' hp
  · rw [hcp, hrp, hdealings]
    exact h.dealings
  · rw [hc]
    exact Nat.le_add_right_of_le h.context_le
  · rw [hn]
    exact Nat.le_add_right_of_le h.resource_le
  · rw [h3D]
    exact h.supports3D
  · rw [hready]
    exact h.ready
  · rw [hrp]
    show (r.2.client b).Alike _ _
    rw [hr.client_of_ne hne]
    exact h.table

/-! ### A call that both runs take -/

theorem Numbered.biUnique_ctx (h : s.Numbered b) (h' : t.Numbered b) :
    Relator.BiUnique (s.CtxPartner t b) := biUnique_partner h.contexts h'.contexts

theorem Numbered.biUnique_res (h : s.Numbered b) (h' : t.Numbered b) :
    Relator.BiUnique (s.ResPartner t b) := biUnique_partner h.resources h'.resources

/-- The same is recorded of the same command. -/
theorem concerns_alike {cs cs' rs rs' : List Nat} (hcs : Drawn winsysBase cs)
    (hcs' : Drawn winsysBase cs') (hrs : Drawn winsysBase rs) (hrs' : Drawn winsysBase rs')
    {cmd cmd' : HostCmd}
    (h : cmd.Alike (Partner winsysBase cs cs') (Partner winsysBase rs rs') cmd') :
    concerns cs rs cmd = concerns cs' rs' cmd' := by
  have hctx : ∀ {c c'}, Partner winsysBase cs cs' c c' →
      (decide (c ∈ cs) || (decide (c ≠ 0) && decide (c < winsysBase))) =
        (decide (c' ∈ cs') || (decide (c' ≠ 0) && decide (c' < winsysBase))) := by
    intro c c' hp
    have hzero : c = 0 ↔ c' = 0 :=
      Relator.rel_eq (biUnique_partner hcs hcs') hp (partner_zero winsysBase_pos)
    simp only [hp.mem_iff hcs hcs', hp.lt_iff hcs hcs', ne_eq, hzero]
  have hres : ∀ {n n'}, Partner winsysBase rs rs' n n' →
      (decide (n ∈ rs) || decide (n < winsysBase)) =
        (decide (n' ∈ rs') || decide (n' < winsysBase)) := by
    intro n n' hp
    simp only [hp.mem_iff hrs hrs', hp.lt_iff hrs hrs']
  cases h with
  | ctxCreate hc => exact congrArg₂ or (hctx hc) rfl
  | ctxDestroy hc => exact congrArg₂ or (hctx hc) rfl
  | resourceCreate3D hc hn => exact congrArg₂ or rfl (hres hn)
  | resourceUnref hn => exact congrArg₂ or rfl (hres hn)
  | resourceAttachBacking hn hl => exact congrArg₂ or rfl (hres hn)
  | resourceDetachBacking hn => exact congrArg₂ or rfl (hres hn)
  | ctxAttachResource hc hn => exact congrArg₂ or (hctx hc) (hres hn)
  | transferToHost3D hc hn => exact congrArg₂ or (hctx hc) (hres hn)
  | transferFromHost3D hc hn => exact congrArg₂ or (hctx hc) (hres hn)
  | submit3D hc => exact congrArg₂ or (hctx hc) rfl

/-- The numbers of `b` in two runs once `call` has drawn its own. -/
def CtxDrawn (s t : WinsysRun) (b : Nat) (call call' : WinsysCall Nat) : Nat → Nat → Prop :=
  Partner winsysBase (s.contexts b ++ call.drawnContexts s.gpu)
    (t.contexts b ++ call'.drawnContexts t.gpu)

def ResDrawn (s t : WinsysRun) (b : Nat) (call call' : WinsysCall Nat) : Nat → Nat → Prop :=
  Partner winsysBase (s.resources b ++ call.drawnResources s.gpu)
    (t.resources b ++ call'.drawnResources t.gpu)

section Kept
variable {call' : WinsysCall Nat} {r' : IOReturn × BackingRun}

/-- What is drawn is on neither host yet. -/
theorem Mirrors.host_drawn (h : s.Mirrors b t) :
    s.host.Alike (s.CtxDrawn t b call call') (s.ResDrawn t b call call') t.host where
  contexts := by
    intro c c' hp
    rcases (partner_append_iff h.contexts).mp hp with hp | ⟨k, hk, hk'⟩
    · exact h.host.contexts c c' hp
    · obtain rfl := eq_of_mem_drawn (call.drawnContexts_eq s.gpu) (List.mem_of_getElem? hk)
      obtain rfl := eq_of_mem_drawn (call'.drawnContexts_eq t.gpu) (List.mem_of_getElem? hk')
      exact iff_of_false (fun hmem => Nat.lt_irrefl _ (h.left.host_context _ hmem).2)
        fun hmem => Nat.lt_irrefl _ (h.right.host_context _ hmem).2
  resources := by
    intro n n' hp
    rcases (partner_append_iff h.resources).mp hp with hp | ⟨k, hk, hk'⟩
    · exact h.host.resources n n' hp
    · obtain rfl := eq_of_mem_drawn (call.drawnResources_eq s.gpu) (List.mem_of_getElem? hk)
      obtain rfl := eq_of_mem_drawn (call'.drawnResources_eq t.gpu) (List.mem_of_getElem? hk')
      rw [h.left.view_fresh, h.right.view_fresh]

theorem Mirrors.biUnique_ctxDrawn (h : s.Mirrors b t) :
    Relator.BiUnique (s.CtxDrawn t b call call') :=
  biUnique_partner (h.left.drawn_contexts call) (h.right.drawn_contexts call')

theorem Mirrors.biUnique_resDrawn (h : s.Mirrors b t) :
    Relator.BiUnique (s.ResDrawn t b call call') :=
  biUnique_partner (h.left.drawn_resources call) (h.right.drawn_resources call')

/-- Both draw as many, -/
theorem length_drawn {d d' : List Nat} {a a' : Nat}
    (hd : (d = [] ∧ d' = []) ∨ (d = [a] ∧ d' = [a'])) : d.length = d'.length := by
  rcases hd with ⟨rfl, rfl⟩ | ⟨rfl, rfl⟩
  · rfl
  · rfl

theorem nil_of_nil {d d' : List Nat} {a a' : Nat}
    (hd : (d = [] ∧ d' = []) ∨ (d = [a] ∧ d' = [a'])) (hnil : d = []) : d' = [] :=
  List.eq_nil_of_length_eq_zero (by rw [← length_drawn hd, hnil, List.length_nil])

/-- and the counter that is behind wraps no sooner. -/
theorem unwrapped_of_le {d d' : List Nat} {a a' : Nat}
    (hd : (d = [] ∧ d' = []) ∨ (d = [a] ∧ d' = [a'])) (hle : a' ≤ a)
    (h : ∀ n ∈ d, n + 1 < u32) : ∀ n ∈ d', n + 1 < u32 := by
  intro n hn
  rcases hd with ⟨-, rfl⟩ | ⟨rfl, rfl⟩
  · cases hn
  · rw [List.mem_singleton.mp hn]
    exact Nat.lt_of_le_of_lt (Nat.succ_le_succ hle) (h a (List.mem_singleton_self a))

/-- What both draw at once is the same thing. -/
theorem partner_of_drawn {l l' d d' : List Nat} {a a' n n' : Nat} (hlen : l.length = l'.length)
    (hd : (d = [] ∧ d' = []) ∨ (d = [a] ∧ d' = [a'])) (hn : n ∈ d) (hn' : n' ∈ d') :
    Partner winsysBase (l ++ d) (l' ++ d') n n' := by
  refine (partner_append_iff hlen).mpr (Or.inr ⟨0, ?_⟩)
  rcases hd with ⟨rfl, -⟩ | ⟨rfl, rfl⟩
  · cases hn
  · rw [List.mem_singleton.mp hn, List.mem_singleton.mp hn']
    exact ⟨rfl, rfl⟩

/-- The two runs send the same. -/
theorem Mirrors.command_alike (h : s.Mirrors b t)
    (hcall : call.Alike (s.CtxPartner t b) (s.ResPartner t b) call') :
    CommandAlike (s.CtxDrawn t b call call') (s.ResDrawn t b call call')
      (call.command e b s.backings) (call'.command e b t.backings) := by
  have hmono : ∀ n n', s.ResPartner t b n n' → s.ResDrawn t b call call' n n' :=
    fun n n' hp => hp.append h.resources
  refine WinsysCall.command_alike h.biUnique_resDrawn (partner_zero winsysBase_pos)
    (hcall.mono (fun c c' hp => hp.append h.contexts) hmono) h.supports3D h.ready
    (h.table.mono hmono) (fun c hc c' hc' => ?_) fun n hn n' hn' => ?_
  · exact partner_of_drawn h.contexts (hcall.drawnContexts s.gpu t.gpu) hc hc'
  · exact partner_of_drawn h.resources (hcall.drawnResources s.gpu t.gpu) hn hn'

/-- A call comes out the same in both runs. -/
theorem Mirrors.outcome (h : s.Mirrors b t)
    (hcall : call.Alike (s.CtxPartner t b) (s.ResPartner t b) call')
    (hr : WinsysCall.Runs (e.answeredBy s.host) b s.backings call r)
    (hr' : WinsysCall.Runs (e.answeredBy t.host) b t.backings call' r') :
    r.1 = r'.1 ∧ (r.2.client b).Alike (s.ResPartner t b) (r'.2.client b) ∧
      ∃ o o', WinsysCall.Did s.gpu r.2.gpu o ∧ WinsysCall.Did t.gpu r'.2.gpu o' ∧
        Option.Rel (HostCmd.Alike (s.CtxDrawn t b call call') (s.ResDrawn t b call call')) o o' ∧
        (o.isSome = true → r.1 = .success ∨
          call.drawnContexts s.gpu = [] ∧ call.drawnResources s.gpu = []) := by
  have hcommand := h.command_alike (e := e) hcall
  generalize hcmd : call.command e b s.backings = o, hcmd' : call'.command e b t.backings = o'
    at hcommand
  cases hcommand with
  | error ret =>
      rw [hr.of_error hcmd, hr'.of_error hcmd']
      exact ⟨rfl, h.table, none, none, .refl _, .refl _, .none, fun hsome => (by cases hsome)⟩
  | @ok cmd cmd' hcmds =>
      have hknows : s.host.knows cmd = t.host.knows cmd' :=
        h.host_drawn.knows h.biUnique_ctxDrawn (partner_zero winsysBase_pos) hcmds
      obtain ⟨hgpu, hret, hclient⟩ := hr.of_ok hcmd
      obtain ⟨hgpu', hret', hclient'⟩ := hr'.of_ok hcmd'
      rw [← hknows] at hret' hclient'
      have hfinish := WinsysCall.finish_alike (e := e) (h.left.biUnique_res h.right)
        (partner_zero winsysBase_pos) hcall h.table s.backings.nextSerial t.backings.nextSerial
        (if s.host.knows cmd then .success else .error)
      have hdid : WinsysCall.Did s.gpu r.2.gpu (if s.host.knows cmd then some cmd else none) :=
        hgpu ▸ WinsysCall.did_send e call s.gpu cmd
      have hdid' : WinsysCall.Did t.gpu r'.2.gpu (if t.host.knows cmd' then some cmd' else none) :=
        hgpu' ▸ WinsysCall.did_send e call' t.gpu cmd'
      rw [← hknows] at hdid'
      rw [← hret, ← hret', ← hclient, ← hclient'] at hfinish
      refine ⟨hfinish.1, hfinish.2, _, _, hdid, hdid', ?_, fun hsome => ?_⟩
      · split
        · exact .some hcmds
        · exact .none
      · rcases call.drawn_or_finish s.gpu with hnil | hanswer
        · exact Or.inr hnil
        · -- it was carried out, so the answer was success
          left
          by_cases hk : s.host.knows cmd = true
          · rw [hret, hanswer, if_pos hk]
          · rw [if_neg hk] at hsome
            cases hsome

theorem ctxPartner_next (hret : r.1 = r'.1) :
    (s.next b call r).CtxPartner (t.next b call' r') b =
      if r.1 = .success then s.CtxDrawn t b call call' else s.CtxPartner t b := by
  unfold CtxPartner
  rw [contexts_next_self, contexts_next_self, ← hret]
  split
  · rfl
  · rfl

theorem resPartner_next (hret : r.1 = r'.1) :
    (s.next b call r).ResPartner (t.next b call' r') b =
      if r.1 = .success then s.ResDrawn t b call call' else s.ResPartner t b := by
  unfold ResPartner
  rw [resources_next_self, resources_next_self, ← hret]
  split
  · rfl
  · rfl

/-- Under the numbers that the call leaves, the hosts were alike before it, and
what they carry out is the same. -/
theorem Mirrors.numbers_next (h : s.Mirrors b t)
    (hcall : call.Alike (s.CtxPartner t b) (s.ResPartner t b) call') (hret : r.1 = r'.1)
    {o o' : Option HostCmd}
    (hcmds :
      Option.Rel (HostCmd.Alike (s.CtxDrawn t b call call') (s.ResDrawn t b call call')) o o')
    (hsome : o.isSome = true → r.1 = .success ∨
      call.drawnContexts s.gpu = [] ∧ call.drawnResources s.gpu = []) :
    let sc := (s.next b call r).CtxPartner (t.next b call' r') b
    let sr := (s.next b call r).ResPartner (t.next b call' r') b
    (∀ c c', s.CtxPartner t b c c' → sc c c') ∧ (∀ n n', s.ResPartner t b n n' → sr n n') ∧
      s.host.Alike sc sr t.host ∧ Option.Rel (HostCmd.Alike sc sr) o o' := by
  dsimp only
  rw [ctxPartner_next hret, resPartner_next hret]
  by_cases hsucc : r.1 = .success
  · rw [if_pos hsucc, if_pos hsucc]
    exact ⟨fun c c' hp => hp.append h.contexts, fun n n' hp => hp.append h.resources,
      h.host_drawn, hcmds⟩
  · rw [if_neg hsucc, if_neg hsucc]
    refine ⟨fun _ _ hp => hp, fun _ _ hp => hp, h.host, ?_⟩
    cases hcmds with
    | none => exact .none
    | some hcmd =>
        -- nothing was drawn, so the numbers are still the same
        obtain ⟨hc, hn⟩ := (hsome rfl).resolve_left hsucc
        have hc' := nil_of_nil (hcall.drawnContexts s.gpu t.gpu) hc
        have hn' := nil_of_nil (hcall.drawnResources s.gpu t.gpu) hn
        unfold CtxDrawn ResDrawn at hcmd
        rw [hc, hc', hn, hn', List.append_nil, List.append_nil, List.append_nil,
          List.append_nil] at hcmd
        exact .some hcmd

theorem Mirrors.kept (h : s.Mirrors b t)
    (hcall : call.Alike (s.CtxPartner t b) (s.ResPartner t b) call')
    (hr : WinsysCall.Runs (e.answeredBy s.host) b s.backings call r)
    (hr' : WinsysCall.Runs (e.answeredBy t.host) b t.backings call' r')
    (hctx : ∀ c ∈ call.drawnContexts s.gpu, c + 1 < u32)
    (hres : ∀ n ∈ call.drawnResources s.gpu, n + 1 < u32) :
    (s.next b call r).Mirrors b (t.next b call' r') := by
  have hcd := hcall.drawnContexts s.gpu t.gpu
  have hrd := hcall.drawnResources s.gpu t.gpu
  have hctx' := unwrapped_of_le hcd h.context_le hctx
  have hres' := unwrapped_of_le hrd h.resource_le hres
  obtain ⟨hret, htable, o, o', hdid, hdid', hcmds, hsome⟩ := h.outcome hcall hr hr'
  obtain ⟨hsc, hsr, hhost, hcmds⟩ := h.numbers_next hcall hret hcmds hsome
  have hleft := h.left.next hr hctx hres
  have hright := h.right.next hr' hctx' hres'
  obtain ⟨hc, hn, h3D, hready⟩ := counters_next hr hctx hres
  obtain ⟨hc', hn', h3D', hready'⟩ := counters_next hr' hctx' hres'
  refine ⟨⟨?_, ?_, ?_, ?_, ?_⟩, hleft, hright, ?_, ?_, ?_, ?_, htable.mono hsr⟩
  · rw [returned_next_self, returned_next_self, h.returned, hret]
  · rw [contexts_next_self, contexts_next_self, ← hret]
    split
    · rw [List.length_append, List.length_append, h.contexts, length_drawn hcd]
    · exact h.contexts
  · rw [resources_next_self, resources_next_self, ← hret]
    split
    · rw [List.length_append, List.length_append, h.resources, length_drawn hrd]
    · exact h.resources
  · have hs : (s.next b call r).host = _ := hdid.host
    have ht : (t.next b call' r').host = _ := hdid'.host
    rw [hs, ht]
    cases hcmds with
    | none => exact hhost
    | some hcmd => exact hhost.exec (hleft.biUnique_ctx hright) (hleft.biUnique_res hright) hcmd
  · rw [dealings_next, dealings_next, hdid.executed, hdid'.executed]
    refine List.rel_append (h.dealings.imp fun _ _ hcmd => hcmd.mono hsc hsr) ?_
    cases hcmds with
    | none => exact .nil
    | some hcmd =>
        rw [Option.toList_some, Option.toList_some, List.filter_cons, List.filter_cons,
          concerns_alike hleft.contexts hright.contexts hleft.resources hright.resources hcmd]
        split
        · exact .cons hcmd .nil
        · exact .nil
  · rw [hc, hc', length_drawn hcd]
    exact Nat.add_le_add_right h.context_le _
  · rw [hn, hn', length_drawn hrd]
    exact Nat.add_le_add_right h.resource_le _
  · rw [h3D, h3D']
    exact h.supports3D
  · rw [hready, hready']
    exact h.ready

end Kept

/-! ### Runs -/

theorem numbered_init (boot : BootHost) (supports3D : Bool) (maxScanouts b : Nat) :
    (machine boot supports3D maxScanouts).init.Numbered b where
  contexts := .nil
  resources := .nil
  base_le_context := Nat.le_refl _
  base_le_resource := Nat.le_refl _
  context_lt := fun _ h => (by cases h)
  resource_lt := fun _ h => (by cases h)
  host_context := boot.contexts
  host_resource := by
    intro n hn
    obtain ⟨r, hr, rfl⟩ := Host.hasResource_iff.mp hn
    exact boot.resources r hr

theorem mirrors_init (boot : BootHost) (supports3D : Bool) (maxScanouts b : Nat) :
    (machine boot supports3D maxScanouts).init.Mirrors b
      (machine boot supports3D maxScanouts).init where
  returned := rfl
  contexts := rfl
  resources := rfl
  host := by
    constructor
    · rintro c c' (⟨-, rfl⟩ | ⟨k, hk, -⟩)
      · exact Iff.rfl
      · cases hk
    · rintro n n' (⟨-, rfl⟩ | ⟨k, hk, -⟩)
      · rfl
      · cases hk
  dealings := .nil
  left := numbered_init boot supports3D maxScanouts b
  right := numbered_init boot supports3D maxScanouts b
  context_le := Nat.le_refl _
  resource_le := Nat.le_refl _
  supports3D := rfl
  ready := rfl
  table := UserBackings.alike_empty (partner_zero winsysBase_pos)

/-- To `b` the events come out as if the calls of all other clients were not made, as far
as return codes and the host's objects go. -/
def Separated (boot : BootHost) (supports3D : Bool) (maxScanouts b : Nat)
    (events : List WinsysEvent) : Prop :=
  let m := machine boot supports3D maxScanouts
  ∀ s, m.run m.init events = some s →
    ∃ t, m.run m.init (events.filter fun event => decide (event.1 = b)) = some t ∧ SameFor b s t

/-- The return codes of a client that names only what it was given, and what the host holds
for it, do not depend on other clients that name nothing of it. -/
theorem separated_of_stepOk (boot : BootHost) (supports3D : Bool) (maxScanouts b : Nat)
    (events : List WinsysEvent)
    (h : (machine boot supports3D maxScanouts).Along (StepOk b)
      (machine boot supports3D maxScanouts).init events) :
    Separated boot supports3D maxScanouts b events := by
  intro s hrun
  have hinit := mirrors_init boot supports3D maxScanouts b
  have hhidden : ∀ (s t : WinsysRun) (event : WinsysEvent) (s' : WinsysRun), s.Mirrors b t →
      s.StepOk b event → decide (event.1 = b) = false → s.step event = some s' →
        s'.Mirrors b t := by
    rintro s t ⟨i, call, e⟩ s' hR ⟨-, hok⟩ hi hstep
    obtain ⟨c, hc, rfl⟩ := Option.map_eq_some_iff.mp hstep
    obtain ⟨hapart, hctx, hres⟩ := hok c hc
    have hne : i ≠ b := of_decide_eq_false hi
    exact hR.hidden hne.symm (WinsysCall.run_runs _ _ _ _) (hapart hne) hctx hres
  have hkept : ∀ (s t : WinsysRun) (event : WinsysEvent) (s' : WinsysRun), s.Mirrors b t →
      s.StepOk b event → decide (event.1 = b) = true → s.step event = some s' →
        ∃ t', t.step event = some t' ∧ s'.Mirrors b t' := by
    rintro s t ⟨i, call, e⟩ s' hR ⟨hknown, hok⟩ hi hstep
    obtain ⟨c, hc, rfl⟩ := Option.map_eq_some_iff.mp hstep
    obtain ⟨-, hctx, hres⟩ := hok c hc
    obtain rfl : i = b := of_decide_eq_true hi
    obtain ⟨hctxs, hresources⟩ := hknown rfl
    obtain ⟨c', hc', hcall⟩ :=
      WinsysCall.resolve_alike hR.contexts hR.resources hctxs hresources hc
    refine ⟨_, Option.map_eq_some_iff.mpr ⟨c', hc', rfl⟩, ?_⟩
    exact hR.kept hcall (WinsysCall.run_runs _ _ _ _) (WinsysCall.run_runs _ _ _ _) hctx hres
  obtain ⟨t, ht, hmirrors⟩ :=
    (machine boot supports3D maxScanouts).run_filter hhidden hkept hinit h hrun
  exact ⟨t, ht, hmirrors.toSameFor⟩

/-- The framebuffer's resource and a context of the driver. -/
def displayHost : BootHost where
  host := ⟨[⟨1, none⟩], [1]⟩
  contexts := by decide
  resources := by decide

/-- `VIRGL_TARGET_2D`, 64 by 64. -/
def plainTexture : Texture := ⟨2, 1, 2, 64, 64, 1, 1, 0, 0, 0⟩

/-- Two clients that mind their own things; client 0 also guesses an id that is not there. -/
def sideBySide : List WinsysEvent :=
  [(0, .createVirglContextEx, .accepting), (1, .createVirglContextEx, .accepting),
    (0, .createResource3DEx (.own 0) plainTexture, .accepting),
    (1, .createResource3DEx (.own 0) plainTexture, .accepting),
    (1, .attachBackingUser (.own 0) 0x4000 0x1000, .accepting),
    (0, .attachBackingUser (.own 0) 0x8000 0x1000, .accepting),
    (0, .resourceUnref (.raw 0x1ff), .accepting),
    (1, .ctxAttachResource (.own 0) (.own 0), .accepting),
    (0, .destroyVirglContextEx (.own 0), .accepting),
    (1, .submitVirglCommandsEx (.own 0) (some 64), .accepting),
    (0, .resourceUnref (.own 0), .accepting),
    (1, .transferFromHost3D (.own 0) (.own 0), .accepting),
    (1, .resourceUnref (.own 0), .accepting)]

theorem sideBySide_separated : Separated displayHost true 1 1 sideBySide :=
  separated_of_stepOk displayHost true 1 1 sideBySide (by decide)

/-- Client 1 has a resource, client 0 guesses its id and has it unreferenced, and
client 1 finds it gone. -/
theorem guessed_resource_unreferenced :
    ¬ Separated displayHost true 1 1
      [(1, .createResource3DEx (.raw 0) plainTexture, .accepting),
        (0, .resourceUnref (.raw 0x100), .accepting),
        (1, .attachBackingUser (.own 0) 0x4000 0x1000, .accepting)] := by
  intro h
  let m := machine displayHost true 1
  have hboth : ((m.run m.init [(1, .createResource3DEx (.raw 0) plainTexture, .accepting),
      (0, .resourceUnref (.raw 0x100), .accepting),
      (1, .attachBackingUser (.own 0) 0x4000 0x1000, .accepting)]).map fun s => s.returned 1) =
        some [.success, .error] := by decide
  have halone : ((m.run m.init [(1, .createResource3DEx (.raw 0) plainTexture, .accepting),
      (1, .attachBackingUser (.own 0) 0x4000 0x1000, .accepting)]).map fun s => s.returned 1) =
        some [.success, .success] := by decide
  obtain ⟨s, hs, hreturned⟩ := Option.map_eq_some_iff.mp hboth
  obtain ⟨t, ht, hsame⟩ := h s hs
  obtain ⟨t', ht', halone⟩ := Option.map_eq_some_iff.mp halone
  obtain rfl : t = t' := Option.some.inj (ht.symm.trans ht')
  have hret := hsame.returned
  rw [hreturned, halone] at hret
  cases hret

end WinsysRun
end VMQemuVGA
