import Mathlib.Logic.Function.Basic
import VMQemuVGA.Lib.Machine
import VMQemuVGA.Gpu.Device

/-! # Context ids

Rendering contexts get their ids from four places: `m_next_context_id`, the
function-static counter of `createVirglContextEx`, and the fixed ids of two
probes. Nothing tells one of them what another has handed out, so a
`CTX_CREATE` can name a context that is live. This module says exactly when. -/

namespace VMQemuVGA

/-- `PROBE_CTX` of `probeTransport3D`. -/
def transportCtx : Nat := 0xFFFB

/-- `PROBE_CTX` of `probeAttachBackingUser`. -/
def attachCtx : Nat := 0xFFF9

/-- `PROBE_BUF_SIZE` of `probeAttachBackingUser`. -/
def probeBufSize : Nat := 64 * 64 * 4

/-! ## Calls -/

/-- How far a probe has come: `created` while its context exists and the call
that made it is under way, `held` between its two phases. -/
inductive ProbeState where
  | idle
  | created
  | held
  deriving DecidableEq, Repr

structure CtxRun where
  gpu : Gpu
  /-- `probeTransport3D`, with `phase_b_reached` -/
  transport : ProbeState
  /-- `probeAttachBackingUser` of each client, with `m_probe_in_progress` -/
  probe : Nat → ProbeState
  /-- some context counter has run past `UINT32_MAX` -/
  wrapped : Bool

/-- What can happen, in any order. Of the probes only the commands about their
context are followed; each is cut where it gives up the queue with its context
alive. `hostLate` is the host executing a command whose caller timed out. -/
inductive CtxCall where
  | createRenderContext
  | destroyRenderContext (ctx : Nat)
  | destroy3DContext (ctx : Nat)
  | createVirglContextEx
  | destroyVirglContextEx (ctx : Nat)
  | transportBegin
  | transportEnd
  | probeBegin (client addr len : Nat)
  | probeHold (client : Nat)
  | probeEnd (client : Nat)
  | hostLate
  deriving DecidableEq, Repr

namespace CtxRun

def withGpu (s : CtxRun) (g : Gpu) : CtxRun := { s with gpu := g }

def setProbe (s : CtxRun) (client : Nat) (p : ProbeState) : CtxRun :=
  { s with probe := Function.update s.probe client p }

/-- Phases A and B of `probeTransport3D`. -/
def transportBegin (e : Env) (s : CtxRun) : CtxRun :=
  if s.gpu.ready = false ∨ s.gpu.supports3D = false then s else
  let (ret, g) := s.gpu.submitCommand e (.ctxCreate transportCtx)
  if ret ≠ .success ∨ (e.ask (.ctxCreate transportCtx)).type ≠ respOkNodata then s.withGpu g
  else { s with gpu := g, transport := .created }

/-- Step A of `probeAttachBackingUser` phase 1, behind its checks. -/
def probeBegin (e : Env) (s : CtxRun) (client addr len : Nat) : CtxRun :=
  if s.probe client = .held then s
  else if len ≠ probeBufSize ∨ addr = 0 then s else
  let (ret, g) := s.gpu.submitCommand e (.ctxCreate attachCtx)
  if ret ≠ .success then s.withGpu g else (s.withGpu g).setProbe client .created

/-- The cleanup of phase 1, phase 2, or the cleanup of a dying client. -/
def probeEnd (e : Env) (s : CtxRun) (client : Nat) : CtxRun :=
  (s.withGpu (s.gpu.submitCommand e (.ctxDestroy attachCtx)).2).setProbe client .idle

def step (s : CtxRun) : CtxCall × Env → Option CtxRun
  | (.createRenderContext, e) => some (s.withGpu (s.gpu.createRenderContext e).2)
  | (.destroyRenderContext ctx, e) => some (s.withGpu (s.gpu.destroyRenderContext e ctx).2)
  | (.destroy3DContext ctx, e) => some (s.withGpu (s.gpu.destroy3DContext e ctx).2)
  | (.createVirglContextEx, e) => some (s.withGpu (s.gpu.createVirglContextEx e).2)
  | (.destroyVirglContextEx ctx, e) => some (s.withGpu (s.gpu.destroyVirglContextEx e ctx).2)
  | (.transportBegin, e) => if s.transport = .idle then some (s.transportBegin e) else none
  | (.transportEnd, e) =>
      if s.transport = .created then
        some { s with gpu := (s.gpu.destroy3DContext e transportCtx).2, transport := .idle }
      else none
  | (.probeBegin client addr len, e) =>
      if s.probe client = .created then none else some (s.probeBegin e client addr len)
  | (.probeHold client, _) =>
      if s.probe client = .created then some (s.setProbe client .held) else none
  | (.probeEnd client, e) =>
      if s.probe client = .idle then none else some (s.probeEnd e client)
  | (.hostLate, _) => s.gpu.link.execLate.map fun l => s.withGpu { s.gpu with link := l }

/-- Note a counter that came out smaller than it went in. -/
def noteWrap (s t : CtxRun) : CtxRun :=
  { t with wrapped := s.wrapped || decide (t.gpu.nextContextId < s.gpu.nextContextId) ||
      decide (t.gpu.nextExContextId < s.gpu.nextExContextId) }

def machine (supports3D : Bool) (maxScanouts : Nat) : Machine CtxRun (CtxCall × Env) where
  init := ⟨.init supports3D maxScanouts, .idle, fun _ => .idle, false⟩
  step := fun s c => (s.step c).map s.noteWrap

/-! ## What a call does to the link -/

/-- The id a call sends `CTX_CREATE` for, if it gets that far. -/
def creates (s : CtxRun) : CtxCall → Option Nat
  | .createRenderContext =>
      if s.gpu.supports3D = true then some (inc32 s.gpu.nextContextId) else none
  | .createVirglContextEx => some s.gpu.nextExContextId
  | .transportBegin =>
      if s.gpu.ready = true ∧ s.gpu.supports3D = true then some transportCtx else none
  | .probeBegin client addr len =>
      if s.probe client ≠ .held ∧ len = probeBufSize ∧ addr ≠ 0 then some attachCtx else none
  | _ => none

/-- No context is created and none of them clashes. -/
def Quiet (l l' : Link) : Prop := l'.clashes = l.clashes ∧ ∀ c, l'.Mentions c → l.Mentions c

/-- A call either publishes one `CTX_CREATE` or leaves the link quiet. -/
def LinkStep (l l' : Link) (e : Env) : Option Nat → Prop
  | some id => l' = l.send (.ctxCreate id) (e.ask (.ctxCreate id))
  | none => Quiet l l'

theorem quiet_refl (l : Link) : Quiet l l := ⟨rfl, fun _ h => h⟩

theorem quiet_ctxDestroy (l : Link) (ctx : Nat) (a : Answer) :
    Quiet l (l.send (.ctxDestroy ctx) a) := by
  refine ⟨?_, fun c h => ?_⟩
  · rw [Link.clashes_send]
    simp [Link.clash]
  · exact (Link.Mentions.of_send h).resolve_right HostCmd.noConfusion

theorem quiet_destroyRenderContext (e : Env) (g : Gpu) (ctx : Nat) :
    Quiet g.link (g.destroyRenderContext e ctx).2.link := by
  unfold Gpu.destroyRenderContext
  split
  · exact quiet_refl _
  split
  · exact quiet_refl _
  dsimp only [Gpu.submitCommand]
  split
  · exact quiet_ctxDestroy ..
  · exact quiet_ctxDestroy ..

theorem quiet_destroy3DContext (e : Env) (g : Gpu) (ctx : Nat) :
    Quiet g.link (g.destroy3DContext e ctx).2.link := by
  unfold Gpu.destroy3DContext
  split
  · exact quiet_refl _
  split
  · exact quiet_refl _
  · exact quiet_ctxDestroy ..

theorem linkStep_createRenderContext (e : Env) (s : CtxRun) :
    LinkStep s.gpu.link (s.gpu.createRenderContext e).2.link e
      (s.creates .createRenderContext) := by
  unfold Gpu.createRenderContext
  by_cases h3 : s.gpu.supports3D = false
  · have hc : s.creates .createRenderContext = none := if_neg (by simp [h3])
    rw [hc, if_pos h3]
    exact quiet_refl _
  · have hc : s.creates .createRenderContext = some (inc32 s.gpu.nextContextId) :=
      if_pos (by simpa using h3)
    rw [hc, if_neg h3]
    rfl

theorem linkStep_transportBegin (e : Env) (s : CtxRun) :
    LinkStep s.gpu.link (s.transportBegin e).gpu.link e (s.creates .transportBegin) := by
  unfold transportBegin
  by_cases hready : s.gpu.ready = false ∨ s.gpu.supports3D = false
  · have hc : s.creates .transportBegin = none := by
      refine if_neg fun h => ?_
      rw [h.1, h.2] at hready
      simp at hready
    rw [hc, if_pos hready]
    exact quiet_refl _
  · have hc : s.creates .transportBegin = some transportCtx :=
      if_pos (by simpa only [not_or, Bool.not_eq_false] using hready)
    rw [hc, if_neg hready]
    dsimp only [Gpu.submitCommand]
    split
    · rfl
    · rfl

theorem linkStep_probeBegin (e : Env) (s : CtxRun) (client addr len : Nat) :
    LinkStep s.gpu.link (s.probeBegin e client addr len).gpu.link e
      (s.creates (.probeBegin client addr len)) := by
  unfold probeBegin
  by_cases hheld : s.probe client = .held
  · have hc : s.creates (.probeBegin client addr len) = none := if_neg fun h => h.1 hheld
    rw [hc, if_pos hheld]
    exact quiet_refl _
  by_cases hargs : len ≠ probeBufSize ∨ addr = 0
  · have hc : s.creates (.probeBegin client addr len) = none :=
      if_neg fun h => hargs.elim (· h.2.1) h.2.2
    rw [hc, if_neg hheld, if_pos hargs]
    exact quiet_refl _
  · have hc : s.creates (.probeBegin client addr len) = some attachCtx := by
      rw [not_or, not_not] at hargs
      exact if_pos ⟨hheld, hargs⟩
    rw [hc, if_neg hheld, if_neg hargs]
    dsimp only [Gpu.submitCommand]
    split
    · rfl
    · rfl

/-! ## Where live ids come from -/

/-- Every context the host has or will have was drawn from one of the four
places. -/
structure Origins (s : CtxRun) : Prop where
  ex_start : 0x100 ≤ s.gpu.nextExContextId
  origin : ∀ c, s.gpu.link.Mentions c → c ≤ s.gpu.nextContextId ∨
    (0x100 ≤ c ∧ c < s.gpu.nextExContextId) ∨ c = transportCtx ∨ c = attachCtx

/-- `m_next_context_id` after a call. -/
def renderAfter (s : CtxRun) : CtxCall → Nat
  | .createRenderContext =>
      if s.gpu.supports3D = true then inc32 s.gpu.nextContextId else s.gpu.nextContextId
  | _ => s.gpu.nextContextId

/-- The counter of `createVirglContextEx` after a call. -/
def exAfter (s : CtxRun) : CtxCall → Nat
  | .createVirglContextEx => inc32 s.gpu.nextExContextId
  | _ => s.gpu.nextExContextId

/-- Both counters of `g'` are those of `g`. -/
def SameCounters (g g' : Gpu) : Prop :=
  g'.nextContextId = g.nextContextId ∧ g'.nextExContextId = g.nextExContextId

theorem sameCounters_destroyRenderContext (e : Env) (g : Gpu) (ctx : Nat) :
    SameCounters g (g.destroyRenderContext e ctx).2 := by
  unfold Gpu.destroyRenderContext
  split
  · exact ⟨rfl, rfl⟩
  split
  · exact ⟨rfl, rfl⟩
  dsimp only [Gpu.submitCommand]
  split
  · exact ⟨rfl, rfl⟩
  · exact ⟨rfl, rfl⟩

theorem sameCounters_destroy3DContext (e : Env) (g : Gpu) (ctx : Nat) :
    SameCounters g (g.destroy3DContext e ctx).2 := by
  unfold Gpu.destroy3DContext
  split
  · exact ⟨rfl, rfl⟩
  split
  · exact ⟨rfl, rfl⟩
  · exact ⟨rfl, rfl⟩

theorem sameCounters_transportBegin (e : Env) (s : CtxRun) :
    SameCounters s.gpu (s.transportBegin e).gpu := by
  unfold transportBegin
  split
  · exact ⟨rfl, rfl⟩
  dsimp only [Gpu.submitCommand]
  split
  · exact ⟨rfl, rfl⟩
  · exact ⟨rfl, rfl⟩

theorem sameCounters_probeBegin (e : Env) (s : CtxRun) (client addr len : Nat) :
    SameCounters s.gpu (s.probeBegin e client addr len).gpu := by
  unfold probeBegin
  split
  · exact ⟨rfl, rfl⟩
  split
  · exact ⟨rfl, rfl⟩
  dsimp only [Gpu.submitCommand]
  split
  · exact ⟨rfl, rfl⟩
  · exact ⟨rfl, rfl⟩

theorem counters_createRenderContext (e : Env) (s : CtxRun) :
    (s.gpu.createRenderContext e).2.nextContextId = s.renderAfter .createRenderContext ∧
      (s.gpu.createRenderContext e).2.nextExContextId = s.gpu.nextExContextId := by
  unfold Gpu.createRenderContext
  by_cases h3 : s.gpu.supports3D = false
  · rw [if_pos h3]
    exact ⟨(if_neg (by simp [h3])).symm, rfl⟩
  · rw [if_neg h3]
    exact ⟨(if_pos (by simpa using h3)).symm, rfl⟩

/-- **One call**, as the link and the two counters see it. -/
theorem effect_of_step {s t : CtxRun} {c : CtxCall × Env} (h : s.step c = some t) :
    LinkStep s.gpu.link t.gpu.link c.2 (s.creates c.1) ∧
      t.gpu.nextContextId = s.renderAfter c.1 ∧ t.gpu.nextExContextId = s.exAfter c.1 := by
  obtain ⟨call, e⟩ := c
  cases call with
  | createRenderContext =>
      cases h
      exact ⟨linkStep_createRenderContext e s, counters_createRenderContext e s⟩
  | destroyRenderContext ctx =>
      cases h
      exact ⟨quiet_destroyRenderContext e s.gpu ctx, sameCounters_destroyRenderContext e s.gpu ctx⟩
  | destroy3DContext ctx =>
      cases h
      exact ⟨quiet_destroy3DContext e s.gpu ctx, sameCounters_destroy3DContext e s.gpu ctx⟩
  | createVirglContextEx =>
      cases h
      exact ⟨rfl, rfl, rfl⟩
  | destroyVirglContextEx ctx =>
      cases h
      exact ⟨quiet_ctxDestroy .., rfl, rfl⟩
  -- what is left happens only in the right state of the probes
  | transportBegin =>
      simp only [step, Option.ite_none_right_eq_some, Option.some.injEq] at h
      obtain ⟨-, rfl⟩ := h
      exact ⟨linkStep_transportBegin e s, sameCounters_transportBegin e s⟩
  | transportEnd =>
      simp only [step, Option.ite_none_right_eq_some, Option.some.injEq] at h
      obtain ⟨-, rfl⟩ := h
      exact ⟨quiet_destroy3DContext e s.gpu transportCtx,
        sameCounters_destroy3DContext e s.gpu transportCtx⟩
  | probeBegin client addr len =>
      simp only [step, Option.ite_none_left_eq_some, Option.some.injEq] at h
      obtain ⟨-, rfl⟩ := h
      exact ⟨linkStep_probeBegin e s client addr len, sameCounters_probeBegin e s client addr len⟩
  | probeHold client =>
      simp only [step, Option.ite_none_right_eq_some, Option.some.injEq] at h
      obtain ⟨-, rfl⟩ := h
      exact ⟨quiet_refl _, rfl, rfl⟩
  | probeEnd client =>
      simp only [step, Option.ite_none_left_eq_some, Option.some.injEq] at h
      obtain ⟨-, rfl⟩ := h
      exact ⟨quiet_ctxDestroy .., rfl, rfl⟩
  | hostLate =>
      simp only [step, Option.map_eq_some_iff] at h
      obtain ⟨l, hl, rfl⟩ := h
      exact ⟨⟨Link.clashes_execLate hl, fun c hc => hc.of_execLate hl⟩, rfl, rfl⟩

/-- The counter a call draws from does not wrap. -/
def Unwrapped (s : CtxRun) : CtxCall → Prop
  | .createRenderContext => s.gpu.nextContextId + 1 < u32
  | .createVirglContextEx => s.gpu.nextExContextId + 1 < u32
  | _ => True

/-- Where the id a call draws lies, once it is drawn. -/
theorem place_of_creates {s : CtxRun} {call : CtxCall} {id : Nat}
    (h : s.creates call = some id) :
    call = .createRenderContext ∧ id = inc32 s.gpu.nextContextId ∧ id = s.renderAfter call ∨
    call = .createVirglContextEx ∧ id = s.gpu.nextExContextId ∨
    (call = .transportBegin ∨ ∃ client addr len, call = .probeBegin client addr len) ∧
      (id = transportCtx ∨ id = attachCtx) := by
  cases call with
  | createRenderContext =>
      simp only [creates, Option.ite_none_right_eq_some, Option.some.injEq] at h
      exact Or.inl ⟨rfl, h.2.symm, h.2 ▸ (if_pos h.1).symm⟩
  | createVirglContextEx =>
      cases h
      exact Or.inr (Or.inl ⟨rfl, rfl⟩)
  | transportBegin =>
      simp only [creates, Option.ite_none_right_eq_some, Option.some.injEq] at h
      exact Or.inr (Or.inr ⟨Or.inl rfl, Or.inl h.2.symm⟩)
  | probeBegin client addr len =>
      simp only [creates, Option.ite_none_right_eq_some, Option.some.injEq] at h
      exact Or.inr (Or.inr ⟨Or.inr ⟨client, addr, len, rfl⟩, Or.inr h.2.symm⟩)
  | _ => cases h

/-- A draw that wraps shows: the counter comes out smaller. -/
theorem unwrapped_of_not_lt {n : Nat} (hlt : n < u32) (h : ¬ inc32 n < n) : n + 1 < u32 := by
  by_contra hc
  have heq : n + 1 = u32 := by omega
  apply h
  rw [inc32, heq, Nat.mod_self]
  have := u32_eq
  omega

theorem step_origins {s t : CtxRun} {c : CtxCall × Env} (ho : s.Origins)
    (hr : s.gpu.nextContextId ≤ t.gpu.nextContextId)
    (hx : s.gpu.nextExContextId ≤ t.gpu.nextExContextId)
    (hux : c.1 = .createVirglContextEx → s.Unwrapped c.1)
    (h : s.step c = some t) : t.Origins := by
  obtain ⟨hlink, hrender, hex⟩ := effect_of_step h
  refine ⟨Nat.le_trans ho.ex_start hx, fun c' hc' => ?_⟩
  have hold : s.gpu.link.Mentions c' ∨ s.creates c.1 = some c' := by
    cases hcr : s.creates c.1 with
    | none =>
        rw [hcr] at hlink
        exact Or.inl (hlink.2 c' hc')
    | some id =>
        rw [hcr] at hlink
        rw [hlink] at hc'
        refine (hc'.of_send).imp_right fun hcmd => ?_
        cases hcmd
        rfl
  rcases hold with hm | hdraw
  · have := ho.origin c' hm
    omega
  rcases place_of_creates hdraw with ⟨-, -, hid⟩ | ⟨hcall, hid⟩ | ⟨-, hid⟩
  · exact Or.inl (Nat.le_of_eq (hid.trans hrender.symm))
  · have hstart := ho.ex_start
    have hsucc := hux hcall
    rw [hcall] at hsucc hex
    have := inc32_eq_succ hsucc
    refine Or.inr (Or.inl ⟨by omega, ?_⟩)
    rw [hex, hid]
    show s.gpu.nextExContextId < inc32 s.gpu.nextExContextId
    omega
  · exact Or.inr (Or.inr hid)

/-- The counters are 32 bits wide, and until one wraps `Origins` holds. -/
structure CounterInv (s : CtxRun) : Prop where
  render_lt : s.gpu.nextContextId < u32
  ex_lt : s.gpu.nextExContextId < u32
  origins : s.wrapped = false → s.Origins

theorem step_counterInv (s : CtxRun) (c : CtxCall × Env) (t : CtxRun) (hi : s.CounterInv)
    (h : s.step c = some t) : (s.noteWrap t).CounterInv := by
  obtain ⟨-, hrender, hex⟩ := effect_of_step h
  refine ⟨?_, ?_, fun hw => ?_⟩
  · show t.gpu.nextContextId < u32
    rw [hrender]
    unfold renderAfter
    split
    · split
      · exact inc32_lt _
      · exact hi.render_lt
    · exact hi.render_lt
  · show t.gpu.nextExContextId < u32
    rw [hex]
    unfold exAfter
    split
    · exact inc32_lt _
    · exact hi.ex_lt
  · simp only [noteWrap, Bool.or_eq_false_iff, decide_eq_false_iff_not, Nat.not_lt] at hw
    obtain ⟨⟨hw, hr⟩, hx⟩ := hw
    have ht := step_origins (hi.origins hw) hr hx (fun hcall => ?_) h
    · exact ⟨ht.ex_start, ht.origin⟩
    · rw [hex, hcall] at hx
      rw [hcall]
      exact unwrapped_of_not_lt hi.ex_lt (Nat.not_lt.mpr hx)

/-! ## Clashes -/

/-- No `CTX_CREATE` was published for a context the host had. -/
def NoClash (s : CtxRun) : Prop := s.gpu.link.clashes = []

/-- The id a call draws may be that of a context from another place:
`createRenderContext` against the other counter's range and the probes,
`createVirglContextEx` against the first counter's range and the probes, a
probe against its own fixed id; and anything once a counter wraps. -/
def MeetsOther (s : CtxRun) (call : CtxCall) (id : Nat) : Prop :=
  s.wrapped = true ∨ ¬ s.Unwrapped call ∨ id = transportCtx ∨ id = attachCtx ∨
    match call with
    | .createRenderContext => 0x100 ≤ id ∧ id < s.gpu.nextExContextId
    | .createVirglContextEx => id ≤ s.gpu.nextContextId
    | _ => False

/-- Where a call draws an id from another place's range, the context of that
id has been destroyed, or never existed. -/
def Apart (s : CtxRun) (c : CtxCall × Env) : Prop :=
  ∀ id, s.creates c.1 = some id → (c.2.ask (.ctxCreate id)).published = true →
    s.MeetsOther c.1 id → id ∉ s.gpu.link.host.contexts

/-- A counter never meets its own contexts before it wraps. -/
theorem meetsOther_of_live {s : CtxRun} {call : CtxCall} {id : Nat} (hi : s.CounterInv)
    (hid : s.creates call = some id) (hlive : id ∈ s.gpu.link.host.contexts) :
    s.MeetsOther call id := by
  unfold MeetsOther
  cases hw : s.wrapped with
  | true => exact Or.inl rfl
  | false =>
      by_cases hu : s.Unwrapped call
      swap
      · exact Or.inr (Or.inl hu)
      have horigin := (hi.origins hw).origin id (Or.inl hlive)
      rcases place_of_creates hid with ⟨rfl, hdraw, -⟩ | ⟨rfl, hdraw⟩ | ⟨-, hdraw⟩
      · have hnext := inc32_eq_succ (n := s.gpu.nextContextId) hu
        dsimp only
        omega
      · dsimp only
        omega
      · exact Or.inr (Or.inr (hdraw.imp_right Or.inl))

theorem step_noClash_iff (s : CtxRun) (c : CtxCall × Env) (t : CtxRun) (hi : s.CounterInv)
    (hn : s.NoClash) (h : s.step c = some t) : (s.noteWrap t).NoClash ↔ s.Apart c := by
  obtain ⟨hlink, -, -⟩ := effect_of_step h
  show t.gpu.link.clashes = [] ↔ s.Apart c
  unfold NoClash at hn
  cases hcr : s.creates c.1 with
  | none =>
      rw [hcr] at hlink
      exact iff_of_true (hlink.1.trans hn) fun id hid => by rw [hcr] at hid; cases hid
  | some id =>
      rw [hcr] at hlink
      rw [hlink, Link.clashes_send, hn, List.nil_append]
      cases hpub : (c.2.ask (.ctxCreate id)).published with
      | false =>
          refine iff_of_true rfl fun id' hid' hpub' => ?_
          rw [hcr] at hid'
          cases hid'
          rw [hpub] at hpub'
          cases hpub'
      | true =>
          simp only [if_true, Link.clash, ite_eq_right_iff, reduceCtorEq, imp_false]
          constructor
          · intro hlive id' hid' _ _
            rw [hcr] at hid'
            cases hid'
            exact hlive
          · exact fun hall hlive => hall id hcr hpub (meetsOther_of_live hi hcr hlive) hlive

/-- **Context ids clash exactly where two of the four places meet.** No
`CTX_CREATE` of a run names a live context if and only if every call that draws
an id from another place's range, or after a counter has wrapped, finds that
context gone. -/
theorem always_noClash_iff (supports3D : Bool) (maxScanouts : Nat)
    (calls : List (CtxCall × Env)) :
    (machine supports3D maxScanouts).Always NoClash (machine supports3D maxScanouts).init calls ↔
      (machine supports3D maxScanouts).Along Apart (machine supports3D maxScanouts).init calls := by
  have hinit : (machine supports3D maxScanouts).init.CounterInv := by
    have hone : 1 < u32 := by decide
    have hex : 0x100 < u32 := by decide
    refine ⟨hone, hex, fun _ => ⟨Nat.le_refl _, fun c hc => ?_⟩⟩
    rcases hc with hc | hc
    · cases hc
    · cases hc
  refine (machine supports3D maxScanouts).always_iff_along (J := CounterInv)
    (fun s c t hi h => ?_) (fun s c t hi hn h => ?_) hinit rfl
  · obtain ⟨t', ht', rfl⟩ := Option.map_eq_some_iff.mp h
    exact step_counterInv s c t' hi ht'
  · obtain ⟨t', ht', rfl⟩ := Option.map_eq_some_iff.mp h
    exact step_noClash_iff s c t' hi hn ht'

/-- Two clients probe at the same time: the second creates context 0xFFF9 while
the first one's is live. -/
theorem probes_clash :
    ¬ (machine true 1).Always NoClash (machine true 1).init
      [(.probeBegin 0 0x7000 16384, .accepting), (.probeHold 0, .accepting),
        (.probeBegin 1 0x9000 16384, .accepting)] := by
  intro h
  have hrun : ((machine true 1).run (machine true 1).init
      [(.probeBegin 0 0x7000 16384, .accepting), (.probeHold 0, .accepting),
        (.probeBegin 1 0x9000 16384, .accepting)]).any
      (fun s => decide (s.gpu.link.clashes = [attachCtx])) = true := by
    decide
  obtain ⟨s, hn, hclash⟩ := h.of_any _ hrun
  rw [decide_eq_true_eq, hn] at hclash
  cases hclash

end CtxRun
end VMQemuVGA
