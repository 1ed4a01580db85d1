import VMQemuVGA.UserClient.Probes

/-! # Runs of the backing probe

Between calls the host should be as the probes found it, or have exactly the one probe
that a client has under way. This module says which calls keep it so, whatever the order
in which clients probe, close and die, and when the host never lists a page that is not
wired, not even in the middle of a call. -/

namespace VMQemuVGA
namespace ProbeRun
variable {s t : ProbeRun} {h : Host} {e : Env} {client : Nat}

/-! ## What is asked of a run -/

/-- Between calls the host is as it was without a probe (`h`), or one client has a probe
and the host has the context, the resource and the list into the pages of that client
besides, with these pages wired. -/
inductive Settled (h : Host) (s : ProbeRun) : Prop
  | idle (none : ∀ c, s.probe c = none) (host : s.host = h)
  | busy (client : Nat) (d : UserDescriptor) (mine : s.probe client = some d)
      (others : ∀ c, c ≠ client → s.probe c = none) (wired : d.serial ∈ s.wired)
      (host : s.host = h.probed (some (d.pages client)))

/-- The client whose probe has to be over when the call is. -/
def ends : ProbeCall → Option Nat
  | .probeAttachBackingUser client phase _ _ => if phase = 2 then some client else none
  | .clientClose client => some client
  | .clientDied client => some client
  | .free client => some client
  | .stop _ => none
  | .hostLate => none

/-- The call leaves the clients and the host settled, and is the end of the probe it has to
be the end of. -/
def Right (h : Host) (s : ProbeRun) (call : ProbeCall × Env) : Prop :=
  ∀ t, step s call = some t → Settled h t ∧ ∀ c, ends call.1 = some c → t.probe c = none

/-- The same, and at no moment of the call does the host list pages that are not wired. -/
def RightThroughout (h : Host) (s : ProbeRun) (call : ProbeCall × Env) : Prop :=
  Right h s call ∧ ∀ t, step s call = some t → t.exposed = false

/-! ### Conditions on the calls -/

/-- Phase 1 gets as far as a context of its own. -/
def Starts (s : ProbeRun) (e : Env) (client addr len : Nat) : Prop :=
  s.device client = true ∧ s.probe client = none ∧ len = probeBufSize ∧ addr ≠ 0 ∧
    attachCtx ∉ s.host.contexts ∧ (e.ask (.ctxCreate attachCtx)).ret = .success

/-- Its pages are described and attached. -/
def Attaches (s : ProbeRun) (e : Env) (client addr len : Nat) (memory : MemoryDescriptor) : Prop :=
  describeProbe e addr len = .ok memory ∧
    (e.ask (probeAttachCmd client ⟨s.nextSerial, memory⟩)).ret = .success

def Transfers (e : Env) : Prop := (e.ask (.transferToHost3D attachCtx attachRes)).ret = .success

instance (e : Env) : Decidable (Transfers e) := inferInstanceAs (Decidable (_ = _))

/-- Phase 1 takes down what it has made, unless it gets through. -/
def Unwinds (s : ProbeRun) (e : Env) (client addr len : Nat) : Prop :=
  s.Starts e client addr len →
    ((e.ask probeCreateCmd).ret ≠ .success → (e.ask (.ctxDestroy attachCtx)).ret = .success) ∧
    ((e.ask probeCreateCmd).ret = .success →
      (∃ memory, s.Attaches e client addr len memory ∧ Transfers e) ∨ Removes e)

/-- A probe that ends does so with the device still there, and is taken down. -/
def EndsClean (s : ProbeRun) (e : Env) (client : Nat) : Prop :=
  s.probe client ≠ none → s.device client = true ∧ Removes e

/-- The call leaves no trace of a probe behind. A command executed late must come too late
to change anything. -/
def Meets (s : ProbeRun) : ProbeCall × Env → Prop
  | (.probeAttachBackingUser client phase addr len, e) =>
      (phase = 1 → s.Unwinds e client addr len) ∧ (phase = 2 → s.EndsClean e client)
  | (.clientClose client, e) => s.EndsClean e client
  | (.clientDied client, e) => s.EndsClean e client
  | (.free client, e) => s.EndsClean e client
  | (.stop _, _) => True
  | (.hostLate, _) => ∀ cmd, s.gpu.link.pending.head? = some cmd → s.host.exec cmd = s.host

/-- No phase 1 fails behind the attachment. -/
def SealedPhase1 (s : ProbeRun) (e : Env) (client addr len : Nat) : Prop :=
  s.Starts e client addr len → (e.ask probeCreateCmd).ret = .success →
    (∃ memory, s.Attaches e client addr len memory) → Transfers e

/-- The call completes no descriptor whose pages are listed; so it ends no probe. -/
def Sealed (s : ProbeRun) : ProbeCall × Env → Prop
  | (.probeAttachBackingUser client phase addr len, e) =>
      (phase = 1 → s.SealedPhase1 e client addr len) ∧ (phase = 2 → s.probe client = none)
  | (.clientClose client, _) => s.probe client = none
  | (.clientDied client, _) => s.probe client = none
  | (.free client, _) => s.probe client = none
  | (.stop _, _) => True
  | (.hostLate, _) => True

/-! ### Settled states -/

/-- With no probe under way, settled means that the host is as before. -/
theorem settled_iff_of_idle (hnone : ∀ c, s.probe c = none) : Settled h s ↔ s.host = h := by
  constructor
  · intro hs
    cases hs with
    | idle _ hhost => exact hhost
    | busy client d hmine => exact absurd ((hnone client).symm.trans hmine) nofun
  · exact Settled.idle hnone

/-- What a client has listed for the probe's resource is wired, and is that client's probe. -/
theorem Settled.listed (hs : Settled h s) (hc : h.Clean) {list : ScatterList}
    (hlist : s.host.Lists attachRes list) :
    ∃ client d, s.probe client = some d ∧ d.serial ∈ s.wired ∧ list = d.pages client := by
  have hfree : ∀ b, (⟨attachRes, b⟩ : HostResource) ∉ h.resources := by
    intro b hmem
    exact hc.res _ hmem rfl
  unfold Host.Lists at hlist
  cases hs with
  | idle _ hhost =>
      rw [hhost] at hlist
      exact absurd hlist (hfree _)
  | busy client d hmine _ hwired hhost =>
      rw [hhost] at hlist
      refine ⟨client, d, hmine, hwired, ?_⟩
      rcases List.mem_append.mp hlist with hold | hnew
      · exact absurd hold (hfree _)
      · simpa using hnew

theorem Settled.covered (hs : Settled h s) (hc : h.Clean) : s.host.covered s.wired = true := by
  cases hs with
  | idle _ hhost =>
      rw [hhost]
      exact hc.covered
  | busy client d _ _ hwired hhost =>
      rw [hhost, Host.covered_probed hc]
      simpa [UserDescriptor.pages] using hwired

/-- What `Settled` looks at is the same. -/
structure SameProbes (s t : ProbeRun) : Prop where
  host : t.host = s.host
  probe : t.probe = s.probe
  wired : t.wired = s.wired
  exposed : t.exposed = s.exposed

theorem SameProbes.settled (hst : SameProbes s t) (hs : Settled h s) : Settled h t := by
  cases hs with
  | idle hnone hhost => exact .idle (hst.probe ▸ hnone) (hst.host.trans hhost)
  | busy client d hmine hothers hwired hhost =>
      exact .busy client d (hst.probe ▸ hmine) (hst.probe ▸ hothers) (hst.wired ▸ hwired)
        (hst.host.trans hhost)

/-! ## Phase 1 -/

theorem duplicates_ctxCreate {k : Host} :
    k.duplicates (.ctxCreate attachCtx) = true ↔ attachCtx ∈ k.contexts := by
  simp [Host.duplicates]

/-- A command the host does nothing about, or does not execute. -/
theorem sameProbes_send {cmd : HostCmd} (hcov : s.host.covered s.wired = true)
    (hhost : (s.send e cmd).2.host = s.host) : SameProbes s (s.send e cmd).2 where
  host := hhost
  probe := rfl
  wired := rfl
  exposed := by rw [exposed_send, hhost, hcov, Bool.not_true, Bool.or_false]

/-- A phase 1 that gets no context of its own changes nothing. -/
theorem sameProbes_phase1 {addr len : Nat} (hcov : s.host.covered s.wired = true)
    (hdevice : s.device client = true) (hstart : ¬ s.Starts e client addr len) :
    SameProbes s (s.phase1 e client addr len).2 := by
  have hrefl : SameProbes s s := ⟨rfl, rfl, rfl, rfl⟩
  unfold phase1
  split
  · exact hrefl
  next hprobe =>
  split
  · exact hrefl
  next hlen =>
  split
  · exact hrefl
  next haddr =>
  -- the checks are passed, so the context is refused
  have hret : (e.answer s.host (.ctxCreate attachCtx)).ret ≠ .success := by
    by_cases hdup : s.host.duplicates (.ctxCreate attachCtx) = true
    · exact answer_of_duplicate hdup
    · rw [answer_of_new (by simpa using hdup)]
      intro hret
      refine hstart ⟨hdevice, by simpa using hprobe, not_not.mp hlen, haddr, ?_, hret⟩
      exact fun hmem => hdup (duplicates_ctxCreate.mpr hmem)
  have hsend : SameProbes s (s.send e (.ctxCreate attachCtx)).2 :=
    sameProbes_send hcov (host_send_failure hret)
  simpa [send_fst, hret] using hsend

theorem covered_probed_none (hc : h.Clean) (wired : List Nat) :
    (h.probed none).covered wired = true := by
  rw [Host.covered_probed hc]
  rfl

/-- The transfers move bytes only. -/
theorem host_transferTo : (s.send e (.transferToHost3D attachCtx attachRes)).2.host = s.host :=
  (host_send rfl).trans (ite_self _)

theorem host_transferFrom :
    (s.send e (.transferFromHost3D attachCtx attachRes)).2.host = s.host :=
  (host_send rfl).trans (ite_self _)

theorem host_ctxAttach :
    (s.send e (.ctxAttachResource attachCtx attachRes)).2.host = s.host :=
  (host_send rfl).trans (ite_self _)

/-- What the attachment command leaves, from a host with the resource. -/
theorem send_attach {d : UserDescriptor} (hc : h.Clean) (hhost : s.host = h.probed none)
    (hd : d.serial = s.nextSerial) :
    (s.wire.send e (probeAttachCmd client d)).1 = (e.ask (probeAttachCmd client d)).ret ∧
    (s.wire.send e (probeAttachCmd client d)).2.exposed = s.exposed ∧
    (s.wire.send e (probeAttachCmd client d)).2.host = h.probed
      (if (e.ask (probeAttachCmd client d)).ret = .success then some (d.pages client)
        else none) := by
  have hret : (s.wire.send e (probeAttachCmd client d)).1 =
      (e.ask (probeAttachCmd client d)).ret :=
    (send_fst _).trans (congrArg Answer.ret (answer_of_new rfl))
  have hsent : (s.wire.send e (probeAttachCmd client d)).2.host = h.probed
      (if (e.ask (probeAttachCmd client d)).ret = .success then some (d.pages client)
        else none) := by
    have hexec : (h.probed none).exec (probeAttachCmd client d) =
        h.probed (some (d.pages client)) := Host.exec_attach hc none _
    rw [host_send rfl, host_wire, hhost, hexec]
    split <;> rfl
  refine ⟨hret, ?_, hsent⟩
  have hcov : (s.wire.send e (probeAttachCmd client d)).2.host.covered s.wire.wired = true := by
    rw [hsent, Host.covered_probed hc, wired_wire]
    split <;> simp [UserDescriptor.pages, hd]
  rw [exposed_send, hcov, Bool.not_true, Bool.or_false, exposed_wire]

/-- Where step E leads to, with the list of `d` on the host. -/
theorem transferProbe_spec {d : UserDescriptor} (hc : h.Clean)
    (hhost : s.host = h.probed (some (d.pages client))) (hwired : d.serial ∈ s.wired) :
    if Transfers e then
      (s.transferProbe e client d).2.probe = Function.update s.probe client (some d) ∧
      d.serial ∈ (s.transferProbe e client d).2.wired ∧
      (s.transferProbe e client d).2.host = s.host ∧
      (s.transferProbe e client d).2.exposed = s.exposed
    else
      (s.transferProbe e client d).2.probe = s.probe ∧
      ((s.transferProbe e client d).2.host = h ↔ Removes e) ∧
      (s.transferProbe e client d).2.exposed = true := by
  have hcov : s.host.covered s.wired = true := by
    rw [hhost, Host.covered_probed hc]
    simpa [UserDescriptor.pages] using hwired
  have hsame : SameProbes s (s.send e (.transferToHost3D attachCtx attachRes)).2 :=
    sameProbes_send hcov host_transferTo
  have hret : (s.send e (.transferToHost3D attachCtx attachRes)).1 =
      (e.ask (.transferToHost3D attachCtx attachRes)).ret :=
    (send_fst _).trans (congrArg Answer.ret (answer_of_new rfl))
  unfold transferProbe
  split
  · next htransfer =>
    rw [Transfers, ← hret] at htransfer
    simp only [htransfer, ne_eq, not_true_eq_false, if_false]
    exact ⟨rfl, hwired, hsame.host, hsame.exposed⟩
  -- the descriptor is completed while the list is there
  · next htransfer =>
    rw [Transfers, ← hret] at htransfer
    simp only [ne_eq, htransfer, not_false_eq_true, if_true]
    refine ⟨probe_teardown true, teardown_probed_iff hc (hsame.host.trans hhost), ?_⟩
    apply exposed_of_teardown
    rw [exposed_complete, hsame.host, hhost, Host.covered_probed hc]
    simp [UserDescriptor.pages]

/-- How a phase 1 can end once it has a context of its own: `t` is the state it leaves. -/
inductive Started (h : Host) (s : ProbeRun) (e : Env) (client addr len : Nat) (t : ProbeRun) : Prop
  | noResource (create : (e.ask probeCreateCmd).ret ≠ .success) (probe : t.probe = s.probe)
      (host : t.host = h ↔ (e.ask (.ctxDestroy attachCtx)).ret = .success)
      (exposed : t.exposed = s.exposed)
  | noPages (create : (e.ask probeCreateCmd).ret = .success)
      (attach : ∀ memory, ¬ s.Attaches e client addr len memory) (probe : t.probe = s.probe)
      (host : t.host = h ↔ Removes e) (exposed : t.exposed = s.exposed)
  | noTransfer (memory : MemoryDescriptor) (create : (e.ask probeCreateCmd).ret = .success)
      (attach : s.Attaches e client addr len memory) (transfer : ¬ Transfers e)
      (probe : t.probe = s.probe) (host : t.host = h ↔ Removes e) (exposed : t.exposed = true)
  | held (d : UserDescriptor) (create : (e.ask probeCreateCmd).ret = .success)
      (attach : s.Attaches e client addr len d.memory) (transfer : Transfers e)
      (probe : t.probe = Function.update s.probe client (some d)) (wired : d.serial ∈ t.wired)
      (host : t.host = h.probed (some (d.pages client))) (exposed : t.exposed = s.exposed)

/-- Step D and E behind the description of the memory; `r` is where phase 1 has got to. -/
theorem attachProbe_started {r : ProbeRun} {addr len : Nat} {memory : MemoryDescriptor}
    (hc : h.Clean) (hhost : r.host = h.probed none) (hprobe : r.probe = s.probe)
    (hserial : r.nextSerial = s.nextSerial) (hexposed : r.exposed = s.exposed)
    (hcreate : (e.ask probeCreateCmd).ret = .success)
    (hdescribe : describeProbe e addr len = .ok memory) :
    Started h s e client addr len (r.attachProbe e client ⟨r.nextSerial, memory⟩).2 := by
  rw [hserial]
  obtain ⟨hret, hexposed₁, hhost₁⟩ : _ ∧ _ ∧ (r.wire.send e (probeAttachCmd client
    ⟨s.nextSerial, memory⟩)).2.host = _ := send_attach hc hhost hserial.symm
  unfold attachProbe
  by_cases hattach : (e.ask (probeAttachCmd client ⟨s.nextSerial, memory⟩)).ret = .success
  · rw [if_pos hattach] at hhost₁
    have hwired : s.nextSerial ∈
        (r.wire.send e (probeAttachCmd client ⟨s.nextSerial, memory⟩)).2.wired :=
      hserial ▸ List.mem_cons_self
    have hspec := transferProbe_spec (e := e) hc hhost₁ hwired
    simp only [hret, hattach, ne_eq, not_true_eq_false, if_false]
    split at hspec
    · next htransfer =>
      obtain ⟨hp, hw, hh, hx⟩ := hspec
      refine .held ⟨s.nextSerial, memory⟩ hcreate ⟨hdescribe, hattach⟩ htransfer ?_ hw
        (hh.trans hhost₁) (hx.trans (hexposed₁.trans hexposed))
      rw [hp, ← hprobe]
      rfl
    · next htransfer =>
      obtain ⟨hp, hh, hx⟩ := hspec
      exact .noTransfer memory hcreate ⟨hdescribe, hattach⟩ htransfer (hp.trans hprobe) hh hx
  · rw [if_neg hattach] at hhost₁
    have hcov : ∀ wired, (r.wire.send e (probeAttachCmd client
        ⟨s.nextSerial, memory⟩)).2.host.covered wired = true := by
      intro wired
      rw [hhost₁]
      exact covered_probed_none hc wired
    simp only [hret, ne_eq, hattach, not_false_eq_true, if_true]
    refine .noPages hcreate ?_ ((probe_teardown true).trans hprobe)
      (teardown_probed_iff hc hhost₁) ?_
    · rintro memory' ⟨hdescribe', hattach'⟩
      obtain rfl : memory = memory' := Except.ok.inj (hdescribe.symm.trans hdescribe')
      exact hattach hattach'
    · refine (exposed_teardown true (by exact hcov _)).trans ?_
      rw [exposed_complete, hcov, Bool.not_true, Bool.or_false]
      exact hexposed₁.trans hexposed

theorem phase1_started {addr len : Nat} (hc : h.Clean) (hhost : s.host = h)
    (hstart : s.Starts e client addr len) :
    Started h s e client addr len (s.phase1 e client addr len).2 := by
  obtain ⟨-, hprobe, rfl, haddr, hnew, hctx⟩ := hstart
  have hctx' : (e.answer s.host (.ctxCreate attachCtx)).ret = .success := by
    rw [answer_of_new (by simpa [Host.duplicates] using hnew), hctx]
  have hhost₁ : (s.send e (.ctxCreate attachCtx)).2.host = h.withCtx := by
    rw [host_send_success hctx', hhost, Host.exec_ctxCreate hc]
  have hexposed₁ : (s.send e (.ctxCreate attachCtx)).2.exposed = s.exposed := by
    rw [exposed_send, hhost₁, Host.covered_withCtx, hc.covered, Bool.not_true, Bool.or_false]
  have hcreate' : e.answer h.withCtx probeCreateCmd = e.ask probeCreateCmd :=
    answer_of_new hc.hasResource
  simp only [phase1, hprobe, Option.isSome_none, Bool.false_eq_true, if_false, ne_eq,
    not_true_eq_false, haddr, send_fst, hctx', hhost₁, hcreate']
  generalize hs₁ : (s.send e (.ctxCreate attachCtx)).2 = s₁ at hhost₁ hexposed₁ ⊢
  have hprobe₁ : s₁.probe = s.probe := by rw [← hs₁]; rfl
  have hserial₁ : s₁.nextSerial = s.nextSerial := by rw [← hs₁]; rfl
  by_cases hcreate : (e.ask probeCreateCmd).ret = .success
  · have hhost₂ : (s₁.send e probeCreateCmd).2.host = h.probed none := by
      rw [host_send_success (by rw [hhost₁, hcreate', hcreate]), hhost₁, Host.exec_create hc]
    have hexposed₂ : (s₁.send e probeCreateCmd).2.exposed = s.exposed := by
      rw [exposed_send, hhost₂, covered_probed_none hc, Bool.not_true, Bool.or_false, hexposed₁]
    -- what the attachment to the context answers makes no difference
    have hsame := sameProbes_send (e := e) (s := (s₁.send e probeCreateCmd).2)
      (by rw [hhost₂]; exact covered_probed_none hc _) host_ctxAttach
    have hhost₃ := hsame.host.trans hhost₂
    have hprobe₃ := hsame.probe.trans hprobe₁
    have hexposed₃ := hsame.exposed.trans hexposed₂
    simp only [hcreate, not_true_eq_false, if_false]
    cases hdescribe : describeProbe e addr probeBufSize with
    | error ret =>
        refine .noPages hcreate ?_ ((probe_teardown true).trans hprobe₃)
          (teardown_probed_iff hc hhost₃) ?_
        · rintro memory ⟨hdescribe', -⟩
          rw [hdescribe] at hdescribe'
          exact absurd hdescribe' nofun
        · refine (exposed_teardown true ?_).trans hexposed₃
          rw [hhost₃]
          exact covered_probed_none hc _
    | ok memory =>
        exact attachProbe_started hc hhost₃ hprobe₃ hserial₁ hexposed₃ hcreate hdescribe
  · have hhost₂ : (s₁.send e probeCreateCmd).2.host = h.withCtx := by
      rw [host_send_failure (by rw [hhost₁, hcreate']; exact hcreate), hhost₁]
    have hcov₁ : s₁.host.covered s₁.wired = true := by
      rw [hhost₁, Host.covered_withCtx]
      exact hc.covered
    have hsame := sameProbes_send hcov₁ (hhost₂.trans hhost₁.symm)
    simp only [hcreate, not_false_eq_true, if_true]
    refine .noResource hcreate ((probe_teardown false).trans hprobe₁)
      (teardown_withCtx_iff hc hhost₂) ?_
    refine (exposed_teardown false ?_).trans (hsame.exposed.trans hexposed₁)
    rw [hhost₂, Host.covered_withCtx]
    exact hc.covered

/-! ## Exact conditions, call by call -/

/-- A client can start a probe only where none is under way. -/
theorem Settled.idle_of_new (hs : Settled h s) (hnew : attachCtx ∉ s.host.contexts) :
    (∀ c, s.probe c = none) ∧ s.host = h := by
  cases hs with
  | idle hnone hhost => exact ⟨hnone, hhost⟩
  | busy client d _ _ _ hhost => exact absurd (hhost ▸ List.mem_cons_self) hnew

theorem phase1_settled_iff {addr len : Nat} (hc : h.Clean) (hs : Settled h s)
    (hdevice : s.device client = true) :
    Settled h (s.phase1 e client addr len).2 ↔ s.Unwinds e client addr len := by
  unfold Unwinds
  by_cases hstart : s.Starts e client addr len
  · obtain ⟨hnone, hhost⟩ := hs.idle_of_new hstart.2.2.2.2.1
    simp only [hstart, forall_const]
    cases phase1_started hc hhost hstart with
    | noResource hcreate hprobe hdown _ =>
        rw [settled_iff_of_idle (hprobe ▸ hnone), hdown]
        simp [hcreate]
    | noPages hcreate hattach hprobe hdown _ =>
        rw [settled_iff_of_idle (hprobe ▸ hnone), hdown]
        simp [hcreate, hattach]
    | noTransfer memory hcreate _ htransfer hprobe hdown _ =>
        rw [settled_iff_of_idle (hprobe ▸ hnone), hdown]
        simp [hcreate, htransfer]
    | held d hcreate hattach htransfer hprobe hwired hhost' _ =>
        refine iff_of_true ?_ ⟨absurd hcreate, fun _ => ?_⟩
        rotate_left
        · exact Or.inl ⟨d.memory, hattach, htransfer⟩
        refine .busy client d ?_ ?_ hwired hhost'
        · rw [hprobe, Function.update_self]
        · intro c hne
          rw [hprobe, Function.update_of_ne hne, hnone]
  · have hsame := sameProbes_phase1 (hs.covered hc) hdevice hstart
    exact iff_of_true (hsame.settled hs) fun h => absurd h hstart

theorem phase1_exposed_iff {addr len : Nat} (hc : h.Clean) (hs : Settled h s)
    (hexposed : s.exposed = false) (hdevice : s.device client = true) :
    (s.phase1 e client addr len).2.exposed = false ↔ s.SealedPhase1 e client addr len := by
  unfold SealedPhase1
  by_cases hstart : s.Starts e client addr len
  · obtain ⟨hnone, hhost⟩ := hs.idle_of_new hstart.2.2.2.2.1
    simp only [hstart, forall_const]
    cases phase1_started hc hhost hstart with
    | noResource hcreate _ _ hkeep => exact iff_of_true (hkeep.trans hexposed) (absurd · hcreate)
    | noPages _ hattach _ _ hkeep =>
        refine iff_of_true (hkeep.trans hexposed) ?_
        rintro - ⟨memory, hmemory⟩
        exact absurd hmemory (hattach memory)
    | noTransfer memory hcreate hattach htransfer _ _ hexp =>
        rw [hexp]
        exact iff_of_false nofun fun h => htransfer (h hcreate ⟨memory, hattach⟩)
    | held d _ _ htransfer _ _ _ hkeep =>
        exact iff_of_true (hkeep.trans hexposed) fun _ _ => htransfer
  · have hsame := sameProbes_phase1 (hs.covered hc) hdevice hstart
    exact iff_of_true (hsame.exposed.trans hexposed) fun h => absurd h hstart

/-! ### The end of a probe -/

/-- The client's descriptor is given up and the host told, in this order. -/
theorem releaseProbe_spec {d : UserDescriptor} (hc : h.Clean)
    (hothers : ∀ c, c ≠ client → s.probe c = none)
    (hhost : s.host = h.probed (some (d.pages client))) :
    (∀ c, ((s.releaseProbe client d).teardown e true).probe c = none) ∧
    (((s.releaseProbe client d).teardown e true).host = h ↔ Removes e) ∧
    (s.releaseProbe client d).exposed = true := by
  refine ⟨fun c => ?_, teardown_probed_iff hc hhost, ?_⟩
  · rw [probe_teardown]
    by_cases heq : c = client
    · subst heq
      exact Function.update_self ..
    · exact (Function.update_of_ne heq ..).trans (hothers c heq)
  · rw [releaseProbe, exposed_setProbe, exposed_complete, hhost, Host.covered_probed hc]
    simp [UserDescriptor.pages]

theorem Settled.busy_of_some (hs : Settled h s) {d : UserDescriptor}
    (hd : s.probe client = some d) :
    (∀ c, c ≠ client → s.probe c = none) ∧ s.host = h.probed (some (d.pages client)) := by
  cases hs with
  | idle hnone _ => exact absurd ((hnone client).symm.trans hd) nofun
  | busy owner d' hmine hothers _ hhost =>
      have howner : client = owner := by
        by_contra hne
        exact absurd ((hothers client hne).symm.trans hd) nofun
      subst howner
      obtain rfl : d' = d := Option.some.inj (hmine.symm.trans hd)
      exact ⟨hothers, hhost⟩

theorem phase2_over_iff (hc : h.Clean) (hs : Settled h s) (hdevice : s.device client = true) :
    (Settled h (s.phase2 e client).2 ∧ (s.phase2 e client).2.probe client = none) ↔
      s.EndsClean e client := by
  unfold phase2 EndsClean
  cases hprobe : s.probe client with
  | none => exact iff_of_true ⟨hs, hprobe⟩ (absurd rfl)
  | some d =>
      obtain ⟨hothers, hhost⟩ := hs.busy_of_some hprobe
      obtain ⟨hnone, hdown, -⟩ := releaseProbe_spec (e := e)
        (s := (s.send e (.transferFromHost3D attachCtx attachRes)).2) hc hothers
        (host_transferFrom.trans hhost)
      simp only [settled_iff_of_idle hnone, hdown, hnone, hdevice, true_and, and_true, ne_eq,
        reduceCtorEq, not_false_eq_true, forall_const]

theorem cleanup_over_iff (hc : h.Clean) (hs : Settled h s) :
    (Settled h (s.probeAttachBackingUserCleanup e client) ∧
      (s.probeAttachBackingUserCleanup e client).probe client = none) ↔ s.EndsClean e client := by
  unfold probeAttachBackingUserCleanup EndsClean
  cases hprobe : s.probe client with
  | none => exact iff_of_true ⟨hs, hprobe⟩ (absurd rfl)
  | some d =>
      obtain ⟨hothers, hhost⟩ := hs.busy_of_some hprobe
      obtain ⟨hnone, hdown, -⟩ := releaseProbe_spec (e := e) hc hothers hhost
      have hdevice : (s.releaseProbe client d).device client = s.device client := rfl
      cases hgone : s.device client with
      | true =>
          simp only [hdevice, hgone, if_true, settled_iff_of_idle hnone, hdown, hnone, true_and,
            and_true, ne_eq, reduceCtorEq, not_false_eq_true, forall_const]
      -- nobody is told: context, resource and list stay
      | false =>
          have hnone' : ∀ c, (s.releaseProbe client d).probe c = none := by
            intro c
            rw [← hnone c, probe_teardown]
          have hleft : (s.releaseProbe client d).host ≠ h :=
            Host.ne_of_hasResource hc (hhost ▸ Host.hasResource_probed _)
          simp [hdevice, hgone, settled_iff_of_idle hnone', hleft]

/-- Phase 2 and cleanup complete the descriptor before they tell the host. -/
theorem exposed_of_ends {d : UserDescriptor} (hc : h.Clean) (hs : Settled h s)
    (hprobe : s.probe client = some d) :
    (s.probeAttachBackingUserCleanup e client).exposed = true ∧
      (s.phase2 e client).2.exposed = true := by
  obtain ⟨hothers, hhost⟩ := hs.busy_of_some hprobe
  have hcleanup := (releaseProbe_spec (e := e) hc hothers hhost).2.2
  have hphase2 := (releaseProbe_spec (e := e)
    (s := (s.send e (.transferFromHost3D attachCtx attachRes)).2) hc hothers
    (host_transferFrom.trans hhost)).2.2
  constructor
  · simp only [probeAttachBackingUserCleanup, hprobe]
    split
    · exact exposed_of_teardown hcleanup
    · exact hcleanup
  · simp only [phase2, hprobe]
    exact exposed_of_teardown hphase2

/-! ### A late command -/

theorem Settled.host_unique (hs : Settled h s) (ht : Settled h t) (hprobe : t.probe = s.probe) :
    t.host = s.host := by
  cases hs with
  | idle hnone hhost =>
      rw [hhost]
      exact (settled_iff_of_idle (hprobe ▸ hnone)).mp ht
  | busy client d hmine _ _ hhost =>
      rw [hhost]
      exact (ht.busy_of_some ((congrFun hprobe client).trans hmine)).2

theorem late_settled_iff {l : Link} (hs : Settled h s) (hlate : s.gpu.link.execLate = some l) :
    Settled h (s.setLink l) ↔
      ∀ cmd, s.gpu.link.pending.head? = some cmd → s.host.exec cmd = s.host := by
  obtain ⟨cmd, rest, hpending, rfl⟩ := Link.execLate_eq_some hlate
  simp only [hpending, List.head?_cons, Option.some.injEq, forall_eq']
  constructor
  · intro ht
    exact hs.host_unique ht rfl
  · intro hexec
    have hhost : (s.setLink { s.gpu.link with
        host := s.gpu.link.host.exec cmd
        pending := rest }).host = s.host := hexec
    cases hs with
    | idle hnone hh => exact .idle hnone (hhost.trans hh)
    | busy client d hmine hothers hwired hh =>
        exact .busy client d hmine hothers hwired (hhost.trans hh)

theorem late_exposed {l : Link} (hc : h.Clean) (hs : Settled h (s.setLink l)) :
    (s.setLink l).exposed = s.exposed := by
  have hcov : (s.setLink l).host.covered (s.setLink l).wired = true := hs.covered hc
  have hlook : (s.setLink l).exposed =
      (s.exposed || !(s.setLink l).host.covered (s.setLink l).wired) := rfl
  rw [hlook, hcov, Bool.not_true, Bool.or_false]

/-! ### Any call -/

theorem right_iff_meets (hc : h.Clean) (hs : Settled h s) {call : ProbeCall × Env}
    (hstep : step s call = some t) : Right h s call ↔ s.Meets call := by
  have hright : Right h s call ↔
      Settled h t ∧ ∀ c, ends call.1 = some c → t.probe c = none := by
    simp [Right, hstep]
  rw [hright]
  obtain ⟨call, e⟩ := call
  cases call with
  | probeAttachBackingUser client phase addr len =>
      obtain rfl := Option.some.inj hstep
      unfold probeAttachBackingUser
      cases hdevice : s.device client with
      | false =>
          simp [Meets, ends, hs, EndsClean, Unwinds, Starts, hdevice]
      | true =>
          by_cases h1 : phase = 1
          · subst h1
            simpa [Meets, ends] using phase1_settled_iff hc hs hdevice
          · by_cases h2 : phase = 2
            · subst h2
              simpa [Meets, ends] using phase2_over_iff hc hs hdevice
            · simp [Meets, ends, h1, h2, hs]
  | clientClose client =>
      obtain rfl := Option.some.inj hstep
      simpa [Meets, ends] using cleanup_over_iff hc hs
  | clientDied client =>
      obtain rfl := Option.some.inj hstep
      simpa [Meets, ends] using cleanup_over_iff hc hs
  | free client =>
      obtain rfl := Option.some.inj hstep
      simpa [Meets, ends] using cleanup_over_iff hc hs
  | stop client =>
      obtain rfl := Option.some.inj hstep
      have hsame : SameProbes s (s.stop client) := ⟨rfl, rfl, rfl, rfl⟩
      exact iff_of_true ⟨hsame.settled hs, nofun⟩ trivial
  | hostLate =>
      obtain ⟨l, hlate, rfl⟩ := Option.map_eq_some_iff.mp hstep
      simpa [Meets, ends] using late_settled_iff hs hlate

theorem exposed_iff_sealed (hc : h.Clean) (hs : Settled h s) (hexposed : s.exposed = false)
    {call : ProbeCall × Env} (hstep : step s call = some t) (hright : Right h s call) :
    t.exposed = false ↔ s.Sealed call := by
  have ht := (hright t hstep).1
  have hends : ∀ client e, (s.probeAttachBackingUserCleanup e client).exposed = false ↔
      s.probe client = none := by
    intro client e
    cases hprobe : s.probe client with
    | none => simp [probeAttachBackingUserCleanup, hprobe, hexposed]
    | some d => simp [(exposed_of_ends hc hs hprobe).1]
  obtain ⟨call, e⟩ := call
  cases call with
  | probeAttachBackingUser client phase addr len =>
      have hover := (hright t hstep).2
      obtain rfl := Option.some.inj hstep
      unfold probeAttachBackingUser at hover ⊢
      cases hdevice : s.device client with
      | false =>
          rw [hdevice, if_pos rfl] at hover
          refine iff_of_true hexposed ⟨fun _ hstart => ?_, fun h2 => ?_⟩
          · exact absurd (hdevice.symm.trans hstart.1) nofun
          · exact hover client (by simp [ends, h2])
      | true =>
          by_cases h1 : phase = 1
          · subst h1
            simpa [Sealed] using phase1_exposed_iff hc hs hexposed hdevice
          · by_cases h2 : phase = 2
            · subst h2
              cases hprobe : s.probe client with
              | none => simp [Sealed, phase2, hprobe, hexposed]
              | some d => simp [Sealed, (exposed_of_ends hc hs hprobe).2, hprobe]
            · simp [Sealed, h1, h2, hexposed]
  | clientClose client =>
      obtain rfl := Option.some.inj hstep
      exact hends client e
  | clientDied client =>
      obtain rfl := Option.some.inj hstep
      exact hends client e
  | free client =>
      obtain rfl := Option.some.inj hstep
      exact hends client e
  | stop client =>
      obtain rfl := Option.some.inj hstep
      exact iff_of_true hexposed trivial
  | hostLate =>
      obtain ⟨l, hlate, rfl⟩ := Option.map_eq_some_iff.mp hstep
      exact iff_of_true ((late_exposed hc ht).trans hexposed) trivial

/-! ## All runs -/

theorem clean_init (g : Gpu) : (init g).host.Clean where
  ctx := by
    intro hmem
    exact of_decide_eq_true (List.mem_filter.mp hmem).2 rfl
  res := by
    intro r hr
    exact of_decide_eq_true (List.mem_filter.mp hr).2

/-- **Between calls the host is as it was found, or has the one probe that a client has
under way, exactly as long as every call takes down what it has to. It lists wired pages
only, also within calls, exactly as long as no probe ends and no phase 1 fails behind the
attachment besides.** -/
theorem along_probes_iff (g : Gpu) (calls : List (ProbeCall × Env)) :
    ((machine g).Along (Right (init g).host) (init g) calls ↔
      (machine g).Along Meets (init g) calls) ∧
    ((machine g).Along (RightThroughout (init g).host) (init g) calls ↔
      (machine g).Along (fun s call => Meets s call ∧ Sealed s call) (init g) calls) := by
  have hc := clean_init g
  have hinit : Settled (init g).host (init g) := .idle (fun _ => rfl) rfl
  constructor
  · refine (machine g).along_iff_along (I := Settled (init g).host) ?_ ?_ hinit
    · intro s call t _ hright hstep
      exact (hright t hstep).1
    · intro s call t hs hstep
      exact right_iff_meets hc hs hstep
  · refine (machine g).along_iff_along
      (I := fun s => Settled (init g).host s ∧ s.exposed = false) ?_ ?_ ⟨hinit, rfl⟩
    · intro s call t _ hright hstep
      exact ⟨(hright.1 t hstep).1, hright.2 t hstep⟩
    · rintro s call t ⟨hs, hexposed⟩ hstep
      have hmeets := right_iff_meets hc hs hstep
      unfold RightThroughout
      rw [hmeets]
      refine and_congr_right fun hm => ?_
      rw [← exposed_iff_sealed hc hs hexposed hstep (hmeets.mpr hm)]
      constructor
      · intro hall
        exact hall t hstep
      · intro ht t' hstep'
        obtain rfl : t = t' := Option.some.inj (hstep.symm.trans hstep')
        exact ht

/-- A client that goes away once its provider has stopped it tells the host nothing: the
list of its pages stays, and the pages are no longer wired. And even where phase 2 gets
all its commands accepted, it unwires the pages before the host has given the list up. -/
theorem probe_left_on_host :
    ¬ (machine (.init true 1)).Along (Right (init (.init true 1)).host) (init (.init true 1))
        [(.probeAttachBackingUser 0 1 0x1000 probeBufSize, .accepting), (.stop 0, .accepting),
          (.free 0, .accepting)] ∧
    ¬ (machine (.init true 1)).Along (RightThroughout (init (.init true 1)).host)
        (init (.init true 1))
        [(.probeAttachBackingUser 0 1 0x1000 probeBufSize, .accepting),
          (.probeAttachBackingUser 0 2 0 0, .accepting)] := by
  constructor
  · intro halong
    cases (halong.2.2.1 _ rfl).1 with
    | idle _ hhost => exact absurd (congrArg Host.resources hhost) (by decide)
    | busy client d hmine _ _ _ =>
        have hupdated : Function.update (Function.update (fun _ => none) 0 _) 0 none client =
          some d := hmine
        rw [Function.update_idem] at hupdated
        by_cases hclient : client = 0
        · subst hclient
          exact absurd hupdated nofun
        · rw [Function.update_of_ne hclient] at hupdated
          exact absurd hupdated nofun
  · intro halong
    have hexposed := halong.2.1.2 _ rfl
    exact absurd hexposed (by decide)

end ProbeRun
end VMQemuVGA
