import Mathlib.Logic.Function.Basic
import VMQemuVGA.Lib.Machine
import VMQemuVGA.Gpu.ContextIds
import VMQemuVGA.UserClient.Backings

/-! # The backing probe

`probeAttachBackingUser` tests in two calls whether client memory stays wired from one
call to the next. Phase 1 makes a context and a resource under fixed ids, attaches pages
of the caller to it and returns with the descriptor still prepared; phase 2 transfers
back and takes everything down. All clients use the same two ids, on a host that rejects
the creation of an id it has. Every command of the way down can fail as well, and none
of them is tried twice. -/

namespace VMQemuVGA

/-- `PROBE_RES` of `probeAttachBackingUser`. -/
def attachRes : Nat := 0xFFF8

/-- `RESOURCE_CREATE_3D` as phase 1 fills it in. -/
def probeCreateCmd : HostCmd :=
  .resourceCreate3D attachCtx attachRes
    ⟨Gpu.target2D, 67, Gpu.bindRenderTarget, 64, 64, 1, 1, 0, 0, 0⟩

/-- The list of the pages of `d`, a descriptor of `client`. -/
def UserDescriptor.pages (client : Nat) (d : UserDescriptor) : ScatterList :=
  ⟨d.memory.wireEntries, some ⟨client, d.serial⟩⟩

/-- `RESOURCE_ATTACH_BACKING` with these pages. -/
def probeAttachCmd (client : Nat) (d : UserDescriptor) : HostCmd :=
  .resourceAttachBacking attachRes (d.pages client)

/-! ## A host that knows its ids -/

/-- `VIRTIO_GPU_RESP_ERR_UNSPEC`. -/
def respErrUnspec : Nat := 0x1200

/-- The command creates something under an id the host has. -/
def Host.duplicates (h : Host) : HostCmd → Bool
  | .ctxCreate ctx => decide (ctx ∈ h.contexts)
  | .resourceCreate2D id .. => h.hasResource id
  | .resourceCreate3D _ id _ => h.hasResource id
  | _ => false

/-- The answer of a host that accepts no id twice. -/
def Env.answer (e : Env) (h : Host) (cmd : HostCmd) : Answer :=
  if h.duplicates cmd = true ∧ (e.ask cmd).ret = .success then .reply respErrUnspec else e.ask cmd

/-- No page of a client is listed for the probe's resource, unless it is wired. -/
def Host.covered (h : Host) (wired : List Nat) : Bool :=
  h.resources.all fun r =>
    r.id ≠ attachRes || (r.backing.bind ScatterList.source).all fun src => src.serial ∈ wired

/-! ## Clients with a probe -/

structure ProbeRun where
  gpu : Gpu
  /-- `m_gpu_device` of a client is set -/
  device : Nat → Bool
  /-- `m_probe_descriptor` of a client, while `m_probe_in_progress` -/
  probe : Nat → Option UserDescriptor
  wired : List Nat
  nextSerial : Nat
  /-- there was a moment, also within a call, at which the host was not covered -/
  exposed : Bool

namespace ProbeRun

def host (s : ProbeRun) : Host := s.gpu.link.host

def look (s : ProbeRun) : ProbeRun :=
  { s with exposed := s.exposed || !s.host.covered s.wired }

/-- `sendDisplayCommand`, which passes on to `submitCommand`. -/
def send (s : ProbeRun) (e : Env) (cmd : HostCmd) : IOReturn × ProbeRun :=
  let (ret, g) := s.gpu.submitCommand { e with ask := e.answer s.host } cmd
  (ret, { s with gpu := g }.look)

/-- A new descriptor, prepared. -/
def wire (s : ProbeRun) : ProbeRun :=
  { s with wired := s.nextSerial :: s.wired, nextSerial := s.nextSerial + 1 }

/-- `complete` and `release`. -/
def complete (s : ProbeRun) (serial : Nat) : ProbeRun :=
  { s with wired := s.wired.filter fun n => n ≠ serial }.look

def setProbe (s : ProbeRun) (client : Nat) (d : Option UserDescriptor) : ProbeRun :=
  { s with probe := Function.update s.probe client d }

/-- The way down on the host: the resource, if it was made, and the context. -/
def teardown (s : ProbeRun) (e : Env) (resourceCreated : Bool) : ProbeRun :=
  let s₁ := if resourceCreated then (s.send e (.resourceUnref attachRes)).2 else s
  (s₁.send e (.ctxDestroy attachCtx)).2

/-! ### Phase 1 -/

/-- Step D up to the command: the memory described, prepared and walked. Every way out
completes and releases the descriptor, if there is one. -/
def describeProbe (e : Env) (addr len : Nat) : Except IOReturn MemoryDescriptor :=
  match e.withAddressRange addr len with
  | none => .error .noMemory
  | some d =>
      if d.prepareRet ≠ .success then .error d.prepareRet
      else if d.segments = [] ∨ d.walked ≠ d.length then .error .noMemory
      else if e.alloc .attachCommand = false then .error .noMemory
      else .ok d

/-- Step E, and the descriptor is kept. -/
def transferProbe (s : ProbeRun) (e : Env) (client : Nat) (d : UserDescriptor) :
    IOReturn × ProbeRun :=
  let (ret, s₁) := s.send e (.transferToHost3D attachCtx attachRes)
  if ret ≠ .success then (ret, (s₁.complete d.serial).teardown e true)
  else (.success, s₁.setProbe client (some d))

/-- Step D from there on. -/
def attachProbe (s : ProbeRun) (e : Env) (client : Nat) (d : UserDescriptor) :
    IOReturn × ProbeRun :=
  let (ret, s₁) := s.wire.send e (probeAttachCmd client d)
  if ret ≠ .success then (ret, (s₁.complete d.serial).teardown e true)
  else s₁.transferProbe e client d

def phase1 (s : ProbeRun) (e : Env) (client addr len : Nat) : IOReturn × ProbeRun :=
  if (s.probe client).isSome then (.busy, s)
  else if len ≠ probeBufSize then (.badArgument, s)
  else if addr = 0 then (.badArgument, s) else
  let (ret, s₁) := s.send e (.ctxCreate attachCtx)
  if ret ≠ .success then (ret, s₁) else
  let (ret, s₂) := s₁.send e probeCreateCmd
  if ret ≠ .success then (ret, s₂.teardown e false) else
  -- what the attachment to the context answers is only logged
  let s₃ := (s₂.send e (.ctxAttachResource attachCtx attachRes)).2
  match describeProbe e addr len with
  | .error ret => (ret, s₃.teardown e true)
  | .ok memory => s₃.attachProbe e client ⟨s₃.nextSerial, memory⟩

/-! ### Phase 2 and cleanup -/

/-- The descriptor is given up before the host is told. -/
def releaseProbe (s : ProbeRun) (client : Nat) (d : UserDescriptor) : ProbeRun :=
  (s.complete d.serial).setProbe client none

def phase2 (s : ProbeRun) (e : Env) (client : Nat) : IOReturn × ProbeRun :=
  match s.probe client with
  | none => (.notReady, s)
  | some d =>
      let (ret, s₁) := s.send e (.transferFromHost3D attachCtx attachRes)
      (ret, (s₁.releaseProbe client d).teardown e true)

def probeAttachBackingUser (s : ProbeRun) (e : Env) (client phase addr len : Nat) :
    IOReturn × ProbeRun :=
  if s.device client = false then (.notReady, s)
  else if phase = 1 then s.phase1 e client addr len
  else if phase = 2 then s.phase2 e client
  else (.badArgument, s)

def probeAttachBackingUserCleanup (s : ProbeRun) (e : Env) (client : Nat) : ProbeRun :=
  match s.probe client with
  | none => s
  | some d =>
      let s₁ := s.releaseProbe client d
      if s₁.device client then s₁.teardown e true else s₁

/-- `stop`, as far as the probe: the device is forgotten, the probe is not. -/
def stop (s : ProbeRun) (client : Nat) : ProbeRun :=
  { s with device := Function.update s.device client false }

/-! ### Runs -/

/-- `clientClose`, `clientDied` and `free` do the same to a probe. -/
inductive ProbeCall where
  | probeAttachBackingUser (client phase addr len : Nat)
  | clientClose (client : Nat)
  | clientDied (client : Nat)
  | free (client : Nat)
  | stop (client : Nat)
  /-- the host executes a command whose caller has given up on it -/
  | hostLate
  deriving DecidableEq, Repr

def setLink (s : ProbeRun) (l : Link) : ProbeRun := { s with gpu := { s.gpu with link := l } }.look

def step (s : ProbeRun) : ProbeCall × Env → Option ProbeRun
  | (.probeAttachBackingUser client phase addr len, e) =>
      some (s.probeAttachBackingUser e client phase addr len).2
  | (.clientClose client, e) => some (s.probeAttachBackingUserCleanup e client)
  | (.clientDied client, e) => some (s.probeAttachBackingUserCleanup e client)
  | (.free client, e) => some (s.probeAttachBackingUserCleanup e client)
  | (.stop client, _) => some (s.stop client)
  | (.hostLate, _) => s.gpu.link.execLate.map s.setLink

/-- A host that may have anything but the two ids of the probe. -/
def clean (h : Host) : Host :=
  { resources := h.resources.filter fun r => r.id ≠ attachRes
    contexts := h.contexts.filter fun c => c ≠ attachCtx }

/-- Started clients, none of which has a probe, on any device. -/
def init (g : Gpu) : ProbeRun where
  gpu := { g with link := { Link.empty with host := clean g.link.host } }
  device := fun _ => true
  probe := fun _ => none
  wired := []
  nextSerial := 0
  exposed := false

def machine (g : Gpu) : Machine ProbeRun (ProbeCall × Env) := ⟨init g, step⟩

/-! ## Hosts of a probe

With `h` the host without a probe, the host of a probe under way is `h.withCtx` once the
context is there, and `h.probed b` once the resource is there too, with the list `b`. -/

end ProbeRun

namespace Host
variable {h : Host} {wired : List Nat}

/-- Neither id of the probe is in use. -/
structure Clean (h : Host) : Prop where
  ctx : attachCtx ∉ h.contexts
  res : ∀ r ∈ h.resources, r.id ≠ attachRes

def withCtx (h : Host) : Host := { h with contexts := attachCtx :: h.contexts }

def probed (h : Host) (b : Option ScatterList) : Host :=
  { h.withCtx with resources := h.resources ++ [⟨attachRes, b⟩] }

theorem Clean.hasResource (hc : h.Clean) : h.hasResource attachRes = false := by
  simpa [Host.hasResource] using hc.res

theorem hasResource_probed (b : Option ScatterList) :
    (h.probed b).hasResource attachRes = true := by
  simp [Host.hasResource, probed]

theorem mem_contexts_withCtx : attachCtx ∈ h.withCtx.contexts := List.mem_cons_self

theorem withCtx_ne (hc : h.Clean) : h.withCtx ≠ h := by
  intro heq
  exact hc.ctx (heq ▸ mem_contexts_withCtx)

theorem ne_of_hasResource (hc : h.Clean) {k : Host} (hk : k.hasResource attachRes = true) :
    k ≠ h := by
  intro heq
  rw [heq, hc.hasResource] at hk
  exact Bool.false_ne_true hk

/-! ### Commands on them -/

theorem exec_ctxCreate (hc : h.Clean) : h.exec (.ctxCreate attachCtx) = h.withCtx := by
  simp only [exec, withCtx, List.insert_of_not_mem hc.ctx]

theorem exec_create (hc : h.Clean) : h.withCtx.exec probeCreateCmd = h.probed none := by
  have hnew : h.withCtx.hasResource attachRes = false := hc.hasResource
  simp only [probeCreateCmd, exec, addResource, hnew, Bool.false_eq_true, if_false]
  rfl

theorem exec_attach (hc : h.Clean) (b : Option ScatterList) (list : ScatterList) :
    (h.probed b).exec (.resourceAttachBacking attachRes list) = h.probed (some list) := by
  have hkeep : (h.resources.map fun r => if r.id = attachRes then { r with backing := some list }
      else r) = h.resources :=
    (List.map_congr_left fun r hr => if_neg (hc.res r hr)).trans (List.map_id _)
  simp [exec, setBacking, probed, withCtx, hkeep]

theorem exec_unref (hc : h.Clean) (b : Option ScatterList) :
    (h.probed b).exec (.resourceUnref attachRes) = h.withCtx := by
  simpa [exec, probed, withCtx] using hc.res

theorem exec_ctxDestroy (hc : h.Clean) : h.withCtx.exec (.ctxDestroy attachCtx) = h := by
  obtain ⟨resources, contexts⟩ := h
  have hkeep : ∀ c ∈ contexts, c ≠ attachCtx := by
    intro c hmem heq
    exact hc.ctx (heq ▸ hmem)
  simpa [exec, withCtx] using hkeep

/-! ### Which of them are covered -/

theorem Clean.covered (hc : h.Clean) : h.covered wired = true := by
  rw [Host.covered, List.all_eq_true]
  intro r hr
  simp [hc.res r hr]

theorem covered_withCtx : h.withCtx.covered wired = h.covered wired := rfl

theorem covered_probed (hc : h.Clean) (b : Option ScatterList) :
    (h.probed b).covered wired =
      (b.bind ScatterList.source).all fun src => src.serial ∈ wired := by
  have hrest : h.covered wired = true := hc.covered
  rw [Host.covered] at hrest
  rw [Host.covered, probed, List.all_append, hrest]
  simp

/-- Taking a resource or a context away exposes nothing. -/
theorem covered_exec_unref (hcov : h.covered wired = true) :
    (h.exec (.resourceUnref attachRes)).covered wired = true := by
  rw [Host.covered, List.all_eq_true] at hcov ⊢
  intro r hr
  exact hcov r (List.mem_filter.mp hr).1

end Host

/-! ## Answers -/

theorem answer_of_new {e : Env} {h : Host} {cmd : HostCmd} (hnew : h.duplicates cmd = false) :
    e.answer h cmd = e.ask cmd := by
  simp [Env.answer, hnew]

theorem answer_of_duplicate {e : Env} {h : Host} {cmd : HostCmd}
    (hdup : h.duplicates cmd = true) : (e.answer h cmd).ret ≠ .success := by
  unfold Env.answer
  split
  · decide
  · next hnot =>
    intro hret
    exact hnot ⟨hdup, hret⟩

namespace ProbeRun
variable {s t : ProbeRun} {h : Host} {e : Env} {client : Nat}

/-! ## What one command does -/

theorem send_fst (cmd : HostCmd) : (s.send e cmd).1 = (e.answer s.host cmd).ret := rfl

@[simp] theorem device_send (cmd : HostCmd) : (s.send e cmd).2.device = s.device := rfl
@[simp] theorem probe_send (cmd : HostCmd) : (s.send e cmd).2.probe = s.probe := rfl
@[simp] theorem wired_send (cmd : HostCmd) : (s.send e cmd).2.wired = s.wired := rfl

@[simp] theorem exposed_send (cmd : HostCmd) : (s.send e cmd).2.exposed =
    (s.exposed || !(s.send e cmd).2.host.covered s.wired) := rfl

theorem host_send_success {cmd : HostCmd} (hret : (e.answer s.host cmd).ret = .success) :
    (s.send e cmd).2.host = s.host.exec cmd :=
  congrArg Link.host (Link.send_of_success hret)

theorem host_send_failure {cmd : HostCmd} (hret : (e.answer s.host cmd).ret ≠ .success) :
    (s.send e cmd).2.host = s.host :=
  Link.host_send_of_not_success hret

/-- A command that is none of creation. -/
theorem host_send {cmd : HostCmd} (hnew : s.host.duplicates cmd = false) : (s.send e cmd).2.host =
    if (e.ask cmd).ret = .success then s.host.exec cmd else s.host := by
  rw [← answer_of_new hnew]
  split
  · next hret => exact host_send_success hret
  · next hret => exact host_send_failure hret

@[simp] theorem host_wire : s.wire.host = s.host := rfl
@[simp] theorem wired_wire : s.wire.wired = s.nextSerial :: s.wired := rfl
@[simp] theorem probe_wire : s.wire.probe = s.probe := rfl
@[simp] theorem exposed_wire : s.wire.exposed = s.exposed := rfl

@[simp] theorem host_complete (n : Nat) : (s.complete n).host = s.host := rfl
@[simp] theorem probe_complete (n : Nat) : (s.complete n).probe = s.probe := rfl
@[simp] theorem device_complete (n : Nat) : (s.complete n).device = s.device := rfl

@[simp] theorem wired_complete (n : Nat) :
    (s.complete n).wired = s.wired.filter fun m => m ≠ n := rfl

@[simp] theorem exposed_complete (n : Nat) : (s.complete n).exposed =
    (s.exposed || !s.host.covered (s.complete n).wired) := rfl

@[simp] theorem host_setProbe (d : Option UserDescriptor) :
    (s.setProbe client d).host = s.host := rfl

@[simp] theorem exposed_setProbe (d : Option UserDescriptor) :
    (s.setProbe client d).exposed = s.exposed := rfl

/-! ## What the way down does -/

/-- Both commands of the way down are accepted. -/
def Removes (e : Env) : Prop :=
  (e.ask (.resourceUnref attachRes)).ret = .success ∧
    (e.ask (.ctxDestroy attachCtx)).ret = .success

@[simp] theorem probe_teardown (made : Bool) : (s.teardown e made).probe = s.probe := by
  cases made <;> rfl

theorem teardown_false :
    s.teardown e false = (s.send e (.ctxDestroy attachCtx)).2 := rfl

theorem teardown_true : s.teardown e true =
    ((s.send e (.resourceUnref attachRes)).2.send e (.ctxDestroy attachCtx)).2 := rfl

theorem host_unref (id : Nat) : (s.send e (.resourceUnref id)).2.host =
    if (e.ask (.resourceUnref id)).ret = .success then s.host.exec (.resourceUnref id)
    else s.host := host_send rfl

theorem host_destroy (ctx : Nat) : (s.send e (.ctxDestroy ctx)).2.host =
    if (e.ask (.ctxDestroy ctx)).ret = .success then s.host.exec (.ctxDestroy ctx)
    else s.host := host_send rfl

/-- With only the context there, it takes the one command. -/
theorem teardown_withCtx_iff (hc : h.Clean) (hhost : s.host = h.withCtx) :
    (s.teardown e false).host = h ↔ (e.ask (.ctxDestroy attachCtx)).ret = .success := by
  rw [teardown_false, host_destroy, hhost, Host.exec_ctxDestroy hc]
  split
  · next hret => exact iff_of_true rfl hret
  · next hret => exact iff_of_false (Host.withCtx_ne hc) hret

/-- With the resource there as well, it takes both. -/
theorem teardown_probed_iff (hc : h.Clean) {b : Option ScatterList}
    (hhost : s.host = h.probed b) : (s.teardown e true).host = h ↔ Removes e := by
  rw [teardown_true, host_destroy, host_unref, hhost, Host.exec_unref hc, Removes]
  by_cases hu : (e.ask (.resourceUnref attachRes)).ret = .success
  · by_cases hd : (e.ask (.ctxDestroy attachCtx)).ret = .success
    · simp [hu, hd, Host.exec_ctxDestroy hc]
    · simpa [hu, hd] using Host.withCtx_ne hc
  -- a resource left behind outlives its context
  · have hleft : ∀ c, (h.probed b).exec (.ctxDestroy c) ≠ h := by
      intro c
      exact Host.ne_of_hasResource hc (Host.hasResource_probed b)
    have hboth : h.probed b ≠ h := Host.ne_of_hasResource hc (Host.hasResource_probed b)
    by_cases hd : (e.ask (.ctxDestroy attachCtx)).ret = .success
    · simpa [hu, hd] using hleft attachCtx
    · simpa [hu, hd] using hboth

/-- The way down exposes nothing that was covered before it. -/
theorem exposed_teardown (made : Bool) (hcov : s.host.covered s.wired = true) :
    (s.teardown e made).exposed = s.exposed := by
  have hunref : (s.send e (.resourceUnref attachRes)).2.host.covered s.wired = true := by
    rw [host_unref]
    split
    · exact Host.covered_exec_unref hcov
    · exact hcov
  have hdestroy : ∀ r : ProbeRun, r.host.covered r.wired = true →
      (r.send e (.ctxDestroy attachCtx)).2.exposed = r.exposed := by
    intro r hr
    have hkept : (r.send e (.ctxDestroy attachCtx)).2.host.covered r.wired = true := by
      rw [host_destroy]
      split
      · exact hr
      · exact hr
    rw [exposed_send, hkept, Bool.not_true, Bool.or_false]
  cases made with
  | false => exact hdestroy s hcov
  | true =>
      refine (hdestroy _ hunref).trans ?_
      rw [exposed_send, hunref, Bool.not_true, Bool.or_false]

/-- What was exposed before the way down stays so. -/
theorem exposed_of_teardown {made : Bool} (hexp : s.exposed = true) :
    (s.teardown e made).exposed = true := by
  cases made <;> simp [teardown, hexp]

end ProbeRun
end VMQemuVGA
