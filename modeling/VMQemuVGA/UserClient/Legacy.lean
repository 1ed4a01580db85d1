import VMQemuVGA.Gpu.Watch
import VMQemuVGA.Lib.Machine
import VMQemuVGA.UserClient.Lifecycle

/-! # The selectors of the `VirtGLGL` library

A library on the caller's side names a context and a resource, has both created,
has the resource attached to the context, and then submits buffers. Three of
these steps do not do what they are asked: the context gets an id of the
device's own, the attach is only logged, and every buffer goes to context 1. -/

namespace VMQemuVGA

namespace UserClient

/-! ## The calls -/

/-- `attachVirglResource`, which only logs. -/
def attachVirglResource (c : UserClient) (g : Gpu) (_ctx _id : Nat) : IOReturn × Gpu :=
  if c.attached = false then (.badArgument, g) else (.success, g)

/-- The largest buffer `submitVirglCommands` takes. -/
def maxCommandBytes : Nat := 1024 * 1024

/-- `submitVirglCommands`; `commands` is the size of the buffer, if there is one. -/
def submitVirglCommands (e : Env) (c : UserClient) (g : Gpu) (commands : Option Nat) :
    IOReturn × Gpu :=
  if c.attached = false then (.badArgument, g) else
  match commands with
  | none => (.badArgument, g)
  | some size =>
      if size = 0 then (.badArgument, g)
      else if g.supports3D = false then (.unsupported, g)
      else if size > maxCommandBytes then (.badArgument, g)
      else if e.alloc .commandBytes = false then (.noMemory, g)
      -- context 1, whoever submits
      else g.executeCommands e 1 (some size)

end UserClient

/-- What `externalMethod` is given, as far as these selectors look at it. -/
structure ExternalArgs where
  /-- `scalarInput`, `scalarInputCount` words of it -/
  scalarInput : List Nat
  /-- `structureInputSize`, where `structureInput` is not null -/
  structureInput : Option Nat
  deriving DecidableEq, Repr

inductive LegacyCall where
  | submitVirglCommands (commands : Option Nat)
  | createVirglResource (id width height format : Nat)
  | createVirglContext (ctx : Nat)
  | attachVirglResource (ctx id : Nat)
  deriving DecidableEq, Repr

/-- The selectors of the library, and the older numbers of two of them. -/
def legacySelectors : List Nat := [0x3000, 0x3001, 0x3002, 0x3003, 0x4003, 0x4004]

/-- The call a selector makes, if its arguments are there. Scalars are cut to
32 bits. -/
def ExternalArgs.legacyCall? (args : ExternalArgs) (selector : Nat) : Option LegacyCall :=
  match selector, args.scalarInput with
  | 0x3000, _ =>
      match args.structureInput with
      | some size => if size > 0 then some (.submitVirglCommands (some size)) else none
      | none => none
  | 0x3001, id :: width :: height :: format :: _
  | 0x4003, id :: width :: height :: format :: _ =>
      some (.createVirglResource (id % u32) (width % u32) (height % u32) (format % u32))
  | 0x3002, ctx :: _
  | 0x4004, ctx :: _ => some (.createVirglContext (ctx % u32))
  | 0x3003, ctx :: id :: _ => some (.attachVirglResource (ctx % u32) (id % u32))
  | _, _ => none

def LegacyCall.run (e : Env) (c : UserClient) (g : Gpu) : LegacyCall → IOReturn × Gpu
  | .submitVirglCommands commands => c.submitVirglCommands e g commands
  | .createVirglResource id width height format =>
      c.createVirglResource e g id width height format
  | .createVirglContext _ => c.createVirglContext e g
  | .attachVirglResource ctx id => c.attachVirglResource g ctx id

/-! ## What is attached on the host -/

/-- The attachments, each a context and a resource, after one more command. -/
def HostCmd.attach (l : List (Nat × Nat)) : HostCmd → List (Nat × Nat)
  | .ctxAttachResource ctx id => l ++ [(ctx, id)]
  | .ctxDetachResource ctx id => l.filter fun p => p ≠ (ctx, id)
  | .ctxDestroy ctx => l.filter fun p => p.1 ≠ ctx
  | .resourceUnref id => l.filter fun p => p.2 ≠ id
  | _ => l

def Gpu.attachments (g : Gpu) : List (Nat × Nat) :=
  (carriedOut g.link.sent).foldl HostCmd.attach []

/-! ## Runs -/

/-- A buffer the host ran: who submitted it and in which context it ran, whether
the client had set itself up before, and whether this was a context of its own
with its resource attached. -/
structure LegacyExecution where
  client : Nat
  ctx : Nat
  setUp : Bool
  home : Bool
  deriving DecidableEq, Repr

/-- A device and its clients. `contexts` are the contexts made, with the client,
the id it named and the id the device gave; `resources` and `attached` are what
`createVirglResource` and `attachVirglResource` returned success for. -/
structure LegacyRun where
  gpu : Gpu
  client : Nat → UserClient
  contexts : List (Nat × Nat × Nat)
  resources : List (Nat × Nat)
  attached : List (Nat × Nat × Nat)
  executed : List LegacyExecution

namespace LegacyRun

/-- All three calls have succeeded for `ctx` and `id`. -/
def hasSetUp (s : LegacyRun) (i ctx id : Nat) : Bool :=
  (s.contexts.any fun p => p.1 == i && p.2.1 == ctx) && decide ((i, id) ∈ s.resources) &&
    decide ((i, ctx, id) ∈ s.attached)

/-- The client `i` has set itself up. -/
def setUp (s : LegacyRun) (i : Nat) : Bool :=
  s.attached.any fun p => p.1 == i && s.hasSetUp i p.2.1 p.2.2

/-- The context `k` is one that `i` has set up: the device made it for the id
`i` named, it is there, and what `i` attached is attached to it. -/
def home (s : LegacyRun) (i k : Nat) : Bool :=
  s.attached.any fun p => p.1 == i && s.hasSetUp i p.2.1 p.2.2 &&
    decide ((i, p.2.1, k) ∈ s.contexts) && decide (k ∈ s.gpu.link.host.contexts) &&
    decide ((k, p.2.2) ∈ s.gpu.attachments)

/-- The buffers among the commands that the host ran for the client `i`. -/
def executions (s : LegacyRun) (i : Nat) (cmds : List HostCmd) : List LegacyExecution :=
  cmds.filterMap fun
    | .submit3D ctx _ => some ⟨i, ctx, s.setUp i, s.home i ctx⟩
    | _ => none

/-- The state after `call` of the client `i`. -/
def next (s : LegacyRun) (i : Nat) (call : LegacyCall) (r : IOReturn × Gpu) : LegacyRun :=
  let s₁ := { s with
    gpu := r.2
    executed := s.executed ++ s.executions i (s.gpu.executedSince r.2) }
  if r.1 ≠ .success then s₁ else
  match call with
  | .submitVirglCommands _ => s₁
  | .createVirglResource id .. => { s₁ with resources := s.resources ++ [(i, id)] }
  | .createVirglContext ctx => { s₁ with contexts := s.contexts ++ [(i, ctx, r.2.nextContextId)] }
  | .attachVirglResource ctx id => { s₁ with attached := s.attached ++ [(i, ctx, id)] }

/-- A client calls a selector; the host accepts every command. `externalMethod` turns a client
without a device away with `kIOReturnNotReady` before that; here every call turns it away, and
the state is the same. -/
def step (s : LegacyRun) : Nat × Nat × ExternalArgs × Env → Option LegacyRun
  | (i, selector, args, e) =>
      if selector ∉ legacySelectors then none else
      match args.legacyCall? selector with
      | none => some s
      | some call => some (s.next i call (call.run e.hostAccepts (s.client i) s.gpu))

/-- A device as `init` leaves it, and clients that may each have it or not. -/
def machine (supports3D : Bool) (maxScanouts : Nat) (client : Nat → UserClient) :
    Machine LegacyRun (Nat × Nat × ExternalArgs × Env) where
  init := ⟨.init supports3D maxScanouts, client, [], [], [], []⟩
  step := step

/-! ## The property -/

/-- Every buffer of a client that has set itself up ran in a context of its own,
which no other client's buffers ran in. -/
structure Sound (s : LegacyRun) : Prop where
  home : ∀ x ∈ s.executed, x.setUp = true → x.home = true
  alone : ∀ x ∈ s.executed, x.setUp = true → ∀ y ∈ s.executed, y.client ≠ x.client → y.ctx ≠ x.ctx

end LegacyRun

/-- A buffer of `size` bytes gets through to the host. -/
structure UserClient.Submits (c : UserClient) (e : Env) (g : Gpu) (size : Nat) : Prop where
  attached : c.attached = true
  small : size ≤ maxCommandBytes
  bytes : e.alloc .commandBytes = true
  executes : g.Executes e 1 size

namespace LegacyRun

/-- No buffer gets through once its client has set itself up. -/
def CallOk (s : LegacyRun) : Nat × Nat × ExternalArgs × Env → Prop
  | (i, selector, args, e) =>
      ∀ size, args.legacyCall? selector = some (.submitVirglCommands (some size)) →
        s.setUp i = true → ¬ (s.client i).Submits e.hostAccepts s.gpu size

/-- No attach has reached the host, so no buffer ran in a context set up for it. -/
structure Unattached (s : LegacyRun) : Prop where
  sent : ∀ cmd ∈ carriedOut s.gpu.link.sent, ∀ ctx id, cmd ≠ .ctxAttachResource ctx id
  executed : ∀ x ∈ s.executed, x.home = false

/-! ## What the calls send -/

/-- A command that only creates. -/
def Creating (cmd : HostCmd) : Prop :=
  (∃ ctx, cmd = .ctxCreate ctx) ∨ ∃ ctx id texture, cmd = .resourceCreate3D ctx id texture

theorem ran_createVirglContext (e : Env) (c : UserClient) (g : Gpu) :
    ∃ cmds, g.Ran (c.createVirglContext e g).2 cmds ∧ ∀ cmd ∈ cmds, Creating cmd := by
  unfold UserClient.createVirglContext
  split
  · exact ⟨[], .refl g, fun _ h => by cases h⟩
  split
  · exact ⟨[], .refl g, fun _ h => by cases h⟩
  obtain ⟨cmds, hran, hcmds⟩ := Gpu.ran_createRenderContext e g
  exact ⟨cmds, hran, fun cmd h => Or.inl ⟨_, hcmds cmd h⟩⟩

theorem ran_createVirglResource (e : Env) (c : UserClient) (g : Gpu)
    (id width height format : Nat) :
    ∃ cmds, g.Ran (c.createVirglResource e g id width height format).2 cmds ∧
      ∀ cmd ∈ cmds, Creating cmd := by
  unfold UserClient.createVirglResource
  split
  · exact ⟨[], .refl g, fun _ h => by cases h⟩
  split
  · exact ⟨[], .refl g, fun _ h => by cases h⟩
  obtain ⟨cmds, hran, hcmds⟩ := Gpu.ran_createResource3D e g id UserClient.virglTarget format
    UserClient.virglBind width height 1
  exact ⟨cmds, hran, fun cmd h => Or.inr ⟨0, id, _, hcmds cmd h⟩⟩

theorem ran_attachVirglResource (c : UserClient) (g : Gpu) (ctx id : Nat) :
    g.Ran (c.attachVirglResource g ctx id).2 [] := by
  unfold UserClient.attachVirglResource
  split
  · exact .refl g
  · exact .refl g

theorem run_submitVirglCommands_cases (e : Env) (c : UserClient) (g : Gpu) (size : Nat) :
    (c.Submits e g size ∧
      g.Ran ((LegacyCall.submitVirglCommands (some size)).run e c g).2 [.submit3D 1 size]) ∨
    (¬ c.Submits e g size ∧
      g.Ran ((LegacyCall.submitVirglCommands (some size)).run e c g).2 []) := by
  show (_ ∧ g.Ran (c.submitVirglCommands e g (some size)).2 _) ∨
    (_ ∧ g.Ran (c.submitVirglCommands e g (some size)).2 _)
  unfold UserClient.submitVirglCommands
  split
  next h => exact Or.inr ⟨fun hs => by simp [hs.attached] at h, .refl g⟩
  next hattached =>
  dsimp only
  split
  next h => exact Or.inr ⟨fun hs => hs.executes.nonempty h, .refl g⟩
  split
  next h => exact Or.inr ⟨fun hs => by simp [hs.executes.supports3D] at h, .refl g⟩
  split
  next h => exact Or.inr ⟨fun hs => absurd hs.small (by omega), .refl g⟩
  next hsmall =>
  split
  next h => exact Or.inr ⟨fun hs => by simp [hs.bytes] at h, .refl g⟩
  next hbytes =>
  rcases Gpu.executeCommands_cases e g 1 size with ⟨hx, hran⟩ | ⟨hx, hran⟩
  · exact Or.inl ⟨⟨by simpa using hattached, by omega, by simpa using hbytes, hx⟩, hran⟩
  · exact Or.inr ⟨fun hs => hx hs.executes, hran⟩

/-- A call that is no submission only creates. -/
theorem ran_run (e : Env) (c : UserClient) (g : Gpu) {call : LegacyCall}
    (hcall : ∀ size, call ≠ .submitVirglCommands (some size)) :
    ∃ cmds, g.Ran (call.run e c g).2 cmds ∧ ∀ cmd ∈ cmds, Creating cmd := by
  cases call with
  | submitVirglCommands commands =>
      cases commands with
      | some size => exact absurd rfl (hcall size)
      | none =>
          refine ⟨[], ?_, fun _ h => by cases h⟩
          show g.Ran (c.submitVirglCommands e g none).2 []
          unfold UserClient.submitVirglCommands
          split
          · exact .refl g
          · exact .refl g
  | createVirglResource id width height format =>
      exact ran_createVirglResource e c g id width height format
  | createVirglContext ctx => exact ran_createVirglContext e c g
  | attachVirglResource ctx id =>
      exact ⟨[], ran_attachVirglResource c g ctx id, fun _ h => by cases h⟩

/-! ## One call -/

variable {s t : LegacyRun} {i : Nat} {call : LegacyCall} {r : IOReturn × Gpu}
  {cmds : List HostCmd}

@[simp] theorem gpu_next : (s.next i call r).gpu = r.2 := by
  unfold next
  split
  · rfl
  · cases call <;> rfl

theorem executed_next (hran : s.gpu.Ran r.2 cmds) :
    (s.next i call r).executed = s.executed ++ s.executions i cmds := by
  rw [← hran.executedSince]
  unfold next
  split
  · rfl
  · cases call <;> rfl

/-- Nothing can be attached on the host before an attach is sent. -/
theorem attachments_eq_nil (hs : s.Unattached) : s.gpu.attachments = [] := by
  have hfold : ∀ cmds : List HostCmd, (∀ cmd ∈ cmds, ∀ ctx id, cmd ≠ .ctxAttachResource ctx id) →
      cmds.foldl HostCmd.attach [] = [] := by
    intro cmds
    induction cmds with
    | nil => exact fun _ => rfl
    | cons cmd cmds ih =>
        intro h
        have hcmd : cmd.attach [] = [] := by
          cases cmd with
          | ctxAttachResource ctx id => exact absurd rfl (h _ List.mem_cons_self ctx id)
          | _ => rfl
        rw [List.foldl_cons, hcmd]
        exact ih fun c hc => h c (List.mem_cons_of_mem _ hc)
  exact hfold _ hs.sent

/-- So no client is ever at home. -/
theorem home_eq_false (hs : s.Unattached) (i k : Nat) : s.home i k = false := by
  unfold home
  rw [attachments_eq_nil hs]
  simp only [List.not_mem_nil, decide_false, Bool.and_false, List.any_eq_false,
    Bool.false_eq_true, not_false_eq_true, implies_true]

theorem executions_creating (h : ∀ cmd ∈ cmds, Creating cmd) : s.executions i cmds = [] := by
  unfold executions
  rw [List.filterMap_eq_nil_iff]
  intro cmd hcmd
  rcases h cmd hcmd with ⟨ctx, rfl⟩ | ⟨ctx, id, texture, rfl⟩
  · rfl
  · rfl

theorem Unattached.next (hs : s.Unattached) (hran : s.gpu.Ran r.2 cmds)
    (hcmds : ∀ cmd ∈ cmds, ∀ ctx id, cmd ≠ .ctxAttachResource ctx id) :
    (s.next i call r).Unattached where
  sent := by
    obtain ⟨sent, hsent, rfl⟩ := hran
    rw [gpu_next, hsent, carriedOut_append]
    intro cmd hcmd
    rcases List.mem_append.mp hcmd with hold | hnew
    · exact hs.sent cmd hold
    · exact hcmds cmd hnew
  executed := by
    rw [executed_next hran]
    intro x hx
    rcases List.mem_append.mp hx with hold | hnew
    · exact hs.executed x hold
    · obtain ⟨cmd, -, hcmd⟩ := List.mem_filterMap.mp hnew
      cases cmd <;> cases hcmd
      exact home_eq_false hs ..

theorem unattached_next_run (hs : s.Unattached) (e : Env) (c : UserClient) :
    (s.next i call (call.run e c s.gpu)).Unattached := by
  by_cases hsub : ∃ size, call = .submitVirglCommands (some size)
  · obtain ⟨size, rfl⟩ := hsub
    rcases run_submitVirglCommands_cases e c s.gpu size with ⟨-, hran⟩ | ⟨-, hran⟩
    · refine hs.next hran fun cmd hcmd ctx id heq => ?_
      cases List.mem_singleton.mp (heq ▸ hcmd)
    · exact hs.next hran fun cmd hcmd => by cases hcmd
  · obtain ⟨cmds, hran, hcmds⟩ := ran_run e c s.gpu fun size h => hsub ⟨size, h⟩
    refine hs.next hran fun cmd hcmd ctx id heq => ?_
    rcases hcmds cmd hcmd with ⟨_, rfl⟩ | ⟨_, _, _, rfl⟩
    · cases heq
    · cases heq

/-! ## The result -/

/-- As nobody is at home, being sound is having run nothing for a client that had
set itself up. -/
theorem sound_iff (hs : s.Unattached) : s.Sound ↔ ∀ x ∈ s.executed, x.setUp = false := by
  constructor
  · intro h x hx
    by_contra hset
    have hhome := h.home x hx (by simpa using hset)
    rw [hs.executed x hx] at hhome
    cases hhome
  · intro h
    refine ⟨fun x hx hset => ?_, fun x hx hset => ?_⟩
    · rw [h x hx] at hset
      cases hset
    · rw [h x hx] at hset
      cases hset

/-- A step is a request without its arguments, or a call. -/
theorem step_eq_some {selector : Nat} {args : ExternalArgs} {e : Env}
    (h : s.step (i, selector, args, e) = some t) :
    (args.legacyCall? selector = none ∧ t = s) ∨
    ∃ call, args.legacyCall? selector = some call ∧
      t = s.next i call (call.run e.hostAccepts (s.client i) s.gpu) := by
  unfold step at h
  dsimp only at h
  split at h
  · cases h
  cases hcall : args.legacyCall? selector with
  | none =>
      rw [hcall] at h
      exact Or.inl ⟨rfl, (Option.some.inj h).symm⟩
  | some call =>
      rw [hcall] at h
      exact Or.inr ⟨call, rfl, (Option.some.inj h).symm⟩

theorem unattached_step {a : Nat × Nat × ExternalArgs × Env} (hs : s.Unattached)
    (h : s.step a = some t) : t.Unattached := by
  rcases step_eq_some h with ⟨-, rfl⟩ | ⟨call, -, rfl⟩
  · exact hs
  · exact unattached_next_run hs _ _

theorem sound_call_iff (hs : s.Unattached) (hsound : s.Sound) (e : Env) :
    (s.next i call (call.run e (s.client i) s.gpu)).Sound ↔
      ∀ size, call = .submitVirglCommands (some size) → s.setUp i = true →
        ¬ (s.client i).Submits e s.gpu size := by
  rw [sound_iff (unattached_next_run hs e (s.client i))]
  have hold := (sound_iff hs).mp hsound
  by_cases hsub : ∃ size, call = .submitVirglCommands (some size)
  · obtain ⟨size, rfl⟩ := hsub
    simp only [LegacyCall.submitVirglCommands.injEq, Option.some.injEq, forall_eq']
    rcases run_submitVirglCommands_cases e (s.client i) s.gpu size with ⟨hx, hran⟩ | ⟨hx, hran⟩
    · -- the buffer runs, and whether it may is whether the client had set itself up
      rw [executed_next hran]
      show (∀ x ∈ s.executed ++ [⟨i, 1, s.setUp i, s.home i 1⟩], x.setUp = false) ↔ _
      simp only [List.mem_append, List.mem_singleton, or_imp, forall_and, forall_eq, hx,
        not_true_eq_false, imp_false, Bool.not_eq_true]
      exact and_iff_right hold
    · rw [executed_next hran]
      refine iff_of_true ?_ fun _ => hx
      rw [show s.executions i [] = [] from rfl, List.append_nil]
      exact hold
  · -- whatever else was called, no buffer ran
    obtain ⟨cmds, hran, hcmds⟩ := ran_run e (s.client i) s.gpu fun size h => hsub ⟨size, h⟩
    rw [executed_next hran, executions_creating hcmds, List.append_nil]
    exact iff_of_true hold fun size heq => absurd ⟨size, heq⟩ hsub

theorem sound_step_iff {a : Nat × Nat × ExternalArgs × Env} (hs : s.Unattached) (hsound : s.Sound)
    (h : s.step a = some t) : t.Sound ↔ s.CallOk a := by
  obtain ⟨i, selector, args, e⟩ := a
  unfold CallOk
  rcases step_eq_some h with ⟨hcall, rfl⟩ | ⟨call, hcall, rfl⟩
  · refine iff_of_true hsound fun size hsome => ?_
    rw [hcall] at hsome
    cases hsome
  · dsimp only
    rw [hcall]
    simp only [Option.some.injEq]
    exact sound_call_iff hs hsound e.hostAccepts

/-- **Where the library's buffers run, exactly.** -/
theorem always_sound_iff_callOk (supports3D : Bool) (maxScanouts : Nat) (client : Nat → UserClient)
    (calls : List (Nat × Nat × ExternalArgs × Env)) :
    (machine supports3D maxScanouts client).Always Sound
        (machine supports3D maxScanouts client).init calls ↔
      (machine supports3D maxScanouts client).Along CallOk
        (machine supports3D maxScanouts client).init calls := by
  apply (machine supports3D maxScanouts client).always_iff_along (J := Unattached)
  · exact fun _ _ _ hs h => unattached_step hs h
  · exact fun _ _ _ hs hsound h => sound_step_iff hs hsound h
  · exact ⟨fun cmd h => (by cases h), fun x h => (by cases h)⟩
  · exact ⟨fun x h => (by cases h), fun x h => (by cases h)⟩

/-- `VirtGLGL_Initialize` of one client, and its first buffer: the device makes
context 2, and the buffer runs in context 1. -/
theorem first_buffer_runs_elsewhere :
    ¬ (machine true 1 fun _ => .init).Always Sound (machine true 1 fun _ => .init).init
      [(0, 0x4004, ⟨[1], none⟩, .accepting), (0, 0x4003, ⟨[2, 800, 600, 67], none⟩, .accepting),
        (0, 0x3003, ⟨[1, 2], none⟩, .accepting), (0, 0x3000, ⟨[], some 64⟩, .accepting)] := by
  intro h
  obtain ⟨s, hs, hp⟩ := h.of_any _
    (p := fun s : LegacyRun => decide (⟨0, 1, true, false⟩ ∈ s.executed)) (by decide)
  have hhome := hs.home _ (of_decide_eq_true hp) rfl
  cases hhome

end LegacyRun
end VMQemuVGA
