import VMQemuVGA.Gpu.Held
import VMQemuVGA.UserClient.Winsys

/-! # One winsys call

A call either returns at once or sends one command, and then sees to the table
of its client. What it can create is what it drew, and what it works on is what
it names. -/

namespace VMQemuVGA

/-! ## A call in two parts -/

/-- `removeUserBacking`, on the table. -/
def UserBackings.remove (t : UserBackings) (id : Nat) : UserBackings :=
  if id = 0 then t else t.clear id .free

namespace WinsysCall

/-- `submitVirglCommandsEx` and `executeCommands` up to the command. -/
def submission (e : Env) (g : Gpu) (ctx : Nat) (commands : Option Nat) : Except IOReturn HostCmd :=
  match commands with
  | none => .error .badArgument
  | some size =>
      if size = 0 then .error .badArgument
      else if g.supports3D = false then .error .unsupported
      else if size > UserClient.maxCommandBytes then .error .badArgument
      else if e.alloc .commandBytes = false then .error .noMemory
      else if e.alloc .mapCommands = false then .error .vmError
      else if e.alloc .submitCommand = false then .error .noMemory
      else .ok (.submit3D ctx size)

/-- The command a call sends, or what it returns without. -/
def command (e : Env) (i : Nat) (s : BackingRun) : WinsysCall Nat → Except IOReturn HostCmd
  | createVirglContextEx => .ok (.ctxCreate s.gpu.nextExContextId)
  | destroyVirglContextEx ctx => .ok (.ctxDestroy ctx)
  | createResource3DEx ctx texture => .ok (.resourceCreate3D ctx s.gpu.nextUserResourceId texture)
  | attachBackingUser id addr len =>
      (s.describeUserMemory e i id addr len).map (s.attachCmd i id)
  | detachBackingUser id => .ok (.resourceDetachBacking id)
  | resourceUnref id => if id = 0 then .error .badArgument else .ok (.resourceUnref id)
  | getCapsetInfo _ => .error .success
  | getCapset _ _ capacity => .error (if capacity = 0 then .badArgument else .success)
  | submitVirglCommandsEx ctx commands => submission e s.gpu ctx commands
  | ctxAttachResource ctx id => .ok (.ctxAttachResource ctx id)
  | transferToHost3D ctx id =>
      if s.gpu.ready = false then .error .notReady else .ok (.transferToHost3D ctx id)
  | transferFromHost3D ctx id =>
      if s.gpu.ready = false then .error .notReady else .ok (.transferFromHost3D ctx id)

/-- What the call returns, and the client's table, once the command is answered. -/
def finish (e : Env) (serial : Nat) (t : UserBackings) (ret : IOReturn) :
    WinsysCall Nat → IOReturn × UserBackings
  | attachBackingUser id addr len =>
      if ret ≠ .success then (ret, t) else
      match (e.withAddressRange addr len).bind fun d => t.addUserBacking id ⟨serial, d⟩ with
      | none => (.noResources, t)
      | some t' => (.success, t')
  | detachBackingUser id => (ret, t.remove id)
  | resourceUnref id => (ret, if (t.findUserBacking id).isSome then t.remove id else t)
  | _ => (ret, t)

/-- The device with the counters advanced. -/
def draw (g : Gpu) : WinsysCall Nat → Gpu
  | createVirglContextEx => { g with nextExContextId := inc32 g.nextExContextId }
  | createResource3DEx .. => g.allocateUserResourceId.2
  | _ => g

/-- The ways a call can come out. -/
inductive Runs (e : Env) (i : Nat) (s : BackingRun) (call : WinsysCall Nat) :
    IOReturn × BackingRun → Prop
  | returned {ret : IOReturn} (hcmd : call.command e i s = .error ret) : Runs e i s call (ret, s)
  | sent {cmd : HostCmd} {ret : IOReturn} {s' : BackingRun} (hcmd : call.command e i s = .ok cmd)
      (hgpu : s'.gpu = (call.draw s.gpu).afterSend cmd (e.ask cmd))
      (hret : ret = (call.finish e s.nextSerial (s.client i) (e.ask cmd).ret).1)
      (hclient : s'.client = Function.update s.client i
        (call.finish e s.nextSerial (s.client i) (e.ask cmd).ret).2) :
      Runs e i s call (ret, s')

variable {e : Env} {i : Nat} {s : BackingRun}

theorem removeUserBacking_eq (s : BackingRun) (i id : Nat) :
    (s.removeUserBacking i id).gpu = s.gpu ∧
      (s.removeUserBacking i id).client = Function.update s.client i ((s.client i).remove id) := by
  unfold BackingRun.removeUserBacking UserBackings.remove
  by_cases hid : id = 0
  · rw [if_pos hid, if_pos hid, Function.update_eq_self]
    exact ⟨rfl, rfl⟩
  rw [if_neg hid, if_neg hid]
  cases hfind : (s.client i).find? id with
  | none =>
      rw [SlotTable.clear_of_find?_eq_none hid hfind, Function.update_eq_self]
      exact ⟨rfl, rfl⟩
  | some b =>
      dsimp only
      cases b.desc with
      | none => exact ⟨rfl, rfl⟩
      | some d => exact ⟨rfl, rfl⟩

/-- A call that does no more than send a command. -/
theorem runs_onGpu {call : WinsysCall Nat} {cmd : HostCmd} (hcmd : call.command e i s = .ok cmd)
    (hfinish : ∀ ret, call.finish e s.nextSerial (s.client i) ret = (ret, s.client i)) :
    Runs e i s call (s.onGpu ((call.draw s.gpu).submitCommand e cmd)) := by
  refine .sent hcmd rfl ?_ ?_
  · rw [hfinish]
    rfl
  · rw [hfinish, Function.update_eq_self]

theorem runs_submitVirglCommandsEx (ctx : Nat) (commands : Option Nat) :
    Runs e i s (submitVirglCommandsEx ctx commands)
      (s.onGpu (s.gpu.submitVirglCommandsEx e ctx commands)) := by
  have hcommand : (submitVirglCommandsEx ctx commands).command e i s =
      submission e s.gpu ctx commands := rfl
  unfold Gpu.submitVirglCommandsEx
  unfold submission at hcommand
  cases commands with
  | none => exact .returned hcommand
  | some size =>
      dsimp only at hcommand ⊢
      by_cases hsize : size = 0
      · rw [if_pos hsize] at hcommand ⊢
        exact .returned hcommand
      by_cases h3D : s.gpu.supports3D = false
      · rw [if_neg hsize, if_pos h3D] at hcommand ⊢
        exact .returned hcommand
      by_cases hmax : size > UserClient.maxCommandBytes
      · rw [if_neg hsize, if_neg h3D, if_pos hmax] at hcommand ⊢
        exact .returned hcommand
      by_cases hbytes : e.alloc .commandBytes = false
      · rw [if_neg hsize, if_neg h3D, if_neg hmax, if_pos hbytes] at hcommand ⊢
        exact .returned hcommand
      rw [if_neg hsize, if_neg h3D, if_neg hmax, if_neg hbytes] at hcommand ⊢
      unfold Gpu.executeCommands
      rw [if_neg h3D]
      dsimp only
      by_cases hmap : e.alloc .mapCommands = false
      · rw [if_pos hmap] at hcommand ⊢
        exact .returned hcommand
      rw [if_neg hmap] at hcommand ⊢
      rw [if_neg hsize]
      by_cases hcmd : e.alloc .submitCommand = false
      · rw [if_pos hcmd] at hcommand ⊢
        exact .returned hcommand
      rw [if_neg hcmd] at hcommand ⊢
      exact runs_onGpu hcommand fun _ => rfl

theorem runs_attachBackingUser (id addr len : Nat) :
    Runs e i s (attachBackingUser id addr len) (s.attachBackingUser e i id addr len) := by
  have hcommand : (attachBackingUser id addr len).command e i s =
      (s.describeUserMemory e i id addr len).map (s.attachCmd i id) := rfl
  unfold BackingRun.attachBackingUser
  cases hdesc : s.describeUserMemory e i id addr len with
  | error ret =>
      rw [hdesc] at hcommand
      exact .returned hcommand
  | ok d =>
      rw [hdesc] at hcommand
      have haddr := BackingRun.withAddressRange_of_describeUserMemory hdesc
      dsimp only
      unfold BackingRun.attachUserMemory
      dsimp only
      have hsend : (s.wire.send e (s.attachCmd i id d)).1 = (e.ask (s.attachCmd i id d)).ret := rfl
      split
      next hret =>
        refine .sent hcommand rfl ?_ ?_
        · show _ = Prod.fst (if _ then _ else _)
          rw [if_pos (hsend ▸ hret)]
          exact hsend
        · show s.client = Function.update s.client i (Prod.snd (if _ then _ else _))
          rw [if_pos (hsend ▸ hret), Function.update_eq_self]
      next hret =>
        have hfinish : (attachBackingUser id addr len).finish e s.nextSerial (s.client i)
            (e.ask (s.attachCmd i id d)).ret =
            match (s.client i).addUserBacking id ⟨s.nextSerial, d⟩ with
            | none => (.noResources, s.client i)
            | some t' => (.success, t') := by
          show (if _ then _ else _) = _
          rw [if_neg (hsend ▸ hret), haddr]
          rfl
        cases hadd : (s.client i).addUserBacking id ⟨s.nextSerial, d⟩ with
        | none =>
            rw [hadd] at hfinish
            refine .sent hcommand rfl ?_ ?_
            · rw [hfinish]
            · rw [hfinish, Function.update_eq_self]
              rfl
        | some t' =>
            rw [hadd] at hfinish
            refine .sent hcommand rfl ?_ ?_
            · rw [hfinish]
            · rw [hfinish]
              rfl

theorem runs_detachBackingUser (id : Nat) :
    Runs e i s (detachBackingUser id) (s.detachBackingUser e i id) := by
  obtain ⟨hgpu, hclient⟩ :=
    removeUserBacking_eq (s.send e (.resourceDetachBacking id)).2 i id
  exact .sent rfl hgpu rfl hclient

theorem runs_resourceUnref (id : Nat) :
    Runs e i s (resourceUnref id) (s.resourceUnref e i id) := by
  unfold BackingRun.resourceUnref
  by_cases hid : id = 0
  · rw [if_pos hid]
    exact .returned (if_pos hid)
  rw [if_neg hid]
  have hcommand : (resourceUnref id).command e i s = .ok (.resourceUnref id) := if_neg hid
  dsimp only
  by_cases hfound : ((s.client i).findUserBacking id).isSome = true
  · obtain ⟨hgpu, hclient⟩ := removeUserBacking_eq s i id
    rw [if_pos hfound]
    refine .sent hcommand ?_ rfl ?_
    · show (s.removeUserBacking i id).gpu.afterSend _ _ = _
      rw [hgpu]
      rfl
    · show (s.removeUserBacking i id).client = Function.update s.client i (if _ then _ else _)
      rw [if_pos hfound, hclient]
  · rw [if_neg hfound]
    refine .sent hcommand rfl rfl ?_
    show s.client = Function.update s.client i (if _ then _ else _)
    rw [if_neg hfound, Function.update_eq_self]

theorem run_runs (e : Env) (i : Nat) (s : BackingRun) (call : WinsysCall Nat) :
    Runs e i s call (call.run e i s) := by
  cases call with
  | createVirglContextEx => exact runs_onGpu rfl fun _ => rfl
  | destroyVirglContextEx ctx => exact runs_onGpu rfl fun _ => rfl
  | createResource3DEx ctx texture => exact runs_onGpu rfl fun _ => rfl
  | attachBackingUser id addr len => exact runs_attachBackingUser id addr len
  | detachBackingUser id => exact runs_detachBackingUser id
  | resourceUnref id => exact runs_resourceUnref id
  | getCapsetInfo index => exact .returned rfl
  | getCapset capset version capacity =>
      show Runs e i s _ (s.onGpu (if _ then _ else _))
      split
      next hcap => exact .returned (congrArg Except.error (if_pos hcap))
      next hcap => exact .returned (congrArg Except.error (if_neg hcap))
  | submitVirglCommandsEx ctx commands => exact runs_submitVirglCommandsEx ctx commands
  | ctxAttachResource ctx id => exact runs_onGpu rfl fun _ => rfl
  | transferToHost3D ctx id =>
      show Runs e i s _ (s.onGpu (if _ then _ else _))
      split
      next hready => exact .returned (if_pos hready)
      next hready => exact runs_onGpu (if_neg hready) fun _ => rfl
  | transferFromHost3D ctx id =>
      show Runs e i s _ (s.onGpu (if _ then _ else _))
      split
      next hready => exact .returned (if_pos hready)
      next hready => exact runs_onGpu (if_neg hready) fun _ => rfl

/-! ### What the command names -/

/-- What a call sends, without its reasons not to. -/
inductive Sends (i : Nat) (s : BackingRun) : WinsysCall Nat → HostCmd → Prop
  | createVirglContextEx : Sends i s createVirglContextEx (.ctxCreate s.gpu.nextExContextId)
  | destroyVirglContextEx (ctx) : Sends i s (destroyVirglContextEx ctx) (.ctxDestroy ctx)
  | createResource3DEx (ctx texture) : Sends i s (createResource3DEx ctx texture)
      (.resourceCreate3D ctx s.gpu.nextUserResourceId texture)
  | attachBackingUser (id addr len d) :
      Sends i s (attachBackingUser id addr len) (s.attachCmd i id d)
  | detachBackingUser (id) : Sends i s (detachBackingUser id) (.resourceDetachBacking id)
  | resourceUnref (id) : Sends i s (resourceUnref id) (.resourceUnref id)
  | submitVirglCommandsEx (ctx commands size) :
      Sends i s (submitVirglCommandsEx ctx commands) (.submit3D ctx size)
  | ctxAttachResource (ctx id) :
      Sends i s (ctxAttachResource ctx id) (.ctxAttachResource ctx id)
  | transferToHost3D (ctx id) : Sends i s (transferToHost3D ctx id) (.transferToHost3D ctx id)
  | transferFromHost3D (ctx id) :
      Sends i s (transferFromHost3D ctx id) (.transferFromHost3D ctx id)

theorem submission_ok {g : Gpu} {ctx : Nat} {commands : Option Nat} {cmd : HostCmd}
    (h : submission e g ctx commands = .ok cmd) : ∃ size, cmd = .submit3D ctx size := by
  unfold submission at h
  split at h
  · cases h
  next size =>
    split at h
    · cases h
    split at h
    · cases h
    split at h
    · cases h
    split at h
    · cases h
    split at h
    · cases h
    split at h
    · cases h
    · cases h
      exact ⟨size, rfl⟩

theorem sends_of_command {call : WinsysCall Nat} {cmd : HostCmd}
    (h : call.command e i s = .ok cmd) : Sends i s call cmd := by
  cases call with
  | createVirglContextEx => cases h; exact .createVirglContextEx
  | destroyVirglContextEx ctx => cases h; exact .destroyVirglContextEx ctx
  | createResource3DEx ctx texture => cases h; exact .createResource3DEx ctx texture
  | attachBackingUser id addr len =>
      have h : (s.describeUserMemory e i id addr len).map (s.attachCmd i id) = .ok cmd := h
      cases hdesc : s.describeUserMemory e i id addr len with
      | error ret =>
          rw [hdesc] at h
          cases h
      | ok d =>
          rw [hdesc] at h
          cases h
          exact .attachBackingUser id addr len d
  | detachBackingUser id => cases h; exact .detachBackingUser id
  | resourceUnref id =>
      have h : (if id = 0 then .error .badArgument else .ok (.resourceUnref id) :
        Except IOReturn HostCmd) = .ok cmd := h
      split at h
      · cases h
      · cases h
        exact .resourceUnref id
  | getCapsetInfo index => cases h
  | getCapset capset version capacity => cases h
  | submitVirglCommandsEx ctx commands =>
      obtain ⟨size, rfl⟩ := submission_ok h
      exact .submitVirglCommandsEx ctx commands size
  | ctxAttachResource ctx id => cases h; exact .ctxAttachResource ctx id
  | transferToHost3D ctx id =>
      have h : (if s.gpu.ready = false then .error .notReady else .ok (.transferToHost3D ctx id) :
        Except IOReturn HostCmd) = .ok cmd := h
      split at h
      · cases h
      · cases h
        exact .transferToHost3D ctx id
  | transferFromHost3D ctx id =>
      have h : (if s.gpu.ready = false then .error .notReady else .ok (.transferFromHost3D ctx id) :
        Except IOReturn HostCmd) = .ok cmd := h
      split at h
      · cases h
      · cases h
        exact .transferFromHost3D ctx id

variable {call : WinsysCall Nat} {cmd : HostCmd}

/-- Only what is drawn is created. -/
theorem Sends.creates (h : Sends i s call cmd) :
    (∀ c, cmd = .ctxCreate c → c ∈ call.drawnContexts s.gpu) ∧
      ∀ n, cmd.creates = some n → n ∈ call.drawnResources s.gpu := by
  cases h with
  | createVirglContextEx =>
      refine ⟨fun c hc => ?_, fun n hn => (by cases hn)⟩
      cases hc
      exact List.mem_singleton_self _
  | createResource3DEx ctx texture =>
      refine ⟨fun c hc => (by cases hc), fun n hn => ?_⟩
      cases hn
      exact List.mem_singleton_self _
  | _ => exact ⟨fun c hc => (by cases hc), fun n hn => (by cases hn)⟩

/-- A context that an accepted command works on was drawn for it, is none, or was
there and named by the call. -/
theorem Sends.ctx (h : Sends i s call cmd) {host : Host} (hknows : host.knows cmd = true) {c : Nat}
    (hc : cmd.ctx? = some c) :
    c ∈ call.drawnContexts s.gpu ∨ c = 0 ∨ c ∈ call.workCtxs ∧ c ∈ host.contexts := by
  have hknown : host.knowsCtx c = true → c = 0 ∨ c ∈ host.contexts := by
    intro hk
    unfold Host.knowsCtx at hk
    rw [Bool.or_eq_true, beq_iff_eq, decide_eq_true_eq] at hk
    exact hk
  cases h with
  | createVirglContextEx =>
      cases hc
      exact Or.inl (List.mem_singleton_self _)
  | destroyVirglContextEx ctx =>
      cases hc
      exact Or.inr ((hknown hknows).imp id fun hin => ⟨List.mem_singleton_self _, hin⟩)
  | submitVirglCommandsEx ctx commands size =>
      cases hc
      exact Or.inr ((hknown hknows).imp id fun hin => ⟨List.mem_singleton_self _, hin⟩)
  | ctxAttachResource ctx id =>
      cases hc
      have hk := (Bool.and_eq_true_iff.mp hknows).1
      exact Or.inr ((hknown hk).imp (fun h => h) fun hin => ⟨List.mem_singleton_self _, hin⟩)
  | transferToHost3D ctx id =>
      cases hc
      have hk := (Bool.and_eq_true_iff.mp hknows).1
      exact Or.inr ((hknown hk).imp (fun h => h) fun hin => ⟨List.mem_singleton_self _, hin⟩)
  | transferFromHost3D ctx id =>
      cases hc
      have hk := (Bool.and_eq_true_iff.mp hknows).1
      exact Or.inr ((hknown hk).imp (fun h => h) fun hin => ⟨List.mem_singleton_self _, hin⟩)
  | _ => cases hc

/-- The same for a resource. -/
theorem Sends.resource (h : Sends i s call cmd) {host : Host} (hknows : host.knows cmd = true)
    {n : Nat} (hn : cmd.resource? = some n) :
    n ∈ call.drawnResources s.gpu ∨ n ∈ call.resources ∧ host.hasResource n = true := by
  cases h with
  | createResource3DEx ctx texture =>
      cases hn
      exact Or.inl (List.mem_singleton_self _)
  | attachBackingUser id addr len d =>
      cases hn
      exact Or.inr ⟨List.mem_singleton_self _, hknows⟩
  | detachBackingUser id =>
      cases hn
      exact Or.inr ⟨List.mem_singleton_self _, hknows⟩
  | resourceUnref id =>
      cases hn
      exact Or.inr ⟨List.mem_singleton_self _, hknows⟩
  | ctxAttachResource ctx id =>
      cases hn
      exact Or.inr ⟨List.mem_singleton_self _, (Bool.and_eq_true_iff.mp hknows).2⟩
  | transferToHost3D ctx id =>
      cases hn
      exact Or.inr ⟨List.mem_singleton_self _, (Bool.and_eq_true_iff.mp hknows).2⟩
  | transferFromHost3D ctx id =>
      cases hn
      exact Or.inr ⟨List.mem_singleton_self _, (Bool.and_eq_true_iff.mp hknows).2⟩
  | _ => cases hn

/-! ### What a call draws -/

@[simp] theorem link_draw (call : WinsysCall Nat) (g : Gpu) : (call.draw g).link = g.link := by
  cases call <;> rfl

@[simp] theorem supports3D_draw (call : WinsysCall Nat) (g : Gpu) :
    (call.draw g).supports3D = g.supports3D := by
  cases call <;> rfl

@[simp] theorem ready_draw (call : WinsysCall Nat) (g : Gpu) : (call.draw g).ready = g.ready := by
  cases call <;> rfl

theorem nextExContextId_draw {g : Gpu} (h : ∀ c ∈ call.drawnContexts g, c + 1 < u32) :
    (call.draw g).nextExContextId = g.nextExContextId + (call.drawnContexts g).length := by
  cases call with
  | createVirglContextEx => exact inc32_eq_succ (h _ (List.mem_singleton_self _))
  | _ => rfl

theorem nextUserResourceId_draw {g : Gpu} (h : ∀ n ∈ call.drawnResources g, n + 1 < u32) :
    (call.draw g).nextUserResourceId = g.nextUserResourceId + (call.drawnResources g).length := by
  cases call with
  | createResource3DEx ctx texture => exact inc32_eq_succ (h _ (List.mem_singleton_self _))
  | _ => rfl

theorem drawnContexts_eq (call : WinsysCall Nat) (g : Gpu) :
    call.drawnContexts g = [] ∨ call.drawnContexts g = [g.nextExContextId] := by
  cases call with
  | createVirglContextEx => exact Or.inr rfl
  | _ => exact Or.inl rfl

theorem drawnResources_eq (call : WinsysCall Nat) (g : Gpu) :
    call.drawnResources g = [] ∨ call.drawnResources g = [g.nextUserResourceId] := by
  cases call with
  | createResource3DEx ctx texture => exact Or.inr rfl
  | _ => exact Or.inl rfl

/-- A call that returns at once draws nothing. -/
theorem drawn_of_error {ret : IOReturn} (h : call.command e i s = .error ret) :
    call.drawnContexts s.gpu = [] ∧ call.drawnResources s.gpu = [] ∧ call.draw s.gpu = s.gpu := by
  cases call with
  | createVirglContextEx => cases h
  | createResource3DEx ctx texture => cases h
  | _ => exact ⟨rfl, rfl, rfl⟩

/-- A call that draws returns what the host answered. -/
theorem drawn_or_finish (call : WinsysCall Nat) (g : Gpu) :
    (call.drawnContexts g = [] ∧ call.drawnResources g = []) ∨
      ∀ e serial t ret, (call.finish e serial t ret).1 = ret := by
  cases call with
  | createVirglContextEx => exact Or.inr fun _ _ _ _ => rfl
  | createResource3DEx ctx texture => exact Or.inr fun _ _ _ _ => rfl
  | _ => exact Or.inl ⟨rfl, rfl⟩

/-- Nothing but the link changes beyond what is drawn. -/
theorem Runs.gpu {r : IOReturn × BackingRun} (h : Runs e i s call r) :
    ∃ l, r.2.gpu = { call.draw s.gpu with link := l } := by
  cases h with
  | returned hcmd =>
      obtain ⟨-, -, hdraw⟩ := drawn_of_error hcmd
      refine ⟨s.gpu.link, ?_⟩
      rw [hdraw]
  | sent hcmd hgpu hret hclient => exact ⟨_, hgpu⟩

/-- The tables of the other clients are left alone. -/
theorem Runs.client_of_ne {r : IOReturn × BackingRun} (h : Runs e i s call r) {b : Nat}
    (hne : b ≠ i) : r.2.client b = s.client b := by
  cases h with
  | returned hcmd => rfl
  | sent hcmd hgpu hret hclient =>
      dsimp only
      rw [hclient, Function.update_of_ne hne]

/-! ### What the host makes of it -/

/-- What a call sends is up to the driver, -/
theorem command_answeredBy (e : Env) (h : Host) (i : Nat) (s : BackingRun)
    (call : WinsysCall Nat) : call.command (e.answeredBy h) i s = call.command e i s := by
  cases call <;> rfl

/-- and so is what it does with the answer. -/
theorem finish_answeredBy (e : Env) (h : Host) (serial : Nat) (t : UserBackings) (ret : IOReturn)
    (call : WinsysCall Nat) :
    call.finish (e.answeredBy h) serial t ret = call.finish e serial t ret := by
  cases call <;> rfl

/-- What comes of a call that sends nothing, -/
theorem Runs.of_error {r : IOReturn × BackingRun} {host : Host} {ret : IOReturn}
    (h : Runs (e.answeredBy host) i s call r) (hcmd : call.command e i s = .error ret) :
    r = (ret, s) := by
  cases h with
  | returned hcmd' =>
      rw [command_answeredBy, hcmd] at hcmd'
      cases hcmd'
      rfl
  | sent hcmd' =>
      rw [command_answeredBy, hcmd] at hcmd'
      cases hcmd'

/-- and of one that sends something. -/
theorem Runs.of_ok {r : IOReturn × BackingRun} {host : Host}
    (h : Runs (e.answeredBy host) i s call r) (hcmd : call.command e i s = .ok cmd) :
    let ret := if host.knows cmd then IOReturn.success else .error
    r.2.gpu = (call.draw s.gpu).afterSend cmd ((e.answeredBy host).ask cmd) ∧
      r.1 = (call.finish e s.nextSerial (s.client i) ret).1 ∧
      r.2.client i = (call.finish e s.nextSerial (s.client i) ret).2 := by
  cases h with
  | returned hcmd' =>
      rw [command_answeredBy, hcmd] at hcmd'
      cases hcmd'
  | sent hcmd' hgpu hret hclient =>
      rw [command_answeredBy, hcmd] at hcmd'
      cases hcmd'
      rw [ret_answeredBy, finish_answeredBy] at hret hclient
      refine ⟨hgpu, hret, ?_⟩
      dsimp only
      rw [hclient, Function.update_self]

/-- From `g` to `g'` the host carried out `cmd`, or nothing. -/
structure Did (g g' : Gpu) (cmd : Option HostCmd) : Prop where
  host : g'.link.host = cmd.elim g.link.host g.link.host.exec
  executed : g.executedSince g' = cmd.toList

theorem Did.refl (g : Gpu) : Did g g none := ⟨rfl, (Gpu.Ran.refl g).executedSince⟩

/-- A host that turns away what it does not know carries out what it knows. -/
theorem did_send (e : Env) (call : WinsysCall Nat) (g : Gpu) (cmd : HostCmd) :
    Did g ((call.draw g).afterSend cmd ((e.answeredBy g.link.host).ask cmd))
      (if g.link.host.knows cmd then some cmd else none) := by
  have hret := ret_answeredBy e g.link.host cmd
  have hexec : g.executedSince
      ((call.draw g).afterSend cmd ((e.answeredBy g.link.host).ask cmd)) =
        (e.answeredBy g.link.host).accepted cmd :=
    ((Gpu.ran_of_link_eq (link_draw call g)).trans
      (Gpu.ran_submitCommand _ (call.draw g) cmd)).executedSince
  have hhost : ((call.draw g).afterSend cmd ((e.answeredBy g.link.host).ask cmd)).link =
      g.link.send cmd ((e.answeredBy g.link.host).ask cmd) := by
    rw [← link_draw call g]
    rfl
  by_cases hknows : g.link.host.knows cmd = true
  · rw [if_pos hknows] at hret ⊢
    refine ⟨?_, ?_⟩
    · rw [hhost, Link.send_of_success hret]
      rfl
    · rw [hexec, Env.accepted_of_takes hret]
      rfl
  · rw [if_neg hknows] at hret ⊢
    have hnot : ((e.answeredBy g.link.host).ask cmd).ret ≠ .success := by
      rw [hret]
      decide
    refine ⟨?_, ?_⟩
    · rw [hhost, Link.host_send_of_not_success hnot]
      rfl
    · rw [hexec, Env.accepted_of_not hnot]
      rfl

/-- All that a call has done is what it sends, and the host knew it. -/
theorem Runs.did {r : IOReturn × BackingRun} (h : Runs (e.answeredBy s.gpu.link.host) i s call r) :
    ∃ o, Did s.gpu r.2.gpu o ∧
      ∀ cmd, o = some cmd → Sends i s call cmd ∧ s.gpu.link.host.knows cmd = true := by
  cases h with
  | returned hcmd => exact ⟨none, .refl _, fun cmd h => (by cases h)⟩
  | @sent cmd ret s' hcmd hgpu hret hclient =>
      have hdid := did_send e call s.gpu cmd
      rw [← hgpu] at hdid
      refine ⟨_, hdid, fun c hc => ?_⟩
      split at hc
      next hknows =>
        cases hc
        exact ⟨sends_of_command hcmd, hknows⟩
      · cases hc

end WinsysCall
end VMQemuVGA
