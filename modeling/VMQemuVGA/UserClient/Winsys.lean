import VMQemuVGA.Gpu.Naming
import VMQemuVGA.Lib.Pairing
import VMQemuVGA.UserClient.Backings
import VMQemuVGA.UserClient.Legacy

/-! # The winsys selectors

Twelve selectors, each for one command. Contexts and resources are numbered by
counters that all clients share, and every selector passes on the ids it is
given. What a client names is what its calls were given, or a number of its own
choice. -/

namespace VMQemuVGA

/-! ## The calls -/

namespace Gpu

/-- `getCapsetInfo`, down to its return code: the command names nothing that could be
missing. The data that it and `getCapset` copy out come from the response buffer, which all
clients share, and are left out here. -/
def getCapsetInfo (g : Gpu) (_index : Nat) : IOReturn × Gpu := (.success, g)

/-- `getCapset` into `capacity` bytes, down to its return code. -/
def getCapset (g : Gpu) (_capset _version capacity : Nat) : IOReturn × Gpu :=
  if capacity = 0 then (.badArgument, g) else (.success, g)

/-- `submitVirglCommandsEx`; `commands` is the size of the buffer, if there is one. -/
def submitVirglCommandsEx (e : Env) (g : Gpu) (ctx : Nat) (commands : Option Nat) :
    IOReturn × Gpu :=
  match commands with
  | none => (.badArgument, g)
  | some size =>
      if size = 0 then (.badArgument, g)
      else if g.supports3D = false then (.unsupported, g)
      else if size > UserClient.maxCommandBytes then (.badArgument, g)
      else if e.alloc .commandBytes = false then (.noMemory, g)
      else g.executeCommands e ctx (some size)

def ctxAttachResource (e : Env) (g : Gpu) (ctx id : Nat) : IOReturn × Gpu :=
  g.submitCommand e (.ctxAttachResource ctx id)

/-- `transferToHost3D`; context 0 is only complained about. -/
def transferToHost3D (e : Env) (g : Gpu) (ctx id : Nat) : IOReturn × Gpu :=
  if g.ready = false then (.notReady, g) else g.submitCommand e (.transferToHost3D ctx id)

def transferFromHost3D (e : Env) (g : Gpu) (ctx id : Nat) : IOReturn × Gpu :=
  if g.ready = false then (.notReady, g) else g.submitCommand e (.transferFromHost3D ctx id)

end Gpu

/-- A winsys call; `ι` is what contexts and resources are named by. -/
inductive WinsysCall (ι : Type) where
  | createVirglContextEx
  | destroyVirglContextEx (ctx : ι)
  | createResource3DEx (ctx : ι) (texture : Texture)
  | attachBackingUser (id : ι) (addr len : Nat)
  | detachBackingUser (id : ι)
  | resourceUnref (id : ι)
  | getCapsetInfo (index : Nat)
  | getCapset (capset version capacity : Nat)
  | submitVirglCommandsEx (ctx : ι) (commands : Option Nat)
  | ctxAttachResource (ctx id : ι)
  | transferToHost3D (ctx id : ι)
  | transferFromHost3D (ctx id : ι)
  deriving DecidableEq, Repr

/-- A call that leaves the client's table alone. -/
def BackingRun.onGpu (s : BackingRun) (r : IOReturn × Gpu) : IOReturn × BackingRun :=
  (r.1, { s with gpu := r.2 })

namespace WinsysCall
variable {ι : Type}

/-- The selector, for the client `i`. -/
def run (e : Env) (i : Nat) (s : BackingRun) : WinsysCall Nat → IOReturn × BackingRun
  | createVirglContextEx => s.onGpu (s.gpu.createVirglContextEx e)
  | destroyVirglContextEx ctx => s.onGpu (s.gpu.destroyVirglContextEx e ctx)
  | createResource3DEx ctx texture => s.createResource3DEx e ctx texture
  | attachBackingUser id addr len => s.attachBackingUser e i id addr len
  | detachBackingUser id => s.detachBackingUser e i id
  | resourceUnref id => s.resourceUnref e i id
  | getCapsetInfo index => s.onGpu (s.gpu.getCapsetInfo index)
  | getCapset capset version capacity => s.onGpu (s.gpu.getCapset capset version capacity)
  | submitVirglCommandsEx ctx commands => s.onGpu (s.gpu.submitVirglCommandsEx e ctx commands)
  | ctxAttachResource ctx id => s.onGpu (s.gpu.ctxAttachResource e ctx id)
  | transferToHost3D ctx id => s.onGpu (s.gpu.transferToHost3D e ctx id)
  | transferFromHost3D ctx id => s.onGpu (s.gpu.transferFromHost3D e ctx id)

/-- The contexts a call names, -/
def ctxs : WinsysCall ι → List ι
  | destroyVirglContextEx ctx | submitVirglCommandsEx ctx _ | createResource3DEx ctx _
  | ctxAttachResource ctx _ | transferToHost3D ctx _ | transferFromHost3D ctx _ => [ctx]
  | _ => []

/-- and the resources. -/
def resources : WinsysCall ι → List ι
  | attachBackingUser id _ _ | detachBackingUser id | resourceUnref id
  | ctxAttachResource _ id | transferToHost3D _ id | transferFromHost3D _ id => [id]
  | _ => []

/-- The contexts a call works on: creating a resource in one is no work on it. -/
def workCtxs : WinsysCall ι → List ι
  | createResource3DEx .. => []
  | call => call.ctxs

/-- The call with the numbers that its names stand for. -/
def resolve (contexts resources : List Nat) : WinsysCall Pairing.Name → Option (WinsysCall Nat)
  | createVirglContextEx => some createVirglContextEx
  | destroyVirglContextEx ctx => (ctx.resolve contexts).map destroyVirglContextEx
  | createResource3DEx ctx texture =>
      (ctx.resolve contexts).map fun c => createResource3DEx c texture
  | attachBackingUser id addr len =>
      (id.resolve resources).map fun n => attachBackingUser n addr len
  | detachBackingUser id => (id.resolve resources).map detachBackingUser
  | resourceUnref id => (id.resolve resources).map resourceUnref
  | getCapsetInfo index => some (getCapsetInfo index)
  | getCapset capset version capacity => some (getCapset capset version capacity)
  | submitVirglCommandsEx ctx commands =>
      (ctx.resolve contexts).map fun c => submitVirglCommandsEx c commands
  | ctxAttachResource ctx id =>
      (ctx.resolve contexts).bind fun c => (id.resolve resources).map (ctxAttachResource c)
  | transferToHost3D ctx id =>
      (ctx.resolve contexts).bind fun c => (id.resolve resources).map (transferToHost3D c)
  | transferFromHost3D ctx id =>
      (ctx.resolve contexts).bind fun c => (id.resolve resources).map (transferFromHost3D c)

/-- The id of a context that the call draws, -/
def drawnContexts (g : Gpu) : WinsysCall Nat → List Nat
  | createVirglContextEx => [g.nextExContextId]
  | _ => []

/-- and of a resource. -/
def drawnResources (g : Gpu) : WinsysCall Nat → List Nat
  | createResource3DEx .. => [g.nextUserResourceId]
  | _ => []

end WinsysCall

/-! ## Runs -/

/-- The ids from which the winsys counters start. -/
def winsysBase : Nat := 0x100

/-- What the host holds before the first winsys call: contexts and resources of
the driver's own, under ids that the winsys counters start above. -/
structure BootHost where
  host : Host
  contexts : ∀ c ∈ host.contexts, 0 < c ∧ c < winsysBase
  resources : ∀ r ∈ host.resources, r.id < winsysBase

/-- One device and its winsys clients. For each client: the ids its calls were
given, the return codes of its calls, and the commands the host carried out,
whoever sent them, on something that its calls created or that was there before. -/
structure WinsysRun where
  backings : BackingRun
  contexts : Nat → List Nat
  resources : Nat → List Nat
  returned : Nat → List IOReturn
  dealings : Nat → List HostCmd

abbrev WinsysEvent := Nat × WinsysCall Pairing.Name × Env

namespace WinsysRun

def gpu (s : WinsysRun) : Gpu := s.backings.gpu

def host (s : WinsysRun) : Host := s.gpu.link.host

/-- The command works on one of the contexts or resources, or on something that
was there before. -/
def concerns (contexts resources : List Nat) (cmd : HostCmd) : Bool :=
  cmd.ctx?.any (fun c => decide (c ∈ contexts) || (decide (c ≠ 0) && decide (c < winsysBase))) ||
    cmd.resource?.any fun n => decide (n ∈ resources) || decide (n < winsysBase)

/-- The state after `call` of the client `i`. -/
def next (s : WinsysRun) (i : Nat) (call : WinsysCall Nat) (r : IOReturn × BackingRun) :
    WinsysRun :=
  let given (l drawn : List Nat) : List Nat := if r.1 = .success then l ++ drawn else l
  let contexts := Function.update s.contexts i (given (s.contexts i) (call.drawnContexts s.gpu))
  let resources := Function.update s.resources i (given (s.resources i) (call.drawnResources s.gpu))
  { backings := r.2
    contexts, resources
    returned := Function.update s.returned i (s.returned i ++ [r.1])
    dealings := fun j =>
      s.dealings j ++ (s.gpu.executedSince r.2.gpu).filter (concerns (contexts j) (resources j)) }

/-- A client calls a selector, naming what it was given or any other number. -/
def step (s : WinsysRun) : WinsysEvent → Option WinsysRun
  | (i, call, e) =>
      (call.resolve (s.contexts i) (s.resources i)).map fun call =>
        s.next i call (call.run (e.answeredBy s.host) i s.backings)

def machine (boot : BootHost) (supports3D : Bool) (maxScanouts : Nat) :
    Machine WinsysRun WinsysEvent where
  init :=
    { backings :=
        { gpu := { Gpu.init supports3D maxScanouts with
            link := { Link.empty with host := boot.host } }
          client := fun _ => .empty
          wired := []
          nextSerial := 0 }
      contexts := fun _ => []
      resources := fun _ => []
      returned := fun _ => []
      dealings := fun _ => [] }
  step := step

/-! ## The property -/

/-- The contexts of `b` in two runs, under the number each has there. -/
def CtxPartner (s t : WinsysRun) (b : Nat) : Nat → Nat → Prop :=
  Pairing.Partner winsysBase (s.contexts b) (t.contexts b)

def ResPartner (s t : WinsysRun) (b : Nat) : Nat → Nat → Prop :=
  Pairing.Partner winsysBase (s.resources b) (t.resources b)

/-- Up to the numbering of what it was given, the runs are the same for `b`: its calls
have the same return codes, the host holds the same for it, and did the same to it. -/
structure SameFor (b : Nat) (s t : WinsysRun) : Prop where
  returned : s.returned b = t.returned b
  contexts : (s.contexts b).length = (t.contexts b).length
  resources : (s.resources b).length = (t.resources b).length
  host : s.host.Alike (s.CtxPartner t b) (s.ResPartner t b) t.host
  dealings : List.Forall₂ (HostCmd.Alike (s.CtxPartner t b) (s.ResPartner t b))
    (s.dealings b) (t.dealings b)

/-- What a call may do that is to be left out: it works on nothing that is there
and that `b` was given or that was there before. -/
def Apart (s : WinsysRun) (b : Nat) (call : WinsysCall Nat) : Prop :=
  (∀ c ∈ call.workCtxs, c ∈ s.host.contexts → c ∉ s.contexts b ∧ winsysBase ≤ c) ∧
    ∀ n ∈ call.resources, s.host.hasResource n = true → n ∉ s.resources b ∧ winsysBase ≤ n

instance (s : WinsysRun) (b : Nat) (call : WinsysCall Nat) : Decidable (s.Apart b call) :=
  inferInstanceAs (Decidable (_ ∧ _))

/-- Calls of others keep apart from `b`, and `b` does not guess. No counter wraps. -/
def StepOk (b : Nat) (s : WinsysRun) : WinsysEvent → Prop
  | (i, call, _) =>
      (i = b → (∀ name ∈ call.ctxs, name.Known winsysBase) ∧
        ∀ name ∈ call.resources, name.Known winsysBase) ∧
      ∀ c ∈ call.resolve (s.contexts i) (s.resources i),
        (i ≠ b → s.Apart b c) ∧ (∀ n ∈ c.drawnContexts s.gpu, n + 1 < u32) ∧
          ∀ n ∈ c.drawnResources s.gpu, n + 1 < u32

instance (b : Nat) (s : WinsysRun) : (event : WinsysEvent) → Decidable (s.StepOk b event)
  | (_, _, _) => inferInstanceAs (Decidable (_ ∧ _))

end WinsysRun
end VMQemuVGA
