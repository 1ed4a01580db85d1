import Mathlib.Data.List.Induction
import VMQemuVGA.Virtqueue.RemoteCalls
import VMQemuVGA.Wire.Messages

/-! # From the driver's functions to the host

The whole way of a command: a function puts it into bytes, the queue carries the bytes, the
device reads a command in them and hands it to the host. With a prompt device all of this
is a call of the host. -/

universe u

namespace VMQemuVGA
namespace VirtioGpu

/-! ## Hosts -/

/-- What executes commands, and what it answers: the type of the response. It is told of
bytes that are no command, too. -/
structure HostModel (σ : Type u) where
  start : σ
  serve : σ → Option Command → Nat × σ

namespace HostModel

variable {σ : Type u} (h : HostModel σ)

/-- The host behind a device that has read these bytes. -/
def after (wires : List (List UInt8)) : σ :=
  wires.foldl (fun s wire => (h.serve s (Command.ofBytes wire)).2) h.start

/-- What such a device answers by the bytes it has read. -/
def answer (wires : List (List UInt8)) : Nat :=
  match wires.getLast? with
  | none => 0
  | some wire => (h.serve (h.after wires.dropLast) (Command.ofBytes wire)).1

@[simp] theorem after_append_singleton (wires : List (List UInt8)) (wire : List UInt8) :
    h.after (wires ++ [wire]) = (h.serve (h.after wires) (Command.ofBytes wire)).2 := by
  rw [after, List.foldl_append]
  rfl

@[simp] theorem answer_append_singleton (wires : List (List UInt8)) (wire : List UInt8) :
    h.answer (wires ++ [wire]) = (h.serve (h.after wires) (Command.ofBytes wire)).1 := by
  rw [answer, List.getLast?_concat, List.dropLast_concat]

end HostModel

/-! ## Calls of the host -/

/-- The host, and what the calls have returned. -/
structure HostCalls (σ : Type u) where
  host : σ
  returns : List IOReturn

namespace HostCalls

variable {σ : Type u} (h : HostModel σ)

/-- One call: it is refused, or the host executes the command that was meant. -/
def call (s : HostCalls σ) : Message × Option IOReturn → HostCalls σ
  | (_, some refusal) => { s with returns := s.returns ++ [refusal] }
  | (m, none) =>
      let (type, host) := h.serve s.host m.command
      { host, returns := s.returns ++ [if respIsOk type then .success else .error] }

def run (calls : List (Message × Option IOReturn)) : HostCalls σ :=
  calls.foldl (call h) ⟨h.start, []⟩

@[simp] theorem run_append_singleton (calls : List (Message × Option IOReturn))
    (x : Message × Option IOReturn) : run h (calls ++ [x]) = (run h calls).call h x := by
  rw [run, List.foldl_append]
  rfl

end HostCalls

/-! ## The way through the queue -/

section Queue

variable {σ : Type u} (h : HostModel σ)

theorem status_submission (m : Message) (type : Nat) :
    ControlQueue.status m.submission type = if respIsOk type then .success else .error := by
  have hsize : ∃ n, m.respSize = n + 1 := by
    cases m with
    | getCapset id version room => exact ⟨23 + room, by simp [Message.respSize]; omega⟩
    | getCapsetInfo index => exact ⟨39, rfl⟩
    | _ => exact ⟨23, rfl⟩
  obtain ⟨n, hn⟩ := hsize
  rw [Message.submission, ControlQueue.status, hn]
  rfl

/-- A remote call with the bytes of a message is a call of the host. -/
theorem run_hostCalls (calls : List (Message × Option IOReturn)) :
    let remote := RemoteCalls.run h.answer (calls.map (Prod.map Message.submission id))
    h.after remote.executed = (HostCalls.run h calls).host ∧
      remote.returns = (HostCalls.run h calls).returns := by
  induction calls using List.reverseRecOn with
  | nil => exact ⟨rfl, rfl⟩
  | append_singleton calls x ih =>
      obtain ⟨hhost, hreturns⟩ := ih
      obtain ⟨m, outcome⟩ := x
      dsimp only
      rw [List.map_append, List.map_singleton, RemoteCalls.run_append_singleton,
        HostCalls.run_append_singleton]
      cases outcome with
      | some refusal => exact ⟨hhost, congrArg (· ++ [refusal]) hreturns⟩
      | none =>
          have hread : Command.ofBytes m.submission.bytes = m.command := m.ofBytes_bytes
          constructor
          · show h.after (_ ++ [m.submission.bytes]) = (h.serve _ m.command).2
            rw [h.after_append_singleton, hread, hhost]
          · show _ ++ [ControlQueue.status m.submission (h.answer (_ ++ [m.submission.bytes]))] =
              _ ++ [if respIsOk (h.serve _ m.command).1 then .success else .error]
            rw [status_submission, h.answer_append_singleton, hread, hhost, hreturns]

/-- What the functions have sent are calls of the host. -/
def HostRefines (q : ControlQueue) : Prop :=
  ∀ ms : List Message, q.submitted = ms.map Message.submission →
    ∃ calls : List (Message × Option IOReturn), calls.map Prod.fst = ms ∧
      (∀ x ∈ calls, ∀ r, x.2 = some r → ControlQueue.Refusal r) ∧
      h.after (q.executed.filterMap Execution.bytes) = (HostCalls.run h calls).host ∧
      q.returns.map Return.ret = (HostCalls.run h calls).returns

theorem hostRefines_of_refines {q : ControlQueue} (hq : q.Refines h.answer) : HostRefines h q := by
  intro ms hms
  obtain ⟨remote, hsub, hrefusal, hexec, hret⟩ := hq
  have hcalls : (ms.zip (remote.map Prod.snd)).map (Prod.map Message.submission id) = remote := by
    rw [← List.zip_map_left, ← hms, ← hsub]
    exact (List.zip_of_prod rfl rfl).symm
  have hlen : ms.length = remote.length := by
    rw [← List.length_map (f := Prod.fst), hsub, hms, List.length_map]
  obtain ⟨hhost, hreturns⟩ := run_hostCalls h (ms.zip (remote.map Prod.snd))
  rw [hcalls] at hhost hreturns
  refine ⟨ms.zip (remote.map Prod.snd), ?_, ?_, ?_, ?_⟩
  · apply List.map_fst_zip
    rw [hlen, List.length_map]
  · intro x hx r hr
    have hmem : (x.1.submission, x.2) ∈ remote := hcalls ▸ List.mem_map_of_mem hx
    exact hrefusal _ hmem r hr
  · rw [← hhost]
    congr 1
    have hbytes : q.executed.filterMap Execution.bytes =
        (q.executed.map Execution.bytes).filterMap id := by
      rw [List.filterMap_map]
      rfl
    rw [hbytes, hexec, List.filterMap_map]
    exact List.filterMap_some
  · rw [hret, hreturns]

/-- **From the functions to the host**: whatever host is behind a prompt device that hands
it the commands it reads, on a queue of any size that can be negotiated, whenever no call is
under way the messages sent so far are calls of that host. -/
theorem refines_hostCalls {offered size : Nat}
    (hoffered : negotiatedSize offered = some size) {evs : List ControlQueue.Event}
    (hprompt : (ControlQueue.machine size).Along ControlQueue.Prompt
      (ControlQueue.machine size).init evs)
    (hans : (ControlQueue.machine size).Along (ControlQueue.Answering h.answer)
      (ControlQueue.machine size).init evs) :
    (ControlQueue.machine size).Always (fun q => q.pc = .idle → HostRefines h q)
      (ControlQueue.machine size).init evs :=
  (ControlQueue.refines_remoteCalls hoffered hprompt hans).imp _ fun _ hq hidle =>
    hostRefines_of_refines h (hq hidle)

/-- A context is destroyed, and there is a flush, which the host makes nothing of. -/
theorem refines_hostCalls_flush :
    let h : HostModel (List (Option CtrlType)) :=
      ⟨[], fun s c => (respOkNodata, s ++ [c.map fun c => c.hdr.type])⟩
    let evs := ControlQueue.answered (Message.destroy3DContext 7).submission ++
      ControlQueue.answered Message.flushCommands.submission
    negotiatedSize 3 = some 2 ∧ (ControlQueue.machine 2).Always
      (fun q => q.pc = .idle → HostRefines h q) (ControlQueue.machine 2).init evs := by
  have hsize : negotiatedSize 3 = some 2 := by
    rw [negotiatedSize_eq (by decide)]
    decide
  exact ⟨hsize, refines_hostCalls _ hsize (by decide) (by decide)⟩

end Queue

end VirtioGpu
end VMQemuVGA
