import VMQemuVGA.Wire.HostCalls

/-! # The link to the host

The driver's functions are modelled over a link, which hands the host one command after the
other. With a prompt device, that link is what the queue and the bytes on it come to. -/

namespace VMQemuVGA
namespace VirtioGpu

/-! ## Commands of the link -/

/-- The texture that a `RESOURCE_CREATE_3D` asks for. -/
def ResourceCreate3D.texture (c : ResourceCreate3D) : Texture where
  target := c.target.toNat
  format := c.format.toNat
  bind := c.bind.toNat
  width := c.width.toNat
  height := c.height.toNat
  depth := c.depth.toNat
  arraySize := c.arraySize.toNat
  lastLevel := c.lastLevel.toNat
  nrSamples := c.nrSamples.toNat
  flags := c.flags.toNat

/-- The entries of an `ATTACH_BACKING`; where they were read from is not on the wire. -/
def ResourceAttachBacking.list (c : ResourceAttachBacking) : ScatterList where
  entries := c.entries.1.map fun e => ⟨e.addr.toNat, e.length.toNat⟩
  source := none

def Body.hostCmd (ctx : UInt32) : (t : CtrlType) → Body t → Option HostCmd
  | .resourceCreate2D, (c : ResourceCreate2D) =>
      some (.resourceCreate2D c.resourceId.toNat c.format.toNat c.width.toNat c.height.toNat)
  | .resourceCreate3D, (c : ResourceCreate3D) =>
      some (.resourceCreate3D ctx.toNat c.resourceId.toNat c.texture)
  | .resourceUnref, (c : ResourceOnly) => some (.resourceUnref c.resourceId.toNat)
  | .resourceAttachBacking, (c : ResourceAttachBacking) =>
      some (.resourceAttachBacking c.resourceId.toNat c.list)
  | .resourceDetachBacking, (c : ResourceOnly) => some (.resourceDetachBacking c.resourceId.toNat)
  | .setScanout, (c : SetScanout) =>
      some (.setScanout c.scanoutId.toNat c.resourceId.toNat c.r.width.toNat c.r.height.toNat)
  | .transferToHost2D, (c : TransferToHost2D) => some (.transferToHost2D c.resourceId.toNat)
  | .resourceFlush, (c : ResourceFlush) => some (.resourceFlush c.resourceId.toNat)
  | .ctxCreate, _ => some (.ctxCreate ctx.toNat)
  | .ctxDestroy, _ => some (.ctxDestroy ctx.toNat)
  | .ctxAttachResource, (c : ResourceOnly) =>
      some (.ctxAttachResource ctx.toNat c.resourceId.toNat)
  | .ctxDetachResource, (c : ResourceOnly) =>
      some (.ctxDetachResource ctx.toNat c.resourceId.toNat)
  | .transferToHost3D, (c : TransferHost3D) => some (.transferToHost3D ctx.toNat c.resourceId.toNat)
  | .transferFromHost3D, (c : TransferHost3D) =>
      some (.transferFromHost3D ctx.toNat c.resourceId.toNat)
  | .submit3D, (c : CmdSubmit) => some (.submit3D ctx.toNat c.size.toNat)
  | .getCapsetInfo, _ | .getCapset, _ | .updateCursor, _ | .moveCursor, _ => none

def Command.hostCmd (c : Command) : Option HostCmd := c.body.hostCmd c.hdr.ctxId

/-- The command of the link, if there is one: a host does not change by what it only
reports, or cannot read. -/
def Message.hostCmd (m : Message) : Option HostCmd := m.command.bind Command.hostCmd

/-! ## The host of the link -/

/-- The host of the link behind a device; `respond` says what it answers. -/
def HostModel.ofHost (respond : Host → HostCmd → Nat) : HostModel Host where
  start := .empty
  serve host c :=
    match c.bind Command.hostCmd with
    | none => (respOkNodata, host)
    | some cmd => (respond host cmd, if respIsOk (respond host cmd) then host.exec cmd else host)

/-- A message on the link, with what becomes of it. -/
def carry (link : Link) (x : Message × Answer) : Link :=
  match x.1.hostCmd with
  | none => link
  | some cmd => link.send cmd x.2

/-- The messages sent so far went over the link, none of them too late: the host is that of
the link, and the calls have returned what the link's answers say. -/
def LinkRefines (respond : Host → HostCmd → Nat) (q : ControlQueue) : Prop :=
  ∀ ms : List Message, q.submitted = ms.map Message.submission →
    ∃ answers : List Answer, answers.length = ms.length ∧ .timeout ∉ answers ∧
      (HostModel.ofHost respond).after (q.executed.filterMap Execution.bytes) =
        ((ms.zip answers).foldl carry .empty).host ∧
      q.returns.map Return.ret = answers.map Answer.ret

/-! ## The way there -/

variable {respond : Host → HostCmd → Nat}

/-- A command that the host answers is a command on the link. -/
theorem serve_eq (link : Link) (m : Message) :
    ((HostModel.ofHost respond).serve link.host m.command).2 = (carry link (m,
      .reply ((HostModel.ofHost respond).serve link.host m.command).1)).host := by
  have hserve : (HostModel.ofHost respond).serve link.host m.command =
      match m.hostCmd with
      | none => (respOkNodata, link.host)
      | some cmd => (respond link.host cmd,
          if respIsOk (respond link.host cmd) then link.host.exec cmd else link.host) := rfl
  rw [hserve, carry]
  cases m.hostCmd with
  | none => rfl
  | some cmd => rfl

/-- One more call: there is an answer that stands for it. -/
theorem exists_answer (respond : Host → HostCmd → Nat) {s : HostCalls Host} {link : Link}
    (hhost : s.host = link.host) {x : Message × Option IOReturn}
    (hrefusal : ∀ r, x.2 = some r → ControlQueue.Refusal r) :
    ∃ a : Answer, a ≠ .timeout ∧ (s.call (.ofHost respond) x).host = (carry link (x.1, a)).host ∧
      (s.call (.ofHost respond) x).returns = s.returns ++ [a.ret] := by
  obtain ⟨m, outcome⟩ := x
  cases outcome with
  | none =>
      refine ⟨.reply ((HostModel.ofHost respond).serve link.host m.command).1, by simp, ?_, ?_⟩
      · show ((HostModel.ofHost respond).serve s.host m.command).2 = _
        rw [hhost]
        exact serve_eq link m
      · rw [← hhost]
        rfl
  | some r =>
      have hcarry : ∀ why, (carry link (m, .refused why)).host = link.host := by
        intro why
        unfold carry
        cases m.hostCmd with
        | none => rfl
        | some cmd => rfl
      rcases hrefusal r rfl with rfl | rfl
      · exact ⟨.refused .noResources, by simp, hhost.trans (hcarry _).symm, rfl⟩
      · exact ⟨.refused .noMemory, by simp, hhost.trans (hcarry _).symm, rfl⟩

theorem exists_answers (respond : Host → HostCmd → Nat) (calls : List (Message × Option IOReturn))
    (hrefusal : ∀ x ∈ calls, ∀ r, x.2 = some r → ControlQueue.Refusal r) :
    ∃ answers : List Answer, answers.length = calls.length ∧ .timeout ∉ answers ∧
      (HostCalls.run (.ofHost respond) calls).host =
        (((calls.map Prod.fst).zip answers).foldl carry .empty).host ∧
      (HostCalls.run (.ofHost respond) calls).returns = answers.map Answer.ret := by
  induction calls using List.reverseRecOn with
  | nil => exact ⟨[], rfl, List.not_mem_nil, rfl, rfl⟩
  | append_singleton calls x ih =>
      obtain ⟨answers, hlen, htimeout, hhost, hreturns⟩ :=
        ih fun x hx => hrefusal x (List.mem_append_left _ hx)
      obtain ⟨a, hne, hcall, hret⟩ := exists_answer respond hhost
        (hrefusal x (List.mem_append_right _ (List.mem_singleton_self x)))
      refine ⟨answers ++ [a], ?_, ?_, ?_, ?_⟩
      · rw [List.length_append, List.length_append, hlen]
        rfl
      · intro hmem
        rcases List.mem_append.mp hmem with hmem | hmem
        · exact htimeout hmem
        · exact hne (List.mem_singleton.mp hmem).symm
      · rw [HostCalls.run_append_singleton, hcall, List.map_append, List.map_singleton,
          List.zip_append (by rw [List.length_map, hlen]), List.foldl_append]
        rfl
      · rw [HostCalls.run_append_singleton, hret, hreturns, List.map_append]
        rfl

/-- **The link is the queue**: with a prompt device that hands the commands it reads to a
host, on a queue of any size that can be negotiated, whenever no call is under way the
messages sent so far went over a link. -/
theorem refines_link {offered size : Nat} (hoffered : negotiatedSize offered = some size)
    {evs : List ControlQueue.Event}
    (hprompt : (ControlQueue.machine size).Along ControlQueue.Prompt
      (ControlQueue.machine size).init evs)
    (hans : (ControlQueue.machine size).Along
      (ControlQueue.Answering (HostModel.ofHost respond).answer)
      (ControlQueue.machine size).init evs) :
    (ControlQueue.machine size).Always (fun q => q.pc = .idle → LinkRefines respond q)
      (ControlQueue.machine size).init evs := by
  refine (refines_hostCalls _ hoffered hprompt hans).imp _ fun q hq hidle ms hms => ?_
  obtain ⟨calls, rfl, hrefusal, hhost, hreturns⟩ := hq hidle ms hms
  obtain ⟨answers, hlen, htimeout, hlink, hret⟩ := exists_answers respond calls hrefusal
  refine ⟨answers, ?_, htimeout, hhost.trans hlink, hreturns.trans hret⟩
  rw [hlen, List.length_map]

/-- A resource is created and flushed. -/
theorem refines_link_flush :
    let evs := ControlQueue.answered (Message.createResource2D 5 1 64 64).submission ++
      ControlQueue.answered (Message.flushResource 5 0 0 64 64).submission
    negotiatedSize 3 = some 2 ∧ (ControlQueue.machine 2).Always
      (fun q => q.pc = .idle → LinkRefines (fun _ _ => respOkNodata) q)
      (ControlQueue.machine 2).init evs := by
  have hsize : negotiatedSize 3 = some 2 := by
    rw [negotiatedSize_eq (by decide)]
    decide
  exact ⟨hsize, refines_link hsize (by decide) (by decide)⟩

end VirtioGpu
end VMQemuVGA
