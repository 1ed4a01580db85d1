import VMQemuVGA.Lib.FreeList
import VMQemuVGA.Lib.Machine
import VMQemuVGA.Virtqueue.Vring

/-! # `submitCursorCommand`

The cursor queue is driven like the control queue, but a call does not look at
what is on the used ring when it starts, and it moves on by one used element
when it succeeds and by none when it gives up. So a call that gave up leaves
its element to the next one. -/

namespace VMQemuVGA

/-- A call under way. -/
structure CursorCall where
  no : Nat
  sub : Submission
  cmdDesc : Nat
  respDesc : Nat
  deriving DecidableEq, Repr

inductive CursorPc where
  | idle
  | filled (c : CursorCall)
  | polling (c : CursorCall)
  deriving DecidableEq, Repr

/-- The call whose chain is published. -/
def CursorPc.published? : CursorPc → Option CursorCall
  | polling c => some c
  | _ => none

structure CursorQueue where
  ring : Vring
  free : FreeList
  lastUsed : Nat
  /-- the bytes of `m_cursor_cmd_buf` -/
  cmdBuf : List UInt8
  pc : CursorPc
  calls : Nat
  returns : List Return

namespace CursorQueue

def init (size : Nat) : CursorQueue where
  ring := .init size
  free := .upTo size
  lastUsed := 0
  cmdBuf := List.replicate 128 0
  pc := .idle
  calls := 0
  returns := []

/-! ## The driver -/

def leave (q : CursorQueue) (no : Nat) (ret : IOReturn) (consumed : Option RingEntry) :
    CursorQueue :=
  { q with pc := .idle, returns := q.returns ++ [⟨no, ret, consumed⟩] }

/-- Fill the two descriptors of a call. -/
def fillDescs (v : Vring) (sub : Submission) (cmdDesc respDesc : Nat) : Vring :=
  (v.setDesc cmdDesc ⟨.command, sub.bytes.length % u32, some respDesc, false⟩).setDesc respDesc
    ⟨.response, min (sub.respSize.getD 0) 64, none, true⟩

/-- Pop two descriptors, copy the command and fill the descriptors. -/
def enter (q : CursorQueue) (sub : Submission) : CursorQueue :=
  let q₁ := { q with calls := q.calls + 1 }
  match q.free.pop with
  | none => q₁.leave q.calls .noResources none
  | some (cmdDesc, free₁) =>
      match free₁.pop with
      | none => { q₁ with free := free₁.push cmdDesc }.leave q.calls .noResources none
      | some (respDesc, free₂) =>
          { q₁ with
            free := free₂
            cmdBuf := sub.bytes ++ q.cmdBuf.drop sub.bytes.length
            ring := fillDescs q.ring sub cmdDesc respDesc
            pc := .filled ⟨q.calls, sub, cmdDesc, respDesc⟩ }

/-- Put the chain on the available ring and notify the device; a device that
cannot be notified is only logged. -/
def publish (q : CursorQueue) (c : CursorCall) : CursorQueue :=
  { q with ring := q.ring.publish ⟨c.cmdDesc, some c.no⟩, pc := .polling c }

/-- Return the descriptors, the response's first. -/
def returnDescs (q : CursorQueue) (c : CursorCall) : CursorQueue :=
  { q with free := (q.free.push c.respDesc).push c.cmdDesc }

/-- One turn of the polling loop; `expired` says whether the deadline is over.
The response, whatever it says, is a success. -/
def poll (q : CursorQueue) (c : CursorCall) (expired : Bool) : CursorQueue :=
  if q.ring.usedIdx ≠ q.lastUsed then
    let x := q.ring.usedAt q.lastUsed
    ({ q with lastUsed := inc16 q.lastUsed }.returnDescs c).leave c.no .success (some x)
  else if expired = true then (q.returnDescs c).leave c.no .timeout none
  else q

/-! ## Runs -/

inductive Event where
  | enter (sub : Submission)
  | publish
  | poll (expired : Bool)
  /-- the device takes a chain -/
  | take
  /-- the device completes the chain it took first -/
  | complete
  deriving DecidableEq, Repr

def step (q : CursorQueue) (ev : Event) : Option CursorQueue :=
  match ev, q.pc with
  | .enter sub, .idle => some (q.enter sub)
  | .publish, .filled c => some (q.publish c)
  | .poll expired, .polling c => some (q.poll c expired)
  | .take, _ => q.ring.take.map fun x => { q with ring := x.2 }
  | .complete, _ => (q.ring.complete 0).map fun x => { q with ring := x.2 }
  | _, _ => none

def machine (size : Nat) : Machine CursorQueue Event where
  init := init size
  step := step

/-- Every call that succeeded consumed the completion of its own chain. -/
def OwnCompletions (q : CursorQueue) : Prop :=
  ∀ r ∈ q.returns, r.ret = .success → ∃ x, r.consumed = some x ∧ x.call = some r.call

/-- No call has given up so far. -/
def NoneTimedOut (q : CursorQueue) : Prop := ∀ r ∈ q.returns, r.ret ≠ .timeout

/-- A call finds a completion only as long as no call before it gave up. -/
def InTime (q : CursorQueue) : Event → Prop
  | .poll _ => q.ring.usedIdx ≠ q.lastUsed → q.NoneTimedOut
  | _ => True

instance (q : CursorQueue) (ev : Event) : Decidable (q.InTime ev) :=
  match ev with
  | .poll _ => inferInstanceAs (Decidable (q.ring.usedIdx ≠ q.lastUsed →
      ∀ r ∈ q.returns, r.ret ≠ .timeout))
  | .enter _ | .publish | .take | .complete => isTrue trivial

/-! ## As long as no call has given up -/

/-- How far the chain of the call under way, if it is published, has come. There
is nothing else between driver and device. -/
inductive Stage (q : CursorQueue) : Option CursorCall → Prop where
  | nothing (hseen : q.ring.seen = q.ring.availIdx) (hflight : q.ring.inFlight = [])
      (hused : q.ring.usedIdx = q.lastUsed) : Stage q none
  | waiting (c) (hseen : inc16 q.ring.seen = q.ring.availIdx) (hflight : q.ring.inFlight = [])
      (hused : q.ring.usedIdx = q.lastUsed)
      (hentry : (q.ring.availRing (q.ring.seen % q.ring.size)).call = some c.no) :
      Stage q (some c)
  | taken (c) (x) (hseen : q.ring.seen = q.ring.availIdx) (hflight : q.ring.inFlight = [x])
      (hused : q.ring.usedIdx = q.lastUsed) (hcall : x.call = some c.no) : Stage q (some c)
  | landed (c) (hseen : q.ring.seen = q.ring.availIdx) (hflight : q.ring.inFlight = [])
      (hused : q.ring.usedIdx = inc16 q.lastUsed)
      (hentry : (q.ring.usedAt q.lastUsed).call = some c.no) : Stage q (some c)

/-- What every step keeps that finds completions in time only. -/
structure Inv (q : CursorQueue) : Prop where
  own : q.OwnCompletions
  stage : q.NoneTimedOut → q.Stage q.pc.published?

theorem own_leave {q : CursorQueue} {no : Nat} {ret : IOReturn} {consumed : Option RingEntry}
    (h : q.OwnCompletions)
    (hret : ret = .success → ∃ x, consumed = some x ∧ x.call = some no) :
    (q.leave no ret consumed).OwnCompletions := by
  intro r hr hsucc
  rcases List.mem_append.mp hr with hr | hr
  · exact h r hr hsucc
  · rw [List.mem_singleton.mp hr] at hsucc ⊢
    exact hret hsucc

theorem noneTimedOut_of_leave {q : CursorQueue} {no : Nat} {ret : IOReturn}
    {consumed : Option RingEntry} (h : (q.leave no ret consumed).NoneTimedOut) :
    q.NoneTimedOut ∧ ret ≠ .timeout :=
  ⟨fun r hr => h r (List.mem_append_left _ hr), h _ (List.mem_append_right _ List.mem_cons_self)⟩

/-- Nothing is under way, and nothing changed that the device looks at. -/
theorem stage_none {q t : CursorQueue} (h : q.Stage none) (hseen : t.ring.seen = q.ring.seen)
    (havail : t.ring.availIdx = q.ring.availIdx) (hflight : t.ring.inFlight = q.ring.inFlight)
    (hused : t.ring.usedIdx = q.ring.usedIdx) (hlast : t.lastUsed = q.lastUsed) :
    t.Stage none := by
  obtain ⟨h₁, h₂, h₃⟩ := h
  exact .nothing (by rw [hseen, havail, h₁]) (by rw [hflight, h₂]) (by rw [hused, hlast, h₃])

theorem inv_enter {q : CursorQueue} (sub : Submission) (hpc : q.pc = .idle) (h : q.Inv) :
    (q.enter sub).Inv := by
  have hstage : q.NoneTimedOut → q.Stage none := by
    intro hnone
    have hs := h.stage hnone
    rwa [hpc] at hs
  unfold enter
  split
  · refine ⟨own_leave h.own IOReturn.noConfusion, fun hnone => ?_⟩
    exact stage_none (hstage (noneTimedOut_of_leave hnone).1) rfl rfl rfl rfl rfl
  dsimp only
  split
  · refine ⟨own_leave h.own IOReturn.noConfusion, fun hnone => ?_⟩
    exact stage_none (hstage (noneTimedOut_of_leave hnone).1) rfl rfl rfl rfl rfl
  · exact ⟨h.own, fun hnone => stage_none (hstage hnone) rfl rfl rfl rfl rfl⟩

theorem inv_publish {q : CursorQueue} {c : CursorCall} (hpc : q.pc = .filled c) (h : q.Inv) :
    (q.publish c).Inv := by
  refine ⟨h.own, fun hnone => ?_⟩
  have hs := h.stage hnone
  rw [hpc] at hs
  obtain ⟨hseen, hflight, hused⟩ := hs
  refine .waiting c ?_ hflight hused ?_
  · show inc16 q.ring.seen = inc16 q.ring.availIdx
    rw [hseen]
  · show (Function.update q.ring.availRing (q.ring.availIdx % q.ring.size) _
      (q.ring.seen % q.ring.size)).call = _
    rw [hseen, Function.update_self]

theorem inv_poll {q : CursorQueue} {c : CursorCall} (expired : Bool) (hpc : q.pc = .polling c)
    (hin : q.InTime (.poll expired)) (h : q.Inv) : (q.poll c expired).Inv := by
  unfold poll
  split
  · next hne =>
    -- the one completion there is belongs to the chain of this call
    have hs := h.stage (hin hne)
    rw [hpc] at hs
    rcases hs with _ | ⟨_, -, -, hused, -⟩ | ⟨_, _, -, -, hused, -⟩ |
      ⟨_, hseen, hflight, hused, hentry⟩
    · exact absurd hused hne
    · exact absurd hused hne
    · exact ⟨own_leave h.own fun _ => ⟨_, rfl, hentry⟩, fun _ => .nothing hseen hflight hused⟩
  split
  · refine ⟨own_leave h.own IOReturn.noConfusion, fun hnone => ?_⟩
    exact absurd rfl (noneTimedOut_of_leave hnone).2
  · exact h

theorem inv_take {q : CursorQueue} {x : RingEntry × Vring} (hx : q.ring.take = some x)
    (h : q.Inv) : CursorQueue.Inv { q with ring := x.2 } := by
  obtain ⟨y, ring⟩ := x
  obtain ⟨hne, rfl, rfl⟩ := Vring.take_eq_some hx
  refine ⟨h.own, fun hnone => ?_⟩
  have hs := h.stage hnone
  show Stage _ q.pc.published?
  generalize q.pc.published? = c at hs ⊢
  rcases hs with ⟨hseen, -, -⟩ | ⟨c, hseen, hflight, hused, hentry⟩ | ⟨c, _, hseen, -⟩ |
    ⟨c, hseen, -⟩
  · exact absurd hseen hne
  · refine .taken c _ hseen ?_ hused hentry
    show q.ring.inFlight ++ _ = _
    rw [hflight]
    rfl
  · exact absurd hseen hne
  · exact absurd hseen hne

theorem inv_complete {q : CursorQueue} {x : RingEntry × Vring} (hx : q.ring.complete 0 = some x)
    (h : q.Inv) : CursorQueue.Inv { q with ring := x.2 } := by
  obtain ⟨y, ring⟩ := x
  obtain ⟨hget, rfl⟩ := Vring.complete_eq_some hx
  refine ⟨h.own, fun hnone => ?_⟩
  have hs := h.stage hnone
  show Stage _ q.pc.published?
  generalize q.pc.published? = c at hs ⊢
  rcases hs with ⟨-, hflight, -⟩ | ⟨c, -, hflight, -⟩ | ⟨c, z, hseen, hflight, hused, hcall⟩ |
    ⟨c, -, hflight, -⟩
  · rw [hflight] at hget
    cases hget
  · rw [hflight] at hget
    cases hget
  · rw [hflight, List.getElem?_cons_zero, Option.some.injEq] at hget
    subst hget
    refine .landed c hseen ?_ (congrArg inc16 hused) ?_
    · show q.ring.inFlight.eraseIdx 0 = []
      rw [hflight]
      rfl
    · show (Function.update q.ring.usedRing (q.ring.usedIdx % q.ring.size) z
        (q.lastUsed % q.ring.size)).call = _
      rw [hused, Function.update_self, hcall]
  · rw [hflight] at hget
    cases hget

/-! ## All runs -/

theorem step_inv (q : CursorQueue) (ev : Event) (t : CursorQueue) (h : q.Inv)
    (hin : q.InTime ev) (hstep : q.step ev = some t) : t.Inv := by
  unfold step at hstep
  split at hstep
  · next hpc =>
    cases hstep
    exact inv_enter _ hpc h
  · next hpc =>
    cases hstep
    exact inv_publish hpc h
  · next hpc =>
    cases hstep
    exact inv_poll _ hpc hin h
  · obtain ⟨x, hx, rfl⟩ := Option.map_eq_some_iff.mp hstep
    exact inv_take hx h
  · obtain ⟨x, hx, rfl⟩ := Option.map_eq_some_iff.mp hstep
    exact inv_complete hx h
  · cases hstep

/-- **As long as completions are found only while no call has given up, every
call that succeeds consumed its own.** -/
theorem always_ownCompletions (size : Nat) (evs : List Event)
    (hin : (machine size).Along InTime (machine size).init evs) :
    (machine size).Always OwnCompletions (machine size).init evs := by
  have hinit : (machine size).init.Inv :=
    ⟨fun r hr => (by cases hr), fun _ => .nothing rfl rfl rfl⟩
  exact ((machine size).always_of_along step_inv hinit hin).imp _ fun q h => h.own

/-- A cursor command with room for the header of a response. -/
def moveCursor : Submission := { bytes := List.replicate 56 0, respSize := some 24 }

/-- Two prompt calls, and one that gives up. -/
theorem ownCompletions_of_prompt :
    (machine 16).Always OwnCompletions (machine 16).init
      [.enter moveCursor, .publish, .poll false, .take, .complete, .poll false,
        .enter moveCursor, .publish, .take, .poll false, .complete, .poll true,
        .enter moveCursor, .publish, .poll true, .take, .complete] :=
  always_ownCompletions 16 _ (by decide)

/-- The call after one that gave up succeeds on the other's completion, its own
chain not even taken. -/
theorem stale_completion_taken :
    ¬ (machine 16).Always OwnCompletions (machine 16).init
      [.enter moveCursor, .publish, .poll true, .take, .complete,
        .enter moveCursor, .publish, .poll false] := by
  intro h
  have hrun : ((machine 16).run (machine 16).init
      [.enter moveCursor, .publish, .poll true, .take, .complete,
        .enter moveCursor, .publish, .poll false]).any
      (fun q => decide (q.returns = [⟨0, .timeout, none⟩, ⟨1, .success, some ⟨0, some 0⟩⟩])) =
        true := by
    decide
  obtain ⟨q, hq, hreturns⟩ := h.of_any _ hrun
  obtain ⟨x, hx, hown⟩ :=
    hq ⟨1, .success, some ⟨0, some 0⟩⟩ (by simp [of_decide_eq_true hreturns]) rfl
  cases hx
  cases hown

end CursorQueue
end VMQemuVGA
