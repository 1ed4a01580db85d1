import VMQemuVGA.Virtqueue.Ownership
import VMQemuVGA.Virtqueue.Wraparound

/-! # A queue as remote calls

What the queue is for: a call has its command executed by the host and returns the host's
answer, one call after the other. With a device that completes every chain while its call
polls, `submitCommand` is just that, whatever the device and the calls do in between. -/

namespace VMQemuVGA

/-! ## Remote calls -/

/-- The commands the host has executed, and what the calls have returned. -/
structure RemoteCalls where
  executed : List (List UInt8)
  returns : List IOReturn

namespace RemoteCalls

/-- One call: it is refused, and nothing happens, or its command is executed, and the host
answers by all commands so far. -/
def call (answer : List (List UInt8) → Nat) (s : RemoteCalls) :
    Submission × Option IOReturn → RemoteCalls
  | (_, some refusal) => { s with returns := s.returns ++ [refusal] }
  | (sub, none) =>
      { executed := s.executed ++ [sub.bytes]
        returns := s.returns ++
          [ControlQueue.status sub (answer (s.executed ++ [sub.bytes]))] }

def run (answer : List (List UInt8) → Nat) (calls : List (Submission × Option IOReturn)) :
    RemoteCalls :=
  calls.foldl (call answer) ⟨[], []⟩

@[simp] theorem run_append_singleton (answer : List (List UInt8) → Nat)
    (calls : List (Submission × Option IOReturn)) (x : Submission × Option IOReturn) :
    run answer (calls ++ [x]) = (run answer calls).call answer x := by
  rw [run, List.foldl_append]
  rfl

end RemoteCalls

namespace ControlQueue

/-- What a call is refused with before its command is published. -/
def Refusal (r : IOReturn) : Prop := r = .noResources ∨ r = .noMemory

/-- The calls that returned were remote calls. -/
def Refines (answer : List (List UInt8) → Nat) (q : ControlQueue) : Prop :=
  ∃ calls, calls.map Prod.fst = q.submitted ∧
    (∀ x ∈ calls, ∀ r, x.2 = some r → Refusal r) ∧
    q.executed.map Execution.bytes = (RemoteCalls.run answer calls).executed.map some ∧
    q.returns.map Return.ret = (RemoteCalls.run answer calls).returns

/-- The device answers by the commands it has executed. -/
def Answering (answer : List (List UInt8) → Nat) (q : ControlQueue) : Event → Prop
  | .complete _ respType => respType = answer (q.executed.filterMap Execution.bytes)
  | _ => True

instance (answer : List (List UInt8) → Nat) (q : ControlQueue) (ev : Event) :
    Decidable (q.Answering answer ev) :=
  match ev with
  | .complete _ respType =>
      inferInstanceAs (Decidable (respType = answer (q.executed.filterMap Execution.bytes)))
  | .enter .. | .copy .. | .fill | .publish .. | .poll | .read | .release | .exec => isTrue trivial

/-! ## The simulation -/

/-- The calls before the one under way are remote calls; the command of that one has been
executed as soon as the device has taken its chain, and answered as soon as the chain is on
the used ring. -/
structure Mirrors (answer : List (List UInt8) → Nat) (calls : List (Submission × Option IOReturn))
    (q : ControlQueue) : Prop where
  submitted : q.submitted = calls.map Prod.fst ++ q.pc.call?.toList.map Call.sub
  refusals : ∀ x ∈ calls, ∀ r, x.2 = some r → Refusal r
  returns : q.returns.map Return.ret = (RemoteCalls.run answer calls).returns
  before : q.pc.sent? = none ∨ q.ring.seen ≠ q.ring.availIdx →
    q.executed.map Execution.bytes = (RemoteCalls.run answer calls).executed.map some
  after : ∀ c, q.pc.sent? = some c → q.ring.seen = q.ring.availIdx →
    q.executed.map Execution.bytes =
      ((RemoteCalls.run answer calls).executed ++ [c.sub.bytes]).map some
  answered : ∀ c, q.pc.sent? = some c → q.ring.usedIdx ≠ q.lastUsed →
    q.respType = answer ((RemoteCalls.run answer calls).executed ++ [c.sub.bytes])
  own : ∀ ch ∈ q.outstanding, ∃ c, q.pc.sent? = some c ∧ ch.buffer = c.buffer

variable {answer : List (List UInt8) → Nat} {calls : List (Submission × Option IOReturn)}
  {size : Nat} {q t : ControlQueue} {log : RingLog} {c : Call}

theorem Mirrors.refines (h : q.Mirrors answer calls) (hidle : q.pc = .idle) :
    q.Refines answer := by
  refine ⟨calls, ?_, h.refusals, h.before (.inl ?_), h.returns⟩
  · have hsub := h.submitted
    rw [hidle] at hsub
    simpa [Pc.call?] using hsub.symm
  · rw [hidle]
    rfl

/-- A call that is refused, or gives up before its chain is published. -/
theorem Mirrors.refused {sub : Submission} {r : IOReturn} (h : q.Mirrors answer calls)
    (hr : Refusal r) (hsent : q.pc.sent? = none) (hout : q.outstanding = [])
    (hpc : t.pc = .idle) (hsub : t.submitted = calls.map Prod.fst ++ [sub])
    (hexec : t.executed = q.executed) (hout' : t.outstanding = q.outstanding)
    (hret : t.returns.map Return.ret = q.returns.map Return.ret ++ [r]) :
    t.Mirrors answer (calls ++ [(sub, some r)]) where
  submitted := by
    rw [hsub, hpc]
    simp [Pc.call?]
  refusals x hx r' hr' := by
    rcases List.mem_append.mp hx with hx | hx
    · exact h.refusals x hx r' hr'
    · rw [List.mem_singleton.mp hx] at hr'
      exact Option.some.inj hr' ▸ hr
  returns := by
    rw [hret, h.returns, RemoteCalls.run_append_singleton]
    rfl
  before _ := by
    rw [hexec, h.before (.inl hsent), RemoteCalls.run_append_singleton]
    rfl
  after c hc := by
    rw [hpc] at hc
    cases hc
  answered c hc := by
    rw [hpc] at hc
    cases hc
  own ch hch := by
    rw [hout', hout] at hch
    cases hch

/-- The call goes on, with the rings as they are. -/
theorem Mirrors.go (h : q.Mirrors answer calls) (hcall : t.pc.call? = q.pc.call?)
    (hsent : t.pc.sent? = q.pc.sent?) (hsub : t.submitted = q.submitted)
    (hret : t.returns = q.returns) (hexec : t.executed = q.executed)
    (hseen : t.ring.seen = q.ring.seen) (havail : t.ring.availIdx = q.ring.availIdx)
    (hused : t.ring.usedIdx = q.ring.usedIdx) (hlast : t.lastUsed = q.lastUsed)
    (hresp : t.respType = q.respType) (hout : t.outstanding = q.outstanding) :
    t.Mirrors answer calls where
  submitted := by rw [hsub, hcall, h.submitted]
  refusals := h.refusals
  returns := by rw [hret, h.returns]
  before := by rw [hsent, hseen, havail, hexec]; exact h.before
  after := by rw [hsent, hseen, havail, hexec]; exact h.after
  answered := by rw [hsent, hused, hlast, hresp]; exact h.answered
  own := by rw [hsent, hout]; exact h.own

/-! ## The steps -/

/-- What `acquire` refuses with. -/
theorem acquire_refusal (q : ControlQueue) (sub : Submission) (alloc : Bool) :
    (∃ r, Refusal r ∧ q.acquire sub alloc = q.refuse r) ∨
      ∃ free temps nextTemp c, c.sub = sub ∧ q.acquire sub alloc =
        { q with free := free, temps := temps, nextTemp := nextTemp, pc := .entered c } := by
  unfold acquire
  split
  · exact .inl ⟨_, .inl rfl, rfl⟩
  next cmdDesc free₁ hcmd =>
  split
  · rw [FreeList.push_of_pop hcmd]
    exact .inl ⟨_, .inl rfl, rfl⟩
  next respDesc free₂ hresp =>
  dsimp only
  split
  · exact .inr ⟨_, q.temps, q.nextTemp, _, rfl, rfl⟩
  split
  · exact .inr ⟨_, _, _, _, rfl, rfl⟩
  · rw [FreeList.push_of_pop hresp, FreeList.push_of_pop hcmd]
    exact .inl ⟨_, .inr rfl, rfl⟩

theorem mirrors_enter (sub : Submission) (alloc : Bool) (hpc : q.pc = .idle)
    (hsteady : q.Steady size log) (h : q.Mirrors answer calls) :
    ∃ calls, (q.enter sub alloc).Mirrors answer calls := by
  have hsent : q.pc.sent? = none := by
    rw [hpc]
    rfl
  have hout := (hsteady.progress.of_unsent hsent).1
  have hsub : (q.drain sub).submitted = calls.map Prod.fst ++ [sub] := by
    have hq := h.submitted
    rw [hpc] at hq
    show q.submitted ++ [sub] = _
    rw [hq]
    simp [Pc.call?]
  unfold enter
  split
  · exact ⟨calls, h⟩
  rcases acquire_refusal (q.drain sub) sub alloc with
    ⟨r, hr, heq⟩ | ⟨free, temps, next, c, hc, heq⟩
  · rw [heq]
    refine ⟨_, h.refused hr hsent hout hpc hsub rfl rfl ?_⟩
    simp [refuse, drain]
  · rw [heq]
    refine ⟨calls, ?_, h.refusals, h.returns, fun _ => h.before (.inl hsent), fun c' hc' => ?_,
      fun c' hc' => ?_, fun ch hch => ?_⟩
    · show (q.drain sub).submitted = _
      rw [hsub]
      simp [Pc.call?, hc]
    · cases hc'
    · cases hc'
    · have hch : ch ∈ q.outstanding := hch
      rw [hout] at hch
      cases hch

theorem mirrors_copy (cmdPhys respPhys : Bool) (hpc : q.pc = .entered c)
    (hsteady : q.Steady size log) (h : q.Mirrors answer calls) :
    ∃ calls, (q.copy c cmdPhys respPhys).Mirrors answer calls := by
  have hsent : q.pc.sent? = none := by
    rw [hpc]
    rfl
  have hout := (hsteady.progress.of_unsent hsent).1
  have hsub : q.submitted = calls.map Prod.fst ++ [c.sub] := by
    have hq := h.submitted
    rw [hpc] at hq
    exact hq
  have hcopied := copy_copied q c cmdPhys respPhys
  generalize q.copy c cmdPhys respPhys = t at hcopied ⊢
  cases hcopied with
  | noCommand =>
      exact ⟨_, h.refused (.inr rfl) hsent hout rfl hsub rfl rfl (by simp [leave])⟩
  | noResponse =>
      exact ⟨_, h.refused (.inr rfl) hsent hout rfl hsub rfl rfl (by simp [leave])⟩
  | copied =>
      refine ⟨calls, h.go ?_ ?_ rfl rfl rfl rfl rfl rfl rfl rfl rfl⟩
      · rw [hpc]
        rfl
      · rw [hpc]
        rfl

/-- The chain is on the available ring and has not been taken. -/
theorem mirrors_publish (hpc : q.pc = .filled c) (hsteady : q.Steady size log)
    (h : q.Mirrors answer calls) : (q.publish c true).Mirrors answer calls := by
  have hsent : q.pc.sent? = none := by
    rw [hpc]
    rfl
  obtain ⟨hout, hseen, -, hused, -⟩ := hsteady.progress.of_unsent hsent
  refine ⟨?_, h.refusals, h.returns, fun _ => h.before (.inl hsent), fun c' _ heq => ?_,
    fun c' _ hne => absurd hused hne, fun ch hch => ⟨c, rfl, ?_⟩⟩
  · have hq := h.submitted
    rw [hpc] at hq
    exact hq
  · have heq : q.ring.seen = inc16 q.ring.availIdx := heq
    exact absurd (hseen.symm.trans heq).symm (inc16_ne _)
  · have hch : ch ∈ q.outstanding ++ [⟨c.no, c.cmdDesc, c.respDesc, c.buffer⟩] := hch
    rw [hout, List.nil_append, List.mem_singleton] at hch
    rw [hch]

theorem mirrors_poll {i : Nat} (hpc : q.pc = .polling c i) (hsteady : q.Steady size log)
    (hprompt : q.Prompt .poll) (h : q.Mirrors answer calls) :
    (q.poll c i).Mirrors answer calls := by
  have hgo : ∀ pc : Pc, pc.call? = some c → pc.sent? = some c →
      ({ q with pc := pc }).Mirrors answer calls := by
    intro pc hcall hsent
    refine h.go ?_ ?_ rfl rfl rfl rfl rfl rfl rfl rfl rfl
    · rw [hpc]
      exact hcall
    · rw [hpc]
      exact hsent
  unfold poll
  split
  · exact hgo _ rfl rfl
  split
  · exact hgo _ rfl rfl
  next hused hlast =>
  -- the last look finds the chain on the used ring
  have hlook : c ∈ q.pc.lastLook? := by
    rw [hpc]
    exact if_neg hlast
  cases hsteady.progress with
  | through hcall =>
      rw [hpc] at hcall
      cases hcall
  | waiting c' i' ch hpc' hout hch =>
      obtain ⟨rfl, rfl⟩ := Pc.polling.inj (hpc.symm.trans hpc')
      exact absurd hch (hprompt c hlook ch (hout ▸ List.mem_singleton_self ch))
  | taken c' i' ch hpc' hout hch =>
      obtain ⟨rfl, rfl⟩ := Pc.polling.inj (hpc.symm.trans hpc')
      exact absurd hch (hprompt c hlook ch (hout ▸ List.mem_singleton_self ch))
  | landed c' hcall hout hpub hseen hflight hidx =>
      exact absurd (hidx ▸ inc16_ne _) hused

/-- The call returns: it has become a remote call. -/
theorem mirrors_read (hpc : q.pc = .found c) (hsteady : q.Steady size log)
    (h : q.Mirrors answer calls) : (q.read c).Mirrors answer (calls ++ [(c.sub, none)]) := by
  have hsent : q.pc.sent? = some c := by
    rw [hpc]
    rfl
  cases hsteady.progress with
  | through hcall =>
      rw [hpc] at hcall
      cases hcall
  | waiting c' i' ch hpc' => exact absurd (hpc.symm.trans hpc') nofun
  | taken c' i' ch hpc' => exact absurd (hpc.symm.trans hpc') nofun
  | landed c' hcall hout hpub hseen hflight hused =>
      have hresp := h.answered c hsent (hused ▸ inc16_ne _)
      refine ⟨?_, fun x hx r hr => ?_, ?_, fun _ => ?_, fun c' hc' => (by cases hc'),
        fun c' hc' => (by cases hc'), fun ch hch => ?_⟩
      · have hq := h.submitted
        rw [hpc] at hq
        show q.submitted = _
        rw [hq]
        simp [Pc.call?, read, leave]
      · rcases List.mem_append.mp hx with hx | hx
        · exact h.refusals x hx r hr
        · rw [List.mem_singleton.mp hx] at hr
          cases hr
      · rw [show (q.read c).returns.map Return.ret =
            q.returns.map Return.ret ++ [status c.sub q.respType] by simp [read, leave, consume]]
        rw [h.returns, RemoteCalls.run_append_singleton, hresp]
        rfl
      · show q.executed.map Execution.bytes = _
        rw [h.after c hsent hseen, RemoteCalls.run_append_singleton]
        rfl
      · have hch : ch ∈ q.outstanding := hch
        rw [hout] at hch
        cases hch

theorem mirrors_fill (hpc : q.pc = .copied c) (h : q.Mirrors answer calls) :
    (q.fill c).Mirrors answer calls := by
  refine h.go ?_ ?_ rfl rfl rfl rfl rfl rfl rfl rfl rfl
  · rw [hpc]
    rfl
  · rw [hpc]
    rfl

theorem mirrors_release {n : Nat} (rest : List Nat) (h : q.Mirrors answer calls) :
    ({ q.freeTemp n with toRelease := rest } : ControlQueue).Mirrors answer calls :=
  h.go rfl rfl rfl rfl rfl rfl rfl rfl rfl rfl rfl

/-- The device reads the command of the call under way. -/
theorem mirrors_exec (hexec : q.exec = some t) (hsteady : q.Steady size log) (hkept : q.Kept)
    (h : q.Mirrors answer calls) : t.Mirrors answer calls := by
  obtain ⟨x, ring, hx, rfl⟩ := exec_eq_some hexec
  obtain ⟨hne, hxeq, rfl⟩ := Vring.take_eq_some hx
  cases hsteady.progress with
  | through _ _ hseen => exact absurd hseen hne
  | taken _ _ _ _ _ _ _ hseen => exact absurd hseen hne
  | landed _ _ _ _ hseen => exact absurd hseen hne
  | waiting c i ch hpc hout hch hpub hseen hflight hentry hused =>
      have hcall : q.pc.call? = some c := by
        rw [hpc]
        rfl
      have hsent : q.pc.sent? = some c := by
        rw [hpc]
        rfl
      have hbytes : q.bytesAt (q.ring.desc x.head).buffer (q.ring.desc x.head).len =
          some c.sub.bytes := by
        cases hkept.stage with
        | none hout' =>
            rw [hout] at hout'
            cases hout'
        | taken ch' hout' hseen' => exact absurd hseen' hne
        | waiting ch' hout' hseen' hflight' hentry' hready =>
            obtain rfl : ch = ch' := List.singleton_inj.mp (hout.symm.trans hout')
            obtain ⟨hbuf, sub, hsub, hread⟩ := hready
            obtain rfl : c.sub = sub := by
              rw [hch, (hkept.busy c hcall).sub] at hsub
              exact Option.some.inj hsub
            rw [hxeq, hentry', hbuf, hread]
      refine ⟨h.submitted, h.refusals, h.returns, fun hor => ?_, fun c' hc' _ => ?_,
        fun c' _ hne' => absurd hused hne', h.own⟩
      · rcases hor with hnone | hnot
        · have hnone : q.pc.sent? = none := hnone
          rw [hsent] at hnone
          cases hnone
        · exact absurd hseen hnot
      · obtain rfl : c = c' := Option.some.inj (hsent.symm.trans hc')
        show (q.executed ++ [_]).map Execution.bytes = _
        rw [List.map_append, h.before (.inr hne), List.map_append, List.map_singleton, hbytes,
          List.map_singleton]

/-- The device answers the call under way. -/
theorem mirrors_complete {i respType : Nat} (hc : q.complete i respType = some t)
    (hsteady : q.Steady size log) (hans : q.Answering answer (.complete i respType))
    (h : q.Mirrors answer calls) : t.Mirrors answer calls := by
  obtain ⟨x, ring, hx, rfl⟩ := complete_eq_some hc
  obtain ⟨hget, rfl⟩ := Vring.complete_eq_some hx
  cases hsteady.progress with
  | through _ _ _ hflight =>
      rw [hflight] at hget
      cases hget
  | waiting _ _ _ _ _ _ _ _ hflight =>
      rw [hflight] at hget
      cases hget
  | landed _ _ _ _ _ hflight =>
      rw [hflight] at hget
      cases hget
  | taken c j ch hpc hout hch hpub hseen hflight hused =>
      refine ⟨h.submitted, h.refusals, h.returns, h.before, h.after, fun c' hc' _ => ?_,
        fun ch' hch' => h.own ch' (List.mem_filter.mp hch').1⟩
      have hexec := h.after c' hc' hseen
      show respType = _
      rw [show respType = answer (q.executed.filterMap Execution.bytes) from hans]
      have hmap : q.executed.filterMap Execution.bytes =
          (q.executed.map Execution.bytes).filterMap id := by
        rw [List.filterMap_map]
        rfl
      rw [hmap, hexec, List.filterMap_map]
      exact congrArg answer List.filterMap_some

/-- A prompt device leaves the driver nothing to disturb. -/
theorem keepsOff_of_mirrors {ev : Event} (hsteady : q.Steady size log) (hkept : q.Kept)
    (h : q.Mirrors answer calls) : q.KeepsOff ev := by
  have hnone : ∀ pc : Pc, q.pc = pc → pc.sent? = none → q.outstanding = [] := by
    intro pc hpc hsent
    exact (hsteady.progress.of_unsent (hpc ▸ hsent)).1
  cases ev with
  | copy cmdPhys respPhys =>
      intro c hpc ch hch
      rw [hnone _ hpc rfl] at hch
      cases hch
  | fill =>
      intro c hpc ch hch
      rw [hnone _ hpc rfl] at hch
      cases hch
  | release =>
      intro n hn ch hch hbuf
      -- a chain outstanding is that of the call under way, whose buffer is not to be released
      obtain ⟨c, hsent, hown⟩ := h.own ch hch
      have hcall : q.pc.call? = some c := by
        cases hpc : q.pc with
        | polling c' i => rwa [hpc] at hsent
        | found c' => rwa [hpc] at hsent
        | _ =>
            rw [hpc] at hsent
            cases hsent
      refine ((hkept.busy c hcall).temp n (hown ▸ hbuf)).2 ?_
      exact List.mem_of_mem_head? hn
  | _ => trivial

theorem mirrors_step {ev : Event} (hstep : Step q ev t) (hsteady : q.Steady size log)
    (hkept : q.Kept) (hprompt : q.Prompt ev) (hans : q.Answering answer ev)
    (h : q.Mirrors answer calls) : ∃ calls, t.Mirrors answer calls := by
  cases hstep with
  | enter sub alloc hpc => exact mirrors_enter sub alloc hpc hsteady h
  | copy c cmdPhys respPhys hpc => exact mirrors_copy cmdPhys respPhys hpc hsteady h
  | fill c hpc => exact ⟨calls, mirrors_fill hpc h⟩
  | publish c notify hpc =>
      obtain rfl : notify = true := hprompt
      exact ⟨calls, mirrors_publish hpc hsteady h⟩
  | poll c i hpc => exact ⟨calls, mirrors_poll hpc hsteady hprompt h⟩
  | read c hpc => exact ⟨_, mirrors_read hpc hsteady h⟩
  | release n rest hn => exact ⟨calls, mirrors_release rest h⟩
  | exec _ hexec => exact ⟨calls, mirrors_exec hexec hsteady hkept h⟩
  | complete i respType _ hc => exact ⟨calls, mirrors_complete hc hsteady hans h⟩

theorem mirrors_init (answer : List (List UInt8) → Nat) (size : Nat) :
    (init size).Mirrors answer [] where
  submitted := rfl
  refusals _ h := (by cases h)
  returns := rfl
  before _ := rfl
  after _ h := (by cases h)
  answered _ h := (by cases h)
  own _ h := (by cases h)

/-! ## Runs -/

/-- **The queue is remote calls**: with a device that is prompt and answers by the commands
it has executed, on a queue of any size that can be negotiated, whenever no call is under way
the calls so far are remote calls. -/
theorem refines_remoteCalls {offered : Nat} (hoffered : negotiatedSize offered = some size)
    {evs : List Event} (hprompt : (machine size).Along Prompt (machine size).init evs)
    (hans : (machine size).Along (Answering answer) (machine size).init evs) :
    (machine size).Always (fun q => q.pc = .idle → q.Refines answer) (machine size).init evs := by
  have hsize := dvd_of_negotiatedSize hoffered
  have hlogged : (loggedMachine size).Along (fun p ev => p.1.Prompt ev ∧ p.1.Answering answer ev)
      (loggedMachine size).init evs :=
    ((machine size).along_withHistory _ _ _ _).mpr ((machine size).along_and.mpr ⟨hprompt, hans⟩)
  have hall : (loggedMachine size).Always
      (fun p => p.1.Steady size p.2 ∧ p.1.Kept ∧ ∃ calls, p.1.Mirrors answer calls)
      (loggedMachine size).init evs := by
    refine (loggedMachine size).always_of_along (fun p ev p' hp hC h => ?_)
      ⟨steady_init size, kept_init size, [], mirrors_init answer size⟩ hlogged
    obtain ⟨hsteady, hkept, calls, hmirrors⟩ := hp
    obtain ⟨hprompt, hans⟩ := hC
    obtain ⟨hstep, hnote⟩ := ((machine size).withHistory_step_eq_some _ _).mp h
    have hstep := Step.of_step hstep
    refine ⟨?_, ?_, ?_⟩
    · rw [hnote]
      exact steady_step hsize hstep hsteady hprompt
    · exact kept_step hstep hkept (keepsOff_of_mirrors hsteady hkept hmirrors)
    · exact mirrors_step hstep hsteady hkept hprompt hans hmirrors
  have hrefines : (loggedMachine size).Always (fun p => p.1.pc = .idle → p.1.Refines answer)
      (loggedMachine size).init evs := by
    refine hall.imp _ fun p hp hidle => ?_
    obtain ⟨-, -, calls, hmirrors⟩ := hp
    exact hmirrors.refines hidle
  exact ((machine size).always_withHistory (P := fun q => q.pc = .idle → q.Refines answer)
    RingLog.empty (fun q ev _ log => q.noteRings ev log) (loggedMachine size).init evs).mp hrefines

/-- Three calls, the host acknowledging each. -/
theorem refines_remoteCalls_two : negotiatedSize 3 = some 2 ∧
    (machine 2).Always (fun q => q.pc = .idle → q.Refines fun _ => respOkNodata)
      (machine 2).init (answered header ++ answered header ++ answered header) := by
  have h : negotiatedSize 3 = some 2 := by
    rw [negotiatedSize_eq (by decide)]
    decide
  exact ⟨h, refines_remoteCalls h (by decide) (by decide)⟩

end ControlQueue
end VMQemuVGA
