import VMQemuVGA.Virtqueue.ControlQueue

/-! # Whose completion a call consumes

A call takes the first completion it sees after its drain for its own. That is
right as long as the chains of calls that gave up are completed before the
drain or after the call, and wrong when one of them is completed in between. -/

namespace VMQemuVGA
namespace ControlQueue

/-- Every response copied out was taken for a completion of the call's own chain. -/
def OwnResponses (q : ControlQueue) : Prop :=
  ∀ r ∈ q.returns, ∀ x, r.consumed = some x → x.call = some r.call

/-- While a call is under way, the device completes no chain but that call's. -/
def OnTime (q : ControlQueue) : Event → Prop
  | .complete i _ => ∀ c ∈ q.pc.call?, ∀ x ∈ q.ring.inFlight[i]?, x.call = some c.no
  | _ => True

instance (q : ControlQueue) (ev : Event) : Decidable (q.OnTime ev) :=
  match ev with
  | .complete i _ =>
      inferInstanceAs (Decidable (∀ c ∈ q.pc.call?, ∀ x ∈ q.ring.inFlight[i]?, x.call = some c.no))
  | .enter .. | .copy .. | .fill | .publish .. | .poll | .read | .release | .exec => isTrue trivial

/-! ## Between the steps of a call -/

/-- The used-ring element the call is going to consume is its own, as soon as
there is one. -/
structure Answers (q : ControlQueue) : Prop where
  waiting : ∀ c, q.pc.call? = some c → q.ring.usedIdx ≠ q.lastUsed →
    (q.ring.usedAt q.lastUsed).call = some c.no
  found : ∀ c, q.pc = .found c → (q.ring.usedAt q.lastUsed).call = some c.no
  responses : q.OwnResponses

/-- Nothing happened to the used ring, and no response was copied. -/
structure Quiet (q t : ControlQueue) : Prop where
  used : t.ring.usedIdx = q.ring.usedIdx
  entry : t.ring.usedAt = q.ring.usedAt
  last : t.lastUsed = q.lastUsed
  call : t.pc.call? = none ∨ t.pc.call? = q.pc.call?
  found : ∀ c, t.pc = .found c → q.pc = .found c ∨ q.ring.usedIdx ≠ q.lastUsed
  returns : ∀ r ∈ t.returns, r ∈ q.returns ∨ r.consumed = none

theorem Answers.of_quiet {q t : ControlQueue} (h : q.Answers) (hq : Quiet q t) : t.Answers where
  waiting c hc hne := by
    rw [hq.used, hq.last] at hne
    rw [hq.entry, hq.last]
    rcases hq.call with hnone | hcall
    · rw [hnone] at hc
      cases hc
    · exact h.waiting c (hcall ▸ hc) hne
  found c hc := by
    rw [hq.entry, hq.last]
    rcases hq.found c hc with hfound | hne
    · exact h.found c hfound
    · rcases hq.call with hnone | hcall
      · rw [hc] at hnone
        cases hnone
      · rw [hc] at hcall
        exact h.waiting c hcall.symm hne
  responses r hr x hx := by
    rcases hq.returns r hr with hr | hnone
    · exact h.responses r hr x hx
    · rw [hnone] at hx
      cases hx

/-- A call that returns without a response. -/
theorem quiet_leave (q : ControlQueue) (c : Call) (ret : IOReturn) :
    Quiet q (q.leave c ret none) where
  used := rfl
  entry := rfl
  last := rfl
  call := Or.inl rfl
  found _ h := (by cases h)
  returns r hr := by
    rcases List.mem_append.mp hr with hr | hr
    · exact Or.inl hr
    · rw [List.mem_singleton.mp hr]
      exact Or.inr rfl

theorem Quiet.trans {q s t : ControlQueue} (h : Quiet q s) (h' : Quiet s t) : Quiet q t where
  used := h'.used.trans h.used
  entry := h'.entry.trans h.entry
  last := h'.last.trans h.last
  call := by
    rcases h'.call with hnone | hcall
    · exact Or.inl hnone
    · rw [hcall]
      exact h.call
  found c hc := by
    rcases h'.found c hc with hfound | hne
    · exact h.found c hfound
    · rw [h.used, h.last] at hne
      exact Or.inr hne
  returns r hr := by
    rcases h'.returns r hr with hr | hnone
    · exact h.returns r hr
    · exact Or.inr hnone

/-- A step that leaves the used ring, the call and the returns alone. -/
theorem quiet_of_same {q t : ControlQueue} (hused : t.ring.usedIdx = q.ring.usedIdx)
    (hentry : t.ring.usedAt = q.ring.usedAt) (hlast : t.lastUsed = q.lastUsed)
    (hpc : t.pc = q.pc) (hret : t.returns = q.returns) : Quiet q t where
  used := hused
  entry := hentry
  last := hlast
  call := Or.inr (congrArg Pc.call? hpc)
  found _ h := Or.inl (hpc ▸ h)
  returns _ hr := Or.inl (hret ▸ hr)

theorem quiet_write (q : ControlQueue) (b : Buffer) (bytes : List UInt8) :
    Quiet q (q.write b bytes) := by
  cases b with
  | command => exact quiet_of_same rfl rfl rfl rfl rfl
  | temp n => exact quiet_of_same rfl rfl rfl rfl rfl
  | response => exact quiet_of_same rfl rfl rfl rfl rfl

theorem quiet_freeBuffer (q : ControlQueue) (c : Call) : Quiet q (q.freeBuffer c) := by
  unfold freeBuffer
  split
  · exact quiet_of_same rfl rfl rfl rfl rfl
  · exact quiet_of_same rfl rfl rfl rfl rfl

theorem quiet_copy {q : ControlQueue} {c : Call} (h : q.pc = .entered c) (cmdPhys respPhys : Bool) :
    Quiet q (q.copy c cmdPhys respPhys) := by
  let q₁ := (q.lose fun ch => ch.buffer == c.buffer).write c.buffer c.sub.bytes
  have h₁ : Quiet q q₁ :=
    (quiet_of_same rfl rfl rfl rfl rfl :
      Quiet q (q.lose fun ch => ch.buffer == c.buffer)).trans (quiet_write _ _ _)
  unfold copy
  dsimp only
  split
  · exact (h₁.trans (quiet_freeBuffer q₁ c)).trans (quiet_leave _ _ _)
  split
  · exact h₁.trans (quiet_leave q₁ c .noMemory)
  · refine h₁.trans ⟨rfl, rfl, rfl, Or.inr ?_, fun _ h => (by cases h), fun _ hr => Or.inl hr⟩
    have hpc : q₁.pc = .entered c := by
      rw [← h]
      show ((q.lose _).write _ _).pc = q.pc
      cases c.buffer <;> rfl
    rw [hpc]
    rfl

theorem quiet_publish {q : ControlQueue} {c : Call} (h : q.pc = .filled c) (notify : Bool) :
    Quiet q (q.publish c notify) := by
  have h₁ : Quiet q (q.pushAvail c) := quiet_of_same rfl rfl rfl rfl rfl
  unfold publish
  split
  · exact h₁.trans (quiet_leave _ _ _)
  · exact ⟨rfl, rfl, rfl, Or.inr (by rw [h]; rfl), fun _ h => (by cases h), fun _ hr => Or.inl hr⟩

theorem quiet_poll {q : ControlQueue} {c : Call} {i : Nat} (h : q.pc = .polling c i) :
    Quiet q (q.poll c i) := by
  unfold poll
  split
  · next hne =>
    exact ⟨rfl, rfl, rfl, Or.inr (by rw [h]; rfl), fun _ _ => Or.inr hne, fun _ hr => Or.inl hr⟩
  split
  · exact ⟨rfl, rfl, rfl, Or.inr (by rw [h]; rfl), fun _ h => (by cases h), fun _ hr => Or.inl hr⟩
  · exact quiet_leave q c .timeout

/-! ## Entering, reading, completing -/

/-- What `acquire` leaves alone. -/
theorem acquire_frame (q : ControlQueue) (sub : Submission) (alloc : Bool) :
    (q.acquire sub alloc).ring = q.ring ∧ (q.acquire sub alloc).lastUsed = q.lastUsed ∧
      (∀ c, (q.acquire sub alloc).pc = .found c → q.pc = .found c) ∧
      ∀ r ∈ (q.acquire sub alloc).returns, r ∈ q.returns ∨ r.consumed = none := by
  have h := acquire_acquired q sub alloc
  generalize q.acquire sub alloc = t at h ⊢
  cases h with
  | refused ret =>
      refine ⟨rfl, rfl, fun _ h => h, fun r hr => ?_⟩
      rcases List.mem_append.mp hr with hr | hr
      · exact Or.inl hr
      · rw [List.mem_singleton.mp hr]
        exact Or.inr rfl
  | entered => exact ⟨rfl, rfl, fun _ h => (by cases h), fun r => Or.inl⟩

theorem answers_enter {q : ControlQueue} (sub : Submission) (alloc : Bool) (hpc : q.pc = .idle)
    (h : q.Answers) : (q.enter sub alloc).Answers := by
  unfold enter
  split
  · exact h
  obtain ⟨hring, hlast, hfound, hreturns⟩ := acquire_frame (q.drain sub) sub alloc
  refine ⟨fun c _ hne => ?_, fun c hc => ?_, fun r hr x hx => ?_⟩
  · -- the drain leaves nothing to be found
    rw [hring, hlast] at hne
    exact absurd rfl hne
  · have hidle := hfound c hc
    rw [show (q.drain sub).pc = q.pc from rfl, hpc] at hidle
    cases hidle
  · rcases hreturns r hr with hr | hnone
    · exact h.responses r hr x hx
    · rw [hnone] at hx
      cases hx

theorem answers_read {q : ControlQueue} {c : Call} (hpc : q.pc = .found c) (h : q.Answers) :
    (q.read c).Answers := by
  refine ⟨fun c hc _ => (by cases hc), fun c hc => (by cases hc), fun r hr x hx => ?_⟩
  rcases List.mem_append.mp hr with hr | hr
  · exact h.responses r hr x hx
  · rw [List.mem_singleton.mp hr] at hx ⊢
    dsimp only at hx
    split at hx
    · rw [← Option.some.inj hx]
      exact h.found c hpc
    · cases hx

/-- The element at the driver's index after a completion: the new one if it was
written there, the old one if it was not. -/
theorem usedAt_complete {v v' : Vring} {i : Nat} {x : RingEntry} (h : v.complete i = some (x, v'))
    (lastUsed : Nat) : v'.usedAt lastUsed = x ∨
      v'.usedAt lastUsed = v.usedAt lastUsed ∧ v.usedIdx ≠ lastUsed := by
  obtain ⟨-, rfl⟩ := Vring.complete_eq_some h
  by_cases hslot : lastUsed % v.size = v.usedIdx % v.size
  · left
    simp only [Vring.usedAt, hslot, Function.update_self]
  · right
    refine ⟨?_, fun heq => hslot (by rw [heq])⟩
    simp only [Vring.usedAt, Function.update_of_ne hslot]

theorem answers_complete {q t : ControlQueue} {i respType : Nat}
    (hq : q.complete i respType = some t) (hon : q.OnTime (.complete i respType))
    (h : q.Answers) : t.Answers := by
  obtain ⟨x, ring, hx, rfl⟩ := complete_eq_some hq
  have hcall := (Vring.complete_eq_some hx).1
  have hown : ∀ c, q.pc.call? = some c → x.call = some c.no := fun c hc => hon c hc x hcall
  refine ⟨fun c hc _ => ?_, fun c hc => ?_, h.responses⟩
  · rcases usedAt_complete hx q.lastUsed with heq | ⟨heq, hne⟩
    · exact (congrArg RingEntry.call heq).trans (hown c hc)
    · exact (congrArg RingEntry.call heq).trans (h.waiting c hc hne)
  · have hc' : q.pc = .found c := hc
    rcases usedAt_complete hx q.lastUsed with heq | ⟨heq, -⟩
    · exact (congrArg RingEntry.call heq).trans (hown c (by rw [hc']; rfl))
    · exact (congrArg RingEntry.call heq).trans (h.found c hc')

/-! ## Runs -/

theorem step_answers (q : ControlQueue) (ev : Event) (t : ControlQueue) (h : q.Answers)
    (hon : q.OnTime ev) (hstep : q.step ev = some t) : t.Answers := by
  cases Step.of_step hstep with
  | enter sub alloc hpc => exact answers_enter sub alloc hpc h
  | copy c cmdPhys respPhys hpc => exact h.of_quiet (quiet_copy hpc cmdPhys respPhys)
  | fill c hpc =>
      refine h.of_quiet ⟨rfl, rfl, rfl, Or.inr ?_, fun _ h => (by cases h), fun _ hr => Or.inl hr⟩
      rw [hpc]
      rfl
  | publish c notify hpc => exact h.of_quiet (quiet_publish hpc notify)
  | poll c i hpc => exact h.of_quiet (quiet_poll hpc)
  | read c hpc => exact answers_read hpc h
  | release n rest hn => exact h.of_quiet (quiet_of_same rfl rfl rfl rfl rfl)
  | exec _ hexec =>
      obtain ⟨x, ring, hx, rfl⟩ := exec_eq_some hexec
      obtain ⟨-, -, rfl⟩ := Vring.take_eq_some hx
      exact h.of_quiet (quiet_of_same rfl rfl rfl rfl rfl)
  | complete i respType _ hc => exact answers_complete hc hon h

/-- **As long as no late completion falls into a call, every call that gets a
response gets it for its own command.** -/
theorem always_ownResponses (size : Nat) (evs : List Event)
    (hon : (machine size).Along OnTime (machine size).init evs) :
    (machine size).Always OwnResponses (machine size).init evs := by
  have hinit : (machine size).init.Answers :=
    ⟨fun c hc => (by cases hc), fun c hc => (by cases hc), fun r hr => (by cases hr)⟩
  exact ((machine size).always_of_along step_answers hinit hon).imp _ fun q h => h.responses

/-- A late completion before the next call's drain does no harm. -/
theorem ownResponses_after_timeout :
    (machine 4).Always OwnResponses (machine 4).init
      (timedOut header ++ [.exec, .complete 0 0x1100] ++ toPolling header ++
        [.exec, .complete 0 0x1100, .poll, .read]) :=
  always_ownResponses 4 _ (by decide +kernel)

/-- A call takes the late completion of the one before it for its own. -/
theorem late_completion_taken :
    ¬ (machine 4).Always OwnResponses (machine 4).init
      (timedOut header ++ [.exec] ++ toPolling header ++ [.complete 0 0x1100, .poll, .read]) := by
  intro h
  have hrun : ((machine 4).run (machine 4).init
      (timedOut header ++ [.exec] ++ toPolling header ++
        [.complete 0 0x1100, .poll, .read])).any
      (fun q => decide (q.returns = [⟨0, .timeout, none⟩, ⟨1, .success, some ⟨0, some 0⟩⟩])) =
        true := by
    decide
  obtain ⟨q, hq, hreturns⟩ := h.of_any _ hrun
  have hown := hq ⟨1, .success, some ⟨0, some 0⟩⟩ (by simp [of_decide_eq_true hreturns]) _ rfl
  cases hown

end ControlQueue
end VMQemuVGA
