import VMQemuVGA.Lib.History
import VMQemuVGA.Virtqueue.ControlQueue

/-! # What becomes of the temporary buffers

A command that does not fit into `m_cmd_buf` gets a buffer of its own, which
its call has to complete and release. Two exits do so: the one for a buffer
without a physical address, and the normal one. The exits written for the fixed
buffer, after a missing response address, without a notify mapping and after a
timeout, forget it. This module keeps the books and says exactly which runs
balance them. -/

namespace VMQemuVGA

/-- The temporary buffers, at most one, behind a buffer. -/
def Buffer.temps : Buffer → List Nat
  | .temp n => [n]
  | .command | .response => []

namespace ControlQueue

/-- The temporary buffers somebody still answers for: the call under way, and
the calls on their way out. -/
def held (q : ControlQueue) : List Nat :=
  (q.pc.call?.elim [] fun c => c.buffer.temps) ++ q.toRelease

/-- `complete()` and `release()`: the temporary buffers a step gives back. -/
def givenBack (q : ControlQueue) : Event → List Nat
  | .copy false _ => q.pc.call?.elim [] fun c => c.buffer.temps
  | .release => q.toRelease.take 1
  | _ => []

/-- The temporary buffers a step drops without giving them back. -/
def forgotten (q : ControlQueue) : Event → List Nat
  | .copy true false | .publish false => q.pc.call?.elim [] fun c => c.buffer.temps
  | .poll =>
      match q.pc with
      | .polling c i =>
          if q.ring.usedIdx = q.lastUsed ∧ pollLimit ≤ i + 1 then c.buffer.temps else []
      | _ => []
  | _ => []

/-- The queue with the list of the buffers given back. -/
def freedMachine (size : Nat) : Machine (ControlQueue × List Nat) Event :=
  (machine size).withHistory [] fun q ev _ freed => freed ++ q.givenBack ev

/-- The books balance: every temporary buffer allocated so far has been given
back exactly once, or somebody holds it and will. -/
def Balanced (p : ControlQueue × List Nat) : Prop :=
  (p.2 ++ p.1.held).Perm (List.range p.1.nextTemp)

/-- Once all calls have returned every buffer has been given back. -/
theorem Balanced.settled {p : ControlQueue × List Nat} (h : Balanced p) (hpc : p.1.pc = .idle)
    (hrel : p.1.toRelease = []) : p.2.Perm (List.range p.1.nextTemp) := by
  have hheld : p.1.held = [] := by
    rw [held, hpc, hrel]
    rfl
  rw [Balanced, hheld, List.append_nil] at h
  exact h

/-- A call whose command is too large for `m_cmd_buf` does not leave for want of
a response address or of a notify mapping, or after its last look. -/
def GivesBack (q : ControlQueue) : Event → Prop
  | .copy cmdPhys respPhys => cmdPhys = true → respPhys = false →
      ∀ c, q.pc.call? = some c → c.sub.bytes.length ≤ cmdBufSize
  | .publish notify => notify = false →
      ∀ c, q.pc.call? = some c → c.sub.bytes.length ≤ cmdBufSize
  | .poll => ∀ c i, q.pc = .polling c i → q.ring.usedIdx = q.lastUsed → pollLimit ≤ i + 1 →
      c.sub.bytes.length ≤ cmdBufSize
  | _ => True

variable {q t : ControlQueue} {c : Call}

/-! ## One step -/

/-- Calls with large commands are those that got a buffer of their own. -/
def Sized (q : ControlQueue) : Prop :=
  ∀ c, q.pc.call? = some c → (c.buffer.temps = [] ↔ c.sub.bytes.length ≤ cmdBufSize)

theorem sized_of_call (h : q.Sized) (hcall : t.pc.call? = none ∨ t.pc.call? = q.pc.call?) :
    t.Sized := by
  intro c hc
  rcases hcall with hnone | hsame
  · rw [hnone] at hc
    cases hc
  · exact h c (hsame ▸ hc)

theorem sized_acquire (sub : Submission) (alloc : Bool) (hpc : q.pc = .idle) :
    (q.acquire sub alloc).Sized := by
  intro c hc
  have hidle : q.pc.call? ≠ some c := by
    rw [hpc]
    exact nofun
  unfold acquire at hc
  split at hc
  · exact absurd hc hidle
  split at hc
  · exact absurd hc hidle
  dsimp only at hc
  split at hc
  · next hle =>
    cases hc
    exact ⟨fun _ => hle, fun _ => rfl⟩
  · next hgt =>
    split at hc
    · cases hc
      exact ⟨fun h => absurd h (List.cons_ne_nil _ _), fun h => absurd h hgt⟩
    · exact absurd hc hidle

theorem sized_step {ev : Event} (hstep : Step q ev t) (h : q.Sized) : t.Sized := by
  cases hstep with
  | enter sub alloc hpc =>
      unfold enter
      split
      · exact h
      · exact sized_acquire sub alloc hpc
  | copy c cmdPhys respPhys hpc =>
      have hcopied := copy_copied q c cmdPhys respPhys
      generalize q.copy c cmdPhys respPhys = t at hcopied ⊢
      refine sized_of_call h ?_
      cases hcopied with
      | noCommand | noResponse => exact .inl rfl
      | copied => exact .inr (by rw [hpc]; rfl)
  | fill c hpc => exact sized_of_call h (.inr (by rw [hpc]; rfl))
  | publish c notify hpc =>
      refine sized_of_call h ?_
      unfold publish
      split
      · exact .inl rfl
      · exact .inr (by rw [hpc]; rfl)
  | poll c i hpc =>
      refine sized_of_call h ?_
      unfold poll
      split
      · exact .inr (by rw [hpc]; rfl)
      split
      · exact .inr (by rw [hpc]; rfl)
      · exact .inl rfl
  | read c hpc => exact sized_of_call h (.inl rfl)
  | release n rest hn => exact sized_of_call h (.inr rfl)
  | exec _ hexec =>
      obtain ⟨x, ring, -, rfl⟩ := exec_eq_some hexec
      exact sized_of_call h (.inr rfl)
  | complete i respType _ hc =>
      obtain ⟨x, ring, -, rfl⟩ := complete_eq_some hc
      exact sized_of_call h (.inr rfl)

theorem toRelease_consume (q : ControlQueue) (c : Call) :
    (q.consume c).toRelease = q.toRelease ++ c.buffer.temps := by
  unfold consume
  cases c.buffer with
  | temp n => rfl
  | command | response => exact (List.append_nil _).symm

theorem temps_of_call (hcall : q.pc.call? = some c) :
    (q.pc.call?.elim [] fun c => c.buffer.temps) = c.buffer.temps := by
  rw [hcall]
  rfl

theorem held_of_call (hcall : q.pc.call? = some c) : q.held = c.buffer.temps ++ q.toRelease := by
  rw [held, temps_of_call hcall]

/-- The books of a step: what is given back, held and forgotten after it is what was held
before it and what it allocated. -/
def Booked (q : ControlQueue) (ev : Event) (t : ControlQueue) : Prop :=
  q.nextTemp ≤ t.nextTemp ∧ (q.givenBack ev ++ t.held ++ q.forgotten ev).Perm
    (q.held ++ List.range' q.nextTemp (t.nextTemp - q.nextTemp))

/-- All steps but a call's first allocate nothing. -/
theorem booked_of_kept {ev : Event} (hnext : t.nextTemp = q.nextTemp)
    (h : (q.givenBack ev ++ t.held ++ q.forgotten ev).Perm q.held) : q.Booked ev t := by
  rw [Booked, hnext, Nat.sub_self, List.range'_zero, List.append_nil]
  exact ⟨Nat.le_refl _, h⟩

/-- Where nobody's buffers change hands. -/
theorem booked_of_same {ev : Event} (hnext : t.nextTemp = q.nextTemp) (hheld : t.held = q.held)
    (hgiven : q.givenBack ev = []) (hforgot : q.forgotten ev = []) : q.Booked ev t := by
  refine booked_of_kept hnext ?_
  rw [hheld, hgiven, hforgot, List.nil_append, List.append_nil]

/-- A new call's buffer is the next temporary one, or none. -/
theorem booked_enter (sub : Submission) (alloc : Bool) (hpc : q.pc = .idle) :
    q.Booked (.enter sub alloc) (q.enter sub alloc) := by
  have hsame : ∀ t : ControlQueue, t.pc = q.pc → t.toRelease = q.toRelease →
      t.nextTemp = q.nextTemp → q.Booked (.enter sub alloc) t := by
    intro t htpc htrel hnext
    refine booked_of_same hnext ?_ rfl rfl
    rw [held, htpc, htrel]
    rfl
  unfold enter
  split
  · exact hsame q rfl rfl rfl
  have hacq := acquire_acquired (q.drain sub) sub alloc
  generalize (q.drain sub).acquire sub alloc = t at hacq ⊢
  cases hacq with
  | refused ret => exact hsame _ rfl rfl rfl
  | entered cmdDesc respDesc free₁ free₂ buffer temps nextTemp hcmd hresp hbuf hlen =>
      have hnone : q.held = q.toRelease := by
        rw [held, hpc]
        rfl
      cases hbuf with
      | static => exact booked_of_same rfl hnone.symm rfl rfl
      | temp =>
          refine ⟨Nat.le_succ _, ?_⟩
          show ([] ++ ([q.nextTemp] ++ q.toRelease) ++ []).Perm
            (q.held ++ List.range' q.nextTemp (q.nextTemp + 1 - q.nextTemp))
          rw [hnone, Nat.add_sub_cancel_left, List.nil_append, List.append_nil]
          exact List.perm_append_comm

theorem booked_copy (cmdPhys respPhys : Bool) (hpc : q.pc = .entered c) :
    q.Booked (.copy cmdPhys respPhys) (q.copy c cmdPhys respPhys) := by
  have hcall : q.pc.call? = some c := by
    rw [hpc]
    rfl
  have hcopied := copy_copied q c cmdPhys respPhys
  generalize q.copy c cmdPhys respPhys = t at hcopied ⊢
  cases hcopied with
  | noCommand =>
      refine booked_of_kept rfl ?_
      show ((q.pc.call?.elim [] fun c => c.buffer.temps) ++ q.toRelease ++ []).Perm q.held
      rw [List.append_nil]
      exact .rfl
  | noResponse =>
      refine booked_of_kept rfl ?_
      show ([] ++ q.toRelease ++ (q.pc.call?.elim [] fun c => c.buffer.temps)).Perm q.held
      rw [List.nil_append]
      exact List.perm_append_comm
  | copied => exact booked_of_same rfl (held_of_call hcall).symm rfl rfl

theorem booked_publish (notify : Bool) (hpc : q.pc = .filled c) :
    q.Booked (.publish notify) (q.publish c notify) := by
  have hcall : q.pc.call? = some c := by
    rw [hpc]
    rfl
  cases notify with
  | false =>
      refine booked_of_kept rfl ?_
      show ([] ++ q.toRelease ++ (q.pc.call?.elim [] fun c => c.buffer.temps)).Perm q.held
      rw [List.nil_append]
      exact List.perm_append_comm
  | true => exact booked_of_same rfl (held_of_call hcall).symm rfl rfl

/-- A call that looks for the last time in vain forgets its buffer. -/
theorem booked_poll {i : Nat} (hpc : q.pc = .polling c i) : q.Booked .poll (q.poll c i) := by
  have hheld : q.held = c.buffer.temps ++ q.toRelease := held_of_call (by rw [hpc]; rfl)
  have hforgot : q.forgotten .poll =
      if q.ring.usedIdx = q.lastUsed ∧ pollLimit ≤ i + 1 then c.buffer.temps else [] := by
    simp only [forgotten, hpc]
  unfold poll
  split
  · next hne =>
    rw [if_neg fun h => hne h.1] at hforgot
    exact booked_of_same rfl hheld.symm rfl hforgot
  · next heq =>
    split
    · next hlt =>
      rw [if_neg fun h => Nat.not_le_of_lt hlt h.2] at hforgot
      exact booked_of_same rfl hheld.symm rfl hforgot
    · next hge =>
      refine booked_of_kept rfl ?_
      rw [hforgot, if_pos ⟨Decidable.not_not.mp heq, Nat.le_of_not_lt hge⟩, hheld]
      exact List.perm_append_comm

theorem booked_read (hpc : q.pc = .found c) : q.Booked .read (q.read c) := by
  refine booked_of_kept rfl ?_
  show ([] ++ (q.consume c).toRelease ++ []).Perm q.held
  rw [toRelease_consume, held_of_call (show q.pc.call? = some c by rw [hpc]; rfl), List.nil_append,
    List.append_nil]
  exact List.perm_append_comm

theorem booked_release {n : Nat} {rest : List Nat} (hn : q.toRelease = n :: rest) :
    q.Booked .release { q.freeTemp n with toRelease := rest } := by
  refine booked_of_kept rfl ?_
  show (q.toRelease.take 1 ++ ((q.pc.call?.elim [] fun c => c.buffer.temps) ++ rest) ++ []).Perm
    q.held
  rw [held, hn, List.append_nil]
  show (n :: ((q.pc.call?.elim [] fun c => c.buffer.temps) ++ rest)).Perm _
  exact List.perm_middle.symm

/-- **One step of the books.** -/
theorem booked_step {ev : Event} (hstep : Step q ev t) : q.Booked ev t := by
  cases hstep with
  | enter sub alloc hpc => exact booked_enter sub alloc hpc
  | copy c cmdPhys respPhys hpc => exact booked_copy cmdPhys respPhys hpc
  | fill c hpc =>
      have hheld : q.held = c.buffer.temps ++ q.toRelease := held_of_call (by rw [hpc]; rfl)
      exact booked_of_same rfl hheld.symm rfl rfl
  | publish c notify hpc => exact booked_publish notify hpc
  | poll c i hpc => exact booked_poll hpc
  | read c hpc => exact booked_read hpc
  | release n rest hn => exact booked_release hn
  | exec _ hexec =>
      obtain ⟨x, ring, -, rfl⟩ := exec_eq_some hexec
      exact booked_of_same rfl rfl rfl rfl
  | complete i respType _ hc =>
      obtain ⟨x, ring, -, rfl⟩ := complete_eq_some hc
      exact booked_of_same rfl rfl rfl rfl

/-- The steps that forget nothing, said of commands. -/
theorem forgotten_eq_nil_iff {ev : Event} (hstep : Step q ev t) (h : q.Sized) :
    q.forgotten ev = [] ↔ q.GivesBack ev := by
  cases hstep with
  | copy c cmdPhys respPhys hpc =>
      have hcall : q.pc.call? = some c := by
        rw [hpc]
        rfl
      cases cmdPhys with
      | false => exact ⟨fun _ hcmd => (by cases hcmd), fun _ => rfl⟩
      | true =>
          cases respPhys with
          | true => exact ⟨fun _ _ hresp => (by cases hresp), fun _ => rfl⟩
          | false =>
              show (q.pc.call?.elim [] fun c => c.buffer.temps) = [] ↔ _
              rw [hcall]
              refine (h c hcall).trans
                ⟨fun hle _ _ c' hc' => ?_, fun hgives => hgives rfl rfl c hcall⟩
              obtain rfl := Option.some.inj (hcall.symm.trans hc')
              exact hle
  | publish c notify hpc =>
      have hcall : q.pc.call? = some c := by
        rw [hpc]
        rfl
      cases notify with
      | true => exact ⟨fun _ hnot => (by cases hnot), fun _ => rfl⟩
      | false =>
          show (q.pc.call?.elim [] fun c => c.buffer.temps) = [] ↔ _
          rw [hcall]
          refine (h c hcall).trans ⟨fun hle _ c' hc' => ?_, fun hgives => hgives rfl c hcall⟩
          obtain rfl := Option.some.inj (hcall.symm.trans hc')
          exact hle
  | poll c i hpc =>
      have hcall : q.pc.call? = some c := by
        rw [hpc]
        rfl
      simp only [forgotten, hpc]
      constructor
      · intro hnil c' i' hpc' heq hlast
        obtain ⟨rfl, rfl⟩ := Pc.polling.inj (hpc.symm.trans hpc')
        rw [if_pos ⟨heq, hlast⟩] at hnil
        exact (h c hcall).mp hnil
      · intro hgives
        split
        · next hlast => exact (h c hcall).mpr (hgives c i hpc hlast.1 hlast.2)
        · rfl
  | enter | fill | read | release | exec | complete => exact ⟨fun _ => trivial, fun _ => rfl⟩

/-! ## The buffers themselves -/

/-! ## Runs -/

/-- A step keeps the books balanced exactly when it forgets nothing. -/
theorem balanced_step {ev : Event} {freed : List Nat} (hstep : Step q ev t) (hsized : q.Sized)
    (h : Balanced (q, freed)) : Balanced (t, freed ++ q.givenBack ev) ↔ q.GivesBack ev := by
  obtain ⟨hle, hperm⟩ := booked_step hstep
  have hrange : List.range q.nextTemp ++ List.range' q.nextTemp (t.nextTemp - q.nextTemp) =
      List.range t.nextTemp := by
    have happend := @List.range'_append_1 0 q.nextTemp (t.nextTemp - q.nextTemp)
    rw [Nat.zero_add, Nat.add_sub_cancel' hle] at happend
    rw [List.range_eq_range', List.range_eq_range', happend]
  -- what all buffers have come to
  have hall : (freed ++ q.givenBack ev ++ t.held ++ q.forgotten ev).Perm
      (List.range t.nextTemp) := by
    have h₁ := hperm.append_left freed
    have h₂ := h.append_right (List.range' q.nextTemp (t.nextTemp - q.nextTemp))
    rw [hrange] at h₂
    simp only [List.append_assoc] at h₁ h₂ ⊢
    exact h₁.trans h₂
  rw [← forgotten_eq_nil_iff hstep hsized]
  constructor
  · intro ht
    have ht : (freed ++ q.givenBack ev ++ t.held).Perm (List.range t.nextTemp) := ht
    have hlen := hall.length_eq
    rw [List.length_append, ht.length_eq] at hlen
    exact List.length_eq_zero_iff.mp (by omega)
  · intro hnil
    rw [hnil, List.append_nil] at hall
    exact hall

/-- A call for one byte more than `m_cmd_buf` holds. -/
def large : Submission :=
  { bytes := List.replicate (cmdBufSize + 1) 0, respSize := some ctrlHdrSize }

end ControlQueue
end VMQemuVGA
