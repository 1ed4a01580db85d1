import Mathlib.Data.Nat.Log
import VMQemuVGA.Virtqueue.ControlQueue

/-! # The queue's size and its free descriptors

`setupControlVirtQueue` settles the size of the queue and threads all of its
descriptors on a free list. `submitCommand` takes two of them and gives them
back by hand at each of its exits. All these exits give them back in the right
order, so that the list a call leaves behind is the list it found. -/

namespace VMQemuVGA

/-! ## Negotiation -/

/-- `while (pow2 * 2 <= qsize) pow2 *= 2`. -/
def doubleWhile (qsize pow2 : Nat) (hpos : 0 < pow2) : Nat :=
  if pow2 * 2 ≤ qsize then doubleWhile qsize (pow2 * 2) (Nat.mul_pos hpos Nat.two_pos) else pow2
termination_by qsize + 1 - pow2

/-- The size `setupControlVirtQueue` settles on, if the device has the queue. -/
def negotiatedSize (offered : Nat) : Option Nat :=
  if offered = 0 then none
  else
    let qsize := if offered > 256 then 256 else offered
    some (doubleWhile qsize 1 Nat.one_pos)

/-- The loop finds the largest power of two that fits. -/
theorem doubleWhile_two_pow {qsize : Nat} (k : Nat) (hpos : 0 < 2 ^ k) (h : 2 ^ k ≤ qsize) :
    doubleWhile qsize (2 ^ k) hpos = 2 ^ Nat.log 2 qsize := by
  -- induction on how many doublings are left
  induction hd : Nat.log 2 qsize - k generalizing k with
  | zero =>
      have hq : qsize ≠ 0 := by omega
      have hlog : Nat.log 2 qsize = k := by
        have hle := Nat.le_log_of_pow_le Nat.one_lt_two h
        omega
      have hlt := Nat.lt_pow_succ_log_self Nat.one_lt_two qsize
      rw [hlog, Nat.pow_succ] at hlt
      rw [doubleWhile, if_neg (Nat.not_le_of_lt hlt), hlog]
  | succ d ih =>
      have hq : qsize ≠ 0 := by omega
      have hnext : 2 ^ (k + 1) ≤ qsize := Nat.pow_le_of_le_log hq (by omega)
      rw [Nat.pow_succ] at hnext
      rw [doubleWhile, if_pos hnext]
      exact ih (k + 1) (Nat.two_pow_pos _) hnext (by omega)

theorem negotiatedSize_eq {offered : Nat} (h : offered ≠ 0) :
    negotiatedSize offered = some (2 ^ Nat.log 2 (min offered 256)) := by
  have hmin : (if offered > 256 then 256 else offered) = min offered 256 := by
    split <;> omega
  have hone : 2 ^ 0 ≤ min offered 256 := by omega
  rw [negotiatedSize, if_neg h]
  dsimp only
  rw [hmin]
  exact congrArg some (doubleWhile_two_pow 0 (Nat.two_pow_pos 0) hone)

/-- The sizes a queue can come to have: the powers of two up to 256. -/
theorem exists_negotiatedSize {size : Nat} :
    (∃ offered, negotiatedSize offered = some size) ↔ ∃ k ≤ 8, size = 2 ^ k := by
  constructor
  · rintro ⟨offered, h⟩
    have h0 : offered ≠ 0 := by
      rintro rfl
      cases h
    rw [negotiatedSize_eq h0, Option.some.injEq] at h
    refine ⟨_, ?_, h.symm⟩
    have hlt : min offered 256 < 2 ^ 9 := by omega
    exact Nat.lt_succ_iff.mp (Nat.log_lt_of_lt_pow (by omega) hlt)
  · rintro ⟨k, hk, rfl⟩
    have hle : 2 ^ k ≤ 256 := Nat.pow_le_pow_right Nat.two_pos hk
    refine ⟨2 ^ k, ?_⟩
    rw [negotiatedSize_eq (Nat.two_pow_pos k).ne', Nat.min_eq_left hle,
      Nat.log_pow Nat.one_lt_two]

/-! ## The free list -/

/-- `(uint16_t)-1`, the end of the free list. -/
def freeEnd : Nat := 0xFFFF

/-- `m_vq_free_head` and `m_vq_free_next` as set up. -/
def setupFreeList (qsize : Nat) : MarkedList where
  head := 0
  next := fun i => if i + 1 < qsize then i + 1 else freeEnd

theorem marked_upTo (qsize : Nat) : (FreeList.upTo qsize).marked freeEnd = setupFreeList qsize := by
  simp only [FreeList.marked, FreeList.upTo, setupFreeList, Option.getD_some,
    MarkedList.mk.injEq, true_and]
  funext i
  split <;> rfl

namespace ControlQueue

/-- What a call's two descriptors leave of the list of `size`. -/
def Taken (size : Nat) (c : Call) (free : FreeList) : Prop :=
  ∃ free₁, (FreeList.upTo size).pop = some (c.cmdDesc, free₁) ∧ free₁.pop = some (c.respDesc, free)

theorem Taken.pushed {size : Nat} {c : Call} {free : FreeList} (h : Taken size c free) :
    (free.push c.respDesc).push c.cmdDesc = .upTo size := by
  obtain ⟨free₁, hcmd, hresp⟩ := h
  rw [FreeList.push_of_pop hresp, FreeList.push_of_pop hcmd]

/-- Between calls every descriptor is free, during a call all but its two; and
no call went without. -/
structure Restored (size : Nat) (q : ControlQueue) : Prop where
  idle : q.pc = .idle → q.free = .upTo size
  busy : ∀ c, q.pc.call? = some c → Taken size c q.free
  served : ∀ r ∈ q.returns, r.ret ≠ .noResources

variable {size : Nat} {q t : ControlQueue} {c : Call}

/-- A step that touches neither the list nor the returns. -/
theorem Restored.of_same (h : q.Restored size) (hpc : t.pc = q.pc) (hfree : t.free = q.free)
    (hret : t.returns = q.returns) : t.Restored size := by
  refine ⟨?_, ?_, ?_⟩
  · rw [hpc, hfree]
    exact h.idle
  · rw [hpc, hfree]
    exact h.busy
  · rw [hret]
    exact h.served

/-- The call goes on. -/
theorem Restored.go (h : q.Restored size) (hcall : q.pc.call? = some c)
    (hcall' : t.pc.call? = some c) (hfree : t.free = q.free) (hret : t.returns = q.returns) :
    t.Restored size := by
  refine ⟨fun hidle => ?_, fun c' hc' => ?_, ?_⟩
  · rw [hidle] at hcall'
    cases hcall'
  · obtain rfl := Option.some.inj (hcall'.symm.trans hc')
    rw [hfree]
    exact h.busy c hcall
  · rw [hret]
    exact h.served

theorem served_append (h : ∀ r ∈ q.returns, r.ret ≠ .noResources) {r : Return}
    (hr : r.ret ≠ .noResources) : ∀ r' ∈ q.returns ++ [r], r'.ret ≠ .noResources := by
  intro r' hr'
  rcases List.mem_append.mp hr' with hr' | hr'
  · exact h r' hr'
  · rw [List.mem_singleton.mp hr']
    exact hr

/-- **Every exit gives the two descriptors back.** -/
theorem Restored.leave (h : q.Restored size) (hcall : q.pc.call? = some c) {ret : IOReturn}
    (hret : ret ≠ .noResources) (consumed : Option RingEntry) :
    (q.leave c ret consumed).Restored size where
  idle _ := (h.busy c hcall).pushed
  busy _ hc := (by cases hc)
  served := served_append h.served (r := ⟨c.no, ret, consumed⟩) hret

theorem status_ne_noResources (sub : Submission) (respType : Nat) :
    status sub respType ≠ .noResources := by
  unfold status
  split
  · decide
  · decide
  split <;> decide

/-! ### The steps -/

/-- With two descriptors or more the call has them, or there was no memory. -/
theorem acquire_cases (sub : Submission) (alloc : Bool) (hfree : q.free = .upTo size)
    (hsize : 2 ≤ size) :
    q.acquire sub alloc = q.refuse .noMemory ∨
      ∃ c, (q.acquire sub alloc).pc = .entered c ∧ Taken size c (q.acquire sub alloc).free ∧
        (q.acquire sub alloc).returns = q.returns := by
  have hcmd : q.free.pop = some (0, { FreeList.upTo size with head := some 1 }) := by
    rw [hfree]
    show some (0, { FreeList.upTo size with head := if 0 + 1 < size then some 1 else none }) = _
    rw [if_pos (by omega)]
  obtain ⟨free₂, hresp⟩ : ∃ free₂,
      FreeList.pop { FreeList.upTo size with head := some 1 } = some (1, free₂) := ⟨_, rfl⟩
  -- whichever buffer the command goes to
  have htaken : ∀ no buffer, Taken size ⟨no, sub, 0, 1, buffer⟩ free₂ :=
    fun no buffer => ⟨_, hfree ▸ hcmd, hresp⟩
  unfold acquire
  rw [hcmd]
  dsimp only
  rw [hresp]
  dsimp only
  split
  · exact .inr ⟨_, rfl, htaken _ _, rfl⟩
  split
  · exact .inr ⟨_, rfl, htaken _ _, rfl⟩
  · rw [FreeList.push_of_pop hresp, FreeList.push_of_pop hcmd]
    exact .inl rfl

theorem restored_enter (sub : Submission) (alloc : Bool) (hsize : 2 ≤ size) (hpc : q.pc = .idle)
    (h : q.Restored size) : (q.enter sub alloc).Restored size := by
  unfold enter
  split
  · exact h
  have hd : (q.drain sub).Restored size := h.of_same rfl rfl rfl
  rcases acquire_cases (q := q.drain sub) sub alloc (h.idle hpc) hsize with heq | ⟨c, hc, ht, hret⟩
  · rw [heq]
    exact ⟨hd.idle, hd.busy, served_append hd.served (fun hret => by cases hret)⟩
  · refine ⟨fun hidle => ?_, fun c' hc' => ?_, ?_⟩
    · rw [hc] at hidle
      cases hidle
    · rw [hc] at hc'
      cases hc'
      exact ht
    · rw [hret]
      exact hd.served

theorem restored_copy (cmdPhys respPhys : Bool) (hpc : q.pc = .entered c)
    (h : q.Restored size) : (q.copy c cmdPhys respPhys).Restored size := by
  have hcall : q.pc.call? = some c := by
    rw [hpc]
    rfl
  have hcopied := copy_copied q c cmdPhys respPhys
  generalize q.copy c cmdPhys respPhys = t at hcopied ⊢
  cases hcopied with
  | noCommand _ cmdBuf temps lost =>
      have h₁ : ControlQueue.Restored size
        { q with cmdBuf := cmdBuf, temps := temps, lost := lost } := h.of_same rfl rfl rfl
      exact h₁.leave hcall (fun hret => by cases hret) none
  | noResponse cmdBuf temps lost =>
      have h₁ : ControlQueue.Restored size
        { q with cmdBuf := cmdBuf, temps := temps, lost := lost } := h.of_same rfl rfl rfl
      exact h₁.leave hcall (fun hret => by cases hret) none
  | copied => exact h.go hcall rfl rfl rfl

theorem restored_publish (notify : Bool) (hpc : q.pc = .filled c) (h : q.Restored size) :
    (q.publish c notify).Restored size := by
  have hcall : (q.pushAvail c).pc.call? = some c := by
    show q.pc.call? = some c
    rw [hpc]
    rfl
  have h₁ : (q.pushAvail c).Restored size := h.of_same rfl rfl rfl
  unfold publish
  split
  · exact h₁.leave hcall (by decide) none
  · exact h₁.go hcall rfl rfl rfl

theorem restored_poll {i : Nat} (hpc : q.pc = .polling c i) (h : q.Restored size) :
    (q.poll c i).Restored size := by
  have hcall : q.pc.call? = some c := by
    rw [hpc]
    rfl
  unfold poll
  split
  · exact h.go hcall rfl rfl rfl
  split
  · exact h.go hcall rfl rfl rfl
  · exact h.leave hcall (by decide) none

theorem restored_read (hpc : q.pc = .found c) (h : q.Restored size) :
    (q.read c).Restored size := by
  have hcall : (q.consume c).pc.call? = some c := by
    show q.pc.call? = some c
    rw [hpc]
    rfl
  have h₁ : (q.consume c).Restored size := h.of_same rfl rfl rfl
  exact h₁.leave hcall (status_ne_noResources _ _) _

theorem restored_step {ev : Event} (hsize : 2 ≤ size) (hstep : Step q ev t)
    (h : q.Restored size) : t.Restored size := by
  cases hstep with
  | enter sub alloc hpc => exact restored_enter sub alloc hsize hpc h
  | copy c cmdPhys respPhys hpc => exact restored_copy cmdPhys respPhys hpc h
  | fill c hpc =>
      have hcall : q.pc.call? = some c := by
        rw [hpc]
        rfl
      exact h.go hcall rfl rfl rfl
  | publish c notify hpc => exact restored_publish notify hpc h
  | poll c i hpc => exact restored_poll hpc h
  | read c hpc => exact restored_read hpc h
  | release n rest hn => exact h.of_same rfl rfl rfl
  | exec _ hexec =>
      obtain ⟨x, ring, -, rfl⟩ := exec_eq_some hexec
      exact h.of_same rfl rfl rfl
  | complete i respType _ hc =>
      obtain ⟨x, ring, -, rfl⟩ := complete_eq_some hc
      exact h.of_same rfl rfl rfl

theorem restored_init (size : Nat) : (init size).Restored size where
  idle _ := rfl
  busy _ h := (by cases h)
  served _ h := (by cases h)

theorem always_restored (hsize : 2 ≤ size) (evs : List Event) :
    (machine size).Always (Restored size) (machine size).init evs := by
  refine (machine size).always_of_along (C := fun _ _ => True) (fun q ev t h _ hstep => ?_)
    (restored_init size) ((machine size).along_true _ _)
  exact restored_step hsize (Step.of_step hstep) h

/-! ## All calls, all exits -/

/-- **The free list is the same after every call**: whatever calls were made
and however they ended, between calls `m_vq_free_head` and `m_vq_free_next` are
as they were set up, a chain through all descriptors to the end mark; and no
call fails for want of descriptors. -/
theorem free_list_restored {offered : Nat} (hoffered : negotiatedSize offered = some size)
    (hsize : 2 ≤ size) (evs : List Event) :
    (machine size).Always
      (fun q => (q.pc = .idle → q.free.marked freeEnd = setupFreeList size ∧
          (q.free.marked freeEnd).Visits freeEnd (List.range size)) ∧
        ∀ r ∈ q.returns, r.ret ≠ .noResources)
      (machine size).init evs := by
  obtain ⟨k, hk, rfl⟩ := exists_negotiatedSize.mp ⟨offered, hoffered⟩
  -- with 256 descriptors at most, the mark is none of them
  have hmark : 2 ^ k ≤ freeEnd := by
    have hle : 2 ^ k ≤ 2 ^ 8 := Nat.pow_le_pow_right Nat.two_pos hk
    have hend : freeEnd = 65535 := rfl
    omega
  refine (always_restored hsize evs).imp _ fun q h => ⟨fun hidle => ?_, h.served⟩
  rw [h.idle hidle]
  exact ⟨marked_upTo _, FreeList.visits_upTo (Nat.two_pow_pos k) hmark⟩

/-- A call that times out on a queue of 64 and one that completes. -/
theorem free_list_restored_64 :
    negotiatedSize 100 = some 64 ∧ (machine 64).Always
      (fun q => (q.pc = .idle → q.free.marked freeEnd = setupFreeList 64 ∧
          (q.free.marked freeEnd).Visits freeEnd (List.range 64)) ∧
        ∀ r ∈ q.returns, r.ret ≠ .noResources)
      (machine 64).init
      (timedOut header ++ toPolling header ++ [.exec, .complete 0 respOkNodata, .poll, .read]) := by
  have h : negotiatedSize 100 = some 64 := by
    rw [negotiatedSize_eq (by decide)]
    decide
  exact ⟨h, free_list_restored h (by decide) _⟩

/-! ## Counting what is free -/

/-- The loop of `vringFreeDepth`: at most `left` more turns. -/
def freeDepthFrom (size : Nat) (next : Nat → Nat) : Nat → Nat → Nat
  | 0, _ => 0
  | left + 1, i => if i ≠ freeEnd ∧ i < size then freeDepthFrom size next left (next i) + 1 else 0

/-- `vringFreeDepth`, which gives up when it has counted more than there are. -/
def vringFreeDepth (size : Nat) (l : MarkedList) : Nat :=
  if size = 0 then 0 else freeDepthFrom size l.next (size + 1) l.head

/-- On a list that ends the loop counts its entries. -/
theorem freeDepthFrom_eq {next : Nat → Nat} {path : List Nat} {i left : Nat}
    (h : MarkedList.Leads freeEnd next i path) (hpath : ∀ j ∈ path, j < size)
    (hleft : path.length < left) : freeDepthFrom size next left i = path.length := by
  induction path generalizing i left with
  | nil =>
      obtain ⟨left, rfl⟩ := Nat.exists_eq_add_of_lt hleft
      have hi : i = freeEnd := h
      rw [freeDepthFrom, if_neg fun hcond => hcond.1 hi]
      rfl
  | cons j js ih =>
      obtain ⟨hne, rfl, hjs⟩ := h
      obtain ⟨left, rfl⟩ := Nat.exists_eq_succ_of_ne_zero (Nat.ne_zero_of_lt hleft)
      rw [List.length_cons] at hleft ⊢
      rw [freeDepthFrom, if_pos ⟨hne, hpath i List.mem_cons_self⟩,
        ih hjs (fun j hj => hpath j (List.mem_cons_of_mem _ hj)) (by omega)]

theorem vringFreeDepth_eq {l : MarkedList} {path : List Nat} (h : l.Visits freeEnd path)
    (hpath : ∀ j ∈ path, j < size) (hlength : path.length ≤ size) (hsize : 0 < size) :
    vringFreeDepth size l = path.length := by
  rw [vringFreeDepth, if_neg (by omega)]
  exact freeDepthFrom_eq h hpath (by omega)

/-- During a call the list leads through all descriptors but the first two. -/
theorem Taken.visits {free : FreeList} (h : Taken size c free) (hsize : 2 ≤ size)
    (hmark : size ≤ freeEnd) : (free.marked freeEnd).Visits freeEnd (List.range' 2 (size - 2)) := by
  obtain ⟨free₁, hcmd, hresp⟩ := h
  obtain ⟨hzero, rfl⟩ := FreeList.pop_eq_some hcmd
  obtain ⟨hone, rfl⟩ := FreeList.pop_eq_some hresp
  have hfirst : 0 = c.cmdDesc := Option.some.inj hzero
  have hsecond : 1 = c.respDesc := by
    rw [← hfirst] at hone
    have hnext : (if 0 + 1 < size then some (0 + 1) else none) = some c.respDesc := hone
    rw [if_pos (by omega)] at hnext
    exact Option.some.inj hnext
  show MarkedList.Leads freeEnd ((FreeList.upTo size).marked freeEnd).next
    (((FreeList.upTo size).next c.respDesc).getD freeEnd) _
  rw [← hsecond]
  show MarkedList.Leads freeEnd _ ((if 1 + 1 < size then some (1 + 1) else none).getD freeEnd) _
  rcases hsize.eq_or_lt with rfl | hlt
  · rfl
  · rw [if_pos hlt]
    have hleads := FreeList.leads_upTo hmark (size - 3) (i := 2) (by omega)
    rwa [show size - 3 + 1 = size - 2 by omega] at hleads

/-- With a single descriptor no call comes to have any. -/
theorem always_idle_one (evs : List Event) :
    (machine 1).Always (fun q => q.pc = .idle ∧ q.free = .upTo 1) (machine 1).init evs := by
  refine (machine 1).always_of_along (C := fun _ _ => True) (fun q ev t h _ hstep => ?_)
    ⟨rfl, rfl⟩ ((machine 1).along_true _ _)
  obtain ⟨hidle, hfree⟩ := h
  have hbusy : ∀ pc, q.pc = pc → pc ≠ .idle → t.pc = .idle ∧ t.free = .upTo 1 :=
    fun pc hpc hne => absurd (hpc.symm.trans hidle) hne
  cases Step.of_step hstep with
  | enter sub alloc hpc =>
      unfold enter
      split
      · exact ⟨hidle, hfree⟩
      have hacq := acquire_acquired (q.drain sub) sub alloc
      generalize (q.drain sub).acquire sub alloc = t at hacq ⊢
      cases hacq with
      | refused ret => exact ⟨hidle, hfree⟩
      | entered cmdDesc respDesc free₁ free₂ buffer temps nextTemp hcmd hresp =>
          obtain ⟨hzero, rfl⟩ := FreeList.pop_eq_some hcmd
          obtain ⟨hone, -⟩ := FreeList.pop_eq_some hresp
          have hlink : (FreeList.upTo 1).next cmdDesc = some respDesc := hfree ▸ hone
          have hfirst : some 0 = some cmdDesc := by
            rw [← hzero]
            show (FreeList.upTo 1).head = q.free.head
            rw [hfree]
          rw [← Option.some.inj hfirst] at hlink
          cases hlink
  | copy c cmdPhys respPhys hpc => exact hbusy _ hpc Pc.noConfusion
  | fill c hpc => exact hbusy _ hpc Pc.noConfusion
  | publish c notify hpc => exact hbusy _ hpc Pc.noConfusion
  | poll c i hpc => exact hbusy _ hpc Pc.noConfusion
  | read c hpc => exact hbusy _ hpc Pc.noConfusion
  | release n rest hn => exact ⟨hidle, hfree⟩
  | exec _ hexec =>
      obtain ⟨x, ring, -, rfl⟩ := exec_eq_some hexec
      exact ⟨hidle, hfree⟩
  | complete i respType _ hc =>
      obtain ⟨x, ring, -, rfl⟩ := complete_eq_some hc
      exact ⟨hidle, hfree⟩

/-- **`vringFreeDepth` counts the free descriptors** in every state that any calls, any
allocation failures and any device lead to: all of them between calls, two less during a
call. -/
theorem vringFreeDepth_exact {offered : Nat} (hoffered : negotiatedSize offered = some size)
    (evs : List Event) :
    (machine size).Always
      (fun q => vringFreeDepth size (q.free.marked freeEnd) =
        if q.pc.call?.isSome then size - 2 else size)
      (machine size).init evs := by
  obtain ⟨k, hk, rfl⟩ := exists_negotiatedSize.mp ⟨offered, hoffered⟩
  have hmark : 2 ^ k ≤ freeEnd := by
    have hle : 2 ^ k ≤ 2 ^ 8 := Nat.pow_le_pow_right Nat.two_pos hk
    have hend : freeEnd = 65535 := rfl
    omega
  have hall : vringFreeDepth (2 ^ k) ((FreeList.upTo (2 ^ k)).marked freeEnd) = 2 ^ k := by
    rw [vringFreeDepth_eq (FreeList.visits_upTo (Nat.two_pow_pos k) hmark)
      (fun j hj => List.mem_range.mp hj) (by rw [List.length_range]) (Nat.two_pow_pos k)]
    exact List.length_range
  cases k with
  | zero =>
      refine (always_idle_one evs).imp _ fun q h => ?_
      rw [h.1, h.2]
      exact hall
  | succ k =>
      have hsize : 2 ≤ 2 ^ (k + 1) := Nat.le_self_pow (Nat.succ_ne_zero k) 2
      refine (always_restored hsize evs).imp _ fun q h => ?_
      cases hcall : q.pc.call? with
      | none =>
          have hidle : q.pc = .idle := by
            cases hpc : q.pc <;> simp [hpc, Pc.call?] at hcall ⊢
          rw [h.idle hidle]
          exact hall
      | some c =>
          rw [vringFreeDepth_eq ((h.busy c hcall).visits hsize hmark)
            (fun j hj => by rw [List.mem_range'_1] at hj; omega)
            (by rw [List.length_range']; omega) (by omega)]
          exact List.length_range'

/-- A call that times out, on a queue of 64. -/
theorem vringFreeDepth_exact_64 :
    negotiatedSize 100 = some 64 ∧ (machine 64).Always
      (fun q => vringFreeDepth 64 (q.free.marked freeEnd) =
        if q.pc.call?.isSome then 64 - 2 else 64)
      (machine 64).init (timedOut header) := by
  have h : negotiatedSize 100 = some 64 := by
    rw [negotiatedSize_eq (by decide)]
    decide
  exact ⟨h, vringFreeDepth_exact h _⟩

end ControlQueue
end VMQemuVGA
