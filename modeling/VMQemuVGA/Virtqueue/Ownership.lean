import VMQemuVGA.Virtqueue.ControlQueue

/-! # Who owns a published chain

From being published to being put on the used ring a chain belongs to the
device. `submitCommand` returns a chain's descriptors whenever it returns, so
after a timeout the next call fills the same descriptors and, if its command is
small, the same buffer. This module says exactly when that goes well. -/

namespace VMQemuVGA

/-- The chain has a descriptor in common with the call. -/
def Chain.shares (ch : Chain) (c : Call) : Bool :=
  ch.cmdDesc == c.cmdDesc || ch.cmdDesc == c.respDesc || ch.respDesc == c.cmdDesc ||
    ch.respDesc == c.respDesc

namespace ControlQueue

/-- Every chain reaches the device as it was published: no outstanding chain
lost a descriptor or bytes, and what the device executes are submitted
commands, each of them at most once. -/
structure Owned (q : ControlQueue) : Prop where
  intact : q.lost = []
  faithful : ∀ x ∈ q.executed, ∃ no sub, x.call = some no ∧ q.submitted[no]? = some sub ∧
    x.bytes = some sub.bytes
  once : (q.executed.map Execution.call).Nodup

/-- The driver writes only what no outstanding chain is using: a buffer when it
copies a command or gives the buffer back, descriptors when it fills them. As all
chains have the same two descriptors, none may be outstanding then. -/
def KeepsOff (q : ControlQueue) : Event → Prop
  | .copy .. => ∀ c, q.pc = .entered c → ∀ ch ∈ q.outstanding, ch.buffer ≠ c.buffer
  | .fill => ∀ c, q.pc = .copied c → ∀ ch ∈ q.outstanding, ch.shares c = false
  | .release => ∀ n, q.toRelease.head? = some n → ∀ ch ∈ q.outstanding, ch.buffer ≠ .temp n
  | _ => True

/-! ## What is lost in a step -/

theorem lost_lose (q : ControlQueue) (hit : Chain → Bool) :
    (q.lose hit).lost = q.lost ++ (q.outstanding.filter hit).map Chain.call := rfl

theorem lost_lose_eq_nil {q : ControlQueue} {hit : Chain → Bool} :
    (q.lose hit).lost = [] ↔ q.lost = [] ∧ ∀ ch ∈ q.outstanding, hit ch = false := by
  rw [lost_lose, List.append_eq_nil_iff, List.map_eq_nil_iff, List.filter_eq_nil_iff]
  simp only [Bool.not_eq_true]

theorem lost_write (q : ControlQueue) (b : Buffer) (bytes : List UInt8) :
    (q.write b bytes).lost = q.lost := by
  cases b <;> rfl

theorem outstanding_write (q : ControlQueue) (b : Buffer) (bytes : List UInt8) :
    (q.write b bytes).outstanding = q.outstanding := by
  cases b <;> rfl

theorem lost_freeTemp_eq_nil {q : ControlQueue} {n : Nat} :
    (q.freeTemp n).lost = [] ↔ q.lost = [] ∧ ∀ ch ∈ q.outstanding, ch.buffer ≠ .temp n := by
  refine lost_lose_eq_nil.trans ?_
  simp only [beq_eq_false_iff_ne]

theorem lost_freeBuffer_eq_nil {q : ControlQueue} {c : Call} (h : q.lost = [])
    (hout : ∀ ch ∈ q.outstanding, ch.buffer ≠ c.buffer) : (q.freeBuffer c).lost = [] := by
  unfold freeBuffer
  split
  · next n hn => exact lost_freeTemp_eq_nil.mpr ⟨h, hn ▸ hout⟩
  · exact h

theorem lost_freeBuffer_nil {q : ControlQueue} {c : Call} (h : (q.freeBuffer c).lost = []) :
    q.lost = [] := by
  unfold freeBuffer at h
  split at h
  · exact (lost_freeTemp_eq_nil.mp h).1
  · exact h

theorem lost_copy_eq_nil {q : ControlQueue} {c : Call} (cmdPhys respPhys : Bool) :
    (q.copy c cmdPhys respPhys).lost = [] ↔
      q.lost = [] ∧ ∀ ch ∈ q.outstanding, ch.buffer ≠ c.buffer := by
  let q₁ := (q.lose fun ch => ch.buffer == c.buffer).write c.buffer c.sub.bytes
  have h₁ : q₁.lost = [] ↔ q.lost = [] ∧ ∀ ch ∈ q.outstanding, ch.buffer ≠ c.buffer := by
    rw [lost_write, lost_lose_eq_nil]
    simp only [beq_eq_false_iff_ne]
  have hout : q₁.outstanding = q.outstanding := outstanding_write _ _ _
  unfold copy
  dsimp only
  split
  · -- giving the buffer back finds no chain that copying to it did not find
    rw [← h₁]
    refine ⟨lost_freeBuffer_nil, fun h => lost_freeBuffer_eq_nil h ?_⟩
    rw [hout]
    exact (h₁.mp h).2
  split
  · exact h₁
  · exact h₁

theorem lost_acquire (q : ControlQueue) (sub : Submission) (alloc : Bool) :
    (q.acquire sub alloc).lost = q.lost := by
  have h := acquire_acquired q sub alloc
  generalize q.acquire sub alloc = t at h ⊢
  cases h <;> rfl

/-- Exactly the steps that do not keep off lose something. -/
theorem lost_step_eq_nil {q t : ControlQueue} {ev : Event} (h : Step q ev t) :
    t.lost = [] ↔ q.lost = [] ∧ q.KeepsOff ev := by
  cases h with
  | enter sub alloc hpc =>
      have hlost : (q.enter sub alloc).lost = q.lost := by
        unfold enter
        split
        · rfl
        · exact lost_acquire (q.drain sub) sub alloc
      rw [hlost]
      exact (and_iff_left trivial).symm
  | copy c cmdPhys respPhys hpc =>
      rw [lost_copy_eq_nil]
      refine and_congr_right fun _ => ⟨fun h c' hc' => ?_, fun h => h c hpc⟩
      obtain rfl := Pc.entered.inj (hpc.symm.trans hc')
      exact h
  | fill c hpc =>
      refine lost_lose_eq_nil.trans
        (and_congr_right fun _ => ⟨fun h c' hc' => ?_, fun h => h c hpc⟩)
      obtain rfl := Pc.copied.inj (hpc.symm.trans hc')
      exact h
  | publish c notify hpc =>
      have hlost : (q.publish c notify).lost = q.lost := by
        unfold publish
        split <;> rfl
      rw [hlost]
      exact (and_iff_left trivial).symm
  | poll c i hpc =>
      have hlost : (q.poll c i).lost = q.lost := by
        unfold poll
        split
        · rfl
        split <;> rfl
      rw [hlost]
      exact (and_iff_left trivial).symm
  | read c hpc => exact (and_iff_left trivial).symm
  | release n rest hn =>
      refine lost_freeTemp_eq_nil.trans (and_congr_right fun _ => ⟨fun h n' hn' => ?_, fun h => ?_⟩)
      · rw [hn, List.head?_cons, Option.some.injEq] at hn'
        exact hn' ▸ h
      · exact h n (by rw [hn]; rfl)
  | exec _ hexec =>
      obtain ⟨x, ring, -, rfl⟩ := exec_eq_some hexec
      exact (and_iff_left trivial).symm
  | complete i respType _ hc =>
      obtain ⟨x, ring, -, rfl⟩ := complete_eq_some hc
      exact (and_iff_left trivial).symm

/-! ## The state while nothing is lost -/

/-- The call under way: its descriptors are the first two of the free list. -/
structure Busy (q : ControlQueue) (c : Call) : Prop where
  free : ∃ free₁, (FreeList.upTo q.ring.size).pop = some (c.cmdDesc, free₁) ∧
    free₁.pop = some (c.respDesc, q.free)
  no : c.no + 1 = q.submitted.length
  sub : q.submitted[c.no]? = some c.sub
  len : c.sub.bytes.length < u32
  buffer : c.buffer ≠ .response
  temp : ∀ n, c.buffer = .temp n → n < q.nextTemp ∧ n ∉ q.toRelease

/-- What the device will read when it takes the chain is the command of its call. -/
def Ready (q : ControlQueue) (ch : Chain) : Prop :=
  (q.ring.desc ch.cmdDesc).buffer = ch.buffer ∧ ∃ sub, q.submitted[ch.call]? = some sub ∧
    q.bytesAt ch.buffer (q.ring.desc ch.cmdDesc).len = some sub.bytes

/-- At most one chain is outstanding, and either the device has taken it or it
is next on the available ring, ready to be read. -/
inductive Stage (q : ControlQueue) : Prop where
  | none (hout : q.outstanding = []) (hseen : q.ring.seen = q.ring.availIdx)
      (hflight : q.ring.inFlight = [])
  | waiting (ch) (hout : q.outstanding = [ch]) (hseen : inc16 q.ring.seen = q.ring.availIdx)
      (hflight : q.ring.inFlight = [])
      (hentry : q.ring.availRing (q.ring.seen % q.ring.size) = ⟨ch.cmdDesc, some ch.call⟩)
      (hready : q.Ready ch) (hnew : ∀ x ∈ q.executed, x.call ≠ some ch.call)
  | taken (ch) (hout : q.outstanding = [ch]) (hseen : q.ring.seen = q.ring.availIdx)
      (hflight : q.ring.inFlight = [⟨ch.cmdDesc, some ch.call⟩])

structure Kept (q : ControlQueue) : Prop where
  idle : q.pc = .idle → q.free = .upTo q.ring.size
  busy : ∀ c, q.pc.call? = some c → q.Busy c
  loaded : ∀ c, q.pc.loaded? = some c →
    q.bytesAt c.buffer c.sub.bytes.length = some c.sub.bytes
  unsent : ∀ c, q.pc.unsent? = some c →
    (∀ x ∈ q.executed, x.call ≠ some c.no) ∧ ∀ ch ∈ q.outstanding, ch.call ≠ c.no
  filled : ∀ c, q.pc = .filled c → q.outstanding = [] ∧
    q.ring.desc c.cmdDesc = ⟨c.buffer, c.sub.bytes.length % u32, some c.respDesc, false⟩
  chains : ∀ ch ∈ q.outstanding, ch.cmdDesc = 0 ∧ ch.call < q.submitted.length ∧
    ∀ n, ch.buffer = .temp n → n < q.nextTemp
  release : ∀ n ∈ q.toRelease, n < q.nextTemp
  stage : q.Stage
  faithful : ∀ x ∈ q.executed, ∃ no sub, x.call = some no ∧ q.submitted[no]? = some sub ∧
    x.bytes = some sub.bytes
  once : (q.executed.map Execution.call).Nodup

theorem Kept.owned {q : ControlQueue} (h : q.Kept) (hlost : q.lost = []) : q.Owned :=
  ⟨hlost, h.faithful, h.once⟩

theorem Busy.of_same {q t : ControlQueue} {c : Call} (h : q.Busy c)
    (hsize : t.ring.size = q.ring.size) (hfree : t.free = q.free)
    (hsub : t.submitted = q.submitted) (hnext : t.nextTemp = q.nextTemp)
    (hrel : ∀ n ∈ t.toRelease, n ∈ q.toRelease) : t.Busy c where
  free := by
    rw [hsize, hfree]
    exact h.free
  no := by rw [hsub, h.no]
  sub := by rw [hsub, h.sub]
  len := h.len
  buffer := h.buffer
  temp n hn := by
    obtain ⟨hlt, hnot⟩ := h.temp n hn
    exact ⟨hnext ▸ hlt, fun hin => hnot (hrel n hin)⟩

/-- The descriptors of a call are 0 and 1. -/
theorem Busy.descs {q : ControlQueue} {c : Call} (h : q.Busy c) :
    c.cmdDesc = 0 ∧ c.respDesc = 1 := by
  obtain ⟨free₁, hcmd, hresp⟩ := h.free
  obtain ⟨hhead, rfl⟩ := FreeList.pop_eq_some hcmd
  obtain ⟨hhead', -⟩ := FreeList.pop_eq_some hresp
  have hcmd0 : 0 = c.cmdDesc := Option.some.inj hhead
  refine ⟨hcmd0.symm, ?_⟩
  simp only [FreeList.upTo, ← hcmd0, Nat.zero_add, Option.ite_none_right_eq_some,
    Option.some.injEq] at hhead'
  exact hhead'.2.symm

/-! ### Memory -/

theorem bytesAt_write {q : ControlQueue} {b : Buffer} (hb : b ≠ .response) (bytes : List UInt8) :
    (q.write b bytes).bytesAt b bytes.length = some bytes := by
  cases b with
  | command => simp [write, bytesAt]
  | temp n => simp [write, bytesAt]
  | response => exact absurd rfl hb

theorem bytesAt_write_ne {q : ControlQueue} {b b' : Buffer} (h : b' ≠ b) (bytes : List UInt8)
    (len : Nat) : (q.write b bytes).bytesAt b' len = q.bytesAt b' len := by
  cases b with
  | command =>
      cases b' with
      | command => exact absurd rfl h
      | temp n => rfl
      | response => rfl
  | temp n =>
      cases b' with
      | command => rfl
      | temp m =>
          have hm : m ≠ n := fun hm => h (by rw [hm])
          simp only [write, bytesAt, Function.update_of_ne hm]
      | response => rfl
  | response => rfl

theorem bytesAt_updateTemp_ne {q : ControlQueue} {b : Buffer} {n : Nat} (h : b ≠ .temp n)
    (v : Option (List UInt8)) (len : Nat) :
    ControlQueue.bytesAt { q with temps := Function.update q.temps n v } b len =
      q.bytesAt b len := by
  cases b with
  | command => rfl
  | temp m =>
      have hm : m ≠ n := fun hm => h (by rw [hm])
      simp only [bytesAt, Function.update_of_ne hm]
  | response => rfl

/-- A step that leaves rings, outstanding chains, executions and what is
written of the outstanding chains alone. -/
theorem Stage.of_same {q t : ControlQueue} (h : q.Stage) (hring : t.ring = q.ring)
    (hout : t.outstanding = q.outstanding) (hexec : t.executed = q.executed)
    (hsub : ∀ ch ∈ q.outstanding, ∀ sub, q.submitted[ch.call]? = some sub →
      t.submitted[ch.call]? = some sub)
    (hbytes : ∀ ch ∈ q.outstanding, ∀ len, t.bytesAt ch.buffer len = q.bytesAt ch.buffer len) :
    t.Stage := by
  rcases h with ⟨ho, hseen, hflight⟩ | ⟨ch, ho, hseen, hflight, hentry, hready, hnew⟩ |
    ⟨ch, ho, hseen, hflight⟩
  · exact .none (hout.trans ho) (by rw [hring, hseen]) (by rw [hring, hflight])
  · have hmem : ch ∈ q.outstanding := ho ▸ List.mem_singleton_self ch
    refine .waiting ch (hout.trans ho) (by rw [hring, hseen]) (by rw [hring, hflight])
      (by rw [hring, hentry]) ?_ (hexec ▸ hnew)
    obtain ⟨hbuf, sub, hs, hb⟩ := hready
    refine ⟨by rw [hring, hbuf], sub, hsub ch hmem sub hs, ?_⟩
    rw [hring, hbytes ch hmem, hb]
  · exact .taken ch (hout.trans ho) (by rw [hring, hseen]) (by rw [hring, hflight])

/-! ### Driver steps -/

/-- Returning leaves the free list as the call found it. -/
theorem Kept.leave {q : ControlQueue} {c : Call} (h : q.Kept) (hc : q.pc.call? = some c)
    (ret : IOReturn) (consumed : Option RingEntry) : (q.leave c ret consumed).Kept where
  idle _ := by
    obtain ⟨free₁, hcmd, hresp⟩ := (h.busy c hc).free
    show (q.free.push c.respDesc).push c.cmdDesc = _
    rw [FreeList.push_of_pop hresp, FreeList.push_of_pop hcmd]
    rfl
  busy _ h := (by cases h)
  loaded _ h := (by cases h)
  unsent _ h := (by cases h)
  filled _ h := (by cases h)
  chains := h.chains
  release := h.release
  stage := h.stage.of_same rfl rfl rfl (fun _ _ _ h => h) fun _ _ _ => rfl
  faithful := h.faithful
  once := h.once

/-- The call moves on, its chain published. -/
theorem Kept.setPc {q : ControlQueue} {c : Call} {pc : Pc} (h : q.Kept)
    (hc : q.pc.call? = some c) (hpc : pc.call? = some c) (hunsent : pc.unsent? = none) :
    ControlQueue.Kept { q with pc := pc } where
  idle hidle := by
    have hidle : pc = .idle := hidle
    rw [hidle] at hpc
    cases hpc
  busy c' hc' :=
    (h.busy c' (hc.trans (hpc.symm.trans hc'))).of_same rfl rfl rfl rfl fun _ hn => hn
  loaded c' hc' := by
    cases pc with
    | copied _ => cases hunsent
    | filled _ => cases hunsent
    | _ => cases hc'
  unsent c' hc' := by
    have hc' : pc.unsent? = some c' := hc'
    rw [hunsent] at hc'
    cases hc'
  filled c' hc' := by
    have hc' : pc = .filled c' := hc'
    rw [hc'] at hunsent
    cases hunsent
  chains := h.chains
  release := h.release
  stage := h.stage.of_same rfl rfl rfl (fun _ _ _ h => h) fun _ _ _ => rfl
  faithful := h.faithful
  once := h.once

/-- Memory changes that no outstanding chain and no loaded command sees. -/
theorem Kept.setMemory {q : ControlQueue} {cmdBuf : List UInt8}
    {temps : Nat → Option (List UInt8)} {lost : List Nat} (h : q.Kept)
    (hbytes : ∀ ch ∈ q.outstanding, ∀ len,
      ControlQueue.bytesAt { q with cmdBuf := cmdBuf, temps := temps, lost := lost } ch.buffer len =
        q.bytesAt ch.buffer len)
    (hloaded : ∀ c, q.pc.loaded? = some c →
      ControlQueue.bytesAt { q with cmdBuf := cmdBuf, temps := temps, lost := lost } c.buffer
        c.sub.bytes.length = q.bytesAt c.buffer c.sub.bytes.length) :
    ControlQueue.Kept { q with cmdBuf := cmdBuf, temps := temps, lost := lost } where
  idle := h.idle
  busy c hc := (h.busy c hc).of_same rfl rfl rfl rfl fun _ hn => hn
  loaded c hc := (hloaded c hc).trans (h.loaded c hc)
  unsent := h.unsent
  filled := h.filled
  chains := h.chains
  release := h.release
  stage := h.stage.of_same rfl rfl rfl (fun _ _ _ h => h) hbytes
  faithful := h.faithful
  once := h.once

theorem kept_freeTemp {q : ControlQueue} {n : Nat} (h : q.Kept)
    (hout : ∀ ch ∈ q.outstanding, ch.buffer ≠ .temp n)
    (hloaded : ∀ c, q.pc.loaded? = some c → c.buffer ≠ .temp n) : (q.freeTemp n).Kept :=
  h.setMemory (fun ch hch _ => bytesAt_updateTemp_ne (hout ch hch) none _)
    fun c hc => bytesAt_updateTemp_ne (hloaded c hc) none _

theorem kept_release {q : ControlQueue} {n : Nat} {rest : List Nat} (h : q.Kept)
    (hn : q.toRelease = n :: rest) (hout : ∀ ch ∈ q.outstanding, ch.buffer ≠ .temp n) :
    ControlQueue.Kept { q.freeTemp n with toRelease := rest } := by
  have hrest : ∀ m ∈ rest, m ∈ q.toRelease := fun m hm => hn ▸ List.mem_cons_of_mem n hm
  have h₁ : (q.freeTemp n).Kept := by
    refine kept_freeTemp h hout fun c hc hbuf => ?_
    -- the call under way does not use a buffer that is to be released
    have hcall : q.pc.call? = some c := by
      cases hpc : q.pc with
      | copied c' => rwa [hpc] at hc
      | filled c' => rwa [hpc] at hc
      | _ =>
          rw [hpc] at hc
          cases hc
    exact ((h.busy c hcall).temp n hbuf).2 (hn ▸ List.mem_cons_self)
  exact ⟨h₁.idle, fun c hc => (h.busy c hc).of_same rfl rfl rfl rfl hrest, h₁.loaded, h₁.unsent,
    h₁.filled, h₁.chains, fun m hm => h.release m (hrest m hm),
    h₁.stage.of_same rfl rfl rfl (fun _ _ _ h => h) fun _ _ _ => rfl, h₁.faithful, h₁.once⟩

/-- A submission more, with no call under way. -/
theorem kept_drain {q : ControlQueue} (sub : Submission) (hpc : q.pc = .idle) (h : q.Kept) :
    (q.drain sub).Kept := by
  have hold : ∀ (i : Nat) (sub' : Submission), q.submitted[i]? = some sub' →
      (q.submitted ++ [sub])[i]? = some sub' := by
    intro i sub' hi
    obtain ⟨hlt, -⟩ := List.getElem?_eq_some_iff.mp hi
    rw [List.getElem?_append_left hlt, hi]
  have hpc' : (q.drain sub).pc = .idle := hpc
  refine ⟨h.idle, fun c hc => ?_, fun c hc => ?_, fun c hc => ?_, fun c hc => ?_,
    fun ch hch => ?_, h.release, ?_, fun x hx => ?_, h.once⟩
  · rw [hpc'] at hc
    cases hc
  · rw [hpc'] at hc
    cases hc
  · rw [hpc'] at hc
    cases hc
  · rw [hpc'] at hc
    cases hc
  · obtain ⟨hdesc, hlt, htemp⟩ := h.chains ch hch
    have hmore : (q.drain sub).submitted.length = q.submitted.length + 1 := by simp [drain]
    exact ⟨hdesc, by omega, htemp⟩
  · exact h.stage.of_same rfl rfl rfl (fun ch _ sub' => hold ch.call sub') fun _ _ _ => rfl
  · obtain ⟨no, sub', hno, hsub', hb⟩ := h.faithful x hx
    exact ⟨no, sub', hno, hold no sub' hsub', hb⟩

/-- The new buffer is none of those given out before. -/
theorem GotBuffer.fresh {q : ControlQueue} {buffer : Buffer} {temps : Nat → Option (List UInt8)}
    {nextTemp : Nat} (h : GotBuffer q buffer temps nextTemp) :
    buffer ≠ .response ∧ q.nextTemp ≤ nextTemp ∧
      ∀ n, buffer = .temp n → q.nextTemp ≤ n ∧ n < nextTemp := by
  cases h with
  | static => exact ⟨Buffer.noConfusion, Nat.le_refl _, fun n hn => (by cases hn)⟩
  | temp =>
      refine ⟨Buffer.noConfusion, Nat.le_succ _, fun n hn => ?_⟩
      obtain rfl := Buffer.temp.inj hn
      exact ⟨Nat.le_refl _, Nat.lt_succ_self _⟩

theorem kept_enter {q : ControlQueue} (sub : Submission) (alloc : Bool) (hpc : q.pc = .idle)
    (h : q.Kept) : (q.enter sub alloc).Kept := by
  unfold enter
  split
  · exact h
  have hd := kept_drain sub hpc h
  have hlen : (q.drain sub).submitted.length = q.submitted.length + 1 := by simp [drain]
  have hacq := acquire_acquired (q.drain sub) sub alloc
  generalize (q.drain sub).acquire sub alloc = t at hacq ⊢
  cases hacq with
  | refused ret =>
      exact ⟨hd.idle, fun c hc => (hd.busy c hc).of_same rfl rfl rfl rfl fun _ hn => hn, hd.loaded,
        hd.unsent, hd.filled, hd.chains, hd.release,
        hd.stage.of_same rfl rfl rfl (fun _ _ _ h => h) fun _ _ _ => rfl, hd.faithful, hd.once⟩
  | entered cmdDesc respDesc free₁ free₂ buffer temps nextTemp hcmd hresp hbuf hlen32 =>
      obtain ⟨hnotResp, hnext, hfresh⟩ := hbuf.fresh
      refine ⟨fun hc => (by cases hc), fun c hc => ?_, fun c hc => (by cases hc), fun c hc => ?_,
        fun c hc => (by cases hc), fun ch hch => ?_,
        fun n hn => Nat.lt_of_lt_of_le (hd.release n hn) hnext, ?_, hd.faithful, hd.once⟩
      · cases hc
        refine ⟨⟨free₁, hd.idle hpc ▸ hcmd, hresp⟩, ?_, ?_, hlen32, hnotResp, fun n hn => ?_⟩
        · dsimp only
          omega
        · dsimp only
          rw [hlen]
          exact List.getElem?_concat_length
        · obtain ⟨hle, hlt⟩ := hfresh n hn
          exact ⟨hlt, fun hin => absurd (hd.release n hin) (Nat.not_lt_of_le hle)⟩
      · -- earlier calls have smaller numbers
        cases hc
        have hno : (q.drain sub).submitted.length - 1 = q.submitted.length := by omega
        dsimp only
        rw [hno]
        refine ⟨fun x hx hcall => ?_, fun ch hch => Nat.ne_of_lt (h.chains ch hch).2.1⟩
        obtain ⟨no, sub', hno', hsub', -⟩ := h.faithful x hx
        obtain rfl := Option.some.inj (hno'.symm.trans hcall)
        obtain ⟨hlt, -⟩ := List.getElem?_eq_some_iff.mp hsub'
        exact Nat.lt_irrefl _ hlt
      · obtain ⟨hdesc, hlt, htemp⟩ := hd.chains ch hch
        exact ⟨hdesc, hlt, fun n hn => Nat.lt_of_lt_of_le (htemp n hn) hnext⟩
      · refine hd.stage.of_same rfl rfl rfl (fun _ _ _ h => h) fun ch hch len => ?_
        cases hbuf with
        | static => rfl
        | temp =>
            refine bytesAt_updateTemp_ne (fun hch' => ?_) (some []) len
            exact Nat.lt_irrefl _ ((hd.chains ch hch).2.2 _ hch')

/-- The command is in its buffer, the call not having moved on yet. -/
theorem kept_write {q : ControlQueue} {c : Call} (hpc : q.pc = .entered c) (h : q.Kept)
    (hout : ∀ ch ∈ q.outstanding, ch.buffer ≠ c.buffer) (lost : List Nat) :
    (ControlQueue.write { q with lost := lost } c.buffer c.sub.bytes).Kept := by
  have hbytes : ∀ ch ∈ q.outstanding, ∀ len,
      (ControlQueue.write { q with lost := lost } c.buffer c.sub.bytes).bytesAt ch.buffer len =
        q.bytesAt ch.buffer len :=
    fun ch hch len => bytesAt_write_ne (hout ch hch) c.sub.bytes len
  have hloaded : ∀ c', q.pc.loaded? = some c' → False := by
    intro c' hc'
    rw [hpc] at hc'
    cases hc'
  cases hb : c.buffer with
  | command =>
      rw [hb] at hbytes
      exact h.setMemory hbytes fun c' hc' => (hloaded c' hc').elim
  | temp n =>
      rw [hb] at hbytes
      exact h.setMemory hbytes fun c' hc' => (hloaded c' hc').elim
  | response => exact absurd hb (h.busy c (by rw [hpc]; rfl)).buffer

theorem pc_write (q : ControlQueue) (b : Buffer) (bytes : List UInt8) :
    (q.write b bytes).pc = q.pc := by
  cases b <;> rfl

theorem kept_freeBuffer {q : ControlQueue} {c : Call} (hpc : q.pc = .entered c) (h : q.Kept)
    (hout : ∀ ch ∈ q.outstanding, ch.buffer ≠ c.buffer) : (q.freeBuffer c).Kept := by
  unfold freeBuffer
  split
  · next n hn =>
    refine kept_freeTemp h (hn ▸ hout) fun c' hc' => ?_
    rw [hpc] at hc'
    cases hc'
  · exact h

theorem kept_copy {q : ControlQueue} {c : Call} (cmdPhys respPhys : Bool)
    (hpc : q.pc = .entered c) (h : q.Kept)
    (hout : ∀ ch ∈ q.outstanding, ch.buffer ≠ c.buffer) :
    (q.copy c cmdPhys respPhys).Kept := by
  let q₁ := (q.lose fun ch => ch.buffer == c.buffer).write c.buffer c.sub.bytes
  have h₁ : q₁.Kept := kept_write hpc h hout _
  have hpc₁ : q₁.pc = .entered c := (pc_write _ _ _).trans hpc
  have hcall₁ : q₁.pc.call? = some c := by
    rw [hpc₁]
    rfl
  have hout₁ : ∀ ch ∈ q₁.outstanding, ch.buffer ≠ c.buffer := by
    rw [show q₁.outstanding = q.outstanding from outstanding_write _ _ _]
    exact hout
  unfold copy
  dsimp only
  split
  · refine (kept_freeBuffer hpc₁ h₁ hout₁).leave ?_ .noMemory none
    rw [← hcall₁]
    unfold freeBuffer
    split <;> rfl
  split
  · exact h₁.leave hcall₁ .noMemory none
  · refine ⟨fun hc => (by cases hc), fun c' hc' => ?_, fun c' hc' => ?_, fun c' hc' => ?_,
      fun c' hc' => (by cases hc'), h₁.chains, h₁.release,
      h₁.stage.of_same rfl rfl rfl (fun _ _ _ h => h) fun _ _ _ => rfl, h₁.faithful, h₁.once⟩
    · cases hc'
      exact (h₁.busy c hcall₁).of_same rfl rfl rfl rfl fun _ hn => hn
    · cases hc'
      exact bytesAt_write (h₁.busy c hcall₁).buffer c.sub.bytes
    · cases hc'
      exact h₁.unsent c (by rw [hpc₁]; rfl)

theorem kept_fill {q : ControlQueue} {c : Call} (hpc : q.pc = .copied c) (h : q.Kept)
    (hout : ∀ ch ∈ q.outstanding, ch.shares c = false) : (q.fill c).Kept := by
  have hcall : q.pc.call? = some c := by
    rw [hpc]
    rfl
  obtain ⟨hcmd, hresp⟩ := (h.busy c hcall).descs
  -- every chain uses descriptor 0, so none is outstanding
  have hnil : q.outstanding = [] := by
    refine List.eq_nil_iff_forall_not_mem.mpr fun ch hch => ?_
    have hshares := hout ch hch
    simp only [Chain.shares, (h.chains ch hch).1, hcmd, beq_self_eq_true, Bool.true_or] at hshares
    cases hshares
  have hstage : q.ring.seen = q.ring.availIdx ∧ q.ring.inFlight = [] := by
    rcases h.stage with ⟨-, hseen, hflight⟩ | ⟨ch, ho, -⟩ | ⟨ch, ho, -⟩
    · exact ⟨hseen, hflight⟩
    · rw [hnil] at ho
      cases ho
    · rw [hnil] at ho
      cases ho
  refine ⟨fun hc => (by cases hc), fun c' hc' => ?_, fun c' hc' => ?_, fun c' hc' => ?_,
    fun c' hc' => ?_, h.chains, h.release, .none hnil hstage.1 hstage.2, h.faithful, h.once⟩
  · cases hc'
    exact (h.busy c hcall).of_same rfl rfl rfl rfl fun _ hn => hn
  · cases hc'
    exact h.loaded c (by rw [hpc]; rfl)
  · cases hc'
    exact h.unsent c (by rw [hpc]; rfl)
  · cases hc'
    refine ⟨hnil, ?_⟩
    have hne : c.cmdDesc ≠ c.respDesc := by omega
    show Function.update (Function.update q.ring.desc c.cmdDesc _) c.respDesc _ c.cmdDesc = _
    rw [Function.update_of_ne hne, Function.update_self]

/-- The chain is published, and is what the device reads next. -/
theorem kept_pushAvail {q : ControlQueue} {c : Call} (hpc : q.pc = .filled c) (h : q.Kept) :
    ControlQueue.Kept { q.pushAvail c with pc := .polling c 0 } := by
  have hcall : q.pc.call? = some c := by
    rw [hpc]
    rfl
  have hbusy := h.busy c hcall
  obtain ⟨hnil, hdesc⟩ := h.filled c hpc
  obtain ⟨hexec, -⟩ := h.unsent c (by rw [hpc]; rfl)
  have hout : q.outstanding ++ [⟨c.no, c.cmdDesc, c.respDesc, c.buffer⟩] =
      [⟨c.no, c.cmdDesc, c.respDesc, c.buffer⟩] := by
    rw [hnil]
    rfl
  have hno := hbusy.no
  refine ⟨fun hc => (by cases hc), fun c' hc' => ?_, fun c' hc' => (by cases hc'),
    fun c' hc' => (by cases hc'), fun c' hc' => (by cases hc'), fun ch hch => ?_, h.release, ?_,
    h.faithful, h.once⟩
  · cases hc'
    exact hbusy.of_same rfl rfl rfl rfl fun _ hn => hn
  · have hch : ch ∈ q.outstanding ++ [⟨c.no, c.cmdDesc, c.respDesc, c.buffer⟩] := hch
    rw [hout, List.mem_singleton] at hch
    subst hch
    refine ⟨hbusy.descs.1, ?_, fun n hn => (hbusy.temp n hn).1⟩
    show c.no < q.submitted.length
    omega
  · have hstage : q.ring.seen = q.ring.availIdx ∧ q.ring.inFlight = [] := by
      rcases h.stage with ⟨-, hseen, hflight⟩ | ⟨ch, ho, -⟩ | ⟨ch, ho, -⟩
      · exact ⟨hseen, hflight⟩
      · rw [hnil] at ho
        cases ho
      · rw [hnil] at ho
        cases ho
    refine .waiting ⟨c.no, c.cmdDesc, c.respDesc, c.buffer⟩ hout ?_ hstage.2 ?_
      ⟨congrArg Desc.buffer hdesc, c.sub, hbusy.sub, ?_⟩ hexec
    · show inc16 q.ring.seen = inc16 q.ring.availIdx
      rw [hstage.1]
    · show Function.update q.ring.availRing (q.ring.availIdx % q.ring.size) _
        (q.ring.seen % q.ring.size) = _
      rw [hstage.1, Function.update_self]
    · have hloaded := h.loaded c (by rw [hpc]; rfl)
      show q.bytesAt c.buffer (q.ring.desc c.cmdDesc).len = some c.sub.bytes
      rw [hdesc]
      dsimp only
      rw [Nat.mod_eq_of_lt hbusy.len, hloaded]

theorem kept_publish {q : ControlQueue} {c : Call} (notify : Bool) (hpc : q.pc = .filled c)
    (h : q.Kept) : (q.publish c notify).Kept := by
  have h₁ := kept_pushAvail hpc h
  unfold publish
  split
  · exact h₁.leave rfl .notReady none
  · exact h₁

theorem kept_poll {q : ControlQueue} {c : Call} {i : Nat} (hpc : q.pc = .polling c i)
    (h : q.Kept) : (q.poll c i).Kept := by
  have hcall : q.pc.call? = some c := by
    rw [hpc]
    rfl
  unfold poll
  split
  · exact h.setPc hcall rfl rfl
  split
  · exact h.setPc hcall rfl rfl
  · exact h.leave hcall .timeout none

theorem kept_read {q : ControlQueue} {c : Call} (hpc : q.pc = .found c) (h : q.Kept) :
    (q.read c).Kept := by
  have hcall : q.pc.call? = some c := by
    rw [hpc]
    rfl
  have hleft := h.leave hcall (status c.sub q.respType)
    (if c.sub.wantsResponse = true then some (q.ring.usedAt q.lastUsed) else none)
  refine ⟨hleft.idle, fun c' hc' => (by cases hc'), fun c' hc' => (by cases hc'),
    fun c' hc' => (by cases hc'), fun c' hc' => (by cases hc'), h.chains, fun n hn => ?_,
    hleft.stage.of_same rfl rfl rfl (fun _ _ _ h => h) fun _ _ _ => rfl, h.faithful, h.once⟩
  have hn : n ∈ (q.consume c).toRelease := hn
  unfold consume at hn
  dsimp only at hn
  split at hn
  · next m hm =>
    rcases List.mem_append.mp hn with hn | hn
    · exact h.release n hn
    · rw [List.mem_singleton.mp hn]
      exact ((h.busy c hcall).temp m hm).1
  · exact h.release n hn

/-! ### Device steps -/

theorem kept_exec {q t : ControlQueue} (hexec : q.exec = some t) (h : q.Kept) : t.Kept := by
  obtain ⟨x, ring, hx, rfl⟩ := exec_eq_some hexec
  obtain ⟨hne, rfl, rfl⟩ := Vring.take_eq_some hx
  -- the device takes the one chain that waits for it
  rcases h.stage with ⟨-, hseen, -⟩ | ⟨ch, ho, hseen, hflight, hentry, hready, hnew⟩ |
    ⟨ch, -, hseen, -⟩
  · exact absurd hseen hne
  swap
  · exact absurd hseen hne
  obtain ⟨hbuf, sub, hsub, hbytes⟩ := hready
  have hmem : ch ∈ q.outstanding := ho ▸ List.mem_singleton_self ch
  rw [hentry]
  dsimp only
  rw [hbuf, hbytes]
  refine ⟨h.idle, fun c hc => (h.busy c hc).of_same rfl rfl rfl rfl fun _ hn => hn, h.loaded,
    fun c hc => ?_, h.filled, h.chains, h.release, ?_, fun x hx => ?_, ?_⟩
  · obtain ⟨hexec, hch⟩ := h.unsent c hc
    refine ⟨fun x hx => ?_, hch⟩
    rcases List.mem_append.mp hx with hx | hx
    · exact hexec x hx
    · rw [List.mem_singleton.mp hx]
      exact fun heq => hch ch hmem (Option.some.inj heq)
  · refine .taken ch ho hseen ?_
    show q.ring.inFlight ++ _ = _
    rw [hflight]
    rfl
  · rcases List.mem_append.mp hx with hx | hx
    · exact h.faithful x hx
    · rw [List.mem_singleton.mp hx]
      exact ⟨ch.call, sub, rfl, hsub, rfl⟩
  · rw [List.map_append, List.nodup_append]
    refine ⟨h.once, List.pairwise_singleton _ _, fun a ha b hb => ?_⟩
    obtain ⟨x, hx, rfl⟩ := List.mem_map.mp ha
    rw [List.map_singleton, List.mem_singleton] at hb
    rw [hb]
    exact hnew x hx

theorem kept_complete {q t : ControlQueue} {i respType : Nat}
    (hc : q.complete i respType = some t) (h : q.Kept) : t.Kept := by
  obtain ⟨x, ring, hx, rfl⟩ := complete_eq_some hc
  obtain ⟨hget, rfl⟩ := Vring.complete_eq_some hx
  -- the chain completed is the one outstanding
  rcases h.stage with ⟨-, -, hflight⟩ | ⟨ch, -, -, hflight, -⟩ | ⟨ch, ho, hseen, hflight⟩
  · rw [hflight] at hget
    cases hget
  · rw [hflight] at hget
    cases hget
  obtain rfl : i = 0 := by
    obtain ⟨hlt, -⟩ := List.getElem?_eq_some_iff.mp hget
    rw [hflight, List.length_singleton] at hlt
    omega
  rw [hflight, List.getElem?_cons_zero, Option.some.injEq] at hget
  subst hget
  have hnil : (q.outstanding.filter fun ch' => some ch'.call ≠ some ch.call) = [] := by
    rw [ho]
    simp
  dsimp only
  rw [hnil]
  refine ⟨h.idle, fun c hc => (h.busy c hc).of_same rfl rfl rfl rfl fun _ hn => hn, h.loaded,
    fun c hc => ⟨(h.unsent c hc).1, fun ch' hch' => (by cases hch')⟩,
    fun c hc => ⟨rfl, (h.filled c hc).2⟩, fun ch' hch' => (by cases hch'), h.release,
    .none rfl hseen ?_, h.faithful, h.once⟩
  show q.ring.inFlight.eraseIdx 0 = []
  rw [hflight]
  rfl

/-! ## Runs -/

theorem kept_step {q t : ControlQueue} {ev : Event} (hstep : Step q ev t) (h : q.Kept)
    (hoff : q.KeepsOff ev) : t.Kept := by
  cases hstep with
  | enter sub alloc hpc => exact kept_enter sub alloc hpc h
  | copy c cmdPhys respPhys hpc => exact kept_copy cmdPhys respPhys hpc h (hoff c hpc)
  | fill c hpc => exact kept_fill hpc h (hoff c hpc)
  | publish c notify hpc => exact kept_publish notify hpc h
  | poll c i hpc => exact kept_poll hpc h
  | read c hpc => exact kept_read hpc h
  | release n rest hn => exact kept_release h hn (hoff n (by rw [hn]; rfl))
  | exec _ hexec => exact kept_exec hexec h
  | complete i respType _ hc => exact kept_complete hc h

theorem kept_init (size : Nat) : (init size).Kept where
  idle _ := rfl
  busy _ h := (by cases h)
  loaded _ h := (by cases h)
  unsent _ h := (by cases h)
  filled _ h := (by cases h)
  chains _ h := (by cases h)
  release _ h := (by cases h)
  stage := .none rfl rfl rfl
  faithful _ h := (by cases h)
  once := List.nodup_nil

/-- **The device gets every chain as it was published exactly along the runs in
which the driver keeps off the chains outstanding.** -/
theorem always_owned_iff (size : Nat) (evs : List Event) :
    (machine size).Always Owned (machine size).init evs ↔
      (machine size).Along KeepsOff (machine size).init evs := by
  refine (machine size).always_iff_along (J := fun q => q.lost = [] → q.Kept)
    (fun q ev t hJ h => ?_) (fun q ev t hJ hq h => ?_) (fun _ => kept_init size)
    ((kept_init size).owned rfl)
  · intro hlost
    have hstep := Step.of_step h
    obtain ⟨hlost', hoff⟩ := (lost_step_eq_nil hstep).mp hlost
    exact kept_step hstep (hJ hlost') hoff
  · have hstep := Step.of_step h
    constructor
    · intro ht
      exact ((lost_step_eq_nil hstep).mp ht.intact).2
    · intro hoff
      exact (kept_step hstep (hJ hq.intact) hoff).owned
        ((lost_step_eq_nil hstep).mpr ⟨hq.intact, hoff⟩)

/-- After a timeout the next call writes over the chain of the one before it,
and the device executes its command twice. -/
theorem chain_rewritten_after_timeout :
    ¬ (machine 4).Always Owned (machine 4).init
      (timedOut header ++ toPolling { header with bytes := List.replicate ctrlHdrSize 1 } ++
        [.exec, .exec]) := by
  intro h
  have hrun : ((machine 4).run (machine 4).init
      (timedOut header ++ toPolling { header with bytes := List.replicate ctrlHdrSize 1 } ++
        [.exec, .exec])).any
      (fun q => decide (q.executed.map Execution.bytes =
        [some (List.replicate ctrlHdrSize 1), some (List.replicate ctrlHdrSize 1)]) &&
          decide (q.lost ≠ [])) = true := by
    decide
  obtain ⟨q, hq, hend⟩ := h.of_any _ hrun
  simp only [Bool.and_eq_true, decide_eq_true_eq] at hend
  exact hend.2 hq.intact

end ControlQueue
end VMQemuVGA
