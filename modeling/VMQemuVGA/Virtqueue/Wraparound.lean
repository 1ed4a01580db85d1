import VMQemuVGA.Lib.History
import VMQemuVGA.Virtqueue.Descriptors

/-! # Beyond 65536 submissions

The available index, the used index and `m_vq_last_used` are 16 bits wide and
count on without end; slots are these counters modulo the size of the queue.
That works because the size is a power of two, so that it divides 65536. With a
device that completes every chain while its call still polls, the drain has
nothing to skip, and every chain goes once through the available ring, the
device and the used ring. -/

namespace VMQemuVGA

/-! ## The counters -/

/-- A counter that was reduced already counts on. -/
theorem inc16_mod (n : Nat) : inc16 (n % 2 ^ 16) = (n + 1) % 2 ^ 16 := Nat.mod_add_mod n (2 ^ 16) 1

/-- A size that was negotiated divides the range of the counters. -/
theorem dvd_of_negotiatedSize {offered size : Nat} (h : negotiatedSize offered = some size) :
    size ∣ 2 ^ 16 := by
  obtain ⟨k, hk, rfl⟩ := exists_negotiatedSize.mp ⟨offered, h⟩
  exact Nat.pow_dvd_pow 2 (by omega)

/-- The call whose chain is published. -/
def Pc.sent? : Pc → Option Call
  | polling c _ | found c => some c
  | _ => none

/-- The call that is about to look at the used index for the last time. -/
def Pc.lastLook? : Pc → Option Call
  | polling c i => if i + 1 < ControlQueue.pollLimit then none else some c
  | _ => none

namespace ControlQueue

/-! ## What is noted -/

/-- What a run has done to the rings, in order. -/
structure RingLog where
  /-- the slots of the available ring that were written -/
  slots : List Nat
  /-- the chains put on the available ring -/
  published : List RingEntry
  /-- the chains the device found there -/
  found : List RingEntry
  /-- the elements the device put on the used ring -/
  completed : List RingEntry
  /-- the elements the driver read there -/
  consumed : List RingEntry
  deriving DecidableEq

def RingLog.empty : RingLog := ⟨[], [], [], [], []⟩

def noteRings (q : ControlQueue) (ev : Event) (log : RingLog) : RingLog :=
  match ev, q.pc with
  | .publish _, .filled c =>
      { log with
        slots := log.slots ++ [q.ring.availIdx % q.ring.size]
        published := log.published ++ [⟨c.cmdDesc, some c.no⟩] }
  | .read, _ => { log with consumed := log.consumed ++ [q.ring.usedAt q.lastUsed] }
  | .exec, _ => { log with found := log.found ++ q.ring.take.toList.map Prod.fst }
  | .complete i _, _ =>
      { log with completed := log.completed ++ (q.ring.complete i).toList.map Prod.fst }
  | _, _ => log

/-- The queue with the log of its rings. -/
def loggedMachine (size : Nat) : Machine (ControlQueue × RingLog) Event :=
  (machine size).withHistory .empty fun q ev _ log => q.noteRings ev log

/-- Every chain that is published is waited for, and is completed before the
last look of its call. -/
def Prompt (q : ControlQueue) : Event → Prop
  | .publish notify => notify = true
  | .poll => ∀ c ∈ q.pc.lastLook?, ∀ ch ∈ q.outstanding, ch.call ≠ c.no
  | _ => True

instance (q : ControlQueue) (ev : Event) : Decidable (q.Prompt ev) :=
  match ev with
  | .publish notify => inferInstanceAs (Decidable (notify = true))
  | .poll => inferInstanceAs
      (Decidable (∀ c ∈ q.pc.lastLook?, ∀ ch ∈ q.outstanding, ch.call ≠ c.no))
  | .enter .. | .copy .. | .fill | .read | .release | .exec | .complete .. => isTrue trivial

/-- The rings are used in order. -/
structure InOrder (size : Nat) (p : ControlQueue × RingLog) : Prop where
  /-- slots follow each other modulo the size, however often the index wrapped -/
  slots : p.2.slots = (List.range p.2.published.length).map (· % size)
  distinct : p.2.published.Nodup
  /-- the device finds the chains in the order they were published in -/
  found : p.2.found <+: p.2.published
  /-- the driver reads the elements in the order they were completed in -/
  consumed : p.2.consumed <+: p.2.completed
  settled : p.1.pc = .idle → p.2.found = p.2.published ∧ p.2.completed = p.2.published ∧
    p.2.consumed = p.2.published ∧ p.1.lastUsed = p.1.ring.usedIdx

/-! ## The invariant -/

/-- The chain of a call as the rings name it. -/
def entry (c : Call) : RingEntry := ⟨c.cmdDesc, some c.no⟩

/-- Where the latest chain is: through all of it, waiting to be taken, taken, or
back on the used ring. All chains before it are through. -/
inductive Progress (q : ControlQueue) (log : RingLog) : Prop where
  | through (hcall : q.pc.sent? = none) (hout : q.outstanding = [])
      (hseen : q.ring.seen = q.ring.availIdx) (hflight : q.ring.inFlight = [])
      (hused : q.ring.usedIdx = q.lastUsed) (hfound : log.found = log.published)
      (hdone : log.completed = log.published) (hread : log.consumed = log.published)
  | waiting (c i ch) (hpc : q.pc = .polling c i) (hout : q.outstanding = [ch])
      (hch : ch.call = c.no) (hpub : log.published = log.found ++ [entry c])
      (hseen : inc16 q.ring.seen = q.ring.availIdx) (hflight : q.ring.inFlight = [])
      (hentry : q.ring.availRing (q.ring.seen % q.ring.size) = entry c)
      (hused : q.ring.usedIdx = q.lastUsed) (hdone : log.completed = log.found)
      (hread : log.consumed = log.found)
  | taken (c i ch) (hpc : q.pc = .polling c i) (hout : q.outstanding = [ch])
      (hch : ch.call = c.no) (hpub : log.published = log.completed ++ [entry c])
      (hseen : q.ring.seen = q.ring.availIdx) (hflight : q.ring.inFlight = [entry c])
      (hused : q.ring.usedIdx = q.lastUsed) (hfound : log.found = log.published)
      (hread : log.consumed = log.completed)
  | landed (c) (hcall : q.pc.sent? = some c) (hout : q.outstanding = [])
      (hpub : log.published = log.consumed ++ [entry c])
      (hseen : q.ring.seen = q.ring.availIdx) (hflight : q.ring.inFlight = [])
      (hused : q.ring.usedIdx = inc16 q.lastUsed)
      (hentry : q.ring.usedAt q.lastUsed = entry c) (hfound : log.found = log.published)
      (hdone : log.completed = log.published)

/-- The calls that may have published are numbered below this. -/
def bound (q : ControlQueue) : Nat := q.pc.unsent?.elim q.submitted.length Call.no

structure Steady (size : Nat) (q : ControlQueue) (log : RingLog) : Prop where
  ringSize : q.ring.size = size
  avail : q.ring.availIdx = log.published.length % 2 ^ 16
  slots : log.slots = (List.range log.published.length).map (· % size)
  distinct : log.published.Nodup
  numbers : ∀ x ∈ log.published, ∃ no, x.call = some no ∧ no < q.bound
  call : ∀ c, q.pc.call? = some c → c.no < q.submitted.length
  progress : q.Progress log

variable {size : Nat} {q t : ControlQueue} {log : RingLog} {c : Call}

theorem Steady.inOrder (h : q.Steady size log) : InOrder size (q, log) := by
  refine ⟨h.slots, h.distinct, ?_, ?_, fun hidle => ?_⟩
  · rcases h.progress with ⟨-, -, -, -, -, hfound, -⟩ | ⟨_, _, _, -, -, -, hpub, -⟩ |
      ⟨_, _, _, -, -, -, -, -, -, -, hfound, -⟩ | ⟨_, -, -, -, -, -, -, -, hfound, -⟩
    · exact hfound ▸ List.prefix_rfl
    · exact ⟨_, hpub.symm⟩
    · exact hfound ▸ List.prefix_rfl
    · exact hfound ▸ List.prefix_rfl
  · rcases h.progress with ⟨-, -, -, -, -, -, hdone, hread⟩ |
      ⟨_, _, _, -, -, -, -, -, -, -, -, hdone, hread⟩ | ⟨_, _, _, -, -, -, -, -, -, -, -, hread⟩ |
      ⟨_, -, -, hpub, -, -, -, -, -, hdone⟩
    · exact hdone.symm ▸ hread ▸ List.prefix_rfl
    · exact hdone.symm ▸ hread ▸ List.prefix_rfl
    · exact hread ▸ List.prefix_rfl
    · exact ⟨_, hpub.symm.trans hdone.symm⟩
  · rcases h.progress with ⟨-, -, -, -, hused, hfound, hdone, hread⟩ | ⟨_, _, _, hpc, -⟩ |
      ⟨_, _, _, hpc, -⟩ | ⟨_, hcall, -⟩
    · exact ⟨hfound, hdone, hread, hused.symm⟩
    · exact absurd (hidle.symm.trans hpc) nofun
    · exact absurd (hidle.symm.trans hpc) nofun
    · rw [show q.pc = .idle from hidle] at hcall
      exact absurd hcall nofun

/-- Before its chain is published a call finds everything through. -/
theorem Progress.of_unsent (h : q.Progress log) (hcall : q.pc.sent? = none) :
    q.outstanding = [] ∧ q.ring.seen = q.ring.availIdx ∧ q.ring.inFlight = [] ∧
      q.ring.usedIdx = q.lastUsed ∧ log.found = log.published ∧
      log.completed = log.published ∧ log.consumed = log.published := by
  rcases h with ⟨-, hout, hseen, hflight, hused, hfound, hdone, hread⟩ | ⟨_, _, _, hpc, -⟩ |
    ⟨_, _, _, hpc, -⟩ | ⟨_, hsent, -⟩
  · exact ⟨hout, hseen, hflight, hused, hfound, hdone, hread⟩
  · rw [hpc] at hcall
    cases hcall
  · rw [hpc] at hcall
    cases hcall
  · rw [hsent] at hcall
    cases hcall

/-- Between calls, and in a call that has not published yet, the rings rest. -/
theorem Steady.of_unsent (h : q.Steady size log) (hcall : q.pc.sent? = none)
    (hcall' : t.pc.sent? = none) (hring : t.ring = q.ring) (hlast : t.lastUsed = q.lastUsed)
    (hout : t.outstanding = q.outstanding) (hbound : q.bound ≤ t.bound)
    (hno : ∀ c, t.pc.call? = some c → c.no < t.submitted.length) : t.Steady size log where
  ringSize := by rw [hring, h.ringSize]
  avail := by rw [hring, h.avail]
  slots := h.slots
  distinct := h.distinct
  numbers x hx := by
    obtain ⟨no, hcall, hlt⟩ := h.numbers x hx
    exact ⟨no, hcall, Nat.lt_of_lt_of_le hlt hbound⟩
  call := hno
  progress := by
    obtain ⟨ho, hseen, hflight, hused, hfound, hdone, hread⟩ := h.progress.of_unsent hcall
    refine .through hcall' (hout.trans ho) ?_ ?_ ?_ hfound hdone hread
    · rw [hring, hseen]
    · rw [hring, hflight]
    · rw [hring, hlast, hused]

/-- Steps that leave the rings, the calls and their chains alone. -/
theorem Steady.of_same (h : q.Steady size log) (hpc : t.pc = q.pc) (hring : t.ring = q.ring)
    (hlast : t.lastUsed = q.lastUsed) (hout : t.outstanding = q.outstanding)
    (hsub : t.submitted = q.submitted) : t.Steady size log := by
  obtain ⟨ring, free, lastUsed, cmdBuf, temps, nextTemp, toRelease, respType, pc, submitted,
    returns, outstanding, lost, executed⟩ := t
  subst hpc hring hlast hout hsub
  refine ⟨h.ringSize, h.avail, h.slots, h.distinct, h.numbers, h.call, ?_⟩
  cases h.progress with
  | through hcall hout hseen hflight hused hfound hdone hread =>
      exact .through hcall hout hseen hflight hused hfound hdone hread
  | waiting c i ch hpc hout hch hpub hseen hflight hentry hused hdone hread =>
      exact .waiting c i ch hpc hout hch hpub hseen hflight hentry hused hdone hread
  | taken c i ch hpc hout hch hpub hseen hflight hused hfound hread =>
      exact .taken c i ch hpc hout hch hpub hseen hflight hused hfound hread
  | landed c hcall hout hpub hseen hflight hused hentry hfound hdone =>
      exact .landed c hcall hout hpub hseen hflight hused hentry hfound hdone

/-! ## The steps -/

/-- The drain finds nothing to skip. -/
theorem steady_enter (sub : Submission) (alloc : Bool) (hpc : q.pc = .idle)
    (h : q.Steady size log) : (q.enter sub alloc).Steady size log := by
  have hsent : q.pc.sent? = none := by
    rw [hpc]
    rfl
  have hused := (h.progress.of_unsent hsent).2.2.2.1
  have hbound : q.bound = q.submitted.length := by
    rw [bound, hpc]
    rfl
  have hlen : (q.drain sub).submitted.length = q.submitted.length + 1 := List.length_append
  unfold enter
  split
  · exact h
  have hacq := acquire_acquired (q.drain sub) sub alloc
  generalize (q.drain sub).acquire sub alloc = t at hacq ⊢
  cases hacq with
  | refused ret =>
      refine h.of_unsent hsent hsent rfl hused rfl ?_ fun c hc => ?_
      · rw [hbound]
        show _ ≤ q.pc.unsent?.elim (q.drain sub).submitted.length Call.no
        rw [hpc]
        show q.submitted.length ≤ (q.drain sub).submitted.length
        omega
      · have hc : q.pc.call? = some c := hc
        rw [hpc] at hc
        cases hc
  | entered =>
      refine h.of_unsent hsent rfl rfl hused rfl ?_ fun c hc => ?_
      · rw [hbound]
        show q.submitted.length ≤ (q.drain sub).submitted.length - 1
        omega
      · cases hc
        show (q.drain sub).submitted.length - 1 < (q.drain sub).submitted.length
        omega

theorem steady_copy (cmdPhys respPhys : Bool) (hpc : q.pc = .entered c)
    (h : q.Steady size log) : (q.copy c cmdPhys respPhys).Steady size log := by
  have hsent : q.pc.sent? = none := by
    rw [hpc]
    rfl
  have hno : c.no < q.submitted.length := h.call c (by rw [hpc]; rfl)
  have hbound : q.bound = c.no := by
    rw [bound, hpc]
    rfl
  have hcopied := copy_copied q c cmdPhys respPhys
  generalize q.copy c cmdPhys respPhys = t at hcopied ⊢
  cases hcopied with
  | noCommand | noResponse =>
      refine h.of_unsent hsent rfl rfl rfl rfl ?_ fun c' hc' => (by cases hc')
      rw [hbound]
      exact Nat.le_of_lt hno
  | copied =>
      refine h.of_unsent hsent rfl rfl rfl rfl ?_ fun c' hc' => ?_
      · rw [hbound]
        exact Nat.le_refl _
      · cases hc'
        exact hno

theorem steady_fill (hpc : q.pc = .copied c) (h : q.Steady size log) :
    (q.fill c).Steady size log := by
  have hsent : q.pc.sent? = none := by
    rw [hpc]
    rfl
  obtain ⟨hout, hseen, hflight, hused, hfound, hdone, hread⟩ := h.progress.of_unsent hsent
  refine ⟨h.ringSize, h.avail, h.slots, h.distinct, fun x hx => ?_, fun c' hc' => ?_,
    .through rfl hout hseen hflight hused hfound hdone hread⟩
  · obtain ⟨no, hcall, hlt⟩ := h.numbers x hx
    have hbound : q.bound = c.no := by
      rw [bound, hpc]
      rfl
    rw [hbound] at hlt
    exact ⟨no, hcall, hlt⟩
  · cases hc'
    exact h.call c (by rw [hpc]; rfl)

/-- The slot follows the one before, and the chain is new. -/
theorem steady_publish (hsize : size ∣ 2 ^ 16) (hpc : q.pc = .filled c) (h : q.Steady size log) :
    (q.publish c true).Steady size (q.noteRings (.publish true) log) := by
  have hsent : q.pc.sent? = none := by
    rw [hpc]
    rfl
  have hbound : q.bound = c.no := by
    rw [bound, hpc]
    rfl
  have hno : c.no < q.submitted.length := h.call c (by rw [hpc]; rfl)
  have hlog : q.noteRings (.publish true) log = { log with
      slots := log.slots ++ [q.ring.availIdx % q.ring.size]
      published := log.published ++ [entry c] } := by
    simp only [noteRings, hpc, entry]
  obtain ⟨hout, hseen, hflight, hused, hfound, hdone, hread⟩ := h.progress.of_unsent hsent
  rw [hlog]
  refine ⟨h.ringSize, ?_, ?_, ?_, fun x hx => ?_, fun c' hc' => ?_, ?_⟩
  · show inc16 q.ring.availIdx = (log.published ++ [entry c]).length % 2 ^ 16
    rw [h.avail, inc16_mod, List.length_append, List.length_singleton]
  · show log.slots ++ [q.ring.availIdx % q.ring.size] =
      (List.range (log.published ++ [entry c]).length).map (· % size)
    -- where the index wraps, the slot does too
    rw [h.slots, h.ringSize, h.avail, Nat.mod_mod_of_dvd _ hsize, List.length_append,
      List.length_singleton, List.range_succ, List.map_append, List.map_singleton]
  · show (log.published ++ [entry c]).Nodup
    -- all chains before belong to calls with smaller numbers
    rw [List.nodup_append]
    refine ⟨h.distinct, List.pairwise_singleton _ _, fun x hx y hy heq => ?_⟩
    obtain ⟨no, hcall, hlt⟩ := h.numbers x hx
    rw [heq, List.mem_singleton.mp hy] at hcall
    obtain rfl : c.no = no := Option.some.inj hcall
    rw [hbound] at hlt
    exact Nat.lt_irrefl _ hlt
  · show ∃ no, x.call = some no ∧ no < q.submitted.length
    rcases List.mem_append.mp hx with hx | hx
    · obtain ⟨no, hcall, hlt⟩ := h.numbers x hx
      exact ⟨no, hcall, Nat.lt_trans (hbound ▸ hlt) hno⟩
    · rw [List.mem_singleton.mp hx]
      exact ⟨c.no, rfl, hno⟩
  · cases hc'
    exact hno
  · refine .waiting c 0 ⟨c.no, c.cmdDesc, c.respDesc, c.buffer⟩ rfl ?_ rfl ?_ ?_ hflight ?_ hused
      (hdone.trans hfound.symm) (hread.trans hfound.symm)
    · show q.outstanding ++ _ = _
      rw [hout]
      rfl
    · show log.published ++ [entry c] = log.found ++ [entry c]
      rw [hfound]
    · show inc16 q.ring.seen = inc16 q.ring.availIdx
      rw [hseen]
    · show Function.update q.ring.availRing (q.ring.availIdx % q.ring.size) (entry c)
        (q.ring.seen % q.ring.size) = _
      rw [hseen, Function.update_self]

/-- As long as the device is prompt, the poll ends with the chain on the used ring. -/
theorem steady_poll {i : Nat} (hpc : q.pc = .polling c i) (h : q.Steady size log)
    (hprompt : q.Prompt .poll) : (q.poll c i).Steady size log := by
  have hno : c.no < q.submitted.length := h.call c (by rw [hpc]; rfl)
  have hbound : q.bound = q.submitted.length := by
    rw [bound, hpc]
    rfl
  have hlook : ¬ i + 1 < pollLimit → c ∈ q.pc.lastLook? := by
    intro hlast
    rw [hpc]
    exact if_neg hlast
  have hgo : ∀ pc : Pc, pc.unsent? = none → pc.call? = some c → ({ q with pc := pc }).Progress log →
      ({ q with pc := pc }).Steady size log := by
    intro pc hunsent hcall hprog
    refine ⟨h.ringSize, h.avail, h.slots, h.distinct, fun x hx => ?_, fun c' hc' => ?_, hprog⟩
    · have hbound' : bound { q with pc := pc } = q.submitted.length := by
        show pc.unsent?.elim q.submitted.length Call.no = _
        rw [hunsent]
        rfl
      rw [hbound', ← hbound]
      exact h.numbers x hx
    · obtain rfl := Option.some.inj (hcall.symm.trans hc')
      exact hno
  cases h.progress with
  | through hcall =>
      rw [hpc] at hcall
      cases hcall
  | waiting c' i' ch hpc' hout hch hpub hseen hflight hentry hused hdone hread =>
      obtain ⟨rfl, rfl⟩ := Pc.polling.inj (hpc.symm.trans hpc')
      unfold poll
      rw [if_neg (not_not.mpr hused)]
      split
      · exact hgo _ rfl rfl
          (.waiting c _ ch rfl hout hch hpub hseen hflight hentry hused hdone hread)
      · next hlast =>
        exact absurd hch (hprompt c (hlook hlast) ch (hout ▸ List.mem_singleton_self ch))
  | taken c' i' ch hpc' hout hch hpub hseen hflight hused hfound hread =>
      obtain ⟨rfl, rfl⟩ := Pc.polling.inj (hpc.symm.trans hpc')
      unfold poll
      rw [if_neg (not_not.mpr hused)]
      split
      · exact hgo _ rfl rfl (.taken c _ ch rfl hout hch hpub hseen hflight hused hfound hread)
      · next hlast =>
        exact absurd hch (hprompt c (hlook hlast) ch (hout ▸ List.mem_singleton_self ch))
  | landed c' hcall hout hpub hseen hflight hused hentry hfound hdone =>
      rw [hpc] at hcall
      obtain rfl : c = c' := Option.some.inj hcall
      -- the used index has moved by one, which 16 bits show
      unfold poll
      rw [if_pos (hused ▸ inc16_ne _)]
      exact hgo _ rfl rfl (.landed c rfl hout hpub hseen hflight hused hentry hfound hdone)

/-- The driver reads the element of its own chain, the last one there is. -/
theorem steady_read (hpc : q.pc = .found c) (h : q.Steady size log) :
    (q.read c).Steady size (q.noteRings .read log) := by
  cases h.progress with
  | through hcall =>
      rw [hpc] at hcall
      cases hcall
  | waiting c' i' ch hpc' => exact absurd (hpc.symm.trans hpc') nofun
  | taken c' i' ch hpc' => exact absurd (hpc.symm.trans hpc') nofun
  | landed c' hcall hout hpub hseen hflight hused hentry hfound hdone =>
      rw [hpc] at hcall
      obtain rfl : c = c' := Option.some.inj hcall
      have hread : (q.noteRings .read log).consumed = log.published := by
        show log.consumed ++ [q.ring.usedAt q.lastUsed] = log.published
        rw [hentry, hpub]
      refine ⟨h.ringSize, h.avail, h.slots, h.distinct, fun x hx => ?_,
        fun c' hc' => (by cases hc'), .through rfl hout hseen hflight hused hfound hdone hread⟩
      obtain ⟨no, hcall, hlt⟩ := h.numbers x hx
      rw [bound, hpc] at hlt
      exact ⟨no, hcall, hlt⟩

/-- The device takes the chain that waits. -/
theorem steady_exec (hexec : q.exec = some t) (h : q.Steady size log) :
    t.Steady size (q.noteRings .exec log) := by
  obtain ⟨x, ring, hx, rfl⟩ := exec_eq_some hexec
  have hlog : q.noteRings .exec log = { log with found := log.found ++ [x] } := by
    simp only [noteRings, hx, Option.toList_some, List.map_singleton]
  obtain ⟨hne, hxeq, rfl⟩ := Vring.take_eq_some hx
  rw [hlog]
  refine ⟨h.ringSize, h.avail, h.slots, h.distinct, h.numbers, h.call, ?_⟩
  cases h.progress with
  | through _ _ hseen => exact absurd hseen hne
  | waiting c i ch hpc hout hch hpub hseen hflight hentry hused hdone hread =>
      rw [hentry] at hxeq
      subst hxeq
      refine .taken c i ch hpc hout hch (hdone.symm ▸ hpub) hseen ?_ hused hpub.symm
        (hread.trans hdone.symm)
      show q.ring.inFlight ++ [entry c] = [entry c]
      rw [hflight]
      rfl
  | taken _ _ _ _ _ _ _ hseen => exact absurd hseen hne
  | landed _ _ _ _ hseen => exact absurd hseen hne

/-- The device completes the chain it has taken. -/
theorem steady_complete {i respType : Nat} (hc : q.complete i respType = some t)
    (h : q.Steady size log) : t.Steady size (q.noteRings (.complete i respType) log) := by
  obtain ⟨x, ring, hx, rfl⟩ := complete_eq_some hc
  have hlog : q.noteRings (.complete i respType) log =
      { log with completed := log.completed ++ [x] } := by
    simp only [noteRings, hx, Option.toList_some, List.map_singleton]
  obtain ⟨hget, rfl⟩ := Vring.complete_eq_some hx
  rw [hlog]
  refine ⟨h.ringSize, h.avail, h.slots, h.distinct, h.numbers, h.call, ?_⟩
  cases h.progress with
  | through _ _ _ hflight =>
      rw [hflight] at hget
      cases hget
  | waiting _ _ _ _ _ _ _ _ hflight =>
      rw [hflight] at hget
      cases hget
  | taken c j ch hpc hout hch hpub hseen hflight hused hfound hread =>
      -- there is only one chain to complete
      obtain rfl : i = 0 := by
        obtain ⟨hlt, -⟩ := List.getElem?_eq_some_iff.mp hget
        rw [hflight, List.length_singleton] at hlt
        omega
      rw [hflight, List.getElem?_cons_zero, Option.some.injEq] at hget
      subst hget
      refine .landed c ?_ ?_ ?_ hseen ?_ ?_ ?_ hfound hpub.symm
      · show q.pc.sent? = some c
        rw [hpc]
        rfl
      · show (q.outstanding.filter fun ch' => some ch'.call ≠ some c.no) = []
        rw [hout, ← hch]
        simp
      · show log.published = log.consumed ++ [entry c]
        rw [hread, hpub]
      · show q.ring.inFlight.eraseIdx 0 = []
        rw [hflight]
        rfl
      · show inc16 q.ring.usedIdx = inc16 q.lastUsed
        rw [hused]
      · show Function.update q.ring.usedRing (q.ring.usedIdx % q.ring.size) (entry c)
          (q.lastUsed % q.ring.size) = entry c
        rw [hused, Function.update_self]
  | landed _ _ _ _ _ hflight =>
      rw [hflight] at hget
      cases hget

theorem steady_step {ev : Event} (hsize : size ∣ 2 ^ 16) (hstep : Step q ev t)
    (h : q.Steady size log) (hprompt : q.Prompt ev) :
    t.Steady size (q.noteRings ev log) := by
  cases hstep with
  | enter sub alloc hpc => exact steady_enter sub alloc hpc h
  | copy c cmdPhys respPhys hpc => exact steady_copy cmdPhys respPhys hpc h
  | fill c hpc => exact steady_fill hpc h
  | publish c notify hpc =>
      obtain rfl : notify = true := hprompt
      exact steady_publish hsize hpc h
  | poll c i hpc => exact steady_poll hpc h hprompt
  | read c hpc => exact steady_read hpc h
  | release n rest hn => exact h.of_same rfl rfl rfl rfl rfl
  | exec _ hexec => exact steady_exec hexec h
  | complete i respType _ hc => exact steady_complete hc h

theorem steady_init (size : Nat) : (init size).Steady size .empty where
  ringSize := rfl
  avail := rfl
  slots := rfl
  distinct := List.nodup_nil
  numbers _ h := (by cases h)
  call _ h := (by cases h)
  progress := .through rfl rfl rfl rfl rfl rfl rfl rfl

/-! ## Runs -/

/-- **Every chain goes once around**: with a device that is prompt, on a queue
of any size that can be negotiated, however long the run. -/
theorem rings_in_order {offered : Nat} (hoffered : negotiatedSize offered = some size)
    {evs : List Event} (hprompt : (machine size).Along Prompt (machine size).init evs) :
    (loggedMachine size).Always (InOrder size) (loggedMachine size).init evs := by
  have hsize := dvd_of_negotiatedSize hoffered
  have hlogged : (loggedMachine size).Along (fun p ev => p.1.Prompt ev)
      (loggedMachine size).init evs := ((machine size).along_withHistory _ _ _ _).mpr hprompt
  have hsteady : (loggedMachine size).Always (fun p => p.1.Steady size p.2)
      (loggedMachine size).init evs := by
    refine (loggedMachine size).always_of_along (fun p ev p' hp hC h => ?_) (steady_init size)
      hlogged
    obtain ⟨hstep, hnote⟩ := ((machine size).withHistory_step_eq_some _ _).mp h
    rw [hnote]
    exact steady_step hsize (Step.of_step hstep) hp hC
  exact hsteady.imp _ fun p hp => hp.inOrder

/-- A call that the device answers at once. -/
def answered (sub : Submission) : List Event :=
  toPolling sub ++ [.exec, .complete 0 respOkNodata, .poll, .read]

/-- Three calls on a queue of two. -/
theorem rings_in_order_two :
    negotiatedSize 3 = some 2 ∧ (loggedMachine 2).Always (InOrder 2) (loggedMachine 2).init
      (answered header ++ answered header ++ answered header) := by
  have h : negotiatedSize 3 = some 2 := by
    rw [negotiatedSize_eq (by decide)]
    decide
  exact ⟨h, rings_in_order h (by decide)⟩

end ControlQueue
end VMQemuVGA
