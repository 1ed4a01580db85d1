import VMQemuVGA.Lib.FreeList
import VMQemuVGA.Lib.Machine
import VMQemuVGA.Gpu.Host
import VMQemuVGA.Virtqueue.Vring

/-! # `submitCommand`

The steps of `submitCommand` between which the device may act. Calls hold
`m_vq_lock` from `enter` to their return, so at most one is under way; a
temporary buffer is released after that. The device reads a chain's command
when it takes the chain, and writes the response when it completes it. -/

namespace VMQemuVGA

/-- The capacity of `m_cmd_buf`. -/
def cmdBufSize : Nat := 4096

/-- `sizeof(virtio_gpu_ctrl_hdr)`. -/
def ctrlHdrSize : Nat := 24

/-- A call under way. -/
structure Call where
  no : Nat
  sub : Submission
  cmdDesc : Nat
  respDesc : Nat
  /-- where the command is copied to -/
  buffer : Buffer
  deriving DecidableEq, Repr

/-- How far the call has come. -/
inductive Pc where
  | idle
  | entered (c : Call)
  | copied (c : Call)
  | filled (c : Call)
  | polling (c : Call) (i : Nat)
  | found (c : Call)
  deriving DecidableEq, Repr

def Pc.call? : Pc → Option Call
  | idle => none
  | entered c | copied c | filled c | polling c _ | found c => some c

/-- The call whose command is in its buffer, the chain not being published yet. -/
def Pc.loaded? : Pc → Option Call
  | copied c | filled c => some c
  | _ => none

/-- The call whose chain is not published yet. -/
def Pc.unsent? : Pc → Option Call
  | entered c | copied c | filled c => some c
  | _ => none

/-- A published chain that the device has not put on the used ring. -/
structure Chain where
  call : Nat
  cmdDesc : Nat
  respDesc : Nat
  buffer : Buffer
  deriving DecidableEq, Repr

/-- A command as the device read it: `none` for memory that was released. -/
structure Execution where
  call : Option Nat
  bytes : Option (List UInt8)
  deriving DecidableEq, Repr

/-- Queue, driver and device. The last five fields are kept for the record. -/
structure ControlQueue where
  ring : Vring
  free : FreeList
  lastUsed : Nat
  /-- the bytes of `m_cmd_buf` -/
  cmdBuf : List UInt8
  /-- the bytes of the temporary buffers not released -/
  temps : Nat → Option (List UInt8)
  nextTemp : Nat
  /-- the temporary buffers of calls that returned, to be released -/
  toRelease : List Nat
  /-- the response type in `m_resp_buf` -/
  respType : Nat
  pc : Pc
  submitted : List Submission
  returns : List Return
  outstanding : List Chain
  /-- the calls whose chain lost a descriptor or bytes while outstanding -/
  lost : List Nat
  executed : List Execution

namespace ControlQueue

def init (size : Nat) : ControlQueue where
  ring := .init size
  free := .upTo size
  lastUsed := 0
  cmdBuf := List.replicate cmdBufSize 0
  temps := fun _ => none
  nextTemp := 0
  toRelease := []
  respType := 0
  pc := .idle
  submitted := []
  returns := []
  outstanding := []
  lost := []
  executed := []

/-! ## The driver -/

/-- Return the call's descriptors, the response's first, and the call. -/
def leave (q : ControlQueue) (c : Call) (ret : IOReturn) (consumed : Option RingEntry) :
    ControlQueue :=
  { q with
    free := (q.free.push c.respDesc).push c.cmdDesc
    pc := .idle
    returns := q.returns ++ [⟨c.no, ret, consumed⟩] }

/-- The call gives up before it has descriptors. -/
def refuse (q : ControlQueue) (ret : IOReturn) : ControlQueue :=
  { q with returns := q.returns ++ [⟨q.submitted.length - 1, ret, none⟩] }

/-- `m_vq_last_used = m_vq_used->idx`, with the call written down. -/
def drain (q : ControlQueue) (sub : Submission) : ControlQueue :=
  { q with lastUsed := q.ring.usedIdx, submitted := q.submitted ++ [sub] }

/-- Pop two descriptors and find a buffer. `alloc` says whether a large command
gets a temporary buffer; one of 4 GiB or more never does, since its addresses
are limited to 32 bits. -/
def acquire (q : ControlQueue) (sub : Submission) (alloc : Bool) : ControlQueue :=
  match q.free.pop with
  | none => q.refuse .noResources
  | some (cmdDesc, free₁) =>
      match free₁.pop with
      | none => { q with free := free₁.push cmdDesc }.refuse .noResources
      | some (respDesc, free₂) =>
          let no := q.submitted.length - 1
          if sub.bytes.length ≤ cmdBufSize then
            { q with free := free₂, pc := .entered ⟨no, sub, cmdDesc, respDesc, .command⟩ }
          else if alloc = true ∧ sub.bytes.length < u32 then
            { q with
              free := free₂
              temps := Function.update q.temps q.nextTemp (some [])
              nextTemp := q.nextTemp + 1
              pc := .entered ⟨no, sub, cmdDesc, respDesc, .temp q.nextTemp⟩ }
          else { q with free := (free₂.push respDesc).push cmdDesc }.refuse .noMemory

/-- The first part of `submitCommand`, down to the descriptors and the buffer. -/
def enter (q : ControlQueue) (sub : Submission) (alloc : Bool) : ControlQueue :=
  if sub.bytes.length < ctrlHdrSize then q else (q.drain sub).acquire sub alloc

/-- `memcpy` to the start of a buffer. -/
def write (q : ControlQueue) (b : Buffer) (bytes : List UInt8) : ControlQueue :=
  match b with
  | .command => { q with cmdBuf := bytes ++ q.cmdBuf.drop bytes.length }
  | .temp n => { q with temps := Function.update q.temps n (some bytes) }
  | .response => q

/-- Note the outstanding chains that `hit` says are no longer what was published. -/
def lose (q : ControlQueue) (hit : Chain → Bool) : ControlQueue :=
  { q with lost := q.lost ++ (q.outstanding.filter hit).map Chain.call }

/-- Give a temporary buffer back. -/
def freeTemp (q : ControlQueue) (n : Nat) : ControlQueue :=
  { q.lose (fun ch => ch.buffer == .temp n) with temps := Function.update q.temps n none }

/-- Release the call's buffer, if it has one of its own. -/
def freeBuffer (q : ControlQueue) (c : Call) : ControlQueue :=
  match c.buffer with
  | .temp n => q.freeTemp n
  | _ => q

/-- Copy the command. The flags say whether the buffers have physical addresses. -/
def copy (q : ControlQueue) (c : Call) (cmdPhys respPhys : Bool) : ControlQueue :=
  let q₁ := (q.lose fun ch => ch.buffer == c.buffer).write c.buffer c.sub.bytes
  if cmdPhys = false then (q₁.freeBuffer c).leave c .noMemory none
  else if respPhys = false then q₁.leave c .noMemory none
  else { q₁ with pc := .copied c }

/-- Fill the two descriptors. -/
def fill (q : ControlQueue) (c : Call) : ControlQueue :=
  let q₁ := q.lose fun ch => ch.cmdDesc == c.cmdDesc || ch.cmdDesc == c.respDesc ||
    ch.respDesc == c.cmdDesc || ch.respDesc == c.respDesc
  { q₁ with
    ring := (q.ring.setDesc c.cmdDesc
        ⟨c.buffer, c.sub.bytes.length % u32, some c.respDesc, false⟩).setDesc c.respDesc
      ⟨.response, min (c.sub.respSize.getD 0) 4096, none, true⟩
    pc := .filled c }

/-- The chain is on the available ring. -/
def pushAvail (q : ControlQueue) (c : Call) : ControlQueue :=
  { q with
    ring := q.ring.publish ⟨c.cmdDesc, some c.no⟩
    outstanding := q.outstanding ++ [⟨c.no, c.cmdDesc, c.respDesc, c.buffer⟩] }

/-- Put the chain on the available ring and notify the device, if it can be. -/
def publish (q : ControlQueue) (c : Call) (notify : Bool) : ControlQueue :=
  if notify = false then (q.pushAvail c).leave c .notReady none
  else { q.pushAvail c with pc := .polling c 0 }

/-- How often the used index is looked at. -/
def pollLimit : Nat := 150

/-- One look at the used index, the `i`-th. -/
def poll (q : ControlQueue) (c : Call) (i : Nat) : ControlQueue :=
  if q.ring.usedIdx ≠ q.lastUsed then { q with pc := .found c }
  else if i + 1 < pollLimit then { q with pc := .polling c (i + 1) }
  else q.leave c .timeout none

/-- The status for a response of the given type; 0 is what the caller's zeroed
buffer says when it has no room for one. With room for 1 to 3 bytes the type would be
copied in part, which no caller asks for. -/
def status (sub : Submission) (respType : Nat) : IOReturn :=
  match sub.respSize with
  | none => .success
  | some 0 => .error
  | some _ => if respIsOk respType then .success else .error

/-- `m_vq_last_used++`, with the call's own buffer left to be released. -/
def consume (q : ControlQueue) (c : Call) : ControlQueue :=
  { q with
    lastUsed := inc16 q.lastUsed
    toRelease := match c.buffer with
      | .temp n => q.toRelease ++ [n]
      | _ => q.toRelease }

/-- Consume a used element, whose id is only logged, and copy the response. -/
def read (q : ControlQueue) (c : Call) : ControlQueue :=
  (q.consume c).leave c (status c.sub q.respType)
    (if c.sub.wantsResponse = true then some (q.ring.usedAt q.lastUsed) else none)

/-! ## The device -/

/-- The first `len` bytes of a buffer. -/
def bytesAt (q : ControlQueue) (b : Buffer) (len : Nat) : Option (List UInt8) :=
  match b with
  | .command => some (q.cmdBuf.take len)
  | .temp n => (q.temps n).map (List.take len)
  | .response => none

/-- Take a chain and execute its command. -/
def exec (q : ControlQueue) : Option ControlQueue :=
  q.ring.take.map fun (x, ring) =>
    let d := q.ring.desc x.head
    { q with ring := ring, executed := q.executed ++ [⟨x.call, q.bytesAt d.buffer d.len⟩] }

/-- Complete a chain with a response of some type. -/
def complete (q : ControlQueue) (i respType : Nat) : Option ControlQueue :=
  (q.ring.complete i).map fun (x, ring) =>
    { q with
      ring := ring
      respType := respType
      outstanding := q.outstanding.filter fun ch => some ch.call ≠ x.call }

/-! ## Runs -/

inductive Event where
  | enter (sub : Submission) (alloc : Bool)
  | copy (cmdPhys respPhys : Bool)
  | fill
  | publish (notify : Bool)
  | poll
  | read
  | release
  | exec
  | complete (i respType : Nat)
  deriving DecidableEq, Repr

def step (q : ControlQueue) (ev : Event) : Option ControlQueue :=
  match ev, q.pc with
  | .enter sub alloc, .idle => some (q.enter sub alloc)
  | .copy cmdPhys respPhys, .entered c => some (q.copy c cmdPhys respPhys)
  | .fill, .copied c => some (q.fill c)
  | .publish notify, .filled c => some (q.publish c notify)
  | .poll, .polling c i => some (q.poll c i)
  | .read, .found c => some (q.read c)
  | .release, _ =>
      match q.toRelease with
      | [] => none
      | n :: rest => some { q.freeTemp n with toRelease := rest }
  | .exec, _ => q.exec
  | .complete i respType, _ => q.complete i respType
  | _, _ => none

def machine (size : Nat) : Machine ControlQueue Event where
  init := init size
  step := step

/-- The steps, one by one. -/
inductive Step (q : ControlQueue) : Event → ControlQueue → Prop where
  | enter (sub alloc) (h : q.pc = .idle) : Step q (.enter sub alloc) (q.enter sub alloc)
  | copy (c cmdPhys respPhys) (h : q.pc = .entered c) :
      Step q (.copy cmdPhys respPhys) (q.copy c cmdPhys respPhys)
  | fill (c) (h : q.pc = .copied c) : Step q .fill (q.fill c)
  | publish (c notify) (h : q.pc = .filled c) : Step q (.publish notify) (q.publish c notify)
  | poll (c i) (h : q.pc = .polling c i) : Step q .poll (q.poll c i)
  | read (c) (h : q.pc = .found c) : Step q .read (q.read c)
  | release (n rest) (h : q.toRelease = n :: rest) :
      Step q .release { q.freeTemp n with toRelease := rest }
  | exec (t) (h : q.exec = some t) : Step q .exec t
  | complete (i respType t) (h : q.complete i respType = some t) :
      Step q (.complete i respType) t

theorem Step.of_step {q t : ControlQueue} {ev : Event} (h : q.step ev = some t) : Step q ev t := by
  unfold step at h
  split at h
  · next hpc =>
    cases h
    exact .enter _ _ hpc
  · next hpc =>
    cases h
    exact .copy _ _ _ hpc
  · next hpc =>
    cases h
    exact .fill _ hpc
  · next hpc =>
    cases h
    exact .publish _ _ hpc
  · next hpc =>
    cases h
    exact .poll _ _ hpc
  · next hpc =>
    cases h
    exact .read _ hpc
  · split at h
    · cases h
    · next hq =>
      cases h
      exact .release _ _ hq
  · exact .exec _ h
  · exact .complete _ _ _ h
  · cases h

theorem exec_eq_some {q t : ControlQueue} (h : q.exec = some t) :
    ∃ x ring, q.ring.take = some (x, ring) ∧ t = { q with
      ring := ring
      executed := q.executed ++
        [⟨x.call, q.bytesAt (q.ring.desc x.head).buffer (q.ring.desc x.head).len⟩] } := by
  obtain ⟨⟨x, ring⟩, hx, rfl⟩ := Option.map_eq_some_iff.mp h
  exact ⟨x, ring, hx, rfl⟩

theorem complete_eq_some {q t : ControlQueue} {i respType : Nat}
    (h : q.complete i respType = some t) :
    ∃ x ring, q.ring.complete i = some (x, ring) ∧ t = { q with
      ring := ring
      respType := respType
      outstanding := q.outstanding.filter fun ch => some ch.call ≠ x.call } := by
  obtain ⟨⟨x, ring⟩, hx, rfl⟩ := Option.map_eq_some_iff.mp h
  exact ⟨x, ring, hx, rfl⟩

/-- The buffer a call is given, and what becomes of the temporary ones. -/
inductive GotBuffer (q : ControlQueue) : Buffer → (Nat → Option (List UInt8)) → Nat → Prop where
  | static : GotBuffer q .command q.temps q.nextTemp
  | temp : GotBuffer q (.temp q.nextTemp) (Function.update q.temps q.nextTemp (some []))
      (q.nextTemp + 1)

/-- The ways out of `acquire`: what it took is returned where it refuses. -/
inductive Acquired (q : ControlQueue) (sub : Submission) : ControlQueue → Prop where
  | refused (ret) : Acquired q sub (q.refuse ret)
  | entered (cmdDesc respDesc free₁ free₂ buffer temps nextTemp)
      (hcmd : q.free.pop = some (cmdDesc, free₁)) (hresp : free₁.pop = some (respDesc, free₂))
      (hbuf : GotBuffer q buffer temps nextTemp) (hlen : sub.bytes.length < u32) :
      Acquired q sub { q with
        free := free₂
        temps := temps
        nextTemp := nextTemp
        pc := .entered ⟨q.submitted.length - 1, sub, cmdDesc, respDesc, buffer⟩ }

theorem acquire_acquired (q : ControlQueue) (sub : Submission) (alloc : Bool) :
    Acquired q sub (q.acquire sub alloc) := by
  unfold acquire
  split
  · exact .refused _
  next cmdDesc free₁ hcmd =>
  split
  · rw [FreeList.push_of_pop hcmd]
    exact .refused _
  next respDesc free₂ hresp =>
  dsimp only
  split
  · next hlen =>
    have hu := u32_eq
    have hcap : cmdBufSize = 4096 := rfl
    exact .entered _ _ _ _ _ _ _ hcmd hresp .static (by omega)
  split
  · next hlen => exact .entered _ _ _ _ _ _ _ hcmd hresp .temp hlen.2
  · rw [FreeList.push_of_pop hresp, FreeList.push_of_pop hcmd]
    exact .refused _

/-- Writing to a buffer changes memory only. -/
theorem write_eq (q : ControlQueue) (b : Buffer) (bytes : List UInt8) :
    ∃ cmdBuf temps, q.write b bytes = { q with cmdBuf := cmdBuf, temps := temps } := by
  cases b with
  | command => exact ⟨_, q.temps, rfl⟩
  | temp n => exact ⟨q.cmdBuf, _, rfl⟩
  | response => exact ⟨q.cmdBuf, q.temps, rfl⟩

theorem freeBuffer_eq (q : ControlQueue) (c : Call) :
    ∃ temps lost, q.freeBuffer c = { q with temps := temps, lost := lost } := by
  unfold freeBuffer
  split
  · exact ⟨_, _, rfl⟩
  · exact ⟨q.temps, q.lost, rfl⟩

/-- The ways out of `copy`, up to the contents of the buffers. -/
inductive Copied (q : ControlQueue) (c : Call) : Bool → Bool → ControlQueue → Prop where
  | noCommand (respPhys cmdBuf temps lost) : Copied q c false respPhys
      (ControlQueue.leave { q with cmdBuf := cmdBuf, temps := temps, lost := lost } c
        .noMemory none)
  | noResponse (cmdBuf temps lost) : Copied q c true false
      (ControlQueue.leave { q with cmdBuf := cmdBuf, temps := temps, lost := lost } c
        .noMemory none)
  | copied (cmdBuf temps lost) : Copied q c true true
      { q with cmdBuf := cmdBuf, temps := temps, lost := lost, pc := .copied c }

theorem copy_copied (q : ControlQueue) (c : Call) (cmdPhys respPhys : Bool) :
    Copied q c cmdPhys respPhys (q.copy c cmdPhys respPhys) := by
  obtain ⟨cmdBuf, temps, hwrite⟩ :=
    write_eq (q.lose fun ch => ch.buffer == c.buffer) c.buffer c.sub.bytes
  unfold copy
  rw [hwrite]
  cases cmdPhys with
  | false =>
      obtain ⟨temps', lost', hfree⟩ := freeBuffer_eq
        { q.lose fun ch => ch.buffer == c.buffer with cmdBuf := cmdBuf, temps := temps } c
      dsimp only
      rw [if_pos rfl, hfree]
      exact .noCommand _ _ _ _
  | true =>
      cases respPhys with
      | false => exact .noResponse _ _ _
      | true => exact .copied _ _ _

/-! ### Pieces of runs -/

/-- A call for a bare header. -/
def header : Submission := { bytes := List.replicate ctrlHdrSize 0, respSize := some ctrlHdrSize }

/-- A call down to its first poll. -/
def toPolling (sub : Submission) : List Event :=
  [.enter sub true, .copy true true, .fill, .publish true]

/-- A call that gives up. -/
def timedOut (sub : Submission) : List Event := toPolling sub ++ List.replicate pollLimit .poll

end ControlQueue
end VMQemuVGA
