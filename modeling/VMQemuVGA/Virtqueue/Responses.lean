import VMQemuVGA.Lib.Bytes
import VMQemuVGA.Virtqueue.ControlQueue

/-! # Bytes of responses

The device writes every response to the start of `m_resp_buf`, which nobody clears.
`submitCommand` copies as many bytes from there as its caller has room for, however many
the device has written, and as soon as the device has completed any chain at all: also one
that an earlier call has given up on. -/

namespace VMQemuVGA

/-- `VIRTIO_GPU_RESP_BUF_SIZE`. -/
def respBufSize : Nat := 4096

/-- The device writes a response and moves the used index: for the call that polls, or for
a chain that is still there from before. -/
inductive Completion where
  | own (bytes : List UInt8)
  | earlier (bytes : List UInt8)
  deriving DecidableEq, Repr

/-- What becomes of a submission: the completions between the drain and the copy of the
response, if it gets to poll, or an exit before the poll. -/
inductive DeviceReply where
  | polled (completions : List Completion)
  /-- the chain is published, but there is nothing to notify the device with -/
  | unnotified
  | refused (why : Refusal)
  deriving DecidableEq, Repr

namespace Submission

/-- The length of the response descriptor, and of the copy. -/
def room (sub : Submission) : Nat := min (sub.respSize.getD 0) respBufSize

end Submission

/-- The bytes of `m_resp_buf`, and how many chains are published that the device has not
completed. -/
structure ResponseBuffer where
  mem : Nat → UInt8
  outstanding : Nat

namespace ResponseBuffer

/-- A response ends where its descriptor does. -/
def deliver (room : Nat) (bytes : List UInt8) (mem : Nat → UInt8) : Nat → UInt8 :=
  poke mem 0 (bytes.take room)

/-- The device completes a chain that is outstanding. Its descriptors may have been filled
again since, so the response may have as many bytes as the buffer. -/
def completeEarlier (bytes : List UInt8) (buf : ResponseBuffer) : Option ResponseBuffer :=
  if buf.outstanding = 0 then none
  else some ⟨deliver respBufSize bytes buf.mem, buf.outstanding - 1⟩

/-- A call that polls: the buffer, and whether its own chain is completed. -/
def complete (sub : Submission) (s : ResponseBuffer × Bool) :
    Completion → Option (ResponseBuffer × Bool)
  | .own bytes =>
      if s.2 = true then none
      else some ({ s.1 with mem := deliver sub.room bytes s.1.mem }, true)
  | .earlier bytes => (s.1.completeEarlier bytes).map fun buf => (buf, s.2)

/-- A chain that is not completed stays behind. -/
def leave (s : ResponseBuffer × Bool) : ResponseBuffer :=
  if s.2 = true then s.1 else { s.1 with outstanding := s.1.outstanding + 1 }

/-- `submitCommand`: its status, the bytes copied to the caller, and the buffer. The poll
gives up if nothing is completed. -/
def submitCommand (sub : Submission) (reply : DeviceReply) (buf : ResponseBuffer) :
    Option (IOReturn × List UInt8 × ResponseBuffer) :=
  match reply with
  | .refused why => some (why.ret, [], buf)
  | .unnotified => some (.notReady, [], leave (buf, false))
  | .polled completions =>
      (completions.foldlM (complete sub) (buf, false)).map fun s =>
        if completions = [] then (.timeout, [], leave s)
        else (ControlQueue.status sub (wordAt s.1.mem 0), peek s.1.mem 0 sub.room, leave s)

/-- What may have happened before. -/
inductive Past where
  | call (sub : Submission) (reply : DeviceReply)
  /-- a completion while nobody polls -/
  | late (bytes : List UInt8)

def afterPast (buf : ResponseBuffer) : Past → Option ResponseBuffer
  | .call sub reply => (buf.submitCommand sub reply).map fun r => r.2.2
  | .late bytes => buf.completeEarlier bytes

/-- The buffer after earlier commands. -/
def after (past : List Past) (buf : ResponseBuffer) : Option ResponseBuffer :=
  past.foldlM afterPast buf

end ResponseBuffer

/-! ## `getCapset` -/

/-- The blob that fits into `response_buf`. -/
def capsetRoom : Nat := 2048

/-- The command `VIRTIO_GPU_CMD_GET_CAPSET` and a response of a header and a blob. -/
def capsetSubmission (id version : Nat) : Submission where
  bytes := [0x109, 0, 0, 0, 0, 0, id, version].flatMap wordBytes
  respSize := some (capsetRoom + ctrlHdrSize)

/-- What `getCapset` returns and writes to `out_blob` and `out_blob_size`. -/
structure CapsetAnswer where
  ret : IOReturn
  blob : List UInt8
  size : Option Nat
  deriving DecidableEq, Repr

namespace ResponseBuffer

/-- `getCapset`; `pointers` is whether the device and both outputs are there. -/
def getCapset (reply : DeviceReply) (pointers : Bool) (id version capacity : Nat)
    (buf : ResponseBuffer) : Option (CapsetAnswer × ResponseBuffer) :=
  if pointers = false ∨ capacity = 0 then some (⟨.badArgument, [], none⟩, buf)
  else
    (buf.submitCommand (capsetSubmission id version) reply).map fun (ret, copied, buf) =>
      if ret ≠ .success then (⟨ret, [], none⟩, buf)
      else
        -- the rest of `response_buf` is zero
        let response := copied ++ List.replicate (capsetRoom + ctrlHdrSize - copied.length) 0
        let blobSize := min capsetRoom capacity
        (⟨.success, (response.drop ctrlHdrSize).take blobSize, some blobSize⟩, buf)

end ResponseBuffer

/-! ## What it should return -/

/-- An answer to `GET_CAPSET`: a header that says so and a blob for which there is room. -/
structure CapsetReply where
  header : List UInt8
  blob : List UInt8
  length_header : header.length = ctrlHdrSize
  ok : respIsOk (wordAt (fun i => header.getD i 0) 0) = true
  length_blob : blob.length ≤ capsetRoom

namespace CapsetReply

/-- `VIRTIO_GPU_RESP_OK_CAPSET` and a blob of zeros. -/
def zeros (n : Nat) (h : n ≤ capsetRoom) : CapsetReply where
  header := [0x1103, 0, 0, 0, 0, 0].flatMap wordBytes
  blob := List.replicate n 0
  length_header := by decide
  ok := by decide
  length_blob := by simpa using h

/-- The response's bytes. -/
def bytes (reply : CapsetReply) : List UInt8 := reply.header ++ reply.blob

/-- The device answers the command so, in time. That the command is answered need not be
what ends the poll. -/
def Answers (reply : CapsetReply) (r : DeviceReply) : Prop :=
  ∃ completions, r = .polled completions ∧ completions ≠ [] ∧
    ∀ bs, .own bs ∈ completions → bs = reply.bytes

/-- `getCapset` can return this: after some history that leaves so many chains outstanding,
whatever was in the buffer, with a device that answers so. -/
def CanReturn (reply : CapsetReply) (id version capacity outstanding : Nat)
    (answer : CapsetAnswer) : Prop :=
  ∃ mem past buf r buf', ResponseBuffer.after past ⟨mem, 0⟩ = some buf ∧
    buf.outstanding = outstanding ∧ reply.Answers r ∧
    buf.getCapset r true id version capacity = some (answer, buf')

/-- `getCapset` returns as much of the blob as the caller has room for, and nothing that
depends on what was in the buffer. -/
structure Returned (reply : CapsetReply) (id version capacity outstanding : Nat) : Prop where
  blob : 0 < capacity → ∀ answer, reply.CanReturn id version capacity outstanding answer →
    answer = ⟨.success, reply.blob.take (min reply.blob.length capacity),
      some (min reply.blob.length capacity)⟩
  independent : 0 < capacity → ∀ answer answer',
    reply.CanReturn id version capacity outstanding answer →
      reply.CanReturn id version capacity outstanding answer' → answer = answer'

variable {reply : CapsetReply} {id version capacity outstanding : Nat} {buf : ResponseBuffer}
  {mem : Nat → UInt8} {room : Nat}

/-! ## What it returns -/

theorem length_bytes (reply : CapsetReply) :
    reply.bytes.length = ctrlHdrSize + reply.blob.length := by
  rw [bytes, List.length_append, reply.length_header]

theorem room_capset : (capsetSubmission id version).room = ctrlHdrSize + capsetRoom := by
  rfl

/-- All of the response is written. -/
theorem deliver_bytes (reply : CapsetReply) (hroom : ctrlHdrSize + capsetRoom ≤ room) :
    ResponseBuffer.deliver room reply.bytes mem = poke mem 0 reply.bytes := by
  have hle := reply.length_blob
  have hlen := reply.length_bytes
  rw [ResponseBuffer.deliver, List.take_of_length_le (by omega)]

/-- The header, the blob, and then what was in the buffer. -/
theorem peek_written (reply : CapsetReply) (mem : Nat → UInt8) :
    peek (poke mem 0 reply.bytes) 0 (ctrlHdrSize + capsetRoom) =
      reply.header ++ reply.blob ++ peek mem (ctrlHdrSize + reply.blob.length)
        (capsetRoom - reply.blob.length) := by
  have hroom := reply.length_blob
  have hlen := reply.length_bytes
  rw [show ctrlHdrSize + capsetRoom =
      reply.bytes.length + (capsetRoom - reply.blob.length) by omega,
    peek_add, peek_poke_same, Nat.zero_add, bytes]
  congr 1
  rw [← bytes, hlen]
  apply peek_poke_apart
  exact .inl (by simp [hlen])

theorem wordAt_written (reply : CapsetReply) (mem : Nat → UInt8) :
    wordAt (poke mem 0 reply.bytes) 0 = wordAt (fun i => reply.header.getD i 0) 0 := by
  have hheader : reply.header.length = 24 := reply.length_header
  apply wordAt_congr
  intro i hi
  rw [bytes, poke_of_lt (by rw [List.length_append]; omega), List.getElem_append_left (by omega)]
  simp only [Nat.zero_add]
  rw [List.getD_eq_getElem _ _ (by omega)]

/-- What a poll leaves is what the caller gets. -/
theorem getCapset_polled {completions : List Completion} {s : ResponseBuffer × Bool}
    (hcapacity : 0 < capacity) (hne : completions ≠ [])
    (hpoll : completions.foldlM (ResponseBuffer.complete (capsetSubmission id version))
      (buf, false) = some s) :
    buf.getCapset (.polled completions) true id version capacity = some
      (if respIsOk (wordAt s.1.mem 0) then
        ⟨.success, ((peek s.1.mem 0 (ctrlHdrSize + capsetRoom)).drop ctrlHdrSize).take
          (min capsetRoom capacity), some (min capsetRoom capacity)⟩
      else ⟨.error, [], none⟩, ResponseBuffer.leave s) := by
  have hargs : ¬ (true = false ∨ capacity = 0) := by simp [Nat.ne_of_gt hcapacity]
  have hstatus : ControlQueue.status (capsetSubmission id version) (wordAt s.1.mem 0) =
      if respIsOk (wordAt s.1.mem 0) then .success else .error := rfl
  have hrest : capsetRoom + ctrlHdrSize - (ctrlHdrSize + capsetRoom) = 0 := by decide
  rw [ResponseBuffer.getCapset, if_neg hargs, ResponseBuffer.submitCommand, hpoll,
    Option.map_some, Option.map_some, if_neg hne, hstatus, room_capset]
  cases hok : respIsOk (wordAt s.1.mem 0) with
  | true => simp [hrest]
  | false => simp

/-- **One response**, of the call itself or of another: its blob, and up to 2048 bytes what
earlier commands have left. -/
theorem getCapset_eq {completion : Completion} {s : ResponseBuffer × Bool}
    (hcapacity : 0 < capacity)
    (hcomplete : ResponseBuffer.complete (capsetSubmission id version) (buf, false) completion =
      some s)
    (hs : s.1.mem = poke buf.mem 0 reply.bytes) :
    buf.getCapset (.polled [completion]) true id version capacity = some
      (⟨.success, (reply.blob ++ peek buf.mem (ctrlHdrSize + reply.blob.length)
        (capsetRoom - reply.blob.length)).take (min capsetRoom capacity),
        some (min capsetRoom capacity)⟩, ResponseBuffer.leave s) := by
  rw [getCapset_polled (s := s) hcapacity (List.cons_ne_nil _ _) (by
    rw [List.foldlM_cons, hcomplete]
    rfl), hs, wordAt_written, if_pos reply.ok, peek_written, List.append_assoc,
    List.drop_left' reply.length_header]

/-- The response to the call itself. -/
theorem getCapset_own (hcapacity : 0 < capacity) :
    buf.getCapset (.polled [.own reply.bytes]) true id version capacity = some
      (⟨.success, (reply.blob ++ peek buf.mem (ctrlHdrSize + reply.blob.length)
        (capsetRoom - reply.blob.length)).take (min capsetRoom capacity),
        some (min capsetRoom capacity)⟩,
      ⟨ResponseBuffer.deliver (ctrlHdrSize + capsetRoom) reply.bytes buf.mem,
        buf.outstanding⟩) :=
  getCapset_eq (s := (_, true)) hcapacity rfl (deliver_bytes reply (Nat.le_refl _))

/-- **Another call's response** is taken for the capset, also for one that fills all of the
room. -/
theorem getCapset_earlier (hcapacity : 0 < capacity) (houtstanding : buf.outstanding ≠ 0)
    (other : CapsetReply) (hfull : other.blob.length = capsetRoom) :
    (buf.getCapset (.polled [.earlier other.bytes]) true id version capacity).map Prod.fst =
      some ⟨.success, other.blob.take (min capsetRoom capacity),
        some (min capsetRoom capacity)⟩ := by
  have hcomplete : ResponseBuffer.complete (capsetSubmission id version) (buf, false)
      (.earlier other.bytes) =
        some (⟨ResponseBuffer.deliver respBufSize other.bytes buf.mem, buf.outstanding - 1⟩,
          false) := by
    rw [ResponseBuffer.complete, ResponseBuffer.completeEarlier, if_neg houtstanding]
    rfl
  rw [getCapset_eq hcapacity hcomplete (deliver_bytes other (by decide)), Option.map_some, hfull,
    List.take_append_of_le_length (by omega)]

/-- A byte that an earlier response has left behind the blob is returned as a part
of it. -/
theorem getCapset_leaks (hshort : reply.blob.length < min capsetRoom capacity) (b : UInt8) :
    ∃ answer, reply.CanReturn id version capacity 0 answer ∧
      answer.blob[reply.blob.length]? = some b := by
  have hcapacity : 0 < capacity := by omega
  -- a response of as many bytes, each of them `b`
  let full := List.replicate respBufSize b
  have hpast : ResponseBuffer.after [.call ⟨[], some respBufSize⟩ (.polled [.own full])]
      ⟨fun _ => 0, 0⟩ = some ⟨poke (fun _ => 0) 0 full, 0⟩ := by
    have htake : full.take respBufSize = full := List.take_of_length_le (by simp [full])
    show some (ResponseBuffer.mk (poke _ 0 (full.take _)) 0) = _
    rw [show (Submission.room ⟨[], some respBufSize⟩) = respBufSize from Nat.min_self _, htake]
  refine ⟨_, ⟨_, _, _, .polled [.own reply.bytes], _, hpast, rfl,
    ⟨_, rfl, List.cons_ne_nil _ _, ?_⟩, getCapset_own hcapacity⟩, ?_⟩
  · intro bs hbs
    exact Completion.own.inj (List.mem_singleton.mp hbs)
  rw [List.getElem?_take_of_lt hshort, List.getElem?_append_right (Nat.le_refl _), Nat.sub_self]
  have hpos : 0 < capsetRoom - reply.blob.length := by omega
  have hin : ctrlHdrSize + reply.blob.length < full.length := by
    rw [List.length_replicate]
    have hle : ctrlHdrSize + capsetRoom ≤ respBufSize := by decide
    omega
  rw [List.getElem?_eq_getElem (by rw [length_peek]; exact hpos)]
  simp only [peek, List.getElem_map, List.getElem_range, Nat.add_zero, Option.some.injEq]
  rw [← Nat.zero_add (ctrlHdrSize + reply.blob.length), poke_of_lt hin, List.getElem_replicate]

/-! ## When it returns the blob -/

/-- Calls that give up leave their chains. -/
theorem after_timeouts (mem : Nat → UInt8) (sub : Submission) (n : Nat) :
    ResponseBuffer.after (List.replicate n (.call sub (.polled []))) ⟨mem, 0⟩ =
      some ⟨mem, n⟩ := by
  suffices h : ∀ k, ResponseBuffer.after (List.replicate n (.call sub (.polled []))) ⟨mem, k⟩ =
      some ⟨mem, k + n⟩ by simpa using h 0
  induction n with
  | zero => exact fun _ => rfl
  | succ n ih =>
      intro k
      have hrest := ih (k + 1)
      rw [show k + 1 + n = k + (n + 1) by omega] at hrest
      exact hrest

/-- Nothing is completed that is not outstanding. -/
theorem complete_eq_none (sub : Submission) (completion : Completion) (mem : Nat → UInt8) :
    ResponseBuffer.complete sub (⟨mem, 0⟩, true) completion = none := by
  cases completion with
  | own bs => rfl
  | earlier bs => rfl

/-- If nothing is outstanding, it is the answer that ends the poll. -/
theorem polled_eq_own {completions : List Completion} {s : ResponseBuffer × Bool}
    {sub : Submission} (hnone : buf.outstanding = 0) (hne : completions ≠ [])
    (hpoll : completions.foldlM (ResponseBuffer.complete sub) (buf, false) = some s) :
    ∃ bs, completions = [.own bs] := by
  cases completions with
  | nil => exact absurd rfl hne
  | cons first rest =>
      rw [List.foldlM_cons] at hpoll
      cases first with
      | earlier bs =>
          simp [ResponseBuffer.complete, ResponseBuffer.completeEarlier, hnone] at hpoll
      | own bs =>
          cases rest with
          | nil => exact ⟨bs, rfl⟩
          | cons second rest =>
              change (second :: rest).foldlM (ResponseBuffer.complete sub)
                (⟨ResponseBuffer.deliver sub.room bs buf.mem, buf.outstanding⟩, true) =
                  some s at hpoll
              rw [hnone, List.foldlM_cons, complete_eq_none] at hpoll
              cases hpoll

/-- With nothing outstanding, what can be returned is the blob and what follows it. -/
theorem CanReturn.of_none {answer : CapsetAnswer} (hcapacity : 0 < capacity)
    (h : reply.CanReturn id version capacity 0 answer) : ∃ mem,
      answer = ⟨.success, (reply.blob ++ peek mem (ctrlHdrSize + reply.blob.length)
        (capsetRoom - reply.blob.length)).take (min capsetRoom capacity),
        some (min capsetRoom capacity)⟩ := by
  obtain ⟨mem, past, buf, r, buf', -, hnone, ⟨completions, rfl, hne, hown⟩, hget⟩ := h
  cases hpoll : completions.foldlM (ResponseBuffer.complete (capsetSubmission id version))
      (buf, false) with
  | none =>
      have hargs : ¬ (true = false ∨ capacity = 0) := by simp [Nat.ne_of_gt hcapacity]
      rw [ResponseBuffer.getCapset, if_neg hargs, ResponseBuffer.submitCommand, hpoll] at hget
      cases hget
  | some s =>
      obtain ⟨bs, rfl⟩ := polled_eq_own hnone hne hpoll
      obtain rfl := hown bs List.mem_cons_self
      rw [getCapset_own hcapacity] at hget
      exact ⟨buf.mem, (congrArg Prod.fst (Option.some.inj hget)).symm⟩

/-- The device answers a fresh driver. -/
theorem canReturn_fresh (reply : CapsetReply) (id version : Nat) (hcapacity : 0 < capacity) :
    reply.CanReturn id version capacity 0
      ⟨.success, (reply.blob ++ peek (fun _ => 0) (ctrlHdrSize + reply.blob.length)
        (capsetRoom - reply.blob.length)).take (min capsetRoom capacity),
        some (min capsetRoom capacity)⟩ := by
  refine ⟨fun _ => 0, [], ⟨fun _ => 0, 0⟩, .polled [.own reply.bytes], _, rfl, rfl,
    ⟨_, rfl, List.cons_ne_nil _ _, fun bs hbs => ?_⟩, getCapset_own hcapacity⟩
  exact Completion.own.inj (List.mem_singleton.mp hbs)

/-- With a chain outstanding, the call can end before it is answered, and fail. -/
theorem canReturn_error (reply : CapsetReply) (id version : Nat) (hcapacity : 0 < capacity)
    (houtstanding : outstanding ≠ 0) :
    reply.CanReturn id version capacity outstanding ⟨.error, [], none⟩ := by
  -- the response of the other chain has no bytes, and none have been written before
  have hcomplete : ResponseBuffer.complete (capsetSubmission id version)
      (⟨fun _ => 0, outstanding⟩, false) (.earlier []) =
        some (⟨fun _ => 0, outstanding - 1⟩, false) := by
    rw [ResponseBuffer.complete, ResponseBuffer.completeEarlier, if_neg houtstanding]
    rfl
  have hpoll : [Completion.earlier []].foldlM
      (ResponseBuffer.complete (capsetSubmission id version)) (⟨fun _ => 0, outstanding⟩, false) =
        some (⟨fun _ => 0, outstanding - 1⟩, false) := by
    rw [List.foldlM_cons, hcomplete]
    rfl
  refine ⟨fun _ => 0, _, _, .polled [.earlier []], _, after_timeouts _ ⟨[], none⟩ outstanding, rfl,
    ⟨_, rfl, List.cons_ne_nil _ _, fun bs hbs => ?_⟩,
    getCapset_polled hcapacity (List.cons_ne_nil _ _) hpoll⟩
  cases List.mem_singleton.mp hbs

/-- **When the blob is returned**: nothing from before can be completed, and the device's
answer is as long as what is copied. -/
theorem returned_iff (reply : CapsetReply) (id version capacity outstanding : Nat) :
    reply.Returned id version capacity outstanding ↔
      capacity = 0 ∨
        outstanding = 0 ∧ (capacity ≤ reply.blob.length ∨ reply.blob.length = capsetRoom) := by
  have hroom := reply.length_blob
  constructor
  · intro hreturned
    by_contra hnot
    obtain ⟨hzero, hshort⟩ := not_or.mp hnot
    have hcapacity : 0 < capacity := Nat.pos_of_ne_zero hzero
    by_cases houtstanding : outstanding = 0
    · subst houtstanding
      have hblob := hreturned.blob hcapacity _ (reply.canReturn_fresh id version hcapacity)
      have hsize := Option.some.inj (CapsetAnswer.mk.inj hblob).2.2
      omega
    · have hblob := hreturned.blob hcapacity _
        (reply.canReturn_error id version hcapacity houtstanding)
      cases (CapsetAnswer.mk.inj hblob).1
  · rintro (rfl | ⟨rfl, hlong⟩)
    · exact ⟨fun h => absurd h (Nat.lt_irrefl 0), fun h => absurd h (Nat.lt_irrefl 0)⟩
    · have hblob : 0 < capacity → ∀ answer, reply.CanReturn id version capacity 0 answer →
          answer = ⟨.success, reply.blob.take (min reply.blob.length capacity),
            some (min reply.blob.length capacity)⟩ := by
        intro hcapacity answer h
        obtain ⟨mem, rfl⟩ := h.of_none hcapacity
        have hmin : min capsetRoom capacity = min reply.blob.length capacity := by omega
        rw [hmin, List.take_append_of_le_length (Nat.min_le_left _ _)]
      refine ⟨hblob, fun hcapacity answer answer' h h' => ?_⟩
      rw [hblob hcapacity answer h, hblob hcapacity answer' h']

/-- The 1408 bytes of a capset, and room for 2048. -/
theorem capset_of_1408_not_returned :
    ¬ (zeros 1408 (by decide)).Returned 2 1 2048 0 := by
  intro hreturned
  have hblob := hreturned.blob (by decide) _
    ((zeros 1408 (by decide)).canReturn_fresh 2 1 (by decide))
  have hsize := Option.some.inj (CapsetAnswer.mk.inj hblob).2.2
  have hlen : (zeros 1408 (by decide)).blob.length = 1408 := List.length_replicate
  rw [hlen] at hsize
  exact absurd hsize (by decide)

end CapsetReply

end VMQemuVGA
