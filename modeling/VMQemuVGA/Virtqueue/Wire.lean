import VMQemuVGA.Lib.Bytes
import VMQemuVGA.Virtqueue.ControlQueue

/-! # Commands on the wire

What `submitCommand` puts on the ring, byte for byte. A command goes through `m_cmd_buf`
or, if it does not fit there, through a buffer of its own. -/

namespace VMQemuVGA

/-- An error, and nothing is submitted. -/
def Rejected (r : IOReturn × List (List UInt8)) : Prop := r.1 ≠ .success ∧ r.2 = []

/-- A contiguous buffer: its physical address, 0 if there is none, and what is in it. -/
structure DmaBuffer where
  phys : Nat
  bytes : Nat → UInt8

/-- What `submitCommand` finds. -/
structure QueueEnv where
  /-- the queue and its three rings are there -/
  initialized : Bool
  /-- two descriptors are free -/
  descriptors : Bool
  /-- `m_cmd_buf` -/
  cmdBuf : DmaBuffer
  /-- the temporary buffer for so many bytes, if it is granted -/
  temp : Nat → Option DmaBuffer
  /-- its physical mask has 32 bits -/
  temp_le : ∀ n b, temp n = some b → b.phys + n ≤ u32
  /-- of `m_resp_buf` -/
  respPhys : Nat
  notify : Bool
  /-- the response's type, if there is one in time -/
  answered : Option Nat

namespace QueueEnv

/-- Everything is there and granted. -/
def granted : QueueEnv where
  initialized := true
  descriptors := true
  cmdBuf := ⟨0x1000, fun _ => 0⟩
  temp n := if n < u32 then some ⟨u32 - n, fun _ => 0⟩ else none
  temp_le := by
    intro n b h
    split_ifs at h with hn
    obtain rfl := Option.some.inj h
    exact (Nat.sub_add_cancel (Nat.le_of_lt hn)).le
  respPhys := 0x2000
  notify := true
  answered := some respOkNodata

/-- The buffer that a command goes through. -/
def buffer (q : QueueEnv) (size : Nat) : Option DmaBuffer :=
  if size ≤ cmdBufSize then some q.cmdBuf else q.temp size

/-- `submitCommand`, with the commands that are put on the ring. The response is a
header. -/
def submitCommand (q : QueueEnv) (cmd : List UInt8) : IOReturn × List (List UInt8) :=
  if cmd.length < ctrlHdrSize then (.badArgument, [])
  else if q.initialized = false then (.notReady, [])
  else if q.descriptors = false then (.noResources, [])
  else
    match q.buffer cmd.length with
    | none => (.noMemory, [])
    | some buf =>
        -- the descriptor's length is a `uint32_t`
        let wire := peek (poke buf.bytes 0 cmd) 0 (cmd.length % u32)
        if buf.phys = 0 ∨ q.respPhys = 0 then (.noMemory, [])
        -- the chain is on the ring, whether the device is notified or not
        else if q.notify = false then (.notReady, [wire])
        else
          match q.answered with
          | none => (.timeout, [wire])
          | some type => (if respIsOk type then .success else .error, [wire])

variable {q : QueueEnv} {cmd : List UInt8} {buf : DmaBuffer} {size : Nat}

/-- A buffer at an address has less than 4 GiB. -/
theorem lt_of_buffer (h : q.buffer size = some buf) (hphys : buf.phys ≠ 0) : size < u32 := by
  unfold buffer at h
  split_ifs at h with hsize
  · exact hsize.trans_lt (by decide)
  · have hle := q.temp_le size buf h
    omega

/-- Either buffer carries the command as it is. -/
theorem peek_buffer (bytes : Nat → UInt8) (h : cmd.length < u32) :
    peek (poke bytes 0 cmd) 0 (cmd.length % u32) = cmd := by
  rw [Nat.mod_eq_of_lt h]
  exact peek_poke_same

/-- `submitCommand` gives the command to the device, once, or it returns an error. -/
theorem submitCommand_cases (q : QueueEnv) (cmd : List UInt8) :
    ((q.submitCommand cmd).2 = [cmd] ∧ cmd.length < u32) ∨ Rejected (q.submitCommand cmd) := by
  cases hbuf : q.buffer cmd.length with
  | none =>
      simp only [submitCommand, hbuf]
      split_ifs <;> exact .inr ⟨by decide, rfl⟩
  | some buf =>
      by_cases hphys : buf.phys = 0 ∨ q.respPhys = 0
      · simp only [submitCommand, hbuf, if_pos hphys]
        split_ifs <;> exact .inr ⟨by decide, rfl⟩
      · have hlt := lt_of_buffer hbuf (not_or.mp hphys).1
        simp only [submitCommand, hbuf, if_neg hphys, peek_buffer buf.bytes hlt]
        split_ifs
        · exact .inr ⟨by decide, rfl⟩
        · exact .inr ⟨by decide, rfl⟩
        · exact .inr ⟨by decide, rfl⟩
        · exact .inl ⟨rfl, hlt⟩
        · cases q.answered <;> exact .inl ⟨rfl, hlt⟩

theorem sent_of_success {sent : List (List UInt8)}
    (h : q.submitCommand cmd = (.success, sent)) : sent = [cmd] ∧ cmd.length < u32 := by
  rcases q.submitCommand_cases cmd with ⟨hsent, hlt⟩ | ⟨hret, -⟩
  · rw [h] at hsent
    exact ⟨hsent, hlt⟩
  · exact absurd (congrArg Prod.fst h) hret

/-- With everything granted, a command is submitted and answered. -/
theorem submitCommand_granted (hhdr : ctrlHdrSize ≤ cmd.length) (h : cmd.length < u32) :
    granted.submitCommand cmd = (.success, [cmd]) := by
  have hbuf : ∃ buf, granted.buffer cmd.length = some buf ∧ buf.phys ≠ 0 := by
    unfold buffer
    split_ifs with hsize
    · exact ⟨_, rfl, by decide⟩
    · exact ⟨_, if_pos h, Nat.sub_ne_zero_of_lt h⟩
  obtain ⟨buf, hbuf, hphys⟩ := hbuf
  have hresp : granted.respPhys ≠ 0 := by decide
  simp only [submitCommand, hbuf, peek_buffer buf.bytes h, if_neg (Nat.not_lt_of_le hhdr),
    if_neg (not_or.mpr ⟨hphys, hresp⟩)]
  rfl

end QueueEnv

end VMQemuVGA
