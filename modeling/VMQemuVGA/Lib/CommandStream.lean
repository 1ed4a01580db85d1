import Mathlib.Tactic.Common

/-! # Streams of commands in 32-bit words

A stream is a list of packets. Each packet starts with a header word that holds
an opcode (bits 0 to 7), a kind (bits 8 to 15) and the number of payload words
that follow it (bits 16 to 31). -/

namespace CommandStream

structure Packet where
  opcode : Nat
  kind : Nat
  payload : List Nat
  deriving DecidableEq, Repr

/-! ## The header word -/

def opcodeOf (header : Nat) : Nat := header % 256
def kindOf (header : Nat) : Nat := header / 256 % 256
def lengthOf (header : Nat) : Nat := header / 65536 % 65536

section Fields
variable {opcode kind length : Nat}

theorem opcodeOf_fields (ho : opcode < 256) :
    opcodeOf (length * 65536 + (kind * 256 + opcode)) = opcode := by
  unfold opcodeOf
  omega

theorem kindOf_fields (ho : opcode < 256) (hk : kind < 256) :
    kindOf (length * 65536 + (kind * 256 + opcode)) = kind := by
  unfold kindOf
  omega

theorem lengthOf_fields (ho : opcode < 256) (hk : kind < 256) (hl : length < 65536) :
    lengthOf (length * 65536 + (kind * 256 + opcode)) = length := by
  unfold lengthOf
  omega

end Fields

/-! ## Decoding -/

/-- Cut the stream into packets; `none` when a header announces more words than
are left. Every packet takes a word at least, so as much fuel as words is enough. -/
def decodeFuel : Nat → List Nat → Option (List Packet)
  | _, [] => some []
  | 0, _ :: _ => none
  | fuel + 1, header :: rest =>
      if rest.length < lengthOf header then none
      else
        (decodeFuel fuel (rest.drop (lengthOf header))).map fun packets =>
          ⟨opcodeOf header, kindOf header, rest.take (lengthOf header)⟩ :: packets

def decode (words : List Nat) : Option (List Packet) := decodeFuel words.length words

/-- Any fuel that is enough gives the same packets. -/
theorem decodeFuel_eq {fuel fuel' : Nat} {words : List Nat} (h : words.length ≤ fuel)
    (h' : words.length ≤ fuel') : decodeFuel fuel words = decodeFuel fuel' words := by
  induction fuel generalizing fuel' words with
  | zero =>
      rw [List.length_eq_zero_iff.mp (Nat.le_zero.mp h)]
      simp only [decodeFuel]
  | succ fuel ih =>
      cases words with
      | nil => simp only [decodeFuel]
      | cons header rest =>
          cases fuel' with
          | zero => exact absurd h' (Nat.not_succ_le_zero _)
          | succ fuel' =>
              have hdrop : (rest.drop (lengthOf header)).length ≤ rest.length := by
                rw [List.length_drop]
                exact Nat.sub_le _ _
              simp only [decodeFuel]
              rw [ih (Nat.le_trans hdrop (Nat.le_of_succ_le_succ h))
                (Nat.le_trans hdrop (Nat.le_of_succ_le_succ h'))]

@[simp] theorem decode_nil : decode [] = some [] := rfl

theorem decode_cons (header : Nat) (rest : List Nat) :
    decode (header :: rest) =
      if rest.length < lengthOf header then none
      else
        (decode (rest.drop (lengthOf header))).map fun packets =>
          ⟨opcodeOf header, kindOf header, rest.take (lengthOf header)⟩ :: packets := by
  show decodeFuel (rest.length + 1) (header :: rest) = _
  rw [decodeFuel]
  split
  · rfl
  · have hdrop : (rest.drop (lengthOf header)).length ≤ rest.length := by
      rw [List.length_drop]
      exact Nat.sub_le _ _
    rw [decode, decodeFuel_eq hdrop (Nat.le_refl _)]

theorem decode_eq_some_nil {words : List Nat} : decode words = some [] ↔ words = [] := by
  constructor
  · intro h
    cases words with
    | nil => rfl
    | cons header rest =>
        rw [decode_cons] at h
        split at h
        · cases h
        · obtain ⟨_, _, hcons⟩ := Option.map_eq_some_iff.mp h
          cases hcons
  · rintro rfl
    rfl

/-- A stream is a single packet exactly when its header announces what follows it. -/
theorem decode_eq_singleton_iff {words : List Nat} {p : Packet} :
    decode words = some [p] ↔ ∃ header rest, words = header :: rest ∧
      lengthOf header = rest.length ∧ p = ⟨opcodeOf header, kindOf header, rest⟩ := by
  constructor
  · intro h
    cases words with
    | nil => simp only [decode_nil, Option.some.injEq, List.nil_eq, reduceCtorEq] at h
    | cons header rest =>
        rw [decode_cons] at h
        split at h
        · cases h
        next hlt =>
          obtain ⟨packets, hpackets, hcons⟩ := Option.map_eq_some_iff.mp h
          obtain ⟨rfl, rfl⟩ := List.cons.inj hcons
          -- nothing is left behind the packet
          have hle : rest.length ≤ lengthOf header := by
            rw [← List.drop_eq_nil_iff]
            exact decode_eq_some_nil.mp hpackets
          refine ⟨header, rest, rfl, Nat.le_antisymm (Nat.le_of_not_lt hlt) hle, ?_⟩
          rw [List.take_of_length_le hle]
  · rintro ⟨header, rest, rfl, hlen, rfl⟩
    rw [decode_cons, hlen, if_neg (Nat.lt_irrefl _), List.drop_length, List.take_length]
    rfl

end CommandStream
