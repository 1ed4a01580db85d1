import Mathlib.Algebra.GroupWithZero.Nat
import Mathlib.Data.Vector.Defs
import Mathlib.Logic.Equiv.Fin.Basic
import Mathlib.Tactic.Common

/-! # Binary formats

A format writes values as bytes and reads them back from the front of a list. Reading
gives back what was written, whatever follows, and accepts nothing else. -/

universe u v

structure Codec (α : Type u) where
  encode : α → List UInt8
  decode : List UInt8 → Option (α × List UInt8)
  decode_encode : ∀ a rest, decode (encode a ++ rest) = some (a, rest)
  encode_of_decode : ∀ {bytes a rest}, decode bytes = some (a, rest) → encode a ++ rest = bytes

namespace Codec

variable {α : Type u} {β : Type v} {c : Codec α} {a b : α} {bytes rest : List UInt8} {n m : Nat}

/-! ## The front of a list -/

/-- The value at the front. -/
def read (c : Codec α) (bytes : List UInt8) : Option α := (c.decode bytes).map Prod.fst

theorem read_encode_append (c : Codec α) (a : α) (rest : List UInt8) :
    c.read (c.encode a ++ rest) = some a := by
  rw [read, c.decode_encode]
  rfl

@[simp] theorem read_encode (c : Codec α) (a : α) : c.read (c.encode a) = some a := by
  simpa using c.read_encode_append a []

/-- A value is read from the lists that begin with it, and from no others. -/
theorem read_eq_some : c.read bytes = some a ↔ c.encode a <+: bytes := by
  constructor
  · intro h
    obtain ⟨⟨a', rest⟩, hdecode, rfl⟩ := Option.map_eq_some_iff.mp h
    exact ⟨rest, c.encode_of_decode hdecode⟩
  · rintro ⟨rest, rfl⟩
    exact c.read_encode_append a rest

/-- Of a value that is cut off, nothing is read. -/
theorem read_take (c : Codec α) (a : α) (h : n < (c.encode a).length) :
    c.read ((c.encode a).take n) = none := by
  cases hread : c.read ((c.encode a).take n) with
  | none => rfl
  | some b =>
      -- a value at the front of the part is one at the front of the whole
      have hpre := read_eq_some.mp hread
      have hwhole := read_eq_some.mpr (hpre.trans ( List.take_prefix n _))
      rw [read_encode] at hwhole
      obtain rfl := Option.some.inj hwhole
      have hle := hpre.length_le
      rw [List.length_take_of_le (Nat.le_of_lt h)] at hle
      exact absurd hle (Nat.not_le_of_lt h)

/-! ## Sizes -/

/-- All values are as long. -/
def HasSize (c : Codec α) (n : Nat) : Prop := ∀ a, (c.encode a).length = n

/-! ## Bytes and parts -/

def empty : Codec Unit where
  encode _ := []
  decode bytes := some ((), bytes)
  decode_encode _ _ := rfl
  encode_of_decode h := by
    cases h
    rfl

theorem hasSize_empty : empty.HasSize 0 := fun _ => rfl

def byte : Codec UInt8 where
  encode b := [b]
  decode
    | [] => none
    | b :: rest => some (b, rest)
  decode_encode _ _ := rfl
  encode_of_decode {bytes a rest} h := by
    cases bytes with
    | nil => cases h
    | cons b bytes =>
        cases h
        rfl

theorem hasSize_byte : byte.HasSize 1 := fun _ => rfl

/-- The same bytes for other values. -/
def iso (c : Codec α) (e : α ≃ β) : Codec β where
  encode b := c.encode (e.symm b)
  decode bytes := (c.decode bytes).map fun (a, rest) => (e a, rest)
  decode_encode b rest := by
    rw [c.decode_encode]
    simp
  encode_of_decode {bytes b rest} h := by
    obtain ⟨⟨a, rest'⟩, hdecode, heq⟩ := Option.map_eq_some_iff.mp h
    obtain ⟨rfl, rfl⟩ := Prod.mk.inj heq
    rw [e.symm_apply_apply]
    exact c.encode_of_decode hdecode

theorem HasSize.iso (h : c.HasSize n) (e : α ≃ β) : (c.iso e).HasSize n := fun b => h (e.symm b)

/-- Only some of the bytes, for the values they stand for. -/
def restrict (c : Codec α) (f : α → Option β) (g : β → α) (h : ∀ a b, f a = some b ↔ g b = a) :
    Codec β where
  encode b := c.encode (g b)
  decode bytes := (c.decode bytes).bind fun (a, rest) => (f a).map fun b => (b, rest)
  decode_encode b rest := by
    rw [c.decode_encode]
    simp [(h (g b) b).mpr rfl]
  encode_of_decode {bytes b rest} hdecode := by
    obtain ⟨⟨a, rest'⟩, ha, hb⟩ := Option.bind_eq_some_iff.mp hdecode
    obtain ⟨b', hb', heq⟩ := Option.map_eq_some_iff.mp hb
    obtain ⟨rfl, rfl⟩ := Prod.mk.inj heq
    rw [(h a b').mp hb']
    exact c.encode_of_decode ha

/-- A value, and behind it one whose format it says. -/
def sigma {β : α → Type v} (c : Codec α) (d : ∀ a, Codec (β a)) : Codec (Sigma β) where
  encode x := c.encode x.1 ++ (d x.1).encode x.2
  decode bytes := (c.decode bytes).bind fun (a, rest) =>
    ((d a).decode rest).map fun (b, rest) => (⟨a, b⟩, rest)
  decode_encode x rest := by
    rw [List.append_assoc, c.decode_encode]
    simp [(d x.1).decode_encode]
  encode_of_decode {bytes x rest} h := by
    obtain ⟨⟨a, rest₁⟩, ha, hbind⟩ := Option.bind_eq_some_iff.mp h
    obtain ⟨⟨b, rest₂⟩, hb, heq⟩ := Option.map_eq_some_iff.mp hbind
    obtain ⟨rfl, rfl⟩ := Prod.mk.inj heq
    rw [List.append_assoc, (d a).encode_of_decode hb]
    exact c.encode_of_decode ha

/-- One value behind the other. -/
def pair (c : Codec α) (d : Codec β) : Codec (α × β) :=
  (c.sigma fun _ => d).iso (Equiv.sigmaEquivProd α β)

section Pair

variable {d : Codec β}

theorem encode_pair (x : α × β) : (c.pair d).encode x = c.encode x.1 ++ d.encode x.2 := rfl

theorem HasSize.pair (hc : c.HasSize n) (hd : d.HasSize m) : (c.pair d).HasSize (n + m) := by
  intro x
  rw [encode_pair, List.length_append, hc, hd]

end Pair

/-! ## Arrays -/

section Array

/-- `n` values from the front of a list. -/
def decodeArray (c : Codec α) : Nat → List UInt8 → Option (List α × List UInt8)
  | 0, bytes => some ([], bytes)
  | n + 1, bytes => (c.decode bytes).bind fun (a, rest) =>
      (c.decodeArray n rest).map fun (as, rest) => (a :: as, rest)

theorem decodeArray_flatMap (c : Codec α) (as : List α) (rest : List UInt8) :
    c.decodeArray as.length (as.flatMap c.encode ++ rest) = some (as, rest) := by
  induction as with
  | nil => rfl
  | cons a as ih =>
      rw [List.flatMap_cons, List.append_assoc, List.length_cons, decodeArray, c.decode_encode]
      simp [ih]

theorem flatMap_of_decodeArray {as : List α} (h : c.decodeArray n bytes = some (as, rest)) :
    as.length = n ∧ as.flatMap c.encode ++ rest = bytes := by
  induction n generalizing bytes as with
  | zero =>
      cases h
      exact ⟨rfl, rfl⟩
  | succ n ih =>
      obtain ⟨⟨a, rest₁⟩, ha, hbind⟩ := Option.bind_eq_some_iff.mp h
      obtain ⟨⟨as', rest₂⟩, has, heq⟩ := Option.map_eq_some_iff.mp hbind
      obtain ⟨rfl, rfl⟩ := Prod.mk.inj heq
      obtain ⟨hlen, hbytes⟩ := ih has
      refine ⟨congrArg Nat.succ hlen, ?_⟩
      rw [List.flatMap_cons, List.append_assoc, hbytes]
      exact c.encode_of_decode ha

/-- `n` values, one behind the other. -/
def array (c : Codec α) (n : Nat) : Codec (List.Vector α n) where
  encode as := as.val.flatMap c.encode
  decode bytes :=
    match h : c.decodeArray n bytes with
    | none => none
    | some (as, rest) => some (⟨as, (flatMap_of_decodeArray h).1⟩, rest)
  decode_encode := by
    rintro ⟨as, rfl⟩ rest
    split
    next h => simp [decodeArray_flatMap] at h
    next as' rest' h =>
      rw [decodeArray_flatMap] at h
      cases h
      rfl
  encode_of_decode {bytes as rest} h := by
    split at h
    · cases h
    next as' rest' hdecode =>
      cases h
      exact (flatMap_of_decodeArray hdecode).2

theorem HasSize.array (h : c.HasSize n) (m : Nat) : (c.array m).HasSize (m * n) := by
  rintro ⟨as, rfl⟩
  show (as.flatMap c.encode).length = as.length * n
  induction as with
  | nil => simp
  | cons a as ih =>
      rw [List.flatMap_cons, List.length_append, h, ih, List.length_cons, Nat.succ_mul,
        Nat.add_comm]

end Array

/-! ## Numbers, the lowest byte first -/

/-- The lowest of `n + 1` bytes, and the others. -/
def lowByteEquiv (n : Nat) : UInt8 × Fin (256 ^ n) ≃ Fin (256 ^ (n + 1)) :=
  ((Equiv.prodCongr ⟨UInt8.toFin, UInt8.ofFin, fun _ => rfl, fun _ => rfl⟩ (Equiv.refl _)).trans
    (Equiv.prodComm _ _)).trans finProdFinEquiv

/-- A number of `n` bytes. -/
def le : (n : Nat) → Codec (Fin (256 ^ n))
  | 0 => empty.iso (Equiv.ofUnique Unit (Fin 1))
  | n + 1 => (byte.pair (le n)).iso (lowByteEquiv n)

theorem hasSize_le (n : Nat) : (le n).HasSize n := by
  induction n with
  | zero => exact hasSize_empty.iso _
  | succ n ih =>
      have hsize := hasSize_byte.pair ih
      rw [Nat.add_comm] at hsize
      exact hsize.iso (lowByteEquiv n)

/-- The `n` lowest bytes. -/
def bytesLE : Nat → Nat → List UInt8
  | 0, _ => []
  | n + 1, v => UInt8.ofNat v :: bytesLE n (v / 256)

theorem encode_le (n : Nat) (i : Fin (256 ^ n)) : (le n).encode i = bytesLE n i := by
  induction n with
  | zero => rfl
  | succ n ih =>
      have hlow : ((lowByteEquiv n).symm i).1 = UInt8.ofNat i := UInt8.toNat_inj.mp rfl
      show ((lowByteEquiv n).symm i).1 :: (le n).encode ((lowByteEquiv n).symm i).2 = _
      rw [hlow, ih]
      rfl

def word : Codec UInt32 := (le 4).iso ⟨UInt32.ofFin, UInt32.toFin, fun _ => rfl, fun _ => rfl⟩

def long : Codec UInt64 := (le 8).iso ⟨UInt64.ofFin, UInt64.toFin, fun _ => rfl, fun _ => rfl⟩

theorem hasSize_word : word.HasSize 4 := (hasSize_le 4).iso _

theorem hasSize_long : long.HasSize 8 := (hasSize_le 8).iso _

example : word.encode 0x01020304 = [4, 3, 2, 1] := by decide

end Codec
