import VMQemuVGA.Gpu.Device
import VMQemuVGA.Virtqueue.Wire

/-! # From a memory descriptor to a scatter list

`attachBacking` and `attachBackingUser` walk the physical segments of a descriptor
twice: once to count them, once to write them down. The host reads back what was
written. -/

namespace VMQemuVGA

/-! ## The descriptor -/

/-- A descriptor whose segments are what `getPhysicalSegment` reports of it. -/
structure BackingMemory extends MemoryDescriptor where
  nonempty : ∀ s ∈ segments, 0 < s.length
  addr_lt : ∀ s ∈ segments, s.addr < u64

/-- The segment at an offset, from there to its end; address 0 past the last one. -/
def segmentAt : List MemEntry → Nat → MemEntry
  | [], _ => ⟨0, 0⟩
  | s :: rest, off =>
      if off < s.length then ⟨s.addr + off, s.length - off⟩ else segmentAt rest (off - s.length)

/-- How many bytes the segments have. -/
def totalLength (l : List MemEntry) : Nat := (l.map MemEntry.length).sum

namespace BackingMemory

/-- The first pass from an offset on, with `nr_entries` and `total_length` so far; `none`
if it takes more turns. -/
def firstPass (d : BackingMemory) : Nat → Nat → Nat × Nat → Option (Nat × Nat)
  | 0, _, _ => none
  | fuel + 1, off, (nr, total) =>
      let seg := segmentAt d.segments off
      if seg.addr = 0 then some (nr, total)
      else
        let counted := ((nr + 1) % u32, (total + seg.length) % u64)
        -- defensive
        if seg.length = 0 then some counted
        else d.firstPass fuel ((off + seg.length) % u64) counted

/-- The entries of the second pass. -/
def secondPass (d : BackingMemory) : Nat → Nat → List MemEntry
  | 0, _ => []
  | n + 1, off =>
      let seg := segmentAt d.segments off
      ⟨seg.addr, seg.length % u32⟩ :: d.secondPass n ((off + seg.length) % u64)

end BackingMemory

/-! ## The command -/

/-- `sizeof(virtio_gpu_mem_entry)`. -/
def memEntrySize : Nat := 16

/-- `sizeof(virtio_gpu_resource_attach_backing)`. -/
def attachBackingSize : Nat := 32

/-- `entries[i]`, at its address: `addr`, `length` and `padding`. -/
def storeEntry (mem : Nat → UInt8) (a : Nat) (e : MemEntry) : Nat → UInt8 :=
  poke (poke (pokeLong mem a e.addr) (a + 8) (wordBytes e.length)) (a + 12) (wordBytes 0)

def storeEntries (mem : Nat → UInt8) : Nat → List MemEntry → Nat → UInt8
  | _, [] => mem
  | a, e :: es => storeEntries (storeEntry mem a e) (a + memEntrySize) es

/-- The command with `nr` entries in memory that holds `fresh`; four bytes of the header
stay as they are. -/
def attachBackingCommand (fresh : Nat → UInt8) (id nr : Nat) (d : BackingMemory) : List UInt8 :=
  let typed := poke (poke fresh 0 (wordBytes 0x106)) 4 (wordBytes 0)
  let hdr := poke (pokeLong typed 8 0) 16 (wordBytes 0)
  let attachCmd := poke (poke hdr 24 (wordBytes id)) 28 (wordBytes nr)
  peek (storeEntries attachCmd attachBackingSize (d.secondPass nr 0)) 0
    (attachBackingSize + nr * memEntrySize)

/-- An entry as the host reads it. -/
def entryAt (mem : Nat → UInt8) (a : Nat) : MemEntry := ⟨longAt mem a, wordAt mem (a + 8)⟩

def readEntries (mem : Nat → UInt8) : Nat → Nat → List MemEntry
  | _, 0 => []
  | a, n + 1 => entryAt mem a :: readEntries mem (a + memEntrySize) n

/-- The bytes of a command, from address 0 on. -/
def wireMemory (wire : List UInt8) : Nat → UInt8 := fun i => wire.getD i 0

/-- The `nr_entries` entries of a command. -/
def decodeEntries (wire : List UInt8) : List MemEntry :=
  readEntries (wireMemory wire) attachBackingSize (wordAt (wireMemory wire) 28)

/-! ## Both functions -/

/-- What `attachBacking` finds. -/
structure AttachEnv where
  /-- `m_pci_device` and `m_control_queue` -/
  ready : Bool
  /-- `IOMalloc`, by what is in the memory -/
  malloc : Option (Nat → UInt8)
  queue : QueueEnv

namespace AttachEnv

/-- `attachBacking`; the first pass has `fuel` turns. -/
def attachBacking (env : AttachEnv) (fuel id : Nat) (memory : Option BackingMemory) :
    Option (IOReturn × List (List UInt8)) :=
  if env.ready = false then some (.notReady, [])
  else
    match memory with
    | none => some (.badArgument, [])
    | some d =>
        if d.prepareRet ≠ .success then some (d.prepareRet, [])
        else
          (d.firstPass fuel 0 (0, 0)).map fun (nr, total) =>
            -- a total that is not the descriptor's length is only logged
            if nr = 0 ∨ total = 0 then (.noMemory, [])
            else
              match env.malloc with
              | none => (.noMemory, [])
              | some fresh => env.queue.submitCommand (attachBackingCommand fresh id nr d)

end AttachEnv

/-- What `attachBackingUser` finds. -/
structure UserAttachEnv where
  /-- `m_gpu_device` -/
  gpu : Bool
  /-- `findUserBacking` has found one -/
  attached : Bool
  /-- `IOMemoryDescriptor::withAddressRange` in the owning task -/
  withAddressRange : Nat → Nat → Option BackingMemory
  malloc : Option (Nat → UInt8)
  queue : QueueEnv
  /-- `addUserBacking` has room -/
  room : Bool

namespace UserAttachEnv

/-- `attachBackingUser` from the command on: the descriptor is kept if there is room. -/
def sendAndKeep (env : UserAttachEnv) (cmd : List UInt8) : IOReturn × List (List UInt8) :=
  let (ret, sent) := env.queue.submitCommand cmd
  if ret ≠ .success then (ret, sent)
  else if env.room = false then (.noResources, sent)
  else (.success, sent)

def attachBackingUser (env : UserAttachEnv) (fuel id addr len : Nat) :
    Option (IOReturn × List (List UInt8)) :=
  if env.gpu = false then some (.notReady, [])
  else if id = 0 ∨ addr = 0 ∨ len = 0 then some (.badArgument, [])
  else if env.attached then some (.busy, [])
  else
    match env.withAddressRange addr len with
    | none => some (.noMemory, [])
    | some d =>
        if d.prepareRet ≠ .success then some (d.prepareRet, [])
        else
          (d.firstPass fuel 0 (0, 0)).map fun (nr, total) =>
            if nr = 0 ∨ total ≠ d.length then (.noMemory, [])
            else
              match env.malloc with
              | none => (.noMemory, [])
              | some fresh => env.sendAndKeep (attachBackingCommand fresh id nr d)

end UserAttachEnv

/-! ## What should arrive -/

/-- The command lists the segments in order, and they make up the descriptor's length. -/
structure ListsMemory (wire : List UInt8) (d : BackingMemory) : Prop where
  type : wordAt (wireMemory wire) 0 = 0x106
  size : wire.length = attachBackingSize + d.segments.length * memEntrySize
  entries : decodeEntries wire = d.segments
  total : totalLength (decodeEntries wire) = d.length

/-- Whenever one of the two functions succeeds, it has sent one command that lists the
memory, and the two send the same entries for the same segments. -/
structure CoversMemory (d : BackingMemory) : Prop where
  kernel : ∀ (env : AttachEnv) fuel id sent,
    env.attachBacking fuel id (some d) = some (.success, sent) →
      ∃ wire, sent = [wire] ∧ ListsMemory wire d
  user : ∀ (env : UserAttachEnv) fuel id addr len sent,
    env.withAddressRange addr len = some d →
      env.attachBackingUser fuel id addr len = some (.success, sent) →
        ∃ wire, sent = [wire] ∧ ListsMemory wire d
  same : ∀ d' : BackingMemory, d'.segments = d.segments →
    ∀ (env : AttachEnv) fuel id sent (env' : UserAttachEnv) fuel' id' addr len sent',
      env.attachBacking fuel id (some d) = some (.success, sent) →
        env'.withAddressRange addr len = some d' →
          env'.attachBackingUser fuel' id' addr len = some (.success, sent') →
            sent.map decodeEntries = sent'.map decodeEntries

/-- The segments before the first at address 0. -/
def beforeZero (l : List MemEntry) : List MemEntry := l.takeWhile fun s => s.addr ≠ 0

namespace BackingMemory

def present (d : BackingMemory) : List MemEntry := beforeZero d.segments

/-- Neither function succeeds: the memory cannot be prepared, the first pass does not end,
or `nr_entries` is 0 or too large for a command. -/
def Refused (d : BackingMemory) : Prop :=
  d.prepareRet ≠ .success ∨ u64 ≤ totalLength d.present ∨ d.present.length % u32 = 0 ∨
    u32 ≤ attachBackingSize + d.present.length % u32 * memEntrySize

/-- Address, length and number of the segments fit, and they are as many bytes as there
should be. -/
structure Listable (d : BackingMemory) : Prop where
  addr : ∀ s ∈ d.segments, s.addr ≠ 0
  length : ∀ s ∈ d.segments, s.length < u32
  number : d.segments.length < u32
  total : totalLength d.segments = d.length

end BackingMemory

/-! ## The walk -/

section Walk

variable {l seen rest : List MemEntry} {s : MemEntry} {k off : Nat}

@[simp] theorem totalLength_nil : totalLength [] = 0 := rfl

@[simp] theorem totalLength_cons : totalLength (s :: l) = s.length + totalLength l := rfl

@[simp] theorem totalLength_append :
    totalLength (l ++ rest) = totalLength l + totalLength rest := by
  simp [totalLength]

/-- Where no segment is empty, there are at least as many bytes as segments. -/
theorem length_le_totalLength (h : ∀ s ∈ l, 0 < s.length) : l.length ≤ totalLength l := by
  induction l with
  | nil => exact le_rfl
  | cons s l ih =>
      have hpos := h s (List.mem_cons_self ..)
      have hrest := ih fun s hs => h s (List.mem_cons_of_mem _ hs)
      rw [List.length_cons, totalLength_cons]
      omega

@[simp] theorem beforeZero_nil : beforeZero [] = [] := rfl

theorem beforeZero_of_eq (h : s.addr = 0) : beforeZero (s :: l) = [] := by
  simp [beforeZero, h]

theorem beforeZero_of_ne (h : s.addr ≠ 0) : beforeZero (s :: l) = s :: beforeZero l := by
  simp [beforeZero, h]

theorem segmentAt_append (seen rest : List MemEntry) (k : Nat) :
    segmentAt (seen ++ rest) (totalLength seen + k) = segmentAt rest k := by
  induction seen with
  | nil => rw [List.nil_append, totalLength_nil, Nat.zero_add]
  | cons s seen ih =>
      rw [totalLength_cons, Nat.add_assoc, List.cons_append, segmentAt,
        if_neg (Nat.not_lt_of_le (Nat.le_add_right _ _)), Nat.add_sub_cancel_left, ih]

/-- At the end of what was seen begins the next segment. -/
theorem segmentAt_next (h : 0 < s.length) :
    segmentAt (seen ++ s :: rest) (totalLength seen) = s := by
  have hnext := segmentAt_append seen (s :: rest) 0
  rw [Nat.add_zero] at hnext
  rw [hnext, segmentAt, if_pos h]
  rfl

theorem segmentAt_end (seen : List MemEntry) : segmentAt seen (totalLength seen) = ⟨0, 0⟩ := by
  have hend := segmentAt_append seen [] 0
  rwa [List.append_nil, Nat.add_zero] at hend

/-- An offset before the first segment at address 0 is not at address 0. -/
theorem segmentAt_beforeZero (h : off < totalLength (beforeZero l)) :
    (segmentAt l off).addr ≠ 0 ∧ (segmentAt l off).length ≠ 0 := by
  induction l generalizing off with
  | nil => exact absurd h (Nat.not_lt_zero off)
  | cons s l ih =>
      by_cases haddr : s.addr = 0
      · rw [beforeZero_of_eq haddr] at h
        exact absurd h (Nat.not_lt_zero off)
      · rw [beforeZero_of_ne haddr, totalLength_cons] at h
        rw [segmentAt]
        split_ifs with hoff
        · exact ⟨Nat.ne_of_gt (Nat.add_pos_left (Nat.pos_of_ne_zero haddr) off),
            Nat.sub_ne_zero_of_lt hoff⟩
        · apply ih
          omega

end Walk

namespace BackingMemory

variable {d : BackingMemory} {fuel nr total n : Nat} {seen rest : List MemEntry}

/-- Behind what was seen, the first pass counts up to the first segment at address 0. -/
theorem firstPass_behind (hsegs : d.segments = seen ++ rest)
    (hlt : totalLength seen + totalLength (beforeZero rest) < u64) (hnr : nr < u32)
    (htotal : total < u64) :
    d.firstPass fuel (totalLength seen) (nr, total) =
      if (beforeZero rest).length < fuel then
        some ((nr + (beforeZero rest).length) % u32, (total + totalLength (beforeZero rest)) % u64)
      else none := by
  induction rest generalizing seen nr total fuel with
  | nil =>
      cases fuel with
      | zero => rfl
      | succ fuel =>
          rw [List.append_nil] at hsegs
          simp [firstPass, hsegs, segmentAt_end, Nat.mod_eq_of_lt hnr, Nat.mod_eq_of_lt htotal]
  | cons s rest ih =>
      have hpos : 0 < s.length := d.nonempty s (by simp [hsegs])
      cases fuel with
      | zero => rfl
      | succ fuel =>
          rw [firstPass, hsegs, segmentAt_next hpos]
          by_cases haddr : s.addr = 0
          · simp [haddr, beforeZero_of_eq, Nat.mod_eq_of_lt hnr, Nat.mod_eq_of_lt htotal]
          · -- one turn: the segment is seen, and the offset does not wrap
            have hseen : d.segments = (seen ++ [s]) ++ rest := by simp [hsegs]
            rw [beforeZero_of_ne haddr, totalLength_cons, ← Nat.add_assoc] at hlt
            have hoff : (totalLength seen + s.length) % u64 = totalLength (seen ++ [s]) := by
              rw [Nat.mod_eq_of_lt (Nat.lt_of_le_of_lt (Nat.le_add_right _ _) hlt)]
              simp
            have hlt' : totalLength (seen ++ [s]) + totalLength (beforeZero rest) < u64 := by
              simpa using hlt
            have hnr' : (nr + 1) % u32 < u32 := Nat.mod_lt _ (by decide)
            have htotal' : (total + s.length) % u64 < u64 := Nat.mod_lt _ (by decide)
            simp only [if_neg haddr, if_neg (Nat.ne_of_gt hpos), beforeZero_of_ne haddr, hoff,
              ih hseen hlt' hnr' htotal', List.length_cons, totalLength_cons, Nat.mod_add_mod,
              Nat.add_lt_add_iff_right, Nat.add_assoc, Nat.add_comm 1]

theorem start_lt (d : BackingMemory) (hlt : totalLength d.present < u64) :
    totalLength [] + totalLength (beforeZero d.segments) < u64 := by
  rw [totalLength_nil, Nat.zero_add]
  exact hlt

/-- The first pass ends if and only if offsets do not run around, and then it has counted
the segments before the first at address 0. -/
theorem firstPass_eq (d : BackingMemory) (fuel : Nat) :
    d.firstPass fuel 0 (0, 0) =
      if totalLength d.present < u64 ∧ d.present.length < fuel then
        some (d.present.length % u32, totalLength d.present)
      else none := by
  by_cases hlt : totalLength d.present < u64
  · have hpass : d.firstPass fuel 0 (0, 0) =
        if d.present.length < fuel then
          some ((0 + d.present.length) % u32, (0 + totalLength d.present) % u64)
        else none :=
      firstPass_behind (List.nil_append _).symm (d.start_lt hlt) (by decide) (by decide)
    simp only [hpass, hlt, Nat.zero_add, Nat.mod_eq_of_lt hlt, true_and]
  · rw [if_neg fun h => hlt h.1]
    -- every offset is in front of the first segment at address 0
    have hnone : ∀ off < u64, ∀ counted, d.firstPass fuel off counted = none := by
      induction fuel with
      | zero => intros; rfl
      | succ fuel ih =>
          rintro off hoff ⟨nr, total⟩
          obtain ⟨haddr, hlength⟩ := segmentAt_beforeZero (hoff.trans_le (Nat.le_of_not_lt hlt))
          simp only [firstPass, if_neg haddr, if_neg hlength]
          exact ih _ (Nat.mod_lt _ (by decide)) _
    exact hnone 0 (by decide) (0, 0)

/-- An entry as the second pass writes it. -/
def onWire (s : MemEntry) : MemEntry := { s with length := s.length % u32 }

theorem secondPass_behind (hsegs : d.segments = seen ++ rest)
    (hlt : totalLength seen + totalLength (beforeZero rest) < u64)
    (hn : n ≤ (beforeZero rest).length) :
    d.secondPass n (totalLength seen) = ((beforeZero rest).take n).map onWire := by
  induction n generalizing seen rest with
  | zero => rfl
  | succ n ih =>
      cases rest with
      | nil => exact absurd hn (Nat.not_succ_le_zero n)
      | cons s rest =>
          have hpos : 0 < s.length := d.nonempty s (by simp [hsegs])
          by_cases haddr : s.addr = 0
          · rw [beforeZero_of_eq haddr] at hn
            exact absurd hn (Nat.not_succ_le_zero n)
          · have hseen : d.segments = (seen ++ [s]) ++ rest := by simp [hsegs]
            rw [beforeZero_of_ne haddr] at hlt hn ⊢
            rw [totalLength_cons, ← Nat.add_assoc] at hlt
            have hoff : (totalLength seen + s.length) % u64 = totalLength (seen ++ [s]) := by
              rw [Nat.mod_eq_of_lt (Nat.lt_of_le_of_lt (Nat.le_add_right _ _) hlt)]
              simp
            have hlt' : totalLength (seen ++ [s]) + totalLength (beforeZero rest) < u64 := by
              simpa using hlt
            rw [secondPass, hsegs, segmentAt_next hpos, List.take_succ_cons, List.map_cons, hoff,
              ih hseen hlt' (Nat.le_of_succ_le_succ hn)]
            rfl

/-- The second pass writes as many of them down as the first has counted. -/
theorem secondPass_eq (hlt : totalLength d.present < u64) (hn : n ≤ d.present.length) :
    d.secondPass n 0 = (d.present.take n).map onWire :=
  secondPass_behind (List.nil_append _).symm (d.start_lt hlt) hn

end BackingMemory

/-! ## What was written is read -/

section Entries

variable {mem mem' : Nat → UInt8} {a b n size : Nat} {e : MemEntry} {es : List MemEntry}

theorem wordAt_storeEntry_below (h : b + 4 ≤ a) :
    wordAt (storeEntry mem a e) b = wordAt mem b := by
  rw [storeEntry, wordAt_poke_word (by omega), wordAt_poke_word (by omega),
    wordAt_pokeLong (by omega)]

theorem wordAt_storeEntries_below (h : b + 4 ≤ a) :
    wordAt (storeEntries mem a es) b = wordAt mem b := by
  induction es generalizing mem a with
  | nil => rfl
  | cons e es ih =>
      rw [storeEntries, ih (h.trans (Nat.le_add_right _ _)), wordAt_storeEntry_below h]

theorem entryAt_congr (h : ∀ b, b + 4 ≤ a + memEntrySize → wordAt mem b = wordAt mem' b) :
    entryAt mem a = entryAt mem' a := by
  have hsize : memEntrySize = 16 := rfl
  rw [entryAt, entryAt, longAt, longAt, h a (by omega), h (a + 4) (by omega), h (a + 8) (by omega)]

/-- An address of 64 bits and a length of 32 come back. -/
theorem entryAt_storeEntry (haddr : e.addr < u64) (hlength : e.length < u32) :
    entryAt (storeEntry mem a e) a = e := by
  have hlong : longAt (storeEntry mem a e) a = longAt (pokeLong mem a e.addr) a := by
    simp only [longAt, storeEntry]
    rw [wordAt_poke_word (by omega), wordAt_poke_word (by omega), wordAt_poke_word (by omega),
      wordAt_poke_word (by omega)]
  have hword : wordAt (storeEntry mem a e) (a + 8) = e.length % 2 ^ 32 := by
    rw [storeEntry, wordAt_poke_word (by omega), wordAt_poke_same]
  rw [entryAt, hlong, longAt_pokeLong, hword, Nat.mod_eq_of_lt haddr, Nat.mod_eq_of_lt hlength]

theorem readEntries_storeEntries (hn : es.length = n)
    (h : ∀ e ∈ es, e.addr < u64 ∧ e.length < u32) :
    readEntries (storeEntries mem a es) a n = es := by
  subst hn
  induction es generalizing mem a with
  | nil => rfl
  | cons e es ih =>
      obtain ⟨haddr, hlength⟩ := h e (List.mem_cons_self ..)
      -- the entries behind it leave the first as it was written
      have hfirst : entryAt (storeEntries (storeEntry mem a e) (a + memEntrySize) es) a = e := by
        rw [entryAt_congr fun b hb => wordAt_storeEntries_below hb]
        exact entryAt_storeEntry haddr hlength
      rw [storeEntries, List.length_cons, readEntries, hfirst,
        ih fun e he => h e (List.mem_cons_of_mem _ he)]

theorem readEntries_wireMemory (h : a + n * memEntrySize ≤ size) :
    readEntries (wireMemory (peek mem 0 size)) a n = readEntries mem a n := by
  induction n generalizing a with
  | zero => rfl
  | succ n ih =>
      have hsize : memEntrySize = 16 := rfl
      rw [Nat.succ_mul] at h
      have hentry : entryAt (wireMemory (peek mem 0 size)) a = entryAt mem a := by
        apply entryAt_congr
        intro b hb
        exact wordAt_peek (by omega)
      rw [readEntries, readEntries, hentry, ih (by omega)]

end Entries

namespace BackingMemory

variable {d : BackingMemory} {fresh : Nat → UInt8} {id nr : Nat}

@[simp] theorem length_secondPass (d : BackingMemory) (n off : Nat) :
    (d.secondPass n off).length = n := by
  induction n generalizing off with
  | zero => rfl
  | succ n ih => rw [secondPass, List.length_cons, ih]

@[simp] theorem length_attachBackingCommand :
    (attachBackingCommand fresh id nr d).length = attachBackingSize + nr * memEntrySize :=
  length_peek

/-- The command in front of the entries. -/
theorem wordAt_attachBackingCommand (fresh : Nat → UInt8) (id nr : Nat) (d : BackingMemory) :
    wordAt (wireMemory (attachBackingCommand fresh id nr d)) 0 = 0x106 ∧
      wordAt (wireMemory (attachBackingCommand fresh id nr d)) 28 = nr % u32 := by
  have hread : ∀ a, a + 4 ≤ attachBackingSize → ∀ mem,
      wordAt (wireMemory (peek (storeEntries mem attachBackingSize (d.secondPass nr 0)) 0
        (attachBackingSize + nr * memEntrySize))) a = wordAt mem a := by
    intro a ha mem
    exact (wordAt_peek (ha.trans (Nat.le_add_right _ _))).trans (wordAt_storeEntries_below ha)
  rw [attachBackingCommand, hread 0 (by decide), hread 28 (by decide)]
  constructor
  · rw [wordAt_poke_word (by decide), wordAt_poke_word (by decide), wordAt_poke_word (by decide),
      wordAt_pokeLong (by decide), wordAt_poke_word (by decide), wordAt_poke_same]
    rfl
  · exact wordAt_poke_same _ _ _

/-- The host reads what the second pass has written. -/
theorem decodeEntries_attachBackingCommand (hnr : nr < u32)
    (h : ∀ e ∈ d.secondPass nr 0, e.addr < u64 ∧ e.length < u32) :
    decodeEntries (attachBackingCommand fresh id nr d) = d.secondPass nr 0 := by
  rw [decodeEntries, (wordAt_attachBackingCommand fresh id nr d).2, Nat.mod_eq_of_lt hnr,
    attachBackingCommand, readEntries_wireMemory le_rfl]
  exact readEntries_storeEntries (d.length_secondPass nr 0) h

end BackingMemory

/-! ## What the functions send -/

namespace BackingMemory

variable {d d' : BackingMemory} {fresh : Nat → UInt8} {fuel id nr total addr len : Nat}
  {sent : List (List UInt8)}

/-- The command with as many entries as the first pass has counted. -/
def command (d : BackingMemory) (fresh : Nat → UInt8) (id : Nat) : List UInt8 :=
  attachBackingCommand fresh id (d.present.length % u32) d

theorem decodeEntries_command (fresh : Nat → UInt8) (id : Nat)
    (hlt : totalLength d.present < u64) :
    decodeEntries (d.command fresh id) =
      (d.present.take (d.present.length % u32)).map onWire := by
  have hsecond := secondPass_eq hlt (Nat.mod_le d.present.length u32)
  rw [command, decodeEntries_attachBackingCommand (Nat.mod_lt _ (by decide)), hsecond]
  intro e he
  rw [hsecond] at he
  obtain ⟨s, hs, rfl⟩ := List.mem_map.mp he
  have hmem : s ∈ d.segments := (List.takeWhile_sublist _).subset (List.mem_of_mem_take hs)
  exact ⟨d.addr_lt s hmem, Nat.mod_lt _ (by decide)⟩

theorem firstPass_some (h : d.firstPass fuel 0 (0, 0) = some (nr, total)) :
    totalLength d.present < u64 ∧ nr = d.present.length % u32 ∧ total = totalLength d.present := by
  rw [firstPass_eq] at h
  split_ifs at h with hpass
  obtain ⟨rfl, rfl⟩ := Prod.mk.inj (Option.some.inj h)
  exact ⟨hpass.1, rfl, rfl⟩

/-- What is common to both functions: a list that was counted, written down and submitted
is not refused. -/
theorem not_refused {q : QueueEnv} (hprep : d.prepareRet = .success)
    (hpass : d.firstPass fuel 0 (0, 0) = some (nr, total)) (hnr : nr ≠ 0)
    (hsub : q.submitCommand (attachBackingCommand fresh id nr d) = (.success, sent)) :
    ¬ d.Refused ∧ sent = [d.command fresh id] := by
  obtain ⟨hlt, rfl, rfl⟩ := firstPass_some hpass
  obtain ⟨rfl, hsize⟩ := QueueEnv.sent_of_success hsub
  rw [length_attachBackingCommand] at hsize
  refine ⟨?_, rfl⟩
  rintro (h | h | h | h)
  · exact h hprep
  · exact absurd hlt (Nat.not_lt_of_le h)
  · exact hnr h
  · exact absurd hsize (Nat.not_lt_of_le h)

/-- A success is the submission's: without memory for the command there is none. -/
theorem submitted_of_success {malloc : Option (Nat → UInt8)}
    {submit : List UInt8 → IOReturn × List (List UInt8)}
    (h : (match malloc with
      | none => (.noMemory, [])
      | some fresh => submit (attachBackingCommand fresh id nr d)) = (.success, sent)) :
    ∃ fresh, submit (attachBackingCommand fresh id nr d) = (.success, sent) := by
  cases malloc with
  | none => exact absurd (congrArg Prod.fst h) nofun
  | some fresh => exact ⟨fresh, h⟩

theorem attachBacking_success {env : AttachEnv}
    (h : env.attachBacking fuel id (some d) = some (.success, sent)) :
    ¬ d.Refused ∧ ∃ fresh, sent = [d.command fresh id] := by
  simp only [AttachEnv.attachBacking] at h
  split_ifs at h with hready hprep
  · exact absurd (congrArg Prod.fst (Option.some.inj h)) nofun
  · exact absurd (congrArg Prod.fst (Option.some.inj h)) hprep
  · obtain ⟨⟨nr, total⟩, hpass, hres⟩ := Option.map_eq_some_iff.mp h
    dsimp only at hres
    split_ifs at hres with hempty
    · exact absurd (congrArg Prod.fst hres) nofun
    · obtain ⟨fresh, hsub⟩ := submitted_of_success hres
      obtain ⟨hnot, hsent⟩ := not_refused (not_not.mp hprep) hpass (not_or.mp hempty).1 hsub
      exact ⟨hnot, fresh, hsent⟩

theorem sendAndKeep_success {env : UserAttachEnv} {cmd : List UInt8}
    (h : env.sendAndKeep cmd = (.success, sent)) :
    env.queue.submitCommand cmd = (.success, sent) := by
  simp only [UserAttachEnv.sendAndKeep] at h
  split_ifs at h with hret
  · exact absurd (congrArg Prod.fst h) hret
  · exact absurd (congrArg Prod.fst h) nofun
  · exact Prod.ext (not_not.mp hret) (Prod.mk.inj h).2

theorem attachBackingUser_success {env : UserAttachEnv}
    (hd : env.withAddressRange addr len = some d)
    (h : env.attachBackingUser fuel id addr len = some (.success, sent)) :
    ¬ d.Refused ∧ ∃ fresh, sent = [d.command fresh id] := by
  simp only [UserAttachEnv.attachBackingUser, hd] at h
  split_ifs at h with hgpu hargs hattached hprep
  · exact absurd (congrArg Prod.fst (Option.some.inj h)) nofun
  · exact absurd (congrArg Prod.fst (Option.some.inj h)) nofun
  · exact absurd (congrArg Prod.fst (Option.some.inj h)) nofun
  · exact absurd (congrArg Prod.fst (Option.some.inj h)) hprep
  · obtain ⟨⟨nr, total⟩, hpass, hres⟩ := Option.map_eq_some_iff.mp h
    dsimp only at hres
    split_ifs at hres with hempty
    · exact absurd (congrArg Prod.fst hres) nofun
    · obtain ⟨fresh, hsub⟩ := submitted_of_success hres
      obtain ⟨hnot, hsent⟩ := not_refused (not_not.mp hprep) hpass (not_or.mp hempty).1
        (sendAndKeep_success hsub)
      exact ⟨hnot, fresh, hsent⟩

theorem length_present_le (d : BackingMemory) : d.present.length ≤ totalLength d.present :=
  length_le_totalLength fun s hs => d.nonempty s ((List.takeWhile_sublist _).subset hs)

/-- Memory that is not refused can be attached. -/
theorem attachBacking_granted (h : ¬ d.Refused) (id : Nat) :
    ∃ (env : AttachEnv) (fuel : Nat) (fresh : Nat → UInt8),
      env.attachBacking fuel id (some d) = some (.success, [d.command fresh id]) := by
  obtain ⟨hprep, h⟩ := not_or.mp h
  obtain ⟨hlt, h⟩ := not_or.mp h
  obtain ⟨hnr, hsize⟩ := not_or.mp h
  refine ⟨⟨true, some fun _ => 0, .granted⟩, d.present.length + 1, fun _ => 0, ?_⟩
  have hpass : d.firstPass (d.present.length + 1) 0 (0, 0) =
      some (d.present.length % u32, totalLength d.present) := by
    rw [firstPass_eq, if_pos ⟨Nat.lt_of_not_le hlt, Nat.lt_succ_self _⟩]
  have htotal : totalLength d.present ≠ 0 := by
    intro hzero
    have hle := d.length_present_le
    rw [hzero, Nat.le_zero] at hle
    rw [hle] at hnr
    exact hnr rfl
  have hhdr : ctrlHdrSize ≤ (d.command (fun _ => 0) id).length := by
    rw [command, length_attachBackingCommand]
    exact Nat.le_add_right_of_le (by decide)
  have hcmd : (d.command (fun _ => 0) id).length < u32 := by
    rw [command, length_attachBackingCommand]
    exact Nat.lt_of_not_le hsize
  simp only [AttachEnv.attachBacking, hpass, if_neg hprep, Option.map_some,
    if_neg (not_or.mpr ⟨hnr, htotal⟩)]
  exact congrArg some (QueueEnv.submitCommand_granted hhdr hcmd)

theorem present_eq_iff (d : BackingMemory) :
    d.present = d.segments ↔ ∀ s ∈ d.segments, s.addr ≠ 0 := by
  rw [present, beforeZero, List.takeWhile_eq_self_iff]
  simp

/-- The command lists the memory if and only if it can be listed. -/
theorem listsMemory_command_iff (fresh : Nat → UInt8) (id : Nat) (h : ¬ d.Refused) :
    ListsMemory (d.command fresh id) d ↔ d.Listable := by
  obtain ⟨-, h⟩ := not_or.mp h
  have hlt := Nat.lt_of_not_le (not_or.mp h).1
  have hdecode := decodeEntries_command fresh id hlt
  constructor
  · intro hlists
    have hentries := hdecode.symm.trans hlists.entries
    -- as many entries as segments leave nothing out
    have hnumber := congrArg List.length hentries
    rw [List.length_map, List.length_take, Nat.min_eq_left (Nat.mod_le _ _)] at hnumber
    have hfront : d.present <+: d.segments := List.takeWhile_prefix _
    have hlength : d.present.length = d.segments.length :=
      Nat.le_antisymm hfront.length_le (hnumber ▸ Nat.mod_le _ _)
    have hall : d.present = d.segments := hfront.eq_of_length hlength
    have hwire : d.wireEntries = d.segments := by
      rwa [hnumber, hall, List.take_length] at hentries
    exact
      { addr := d.present_eq_iff.mp hall
        length := MemoryDescriptor.wireEntries_eq_iff.mp hwire
        number := hnumber ▸ Nat.mod_lt _ (by decide)
        total := hlists.entries ▸ hlists.total }
  · intro hlistable
    have hall : d.present = d.segments := d.present_eq_iff.mpr hlistable.addr
    have hnumber : d.present.length % u32 = d.segments.length := by
      rw [hall, Nat.mod_eq_of_lt hlistable.number]
    have hwire : d.wireEntries = d.segments :=
      MemoryDescriptor.wireEntries_eq_iff.mpr hlistable.length
    have hentries : decodeEntries (d.command fresh id) = d.segments := by
      rw [hdecode, hnumber, hall, List.take_length]
      exact hwire
    exact
      { type := (wordAt_attachBackingCommand fresh id _ d).1
        size := by rw [command, length_attachBackingCommand, hnumber]
        entries := hentries
        total := by rw [hentries, hlistable.total] }

end BackingMemory

/-! ## The model of the whole object

There, a descriptor's walk is `walked` and the entries it sends are `wireEntries`. -/

section Device

variable {d : BackingMemory} (haddr : ∀ s ∈ d.segments, s.addr ≠ 0)
  (hnumber : d.segments.length < u32) (htotal : d.walked < u64)

include haddr hnumber htotal

theorem firstPass_walked :
    d.firstPass (d.segments.length + 1) 0 (0, 0) = some (d.segments.length, d.walked) := by
  have hall := d.present_eq_iff.mpr haddr
  rw [BackingMemory.firstPass_eq, hall, if_pos ⟨htotal, Nat.lt_succ_self _⟩,
    Nat.mod_eq_of_lt hnumber]
  rfl

theorem decodeEntries_eq_wireEntries (fresh : Nat → UInt8) (id : Nat) :
    decodeEntries (d.command fresh id) = d.wireEntries := by
  have hall := d.present_eq_iff.mpr haddr
  rw [d.decodeEntries_command fresh id (hall ▸ htotal), hall, Nat.mod_eq_of_lt hnumber,
    List.take_length]
  rfl

/-- The calls return the same if the commands do. -/
theorem attachBacking_refines (e : Env) (g : Gpu) (id : Nat) (fresh : Nat → UInt8) (q : QueueEnv)
    (hq : (q.submitCommand (d.command fresh id)).1 =
      (e.ask (.resourceAttachBacking id ⟨d.wireEntries, none⟩)).ret) :
    ((AttachEnv.mk g.ready (if e.alloc .attachCommand then some fresh else none) q).attachBacking
      (d.segments.length + 1) id (some d)).map Prod.fst =
        some (g.attachBacking e id (some d.toMemoryDescriptor)).1 := by
  have hcommand : attachBackingCommand fresh id d.segments.length d = d.command fresh id := by
    rw [BackingMemory.command, d.present_eq_iff.mpr haddr, Nat.mod_eq_of_lt hnumber]
  simp only [AttachEnv.attachBacking, Gpu.attachBacking, firstPass_walked haddr hnumber htotal,
    List.length_eq_zero_iff, Option.map_some]
  cases e.alloc .attachCommand with
  | false =>
      simp only [Bool.false_eq_true, if_false, if_true]
      split_ifs <;> rfl
  | true =>
      simp only [Bool.true_eq_false, if_false, if_true, hcommand]
      split_ifs
      · rfl
      · rfl
      · rfl
      · exact congrArg some hq

end Device

/-! ## The main result -/

section Main

variable {d d' : BackingMemory}

/-- For the same segments the two functions send the same entries. -/
theorem same_entries (hsegs : d'.segments = d.segments) (hlt : totalLength d.present < u64)
    (fresh fresh' : Nat → UInt8) (id id' : Nat) :
    decodeEntries (d.command fresh id) = decodeEntries (d'.command fresh' id') := by
  have hpresent : d'.present = d.present := congrArg beforeZero hsegs
  rw [d.decodeEntries_command fresh id hlt, d'.decodeEntries_command fresh' id' (hpresent ▸ hlt),
    hpresent]

/-- Memory that is not refused is attached by somebody, and then it has to be listed. -/
theorem CoversMemory.listable (h : CoversMemory d) (hnot : ¬ d.Refused) : d.Listable := by
  obtain ⟨env, fuel, fresh, hrun⟩ := BackingMemory.attachBacking_granted hnot 1
  obtain ⟨wire, hwire, hlists⟩ := h.kernel env fuel 1 _ hrun
  obtain rfl := List.singleton_inj.mp hwire
  exact (BackingMemory.listsMemory_command_iff fresh 1 hnot).mp hlists

/-- Whatever succeeds has sent a list of the memory, the same in both functions, exactly
if the memory can be listed or neither function succeeds. -/
theorem coversMemory_iff (d : BackingMemory) : CoversMemory d ↔ d.Listable ∨ d.Refused := by
  constructor
  · intro h
    by_cases hrefused : d.Refused
    · exact .inr hrefused
    · exact .inl (h.listable hrefused)
  · intro h
    -- a success rules the second case out
    have hlists : ¬ d.Refused → ∀ fresh id, ListsMemory (d.command fresh id) d :=
      fun hnot fresh id =>
        (BackingMemory.listsMemory_command_iff fresh id hnot).mpr (h.resolve_right hnot)
    refine ⟨?_, ?_, ?_⟩
    · intro env fuel id sent hrun
      obtain ⟨hnot, fresh, hsent⟩ := BackingMemory.attachBacking_success hrun
      exact ⟨_, hsent, hlists hnot fresh id⟩
    · intro env fuel id addr len sent hd hrun
      obtain ⟨hnot, fresh, hsent⟩ := BackingMemory.attachBackingUser_success hd hrun
      exact ⟨_, hsent, hlists hnot fresh id⟩
    · intro d' hsegs env fuel id sent env' fuel' id' addr len sent' hrun hd hrun'
      obtain ⟨hnot, fresh, rfl⟩ := BackingMemory.attachBacking_success hrun
      obtain ⟨-, fresh', rfl⟩ := BackingMemory.attachBackingUser_success hd hrun'
      have hlt : totalLength d.present < u64 :=
        Nat.lt_of_not_le fun hle => hnot (.inr (.inl hle))
      exact congrArg List.singleton (same_entries hsegs hlt fresh fresh' id id')

/-- One segment of 4 GiB and 4096 bytes. -/
def largeSegment : BackingMemory where
  length := 2 ^ 32 + 4096
  prepareRet := .success
  segments := [⟨0x1000, 2 ^ 32 + 4096⟩]
  nonempty := by simp
  addr_lt := by decide

/-- Only 4096 bytes of it are listed. -/
theorem largeSegment_not_covered : ¬ CoversMemory largeSegment := by
  intro h
  have hnot : ¬ largeSegment.Refused := by
    rintro (hprep | htotal | hnone | hsize)
    · exact hprep rfl
    · exact absurd htotal (by decide)
    · exact absurd hnone (by decide)
    · exact absurd hsize (by decide)
  have hlength := (h.listable hnot).length ⟨0x1000, 2 ^ 32 + 4096⟩ (List.mem_singleton_self _)
  exact absurd hlength (by decide)

end Main

end VMQemuVGA
