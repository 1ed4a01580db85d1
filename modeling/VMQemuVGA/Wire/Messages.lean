import VMQemuVGA.Gpu.Scatter
import VMQemuVGA.UserClient.Submit3D
import VMQemuVGA.Wire.Commands

/-! # What the driver puts into commands

The functions that send commands on the control queue, with the bytes that each hands to
`submitCommand` and the command that the host is to read in them. -/

namespace VMQemuVGA
namespace VirtioGpu

/-! ## Bytes in memory -/

section Memory

variable {mem : Nat → UInt8} {a w : Nat} {e : VMQemuVGA.MemEntry} {es : List VMQemuVGA.MemEntry}

theorem wordBytes_mod (w : Nat) : wordBytes (w % 2 ^ 32) = wordBytes w := by
  simp only [wordBytes, List.cons.injEq, ← UInt8.toNat_inj, UInt8.toNat_ofNat',
    Nat.shiftRight_eq_div_pow, and_true]
  omega

theorem encode_word_ofNat (w : Nat) : Codec.word.encode (UInt32.ofNat w) = wordBytes w := by
  rw [encode_word, UInt32.toNat_ofNat', wordBytes_mod]

theorem encode_long_ofNat (w : Nat) :
    Codec.long.encode (UInt64.ofNat w) = wordBytes w ++ wordBytes (w >>> 32) := by
  have hlow : wordBytes (w % 2 ^ 64) = wordBytes w := by
    rw [← wordBytes_mod, Nat.mod_mod_of_dvd w (by decide), wordBytes_mod]
  have hhigh : wordBytes ((w % 2 ^ 64) >>> 32) = wordBytes (w >>> 32) := by
    rw [← wordBytes_mod (w >>> 32)]
    congr 1
    simp only [Nat.shiftRight_eq_div_pow]
    omega
  rw [encode_long, UInt64.toNat_ofNat', hlow, hhigh]

/-- A word that memory holds. -/
theorem encode_wordAt (mem : Nat → UInt8) (a : Nat) :
    Codec.word.encode (UInt32.ofNat (wordAt mem a)) = peek mem a 4 := by
  rw [encode_word_ofNat]
  exact wordBytes_of_bytes _ _ _ _

theorem encode_longAt (mem : Nat → UInt8) (a : Nat) :
    Codec.long.encode (UInt64.ofNat (longAt mem a)) = peek mem a 8 := by
  have hlow : wordBytes (longAt mem a) = peek mem a 4 := by
    rw [← encode_wordAt, encode_word_ofNat, ← wordBytes_mod, longAt, Nat.add_mul_mod_self_left,
      wordBytes_mod]
  have hhigh : longAt mem a >>> 32 = wordAt mem (a + 4) := by
    have hlt := wordAt_lt mem a
    rw [longAt, Nat.shiftRight_eq_div_pow]
    omega
  rw [encode_long_ofNat, hlow, hhigh, ← encode_word_ofNat, encode_wordAt, ← peek_add]

theorem peek_poke_word (mem : Nat → UInt8) (a w : Nat) :
    peek (poke mem a (wordBytes w)) a 4 = wordBytes w := peek_poke_same

theorem peek_poke_word_apart {b n : Nat} (h : a + 4 ≤ b ∨ b + n ≤ a) :
    peek (poke mem a (wordBytes w)) b n = peek mem b n := peek_poke_apart h

theorem peek_pokeLong (mem : Nat → UInt8) (a w : Nat) :
    peek (pokeLong mem a w) a 8 = wordBytes w ++ wordBytes (w >>> 32) := by
  rw [peek_add (n := 4) (m := 4), pokeLong, peek_poke_word_apart (by omega), peek_poke_word,
    peek_poke_word]

theorem peek_pokeLong_apart {b n : Nat} (h : a + 8 ≤ b ∨ b + n ≤ a) :
    peek (pokeLong mem a w) b n = peek mem b n := by
  rw [pokeLong, peek_poke_word_apart (by omega), peek_poke_word_apart (by omega)]

/-- The fields of a command that begins with a header and two words. -/
theorem peek_command (mem : Nat → UInt8) (n : Nat) :
    peek mem 0 (32 + n) = peek mem 0 4 ++ (peek mem 4 4 ++ (peek mem 8 8 ++ (peek mem 16 4 ++
      (peek mem 20 1 ++ (peek mem 21 3 ++ (peek mem 24 4 ++ (peek mem 28 4 ++ peek mem 32 n)))))))
    := by
  simp only [← List.append_assoc, ← peek_add (a := 0)]

/-- An entry as `virtio_gpu_mem_entry` has it. -/
def MemEntry.ofSegment (s : VMQemuVGA.MemEntry) : MemEntry := ⟨.ofNat s.addr, .ofNat s.length, 0⟩

theorem peek_storeEntry (mem : Nat → UInt8) (a : Nat) (e : VMQemuVGA.MemEntry) :
    peek (storeEntry mem a e) a 16 = MemEntry.codec.encode (.ofSegment e) := by
  have hsplit : peek (storeEntry mem a e) a 16 = peek (storeEntry mem a e) a 8 ++
      (peek (storeEntry mem a e) (a + 8) 4 ++ peek (storeEntry mem a e) (a + 12) 4) := by
    rw [← peek_add (a := a + 8) (n := 4), ← peek_add]
  show _ = Codec.long.encode (.ofNat e.addr) ++
    (Codec.word.encode (.ofNat e.length) ++ Codec.word.encode (.ofNat 0))
  rw [hsplit, encode_long_ofNat, encode_word_ofNat, encode_word_ofNat, storeEntry, peek_poke_word,
    peek_poke_word_apart (by omega), peek_poke_word_apart (by omega), peek_pokeLong,
    peek_poke_word_apart (by omega), peek_poke_word]

theorem peek_storeEntries_below {b n : Nat} (h : b + n ≤ a) :
    peek (storeEntries mem a es) b n = peek mem b n := by
  induction es generalizing mem a with
  | nil => rfl
  | cons e es ih =>
      rw [storeEntries, ih (h.trans (Nat.le_add_right _ _)), storeEntry,
        peek_poke_word_apart (by omega), peek_poke_word_apart (by omega),
        peek_pokeLong_apart (by omega)]

theorem peek_storeEntries (mem : Nat → UInt8) (a : Nat) (es : List VMQemuVGA.MemEntry) :
    peek (storeEntries mem a es) a (es.length * 16) =
      (es.map MemEntry.ofSegment).flatMap MemEntry.codec.encode := by
  induction es generalizing mem a with
  | nil => rfl
  | cons e es ih =>
      have hsize : memEntrySize = 16 := rfl
      rw [List.length_cons, Nat.succ_mul, Nat.add_comm, peek_add, storeEntries,
        peek_storeEntries_below (by omega), peek_storeEntry, hsize, ih]
      rfl

end Memory

/-! ## Headers -/

/-- Of memory that was not cleared, `executeCommands` sets the type and the context. -/
def submitHdr (fresh : Nat → UInt8) (ctx : UInt32) : CtrlHdr where
  type := .submit3D
  flags := .ofNat (wordAt fresh 4)
  fenceId := .ofNat (longAt fresh 8)
  ctxId := ctx
  ringIdx := fresh 20
  padding := ⟨peek fresh 21 3, length_peek⟩

/-- `attachBacking` sets all but the last four bytes. -/
def attachHdr (fresh : Nat → UInt8) : CtrlHdr where
  type := .resourceAttachBacking
  flags := 0
  fenceId := 0
  ctxId := 0
  ringIdx := fresh 20
  padding := ⟨peek fresh 21 3, length_peek⟩

namespace Command

/-- A structure that was cleared, with the type and the context set. -/
def zeroed (type : CtrlType) (ctx : UInt32) (body : Body type) : Command :=
  ⟨.zeroed type ctx, body⟩

/-- One whose header `initializeCommandHeader` has filled, without a fence. -/
def initialized (type : CtrlType) (ctx : UInt32) (body : Body type) : Command :=
  ⟨(CtrlHdr.initializeCommandHeader 0 type ctx false).1, body⟩

end Command

/-! ## Debug names -/

/-- What `snprintf` makes of `"macOS_3D_ctx_%d"`. -/
def debugText (ctx : UInt32) : List UInt8 :=
  ("macOS_3D_ctx_" ++ toString ctx.toInt32.toInt).toUTF8.toList

/-- What of it there is room for, and zeros behind it. -/
def debugName (ctx : UInt32) : List.Vector UInt8 64 :=
  ⟨(debugText ctx).take 63 ++ List.replicate (64 - ((debugText ctx).take 63).length) 0, by
    simp only [List.length_append, List.length_replicate, List.length_take]
    omega⟩

/-! ## Messages -/

/-- A command, by the function that sends it. Where a command is built in memory from
`IOMalloc`, what was in that memory is `fresh`. -/
inductive Message where
  | createResource2D (id format width height : UInt32)
  | createResource3D (id target format bind width height depth : UInt32)
  | createResource3DEx (ctx id target format bind width height depth arraySize lastLevel
      nrSamples flags : UInt32)
  | resourceUnref (id : UInt32)
  | setscanout (scanout id x y width height : UInt32)
  | transferToHost2D (id : UInt32) (offset : UInt64) (x y width height : UInt32)
  | flushResource (id x y width height : UInt32)
  | transferToHost3D (id level x y z width height depth ctx : UInt32)
  | transferFromHost3D (id level x y z width height depth ctx : UInt32)
  | attachBacking (fresh : Nat → UInt8) (id nrEntries : UInt32) (memory : BackingMemory)
  | mapGuestMemory (id : UInt32)
  | detachBackingUser (id : UInt32)
  | createRenderContext (ctx : UInt32)
  | createVirglContextEx (ctx : UInt32)
  | destroy3DContext (ctx : UInt32)
  | destroyRenderContext (ctx : UInt32)
  | ctxAttachResource (ctx id : UInt32)
  | ctxDetachResource (ctx id : UInt32)
  | executeCommands (fresh : Nat → UInt8) (ctx : UInt32) (commands : List UInt8)
  | getCapsetInfo (index : UInt32)
  | getCapset (id version : UInt32) (room : Nat)
  | flushCommands
  | waitForIdle (fence : UInt64)

namespace Message

/-- The command the host is to read. `flushCommands` sends a header without the resource
that belongs behind it, and `mapGuestMemory` an `ATTACH_BACKING` without its one entry. -/
def command : Message → Option Command
  | createResource2D id format width height =>
      some (.zeroed .resourceCreate2D 0 (⟨id, format, width, height⟩ : ResourceCreate2D))
  | createResource3D id target format bind width height depth =>
      some (.zeroed .resourceCreate3D 0
        (⟨id, target, format, bind, width, height, depth, 1, 0, 0, 0, 0⟩ : ResourceCreate3D))
  | createResource3DEx ctx id target format bind width height depth arraySize lastLevel nrSamples
      flags =>
      some (.zeroed .resourceCreate3D ctx
        (⟨id, target, format, bind, width, height, depth, arraySize, lastLevel, nrSamples, flags,
          0⟩ : ResourceCreate3D))
  | resourceUnref id => some (.zeroed .resourceUnref 0 (⟨id, 0⟩ : ResourceOnly))
  | setscanout scanout id x y width height =>
      some (.zeroed .setScanout 0 (⟨⟨x, y, width, height⟩, scanout, id⟩ : SetScanout))
  | transferToHost2D id offset x y width height =>
      some (.zeroed .transferToHost2D 0
        (⟨⟨x, y, width, height⟩, offset, id, 0⟩ : TransferToHost2D))
  | flushResource id x y width height =>
      some (.zeroed .resourceFlush 0 (⟨⟨x, y, width, height⟩, id, 0⟩ : ResourceFlush))
  | transferToHost3D id level x y z width height depth ctx =>
      some (.zeroed .transferToHost3D ctx
        (⟨⟨x, y, z, width, height, depth⟩, 0, id, level, 0, 0⟩ : TransferHost3D))
  | transferFromHost3D id level x y z width height depth ctx =>
      some (.zeroed .transferFromHost3D ctx
        (⟨⟨x, y, z, width, height, depth⟩, 0, id, level, 0, 0⟩ : TransferHost3D))
  | attachBacking fresh id nrEntries memory =>
      some ⟨attachHdr fresh, (⟨id, nrEntries,
        ⟨(memory.secondPass nrEntries.toNat 0).map .ofSegment, by simp⟩⟩ : ResourceAttachBacking)⟩
  | mapGuestMemory _ => none
  | detachBackingUser id => some (.zeroed .resourceDetachBacking 0 (⟨id, 0⟩ : ResourceOnly))
  | createRenderContext ctx =>
      some (.initialized .ctxCreate ctx
        (⟨.ofNat (debugText ctx).length, 0, debugName ctx⟩ : CtxCreate))
  | createVirglContextEx ctx =>
      some (.initialized .ctxCreate ctx (⟨0, 0, .replicate 64 0⟩ : CtxCreate))
  | destroy3DContext ctx => some (.initialized .ctxDestroy ctx ())
  | destroyRenderContext ctx => some (.zeroed .ctxDestroy ctx ())
  | ctxAttachResource ctx id =>
      some (.initialized .ctxAttachResource ctx (⟨id, 0⟩ : ResourceOnly))
  | ctxDetachResource ctx id =>
      some (.initialized .ctxDetachResource ctx (⟨id, 0⟩ : ResourceOnly))
  | executeCommands fresh ctx commands =>
      some ⟨submitHdr fresh ctx, (⟨.ofNat commands.length, .ofNat (wordAt fresh 28),
        ⟨commands.take (commands.length % 2 ^ 32), by simp [Nat.mod_le]⟩⟩ : CmdSubmit)⟩
  | getCapsetInfo index => some (.zeroed .getCapsetInfo 0 (⟨index, 0⟩ : GetCapsetInfo))
  | getCapset id version _ => some (.zeroed .getCapset 0 (⟨id, version⟩ : GetCapset))
  | flushCommands => none
  | waitForIdle fence =>
      some ⟨{ CtrlHdr.zeroed .submit3D 0 with flags := 1, fenceId := fence },
        (⟨0, 0, ⟨[], rfl⟩⟩ : CmdSubmit)⟩

/-- What is handed to `submitCommand`. -/
def bytes : Message → List UInt8
  | attachBacking fresh id nrEntries memory =>
      attachBackingCommand fresh id.toNat nrEntries.toNat memory
  | executeCommands fresh ctx commands => submit3DCommand fresh ctx.toNat commands
  | mapGuestMemory id =>
      CtrlHdr.codec.encode (.zeroed .resourceAttachBacking 0) ++
        (Codec.word.pair Codec.word).encode (id, 1)
  | flushCommands => CtrlHdr.codec.encode (.zeroed .ctxDetachResource 0)
  -- a structure on the stack, cleared before its fields are set
  | m => (m.command.map Command.toBytes).getD []

/-- The size of the response the function has room for. -/
def respSize : Message → Nat
  | getCapsetInfo _ => 40
  | getCapset _ _ room => 24 + room
  | _ => 24

def submission (m : Message) : Submission := ⟨m.bytes, some m.respSize⟩

/-! ## What the host reads -/

/-- The fields of a header, one after the other. -/
theorem encode_hdr (h : CtrlHdr) : CtrlHdr.codec.encode h =
    Codec.word.encode h.type.code ++ (Codec.word.encode h.flags ++ (Codec.long.encode h.fenceId ++
      (Codec.word.encode h.ctxId ++ ([h.ringIdx] ++ (Codec.byte.array 3).encode h.padding)))) := rfl

theorem submit3DCommand_eq (fresh : Nat → UInt8) (ctx : UInt32) (data : List UInt8) :
    submit3DCommand fresh ctx.toNat data = CtrlHdr.codec.encode (submitHdr fresh ctx) ++
      (Codec.word.encode (.ofNat data.length) ++
        (Codec.word.encode (.ofNat (wordAt fresh 28)) ++ data)) := by
  obtain ⟨hdr, hhdr⟩ : ∃ hdr, hdr = poke (poke (poke fresh 0 (wordBytes 0x207)) 16
    (wordBytes ctx.toNat)) 24 (wordBytes (data.length % u32)) := ⟨_, rfl⟩
  have hbelow : ∀ b n, b + n ≤ 32 → peek (poke hdr 32 data) b n = peek hdr b n :=
    fun b n h => peek_poke_apart (.inr h)
  -- what is not set is as it was
  have hfresh : ∀ b n, 4 ≤ b ∧ b + n ≤ 16 ∨ 20 ≤ b ∧ b + n ≤ 24 ∨ 28 ≤ b →
      peek hdr b n = peek fresh b n := by
    intro b n h
    rw [hhdr, peek_poke_word_apart (by omega), peek_poke_word_apart (by omega),
      peek_poke_word_apart (by omega)]
  have htype : peek hdr 0 4 = Codec.word.encode CtrlType.submit3D.code := by
    rw [hhdr, peek_poke_word_apart (by omega), peek_poke_word_apart (by omega), peek_poke_word,
      encode_word]
    rfl
  have hctx : peek hdr 16 4 = Codec.word.encode ctx := by
    rw [hhdr, peek_poke_word_apart (by omega), peek_poke_word, encode_word]
  have hsize : peek hdr 24 4 = Codec.word.encode (.ofNat data.length) := by
    rw [hhdr, peek_poke_word, encode_word_ofNat]
    exact wordBytes_mod _
  rw [submit3DCommand, ← hhdr, show cmdSubmitSize = 32 from rfl, peek_command, peek_poke_same,
    hbelow 0 4 (by omega), hbelow 4 4 (by omega), hbelow 8 8 (by omega), hbelow 16 4 (by omega),
    hbelow 20 1 (by omega), hbelow 21 3 (by omega), hbelow 24 4 (by omega), hbelow 28 4 (by omega),
    htype, hctx, hsize, hfresh 4 4 (by omega), hfresh 8 8 (by omega), hfresh 20 1 (by omega),
    hfresh 21 3 (by omega), hfresh 28 4 (by omega), encode_hdr]
  simp only [submitHdr, encode_wordAt, encode_longAt, List.append_assoc]
  rfl

theorem attachBackingCommand_eq (fresh : Nat → UInt8) (id nr : UInt32) (d : BackingMemory) :
    attachBackingCommand fresh id.toNat nr.toNat d = CtrlHdr.codec.encode (attachHdr fresh) ++
      (Codec.word.encode id ++ (Codec.word.encode nr ++
        ((d.secondPass nr.toNat 0).map MemEntry.ofSegment).flatMap MemEntry.codec.encode)) := by
  obtain ⟨cmd, hcmd⟩ : ∃ cmd, cmd = poke (poke (poke (pokeLong (poke (poke fresh 0
    (wordBytes 0x106)) 4 (wordBytes 0)) 8 0) 16 (wordBytes 0)) 24 (wordBytes id.toNat)) 28
      (wordBytes nr.toNat) := ⟨_, rfl⟩
  have hentries : peek (storeEntries cmd 32 (d.secondPass nr.toNat 0)) 32 (nr.toNat * 16) =
      ((d.secondPass nr.toNat 0).map MemEntry.ofSegment).flatMap MemEntry.codec.encode := by
    rw [← peek_storeEntries cmd 32, BackingMemory.length_secondPass]
  have hbelow : ∀ b n, b + n ≤ 32 →
      peek (storeEntries cmd 32 (d.secondPass nr.toNat 0)) b n = peek cmd b n :=
    fun b n h => peek_storeEntries_below h
  have htype : peek cmd 0 4 = Codec.word.encode CtrlType.resourceAttachBacking.code := by
    rw [hcmd, peek_poke_word_apart (by omega), peek_poke_word_apart (by omega),
      peek_poke_word_apart (by omega), peek_pokeLong_apart (by omega),
      peek_poke_word_apart (by omega), peek_poke_word, encode_word]
    rfl
  have hflags : peek cmd 4 4 = Codec.word.encode 0 := by
    rw [hcmd, peek_poke_word_apart (by omega), peek_poke_word_apart (by omega),
      peek_poke_word_apart (by omega), peek_pokeLong_apart (by omega), peek_poke_word, encode_word]
    rfl
  have hfence : peek cmd 8 8 = Codec.long.encode 0 := by
    rw [hcmd, peek_poke_word_apart (by omega), peek_poke_word_apart (by omega),
      peek_poke_word_apart (by omega), peek_pokeLong, encode_long]
    rfl
  have hctx : peek cmd 16 4 = Codec.word.encode 0 := by
    rw [hcmd, peek_poke_word_apart (by omega), peek_poke_word_apart (by omega), peek_poke_word,
      encode_word]
    rfl
  have hid : peek cmd 24 4 = Codec.word.encode id := by
    rw [hcmd, peek_poke_word_apart (by omega), peek_poke_word, encode_word]
  have hnr : peek cmd 28 4 = Codec.word.encode nr := by
    rw [hcmd, peek_poke_word, encode_word]
  -- the last four bytes of the header are as they were
  have hfresh : ∀ b n, 20 ≤ b ∧ b + n ≤ 24 → peek cmd b n = peek fresh b n := by
    intro b n h
    rw [hcmd, peek_poke_word_apart (by omega), peek_poke_word_apart (by omega),
      peek_poke_word_apart (by omega), peek_pokeLong_apart (by omega),
      peek_poke_word_apart (by omega), peek_poke_word_apart (by omega)]
  rw [attachBackingCommand, ← hcmd, show attachBackingSize = 32 from rfl,
    show memEntrySize = 16 from rfl, peek_command,
    hentries, hbelow 0 4 (by omega), hbelow 4 4 (by omega), hbelow 8 8 (by omega),
    hbelow 16 4 (by omega), hbelow 20 1 (by omega), hbelow 21 3 (by omega), hbelow 24 4 (by omega),
    hbelow 28 4 (by omega), htype, hflags, hfence, hctx, hid, hnr, hfresh 20 1 (by omega),
    hfresh 21 3 (by omega), encode_hdr]
  simp only [List.append_assoc]
  rfl

/-- The bytes are the command, and what a length of 32 bits leaves out of it. -/
theorem bytes_begin {m : Message} {c : Command} (h : m.command = some c) :
    c.toBytes <+: m.bytes := by
  cases m with
  | attachBacking fresh id nrEntries memory =>
      cases h
      have hbytes := attachBackingCommand_eq fresh id nrEntries memory
      refine ⟨[], ?_⟩
      rw [Command.toBytes_eq, List.append_nil]
      show CtrlHdr.codec.encode _ ++ ResourceAttachBacking.codec.encode _ = _
      rw [ResourceAttachBacking.encode_eq, bytes, hbytes]
  | executeCommands fresh ctx commands =>
      cases h
      have hbytes := submit3DCommand_eq fresh ctx commands
      refine ⟨commands.drop (commands.length % 2 ^ 32), ?_⟩
      rw [Command.toBytes_eq]
      show CtrlHdr.codec.encode _ ++ CmdSubmit.codec.encode _ ++ _ = _
      rw [CmdSubmit.encode_eq, bytes, hbytes]
      simp only [List.append_assoc, List.take_append_drop]
  | mapGuestMemory id => cases h
  | flushCommands => cases h
  | _ =>
      cases h
      exact List.prefix_rfl

/-- `mapGuestMemory` leaves the entry out of its command. -/
theorem bytes_mapGuestMemory (id : UInt32) : (mapGuestMemory id).bytes =
    (Command.zeroed .resourceAttachBacking 0
      (⟨id, 1, .replicate 1 ⟨0, 0, 0⟩⟩ : ResourceAttachBacking)).toBytes.take 32 := rfl

/-- `flushCommands` leaves out all but the header. -/
theorem bytes_flushCommands : flushCommands.bytes =
    (Command.zeroed .ctxDetachResource 0 (⟨0, 0⟩ : ResourceOnly)).toBytes.take 24 := rfl

/-- **What the host reads** in a message is the command that was meant, with all that was
put into it; it reads nothing in the messages of `flushCommands` and `mapGuestMemory`. -/
theorem ofBytes_bytes (m : Message) : Command.ofBytes m.bytes = m.command := by
  cases hc : m.command with
  | some c => exact Command.ofBytes_eq_some.mpr (bytes_begin hc)
  | none =>
      cases m with
      | mapGuestMemory id =>
          rw [bytes_mapGuestMemory]
          apply Command.ofBytes_take
          rw [Command.length_toBytes]
          show 32 < 24 + (8 + 1 * 16)
          decide
      | flushCommands =>
          rw [bytes_flushCommands]
          apply Command.ofBytes_take
          rw [Command.length_toBytes]
          show 24 < 24 + 8
          decide
      | _ => cases hc

end Message

end VirtioGpu
end VMQemuVGA
