import VMQemuVGA.Gpu.Scatter
import VMQemuVGA.UserClient.Submit3D

/-! # What shows through in a command

`executeCommands`, `attachBacking` and `attachBackingUser` build their commands in
memory fresh from `IOMalloc`, and set some of its bytes. The others go to the device
as they were found. Whatever goes to the device depends on them, so these functions
say nothing but what they were given only where they send nothing. -/

namespace VMQemuVGA

/-! ## The commands as writes -/

/-- The writes of `executeCommands`. -/
def submit3DWrites (ctx : Nat) (data : List UInt8) : List (Nat × List UInt8) :=
  [(0, wordBytes 0x207), (16, wordBytes ctx), (24, wordBytes (data.length % u32)),
    (cmdSubmitSize, data)]

/-- The bytes it leaves: flags, fence and ring index of the header, and padding. -/
def Submit3DResidue (b : Nat) : Prop := (4 ≤ b ∧ b < 16) ∨ (20 ≤ b ∧ b < 24) ∨ (28 ≤ b ∧ b < 32)

/-- The writes of the second pass. -/
def entryWrites : Nat → List MemEntry → List (Nat × List UInt8)
  | _, [] => []
  | a, e :: es =>
      (a, wordBytes e.addr) :: (a + 4, wordBytes (e.addr >>> 32)) ::
        (a + 8, wordBytes e.length) :: (a + 12, wordBytes 0) :: entryWrites (a + memEntrySize) es

/-- The writes of both functions that attach. -/
def attachBackingWrites (id nr : Nat) (d : BackingMemory) : List (Nat × List UInt8) :=
  [(0, wordBytes 0x106), (4, wordBytes 0), (8, wordBytes 0), (12, wordBytes (0 >>> 32)),
    (16, wordBytes 0), (24, wordBytes id), (28, wordBytes nr)] ++
      entryWrites attachBackingSize (d.secondPass nr 0)

/-- The bytes they leave: the ring index of the header and its padding. -/
def AttachResidue (b : Nat) : Prop := 20 ≤ b ∧ b < 24

section Commands

variable {fresh fresh' : Nat → UInt8} {ctx id nr a b : Nat} {data : List UInt8}
  {d : BackingMemory} {es : List MemEntry}

theorem submit3DCommand_eq_peek :
    submit3DCommand fresh ctx data =
      peek (pokeAll fresh (submit3DWrites ctx data)) 0 (cmdSubmitSize + data.length) := rfl

theorem length_wordBytes (w : Nat) : (wordBytes w).length = 4 := rfl

theorem reaches_submit3DWrites (hb : b < cmdSubmitSize + data.length) :
    Reaches (submit3DWrites ctx data) b ↔ ¬ Submit3DResidue b := by
  have hsize : cmdSubmitSize = 32 := rfl
  simp only [Reaches, submit3DWrites, Submit3DResidue, List.mem_cons, List.not_mem_nil, or_false,
    exists_eq_or_imp, exists_eq_left, Extent.Has, length_wordBytes]
  omega

/-- Exactly the bytes left alone show through. -/
theorem submit3DCommand_eq_iff :
    submit3DCommand fresh ctx data = submit3DCommand fresh' ctx data ↔
      ∀ b, Submit3DResidue b → fresh b = fresh' b := by
  have hsize : cmdSubmitSize = 32 := rfl
  rw [submit3DCommand_eq_peek, submit3DCommand_eq_peek, peek_pokeAll_eq_iff]
  constructor
  · intro h b hres
    have hb : b < cmdSubmitSize + data.length := by
      unfold Submit3DResidue at hres
      omega
    exact h b hb fun hreach => (reaches_submit3DWrites hb).mp hreach hres
  · intro h b hb hnot
    exact h b (not_not.mp fun hres => hnot ((reaches_submit3DWrites hb).mpr hres))

theorem storeEntries_eq_pokeAll (mem : Nat → UInt8) (a : Nat) (es : List MemEntry) :
    storeEntries mem a es = pokeAll mem (entryWrites a es) := by
  induction es generalizing mem a with
  | nil => rfl
  | cons e es ih => exact ih _ _

/-- The second pass leaves nothing of its entries out. -/
theorem reaches_entryWrites :
    Reaches (entryWrites a es) b ↔ a ≤ b ∧ b < a + es.length * memEntrySize := by
  induction es generalizing a with
  | nil =>
      simp only [Reaches, entryWrites, List.not_mem_nil, false_and, exists_false, List.length_nil,
        false_iff]
      omega
  | cons e es ih =>
      have hsize : memEntrySize = 16 := rfl
      -- the four words of an entry leave no gap
      have hrest : Reaches (entryWrites a (e :: es)) b ↔
          (a ≤ b ∧ b < a + memEntrySize) ∨ Reaches (entryWrites (a + memEntrySize) es) b := by
        simp only [Reaches, entryWrites, List.mem_cons, or_and_right, exists_or, exists_eq_left,
          Extent.Has, length_wordBytes, ← or_assoc]
        refine or_congr_left ?_
        omega
      rw [hrest, ih, List.length_cons, Nat.succ_mul]
      omega

theorem attachBackingCommand_eq_peek :
    attachBackingCommand fresh id nr d =
      peek (pokeAll fresh (attachBackingWrites id nr d)) 0
        (attachBackingSize + nr * memEntrySize) := by
  rw [attachBackingWrites, pokeAll_append, ← storeEntries_eq_pokeAll]
  rfl

theorem reaches_attachBackingWrites (hb : b < attachBackingSize + nr * memEntrySize) :
    Reaches (attachBackingWrites id nr d) b ↔ ¬ AttachResidue b := by
  have hsize : attachBackingSize = 32 := rfl
  rw [attachBackingWrites, reaches_append, reaches_entryWrites, d.length_secondPass]
  simp only [Reaches, AttachResidue, List.mem_cons, List.not_mem_nil, or_false, exists_eq_or_imp,
    exists_eq_left, Extent.Has, length_wordBytes]
  omega

theorem attachBackingCommand_eq_iff :
    attachBackingCommand fresh id nr d = attachBackingCommand fresh' id nr d ↔
      ∀ b, AttachResidue b → fresh b = fresh' b := by
  have hsize : attachBackingSize = 32 := rfl
  rw [attachBackingCommand_eq_peek, attachBackingCommand_eq_peek, peek_pokeAll_eq_iff]
  constructor
  · intro h b hres
    have hb : b < attachBackingSize + nr * memEntrySize := by
      unfold AttachResidue at hres
      omega
    exact h b hb fun hreach => (reaches_attachBackingWrites hb).mp hreach hres
  · intro h b hb hnot
    exact h b (not_not.mp fun hres => hnot ((reaches_attachBackingWrites hb).mpr hres))

end Commands

/-! ## What is sent -/

/-- `submitCommand` gets as far as the available ring with a command of this size. -/
def QueueEnv.Publishes (q : QueueEnv) (size : Nat) : Prop :=
  q.initialized = true ∧ q.descriptors = true ∧ q.respPhys ≠ 0 ∧
    ∃ buf, q.buffer size = some buf ∧ buf.phys ≠ 0

section Queue

variable {q : QueueEnv} {cmd : List UInt8}

theorem QueueEnv.sent_of_publishes (hhdr : ctrlHdrSize ≤ cmd.length)
    (h : q.Publishes cmd.length) : (q.submitCommand cmd).2 = [cmd] := by
  obtain ⟨hinit, hdesc, hresp, buf, hbuf, hphys⟩ := h
  have hlt := lt_of_buffer hbuf hphys
  simp only [submitCommand, Nat.not_lt_of_le hhdr, hinit, hdesc, hbuf, hphys, hresp, or_self,
    peek_buffer buf.bytes hlt, reduceCtorEq, if_false]
  split_ifs
  · rfl
  · cases q.answered <;> rfl

theorem QueueEnv.nothing_sent (h : ¬ q.Publishes cmd.length) : (q.submitCommand cmd).2 = [] := by
  cases hbuf : q.buffer cmd.length with
  | none =>
      simp only [submitCommand, hbuf]
      split_ifs <;> rfl
  | some buf =>
      simp only [submitCommand, hbuf]
      split_ifs with _ hinit hdesc hphys
      · rfl
      · rfl
      · rfl
      · rfl
      all_goals
        exact absurd ⟨Bool.eq_true_of_not_eq_false hinit, Bool.eq_true_of_not_eq_false hdesc,
          (not_or.mp hphys).2, buf, hbuf, (not_or.mp hphys).1⟩ h

end Queue

/-! ## The three functions -/

/-- A call of one of the three, with what it finds. -/
inductive Request where
  | executeCommands (env : SubmitEnv) (ctx : Nat) (commands : List UInt8)
  | attachBacking (env : AttachEnv) (fuel id : Nat) (memory : Option BackingMemory)
  | attachBackingUser (env : UserAttachEnv) (fuel id addr len : Nat)

namespace Request

/-- The commands on the ring when the memory that `IOMalloc` gives holds `fresh`. -/
def wire (r : Request) (fresh : Nat → UInt8) : List (List UInt8) :=
  match r with
  | executeCommands env ctx commands =>
      (SubmitEnv.executeCommands { env with malloc := env.malloc.map fun _ => fresh } ctx
        commands).2
  | attachBacking env fuel id memory =>
      ((AttachEnv.attachBacking { env with malloc := env.malloc.map fun _ => fresh } fuel id
        memory).map Prod.snd).getD []
  | attachBackingUser env fuel id addr len =>
      ((UserAttachEnv.attachBackingUser { env with malloc := env.malloc.map fun _ => fresh } fuel id
        addr len).map Prod.snd).getD []

/-- The walk over the segments ends, and there are some. -/
def Walks (d : BackingMemory) (fuel : Nat) : Prop :=
  d.prepareRet = .success ∧ totalLength d.present < u64 ∧ d.present.length < fuel ∧
    d.present.length % u32 ≠ 0

/-- The size of the command that attaches. -/
def attachSize (d : BackingMemory) : Nat :=
  attachBackingSize + d.present.length % u32 * memEntrySize

/-- Nothing is refused or missing before the chain is on the available ring. -/
def Publishes : Request → Prop
  | executeCommands env _ commands =>
      env.supports3D = true ∧ env.commandMap = true ∧ env.commandData = true ∧
        commands.length ≠ 0 ∧ env.malloc.isSome ∧
          env.queue.Publishes (cmdSubmitSize + commands.length)
  | attachBacking env fuel _ memory =>
      env.ready = true ∧ env.malloc.isSome ∧
        ∃ d, memory = some d ∧ Walks d fuel ∧ env.queue.Publishes (attachSize d)
  | attachBackingUser env fuel id addr len =>
      env.gpu = true ∧ ¬ (id = 0 ∨ addr = 0 ∨ len = 0) ∧ env.attached = false ∧ env.malloc.isSome ∧
        ∃ d, env.withAddressRange addr len = some d ∧ Walks d fuel ∧
          totalLength d.present = d.length ∧ env.queue.Publishes (attachSize d)

/-- The bytes of fresh memory that a command of the call carries. -/
def Residue : Request → Nat → Prop
  | executeCommands .. => Submit3DResidue
  | attachBacking .. | attachBackingUser .. => AttachResidue

variable {fresh : Nat → UInt8} {fuel : Nat} {d : BackingMemory}

theorem firstPass_of_walks (h : Walks d fuel) :
    d.firstPass fuel 0 (0, 0) = some (d.present.length % u32, totalLength d.present) := by
  rw [BackingMemory.firstPass_eq, if_pos ⟨h.2.1, h.2.2.1⟩]

/-- A first pass that ends and finds segments is such a walk. -/
theorem walks_of_firstPass {nr total : Nat} (hprep : d.prepareRet = .success)
    (hpass : d.firstPass fuel 0 (0, 0) = some (nr, total)) (hnr : nr ≠ 0) :
    Walks d fuel ∧ nr = d.present.length % u32 ∧ total = totalLength d.present := by
  rw [BackingMemory.firstPass_eq] at hpass
  split_ifs at hpass with hends
  obtain ⟨rfl, rfl⟩ := Prod.mk.inj (Option.some.inj hpass)
  exact ⟨⟨hprep, hends.1, hends.2, hnr⟩, rfl, rfl⟩

/-- Segments are not empty, so neither are several of them. -/
theorem totalLength_ne_zero (h : Walks d fuel) : totalLength d.present ≠ 0 := by
  intro hzero
  have hle := d.length_present_le
  rw [hzero, Nat.le_zero] at hle
  exact h.2.2.2 (by rw [hle]; rfl)

theorem ctrlHdrSize_le_command (fresh : Nat → UInt8) (id : Nat) (d : BackingMemory) :
    ctrlHdrSize ≤ (d.command fresh id).length := by
  rw [BackingMemory.command, BackingMemory.length_attachBackingCommand]
  exact Nat.le_add_right_of_le (by decide)

theorem length_command (fresh : Nat → UInt8) (id : Nat) (d : BackingMemory) :
    (d.command fresh id).length = attachSize d := BackingMemory.length_attachBackingCommand

theorem sendAndKeep_snd (env : UserAttachEnv) (cmd : List UInt8) :
    (env.sendAndKeep cmd).2 = (env.queue.submitCommand cmd).2 := by
  simp only [UserAttachEnv.sendAndKeep]
  split_ifs <;> rfl

/-- A call that publishes sends one command, and all its bytes but the residue are
the same whatever the memory held. -/
theorem wire_of_publishes (r : Request) (h : r.Publishes) :
    ∃ cmd : (Nat → UInt8) → List UInt8, (∀ fresh, r.wire fresh = [cmd fresh]) ∧
      ∀ fresh fresh', cmd fresh = cmd fresh' ↔ ∀ b, r.Residue b → fresh b = fresh' b := by
  cases r with
  | executeCommands env ctx commands =>
      obtain ⟨h3D, hmap, hdata, hlen, hmalloc, hqueue⟩ := h
      obtain ⟨mem, hmem⟩ := Option.isSome_iff_exists.mp hmalloc
      refine ⟨fun fresh => submit3DCommand fresh ctx commands, fun fresh => ?_,
        fun _ _ => submit3DCommand_eq_iff⟩
      simp only [wire, SubmitEnv.executeCommands, h3D, hmap, hdata, hlen, hmem, Option.map_some,
        reduceCtorEq, or_self, if_false]
      refine QueueEnv.sent_of_publishes ?_ (length_submit3DCommand.symm ▸ hqueue)
      rw [length_submit3DCommand]
      exact Nat.le_add_right_of_le (by decide)
  | attachBacking env fuel id memory =>
      obtain ⟨hready, hmalloc, d, rfl, hwalks, hqueue⟩ := h
      obtain ⟨mem, hmem⟩ := Option.isSome_iff_exists.mp hmalloc
      refine ⟨fun fresh => d.command fresh id, fun fresh => ?_,
        fun _ _ => attachBackingCommand_eq_iff⟩
      simp only [wire, AttachEnv.attachBacking, hready, hwalks.1, firstPass_of_walks hwalks, hmem,
        Option.map_some, Option.getD_some, hwalks.2.2.2, totalLength_ne_zero hwalks, ne_eq,
        not_true_eq_false, reduceCtorEq, or_self, if_false]
      exact QueueEnv.sent_of_publishes (ctrlHdrSize_le_command fresh id d)
        (length_command fresh id d ▸ hqueue)
  | attachBackingUser env fuel id addr len =>
      obtain ⟨hgpu, hargs, hattached, hmalloc, d, hd, hwalks, htotal, hqueue⟩ := h
      obtain ⟨mem, hmem⟩ := Option.isSome_iff_exists.mp hmalloc
      refine ⟨fun fresh => d.command fresh id, fun fresh => ?_,
        fun _ _ => attachBackingCommand_eq_iff⟩
      simp only [wire, UserAttachEnv.attachBackingUser, hgpu, if_neg hargs, hattached, hd,
        hwalks.1, firstPass_of_walks hwalks, hmem, Option.map_some, Option.getD_some,
        hwalks.2.2.2, htotal, ne_eq, not_true_eq_false, reduceCtorEq, or_self, if_false,
        sendAndKeep_snd]
      exact QueueEnv.sent_of_publishes (ctrlHdrSize_le_command fresh id d)
        (length_command fresh id d ▸ hqueue)

section Silent

variable {id ctx : Nat}

theorem executeCommands_silent {env : SubmitEnv} {commands : List UInt8}
    (h : ¬ (executeCommands env ctx commands).Publishes) :
    (executeCommands env ctx commands).wire fresh = [] := by
  simp only [wire, SubmitEnv.executeCommands]
  split_ifs with h3D hmap hdata
  · rfl
  · rfl
  · rfl
  cases hmem : env.malloc with
  | none => rfl
  | some mem =>
      refine QueueEnv.nothing_sent fun hqueue => h ?_
      rw [length_submit3DCommand] at hqueue
      obtain ⟨hdata, hlen⟩ := not_or.mp hdata
      exact ⟨Bool.eq_true_of_not_eq_false h3D, Bool.eq_true_of_not_eq_false hmap,
        Bool.eq_true_of_not_eq_false hdata, hlen, by rw [hmem]; rfl, hqueue⟩

theorem attachBacking_silent {env : AttachEnv} {memory : Option BackingMemory}
    (h : ¬ (attachBacking env fuel id memory).Publishes) :
    (attachBacking env fuel id memory).wire fresh = [] := by
  simp only [wire, AttachEnv.attachBacking]
  split_ifs with hready
  · rfl
  cases memory with
  | none => rfl
  | some d =>
      dsimp only
      split_ifs with hprep
      · rfl
      cases hpass : d.firstPass fuel 0 (0, 0) with
      | none => rfl
      | some counted =>
          obtain ⟨nr, total⟩ := counted
          simp only [Option.map_some, Option.getD_some]
          split_ifs with hempty
          · rfl
          cases hmem : env.malloc with
          | none => rfl
          | some mem =>
              obtain ⟨hwalks, rfl, rfl⟩ :=
                walks_of_firstPass (not_not.mp hprep) hpass (not_or.mp hempty).1
              refine QueueEnv.nothing_sent fun hqueue => h ?_
              rw [BackingMemory.length_attachBackingCommand] at hqueue
              exact ⟨Bool.eq_true_of_not_eq_false hready, by rw [hmem]; rfl, d, rfl, hwalks, hqueue⟩

theorem attachBackingUser_silent {env : UserAttachEnv} {addr len : Nat}
    (h : ¬ (attachBackingUser env fuel id addr len).Publishes) :
    (attachBackingUser env fuel id addr len).wire fresh = [] := by
  simp only [wire, UserAttachEnv.attachBackingUser]
  split_ifs with hgpu hargs hattached
  · rfl
  · rfl
  · rfl
  cases hd : env.withAddressRange addr len with
  | none => rfl
  | some d =>
      dsimp only
      split_ifs with hprep
      · rfl
      cases hpass : d.firstPass fuel 0 (0, 0) with
      | none => rfl
      | some counted =>
          obtain ⟨nr, total⟩ := counted
          simp only [Option.map_some, Option.getD_some]
          split_ifs with hempty
          · rfl
          cases hmem : env.malloc with
          | none => rfl
          | some mem =>
              obtain ⟨hnr, htotal⟩ := not_or.mp hempty
              obtain ⟨hwalks, rfl, rfl⟩ := walks_of_firstPass (not_not.mp hprep) hpass hnr
              -- with everything else there, it is the queue that refuses
              refine (sendAndKeep_snd _ _).trans (QueueEnv.nothing_sent fun hqueue => h ?_)
              rw [BackingMemory.length_attachBackingCommand] at hqueue
              exact ⟨Bool.eq_true_of_not_eq_false hgpu, hargs,
                Bool.eq_false_of_not_eq_true hattached, by rw [hmem]; rfl, d, hd, hwalks,
                not_not.mp htotal, hqueue⟩

end Silent

/-- Any other call sends nothing. -/
theorem wire_of_not_publishes (r : Request) (h : ¬ r.Publishes) (fresh : Nat → UInt8) :
    r.wire fresh = [] := by
  cases r with
  | executeCommands => exact executeCommands_silent h
  | attachBacking => exact attachBacking_silent h
  | attachBackingUser => exact attachBackingUser_silent h

/-- The ring index of the header is left alone by all three. -/
theorem residue_20 (r : Request) : r.Residue 20 := by
  cases r with
  | executeCommands => exact .inr (.inl ⟨by decide, by decide⟩)
  | attachBacking | attachBackingUser => exact ⟨by decide, by decide⟩

/-- **What the device reads is a function of the arguments exactly for the calls that
publish nothing.** -/
theorem wire_independent_iff (r : Request) :
    (∀ fresh fresh', r.wire fresh = r.wire fresh') ↔ ¬ r.Publishes := by
  constructor
  · intro h hpub
    obtain ⟨cmd, hwire, hcmd⟩ := r.wire_of_publishes hpub
    -- memory of zeros and memory of ones
    have heq := h (fun _ => 0) (fun _ => 1)
    rw [hwire, hwire] at heq
    have h20 := (hcmd _ _).mp (List.singleton_inj.mp heq) 20 r.residue_20
    exact absurd h20 (by decide)
  · intro h fresh fresh'
    rw [r.wire_of_not_publishes h, r.wire_of_not_publishes h]

/-- One byte of 3D commands, with everything there: the header carries old memory. -/
theorem submit3D_shows_memory :
    ¬ ∀ fresh fresh', (executeCommands .granted 1 [0]).wire fresh =
      (executeCommands .granted 1 [0]).wire fresh' := by
  intro h
  have hpub : (executeCommands .granted 1 [0]).Publishes :=
    ⟨rfl, rfl, rfl, by decide, rfl, rfl, rfl, by decide, _, if_pos (by decide), by decide⟩
  obtain ⟨cmd, hwire, hcmd⟩ := wire_of_publishes _ hpub
  have heq := h (fun _ => 0) (fun _ => 1)
  rw [hwire, hwire] at heq
  have h4 := (hcmd _ _).mp (List.singleton_inj.mp heq) 4 (.inl ⟨by decide, by decide⟩)
  exact absurd h4 (by decide)

end Request
end VMQemuVGA
