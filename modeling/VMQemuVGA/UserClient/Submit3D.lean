import VMQemuVGA.UserClient.Legacy
import VMQemuVGA.Virtqueue.Wire

/-! # Selector 0x6008 down to the wire

A structure input comes inline or as a memory descriptor. Its bytes go to the device in
one `SUBMIT_3D`, through the buffer of the queue or, if they are many, through one of
their own. -/

namespace VMQemuVGA

/-! ## The environment -/

/-- What the selector finds on its way. -/
structure SubmitEnv where
  /-- `m_gpu_device` -/
  gpu : Bool
  supports3D : Bool
  /-- `prepare` and `map` of the caller's descriptor, and the map's address -/
  prepare : IOReturn
  map : Bool
  address : Bool
  /-- `IOBufferMemoryDescriptor::withBytes`, its `map` and the map's address -/
  withBytes : Bool
  commandMap : Bool
  commandData : Bool
  /-- `IOMalloc`, by what is in the memory -/
  malloc : Option (Nat → UInt8)
  queue : QueueEnv

/-- Everything is there and granted. -/
def SubmitEnv.granted : SubmitEnv where
  gpu := true
  supports3D := true
  prepare := .success
  map := true
  address := true
  withBytes := true
  commandMap := true
  commandData := true
  malloc := some fun _ => 0
  queue := .granted

/-- The caller's descriptor can be read. -/
def SubmitEnv.Maps (env : SubmitEnv) : Prop :=
  env.prepare = .success ∧ env.map = true ∧ env.address = true

/-! ## From the bytes to the wire -/

/-- `sizeof(virtio_gpu_cmd_submit)`. -/
def cmdSubmitSize : Nat := 32

/-- The command in memory that holds `fresh`; only three fields of the header are set. -/
def submit3DCommand (fresh : Nat → UInt8) (ctx : Nat) (data : List UInt8) : List UInt8 :=
  let header := poke (poke (poke fresh 0 (wordBytes 0x207)) 16 (wordBytes ctx)) 24
    (wordBytes (data.length % u32))
  peek (poke header cmdSubmitSize data) 0 (cmdSubmitSize + data.length)

namespace SubmitEnv

/-- `executeCommands`; `commands` is what the descriptor holds. -/
def executeCommands (env : SubmitEnv) (ctx : Nat) (commands : List UInt8) :
    IOReturn × List (List UInt8) :=
  if env.supports3D = false then (.badArgument, [])
  else if env.commandMap = false then (.vmError, [])
  else if env.commandData = false ∨ commands.length = 0 then (.badArgument, [])
  else
    match env.malloc with
    | none => (.noMemory, [])
    | some fresh => env.queue.submitCommand (submit3DCommand fresh ctx commands)

/-- `submitVirglCommandsEx`; `commands` is `none` for a null pointer. -/
def submitVirglCommandsEx (env : SubmitEnv) (ctx : Nat) (commands : Option (Nat → UInt8))
    (size : Nat) : IOReturn × List (List UInt8) :=
  if env.gpu = false then (.notReady, [])
  else
    match commands with
    | none => (.badArgument, [])
    | some commands =>
        if size = 0 then (.badArgument, [])
        else if env.supports3D = false then (.unsupported, [])
        else if size > UserClient.maxCommandBytes then (.badArgument, [])
        else if env.withBytes = false then (.noMemory, [])
        else env.executeCommands ctx (peek commands 0 size)

end SubmitEnv

/-! ## The selector -/

structure InputDescriptor where
  length : Nat
  bytes : Nat → UInt8

/-- The structure input in `IOExternalMethodArguments`. -/
structure StructureInput where
  pointer : Option (Nat → UInt8)
  size : Nat
  descriptor : Option InputDescriptor

namespace SubmitEnv

/-- Selector 0x6008. -/
def externalMethod6008 (env : SubmitEnv) (scalarInput : List Nat) (input : StructureInput) :
    IOReturn × List (List UInt8) :=
  if env.gpu = false then (.notReady, [])
  else
    match scalarInput with
    | [] => (.badArgument, [])
    | scalar :: _ =>
        if input.pointer.isSome ∧ input.size > 0 then
          env.submitVirglCommandsEx (scalar % u32) input.pointer (input.size % u32)
        else
          match input.descriptor with
          | none => (.badArgument, [])
          | some d =>
              -- a declared size that disagrees is only logged
              let dsize := d.length % u32
              if env.prepare ≠ .success then (env.prepare, [])
              else if env.map = false then (.vmError, [])
              else
                let dmap := if env.address then some d.bytes else none
                env.submitVirglCommandsEx (scalar % u32) dmap dsize

end SubmitEnv

/-- A structure input in one of its two forms. The size of an inline input is a
`uint32_t`; beside a descriptor, any size may be declared. -/
inductive Submit3DInput where
  | inline (bytes : List UInt8) (h : bytes.length < u32)
  | descriptor (d : InputDescriptor) (declared : Nat)

namespace Submit3DInput

def toStructureInput : Submit3DInput → StructureInput
  | inline bytes _ => ⟨some fun i => bytes.getD i 0, bytes.length, none⟩
  | descriptor d declared => ⟨none, declared, some d⟩

/-- All the bytes of the input. -/
def bytes : Submit3DInput → List UInt8
  | inline bytes _ => bytes
  | descriptor d _ => peek d.bytes 0 d.length

/-- What a call with this input returns and submits. -/
def run (env : SubmitEnv) (scalar : Nat) (input : Submit3DInput) : IOReturn × List (List UInt8) :=
  env.externalMethod6008 [scalar] input.toStructureInput

end Submit3DInput

/-! ## What it should submit -/

/-- The command on the wire is a `SUBMIT_3D` to a context with all of the data. -/
structure IsSubmit3D (wire : List UInt8) (ctx : Nat) (data : List UInt8) : Prop where
  type : wordAt (fun i => wire.getD i 0) 0 = 0x207
  ctx : wordAt (fun i => wire.getD i 0) 16 = ctx
  size : wordAt (fun i => wire.getD i 0) 24 = data.length
  payload : wire.drop cmdSubmitSize = data

/-- One command with all of the data is submitted, or none and there is an error. -/
def SentWhole (ctx : Nat) (data : List UInt8) (r : IOReturn × List (List UInt8)) : Prop :=
  (∃ wire, r.2 = [wire] ∧ IsSubmit3D wire ctx data) ∨ Rejected r

/-- Whatever the environment, all of the input is submitted in one command or nothing is;
what is too large is rejected; and the form does not matter. -/
structure SubmitsWhole (scalar : Nat) (input : Submit3DInput) : Prop where
  whole : ∀ env, SentWhole scalar input.bytes (input.run env scalar)
  capped : UserClient.maxCommandBytes < input.bytes.length → ∀ env,
    Rejected (input.run env scalar)
  same : ∀ (h : input.bytes.length < u32) env, env.Maps →
    input.run env scalar = (Submit3DInput.inline input.bytes h).run env scalar

/-- The length and the context fit 32 bits; or what is left of the length is refused. -/
def FitsSelector (scalar : Nat) (input : Submit3DInput) : Prop :=
  (input.bytes.length < u32 ∧ scalar < u32) ∨ input.bytes.length % u32 = 0 ∨
    UserClient.maxCommandBytes < input.bytes.length % u32

/-! ## The command -/

section Command

variable {fresh : Nat → UInt8} {ctx : Nat} {data : List UInt8}

@[simp] theorem length_submit3DCommand :
    (submit3DCommand fresh ctx data).length = cmdSubmitSize + data.length := length_peek

/-- The payload begins behind the command's own fields. -/
theorem apart_payload {a n : Nat} (h : a + n ≤ cmdSubmitSize) :
    Extent.Apart ⟨cmdSubmitSize, data.length⟩ ⟨a, n⟩ := .inr h

theorem wordAt_submit3DCommand {a : Nat} (h : a + 4 ≤ cmdSubmitSize) :
    wordAt (fun i => (submit3DCommand fresh ctx data).getD i 0) a =
      wordAt (poke (poke (poke fresh 0 (wordBytes 0x207)) 16 (wordBytes ctx)) 24
        (wordBytes (data.length % u32))) a := by
  rw [submit3DCommand, wordAt_peek (h.trans (Nat.le_add_right _ _))]
  exact wordAt_poke_apart (apart_payload h)

theorem isSubmit3D_submit3DCommand (fresh : Nat → UInt8) (ctx : Nat) (h : data.length < u32) :
    IsSubmit3D (submit3DCommand fresh ctx data) (ctx % u32) data := by
  constructor
  · rw [wordAt_submit3DCommand (by decide), wordAt_poke_apart (.inr (show 0 + 4 ≤ 24 by decide)),
      wordAt_poke_apart (.inr (show 0 + 4 ≤ 16 by decide)), wordAt_poke_same]
    rfl
  · rw [wordAt_submit3DCommand (by decide), wordAt_poke_apart (.inr (show 16 + 4 ≤ 24 by decide)),
      wordAt_poke_same]
  · rw [wordAt_submit3DCommand (by decide), wordAt_poke_same, Nat.mod_eq_of_lt h]
    exact Nat.mod_eq_of_lt h
  · rw [submit3DCommand, peek_add, Nat.zero_add, peek_poke_same]
    exact List.drop_left' length_peek

end Command

/-! ## The paths to it -/

namespace SubmitEnv

variable {size : Nat} {data : List UInt8}

theorem executeCommands_whole (env : SubmitEnv) (ctx : Nat)
    (h : data.length ≤ UserClient.maxCommandBytes) :
    SentWhole (ctx % u32) data (env.executeCommands ctx data) := by
  have hlen : data.length < u32 := h.trans_lt (by decide)
  simp only [executeCommands]
  split_ifs
  · exact .inr ⟨by decide, rfl⟩
  · exact .inr ⟨by decide, rfl⟩
  · exact .inr ⟨by decide, rfl⟩
  · cases env.malloc with
    | none =>
        right
        exact ⟨nofun, rfl⟩
    | some fresh =>
        rcases env.queue.submitCommand_cases (submit3DCommand fresh ctx data) with ⟨hwire, -⟩ | hrej
        · exact .inl ⟨_, hwire, isSubmit3D_submit3DCommand fresh ctx hlen⟩
        · exact .inr hrej

/-- A size that is zero or over the cap is refused whatever else there is. -/
theorem submitVirglCommandsEx_rejected (env : SubmitEnv) (ctx : Nat)
    (commands : Option (Nat → UInt8)) (h : size = 0 ∨ UserClient.maxCommandBytes < size) :
    Rejected (env.submitVirglCommandsEx ctx commands size) := by
  cases commands with
  | none =>
      simp only [submitVirglCommandsEx]
      split_ifs <;> exact ⟨by decide, rfl⟩
  | some commands =>
      simp only [submitVirglCommandsEx]
      split_ifs with _ _ _ hbig
      · exact ⟨by decide, rfl⟩
      · exact ⟨by decide, rfl⟩
      · exact ⟨by decide, rfl⟩
      · exact ⟨by decide, rfl⟩
      · exact ⟨by decide, rfl⟩
      · exact absurd (h.resolve_left ‹_›) hbig

theorem submitVirglCommandsEx_whole (env : SubmitEnv) (ctx : Nat) (bytes : Nat → UInt8)
    (size : Nat) :
    SentWhole (ctx % u32) (peek bytes 0 size)
      (env.submitVirglCommandsEx ctx (some bytes) size) := by
  simp only [submitVirglCommandsEx]
  split_ifs with _ _ _ hbig
  · exact .inr ⟨by decide, rfl⟩
  · exact .inr ⟨by decide, rfl⟩
  · exact .inr ⟨by decide, rfl⟩
  · exact .inr ⟨by decide, rfl⟩
  · exact .inr ⟨by decide, rfl⟩
  · exact executeCommands_whole env ctx (length_peek.trans_le (Nat.le_of_not_lt hbig))

theorem submitVirglCommandsEx_congr {f g : Nat → UInt8} (env : SubmitEnv) (ctx : Nat)
    (h : peek f 0 size = peek g 0 size) :
    env.submitVirglCommandsEx ctx (some f) size = env.submitVirglCommandsEx ctx (some g) size := by
  simp only [submitVirglCommandsEx, h]

/-- With everything granted, what was copied out is submitted. -/
theorem submitVirglCommandsEx_granted {f : Nat → UInt8} {ctx : Nat} (hpos : 0 < size)
    (hle : size ≤ UserClient.maxCommandBytes) :
    granted.submitVirglCommandsEx ctx (some f) size =
      (.success, [submit3DCommand (fun _ => 0) ctx (peek f 0 size)]) := by
  have hlen : (submit3DCommand (fun _ => 0) ctx (peek f 0 size)).length = cmdSubmitSize + size := by
    rw [length_submit3DCommand, length_peek]
  have hhdr : ctrlHdrSize ≤ cmdSubmitSize + size := Nat.le_add_right_of_le (by decide)
  have hlt : cmdSubmitSize + size < u32 := (Nat.add_le_add_left hle _).trans_lt (by decide)
  rw [← hlen] at hhdr hlt
  rw [← QueueEnv.submitCommand_granted hhdr hlt]
  simp only [submitVirglCommandsEx, executeCommands, granted, length_peek, Nat.ne_of_gt hpos,
    Nat.not_lt_of_le hle]
  rfl

end SubmitEnv

/-! ## Both forms -/

namespace Submit3DInput

variable {env : SubmitEnv} {scalar : Nat} {input : Submit3DInput}

/-- Where the bytes are read from. -/
def memory : Submit3DInput → Nat → UInt8
  | inline bytes _ => fun i => bytes.getD i 0
  | descriptor d _ => d.bytes

theorem peek_memory (input : Submit3DInput) :
    peek input.memory 0 input.bytes.length = input.bytes := by
  cases input with
  | inline bytes h => exact peek_getD bytes
  | descriptor d declared => simp [memory, bytes]

/-- The driver can get at the bytes. -/
def Readable (env : SubmitEnv) : Submit3DInput → Prop
  | inline _ _ => True
  | descriptor _ _ => env.Maps

/-- The selector comes down to one call for both forms. An inline input without bytes
gets the answer that a size of zero would get. -/
theorem run_of_readable (h : input.Readable env) (scalar : Nat) :
    input.run env scalar =
      env.submitVirglCommandsEx (scalar % u32) (some input.memory) (input.bytes.length % u32) := by
  by_cases hgpu : env.gpu = false
  · simp [run, SubmitEnv.externalMethod6008, SubmitEnv.submitVirglCommandsEx, hgpu]
  · cases input with
    | inline bytes _ =>
        cases bytes with
        | nil => rfl
        | cons b bs =>
            simp [run, SubmitEnv.externalMethod6008, toStructureInput, memory,
              Submit3DInput.bytes, hgpu]
    | descriptor d declared =>
        obtain ⟨hprep, hmap, haddr⟩ := h
        simp [run, SubmitEnv.externalMethod6008, toStructureInput, memory, bytes, hgpu, hprep, hmap,
          haddr]

/-- A descriptor that cannot be read leads to an error. -/
theorem run_of_not_readable (h : ¬ input.Readable env) (scalar : Nat) :
    Rejected (input.run env scalar) := by
  cases input with
  | inline _ _ => exact absurd trivial h
  | descriptor d declared =>
      simp only [run, SubmitEnv.externalMethod6008, toStructureInput, Option.isSome_none,
        Bool.false_eq_true, false_and, if_false]
      split_ifs with hgpu hprep hmap haddr
      · exact ⟨by decide, rfl⟩
      · exact ⟨hprep, rfl⟩
      · exact ⟨by decide, rfl⟩
      · exact absurd ⟨not_not.mp hprep, Bool.eq_true_of_not_eq_false hmap, haddr⟩ h
      · rw [SubmitEnv.submitVirglCommandsEx, if_neg hgpu]
        exact ⟨by decide, rfl⟩

/-- A length of which nothing is left, or too much, is refused. -/
theorem run_rejected (env : SubmitEnv) (scalar : Nat)
    (h : input.bytes.length % u32 = 0 ∨ UserClient.maxCommandBytes < input.bytes.length % u32) :
    Rejected (input.run env scalar) := by
  by_cases hread : input.Readable env
  · rw [run_of_readable hread]
    exact SubmitEnv.submitVirglCommandsEx_rejected env _ _ h
  · exact run_of_not_readable hread scalar

/-- Otherwise as many of the bytes as are left are submitted. -/
theorem run_whole (env : SubmitEnv) (scalar : Nat) (input : Submit3DInput) :
    SentWhole (scalar % u32) (peek input.memory 0 (input.bytes.length % u32))
      (input.run env scalar) := by
  by_cases hread : input.Readable env
  · have hsent := SubmitEnv.submitVirglCommandsEx_whole env (scalar % u32) input.memory
      (input.bytes.length % u32)
    rwa [Nat.mod_mod, ← run_of_readable hread] at hsent
  · exact .inr (run_of_not_readable hread scalar)

/-- The form does not matter where the length has 32 bits. -/
theorem run_eq_inline (h : input.bytes.length < u32) (hmaps : env.Maps) (scalar : Nat) :
    input.run env scalar = (inline input.bytes h).run env scalar := by
  have hread : input.Readable env := by
    cases input with
    | inline _ _ => trivial
    | descriptor _ _ => exact hmaps
  have hinline : (inline input.bytes h).Readable env := trivial
  rw [run_of_readable hread, run_of_readable hinline]
  apply SubmitEnv.submitVirglCommandsEx_congr
  show peek input.memory 0 (input.bytes.length % u32) = peek (fun i => input.bytes.getD i 0) 0 _
  rw [Nat.mod_eq_of_lt h, peek_memory]
  exact (peek_getD input.bytes).symm

/-- The first bytes, as many as are left of the length, go to the device. -/
theorem run_granted (scalar : Nat) (h₀ : input.bytes.length % u32 ≠ 0)
    (h₁ : input.bytes.length % u32 ≤ UserClient.maxCommandBytes) :
    input.run .granted scalar =
      (.success, [submit3DCommand (fun _ => 0) (scalar % u32)
        (peek input.memory 0 (input.bytes.length % u32))]) := by
  have hread : input.Readable .granted := by
    cases input with
    | inline _ _ => trivial
    | descriptor _ _ => exact ⟨rfl, rfl, rfl⟩
  rw [run_of_readable hread]
  exact SubmitEnv.submitVirglCommandsEx_granted (Nat.pos_of_ne_zero h₀) h₁

end Submit3DInput

section Main

variable {scalar : Nat} {input : Submit3DInput}

/-- A truncated length or context shows in the command. -/
theorem SubmitsWhole.lt (h : SubmitsWhole scalar input) (h₀ : input.bytes.length % u32 ≠ 0)
    (h₁ : input.bytes.length % u32 ≤ UserClient.maxCommandBytes) :
    input.bytes.length < u32 ∧ scalar < u32 := by
  have hrun := Submit3DInput.run_granted scalar h₀ h₁
  have hlt : (peek input.memory 0 (input.bytes.length % u32)).length < u32 := by
    rw [length_peek]
    exact Nat.mod_lt _ (by decide)
  have hsent := isSubmit3D_submit3DCommand (fun _ => 0) (scalar % u32) hlt
  rcases h.whole .granted with ⟨wire, hwire, hsubmit⟩ | hrej
  · rw [hrun] at hwire
    obtain rfl := List.singleton_inj.mp hwire
    constructor
    · have hlen := congrArg List.length (hsubmit.payload.symm.trans hsent.payload)
      rw [length_peek] at hlen
      rw [hlen]
      exact Nat.mod_lt _ (by decide)
    · rw [← hsubmit.ctx, hsent.ctx]
      exact Nat.mod_lt _ (by decide)
  · exact absurd (congrArg Prod.fst hrun) hrej.1

/-- Selector 0x6008 submits all of its input in one command or refuses it, alike for both
forms, exactly if the length and the context fit 32 bits or what is left of the length
is refused. -/
theorem submitsWhole_iff_fitsSelector (scalar : Nat) (input : Submit3DInput) :
    SubmitsWhole scalar input ↔ FitsSelector scalar input := by
  by_cases hrefused : input.bytes.length % u32 = 0 ∨
      UserClient.maxCommandBytes < input.bytes.length % u32
  · -- nothing is submitted, in whatever form
    refine iff_of_true ⟨?_, ?_, ?_⟩ (.inr hrefused)
    · intro env
      exact .inr (Submit3DInput.run_rejected env scalar hrefused)
    · intro _ env
      exact Submit3DInput.run_rejected env scalar hrefused
    · intro h env hmaps
      exact Submit3DInput.run_eq_inline h hmaps scalar
  · obtain ⟨h₀, h₁⟩ := not_or.mp hrefused
    constructor
    · intro h
      exact .inl (h.lt h₀ (Nat.le_of_not_lt h₁))
    · rintro (⟨hlen, hctx⟩ | h)
      · refine ⟨?_, ?_, ?_⟩
        · intro env
          have hwhole := Submit3DInput.run_whole env scalar input
          rwa [Nat.mod_eq_of_lt hlen, Nat.mod_eq_of_lt hctx, input.peek_memory] at hwhole
        · intro hbig
          rw [Nat.mod_eq_of_lt hlen] at h₁
          exact absurd hbig h₁
        · intro h env hmaps
          exact Submit3DInput.run_eq_inline h hmaps scalar
      · exact absurd h hrefused

/-- Of 4 GiB and 4096 bytes, no more than the 4096 arrive. -/
theorem fourGigabytes_not_submitted :
    ¬ SubmitsWhole 1 (.descriptor ⟨2 ^ 32 + 4096, fun _ => 0⟩ 0) := by
  intro h
  have hlen : (Submit3DInput.descriptor ⟨2 ^ 32 + 4096, fun _ => 0⟩ 0).bytes.length =
      2 ^ 32 + 4096 := length_peek
  have hfits := h.lt (by rw [hlen]; decide) (by rw [hlen]; decide)
  rw [hlen] at hfits
  exact absurd hfits.1 (by decide)

end Main

end VMQemuVGA
