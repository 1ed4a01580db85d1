import VMQemuVGA.Virtqueue.BringUp

/-! # The order of bringing the device up

A virtio device is to be reset, acknowledged, asked for its features and told which of them
the driver takes; the queues come after the device has confirmed these, and DRIVER_OK comes
last. `setupControlVirtQueue` goes on without the confirmation. -/

namespace VMQemuVGA

open VirtioConfig StatusBit

/-! ## The features -/

/-- The features are dealt with, the device does not run, and the queues are as said. -/
structure Settled (ok : Bool) (queues : Nat → VirtioQueue) (c : VirtioConfig) : Prop where
  started : c.started = true
  confirmed : c.confirmed = ok
  live : c.live = false
  features : ∀ w v, c.accepted w = some v → ∃ o, c.offered w = some o ∧ BitsKept v o
  queue : c.queue = queues

theorem acceptBit0_cases (o : Nat) :
    acceptBit0 o = 0 ∨ (acceptBit0 o = 1 ∧ o % 2 = 1) := by
  unfold acceptBit0
  split
  · next h => exact .inr ⟨rfl, by simpa [Nat.and_one_is_mod] using h⟩
  · exact .inl rfl

theorem bitsKept_acceptBit0 (o : Nat) : BitsKept (acceptBit0 o % 2 ^ 32) o := by
  rcases acceptBit0_cases o with h | ⟨h, ho⟩
  · rw [h]
    exact Nat.zero_and o
  · show acceptBit0 o % 2 ^ 32 &&& o = acceptBit0 o % 2 ^ 32
    rw [h, show 1 % 2 ^ 32 = 1 from rfl, Nat.one_and_eq_mod_two, ho]

/-- ACKNOWLEDGE and DRIVER are written, and nothing else. -/
def startedConfig : VirtioConfig := { reset with status := 3, started := true }

/-- Both words of the features are answered and written. -/
def offeredConfig (o₀ o₁ : Nat) : VirtioConfig :=
  { startedConfig with
    dfSelect := some 1
    tfSelect := some 1
    offered := Function.update (Function.update (fun _ => none) 0 (some o₀)) 1 (some o₁)
    accepted := Function.update (Function.update (fun _ => none) 0
      (some (acceptBit0 o₀ % 2 ^ 32))) 1 (some (acceptBit0 o₁ % 2 ^ 32)) }

theorem features_offeredConfig {o₀ o₁ w v : Nat} (h : (offeredConfig o₀ o₁).accepted w = some v) :
    ∃ o, (offeredConfig o₀ o₁).offered w = some o ∧ BitsKept v o := by
  by_cases h₁ : w = 1
  · subst h₁
    cases h
    exact ⟨o₁, rfl, bitsKept_acceptBit0 o₁⟩
  · by_cases h₀ : w = 0
    · subst h₀
      cases h
      exact ⟨o₀, rfl, bitsKept_acceptBit0 o₀⟩
    · simp [offeredConfig, h₀, h₁] at h

theorem wp_negotiateFeatures :
    file.wp Allowed negotiateFeatures (fun ok => Settled ok fun _ => .reset) startedConfig := by
  simp only [negotiateFeatures, RegFile.wp_bind, RegFile.wp_write, RegFile.wp_read,
    RegFile.wp_pure, width_file, next_file]
  refine ⟨trivial, fun o₀ _ => ⟨trivial, trivial, fun o₁ _ => ⟨trivial, trivial, ?_, trivial, ?_,
    fun s hs => ⟨trivial, ?_, fun t _ => ⟨trivial, ?_⟩⟩⟩⟩⟩
  · exact ⟨rfl, rfl, 0, o₀, rfl, rfl, bitsKept_acceptBit0 o₀⟩
  · exact ⟨rfl, rfl, 1, o₁, rfl, rfl, bitsKept_acceptBit0 o₁⟩
  · exact allowed_setBit rfl hs (by decide) rfl fun h => by cases h
  · show Settled _ _ ((((offeredConfig o₀ o₁).next (.read .deviceStatus s)).next
      (.write .deviceStatus ((s ||| featuresOk.mask) % 2 ^ 8))).next (.read .deviceStatus t))
    have hread : ((offeredConfig o₀ o₁).next (.read .deviceStatus s)).status = s := rfl
    rw [next_setBit hread hs]
    refine ⟨rfl, ?_, ?_, fun w v hv => features_offeredConfig hv, rfl⟩
    · show (false || ((false || (featuresOk.isIn s || true)) && featuresOk.isIn t)) = _
      simp
    · show (false || ((driverOk.isIn s || false) && !driverOk.isIn s)) = false
      simp

theorem wp_handshake (c : VirtioConfig) :
    file.wp Allowed handshake (fun ok => Settled ok fun _ => .reset) c := by
  refine ⟨.inl rfl, ?_, ?_, wp_negotiateFeatures⟩
  · show Allowed reset (.write .deviceStatus 1)
    exact .inr ⟨by decide, by decide, by decide, by decide⟩
  · show Allowed { reset with status := 1 } (.write .deviceStatus 3)
    exact .inr ⟨by decide, by decide, by decide, by decide⟩

/-! ## The registers, stage by stage -/

/-- A queue is selected, and is as said. -/
structure AtQueue (ok : Bool) (queues : Nat → VirtioQueue) (q : Nat) (x : VirtioQueue)
    (c : VirtioConfig) : Prop where
  settled : Settled ok (Function.update queues q x) c
  selected : c.qSelect = some q

/-- The order matters if the features are confirmed. -/
def AllowedIf (ok : Bool) (c : VirtioConfig) (x : RegAccess VirtioReg) : Prop :=
  ok = true → c.Allowed x

variable {ok : Bool} {queues : Nat → VirtioQueue} {q : Nat} {x : VirtioQueue} {c : VirtioConfig}

theorem Settled.select (h : Settled ok queues c) (q : Nat) (hq : q < 2 ^ 16) :
    AllowedIf ok c (.write .qSelect (q % 2 ^ 16)) ∧
      AtQueue ok queues q (queues q) (c.next (.write .qSelect (q % 2 ^ 16))) := by
  rw [Nat.mod_eq_of_lt hq]
  refine ⟨fun hok => ⟨h.confirmed.trans hok, h.live⟩, ⟨⟨h.started, h.confirmed, h.live, h.features,
    ?_⟩, rfl⟩⟩
  rw [Function.update_eq_self]
  exact h.queue

theorem AtQueue.reselect (h : AtQueue ok queues q x c) (hq : q < 2 ^ 16) :
    AllowedIf ok c (.write .qSelect (q % 2 ^ 16)) ∧
      AtQueue ok queues q x (c.next (.write .qSelect (q % 2 ^ 16))) := by
  obtain ⟨hallowed, hnext⟩ := h.settled.select q hq
  refine ⟨hallowed, ⟨?_, hnext.selected⟩⟩
  have hsettled := hnext.settled
  rwa [Function.update_self, Function.update_idem] at hsettled

theorem AtQueue.onQueue (h : AtQueue ok queues q x c) (f : VirtioQueue → VirtioQueue) :
    AtQueue ok queues q (f x) (c.onQueue f) := by
  have hx : c.queue q = x := by rw [h.settled.queue, Function.update_self]
  rw [VirtioConfig.onQueue, h.selected]
  refine ⟨⟨h.settled.started, h.settled.confirmed, h.settled.live, h.settled.features, ?_⟩, rfl⟩
  show Function.update c.queue q (f (c.queue q)) = _
  rw [hx, h.settled.queue, Function.update_idem]

theorem AtQueue.configuring (h : AtQueue true queues q x c) (hx : x.enabled = false) :
    c.Configuring q ∧ c.queue q = x := by
  have hq : c.queue q = x := by rw [h.settled.queue, Function.update_self]
  exact ⟨⟨h.settled.confirmed, h.settled.live, h.selected, hq ▸ hx⟩, hq⟩

/-- All six halves of the addresses are written. -/
theorem setAddr_all {qsize phys : Nat} (hx : x.enabled = false) (hsize : x.size = some qsize)
    (hphys : phys + (ringLayout qsize).totalSize ≤ u32) :
    (((((x.setAddr .desc false ((ringLayout qsize).start phys .desc % 2 ^ 32 % 2 ^ 32)).setAddr
      .desc true ((ringLayout qsize).start phys .desc / 2 ^ 32 % 2 ^ 32)).setAddr
      .avail false ((ringLayout qsize).start phys .avail % 2 ^ 32 % 2 ^ 32)).setAddr
      .avail true ((ringLayout qsize).start phys .avail / 2 ^ 32 % 2 ^ 32)).setAddr
      .used false ((ringLayout qsize).start phys .used % 2 ^ 32 % 2 ^ 32)).setAddr
      .used true ((ringLayout qsize).start phys .used / 2 ^ 32 % 2 ^ 32) =
      placedQueue x.offered qsize phys false := by
  have hhigh : ∀ a, (ringLayout qsize).start phys a / 4294967296 < 4294967296 := by
    intro a
    have hle := (start_add_areaSize_le qsize phys a).2
    rw [u32_eq] at hphys
    omega
  obtain ⟨offered, size, addr, enabled⟩ := x
  subst hx hsize
  simp only [VirtioQueue.setAddr, placedQueue, VirtioQueue.mk.injEq, true_and, and_true]
  funext a high
  cases a <;> cases high <;> simp [hhigh]

/-- The six writes of addresses. -/
theorem wp_writeRingAddresses {qsize phys : Nat} {Q : Unit → VirtioConfig → Prop}
    (hx : x.enabled = false) (hsize : x.size = some qsize)
    (hphys : phys + (ringLayout qsize).totalSize ≤ u32) (h : AtQueue ok queues q x c)
    (hQ : ∀ c', AtQueue ok queues q (placedQueue x.offered qsize phys false) c' → Q ⟨⟩ c') :
    file.wp (AllowedIf ok) (writeRingAddresses (ringLayout qsize) phys) Q c := by
  have hstep : ∀ {a high v x' c'}, AtQueue ok queues q x' c' → x'.enabled = false →
      x'.size = some qsize → AllowedIf ok c' (.write (.qAddr a high) v) ∧
        AtQueue ok queues q (x'.setAddr a high v) (c'.next (.write (.qAddr a high) v)) := by
    intro a high v x' c' hat hx' hs
    refine ⟨fun hok => ?_, hat.onQueue fun y => y.setAddr a high v⟩
    subst hok
    obtain ⟨hconf, hq⟩ := hat.configuring hx'
    exact ⟨q, hconf, by rw [hq, hs]; rfl⟩
  simp only [writeRingAddresses, RegFile.wp_bind, RegFile.wp_write, width_file, next_file]
  obtain ⟨ha₁, h₁⟩ := hstep h hx hsize
  obtain ⟨ha₂, h₂⟩ := hstep h₁ hx hsize
  obtain ⟨ha₃, h₃⟩ := hstep h₂ hx hsize
  obtain ⟨ha₄, h₄⟩ := hstep h₃ hx hsize
  obtain ⟨ha₅, h₅⟩ := hstep h₄ hx hsize
  obtain ⟨ha₆, h₆⟩ := hstep h₅ hx hsize
  exact ⟨ha₁, ha₂, ha₃, ha₄, ha₅, ha₆, hQ _ (setAddr_all hx hsize hphys ▸ h₆)⟩

/-! ## Both queues -/

/-- What `setupCursorQueue` leaves: the registers of its queue (`x`), and the driver. -/
structure CursorDone (g : QueueGrants) (d : GpuDriver) (r : Bool × GpuDriver) (x : VirtioQueue) :
    Prop where
  commonCfg : r.2.commonCfg = d.commonCfg
  control : r.2.control = d.control
  step : HeapStep (g.freeNext = true ∨ d.cursor.initialized = false) d.heap d.cursor r.2.heap
    r.2.cursor
  failed : r.1 = false → x.enabled = false
  started : r.1 = true → ∃ mem, r.2.cursor.Drives x mem ∧ mem.serial ∈ r.2.heap.live

/-- Reading the size of the queue that is selected. -/
theorem AtQueue.readSize (h : AtQueue ok queues q x c) (o : Nat) :
    AtQueue ok queues q { x with offered := some o } (c.next (.read .qSize o)) :=
  h.onQueue fun y => { y with offered := some o }

theorem AtQueue.writeSize (h : AtQueue ok queues q x c) {o n : Nat} (hx : x.enabled = false)
    (hoffered : x.offered = some o) (hle : n ≤ o) (hpow : ∃ k, n = 2 ^ k) (hn : n < 2 ^ 16) :
    AllowedIf ok c (.write .qSize (n % 2 ^ 16)) ∧
      AtQueue ok queues q { x with size := some n } (c.next (.write .qSize (n % 2 ^ 16))) := by
  rw [Nat.mod_eq_of_lt hn]
  refine ⟨fun hok => ?_, h.onQueue fun y => { y with size := some n }⟩
  subst hok
  obtain ⟨hconf, hq⟩ := h.configuring hx
  exact ⟨q, o, hconf, hq ▸ hoffered, hle, hpow⟩

theorem AtQueue.enable {qsize phys : Nat} {o : Option Nat}
    (h : AtQueue ok queues q (placedQueue o qsize phys false) c) (hphys : 16 ∣ phys) :
    AllowedIf ok c (.write .qEnable (1 % 2 ^ 16)) ∧
      AtQueue ok queues q (placedQueue o qsize phys true)
        (c.next (.write .qEnable (1 % 2 ^ 16))) := by
  refine ⟨fun hok => ⟨rfl, ?_⟩, h.onQueue fun y => { y with enabled := 1 % 2 ^ 16 == 1 }⟩
  subst hok
  obtain ⟨hconf, hq⟩ := h.configuring rfl
  exact ⟨q, qsize, _, hconf, hq ▸ placed_placedQueue o qsize false hphys⟩

/-- The addresses of a ring, and the queue is enabled. -/
theorem wp_enableRing {α : Type} {k : RegProg VirtioReg α} {Q : α → VirtioConfig → Prop}
    (hx : x.enabled = false) (hsize : x.size = some qsize) (hready : RingReady g qsize mem m)
    (h : AtQueue ok queues q x c)
    (hk : ∀ c', AtQueue ok queues q (placedQueue x.offered qsize mem.phys true) c' →
      file.wp (AllowedIf ok) k Q c') :
    file.wp (AllowedIf ok)
      (do writeRingAddresses (ringLayout qsize) mem.phys; RegProg.write .qEnable 1; k) Q c := by
  rw [RegFile.wp_bind]
  refine wp_writeRingAddresses hx hsize (g.below _ _ hready.granted) h fun c' h' => ?_
  obtain ⟨hallowed, henabled⟩ := h'.enable (g.aligned _ _ hready.granted)
  exact ⟨hallowed, hk _ henabled⟩

theorem wp_setupCursorQueue {d : GpuDriver} {g : QueueGrants} (h : Settled ok queues c)
    (hx : (queues 1).enabled = false) :
    file.wp (AllowedIf ok) (setupCursorQueue g d)
      (fun r c' => ∃ x, Settled ok (Function.update queues 1 x) c' ∧ CursorDone g d r x) c := by
  simp only [setupCursorQueue, RegFile.wp_bind, RegFile.wp_write, RegFile.wp_read, width_file,
    next_file]
  obtain ⟨ha₁, h₁⟩ := h.select 1 (by decide)
  refine ⟨ha₁, fun offered hoffered => ⟨fun _ => trivial, ?_⟩⟩
  have h₂ := h₁.readSize offered
  cases hsize : cursorSize offered with
  | none => exact ⟨_, h₂.settled, rfl, rfl, .refl, fun _ => hx, fun h => (by cases h)⟩
  | some qsize =>
      obtain ⟨hle, hlim, hpow⟩ := cursorSize_eq_some hsize
      simp only [RegFile.wp_bind, RegFile.wp_write, RegFile.wp_read, width_file, next_file]
      obtain ⟨ha₃, h₃⟩ := h₂.writeSize (x := { queues 1 with offered := some offered }) hx rfl hle
        hpow (by omega)
      refine ⟨ha₃, fun notifyOff _ => ⟨fun _ => trivial, ?_⟩⟩
      let cursor₀ : QueueMembers := { d.cursor with notifyOffset := notifyOff }
      have hstep : HeapStep (g.freeNext = true ∨ d.cursor.initialized = false)
          d.heap d.cursor d.heap cursor₀ :=
        ⟨fun _ h => h, fun _ _ h => h, fun _ => le_rfl, fun h => h⟩
      rcases hring : allocateRing g d.heap cursor₀ qsize with ⟨_ | mem, heap, cursor⟩
      · exact ⟨_, h₃.settled, rfl, rfl, hstep.trans (heapStep_allocateRing hring), fun _ => hx,
          fun h => (by cases h)⟩
      have hstep' := hstep.trans (heapStep_allocateRing hring)
      obtain ⟨hready, hlive⟩ := ringReady_of_allocateRing hring
      dsimp only
      rcases hbuf : allocateBuffers g heap cursor 128 64 with ⟨_ | _, heap', cursor'⟩
      · exact ⟨_, h₃.settled, rfl, rfl, hstep'.trans (heapStep_allocateBuffers _ hbuf), fun _ => hx,
          fun h => (by cases h)⟩
      have hbuffers := heapStep_allocateBuffers True hbuf
      have hstep'' := hstep'.trans (heapStep_allocateBuffers _ hbuf)
      have hready' := hready.buffers hbuf
      have hlive' := mem_live_of_kept hbuffers.kept hlive
      refine wp_enableRing (x := { queues 1 with offered := some offered, size := some qsize }) hx
        rfl hready h₃ fun c₄ h₄ => ?_
      simp only [RegFile.wp_bind, RegFile.wp_write, RegFile.wp_read, width_file, next_file]
      obtain ⟨ha₅, h₅⟩ := h₄.reselect (by decide)
      refine ⟨ha₅, fun check _ => ⟨fun _ => trivial, fun size _ => ⟨fun _ => trivial, ?_⟩⟩⟩
      have h₆ := h₅.readSize size
      refine ⟨_, h₆.settled, rfl, rfl, hstep''.initialized hready', fun h => (by cases h),
        fun _ => ⟨mem, hready'.initialized.drives hpow (some size), hlive'⟩⟩

/-- What `setupControlVirtQueue` leaves behind the handshake: registers and driver. -/
structure SetupDone (env : SetupEnv) (d : GpuDriver) (r : Bool × GpuDriver) (c : VirtioConfig) :
    Prop where
  commonCfg : r.2.commonCfg = d.commonCfg
  features : ∀ w v, c.accepted w = some v → ∃ o, c.offered w = some o ∧ BitsKept v o
  control : (c.queue 0).enabled = true →
    ∃ mem, r.2.control.Drives (c.queue 0) mem ∧ mem.serial ∈ r.2.heap.live
  cursor : (c.queue 1).enabled = true →
    ∃ mem, r.2.cursor.Drives (c.queue 1) mem ∧ mem.serial ∈ r.2.heap.live
  others : ∀ q, 2 ≤ q → (c.queue q).enabled = false
  succeeded : r.1 = true → (c.queue 0).enabled = true ∧ StatusBit.driverOk.isIn c.status = true ∧
    r.2.control.initialized = true ∧
    ∃ o, (c.queue 0).offered = some o ∧ negotiatedSize o = some r.2.control.size
  failed : r.1 = false → (c.queue 0).enabled = true →
    env.control.cmdBuf = none ∨ env.control.respBuf = none
  owned : d.Owned → r.2.Owned
  used : env.control.freeNext = true ∨ d.control.initialized = false →
    env.cursor.freeNext = true ∨ d.cursor.initialized = false → d.Used → r.2.Used

/-- The setup gives up before the queue is enabled. -/
theorem setupDone_of_disabled {d : GpuDriver} {env : SetupEnv} {control : QueueMembers}
    (h : AtQueue ok (fun _ => .reset) 0 x c) (hx : x.enabled = false)
    (hstep : HeapStep (env.control.freeNext = true ∨ d.control.initialized = false) d.heap d.control
      heap control) :
    SetupDone env d (false, { d with heap := heap, control := control }) c := by
  have hdisabled : ∀ q, (c.queue q).enabled = false := by
    intro q
    rw [h.settled.queue]
    by_cases hq : q = 0
    · rw [hq, Function.update_self, hx]
    · rw [Function.update_of_ne hq]
      rfl
  exact {
    commonCfg := rfl
    features := h.settled.features
    control := fun henabled => by rw [hdisabled] at henabled; cases henabled
    cursor := fun henabled => by rw [hdisabled] at henabled; cases henabled
    others := fun q _ => hdisabled q
    succeeded := fun h => by cases h
    failed := fun _ henabled => by rw [hdisabled] at henabled; cases henabled
    owned := fun h => hstep.owned d.cursor.holds h
    used := fun hsafe _ h =>
      ⟨hstep.used hsafe d.cursor.uses h.used, hstep.ringed h.control, h.cursor⟩ }

/-- The device runs; the members of the control queue are `m'` in the end. -/
theorem setupDone_of_running {d d' : GpuDriver} {env : SetupEnv} {offered : Nat} {ret : Bool}
    (hcommon : d'.commonCfg = d.commonCfg)
    (hfeatures : ∀ w v, c.accepted w = some v → ∃ o, c.offered w = some o ∧ BitsKept v o)
    (hqueue : c.queue = Function.update (Function.update (fun _ => .reset) 0
      (placedQueue (some offered) qsize mem.phys true)) 1 x)
    (hgo : StatusBit.driverOk.isIn c.status = true) (hsize : negotiatedSize offered = some qsize)
    (hlive : mem.serial ∈ heap.live)
    (hstep : HeapStep (env.control.freeNext = true ∨ d.control.initialized = false) d.heap d.control
      heap d'.control)
    (hcstep : HeapStep (env.cursor.freeNext = true ∨ d.cursor.initialized = false) heap d.cursor
      d'.heap d'.cursor)
    (hcursor : x.enabled = true → ∃ mem, d'.cursor.Drives x mem ∧ mem.serial ∈ d'.heap.live)
    (hready : RingReady env.control qsize mem m') (hbstep : ∀ safe, HeapStep safe d'.heap d'.control
      heap' m') (hinit : ret = true → m'.initialized = true)
    (hmissing : ret = false → env.control.cmdBuf = none ∨ env.control.respBuf = none) :
    SetupDone env d (ret, { d' with heap := heap', control := m' }) c := by
  have hpow := (negotiatedSize_eq_some hsize).2.2
  have hq₀ : c.queue 0 = placedQueue (some offered) qsize mem.phys true := by
    rw [hqueue, Function.update_of_ne (by decide), Function.update_self]
  have hq₁ : c.queue 1 = x := by rw [hqueue, Function.update_self]
  have hkept := fun n => (hcstep.kept n).trans ((hbstep True).kept n)
  exact {
    commonCfg := hcommon
    features := hfeatures
    control := fun _ => ⟨mem, hq₀ ▸ hready.drives hpow _, mem_live_of_kept hkept hlive⟩
    cursor := by
      rw [hq₁]
      intro hx
      obtain ⟨mem₁, hdrives, hlive₁⟩ := hcursor hx
      exact ⟨mem₁, hdrives, mem_live_of_kept (hbstep True).kept hlive₁⟩
    others := by
      intro q hq
      rw [hqueue, Function.update_of_ne (by omega), Function.update_of_ne (by omega)]
      rfl
    succeeded := fun hret => ⟨by rw [hq₀]; rfl, hgo, hinit hret, offered, by rw [hq₀]; rfl,
      hready.size.symm ▸ hsize⟩
    failed := fun hret _ => hmissing hret
    owned := by
      intro howned
      have h₁ := hstep.owned d.cursor.holds howned
      have h₂ := hcstep.owned d'.control.holds fun n => (Nat.add_comm _ _).trans_le (h₁ n)
      exact (hbstep True).owned d'.cursor.holds fun n => (Nat.add_comm _ _).trans_le (h₂ n)
    used := by
      intro hsafe hcsafe h
      have h₁ := hstep.used hsafe d.cursor.uses h.used
      have h₂ := hcstep.used hcsafe d'.control.uses fun n => (Nat.add_comm _ _).trans_le (h₁ n)
      exact ⟨(hbstep True).used trivial d'.cursor.uses fun n => (Nat.add_comm _ _).trans_le (h₂ n),
        (hbstep True).ringed (hstep.ringed h.control), hcstep.ringed h.cursor⟩ }

theorem wp_setupQueues {d : GpuDriver} (env : SetupEnv) (h : Settled ok (fun _ => .reset) c) :
    file.wp (AllowedIf ok) (setupQueues env d) (SetupDone env d) c := by
  simp only [setupQueues, RegFile.wp_bind, RegFile.wp_write, RegFile.wp_read, width_file, next_file]
  obtain ⟨ha₁, h₁⟩ := h.select 0 (by decide)
  refine ⟨ha₁, fun offered hoffered => ⟨fun _ => trivial, ?_⟩⟩
  have h₂ := h₁.readSize offered
  cases hsize : negotiatedSize offered with
  | none => exact setupDone_of_disabled h₂ rfl .refl
  | some qsize =>
      obtain ⟨hle, hlim, hpow⟩ := negotiatedSize_eq_some hsize
      simp only [RegFile.wp_bind, RegFile.wp_write, RegFile.wp_read, width_file, next_file]
      obtain ⟨ha₃, h₃⟩ := h₂.writeSize rfl rfl hle hpow (by omega)
      refine ⟨ha₃, fun notifyOff _ => ⟨fun _ => trivial, ?_⟩⟩
      rcases hring : allocateRing env.control d.heap d.control qsize with ⟨_ | mem, heap, control⟩
      · exact setupDone_of_disabled h₃ rfl (heapStep_allocateRing hring)
      have hstep := heapStep_allocateRing hring
      obtain ⟨hready, hlive⟩ := ringReady_of_allocateRing hring
      dsimp only
      refine wp_enableRing rfl rfl hready h₃ fun c₄ h₄ => ?_
      simp only [RegFile.wp_bind, RegFile.wp_read, width_file, next_file]
      refine fun check _ => ⟨fun _ => trivial, ?_⟩
      refine RegFile.wp_mono ?_ (wp_setupCursorQueue h₄.settled rfl)
      rintro ⟨ret, d'⟩ c₅ ⟨x, h₅, hcursor⟩
      obtain ⟨hcommon, hcontrol, hcstep, hcfailed, hcstarted⟩ := hcursor
      dsimp only at hcommon hcontrol hcstep hcfailed hcstarted
      simp only [RegFile.wp_write, RegFile.wp_pure, width_file, next_file]
      intro s hs
      refine ⟨fun _ => trivial, ?_, ?_⟩
      · refine fun hok => allowed_setBit rfl hs (by decide) h₅.started fun _ => ?_
        show (c₅.confirmed || _) = true
        rw [h₅.confirmed, hok, Bool.true_or]
      · subst hcontrol
        have hread : (c₅.next (.read .deviceStatus s)).status = s := rfl
        have hcursor : x.enabled = true →
            ∃ mem, d'.cursor.Drives x mem ∧ mem.serial ∈ d'.heap.live := by
          intro hx
          cases ret with
          | false => exact absurd ((hcfailed rfl).symm.trans hx) Bool.false_ne_true
          | true => exact hcstarted rfl
        show SetupDone env d _ ((c₅.next (.read .deviceStatus s)).next
          (.write .deviceStatus ((s ||| StatusBit.driverOk.mask) % 2 ^ 8)))
        rw [next_setBit hread hs]
        have hgo : StatusBit.driverOk.isIn (s ||| StatusBit.driverOk.mask) = true := by simp
        unfold finishSetup
        rcases hbuf : allocateBuffers env.control d'.heap d'.control 4096 4096 with
          ⟨_ | _, heap', control'⟩
        · exact setupDone_of_running hcommon h₅.features h₅.queue hgo hsize hlive hstep hcstep
            hcursor (hready.buffers hbuf) (fun safe => heapStep_allocateBuffers safe hbuf)
            (fun h => by cases h) fun _ => missing_of_allocateBuffers hbuf
        · have hready' := hready.buffers hbuf
          have hbstep := fun safe => heapStep_allocateBuffers safe hbuf
          exact setupDone_of_running hcommon h₅.features h₅.queue hgo hsize hlive hstep hcstep
            hcursor hready'.initialized (fun safe => (hbstep safe).initialized hready')
            (fun _ => rfl) fun h => by cases h

/-! ## Executions -/

open RegProg (exec)

variable {dev : RegDevice VirtioReg} {past : List (RegAccess VirtioReg)} {env : SetupEnv}
  {d : GpuDriver} {mapped : Bool}

/-- The handshake on a device, and the negotiation's result. -/
def negotiated (dev : RegDevice VirtioReg) (past : List (RegAccess VirtioReg)) : Bool :=
  (handshake.exec width dev past).1

theorem exec_setupControlVirtQueue (henv : env.commonConfig = true) :
    (setupControlVirtQueue env d).exec width dev past =
      let first := handshake.exec width dev past
      let rest := (setupQueues env { d with commonCfg := true }).exec width dev (past ++ first.2)
      (rest.1, first.2 ++ rest.2) := by
  rw [setupControlVirtQueue, if_neg (by rw [henv]; decide)]
  exact RegProg.exec_bind _ _ _

/-- The setup as two parts, the second of which obeys where the first has gone well. -/
theorem setup_exec (henv : env.commonConfig = true) (c : VirtioConfig) :
    ∃ tr us, ((setupControlVirtQueue env d).exec width dev past).2 = tr ++ us ∧
      Obeys c tr ∧ Settled (negotiated dev past) (fun _ => .reset) (file.replay c tr) ∧
      file.Obeys (AllowedIf (negotiated dev past)) (file.replay c tr) us ∧
      us.head? = some (.write .qSelect 0) ∧
      SetupDone env { d with commonCfg := true }
        ((setupControlVirtQueue env d).exec width dev past).1
        (file.replay (file.replay c tr) us) := by
  rw [exec_setupControlVirtQueue henv]
  obtain ⟨hobeys, hsettled⟩ := RegFile.wp_exec (wp_handshake c) dev past
  obtain ⟨hallowed, hdone⟩ := RegFile.wp_exec
    (wp_setupQueues (d := { d with commonCfg := true }) env hsettled) dev
    (past ++ (handshake.exec width dev past).2)
  exact ⟨_, _, rfl, hobeys, hsettled, hallowed, rfl, hdone⟩

theorem allowedIf_true : AllowedIf true = Allowed := by
  funext c x
  simp [AllowedIf]

theorem obeys_setupControlVirtQueue_iff (c : VirtioConfig) :
    Obeys c ((setupControlVirtQueue env d).exec width dev past).2 ↔
      env.commonConfig = false ∨ negotiated dev past = true := by
  cases henv : env.commonConfig with
  | false =>
      rw [setupControlVirtQueue, if_pos henv]
      exact iff_of_true trivial (.inl rfl)
  | true =>
      obtain ⟨tr, us, htrace, htr, hsettled, hus, hhead, -⟩ := setup_exec henv c
      rw [htrace, Obeys, RegFile.obeys_append]
      constructor
      · rintro ⟨-, h⟩
        obtain ⟨vs, rfl⟩ := List.head?_eq_some_iff.mp hhead
        -- the queues are selected whether or not the features are confirmed
        exact .inr (hsettled.confirmed.symm.trans h.1.1)
      · intro h
        have hok := h.resolve_left (by decide)
        rw [hok, allowedIf_true] at hus
        exact ⟨htr, hus⟩

/-- The handshake for the configuration starts the device without its features. -/
theorem not_obeys_configHandshake (c : VirtioConfig) (us : List (RegAccess VirtioReg)) :
    ¬ Obeys c ((configHandshake.exec width dev past).2 ++ us) := by
  rintro ⟨-, -, -, h, -⟩
  have hlast : startedConfig.Allowed (.write .deviceStatus 7) := h
  rcases hlast with h | ⟨-, -, -, h⟩
  · cases h
  · exact absurd (h rfl) (by decide)

theorem exec_initVirtIOGPU (henv : env.deviceConfig = true) :
    (initVirtIOGPU mapped env d).exec width dev past =
      let first := if mapped = true then (configHandshake.exec width dev past).2 else []
      let rest := (setupControlVirtQueue env d).exec width dev (past ++ first)
      ((env.olderQueues, rest.1.2), first ++ rest.2) := by
  have hlast (past : List (RegAccess VirtioReg)) :
      (setupControlVirtQueue env d >>= fun r => pure (env.olderQueues, r.2)).exec width dev past =
        let rest := (setupControlVirtQueue env d).exec width dev past
        ((env.olderQueues, rest.1.2), rest.2) := by
    rw [RegProg.exec_bind]
    simp [exec, pure]
  rw [initVirtIOGPU, if_neg (by rw [henv]; decide)]
  cases mapped with
  | true =>
      refine (RegProg.exec_bind configHandshake _ past).trans ?_
      dsimp only
      rw [if_pos rfl]
      exact congrArg (fun r => (r.1, _ ++ r.2)) (hlast _)
  | false =>
      refine (hlast past).trans ?_
      simp

/-- Without a configuration of the device nothing is done. -/
theorem exec_initVirtIOGPU_of_absent (henv : env.deviceConfig = false) :
    (initVirtIOGPU mapped env d).exec width dev past = ((true, d), []) := by
  rw [initVirtIOGPU, if_pos henv]
  rfl

/-- The members of the control queue are those of a state of `submitCommand`. -/
structure QueueMembers.Represents (m : QueueMembers) (q : ControlQueue) : Prop where
  size : m.size = q.ring.size
  lastUsed : m.lastUsed = q.lastUsed
  availIdx : m.availIdx = q.ring.availIdx
  free : ∃ bytes next, m.freeNext = some (bytes, next) ∧
    q.free.marked freeEnd = ⟨m.freeHead, next⟩

/-- The device runs, with features it offered and with a control queue that lies in memory
of the driver and is in the state that `submitCommand` starts from. -/
structure BroughtUp (d : GpuDriver) (c : VirtioConfig) : Prop where
  running : driverOk.isIn c.status = true
  features : ∀ w v, c.accepted w = some v → ∃ o, c.offered w = some o ∧ BitsKept v o
  size : ∃ offered, (c.queue 0).offered = some offered ∧
    d.control.size = 2 ^ Nat.log 2 (min offered 256)
  control : ∃ mem, d.control.Drives (c.queue 0) mem ∧ mem.serial ∈ d.heap.live ∧
    ∀ a, mem.phys ≤ (ringLayout d.control.size).start mem.phys a ∧
      (ringLayout d.control.size).start mem.phys a + VirtioQueue.areaSize d.control.size a ≤
        mem.phys + mem.size
  cursor : (c.queue 1).enabled = true →
    ∃ mem, d.cursor.Drives (c.queue 1) mem ∧ mem.serial ∈ d.heap.live
  others : ∀ q, 2 ≤ q → (c.queue q).enabled = false
  initialized : d.control.initialized = true
  ready : d.control.Represents (.init d.control.size)

theorem QueueMembers.Drives.represents {m : QueueMembers} {x : VirtioQueue} {mem : DmaMemory}
    (h : m.Drives x mem) : m.Represents (.init m.size) where
  size := rfl
  lastUsed := h.fresh.1
  availIdx := h.fresh.2
  free := ⟨_, _, h.free.2, by rw [h.free.1]; exact marked_upTo m.size⟩

theorem SetupDone.broughtUp {r : Bool × GpuDriver} {c : VirtioConfig} (h : SetupDone env d r c)
    (hr : r.1 = true) : BroughtUp r.2 c := by
  obtain ⟨henabled, hgo, hinit, offered, hoffered, hsize⟩ := h.succeeded hr
  obtain ⟨mem, hdrives, hlive⟩ := h.control henabled
  have h0 : offered ≠ 0 := by
    rintro rfl
    cases hsize
  rw [negotiatedSize_eq h0, Option.some.injEq] at hsize
  exact {
    running := hgo
    features := h.features
    size := ⟨offered, hoffered, hsize.symm⟩
    control := ⟨mem, hdrives, hlive, fun a => by
      rw [hdrives.memSize]
      exact start_add_areaSize_le _ _ a⟩
    cursor := h.cursor
    others := h.others
    initialized := hinit
    ready := hdrives.represents }

theorem commonConfig_of_success
    (h : ((setupControlVirtQueue env d).exec width dev past).1.1 = true) :
    env.commonConfig = true := by
  cases henv : env.commonConfig with
  | true => rfl
  | false =>
      rw [setupControlVirtQueue, if_pos henv] at h
      cases h

/-- **A setup that succeeds**, on any device that may have been in any state, leaves the
device running on rings in the driver's memory. -/
theorem broughtUp_of_setupControlVirtQueue (dev : RegDevice VirtioReg)
    (past : List (RegAccess VirtioReg)) (c : VirtioConfig) (env : SetupEnv) (d : GpuDriver)
    (h : ((setupControlVirtQueue env d).exec width dev past).1.1 = true) :
    BroughtUp ((setupControlVirtQueue env d).exec width dev past).1.2
      (file.replay c ((setupControlVirtQueue env d).exec width dev past).2) := by
  obtain ⟨tr, us, htrace, -, -, -, -, hdone⟩ := setup_exec (commonConfig_of_success h) c
  rw [htrace, RegFile.replay_append]
  exact hdone.broughtUp h

/-- All memory is granted, below 16 MB and in whole pages. -/
def QueueGrants.all : QueueGrants where
  vring n := if n ≤ 0x10000 then some 0x100000 else none
  aligned n p h := by
    split at h
    · cases h
      decide
    · cases h
  below n p h := by
    split at h
    · cases h
      rw [u32_eq]
      omega
    · cases h
  freeNext := true
  cmdBuf := some 0x200000
  respBuf := some 0x300000

def SetupEnv.all : SetupEnv := ⟨true, true, true, .all, .all⟩

theorem broughtUp_of_setupControlVirtQueue_all :
    BroughtUp ((setupControlVirtQueue .all .init).exec width (fun _ _ => 1) []).1.2
      (file.replay .reset ((setupControlVirtQueue .all .init).exec width (fun _ _ => 1) []).2) := by
  refine broughtUp_of_setupControlVirtQueue _ _ _ _ _ ?_
  decide +kernel

end VMQemuVGA
