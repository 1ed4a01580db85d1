import Mathlib.Data.List.Basic
import Mathlib.Logic.Function.Basic
import VMQemuVGA.Lib.Machine
import VMQemuVGA.Gpu.Device

/-! # Backing memory of user clients

A winsys client attaches memory of its own task to a host resource. The pages
have to stay wired as long as the host holds their addresses, so the client
keeps the prepared descriptor in a table of its own, `m_user_backings`, and
gives it up when the backing is detached, the resource unreferenced, or the
client closed. The host learns of these steps through commands that may fail
or be executed late; this module says when the two sides stay together. -/

namespace VMQemuVGA

/-! ## The table -/

/-- An `IOMemoryDescriptor` over client memory; `serial` tells descriptors
apart that describe the same range. -/
structure UserDescriptor where
  serial : Nat
  memory : MemoryDescriptor
  deriving DecidableEq, Repr

/-- `user_backing_entry`. -/
structure UserBacking where
  resourceId : Nat
  desc : Option UserDescriptor
  deriving DecidableEq, Repr

def UserBacking.free : UserBacking := { resourceId := 0, desc := none }

theorem UserBacking.resourceId_free : UserBacking.resourceId .free = 0 := rfl

/-- `m_user_backings`, with `MAX_USER_BACKINGS` slots. -/
abbrev UserBackings := SlotTable UserBacking.resourceId 64

namespace UserBackings

def empty : UserBackings := .replicate .free

theorem not_live_empty (b : UserBacking) : ¬ empty.Live b :=
  SlotTable.not_live_replicate UserBacking.resourceId_free

def findUserBacking (t : UserBackings) (id : Nat) : Option UserDescriptor :=
  (t.find? id).bind UserBacking.desc

/-- `addUserBacking`; `none` where it returns `false`. -/
def addUserBacking (t : UserBackings) (id : Nat) (d : UserDescriptor) : Option UserBackings :=
  if id = 0 then none
  else if (t.findUserBacking id).isSome then none
  else t.freeIdx?.map fun i => t.put i ⟨id, some d⟩

/-- The descriptors that `removeAllUserBackings` completes. -/
def serials (t : UserBackings) : List Nat :=
  t.slots.filterMap fun b => if b.resourceId = 0 then none else b.desc.map UserDescriptor.serial

end UserBackings

/-! ## Clients on one device -/

/-- One device and the tables of its clients. `wired` are the descriptors that
are prepared and not completed yet. -/
structure BackingRun where
  gpu : Gpu
  client : Nat → UserBackings
  wired : List Nat
  nextSerial : Nat

namespace BackingRun

/-- A new descriptor, prepared. -/
def wire (s : BackingRun) : BackingRun :=
  { s with wired := s.nextSerial :: s.wired, nextSerial := s.nextSerial + 1 }

/-- `complete` and `release`. -/
def complete (s : BackingRun) (serial : Nat) : BackingRun :=
  { s with wired := s.wired.filter fun n => n ≠ serial }

def setTable (s : BackingRun) (client : Nat) (t : UserBackings) : BackingRun :=
  { s with client := Function.update s.client client t }

/-- `sendDisplayCommand`, which passes on to `submitCommand`. -/
def send (s : BackingRun) (e : Env) (cmd : HostCmd) : IOReturn × BackingRun :=
  let (ret, g) := s.gpu.submitCommand e cmd
  (ret, { s with gpu := g })

def setLink (s : BackingRun) (l : Link) : BackingRun := { s with gpu := { s.gpu with link := l } }

def removeUserBacking (s : BackingRun) (client id : Nat) : BackingRun :=
  if id = 0 then s else
  match (s.client client).find? id with
  | none => s
  | some b =>
      let s₁ := s.setTable client ((s.client client).clear id .free)
      match b.desc with
      | none => s₁
      | some d => s₁.complete d.serial

def removeAllUserBackings (s : BackingRun) (client : Nat) : BackingRun :=
  { s with
    wired := s.wired.filter fun n => n ∉ (s.client client).serials
    client := Function.update s.client client .empty }

/-! ### The selectors -/

def createResource3DEx (s : BackingRun) (e : Env) (ctx : Nat) (texture : Texture) :
    IOReturn × BackingRun :=
  let (ret, g) := s.gpu.createResource3DEx e ctx texture
  (ret, { s with gpu := g })

/-- `attachBackingUser` up to the point where the command is built: the memory
described, prepared and walked. Every way out before that point completes and
releases the descriptor, if there is one. -/
def describeUserMemory (s : BackingRun) (e : Env) (client id addr len : Nat) :
    Except IOReturn MemoryDescriptor :=
  if id = 0 ∨ addr = 0 ∨ len = 0 then .error .badArgument
  else if ((s.client client).findUserBacking id).isSome then .error .busy else
  match e.withAddressRange addr len with
  | none => .error .noMemory
  | some d =>
      if d.prepareRet ≠ .success then .error d.prepareRet
      else if d.segments = [] ∨ d.walked ≠ d.length then .error .noMemory
      else if e.alloc .attachCommand = false then .error .noMemory
      else .ok d

/-- The command for memory that client `client` has described. -/
def attachCmd (s : BackingRun) (client id : Nat) (d : MemoryDescriptor) : HostCmd :=
  .resourceAttachBacking id ⟨d.wireEntries, some ⟨client, s.nextSerial⟩⟩

/-- `attachBackingUser` from there on: the command is sent and the descriptor
kept, or given up when the command fails or the table has no room. -/
def attachUserMemory (s : BackingRun) (e : Env) (client id : Nat) (d : MemoryDescriptor) :
    IOReturn × BackingRun :=
  let (ret, s₁) := s.wire.send e (s.attachCmd client id d)
  if ret ≠ .success then (ret, s₁.complete s.nextSerial) else
  match (s.client client).addUserBacking id ⟨s.nextSerial, d⟩ with
  | none => (.noResources, s₁.complete s.nextSerial)
  | some t => (.success, s₁.setTable client t)

def attachBackingUser (s : BackingRun) (e : Env) (client id addr len : Nat) :
    IOReturn × BackingRun :=
  match s.describeUserMemory e client id addr len with
  | .error ret => (ret, s)
  | .ok d => s.attachUserMemory e client id d

/-- `detachBackingUser` gives the descriptor up whatever the host answered. -/
def detachBackingUser (s : BackingRun) (e : Env) (client id : Nat) : IOReturn × BackingRun :=
  let (ret, s₁) := s.send e (.resourceDetachBacking id)
  (ret, s₁.removeUserBacking client id)

/-- `resourceUnref` gives the descriptor up before the host is told. -/
def resourceUnref (s : BackingRun) (e : Env) (client id : Nat) : IOReturn × BackingRun :=
  if id = 0 then (.badArgument, s) else
  let s₁ := if ((s.client client).findUserBacking id).isSome then s.removeUserBacking client id
    else s
  s₁.send e (.resourceUnref id)

/-- `clientClose`, for a client with no probe in progress. Nothing is sent. -/
def clientClose (s : BackingRun) (client : Nat) : BackingRun := s.removeAllUserBackings client

def clientDied (s : BackingRun) (client : Nat) : BackingRun := s.clientClose client

/-! ### Runs -/

inductive BackingCall where
  | createResource3DEx (ctx : Nat) (texture : Texture)
  | attachBackingUser (client id addr len : Nat)
  | detachBackingUser (client id : Nat)
  | resourceUnref (client id : Nat)
  | clientClose (client : Nat)
  | clientDied (client : Nat)
  /-- the host executes a command whose caller has given up on it -/
  | hostLate
  deriving DecidableEq, Repr

def step (s : BackingRun) : BackingCall × Env → Option BackingRun
  | (.createResource3DEx ctx texture, e) => some (s.createResource3DEx e ctx texture).2
  | (.attachBackingUser client id addr len, e) => some (s.attachBackingUser e client id addr len).2
  | (.detachBackingUser client id, e) => some (s.detachBackingUser e client id).2
  | (.resourceUnref client id, e) => some (s.resourceUnref e client id).2
  | (.clientClose client, _) => some (s.clientClose client)
  | (.clientDied client, _) => some (s.clientDied client)
  | (.hostLate, _) => s.gpu.link.execLate.map s.setLink

def machine (supports3D : Bool) (maxScanouts : Nat) : Machine BackingRun (BackingCall × Env) where
  init := ⟨.init supports3D maxScanouts, fun _ => .empty, [], 0⟩
  step := step

/-! ## The property -/

def host (s : BackingRun) : Host := s.gpu.link.host

/-- `client` keeps descriptor `serial` for resource `id`: it describes exactly
`entries`, and its pages are wired. -/
def Held (s : BackingRun) (src : DescriptorId) (id : Nat) (entries : List MemEntry) : Prop :=
  ∃ d : UserDescriptor, (s.client src.client).Live ⟨id, some d⟩ ∧ d.serial = src.serial ∧
    d.memory.segments = entries ∧ d.serial ∈ s.wired

/-- What the host may rely on. -/
structure Backed (s : BackingRun) : Prop where
  /-- the pages of every list into client memory are wired and accounted for -/
  held : ∀ id list src, s.host.Lists id list → list.source = some src →
    s.Held src id list.entries
  /-- no list leads into the memory of a client whose table is as a close leaves it -/
  closed : ∀ client, s.client client = .empty → ∀ id list src, s.host.Lists id list →
    list.source = some src → src.client ≠ client

/-- The resource's scatter list leads into memory of `client`. -/
def LeadsInto (r : HostResource) (client : Nat) : Prop :=
  (r.backing.bind ScatterList.source).any (fun src => src.client == client) = true

/-- When a call keeps `Backed`. A list the host accepts must find a free slot
and have no segment of 4 GiB or more; a descriptor may only be given up when the
host has been told successfully, or holds no list of this client for the
resource; a late attachment must find its resource gone. -/
def CallOk (s : BackingRun) : BackingCall × Env → Prop
  | (.createResource3DEx .., _) => True
  | (.attachBackingUser client id addr len, e) =>
      ∀ d, s.describeUserMemory e client id addr len = .ok d →
        (e.ask (s.attachCmd client id d)).ret = .success → s.host.hasResource id = true →
          (s.client client).freeIdx?.isSome = true ∧ ∀ seg ∈ d.segments, seg.length < u32
  | (.detachBackingUser client id, e) =>
      (e.ask (.resourceDetachBacking id)).ret ≠ .success →
        ∀ r ∈ s.host.resources, r.id = id → ¬ LeadsInto r client
  | (.resourceUnref client id, e) =>
      (e.ask (.resourceUnref id)).ret ≠ .success →
        ∀ r ∈ s.host.resources, r.id = id → ¬ LeadsInto r client
  | (.clientClose client, _) => ∀ r ∈ s.host.resources, ¬ LeadsInto r client
  | (.clientDied client, _) => ∀ r ∈ s.host.resources, ¬ LeadsInto r client
  | (.hostLate, _) =>
      ∀ id list, s.gpu.link.pending.head? = some (.resourceAttachBacking id list) →
        list.source.isSome = true → s.host.hasResource id = false

/-! ## The state between calls -/

/-- No table has descriptor `serial`. -/
def Unlisted (s : BackingRun) (serial : Nat) : Prop :=
  ∀ client id d, (s.client client).Live ⟨id, some d⟩ → d.serial ≠ serial

/-- What every call keeps. -/
structure Inv (s : BackingRun) : Prop where
  desc : ∀ client b, (s.client client).Live b → b.desc.isSome = true
  once : ∀ client id, (s.client client).mult id ≤ 1
  wired : ∀ client id d, (s.client client).Live ⟨id, some d⟩ → d.serial ∈ s.wired
  fresh : ∀ client id d, (s.client client).Live ⟨id, some d⟩ → d.serial < s.nextSerial
  unique : ∀ client client' id id' d d', (s.client client).Live ⟨id, some d⟩ →
    (s.client client').Live ⟨id', some d'⟩ → d.serial = d'.serial → client = client' ∧ id = id'
  /-- a caller that gave up on its attachment gave up the descriptor as well -/
  pending : ∀ id list src, .resourceAttachBacking id list ∈ s.gpu.link.pending →
    list.source = some src → src.serial < s.nextSerial ∧ s.Unlisted src.serial

/-- Table `t` has descriptor `serial`, of exactly `entries`, for resource `id`. -/
def Keeps (t : UserBackings) (serial id : Nat) (entries : List MemEntry) : Prop :=
  ∃ d : UserDescriptor, t.Live ⟨id, some d⟩ ∧ d.serial = serial ∧ d.memory.segments = entries

theorem held_iff {s : BackingRun} (hi : s.Inv) {src : DescriptorId} {id : Nat}
    {entries : List MemEntry} :
    s.Held src id entries ↔ Keeps (s.client src.client) src.serial id entries := by
  constructor
  · rintro ⟨d, hlive, hserial, hsegs, -⟩
    exact ⟨d, hlive, hserial, hsegs⟩
  · rintro ⟨d, hlive, hserial, hsegs⟩
    exact ⟨d, hlive, hserial, hsegs, hi.wired _ _ _ hlive⟩

/-- Between calls, tables are all that `Backed` is about. -/
theorem backed_iff {s : BackingRun} (hi : s.Inv) : s.Backed ↔
    ∀ id list src, s.host.Lists id list → list.source = some src →
      Keeps (s.client src.client) src.serial id list.entries := by
  constructor
  · intro h id list src hlist hsrc
    exact (held_iff hi).mp (h.held id list src hlist hsrc)
  · intro h
    refine ⟨fun id list src hlist hsrc => (held_iff hi).mpr (h id list src hlist hsrc), ?_⟩
    rintro client hempty id list src hlist hsrc rfl
    obtain ⟨d, hlive, -⟩ := h id list src hlist hsrc
    rw [hempty] at hlive
    exact UserBackings.not_live_empty _ hlive

theorem forall_not_leadsInto_iff {h : Host} {id client : Nat} :
    (∀ r ∈ h.resources, r.id = id → ¬ LeadsInto r client) ↔
      ∀ list src, h.Lists id list → list.source = some src → src.client ≠ client := by
  constructor
  · intro hall list src hlist hsrc hclient
    refine hall _ hlist rfl ?_
    simp [LeadsInto, hsrc, hclient]
  · rintro hall ⟨id, backing⟩ hr rfl hleads
    cases backing with
    | none => simp [LeadsInto] at hleads
    | some list =>
        simp only [LeadsInto, Option.bind_some, Option.any_eq_true, beq_iff_eq] at hleads
        obtain ⟨src, hsrc, hclient⟩ := hleads
        exact hall list src hr hsrc hclient

/-! ### Steps of a call -/

theorem client_setTable_self (s : BackingRun) (client : Nat) (t : UserBackings) :
    (s.setTable client t).client client = t := Function.update_self ..

theorem client_setTable_of_ne (s : BackingRun) {client c : Nat} (t : UserBackings)
    (h : c ≠ client) : (s.setTable client t).client c = s.client c := Function.update_of_ne h ..

theorem client_complete (s : BackingRun) (serial : Nat) :
    (s.complete serial).client = s.client := rfl

theorem inv_wire {s : BackingRun} (hi : s.Inv) : s.wire.Inv where
  desc := hi.desc
  once := hi.once
  wired client id d h := List.mem_cons_of_mem _ (hi.wired client id d h)
  fresh client id d h := Nat.lt_succ_of_lt (hi.fresh client id d h)
  unique := hi.unique
  pending id list src h hsrc :=
    (hi.pending id list src h hsrc).imp Nat.lt_succ_of_lt fun hun => hun

theorem unlisted_nextSerial {s : BackingRun} (hi : s.Inv) : s.Unlisted s.nextSerial :=
  fun client id d h => Nat.ne_of_lt (hi.fresh client id d h)

theorem inv_complete {s : BackingRun} {serial : Nat} (hi : s.Inv) (hun : s.Unlisted serial) :
    (s.complete serial).Inv where
  desc := hi.desc
  once := hi.once
  wired client id d h :=
    List.mem_filter.mpr ⟨hi.wired client id d h, decide_eq_true (hun client id d h)⟩
  fresh := hi.fresh
  unique := hi.unique
  pending := hi.pending

theorem inv_send {s : BackingRun} (e : Env) {cmd : HostCmd} (hi : s.Inv)
    (hcmd : ∀ id list src, cmd = .resourceAttachBacking id list → list.source = some src →
      src.serial < s.nextSerial ∧ s.Unlisted src.serial) : (s.send e cmd).2.Inv where
  desc := hi.desc
  once := hi.once
  wired := hi.wired
  fresh := hi.fresh
  unique := hi.unique
  pending id list src h hsrc := by
    rcases Link.mem_pending_send h with h | ⟨h, -⟩
    · exact hi.pending id list src h hsrc
    · exact hcmd id list src h.symm hsrc

/-- A live slot of the tables after an addition is an old one or the new one. -/
theorem live_of_add {s : BackingRun} {client c id : Nat} {t : UserBackings} {d : UserDescriptor}
    {b : UserBacking}
    (hlive : ∀ b, t.Live b ↔ (s.client client).Live b ∨ b = ⟨id, some d⟩)
    (h : ((s.setTable client t).client c).Live b) :
    (s.client c).Live b ∨ c = client ∧ b = ⟨id, some d⟩ := by
  by_cases hc : c = client
  · subst hc
    rw [client_setTable_self] at h
    exact ((hlive b).mp h).imp_right fun hb => ⟨rfl, hb⟩
  · rw [client_setTable_of_ne s t hc] at h
    exact Or.inl h

/-- A descriptor gets its slot. -/
theorem inv_add {s : BackingRun} {client id : Nat} {t : UserBackings} {d : UserDescriptor}
    (hi : s.Inv) (hlive : ∀ b, t.Live b ↔ (s.client client).Live b ∨ b = ⟨id, some d⟩)
    (honce : ∀ k, t.mult k ≤ 1) (hwired : d.serial ∈ s.wired) (hfresh : d.serial < s.nextSerial)
    (hun : s.Unlisted d.serial)
    (hpending : ∀ k list src, .resourceAttachBacking k list ∈ s.gpu.link.pending →
      list.source = some src → src.serial ≠ d.serial) : (s.setTable client t).Inv := by
  have hdesc : ∀ c k d', ((s.setTable client t).client c).Live ⟨k, some d'⟩ →
      (s.client c).Live ⟨k, some d'⟩ ∨ c = client ∧ k = id ∧ d' = d := by
    intro c k d' hb
    refine (live_of_add hlive hb).imp_right fun h => ⟨h.1, ?_⟩
    simpa using h.2
  refine ⟨fun c b hb => ?_, fun c k => ?_, fun c k d' hb => ?_, fun c k d' hb => ?_,
    fun c c' k k' d₁ d₂ h₁ h₂ heq => ?_, fun k list src h hsrc => ?_⟩
  · rcases live_of_add hlive hb with h | ⟨-, rfl⟩
    · exact hi.desc c b h
    · rfl
  · by_cases hc : c = client
    · subst hc
      rw [client_setTable_self]
      exact honce k
    · rw [client_setTable_of_ne s t hc]
      exact hi.once c k
  -- the new descriptor is wired, drawn before now, and in no other slot
  · rcases hdesc c k d' hb with h | ⟨-, -, rfl⟩
    · exact hi.wired c k d' h
    · exact hwired
  · rcases hdesc c k d' hb with h | ⟨-, -, rfl⟩
    · exact hi.fresh c k d' h
    · exact hfresh
  · rcases hdesc c k d₁ h₁ with old₁ | ⟨rfl, rfl, rfl⟩
    · rcases hdesc c' k' d₂ h₂ with old₂ | ⟨rfl, rfl, rfl⟩
      · exact hi.unique c c' k k' d₁ d₂ old₁ old₂ heq
      · exact absurd heq (hun c k d₁ old₁)
    · rcases hdesc c' k' d₂ h₂ with old₂ | ⟨rfl, rfl, rfl⟩
      · exact absurd heq.symm (hun c' k' d₂ old₂)
      · exact ⟨rfl, rfl⟩
  · obtain ⟨hlt, hold⟩ := hi.pending k list src h hsrc
    refine ⟨hlt, fun c k' d' hb => ?_⟩
    rcases hdesc c k' d' hb with h' | ⟨-, -, rfl⟩
    · exact hold c k' d' h'
    · exact (hpending k list src h hsrc).symm

/-- Tables that only lost slots, with the descriptors they still have wired. -/
theorem inv_of_fewer {s t : BackingRun} (hi : s.Inv)
    (hlive : ∀ c b, (t.client c).Live b → (s.client c).Live b)
    (honce : ∀ c k, (t.client c).mult k ≤ (s.client c).mult k)
    (hwired : ∀ c k d, (t.client c).Live ⟨k, some d⟩ → d.serial ∈ s.wired → d.serial ∈ t.wired)
    (hnext : t.nextSerial = s.nextSerial)
    (hpending : t.gpu.link.pending = s.gpu.link.pending) : t.Inv where
  desc c b h := hi.desc c b (hlive c b h)
  once c k := Nat.le_trans (honce c k) (hi.once c k)
  wired c k d h := hwired c k d h (hi.wired c k d (hlive c _ h))
  fresh c k d h := hnext ▸ hi.fresh c k d (hlive c _ h)
  unique c c' k k' d d' h h' heq := hi.unique c c' k k' d d' (hlive c _ h) (hlive c' _ h') heq
  pending k list src h hsrc := by
    rw [hpending] at h
    obtain ⟨hlt, hun⟩ := hi.pending k list src h hsrc
    exact ⟨hnext ▸ hlt, fun c k' d hd => hun c k' d (hlive c _ hd)⟩

/-! ### Giving descriptors up -/

/-- Removing a slot does nothing, for want of one, or clears it and completes
its descriptor. -/
theorem removeUserBacking_cases {s : BackingRun} (hi : s.Inv) (client id : Nat) :
    (s.removeUserBacking client id = s ∧ ∀ b, (s.client client).Live b → b.resourceId ≠ id) ∨
      ∃ d : UserDescriptor, id ≠ 0 ∧ (s.client client).Live ⟨id, some d⟩ ∧
        s.removeUserBacking client id =
          (s.setTable client ((s.client client).clear id .free)).complete d.serial := by
  unfold removeUserBacking
  split
  · next hid =>
    subst hid
    exact Or.inl ⟨rfl, fun b hb => hb.2⟩
  next hid =>
  cases hfind : (s.client client).find? id with
  | none =>
      have hnone := (SlotTable.mult_eq_zero_iff hid).mp (SlotTable.find?_eq_none_iff.mp hfind)
      exact Or.inl ⟨rfl, hnone⟩
  | some found =>
      obtain ⟨hlive, hkey⟩ := SlotTable.live_of_find? hfind
      obtain ⟨k, desc⟩ := found
      obtain ⟨d, rfl⟩ := Option.isSome_iff_exists.mp (hi.desc client _ hlive)
      obtain rfl : k = id := hkey
      exact Or.inr ⟨d, hid, hlive, rfl⟩

theorem live_removeUserBacking {s : BackingRun} (hi : s.Inv) (client id c : Nat)
    (b : UserBacking) : ((s.removeUserBacking client id).client c).Live b ↔
      (s.client c).Live b ∧ ¬ (c = client ∧ b.resourceId = id) := by
  rcases removeUserBacking_cases hi client id with ⟨heq, hnone⟩ | ⟨d, hid, -, heq⟩
  · rw [heq]
    refine ⟨fun h => ⟨h, ?_⟩, fun h => h.1⟩
    rintro ⟨rfl, hb⟩
    exact hnone b h hb
  · rw [heq]
    by_cases hc : c = client
    · subst hc
      simp only [client_complete, client_setTable_self, true_and]
      exact SlotTable.live_clear UserBacking.resourceId_free hid (hi.once c id)
    · simp only [client_complete, client_setTable_of_ne s _ hc, hc, false_and, not_false_eq_true,
        and_true]

theorem inv_clear {s : BackingRun} (client : Nat) {id : Nat} (hid : id ≠ 0) (hi : s.Inv) :
    (s.setTable client ((s.client client).clear id .free)).Inv := by
  refine inv_of_fewer hi (fun c b h => ?_) (fun c k => ?_) (fun _ _ _ _ hw => hw) rfl rfl
  · by_cases hc : c = client
    · subst hc
      rw [client_setTable_self] at h
      exact ((SlotTable.live_clear UserBacking.resourceId_free hid (hi.once c id)).mp h).1
    · rw [client_setTable_of_ne s _ hc] at h
      exact h
  · by_cases hc : c = client
    · subst hc
      rw [client_setTable_self, SlotTable.mult_clear UserBacking.resourceId_free]
      split
      · next hk => exact hk ▸ Nat.sub_le _ _
      · exact Nat.le_refl _
    · exact Nat.le_of_eq (by rw [client_setTable_of_ne s _ hc])

theorem inv_removeUserBacking {s : BackingRun} (client id : Nat) (hi : s.Inv) :
    (s.removeUserBacking client id).Inv := by
  have hfewer := live_removeUserBacking hi client id
  rcases removeUserBacking_cases hi client id with ⟨heq, -⟩ | ⟨d, hid, hlive, heq⟩
  · rw [heq]
    exact hi
  · rw [heq] at hfewer ⊢
    refine inv_complete (inv_clear client hid hi) fun c k d' h hserial => ?_
    -- the slot given up is the only one with its descriptor
    obtain ⟨hold, hne⟩ := (hfewer c ⟨k, some d'⟩).mp h
    exact hne (hi.unique c client k id d' d hold hlive hserial)

theorem live_removeAllUserBackings {s : BackingRun} (client c : Nat) (b : UserBacking) :
    ((s.removeAllUserBackings client).client c).Live b ↔ (s.client c).Live b ∧ c ≠ client := by
  by_cases hc : c = client
  · subst hc
    simp only [removeAllUserBackings, Function.update_self, ne_eq, not_true_eq_false, and_false,
      iff_false]
    exact UserBackings.not_live_empty b
  · simp only [removeAllUserBackings, Function.update_of_ne hc, ne_eq, hc, not_false_eq_true,
      and_true]

theorem mem_serials {t : UserBackings} {serial : Nat} :
    serial ∈ t.serials ↔ ∃ id d, t.Live ⟨id, some d⟩ ∧ d.serial = serial := by
  unfold UserBackings.serials
  rw [List.mem_filterMap]
  constructor
  · rintro ⟨⟨id, desc⟩, hmem, hb⟩
    split at hb
    · cases hb
    · next hid =>
      obtain ⟨d, rfl, hd⟩ := Option.map_eq_some_iff.mp hb
      exact ⟨id, d, ⟨hmem, hid⟩, hd⟩
  · rintro ⟨id, d, ⟨hmem, hid⟩, rfl⟩
    exact ⟨_, hmem, if_neg hid⟩

theorem inv_removeAllUserBackings {s : BackingRun} (client : Nat) (hi : s.Inv) :
    (s.removeAllUserBackings client).Inv := by
  refine inv_of_fewer hi (fun c b h => ((live_removeAllUserBackings client c b).mp h).1)
    (fun c k => ?_) (fun c k d h hw => ?_) rfl rfl
  · by_cases hc : c = client
    · subst hc
      simp only [removeAllUserBackings, Function.update_self]
      rw [UserBackings.empty, SlotTable.mult_replicate UserBacking.resourceId_free]
      exact Nat.zero_le _
    · simp only [removeAllUserBackings, Function.update_of_ne hc, Nat.le_refl]
  · obtain ⟨hlive, hne⟩ := (live_removeAllUserBackings client c _).mp h
    refine List.mem_filter.mpr ⟨hw, decide_eq_true fun hmem => ?_⟩
    obtain ⟨k', d', hlive', heq⟩ := mem_serials.mp hmem
    exact hne (hi.unique c client k k' d d' hlive hlive' heq.symm).1

theorem find?_eq_none_of_findUserBacking {s : BackingRun} {client id : Nat} (hi : s.Inv)
    (h : (s.client client).findUserBacking id = none) : (s.client client).find? id = none := by
  unfold UserBackings.findUserBacking at h
  cases hfind : (s.client client).find? id with
  | none => rfl
  | some b =>
      rw [hfind] at h
      have hsome := hi.desc client b (SlotTable.live_of_find? hfind).1
      rw [show b.desc = none from h] at hsome
      cases hsome

/-! ### attachBackingUser -/

theorem describeUserMemory_ok {s : BackingRun} {e : Env} {client id addr len : Nat}
    {d : MemoryDescriptor} (h : s.describeUserMemory e client id addr len = .ok d) :
    id ≠ 0 ∧ (s.client client).findUserBacking id = none := by
  unfold describeUserMemory at h
  split at h
  · cases h
  next hargs =>
  split at h
  · cases h
  next hfound =>
  exact ⟨fun hid => hargs (Or.inl hid), Option.not_isSome_iff_eq_none.mp hfound⟩

theorem withAddressRange_of_describeUserMemory {s : BackingRun} {e : Env}
    {client id addr len : Nat} {d : MemoryDescriptor}
    (h : s.describeUserMemory e client id addr len = .ok d) :
    e.withAddressRange addr len = some d := by
  unfold describeUserMemory at h
  split at h
  · cases h
  split at h
  · cases h
  split at h
  · cases h
  next d' hd' =>
  split at h
  · cases h
  split at h
  · cases h
  split at h
  · cases h
  · cases h
    exact hd'

/-- The table after an accepted attachment, if there was room. -/
theorem addUserBacking_eq {s : BackingRun} {client id : Nat} (hid : id ≠ 0)
    (hnew : (s.client client).findUserBacking id = none) (d : UserDescriptor) :
    (s.client client).addUserBacking id d =
      (s.client client).freeIdx?.map fun i => (s.client client).put i ⟨id, some d⟩ := by
  unfold UserBackings.addUserBacking
  rw [if_neg hid, if_neg (by rw [hnew]; exact Bool.false_ne_true)]

/-- The command is out, and nothing keeps the descriptor yet. -/
theorem inv_send_attach {s : BackingRun} (e : Env) (client id : Nat) (d : MemoryDescriptor)
    (hi : s.Inv) : (s.wire.send e (s.attachCmd client id d)).2.Inv := by
  refine inv_send e (inv_wire hi) fun k list src hcmd hsrc => ?_
  obtain ⟨-, rfl⟩ := HostCmd.resourceAttachBacking.injEq .. ▸ hcmd
  obtain rfl := Option.some.inj hsrc
  exact ⟨Nat.lt_succ_self _, unlisted_nextSerial hi⟩

/-- An attachment whose descriptor is given up right away. -/
theorem inv_attach_dropped {s : BackingRun} (e : Env) (client id : Nat) (d : MemoryDescriptor)
    (hi : s.Inv) : ((s.wire.send e (s.attachCmd client id d)).2.complete s.nextSerial).Inv :=
  inv_complete (inv_send_attach e client id d hi) (unlisted_nextSerial hi)

theorem inv_attach_kept {s : BackingRun} (e : Env) {client id i : Nat} (d : MemoryDescriptor)
    (hi : s.Inv) (hid : id ≠ 0) (hnew : (s.client client).findUserBacking id = none)
    (hfree : (s.client client).freeIdx? = some i)
    (hret : (e.ask (s.attachCmd client id d)).ret = .success) :
    ((s.wire.send e (s.attachCmd client id d)).2.setTable client
      ((s.client client).put i ⟨id, some ⟨s.nextSerial, d⟩⟩)).Inv := by
  have hisFree := SlotTable.isFree_of_freeIdx? hfree
  refine inv_add (inv_send_attach e client id d hi)
    (fun b => SlotTable.live_put_free hisFree hid) (fun k => ?_) List.mem_cons_self
    (Nat.lt_succ_self _) (unlisted_nextSerial hi) fun k list src hmem hsrc => ?_
  · rw [SlotTable.mult_put_free hisFree]
    have honce := hi.once client k
    split
    · next hk =>
      obtain ⟨-, rfl⟩ := hk
      have hzero := SlotTable.find?_eq_none_iff.mp (find?_eq_none_of_findUserBacking hi hnew)
      have hzero : (s.client client).mult id = 0 := hzero
      exact Nat.le_of_eq (by rw [hzero])
    · exact honce
  · -- an accepted command is not pending
    rcases Link.mem_pending_send hmem with hmem | ⟨-, htimeout⟩
    · exact Nat.ne_of_lt (hi.pending k list src hmem hsrc).1
    · have htimeout : e.ask (s.attachCmd client id d) = .timeout := htimeout
      rw [htimeout] at hret
      cases hret

theorem host_send_attach {s : BackingRun} (e : Env) (client id : Nat) (d : MemoryDescriptor)
    (hret : (e.ask (s.attachCmd client id d)).ret = .success) {k : Nat} {list : ScatterList} :
    (s.wire.send e (s.attachCmd client id d)).2.host.Lists k list ↔
      (k ≠ id ∧ s.host.Lists k list) ∨
        (k = id ∧ list = ⟨d.wireEntries, some ⟨client, s.nextSerial⟩⟩ ∧
          s.host.hasResource id = true) := by
  have hhost : (s.wire.send e (s.attachCmd client id d)).2.host =
      s.host.exec (s.attachCmd client id d) :=
    congrArg Link.host (Link.send_of_success hret)
  rw [hhost]
  exact Host.lists_exec

theorem inv_attachBackingUser {s : BackingRun} (e : Env) (client id addr len : Nat) (hi : s.Inv) :
    (s.attachBackingUser e client id addr len).2.Inv := by
  unfold attachBackingUser
  split
  · exact hi
  next d hd =>
  obtain ⟨hid, hnew⟩ := describeUserMemory_ok hd
  unfold attachUserMemory
  rw [addUserBacking_eq hid hnew]
  dsimp only
  split
  · exact inv_attach_dropped e client id d hi
  next hret =>
  cases hfree : (s.client client).freeIdx? with
  | none => exact inv_attach_dropped e client id d hi
  | some i => exact inv_attach_kept e d hi hid hnew hfree (not_not.mp hret)

/-- Nothing the host holds changed, and no table lost anything. -/
theorem backed_of_same_host {s t : BackingRun} (hs : s.Inv) (ht : t.Inv) (hb : s.Backed)
    (hclient : t.client = s.client) (hhost : t.host = s.host) : t.Backed := by
  rw [backed_iff ht, hclient, hhost]
  exact (backed_iff hs).mp hb

/-- An attachment the host accepts, given up for want of a slot. -/
theorem backed_attach_dropped_iff {s : BackingRun} (e : Env) (client id : Nat)
    (d : MemoryDescriptor) (hi : s.Inv) (hb : s.Backed)
    (hret : (e.ask (s.attachCmd client id d)).ret = .success) :
    ((s.wire.send e (s.attachCmd client id d)).2.complete s.nextSerial).Backed ↔
      s.host.hasResource id = false := by
  rw [backed_iff (inv_attach_dropped e client id d hi)]
  have hold := (backed_iff hi).mp hb
  constructor
  · intro h
    rw [← Bool.not_eq_true]
    intro hhas
    -- the new list's descriptor is in no table
    obtain ⟨d', hlive, hserial, -⟩ := h id _ ⟨client, s.nextSerial⟩
      ((host_send_attach e client id d hret).mpr (Or.inr ⟨rfl, rfl, hhas⟩)) rfl
    exact unlisted_nextSerial hi client id d' hlive hserial
  · intro hhas k list src hlist hsrc
    rcases (host_send_attach e client id d hret).mp hlist with ⟨-, hlist⟩ | ⟨-, -, htrue⟩
    · exact hold k list src hlist hsrc
    · rw [hhas] at htrue
      cases htrue

/-- An attachment the host accepts, with its descriptor kept. -/
theorem backed_attach_kept_iff {s : BackingRun} (e : Env) {client id i : Nat}
    (d : MemoryDescriptor) (hi : s.Inv) (hb : s.Backed) (hid : id ≠ 0)
    (hnew : (s.client client).findUserBacking id = none)
    (hfree : (s.client client).freeIdx? = some i)
    (hret : (e.ask (s.attachCmd client id d)).ret = .success) :
    ((s.wire.send e (s.attachCmd client id d)).2.setTable client
      ((s.client client).put i ⟨id, some ⟨s.nextSerial, d⟩⟩)).Backed ↔
      (s.host.hasResource id = true → d.wireEntries = d.segments) := by
  rw [backed_iff (inv_attach_kept e d hi hid hnew hfree hret)]
  have hold := (backed_iff hi).mp hb
  have hput : ∀ b, ((s.client client).put i ⟨id, some ⟨s.nextSerial, d⟩⟩).Live b ↔
      (s.client client).Live b ∨ b = ⟨id, some ⟨s.nextSerial, d⟩⟩ :=
    fun b => SlotTable.live_put_free (SlotTable.isFree_of_freeIdx? hfree) hid
  constructor
  · intro h hhas
    obtain ⟨d', hlive, hserial, hsegs⟩ := h id _ ⟨client, s.nextSerial⟩
      ((host_send_attach e client id d hret).mpr (Or.inr ⟨rfl, rfl, hhas⟩)) rfl
    rw [client_setTable_self] at hlive
    rcases (hput _).mp hlive with hlive | heq
    · exact absurd hserial (unlisted_nextSerial hi client id d' hlive)
    · obtain rfl : d' = ⟨s.nextSerial, d⟩ := by simpa using heq
      exact hsegs.symm
  · intro hwire k list src hlist hsrc
    rcases (host_send_attach e client id d hret).mp hlist with ⟨-, hlist⟩ | ⟨rfl, rfl, hhas⟩
    · obtain ⟨d', hlive, hserial, hsegs⟩ := hold k list src hlist hsrc
      refine ⟨d', ?_, hserial, hsegs⟩
      by_cases hc : src.client = client
      · rw [hc] at hlive ⊢
        rw [client_setTable_self]
        exact (hput _).mpr (Or.inl hlive)
      · rw [client_setTable_of_ne _ _ hc]
        exact hlive
    · obtain rfl := Option.some.inj hsrc
      refine ⟨⟨s.nextSerial, d⟩, ?_, rfl, (hwire hhas).symm⟩
      rw [client_setTable_self]
      exact (hput _).mpr (Or.inr rfl)

theorem backed_attachBackingUser_iff {s : BackingRun} (e : Env) (client id addr len : Nat)
    (hi : s.Inv) (hb : s.Backed) : (s.attachBackingUser e client id addr len).2.Backed ↔
      s.CallOk (.attachBackingUser client id addr len, e) := by
  unfold attachBackingUser
  dsimp only [CallOk]
  split
  · next hd =>
    rw [hd]
    exact iff_of_true hb fun d h => (by cases h)
  next d hd =>
  obtain ⟨hid, hnew⟩ := describeUserMemory_ok hd
  simp only [hd, Except.ok.injEq, forall_eq']
  unfold attachUserMemory
  rw [addUserBacking_eq hid hnew]
  dsimp only
  split
  · next hret =>
    refine iff_of_true ?_ fun h => absurd h hret
    exact backed_of_same_host hi (inv_attach_dropped e client id d hi) hb rfl
      (Link.host_send_of_not_success hret)
  next hret =>
  have hret : (e.ask (s.attachCmd client id d)).ret = .success := not_not.mp hret
  cases hfree : (s.client client).freeIdx? with
  | none =>
      refine (backed_attach_dropped_iff e client id d hi hb hret).trans ?_
      simp [hret]
  | some i =>
      refine (backed_attach_kept_iff e d hi hb hid hnew hfree hret).trans ?_
      simp [hret, MemoryDescriptor.wireEntries_eq_iff]

/-! ### detachBackingUser and resourceUnref -/

/-- The client gives a descriptor up, and tells the host with result `ret`. -/
theorem backed_drop_iff {s t : BackingRun} {client id : Nat} {ret : IOReturn} (hs : s.Inv)
    (ht : t.Inv) (hb : s.Backed)
    (hlive : ∀ c b, (t.client c).Live b ↔
      (s.client c).Live b ∧ ¬ (c = client ∧ b.resourceId = id))
    (htold : ret = .success → ∀ k list, t.host.Lists k list ↔ k ≠ id ∧ s.host.Lists k list)
    (hfailed : ret ≠ .success → t.host = s.host) :
    t.Backed ↔ (ret ≠ .success →
      ∀ r ∈ s.host.resources, r.id = id → ¬ LeadsInto r client) := by
  rw [backed_iff ht, forall_not_leadsInto_iff]
  have hold := (backed_iff hs).mp hb
  -- away from the client's slot for `id` the tables are as before
  have hkeeps : ∀ k (src : DescriptorId) entries, ¬ (src.client = client ∧ k = id) →
      Keeps (s.client src.client) src.serial k entries →
      Keeps (t.client src.client) src.serial k entries := by
    rintro k src entries hne ⟨d, h, hserial, hsegs⟩
    exact ⟨d, (hlive _ _).mpr ⟨h, hne⟩, hserial, hsegs⟩
  by_cases hret : ret = .success
  · refine iff_of_true (fun k list src hlist hsrc => ?_) fun h => absurd hret h
    obtain ⟨hk, hlist⟩ := (htold hret k list).mp hlist
    exact hkeeps k src _ (fun h => hk h.2) (hold k list src hlist hsrc)
  · rw [hfailed hret]
    constructor
    · rintro h - list src hlist hsrc hclient
      obtain ⟨d, hd, -⟩ := h id list src hlist hsrc
      exact ((hlive _ _).mp hd).2 ⟨hclient, rfl⟩
    · intro h k list src hlist hsrc
      refine hkeeps k src _ ?_ (hold k list src hlist hsrc)
      rintro ⟨hclient, rfl⟩
      exact h hret list src hlist hsrc hclient

theorem lists_send {s : BackingRun} {e : Env} {cmd : HostCmd} {id : Nat}
    (hcmd : cmd = .resourceDetachBacking id ∨ cmd = .resourceUnref id)
    (hret : (e.ask cmd).ret = .success) (k : Nat) (list : ScatterList) :
    (s.send e cmd).2.host.Lists k list ↔ k ≠ id ∧ s.host.Lists k list := by
  have hhost : (s.send e cmd).2.host = s.host.exec cmd :=
    congrArg Link.host (Link.send_of_success hret)
  rw [hhost]
  rcases hcmd with rfl | rfl
  · exact Host.lists_exec
  · exact Host.lists_exec

theorem host_removeUserBacking (s : BackingRun) (client id : Nat) :
    (s.removeUserBacking client id).host = s.host := by
  unfold removeUserBacking
  split
  · rfl
  split
  · rfl
  · dsimp only
    split <;> rfl

theorem inv_detachBackingUser {s : BackingRun} (e : Env) (client id : Nat) (hi : s.Inv) :
    (s.detachBackingUser e client id).2.Inv :=
  inv_removeUserBacking client id (inv_send e hi fun _ _ _ h => (by cases h))

theorem backed_detachBackingUser_iff {s : BackingRun} (e : Env) (client id : Nat) (hi : s.Inv)
    (hb : s.Backed) : (s.detachBackingUser e client id).2.Backed ↔
      s.CallOk (.detachBackingUser client id, e) := by
  have hsent : (s.send e (.resourceDetachBacking id)).2.Inv :=
    inv_send e hi fun _ _ _ h => (by cases h)
  refine backed_drop_iff hi (inv_detachBackingUser e client id hi) hb (fun c b => ?_)
    (fun hret k list => ?_) fun hret => ?_
  · exact live_removeUserBacking hsent client id c b
  · dsimp only [detachBackingUser]
    rw [host_removeUserBacking]
    exact lists_send (Or.inl rfl) hret k list
  · dsimp only [detachBackingUser]
    rw [host_removeUserBacking]
    exact Link.host_send_of_not_success hret

/-- The lookup before the removal makes no difference. -/
theorem resourceUnref_eq {s : BackingRun} (e : Env) (client id : Nat) (hi : s.Inv) (hid : id ≠ 0) :
    (s.resourceUnref e client id).2 =
      ((s.removeUserBacking client id).send e (.resourceUnref id)).2 := by
  unfold resourceUnref
  rw [if_neg hid]
  dsimp only
  split
  · rfl
  · next hfound =>
    have hnone := find?_eq_none_of_findUserBacking hi (Option.not_isSome_iff_eq_none.mp hfound)
    unfold removeUserBacking
    rw [if_neg hid, hnone]

theorem inv_resourceUnref {s : BackingRun} (e : Env) (client id : Nat) (hi : s.Inv) :
    (s.resourceUnref e client id).2.Inv := by
  by_cases hid : id = 0
  · rw [resourceUnref, if_pos hid]
    exact hi
  · rw [resourceUnref_eq e client id hi hid]
    exact inv_send e (inv_removeUserBacking client id hi) fun _ _ _ h => (by cases h)

theorem backed_resourceUnref_iff {s : BackingRun} (e : Env) (client id : Nat) (hi : s.Inv)
    (hb : s.Backed) : (s.resourceUnref e client id).2.Backed ↔
      s.CallOk (.resourceUnref client id, e) := by
  by_cases hid : id = 0
  · subst hid
    refine iff_of_true hb fun _ => forall_not_leadsInto_iff.mpr fun list src hlist hsrc => ?_
    -- a list into client memory is under an id that has a slot
    obtain ⟨d, hd, -⟩ := (backed_iff hi).mp hb 0 list src hlist hsrc
    exact absurd rfl hd.2
  · have ht := inv_resourceUnref e client id hi
    rw [resourceUnref_eq e client id hi hid] at ht ⊢
    refine backed_drop_iff hi ht hb (fun c b => ?_) (fun hret k list => ?_) fun hret => ?_
    · exact live_removeUserBacking hi client id c b
    · rw [lists_send (Or.inr rfl) hret, host_removeUserBacking]
    · exact (Link.host_send_of_not_success hret).trans (host_removeUserBacking s client id)

/-! ### clientClose -/

theorem inv_clientClose {s : BackingRun} (client : Nat) (hi : s.Inv) : (s.clientClose client).Inv :=
  inv_removeAllUserBackings client hi

theorem backed_clientClose_iff {s : BackingRun} (client : Nat) (hi : s.Inv) (hb : s.Backed) :
    (s.clientClose client).Backed ↔ ∀ r ∈ s.host.resources, ¬ LeadsInto r client := by
  have hall : (∀ r ∈ s.host.resources, ¬ LeadsInto r client) ↔
      ∀ id, ∀ r ∈ s.host.resources, r.id = id → ¬ LeadsInto r client :=
    ⟨fun h _ r hr _ => h r hr, fun h r hr => h r.id r hr rfl⟩
  rw [hall, backed_iff (inv_clientClose client hi)]
  have hold := (backed_iff hi).mp hb
  constructor
  · intro h id
    rw [forall_not_leadsInto_iff]
    intro list src hlist hsrc hclient
    obtain ⟨d, hd, -⟩ := h id list src hlist hsrc
    exact ((live_removeAllUserBackings client src.client _).mp hd).2 hclient
  · intro h id list src hlist hsrc
    have hne := forall_not_leadsInto_iff.mp (h id) list src hlist hsrc
    obtain ⟨d, hd, hserial, hsegs⟩ := hold id list src hlist hsrc
    exact ⟨d, (live_removeAllUserBackings client src.client _).mpr ⟨hd, hne⟩, hserial, hsegs⟩

/-! ### The other steps -/

theorem createResource3DEx_snd (s : BackingRun) (e : Env) (ctx : Nat) (texture : Texture) :
    (s.createResource3DEx e ctx texture).2 =
      ({ s with gpu := s.gpu.allocateUserResourceId.2 }.send e
        (.resourceCreate3D ctx s.gpu.nextUserResourceId texture)).2 := rfl

theorem inv_createResource3DEx {s : BackingRun} (e : Env) (ctx : Nat) (texture : Texture)
    (hi : s.Inv) : (s.createResource3DEx e ctx texture).2.Inv := by
  rw [createResource3DEx_snd]
  have hdrawn : BackingRun.Inv { s with gpu := s.gpu.allocateUserResourceId.2 } :=
    inv_of_fewer hi (fun _ _ h => h) (fun _ _ => Nat.le_refl _) (fun _ _ _ _ h => h) rfl rfl
  exact inv_send e hdrawn fun _ _ _ h => (by cases h)

theorem backed_createResource3DEx {s : BackingRun} (e : Env) (ctx : Nat) (texture : Texture)
    (hi : s.Inv) (hb : s.Backed) : (s.createResource3DEx e ctx texture).2.Backed := by
  rw [backed_iff (inv_createResource3DEx e ctx texture hi)]
  intro id list src hlist hsrc
  refine (backed_iff hi).mp hb id list src ?_ hsrc
  -- a new resource has no list
  let cmd := HostCmd.resourceCreate3D ctx s.gpu.nextUserResourceId texture
  by_cases hret : (e.ask cmd).ret = .success
  · have hhost : (s.createResource3DEx e ctx texture).2.host = s.host.exec cmd :=
      congrArg Link.host (Link.send_of_success hret)
    rw [hhost] at hlist
    exact Host.lists_exec.mp hlist
  · have hhost : (s.createResource3DEx e ctx texture).2.host = s.host :=
      Link.host_send_of_not_success hret
    rw [hhost] at hlist
    exact hlist

/-- The host executes its oldest pending command. -/
theorem inv_hostLate {s : BackingRun} {cmd : HostCmd} {rest : List HostCmd} (hi : s.Inv)
    (hp : s.gpu.link.pending = cmd :: rest) (host : Host) :
    (s.setLink { s.gpu.link with host := host, pending := rest }).Inv where
  desc := hi.desc
  once := hi.once
  wired := hi.wired
  fresh := hi.fresh
  unique := hi.unique
  pending id list src h hsrc := hi.pending id list src (hp ▸ List.mem_cons_of_mem _ h) hsrc

theorem backed_hostLate_iff {s : BackingRun} {cmd : HostCmd} {rest : List HostCmd} (e : Env)
    (hi : s.Inv) (hb : s.Backed) (hp : s.gpu.link.pending = cmd :: rest) :
    (s.setLink { s.gpu.link with host := s.host.exec cmd, pending := rest }).Backed ↔
      s.CallOk (.hostLate, e) := by
  rw [backed_iff (inv_hostLate hi hp _)]
  dsimp only [CallOk]
  rw [hp, List.head?_cons,
    show (s.setLink { s.gpu.link with host := s.host.exec cmd, pending := rest }).host =
      s.host.exec cmd from rfl]
  have hold := (backed_iff hi).mp hb
  cases cmd with
  | resourceAttachBacking id list =>
      constructor
      · rintro h id' list' heq hsome
        obtain ⟨rfl, rfl⟩ := HostCmd.resourceAttachBacking.injEq .. ▸ Option.some.inj heq
        rw [← Bool.not_eq_true]
        intro hhas
        -- the caller gave the descriptor of this list up when it gave up waiting
        obtain ⟨src, hsrc⟩ := Option.isSome_iff_exists.mp hsome
        obtain ⟨d, hd, hserial, -⟩ :=
          h id list src (Host.lists_exec.mpr (Or.inr ⟨rfl, rfl, hhas⟩)) hsrc
        have hmem : .resourceAttachBacking id list ∈ s.gpu.link.pending :=
          hp ▸ List.mem_cons_self
        exact (hi.pending id list src hmem hsrc).2 src.client id d hd hserial
      · intro h k list' src hlist hsrc
        rcases Host.lists_exec.mp hlist with ⟨-, hlist⟩ | ⟨rfl, rfl, hhas⟩
        · exact hold k list' src hlist hsrc
        · rw [h k list' rfl (Option.isSome_iff_exists.mpr ⟨src, hsrc⟩)] at hhas
          cases hhas
  | resourceDetachBacking id =>
      refine iff_of_true (fun k list src hlist hsrc => ?_) fun _ _ h => (by cases h)
      exact hold k list src (Host.lists_exec.mp hlist).2 hsrc
  | resourceUnref id =>
      refine iff_of_true (fun k list src hlist hsrc => ?_) fun _ _ h => (by cases h)
      exact hold k list src (Host.lists_exec.mp hlist).2 hsrc
  | _ =>
      refine iff_of_true (fun k list src hlist hsrc => ?_) fun _ _ h => (by cases h)
      exact hold k list src (Host.lists_exec.mp hlist) hsrc

/-! ## Runs -/

theorem step_inv (s : BackingRun) (c : BackingCall × Env) (t : BackingRun) (hi : s.Inv)
    (h : s.step c = some t) : t.Inv := by
  obtain ⟨call, e⟩ := c
  cases call with
  | createResource3DEx ctx texture =>
      cases h
      exact inv_createResource3DEx e ctx texture hi
  | attachBackingUser client id addr len =>
      cases h
      exact inv_attachBackingUser e client id addr len hi
  | detachBackingUser client id =>
      cases h
      exact inv_detachBackingUser e client id hi
  | resourceUnref client id =>
      cases h
      exact inv_resourceUnref e client id hi
  | clientClose client =>
      cases h
      exact inv_clientClose client hi
  | clientDied client =>
      cases h
      exact inv_clientClose client hi
  | hostLate =>
      obtain ⟨l, hl, rfl⟩ := Option.map_eq_some_iff.mp h
      obtain ⟨cmd, rest, hp, rfl⟩ := Link.execLate_eq_some hl
      exact inv_hostLate hi hp _

theorem step_backed_iff (s : BackingRun) (c : BackingCall × Env) (t : BackingRun) (hi : s.Inv)
    (hb : s.Backed) (h : s.step c = some t) : t.Backed ↔ s.CallOk c := by
  obtain ⟨call, e⟩ := c
  cases call with
  | createResource3DEx ctx texture =>
      cases h
      exact iff_of_true (backed_createResource3DEx e ctx texture hi hb) trivial
  | attachBackingUser client id addr len =>
      cases h
      exact backed_attachBackingUser_iff e client id addr len hi hb
  | detachBackingUser client id =>
      cases h
      exact backed_detachBackingUser_iff e client id hi hb
  | resourceUnref client id =>
      cases h
      exact backed_resourceUnref_iff e client id hi hb
  | clientClose client =>
      cases h
      exact backed_clientClose_iff client hi hb
  | clientDied client =>
      cases h
      exact backed_clientClose_iff client hi hb
  | hostLate =>
      obtain ⟨l, hl, rfl⟩ := Option.map_eq_some_iff.mp h
      obtain ⟨cmd, rest, hp, rfl⟩ := Link.execLate_eq_some hl
      exact backed_hostLate_iff e hi hb hp

/-- **The host's lists are backed exactly along the runs whose calls are all
`CallOk`.** -/
theorem always_backed_iff (supports3D : Bool) (maxScanouts : Nat)
    (calls : List (BackingCall × Env)) :
    (machine supports3D maxScanouts).Always Backed (machine supports3D maxScanouts).init calls ↔
      (machine supports3D maxScanouts).Along CallOk
        (machine supports3D maxScanouts).init calls := by
  have hinit : (machine supports3D maxScanouts).init.Inv :=
    ⟨fun _ b h => absurd h (UserBackings.not_live_empty b),
      fun _ k => Nat.le_trans
        (Nat.le_of_eq (SlotTable.mult_replicate UserBacking.resourceId_free k)) (Nat.zero_le _),
      fun _ _ _ h => absurd h (UserBackings.not_live_empty _),
      fun _ _ _ h => absurd h (UserBackings.not_live_empty _),
      fun _ _ _ _ _ _ h => absurd h (UserBackings.not_live_empty _), fun _ _ _ h => (by cases h)⟩
  refine (machine supports3D maxScanouts).always_iff_along step_inv step_backed_iff hinit ?_
  exact (backed_iff hinit).mpr fun _ _ _ h => (by cases h)

/-- A client that closes with a backing attached leaves its list on the host. -/
theorem close_leaves_list :
    ¬ (machine true 1).Always Backed (machine true 1).init
      [(.createResource3DEx 1 ⟨2, 1, 2, 64, 64, 1, 1, 0, 0, 0⟩, .accepting),
        (.attachBackingUser 0 0x100 0x5000 16384, .accepting), (.clientClose 0, .accepting)] := by
  intro h
  have hrun : ((machine true 1).run (machine true 1).init
      [(.createResource3DEx 1 ⟨2, 1, 2, 64, 64, 1, 1, 0, 0, 0⟩, .accepting),
        (.attachBackingUser 0 0x100 0x5000 16384, .accepting), (.clientClose 0, .accepting)]).any
      (fun s => decide (s.client 0 = .empty) &&
        decide (s.host.resources = [⟨0x100, some ⟨[⟨0x5000, 16384⟩], some ⟨0, 0⟩⟩⟩])) = true := by
    decide
  obtain ⟨s, hs, hend⟩ := h.of_any _ hrun
  simp only [Bool.and_eq_true, decide_eq_true_eq] at hend
  obtain ⟨hempty, hres⟩ := hend
  have hlist : s.host.Lists 0x100 ⟨[⟨0x5000, 16384⟩], some ⟨0, 0⟩⟩ := by
    unfold Host.Lists
    rw [hres]
    exact List.mem_cons_self
  exact hs.closed 0 hempty 0x100 _ ⟨0, 0⟩ hlist rfl rfl

end BackingRun
end VMQemuVGA
