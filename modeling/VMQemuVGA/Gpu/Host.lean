import VMQemuVGA.IOKit

/-! # The host at the other end of the control queue

What the host keeps for the guest: resources with the scatter list attached to
them, and rendering contexts. A command reaches the host when the device
executes it. That is before the driver has its answer, or, where the driver
gave up waiting, at some later time. -/

namespace VMQemuVGA

/-! ## Commands -/

/-- The body of a `RESOURCE_CREATE_3D` command. -/
structure Texture where
  target : Nat
  format : Nat
  bind : Nat
  width : Nat
  height : Nat
  depth : Nat
  arraySize : Nat
  lastLevel : Nat
  nrSamples : Nat
  flags : Nat
  deriving DecidableEq, Repr

/-- A memory descriptor a client had made over its own memory. -/
structure DescriptorId where
  client : Nat
  serial : Nat
  deriving DecidableEq, Repr

/-- The entries of a `RESOURCE_ATTACH_BACKING`. `source` is not on the wire: it
says which descriptor the entries were read from, `none` for kernel memory. -/
structure ScatterList where
  entries : List MemEntry
  source : Option DescriptorId
  deriving DecidableEq, Repr

/-- No entries: the command is its header only. -/
def ScatterList.empty : ScatterList := { entries := [], source := none }

/-- The control-queue commands of the modelled functions. -/
inductive HostCmd where
  | resourceCreate2D (id format width height : Nat)
  | resourceCreate3D (ctx id : Nat) (texture : Texture)
  | resourceUnref (id : Nat)
  | resourceAttachBacking (id : Nat) (list : ScatterList)
  | resourceDetachBacking (id : Nat)
  | setScanout (scanout id width height : Nat)
  | transferToHost2D (id : Nat)
  | resourceFlush (id : Nat)
  | ctxCreate (ctx : Nat)
  | ctxDestroy (ctx : Nat)
  | ctxAttachResource (ctx id : Nat)
  | ctxDetachResource (ctx id : Nat)
  | transferToHost3D (ctx id : Nat)
  | transferFromHost3D (ctx id : Nat)
  | submit3D (ctx : Nat) (size : Nat)
  deriving DecidableEq, Repr

/-! ## Answers -/

/-- An exit of `submitCommand` before the device is told of the command. -/
inductive Refusal where
  | badArgument
  | noResources
  | noMemory
  | notReady
  deriving DecidableEq, Repr

/-- What becomes of one command: the device answers with a response of some
type within the poll, the poll gives up, or the command is never published. -/
inductive Answer where
  | reply (type : Nat)
  | timeout
  | refused (why : Refusal)
  deriving DecidableEq, Repr

/-- `VIRTIO_GPU_RESP_OK_NODATA`. -/
def respOkNodata : Nat := 0x1100

/-- Responses that `submitCommand` maps to `kIOReturnSuccess`. -/
def respIsOk (type : Nat) : Bool := decide (0x1100 ≤ type) && decide (type < 0x1200)

def Refusal.ret : Refusal → IOReturn
  | .badArgument => .badArgument
  | .noResources => .noResources
  | .noMemory => .noMemory
  | .notReady => .notReady

namespace Answer

/-- The status `submitCommand` returns for an answer. -/
def ret : Answer → IOReturn
  | reply type => if respIsOk type then .success else .error
  | timeout => .timeout
  | refused why => why.ret

/-- `resp.type` in the caller's zeroed response buffer afterwards. -/
def type : Answer → Nat
  | reply type => type
  | timeout => 0
  | refused _ => 0

/-- The command reached the device's queue. -/
def published : Answer → Bool
  | refused _ => false
  | _ => true

@[simp] theorem ret_refused_ne (why : Refusal) : (refused why).ret ≠ .success := by
  cases why <;> decide

theorem ret_eq_success {a : Answer} :
    a.ret = .success ↔ ∃ type, a = reply type ∧ respIsOk type = true := by
  cases a with
  | reply type => by_cases h : respIsOk type <;> simp [ret, h]
  | timeout => simp [ret]
  | refused why => simp

@[simp] theorem ret_reply_okNodata : (reply respOkNodata).ret = .success := rfl

end Answer

/-! ## Host state -/

/-- A resource on the host, with the scatter list attached to it, if any. -/
structure HostResource where
  id : Nat
  backing : Option ScatterList
  deriving DecidableEq, Repr

structure Host where
  resources : List HostResource
  contexts : List Nat
  deriving DecidableEq, Repr

namespace Host

def empty : Host := { resources := [], contexts := [] }

def hasResource (h : Host) (id : Nat) : Bool := h.resources.any fun r => r.id == id

/-- Replace the scatter list of a resource. -/
def setBacking (h : Host) (id : Nat) (b : Option ScatterList) : Host :=
  { h with resources := h.resources.map fun r => if r.id = id then { r with backing := b } else r }

/-- A new resource; an id the host already has is left alone. -/
def addResource (h : Host) (id : Nat) : Host :=
  if h.hasResource id then h else { h with resources := h.resources ++ [⟨id, none⟩] }

/-- The host executes a command. -/
def exec (h : Host) : HostCmd → Host
  | .resourceCreate2D id .. => h.addResource id
  | .resourceCreate3D _ id _ => h.addResource id
  | .resourceUnref id => { h with resources := h.resources.filter fun r => r.id ≠ id }
  | .resourceAttachBacking id list => h.setBacking id (some list)
  | .resourceDetachBacking id => h.setBacking id none
  | .ctxCreate ctx => { h with contexts := h.contexts.insert ctx }
  | .ctxDestroy ctx => { h with contexts := h.contexts.filter fun c => c ≠ ctx }
  | .setScanout .. | .transferToHost2D .. | .resourceFlush .. => h
  | .ctxAttachResource .. | .ctxDetachResource .. | .submit3D .. => h
  | .transferToHost3D .. | .transferFromHost3D .. => h

@[simp] theorem contexts_addResource (h : Host) (id : Nat) :
    (h.addResource id).contexts = h.contexts := by
  unfold addResource
  split <;> rfl

/-- Only `CTX_CREATE` brings a context. -/
theorem mem_contexts_exec {h : Host} {cmd : HostCmd} {c : Nat}
    (hc : c ∈ (h.exec cmd).contexts) : c ∈ h.contexts ∨ cmd = .ctxCreate c := by
  cases cmd with
  | ctxCreate ctx =>
      rw [exec, List.mem_insert_iff] at hc
      exact hc.elim (fun hcc => Or.inr (by rw [hcc])) Or.inl
  | ctxDestroy ctx => exact Or.inl (List.mem_filter.mp hc).1
  | resourceCreate2D id format width height =>
      rw [exec, contexts_addResource] at hc
      exact Or.inl hc
  | resourceCreate3D ctx id texture =>
      rw [exec, contexts_addResource] at hc
      exact Or.inl hc
  | resourceUnref id => exact Or.inl hc
  | resourceAttachBacking id list => exact Or.inl hc
  | resourceDetachBacking id => exact Or.inl hc
  | setScanout scanout id width height => exact Or.inl hc
  | transferToHost2D id => exact Or.inl hc
  | resourceFlush id => exact Or.inl hc
  | ctxAttachResource ctx id => exact Or.inl hc
  | ctxDetachResource ctx id => exact Or.inl hc
  | transferToHost3D ctx id => exact Or.inl hc
  | transferFromHost3D ctx id => exact Or.inl hc
  | submit3D ctx size => exact Or.inl hc

/-! ### Scatter lists -/

/-- The host holds `list` for a resource `id`. -/
def Lists (h : Host) (id : Nat) (list : ScatterList) : Prop :=
  (⟨id, some list⟩ : HostResource) ∈ h.resources

theorem hasResource_iff {h : Host} {id : Nat} :
    h.hasResource id = true ↔ ∃ r ∈ h.resources, r.id = id := by
  simp only [hasResource, List.any_eq_true, beq_iff_eq]

theorem lists_setBacking {h : Host} {id k : Nat} {b : Option ScatterList} {list : ScatterList} :
    (h.setBacking id b).Lists k list ↔
      (k ≠ id ∧ h.Lists k list) ∨ (k = id ∧ b = some list ∧ h.hasResource id = true) := by
  unfold Lists setBacking
  simp only [List.mem_map]
  constructor
  · rintro ⟨r, hr, heq⟩
    split at heq
    · next hid =>
      obtain ⟨hk, hb⟩ := HostResource.mk.injEq .. ▸ heq
      exact Or.inr ⟨hk.symm.trans hid, hb, hasResource_iff.mpr ⟨r, hr, hid⟩⟩
    · next hid =>
      subst heq
      exact Or.inl ⟨hid, hr⟩
  · rintro (⟨hk, hr⟩ | ⟨rfl, rfl, hhas⟩)
    · exact ⟨_, hr, if_neg hk⟩
    · obtain ⟨r, hr, hid⟩ := hasResource_iff.mp hhas
      refine ⟨r, hr, ?_⟩
      rw [if_pos hid, hid]

@[simp] theorem lists_addResource {h : Host} {id k : Nat} {list : ScatterList} :
    (h.addResource id).Lists k list ↔ h.Lists k list := by
  unfold addResource Lists
  split
  · exact Iff.rfl
  · simp

/-- Which scatter lists the host holds once it has executed a command. -/
theorem lists_exec {h : Host} {cmd : HostCmd} {k : Nat} {list : ScatterList} :
    (h.exec cmd).Lists k list ↔
      match cmd with
      | .resourceAttachBacking id new =>
          (k ≠ id ∧ h.Lists k list) ∨ (k = id ∧ list = new ∧ h.hasResource id = true)
      | .resourceDetachBacking id => k ≠ id ∧ h.Lists k list
      | .resourceUnref id => k ≠ id ∧ h.Lists k list
      | _ => h.Lists k list := by
  cases cmd with
  | resourceAttachBacking id new =>
      simp only [exec, lists_setBacking, Option.some.injEq, eq_comm]
  | resourceDetachBacking id => simp [exec, lists_setBacking]
  | resourceUnref id => simp [exec, Lists, List.mem_filter, and_comm]
  | resourceCreate2D id format width height => exact lists_addResource
  | resourceCreate3D ctx id texture => exact lists_addResource
  | _ => exact Iff.rfl

end Host

/-! ## The link between driver and host -/

/-- The host together with the commands whose answer the driver gave up on and
which the host has not executed yet, the record of all published commands, and
of the contexts a `CTX_CREATE` was published for while the host had them. -/
structure Link where
  host : Host
  pending : List HostCmd
  sent : List (HostCmd × Answer)
  clashes : List Nat
  deriving DecidableEq, Repr

namespace Link

def empty : Link := { host := .empty, pending := [], sent := [], clashes := [] }

/-- A context the host has and `cmd` asks it to create. -/
def clash (l : Link) : HostCmd → List Nat
  | .ctxCreate ctx => if ctx ∈ l.host.contexts then [ctx] else []
  | _ => []

/-- Write a published command down. -/
def record (l : Link) (cmd : HostCmd) (a : Answer) : Link :=
  { l with sent := l.sent ++ [(cmd, a)], clashes := l.clashes ++ l.clash cmd }

/-- Publish a command whose fate is `a`. A successful answer means the host
executed it, an error answer that it did not, a timeout leaves it pending. -/
def send (l : Link) (cmd : HostCmd) (a : Answer) : Link :=
  match a with
  | .reply type =>
      { l.record cmd a with host := if respIsOk type then l.host.exec cmd else l.host }
  | .timeout => { l.record cmd a with pending := l.pending ++ [cmd] }
  | .refused _ => l

/-- The host gets round to the oldest command it was given too late. -/
def execLate (l : Link) : Option Link :=
  match l.pending with
  | [] => none
  | cmd :: rest => some { l with host := l.host.exec cmd, pending := rest }

theorem send_of_success {l : Link} {cmd : HostCmd} {a : Answer} (h : a.ret = .success) :
    l.send cmd a = { l.record cmd a with host := l.host.exec cmd } := by
  obtain ⟨type, rfl, hok⟩ := Answer.ret_eq_success.mp h
  simp [send, hok]

/-- A command that did not return success leaves the host as it was. -/
theorem host_send_of_not_success {l : Link} {cmd : HostCmd} {a : Answer}
    (h : a.ret ≠ .success) : (l.send cmd a).host = l.host := by
  cases a with
  | reply type =>
      have hok : respIsOk type = false := by
        by_contra hc
        exact h (Answer.ret_eq_success.mpr ⟨type, rfl, by simpa using hc⟩)
      simp [send, hok]
  | timeout => rfl
  | refused why => rfl

theorem mem_pending_send {l : Link} {cmd c : HostCmd} {a : Answer}
    (h : c ∈ (l.send cmd a).pending) : c ∈ l.pending ∨ c = cmd ∧ a = .timeout := by
  cases a with
  | reply type => exact Or.inl h
  | timeout =>
      rcases List.mem_append.mp h with h | h
      · exact Or.inl h
      · exact Or.inr ⟨List.mem_singleton.mp h, rfl⟩
  | refused why => exact Or.inl h

theorem execLate_eq_some {l l' : Link} (h : l.execLate = some l') :
    ∃ cmd rest, l.pending = cmd :: rest ∧
      l' = { l with host := l.host.exec cmd, pending := rest } := by
  unfold execLate at h
  cases hp : l.pending with
  | nil => simp [hp] at h
  | cons cmd rest =>
      simp only [hp, Option.some.injEq] at h
      exact ⟨cmd, rest, rfl, h.symm⟩

/-! ### Contexts -/

/-- A context the host has, or will have once it executes what is pending. -/
def Mentions (l : Link) (c : Nat) : Prop :=
  c ∈ l.host.contexts ∨ HostCmd.ctxCreate c ∈ l.pending

theorem Mentions.of_send {l : Link} {cmd : HostCmd} {a : Answer} {c : Nat}
    (h : (l.send cmd a).Mentions c) : l.Mentions c ∨ cmd = .ctxCreate c := by
  cases a with
  | reply type =>
      rcases h with h | h
      · by_cases hok : respIsOk type
        · simp only [send, hok, if_true] at h
          exact (Host.mem_contexts_exec h).imp Or.inl id
        · simp only [send, hok] at h
          exact Or.inl (Or.inl h)
      · exact Or.inl (Or.inr h)
  | timeout =>
      rcases h with h | h
      · exact Or.inl (Or.inl h)
      · simp only [send, List.mem_append, List.mem_singleton] at h
        exact h.imp Or.inr Eq.symm
  | refused why => exact Or.inl h

theorem Mentions.of_execLate {l l' : Link} {c : Nat} (hl : l.execLate = some l')
    (h : l'.Mentions c) : l.Mentions c := by
  obtain ⟨cmd, rest, hp, rfl⟩ := execLate_eq_some hl
  unfold Mentions
  rw [hp]
  rcases h with h | h
  · rcases Host.mem_contexts_exec h with h | rfl
    · exact Or.inl h
    · exact Or.inr List.mem_cons_self
  · exact Or.inr (List.mem_cons_of_mem _ h)

theorem clashes_execLate {l l' : Link} (hl : l.execLate = some l') : l'.clashes = l.clashes := by
  obtain ⟨cmd, rest, hp, rfl⟩ := execLate_eq_some hl
  rfl

theorem clashes_send (l : Link) (cmd : HostCmd) (a : Answer) :
    (l.send cmd a).clashes = l.clashes ++ if a.published then l.clash cmd else [] := by
  cases a with
  | reply type => rfl
  | timeout => rfl
  | refused why => exact (List.append_nil _).symm

end Link
end VMQemuVGA
