import Mathlib.Algebra.Ring.Int.Defs
import VMQemuVGA.Gpu.ResourcePool

/-! # What `createResource2D` leaves behind

A create goes through host, memory and pool, and each of its exits undoes by hand
what was done before. Here the calls on the backing's descriptor are written down
beside the model of the function, and with them it is said exactly which exits
undo everything, and for which sizes the memory behind a new resource is all of
it. -/

namespace VMQemuVGA

/-! ## The descriptor's counts -/

/-- The calls on a backing's descriptor; `prepare` wires it if it succeeds. -/
inductive DescriptorOp where
  | allocate
  | prepare (ret : IOReturn)
  | complete
  | release
  deriving DecidableEq, Repr

namespace DescriptorOp

/-- By how much a call changes the count of `prepare` over `complete`. -/
def wires : DescriptorOp → Int
  | prepare ret => if ret = .success then 1 else 0
  | complete => -1
  | allocate | release => 0

/-- By how much it changes the reference count. -/
def refs : DescriptorOp → Int
  | allocate => 1
  | release => -1
  | prepare _ | complete => 0

end DescriptorOp

/-- All calls together change neither count. -/
def Balances (ops : List DescriptorOp) : Prop :=
  (ops.map DescriptorOp.wires).sum = 0 ∧ (ops.map DescriptorOp.refs).sum = 0

/-! ## Resources on their way to the host -/

/-- The command brings a resource `id` into being. -/
def HostCmd.Creates (id : Nat) : HostCmd → Prop
  | resourceCreate2D id' .. | resourceCreate3D _ id' _ => id' = id
  | _ => False

/-- A resource the host has yet to create. -/
def Link.WillHave (l : Link) (id : Nat) : Prop := ∃ cmd ∈ l.pending, cmd.Creates id

/-- A resource the host has, or will have once it executes what is pending. -/
def Link.MayHave (l : Link) (id : Nat) : Prop := l.host.hasResource id = true ∨ l.WillHave id

namespace Host
variable {h : Host} {id k : Nat}

theorem hasResource_addResource (h : Host) (id : Nat) :
    (h.addResource id).hasResource id = true := by
  unfold addResource
  split
  · next hhas => exact hhas
  · exact hasResource_iff.mpr ⟨⟨id, none⟩, List.mem_append_right _ (List.mem_singleton_self _), rfl⟩

theorem hasResource_setBacking (b : Option ScatterList) :
    (h.setBacking id b).hasResource k = h.hasResource k := by
  show (List.map _ h.resources).any _ = _
  rw [List.any_map]
  refine List.any_congr rfl fun r => ?_
  show ((if r.id = id then { r with backing := b } else r : HostResource).id == k) = (r.id == k)
  split <;> rfl

theorem not_hasResource_unref : (h.exec (.resourceUnref id)).hasResource id = false := by
  refine Bool.eq_false_iff.mpr fun hhas => ?_
  obtain ⟨r, hr, hid⟩ := hasResource_iff.mp hhas
  have hne := (List.mem_filter.mp hr).2
  simp only [hid, ne_eq, not_true_eq_false, decide_false, Bool.false_eq_true] at hne

end Host

namespace Link
variable {l : Link} {id k : Nat} {a : Answer}

/-- Any command but a create leaves what is to come as it is. -/
theorem willHave_send {cmd : HostCmd} (hcmd : ¬ cmd.Creates id) :
    (l.send cmd a).WillHave id ↔ l.WillHave id := by
  cases a with
  | reply type => rfl
  | timeout =>
      show (∃ c ∈ l.pending ++ [cmd], c.Creates id) ↔ _
      simp only [List.mem_append, List.mem_singleton, or_and_right, exists_or, exists_eq_left,
        hcmd, or_false]
      rfl
  | refused why => rfl

/-- Attaching memory brings and takes no resource. -/
theorem hasResource_send_attach (list : ScatterList) :
    (l.send (.resourceAttachBacking k list) a).host.hasResource id = l.host.hasResource id := by
  by_cases hret : a.ret = .success
  · rw [send_of_success hret]
    exact Host.hasResource_setBacking (some list)
  · rw [host_send_of_not_success hret]

/-- What is refused or answered with an error was not created. -/
theorem mayHave_send_create (format width height : Nat) (hret : a.ret ≠ .success)
    (htimeout : a ≠ .timeout) :
    (l.send (.resourceCreate2D id format width height) a).MayHave id ↔ l.MayHave id := by
  unfold MayHave
  rw [host_send_of_not_success hret]
  cases a with
  | reply type => rfl
  | timeout => exact absurd rfl htimeout
  | refused why => rfl

/-- What the host was not quick enough to create it may still create. -/
theorem mayHave_send_timeout (format width height : Nat) :
    (l.send (.resourceCreate2D id format width height) .timeout).MayHave id :=
  .inr ⟨_, List.mem_append_right _ (List.mem_singleton_self _), rfl⟩

theorem hasResource_send_created (format width height : Nat) :
    (l.send (.resourceCreate2D id format width height) (.reply respOkNodata)).host.hasResource id =
      true := by
  rw [send_of_success rfl]
  exact l.host.hasResource_addResource id

/-- An `UNREF` that the host accepts takes the resource away. -/
theorem hasResource_send_unref (l : Link) (id : Nat) (a : Answer) :
    (l.send (.resourceUnref id) a).host.hasResource id =
      if a.ret = .success then false else l.host.hasResource id := by
  split
  · next hret =>
    rw [send_of_success hret]
    exact Host.not_hasResource_unref
  · next hret => rw [host_send_of_not_success hret]

end Link

/-! ## The functions with their calls -/

/-- How a create ends: its code, the object, the calls on the backing's descriptor, and
the memory it has attached. -/
structure Creation where
  ret : IOReturn
  gpu : Gpu
  ops : List DescriptorOp
  attached : Option MemoryDescriptor

namespace Gpu

/-- The calls of `attachBacking` on the descriptor. -/
def attachBackingOps (e : Env) (g : Gpu) (memory : Option MemoryDescriptor) : List DescriptorOp :=
  if g.ready = false then [] else
  match memory with
  | none => []
  | some d =>
      if d.prepareRet ≠ .success then [.prepare d.prepareRet]
      else if d.segments = [] ∨ d.walked = 0 then [.prepare d.prepareRet, .complete]
      else if e.alloc .attachCommand = false then [.prepare d.prepareRet, .complete]
      -- completed once the command is sent, whatever the host answers
      else [.prepare d.prepareRet, .complete]

/-- The backing of a new 2D resource: the caller's, or `width * height * 4` bytes. -/
def backingOf (e : Env) (width height : Nat) (backing : Option MemoryDescriptor) :
    Option MemoryDescriptor :=
  backing.orElse fun _ => e.withCapacity (width * height * 4 % u32)

/-- `backAndRegister` with its calls. -/
def backed (e : Env) (g : Gpu) (id format width height : Nat)
    (backing : Option MemoryDescriptor) : Creation :=
  match backingOf e width height backing with
  | none => ⟨.noMemory, g, [], none⟩
  | some d =>
      let driverOwns := backing.isNone
      let ops := (if driverOwns then [.allocate] else []) ++ g.attachBackingOps e (some d)
      let (attachRet, g₁) := g.attachBacking e id (some d)
      if attachRet ≠ .success then
        ⟨attachRet, g₁, ops ++ if driverOwns then [.complete, .release] else [], none⟩
      else
        match g₁.pool.freeIdx? with
        | none =>
            -- already completed inside `attachBacking`
            ⟨.noSpace, (g₁.submitCommand e (.resourceUnref id)).2,
              ops ++ if driverOwns then [.release] else [], some d⟩
        | some i =>
            ⟨.success, g₁.register i
              ⟨id, width, height, format, if driverOwns then some d else none⟩, ops, some d⟩

/-- `createResource2D` with its calls. -/
def creation (e : Env) (g : Gpu) (id format width height : Nat)
    (backing : Option MemoryDescriptor) : Creation :=
  if (g.findResource id).isSome then ⟨.badArgument, g, [], none⟩ else
  let cmd := HostCmd.resourceCreate2D id format width height
  let (ret, g₁) := g.submitCommand e cmd
  if ret ≠ .success ∨ (e.ask cmd).type ≠ respOkNodata then ⟨ret, g₁, [], none⟩
  else g₁.backed e id format width height backing

variable {e : Env} {g : Gpu} {id format width height : Nat} {backing : Option MemoryDescriptor}
  {d : MemoryDescriptor}

theorem backed_eq (e : Env) (g : Gpu) (id format width height : Nat)
    (backing : Option MemoryDescriptor) :
    ((g.backed e id format width height backing).ret,
      (g.backed e id format width height backing).gpu) =
        g.backAndRegister e id format width height backing := by
  unfold backed backAndRegister
  rw [show (backing.orElse fun _ => e.withCapacity (width * height * 4 % u32)) =
    backingOf e width height backing from rfl]
  cases backingOf e width height backing with
  | none => rfl
  | some d =>
      dsimp only
      split
      · rfl
      cases (g.attachBacking e id (some d)).2.pool.freeIdx? with
      | none => rfl
      | some i => cases backing <;> rfl

/-- The calls aside, this is `createResource2D`. -/
theorem creation_eq (e : Env) (g : Gpu) (id format width height : Nat)
    (backing : Option MemoryDescriptor) :
    ((g.creation e id format width height backing).ret,
      (g.creation e id format width height backing).gpu) =
        g.createResource2D e id format width height backing := by
  unfold creation createResource2D
  split
  · rfl
  dsimp only
  split
  · rfl
  · exact backed_eq e _ id format width height backing

/-! ## When memory is attached -/

/-- Everything `attachBacking` needs is there, and the host accepts the list. -/
def CanAttach (e : Env) (g : Gpu) (id : Nat) (d : MemoryDescriptor) : Prop :=
  g.ready = true ∧ d.prepareRet = .success ∧ d.segments ≠ [] ∧ d.walked ≠ 0 ∧
    e.alloc .attachCommand = true ∧
      (e.ask (.resourceAttachBacking id ⟨d.wireEntries, none⟩)).ret = .success

instance : Decidable (g.CanAttach e id d) := inferInstanceAs (Decidable (_ ∧ _))

theorem attachBacking_eq_success_iff :
    (g.attachBacking e id (some d)).1 = .success ↔ g.CanAttach e id d := by
  unfold attachBacking CanAttach
  split
  · next hready => simp [hready]
  · next hready =>
    dsimp only
    split_ifs with hprep hsegs halloc
    · exact iff_of_false hprep fun h => hprep h.2.1
    · refine iff_of_false (fun h => by cases h) fun h => ?_
      exact hsegs.elim h.2.2.1 h.2.2.2.1
    · exact iff_of_false (fun h => by cases h) fun h => by simp [halloc] at h
    · obtain ⟨hne, hwalked⟩ := not_or.mp hsegs
      show (e.ask _).ret = .success ↔ _
      simp [hready, not_not.mp hprep, hne, hwalked, halloc]

/-- `attachBacking` sends its command, or nothing. -/
theorem link_attachBacking (e : Env) (g : Gpu) (id : Nat) (memory : Option MemoryDescriptor) :
    (g.attachBacking e id memory).2.link = g.link ∨ ∃ list a,
      (g.attachBacking e id memory).2.link = g.link.send (.resourceAttachBacking id list) a := by
  unfold attachBacking
  split
  · exact .inl rfl
  cases memory with
  | none => exact .inl rfl
  | some d =>
      dsimp only
      split_ifs
      · exact .inl rfl
      · exact .inl rfl
      · exact .inl rfl
      · exact .inr ⟨_, _, rfl⟩

/-- Whatever comes of it, the host has the same resources. -/
theorem hasResource_attachBacking (memory : Option MemoryDescriptor) (k : Nat) :
    (g.attachBacking e id memory).2.link.host.hasResource k = g.link.host.hasResource k := by
  rcases link_attachBacking e g id memory with hlink | ⟨list, a, hlink⟩
  · rw [hlink]
  · rw [hlink]
    exact Link.hasResource_send_attach list

theorem willHave_attachBacking (memory : Option MemoryDescriptor) (k : Nat) :
    (g.attachBacking e id memory).2.link.WillHave k ↔ g.link.WillHave k := by
  rcases link_attachBacking e g id memory with hlink | ⟨list, a, hlink⟩
  · rw [hlink]
  · rw [hlink]
    exact Link.willHave_send fun h => h

/-- `attachBacking` completes what it has prepared. -/
theorem balances_attachBackingOps (memory : Option MemoryDescriptor) :
    Balances (g.attachBackingOps e memory) := by
  unfold attachBackingOps
  split
  · exact ⟨rfl, rfl⟩
  cases memory with
  | none => exact ⟨rfl, rfl⟩
  | some d =>
      dsimp only
      split_ifs with hprep
      · simp [Balances, DescriptorOp.wires, DescriptorOp.refs, hprep]
      all_goals simp [Balances, DescriptorOp.wires, DescriptorOp.refs, not_not.mp hprep]

/-! ## The exits -/

/-- It leaves the pool alone. -/
theorem samePool_attachBacking (memory : Option MemoryDescriptor) :
    SamePool g (g.attachBacking e id memory).2 := by
  obtain ⟨l, hl⟩ := attachBacking_frame e g id memory
  rw [hl]
  exact ⟨rfl, rfl⟩

section Backed

variable {d : MemoryDescriptor} (hmem : backingOf e width height backing = some d)
include hmem

/-- The host keeps a resource without memory, and memory the driver has allocated is
completed once more than it was prepared. -/
theorem backed_of_unattached (h : ¬ g.CanAttach e id d) :
    g.backed e id format width height backing =
      ⟨(g.attachBacking e id (some d)).1, (g.attachBacking e id (some d)).2,
        ((if backing.isNone then [.allocate] else []) ++ g.attachBackingOps e (some d)) ++
          if backing.isNone then [.complete, .release] else [], none⟩ := by
  have hret : (g.attachBacking e id (some d)).1 ≠ .success :=
    fun hret => h (attachBacking_eq_success_iff.mp hret)
  unfold backed
  rw [hmem]
  exact if_pos hret

theorem backed_of_full (h : g.CanAttach e id d) (hfull : g.pool.freeIdx? = none) :
    g.backed e id format width height backing =
      ⟨.noSpace, ((g.attachBacking e id (some d)).2.submitCommand e (.resourceUnref id)).2,
        ((if backing.isNone then [.allocate] else []) ++ g.attachBackingOps e (some d)) ++
          if backing.isNone then [.release] else [], some d⟩ := by
  have hret : (g.attachBacking e id (some d)).1 = .success := attachBacking_eq_success_iff.mpr h
  rw [← (samePool_attachBacking (some d)).1] at hfull
  unfold backed
  rw [hmem]
  dsimp only
  rw [if_neg (not_not.mpr hret), hfull]

theorem backed_of_room (h : g.CanAttach e id d) {i : Nat} (hfree : g.pool.freeIdx? = some i) :
    g.backed e id format width height backing =
      ⟨.success, (g.attachBacking e id (some d)).2.register i
          ⟨id, width, height, format, if backing.isNone then some d else none⟩,
        (if backing.isNone then [.allocate] else []) ++ g.attachBackingOps e (some d), some d⟩ := by
  have hret : (g.attachBacking e id (some d)).1 = .success := attachBacking_eq_success_iff.mpr h
  rw [← (samePool_attachBacking (some d)).1] at hfree
  unfold backed
  rw [hmem]
  dsimp only
  rw [if_neg (not_not.mpr hret), hfree]

end Backed

theorem creation_of_duplicate (h : (g.findResource id).isSome = true) :
    g.creation e id format width height backing = ⟨.badArgument, g, [], none⟩ := if_pos h

/-- The host has not answered `OK_NODATA`. -/
theorem creation_of_answer (hnew : ¬ (g.findResource id).isSome = true) {a : Answer}
    (ha : e.ask (.resourceCreate2D id format width height) = a)
    (h : a.ret ≠ .success ∨ a.type ≠ respOkNodata) :
    g.creation e id format width height backing =
      ⟨a.ret, g.afterSend (.resourceCreate2D id format width height) a, [], none⟩ := by
  subst ha
  unfold creation
  rw [if_neg hnew]
  exact if_pos h

/-- The object once the host has accepted the create. -/
def created (g : Gpu) (id format width height : Nat) : Gpu :=
  g.afterSend (.resourceCreate2D id format width height) (.reply respOkNodata)

theorem creation_of_created (hnew : ¬ (g.findResource id).isSome = true)
    (ha : e.ask (.resourceCreate2D id format width height) = .reply respOkNodata) :
    g.creation e id format width height backing =
      (g.created id format width height).backed e id format width height backing := by
  unfold creation
  rw [if_neg hnew]
  dsimp only [submitCommand]
  rw [ha, if_neg (by decide)]
  rfl

theorem hasResource_created (g : Gpu) (id format width height : Nat) :
    (g.created id format width height).link.host.hasResource id = true :=
  Link.hasResource_send_created format width height

/-! ## Is everything undone? -/

/-- The host is without the resource, now and later, unless it was not before; the pool is
as it was; and so are the backing's counts. -/
structure Undone (g : Gpu) (id : Nat) (c : Creation) : Prop where
  host : c.gpu.link.MayHave id → g.link.MayHave id
  pool : SamePool g c.gpu
  counts : Balances c.ops

/-- The ways on which nothing is left to undo, or all of it is undone. Where the create
has gone through, no other exit is clean if the resource is new to the host. -/
def CleansUp (e : Env) (g : Gpu) (id format width height : Nat)
    (backing : Option MemoryDescriptor) : Prop :=
  (g.findResource id).isSome = true ∨
    match e.ask (.resourceCreate2D id format width height) with
    | .refused _ => True
    | .timeout => g.link.MayHave id
    | .reply type => type = respOkNodata →
        match backingOf e width height backing with
        | none => g.link.MayHave id
        | some d =>
            if g.CanAttach e id d then
              g.pool.freeIdx?.isSome = true ∨ (e.ask (.resourceUnref id)).ret = .success ∨
                g.link.MayHave id
            else backing.isSome = true ∧ g.link.MayHave id

theorem undone_of_mayHave {c : Creation} (h : g.link.MayHave id) (hpool : SamePool g c.gpu)
    (hcounts : Balances c.ops) : Undone g id c := ⟨fun _ => h, hpool, hcounts⟩

/-- After a failed attach, memory of the driver's own is completed twice. -/
theorem balances_unattached_iff {ops : List DescriptorOp} (h : Balances ops) :
    Balances (((if backing.isNone then [.allocate] else []) ++ ops) ++
      if backing.isNone then [.complete, .release] else []) ↔ backing.isSome = true := by
  obtain ⟨hwires, hrefs⟩ := h
  cases backing with
  | none =>
      simp [Balances, DescriptorOp.wires, DescriptorOp.refs, hwires, hrefs]
  | some b => simp [Balances, hwires, hrefs]

theorem balances_full {ops : List DescriptorOp} (h : Balances ops) :
    Balances (((if backing.isNone then [.allocate] else []) ++ ops) ++
      if backing.isNone then [.release] else []) := by
  obtain ⟨hwires, hrefs⟩ := h
  cases backing with
  | none => simp [Balances, DescriptorOp.wires, DescriptorOp.refs, hwires, hrefs]
  | some b => simp [Balances, hwires, hrefs]

section Accepted

variable {g₁ : Gpu} (hhas : g₁.link.host.hasResource id = true) (hsame : SamePool g g₁)
  (hmem : backingOf e width height backing = some d)
include hhas hsame hmem

/-- The pool is full, so the host is asked to drop the resource again. -/
theorem undone_full_iff (hwill : g₁.link.WillHave id ↔ g.link.WillHave id)
    (hatt : g₁.CanAttach e id d) (hfull : g₁.pool.freeIdx? = none) :
    Undone g id (g₁.backed e id format width height backing) ↔
      (e.ask (.resourceUnref id)).ret = .success ∨ g.link.MayHave id := by
  rw [backed_of_full hmem hatt hfull]
  have hops := balances_attachBackingOps (e := e) (g := g₁) (some d)
  have hpool : SamePool g (g₁.attachBacking e id (some d)).2 :=
    hsame.trans (samePool_attachBacking (some d))
  have hhost := Link.hasResource_send_unref (g₁.attachBacking e id (some d)).2.link id
    (e.ask (.resourceUnref id))
  rw [hasResource_attachBacking, hhas] at hhost
  have hpend : ((g₁.attachBacking e id (some d)).2.link.send (.resourceUnref id)
      (e.ask (.resourceUnref id))).WillHave id ↔ g.link.WillHave id :=
    (Link.willHave_send (show ¬ (HostCmd.resourceUnref id).Creates id from fun h => h)).trans
      ((willHave_attachBacking (some d) id).trans hwill)
  by_cases hunref : (e.ask (.resourceUnref id)).ret = .success
  · rw [if_pos hunref] at hhost
    refine iff_of_true ⟨fun h => ?_, hpool, balances_full hops⟩ (.inl hunref)
    -- the host is rid of it; what is pending was so before
    rcases h with h | h
    · exact absurd (hhost.symm.trans h) nofun
    · exact .inr (hpend.mp h)
  · rw [if_neg hunref] at hhost
    rw [or_iff_right hunref]
    exact ⟨fun h => h.host (.inl hhost), fun h => undone_of_mayHave h hpool (balances_full hops)⟩

/-- Nothing is attached, and nothing is said to the host. -/
theorem undone_unattached_iff (hatt : ¬ g₁.CanAttach e id d) :
    Undone g id (g₁.backed e id format width height backing) ↔
      backing.isSome = true ∧ g.link.MayHave id := by
  rw [backed_of_unattached hmem hatt]
  have hops := balances_attachBackingOps (e := e) (g := g₁) (some d)
  have hmay : (g₁.attachBacking e id (some d)).2.link.MayHave id :=
    .inl ((hasResource_attachBacking (some d) id).trans hhas)
  constructor
  · intro h
    exact ⟨(balances_unattached_iff hops).mp h.counts, h.host hmay⟩
  · rintro ⟨hsome, hbefore⟩
    exact undone_of_mayHave hbefore (hsame.trans (samePool_attachBacking (some d)))
      ((balances_unattached_iff hops).mpr hsome)

end Accepted

/-- Behind an accepted create. -/
theorem undone_backed_iff :
    (((g.created id format width height).backed e id format width height backing).ret ≠ .success →
      Undone g id ((g.created id format width height).backed e id format width height backing)) ↔
      match backingOf e width height backing with
      | none => g.link.MayHave id
      | some d =>
          if g.CanAttach e id d then
            g.pool.freeIdx?.isSome = true ∨ (e.ask (.resourceUnref id)).ret = .success ∨
              g.link.MayHave id
          else backing.isSome = true ∧ g.link.MayHave id := by
  have hhas := hasResource_created g id format width height
  have hwill : (g.created id format width height).link.WillHave id ↔ g.link.WillHave id := Iff.rfl
  generalize hg₁ : g.created id format width height = g₁ at hhas hwill ⊢
  -- for attaching and for the pool the create has changed nothing
  have hatt₁ : ∀ d, g₁.CanAttach e id d ↔ g.CanAttach e id d := fun d => hg₁ ▸ Iff.rfl
  have hfree₁ : g₁.pool.freeIdx? = g.pool.freeIdx? := hg₁ ▸ rfl
  have hsame₁ : SamePool g g₁ := hg₁ ▸ ⟨rfl, rfl⟩
  cases hmem : backingOf e width height backing with
  | none =>
      have hexit : g₁.backed e id format width height backing = ⟨.noMemory, g₁, [], none⟩ := by
        unfold backed
        rw [hmem]
      rw [hexit]
      constructor
      · intro h
        exact (h nofun).host (.inl hhas)
      · intro h _
        exact undone_of_mayHave h hsame₁ ⟨rfl, rfl⟩
  | some d =>
      dsimp only
      by_cases hatt : g.CanAttach e id d
      · rw [if_pos hatt]
        have hatt' := (hatt₁ d).mpr hatt
        cases hfree : g.pool.freeIdx? with
        | none =>
            have hfull := hfree₁.trans hfree
            have hret : (g₁.backed e id format width height backing).ret ≠ .success := by
              rw [backed_of_full hmem hatt' hfull]
              nofun
            rw [forall_prop_of_true hret, undone_full_iff hhas hsame₁ hmem hwill hatt' hfull]
            exact (or_iff_right nofun).symm
        | some i =>
            rw [backed_of_room hmem hatt' (hfree₁.trans hfree)]
            exact iff_of_true (fun h => absurd rfl h) (.inl rfl)
      · have hatt' : ¬ g₁.CanAttach e id d := fun h => hatt ((hatt₁ d).mp h)
        have hret : (g₁.backed e id format width height backing).ret ≠ .success := by
          rw [backed_of_unattached hmem hatt']
          exact fun hret => hatt' (attachBacking_eq_success_iff.mp hret)
        rw [if_neg hatt, forall_prop_of_true hret]
        exact undone_unattached_iff hhas hsame₁ hmem hatt'

/-- **A create that fails undoes everything exactly on the exits listed.** -/
theorem undone_iff_cleansUp (e : Env) (g : Gpu) (id format width height : Nat)
    (backing : Option MemoryDescriptor) :
    ((g.creation e id format width height backing).ret ≠ .success →
      Undone g id (g.creation e id format width height backing)) ↔
      g.CleansUp e id format width height backing := by
  unfold CleansUp
  by_cases hdup : (g.findResource id).isSome = true
  · rw [creation_of_duplicate hdup]
    exact iff_of_true (fun _ => ⟨fun h => h, ⟨rfl, rfl⟩, ⟨rfl, rfl⟩⟩) (.inl hdup)
  rw [or_iff_right hdup]
  cases ha : e.ask (.resourceCreate2D id format width height) with
  | refused why =>
      rw [creation_of_answer hdup ha (.inl (Answer.ret_refused_ne why))]
      refine iff_of_true (fun _ => ⟨fun h => ?_, ⟨rfl, rfl⟩, ⟨rfl, rfl⟩⟩) trivial
      exact (Link.mayHave_send_create format width height (Answer.ret_refused_ne why) nofun).mp h
  | timeout =>
      rw [creation_of_answer hdup ha (.inl nofun)]
      -- the command stays with the device
      constructor
      · intro h
        exact (h nofun).host (Link.mayHave_send_timeout format width height)
      · intro h _
        exact undone_of_mayHave h ⟨rfl, rfl⟩ ⟨rfl, rfl⟩
  | reply type =>
      by_cases htype : type = respOkNodata
      · subst htype
        rw [creation_of_created hdup ha, undone_backed_iff]
        exact ⟨fun h _ => h, fun h => h rfl⟩
      · -- an error, or an answer that only looks like success
        rw [creation_of_answer hdup ha (.inr htype)]
        refine iff_of_true (fun hret => ⟨fun h => ?_, ⟨rfl, rfl⟩, ⟨rfl, rfl⟩⟩)
          fun h => absurd h htype
        exact (Link.mayHave_send_create format width height (a := .reply type) hret nofun).mp h

/-- A host that accepts every command, but no memory for the command that attaches. -/
def withoutAttachCommand : Env := { Env.accepting with alloc := fun _ => false }

/-- The new resource stays on the host, and its memory is completed twice. -/
theorem failed_attach_not_undone :
    ¬ (((init true 1).creation withoutAttachCommand 7 1 16 16 none).ret ≠ .success →
      Undone (init true 1) 7 ((init true 1).creation withoutAttachCommand 7 1 16 16 none)) := by
  intro h
  have hundone := h (by decide)
  rcases hundone.host (.inl (by decide)) with hhas | ⟨cmd, hcmd, -⟩
  · exact absurd hhas (by decide)
  · cases hcmd

/-! ## Is there memory behind every row? -/

/-- The host accepts the create with a response other than `OK_NODATA`. -/
def Misanswered (e : Env) (g : Gpu) (id format width height : Nat) : Prop :=
  ¬ (g.findResource id).isSome = true ∧
    (e.ask (.resourceCreate2D id format width height)).ret = .success ∧
      (e.ask (.resourceCreate2D id format width height)).type ≠ respOkNodata

/-- The driver allocates memory for a new resource, attaches it and finds a slot. -/
def Finishes (e : Env) (g : Gpu) (id format width height : Nat) : Prop :=
  ¬ (g.findResource id).isSome = true ∧
    e.ask (.resourceCreate2D id format width height) = .reply respOkNodata ∧
      (∃ d, e.withCapacity (width * height * 4 % u32) = some d ∧ g.CanAttach e id d) ∧
        g.pool.freeIdx?.isSome = true

/-- A create that succeeds has attached all the memory the resource needs. -/
def FullyBacked (width height : Nat) (c : Creation) : Prop :=
  c.ret = .success → ∃ d, c.attached = some d ∧ width * height * 4 ≤ d.length

/-- Only a response has a type. -/
theorem eq_reply_of_type {a : Answer} (h : a.type = respOkNodata) : a = .reply respOkNodata := by
  cases a with
  | reply type => exact congrArg Answer.reply h
  | timeout => cases h
  | refused why => cases h

/-- A row is made exactly if there is memory to attach and a slot to put it in. -/
theorem backed_ret_eq_success_iff :
    (g.backed e id format width height backing).ret = .success ↔
      (∃ d, backingOf e width height backing = some d ∧ g.CanAttach e id d) ∧
        g.pool.freeIdx?.isSome = true := by
  cases hmem : backingOf e width height backing with
  | none =>
      refine iff_of_false (fun hret => ?_) (fun ⟨⟨d, hd, _⟩, _⟩ => by cases hd)
      unfold backed at hret
      rw [hmem] at hret
      cases hret
  | some d =>
      by_cases hatt : g.CanAttach e id d
      · cases hfree : g.pool.freeIdx? with
        | none =>
            rw [backed_of_full hmem hatt hfree]
            exact iff_of_false nofun fun h => nomatch h.2
        | some i =>
            rw [backed_of_room hmem hatt hfree]
            exact iff_of_true rfl ⟨⟨d, rfl, hatt⟩, rfl⟩
      · rw [backed_of_unattached hmem hatt]
        refine iff_of_false (fun hret => hatt (attachBacking_eq_success_iff.mp hret)) ?_
        rintro ⟨⟨d', hd', hatt'⟩, -⟩
        cases hd'
        exact hatt hatt'

/-- What it has attached then is the backing. -/
theorem attached_backed (h : (g.backed e id format width height backing).ret = .success) :
    (g.backed e id format width height backing).attached =
      backingOf e width height backing := by
  obtain ⟨⟨d, hmem, hatt⟩, hroom⟩ := backed_ret_eq_success_iff.mp h
  obtain ⟨i, hfree⟩ := Option.isSome_iff_exists.mp hroom
  rw [backed_of_room hmem hatt hfree, hmem]

theorem creation_of_misanswered (h : g.Misanswered e id format width height)
    (backing : Option MemoryDescriptor) :
    (g.creation e id format width height backing).ret = .success ∧
      (g.creation e id format width height backing).attached = none := by
  obtain ⟨hnew, hret, htype⟩ := h
  rw [creation_of_answer hnew rfl (.inr htype)]
  exact ⟨hret, rfl⟩

/-- All of the driver's memory is attached, which is as much as 32 bits say. -/
theorem creation_of_finishes (hcap : ∀ n d, e.withCapacity n = some d → d.length = n)
    (h : g.Finishes e id format width height) :
    (g.creation e id format width height none).ret = .success ∧
      ∃ d, (g.creation e id format width height none).attached = some d ∧
        d.length = width * height * 4 % u32 := by
  obtain ⟨hnew, hok, ⟨d, hmem, hatt⟩, hroom⟩ := h
  have hret : ((g.created id format width height).backed e id format width height none).ret =
      .success := backed_ret_eq_success_iff.mpr ⟨⟨d, hmem, hatt⟩, hroom⟩
  rw [creation_of_created hnew hok]
  exact ⟨hret, d, (attached_backed hret).trans hmem, hcap _ d hmem⟩

/-- There is no third way for a create to succeed. -/
theorem misanswered_or_finishes (h : (g.creation e id format width height none).ret = .success) :
    g.Misanswered e id format width height ∨ g.Finishes e id format width height := by
  by_cases hdup : (g.findResource id).isSome = true
  · rw [creation_of_duplicate hdup] at h
    cases h
  by_cases hbad : (e.ask (.resourceCreate2D id format width height)).ret ≠ .success ∨
      (e.ask (.resourceCreate2D id format width height)).type ≠ respOkNodata
  · rw [creation_of_answer hdup rfl hbad] at h
    exact .inl ⟨hdup, h, hbad.resolve_left (not_not.mpr h)⟩
  · have hok := eq_reply_of_type (not_not.mp (not_or.mp hbad).2)
    rw [creation_of_created hdup hok] at h
    obtain ⟨hatt, hroom⟩ := backed_ret_eq_success_iff.mp h
    exact .inr ⟨hdup, hok, hatt, hroom⟩

/-- **The driver's own memory is large enough exactly if the size is below 4 GiB where a
create goes through, and the host does not answer something else than `OK_NODATA`.** -/
theorem fullyBacked_iff {e : Env} (hcap : ∀ n d, e.withCapacity n = some d → d.length = n) (g : Gpu)
    (id format width height : Nat) :
    FullyBacked width height (g.creation e id format width height none) ↔
      ¬ g.Misanswered e id format width height ∧
        (g.Finishes e id format width height → width * height * 4 < u32) := by
  constructor
  · intro h
    refine ⟨fun hmis => ?_, fun hfin => ?_⟩
    · obtain ⟨hret, hnone⟩ := creation_of_misanswered hmis none
      obtain ⟨d, hd, -⟩ := h hret
      cases hnone.symm.trans hd
    · obtain ⟨hret, d, hd, hlen⟩ := creation_of_finishes hcap hfin
      obtain ⟨d', hd', hle⟩ := h hret
      cases hd.symm.trans hd'
      rw [hlen] at hle
      exact Nat.lt_of_le_of_lt hle (Nat.mod_lt _ (by decide))
  · rintro ⟨hmis, hsmall⟩ hret
    have hfin := (misanswered_or_finishes hret).resolve_left hmis
    obtain ⟨-, d, hd, hlen⟩ := creation_of_finishes hcap hfin
    exact ⟨d, hd, Nat.le_of_eq (hlen.trans (Nat.mod_eq_of_lt (hsmall hfin))).symm⟩

/-- Four pixels are backed. -/
theorem fullyBacked_two_by_two :
    (∀ n d, Env.accepting.withCapacity n = some d → d.length = n) ∧
      (FullyBacked 2 2 ((init true 1).creation .accepting 7 1 2 2 none) ↔
        ¬ (init true 1).Misanswered .accepting 7 1 2 2 ∧
          ((init true 1).Finishes .accepting 7 1 2 2 → 2 * 2 * 4 < u32)) := by
  have hcap : ∀ n d, Env.accepting.withCapacity n = some d → d.length = n := by
    intro n d hd
    cases hd
    rfl
  exact ⟨hcap, fullyBacked_iff hcap (init true 1) 7 1 2 2⟩

/-- 32768 by 32769 pixels, of 4 GiB and 128 KiB, get the 128 KiB. -/
theorem large_resource_not_backed :
    ¬ FullyBacked 32768 32769 ((init true 1).creation .accepting 7 1 32768 32769 none) := by
  intro h
  obtain ⟨d, hd, hle⟩ := h (by decide)
  have hlen : ((init true 1).creation .accepting 7 1 32768 32769 none).attached.map
      MemoryDescriptor.length = some 131072 := by decide
  rw [hd] at hlen
  obtain hlen : d.length = 131072 := Option.some.inj hlen
  omega

end Gpu
end VMQemuVGA
