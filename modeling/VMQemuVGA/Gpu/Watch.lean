import VMQemuVGA.Gpu.Device

/-! # Watching the host

`Link.sent` is the record of what was published and how it was answered. What a
call had the host do is the accepted part of what the call added to it. An
observer that wants to follow some part of the host (which resource a scanout
shows, who created a context) folds over that. -/

namespace VMQemuVGA

/-- The commands that were answered with success, oldest first. -/
def carriedOut (sent : List (HostCmd × Answer)) : List HostCmd :=
  (sent.filter fun p => decide (p.2.ret = .success)).map Prod.fst

@[simp] theorem carriedOut_nil : carriedOut [] = [] := rfl

@[simp] theorem carriedOut_append (s t : List (HostCmd × Answer)) :
    carriedOut (s ++ t) = carriedOut s ++ carriedOut t := by
  simp only [carriedOut, List.filter_append, List.map_append]

/-- The host takes `cmd` and carries it out. -/
def Env.Takes (e : Env) (cmd : HostCmd) : Prop := (e.ask cmd).ret = .success

instance (e : Env) (cmd : HostCmd) : Decidable (e.Takes cmd) :=
  inferInstanceAs (Decidable ((e.ask cmd).ret = .success))

theorem Env.takes_iff {e : Env} {cmd : HostCmd} : e.Takes cmd ↔ (e.ask cmd).ret = .success :=
  Iff.rfl

/-- What the host carries out when `cmd` is sent to it. -/
def Env.accepted (e : Env) (cmd : HostCmd) : List HostCmd := if e.Takes cmd then [cmd] else []

theorem Env.accepted_of_takes {e : Env} {cmd : HostCmd} (h : e.Takes cmd) :
    e.accepted cmd = [cmd] := if_pos h

theorem Env.accepted_of_not {e : Env} {cmd : HostCmd} (h : ¬ e.Takes cmd) :
    e.accepted cmd = [] := if_neg h

namespace Gpu

/-- What the host carried out between two states of a run. -/
def executedSince (g g' : Gpu) : List HostCmd :=
  carriedOut (g'.link.sent.drop g.link.sent.length)

/-- `g'` comes after `g`, and in between the host carried out `cmds`. -/
def Ran (g g' : Gpu) (cmds : List HostCmd) : Prop :=
  ∃ sent, g'.link.sent = g.link.sent ++ sent ∧ carriedOut sent = cmds

variable {g g₁ g₂ : Gpu} {cmds cmds₁ cmds₂ : List HostCmd}

theorem Ran.executedSince (h : g.Ran g₁ cmds) : g.executedSince g₁ = cmds := by
  obtain ⟨sent, hsent, rfl⟩ := h
  rw [Gpu.executedSince, hsent, List.drop_left]

/-- Whatever left the record alone ran nothing. -/
theorem ran_of_link_eq (h : g₁.link = g.link) : g.Ran g₁ [] := by
  refine ⟨[], ?_, rfl⟩
  rw [h, List.append_nil]

theorem Ran.refl (g : Gpu) : g.Ran g [] := ran_of_link_eq rfl

theorem Ran.trans (h₁ : g.Ran g₁ cmds₁) (h₂ : g₁.Ran g₂ cmds₂) : g.Ran g₂ (cmds₁ ++ cmds₂) := by
  obtain ⟨s, hs, rfl⟩ := h₁
  obtain ⟨t, ht, rfl⟩ := h₂
  refine ⟨s ++ t, ?_, carriedOut_append s t⟩
  rw [ht, hs, List.append_assoc]

/-- Only the record counts: a later state with the same link ran the same. -/
theorem Ran.of_link_eq (h : g.Ran g₁ cmds) (hl : g₂.link = g₁.link) : g.Ran g₂ cmds := by
  rw [← List.append_nil cmds]
  exact h.trans (ran_of_link_eq hl)

/-- `g'` comes after `g`. -/
def Grows (g g' : Gpu) : Prop := ∃ cmds, g.Ran g' cmds

theorem Ran.grows (h : g.Ran g₁ cmds) : g.Grows g₁ := ⟨cmds, h⟩

theorem Grows.refl (g : Gpu) : g.Grows g := (Ran.refl g).grows

theorem Grows.trans (h₁ : g.Grows g₁) (h₂ : g₁.Grows g₂) : g.Grows g₂ := by
  obtain ⟨cmds₁, h₁⟩ := h₁
  obtain ⟨cmds₂, h₂⟩ := h₂
  exact (h₁.trans h₂).grows

theorem Grows.ran (h : g.Grows g₁) : g.Ran g₁ (g.executedSince g₁) := by
  obtain ⟨cmds, h⟩ := h
  rw [h.executedSince]
  exact h

/-- What was carried out over two calls. -/
theorem executedSince_trans (h₁ : g.Grows g₁) (h₂ : g₁.Grows g₂) :
    g.executedSince g₂ = g.executedSince g₁ ++ g₁.executedSince g₂ :=
  (h₁.ran.trans h₂.ran).executedSince

theorem ran_submitCommand (e : Env) (g : Gpu) (cmd : HostCmd) :
    g.Ran (g.submitCommand e cmd).2 (e.accepted cmd) := by
  have hacc : e.accepted cmd = carriedOut [(cmd, e.ask cmd)] := by
    by_cases h : e.Takes cmd
    · rw [Env.accepted_of_takes h]
      simp only [carriedOut, List.filter_cons, List.filter_nil, Env.takes_iff.mp h, decide_true,
        if_true, List.map_cons, List.map_nil]
    · rw [Env.accepted_of_not h]
      rw [Env.takes_iff] at h
      simp only [carriedOut, List.filter_cons, List.filter_nil, h, decide_false,
        Bool.false_eq_true, if_false, List.map_nil]
  rw [hacc]
  unfold submitCommand afterSend
  cases e.ask cmd with
  | reply type => exact ⟨_, rfl, rfl⟩
  | timeout => exact ⟨_, rfl, rfl⟩
  | refused why =>
      -- never published, and no success either
      refine ⟨[], (List.append_nil _).symm, ?_⟩
      simp only [carriedOut, List.filter_cons, List.filter_nil, Answer.ret_refused_ne why,
        decide_false, Bool.false_eq_true, if_false, List.map_nil]

/-! ## Backing a resource -/

/-- `attachBacking` gets the segments of `d` to the host. -/
def Attaches (g : Gpu) (e : Env) (id : Nat) (d : MemoryDescriptor) : Prop :=
  g.ready = true ∧ d.prepareRet = .success ∧ d.segments ≠ [] ∧ d.walked ≠ 0 ∧
    e.alloc .attachCommand = true ∧ e.Takes (.resourceAttachBacking id ⟨d.wireEntries, none⟩)

instance (g : Gpu) (e : Env) (id : Nat) (d : MemoryDescriptor) : Decidable (g.Attaches e id d) :=
  inferInstanceAs (Decidable (_ ∧ _))

theorem attachBacking_cases (e : Env) (g : Gpu) (id : Nat) (d : MemoryDescriptor) :
    (g.Attaches e id d ∧ (g.attachBacking e id (some d)).1 = .success ∧
      g.Ran (g.attachBacking e id (some d)).2 [.resourceAttachBacking id ⟨d.wireEntries, none⟩]) ∨
    (¬ g.Attaches e id d ∧ (g.attachBacking e id (some d)).1 ≠ .success ∧
      g.Ran (g.attachBacking e id (some d)).2 []) := by
  unfold attachBacking Attaches
  split
  · next h => exact Or.inr ⟨by simp [h], by simp, .refl g⟩
  next hready =>
  dsimp only
  split
  · next h => exact Or.inr ⟨by simp [h], h, .refl g⟩
  next hprep =>
  split
  · next h => exact Or.inr ⟨by rcases h with h | h <;> simp [h], by simp, .refl g⟩
  next hseg =>
  split
  · next h => exact Or.inr ⟨by simp [h], by simp, .refl g⟩
  next halloc =>
  have hran := ran_submitCommand e g (.resourceAttachBacking id ⟨d.wireEntries, none⟩)
  by_cases hacc : e.Takes (.resourceAttachBacking id ⟨d.wireEntries, none⟩)
  · rw [Env.accepted_of_takes hacc] at hran
    refine Or.inl ⟨⟨by simpa using hready, not_not.mp hprep, ?_, ?_, by simpa using halloc, hacc⟩,
      hacc, hran⟩
    · exact fun hc => hseg (Or.inl hc)
    · exact fun hc => hseg (Or.inr hc)
  · rw [Env.accepted_of_not hacc] at hran
    exact Or.inr ⟨fun hc => hacc hc.2.2.2.2.2, hacc, hran⟩

/-- A frame for `Attaches`: of the object only `ready` matters. -/
theorem attaches_congr {g g' : Gpu} (h : g'.ready = g.ready) (e : Env) (id : Nat)
    (d : MemoryDescriptor) : g'.Attaches e id d ↔ g.Attaches e id d := by
  unfold Attaches
  rw [h]

/-! ## Creating a 2D resource -/

/-- The memory `createResource2D` attaches: the caller's, or a fresh buffer. -/
def backing2D (e : Env) (width height : Nat) (backing : Option MemoryDescriptor) :
    Option MemoryDescriptor :=
  backing.orElse fun _ => e.withCapacity (width * height * 4 % u32)

/-- The create is new, it is answered with `OK_NODATA`, and memory is attached
to it. What is left to find is a slot. -/
def Backed2D (g : Gpu) (e : Env) (id format width height : Nat)
    (backing : Option MemoryDescriptor) : Prop :=
  g.findResource id = none ∧
    e.ask (.resourceCreate2D id format width height) = .reply respOkNodata ∧
    ∃ d ∈ backing2D e width height backing, g.Attaches e id d

instance (g : Gpu) (e : Env) (id format width height : Nat) (backing : Option MemoryDescriptor) :
    Decidable (g.Backed2D e id format width height backing) :=
  inferInstanceAs (Decidable (_ ∧ _))

/-- No slot is left for a backed resource, and it is unreferenced again. -/
def TakesBack (g : Gpu) (e : Env) (id format width height : Nat)
    (backing : Option MemoryDescriptor) : Prop :=
  g.Backed2D e id format width height backing ∧ g.pool.freeIdx? = none ∧
    e.Takes (.resourceUnref id)

/-- A backed resource that finds a slot. -/
def Lands (g : Gpu) (e : Env) (id format width height : Nat)
    (backing : Option MemoryDescriptor) : Prop :=
  g.Backed2D e id format width height backing ∧ g.pool.freeIdx? ≠ none

instance (g : Gpu) (e : Env) (id format width height : Nat) (backing : Option MemoryDescriptor) :
    Decidable (g.TakesBack e id format width height backing) :=
  inferInstanceAs (Decidable (_ ∧ _))

instance (g : Gpu) (e : Env) (id format width height : Nat) (backing : Option MemoryDescriptor) :
    Decidable (g.Lands e id format width height backing) :=
  inferInstanceAs (Decidable (_ ∧ _))

/-- The create is answered with success but not with `OK_NODATA`, and
`createResource2D` leaves it at that, unbacked and unregistered. -/
def Unconfirmed2D (g : Gpu) (e : Env) (id format width height : Nat) : Prop :=
  g.findResource id = none ∧ e.Takes (.resourceCreate2D id format width height) ∧
    (e.ask (.resourceCreate2D id format width height)).type ≠ respOkNodata

instance (g : Gpu) (e : Env) (id format width height : Nat) :
    Decidable (g.Unconfirmed2D e id format width height) :=
  inferInstanceAs (Decidable (_ ∧ _))

/-- The host has the resource afterwards and the caller is told so. -/
def Created2D (g : Gpu) (e : Env) (id format width height : Nat)
    (backing : Option MemoryDescriptor) : Prop :=
  g.Lands e id format width height backing ∨ g.Unconfirmed2D e id format width height

instance (g : Gpu) (e : Env) (id format width height : Nat) (backing : Option MemoryDescriptor) :
    Decidable (g.Created2D e id format width height backing) :=
  inferInstanceAs (Decidable (_ ∨ _))

/-- A frame for `Backed2D`: of the object only `ready` and the pool matter. -/
theorem backed2D_congr {g g' : Gpu} (hready : g'.ready = g.ready) (hpool : g'.pool = g.pool)
    (e : Env) (id format width height : Nat) (backing : Option MemoryDescriptor) :
    g'.Backed2D e id format width height backing ↔ g.Backed2D e id format width height backing := by
  unfold Backed2D findResource
  simp only [hpool, attaches_congr hready]

/-- The ways `createResource2D` can come out. -/
inductive Create2D (e : Env) (g : Gpu) (id format width height : Nat)
    (backing : Option MemoryDescriptor) : IOReturn × Gpu → Prop
  | failed {ret : IOReturn} {g' : Gpu} (hbacked : ¬ g.Backed2D e id format width height backing)
      (hun : ¬ g.Unconfirmed2D e id format width height) (hret : ret ≠ .success)
      (hpool : g'.pool = g.pool)
      (hran : g.Ran g' [] ∨ g.Ran g' [.resourceCreate2D id format width height]) :
      Create2D e g id format width height backing (ret, g')
  | unconfirmed {g' : Gpu} (hbacked : ¬ g.Backed2D e id format width height backing)
      (hun : g.Unconfirmed2D e id format width height) (hpool : g'.pool = g.pool)
      (hran : g.Ran g' [.resourceCreate2D id format width height]) :
      Create2D e g id format width height backing (.success, g')
  | noSlot {g' : Gpu} {d : MemoryDescriptor}
      (hbacked : g.Backed2D e id format width height backing) (hfree : g.pool.freeIdx? = none)
      (hpool : g'.pool = g.pool)
      (hran : g.Ran g' ([.resourceCreate2D id format width height,
        .resourceAttachBacking id ⟨d.wireEntries, none⟩] ++ e.accepted (.resourceUnref id))) :
      Create2D e g id format width height backing (.noSpace, g')
  | landed {g' : Gpu} {d : MemoryDescriptor} {i : Nat}
      (hbacked : g.Backed2D e id format width height backing)
      (hd : backing2D e width height backing = some d) (hfree : g.pool.freeIdx? = some i)
      (hpool : ∃ b, g'.pool = g.pool.put i ⟨id, width, height, format, b⟩)
      (hran : g.Ran g' [.resourceCreate2D id format width height,
        .resourceAttachBacking id ⟨d.wireEntries, none⟩]) :
      Create2D e g id format width height backing (.success, g')

/-- A reply that is a success and of type `OK_NODATA` is that reply. -/
theorem ask_eq_okNodata {e : Env} {cmd : HostCmd} (h : e.Takes cmd)
    (htype : (e.ask cmd).type = respOkNodata) : e.ask cmd = .reply respOkNodata := by
  obtain ⟨type, hreply, -⟩ := Answer.ret_eq_success.mp h
  rw [hreply] at htype ⊢
  exact congrArg Answer.reply htype

theorem takes_of_okNodata {e : Env} {cmd : HostCmd} (h : e.ask cmd = .reply respOkNodata) :
    e.Takes cmd := by
  rw [Env.Takes, h]
  exact Answer.ret_reply_okNodata

theorem createResource2D_cases (e : Env) (g : Gpu) (id format width height : Nat)
    (backing : Option MemoryDescriptor) :
    Create2D e g id format width height backing
      (g.createResource2D e id format width height backing) := by
  unfold createResource2D
  split
  · next hfound =>
    have hsome : g.findResource id ≠ none := Option.isSome_iff_ne_none.mp hfound
    exact .failed (fun hc => hsome hc.1) (fun hc => hsome hc.1) IOReturn.noConfusion rfl
      (Or.inl (.refl g))
  next hnew =>
  have hnone : g.findResource id = none := Option.not_isSome_iff_eq_none.mp hnew
  have hran := ran_submitCommand e g (.resourceCreate2D id format width height)
  dsimp only [submitCommand] at hran ⊢
  by_cases hacc : e.Takes (.resourceCreate2D id format width height)
  swap
  · -- the host turned the create away
    have hret : (e.ask (.resourceCreate2D id format width height)).ret ≠ .success := hacc
    rw [if_pos (Or.inl hret)]
    rw [Env.accepted_of_not hacc] at hran
    exact .failed (fun hc => hacc (takes_of_okNodata hc.2.1)) (fun hc => hacc hc.2.1) hacc rfl
      (Or.inl hran)
  rw [Env.accepted_of_takes hacc] at hran
  have hret := Env.takes_iff.mp hacc
  by_cases htype : (e.ask (.resourceCreate2D id format width height)).type = respOkNodata
  swap
  · rw [if_pos (Or.inr htype), hret]
    refine .unconfirmed (fun hc => htype ?_) ⟨hnone, hacc, htype⟩ rfl hran
    rw [hc.2.1]
    rfl
  rw [if_neg (not_or.mpr ⟨not_not.mpr hret, not_not.mpr htype⟩)]
  have hask := ask_eq_okNodata hacc htype
  have hun : ¬ g.Unconfirmed2D e id format width height := fun hc => hc.2.2 htype
  generalize hg₁ : g.afterSend (.resourceCreate2D id format width height)
    (e.ask (.resourceCreate2D id format width height)) = g₁ at hran ⊢
  have hpool₁ : g₁.pool = g.pool := by rw [← hg₁]; rfl
  have hready₁ : g₁.ready = g.ready := by rw [← hg₁]; rfl
  unfold backAndRegister
  split
  · next hmem =>
    have hmem : backing2D e width height backing = none := hmem
    refine .failed (fun hc => ?_) hun IOReturn.noConfusion hpool₁ (Or.inr hran)
    obtain ⟨d, hd, -⟩ := hc.2.2
    rw [hmem] at hd
    cases hd
  next d hd =>
  have hd : backing2D e width height backing = some d := hd
  obtain ⟨l, hl⟩ := attachBacking_frame e g₁ id (some d)
  have hpool₂ : (g₁.attachBacking e id (some d)).2.pool = g.pool := by rw [hl]; exact hpool₁
  dsimp only
  rcases attachBacking_cases e g₁ id d with ⟨hatt, hok, hran₂⟩ | ⟨hatt, hret, hran₂⟩
  swap
  · rw [if_pos hret]
    refine .failed (fun hc => hatt ?_) hun hret hpool₂ (Or.inr (hran.trans hran₂))
    obtain ⟨d', hd', hatt'⟩ := hc.2.2
    rw [hd, Option.mem_some_iff] at hd'
    rw [hd', attaches_congr hready₁]
    exact hatt'
  rw [if_neg (not_not.mpr hok)]
  have hbacked : g.Backed2D e id format width height backing :=
    ⟨hnone, hask, d, hd, (attaches_congr hready₁ e id d).mp hatt⟩
  split
  · next hfree =>
    rw [hpool₂] at hfree
    exact .noSlot hbacked hfree hpool₂ ((hran.trans hran₂).trans (ran_submitCommand ..))
  · next i hfree =>
    rw [hpool₂] at hfree
    refine .landed hbacked hd hfree ⟨if backing.isSome then none else some d, ?_⟩
      ((hran.trans hran₂).of_link_eq rfl)
    rw [← hpool₂]
    rfl

theorem createResource2D_fst_eq_success_iff (e : Env) (g : Gpu) (id format width height : Nat)
    (backing : Option MemoryDescriptor) :
    (g.createResource2D e id format width height backing).1 = .success ↔
      g.Created2D e id format width height backing := by
  have hcases := createResource2D_cases e g id format width height backing
  generalize g.createResource2D e id format width height backing = r at hcases ⊢
  cases hcases with
  | failed hbacked hun hret => exact iff_of_false hret fun hc => hc.elim (hbacked ·.1) hun
  | unconfirmed _ hun => exact iff_of_true rfl (Or.inr hun)
  | noSlot hbacked hfree =>
      refine iff_of_false IOReturn.noConfusion fun hc => hc.elim (·.2 hfree) fun hun => hun.2.2 ?_
      rw [hbacked.2.1]
      rfl
  | landed hbacked _ hfree =>
      exact iff_of_true rfl (Or.inl ⟨hbacked, by rw [hfree]; exact Option.some_ne_none _⟩)

theorem grows_createResource2D (e : Env) (g : Gpu) (id format width height : Nat)
    (backing : Option MemoryDescriptor) :
    g.Grows (g.createResource2D e id format width height backing).2 := by
  have hcases := createResource2D_cases e g id format width height backing
  generalize g.createResource2D e id format width height backing = r at hcases
  cases hcases with
  | failed _ _ _ _ hran => exact hran.elim Ran.grows Ran.grows
  | unconfirmed _ _ _ hran => exact hran.grows
  | noSlot _ _ _ hran => exact hran.grows
  | landed _ _ _ _ hran => exact hran.grows

/-! ## Freeing a resource -/

theorem ran_deallocateResource (e : Env) (g : Gpu) (id : Nat) :
    g.Ran (g.deallocateResource e id).2 (e.accepted (.resourceUnref id)) := by
  have hran := ran_submitCommand e g (.resourceUnref id)
  unfold deallocateResource
  dsimp only
  split
  · exact hran.of_link_eq rfl
  · exact hran

/-! ## 3D calls -/

variable {e : Env}

/-- `createResource3D` passes its checks and the host takes the command. -/
structure Creates3D (g : Gpu) (e : Env) (id target format bind width height depth : Nat) :
    Prop where
  supports3D : g.supports3D = true
  fresh : g.findResource id = none
  takes : e.Takes (create3DCmd id target format bind width height depth)

theorem createResource3D_fst_eq_success_iff {id target format bind width height depth : Nat} :
    (g.createResource3D e id target format bind width height depth).1 = .success ↔
      g.Creates3D e id target format bind width height depth := by
  unfold createResource3D
  by_cases h3D : g.supports3D = false
  · rw [if_pos h3D]
    refine iff_of_false (fun h => by cases h) fun h => ?_
    rw [h.supports3D] at h3D
    cases h3D
  by_cases hfound : (g.findResource id).isSome
  · rw [if_neg h3D, if_pos hfound]
    refine iff_of_false (fun h => by cases h) fun h => ?_
    rw [h.fresh] at hfound
    cases hfound
  rw [if_neg h3D, if_neg hfound]
  refine Iff.trans (b := e.Takes (create3DCmd id target format bind width height depth)) ?_
    ⟨fun h => ⟨by simpa using h3D, by simpa using hfound, h⟩, fun h => h.takes⟩
  -- registering the resource does not change the code returned
  rw [Env.takes_iff]
  dsimp only [submitCommand]
  rw [apply_ite Prod.fst]
  split
  · split <;> rfl
  · rfl

/-- `executeCommands` of `size` bytes passes its checks and the host takes the
command. -/
structure Executes (g : Gpu) (e : Env) (ctx size : Nat) : Prop where
  supports3D : g.supports3D = true
  mapped : e.alloc .mapCommands = true
  nonempty : size ≠ 0
  command : e.alloc .submitCommand = true
  takes : e.Takes (.submit3D ctx size)

theorem executeCommands_fst_eq_success_iff {ctx size : Nat} :
    (g.executeCommands e ctx (some size)).1 = .success ↔ g.Executes e ctx size := by
  unfold executeCommands
  constructor
  · intro h
    split at h
    · cases h
    next h3D =>
      dsimp only at h
      split at h
      · cases h
      next hmap =>
        split at h
        · cases h
        next hsize =>
          split at h
          · cases h
          next hcmd =>
            exact ⟨by simpa using h3D, by simpa using hmap, hsize, by simpa using hcmd, h⟩
  · intro h
    simp only [h.supports3D, h.mapped, h.nonempty, h.command, Bool.true_eq_false, if_false]
    exact h.takes

theorem executes_congr {g' : Gpu} (h : g'.supports3D = g.supports3D) {ctx size : Nat} :
    g'.Executes e ctx size ↔ g.Executes e ctx size :=
  ⟨fun x => ⟨h ▸ x.supports3D, x.mapped, x.nonempty, x.command, x.takes⟩,
    fun x => ⟨h ▸ x.supports3D, x.mapped, x.nonempty, x.command, x.takes⟩⟩

theorem executeCommands_cases (e : Env) (g : Gpu) (ctx size : Nat) :
    (g.Executes e ctx size ∧ g.Ran (g.executeCommands e ctx (some size)).2 [.submit3D ctx size]) ∨
    (¬ g.Executes e ctx size ∧ g.Ran (g.executeCommands e ctx (some size)).2 []) := by
  by_cases hx : g.Executes e ctx size
  · refine Or.inl ⟨hx, ?_⟩
    unfold executeCommands
    simp only [hx.supports3D, hx.mapped, hx.nonempty, hx.command, Bool.true_eq_false, if_false]
    rw [← Env.accepted_of_takes hx.takes]
    exact ran_submitCommand e g (.submit3D ctx size)
  · refine Or.inr ⟨hx, ?_⟩
    -- it is refused before the command is sent, or by the host
    have hret := fun h => hx (executeCommands_fst_eq_success_iff.mp h)
    unfold executeCommands at hret ⊢
    split
    · exact .refl g
    next h3D =>
      rw [if_neg h3D] at hret
      dsimp only at hret ⊢
      split
      · exact .refl g
      next hmap =>
        rw [if_neg hmap] at hret
        split
        · exact .refl g
        next hsize =>
          rw [if_neg hsize] at hret
          split
          · exact .refl g
          next hcmd =>
            rw [if_neg hcmd] at hret
            have hnone : e.accepted (.submit3D ctx size) = [] := Env.accepted_of_not hret
            rw [← hnone]
            exact ran_submitCommand e g (.submit3D ctx size)

/-- At most the one command is carried out. -/
theorem mem_accepted {cmd c : HostCmd} (h : c ∈ e.accepted cmd) : c = cmd := by
  unfold Env.accepted at h
  split at h
  · exact List.mem_singleton.mp h
  · cases h

theorem ran_createRenderContext (e : Env) (g : Gpu) :
    ∃ cmds, g.Ran (g.createRenderContext e).2 cmds ∧
      ∀ cmd ∈ cmds, cmd = .ctxCreate (inc32 g.nextContextId) := by
  unfold createRenderContext
  split
  · exact ⟨[], .refl g, fun _ h => by cases h⟩
  · exact ⟨_, ran_submitCommand e { g with nextContextId := inc32 g.nextContextId } _,
      fun _ => mem_accepted⟩

theorem ran_createResource3D (e : Env) (g : Gpu) (id target format bind width height depth : Nat) :
    ∃ cmds, g.Ran (g.createResource3D e id target format bind width height depth).2 cmds ∧
      ∀ cmd ∈ cmds, cmd = create3DCmd id target format bind width height depth := by
  unfold createResource3D
  split
  · exact ⟨[], .refl g, fun _ h => by cases h⟩
  split
  · exact ⟨[], .refl g, fun _ h => by cases h⟩
  have hran := ran_submitCommand e g (create3DCmd id target format bind width height depth)
  refine ⟨e.accepted _, ?_, fun _ => mem_accepted⟩
  dsimp only
  split
  · split
    · exact hran
    · exact hran.of_link_eq rfl
  · exact hran

end Gpu
end VMQemuVGA
