import VMQemuVGA.IOSurface.Effects

/-! # Who may use which surface

Grants are entries of a list, found by the ids of a surface and a client. Both
kinds of ids are used again. What the list is for is said by a ledger: a client
has been granted a surface if a call shared the one with the other while both
were there, and nothing has taken that back. -/

namespace VMQemuVGA

open Lookaside

/-! ## Changing the first match -/

section FirstMatch
variable {ι : Type} {p : ι → Bool} {f : ι → ι} {l : List ι} {e : ι}

theorem mem_modify_findIdx (h : e ∈ l.modify (l.findIdx p) f) :
    e ∈ l ∨ ∃ e' ∈ l, p e' = true ∧ e = f e' := by
  induction l with
  | nil =>
      simp at h
  | cons x l ih =>
      rw [List.findIdx_cons] at h
      cases hx : p x with
      | true =>
          rw [hx] at h
          rcases List.mem_cons.mp h with rfl | h
          · exact Or.inr ⟨x, List.mem_cons_self, hx, rfl⟩
          · exact Or.inl (List.mem_cons_of_mem x h)
      | false =>
          rw [hx] at h
          rcases List.mem_cons.mp h with rfl | h
          · exact Or.inl List.mem_cons_self
          · rcases ih h with h | ⟨e', he', hp, rfl⟩
            · exact Or.inl (List.mem_cons_of_mem x h)
            · exact Or.inr ⟨e', List.mem_cons_of_mem x he', hp, rfl⟩

theorem mem_modify_findIdx_of_neg (h : e ∈ l) (he : p e = false) :
    e ∈ l.modify (l.findIdx p) f := by
  induction l with
  | nil => cases h
  | cons x l ih =>
      rw [List.findIdx_cons]
      cases hx : p x with
      | true =>
          rcases List.mem_cons.mp h with rfl | h
          · rw [hx] at he
            cases he
          · exact List.mem_cons_of_mem _ h
      | false =>
          rcases List.mem_cons.mp h with rfl | h
          · exact List.mem_cons_self
          · exact List.mem_cons_of_mem _ (ih h)

/-- If there is at most one match and the change ends it, none is left. -/
theorem not_match_of_modify_findIdx (hf : ∀ e, p (f e) = false) (h : (l.filter p).length ≤ 1)
    (he : e ∈ l.modify (l.findIdx p) f) : p e = false := by
  induction l with
  | nil => simp at he
  | cons x l ih =>
      rw [List.findIdx_cons] at he
      cases hx : p x with
      | true =>
          rw [hx] at he
          rcases List.mem_cons.mp he with rfl | he
          · exact hf x
          · rw [List.filter_cons_of_pos hx, List.length_cons] at h
            have hnil : l.filter p = [] := List.length_eq_zero_iff.mp (by omega)
            simpa using List.filter_eq_nil_iff.mp hnil e he
      | false =>
          rw [hx] at he
          rcases List.mem_cons.mp he with rfl | he
          · exact hx
          · apply ih _ he
            rwa [List.filter_cons_of_neg (by rw [hx]; exact Bool.false_ne_true)] at h

end FirstMatch

/-! ## The ledger -/

/-- Which client has been granted which surface. -/
abbrev AccessLedger := Nat → Nat → Bool

namespace AccessLedger

def empty : AccessLedger := fun _ _ => false

/-- The client with this id, or a new one under it, has been granted nothing. -/
def dropClient (c : Nat) (g : AccessLedger) : AccessLedger := fun c' s => decide (c' ≠ c) && g c' s

/-- The surface with this id, or a new one under it, has been granted to nobody. -/
def dropSurface (s : Nat) (g : AccessLedger) : AccessLedger := fun c s' => decide (s' ≠ s) && g c s'

def revoke (c s : Nat) (g : AccessLedger) : AccessLedger :=
  fun c' s' => !(c' = c && s' = s) && g c' s'

def grant (cs : List Nat) (s : Nat) (g : AccessLedger) : AccessLedger :=
  fun c s' => (s' = s && decide (c ∈ cs)) || g c s'

end AccessLedger

namespace IOSurfaceManager
variable {cfg : IOSurfaceConfig} {m m' : IOSurfaceManager} {g : AccessLedger}

/-- A client is registered under the id. -/
def registered (m : IOSurfaceManager) (c : Nat) : Bool := (m.clients.findClient c).isSome

/-- A surface lives under the id. -/
def living (m : IOSurfaceManager) (s : Nat) : Bool := (m.store.surfaceMap s).isSome

/-- What a call means for the ledger, read off its result. -/
def ledger (cfg : IOSurfaceConfig) (m : IOSurfaceManager) (g : AccessLedger) :
    ManagerCall → AccessLedger
  | .registerClient env =>
      match (m.registerClient env).1 with
      | .ok c => g.dropClient c
      | .error _ => g
  | .unregisterClient c number =>
      if (m.unregisterClient number c).1 = .success then g.dropClient c else g
  | .createSurface d env =>
      match (m.createSurface cfg d env).1 with
      | .ok s => g.dropSurface s
      | .error _ => g
  | .destroySurface now s number =>
      if (m.destroySurface now s number).2.living s then g else g.dropSurface s
  | .shareSurface now s descId targets array =>
      if (m.shareSurface now s descId targets array).1 = .success && m.living s then
        g.grant (m.clients.granted (targets.getD [])) s
      else g
  | .unshareSurface s c =>
      if (m.unshareSurface s c).1 = .success then g.revoke c s else g
  | _ => g

/-- Access is what the ledger says, for clients and surfaces that are there. -/
def Lawful (m : IOSurfaceManager) (g : AccessLedger) : Prop :=
  ∀ now c s, (m.canClientAccessSurface now c s).1 = (m.registered c && m.living s && g c s)

/-! ## What keeps list and ledger together -/

/-- A living grant has an entry, and an entry that could be used is a grant. -/
structure Granting (m : IOSurfaceManager) (g : AccessLedger) : Prop where
  owner : ∀ e ∈ m.clients.sharings, e.ownerClientId = 0
  surfaceCount : ∀ c info, m.clients.clientMap c = some info → info.surfaceCount = 0
  entry : ∀ c s, g c s = true → m.registered c = true ∧ m.living s = true ∧
    Discovery.Searched s ∧ m.clients.sharings.any (ClientTable.grants c s) = true
  granted : ∀ c s, m.registered c = true → m.served s ≠ none →
    m.clients.sharings.any (ClientTable.grants c s) = true → g c s = true

theorem served_ne_none_of_living {s : Nat} (hl : m.living s = true)
    (hs : Discovery.Searched s) : m.served s ≠ none := by
  unfold served Discovery.served
  rw [if_pos hs]
  intro h
  obtain ⟨-, hnone⟩ := serve_eq_none_iff.mp h
  unfold living at hl
  rw [hnone] at hl
  cases hl

theorem searched_of_served {s : Nat} (h : m.served s ≠ none) : Discovery.Searched s := by
  by_contra hs
  apply h
  unfold served Discovery.served
  rw [if_neg hs]

theorem registered_zero : m.registered 0 = false := rfl

theorem Granting.lawful (h : m.Granting g) : m.Lawful g := by
  intro now c s
  unfold canClientAccessSurface
  split
  · rename_i h0
    rcases h0 with rfl | rfl
    · rw [registered_zero]
      rfl
    · -- no grant is for surface 0
      cases hg : g c 0 with
      | false => rw [Bool.and_false]
      | true => exact absurd (h.entry c 0 hg).2.2.1.1 (Nat.lt_irrefl 0)
  split
  · rename_i hnone
    unfold registered
    rw [hnone]
    rfl
  rename_i hc
  have hreg : m.registered c = true := Option.isSome_iff_ne_none.mpr hc
  rw [findSurface_eq, hreg, Bool.true_and]
  cases hs : m.served s with
  | none =>
      dsimp only
      cases hg : g c s with
      | false => rw [Bool.and_false]
      | true =>
          obtain ⟨-, hl, hsearched, -⟩ := h.entry c s hg
          exact absurd hs (served_ne_none_of_living hl hsearched)
  | some a =>
      have hne : m.served s ≠ none := by
        rw [hs]
        exact Option.some_ne_none a
      dsimp only
      rw [lookedUp_clients]
      cases hg : g c s with
      | true =>
          obtain ⟨-, hl, -, hany⟩ := h.entry c s hg
          rw [hl, hany]
          rfl
      | false =>
          rw [Bool.and_false]
          cases hany : m.clients.sharings.any (ClientTable.grants c s) with
          | false => rfl
          | true =>
              rw [h.granted c s hreg hne hany] at hg
              cases hg

/-! ## Steps -/

/-- Nobody who is registered has an entry for the surface. -/
def Unshared (m : IOSurfaceManager) (s : Nat) : Prop :=
  ∀ e ∈ m.clients.sharings, e.active = true → e.surfaceId = s →
    m.registered e.sharedClientId = false

/-- The call leaves no entry behind that would be taken for another grant: a
client gets an id without entries for surfaces that can be found, a surface gets
an id, or gives one up, that no registered client has an entry for, a shared
surface is there, and a revoked grant has been given once. -/
def GrantsKept (cfg : IOSurfaceConfig) (m : IOSurfaceManager) : ManagerCall → Prop
  | .registerClient env =>
      env.tables = true → env.info = true → env.data = true →
        ∀ e ∈ m.clients.sharings, e.active = true → e.sharedClientId = m.clients.nextId →
          m.served e.surfaceId = none
  | .createSurface d env => m.store.accepts cfg.yuv d env = true → m.Unshared m.store.nextId
  | .destroySurface _ s _ =>
      m.served s = m.store.surfaceMap s ∧
        ∀ a ∈ m.store.surfaceMap s, m.store.destroys a = true → m.Unshared s
  | .shareSurface _ s _ _ _ => m.served s ≠ none → m.living s = true
  | .unshareSurface s c => (m.clients.sharings.filter (ClientTable.grants c s)).length ≤ 1
  | _ => True

instance (m : IOSurfaceManager) (s : Nat) : Decidable (m.Unshared s) :=
  inferInstanceAs (Decidable (∀ e ∈ m.clients.sharings, e.active = true → e.surfaceId = s →
    m.registered e.sharedClientId = false))

instance (cfg : IOSurfaceConfig) (m : IOSurfaceManager) : ∀ c, Decidable (m.GrantsKept cfg c)
  | .registerClient env =>
      inferInstanceAs (Decidable (env.tables = true → env.info = true → env.data = true →
        ∀ e ∈ m.clients.sharings, e.active = true → e.sharedClientId = m.clients.nextId →
          m.served e.surfaceId = none))
  | .createSurface d env =>
      inferInstanceAs (Decidable (m.store.accepts cfg.yuv d env = true →
        m.Unshared m.store.nextId))
  | .destroySurface _ s _ =>
      inferInstanceAs (Decidable (m.served s = m.store.surfaceMap s ∧
        ∀ a ∈ m.store.surfaceMap s, m.store.destroys a = true → m.Unshared s))
  | .shareSurface _ s _ _ _ =>
      inferInstanceAs (Decidable (m.served s ≠ none → m.living s = true))
  | .unshareSurface s c =>
      inferInstanceAs (Decidable
        ((m.clients.sharings.filter (ClientTable.grants c s)).length ≤ 1))
  | .findSurface .. | .getSurfaceDescriptor .. | .convertSurfaceFormat .. | .lockSurface ..
  | .unlockSurface .. | .lockSurfacePlane .. | .unlockSurfacePlane .. | .compactSurfaceMemory ..
  | .updateSurfaceDescriptor .. | .evictUnusedSurfaces .. | .unregisterClient ..
  | .canClientAccessSurface .. => isTrue trivial

theorem served_ne_none_of_leaves {s : Nat}
    (hd : Discovery.Leaves m.store.surfaceMap m.discovery m'.discovery)
    (hmap : m.store.surfaceMap s = none → m'.store.surfaceMap s = none)
    (h : m'.served s ≠ none) : m.served s ≠ none := by
  intro hnone
  have hsearched := searched_of_served h
  apply h
  unfold served Discovery.served at hnone ⊢
  rw [if_pos hsearched] at hnone ⊢
  have hentries := (serve_eq_none_iff.mp (hd.serve_eq_none hnone)).1
  exact serve_eq_none_iff.mpr ⟨hentries, hmap (serve_eq_none_iff.mp hnone).2⟩

theorem ne_zero_of_registered {c : Nat} (h : m.registered c = true) : c ≠ 0 := by
  rintro rfl
  rw [registered_zero] at h
  cases h

theorem registered_of_clients (h : m'.clients = m.clients) (c : Nat) :
    m'.registered c = m.registered c := by
  unfold registered
  rw [h]

/-- Entries have no owner, so they are for the client they name. -/
theorem grants_iff {c s : Nat} {e : SurfaceSharing} (ho : e.ownerClientId = 0) (hc : c ≠ 0) :
    ClientTable.grants c s e = true ↔
      e.active = true ∧ e.surfaceId = s ∧ e.sharedClientId = c := by
  unfold ClientTable.grants
  rw [ho]
  simp only [Bool.and_eq_true, Bool.or_eq_true, decide_eq_true_eq, and_assoc]
  rw [or_iff_right (Ne.symm hc)]

namespace Granting

/-- Only what is found or lives may have changed, and no grant lost its surface. -/
theorem of_clients (h : m.Granting g) (hc : m'.clients = m.clients)
    (hl : ∀ c s, g c s = true → m.living s = true → m'.living s = true)
    (hs : ∀ s, m'.served s ≠ none → m.served s ≠ none) : m'.Granting g := by
  have hreg := registered_of_clients hc
  constructor
  · rw [hc]
    exact h.owner
  · rw [hc]
    exact h.surfaceCount
  · intro c s hg
    obtain ⟨hr, hlive, hsearched, hany⟩ := h.entry c s hg
    rw [hreg, hc]
    exact ⟨hr, hl c s hg hlive, hsearched, hany⟩
  · intro c s hr hserved hany
    rw [hreg] at hr
    rw [hc] at hany
    exact h.granted c s hr (hs s hserved) hany

/-- The same with the same dictionary. -/
theorem of_surfaceMap {c : ManagerCall} (h : m.Granting g) (he : Effect cfg m m' c)
    (hc : m'.clients = m.clients) (hmap : m'.store.surfaceMap = m.store.surfaceMap) :
    m'.Granting g := by
  refine h.of_clients hc (fun _ s _ hl => ?_) fun s hs => ?_
  · unfold living
    rw [hmap]
    exact hl
  · exact served_ne_none_of_leaves he.discovery (fun hnone => by rw [hmap, hnone]) hs

/-- A surface that nobody has entries for comes, goes, or changes. -/
theorem dropSurface {s : Nat} (h : m.Granting g) (hc : m'.clients = m.clients)
    (hd : Discovery.Leaves m.store.surfaceMap m.discovery m'.discovery)
    (hmap : ∀ x, x ≠ s → m'.store.surfaceMap x = m.store.surfaceMap x) (hu : m.Unshared s) :
    m'.Granting (g.dropSurface s) := by
  have hreg := registered_of_clients hc
  constructor
  · rw [hc]
    exact h.owner
  · rw [hc]
    exact h.surfaceCount
  · intro c x hg
    obtain ⟨hx, hg⟩ := (Bool.and_eq_true _ _).mp hg
    obtain ⟨hr, hlive, hsearched, hany⟩ := h.entry c x hg
    refine ⟨(hreg c).trans hr, ?_, hsearched, by rw [hc]; exact hany⟩
    unfold living
    rw [hmap x (of_decide_eq_true hx)]
    exact hlive
  · intro c x hr hserved hany
    rw [hreg] at hr
    rw [hc] at hany
    by_cases hx : x = s
    · -- an entry of a registered client for the surface
      subst hx
      obtain ⟨e, he, hgrants⟩ := List.any_eq_true.mp hany
      obtain ⟨hactive, hid, rfl⟩ :=
        (grants_iff (h.owner e he) (ne_zero_of_registered hr)).mp hgrants
      rw [hu e he hactive hid] at hr
      cases hr
    · have hold := served_ne_none_of_leaves hd (fun hnone => (hmap x hx).trans hnone) hserved
      show (decide (x ≠ s) && g c x) = true
      rw [h.granted c x hr hold hany, Bool.and_true]
      exact decide_eq_true hx

/-- A client that has no entries for what can be found comes, goes, or changes. -/
theorem dropClient {c : Nat} {t : ClientTable} (h : m.Granting g)
    (hshared : t.sharedSurfaces = m.clients.sharedSurfaces)
    (hother : ∀ x, x ≠ c → t.clientMap x = m.clients.clientMap x)
    (hcount : ∀ info, t.clientMap c = some info → info.surfaceCount = 0)
    (hnew : ∀ e ∈ m.clients.sharings, e.active = true → e.sharedClientId = c → c ≠ 0 →
      t.clientMap c ≠ none → m.served e.surfaceId = none) :
    Granting { m with clients := t } (g.dropClient c) := by
  have hsharings : t.sharings = m.clients.sharings := by
    unfold ClientTable.sharings
    rw [hshared]
  have hreg : ∀ x, x ≠ c → registered { m with clients := t } x = m.registered x := by
    intro x hx
    unfold registered ClientTable.findClient
    dsimp only
    rw [hother x hx]
  constructor
  · rw [hsharings]
    exact h.owner
  · intro x info hinfo
    by_cases hx : x = c
    · subst hx
      exact hcount info hinfo
    · exact h.surfaceCount x info ((hother x hx).symm.trans hinfo)
  · intro x s hg
    obtain ⟨hx, hg⟩ := (Bool.and_eq_true _ _).mp hg
    obtain ⟨hr, hlive, hsearched, hany⟩ := h.entry x s hg
    rw [← hsharings] at hany
    exact ⟨(hreg x (of_decide_eq_true hx)).trans hr, hlive, hsearched, hany⟩
  · intro x s hr hserved hany
    rw [hsharings] at hany
    by_cases hx : x = c
    · subst hx
      have hx0 := ne_zero_of_registered hr
      obtain ⟨e, he, hgrants⟩ := List.any_eq_true.mp hany
      obtain ⟨hactive, rfl, hid⟩ := (grants_iff (h.owner e he) hx0).mp hgrants
      have hmapped : t.clientMap x ≠ none := by
        unfold registered ClientTable.findClient at hr
        rw [if_neg hx0] at hr
        exact Option.isSome_iff_ne_none.mp hr
      exact absurd (hnew e he hactive hid hx0 hmapped) hserved
    · rw [hreg x hx] at hr
      show (decide (x ≠ c) && g x s) = true
      rw [h.granted x s hr hserved hany, Bool.and_true]
      exact decide_eq_true hx

/-- A living surface is shared with registered clients. -/
theorem share {s : Nat} {targets : List (Nat × Bool)} (h : m.Granting g)
    (hs : m.served s ≠ none) (hl : m.living s = true) :
    Granting { m with clients := m.clients.share s targets }
      (g.grant (m.clients.granted targets) s) := by
  have hsharings : (m.clients.share s targets).sharings =
      m.clients.sharings ++ (m.clients.granted targets).map fun c => ⟨s, 0, c, true⟩ := rfl
  constructor
  · intro e he
    rw [hsharings] at he
    rcases List.mem_append.mp he with he | he
    · exact h.owner e he
    · obtain ⟨c, -, rfl⟩ := List.mem_map.mp he
      rfl
  · exact h.surfaceCount
  · intro c x hg
    rw [hsharings, List.any_append]
    unfold AccessLedger.grant at hg
    rcases (Bool.or_eq_true _ _).mp hg with hg | hg
    · obtain ⟨hx, hc⟩ := (Bool.and_eq_true _ _).mp hg
      have hc := of_decide_eq_true hc
      obtain rfl := of_decide_eq_true hx
      obtain ⟨p, hp, rfl⟩ := List.mem_map.mp hc
      obtain ⟨-, hfound⟩ := List.mem_filter.mp hp
      have hr : m.registered p.1 = true := ((Bool.and_eq_true _ _).mp hfound).1
      refine ⟨hr, hl, searched_of_served hs, ?_⟩
      rw [Bool.or_eq_true]
      right
      refine List.any_eq_true.mpr ⟨⟨x, 0, p.1, true⟩, List.mem_map.mpr ⟨p.1, hc, rfl⟩, ?_⟩
      exact (grants_iff rfl (ne_zero_of_registered hr)).mpr ⟨rfl, rfl, rfl⟩
    · obtain ⟨hr, hlive, hsearched, hany⟩ := h.entry c x hg
      exact ⟨hr, hlive, hsearched, by rw [hany, Bool.true_or]⟩
  · intro c x hr hserved hany
    rw [hsharings, List.any_append, Bool.or_eq_true] at hany
    unfold AccessLedger.grant
    rw [Bool.or_eq_true]
    rcases hany with hany | hany
    · exact Or.inr (h.granted c x hr hserved hany)
    · left
      obtain ⟨e, he, hgrants⟩ := List.any_eq_true.mp hany
      obtain ⟨c', hc', rfl⟩ := List.mem_map.mp he
      obtain ⟨-, rfl, rfl⟩ := (grants_iff rfl (ne_zero_of_registered hr)).mp hgrants
      rw [decide_eq_true rfl, Bool.true_and]
      exact decide_eq_true hc'

/-- The one entry for a client and a surface is taken back. -/
theorem revoke {c s : Nat} (h : m.Granting g) (hc : c ≠ 0)
    (hone : (m.clients.sharings.filter (ClientTable.grants c s)).length ≤ 1) :
    Granting { m with clients := m.clients.revoke c s } (g.revoke c s) := by
  have hsharings : (m.clients.revoke c s).sharings = m.clients.sharings.modify
      (m.clients.sharings.findIdx (ClientTable.grants c s))
        fun e => { e with active := false } := by
    unfold ClientTable.sharings ClientTable.revoke
    cases m.clients.sharedSurfaces <;> rfl
  constructor
  · intro e he
    rw [hsharings] at he
    rcases mem_modify_findIdx he with he | ⟨e', he', -, rfl⟩
    · exact h.owner e he
    · exact h.owner e' he'
  · exact h.surfaceCount
  · intro c' s' hg
    unfold AccessLedger.revoke at hg
    obtain ⟨hne, hg⟩ := (Bool.and_eq_true _ _).mp hg
    obtain ⟨hr, hlive, hsearched, hany⟩ := h.entry c' s' hg
    refine ⟨hr, hlive, hsearched, ?_⟩
    obtain ⟨e, he, hgrants⟩ := List.any_eq_true.mp hany
    rw [hsharings]
    refine List.any_eq_true.mpr ⟨e, mem_modify_findIdx_of_neg he ?_, hgrants⟩
    -- the entry is for another pair, so it is not the one that ends
    obtain ⟨-, rfl, rfl⟩ := (grants_iff (h.owner e he) (ne_zero_of_registered hr)).mp hgrants
    by_contra hmatch
    obtain ⟨-, hs', hc'⟩ := (grants_iff (h.owner e he) hc).mp (Bool.not_eq_false _ ▸ hmatch)
    rw [hs', hc'] at hne
    simp at hne
  · intro c' s' hr hserved hany
    obtain ⟨e, he, hgrants⟩ := List.any_eq_true.mp hany
    rw [hsharings] at he
    have hended : ∀ e : SurfaceSharing, ClientTable.grants c s { e with active := false } = false :=
      fun e => rfl
    have hnone := not_match_of_modify_findIdx hended hone he
    rcases mem_modify_findIdx he with hold | ⟨e', he', -, rfl⟩
    · unfold AccessLedger.revoke
      rw [h.granted c' s' hr hserved (List.any_eq_true.mpr ⟨e, hold, hgrants⟩), Bool.and_true]
      by_contra hsame
      simp only [Bool.not_eq_true, Bool.not_eq_false', Bool.and_eq_true, decide_eq_true_eq] at hsame
      obtain ⟨rfl, rfl⟩ := hsame
      rw [hnone] at hgrants
      cases hgrants
    · simp [ClientTable.grants] at hgrants

/-! ### The calls -/

theorem registerClient {env : ClientEnv} (h : m.Granting g)
    (hC : m.GrantsKept cfg (.registerClient env)) :
    (m.registerClient env).2.Granting (m.ledger cfg g (.registerClient env)) := by
  unfold GrantsKept at hC
  unfold ledger
  unfold IOSurfaceManager.registerClient ClientTable.registerClient
  cases htables : env.tables with
  | false =>
      simp only [htables, if_true]
      exact h
  | true =>
      simp only [htables, Bool.true_eq_false, if_false]
      by_cases hfail : env.info = false ∨ env.data = false
      · simp only [if_pos hfail]
        exact ⟨h.owner, h.surfaceCount, h.entry, h.granted⟩
      · obtain ⟨hinfo, hdata⟩ := not_or.mp hfail
        have hC := hC htables (Bool.not_eq_false _ ▸ hinfo) (Bool.not_eq_false _ ▸ hdata)
        simp only [if_neg hfail]
        refine h.dropClient rfl (fun x hx => ?_) (fun info hinfo => ?_) fun e he ha hid _ _ =>
          hC e he ha hid
        · dsimp only
          split
          · exact Function.update_of_ne hx ..
          · rfl
        · dsimp only at hinfo
          split at hinfo
          · rw [Function.update_self] at hinfo
            cases hinfo
            rfl
          · exact h.surfaceCount _ info hinfo

theorem unregisterClient {c : Nat} {number : Bool} (h : m.Granting g) :
    (m.unregisterClient number c).2.Granting (m.ledger cfg g (.unregisterClient c number)) := by
  unfold ledger
  unfold IOSurfaceManager.unregisterClient ClientTable.unregisterClient
  by_cases hc : c = 0
  · simp only [if_pos hc, reduceCtorEq, if_false]
    exact h
  · simp only [if_neg hc]
    cases hinfo : m.clients.clientMap c with
    | none =>
        simp only [reduceCtorEq, if_false]
        exact h
    | some info =>
        -- no client is ever found to have surfaces
        have hzero := h.surfaceCount c info hinfo
        simp only [hzero, gt_iff_lt, Nat.lt_irrefl, if_false, if_true]
        refine h.dropClient rfl (fun x hx => Function.update_of_ne hx ..) (fun info hinfo => ?_)
          fun e _ _ _ _ hmapped => absurd (Function.update_self ..) hmapped
        dsimp only at hinfo
        rw [Function.update_self] at hinfo
        cases hinfo

theorem createSurface {d : IOSurfaceDescriptor} {env : CreateEnv} (h : m.Granting g)
    (hC : m.GrantsKept cfg (.createSurface d env)) :
    (m.createSurface cfg d env).2.Granting (m.ledger cfg g (.createSurface d env)) := by
  unfold GrantsKept at hC
  unfold ledger
  unfold IOSurfaceManager.createSurface
  rcases SurfaceStore.createSurface_cases m.store cfg.yuv d env with
    ⟨r, hr⟩ | ⟨r, -, -, hr⟩ | ⟨p, href, hb, hr⟩
  · simp only [hr]
    exact h
  · simp only [hr]
    exact ⟨h.owner, h.surfaceCount, h.entry, h.granted⟩
  · simp only [hr]
    refine h.dropSurface rfl Sourced.refl (fun x hx => ?_)
      (hC (SurfaceStore.accepts_eq_true href hb))
    unfold SurfaceStore.register
    dsimp only
    split
    · exact Function.update_of_ne hx ..
    · rfl

/-- For a surface that is not there the ledger has nothing. -/
theorem dropSurface_eq {s : Nat} (h : m.Granting g) (hl : m.living s = false) :
    g.dropSurface s = g := by
  funext c x
  unfold AccessLedger.dropSurface
  by_cases hx : x = s
  · subst hx
    cases hg : g c x with
    | false => rw [Bool.and_false]
    | true =>
        rw [(h.entry c x hg).2.1] at hl
        cases hl
  · rw [decide_eq_true hx, Bool.true_and]

theorem destroySurface {now s : Nat} {number : Bool} (h : m.Granting g)
    (hs : m.step cfg (.destroySurface now s number) = some m')
    (hC : m.GrantsKept cfg (.destroySurface now s number)) :
    m'.Granting (m.ledger cfg g (.destroySurface now s number)) := by
  have he := step_effect hs
  have hm' : (m.destroySurface now s number).2 = m' := Option.some.inj (step_eq_some hs).2
  simp only [ledger, hm']
  have hsame : m'.store.surfaceMap = m.store.surfaceMap →
      m'.Granting (if m'.living s then g else g.dropSurface s) := by
    intro hmap
    have hg := h.of_surfaceMap he he.clients hmap
    cases hl : m'.living s with
    | true => exact hg
    | false =>
        rw [if_neg Bool.false_ne_true, hg.dropSurface_eq hl]
        exact hg
  rcases he.store with hst | ⟨a, ha, -, hst⟩
  · exact hsame (congrArg SurfaceStore.surfaceMap hst)
  · rcases SurfaceStore.destroySurface_cases m.store number s a with ⟨-, hd⟩ | ⟨hd, hremove⟩
    · exact hsame (hst ▸ hd.surfaceMap)
    · rw [hremove] at hst
      have hgone : m'.store.surfaceMap = Function.update m.store.surfaceMap s none :=
        congrArg SurfaceStore.surfaceMap hst
      have hl : m'.living s = false := by
        unfold living
        rw [hgone, Function.update_self]
        rfl
      rw [hl, if_neg Bool.false_ne_true]
      refine h.dropSurface he.clients he.discovery (fun x hx => ?_)
        (hC.2 a (hC.1.symm.trans ha) hd)
      rw [hgone]
      exact Function.update_of_ne hx ..

theorem lookedUp {now s : Nat} (h : m.Granting g) : (m.lookedUp now s).Granting g :=
  h.of_clients rfl (fun _ _ _ hl => hl) fun _ hs =>
    served_ne_none_of_leaves leaves_lookedUp (fun hnone => hnone) hs

theorem shareSurface {now s descId : Nat} {targets : Option (List (Nat × Bool))} {array : Bool}
    (h : m.Granting g) (hC : m.GrantsKept cfg (.shareSurface now s descId targets array)) :
    (m.shareSurface now s descId targets array).2.Granting
      (m.ledger cfg g (.shareSurface now s descId targets array)) := by
  unfold ledger
  unfold IOSurfaceManager.shareSurface
  by_cases h0 : s = 0
  · simp only [if_pos h0, reduceCtorEq, decide_false, Bool.false_and]
    exact h
  by_cases hid : descId ≠ s
  · simp only [if_neg h0, if_pos hid, reduceCtorEq, decide_false, Bool.false_and]
    exact h
  simp only [if_neg h0, if_neg hid, findSurface_eq]
  cases hserved : m.served s with
  | none =>
      simp only [reduceCtorEq, decide_false, Bool.false_and]
      exact h.lookedUp
  | some a =>
      have hne : m.served s ≠ none := by
        rw [hserved]
        exact Option.some_ne_none a
      have hl := hC hne
      dsimp only
      by_cases hfail : (m.lookedUp now s).clients.sharedSurfaces = none ∧ array = false
      · simp only [if_pos hfail, reduceCtorEq, decide_false, Bool.false_and]
        exact h.lookedUp
      · simp only [if_neg hfail, decide_true, Bool.true_and, hl, if_true]
        exact h.lookedUp.share (served_ne_none_of_living (m := m.lookedUp now s) hl
          (searched_of_served hne)) hl

theorem unshareSurface {s c : Nat} (h : m.Granting g)
    (hC : m.GrantsKept cfg (.unshareSurface s c)) :
    (m.unshareSurface s c).2.Granting (m.ledger cfg g (.unshareSurface s c)) := by
  unfold ledger
  unfold IOSurfaceManager.unshareSurface ClientTable.unshareSurface
  by_cases h0 : s = 0 ∨ c = 0
  · simp only [if_pos h0, reduceCtorEq, if_false]
    exact h
  · simp only [if_neg h0]
    split
    · exact h.revoke (not_or.mp h0).2 hC
    · simp only [reduceCtorEq, if_false]
      exact h

theorem step {c : ManagerCall} (h : m.Granting g) (hC : m.GrantsKept cfg c)
    (hs : m.step cfg c = some m') : m'.Granting (m.ledger cfg g c) := by
  have he := step_effect hs
  obtain ⟨-, hafter⟩ := step_eq_some hs
  cases c with
  | registerClient env =>
      cases hafter
      exact h.registerClient hC
  | unregisterClient id number =>
      cases hafter
      exact h.unregisterClient
  | createSurface d env =>
      cases hafter
      exact h.createSurface hC
  | destroySurface now s number => exact h.destroySurface hs hC
  | shareSurface now s descId targets array =>
      cases hafter
      exact h.shareSurface hC
  | unshareSurface s c =>
      cases hafter
      exact h.unshareSurface hC
  | _ => exact h.of_surfaceMap he he.clients he.surfaceMap

end Granting

end IOSurfaceManager

/-- The manager with the ledger of its calls. -/
structure SharingRun where
  manager : IOSurfaceManager
  ledger : AccessLedger

namespace SharingRun

def start : SharingRun := ⟨.start, .empty⟩

def step (cfg : IOSurfaceConfig) (r : SharingRun) (c : ManagerCall) : Option SharingRun :=
  (r.manager.step cfg c).map fun m => ⟨m, r.manager.ledger cfg r.ledger c⟩

def machine (cfg : IOSurfaceConfig) : Machine SharingRun ManagerCall where
  init := start
  step := step cfg

/-- The list of grants says what the ledger says, and no freed object was used. -/
structure Lawful (r : SharingRun) : Prop where
  lawful : r.manager.Lawful r.ledger
  tame : r.manager.wild = false

/-- The call uses no freed object and leaves no entry behind. -/
def KeepsGrants (cfg : IOSurfaceConfig) (r : SharingRun) (c : ManagerCall) : Prop :=
  r.manager.Tame c ∧ r.manager.GrantsKept cfg c

instance (cfg : IOSurfaceConfig) (r : SharingRun) (c : ManagerCall) :
    Decidable (r.KeepsGrants cfg c) :=
  inferInstanceAs (Decidable (r.manager.Tame c ∧ r.manager.GrantsKept cfg c))

theorem granting_start : IOSurfaceManager.Granting .start .empty where
  owner := fun _ h => (by cases h)
  surfaceCount := fun _ _ h => (by cases h)
  entry := fun _ _ h => (by cases h)
  granted := fun _ _ _ _ h => (by cases h)

/-- **Access follows the ledger** in every run whose calls leave no entry behind
that could be taken for another grant. -/
theorem access_follows_ledger (cfg : IOSurfaceConfig) (calls : List ManagerCall)
    (hC : (machine cfg).Along (KeepsGrants cfg) start calls) :
    (machine cfg).Always Lawful start calls := by
  have hkept : (machine cfg).Always
      (fun r => r.manager.Granting r.ledger ∧ r.manager.wild = false) start calls := by
    refine (machine cfg).always_of_along (fun r c r' h hc hs => ?_) ⟨granting_start, rfl⟩ hC
    obtain ⟨m', hm, rfl⟩ := Option.map_eq_some_iff.mp hs
    exact ⟨h.1.step hc.2 hm, (IOSurfaceManager.step_wild hc.1 hm).trans h.2⟩
  exact hkept.imp _ fun r h => ⟨h.1.lawful, h.2⟩

/-- Two clients, one of them granted a surface and refused it again. -/
theorem access_follows_ledger_two :
    (machine ⟨true, false⟩).Always Lawful start
      [.registerClient ⟨true, true, true, true, true⟩,
        .createSurface (.plain .bgra32 4 4) (.granted 1 1 1),
        .registerClient ⟨true, true, true, true, true⟩,
        .shareSurface 2 1 1 (some [(1, true), (2, true)]) true, .canClientAccessSurface 3 2 1,
        .unshareSurface 1 2, .canClientAccessSurface 4 2 1, .unshareSurface 1 1,
        .unregisterClient 1 true, .registerClient ⟨true, true, true, true, true⟩,
        .destroySurface 5 1 true] :=
  access_follows_ledger _ _ (by decide)

/-- A surface shared twice with a client stays accessible when it is unshared. -/
theorem access_survives_unsharing :
    ¬ ∀ (cfg : IOSurfaceConfig) (calls : List ManagerCall),
      (machine cfg).Always Lawful start calls := by
  intro h
  have hrun := h ⟨true, false⟩ [.registerClient ⟨true, true, true, true, true⟩,
    .createSurface (.plain .bgra32 4 4) (.granted 1 1 1),
    .shareSurface 2 1 1 (some [(1, true)]) true, .shareSurface 3 1 1 (some [(1, true)]) true,
    .unshareSurface 1 1]
  obtain ⟨r, hr, hshown⟩ := hrun.of_any _ (p := fun r : SharingRun =>
    decide ((r.manager.canClientAccessSurface 4 1 1).1 ≠
      (r.manager.registered 1 && r.manager.living 1 && r.ledger 1 1))) (by decide)
  exact of_decide_eq_true hshown (hr.lawful 4 1 1)

end SharingRun

end VMQemuVGA
