import Mathlib.Data.List.Forall2
import VMQemuVGA.UserClient.WinsysCommand

/-! # Winsys calls under two numberings

The same call, on the same things, of a client in two runs that number contexts
and resources differently. If the host and the client's table are alike then the
call comes out the same. -/

namespace VMQemuVGA

/-! ## Calls -/

namespace WinsysCall

/-- The same call on the same things. -/
inductive Alike (sc sr : Nat → Nat → Prop) : WinsysCall Nat → WinsysCall Nat → Prop
  | createVirglContextEx : Alike sc sr createVirglContextEx createVirglContextEx
  | destroyVirglContextEx {c c'} (hc : sc c c') :
      Alike sc sr (destroyVirglContextEx c) (destroyVirglContextEx c')
  | createResource3DEx {c c' texture} (hc : sc c c') :
      Alike sc sr (createResource3DEx c texture) (createResource3DEx c' texture)
  | attachBackingUser {n n' addr len} (hn : sr n n') :
      Alike sc sr (attachBackingUser n addr len) (attachBackingUser n' addr len)
  | detachBackingUser {n n'} (hn : sr n n') :
      Alike sc sr (detachBackingUser n) (detachBackingUser n')
  | resourceUnref {n n'} (hn : sr n n') : Alike sc sr (resourceUnref n) (resourceUnref n')
  | getCapsetInfo (index) : Alike sc sr (getCapsetInfo index) (getCapsetInfo index)
  | getCapset (capset version capacity) :
      Alike sc sr (getCapset capset version capacity) (getCapset capset version capacity)
  | submitVirglCommandsEx {c c' commands} (hc : sc c c') :
      Alike sc sr (submitVirglCommandsEx c commands) (submitVirglCommandsEx c' commands)
  | ctxAttachResource {c c' n n'} (hc : sc c c') (hn : sr n n') :
      Alike sc sr (ctxAttachResource c n) (ctxAttachResource c' n')
  | transferToHost3D {c c' n n'} (hc : sc c c') (hn : sr n n') :
      Alike sc sr (transferToHost3D c n) (transferToHost3D c' n')
  | transferFromHost3D {c c' n n'} (hc : sc c c') (hn : sr n n') :
      Alike sc sr (transferFromHost3D c n) (transferFromHost3D c' n')

theorem Alike.mono {sc sc' sr sr' : Nat → Nat → Prop} {call call' : WinsysCall Nat}
    (h : Alike sc sr call call') (hsc : ∀ c c', sc c c' → sc' c c')
    (hsr : ∀ n n', sr n n' → sr' n n') : Alike sc' sr' call call' := by
  cases h with
  | createVirglContextEx => exact .createVirglContextEx
  | destroyVirglContextEx hc => exact .destroyVirglContextEx (hsc _ _ hc)
  | createResource3DEx hc => exact .createResource3DEx (hsc _ _ hc)
  | attachBackingUser hn => exact .attachBackingUser (hsr _ _ hn)
  | detachBackingUser hn => exact .detachBackingUser (hsr _ _ hn)
  | resourceUnref hn => exact .resourceUnref (hsr _ _ hn)
  | getCapsetInfo index => exact .getCapsetInfo index
  | getCapset capset version capacity => exact .getCapset capset version capacity
  | submitVirglCommandsEx hc => exact .submitVirglCommandsEx (hsc _ _ hc)
  | ctxAttachResource hc hn => exact .ctxAttachResource (hsc _ _ hc) (hsr _ _ hn)
  | transferToHost3D hc hn => exact .transferToHost3D (hsc _ _ hc) (hsr _ _ hn)
  | transferFromHost3D hc hn => exact .transferFromHost3D (hsc _ _ hc) (hsr _ _ hn)

/-- Both draw the id of a context, or neither does, -/
theorem Alike.drawnContexts {sc sr : Nat → Nat → Prop} {call call' : WinsysCall Nat}
    (h : Alike sc sr call call') (g g' : Gpu) :
    (call.drawnContexts g = [] ∧ call'.drawnContexts g' = []) ∨
      (call.drawnContexts g = [g.nextExContextId] ∧
        call'.drawnContexts g' = [g'.nextExContextId]) := by
  cases h with
  | createVirglContextEx => exact Or.inr ⟨rfl, rfl⟩
  | _ => exact Or.inl ⟨rfl, rfl⟩

/-- and of a resource. -/
theorem Alike.drawnResources {sc sr : Nat → Nat → Prop} {call call' : WinsysCall Nat}
    (h : Alike sc sr call call') (g g' : Gpu) :
    (call.drawnResources g = [] ∧ call'.drawnResources g' = []) ∨
      (call.drawnResources g = [g.nextUserResourceId] ∧
        call'.drawnResources g' = [g'.nextUserResourceId]) := by
  cases h with
  | createResource3DEx hc => exact Or.inr ⟨rfl, rfl⟩
  | _ => exact Or.inl ⟨rfl, rfl⟩

/-- What has known names comes to the same in both numberings. -/
theorem resolve_alike {base : Nat} {cs cs' rs rs' : List Nat} (hcs : cs.length = cs'.length)
    (hrs : rs.length = rs'.length) {call : WinsysCall Pairing.Name} {c : WinsysCall Nat}
    (hctxs : ∀ name ∈ call.ctxs, name.Known base)
    (hresources : ∀ name ∈ call.resources, name.Known base) (h : call.resolve cs rs = some c) :
    ∃ c', call.resolve cs' rs' = some c' ∧
      c.Alike (Pairing.Partner base cs cs') (Pairing.Partner base rs rs') c' := by
  cases call with
  | createVirglContextEx =>
      cases h
      exact ⟨_, rfl, .createVirglContextEx⟩
  | getCapsetInfo index =>
      cases h
      exact ⟨_, rfl, .getCapsetInfo index⟩
  | getCapset capset version capacity =>
      cases h
      exact ⟨_, rfl, .getCapset capset version capacity⟩
  -- one context is named
  | destroyVirglContextEx ctx =>
      obtain ⟨k, k', hp, rfl, hk'⟩ :=
        Pairing.Name.map_resolve_partner (hctxs _ (List.mem_singleton_self _)) hcs h
      exact ⟨_, hk', .destroyVirglContextEx hp⟩
  | createResource3DEx ctx texture =>
      obtain ⟨k, k', hp, rfl, hk'⟩ :=
        Pairing.Name.map_resolve_partner (hctxs _ (List.mem_singleton_self _)) hcs h
      exact ⟨_, hk', .createResource3DEx hp⟩
  | submitVirglCommandsEx ctx commands =>
      obtain ⟨k, k', hp, rfl, hk'⟩ :=
        Pairing.Name.map_resolve_partner (hctxs _ (List.mem_singleton_self _)) hcs h
      exact ⟨_, hk', .submitVirglCommandsEx hp⟩
  -- or one resource
  | attachBackingUser id addr len =>
      obtain ⟨n, n', hp, rfl, hn'⟩ :=
        Pairing.Name.map_resolve_partner (hresources _ (List.mem_singleton_self _)) hrs h
      exact ⟨_, hn', .attachBackingUser hp⟩
  | detachBackingUser id =>
      obtain ⟨n, n', hp, rfl, hn'⟩ :=
        Pairing.Name.map_resolve_partner (hresources _ (List.mem_singleton_self _)) hrs h
      exact ⟨_, hn', .detachBackingUser hp⟩
  | resourceUnref id =>
      obtain ⟨n, n', hp, rfl, hn'⟩ :=
        Pairing.Name.map_resolve_partner (hresources _ (List.mem_singleton_self _)) hrs h
      exact ⟨_, hn', .resourceUnref hp⟩
  -- or one of each
  | ctxAttachResource ctx id =>
      obtain ⟨k, k', n, n', hc, hn, rfl, h'⟩ := Pairing.Name.bind_resolve_partner
        (hctxs _ (List.mem_singleton_self _)) (hresources _ (List.mem_singleton_self _)) hcs hrs h
      exact ⟨_, h', .ctxAttachResource hc hn⟩
  | transferToHost3D ctx id =>
      obtain ⟨k, k', n, n', hc, hn, rfl, h'⟩ := Pairing.Name.bind_resolve_partner
        (hctxs _ (List.mem_singleton_self _)) (hresources _ (List.mem_singleton_self _)) hcs hrs h
      exact ⟨_, h', .transferToHost3D hc hn⟩
  | transferFromHost3D ctx id =>
      obtain ⟨k, k', n, n', hc, hn, rfl, h'⟩ := Pairing.Name.bind_resolve_partner
        (hctxs _ (List.mem_singleton_self _)) (hresources _ (List.mem_singleton_self _)) hcs hrs h
      exact ⟨_, h', .transferFromHost3D hc hn⟩

end WinsysCall

/-! ## Tables -/

/-- The same memory kept for the same resource. -/
def UserBacking.Alike (sr : Nat → Nat → Prop) (b b' : UserBacking) : Prop :=
  sr b.resourceId b'.resourceId ∧
    b.desc.map UserDescriptor.memory = b'.desc.map UserDescriptor.memory

namespace UserBackings
variable {sr : Nat → Nat → Prop} {t t' : UserBackings} {n n' : Nat}

/-- The tables keep the same, slot by slot. -/
def Alike (sr : Nat → Nat → Prop) (t t' : UserBackings) : Prop :=
  SlotTable.Alike (UserBacking.Alike sr) t t'

theorem alike_free (hzero : sr 0 0) : UserBacking.Alike sr .free .free := ⟨hzero, rfl⟩

theorem alike_empty (hzero : sr 0 0) : empty.Alike sr empty :=
  SlotTable.alike_replicate (alike_free hzero)

theorem Alike.mono {sr' : Nat → Nat → Prop} (h : t.Alike sr t')
    (hsr : ∀ n n', sr n n' → sr' n n') : t.Alike sr' t' :=
  List.Forall₂.imp (fun _ _ hb => ⟨hsr _ _ hb.1, hb.2⟩) h

section
variable (hsr : Relator.BiUnique sr) (hzero : sr 0 0)
include hsr hzero

/-- What is kept for a resource is the same memory. -/
theorem Alike.findUserBacking (h : t.Alike sr t') (hn : sr n n') :
    (t.findUserBacking n).isSome = (t'.findUserBacking n').isSome := by
  have hfind : Option.Rel (UserBacking.Alike sr) (t.find? n) (t'.find? n') :=
    SlotTable.Alike.find? h fun b b' hb =>
      ⟨Relator.rel_eq hsr hb.1 hzero, Relator.rel_eq hsr hb.1 hn⟩
  unfold UserBackings.findUserBacking
  generalize t.find? n = o, t'.find? n' = o' at hfind
  cases hfind with
  | none => rfl
  | @some b b' hb =>
      rw [Option.bind_some, Option.bind_some, ← Option.isSome_map (f := UserDescriptor.memory),
        hb.2, Option.isSome_map]

theorem Alike.remove (h : t.Alike sr t') (hn : sr n n') : (t.remove n).Alike sr (t'.remove n') := by
  have hid : n = 0 ↔ n' = 0 := Relator.rel_eq hsr hn hzero
  unfold UserBackings.remove
  by_cases h0 : n = 0
  · rw [if_pos h0, if_pos (hid.mp h0)]
    exact h
  · rw [if_neg h0, if_neg (mt hid.mpr h0)]
    exact SlotTable.Alike.clear h (fun b b' hb => Relator.rel_eq hsr hb.1 hn) (alike_free hzero)

theorem Alike.addUserBacking (h : t.Alike sr t') (hn : sr n n') {d d' : UserDescriptor}
    (hd : d.memory = d'.memory) :
    Option.Rel (Alike sr) (t.addUserBacking n d) (t'.addUserBacking n' d') := by
  have hid : n = 0 ↔ n' = 0 := Relator.rel_eq hsr hn hzero
  unfold UserBackings.addUserBacking
  by_cases h0 : n = 0
  · rw [if_pos h0, if_pos (hid.mp h0)]
    exact .none
  rw [if_neg h0, if_neg (mt hid.mpr h0), ← h.findUserBacking hsr hzero hn]
  split
  · exact .none
  · have hidx : t.freeIdx? = t'.freeIdx? :=
      SlotTable.Alike.freeIdx? h fun b b' hb => Relator.rel_eq hsr hb.1 hzero
    rw [← hidx]
    cases t.freeIdx? with
    | none => exact .none
    | some i => exact .some (SlotTable.Alike.put h i ⟨hn, congrArg some hd⟩)

end
end UserBackings

/-! ## What a call sends, and what it leaves -/

/-- The same command, or the same reason to send none. -/
inductive CommandAlike (sc sr : Nat → Nat → Prop) :
    Except IOReturn HostCmd → Except IOReturn HostCmd → Prop
  | error (ret : IOReturn) : CommandAlike sc sr (.error ret) (.error ret)
  | ok {cmd cmd' : HostCmd} (hcmd : cmd.Alike sc sr cmd') : CommandAlike sc sr (.ok cmd) (.ok cmd')

namespace WinsysCall
variable {e : Env} {i : Nat} {s s' : BackingRun} {sc sr : Nat → Nat → Prop}
  {call call' : WinsysCall Nat}

theorem submission_alike {g g' : Gpu} (h3D : g.supports3D = g'.supports3D) {c c' : Nat}
    (hc : sc c c') (commands : Option Nat) :
    CommandAlike sc sr (submission e g c commands) (submission e g' c' commands) := by
  unfold submission
  rw [h3D]
  cases commands with
  | none => exact .error _
  | some size =>
      dsimp only
      split
      · exact .error _
      split
      · exact .error _
      split
      · exact .error _
      split
      · exact .error _
      split
      · exact .error _
      split
      · exact .error _
      · exact .ok (.submit3D hc)

section
variable (hsr : Relator.BiUnique sr) (hzero : sr 0 0)
include hsr hzero

theorem describeUserMemory_alike (htable : (s.client i).Alike sr (s'.client i)) {n n' : Nat}
    (hn : sr n n') (addr len : Nat) :
    s.describeUserMemory e i n addr len = s'.describeUserMemory e i n' addr len := by
  have hid : n = 0 ↔ n' = 0 := Relator.rel_eq hsr hn hzero
  unfold BackingRun.describeUserMemory
  simp only [hid, htable.findUserBacking hsr hzero hn]

/-- What a call sends names the same things, if what it draws is numbered in both. -/
theorem command_alike (hcall : call.Alike sc sr call') (h3D : s.gpu.supports3D = s'.gpu.supports3D)
    (hready : s.gpu.ready = s'.gpu.ready) (htable : (s.client i).Alike sr (s'.client i))
    (hctx : ∀ c ∈ call.drawnContexts s.gpu, ∀ c' ∈ call'.drawnContexts s'.gpu, sc c c')
    (hres : ∀ n ∈ call.drawnResources s.gpu, ∀ n' ∈ call'.drawnResources s'.gpu, sr n n') :
    CommandAlike sc sr (call.command e i s) (call'.command e i s') := by
  cases hcall with
  | createVirglContextEx =>
      exact .ok (.ctxCreate (hctx _ (List.mem_singleton_self _) _ (List.mem_singleton_self _)))
  | destroyVirglContextEx hc => exact .ok (.ctxDestroy hc)
  | createResource3DEx hc =>
      have hn := hres _ (List.mem_singleton_self _) _ (List.mem_singleton_self _)
      exact .ok (.resourceCreate3D hc hn)
  | @attachBackingUser n n' addr len hn =>
      show CommandAlike sc sr ((s.describeUserMemory e i n addr len).map _)
        ((s'.describeUserMemory e i n' addr len).map _)
      rw [describeUserMemory_alike hsr hzero htable hn]
      cases s'.describeUserMemory e i n' addr len with
      | error ret => exact .error ret
      | ok d => exact .ok (.resourceAttachBacking hn rfl)
  | detachBackingUser hn => exact .ok (.resourceDetachBacking hn)
  | @resourceUnref n n' hn =>
      have hid : n = 0 ↔ n' = 0 := Relator.rel_eq hsr hn hzero
      show CommandAlike sc sr (if n = 0 then _ else _) (if n' = 0 then _ else _)
      simp only [hid]
      split
      · exact .error _
      · exact .ok (.resourceUnref hn)
  | getCapsetInfo index => exact .error _
  | getCapset capset version capacity => exact .error _
  | submitVirglCommandsEx hc => exact submission_alike h3D hc _
  | ctxAttachResource hc hn => exact .ok (.ctxAttachResource hc hn)
  | transferToHost3D hc hn =>
      show CommandAlike sc sr (if s.gpu.ready = false then _ else _) (if _ then _ else _)
      rw [hready]
      split
      · exact .error _
      · exact .ok (.transferToHost3D hc hn)
  | transferFromHost3D hc hn =>
      show CommandAlike sc sr (if s.gpu.ready = false then _ else _) (if _ then _ else _)
      rw [hready]
      split
      · exact .error _
      · exact .ok (.transferFromHost3D hc hn)

/-- After the same answer a call returns the same and leaves its table the same. -/
theorem finish_alike (hcall : call.Alike sc sr call') {t t' : UserBackings} (ht : t.Alike sr t')
    (serial serial' : Nat) (ret : IOReturn) :
    (call.finish e serial t ret).1 = (call'.finish e serial' t' ret).1 ∧
      (call.finish e serial t ret).2.Alike sr (call'.finish e serial' t' ret).2 := by
  cases hcall with
  | @attachBackingUser n n' addr len hn =>
      unfold finish
      dsimp only
      split
      · exact ⟨rfl, ht⟩
      cases e.withAddressRange addr len with
      | none => exact ⟨rfl, ht⟩
      | some d =>
          rw [Option.bind_some, Option.bind_some]
          have hadd : Option.Rel (UserBackings.Alike sr) (t.addUserBacking n ⟨serial, d⟩)
              (t'.addUserBacking n' ⟨serial', d⟩) := ht.addUserBacking hsr hzero hn rfl
          generalize t.addUserBacking n _ = o, t'.addUserBacking n' _ = o' at hadd
          cases hadd with
          | none => exact ⟨rfl, ht⟩
          | some h => exact ⟨rfl, h⟩
  | detachBackingUser hn => exact ⟨rfl, ht.remove hsr hzero hn⟩
  | @resourceUnref n n' hn =>
      refine ⟨rfl, ?_⟩
      show UserBackings.Alike sr (if (t.findUserBacking n).isSome = true then _ else _)
        (if _ then _ else _)
      rw [ht.findUserBacking hsr hzero hn]
      split
      · exact ht.remove hsr hzero hn
      · exact ht
  | _ => exact ⟨rfl, ht⟩

end
end WinsysCall
end VMQemuVGA
