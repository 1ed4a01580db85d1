import VMQemuVGA.Metal.Resources
import VMQemuVGA.OpenGL.Bridge

/-! # Buffer data

`VMOpenGLBridge` keeps no data of its own: `genBuffers` has the Metal bridge make a
buffer of 4096 bytes for each id, and `bufferData` passes the data on to whatever Metal
object has the number that is entered under the bound id. Contexts and shaders are
entered in the same dictionary with numbers of their own. -/

namespace VMQemuVGA

/-! ## State -/

/-- Bytes that `updateBuffer` has copied into a buffer. -/
structure BufferWrite where
  object : MetalObject
  offset : Nat
  size : Nat
  data : Nat → UInt8

/-- `VMGLBufferDescriptor`, as far as `bufferData` reads it. -/
structure GLBufferDescriptor where
  size : UInt32
  data : Option (Nat → UInt8)

/-- How the making of one buffer turns out. -/
structure BufferMake where
  storage : StorageEnv
  /-- the dictionary of the Metal bridge takes it -/
  stored : Bool
  /-- both numbers could be made, and the dictionary of the GL bridge takes one -/
  mapped : Bool

/-- Nothing fails. -/
def BufferMake.accepted : BufferMake := ⟨⟨.success, fun _ => true, true⟩, true, true⟩

/-- What an update gets: whether the buffer has an address, and the synchronization. -/
structure UpdateEnv where
  bytes : Bool
  sync : Option SyncEnv

/-- The bridge on its Metal bridge, if there is one. The newest write is first. -/
structure BridgeBufferRun where
  bridge : OpenGLBridge
  metal : Option MetalRun
  writes : List BufferWrite
  /-- the Metal buffer that was made for an id; no code keeps it -/
  own : Nat → Option MetalObject

/-- The buffer bound to a target, where there is such a target. -/
def OpenGLBridge.boundTo (target : Nat) (b : OpenGLBridge) : Option Nat :=
  if target = 0x8892 then some b.boundArrayBuffer
  else if target = 0x8893 then some b.boundElementArrayBuffer
  else none

namespace BridgeBufferRun

def init (metal : Option MetalRun) : BridgeBufferRun where
  bridge := .init
  metal := metal
  writes := []
  own := fun _ => none

/-! ## Calls -/

/-- The id drawn next has this Metal buffer. -/
def owning (o : Option MetalObject) (s : BridgeBufferRun) : Nat → Option MetalObject :=
  Function.update s.own s.bridge.nextGLId o

/-- `desc.length`. -/
def initialLength : Nat := 4096

/-- One turn of the loop in `genBuffers`. -/
def genBuffer (s : BridgeBufferRun) (e : BufferMake) : BridgeBufferRun :=
  match s.metal with
  | none => { s with bridge := s.bridge.newObject none, own := s.owning none }
  | some m =>
      let r := m.bridge.createBuffer 1 (some initialLength) e.storage e.stored
      let m' := m.created .buffer initialLength r
      match r.1 with
      | .error _ =>
          { s with bridge := s.bridge.newObject none, metal := some m', own := s.owning none }
      | .ok id =>
          { s with
            bridge := s.bridge.newObject (if e.mapped then some id else none)
            metal := some m'
            own := s.owning (some (m.bridge.object .buffer initialLength)) }

/-- `given`: the pointer for the ids is not null. -/
def genBuffers (given : Bool) (makes : List BufferMake) (s : BridgeBufferRun) :
    IOReturn × BridgeBufferRun :=
  if given = false ∨ makes = [] then (.badArgument, s)
  else (.success, makes.foldl genBuffer s)

/-- `createShader`, where `given` says that neither pointer is null. -/
def createShader (given : Bool) (compile : Option (IOReturn × Option Nat)) (s : BridgeBufferRun) :
    IOReturn × BridgeBufferRun :=
  if given = false then (.badArgument, s)
  else
    let r := s.bridge.createShader compile
    (r.1, { s with bridge := r.2, own := s.owning none })

/-- `createContext`: `ret` is what `create3DContext` returns. -/
def createContext (given : Bool) (ret : IOReturn) (stored : Bool) (s : BridgeBufferRun) :
    IOReturn × BridgeBufferRun :=
  if given = false then (.badArgument, s)
  else if ret ≠ .success then (ret, s)
  else
    (.success, { s with
      bridge := s.bridge.newObject (if stored then some s.bridge.nextGLId else none)
      own := s.owning none })

def bindBuffer (target id : Nat) (s : BridgeBufferRun) : IOReturn × BridgeBufferRun :=
  let r := s.bridge.bindBuffer target id
  (r.1, { s with bridge := r.2 })

/-- `updateBuffer` of the Metal bridge, with the bytes it copies. -/
def updateBuffer (m : MetalRun) (id : Nat) (data : Option (Nat → UInt8)) (offset size : Nat)
    (e : UpdateEnv) (s : BridgeBufferRun) : IOReturn × BridgeBufferRun :=
  let r := m.bridge.updateBuffer id data.isSome offset size e.bytes e.sync
  (r.1, { s with
    metal := some { m with bridge := r.2 }
    writes :=
      match data, m.bridge.lookup .updateBuffer id with
      | some data, some o =>
          if r.1 = .success then ⟨o, offset, size, data⟩ :: s.writes else s.writes
      | _, _ => s.writes })

/-- Without a Metal bridge, or a number under the bound id, all is well. -/
def bufferData (target : Nat) (descriptor : Option GLBufferDescriptor) (e : UpdateEnv)
    (s : BridgeBufferRun) : IOReturn × BridgeBufferRun :=
  match descriptor with
  | none => (.badArgument, s)
  | some d =>
      match s.bridge.boundTo target with
      | none => (.badArgument, s)
      | some id =>
          if id = 0 then (.notReady, s)
          else
            match s.metal, s.bridge.findGLResource id with
            | some m, some number => s.updateBuffer m number d.data 0 d.size.toNat e
            | _, _ => (.success, s)

end BridgeBufferRun

/-! ## Runs -/

/-- Calls on the bridge, and calls of others on the Metal bridge. -/
inductive BufferCall where
  | genBuffers (given : Bool) (makes : List BufferMake)
  | createShader (given : Bool) (compile : Option (IOReturn × Option Nat))
  | createContext (given : Bool) (ret : IOReturn) (stored : Bool)
  | bindBuffer (target id : Nat)
  | bufferData (target : Nat) (descriptor : Option GLBufferDescriptor) (e : UpdateEnv)
  | otherUpdate (id : Nat) (data : Option (Nat → UInt8)) (offset size : Nat) (e : UpdateEnv)
  | otherClient (call : MetalCall)

namespace BridgeBufferRun

def step (s : BridgeBufferRun) : BufferCall → Option BridgeBufferRun
  | .genBuffers given makes => some (s.genBuffers given makes).2
  | .createShader given compile => some (s.createShader given compile).2
  | .createContext given ret stored => some (s.createContext given ret stored).2
  | .bindBuffer target id => some (s.bindBuffer target id).2
  | .bufferData target descriptor e => some (s.bufferData target descriptor e).2
  | .otherUpdate id data offset size e =>
      s.metal.map fun m => (s.updateBuffer m id data offset size e).2
  -- an update of somebody else is `otherUpdate`
  | .otherClient (.updateBuffer ..) => none
  | .otherClient call =>
      s.metal.bind fun m => (m.step call).map fun m' => { s with metal := some m' }

/-- A new bridge on a Metal bridge in any state, or on none. -/
def machine (metal : Option MetalRun) : Machine BridgeBufferRun BufferCall := ⟨init metal, step⟩

/-! ## What is asked of a run -/

/-- Where it succeeds, `bufferData` has written all the data to the start of the Metal
buffer made for the bound id, and nothing else; where it fails, nothing at all. -/
def Stores (s : BridgeBufferRun) (target : Nat) (descriptor : Option GLBufferDescriptor)
    (e : UpdateEnv) : Prop :=
  let r := s.bufferData target descriptor e
  if r.1 = .success then
    ∃ d data id o, descriptor = some d ∧ d.data = some data ∧ s.bridge.boundTo target = some id ∧
      s.own id = some o ∧ d.size.toNat ≤ o.capacity ∧
      r.2.writes = ⟨o, 0, d.size.toNat, data⟩ :: s.writes
  else r.2.writes = s.writes

/-- Every `bufferData` does that. -/
def Right (s : BridgeBufferRun) : BufferCall → Prop
  | .bufferData target descriptor e => s.Stores target descriptor e
  | _ => True

/-- The checks of `updateBuffer` behind the lookup. -/
def Accepts (d : GLBufferDescriptor) (o : MetalObject) (e : UpdateEnv) : Prop :=
  d.data.isSome = true ∧ d.size ≠ 0 ∧ d.size.toNat ≤ o.capacity ∧ e.bytes = true

/-- Where something is bound, there is a Metal bridge and a number under the id, and if
that is the number of a buffer that accepts the data, it is the one made for the id. -/
def Meets (s : BridgeBufferRun) : BufferCall → Prop
  | .bufferData target descriptor e =>
      ∀ d id, descriptor = some d → s.bridge.boundTo target = some id → id ≠ 0 →
        ∃ m number, s.metal = some m ∧ s.bridge.findGLResource id = some number ∧
          ∀ o, m.bridge.lookup .updateBuffer number = some o → Accepts d o e → s.own id = some o
  | _ => True

/-! ## Single calls -/

variable {s : BridgeBufferRun}

/-- What an update from the start of a buffer needs. -/
theorem updateBuffer_fst_eq_success_iff {m : MetalRun} {d : GLBufferDescriptor} {number : Nat}
    {e : UpdateEnv} : (s.updateBuffer m number d.data 0 d.size.toNat e).1 = .success ↔
      ∃ o, m.bridge.lookup .updateBuffer number = some o ∧ Accepts d o e := by
  have hsize : d.size.toNat % u32 = d.size.toNat := Nat.mod_eq_of_lt d.size.toNat_lt
  have hzero : d.size.toNat = 0 ↔ d.size = 0 := UInt32.toNat_inj (b := 0)
  unfold updateBuffer MetalBridge.updateBuffer Accepts
  dsimp only
  rw [Nat.zero_add, hsize]
  by_cases hbad : d.data.isSome = false ∨ d.size.toNat = 0
  · rw [if_pos hbad]
    refine iff_of_false nofun ?_
    rintro ⟨o, -, hdata, hne, -⟩
    rcases hbad with hnone | h0
    · rw [hdata] at hnone
      cases hnone
    · exact hne (hzero.mp h0)
  · obtain ⟨hdata, hpos⟩ := not_or.mp hbad
    rw [Bool.not_eq_false] at hdata
    rw [if_neg hbad]
    cases m.bridge.lookup .updateBuffer number with
    | none =>
        refine iff_of_false nofun ?_
        rintro ⟨o, ho, -⟩
        cases ho
    | some o =>
        dsimp only
        by_cases hroom : d.size.toNat ≤ o.capacity
        · rw [if_neg (by omega)]
          cases hbytes : e.bytes with
          | false =>
              refine iff_of_false nofun ?_
              rintro ⟨o', -, -, -, -, htrue⟩
              cases htrue
          | true =>
              refine iff_of_true ?_ ⟨o, rfl, hdata, mt hzero.mpr hpos, hroom, rfl⟩
              cases e.sync with
              | none => rfl
              | some sync => rfl
        · rw [if_pos (Or.inr (Nat.lt_of_not_le hroom))]
          refine iff_of_false nofun ?_
          rintro ⟨o', ho, -, -, hle, -⟩
          rw [← Option.some.inj ho] at hle
          exact hroom hle

theorem writes_updateBuffer_of_success {m : MetalRun} {number : Nat} {data : Nat → UInt8}
    {o : MetalObject} {offset size : Nat} {e : UpdateEnv}
    (hlookup : m.bridge.lookup .updateBuffer number = some o)
    (h : (s.updateBuffer m number (some data) offset size e).1 = .success) :
    (s.updateBuffer m number (some data) offset size e).2.writes =
      ⟨o, offset, size, data⟩ :: s.writes := by
  unfold updateBuffer at h ⊢
  rw [hlookup]
  exact if_pos h

theorem writes_updateBuffer_of_failure {m : MetalRun} {number : Nat}
    {data : Option (Nat → UInt8)} {offset size : Nat} {e : UpdateEnv}
    (h : (s.updateBuffer m number data offset size e).1 ≠ .success) :
    (s.updateBuffer m number data offset size e).2.writes = s.writes := by
  unfold updateBuffer at h ⊢
  dsimp only at h ⊢
  split
  · exact if_neg h
  · rfl

/-- With a Metal bridge and a number under the bound id, it is for the update to say. -/
theorem stores_update_iff {target id number : Nat} {d : GLBufferDescriptor} {e : UpdateEnv}
    {m : MetalRun} (htarget : s.bridge.boundTo target = some id) (hid : id ≠ 0)
    (hm : s.metal = some m) (hnumber : s.bridge.findGLResource id = some number) :
    s.Stores target (some d) e ↔
      ∀ o, m.bridge.lookup .updateBuffer number = some o → Accepts d o e → s.own id = some o := by
  have hcall : s.bufferData target (some d) e =
      s.updateBuffer m number d.data 0 d.size.toNat e := by
    simp only [bufferData, htarget, hm, hnumber, if_neg hid]
  unfold Stores
  rw [hcall]
  dsimp only
  split
  next hret =>
    obtain ⟨o, ho, hacc⟩ := updateBuffer_fst_eq_success_iff.mp hret
    obtain ⟨data, hdata⟩ := Option.isSome_iff_exists.mp hacc.1
    rw [hdata] at hret ⊢
    rw [writes_updateBuffer_of_success ho hret]
    constructor
    · rintro ⟨d', data', id', o', hd', -, hid', hown, -, hwrites⟩ o₁ ho₁ -
      rw [htarget] at hid'
      cases hid'
      have hobject : o = o' := congrArg BufferWrite.object (List.cons.inj hwrites).1
      rw [← Option.some.inj (ho.symm.trans ho₁), hobject]
      exact hown
    · intro howns
      exact ⟨d, data, id, o, rfl, hdata, htarget, howns o ho hacc, hacc.2.2.1, rfl⟩
  next hret =>
    refine iff_of_true (writes_updateBuffer_of_failure hret) fun o ho hacc => ?_
    exact absurd (updateBuffer_fst_eq_success_iff.mpr ⟨o, ho, hacc⟩) hret

theorem stores_iff {target : Nat} {descriptor : Option GLBufferDescriptor} {e : UpdateEnv} :
    s.Stores target descriptor e ↔ s.Meets (.bufferData target descriptor e) := by
  rw [Meets]
  cases descriptor with
  | none => exact iff_of_true rfl fun d id hd => by cases hd
  | some d =>
      cases htarget : s.bridge.boundTo target with
      | none =>
          refine iff_of_true ?_ fun d id _ hid => by cases hid
          simp only [Stores, bufferData, htarget, reduceCtorEq, if_false]
      | some id =>
          by_cases hid : id = 0
          · refine iff_of_true ?_ fun d' id' _ hid' hne => ?_
            · simp only [Stores, bufferData, htarget, if_pos hid, reduceCtorEq, if_false]
            · cases hid'
              exact absurd hid hne
          · have hlost (hnone : s.metal = none ∨ s.bridge.findGLResource id = none) :
                ¬ s.Stores target (some d) e := by
              intro hstores
              have hcall : s.bufferData target (some d) e = (.success, s) := by
                rcases hnone with hnone | hnone
                · simp only [bufferData, htarget, if_neg hid, hnone]
                · cases hm : s.metal <;> simp only [bufferData, htarget, if_neg hid, hm, hnone]
              unfold Stores at hstores
              rw [hcall] at hstores
              obtain ⟨d', data', id', o', -, -, -, -, -, hwrites⟩ := hstores
              exact absurd (congrArg List.length hwrites) (Nat.ne_of_lt (Nat.lt_succ_self _))
            cases hm : s.metal with
            | none =>
                refine iff_of_false (hlost (Or.inl hm)) fun hmeets => ?_
                obtain ⟨m, number, hmetal, -⟩ := hmeets d id rfl rfl hid
                cases hmetal
            | some m =>
                cases hnumber : s.bridge.findGLResource id with
                | none =>
                    refine iff_of_false (hlost (Or.inr hnumber)) fun hmeets => ?_
                    obtain ⟨m', number, -, hfound, -⟩ := hmeets d id rfl rfl hid
                    rw [hnumber] at hfound
                    cases hfound
                | some number =>
                    rw [stores_update_iff htarget hid hm hnumber]
                    constructor
                    · rintro howns d' id' hd' hid' -
                      cases hd'
                      cases hid'
                      exact ⟨m, number, rfl, hnumber, howns⟩
                    · intro hmeets
                      obtain ⟨m', number', hm', hnumber', howns⟩ := hmeets d id rfl rfl hid
                      cases hm'
                      rw [hnumber] at hnumber'
                      cases hnumber'
                      exact howns

/-! ## The buffers that are made -/

/-! ## All runs -/

theorem right_iff {call : BufferCall} : s.Right call ↔ s.Meets call := by
  cases call with
  | bufferData target descriptor e => exact stores_iff
  | _ => exact Iff.rfl

/-- **In every run, `bufferData` stores what it is given, and nothing anywhere else,
exactly as long as the number under the bound id is that of the buffer made for it
wherever a buffer takes the data.** -/
theorem along_right_iff (metal : Option MetalRun) (calls : List BufferCall) :
    (machine metal).Along Right (machine metal).init calls ↔
      (machine metal).Along Meets (machine metal).init calls := by
  have hcall : Right = Meets := funext fun _ => funext fun _ => propext right_iff
  rw [hcall]

/-- A context between two buffers has the number of the second one's Metal buffer: bound as
a buffer, it takes the data there. -/
theorem context_not_right :
    ¬ (machine (some (.start none))).Along Right (machine (some (.start none))).init
      [.genBuffers true [.accepted], .createContext true .success true,
        .genBuffers true [.accepted], .bindBuffer 0x8892 2,
        .bufferData 0x8892 (some ⟨16, some fun _ => 1⟩) ⟨true, none⟩] := by
  intro h
  obtain ⟨-, -, -, -, hlast, -⟩ := h
  obtain ⟨m, number, hm, hnumber, howns⟩ := right_iff.mp hlast _ 2 rfl rfl (by decide)
  cases hm
  cases hnumber
  have hown := howns _ rfl ⟨rfl, by decide, by decide, rfl⟩
  cases hown

end BridgeBufferRun
end VMQemuVGA
