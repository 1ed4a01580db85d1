import VMQemuVGA.Metal.Storage

/-! # How many command buffers there can be

The pools of `createCommandBuffer` count command buffers up and never down. A pool is expanded
only when all pools are full, and then it is the first one, so that the others keep the sizes
they are set up with. -/

namespace VMQemuVGA

/-- The pool takes another command buffer as it is. -/
def CommandBufferPool.HasRoom (p : CommandBufferPool) : Prop := p.activeBuffers < p.poolSize

instance (p : CommandBufferPool) : Decidable p.HasRoom :=
  inferInstanceAs (Decidable (p.activeBuffers < p.poolSize))

namespace MetalBridge

variable {pools : List CommandBufferPool} {queue n : Nat}

/-! ## The selection -/

/-- Either no pool has more room than the best before, or a pool with more is found. -/
theorem roomiest_cases (ps : List CommandBufferPool) (i : Nat) (best : Nat × Nat) :
    roomiest ps i best = best.1 ∧ (∀ p ∈ ps, p.poolSize - p.activeBuffers ≤ best.2) ∨
      ∃ j p, ps[j]? = some p ∧ roomiest ps i best = i + j ∧
        best.2 < p.poolSize - p.activeBuffers := by
  induction ps generalizing i best with
  | nil => exact .inl ⟨rfl, fun p hp => (by cases hp)⟩
  | cons p ps ih =>
      unfold roomiest
      split
      · next hmore =>
        right
        rcases ih (i + 1) (i, p.poolSize - p.activeBuffers) with ⟨heq, -⟩ | ⟨j, r, hr, heq, hroom⟩
        · exact ⟨0, p, rfl, heq, hmore⟩
        · refine ⟨j + 1, r, hr, ?_, Nat.lt_trans hmore hroom⟩
          rw [heq]
          omega
      · next hless =>
        rcases ih (i + 1) best with ⟨heq, hall⟩ | ⟨j, r, hr, heq, hroom⟩
        · left
          refine ⟨heq, fun r hr => ?_⟩
          rcases List.mem_cons.mp hr with rfl | hr
          · exact Nat.le_of_not_gt hless
          · exact hall r hr
        · right
          refine ⟨j + 1, r, hr, ?_, hroom⟩
          rw [heq]
          omega

/-- A pool with room is selected if there is one, and otherwise the first pool. -/
theorem selectOptimalCommandBufferPool_cases (queue : Nat) (hne : pools ≠ []) :
    (∃ p, pools[selectOptimalCommandBufferPool queue pools]? = some p ∧ p.HasRoom) ∨
      (∀ p ∈ pools, ¬ p.HasRoom) ∧ selectOptimalCommandBufferPool queue pools = 0 := by
  have hbase : queue % pools.length < pools.length :=
    Nat.mod_lt _ (List.length_pos_iff.mpr hne)
  unfold selectOptimalCommandBufferPool
  dsimp only
  split
  · next hroom =>
    left
    rw [List.getD_eq_getElem?_getD, List.getElem?_eq_getElem hbase] at hroom
    exact ⟨_, List.getElem?_eq_getElem hbase, hroom⟩
  · rcases roomiest_cases pools 0 (0, 0) with ⟨heq, hall⟩ | ⟨j, p, hp, heq, hroom⟩
    · right
      refine ⟨fun p hp hroom => ?_, heq⟩
      have hle := hall p hp
      unfold CommandBufferPool.HasRoom at hroom
      omega
    · left
      rw [heq, Nat.zero_add]
      exact ⟨p, hp, Nat.lt_of_sub_pos hroom⟩

/-- An expansion makes the pool larger, up to 512. -/
theorem expandCommandBufferPool_cases (p : CommandBufferPool) :
    (512 ≤ p.poolSize ∧ expandCommandBufferPool p = none) ∨
      ∃ size, p.poolSize < size ∧ size ≤ 512 ∧
        expandCommandBufferPool p = some { p with poolSize := size } := by
  unfold expandCommandBufferPool
  dsimp only
  split
  · split
    · next hge => exact .inl ⟨hge, rfl⟩
    · next hlt => exact .inr ⟨512, Nat.lt_of_not_ge hlt, Nat.le_refl _, rfl⟩
  · next hle =>
    refine .inr ⟨_, ?_, Nat.le_of_not_gt hle, rfl⟩
    omega

/-- **Only the first pool is ever expanded**, and only when all of them are full. -/
theorem commandBufferPool_cases (queue : Nat) (hne : pools ≠ []) :
    (∃ i p, pools[i]? = some p ∧ p.HasRoom ∧ commandBufferPool queue pools = some (i, pools)) ∨
      (∀ p ∈ pools, ¬ p.HasRoom) ∧ ∃ p ps, pools = p :: ps ∧
        ((512 ≤ p.poolSize ∧ commandBufferPool queue pools = none) ∨
          ∃ size, p.poolSize < size ∧ size ≤ 512 ∧
            commandBufferPool queue pools = some (0, { p with poolSize := size } :: ps)) := by
  unfold commandBufferPool
  dsimp only
  rcases selectOptimalCommandBufferPool_cases queue hne with ⟨p, hp, hroom⟩ | ⟨hfull, hzero⟩
  · left
    refine ⟨_, p, hp, hroom, ?_⟩
    rw [List.getD_eq_getElem?_getD, hp]
    exact if_neg (Nat.not_le.mpr hroom)
  · right
    obtain ⟨p, ps, rfl⟩ := List.exists_cons_of_ne_nil hne
    refine ⟨hfull, p, ps, rfl, ?_⟩
    rw [hzero]
    show _ ∨ _
    rw [List.getD_cons_zero, if_pos (Nat.le_of_not_lt (hfull p List.mem_cons_self))]
    rcases expandCommandBufferPool_cases p with ⟨hsize, heq⟩ | ⟨size, hlt, hle, heq⟩
    · left
      refine ⟨hsize, ?_⟩
      -- the search for another pool finds all of them full
      rw [heq]
      refine Option.map_eq_none_iff.mpr (List.findIdx?_eq_none_iff.mpr fun q hq => ?_)
      exact decide_eq_false (hfull q hq)
    · right
      refine ⟨size, hlt, hle, ?_⟩
      rw [heq]
      rfl

/-! ## The pools through all creations -/

/-- The pools after `n` command buffers: nothing yet, or the four pools with what they
hold. -/
def Holds (n : Nat) (pools : List CommandBufferPool) : Prop :=
  (pools = [] ∧ n = 0) ∨
    ∃ size a b c d, pools = [⟨size, a⟩, ⟨128, b⟩, ⟨32, c⟩, ⟨16, d⟩] ∧ a ≤ size ∧ size ≤ 512 ∧
      b ≤ 128 ∧ c ≤ 32 ∧ d ≤ 16 ∧ a + b + c + d = n

/-- The most command buffers the pools can ever hold. -/
def maxCommandBuffers : Nat := 512 + 128 + 32 + 16

/-- One buffer more in one of the pools. -/
def countBuffer (i : Nat) (pools : List CommandBufferPool) : List CommandBufferPool :=
  pools.modify i fun p => { p with activeBuffers := p.activeBuffers + 1 }

theorem Holds.set_up (h : Holds n pools) :
    Holds n (if pools = [] then initialPools else pools) := by
  split
  · next hnil =>
    rcases h with ⟨-, hzero⟩ | ⟨size, a, b, c, d, hpools, -⟩
    · exact .inr ⟨64, 0, 0, 0, 0, rfl, by omega, by omega, by omega, by omega, by omega, hzero.symm⟩
    · rw [hnil] at hpools
      cases hpools
  · exact h

theorem Holds.le (h : Holds n pools) : n ≤ maxCommandBuffers := by
  unfold maxCommandBuffers
  rcases h with ⟨-, hzero⟩ | ⟨size, a, b, c, d, -, ha, hsize, hb, hc, hd, hsum⟩ <;> omega

/-- A pool that has room takes one more. -/
theorem Holds.count {i : Nat} {p : CommandBufferPool} (h : Holds n pools)
    (hp : pools[i]? = some p) (hroom : p.HasRoom) : Holds (n + 1) (countBuffer i pools) := by
  unfold CommandBufferPool.HasRoom at hroom
  rcases h with ⟨rfl, -⟩ | ⟨size, a, b, c, d, rfl, ha, hsize, hb, hc, hd, hsum⟩
  · cases hp
  right
  rcases i with _ | _ | _ | _ | i
  · cases hp
    exact ⟨size, a + 1, b, c, d, rfl, hroom, hsize, hb, hc, hd, by omega⟩
  · cases hp
    exact ⟨size, a, b + 1, c, d, rfl, ha, hsize, hroom, hc, hd, by omega⟩
  · cases hp
    exact ⟨size, a, b, c + 1, d, rfl, ha, hsize, hb, hroom, hd, by omega⟩
  · cases hp
    exact ⟨size, a, b, c, d + 1, rfl, ha, hsize, hb, hc, hroom, by omega⟩
  · cases hp

/-- **The pools refuse exactly the command buffer after the last that they can hold**, and a
pool they give has room. -/
theorem Holds.commandBufferPool (h : Holds n pools) (hne : pools ≠ []) (queue : Nat) :
    (commandBufferPool queue pools = none ∧ n = maxCommandBuffers) ∨
      ∃ i pools', commandBufferPool queue pools = some (i, pools') ∧ n < maxCommandBuffers ∧
        Holds n pools' ∧ Holds (n + 1) (countBuffer i pools') := by
  have hlt : ∀ {i pools'}, Holds (n + 1) (countBuffer i pools') → n < maxCommandBuffers :=
    fun h => h.le
  rcases commandBufferPool_cases queue hne with
    ⟨i, p, hp, hroom, heq⟩ | ⟨hfull, p, ps, hpools, hexpand⟩
  · right
    have hmore := h.count hp hroom
    exact ⟨i, pools, heq, hlt hmore, h, hmore⟩
  · rcases h with ⟨hnil, -⟩ | ⟨size, a, b, c, d, hfour, ha, hsize, hb, hc, hd, hsum⟩
    · exact absurd hnil hne
    rw [hpools] at hfour
    obtain ⟨rfl, rfl⟩ := List.cons.inj hfour
    simp only [hpools, List.forall_mem_cons, CommandBufferPool.HasRoom, Nat.not_lt] at hfull
    obtain ⟨hfirst, hsecond, hthird, hfourth, -⟩ := hfull
    rcases hexpand with ⟨hlimit, heq⟩ | ⟨size', hgrown, hle, heq⟩
    · left
      refine ⟨heq, ?_⟩
      have hlimit : 512 ≤ size := hlimit
      unfold maxCommandBuffers
      omega
    · right
      have hgrown : size < size' := hgrown
      have hheld : Holds n [⟨size', a⟩, ⟨128, b⟩, ⟨32, c⟩, ⟨16, d⟩] :=
        .inr ⟨size', a, b, c, d, rfl, by omega, hle, hb, hc, hd, hsum⟩
      have hmore := hheld.count (i := 0) rfl (Nat.lt_of_le_of_lt ha hgrown)
      exact ⟨0, _, heq, hlt hmore, hheld, hmore⟩

/-! ## `createCommandBuffer` -/

variable {m : MetalBridge} {e : CommandBufferEnv} {stored : Bool}

/-- Exactly a command buffer that is made is counted. -/
theorem pools_finishCommandBuffer (i id : Nat) :
    (m.finishCommandBuffer i id e stored).2.commandBufferPools =
      if (m.finishCommandBuffer i id e stored).1.isOk then countBuffer i m.commandBufferPools
      else m.commandBufferPools := by
  unfold finishCommandBuffer
  split
  · rfl
  split
  · rfl
  split <;> rfl

theorem finishCommandBuffer_ne_noResources {i id : Nat} (hid : id ≠ 0) :
    (m.finishCommandBuffer i id e stored).1 ≠ .error .noResources := by
  unfold finishCommandBuffer
  rw [if_neg hid]
  split
  · exact fun h => by cases h
  split <;> exact fun h => by cases h

theorem Holds.createCommandBuffer (h : Holds n m.commandBufferPools) :
    Holds (n + (m.createCommandBuffer queue e stored).1.isOk.toNat)
      (m.createCommandBuffer queue e stored).2.commandBufferPools := by
  have hset := h.set_up
  have hne : (if m.commandBufferPools = [] then initialPools else m.commandBufferPools) ≠ [] := by
    split
    · exact List.cons_ne_nil _ _
    · next hne => exact hne
  unfold MetalBridge.createCommandBuffer
  split
  · exact h
  split
  · exact h
  dsimp only
  rcases hset.commandBufferPool hne queue with ⟨heq, -⟩ | ⟨i, pools', heq, -, hheld, hmore⟩
  · rw [heq]
    exact hset
  · rw [heq]
    dsimp only
    split
    · exact hheld
    · rw [pools_finishCommandBuffer]
      split
      · next hok =>
        rw [hok]
        exact hmore
      · next hfailed =>
        rw [(Bool.not_eq_true _).mp hfailed]
        exact hheld

/-- A request in order is refused for want of resources exactly if the pools hold all they
ever can. -/
theorem createCommandBuffer_refused_iff (h : Holds n m.commandBufferPools) (hqueue : queue ≠ 0)
    (hfound : m.findResource queue .commandQueue ≠ none) (hcontext : e.context = .success)
    (hid : m.nextResourceId ≠ 0) :
    (m.createCommandBuffer queue e stored).1 = .error .noResources ↔ n = maxCommandBuffers := by
  have hne : (if m.commandBufferPools = [] then initialPools else m.commandBufferPools) ≠ [] := by
    split
    · exact List.cons_ne_nil _ _
    · next hne => exact hne
  unfold MetalBridge.createCommandBuffer
  rw [if_neg hqueue, if_neg hfound]
  dsimp only
  rcases h.set_up.commandBufferPool hne queue with ⟨heq, hall⟩ | ⟨i, pools', heq, hlt, -⟩
  · rw [heq]
    exact ⟨fun _ => hall, fun _ => rfl⟩
  · rw [heq]
    dsimp only
    rw [if_neg (not_not.mpr hcontext)]
    constructor
    · intro hrefused
      exact absurd hrefused (finishCommandBuffer_ne_noResources hid)
    · intro hall
      omega

end MetalBridge

/-! ## Runs -/

/-- What a call that makes no command buffer does with what command buffers are made of. -/
structure MetalBridge.Aside (m m' : MetalBridge) : Prop where
  pools : m'.commandBufferPools = m.commandBufferPools
  registry : m'.registry = m.registry
  next : m'.nextResourceId = m.nextResourceId ∨ m'.nextResourceId = inc32 m.nextResourceId

theorem MetalBridge.Aside.refl (m : MetalBridge) : m.Aside m := ⟨rfl, rfl, .inl rfl⟩

def MetalCall.isCreateCommandBuffer : MetalCall → Bool
  | .createCommandBuffer .. => true
  | _ => false

namespace MetalRun

variable {r r' : MetalRun}

/-- The command buffers made, the first one first. -/
def commandBuffers (r : MetalRun) : List LiveResource :=
  (r.live.filter fun x => x.kind = .commandBuffer).reverse

theorem commandBuffers_created {kind : MetalKind} (hkind : kind ≠ .commandBuffer) (capacity : Nat)
    (result : Except IOReturn Nat × MetalBridge) :
    (r.created kind capacity result).commandBuffers = r.commandBuffers := by
  unfold created
  split
  · exact congrArg List.reverse (List.filter_cons_of_neg (by simpa using hkind))
  · rfl

/-- A call makes a command buffer, or leaves what there is of them as it is. -/
inductive Course (r : MetalRun) : MetalCall → MetalRun → Prop where
  | createCommandBuffer (queue e stored) : Course r (.createCommandBuffer queue e stored)
      (r.created .commandBuffer 0 (r.bridge.createCommandBuffer queue e stored))
  | other (c r') (hother : c.isCreateCommandBuffer = false)
      (haside : r.bridge.Aside r'.bridge) (hsame : r'.commandBuffers = r.commandBuffers) :
      Course r c r'

theorem Course.created {c : MetalCall} {kind : MetalKind} {capacity : Nat}
    {result : Except IOReturn Nat × MetalBridge} (hother : c.isCreateCommandBuffer = false)
    (hkind : kind ≠ .commandBuffer) (haside : r.bridge.Aside result.2) :
    r.Course c (r.created kind capacity result) := by
  refine .other c _ hother ?_ (commandBuffers_created hkind capacity result)
  rw [bridge_created]
  exact haside

theorem course_of_step {c : MetalCall} (hs : r.step c = some r') : r.Course c r' := by
  have hrefl := MetalBridge.Aside.refl r.bridge
  cases c with
  | createCommandQueue device array stored =>
      cases hs
      refine .created rfl MetalKind.noConfusion ?_
      unfold MetalBridge.createCommandQueue
      split
      · exact hrefl
      split
      · exact hrefl
      · exact ⟨rfl, rfl, .inr rfl⟩
  | createCommandBuffer queue e stored =>
      cases hs
      exact .createCommandBuffer queue e stored
  | createBuffer device length e stored =>
      cases hs
      refine .created rfl MetalKind.noConfusion ?_
      unfold MetalBridge.createBuffer
      split
      · exact hrefl
      split
      · exact hrefl
      split
      · exact hrefl
      split
      · exact hrefl
      · exact ⟨rfl, rfl, .inr rfl⟩
  | createTexture device descriptor e stored =>
      cases hs
      refine .created rfl MetalKind.noConfusion ?_
      unfold MetalBridge.createTexture
      split
      · exact hrefl
      split
      · exact hrefl
      split
      · exact hrefl
      split
      · exact hrefl
      split
      · exact hrefl
      · exact ⟨rfl, rfl, .inr rfl⟩
  | createRenderPipelineState device descriptor program number stored =>
      cases hs
      refine .created rfl MetalKind.noConfusion ?_
      unfold MetalBridge.createRenderPipelineState
      split
      · exact hrefl
      split
      · split
        · exact hrefl
        · exact ⟨rfl, rfl, .inl rfl⟩
        · exact ⟨rfl, rfl, .inl rfl⟩
      · exact ⟨rfl, rfl, .inr rfl⟩
  | updateBuffer id data offset size bytes sync =>
      cases hs
      refine .other _ _ rfl ?_ rfl
      unfold MetalBridge.updateBuffer
      repeat' split
      all_goals exact ⟨rfl, rfl, .inl rfl⟩
  | drawPrimitives | commitCommandBuffer =>
      cases hs
      exact .other _ _ rfl hrefl rfl
  | otherProgram =>
      cases hs
      exact .other _ _ rfl ⟨rfl, rfl, .inl rfl⟩ rfl

/-- There are never more command buffers than the pools can hold, and one more is refused
exactly when there are as many. -/
structure Rationed (r : MetalRun) : Prop where
  most : r.commandBuffers.length ≤ MetalBridge.maxCommandBuffers
  refused : ∀ queue e stored, queue ≠ 0 → r.bridge.findResource queue .commandQueue ≠ none →
    e.context = .success → r.bridge.nextResourceId ≠ 0 →
    ((r.bridge.createCommandBuffer queue e stored).1 = .error .noResources ↔
      r.commandBuffers.length = MetalBridge.maxCommandBuffers)

/-- The pools hold the command buffers made. -/
def Pooled (r : MetalRun) : Prop :=
  MetalBridge.Holds r.commandBuffers.length r.bridge.commandBufferPools

theorem Pooled.rationed (h : r.Pooled) : r.Rationed where
  most := MetalBridge.Holds.le h
  refused _ _ _ hqueue hfound hcontext hid :=
    MetalBridge.createCommandBuffer_refused_iff h hqueue hfound hcontext hid

theorem length_commandBuffers_created (result : Except IOReturn Nat × MetalBridge) :
    (r.created .commandBuffer 0 result).commandBuffers.length =
      r.commandBuffers.length + result.1.isOk.toNat := by
  unfold created commandBuffers
  split
  · next id hok =>
    rw [hok, List.filter_cons_of_pos (by simp), List.length_reverse, List.length_reverse]
    rfl
  · next ret herror =>
    rw [herror]
    rfl

theorem Pooled.step {c : MetalCall} (h : r.Pooled) (hs : r.step c = some r') : r'.Pooled := by
  unfold Pooled
  cases course_of_step hs with
  | createCommandBuffer queue e stored =>
      rw [length_commandBuffers_created, bridge_created]
      exact MetalBridge.Holds.createCommandBuffer h
  | other _ _ _ haside hsame =>
      rw [hsame, haside.pools]
      exact h

/-- **There are 688 command buffers, once and for all**: whatever the calls and their
outcomes, no more are ever made, and until then the pools refuse none. -/
theorem always_rationed (nextProgramId : Option Nat) (calls : List MetalCall) :
    (machine nextProgramId).Always Rationed (machine nextProgramId).init calls := by
  have hpooled : (machine nextProgramId).Always Pooled (machine nextProgramId).init calls :=
    (machine nextProgramId).always_of_along (C := fun _ _ => True)
      (fun r c r' h _ hs => h.step hs) (.inl ⟨rfl, rfl⟩) ((machine nextProgramId).along_true _ _)
  exact hpooled.imp _ fun r h => h.rationed

end MetalRun
end VMQemuVGA
