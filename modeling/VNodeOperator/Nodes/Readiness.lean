import VNodeOperator.Nodes.Scaling

/-!
# Reported readiness

`PoolService.Reconcile` counts the nodes of its working list that are neither
unready nor terminating.  A node that is pending, or was never initialised,
passes for ready, and a node that is provisioned over an existing one is counted
next to it.  When is the count the number of ready nodes in the store?
-/

namespace VNodeOperator.Nodes

open Model Kube Adapter Ports ProofSupport Service NodeService PoolService

def readyInPool (pool : VNodePool) (cr : VNodeCR) : Bool :=
  inPool pool cr && (NodeRepository.crToNode cr).isReady

def readyStored (pool : VNodePool) (w : Cluster) : Nat :=
  w.vnodes.items.countP (readyInPool pool)

/-- What the result of a `Reconcile` says about readiness is so. -/
structure ReadinessReal (pool result : VNodePool) (w : Cluster) : Prop where
  readyNodes : result.readyNodes = readyStored pool w
  phase : result.phase = .ready ↔ (readyStored pool w : Int) = pool.nodeCount

/-! ## Provisioning several nodes -/

/-- The number of ready nodes gained by `n` provisionings of which the first uses
the `i`-th name.  A free name gives a new node.  A taken one is used by all that
follow, and they gain a node if it belonged to an unready one of the pool. -/
def gained (pool : VNodePool) (w : Cluster) : Nat → Nat → Nat
  | 0, _ => 0
  | n + 1, i =>
      match w.vnodes.get ⟨pool.ns, nodeName pool i⟩ with
      | none => gained pool w n (i + 1) + 1
      | some old => if inPool pool old && !(NodeRepository.crToNode old).isReady then 1 else 0

section

variable {pool : VNodePool} {w w' : Cluster}

theorem gained_congr {i : Nat} (n : Nat) (h : ∀ j, i ≤ j →
      w'.vnodes.get ⟨pool.ns, nodeName pool j⟩ = w.vnodes.get ⟨pool.ns, nodeName pool j⟩) :
    gained pool w' n i = gained pool w n i := by
  induction n generalizing i with
  | zero => rfl
  | succ n ih =>
      rw [gained, gained, h i (Nat.le_refl i), ih (fun j hj => h j (by omega))]

theorem gained_of_free {n i : Nat} (h : ∀ j, i ≤ j → j < i + n →
      w.vnodes.get ⟨pool.ns, nodeName pool j⟩ = none) : gained pool w n i = n := by
  induction n generalizing i with
  | zero => rfl
  | succ n ih =>
      rw [gained, h i (Nat.le_refl i) (by omega)]
      exact congrArg (· + 1) (ih (fun j hj hj' => h j (by omega) (by omega)))

theorem isReady_provisionedCR (pool : VNodePool) (w : Cluster) :
    (NodeRepository.crToNode (provisionedCR pool w)).isReady = true := rfl

theorem readyInPool_provisionedCR (pool : VNodePool) (w : Cluster) :
    readyInPool pool (provisionedCR pool w) = inPool pool (provisionedCR pool w) := by
  rw [readyInPool, isReady_provisionedCR, Bool.and_true]

theorem readyStored_add_gained_of_none (n : Nat)
    (hw' : w'.vnodes = w.vnodes.put (provisionedCR pool w))
    (hget : w.vnodes.get (nextKey pool w) = none) :
    readyStored pool w' + gained pool w' n (poolSize w' pool + 1) =
      readyStored pool w + gained pool w (n + 1) (poolSize w pool + 1) := by
  have hkey := provisionedCR_key pool w
  have hin := inPool_provisionedCR_of_none hget
  have hnone : w.vnodes.get (provisionedCR pool w).key = none := by rw [hkey, hget]
  have hready : readyStored pool w' = readyStored pool w + 1 := by
    rw [readyStored, hw', Store.countP_put_of_none _ hnone, readyInPool_provisionedCR, if_pos hin]
    rfl
  have hsize : poolSize w' pool = poolSize w pool + 1 := by
    rw [poolSize, hw', Store.countP_put_of_none _ hnone, if_pos hin]
    rfl
  have hlater : gained pool w' n (poolSize w' pool + 1) =
      gained pool w n (poolSize w pool + 1 + 1) := by
    rw [hsize]
    apply gained_congr
    intro j hj
    rw [hw', Store.get_put_ne]
    rw [hkey]
    intro heq
    have hindex := nodeName_inj (congrArg ObjKey.name heq)
    omega
  rw [gained, show w.vnodes.get ⟨pool.ns, nodeName pool (poolSize w pool + 1)⟩ = none from hget]
  simp only [hready, hlater]
  omega

/-- A provisioning that finds its name taken makes that node ready, and so leaves
nothing to gain for those that follow under the same name. -/
theorem readyStored_add_gained_of_some (n : Nat) {old : VNodeCR}
    (hw' : w'.vnodes = w.vnodes.put (provisionedCR pool w))
    (hget : w.vnodes.get (nextKey pool w) = some old) :
    readyStored pool w' + gained pool w' n (poolSize w' pool + 1) =
      readyStored pool w + gained pool w (n + 1) (poolSize w pool + 1) := by
  have hkey := provisionedCR_key pool w
  have hin := inPool_provisionedCR_of_some hget
  have hsome : w.vnodes.get (provisionedCR pool w).key = some old := by rw [hkey, hget]
  have hready := Store.countP_put_add (readyInPool pool) hsome
  rw [← hw', readyInPool_provisionedCR, hin] at hready
  have hsize : poolSize w' pool = poolSize w pool := by
    rw [poolSize, hw', Store.countP_put_of_some _ hsome hin, ← poolSize]
  have hlater : gained pool w' n (poolSize w' pool + 1) = 0 := by
    cases n with
    | zero => rfl
    | succ n =>
        have hget' : w'.vnodes.get ⟨pool.ns, nodeName pool (poolSize w' pool + 1)⟩ =
            some (provisionedCR pool w) := by
          rw [hw', hsize, ← nextKey, ← hkey]
          exact Store.get_put_self _ _
        rw [gained, hget']
        simp only [isReady_provisionedCR, Bool.not_true, Bool.and_false, Bool.false_eq_true,
          if_false]
  rw [hlater, gained,
    show w.vnodes.get ⟨pool.ns, nodeName pool (poolSize w pool + 1)⟩ = some old from hget]
  rw [readyInPool] at hready
  unfold readyStored
  cases hold : inPool pool old <;> cases hold' : (NodeRepository.crToNode old).isReady <;>
    simp [hold, hold'] at hready ⊢ <;> omega

theorem readyStored_add_gained (n : Nat)
    (hw' : w'.vnodes = w.vnodes.put (provisionedCR pool w)) :
    readyStored pool w' + gained pool w' n (poolSize w' pool + 1) =
      readyStored pool w + gained pool w (n + 1) (poolSize w pool + 1) := by
  cases hget : w.vnodes.get (nextKey pool w) with
  | none => exact readyStored_add_gained_of_none n hw' hget
  | some old => exact readyStored_add_gained_of_some n hw' hget

end

/-! ## The loops -/

def Lists (pool : VNodePool) (w : Cluster) (working : List VNode) : Prop :=
  ∃ crs : List VNodeCR, crs.Perm (w.poolVNodes pool.ns pool.name) ∧
    working = crs.map NodeRepository.crToNode

section

variable {pool : VNodePool} {w w' : Cluster} {working init : List VNode}

theorem Lists.length_eq (h : Lists pool w working) : working.length = poolSize w pool := by
  obtain ⟨crs, hperm, rfl⟩ := h
  rw [List.length_map, hperm.length_eq, length_poolVNodes]

theorem Lists.readyStored_eq (h : Lists pool w working) :
    readyStored pool w = working.countP VNode.isReady := by
  obtain ⟨crs, hperm, rfl⟩ := h
  rw [List.countP_map, hperm.countP_eq, Cluster.poolVNodes, List.countP_filter]
  apply List.countP_congr
  intro cr _
  simp only [readyInPool, inPool, Function.comp_apply, Bool.and_comm]

theorem Lists.of_erase {n : VNode} (h : Lists pool w (init ++ [n]))
    (hw' : w'.vnodes = w.vnodes.erase (NodeRepository.keyOf n)) : Lists pool w' init := by
  obtain ⟨crs, hperm, hmap⟩ := h
  obtain ⟨crs₁, crs₂, rfl, rfl, hlast⟩ := List.append_eq_map_iff.mp hmap
  obtain ⟨cr, rfl, rfl⟩ := List.map_eq_singleton_iff.mp hlast
  have hnodup : ((crs₁ ++ [cr]).map VNodeCR.key).Nodup := by
    rw [(hperm.map VNodeCR.key).nodup_iff]
    exact w.vnodes.nodup.sublist (List.filter_sublist.map VNodeCR.key)
  rw [List.map_append, List.nodup_append] at hnodup
  let others : VNodeCR → Bool := fun c => c.key ≠ cr.key
  have hfirst : (crs₁ ++ [cr]).filter others = crs₁ := by
    rw [List.filter_append, List.filter_eq_self.mpr, List.filter_eq_nil_iff.mpr,
      List.append_nil]
    · simp [others]
    · intro c hc
      simpa [others] using hnodup.2.2 _ (List.mem_map_of_mem hc) _ (by simp)
  have hrest : (w.poolVNodes pool.ns pool.name).filter others =
      w'.poolVNodes pool.ns pool.name := by
    rw [Cluster.poolVNodes, Cluster.poolVNodes, hw', Store.erase_items, List.filter_comm]
    rfl
  refine ⟨crs₁, ?_, rfl⟩
  rw [← hfirst, ← hrest]
  exact hperm.filter others

end

section

variable {σ : Type} {h : Handler Call Call.Reply σ} {view : σ → Cluster} {pool : VNodePool}

theorem NodeOutcomes.scaleUp (hh : NodeOutcomes h view) (is : List Nat) (sc : Scaling) (s : σ)
    {sc' : Scaling} (hpool : sc.pool = { pool with nodes := sc.pool.nodes })
    (hnext : ((Prog.loop scaleUpStep is sc).run h s).1 = .next sc') :
    sc'.pool = { pool with nodes := sc'.pool.nodes } ∧
      sc'.working.countP countsAsReady = sc.working.countP countsAsReady + is.length ∧
      readyStored pool (view ((Prog.loop scaleUpStep is sc).run h s).2) =
        readyStored pool (view s) +
          gained pool (view s) is.length (poolSize (view s) pool + 1) := by
  induction is generalizing sc s with
  | nil =>
      cases hnext
      exact ⟨hpool, rfl, rfl⟩
  | cons i is ih =>
      rw [Prog.loop_cons, Prog.run_bind] at hnext ⊢
      unfold scaleUpStep at hnext ⊢
      rw [provision_eq hpool, Prog.run_bind] at hnext ⊢
      have hone := hh.provision pool s
      generalize hrun : (NodeService.provision pool).run h s = result at hnext hone ⊢
      obtain ⟨⟨node, err⟩, s₁⟩ := result
      cases err with
      | some err => cases hnext
      | none =>
          obtain ⟨hnode, hvnodes⟩ := hone rfl
          simp only at hnode hvnodes
          simp only [Prog.run_pure] at hnext ⊢
          let sc₁ : Scaling := ⟨{ sc.pool with nodes := sc.pool.nodes ++ [node.name] },
            sc.working ++ [node]⟩
          have hpool₁ : sc₁.pool = { pool with nodes := sc₁.pool.nodes } := by
            change ({ sc.pool with nodes := sc.pool.nodes ++ [node.name] } : VNodePool) = _
            rw [hpool]
          obtain ⟨hpool', hcount, hready⟩ := ih sc₁ s₁ hpool₁ hnext
          have hworking : sc₁.working.countP countsAsReady =
              sc.working.countP countsAsReady + 1 := by
            rw [show sc₁.working = sc.working ++ [node] from rfl, List.countP_append, hnode]
            rfl
          refine ⟨hpool', ?_, ?_⟩
          · rw [hcount, hworking, List.length_cons]
            omega
          · rw [List.length_cons, ← readyStored_add_gained is.length hvnodes]
            exact hready

theorem NodeOutcomes.scaleDown (hh : NodeOutcomes h view) (is : List Nat) (sc : Scaling) (s : σ)
    {sc' : Scaling} (hlists : Lists pool (view s) sc.working)
    (hnext : ((Prog.loop scaleDownStep is sc).run h s).1 = .next sc') :
    sc'.pool = sc.pool ∧
      sc'.working = sc.working.take (sc.working.length - is.length) ∧
      Lists pool (view ((Prog.loop scaleDownStep is sc).run h s).2) sc'.working := by
  induction is generalizing sc s with
  | nil =>
      cases hnext
      exact ⟨rfl, by simp, hlists⟩
  | cons i is ih =>
      rw [Prog.loop_cons, Prog.run_bind] at hnext ⊢
      rcases List.eq_nil_or_concat sc.working with hnil | ⟨init, node, hsplit⟩
      · have hstep : scaleDownStep i sc = pure (.next sc) := by
          unfold scaleDownStep
          rw [hnil]
          rfl
        rw [hstep] at hnext ⊢
        obtain ⟨hpool, hworking, hlists'⟩ := ih sc s hlists hnext
        refine ⟨hpool, ?_, hlists'⟩
        rw [hworking, hnil, List.take_nil, List.take_nil]
      · rw [List.concat_eq_append] at hsplit
        unfold scaleDownStep at hnext ⊢
        rw [hsplit, List.getLast?_concat, List.dropLast_concat] at hnext ⊢
        simp only [Prog.run_bind] at hnext ⊢
        have hone := hh.deprovision node s
        generalize hrun : (NodeService.deprovision node).run h s = result at hnext hone ⊢
        obtain ⟨removed, s₁⟩ := result
        cases removed with
        | error err => cases hnext
        | ok u =>
            have hvnodes := hone rfl
            rw [hsplit] at hlists
            have hinit : Lists pool (view s₁) init := hlists.of_erase hvnodes
            simp only [Prog.run_pure] at hnext ⊢
            obtain ⟨hpool, hworking, hlists'⟩ :=
              ih { sc with working := init } s₁ hinit hnext
            change sc'.working = init.take (init.length - is.length) at hworking
            refine ⟨hpool, ?_, hlists'⟩
            rw [hworking, List.length_append, List.length_singleton, List.length_cons,
              List.take_append_of_le_length (by omega)]
            congr 1
            omega

end

/-! ## One reconcile -/

def kept (pool : VNodePool) (w : Cluster) (listed : List VNode) : List VNode :=
  listed.take (listed.length - toRemove pool w)

/-- The nodes that pass for ready are as many as those that are: the kept ones
that are neither unready nor terminating and one for each provisioning, against
the kept ones that are ready and what the provisionings gain. -/
def CountsReady (pool : VNodePool) (w : Cluster) (listed : List VNode) : Prop :=
  int32 ((kept pool w listed).countP countsAsReady + toAdd pool w) =
    (kept pool w listed).countP VNode.isReady +
      gained pool w (toAdd pool w) (poolSize w pool + 1)

/-- The counts agree when every kept node passes for ready exactly if it is, and new
nodes find their names free. -/
theorem countsReady_of_freshNames {pool : VNodePool} {w : Cluster} {listed : List VNode}
    (hcount : pool.nodeCount < 2 ^ 31) (hlists : Lists pool w listed)
    (hfresh : FreshNames pool w)
    (hkept : ∀ n ∈ kept pool w listed, countsAsReady n = n.isReady) :
    CountsReady pool w listed := by
  obtain ⟨hsize, hfree⟩ := hfresh
  have hsame : (kept pool w listed).countP countsAsReady =
      (kept pool w listed).countP VNode.isReady :=
    List.countP_congr fun n hn => by rw [hkept n hn]
  have hle : (kept pool w listed).countP VNode.isReady ≤ poolSize w pool := by
    refine List.countP_le_length.trans ?_
    rw [kept, List.length_take, hlists.length_eq]
    omega
  have hadd : toAdd pool w = 0 ∨ (toAdd pool w : Int) = pool.nodeCount - poolSize w pool := by
    by_cases hup : (poolSize w pool : Int) < pool.nodeCount
    · exact Or.inr (toAdd_of_lt hcount hsize hup)
    · rw [toAdd, int32_of_lt (by omega) (by omega), VNodePool.desiredScaleActions,
        if_neg (by omega)]
      split <;> exact Or.inl rfl
  have hgained : gained pool w (toAdd pool w) (poolSize w pool + 1) = toAdd pool w :=
    gained_of_free fun j hj hj' => hfree j (by omega) (by omega)
  rw [CountsReady, hsame, hgained, int32_of_lt (by omega) (by omega)]

section

variable {σ : Type} {h : Handler Call Call.Reply σ} {view : σ → Cluster} {pool : VNodePool}

theorem readinessReal_withReadiness {sc : Scaling} {w : Cluster}
    (hpool : sc.pool = { pool with nodes := sc.pool.nodes }) :
    ReadinessReal pool (withReadiness sc) w ↔
      int32 (sc.working.countP countsAsReady) = readyStored pool w := by
  have hcount : sc.pool.nodeCount = pool.nodeCount := by rw [hpool]
  constructor
  · intro hreal
    have hready := hreal.readyNodes
    simp only [withReadiness] at hready
    exact hready
  · intro heq
    unfold withReadiness
    simp only [hcount, heq]
    refine ⟨rfl, ?_⟩
    by_cases hready : (readyStored pool w : Int) = pool.nodeCount
    · simp only [hready, if_true]
    · simp only [hready]
      decide

theorem NodeOutcomes.scale (hh : NodeOutcomes h view) {listed : List VNode} {s : σ}
    (hlists : Lists pool (view s) listed)
    (hok : ((PoolService.scale (toAdd pool (view s)) (toRemove pool (view s))
      ⟨pool, listed⟩).run h s).1.2 = none) :
    ReadinessReal pool
        ((PoolService.scale (toAdd pool (view s)) (toRemove pool (view s))
          ⟨pool, listed⟩).run h s).1.1
        (view ((PoolService.scale (toAdd pool (view s)) (toRemove pool (view s))
          ⟨pool, listed⟩).run h s).2) ↔
      CountsReady pool (view s) listed := by
  obtain ⟨sc₁, s₁, sc₂, s₂, hup, hdown, hrun⟩ := run_scale hok
  rw [hrun]
  have hpool₀ : pool = { pool with nodes := pool.nodes } := rfl
  have hgrown := hh.scaleUp (List.range (toAdd pool (view s))) ⟨pool, listed⟩ s hpool₀
    (congrArg Prod.fst hup)
  rw [hup, List.length_range] at hgrown
  obtain ⟨hpool, hcount, hready⟩ := hgrown
  rcases toAdd_eq_zero_or_toRemove_eq_zero pool (view s) with hadd | hremove
  · rw [hadd] at hup
    cases hup
    have hshrunk := hh.scaleDown (List.range (toRemove pool (view s))) ⟨pool, listed⟩ s hlists
      (congrArg Prod.fst hdown)
    rw [hdown, List.length_range] at hshrunk
    obtain ⟨hpool₂, hworking, hlists₂⟩ := hshrunk
    rw [readinessReal_withReadiness (hpool₂ ▸ rfl), CountsReady, hadd, hlists₂.readyStored_eq,
      hworking]
    rfl
  · rw [hremove] at hdown
    cases hdown
    rw [readinessReal_withReadiness hpool, CountsReady, hcount, hready, hlists.readyStored_eq,
      kept, hremove]
    simp

end

/-! ### A pool whose nodes are ready, and one whose node is still pending -/

def pendingCluster : Cluster :=
  (handle Env.plain (.save (newNode (acmePool 1) 0)) { tenants := fun _ => {} }).2

end VNodeOperator.Nodes
