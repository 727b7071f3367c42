import Mathlib.Data.List.Sort
import VNodeOperator.Nodes.Lifecycle
import VNodeOperator.Service.PoolService

/-!
# Scaling a pool

When does `PoolService.Reconcile` reach the requested number of nodes?  The
index of a new node is computed from the number of existing ones, so the answer
is: exactly when no name that the scale-up would use is taken.  After a
scale-down that has not removed the highest indices, one is.
-/

namespace VNodeOperator.Nodes

open Model Kube Adapter Ports ProofSupport Service NodeService PoolService

/-! ## The scale-up loop -/

/-- Apart from the collected node names the pool stays what it was. -/
theorem provision_eq {pool pool' : VNodePool} (h : pool' = { pool with nodes := pool'.nodes }) :
    provision pool' = provision pool := by
  have hnode : ∀ n, newNode pool' n = newNode pool n := by
    intro n
    rw [h]
    rfl
  have hfields : pool'.ns = pool.ns ∧ pool'.name = pool.name ∧
      pool'.tenantRef = pool.tenantRef := by
    rw [h]
    exact ⟨rfl, rfl, rfl⟩
  obtain ⟨hns, hname, htenant⟩ := hfields
  unfold provision
  simp only [hnode, htenant]
  rw [hns, hname]
  congr 1
  funext existing
  cases existing <;> rfl

theorem run_scaleUp (env : Env) (pool : VNodePool) (is : List Nat) (s : Scaling) (w : Cluster)
    (hpool : s.pool = { pool with nodes := s.pool.nodes }) :
    (∃ s', (Prog.loop scaleUpStep is s).run (handle env) w =
        (.next s', (provisionStep env pool)^[is.length] w) ∧
        ∀ j < is.length,
          ((provision pool).run (handle env) ((provisionStep env pool)^[j] w)).1.2 = none) ∨
      ∃ pool' err, ((Prog.loop scaleUpStep is s).run (handle env) w).1 =
        .exit (pool', some err) := by
  induction is generalizing s w with
  | nil => exact Or.inl ⟨s, rfl, by simp⟩
  | cons i is ih =>
      rw [Prog.loop_cons, Prog.run_bind]
      unfold scaleUpStep
      rw [provision_eq hpool]
      cases hrun : (provision pool).run (handle env) w with
      | mk result w₁ =>
          obtain ⟨node, err⟩ := result
          have hw₁ : provisionStep env pool w = w₁ := by rw [provisionStep, hrun]
          cases err with
          | some err =>
              refine Or.inr ⟨failed s.pool, err.wrap
                ("provisioning node " ++ toString i ++ " for pool " ++ s.pool.name), ?_⟩
              simp only [Prog.run_bind, hrun, Prog.run_pure]
          | none =>
              simp only [Prog.run_bind, hrun, Prog.run_pure]
              have hpool' : ({ s.pool with nodes := s.pool.nodes ++ [node.name] } : VNodePool) =
                  { pool with nodes := s.pool.nodes ++ [node.name] } := by
                rw [hpool]
              rcases ih ⟨{ s.pool with nodes := s.pool.nodes ++ [node.name] },
                s.working ++ [node]⟩ w₁ hpool' with ⟨s', hloop, hall⟩ | hexit
              · refine Or.inl ⟨s', ?_, ?_⟩
                · rw [List.length_cons, Function.iterate_succ_apply, hw₁]
                  exact hloop
                · intro j hj
                  cases j with
                  | zero => rw [Function.iterate_zero_apply, hrun]
                  | succ j =>
                      rw [Function.iterate_succ_apply, hw₁]
                      exact hall j (by simpa using hj)
              · exact Or.inr hexit

/-! ## The scale-down loop -/

/-- The nodes still known are exactly those stored for the pool. -/
structure Tracks (pool : VNodePool) (w : Cluster) (working : List VNode) : Prop where
  nodup : (working.map NodeRepository.keyOf).Nodup
  stored : ∀ n ∈ working, ∃ cr, w.vnodes.get (NodeRepository.keyOf n) = some cr ∧
    inPool pool cr = true
  size : poolSize w pool = working.length

theorem Tracks.listed (env : Env) (pool : VNodePool) (w : Cluster) :
    Tracks pool w
      ((env.order (w.poolVNodes pool.ns pool.name)).map NodeRepository.crToNode) := by
  have hperm := env.order_perm (w.poolVNodes pool.ns pool.name)
  refine ⟨?_, ?_, (length_listed env w pool).symm⟩
  · rw [List.map_map]
    change ((env.order (w.poolVNodes pool.ns pool.name)).map VNodeCR.key).Nodup
    rw [(hperm.map VNodeCR.key).nodup_iff]
    exact w.vnodes.nodup.sublist (List.filter_sublist.map VNodeCR.key)
  · intro n hn
    obtain ⟨cr, hcr, rfl⟩ := List.mem_map.mp hn
    obtain ⟨hmem, hpool⟩ := List.mem_filter.mp (hperm.mem_iff.mp hcr)
    exact ⟨cr, Store.get_of_mem hmem, hpool⟩

theorem Tracks.deprovision (env : Env) {pool : VNodePool} {w : Cluster}
    {working : List VNode} {n : VNode} (h : Tracks pool w (working ++ [n])) :
    Tracks pool ((NodeService.deprovision n).run (handle env) w).2 working := by
  have hvnodes := (run_deprovision env n w).2
  have hnodup := h.nodup
  rw [List.map_append, List.nodup_append] at hnodup
  obtain ⟨hnodup, _, hdisjoint⟩ := hnodup
  obtain ⟨cr, hcr, hpool⟩ := h.stored n (by simp)
  refine ⟨hnodup, ?_, ?_⟩
  · intro m hm
    obtain ⟨cr', hcr', hpool'⟩ := h.stored m (by simp [hm])
    have hne : NodeRepository.keyOf n ≠ NodeRepository.keyOf m :=
      (hdisjoint _ (List.mem_map_of_mem hm) _ (by simp)).symm
    exact ⟨cr', by rw [hvnodes, Store.get_erase_ne _ hne, hcr'], hpool'⟩
  · have hcount := Store.countP_erase_add (inPool pool) hcr
    rw [if_pos hpool] at hcount
    have hsize := h.size
    rw [List.length_append, List.length_singleton] at hsize
    rw [poolSize, hvnodes]
    rw [poolSize] at hsize
    omega

theorem run_scaleDown (env : Env) (pool : VNodePool) (is : List Nat) (s : Scaling)
    (w : Cluster) (htracks : Tracks pool w s.working) (hlen : is.length ≤ s.working.length) :
    ∃ s' w', (Prog.loop scaleDownStep is s).run (handle env) w = (.next s', w') ∧
      Tracks pool w' s'.working ∧ s'.working.length + is.length = s.working.length := by
  induction is generalizing s w with
  | nil => exact ⟨s, w, rfl, htracks, by simp⟩
  | cons i is ih =>
      rw [List.length_cons] at hlen
      have hne : s.working ≠ [] := by
        intro hnil
        rw [hnil, List.length_nil] at hlen
        omega
      obtain ⟨init, n, hsplit⟩ : ∃ init n, s.working = init ++ [n] :=
        ⟨_, _, (List.dropLast_append_getLast hne).symm⟩
      rw [hsplit] at htracks
      have hok := (run_deprovision env n w).1
      have hstep : (scaleDownStep i s).run (handle env) w =
          (.next { s with working := init },
            ((NodeService.deprovision n).run (handle env) w).2) := by
        unfold scaleDownStep
        rw [hsplit, List.getLast?_concat, List.dropLast_concat]
        simp only [Prog.run_bind, hok, Prog.run_pure]
      have hinit : s.working.length = init.length + 1 := by
        rw [hsplit, List.length_append, List.length_singleton]
      obtain ⟨s', w', hloop, htracks', hlength⟩ :=
        ih { s with working := init } _ (htracks.deprovision env) (by simp; omega)
      refine ⟨s', w', ?_, htracks', ?_⟩
      · rw [Prog.loop_cons, Prog.run_bind, hstep]
        exact hloop
      · rw [List.length_cons]
        simp only at hlength
        omega

/-! ## One reconcile -/

def reconciled (env : Env) (pool : VNodePool) (w : Cluster) : Cluster :=
  ((PoolService.reconcile pool).run (handle env) w).2

def Succeeds (env : Env) (pool : VNodePool) (w : Cluster) : Prop :=
  ((PoolService.reconcile pool).run (handle env) w).1.2 = none

def toAdd (pool : VNodePool) (w : Cluster) : Nat :=
  (pool.desiredScaleActions (int32 (poolSize w pool))).1.toNat

def toRemove (pool : VNodePool) (w : Cluster) : Nat :=
  (pool.desiredScaleActions (int32 (poolSize w pool))).2.toNat

theorem toAdd_eq_zero_or_toRemove_eq_zero (pool : VNodePool) (w : Cluster) :
    toAdd pool w = 0 ∨ toRemove pool w = 0 := by
  unfold toAdd toRemove VNodePool.desiredScaleActions
  split
  · exact Or.inr rfl
  · split
    · exact Or.inl rfl
    · exact Or.inl rfl

def listed (env : Env) (pool : VNodePool) (w : Cluster) : Scaling :=
  ⟨pool, (env.order (w.poolVNodes pool.ns pool.name)).map NodeRepository.crToNode⟩

theorem run_reconcile (env : Env) (pool : VNodePool) (w : Cluster) :
    (PoolService.reconcile pool).run (handle env) w =
      (scale (toAdd pool w) (toRemove pool w) (listed env pool w)).run (handle env) w := by
  unfold PoolService.reconcile
  rw [Prog.run_bind, ask, Prog.run_perform, handle_listByPool]
  simp only [length_listed]
  rfl

theorem reconcile_up {env : Env} {pool : VNodePool} {w : Cluster}
    (hok : Succeeds env pool w) (hremove : toRemove pool w = 0) :
    reconciled env pool w = (provisionStep env pool)^[toAdd pool w] w ∧
      ∀ j < toAdd pool w,
        ((provision pool).run (handle env) ((provisionStep env pool)^[j] w)).1.2 = none := by
  rw [Succeeds, run_reconcile, hremove] at hok
  rw [reconciled, run_reconcile, hremove]
  unfold scale at hok ⊢
  rw [Prog.run_bind] at hok ⊢
  rcases run_scaleUp env pool (List.range (toAdd pool w)) (listed env pool w) w rfl with
    ⟨s, hloop, hall⟩ | ⟨pool', err, hexit⟩
  · rw [List.length_range] at hloop hall
    rw [hloop]
    exact ⟨rfl, hall⟩
  · rw [hexit] at hok
    cases hok

theorem reconcile_down (env : Env) {pool : VNodePool} {w : Cluster}
    (hadd : toAdd pool w = 0) (hremove : toRemove pool w ≤ poolSize w pool) :
    poolSize (reconciled env pool w) pool + toRemove pool w = poolSize w pool := by
  have htracks : Tracks pool w (listed env pool w).working := Tracks.listed env pool w
  have hsize : (listed env pool w).working.length = poolSize w pool := htracks.size.symm
  obtain ⟨s, w', hloop, htracks', hlength⟩ := run_scaleDown env pool
    (List.range (toRemove pool w)) (listed env pool w) w htracks
    (by rw [List.length_range, hsize]; exact hremove)
  have hw' : reconciled env pool w = w' := by
    rw [reconciled, run_reconcile, hadd]
    unfold scale
    simp only [List.range_zero, Prog.loop_nil, Prog.run_bind, Prog.run_pure, hloop]
  rw [List.length_range, hsize, ← htracks'.size] at hlength
  rw [hw']
  exact hlength

/-! ## Exact scaling -/

def AddsFreshNode (env : Env) (pool : VNodePool) (w : Cluster) : Prop :=
  ∃ cr, inPool pool cr = true ∧ w.vnodes.get cr.key = none ∧
    (provisionStep env pool w).vnodes.items = w.vnodes.items ++ [cr]

/-- The pool ends with the requested number of nodes, and each `Provision` on
the way adds a fresh one. -/
structure ScaledExactly (env : Env) (pool : VNodePool) (w : Cluster) : Prop where
  size : (poolSize (reconciled env pool w) pool : Int) = pool.nodeCount
  fresh : ∀ i < toAdd pool w, AddsFreshNode env pool ((provisionStep env pool)^[i] w)

/-- No name a scale-up would use is taken, and the nodes can be counted in an
`int32`. -/
def FreshNames (pool : VNodePool) (w : Cluster) : Prop :=
  poolSize w pool < 2 ^ 31 ∧ ∀ i : Nat, poolSize w pool < i → (i : Int) ≤ pool.nodeCount →
    w.vnodes.get ⟨pool.ns, nodeName pool i⟩ = none

section

variable {env : Env} {pool : VNodePool} {w : Cluster} {n : Nat}

theorem AddsFreshNode.of_free (hok : ((provision pool).run (handle env) w).1.2 = none)
    (hfree : w.vnodes.get (nextKey pool w) = none) : AddsFreshNode env pool w := by
  refine ⟨provisionedCR pool w, inPool_provisionedCR_of_none hfree, ?_,
    (provision_fresh hok hfree).1⟩
  rw [provisionedCR_key]
  exact hfree

theorem AddsFreshNode.free (hok : ((provision pool).run (handle env) w).1.2 = none)
    (hadds : AddsFreshNode env pool w) : w.vnodes.get (nextKey pool w) = none := by
  obtain ⟨cr, _, _, hitems⟩ := hadds
  cases htaken : w.vnodes.get (nextKey pool w) with
  | none => rfl
  | some old =>
      have hlength := (provision_taken hok htaken).1
      rw [hitems, List.length_append, List.length_singleton] at hlength
      omega

/-- Provisioning through free names: each step adds one node and leaves the
later names free. -/
theorem iterate_of_free
    (hok : ∀ j < n, ((provision pool).run (handle env) ((provisionStep env pool)^[j] w)).1.2 = none)
    (hfree : ∀ i, poolSize w pool < i → i ≤ poolSize w pool + n →
      w.vnodes.get ⟨pool.ns, nodeName pool i⟩ = none) (j : Nat) (hj : j ≤ n) :
    poolSize ((provisionStep env pool)^[j] w) pool = poolSize w pool + j ∧
      ∀ i, poolSize w pool + j < i → i ≤ poolSize w pool + n →
        ((provisionStep env pool)^[j] w).vnodes.get ⟨pool.ns, nodeName pool i⟩ = none := by
  induction j with
  | zero => exact ⟨rfl, hfree⟩
  | succ j ih =>
      obtain ⟨hsize, hlater⟩ := ih (by omega)
      have hnext : nextKey pool ((provisionStep env pool)^[j] w) =
          ⟨pool.ns, nodeName pool (poolSize w pool + j + 1)⟩ := by
        rw [nextKey, hsize]
      have hkey : ((provisionStep env pool)^[j] w).vnodes.get
          (nextKey pool ((provisionStep env pool)^[j] w)) = none := by
        rw [hnext]
        exact hlater _ (by omega) (by omega)
      have hstep := provision_fresh (hok j (by omega)) hkey
      rw [Function.iterate_succ_apply']
      refine ⟨?_, ?_⟩
      · rw [hstep.2, hsize]
        omega
      · intro i hi hi'
        rw [provision_vnodes (hok j (by omega)), Store.get_put_ne]
        · exact hlater i (by omega) hi'
        · rw [provisionedCR_key, hnext]
          intro heq
          have hindex := nodeName_inj (congrArg ObjKey.name heq)
          omega

theorem iterate_of_fresh
    (hok : ∀ j < n, ((provision pool).run (handle env) ((provisionStep env pool)^[j] w)).1.2 = none)
    (hfresh : ∀ j < n, AddsFreshNode env pool ((provisionStep env pool)^[j] w))
    (j : Nat) (hj : j ≤ n) :
    poolSize ((provisionStep env pool)^[j] w) pool = poolSize w pool + j ∧
      ∀ k, ((provisionStep env pool)^[j] w).vnodes.get k = none → w.vnodes.get k = none := by
  induction j with
  | zero => exact ⟨rfl, fun _ h => h⟩
  | succ j ih =>
      obtain ⟨hsize, hkeys⟩ := ih (by omega)
      have hkey := (hfresh j (by omega)).free (hok j (by omega))
      obtain ⟨hitems, hsize'⟩ := provision_fresh (hok j (by omega)) hkey
      rw [Function.iterate_succ_apply']
      refine ⟨?_, ?_⟩
      · rw [hsize', hsize]
        omega
      · intro k hk
        apply hkeys
        rw [Store.get_eq_none_iff] at hk ⊢
        intro cr hcr
        apply hk
        rw [hitems]
        exact List.mem_append_left _ hcr

theorem poolSize_le_iterate
    (hok : ∀ j < n, ((provision pool).run (handle env) ((provisionStep env pool)^[j] w)).1.2 = none)
    (j : Nat) (hj : j ≤ n) :
    poolSize w pool ≤ poolSize ((provisionStep env pool)^[j] w) pool := by
  induction j with
  | zero => exact Nat.le_refl _
  | succ j ih =>
      have hprev := ih (by omega)
      rw [Function.iterate_succ_apply']
      cases hget : ((provisionStep env pool)^[j] w).vnodes.get
          (nextKey pool ((provisionStep env pool)^[j] w)) with
      | none =>
          rw [(provision_fresh (hok j (by omega)) hget).2]
          omega
      | some old =>
          rw [(provision_taken (hok j (by omega)) hget).2]
          exact hprev

/-! ## The condition for one reconcile -/

theorem toRemove_of_lt (h : int32 (poolSize w pool) < pool.nodeCount) : toRemove pool w = 0 := by
  rw [toRemove, VNodePool.desiredScaleActions, if_pos h]
  rfl

theorem scaleActions_of_le (h₀ : 0 ≤ pool.nodeCount)
    (h : pool.nodeCount ≤ int32 (poolSize w pool)) :
    toAdd pool w = 0 ∧ (toRemove pool w : Int) = int32 (poolSize w pool) - pool.nodeCount := by
  have hlt := int32_lt (poolSize w pool)
  rw [toAdd, toRemove, VNodePool.desiredScaleActions, if_neg (by omega)]
  by_cases heq : pool.nodeCount = int32 (poolSize w pool)
  · rw [if_neg (by omega)]
    refine ⟨rfl, ?_⟩
    rw [heq]
    simp
  · rw [if_pos (by omega), int32_of_lt (by omega) (by omega)]
    refine ⟨rfl, ?_⟩
    simp only [Int.toNat_of_nonneg (show 0 ≤ int32 (poolSize w pool) - pool.nodeCount by omega)]

theorem toAdd_of_lt (h₀ : pool.nodeCount < 2 ^ 31) (hsize : poolSize w pool < 2 ^ 31)
    (h : (poolSize w pool : Int) < pool.nodeCount) :
    (toAdd pool w : Int) = pool.nodeCount - poolSize w pool := by
  have hcur : int32 (poolSize w pool) = poolSize w pool := int32_of_lt (by omega) (by omega)
  rw [toAdd, hcur, VNodePool.desiredScaleActions, if_pos (by omega),
    int32_of_lt (by omega) (by omega)]
  simp only [Int.toNat_of_nonneg (show 0 ≤ pool.nodeCount - poolSize w pool by omega)]

/-- A pool with more nodes than an `int32` can count is not scaled exactly. -/
theorem ScaledExactly.size_lt (h₀ : 0 ≤ pool.nodeCount) (h₁ : pool.nodeCount < 2 ^ 31)
    (hok : Succeeds env pool w) (hexact : ScaledExactly env pool w) :
    poolSize w pool < 2 ^ 31 := by
  by_contra hlarge
  have hlt := int32_lt (poolSize w pool)
  have hsize := hexact.size
  by_cases hup : int32 (poolSize w pool) < pool.nodeCount
  · obtain ⟨hreconciled, hall⟩ := reconcile_up hok (toRemove_of_lt hup)
    have hgrows := poolSize_le_iterate hall (toAdd pool w) (Nat.le_refl _)
    rw [← hreconciled] at hgrows
    omega
  · obtain ⟨hadd, hremove⟩ := scaleActions_of_le h₀ (w := w) (by omega)
    have hdown := reconcile_down env hadd (by omega)
    omega

theorem scaledExactly_iff_freshNames (h₀ : 0 ≤ pool.nodeCount) (h₁ : pool.nodeCount < 2 ^ 31)
    (hok : Succeeds env pool w) : ScaledExactly env pool w ↔ FreshNames pool w := by
  constructor
  · intro hexact
    have hsize := hexact.size_lt h₀ h₁ hok
    refine ⟨hsize, ?_⟩
    intro i hi hi'
    have hadd := toAdd_of_lt h₁ hsize (by omega)
    have hremove : toRemove pool w = 0 := by
      have := toAdd_eq_zero_or_toRemove_eq_zero pool w
      omega
    obtain ⟨_, hall⟩ := reconcile_up hok hremove
    obtain ⟨j, rfl⟩ := Nat.exists_eq_add_of_lt hi
    obtain ⟨hcount, hkeys⟩ := iterate_of_fresh hall hexact.fresh j (by omega)
    have hfree := (hexact.fresh j (by omega)).free (hall j (by omega))
    rw [nextKey, hcount] at hfree
    exact hkeys _ hfree
  · rintro ⟨hsize, hfree⟩
    have hcur : int32 (poolSize w pool) = poolSize w pool := int32_of_lt (by omega) (by omega)
    by_cases hup : (poolSize w pool : Int) < pool.nodeCount
    · have hadd := toAdd_of_lt h₁ hsize hup
      obtain ⟨hreconciled, hall⟩ := reconcile_up hok (toRemove_of_lt (by omega))
      have hiterate := iterate_of_free hall (fun i hi hi' => hfree i hi (by omega))
      refine ⟨?_, ?_⟩
      · rw [hreconciled, (hiterate _ (Nat.le_refl _)).1]
        omega
      · intro j hj
        obtain ⟨hcount, hlater⟩ := hiterate j (by omega)
        apply AddsFreshNode.of_free (hall j hj)
        rw [nextKey, hcount]
        exact hlater _ (by omega) (by omega)
    · obtain ⟨hadd, hremove⟩ := scaleActions_of_le h₀ (w := w) (by omega)
      have hdown := reconcile_down env hadd (by omega)
      refine ⟨by omega, ?_⟩
      intro j hj
      omega

end

/-! ## Runs -/

/-- `R` holds before each reconcile of a run.  Each one has its own requested
size and its own listing order. -/
def AllSteps (R : Env → VNodePool → Cluster → Prop) : List (Env × VNodePool) → Cluster → Prop
  | [], _ => True
  | (env, pool) :: rest, w => R env pool w ∧ AllSteps R rest (reconciled env pool w)

theorem AllSteps.congr {R R' : Env → VNodePool → Cluster → Prop}
    {steps : List (Env × VNodePool)} (h : ∀ s ∈ steps, ∀ w, R s.1 s.2 w ↔ R' s.1 s.2 w)
    (w : Cluster) : AllSteps R steps w ↔ AllSteps R' steps w := by
  induction steps generalizing w with
  | nil => exact Iff.rfl
  | cons s rest ih =>
      have hrest := ih (fun t ht => h t (List.mem_cons_of_mem s ht)) (reconciled s.1 s.2 w)
      have hhead := h s List.mem_cons_self w
      exact and_congr hhead hrest

/-- In a run of reconciles with arbitrary requested sizes, every successful one
reaches its size through fresh nodes exactly when every successful one starts
with the names it will use free. -/
theorem scaling_exact_iff_freshNames (steps : List (Env × VNodePool)) (w : Cluster)
    (hcount : ∀ s ∈ steps, 0 ≤ s.2.nodeCount ∧ s.2.nodeCount < 2 ^ 31) :
    AllSteps (fun env pool w => Succeeds env pool w → ScaledExactly env pool w) steps w ↔
      AllSteps (fun env pool w => Succeeds env pool w → FreshNames pool w) steps w := by
  apply AllSteps.congr
  intro s hs w
  apply forall_congr'
  intro hok
  exact scaledExactly_iff_freshNames (hcount s hs).1 (hcount s hs).2 hok

/-! ### A run that keeps its size, and one that does not -/

instance (pool : VNodePool) (w : Cluster) : Decidable (FreshNames pool w) :=
  decidable_of_iff (poolSize w pool < 2 ^ 31 ∧
      ∀ i ∈ List.range' (poolSize w pool + 1) (pool.nodeCount - poolSize w pool).toNat,
        w.vnodes.get ⟨pool.ns, nodeName pool i⟩ = none) (by
    apply and_congr_right
    intro _
    apply forall_congr'
    intro i
    rw [List.mem_range'_1]
    constructor
    · intro h hi hi'
      exact h ⟨by omega, by omega⟩
    · intro h hi
      exact h (by omega) (by omega))

/-- Listing by name, as the Kubernetes API does. -/
def byName : Env :=
  { Env.plain with
    order := List.insertionSort (fun a b => a.name ≤ b.name)
    order_perm := List.perm_insertionSort _ }

theorem sizedPool_scaling_exact :
    AllSteps (fun env pool w => Succeeds env pool w → ScaledExactly env pool w)
      [(byName, acmePool 2), (byName, acmePool 1), (byName, acmePool 2)]
      { tenants := fun _ => {} } :=
  (scaling_exact_iff_freshNames _ _ (by decide)).mpr
    ⟨fun _ => by decide +kernel, fun _ => by decide +kernel, fun _ => by decide +kernel, trivial⟩

/-- The clusters of a pool that was scaled to ten nodes and back to nine: the
node removed is the last one by name, `vnode-web-9`. -/
def scaledBack : Cluster :=
  reconciled byName (acmePool 9) (reconciled byName (acmePool 10) { tenants := fun _ => {} })

/-- Scaling to ten again succeeds, but overwrites `vnode-web-10` and leaves nine
nodes. -/
theorem scaledBack_stays_at_nine :
    Succeeds byName (acmePool 10) scaledBack ∧
      poolSize (reconciled byName (acmePool 10) scaledBack) (acmePool 10) = 9 ∧
      ¬ FreshNames (acmePool 10) scaledBack := by
  unfold Succeeds
  decide +kernel

end VNodeOperator.Nodes
