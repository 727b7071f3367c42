import VNodeOperator.Nodes.Retry
import VNodeOperator.Pools.Degraded
import VNodeOperator.Pools.Isolation
import VNodeOperator.Pools.Teardown

/-!
# Bringing a pool up

What one reconcile makes of a fresh pool whose tenant can be reached: as many ready
virtual nodes as the pool asks for, each registered in the tenant cluster with its
resources and a lease, and a status that says so.  A pool that came up and is deleted
again leaves the clusters as they were before it, but for the lease namespace of its
tenant.
-/

namespace VNodeOperator.Pools

open Model Kube Adapter Ports ProofSupport Service Reconciler Nodes
open NodeService PoolService
open Reconciler.VNodePool (poolFinalizer crToPoolModel)

variable {env : Env}

/-! ## Registering a node -/

structure SameWorkload (t t' : TenantCluster) : Prop where
  pods : t'.pods = t.pods
  configMaps : t'.configMaps = t.configMaps
  secrets : t'.secrets = t.secrets

theorem SameWorkload.refl (t : TenantCluster) : SameWorkload t t := ⟨rfl, rfl, rfl⟩

theorem SameWorkload.trans {t₁ t₂ t₃ : TenantCluster} (h : SameWorkload t₁ t₂)
    (h' : SameWorkload t₂ t₃) : SameWorkload t₁ t₃ :=
  ⟨h'.pods.trans h.pods, h'.configMaps.trans h.configMaps, h'.secrets.trans h.secrets⟩

theorem sameWorkload_setTenant (w : Cluster) (cs cs' : Clientset) {t : TenantCluster}
    (h : SameWorkload (w.tenants cs) t) :
    SameWorkload (w.tenants cs') ((w.setTenant cs t).tenants cs') := by
  rw [Cluster.setTenant_tenants]
  split
  · next he =>
      rw [he]
      exact h
  · exact .refl _

/-- The operator's requests to a tenant concern its nodes only. -/
theorem sameWorkload_api (c : ApiCall) (w : Cluster) (cs : Clientset) :
    SameWorkload (w.tenants cs) ((api env c w).2.tenants cs) := by
  have hset : ∀ cs' (t : TenantCluster), SameWorkload (w.tenants cs') t →
      SameWorkload (w.tenants cs) ((w.setTenant cs' t).tenants cs) :=
    fun cs' _ h => sameWorkload_setTenant w cs' cs h
  cases c with
  | deletePod k =>
      simp only [api]
      split
      · exact .refl _
      · rw [Cluster.removePod_eq]
        exact .refl _
  | _ =>
      simp only [api, Cluster.putNode, Cluster.putLease]
      (repeat' split) <;> first | exact .refl _ | exact hset _ _ ⟨rfl, rfl, rfl⟩

structure Registers (env : Env) (node : VNode) (cs : Clientset) (w w' : Cluster) : Prop where
  frame : w' = { w with tenants := w'.tenants }
  midway : Midway env node cs w w'
  arrived : Arrived env node cs w w'
  workload : ∀ cs', SameWorkload (w.tenants cs') (w'.tenants cs')

theorem handle_register {node : VNode} {tenant : TenantRef} {cs : Clientset}
    (hcs : env.connect tenant = .ok cs) (hsecret : tenant.kubeconfigSecret ≠ "")
    {shown : TenantNode} (hshows : Shows env node shown) (w : Cluster) :
    ∃ w', handle env (.register node tenant) w = (.ok (), w') ∧ Registers env node cs w w' := by
  have hok := run_register_ok hcs hshows w
  have hreached := (midway_register hcs hsecret node w (fun _ => none)).2
  rw [run_withFaults_none] at hreached
  refine ⟨((Registrar.register env node tenant).run (api env) w).2, Prod.ext hok rfl,
    handle_registrar env w (c := .register node tenant) rfl, hreached.1, hreached.2 hok, ?_⟩
  intro cs'
  refine (Registrar.uses_register env node tenant).invariant
    (I := fun w' : Cluster => SameWorkload (w.tenants cs') (w'.tenants cs')) ?_ (.refl _)
  exact fun c w' _ hw' => hw'.trans (sameWorkload_api c w' cs')

/-! ## Provisioning a node -/

def upCR (clock : Int) (node : VNode) : VNodeCR :=
  NodeRepository.savedOver (NodeRepository.savedNew clock node) (asReady node)

theorem inPool_upCR (clock : Int) (pool : Model.VNodePool) (i : Nat) :
    inPool pool (upCR clock (newNode pool i)) = true := by
  have hlabels : (upCR clock (newNode pool i)).labels =
      AList.insert labelVNodePool pool.name ∅ := rfl
  have hns : (upCR clock (newNode pool i)).ns = pool.ns := rfl
  rw [inPool, hns, hlabels, AList.lookup_insert]
  simp

theorem run_provisionNode {node : VNode} {tenant : TenantRef} {cs : Clientset}
    (hcs : env.connect tenant = .ok cs) (hsecret : tenant.kubeconfigSecret ≠ "")
    {shown : TenantNode} (hshows : Shows env node shown) {w : Cluster}
    (hfree : w.vnodes.get (NodeRepository.keyOf node) = none) :
    ∃ w', (provisionNode tenant node).run (handle env) w = ((asReady node, none), w') ∧
      Registers env node cs w { w' with vnodes := w.vnodes } ∧
      w'.vnodes = w.vnodes.put (upCR w.clock node) := by
  have hsaved : NodeRepository.saved w node = NodeRepository.savedNew w.clock node := by
    rw [NodeRepository.saved, hfree]
  let w₁ := w.putVNode (NodeRepository.savedNew w.clock node)
  obtain ⟨w₂, hregister, hframe, hmid, harrived, hwork⟩ :=
    handle_register hcs hsecret hshows w₁
  have hvnodes : w₂.vnodes = w.vnodes.put (NodeRepository.savedNew w.clock node) := by
    rw [hframe]
    rfl
  have hsaved₂ : NodeRepository.saved w₂ (asReady node) = upCR w.clock node := by
    have hget : w₂.vnodes.get (NodeRepository.keyOf (asReady node)) =
        some (NodeRepository.savedNew w.clock node) := by
      rw [hvnodes]
      exact Store.get_put_self w.vnodes (NodeRepository.savedNew w.clock node)
    rw [NodeRepository.saved, hget]
    rfl
  refine ⟨w₂.putVNode (upCR w.clock node), ?_, ⟨?_, ?_, ?_, hwork⟩, ?_⟩
  · unfold provisionNode
    rw [Prog.run_bind, ask, Prog.run_perform, handle_save, hsaved]
    dsimp only
    rw [Prog.run_bind, ask, Prog.run_perform, hregister]
    dsimp only
    rw [Prog.run_bind, ask, Prog.run_perform, handle_save, hsaved₂]
    rfl
  · rw [hframe]
    rfl
  · exact ⟨hmid.sameNode, hmid.sameLease, hmid.otherNodes, hmid.otherLeases⟩
  · exact ⟨harrived.nodeWritten, harrived.leaseHeld⟩
  · change w₂.vnodes.put _ = _
    rw [hvnodes]
    exact Store.put_put _ rfl

/-! ## Node after node -/

section

variable (env) (pool : Model.VNodePool) (cs : Clientset) (w : Cluster)

/-- The clusters once the first `n` nodes of a pool that had none are up. -/
structure UpTo (n : Nat) (w' : Cluster) : Prop where
  frame : w' = { w with vnodes := w'.vnodes, tenants := w'.tenants }
  size : poolSize w' pool = n
  stored : ∀ i < n, w'.vnodes.get (NodeRepository.keyOf (newNode pool i)) =
    some (upCR w.clock (newNode pool i))
  others : ∀ k, (∀ i < n, NodeRepository.keyOf (newNode pool i) ≠ k) →
    w'.vnodes.get k = w.vnodes.get k
  nodes : ∀ i < n, (w'.tenants cs).nodes.get (newNode pool i).name =
    some (written env (newNode pool i) (nodeAt (newNode pool i) cs w))
  leases : ∀ i < n, (w'.tenants cs).leases.get (newNode pool i).name =
    some (held (newNode pool i) (leaseAt (newNode pool i) cs w))
  otherNodes : ∀ cs' name, (∀ i < n, ¬ (cs' = cs ∧ name = (newNode pool i).name)) →
    (w'.tenants cs').nodes.get name = (w.tenants cs').nodes.get name ∧
      (w'.tenants cs').leases.get name = (w.tenants cs').leases.get name
  workload : ∀ cs', SameWorkload (w.tenants cs') (w'.tenants cs')

end

variable {pool : Model.VNodePool} {cs : Clientset} {w w' : Cluster} {n : Nat}

theorem name_newNode_ne {i j : Nat} (h : i ≠ j) : (newNode pool i).name ≠ (newNode pool j).name :=
  fun he => h (Nat.succ_injective (nodeName_inj he))

theorem keyOf_newNode_ne {i j : Nat} (h : i ≠ j) :
    NodeRepository.keyOf (newNode pool i) ≠ NodeRepository.keyOf (newNode pool j) :=
  fun he => name_newNode_ne h (congrArg ObjKey.name he)

theorem UpTo.zero (hsize : poolSize w pool = 0) : UpTo env pool cs w 0 w where
  frame := rfl
  size := hsize
  stored _ hi := absurd hi (Nat.not_lt_zero _)
  others _ _ := rfl
  nodes _ hi := absurd hi (Nat.not_lt_zero _)
  leases _ hi := absurd hi (Nat.not_lt_zero _)
  otherNodes _ _ _ := ⟨rfl, rfl⟩
  workload _ := .refl _

/-- A pool whose nodes can be registered: its tenant is reachable and its resources parse. -/
structure Reachable (env : Env) (pool : Model.VNodePool) (cs : Clientset) : Prop where
  connect : env.connect pool.tenantRef = .ok cs
  secret : pool.tenantRef.kubeconfigSecret ≠ ""
  parses : ∃ r, Registrar.buildResources env pool.perNodeResources = .ok r

theorem Reachable.shows (h : Reachable env pool cs) (i : Nat) :
    ∃ shown, Shows env (newNode pool i) shown := by
  obtain ⟨r, hr⟩ := h.parses
  exact ⟨{ name := "", capacity := r, allocatable := r }, hr, hr⟩

theorem UpTo.provision (hup : UpTo env pool cs w n w') (hreach : Reachable env pool cs)
    (hfree : w.vnodes.get (NodeRepository.keyOf (newNode pool n)) = none) :
    ∃ w'', (provision pool).run (handle env) w' = ((asReady (newNode pool n), none), w'') ∧
      UpTo env pool cs w (n + 1) w'' := by
  have hne : ∀ i < n, NodeRepository.keyOf (newNode pool i) ≠
      NodeRepository.keyOf (newNode pool n) := fun i hi => keyOf_newNode_ne (by omega)
  have hfree' : w'.vnodes.get (NodeRepository.keyOf (newNode pool n)) = none :=
    (hup.others _ hne).trans hfree
  have hclock : w'.clock = w.clock := by rw [hup.frame]
  obtain ⟨shown, hshows⟩ := hreach.shows n
  obtain ⟨w'', hrun, ⟨hframe, hmid, harrived, hwork⟩, hvnodes⟩ :=
    run_provisionNode hreach.connect hreach.secret hshows hfree'
  have hprovision : (NodeService.provision pool).run (handle env) w' =
      ((asReady (newNode pool n), none), w'') := by
    unfold NodeService.provision
    rw [Prog.run_bind, ask, Prog.run_perform, handle_listByPool]
    simp only [length_listed, hup.size]
    exact hrun
  -- the node and the lease of index `n` were not touched so far
  have huntouched := hup.otherNodes cs (newNode pool n).name
    fun i hi hsame => name_newNode_ne (Nat.ne_of_gt hi) hsame.2
  have hnodeAt : nodeAt (newNode pool n) cs w' = nodeAt (newNode pool n) cs w := by
    rw [nodeAt, huntouched.1, nodeAt]
  have hleaseAt : leaseAt (newNode pool n) cs w' = leaseAt (newNode pool n) cs w := by
    rw [leaseAt, huntouched.2, leaseAt]
  rw [hclock] at hvnodes
  have hkept : ∀ k, NodeRepository.keyOf (newNode pool n) ≠ k →
      w''.vnodes.get k = w'.vnodes.get k := by
    intro k hk
    rw [hvnodes]
    exact Store.get_put_ne w'.vnodes (a := upCR w.clock (newNode pool n)) hk
  refine ⟨w'', hprovision, ?_, ?_, ?_, ?_, ?_, ?_, ?_, fun cs' => (hup.workload cs').trans
    (hwork cs')⟩
  · have hsame : w'' = { w' with vnodes := w''.vnodes, tenants := w''.tenants } :=
      congrArg (fun c : Cluster => { c with vnodes := w''.vnodes }) hframe
    rw [hup.frame] at hsame
    exact hsame
  · have hfresh : w'.vnodes.get (upCR w.clock (newNode pool n)).key = none := hfree'
    rw [poolSize, hvnodes, Store.countP_put_of_none _ hfresh, if_pos (inPool_upCR _ _ _),
      ← poolSize, hup.size]
  · intro i hi
    rcases Nat.lt_succ_iff_lt_or_eq.mp hi with hi | rfl
    · exact (hkept _ (hne i hi).symm).trans (hup.stored i hi)
    · rw [hvnodes]
      exact Store.get_put_self w'.vnodes (upCR w.clock (newNode pool i))
  · intro k hk
    exact (hkept k (hk n (Nat.lt_succ_self n))).trans
      (hup.others k fun i hi => hk i (Nat.lt_succ_of_lt hi))
  · intro i hi
    rcases Nat.lt_succ_iff_lt_or_eq.mp hi with hi | rfl
    · exact (hmid.otherNodes cs _ fun hsame => name_newNode_ne (Nat.ne_of_lt hi) hsame.2).trans
        (hup.nodes i hi)
    · exact hnodeAt ▸ harrived.nodeWritten
  · intro i hi
    rcases Nat.lt_succ_iff_lt_or_eq.mp hi with hi | rfl
    · exact (hmid.otherLeases cs _ fun hsame => name_newNode_ne (Nat.ne_of_lt hi) hsame.2).trans
        (hup.leases i hi)
    · exact hleaseAt ▸ harrived.leaseHeld
  · intro cs' name hother
    have hlast := hother n (Nat.lt_succ_self n)
    obtain ⟨hnodes, hleases⟩ := hup.otherNodes cs' name fun i hi => hother i (Nat.lt_succ_of_lt hi)
    exact ⟨(hmid.otherNodes cs' name hlast).trans hnodes,
      (hmid.otherLeases cs' name hlast).trans hleases⟩

theorem UpTo.scaleUp (hreach : Reachable env pool cs) (is : List Nat) (s : Scaling)
    (hpool : s.pool = { pool with nodes := s.pool.nodes }) (hup : UpTo env pool cs w n w')
    (hfree : ∀ i, n ≤ i → i < n + is.length →
      w.vnodes.get (NodeRepository.keyOf (newNode pool i)) = none) :
    ∃ s' w'', (Prog.loop scaleUpStep is s).run (handle env) w' = (.next s', w'') ∧
      UpTo env pool cs w (n + is.length) w'' ∧ s'.pool = { pool with nodes := s'.pool.nodes } ∧
      s'.working = s.working ++
        (List.range' n is.length).map fun i => asReady (newNode pool i) := by
  induction is generalizing s n w' with
  | nil => exact ⟨s, w', rfl, hup, hpool, by simp⟩
  | cons i is ih =>
      rw [List.length_cons] at hfree
      obtain ⟨w₁, hrun, hup₁⟩ := hup.provision hreach (hfree n (Nat.le_refl n) (by omega))
      let s₁ : Scaling :=
        { pool := { s.pool with nodes := s.pool.nodes ++ [(asReady (newNode pool n)).name] }
          working := s.working ++ [asReady (newNode pool n)] }
      have hpool₁ : s₁.pool = { pool with nodes := s₁.pool.nodes } := by
        change ({ s.pool with nodes := _ } : Model.VNodePool) = _
        rw [hpool]
      have hstep : (scaleUpStep i s).run (handle env) w' = (.next s₁, w₁) := by
        unfold scaleUpStep
        rw [provision_eq hpool, Prog.run_bind, hrun]
        rfl
      obtain ⟨s', w'', hloop, hup', hpool', hworking⟩ :=
        ih s₁ hpool₁ hup₁ fun i hi hi' => hfree i (by omega) (by omega)
      refine ⟨s', w'', ?_, ?_, hpool', ?_⟩
      · rw [Prog.loop_cons, Prog.run_bind, hstep]
        exact hloop
      · rw [List.length_cons, Nat.add_comm is.length 1, ← Nat.add_assoc]
        exact hup'
      · rw [hworking, List.length_cons, List.range'_succ, List.map_cons, List.append_assoc]
        rfl

/-! ## One reconcile -/

/-- A pool without virtual nodes whose nodes would have free names. -/
structure Fresh (pool : Model.VNodePool) (w : Cluster) : Prop where
  size : poolSize w pool = 0
  free : ∀ i : Nat, (i : Int) < pool.nodeCount →
    w.vnodes.get (NodeRepository.keyOf (newNode pool i)) = none

theorem scaleActions_fresh (hcount : 0 ≤ pool.nodeCount) (hsmall : pool.nodeCount < 2 ^ 31)
    (hsize : poolSize w pool = 0) :
    toAdd pool w = pool.nodeCount.toNat ∧ toRemove pool w = 0 := by
  have hcur : int32 (poolSize w pool) = 0 := by
    rw [hsize]
    rfl
  by_cases hzero : pool.nodeCount = 0
  · have hactions : toAdd pool w = 0 ∧
        (toRemove pool w : Int) = int32 (poolSize w pool) - pool.nodeCount :=
      scaleActions_of_le hcount (by omega)
    omega
  · have hadd : (toAdd pool w : Int) = pool.nodeCount - poolSize w pool :=
      toAdd_of_lt hsmall (by omega) (by omega)
    have hremove : toRemove pool w = 0 := toRemove_of_lt (by omega)
    omega

theorem withReadiness_ready {s : Scaling} (hall : ∀ node ∈ s.working, countsAsReady node = true)
    (hlength : (s.working.length : Int) = s.pool.nodeCount) (hsmall : s.pool.nodeCount < 2 ^ 31) :
    (withReadiness s).phase = .ready ∧ (withReadiness s).readyNodes = s.pool.nodeCount ∧
      (withReadiness s).nodeCount = s.pool.nodeCount := by
  have hready : int32 (s.working.countP countsAsReady) = s.pool.nodeCount := by
    rw [List.countP_eq_length.mpr hall, hlength]
    exact int32_of_lt (by omega) hsmall
  simp only [withReadiness, hready, if_true, and_self]

theorem run_reconcile_fresh (hreach : Reachable env pool cs) (hcount : 0 ≤ pool.nodeCount)
    (hsmall : pool.nodeCount < 2 ^ 31) (hfresh : Fresh pool w) :
    ∃ result w', (PoolService.reconcile pool).run (handle env) w = ((result, none), w') ∧
      UpTo env pool cs w pool.nodeCount.toNat w' ∧ result.phase = .ready ∧
      result.readyNodes = pool.nodeCount ∧ result.nodeCount = pool.nodeCount := by
  have hlisted : (listed env pool w).working = [] :=
    List.eq_nil_of_length_eq_zero ((length_listed env w pool).trans hfresh.size)
  obtain ⟨hadd, hremove⟩ := scaleActions_fresh hcount hsmall hfresh.size
  obtain ⟨s, w', hloop, hup, hpool, hworking⟩ := UpTo.scaleUp hreach
    (List.range (toAdd pool w)) (listed env pool w) rfl (UpTo.zero hfresh.size) (by
      intro i _ hi
      rw [List.length_range, hadd] at hi
      exact hfresh.free i (by omega))
  rw [List.length_range, hadd] at hup hworking
  rw [Nat.zero_add] at hup
  rw [hlisted, List.nil_append] at hworking
  have hnodeCount : s.pool.nodeCount = pool.nodeCount := by rw [hpool]
  obtain ⟨hphase, hready, htotal⟩ := withReadiness_ready (s := s)
    (by
      rw [hworking]
      intro node hnode
      obtain ⟨i, _, rfl⟩ := List.mem_map.mp hnode
      rfl)
    (by
      rw [hworking, List.length_map, List.length_range', hnodeCount]
      omega)
    (hnodeCount ▸ hsmall)
  refine ⟨withReadiness s, w', ?_, hup, hphase, hready.trans hnodeCount,
    htotal.trans hnodeCount⟩
  rw [run_reconcile, hremove]
  unfold scale
  rw [Prog.run_bind, hloop]
  rfl

theorem UpTo.of_pools {pools : Store VNodePoolCR.key}
    (hup : UpTo env pool cs { w with pools := pools } n w') :
    UpTo env pool cs w n { w' with pools := w.pools } where
  frame := congrArg (fun c : Cluster => { c with pools := w.pools }) hup.frame
  size := hup.size
  stored := hup.stored
  others := hup.others
  nodes := hup.nodes
  leases := hup.leases
  otherNodes := hup.otherNodes
  workload := hup.workload

structure PoolUp (cr cr' : VNodePoolCR) : Prop where
  spec : SameSpec cr cr'
  finalizers : cr'.finalizers =
    if poolFinalizer ∈ cr.finalizers then cr.finalizers else cr.finalizers ++ [poolFinalizer]
  phase : cr'.status.phase = .ready
  readyNodes : cr'.status.readyNodes = cr.nodeCount
  totalNodes : cr'.status.totalNodes = cr.nodeCount

structure BroughtUp (env : Env) (cs : Clientset) (cr : VNodePoolCR) (w w' : Cluster) : Prop where
  nodes : UpTo env (crToPoolModel cr) cs w cr.nodeCount.toNat { w' with pools := w.pools }
  pool : ∃ cr', w'.pools.get cr.key = some cr' ∧ PoolUp cr cr'
  others : ∀ k, k ≠ cr.key → w'.pools.get k = w.pools.get k

theorem run_reconcileLive_fresh {cr stored : VNodePoolCR} (hkey : stored.key = cr.key)
    (hstored : w.pools.get cr.key = some stored)
    (hvalid : (crToPoolModel cr).validate = .ok ()) (hsmall : cr.nodeCount < 2 ^ 31)
    (hreach : Reachable env (crToPoolModel cr) cs) (hfresh : Fresh (crToPoolModel cr) w) :
    ∃ w' status, (VNodePool.reconcileLive cr).run (handle env) w = (({}, none), w') ∧
      UpTo env (crToPoolModel cr) cs w cr.nodeCount.toNat { w' with pools := w.pools } ∧
      (∃ version, w'.pools.get cr.key =
        some { stored with resourceVersion := version, status := status }) ∧
      (∀ k, k ≠ cr.key → w'.pools.get k = w.pools.get k) ∧
      status.phase = .ready ∧ status.readyNodes = cr.nodeCount ∧
      status.totalNodes = cr.nodeCount := by
  obtain ⟨result, w₁, hrun, hup, hphase, hready, htotal⟩ := run_reconcile_fresh hreach
    (VNodePool.of_validate hvalid).2.2 hsmall hfresh
  have hpools : w₁.pools = w.pools := by rw [hup.frame]
  rw [← hkey, ← hpools] at hstored
  obtain ⟨w', hstatus, hframe, hpool, hothers⟩ := (hostAnswers_handle env).run_statusUpdate
    hstored (statusUpdate_updatePoolStatus stored.key (VNodePool.statusOf result))
  refine ⟨w', VNodePool.statusOf result w₁.clock stored.status, ?_, ?_, hkey ▸ hpool, ?_, hphase,
    hready, htotal⟩
  · rw [hkey] at hstatus
    unfold VNodePool.reconcileLive
    dsimp only
    rw [hvalid]
    dsimp only
    rw [Prog.run_bind, hrun]
    dsimp only
    rw [Prog.run_bind, hstatus]
    rfl
  · rw [hframe, ← hpools]
    exact hup
  · intro k hk
    rw [hothers k (hkey ▸ hk), hpools]

theorem handle_withFinalizer {cr : VNodePoolCR} (hcr : w.pools.get cr.key = some cr)
    (hlive : cr.deletionTimestamp = none) :
    handle env (.updateVNodePool (withFinalizer cr)) w = (.ok (), w.putPool
      { withFinalizer cr with resourceVersion := cr.resourceVersion + 1 }) := by
  have hget : w.pools.get (withFinalizer cr).key = some cr := hcr
  have hversion : ¬ (withFinalizer cr).resourceVersion ≠ cr.resourceVersion := fun hne => hne rfl
  have hkept : w.updatePool cr (withFinalizer cr) = w.putPool
      { withFinalizer cr with resourceVersion := cr.resourceVersion + 1 } := by
    unfold Cluster.updatePool
    rw [if_neg (by simp [hlive])]
    rfl
  simp only [handle, hget, if_neg hversion, hkept]

/-- One reconcile of a valid pool without nodes, whose tenant can be reached, brings it up. -/
theorem reconcile_brings_up {cr : VNodePoolCR} (hcr : w.pools.get cr.key = some cr)
    (hlive : cr.deletionTimestamp = none)
    (hvalid : (crToPoolModel cr).validate = .ok ()) (hsmall : cr.nodeCount < 2 ^ 31)
    (hreach : Reachable env (crToPoolModel cr) cs) (hfresh : Fresh (crToPoolModel cr) w) :
    ∃ w', (VNodePool.reconcile cr.key).run (handle env) w = (({}, none), w') ∧
      BroughtUp env cs cr w w' := by
  have hh := hostAnswers_handle env
  by_cases hfinalizer : poolFinalizer ∈ cr.finalizers
  · obtain ⟨w', status, hrun, hup, ⟨version, hpool⟩, hothers, hphase, hready, htotal⟩ :=
      run_reconcileLive_fresh rfl hcr hvalid hsmall hreach hfresh
    refine ⟨w', ?_, hup, ⟨_, hpool, rfl, (if_pos hfinalizer).symm, hphase, hready, htotal⟩,
      hothers⟩
    unfold VNodePool.reconcile
    rw [Prog.run_bind, ask, Prog.run_perform, hh.getVNodePool hcr]
    dsimp only
    rw [if_neg (by simp [hlive]), if_pos hfinalizer]
    exact hrun
  · -- the finalizer is added first
    let stored : VNodePoolCR :=
      { withFinalizer cr with resourceVersion := cr.resourceVersion + 1 }
    have hstored : (w.putPool stored).pools.get cr.key = some stored :=
      Store.get_put_self w.pools stored
    have hfresh' : Fresh (crToPoolModel (withFinalizer cr)) (w.putPool stored) :=
      ⟨hfresh.size, hfresh.free⟩
    obtain ⟨w', status, hrun, hup, ⟨version, hpool⟩, hothers, hphase, hready, htotal⟩ :=
      run_reconcileLive_fresh (show stored.key = (withFinalizer cr).key from rfl) hstored hvalid
        hsmall hreach hfresh'
    refine ⟨w', ?_, hup.of_pools, ⟨_, hpool, rfl, (if_neg hfinalizer).symm, hphase, hready,
      htotal⟩, ?_⟩
    · unfold VNodePool.reconcile
      rw [Prog.run_bind, ask, Prog.run_perform, hh.getVNodePool hcr]
      dsimp only
      rw [if_neg (by simp [hlive]), if_neg hfinalizer, Prog.run_bind, ask, Prog.run_perform]
      rw [show { cr with finalizers := cr.finalizers ++ [poolFinalizer] } = withFinalizer cr
        from rfl, handle_withFinalizer hcr hlive]
      exact hrun
    · intro k hk
      exact (hothers k hk).trans (Store.get_put_ne _ (Ne.symm hk))

/-! ## Coming and going -/

theorem not_inPool_of_size (hsize : poolSize w pool = 0) {k : ObjKey} {v : VNodeCR}
    (hv : w.vnodes.get k = some v) : inPool pool v = false := by
  have hnone := List.countP_eq_zero.mp hsize v (Store.mem_of_get hv)
  simpa using hnone

theorem UpTo.get_cases (hup : UpTo env pool cs w n w') (hsize : poolSize w pool = 0)
    (k : ObjKey) :
    (∃ i < n, k = NodeRepository.keyOf (newNode pool i) ∧
        w'.vnodes.get k = some (upCR w.clock (newNode pool i))) ∨
      (∀ i < n, NodeRepository.keyOf (newNode pool i) ≠ k) ∧
        w'.vnodes.get k = w.vnodes.get k ∧ ofOthers pool (w.vnodes.get k) = w.vnodes.get k := by
  by_cases hnew : ∃ i < n, NodeRepository.keyOf (newNode pool i) = k
  · obtain ⟨i, hi, rfl⟩ := hnew
    exact Or.inl ⟨i, hi, rfl, hup.stored i hi⟩
  · have hne : ∀ i < n, NodeRepository.keyOf (newNode pool i) ≠ k :=
      fun i hi he => hnew ⟨i, hi, he⟩
    refine Or.inr ⟨hne, hup.others k hne, ?_⟩
    cases hget : w.vnodes.get k with
    | none => rfl
    | some v => simp [ofOthers, Option.filter, not_inPool_of_size hsize hget]

theorem UpTo.mem_poolVNodes (hup : UpTo env pool cs w n w') (hsize : poolSize w pool = 0)
    {v : VNodeCR} :
    v ∈ w'.poolVNodes pool.ns pool.name ↔ ∃ i < n, v = upCR w.clock (newNode pool i) := by
  rw [Cluster.poolVNodes, List.mem_filter]
  constructor
  · rintro ⟨hmem, hmine⟩
    have hget := Store.get_of_mem hmem
    rcases hup.get_cases hsize v.key with ⟨i, hi, _, hstored⟩ | ⟨_, hsame, _⟩
    · exact ⟨i, hi, Option.some.inj (hget.symm.trans hstored)⟩
    · rw [hsame] at hget
      have hnot := not_inPool_of_size hsize hget
      have hmine' : inPool pool v = true := hmine
      rw [hnot] at hmine'
      cases hmine'
  · rintro ⟨i, hi, rfl⟩
    exact ⟨Store.mem_of_get (hup.stored i hi), inPool_upCR _ _ _⟩

theorem tenantOf_upCR (clock : Int) (node : VNode) :
    NodeRepository.tenantOf (upCR clock node).annotations = node.tenantRef :=
  NodeRepository.tenantOf_annotateTenant _ _

/-- The clusters after a user has deleted the pool: its finalizer keeps it there. -/
def markDeleted (w : Cluster) (cr : VNodePoolCR) (time : Nat) : Cluster :=
  w.putPool
    { cr with
      resourceVersion := cr.resourceVersion + 1
      deletionTimestamp := some time }

/-- The pool is gone and everything else is as it was, but for the lease namespaces. -/
structure NoTrace (k : ObjKey) (w w' : Cluster) : Prop where
  frame : w' = { w with vnodes := w'.vnodes, pools := w'.pools, tenants := w'.tenants }
  vnodes : ∀ key, w'.vnodes.get key = w.vnodes.get key
  gone : w'.pools.get k = none
  pools : ∀ key, key ≠ k → w'.pools.get key = w.pools.get key
  tenants : ∀ cs name, (w'.tenants cs).nodes.get name = (w.tenants cs).nodes.get name ∧
    (w'.tenants cs).leases.get name = (w.tenants cs).leases.get name
  workload : ∀ cs, SameWorkload (w.tenants cs) (w'.tenants cs)

theorem UpTo.mem_abandoned {cr : VNodePoolCR} (hup : UpTo env (crToPoolModel cr) cs w n w')
    (hsize : poolSize w (crToPoolModel cr) = 0) (hreach : Reachable env (crToPoolModel cr) cs)
    {cs' : Clientset} {name : String} :
    name ∈ abandoned env cr w' cs' ↔
      cs' = cs ∧ ∃ i < n, name = (newNode (crToPoolModel cr) i).name := by
  have hreaches : ∀ i, Reaches env (NodeRepository.tenantOf
      (upCR w.clock (newNode (crToPoolModel cr) i)).annotations) cs' ↔ cs' = cs := by
    intro i
    rw [tenantOf_upCR]
    change (_ ∧ env.connect (crToPoolModel cr).tenantRef = .ok cs') ↔ _
    rw [hreach.connect, Except.ok.injEq]
    exact ⟨fun h => h.2.symm, fun h => ⟨hreach.secret, h.symm⟩⟩
  have hmem : ∀ v, v ∈ w'.poolVNodes cr.ns cr.name ↔
      ∃ i < n, v = upCR w.clock (newNode (crToPoolModel cr) i) :=
    fun v => hup.mem_poolVNodes hsize
  simp only [abandoned, List.mem_map, List.mem_filter, decide_eq_true_eq, hmem]
  constructor
  · rintro ⟨v, ⟨⟨i, hi, rfl⟩, hreach'⟩, rfl⟩
    exact ⟨(hreaches i).mp hreach', i, hi, rfl⟩
  · rintro ⟨hcs, i, hi, rfl⟩
    exact ⟨_, ⟨⟨i, hi, rfl⟩, (hreaches i).mpr hcs⟩, rfl⟩

/-- Neither the pool's virtual nodes nor its tenant's nodes are there before it comes up. -/
structure Vacant (pool : Model.VNodePool) (cs : Clientset) (w : Cluster) : Prop
    extends Fresh pool w where
  node : ∀ i : Nat, (i : Int) < pool.nodeCount →
    (w.tenants cs).nodes.get (newNode pool i).name = none
  lease : ∀ i : Nat, (i : Int) < pool.nodeCount →
    (w.tenants cs).leases.get (newNode pool i).name = none

/-- A pool that comes up and is deleted leaves the clusters as it found them. -/
theorem pool_leaves_no_trace (env : Env) (cs : Clientset) (cr : VNodePoolCR) (w : Cluster)
    (time : Nat) (hcr : w.pools.get cr.key = some cr) (hlive : cr.deletionTimestamp = none)
    (hfinalizers : ∀ f ∈ cr.finalizers, f = poolFinalizer)
    (hvalid : (crToPoolModel cr).validate = .ok ()) (hsmall : cr.nodeCount < 2 ^ 31)
    (hreach : Reachable env (crToPoolModel cr) cs) (hvacant : Vacant (crToPoolModel cr) cs w) :
    ∃ up cr' down,
      (VNodePool.reconcile cr.key).run (handle env) w = (({}, none), up) ∧
      up.pools.get cr.key = some cr' ∧
      (VNodePool.reconcile cr.key).run (handle env) (markDeleted up cr' time) =
        (({}, none), down) ∧
      NoTrace cr.key w down := by
  have hh := hostAnswers_handle env
  obtain ⟨up, hrun, hup, ⟨cr', hcr', hspec, hfin, _⟩, hothers⟩ :=
    reconcile_brings_up hcr hlive hvalid hsmall hreach hvacant.toFresh
  -- the pool as the user deletes it has the spec it had
  unfold SameSpec at hspec
  generalize cr'.resourceVersion = version, cr'.finalizers = finalizers, cr'.status = status
    at hspec hfin
  subst hspec
  let leaving : VNodePoolCR :=
    { cr with
      resourceVersion := version + 1
      deletionTimestamp := some time
      finalizers := finalizers
      status := status }
  have hleaving : (up.putPool leaving).pools.get leaving.key = some leaving :=
    Store.get_put_self up.pools leaving
  have hmine : poolFinalizer ∈ finalizers ∧ ∀ f ∈ finalizers, f = poolFinalizer := by
    rw [hfin]
    split
    · next hmem => exact ⟨hmem, hfinalizers⟩
    · refine ⟨by simp, ?_⟩
      intro f hf
      rcases List.mem_append.mp hf with hf | hf
      · exact hfinalizers f hf
      · exact List.mem_singleton.mp hf
  have hsize : poolSize (up.putPool leaving) (crToPoolModel leaving) < 2 ^ 31 := by
    have hn : poolSize (up.putPool leaving) (crToPoolModel leaving) = cr.nodeCount.toNat := hup.size
    omega
  obtain ⟨w₁, down, hdown, htorn, hframe, htenants⟩ :=
    hh.run_handleDeletion hleaving rfl hmine.1 hsize
  have hcleared := cleared_of_removed hframe htenants
  have habandoned : ∀ cs' name, name ∈ abandoned env leaving (up.putPool leaving) cs' ↔
      cs' = cs ∧ ∃ i < cr.nodeCount.toNat, name = (newNode (crToPoolModel cr) i).name :=
    fun cs' name => hup.mem_abandoned hvacant.size hreach
  refine ⟨up, _, down, hrun, hcr', (hh.run_reconcile_deleted hleaving rfl).trans hdown,
    ?_, ?_, htorn.gone hmine.2, ?_, ?_, ?_⟩
  · exact htorn.frame.trans (congrArg (fun c : Cluster => { c with
      vnodes := down.vnodes, pools := down.pools, tenants := down.tenants }) hup.frame)
  · intro k
    rw [htorn.vnodes k]
    change ofOthers (crToPoolModel cr) (up.vnodes.get k) = _
    rcases hup.get_cases hvacant.size k with ⟨i, hi, rfl, hstored⟩ | ⟨_, hsame, hother⟩
    · have hnone := hvacant.free i (by change (i : Int) < cr.nodeCount; omega)
      change up.vnodes.get _ = _ at hstored
      rw [hstored, hnone, ofOthers, Option.filter, inPool_upCR]
      rfl
    · change up.vnodes.get k = _ at hsame
      rw [hsame, hother]
  · intro k hk
    exact (htorn.others k hk).trans
      ((Store.get_put_ne up.pools (a := leaving) (Ne.symm hk)).trans (hothers k hk))
  · intro cs' name
    rw [(hcleared cs').nodes, (hcleared cs').leases]
    by_cases hmem : name ∈ abandoned env leaving (up.putPool leaving) cs'
    · obtain ⟨rfl, i, hi, rfl⟩ := (habandoned cs' name).mp hmem
      have hi' : (i : Int) < cr.nodeCount := by omega
      rw [if_pos hmem, if_pos hmem]
      exact ⟨(hvacant.node i hi').symm, (hvacant.lease i hi').symm⟩
    · rw [if_neg hmem, if_neg hmem]
      exact hup.otherNodes cs' name fun i hi hsame =>
        hmem ((habandoned cs' name).mpr ⟨hsame.1, i, hi, hsame.2⟩)
  · intro cs'
    have hkept : SameWorkload ((up.putPool leaving).tenants cs') (down.tenants cs') := by
      rw [(hcleared cs').frame]
      exact ⟨rfl, rfl, rfl⟩
    exact (hup.workload cs').trans hkept

def visitingPool : VNodePoolCR where
  name := "web"
  ns := "host"
  tenantRef := { vclusterName := "acme", vclusterNamespace := "acme", kubeconfigSecret := "acme" }
  nodeCount := 2
  perNodeResources := { cpu := "4", memory := "8Gi", pods := 110 }
  taints := [⟨"dedicated", "web", "NoSchedule"⟩]

def visitedCluster : Cluster where
  pools := Store.empty.put visitingPool
  tenants _ := {}

theorem reachable_visitingPool : Reachable Env.plain (crToPoolModel visitingPool) ⟨"acme"⟩ where
  connect := rfl
  secret := by decide
  parses := ⟨_, rfl⟩

theorem vacant_visitingPool : Vacant (crToPoolModel visitingPool) ⟨"acme"⟩ visitedCluster where
  size := rfl
  free _ _ := rfl
  node _ _ := rfl
  lease _ _ := rfl

theorem visitingPool_leaves_no_trace :
    ∃ up cr' down,
      (VNodePool.reconcile visitingPool.key).run (handle Env.plain) visitedCluster =
        (({}, none), up) ∧
      up.pools.get visitingPool.key = some cr' ∧
      (VNodePool.reconcile visitingPool.key).run (handle Env.plain) (markDeleted up cr' 5) =
        (({}, none), down) ∧
      NoTrace visitingPool.key visitedCluster down :=
  pool_leaves_no_trace Env.plain ⟨"acme"⟩ visitingPool visitedCluster 5 (by decide) rfl (by decide)
    rfl (by decide) reachable_visitingPool vacant_visitingPool

end VNodeOperator.Pools
