import VNodeOperator.Nodes.Quiescence
import VNodeOperator.Pools.BringUp

/-!
# Putting a pool into service

A node is registered before it is ready, so the tenant sees it as one that is still
registering until the first reconcile of its resource.  Once each resource of a pool that
came up was reconciled, in whatever order and however often, the tenant sees every node
as ready, with the capacity the pool asks for.
-/

namespace VNodeOperator.Pools

open Model Kube Adapter Ports ProofSupport Service Reconciler Nodes
open NodeService
open Reconciler.VNodePool (crToPoolModel)

variable {env : Env} {cs : Clientset} {w : Cluster}

/-! ## A heartbeat -/

def refreshed (env : Env) (node : VNode) (n : TenantNode) : TenantNode :=
  { n with
    capacity := parsedResources env node.capacity
    allocatable := parsedResources env node.allocatable
    conditions := Registrar.buildNodeConditions node
    kubeletVersion := "vnode/" ++ env.version }

theorem withStatus_eq {node : VNode} {shown : TenantNode} (hshows : Shows env node shown)
    (current : TenantNode) :
    Registrar.withStatus env current node = .ok (refreshed env node current) := by
  simp only [Registrar.withStatus, refreshed, parsedResources, hshows.1, hshows.2]
  rfl

theorem run_updateNodeStatus {node : VNode} {tenant : TenantRef}
    (hcs : env.connect tenant = .ok cs) (hsecret : tenant.kubeconfigSecret ≠ "")
    {shown : TenantNode} (hshows : Shows env node shown) {current : TenantNode} {lease : Lease}
    (hcurrent : (w.tenants cs).nodes.get node.name = some current)
    (hlease : (w.tenants cs).leases.get node.name = some lease) :
    (Registrar.updateNodeStatus env node tenant).run (api env) w =
      (.ok (), (w.putNode cs (refreshed env node current)).putLease cs (held node lease)) := by
  have hname : current.name = node.name := Store.key_of_get hcurrent
  have hleaseName : lease.name = node.name := Store.key_of_get hlease
  let w₁ := w.putNode cs (refreshed env node current)
  have hget : api env (.getNode cs node.name) w = (.ok current, w) := by
    simp only [api, find_some _ _ hcurrent]
  have hput : api env (.updateNodeStatus cs (refreshed env node current)) w = (.ok (), w₁) := by
    have hstored : (w.tenants cs).nodes.get (refreshed env node current).name = some current :=
      hname ▸ hcurrent
    simp only [api, hstored]
    rfl
  have hwrite : (Registrar.writeNodeStatus env cs node).run (api env) w = (.ok (), w₁) := by
    apply run_retryOnConflict_ok
    simp only [request, Prog.run_bind, Prog.run_perform, hget, withStatus_eq hshows, hput]
  have hlease₁ : (w₁.tenants cs).leases.get node.name = some lease := by
    change ((w.setTenant cs _).tenants cs).leases.get node.name = some lease
    rw [Cluster.setTenant_tenants, if_pos rfl]
    exact hlease
  have hgetLease : api env (.getLease cs node.name) w₁ = (.ok lease, w₁) := by
    simp only [api, find_some _ _ hlease₁]
  have hputLease : api env (.updateLease cs
      { lease with
        holderIdentity := node.name
        leaseDurationSeconds := Registrar.leaseDuration }) w₁ =
      (.ok (), w₁.putLease cs (held node lease)) := by
    have hstored : (w₁.tenants cs).leases.get lease.name = some lease := hleaseName ▸ hlease₁
    simp only [api, hstored]
    rfl
  have hupsert : (Registrar.upsertLease cs node.name).run (api env) w₁ =
      (.ok (), w₁.putLease cs (held node lease)) := by
    unfold Registrar.upsertLease
    rw [request, Prog.run_bind, Prog.run_perform, hgetLease]
    dsimp only
    rw [request, Prog.run_bind, Prog.run_perform, hputLease]
    rfl
  unfold Registrar.updateNodeStatus
  rw [if_neg hsecret, request, Prog.run_bind, Prog.run_perform]
  simp only [api, hcs]
  rw [Prog.run_bind, hwrite]
  exact hupsert

theorem get_beat (w : Cluster) (cs cs' : Clientset) (n : TenantNode) (lease : Lease)
    (name : String) :
    (((w.putNode cs n).putLease cs lease).tenants cs').nodes.get name =
        (if cs' = cs ∧ n.name = name then some n else (w.tenants cs').nodes.get name) ∧
      (((w.putNode cs n).putLease cs lease).tenants cs').leases.get name =
        (if cs' = cs ∧ lease.name = name then some lease
          else (w.tenants cs').leases.get name) := by
  by_cases hcs : cs' = cs
  · subst hcs
    simp only [Cluster.putLease, Cluster.putNode, Cluster.setTenant_tenants, if_true, true_and]
    exact ⟨Store.get_put _ _ _, Store.get_put _ _ _⟩
  · simp only [Cluster.putLease, Cluster.putNode, Cluster.setTenant_tenants, hcs, if_false,
      false_and, and_self]

/-- The node that a reconcile reads from the resource of one that came up. -/
def upNode (clock : Int) (node : VNode) : VNode := VNode.nodeOf (upCR clock node)

theorem upNode_conditions (clock : Int) (node : VNode) :
    (upNode clock node).conditions = readyNodeConditions :=
  (nodeOf_savedOver _ (asReady node)).2

/-- A reconcile of a node that came up is a heartbeat. -/
theorem run_reconcile_up {clock : Int} {node : VNode}
    (hstored : w.vnodes.get (NodeRepository.keyOf node) = some (upCR clock node))
    {w' : Cluster} (hbeat : (Registrar.updateNodeStatus env (upNode clock node)
      node.tenantRef).run (api env) w = (.ok (), w')) :
    (VNode.reconcile (NodeRepository.keyOf node)).run (handle env) w = (({}, none), w') := by
  have hget : handle env (.getVNode (NodeRepository.keyOf node)) w =
      (.ok (upCR clock node), w) := by
    simp only [handle, find_some _ _ hstored]
  have htenant : (upNode clock node).tenantRef = node.tenantRef := tenantOf_upCR clock node
  have hcall : handle env (.updateNodeStatus (upNode clock node) (upNode clock node).tenantRef) w =
      (.ok (), w') := by
    rw [htenant]
    exact hbeat
  have hupdate : (updateStatus (VNode.nodeOf (upCR clock node))).run (handle env) w =
      (.ok (), w') := by
    change (syncNodeStatus (upNode clock node)).run (handle env) w = _
    unfold syncNodeStatus
    rw [Prog.run_bind, ask, Prog.run_perform, hcall]
    rfl
  unfold VNode.reconcile
  rw [Prog.run_bind, ask, Prog.run_perform, hget]
  dsimp only
  unfold VNode.reconcileCR
  rw [Prog.run_bind, hupdate]
  rfl

/-! ## Round after round -/

section

variable (env) (pool : Model.VNodePool) (cs : Clientset) (w : Cluster)

def registeredNode (i : Nat) : TenantNode :=
  written env (newNode pool i) (nodeAt (newNode pool i) cs w)

def servingNode (i : Nat) : TenantNode :=
  refreshed env (upNode w.clock (newNode pool i)) (registeredNode env pool cs w i)

/-- The clusters once the nodes in `done`, of `n` that came up from `w`, had a heartbeat. -/
structure Serving (n : Nat) (up : Cluster) (done : List Nat) (w' : Cluster) : Prop where
  frame : w' = { up with tenants := w'.tenants }
  fresh : ∀ i < n, i ∉ done →
    (w'.tenants cs).nodes.get (newNode pool i).name = some (registeredNode env pool cs w i)
  beaten : ∀ i < n, i ∈ done →
    (w'.tenants cs).nodes.get (newNode pool i).name = some (servingNode env pool cs w i)
  others : ∀ cs' name, (∀ i < n, ¬ (cs' = cs ∧ name = (newNode pool i).name)) →
    (w'.tenants cs').nodes.get name = (up.tenants cs').nodes.get name
  leases : ∀ cs' name, (w'.tenants cs').leases.get name = (up.tenants cs').leases.get name

end

section

variable {pool : Model.VNodePool} {up w' : Cluster} {n : Nat} {done : List Nat}

theorem Serving.start (hup : UpTo env pool cs w n { up with pools := w.pools }) :
    Serving env pool cs w n up [] up where
  frame := rfl
  fresh i hi _ := hup.nodes i hi
  beaten _ _ hmem := absurd hmem List.not_mem_nil
  others _ _ _ := rfl
  leases _ _ := rfl

/-- A reconcile of one of the nodes is a heartbeat of it, and none of the others. -/
theorem Serving.reconcile (hup : UpTo env pool cs w n { up with pools := w.pools })
    (hreach : Reachable env pool cs) (hserving : Serving env pool cs w n up done w') {i : Nat}
    (hi : i < n) :
    ∃ w'', (VNode.reconcile (NodeRepository.keyOf (newNode pool i))).run (handle env) w' =
        (({}, none), w'') ∧ Serving env pool cs w n up (i :: done) w'' := by
  let node := newNode pool i
  let lease := held node (leaseAt node cs w)
  obtain ⟨r, hr⟩ := hreach.parses
  have hshows : Shows env (upNode w.clock node)
      { name := "", capacity := r, allocatable := {} } := ⟨hr, rfl⟩
  obtain ⟨current, hcurrent, hrefreshed⟩ : ∃ current,
      (w'.tenants cs).nodes.get node.name = some current ∧
        refreshed env (upNode w.clock node) current = servingNode env pool cs w i := by
    by_cases hmem : i ∈ done
    · exact ⟨_, hserving.beaten i hi hmem, rfl⟩
    · exact ⟨_, hserving.fresh i hi hmem, rfl⟩
  have hlease : (w'.tenants cs).leases.get node.name = some lease :=
    (hserving.leases cs node.name).trans (hup.leases i hi)
  have hstored : w'.vnodes.get (NodeRepository.keyOf node) = some (upCR w.clock node) := by
    rw [hserving.frame]
    exact hup.stored i hi
  have hbeat := run_updateNodeStatus (w := w') hreach.connect hreach.secret hshows hcurrent hlease
  rw [hrefreshed] at hbeat
  have hheld : held (upNode w.clock node) lease = lease := rfl
  rw [hheld] at hbeat
  have hnodeName : (servingNode env pool cs w i).name = node.name := nodeAt_name node cs w
  have hleaseName : lease.name = node.name := Store.key_of_get hlease
  let w'' := (w'.putNode cs (servingNode env pool cs w i)).putLease cs lease
  have hnodes : ∀ cs' name, (w''.tenants cs').nodes.get name =
      if cs' = cs ∧ node.name = name then some (servingNode env pool cs w i)
      else (w'.tenants cs').nodes.get name :=
    fun cs' name => hnodeName ▸ (get_beat w' cs cs' _ lease name).1
  refine ⟨w'', run_reconcile_up hstored hbeat, ?_, ?_, ?_, ?_, ?_⟩
  · exact congrArg (fun c : Cluster => { c with tenants := w''.tenants }) hserving.frame
  · intro j hj hmem
    have hne : j ≠ i := fun he => hmem (he ▸ List.mem_cons_self)
    rw [hnodes, if_neg fun hsame => name_newNode_ne hne.symm hsame.2]
    exact hserving.fresh j hj fun hdone => hmem (List.mem_cons_of_mem i hdone)
  · intro j hj hmem
    rw [hnodes]
    by_cases hji : j = i
    · subst hji
      exact if_pos ⟨rfl, rfl⟩
    · rw [if_neg fun hsame => name_newNode_ne (Ne.symm hji) hsame.2]
      exact hserving.beaten j hj (List.mem_of_ne_of_mem hji hmem)
  · intro cs' name hother
    rw [hnodes, if_neg fun hsame => hother i hi ⟨hsame.1, hsame.2.symm⟩]
    exact hserving.others cs' name hother
  · intro cs' name
    rw [(get_beat w' cs cs' _ lease name).2, hleaseName]
    split
    · next hsame =>
        obtain ⟨rfl, rfl⟩ := hsame
        exact (hup.leases i hi).symm
    · exact hserving.leases cs' name

def beats (env : Env) (pool : Model.VNodePool) (is : List Nat) (w : Cluster) : Cluster :=
  is.foldl (fun w i =>
    ((VNode.reconcile (NodeRepository.keyOf (newNode pool i))).run (handle env) w).2) w

theorem Serving.beats (hup : UpTo env pool cs w n { up with pools := w.pools })
    (hreach : Reachable env pool cs) (is : List Nat) (his : ∀ i ∈ is, i < n)
    (hserving : Serving env pool cs w n up done w') :
    Serving env pool cs w n up (is.reverse ++ done) (beats env pool is w') := by
  induction is generalizing done w' with
  | nil => exact hserving
  | cons i is ih =>
      obtain ⟨w'', hrun, hserving'⟩ :=
        hserving.reconcile hup hreach (his i List.mem_cons_self)
      have hrest := ih (fun j hj => his j (List.mem_cons_of_mem i hj)) hserving'
      have hbeats : Pools.beats env pool (i :: is) w' = Pools.beats env pool is w'' := by
        rw [Pools.beats, List.foldl_cons, hrun]
        rfl
      rw [hbeats, List.reverse_cons, List.append_assoc]
      exact hrest

end

theorem mapTaints_eq (taints : List Taint) : VNodePool.mapTaints taints = taints :=
  List.map_id taints

/-- A pool without nodes whose tenant can be reached is in service once it and then each of its
nodes was reconciled: the tenant has every node, ready, with the taints of the pool and with its
resources as capacity and nothing allocatable, and its lease. -/
theorem pool_comes_into_service (env : Env) (cs : Clientset) (cr : VNodePoolCR) (w : Cluster)
    (hcr : w.pools.get cr.key = some cr) (hlive : cr.deletionTimestamp = none)
    (hvalid : (crToPoolModel cr).validate = .ok ()) (hsmall : cr.nodeCount < 2 ^ 31)
    (hreach : Reachable env (crToPoolModel cr) cs) (hfresh : Fresh (crToPoolModel cr) w)
    (is : List Nat) (his : ∀ i : Nat, i ∈ is ↔ (i : Int) < cr.nodeCount) :
    ∃ up, (VNodePool.reconcile cr.key).run (handle env) w = (({}, none), up) ∧
      BroughtUp env cs cr w up ∧
      let final := beats env (crToPoolModel cr) is up
      final = { up with tenants := final.tenants } ∧
      ∀ i : Nat, (i : Int) < cr.nodeCount →
        let name := (newNode (crToPoolModel cr) i).name
        (∃ n, (final.tenants cs).nodes.get name = some n ∧
          n.conditions = readyNodeConditions ∧ n.taints = cr.taints ∧
          Registrar.buildResources env cr.perNodeResources = .ok n.capacity ∧
          n.allocatable = {}) ∧
        ∃ lease, (final.tenants cs).leases.get name = some lease ∧
          lease.holderIdentity = name ∧ lease.leaseDurationSeconds = Registrar.leaseDuration := by
  obtain ⟨up, hrun, hup⟩ := reconcile_brings_up hcr hlive hvalid hsmall hreach hfresh
  have hserving := (Serving.start hup.nodes).beats hup.nodes hreach is
    fun i hi => by have := (his i).mp hi; omega
  refine ⟨up, hrun, hup, hserving.frame, ?_⟩
  intro i hi name
  have hi' : i < cr.nodeCount.toNat := by omega
  constructor
  · obtain ⟨r, hr⟩ := hreach.parses
    refine ⟨_, hserving.beaten i hi' (by simpa using (his i).mpr hi),
      upNode_conditions w.clock (newNode (crToPoolModel cr) i), mapTaints_eq cr.taints, ?_, ?_⟩
    · change _ = Except.ok (parsedResources env cr.perNodeResources)
      have hr' : Registrar.buildResources env cr.perNodeResources = .ok r := hr
      rw [parsedResources, hr']
    · -- the resource says nothing of what is allocatable
      rfl
  · exact ⟨_, (hserving.leases cs name).trans (hup.nodes.leases i hi'), rfl, rfl⟩

theorem visitingPool_comes_into_service :
    ∃ up, (VNodePool.reconcile visitingPool.key).run (handle Env.plain) visitedCluster =
        (({}, none), up) ∧
      ∀ name ∈ ["vnode-web-1", "vnode-web-2"],
        ∃ n, ((beats Env.plain (crToPoolModel visitingPool) [1, 0, 1] up).tenants
          ⟨"acme"⟩).nodes.get name = some n ∧ n.conditions = readyNodeConditions ∧
          n.taints = [⟨"dedicated", "web", "NoSchedule"⟩] ∧
          n.capacity = ⟨some ⟨"4", 0⟩, some ⟨"8Gi", 0⟩, some ⟨"110", 110⟩⟩ := by
  obtain ⟨up, hrun, _, _, hall⟩ := pool_comes_into_service Env.plain ⟨"acme"⟩ visitingPool
    visitedCluster (by decide) rfl rfl (by decide) reachable_visitingPool
    vacant_visitingPool.toFresh [1, 0, 1] (by
      intro i
      simp only [List.mem_cons, List.not_mem_nil, or_false, visitingPool]
      omega)
  have hresources : Registrar.buildResources Env.plain visitingPool.perNodeResources =
      .ok ⟨some ⟨"4", 0⟩, some ⟨"8Gi", 0⟩, some ⟨"110", 110⟩⟩ := by decide
  refine ⟨up, hrun, ?_⟩
  intro name hname
  have hnode : ∃ i : Nat, (i : Int) < visitingPool.nodeCount ∧
      (newNode (crToPoolModel visitingPool) i).name = name := by
    rcases List.mem_cons.mp hname with rfl | hname
    · exact ⟨0, by decide, rfl⟩
    · rw [List.mem_singleton.mp hname]
      exact ⟨1, by decide, rfl⟩
  obtain ⟨i, hi, rfl⟩ := hnode
  obtain ⟨⟨n, hn, hready, htaints, hcapacity, _⟩, _⟩ := hall i hi
  exact ⟨n, hn, hready, htaints, (Except.ok.inj (hresources.symm.trans hcapacity)).symm⟩

end VNodeOperator.Pools
