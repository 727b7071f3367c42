import VNodeOperator.Pass.Stabilization
import VNodeOperator.Pools.BringUp

/-!
# From a pool to running pods

The pool controller brings the nodes of a pool up, the tenant's scheduler binds pods to
them, and the pod controller runs those pods on the host: what the two controllers do
together for a pool that is new on the host.
-/

namespace VNodeOperator.Pools

open Model Kube Adapter Ports ProofSupport Service Reconciler Nodes Pass
open NodeService PodExecution
open Reconciler.VNodePool (crToPoolModel)

/-- A pod that the scheduler of the tenant has bound to a node of the pool. -/
structure BoundTo (pool : Model.VNodePool) (p : CorePod) : Prop where
  node : ∃ i : Nat, (i : Int) < pool.nodeCount ∧ p.nodeName = (newNode pool i).name
  kept : p.deletionTimestamp = none
  foreign : p.labels.at labelManagedBy ≠ labelManagedByValue

theorem BoundTo.withStatus {pool : Model.VNodePool} {p : CorePod} (phase : PoolPhase)
    (readyNodes : Int) :
    BoundTo { pool with phase := phase, readyNodes := readyNodes } p ↔ BoundTo pool p :=
  ⟨fun h => ⟨h.node, h.kept, h.foreign⟩, fun h => ⟨h.node, h.kept, h.foreign⟩⟩

/-- The pods of `v` that are bound to nodes of the pool have started on the host, and the
host runs nothing else in the pool's namespace. -/
structure Hosted (translator : PodService) (cs : Clientset) (pool : Model.VNodePool)
    (v final : Cluster) : Prop where
  running : ∀ p ∈ (v.tenants cs).pods.items, BoundTo pool p → isTerminalPod p = false →
    ∃ hp, final.hostPods.get (targetKey pool p) = some hp ∧
      podSpecsEqual hp.spec (targetPod translator pool p) = true ∧
      hp.status = { phase := .pending } ∧
      (final.tenants cs).pods.get p.key = some (withPodStatus p hp.status)
  nothingElse : ∀ hp ∈ final.hostPods.items, hp.spec.ns = pool.ns →
    ∃ p ∈ (v.tenants cs).pods.items, BoundTo pool p ∧ isTerminalPod p = false ∧
      hp.key = targetKey pool p
  untouched : ∀ p ∈ (v.tenants cs).pods.items, ¬ BoundTo pool p →
    (final.tenants cs).pods.get p.key = some p

section

variable {env : Env} {translator : PodService} {cs : Clientset} {pool : Model.VNodePool}
  {cr : VNodePoolCR} {w up v final : Cluster} {n : Nat}

/-! ## The pods of a pool that came up -/

theorem isReady_upCR (clock : Int) (node : VNode) :
    (NodeRepository.crToNode (upCR clock node)).isReady = true ∧
      (NodeRepository.crToNode (upCR clock node)).name = node.name :=
  ⟨rfl, rfl⟩

theorem UpTo.mem_readyNames (hup : UpTo env pool cs w n up) (hsize : poolSize w pool = 0)
    (name : String) :
    name ∈ readyNames ((env.order (up.poolVNodes pool.ns pool.name)).map
        NodeRepository.crToNode) ↔
      ∃ i < n, name = (newNode pool i).name := by
  have hmem : ∀ cr, cr ∈ env.order (up.poolVNodes pool.ns pool.name) ↔
      ∃ i < n, cr = upCR w.clock (newNode pool i) := by
    intro cr
    rw [(env.order_perm _).mem_iff, hup.mem_poolVNodes hsize]
  simp only [readyNames, List.mem_map, List.mem_filter, hmem]
  constructor
  · rintro ⟨_, ⟨⟨_, ⟨i, hi, rfl⟩, rfl⟩, _⟩, rfl⟩
    exact ⟨i, hi, (isReady_upCR _ _).2⟩
  · rintro ⟨i, hi, rfl⟩
    exact ⟨_, ⟨⟨_, ⟨i, hi, rfl⟩, rfl⟩, (isReady_upCR _ _).1⟩, (isReady_upCR _ _).2⟩

theorem UpTo.mem_sourcePods (hup : UpTo env pool cs w pool.nodeCount.toNat up)
    (hsize : poolSize w pool = 0) (hvnodes : v.vnodes = up.vnodes) {p : CorePod} :
    p ∈ sourcePods env v cs pool ↔ p ∈ (v.tenants cs).pods.items ∧ BoundTo pool p := by
  have hready := hup.mem_readyNames hsize p.nodeName
  rw [sourcePods, List.mem_filter, Cluster.poolVNodes, hvnodes]
  rw [Cluster.poolVNodes] at hready
  simp only [isSourcePod, hready, decide_eq_true_eq]
  constructor
  · rintro ⟨hp, hforeign, hkept, i, hi, hname⟩
    exact ⟨hp, ⟨i, by omega, hname⟩, hkept, hforeign⟩
  · rintro ⟨hp, ⟨i, hi, hname⟩, hkept, hforeign⟩
    exact ⟨hp, hforeign, hkept, i, by omega, hname⟩

/-! ## The first pass -/

/-- In a namespace without pods, a pass creates the pods of the unfinished source pods. -/
theorem hosted_of_pass (haccepts : Accepting env translator pool)
    (hempty : ∀ hp ∈ v.hostPods.items, hp.spec.ns ≠ pool.ns)
    (hsource : ∀ p, p ∈ sourcePods env v cs pool ↔
      p ∈ (v.tenants cs).pods.items ∧ BoundTo pool p)
    (hpass : PassSpec env translator cs pool v final) :
    Hosted translator cs pool v final := by
  have hnone : ∀ k : ObjKey, k.ns = pool.ns → v.hostPods.get k = none := by
    intro k hk
    rw [Store.get_eq_none_iff]
    rintro hp hhp rfl
    exact hempty hp hhp hk
  refine ⟨?_, ?_, ?_⟩
  · intro p hp hbound hlive
    obtain ⟨shown, hshown, hequal, _⟩ := haccepts p
    have hmem := (hsource p).mpr ⟨hp, hbound⟩
    have hcreated : createdPod env translator pool p = some ⟨shown, { phase := .pending }⟩ := by
      rw [createdPod, hshown]
    refine ⟨⟨shown, { phase := .pending }⟩, ?_, hequal, rfl, ?_⟩
    · rw [hpass.hostPod p hmem, hnone _ rfl]
      simp [hostAfter, hlive, hcreated]
    · rw [hpass.tenantPod p hmem, hnone _ rfl]
      simp [reportedStatus, hlive, hcreated, showing]
  · intro hp hhp hns
    have hget := Store.get_of_mem hhp
    by_cases htarget : ∃ p ∈ sourcePods env v cs pool, targetKey pool p = hp.key
    · obtain ⟨p, hmem, hkey⟩ := htarget
      obtain ⟨hp', hbound⟩ := (hsource p).mp hmem
      refine ⟨p, hp', hbound, ?_, hkey.symm⟩
      rw [← hkey, hpass.hostPod p hmem, hnone _ rfl] at hget
      cases hterminal : isTerminalPod p with
      | false => rfl
      | true => simp [hostAfter, hterminal] at hget
    · push Not at htarget
      have hoff := hnone hp.key hns
      rw [hpass.otherHostPod hp.key htarget (fun old h => by rw [hoff] at h; cases h), hoff] at hget
      cases hget
  · intro p hp hfree
    have hother : ∀ q ∈ sourcePods env v cs pool, q.key ≠ p.key := by
      intro q hq hkey
      obtain ⟨hq', hbound⟩ := (hsource q).mp hq
      have hsame := List.inj_on_of_nodup_map (v.tenants cs).pods.nodup hq' hp hkey
      exact hfree (hsame ▸ hbound)
    rw [hpass.otherTenantPod p.key hother]
    exact Store.get_of_mem hp

theorem nodup_targetKeys
    (hsource : ∀ p, p ∈ sourcePods env v cs pool ↔
      p ∈ (v.tenants cs).pods.items ∧ BoundTo pool p)
    (hdistinct : ∀ p ∈ (v.tenants cs).pods.items, ∀ q ∈ (v.tenants cs).pods.items,
      BoundTo pool p → BoundTo pool q → targetKey pool p = targetKey pool q → p = q) :
    ((sourcePods env v cs pool).map (targetKey pool)).Nodup := by
  have hnodup : (sourcePods env v cs pool).Nodup :=
    ((v.tenants cs).pods.nodup.of_map _).sublist List.filter_sublist
  refine hnodup.map_on ?_
  intro p hp q hq hkey
  obtain ⟨hp, hbound⟩ := (hsource p).mp hp
  obtain ⟨hq, hbound'⟩ := (hsource q).mp hq
  exact hdistinct p hp q hq hbound hbound' hkey

theorem run_podSync_reconcile (hcr : v.pools.get cr.key = some cr)
    (hvalid : (crToPoolModel cr).validate = .ok ()) (hlive : cr.deletionTimestamp = none)
    (hphase : cr.status.phase ≠ .failed)
    {result : PodExecutionResult}
    (hpass : (reconcilePool translator (crToPoolModel cr)).run (handle env) v =
      ((result, none), passed env translator cs (crToPoolModel cr) v)) :
    ∃ final, (PodSync.reconcile translator cr.key).run (handle env) v =
        (({ requeueAfter := 2 * second }, none), final) ∧
      final = { passed env translator cs (crToPoolModel cr) v with pools := final.pools } ∧
      ∃ cr' message, final.pools.get cr.key = some cr' ∧
        settingOf "PodExecutionReady" cr'.status.conditions =
          some (.true, "PodExecutionReady", message) := by
  have hh := hostAnswers_handle env
  have hpools : (passed env translator cs (crToPoolModel cr) v).pools = v.pools := by
    rw [passed_rest]
  obtain ⟨final, hstatus, hframe, ⟨version, hpool⟩, _⟩ := hh.run_statusUpdate (hpools ▸ hcr)
    (statusUpdate_updateExecutionConditions cr.key .true .false "PodExecutionReady"
      ("Processed " ++ toString result.sourcePods ++ " tenant pods"))
  refine ⟨final, ?_, hframe, _, _, hpool, podExecutionReady_executionStatus _ _ _ _ _ _⟩
  unfold PodSync.reconcile
  rw [Prog.run_bind, ask, Prog.run_perform, hh.getVNodePool hcr]
  dsimp only
  rw [hvalid]
  dsimp only
  rw [if_neg (by simp [hlive]), if_neg (show (crToPoolModel cr).phase ≠ .failed from hphase)]
  unfold PodSync.execute
  rw [Prog.run_bind, hpass]
  dsimp only
  rw [Prog.run_bind, hstatus]
  rfl

theorem run_podSync_hosts (hcr : v.pools.get cr.key = some cr)
    (hvalid : (crToPoolModel cr).validate = .ok ()) (hlive : cr.deletionTimestamp = none)
    (hphase : cr.status.phase ≠ .failed)
    (hconnect : env.connect (crToPoolModel cr).tenantRef = .ok cs)
    (haccepts : Accepting env translator (crToPoolModel cr)) (hns : cr.ns ≠ "")
    (hempty : ∀ hp ∈ v.hostPods.items, hp.spec.ns ≠ cr.ns)
    (hsource : ∀ p, p ∈ sourcePods env v cs (crToPoolModel cr) ↔
      p ∈ (v.tenants cs).pods.items ∧ BoundTo (crToPoolModel cr) p)
    (hdistinct : ((sourcePods env v cs (crToPoolModel cr)).map
      (targetKey (crToPoolModel cr))).Nodup) :
    ∃ final, (PodSync.reconcile translator cr.key).run (handle env) v =
        (({ requeueAfter := 2 * second }, none), final) ∧
      Hosted translator cs (crToPoolModel cr) v final ∧
      ∃ cr' message, final.pools.get cr.key = some cr' ∧
        settingOf "PodExecutionReady" cr'.status.conditions =
          some (.true, "PodExecutionReady", message) := by
  have hhosted := hosted_of_pass haccepts hempty hsource
    (passSpec_passed env translator cs v hns hdistinct)
  rcases run_reconcilePool translator v hconnect with
    ⟨result, hpass⟩ | ⟨p, _, err, _, _, hrejects, _⟩
  · obtain ⟨final, hreconcile, hframe, hreported⟩ :=
      run_podSync_reconcile hcr hvalid hlive hphase hpass
    refine ⟨final, hreconcile, ?_, hreported⟩
    rw [hframe]
    exact ⟨hhosted.running, hhosted.nothingElse, hhosted.untouched⟩
  · obtain ⟨shown, hshown, _⟩ := haccepts p
    rw [Rejects, hshown] at hrejects
    cases hrejects

end

/-- A valid pool that is new on the host, reconciled by the pool controller and then, after
the tenant has bound pods to its nodes, by the pod controller: every unfinished pod bound to
a node of the pool has started on the host, and the tenant is told so. -/
theorem scheduled_pods_start (env : Env) (translator : PodService) (cs : Clientset)
    (cr : VNodePoolCR) (w : Cluster) (hcr : w.pools.get cr.key = some cr)
    (hlive : cr.deletionTimestamp = none) (hvalid : (crToPoolModel cr).validate = .ok ())
    (hsmall : cr.nodeCount < 2 ^ 31) (hreach : Reachable env (crToPoolModel cr) cs)
    (hfresh : Fresh (crToPoolModel cr) w) (hns : cr.ns ≠ "")
    (hempty : ∀ hp ∈ w.hostPods.items, hp.spec.ns ≠ cr.ns)
    (haccepts : Accepting env translator (crToPoolModel cr))
    (tenants : Clientset → TenantCluster)
    (hdistinct : ∀ p ∈ (tenants cs).pods.items, ∀ q ∈ (tenants cs).pods.items,
      BoundTo (crToPoolModel cr) p → BoundTo (crToPoolModel cr) q →
      targetKey (crToPoolModel cr) p = targetKey (crToPoolModel cr) q → p = q) :
    ∃ up final,
      (VNodePool.reconcile cr.key).run (handle env) w = (({}, none), up) ∧
      (PodSync.reconcile translator cr.key).run (handle env) { up with tenants := tenants } =
        (({ requeueAfter := 2 * second }, none), final) ∧
      Hosted translator cs (crToPoolModel cr) { up with tenants := tenants } final ∧
      ∃ cr' message, final.pools.get cr.key = some cr' ∧
        settingOf "PodExecutionReady" cr'.status.conditions =
          some (.true, "PodExecutionReady", message) := by
  obtain ⟨up, hrun, hup⟩ := reconcile_brings_up hcr hlive hvalid hsmall hreach hfresh
  obtain ⟨cr', hcr', hpool⟩ := hup.pool
  -- the pod controller reads the resource with its new status
  have hspec := hpool.spec
  have hphase := hpool.phase
  unfold SameSpec at hspec
  generalize cr'.resourceVersion = version, cr'.finalizers = finalizers, cr'.status = status
    at hspec hphase
  subst hspec
  let pool : Model.VNodePool :=
    { crToPoolModel cr with phase := status.phase, readyNodes := status.readyNodes }
  let stored : VNodePoolCR :=
    { cr with resourceVersion := version, finalizers := finalizers, status := status }
  let v : Cluster := { up with tenants := tenants }
  have hstored : v.pools.get stored.key = some stored := hcr'
  have hbound : ∀ p, BoundTo pool p ↔ BoundTo (crToPoolModel cr) p :=
    fun p => BoundTo.withStatus status.phase status.readyNodes
  have hsource : ∀ p, p ∈ sourcePods env v cs pool ↔
      p ∈ (v.tenants cs).pods.items ∧ BoundTo pool p := by
    intro p
    rw [hbound]
    exact hup.nodes.mem_sourcePods hfresh.size (show v.vnodes = up.vnodes from rfl)
  have hempty' : ∀ hp ∈ v.hostPods.items, hp.spec.ns ≠ pool.ns := by
    have hframe := congrArg Cluster.hostPods hup.nodes.frame
    have hhostPods : up.hostPods = w.hostPods := hframe
    change ∀ hp ∈ up.hostPods.items, hp.spec.ns ≠ cr.ns
    rw [hhostPods]
    exact hempty
  have hdistinct' := nodup_targetKeys hsource fun p hp q hq hboundP hboundQ hkey =>
    hdistinct p hp q hq ((hbound p).mp hboundP) ((hbound q).mp hboundQ) hkey
  have hrunning : stored.status.phase ≠ .failed := by
    rw [show stored.status.phase = .ready from hphase]
    decide
  obtain ⟨final, hreconcile, hhosted, hreported⟩ := run_podSync_hosts hstored hvalid hlive
    hrunning hreach.connect haccepts hns hempty' hsource hdistinct'
  refine ⟨up, final, hrun, hreconcile, ⟨?_, ?_, ?_⟩, hreported⟩
  · intro p hp hb
    exact hhosted.running p hp ((hbound p).mpr hb)
  · intro hp hhp hns
    obtain ⟨p, hp', hb, hrest⟩ := hhosted.nothingElse hp hhp hns
    exact ⟨p, hp', (hbound p).mp hb, hrest⟩
  · intro p hp hb
    exact hhosted.untouched p hp (mt (hbound p).mp hb)

def visitingTenant : TenantCluster where
  pods := (Store.empty.put (boundPod "shop" "shop:1")).put
    { boundPod "api" "api:1" with nodeName := "vnode-web-2" }

theorem visitingPool_pods_start :
    ∃ up final,
      (VNodePool.reconcile visitingPool.key).run (handle Env.plain) visitedCluster =
        (({}, none), up) ∧
      (PodSync.reconcile ⟨"kata"⟩ visitingPool.key).run (handle Env.plain)
        { up with tenants := fun _ => visitingTenant } =
        (({ requeueAfter := 2 * second }, none), final) ∧
      ∀ p ∈ visitingTenant.pods.items, ∃ hp,
        final.hostPods.get (targetKey (crToPoolModel visitingPool) p) = some hp ∧
          hp.status = { phase := .pending } := by
  obtain ⟨up, final, hup, hfinal, hhosted, _⟩ := scheduled_pods_start Env.plain ⟨"kata"⟩
    ⟨"acme"⟩ visitingPool visitedCluster (by decide) rfl rfl (by decide) reachable_visitingPool
    vacant_visitingPool.toFresh (by decide) (by decide)
    (fun _ => ⟨_, rfl, podSpecsEqual_refl _, rfl⟩) (fun _ => visitingTenant)
    (by
      have hkeys : ∀ p ∈ visitingTenant.pods.items, ∀ q ∈ visitingTenant.pods.items,
          targetKey (crToPoolModel visitingPool) p = targetKey (crToPoolModel visitingPool) q →
            p = q := by decide
      exact fun p hp q hq _ _ => hkeys p hp q hq)
  refine ⟨up, final, hup, hfinal, ?_⟩
  have hnames : ∀ p ∈ visitingTenant.pods.items, ∃ i < 2,
      p.nodeName = (newNode (crToPoolModel visitingPool) i).name := by decide
  have hrest : ∀ p ∈ visitingTenant.pods.items, p.deletionTimestamp = none ∧
      p.labels.at labelManagedBy ≠ labelManagedByValue ∧ isTerminalPod p = false := by decide
  intro p hp
  obtain ⟨i, hi, hname⟩ := hnames p hp
  obtain ⟨hkept, hforeign, hlive⟩ := hrest p hp
  obtain ⟨hp', hget, _, hpending, _⟩ := hhosted.running p hp
    ⟨⟨i, Int.ofNat_lt.mpr hi, hname⟩, hkept, hforeign⟩ hlive
  exact ⟨hp', hget, hpending⟩

end VNodeOperator.Pools
