import VNodeOperator.Pass.Rule
import VNodeOperator.Service.NodeService

/-!
# Live workloads stay

A pass does not delete the host pod of a source pod that is alive, bound to a
ready node and up to date on the host, whatever calls of the pass fail.
Readiness of the node is essential: a failed heartbeat makes the node unready,
and the next pass takes its workloads for orphans.
-/

namespace VNodeOperator.Pass

open Model Kube Adapter Ports ProofSupport Service NodeService PodExecution

variable {env : Env} {translator : PodService} {cs : Clientset} {pool : VNodePool}
  {p : CorePod} {w : Cluster}

theorem mem_readyNames (env : Env) {n : VNodeCR} (hn : n ∈ w.poolVNodes pool.ns pool.name)
    (hready : (NodeRepository.crToNode n).isReady = true) :
    n.name ∈ readyNames ((env.order (w.poolVNodes pool.ns pool.name)).map
      NodeRepository.crToNode) := by
  have hmem : n ∈ env.order (w.poolVNodes pool.ns pool.name) :=
    (env.order_perm _).mem_iff.mpr hn
  rw [readyNames, List.mem_map]
  exact ⟨NodeRepository.crToNode n,
    List.mem_filter.mpr ⟨List.mem_map_of_mem hmem, hready⟩, rfl⟩

theorem mem_sourcePods (env : Env) {n : VNodeCR} (hp : p ∈ (w.tenants cs).pods.items)
    (hdeletion : p.deletionTimestamp = none)
    (hunmanaged : p.labels.at labelManagedBy ≠ labelManagedByValue)
    (hn : n ∈ w.poolVNodes pool.ns pool.name) (hbound : n.name = p.nodeName)
    (hready : (NodeRepository.crToNode n).isReady = true) :
    p ∈ sourcePods env w cs pool := by
  have hname := mem_readyNames env hn hready
  rw [hbound] at hname
  exact List.mem_filter.mpr ⟨hp, by simp [isSourcePod, hunmanaged, hdeletion, hname]⟩

/-- The host pod of `p` is as it was, no other pod to come has its name, and `p`
is still to come or marked as desired. -/
structure KeepsHostPod (pool : VNodePool) (p : CorePod) (cur : HostPod)
    (rest : List CorePod) (desired : List String) (w : Cluster) : Prop where
  host : w.hostPods.get (targetKey pool p) = some cur
  others : ∀ q ∈ rest, q ≠ p → targetKey pool q ≠ targetKey pool p
  marked : p ∈ rest ∨ keyForPod pool.ns (targetKey pool p).name ∈ desired

theorem KeepsHostPod.step {cur : HostPod} {q : CorePod} {rest : List CorePod}
    {desired : List String} (hlive : isTerminalPod p = false)
    (hequal : podSpecsEqual cur.spec (targetPod translator pool p) = true)
    (hI : KeepsHostPod pool p cur (q :: rest) desired w) :
    (∀ c, PodCall translator cs pool q w c → c ≠ .deletePod (targetKey pool p)) ∧
      ∀ w', PodStep env translator cs pool q w w' →
        KeepsHostPod pool p cur rest
          (keyForPod pool.ns (targetKey pool q).name :: desired) w' := by
  have hothers : ∀ r ∈ rest, r ≠ p → targetKey pool r ≠ targetKey pool p :=
    fun r hr => hI.others r (List.mem_cons_of_mem q hr)
  by_cases hq : q = p
  · subst hq
    have hdrift : ¬(isTerminalPod q = true ∨ Drifted translator pool q w) := by
      rintro (hterminal | ⟨cur', hcur', _, hdrifted⟩)
      · rw [hlive] at hterminal
        cases hterminal
      · rw [hI.host, Option.some.injEq] at hcur'
        rw [← hcur', hequal] at hdrifted
        cases hdrifted
    refine ⟨?_, ?_⟩
    · intro c hc heq
      rw [heq] at hc
      exact hdrift hc.2
    · intro w' hstep
      refine ⟨?_, hothers, Or.inr List.mem_cons_self⟩
      rcases hstep.hostPods with hsame | ⟨_, hnone, _⟩ | ⟨hreason, _⟩
      · rw [hsame]
        exact hI.host
      · rw [hI.host] at hnone
        cases hnone
      · exact absurd hreason hdrift
  · have hne := hI.others q List.mem_cons_self hq
    refine ⟨?_, ?_⟩
    · intro c hc heq
      rw [heq] at hc
      exact hne hc.1.symm
    · intro w' hstep
      refine ⟨(hstep.get_hostPods_ne hne).trans hI.host, hothers, ?_⟩
      rcases hI.marked with hmem | hmem
      · rcases List.mem_cons.mp hmem with heq | hmem
        · exact absurd heq.symm hq
        · exact Or.inl hmem
      · exact Or.inr (List.mem_cons_of_mem _ hmem)

theorem KeepsHostPod.not_orphan {cur hp : HostPod} {desired : List String}
    (hI : KeepsHostPod pool p cur [] desired w) (horphan : Orphan pool desired hp) :
    Call.deletePod hp.key ≠ .deletePod (targetKey pool p) := by
  intro heq
  have hmarked : keyForPod pool.ns (targetKey pool p).name ∈ desired := by
    rcases hI.marked with hmem | hmem
    · cases hmem
    · exact hmem
  have hkey : hp.key = targetKey pool p := by simpa using heq
  have hns : hp.spec.ns = pool.ns := congrArg ObjKey.ns hkey
  have hname : hp.spec.name = (targetKey pool p).name := congrArg ObjKey.name hkey
  apply horphan.2.2
  rw [hns, hname]
  exact hmarked

/-- For every state and every pattern of failing calls, the host pod of a live
source pod bound to a ready node is not deleted if it equals its translation
and no other source pod of the pass has the same translated name. -/
theorem reconcilePool_keeps_live_workload (env : Env) (translator : PodService)
    (pool : VNodePool) (w : Cluster) (plan : FaultPlan Err) (cs : Clientset) (p : CorePod)
    (n : VNodeCR) (cur : HostPod) (hconnect : env.connect pool.tenantRef = .ok cs)
    (hp : p ∈ (w.tenants cs).pods.items) (hdeletion : p.deletionTimestamp = none)
    (hlive : isTerminalPod p = false)
    (hunmanaged : p.labels.at labelManagedBy ≠ labelManagedByValue)
    (hn : n ∈ w.poolVNodes pool.ns pool.name) (hbound : n.name = p.nodeName)
    (hready : (NodeRepository.crToNode n).isReady = true)
    (hcur : w.hostPods.get (targetKey pool p) = some cur)
    (hequal : podSpecsEqual cur.spec (targetPod translator pool p) = true)
    (hdistinct : ∀ q ∈ sourcePods env w cs pool, q ≠ p →
      targetKey pool q ≠ targetKey pool p) :
    Call.deletePod (targetKey pool p) ∉
      (reconcilePool translator pool).calls (withFaults (handle env)) (w, plan) := by
  have hmem := mem_sourcePods env hp hdeletion hunmanaged hn hbound hready
  have hrobust : Robust (handle env) (fun c => c ≠ .deletePod (targetKey pool p))
      (reconcilePool translator pool) (fun _ _ => True) w := by
    refine robust_reconcilePool (KeepsHostPod pool p cur) (fun _ => True) ?_ trivial
      (fun _ _ _ _ => trivial) ?_ ?_ ?_
    · intro c hc heq
      rw [heq] at hc
      cases hc
    · intro cs' hcs'
      rw [hconnect, Except.ok.injEq] at hcs'
      rw [← hcs']
      exact ⟨hcur, hdistinct, Or.inl hmem⟩
    · intro cs' _ q rest desired w' hI
      exact hI.step hlive hequal
    · intro desired w' hI
      refine ⟨fun _ => True, trivial, fun _ _ => trivial, ?_⟩
      intro hp' _ horphan
      exact ⟨hI.not_orphan horphan, fun _ _ => trivial⟩
  intro hcall
  exact (hrobust plan).1 _ hcall rfl

/-! ## A short outage -/

def webPod : CorePod where
  name := "shop"
  ns := "prod"
  uid := "1"
  nodeName := "vnode-web-1"
  status := { phase := .running }

def webTranslator : PodService := ⟨"kata"⟩

def webCluster : Cluster :=
  ((reconcilePool webTranslator (acmePool 1)).run (handle Env.plain)
    (acmeCluster { pods := Store.empty.put webPod })).2

/-- The clusters of `webCluster` after one heartbeat of the node timed out. -/
def webOutage : Cluster :=
  let node := (webCluster.vnodes.get ⟨"host", "vnode-web-1"⟩).map NodeRepository.crToNode
  let plan : FaultPlan Err := fun n => if n = 0 then some ⟨⟨.other, "timeout"⟩, false⟩ else none
  ((NodeService.updateStatus (node.getD NodeService.zeroNode)).run
    (withFaults (handle Env.plain)) (webCluster, plan)).2.1

/-- The pod is alive and its node is not terminating, yet the next pass deletes
its host pod. -/
theorem outage_deletes_live_workload :
    ∃ p ∈ (webOutage.tenants ⟨"acme"⟩).pods.items,
      p.deletionTimestamp = none ∧ isTerminalPod p = false ∧
      p.labels.at labelManagedBy ≠ labelManagedByValue ∧
      (∃ n ∈ webOutage.poolVNodes (acmePool 1).ns (acmePool 1).name,
        n.name = p.nodeName ∧ n.phase ≠ .terminating) ∧
      (∃ cur ∈ webOutage.hostPods.items, cur.key = targetKey (acmePool 1) p ∧
        podSpecsEqual cur.spec (targetPod webTranslator (acmePool 1) p) = true) ∧
      Call.deletePod (targetKey (acmePool 1) p) ∈
        (reconcilePool webTranslator (acmePool 1)).calls (handle Env.plain) webOutage := by
  decide

theorem webCluster_keeps_live_workload :
    Call.deletePod (targetKey (acmePool 1) webPod) ∉
      (reconcilePool webTranslator (acmePool 1)).calls (withFaults (handle Env.plain))
        (webCluster, fun _ => none) :=
  reconcilePool_keeps_live_workload Env.plain webTranslator (acmePool 1) webCluster (fun _ => none)
    ⟨"acme"⟩ (withPodStatus webPod { phase := .pending })
    (webCluster.vnodes.items.head (by decide)) (webCluster.hostPods.items.head (by decide))
    rfl (by decide) rfl rfl (by decide) (by decide) (by decide) (by decide) (by decide)
    (by decide) (by decide)

end VNodeOperator.Pass
