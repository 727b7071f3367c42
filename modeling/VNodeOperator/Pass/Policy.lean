import VNodeOperator.Pass.Target
import VNodeOperator.ProofSupport.Faults
import VNodeOperator.Reconciler.VNodePool

/-!
# The pool's policy on its host pods

What a `VNodePool` resource says about the host pods of its tenant: their
runtime class, node selector and tolerations.  The way from the resource to the
core pod leads through four conversions, of which two lose something: the
isolation backend is not consulted, and tolerations are not passed on.
-/

namespace VNodeOperator.Pass

open Model Kube Adapter Ports ProofSupport Service PodExecution
open Reconciler.VNodePool (crToPoolModel)

/-- The runtime class the resource documents: its own, or that of the isolation
backend, or the operator's. -/
def documentedRuntimeClass (cr : VNodePoolCR) (operatorDefault : String) : String :=
  if cr.runtimeClassName ≠ "" then cr.runtimeClassName
  else if cr.isolationBackend ≠ "" then cr.isolationBackend
  else operatorDefault

/-- Only pods of dedicated and burstable pools are pinned. -/
def documentedNodeSelector (cr : VNodePoolCR) : StringMap :=
  if cr.mode = .dedicated ∨ cr.mode = .burstable then cr.nodeSelector else ∅

structure FollowsPolicy (cr : VNodePoolCR) (operatorDefault : String) (pod : CorePod) : Prop where
  runtimeClassName : pod.runtimeClassName =
    PodClient.stringPtrOrNil (documentedRuntimeClass cr operatorDefault)
  nodeSelector : pod.nodeSelector = documentedNodeSelector cr
  tolerations : pod.tolerations = cr.tolerations

/-- Where the two losses do not show. -/
def PolicyKept (cr : VNodePoolCR) (operatorDefault : String) : Prop :=
  (cr.runtimeClassName ≠ "" ∨ cr.isolationBackend = "" ∨ cr.isolationBackend = operatorDefault) ∧
    cr.tolerations = []

theorem stringPtrOrNil_inj {a b : String}
    (h : PodClient.stringPtrOrNil a = PodClient.stringPtrOrNil b) : a = b := by
  unfold PodClient.stringPtrOrNil at h
  split at h <;> split at h <;> simp_all

/-! ## From the resource to the core pod -/

section

variable {env : Env} {translator : PodService} {cr : VNodePoolCR} {p : CorePod} {core : CorePod}

/-- The core pod keeps what the translation says, and has no toleration. -/
theorem core_of_podSpecToK8sPod {pod : PodSpec}
    (h : PodClient.podSpecToK8sPod env pod = .ok core) :
    core.runtimeClassName = PodClient.stringPtrOrNil pod.runtimeClassName ∧
      core.nodeSelector = pod.nodeSelector ∧ core.tolerations = [] := by
  unfold PodClient.podSpecToK8sPod at h
  cases hcontainers : pod.containers.mapM (PodClient.containerToK8s env) with
  | error err =>
      rw [hcontainers] at h
      cases h
  | ok containers =>
      rw [hcontainers] at h
      cases h
      exact ⟨rfl, rfl, rfl⟩

theorem targetPod_runtimeClassName :
    (targetPod translator (crToPoolModel cr) p).runtimeClassName =
      if cr.runtimeClassName ≠ "" then cr.runtimeClassName else translator.runtimeClassName :=
  rfl

theorem targetPod_nodeSelector :
    (targetPod translator (crToPoolModel cr) p).nodeSelector = documentedNodeSelector cr := rfl

theorem runtimeClass_documented_iff (operatorDefault : String) :
    (if cr.runtimeClassName ≠ "" then cr.runtimeClassName else operatorDefault) =
        documentedRuntimeClass cr operatorDefault ↔
      cr.runtimeClassName ≠ "" ∨ cr.isolationBackend = "" ∨
        cr.isolationBackend = operatorDefault := by
  unfold documentedRuntimeClass
  by_cases hclass : cr.runtimeClassName = ""
  · by_cases hbackend : cr.isolationBackend = ""
    · simp [hclass, hbackend]
    · simp [hclass, hbackend, eq_comm]
  · simp [hclass]

theorem followsPolicy_iff
    (hcore : PodClient.podSpecToK8sPod env (targetPod translator (crToPoolModel cr) p) =
      .ok core) :
    FollowsPolicy cr translator.runtimeClassName core ↔
      PolicyKept cr translator.runtimeClassName := by
  obtain ⟨hclass, hselector, htolerations⟩ := core_of_podSpecToK8sPod hcore
  rw [targetPod_runtimeClassName] at hclass
  rw [targetPod_nodeSelector] at hselector
  constructor
  · intro hpolicy
    have hruntime := hclass.symm.trans hpolicy.runtimeClassName
    exact ⟨(runtimeClass_documented_iff _).mp (stringPtrOrNil_inj hruntime),
      hpolicy.tolerations.symm.trans htolerations⟩
  · rintro ⟨hruntime, hnone⟩
    rw [(runtimeClass_documented_iff _).mpr hruntime] at hclass
    exact ⟨hclass, hselector, htolerations.trans hnone.symm⟩

end

/-! ## The pods a pass creates -/

/-- Every core pod a pass over the tenant hands to the host follows the pool's
policy exactly when the policy names no toleration and no isolation backend of
its own. -/
theorem created_follows_policy_iff (env : Env) (translator : PodService) (cr : VNodePoolCR)
    (w : Cluster) (plan : FaultPlan Err) (pod : PodSpec) (core : CorePod)
    (hcreate : Call.createPod pod ∈ (reconcilePool translator (crToPoolModel cr)).calls
      (withFaults (handle env)) (w, plan))
    (hcore : PodClient.podSpecToK8sPod env pod = .ok core) :
    FollowsPolicy cr translator.runtimeClassName core ↔
      PolicyKept cr translator.runtimeClassName := by
  obtain ⟨p, rfl⟩ := createsOnly_reconcilePool.calls _ _ _ hcreate pod rfl
  exact followsPolicy_iff hcore

/-! ### A pool that asks for another runtime -/

def acmeCR (isolationBackend : String) (tolerations : List Toleration) : VNodePoolCR where
  name := "web"
  ns := "host"
  tenantRef := (NodeService.acmePool 1).tenantRef
  nodeCount := 1
  isolationBackend := isolationBackend
  tolerations := tolerations

def policyPod : CorePod where
  name := "shop"
  ns := "prod"
  nodeName := "vnode-web-1"

def policyCluster : Cluster := NodeService.acmeCluster { pods := Store.empty.put policyPod }

def createdPods (cr : VNodePoolCR) : List (Except Err CorePod) :=
  ((reconcilePool ⟨"kata"⟩ (crToPoolModel cr)).calls (handle Env.plain) policyCluster).filterMap
    fun
      | .createPod pod => some (PodClient.podSpecToK8sPod Env.plain pod)
      | _ => none

theorem kataPool_follows_policy :
    ∃ core, createdPods (acmeCR "kata" []) = [.ok core] ∧
      FollowsPolicy (acmeCR "kata" []) "kata" core :=
  ⟨_, rfl, (created_follows_policy_iff Env.plain ⟨"kata"⟩ (acmeCR "kata" []) policyCluster
    (fun _ => none) (targetPod ⟨"kata"⟩ (crToPoolModel (acmeCR "kata" [])) policyPod) _
    (by decide) rfl).mpr (by unfold PolicyKept; decide)⟩

def gvisorCR : VNodePoolCR :=
  acmeCR "gvisor"
    [{ key := "dedicated", operator := "Exists", value := "", effect := "NoSchedule" }]

/-- A valid pool with the backend `gvisor` and a toleration: its pod is created
for the operator's own runtime class and without the toleration. -/
theorem gvisorPool_loses_policy :
    (crToPoolModel gvisorCR).validate = .ok () ∧
      ∃ core, createdPods gvisorCR = [.ok core] ∧ core.runtimeClassName = some "kata" ∧
        core.tolerations = [] ∧ ¬ FollowsPolicy gvisorCR "kata" core := by
  refine ⟨rfl, _, rfl, rfl, rfl, ?_⟩
  intro hpolicy
  have htolerations := hpolicy.tolerations
  cases htolerations

end VNodeOperator.Pass
