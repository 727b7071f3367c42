import VNodeOperator.Model.Pod

/-!
# Virtual nodes and their pools

The domain view of a virtual node and of a pool of them
(`internal/domain/model/vnode.go` and `vnodepool.go`).
-/

namespace VNodeOperator.Model

/-- Lifecycle phase of a virtual node; `unset` is the empty string of a status
that was never written. -/
inductive NodePhase where
  | unset
  | pending
  | ready
  | notReady
  | terminating
  deriving DecidableEq, Repr

inductive NodeConditionType where
  | registered
  | ready
  | kubeconfig
  | lease
  | degraded
  | other (name : String)
  deriving DecidableEq, Repr

structure NodeCondition where
  type : NodeConditionType
  status : Bool
  reason : String
  message : String
  deriving DecidableEq, Repr

structure TenantRef where
  vclusterName : String := ""
  vclusterNamespace : String := ""
  kubeconfigSecret : String := ""
  deriving DecidableEq, Repr

structure Taint where
  key : String
  value : String
  effect : String
  deriving DecidableEq, Repr

structure Toleration where
  key : String
  operator : String
  value : String
  effect : String
  tolerationSeconds : Option Int := none
  deriving DecidableEq, Repr

structure VNode where
  name : String
  ns : String
  poolName : String
  tenantRef : TenantRef := {}
  taints : List Taint := []
  phase : NodePhase := .unset
  capacity : ResourceList := {}
  allocatable : ResourceList := {}
  conditions : List NodeCondition := []
  deriving DecidableEq, Repr

/-- The phase `Ready`, or else the first condition of type `Ready`. -/
def VNode.isReady (n : VNode) : Bool :=
  if n.phase = .ready then true
  else match n.conditions.find? (fun c => c.type = .ready) with
    | some c => c.status
    | none => false

inductive PoolMode where
  | unset
  | shared
  | dedicated
  | burstable
  | other (name : String)
  deriving DecidableEq, Repr

inductive PoolPhase where
  | unset
  | pending
  | ready
  | scaling
  | failed
  | deleting
  deriving DecidableEq, Repr

structure VNodePool where
  name : String
  displayName : String := ""
  ns : String
  tenantRef : TenantRef := {}
  mode : PoolMode := .unset
  isolationBackend : String := ""
  runtimeClassName : String := ""
  nodeCount : Int := 0
  perNodeResources : ResourceList := {}
  nodeSelector : StringMap := ∅
  taints : List Taint := []
  tolerations : List Toleration := []
  phase : PoolPhase := .unset
  readyNodes : Int := 0
  nodes : List String := []
  deletionPending : Bool := false
  deriving DecidableEq

def VNodePool.validate (p : VNodePool) : Except String Unit :=
  if p.name = "" then .error "pool name is required"
  else if p.tenantRef.kubeconfigSecret = "" then
    .error "tenantRef.kubeconfigSecret is required"
  else if p.nodeCount < 0 then .error "nodeCount must be >= 0"
  else if p.mode = .dedicated ∧ p.nodeSelector.entries.length = 0 then
    .error "dedicated mode requires nodeSelector"
  else match p.mode with
    | .shared | .dedicated | .burstable | .unset => .ok ()
    | .other m => .error ("invalid pool mode: " ++ m)

theorem VNodePool.of_validate {p : VNodePool} (h : p.validate = .ok ()) :
    p.name ≠ "" ∧ p.tenantRef.kubeconfigSecret ≠ "" ∧ 0 ≤ p.nodeCount := by
  unfold VNodePool.validate at h
  split at h
  · cases h
  · next hname =>
      split at h
      · cases h
      · next hsecret =>
          split at h
          · cases h
          · next hcount => exact ⟨hname, hsecret, by omega⟩

/-- The numbers of nodes to add and to remove, in `int32` arithmetic. -/
def VNodePool.desiredScaleActions (p : VNodePool) (currentNodes : Int) : Int × Int :=
  if p.nodeCount > currentNodes then (int32 (p.nodeCount - currentNodes), 0)
  else if p.nodeCount < currentNodes then (0, int32 (currentNodes - p.nodeCount))
  else (0, 0)

end VNodeOperator.Model
