import VNodeOperator.Reconciler.VNode
import VNodeOperator.Service.PoolService

/-!
# The VNodePool controller

`VNodePoolReconciler` of
`internal/adapter/inbound/reconciler/vnodepool_reconciler.go`.
-/

namespace VNodeOperator.Reconciler

open Model Kube Ports ProofSupport Service

/-! ## Status conditions -/

/-- Set the condition of a type, appending it if there is none.  An unchanged
condition keeps its transition time. -/
def setStatusCondition (now : Int) (conditions : List PoolCondition) (type : String)
    (status : ConditionStatus) (reason message : String) : List PoolCondition :=
  match conditions with
  | [] => [⟨type, status, reason, message, now⟩]
  | c :: rest =>
      if c.type ≠ type then c :: setStatusCondition now rest type status reason message
      else if c.status = status ∧ c.reason = reason ∧ c.message = message then c :: rest
      else ⟨c.type, status, reason, message, now⟩ :: rest

def conditionStatus (ok : Bool) : ConditionStatus := if ok then .true else .false

def phaseReason (phase : PoolPhase) : String :=
  match phase with
  | .ready => "PoolReady"
  | .scaling => "PoolScaling"
  | .deleting => "PoolDeleting"
  | .failed => "PoolFailed"
  | _ => "PoolPending"

def phaseText : PoolPhase → String
  | .unset => ""
  | .pending => "Pending"
  | .ready => "Ready"
  | .scaling => "Scaling"
  | .failed => "Failed"
  | .deleting => "Deleting"

namespace VNodePool

def poolFinalizer : String := "vnode.kroderdev.io/pool-cleanup"

def mapTaints (taints : List Taint) : List Taint :=
  taints.map fun t => { key := t.key, value := t.value, effect := t.effect }

def mapTolerations (tolerations : List Toleration) : List Toleration :=
  tolerations.map fun t =>
    { key := t.key
      operator := t.operator
      value := t.value
      effect := t.effect
      tolerationSeconds := t.tolerationSeconds }

def crToPoolModel (cr : VNodePoolCR) : Model.VNodePool where
  name := cr.name
  displayName := cr.displayName
  ns := cr.ns
  tenantRef := cr.tenantRef
  mode := cr.mode
  isolationBackend := cr.isolationBackend
  runtimeClassName := cr.runtimeClassName
  nodeCount := cr.nodeCount
  perNodeResources := cr.perNodeResources
  nodeSelector := cr.nodeSelector
  taints := mapTaints cr.taints
  tolerations := mapTolerations cr.tolerations
  phase := cr.status.phase
  readyNodes := cr.status.readyNodes
  deletionPending := cr.deletionTimestamp.isSome

def updatePoolStatus (k : ObjKey) (mutate : Int → VNodePoolStatus → VNodePoolStatus) :
    Svc (Except Err Unit) :=
  retryOnConflict defaultRetries do
    match ← ask (.getVNodePool k) with
    | .error err => return .error err
    | .ok current =>
        let time ← now
        let status := mutate time current.status
        if status = current.status then return .ok ()
        else ask (.patchVNodePoolStatus k current.status status)

/-- A phase together with its `Ready` and `Degraded` conditions, which share
their reason. -/
def statusWith (phase : PoolPhase) (ready degraded : ConditionStatus)
    (reason readyMessage degradedMessage : String) (now : Int) (status : VNodePoolStatus) :
    VNodePoolStatus :=
  { status with
    phase := phase
    conditions :=
      setStatusCondition now
        (setStatusCondition now status.conditions "Ready" ready reason readyMessage)
        "Degraded" degraded reason degradedMessage }

def statusOf (result : Model.VNodePool) (now : Int) (status : VNodePoolStatus) :
    VNodePoolStatus :=
  statusWith result.phase (conditionStatus (result.phase = .ready))
    (conditionStatus (result.phase = .failed)) (phaseReason result.phase)
    (toString result.readyNodes ++ "/" ++ toString result.nodeCount ++ " virtual nodes ready")
    ("Pool phase is " ++ phaseText result.phase) now
    { status with readyNodes := result.readyNodes, totalNodes := result.nodeCount }

/-- The write that takes the finalizer off the latest version of the pool. -/
def removeFinalizer (k : ObjKey) : Svc (Except Err Unit) :=
  retryOnConflict defaultRetries do
    match ← ask (.getVNodePool k) with
    | .error err => return if err.isNotFound then .ok () else .error err
    | .ok current =>
        ask (.updateVNodePool
          { current with finalizers := current.finalizers.filter (· ≠ poolFinalizer) })

def handleDeletion (cr : VNodePoolCR) : Svc (Result × Option Err) := do
  if poolFinalizer ∉ cr.finalizers then return ({}, none)
  else
    let _ ← updatePoolStatus cr.key
      (statusWith .deleting .false .false "Deleting" "Pool is being deleted"
        "Pool cleanup in progress")
    let pool := { crToPoolModel cr with nodeCount := 0, deletionPending := true }
    match ← PoolService.reconcile pool with
    | (_, some err) => return ({}, some (err.wrap ("cleaning up pool " ++ cr.name)))
    | (_, none) =>
        match ← ask (.listVNodes cr.ns cr.name) with
        | .error err =>
            return ({}, some (err.wrap ("listing remaining VNodes for pool " ++ cr.name)))
        | .ok remaining =>
            if remaining.length > 0 then return ({ requeueAfter := second }, none)
            else
              match ← removeFinalizer cr.key with
              | .error err => return ({}, some (err.wrap "removing finalizer"))
              | .ok () => return ({}, none)

def reconcileLive (cr : VNodePoolCR) : Svc (Result × Option Err) := do
  let pool := crToPoolModel cr
  match pool.validate with
  | .error msg =>
      let _ ← updatePoolStatus cr.key
        (statusWith .failed .false .true "ValidationFailed" msg msg)
      return ({}, none)
  | .ok () =>
      match ← PoolService.reconcile pool with
      | (_, some err) =>
          let _ ← updatePoolStatus cr.key
            (statusWith .failed .false .true "ReconcileFailed" err.msg err.msg)
          return ({}, some (err.wrap ("reconciling pool " ++ pool.name)))
      | (result, none) =>
          match ← updatePoolStatus cr.key (statusOf result) with
          | .error err => return ({}, some (err.wrap "updating pool status"))
          | .ok () => return ({}, none)

def reconcile (req : ObjKey) : Svc (Result × Option Err) := do
  match ← ask (.getVNodePool req) with
  | .error err => return ({}, if err.isNotFound then none else some err)
  | .ok cr =>
      if cr.deletionTimestamp.isSome then handleDeletion cr
      else if poolFinalizer ∈ cr.finalizers then reconcileLive cr
      else
        let cr := { cr with finalizers := cr.finalizers ++ [poolFinalizer] }
        match ← ask (.updateVNodePool cr) with
        | .error err => return ({}, some (err.wrap "adding finalizer"))
        | .ok () => reconcileLive cr

end VNodePool

end VNodeOperator.Reconciler
