import VNodeOperator.Reconciler.VNodePool
import VNodeOperator.Service.PodExecution

/-!
# The PodSync controller

`PodSyncReconciler` of
`internal/adapter/inbound/reconciler/podsync_reconciler.go`.  Metrics and events
are not modelled.
-/

namespace VNodeOperator.Reconciler.PodSync

open Model Kube Ports ProofSupport Service VNodePool

/-- The same loop as `setStatusCondition`, written out a second time. -/
def setPodSyncCondition (now : Int) (conditions : List PoolCondition) (type : String)
    (status : ConditionStatus) (reason message : String) : List PoolCondition :=
  match conditions with
  | [] => [⟨type, status, reason, message, now⟩]
  | c :: rest =>
      if c.type ≠ type then c :: setPodSyncCondition now rest type status reason message
      else if c.status = status ∧ c.reason = reason ∧ c.message = message then c :: rest
      else ⟨c.type, status, reason, message, now⟩ :: rest

def isIgnorablePodSyncError (e : Err) : Bool :=
  e.kind = .canceled || e.kind = .deadlineExceeded

def executionStatus (podExecutionReady degraded : ConditionStatus) (reason message : String)
    (now : Int) (status : VNodePoolStatus) : VNodePoolStatus :=
  { status with
    conditions :=
      setPodSyncCondition now
        (setPodSyncCondition now status.conditions "PodExecutionReady" podExecutionReady
          reason message)
        "Degraded" degraded reason message }

/-- As `updatePoolStatus`, except that a shutdown counts as done. -/
def updateExecutionConditions (k : ObjKey) (podExecutionReady degraded : ConditionStatus)
    (reason message : String) : Svc (Except Err Unit) :=
  retryOnConflict defaultRetries do
    match ← ask (.getVNodePool k) with
    | .error err => return if isIgnorablePodSyncError err then .ok () else .error err
    | .ok current =>
        let time ← now
        let status := executionStatus podExecutionReady degraded reason message time
          current.status
        if status = current.status then return .ok ()
        else
          match ← ask (.patchVNodePoolStatus k current.status status) with
          | .error err => return if isIgnorablePodSyncError err then .ok () else .error err
          | .ok () => return .ok ()

def cleanup (pool : Model.VNodePool) : Svc (Result × Option Err) := do
  match ← PodExecution.cleanupPoolPods pool with
  | (_, some err) =>
      return ({}, some (err.wrap ("cleaning host pods for pool " ++ pool.name)))
  | (_, none) => return ({}, none)

def execute (translator : PodService) (k : ObjKey) (pool : Model.VNodePool) :
    Svc (Result × Option Err) := do
  match ← PodExecution.reconcilePool translator pool with
  | (_, some err) =>
      if isIgnorablePodSyncError err then return ({}, none)
      else
        let _ ← updateExecutionConditions k .false .true "PodExecutionFailed" err.msg
        return ({ requeueAfter := 2 * second }, none)
  | (result, none) =>
      let _ ← updateExecutionConditions k .true .false "PodExecutionReady"
        ("Processed " ++ toString result.sourcePods ++ " tenant pods")
      return ({ requeueAfter := 2 * second }, none)

def reconcile (translator : PodService) (req : ObjKey) : Svc (Result × Option Err) := do
  match ← ask (.getVNodePool req) with
  | .error err => return ({}, if err.isNotFound then none else some err)
  | .ok cr =>
      let pool := crToPoolModel cr
      match pool.validate with
      | .error _ => return ({}, none)
      | .ok () =>
          if cr.deletionTimestamp.isSome then cleanup pool
          else if pool.phase = .failed then return ({ requeueAfter := 3 * second }, none)
          else execute translator cr.key pool

end VNodeOperator.Reconciler.PodSync
