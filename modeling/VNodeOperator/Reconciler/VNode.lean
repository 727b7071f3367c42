import VNodeOperator.Service.NodeService

/-!
# The VNode controller

`VNodeReconciler` of `internal/adapter/inbound/reconciler/vnode_reconciler.go`.
Durations and clock readings are nanoseconds.
-/

namespace VNodeOperator.Reconciler

open Model Kube Adapter Ports ProofSupport Service

/-- `ctrl.Result`: the delay after which the object is queued again, or zero. -/
structure Result where
  requeueAfter : Int := 0
  deriving DecidableEq, Repr

def second : Int := 1000000000

namespace VNode

def vnodeMinRequeue : Int := 2 * second
def vnodeMaxRequeue : Int := 60 * second

/-- The node a reconcile works on; unlike the repository's reading of the same
resource it leaves `allocatable` empty. -/
def nodeOf (cr : VNodeCR) : Model.VNode where
  name := cr.name
  ns := cr.ns
  poolName := cr.poolRef
  tenantRef := NodeRepository.tenantOf cr.annotations
  phase := cr.phase
  capacity := cr.capacity
  conditions := cr.conditions.map NodeRepository.conditionFromCR

def shouldRequeueVNode (node : Model.VNode) : Bool :=
  match node.phase with
  | .pending | .notReady => true
  | _ => false

/-- The doubling loop of `requeueBackoff`; the delay reaches its maximum within
five rounds. -/
def backoffLoop (age : Int) : Nat → Int → Int → Int
  | 0, _, delay => delay
  | rounds + 1, threshold, delay =>
      if threshold ≤ age ∧ delay < vnodeMaxRequeue then
        backoffLoop age rounds (threshold + 30 * second) (delay * 2)
      else delay

def requeueBackoff (age : Int) : Int :=
  let delay := backoffLoop age 5 (30 * second) vnodeMinRequeue
  if delay > vnodeMaxRequeue then vnodeMaxRequeue else delay

/-- What a reconcile does with a resource it has read. -/
def reconcileCR (cr : VNodeCR) : Svc (Result × Option Err) := do
  let node := nodeOf cr
  match ← NodeService.updateStatus node with
  | .error err =>
      if err.isNotFound || NodeService.isIgnorableStatusError err then return ({}, none)
      else return ({}, some (err.wrap ("updating node " ++ node.name)))
  | .ok () =>
      if shouldRequeueVNode node then
        let time ← now
        return ({ requeueAfter := requeueBackoff (time - cr.creationTimestamp) }, none)
      else return ({}, none)

def reconcile (req : ObjKey) : Svc (Result × Option Err) := do
  match ← ask (.getVNode req) with
  | .error err => return ({}, if err.isNotFound then none else some err)
  | .ok cr => reconcileCR cr

theorem uses_reconcileCR {A : Call → Prop} {cr : VNodeCR}
    (hupdate : Prog.Uses A (NodeService.updateStatus (nodeOf cr))) (hnow : A .now) :
    Prog.Uses A (reconcileCR cr) := by
  apply Prog.Uses.bind hupdate
  intro updated
  cases updated with
  | error err =>
      dsimp only
      split <;> exact Prog.Uses.pure _
  | ok u =>
      dsimp only
      split
      · apply Prog.Uses.bind
        · apply Prog.Uses.bind (Prog.Uses.perform hnow)
          intro time
          cases time <;> exact Prog.Uses.pure _
        · exact fun _ => Prog.Uses.pure _
      · exact Prog.Uses.pure _

end VNode

end VNodeOperator.Reconciler
