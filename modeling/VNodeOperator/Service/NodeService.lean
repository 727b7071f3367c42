import VNodeOperator.Ports

/-!
# Virtual node lifecycle

`NodeService` of `internal/domain/service/node_service.go`: provisioning a
virtual node, removing it, and keeping its status in step with the tenant.
-/

namespace VNodeOperator.Service.NodeService

open Model Kube Ports ProofSupport

def readyNodeConditions : List NodeCondition :=
  [ ⟨.kubeconfig, true, "KubeconfigResolved", "Tenant kubeconfig resolved"⟩,
    ⟨.registered, true, "RegistrationSucceeded", "Node registered in tenant cluster"⟩,
    ⟨.lease, true, "LeaseActive", "Node lease is active"⟩,
    ⟨.ready, true, "Ready", "Node is ready"⟩,
    ⟨.degraded, false, "Healthy", "Node registration is healthy"⟩ ]

def registrationFailedConditions (err : Err) : List NodeCondition :=
  [ ⟨.kubeconfig, false, "RegistrationFailed", err.msg⟩,
    ⟨.registered, false, "RegistrationFailed", err.msg⟩,
    ⟨.ready, false, "RegistrationFailed", err.msg⟩,
    ⟨.degraded, true, "RegistrationFailed", err.msg⟩ ]

/-- A pending or unready node whose first `Registered` condition is not true
has to go through registration again. -/
def shouldRetryRegistration (node : VNode) : Bool :=
  if node.phase ≠ .pending ∧ node.phase ≠ .notReady then false
  else match node.conditions.find? (fun c => c.type = .registered) with
    | some c => !c.status
    | none => true

def hasRegisteredCondition (node : VNode) : Bool :=
  node.conditions.any (fun c => c.type = .registered)

def isIgnorableStatusError (e : Err) : Bool :=
  e.kind = .canceled || e.kind = .deadlineExceeded

def nodeName (pool : VNodePool) (index : Nat) : String :=
  let displayName := if pool.displayName = "" then pool.name else pool.displayName
  "vnode-" ++ displayName ++ "-" ++ toString index

def newNode (pool : VNodePool) (existing : Nat) : VNode where
  name := nodeName pool (existing + 1)
  ns := pool.ns
  poolName := pool.name
  tenantRef := pool.tenantRef
  taints := pool.taints
  phase := .pending
  capacity := pool.perNodeResources
  allocatable := pool.perNodeResources
  conditions :=
    [ ⟨.ready, false, "Registering", "Waiting for tenant cluster node registration"⟩ ]

def asNotReady (node : VNode) (conditions : List NodeCondition) : VNode :=
  { node with phase := .notReady, conditions := conditions }

def asReady (node : VNode) : VNode :=
  { node with phase := .ready, conditions := readyNodeConditions }

def asTerminating (node : VNode) : VNode :=
  { node with
    phase := .terminating
    conditions := [ ⟨.ready, false, "Terminating", "Node is being removed"⟩ ] }

/-- Go's zero `VNode`, returned next to an error. -/
def zeroNode : VNode := { name := "", ns := "", poolName := "" }

def provisionNode (tenant : TenantRef) (node : VNode) : Svc (VNode × Option Err) := do
  match ← ask (.save node) with
  | .error err => return (zeroNode, some (err.wrap ("saving node " ++ node.name)))
  | .ok () =>
      match ← ask (.register node tenant) with
      | .error err =>
          let failed := asNotReady node (registrationFailedConditions err)
          let _ ← ask (.save failed)
          return (failed, some (err.wrap ("registering node " ++ node.name ++ " in vcluster")))
      | .ok () =>
          let ready := asReady node
          match ← ask (.save ready) with
          | .error err =>
              return (ready, some (err.wrap ("updating node " ++ node.name ++ " status")))
          | .ok () => return (ready, none)

def provision (pool : VNodePool) : Svc (VNode × Option Err) := do
  match ← ask (.listByPool pool.ns pool.name) with
  | .error err => return (zeroNode, some (err.wrap "listing existing nodes"))
  | .ok existing => provisionNode pool.tenantRef (newNode pool existing.length)

/-- A failing deregistration is logged and does not stop the removal. -/
def deprovision (node : VNode) : Svc (Except Err Unit) := do
  let node := asTerminating node
  match ← ask (.save node) with
  | .error err => return .error (err.wrap ("marking node " ++ node.name ++ " as terminating"))
  | .ok () =>
      let _ ← ask (.deregister node node.tenantRef)
      match ← ask (.delete ⟨node.ns, node.name⟩) with
      | .error err => return .error (err.wrap ("deleting node " ++ node.name))
      | .ok () => return .ok ()

def saveReady (node : VNode) : Svc (Except Err Unit) := do
  match ← ask (.save (asReady node)) with
  | .error err => return if isIgnorableStatusError err then .ok () else .error err
  | .ok () => return .ok ()

def retryRegistration (node : VNode) : Svc (Except Err Unit) := do
  match ← ask (.register node node.tenantRef) with
  | .ok () => saveReady node
  | .error err =>
      if isIgnorableStatusError err then return .ok ()
      else
        let retryError := err.wrap ("retrying tenant node registration for " ++ node.name)
        if node.phase ≠ .notReady ∨ !hasRegisteredCondition node then
          match ← ask (.save (asNotReady node (registrationFailedConditions err))) with
          | .error saveErr =>
              return if isIgnorableStatusError saveErr then .ok ()
                else .error (saveErr.wrap
                  ("updating node " ++ node.name ++ " status after registration retry failure"))
          | .ok () => return .error retryError
        else return .error retryError

/-- The heartbeat part of `UpdateStatus`.  A node that is ready and stays so is
not saved. -/
def syncNodeStatus (node : VNode) : Svc (Except Err Unit) := do
  match ← ask (.updateNodeStatus node node.tenantRef) with
  | .error err =>
      if isIgnorableStatusError err then return .ok ()
      else
        match ← ask (.save (asNotReady node
          [ ⟨.ready, false, "StatusSyncFailed", err.msg⟩,
            ⟨.degraded, true, "StatusSyncFailed", err.msg⟩ ])) with
        | .error saveErr =>
            return if isIgnorableStatusError saveErr then .ok ()
              else .error (saveErr.wrap
                ("updating node " ++ node.name ++ " status after sync failure"))
        | .ok () =>
            return .error (err.wrap ("syncing tenant node status for " ++ node.name))
  | .ok () =>
      if node.phase = .ready ∧ node.isReady then return .ok ()
      else saveReady node

def updateStatus (node : VNode) : Svc (Except Err Unit) :=
  if node.phase = .unset ∧ node.conditions.length = 0 then return .ok ()
  else if shouldRetryRegistration node then retryRegistration node
  else syncNodeStatus node

/-! ## The calls of the operations -/

section

variable {A : Call → Prop}

theorem uses_provision {pool : VNodePool} (hlist : A (.listByPool pool.ns pool.name))
    (hnew : ∀ n, A (.save (newNode pool n)))
    (hregister : ∀ n, A (.register (newNode pool n) pool.tenantRef))
    (hfailed : ∀ n err, A (.save (asNotReady (newNode pool n) (registrationFailedConditions err))))
    (hready : ∀ n, A (.save (asReady (newNode pool n)))) :
    Prog.Uses A (provision pool) := by
  apply Prog.Uses.bind (Prog.Uses.perform hlist)
  intro listed
  cases listed with
  | error err => exact Prog.Uses.pure _
  | ok existing =>
      apply Prog.Uses.bind (Prog.Uses.perform (hnew existing.length))
      intro saved
      cases saved with
      | error err => exact Prog.Uses.pure _
      | ok u =>
          apply Prog.Uses.bind (Prog.Uses.perform (hregister existing.length))
          intro registered
          cases registered with
          | error err =>
              apply Prog.Uses.bind (Prog.Uses.perform (hfailed existing.length err))
              intro _
              exact Prog.Uses.pure _
          | ok u =>
              apply Prog.Uses.bind (Prog.Uses.perform (hready existing.length))
              intro saved
              cases saved <;> exact Prog.Uses.pure _

theorem uses_deprovision {node : VNode} (hsave : A (.save (asTerminating node)))
    (hderegister : A (.deregister (asTerminating node) node.tenantRef))
    (hdelete : A (.delete ⟨node.ns, node.name⟩)) : Prog.Uses A (deprovision node) := by
  apply Prog.Uses.bind (Prog.Uses.perform hsave)
  intro saved
  cases saved with
  | error err => exact Prog.Uses.pure _
  | ok u =>
      apply Prog.Uses.bind (Prog.Uses.perform hderegister)
      intro _
      apply Prog.Uses.bind (Prog.Uses.perform hdelete)
      intro deleted
      cases deleted <;> exact Prog.Uses.pure _

theorem uses_saveReady {node : VNode} (hready : A (.save (asReady node))) :
    Prog.Uses A (saveReady node) := by
  apply Prog.Uses.bind (Prog.Uses.perform hready)
  intro saved
  cases saved <;> exact Prog.Uses.pure _

theorem uses_retryRegistration {node : VNode} (hregister : A (.register node node.tenantRef))
    (hready : A (.save (asReady node)))
    (hfailed : ∀ err, A (.save (asNotReady node (registrationFailedConditions err)))) :
    Prog.Uses A (retryRegistration node) := by
  apply Prog.Uses.bind (Prog.Uses.perform hregister)
  intro registered
  cases registered with
  | ok u => exact uses_saveReady hready
  | error err =>
      dsimp only
      split
      · exact Prog.Uses.pure _
      · split
        · apply Prog.Uses.bind (Prog.Uses.perform (hfailed err))
          intro saved
          cases saved <;> exact Prog.Uses.pure _
        · exact Prog.Uses.pure _

theorem uses_syncNodeStatus {node : VNode} (hupdate : A (.updateNodeStatus node node.tenantRef))
    (hready : A (.save (asReady node)))
    (hsync : ∀ msg, A (.save (asNotReady node
      [ ⟨.ready, false, "StatusSyncFailed", msg⟩,
        ⟨.degraded, true, "StatusSyncFailed", msg⟩ ]))) :
    Prog.Uses A (syncNodeStatus node) := by
  apply Prog.Uses.bind (Prog.Uses.perform hupdate)
  intro synced
  cases synced with
  | error err =>
      dsimp only
      split
      · exact Prog.Uses.pure _
      · apply Prog.Uses.bind (Prog.Uses.perform (hsync err.msg))
        intro saved
        cases saved <;> exact Prog.Uses.pure _
  | ok u =>
      dsimp only
      split
      · exact Prog.Uses.pure _
      · exact uses_saveReady hready

theorem uses_updateStatus {node : VNode} (hregister : A (.register node node.tenantRef))
    (hupdate : A (.updateNodeStatus node node.tenantRef)) (hready : A (.save (asReady node)))
    (hfailed : ∀ err, A (.save (asNotReady node (registrationFailedConditions err))))
    (hsync : ∀ msg, A (.save (asNotReady node
      [ ⟨.ready, false, "StatusSyncFailed", msg⟩,
        ⟨.degraded, true, "StatusSyncFailed", msg⟩ ]))) :
    Prog.Uses A (updateStatus node) := by
  unfold updateStatus
  split
  · exact Prog.Uses.pure _
  · split
    · exact uses_retryRegistration hregister hready hfailed
    · exact uses_syncNodeStatus hupdate hready hsync

end

/-! ## What provisioning returns -/

theorem returns_provision {pool : VNodePool} {Q : VNode → Prop}
    (hQ : ∀ n, Q (asReady (newNode pool n))) :
    Prog.Returns (fun r : VNode × Option Err => r.2 = none → Q r.1) (provision pool) := by
  apply Prog.Returns.bind (Prog.Returns.always (ask (.listByPool pool.ns pool.name)))
  intro listed _
  cases listed with
  | error err => exact nofun
  | ok existing =>
      let node := newNode pool existing.length
      apply Prog.Returns.bind (Prog.Returns.always (ask (.save node)))
      intro saved _
      cases saved with
      | error err => exact nofun
      | ok u =>
          apply Prog.Returns.bind (Prog.Returns.always (ask (.register node pool.tenantRef)))
          intro registered _
          cases registered with
          | error err =>
              apply Prog.Returns.bind (Prog.Returns.always (ask
                (.save (asNotReady node (registrationFailedConditions err)))))
              intro _ _
              exact nofun
          | ok u =>
              apply Prog.Returns.bind (Prog.Returns.always (ask (.save (asReady node))))
              intro saved _
              cases saved with
              | error err => exact nofun
              | ok u => exact fun _ => hQ existing.length

/-! ## A small pool -/

def acmePool (nodeCount : Int) : VNodePool where
  name := "web"
  ns := "host"
  tenantRef := { vclusterName := "acme", vclusterNamespace := "acme", kubeconfigSecret := "acme" }
  nodeCount := nodeCount

def acmeCluster (tenant : TenantCluster) : Cluster :=
  ((provision (acmePool 1)).run (handle Env.plain) { tenants := fun _ => tenant }).2

end VNodeOperator.Service.NodeService
