import VNodeOperator.Ports
import VNodeOperator.Service.PodService

/-!
# Pod execution

`PodExecutionService` of `internal/domain/service/execution_service.go`: one
pass brings the host pods of a pool in line with the tenant pods bound to its
ready virtual nodes and mirrors host statuses back.
-/

namespace VNodeOperator.Service.PodExecution

open Model Kube Ports ProofSupport

structure PodExecutionResult where
  sourcePods : Nat := 0
  createdHostPods : Nat := 0
  deletedHostPods : Nat := 0
  syncedStatuses : Nat := 0
  deriving DecidableEq, Repr

abbrev Outcome := PodExecutionResult × Option Err

/-- What the loop over source pods carries: the counters, and the keys of the
host pods that must stay. -/
structure Progress where
  result : PodExecutionResult
  desired : List String

/-- A shutdown ends the pass without an error, any other failure with `reported`. -/
def stop (result : PodExecutionResult) (err reported : Err) : Outcome :=
  if isIgnorableShutdownError err then (result, none) else (result, some reported)

def keyForPod (ns name : String) : String := ns ++ "/" ++ name

def ownerLabels (poolName : String) : StringMap :=
  (AList.insert labelManagedBy labelManagedByValue ∅).insert labelVNodePool poolName

def errPodTerminating : Err :=
  ⟨.podTerminating, "host pod is terminating, waiting for deletion to complete"⟩

/-! ## ConfigMaps and Secrets -/

/-- Copy one referenced object; one that the tenant does not have is skipped. -/
def syncResource (cs : Clientset) (pool : VNodePool) (ref : VolumeResourceRef) (_ : Unit) :
    Svc (Prog.Flow Unit Err) := do
  match ref.type with
  | .configMap =>
      match ← ask (.getTenantConfigMap cs ⟨ref.sourceNamespace, ref.sourceName⟩) with
      | .error err =>
          if err.isNotFound then return .next ()
          else return .exit (err.wrap
            ("getting tenant ConfigMap " ++ ref.sourceNamespace ++ "/" ++ ref.sourceName))
      | .ok cm =>
          match ← ask (.ensureConfigMap
            { name := ref.targetName
              ns := pool.ns
              labels := ownerLabels pool.name
              data := cm.data
              binaryData := cm.binaryData }) with
          | .error err =>
              return .exit (err.wrap
                ("ensuring host ConfigMap " ++ pool.ns ++ "/" ++ ref.targetName))
          | .ok () => return .next ()
  | .secret =>
      match ← ask (.getTenantSecret cs ⟨ref.sourceNamespace, ref.sourceName⟩) with
      | .error err =>
          if err.isNotFound then return .next ()
          else return .exit (err.wrap
            ("getting tenant Secret " ++ ref.sourceNamespace ++ "/" ++ ref.sourceName))
      | .ok secret =>
          match ← ask (.ensureSecret
            { name := ref.targetName
              ns := pool.ns
              labels := ownerLabels pool.name
              data := secret.data }) with
          | .error err =>
              return .exit (err.wrap
                ("ensuring host Secret " ++ pool.ns ++ "/" ++ ref.targetName))
          | .ok () => return .next ()
  | _ => return .next ()

def syncPodResources (cs : Clientset) (translation : PodTranslation) (pool : VNodePool) :
    Svc (Except Err Unit) := do
  match ← Prog.loop (syncResource cs pool) (resourceRefs translation) () with
  | .exit err => return .error err
  | .next () => return .ok ()

/-! ## Host pods -/

def errorOf : Except Err Unit → Option Err
  | .error err => some err
  | .ok () => none

/-- Create the pod, replace it in two passes if it has drifted, or wait for it
to go.  Returns whether a pod was created and whether one was deleted. -/
def ensureHostPod (pod : PodSpec) : Svc (Bool × Bool × Option Err) := do
  match ← ask (.getPod ⟨pod.ns, pod.name⟩) with
  | .error err =>
      if err.isNotFound then
        let created ← ask (.createPod pod)
        return (true, false, errorOf created)
      else return (false, false, some err)
  | .ok current =>
      if current.deleting then return (false, false, some errPodTerminating)
      else if podSpecsEqual current pod then return (false, false, none)
      else
        match ← ask (.deletePod ⟨pod.ns, pod.name⟩) with
        | .error err => return (false, false, some err)
        | .ok () => return (false, true, some errPodTerminating)

def containerStateOf (state : String) : CoreContainerState :=
  if state = "running" then { running := true }
  else if state = "waiting" then { waiting := true }
  else if state = "terminated" then { terminated := true }
  else {}

def applyPodStatus (current : CorePodStatus) (status : PodStatus) : CorePodStatus :=
  { current with
    phase := status.phase
    podIP := status.podIP
    message := status.message
    reason := status.reason
    containerStatuses := status.containerStatuses.map fun cs =>
      { name := cs.name
        ready := cs.ready
        restartCount := cs.restartCount
        state := containerStateOf cs.state } }

def withPodStatus (pod : CorePod) (status : PodStatus) : CorePod :=
  { pod with status := applyPodStatus pod.status status }

def updateTenantPodStatus (cs : Clientset) (k : ObjKey) (status : PodStatus) :
    Svc (Except Err Unit) := do
  match ← ask (.getTenantPod cs k) with
  | .error err => return .error err
  | .ok current => ask (.updateTenantPod cs (withPodStatus current status))

/-! ## One source pod -/

def mirrorStatus (translator : PodService) (cs : Clientset) (sourcePod : CorePod)
    (target : ObjKey) (acc : Progress) : Svc (Prog.Flow Progress Outcome) := do
  match ← ask (.getPodStatus target) with
  | .error err =>
      if err.isNotFound then return .next acc
      else return .exit (stop acc.result err
        (err.wrap ("getting host pod status for " ++ target.ns ++ "/" ++ target.name)))
  | .ok hostStatus =>
      match translator.syncStatus hostStatus with
      | .error err =>
          return .exit (stop acc.result err
            (err.wrap ("syncing host status for " ++ sourcePod.ns ++ "/" ++ sourcePod.name)))
      | .ok synced =>
          match ← updateTenantPodStatus cs sourcePod.key synced with
          | .error err =>
              return .exit (stop acc.result err (err.wrap
                ("updating tenant pod status for " ++ sourcePod.ns ++ "/" ++ sourcePod.name)))
          | .ok () =>
              return .next { acc with result :=
                { acc.result with syncedStatuses := acc.result.syncedStatuses + 1 } }

def deleteFinished (sourcePod : CorePod) (target : ObjKey) (acc : Progress) :
    Svc (Prog.Flow Progress Outcome) := do
  if isTerminalPod sourcePod then
    match ← ask (.deletePod target) with
    | .error err =>
        return .exit (stop acc.result err (err.wrap
          ("deleting host pod for terminal source pod " ++ sourcePod.ns ++ "/" ++
            sourcePod.name)))
    | .ok () =>
        return .next { acc with result :=
          { acc.result with deletedHostPods := acc.result.deletedHostPods + 1 } }
  else return .next acc

def reportPod (translator : PodService) (cs : Clientset) (sourcePod : CorePod)
    (target : ObjKey) (acc : Progress) : Svc (Prog.Flow Progress Outcome) := do
  match ← mirrorStatus translator cs sourcePod target acc with
  | .exit outcome => return .exit outcome
  | .next acc => deleteFinished sourcePod target acc

def countPods (acc : Progress) (created deleted : Bool) : Progress :=
  { acc with result :=
    { acc.result with
      createdHostPods := acc.result.createdHostPods + created.toNat
      deletedHostPods := acc.result.deletedHostPods + deleted.toNat } }

/-- How an iteration goes on after `ensureHostPod`.  A host pod that is on its
way out is left to the next pass. -/
def afterEnsure (translator : PodService) (cs : Clientset) (sourcePod : CorePod)
    (target : ObjKey) (acc : Progress) :
    Bool × Bool × Option Err → Svc (Prog.Flow Progress Outcome)
  | (_, deleted, some err) =>
      if err.kind = .podTerminating then return .next (countPods acc false deleted)
      else return .exit (stop acc.result err
        (err.wrap ("ensuring host pod for " ++ sourcePod.ns ++ "/" ++ sourcePod.name)))
  | (created, deleted, none) =>
      reportPod translator cs sourcePod target (countPods acc created deleted)

def reconcilePod (translator : PodService) (cs : Clientset) (pool : VNodePool)
    (sourcePod : CorePod) (acc : Progress) : Svc (Prog.Flow Progress Outcome) := do
  match translator.translate (podFromCore sourcePod) pool sourcePod.nodeName with
  | .error err =>
      return .exit (acc.result,
        some (err.wrap ("translating pod " ++ sourcePod.ns ++ "/" ++ sourcePod.name)))
  | .ok translation =>
      let target : ObjKey := ⟨translation.targetPod.ns, translation.targetPod.name⟩
      let acc := { acc with desired := keyForPod target.ns target.name :: acc.desired }
      match ← syncPodResources cs translation pool with
      | .error err =>
          return .exit (stop acc.result err (err.wrap
            ("syncing resources for pod " ++ sourcePod.ns ++ "/" ++ sourcePod.name)))
      | .ok () =>
          if isTerminalPod sourcePod then reportPod translator cs sourcePod target acc
          else
            let ensured ← ensureHostPod translation.targetPod
            afterEnsure translator cs sourcePod target acc ensured

/-! ## The pass -/

/-- Tenant pods to handle: not the operator's own, not being deleted, bound to
a ready node. -/
def isSourcePod (ready : List String) (pod : CorePod) : Bool :=
  pod.labels.at labelManagedBy ≠ labelManagedByValue ∧
    pod.deletionTimestamp = none ∧ pod.nodeName ∈ ready

/-- Without a ready node the tenant is not asked. -/
def listTenantPodsForNodes (cs : Clientset) (ready : List String) :
    Svc (Except Err (List CorePod)) := do
  if ready.length = 0 then return .ok []
  else
    match ← ask (.listTenantPods cs) with
    | .error err => return .error (err.wrap "listing tenant pods")
    | .ok list => return .ok (list.filter (isSourcePod ready))

def readyNames (nodes : List VNode) : List String := (nodes.filter VNode.isReady).map VNode.name

def deleteOrphan (desired : List String) (hostPod : PodSpec) (result : PodExecutionResult) :
    Svc (Prog.Flow PodExecutionResult Outcome) := do
  if keyForPod hostPod.ns hostPod.name ∈ desired then return .next result
  else
    match ← ask (.deletePod ⟨hostPod.ns, hostPod.name⟩) with
    | .error err =>
        return .exit (stop result err (err.wrap
          ("deleting orphaned host pod " ++ hostPod.ns ++ "/" ++ hostPod.name)))
    | .ok () => return .next { result with deletedHostPods := result.deletedHostPods + 1 }

def cleanupOrphans (pool : VNodePool) (acc : Progress) : Svc Outcome := do
  match ← ask (.listPodsByLabels pool.ns (ownerLabels pool.name)) with
  | .error err => return stop acc.result err (err.wrap "listing host pods for cleanup")
  | .ok hostPods =>
      match ← Prog.loop (deleteOrphan acc.desired) hostPods acc.result with
      | .exit outcome => return outcome
      | .next result => return (result, none)

def reconcilePods (translator : PodService) (cs : Clientset) (pool : VNodePool)
    (sourcePods : List CorePod) : Svc Outcome := do
  match ← Prog.loop (reconcilePod translator cs pool) sourcePods
    ⟨{ sourcePods := sourcePods.length }, []⟩ with
  | .exit outcome => return outcome
  | .next acc => cleanupOrphans pool acc

def reconcilePool (translator : PodService) (pool : VNodePool) : Svc Outcome := do
  match ← ask (.tenantClient pool.tenantRef) with
  | .error err => return stop {} err err
  | .ok cs =>
      match ← ask (.listByPool pool.ns pool.name) with
      | .error err => return stop {} err (err.wrap "listing pool nodes")
      | .ok nodes =>
          match ← listTenantPodsForNodes cs (readyNames nodes) with
          | .error err => return stop {} err err
          | .ok sourcePods => reconcilePods translator cs pool sourcePods

/-! ## Removing a pool -/

def cleanupPod (hostPod : PodSpec) (deleted : Nat) : Svc (Prog.Flow Nat (Nat × Option Err)) := do
  match ← ask (.deletePod ⟨hostPod.ns, hostPod.name⟩) with
  | .error err =>
      return .exit (deleted, if isIgnorableShutdownError err then none else some err)
  | .ok () => return .next (deleted + 1)

def cleanupPoolPods (pool : VNodePool) : Svc (Nat × Option Err) := do
  match ← ask (.listPodsByLabels pool.ns (ownerLabels pool.name)) with
  | .error err => return (0, if isIgnorableShutdownError err then none else some err)
  | .ok pods =>
      match ← Prog.loop cleanupPod pods 0 with
      | .exit outcome => return outcome
      | .next deleted => return (deleted, none)

/-! ## The calls of a pass -/

def onPods : Call → Bool
  | .listByPool _ _ | .tenantClient _ | .listTenantPods _ | .getTenantPod _ _
  | .updateTenantPod _ _ | .getTenantConfigMap _ _ | .getTenantSecret _ _ | .getPod _
  | .createPod _ | .deletePod _ | .getPodStatus _ | .listPodsByLabels _ _
  | .ensureConfigMap _ | .ensureSecret _ => true
  | _ => false

def leavesPods : Call → Bool
  | .createPod _ | .deletePod _ => false
  | c => onPods c

section

variable {translator : PodService} {cs : Clientset} {pool : VNodePool} {A : Call → Prop}

theorem uses_ask {α : Type} {c : Call} {f : c.Reply → Svc α} (hc : A c)
    (hf : ∀ r, Prog.Uses A (f r)) : Prog.Uses A (ask c >>= f) :=
  Prog.Uses.bind (Prog.Uses.perform hc) hf

theorem uses_syncResource (hA : ∀ c, leavesPods c → A c) (ref : VolumeResourceRef) (u : Unit) :
    Prog.Uses A (syncResource cs pool ref u) := by
  unfold syncResource
  split
  · apply uses_ask (hA _ rfl)
    intro r
    cases r with
    | error err => dsimp only; split <;> trivial
    | ok cm =>
        apply uses_ask (hA _ rfl)
        intro r
        cases r <;> trivial
  · apply uses_ask (hA _ rfl)
    intro r
    cases r with
    | error err => dsimp only; split <;> trivial
    | ok secret =>
        apply uses_ask (hA _ rfl)
        intro r
        cases r <;> trivial
  · trivial

theorem uses_syncPodResources (hA : ∀ c, leavesPods c → A c) (translation : PodTranslation) :
    Prog.Uses A (syncPodResources cs translation pool) := by
  apply Prog.Uses.bind (Prog.Uses.loop (uses_syncResource hA) _ _)
  intro r
  cases r <;> trivial

theorem uses_updateTenantPodStatus (hA : ∀ c, leavesPods c → A c) (k : ObjKey)
    (status : PodStatus) : Prog.Uses A (updateTenantPodStatus cs k status) := by
  apply uses_ask (hA _ rfl)
  intro r
  cases r with
  | error err => trivial
  | ok current => exact Prog.Uses.perform (hA _ rfl)

theorem uses_ensureHostPod (hA : ∀ c, leavesPods c → A c) (hdelete : ∀ k, A (.deletePod k))
    {pod : PodSpec} (hcreate : A (.createPod pod)) : Prog.Uses A (ensureHostPod pod) := by
  apply uses_ask (hA _ rfl)
  intro r
  cases r with
  | error err =>
      dsimp only
      split
      · exact uses_ask hcreate fun _ => trivial
      · trivial
  | ok current =>
      dsimp only
      split
      · trivial
      · split
        · trivial
        · apply uses_ask (hdelete _)
          intro r
          cases r <;> trivial

theorem uses_mirrorStatus (hA : ∀ c, leavesPods c → A c) (sourcePod : CorePod)
    (target : ObjKey) (acc : Progress) :
    Prog.Uses A (mirrorStatus translator cs sourcePod target acc) := by
  apply uses_ask (hA _ rfl)
  intro r
  cases r with
  | error err => dsimp only; split <;> trivial
  | ok status =>
      dsimp only
      split
      · trivial
      · apply Prog.Uses.bind (uses_updateTenantPodStatus hA _ _)
        intro r
        cases r <;> trivial

theorem uses_reportPod (hA : ∀ c, leavesPods c → A c) (hdelete : ∀ k, A (.deletePod k))
    (sourcePod : CorePod) (target : ObjKey) (acc : Progress) :
    Prog.Uses A (reportPod translator cs sourcePod target acc) := by
  apply Prog.Uses.bind (uses_mirrorStatus hA sourcePod target acc)
  intro r
  cases r with
  | exit outcome => trivial
  | next acc =>
      dsimp only
      unfold deleteFinished
      split
      · apply uses_ask (hdelete _)
        intro r
        cases r <;> trivial
      · trivial

theorem uses_reconcilePod (hA : ∀ c, leavesPods c → A c) (hdelete : ∀ k, A (.deletePod k))
    {sourcePod : CorePod} (hcreate : ∀ translation,
      translator.translate (podFromCore sourcePod) pool sourcePod.nodeName = .ok translation →
        A (.createPod translation.targetPod)) (acc : Progress) :
    Prog.Uses A (reconcilePod translator cs pool sourcePod acc) := by
  unfold reconcilePod
  split
  · trivial
  · next translation htranslate =>
      apply Prog.Uses.bind (uses_syncPodResources hA _)
      intro synced
      cases synced with
      | error err => trivial
      | ok u =>
          dsimp only
          split
          · exact uses_reportPod hA hdelete _ _ _
          · apply Prog.Uses.bind (uses_ensureHostPod hA hdelete (hcreate translation htranslate))
            rintro ⟨created, deleted, err⟩
            cases err with
            | none => exact uses_reportPod hA hdelete _ _ _
            | some err =>
                rw [afterEnsure]
                split <;> trivial

theorem uses_cleanupOrphans (hA : ∀ c, leavesPods c → A c) (hdelete : ∀ k, A (.deletePod k))
    (acc : Progress) : Prog.Uses A (cleanupOrphans pool acc) := by
  apply uses_ask (hA _ rfl)
  intro r
  cases r with
  | error err => trivial
  | ok hostPods =>
      apply Prog.Uses.bind
      · apply Prog.Uses.loop
        intro hostPod result
        unfold deleteOrphan
        split
        · trivial
        · apply uses_ask (hdelete _)
          intro r
          cases r <;> trivial
      · intro r
        cases r <;> trivial

/-- Whatever is listed, the pods that are created are translations of it. -/
theorem uses_reconcilePods (hA : ∀ c, leavesPods c → A c) (hdelete : ∀ k, A (.deletePod k))
    {sourcePods : List CorePod} (hcreate : ∀ p ∈ sourcePods, ∀ translation,
      translator.translate (podFromCore p) pool p.nodeName = .ok translation →
        A (.createPod translation.targetPod)) :
    Prog.Uses A (reconcilePods translator cs pool sourcePods) := by
  apply Prog.Uses.bind
  · apply Prog.Uses.loop_of_mem
    intro p hp
    exact uses_reconcilePod hA hdelete (hcreate p hp)
  · intro r
    cases r with
    | exit outcome => trivial
    | next acc => exact uses_cleanupOrphans hA hdelete acc

theorem uses_listTenantPodsForNodes (hA : ∀ c, leavesPods c → A c) (ready : List String) :
    Prog.Uses A (listTenantPodsForNodes cs ready) := by
  unfold listTenantPodsForNodes
  split
  · trivial
  · apply uses_ask (hA _ rfl)
    intro r
    cases r <;> trivial

theorem uses_reconcilePool_of (hA : ∀ c, leavesPods c → A c)
    (hpods : ∀ cs sources, Prog.Uses A (reconcilePods translator cs pool sources)) :
    Prog.Uses A (reconcilePool translator pool) := by
  apply uses_ask (hA _ rfl)
  intro r
  cases r with
  | error err => trivial
  | ok cs =>
      apply uses_ask (hA _ rfl)
      intro r
      cases r with
      | error err => trivial
      | ok nodes =>
          apply Prog.Uses.bind (uses_listTenantPodsForNodes hA (readyNames nodes))
          intro r
          cases r with
          | error err => trivial
          | ok sources => exact hpods cs sources

end

theorem onPods_of_leavesPods (c : Call) (hc : leavesPods c) : onPods c := by
  cases c <;> first | rfl | cases hc

theorem uses_reconcilePool (translator : PodService) (pool : VNodePool) :
    Prog.Uses (fun c => onPods c) (reconcilePool translator pool) :=
  uses_reconcilePool_of onPods_of_leavesPods fun _ _ =>
    uses_reconcilePods onPods_of_leavesPods (fun _ => rfl) fun _ _ _ _ => rfl

end VNodeOperator.Service.PodExecution
