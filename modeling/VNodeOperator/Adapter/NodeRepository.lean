import VNodeOperator.Kube.Cluster

/-!
# VNode custom resources as a repository

`NodeRepository` of `internal/adapter/outbound/kubeclient/client.go`: virtual
nodes are saved to and read from `VNode` custom resources.
-/

namespace VNodeOperator.Adapter.NodeRepository

open Model Kube ProofSupport

def annotationVClusterName : String := "vnode.kroderdev.io/vcluster-name"
def annotationVClusterNamespace : String := "vnode.kroderdev.io/vcluster-namespace"
def annotationKubeconfigSecret : String := "vnode.kroderdev.io/kubeconfig-secret"

def annotateTenant (annotations : StringMap) (t : TenantRef) : StringMap :=
  ((annotations.insert annotationVClusterName t.vclusterName).insert
    annotationVClusterNamespace t.vclusterNamespace).insert
    annotationKubeconfigSecret t.kubeconfigSecret

def tenantOf (annotations : StringMap) : TenantRef where
  vclusterName := annotations.at annotationVClusterName
  vclusterNamespace := annotations.at annotationVClusterNamespace
  kubeconfigSecret := annotations.at annotationKubeconfigSecret

theorem tenantOf_annotateTenant (annotations : StringMap) (t : TenantRef) :
    tenantOf (annotateTenant annotations t) = t := by
  simp [tenantOf, annotateTenant, StringMap.at, annotationVClusterName,
    annotationVClusterNamespace, annotationKubeconfigSecret, AList.lookup_insert_ne]

def conditionToCR (c : NodeCondition) : VNodeCondition where
  type := c.type
  status := if c.status then .true else .false
  reason := c.reason
  message := c.message

def conditionFromCR (c : VNodeCondition) : NodeCondition where
  type := c.type
  status := c.status = .true
  reason := c.reason
  message := c.message

def applyNodeStatus (cr : VNodeCR) (node : VNode) : VNodeCR :=
  { cr with
    phase := node.phase
    conditions := node.conditions.map conditionToCR }

def crToNode (cr : VNodeCR) : VNode where
  name := cr.name
  ns := cr.ns
  poolName := cr.poolRef
  tenantRef := tenantOf cr.annotations
  phase := cr.phase
  capacity := cr.capacity
  allocatable := cr.capacity
  conditions := cr.conditions.map conditionFromCR

/-- The custom resource `Save` creates for a node that has none. -/
def newCR (node : VNode) : VNodeCR where
  name := node.name
  ns := node.ns
  labels := AList.insert labelVNodePool node.poolName ∅
  annotations := annotateTenant ∅ node.tenantRef
  poolRef := node.poolName
  capacity := node.capacity

def keyOf (node : VNode) : ObjKey := ⟨node.ns, node.name⟩

def isIgnorableClientError (e : Err) : Bool :=
  e.kind = .canceled || e.kind = .deadlineExceeded

def updateStatus (node : VNode) : Api (Except Err Unit) :=
  retryOnConflict defaultRetries do
    match ← request (.getVNode (keyOf node)) with
    | .error err => return if isIgnorableClientError err then .ok () else .error err
    | .ok current =>
        match ← request (.updateVNodeStatus (applyNodeStatus current node)) with
        | .error err => return if isIgnorableClientError err then .ok () else .error err
        | .ok () => return .ok ()

def updateAnnotations (node : VNode) : Api (Except Err Unit) :=
  retryOnConflict defaultRetries do
    match ← request (.getVNode (keyOf node)) with
    | .error err => return .error err
    | .ok current =>
        request (.updateVNode
          { current with annotations := annotateTenant current.annotations node.tenantRef })

def save (node : VNode) : Api (Except Err Unit) := do
  match ← request (.getVNode (keyOf node)) with
  | .error err =>
      if err.isNotFound then
        match ← request (.createVNode (newCR node)) with
        | .error createErr => return .error (createErr.wrap "creating VNode CR")
        | .ok cr =>
            match ← request (.updateVNodeStatus (applyNodeStatus cr node)) with
            | .error err =>
                if err.isConflict || err.isNotFound then updateStatus node
                else return .error err
            | .ok () => return .ok ()
      else return .error err
  | .ok _ =>
      match ← updateAnnotations node with
      | .error err => return if isIgnorableClientError err then .ok () else .error err
      | .ok () => updateStatus node

def delete (k : ObjKey) : Api (Except Err Unit) := request (.deleteVNode k)

def listByPool (ns poolName : String) : Api (Except Err (List VNode)) := do
  match ← request (.listVNodes ns poolName) with
  | .error err => return .error err
  | .ok list => return .ok (list.map crToNode)

/-! ## The requests of the operations -/

theorem uses_listByPool {A : ApiCall → Prop} {ns poolName : String}
    (hlist : A (.listVNodes ns poolName)) : Prog.Uses A (listByPool ns poolName) := by
  apply Prog.Uses.bind (Prog.Uses.perform hlist)
  intro listed
  cases listed <;> exact Prog.Uses.pure _

theorem uses_updateStatus {A : ApiCall → Prop} {node : VNode} (hget : A (.getVNode (keyOf node)))
    (hstatus : ∀ cr, A (.updateVNodeStatus (applyNodeStatus cr node))) :
    Prog.Uses A (updateStatus node) := by
  apply uses_retryOnConflict
  apply Prog.Uses.bind (Prog.Uses.perform hget)
  intro r
  cases r with
  | error err => exact Prog.Uses.pure _
  | ok current =>
      apply Prog.Uses.bind (Prog.Uses.perform (hstatus current))
      intro r
      cases r <;> exact Prog.Uses.pure _

theorem uses_save {A : ApiCall → Prop} {node : VNode} (hget : A (.getVNode (keyOf node)))
    (hcreate : A (.createVNode (newCR node)))
    (hupdate : ∀ cr : VNodeCR, A (.updateVNode
      { cr with annotations := annotateTenant cr.annotations node.tenantRef }))
    (hstatus : ∀ cr, A (.updateVNodeStatus (applyNodeStatus cr node))) :
    Prog.Uses A (save node) := by
  have hrest : Prog.Uses A (updateStatus node) := uses_updateStatus hget hstatus
  have hannotate : Prog.Uses A (updateAnnotations node) := by
    apply uses_retryOnConflict
    apply Prog.Uses.bind (Prog.Uses.perform hget)
    intro r
    cases r with
    | error err => exact Prog.Uses.pure _
    | ok current => exact Prog.Uses.perform (hupdate current)
  apply Prog.Uses.bind (Prog.Uses.perform hget)
  intro r
  cases r with
  | ok cr =>
      apply Prog.Uses.bind hannotate
      intro r
      cases r with
      | error err => exact Prog.Uses.pure _
      | ok u => exact hrest
  | error err =>
      dsimp only
      split
      · apply Prog.Uses.bind (Prog.Uses.perform hcreate)
        intro r
        cases r with
        | error err => exact Prog.Uses.pure _
        | ok cr =>
            apply Prog.Uses.bind (Prog.Uses.perform (hstatus cr))
            intro r
            cases r with
            | ok u => exact Prog.Uses.pure _
            | error err =>
                dsimp only
                split
                · exact hrest
                · exact Prog.Uses.pure _
      · exact Prog.Uses.pure _

/-! ## What the repository does to the cluster -/

/-- The custom resource stored by a `Save` that finds `old`: only annotations
and status are written, in two updates. -/
def savedOver (old : VNodeCR) (node : VNode) : VNodeCR :=
  applyNodeStatus
    { old with
      resourceVersion := old.resourceVersion + 2
      annotations := annotateTenant old.annotations node.tenantRef } node

def savedNew (clock : Int) (node : VNode) : VNodeCR :=
  applyNodeStatus
    { newCR node with
      resourceVersion := 2
      creationTimestamp := clock } node

def saved (w : Cluster) (node : VNode) : VNodeCR :=
  match w.vnodes.get (keyOf node) with
  | some old => savedOver old node
  | none => savedNew w.clock node

variable (env : Env)

theorem run_updateStatus {w : Cluster} {node : VNode} {old : VNodeCR}
    (h : w.vnodes.get (keyOf node) = some old) :
    Prog.run (api env) (updateStatus node) w =
      (.ok (), w.putVNode
        { applyNodeStatus old node with resourceVersion := old.resourceVersion + 1 }) := by
  have hold : old.key = keyOf node := Store.key_of_get h
  have hkey : (applyNodeStatus old node).key = keyOf node := hold
  have hget : api env (.getVNode (keyOf node)) w = (.ok old, w) := by
    simp only [api, find_some _ _ h]
  have hupdate : api env (.updateVNodeStatus (applyNodeStatus old node)) w =
      (.ok (), w.putVNode
        { applyNodeStatus old node with resourceVersion := old.resourceVersion + 1 }) := by
    simp only [api, hkey, h]
    simp [applyNodeStatus]
  apply run_retryOnConflict_ok
  simp only [request, Prog.run_bind, Prog.run_perform, hget, hupdate, Prog.run_pure]

theorem run_updateAnnotations {w : Cluster} {node : VNode} {old : VNodeCR}
    (h : w.vnodes.get (keyOf node) = some old) :
    Prog.run (api env) (updateAnnotations node) w =
      (.ok (), w.putVNode
        { old with
          resourceVersion := old.resourceVersion + 1
          annotations := annotateTenant old.annotations node.tenantRef }) := by
  have hkey : old.key = keyOf node := Store.key_of_get h
  have hget : api env (.getVNode (keyOf node)) w = (.ok old, w) := by
    simp only [api, find_some _ _ h]
  have hupdate : api env (.updateVNode
      { old with annotations := annotateTenant old.annotations node.tenantRef }) w =
      (.ok (), w.putVNode
        { old with
          resourceVersion := old.resourceVersion + 1
          annotations := annotateTenant old.annotations node.tenantRef }) := by
    have hkey' : ({ old with annotations := annotateTenant old.annotations node.tenantRef } :
        VNodeCR).key = keyOf node := hkey
    simp only [api, hkey', h]
    simp
  apply run_retryOnConflict_ok
  simp only [request, Prog.run_bind, Prog.run_perform, hget, hupdate]

/-- `Save` stores `saved`, in one or two updates that leave nothing else of
them behind. -/
theorem run_save (w : Cluster) (node : VNode) :
    Prog.run (api env) (save node) w = (.ok (), w.putVNode (saved w node)) := by
  cases h : w.vnodes.get (keyOf node) with
  | none =>
      have hget : api env (.getVNode (keyOf node)) w =
          (.error (notFoundError "vnodes.vnode.kroderdev.io" (keyOf node).name), w) := by
        simp only [api, find_none _ _ h]
      let created : VNodeCR :=
        { newCR node with resourceVersion := 1, creationTimestamp := w.clock }
      have hcreate : api env (.createVNode (newCR node)) w =
          (.ok created, w.putVNode created) := by
        have hkey : (newCR node).key = keyOf node := rfl
        simp only [api, hkey, h]
        rfl
      have hfound : (w.putVNode created).vnodes.get (applyNodeStatus created node).key =
          some created := Store.get_put_self w.vnodes created
      have hstatus : api env (.updateVNodeStatus (applyNodeStatus created node))
          (w.putVNode created) =
          (.ok (), (w.putVNode created).putVNode (savedNew w.clock node)) := by
        simp only [api, hfound]
        rfl
      have hput : (w.putVNode created).putVNode (savedNew w.clock node) =
          w.putVNode (savedNew w.clock node) := by
        simp only [Cluster.putVNode]
        rw [Store.put_put]
        rfl
      simp only [save, request, Prog.run_bind, Prog.run_perform, hget, Err.isNotFound,
        notFoundError, decide_true, if_true, hcreate, hstatus, Prog.run_pure, hput, saved, h]
  | some old =>
      have hget : api env (.getVNode (keyOf node)) w = (.ok old, w) := by
        simp only [api, find_some _ _ h]
      let annotated : VNodeCR :=
        { old with
          resourceVersion := old.resourceVersion + 1
          annotations := annotateTenant old.annotations node.tenantRef }
      have hold : old.key = keyOf node := Store.key_of_get h
      have hkey : annotated.key = keyOf node := hold
      have hfound : (w.putVNode annotated).vnodes.get (keyOf node) = some annotated := by
        rw [← hkey]
        exact Store.get_put_self w.vnodes annotated
      have hput : (w.putVNode annotated).putVNode (savedOver old node) =
          w.putVNode (savedOver old node) := by
        simp only [Cluster.putVNode]
        rw [Store.put_put]
        rfl
      simp only [save, request, Prog.run_bind, Prog.run_perform, hget,
        run_updateAnnotations env h, saved, h]
      exact (run_updateStatus env hfound).trans (congrArg (Prod.mk _) hput)

theorem run_delete (w : Cluster) (k : ObjKey) :
    Prog.run (api env) (delete k) w =
      match w.vnodes.get k with
      | none => (.error (notFoundError "vnodes.vnode.kroderdev.io" k.name), w)
      | some _ => (.ok (), { w with vnodes := w.vnodes.erase k }) := by
  rfl

theorem run_listByPool (w : Cluster) (ns poolName : String) :
    Prog.run (api env) (listByPool ns poolName) w =
      (.ok ((env.order (w.poolVNodes ns poolName)).map crToNode), w) := by
  rfl

@[simp] theorem saved_key (w : Cluster) (node : VNode) : (saved w node).key = keyOf node := by
  unfold saved
  split
  · next old h =>
      have hold : old.key = keyOf node := Store.key_of_get h
      exact hold
  · rfl

end VNodeOperator.Adapter.NodeRepository
