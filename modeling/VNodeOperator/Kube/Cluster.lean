import VNodeOperator.Kube.Objects
import VNodeOperator.ProofSupport.Contracts
import VNodeOperator.ProofSupport.Store

/-!
# The clusters and their API

`Cluster` is everything outside the operator: the host cluster with the
operator's custom resources, and the tenant clusters.  `ApiCall` lists the
single API requests the adapters make, and `api` answers them the way an API
server does: optimistic locking on custom resources, a status subresource that
plain updates leave alone, removal of an object whose last finalizer is gone.
-/

namespace VNodeOperator.Kube

open Model ProofSupport

structure Clientset where
  id : String
  deriving DecidableEq, Repr

structure TenantCluster where
  pods : Store CorePod.key := .empty
  configMaps : Store ConfigMap.key := .empty
  secrets : Store Secret.key := .empty
  nodes : Store TenantNode.name := .empty
  leases : Store Lease.name := .empty
  hasLeaseNamespace : Bool := false

structure HostPod where
  spec : PodSpec
  status : PodStatus
  deriving DecidableEq

def HostPod.key (p : HostPod) : ObjKey := ⟨p.spec.ns, p.spec.name⟩

structure Cluster where
  vnodes : Store VNodeCR.key := .empty
  pools : Store VNodePoolCR.key := .empty
  hostPods : Store HostPod.key := .empty
  hostConfigMaps : Store ConfigMap.key := .empty
  hostSecrets : Store Secret.key := .empty
  tenants : Clientset → TenantCluster
  clock : Int := 0

/-- What a run takes as given: where each tenant reference leads, how quantities
parse, how the host shows a pod it has just stored, which pods it deletes
gracefully, the order in which VNodes are listed, and the operator's version.
Tenant references lead to the same cluster, or the same error, throughout a run:
the kubeconfig secrets stay as they are. -/
structure Env where
  connect : TenantRef → Except Err Clientset
  parseQuantity : String → Option Quantity
  newQuantity : Int → Quantity
  storePod : PodSpec → Except Err PodSpec
  storePod_key : ∀ p q, storePod p = .ok q → q.ns = p.ns ∧ q.name = p.name
  graceful : HostPod → Bool
  order : List VNodeCR → List VNodeCR
  order_perm : ∀ l, (order l).Perm l
  version : String

/-- Every tenant is reachable under the name of its secret, quantities keep
their text, pods are shown as they were created and go when they are deleted. -/
def Env.plain : Env where
  connect t := .ok ⟨t.kubeconfigSecret⟩
  parseQuantity s := some ⟨s, 0⟩
  newQuantity n := ⟨toString n, n⟩
  storePod p := .ok p
  storePod_key := by
    intro p q h
    cases h
    exact ⟨rfl, rfl⟩
  graceful _ := false
  order := id
  order_perm _ := List.Perm.refl _
  version := "dev"

/-! ## Single API requests -/

inductive ApiCall where
  | getVNode (k : ObjKey)
  | createVNode (cr : VNodeCR)
  | updateVNode (cr : VNodeCR)
  | updateVNodeStatus (cr : VNodeCR)
  | deleteVNode (k : ObjKey)
  | listVNodes (ns poolName : String)
  | getClient (tenant : TenantRef)
  | getLeaseNamespace (cs : Clientset)
  | createLeaseNamespace (cs : Clientset)
  | getNode (cs : Clientset) (name : String)
  | createNode (cs : Clientset) (node : TenantNode)
  | updateNode (cs : Clientset) (node : TenantNode)
  | updateNodeStatus (cs : Clientset) (node : TenantNode)
  | deleteNode (cs : Clientset) (name : String)
  | getLease (cs : Clientset) (name : String)
  | createLease (cs : Clientset) (lease : Lease)
  | updateLease (cs : Clientset) (lease : Lease)
  | deleteLease (cs : Clientset) (name : String)
  | getConfigMap (k : ObjKey)
  | createConfigMap (cm : ConfigMap)
  | updateConfigMap (cm : ConfigMap)
  | getSecret (k : ObjKey)
  | createSecret (s : Secret)
  | updateSecret (s : Secret)
  | deletePod (k : ObjKey)

@[reducible] def ApiCall.Value : ApiCall → Type
  | .getVNode _ | .createVNode _ => VNodeCR
  | .listVNodes _ _ => List VNodeCR
  | .getClient _ => Clientset
  | .getNode _ _ => TenantNode
  | .getLease _ _ => Lease
  | .getConfigMap _ => ConfigMap
  | .getSecret _ => Secret
  | _ => Unit

abbrev ApiCall.Reply (c : ApiCall) : Type := Except Err c.Value

abbrev Api := Prog ApiCall ApiCall.Reply

def request (c : ApiCall) : Api c.Reply := Prog.perform c

/-! ## The API server -/

def Cluster.setTenant (w : Cluster) (cs : Clientset) (t : TenantCluster) : Cluster :=
  { w with tenants := Function.update w.tenants cs t }

theorem Cluster.setTenant_self (w : Cluster) (cs : Clientset) :
    w.setTenant cs (w.tenants cs) = w := by
  rw [Cluster.setTenant, Function.update_eq_self]

def Cluster.putVNode (w : Cluster) (cr : VNodeCR) : Cluster :=
  { w with vnodes := w.vnodes.put cr }

def Cluster.putConfigMap (w : Cluster) (cm : ConfigMap) : Cluster :=
  { w with hostConfigMaps := w.hostConfigMaps.put cm }

def Cluster.putSecret (w : Cluster) (s : Secret) : Cluster :=
  { w with hostSecrets := w.hostSecrets.put s }

def Cluster.putNode (w : Cluster) (cs : Clientset) (node : TenantNode) : Cluster :=
  w.setTenant cs { w.tenants cs with nodes := (w.tenants cs).nodes.put node }

def Cluster.putLease (w : Cluster) (cs : Clientset) (lease : Lease) : Cluster :=
  w.setTenant cs { w.tenants cs with leases := (w.tenants cs).leases.put lease }

def find {κ α : Type} [DecidableEq κ] {key : α → κ} (s : Store key) (k : κ)
    (resource name : String) : Except Err α :=
  match s.get k with
  | some a => .ok a
  | none => .error (notFoundError resource name)

/-- The VNodes of a pool: those in its namespace that carry its label. -/
def Cluster.poolVNodes (w : Cluster) (ns poolName : String) : List VNodeCR :=
  w.vnodes.items.filter fun cr =>
    cr.ns = ns ∧ cr.labels.lookup labelVNodePool = some poolName

/-- Mark a pod for deletion, or remove it at once where the host does not
delete it gracefully.  A pod already being deleted stays as it is. -/
def Cluster.removePod (env : Env) (w : Cluster) (k : ObjKey) : Cluster :=
  match w.hostPods.get k with
  | none => w
  | some p =>
      if p.spec.deleting then w
      else if env.graceful p then
        { w with hostPods := w.hostPods.put { p with spec := { p.spec with deleting := true } } }
      else { w with hostPods := w.hostPods.erase k }

def matchesLabels (selector labels : StringMap) : Bool :=
  selector.entries.all fun kv => labels.lookup kv.1 = some kv.2

/-- The host pods a label query returns; an empty namespace asks for all. -/
def Cluster.podsByLabels (w : Cluster) (ns : String) (labels : StringMap) : List HostPod :=
  w.hostPods.items.filter fun p =>
    (ns = "" ∨ p.spec.ns = ns) ∧ matchesLabels labels p.spec.labels

def Cluster.addPod (w : Cluster) (pod : PodSpec) : Cluster :=
  { w with hostPods := w.hostPods.put ⟨pod, { phase := .pending }⟩ }

def Cluster.putTenantPod (w : Cluster) (cs : Clientset) (pod : CorePod) : Cluster :=
  w.setTenant cs { w.tenants cs with pods := (w.tenants cs).pods.put pod }

/-- A merge patch writes the fields in which `status` differs from `base`. -/
def mergeStatus (base status current : VNodePoolStatus) : VNodePoolStatus where
  phase := if base.phase = status.phase then current.phase else status.phase
  readyNodes := if base.readyNodes = status.readyNodes then current.readyNodes
    else status.readyNodes
  totalNodes := if base.totalNodes = status.totalNodes then current.totalNodes
    else status.totalNodes
  conditions := if base.conditions = status.conditions then current.conditions
    else status.conditions

def Cluster.putPool (w : Cluster) (cr : VNodePoolCR) : Cluster :=
  { w with pools := w.pools.put cr }

/-- A plain update of a pool: the status and the deletion timestamp are not
the client's to change, and a pool being deleted goes with its last
finalizer. -/
def Cluster.updatePool (w : Cluster) (old cr : VNodePoolCR) : Cluster :=
  if old.deletionTimestamp.isSome ∧ cr.finalizers = [] then
    { w with pools := w.pools.erase old.key }
  else
    w.putPool
      { cr with
        resourceVersion := old.resourceVersion + 1
        deletionTimestamp := old.deletionTimestamp
        status := old.status }

def api (env : Env) : Handler ApiCall ApiCall.Reply Cluster
  | .getVNode k, w => (find w.vnodes k "vnodes.vnode.kroderdev.io" k.name, w)
  | .createVNode cr, w =>
      match w.vnodes.get cr.key with
      | some _ => (.error (alreadyExistsError "vnodes.vnode.kroderdev.io" cr.name), w)
      | none =>
          let created : VNodeCR :=
            { cr with
              resourceVersion := 1
              creationTimestamp := w.clock
              phase := .unset
              conditions := [] }
          (.ok created, w.putVNode created)
  | .updateVNode cr, w =>
      match w.vnodes.get cr.key with
      | none => (.error (notFoundError "vnodes.vnode.kroderdev.io" cr.name), w)
      | some old =>
          if cr.resourceVersion ≠ old.resourceVersion then
            (.error (conflictError "vnodes.vnode.kroderdev.io" cr.name), w)
          else
            (.ok (), w.putVNode
              { cr with
                resourceVersion := old.resourceVersion + 1
                phase := old.phase
                conditions := old.conditions })
  | .updateVNodeStatus cr, w =>
      match w.vnodes.get cr.key with
      | none => (.error (notFoundError "vnodes.vnode.kroderdev.io" cr.name), w)
      | some old =>
          if cr.resourceVersion ≠ old.resourceVersion then
            (.error (conflictError "vnodes.vnode.kroderdev.io" cr.name), w)
          else
            (.ok (), w.putVNode
              { old with
                resourceVersion := old.resourceVersion + 1
                phase := cr.phase
                conditions := cr.conditions })
  | .deleteVNode k, w =>
      match w.vnodes.get k with
      | none => (.error (notFoundError "vnodes.vnode.kroderdev.io" k.name), w)
      | some _ => (.ok (), { w with vnodes := w.vnodes.erase k })
  | .listVNodes ns poolName, w => (.ok (env.order (w.poolVNodes ns poolName)), w)
  | .getClient tenant, w => (env.connect tenant, w)
  | .getLeaseNamespace cs, w =>
      if (w.tenants cs).hasLeaseNamespace then (.ok (), w)
      else (.error (notFoundError "namespaces" "kube-node-lease"), w)
  | .createLeaseNamespace cs, w =>
      if (w.tenants cs).hasLeaseNamespace then
        (.error (alreadyExistsError "namespaces" "kube-node-lease"), w)
      else (.ok (), w.setTenant cs { w.tenants cs with hasLeaseNamespace := true })
  | .getNode cs name, w => (find (w.tenants cs).nodes name "nodes" name, w)
  | .createNode cs node, w =>
      match (w.tenants cs).nodes.get node.name with
      | some _ => (.error (alreadyExistsError "nodes" node.name), w)
      | none => (.ok (), w.putNode cs node)
  | .updateNode cs node, w =>
      match (w.tenants cs).nodes.get node.name with
      | none => (.error (notFoundError "nodes" node.name), w)
      | some old =>
          (.ok (), w.putNode cs
            { old with
              labels := node.labels
              annotations := node.annotations
              taints := node.taints
              unschedulable := node.unschedulable })
  | .updateNodeStatus cs node, w =>
      match (w.tenants cs).nodes.get node.name with
      | none => (.error (notFoundError "nodes" node.name), w)
      | some old =>
          (.ok (), w.putNode cs
            { old with
              capacity := node.capacity
              allocatable := node.allocatable
              conditions := node.conditions
              kubeletVersion := node.kubeletVersion })
  | .deleteNode cs name, w =>
      match (w.tenants cs).nodes.get name with
      | none => (.error (notFoundError "nodes" name), w)
      | some _ => (.ok (), w.setTenant cs
          { w.tenants cs with nodes := (w.tenants cs).nodes.erase name })
  | .getLease cs name, w =>
      (find (w.tenants cs).leases name "leases.coordination.k8s.io" name, w)
  | .createLease cs lease, w =>
      match (w.tenants cs).leases.get lease.name with
      | some _ => (.error (alreadyExistsError "leases.coordination.k8s.io" lease.name), w)
      | none => (.ok (), w.putLease cs lease)
  | .updateLease cs lease, w =>
      match (w.tenants cs).leases.get lease.name with
      | none => (.error (notFoundError "leases.coordination.k8s.io" lease.name), w)
      | some _ => (.ok (), w.putLease cs lease)
  | .deleteLease cs name, w =>
      match (w.tenants cs).leases.get name with
      | none => (.error (notFoundError "leases.coordination.k8s.io" name), w)
      | some _ => (.ok (), w.setTenant cs
          { w.tenants cs with leases := (w.tenants cs).leases.erase name })
  | .getConfigMap k, w => (find w.hostConfigMaps k "configmaps" k.name, w)
  | .createConfigMap cm, w =>
      match w.hostConfigMaps.get cm.key with
      | some _ => (.error (alreadyExistsError "configmaps" cm.name), w)
      | none => (.ok (), w.putConfigMap cm)
  | .updateConfigMap cm, w =>
      match w.hostConfigMaps.get cm.key with
      | none => (.error (notFoundError "configmaps" cm.name), w)
      | some _ => (.ok (), w.putConfigMap cm)
  | .getSecret k, w => (find w.hostSecrets k "secrets" k.name, w)
  | .createSecret s, w =>
      match w.hostSecrets.get s.key with
      | some _ => (.error (alreadyExistsError "secrets" s.name), w)
      | none => (.ok (), w.putSecret s)
  | .updateSecret s, w =>
      match w.hostSecrets.get s.key with
      | none => (.error (notFoundError "secrets" s.name), w)
      | some _ => (.ok (), w.putSecret s)
  | .deletePod k, w =>
      match w.hostPods.get k with
      | none => (.error (notFoundError "pods" k.name), w)
      | some _ => (.ok (), w.removePod env k)

/-- The first attempt and at most `retries` more, as long as the write meets a
conflict. -/
def retryOnConflict {C : Type} {R : C → Type} :
    Nat → Prog C R (Except Err Unit) → Prog C R (Except Err Unit)
  | 0, fn => fn
  | retries + 1, fn => do
      match ← fn with
      | .error err => if err.isConflict then retryOnConflict retries fn else pure (.error err)
      | .ok () => pure (.ok ())

/-- `retry.DefaultRetry` allows five attempts. -/
def defaultRetries : Nat := 4

theorem run_retryOnConflict_ok {C : Type} {R : C → Type} {σ : Type} {h : Handler C R σ}
    {fn : Prog C R (Except Err Unit)} {s s' : σ} (hfn : Prog.run h fn s = (.ok (), s')) :
    ∀ n, Prog.run h (retryOnConflict n fn) s = (.ok (), s')
  | 0 => hfn
  | n + 1 => by
      rw [retryOnConflict, Prog.run_bind, hfn]
      rfl

theorem run_retryOnConflict_error {C : Type} {R : C → Type} {σ : Type} {h : Handler C R σ}
    {fn : Prog C R (Except Err Unit)} {s s' : σ} {err : Err}
    (hfn : Prog.run h fn s = (.error err, s')) (hkind : err.isConflict = false) :
    ∀ n, Prog.run h (retryOnConflict n fn) s = (.error err, s')
  | 0 => hfn
  | n + 1 => by
      rw [retryOnConflict, Prog.run_bind, hfn]
      simp only [hkind]
      rfl

theorem uses_retryOnConflict {C : Type} {R : C → Type} {A : C → Prop}
    {fn : Prog C R (Except Err Unit)} (hfn : Prog.Uses A fn) :
    ∀ n, Prog.Uses A (retryOnConflict n fn)
  | 0 => hfn
  | n + 1 => by
      rw [retryOnConflict]
      refine Prog.Uses.bind hfn ?_
      intro r
      cases r with
      | ok u => exact Prog.Uses.pure _
      | error err =>
          dsimp only
          split
          · exact uses_retryOnConflict hfn n
          · exact Prog.Uses.pure _

theorem meets_retryOnConflict {C : Type} {R : C → Type} {K : Contract C R}
    {fn : Prog C R (Except Err Unit)} (hfn : Prog.Meets K (fun _ => True) fn) :
    ∀ retries, Prog.Meets K (fun _ => True) (retryOnConflict retries fn)
  | 0 => hfn
  | retries + 1 => by
      rw [retryOnConflict]
      apply Prog.Meets.bind hfn
      intro r _
      cases r with
      | ok u => trivial
      | error err =>
          dsimp only
          split
          · exact meets_retryOnConflict hfn retries
          · trivial

theorem Cluster.removePod_eq (env : Env) (w : Cluster) (k : ObjKey) :
    w.removePod env k = { w with hostPods := (w.removePod env k).hostPods } := by
  unfold Cluster.removePod
  split
  · rfl
  · split
    · rfl
    · split <;> rfl

/-- The operator's requests to the API servers write no pool. -/
theorem api_pools (env : Env) (c : ApiCall) (w : Cluster) : (api env c w).2.pools = w.pools := by
  cases c with
  | deletePod k =>
      simp only [api]
      split
      · rfl
      · rw [Cluster.removePod_eq]
  | _ =>
      simp only [api]
      repeat' split
      all_goals rfl

theorem api_hostPods (env : Env) {c : ApiCall} (hc : ∀ k, c ≠ .deletePod k) (w : Cluster) :
    (api env c w).2.hostPods = w.hostPods := by
  cases c with
  | deletePod k => exact absurd rfl (hc k)
  | _ =>
      simp only [api]
      repeat' split
      all_goals rfl

inductive VNodeStep (c : ApiCall) (s s' : Store VNodeCR.key) : Prop
  | same (h : s' = s)
  | created (cr : VNodeCR) (clock : Int) (hc : c = .createVNode cr) (hfree : s.get cr.key = none)
      (h : s' = s.put { cr with
        resourceVersion := 1, creationTimestamp := clock, phase := .unset, conditions := [] })
  | updated (cr old : VNodeCR) (hc : c = .updateVNode cr) (hold : s.get cr.key = some old)
      (h : s' = s.put { cr with
        resourceVersion := old.resourceVersion + 1
        phase := old.phase
        conditions := old.conditions })
  | statusUpdated (cr old : VNodeCR) (hc : c = .updateVNodeStatus cr)
      (hold : s.get cr.key = some old)
      (h : s' = s.put { old with
        resourceVersion := old.resourceVersion + 1
        phase := cr.phase
        conditions := cr.conditions })
  | deleted (k : ObjKey) (hc : c = .deleteVNode k) (h : s' = s.erase k)

theorem vnodeStep_api (env : Env) (c : ApiCall) (w : Cluster) :
    VNodeStep c w.vnodes (api env c w).2.vnodes := by
  cases c with
  | createVNode cr =>
      cases h : w.vnodes.get cr.key with
      | some old => exact .same (by simp only [api, h])
      | none => exact .created cr w.clock rfl h (by simp only [api, h]; rfl)
  | updateVNode cr =>
      cases h : w.vnodes.get cr.key with
      | none => exact .same (by simp only [api, h])
      | some old =>
          by_cases hversion : cr.resourceVersion = old.resourceVersion
          · exact .updated cr old rfl h (by simp [api, h, hversion, Cluster.putVNode])
          · exact .same (by simp [api, h, hversion])
  | updateVNodeStatus cr =>
      cases h : w.vnodes.get cr.key with
      | none => exact .same (by simp only [api, h])
      | some old =>
          by_cases hversion : cr.resourceVersion = old.resourceVersion
          · exact .statusUpdated cr old rfl h (by simp [api, h, hversion, Cluster.putVNode])
          · exact .same (by simp [api, h, hversion])
  | deleteVNode k =>
      cases h : w.vnodes.get k with
      | none => exact .same (by simp only [api, h])
      | some old => exact .deleted k rfl (by simp only [api, h])
  | deletePod k =>
      refine .same ?_
      simp only [api]
      split
      · rfl
      · rw [Cluster.removePod_eq]
  | _ =>
      refine .same ?_
      simp only [api]
      repeat' split
      all_goals rfl

inductive TenantNodeStep (c : ApiCall) (cs : Clientset) (s s' : Store TenantNode.name) : Prop
  | same (h : s' = s)
  | created (n : TenantNode) (hc : c = .createNode cs n) (hfree : s.get n.name = none)
      (h : s' = s.put n)
  | updated (n old : TenantNode) (hc : c = .updateNode cs n) (hold : s.get n.name = some old)
      (h : s' = s.put { old with
        labels := n.labels
        annotations := n.annotations
        taints := n.taints
        unschedulable := n.unschedulable })
  | statusUpdated (n old : TenantNode) (hc : c = .updateNodeStatus cs n)
      (hold : s.get n.name = some old)
      (h : s' = s.put { old with
        capacity := n.capacity
        allocatable := n.allocatable
        conditions := n.conditions
        kubeletVersion := n.kubeletVersion })
  | deleted (name : String) (hc : c = .deleteNode cs name) (h : s' = s.erase name)

theorem Cluster.setTenant_tenants (w : Cluster) (cs cs' : Clientset) (t : TenantCluster) :
    (w.setTenant cs t).tenants cs' = if cs' = cs then t else w.tenants cs' :=
  Function.update_apply w.tenants cs t cs'

theorem tenantNodeStep_api (env : Env) (c : ApiCall) (cs : Clientset) (w : Cluster) :
    TenantNodeStep c cs (w.tenants cs).nodes ((api env c w).2.tenants cs).nodes := by
  -- a change of tenant `cs'` leaves the nodes of `cs` alone unless it is the same cluster
  have hother : ∀ (cs' : Clientset) (t : TenantCluster), cs' ≠ cs →
      ((w.setTenant cs' t).tenants cs).nodes = (w.tenants cs).nodes := by
    intro cs' t hne
    rw [Cluster.setTenant_tenants, if_neg hne.symm]
  have hself : ∀ t : TenantCluster, (w.setTenant cs t).tenants cs = t := by
    intro t
    rw [Cluster.setTenant_tenants, if_pos rfl]
  have hkept : ∀ (cs' : Clientset) (t : TenantCluster), t.nodes = (w.tenants cs').nodes →
      ((w.setTenant cs' t).tenants cs).nodes = (w.tenants cs).nodes := by
    intro cs' t ht
    by_cases hcs : cs' = cs
    · subst hcs
      rw [hself, ht]
    · exact hother cs' t hcs
  cases c with
  | createNode cs' n =>
      cases h : (w.tenants cs').nodes.get n.name with
      | some old => exact .same (by simp only [api, h])
      | none =>
          by_cases hcs : cs' = cs
          · subst hcs
            exact .created n rfl h (by simp only [api, h, Cluster.putNode, hself])
          · exact .same (by simp only [api, h, Cluster.putNode, hother _ _ hcs])
  | updateNode cs' n =>
      cases h : (w.tenants cs').nodes.get n.name with
      | none => exact .same (by simp only [api, h])
      | some old =>
          by_cases hcs : cs' = cs
          · subst hcs
            exact .updated n old rfl h (by simp only [api, h, Cluster.putNode, hself])
          · exact .same (by simp only [api, h, Cluster.putNode, hother _ _ hcs])
  | updateNodeStatus cs' n =>
      cases h : (w.tenants cs').nodes.get n.name with
      | none => exact .same (by simp only [api, h])
      | some old =>
          by_cases hcs : cs' = cs
          · subst hcs
            exact .statusUpdated n old rfl h (by simp only [api, h, Cluster.putNode, hself])
          · exact .same (by simp only [api, h, Cluster.putNode, hother _ _ hcs])
  | deleteNode cs' name =>
      cases h : (w.tenants cs').nodes.get name with
      | none => exact .same (by simp only [api, h])
      | some old =>
          by_cases hcs : cs' = cs
          · subst hcs
            exact .deleted name rfl (by simp only [api, h, hself])
          · exact .same (by simp only [api, h, hother _ _ hcs])
  | deletePod k =>
      refine .same ?_
      simp only [api]
      split
      · rfl
      · rw [Cluster.removePod_eq]
  | _ =>
      refine .same ?_
      simp only [api]
      repeat' split
      all_goals first | rfl | exact hkept _ _ rfl

theorem Cluster.removePod_hostPods_congr (env : Env) {w w' : Cluster} (k : ObjKey)
    (h : w'.hostPods = w.hostPods) :
    (w'.removePod env k).hostPods = (w.removePod env k).hostPods := by
  unfold Cluster.removePod
  rw [h]
  split
  · exact h
  · split
    · exact h
    · split <;> rfl

theorem Cluster.get_removePod_ne (env : Env) (w : Cluster) {k k' : ObjKey} (h : k ≠ k') :
    (w.removePod env k).hostPods.get k' = w.hostPods.get k' := by
  unfold Cluster.removePod
  split
  · rfl
  · next p hp =>
      have hkey : p.key = k := Store.key_of_get hp
      split
      · rfl
      · split
        · refine Store.get_put_ne w.hostPods ?_
          intro heq
          exact h (hkey.symm.trans heq)
        · exact Store.get_erase_ne w.hostPods h

theorem Cluster.deleting_of_get_removePod (env : Env) {w : Cluster} {k : ObjKey} {p : HostPod}
    (h : (w.removePod env k).hostPods.get k = some p) : p.spec.deleting = true := by
  unfold Cluster.removePod at h
  split at h
  · next hnone =>
      rw [hnone] at h
      cases h
  · next old hold =>
      split at h
      · next hdeleting =>
          rw [hold, Option.some.injEq] at h
          rw [← h]
          exact hdeleting
      · split at h
        · rw [← Store.key_of_get hold] at h
          have hself := Store.get_put_self w.hostPods
            { old with spec := { old.spec with deleting := true } }
          have hp := Option.some.inj (h.symm.trans hself)
          rw [hp]
        · rw [Store.get_erase_self] at h
          cases h

theorem find_some {κ α : Type} [DecidableEq κ] {key : α → κ} {s : Store key} {k : κ} {a : α}
    (resource name : String) (h : s.get k = some a) : find s k resource name = .ok a := by
  simp [find, h]

theorem find_none {κ α : Type} [DecidableEq κ] {key : α → κ} {s : Store key} {k : κ}
    (resource name : String) (h : s.get k = none) :
    find s k resource name = .error (notFoundError resource name) := by
  simp [find, h]

theorem get_of_find {κ α : Type} [DecidableEq κ] {key : α → κ} {s : Store key} {k : κ}
    {resource name : String} {a : α} (h : find s k resource name = .ok a) : s.get k = some a := by
  unfold find at h
  split at h
  · next found hfound =>
      cases h
      exact hfound
  · cases h

end VNodeOperator.Kube
