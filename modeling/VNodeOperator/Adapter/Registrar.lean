import VNodeOperator.Kube.Cluster

/-!
# Tenant node registration

`Registrar` of `internal/adapter/outbound/virtualkubelet/registrar.go`: a
virtual node shows up in the tenant cluster as a `Node` and a `Lease`.
-/

namespace VNodeOperator.Adapter.Registrar

open Model Kube ProofSupport

/-- `resource.MustParse`, which panics on a string that does not parse.  The panic is an
error here: callers go on with it, where the real one unwinds them. -/
def mustParse (env : Env) (s : String) : Except Err Quantity :=
  match env.parseQuantity s with
  | some q => .ok q
  | none => .error ⟨.panicked, "cannot parse '" ++ s ++ "'"⟩

def parseEntry (env : Env) (s : String) : Except Err (Option Quantity) :=
  if s = "" then .ok none else (mustParse env s).map some

def buildResources (env : Env) (r : ResourceList) : Except Err CoreResourceList := do
  let cpu ← parseEntry env r.cpu
  let memory ← parseEntry env r.memory
  return {
    cpu := cpu
    memory := memory
    pods := if r.pods > 0 then some (env.newQuantity r.pods) else none }

/-- The conditions keep their types, `Ready` being `corev1.NodeReady`. -/
def buildNodeConditions (node : VNode) : List NodeCondition := node.conditions

def nodeLabels (node : VNode) : StringMap :=
  (((((((AList.insert "kubernetes.io/os" "linux" ∅).insert
    "kubernetes.io/arch" "amd64").insert
    "kubernetes.io/hostname" node.name).insert
    "node.kubernetes.io/exclude-from-external-load-balancers" "true").insert
    "node-role.kubernetes.io/worker" "").insert
    "vnode.kroderdev.io/managed" "true").insert
    "vnode.kroderdev.io/pool" node.poolName).insert
    "vnode.kroderdev.io/vnode" node.name

def nodeAnnotations (node : VNode) : StringMap :=
  (AList.insert "vnode.kroderdev.io/vcluster-name" node.tenantRef.vclusterName ∅).insert
    "vnode.kroderdev.io/vcluster-namespace" node.tenantRef.vclusterNamespace

def mapNodeTaints (taints : List Taint) : List Taint := taints

def ensureLeaseNamespace (cs : Clientset) : Api (Except Err Unit) := do
  match ← request (.getLeaseNamespace cs) with
  | .ok () => return .ok ()
  | .error err =>
      if err.isNotFound then
        match ← request (.createLeaseNamespace cs) with
        | .ok () => return .ok ()
        | .error err =>
            return if err.kind = .alreadyExists then .ok ()
              else .error (err.wrap "creating lease namespace")
      else return .error (err.wrap "getting lease namespace")

def upsertNode (cs : Clientset) (node : VNode) : Api (Except Err Unit) := do
  match ← request (.getNode cs node.name) with
  | .error err =>
      if err.isNotFound then
        match ← request (.createNode cs
          { name := node.name
            labels := nodeLabels node
            annotations := nodeAnnotations node
            taints := mapNodeTaints node.taints }) with
        | .error err => return .error (err.wrap ("creating tenant node " ++ node.name))
        | .ok () => return .ok ()
      else return .error (err.wrap ("getting tenant node " ++ node.name))
  | .ok current =>
      match ← request (.updateNode cs
        { current with
          labels := nodeLabels node
          annotations := nodeAnnotations node
          taints := mapNodeTaints node.taints }) with
      | .error err => return .error (err.wrap ("updating tenant node " ++ node.name))
      | .ok () => return .ok ()

def leaseDuration : Int := 40

def upsertLease (cs : Clientset) (nodeName : String) : Api (Except Err Unit) := do
  match ← request (.getLease cs nodeName) with
  | .error err =>
      if err.isNotFound then
        match ← request (.createLease cs
          { name := nodeName
            holderIdentity := nodeName
            leaseDurationSeconds := leaseDuration }) with
        | .error err => return .error (err.wrap ("creating node lease " ++ nodeName))
        | .ok () => return .ok ()
      else return .error (err.wrap ("getting node lease " ++ nodeName))
  | .ok current =>
      match ← request (.updateLease cs
        { current with
          holderIdentity := nodeName
          leaseDurationSeconds := leaseDuration }) with
      | .error err => return .error (err.wrap ("updating node lease " ++ nodeName))
      | .ok () => return .ok ()

def withStatus (env : Env) (current : TenantNode) (node : VNode) : Except Err TenantNode := do
  let capacity ← buildResources env node.capacity
  let allocatable ← buildResources env node.allocatable
  return { current with
    capacity := capacity
    allocatable := allocatable
    conditions := buildNodeConditions node
    kubeletVersion := "vnode/" ++ env.version }

/-- The status write of `UpdateNodeStatus`. -/
def writeNodeStatus (env : Env) (cs : Clientset) (node : VNode) : Api (Except Err Unit) :=
  retryOnConflict defaultRetries do
    match ← request (.getNode cs node.name) with
    | .error err => return .error (err.wrap ("getting tenant node " ++ node.name))
    | .ok current =>
        match withStatus env current node with
        | .error err => return .error err
        | .ok updated => request (.updateNodeStatus cs updated)

def updateNodeStatus (env : Env) (node : VNode) (tenant : TenantRef) :
    Api (Except Err Unit) := do
  if tenant.kubeconfigSecret = "" then return .ok ()
  else
    match ← request (.getClient tenant) with
    | .error err => return .error err
    | .ok cs =>
        match ← writeNodeStatus env cs node with
        | .error err =>
            return .error (err.wrap ("updating tenant node " ++ node.name ++ " status"))
        | .ok () => upsertLease cs node.name

def register (env : Env) (node : VNode) (tenant : TenantRef) : Api (Except Err Unit) := do
  match ← request (.getClient tenant) with
  | .error err => return .error err
  | .ok cs =>
      match ← ensureLeaseNamespace cs with
      | .error err => return .error err
      | .ok () =>
          match ← upsertNode cs node with
          | .error err => return .error err
          | .ok () => updateNodeStatus env node tenant

/-- The second half of `Deregister`: the tenant node goes after its lease. -/
def deleteTenantNode (cs : Clientset) (name : String) : Api (Except Err Unit) := do
  match ← request (.deleteNode cs name) with
  | .error err =>
      return if err.isNotFound then .ok ()
        else .error (err.wrap ("deleting tenant node " ++ name))
  | .ok () => return .ok ()

def deregister (node : VNode) (tenant : TenantRef) : Api (Except Err Unit) := do
  if tenant.kubeconfigSecret = "" then return .ok ()
  else
    match ← request (.getClient tenant) with
    | .error err => return .error err
    | .ok cs =>
        match ← request (.deleteLease cs node.name) with
        | .error err =>
            if err.isNotFound then deleteTenantNode cs node.name
            else return .error (err.wrap ("deleting lease " ++ node.name))
        | .ok () => deleteTenantNode cs node.name

/-! ## Where the registrar reaches -/

def onTenantNodes : ApiCall → Bool
  | .getClient _ | .getLeaseNamespace _ | .createLeaseNamespace _ | .getNode _ _
  | .createNode _ _ | .updateNode _ _ | .updateNodeStatus _ _ | .deleteNode _ _
  | .getLease _ _ | .createLease _ _ | .updateLease _ _ | .deleteLease _ _ => true
  | _ => false

theorem api_onTenantNodes (env : Env) {c : ApiCall} (hc : onTenantNodes c) (w : Cluster) :
    (api env c w).2 = { w with tenants := (api env c w).2.tenants } := by
  cases c <;> simp only [onTenantNodes, Bool.false_eq_true] at hc <;>
    simp only [api] <;> (repeat' split) <;> rfl

/-- The requests of a registration or a status update: what they say about a node's
taints is what the virtual node says, and they delete no node. -/
def RequestFor (node : VNode) : ApiCall → Prop
  | .createNode _ n | .updateNode _ n => n.taints = mapNodeTaints node.taints
  | .deleteNode _ _ => False
  | c => onTenantNodes c = true

theorem RequestFor.onTenantNodes {node : VNode} {c : ApiCall} (h : RequestFor node c) :
    onTenantNodes c = true := by
  cases c <;> first | rfl | exact h

/-- The requests of a status update, which touch neither a node's taints nor its
existence. -/
def StatusRequest : ApiCall → Prop
  | .getClient _ | .getNode _ _ | .updateNodeStatus _ _ | .getLease _ _ | .createLease _ _
  | .updateLease _ _ => True
  | _ => False

theorem StatusRequest.requestFor {c : ApiCall} (h : StatusRequest c) (node : VNode) :
    RequestFor node c := by
  cases c <;> first | rfl | exact h.elim

section

variable (env : Env)

theorem uses_ensureLeaseNamespace (node : VNode) (cs : Clientset) :
    Prog.Uses (RequestFor node) (ensureLeaseNamespace cs) := by
  refine Prog.Uses.bind (Prog.Uses.perform rfl) ?_
  intro r
  cases r with
  | ok u => exact Prog.Uses.pure _
  | error err =>
      dsimp only
      split
      · refine Prog.Uses.bind (Prog.Uses.perform rfl) ?_
        intro r
        cases r <;> exact Prog.Uses.pure _
      · exact Prog.Uses.pure _

theorem uses_upsertNode (cs : Clientset) (node : VNode) :
    Prog.Uses (RequestFor node) (upsertNode cs node) := by
  refine Prog.Uses.bind (Prog.Uses.perform rfl) ?_
  intro r
  cases r with
  | ok current =>
      refine Prog.Uses.bind (Prog.Uses.perform rfl) ?_
      intro r
      cases r <;> exact Prog.Uses.pure _
  | error err =>
      dsimp only
      split
      · refine Prog.Uses.bind (Prog.Uses.perform rfl) ?_
        intro r
        cases r <;> exact Prog.Uses.pure _
      · exact Prog.Uses.pure _

theorem uses_upsertLease {A : ApiCall → Prop} (cs : Clientset) (nodeName : String)
    (hget : A (.getLease cs nodeName)) (hcreate : ∀ lease, A (.createLease cs lease))
    (hupdate : ∀ lease, A (.updateLease cs lease)) : Prog.Uses A (upsertLease cs nodeName) := by
  apply Prog.Uses.bind (Prog.Uses.perform hget)
  intro r
  cases r with
  | ok current =>
      apply Prog.Uses.bind (Prog.Uses.perform (hupdate _))
      intro r
      cases r <;> exact Prog.Uses.pure _
  | error err =>
      dsimp only
      split
      · apply Prog.Uses.bind (Prog.Uses.perform (hcreate _))
        intro r
        cases r <;> exact Prog.Uses.pure _
      · exact Prog.Uses.pure _

theorem uses_writeNodeStatus (cs : Clientset) (node : VNode) :
    Prog.Uses (StatusRequest) (writeNodeStatus env cs node) := by
  apply uses_retryOnConflict
  refine Prog.Uses.bind (Prog.Uses.perform trivial) ?_
  intro r
  cases r with
  | error err => exact Prog.Uses.pure _
  | ok current =>
      dsimp only
      split
      · exact Prog.Uses.pure _
      · exact Prog.Uses.perform trivial

theorem uses_updateNodeStatus (node : VNode) (tenant : TenantRef) :
    Prog.Uses (StatusRequest) (updateNodeStatus env node tenant) := by
  unfold updateNodeStatus
  split
  · exact Prog.Uses.pure _
  · refine Prog.Uses.bind (Prog.Uses.perform trivial) ?_
    intro r
    cases r with
    | error err => exact Prog.Uses.pure _
    | ok cs =>
        refine Prog.Uses.bind (uses_writeNodeStatus env cs node) ?_
        intro r
        cases r with
        | error err => exact Prog.Uses.pure _
        | ok u => exact uses_upsertLease cs node.name trivial (fun _ => trivial) (fun _ => trivial)

theorem uses_register (node : VNode) (tenant : TenantRef) :
    Prog.Uses (RequestFor node) (register env node tenant) := by
  refine Prog.Uses.bind (Prog.Uses.perform rfl) ?_
  intro r
  cases r with
  | error err => exact Prog.Uses.pure _
  | ok cs =>
      refine Prog.Uses.bind (uses_ensureLeaseNamespace node cs) ?_
      intro r
      cases r with
      | error err => exact Prog.Uses.pure _
      | ok u =>
          refine Prog.Uses.bind (uses_upsertNode cs node) ?_
          intro r
          cases r with
          | error err => exact Prog.Uses.pure _
          | ok u =>
              exact (uses_updateNodeStatus env node tenant).mono fun _ h => h.requestFor node

theorem uses_deregister (node : VNode) (tenant : TenantRef) :
    Prog.Uses (fun c => onTenantNodes c) (deregister node tenant) := by
  have hdelete : ∀ cs, Prog.Uses (fun c => onTenantNodes c) (deleteTenantNode cs node.name) := by
    intro cs
    refine Prog.Uses.bind (Prog.Uses.perform rfl) ?_
    intro r
    cases r <;> exact Prog.Uses.pure _
  unfold deregister
  split
  · exact Prog.Uses.pure _
  · refine Prog.Uses.bind (Prog.Uses.perform rfl) ?_
    intro r
    cases r with
    | error err => exact Prog.Uses.pure _
    | ok cs =>
        refine Prog.Uses.bind (Prog.Uses.perform rfl) ?_
        intro r
        cases r with
        | ok u => exact hdelete cs
        | error err =>
            dsimp only
            split
            · exact hdelete cs
            · exact Prog.Uses.pure _

theorem run_onTenantNodes {α : Type} {p : Api α}
    (hp : Prog.Uses (fun c => onTenantNodes c) p) (w : Cluster) :
    (p.run (api env) w).2 = { w with tenants := (p.run (api env) w).2.tenants } := by
  refine hp.invariant (I := fun s : Cluster => s = { w with tenants := s.tenants }) ?_ rfl
  intro c s hc hs
  have hstep := api_onTenantNodes env hc s
  rw [hstep, hs]

/-! ## Deregistration -/

def withoutNode (t : TenantCluster) (name : String) : TenantCluster :=
  { t with nodes := t.nodes.erase name, leases := t.leases.erase name }

theorem run_deleteTenantNode (cs : Clientset) (name : String) (w : Cluster) :
    (deleteTenantNode cs name).run (api env) w =
      (.ok (), w.setTenant cs
        { w.tenants cs with nodes := (w.tenants cs).nodes.erase name }) := by
  cases h : (w.tenants cs).nodes.get name with
  | none =>
      have hcall : api env (.deleteNode cs name) w = (.error (notFoundError "nodes" name), w) := by
        simp only [api, h]
      rw [Store.erase_of_none h, Cluster.setTenant_self]
      simp only [deleteTenantNode, request, Prog.run_bind, Prog.run_perform, hcall]
      rfl
  | some node =>
      have hcall : api env (.deleteNode cs name) w = (.ok (), w.setTenant cs
          { w.tenants cs with nodes := (w.tenants cs).nodes.erase name }) := by
        simp only [api, h]
      simp only [deleteTenantNode, request, Prog.run_bind, Prog.run_perform, hcall,
        Prog.run_pure]

theorem run_deregister {node : VNode} {tenant : TenantRef} {cs : Clientset}
    (hsecret : tenant.kubeconfigSecret ≠ "") (hconnect : env.connect tenant = .ok cs)
    (w : Cluster) :
    (deregister node tenant).run (api env) w =
      (.ok (), w.setTenant cs (withoutNode (w.tenants cs) node.name)) := by
  have hclient : api env (.getClient tenant) w = (.ok cs, w) := by
    simp only [api, hconnect]
  cases h : (w.tenants cs).leases.get node.name with
  | none =>
      have hcall : api env (.deleteLease cs node.name) w =
          (.error (notFoundError "leases.coordination.k8s.io" node.name), w) := by
        simp only [api, h]
      simp only [deregister, if_neg hsecret, request, Prog.run_bind, Prog.run_perform, hclient,
        hcall, Err.isNotFound, notFoundError, decide_true, if_true]
      rw [run_deleteTenantNode, withoutNode, Store.erase_of_none h]
  | some lease =>
      have hcall : api env (.deleteLease cs node.name) w = (.ok (), w.setTenant cs
          { w.tenants cs with leases := (w.tenants cs).leases.erase node.name }) := by
        simp only [api, h]
      simp only [deregister, if_neg hsecret, request, Prog.run_bind, Prog.run_perform, hclient,
        hcall]
      rw [run_deleteTenantNode]
      simp only [Cluster.setTenant, Function.update_self, Function.update_idem, withoutNode]

end

end VNodeOperator.Adapter.Registrar
