import VNodeOperator.Adapter.NodeRepository
import VNodeOperator.Adapter.PodClient
import VNodeOperator.Adapter.Registrar

/-!
# The ports of the domain

The services and the reconcilers reach the clusters through the interfaces of
`internal/domain/ports`, a tenant clientset and the controllers' own client.
`Call` is one use of such an interface, and `handle` answers it by running the
adapter behind it to completion.
-/

namespace VNodeOperator.Ports

open Model Kube Adapter ProofSupport

inductive Call where
  -- `NodeRepository`
  | listByPool (ns poolName : String)
  | save (node : VNode)
  | delete (k : ObjKey)
  -- `NodeRegistrar`
  | register (node : VNode) (tenant : TenantRef)
  | deregister (node : VNode) (tenant : TenantRef)
  | updateNodeStatus (node : VNode) (tenant : TenantRef)
  -- the tenant clientset
  | tenantClient (tenant : TenantRef)
  | listTenantPods (cs : Clientset)
  | getTenantPod (cs : Clientset) (k : ObjKey)
  | updateTenantPod (cs : Clientset) (pod : CorePod)
  | getTenantConfigMap (cs : Clientset) (k : ObjKey)
  | getTenantSecret (cs : Clientset) (k : ObjKey)
  -- `ClusterClient`, the host
  | getPod (k : ObjKey)
  | createPod (pod : PodSpec)
  | deletePod (k : ObjKey)
  | getPodStatus (k : ObjKey)
  | listPodsByLabels (ns : String) (labels : StringMap)
  | ensureConfigMap (cm : ConfigMap)
  | ensureSecret (s : Secret)
  -- the controllers' client
  | getVNode (k : ObjKey)
  | listVNodes (ns poolName : String)
  | getVNodePool (k : ObjKey)
  | updateVNodePool (cr : VNodePoolCR)
  | patchVNodePoolStatus (k : ObjKey) (base status : VNodePoolStatus)
  | now
  deriving DecidableEq

@[reducible] def Call.Value : Call → Type
  | .listByPool _ _ => List VNode
  | .tenantClient _ => Clientset
  | .listTenantPods _ => List CorePod
  | .getTenantPod _ _ => CorePod
  | .getTenantConfigMap _ _ => ConfigMap
  | .getTenantSecret _ _ => Secret
  | .getPod _ => PodSpec
  | .getPodStatus _ => PodStatus
  | .listPodsByLabels _ _ => List PodSpec
  | .getVNode _ => VNodeCR
  | .listVNodes _ _ => List VNodeCR
  | .getVNodePool _ => VNodePoolCR
  | .now => Int
  | _ => Unit

abbrev Call.Reply (c : Call) : Type := Except Err c.Value

abbrev Svc := Prog Call Call.Reply

def ask (c : Call) : Svc c.Reply := Prog.perform c

/-- Reading the clock, which no handler refuses. -/
def now : Svc Int := do
  match ← ask .now with
  | .ok t => return t
  | .error _ => return 0

/-! ## The clusters behind the ports -/

def handle (env : Env) : Handler Call Call.Reply Cluster
  | .listByPool ns poolName, w => Prog.run (api env) (NodeRepository.listByPool ns poolName) w
  | .save node, w => Prog.run (api env) (NodeRepository.save node) w
  | .delete k, w => Prog.run (api env) (NodeRepository.delete k) w
  | .register node tenant, w => Prog.run (api env) (Registrar.register env node tenant) w
  | .deregister node tenant, w => Prog.run (api env) (Registrar.deregister node tenant) w
  | .updateNodeStatus node tenant, w =>
      Prog.run (api env) (Registrar.updateNodeStatus env node tenant) w
  | .tenantClient tenant, w => (env.connect tenant, w)
  | .listTenantPods cs, w => (.ok (w.tenants cs).pods.items, w)
  | .getTenantPod cs k, w => (find (w.tenants cs).pods k "pods" k.name, w)
  | .updateTenantPod cs pod, w =>
      match (w.tenants cs).pods.get pod.key with
      | none => (.error (notFoundError "pods" pod.name), w)
      | some old => (.ok (), w.putTenantPod cs { old with status := pod.status })
  | .getTenantConfigMap cs k, w => (find (w.tenants cs).configMaps k "configmaps" k.name, w)
  | .getTenantSecret cs k, w => (find (w.tenants cs).secrets k "secrets" k.name, w)
  | .getPod k, w =>
      match w.hostPods.get k with
      | none => (.error (notFoundError "pods" k.name), w)
      | some p => (.ok p.spec, w)
  | .createPod pod, w =>
      match env.storePod pod, w.hostPods.get ⟨pod.ns, pod.name⟩ with
      | .error err, _ => (.error err, w)
      | .ok _, some _ => (.error (alreadyExistsError "pods" pod.name), w)
      | .ok shown, none => (.ok (), w.addPod shown)
  | .deletePod k, w => Prog.run (api env) (PodClient.deletePod k) w
  | .getPodStatus k, w =>
      match w.hostPods.get k with
      | none => (.error (notFoundError "pods" k.name), w)
      | some p => (.ok p.status, w)
  | .listPodsByLabels ns labels, w =>
      (.ok ((w.podsByLabels ns labels).map HostPod.spec), w)
  | .ensureConfigMap cm, w => Prog.run (api env) (PodClient.ensureConfigMap cm) w
  | .ensureSecret s, w => Prog.run (api env) (PodClient.ensureSecret s) w
  | .getVNode k, w => (find w.vnodes k "vnodes.vnode.kroderdev.io" k.name, w)
  | .listVNodes ns poolName, w => (.ok (env.order (w.poolVNodes ns poolName)), w)
  | .getVNodePool k, w => (find w.pools k "vnodepools.vnode.kroderdev.io" k.name, w)
  | .updateVNodePool cr, w =>
      match w.pools.get cr.key with
      | none => (.error (notFoundError "vnodepools.vnode.kroderdev.io" cr.name), w)
      | some old =>
          if cr.resourceVersion ≠ old.resourceVersion then
            (.error (conflictError "vnodepools.vnode.kroderdev.io" cr.name), w)
          else (.ok (), w.updatePool old cr)
  | .patchVNodePoolStatus k base status, w =>
      match w.pools.get k with
      | none => (.error (notFoundError "vnodepools.vnode.kroderdev.io" k.name), w)
      | some old =>
          (.ok (), w.putPool
            { old with
              resourceVersion := old.resourceVersion + 1
              status := mergeStatus base status old.status })
  | .now, w => (.ok w.clock, w)

/-! ## What the calls do -/

variable (env : Env) (w : Cluster)

theorem handle_listByPool (ns poolName : String) :
    handle env (.listByPool ns poolName) w =
      (.ok ((env.order (w.poolVNodes ns poolName)).map NodeRepository.crToNode), w) :=
  NodeRepository.run_listByPool env w ns poolName

theorem handle_save (node : VNode) :
    handle env (.save node) w = (.ok (), w.putVNode (NodeRepository.saved w node)) :=
  NodeRepository.run_save env w node

theorem handle_delete {k : ObjKey} {cr : VNodeCR} (h : w.vnodes.get k = some cr) :
    handle env (.delete k) w = (.ok (), { w with vnodes := w.vnodes.erase k }) := by
  simp only [handle, NodeRepository.run_delete, h]

theorem handle_deletePod (k : ObjKey) :
    handle env (.deletePod k) w = (.ok (), w.removePod env k) :=
  PodClient.run_deletePod env w k

theorem handle_ensureConfigMap (cm : ConfigMap) :
    handle env (.ensureConfigMap cm) w = (.ok (), w.putConfigMap cm) :=
  PodClient.run_ensureConfigMap env w cm

theorem handle_ensureSecret (s : Secret) :
    handle env (.ensureSecret s) w = (.ok (), w.putSecret s) :=
  PodClient.run_ensureSecret env w s

/-- The registrar works in the tenant clusters only. -/
def Call.isRegistrar : Call → Bool
  | .register _ _ | .deregister _ _ | .updateNodeStatus _ _ => true
  | _ => false

theorem handle_registrar {c : Call} (hc : c.isRegistrar) :
    (handle env c w).2 = { w with tenants := (handle env c w).2.tenants } := by
  cases c with
  | register node tenant =>
      exact Registrar.run_onTenantNodes env
        ((Registrar.uses_register env node tenant).mono fun _ h => h.onTenantNodes) w
  | deregister node tenant =>
      exact Registrar.run_onTenantNodes env (Registrar.uses_deregister node tenant) w
  | updateNodeStatus node tenant =>
      exact Registrar.run_onTenantNodes env
        ((Registrar.uses_updateNodeStatus env node tenant).mono
          fun _ h => (h.requestFor node).onTenantNodes) w
  | _ => cases hc

theorem handle_createPod_cases (pod : PodSpec) :
    (∃ err, handle env (.createPod pod) w = (.error err, w)) ∨
      (w.hostPods.get ⟨pod.ns, pod.name⟩ = none ∧ ∃ shown, env.storePod pod = .ok shown ∧
        handle env (.createPod pod) w = (.ok (), w.addPod shown)) := by
  cases hstore : env.storePod pod with
  | error err => exact Or.inl ⟨err, by simp only [handle, hstore]⟩
  | ok shown =>
      cases hget : w.hostPods.get ⟨pod.ns, pod.name⟩ with
      | some old => exact Or.inl ⟨_, by simp only [handle, hstore, hget]; rfl⟩
      | none => exact Or.inr ⟨rfl, shown, rfl, by simp only [handle, hstore, hget]⟩

theorem handle_updateVNodePool_cases (cr : VNodePoolCR) :
    (∃ err, handle env (.updateVNodePool cr) w = (.error err, w)) ∨
      ∃ old, w.pools.get cr.key = some old ∧ cr.resourceVersion = old.resourceVersion ∧
        handle env (.updateVNodePool cr) w = (.ok (), w.updatePool old cr) := by
  cases hget : w.pools.get cr.key with
  | none =>
      refine Or.inl ⟨notFoundError "vnodepools.vnode.kroderdev.io" cr.name, ?_⟩
      simp only [handle, hget]
  | some old =>
      by_cases hversion : cr.resourceVersion = old.resourceVersion
      · refine Or.inr ⟨old, rfl, hversion, ?_⟩
        simp only [handle, hget, hversion, ne_eq, not_true_eq_false, if_false]
      · refine Or.inl ⟨conflictError "vnodepools.vnode.kroderdev.io" cr.name, ?_⟩
        simp only [handle, hget, ne_eq, hversion, not_false_eq_true, if_true]

def Call.isRead : Call → Bool
  | .listByPool _ _ | .tenantClient _ | .listTenantPods _ | .getTenantPod _ _
  | .getTenantConfigMap _ _ | .getTenantSecret _ _ | .getPod _ | .getPodStatus _
  | .listPodsByLabels _ _ | .getVNode _ | .listVNodes _ _ | .getVNodePool _ | .now => true
  | _ => false

theorem handle_read {c : Call} (hc : c.isRead) : (handle env c w).2 = w := by
  cases c with
  | getPod k =>
      simp only [handle]
      split <;> rfl
  | getPodStatus k =>
      simp only [handle]
      split <;> rfl
  | _ => first | rfl | cases hc

def Call.writesPools : Call → Bool
  | .updateVNodePool _ | .patchVNodePoolStatus _ _ _ => true
  | _ => false

theorem handle_pools {c : Call} (hc : c.writesPools = false) :
    (handle env c w).2.pools = w.pools := by
  cases c with
  | updateVNodePool cr => cases hc
  | patchVNodePoolStatus k base status => cases hc
  | save node => rw [handle_save]; rfl
  | delete k =>
      simp only [handle, NodeRepository.run_delete]
      split <;> rfl
  | register node tenant => rw [handle_registrar env w rfl]
  | deregister node tenant => rw [handle_registrar env w rfl]
  | updateNodeStatus node tenant => rw [handle_registrar env w rfl]
  | updateTenantPod cs pod =>
      simp only [handle]
      split <;> rfl
  | createPod pod =>
      rcases handle_createPod_cases env w pod with ⟨err, h⟩ | ⟨_, shown, _, h⟩
      · rw [h]
      · rw [h]
        rfl
  | deletePod k => rw [handle_deletePod, Cluster.removePod_eq]
  | ensureConfigMap cm => rw [handle_ensureConfigMap]; rfl
  | ensureSecret secret => rw [handle_ensureSecret]; rfl
  | _ => rw [handle_read env w rfl]

end VNodeOperator.Ports
