import VNodeOperator.Adapter.Registrar

/-!
# The host cluster client

`PodClusterClient` of `internal/adapter/outbound/kubeclient/pod_client.go`: the
conversions between the domain view of a pod and a core pod, and the
get-or-create writes of ConfigMaps and Secrets.
-/

namespace VNodeOperator.Adapter.PodClient

open Model Kube ProofSupport

/-! ## From the domain to the API -/

def envToK8s (env : List EnvVar) : List EnvVar :=
  env.map fun item => { name := item.name, value := item.value }

def volumeMountsToK8s (mounts : List VolumeMount) : List VolumeMount :=
  mounts.map fun m => { name := m.name, mountPath := m.mountPath, readOnly := m.readOnly }

def stringPtrOrNil (v : String) : Option String := if v = "" then none else some v

/-- The `Pods` entry has no counterpart. -/
def resourceListToK8s (env : Env) (r : ResourceList) : Except Err CoreResourceList := do
  let cpu ← Registrar.parseEntry env r.cpu
  let memory ← Registrar.parseEntry env r.memory
  return { cpu := cpu, memory := memory }

/-- A volume of type `other` gets no source at all. -/
def volumeToK8s (v : Volume) : CoreVolume :=
  match v.type with
  | .configMap => { name := v.name, configMap := some v.source }
  | .secret => { name := v.name, secret := some v.source }
  | .pvc => { name := v.name, persistentVolumeClaim := some v.source }
  | .emptyDir => { name := v.name, emptyDir := true }
  | .hostPath => { name := v.name, hostPath := some v.source }
  | .projected => { name := v.name, projected := true }
  | .other => { name := v.name }

def containerToK8s (env : Env) (c : Container) : Except Err CoreContainer := do
  let requests ← resourceListToK8s env c.resources.requests
  let limits ← resourceListToK8s env c.resources.limits
  return {
    name := c.name
    image := c.image
    command := c.command
    args := c.args
    env := envToK8s c.env
    volumeMounts := volumeMountsToK8s c.volumeMounts
    requests := requests
    limits := limits }

def podSpecToK8sPod (env : Env) (pod : PodSpec) : Except Err CorePod := do
  let containers ← pod.containers.mapM (containerToK8s env)
  return {
    name := pod.name
    ns := pod.ns
    labels := pod.labels
    nodeName := pod.nodeName
    serviceAccountName := pod.serviceAccountName
    automountServiceAccountToken := pod.automountServiceAccountToken
    runtimeClassName := stringPtrOrNil pod.runtimeClassName
    nodeSelector := pod.nodeSelector
    containers := containers
    volumes := pod.volumes.map volumeToK8s }

/-! ## From the API to the domain -/

def envFromK8s (env : List EnvVar) : List EnvVar :=
  env.map fun item => { name := item.name, value := item.value }

def volumeMountsFromK8s (mounts : List VolumeMount) : List VolumeMount :=
  mounts.map fun m => { name := m.name, mountPath := m.mountPath, readOnly := m.readOnly }

def quantityText : Option Quantity → String
  | some q => q.string
  | none => ""

def resourceListFromK8s (r : CoreResourceList) : ResourceList where
  cpu := quantityText r.cpu
  memory := quantityText r.memory
  pods := match r.pods with
    | some q => int32 q.value
    | none => 0

/-- The first source that is set, in the order the conversion asks for them. -/
def volumeFromK8s (v : CoreVolume) : Volume :=
  match v.configMap with
  | some name => { name := v.name, type := .configMap, source := name }
  | none =>
  match v.secret with
  | some name => { name := v.name, type := .secret, source := name }
  | none =>
  match v.persistentVolumeClaim with
  | some name => { name := v.name, type := .pvc, source := name }
  | none =>
  if v.emptyDir then { name := v.name, type := .emptyDir }
  else
  match v.hostPath with
  | some path => { name := v.name, type := .hostPath, source := path }
  | none =>
  if v.projected then { name := v.name, type := .projected }
  else { name := v.name, type := .other }

def containerFromK8s (c : CoreContainer) : Container where
  name := c.name
  image := c.image
  command := c.command
  args := c.args
  env := envFromK8s c.env
  volumeMounts := volumeMountsFromK8s c.volumeMounts
  resources :=
    { requests := resourceListFromK8s c.requests
      limits := resourceListFromK8s c.limits }

def podToSpec (pod : CorePod) : PodSpec where
  name := pod.name
  ns := pod.ns
  labels := pod.labels
  nodeName := pod.nodeName
  serviceAccountName := pod.serviceAccountName
  automountServiceAccountToken := pod.automountServiceAccountToken
  nodeSelector := pod.nodeSelector
  deleting := pod.deletionTimestamp.isSome
  runtimeClassName := pod.runtimeClassName.getD ""
  containers := pod.containers.map containerFromK8s
  volumes := pod.volumes.map volumeFromK8s

def stateText (s : CoreContainerState) : String :=
  if s.running then "running"
  else if s.waiting then "waiting"
  else if s.terminated then "terminated"
  else ""

def podToStatus (pod : CorePod) : PodStatus where
  phase := pod.status.phase
  podIP := pod.status.podIP
  message := pod.status.message
  reason := pod.status.reason
  containerStatuses := pod.status.containerStatuses.map fun cs =>
    { name := cs.name
      ready := cs.ready
      restartCount := cs.restartCount
      state := stateText cs.state }

/-! ## Writes -/

/-- Deleting a pod that does not exist succeeds. -/
def deletePod (k : ObjKey) : Api (Except Err Unit) := do
  match ← request (.deletePod k) with
  | .error err => return if err.isNotFound then .ok () else .error err
  | .ok () => return .ok ()

def getOrCreate {α : Type} (get : Api (Except Err α)) (create : Api (Except Err Unit))
    (update : α → Api (Except Err Unit)) : Api (Except Err Unit) := do
  match ← get with
  | .error err => if err.isNotFound then create else return .error err
  | .ok existing => update existing

def ensureConfigMap (cm : ConfigMap) : Api (Except Err Unit) :=
  getOrCreate (request (.getConfigMap cm.key)) (request (.createConfigMap cm)) fun existing =>
    request (.updateConfigMap
      { existing with
        data := cm.data
        binaryData := cm.binaryData
        labels := cm.labels })

def ensureSecret (s : Secret) : Api (Except Err Unit) :=
  getOrCreate (request (.getSecret s.key)) (request (.createSecret s)) fun existing =>
    request (.updateSecret { existing with data := s.data, labels := s.labels })

section

variable {α : Type} {get : Api (Except Err α)} {create : Api (Except Err Unit)}
  {update : α → Api (Except Err Unit)}

theorem meets_getOrCreate {K : Contract ApiCall ApiCall.Reply} {Q : Except Err α → Prop}
    (hget : Prog.Meets K Q get) (hcreate : Prog.Meets K (fun _ => True) create)
    (hupdate : ∀ existing, Q (.ok existing) → Prog.Meets K (fun _ => True) (update existing)) :
    Prog.Meets K (fun _ => True) (getOrCreate get create update) := by
  apply Prog.Meets.bind hget
  intro r hr
  cases r with
  | ok existing => exact hupdate existing hr
  | error err =>
      dsimp only
      split
      · exact hcreate
      · trivial

theorem uses_getOrCreate {A : ApiCall → Prop} (hget : Prog.Uses A get)
    (hcreate : Prog.Uses A create) (hupdate : ∀ existing, Prog.Uses A (update existing)) :
    Prog.Uses A (getOrCreate get create update) := by
  apply Prog.Uses.bind hget
  intro r
  cases r with
  | ok existing => exact hupdate existing
  | error err =>
      dsimp only
      split
      · exact hcreate
      · trivial

theorem run_getOrCreate {env : Env} {w w' : Cluster} {key : α → ObjKey} (store : Store key)
    (k : ObjKey) {resource : String}
    (hget : Prog.run (api env) get w = (find store k resource k.name, w))
    (hcreate : store.get k = none → Prog.run (api env) create w = (.ok (), w'))
    (hupdate : ∀ existing, store.get k = some existing →
      Prog.run (api env) (update existing) w = (.ok (), w')) :
    Prog.run (api env) (getOrCreate get create update) w = (.ok (), w') := by
  rw [getOrCreate, Prog.run_bind, hget]
  cases hstored : store.get k with
  | none =>
      rw [find_none _ _ hstored]
      exact hcreate hstored
  | some existing =>
      rw [find_some _ _ hstored]
      exact hupdate existing hstored

end

variable (env : Env) (w : Cluster)

theorem run_deletePod (k : ObjKey) :
    Prog.run (api env) (deletePod k) w = (.ok (), w.removePod env k) := by
  cases h : w.hostPods.get k with
  | none =>
      have hremove : w.removePod env k = w := by simp only [Cluster.removePod, h]
      have hapi : api env (.deletePod k) w = (.error (notFoundError "pods" k.name), w) := by
        simp only [api, h]
      rw [deletePod, hremove]
      simp only [request, Prog.run_bind, Prog.run_perform, hapi, Prog.run_pure]
      simp [notFoundError, Err.isNotFound]
  | some p =>
      have hapi : api env (.deletePod k) w = (.ok (), w.removePod env k) := by
        simp only [api, h]
      rw [deletePod]
      simp only [request, Prog.run_bind, Prog.run_perform, hapi, Prog.run_pure]

theorem run_ensureConfigMap (cm : ConfigMap) :
    Prog.run (api env) (ensureConfigMap cm) w = (.ok (), w.putConfigMap cm) := by
  refine run_getOrCreate w.hostConfigMaps cm.key rfl ?_ ?_
  · intro hnone
    simp only [request, Prog.run_perform, api, hnone]
  · intro old hold
    have hkey : old.key = cm.key := Store.key_of_get hold
    have heq : ({ old with data := cm.data, binaryData := cm.binaryData, labels := cm.labels } :
        ConfigMap) = cm := by
      simp only [ConfigMap.key, ObjKey.mk.injEq] at hkey
      cases cm
      simp_all
    rw [heq]
    simp only [request, Prog.run_perform, api, hold]

theorem run_ensureSecret (s : Secret) :
    Prog.run (api env) (ensureSecret s) w = (.ok (), w.putSecret s) := by
  refine run_getOrCreate w.hostSecrets s.key rfl ?_ ?_
  · intro hnone
    simp only [request, Prog.run_perform, api, hnone]
  · intro old hold
    have hkey : old.key = s.key := Store.key_of_get hold
    have heq : ({ old with data := s.data, labels := s.labels } : Secret) = s := by
      simp only [Secret.key, ObjKey.mk.injEq] at hkey
      cases s
      simp_all
    rw [heq]
    simp only [request, Prog.run_perform, api, hold]

end VNodeOperator.Adapter.PodClient
