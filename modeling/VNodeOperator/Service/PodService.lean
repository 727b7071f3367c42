import VNodeOperator.Adapter.PodClient

/-!
# Pod translation

`PodService` of `internal/domain/service/pod_service.go`, and the comparison of
host pods with the translations they should match
(`internal/domain/service/execution_service.go`).
-/

namespace VNodeOperator.Service

open Model Kube Adapter

/-- The translator, with the runtime class its isolation runtime prescribes. -/
structure PodService where
  runtimeClassName : String

namespace PodService

/-- Pods of dedicated and burstable pools are pinned to labelled host nodes. -/
def translateOpts (s : PodService) (pool : VNodePool) (vnodeName : String) : TranslateOpts where
  vnodeName := vnodeName
  poolName := pool.name
  targetNamespace := pool.ns
  runtimeClass :=
    if pool.runtimeClassName ≠ "" then pool.runtimeClassName else s.runtimeClassName
  nodeSelector :=
    if pool.mode = .dedicated ∨ pool.mode = .burstable then pool.nodeSelector else ∅

def translate (s : PodService) (pod : PodSpec) (pool : VNodePool) (vnodeName : String) :
    Except Err PodTranslation :=
  .ok (translatePod pod (s.translateOpts pool vnodeName))

def syncStatus (_ : PodService) (hostStatus : PodStatus) : Except Err PodStatus :=
  .ok hostStatus

end PodService

/-! ## Source pods -/

def envVarsFromCore (env : List EnvVar) : List EnvVar := PodClient.envFromK8s env

def volumeMountsFromCore (mounts : List VolumeMount) : List VolumeMount :=
  PodClient.volumeMountsFromK8s mounts

def resourceListFromCore (r : CoreResourceList) : ResourceList :=
  PodClient.resourceListFromK8s r

def volumeFromCore (v : CoreVolume) : Volume := PodClient.volumeFromK8s v

def containerFromCore (c : CoreContainer) : Container where
  name := c.name
  image := c.image
  command := c.command
  args := c.args
  env := envVarsFromCore c.env
  volumeMounts := volumeMountsFromCore c.volumeMounts
  resources :=
    { requests := resourceListFromCore c.requests
      limits := resourceListFromCore c.limits }

def podFromCore (pod : CorePod) : PodSpec where
  name := pod.name
  ns := pod.ns
  labels := pod.labels
  nodeName := pod.nodeName
  serviceAccountName := pod.serviceAccountName
  containers := pod.containers.map containerFromCore
  volumes := pod.volumes.map volumeFromCore

def isTerminalPhase (phase : PodPhase) : Bool := phase = .succeeded || phase = .failed

def isTerminalPod (pod : CorePod) : Bool := isTerminalPhase pod.status.phase

/-! ## Drift -/

def slicesEqual {α : Type} (eq : α → α → Bool) (a b : List α) : Bool :=
  a.length = b.length && (a.zip b).all fun p => eq p.1 p.2

def stringSliceEqual (a b : List String) : Bool := slicesEqual (fun x y => x = y) a b
def envVarsEqual (a b : List EnvVar) : Bool := slicesEqual (fun x y => x = y) a b
def volumeMountsEqual (a b : List VolumeMount) : Bool := slicesEqual (fun x y => x = y) a b
def volumesEqual (a b : List Volume) : Bool := slicesEqual (fun x y => x = y) a b

def boolPtrEqual (a b : Option Bool) : Bool :=
  match a, b with
  | none, none => true
  | some x, some y => x = y
  | _, _ => false

def normalizeServiceAccount (name : String) : String := if name = "" then "default" else name

/-- Every entry of `a` is compared with `b[key]`, which is empty for a key that
`b` does not have. -/
def stringMapEqual (a b : StringMap) : Bool :=
  if a.entries.length = 0 ∧ b.entries.length = 0 then true
  else if a.entries.length ≠ b.entries.length then false
  else a.entries.all fun kv => b.at kv.1 = kv.2

def containerEqual (a b : Container) : Bool :=
  a.name = b.name && a.image = b.image &&
    stringSliceEqual a.command b.command && stringSliceEqual a.args b.args &&
    envVarsEqual a.env b.env && volumeMountsEqual a.volumeMounts b.volumeMounts &&
    a.resources = b.resources

def containersEqual (a b : List Container) : Bool := slicesEqual containerEqual a b

def podSpecsEqual (a b : PodSpec) : Bool :=
  a.name = b.name && a.ns = b.ns &&
    normalizeServiceAccount a.serviceAccountName =
      normalizeServiceAccount b.serviceAccountName &&
    boolPtrEqual a.automountServiceAccountToken b.automountServiceAccountToken &&
    a.runtimeClassName = b.runtimeClassName &&
    stringMapEqual a.labels b.labels &&
    stringMapEqual a.nodeSelector b.nodeSelector &&
    containersEqual a.containers b.containers &&
    volumesEqual a.volumes b.volumes

/-! ### The comparisons -/

theorem slicesEqual_iff {α : Type} {eq : α → α → Bool} (heq : ∀ x y, eq x y = true ↔ x = y)
    (a b : List α) : slicesEqual eq a b = true ↔ a = b := by
  unfold slicesEqual
  induction a generalizing b with
  | nil => cases b <;> simp
  | cons x a ih =>
      cases b with
      | nil => simp
      | cons y b =>
          have ih := ih b
          simp only [Bool.and_eq_true, decide_eq_true_eq] at ih
          simp only [List.length_cons, List.zip_cons_cons, List.all_cons, Bool.and_eq_true,
            decide_eq_true_eq, heq, List.cons.injEq, ← ih, Nat.add_right_cancel_iff]
          exact and_left_comm

theorem volumesEqual_iff (a b : List Volume) : volumesEqual a b = true ↔ a = b :=
  slicesEqual_iff (fun _ _ => decide_eq_true_iff) a b

theorem containerEqual_iff (a b : Container) : containerEqual a b = true ↔ a = b := by
  unfold containerEqual stringSliceEqual envVarsEqual volumeMountsEqual
  simp only [Bool.and_eq_true, decide_eq_true_eq,
    slicesEqual_iff (fun _ _ => decide_eq_true_iff)]
  cases a
  cases b
  simp only [Container.mk.injEq, and_assoc]

theorem containersEqual_iff (a b : List Container) : containersEqual a b = true ↔ a = b :=
  slicesEqual_iff containerEqual_iff a b

theorem boolPtrEqual_iff (a b : Option Bool) : boolPtrEqual a b = true ↔ a = b := by
  cases a <;> cases b <;> simp [boolPtrEqual]

theorem stringMapEqual_refl (m : StringMap) : stringMapEqual m m = true := by
  unfold stringMapEqual
  split
  · rfl
  · rw [if_neg (not_not_intro rfl), List.all_eq_true]
    intro kv hkv
    have hlookup : m.lookup kv.1 = some kv.2 := AList.mem_lookup_iff.mpr hkv
    simp [StringMap.at, hlookup]

theorem podSpecsEqual_iff (a b : PodSpec) :
    podSpecsEqual a b = true ↔
      a.name = b.name ∧ a.ns = b.ns ∧
        normalizeServiceAccount a.serviceAccountName =
          normalizeServiceAccount b.serviceAccountName ∧
        a.automountServiceAccountToken = b.automountServiceAccountToken ∧
        a.runtimeClassName = b.runtimeClassName ∧
        stringMapEqual a.labels b.labels = true ∧
        stringMapEqual a.nodeSelector b.nodeSelector = true ∧
        a.containers = b.containers ∧ a.volumes = b.volumes := by
  unfold podSpecsEqual
  simp only [Bool.and_eq_true, decide_eq_true_eq, boolPtrEqual_iff, containersEqual_iff,
    volumesEqual_iff, and_assoc]

theorem podSpecsEqual_refl (a : PodSpec) : podSpecsEqual a a = true := by
  rw [podSpecsEqual_iff]
  simp [stringMapEqual_refl]

end VNodeOperator.Service
