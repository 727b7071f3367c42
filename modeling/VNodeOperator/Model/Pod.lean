import Mathlib.Algebra.Group.Int.Defs
import Mathlib.Algebra.Group.Nat.Defs
import Mathlib.Data.List.AList

/-!
# Pods and their translation

The domain view of a pod (`internal/domain/model/pod.go` and `resource.go`) and
`TranslatePod`, which turns a tenant pod into the pod the host cluster runs.
Go maps from strings to strings are association lists with distinct keys; a nil
map and an empty map are the same value.
-/

namespace VNodeOperator.Model

abbrev StringMap := AList (fun _ : String => String)

instance instDecidableEqStringKeyed {β : Type} [DecidableEq β] :
    DecidableEq (AList (fun _ : String => β)) :=
  fun a b => decidable_of_iff (a.entries = b.entries) AList.ext_iff.symm

/-- Go's `m[key]`, with the empty string for a missing key. -/
def StringMap.at (m : StringMap) (key : String) : String := (m.lookup key).getD ""

/-- Conversion of an integer to Go's `int32`, which keeps the low 32 bits. -/
def int32 (n : Int) : Int := Int.bmod n (2 ^ 32)

theorem int32_of_lt {n : Int} (h : -2 ^ 31 ≤ n) (h' : n < 2 ^ 31) : int32 n = n := by
  unfold int32
  apply Int.bmod_eq_of_le <;> omega

theorem int32_lt (n : Int) : int32 n < 2 ^ 31 := by
  have hlt : Int.bmod n (2 ^ 32) < ((2 ^ 32 : Nat) + 1) / 2 := Int.bmod_lt (by omega)
  unfold int32
  omega

structure ResourceList where
  cpu : String := ""
  memory : String := ""
  pods : Int := 0
  deriving DecidableEq, Repr

structure ContainerResources where
  requests : ResourceList := {}
  limits : ResourceList := {}
  deriving DecidableEq, Repr

structure EnvVar where
  name : String
  value : String
  deriving DecidableEq, Repr

structure VolumeMount where
  name : String
  mountPath : String
  readOnly : Bool := false
  deriving DecidableEq, Repr

structure Container where
  name : String
  image : String
  command : List String := []
  args : List String := []
  env : List EnvVar := []
  volumeMounts : List VolumeMount := []
  resources : ContainerResources := {}
  deriving DecidableEq, Repr

inductive VolumeType where
  | projected
  | configMap
  | secret
  | emptyDir
  | pvc
  | hostPath
  | other
  deriving DecidableEq, Repr

structure Volume where
  name : String
  type : VolumeType
  source : String := ""
  deriving DecidableEq, Repr

/-- The domain representation of a pod.  `deleting` stands for a non-zero
deletion timestamp. -/
structure PodSpec where
  name : String
  ns : String
  labels : StringMap := ∅
  nodeName : String := ""
  containers : List Container := []
  volumes : List Volume := []
  serviceAccountName : String := ""
  automountServiceAccountToken : Option Bool := none
  runtimeClassName : String := ""
  nodeSelector : StringMap := ∅
  deleting : Bool := false
  deriving DecidableEq

inductive PodPhase where
  | unset
  | pending
  | running
  | succeeded
  | failed
  | unknown
  deriving DecidableEq, Repr

structure ContainerStatus where
  name : String
  ready : Bool
  restartCount : Int
  state : String
  deriving DecidableEq, Repr

structure PodStatus where
  phase : PodPhase := .unset
  podIP : String := ""
  containerStatuses : List ContainerStatus := []
  message : String := ""
  reason : String := ""
  deriving DecidableEq, Repr

structure PodTranslation where
  sourcePod : PodSpec
  targetPod : PodSpec
  deriving DecidableEq

def labelManagedBy : String := "app.kubernetes.io/managed-by"
def labelManagedByValue : String := "kroderdev-vnode"
def labelVNodePool : String := "vnode.kroderdev.io/pool"
def labelVNodeName : String := "vnode.kroderdev.io/node-name"
def labelSourcePodName : String := "vnode.kroderdev.io/source-pod-name"
def labelSourcePodNS : String := "vnode.kroderdev.io/source-pod-namespace"

structure TranslateOpts where
  vnodeName : String
  poolName : String
  targetNamespace : String
  runtimeClass : String
  nodeSelector : StringMap := ∅

def isServiceAccountMount (vm : VolumeMount) : Bool :=
  vm.mountPath == "/var/run/secrets/kubernetes.io/serviceaccount"

def translateContainers (containers : List Container) : List Container :=
  containers.map fun c =>
    { c with volumeMounts := c.volumeMounts.filter (fun vm => !isServiceAccountMount vm) }

/-- ConfigMap and Secret volumes are renamed per tenant namespace. -/
def renameVolume (sourceNamespace : String) (v : Volume) : Volume :=
  if v.type = .configMap ∨ v.type = .secret then
    { v with source := sourceNamespace ++ "-" ++ v.source }
  else v

def filterVolumes (volumes : List Volume) (sourceNamespace : String) : List Volume :=
  (volumes.filter (fun v => v.type ≠ .projected)).map (renameVolume sourceNamespace)

def systemLabels (source : PodSpec) (opts : TranslateOpts) : StringMap :=
  ((((AList.insert labelManagedBy labelManagedByValue ∅).insert
    labelVNodePool opts.poolName).insert
    labelVNodeName opts.vnodeName).insert
    labelSourcePodName source.name).insert
    labelSourcePodNS source.ns

def addMissingLabel (labels : StringMap) (kv : (_ : String) × String) : StringMap :=
  if (labels.lookup kv.1).isSome then labels else labels.insert kv.1 kv.2

def hostPodName (vnodeName sourceNamespace sourceName : String) : String :=
  vnodeName ++ "-" ++ sourceNamespace ++ "-" ++ sourceName

def translatePod (source : PodSpec) (opts : TranslateOpts) : PodTranslation where
  sourcePod := source
  targetPod :=
    { name := hostPodName opts.vnodeName source.ns source.name
      ns := opts.targetNamespace
      automountServiceAccountToken := some false
      runtimeClassName := opts.runtimeClass
      nodeSelector := opts.nodeSelector
      labels := source.labels.entries.foldl addMissingLabel (systemLabels source opts)
      containers := translateContainers source.containers
      volumes := filterVolumes source.volumes source.ns }

structure VolumeResourceRef where
  type : VolumeType
  sourceName : String
  sourceNamespace : String
  targetName : String
  deriving DecidableEq, Repr

def resourceRefs (t : PodTranslation) : List VolumeResourceRef :=
  (t.sourcePod.volumes.filter
      (fun sv => sv.type = .configMap ∨ sv.type = .secret)).map fun sv =>
    { type := sv.type
      sourceName := sv.source
      sourceNamespace := t.sourcePod.ns
      targetName := t.sourcePod.ns ++ "-" ++ sv.source }

end VNodeOperator.Model
