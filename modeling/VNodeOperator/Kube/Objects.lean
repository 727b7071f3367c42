import VNodeOperator.Model.Node

/-!
# Cluster objects

The Kubernetes objects the operator reads and writes, with the fields it uses:
core pods, ConfigMaps and Secrets, tenant nodes and leases, and the operator's
own custom resources.  Clock readings inside objects are kept only where some
function reads them back.
-/

namespace VNodeOperator.Kube

open Model

/-- Errors as the callers tell them apart, with their text.  Wrapping with
`%w` changes the text and keeps the kind.  `panicked` stands for a panic of
`resource.MustParse`. -/
inductive ErrKind where
  | canceled
  | deadlineExceeded
  | notFound
  | conflict
  | alreadyExists
  | podTerminating
  | panicked
  | other
  deriving DecidableEq, Repr

structure Err where
  kind : ErrKind
  msg : String
  deriving DecidableEq, Repr

/-- `fmt.Errorf("context: %w", err)`. -/
def Err.wrap (context : String) (e : Err) : Err :=
  { e with msg := context ++ ": " ++ e.msg }

def Err.isNotFound (e : Err) : Bool := e.kind = .notFound

def Err.isConflict (e : Err) : Bool := e.kind = .conflict

/-- Cancellation or an expired deadline, which the operator treats as a
shutdown and not as a failure. -/
def isIgnorableShutdownError (e : Err) : Bool :=
  e.kind = .canceled || e.kind = .deadlineExceeded

def notFoundError (resource name : String) : Err :=
  ⟨.notFound, resource ++ " \"" ++ name ++ "\" not found"⟩

def alreadyExistsError (resource name : String) : Err :=
  ⟨.alreadyExists, resource ++ " \"" ++ name ++ "\" already exists"⟩

def conflictError (resource name : String) : Err :=
  ⟨.conflict, "Operation cannot be fulfilled on " ++ resource ++ " \"" ++ name ++ "\""⟩

structure ObjKey where
  ns : String
  name : String
  deriving DecidableEq, Repr

/-! ## Core objects -/

/-- A `resource.Quantity`, as the operator observes it: through `String` and
`Value`. -/
structure Quantity where
  string : String
  value : Int
  deriving DecidableEq, Repr

structure CoreResourceList where
  cpu : Option Quantity := none
  memory : Option Quantity := none
  pods : Option Quantity := none
  deriving DecidableEq, Repr

structure CoreContainer where
  name : String
  image : String
  command : List String := []
  args : List String := []
  env : List EnvVar := []
  volumeMounts : List VolumeMount := []
  requests : CoreResourceList := {}
  limits : CoreResourceList := {}
  deriving DecidableEq, Repr

/-- A `corev1.Volume`: one optional member per kind of source.  `otherSource`
stands for the kinds the operator has no case for. -/
structure CoreVolume where
  name : String
  configMap : Option String := none
  secret : Option String := none
  persistentVolumeClaim : Option String := none
  emptyDir : Bool := false
  hostPath : Option String := none
  projected : Bool := false
  otherSource : Bool := false
  deriving DecidableEq, Repr

/-- `corev1.ContainerState`: which of the three members are set. -/
structure CoreContainerState where
  running : Bool := false
  waiting : Bool := false
  terminated : Bool := false
  deriving DecidableEq, Repr

structure CoreContainerStatus where
  name : String
  ready : Bool
  restartCount : Int
  state : CoreContainerState := {}
  deriving DecidableEq, Repr

structure CorePodStatus where
  phase : PodPhase := .unset
  podIP : String := ""
  message : String := ""
  reason : String := ""
  containerStatuses : List CoreContainerStatus := []
  hostIP : String := ""
  deriving DecidableEq, Repr

structure CorePod where
  name : String
  ns : String
  uid : String := ""
  labels : StringMap := ∅
  deletionTimestamp : Option Nat := none
  nodeName : String := ""
  serviceAccountName : String := ""
  automountServiceAccountToken : Option Bool := none
  runtimeClassName : Option String := none
  nodeSelector : StringMap := ∅
  tolerations : List Toleration := []
  containers : List CoreContainer := []
  volumes : List CoreVolume := []
  status : CorePodStatus := {}
  deriving DecidableEq

def CorePod.key (p : CorePod) : ObjKey := ⟨p.ns, p.name⟩

structure ConfigMap where
  name : String
  ns : String
  labels : StringMap := ∅
  data : StringMap := ∅
  binaryData : AList (fun _ : String => List UInt8) := ∅
  deriving DecidableEq

def ConfigMap.key (c : ConfigMap) : ObjKey := ⟨c.ns, c.name⟩

structure Secret where
  name : String
  ns : String
  labels : StringMap := ∅
  data : AList (fun _ : String => List UInt8) := ∅
  deriving DecidableEq

def Secret.key (s : Secret) : ObjKey := ⟨s.ns, s.name⟩

/-! ## Tenant nodes and leases -/

/-- A `corev1.Node`.  `unschedulable` stands for what others set in the spec and the registrar
passes on. -/
structure TenantNode where
  name : String
  labels : StringMap := ∅
  annotations : StringMap := ∅
  taints : List Taint := []
  unschedulable : Bool := false
  capacity : CoreResourceList := {}
  allocatable : CoreResourceList := {}
  conditions : List NodeCondition := []
  kubeletVersion : String := ""
  deriving DecidableEq

/-- A node lease in `kube-node-lease`.  `leaseTransitions` stands for what others set and the
registrar passes on. -/
structure Lease where
  name : String
  holderIdentity : String
  leaseDurationSeconds : Int
  leaseTransitions : Option Int := none
  deriving DecidableEq, Repr

/-! ## Custom resources -/

inductive ConditionStatus where
  | true
  | false
  | unknown
  deriving DecidableEq, Repr

structure VNodeCondition where
  type : NodeConditionType
  status : ConditionStatus
  reason : String
  message : String
  deriving DecidableEq, Repr

structure VNodeCR where
  name : String
  ns : String
  resourceVersion : Nat := 0
  creationTimestamp : Int := 0
  labels : StringMap := ∅
  annotations : StringMap := ∅
  poolRef : String := ""
  capacity : ResourceList := {}
  phase : NodePhase := .unset
  conditions : List VNodeCondition := []
  deriving DecidableEq

def VNodeCR.key (cr : VNodeCR) : ObjKey := ⟨cr.ns, cr.name⟩

structure PoolCondition where
  type : String
  status : ConditionStatus
  reason : String
  message : String
  lastTransitionTime : Int
  deriving DecidableEq, Repr

structure VNodePoolStatus where
  phase : PoolPhase := .unset
  readyNodes : Int := 0
  totalNodes : Int := 0
  conditions : List PoolCondition := []
  deriving DecidableEq, Repr

structure VNodePoolCR where
  name : String
  ns : String
  resourceVersion : Nat := 0
  deletionTimestamp : Option Nat := none
  finalizers : List String := []
  tenantRef : TenantRef := {}
  nodeCount : Int := 0
  perNodeResources : ResourceList := {}
  mode : PoolMode := .unset
  isolationBackend : String := ""
  runtimeClassName : String := ""
  nodeSelector : StringMap := ∅
  taints : List Taint := []
  tolerations : List Toleration := []
  displayName : String := ""
  status : VNodePoolStatus := {}
  deriving DecidableEq

def VNodePoolCR.key (cr : VNodePoolCR) : ObjKey := ⟨cr.ns, cr.name⟩

end VNodeOperator.Kube
