import VNodeOperator.Service.PodExecution

/-!
# What a source pod stands for on the host

The host pod, ConfigMaps and Secrets that a pass derives from one source pod,
and the labels they carry.
-/

namespace VNodeOperator.Pass

open Model Kube Ports ProofSupport Service PodExecution

def translation (translator : PodService) (pool : VNodePool) (p : CorePod) : PodTranslation :=
  translatePod (podFromCore p) (translator.translateOpts pool p.nodeName)

def targetPod (translator : PodService) (pool : VNodePool) (p : CorePod) : PodSpec :=
  (translation translator pool p).targetPod

def targetKey (pool : VNodePool) (p : CorePod) : ObjKey :=
  ⟨pool.ns, hostPodName p.nodeName p.ns p.name⟩

theorem translate_eq (translator : PodService) (pool : VNodePool) (p : CorePod) :
    translator.translate (podFromCore p) pool p.nodeName = .ok (translation translator pool p) :=
  rfl

theorem targetPod_key (translator : PodService) (pool : VNodePool) (p : CorePod) :
    (⟨(targetPod translator pool p).ns, (targetPod translator pool p).name⟩ : ObjKey) =
      targetKey pool p := rfl

/-! ## Labels -/

theorem lookup_addMissingLabel {labels : StringMap} {k v : String}
    (h : labels.lookup k = some v) (kv : (_ : String) × String) :
    (addMissingLabel labels kv).lookup k = some v := by
  unfold addMissingLabel
  split
  · exact h
  · next hnone =>
      have hne : k ≠ kv.1 := by
        intro heq
        rw [← heq, h] at hnone
        exact hnone rfl
      rw [AList.lookup_insert_ne hne]
      exact h

/-- Labels of the source pod never replace a label that is set already. -/
theorem lookup_foldl_addMissingLabel {k v : String} (entries : List ((_ : String) × String))
    {labels : StringMap} (h : labels.lookup k = some v) :
    (entries.foldl addMissingLabel labels).lookup k = some v := by
  induction entries generalizing labels with
  | nil => exact h
  | cons kv rest ih => exact ih (lookup_addMissingLabel h kv)

section

variable (translator : PodService) (pool : VNodePool) (p : CorePod)

theorem lookup_managedBy :
    (targetPod translator pool p).labels.lookup labelManagedBy = some labelManagedByValue := by
  apply lookup_foldl_addMissingLabel
  simp [systemLabels, labelManagedBy, labelVNodePool, labelVNodeName, labelSourcePodName,
    labelSourcePodNS, AList.lookup_insert_ne, -AList.insert_empty]

theorem lookup_pool :
    (targetPod translator pool p).labels.lookup labelVNodePool = some pool.name := by
  apply lookup_foldl_addMissingLabel
  simp [systemLabels, labelVNodePool, labelVNodeName, labelSourcePodName,
    labelSourcePodNS, AList.lookup_insert_ne, PodService.translateOpts]

theorem lookup_sourcePodName :
    (targetPod translator pool p).labels.lookup labelSourcePodName = some p.name := by
  apply lookup_foldl_addMissingLabel
  simp [systemLabels, labelSourcePodName, labelSourcePodNS, AList.lookup_insert_ne, podFromCore]

theorem lookup_sourcePodNS :
    (targetPod translator pool p).labels.lookup labelSourcePodNS = some p.ns := by
  apply lookup_foldl_addMissingLabel
  simp [systemLabels, podFromCore]

end

def OwnedBy (pool : VNodePool) (labels : StringMap) : Prop :=
  labels.lookup labelManagedBy = some labelManagedByValue ∧
    labels.lookup labelVNodePool = some pool.name

instance (pool : VNodePool) (labels : StringMap) : Decidable (OwnedBy pool labels) :=
  inferInstanceAs (Decidable (_ ∧ _))

theorem lookup_ownerLabels_managedBy (poolName : String) :
    (ownerLabels poolName).lookup labelManagedBy = some labelManagedByValue := by
  simp [ownerLabels, labelManagedBy, labelVNodePool, AList.lookup_insert_ne,
    -AList.insert_empty]

theorem ownedBy_ownerLabels (pool : VNodePool) : OwnedBy pool (ownerLabels pool.name) := by
  refine ⟨lookup_ownerLabels_managedBy pool.name, ?_⟩
  simp [ownerLabels]

theorem ownedBy_targetPod (translator : PodService) (pool : VNodePool) (p : CorePod) :
    OwnedBy pool (targetPod translator pool p).labels :=
  ⟨lookup_managedBy translator pool p, lookup_pool translator pool p⟩

theorem matchesLabels_ownerLabels (pool : VNodePool) (labels : StringMap) :
    matchesLabels (ownerLabels pool.name) labels ↔ OwnedBy pool labels := by
  have hentries : (ownerLabels pool.name).entries =
      [⟨labelVNodePool, pool.name⟩, ⟨labelManagedBy, labelManagedByValue⟩] := rfl
  rw [matchesLabels, hentries]
  simp [OwnedBy, and_comm]

/-! ## ConfigMaps and Secrets -/

def podRefs (p : CorePod) : List VolumeResourceRef :=
  ((podFromCore p).volumes.filter (fun sv => sv.type = .configMap ∨ sv.type = .secret)).map
    fun sv =>
      { type := sv.type
        sourceName := sv.source
        sourceNamespace := p.ns
        targetName := p.ns ++ "-" ++ sv.source }

theorem resourceRefs_translation (translator : PodService) (pool : VNodePool) (p : CorePod) :
    resourceRefs (translation translator pool p) = podRefs p := rfl

def hostConfigMap (pool : VNodePool) (ref : VolumeResourceRef) (cm : ConfigMap) : ConfigMap where
  name := ref.targetName
  ns := pool.ns
  labels := ownerLabels pool.name
  data := cm.data
  binaryData := cm.binaryData

def hostSecret (pool : VNodePool) (ref : VolumeResourceRef) (s : Secret) : Secret where
  name := ref.targetName
  ns := pool.ns
  labels := ownerLabels pool.name
  data := s.data

def configMapFor (t : TenantCluster) (pool : VNodePool) (ref : VolumeResourceRef) :
    Option ConfigMap :=
  if ref.type = .configMap then
    (t.configMaps.get ⟨ref.sourceNamespace, ref.sourceName⟩).map (hostConfigMap pool ref)
  else none

def secretFor (t : TenantCluster) (pool : VNodePool) (ref : VolumeResourceRef) :
    Option Secret :=
  if ref.type = .secret then
    (t.secrets.get ⟨ref.sourceNamespace, ref.sourceName⟩).map (hostSecret pool ref)
  else none

def configMapWrites (t : TenantCluster) (pool : VNodePool) (p : CorePod) : List ConfigMap :=
  (podRefs p).filterMap (configMapFor t pool)

def secretWrites (t : TenantCluster) (pool : VNodePool) (p : CorePod) : List Secret :=
  (podRefs p).filterMap (secretFor t pool)

/-! ## The source pods of a pass -/

/-- The tenant pods a pass of the pool handles. -/
def sourcePods (env : Env) (w : Cluster) (cs : Clientset) (pool : VNodePool) : List CorePod :=
  (w.tenants cs).pods.items.filter
    (isSourcePod (readyNames ((env.order (w.poolVNodes pool.ns pool.name)).map
      Adapter.NodeRepository.crToNode)))

theorem get_sourcePod {env : Env} {w : Cluster} {cs : Clientset} {pool : VNodePool} {p : CorePod}
    (hp : p ∈ sourcePods env w cs pool) : (w.tenants cs).pods.get p.key = some p :=
  Store.get_of_mem (List.mem_filter.mp hp).1

theorem get_sourcePod_ne_none {env : Env} {w : Cluster} {cs : Clientset} {pool : VNodePool} :
    ∀ p ∈ sourcePods env w cs pool, (w.tenants cs).pods.get p.key ≠ none := by
  intro p hp
  rw [get_sourcePod hp]
  exact Option.some_ne_none p

/-! ## The pods a pass creates -/

def CreatesOnly (P : PodSpec → Prop) (c : Call) : Prop := ∀ pod, c = .createPod pod → P pod

theorem createsOnly_of_leavesPods {P : PodSpec → Prop} (c : Call) (hc : leavesPods c) :
    CreatesOnly P c := by
  rintro pod rfl
  cases hc

section

variable {translator : PodService} {cs : Clientset} {pool : VNodePool}

theorem createsOnly_reconcilePods (sources : List CorePod) :
    Prog.Uses (CreatesOnly fun pod => ∃ p ∈ sources, pod = targetPod translator pool p)
      (reconcilePods translator cs pool sources) := by
  apply uses_reconcilePods createsOnly_of_leavesPods
  · rintro k pod ⟨⟩
  · intro p hp translation htranslate
    rw [translate_eq] at htranslate
    cases htranslate
    rintro pod ⟨⟩
    exact ⟨p, hp, rfl⟩

/-- The pods a pass creates are translations of its pool's source pods. -/
theorem createsOnly_reconcilePool :
    Prog.Uses (CreatesOnly fun pod => ∃ p, pod = targetPod translator pool p)
      (reconcilePool translator pool) := by
  apply uses_reconcilePool_of createsOnly_of_leavesPods
  intro cs sources
  apply (createsOnly_reconcilePods sources).mono
  intro c hc pod hpod
  obtain ⟨p, _, hp⟩ := hc pod hpod
  exact ⟨p, hp⟩

end

end VNodeOperator.Pass
