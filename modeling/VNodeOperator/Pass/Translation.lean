import VNodeOperator.Pass.Target

/-!
# Translated pods

What a translation does to the labels, volumes and mounts of a pod, and what
the comparison of a host pod with its translation sees.  Volumes are dropped by
type and mounts by path, so a mount can lose its volume; maps are compared with
a reading that does not tell a missing key from an empty value, so a changed map
can pass for the same.
-/

namespace VNodeOperator.Pass

open Model Kube Service

/-! ## Labels -/

theorem lookup_addMissingLabel_eq (labels : StringMap) (kv : (_ : String) × String)
    (key : String) :
    (addMissingLabel labels kv).lookup key =
      (labels.lookup key).or (if key = kv.1 then some kv.2 else none) := by
  unfold addMissingLabel
  by_cases hkey : key = kv.1
  · subst hkey
    cases hfound : labels.lookup kv.1 with
    | none => simp [AList.lookup_insert]
    | some v => simp [hfound]
  · rw [if_neg hkey, Option.or_none]
    split
    · rfl
    · exact AList.lookup_insert_ne hkey

theorem lookup_foldl_addMissingLabel_eq (entries : List ((_ : String) × String))
    (labels : StringMap) (key : String) :
    (entries.foldl addMissingLabel labels).lookup key =
      (labels.lookup key).or (entries.dlookup key) := by
  induction entries generalizing labels with
  | nil => simp
  | cons kv rest ih =>
      rw [List.foldl_cons, ih, lookup_addMissingLabel_eq, Option.or_assoc]
      congr 1
      by_cases hkey : key = kv.1
      · subst hkey
        rw [if_pos rfl, List.dlookup_cons_eq]
        rfl
      · rw [if_neg hkey, List.dlookup_cons_ne _ _ hkey]
        rfl

theorem lookup_systemLabels (source : PodSpec) (opts : TranslateOpts) (key : String) :
    (systemLabels source opts).lookup key =
      if key = labelManagedBy then some labelManagedByValue
      else if key = labelVNodePool then some opts.poolName
      else if key = labelVNodeName then some opts.vnodeName
      else if key = labelSourcePodName then some source.name
      else if key = labelSourcePodNS then some source.ns
      else none := by
  have hpool : labelVNodePool ≠ labelManagedBy := by decide
  have hname : labelVNodeName ≠ labelManagedBy ∧ labelVNodeName ≠ labelVNodePool := by decide
  have hsource : labelSourcePodName ≠ labelManagedBy ∧ labelSourcePodName ≠ labelVNodePool ∧
      labelSourcePodName ≠ labelVNodeName := by decide
  have hsourceNS : labelSourcePodNS ≠ labelManagedBy ∧ labelSourcePodNS ≠ labelVNodePool ∧
      labelSourcePodNS ≠ labelVNodeName ∧ labelSourcePodNS ≠ labelSourcePodName := by decide
  unfold systemLabels
  by_cases h₁ : key = labelSourcePodNS
  · subst h₁
    simp [hsourceNS]
  · rw [AList.lookup_insert_ne h₁]
    by_cases h₂ : key = labelSourcePodName
    · subst h₂
      simp [hsource]
    · rw [AList.lookup_insert_ne h₂]
      by_cases h₃ : key = labelVNodeName
      · subst h₃
        simp [hname]
      · rw [AList.lookup_insert_ne h₃]
        by_cases h₄ : key = labelVNodePool
        · subst h₄
          simp [hpool]
        · rw [AList.lookup_insert_ne h₄]
          by_cases h₅ : key = labelManagedBy
          · subst h₅
            rw [AList.lookup_insert, if_pos rfl]
          · rw [AList.lookup_insert_ne h₅]
            simp [h₁, h₂, h₃, h₄, h₅]

/-- The labels of a translated pod: the operator's own where it has one for the
key, and otherwise those of the source. -/
theorem lookup_translatePod_labels (source : PodSpec) (opts : TranslateOpts) (key : String) :
    (translatePod source opts).targetPod.labels.lookup key =
      ((systemLabels source opts).lookup key).or (source.labels.lookup key) :=
  lookup_foldl_addMissingLabel_eq source.labels.entries (systemLabels source opts) key

/-! ## Volumes and their mounts -/

def MountsDeclared (pod : PodSpec) : Prop :=
  ∀ c ∈ pod.containers, ∀ vm ∈ c.volumeMounts, ∃ v ∈ pod.volumes, v.name = vm.name

def KeptMountsHaveKeptVolumes (source : PodSpec) : Prop :=
  ∀ c ∈ source.containers, ∀ vm ∈ c.volumeMounts, isServiceAccountMount vm = false →
    ∃ v ∈ source.volumes, v.name = vm.name ∧ v.type ≠ .projected

instance (pod : PodSpec) : Decidable (MountsDeclared pod) :=
  inferInstanceAs (Decidable (∀ c ∈ pod.containers, ∀ vm ∈ c.volumeMounts,
    ∃ v ∈ pod.volumes, v.name = vm.name))

instance (source : PodSpec) : Decidable (KeptMountsHaveKeptVolumes source) :=
  inferInstanceAs (Decidable (∀ c ∈ source.containers, ∀ vm ∈ c.volumeMounts,
    isServiceAccountMount vm = false →
      ∃ v ∈ source.volumes, v.name = vm.name ∧ v.type ≠ .projected))

@[simp] theorem renameVolume_name (sourceNamespace : String) (v : Volume) :
    (renameVolume sourceNamespace v).name = v.name := by
  unfold renameVolume
  split <;> rfl

theorem exists_mem_filterVolumes_iff (volumes : List Volume) (ns name : String) :
    (∃ v ∈ filterVolumes volumes ns, v.name = name) ↔
      ∃ v ∈ volumes, v.name = name ∧ v.type ≠ .projected := by
  unfold filterVolumes
  constructor
  · rintro ⟨v, hv, hname⟩
    obtain ⟨u, hu, rfl⟩ := List.mem_map.mp hv
    obtain ⟨hmem, htype⟩ := List.mem_filter.mp hu
    rw [renameVolume_name] at hname
    exact ⟨u, hmem, hname, of_decide_eq_true htype⟩
  · rintro ⟨v, hv, hname, htype⟩
    refine ⟨renameVolume ns v, ?_, (renameVolume_name ns v).trans hname⟩
    exact List.mem_map_of_mem (List.mem_filter.mpr ⟨hv, decide_eq_true htype⟩)

theorem mountsDeclared_translatePod_iff (source : PodSpec) (opts : TranslateOpts) :
    MountsDeclared (translatePod source opts).targetPod ↔ KeptMountsHaveKeptVolumes source := by
  constructor
  · intro hdeclared c hc vm hvm hpath
    have hmem : { c with volumeMounts :=
        c.volumeMounts.filter (fun vm => !isServiceAccountMount vm) } ∈
          translateContainers source.containers :=
      List.mem_map.mpr ⟨c, hc, rfl⟩
    have hkept : vm ∈ c.volumeMounts.filter (fun vm => !isServiceAccountMount vm) :=
      List.mem_filter.mpr ⟨hvm, by rw [hpath]; rfl⟩
    exact (exists_mem_filterVolumes_iff source.volumes source.ns vm.name).mp
      (hdeclared _ hmem vm hkept)
  · intro hkept c' hc' vm hvm
    obtain ⟨c, hc, rfl⟩ := List.mem_map.mp hc'
    obtain ⟨hvm, hpath⟩ := List.mem_filter.mp hvm
    have hpath : isServiceAccountMount vm = false := by
      simpa using hpath
    exact (exists_mem_filterVolumes_iff source.volumes source.ns vm.name).mpr
      (hkept c hc vm hvm hpath)

/-- The translation of a pod that declares its volumes declares them exactly when
the mounts outside the service account path use volumes that are not projected. -/
theorem translatePod_wellFormed_iff (source : PodSpec) (opts : TranslateOpts) :
    (MountsDeclared source → MountsDeclared (translatePod source opts).targetPod) ↔
      (MountsDeclared source → KeptMountsHaveKeptVolumes source) := by
  rw [mountsDeclared_translatePod_iff]

/-- A pod that mounts a token of its own, with an audience, next to the usual one. -/
def tokenPod : PodSpec where
  name := "vault-agent"
  ns := "default"
  containers :=
    [ { name := "agent", image := "vault"
        volumeMounts := [⟨"vault-token", "/var/run/secrets/vault", true⟩] } ]
  volumes := [⟨"vault-token", .projected, ""⟩]

theorem tokenPod_mount_dangles :
    MountsDeclared tokenPod ∧ ¬ MountsDeclared (translatePod tokenPod
      { vnodeName := "vnode-web-1", poolName := "web", targetNamespace := "host"
        runtimeClass := "kata" }).targetPod := by
  decide

/-! ## Volumes and the objects they refer to -/

def isSynced (v : Volume) : Bool := v.type = .configMap ∨ v.type = .secret

structure VolumeKept (v t : Volume) : Prop where
  name : t.name = v.name
  type : t.type = v.type
  source : isSynced v = false → t.source = v.source

structure Refers (ns : String) (volumes : Volume × Volume) (ref : VolumeResourceRef) : Prop where
  type : ref.type = volumes.2.type
  targetName : ref.targetName = volumes.2.source
  sourceName : ref.sourceName = volumes.1.source
  sourceNamespace : ref.sourceNamespace = ns

theorem renameVolume_of_synced (ns : String) {v : Volume} (hv : isSynced v = true) :
    renameVolume ns v = { v with source := ns ++ "-" ++ v.source } :=
  if_pos (of_decide_eq_true hv)

theorem renameVolume_of_not_synced (ns : String) {v : Volume} (hv : isSynced v = false) :
    renameVolume ns v = v :=
  if_neg (of_decide_eq_false hv)

theorem volumeKept_renameVolume (ns : String) (v : Volume) :
    VolumeKept v (renameVolume ns v) := by
  cases hv : isSynced v with
  | true =>
      rw [renameVolume_of_synced ns hv]
      exact ⟨rfl, rfl, fun hnot => absurd (hv.symm.trans hnot) (by decide)⟩
  | false =>
      rw [renameVolume_of_not_synced ns hv]
      exact ⟨rfl, rfl, fun _ => rfl⟩

def volumePairs (source : PodSpec) : List (Volume × Volume) :=
  (source.volumes.filter fun v => v.type ≠ .projected).map fun v => (v, renameVolume source.ns v)

/-- The loop over the source volumes finds the references of the volumes that the other loop
has renamed, one by one. -/
theorem refers_volumePairs (source : PodSpec) (opts : TranslateOpts) :
    List.Forall₂ (Refers source.ns) ((volumePairs source).filter fun p => isSynced p.2)
      (resourceRefs (translatePod source opts)) := by
  unfold volumePairs resourceRefs
  change List.Forall₂ _ _ ((source.volumes.filter isSynced).map _)
  induction source.volumes with
  | nil => exact List.Forall₂.nil
  | cons v rest ih =>
      have htype : isSynced (renameVolume source.ns v) = isSynced v := by
        unfold isSynced
        rw [(volumeKept_renameVolume source.ns v).type]
      cases hv : isSynced v with
      | true =>
          have hkept : v.type ≠ .projected := by
            intro hprojected
            rw [isSynced, hprojected] at hv
            cases hv
          simp only [List.filter_cons, hkept, hv, htype, ne_eq, not_false_eq_true, decide_true,
            if_true, List.map_cons]
          refine List.Forall₂.cons ?_ ih
          rw [renameVolume_of_synced source.ns hv]
          exact ⟨rfl, rfl, rfl, rfl⟩
      | false =>
          -- neither loop gives a reference, be the volume projected or kept as it is
          rw [List.filter_cons_of_neg (a := v) (p := isSynced) (by rw [hv]; decide)]
          by_cases hkept : v.type = .projected
          · rw [List.filter_cons_of_neg (by simpa using hkept)]
            exact ih
          · rw [List.filter_cons_of_pos (by simpa using hkept), List.map_cons,
              List.filter_cons_of_neg (by rw [htype, hv]; decide)]
            exact ih

/-- The volumes of a translation are those of the source that are not projected, in their order,
and the references are exactly those of its ConfigMap and Secret volumes, in the same order. -/
theorem volumes_refs_agree (source : PodSpec) (opts : TranslateOpts) :
    ∃ pairs : List (Volume × Volume),
      pairs.map Prod.fst = source.volumes.filter (fun v => v.type ≠ .projected) ∧
      pairs.map Prod.snd = (translatePod source opts).targetPod.volumes ∧
      (∀ p ∈ pairs, VolumeKept p.1 p.2) ∧
      List.Forall₂ (Refers source.ns) (pairs.filter fun p => isSynced p.2)
        (resourceRefs (translatePod source opts)) := by
  refine ⟨volumePairs source, ?_, ?_, ?_, refers_volumePairs source opts⟩
  · rw [volumePairs, List.map_map]
    exact List.map_id _
  · rw [volumePairs, List.map_map]
    rfl
  · intro p hp
    obtain ⟨v, _, rfl⟩ := List.mem_map.mp hp
    exact volumeKept_renameVolume source.ns v

/-! ## Drift -/

def SameEntries (a b : StringMap) : Prop := ∀ key, a.lookup key = b.lookup key

structure SameApartFromMaps (a b : PodSpec) : Prop where
  name : a.name = b.name
  ns : a.ns = b.ns
  serviceAccountName : normalizeServiceAccount a.serviceAccountName =
    normalizeServiceAccount b.serviceAccountName
  automount : a.automountServiceAccountToken = b.automountServiceAccountToken
  runtimeClassName : a.runtimeClassName = b.runtimeClassName
  containers : a.containers = b.containers
  volumes : a.volumes = b.volumes

structure SamePodSpec (a b : PodSpec) : Prop extends SameApartFromMaps a b where
  labels : SameEntries a.labels b.labels
  nodeSelector : SameEntries a.nodeSelector b.nodeSelector

/-- The maps are of one size, and each entry of the first is in the second or is
an empty value under a key that the second does not have. -/
structure ReadsAlike (a b : StringMap) : Prop where
  size : a.entries.length = b.entries.length
  entry : ∀ key value, a.lookup key = some value →
    b.lookup key = some value ∨ (value = "" ∧ b.lookup key = none)

def EmptyValueDropped (a b : StringMap) : Prop :=
  ∃ key, a.lookup key = some "" ∧ b.lookup key = none

/-- Drift that the comparison does not see: nothing but the maps differs, and what
differs in the maps reads as an empty value. -/
structure DriftMissed (a b : PodSpec) : Prop extends SameApartFromMaps a b where
  labels : ReadsAlike a.labels b.labels
  nodeSelector : ReadsAlike a.nodeSelector b.nodeSelector
  dropped : EmptyValueDropped a.labels b.labels ∨
    EmptyValueDropped a.nodeSelector b.nodeSelector

section

variable {a b : StringMap}

theorem at_eq_iff (key value : String) :
    b.at key = value ↔ b.lookup key = some value ∨ (value = "" ∧ b.lookup key = none) := by
  unfold StringMap.at
  cases hb : b.lookup key with
  | none => simp [eq_comm]
  | some v => simp

theorem stringMapEqual_iff : stringMapEqual a b = true ↔ ReadsAlike a b := by
  have hall : (a.entries.all fun kv => b.at kv.1 = kv.2) = true ↔
      ∀ key value, a.lookup key = some value → b.at key = value := by
    rw [List.all_eq_true]
    constructor
    · intro h key value hlookup
      exact of_decide_eq_true (h ⟨key, value⟩ (AList.mem_lookup_iff.mp hlookup))
    · rintro h ⟨key, value⟩ hmem
      exact decide_eq_true (h key value (AList.mem_lookup_iff.mpr hmem))
  have hreads : ReadsAlike a b ↔ a.entries.length = b.entries.length ∧
      ∀ key value, a.lookup key = some value → b.at key = value := by
    simp only [at_eq_iff]
    exact ⟨fun h => ⟨h.size, h.entry⟩, fun h => ⟨h.1, h.2⟩⟩
  rw [hreads, ← hall]
  unfold stringMapEqual
  split
  · next hempty =>
      -- two empty maps: there is no entry to look at
      have hnil : a.entries = [] := List.length_eq_zero_iff.mp hempty.1
      simp [hnil, hempty.2]
  · split
    · next hsize => simp [hsize]
    · next hsize => simp [not_not.mp hsize]

theorem SameEntries.perm (h : SameEntries a b) : a.entries.Perm b.entries := by
  apply List.lookup_ext a.nodupKeys b.nodupKeys
  intro key value
  have hkey : a.entries.dlookup key = b.entries.dlookup key := h key
  rw [hkey]

/-- A map that reads like another and drops no empty value is the same map: of two
lists of one length and without duplicates, one contains the other. -/
theorem sameEntries_iff : SameEntries a b ↔ ReadsAlike a b ∧ ¬ EmptyValueDropped a b := by
  constructor
  · intro h
    refine ⟨⟨h.perm.length_eq, ?_⟩, ?_⟩
    · intro key value hlookup
      exact Or.inl ((h key).symm.trans hlookup)
    · rintro ⟨key, hempty, hnone⟩
      rw [h key, hnone] at hempty
      cases hempty
  · rintro ⟨hreads, hnone⟩
    have hsubset : a.entries ⊆ b.entries := by
      rintro ⟨key, value⟩ hmem
      have hlookup : a.lookup key = some value := AList.mem_lookup_iff.mpr hmem
      rcases hreads.entry key value hlookup with hb | ⟨rfl, hb⟩
      · exact AList.mem_lookup_iff.mp hb
      · exact absurd ⟨key, hlookup, hb⟩ hnone
    have hsubperm : a.entries.Subperm b.entries := List.subperm_of_subset a.nodupKeys.nodup hsubset
    have hperm : a.entries.Perm b.entries :=
      hsubperm.perm_of_length_le (Nat.le_of_eq hreads.size.symm)
    exact fun key => AList.perm_lookup hperm

end

/-- What the comparison computes. -/
theorem podSpecsEqual_iff_readsAlike (a b : PodSpec) :
    podSpecsEqual a b = true ↔ SameApartFromMaps a b ∧ ReadsAlike a.labels b.labels ∧
      ReadsAlike a.nodeSelector b.nodeSelector := by
  rw [podSpecsEqual_iff, stringMapEqual_iff, stringMapEqual_iff]
  constructor
  · rintro ⟨hname, hns, haccount, hautomount, hclass, hlabels, hselector, hcontainers, hvolumes⟩
    exact ⟨⟨hname, hns, haccount, hautomount, hclass, hcontainers, hvolumes⟩, hlabels, hselector⟩
  · rintro ⟨h, hlabels, hselector⟩
    exact ⟨h.name, h.ns, h.serviceAccountName, h.automount, h.runtimeClassName, hlabels,
      hselector, h.containers, h.volumes⟩

theorem samePodSpec_iff (a b : PodSpec) :
    SamePodSpec a b ↔ podSpecsEqual a b = true ∧ ¬ DriftMissed a b := by
  rw [podSpecsEqual_iff_readsAlike]
  constructor
  · intro h
    obtain ⟨hlabels, hkept⟩ := sameEntries_iff.mp h.labels
    obtain ⟨hselector, hkept'⟩ := sameEntries_iff.mp h.nodeSelector
    refine ⟨⟨h.toSameApartFromMaps, hlabels, hselector⟩, ?_⟩
    exact fun hmissed => hmissed.dropped.elim hkept hkept'
  · rintro ⟨⟨hrest, hlabels, hselector⟩, hmissed⟩
    have hkept : ¬ EmptyValueDropped a.labels b.labels :=
      fun hd => hmissed ⟨hrest, hlabels, hselector, Or.inl hd⟩
    have hkept' : ¬ EmptyValueDropped a.nodeSelector b.nodeSelector :=
      fun hd => hmissed ⟨hrest, hlabels, hselector, Or.inr hd⟩
    exact ⟨hrest, sameEntries_iff.mpr ⟨hlabels, hkept⟩, sameEntries_iff.mpr ⟨hselector, hkept'⟩⟩

/-- The comparison is exact on a pair of pods, except for drift that only replaces
keys with empty values. -/
theorem driftDetection_exact_iff (a b : PodSpec) :
    (podSpecsEqual a b = true ↔ SamePodSpec a b) ↔ ¬ DriftMissed a b := by
  constructor
  · intro hexact hmissed
    have hequal : podSpecsEqual a b = true := (podSpecsEqual_iff_readsAlike a b).mpr
      ⟨hmissed.toSameApartFromMaps, hmissed.labels, hmissed.nodeSelector⟩
    exact ((samePodSpec_iff a b).mp (hexact.mp hequal)).2 hmissed
  · intro hnot
    rw [samePodSpec_iff]
    exact ⟨fun hequal => ⟨hequal, hnot⟩, And.left⟩

def hostPodLabelled (labels : StringMap) : PodSpec :=
  (translatePod { name := "nginx", ns := "default", labels := labels }
    { vnodeName := "vnode-web-1", poolName := "web", targetNamespace := "host"
      runtimeClass := "kata" }).targetPod

/-- A tenant replaces the label `canary`, which has no value, by another one: the
host pod, created before, passes for the translation. -/
theorem replaced_label_unnoticed :
    podSpecsEqual (hostPodLabelled (AList.insert "canary" "" ∅))
        (hostPodLabelled (AList.insert "track" "stable" ∅)) = true ∧
      ¬ SamePodSpec (hostPodLabelled (AList.insert "canary" "" ∅))
        (hostPodLabelled (AList.insert "track" "stable" ∅)) := by
  refine ⟨by decide, ?_⟩
  intro hsame
  have hlabel := hsame.labels "canary"
  exact absurd hlabel (by decide)

end VNodeOperator.Pass
