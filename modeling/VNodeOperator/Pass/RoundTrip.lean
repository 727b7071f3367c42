import VNodeOperator.Pass.Run
import VNodeOperator.Service.NodeService

/-!
# Created pods read back

A host pod is written as `podSpecToK8sPod` of a translation, defaulted by the
API server, and read back with `podToSpec`.  What is read back counts as equal
to the translation exactly when the source pod has no volume of a kind the
conversions have no case for: such a volume is written without a source, and the
host makes it an `emptyDir`.
-/

namespace VNodeOperator.Pass

open Model Kube Adapter Ports ProofSupport Service NodeService PodExecution

/-! ## The host API server -/

def defaultVolume (v : CoreVolume) : CoreVolume :=
  if v.configMap = none ∧ v.secret = none ∧ v.persistentVolumeClaim = none ∧ v.emptyDir = false ∧
      v.hostPath = none ∧ v.projected = false ∧ v.otherSource = false then
    { v with emptyDir := true }
  else v

/-- What the API server fills in, with the node the scheduler picked. -/
def hostDefaults (hostNode : String) (k : CorePod) : CorePod :=
  { k with
    nodeName := hostNode
    serviceAccountName := if k.serviceAccountName = "" then "default" else k.serviceAccountName
    volumes := k.volumes.map defaultVolume }

def readBack (hostNode : String) (k : CorePod) : PodSpec :=
  PodClient.podToSpec (hostDefaults hostNode k)

/-- The environment in which the host keeps pods as the client writes them. -/
def converting (env : Env) (hostNode : String) : Env :=
  { env with
    storePod := fun pod => (PodClient.podSpecToK8sPod env pod).map (readBack hostNode)
    storePod_key := by
      intro pod shown h
      unfold PodClient.podSpecToK8sPod at h
      cases hcontainers : pod.containers.mapM (PodClient.containerToK8s env) with
      | error err =>
          rw [hcontainers] at h
          cases h
      | ok containers =>
          rw [hcontainers] at h
          cases h
          exact ⟨rfl, rfl⟩ }

/-! ## Resources and containers -/

def KeepsText (env : Env) (q : Quantity) : Prop :=
  ∃ q', env.parseQuantity q.string = some q' ∧ q'.string = q.string

def quantities (c : CoreContainer) : List Quantity :=
  [c.requests.cpu, c.requests.memory, c.limits.cpu, c.limits.memory].filterMap id

section

variable {env : Env}

theorem parseEntry_quantityText {e : Option Quantity} (h : ∀ q ∈ e, KeepsText env q) :
    ∃ e', Registrar.parseEntry env (PodClient.quantityText e) = .ok e' ∧
      PodClient.quantityText e' = PodClient.quantityText e := by
  cases e with
  | none => exact ⟨none, rfl, rfl⟩
  | some q =>
      obtain ⟨q', hparse, htext⟩ := h q rfl
      by_cases hempty : q.string = ""
      · refine ⟨none, ?_, hempty.symm⟩
        simp only [PodClient.quantityText, Registrar.parseEntry, hempty, if_true]
      · refine ⟨some q', ?_, htext⟩
        simp only [PodClient.quantityText, Registrar.parseEntry, hempty, if_false,
          Registrar.mustParse, hparse]
        rfl

theorem resourceList_roundTrip {r : CoreResourceList} (hpods : r.pods = none)
    (hcpu : ∀ q ∈ r.cpu, KeepsText env q) (hmemory : ∀ q ∈ r.memory, KeepsText env q) :
    ∃ k, PodClient.resourceListToK8s env (resourceListFromCore r) = .ok k ∧
      PodClient.resourceListFromK8s k = resourceListFromCore r := by
  obtain ⟨cpu, hcpu, hcpuText⟩ := parseEntry_quantityText hcpu
  obtain ⟨memory, hmemory, hmemoryText⟩ := parseEntry_quantityText hmemory
  refine ⟨{ cpu := cpu, memory := memory }, ?_, ?_⟩
  · simp only [PodClient.resourceListToK8s, resourceListFromCore, PodClient.resourceListFromK8s,
      hcpu, hmemory]
    rfl
  · simp only [PodClient.resourceListFromK8s, resourceListFromCore, hcpuText, hmemoryText, hpods]

theorem container_roundTrip {c : Container} {requests limits : CoreResourceList}
    (hrequests : PodClient.resourceListToK8s env c.resources.requests = .ok requests)
    (hlimits : PodClient.resourceListToK8s env c.resources.limits = .ok limits)
    (hrequests' : PodClient.resourceListFromK8s requests = c.resources.requests)
    (hlimits' : PodClient.resourceListFromK8s limits = c.resources.limits) :
    ∃ k, PodClient.containerToK8s env c = .ok k ∧ PodClient.containerFromK8s k = c := by
  refine ⟨{
    name := c.name
    image := c.image
    command := c.command
    args := c.args
    env := PodClient.envToK8s c.env
    volumeMounts := PodClient.volumeMountsToK8s c.volumeMounts
    requests := requests
    limits := limits }, ?_, ?_⟩
  · simp only [PodClient.containerToK8s, hrequests, hlimits]
    rfl
  · simp only [PodClient.containerFromK8s, hrequests', hlimits', PodClient.envFromK8s,
      PodClient.envToK8s, PodClient.volumeMountsFromK8s, PodClient.volumeMountsToK8s, List.map_id']

theorem mapM_roundTrip {α β : Type} {f : α → Except Err β} {g : β → α} {l : List α}
    (h : ∀ a ∈ l, ∃ b, f a = .ok b ∧ g b = a) : ∃ bs, l.mapM f = .ok bs ∧ bs.map g = l := by
  induction l with
  | nil => exact ⟨[], rfl, rfl⟩
  | cons a l ih =>
      obtain ⟨b, hf, hg⟩ := h a List.mem_cons_self
      obtain ⟨bs, hfs, hgs⟩ := ih fun a ha => h a (List.mem_cons_of_mem _ ha)
      refine ⟨b :: bs, ?_, ?_⟩
      · rw [List.mapM_cons, hf, hfs]
        rfl
      · rw [List.map_cons, hg, hgs]

/-- What the API server guarantees of the resources of a tenant pod: no `pods`
entries, and quantities whose text parses to the same text. -/
structure PlainResources (env : Env) (p : CorePod) : Prop where
  pods : ∀ c ∈ p.containers, c.requests.pods = none ∧ c.limits.pods = none
  texts : ∀ c ∈ p.containers, ∀ q ∈ quantities c, KeepsText env q

theorem containers_roundTrip {p : CorePod} (h : PlainResources env p) :
    ∃ ks, (translateContainers (podFromCore p).containers).mapM
        (PodClient.containerToK8s env) = .ok ks ∧
      ks.map PodClient.containerFromK8s = translateContainers (podFromCore p).containers := by
  apply mapM_roundTrip
  intro c' hc'
  obtain ⟨c'', hc'', rfl⟩ := List.mem_map.mp hc'
  obtain ⟨c, hc, rfl⟩ := List.mem_map.mp hc''
  obtain ⟨hnoRequest, hnoLimit⟩ := h.pods c hc
  have htexts : ∀ e ∈ [c.requests.cpu, c.requests.memory, c.limits.cpu, c.limits.memory],
      ∀ q ∈ e, KeepsText env q := by
    intro e he q hq
    exact h.texts c hc q (List.mem_filterMap.mpr ⟨e, he, hq⟩)
  obtain ⟨requests, hrequests, hrequests'⟩ := resourceList_roundTrip hnoRequest
    (htexts c.requests.cpu (by simp)) (htexts c.requests.memory (by simp))
  obtain ⟨limits, hlimits, hlimits'⟩ := resourceList_roundTrip hnoLimit
    (htexts c.limits.cpu (by simp)) (htexts c.limits.memory (by simp))
  exact container_roundTrip hrequests hlimits hrequests' hlimits'

/-! ## Volumes -/

def volumeBack (v : Volume) : Volume :=
  PodClient.volumeFromK8s (defaultVolume (PodClient.volumeToK8s v))

theorem source_volumeFromCore (v : CoreVolume)
    (h : (volumeFromCore v).type = .emptyDir ∨ (volumeFromCore v).type = .projected) :
    (volumeFromCore v).source = "" := by
  unfold volumeFromCore PodClient.volumeFromK8s at h ⊢
  grind

theorem volumeBack_iff (ns : String) (v : CoreVolume) :
    volumeBack (renameVolume ns (volumeFromCore v)) = renameVolume ns (volumeFromCore v) ↔
      (volumeFromCore v).type ≠ .other := by
  have hsource := source_volumeFromCore v
  generalize volumeFromCore v = u at hsource ⊢
  obtain ⟨name, type, source⟩ := u
  cases type <;> simp_all [renameVolume, volumeBack, PodClient.volumeToK8s, defaultVolume,
    PodClient.volumeFromK8s]

theorem volumes_roundTrip_iff (p : CorePod) :
    (filterVolumes (podFromCore p).volumes p.ns).map volumeBack =
        filterVolumes (podFromCore p).volumes p.ns ↔
      ∀ v ∈ p.volumes, (volumeFromCore v).type ≠ .other := by
  have hmap : ∀ l : List Volume, l.map volumeBack = l ↔ ∀ v ∈ l, volumeBack v = v := by
    intro l
    conv_lhs => rhs; rw [← List.map_id l]
    exact List.map_inj_left
  rw [hmap]
  constructor
  · intro h v hv hother
    refine (volumeBack_iff p.ns v).mp (h _ ?_) hother
    apply List.mem_map_of_mem
    refine List.mem_filter.mpr ⟨List.mem_map_of_mem hv, ?_⟩
    simp [hother]
  · intro h v' hv'
    obtain ⟨v'', hv'', rfl⟩ := List.mem_map.mp hv'
    obtain ⟨v, hv, rfl⟩ := List.mem_map.mp (List.mem_filter.mp hv'').1
    exact (volumeBack_iff p.ns v).mpr (h v hv)

/-! ## Whole pods -/

theorem getD_stringPtrOrNil (v : String) : (PodClient.stringPtrOrNil v).getD "" = v := by
  unfold PodClient.stringPtrOrNil
  split
  · next h => exact h.symm
  · rfl

theorem readBack_targetPod (translator : PodService) (pool : VNodePool) {p : CorePod}
    (h : PlainResources env p) (hostNode : String) :
    ∃ k, PodClient.podSpecToK8sPod env (targetPod translator pool p) = .ok k ∧
      (readBack hostNode k).deleting = false ∧
      (podSpecsEqual (readBack hostNode k) (targetPod translator pool p) = true ↔
        ∀ v ∈ p.volumes, (volumeFromCore v).type ≠ .other) := by
  obtain ⟨ks, hks, hback⟩ := containers_roundTrip h
  let target := targetPod translator pool p
  let k : CorePod := {
    name := target.name
    ns := target.ns
    labels := target.labels
    automountServiceAccountToken := some false
    runtimeClassName := PodClient.stringPtrOrNil target.runtimeClassName
    nodeSelector := target.nodeSelector
    containers := ks
    volumes := target.volumes.map PodClient.volumeToK8s }
  have hvolumes : (readBack hostNode k).volumes = target.volumes.map volumeBack := by
    simp only [readBack, PodClient.podToSpec, hostDefaults, k, List.map_map]
    rfl
  refine ⟨k, ?_, rfl, ?_⟩
  · have hcontainers : target.containers.mapM (PodClient.containerToK8s env) = .ok ks := hks
    simp only [PodClient.podSpecToK8sPod]
    rw [hcontainers]
    rfl
  · rw [podSpecsEqual_iff, hvolumes, ← volumes_roundTrip_iff]
    constructor
    · intro ⟨_, _, _, _, _, _, _, _, hequal⟩
      exact hequal
    · intro hequal
      exact ⟨rfl, rfl, rfl, rfl, getD_stringPtrOrNil _, stringMapEqual_refl _,
        stringMapEqual_refl _, hback, hequal⟩

end

/-- `ensureHostPod` creates the pod once, the host then shows a pod that counts
as equal, and from then on it is left as it is. -/
structure Settles (env : Env) (pod shown : PodSpec) : Prop where
  equal : podSpecsEqual shown pod = true
  creates : ∀ w, w.hostPods.get ⟨pod.ns, pod.name⟩ = none →
    (ensureHostPod pod).run (handle env) w = ((true, false, none), w.addPod shown)
  keeps : ∀ w status, w.hostPods.get ⟨pod.ns, pod.name⟩ = some ⟨shown, status⟩ →
    (ensureHostPod pod).run (handle env) w = ((false, false, none), w)

/-- A created host pod is not seen as drifted exactly when no volume of the
source pod is of a kind the conversions do not know. -/
theorem created_settles_iff (env : Env) (translator : PodService) (pool : VNodePool)
    (p : CorePod) (node hostNode : String) (t : PodTranslation)
    (ht : translator.translate (podFromCore p) pool node = .ok t)
    (hplain : PlainResources env p) :
    (∃ k, PodClient.podSpecToK8sPod env t.targetPod = .ok k ∧
        Settles (converting env hostNode) t.targetPod (readBack hostNode k)) ↔
      ∀ v ∈ p.volumes, (volumeFromCore v).type ≠ .other := by
  -- the translation reads the node from its argument only
  have htarget : t.targetPod = targetPod translator pool { p with nodeName := node } := by
    cases ht
    rfl
  have hplain' : PlainResources env { p with nodeName := node } := ⟨hplain.pods, hplain.texts⟩
  obtain ⟨k, hk, hdeleting, hequal⟩ := readBack_targetPod translator pool hplain' hostNode
  have hstored : (converting env hostNode).storePod
      (targetPod translator pool { p with nodeName := node }) = .ok (readBack hostNode k) := by
    simp only [converting, hk]
    rfl
  rw [htarget]
  constructor
  · intro ⟨k', hk', hsettles⟩
    rw [hk, Except.ok.injEq] at hk'
    rw [← hk'] at hsettles
    exact hequal.mp hsettles.equal
  · intro hknown
    refine ⟨k, hk, hequal.mpr hknown, ?_, ?_⟩
    · intro w hnone
      exact run_ensureHostPod_none _ _ _ _ hnone hstored
    · intro w status hsome
      rw [targetPod_key] at hsome
      rw [run_ensureHostPod_some _ _ _ _ hsome]
      simp only [hdeleting, hequal.mpr hknown, Bool.false_eq_true, if_false, if_true]

/-! ### A volume without a case -/

def volumePod (v : CoreVolume) : CorePod where
  name := "shop"
  ns := "prod"
  nodeName := "vnode-web-1"
  containers := [{
    name := "app"
    image := "shop:1"
    requests := { cpu := some ⟨"500m", 1⟩ } }]
  volumes := [v]

theorem plainResources_volumePod (v : CoreVolume) : PlainResources Env.plain (volumePod v) := by
  refine ⟨by simp [volumePod], ?_⟩
  intro c _ q _
  exact ⟨⟨q.string, 0⟩, rfl, rfl⟩

theorem secretVolume_settles :
    ∃ k, PodClient.podSpecToK8sPod Env.plain
        (targetPod ⟨"kata"⟩ (acmePool 1) (volumePod { name := "v", secret := some "s" })) = .ok k ∧
      Settles (converting Env.plain "worker")
        (targetPod ⟨"kata"⟩ (acmePool 1) (volumePod { name := "v", secret := some "s" }))
        (readBack "worker" k) :=
  (created_settles_iff Env.plain ⟨"kata"⟩ (acmePool 1)
    (volumePod { name := "v", secret := some "s" }) "vnode-web-1" "worker" _ rfl
    (plainResources_volumePod _)).mpr (by decide)

def volumePasses : Nat → Cluster
  | 0 => acmeCluster { pods := Store.empty.put (volumePod { name := "v", otherSource := true }) }
  | n + 1 => ((reconcilePool ⟨"kata"⟩ (acmePool 1)).run
      (handle (converting Env.plain "worker")) (volumePasses n)).2

/-- The host pod created by the first pass is deleted by the second as drifted,
created again by the third and deleted by the fourth. -/
theorem otherVolume_recreated :
    (∀ hp ∈ (volumePasses 1).hostPods.items, podSpecsEqual hp.spec (targetPod ⟨"kata"⟩
        (acmePool 1) (volumePod { name := "v", otherSource := true })) = false) ∧
      ((volumePasses 1).hostPods.items.map HostPod.key,
        (volumePasses 2).hostPods.items.map HostPod.key,
        (volumePasses 3).hostPods.items.map HostPod.key,
        (volumePasses 4).hostPods.items.map HostPod.key) =
      ([⟨"host", "vnode-web-1-prod-shop"⟩], [], [⟨"host", "vnode-web-1-prod-shop"⟩], []) := by
  decide

end VNodeOperator.Pass
