import VNodeOperator.Pass.Rule
import VNodeOperator.Pass.Translation
import VNodeOperator.Service.NodeService

/-!
# Host pods among the tenant's pods

The labels of a host pod tell the operator's pods from everybody else's, and a
tenant can neither take them away nor forge them on the pods the operator makes.
So the cleanups find every host pod, and where tenant and host are one cluster
no pass takes a host pod for a source pod.
-/

namespace VNodeOperator.Pass

open Model Kube Adapter Ports ProofSupport Service PodExecution

/-! ## The operator's mark -/

def Managed (labels : StringMap) : Prop := labels.lookup labelManagedBy = some labelManagedByValue

theorem Managed.not_source {p : CorePod} (hp : Managed p.labels) (ready : List String) :
    isSourcePod ready p = false := by
  apply decide_eq_false
  rintro ⟨hlabel, _⟩
  rw [StringMap.at, hp] at hlabel
  exact hlabel rfl

/-! ## One cluster for tenant and host -/

/-- A host that is its own tenant.  Its API server may complete a pod it is to store, but leaves
its name and labels alone. -/
structure SharedHost where
  env : Env
  cs : Clientset
  defaulted : CorePod → CorePod
  defaulted_key : ∀ p, (defaulted p).key = p.key
  defaulted_labels : ∀ p, (defaulted p).labels = p.labels
  graceful : CorePod → Bool

/-- The cluster, and the names under which it holds pods that passes have created. -/
structure Shared where
  cluster : Cluster
  made : List ObjKey

namespace SharedHost

variable (x : SharedHost)

def pods (s : Shared) : Store CorePod.key := (s.cluster.tenants x.cs).pods

def setPods (s : Shared) (pods : Store CorePod.key) (made : List ObjKey) : Shared where
  cluster := s.cluster.setTenant x.cs { s.cluster.tenants x.cs with pods := pods }
  made := made

def serve : Handler Call Call.Reply Shared
  | .getPod k, s => ((find (x.pods s) k "pods" k.name).map PodClient.podToSpec, s)
  | .getPodStatus k, s => ((find (x.pods s) k "pods" k.name).map PodClient.podToStatus, s)
  | .listPodsByLabels ns labels, s =>
      (.ok (((x.pods s).items.filter fun p =>
        (ns = "" ∨ p.ns = ns) ∧ matchesLabels labels p.labels).map PodClient.podToSpec), s)
  | .createPod pod, s =>
      match PodClient.podSpecToK8sPod x.env pod, (x.pods s).get ⟨pod.ns, pod.name⟩ with
      | .error err, _ => (.error err, s)
      | .ok _, some _ => (.error (alreadyExistsError "pods" pod.name), s)
      | .ok core, none =>
          (.ok (), x.setPods s ((x.pods s).put (x.defaulted core)) (⟨pod.ns, pod.name⟩ :: s.made))
  | .deletePod k, s =>
      match (x.pods s).get k with
      | none => (.ok (), s)
      | some p =>
          if p.deletionTimestamp.isSome then (.ok (), s)
          else if x.graceful p then
            (.ok (), x.setPods s ((x.pods s).put { p with deletionTimestamp := some 0 }) s.made)
          else (.ok (), x.setPods s ((x.pods s).erase k) (s.made.filter (· ≠ k)))
  | c, s => ((handle x.env c s.cluster).1, { s with cluster := (handle x.env c s.cluster).2 })

def Marked (s : Shared) : Prop :=
  ∀ k p, (x.pods s).get k = some p → k ∈ s.made → Managed p.labels

end SharedHost

variable {x : SharedHost} {s : Shared}

@[simp] theorem SharedHost.pods_setPods (pods : Store CorePod.key) (made : List ObjKey) :
    x.pods (x.setPods s pods made) = pods := by
  simp [SharedHost.pods, SharedHost.setPods, Cluster.setTenant]

theorem core_of_podSpec {env : Env} {pod : PodSpec} {core : CorePod}
    (h : PodClient.podSpecToK8sPod env pod = .ok core) :
    core.key = ⟨pod.ns, pod.name⟩ ∧ core.labels = pod.labels := by
  unfold PodClient.podSpecToK8sPod at h
  cases hcontainers : pod.containers.mapM (PodClient.containerToK8s env) with
  | error err =>
      rw [hcontainers] at h
      cases h
  | ok containers =>
      rw [hcontainers] at h
      cases h
      exact ⟨rfl, rfl⟩

theorem SharedHost.Marked.of_labels {s' : Shared} (hs : x.Marked s)
    (hmade : ∀ k, k ∈ s'.made → k ∈ s.made)
    (hlabels : ∀ k p', (x.pods s').get k = some p' →
      ∃ p, (x.pods s).get k = some p ∧ p'.labels = p.labels) : x.Marked s' := by
  intro k p' hp' hk
  obtain ⟨p, hp, hsame⟩ := hlabels k p' hp'
  rw [hsame]
  exact hs k p hp (hmade k hk)

theorem SharedHost.Marked.createPod {pod : PodSpec} (hs : x.Marked s)
    (hpod : Managed pod.labels) : x.Marked (x.serve (.createPod pod) s).2 := by
  simp only [SharedHost.serve]
  split
  · exact hs
  · exact hs
  · next core hcore hfree =>
      obtain ⟨hkey, hlabels⟩ := core_of_podSpec hcore
      have hstored : (x.defaulted core).key = ⟨pod.ns, pod.name⟩ :=
        (x.defaulted_key core).trans hkey
      intro k p hp hk
      rw [SharedHost.pods_setPods, Store.get_put, hstored] at hp
      split at hp
      · cases hp
        rw [x.defaulted_labels, hlabels]
        exact hpod
      · next hne => exact hs k p hp ((List.mem_cons.mp hk).resolve_left fun h => hne h.symm)

theorem SharedHost.Marked.replaced {s' : Shared} {k : ObjKey} {old p : CorePod} (hs : x.Marked s)
    (hold : (x.pods s).get k = some old) (hkey : p.key = old.key) (hlabels : p.labels = old.labels)
    (hpods : x.pods s' = (x.pods s).put p) (hmade : s'.made = s.made) : x.Marked s' := by
  apply hs.of_labels
  · intro k hk
    rw [← hmade]
    exact hk
  · intro k' p' hp'
    rw [hpods, Store.get_put, hkey, Store.key_of_get hold] at hp'
    split at hp'
    · next hk' =>
        cases hp'
        exact ⟨old, hk' ▸ hold, hlabels⟩
    · exact ⟨p', hp', rfl⟩

theorem SharedHost.Marked.deletePod (hs : x.Marked s) (k : ObjKey) :
    x.Marked (x.serve (.deletePod k) s).2 := by
  simp only [SharedHost.serve]
  split
  · exact hs
  · next old hold =>
      split
      · exact hs
      · split
        · exact hs.replaced hold (p := { old with deletionTimestamp := some 0 }) rfl rfl
            (SharedHost.pods_setPods _ _) rfl
        · intro k' p' hp' hk'
          rw [SharedHost.pods_setPods, Store.get_erase] at hp'
          split at hp'
          · cases hp'
          · exact hs k' p' hp' (List.mem_filter.mp hk').1

theorem SharedHost.Marked.serve {c : Call} (hc : onPods c = true)
    (hcreate : CreatesOnly (fun pod => Managed pod.labels) c) (hs : x.Marked s) :
    x.Marked (x.serve c s).2 := by
  cases c with
  | createPod pod => exact hs.createPod (hcreate pod rfl)
  | deletePod k => exact hs.deletePod k
  | updateTenantPod cs pod =>
      change x.Marked { s with cluster := (handle x.env (.updateTenantPod cs pod) s.cluster).2 }
      cases hget : (s.cluster.tenants cs).pods.get pod.key with
      | none =>
          simp only [handle, hget]
          exact hs
      | some old =>
          simp only [handle, hget]
          by_cases hcs : cs = x.cs
          · subst hcs
            refine hs.replaced hget (p := { old with status := pod.status }) rfl rfl ?_ rfl
            simp [SharedHost.pods, Cluster.putTenantPod, Cluster.setTenant]
          · have hother : ∀ p : CorePod, x.pods { s with cluster := s.cluster.putTenantPod cs p } =
                x.pods s := by
              intro p
              simp [SharedHost.pods, Cluster.putTenantPod, Cluster.setTenant,
                Function.update_of_ne (Ne.symm hcs)]
            intro k p hp hk
            rw [hother] at hp
            exact hs k p hp hk
  | ensureConfigMap cm =>
      change x.Marked { s with cluster := (handle x.env (.ensureConfigMap cm) s.cluster).2 }
      rw [handle_ensureConfigMap]
      exact hs
  | ensureSecret secret =>
      change x.Marked { s with cluster := (handle x.env (.ensureSecret secret) s.cluster).2 }
      rw [handle_ensureSecret]
      exact hs
  | getPod _ | getPodStatus _ | listPodsByLabels _ _ | tenantClient _ | listTenantPods _
  | getTenantPod _ _ | getTenantConfigMap _ _ | getTenantSecret _ _ => exact hs
  | listByPool ns poolName =>
      change x.Marked { s with cluster := (handle x.env (.listByPool ns poolName) s.cluster).2 }
      rw [handle_read x.env s.cluster rfl]
      exact hs
  | _ => cases hc

/-! ## Passes over the shared cluster -/

/-- What passes over the shared cluster can lead to, whatever requests fail.  In between others
may change the cluster as they like, as long as they do not relabel the pods of the passes. -/
inductive SharedRun (x : SharedHost) : Shared → Prop
  | start {s : Shared} (hmade : s.made = []) : SharedRun x s
  | pass {s : Shared} (hrun : SharedRun x s) (translator : PodService) (pool : VNodePool)
      (plan : FaultPlan Err) :
      SharedRun x ((reconcilePool translator pool).run (withFaults x.serve) (s, plan)).2.1
  | outside {s s' : Shared} (hrun : SharedRun x s) (hmade : ∀ k, k ∈ s'.made → k ∈ s.made)
      (hlabels : ∀ k p', k ∈ s'.made → (x.pods s').get k = some p' →
        ∃ p, (x.pods s).get k = some p ∧ p'.labels = p.labels) : SharedRun x s'

theorem SharedRun.marked (hrun : SharedRun x s) : x.Marked s := by
  induction hrun with
  | start hmade =>
      intro k p _ hk
      rw [hmade] at hk
      exact (List.not_mem_nil hk).elim
  | @pass s hrun translator pool plan ih =>
      have hcalls : Prog.Uses (fun c => onPods c = true ∧
          CreatesOnly (fun pod => Managed pod.labels) c) (reconcilePool translator pool) := by
        apply (uses_reconcilePool translator pool).and
        apply createsOnly_reconcilePool.mono
        intro c hc pod hpod
        obtain ⟨p, rfl⟩ := hc pod hpod
        exact lookup_managedBy translator pool p
      refine hcalls.invariant (h := withFaults x.serve) (I := fun s => x.Marked s.1) ?_ ih
      intro c s hc hs
      rcases withFaults_state x.serve c s with hstate | hstate
      · rw [hstate]
        exact hs.serve hc.1 hc.2
      · rw [hstate]
        exact hs
  | outside hrun hmade hlabels ih =>
      intro k p' hp' hk
      obtain ⟨p, hp, hsame⟩ := hlabels k p' hk hp'
      rw [hsame]
      exact ih k p hp (hmade k hk)

theorem robust_shared {translator : PodService} {pool : VNodePool}
    (hconnect : x.env.connect pool.tenantRef = .ok x.cs) (s : Shared) :
    Robust x.serve (CreatesOnly fun pod => ∃ p ready, (x.pods s).get p.key = some p ∧
      isSourcePod ready p = true ∧ pod = targetPod translator pool p)
      (reconcilePool translator pool) (fun _ _ => True) s := by
  have hclient : x.serve (.tenantClient pool.tenantRef) s = (.ok x.cs, s) := by
    change (x.env.connect pool.tenantRef, _) = _
    rw [hconnect]
    rfl
  apply Robust.bind
  refine Robust.read_of_eq hclient (by rintro _ ⟨⟩) ?_ (fun _ => Robust.pure trivial)
  apply Robust.bind
  have hnodes : x.serve (.listByPool pool.ns pool.name) s =
      (.ok ((x.env.order (s.cluster.poolVNodes pool.ns pool.name)).map
        NodeRepository.crToNode), s) := by
    change ((handle x.env _ s.cluster).1, { s with cluster := (handle x.env _ s.cluster).2 }) = _
    rw [handle_listByPool]
  refine Robust.read_of_eq hnodes (by rintro _ ⟨⟩) ?_ (fun _ => Robust.pure trivial)
  have hpods : ∀ sources : List CorePod, (∀ p ∈ sources, ∃ ready,
      (x.pods s).get p.key = some p ∧ isSourcePod ready p = true) →
      Robust x.serve (CreatesOnly fun pod => ∃ p ready, (x.pods s).get p.key = some p ∧
        isSourcePod ready p = true ∧ pod = targetPod translator pool p)
        (reconcilePods translator x.cs pool sources) (fun _ _ => True) s := by
    intro sources hsources plan
    refine ⟨?_, trivial⟩
    intro c hc pod hpod
    obtain ⟨p, hp, htarget⟩ := (createsOnly_reconcilePods sources).calls _ _ c hc pod hpod
    obtain ⟨ready, hget, hsource⟩ := hsources p hp
    exact ⟨p, ready, hget, hsource, htarget⟩
  apply Robust.bind
  unfold listTenantPodsForNodes
  split
  · apply Robust.pure
    exact hpods [] fun _ hp => (List.not_mem_nil hp).elim
  · apply Robust.bind
    refine Robust.read_of_eq (r := .ok (x.pods s).items) rfl (by rintro _ ⟨⟩) ?_
      (fun _ => Robust.pure (Robust.pure trivial))
    apply Robust.pure
    apply hpods
    intro p hp
    obtain ⟨hmem, hsource⟩ := List.mem_filter.mp hp
    exact ⟨_, Store.get_of_mem hmem, hsource⟩

/-! ## Tenants cannot hide or multiply host pods -/

def systemValue (source : PodSpec) (opts : TranslateOpts) (key : String) : Option String :=
  if key = labelManagedBy then some labelManagedByValue
  else if key = labelVNodePool then some opts.poolName
  else if key = labelVNodeName then some opts.vnodeName
  else if key = labelSourcePodName then some source.name
  else if key = labelSourcePodNS then some source.ns
  else none

def FoundBy (query : Call) (pod : PodSpec) : Prop :=
  ∃ ns selector, query = .listPodsByLabels ns selector ∧
    ∀ (w : Cluster) (hp : HostPod), hp ∈ w.hostPods.items → hp.spec.ns = pod.ns →
      hp.spec.labels = pod.labels → hp ∈ w.podsByLabels ns selector

theorem foundBy_targetPod (translator : PodService) (pool : VNodePool) (p : CorePod) :
    FoundBy (.listPodsByLabels pool.ns (ownerLabels pool.name)) (targetPod translator pool p) := by
  refine ⟨_, _, rfl, ?_⟩
  intro w hp hmem hns hlabels
  rw [mem_podsByLabels, hns, hlabels]
  exact ⟨hmem, Or.inr rfl, ownedBy_targetPod translator pool p⟩

/-- The labels of a translated pod are the operator's own where it has one and the source's
everywhere else.  So the first call of either cleanup finds every pod a pass creates.  And where
tenant and host are one cluster, no pod that a pass has created is a source pod of any pass, and
every pod that is created stands for one that no pass has created. -/
theorem host_pods_marked (x : SharedHost) :
    (∀ source opts key, (translatePod source opts).targetPod.labels.lookup key =
      (systemValue source opts key).or (source.labels.lookup key)) ∧
    (∀ (translator : PodService) (pool : VNodePool) (σ : Type) (h : Handler Call Call.Reply σ)
      (s : σ) (pod : PodSpec), .createPod pod ∈ (reconcilePool translator pool).calls h s →
        (∀ acc, ∃ query rest, cleanupOrphans pool acc = .call query rest ∧ FoundBy query pod) ∧
        ∃ query rest, cleanupPoolPods pool = .call query rest ∧ FoundBy query pod) ∧
    ∀ s, SharedRun x s →
      (∀ k p, (x.pods s).get k = some p → k ∈ s.made → ∀ ready, isSourcePod ready p = false) ∧
      ∀ (translator : PodService) (pool : VNodePool) (plan : FaultPlan Err) (pod : PodSpec),
        x.env.connect pool.tenantRef = .ok x.cs →
        .createPod pod ∈ (reconcilePool translator pool).calls (withFaults x.serve) (s, plan) →
          ∃ p, (x.pods s).get p.key = some p ∧ pod = targetPod translator pool p ∧
            p.key ∉ s.made := by
  refine ⟨?_, ?_, ?_⟩
  · intro source opts key
    rw [lookup_translatePod_labels, lookup_systemLabels]
    rfl
  · intro translator pool σ h s pod hcreate
    obtain ⟨p, rfl⟩ := createsOnly_reconcilePool.calls h s _ hcreate pod rfl
    have hfound := foundBy_targetPod translator pool p
    exact ⟨fun acc => ⟨_, _, rfl, hfound⟩, _, _, rfl, hfound⟩
  · intro s hrun
    have hnever : ∀ k p, (x.pods s).get k = some p → k ∈ s.made →
        ∀ ready, isSourcePod ready p = false :=
      fun k p hp hk ready => (hrun.marked k p hp hk).not_source ready
    refine ⟨hnever, ?_⟩
    intro translator pool plan pod hconnect hcreate
    obtain ⟨p, ready, hget, hsource, hpod⟩ :=
      ((robust_shared hconnect s) plan).1 _ hcreate pod rfl
    refine ⟨p, hget, hpod, ?_⟩
    intro hmade
    rw [hnever p.key p hget hmade ready] at hsource
    cases hsource

/-! ### A tenant that lives on its own host -/

def acmeHost : SharedHost where
  env := Env.plain
  cs := ⟨"acme"⟩
  defaulted := id
  defaulted_key _ := rfl
  defaulted_labels _ := rfl
  graceful _ := false

def forgedPod : CorePod where
  name := "shop"
  ns := "prod"
  labels := (AList.insert labelVNodePool "other" ∅).insert labelSourcePodName "nobody"
  nodeName := "vnode-web-1"

def forgedCluster : Shared := ⟨NodeService.acmeCluster { pods := Store.empty.put forgedPod }, []⟩

def forgedCopied : Shared :=
  ((reconcilePool ⟨"kata"⟩ (NodeService.acmePool 1)).run (withFaults acmeHost.serve)
    (forgedCluster, fun _ => none)).2.1

theorem forgedPod_copied_once :
    (∃ p, (acmeHost.pods forgedCluster).get p.key = some p ∧
      targetPod ⟨"kata"⟩ (NodeService.acmePool 1) forgedPod =
        targetPod ⟨"kata"⟩ (NodeService.acmePool 1) p ∧ p.key ∉ forgedCluster.made) ∧
    targetKey (NodeService.acmePool 1) forgedPod ∈ forgedCopied.made ∧
    ∀ p, (acmeHost.pods forgedCopied).get (targetKey (NodeService.acmePool 1) forgedPod) =
      some p → ∀ ready, isSourcePod ready p = false := by
  have hstart : SharedRun acmeHost forgedCluster := .start rfl
  have hmade : targetKey (NodeService.acmePool 1) forgedPod ∈ forgedCopied.made := by
    decide +kernel
  refine ⟨?_, hmade, ?_⟩
  · exact ((host_pods_marked acmeHost).2.2 forgedCluster hstart).2 ⟨"kata"⟩
      (NodeService.acmePool 1) (fun _ => none) _ rfl (by decide +kernel)
  · intro p hp
    exact ((host_pods_marked acmeHost).2.2 forgedCopied (hstart.pass _ _ _)).1 _ p hp hmade

end VNodeOperator.Pass
