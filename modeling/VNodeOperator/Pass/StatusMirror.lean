import VNodeOperator.Pass.Run

/-!
# Mirrored statuses

The status of a host pod reaches the tenant in three steps: the client reads it
into the domain's own form, in which the state of a container is a text, the
pod service passes it on, and the pass writes it into the status of the tenant
pod.  Nothing that the domain form has room for is lost on the way, the rest of
the tenant's status stays, and a second time changes nothing.
-/

namespace VNodeOperator.Pass

open Model Kube Adapter Ports ProofSupport Service PodExecution

/-! ## Container states -/

def AtMostOne (s : CoreContainerState) : Prop :=
  (s.running = true → s.waiting = false ∧ s.terminated = false) ∧
    (s.waiting = true → s.terminated = false)

instance (s : CoreContainerState) : Decidable (AtMostOne s) :=
  inferInstanceAs (Decidable (_ ∧ _))

theorem containerStateOf_stateText {s : CoreContainerState} (h : AtMostOne s) :
    containerStateOf (PodClient.stateText s) = s := by
  obtain ⟨running, waiting, terminated⟩ := s
  revert h
  revert running waiting terminated
  decide

/-! ## Statuses -/

structure ContainerMirrors (host tenant : CoreContainerStatus) : Prop where
  name : tenant.name = host.name
  ready : tenant.ready = host.ready
  restartCount : tenant.restartCount = host.restartCount
  state : tenant.state = host.state

/-- The status `after` is that of the host in what is mirrored, and `before` in everything
else. -/
structure StatusMirrors (host before after : CorePodStatus) : Prop where
  phase : after.phase = host.phase
  podIP : after.podIP = host.podIP
  message : after.message = host.message
  reason : after.reason = host.reason
  containers : List.Forall₂ ContainerMirrors host.containerStatuses after.containerStatuses
  others : after =
    { before with
      phase := after.phase
      podIP := after.podIP
      message := after.message
      reason := after.reason
      containerStatuses := after.containerStatuses }

theorem statusMirrors_applyPodStatus {host : CorePod}
    (hstates : ∀ c ∈ host.status.containerStatuses, AtMostOne c.state) (before : CorePodStatus) :
    StatusMirrors host.status before
      (applyPodStatus before (PodClient.podToStatus host)) := by
  refine ⟨rfl, rfl, rfl, rfl, ?_, rfl⟩
  unfold applyPodStatus PodClient.podToStatus
  simp only [List.map_map]
  rw [List.forall₂_map_right_iff, List.forall₂_same]
  intro c hc
  exact ⟨rfl, rfl, rfl, containerStateOf_stateText (hstates c hc)⟩

/-! ## The mirroring step of a pass -/

theorem putTenantPod_putTenantPod (w : Cluster) (cs : Clientset) (pod : CorePod) :
    (w.putTenantPod cs pod).putTenantPod cs pod = w.putTenantPod cs pod := by
  simp only [Cluster.putTenantPod, Cluster.setTenant, Function.update_self,
    Function.update_idem, Store.put_put _ rfl]

theorem mirrored_of_get {cs : Clientset} {pool : VNodePool} {p current : CorePod} {hp : HostPod}
    {w : Cluster} (hhost : w.hostPods.get (targetKey pool p) = some hp)
    (hcurrent : (w.tenants cs).pods.get p.key = some current) :
    mirrored cs pool p w = w.putTenantPod cs (withPodStatus current hp.status) := by
  simp only [mirrored, hhost, hcurrent]

/-- The mirroring step of a pass, for a host pod whose client shows the status of `host`: the
tenant pod gets that status and keeps the rest of its own, nothing else in the clusters changes,
and the next time nothing does. -/
theorem mirrorStatus_faithful (env : Env) (translator : PodService) (cs : Clientset)
    (pool : VNodePool) (p : CorePod) (acc : Progress) (w : Cluster) (hp : HostPod)
    (host current : CorePod) (hhost : w.hostPods.get (targetKey pool p) = some hp)
    (hshown : hp.status = PodClient.podToStatus host)
    (hstates : ∀ c ∈ host.status.containerStatuses, AtMostOne c.state)
    (hcurrent : (w.tenants cs).pods.get p.key = some current) :
    ∃ status w', StatusMirrors host.status current.status status ∧
      w' = w.putTenantPod cs { current with status := status } ∧
      (∃ acc', (mirrorStatus translator cs p (targetKey pool p) acc).run (handle env) w =
        (.next acc', w')) ∧
      ∀ acc, ∃ acc', (mirrorStatus translator cs p (targetKey pool p) acc).run (handle env) w' =
        (.next acc', w') := by
  let status := applyPodStatus current.status (PodClient.podToStatus host)
  let w' := w.putTenantPod cs { current with status := status }
  have hkey : current.key = p.key := Store.key_of_get hcurrent
  have hrun : ∀ v acc, (v.tenants cs).pods.get p.key ≠ none → mirrored cs pool p v = w' →
      ∃ acc', (mirrorStatus translator cs p (targetKey pool p) acc).run (handle env) v =
        (.next acc', w') := by
    intro v acc hsome hmirrored
    obtain ⟨hnext, hstate⟩ := run_mirrorStatus env translator cs pool p acc hsome
    obtain ⟨acc', hflow, _⟩ := hnext.exists_next
    exact ⟨acc', Prod.ext hflow (hstate.trans hmirrored)⟩
  have hagain : (w'.tenants cs).pods.get p.key = some { current with status := status } := by
    simp only [w', Cluster.putTenantPod, Cluster.setTenant, Function.update_self]
    rw [← hkey]
    exact Store.get_put_self (w.tenants cs).pods { current with status := status }
  refine ⟨status, w', statusMirrors_applyPodStatus hstates _, rfl, hrun w acc ?_ ?_, ?_⟩
  · rw [hcurrent]
    exact Option.some_ne_none _
  · rw [mirrored_of_get hhost hcurrent, hshown]
    rfl
  · intro acc
    apply hrun w' acc
    · rw [hagain]
      exact Option.some_ne_none _
    · rw [mirrored_of_get (w := w') hhost hagain, hshown]
      exact putTenantPod_putTenantPod w cs { current with status := status }

/-! ### A pod with two containers -/

def waitingHostPod : CorePod where
  name := "vnode-web-1-prod-shop"
  ns := "host"
  status :=
    { phase := .running
      podIP := "10.0.0.7"
      hostIP := "192.168.0.2"
      containerStatuses := [⟨"app", true, 2, { running := true }⟩,
        ⟨"sidecar", false, 0, { waiting := true }⟩, ⟨"init", false, 0, {}⟩] }

def waitingPod : CorePod where
  name := "shop"
  ns := "prod"
  nodeName := "vnode-web-1"
  status := { phase := .pending, hostIP := "172.16.0.1" }

def waitingCluster : Cluster where
  hostPods := Store.empty.put
    ⟨PodClient.podToSpec waitingHostPod, PodClient.podToStatus waitingHostPod⟩
  tenants _ := { pods := Store.empty.put waitingPod }

theorem waitingPod_mirrored :
    ∃ status w', StatusMirrors waitingHostPod.status waitingPod.status status ∧
      w' = waitingCluster.putTenantPod ⟨"acme"⟩ { waitingPod with status := status } ∧
      (∃ acc', (mirrorStatus ⟨"kata"⟩ ⟨"acme"⟩ waitingPod
        (targetKey { name := "web", ns := "host" } waitingPod) ⟨{}, []⟩).run
          (handle Env.plain) waitingCluster = (.next acc', w')) ∧
      ∀ acc, ∃ acc', (mirrorStatus ⟨"kata"⟩ ⟨"acme"⟩ waitingPod
        (targetKey { name := "web", ns := "host" } waitingPod) acc).run
          (handle Env.plain) w' = (.next acc', w') :=
  mirrorStatus_faithful Env.plain ⟨"kata"⟩ ⟨"acme"⟩ { name := "web", ns := "host" } waitingPod
    ⟨{}, []⟩ waitingCluster _ waitingHostPod waitingPod rfl rfl (by decide) rfl

end VNodeOperator.Pass
