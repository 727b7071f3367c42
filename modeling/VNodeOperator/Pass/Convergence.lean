import VNodeOperator.Pass.Settling
import VNodeOperator.Service.NodeService

/-!
# Convergence

Once every source pod has its host pod and there are no orphans, a pass creates
and deletes nothing.  Hence runs of passes, with any status reports of the host
in between, converge after two passes and are quiet from then on.
-/

namespace VNodeOperator.Pass

open Model Kube Adapter Ports ProofSupport Service NodeService PodExecution

section

variable {env : Env} {translator : PodService} {cs : Clientset} {pool : VNodePool}
  {p : CorePod} {w w' : Cluster}

/-! ## Quiet passes -/

def Quiet : Call → Prop
  | .createPod _ | .deletePod _ => False
  | _ => True

theorem quiet_syncPodResources (t : PodTranslation) :
    Prog.Uses Quiet (syncPodResources cs t pool) := by
  unfold syncPodResources
  apply Prog.Uses.bind
  · apply Prog.Uses.loop
    intro ref _
    unfold syncResource
    split
    · apply Prog.Uses.bind (Prog.Uses.perform trivial)
      intro r
      cases r with
      | error err => dsimp only; split <;> trivial
      | ok cm =>
          apply Prog.Uses.bind (Prog.Uses.perform trivial)
          intro r
          cases r <;> trivial
    · apply Prog.Uses.bind (Prog.Uses.perform trivial)
      intro r
      cases r with
      | error err => dsimp only; split <;> trivial
      | ok secret =>
          apply Prog.Uses.bind (Prog.Uses.perform trivial)
          intro r
          cases r <;> trivial
    · trivial
  · intro r
    cases r <;> trivial

theorem quiet_reportPod (acc : Progress) (k : ObjKey) (hlive : isTerminalPod p = false) :
    Prog.Uses Quiet (reportPod translator cs p k acc) := by
  unfold reportPod
  apply Prog.Uses.bind
  · unfold mirrorStatus
    apply Prog.Uses.bind (Prog.Uses.perform trivial)
    intro r
    cases r with
    | error err => dsimp only; split <;> trivial
    | ok status =>
        apply Prog.Uses.bind
        · unfold updateTenantPodStatus
          apply Prog.Uses.bind (Prog.Uses.perform trivial)
          intro r
          cases r with
          | error err => trivial
          | ok current => exact Prog.Uses.perform trivial
        · intro r
          cases r <;> trivial
  · intro r
    cases r with
    | exit outcome => trivial
    | next acc =>
        simp only [deleteFinished, hlive, Bool.false_eq_true, if_false]
        trivial

def Matched (translator : PodService) (pool : VNodePool) (p : CorePod) (w : Cluster) : Prop :=
  ∃ hp, w.hostPods.get (targetKey pool p) = some hp ∧ hp.spec.deleting = false ∧
    podSpecsEqual hp.spec (targetPod translator pool p) = true

theorem quiet_ensureHostPod (env : Env) (hmatched : Matched translator pool p w) :
    (∀ c ∈ (ensureHostPod (targetPod translator pool p)).calls (handle env) w, Quiet c) ∧
      (ensureHostPod (targetPod translator pool p)).run (handle env) w =
        ((false, false, none), w) := by
  obtain ⟨hp, hget, hdeleting, hequal⟩ := hmatched
  have hread : handle env (.getPod (targetKey pool p)) w = (.ok hp.spec, w) := by
    simp only [handle, hget]
  constructor
  · unfold ensureHostPod
    simp only [targetPod_key, ask, Prog.calls_bind, Prog.calls_perform, Prog.run_perform, hread,
      hdeleting, hequal, Bool.false_eq_true, if_false, if_true, Prog.calls_pure, List.append_nil,
      List.mem_singleton, forall_eq]
    trivial
  · rw [run_ensureHostPod_some _ _ _ _ hget]
    simp only [hdeleting, hequal, Bool.false_eq_true, if_false, if_true]

theorem quiet_reconcilePod (env : Env) (cs : Clientset) (acc : Progress)
    (hlive : isTerminalPod p = false) (hmatched : Matched translator pool p w) :
    ∀ c ∈ (reconcilePod translator cs pool p acc).calls (handle env) w, Quiet c := by
  have hcopied : Matched translator pool p (copyRefs (w.tenants cs) pool (podRefs p) w) :=
    hmatched
  obtain ⟨hensure, hrun⟩ := quiet_ensureHostPod env hcopied
  intro c hc
  unfold reconcilePod at hc
  rw [translate_eq] at hc
  simp only [Prog.calls_bind, run_syncPodResources, hlive, Bool.false_eq_true, if_false] at hc
  rcases List.mem_append.mp hc with hc | hc
  · exact (quiet_syncPodResources _).calls _ _ c hc
  · rcases List.mem_append.mp hc with hc | hc
    · exact hensure c hc
    · have hstate : ((ensureHostPod (translation translator pool p).targetPod).run (handle env)
          (copyRefs (w.tenants cs) pool (podRefs p) w)).1 = (false, false, none) := by
        rw [show (translation translator pool p).targetPod = targetPod translator pool p from rfl,
          hrun]
      rw [hstate] at hc
      exact (quiet_reportPod _ _ hlive).calls _ _ c hc

theorem hostPods_iterations_matched (env : Env) (cs : Clientset) (ps : List CorePod)
    (hlive : ∀ p ∈ ps, isTerminalPod p = false)
    (hmatched : ∀ p ∈ ps, Matched translator pool p w) :
    (iterations env translator cs pool ps w).hostPods = w.hostPods := by
  induction ps generalizing w with
  | nil => rfl
  | cons p ps ih =>
      obtain ⟨hp, hget, _, hequal⟩ := hmatched p List.mem_cons_self
      have hsame : (iterated env translator cs pool p w).hostPods = w.hostPods :=
        hostPods_iterated_kept (hlive p List.mem_cons_self) hget hequal
      rw [← hsame]
      apply ih fun q hq => hlive q (List.mem_cons_of_mem p hq)
      intro q hq
      unfold Matched
      rw [hsame]
      exact hmatched q (List.mem_cons_of_mem p hq)

theorem quiet_iterations (hhost : FaithfulHost env) (ps : List CorePod) (acc : Progress)
    (hold : ∀ p ∈ ps, (w.tenants cs).pods.get p.key ≠ none)
    (hlive : ∀ p ∈ ps, isTerminalPod p = false)
    (hmatched : ∀ p ∈ ps, Matched translator pool p w) :
    ∀ c ∈ (Prog.loop (reconcilePod translator cs pool) ps acc).calls (handle env) w, Quiet c := by
  induction ps generalizing w acc with
  | nil => simp
  | cons p ps ih =>
      have hfirst := quiet_reconcilePod env cs acc (hlive p List.mem_cons_self)
        (hmatched p List.mem_cons_self)
      have hstep := podStep_iterated env translator cs pool p w
      have hsame : (iterated env translator cs pool p w).hostPods = w.hostPods :=
        hostPods_iterations_matched env cs [p] (by simpa using hlive p List.mem_cons_self)
          (by simpa using hmatched p List.mem_cons_self)
      intro c hc
      rw [Prog.loop_cons, Prog.calls_bind] at hc
      rcases List.mem_append.mp hc with hc | hc
      · exact hfirst c hc
      · rcases run_reconcilePod env translator cs pool p acc (hold p List.mem_cons_self) with
          ⟨hnext, hstate⟩ | ⟨err, _, hrejects, _⟩
        · obtain ⟨acc', hflow, _⟩ := hnext.exists_next
          rw [hstate, hflow] at hc
          refine ih acc' ?_ (fun q hq => hlive q (List.mem_cons_of_mem p hq)) ?_ c hc
          · intro q hq
            exact hstep.tenantPod_ne_none (hold q (List.mem_cons_of_mem p hq))
          · intro q hq
            unfold Matched
            rw [hsame]
            exact hmatched q (List.mem_cons_of_mem p hq)
        · rw [hhost.stores] at hrejects
          cases hrejects

theorem quiet_deleteOrphans {desired : List String} (hosts : List PodSpec)
    (hdesired : ∀ hp ∈ hosts, keyForPod hp.ns hp.name ∈ desired) (result : PodExecutionResult) :
    Prog.loop (deleteOrphan desired) hosts result = pure (.next result) := by
  induction hosts with
  | nil => rfl
  | cons hp hosts ih =>
      rw [Prog.loop_cons, deleteOrphan, if_pos (hdesired hp List.mem_cons_self)]
      exact ih fun hp h => hdesired hp (List.mem_cons_of_mem _ h)

theorem quiet_cleanupOrphans (env : Env) {acc : Progress}
    (hnone : ∀ hp ∈ w.hostPods.items, ¬ Orphan pool acc.desired hp) :
    ∀ c ∈ (cleanupOrphans pool acc).calls (handle env) w, Quiet c := by
  have hlist : handle env (.listPodsByLabels pool.ns (ownerLabels pool.name)) w =
      (.ok ((w.podsByLabels pool.ns (ownerLabels pool.name)).map HostPod.spec), w) := rfl
  have hdesired : ∀ pod ∈ (w.podsByLabels pool.ns (ownerLabels pool.name)).map HostPod.spec,
      keyForPod pod.ns pod.name ∈ acc.desired := by
    intro pod hpod
    obtain ⟨hp, hhp, rfl⟩ := List.mem_map.mp hpod
    obtain ⟨hmem, hns, howned⟩ := mem_podsByLabels.mp hhp
    by_contra hundesired
    exact hnone hp hmem ⟨hns, howned, hundesired⟩
  unfold cleanupOrphans
  simp only [ask, Prog.calls_bind, Prog.calls_perform, Prog.run_perform, hlist,
    quiet_deleteOrphans _ hdesired, Prog.calls_pure, Prog.run_pure, List.append_nil,
    List.mem_singleton, forall_eq]
  trivial

theorem quiet_listTenantPodsForNodes (ready : List String) :
    Prog.Uses Quiet (listTenantPodsForNodes cs ready) := by
  unfold listTenantPodsForNodes
  split
  · trivial
  · apply Prog.Uses.bind (Prog.Uses.perform trivial)
    intro r
    cases r <;> trivial

theorem quiet_reconcilePods (hhost : FaithfulHost env) (hw : Orderly env cs pool w)
    (hsettled : Settled env translator cs pool w) :
    ∀ c ∈ (reconcilePods translator cs pool (sourcePods env w cs pool)).calls (handle env) w,
      Quiet c := by
  have hmatched : ∀ p ∈ sourcePods env w cs pool, Matched translator pool p w := by
    intro p hp
    obtain ⟨hp', hget⟩ := Option.ne_none_iff_exists'.mp (hsettled.present p hp)
    exact ⟨hp', hget, (hw.running hp' (Store.mem_of_get hget)).1, hsettled.equal p hp hp' hget⟩
  have hsame := hostPods_iterations_matched env cs _ hw.live hmatched
  intro c hc
  unfold reconcilePods at hc
  rw [Prog.calls_bind] at hc
  rcases List.mem_append.mp hc with hc | hc
  · exact quiet_iterations hhost _ _ get_sourcePod_ne_none hw.live hmatched c hc
  · rcases run_iterations env translator (sourcePods env w cs pool)
      ⟨{ sourcePods := (sourcePods env w cs pool).length }, []⟩ get_sourcePod_ne_none with
      ⟨result, hrun⟩ | ⟨p, _, err, _, _, hrejects, _⟩
    · rw [hrun] at hc
      apply quiet_cleanupOrphans env ?_ c hc
      rw [hsame]
      intro hp hhp ⟨hns, howned, hundesired⟩
      apply hsettled.noOrphans hp hhp ⟨hns, howned, ?_⟩
      simpa using hundesired
    · rw [Rejects, hhost.stores] at hrejects
      cases hrejects

theorem quiet_reconcilePool (hhost : FaithfulHost env)
    (hconnect : env.connect pool.tenantRef = .ok cs) (hw : Orderly env cs pool w)
    (hsettled : Settled env translator cs pool w) :
    ∀ c ∈ (reconcilePool translator pool).calls (handle env) w, Quiet c := by
  have hclient : handle env (.tenantClient pool.tenantRef) w = (.ok cs, w) := by
    simp only [handle, hconnect]
  intro c hc
  unfold reconcilePool at hc
  simp only [ask, Prog.calls_bind, Prog.calls_perform, Prog.run_perform, hclient,
    handle_listByPool, run_listTenantPodsForNodes, List.mem_append, List.mem_singleton] at hc
  rcases hc with rfl | rfl | hc | hc
  · trivial
  · trivial
  · exact (quiet_listTenantPodsForNodes _).calls _ _ c hc
  · exact quiet_reconcilePods hhost hw hsettled c hc

/-! ## Runs of passes -/

/-- The host reports new statuses, none of them final. -/
structure Reports (w w' : Cluster) : Prop where
  rest : w' = { w with hostPods := w'.hostPods }
  specs : ∀ k, (w'.hostPods.get k).map HostPod.spec = (w.hostPods.get k).map HostPod.spec
  phases : ∀ hp ∈ w'.hostPods.items, isTerminalPhase hp.status.phase = false

namespace Reports

theorem refl (hphases : ∀ hp ∈ w.hostPods.items, isTerminalPhase hp.status.phase = false) :
    Reports w w :=
  ⟨rfl, fun _ => rfl, hphases⟩

theorem sourcePods (h : Reports w w') (env : Env) (cs : Clientset) (pool : VNodePool) :
    Pass.sourcePods env w' cs pool = Pass.sourcePods env w cs pool := by
  rw [h.rest]
  rfl

theorem exists_pod (h : Reports w w') {k : ObjKey} {hp : HostPod}
    (hget : w'.hostPods.get k = some hp) :
    ∃ old, w.hostPods.get k = some old ∧ old.spec = hp.spec := by
  have hspec := h.specs k
  rw [hget] at hspec
  exact Option.map_eq_some_iff.mp hspec.symm

theorem orderly (h : Reports w w') (hw : Orderly env cs pool w) : Orderly env cs pool w' := by
  refine ⟨?_, ?_, ?_⟩
  · rw [h.sourcePods]
    exact hw.live
  · rw [h.sourcePods]
    exact hw.distinct
  · intro hp hhp
    obtain ⟨old, hold, hspec⟩ := h.exists_pod (Store.get_of_mem hhp)
    rw [← hspec]
    exact ⟨(hw.running old (Store.mem_of_get hold)).1, h.phases hp hhp⟩

theorem matching (h : Reports w w') (hw : Matching env translator cs pool w) :
    Matching env translator cs pool w' := by
  refine ⟨?_, ?_⟩
  · intro p hp hp' hget
    rw [h.sourcePods] at hp
    obtain ⟨old, hold, hspec⟩ := h.exists_pod hget
    rw [← hspec]
    exact hw.equal p hp old hold
  · intro hp hhp horphan
    rw [h.sourcePods] at horphan
    obtain ⟨old, hold, hspec⟩ := h.exists_pod (Store.get_of_mem hhp)
    apply hw.noOrphans old (Store.mem_of_get hold)
    unfold Orphan at horphan ⊢
    rw [hspec]
    exact horphan

theorem settled (h : Reports w w') (hw : Settled env translator cs pool w) :
    Settled env translator cs pool w' := by
  refine ⟨h.matching hw.toMatching, ?_⟩
  intro p hp hnone
  rw [h.sourcePods] at hp
  have hspec := h.specs (targetKey pool p)
  rw [hnone, Option.map_none, eq_comm, Option.map_eq_none_iff] at hspec
  exact hw.present p hp hspec

end Reports

/-- Passes without API errors, each after a report of the host. -/
inductive Passes (env : Env) (translator : PodService) (pool : VNodePool) :
    Nat → Cluster → Cluster → Prop where
  | start (w : Cluster) : Passes env translator pool 0 w w
  | pass {n : Nat} {w w' v : Cluster} : Passes env translator pool n w w' → Reports w' v →
      Passes env translator pool (n + 1) w ((reconcilePool translator pool).run (handle env) v).2

theorem run_pass (hhost : FaithfulHost env) (hconnect : env.connect pool.tenantRef = .ok cs) :
    ((reconcilePool translator pool).run (handle env) w).2 =
      passed env translator cs pool w := by
  rcases run_reconcilePool translator w hconnect with
    ⟨result, hrun⟩ | ⟨p, _, err, _, _, hrejects, _⟩
  · rw [hrun]
  · rw [Rejects, hhost.stores] at hrejects
    cases hrejects

/-- What the number of passes tells about the state. -/
theorem Passes.state (hhost : FaithfulHost env) (hconnect : env.connect pool.tenantRef = .ok cs)
    {n : Nat} (hpasses : Passes env translator pool n w w') (hw : Orderly env cs pool w) :
    Orderly env cs pool w' ∧ (1 ≤ n → Matching env translator cs pool w') ∧
      (2 ≤ n → Settled env translator cs pool w') := by
  induction hpasses with
  | start w => exact ⟨hw, by omega, by omega⟩
  | @pass n w w' v _ hreports ih =>
      obtain ⟨horderly, hmatching, _⟩ := ih hw
      have hv := hreports.orderly horderly
      rw [run_pass hhost hconnect]
      refine ⟨hv.passed hhost, fun _ => passed_matching hhost hv, ?_⟩
      intro hn
      exact passed_settled hhost hv (hreports.matching (hmatching (by omega)))

end

/-- Every source pod has its host pod, and the pool has no others in its
namespace. -/
structure Converged (env : Env) (translator : PodService) (cs : Clientset) (pool : VNodePool)
    (w : Cluster) : Prop where
  present : ∀ p ∈ sourcePods env w cs pool, ∃ hp,
    w.hostPods.get (targetKey pool p) = some hp ∧
      podSpecsEqual hp.spec (targetPod translator pool p) = true
  owned : ∀ hp ∈ w.hostPods.items, hp.spec.ns = pool.ns → OwnedBy pool hp.spec.labels →
    ∃ p ∈ sourcePods env w cs pool, hp.key = targetKey pool p

theorem Settled.converged {env : Env} {translator : PodService} {cs : Clientset}
    {pool : VNodePool} {w : Cluster} (h : Settled env translator cs pool w) :
    Converged env translator cs pool w := by
  refine ⟨?_, ?_⟩
  · intro p hp
    obtain ⟨hp', hget⟩ := Option.ne_none_iff_exists'.mp (h.present p hp)
    exact ⟨hp', hget, h.equal p hp hp' hget⟩
  · intro hp hhp hns howned
    have hdesired : keyForPod hp.spec.ns hp.spec.name ∈
        desiredKeys pool (sourcePods env w cs pool) := by
      by_contra hundesired
      exact h.noOrphans hp hhp ⟨Or.inr hns, howned, hundesired⟩
    obtain ⟨p, hp', hkey⟩ := List.mem_map.mp hdesired
    refine ⟨p, hp', ?_⟩
    rw [hns] at hkey
    have hname : (targetKey pool p).name = hp.spec.name := by
      simpa [keyForPod] using hkey
    rw [HostPod.key, hns, ← hname]
    rfl

/-- After two passes the host has converged, and every further pass creates and
deletes no pod. -/
theorem passes_converge (env : Env) (translator : PodService) (cs : Clientset)
    (pool : VNodePool) (w w' : Cluster) (n : Nat) (hhost : FaithfulHost env)
    (hconnect : env.connect pool.tenantRef = .ok cs) (hw : Orderly env cs pool w)
    (hpasses : Passes env translator pool n w w') (hn : 2 ≤ n) :
    Converged env translator cs pool w' ∧
      ∀ v, Reports w' v → ∀ c ∈ (reconcilePool translator pool).calls (handle env) v,
        Quiet c := by
  obtain ⟨horderly, _, hsettled⟩ := hpasses.state hhost hconnect hw
  refine ⟨(hsettled hn).converged, ?_⟩
  intro v hreports
  exact quiet_reconcilePool hhost hconnect (hreports.orderly horderly)
    (hreports.settled (hsettled hn))

/-! ### Drift and an orphan -/

def boundPod (name image : String) : CorePod where
  name := name
  ns := "prod"
  nodeName := "vnode-web-1"
  containers := [{ name := "app", image := image }]

def driftedTenant : TenantCluster where
  pods := (Store.empty.put (boundPod "shop" "shop:2")).put (boundPod "api" "api:1")

/-- The host runs an older `shop`, no `api`, and a pod the tenant no longer has. -/
def driftedCluster : Cluster :=
  let hostPod (name image : String) : HostPod :=
    ⟨targetPod ⟨"kata"⟩ (acmePool 1) (boundPod name image), { phase := .running }⟩
  { acmeCluster driftedTenant with
    hostPods := (Store.empty.put (hostPod "shop" "shop:1")).put (hostPod "gone" "gone:1") }

def driftedPass (w : Cluster) : Cluster :=
  ((reconcilePool ⟨"kata"⟩ (acmePool 1)).run (handle Env.plain) w).2

theorem faithfulHost_plain : FaithfulHost Env.plain := ⟨fun _ => rfl, fun _ => rfl⟩

theorem driftedCluster_converges :
    Converged Env.plain ⟨"kata"⟩ ⟨"acme"⟩ (acmePool 1)
        (driftedPass (driftedPass driftedCluster)) ∧
      ∀ v, Reports (driftedPass (driftedPass driftedCluster)) v →
        ∀ c ∈ (reconcilePool ⟨"kata"⟩ (acmePool 1)).calls (handle Env.plain) v, Quiet c := by
  have hw : Orderly Env.plain ⟨"acme"⟩ (acmePool 1) driftedCluster :=
    ⟨by decide, by decide, by unfold Running; decide⟩
  have hreports : Reports driftedCluster driftedCluster := .refl (by decide)
  have hreports' : Reports (driftedPass driftedCluster) (driftedPass driftedCluster) :=
    .refl (by decide)
  exact passes_converge Env.plain ⟨"kata"⟩ ⟨"acme"⟩ (acmePool 1) driftedCluster _ 2
    faithfulHost_plain rfl hw (.pass (.pass (.start _) hreports) hreports') (by omega)

end VNodeOperator.Pass
