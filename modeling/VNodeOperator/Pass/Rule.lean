import VNodeOperator.Pass.Calls

/-!
# Proof rule for a whole pass

A property of `ReconcilePool` under every pattern of failing calls follows from
an invariant of the loop over the source pods, shown step by step for
`PodStep`, and from what deleting an orphan does to it.
-/

namespace VNodeOperator.Pass

open Model Kube Ports ProofSupport Service PodExecution

/-- A host pod that the cleanup at the end of a pass deletes. -/
def Orphan (pool : VNodePool) (desired : List String) (hp : HostPod) : Prop :=
  (pool.ns = "" ∨ hp.spec.ns = pool.ns) ∧ OwnedBy pool hp.spec.labels ∧
    keyForPod hp.spec.ns hp.spec.name ∉ desired

variable {env : Env} {translator : PodService} {cs : Clientset} {pool : VNodePool}
  {A : Call → Prop} {w : Cluster}

theorem mem_podsByLabels {hp : HostPod} :
    hp ∈ w.podsByLabels pool.ns (ownerLabels pool.name) ↔
      hp ∈ w.hostPods.items ∧ (pool.ns = "" ∨ hp.spec.ns = pool.ns) ∧
        OwnedBy pool hp.spec.labels := by
  simp only [Cluster.podsByLabels, List.mem_filter, decide_eq_true_eq, matchesLabels_ownerLabels]

theorem robust_deleteOrphans {desired : List String} {K : Cluster → Prop}
    (hosts : List HostPod) (hlisted : ∀ hp ∈ hosts,
      (pool.ns = "" ∨ hp.spec.ns = pool.ns) ∧ OwnedBy pool hp.spec.labels)
    (hdelete : ∀ hp ∈ hosts, Orphan pool desired hp → A (.deletePod hp.key) ∧
      ∀ w, K w → K (w.removePod env hp.key))
    (result : PodExecutionResult) (hK : K w) :
    Robust (handle env) A (Prog.loop (deleteOrphan desired) (hosts.map HostPod.spec) result)
      (fun _ w' => K w') w := by
  induction hosts generalizing result w with
  | nil => exact Robust.pure hK
  | cons hp rest ih =>
      have hrest : ∀ result w, K w → Robust (handle env) A
          (Prog.loop (deleteOrphan desired) (rest.map HostPod.spec) result)
          (fun _ w' => K w') w := fun result w hK =>
        ih (fun hp h => hlisted hp (List.mem_cons_of_mem _ h))
          (fun hp h => hdelete hp (List.mem_cons_of_mem _ h)) result hK
      rw [List.map_cons, Prog.loop_cons]
      apply Robust.bind
      unfold deleteOrphan
      split
      · exact Robust.pure (hrest _ _ hK)
      · next hundesired =>
          obtain ⟨hns, howned⟩ := hlisted hp List.mem_cons_self
          obtain ⟨hcall, hkeep⟩ := hdelete hp List.mem_cons_self ⟨hns, howned, hundesired⟩
          apply Robust.bind
          exact Robust.perform_of_eq (handle_deletePod env w _) hcall
            (Robust.pure (hrest _ _ (hkeep w hK))) (fun _ => Robust.pure (Robust.pure hK))
            (fun _ => Robust.pure (Robust.pure (hkeep w hK)))

theorem robust_cleanupOrphans {acc : Progress} {K : Cluster → Prop}
    (hread : ∀ c, c.isRead → A c)
    (hdelete : ∀ hp ∈ w.hostPods.items, Orphan pool acc.desired hp →
      A (.deletePod hp.key) ∧ ∀ w, K w → K (w.removePod env hp.key))
    (hK : K w) :
    Robust (handle env) A (cleanupOrphans pool acc) (fun _ w' => K w') w := by
  unfold cleanupOrphans
  apply Robust.bind
  refine Robust.read_of_eq rfl (hread _ rfl) ?_ (fun _ => Robust.pure hK)
  apply Robust.bind
  refine Robust.mono (robust_deleteOrphans _ (fun hp h => (mem_podsByLabels.mp h).2)
    (fun hp h => hdelete hp (mem_podsByLabels.mp h).1) _ hK) ?_
  intro r w' hw'
  cases r with
  | next result => exact Robust.pure hw'
  | exit outcome => exact Robust.pure hw'

theorem robust_listTenantPodsForNodes {Q : Except Err (List CorePod) → Cluster → Prop}
    {ready : List String} (hread : ∀ c, c.isRead → A c)
    (hok : Q (.ok ((w.tenants cs).pods.items.filter (isSourcePod ready))) w)
    (herror : ∀ err, Q (.error err) w) :
    Robust (handle env) A (listTenantPodsForNodes cs ready) Q w := by
  unfold listTenantPodsForNodes
  split
  · next hready =>
      have hnil : ready = [] := List.eq_nil_of_length_eq_zero hready
      have hempty : (w.tenants cs).pods.items.filter (isSourcePod ready) = [] := by
        simp [hnil, isSourcePod]
      rw [hempty] at hok
      exact Robust.pure hok
  · apply Robust.bind
    exact Robust.read_of_eq rfl (hread _ rfl) (Robust.pure hok) (fun _ => Robust.pure (herror _))

/-- The rule.  `I` holds of the source pods still to come, the desired keys and
the state; `J` is what the pass leaves, however it ends. -/
theorem robust_reconcilePool (I : List CorePod → List String → Cluster → Prop)
    (J : Cluster → Prop) (hread : ∀ c, c.isRead → A c) (hJ : J w)
    (hIJ : ∀ rest desired w, I rest desired w → J w)
    (hstart : ∀ cs, env.connect pool.tenantRef = .ok cs → I (sourcePods env w cs pool) [] w)
    (hpod : ∀ cs, env.connect pool.tenantRef = .ok cs → ∀ p rest desired w,
      I (p :: rest) desired w → (∀ c, PodCall translator cs pool p w c → A c) ∧
        ∀ w', PodStep env translator cs pool p w w' →
          I rest (keyForPod pool.ns (targetKey pool p).name :: desired) w')
    (horphans : ∀ desired w, I [] desired w → ∃ K : Cluster → Prop, K w ∧ (∀ w, K w → J w) ∧
      ∀ hp ∈ w.hostPods.items, Orphan pool desired hp →
        A (.deletePod hp.key) ∧ ∀ w, K w → K (w.removePod env hp.key)) :
    Robust (handle env) A (reconcilePool translator pool) (fun _ w' => J w') w := by
  unfold reconcilePool
  apply Robust.bind
  refine Robust.perform (hread _ rfl) ?_ (fun _ => Robust.pure hJ) (fun _ => Robust.pure hJ)
  cases hconnect : env.connect pool.tenantRef with
  | error err =>
      simp only [handle, hconnect]
      exact Robust.pure hJ
  | ok cs =>
      simp only [handle, hconnect]
      apply Robust.bind
      refine Robust.read_of_eq (handle_listByPool env w _ _) (hread _ rfl) ?_
        (fun _ => Robust.pure hJ)
      apply Robust.bind
      refine robust_listTenantPodsForNodes hread ?_ (fun _ => Robust.pure hJ)
      unfold reconcilePods
      apply Robust.bind
      refine Robust.mono (Robust.loop (fun rest (acc : Progress) w => I rest acc.desired w)
        (fun _ w => J w) ?_ _ _ _ (hstart cs hconnect)) ?_
      · intro p rest acc w hI
        obtain ⟨hcalls, hkeep⟩ := hpod cs hconnect p rest acc.desired w hI
        refine Robust.mono (robust_reconcilePod hcalls) ?_
        rintro r w' ⟨hr, hstep⟩
        have hI' := hkeep w' hstep
        cases r with
        | next acc' =>
            have hacc : acc'.desired = _ := hr
            rw [← hacc] at hI'
            exact hI'
        | exit outcome => exact hIJ _ _ _ hI'
      · intro r w' hr
        cases r with
        | exit outcome => exact Robust.pure hr
        | next acc =>
            obtain ⟨K, hK, hKJ, hdelete⟩ := horphans acc.desired w' hr
            exact Robust.mono (robust_cleanupOrphans hread hdelete hK)
              (fun _ w h => hKJ w h)

/-! ## Passes -/

structure PassRun where
  env : Env
  translator : PodService
  pool : VNodePool
  plan : FaultPlan Err

def PassRun.calls (x : PassRun) (w : Cluster) : List Call :=
  (reconcilePool x.translator x.pool).calls (withFaults (handle x.env)) (w, x.plan)

def PassRun.after (x : PassRun) (w : Cluster) : Cluster :=
  ((reconcilePool x.translator x.pool).run (withFaults (handle x.env)) (w, x.plan)).2.1

end VNodeOperator.Pass
