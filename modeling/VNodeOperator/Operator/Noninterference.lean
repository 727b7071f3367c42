import VNodeOperator.Operator.Confinement

/-!
# Namespaces do not interfere

Reconciles of all three controllers run side by side, request by request, and any
of their requests may fail.  Where a tenant reference leads is fixed, as it is while
nobody changes the kubeconfig secrets.  Then what the controllers do in one namespace
is what they would do if there were no other namespace.
-/

namespace VNodeOperator.Operator

open Model Kube Ports Adapter ProofSupport Service Reconciler

/-- Reconciles side by side, request by request, each with the faults of its own plan. -/
def operator {ι : Type} (env : Env) (translator : PodService) (jobs : ι → Job)
    (plans : ι → FaultPlan Err) (w : Cluster) :
    Threads Request Request.Reply (fun _ : ι => Result × Option Err) Cluster where
  shared := w
  prog i := (((jobs i).program translator).expand (requests env)).struck (plans i)

section

variable {ι : Type} {env : Env} {translator : PodService} {home : Clientset → String}
  {jobs : ι → Job} {plans : ι → FaultPlan Err} {w : Cluster}

theorem kept_operator (hjobs : ∀ i, (jobs i).key.ns ≠ "") (hw : AtHome env home w) :
    Threads.Kept (namespaces env home) (fun i => (jobs i).key.ns) (fun _ _ => True)
      (operator env translator jobs plans w) where
  inv := hw
  meets i := by
    apply Prog.Meets.struck
    · exact (meets_program translator rfl (hjobs i)).expand fun _ hc => meets_requests hc
    · intro r e
      cases r <;> trivial

end

/-- Let the reconciles of all namespaces take turns in any order, with any failures.  Seen
from one namespace the run is one in which only its own reconciles move, on clusters in
which the other namespaces and their tenants do not exist. -/
theorem namespaces_noninterfering {ι : Type} [DecidableEq ι] (env : Env) (translator : PodService)
    (home : Clientset → String) (jobs : ι → Job) (plans : ι → FaultPlan Err) (w : Cluster)
    (hjobs : ∀ i, (jobs i).key.ns ≠ "") (hw : AtHome env home w)
    (t : Threads Request Request.Reply (fun _ : ι => Result × Option Err) Cluster)
    (hreach : Threads.Reaches (serve env) (fun _ _ => True)
      (operator env translator jobs plans w) t) (n : String) :
    ∃ u, Threads.Reaches (serve env) (fun _ i => (jobs i).key.ns = n)
        (operator env translator jobs plans (within home n w)) u ∧
      u.shared = within home n t.shared ∧
      ∀ i, (jobs i).key.ns = n → u.prog i = t.prog i := by
  obtain ⟨u, hu, hsame⟩ := hreach.compartment (kept_operator hjobs hw) n
  exact ⟨u, hu, hsame.shared, hsame.prog⟩

/-- The only reconcile of a namespace returns and leaves behind what it does when it runs
alone, from start to end, on that namespace. -/
theorem lone_reconcile_undisturbed {ι : Type} [DecidableEq ι] (env : Env)
    (translator : PodService) (home : Clientset → String) (jobs : ι → Job)
    (plans : ι → FaultPlan Err) (w : Cluster) (hjobs : ∀ i, (jobs i).key.ns ≠ "")
    (hw : AtHome env home w)
    (t : Threads Request Request.Reply (fun _ : ι => Result × Option Err) Cluster)
    (hreach : Threads.Reaches (serve env) (fun _ _ => True)
      (operator env translator jobs plans w) t)
    (i : ι) (hlone : ∀ j, (jobs j).key.ns = (jobs i).key.ns → j = i)
    (r : Result × Option Err) (hdone : (t.prog i).result = some r) :
    let alone := (((jobs i).program translator).expand (requests env)).run
      (withFaults (serve env)) (within home (jobs i).key.ns w, plans i)
    alone.1 = r ∧ alone.2.1 = within home (jobs i).key.ns t.shared := by
  obtain ⟨u, hu, hsame⟩ := hreach.compartment (kept_operator hjobs hw) (jobs i).key.ns
  have hrun := hu.run_alone (i := i) fun _ j hj => hlone j hj
  have hprog : u.prog i = .ret r := by
    rw [hsame.prog i rfl]
    exact Prog.eq_ret_of_result hdone
  rw [hprog, hsame.shared] at hrun
  -- what is left of the lone reconcile is its result
  have halone := Prog.run_struck (serve env)
    (((jobs i).program translator).expand (requests env)) (plans i)
    (within home (jobs i).key.ns w)
  have hboth := hrun.trans halone
  exact ⟨(congrArg Prod.fst hboth).symm, (congrArg Prod.snd hboth).symm⟩

/-! ### Two namespaces -/

def townPool (ns : String) : VNodePoolCR where
  name := "web"
  ns := ns
  finalizers := [VNodePool.poolFinalizer]
  tenantRef := { vclusterName := ns, vclusterNamespace := ns, kubeconfigSecret := ns }
  nodeCount := 1

def townCluster : Cluster where
  tenants _ := {}
  pools := (Store.empty.put (townPool "north")).put (townPool "south")

def townJobs : Bool → Job
  | false => .pool ⟨"north", "web"⟩
  | true => .pool ⟨"south", "web"⟩

/-- In the south the fifth request fails. -/
def townPlans : Bool → FaultPlan Err
  | false => fun _ => none
  | true => fun i => if i = 4 then some ⟨⟨.other, "connection refused"⟩, false⟩ else none

/-- The reconciles take turns until the one in the south has given up. -/
def townSchedule : List Bool :=
  (List.replicate 7 [true, false]).flatten ++ List.replicate 17 false

theorem atHome_townCluster : AtHome Env.plain Clientset.id townCluster where
  vnodes _ hcr := absurd hcr List.not_mem_nil
  pools := by
    intro cr hcr cs hcs
    cases hcs
    rcases Store.mem_put.mp hcr with rfl | ⟨hcr, _⟩
    · rfl
    · rcases Store.mem_put.mp hcr with rfl | ⟨hcr, _⟩
      · rfl
      · exact absurd hcr List.not_mem_nil

theorem townJobs_ns : ∀ i, (townJobs i).key.ns ≠ "" := by decide

theorem town_noninterfering :
    ∃ t, Threads.follow (serve Env.plain) townSchedule
        (operator Env.plain ⟨""⟩ townJobs townPlans townCluster) = some t ∧
      ∃ u, Threads.Reaches (serve Env.plain) (fun _ i => (townJobs i).key.ns = "north")
          (operator Env.plain ⟨""⟩ townJobs townPlans
            (within Clientset.id "north" townCluster)) u ∧
        u.shared = within Clientset.id "north" t.shared ∧
        ∀ i, (townJobs i).key.ns = "north" → u.prog i = t.prog i := by
  have hrun : ∃ t, Threads.follow (serve Env.plain) townSchedule
      (operator Env.plain ⟨""⟩ townJobs townPlans townCluster) = some t := ⟨_, rfl⟩
  obtain ⟨t, hfollow⟩ := hrun
  exact ⟨t, hfollow, namespaces_noninterfering Env.plain ⟨""⟩ Clientset.id townJobs townPlans
    townCluster townJobs_ns atHome_townCluster t (Threads.reaches_follow .start hfollow) "north"⟩

theorem town_north_undisturbed :
    ∃ t, Threads.follow (serve Env.plain) townSchedule
        (operator Env.plain ⟨""⟩ townJobs townPlans townCluster) = some t ∧
      (t.prog true).result.isSome ∧
      let alone := ((VNodePool.reconcile ⟨"north", "web"⟩).expand (requests Env.plain)).run
        (withFaults (serve Env.plain)) (within Clientset.id "north" townCluster, fun _ => none)
      alone.1 = ({}, none) ∧ alone.2.1 = within Clientset.id "north" t.shared := by
  have hrun : ∃ t, Threads.follow (serve Env.plain) townSchedule
        (operator Env.plain ⟨""⟩ townJobs townPlans townCluster) = some t ∧
      (t.prog true).result.isSome ∧ (t.prog false).result = some ({}, none) :=
    ⟨_, rfl, rfl, rfl⟩
  obtain ⟨t, hfollow, hsouth, hdone⟩ := hrun
  exact ⟨t, hfollow, hsouth, lone_reconcile_undisturbed Env.plain ⟨""⟩ Clientset.id townJobs
    townPlans townCluster townJobs_ns atHome_townCluster t (Threads.reaches_follow .start hfollow)
    false (by decide) ({}, none) hdone⟩

end VNodeOperator.Operator
