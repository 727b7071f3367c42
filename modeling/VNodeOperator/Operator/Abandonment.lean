import VNodeOperator.Operator.Noninterference

/-!
# Host pods that outlive their pool

Host pods are deleted by a reconcile that has read the pool they belong to.  In a
namespace without pools no reconcile gets that far, so the host pods that a pool
leaves behind there are never touched again.
-/

namespace VNodeOperator.Operator

open Model Kube Ports Adapter ProofSupport Service Reconciler

/-! ## Requests while there is no pool -/

def poollessCall : Call → Prop
  | .getVNode _ | .getVNodePool _ | .save _ | .register _ _ | .updateNodeStatus _ _ | .now => True
  | _ => False

def poolless : Contract Call Call.Reply where
  may := poollessCall
  gets
    | .getVNodePool _, r => ∃ err, r = .error err
    | _, _ => True

def poollessRequest : Request → Prop
  | .api (.deletePod _) => False
  | .api _ | .port (.getVNodePool _) | .port .now => True
  | _ => False

def poollessRequests : Contract Request Request.Reply where
  may := poollessRequest
  gets
    | .port (.getVNodePool _), r => ∃ err, r = .error err
    | _, _ => True

section

variable {env : Env} {translator : PodService} {w : Cluster}

theorem meets_job_poolless (job : Job) :
    Prog.Meets poolless (fun _ => True) (job.program translator) := by
  cases job with
  | pool k =>
      refine Prog.Meets.call (c := Call.getVNodePool k) trivial ?_
      rintro _ ⟨err, rfl⟩
      trivial
  | pods k =>
      refine Prog.Meets.call (c := Call.getVNodePool k) trivial ?_
      rintro _ ⟨err, rfl⟩
      trivial
  | vnode k =>
      have huses : Prog.Uses poollessCall (VNode.reconcile k) := by
        refine Prog.Uses.bind (Prog.Uses.perform trivial) ?_
        intro r
        cases r with
        | error err => exact Prog.Uses.pure _
        | ok cr =>
            exact VNode.uses_reconcileCR (NodeService.uses_updateStatus trivial trivial trivial
              (fun _ => trivial) (fun _ => trivial)) trivial
      exact Prog.Meets.of_uses huses fun _ hc => hc

theorem meets_requests_poolless {c : Call} (hc : poollessCall c) :
    Prog.Meets poollessRequests (poolless.gets c) (requests env c) := by
  have hadapter : ∀ {α : Type} {p : Api α}, Prog.Uses (fun c => poollessRequest (.api c)) p →
      Prog.Meets poollessRequests (fun _ => True) (apiRequests p) :=
    fun hp => Prog.Meets.of_uses (uses_apiRequests hp) fun _ h => h
  have hnode : ∀ {node : Model.VNode} {c : ApiCall}, Registrar.RequestFor node c →
      poollessRequest (.api c) := by
    intro node c hc
    cases c <;> trivial
  cases c with
  | save node =>
      exact hadapter (NodeRepository.uses_save trivial trivial (fun _ => trivial)
        fun _ => trivial)
  | register node tenant =>
      exact hadapter ((Registrar.uses_register env node tenant).mono fun _ => hnode)
  | updateNodeStatus node tenant =>
      exact hadapter ((Registrar.uses_updateNodeStatus env node tenant).mono
        fun _ h => hnode (h.requestFor node))
  | getVNode k => exact Prog.Meets.last (c := Request.api (.getVNode k)) trivial
  | getVNodePool k => exact Prog.Meets.perform (c := Request.port (.getVNodePool k)) trivial
  | now => exact Prog.Meets.last (c := Request.port .now) trivial
  | _ => exact hc.elim

/-- Nothing that a reconcile without a pool does changes a host pod or makes a pool appear. -/
theorem serve_poolless (env : Env) {r : Request} (hr : poollessRequest r)
    (hpools : w.pools.items = []) :
    (serve env r w).2.pools = w.pools ∧ (serve env r w).2.hostPods = w.hostPods ∧
      poollessRequests.gets r (serve env r w).1 := by
  cases r with
  | api c =>
      refine ⟨api_pools env c w, api_hostPods env ?_ w, trivial⟩
      rintro k rfl
      exact hr.elim
  | port c =>
      cases c with
      | getVNodePool k =>
          have hnone : w.pools.get k = none := by
            rw [Store.get_eq_none_iff, hpools]
            exact fun _ hmem => absurd hmem List.not_mem_nil
          refine ⟨rfl, rfl, notFoundError "vnodepools.vnode.kroderdev.io" k.name, ?_⟩
          simp only [serve, handle, find_none _ _ hnone]
      | now => exact ⟨rfl, rfl, trivial⟩
      | _ => exact hr.elim

end

/-- In a namespace without pools the operator never touches a host pod: not on behalf of the
objects that are left there, and not on behalf of other namespaces, in any interleaving and
with any failures. -/
theorem abandoned_pods_stay {ι : Type} [DecidableEq ι] (env : Env) (translator : PodService)
    (home : Clientset → String) (jobs : ι → Job) (plans : ι → FaultPlan Err) (w : Cluster)
    (hjobs : ∀ i, (jobs i).key.ns ≠ "") (hw : AtHome env home w)
    (t : Threads Request Request.Reply (fun _ : ι => Result × Option Err) Cluster)
    (hreach : Threads.Reaches (serve env) (fun _ _ => True)
      (operator env translator jobs plans w) t)
    (n : String) (hgone : ∀ cr ∈ w.pools.items, cr.ns ≠ n) (k : ObjKey) (hk : k.ns = n) :
    t.shared.hostPods.get k = w.hostPods.get k := by
  obtain ⟨u, hu, hsame⟩ := hreach.compartment (kept_operator hjobs hw) n
  have hempty : (within home n w).pools.items = [] := by
    rw [List.eq_nil_iff_forall_not_mem]
    intro cr hcr
    obtain ⟨hmem, hns⟩ := Store.mem_part.mp hcr
    exact hgone cr hmem (inNs_iff.mp hns)
  have hinv : u.shared.pools.items = [] ∧ u.shared.hostPods = (within home n w).hostPods := by
    refine hu.invariant_of_meets (K := poollessRequests) (Q := fun _ _ => True)
      (I := fun s : Cluster => s.pools.items = [] ∧ s.hostPods = (within home n w).hostPods)
      ?_ ⟨hempty, rfl⟩ ?_
    · intro i _
      apply Prog.Meets.struck
      · exact (meets_job_poolless (jobs i)).expand fun _ hc => meets_requests_poolless hc
      · intro r e
        cases r with
        | api c => trivial
        | port c => cases c <;> first | exact ⟨e, rfl⟩ | trivial
    · rintro r s hr ⟨hpools, hhostPods⟩
      obtain ⟨hpools', hhostPods', hgets⟩ := serve_poolless env hr hpools
      exact ⟨⟨hpools' ▸ hpools, hhostPods'.trans hhostPods⟩, hgets⟩
  have hview : (t.shared.hostPods.part (inNs n)).get k = (w.hostPods.part (inNs n)).get k := by
    have hshared := congrArg Cluster.hostPods hsame.shared
    rw [hinv.2] at hshared
    exact congrArg (fun s => Store.get s k) hshared.symm
  rw [get_part _ hk, get_part _ hk] at hview
  exact hview

/-- A host pod in the west, where the pool it was made for is gone. -/
def leftPod : HostPod where
  spec := { name := "web-0", ns := "west", labels := PodExecution.ownerLabels "web" }
  status := { phase := .running }

def leftCluster : Cluster := { townCluster with hostPods := Store.empty.put leftPod }

def leftJobs : Bool → Job
  | false => .pods ⟨"west", "web"⟩
  | true => .pool ⟨"north", "web"⟩

theorem leftPod_stays :
    ∃ t, Threads.Reaches (serve Env.plain) (fun _ _ => True)
        (operator Env.plain ⟨""⟩ leftJobs (fun _ _ => none) leftCluster) t ∧
      (t.prog false).result = some ({}, none) ∧
      t.shared.hostPods.get leftPod.key = some leftPod := by
  have hreach : Threads.Reaches (serve Env.plain) (fun _ _ => True)
      (operator Env.plain ⟨""⟩ leftJobs (fun _ _ => none) leftCluster) _ :=
    Threads.reaches_follow .start
      (show Threads.follow _ [true, false, true] _ = some _ from rfl)
  have hhome : AtHome Env.plain Clientset.id leftCluster :=
    ⟨atHome_townCluster.vnodes, atHome_townCluster.pools⟩
  have hstays := abandoned_pods_stay Env.plain ⟨""⟩ Clientset.id leftJobs (fun _ _ => none)
    leftCluster (by decide) hhome _ hreach "west" (by decide) leftPod.key rfl
  exact ⟨_, hreach, rfl, hstays⟩

end VNodeOperator.Operator
