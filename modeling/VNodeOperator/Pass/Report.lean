import VNodeOperator.Pass.Completion
import VNodeOperator.Pools.Conditions
import VNodeOperator.ProofSupport.Faults
import VNodeOperator.Service.NodeService

/-!
# The report of a pass

The PodSync controller reports a pass without an error as `PodExecutionReady`.
A pass that a cancellation or an expired deadline interrupts returns no error
either, wherever it was, and is reported all the same.
-/

namespace VNodeOperator.Pass

open Model Kube Ports ProofSupport Service PodExecution Reconciler

variable {σ : Type} {h : Handler Call Call.Reply σ} {s : σ} {translator : PodService}
  {pool : VNodePool}

def setsReady : Call → Bool
  | .patchVNodePoolStatus _ _ status =>
      (Pools.settingOf "PodExecutionReady" status.conditions).map Prod.fst = some .true
  | _ => false

theorem uses_updateExecutionConditions {A : Call → Prop} {k : ObjKey}
    {ready degraded : ConditionStatus} {reason message : String} (hget : A (.getVNodePool k))
    (hnow : A .now) (hpatch : ∀ time base, A (.patchVNodePoolStatus k base
      (PodSync.executionStatus ready degraded reason message time base))) :
    Prog.Uses A (PodSync.updateExecutionConditions k ready degraded reason message) := by
  apply uses_retryOnConflict
  apply Prog.Uses.bind (Prog.Uses.perform hget)
  intro r
  cases r with
  | error err => exact Prog.Uses.pure _
  | ok current =>
      apply Prog.Uses.bind
      · apply Prog.Uses.bind (Prog.Uses.perform hnow)
        intro time
        cases time <;> exact Prog.Uses.pure _
      · intro time
        dsimp only
        split
        · exact Prog.Uses.pure _
        · apply Prog.Uses.bind (Prog.Uses.perform (hpatch time current.status))
          intro r
          cases r <;> exact Prog.Uses.pure _

theorem uses_cleanup (pool : VNodePool) :
    Prog.Uses (fun c => setsReady c = false) (PodSync.cleanup pool) := by
  apply Prog.Uses.bind
  · apply Prog.Uses.bind (Prog.Uses.perform (A := fun c => setsReady c = false) rfl)
    intro r
    cases r with
    | error err => exact Prog.Uses.pure _
    | ok pods =>
        apply Prog.Uses.bind
        · apply Prog.Uses.loop
          intro q deleted
          apply Prog.Uses.bind (Prog.Uses.perform (A := fun c => setsReady c = false) rfl)
          intro r
          cases r <;> exact Prog.Uses.pure _
        · intro r
          cases r <;> exact Prog.Uses.pure _
  · rintro ⟨deleted, err⟩
    cases err <;> exact Prog.Uses.pure _

theorem setsReady_of_onPods {c : Call} (hc : onPods c = true) : setsReady c = false := by
  cases c <;> first | rfl | cases hc

theorem setsReady_execute {k : ObjKey} {s : σ}
    (hready : ∃ e ∈ (PodSync.execute translator k pool).events h s, setsReady e.call) :
    ((PodSync.execute translator k pool).events h s).filter (fun e => onPods e.call) =
        (reconcilePool translator pool).events h s ∧
      ((reconcilePool translator pool).run h s).1.2 = none := by
  have hpass : ∀ e ∈ (reconcilePool translator pool).events h s, onPods e.call = true :=
    (uses_reconcilePool translator pool).event_calls s
  unfold PodSync.execute at hready ⊢
  rw [Prog.events_bind] at hready ⊢
  rw [List.filter_append, List.filter_eq_self.mpr hpass]
  obtain ⟨e, he, hready⟩ := hready
  have hreport := (List.mem_append.mp he).resolve_left fun he =>
    Bool.false_ne_true ((setsReady_of_onPods (hpass e he)).symm.trans hready)
  generalize (reconcilePool translator pool).run h s = r at hreport ⊢
  obtain ⟨⟨result, err⟩, s₁⟩ := r
  cases err with
  | none =>
      refine ⟨?_, rfl⟩
      have hothers : Prog.Uses (fun c => onPods c = false)
          (PodSync.updateExecutionConditions k .true .false "PodExecutionReady"
            ("Processed " ++ toString result.sourcePods ++ " tenant pods")) :=
        uses_updateExecutionConditions rfl rfl fun _ _ => rfl
      rw [List.filter_eq_nil_iff.mpr, List.append_nil]
      intro e he
      rw [(hothers.bind fun _ => Prog.Uses.pure _).event_calls s₁ e he]
      exact Bool.false_ne_true
  | some err =>
      dsimp only at hreport
      split at hreport
      · exact (List.not_mem_nil hreport).elim
      · have hfalse : Prog.Uses (fun c => setsReady c = false)
            (PodSync.updateExecutionConditions k .false .true "PodExecutionFailed" err.msg) := by
          apply uses_updateExecutionConditions (A := fun c => setsReady c = false) rfl rfl
          intro time base
          rw [setsReady, Pools.podExecutionReady_executionStatus]
          rfl
        rw [(hfalse.bind fun _ => Prog.Uses.pure _).event_calls s₁ e hreport] at hready
        cases hready

/-- A reconcile that sets `PodExecutionReady` ran a pass that returned no error. -/
theorem setsReady_reconcile {k : ObjKey} {cr : VNodePoolCR}
    (hcr : (h (.getVNodePool k) s).1 = .ok cr)
    (hready : ∃ e ∈ (PodSync.reconcile translator k).events h s, setsReady e.call) :
    ∃ s₁, ((PodSync.reconcile translator k).events h s).filter (fun e => onPods e.call) =
        (reconcilePool translator (VNodePool.crToPoolModel cr)).events h s₁ ∧
      ((reconcilePool translator (VNodePool.crToPoolModel cr)).run h s₁).1.2 = none := by
  refine ⟨(h (.getVNodePool k) s).2, ?_⟩
  unfold PodSync.reconcile at hready ⊢
  rw [ask, Prog.events_bind_perform hcr] at hready ⊢
  obtain ⟨e, he, hready⟩ := hready
  have hrest := (List.mem_cons.mp he).resolve_left (by rintro rfl; cases hready)
  dsimp only at hrest ⊢
  split at hrest
  · exact (List.not_mem_nil hrest).elim
  · split at hrest
    · rw [(uses_cleanup _).event_calls _ e hrest] at hready
      cases hready
    · next hlive =>
        split at hrest
        · exact (List.not_mem_nil hrest).elim
        · next hfailed =>
            rw [List.filter_cons_of_neg Bool.false_ne_true]
            simp only [if_neg hlive, if_neg hfailed]
            exact setsReady_execute ⟨e, hrest, hready⟩

def passOf (es : List (Event Call σ)) : List (Event Call σ) := es.filter fun e => onPods e.call

/-- A reconcile sets `PodExecutionReady` for a complete pass only, exactly when no call of a
pass it reports as ready ended in a cancellation or an expired deadline. -/
theorem ready_complete_iff (h : Handler Call Call.Reply σ) (hhost : HostErrors h)
    (translator : PodService) (k : ObjKey) (s : σ) (cr : VNodePoolCR)
    (hcr : (h (.getVNodePool k) s).1 = .ok cr) :
    ((∃ e ∈ (PodSync.reconcile translator k).events h s, setsReady e.call) →
        Completed h translator (VNodePool.crToPoolModel cr)
          (passOf ((PodSync.reconcile translator k).events h s))) ↔
      ((∃ e ∈ (PodSync.reconcile translator k).events h s, setsReady e.call) →
        ∀ e ∈ passOf ((PodSync.reconcile translator k).events h s), ¬ ShutDown h e) := by
  apply imp_congr_right
  intro hready
  obtain ⟨s₁, hpass, hnone⟩ := setsReady_reconcile hcr hready
  rw [passOf, hpass]
  have hends : EndsWell h (Completed h translator (VNodePool.crToPoolModel cr)) _ _ :=
    traced_reconcilePool hhost s₁
  rcases hends hnone with ⟨hquiet, hcomplete⟩ | hstopped
  · exact iff_of_true hcomplete hquiet
  · apply iff_of_false
    · exact fun hcomplete => hcomplete.not_endsInShutdown hstopped
    · obtain ⟨before, e, hes, hshut⟩ := hstopped
      intro hquiet
      exact hquiet e (hes ▸ List.mem_concat_self) hshut

/-! ### A pass that completes, and one whose listing times out -/

def cartPod : CorePod where
  name := "cart"
  ns := "prod"
  uid := "1"
  nodeName := "vnode-web-1"
  status := { phase := .running }

def cartCluster : Cluster :=
  { NodeService.acmeCluster { pods := Store.empty.put cartPod } with
    pools := Store.empty.put Pools.idlePool }

theorem hostErrors_plain : HostErrors (handle Env.plain) := by
  intro c w err hc herr
  cases c with
  | getPod k =>
      simp only [handle] at herr
      split at herr <;> cases herr
      exact ErrKind.noConfusion
  | createPod pod =>
      cases hget : w.hostPods.get ⟨pod.ns, pod.name⟩ with
      | none =>
          simp only [handle, Env.plain, hget] at herr
          cases herr
      | some old =>
          simp only [handle, Env.plain, hget] at herr
          cases herr
          exact ErrKind.noConfusion
  | deletePod k =>
      rw [handle_deletePod] at herr
      cases herr
  | _ => cases hc

theorem cartPod_ready_complete :
    (∃ e ∈ (PodSync.reconcile ⟨""⟩ Pools.idlePool.key).events (handle Env.plain) cartCluster,
      setsReady e.call) ∧
    Completed (handle Env.plain) ⟨""⟩ (VNodePool.crToPoolModel Pools.idlePool)
      (passOf ((PodSync.reconcile ⟨""⟩ Pools.idlePool.key).events (handle Env.plain)
        cartCluster)) := by
  have hready : ∃ e ∈ (PodSync.reconcile ⟨""⟩ Pools.idlePool.key).events (handle Env.plain)
      cartCluster, setsReady e.call := by decide +kernel
  refine ⟨hready, (ready_complete_iff (handle Env.plain) hostErrors_plain ⟨""⟩ Pools.idlePool.key
    cartCluster Pools.idlePool rfl).mpr ?_ hready⟩
  intro _
  decide +kernel

def listTimesOut : FaultPlan Err := fun n =>
  if n = 3 then some ⟨⟨.deadlineExceeded, "context deadline exceeded"⟩, false⟩ else none

/-- No tenant pod was listed, and the pass is reported as ready. -/
theorem cartPod_unlisted_ready :
    (∃ e ∈ (PodSync.reconcile ⟨""⟩ Pools.idlePool.key).events (withFaults (handle Env.plain))
      (cartCluster, listTimesOut), setsReady e.call) ∧
    ¬ Completed (withFaults (handle Env.plain)) ⟨""⟩ (VNodePool.crToPoolModel Pools.idlePool)
      (passOf ((PodSync.reconcile ⟨""⟩ Pools.idlePool.key).events
        (withFaults (handle Env.plain)) (cartCluster, listTimesOut))) := by
  refine ⟨by decide +kernel, ?_⟩
  intro hcomplete
  refine hcomplete.not_endsInShutdown ⟨[_, _], _, rfl, ?_⟩
  rfl

end VNodeOperator.Pass
