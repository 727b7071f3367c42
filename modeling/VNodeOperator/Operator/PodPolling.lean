import VNodeOperator.Operator.Queues
import VNodeOperator.Pools.Finalization

/-!
# The pod controller keeps going

`PodSyncReconciler` polls: it asks to be run again after every pass, whatever became
of the pass.  So its queue has nothing to do for a pool only once the pool is gone or
invalid, or is being deleted and all its host pods have been deleted.
-/

namespace VNodeOperator.Operator

open Model Kube Ports Adapter ProofSupport Service Reconciler
open Pools (remaining keys)
open Reconciler.VNodePool (crToPoolModel)

/-! ## A pass never looks like a shutdown -/

/-- Shutdowns are taken care of inside the pass, so its error is never one. -/
def Reported (outcome : PodExecution.Outcome) : Prop :=
  ∀ err, outcome.2 = some err → isIgnorableShutdownError err = false

theorem reported_stop {err reported : Err} (hkind : reported.kind = err.kind)
    (result : PodExecution.PodExecutionResult) :
    Reported (PodExecution.stop result err reported) := by
  unfold PodExecution.stop
  split
  · rintro e ⟨⟩
  · next hshutdown =>
      rintro e ⟨⟩
      rw [Bool.not_eq_true] at hshutdown
      rw [isIgnorableShutdownError, hkind]
      exact hshutdown

theorem reported_stop_wrap (result : PodExecution.PodExecutionResult) (err : Err)
    (context : String) : Reported (PodExecution.stop result err (err.wrap context)) := by
  apply reported_stop
  rfl

section

variable {translator : PodService} {cs : Clientset} {pool : Model.VNodePool}

def StepReported (r : Prog.Flow PodExecution.Progress PodExecution.Outcome) : Prop :=
  r.elim (fun _ => True) Reported

theorem returns_mirrorStatus (sourcePod : CorePod) (target : ObjKey)
    (acc : PodExecution.Progress) :
    Prog.Returns StepReported
      (PodExecution.mirrorStatus translator cs sourcePod target acc) := by
  apply Prog.Returns.bind (Prog.Returns.always _)
  intro r _
  cases r with
  | error err =>
      dsimp only
      split
      · trivial
      · exact reported_stop_wrap _ _ _
  | ok status =>
      dsimp only
      split
      · exact reported_stop_wrap _ _ _
      · apply Prog.Returns.bind (Prog.Returns.always _)
        intro r _
        cases r with
        | error err => exact reported_stop_wrap _ _ _
        | ok u => trivial

theorem returns_reportPod (sourcePod : CorePod) (target : ObjKey) (acc : PodExecution.Progress) :
    Prog.Returns StepReported (PodExecution.reportPod translator cs sourcePod target acc) := by
  apply Prog.Returns.bind (returns_mirrorStatus sourcePod target acc)
  intro r hr
  cases r with
  | exit outcome => exact hr
  | next acc =>
      dsimp only
      unfold PodExecution.deleteFinished
      split
      · apply Prog.Returns.bind (Prog.Returns.always _)
        intro r _
        cases r with
        | error err => exact reported_stop_wrap _ _ _
        | ok u => trivial
      · trivial

theorem returns_reconcilePod (sourcePod : CorePod) (acc : PodExecution.Progress) :
    Prog.Returns StepReported
      (PodExecution.reconcilePod translator cs pool sourcePod acc) := by
  unfold PodExecution.reconcilePod
  split
  · next err htranslate => cases htranslate
  · dsimp only
    apply Prog.Returns.bind (Prog.Returns.always _)
    intro synced _
    cases synced with
    | error err => exact reported_stop_wrap _ _ _
    | ok u =>
        dsimp only
        split
        · exact returns_reportPod _ _ _
        · apply Prog.Returns.bind (Prog.Returns.always _)
          rintro ⟨created, deleted, err⟩ _
          cases err with
          | none => exact returns_reportPod _ _ _
          | some err =>
              rw [PodExecution.afterEnsure]
              split
              · trivial
              · exact reported_stop_wrap _ _ _

theorem returns_cleanupOrphans (acc : PodExecution.Progress) :
    Prog.Returns Reported (PodExecution.cleanupOrphans pool acc) := by
  apply Prog.Returns.bind (Prog.Returns.always _)
  intro r _
  cases r with
  | error err => exact reported_stop_wrap _ _ _
  | ok hostPods =>
      have hloop : Prog.Returns (Prog.Flow.elim (fun _ => True) Reported)
          (Prog.loop (PodExecution.deleteOrphan acc.desired) hostPods acc.result) := by
        apply Prog.Returns.loop
        intro hostPod result
        unfold PodExecution.deleteOrphan
        split
        · trivial
        · apply Prog.Returns.bind (Prog.Returns.always _)
          intro r _
          cases r with
          | error err => exact reported_stop_wrap _ _ _
          | ok u => trivial
      apply Prog.Returns.bind hloop
      intro r hr
      cases r with
      | exit outcome => exact hr
      | next result => rintro err ⟨⟩

theorem returns_pass : Prog.Returns Reported (PodExecution.reconcilePool translator pool) := by
  apply Prog.Returns.bind (Prog.Returns.always _)
  intro r _
  cases r with
  | error err => exact reported_stop rfl {}
  | ok cs =>
      apply Prog.Returns.bind (Prog.Returns.always _)
      intro r _
      cases r with
      | error err => exact reported_stop_wrap _ _ _
      | ok nodes =>
          apply Prog.Returns.bind (Prog.Returns.always _)
          intro r _
          cases r with
          | error err => exact reported_stop rfl {}
          | ok sourcePods =>
              apply Prog.Returns.bind (Prog.Returns.loop (fun p acc => returns_reconcilePod p acc)
                sourcePods _)
              intro r hr
              cases r with
              | exit outcome => exact hr
              | next acc => exact returns_cleanupOrphans acc

/-- Every pass is followed by another, whatever its calls return. -/
theorem returns_execute (k : ObjKey) :
    Prog.Returns (fun r => comesAgain r = true) (PodSync.execute translator k pool) := by
  apply Prog.Returns.bind returns_pass
  rintro ⟨result, err⟩ hreported
  cases err with
  | none => exact Prog.Returns.bind (Prog.Returns.always _) fun _ _ => rfl
  | some err =>
      have hshutdown : PodSync.isIgnorablePodSyncError err = false := hreported err rfl
      dsimp only
      rw [hshutdown]
      exact Prog.Returns.bind (Prog.Returns.always _) fun _ _ => rfl

end

/-! ## Deleting the pods of a pool that goes -/

def shown (k : ObjKey) (w : Cluster) : Option VNodePoolCR :=
  (w.pools.get k).map VNodePoolCR.content

theorem deletionTimestamp_of_content {cr cr' : VNodePoolCR} (h : cr'.content = cr.content) :
    cr'.deletionTimestamp = cr.deletionTimestamp := by
  injection h

theorem crToPoolModel_content (cr : VNodePoolCR) :
    crToPoolModel cr.content = crToPoolModel cr := rfl

/-- While a reconcile runs the others do not touch the pool, or it is woken; and they create
no pod of the pool. -/
def podInterference (k : ObjKey) : Interference Cluster where
  inv _ := True
  rel w w' := shown k w' = shown k w ∧ remaining k w' ⊆ remaining k w
  refl _ := ⟨rfl, Set.Subset.rfl⟩
  trans h h' := ⟨h'.1.trans h.1, h'.2.trans h.2⟩
  keeps _ _ := trivial

/-- Pods that carry the pool's labels are the controller's own: nobody else creates them or
takes their deletion back. -/
def podOthers (k : ObjKey) (w w' : Cluster) : Prop := remaining k w' ⊆ remaining k w

def podSync (env : Env) (translator : PodService) (k : ObjKey) :
    Controller Request Request.Value Err (Result × Option Err) Cluster :=
  controller env (requests env) (PodSync.reconcile translator k) PodSync.enqueued k (podOthers k)

/-- What an idle pod controller has seen to: a pool that is valid is being deleted, and no
pod of it is left. -/
def PodsSettled (k : ObjKey) (w : Cluster) : Prop :=
  ∀ cr, w.pools.get k = some cr → (crToPoolModel cr).validate = .ok () →
    cr.deletionTimestamp.isSome ∧ remaining k w = ∅

section

variable {env : Env} {translator : PodService} {k : ObjKey} {w : Cluster}

abbrev PodUnwoken {α : Type} (env : Env) (translator : PodService) (k : ObjKey) (p : Req α)
    (Q : α → Cluster → Prop) (w : Cluster) : Prop :=
  Unwoken env (requests env) (PodSync.reconcile translator k) PodSync.enqueued k (podOthers k)
    (podInterference k) p Q w

/-- A pod that was deleted is not among the remaining ones; a failure is an outage. -/
theorem podUnwoken_deletePod {key : ObjKey} {rest : Set ObjKey} {pool : Option VNodePoolCR}
    (hpool : shown k w = pool) (hrest : remaining k w \ {key} ⊆ rest) :
    PodUnwoken env translator k (requests env (.deletePod key))
      (fun r w' => shown k w' = pool ∧
        match r with
        | .ok () => remaining k w' ⊆ rest
        | .error e => Outage e) w := by
  have hpools : ∀ w', (podInterference k).rel w w' →
      shown k (w'.removePod env key) = pool := by
    intro w' hrel
    rw [Cluster.removePod_eq]
    exact hrel.1.trans hpool
  have hremoved : ∀ w', (podInterference k).rel w w' →
      remaining k (w'.removePod env key) ⊆ rest := by
    intro w' hrel key' hkey'
    obtain ⟨hbefore, hne⟩ := Pools.remaining_removePod env k key w' hkey'
    exact hrest ⟨hrel.2 hbefore, hne⟩
  have hafter : ∀ w' : Cluster, (api env (.deletePod key) w').2 = w'.removePod env key := by
    intro w'
    simp only [api, Cluster.removePod]
    cases w'.hostPods.get key <;> rfl
  refine unwoken_request ?_ ?_ ?_
  · intro w' _ hrel _
    rw [hafter]
    cases hget : w'.hostPods.get key with
    | none =>
        simp only [api, hget]
        exact ⟨hpools w' hrel, hremoved w' hrel⟩
    | some p =>
        simp only [api, hget]
        exact ⟨hpools w' hrel, hremoved w' hrel⟩
  · intro w' e _ hrel he
    dsimp only
    rw [he.isNotFound]
    exact ⟨hrel.1.trans hpool, he⟩
  · intro w' e _ hrel he _
    rw [hafter]
    dsimp only
    rw [he.isNotFound]
    exact ⟨hpools w' hrel, he⟩

theorem podUnwoken_cleanupPod {pool : Option VNodePoolCR} (pod : PodSpec) (rest : List PodSpec)
    (deleted : Nat) (hpool : shown k w = pool)
    (hlisted : remaining k w ⊆ keys (pod :: rest)) :
    PodUnwoken env translator k ((PodExecution.cleanupPod pod deleted).expand (requests env))
      (fun r w' => r.elim
        (fun _ => shown k w' = pool ∧ remaining k w' ⊆ keys rest)
        (fun outcome => outcome.2.isSome = true)) w := by
  have hrest : remaining k w \ {⟨pod.ns, pod.name⟩} ⊆ keys rest := by
    rintro key ⟨hkey, hne⟩
    obtain ⟨p, hp, hpkey⟩ := hlisted hkey
    rcases List.mem_cons.mp hp with rfl | hp
    · exact absurd hpkey.symm hne
    · exact ⟨p, hp, hpkey⟩
  refine unwoken_ask (podUnwoken_deletePod hpool hrest) ?_
  rintro r w' ⟨hpool, hr⟩
  cases r with
  | ok u => exact ⟨hpool, hr⟩
  | error err =>
      have hshutdown : isIgnorableShutdownError err = false := Outage.shutdown hr
      change (if isIgnorableShutdownError err then none else some err).isSome = true
      rw [hshutdown]
      rfl

theorem podUnwoken_cleanup {cr : VNodePoolCR} (hcr : cr.key = k)
    (hpool : shown k w = some cr.content) :
    PodUnwoken env translator k ((PodSync.cleanup (crToPoolModel cr)).expand (requests env))
      (fun r w' => comesAgain r = true ∨
        shown k w' = some cr.content ∧ remaining k w' = ∅) w := by
  have hns : (crToPoolModel cr).ns = k.ns := congrArg ObjKey.ns hcr
  have hname : (crToPoolModel cr).name = k.name := congrArg ObjKey.name hcr
  have hpods : PodUnwoken env translator k
      ((PodExecution.cleanupPoolPods (crToPoolModel cr)).expand (requests env))
      (fun r w' => r.2.isSome = true ∨ shown k w' = some cr.content ∧ remaining k w' = ∅) w := by
    unfold PodExecution.cleanupPoolPods
    rw [hns, hname]
    refine unwoken_ask (Q := fun r w' => match r with
      | .ok pods => shown k w' = some cr.content ∧ remaining k w' ⊆ keys pods
      | .error e => Outage e) (unwoken_read rfl ?_ ?_) ?_
    · intro w' _ hrel
      exact ⟨hrel.1.trans hpool, Pools.remaining_subset_listed k w'⟩
    · exact fun _ _ _ _ he => he
    · intro r w' hr
      cases r with
      | error err =>
          have hshutdown : isIgnorableShutdownError err = false := Outage.shutdown hr
          left
          change (if isIgnorableShutdownError err then none else some err).isSome = true
          rw [hshutdown]
          rfl
      | ok pods =>
          dsimp only
          rw [Prog.expand_bind, Prog.expand_loop]
          refine Controller.Unwoken.bind (Controller.Unwoken.loop
            (fun rest _ w' => shown k w' = some cr.content ∧ remaining k w' ⊆ keys rest)
            (fun outcome _ => outcome.2.isSome = true) ?_ pods 0 hr) ?_
          · rintro pod rest deleted w' ⟨hpool, hlisted⟩
            exact podUnwoken_cleanupPod pod rest deleted hpool hlisted
          · intro r w' hr
            cases r with
            | exit outcome => exact Or.inl hr
            | next deleted =>
                refine Or.inr ⟨hr.1, Set.eq_empty_of_forall_notMem ?_⟩
                intro key hkey
                obtain ⟨p, hp, _⟩ := hr.2 hkey
                exact absurd hp List.not_mem_nil
  refine unwoken_bind hpods ?_
  rintro ⟨deleted, err⟩ w' hr
  cases err with
  | some err => exact Or.inl rfl
  | none => exact hr.imp (fun h => absurd h Bool.false_ne_true) id

theorem podUnwoken_reconcile :
    PodUnwoken env translator k ((PodSync.reconcile translator k).expand (requests env))
      (fun r w' => comesAgain r = false → PodsSettled k w') w := by
  refine unwoken_ask (Q := fun r w' => match r with
    | .ok cr => w'.pools.get k = some cr
    | .error e => Outage e ∨ w'.pools.get k = none)
    (unwoken_getVNodePool (fun _ _ _ _ hget => hget) (fun _ _ _ _ hnone _ => Or.inr hnone)
      (fun _ _ _ _ he => Or.inl he)) ?_
  · intro r w' hr
    cases r with
    | error err =>
        intro hdone cr hcr _
        rcases hr with houtage | hnone
        · rw [houtage.isNotFound] at hdone
          cases hdone
        · rw [hnone] at hcr
          cases hcr
    | ok cr =>
        have hget : w'.pools.get k = some cr := hr
        dsimp only
        split
        · next hinvalid =>
            intro _ cr' hcr' hvalid
            rw [hget, Option.some.injEq] at hcr'
            rw [hcr', hvalid] at hinvalid
            cases hinvalid
        · split
          · next hdeleting =>
              have hshown : shown k w' = some cr.content := by
                rw [shown, hget]
                rfl
              apply (podUnwoken_cleanup (Store.key_of_get hget) hshown).mono
              intro r w'' hr hdone cr' hcr' _
              rcases hr with hagain | ⟨hsame, hempty⟩
              · rw [hagain] at hdone
                cases hdone
              · have hcontent : cr'.content = cr.content := by
                  rwa [shown, hcr', Option.map_some, Option.some.injEq] at hsame
                rw [deletionTimestamp_of_content hcontent]
                exact ⟨hdeleting, hempty⟩
          · split
            · intro hdone
              cases hdone
            · apply (Controller.Unwoken.of_returns
                ((returns_execute cr.key).expand (requests env))).mono
              intro r w'' hagain hdone
              rw [hagain] at hdone
              cases hdone

theorem settles_podSync :
    Controller.Settles (podSync env translator k) (podInterference k) (PodsSettled k) where
  contract := ⟨_, Prog.Meets.always _, fun _ _ => trivial, fun _ _ _ _ => ⟨trivial, trivial⟩⟩
  others _ _ := trivial
  quiet := by
    intro w w' _ hothers hquiet
    exact ⟨get_of_notMem_forObject (of_decide_eq_false hquiet), hothers⟩
  reconcile _ _ := podUnwoken_reconcile
  unlisted := by
    intro w hlisted cr hcr _
    have hnone := get_of_notMem_forObject (of_decide_eq_false hlisted)
    rw [hcr] at hnone
    cases hnone
  good := by
    intro w w' hgood hrel cr hcr hvalid
    have hshown : (w.pools.get k).map VNodePoolCR.content = some cr.content := by
      have hsame := hrel.1
      rw [shown, hcr, Option.map_some] at hsame
      exact hsame.symm
    obtain ⟨old, hold, hcontent⟩ := Option.map_eq_some_iff.mp hshown
    rw [← crToPoolModel_content, ← hcontent] at hvalid
    obtain ⟨hdeleting, hempty⟩ := hgood old hold hvalid
    rw [deletionTimestamp_of_content hcontent] at hdeleting
    exact ⟨hdeleting, Set.subset_empty_iff.mp (hempty ▸ hrel.2)⟩

end

/-- Whatever happens, fails or crashes, the pod controller is idle about a valid pool only
when the pool is being deleted and each of its host pods is too. -/
theorem podSync_idle_only_after_cleanup (env : Env) (translator : PodService) (k : ObjKey)
    (w : Cluster) (x : Controller.Worker Request Request.Value Err (Result × Option Err) Cluster)
    (hreach : Controller.Reachable (podSync env translator k) w x)
    (hidle : x.running = none ∧ x.queued = false)
    (cr : VNodePoolCR) (hcr : x.state.pools.get k = some cr)
    (hvalid : (crToPoolModel cr).validate = .ok ()) :
    cr.deletionTimestamp.isSome ∧
      ∀ p ∈ x.state.hostPods.items, p.spec.ns = k.ns →
        matchesLabels (PodExecution.ownerLabels k.name) p.spec.labels = true →
        p.spec.deleting = true := by
  obtain ⟨hdeleting, hempty⟩ := Controller.idle_of_reachable settles_podSync trivial hreach
    hidle.1 hidle.2 cr hcr hvalid
  refine ⟨hdeleting, ?_⟩
  intro p hp hns hlabels
  by_contra hlive
  have hmem : p.key ∈ remaining k x.state :=
    ⟨p, hp, rfl, hns, hlabels, Bool.not_eq_true _ ▸ hlive⟩
  rw [hempty] at hmem
  exact hmem

theorem leavingPool_idle_after_cleanup :
    ∃ x, Controller.Reachable (podSync Env.plain ⟨""⟩ Pools.leavingPool.key)
        Pools.leavingCluster x ∧
      (x.running = none ∧ x.queued = false) ∧
      x.state.pools.get Pools.leavingPool.key = some Pools.leavingPool ∧
      Pools.leavingPool.deletionTimestamp.isSome ∧
      ∀ p ∈ x.state.hostPods.items, p.spec.ns = Pools.leavingPool.key.ns →
        matchesLabels (PodExecution.ownerLabels Pools.leavingPool.key.name) p.spec.labels = true →
        p.spec.deleting = true := by
  have hrun : ∃ x, Controller.Reachable (podSync Env.plain ⟨""⟩ Pools.leavingPool.key)
        Pools.leavingCluster x ∧
      (x.running = none ∧ x.queued = false) ∧
      x.state.pools.get Pools.leavingPool.key = some Pools.leavingPool :=
    ⟨_, .step (.step (.step (.step (.step .start .start) .call) .call) .call) .finish,
      ⟨rfl, by decide⟩, by decide⟩
  obtain ⟨x, hreach, hidle, hpool⟩ := hrun
  exact ⟨x, hreach, hidle, hpool, podSync_idle_only_after_cleanup Env.plain ⟨""⟩
    Pools.leavingPool.key Pools.leavingCluster x hreach hidle Pools.leavingPool hpool rfl⟩

end VNodeOperator.Operator
