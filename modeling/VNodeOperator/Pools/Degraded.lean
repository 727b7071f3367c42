import VNodeOperator.Pools.Conditions
import VNodeOperator.Pools.Finalization

/-!
# Reporting a failing pod execution

The pod controller sets `PodExecutionReady` and `Degraded` from what a pass over
the pods did; the pool controller sets `Ready` and `Degraded` from what scaling
did.  A pool whose pods fail is reported as degraded until the next reconcile of
the pool controller succeeds.
-/

namespace VNodeOperator.Pools

open Model Kube Ports ProofSupport Service Reconciler
open Reconciler.VNodePool (poolFinalizer crToPoolModel updatePoolStatus statusWith statusOf)
open Reconciler.PodSync (executionStatus updateExecutionConditions)

def onPoolResource : Call → Bool
  | .getVNodePool _ | .updateVNodePool _ | .patchVNodePoolStatus _ _ _ | .now => true
  | _ => false

/-- The pool resource is served as it should be; all other calls, which leave pool
resources alone, may end in any way, as `τ` has it. -/
structure AnyOutcomes (env : Env) {τ : Type} (h : Handler Call Call.Reply (Cluster × τ)) :
    Prop where
  reply : ∀ c s, onPoolResource c → (h c s).1 = (handle env c s.1).1
  after : ∀ c s, onPoolResource c → (h c s).2.1 = (handle env c s.1).2
  others : ∀ c s, onPoolResource c = false → (h c s).2.1.pools = s.1.pools

inductive Controller where
  | pool
  | pods (translator : PodService)

def Controller.reconcile (k : ObjKey) : Controller → Svc (Result × Option Err)
  | .pool => Reconciler.VNodePool.reconcile k
  | .pods translator => PodSync.reconcile translator k

section

variable {env : Env} {τ : Type} {h : Handler Call Call.Reply (Cluster × τ)} {k : ObjKey}
  {cr : VNodePoolCR} {s : Cluster × τ}

def StatusIs (k : ObjKey) (cr : VNodePoolCR) (status : VNodePoolStatus) (s : Cluster × τ) : Prop :=
  ∃ cr', s.1.pools.get k = some cr' ∧ SameSpec cr cr' ∧ cr'.status = status

theorem AnyOutcomes.get (hh : AnyOutcomes env h) (hcr : s.1.pools.get k = some cr) :
    (h (.getVNodePool k) s).1 = .ok cr ∧ (h (.getVNodePool k) s).2.1 = s.1 := by
  have hcall : handle env (.getVNodePool k) s.1 = (.ok cr, s.1) := by
    simp only [handle, find_some _ _ hcr]
  rw [hh.reply _ s rfl, hh.after _ s rfl, hcall]
  exact ⟨rfl, rfl⟩

theorem AnyOutcomes.patch (hh : AnyOutcomes env h) (hcr : s.1.pools.get k = some cr)
    (status : VNodePoolStatus) :
    (h (.patchVNodePoolStatus k cr.status status) s).1 = .ok () ∧
      StatusIs k cr status (h (.patchVNodePoolStatus k cr.status status) s).2 := by
  have hkey : cr.key = k := Store.key_of_get hcr
  have hcall : handle env (.patchVNodePoolStatus k cr.status status) s.1 = (.ok (), s.1.putPool
      { cr with resourceVersion := cr.resourceVersion + 1, status := status }) := by
    simp only [handle, hcr, mergeStatus_self]
  refine ⟨?_, { cr with resourceVersion := cr.resourceVersion + 1, status := status }, ?_, rfl, rfl⟩
  · rw [hh.reply _ s rfl, hcall]
  · rw [hh.after _ s rfl, hcall, ← hkey]
    exact Store.get_put_self _ _

theorem AnyOutcomes.run_statusUpdate (hh : AnyOutcomes env h) (hcr : s.1.pools.get k = some cr)
    {mutate : Int → VNodePoolStatus → VNodePoolStatus} {p : Svc (Except Err Unit)}
    (hp : StatusUpdate k mutate p) :
    ∃ s', p.run h s = (.ok (), s') ∧ StatusIs k cr (mutate s.1.clock cr.status) s' := by
  obtain ⟨onRead, rfl, hread⟩ := hp
  obtain ⟨onTime, hnow, htime⟩ := hread cr
  obtain ⟨hreply, hafter⟩ := hh.get hcr
  have hclock : h .now (h (.getVNodePool k) s).2 = (.ok s.1.clock, (h .now
      (h (.getVNodePool k) s).2).2) := by
    refine Prod.ext ?_ rfl
    rw [hh.reply _ _ rfl, hafter]
    rfl
  generalize hs₂ : (h .now (h (.getVNodePool k) s).2).2 = s₂ at hclock
  have hcr₂ : s₂.1.pools.get k = some cr := by
    rw [← hs₂, hh.after _ _ rfl, hafter]
    exact hcr
  have hrun : (Prog.call (.getVNodePool k) onRead : Svc (Except Err Unit)).run h s =
      (onTime (.ok s.1.clock)).run h s₂ := by
    rw [Prog.run, hreply, hnow, Prog.run, hclock]
  by_cases hsame : mutate s.1.clock cr.status = cr.status
  · rw [(htime _).1 hsame] at hrun
    exact ⟨s₂, hrun, cr, hcr₂, rfl, hsame.symm⟩
  · obtain ⟨onPatched, hpatch, hdone⟩ := (htime s.1.clock).2 hsame
    obtain ⟨hwritten, hstatus⟩ := hh.patch hcr₂ (mutate s.1.clock cr.status)
    refine ⟨_, hrun.trans ?_, hstatus⟩
    rw [hpatch, Prog.run, hwritten, hdone]
    rfl

theorem AnyOutcomes.pools_of_uses (hh : AnyOutcomes env h) {α : Type} {p : Svc α}
    (hp : Prog.Uses (fun c => onPoolResource c = false) p) (s : Cluster × τ) :
    (p.run h s).2.1.pools = s.1.pools := by
  refine hp.invariant (I := fun s' : Cluster × τ => s'.1.pools = s.1.pools) ?_ rfl
  intro c s' hc hs'
  rw [hh.others c s' hc, hs']

/-! ## One reconcile -/

inductive PoolReconciled (status status' : VNodePoolStatus) : Option Err → Prop
  | failed (now : Int) (msg : String) (err : Err)
      (h : status' = statusWith .failed .false .true "ReconcileFailed" msg msg now status) :
      PoolReconciled status status' (some err)
  | done (now : Int) (result : Model.VNodePool) (hresult : result.phase ≠ .failed)
      (h : status' = statusOf result now status) : PoolReconciled status status' none

inductive PodsReconciled (status status' : VNodePoolStatus) : Prop
  | skipped (h : status' = status)
  | failed (now : Int) (message : String)
      (h : status' = executionStatus .false .true "PodExecutionFailed" message now status)
  | done (now : Int) (message : String)
      (h : status' = executionStatus .true .false "PodExecutionReady" message now status)

structure Live (cr : VNodePoolCR) : Prop where
  deletionTimestamp : cr.deletionTimestamp = none
  validate : (crToPoolModel cr).validate = .ok ()

theorem Live.of_sameSpec {cr' : VNodePoolCR} (hlive : Live cr) (hspec : SameSpec cr cr') :
    Live cr' :=
  ⟨hspec.deletionTimestamp.trans hlive.deletionTimestamp,
    hspec.validate.trans hlive.validate⟩

theorem SameSpec.trans {cr₁ cr₂ cr₃ : VNodePoolCR} (h : SameSpec cr₁ cr₂)
    (h' : SameSpec cr₂ cr₃) : SameSpec cr₁ cr₃ := by
  unfold SameSpec at *
  rw [h', h]

theorem AnyOutcomes.run_reconcileLive (hh : AnyOutcomes env h) (hcr : s.1.pools.get k = some cr)
    {cr₁ : VNodePoolCR} (hlive : Live cr₁) (hkey : cr₁.key = k) :
    ∃ status', StatusIs k cr status' ((Reconciler.VNodePool.reconcileLive cr₁).run h s).2 ∧
      PoolReconciled cr.status status'
        ((Reconciler.VNodePool.reconcileLive cr₁).run h s).1.2 := by
  have huses : Prog.Uses (fun c => onPoolResource c = false)
      (PoolService.reconcile (crToPoolModel cr₁)) :=
    (uses_reconcilePool _).mono fun c hc => by cases c <;> first | rfl | cases hc
  have hpools := hh.pools_of_uses huses s
  have hphase := (PoolService.returns_reconcile (crToPoolModel cr₁)).run h s
  unfold Reconciler.VNodePool.reconcileLive
  dsimp only
  rw [hlive.validate]
  dsimp only
  rw [Prog.run_bind, hkey]
  generalize (PoolService.reconcile (crToPoolModel cr₁)).run h s = r at hpools hphase
  obtain ⟨⟨result, err⟩, s₁⟩ := r
  have hcr₁ : s₁.1.pools.get k = some cr := by
    rw [hpools]
    exact hcr
  cases err with
  | some err =>
      obtain ⟨s', hrun, hstatus⟩ := hh.run_statusUpdate hcr₁ (statusUpdate_updatePoolStatus k
        (statusWith .failed .false .true "ReconcileFailed" err.msg err.msg))
      dsimp only
      rw [Prog.run_bind, hrun]
      exact ⟨_, hstatus, .failed _ _ _ rfl⟩
  | none =>
      obtain ⟨s', hrun, hstatus⟩ := hh.run_statusUpdate hcr₁
        (statusUpdate_updatePoolStatus k (statusOf result))
      dsimp only
      rw [Prog.run_bind, hrun]
      exact ⟨_, hstatus, .done _ result (hphase rfl) rfl⟩

def withFinalizer (cr : VNodePoolCR) : VNodePoolCR :=
  { cr with finalizers := cr.finalizers ++ [poolFinalizer] }

theorem AnyOutcomes.addFinalizer (hh : AnyOutcomes env h) (hcr : s.1.pools.get k = some cr)
    (hlive : cr.deletionTimestamp = none) :
    (h (.updateVNodePool (withFinalizer cr)) s).1 = .ok () ∧
      ∃ cr', (h (.updateVNodePool (withFinalizer cr)) s).2.1.pools.get k = some cr' ∧
        SameSpec cr cr' ∧ cr'.status = cr.status := by
  have hkey : cr.key = k := Store.key_of_get hcr
  have hget : s.1.pools.get (withFinalizer cr).key = some cr := by
    rw [← hkey] at hcr
    exact hcr
  have hcall : handle env (.updateVNodePool (withFinalizer cr)) s.1 = (.ok (), s.1.putPool
      { withFinalizer cr with resourceVersion := cr.resourceVersion + 1 }) := by
    have hkept : s.1.updatePool cr (withFinalizer cr) = s.1.putPool
        { withFinalizer cr with resourceVersion := cr.resourceVersion + 1 } := by
      unfold Cluster.updatePool
      rw [if_neg (by simp [hlive])]
      rfl
    have hversion : ¬ (withFinalizer cr).resourceVersion ≠ cr.resourceVersion := fun hne => hne rfl
    simp only [handle, hget, if_neg hversion, hkept]
  refine ⟨?_, { withFinalizer cr with resourceVersion := cr.resourceVersion + 1 }, ?_, rfl, rfl⟩
  · rw [hh.reply _ s rfl, hcall]
  · rw [hh.after _ s rfl, hcall, ← hkey]
    exact Store.get_put_self _ _

theorem AnyOutcomes.run_poolReconcile (hh : AnyOutcomes env h) (hcr : s.1.pools.get k = some cr)
    (hlive : Live cr) :
    ∃ status', StatusIs k cr status' ((Reconciler.VNodePool.reconcile k).run h s).2 ∧
      PoolReconciled cr.status status' ((Reconciler.VNodePool.reconcile k).run h s).1.2 := by
  obtain ⟨hreply, hafter⟩ := hh.get hcr
  have hkey : cr.key = k := Store.key_of_get hcr
  have hcr₁ : (h (.getVNodePool k) s).2.1.pools.get k = some cr := by
    rw [hafter]
    exact hcr
  unfold Reconciler.VNodePool.reconcile
  rw [Prog.run_bind, ask, Prog.run_perform, hreply]
  dsimp only
  have hnot : ¬ cr.deletionTimestamp.isSome = true := by simp [hlive.deletionTimestamp]
  rw [if_neg hnot]
  by_cases hfinalizer : poolFinalizer ∈ cr.finalizers
  · rw [if_pos hfinalizer]
    exact hh.run_reconcileLive hcr₁ hlive hkey
  · rw [if_neg hfinalizer]
    -- the finalizer is added first, and the status stays
    obtain ⟨hupdated, cr₂, hcr₂, hspec, hstatus⟩ := hh.addFinalizer hcr₁ hlive.deletionTimestamp
    unfold withFinalizer at hupdated hcr₂
    rw [Prog.run_bind, ask, Prog.run_perform, hupdated]
    dsimp only
    have hlive' : Live (withFinalizer cr) := ⟨hlive.1, hlive.2⟩
    obtain ⟨status', ⟨cr₃, hcr₃, hspec₃, hstatus₃⟩, hdone⟩ :=
      hh.run_reconcileLive hcr₂ hlive' hkey
    rw [hstatus] at hdone
    exact ⟨status', ⟨cr₃, hcr₃, hspec.trans hspec₃, hstatus₃⟩, hdone⟩

theorem AnyOutcomes.run_podsReconcile (hh : AnyOutcomes env h) (hcr : s.1.pools.get k = some cr)
    (hlive : Live cr) (translator : PodService) :
    ∃ status', StatusIs k cr status' ((PodSync.reconcile translator k).run h s).2 ∧
      PodsReconciled cr.status status' := by
  obtain ⟨hreply, hafter⟩ := hh.get hcr
  have hkey : cr.key = k := Store.key_of_get hcr
  have huses : Prog.Uses (fun c => onPoolResource c = false)
      (PodExecution.reconcilePool translator (crToPoolModel cr)) :=
    (PodExecution.uses_reconcilePool _ _).mono fun c hc => by cases c <;> first | rfl | cases hc
  have hpools := hh.pools_of_uses huses (h (.getVNodePool k) s).2
  rw [hafter] at hpools
  unfold PodSync.reconcile
  rw [Prog.run_bind, ask, Prog.run_perform, hreply]
  dsimp only
  rw [hlive.validate, hlive.deletionTimestamp, hkey]
  simp only [Option.isSome_none, Bool.false_eq_true, if_false]
  split
  · refine ⟨cr.status, ⟨cr, ?_, rfl, rfl⟩, .skipped rfl⟩
    rw [Prog.run_pure, hafter]
    exact hcr
  · unfold PodSync.execute
    rw [Prog.run_bind]
    generalize (PodExecution.reconcilePool translator (crToPoolModel cr)).run h
      (h (.getVNodePool k) s).2 = r at hpools
    obtain ⟨⟨result, err⟩, s₁⟩ := r
    have hcr₁ : s₁.1.pools.get k = some cr := by
      rw [hpools]
      exact hcr
    cases err with
    | some err =>
        dsimp only
        split
        · exact ⟨cr.status, ⟨cr, hcr₁, rfl, rfl⟩, .skipped rfl⟩
        · obtain ⟨s', hrun, hstatus⟩ := hh.run_statusUpdate hcr₁
            (statusUpdate_updateExecutionConditions k .false .true "PodExecutionFailed" err.msg)
          rw [Prog.run_bind, hrun]
          exact ⟨_, hstatus, .failed _ _ rfl⟩
    | none =>
        obtain ⟨s', hrun, hstatus⟩ := hh.run_statusUpdate hcr₁
          (statusUpdate_updateExecutionConditions k .true .false "PodExecutionReady"
            ("Processed " ++ toString result.sourcePods ++ " tenant pods"))
        dsimp only
        rw [Prog.run_bind, hrun]
        exact ⟨_, hstatus, .done _ _ rfl⟩

/-! ## Runs -/

def ConditionIs (type : String) (status : ConditionStatus) (st : VNodePoolStatus) : Prop :=
  (settingOf type st.conditions).map Prod.fst = some status

def Reported (st : VNodePoolStatus) : Prop :=
  ConditionIs "PodExecutionReady" .false st → ConditionIs "Degraded" .true st

theorem PodsReconciled.reported {st st' : VNodePoolStatus} (hst : PodsReconciled st st')
    (hreported : Reported st) : Reported st' := by
  cases hst with
  | skipped h =>
      rw [h]
      exact hreported
  | failed now message h =>
      intro _
      rw [ConditionIs, h, degraded_executionStatus]
      rfl
  | done now message h =>
      intro hready
      rw [ConditionIs, h, podExecutionReady_executionStatus] at hready
      cases hready

/-- A reconcile of the pool controller that succeeds reports a failing pod execution
only if there is none. -/
theorem PoolReconciled.reported_iff {st st' : VNodePoolStatus} {err : Option Err}
    (hst : PoolReconciled st st' err) :
    Reported st' ↔ (err = none → ¬ ConditionIs "PodExecutionReady" .false st) := by
  cases hst with
  | failed now msg err h =>
      have hreported : Reported st' := by
        intro _
        rw [ConditionIs, h, degraded_statusWith]
        rfl
      exact ⟨fun _ => nofun, fun _ => hreported⟩
  | done now result hresult h =>
      have hdegraded : ¬ ConditionIs "Degraded" .true st' := by
        rw [ConditionIs, h, statusOf, degraded_statusWith]
        simp [conditionStatus, hresult]
      have hready : ConditionIs "PodExecutionReady" .false st' ↔
          ConditionIs "PodExecutionReady" .false st := by
        rw [ConditionIs, h, statusOf, podExecutionReady_statusWith]
        exact Iff.rfl
      rw [Reported, hready]
      exact ⟨fun h _ hfalse => hdegraded (h hfalse), fun h hfalse => absurd hfalse (h rfl)⟩

def StatusSatisfies (k : ObjKey) (P : VNodePoolStatus → Prop) (s : Cluster × τ) : Prop :=
  ∀ cr, s.1.pools.get k = some cr → P cr.status

def afterReconcile (h : Handler Call Call.Reply (Cluster × τ)) (k : ObjKey) (c : Controller)
    (s : Cluster × τ) : Cluster × τ :=
  ((c.reconcile k).run h s).2

def AfterEach (h : Handler Call Call.Reply (Cluster × τ)) (k : ObjKey) (P : Cluster × τ → Prop) :
    List Controller → Cluster × τ → Prop
  | [], _ => True
  | c :: rest, s => P (afterReconcile h k c s) ∧ AfterEach h k P rest (afterReconcile h k c s)

/-- Every reconcile of the pool controller in a run that returns nil finds
`PodExecutionReady` not false. -/
def SucceedsOnlyHealthy (h : Handler Call Call.Reply (Cluster × τ)) (k : ObjKey) :
    List Controller → Cluster × τ → Prop
  | [], _ => True
  | c :: rest, s =>
      (c = .pool → ((c.reconcile k).run h s).1.2 = none →
        StatusSatisfies k (fun st => ¬ ConditionIs "PodExecutionReady" .false st) s) ∧
      SucceedsOnlyHealthy h k rest (afterReconcile h k c s)

theorem statusSatisfies_iff {P : VNodePoolStatus → Prop} (hcr : s.1.pools.get k = some cr) :
    StatusSatisfies k P s ↔ P cr.status := by
  constructor
  · exact fun hP => hP cr hcr
  · intro hP cr' hcr'
    rw [hcr, Option.some.injEq] at hcr'
    exact hcr' ▸ hP

/-- One reconcile of either controller: the pool stays live, and whether a failing
pod execution is reported afterwards. -/
theorem AnyOutcomes.reconcile_reported_iff (hh : AnyOutcomes env h)
    (hcr : s.1.pools.get k = some cr) (hlive : Live cr) (hreported : Reported cr.status)
    (c : Controller) :
    (∃ cr', (afterReconcile h k c s).1.pools.get k = some cr' ∧ Live cr') ∧
      (StatusSatisfies k Reported (afterReconcile h k c s) ↔
        (c = .pool → ((c.reconcile k).run h s).1.2 = none →
          StatusSatisfies k (fun st => ¬ ConditionIs "PodExecutionReady" .false st) s)) := by
  rw [statusSatisfies_iff hcr]
  cases c with
  | pool =>
      obtain ⟨status', ⟨cr', hcr', hspec, rfl⟩, hdone⟩ := hh.run_poolReconcile hcr hlive
      change (afterReconcile h k .pool s).1.pools.get k = some cr' at hcr'
      refine ⟨⟨cr', hcr', hlive.of_sameSpec hspec⟩, ?_⟩
      rw [statusSatisfies_iff hcr', hdone.reported_iff]
      exact ⟨fun h _ => h, fun h => h rfl⟩
  | pods translator =>
      obtain ⟨status', ⟨cr', hcr', hspec, rfl⟩, hdone⟩ :=
        hh.run_podsReconcile hcr hlive translator
      change (afterReconcile h k (.pods translator) s).1.pools.get k = some cr' at hcr'
      refine ⟨⟨cr', hcr', hlive.of_sameSpec hspec⟩, ?_⟩
      rw [statusSatisfies_iff hcr']
      exact ⟨fun _ => nofun, fun _ => hdone.reported hreported⟩

end

/-- In a run of complete reconciles of a live pool, with any outcomes of the other
calls, a failing pod execution is reported as degraded after every reconcile exactly
when no reconcile of the pool controller succeeds while pod execution is failing. -/
theorem degraded_reported_iff {τ : Type} (env : Env)
    (h : Handler Call Call.Reply (Cluster × τ)) (hh : AnyOutcomes env h) (k : ObjKey)
    (run : List Controller) (s : Cluster × τ) (cr : VNodePoolCR)
    (hcr : s.1.pools.get k = some cr) (hlive : Live cr) (hreported : Reported cr.status) :
    AfterEach h k (StatusSatisfies k Reported) run s ↔ SucceedsOnlyHealthy h k run s := by
  induction run generalizing s cr with
  | nil => exact Iff.rfl
  | cons c rest ih =>
      obtain ⟨⟨cr', hcr', hlive'⟩, hiff⟩ := hh.reconcile_reported_iff hcr hlive hreported c
      rw [AfterEach, SucceedsOnlyHealthy, ← hiff]
      apply and_congr_right
      intro hafter
      exact ih (afterReconcile h k c s) cr' hcr' hlive' ((statusSatisfies_iff hcr').mp hafter)

/-! ### A run that reports, and one that does not -/

def asServed (env : Env) : Handler Call Call.Reply (Cluster × Unit) := fun c s =>
  ((handle env c s.1).1, (handle env c s.1).2, ())

theorem anyOutcomes_asServed (env : Env) : AnyOutcomes env (asServed env) where
  reply _ _ _ := rfl
  after _ _ _ := rfl
  others c s hc := by
    refine handle_pools env s.1 ?_
    cases c <;> first | rfl | cases hc

def unreachable : Env :=
  { Env.plain with connect := fun _ => .error ⟨.other, "connection refused"⟩ }

def idleCluster : Cluster × Unit :=
  ({ tenants := fun _ => {}, pools := Store.empty.put idlePool }, ())

theorem idlePool_reported :
    AfterEach (asServed unreachable) idlePool.key (StatusSatisfies idlePool.key Reported)
      [.pool, .pods ⟨""⟩, .pods ⟨""⟩] idleCluster := by
  refine (degraded_reported_iff unreachable _ (anyOutcomes_asServed unreachable) idlePool.key _
    idleCluster idlePool (by decide) ⟨rfl, by decide⟩ (by unfold Reported ConditionIs; decide)).mpr
    ⟨?_, nofun, nofun, trivial⟩
  intro _ _ cr hcr
  cases hcr
  unfold ConditionIs
  decide

/-- The pool controller takes back what the pod controller reported. -/
theorem idlePool_not_reported :
    ¬ AfterEach (asServed unreachable) idlePool.key (StatusSatisfies idlePool.key Reported)
      [.pods ⟨""⟩, .pool] idleCluster := by
  rintro ⟨_, hafter, _⟩
  have hdegraded := hafter _ rfl (by unfold ConditionIs; decide)
  revert hdegraded
  unfold ConditionIs
  decide

end VNodeOperator.Pools
