import VNodeOperator.Pools.Conditions
import VNodeOperator.ProofSupport.Threads

/-!
# Two writers of one list of conditions

Both controllers read the pool, change their conditions and patch the status.  A
merge patch carries the whole list of conditions and no resource version, so a
patch that is computed from an older list takes the other controller's condition
back to what it was.
-/

namespace VNodeOperator.Pools

open Model Kube Ports ProofSupport Reconciler
open Reconciler.VNodePool (updatePoolStatus statusWith statusOf)
open Reconciler.PodSync (executionStatus updateExecutionConditions)

/-! ## The writers -/

inductive PoolUpdate where
  | validationFailed (msg : String)
  | reconcileFailed (msg : String)
  | reconciled (result : Model.VNodePool)
  | deleting

def PoolUpdate.mutate : PoolUpdate → Int → VNodePoolStatus → VNodePoolStatus
  | .validationFailed msg => statusWith .failed .false .true "ValidationFailed" msg msg
  | .reconcileFailed msg => statusWith .failed .false .true "ReconcileFailed" msg msg
  | .reconciled result => statusOf result
  | .deleting =>
      statusWith .deleting .false .false "Deleting" "Pool is being deleted"
        "Pool cleanup in progress"

def PoolUpdate.ready : PoolUpdate → Setting
  | .validationFailed msg => (.false, "ValidationFailed", msg)
  | .reconcileFailed msg => (.false, "ReconcileFailed", msg)
  | .reconciled result =>
      (conditionStatus (result.phase = .ready), phaseReason result.phase,
        toString result.readyNodes ++ "/" ++ toString result.nodeCount ++ " virtual nodes ready")
  | .deleting => (.false, "Deleting", "Pool is being deleted")

theorem PoolUpdate.ready_mutate (u : PoolUpdate) (now : Int) (st : VNodePoolStatus) :
    settingOf "Ready" (u.mutate now st).conditions = some u.ready := by
  cases u with
  | reconciled result =>
      show settingOf "Ready" (statusOf result now st).conditions = _
      rw [statusOf, ready_statusWith]
      rfl
  | _ => exact ready_statusWith now st _ _ _ _ _ _

theorem PoolUpdate.podExecutionReady_mutate (u : PoolUpdate) (now : Int) (st : VNodePoolStatus) :
    settingOf "PodExecutionReady" (u.mutate now st).conditions =
      settingOf "PodExecutionReady" st.conditions := by
  cases u with
  | reconciled result =>
      show settingOf _ (statusOf result now st).conditions = _
      rw [statusOf, podExecutionReady_statusWith]
  | _ => exact podExecutionReady_statusWith now st _ _ _ _ _ _

structure PodsUpdate where
  podExecutionReady : ConditionStatus
  degraded : ConditionStatus
  reason : String
  message : String

def PodsUpdate.mutate (u : PodsUpdate) : Int → VNodePoolStatus → VNodePoolStatus :=
  executionStatus u.podExecutionReady u.degraded u.reason u.message

inductive Updater where
  | pool
  | pods
  deriving DecidableEq

def Updater.other : Updater → Updater
  | .pool => .pods
  | .pods => .pool

def Updater.condition : Updater → String
  | .pool => "Ready"
  | .pods => "PodExecutionReady"

def Updater.shown (i : Updater) (st : VNodePoolStatus) : Option Setting :=
  settingOf i.condition st.conditions

structure Updates where
  pool : PoolUpdate
  pods : PodsUpdate

namespace Updates

variable (u : Updates)

def change : Updater → Int → VNodePoolStatus → VNodePoolStatus
  | .pool => u.pool.mutate
  | .pods => u.pods.mutate

def setting : Updater → Setting
  | .pool => u.pool.ready
  | .pods => (u.pods.podExecutionReady, u.pods.reason, u.pods.message)

def program (k : ObjKey) : Updater → Svc (Except Err Unit)
  | .pool => updatePoolStatus k u.pool.mutate
  | .pods =>
      updateExecutionConditions k u.pods.podExecutionReady u.pods.degraded u.pods.reason
        u.pods.message

theorem shown_change (i : Updater) (now : Int) (st : VNodePoolStatus) :
    i.shown (u.change i now st) = some (u.setting i) := by
  cases i with
  | pool => exact u.pool.ready_mutate now st
  | pods => exact podExecutionReady_executionStatus now st _ _ _ _

theorem other_shown_change (i : Updater) (now : Int) (st : VNodePoolStatus) :
    i.other.shown (u.change i now st) = i.other.shown st := by
  cases i with
  | pool => exact u.pool.podExecutionReady_mutate now st
  | pods => exact ready_executionStatus now st _ _ _ _

end Updates

/-! ## Where a writer is -/

/-- How far a writer has come; after its read it works on the status it read. -/
inductive Stage where
  | fresh
  | read (base : VNodePoolStatus)
  | timed (base : VNodePoolStatus)
  | done

def Stage.Holds (stage : Stage) (base : VNodePoolStatus) : Prop :=
  stage = .read base ∨ stage = .timed base

@[simp] theorem Stage.holds_fresh (base : VNodePoolStatus) : ¬ Stage.fresh.Holds base := by
  simp [Stage.Holds]

@[simp] theorem Stage.holds_read (st base : VNodePoolStatus) :
    (Stage.read st).Holds base ↔ st = base := by
  simp [Stage.Holds]

@[simp] theorem Stage.holds_timed (st base : VNodePoolStatus) :
    (Stage.timed st).Holds base ↔ st = base := by
  simp [Stage.Holds]

@[simp] theorem Stage.holds_done (base : VNodePoolStatus) : ¬ Stage.done.Holds base := by
  simp [Stage.Holds]

section

variable (k : ObjKey) (u : Updates) (clock : Int)

def Patching (i : Updater) (base : VNodePoolStatus) (p : Svc (Except Err Unit)) : Prop :=
  ∃ f, p = .call (.patchVNodePoolStatus k base (u.change i clock base)) f ∧
    f (.ok ()) = .ret (.ok ())

/-- The clock is read, and a status that stays as it is is not patched. -/
def Timing (i : Updater) (base : VNodePoolStatus) (p : Svc (Except Err Unit)) : Prop :=
  ∃ f, p = .call .now f ∧ (u.change i clock base = base → f (.ok clock) = .ret (.ok ())) ∧
    (u.change i clock base ≠ base → Patching k u clock i base (f (.ok clock)))

/-- What a writer at a stage still has to do, as long as its calls succeed. -/
def Doing (i : Updater) : Stage → Svc (Except Err Unit) → Prop
  | .fresh, p =>
      ∃ f, p = .call (.getVNodePool k) f ∧ ∀ cr, Timing k u clock i cr.status (f (.ok cr))
  | .read base, p => Timing k u clock i base p
  | .timed base, p => Patching k u clock i base p
  | .done, p => p = .ret (.ok ())

theorem statusUpdate_program (i : Updater) : StatusUpdate k (u.change i) (u.program k i) := by
  cases i with
  | pool => exact statusUpdate_updatePoolStatus k _
  | pods => exact statusUpdate_updateExecutionConditions k _ _ _ _

theorem doing_program (i : Updater) : Doing k u clock i .fresh (u.program k i) := by
  obtain ⟨onRead, hprog, hread⟩ := statusUpdate_program k u i
  refine ⟨onRead, hprog, ?_⟩
  intro cr
  obtain ⟨onTime, hcall, htime⟩ := hread cr
  exact ⟨onTime, hcall, (htime clock).1, (htime clock).2⟩

end

/-! ## What a run has done -/

/-- A patch that replaces the conditions is computed from a status that shows the
other controller's condition as it is stored. -/
def NotStale (x : Updater × Event Call Cluster) : Prop :=
  match x.2.call with
  | .patchVNodePoolStatus k base status => base.conditions ≠ status.conditions →
      ∀ cr, x.2.before.pools.get k = some cr → x.1.other.shown cr.status = x.1.other.shown base
  | _ => True

/-- The state of a race: what the stored status and the writers' copies agree on. -/
structure Race (u : Updates) (stage : Updater → Stage) (st : VNodePoolStatus)
    (log : List (Updater × Event Call Cluster)) : Prop where
  own : ∀ i base, (stage i).Holds base → i.shown st = i.shown base
  other : ∀ i base, (stage i).Holds base → stage i.other ≠ .done →
    i.other.shown st = i.other.shown base
  settled : ∀ i, stage i = .done → stage i.other ≠ .done → i.shown st = some (u.setting i)
  running : ∀ i, stage i ≠ .done → ∀ x ∈ log, NotStale x
  finished : (∀ i, stage i = .done) →
    ((∀ i, i.shown st = some (u.setting i)) ↔ ∀ x ∈ log, NotStale x)

theorem Updater.eq_or_eq_other (i j : Updater) : j = i ∨ j = i.other := by
  cases i <;> cases j <;> simp [Updater.other]

theorem Updater.other_ne (i : Updater) : i.other ≠ i := by
  cases i <;> decide

@[simp] theorem Updater.other_other (i : Updater) : i.other.other = i := by
  cases i <;> rfl

namespace Race

variable {u : Updates} {stage : Updater → Stage} {st : VNodePoolStatus}
  {log : List (Updater × Event Call Cluster)} {i : Updater} {x : Updater × Event Call Cluster}

theorem start (u : Updates) (st : VNodePoolStatus) : Race u (fun _ => .fresh) st [] where
  own _ base h := absurd h (Stage.holds_fresh base)
  other _ base h := absurd h (Stage.holds_fresh base)
  settled _ h := by cases h
  running _ _ _ hx := by cases hx
  finished h := by cases h .pool

theorem goesOn (h : Race u stage st log) (hi : stage i ≠ .done) {next : Stage}
    (hnext : next ≠ .done) (hx : NotStale x)
    (hown : ∀ base, next.Holds base → i.shown st = i.shown base)
    (hother : ∀ base, next.Holds base → stage i.other ≠ .done →
      i.other.shown st = i.other.shown base) :
    Race u (Function.update stage i next) st (log ++ [x]) := by
  have hself : Function.update stage i next i = next := Function.update_self i next stage
  have hrest : Function.update stage i next i.other = stage i.other :=
    Function.update_of_ne i.other_ne next stage
  refine ⟨?_, ?_, ?_, ?_, ?_⟩
  · intro j base hholds
    rcases i.eq_or_eq_other j with rfl | rfl
    · exact hown base (hself ▸ hholds)
    · exact h.own _ base (hrest ▸ hholds)
  · intro j base hholds hnot
    rcases i.eq_or_eq_other j with rfl | rfl
    · exact hother base (hself ▸ hholds) (hrest ▸ hnot)
    · exact h.other _ base (hrest ▸ hholds) (by simpa using hi)
  · intro j hdone hnot
    rcases i.eq_or_eq_other j with rfl | rfl
    · exact absurd (hself.symm.trans hdone) hnext
    · exact h.settled _ (hrest ▸ hdone) (by simpa using hi)
  · intro j _ y hy
    rcases List.mem_append.mp hy with hy | hy
    · exact h.running i hi y hy
    · rw [List.mem_singleton.mp hy]
      exact hx
  · intro hdone
    exact absurd (hself.symm.trans (hdone i)) hnext

theorem reads (h : Race u stage st log) (hi : stage i = .fresh) (hx : NotStale x) :
    Race u (Function.update stage i (.read st)) st (log ++ [x]) := by
  apply h.goesOn (by simp [hi]) (by simp) hx
  · intro base hholds
    rw [(Stage.holds_read st base).mp hholds]
  · intro base hholds _
    rw [(Stage.holds_read st base).mp hholds]

theorem times {base : VNodePoolStatus} (h : Race u stage st log) (hi : stage i = .read base)
    (hx : NotStale x) : Race u (Function.update stage i (.timed base)) st (log ++ [x]) := by
  have hholds : (stage i).Holds base := Or.inl hi
  apply h.goesOn (by simp [hi]) (by simp) hx
  · intro base' hholds'
    rw [← (Stage.holds_timed base base').mp hholds']
    exact h.own i base hholds
  · intro base' hholds' hnot
    rw [← (Stage.holds_timed base base').mp hholds']
    exact h.other i base hholds hnot

theorem finishes (h : Race u stage st log) (hi : stage i ≠ .done) {st' : VNodePoolStatus}
    (hshown : i.shown st' = some (u.setting i))
    (hkept : stage i.other ≠ .done → i.other.shown st' = i.other.shown st ∧ NotStale x)
    (hlast : stage i.other = .done →
      (i.other.shown st' = some (u.setting i.other) ↔ NotStale x)) :
    Race u (Function.update stage i .done) st' (log ++ [x]) := by
  have hself : Function.update stage i .done i = .done := Function.update_self i _ stage
  have hrest : Function.update stage i .done i.other = stage i.other :=
    Function.update_of_ne i.other_ne _ stage
  have hearlier : ∀ y ∈ log, NotStale y := h.running i hi
  have hall : (∀ y ∈ log ++ [x], NotStale y) ↔ NotStale x := by
    constructor
    · exact fun hy => hy x (by simp)
    · intro hx y hy
      rcases List.mem_append.mp hy with hy | hy
      · exact hearlier y hy
      · rw [List.mem_singleton.mp hy]
        exact hx
  refine ⟨?_, ?_, ?_, ?_, ?_⟩
  · intro j base hholds
    rcases i.eq_or_eq_other j with rfl | rfl
    · rw [hself] at hholds
      exact absurd hholds (Stage.holds_done base)
    · rw [hrest] at hholds
      have hnot : stage i.other ≠ .done := by
        intro hdone
        rw [hdone] at hholds
        exact Stage.holds_done base hholds
      exact (hkept hnot).1.trans (h.own _ base hholds)
  · intro j base hholds hnot
    rcases i.eq_or_eq_other j with rfl | rfl
    · rw [hself] at hholds
      exact absurd hholds (Stage.holds_done base)
    · exact absurd (by rw [Updater.other_other, hself]) hnot
  · intro j hdone hnot
    rcases i.eq_or_eq_other j with rfl | rfl
    · exact hshown
    · exact absurd (by rw [Updater.other_other, hself]) hnot
  · intro j hnot
    rcases i.eq_or_eq_other j with rfl | rfl
    · exact absurd hself hnot
    · exact hall.mpr (hkept (hrest ▸ hnot)).2
  · intro hdone
    rw [hall, ← hlast (hrest ▸ hdone i.other)]
    constructor
    · exact fun hboth => hboth i.other
    · intro hother j
      rcases i.eq_or_eq_other j with rfl | rfl
      · exact hshown
      · exact hother

/-- A writer finds that the status it has read already shows its condition. -/
theorem skips {base : VNodePoolStatus} {clock : Int} (h : Race u stage st log)
    (hi : stage i = .read base) (hsame : u.change i clock base = base) (hx : NotStale x) :
    Race u (Function.update stage i .done) st (log ++ [x]) := by
  have hnot : stage i ≠ .done := by simp [hi]
  have hshown := u.shown_change i clock base
  rw [hsame, ← h.own i base (Or.inl hi)] at hshown
  apply h.finishes hnot hshown (fun _ => ⟨rfl, hx⟩)
  intro hdone
  have hsettled := h.settled i.other hdone (by simpa using hnot)
  exact ⟨fun _ => hx, fun _ => hsettled⟩

end Race

theorem shown_mergeStatus (i : Updater) (base status st : VNodePoolStatus) :
    i.shown (mergeStatus base status st) =
      if base.conditions = status.conditions then i.shown st else i.shown status := by
  unfold Updater.shown mergeStatus
  exact apply_ite (settingOf i.condition) _ _ _

theorem Race.patches {u : Updates} {stage : Updater → Stage} {st base : VNodePoolStatus}
    {log : List (Updater × Event Call Cluster)} {i : Updater} (h : Race u stage st log)
    (hi : stage i = .timed base) {k : ObjKey} {w : Cluster} {cr : VNodePoolCR} (clock : Int)
    (hcr : w.pools.get k = some cr) (hst : cr.status = st) :
    Race u (Function.update stage i .done) (mergeStatus base (u.change i clock base) st)
      (log ++ [(i, ⟨.patchVNodePoolStatus k base (u.change i clock base), w⟩)]) := by
  have hholds : (stage i).Holds base := Or.inr hi
  have hown := h.own i base hholds
  have hstale : NotStale (i, ⟨.patchVNodePoolStatus k base (u.change i clock base), w⟩) ↔
      (base.conditions ≠ (u.change i clock base).conditions →
        i.other.shown st = i.other.shown base) := by
    constructor
    · intro hnot hne
      rw [← hst]
      exact hnot hne cr hcr
    · intro hshown hne cr' hcr'
      have hsame : cr' = cr := Option.some.inj (hcr'.symm.trans hcr)
      rw [hsame, hst]
      exact hshown hne
  have hchange := u.shown_change i clock base
  have hother := u.other_shown_change i clock base
  apply h.finishes (by rw [hi]; nofun)
  · rw [shown_mergeStatus]
    split
    · next heq =>
        rw [hown, ← hchange]
        unfold Updater.shown
        rw [heq]
    · exact hchange
  · intro hnot
    have hagree := h.other i base hholds hnot
    refine ⟨?_, hstale.mpr fun _ => hagree⟩
    rw [shown_mergeStatus]
    split
    · rfl
    · rw [hother, hagree]
  · intro hdone
    have hsettled : i.other.shown st = some (u.setting i.other) := by
      apply h.settled _ hdone
      rw [Updater.other_other, hi]
      nofun
    rw [shown_mergeStatus, hstale]
    split
    · next heq => exact ⟨fun _ hne => absurd heq hne, fun _ => hsettled⟩
    · next hne =>
        rw [hother, hsettled]
        exact ⟨fun heq _ => heq.symm, fun heq => (heq hne).symm⟩

/-! ## Runs -/

def updating (u : Updates) (k : ObjKey) (w : Cluster) :
    Threads Call Call.Reply (fun _ : Updater => Except Err Unit) Cluster :=
  ⟨w, u.program k⟩

structure Racing (u : Updates) (k : ObjKey) (clock : Int)
    (log : List (Updater × Event Call Cluster))
    (t : Threads Call Call.Reply (fun _ : Updater => Except Err Unit) Cluster)
    (stage : Updater → Stage) (cr : VNodePoolCR) : Prop where
  doing : ∀ i, Doing k u clock i (stage i) (t.prog i)
  stored : t.shared.pools.get k = some cr
  clock : t.shared.clock = clock
  race : Race u stage cr.status log

namespace Racing

variable {env : Env} {u : Updates} {k : ObjKey} {clock : Int}
  {log log' : List (Updater × Event Call Cluster)}
  {t t' : Threads Call Call.Reply (fun _ : Updater => Except Err Unit) Cluster}
  {stage : Updater → Stage} {cr cr' : VNodePoolCR} {i : Updater}

theorem moves (h : Racing u k clock log t stage cr) (hothers : ∀ j, j ≠ i → t'.prog j = t.prog j)
    (next : Stage) (hnext : Doing k u clock i next (t'.prog i))
    (hstored : t'.shared.pools.get k = some cr') (hclock : t'.shared.clock = clock)
    (hrace : Race u (Function.update stage i next) cr'.status log') :
    Racing u k clock log' t' (Function.update stage i next) cr' := by
  refine ⟨?_, hstored, hclock, hrace⟩
  intro j
  by_cases hj : j = i
  · subst hj
    rw [Function.update_self]
    exact hnext
  · rw [Function.update_of_ne hj, hothers j hj]
    exact h.doing j

theorem step (h : Racing u k clock log t stage cr) {c : Call} {f : c.Reply → Svc (Except Err Unit)}
    (hprog : t.prog i = .call c f) (hstep : t.step (handle env) i = some t') :
    ∃ stage' cr', Racing u k clock (log ++ [(i, ⟨c, t.shared⟩)]) t' stage' cr' := by
  obtain ⟨hshared, hself, hothers⟩ := Threads.step_call hprog hstep
  have hdoing := h.doing i
  cases hstage : stage i with
  | fresh =>
      rw [hstage] at hdoing
      obtain ⟨f', hcall, hnext⟩ := hdoing
      cases hprog.symm.trans hcall
      have hget : handle env (.getVNodePool k) t.shared = (.ok cr, t.shared) := by
        simp only [handle, find_some _ _ h.stored]
      rw [hget] at hshared hself
      exact ⟨_, cr, h.moves hothers (.read cr.status) (hself ▸ hnext cr)
        (hshared ▸ h.stored) (hshared ▸ h.clock) (h.race.reads hstage trivial)⟩
  | read base =>
      rw [hstage] at hdoing
      obtain ⟨f', hcall, hsame, hchanged⟩ := hdoing
      cases hprog.symm.trans hcall
      have hnow : handle env .now t.shared = (.ok clock, t.shared) := by
        simp only [handle, h.clock]
      rw [hnow] at hshared hself
      by_cases hunchanged : u.change i clock base = base
      · exact ⟨_, cr, h.moves hothers .done (hself.trans (hsame hunchanged))
          (hshared ▸ h.stored) (hshared ▸ h.clock) (h.race.skips hstage hunchanged trivial)⟩
      · exact ⟨_, cr, h.moves hothers (.timed base) (hself ▸ hchanged hunchanged)
          (hshared ▸ h.stored) (hshared ▸ h.clock) (h.race.times hstage trivial)⟩
  | timed base =>
      rw [hstage] at hdoing
      obtain ⟨f', hcall, hend⟩ := hdoing
      cases hprog.symm.trans hcall
      have hkey : cr.key = k := Store.key_of_get h.stored
      let patched : VNodePoolCR :=
        { cr with
          resourceVersion := cr.resourceVersion + 1
          status := mergeStatus base (u.change i clock base) cr.status }
      have hpatch : handle env (.patchVNodePoolStatus k base (u.change i clock base)) t.shared =
          (.ok (), t.shared.putPool patched) := by
        simp only [handle, h.stored, patched]
      rw [hpatch] at hshared hself
      have hstored : t'.shared.pools.get k = some patched := by
        rw [hshared, ← hkey]
        exact Store.get_put_self _ patched
      exact ⟨_, patched, h.moves hothers .done (hself.trans hend) hstored
        (hshared ▸ h.clock) (h.race.patches hstage clock h.stored rfl)⟩
  | done =>
      rw [hstage] at hdoing
      cases hprog.symm.trans hdoing

end Racing

/-- The stored conditions are as the two updates set them. -/
def ConditionsKept (u : Updates) (k : ObjKey) (w : Cluster) : Prop :=
  ∃ cr, w.pools.get k = some cr ∧ settingOf "Ready" cr.status.conditions = some (u.setting .pool) ∧
    settingOf "PodExecutionReady" cr.status.conditions = some (u.setting .pods)

def healthyUpdates : Updates where
  pool := .reconciled { name := "web", ns := "host", phase := .ready }
  pods := ⟨.true, .false, "PodExecutionReady", "Processed 0 tenant pods"⟩

def raceCluster : Cluster := { tenants := fun _ => {}, pools := Store.empty.put idlePool }

end VNodeOperator.Pools
