import VNodeOperator.ProofSupport.Upsert
import VNodeOperator.Reconciler.PodSync

/-!
# The conditions of a pool

A condition is what the first entry of its type says.  Setting one leaves the
conditions of the other types alone.  Both controllers write the conditions in the
same three calls (`StatusUpdate`).
-/

namespace VNodeOperator.Pools

open Model Kube Ports ProofSupport Reconciler

abbrev Setting := ConditionStatus × String × String

def PoolCondition.setting (c : PoolCondition) : Setting := (c.status, c.reason, c.message)

def settingOf (type : String) (conditions : List PoolCondition) : Option Setting :=
  (conditions.find? fun c => c.type = type).map PoolCondition.setting

/-- What a call makes of the condition it finds: one that says the same already keeps its
transition time. -/
def revised (now : Int) (setting : Setting) (c : PoolCondition) : PoolCondition :=
  if PoolCondition.setting c = setting then c
  else ⟨c.type, setting.1, setting.2.1, setting.2.2, now⟩

def appended (now : Int) (type : String) (setting : Setting) : PoolCondition :=
  ⟨type, setting.1, setting.2.1, setting.2.2, now⟩

theorem revised_type (now : Int) (setting : Setting) (c : PoolCondition) :
    (revised now setting c).type = c.type := by
  unfold revised
  split <;> rfl

theorem appended_type (now : Int) (type : String) (setting : Setting) :
    (appended now type setting).type = type := rfl

theorem setting_revised (now : Int) (setting : Setting) (c : PoolCondition) :
    PoolCondition.setting (revised now setting c) = setting := by
  unfold revised
  split
  · next hsame => exact hsame
  · rfl

section

variable {now : Int} {conditions : List PoolCondition} {type : String}
  {status : ConditionStatus} {reason message : String}

theorem revised_cons (c : PoolCondition) (rest : List PoolCondition) :
    (if c.status = status ∧ c.reason = reason ∧ c.message = message then c :: rest
      else ⟨c.type, status, reason, message, now⟩ :: rest) =
      revised now (status, reason, message) c :: rest := by
  simp only [revised, PoolCondition.setting, Prod.mk.injEq]
  split <;> rfl

theorem setStatusCondition_eq_upsert :
    setStatusCondition now conditions type status reason message =
      upsert PoolCondition.type type (revised now (status, reason, message))
        (appended now type (status, reason, message)) conditions := by
  induction conditions with
  | nil => rfl
  | cons c rest ih =>
      rw [setStatusCondition, upsert, ih]
      by_cases htype : c.type = type
      · rw [if_neg (not_not.mpr htype), if_pos htype, revised_cons]
      · rw [if_pos htype, if_neg htype]

theorem setPodSyncCondition_eq_upsert :
    PodSync.setPodSyncCondition now conditions type status reason message =
      upsert PoolCondition.type type (revised now (status, reason, message))
        (appended now type (status, reason, message)) conditions := by
  induction conditions with
  | nil => rfl
  | cons c rest ih =>
      rw [PodSync.setPodSyncCondition, upsert, ih]
      by_cases htype : c.type = type
      · rw [if_neg (not_not.mpr htype), if_pos htype, revised_cons]
      · rw [if_pos htype, if_neg htype]

theorem setPodSyncCondition_eq :
    PodSync.setPodSyncCondition now conditions type status reason message =
      setStatusCondition now conditions type status reason message := by
  rw [setPodSyncCondition_eq_upsert, setStatusCondition_eq_upsert]

theorem settingOf_set_self :
    settingOf type (setStatusCondition now conditions type status reason message) =
      some (status, reason, message) := by
  rw [setStatusCondition_eq_upsert, settingOf,
    find?_upsert_self (revised_type _ _) (appended_type _ _ _)]
  cases conditions.find? fun c => c.type = type with
  | none => rfl
  | some c => exact congrArg some (setting_revised now (status, reason, message) c)

theorem settingOf_set_ne {type' : String} (hne : type ≠ type') :
    settingOf type' (setStatusCondition now conditions type status reason message) =
      settingOf type' conditions := by
  rw [setStatusCondition_eq_upsert, settingOf,
    find?_upsert_ne (revised_type _ _) (appended_type _ _ _) hne]
  rfl

end

/-- A patch computed from what is stored writes what it was meant to. -/
theorem mergeStatus_self (base status : VNodePoolStatus) :
    mergeStatus base status base = status := by
  obtain ⟨phase, readyNodes, totalNodes, conditions⟩ := status
  unfold mergeStatus
  congr 1 <;> exact ite_eq_right_iff.mpr id

/-! ## The two writers -/

section

variable (now : Int) (status : VNodePoolStatus)

theorem ready_statusWith (phase : PoolPhase) (ready degraded : ConditionStatus)
    (reason readyMessage degradedMessage : String) :
    settingOf "Ready" (VNodePool.statusWith phase ready degraded reason readyMessage
      degradedMessage now status).conditions = some (ready, reason, readyMessage) := by
  rw [VNodePool.statusWith, settingOf_set_ne (by decide), settingOf_set_self]

theorem degraded_statusWith (phase : PoolPhase) (ready degraded : ConditionStatus)
    (reason readyMessage degradedMessage : String) :
    settingOf "Degraded" (VNodePool.statusWith phase ready degraded reason readyMessage
      degradedMessage now status).conditions = some (degraded, reason, degradedMessage) := by
  rw [VNodePool.statusWith, settingOf_set_self]

theorem podExecutionReady_statusWith (phase : PoolPhase) (ready degraded : ConditionStatus)
    (reason readyMessage degradedMessage : String) :
    settingOf "PodExecutionReady" (VNodePool.statusWith phase ready degraded reason readyMessage
      degradedMessage now status).conditions =
      settingOf "PodExecutionReady" status.conditions := by
  rw [VNodePool.statusWith, settingOf_set_ne (by decide), settingOf_set_ne (by decide)]

theorem podExecutionReady_executionStatus (ready degraded : ConditionStatus)
    (reason message : String) :
    settingOf "PodExecutionReady" (PodSync.executionStatus ready degraded reason message now
      status).conditions = some (ready, reason, message) := by
  rw [PodSync.executionStatus, setPodSyncCondition_eq, settingOf_set_ne (by decide),
    setPodSyncCondition_eq, settingOf_set_self]

theorem degraded_executionStatus (ready degraded : ConditionStatus) (reason message : String) :
    settingOf "Degraded" (PodSync.executionStatus ready degraded reason message now
      status).conditions = some (degraded, reason, message) := by
  rw [PodSync.executionStatus, setPodSyncCondition_eq, settingOf_set_self]

theorem ready_executionStatus (ready degraded : ConditionStatus) (reason message : String) :
    settingOf "Ready" (PodSync.executionStatus ready degraded reason message now
      status).conditions = settingOf "Ready" status.conditions := by
  rw [PodSync.executionStatus, setPodSyncCondition_eq, settingOf_set_ne (by decide),
    setPodSyncCondition_eq, settingOf_set_ne (by decide)]

end

/-! ## Writing a status -/

/-- The program reads the pool and the clock, computes a status and patches the pool
unless that is the one it read; calls that fail are left open. -/
def StatusUpdate (k : ObjKey) (mutate : Int → VNodePoolStatus → VNodePoolStatus)
    (p : Svc (Except Err Unit)) : Prop :=
  ∃ onRead, p = .call (.getVNodePool k) onRead ∧
    ∀ cr : VNodePoolCR, ∃ onTime, onRead (.ok cr) = .call .now onTime ∧
      ∀ time, (mutate time cr.status = cr.status → onTime (.ok time) = .ret (.ok ())) ∧
        (mutate time cr.status ≠ cr.status → ∃ onPatched,
          onTime (.ok time) =
            .call (.patchVNodePoolStatus k cr.status (mutate time cr.status)) onPatched ∧
          onPatched (.ok ()) = .ret (.ok ()))

theorem statusUpdate_updatePoolStatus (k : ObjKey)
    (mutate : Int → VNodePoolStatus → VNodePoolStatus) :
    StatusUpdate k mutate (VNodePool.updatePoolStatus k mutate) := by
  refine ⟨_, rfl, fun cr => ⟨_, rfl, fun time => ⟨?_, ?_⟩⟩⟩
  · intro hsame
    change Prog.bind (if mutate time cr.status = cr.status then _ else _) _ = _
    rw [if_pos hsame]
    rfl
  · intro hchanged
    change ∃ f, Prog.bind (if mutate time cr.status = cr.status then _ else _) _ = _ ∧ _
    rw [if_neg hchanged]
    exact ⟨_, rfl, rfl⟩

theorem statusUpdate_updateExecutionConditions (k : ObjKey) (ready degraded : ConditionStatus)
    (reason message : String) :
    StatusUpdate k (PodSync.executionStatus ready degraded reason message)
      (PodSync.updateExecutionConditions k ready degraded reason message) := by
  refine ⟨_, rfl, fun cr => ⟨_, rfl, fun time => ⟨?_, ?_⟩⟩⟩
  · intro hsame
    change Prog.bind (if PodSync.executionStatus ready degraded reason message time cr.status =
      cr.status then _ else _) _ = _
    rw [if_pos hsame]
    rfl
  · intro hchanged
    change ∃ f, Prog.bind (if PodSync.executionStatus ready degraded reason message time
      cr.status = cr.status then _ else _) _ = _ ∧ _
    rw [if_neg hchanged]
    exact ⟨_, rfl, rfl⟩

/-! ## A small pool -/

def idlePool : VNodePoolCR where
  name := "web"
  ns := "host"
  tenantRef := { vclusterName := "acme", vclusterNamespace := "acme", kubeconfigSecret := "acme" }

end VNodeOperator.Pools
