import VNodeOperator.Pools.Conditions

/-!
# Conditions as a finite map

Both controllers keep the conditions of a pool in a list, each with a function
of its own that sets one of them.  Whatever calls are made, and by whichever
function, the list is a finite map from types to conditions.
-/

namespace VNodeOperator.Pools

open Kube ProofSupport Reconciler

inductive Setter where
  | statusCondition
  | podSyncCondition
  deriving DecidableEq, Repr

structure ConditionCall where
  setter : Setter
  now : Int
  type : String
  setting : Setting

def ConditionCall.run (c : ConditionCall) (conditions : List PoolCondition) :
    List PoolCondition :=
  match c.setter with
  | .statusCondition =>
      setStatusCondition c.now conditions c.type c.setting.1 c.setting.2.1 c.setting.2.2
  | .podSyncCondition =>
      PodSync.setPodSyncCondition c.now conditions c.type c.setting.1 c.setting.2.1
        c.setting.2.2

def runCalls (calls : List ConditionCall) (conditions : List PoolCondition) :
    List PoolCondition :=
  calls.foldl (fun conditions c => c.run conditions) conditions

def DistinctTypes (conditions : List PoolCondition) : Prop :=
  (conditions.map PoolCondition.type).Nodup

instance (conditions : List PoolCondition) : Decidable (DistinctTypes conditions) :=
  inferInstanceAs (Decidable (conditions.map PoolCondition.type).Nodup)

def HasType (type : String) (conditions : List PoolCondition) : Prop :=
  type ∈ conditions.map PoolCondition.type

instance (type : String) (conditions : List PoolCondition) : Decidable (HasType type conditions) :=
  inferInstanceAs (Decidable (type ∈ conditions.map PoolCondition.type))

structure SetsOwn (c : ConditionCall) (before after : List PoolCondition) : Prop where
  /-- the conditions of other types, and their order -/
  others : after.filter (fun x => x.type ≠ c.type) = before.filter (fun x => x.type ≠ c.type)
  /-- a condition that is there stays in its place -/
  inPlace : HasType c.type before →
    after.map PoolCondition.type = before.map PoolCondition.type
  /-- one that is not is appended -/
  appends : ¬ HasType c.type before → after = before ++ [appended c.now c.type c.setting]
  /-- what it says in the end -/
  setting : settingOf c.type after = some c.setting

theorem ConditionCall.run_eq_upsert (c : ConditionCall) (conditions : List PoolCondition) :
    c.run conditions = upsert PoolCondition.type c.type (revised c.now c.setting)
      (appended c.now c.type c.setting) conditions := by
  unfold ConditionCall.run
  cases c.setter with
  | statusCondition => exact setStatusCondition_eq_upsert
  | podSyncCondition => exact setPodSyncCondition_eq_upsert

section

variable {c : ConditionCall} {conditions : List PoolCondition}

theorem DistinctTypes.run (h : DistinctTypes conditions) : DistinctTypes (c.run conditions) := by
  rw [DistinctTypes, c.run_eq_upsert]
  exact nodup_upsert (revised_type _ _) (appended_type _ _ _) h

theorem DistinctTypes.runCalls (h : DistinctTypes conditions) (calls : List ConditionCall) :
    DistinctTypes (Pools.runCalls calls conditions) := by
  induction calls generalizing conditions with
  | nil => exact h
  | cons c rest ih => exact ih h.run

theorem setsOwn_run (c : ConditionCall) (conditions : List PoolCondition) :
    SetsOwn c conditions (c.run conditions) := by
  rw [c.run_eq_upsert]
  refine ⟨?_, ?_, ?_, ?_⟩
  · exact filter_upsert (revised_type _ _) (appended_type _ _ _)
  · exact fun htype => map_key_upsert (revised_type _ _) htype
  · exact fun htype => upsert_of_not_mem htype
  · rw [settingOf, find?_upsert_self (revised_type _ _) (appended_type _ _ _)]
    cases conditions.find? fun x => x.type = c.type with
    | none => rfl
    | some x => exact congrArg some (setting_revised c.now c.setting x)

/-- A call that says what is stored already changes nothing, transition times included. -/
theorem run_of_settingOf (h : settingOf c.type conditions = some c.setting) :
    c.run conditions = conditions := by
  obtain ⟨x, hx, hsetting⟩ := Option.map_eq_some_iff.mp h
  rw [c.run_eq_upsert]
  exact upsert_eq_self hx (if_pos hsetting)

theorem run_comm {c' : ConditionCall} (hne : c.type ≠ c'.type) (hc : HasType c.type conditions)
    (hc' : HasType c'.type conditions) :
    c.run (c'.run conditions) = c'.run (c.run conditions) := by
  simp only [ConditionCall.run_eq_upsert]
  exact upsert_comm (revised_type _ _) (revised_type _ _) hne hc hc'

end

/-- After any calls the conditions are a finite map, and the next call acts as an update of it. -/
theorem conditions_finite_map (conditions : List PoolCondition)
    (hdistinct : DistinctTypes conditions) (calls : List ConditionCall) :
    DistinctTypes (runCalls calls conditions) ∧
    (∀ c : ConditionCall,
      SetsOwn c (runCalls calls conditions) (c.run (runCalls calls conditions))) ∧
    (∀ c : ConditionCall, settingOf c.type (runCalls calls conditions) = some c.setting →
      c.run (runCalls calls conditions) = runCalls calls conditions) ∧
    (∀ c c' : ConditionCall, c.type ≠ c'.type →
      HasType c.type (runCalls calls conditions) → HasType c'.type (runCalls calls conditions) →
      c.run (c'.run (runCalls calls conditions)) = c'.run (c.run (runCalls calls conditions))) ∧
    ∀ now any type status reason message,
      setStatusCondition now any type status reason message =
        PodSync.setPodSyncCondition now any type status reason message := by
  refine ⟨hdistinct.runCalls calls, fun c => setsOwn_run c _, fun c => run_of_settingOf, ?_, ?_⟩
  · exact fun c c' hne hc hc' => run_comm hne hc hc'
  · exact fun _ _ _ _ _ _ => setPodSyncCondition_eq.symm

/-- The two controllers in turn: after the second has failed, setting `Ready` again does nothing,
and the next two calls may come in either order. -/
theorem readyPool_conditions :
    let ready : ConditionCall := ⟨.statusCondition, 1, "Ready", .true, "PoolReady", "1/1"⟩
    let degraded : ConditionCall := ⟨.podSyncCondition, 2, "Degraded", .true, "Failed", "timeout"⟩
    let conditions := runCalls [ready, degraded] []
    DistinctTypes conditions ∧ { ready with now := 9 }.run conditions = conditions ∧
      { ready with setting := (.false, "PoolScaling", "0/1") }.run
          ({ degraded with setting := (.false, "Ready", "") }.run conditions) =
        { degraded with setting := (.false, "Ready", "") }.run
          ({ ready with setting := (.false, "PoolScaling", "0/1") }.run conditions) := by
  intro ready degraded conditions
  obtain ⟨hdistinct, _, hsame, hcomm, _⟩ :=
    conditions_finite_map [] (by decide) [ready, degraded]
  exact ⟨hdistinct, hsame { ready with now := 9 } (by decide),
    hcomm { ready with setting := (.false, "PoolScaling", "0/1") }
      { degraded with setting := (.false, "Ready", "") } (by decide) (by decide) (by decide)⟩

end VNodeOperator.Pools
