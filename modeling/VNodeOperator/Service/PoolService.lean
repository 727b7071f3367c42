import VNodeOperator.Service.NodeService

/-!
# Pool scaling

`PoolService` of `internal/domain/service/pool_service.go`: bring the number of
virtual nodes of a pool to the requested one.
-/

namespace VNodeOperator.Service.PoolService

open Model Kube Ports ProofSupport NodeService

structure Scaling where
  pool : VNodePool
  working : List VNode

abbrev Outcome := VNodePool × Option Err

def failed (pool : VNodePool) : VNodePool := { pool with phase := .failed }

def scaleUpStep (i : Nat) (s : Scaling) : Svc (Prog.Flow Scaling Outcome) := do
  match ← provision s.pool with
  | (_, some err) =>
      return .exit (failed s.pool,
        some (err.wrap ("provisioning node " ++ toString i ++ " for pool " ++ s.pool.name)))
  | (node, none) =>
      return .next
        { pool := { s.pool with nodes := s.pool.nodes ++ [node.name] }
          working := s.working ++ [node] }

/-- Remove the last node; nothing is left to do once none remains. -/
def scaleDownStep (_ : Nat) (s : Scaling) : Svc (Prog.Flow Scaling Outcome) := do
  match s.working.getLast? with
  | none => return .next s
  | some node =>
      match ← deprovision node with
      | .error err =>
          return .exit (failed s.pool, some (err.wrap ("deprovisioning node " ++ node.name)))
      | .ok () => return .next { s with working := s.working.dropLast }

/-- Nodes counted as ready: all but the unready and the terminating ones. -/
def countsAsReady (n : VNode) : Bool := n.phase ≠ .notReady ∧ n.phase ≠ .terminating

def withReadiness (s : Scaling) : VNodePool :=
  let readyCount := int32 (s.working.countP countsAsReady)
  { s.pool with
    readyNodes := readyCount
    phase := if readyCount = s.pool.nodeCount then .ready else .scaling }

/-- The two loops of `Reconcile`, of which at most one has work to do. -/
def scale (toAdd toRemove : Nat) (s : Scaling) : Svc Outcome := do
  match ← Prog.loop scaleUpStep (List.range toAdd) s with
  | .exit outcome => return outcome
  | .next s =>
      match ← Prog.loop scaleDownStep (List.range toRemove) s with
      | .exit outcome => return outcome
      | .next s => return (withReadiness s, none)

def reconcile (pool : VNodePool) : Svc Outcome := do
  match ← ask (.listByPool pool.ns pool.name) with
  | .error err => return (pool, some (err.wrap ("listing nodes for pool " ++ pool.name)))
  | .ok existing =>
      let actions := pool.desiredScaleActions (int32 existing.length)
      scale actions.1.toNat actions.2.toNat ⟨pool, existing⟩

/-! ## What a reconcile returns -/

def Fails (outcome : Outcome) : Prop := outcome.2 ≠ none

theorem returns_scaleUpStep (i : Nat) (s : Scaling) :
    Prog.Returns (Prog.Flow.elim (fun _ => True) Fails) (scaleUpStep i s) := by
  apply Prog.Returns.bind (Prog.Returns.always (provision s.pool))
  rintro ⟨node, err⟩ _
  cases err with
  | none => trivial
  | some err => exact nofun

theorem returns_scaleDownStep (i : Nat) (s : Scaling) :
    Prog.Returns (Prog.Flow.elim (fun _ => True) Fails) (scaleDownStep i s) := by
  unfold scaleDownStep
  split
  · trivial
  · next node _ =>
      apply Prog.Returns.bind (Prog.Returns.always (deprovision node))
      intro removed _
      cases removed with
      | error err => exact nofun
      | ok u => trivial

/-- A scaling that succeeds goes through both loops. -/
theorem run_scale {σ : Type} {h : Handler Call Call.Reply σ} {toAdd toRemove : Nat}
    {sc : Scaling} {s : σ} (hok : ((scale toAdd toRemove sc).run h s).1.2 = none) :
    ∃ sc₁ s₁ sc₂ s₂,
      (Prog.loop scaleUpStep (List.range toAdd) sc).run h s = (.next sc₁, s₁) ∧
      (Prog.loop scaleDownStep (List.range toRemove) sc₁).run h s₁ = (.next sc₂, s₂) ∧
      (scale toAdd toRemove sc).run h s = ((withReadiness sc₂, none), s₂) := by
  have hup := (Prog.Returns.loop returns_scaleUpStep (List.range toAdd) sc).run h s
  unfold scale at hok ⊢
  rw [Prog.run_bind] at hok ⊢
  generalize (Prog.loop scaleUpStep (List.range toAdd) sc).run h s = up at hok hup ⊢
  obtain ⟨flow, s₁⟩ := up
  cases flow with
  | exit outcome => exact absurd hok hup
  | next sc₁ =>
      have hdown := (Prog.Returns.loop returns_scaleDownStep (List.range toRemove) sc₁).run h s₁
      dsimp only at hok ⊢
      rw [Prog.run_bind] at hok ⊢
      cases hrun : (Prog.loop scaleDownStep (List.range toRemove) sc₁).run h s₁ with
      | mk flow s₂ =>
          rw [hrun] at hok hdown
          cases flow with
          | exit outcome => exact absurd hok hdown
          | next sc₂ => exact ⟨sc₁, s₁, sc₂, s₂, rfl, hrun, rfl⟩

theorem withReadiness_phase (s : Scaling) : (withReadiness s).phase ≠ .failed := by
  unfold withReadiness
  dsimp only
  split <;> decide

def NotFailed (outcome : Outcome) : Prop := outcome.2 = none → outcome.1.phase ≠ .failed

theorem returns_reconcile (pool : VNodePool) : Prog.Returns NotFailed (reconcile pool) := by
  apply Prog.Returns.bind (Prog.Returns.always (ask (.listByPool pool.ns pool.name)))
  intro listed _
  cases listed with
  | error err => exact nofun
  | ok existing =>
      apply Prog.Returns.bind (Prog.Returns.loop returns_scaleUpStep _ _)
      intro up hup
      cases up with
      | exit outcome => exact fun hnone => absurd hnone hup
      | next s =>
          apply Prog.Returns.bind (Prog.Returns.loop returns_scaleDownStep _ _)
          intro down hdown
          cases down with
          | exit outcome => exact fun hnone => absurd hnone hdown
          | next s => exact fun _ => withReadiness_phase s

end VNodeOperator.Service.PoolService
