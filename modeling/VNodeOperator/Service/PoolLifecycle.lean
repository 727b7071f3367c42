import VNodeOperator.ProofSupport.Layers
import VNodeOperator.Service.PoolService

/-!
# Pool scaling over any node lifecycle

`PoolService` is given its repository and its `NodeLifecycle` as interfaces.
Here the calls to them are the calls of the program, so that anything that keeps
their contract can stand behind them; with `NodeService` behind them the program
is `PoolService.reconcile` (`expand_reconcile`).
-/

namespace VNodeOperator.Service.PoolLifecycle

open Model Kube Ports ProofSupport
open PoolService (Scaling Outcome failed withReadiness)

/-- The uses `PoolService` makes of `NodeRepository` and `NodeLifecycle`. -/
inductive LifecycleCall where
  | listByPool (ns poolName : String)
  | provision (pool : VNodePool)
  | deprovision (node : VNode)

@[reducible] def LifecycleCall.Reply : LifecycleCall → Type
  | .listByPool _ _ => Except Err (List VNode)
  | .provision _ => VNode × Option Err
  | .deprovision _ => Except Err Unit

abbrev Lifecycle := Prog LifecycleCall LifecycleCall.Reply

def use (c : LifecycleCall) : Lifecycle c.Reply := Prog.perform c

def scaleUpStep (i : Nat) (s : Scaling) : Lifecycle (Prog.Flow Scaling Outcome) := do
  match ← use (.provision s.pool) with
  | (_, some err) =>
      return .exit (failed s.pool,
        some (err.wrap ("provisioning node " ++ toString i ++ " for pool " ++ s.pool.name)))
  | (node, none) =>
      return .next
        { pool := { s.pool with nodes := s.pool.nodes ++ [node.name] }
          working := s.working ++ [node] }

def scaleDownStep (_ : Nat) (s : Scaling) : Lifecycle (Prog.Flow Scaling Outcome) := do
  match s.working.getLast? with
  | none => return .next s
  | some node =>
      match ← use (.deprovision node) with
      | .error err =>
          return .exit (failed s.pool, some (err.wrap ("deprovisioning node " ++ node.name)))
      | .ok () => return .next { s with working := s.working.dropLast }

def scale (toAdd toRemove : Nat) (s : Scaling) : Lifecycle Outcome := do
  match ← Prog.loop scaleUpStep (List.range toAdd) s with
  | .exit outcome => return outcome
  | .next s =>
      match ← Prog.loop scaleDownStep (List.range toRemove) s with
      | .exit outcome => return outcome
      | .next s => return (withReadiness s, none)

def reconcile (pool : VNodePool) : Lifecycle Outcome := do
  match ← use (.listByPool pool.ns pool.name) with
  | .error err => return (pool, some (err.wrap ("listing nodes for pool " ++ pool.name)))
  | .ok existing =>
      let actions := pool.desiredScaleActions (int32 existing.length)
      scale actions.1.toNat actions.2.toNat ⟨pool, existing⟩

/-! ## With `NodeService` behind the interface -/

def nodeService : (c : LifecycleCall) → Svc c.Reply
  | .listByPool ns poolName => ask (.listByPool ns poolName)
  | .provision pool => NodeService.provision pool
  | .deprovision node => NodeService.deprovision node

theorem expand_use (c : LifecycleCall) : (use c).expand nodeService = nodeService c :=
  Prog.expand_perform nodeService c

theorem expand_scaleUpStep (i : Nat) (s : Scaling) :
    (scaleUpStep i s).expand nodeService = PoolService.scaleUpStep i s := by
  unfold scaleUpStep PoolService.scaleUpStep
  rw [Prog.expand_bind, expand_use]
  refine congrArg (nodeService (.provision s.pool) >>= ·) (funext ?_)
  rintro ⟨node, err⟩
  cases err <;> rfl

theorem expand_scaleDownStep (i : Nat) (s : Scaling) :
    (scaleDownStep i s).expand nodeService = PoolService.scaleDownStep i s := by
  unfold scaleDownStep PoolService.scaleDownStep
  cases s.working.getLast? with
  | none => rfl
  | some node =>
      dsimp only
      rw [Prog.expand_bind, expand_use]
      refine congrArg (nodeService (.deprovision node) >>= ·) (funext fun removed => ?_)
      cases removed <;> rfl

theorem expand_scale (toAdd toRemove : Nat) (s : Scaling) :
    (scale toAdd toRemove s).expand nodeService = PoolService.scale toAdd toRemove s := by
  unfold scale PoolService.scale
  rw [Prog.expand_bind, Prog.expand_loop]
  simp only [expand_scaleUpStep]
  refine congrArg (_ >>= ·) (funext fun up => ?_)
  cases up with
  | exit outcome => rfl
  | next s =>
      dsimp only
      rw [Prog.expand_bind, Prog.expand_loop]
      simp only [expand_scaleDownStep]
      refine congrArg (_ >>= ·) (funext fun down => ?_)
      cases down <;> rfl

/-- The operator's pool service is this program, over `NodeService`. -/
theorem expand_reconcile (pool : VNodePool) :
    (reconcile pool).expand nodeService = PoolService.reconcile pool := by
  unfold reconcile PoolService.reconcile
  rw [Prog.expand_bind, expand_use]
  refine congrArg (nodeService (.listByPool pool.ns pool.name) >>= ·) (funext fun listed => ?_)
  cases listed with
  | error err => rfl
  | ok existing => exact expand_scale _ _ _

end VNodeOperator.Service.PoolLifecycle
