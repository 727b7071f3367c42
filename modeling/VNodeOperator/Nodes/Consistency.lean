import VNodeOperator.ProofSupport.Faults
import VNodeOperator.ProofSupport.Threads
import VNodeOperator.Requests
import VNodeOperator.Service.NodeService

/-!
# Phases and conditions

`Provision`, `Deprovision` and `UpdateStatus` write a phase and a list of
conditions at eight places.  At each of them the two agree, and a status is
written by a single request, so they agree in every state that any interleaving
of these operations reaches, whatever requests fail.
-/

namespace VNodeOperator.Nodes

open Model Kube Adapter Ports ProofSupport Service NodeService

/-- The condition of the type, the first one if there are several, is true. -/
def IsTrue (type : NodeConditionType) (conditions : List VNodeCondition) : Prop :=
  (conditions.find? fun c => c.type = type).map VNodeCondition.status = some .true

instance (type : NodeConditionType) (conditions : List VNodeCondition) :
    Decidable (IsTrue type conditions) :=
  inferInstanceAs (Decidable (_ = _))

structure Consistent (phase : NodePhase) (conditions : List VNodeCondition) : Prop where
  ready : phase = .ready ↔ IsTrue .ready conditions
  registered : IsTrue .ready conditions ↔ IsTrue .registered conditions
  degraded : phase = .notReady → IsTrue .degraded conditions

/-- `IsReady` accepts the phase or the condition; here they are one. -/
theorem Consistent.isReady_iff {cr : VNodeCR} (h : Consistent cr.phase cr.conditions) :
    (NodeRepository.crToNode cr).isReady = true ↔ cr.phase = .ready := by
  have hfind : (NodeRepository.crToNode cr).conditions.find? (fun c => c.type = .ready) =
      (cr.conditions.find? (fun c => c.type = .ready)).map NodeRepository.conditionFromCR := by
    simp only [NodeRepository.crToNode, List.find?_map]
    rfl
  have hphase : (NodeRepository.crToNode cr).phase = cr.phase := rfl
  have hready := h.ready
  unfold VNode.isReady
  rw [hphase, hfind]
  by_cases hp : cr.phase = .ready
  · simp [hp]
  · have hnot : ¬ IsTrue .ready cr.conditions := fun htrue => hp (hready.mpr htrue)
    unfold IsTrue at hnot
    cases hc : cr.conditions.find? (fun c => c.type = .ready) with
    | none => simp [hp]
    | some c =>
        rw [hc] at hnot
        simpa [hp, NodeRepository.conditionFromCR] using hnot

/-! ## The nodes that are saved -/

def ConsistentNode (node : VNode) : Prop :=
  Consistent node.phase (node.conditions.map NodeRepository.conditionToCR)

theorem consistentNode_newNode (pool : VNodePool) (existing : Nat) :
    ConsistentNode (newNode pool existing) := by
  constructor <;> simp [newNode, IsTrue, NodeRepository.conditionToCR]

theorem consistentNode_asReady (node : VNode) : ConsistentNode (asReady node) := by
  constructor <;> simp [asReady, readyNodeConditions, IsTrue, NodeRepository.conditionToCR]

theorem consistentNode_asTerminating (node : VNode) : ConsistentNode (asTerminating node) := by
  constructor <;> simp [asTerminating, IsTrue, NodeRepository.conditionToCR]

theorem consistentNode_registrationFailed (node : VNode) (err : Err) :
    ConsistentNode (asNotReady node (registrationFailedConditions err)) := by
  constructor <;>
    simp [asNotReady, registrationFailedConditions, IsTrue, NodeRepository.conditionToCR]

theorem consistentNode_statusSyncFailed (node : VNode) (msg : String) :
    ConsistentNode (asNotReady node
      [ ⟨.ready, false, "StatusSyncFailed", msg⟩,
        ⟨.degraded, true, "StatusSyncFailed", msg⟩ ]) := by
  constructor <;> simp [asNotReady, IsTrue, NodeRepository.conditionToCR]

def SavesConsistent : Call → Prop
  | .save node => ConsistentNode node
  | .listByPool _ _ | .delete _ | .register _ _ | .deregister _ _ | .updateNodeStatus _ _ => True
  | _ => False

/-! ## Requests -/

def WritesConsistent : Request → Prop
  | .api (.updateVNodeStatus cr) => Consistent cr.phase cr.conditions
  | .api _ => True
  | .port _ => False

theorem writesConsistent_of_onTenantNodes (c : ApiCall) (hc : Registrar.onTenantNodes c) :
    WritesConsistent (.api c) := by
  cases c with
  | updateVNodeStatus cr => cases hc
  | _ => trivial

theorem uses_requests (env : Env) (c : Call) (hc : SavesConsistent c) :
    Prog.Uses WritesConsistent (requests env c) := by
  cases c with
  | save node =>
      have hsave : Prog.Uses (fun c => WritesConsistent (.api c)) (NodeRepository.save node) := by
        apply NodeRepository.uses_save
        · trivial
        · trivial
        · exact fun _ => trivial
        · exact fun _ => hc
      exact uses_apiRequests hsave
  | listByPool ns poolName =>
      exact uses_apiRequests (NodeRepository.uses_listByPool trivial)
  | delete k => exact uses_apiRequests (Prog.Uses.perform trivial)
  | register node tenant =>
      exact uses_apiRequests
        ((Registrar.uses_register env node tenant).mono
          fun c hc => writesConsistent_of_onTenantNodes c hc.onTenantNodes)
  | deregister node tenant =>
      exact uses_apiRequests
        ((Registrar.uses_deregister node tenant).mono writesConsistent_of_onTenantNodes)
  | updateNodeStatus node tenant =>
      exact uses_apiRequests
        ((Registrar.uses_updateNodeStatus env node tenant).mono
          fun c hc => writesConsistent_of_onTenantNodes c (hc.requestFor node).onTenantNodes)
  | _ => cases hc

def AllConsistent (w : Cluster) : Prop :=
  ∀ cr ∈ w.vnodes.items, cr.phase ≠ .unset → Consistent cr.phase cr.conditions

theorem AllConsistent.put {w : Cluster} (h : AllConsistent w) {cr : VNodeCR}
    (hcr : cr.phase ≠ .unset → Consistent cr.phase cr.conditions) :
    ∀ cr' ∈ (w.vnodes.put cr).items, cr'.phase ≠ .unset →
      Consistent cr'.phase cr'.conditions := by
  intro cr' hmem
  rcases Store.mem_put.mp hmem with rfl | ⟨hmem, _⟩
  · exact hcr
  · exact h cr' hmem

theorem AllConsistent.serve {env : Env} {r : Request} {w : Cluster} (hr : WritesConsistent r)
    (h : AllConsistent w) : AllConsistent (serve env r w).2 := by
  cases r with
  | port c => cases hr
  | api c =>
      unfold AllConsistent Ports.serve
      cases vnodeStep_api env c w with
      | same hsame =>
          rw [hsame]
          exact h
      | created cr clock _ _ hput =>
          rw [hput]
          exact h.put (fun hunset => absurd rfl hunset)
      | updated cr old _ hold hput =>
          rw [hput]
          exact h.put (h old (Store.mem_of_get hold))
      | statusUpdated cr old hc _ hput =>
          rw [hc] at hr
          rw [hput]
          exact h.put (fun _ => hr)
      | deleted k _ herase =>
          rw [herase]
          exact fun cr hcr => h cr (Store.mem_erase.mp hcr).1

/-! ## Runs -/

inductive NodeOperation where
  | provision (pool : VNodePool)
  | deprovision (node : VNode)
  | updateStatus (node : VNode)

def NodeOperation.program : NodeOperation → Svc Unit
  | .provision pool => do
      let _ ← NodeService.provision pool
      return ()
  | .deprovision node => do
      let _ ← NodeService.deprovision node
      return ()
  | .updateStatus node => do
      let _ ← NodeService.updateStatus node
      return ()

theorem uses_program (op : NodeOperation) : Prog.Uses SavesConsistent op.program := by
  cases op with
  | provision pool =>
      have hprovision : Prog.Uses SavesConsistent (NodeService.provision pool) := by
        apply uses_provision
        · trivial
        · exact consistentNode_newNode pool
        · exact fun _ => trivial
        · exact fun _ => consistentNode_registrationFailed _
        · exact fun _ => consistentNode_asReady _
      exact Prog.Uses.bind hprovision (fun _ => Prog.Uses.pure _)
  | deprovision node =>
      have hdeprovision : Prog.Uses SavesConsistent (NodeService.deprovision node) :=
        uses_deprovision (consistentNode_asTerminating node) trivial trivial
      exact Prog.Uses.bind hdeprovision (fun _ => Prog.Uses.pure _)
  | updateStatus node =>
      have hupdate : Prog.Uses SavesConsistent (NodeService.updateStatus node) := by
        apply uses_updateStatus
        · trivial
        · trivial
        · exact consistentNode_asReady node
        · exact consistentNode_registrationFailed node
        · exact consistentNode_statusSyncFailed node
      exact Prog.Uses.bind hupdate (fun _ => Prog.Uses.pure _)

/-- Operations that run side by side, request by request, while any request may
fail. -/
abbrev NodeRun (ι : Type) : Type :=
  Threads Request Request.Reply (fun _ : ι => Unit) (Cluster × FaultPlan Err)

def nodeRun {ι : Type} (env : Env) (ops : ι → NodeOperation) (w : Cluster)
    (plan : FaultPlan Err) : NodeRun ι where
  shared := (w, plan)
  prog i := (ops i).program.expand (requests env)

/-- In every state reached, phase and conditions of a written status agree. -/
theorem phase_conditions_agree {ι : Type} [DecidableEq ι] (env : Env) (ops : ι → NodeOperation)
    (w : Cluster) (plan : FaultPlan Err) (hstart : AllConsistent w) (t : NodeRun ι)
    (hreach : Threads.Reaches (withFaults (serve env)) (fun _ _ => True)
      (nodeRun env ops w plan) t) :
    ∀ cr ∈ t.shared.1.vnodes.items, cr.phase ≠ .unset →
      (cr.phase = .ready ↔ IsTrue .ready cr.conditions) ∧
      (IsTrue .ready cr.conditions ↔ IsTrue .registered cr.conditions) ∧
      (cr.phase = .notReady → IsTrue .degraded cr.conditions) ∧
      ((NodeRepository.crToNode cr).isReady = true ↔ cr.phase = .ready) := by
  have hall : AllConsistent t.shared.1 := by
    refine hreach.invariant_of_uses (A := WritesConsistent) (I := fun s => AllConsistent s.1)
      (fun i => (uses_program (ops i)).expand (uses_requests env)) hstart ?_
    intro r s hr hs
    rcases withFaults_state (serve env) r s with hstate | hstate
    · rw [hstate]
      exact hs.serve hr
    · rw [hstate]
      exact hs
  intro cr hcr hwritten
  have hcr := hall cr hcr hwritten
  exact ⟨hcr.ready, hcr.registered, hcr.degraded, hcr.isReady_iff⟩

def acmeOperations : Bool → NodeOperation
  | false => .provision (acmePool 1)
  | true => .updateStatus (asReady (newNode (acmePool 1) 0))

theorem acme_phase_conditions_agree :
    ∃ t, Threads.follow (withFaults (serve Env.plain)) (List.replicate 19 false)
        (nodeRun Env.plain acmeOperations { tenants := fun _ => {} } (fun _ => none)) = some t ∧
      t.shared.1.vnodes.items.map VNodeCR.phase = [.ready] ∧
      ∀ cr ∈ t.shared.1.vnodes.items, cr.phase ≠ .unset →
        (cr.phase = .ready ↔ IsTrue .ready cr.conditions) ∧
        (IsTrue .ready cr.conditions ↔ IsTrue .registered cr.conditions) ∧
        (cr.phase = .notReady → IsTrue .degraded cr.conditions) ∧
        ((NodeRepository.crToNode cr).isReady = true ↔ cr.phase = .ready) := by
  have hrun : ∃ t, Threads.follow (withFaults (serve Env.plain)) (List.replicate 19 false)
        (nodeRun Env.plain acmeOperations { tenants := fun _ => {} } (fun _ => none)) = some t ∧
      t.shared.1.vnodes.items.map VNodeCR.phase = [.ready] :=
    ⟨_, rfl, by decide⟩
  obtain ⟨t, hfollow, hphase⟩ := hrun
  exact ⟨t, hfollow, hphase, phase_conditions_agree Env.plain acmeOperations
    { tenants := fun _ => {} } (fun _ => none) (fun cr hcr => nomatch hcr) t
    (Threads.reaches_follow .start hfollow)⟩

end VNodeOperator.Nodes
