import VNodeOperator.Pass.Report
import VNodeOperator.ProofSupport.Contracts
import VNodeOperator.Reconciler.VNodePool

/-!
# Contracts of the node controllers

The services and controllers that look after virtual nodes hand on what they are given:
a node that was read is saved, registered and deleted under its own name, and a new node
belongs to the pool that was read.  `meets_save`, `NodeRules` and `PoolRules` say what a
contract has to allow, and to promise of its replies, so that they keep it.  The pod
controller works on pods, and on the pool's status (`uses_reconcilePods`).
-/

namespace VNodeOperator.Operator

open Model Kube Ports Adapter ProofSupport Service Reconciler
open Reconciler.VNodePool (crToPoolModel)

section

variable {K : Contract ApiCall ApiCall.Reply} {node : Model.VNode}

theorem meets_save (hget : K.may (.getVNode (NodeRepository.keyOf node)))
    (hcreate : K.may (.createVNode (NodeRepository.newCR node)))
    (hupdate : ∀ cr, K.gets (.getVNode (NodeRepository.keyOf node)) (.ok cr) →
      K.may (.updateVNode { cr with
        annotations := NodeRepository.annotateTenant cr.annotations node.tenantRef }))
    (hstatus : ∀ cr, K.gets (.getVNode (NodeRepository.keyOf node)) (.ok cr) →
      K.may (.updateVNodeStatus (NodeRepository.applyNodeStatus cr node)))
    (hcreated : ∀ cr, K.gets (.createVNode (NodeRepository.newCR node)) (.ok cr) →
      K.may (.updateVNodeStatus (NodeRepository.applyNodeStatus cr node))) :
    Prog.Meets K (fun _ => True) (NodeRepository.save node) := by
  have hwrite : Prog.Meets K (fun _ => True) (NodeRepository.updateStatus node) := by
    apply meets_retryOnConflict
    refine Prog.Meets.call (c := ApiCall.getVNode (NodeRepository.keyOf node)) hget ?_
    intro r hr
    cases r with
    | error err => trivial
    | ok current =>
        refine Prog.Meets.call (c := ApiCall.updateVNodeStatus _) (hstatus current hr) ?_
        intro r _
        cases r <;> trivial
  have hannotate : Prog.Meets K (fun _ => True) (NodeRepository.updateAnnotations node) := by
    apply meets_retryOnConflict
    refine Prog.Meets.call (c := ApiCall.getVNode (NodeRepository.keyOf node)) hget ?_
    intro r hr
    cases r with
    | error err => trivial
    | ok current => exact Prog.Meets.last (c := ApiCall.updateVNode _) (hupdate current hr)
  refine Prog.Meets.call (c := ApiCall.getVNode (NodeRepository.keyOf node)) hget ?_
  intro r _
  cases r with
  | ok cr =>
      apply Prog.Meets.bind hannotate
      intro r _
      cases r with
      | error err => trivial
      | ok u => exact hwrite
  | error err =>
      dsimp only
      split
      · refine Prog.Meets.call (c := ApiCall.createVNode (NodeRepository.newCR node)) hcreate ?_
        intro r hr
        cases r with
        | error err => trivial
        | ok cr =>
            refine Prog.Meets.call (c := ApiCall.updateVNodeStatus _) (hcreated cr hr) ?_
            intro r _
            cases r with
            | ok u => trivial
            | error err =>
                dsimp only
                split
                · exact hwrite
                · trivial
      · trivial

end

/-- Nodes in `N` may be worked on; their status does not matter. -/
structure NodeRules (K : Contract Call Call.Reply) (N : Model.VNode → Prop) : Prop where
  status : ∀ {node : Model.VNode} phase conditions, N node →
    N { node with phase := phase, conditions := conditions }
  save : ∀ {node}, N node → K.may (.save node)
  register : ∀ {node}, N node → K.may (.register node node.tenantRef)
  deregister : ∀ {node}, N node → K.may (.deregister node node.tenantRef)
  updateNodeStatus : ∀ {node}, N node → K.may (.updateNodeStatus node node.tenantRef)
  delete : ∀ {node}, N node → K.may (.delete ⟨node.ns, node.name⟩)
  now : K.may .now

/-- Pools in `P` may be scaled, and stored pools in `S` reconciled. -/
structure PoolRules (K : Contract Call Call.Reply) (N : Model.VNode → Prop)
    (P : Model.VNodePool → Prop) (S : VNodePoolCR → Prop) : Prop extends NodeRules K N where
  nodes : ∀ {pool : Model.VNodePool} names, P pool → P { pool with nodes := names }
  list : ∀ {pool}, P pool → K.may (.listByPool pool.ns pool.name)
  listed : ∀ {pool nodes}, P pool → K.gets (.listByPool pool.ns pool.name) (.ok nodes) →
    ∀ node ∈ nodes, N node
  fresh : ∀ {pool} existing, P pool → N (NodeService.newNode pool existing)
  live : ∀ {cr}, S cr → P (crToPoolModel cr)
  leaving : ∀ {cr}, S cr →
    P { crToPoolModel cr with nodeCount := 0, deletionPending := true }
  finalizers : ∀ {cr : VNodePoolCR} l, S cr → S { cr with finalizers := l }
  getPool : ∀ {cr}, S cr → K.may (.getVNodePool cr.key)
  gotPool : ∀ {cr cr'}, S cr → K.gets (.getVNodePool cr.key) (.ok cr') → S cr'
  updatePool : ∀ {cr}, S cr → K.may (.updateVNodePool cr)
  patch : ∀ {cr} base status, S cr → K.may (.patchVNodePoolStatus cr.key base status)
  listVNodes : ∀ {cr}, S cr → K.may (.listVNodes cr.ns cr.name)

namespace NodeRules

variable {K : Contract Call Call.Reply} {N : Model.VNode → Prop} {node : Model.VNode}

theorem meets_now (R : NodeRules K N) : Prog.Meets K (fun _ => True) Ports.now := by
  refine Prog.Meets.call (c := Call.now) R.now ?_
  intro r _
  cases r <;> trivial

theorem meets_deprovision (R : NodeRules K N) (hnode : N node) :
    Prog.Meets K (fun _ => True) (NodeService.deprovision node) := by
  have hterminating : N (NodeService.asTerminating node) := R.status _ _ hnode
  refine Prog.Meets.call (c := Call.save _) (R.save hterminating) ?_
  intro saved _
  cases saved with
  | error err => trivial
  | ok u =>
      refine Prog.Meets.call (c := Call.deregister _ _) (R.deregister hterminating) ?_
      intro _ _
      refine Prog.Meets.call (c := Call.delete _) (R.delete hterminating) ?_
      intro deleted _
      cases deleted <;> trivial

theorem meets_saveReady (R : NodeRules K N) (hnode : N node) :
    Prog.Meets K (fun _ => True) (NodeService.saveReady node) := by
  refine Prog.Meets.call (c := Call.save _) (R.save (R.status _ _ hnode)) ?_
  intro saved _
  cases saved <;> trivial

theorem meets_retryRegistration (R : NodeRules K N) (hnode : N node) :
    Prog.Meets K (fun _ => True) (NodeService.retryRegistration node) := by
  refine Prog.Meets.call (c := Call.register _ _) (R.register hnode) ?_
  intro registered _
  cases registered with
  | ok u => exact R.meets_saveReady hnode
  | error err =>
      dsimp only
      split
      · trivial
      · split
        · refine Prog.Meets.call (c := Call.save _) (R.save (R.status _ _ hnode)) ?_
          intro saved _
          cases saved <;> trivial
        · trivial

theorem meets_syncNodeStatus (R : NodeRules K N) (hnode : N node) :
    Prog.Meets K (fun _ => True) (NodeService.syncNodeStatus node) := by
  refine Prog.Meets.call (c := Call.updateNodeStatus _ _) (R.updateNodeStatus hnode) ?_
  intro synced _
  cases synced with
  | error err =>
      dsimp only
      split
      · trivial
      · refine Prog.Meets.call (c := Call.save _) (R.save (R.status _ _ hnode)) ?_
        intro saved _
        cases saved <;> trivial
  | ok u =>
      dsimp only
      split
      · trivial
      · exact R.meets_saveReady hnode

theorem meets_updateStatus (R : NodeRules K N) (hnode : N node) :
    Prog.Meets K (fun _ => True) (NodeService.updateStatus node) := by
  unfold NodeService.updateStatus
  split
  · trivial
  · split
    · exact R.meets_retryRegistration hnode
    · exact R.meets_syncNodeStatus hnode

/-- The VNode controller works on the node it has read. -/
theorem meets_reconcileVNode (R : NodeRules K N) {k : ObjKey} (hk : K.may (.getVNode k))
    (hgot : ∀ cr, K.gets (.getVNode k) (.ok cr) → N (VNode.nodeOf cr)) :
    Prog.Meets K (fun _ => True) (VNode.reconcile k) := by
  refine Prog.Meets.call (c := Call.getVNode k) hk ?_
  intro r hr
  cases r with
  | error err => trivial
  | ok cr =>
      apply Prog.Meets.bind (R.meets_updateStatus (hgot cr hr))
      intro updated _
      cases updated with
      | error err =>
          dsimp only
          split <;> trivial
      | ok u =>
          dsimp only
          split
          · exact R.meets_now.bind fun _ _ => trivial
          · trivial

end NodeRules

namespace PoolRules

variable {K : Contract Call Call.Reply} {N : Model.VNode → Prop} {P : Model.VNodePool → Prop}
  {S : VNodePoolCR → Prop} {pool : Model.VNodePool} {cr : VNodePoolCR}

theorem meets_provision (R : PoolRules K N P S) (hpool : P pool) :
    Prog.Meets K (fun r => r.2 = none → N r.1) (NodeService.provision pool) := by
  refine Prog.Meets.call (c := Call.listByPool pool.ns pool.name) (R.list hpool) ?_
  intro listed _
  cases listed with
  | error err => rintro ⟨⟩
  | ok existing =>
      have hnode : N (NodeService.newNode pool existing.length) := R.fresh _ hpool
      refine Prog.Meets.call (c := Call.save _) (R.save hnode) ?_
      intro saved _
      cases saved with
      | error err => rintro ⟨⟩
      | ok u =>
          refine Prog.Meets.call (c := Call.register _ _) (R.register hnode) ?_
          intro registered _
          cases registered with
          | error err =>
              refine Prog.Meets.call (c := Call.save _) (R.save (R.status _ _ hnode)) ?_
              rintro _ _ ⟨⟩
          | ok u =>
              refine Prog.Meets.call (c := Call.save _) (R.save (R.status _ _ hnode)) ?_
              intro saved _
              cases saved with
              | error err => rintro ⟨⟩
              | ok u => exact fun _ => R.status _ _ hnode

def Carried (N : Model.VNode → Prop) (P : Model.VNodePool → Prop)
    (s : PoolService.Scaling) : Prop :=
  P s.pool ∧ ∀ node ∈ s.working, N node

theorem meets_scaleUpStep (R : PoolRules K N P S) (i : Nat) {s : PoolService.Scaling}
    (hs : Carried N P s) :
    Prog.Meets K (Prog.Flow.elim (Carried N P) fun _ => True) (PoolService.scaleUpStep i s) := by
  apply Prog.Meets.bind (R.meets_provision hs.1)
  rintro ⟨node, err⟩ hnode
  cases err with
  | some err => trivial
  | none =>
      refine ⟨R.nodes _ hs.1, ?_⟩
      intro node' hmem
      rcases List.mem_append.mp hmem with hold | hnew
      · exact hs.2 node' hold
      · rw [List.mem_singleton.mp hnew]
        exact hnode rfl

theorem meets_scaleDownStep (R : PoolRules K N P S) (i : Nat) {s : PoolService.Scaling}
    (hs : Carried N P s) :
    Prog.Meets K (Prog.Flow.elim (Carried N P) fun _ => True)
      (PoolService.scaleDownStep i s) := by
  unfold PoolService.scaleDownStep
  split
  · exact hs
  · next node hlast =>
      apply Prog.Meets.bind (R.meets_deprovision (hs.2 node (List.mem_of_getLast? hlast)))
      intro removed _
      cases removed with
      | error err => trivial
      | ok u => exact ⟨hs.1, fun node' hmem => hs.2 node' (List.dropLast_subset _ hmem)⟩

theorem meets_scalePool (R : PoolRules K N P S) (hpool : P pool) :
    Prog.Meets K (fun _ => True) (PoolService.reconcile pool) := by
  refine Prog.Meets.call (c := Call.listByPool pool.ns pool.name) (R.list hpool) ?_
  intro listed hlisted
  cases listed with
  | error err => trivial
  | ok existing =>
      have hstart : Carried N P ⟨pool, existing⟩ := ⟨hpool, R.listed hpool hlisted⟩
      apply Prog.Meets.bind (Prog.Meets.loop (Carried N P) (fun _ => True)
        (fun i _ s hs => R.meets_scaleUpStep i hs) hstart)
      intro up hup
      cases up with
      | exit outcome => trivial
      | next s =>
          apply Prog.Meets.bind (Prog.Meets.loop (Carried N P) (fun _ => True)
            (fun i _ s hs => R.meets_scaleDownStep i hs) hup)
          intro down _
          cases down <;> trivial

theorem meets_updatePoolStatus (R : PoolRules K N P S) (hcr : S cr)
    (mutate : Int → VNodePoolStatus → VNodePoolStatus) :
    Prog.Meets K (fun _ => True) (VNodePool.updatePoolStatus cr.key mutate) := by
  apply meets_retryOnConflict
  refine Prog.Meets.call (c := Call.getVNodePool cr.key) (R.getPool hcr) ?_
  intro r _
  cases r with
  | error err => trivial
  | ok current =>
      apply Prog.Meets.bind R.meets_now
      intro time _
      dsimp only
      split
      · trivial
      · exact Prog.Meets.last (c := Call.patchVNodePoolStatus _ _ _) (R.patch _ _ hcr)

theorem meets_removeFinalizer (R : PoolRules K N P S) (hcr : S cr) :
    Prog.Meets K (fun _ => True) (VNodePool.removeFinalizer cr.key) := by
  apply meets_retryOnConflict
  refine Prog.Meets.call (c := Call.getVNodePool cr.key) (R.getPool hcr) ?_
  intro r hr
  cases r with
  | error err => trivial
  | ok current =>
      exact Prog.Meets.last (c := Call.updateVNodePool _)
        (R.updatePool (R.finalizers _ (R.gotPool hcr hr)))

theorem meets_handleDeletion (R : PoolRules K N P S) (hcr : S cr) :
    Prog.Meets K (fun _ => True) (VNodePool.handleDeletion cr) := by
  unfold VNodePool.handleDeletion
  split
  · trivial
  · apply Prog.Meets.bind (R.meets_updatePoolStatus hcr _)
    intro _ _
    apply Prog.Meets.bind (R.meets_scalePool (R.leaving hcr))
    rintro ⟨result, err⟩ _
    cases err with
    | some err => trivial
    | none =>
        refine Prog.Meets.call (c := Call.listVNodes cr.ns cr.name) (R.listVNodes hcr) ?_
        intro r _
        cases r with
        | error err => trivial
        | ok remaining =>
            dsimp only
            split
            · trivial
            · apply Prog.Meets.bind (R.meets_removeFinalizer hcr)
              intro r _
              cases r <;> trivial

theorem meets_reconcileLive (R : PoolRules K N P S) (hcr : S cr) :
    Prog.Meets K (fun _ => True) (VNodePool.reconcileLive cr) := by
  unfold VNodePool.reconcileLive
  dsimp only
  split
  · exact (R.meets_updatePoolStatus hcr _).bind fun _ _ => trivial
  · apply Prog.Meets.bind (R.meets_scalePool (R.live hcr))
    rintro ⟨result, err⟩ _
    cases err with
    | some err => exact (R.meets_updatePoolStatus hcr _).bind fun _ _ => trivial
    | none =>
        apply Prog.Meets.bind (R.meets_updatePoolStatus hcr _)
        intro r _
        cases r <;> trivial

/-- The pool controller works on the pool it has read. -/
theorem meets_reconcilePool (R : PoolRules K N P S) {k : ObjKey} (hk : K.may (.getVNodePool k))
    (hgot : ∀ cr, K.gets (.getVNodePool k) (.ok cr) → S cr) :
    Prog.Meets K (fun _ => True) (VNodePool.reconcile k) := by
  refine Prog.Meets.call (c := Call.getVNodePool k) hk ?_
  intro r hr
  cases r with
  | error err => trivial
  | ok cr =>
      have hcr := hgot cr hr
      dsimp only
      split
      · exact R.meets_handleDeletion hcr
      · split
        · exact R.meets_reconcileLive hcr
        · refine Prog.Meets.call (c := Call.updateVNodePool _)
            (R.updatePool (R.finalizers _ hcr)) ?_
          intro r _
          cases r with
          | error err => trivial
          | ok u => exact R.meets_reconcileLive (R.finalizers _ hcr)

end PoolRules

theorem uses_reconcilePods {A : Call → Prop} (hpods : ∀ c, PodExecution.onPods c = true → A c)
    (hget : ∀ k, A (.getVNodePool k)) (hnow : A .now)
    (hpatch : ∀ k base status, A (.patchVNodePoolStatus k base status))
    (translator : PodService) (k : ObjKey) : Prog.Uses A (PodSync.reconcile translator k) := by
  have hreport : ∀ key ready degraded reason message, Prog.Uses A
      (PodSync.updateExecutionConditions key ready degraded reason message) :=
    fun _ _ _ _ _ => Pass.uses_updateExecutionConditions (hget _) hnow fun _ _ => hpatch _ _ _
  refine Prog.Uses.bind (Prog.Uses.perform (hget k)) ?_
  intro r
  cases r with
  | error err => exact Prog.Uses.pure _
  | ok cr =>
      dsimp only
      split
      · exact Prog.Uses.pure _
      · split
        · refine Prog.Uses.bind (Prog.Uses.bind (Prog.Uses.perform (hpods _ rfl)) ?_) ?_
          · intro r
            cases r with
            | error err => exact Prog.Uses.pure _
            | ok pods =>
                refine Prog.Uses.bind (Prog.Uses.loop ?_ _ _) ?_
                · intro pod deleted
                  refine Prog.Uses.bind (Prog.Uses.perform (hpods _ rfl)) ?_
                  intro r
                  cases r <;> exact Prog.Uses.pure _
                · intro r
                  cases r <;> exact Prog.Uses.pure _
          · rintro ⟨deleted, err⟩
            cases err <;> exact Prog.Uses.pure _
        · split
          · exact Prog.Uses.pure _
          · refine Prog.Uses.bind ((PodExecution.uses_reconcilePool translator _).mono hpods) ?_
            rintro ⟨result, err⟩
            cases err with
            | none => exact (hreport _ _ _ _ _).bind fun _ => Prog.Uses.pure _
            | some err =>
                dsimp only
                split
                · exact Prog.Uses.pure _
                · exact (hreport _ _ _ _ _).bind fun _ => Prog.Uses.pure _

end VNodeOperator.Operator
