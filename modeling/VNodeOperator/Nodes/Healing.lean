import VNodeOperator.Nodes.Retry
import VNodeOperator.Reconciler.VNode

/-!
# Healing

Once every request succeeds again, a reconcile leaves a virtual node ready if it
registers the node anew or finds its tenant `Node` to update; where that is missing,
the next reconcile registers it.  One stored status is beyond repair: a resource
that was created and whose status was not written is taken for one that is still
being provisioned.  `Save` leaves such a resource when its second request does not
get through.
-/

namespace VNodeOperator.Nodes

open Model Kube Adapter Ports ProofSupport Service NodeService Reconciler

def Unwritten (cr : VNodeCR) : Prop := cr.phase = .unset ∧ cr.conditions = []

/-- A reconcile registers the node anew, or has nothing to update, or finds the tenant
`Node` that it updates. -/
def Repairable (cs : Clientset) (cr : VNodeCR) (w : Cluster) : Prop :=
  shouldRetryRegistration (VNode.nodeOf cr) = true ∨
    (NodeRepository.tenantOf cr.annotations).kubeconfigSecret = "" ∨
    ((w.tenants cs).nodes.get cr.name).isSome

def afterReconcile (env : Env) (k : ObjKey) (w : Cluster) : Cluster :=
  ((VNode.reconcile k).run (handle env) w).2

def phaseAfter (env : Env) (k : ObjKey) (w : Cluster) : Option NodePhase :=
  ((afterReconcile env k w).vnodes.get k).map VNodeCR.phase

section

variable {env : Env} {w : Cluster} {k : ObjKey} {cr : VNodeCR}

/-- After the status update a reconcile at most reads the clock. -/
theorem afterReconcile_eq (hcr : w.vnodes.get k = some cr) :
    afterReconcile env k w = ((updateStatus (VNode.nodeOf cr)).run (handle env) w).2 := by
  have hget : handle env (.getVNode k) w = (.ok cr, w) := by
    simp only [handle, find_some _ _ hcr]
  unfold afterReconcile VNode.reconcile
  rw [Prog.run_bind, ask, Prog.run_perform, hget]
  unfold VNode.reconcileCR
  rw [Prog.run_bind]
  cases ((updateStatus (VNode.nodeOf cr)).run (handle env) w).1 with
  | error err =>
      dsimp only
      split <;> rfl
  | ok u =>
      dsimp only
      split <;> rfl

theorem run_saveReady (node : VNode) :
    (saveReady node).run (handle env) w =
      (.ok (), w.putVNode (NodeRepository.saved w (asReady node))) := by
  unfold saveReady
  rw [Prog.run_bind, ask, Prog.run_perform, handle_save]
  rfl

theorem phase_saveReady (hkey : NodeRepository.keyOf (VNode.nodeOf cr) = k) :
    (((saveReady (VNode.nodeOf cr)).run (handle env) w).2.vnodes.get k).map VNodeCR.phase =
      some .ready := by
  have hsaved : (NodeRepository.saved w (asReady (VNode.nodeOf cr))).key = k :=
    (NodeRepository.saved_key w _).trans hkey
  have hphase : (NodeRepository.saved w (asReady (VNode.nodeOf cr))).phase = .ready := by
    unfold NodeRepository.saved
    split <;> rfl
  rw [run_saveReady, ← hsaved]
  show ((w.vnodes.put _).get _).map VNodeCR.phase = _
  rw [Store.get_put_self, Option.map_some, hphase]

/-- A registrar call leaves the stored nodes alone, so the save that follows
finds them as they were. -/
theorem phase_retryRegistration (hkey : NodeRepository.keyOf (VNode.nodeOf cr) = k)
    (hworks : (handle env (.register (VNode.nodeOf cr) (VNode.nodeOf cr).tenantRef) w).1 =
      .ok ()) :
    (((retryRegistration (VNode.nodeOf cr)).run (handle env) w).2.vnodes.get k).map
      VNodeCR.phase = some .ready := by
  unfold retryRegistration
  rw [Prog.run_bind, ask, Prog.run_perform, hworks]
  exact phase_saveReady hkey

theorem phase_syncNodeStatus (hcr : w.vnodes.get k = some cr)
    (hworks : (handle env (.updateNodeStatus (VNode.nodeOf cr) (VNode.nodeOf cr).tenantRef) w).1 =
      .ok ()) :
    (((syncNodeStatus (VNode.nodeOf cr)).run (handle env) w).2.vnodes.get k).map VNodeCR.phase =
      some .ready := by
  have hkey : cr.key = k := Store.key_of_get hcr
  unfold syncNodeStatus
  rw [Prog.run_bind, ask, Prog.run_perform, hworks]
  dsimp only
  split
  · next hready =>
      have hphase : cr.phase = .ready := hready.1
      show ((handle env _ w).2.vnodes.get k).map VNodeCR.phase = _
      rw [handle_registrar env w rfl, hcr, Option.map_some, hphase]
  · exact phase_saveReady hkey

theorem run_updateStatus_unwritten (h : Unwritten cr) :
    (updateStatus (VNode.nodeOf cr)).run (handle env) w = (.ok (), w) := by
  have hphase : (VNode.nodeOf cr).phase = .unset := h.1
  have hconditions : (VNode.nodeOf cr).conditions.length = 0 := by
    simp [VNode.nodeOf, h.2]
  unfold updateStatus
  rw [if_pos ⟨hphase, hconditions⟩]
  rfl

theorem not_skipped (h : ¬ Unwritten cr) :
    ¬ ((VNode.nodeOf cr).phase = .unset ∧ (VNode.nodeOf cr).conditions.length = 0) := by
  rintro ⟨hphase, hconditions⟩
  apply h
  refine ⟨hphase, ?_⟩
  simpa [VNode.nodeOf] using hconditions

/-! ## The registrar at work -/

variable {cs : Clientset} {tenant : TenantRef} {node : VNode} {resources : CoreResourceList}

theorem shows_nodeOf (hparses : Registrar.buildResources env cr.capacity = .ok resources) :
    Shows env (VNode.nodeOf cr) { name := cr.name, capacity := resources } :=
  ⟨hparses, rfl⟩

theorem run_updateNodeStatus_ok (hconnect : env.connect tenant = .ok cs) {shown : TenantNode}
    (hshows : Shows env node shown)
    (hpresent : tenant.kubeconfigSecret = "" ∨ ((w.tenants cs).nodes.get node.name).isSome) :
    (handle env (.updateNodeStatus node tenant) w).1 = .ok () := by
  simp only [handle]
  unfold Registrar.updateNodeStatus
  split
  · rfl
  · next hsecret =>
      obtain ⟨n, hn⟩ := Option.isSome_iff_exists.mp (hpresent.resolve_left hsecret)
      have hnode : NodeIs cs node.name (fun _ => True) w := ⟨n, hn, trivial⟩
      simp only [request, Prog.run_bind, Prog.run_perform, api, hconnect,
        run_writeNodeStatus hshows hnode]
      exact run_upsertLease cs node.name _

theorem run_updateNodeStatus_missing (node : VNode) (hconnect : env.connect tenant = .ok cs)
    (hsecret : tenant.kubeconfigSecret ≠ "")
    (hmissing : (w.tenants cs).nodes.get node.name = none) :
    ∃ err, (handle env (.updateNodeStatus node tenant) w).1 = .error err ∧
      isIgnorableStatusError err = false := by
  have hwrite : (Registrar.writeNodeStatus env cs node).run (api env) w =
      (.error ((notFoundError "nodes" node.name).wrap ("getting tenant node " ++ node.name)),
        w) := by
    apply run_retryOnConflict_error
    · simp only [request, Prog.run_bind, Prog.run_perform, api, find_none _ _ hmissing]
      rfl
    · rfl
  refine ⟨((notFoundError "nodes" node.name).wrap ("getting tenant node " ++ node.name)).wrap
    ("updating tenant node " ++ node.name ++ " status"), ?_, rfl⟩
  simp only [handle]
  unfold Registrar.updateNodeStatus
  rw [if_neg hsecret]
  simp only [request, Prog.run_bind, Prog.run_perform, api, hconnect, hwrite]
  rfl

/-! ## One reconcile -/

theorem phaseAfter_of_repairable (hcr : w.vnodes.get k = some cr) (hwritten : ¬ Unwritten cr)
    (hconnect : env.connect (NodeRepository.tenantOf cr.annotations) = .ok cs)
    (hparses : Registrar.buildResources env cr.capacity = .ok resources)
    (hrepairable : Repairable cs cr w) : phaseAfter env k w = some .ready := by
  unfold phaseAfter
  rw [afterReconcile_eq hcr, updateStatus, if_neg (not_skipped hwritten)]
  split
  · exact phase_retryRegistration (show cr.key = k from Store.key_of_get hcr)
      (run_register_ok hconnect (shows_nodeOf hparses) w)
  · next hretry =>
      exact phase_syncNodeStatus hcr (run_updateNodeStatus_ok hconnect (shows_nodeOf hparses)
        (hrepairable.resolve_left hretry))

def syncFailed (node : VNode) (msg : String) : VNode :=
  asNotReady node [⟨.ready, false, "StatusSyncFailed", msg⟩,
    ⟨.degraded, true, "StatusSyncFailed", msg⟩]

theorem stored_syncNodeStatus_failed (hcr : w.vnodes.get k = some cr) {err : Err}
    (herr : (handle env (.updateNodeStatus (VNode.nodeOf cr) (VNode.nodeOf cr).tenantRef) w).1 =
      .error err) (hkind : isIgnorableStatusError err = false) :
    ((syncNodeStatus (VNode.nodeOf cr)).run (handle env) w).2.vnodes.get k =
      some (NodeRepository.savedOver cr (syncFailed (VNode.nodeOf cr) err.msg)) := by
  have hkey : cr.key = k := Store.key_of_get hcr
  generalize hw' :
    (handle env (.updateNodeStatus (VNode.nodeOf cr) (VNode.nodeOf cr).tenantRef) w).2 = w'
  have hcr' : w'.vnodes.get k = some cr := by
    rw [← hw', handle_registrar env w rfl]
    exact hcr
  have hsaved : NodeRepository.saved w' (syncFailed (VNode.nodeOf cr) err.msg) =
      NodeRepository.savedOver cr (syncFailed (VNode.nodeOf cr) err.msg) := by
    unfold NodeRepository.saved
    rw [show NodeRepository.keyOf (syncFailed (VNode.nodeOf cr) err.msg) = k from hkey, hcr']
  have hstored := Store.get_put_self w'.vnodes
    (NodeRepository.savedOver cr (syncFailed (VNode.nodeOf cr) err.msg))
  rw [show (NodeRepository.savedOver cr (syncFailed (VNode.nodeOf cr) err.msg)).key = k
    from hkey] at hstored
  rw [← hstored, ← hsaved]
  unfold syncNodeStatus
  rw [Prog.run_bind, ask, Prog.run_perform, herr, hw']
  simp only [hkind, Bool.false_eq_true, if_false, ask, Prog.run_bind, Prog.run_perform]
  rw [show handle env (.save (asNotReady (VNode.nodeOf cr) _)) w' = _ from handle_save env w' _]
  rfl

/-- Where the tenant `Node` is missing, the failed update is written down. -/
theorem stored_of_not_repairable (hcr : w.vnodes.get k = some cr) (hwritten : ¬ Unwritten cr)
    (hconnect : env.connect (NodeRepository.tenantOf cr.annotations) = .ok cs)
    (hnot : ¬ Repairable cs cr w) :
    ∃ msg, (afterReconcile env k w).vnodes.get k =
      some (NodeRepository.savedOver cr (syncFailed (VNode.nodeOf cr) msg)) := by
  unfold Repairable at hnot
  simp only [not_or, Option.not_isSome_iff_eq_none] at hnot
  obtain ⟨hretry, hsecret, hmissing⟩ := hnot
  obtain ⟨err, herr, hkind⟩ := run_updateNodeStatus_missing (VNode.nodeOf cr) hconnect hsecret
    hmissing
  refine ⟨err.msg, ?_⟩
  rw [afterReconcile_eq hcr, updateStatus, if_neg (not_skipped hwritten), if_neg hretry]
  exact stored_syncNodeStatus_failed hcr herr hkind

/-- Once every request succeeds, one reconcile ends with the stored phase `Ready` exactly
when the status was written before and the reconcile registers the node or finds it; with
a written status the second reconcile does at the latest. -/
theorem heals_iff_repairable (env : Env) (w : Cluster) (k : ObjKey) (cr : VNodeCR)
    (cs : Clientset) (resources : CoreResourceList) (hcr : w.vnodes.get k = some cr)
    (hconnect : env.connect (NodeRepository.tenantOf cr.annotations) = .ok cs)
    (hparses : Registrar.buildResources env cr.capacity = .ok resources) :
    (phaseAfter env k w = some .ready ↔ ¬ Unwritten cr ∧ Repairable cs cr w) ∧
      (¬ Unwritten cr → phaseAfter env k w = some .ready ∨
        phaseAfter env k (afterReconcile env k w) = some .ready) := by
  constructor
  · constructor
    · intro hready
      have hwritten : ¬ Unwritten cr := by
        intro hunwritten
        rw [phaseAfter, afterReconcile_eq hcr, run_updateStatus_unwritten hunwritten, hcr,
          Option.map_some, hunwritten.1] at hready
        cases hready
      refine ⟨hwritten, ?_⟩
      by_contra hnot
      obtain ⟨msg, hstored⟩ := stored_of_not_repairable hcr hwritten hconnect hnot
      rw [phaseAfter, hstored] at hready
      cases hready
    · rintro ⟨hwritten, hrepairable⟩
      exact phaseAfter_of_repairable hcr hwritten hconnect hparses hrepairable
  · intro hwritten
    by_cases hrepairable : Repairable cs cr w
    · exact Or.inl (phaseAfter_of_repairable hcr hwritten hconnect hparses hrepairable)
    · right
      obtain ⟨msg, hstored⟩ := stored_of_not_repairable hcr hwritten hconnect hrepairable
      have hconnect' : env.connect (NodeRepository.tenantOf (NodeRepository.savedOver cr
          (syncFailed (VNode.nodeOf cr) msg)).annotations) = .ok cs :=
        (congrArg env.connect (NodeRepository.tenantOf_annotateTenant _ _)).trans hconnect
      refine phaseAfter_of_repairable hstored ?_ hconnect' hparses (Or.inl rfl)
      rintro ⟨hphase, _⟩
      cases hphase

end

/-! ### A node that heals, and one that does not -/

def provisionUntil (n : Nat) : Cluster :=
  (((provision (acmePool 1)).expand (requests Env.plain)).run (withFaults (serve Env.plain))
    ({ tenants := fun _ => {} }, fun i =>
      if n ≤ i then some ⟨⟨.other, "connection refused"⟩, false⟩ else none)).2.1

def lostCluster : Cluster := { provisionUntil 100 with tenants := fun _ => {} }

/-- The connection is lost after the status was written for the first time: the node is
pending, and its next reconcile makes it ready.  A lost tenant `Node` takes two. -/
theorem pendingNode_heals :
    phaseAfter Env.plain ⟨"host", "vnode-web-1"⟩ (provisionUntil 4) = some .ready ∧
      phaseAfter Env.plain ⟨"host", "vnode-web-1"⟩ lostCluster = some .notReady ∧
      phaseAfter Env.plain ⟨"host", "vnode-web-1"⟩
        (afterReconcile Env.plain ⟨"host", "vnode-web-1"⟩ lostCluster) = some .ready := by
  have hpending := heals_iff_repairable Env.plain (provisionUntil 4) ⟨"host", "vnode-web-1"⟩
    ((provisionUntil 4).vnodes.items.head (by decide)) ⟨"acme"⟩ _ (by decide) (by decide) rfl
  have hlost := heals_iff_repairable Env.plain lostCluster ⟨"host", "vnode-web-1"⟩
    (lostCluster.vnodes.items.head (by decide)) ⟨"acme"⟩ _ (by decide) (by decide) rfl
  have hfirst : phaseAfter Env.plain ⟨"host", "vnode-web-1"⟩ lostCluster = some .notReady := by
    decide +kernel
  refine ⟨hpending.1.mpr ⟨by unfold Unwritten; decide, Or.inl (by decide)⟩, hfirst, ?_⟩
  apply (hlost.2 (by unfold Unwritten; decide)).resolve_left
  rw [hfirst]
  decide

/-- The connection is lost between the creation and the status write.  Every request
succeeds again, and a registration would, but no reconcile asks for one. -/
theorem unwrittenNode_stuck :
    ∃ cr cs resources, (provisionUntil 3).vnodes.items = [cr] ∧ cr.phase ≠ .terminating ∧
      Env.plain.connect (NodeRepository.tenantOf cr.annotations) = .ok cs ∧
      Registrar.buildResources Env.plain cr.capacity = .ok resources ∧
      (handle Env.plain (.register (VNode.nodeOf cr) (VNode.nodeOf cr).tenantRef)
        (provisionUntil 3)).1 = .ok () ∧
      phaseAfter Env.plain cr.key (provisionUntil 3) = some .unset :=
  ⟨_, ⟨"acme"⟩, _, rfl, by decide, by decide, rfl, by decide, by decide⟩

end VNodeOperator.Nodes
