import VNodeOperator.Nodes.Lifecycle
import VNodeOperator.ProofSupport.Threads
import VNodeOperator.Reconciler.VNode

/-!
# Removing a node while its controller runs

`Deprovision`, called by the pool controller, races with the reconciles of the
node's own controller.  Marking the node as terminating wakes that controller,
and a reconcile that has read the resource writes `Ready` back, creating the
resource again if it is gone.  The removal is final when no reconcile is under
way that may still write, and none starts before the resource has disappeared.
-/

namespace VNodeOperator.Nodes

open Model Kube Adapter Ports ProofSupport Service NodeService Reconciler

/-! ## The race -/

/-- What the threads return: the pool controller's `Deprovision`, and any number
of reconciles of the node. -/
@[reducible] def Returned (ι : Type) : Option ι → Type
  | none => Except Err Unit
  | some _ => Result × Option Err

abbrev Race (ι : Type) : Type := Threads Call Call.Reply (Returned ι) Cluster

def race (ι : Type) (node : Model.VNode) (w : Cluster) : Race ι where
  shared := w
  prog
    | none => deprovision node
    | some _ => VNode.reconcile (NodeRepository.keyOf node)

def deletion (node : Model.VNode) : Svc (Except Err Unit) := do
  match ← ask (.delete (NodeRepository.keyOf node)) with
  | .error err => return .error (err.wrap ("deleting node " ++ node.name))
  | .ok () => return .ok ()

def deregistration (node : Model.VNode) : Svc (Except Err Unit) := do
  let _ ← ask (.deregister (asTerminating node) node.tenantRef)
  deletion node

/-- A reconcile that has yet to read the resource, one that is done with it, or
the heartbeat of a ready node, which is not saved. -/
inductive Settled (k : ObjKey) (p : Svc (Result × Option Err)) : Prop
  | waiting (h : p = VNode.reconcile k)
  | done (h : Prog.Uses (fun c => c = .now) p)
  | heartbeat (cr : VNodeCR) (hready : cr.phase = .ready) (h : p = VNode.reconcileCR cr)

structure Undisturbed {ι : Type} (env : Env) (node : Model.VNode) (t : Race ι)
    (i : Option ι) : Prop where
  /-- The node is marked while every reconcile is settled. -/
  marking : i = none → t.prog none = deprovision node →
    ∀ r, Settled (NodeRepository.keyOf node) (t.prog (some r))
  /-- No reconcile reads the resource while it says `Terminating`. -/
  reading : ∀ r, i = some r → t.prog (some r) = VNode.reconcile (NodeRepository.keyOf node) →
    ∀ cr, t.shared.vnodes.get (NodeRepository.keyOf node) = some cr → cr.phase ≠ .terminating
  /-- A heartbeat succeeds, and comes before the node is deregistered. -/
  beating : ∀ r cr, i = some r → cr.phase = .ready → t.prog (some r) = VNode.reconcileCR cr →
    (t.prog none = deprovision node ∨ t.prog none = deregistration node) ∧
      (handle env (.updateNodeStatus (VNode.nodeOf cr) (VNode.nodeOf cr).tenantRef) t.shared).1 =
        .ok ()

def TenantGone (cs : Clientset) (name : String) (w : Cluster) : Prop :=
  (w.tenants cs).nodes.get name = none ∧ (w.tenants cs).leases.get name = none

/-- Once marked the node stays so, and once removed it is gone everywhere. -/
structure Final {ι : Type} (node : Model.VNode) (cs : Clientset) (t : Race ι) : Prop where
  terminating : t.prog none ≠ deprovision node →
    ∀ cr, t.shared.vnodes.get (NodeRepository.keyOf node) = some cr → cr.phase = .terminating
  gone : (t.prog none).result = some (.ok ()) →
    t.shared.vnodes.get (NodeRepository.keyOf node) = none ∧ TenantGone cs node.name t.shared

/-! ## The steps of a settled reconcile -/

theorem reconcile_missing (k : ObjKey) :
    ∃ rest, VNode.reconcile k = .call (.getVNode k) rest ∧
      ∀ name, rest (.error (notFoundError "vnodes.vnode.kroderdev.io" name)) = .ret ({}, none) :=
  ⟨_, rfl, fun _ => rfl⟩

theorem reconcileCR_ready {cr : VNodeCR} (hready : cr.phase = .ready) :
    ∃ rest, VNode.reconcileCR cr =
        .call (.updateNodeStatus (VNode.nodeOf cr) (VNode.nodeOf cr).tenantRef) rest ∧
      rest (.ok ()) = .ret ({}, none) := by
  have hphase : (VNode.nodeOf cr).phase = .ready := hready
  have hisReady : (VNode.nodeOf cr).isReady = true := by
    unfold VNode.isReady
    rw [if_pos hphase]
  have hretry : shouldRetryRegistration (VNode.nodeOf cr) = false := by
    simp [shouldRetryRegistration, hphase]
  have hupdate : updateStatus (VNode.nodeOf cr) = syncNodeStatus (VNode.nodeOf cr) := by
    simp [updateStatus, hphase, hretry]
  unfold VNode.reconcileCR
  simp only [hupdate]
  refine ⟨_, rfl, ?_⟩
  simp [hphase, hisReady, VNode.shouldRequeueVNode]
  rfl

/-! ## The stages of a removal -/

/-- How far the removal has come, with what that says about the clusters. -/
inductive Stage (node : Model.VNode) (cs : Clientset) (w : Cluster) :
    Svc (Except Err Unit) → Prop
  | marked (cr : VNodeCR) (hcr : w.vnodes.get (NodeRepository.keyOf node) = some cr)
      (hphase : cr.phase = .terminating) : Stage node cs w (deregistration node)
  | deregistered (cr : VNodeCR) (hcr : w.vnodes.get (NodeRepository.keyOf node) = some cr)
      (hphase : cr.phase = .terminating) (hgone : TenantGone cs node.name w) :
      Stage node cs w (deletion node)
  | deleted (hcr : w.vnodes.get (NodeRepository.keyOf node) = none)
      (hgone : TenantGone cs node.name w) : Stage node cs w (.ret (.ok ()))

structure Removing {ι : Type} (node : Model.VNode) (cs : Clientset) (t : Race ι) : Prop where
  settled : ∀ r, Settled (NodeRepository.keyOf node) (t.prog (some r))
  stage : Stage node cs t.shared (t.prog none)

theorem eq_deregistration {node : Model.VNode} {p : Svc (Except Err Unit)}
    {rest : (Call.delete (NodeRepository.keyOf node)).Reply → Svc (Except Err Unit)}
    (hp : p = .call (.deregister (asTerminating node) node.tenantRef)
      fun _ => .call (.delete (NodeRepository.keyOf node)) rest)
    (herror : ∀ err, rest (.error err) =
      .ret (.error (err.wrap ("deleting node " ++ node.name))))
    (hok : rest (.ok ()) = .ret (.ok ())) : p = deregistration node := by
  rw [hp]
  change Prog.call _ (fun _ => Prog.call _ _) = Prog.call _ (fun _ => Prog.call _ _)
  congr 1
  funext _
  congr 1
  funext r
  cases r with
  | error err => exact herror err
  | ok u => exact hok

theorem deprovision_eq (node : Model.VNode) :
    ∃ rest, deprovision node = .call (.save (asTerminating node)) rest ∧
      rest (.ok ()) = deregistration node :=
  ⟨_, rfl, eq_deregistration rfl (fun _ => rfl) rfl⟩

theorem deletion_eq (node : Model.VNode) :
    ∃ rest, deletion node = .call (.delete (NodeRepository.keyOf node)) rest ∧
      rest (.ok ()) = .ret (.ok ()) :=
  ⟨_, rfl, rfl⟩

section

variable {ι : Type} {env : Env} {node : Model.VNode} {cs : Clientset} {w : Cluster}
  {p : Svc (Except Err Unit)}

theorem Stage.phase (h : Stage node cs w p) (cr : VNodeCR)
    (hcr : w.vnodes.get (NodeRepository.keyOf node) = some cr) : cr.phase = .terminating := by
  cases h with
  | marked cr' hcr' hphase | deregistered cr' hcr' hphase =>
      rw [hcr, Option.some.injEq] at hcr'
      rw [hcr']
      exact hphase
  | deleted hcr' =>
      rw [hcr] at hcr'
      cases hcr'

theorem Stage.gone (h : Stage node cs w p) (hresult : p.result = some (.ok ())) :
    w.vnodes.get (NodeRepository.keyOf node) = none ∧ TenantGone cs node.name w := by
  cases h with
  | marked | deregistered => cases hresult
  | deleted hcr hgone => exact ⟨hcr, hgone⟩

theorem Removing.final {t : Race ι} (h : Removing node cs t) : Final node cs t :=
  ⟨fun _ => h.stage.phase, h.stage.gone⟩

/-- Up to the deregistration only the stored resource matters. -/
theorem Stage.of_marked {w' : Cluster} (h : Stage node cs w p)
    (hp : p = deprovision node ∨ p = deregistration node) (hvnodes : w'.vnodes = w.vnodes) :
    Stage node cs w' p := by
  cases h with
  | marked cr hcr hphase =>
      rw [← hvnodes] at hcr
      exact .marked cr hcr hphase
  | deregistered | deleted => rcases hp with hp | hp <;> cases hp

theorem stage_save (node : Model.VNode) (cs : Clientset) (w : Cluster) :
    Stage node cs (handle env (.save (asTerminating node)) w).2 (deregistration node) := by
  rw [handle_save]
  have hkey : (NodeRepository.saved w (asTerminating node)).key = NodeRepository.keyOf node :=
    NodeRepository.saved_key w (asTerminating node)
  refine Stage.marked (NodeRepository.saved w (asTerminating node)) ?_ ?_
  · rw [← hkey]
    exact Store.get_put_self w.vnodes _
  · unfold NodeRepository.saved
    split <;> rfl

theorem stage_deregister (hsecret : node.tenantRef.kubeconfigSecret ≠ "")
    (hconnect : env.connect node.tenantRef = .ok cs) {cr : VNodeCR}
    (hcr : w.vnodes.get (NodeRepository.keyOf node) = some cr)
    (hphase : cr.phase = .terminating) :
    Stage node cs (handle env (.deregister (asTerminating node) node.tenantRef) w).2
      (deletion node) := by
  have hrun : handle env (.deregister (asTerminating node) node.tenantRef) w =
      (.ok (), w.setTenant cs (Registrar.withoutNode (w.tenants cs) node.name)) :=
    Registrar.run_deregister env hsecret hconnect w
  rw [hrun]
  refine Stage.deregistered cr hcr hphase ?_
  simp only [TenantGone, Cluster.setTenant, Function.update_self, Registrar.withoutNode,
    Store.get_erase_self, and_self]

theorem stage_delete (env : Env) {cr : VNodeCR}
    (hcr : w.vnodes.get (NodeRepository.keyOf node) = some cr) (hgone : TenantGone cs node.name w) :
    (handle env (.delete (NodeRepository.keyOf node)) w).1 = .ok () ∧
      Stage node cs (handle env (.delete (NodeRepository.keyOf node)) w).2 (.ret (.ok ())) := by
  rw [handle_delete env w hcr]
  exact ⟨rfl, Stage.deleted (Store.get_erase_self w.vnodes _) hgone⟩

/-! ## The run -/

variable [DecidableEq ι] {t t' : Race ι}

theorem Removing.deprovision_step (hsecret : node.tenantRef.kubeconfigSecret ≠ "")
    (hconnect : env.connect node.tenantRef = .ok cs) (h : Removing node cs t)
    (hstep : t.step (handle env) none = some t') : Removing node cs t' := by
  obtain ⟨c, k, hcall⟩ := Threads.exists_call_of_step hstep
  have hsettled : ∀ r, Settled (NodeRepository.keyOf node) (t'.prog (some r)) := by
    intro r
    rw [(Threads.step_call hcall hstep).2.2 (some r) (by simp)]
    exact h.settled r
  have hstage := h.stage
  generalize hp : t.prog none = p at hstage
  cases hstage with
  | marked cr hcr hphase =>
      have hderegister : t.prog none =
          .call (.deregister (asTerminating node) node.tenantRef) (fun _ => deletion node) := hp
      obtain ⟨hshared, hself, _⟩ := Threads.step_call hderegister hstep
      refine ⟨hsettled, ?_⟩
      rw [hshared, hself]
      exact stage_deregister hsecret hconnect hcr hphase
  | deregistered cr hcr hphase hgone =>
      obtain ⟨rest, hdelete, hrest⟩ := deletion_eq node
      obtain ⟨hshared, hself, _⟩ := Threads.step_call (hp.trans hdelete) hstep
      obtain ⟨hreply, hstage⟩ := stage_delete env hcr hgone
      refine ⟨hsettled, ?_⟩
      rw [hshared, hself, hreply, hrest]
      exact hstage
  | deleted hcr hgone =>
      rw [hp] at hcall
      cases hcall

theorem Removing.of_reconcile {r : ι} (h : Removing node cs t)
    (hothers : ∀ j, j ≠ some r → t'.prog j = t.prog j)
    (hself : Settled (NodeRepository.keyOf node) (t'.prog (some r)))
    (hstage : Stage node cs t'.shared (t.prog none)) : Removing node cs t' := by
  refine ⟨?_, ?_⟩
  · intro r'
    by_cases hr : r' = r
    · rw [hr]
      exact hself
    · rw [hothers (some r') (by simp [hr])]
      exact h.settled r'
  · rw [hothers none (by simp)]
    exact hstage

theorem Removing.reconcile_step {r : ι} (h : Removing node cs t)
    (hallowed : Undisturbed env node t (some r))
    (hstep : t.step (handle env) (some r) = some t') : Removing node cs t' := by
  cases h.settled r with
  | waiting hp =>
      obtain ⟨rest, hcall, hrest⟩ := reconcile_missing (NodeRepository.keyOf node)
      obtain ⟨hshared, hself, hothers⟩ := Threads.step_call (hp.trans hcall) hstep
      -- the resource is gone: while it is there it says `Terminating`
      have hmissing : t.shared.vnodes.get (NodeRepository.keyOf node) = none := by
        cases hcr : t.shared.vnodes.get (NodeRepository.keyOf node) with
        | none => rfl
        | some cr => exact absurd (h.stage.phase cr hcr) (hallowed.reading r rfl hp cr hcr)
      rw [handle_read env t.shared rfl] at hshared
      simp only [handle, find_none _ _ hmissing, hrest] at hself
      refine h.of_reconcile hothers ?_ ?_
      · rw [hself]
        exact .done trivial
      · rw [hshared]
        exact h.stage
  | done huses =>
      obtain ⟨c, k, hp⟩ := Threads.exists_call_of_step hstep
      rw [hp] at huses
      obtain ⟨hnow, hrest⟩ := huses
      obtain ⟨hshared, hself, hothers⟩ := Threads.step_call hp hstep
      have hread : (handle env c t.shared).2 = t.shared := by
        rw [hnow]
        rfl
      refine h.of_reconcile hothers ?_ ?_
      · rw [hself]
        exact .done (hrest _)
      · rw [hshared, hread]
        exact h.stage
  | heartbeat cr hready hp =>
      obtain ⟨rest, hcall, hrest⟩ := reconcileCR_ready hready
      obtain ⟨hshared, hself, hothers⟩ := Threads.step_call (hp.trans hcall) hstep
      obtain ⟨hbefore, hreply⟩ := hallowed.beating r cr rfl hready hp
      have hvnodes : t'.shared.vnodes = t.shared.vnodes := by
        rw [hshared, handle_registrar env t.shared rfl]
      refine h.of_reconcile hothers ?_ ?_
      · rw [hself, hreply, hrest]
        exact .done trivial
      · exact h.stage.of_marked hbefore hvnodes

theorem Removing.of_marking (cs : Clientset) (hp : t.prog none = deprovision node)
    (hallowed : Undisturbed env node t none) (hstep : t.step (handle env) none = some t') :
    Removing node cs t' := by
  obtain ⟨rest, hcall, hrest⟩ := deprovision_eq node
  obtain ⟨hshared, hself, hothers⟩ := Threads.step_call (hp.trans hcall) hstep
  refine ⟨?_, ?_⟩
  · intro r
    rw [hothers (some r) (by simp)]
    exact hallowed.marking rfl hp r
  · have hreply : (handle env (.save (asTerminating node)) t.shared).1 = .ok () := by
      rw [handle_save]
    rw [hshared, hself, hreply, hrest]
    exact stage_save node cs t.shared

theorem removing_of_reaches (hsecret : node.tenantRef.kubeconfigSecret ≠ "")
    (hconnect : env.connect node.tenantRef = .ok cs)
    (hreach : Threads.Reaches (handle env) (Undisturbed env node) (race ι node w) t) :
    t.prog none = deprovision node ∨ Removing node cs t := by
  refine hreach.invariant (I := fun t => t.prog none = deprovision node ∨ Removing node cs t)
    (Or.inl rfl) ?_
  intro t t' i hinv hallowed hstep
  cases i with
  | none =>
      rcases hinv with hp | h
      · exact Or.inr (Removing.of_marking cs hp hallowed hstep)
      · exact Or.inr (h.deprovision_step hsecret hconnect hstep)
  | some r =>
      rcases hinv with hp | h
      · obtain ⟨c, k, hcall⟩ := Threads.exists_call_of_step hstep
        have hothers := (Threads.step_call hcall hstep).2.2
        exact Or.inl ((hothers none (by simp)).trans hp)
      · exact Or.inr (h.reconcile_step hallowed hstep)

/-- In every interleaving of undisturbed steps the removal is final. -/
theorem deprovision_final (env : Env) (node : Model.VNode) (cs : Clientset) (w : Cluster)
    (hsecret : node.tenantRef.kubeconfigSecret ≠ "")
    (hconnect : env.connect node.tenantRef = .ok cs) (t : Race ι)
    (hreach : Threads.Reaches (handle env) (Undisturbed env node) (race ι node w) t) :
    Final node cs t := by
  rcases removing_of_reaches hsecret hconnect hreach with hp | h
  · refine ⟨fun hmarked => absurd hp hmarked, ?_⟩
    intro hresult
    rw [hp] at hresult
    cases hresult
  · exact h.final

end

/-! ### A node that is gone, and one that comes back -/

def oneNode : Model.VNode := asReady (newNode (acmePool 1) 0)

def oneNodeCluster : Cluster := acmeCluster {}

section

variable {env : Env} {node : Model.VNode} {t : Race Unit}

theorem undisturbed_deprovision
    (hsettled : Settled (NodeRepository.keyOf node) (t.prog (some ()))) :
    Undisturbed env node t none where
  marking _ _ _ := hsettled
  reading _ hi := by cases hi
  beating _ _ hi := by cases hi

theorem undisturbed_read (cr : VNodeCR)
    (hwaiting : t.prog (some ()) = VNode.reconcile (NodeRepository.keyOf node))
    (hcr : t.shared.vnodes.get (NodeRepository.keyOf node) = some cr)
    (hphase : cr.phase ≠ .terminating) : Undisturbed env node t (some ()) where
  marking hi := by cases hi
  reading _ _ _ cr' hcr' := by
    rw [hcr, Option.some.injEq] at hcr'
    rw [← hcr']
    exact hphase
  beating _ cr' _ hready hbeat := by
    obtain ⟨rest, hcall, _⟩ := reconcileCR_ready hready
    have heq := hwaiting.symm.trans (hbeat.trans hcall)
    cases heq

theorem undisturbed_beat (cr : VNodeCR) (hready : cr.phase = .ready)
    (hbeat : t.prog (some ()) = VNode.reconcileCR cr) (hmarked : t.prog none = deregistration node)
    (hok : (handle env (.updateNodeStatus (VNode.nodeOf cr) (VNode.nodeOf cr).tenantRef)
      t.shared).1 = .ok ()) : Undisturbed env node t (some ()) where
  marking hi := by cases hi
  reading _ _ hwaiting := by
    obtain ⟨rest, hcall, _⟩ := reconcileCR_ready hready
    have heq := hwaiting.symm.trans (hbeat.trans hcall)
    cases heq
  beating _ cr' _ hready' hbeat' := by
    refine ⟨Or.inr hmarked, ?_⟩
    obtain ⟨rest, hcall, _⟩ := reconcileCR_ready hready
    obtain ⟨rest', hcall', _⟩ := reconcileCR_ready hready'
    have heq := (hcall.symm.trans hbeat.symm).trans (hbeat'.trans hcall')
    injection heq with hsame
    injection hsame with hnode
    rw [← hnode]
    exact hok

end

/-- A reconcile has read the node when `Deprovision` marks it, and its heartbeat comes
before the node is deregistered. -/
theorem oneNode_deprovision_final :
    ∃ t : Race Unit, (t.prog none).result = some (.ok ()) ∧
      (t.prog (some ())).result = some ({}, none) ∧ Final oneNode ⟨"acme"⟩ t := by
  have hreach : ∃ t : Race Unit, (t.prog none).result = some (.ok ()) ∧
      (t.prog (some ())).result = some ({}, none) ∧
      Threads.Reaches (handle Env.plain) (Undisturbed Env.plain oneNode)
        (race Unit oneNode oneNodeCluster) t := by
    let cr := oneNodeCluster.vnodes.items.head (by decide)
    refine ⟨_, ?_, ?_, .step (i := none) (.step (i := none) (.step (i := some ())
      (.step (i := none) (.step (i := some ()) .start
        (undisturbed_read cr rfl (by decide) (by decide)) rfl)
        (undisturbed_deprovision (.heartbeat cr (by decide) rfl)) rfl)
        (undisturbed_beat cr (by decide) rfl (eq_deregistration rfl (fun _ => rfl) rfl)
          (by decide)) rfl)
        (undisturbed_deprovision (.done ?_)) rfl) (undisturbed_deprovision (.done ?_)) rfl⟩
    · decide
    · decide
    · trivial
    · trivial
  obtain ⟨t, hresult, hreturned, hreach⟩ := hreach
  exact ⟨t, hresult, hreturned, deprovision_final Env.plain oneNode ⟨"acme"⟩ oneNodeCluster
    (by decide) rfl t hreach⟩

/-- The reconcile woken by the mark updates the tenant node, `Deprovision`
returns, and the reconcile saves. -/
def wokenReconcile : List (Option Unit) := [none, some (), some (), none, none, some ()]

theorem wokenReconcile_restores_node :
    ∃ t, Threads.Reaches (handle Env.plain) (fun _ _ => True)
        (race Unit oneNode oneNodeCluster) t ∧
      (t.prog none).result = some (.ok ()) ∧
      (t.shared.vnodes.get (NodeRepository.keyOf oneNode)).map VNodeCR.phase = some .ready := by
  have hrun : ∃ t, Threads.follow (handle Env.plain) wokenReconcile
        (race Unit oneNode oneNodeCluster) = some t ∧
      (t.prog none).result = some (.ok ()) ∧
      (t.shared.vnodes.get (NodeRepository.keyOf oneNode)).map VNodeCR.phase = some .ready :=
    ⟨_, rfl, by decide, by decide⟩
  obtain ⟨t, hfollow, hresult, hphase⟩ := hrun
  exact ⟨t, Threads.reaches_follow .start hfollow, hresult, hphase⟩

end VNodeOperator.Nodes
