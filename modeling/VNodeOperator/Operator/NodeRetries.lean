import VNodeOperator.Nodes.Heartbeat
import VNodeOperator.Nodes.Registration
import VNodeOperator.Operator.Queues
import VNodeOperator.Tenants.SharedCache

/-!
# The VNode controller keeps trying

Nothing but the events of its own VNode wakes `VNodeReconciler`, so a VNode that is
pending or not ready must bring its controller back by what a reconcile returns or
writes.  It does, with one exception: a reconcile takes a missing object for a deleted
VNode and stops, and a kubeconfig that is not there is a missing object too.
-/

namespace VNodeOperator.Operator

open Model Kube Ports Adapter ProofSupport Service Reconciler
open NodeRepository (keyOf conditionToCR conditionFromCR applyNodeStatus tenantOf)
open TenantClients (ValidSecretNames clusterBackend)
open Tenants (NothingMissing LedBySecret secret_missing_of_connect)

/-- The phases in which a VNode has to be reconciled again. -/
def Waiting (cr : VNodeCR) : Prop := cr.phase = .pending ∨ cr.phase = .notReady

def vnodeShown (k : ObjKey) (w : Cluster) : Option VNodeCR :=
  (w.vnodes.get k).map VNodeCR.content

def KeepsNode (name : String) (w w' : Cluster) : Prop :=
  ∀ cs, (((w.tenants cs).nodes.get name).isSome → ((w'.tenants cs).nodes.get name).isSome) ∧
    (((w.tenants cs).leases.get name).isSome → ((w'.tenants cs).leases.get name).isSome)

theorem KeepsNode.refl (name : String) (w : Cluster) : KeepsNode name w w :=
  fun _ => ⟨id, id⟩

theorem KeepsNode.trans {name : String} {w₁ w₂ w₃ : Cluster} (h : KeepsNode name w₁ w₂)
    (h' : KeepsNode name w₂ w₃) : KeepsNode name w₁ w₃ :=
  fun cs => ⟨fun hn => (h' cs).1 ((h cs).1 hn), fun hl => (h' cs).2 ((h cs).2 hl)⟩

/-- As long as the VNode waits, nobody else takes its tenant node or lease away. -/
def nodeOthers (k : ObjKey) (w w' : Cluster) : Prop :=
  (∃ cr, vnodeShown k w = some cr ∧ Waiting cr) → KeepsNode k.name w w'

/-- While a reconcile runs the others do not touch the VNode, or it is woken. -/
def nodeInterference (k : ObjKey) : Interference Cluster where
  inv _ := True
  rel w w' := vnodeShown k w' = vnodeShown k w ∧ nodeOthers k w w'
  refl w := ⟨rfl, fun _ => .refl _ w⟩
  trans := by
    rintro w₁ w₂ w₃ ⟨hshown, hothers⟩ ⟨hshown', hothers'⟩
    refine ⟨hshown'.trans hshown, fun hwaits => (hothers hwaits).trans (hothers' ?_)⟩
    rwa [hshown]
  keeps _ _ := trivial

def vnodeController (env : Env) (k : ObjKey) :
    Controller Request Request.Value Err (Result × Option Err) Cluster :=
  controller env (requests env) (VNode.reconcile k) VNode.enqueued k (nodeOthers k)

/-- What an idle controller has seen to: a VNode that still waits is not ready, and its
kubeconfig is not there. -/
def NodeSettled (env : Env) (k : ObjKey) (w : Cluster) : Prop :=
  ∀ cr, vnodeShown k w = some cr → Waiting cr →
    cr.phase = .notReady ∧
      ∃ e, env.connect (tenantOf cr.annotations) = .error e ∧ e.isNotFound = true

section

variable {env : Env} {k : ObjKey} {w : Cluster} {base : VNodeCR} {α : Type}

abbrev NodeUnwoken (env : Env) (k : ObjKey) (p : Req α) (Q : α → Cluster → Prop)
    (w : Cluster) : Prop :=
  Unwoken env (requests env) (VNode.reconcile k) VNode.enqueued k (nodeOthers k)
    (nodeInterference k) p Q w

theorem vnodeShown_quiet {w' : Cluster} (hquiet : k ∉ VNode.enqueued w w')
    (hw : vnodeShown k w = some base) : vnodeShown k w' = some base :=
  (get_of_notMem_forObject hquiet).trans hw

theorem vnodeShown_of_get {cr : VNodeCR} (hget : w.vnodes.get k = some cr) :
    vnodeShown k w = some cr.content := by
  rw [vnodeShown, hget]
  rfl

theorem get_of_vnodeShown (hw : vnodeShown k w = some base) :
    ∃ cr, w.vnodes.get k = some cr ∧ cr.content = base :=
  Option.map_eq_some_iff.mp hw

theorem nodeUnwoken_shown (p : Req α) (hw : vnodeShown k w = some base) :
    NodeUnwoken env k p (fun _ w' => vnodeShown k w' = some base) w := by
  refine Controller.Unwoken.kept ?_ ?_ p hw
  · intro w₁ w₂ hw₁ hrel
    exact hrel.1.trans hw₁
  · intro c w₁ hw₁ hquiet
    exact vnodeShown_quiet (of_decide_eq_false hquiet) hw₁

/-- One API request about a VNode that waits.  `R` is what its tenant holds, which others
keep. -/
theorem nodeUnwoken_request (hbase : Waiting base) (R : Cluster → Prop) {c : ApiCall}
    {f : c.Reply → Api α} {Q : α → Cluster → Prop} (hw : vnodeShown k w = some base) (hR : R w)
    (hothers : ∀ w₁ w₂, KeepsNode k.name w₁ w₂ → R w₁ → R w₂)
    (hreply : ∀ w', vnodeShown k w' = some base → R w' →
      vnodeShown k (api env c w').2 = some base →
      NodeUnwoken env k (apiRequests (f (api env c w').1)) Q (api env c w').2)
    (hfails : ∀ w' e, Outage e → NodeUnwoken env k (apiRequests (f (.error e))) Q w') :
    NodeUnwoken env k (apiRequests (request c >>= f)) Q w := by
  refine unwoken_request ?_ (fun w' e _ _ he => hfails w' e he)
    (fun w' e _ _ he _ => hfails _ e he)
  intro w' _ hrel hquiet
  have hw' : vnodeShown k w' = some base := hrel.1.trans hw
  exact hreply w' hw' (hothers w w' (hrel.2 ⟨base, hw, hbase⟩) hR) (vnodeShown_quiet hquiet hw')

/-! ## Saves that would change the VNode -/

def FailedWith (P : Err → Prop) {β : Type} (r : Except Err β) : Prop :=
  ∃ e, r = .error e ∧ P e

theorem outage_conflict (resource name : String) : Outage (conflictError resource name) := by
  simp [Outage, conflictError]

theorem Outage.not_ignorable {e : Err} (h : Outage e) :
    NodeRepository.isIgnorableClientError e = false :=
  h.shutdown

theorem nodeUnwoken_getVNode (hbase : Waiting base) (hw : vnodeShown k w = some base)
    {f : Except Err VNodeCR → Api α} {Q : α → Cluster → Prop}
    (hfound : ∀ w' cr, vnodeShown k w' = some base → cr.key = k →
      NodeUnwoken env k (apiRequests (f (.ok cr))) Q w')
    (hfails : ∀ w' e, Outage e → NodeUnwoken env k (apiRequests (f (.error e))) Q w') :
    NodeUnwoken env k (apiRequests (request (.getVNode k) >>= f)) Q w := by
  refine nodeUnwoken_request hbase (fun _ => True) hw trivial (fun _ _ _ => id) ?_ hfails
  intro w' hw' _ _
  obtain ⟨cr, hget, _⟩ := get_of_vnodeShown hw'
  simp only [api, find_some _ _ hget]
  exact hfound w' cr hw' (Store.key_of_get hget)

theorem api_updateVNode_stored (env : Env) {cr old : VNodeCR}
    (hget : w.vnodes.get cr.key = some old) :
    (api env (.updateVNode cr) w).1 = .ok () ∨
      ∃ e, (api env (.updateVNode cr) w).1 = .error e ∧ Outage e := by
  simp only [api, hget]
  split
  · exact Or.inr ⟨_, rfl, outage_conflict _ _⟩
  · exact Or.inl rfl

theorem api_updateVNodeStatus_stored (env : Env) {cr old : VNodeCR}
    (hget : w.vnodes.get cr.key = some old) :
    api env (.updateVNodeStatus cr) w = (.ok (), w.putVNode
        { old with
          resourceVersion := old.resourceVersion + 1
          phase := cr.phase
          conditions := cr.conditions }) ∨
      ∃ e, api env (.updateVNodeStatus cr) w = (.error e, w) ∧ Outage e := by
  simp only [api, hget]
  split
  · exact Or.inr ⟨_, rfl, outage_conflict _ _⟩
  · exact Or.inl rfl

/-- The annotations are written where they are there already; what fails is an outage or a
conflict. -/
theorem nodeUnwoken_updateAnnotations (hbase : Waiting base) {node : Model.VNode}
    (hkey : keyOf node = k) (hw : vnodeShown k w = some base) :
    NodeUnwoken env k (apiRequests (NodeRepository.updateAnnotations node))
      (fun r w' => vnodeShown k w' = some base ∧ ∀ e, r = .error e → Outage e) w := by
  refine unwoken_retryOnConflict ?_ _ hw
  intro w hw
  refine (nodeUnwoken_shown _ hw).and ?_
  rw [hkey]
  refine nodeUnwoken_getVNode hbase hw ?_ ?_
  · intro w' cr hw' hcr
    refine nodeUnwoken_request (f := pure) hbase (fun _ => True) hw' trivial
      (fun _ _ _ => id) ?_ ?_
    · intro w'' hw'' _ _
      obtain ⟨stored, hget, _⟩ := get_of_vnodeShown hw''
      let annotated : VNodeCR := { cr with
        annotations := NodeRepository.annotateTenant cr.annotations node.tenantRef }
      have hannotated : w''.vnodes.get annotated.key = some stored := by
        rw [← hget, ← hcr]
        rfl
      rcases api_updateVNode_stored env hannotated with hok | ⟨err, herr, houtage⟩
      · rw [hok]
        rintro e ⟨⟩
      · rw [herr]
        rintro e ⟨⟩
        exact houtage
    · rintro w'' e he _ ⟨⟩
      exact he
  · rintro w' e he _ ⟨⟩
    exact he

def Differs (base : VNodeCR) (node : Model.VNode) : Prop :=
  node.phase ≠ base.phase ∨ node.conditions.map conditionToCR ≠ base.conditions

/-- A status that differs cannot be written without waking the controller. -/
theorem nodeUnwoken_updateStatus (hbase : Waiting base) {node : Model.VNode}
    (hkey : keyOf node = k) (hdiffers : Differs base node) (hw : vnodeShown k w = some base) :
    NodeUnwoken env k (apiRequests (NodeRepository.updateStatus node))
      (fun r w' => vnodeShown k w' = some base ∧ FailedWith Outage r) w := by
  refine unwoken_retryOnConflict ?_ _ hw
  intro w hw
  refine (nodeUnwoken_shown _ hw).and ?_
  rw [hkey]
  refine nodeUnwoken_getVNode hbase hw ?_ ?_
  · intro w' cr hw' hcr
    refine nodeUnwoken_request hbase (fun _ => True) hw' trivial (fun _ _ _ => id) ?_ ?_
    · intro w'' hw'' _ hafter
      obtain ⟨stored, hget, hstored⟩ := get_of_vnodeShown hw''
      have hget' : w''.vnodes.get (applyNodeStatus cr node).key = some stored := by
        rw [← hget, ← hcr]
        rfl
      rcases api_updateVNodeStatus_stored env hget' with hok | ⟨e, herr, he⟩
      · -- the write would show
        let written : VNodeCR := { stored with
          resourceVersion := stored.resourceVersion + 1
          phase := node.phase
          conditions := node.conditions.map conditionToCR }
        have hstoredKey : stored.key = k := Store.key_of_get hget
        have hkey' : written.key = k := hstoredKey
        have hput : (w''.vnodes.put written).get k = some written := by
          rw [Store.get_put, if_pos hkey']
        have hshown : vnodeShown k (w''.putVNode written) = some base := by
          rw [hok] at hafter
          exact hafter
        rw [vnodeShown, Cluster.putVNode, hput, Option.map_some, Option.some.injEq,
          ← hstored] at hshown
        injection hshown with _ _ _ _ _ _ _ _ hphase hconditions
        rcases hdiffers with hne | hne
        · rw [← hstored] at hne
          exact absurd hphase hne
        · rw [← hstored] at hne
          exact absurd hconditions hne
      · rw [herr]
        dsimp only
        rw [he.not_ignorable]
        exact ⟨e, rfl, he⟩
    · intro w'' e he
      dsimp only
      rw [he.not_ignorable]
      exact ⟨e, rfl, he⟩
  · intro w' e he
    dsimp only
    rw [he.not_ignorable]
    exact ⟨e, rfl, he⟩

/-- A save that would change the status of a stored VNode fails, or wakes the controller. -/
theorem nodeUnwoken_save (hbase : Waiting base) {node : Model.VNode} (hkey : keyOf node = k)
    (hdiffers : Differs base node) (hw : vnodeShown k w = some base) :
    NodeUnwoken env k (requests env (.save node)) (fun r _ => FailedWith Outage r) w := by
  change NodeUnwoken env k (apiRequests (NodeRepository.save node)) _ w
  rw [NodeRepository.save, hkey]
  refine nodeUnwoken_getVNode hbase hw ?_ ?_
  · intro w' cr hw' _
    refine unwoken_apiBind (nodeUnwoken_updateAnnotations hbase hkey hw') ?_
    rintro r w'' ⟨hw'', hr⟩
    cases r with
    | error err =>
        have houtage := hr err rfl
        dsimp only
        rw [houtage.not_ignorable]
        exact ⟨err, rfl, houtage⟩
    | ok u =>
        apply (nodeUnwoken_updateStatus hbase hkey hdiffers hw'').mono
        exact fun _ _ h => h.2
  · intro w' e he
    dsimp only
    rw [he.isNotFound]
    exact ⟨e, rfl, he⟩

/-! ## What a registration can miss -/

def NotMissing {β : Type} (r : Except Err β) : Prop := ∀ e, r = .error e → e.isNotFound = false

theorem notMissing_error {β : Type} {e : Err} (h : e.isNotFound = false) :
    NotMissing (.error e : Except Err β) := by
  rintro _ ⟨⟩
  exact h

theorem notMissing_ok {β : Type} (b : β) : NotMissing (.ok b : Except Err β) := by
  rintro e ⟨⟩

theorem NotMissing.bind {β γ : Type} {x : Except Err β} {f : β → Except Err γ}
    (hx : NotMissing x) (hf : ∀ b, NotMissing (f b)) : NotMissing (x >>= f) := by
  cases x with
  | error e => exact notMissing_error (hx e rfl)
  | ok b => exact hf b

theorem notMissing_withStatus (current : TenantNode) (node : Model.VNode) :
    NotMissing (Registrar.withStatus env current node) := by
  have hentry : ∀ s, NotMissing (Registrar.parseEntry env s) := by
    intro s
    unfold Registrar.parseEntry
    split
    · exact notMissing_ok _
    · unfold Registrar.mustParse
      cases env.parseQuantity s with
      | none => exact notMissing_error rfl
      | some q => exact notMissing_ok _
  have hresources : ∀ r, NotMissing (Registrar.buildResources env r) := fun r =>
    (hentry r.cpu).bind fun _ => (hentry r.memory).bind fun _ => notMissing_ok _
  exact (hresources node.capacity).bind fun _ =>
    (hresources node.allocatable).bind fun _ => notMissing_ok _

def HasNode (k : ObjKey) (cs : Clientset) (w : Cluster) : Prop :=
  ((w.tenants cs).nodes.get k.name).isSome

def HasLease (k : ObjKey) (cs : Clientset) (w : Cluster) : Prop :=
  ((w.tenants cs).leases.get k.name).isSome

theorem nodeUnwoken_notMissing (hbase : Waiting base) (R R' : Cluster → Prop) {c : ApiCall}
    {f : c.Reply → Api α} {Q : α → Cluster → Prop} (hw : vnodeShown k w = some base) (hR : R w)
    (hothers : ∀ w₁ w₂, KeepsNode k.name w₁ w₂ → R w₁ → R w₂)
    (hreply : ∀ w', R w' → NotMissing (api env c w').1 ∧ R' (api env c w').2)
    (herror : ∀ w' e, e.isNotFound = false →
      NodeUnwoken env k (apiRequests (f (.error e))) Q w')
    (hok : ∀ w' v, vnodeShown k w' = some base → R' w' →
      NodeUnwoken env k (apiRequests (f (.ok v))) Q w') :
    NodeUnwoken env k (apiRequests (request c >>= f)) Q w := by
  refine nodeUnwoken_request hbase R hw hR hothers ?_ fun w' e he => herror w' e he.isNotFound
  intro w' _ hR' hw'
  obtain ⟨hmissing, hafter⟩ := hreply w' hR'
  cases hr : (api env c w').1 with
  | error e => exact herror _ e (hmissing e hr)
  | ok v => exact hok _ v hw' hafter

section

variable {cs : Clientset} {tn : TenantNode} {lease : Lease}

theorem hasNode_putNode (hname : tn.name = k.name) : HasNode k cs (w.putNode cs tn) := by
  simp only [HasNode, Cluster.putNode, Cluster.setTenant, Function.update_self, ← hname,
    Store.get_put_self, Option.isSome_some]

theorem createNode_reply (hname : tn.name = k.name) :
    NotMissing (api env (.createNode cs tn) w).1 ∧
      HasNode k cs (api env (.createNode cs tn) w).2 := by
  cases hget : (w.tenants cs).nodes.get tn.name with
  | none =>
      simp only [api, hget]
      exact ⟨notMissing_ok (), hasNode_putNode hname⟩
  | some old =>
      have hnode : HasNode k cs w := by
        rw [HasNode, ← hname, hget]
        rfl
      simp only [api, hget]
      refine ⟨?_, hnode⟩
      rintro e ⟨⟩
      rfl

theorem updateNode_reply (hname : tn.name = k.name) (hnode : HasNode k cs w) :
    NotMissing (api env (.updateNode cs tn) w).1 ∧
      HasNode k cs (api env (.updateNode cs tn) w).2 := by
  obtain ⟨old, hget⟩ := Option.isSome_iff_exists.mp hnode
  rw [← hname] at hget
  have hold : old.name = k.name := (Store.key_of_get hget).trans hname
  simp only [api, hget]
  exact ⟨notMissing_ok (), hasNode_putNode hold⟩

theorem updateNodeStatus_reply (hname : tn.name = k.name) (hnode : HasNode k cs w) :
    NotMissing (api env (.updateNodeStatus cs tn) w).1 ∧
      HasNode k cs (api env (.updateNodeStatus cs tn) w).2 := by
  obtain ⟨old, hget⟩ := Option.isSome_iff_exists.mp hnode
  rw [← hname] at hget
  have hold : old.name = k.name := (Store.key_of_get hget).trans hname
  simp only [api, hget]
  exact ⟨notMissing_ok (), hasNode_putNode hold⟩

theorem createLeaseNamespace_reply : NotMissing (api env (.createLeaseNamespace cs) w).1 := by
  cases hns : (w.tenants cs).hasLeaseNamespace <;> simp only [api, hns] <;> rintro e ⟨⟩
  rfl

theorem createLease_reply : NotMissing (api env (.createLease cs lease) w).1 := by
  cases hget : (w.tenants cs).leases.get lease.name with
  | none =>
      simp only [api, hget]
      exact notMissing_ok ()
  | some old =>
      simp only [api, hget]
      rintro e ⟨⟩
      rfl

theorem updateLease_reply (hname : lease.name = k.name) (hlease : HasLease k cs w) :
    NotMissing (api env (.updateLease cs lease) w).1 := by
  obtain ⟨old, hget⟩ := Option.isSome_iff_exists.mp hlease
  rw [← hname] at hget
  simp only [api, hget]
  exact notMissing_ok ()

theorem nodeUnwoken_ensureLeaseNamespace (hbase : Waiting base) (cs : Clientset)
    (hw : vnodeShown k w = some base) :
    NodeUnwoken env k (apiRequests (Registrar.ensureLeaseNamespace cs))
      (fun r _ => NotMissing r) w := by
  refine nodeUnwoken_request hbase (fun _ => True) hw trivial (fun _ _ _ => id) ?_ ?_
  · intro w' _ _ hw'
    cases hns : (w'.tenants cs).hasLeaseNamespace with
    | true =>
        simp only [api, hns]
        exact notMissing_ok ()
    | false =>
        have hcall : api env (.getLeaseNamespace cs) w' =
            (.error (notFoundError "namespaces" "kube-node-lease"), w') := by
          simp only [api, hns, Bool.false_eq_true, if_false]
        rw [hcall] at hw' ⊢
        refine nodeUnwoken_notMissing hbase (fun _ => True) (fun _ => True) hw' trivial
          (fun _ _ _ => id) (fun w'' _ => ⟨createLeaseNamespace_reply, trivial⟩) ?_
          (fun _ _ _ _ => notMissing_ok ())
        intro w'' e he
        apply Controller.Unwoken.pure
        split
        · exact notMissing_ok ()
        · exact notMissing_error he
  · intro w' e he
    dsimp only
    rw [he.isNotFound]
    exact notMissing_error he.isNotFound

/-- The node is there after an upsert, and what fails is not that it is missing. -/
theorem nodeUnwoken_upsertNode (hbase : Waiting base) (cs : Clientset) {node : Model.VNode}
    (hname : node.name = k.name) (hw : vnodeShown k w = some base) :
    NodeUnwoken env k (apiRequests (Registrar.upsertNode cs node))
      (fun r w' => NotMissing r ∧ (r = .ok () → HasNode k cs w')) w := by
  have hfailed : ∀ (w' : Cluster) (e : Err) (context : String), e.isNotFound = false →
      NotMissing (.error (e.wrap context) : Except Err Unit) ∧
        ((.error (e.wrap context) : Except Err Unit) = .ok () → HasNode k cs w') := by
    refine fun w' e context he => ⟨notMissing_error he, ?_⟩
    rintro ⟨⟩
  refine nodeUnwoken_request hbase (fun _ => True) hw trivial (fun _ _ _ => id) ?_ ?_
  · intro w' _ _ hw'
    cases hget : (w'.tenants cs).nodes.get node.name with
    | none =>
        have hcall : api env (.getNode cs node.name) w' =
            (.error (notFoundError "nodes" node.name), w') := by
          simp only [api, find_none _ _ hget]
        rw [hcall] at hw' ⊢
        exact nodeUnwoken_notMissing hbase (fun _ => True) (HasNode k cs) hw' trivial
          (fun _ _ _ => id) (fun w'' _ => createNode_reply hname) (fun _ _ => hfailed _ _ _)
          (fun _ _ _ hnode => ⟨notMissing_ok (), fun _ => hnode⟩)
    | some current =>
        have hcall : api env (.getNode cs node.name) w' = (.ok current, w') := by
          simp only [api, find_some _ _ hget]
        have hnode : HasNode k cs w' := by
          rw [HasNode, ← hname, hget]
          rfl
        have hcurrent : current.name = k.name := (Store.key_of_get hget).trans hname
        rw [hcall] at hw' ⊢
        exact nodeUnwoken_notMissing hbase (HasNode k cs) (HasNode k cs) hw' hnode
          (fun _ _ hkeeps => (hkeeps cs).1) (fun w'' => updateNode_reply hcurrent)
          (fun _ _ => hfailed _ _ _) (fun _ _ _ hnode => ⟨notMissing_ok (), fun _ => hnode⟩)
  · intro w' e he
    dsimp only
    rw [he.isNotFound]
    exact hfailed _ _ _ he.isNotFound

theorem nodeUnwoken_hasNode {p : Api α} (hp : Prog.Uses Registrar.StatusRequest p)
    (hbase : Waiting base) (hw : vnodeShown k w = some base) (hnode : HasNode k cs w) :
    NodeUnwoken env k (apiRequests p)
      (fun _ w' => vnodeShown k w' = some base ∧ HasNode k cs w') w := by
  have huses : Prog.Uses (onApi Registrar.StatusRequest) (apiRequests p) := uses_apiRequests hp
  refine Controller.Unwoken.of_uses huses ?_ ?_ ⟨hw, hnode⟩
  · rintro w₁ w₂ ⟨hw₁, hnode₁⟩ hrel
    exact ⟨hrel.1.trans hw₁, (hrel.2 ⟨base, hw₁, hbase⟩ cs).1 hnode₁⟩
  · rintro c w₁ hc ⟨hw₁, hnode₁⟩ hquiet
    refine ⟨vnodeShown_quiet (of_decide_eq_false hquiet) hw₁, ?_⟩
    cases c with
    | port c => exact hc.elim
    | api c =>
        obtain ⟨n, hn⟩ := Option.isSome_iff_exists.mp hnode₁
        have hthere : Nodes.NodeIs cs k.name (fun m => m.taints = n.taints) (api env c w₁).2 :=
          Nodes.tainted_api (Nodes.keepsTaints_of_statusRequest hc) ⟨n, hn, rfl⟩
        obtain ⟨n', hn', _⟩ := hthere
        exact Option.isSome_iff_exists.mpr ⟨n', hn'⟩

theorem nodeUnwoken_writeNodeStatus (hbase : Waiting base) {node : Model.VNode}
    (hname : node.name = k.name) (hw : vnodeShown k w = some base) (hnode : HasNode k cs w) :
    NodeUnwoken env k (apiRequests (Registrar.writeNodeStatus env cs node))
      (fun r w' => vnodeShown k w' = some base ∧ NotMissing r) w := by
  refine (nodeUnwoken_shown _ hw).and ?_
  refine Controller.Unwoken.mono (unwoken_retryOnConflict
    (P := fun w' => vnodeShown k w' = some base ∧ HasNode k cs w')
    (Q := fun r _ => NotMissing r) ?_ _ ⟨hw, hnode⟩) fun _ _ h => h.2
  rintro w ⟨hw, hnode⟩
  refine ((nodeUnwoken_hasNode ?_ hbase hw hnode)).and ?_
  · refine Prog.Uses.bind (Prog.Uses.perform trivial) ?_
    intro r
    cases r with
    | error err => exact Prog.Uses.pure _
    | ok current =>
        dsimp only
        split
        · exact Prog.Uses.pure _
        · exact Prog.Uses.perform trivial
  · refine nodeUnwoken_request hbase (HasNode k cs) hw hnode (fun _ _ hkeeps => (hkeeps cs).1)
      ?_ (fun _ _ he => notMissing_error he.isNotFound)
    intro w' hw' hnode _
    obtain ⟨current, hget⟩ := Option.isSome_iff_exists.mp hnode
    rw [← hname] at hget
    simp only [api, find_some _ _ hget]
    split
    · next e he => exact notMissing_error (notMissing_withStatus current node e he)
    · next updated hupdated =>
        have hupdatedName : updated.name = k.name := by
          rw [(Nodes.withStatus_eq_ok hupdated).2]
          exact (Store.key_of_get hget).trans hname
        exact nodeUnwoken_notMissing (f := pure) hbase (HasNode k cs) (HasNode k cs) hw' hnode
          (fun _ _ hkeeps => (hkeeps cs).1) (fun _ => updateNodeStatus_reply hupdatedName)
          (fun _ _ he => notMissing_error he) (fun _ _ _ _ => notMissing_ok ())

theorem nodeUnwoken_upsertLease (hbase : Waiting base) (hw : vnodeShown k w = some base) :
    NodeUnwoken env k (apiRequests (Registrar.upsertLease cs k.name))
      (fun r _ => NotMissing r) w := by
  refine nodeUnwoken_request hbase (fun _ => True) hw trivial (fun _ _ _ => id) ?_ ?_
  · intro w' _ _ hw'
    cases hget : (w'.tenants cs).leases.get k.name with
    | none =>
        have hcall : api env (.getLease cs k.name) w' =
            (.error (notFoundError "leases.coordination.k8s.io" k.name), w') := by
          simp only [api, find_none _ _ hget]
        rw [hcall] at hw' ⊢
        exact nodeUnwoken_notMissing hbase (fun _ => True) (fun _ => True) hw' trivial
          (fun _ _ _ => id) (fun w'' _ => ⟨createLease_reply, trivial⟩)
          (fun _ _ he => notMissing_error he) (fun _ _ _ _ => notMissing_ok ())
    | some current =>
        have hcall : api env (.getLease cs k.name) w' = (.ok current, w') := by
          simp only [api, find_some _ _ hget]
        have hlease : HasLease k cs w' := by
          rw [HasLease, hget]
          rfl
        have hcurrent : current.name = k.name := Store.key_of_get hget
        rw [hcall] at hw' ⊢
        exact nodeUnwoken_notMissing hbase (HasLease k cs) (fun _ => True) hw' hlease
          (fun _ _ hkeeps => (hkeeps cs).2)
          (fun w'' hlease => ⟨updateLease_reply hcurrent hlease, trivial⟩)
          (fun _ _ he => notMissing_error he) (fun _ _ _ _ => notMissing_ok ())
  · intro w' e he
    dsimp only
    rw [he.isNotFound]
    exact notMissing_error he.isNotFound

/-- A registration or a status update misses nothing but the kubeconfig. -/
def MissingKubeconfig (env : Env) (tenant : TenantRef) (r : Except Err Unit) : Prop :=
  ∀ e, r = .error e → e.isNotFound = true →
    ∃ e', env.connect tenant = .error e' ∧ e'.isNotFound = true

theorem NotMissing.missingKubeconfig {tenant : TenantRef} {r : Except Err Unit}
    (h : NotMissing r) : MissingKubeconfig env tenant r := by
  intro e he hmissing
  rw [h e he] at hmissing
  cases hmissing

theorem nodeUnwoken_getClient (hbase : Waiting base) (R : Cluster → Prop) {tenant : TenantRef}
    {f : Except Err Clientset → Api (Except Err Unit)} (hw : vnodeShown k w = some base)
    (hR : R w) (hothers : ∀ w₁ w₂, KeepsNode k.name w₁ w₂ → R w₁ → R w₂)
    (herror : ∀ e, f (.error e) = pure (.error e))
    (hok : ∀ w' cs, env.connect tenant = .ok cs → vnodeShown k w' = some base → R w' →
      NodeUnwoken env k (apiRequests (f (.ok cs))) (fun r _ => MissingKubeconfig env tenant r)
        w') :
    NodeUnwoken env k (apiRequests (request (.getClient tenant) >>= f))
      (fun r _ => MissingKubeconfig env tenant r) w := by
  refine nodeUnwoken_request hbase R hw hR hothers ?_ ?_
  · intro w' _ hR' hw'
    simp only [api] at hw' ⊢
    cases hconnect : env.connect tenant with
    | error e =>
        rw [herror]
        rintro _ ⟨⟩ hmissing
        exact ⟨e, hconnect, hmissing⟩
    | ok cs => exact hok w' cs hconnect hw' hR'
  · intro w' e he
    rw [herror]
    exact (notMissing_error he.isNotFound).missingKubeconfig

theorem nodeUnwoken_updateNodeStatus (hbase : Waiting base) {node : Model.VNode}
    {tenant : TenantRef} (hname : node.name = k.name) (hw : vnodeShown k w = some base)
    (hconnect : env.connect tenant = .ok cs) (hnode : HasNode k cs w) :
    NodeUnwoken env k (apiRequests (Registrar.updateNodeStatus env node tenant))
      (fun r _ => MissingKubeconfig env tenant r) w := by
  unfold Registrar.updateNodeStatus
  split
  · exact (notMissing_ok ()).missingKubeconfig
  · refine nodeUnwoken_getClient hbase (HasNode k cs) hw hnode (fun _ _ hkeeps => (hkeeps cs).1)
      (fun _ => rfl) ?_
    intro w' cs' hconnect' hw' hnode
    obtain rfl : cs = cs' := Except.ok.inj (hconnect.symm.trans hconnect')
    refine unwoken_apiBind (nodeUnwoken_writeNodeStatus hbase hname hw' hnode) ?_
    rintro r w'' ⟨hw'', hr⟩
    cases r with
    | error e =>
        have hwrapped : NotMissing (.error (e.wrap ("updating tenant node " ++ node.name ++
          " status")) : Except Err Unit) := notMissing_error (hr e rfl)
        exact hwrapped.missingKubeconfig
    | ok u =>
        dsimp only
        rw [hname]
        apply (nodeUnwoken_upsertLease hbase hw'').mono
        exact fun _ _ h => h.missingKubeconfig

theorem nodeUnwoken_register (hbase : Waiting base) {node : Model.VNode} {tenant : TenantRef}
    (hname : node.name = k.name) (hw : vnodeShown k w = some base) :
    NodeUnwoken env k (requests env (.register node tenant))
      (fun r w' => vnodeShown k w' = some base ∧ MissingKubeconfig env tenant r) w := by
  refine (nodeUnwoken_shown _ hw).and ?_
  change NodeUnwoken env k (apiRequests (Registrar.register env node tenant)) _ w
  refine nodeUnwoken_getClient hbase (fun _ => True) hw trivial (fun _ _ _ => id)
    (fun _ => rfl) ?_
  intro w' cs hconnect hw' _
  refine unwoken_apiBind ((nodeUnwoken_shown _ hw').and
    (nodeUnwoken_ensureLeaseNamespace hbase cs hw')) ?_
  rintro r w' ⟨hw', hr⟩
  cases r with
  | error e => exact (notMissing_error (hr e rfl)).missingKubeconfig
  | ok u =>
      refine unwoken_apiBind ((nodeUnwoken_shown _ hw').and
        (nodeUnwoken_upsertNode hbase cs hname hw')) ?_
      rintro r w'' ⟨hw'', hr, hnode⟩
      cases r with
      | error e => exact (notMissing_error (hr e rfl)).missingKubeconfig
      | ok u => exact nodeUnwoken_updateNodeStatus hbase hname hw'' hconnect (hnode rfl)

end

/-! ## The reconcile -/

/-- How a status update of a VNode that waits ends: it is well, or it fails in a way that is
reported, or the kubeconfig is missing. -/
def Ended (env : Env) (cr : VNodeCR) (r : Except Err Unit) : Prop :=
  ∀ e, r = .error e → NodeService.isIgnorableStatusError e = false ∧
    (e.isNotFound = true → cr.phase = .notReady ∧
      ∃ e', env.connect (tenantOf cr.annotations) = .error e' ∧ e'.isNotFound = true)

theorem Outage.ended {cr : VNodeCR} {e : Err} (h : Outage e) : Ended env cr (.error e) := by
  rintro _ ⟨⟩
  refine ⟨h.shutdown, fun hmissing => ?_⟩
  rw [h.isNotFound] at hmissing
  cases hmissing

theorem ended_ok {cr : VNodeCR} : Ended env cr (.ok ()) := by
  rintro e ⟨⟩

section

variable {cr : VNodeCR}

theorem nodeUnwoken_saveReady (hwaits : Waiting cr.content) (hkey : cr.key = k)
    (hw : vnodeShown k w = some cr.content) :
    NodeUnwoken env k ((NodeService.saveReady (VNode.nodeOf cr)).expand (requests env))
      (fun r _ => Ended env cr r) w := by
  have hdiffers : Differs cr.content (NodeService.asReady (VNode.nodeOf cr)) := by
    refine Or.inl fun hphase => ?_
    rcases hwaits with h | h <;>
    · rw [← hphase] at h
      cases h
  refine unwoken_ask (nodeUnwoken_save hwaits hkey hdiffers hw) ?_
  rintro r w' ⟨e, rfl, he⟩
  dsimp only
  rw [show NodeService.isIgnorableStatusError e = false from he.shutdown]
  exact he.ended

theorem differs_registrationFailed {e : Err}
    (h : (VNode.nodeOf cr).phase ≠ .notReady ∨
      !NodeService.hasRegisteredCondition (VNode.nodeOf cr)) :
    Differs cr.content (NodeService.asNotReady (VNode.nodeOf cr)
      (NodeService.registrationFailedConditions e)) := by
  rcases h with hphase | hregistered
  · exact Or.inl (Ne.symm hphase)
  · refine Or.inr fun hconditions => ?_
    have hsame : (VNode.nodeOf cr).conditions =
        ((NodeService.registrationFailedConditions e).map conditionToCR).map conditionFromCR :=
      congrArg (List.map conditionFromCR) hconditions.symm
    rw [NodeService.hasRegisteredCondition, hsame] at hregistered
    cases hregistered

/-- Without a first registration the VNode has no condition a failed heartbeat leaves. -/
theorem differs_syncFailed {msg : String} (hwaits : Waiting cr.content)
    (h : NodeService.shouldRetryRegistration (VNode.nodeOf cr) = false) :
    Differs cr.content (NodeService.asNotReady (VNode.nodeOf cr)
      [ ⟨.ready, false, "StatusSyncFailed", msg⟩,
        ⟨.degraded, true, "StatusSyncFailed", msg⟩ ]) := by
  refine Or.inr fun hconditions => ?_
  have hsame : (VNode.nodeOf cr).conditions =
      (([ ⟨.ready, false, "StatusSyncFailed", msg⟩,
        ⟨.degraded, true, "StatusSyncFailed", msg⟩ ] : List NodeCondition).map
          conditionToCR).map conditionFromCR :=
    congrArg (List.map conditionFromCR) hconditions.symm
  have hphase : ¬((VNode.nodeOf cr).phase ≠ .pending ∧ (VNode.nodeOf cr).phase ≠ .notReady) :=
    fun hne => hwaits.elim hne.1 hne.2
  rw [NodeService.shouldRetryRegistration, if_neg hphase, hsame] at h
  cases h

theorem nodeUnwoken_retryRegistration (hwaits : Waiting cr.content) (hkey : cr.key = k)
    (hw : vnodeShown k w = some cr.content) :
    NodeUnwoken env k ((NodeService.retryRegistration (VNode.nodeOf cr)).expand (requests env))
      (fun r _ => Ended env cr r) w := by
  have hname : (VNode.nodeOf cr).name = k.name := congrArg ObjKey.name hkey
  refine unwoken_ask (nodeUnwoken_register hwaits hname hw) ?_
  rintro r w' ⟨hw', hmissing⟩
  cases r with
  | ok u => exact nodeUnwoken_saveReady hwaits hkey hw'
  | error e =>
      dsimp only
      split
      · exact ended_ok
      · next hignorable =>
          split
          · next hsave =>
              refine unwoken_ask (nodeUnwoken_save hwaits hkey (differs_registrationFailed hsave)
                hw') ?_
              rintro r w'' ⟨e', rfl, he'⟩
              dsimp only
              rw [show NodeService.isIgnorableStatusError e' = false from he'.shutdown]
              exact Outage.ended (e := e'.wrap _) he'
          · next hsaved =>
              -- the only error that goes back as it came
              rintro _ ⟨⟩
              refine ⟨Bool.not_eq_true _ ▸ hignorable, fun hnotFound => ⟨?_, ?_⟩⟩
              · exact not_not.mp fun hphase => hsaved (Or.inl hphase)
              · exact hmissing e rfl hnotFound

theorem nodeUnwoken_syncNodeStatus (hwaits : Waiting cr.content) (hkey : cr.key = k)
    (hregistered : NodeService.shouldRetryRegistration (VNode.nodeOf cr) = false)
    (hw : vnodeShown k w = some cr.content) :
    NodeUnwoken env k ((NodeService.syncNodeStatus (VNode.nodeOf cr)).expand (requests env))
      (fun r _ => Ended env cr r) w := by
  refine unwoken_ask (nodeUnwoken_shown _ hw) ?_
  intro r w' hw'
  cases r with
  | error e =>
      dsimp only
      split
      · exact ended_ok
      · refine unwoken_ask (nodeUnwoken_save hwaits hkey (differs_syncFailed hwaits hregistered)
          hw') ?_
        rintro r w'' ⟨e', rfl, he'⟩
        dsimp only
        rw [show NodeService.isIgnorableStatusError e' = false from he'.shutdown]
        exact Outage.ended (e := e'.wrap _) he'
  | ok u =>
      dsimp only
      split
      · exact ended_ok
      · exact nodeUnwoken_saveReady hwaits hkey hw'

theorem nodeUnwoken_reconcileCR (hkey : cr.key = k) (hw : vnodeShown k w = some cr.content) :
    NodeUnwoken env k ((VNode.reconcileCR cr).expand (requests env))
      (fun r w' => comesAgain r = false → NodeSettled env k w') w := by
  by_cases hwaits : Waiting cr.content
  · have hupdate : NodeUnwoken env k
        ((NodeService.updateStatus (VNode.nodeOf cr)).expand (requests env))
        (fun r _ => Ended env cr r) w := by
      unfold NodeService.updateStatus
      split
      · exact ended_ok
      · split
        · exact nodeUnwoken_retryRegistration hwaits hkey hw
        · next hregistered =>
            exact nodeUnwoken_syncNodeStatus hwaits hkey (Bool.not_eq_true _ ▸ hregistered) hw
    refine unwoken_bind ((nodeUnwoken_shown _ hw).and hupdate) ?_
    rintro r w' ⟨hw', hended⟩
    cases r with
    | error e =>
        obtain ⟨hreported, hmissing⟩ := hended e rfl
        dsimp only
        rw [hreported, Bool.or_false]
        split
        · next hnotFound =>
            intro _ cr' hcr' _
            rw [hw', Option.some.injEq] at hcr'
            rw [← hcr']
            exact hmissing hnotFound
        · intro hdone
          cases hdone
    | ok u =>
        have hrequeue : VNode.shouldRequeueVNode (VNode.nodeOf cr) = true :=
          (Nodes.shouldRequeueVNode_iff _).mpr hwaits
        have hagain : ∀ time, comesAgain
            ({ requeueAfter := VNode.requeueBackoff (time - cr.creationTimestamp) }, none)
            = true := by
          intro time
          simp [comesAgain, Nodes.requeueBackoff_pos]
        dsimp only
        rw [if_pos hrequeue]
        apply (Controller.Unwoken.of_returns (P := fun r => comesAgain r = true) ?_).mono
        · intro r w'' hr hdone
          rw [hr] at hdone
          cases hdone
        · refine Prog.Returns.expand (Prog.Returns.bind (Prog.Returns.always now) ?_) _
          intro time _
          exact hagain time
  · refine (nodeUnwoken_shown _ hw).mono ?_
    intro r w' hw' _ cr' hcr' hwaits'
    rw [hw', Option.some.injEq] at hcr'
    exact absurd (hcr' ▸ hwaits') hwaits

theorem nodeUnwoken_reconcile :
    NodeUnwoken env k ((VNode.reconcile k).expand (requests env))
      (fun r w' => comesAgain r = false → NodeSettled env k w') w := by
  refine unwoken_ask (Q := fun r w' => match r with
    | .ok cr => w'.vnodes.get k = some cr
    | .error e => Outage e ∨ w'.vnodes.get k = none)
    (Controller.Unwoken.read (fun _ => rfl) ?_ fun _ _ _ _ he => Or.inl he) ?_
  · intro w' _ _
    cases hget : w'.vnodes.get k with
    | none =>
        simp only [controller, serve, api, find_none _ _ hget]
        exact Or.inr trivial
    | some cr => simp only [controller, serve, api, find_some _ _ hget]
  · intro r w' hr
    cases r with
    | ok cr => exact nodeUnwoken_reconcileCR (Store.key_of_get hr) (vnodeShown_of_get hr)
    | error e =>
        intro hdone cr hcr _
        rcases hr with houtage | hnone
        · rw [houtage.isNotFound] at hdone
          cases hdone
        · rw [vnodeShown, hnone] at hcr
          cases hcr

theorem settles_vnodeController :
    Controller.Settles (vnodeController env k) (nodeInterference k) (NodeSettled env k) where
  contract := ⟨_, Prog.Meets.always _, fun _ _ => trivial, fun _ _ _ _ => ⟨trivial, trivial⟩⟩
  others _ _ := trivial
  quiet _ hothers hquiet :=
    ⟨get_of_notMem_forObject (of_decide_eq_false hquiet), hothers⟩
  reconcile _ _ := nodeUnwoken_reconcile
  unlisted := by
    intro w hlisted cr hcr _
    have hnone : vnodeShown k w = none := get_of_notMem_forObject (of_decide_eq_false hlisted)
    rw [hnone] at hcr
    cases hcr
  good hgood hrel cr hcr := hgood cr (hrel.1 ▸ hcr)

end

end

/-- Whatever happens, fails or crashes, the VNode controller is idle about a VNode that is
pending or not ready only where the tenant's kubeconfig is missing; so where tenant
references lead where the host's secrets say, that secret is not there. -/
theorem vnode_idle_only_without_kubeconfig (env : Env) (k : ObjKey) (w : Cluster)
    (x : Controller.Worker Request Request.Value Err (Result × Option Err) Cluster)
    (hreach : Controller.Reachable (vnodeController env k) w x)
    (hidle : x.running = none ∧ x.queued = false)
    (cr : VNodeCR) (hcr : x.state.vnodes.get k = some cr)
    (hwaits : cr.phase = .pending ∨ cr.phase = .notReady) :
    cr.phase = .notReady ∧
      (∃ e, env.connect (tenantOf cr.annotations) = .error e ∧ e.isNotFound = true) ∧
      ∀ {Config : Type} (restConfig : List UInt8 → Except Err Config)
        (factory : Config → Except Err Clientset) (hvalid : ValidSecretNames x.state),
        NothingMissing restConfig factory →
        LedBySecret env restConfig factory ⟨x.state, hvalid⟩ (tenantOf cr.annotations) →
        x.state.hostSecrets.get ⟨(tenantOf cr.annotations).vclusterNamespace,
          (tenantOf cr.annotations).kubeconfigSecret⟩ = none := by
  obtain ⟨hphase, e, he, hmissing⟩ := Controller.idle_of_reachable settles_vnodeController trivial
    hreach hidle.1 hidle.2 cr.content (vnodeShown_of_get hcr) hwaits
  refine ⟨hphase, ⟨e, he, hmissing⟩, ?_⟩
  intro Config restConfig factory hvalid hbuilders hled
  exact secret_missing_of_connect hbuilders (hled.symm.trans he) hmissing

def forgottenVNode : VNodeCR where
  name := "vnode-web-1"
  ns := "host"
  annotations := NodeRepository.annotateTenant ∅
    { vclusterName := "acme", vclusterNamespace := "host", kubeconfigSecret := "acme-kubeconfig" }
  phase := .notReady
  conditions := (NodeService.registrationFailedConditions
    (notFoundError "secrets" "acme-kubeconfig")).map conditionToCR

def secretlessCluster : Cluster :=
  { vnodes := Store.empty.put forgottenVNode, tenants := fun _ => {} }

theorem validSecretNames_secretlessCluster : ValidSecretNames secretlessCluster := by
  intro ns name secret hsecret
  cases hsecret

def noKubeconfig : Env :=
  { Env.plain with
    connect := Tenants.connect (clusterBackend Env.plain (fun _ => .ok ()) fun _ => .ok ⟨"acme"⟩)
      ⟨secretlessCluster, validSecretNames_secretlessCluster⟩ }

theorem forgottenVNode_idle :
    ∃ x, Controller.Reachable (vnodeController noKubeconfig forgottenVNode.key)
        secretlessCluster x ∧
      (x.running = none ∧ x.queued = false) ∧
      x.state.vnodes.get forgottenVNode.key = some forgottenVNode ∧
      forgottenVNode.phase = .notReady ∧
      (∃ e, noKubeconfig.connect (tenantOf forgottenVNode.annotations) = .error e ∧
        e.isNotFound = true) ∧
      x.state.hostSecrets.get ⟨"host", "acme-kubeconfig"⟩ = none := by
  have hrun : ∃ x, Controller.Reachable (vnodeController noKubeconfig forgottenVNode.key)
        secretlessCluster x ∧
      (x.running = none ∧ x.queued = false) ∧
      x.state = secretlessCluster :=
    ⟨_, .step (.step (.step (.step .start .start) .call) .call) .finish, ⟨rfl, by decide⟩, rfl⟩
  obtain ⟨⟨_, _, _⟩, hreach, hidle, rfl⟩ := hrun
  have hcr : secretlessCluster.vnodes.get forgottenVNode.key = some forgottenVNode := by decide
  obtain ⟨hphase, hmissing, hsecret⟩ := vnode_idle_only_without_kubeconfig noKubeconfig
    forgottenVNode.key _ _ hreach hidle forgottenVNode hcr (Or.inr rfl)
  have hbuilders : NothingMissing (fun _ => .ok ()) fun _ => .ok ⟨"acme"⟩ := by
    constructor
    all_goals
      intro _ _ h
      cases h
  have hgone := hsecret _ _ validSecretNames_secretlessCluster hbuilders rfl
  rw [forgottenVNode, NodeRepository.tenantOf_annotateTenant] at hgone
  exact ⟨_, hreach, hidle, hcr, hphase, hmissing, hgone⟩

end VNodeOperator.Operator
