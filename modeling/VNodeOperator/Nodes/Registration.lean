import VNodeOperator.ProofSupport.Faults
import VNodeOperator.Requests

/-!
# Saving and registering, request by request

What a `Save`, a `Register` or an `UpdateNodeStatus` guarantees when any of its
requests may fail, or take effect and lose its response.  A call that reports
success has done all its work; one that reports an error has done some of it.
-/

namespace VNodeOperator.Nodes

open Model Kube Adapter Ports ProofSupport

theorem robust_retryOnConflict {C : Type} {V : C → Type} {σ : Type}
    {h : Handler C (fun c => Except Err (V c)) σ} {A : C → Prop} {J : σ → Prop}
    {Q : Except Err Unit → σ → Prop} {fn : Prog C (fun c => Except Err (V c)) (Except Err Unit)}
    (hfn : ∀ s, J s → Robust h A fn (fun r s' => J s' ∧ Q r s') s) (n : Nat) {s : σ}
    (hs : J s) : Robust h A (retryOnConflict n fn) (fun r s' => J s' ∧ Q r s') s := by
  induction n generalizing s with
  | zero => exact hfn s hs
  | succ n ih =>
      rw [retryOnConflict]
      apply Robust.bind
      apply Robust.mono (hfn s hs)
      intro r s' hr
      cases r with
      | ok u => exact Robust.pure hr
      | error err =>
          dsimp only
          split
          · exact ih hr.1
          · exact Robust.pure hr

variable {env : Env}

theorem robust_step {c : ApiCall} {I : Cluster → Prop} {w : Cluster} (hI : I w)
    (hstep : I (api env c w).2) :
    Robust (api env) (fun _ => True) (request c) (fun _ w' => I w') w :=
  Robust.perform trivial hstep (fun _ => hI) (fun _ => hstep)

/-! ## The stored virtual nodes -/

/-- The same virtual node of the same pool: only annotations and status may have
changed. -/
structure SameSpec (old cr : VNodeCR) : Prop where
  key : cr.key = old.key
  labels : cr.labels = old.labels
  poolRef : cr.poolRef = old.poolRef
  capacity : cr.capacity = old.capacity

section

variable {node : VNode} {J : Store VNodeCR.key → Prop}

structure SaveKeeps (node : VNode) (J : Store VNodeCR.key → Prop) : Prop where
  create : ∀ s clock, J s → s.get (NodeRepository.keyOf node) = none →
    J (s.put { NodeRepository.newCR node with resourceVersion := 1, creationTimestamp := clock })
  write : ∀ s old cr, J s → s.get (NodeRepository.keyOf node) = some old → SameSpec old cr →
    J (s.put cr)

theorem SaveKeeps.api_createVNode (hkeeps : SaveKeeps node J) {w : Cluster} (hJ : J w.vnodes) :
    J (api env (.createVNode (NodeRepository.newCR node)) w).2.vnodes := by
  cases vnodeStep_api env (.createVNode (NodeRepository.newCR node)) w with
  | same h =>
      rw [h]
      exact hJ
  | created cr clock hc hfree h =>
      cases hc
      rw [h]
      exact hkeeps.create _ clock hJ hfree
  | updated _ _ hc => cases hc
  | statusUpdated _ _ hc => cases hc
  | deleted _ hc => cases hc

theorem SaveKeeps.api_updateVNodeStatus (hkeeps : SaveKeeps node J) {w : Cluster}
    (hJ : J w.vnodes) {cr : VNodeCR} (hkey : cr.key = NodeRepository.keyOf node) :
    J (api env (.updateVNodeStatus (NodeRepository.applyNodeStatus cr node)) w).2.vnodes := by
  cases vnodeStep_api env (.updateVNodeStatus (NodeRepository.applyNodeStatus cr node)) w with
  | same h =>
      rw [h]
      exact hJ
  | statusUpdated cr' old hc hold h =>
      cases hc
      have hstored : w.vnodes.get (NodeRepository.keyOf node) = some old := by
        rw [← hkey]
        exact hold
      rw [h]
      exact hkeeps.write _ old _ hJ hstored ⟨rfl, rfl, rfl, rfl⟩
  | created _ _ hc => cases hc
  | updated _ _ hc => cases hc
  | deleted _ hc => cases hc

/-- The annotation write carries the resource that was read, so nothing else of
the stored one changes. -/
theorem SaveKeeps.api_updateVNode (hkeeps : SaveKeeps node J) {w : Cluster} (hJ : J w.vnodes)
    {current : VNodeCR} (hcurrent : w.vnodes.get (NodeRepository.keyOf node) = some current) :
    J (api env (.updateVNode { current with
      annotations := NodeRepository.annotateTenant current.annotations node.tenantRef })
        w).2.vnodes := by
  have hkey : current.key = NodeRepository.keyOf node := Store.key_of_get hcurrent
  cases vnodeStep_api env (.updateVNode { current with
      annotations := NodeRepository.annotateTenant current.annotations node.tenantRef }) w with
  | same h =>
      rw [h]
      exact hJ
  | updated cr old hc hold h =>
      cases hc
      have hstored : w.vnodes.get (NodeRepository.keyOf node) = some old := by
        rw [← hkey]
        exact hold
      have hsame : current = old := Option.some.inj (hcurrent.symm.trans hstored)
      rw [h, ← hsame]
      exact hkeeps.write _ current _ hJ hcurrent ⟨rfl, rfl, rfl, rfl⟩
  | created _ _ hc => cases hc
  | statusUpdated _ _ hc => cases hc
  | deleted _ hc => cases hc

theorem robust_getVNode {k : ObjKey} {w : Cluster} (hJ : J w.vnodes) :
    Robust (api env) (fun _ => True) (request (.getVNode k))
      (fun r w' => w' = w ∧ J w.vnodes ∧ ∀ cr, r = .ok cr → w.vnodes.get k = some cr) w := by
  have hcall : api env (.getVNode k) w =
      (find w.vnodes k "vnodes.vnode.kroderdev.io" k.name, w) := by
    simp only [api]
  refine Robust.read_of_eq hcall trivial ⟨rfl, hJ, ?_⟩ (fun _ => ⟨rfl, hJ, ?_⟩)
  · exact fun _ hcr => get_of_find hcr
  · rintro cr ⟨⟩

theorem robust_createVNode (hkeeps : SaveKeeps node J) {w : Cluster} (hJ : J w.vnodes) :
    Robust (api env) (fun _ => True) (request (.createVNode (NodeRepository.newCR node)))
      (fun r w' => J w'.vnodes ∧ ∀ cr, r = .ok cr → cr.key = NodeRepository.keyOf node) w := by
  have hcreate : J (api env (.createVNode (NodeRepository.newCR node)) w).2.vnodes :=
    hkeeps.api_createVNode hJ
  have hreply : ∀ cr, (api env (.createVNode (NodeRepository.newCR node)) w).1 = .ok cr →
      cr.key = NodeRepository.keyOf node := by
    intro cr hcr
    simp only [api] at hcr
    split at hcr
    · cases hcr
    · cases hcr
      rfl
  refine Robust.perform trivial ⟨hcreate, hreply⟩ (fun _ => ⟨hJ, ?_⟩) (fun _ => ⟨hcreate, ?_⟩)
  · rintro cr ⟨⟩
  · rintro cr ⟨⟩

theorem robust_updateStatus (hkeeps : SaveKeeps node J) {w : Cluster} (hJ : J w.vnodes) :
    Robust (api env) (fun _ => True) (NodeRepository.updateStatus node)
      (fun _ w' => J w'.vnodes) w := by
  refine Robust.mono (robust_retryOnConflict (J := fun w => J w.vnodes)
    (Q := fun _ _ => True) ?_ defaultRetries hJ) (fun _ _ h => h.1)
  intro w hJ
  apply Robust.bind
  apply Robust.mono (robust_getVNode hJ)
  rintro r w' ⟨rfl, _, hget⟩
  cases r with
  | error err => exact Robust.pure ⟨hJ, trivial⟩
  | ok current =>
      have hkey : current.key = NodeRepository.keyOf node := Store.key_of_get (hget current rfl)
      apply Robust.bind
      apply Robust.mono (robust_step (I := fun w => J w.vnodes) hJ
        (hkeeps.api_updateVNodeStatus hJ hkey))
      intro r w'' hJ'
      cases r <;> exact Robust.pure ⟨hJ', trivial⟩

theorem robust_updateAnnotations (hkeeps : SaveKeeps node J) {w : Cluster} (hJ : J w.vnodes) :
    Robust (api env) (fun _ => True) (NodeRepository.updateAnnotations node)
      (fun _ w' => J w'.vnodes) w := by
  refine Robust.mono (robust_retryOnConflict (J := fun w => J w.vnodes)
    (Q := fun _ _ => True) ?_ defaultRetries hJ) (fun _ _ h => h.1)
  intro w hJ
  apply Robust.bind
  apply Robust.mono (robust_getVNode hJ)
  rintro r w' ⟨rfl, _, hget⟩
  cases r with
  | error err => exact Robust.pure ⟨hJ, trivial⟩
  | ok current =>
      apply Robust.mono (robust_step (I := fun w => J w.vnodes) hJ
        (hkeeps.api_updateVNode hJ (hget current rfl)))
      exact fun _ _ h => ⟨h, trivial⟩

theorem robust_save (hkeeps : SaveKeeps node J) {w : Cluster} (hJ : J w.vnodes) :
    Robust (api env) (fun _ => True) (NodeRepository.save node) (fun _ w' => J w'.vnodes) w := by
  apply Robust.bind
  apply Robust.mono (robust_getVNode hJ)
  rintro r w' ⟨rfl, _, _⟩
  cases r with
  | ok current =>
      apply Robust.bind
      apply Robust.mono (robust_updateAnnotations hkeeps hJ)
      intro r w' hJ'
      cases r with
      | error err => exact Robust.pure hJ'
      | ok u => exact robust_updateStatus hkeeps hJ'
  | error err =>
      dsimp only
      split
      · apply Robust.bind
        apply Robust.mono (robust_createVNode hkeeps hJ)
        rintro r w'' ⟨hJ', hkey⟩
        cases r with
        | error err => exact Robust.pure hJ'
        | ok cr =>
            apply Robust.bind
            apply Robust.mono (robust_step (I := fun w => J w.vnodes) hJ'
              (hkeeps.api_updateVNodeStatus hJ' (hkey cr rfl)))
            intro r w₃ hJ₃
            cases r with
            | ok u => exact Robust.pure hJ₃
            | error err =>
                dsimp only
                split
                · exact robust_updateStatus hkeeps hJ₃
                · exact Robust.pure hJ₃
      · exact Robust.pure hJ

end

/-! ## The tenant node -/

def NodeIs (cs : Clientset) (name : String) (P : TenantNode → Prop) (w : Cluster) : Prop :=
  ∃ n, (w.tenants cs).nodes.get name = some n ∧ P n

theorem get_putNode_self {cs : Clientset} (w : Cluster) {n : TenantNode} {name : String}
    (hname : n.name = name) :
    ((w.putNode cs n).tenants cs).nodes.get name = some n := by
  rw [Cluster.putNode, Cluster.setTenant_tenants, if_pos rfl, ← hname]
  exact Store.get_put_self _ _

theorem nodeIs_putNode (P : TenantNode → Prop) (cs : Clientset) (n : TenantNode) (w : Cluster)
    (hP : P n) : NodeIs cs n.name P (w.putNode cs n) :=
  ⟨n, get_putNode_self w rfl, hP⟩

/-- The node a registration writes to: the one there is, or a fresh one. -/
def nodeAt (node : VNode) (cs : Clientset) (w : Cluster) : TenantNode :=
  ((w.tenants cs).nodes.get node.name).getD { name := node.name }

theorem nodeAt_of_get {node : VNode} {cs : Clientset} {w : Cluster} {n : TenantNode}
    (h : (w.tenants cs).nodes.get node.name = some n) : nodeAt node cs w = n := by
  rw [nodeAt, h, Option.getD_some]

theorem nodeAt_of_none {node : VNode} {cs : Clientset} {w : Cluster}
    (h : (w.tenants cs).nodes.get node.name = none) :
    nodeAt node cs w = { name := node.name } := by
  rw [nodeAt, h, Option.getD_none]

theorem nodeAt_name (node : VNode) (cs : Clientset) (w : Cluster) :
    (nodeAt node cs w).name = node.name := by
  cases hget : (w.tenants cs).nodes.get node.name with
  | none => rw [nodeAt_of_none hget]
  | some n =>
      rw [nodeAt_of_get hget]
      exact Store.key_of_get hget

def declared (node : VNode) (n : TenantNode) : TenantNode :=
  { n with
    labels := Registrar.nodeLabels node
    annotations := Registrar.nodeAnnotations node
    taints := Registrar.mapNodeTaints node.taints }

def KeepsTaints (T : List Taint) : ApiCall → Prop
  | .createNode _ n | .updateNode _ n => n.taints = T
  | .deleteNode _ _ => False
  | _ => True

theorem keepsTaints_of_requestFor {node : VNode} {c : ApiCall} (h : Registrar.RequestFor node c) :
    KeepsTaints node.taints c := by
  cases c <;> first | exact h | trivial

theorem keepsTaints_of_statusRequest {T : List Taint} {c : ApiCall}
    (h : Registrar.StatusRequest c) : KeepsTaints T c := by
  cases c <;> trivial

theorem tainted_api {T : List Taint} {c : ApiCall} (hc : KeepsTaints T c) {cs : Clientset}
    {name : String} {w : Cluster} (hw : NodeIs cs name (fun n => n.taints = T) w) :
    NodeIs cs name (fun n => n.taints = T) (api env c w).2 := by
  obtain ⟨n, hn, hT⟩ := hw
  unfold NodeIs
  cases tenantNodeStep_api env c cs w with
  | same h =>
      rw [h]
      exact ⟨n, hn, hT⟩
  | created n' hc' hfree h =>
      have hne : n'.name ≠ name := by
        intro heq
        rw [heq, hn] at hfree
        cases hfree
      rw [h, Store.get_put_ne _ hne]
      exact ⟨n, hn, hT⟩
  | updated n' old hc' hold h =>
      subst hc'
      have hname : old.name = n'.name := Store.key_of_get hold
      rw [h, Store.get_put]
      split
      · exact ⟨_, rfl, hc⟩
      · exact ⟨n, hn, hT⟩
  | statusUpdated n' old hc' hold h =>
      have hname : old.name = n'.name := Store.key_of_get hold
      rw [h, Store.get_put]
      split
      · next heq =>
          have hsame : old = n := by
            rw [← hname, heq, hn] at hold
            exact (Option.some.inj hold).symm
          exact ⟨_, rfl, hsame ▸ hT⟩
      · exact ⟨n, hn, hT⟩
  | deleted name' hc' h =>
      subst hc'
      exact hc.elim

def Shows (env : Env) (node : VNode) (n : TenantNode) : Prop :=
  Registrar.buildResources env node.capacity = .ok n.capacity ∧
    Registrar.buildResources env node.allocatable = .ok n.allocatable

theorem withStatus_eq_ok {current updated : TenantNode} {node : VNode}
    (h : Registrar.withStatus env current node = .ok updated) :
    Shows env node updated ∧
      updated = { current with
        capacity := updated.capacity
        allocatable := updated.allocatable
        conditions := Registrar.buildNodeConditions node
        kubeletVersion := "vnode/" ++ env.version } := by
  unfold Registrar.withStatus at h
  cases hcapacity : Registrar.buildResources env node.capacity with
  | error err => simp [hcapacity, bind, Except.bind] at h
  | ok capacity =>
      cases hallocatable : Registrar.buildResources env node.allocatable with
      | error err => simp [hcapacity, hallocatable, bind, Except.bind] at h
      | ok allocatable =>
          simp only [hcapacity, hallocatable, bind, Except.bind, pure, Except.pure,
            Except.ok.injEq] at h
          subst h
          exact ⟨⟨hcapacity, hallocatable⟩, rfl⟩

theorem api_updateNodeStatus_ok {cs : Clientset} {updated : TenantNode} {w : Cluster}
    (h : (api env (.updateNodeStatus cs updated) w).1 = .ok ()) {node : VNode}
    (hshows : Shows env node updated) :
    NodeIs cs updated.name (Shows env node) (api env (.updateNodeStatus cs updated) w).2 := by
  cases hget : (w.tenants cs).nodes.get updated.name with
  | none =>
      simp only [api, hget] at h
      cases h
  | some old =>
      have hname : old.name = updated.name := Store.key_of_get hget
      simp only [api, hget]
      rw [← hname]
      exact nodeIs_putNode _ cs { old with
        capacity := updated.capacity
        allocatable := updated.allocatable
        conditions := updated.conditions
        kubeletVersion := updated.kubeletVersion } w hshows

/-- A write that leaves `wanted` or nothing, and `wanted` where it reports success. -/
structure Wrote {α : Type} (w wanted : Cluster) (r : Except Err α) (w' : Cluster) : Prop where
  either : w' = w ∨ w' = wanted
  full : ∀ v, r = .ok v → w' = wanted

theorem Wrote.error {α : Type} {w wanted w' : Cluster} (err : Err) (h : w' = w ∨ w' = wanted) :
    Wrote w wanted (.error err : Except Err α) w' :=
  ⟨h, by rintro v ⟨⟩⟩

theorem robust_wrote {c : ApiCall} {w wanted : Cluster}
    (hcall : (∃ v, api env c w = (.ok v, wanted)) ∨ ∃ err, api env c w = (.error err, w)) :
    Robust (api env) (fun _ => True) (request c) (fun r w' => Wrote w wanted r w') w := by
  rcases hcall with ⟨v, hcall⟩ | ⟨err, hcall⟩
  · exact Robust.perform_of_eq hcall trivial ⟨Or.inr rfl, fun _ _ => rfl⟩
      (fun err => Wrote.error err (Or.inl rfl)) (fun err => Wrote.error err (Or.inr rfl))
  · exact Robust.read_of_eq hcall trivial (Wrote.error err (Or.inl rfl))
      (fun err => Wrote.error err (Or.inl rfl))

theorem robust_getNode (cs : Clientset) (name : String) (w : Cluster) :
    Robust (api env) (fun _ => True) (request (.getNode cs name))
      (fun r w' => w' = w ∧ ∀ n, r = .ok n → (w.tenants cs).nodes.get name = some n) w := by
  have hcall : api env (.getNode cs name) w =
      (find (w.tenants cs).nodes name "nodes" name, w) := by
    simp only [api]
  refine Robust.read_of_eq hcall trivial ⟨rfl, ?_⟩ (fun _ => ⟨rfl, ?_⟩)
  · exact fun _ hn => get_of_find hn
  · rintro n ⟨⟩

theorem robust_writeNodeStatus (cs : Clientset) (node : VNode) (w : Cluster) :
    Robust (api env) (fun _ => True) (Registrar.writeNodeStatus env cs node)
      (fun r w' => r = .ok () → NodeIs cs node.name (Shows env node) w') w := by
  refine Robust.mono (robust_retryOnConflict (J := fun _ => True)
    (Q := fun r w' => r = .ok () → NodeIs cs node.name (Shows env node) w') ?_
    defaultRetries trivial) (fun _ _ h => h.2)
  intro w _
  apply Robust.bind
  apply Robust.mono (robust_getNode cs node.name w)
  rintro r w' ⟨_, hget⟩
  cases r with
  | error err => exact Robust.pure ⟨trivial, nofun⟩
  | ok current =>
      dsimp only
      split
      · exact Robust.pure ⟨trivial, nofun⟩
      · next updated hupdated =>
          obtain ⟨hshows, hupdatedEq⟩ := withStatus_eq_ok hupdated
          have hupdatedName : updated.name = current.name := by rw [hupdatedEq]
          have hwritten : (api env (.updateNodeStatus cs updated) w').1 = .ok () →
              NodeIs cs node.name (Shows env node)
                (api env (.updateNodeStatus cs updated) w').2 := by
            intro hok
            have hname : current.name = node.name := Store.key_of_get (hget current rfl)
            rw [← hname, ← hupdatedName]
            exact api_updateNodeStatus_ok hok hshows
          exact Robust.perform trivial ⟨trivial, hwritten⟩ (fun _ => ⟨trivial, nofun⟩)
            (fun _ => ⟨trivial, nofun⟩)

theorem robust_upsertLease {cs : Clientset} {name name' : String} {P : TenantNode → Prop}
    {w : Cluster} (hw : NodeIs cs name P w) :
    Robust (api env) (fun _ => True) (Registrar.upsertLease cs name')
      (fun _ w' => NodeIs cs name P w') w := by
  refine Robust.of_uses (B := fun c => c = .getLease cs name' ∨
    (∃ lease, c = .createLease cs lease) ∨ ∃ lease, c = .updateLease cs lease)
    (Registrar.uses_upsertLease cs name' (Or.inl rfl) (fun l => Or.inr (Or.inl ⟨l, rfl⟩))
      (fun l => Or.inr (Or.inr ⟨l, rfl⟩))) ?_ hw
  intro c w hc hw
  unfold NodeIs
  cases tenantNodeStep_api env c cs w with
  | same h =>
      rw [h]
      exact hw
  | created _ hc' => rcases hc with rfl | ⟨_, rfl⟩ | ⟨_, rfl⟩ <;> cases hc'
  | updated _ _ hc' => rcases hc with rfl | ⟨_, rfl⟩ | ⟨_, rfl⟩ <;> cases hc'
  | statusUpdated _ _ hc' => rcases hc with rfl | ⟨_, rfl⟩ | ⟨_, rfl⟩ <;> cases hc'
  | deleted _ hc' => rcases hc with rfl | ⟨_, rfl⟩ | ⟨_, rfl⟩ <;> cases hc'

theorem robust_getClient (tenant : TenantRef) (w : Cluster) :
    Robust (api env) (fun _ => True) (request (.getClient tenant))
      (fun r w' => w' = w ∧ ∀ cs, r = .ok cs → env.connect tenant = .ok cs) w :=
  Robust.read_of_eq rfl trivial ⟨rfl, fun _ h => h⟩ (fun _ => ⟨rfl, fun _ h => nomatch h⟩)

/-- A successful status update leaves the node with the resources it was given.
Without a kubeconfig secret nothing is written. -/
theorem robust_updateNodeStatus (node : VNode) (tenant : TenantRef) (w : Cluster) :
    Robust (api env) (fun _ => True) (Registrar.updateNodeStatus env node tenant)
      (fun r w' => r = .ok () → tenant.kubeconfigSecret ≠ "" →
        ∃ cs, env.connect tenant = .ok cs ∧ NodeIs cs node.name (Shows env node) w') w := by
  unfold Registrar.updateNodeStatus
  split
  · next hsecret => exact Robust.pure (fun _ hne => absurd hsecret hne)
  · apply Robust.bind
    apply Robust.mono (robust_getClient tenant w)
    rintro r w' ⟨rfl, hconnect⟩
    cases r with
    | error err => exact Robust.pure nofun
    | ok cs =>
        apply Robust.bind
        apply Robust.mono (robust_writeNodeStatus cs node w')
        intro r w'' hwritten
        cases r with
        | error err => exact Robust.pure nofun
        | ok u =>
            apply Robust.mono (robust_upsertLease (hwritten rfl))
            exact fun _ _ hnode _ _ => ⟨cs, hconnect cs rfl, hnode⟩

/-- Whether it updates the node or creates it, `upsertNode` makes one write. -/
theorem wrote_upsertNode (cs : Clientset) (node : VNode) (w : Cluster) :
    Robust (api env) (fun _ => True) (Registrar.upsertNode cs node)
      (fun r w' => Wrote w (w.putNode cs (declared node (nodeAt node cs w))) r w') w := by
  apply Robust.bind
  apply Robust.mono (robust_getNode cs node.name w)
  rintro r w' ⟨rfl, hget⟩
  cases r with
  | ok current =>
      have hcurrent := hget current rfl
      have hstored : (w'.tenants cs).nodes.get (declared node current).name = some current := by
        have hname : current.name = node.name := Store.key_of_get hcurrent
        exact hname ▸ hcurrent
      have hcall : api env (.updateNode cs (declared node current)) w' =
          (.ok (), w'.putNode cs (declared node current)) := by
        simp only [api, hstored]
        rfl
      rw [nodeAt_of_get hcurrent]
      apply Robust.bind
      apply Robust.mono (robust_wrote (Or.inl ⟨(), hcall⟩))
      intro r w'' hr
      cases r with
      | error err => exact Robust.pure (Wrote.error _ hr.either)
      | ok u => exact Robust.pure hr
  | error err =>
      dsimp only
      split
      · have hcall : (∃ v, api env (.createNode cs (declared node { name := node.name })) w' =
              (.ok v, w'.putNode cs (declared node (nodeAt node cs w')))) ∨
            ∃ err, api env (.createNode cs (declared node { name := node.name })) w' =
              (.error err, w') := by
          cases hfree : (w'.tenants cs).nodes.get node.name with
          | none => exact Or.inl ⟨(), by simp only [api, declared, hfree, nodeAt_of_none hfree]⟩
          -- the read failed, but not for want of the node
          | some old =>
              exact Or.inr ⟨alreadyExistsError "nodes" node.name,
                by simp only [api, declared, hfree]⟩
        apply Robust.bind
        apply Robust.mono (robust_wrote hcall)
        intro r w'' hr
        cases r with
        | error err => exact Robust.pure (Wrote.error _ hr.either)
        | ok u => exact Robust.pure hr
      · exact Robust.pure (Wrote.error _ (Or.inl rfl))

theorem robust_upsertNode (cs : Clientset) (node : VNode) (w : Cluster) :
    Robust (api env) (fun _ => True) (Registrar.upsertNode cs node)
      (fun r w' => r = .ok () → NodeIs cs node.name (fun n => n.taints = node.taints) w') w := by
  apply Robust.mono (wrote_upsertNode cs node w)
  intro r w' hr hok
  rw [hr.full () hok, ← nodeAt_name node cs w]
  exact nodeIs_putNode _ cs (declared node (nodeAt node cs w)) w rfl

theorem robust_statusRequest {α : Type} {p : Api α} (hp : Prog.Uses Registrar.StatusRequest p)
    {cs : Clientset} {name : String} {T : List Taint} {w : Cluster}
    (hw : NodeIs cs name (fun n => n.taints = T) w) :
    Robust (api env) (fun _ => True) p
      (fun _ w' => NodeIs cs name (fun n => n.taints = T) w') w :=
  Robust.of_uses hp (fun _ _ hc hw => tainted_api (keepsTaints_of_statusRequest hc) hw) hw

/-- A successful registration leaves the node with the taints and, where there is
a kubeconfig secret, the resources of the virtual node. -/
theorem robust_register (node : VNode) (tenant : TenantRef) (w : Cluster) :
    Robust (api env) (fun _ => True) (Registrar.register env node tenant)
      (fun r w' => r = .ok () → ∃ cs, env.connect tenant = .ok cs ∧
        NodeIs cs node.name (fun n => n.taints = node.taints) w' ∧
        (tenant.kubeconfigSecret ≠ "" → NodeIs cs node.name (Shows env node) w')) w := by
  apply Robust.bind
  apply Robust.mono (robust_getClient tenant w)
  rintro r w' ⟨rfl, hconnect⟩
  cases r with
  | error err => exact Robust.pure nofun
  | ok cs =>
      have hcs := hconnect cs rfl
      apply Robust.bind
      refine Robust.mono (Robust.of_uses (I := fun _ => True)
        (Registrar.uses_ensureLeaseNamespace node cs) (fun _ _ _ _ => trivial) trivial) ?_
      intro r w₁ _
      cases r with
      | error err => exact Robust.pure nofun
      | ok u =>
          apply Robust.bind
          apply Robust.mono (robust_upsertNode cs node w₁)
          intro r w₂ htaints
          cases r with
          | error err => exact Robust.pure nofun
          | ok u =>
              apply Robust.mono ((robust_updateNodeStatus node tenant w₂).and
                (robust_statusRequest (Registrar.uses_updateNodeStatus env node tenant)
                  (htaints rfl)))
              rintro r w₃ ⟨hshows, hnode⟩ hok
              refine ⟨cs, hcs, hnode, ?_⟩
              intro hsecret
              obtain ⟨cs', hcs', hshown⟩ := hshows hok hsecret
              rw [hcs, Except.ok.injEq] at hcs'
              exact hcs' ▸ hshown

/-! ## A registration that reaches the tenant -/

theorem run_ensureLeaseNamespace (cs : Clientset) (w : Cluster) :
    ((Registrar.ensureLeaseNamespace cs).run (api env) w).1 = .ok () := by
  unfold Registrar.ensureLeaseNamespace
  cases hns : (w.tenants cs).hasLeaseNamespace <;>
    simp [request, api, hns, notFoundError, Err.isNotFound]

theorem run_upsertNode (cs : Clientset) (node : VNode) (w : Cluster) :
    ((Registrar.upsertNode cs node).run (api env) w).1 = .ok () := by
  unfold Registrar.upsertNode
  cases hget : (w.tenants cs).nodes.get node.name with
  | none => simp [request, api, find, hget, notFoundError, Err.isNotFound]
  | some current =>
      have hname : current.name = node.name := Store.key_of_get hget
      simp [request, api, find, hget, hname]

theorem run_register {tenant : TenantRef} {cs : Clientset} (hcs : env.connect tenant = .ok cs)
    (node : VNode) (w : Cluster) :
    ∃ w', NodeIs cs node.name (fun n => n.taints = node.taints) w' ∧
      (Registrar.register env node tenant).run (api env) w =
        (Registrar.updateNodeStatus env node tenant).run (api env) w' := by
  let w₁ := ((Registrar.ensureLeaseNamespace cs).run (api env) w).2
  let w₂ := ((Registrar.upsertNode cs node).run (api env) w₁).2
  have hupsert : Robust (api env) (fun _ => True) (Registrar.upsertNode cs node) _ w₁ :=
    robust_upsertNode cs node w₁
  have hupserted := (hupsert (fun _ => none)).2
  rw [run_withFaults_none] at hupserted
  refine ⟨w₂, hupserted (run_upsertNode cs node w₁), ?_⟩
  unfold Registrar.register
  simp only [request, Prog.run_bind, Prog.run_perform, api, hcs, run_ensureLeaseNamespace,
    run_upsertNode]
  rfl

/-- Whatever becomes of the status, the node is there. -/
theorem nodeIs_register {tenant : TenantRef} {cs : Clientset} (hcs : env.connect tenant = .ok cs)
    (node : VNode) (w : Cluster) :
    NodeIs cs node.name (fun _ => True)
      ((Registrar.register env node tenant).run (api env) w).2 := by
  obtain ⟨w', hnode, hrun⟩ := run_register hcs node w
  have hstatus : Robust (api env) (fun _ => True) (Registrar.updateNodeStatus env node tenant)
      _ w' :=
    robust_statusRequest (Registrar.uses_updateNodeStatus env node tenant) hnode
  have hkept := (hstatus (fun _ => none)).2
  rw [run_withFaults_none] at hkept
  rw [hrun]
  obtain ⟨n, hn, _⟩ := hkept
  exact ⟨n, hn, trivial⟩

end VNodeOperator.Nodes
