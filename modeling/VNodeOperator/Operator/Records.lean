import VNodeOperator.Operator.Confinement

/-!
# What is stored of nodes and pools

The operator stores virtual nodes that it makes from pools, reads them back and stores them
again.  `Records` are predicates on what is stored and on what is made of it.  Where they fit
together (`Records.Lawful`), each request keeps them and each controller makes only requests
that do, whatever the replies.
-/

namespace VNodeOperator.Operator

open Model Kube Ports Adapter ProofSupport Service Reconciler
open Reconciler.VNodePool (crToPoolModel)

/-- What is known of the stored VNodes, of the stored pools under the keys in `mine`, and of
the nodes the services work on. -/
structure Records where
  mine : ObjKey → Prop
  vnode : VNodeCR → Prop
  pool : VNodePoolCR → Prop
  node : Model.VNode → Prop

namespace Records

/-- A VNode is known by its metadata and its spec, a pool by its spec.  A node made from what
is stored, or for a pool, can be stored. -/
structure Lawful (D : Records) : Prop where
  vnodeStatus : ∀ (cr : VNodeCR) version time phase conditions, D.vnode cr →
    D.vnode { cr with
      resourceVersion := version
      creationTimestamp := time
      phase := phase
      conditions := conditions }
  poolStatus : ∀ (cr : VNodePoolCR) version deletion finalizers status, D.pool cr →
    D.pool { cr with
      resourceVersion := version
      deletionTimestamp := deletion
      finalizers := finalizers
      status := status }
  nodeStatus : ∀ {node : Model.VNode} phase conditions, D.node node →
    D.node { node with phase := phase, conditions := conditions }
  created : ∀ {node}, D.node node → D.vnode (NodeRepository.newCR node)
  annotated : ∀ {node} {cr : VNodeCR}, D.node node → D.vnode cr →
    cr.key = NodeRepository.keyOf node →
    D.vnode { cr with
      annotations := NodeRepository.annotateTenant cr.annotations node.tenantRef }
  listed : ∀ {cr}, D.vnode cr → D.node (NodeRepository.crToNode cr)
  reconciled : ∀ {cr}, D.vnode cr → D.node (VNode.nodeOf cr)
  fresh : ∀ {cr : VNodePoolCR} existing, D.mine cr.key → D.pool cr →
    D.node (NodeService.newNode (crToPoolModel cr) existing)

structure Holds (D : Records) (w : Cluster) : Prop where
  vnodes : ∀ cr ∈ w.vnodes.items, D.vnode cr
  pools : ∀ cr ∈ w.pools.items, D.mine cr.key → D.pool cr

section

variable (D : Records)

def apiContract : Contract ApiCall ApiCall.Reply where
  may
    | .createVNode cr | .updateVNode cr => D.vnode cr
    | _ => True
  gets
    | .getVNode key, r => onOk (fun cr => cr.key = key ∧ D.vnode cr) r
    | .createVNode _, r => onOk D.vnode r
    | .listVNodes _ _, r => onOk (fun crs => ∀ cr ∈ crs, D.vnode cr) r
    | _, _ => True

def isSplit : Call → Bool
  | .listByPool _ _ | .save _ | .delete _ | .register _ _ | .deregister _ _
  | .updateNodeStatus _ _ | .deletePod _ | .ensureConfigMap _ | .ensureSecret _
  | .getVNode _ => true
  | _ => false

def portContract : Contract Call Call.Reply where
  may
    | .updateVNodePool cr => D.mine cr.key → D.pool cr
    | c => isSplit c = false
  gets
    | .getVNodePool key, r => onOk (fun cr => cr.key = key ∧ (D.mine key → D.pool cr)) r
    | _, _ => True

def requestContract : Contract Request Request.Reply where
  may
    | .api c => D.apiContract.may c
    | .port c => D.portContract.may c
  gets
    | .api c, r => D.apiContract.gets c r
    | .port c, r => D.portContract.gets c r

def callContract : Contract Call Call.Reply where
  may
    | .save node => D.node node
    | .updateVNodePool cr => D.mine cr.key → D.pool cr
    | _ => True
  gets
    | .listByPool _ _, r => onOk (fun nodes => ∀ node ∈ nodes, D.node node) r
    | .getVNode _, r => onOk D.vnode r
    | .getVNodePool key, r => onOk (fun cr => cr.key = key ∧ (D.mine key → D.pool cr)) r
    | _, _ => True

end

variable {env : Env} {D : Records} {w : Cluster}

theorem requestContract_error (c : Request) (e : Err) : D.requestContract.gets c (.error e) := by
  cases c with
  | api c => cases c <;> trivial
  | port c => cases c <;> trivial

/-! ## The requests -/

theorem Holds.putVNode (hw : D.Holds w) {w' : Cluster} {cr : VNodeCR} (hcr : D.vnode cr)
    (hvnodes : w'.vnodes = w.vnodes.put cr) (hpools : w'.pools = w.pools) : D.Holds w' := by
  refine ⟨?_, hpools ▸ hw.pools⟩
  intro cr' hmem
  rw [hvnodes, Store.mem_put] at hmem
  rcases hmem with rfl | ⟨hold, _⟩
  · exact hcr
  · exact hw.vnodes cr' hold

theorem Holds.putPool (hw : D.Holds w) {cr : VNodePoolCR} (hcr : D.mine cr.key → D.pool cr) :
    D.Holds (w.putPool cr) := by
  refine ⟨hw.vnodes, ?_⟩
  intro cr' hmem
  rw [Cluster.putPool, Store.mem_put] at hmem
  rcases hmem with rfl | ⟨hold, _⟩
  · exact hcr
  · exact hw.pools cr' hold

theorem holds_api (L : D.Lawful) {c : ApiCall} (hc : D.apiContract.may c) (hw : D.Holds w) :
    D.Holds (api env c w).2 := by
  have hpools : (api env c w).2.pools = w.pools := api_pools env c w
  cases vnodeStep_api env c w with
  | same h => exact ⟨h ▸ hw.vnodes, hpools ▸ hw.pools⟩
  | created cr clock hcall _ h =>
      subst hcall
      exact hw.putVNode (L.vnodeStatus _ _ _ _ _ hc) h hpools
  | updated cr old hcall _ h =>
      subst hcall
      exact hw.putVNode (L.vnodeStatus cr _ cr.creationTimestamp _ _ hc) h hpools
  | statusUpdated cr old _ hold h =>
      exact hw.putVNode (L.vnodeStatus old _ old.creationTimestamp _ _
        (hw.vnodes old (Store.mem_of_get hold))) h hpools
  | deleted key _ h =>
      refine ⟨?_, hpools ▸ hw.pools⟩
      intro cr hmem
      rw [h] at hmem
      exact hw.vnodes cr (Store.mem_erase.mp hmem).1

theorem gets_api (L : D.Lawful) {c : ApiCall} (hc : D.apiContract.may c) (hw : D.Holds w) :
    D.apiContract.gets c (api env c w).1 := by
  cases c with
  | getVNode key =>
      cases hget : w.vnodes.get key with
      | none =>
          simp only [api, find_none _ _ hget]
          trivial
      | some cr =>
          simp only [api, find_some _ _ hget]
          exact ⟨Store.key_of_get hget, hw.vnodes cr (Store.mem_of_get hget)⟩
  | createVNode cr =>
      cases hget : w.vnodes.get cr.key with
      | none =>
          simp only [api, hget]
          exact L.vnodeStatus _ _ _ _ _ hc
      | some old =>
          simp only [api, hget]
          trivial
  | listVNodes ns poolName =>
      intro cr hcr
      have hmem := (env.order_perm _).mem_iff.mp hcr
      exact hw.vnodes cr (List.mem_of_mem_filter hmem)
  | _ => trivial

theorem holds_port (L : D.Lawful) {c : Call} (hc : D.portContract.may c) (hw : D.Holds w) :
    D.Holds (handle env c w).2 := by
  cases c with
  | updateVNodePool cr =>
      rcases handle_updateVNodePool_cases env w cr with ⟨err, hcall⟩ | ⟨old, hold, _, hcall⟩
      · rw [hcall]
        exact hw
      · rw [hcall]
        unfold Cluster.updatePool
        split
        · exact ⟨hw.vnodes, fun cr' hmem => hw.pools cr' (Store.mem_erase.mp hmem).1⟩
        · exact hw.putPool fun hmine =>
            L.poolStatus cr _ _ cr.finalizers _ (hc hmine)
  | patchVNodePoolStatus key base status =>
      simp only [handle]
      split
      · exact hw
      · next old hold =>
          exact hw.putPool fun hmine => L.poolStatus old _ old.deletionTimestamp
            old.finalizers _ (hw.pools old (Store.mem_of_get hold) hmine)
  | updateTenantPod cs pod =>
      simp only [handle]
      split
      · exact hw
      · exact ⟨hw.vnodes, hw.pools⟩
  | createPod pod =>
      rcases handle_createPod_cases env w pod with ⟨err, hcall⟩ | ⟨_, shown, _, hcall⟩
      · rw [hcall]
        exact hw
      · rw [hcall]
        exact ⟨hw.vnodes, hw.pools⟩
  | _ =>
      first
        | rw [handle_read env w rfl]
          exact hw
        | cases hc

theorem gets_port {c : Call} (hw : D.Holds w) : D.portContract.gets c (handle env c w).1 := by
  cases c with
  | getVNodePool key =>
      cases hget : w.pools.get key with
      | none =>
          simp only [handle, find_none _ _ hget]
          trivial
      | some cr =>
          simp only [handle, find_some _ _ hget]
          have hkey : cr.key = key := Store.key_of_get hget
          exact ⟨hkey, fun hmine => hw.pools cr (Store.mem_of_get hget) (hkey.symm ▸ hmine)⟩
  | _ => trivial

/-- A request that may be made keeps what is stored as it should be, and its reply is. -/
theorem keeps_serve (L : D.Lawful) {c : Request} (hc : D.requestContract.may c)
    (hw : D.Holds w) : D.Holds (serve env c w).2 ∧ D.requestContract.gets c (serve env c w).1 := by
  cases c with
  | api c => exact ⟨holds_api L hc hw, gets_api L hc hw⟩
  | port c => exact ⟨holds_port L hc hw, gets_port hw⟩

/-! ## The calls -/

theorem meets_requests (L : D.Lawful) {c : Call} (hc : D.callContract.may c) :
    Prog.Meets D.requestContract (D.callContract.gets c) (requests env c) := by
  have happly : ∀ {α : Type} {Q : α → Prop} {p : Api α},
      Prog.Meets D.apiContract Q p → Prog.Meets D.requestContract Q (apiRequests p) :=
    fun hp => hp.expand fun c hc => Prog.Meets.perform (c := Request.api c) hc
  have hfree : ∀ {p : Api (Except Err Unit)} {A : ApiCall → Prop}, Prog.Uses A p →
      (∀ c, A c → D.apiContract.may c) →
      Prog.Meets D.requestContract (fun _ => True) (apiRequests p) :=
    fun hp hA => happly (Prog.Meets.of_uses hp hA)
  have htenant : ∀ c, Registrar.onTenantNodes c = true → D.apiContract.may c := by
    intro c hc
    cases c <;> trivial
  cases c with
  | listByPool ns poolName =>
      apply happly
      refine Prog.Meets.call (c := ApiCall.listVNodes ns poolName) trivial ?_
      intro listed hlisted
      cases listed with
      | error err => trivial
      | ok crs =>
          intro node hnode
          obtain ⟨cr, hcr, rfl⟩ := List.mem_map.mp hnode
          exact L.listed (hlisted cr hcr)
  | save node =>
      exact happly (meets_save trivial (L.created hc) (fun _ hcr => L.annotated hc hcr.2 hcr.1)
        (fun _ _ => trivial) (fun _ _ => trivial))
  | delete key => exact happly (Prog.Meets.last (c := ApiCall.deleteVNode key) trivial)
  | register node tenant =>
      exact hfree (Registrar.uses_register env node tenant) fun c h => htenant c h.onTenantNodes
  | deregister node tenant => exact hfree (Registrar.uses_deregister node tenant) htenant
  | updateNodeStatus node tenant =>
      exact hfree (Registrar.uses_updateNodeStatus env node tenant)
        fun c h => htenant c (h.requestFor node).onTenantNodes
  | deletePod key =>
      refine happly (Prog.Meets.call (c := ApiCall.deletePod key) trivial ?_)
      intro r _
      cases r <;> trivial
  | ensureConfigMap cm =>
      exact happly (PodClient.meets_getOrCreate
        (Prog.Meets.perform (c := ApiCall.getConfigMap _) trivial)
        (Prog.Meets.last (c := ApiCall.createConfigMap _) trivial)
        fun _ _ => Prog.Meets.last (c := ApiCall.updateConfigMap _) trivial)
  | ensureSecret s =>
      exact happly (PodClient.meets_getOrCreate
        (Prog.Meets.perform (c := ApiCall.getSecret _) trivial)
        (Prog.Meets.last (c := ApiCall.createSecret _) trivial)
        fun _ _ => Prog.Meets.last (c := ApiCall.updateSecret _) trivial)
  | getVNode key =>
      refine (Prog.Meets.perform (c := Request.api (.getVNode key)) trivial).mono ?_
      intro r hr
      cases r with
      | error err => trivial
      | ok cr => exact hr.2
  | updateVNodePool cr => exact Prog.Meets.perform (c := Request.port _) hc
  | _ => exact Prog.Meets.perform (c := Request.port _) rfl

/-! ## The controllers -/

def PoolOf (D : Records) (pool : Model.VNodePool) : Prop :=
  ∃ (cr : VNodePoolCR) (nodes : List String) (count : Int) (pending : Bool),
    D.mine cr.key ∧ D.pool cr ∧ pool = { crToPoolModel cr with
      nodes := nodes
      nodeCount := count
      deletionPending := pending }

theorem poolRules (L : D.Lawful) : PoolRules D.callContract D.node D.PoolOf
    (fun cr => D.mine cr.key ∧ D.pool cr) where
  status phase conditions hnode := L.nodeStatus phase conditions hnode
  save hnode := hnode
  register _ := trivial
  deregister _ := trivial
  updateNodeStatus _ := trivial
  delete _ := trivial
  now := trivial
  nodes := by
    rintro pool names ⟨cr, _, count, pending, hmine, hcr, rfl⟩
    exact ⟨cr, names, count, pending, hmine, hcr, rfl⟩
  list _ := trivial
  listed _ hnodes := hnodes
  fresh := by
    rintro pool existing ⟨cr, _, _, _, hmine, hcr, rfl⟩
    exact L.fresh existing hmine hcr
  live {cr} hcr := ⟨cr, [], cr.nodeCount, _, hcr.1, hcr.2, rfl⟩
  leaving {cr} hcr := ⟨cr, [], 0, true, hcr.1, hcr.2, rfl⟩
  finalizers {cr} l hcr := ⟨hcr.1, L.poolStatus cr cr.resourceVersion cr.deletionTimestamp l
    cr.status hcr.2⟩
  getPool _ := trivial
  gotPool hcr hgot := ⟨hgot.1.symm ▸ hcr.1, hgot.2 hcr.1⟩
  updatePool hcr _ := hcr.2
  patch _ _ _ := trivial
  listVNodes _ := trivial

theorem meets_job (L : D.Lawful) (translator : PodService) {job : Job}
    (hmine : ∀ k, job = .pool k → D.mine k) :
    Prog.Meets D.callContract (fun _ => True) (job.program translator) := by
  cases job with
  | pool k =>
      have hk := hmine k rfl
      exact (poolRules L).meets_reconcilePool trivial
        fun cr hgot => ⟨hgot.1.symm ▸ hk, hgot.2 hk⟩
  | vnode k => exact (poolRules L).meets_reconcileVNode trivial fun cr hgot => L.reconciled hgot
  | pods k =>
      refine Prog.Meets.of_uses (A := D.callContract.may) (uses_reconcilePods ?_
        (fun _ => trivial) trivial (fun _ _ _ => trivial) translator k) fun _ hc => hc
      intro c hc
      cases c <;> trivial

end Records

end VNodeOperator.Operator
