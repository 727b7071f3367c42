import VNodeOperator.Operator.Conduct
import VNodeOperator.Operator.Tenancy
import VNodeOperator.Pass.Target
import VNodeOperator.Pools.Isolation
import VNodeOperator.Reconciler.PodSync

/-!
# The controllers stay in their namespace

Whatever its requests return, a reconcile of an object makes requests on behalf of
the object's namespace only.  Each function of the operator keeps that contract, from
the adapters up to the three controllers.
-/

namespace VNodeOperator.Operator

open Model Kube Ports Adapter ProofSupport Service Reconciler

/-! ## The controllers -/

inductive Job where
  | pool (k : ObjKey)
  | vnode (k : ObjKey)
  | pods (k : ObjKey)
  deriving DecidableEq, Repr

def Job.key : Job → ObjKey
  | .pool k | .vnode k | .pods k => k

def Job.program (translator : PodService) : Job → Svc (Result × Option Err)
  | .pool k => VNodePool.reconcile k
  | .vnode k => VNode.reconcile k
  | .pods k => PodSync.reconcile translator k

/-! ## Calls on behalf of a namespace -/

variable (env : Env) (home : Clientset → String) (n : String)

def NodeIn (node : Model.VNode) : Prop := node.ns = n ∧ Local env home n node.tenantRef

def callMay : Call → Prop
  | .listByPool ns _ => ns = n
  | .save node => NodeIn env home n node
  | .delete k | .deletePod k | .getVNode k => k.ns = n
  | .register _ tenant | .deregister _ tenant | .updateNodeStatus _ tenant =>
      Local env home n tenant
  | .ensureConfigMap cm => cm.ns = n
  | .ensureSecret s => s.ns = n
  | c => portMay env home n c

def callGets : (c : Call) → c.Value → Prop
  | .listByPool _ _, nodes => ∀ node ∈ nodes, NodeIn env home n node
  | .getVNode _, cr => cr.ns = n ∧ Local env home n (NodeRepository.tenantOf cr.annotations)
  | c, v => portGets env home n c v

/-- The calls made on behalf of a namespace, and what they return. -/
def callContract : Contract Call Call.Reply where
  may := callMay env home n
  gets c := onOk (callGets env home n c)

variable {env home n}

/-! ## The adapters stay in the namespace -/

def apiContract (env : Env) (home : Clientset → String) (n : String) :
    Contract ApiCall ApiCall.Reply where
  may := apiMay env home n
  gets c := onOk (apiGets env home n c)

theorem meets_apiRequests {α : Type} {p : Api α} {Q : α → Prop}
    (hp : Prog.Meets (apiContract env home n) Q p) :
    Prog.Meets (requestContract env home n) Q (apiRequests p) :=
  hp.expand fun c hc => Prog.Meets.perform (c := Request.api c) hc

section

variable {node : Model.VNode}

theorem meets_listByPool (poolName : String) :
    Prog.Meets (apiContract env home n)
      (onOk fun nodes => ∀ node ∈ nodes, NodeIn env home n node)
      (NodeRepository.listByPool n poolName) := by
  refine Prog.Meets.call (c := ApiCall.listVNodes n poolName) rfl ?_
  intro listed hlisted
  cases listed with
  | error err => trivial
  | ok crs =>
      intro node hnode
      obtain ⟨cr, hcr, rfl⟩ := List.mem_map.mp hnode
      exact hlisted cr hcr

theorem meets_saveNode (hnode : NodeIn env home n node) :
    Prog.Meets (apiContract env home n) (fun _ => True) (NodeRepository.save node) := by
  have htenant : ∀ annotations : StringMap, Local env home n (NodeRepository.tenantOf
      (NodeRepository.annotateTenant annotations node.tenantRef)) := by
    intro annotations
    rw [NodeRepository.tenantOf_annotateTenant]
    exact hnode.2
  exact meets_save hnode.1 ⟨hnode.1, htenant ∅⟩ (fun cr hcr => ⟨hcr.1, htenant cr.annotations⟩)
    (fun _ hcr => hcr.1) (fun _ hcr => hcr.1)

variable {cs : Clientset}

theorem meets_ensureLeaseNamespace (hcs : home cs = n) :
    Prog.Meets (apiContract env home n) (fun _ => True)
      (Registrar.ensureLeaseNamespace cs) := by
  refine Prog.Meets.call (c := ApiCall.getLeaseNamespace cs) hcs ?_
  intro r _
  cases r with
  | ok u => trivial
  | error err =>
      dsimp only
      split
      · refine Prog.Meets.call (c := ApiCall.createLeaseNamespace cs) hcs ?_
        intro r _
        cases r <;> trivial
      · trivial

theorem meets_upsertNode (hcs : home cs = n) :
    Prog.Meets (apiContract env home n) (fun _ => True) (Registrar.upsertNode cs node) := by
  refine Prog.Meets.call (c := ApiCall.getNode cs node.name) hcs ?_
  intro r _
  cases r with
  | ok current =>
      refine Prog.Meets.call (c := ApiCall.updateNode cs _) hcs ?_
      intro r _
      cases r <;> trivial
  | error err =>
      dsimp only
      split
      · refine Prog.Meets.call (c := ApiCall.createNode cs _) hcs ?_
        intro r _
        cases r <;> trivial
      · trivial

theorem meets_upsertLease (hcs : home cs = n) (name : String) :
    Prog.Meets (apiContract env home n) (fun _ => True) (Registrar.upsertLease cs name) := by
  refine Prog.Meets.call (c := ApiCall.getLease cs name) hcs ?_
  intro r _
  cases r with
  | ok current =>
      refine Prog.Meets.call (c := ApiCall.updateLease cs _) hcs ?_
      intro r _
      cases r <;> trivial
  | error err =>
      dsimp only
      split
      · refine Prog.Meets.call (c := ApiCall.createLease cs _) hcs ?_
        intro r _
        cases r <;> trivial
      · trivial

theorem meets_writeNodeStatus (hcs : home cs = n) :
    Prog.Meets (apiContract env home n) (fun _ => True)
      (Registrar.writeNodeStatus env cs node) := by
  apply meets_retryOnConflict
  refine Prog.Meets.call (c := ApiCall.getNode cs node.name) hcs ?_
  intro r _
  cases r with
  | error err => trivial
  | ok current =>
      dsimp only
      split
      · trivial
      · exact Prog.Meets.last (c := ApiCall.updateNodeStatus cs _) hcs

variable {tenant : TenantRef}

theorem meets_updateNodeStatus (htenant : Local env home n tenant) :
    Prog.Meets (apiContract env home n) (fun _ => True)
      (Registrar.updateNodeStatus env node tenant) := by
  unfold Registrar.updateNodeStatus
  split
  · trivial
  · refine Prog.Meets.call (c := ApiCall.getClient tenant) htenant ?_
    intro r hr
    cases r with
    | error err => trivial
    | ok cs =>
        apply Prog.Meets.bind (meets_writeNodeStatus hr)
        intro r _
        cases r with
        | error err => trivial
        | ok u => exact meets_upsertLease hr node.name

theorem meets_register (htenant : Local env home n tenant) :
    Prog.Meets (apiContract env home n) (fun _ => True)
      (Registrar.register env node tenant) := by
  refine Prog.Meets.call (c := ApiCall.getClient tenant) htenant ?_
  intro r hr
  cases r with
  | error err => trivial
  | ok cs =>
      apply Prog.Meets.bind (meets_ensureLeaseNamespace hr)
      intro r _
      cases r with
      | error err => trivial
      | ok u =>
          apply Prog.Meets.bind (meets_upsertNode hr)
          intro r _
          cases r with
          | error err => trivial
          | ok u => exact meets_updateNodeStatus htenant

theorem meets_deregister (htenant : Local env home n tenant) :
    Prog.Meets (apiContract env home n) (fun _ => True)
      (Registrar.deregister node tenant) := by
  have hdelete : ∀ cs, home cs = n → Prog.Meets (apiContract env home n) (fun _ => True)
      (Registrar.deleteTenantNode cs node.name) := by
    intro cs hcs
    refine Prog.Meets.call (c := ApiCall.deleteNode cs node.name) hcs ?_
    intro r _
    cases r <;> trivial
  unfold Registrar.deregister
  split
  · trivial
  · refine Prog.Meets.call (c := ApiCall.getClient tenant) htenant ?_
    intro r hr
    cases r with
    | error err => trivial
    | ok cs =>
        refine Prog.Meets.call (c := ApiCall.deleteLease cs node.name) hr ?_
        intro r _
        cases r with
        | ok u => exact hdelete cs hr
        | error err =>
            dsimp only
            split
            · exact hdelete cs hr
            · trivial

end

theorem meets_deletePod {k : ObjKey} (hk : k.ns = n) :
    Prog.Meets (apiContract env home n) (fun _ => True) (PodClient.deletePod k) := by
  refine Prog.Meets.call (c := ApiCall.deletePod k) hk ?_
  intro r _
  cases r <;> trivial

theorem meets_ensureConfigMap {cm : ConfigMap} (hcm : cm.ns = n) :
    Prog.Meets (apiContract env home n) (fun _ => True) (PodClient.ensureConfigMap cm) :=
  PodClient.meets_getOrCreate (Prog.Meets.perform (c := ApiCall.getConfigMap cm.key) hcm)
    (Prog.Meets.last (c := ApiCall.createConfigMap cm) hcm)
    fun _ hr => Prog.Meets.last (c := ApiCall.updateConfigMap _) hr

theorem meets_ensureSecret {s : Secret} (hs : s.ns = n) :
    Prog.Meets (apiContract env home n) (fun _ => True) (PodClient.ensureSecret s) :=
  PodClient.meets_getOrCreate (Prog.Meets.perform (c := ApiCall.getSecret s.key) hs)
    (Prog.Meets.last (c := ApiCall.createSecret s) hs)
    fun _ hr => Prog.Meets.last (c := ApiCall.updateSecret _) hr

/-- The requests behind a call of the namespace are requests of the namespace. -/
theorem meets_requests {c : Call} (hc : callMay env home n c) :
    Prog.Meets (requestContract env home n) ((callContract env home n).gets c)
      (requests env c) := by
  have hany : ∀ {α : Type} {p : Api (Except Err α)} {Q : α → Prop}, (∀ a, Q a) →
      Prog.Meets (apiContract env home n) (fun _ => True) p →
      Prog.Meets (requestContract env home n) (onOk Q) (apiRequests p) := by
    intro α p Q hQ hp
    apply (meets_apiRequests hp).mono
    intro r _
    cases r with
    | error err => trivial
    | ok a => exact hQ a
  cases c with
  | listByPool ns poolName =>
      have hns : ns = n := hc
      subst hns
      exact meets_apiRequests (meets_listByPool poolName)
  | save node => exact hany (fun _ => trivial) (meets_saveNode hc)
  | delete k => exact hany (fun _ => trivial) (Prog.Meets.last (c := ApiCall.deleteVNode k) hc)
  | register node tenant => exact hany (fun _ => trivial) (meets_register hc)
  | deregister node tenant => exact hany (fun _ => trivial) (meets_deregister hc)
  | updateNodeStatus node tenant => exact hany (fun _ => trivial) (meets_updateNodeStatus hc)
  | deletePod k => exact hany (fun _ => trivial) (meets_deletePod hc)
  | ensureConfigMap cm => exact hany (fun _ => trivial) (meets_ensureConfigMap hc)
  | ensureSecret s => exact hany (fun _ => trivial) (meets_ensureSecret hc)
  | getVNode k => exact Prog.Meets.perform (c := Request.api (.getVNode k)) hc
  | _ => exact Prog.Meets.perform (c := Request.port _) hc

/-! ## The node controllers stay in the namespace -/

def PoolIn (env : Env) (home : Clientset → String) (n : String) (pool : Model.VNodePool) : Prop :=
  pool.ns = n ∧ Local env home n pool.tenantRef

def PoolCRIn (env : Env) (home : Clientset → String) (n : String) (cr : VNodePoolCR) : Prop :=
  cr.ns = n ∧ Local env home n cr.tenantRef

theorem poolRules : PoolRules (callContract env home n) (NodeIn env home n) (PoolIn env home n)
    (PoolCRIn env home n) where
  status _ _ hnode := hnode
  save hnode := hnode
  register hnode := hnode.2
  deregister hnode := hnode.2
  updateNodeStatus hnode := hnode.2
  delete hnode := hnode.1
  now := trivial
  nodes _ hpool := hpool
  list hpool := hpool.1
  listed _ hnodes := hnodes
  fresh _ hpool := hpool
  live hcr := hcr
  leaving hcr := hcr
  finalizers _ hcr := hcr
  getPool hcr := hcr.1
  gotPool _ hgot := hgot
  updatePool hcr := hcr
  patch _ _ hcr := hcr.1
  listVNodes hcr := hcr.1

theorem meets_reconcileVNode {k : ObjKey} (hk : k.ns = n) :
    Prog.Meets (callContract env home n) (fun _ => True) (VNode.reconcile k) :=
  poolRules.meets_reconcileVNode hk fun _ hcr => hcr

theorem meets_reconcilePool {k : ObjKey} (hk : k.ns = n) :
    Prog.Meets (callContract env home n) (fun _ => True) (VNodePool.reconcile k) :=
  poolRules.meets_reconcilePool hk fun _ hcr => hcr

/-! ## The pod controller stays in the namespace -/

section

variable {translator : PodService} {cs : Clientset} {pool : Model.VNodePool}

theorem meets_syncResource (hcs : home cs = n) (hns : pool.ns = n) (ref : VolumeResourceRef)
    (u : Unit) :
    Prog.Meets (callContract env home n) (Prog.Flow.elim (fun _ => True) fun _ => True)
      (PodExecution.syncResource cs pool ref u) := by
  unfold PodExecution.syncResource
  split
  · refine Prog.Meets.call (c := Call.getTenantConfigMap cs _) hcs ?_
    intro r _
    cases r with
    | error err =>
        dsimp only
        split <;> trivial
    | ok cm =>
        refine Prog.Meets.call (c := Call.ensureConfigMap _) hns ?_
        intro r _
        cases r <;> trivial
  · refine Prog.Meets.call (c := Call.getTenantSecret cs _) hcs ?_
    intro r _
    cases r with
    | error err =>
        dsimp only
        split <;> trivial
    | ok secret =>
        refine Prog.Meets.call (c := Call.ensureSecret _) hns ?_
        intro r _
        cases r <;> trivial
  · trivial

theorem meets_syncPodResources (hcs : home cs = n) (hns : pool.ns = n)
    (translation : PodTranslation) :
    Prog.Meets (callContract env home n) (fun _ => True)
      (PodExecution.syncPodResources cs translation pool) := by
  apply Prog.Meets.bind (Prog.Meets.loop (fun _ => True) (fun _ => True)
    (fun ref _ u _ => meets_syncResource hcs hns ref u) trivial)
  intro r _
  cases r <;> trivial

theorem meets_ensureHostPod {pod : PodSpec} (hns : pod.ns = n) :
    Prog.Meets (callContract env home n) (fun _ => True) (PodExecution.ensureHostPod pod) := by
  refine Prog.Meets.call (c := Call.getPod _) hns ?_
  intro r _
  cases r with
  | error err =>
      dsimp only
      split
      · exact Prog.Meets.call (c := Call.createPod pod) hns fun _ _ => trivial
      · trivial
  | ok current =>
      dsimp only
      split
      · trivial
      · split
        · trivial
        · refine Prog.Meets.call (c := Call.deletePod _) hns ?_
          intro r _
          cases r <;> trivial

theorem meets_reportPod (hcs : home cs = n) (sourcePod : CorePod) {target : ObjKey}
    (hns : target.ns = n) (acc : PodExecution.Progress) :
    Prog.Meets (callContract env home n) (fun _ => True)
      (PodExecution.reportPod translator cs sourcePod target acc) := by
  have hdelete : ∀ acc, Prog.Meets (callContract env home n) (fun _ => True)
      (PodExecution.deleteFinished sourcePod target acc) := by
    intro acc
    unfold PodExecution.deleteFinished
    split
    · refine Prog.Meets.call (c := Call.deletePod target) hns ?_
      intro r _
      cases r <;> trivial
    · trivial
  have hupdate : ∀ status, Prog.Meets (callContract env home n) (fun _ => True)
      (PodExecution.updateTenantPodStatus cs sourcePod.key status) := by
    intro status
    refine Prog.Meets.call (c := Call.getTenantPod cs _) hcs ?_
    intro r _
    cases r with
    | error err => trivial
    | ok current => exact Prog.Meets.last (c := Call.updateTenantPod cs _) hcs
  have hmirror : Prog.Meets (callContract env home n) (fun _ => True)
      (PodExecution.mirrorStatus translator cs sourcePod target acc) := by
    refine Prog.Meets.call (c := Call.getPodStatus target) hns ?_
    intro r _
    cases r with
    | error err =>
        dsimp only
        split <;> trivial
    | ok status =>
        dsimp only
        split
        · trivial
        · apply Prog.Meets.bind (hupdate _)
          intro r _
          cases r <;> trivial
  apply Prog.Meets.bind hmirror
  intro r _
  cases r with
  | exit outcome => trivial
  | next acc => exact hdelete acc

theorem meets_reconcilePod (hcs : home cs = n) (hns : pool.ns = n) (sourcePod : CorePod)
    (acc : PodExecution.Progress) :
    Prog.Meets (callContract env home n) (fun _ => True)
      (PodExecution.reconcilePod translator cs pool sourcePod acc) := by
  unfold PodExecution.reconcilePod
  rw [Pass.translate_eq]
  dsimp only
  apply Prog.Meets.bind (meets_syncPodResources hcs hns _)
  intro synced _
  cases synced with
  | error err => trivial
  | ok u =>
      dsimp only
      split
      · exact meets_reportPod hcs sourcePod hns _
      · apply Prog.Meets.bind (meets_ensureHostPod hns)
        rintro ⟨created, deleted, err⟩ _
        cases err with
        | none => exact meets_reportPod hcs sourcePod hns _
        | some err =>
            rw [PodExecution.afterEnsure]
            split <;> trivial

theorem meets_cleanupOrphans (hns : pool.ns = n) (hne : n ≠ "") (acc : PodExecution.Progress) :
    Prog.Meets (callContract env home n) (fun _ => True)
      (PodExecution.cleanupOrphans pool acc) := by
  refine Prog.Meets.call (c := Call.listPodsByLabels pool.ns _) ⟨hns, hns ▸ hne⟩ ?_
  intro r hr
  cases r with
  | error err => trivial
  | ok hostPods =>
      refine Prog.Meets.bind (Prog.Meets.loop (fun _ => True) (fun _ => True) ?_ trivial) ?_
      · intro hostPod hmem result _
        unfold PodExecution.deleteOrphan
        split
        · trivial
        · refine Prog.Meets.call (c := Call.deletePod _) (hr hostPod hmem) ?_
          intro r _
          cases r <;> trivial
      · intro r _
        cases r <;> trivial

theorem meets_pass (hpool : PoolIn env home n pool) (hne : n ≠ "") :
    Prog.Meets (callContract env home n) (fun _ => True)
      (PodExecution.reconcilePool translator pool) := by
  refine Prog.Meets.call (c := Call.tenantClient pool.tenantRef) hpool.2 ?_
  intro r hr
  cases r with
  | error err => trivial
  | ok cs =>
      refine Prog.Meets.call (c := Call.listByPool pool.ns pool.name) hpool.1 ?_
      intro r _
      cases r with
      | error err => trivial
      | ok nodes =>
          have hlist : Prog.Meets (callContract env home n) (fun _ => True)
              (PodExecution.listTenantPodsForNodes cs (PodExecution.readyNames nodes)) := by
            unfold PodExecution.listTenantPodsForNodes
            split
            · trivial
            · refine Prog.Meets.call (c := Call.listTenantPods cs) hr ?_
              intro r _
              cases r <;> trivial
          apply Prog.Meets.bind hlist
          intro r _
          cases r with
          | error err => trivial
          | ok sourcePods =>
              refine Prog.Meets.bind (Prog.Meets.loop (fun _ => True) (fun _ => True) ?_ trivial)
                ?_
              · intro p _ acc _
                apply (meets_reconcilePod hr hpool.1 p acc).mono
                intro r _
                cases r <;> trivial
              · intro r _
                cases r with
                | exit outcome => trivial
                | next acc => exact meets_cleanupOrphans hpool.1 hne acc

theorem meets_cleanup (hns : pool.ns = n) (hne : n ≠ "") :
    Prog.Meets (callContract env home n) (fun _ => True) (PodSync.cleanup pool) := by
  have hpods : Prog.Meets (callContract env home n) (fun _ => True)
      (PodExecution.cleanupPoolPods pool) := by
    refine Prog.Meets.call (c := Call.listPodsByLabels pool.ns _) ⟨hns, hns ▸ hne⟩ ?_
    intro r hr
    cases r with
    | error err => trivial
    | ok hostPods =>
        refine Prog.Meets.bind (Prog.Meets.loop (fun _ => True) (fun _ => True) ?_ trivial) ?_
        · intro hostPod hmem deleted _
          refine Prog.Meets.call (c := Call.deletePod _) (hr hostPod hmem) ?_
          intro r _
          cases r <;> trivial
        · intro r _
          cases r <;> trivial
  apply Prog.Meets.bind hpods
  rintro ⟨deleted, err⟩ _
  cases err <;> trivial

theorem meets_updateExecutionConditions {k : ObjKey} (hk : k.ns = n)
    (podExecutionReady degraded : ConditionStatus) (reason message : String) :
    Prog.Meets (callContract env home n) (fun _ => True)
      (PodSync.updateExecutionConditions k podExecutionReady degraded reason message) := by
  apply meets_retryOnConflict
  refine Prog.Meets.call (c := Call.getVNodePool k) hk ?_
  intro r _
  cases r with
  | error err => trivial
  | ok current =>
      apply Prog.Meets.bind poolRules.meets_now
      intro time _
      dsimp only
      split
      · trivial
      · refine Prog.Meets.call (c := Call.patchVNodePoolStatus _ _ _) hk ?_
        intro r _
        cases r <;> trivial

theorem meets_reconcilePods {k : ObjKey} (hk : k.ns = n) (hne : n ≠ "") :
    Prog.Meets (callContract env home n) (fun _ => True) (PodSync.reconcile translator k) := by
  refine Prog.Meets.call (c := Call.getVNodePool k) hk ?_
  intro r hr
  cases r with
  | error err => trivial
  | ok cr =>
      have hpool : PoolIn env home n (VNodePool.crToPoolModel cr) := hr
      dsimp only
      split
      · trivial
      · split
        · exact meets_cleanup hpool.1 hne
        · split
          · trivial
          · apply Prog.Meets.bind (meets_pass hpool hne)
            rintro ⟨result, err⟩ _
            cases err with
            | none =>
                exact (meets_updateExecutionConditions hr.1 _ _ _ _).bind fun _ _ => trivial
            | some err =>
                dsimp only
                split
                · trivial
                · exact (meets_updateExecutionConditions hr.1 _ _ _ _).bind fun _ _ => trivial

end

/-! ## Every controller stays in its namespace -/

theorem meets_program (translator : PodService) {job : Job} (hk : job.key.ns = n) (hne : n ≠ "") :
    Prog.Meets (callContract env home n) (fun _ => True) (job.program translator) := by
  cases job with
  | pool k => exact meets_reconcilePool hk
  | vnode k => exact meets_reconcileVNode hk
  | pods k => exact meets_reconcilePods hk hne

end VNodeOperator.Operator
