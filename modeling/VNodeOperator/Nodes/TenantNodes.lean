import VNodeOperator.Nodes.Registration
import VNodeOperator.ProofSupport.Events
import VNodeOperator.Reconciler.VNode

/-!
# The tenant's view of a pool

`Provision` registers the node it builds from the pool; a reconcile registers
and updates the node it rebuilds from the stored resource.  The resource has
no taints, and the reconcile leaves `allocatable` empty, so the tenant `Node`
shows what the pool asked for only as long as no reconcile writes it.

Runs are provisions of one pool and reconciles of any resources, one after the
other, in which any request may fail or lose its response.
-/

namespace VNodeOperator.Nodes

open Model Kube Adapter Ports ProofSupport Service NodeService Reconciler

inductive NodeStep where
  | provision
  | reconcile (k : ObjKey)

def NodeStep.program (pool : VNodePool) : NodeStep → Svc Unit
  | .provision => do
      let _ ← NodeService.provision pool
  | .reconcile k => do
      let _ ← VNode.reconcile k

def unreliable (env : Env) : Handler Call Call.Reply (Cluster × FaultPlan Err) :=
  Prog.via (withFaults (serve env)) (requests env)

def nodeLog (env : Env) (pool : VNodePool) (steps : List NodeStep)
    (s : Cluster × FaultPlan Err) : List (NodeStep × Event Call (Cluster × FaultPlan Err)) :=
  Prog.log (NodeStep.program pool) (unreliable env) steps s

def OfPool (pool : VNodePool) (node : VNode) : Prop :=
  node.ns = pool.ns ∧ node.poolName = pool.name

inductive Pushed (env : Env) :
    Event Call (Cluster × FaultPlan Err) → VNode → TenantRef → Prop
  | register {node : VNode} {tenant : TenantRef} {s : Cluster × FaultPlan Err}
      (h : (unreliable env (.register node tenant) s).1 = .ok ()) :
      Pushed env ⟨.register node tenant, s⟩ node tenant
  | updateNodeStatus {node : VNode} {tenant : TenantRef} {s : Cluster × FaultPlan Err}
      (h : (unreliable env (.updateNodeStatus node tenant) s).1 = .ok ()) :
      Pushed env ⟨.updateNodeStatus node tenant, s⟩ node tenant

variable {env : Env} {pool : VNodePool}

theorem run_apiRequests_withFaults {α : Type} (p : Api α) (s : Cluster × FaultPlan Err) :
    (apiRequests p).run (withFaults (serve env)) s = p.run (withFaults (api env)) s :=
  Prog.run_expand (withFaults (serve env)) _ p s

/-! ## Resources -/

/-- The stored nodes of the pool have the capacity the pool gives them. -/
def CapacityKept (pool : VNodePool) (s : Store VNodeCR.key) : Prop :=
  ∀ k cr, s.get k = some cr → cr.ns = pool.ns → cr.poolRef = pool.name →
    cr.capacity = pool.perNodeResources

def Carries (pool : VNodePool) (allocatable : ResourceList) : Call → Prop
  | .register node _ | .updateNodeStatus node _ => OfPool pool node →
      node.capacity = pool.perNodeResources ∧ node.allocatable = allocatable
  | .save node => OfPool pool node → node.capacity = pool.perNodeResources
  | .listByPool _ _ | .getVNode _ | .now => True
  | _ => False

theorem saveKeeps_capacity {node : VNode}
    (h : OfPool pool node → node.capacity = pool.perNodeResources) :
    SaveKeeps node (CapacityKept pool) where
  create s clock hs _ := by
    intro k cr hcr hns hpool
    rw [Store.get_put] at hcr
    split at hcr
    · cases hcr
      exact h ⟨hns, hpool⟩
    · exact hs k cr hcr hns hpool
  write s old cr hs hold hsame := by
    intro k cr' hcr' hns hpool
    rw [Store.get_put] at hcr'
    split at hcr'
    · cases hcr'
      have hns' : old.ns = pool.ns := by
        rw [← hns]
        exact (congrArg ObjKey.ns hsame.key).symm
      rw [hsame.capacity]
      exact hs _ old hold hns' (hsame.poolRef ▸ hpool)
    · exact hs k cr' hcr' hns hpool

theorem vnodes_onTenantNodes {α : Type} {p : Api α}
    (hp : Prog.Uses (fun c => Registrar.onTenantNodes c) p) (s : Cluster × FaultPlan Err) :
    (p.run (withFaults (api env)) s).2.1.vnodes = s.1.vnodes := by
  refine ((Robust.of_uses (h := api env) (I := fun w => w.vnodes = s.1.vnodes) hp ?_ rfl) s.2).2
  intro c w hc hw
  rw [Registrar.api_onTenantNodes env hc w]
  exact hw

theorem unreliable_read {r : Request} (hr : ∀ w, (serve env r w).2 = w)
    (s : Cluster × FaultPlan Err) : (withFaults (serve env) r s).2.1 = s.1 := by
  rcases withFaults_state (serve env) r s with h | h
  · rw [h, hr]
  · exact h

theorem CapacityKept.unreliable {allocatable : ResourceList} {c : Call}
    (hc : Carries pool allocatable c) {s : Cluster × FaultPlan Err}
    (hs : CapacityKept pool s.1.vnodes) :
    CapacityKept pool (Nodes.unreliable env c s).2.1.vnodes := by
  cases c with
  | save node =>
      show CapacityKept pool ((apiRequests _).run _ s).2.1.vnodes
      rw [run_apiRequests_withFaults]
      exact ((robust_save (saveKeeps_capacity hc) hs) s.2).2
  | register node tenant =>
      show CapacityKept pool ((apiRequests _).run _ s).2.1.vnodes
      rw [run_apiRequests_withFaults, vnodes_onTenantNodes
        ((Registrar.uses_register env node tenant).mono fun _ h => h.onTenantNodes)]
      exact hs
  | updateNodeStatus node tenant =>
      show CapacityKept pool ((apiRequests _).run _ s).2.1.vnodes
      rw [run_apiRequests_withFaults, vnodes_onTenantNodes
        ((Registrar.uses_updateNodeStatus env node tenant).mono
          fun _ h => (h.requestFor node).onTenantNodes)]
      exact hs
  | listByPool ns poolName =>
      show CapacityKept pool ((apiRequests _).run _ s).2.1.vnodes
      rw [run_apiRequests_withFaults]
      exact ((Robust.of_uses (h := api env) (I := fun w => CapacityKept pool w.vnodes)
        (B := fun c => c = .listVNodes ns poolName) (NodeRepository.uses_listByPool rfl)
        (fun c w hc hw => by subst hc; exact hw) hs) s.2).2
  | getVNode k =>
      have hread : (Nodes.unreliable env (.getVNode k) s).2.1 = s.1 :=
        unreliable_read (r := .api (.getVNode k)) (fun _ => rfl) s
      rw [hread]
      exact hs
  | now =>
      have hread : (Nodes.unreliable env .now s).2.1 = s.1 :=
        unreliable_read (r := .port .now) (fun _ => rfl) s
      rw [hread]
      exact hs
  | _ => exact hc.elim

theorem uses_provision_carries (pool : VNodePool) :
    Prog.Uses (Carries pool pool.perNodeResources) (NodeService.provision pool) := by
  apply uses_provision
  · trivial
  · exact fun _ _ => rfl
  · exact fun _ _ => ⟨rfl, rfl⟩
  · exact fun _ _ _ => rfl
  · exact fun _ _ => rfl

theorem uses_reconcile_carries {cr : VNodeCR}
    (hcr : cr.ns = pool.ns → cr.poolRef = pool.name → cr.capacity = pool.perNodeResources) :
    Prog.Uses (Carries pool {}) (VNode.reconcileCR cr) := by
  have hcapacity : OfPool pool (VNode.nodeOf cr) → cr.capacity = pool.perNodeResources :=
    fun h => hcr h.1 h.2
  apply VNode.uses_reconcileCR
  · apply uses_updateStatus
    · exact fun h => ⟨hcapacity h, rfl⟩
    · exact fun h => ⟨hcapacity h, rfl⟩
    · exact hcapacity
    · exact fun _ => hcapacity
    · exact fun _ => hcapacity
  · trivial

theorem unreliable_getVNode {k : ObjKey} {s : Cluster × FaultPlan Err} {cr : VNodeCR}
    (h : (unreliable env (.getVNode k) s).1 = .ok cr) : s.1.vnodes.get k = some cr := by
  change (withFaults (serve env) (.api (.getVNode k)) s).1 = .ok cr at h
  unfold withFaults at h
  split at h
  · exact get_of_find h
  · cases h

def NodeStep.allocatable (pool : VNodePool) : NodeStep → ResourceList
  | .provision => pool.perNodeResources
  | .reconcile _ => {}

theorem run_carries {α : Type} {p : Svc α} {allocatable : ResourceList}
    (hp : Prog.Uses (Carries pool allocatable) p) {s : Cluster × FaultPlan Err}
    (hs : CapacityKept pool s.1.vnodes) :
    CapacityKept pool (p.run (unreliable env) s).2.1.vnodes ∧
      ∀ e ∈ p.events (unreliable env) s, Carries pool allocatable e.call := by
  let I : Cluster × FaultPlan Err → Prop := fun s => CapacityKept pool s.1.vnodes
  constructor
  · exact hp.invariant (I := I) (fun _ _ hc hs => CapacityKept.unreliable hc hs) hs
  · exact hp.events (I := I) (fun _ _ hc hs => ⟨CapacityKept.unreliable hc hs, hc⟩) hs

theorem run_carries_bind {α : Type} {c : Call} {f : c.Reply → Svc α} {allocatable : ResourceList}
    {s : Cluster × FaultPlan Err} (hc : Carries pool allocatable c)
    (hf : Prog.Uses (Carries pool allocatable) (f (unreliable env c s).1))
    (hs : CapacityKept pool s.1.vnodes) :
    CapacityKept pool ((ask c >>= f).run (unreliable env) s).2.1.vnodes ∧
      ∀ e ∈ (ask c >>= f).events (unreliable env) s, Carries pool allocatable e.call := by
  obtain ⟨hkept, hcalls⟩ := run_carries hf (CapacityKept.unreliable hc hs)
  rw [ask, Prog.run_bind, Prog.run_perform, Prog.events_bind_perform rfl]
  refine ⟨hkept, ?_⟩
  intro e he
  rcases List.mem_cons.mp he with rfl | he
  · exact hc
  · exact hcalls e he

/-- One step keeps the stored capacities, and its calls carry them. -/
theorem step_carries (i : NodeStep) (s : Cluster × FaultPlan Err)
    (hs : CapacityKept pool s.1.vnodes) :
    CapacityKept pool ((i.program pool).run (unreliable env) s).2.1.vnodes ∧
      ∀ e ∈ (i.program pool).events (unreliable env) s,
        Carries pool (i.allocatable pool) e.call := by
  cases i with
  | provision => exact run_carries ((uses_provision_carries pool).bind fun _ => Prog.Uses.pure _) hs
  | reconcile k =>
      have hcall : Carries pool {} (.getVNode k) := trivial
      unfold NodeStep.program VNode.reconcile
      dsimp only
      rw [Prog.bind_assoc]
      apply run_carries_bind hcall _ hs
      apply Prog.Uses.bind
      · cases hr : (unreliable env (.getVNode k) s).1 with
        | error err => exact Prog.Uses.pure _
        | ok cr => exact uses_reconcile_carries (hs k cr (unreliable_getVNode hr))
      · exact fun _ => Prog.Uses.pure _

theorem carries_nodeLog {steps : List NodeStep} {s : Cluster × FaultPlan Err}
    (hstart : CapacityKept pool s.1.vnodes) :
    ∀ x ∈ nodeLog env pool steps s, Carries pool (x.1.allocatable pool) x.2.call :=
  Prog.forall_log (I := fun s => CapacityKept pool s.1.vnodes)
    (P := fun i e => Carries pool (i.allocatable pool) e.call) _ step_carries steps hstart

theorem Pushed.shows {e : Event Call (Cluster × FaultPlan Err)} {node : VNode}
    {tenant : TenantRef} (h : Pushed env e node tenant) (hsecret : tenant.kubeconfigSecret ≠ "") :
    ∃ cs, env.connect tenant = .ok cs ∧
      NodeIs cs node.name (Shows env node) (e.after (unreliable env)).1 := by
  cases h with
  | @register _ _ s h =>
      change ((apiRequests _).run _ s).1 = _ at h
      show ∃ cs, _ ∧ NodeIs cs node.name _ ((apiRequests _).run _ s).2.1
      rw [run_apiRequests_withFaults] at h ⊢
      obtain ⟨cs, hcs, _, hshows⟩ := ((robust_register node tenant s.1) s.2).2 h
      exact ⟨cs, hcs, hshows hsecret⟩
  | @updateNodeStatus _ _ s h =>
      change ((apiRequests _).run _ s).1 = _ at h
      show ∃ cs, _ ∧ NodeIs cs node.name _ ((apiRequests _).run _ s).2.1
      rw [run_apiRequests_withFaults] at h ⊢
      exact ((robust_updateNodeStatus node tenant s.1) s.2).2 h hsecret

def ShowsPool (env : Env) (pool : VNodePool) (n : TenantNode) : Prop :=
  Registrar.buildResources env pool.perNodeResources = .ok n.capacity ∧
    Registrar.buildResources env pool.perNodeResources = .ok n.allocatable

/-- After a successful call for a node of the pool that writes a status (without a
kubeconfig secret none is written) the tenant `Node` shows what the pool asked for. -/
def Advertises (env : Env) (pool : VNodePool) (e : Event Call (Cluster × FaultPlan Err)) : Prop :=
  ∀ node tenant, Pushed env e node tenant → OfPool pool node → tenant.kubeconfigSecret ≠ "" →
    ∃ cs, env.connect tenant = .ok cs ∧
      NodeIs cs node.name (ShowsPool env pool) (e.after (unreliable env)).1

def NoResources (env : Env) (pool : VNodePool) : Prop :=
  Registrar.buildResources env pool.perNodeResources = .ok {}

theorem buildResources_empty (env : Env) : Registrar.buildResources env {} = .ok {} := rfl

theorem pushed_carries {e : Event Call (Cluster × FaultPlan Err)} {allocatable : ResourceList}
    {node : VNode} {tenant : TenantRef} (he : Carries pool allocatable e.call)
    (h : Pushed env e node tenant) (hpool : OfPool pool node) :
    node.capacity = pool.perNodeResources ∧ node.allocatable = allocatable := by
  cases h <;> exact he hpool

/-- A node that carries the pool's resources twice is shown with them. -/
theorem advertises_provision {e : Event Call (Cluster × FaultPlan Err)}
    (he : Carries pool pool.perNodeResources e.call) : Advertises env pool e := by
  intro node tenant hpushed hpool hsecret
  obtain ⟨hcapacity, hallocatable⟩ := pushed_carries he hpushed hpool
  obtain ⟨cs, hcs, n, hn, hshows⟩ := hpushed.shows hsecret
  rw [Shows, hcapacity, hallocatable] at hshows
  exact ⟨cs, hcs, n, hn, hshows⟩

/-- A reconcile shows the pool's resources only where there are none. -/
theorem advertises_reconcile_iff {e : Event Call (Cluster × FaultPlan Err)}
    (he : Carries pool {} e.call) :
    Advertises env pool e ↔ (NoResources env pool ∨ ∀ node tenant, Pushed env e node tenant →
      OfPool pool node → tenant.kubeconfigSecret = "") := by
  constructor
  · intro hadvertises
    by_cases hnone : NoResources env pool
    · exact Or.inl hnone
    · refine Or.inr ?_
      intro node tenant hpushed hpool
      by_contra hsecret
      obtain ⟨_, hallocatable⟩ := pushed_carries he hpushed hpool
      obtain ⟨cs, hcs, n, hn, _, hshows⟩ := hpushed.shows hsecret
      obtain ⟨cs', hcs', n', hn', _, hwanted⟩ := hadvertises node tenant hpushed hpool hsecret
      have hsame : cs' = cs := Except.ok.inj (hcs'.symm.trans hcs)
      subst hsame
      have hnode : n' = n := Option.some.inj (hn'.symm.trans hn)
      subst hnode
      rw [hallocatable, buildResources_empty] at hshows
      exact hnone (hwanted.trans hshows.symm)
  · intro h node tenant hpushed hpool hsecret
    rcases h with hnone | hwithout
    · obtain ⟨hcapacity, hallocatable⟩ := pushed_carries he hpushed hpool
      obtain ⟨cs, hcs, n, hn, hshows⟩ := hpushed.shows hsecret
      rw [Shows, hcapacity, hallocatable, buildResources_empty] at hshows
      exact ⟨cs, hcs, n, hn, hshows.1, hnone.trans hshows.2⟩
    · exact absurd (hwithout node tenant hpushed hpool) hsecret

/-- The tenant `Node`s show what the pool asked for after every successful call of
a run exactly when the pool asks for nothing or no reconcile of the run succeeds in
writing a status. -/
theorem resources_advertised_iff (env : Env) (pool : VNodePool) (steps : List NodeStep)
    (s : Cluster × FaultPlan Err) (hstart : CapacityKept pool s.1.vnodes) :
    (∀ x ∈ nodeLog env pool steps s, Advertises env pool x.2) ↔
      (NoResources env pool ∨ ∀ k e, (NodeStep.reconcile k, e) ∈ nodeLog env pool steps s →
        ∀ node tenant, Pushed env e node tenant → OfPool pool node →
          tenant.kubeconfigSecret = "") := by
  have hcarries : ∀ x ∈ nodeLog env pool steps s, Carries pool (x.1.allocatable pool) x.2.call :=
    carries_nodeLog hstart
  constructor
  · intro hall
    by_cases hnone : NoResources env pool
    · exact Or.inl hnone
    · refine Or.inr ?_
      intro k e he
      exact ((advertises_reconcile_iff (hcarries _ he)).mp (hall _ he)).resolve_left hnone
  · intro h x hx
    obtain ⟨i, e⟩ := x
    cases i with
    | provision => exact advertises_provision (hcarries _ hx)
    | reconcile k =>
        apply (advertises_reconcile_iff (hcarries _ hx)).mpr
        exact h.imp_right fun h => h k e hx

/-! ### A node that is provisioned, and then reconciled -/

def gpuPool : VNodePool :=
  { acmePool 1 with
    perNodeResources := { cpu := "4", memory := "8Gi", pods := 10 }
    taints := [⟨"gpu", "true", "NoSchedule"⟩] }

def gpuStart (plan : FaultPlan Err) : Cluster × FaultPlan Err := ({ tenants := fun _ => {} }, plan)

theorem capacityKept_gpuStart (plan : FaultPlan Err) :
    CapacityKept gpuPool (gpuStart plan).1.vnodes := by
  intro k cr hcr
  cases hcr

theorem provision_advertised :
    (∃ x ∈ nodeLog Env.plain gpuPool [.provision] (gpuStart fun _ => none),
      ∃ node tenant, Pushed Env.plain x.2 node tenant) ∧
    ∀ x ∈ nodeLog Env.plain gpuPool [.provision] (gpuStart fun _ => none),
      Advertises Env.plain gpuPool x.2 := by
  refine ⟨⟨_, List.mem_of_getElem? (i := 2) rfl, _, _, .register rfl⟩, ?_⟩
  apply (resources_advertised_iff Env.plain gpuPool [.provision] _
    (capacityKept_gpuStart fun _ => none)).mpr
  refine Or.inr ?_
  intro k e he
  rcases List.mem_append.mp he with he | he
  · obtain ⟨_, _, heq⟩ := List.mem_map.mp he
    cases heq
  · cases he

/-- The first reconcile of the ready node empties its allocatable resources. -/
theorem reconcile_not_advertised :
    ∃ x ∈ nodeLog Env.plain gpuPool [.provision, .reconcile ⟨"host", "vnode-web-1"⟩]
      (gpuStart fun _ => none), ¬ Advertises Env.plain gpuPool x.2 := by
  refine ⟨_, List.mem_of_getElem? (i := 5) rfl, ?_⟩
  refine mt (advertises_reconcile_iff ?_).mp ?_
  · exact fun _ => ⟨rfl, rfl⟩
  · rintro (hnone | hwithout)
    · cases hnone
    · exact absurd (hwithout _ _ (.updateNodeStatus rfl) ⟨rfl, rfl⟩) (by decide)

/-! ## Taints -/

def TaintCall (T : List Taint) : Call → Prop
  | .register node _ => node.taints = T
  | .listByPool _ _ | .save _ | .updateNodeStatus _ _ | .getVNode _ | .now => True
  | _ => False

def TaintRequest (T : List Taint) : Request → Prop
  | .api c => KeepsTaints T c
  | .port c => c = .now

theorem uses_requests_taints {T : List Taint} {c : Call} (hc : TaintCall T c) :
    Prog.Uses (TaintRequest T) (requests env c) := by
  cases c with
  | register node tenant =>
      change node.taints = T at hc
      subst hc
      exact uses_apiRequests
        ((Registrar.uses_register env node tenant).mono fun _ h => keepsTaints_of_requestFor h)
  | updateNodeStatus node tenant =>
      exact uses_apiRequests
        ((Registrar.uses_updateNodeStatus env node tenant).mono
          fun _ h => keepsTaints_of_statusRequest h)
  | save node =>
      have hsave : Prog.Uses (fun c => TaintRequest T (.api c)) (NodeRepository.save node) := by
        apply NodeRepository.uses_save
        · trivial
        · trivial
        · exact fun _ => trivial
        · exact fun _ => trivial
      exact uses_apiRequests hsave
  | listByPool ns poolName => exact uses_apiRequests (NodeRepository.uses_listByPool trivial)
  | getVNode k => exact Prog.Uses.perform trivial
  | now => exact Prog.Uses.perform rfl
  | _ => exact hc.elim

def HasTaints (cs : Clientset) (name : String) (T : List Taint) (s : Cluster × FaultPlan Err) :
    Prop :=
  NodeIs cs name (fun n => n.taints = T) s.1

theorem HasTaints.request {cs : Clientset} {name : String} {T : List Taint} {r : Request}
    {s : Cluster × FaultPlan Err} (hr : TaintRequest T r) (hs : HasTaints cs name T s) :
    HasTaints cs name T (withFaults (serve env) r s).2 := by
  unfold HasTaints
  rcases withFaults_state (serve env) r s with h | h
  · rw [h]
    cases r with
    | api c => exact tainted_api hr hs
    | port c =>
        change c = .now at hr
        subst hr
        exact hs
  · rw [h]
    exact hs

theorem HasTaints.call {cs : Clientset} {name : String} {T : List Taint} {c : Call}
    {s : Cluster × FaultPlan Err} (hc : TaintCall T c) (hs : HasTaints cs name T s) :
    HasTaints cs name T (unreliable env c s).2 :=
  (uses_requests_taints hc).invariant (I := HasTaints cs name T)
    (fun _ _ hr hs => hs.request hr) hs

inductive Registered (env : Env) :
    Event Call (Cluster × FaultPlan Err) → VNode → Clientset → Prop
  | intro {node : VNode} {tenant : TenantRef} {cs : Clientset} {s : Cluster × FaultPlan Err}
      (h : (unreliable env (.register node tenant) s).1 = .ok ())
      (hcs : env.connect tenant = .ok cs) : Registered env ⟨.register node tenant, s⟩ node cs

/-- The clusters after each request of a call. -/
def during (env : Env) (e : Event Call (Cluster × FaultPlan Err)) : List Cluster :=
  ((requests env e.call).events (withFaults (serve env)) e.before).map
    fun r => (r.after (withFaults (serve env))).1

/-- From a successful registration of a node of the pool on, after that call and
after every later request, its tenant `Node`, if there is one, has the pool's taints. -/
def TaintsSurvive (env : Env) (pool : VNodePool)
    (log : List (NodeStep × Event Call (Cluster × FaultPlan Err))) : Prop :=
  ∀ before x later, log = before ++ x :: later → ∀ node cs, Registered env x.2 node cs →
    OfPool pool node → ∀ w, w = (x.2.after (unreliable env)).1 ∨ (∃ y ∈ later, w ∈ during env y.2) →
      ∀ n, (w.tenants cs).nodes.get node.name = some n → n.taints = pool.taints

theorem Registered.hasTaints {e : Event Call (Cluster × FaultPlan Err)} {node : VNode}
    {cs : Clientset} (h : Registered env e node cs) :
    HasTaints cs node.name node.taints (e.after (unreliable env)) := by
  cases h with
  | @intro _ tenant _ s h hcs =>
      change ((apiRequests _).run _ s).1 = _ at h
      show HasTaints cs node.name node.taints ((apiRequests _).run _ s).2
      rw [run_apiRequests_withFaults] at h ⊢
      obtain ⟨cs', hcs', hnode, _⟩ := ((robust_register node tenant s.1) s.2).2 h
      rw [hcs, Except.ok.injEq] at hcs'
      exact hcs' ▸ hnode

theorem Registered.taints_eq {e : Event Call (Cluster × FaultPlan Err)} {node : VNode}
    {cs : Clientset} {T : List Taint} (h : Registered env e node cs) (he : TaintCall T e.call) :
    node.taints = T := by
  cases h
  exact he

def NodeStep.taints (pool : VNodePool) : NodeStep → List Taint
  | .provision => pool.taints
  | .reconcile _ => []

theorem uses_program_taints (i : NodeStep) :
    Prog.Uses (TaintCall (i.taints pool)) (i.program pool) := by
  cases i with
  | provision =>
      have hprovision : Prog.Uses (TaintCall pool.taints) (NodeService.provision pool) := by
        apply uses_provision
        · trivial
        · exact fun _ => trivial
        · exact fun _ => rfl
        · exact fun _ _ => trivial
        · exact fun _ => trivial
      exact hprovision.bind fun _ => Prog.Uses.pure _
  | reconcile k =>
      have hreconcile : Prog.Uses (TaintCall []) (VNode.reconcile k) := by
        apply Prog.Uses.bind (Prog.Uses.perform trivial)
        intro read
        cases read with
        | error err => exact Prog.Uses.pure _
        | ok cr =>
            apply VNode.uses_reconcileCR
            · apply uses_updateStatus
              · rfl
              · trivial
              · trivial
              · exact fun _ => trivial
              · exact fun _ => trivial
            · trivial
      exact hreconcile.bind fun _ => Prog.Uses.pure _

theorem nodeLog_taints (env : Env) (pool : VNodePool) (steps : List NodeStep)
    (s : Cluster × FaultPlan Err) :
    ∀ x ∈ nodeLog env pool steps s, TaintCall (x.1.taints pool) x.2.call := by
  refine Prog.forall_log (I := fun _ => True) (P := fun i e => TaintCall (i.taints pool) e.call)
    _ ?_ steps trivial
  intro i s _
  refine ⟨trivial, ?_⟩
  exact (uses_program_taints i).event_calls s

/-- Where all registrations carry the pool's taints, they survive. -/
theorem taintsSurvive_of_calls {steps : List NodeStep} {s : Cluster × FaultPlan Err}
    (hcalls : ∀ x ∈ nodeLog env pool steps s, TaintCall pool.taints x.2.call) :
    TaintsSurvive env pool (nodeLog env pool steps s) := by
  intro before x later hsplit node cs hregistered _ w hw n hn
  have hx : TaintCall pool.taints x.2.call := hcalls x (by simp [hsplit])
  have hlinked := Prog.linked_log (h := unreliable env) (NodeStep.program pool) steps s
  change Linked _ s ((nodeLog env pool steps s).map Prod.snd) at hlinked
  rw [hsplit, List.map_append, List.map_cons] at hlinked
  -- the registration establishes the invariant
  have hafter : HasTaints cs node.name pool.taints (x.2.after (unreliable env)) := by
    have htaints := hregistered.hasTaints
    rwa [hregistered.taints_eq hx] at htaints
  have hstate : NodeIs cs node.name (fun n => n.taints = pool.taints) w := by
    rcases hw with rfl | ⟨y, hy, hw⟩
    · exact hafter
    · have hlater : ∀ e ∈ later.map Prod.snd, TaintCall pool.taints e.call := by
        intro e he
        obtain ⟨z, hz, rfl⟩ := List.mem_map.mp he
        exact hcalls z (by simp [hsplit, hz])
      -- and the calls and requests after it keep it
      have hbefore : HasTaints cs node.name pool.taints y.2.before :=
        hlinked.drop.invariant (fun _ _ hc hs => hs.call hc) hlater hafter y.2
          (List.mem_map_of_mem hy)
      have hrequests : ∀ r ∈ (requests env y.2.call).events (withFaults (serve env)) y.2.before,
          HasTaints cs node.name pool.taints (r.after (withFaults (serve env))) :=
        (uses_requests_taints (hlater y.2 (List.mem_map_of_mem hy))).events
          (I := HasTaints cs node.name pool.taints)
          (fun _ _ hr hs => ⟨hs.request hr, hs.request hr⟩) hbefore
      obtain ⟨r, hr, rfl⟩ := List.mem_map.mp hw
      exact hrequests r hr
  obtain ⟨n', hn', htaints⟩ := hstate
  rw [hn, Option.some.injEq] at hn'
  exact hn' ▸ htaints

/-- A reconcile that registers a node of the pool takes its taints away. -/
theorem taints_nil_of_survive {steps : List NodeStep} {s : Cluster × FaultPlan Err}
    (hsurvive : TaintsSurvive env pool (nodeLog env pool steps s)) {k : ObjKey}
    {e : Event Call (Cluster × FaultPlan Err)}
    (he : (NodeStep.reconcile k, e) ∈ nodeLog env pool steps s) {node : VNode} {cs : Clientset}
    (hregistered : Registered env e node cs) (hpool : OfPool pool node) : pool.taints = [] := by
  obtain ⟨before, later, hsplit⟩ := List.append_of_mem he
  obtain ⟨n, hn, htaints⟩ := hregistered.hasTaints
  have hwanted : n.taints = pool.taints :=
    hsurvive before _ later hsplit node cs hregistered hpool _ (Or.inl rfl) n hn
  have hnone : node.taints = [] := hregistered.taints_eq (nodeLog_taints env pool steps s _ he)
  rw [← hwanted, htaints, hnone]

def ReRegisters (log : List (NodeStep × Event Call (Cluster × FaultPlan Err))) : Prop :=
  ∃ k node tenant s, (NodeStep.reconcile k, ⟨.register node tenant, s⟩) ∈ log

/-- In a run without taints to lose, or in which no reconcile calls `Register`, the
pool's taints survive; and where they do, there were none to lose or no reconcile
has registered a node of the pool. -/
theorem taints_survive (env : Env) (pool : VNodePool) (steps : List NodeStep)
    (s : Cluster × FaultPlan Err) :
    ((pool.taints = [] ∨ ¬ ReRegisters (nodeLog env pool steps s)) →
      TaintsSurvive env pool (nodeLog env pool steps s)) ∧
    (TaintsSurvive env pool (nodeLog env pool steps s) → pool.taints = [] ∨
      ∀ k e, (NodeStep.reconcile k, e) ∈ nodeLog env pool steps s → ∀ node cs,
        Registered env e node cs → ¬ OfPool pool node) := by
  constructor
  · intro hcondition
    apply taintsSurvive_of_calls
    intro x hx
    have hcall := nodeLog_taints env pool steps s x hx
    obtain ⟨i, ⟨c, s'⟩⟩ := x
    cases i with
    | provision => exact hcall
    | reconcile k =>
        cases c with
        | register node tenant =>
            rcases hcondition with hnone | hnever
            · rw [hnone]
              exact hcall
            · exact absurd ⟨k, node, tenant, s', hx⟩ hnever
        | _ => exact hcall
  · intro hsurvive
    by_cases hnone : pool.taints = []
    · exact Or.inl hnone
    · refine Or.inr ?_
      intro k e he node cs hregistered hpool
      exact hnone (taints_nil_of_survive hsurvive he hregistered hpool)

/-- The first registration cannot reach the tenant; the reconcile that repairs the
node registers it without the pool's taints. -/
theorem reRegistration_loses_taints :
    ¬ TaintsSurvive Env.plain gpuPool (nodeLog Env.plain gpuPool
      [.provision, .reconcile ⟨"host", "vnode-web-1"⟩]
      (gpuStart fun i =>
        if i = 4 then some ⟨⟨.other, "connection refused"⟩, false⟩ else none)) := by
  intro hsurvive
  cases taints_nil_of_survive hsurvive (List.mem_of_getElem? (i := 5) rfl) (.intro rfl rfl)
    ⟨rfl, rfl⟩

end VNodeOperator.Nodes
