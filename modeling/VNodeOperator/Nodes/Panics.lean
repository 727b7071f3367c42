import VNodeOperator.Nodes.TenantNodes
import VNodeOperator.Pass.Target

/-!
# Panics

`resource.MustParse` panics on a text that is no quantity.  Two kinds of text
reach it: the resources of a pool, through a virtual node and its resource, and
the quantities of tenant pods, which the API renders and which parse again.
`Validate` looks at neither, so a pool decides for its own nodes whether their
registration can panic.  The model goes on after a panic, which the operator does
not; statements about all runs lose nothing by it, since a first panic is real.
-/

namespace VNodeOperator.Nodes

open Model Kube Adapter Ports ProofSupport Service NodeService

def panicked {α : Type} : Except Err α → Bool
  | .error err => err.kind = .panicked
  | .ok _ => false

/-- A text `MustParse` is not called on, or one that it accepts. -/
def parsable (parse : String → Option Quantity) (s : String) : Bool :=
  s = "" || (parse s).isSome

def resourcesParse (parse : String → Option Quantity) (r : ResourceList) : Bool :=
  parsable parse r.cpu && parsable parse r.memory

/-! ## Conversions -/

section

variable {α β : Type} {x : Except Err α} {f : α → Except Err β}

theorem panicked_bind_of_panicked (hx : panicked x = true) : panicked (x >>= f) = true := by
  cases x with
  | error err => exact hx
  | ok a => cases hx

theorem not_panicked_bind (hx : panicked x = false) (hf : ∀ a, panicked (f a) = false) :
    panicked (x >>= f) = false := by
  cases x with
  | error err => exact hx
  | ok a => exact hf a

theorem not_panicked_mapM {l : List α} (hf : ∀ a ∈ l, panicked (f a) = false) :
    panicked (l.mapM f) = false := by
  induction l with
  | nil => rfl
  | cons a l ih =>
      have hrest : panicked (l.mapM f) = false := ih fun b hb => hf b (List.mem_cons_of_mem a hb)
      rw [List.mapM_cons]
      apply not_panicked_bind (hf a List.mem_cons_self)
      intro b
      exact not_panicked_bind hrest fun _ => rfl

end

variable {env : Env}

theorem parseEntry_of_parsable {s : String} (h : parsable env.parseQuantity s = true) :
    ∃ q, Registrar.parseEntry env s = .ok q := by
  unfold Registrar.parseEntry
  by_cases hs : s = ""
  · exact ⟨none, if_pos hs⟩
  · obtain ⟨q, hq⟩ : ∃ q, env.parseQuantity s = some q := by
      simpa [parsable, hs, Option.isSome_iff_exists] using h
    refine ⟨some q, ?_⟩
    rw [if_neg hs, Registrar.mustParse, hq]
    rfl

theorem panicked_parseEntry {s : String} (h : parsable env.parseQuantity s = false) :
    panicked (Registrar.parseEntry env s) = true := by
  simp only [parsable, Bool.or_eq_false_iff, decide_eq_false_iff_not, Option.isSome_eq_false_iff,
    Option.isNone_iff_eq_none] at h
  rw [Registrar.parseEntry, if_neg h.1, Registrar.mustParse, h.2]
  rfl

theorem buildResources_of_parse {r : ResourceList}
    (h : resourcesParse env.parseQuantity r = true) :
    ∃ out, Registrar.buildResources env r = .ok out := by
  obtain ⟨hcpu, hmemory⟩ := Bool.and_eq_true_iff.mp h
  obtain ⟨cpu, hcpu⟩ := parseEntry_of_parsable hcpu
  obtain ⟨memory, hmemory⟩ := parseEntry_of_parsable hmemory
  rw [Registrar.buildResources, hcpu, hmemory]
  exact ⟨_, rfl⟩

theorem panicked_buildResources {r : ResourceList}
    (h : resourcesParse env.parseQuantity r = false) :
    panicked (Registrar.buildResources env r) = true := by
  cases hcpu : parsable env.parseQuantity r.cpu with
  | false => exact panicked_bind_of_panicked (panicked_parseEntry hcpu)
  | true =>
      have hmemory : parsable env.parseQuantity r.memory = false := by
        rw [resourcesParse, hcpu, Bool.true_and] at h
        exact h
      obtain ⟨cpu, hcpu⟩ := parseEntry_of_parsable hcpu
      rw [Registrar.buildResources, hcpu]
      change panicked (Registrar.parseEntry env r.memory >>= _) = true
      exact panicked_bind_of_panicked (panicked_parseEntry hmemory)

theorem withStatus_of_parse {node : VNode}
    (hcapacity : resourcesParse env.parseQuantity node.capacity = true)
    (hallocatable : resourcesParse env.parseQuantity node.allocatable = true)
    (current : TenantNode) : ∃ updated, Registrar.withStatus env current node = .ok updated := by
  obtain ⟨capacity, hcapacity⟩ := buildResources_of_parse hcapacity
  obtain ⟨allocatable, hallocatable⟩ := buildResources_of_parse hallocatable
  rw [Registrar.withStatus, hcapacity, hallocatable]
  exact ⟨_, rfl⟩

/-! ## Registration -/

def Calm (c : ApiCall) (r : c.Reply) : Prop := panicked r = false

theorem yields_request (c : ApiCall) :
    Prog.Yields Calm (fun r => panicked r = false) (request c) :=
  Prog.Yields.perform fun _ hr => hr

/-- An error that ends a program after a calm step is no panic either. -/
theorem yields_then {α β : Type} {p : Api (Except Err α)} {f : Except Err α → Api (Except Err β)}
    (hp : Prog.Yields Calm (fun r => panicked r = false) p)
    (hok : ∀ a, Prog.Yields Calm (fun r => panicked r = false) (f (.ok a)))
    (herr : ∀ err, panicked (.error err : Except Err α) = false →
      Prog.Yields Calm (fun r => panicked r = false) (f (.error err))) :
    Prog.Yields Calm (fun r => panicked r = false) (p >>= f) := by
  apply Prog.Yields.bind hp
  intro r hr
  cases r with
  | ok a => exact hok a
  | error err => exact herr err hr

theorem yields_ensureLeaseNamespace (cs : Clientset) :
    Prog.Yields Calm (fun r => panicked r = false) (Registrar.ensureLeaseNamespace cs) := by
  refine yields_then (yields_request _) (fun _ => rfl) ?_
  intro err hr
  dsimp only
  split
  · refine yields_then (yields_request _) (fun _ => rfl) ?_
    intro err hr
    dsimp only
    split
    · rfl
    · exact hr
  · exact hr

theorem yields_upsertNode (cs : Clientset) (node : VNode) :
    Prog.Yields Calm (fun r => panicked r = false) (Registrar.upsertNode cs node) := by
  apply yields_then (yields_request _)
  · intro current
    exact yields_then (yields_request _) (fun _ => rfl) fun _ hr => hr
  · intro err hr
    dsimp only
    split
    · exact yields_then (yields_request _) (fun _ => rfl) fun _ hr => hr
    · exact hr

theorem yields_upsertLease (cs : Clientset) (name : String) :
    Prog.Yields Calm (fun r => panicked r = false) (Registrar.upsertLease cs name) := by
  apply yields_then (yields_request _)
  · intro current
    exact yields_then (yields_request _) (fun _ => rfl) fun _ hr => hr
  · intro err hr
    dsimp only
    split
    · exact yields_then (yields_request _) (fun _ => rfl) fun _ hr => hr
    · exact hr

theorem yields_retryOnConflict {fn : Api (Except Err Unit)}
    (hfn : Prog.Yields Calm (fun r => panicked r = false) fn) (n : Nat) :
    Prog.Yields Calm (fun r => panicked r = false) (retryOnConflict n fn) := by
  induction n with
  | zero => exact hfn
  | succ n ih =>
      apply Prog.Yields.bind hfn
      intro r hr
      cases r with
      | ok u => rfl
      | error err =>
          dsimp only
          split
          · exact ih
          · exact hr

section

variable {node : VNode} (hcapacity : resourcesParse env.parseQuantity node.capacity = true)
  (hallocatable : resourcesParse env.parseQuantity node.allocatable = true)
include hcapacity hallocatable

theorem yields_writeNodeStatus (cs : Clientset) :
    Prog.Yields Calm (fun r => panicked r = false) (Registrar.writeNodeStatus env cs node) := by
  apply yields_retryOnConflict
  refine yields_then (yields_request _) ?_ fun _ hr => hr
  intro current
  obtain ⟨updated, hupdated⟩ := withStatus_of_parse hcapacity hallocatable current
  simp only [hupdated]
  exact yields_request _

theorem yields_updateNodeStatus (tenant : TenantRef) :
    Prog.Yields Calm (fun r => panicked r = false)
      (Registrar.updateNodeStatus env node tenant) := by
  unfold Registrar.updateNodeStatus
  split
  · rfl
  · refine yields_then (yields_request _) ?_ fun _ hr => hr
    intro cs
    refine yields_then (yields_writeNodeStatus hcapacity hallocatable cs) ?_ fun _ hr => hr
    exact fun _ => yields_upsertLease cs node.name

theorem yields_register (tenant : TenantRef) :
    Prog.Yields Calm (fun r => panicked r = false) (Registrar.register env node tenant) := by
  refine yields_then (yields_request _) ?_ fun _ hr => hr
  intro cs
  refine yields_then (yields_ensureLeaseNamespace cs) ?_ fun _ hr => hr
  intro _
  refine yields_then (yields_upsertNode cs node) ?_ fun _ hr => hr
  exact fun _ => yields_updateNodeStatus hcapacity hallocatable tenant

end

/-- Neither the tenants' clients nor the failing requests report a panic: those are
the operator's own. -/
structure NoForeignPanic (env : Env) (plan : FaultPlan Err) : Prop where
  connect : ∀ tenant, panicked (env.connect tenant) = false
  plan : ∀ n f, plan n = some f → f.err.kind ≠ .panicked

theorem not_panicked_find {κ α : Type} [DecidableEq κ] {key : α → κ} (s : Store key) (k : κ)
    (resource name : String) : panicked (find s k resource name) = false := by
  unfold find
  split <;> rfl

theorem not_panicked_api (hconnect : ∀ tenant, panicked (env.connect tenant) = false)
    (c : ApiCall) (w : Cluster) : panicked (api env c w).1 = false := by
  cases c with
  | getClient tenant => exact hconnect tenant
  | getVNode k | getNode cs name | getLease cs name | getConfigMap k | getSecret k =>
      exact not_panicked_find _ _ _ _
  | _ =>
      simp only [api]
      (repeat' split) <;> rfl

theorem NoForeignPanic.withFaults {s : Cluster × FaultPlan Err} (h : NoForeignPanic env s.2)
    (c : ApiCall) :
    NoForeignPanic env (ProofSupport.withFaults (api env) c s).2.2 ∧
      Calm c (ProofSupport.withFaults (api env) c s).1 := by
  obtain ⟨w, plan⟩ := s
  have hrest : NoForeignPanic env fun n => plan (n + 1) :=
    ⟨h.connect, fun n f hf => h.plan (n + 1) f hf⟩
  cases hplan : plan 0 with
  | none =>
      rw [withFaults_of_none (api env) c w hplan]
      exact ⟨hrest, not_panicked_api h.connect c w⟩
  | some f =>
      rw [withFaults_of_some (api env) c w hplan]
      exact ⟨hrest, decide_eq_false (h.plan 0 f hplan)⟩

/-- Where a program answers calmly to calm replies, nothing panics. -/
theorem not_panicked_run {p : Api (Except Err Unit)}
    (hp : Prog.Yields Calm (fun r => panicked r = false) p) {s : Cluster × FaultPlan Err}
    (h : NoForeignPanic env s.2) :
    panicked (p.run (ProofSupport.withFaults (api env)) s).1 = false :=
  hp.run (I := fun s => NoForeignPanic env s.2) (fun c _ h => h.withFaults c) h

theorem panicked_updateNodeStatus {node : VNode} {tenant : TenantRef} {cs : Clientset}
    (hcs : env.connect tenant = .ok cs) (hsecret : tenant.kubeconfigSecret ≠ "")
    (h : resourcesParse env.parseQuantity node.capacity = false) {w : Cluster}
    {P : TenantNode → Prop} (hnode : NodeIs cs node.name P w) :
    panicked ((Registrar.updateNodeStatus env node tenant).run (api env) w).1 = true := by
  obtain ⟨current, hcurrent, _⟩ := hnode
  have hstatus : panicked (Registrar.withStatus env current node) = true :=
    panicked_bind_of_panicked (panicked_buildResources h)
  cases hwith : Registrar.withStatus env current node with
  | ok updated =>
      rw [hwith] at hstatus
      cases hstatus
  | error err =>
      rw [hwith] at hstatus
      have hkind : err.kind = .panicked := of_decide_eq_true hstatus
      have hget : api env (.getNode cs node.name) w = (.ok current, w) := by
        simp only [api, find_some _ _ hcurrent]
      have hwrite : (Registrar.writeNodeStatus env cs node).run (api env) w = (.error err, w) := by
        simp only [Registrar.writeNodeStatus, defaultRetries, retryOnConflict, request,
          Prog.run_bind, Prog.run_perform, hget, hwith, Prog.run_pure, Err.isConflict, hkind]
        rfl
      have hclient : api env (.getClient tenant) w = (.ok cs, w) := by
        simp only [api, hcs]
      rw [Registrar.updateNodeStatus, if_neg hsecret]
      simp only [request, Prog.run_bind, Prog.run_perform, hclient, hwrite, Prog.run_pure]
      exact hstatus

theorem panicked_register {node : VNode} {tenant : TenantRef} {cs : Clientset}
    (hcs : env.connect tenant = .ok cs) (hsecret : tenant.kubeconfigSecret ≠ "")
    (h : resourcesParse env.parseQuantity node.capacity = false) (w : Cluster) :
    panicked (handle env (.register node tenant) w).1 = true := by
  obtain ⟨w', hnode, hrun⟩ := run_register hcs node w
  change panicked ((Registrar.register env node tenant).run (api env) w).1 = true
  rw [hrun]
  exact panicked_updateNodeStatus hcs hsecret h hnode

/-! ## Pods -/

def QuantitiesParsed (parse : String → Option Quantity) (p : CorePod) : Prop :=
  ∀ c ∈ p.containers, ∀ r ∈ [c.requests, c.limits], ∀ q,
    r.cpu = some q ∨ r.memory = some q → ∃ s, parse s = some q

section

variable (hround : ∀ s q, env.parseQuantity s = some q → (env.parseQuantity q.string).isSome)
include hround

theorem parsable_quantityText {q : Option Quantity}
    (hq : ∀ v, q = some v → ∃ s, env.parseQuantity s = some v) :
    parsable env.parseQuantity (PodClient.quantityText q) = true := by
  cases q with
  | none => rfl
  | some v =>
      obtain ⟨s, hs⟩ := hq v rfl
      exact Bool.or_eq_true_iff.mpr (Or.inr (hround s v hs))

theorem not_panicked_resourceListToK8s {r : CoreResourceList}
    (hr : ∀ q, r.cpu = some q ∨ r.memory = some q → ∃ s, env.parseQuantity s = some q) :
    panicked (PodClient.resourceListToK8s env (resourceListFromCore r)) = false := by
  have hcpu := parsable_quantityText hround (fun q hq => hr q (Or.inl hq))
  have hmemory := parsable_quantityText hround (fun q hq => hr q (Or.inr hq))
  obtain ⟨cpu, hcpu⟩ := parseEntry_of_parsable hcpu
  obtain ⟨memory, hmemory⟩ := parseEntry_of_parsable hmemory
  simp only [PodClient.resourceListToK8s, resourceListFromCore, PodClient.resourceListFromK8s,
    hcpu, hmemory]
  rfl

theorem not_panicked_podSpecToK8sPod {p : CorePod} (hp : QuantitiesParsed env.parseQuantity p)
    (translator : PodService) (pool : VNodePool) :
    panicked (PodClient.podSpecToK8sPod env (Pass.targetPod translator pool p)) = false := by
  apply not_panicked_bind
  · apply not_panicked_mapM
    intro c hc
    change c ∈ translateContainers (p.containers.map containerFromCore) at hc
    rw [translateContainers, List.map_map, List.mem_map] at hc
    obtain ⟨c, hc, rfl⟩ := hc
    apply not_panicked_bind
    · exact not_panicked_resourceListToK8s hround (hp c hc _ List.mem_cons_self)
    · intro requests
      apply not_panicked_bind
      · exact not_panicked_resourceListToK8s hround
          (hp c hc _ (List.mem_cons_of_mem _ List.mem_cons_self))
      · exact fun _ => rfl
  · exact fun _ => rfl

end

/-! ## Runs -/

def ShowsNodeOf (pool : VNodePool) : Call → Prop
  | .register node _ | .updateNodeStatus node _ => OfPool pool node
  | _ => False

/-- No call of `MustParse` panics on behalf of the pool, wherever the tenants are and
whatever requests fail: neither when its nodes are provisioned and reconciled, nor
when a tenant pod is converted for the host. -/
structure NeverPanics (parse : String → Option Quantity) (pool : VNodePool) : Prop where
  nodes : ∀ env : Env, env.parseQuantity = parse → ∀ (steps : List NodeStep)
    (s : Cluster × FaultPlan Err), NoForeignPanic env s.2 → CapacityKept pool s.1.vnodes →
      ∀ x ∈ nodeLog env pool steps s, ShowsNodeOf pool x.2.call →
        panicked (x.2.reply (unreliable env)) = false
  pods : ∀ env : Env, env.parseQuantity = parse → ∀ (translator : PodService) (p : CorePod),
    QuantitiesParsed parse p →
      panicked (PodClient.podSpecToK8sPod env (Pass.targetPod translator pool p)) = false

theorem not_panicked_of_carries {pool : VNodePool} {allocatable : ResourceList}
    (hcapacity : resourcesParse env.parseQuantity pool.perNodeResources = true)
    (hallocatable : resourcesParse env.parseQuantity allocatable = true)
    {e : Event Call (Cluster × FaultPlan Err)} (he : Carries pool allocatable e.call)
    (hnode : ShowsNodeOf pool e.call) (hplan : NoForeignPanic env e.before.2) :
    panicked (e.reply (unreliable env)) = false := by
  obtain ⟨c, s⟩ := e
  cases c with
  | register node tenant =>
      obtain ⟨hcap, halloc⟩ := he hnode
      change panicked ((apiRequests _).run _ s).1 = false
      rw [run_apiRequests_withFaults]
      apply not_panicked_run _ hplan
      exact yields_register (hcap ▸ hcapacity) (halloc ▸ hallocatable) tenant
  | updateNodeStatus node tenant =>
      obtain ⟨hcap, halloc⟩ := he hnode
      change panicked ((apiRequests _).run _ s).1 = false
      rw [run_apiRequests_withFaults]
      apply not_panicked_run _ hplan
      exact yields_updateNodeStatus (hcap ▸ hcapacity) (halloc ▸ hallocatable) tenant
  | _ => exact hnode.elim

theorem NoForeignPanic.unreliable {s : Cluster × FaultPlan Err} (h : NoForeignPanic env s.2)
    (c : Call) : NoForeignPanic env (Nodes.unreliable env c s).2.2 where
  connect := h.connect
  plan := plan_run (P := fun o => ∀ f : Fault Err, o = some f → f.err.kind ≠ .panicked)
    (serve env) (requests env c) h.plan

theorem NoForeignPanic.nodeLog {s : Cluster × FaultPlan Err} (h : NoForeignPanic env s.2)
    (pool : VNodePool) (steps : List NodeStep) :
    ∀ x ∈ Nodes.nodeLog env pool steps s, NoForeignPanic env x.2.before.2 := by
  intro x hx
  exact (Prog.linked_log (NodeStep.program pool) steps s).invariant (A := fun _ => True)
    (I := fun s => NoForeignPanic env s.2) (fun c _ _ h => h.unreliable c) (fun _ _ => trivial) h
    x.2 (List.mem_map_of_mem hx)

/-! ### Where nothing fails -/

theorem unreliable_none (c : Call) (w : Cluster) :
    unreliable env c (w, fun _ => none) =
      ((handle env c w).1, (handle env c w).2, fun _ => none) := by
  rw [← via_serve_requests]
  exact run_withFaults_none (serve env) (requests env c) w

/-- The first provision in empty clusters comes to the registration. -/
theorem register_mem_nodeLog (env : Env) (pool : VNodePool) :
    ∃ node w, node.capacity = pool.perNodeResources ∧ OfPool pool node ∧
      (NodeStep.provision, ⟨.register node pool.tenantRef, (w, fun _ => none)⟩) ∈
        nodeLog env pool [.provision] ({ tenants := fun _ => {} }, fun _ => none) := by
  let w₀ : Cluster := { tenants := fun _ => {} }
  let listed := (env.order (w₀.poolVNodes pool.ns pool.name)).map NodeRepository.crToNode
  let node := newNode pool listed.length
  let w₁ := w₀.putVNode (NodeRepository.saved w₀ node)
  refine ⟨node, w₁, rfl, ⟨rfl, rfl⟩, ?_⟩
  have hlist : unreliable env (.listByPool pool.ns pool.name) (w₀, fun _ => none) =
      (.ok listed, w₀, fun _ => none) := by
    rw [unreliable_none, handle_listByPool]
  have hsave : unreliable env (.save node) (w₀, fun _ => none) =
      (.ok (), w₁, fun _ => none) := by
    rw [unreliable_none, handle_save]
  apply List.mem_append_left
  apply List.mem_map_of_mem
  rw [NodeStep.program, Prog.events_bind]
  apply List.mem_append_left
  rw [provision, ask, Prog.events_bind_perform (congrArg Prod.fst hlist), hlist]
  apply List.mem_cons_of_mem
  change _ ∈ (provisionNode pool.tenantRef node).events _ _
  rw [provisionNode, ask, Prog.events_bind_perform (congrArg Prod.fst hsave), hsave]
  apply List.mem_cons_of_mem
  exact List.mem_cons_self

/-- A pool's nodes and pods never make the operator panic exactly when `MustParse`
accepts the resources the pool gives its nodes. -/
theorem never_panics_iff (parse : String → Option Quantity)
    (hround : ∀ s q, parse s = some q → (parse q.string).isSome) (pool : VNodePool)
    (hvalid : pool.validate = .ok ()) :
    NeverPanics parse pool ↔ resourcesParse parse pool.perNodeResources = true := by
  constructor
  · intro h
    by_contra hparse
    rw [Bool.not_eq_true] at hparse
    let env : Env := { Env.plain with parseQuantity := parse }
    have hsecret : pool.tenantRef.kubeconfigSecret ≠ "" := by
      intro hsecret
      rw [VNodePool.validate, hsecret] at hvalid
      split at hvalid <;> cases hvalid
    obtain ⟨node, w, hcapacity, hpool, hmem⟩ := register_mem_nodeLog env pool
    have hcalm := h.nodes env rfl [.provision] _ ⟨fun _ => rfl, by rintro _ _ ⟨⟩⟩
      (by rintro _ _ ⟨⟩) _ hmem hpool
    have hpanic : panicked (handle env (.register node pool.tenantRef) w).1 = true :=
      panicked_register rfl hsecret (hcapacity ▸ hparse) w
    rw [Event.reply, unreliable_none, hpanic] at hcalm
    cases hcalm
  · intro hparse
    constructor
    · rintro env rfl steps s hplan hstart x hx hnode
      have hallocatable : resourcesParse env.parseQuantity (x.1.allocatable pool) = true := by
        cases x.1 with
        | provision => exact hparse
        | reconcile k => rfl
      exact not_panicked_of_carries hparse hallocatable (carries_nodeLog hstart x hx) hnode
        (hplan.nodeLog pool steps x hx)
    · rintro env rfl translator p hp
      exact not_panicked_podSpecToK8sPod hround hp translator pool

def parseExceptAbc (s : String) : Option Quantity := if s = "abc" then none else some ⟨s, 0⟩

def abcPool : VNodePool := { acmePool 1 with perNodeResources := { cpu := "abc" } }

def abcEnv : Env := { Env.plain with parseQuantity := parseExceptAbc }

theorem gpuPool_never_panics :
    gpuPool.validate = .ok () ∧ NeverPanics parseExceptAbc gpuPool := by
  refine ⟨rfl, (never_panics_iff parseExceptAbc ?_ gpuPool rfl).mpr rfl⟩
  intro s q hq
  unfold parseExceptAbc at hq ⊢
  split at hq
  · cases hq
  · next hs =>
      cases hq
      rw [if_neg hs]
      rfl

/-- The pool is valid; its nodes are listed, the first one is stored, and its registration
panics. -/
theorem abcPool_panics :
    abcPool.validate = .ok () ∧
      (((nodeLog abcEnv abcPool [.provision] (gpuStart fun _ => none)).take 3).map fun x =>
        panicked (x.2.reply (unreliable abcEnv))) = [false, false, true] ∧
      ¬ NeverPanics parseExceptAbc abcPool := by
  refine ⟨rfl, by decide +kernel, ?_⟩
  intro h
  have hcalm := h.nodes abcEnv rfl [.provision] (gpuStart fun _ => none)
    ⟨fun _ => rfl, by rintro _ _ ⟨⟩⟩ (by rintro _ _ ⟨⟩) _ (List.mem_of_getElem? (i := 2) rfl)
    ⟨rfl, rfl⟩
  exact absurd hcalm (by decide +kernel)

end VNodeOperator.Nodes
