import Mathlib.Data.Set.Function
import VNodeOperator.Nodes.Registration
import VNodeOperator.Nodes.Scaling

/-!
# Pools side by side

The name of a virtual node comes from the display name of its pool, which
several pools may share.  The label that says whose node it is is written when
the resource is created and never again.  When do pools, reconciled in any order,
leave each other's nodes alone?
-/

namespace VNodeOperator.Pools

open Model Kube Adapter Ports ProofSupport Service NodeService PoolService Nodes

def poolKey (p : VNodePool) : ObjKey := ⟨p.ns, p.name⟩

def Untouched (pool : VNodePool) (s s' : Store VNodeCR.key) : Prop :=
  ∀ k cr, inPool pool cr = true → (s'.get k = some cr ↔ s.get k = some cr)

def reconciledWith (env : Env) (plan : FaultPlan Err) (pool : VNodePool) (w : Cluster) : Cluster :=
  ((PoolService.reconcile pool).run (withFaults (handle env)) (w, plan)).2.1

/-- The clusters reached from one without virtual nodes by reconciling pools of a
set, in any order and with any requested sizes. -/
inductive Reached (connect : TenantRef → Except Err Clientset) (P : Set VNodePool) :
    Cluster → Prop
  | start {w : Cluster} (hempty : w.vnodes = .empty) : Reached connect P w
  | reconcile {w : Cluster} {env : Env} {p : VNodePool} (hw : Reached connect P w)
      (henv : env.connect = connect) (plan : FaultPlan Err) (hp : p ∈ P) (n : Int) :
      Reached connect P (reconciledWith env plan { p with nodeCount := n } w)

def RegisteredIn (connect : TenantRef → Except Err Clientset) (w : Cluster) (cr : VNodeCR)
    (cs : Clientset) : Prop :=
  connect (NodeRepository.tenantOf cr.annotations) = .ok cs ∧
    NodeIs cs cr.name (fun _ => True) w

/-- Reconciling one pool leaves the others' virtual nodes as they are, and nodes
of different pools in one tenant cluster have different names. -/
structure NonInterfering (connect : TenantRef → Except Err Clientset) (P : Set VNodePool) :
    Prop where
  vnodes : ∀ w, Reached connect P w → ∀ env : Env, env.connect = connect →
    ∀ plan, ∀ p ∈ P, ∀ n, ∀ q ∈ P, q ≠ p →
      Untouched q w.vnodes (reconciledWith env plan { p with nodeCount := n } w).vnodes
  names : ∀ w, Reached connect P w → ∀ p ∈ P, ∀ q ∈ P, p ≠ q →
    ∀ cr ∈ w.vnodes.items, ∀ cr' ∈ w.vnodes.items, inPool p cr = true → inPool q cr' = true →
      ∀ cs, RegisteredIn connect w cr cs → RegisteredIn connect w cr' cs → cr.name ≠ cr'.name

/-- Pools that are displayed alike share neither a namespace nor a tenant
cluster. -/
def NamesApart (connect : TenantRef → Except Err Clientset) (P : Set VNodePool) : Prop :=
  ∀ p ∈ P, ∀ q ∈ P, p ≠ q → displayed p = displayed q →
    p.ns ≠ q.ns ∧ ∀ cs, connect p.tenantRef = .ok cs → connect q.tenantRef ≠ .ok cs

/-! ## Whose node it is -/

structure NodeOf (pool : VNodePool) (node : VNode) : Prop where
  ns : node.ns = pool.ns
  poolName : node.poolName = pool.name
  name : ∃ i, node.name = nodeName pool i
  tenantRef : node.tenantRef = pool.tenantRef

structure Owned (pool : VNodePool) (cr : VNodeCR) : Prop where
  labelled : inPool pool cr = true
  poolRef : cr.poolRef = pool.name
  name : ∃ i, cr.name = nodeName pool i
  tenantRef : NodeRepository.tenantOf cr.annotations = pool.tenantRef

def AllOwned (P : Set VNodePool) (s : Store VNodeCR.key) : Prop :=
  ∀ cr ∈ s.items, ∃ p ∈ P, Owned p cr

theorem inPool_iff {pool : VNodePool} {cr : VNodeCR} :
    inPool pool cr = true ↔
      cr.ns = pool.ns ∧ cr.labels.lookup labelVNodePool = some pool.name := by
  rw [inPool, decide_eq_true_eq]

section

variable {P : Set VNodePool} {p q : VNodePool} {cr : VNodeCR} {node : VNode}

theorem eq_of_inPool (hP : Set.InjOn poolKey P) (hp : p ∈ P) (hq : q ∈ P)
    (hcrp : inPool p cr = true) (hcrq : inPool q cr = true) : p = q := by
  rw [inPool_iff] at hcrp hcrq
  have hname : p.name = q.name := Option.some.inj (hcrp.2.symm.trans hcrq.2)
  apply hP hp hq
  rw [poolKey, poolKey, ← hcrp.1, ← hcrq.1, hname]

theorem Owned.of_inPool (hP : Set.InjOn poolKey P) (hp : p ∈ P) {s : Store VNodeCR.key}
    (hall : AllOwned P s) (hmem : cr ∈ s.items) (hcr : inPool p cr = true) : Owned p cr := by
  obtain ⟨q, hq, howned⟩ := hall cr hmem
  rw [eq_of_inPool hP hp hq hcr howned.labelled]
  exact howned

theorem Owned.nodeOf (h : Owned p cr) : NodeOf p (NodeRepository.crToNode cr) :=
  ⟨(inPool_iff.mp h.labelled).1, h.poolRef, h.name, h.tenantRef⟩

theorem Owned.saved (hnode : NodeOf p node) {w : Cluster}
    (hold : ∀ old, w.vnodes.get (NodeRepository.keyOf node) = some old → Owned p old) :
    Owned p (NodeRepository.saved w node) := by
  unfold NodeRepository.saved
  split
  · next old hget =>
      have howned := hold old hget
      exact ⟨howned.labelled, howned.poolRef, howned.name,
        (NodeRepository.tenantOf_annotateTenant _ _).trans hnode.tenantRef⟩
  · refine ⟨inPool_iff.mpr ⟨hnode.ns, ?_⟩, hnode.poolName, hnode.name,
      (NodeRepository.tenantOf_annotateTenant _ _).trans hnode.tenantRef⟩
    have hlabels : (NodeRepository.savedNew w.clock node).labels =
        AList.insert labelVNodePool node.poolName ∅ := rfl
    rw [hlabels, AList.lookup_insert, hnode.poolName]

end

/-! ## One reconcile -/

def CallOf (pool : VNodePool) : Call → Prop
  | .save node => NodeOf pool node
  | .delete k => ∃ i, k = ⟨pool.ns, nodeName pool i⟩
  | .listByPool _ _ | .register _ _ | .deregister _ _ => True
  | _ => False

structure Keeps (P : Set VNodePool) (p : VNodePool) (s₀ s : Store VNodeCR.key) : Prop where
  owned : AllOwned P s
  untouched : ∀ q ∈ P, q ≠ p → Untouched q s₀ s

section

variable {connect : TenantRef → Except Err Clientset} {P : Set VNodePool} {p q : VNodePool}
  {s s₀ : Store VNodeCR.key} {cr : VNodeCR} {k : ObjKey} {env : Env} {w : Cluster}

theorem Untouched.put (h : Untouched q s₀ s) (hnew : ¬ inPool q cr = true)
    (hold : ∀ old, s.get cr.key = some old → ¬ inPool q old = true) :
    Untouched q s₀ (s.put cr) := by
  intro k cr' hcr'
  rw [← h k cr' hcr', Store.get_put]
  split
  · next hkey =>
      subst hkey
      constructor
      · intro heq
        rw [Option.some.inj heq] at hnew
        exact absurd hcr' hnew
      · intro hget
        exact absurd hcr' (hold cr' hget)
  · exact Iff.rfl

theorem Untouched.erase (h : Untouched q s₀ s)
    (hold : ∀ old, s.get k = some old → ¬ inPool q old = true) :
    Untouched q s₀ (s.erase k) := by
  intro k' cr' hcr'
  rw [← h k' cr' hcr', Store.get_erase]
  split
  · next hkey =>
      subst hkey
      constructor
      · rintro ⟨⟩
      · intro hget
        exact absurd hcr' (hold cr' hget)
  · exact Iff.rfl

/-- With names apart, what is stored under the name of a node of the pool is of
the pool. -/
theorem AllOwned.owned_of_get (hall : AllOwned P s) (hapart : NamesApart connect P) (hp : p ∈ P)
    {i : Nat} (hget : s.get ⟨p.ns, nodeName p i⟩ = some cr) : Owned p cr := by
  obtain ⟨q, hq, howned⟩ := hall cr (Store.mem_of_get hget)
  have hkey : cr.key = ⟨p.ns, nodeName p i⟩ := Store.key_of_get hget
  have hns : cr.ns = p.ns := congrArg ObjKey.ns hkey
  have hname : cr.name = nodeName p i := congrArg ObjKey.name hkey
  obtain ⟨j, hj⟩ := howned.name
  have hdisplayed : displayed p = displayed q := (nodeName_eq_iff.mp (hname.symm.trans hj)).1
  by_cases hpq : p = q
  · rw [hpq]
    exact howned
  · have hne := (hapart p hp q hq hpq hdisplayed).1
    exact absurd (hns.symm.trans (inPool_iff.mp howned.labelled).1) hne

theorem Keeps.put (hP : Set.InjOn poolKey P) (hp : p ∈ P) (h : Keeps P p s₀ s)
    (hnew : Owned p cr) (hold : ∀ old, s.get cr.key = some old → Owned p old) :
    Keeps P p s₀ (s.put cr) := by
  have hother : ∀ {q : VNodePool} {cr : VNodeCR}, q ∈ P → q ≠ p → Owned p cr →
      ¬ inPool q cr = true := by
    intro q cr hq hne howned hcr
    exact hne (eq_of_inPool hP hq hp hcr howned.labelled)
  constructor
  · intro cr' hcr'
    rcases Store.mem_put.mp hcr' with rfl | ⟨hmem, _⟩
    · exact ⟨p, hp, hnew⟩
    · exact h.owned cr' hmem
  · intro q hq hne
    exact (h.untouched q hq hne).put (hother hq hne hnew)
      (fun old hget => hother hq hne (hold old hget))

theorem Keeps.erase (hP : Set.InjOn poolKey P) (hp : p ∈ P) (h : Keeps P p s₀ s)
    (hold : ∀ old, s.get k = some old → Owned p old) : Keeps P p s₀ (s.erase k) := by
  constructor
  · intro cr' hcr'
    exact h.owned cr' (Store.mem_erase.mp hcr').1
  · intro q hq hne
    refine (h.untouched q hq hne).erase ?_
    intro old hget hcr
    exact hne (eq_of_inPool hP hq hp hcr (hold old hget).labelled)

theorem Keeps.call (hP : Set.InjOn poolKey P) (hapart : NamesApart connect P) (hp : p ∈ P)
    {c : Call} (hc : CallOf p c) (h : Keeps P p s₀ w.vnodes) :
    Keeps P p s₀ (handle env c w).2.vnodes := by
  cases c with
  | save node =>
      obtain ⟨i, hi⟩ := hc.name
      have hkey : NodeRepository.keyOf node = ⟨p.ns, nodeName p i⟩ := by
        rw [NodeRepository.keyOf, hc.ns, hi]
      have hold : ∀ old, w.vnodes.get (NodeRepository.keyOf node) = some old → Owned p old := by
        intro old hget
        rw [hkey] at hget
        exact h.owned.owned_of_get hapart hp hget
      rw [handle_save]
      refine h.put hP hp (Owned.saved hc hold) ?_
      rw [NodeRepository.saved_key]
      exact hold
  | delete k =>
      obtain ⟨i, rfl⟩ := hc
      simp only [handle, NodeRepository.run_delete]
      split
      · exact h
      · exact h.erase hP hp (fun old hget => h.owned.owned_of_get hapart hp hget)
  | listByPool ns poolName =>
      rw [handle_listByPool]
      exact h
  | register node tenant =>
      rw [handle_registrar env w rfl]
      exact h
  | deregister node tenant =>
      rw [handle_registrar env w rfl]
      exact h
  | _ => exact hc.elim

theorem nodeOf_newNode (p : VNodePool) (count : Int) (n : Nat) :
    NodeOf p (newNode { p with nodeCount := count } n) :=
  ⟨rfl, rfl, ⟨n + 1, rfl⟩, rfl⟩

theorem robust_provision (hP : Set.InjOn poolKey P) (hapart : NamesApart connect P) (hp : p ∈ P)
    (count : Int) (h : Keeps P p s₀ w.vnodes) :
    Robust (handle env) (fun _ => True) (provision { p with nodeCount := count })
      (fun r w' => Keeps P p s₀ w'.vnodes ∧ (r.2 = none → NodeOf p r.1)) w := by
  have hnode := nodeOf_newNode p count
  have huses : Prog.Uses (CallOf p) (provision { p with nodeCount := count }) :=
    uses_provision trivial hnode (fun _ => trivial)
      (fun n _ => ⟨rfl, rfl, (hnode n).name, rfl⟩) (fun n => ⟨rfl, rfl, (hnode n).name, rfl⟩)
  exact Robust.and (Robust.of_uses (I := fun w : Cluster => Keeps P p s₀ w.vnodes) huses
    (fun c w hc h => h.call hP hapart hp hc) h)
    (Robust.of_returns (returns_provision fun n => ⟨rfl, rfl, (hnode n).name, rfl⟩))

theorem robust_deprovision (hP : Set.InjOn poolKey P) (hapart : NamesApart connect P) (hp : p ∈ P)
    {node : VNode} (hnode : NodeOf p node) (h : Keeps P p s₀ w.vnodes) :
    Robust (handle env) (fun _ => True) (deprovision node)
      (fun _ w' => Keeps P p s₀ w'.vnodes) w := by
  obtain ⟨i, hi⟩ := hnode.name
  have huses : Prog.Uses (CallOf p) (deprovision node) :=
    uses_deprovision ⟨hnode.ns, hnode.poolName, hnode.name, hnode.tenantRef⟩ trivial
      ⟨i, by rw [hnode.ns, hi]⟩
  exact Robust.of_uses (I := fun w : Cluster => Keeps P p s₀ w.vnodes) huses
    (fun c w hc h => h.call hP hapart hp hc) h

structure Working (P : Set VNodePool) (p : VNodePool) (count : Int) (s₀ : Store VNodeCR.key)
    (sc : Scaling) (w : Cluster) : Prop where
  keeps : Keeps P p s₀ w.vnodes
  pool : sc.pool = { { p with nodeCount := count } with nodes := sc.pool.nodes }
  nodes : ∀ node ∈ sc.working, NodeOf p node

variable {count : Int} {sc : Scaling}

theorem robust_scaleUpStep (hP : Set.InjOn poolKey P) (hapart : NamesApart connect P) (hp : p ∈ P)
    (i : Nat) (h : Working P p count s₀ sc w) :
    Robust (handle env) (fun _ => True) (scaleUpStep i sc)
      (fun r w' => r.elim (Working P p count s₀ · w') fun _ => Keeps P p s₀ w'.vnodes) w := by
  unfold scaleUpStep
  rw [provision_eq h.pool]
  apply Robust.bind
  apply Robust.mono (robust_provision hP hapart hp count h.keeps)
  rintro ⟨node, err⟩ w' ⟨hkeeps, hnode⟩
  cases err with
  | some err => exact Robust.pure hkeeps
  | none =>
      refine Robust.pure ⟨hkeeps, ?_, ?_⟩
      · change ({ sc.pool with nodes := sc.pool.nodes ++ [node.name] } : VNodePool) = _
        rw [h.pool]
      · intro node' hmem
        rcases List.mem_append.mp hmem with hmem | hmem
        · exact h.nodes node' hmem
        · rw [List.mem_singleton.mp hmem]
          exact hnode rfl

theorem robust_scaleDownStep (hP : Set.InjOn poolKey P) (hapart : NamesApart connect P)
    (hp : p ∈ P) (i : Nat) (h : Working P p count s₀ sc w) :
    Robust (handle env) (fun _ => True) (scaleDownStep i sc)
      (fun r w' => r.elim (Working P p count s₀ · w') fun _ => Keeps P p s₀ w'.vnodes) w := by
  unfold scaleDownStep
  split
  · exact Robust.pure h
  · next node hlast =>
      apply Robust.bind
      apply Robust.mono (robust_deprovision hP hapart hp
        (h.nodes node (List.mem_of_getLast? hlast)) h.keeps)
      intro removed w' hkeeps
      cases removed with
      | error err => exact Robust.pure hkeeps
      | ok u =>
          exact Robust.pure ⟨hkeeps, h.pool,
            fun node' hmem => h.nodes node' (List.dropLast_subset _ hmem)⟩

theorem robust_reconcile (hP : Set.InjOn poolKey P) (hapart : NamesApart connect P) (hp : p ∈ P)
    (count : Int) (hall : AllOwned P w.vnodes) :
    Robust (handle env) (fun _ => True) (PoolService.reconcile { p with nodeCount := count })
      (fun _ w' => Keeps P p w.vnodes w'.vnodes) w := by
  have hstart : Keeps P p w.vnodes w.vnodes := ⟨hall, fun _ _ _ _ _ _ => Iff.rfl⟩
  have hlisted : ∀ node ∈ (env.order (w.poolVNodes p.ns p.name)).map NodeRepository.crToNode,
      NodeOf p node := by
    intro node hmem
    obtain ⟨cr, hcr, rfl⟩ := List.mem_map.mp hmem
    obtain ⟨hmem, hpool⟩ := List.mem_filter.mp ((env.order_perm _).mem_iff.mp hcr)
    exact (Owned.of_inPool hP hp hall hmem hpool).nodeOf
  apply Robust.bind
  refine Robust.read_of_eq (handle_listByPool env w p.ns p.name) trivial ?_
    (fun err => Robust.pure hstart)
  apply Robust.bind
  refine Robust.mono (Robust.loop (fun _ sc w' => Working P p count w.vnodes sc w')
    (fun _ w' => Keeps P p w.vnodes w'.vnodes)
    (fun i _ sc w' h => robust_scaleUpStep hP hapart hp i h) _ _ w ⟨hstart, rfl, hlisted⟩) ?_
  intro up w₁ hup
  cases up with
  | exit outcome => exact Robust.pure hup
  | next sc₁ =>
      apply Robust.bind
      refine Robust.mono (Robust.loop (fun _ sc w' => Working P p count w.vnodes sc w')
        (fun _ w' => Keeps P p w.vnodes w'.vnodes)
        (fun i _ sc w' h => robust_scaleDownStep hP hapart hp i h) _ _ w₁ hup) ?_
      intro down w₂ hdown
      cases down with
      | exit outcome => exact Robust.pure hdown
      | next sc₂ => exact Robust.pure hdown.keeps

theorem Reached.allOwned (hP : Set.InjOn poolKey P) (hapart : NamesApart connect P)
    (hw : Reached connect P w) : AllOwned P w.vnodes := by
  induction hw with
  | start hempty =>
      rw [hempty]
      exact fun cr hcr => absurd hcr List.not_mem_nil
  | reconcile _ henv plan hp n ih =>
      exact ((robust_reconcile hP hapart hp n ih) plan).2.owned

end

/-! ## A first node -/

section

variable {connect : TenantRef → Except Err Clientset} {P : Set VNodePool} {p q : VNodePool}
  {env : Env} {w : Cluster}

theorem reconciledWith_one (env : Env) (hsize : poolSize w p = 0) :
    reconciledWith env (fun _ => none) { p with nodeCount := 1 } w =
      provisionStep env { p with nodeCount := 1 } w := by
  let pool : VNodePool := { p with nodeCount := 1 }
  have hsize' : poolSize w pool = 0 := hsize
  have hadd : toAdd pool w = 1 := by
    rw [toAdd, hsize']
    rfl
  have hremove : toRemove pool w = 0 := by
    rw [toRemove, hsize']
    rfl
  rw [reconciledWith, run_withFaults_none, run_reconcile, hadd, hremove, provisionStep]
  unfold scale
  simp only [List.range_one, List.range_zero, Prog.loop_cons, Prog.loop_nil, Prog.run_bind,
    scaleUpStep, listed]
  generalize (provision pool).run (handle env) w = result
  obtain ⟨⟨node, err⟩, w'⟩ := result
  cases err <;> rfl

structure FirstNode (p : VNodePool) (env : Env) (w w' : Cluster) (cr : VNodeCR) : Prop where
  vnodes : w'.vnodes = w.vnodes.put cr
  key : cr.key = ⟨p.ns, nodeName p 1⟩
  owned : w.vnodes.get ⟨p.ns, nodeName p 1⟩ = none → Owned p cr
  changed : w.vnodes.get ⟨p.ns, nodeName p 1⟩ ≠ some cr
  node : ∀ cs, env.connect p.tenantRef = .ok cs → NodeIs cs (nodeName p 1) (fun _ => True) w'

theorem FirstNode.get {env : Env} {cr : VNodeCR} (h : FirstNode p env w w' cr) :
    w'.vnodes.get ⟨p.ns, nodeName p 1⟩ = some cr := by
  rw [h.vnodes, ← h.key]
  exact Store.get_put_self _ _

theorem FirstNode.name {env : Env} {cr : VNodeCR} (h : FirstNode p env w w' cr) :
    cr.name = nodeName p 1 :=
  congrArg ObjKey.name h.key

theorem exists_firstNode (env : Env) (hsize : poolSize w p = 0) :
    ∃ cr, FirstNode p env w
      (reconciledWith env (fun _ => none) { p with nodeCount := 1 } w) cr := by
  rw [reconciledWith_one env hsize]
  let pool : VNodePool := { p with nodeCount := 1 }
  have hsize' : poolSize w pool = 0 := hsize
  obtain ⟨phase, conditions, hvnodes, htenants⟩ := provisionStep_eq env pool w
  rw [hsize'] at hvnodes htenants
  have hnode : NodeOf p (newNode pool 0) := nodeOf_newNode p 1 0
  let cr : VNodeCR := NodeRepository.savedOver (NodeRepository.saved w (newNode pool 0))
    { newNode pool 0 with phase := phase, conditions := conditions }
  refine ⟨cr, hvnodes, NodeRepository.saved_key w (newNode pool 0), ?_, ?_, ?_⟩
  · intro hfree
    have hsaved : Owned p (NodeRepository.saved w (newNode pool 0)) := by
      apply Owned.saved hnode
      intro old hget
      rw [show w.vnodes.get (NodeRepository.keyOf (newNode pool 0)) = none from hfree] at hget
      cases hget
    exact ⟨hsaved.labelled, hsaved.poolRef, hsaved.name, NodeRepository.tenantOf_annotateTenant _ _⟩
  · intro hget
    have hfinal : cr.resourceVersion =
        (NodeRepository.saved w (newNode pool 0)).resourceVersion + 2 := rfl
    have hsaved : (NodeRepository.saved w (newNode pool 0)).resourceVersion =
        cr.resourceVersion + 2 := by
      rw [NodeRepository.saved,
        show w.vnodes.get (NodeRepository.keyOf (newNode pool 0)) = some cr from hget]
      rfl
    omega
  · intro cs hcs
    have hregistered := nodeIs_register hcs (newNode pool 0)
      (w.putVNode (NodeRepository.saved w (newNode pool 0)))
    unfold NodeIs
    rw [htenants]
    exact hregistered

/-- Two pools that are displayed alike, reconciled one after the other. -/
theorem NonInterfering.namesApart (hP : Set.InjOn poolKey P) (h : NonInterfering connect P) :
    NamesApart connect P := by
  intro p hp q hq hne hdisplayed
  let env : Env := { Env.plain with connect := connect }
  have henv : env.connect = connect := rfl
  let w₀ : Cluster := { tenants := fun _ => {} }
  obtain ⟨cr, hfirst⟩ := exists_firstNode (p := q) (w := w₀) env rfl
  let w₁ := reconciledWith env (fun _ => none) { q with nodeCount := 1 } w₀
  have hreached : Reached connect P w₁ := .reconcile (.start rfl) henv _ hq 1
  have howned : Owned q cr := hfirst.owned rfl
  have hget : w₁.vnodes.get ⟨q.ns, nodeName q 1⟩ = some cr := hfirst.get
  have hsize : poolSize w₁ p = 0 := by
    have hnot : inPool p cr = false := by
      by_contra hin
      exact hne (eq_of_inPool hP hp hq (by simpa using hin) howned.labelled)
    rw [poolSize, hfirst.vnodes, Store.put_of_none rfl, List.countP_append,
      List.countP_singleton, hnot]
    rfl
  obtain ⟨cr', hsecond⟩ := exists_firstNode env hsize
  let w₂ := reconciledWith env (fun _ => none) { p with nodeCount := 1 } w₁
  have hreached' : Reached connect P w₂ := .reconcile hreached henv _ hp 1
  have hname : nodeName p 1 = nodeName q 1 := nodeName_eq_iff.mpr ⟨hdisplayed, rfl⟩
  have hget' : w₂.vnodes.get ⟨p.ns, nodeName p 1⟩ = some cr' := hsecond.get
  have hkept : w₂.vnodes.get ⟨q.ns, nodeName q 1⟩ = some cr :=
    (h.vnodes w₁ hreached env henv _ p hp 1 q hq (Ne.symm hne) _ cr howned.labelled).mpr hget
  have hns : p.ns ≠ q.ns := by
    intro hns
    rw [hns, hname, hkept] at hget'
    apply hsecond.changed
    rw [hns, hname, hget]
    exact hget'
  refine ⟨hns, ?_⟩
  intro cs hcs hcs'
  have hfree : w₁.vnodes.get ⟨p.ns, nodeName p 1⟩ = none := by
    rw [hfirst.vnodes, Store.get_put_ne]
    · rfl
    · rw [hfirst.key]
      intro hkey
      exact hns (congrArg ObjKey.ns hkey).symm
  have howned' : Owned p cr' := hsecond.owned hfree
  have hnode : NodeIs cs (nodeName p 1) (fun _ => True) w₂ := hsecond.node cs hcs
  refine h.names w₂ hreached' p hp q hq hne cr' (Store.mem_of_get hget') cr
    (Store.mem_of_get hkept) howned'.labelled howned.labelled cs ⟨?_, ?_⟩ ⟨?_, ?_⟩ ?_
  · rw [howned'.tenantRef, hcs]
  · rw [hsecond.name]
    exact hnode
  · rw [howned.tenantRef, hcs']
  · rw [hfirst.name, ← hname]
    exact hnode
  · rw [hfirst.name, hsecond.name, hname]

end

/-! ## All orders of reconciles -/

/-- Reconciled in every order, with every sequence of requested sizes and whatever
calls fail, the pools of a set do not interfere exactly when those displayed alike
share neither a namespace nor a tenant cluster. -/
theorem nonInterfering_iff_namesApart (connect : TenantRef → Except Err Clientset)
    (P : Set VNodePool) (hP : Set.InjOn poolKey P) :
    NonInterfering connect P ↔ NamesApart connect P := by
  constructor
  · exact NonInterfering.namesApart hP
  · intro hapart
    refine ⟨?_, ?_⟩
    · intro w hw env _ plan p hp n q hq hne
      have hreconcile : Robust (handle env) _ _ _ w :=
        robust_reconcile hP hapart hp n (hw.allOwned hP hapart)
      exact (hreconcile plan).2.untouched q hq hne
    · intro w hw p hp q hq hne cr hcr cr' hcr' hin hin' cs hregistered hregistered' hname
      have hall := hw.allOwned hP hapart
      have howned : Owned p cr := Owned.of_inPool hP hp hall hcr hin
      have howned' : Owned q cr' := Owned.of_inPool hP hq hall hcr' hin'
      obtain ⟨i, hi⟩ := howned.name
      obtain ⟨j, hj⟩ := howned'.name
      have hdisplayed : displayed p = displayed q :=
        (nodeName_eq_iff.mp (hi.symm.trans (hname.trans hj))).1
      have hcs := hregistered.1
      have hcs' := hregistered'.1
      rw [howned.tenantRef] at hcs
      rw [howned'.tenantRef] at hcs'
      exact (hapart p hp q hq hne hdisplayed).2 cs hcs hcs'

/-! ### Pools with names of their own, and pools that share one -/

def dbPool : VNodePool := { acmePool 1 with name := "db" }

theorem web_db_nonInterfering :
    NonInterfering Env.plain.connect {acmePool 1, dbPool} := by
  refine (nonInterfering_iff_namesApart _ _ ?_).mpr ?_
  · exact Set.injOn_pair.mpr fun hkey => absurd hkey (by decide)
  · rintro p (rfl | rfl) q (rfl | rfl) hne hdisplayed
    · exact absurd rfl hne
    · exact absurd hdisplayed (by decide)
    · exact absurd hdisplayed (by decide)
    · exact absurd rfl hne

def bluePool : VNodePool := { acmePool 1 with name := "blue", displayName := "web" }

def greenPool : VNodePool :=
  { acmePool 1 with
    name := "green"
    displayName := "web"
    tenantRef :=
      { vclusterName := "zeta", vclusterNamespace := "zeta", kubeconfigSecret := "zeta" } }

def blueCluster : Cluster :=
  reconciledWith Env.plain (fun _ => none) { bluePool with nodeCount := 1 }
    { tenants := fun _ => {} }

/-- Reconciling the second pool rewrites the only virtual node of the first one
for its own tenant, and creates none. -/
theorem greenPool_rewrites_blue :
    Reached Env.plain.connect {bluePool, greenPool} blueCluster ∧
      (blueCluster.vnodes.items.map fun cr =>
          (cr.name, inPool bluePool cr, NodeRepository.tenantOf cr.annotations)) =
        [("vnode-web-1", true, bluePool.tenantRef)] ∧
      ((reconciledWith Env.plain (fun _ => none) { greenPool with nodeCount := 1 }
          blueCluster).vnodes.items.map fun cr =>
          (cr.name, inPool bluePool cr, NodeRepository.tenantOf cr.annotations)) =
        [("vnode-web-1", true, greenPool.tenantRef)] ∧
      ¬ NonInterfering Env.plain.connect {bluePool, greenPool} := by
  refine ⟨.reconcile (.start rfl) rfl _ (Or.inl rfl) 1, by decide +kernel, by decide +kernel, ?_⟩
  intro h
  have hP : Set.InjOn poolKey {bluePool, greenPool} :=
    Set.injOn_pair.mpr fun hkey => absurd hkey (by decide)
  have hne : bluePool ≠ greenPool := fun heq => absurd (congrArg VNodePool.name heq) (by decide)
  exact (h.namesApart hP bluePool (Or.inl rfl) greenPool (Or.inr rfl) hne rfl).1 rfl

end VNodeOperator.Pools
