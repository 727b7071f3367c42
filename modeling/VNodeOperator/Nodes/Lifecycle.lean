import Mathlib.Logic.Function.Iterate
import VNodeOperator.Service.NodeService

/-!
# What provisioning and removal store

The effect of `Provision` and `Deprovision` on the stored virtual nodes when no
call is lost.  Both may fail to reach the tenant; only a provisioning that does
is reported as an error.
-/

namespace VNodeOperator.Nodes

open Model Kube Adapter Ports ProofSupport Service NodeService

def inPool (pool : VNodePool) (cr : VNodeCR) : Bool :=
  cr.ns = pool.ns ∧ cr.labels.lookup labelVNodePool = some pool.name

def poolSize (w : Cluster) (pool : VNodePool) : Nat := w.vnodes.items.countP (inPool pool)

theorem length_poolVNodes (w : Cluster) (pool : VNodePool) :
    (w.poolVNodes pool.ns pool.name).length = poolSize w pool := by
  rw [poolSize, List.countP_eq_length_filter]
  rfl

theorem length_listed (env : Env) (w : Cluster) (pool : VNodePool) :
    ((env.order (w.poolVNodes pool.ns pool.name)).map NodeRepository.crToNode).length =
      poolSize w pool := by
  rw [List.length_map, (env.order_perm _).length_eq, length_poolVNodes]

/-! ## Names -/

/-- What the names of a pool's nodes are made from. -/
def displayed (pool : VNodePool) : String :=
  if pool.displayName = "" then pool.name else pool.displayName

theorem dash_notMem_toString (i : Nat) : '-' ∉ (toString i).toList := by
  rw [Nat.toString_eq_ofList_toDigits, String.toList_ofList]
  intro hmem
  have hdigit := Nat.isDigit_of_mem_toDigits (by decide) (by decide) hmem
  exact absurd hdigit (by decide)

/-- A list is cut at its last dash in one way only. -/
theorem append_dash_inj {l₁ l₂ d₁ d₂ : List Char} (h₁ : '-' ∉ d₁) (h₂ : '-' ∉ d₂)
    (h : l₁ ++ '-' :: d₁ = l₂ ++ '-' :: d₂) : l₁ = l₂ ∧ d₁ = d₂ := by
  rcases List.append_eq_append_iff.mp h with ⟨as, hl, hd⟩ | ⟨as, hl, hd⟩
  · cases as with
    | nil => simp_all
    | cons c as =>
        rw [List.cons_append, List.cons.injEq] at hd
        rw [hd.2] at h₁
        simp at h₁
  · cases as with
    | nil => simp_all
    | cons c as =>
        rw [List.cons_append, List.cons.injEq] at hd
        rw [hd.2] at h₂
        simp at h₂

/-- Two nodes have one name only if their pools are displayed alike: the index is
what follows the last dash. -/
theorem nodeName_eq_iff {p q : VNodePool} {i j : Nat} :
    nodeName p i = nodeName q j ↔ displayed p = displayed q ∧ i = j := by
  have hname : ∀ (pool : VNodePool) (n : Nat), (nodeName pool n).toList =
      ("vnode-" ++ displayed pool).toList ++ '-' :: (toString n).toList := by
    intro pool n
    change ("vnode-" ++ displayed pool ++ "-" ++ toString n).toList = _
    simp
  constructor
  · intro h
    have hlist := congrArg String.toList h
    rw [hname, hname] at hlist
    obtain ⟨hfirst, hlast⟩ :=
      append_dash_inj (dash_notMem_toString i) (dash_notMem_toString j) hlist
    rw [Nat.toString_eq_ofList_toDigits, Nat.toString_eq_ofList_toDigits,
      String.toList_ofList, String.toList_ofList] at hlast
    refine ⟨(String.append_right_inj _).mp (String.toList_injective hfirst), ?_⟩
    calc
      i = Nat.ofDigitChars 10 (Nat.toDigits 10 i) 0 := Nat.ofDigitChars_ten_toDigits.symm
      _ = j := by rw [hlast, Nat.ofDigitChars_ten_toDigits]
  · rintro ⟨hdisplayed, rfl⟩
    apply String.toList_injective
    rw [hname, hname, hdisplayed]

theorem nodeName_inj {pool : VNodePool} {i j : Nat} (h : nodeName pool i = nodeName pool j) :
    i = j :=
  (nodeName_eq_iff.mp h).2

def nextKey (pool : VNodePool) (w : Cluster) : ObjKey :=
  ⟨pool.ns, nodeName pool (poolSize w pool + 1)⟩

/-! ## The node ports, whatever they report -/

/-- A repository call that reports success has done its work, one that reports
an error may have done anything, and the registrar leaves the stored nodes
alone. -/
structure NodeOutcomes {σ : Type} (h : Handler Call Call.Reply σ) (view : σ → Cluster) :
    Prop where
  list : ∀ {ns poolName s l}, (h (.listByPool ns poolName) s).1 = .ok l →
    (∃ crs : List VNodeCR, crs.Perm ((view s).poolVNodes ns poolName) ∧
      l = crs.map NodeRepository.crToNode) ∧ view (h (.listByPool ns poolName) s).2 = view s
  save : ∀ {node s}, (h (.save node) s).1 = .ok () →
    (view (h (.save node) s).2).vnodes =
      (view s).vnodes.put (NodeRepository.saved (view s) node)
  delete : ∀ {k s}, (h (.delete k) s).1 = .ok () →
    (view (h (.delete k) s).2).vnodes = (view s).vnodes.erase k
  registrar : ∀ {c : Call} {s}, c.isRegistrar → (view (h c s).2).vnodes = (view s).vnodes

theorem nodeOutcomes_handle (env : Env) : NodeOutcomes (handle env) id where
  list := by
    intro ns poolName s l hl
    rw [handle_listByPool] at hl ⊢
    cases hl
    exact ⟨⟨_, env.order_perm _, rfl⟩, rfl⟩
  save := by
    intro node s _
    rw [handle_save]
    rfl
  delete := by
    intro k s hok
    cases hget : s.vnodes.get k with
    | none =>
        simp only [handle, NodeRepository.run_delete, hget] at hok
        cases hok
    | some cr =>
        rw [handle_delete env s hget]
        rfl
  registrar := by
    intro c s hc
    simp only [id]
    rw [handle_registrar env s hc]

/-! ## Provisioning -/

def provisionedCR (pool : VNodePool) (w : Cluster) : VNodeCR :=
  NodeRepository.savedOver
    (NodeRepository.saved w (newNode pool (poolSize w pool)))
    (asReady (newNode pool (poolSize w pool)))

def provisionStep (env : Env) (pool : VNodePool) (w : Cluster) : Cluster :=
  ((provision pool).run (handle env) w).2

theorem keyOf_newNode (pool : VNodePool) (w : Cluster) :
    NodeRepository.keyOf (newNode pool (poolSize w pool)) = nextKey pool w := rfl

theorem provisionedCR_key (pool : VNodePool) (w : Cluster) :
    (provisionedCR pool w).key = nextKey pool w :=
  NodeRepository.saved_key w (newNode pool (poolSize w pool))

theorem inPool_provisionedCR_of_none {pool : VNodePool} {w : Cluster}
    (h : w.vnodes.get (nextKey pool w) = none) : inPool pool (provisionedCR pool w) = true := by
  have hsaved : NodeRepository.saved w (newNode pool (poolSize w pool)) =
      NodeRepository.savedNew w.clock (newNode pool (poolSize w pool)) := by
    simp only [NodeRepository.saved, keyOf_newNode, h]
  have hns : (provisionedCR pool w).ns = pool.ns := congrArg ObjKey.ns (provisionedCR_key pool w)
  have hlabels : (provisionedCR pool w).labels = AList.insert labelVNodePool pool.name ∅ := by
    rw [provisionedCR, hsaved]
    rfl
  rw [inPool, hns, hlabels, AList.lookup_insert]
  simp

theorem inPool_provisionedCR_of_some {pool : VNodePool} {w : Cluster} {old : VNodeCR}
    (h : w.vnodes.get (nextKey pool w) = some old) :
    inPool pool (provisionedCR pool w) = inPool pool old := by
  have hsaved : NodeRepository.saved w (newNode pool (poolSize w pool)) =
      NodeRepository.savedOver old (newNode pool (poolSize w pool)) := by
    simp only [NodeRepository.saved, keyOf_newNode, h]
  rw [provisionedCR, hsaved]
  rfl

theorem NodeOutcomes.provisionNode {σ : Type} {h : Handler Call Call.Reply σ}
    {view : σ → Cluster} (hh : NodeOutcomes h view) {tenant : TenantRef} {node : VNode} {s : σ}
    (hok : ((NodeService.provisionNode tenant node).run h s).1.2 = none) :
    ((NodeService.provisionNode tenant node).run h s).1.1 = asReady node ∧
      (view ((NodeService.provisionNode tenant node).run h s).2).vnodes =
        (view s).vnodes.put
          (NodeRepository.savedOver (NodeRepository.saved (view s) node) (asReady node)) := by
  unfold NodeService.provisionNode at hok ⊢
  rw [Prog.run_bind, ask, Prog.run_perform] at hok ⊢
  cases hsave : (h (.save node) s).1 with
  | error err =>
      rw [hsave] at hok
      cases hok
  | ok u =>
      rw [hsave] at hok
      have hsaved := hh.save hsave
      let s₁ := (h (.save node) s).2
      have hregister := hh.registrar (c := .register node tenant) (s := s₁) rfl
      dsimp only at hok ⊢
      rw [Prog.run_bind, ask, Prog.run_perform] at hok ⊢
      cases hreply : (h (.register node tenant) s₁).1 with
      | error err =>
          rw [hreply] at hok
          cases hok
      | ok u =>
          let s₂ := (h (.register node tenant) s₁).2
          have hvnodes : (view s₂).vnodes =
              (view s).vnodes.put (NodeRepository.saved (view s) node) :=
            hregister.trans hsaved
          rw [hreply] at hok
          dsimp only at hok ⊢
          rw [Prog.run_bind, ask, Prog.run_perform] at hok ⊢
          cases hready : (h (.save (asReady node)) s₂).1 with
          | error err =>
              rw [hready] at hok
              cases hok
          | ok u =>
              have hget : (view s₂).vnodes.get (NodeRepository.keyOf (asReady node)) =
                  some (NodeRepository.saved (view s) node) := by
                have hkey : NodeRepository.keyOf (asReady node) =
                    (NodeRepository.saved (view s) node).key :=
                  (NodeRepository.saved_key (view s) node).symm
                rw [hvnodes, hkey]
                exact Store.get_put_self _ _
              refine ⟨rfl, ?_⟩
              have hput := hh.save hready
              rw [NodeRepository.saved, hget, hvnodes] at hput
              exact hput.trans (Store.put_put _ rfl)

theorem NodeOutcomes.provision {σ : Type} {h : Handler Call Call.Reply σ} {view : σ → Cluster}
    (hh : NodeOutcomes h view) (pool : VNodePool) (s : σ)
    (hok : ((NodeService.provision pool).run h s).1.2 = none) :
    ((NodeService.provision pool).run h s).1.1 =
        asReady (newNode pool (poolSize (view s) pool)) ∧
      (view ((NodeService.provision pool).run h s).2).vnodes =
        (view s).vnodes.put (provisionedCR pool (view s)) := by
  unfold NodeService.provision at hok ⊢
  rw [Prog.run_bind, ask, Prog.run_perform] at hok ⊢
  cases hlist : (h (.listByPool pool.ns pool.name) s).1 with
  | error err =>
      rw [hlist] at hok
      cases hok
  | ok listed =>
      obtain ⟨⟨crs, hperm, rfl⟩, hview⟩ := hh.list hlist
      have hlength : (crs.map NodeRepository.crToNode).length = poolSize (view s) pool := by
        rw [List.length_map, hperm.length_eq, length_poolVNodes]
      rw [hlist] at hok
      simp only [hlength] at hok ⊢
      rw [← hview] at hok ⊢
      exact hh.provisionNode hok

/-- A provisioning saves its node, asks for its registration and saves it again
with what came of it. -/
theorem provisionStep_eq (env : Env) (pool : VNodePool) (w : Cluster) :
    ∃ phase conditions,
      let node := newNode pool (poolSize w pool)
      let w₁ := w.putVNode (NodeRepository.saved w node)
      let final : VNode := { node with phase := phase, conditions := conditions }
      (provisionStep env pool w).vnodes =
          w.vnodes.put (NodeRepository.savedOver (NodeRepository.saved w node) final) ∧
        (provisionStep env pool w).tenants =
          (handle env (.register node pool.tenantRef) w₁).2.tenants := by
  let node := newNode pool (poolSize w pool)
  let w₁ := w.putVNode (NodeRepository.saved w node)
  let w₂ := (handle env (.register node pool.tenantRef) w₁).2
  have hrun : provisionStep env pool w =
      ((provisionNode pool.tenantRef node).run (handle env) w).2 := by
    unfold provisionStep provision
    rw [Prog.run_bind, ask, Prog.run_perform, handle_listByPool]
    simp only [length_listed]
    rfl
  have hsaved : ∃ phase conditions, provisionStep env pool w = w₂.putVNode
      (NodeRepository.saved w₂ { node with phase := phase, conditions := conditions }) := by
    rw [hrun]
    unfold provisionNode
    simp only [ask, Prog.run_bind, Prog.run_perform, handle_save]
    cases (handle env (.register node pool.tenantRef) w₁).1 with
    | error err =>
        refine ⟨.notReady, registrationFailedConditions err, ?_⟩
        simp only [Prog.run_bind, Prog.run_perform, handle_save]
        rfl
    | ok u =>
        refine ⟨.ready, readyNodeConditions, ?_⟩
        simp only [Prog.run_bind, Prog.run_perform, handle_save]
        rfl
  obtain ⟨phase, conditions, hstep⟩ := hsaved
  have hvnodes : w₂.vnodes = w.vnodes.put (NodeRepository.saved w node) := by
    change (handle env (.register node pool.tenantRef) w₁).2.vnodes = w₁.vnodes
    rw [handle_registrar env w₁ rfl]
  have hget : w₂.vnodes.get (NodeRepository.keyOf node) = some (NodeRepository.saved w node) := by
    rw [hvnodes, ← NodeRepository.saved_key w node]
    exact Store.get_put_self _ _
  refine ⟨phase, conditions, ?_, by rw [hstep]; rfl⟩
  have hover : NodeRepository.saved w₂ { node with phase := phase, conditions := conditions } =
      NodeRepository.savedOver (NodeRepository.saved w node)
        { node with phase := phase, conditions := conditions } := by
    unfold NodeRepository.saved
    rw [show w₂.vnodes.get (NodeRepository.keyOf
      { node with phase := phase, conditions := conditions }) = _ from hget]
    rfl
  rw [hstep, hover, Cluster.putVNode, hvnodes]
  exact Store.put_put _ rfl

theorem provision_vnodes {env : Env} {pool : VNodePool} {w : Cluster}
    (hok : ((provision pool).run (handle env) w).1.2 = none) :
    (provisionStep env pool w).vnodes = w.vnodes.put (provisionedCR pool w) := by
  exact ((nodeOutcomes_handle env).provision pool w hok).2

theorem provision_fresh {env : Env} {pool : VNodePool} {w : Cluster}
    (hok : ((provision pool).run (handle env) w).1.2 = none)
    (hfree : w.vnodes.get (nextKey pool w) = none) :
    (provisionStep env pool w).vnodes.items = w.vnodes.items ++ [provisionedCR pool w] ∧
      poolSize (provisionStep env pool w) pool = poolSize w pool + 1 := by
  rw [← provisionedCR_key] at hfree
  have hvnodes := provision_vnodes hok
  refine ⟨?_, ?_⟩
  · rw [hvnodes, Store.put_of_none hfree]
  · rw [poolSize, hvnodes, Store.countP_put_of_none _ hfree, ← poolSize]
    rw [provisionedCR_key] at hfree
    rw [if_pos (inPool_provisionedCR_of_none hfree)]

theorem provision_taken {env : Env} {pool : VNodePool} {w : Cluster} {old : VNodeCR}
    (hok : ((provision pool).run (handle env) w).1.2 = none)
    (htaken : w.vnodes.get (nextKey pool w) = some old) :
    (provisionStep env pool w).vnodes.items.length = w.vnodes.items.length ∧
      poolSize (provisionStep env pool w) pool = poolSize w pool := by
  have hsame := inPool_provisionedCR_of_some htaken
  rw [← provisionedCR_key] at htaken
  have hvnodes := provision_vnodes hok
  refine ⟨?_, ?_⟩
  · rw [hvnodes, Store.put_of_some htaken, Store.replace, List.length_map]
  · rw [poolSize, hvnodes, Store.countP_put_of_some _ htaken hsame, ← poolSize]

/-! ## Removal -/

theorem NodeOutcomes.deprovision {σ : Type} {h : Handler Call Call.Reply σ}
    {view : σ → Cluster} (hh : NodeOutcomes h view) (node : VNode) (s : σ)
    (hok : ((NodeService.deprovision node).run h s).1 = .ok ()) :
    (view ((NodeService.deprovision node).run h s).2).vnodes =
      (view s).vnodes.erase (NodeRepository.keyOf node) := by
  unfold NodeService.deprovision at hok ⊢
  rw [Prog.run_bind, ask, Prog.run_perform] at hok ⊢
  cases hsave : (h (.save (asTerminating node)) s).1 with
  | error err =>
      rw [hsave] at hok
      cases hok
  | ok u =>
      rw [hsave] at hok
      have hsaved := hh.save hsave
      let s₁ := (h (.save (asTerminating node)) s).2
      let s₂ := (h (.deregister (asTerminating node) (asTerminating node).tenantRef) s₁).2
      have hvnodes : (view s₂).vnodes =
          (view s).vnodes.put (NodeRepository.saved (view s) (asTerminating node)) :=
        (hh.registrar rfl).trans hsaved
      dsimp only at hok ⊢
      simp only [Prog.run_bind, ask, Prog.run_perform] at hok ⊢
      cases hdelete : (h (.delete ⟨(asTerminating node).ns, (asTerminating node).name⟩) s₂).1 with
      | error err =>
          rw [hdelete] at hok
          cases hok
      | ok u =>
          have hkey : NodeRepository.keyOf node =
              (NodeRepository.saved (view s) (asTerminating node)).key :=
            (NodeRepository.saved_key (view s) (asTerminating node)).symm
          calc
            _ = (view s₂).vnodes.erase (NodeRepository.keyOf node) := hh.delete hdelete
            _ = (view s).vnodes.erase (NodeRepository.keyOf node) := by
              rw [hvnodes, hkey, Store.erase_put]

/-- Removing a node succeeds, whatever the registrar says, and takes exactly its
resource away. -/
theorem run_deprovision (env : Env) (node : VNode) (w : Cluster) :
    ((deprovision node).run (handle env) w).1 = .ok () ∧
      ((deprovision node).run (handle env) w).2.vnodes =
        w.vnodes.erase (NodeRepository.keyOf node) := by
  let node' := asTerminating node
  let w₁ := w.putVNode (NodeRepository.saved w node')
  let w₂ := (handle env (.deregister node' node'.tenantRef) w₁).2
  have hsave : handle env (.save node') w = (.ok (), w₁) := handle_save env w node'
  have hvnodes : w₂.vnodes = w₁.vnodes := by
    change (handle env (.deregister node' node'.tenantRef) w₁).2.vnodes = w₁.vnodes
    rw [handle_registrar env w₁ rfl]
  have hget : w₂.vnodes.get (NodeRepository.keyOf node) =
      some (NodeRepository.saved w node') := by
    have hkey : NodeRepository.keyOf node = (NodeRepository.saved w node').key :=
      (NodeRepository.saved_key w node').symm
    rw [hvnodes, hkey]
    exact Store.get_put_self w.vnodes _
  have hdelete : handle env (.delete ⟨node'.ns, node'.name⟩) w₂ =
      (.ok (), { w₂ with vnodes := w₂.vnodes.erase (NodeRepository.keyOf node) }) :=
    handle_delete env w₂ hget
  have hok : ((deprovision node).run (handle env) w).1 = .ok () := by
    unfold deprovision
    simp only [ask, Prog.run_bind, Prog.run_perform]
    rw [hsave]
    simp only [Prog.run_bind, Prog.run_perform]
    rw [hdelete]
    rfl
  exact ⟨hok, (nodeOutcomes_handle env).deprovision node w hok⟩

end VNodeOperator.Nodes
