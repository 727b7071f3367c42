import VNodeOperator.Nodes.Scaling
import VNodeOperator.Pools.Conditions
import VNodeOperator.Pools.Finalization

/-!
# Tearing a pool down

What one reconcile of a pool that is being deleted leaves behind.  The tenants may
answer its deregistrations in any way: a node that cannot be deregistered is removed
all the same.  Whatever attempts came before and failed, the first one that the host
answers takes away every virtual node of the pool and the finalizer.
-/

namespace VNodeOperator.Pools

open Model Kube Adapter Ports ProofSupport Service Reconciler Nodes
open NodeService PoolService
open Reconciler.VNodePool (poolFinalizer crToPoolModel)

/-- The host cluster answers as it should, and the registrar works, or fails to, in the tenant
clusters. -/
structure HostAnswers (env : Env) (h : Handler Call Call.Reply Cluster) : Prop where
  host : ∀ c w, c.isRegistrar = false → h c w = handle env c w
  registrar : ∀ c w, c.isRegistrar = true → (h c w).2 = { w with tenants := (h c w).2.tenants }

theorem hostAnswers_handle (env : Env) : HostAnswers env (handle env) :=
  ⟨fun _ _ _ => rfl, fun _ w hc => handle_registrar env w hc⟩

section

variable {env : Env} {h : Handler Call Call.Reply Cluster}

/-! ## The virtual nodes -/

def removed (h : Handler Call Call.Reply Cluster) (w : Cluster) (node : VNode) : Cluster :=
  { w with
    vnodes := w.vnodes.erase (NodeRepository.keyOf node)
    tenants := (h (.deregister (asTerminating node) node.tenantRef)
      (w.putVNode (NodeRepository.saved w (asTerminating node)))).2.tenants }

theorem HostAnswers.run_deprovision (hh : HostAnswers env h) (node : VNode) (w : Cluster) :
    (deprovision node).run h w = (.ok (), removed h w node) := by
  let node' := asTerminating node
  let w₁ := w.putVNode (NodeRepository.saved w node')
  let w₂ := (h (.deregister node' node'.tenantRef) w₁).2
  have hsave : h (.save node') w = (.ok (), w₁) := by
    rw [hh.host _ _ rfl]
    exact handle_save env w node'
  have hw₂ : w₂ = { w₁ with tenants := w₂.tenants } := hh.registrar _ _ rfl
  have hkey : NodeRepository.keyOf node = (NodeRepository.saved w node').key :=
    (NodeRepository.saved_key w node').symm
  have hget : w₂.vnodes.get (NodeRepository.keyOf node) =
      some (NodeRepository.saved w node') := by
    rw [hw₂, hkey]
    exact Store.get_put_self w.vnodes _
  have hdelete : h (.delete ⟨node'.ns, node'.name⟩) w₂ =
      (.ok (), { w₂ with vnodes := w₂.vnodes.erase (NodeRepository.keyOf node) }) := by
    rw [hh.host _ _ rfl]
    exact handle_delete env w₂ hget
  have hremoved : { w₂ with vnodes := w₂.vnodes.erase (NodeRepository.keyOf node) } =
      removed h w node := by
    rw [hw₂, hkey]
    change { w₁ with vnodes := (w.vnodes.put _).erase _, tenants := w₂.tenants } = _
    rw [Store.erase_put, ← hkey]
    rfl
  unfold deprovision
  simp only [ask, Prog.run_bind, Prog.run_perform]
  rw [hsave]
  simp only [Prog.run_bind, Prog.run_perform]
  rw [hdelete]
  exact congrArg (Prod.mk _) hremoved

/-- Scaling down by the number of the known nodes removes each of them, the last one first. -/
theorem HostAnswers.run_scaleDown (hh : HostAnswers env h) (is : List Nat) (s : Scaling)
    (w : Cluster) (hlen : is.length = s.working.length) :
    (Prog.loop scaleDownStep is s).run h w =
      (.next { s with working := [] }, s.working.reverse.foldl (removed h) w) := by
  induction is generalizing s w with
  | nil =>
      have hnil : s.working = [] := List.eq_nil_of_length_eq_zero hlen.symm
      obtain ⟨pool, working⟩ := s
      cases hnil
      rfl
  | cons i is ih =>
      have hne : s.working ≠ [] := by
        intro hnil
        rw [hnil] at hlen
        cases hlen
      obtain ⟨init, n, hsplit⟩ : ∃ init n, s.working = init ++ [n] :=
        ⟨_, _, (List.dropLast_append_getLast hne).symm⟩
      have hstep : (scaleDownStep i s).run h w =
          (.next { s with working := init }, removed h w n) := by
        unfold scaleDownStep
        rw [hsplit, List.getLast?_concat, List.dropLast_concat]
        simp only [Prog.run_bind, hh.run_deprovision, Prog.run_pure]
      rw [hsplit, List.length_cons, List.length_append, List.length_singleton] at hlen
      rw [Prog.loop_cons, Prog.run_bind, hstep, hsplit, List.reverse_concat, List.foldl_cons]
      exact ih { s with working := init } (removed h w n) (by simpa using hlen)

theorem foldl_removed (nodes : List VNode) (w : Cluster) :
    nodes.foldl (removed h) w =
      { w with
        vnodes := (nodes.map NodeRepository.keyOf).foldl Store.erase w.vnodes
        tenants := (nodes.foldl (removed h) w).tenants } := by
  induction nodes generalizing w with
  | nil => rfl
  | cons n nodes ih =>
      rw [List.foldl_cons, ih]
      rfl

/-- The virtual node found, if it is not one of the pool's. -/
def ofOthers (pool : Model.VNodePool) (found : Option VNodeCR) : Option VNodeCR :=
  found.filter fun cr => !inPool pool cr

/-- Removing all nodes that are listed for a pool leaves those of the others. -/
theorem get_erase_listed (env : Env) (pool : Model.VNodePool) (w : Cluster) (k : ObjKey) :
    (((listed env pool w).working.reverse.map NodeRepository.keyOf).foldl
      Store.erase w.vnodes).get k = ofOthers pool (w.vnodes.get k) := by
  have hmem : k ∈ (listed env pool w).working.reverse.map NodeRepository.keyOf ↔
      ∃ cr, w.vnodes.get k = some cr ∧ inPool pool cr = true := by
    constructor
    · intro hk
      obtain ⟨n, hn, rfl⟩ := List.mem_map.mp hk
      exact (Tracks.listed env pool w).stored n (List.mem_reverse.mp hn)
    · rintro ⟨cr, hget, hpool⟩
      have hkey : cr.key = k := Store.key_of_get hget
      refine List.mem_map.mpr ⟨NodeRepository.crToNode cr, ?_, hkey⟩
      exact List.mem_reverse.mpr (List.mem_map_of_mem
        ((env.order_perm _).mem_iff.mpr (List.mem_filter.mpr ⟨Store.mem_of_get hget, hpool⟩)))
  rw [Store.get_foldl_erase]
  cases hget : w.vnodes.get k with
  | none => simp [ofOthers]
  | some cr =>
      rw [hget] at hmem
      simp only [Option.some.injEq, exists_eq_left'] at hmem
      by_cases hpool : inPool pool cr = true
      · rw [if_pos (hmem.mpr hpool)]
        simp [ofOthers, Option.filter, hpool]
      · rw [if_neg (mt hmem.mp hpool)]
        simp [ofOthers, Option.filter, hpool]

theorem HostAnswers.run_reconcile (hh : HostAnswers env h) {pool : Model.VNodePool}
    (hcount : pool.nodeCount = 0) (w : Cluster) (hsize : poolSize w pool < 2 ^ 31) :
    ∃ result, (PoolService.reconcile pool).run h w =
      ((result, none), (listed env pool w).working.reverse.foldl (removed h) w) := by
  have hcur : int32 (poolSize w pool) = poolSize w pool := int32_of_lt (by omega) (by omega)
  have hactions : toAdd pool w = 0 ∧
      (toRemove pool w : Int) = int32 (poolSize w pool) - pool.nodeCount :=
    scaleActions_of_le (by omega) (by omega)
  have hadd : toAdd pool w = 0 := hactions.1
  have hremove : toRemove pool w = (listed env pool w).working.length := by
    rw [show (listed env pool w).working.length = poolSize w pool from length_listed env w pool]
    omega
  have hrun : (PoolService.reconcile pool).run h w =
      (scale (toAdd pool w) (toRemove pool w) (listed env pool w)).run h w := by
    unfold PoolService.reconcile
    rw [Prog.run_bind, ask, Prog.run_perform, hh.host _ _ rfl, handle_listByPool]
    simp only [length_listed]
    rfl
  refine ⟨withReadiness { listed env pool w with working := [] }, ?_⟩
  rw [hrun, hadd]
  unfold scale
  rw [Prog.run_bind, List.range_zero, Prog.loop_nil, Prog.run_pure]
  dsimp only
  rw [Prog.run_bind, hh.run_scaleDown _ _ _ (by rw [List.length_range, hremove])]
  rfl

/-! ## The pool -/

structure StatusWritten (cr : VNodePoolCR) (status : VNodePoolStatus) (w w' : Cluster) :
    Prop where
  frame : w' = { w with pools := w'.pools }
  pool : ∃ version, w'.pools.get cr.key =
    some { cr with resourceVersion := version, status := status }
  others : ∀ k, k ≠ cr.key → w'.pools.get k = w.pools.get k

theorem HostAnswers.getVNodePool (hh : HostAnswers env h) {cr : VNodePoolCR} {w : Cluster}
    (hcr : w.pools.get cr.key = some cr) : h (.getVNodePool cr.key) w = (.ok cr, w) := by
  rw [hh.host _ _ rfl, handle, find_some _ _ hcr]

theorem HostAnswers.run_statusUpdate (hh : HostAnswers env h) {cr : VNodePoolCR} {w : Cluster}
    (hcr : w.pools.get cr.key = some cr)
    {mutate : Int → VNodePoolStatus → VNodePoolStatus} {p : Svc (Except Err Unit)}
    (hp : StatusUpdate cr.key mutate p) :
    ∃ w', p.run h w = (.ok (), w') ∧ StatusWritten cr (mutate w.clock cr.status) w w' := by
  obtain ⟨onRead, rfl, hread⟩ := hp
  obtain ⟨onTime, hnow, htime⟩ := hread cr
  have hclock : h .now w = (.ok w.clock, w) := hh.host _ _ rfl
  have hrun : (Prog.call (.getVNodePool cr.key) onRead : Svc (Except Err Unit)).run h w =
      (onTime (.ok w.clock)).run h w := by
    rw [Prog.run, hh.getVNodePool hcr, hnow, Prog.run, hclock]
  by_cases hsame : mutate w.clock cr.status = cr.status
  · rw [(htime _).1 hsame] at hrun
    refine ⟨w, hrun, rfl, ⟨cr.resourceVersion, ?_⟩, fun _ _ => rfl⟩
    rw [hcr, hsame]
  · obtain ⟨onPatched, hpatch, hdone⟩ := (htime w.clock).2 hsame
    have hwritten : h (.patchVNodePoolStatus cr.key cr.status (mutate w.clock cr.status)) w =
        (.ok (), w.putPool { cr with
          resourceVersion := cr.resourceVersion + 1, status := mutate w.clock cr.status }) := by
      rw [hh.host _ _ rfl]
      simp only [handle, hcr, mergeStatus_self]
    refine ⟨w.putPool { cr with
      resourceVersion := cr.resourceVersion + 1, status := mutate w.clock cr.status },
      ?_, rfl, ⟨cr.resourceVersion + 1, ?_⟩, ?_⟩
    · rw [hrun, hpatch, Prog.run, hwritten, hdone]
      rfl
    · exact Store.get_put_self w.pools { cr with
        resourceVersion := cr.resourceVersion + 1, status := mutate w.clock cr.status }
    · intro k hk
      exact Store.get_put_ne _ (Ne.symm hk)

def released (cr : VNodePoolCR) : VNodePoolCR :=
  { cr with finalizers := cr.finalizers.filter (· ≠ poolFinalizer) }

theorem HostAnswers.run_removeFinalizer (hh : HostAnswers env h) {cr : VNodePoolCR} {w : Cluster}
    (hcr : w.pools.get cr.key = some cr) :
    (VNodePool.removeFinalizer cr.key).run h w = (.ok (), w.updatePool cr (released cr)) := by
  have hupdate : h (.updateVNodePool (released cr)) w =
      (.ok (), w.updatePool cr (released cr)) := by
    have hstored : w.pools.get (released cr).key = some cr := hcr
    have hversion : ¬ (released cr).resourceVersion ≠ cr.resourceVersion := fun hne => hne rfl
    rw [hh.host _ _ rfl]
    simp only [handle, hstored, if_neg hversion]
  apply run_retryOnConflict_ok
  rw [Prog.run_bind, ask, Prog.run_perform, hh.getVNodePool hcr]
  exact hupdate

/-! ## One reconcile -/

/-- What a torn down pool leaves: the virtual nodes and the pools of the others, and of the
pool itself nothing unless someone else holds it. -/
structure TornDown (cr : VNodePoolCR) (w w' : Cluster) : Prop where
  frame : w' = { w with vnodes := w'.vnodes, pools := w'.pools, tenants := w'.tenants }
  vnodes : ∀ k, w'.vnodes.get k = ofOthers (crToPoolModel cr) (w.vnodes.get k)
  others : ∀ k, k ≠ cr.key → w'.pools.get k = w.pools.get k
  gone : (∀ f ∈ cr.finalizers, f = poolFinalizer) → w'.pools.get cr.key = none
  held : (∃ f ∈ cr.finalizers, f ≠ poolFinalizer) → ∃ cr', w'.pools.get cr.key = some cr' ∧
    SameSpec cr cr' ∧ cr'.finalizers = cr.finalizers.filter (· ≠ poolFinalizer)

/-- Taking the finalizer off is the end of a pool that is being deleted, or leaves it to those
who hold it. -/
theorem get_updatePool_released {cr : VNodePoolCR} (hdeleted : cr.deletionTimestamp.isSome)
    (w : Cluster) :
    (w.updatePool cr (released cr)).pools.get cr.key =
      if ∀ f ∈ cr.finalizers, f = poolFinalizer then none
      else some { released cr with resourceVersion := cr.resourceVersion + 1 } := by
  have hlast : (released cr).finalizers = [] ↔ ∀ f ∈ cr.finalizers, f = poolFinalizer := by
    simp [released]
  unfold Cluster.updatePool
  simp only [hdeleted, true_and, hlast]
  split
  · exact Store.get_erase_self _ _
  · exact Store.get_put_self w.pools { released cr with
      resourceVersion := cr.resourceVersion + 1 }

theorem updatePool_frame {old cr : VNodePoolCR} (hkey : cr.key = old.key) (w : Cluster) :
    w.updatePool old cr = { w with pools := (w.updatePool old cr).pools } ∧
      ∀ k, k ≠ old.key → (w.updatePool old cr).pools.get k = w.pools.get k := by
  unfold Cluster.updatePool
  split
  · exact ⟨rfl, fun k hk => Store.get_erase_ne _ (Ne.symm hk)⟩
  · exact ⟨rfl, fun k hk => Store.get_put_ne _ fun he => hk (he.symm.trans hkey)⟩

theorem poolVNodes_eq_nil {cr : VNodePoolCR} {w w' : Cluster}
    (hleft : ∀ k, w'.vnodes.get k = ofOthers (crToPoolModel cr) (w.vnodes.get k)) :
    w'.poolVNodes cr.ns cr.name = [] := by
  refine List.filter_eq_nil_iff.mpr ?_
  intro v hv hpool
  have hget := hleft v.key
  rw [Store.get_of_mem hv] at hget
  have hother := (Option.filter_eq_some_iff.mp hget.symm).2
  have hmine : inPool (crToPoolModel cr) v = true := hpool
  rw [hmine] at hother
  cases hother

/-- The clusters once the status of a pool says that it is being deleted, and those once its
nodes are removed. -/
theorem HostAnswers.run_handleDeletion (hh : HostAnswers env h) {cr : VNodePoolCR} {w : Cluster}
    (hcr : w.pools.get cr.key = some cr) (hdeleted : cr.deletionTimestamp.isSome)
    (hfinalizer : poolFinalizer ∈ cr.finalizers)
    (hsize : poolSize w (crToPoolModel cr) < 2 ^ 31) :
    ∃ w₁ w', (VNodePool.handleDeletion cr).run h w = (({}, none), w') ∧ TornDown cr w w' ∧
      w₁ = { w with pools := w₁.pools } ∧
      w'.tenants = ((listed env (crToPoolModel cr) w).working.reverse.foldl
        (removed h) w₁).tenants := by
  let pool : Model.VNodePool :=
    { crToPoolModel cr with nodeCount := 0, deletionPending := true }
  let deleting := VNodePool.statusWith .deleting .false .false "Deleting"
    "Pool is being deleted" "Pool cleanup in progress"
  -- the status first, which leaves the virtual nodes alone
  obtain ⟨w₁, hstatus, hframe, ⟨version, hcr₁⟩, hothers⟩ :=
    hh.run_statusUpdate hcr (statusUpdate_updatePoolStatus cr.key deleting)
  have hvnodes : w₁.vnodes = w.vnodes := by rw [hframe]
  have hlisted : (listed env pool w₁).working = (listed env (crToPoolModel cr) w).working := by
    rw [hframe]
    rfl
  have hsize₁ : poolSize w₁ pool < 2 ^ 31 := by
    rw [poolSize, hvnodes]
    exact hsize
  -- then the virtual nodes, after which none of the pool's is listed
  obtain ⟨result, hscaled⟩ := hh.run_reconcile (show pool.nodeCount = 0 from rfl) w₁ hsize₁
  rw [hlisted] at hscaled
  have hfold := foldl_removed (h := h) (listed env (crToPoolModel cr) w).working.reverse w₁
  generalize hw₂ : (listed env (crToPoolModel cr) w).working.reverse.foldl (removed h) w₁ = w₂
    at hscaled hfold
  have hleft : ∀ k, w₂.vnodes.get k = ofOthers (crToPoolModel cr) (w.vnodes.get k) := by
    intro k
    rw [hfold, hvnodes]
    exact get_erase_listed env (crToPoolModel cr) w k
  have hlist : h (.listVNodes cr.ns cr.name) w₂ = (.ok [], w₂) := by
    rw [hh.host _ _ rfl, handle, poolVNodes_eq_nil hleft, List.perm_nil.mp (env.order_perm [])]
  -- and the finalizer last
  let cr₁ : VNodePoolCR :=
    { cr with resourceVersion := version, status := deleting w.clock cr.status }
  have hpools : w₂.pools = w₁.pools := by rw [hfold]
  have hremove : (VNodePool.removeFinalizer cr.key).run h w₂ =
      (.ok (), w₂.updatePool cr₁ (released cr₁)) :=
    hh.run_removeFinalizer (show w₂.pools.get cr₁.key = some cr₁ from hpools ▸ hcr₁)
  have hlast := get_updatePool_released (show cr₁.deletionTimestamp.isSome from hdeleted) w₂
  obtain ⟨hafter, hkept⟩ := updatePool_frame (show (released cr₁).key = cr₁.key from rfl) w₂
  refine ⟨w₁, w₂.updatePool cr₁ (released cr₁), ?_, ⟨?_, ?_, ?_, ?_, ?_⟩, hframe, ?_⟩
  · unfold VNodePool.handleDeletion
    rw [if_neg (not_not_intro hfinalizer), Prog.run_bind, hstatus]
    dsimp only
    rw [Prog.run_bind, hscaled]
    dsimp only
    rw [Prog.run_bind, ask, Prog.run_perform, hlist]
    dsimp only
    rw [if_neg (by simp), Prog.run_bind, hremove]
    rfl
  · rw [hafter, hfold, hframe]
  · intro k
    rw [hafter]
    exact hleft k
  · intro k hk
    rw [hkept k hk, hpools, hothers k hk]
  · intro hmine
    rw [if_pos hmine] at hlast
    exact hlast
  · rintro ⟨f, hf, hother⟩
    rw [if_neg fun hmine => hother (hmine f hf)] at hlast
    exact ⟨_, hlast, rfl, rfl⟩
  · rw [hafter, hw₂]

theorem HostAnswers.run_reconcile_deleted (hh : HostAnswers env h) {cr : VNodePoolCR}
    {w : Cluster} (hcr : w.pools.get cr.key = some cr) (hdeleted : cr.deletionTimestamp.isSome) :
    (VNodePool.reconcile cr.key).run h w = (VNodePool.handleDeletion cr).run h w := by
  unfold VNodePool.reconcile
  rw [Prog.run_bind, ask, Prog.run_perform, hh.getVNodePool hcr]
  dsimp only
  rw [if_pos hdeleted]

/-- Whatever the tenants answer, and whatever earlier attempts have left, a reconcile of a
pool that is being deleted completes the deletion. -/
theorem pool_torn_down (env : Env) (h : Handler Call Call.Reply Cluster)
    (hh : HostAnswers env h) (cr : VNodePoolCR) (w : Cluster)
    (hcr : w.pools.get cr.key = some cr) (hdeleted : cr.deletionTimestamp.isSome)
    (hfinalizer : poolFinalizer ∈ cr.finalizers)
    (hsize : poolSize w (crToPoolModel cr) < 2 ^ 31) :
    ∃ w', (VNodePool.reconcile cr.key).run h w = (({}, none), w') ∧ TornDown cr w w' := by
  obtain ⟨_, w', hrun, htorn, _⟩ := hh.run_handleDeletion hcr hdeleted hfinalizer hsize
  exact ⟨w', (hh.run_reconcile_deleted hcr hdeleted).trans hrun, htorn⟩

end

def crowdedCluster : Cluster :=
  reconciled Env.plain { crToPoolModel leavingPool with nodeCount := 2 }
    { tenants := fun _ => {}, pools := Store.empty.put leavingPool }

def withoutTenants : Handler Call Call.Reply Cluster
  | .deregister _ _, w => (.error { kind := .other, msg := "connection refused" }, w)
  | c, w => handle Env.plain c w

theorem hostAnswers_withoutTenants : HostAnswers Env.plain withoutTenants where
  host c w hc := by cases c <;> first | rfl | cases hc
  registrar c w hc := by
    cases c with
    | deregister node tenant => rfl
    | register node tenant => exact handle_registrar Env.plain w rfl
    | updateNodeStatus node tenant => exact handle_registrar Env.plain w rfl
    | _ => cases hc

theorem leavingPool_torn_down :
    poolSize crowdedCluster (crToPoolModel leavingPool) = 2 ∧
      ∃ w', (VNodePool.reconcile leavingPool.key).run withoutTenants crowdedCluster =
          (({}, none), w') ∧ TornDown leavingPool crowdedCluster w' :=
  ⟨by decide +kernel, pool_torn_down Env.plain withoutTenants hostAnswers_withoutTenants
    leavingPool crowdedCluster (by decide +kernel) rfl (by decide) (by decide +kernel)⟩

/-! ## The tenants -/

section

variable {env : Env}

/-- The node is known in a tenant cluster, as far as the operator can tell. -/
def Reaches (env : Env) (tenant : TenantRef) (cs : Clientset) : Prop :=
  tenant.kubeconfigSecret ≠ "" ∧ env.connect tenant = .ok cs

instance (tenant : TenantRef) (cs : Clientset) : Decidable (Reaches env tenant cs) :=
  inferInstanceAs (Decidable (_ ∧ _))

def dismissed (env : Env) (tenants : Clientset → TenantCluster) (node : VNode)
    (cs : Clientset) : TenantCluster :=
  if Reaches env node.tenantRef cs then Registrar.withoutNode (tenants cs) node.name
  else tenants cs

theorem tenants_removed (w : Cluster) (node : VNode) :
    (removed (handle env) w node).tenants = dismissed env w.tenants node := by
  let w₁ := w.putVNode (NodeRepository.saved w (asTerminating node))
  change ((Registrar.deregister (asTerminating node) node.tenantRef).run (api env) w₁).2.tenants =
    _
  funext cs
  by_cases hsecret : node.tenantRef.kubeconfigSecret = ""
  · rw [dismissed, if_neg fun hr => hr.1 hsecret, Registrar.deregister, if_pos hsecret]
    rfl
  · cases hconnect : env.connect node.tenantRef with
    | error err =>
        have hnone : ¬ Reaches env node.tenantRef cs := by
          rintro ⟨_, hcs⟩
          rw [hconnect] at hcs
          cases hcs
        rw [dismissed, if_neg hnone, Registrar.deregister, if_neg hsecret, request,
          Prog.run_bind, Prog.run_perform, api, hconnect]
        rfl
    | ok found =>
        have hiff : Reaches env node.tenantRef cs ↔ cs = found := by
          rw [Reaches, hconnect, Except.ok.injEq]
          exact ⟨fun hr => hr.2.symm, fun he => ⟨hsecret, he.symm⟩⟩
        rw [Registrar.run_deregister env hsecret hconnect, Cluster.setTenant_tenants, dismissed]
        simp only [hiff]
        split
        · next he =>
            rw [he]
            rfl
        · rfl

theorem tenants_foldl_removed (nodes : List VNode) (w : Cluster) :
    (nodes.foldl (removed (handle env)) w).tenants = nodes.foldl (dismissed env) w.tenants := by
  induction nodes generalizing w with
  | nil => rfl
  | cons n nodes ih => rw [List.foldl_cons, ih, tenants_removed, List.foldl_cons]

theorem foldl_dismissed (nodes : List VNode) (tenants : Clientset → TenantCluster)
    (cs : Clientset) :
    nodes.foldl (dismissed env) tenants cs =
      ((nodes.filter fun n => Reaches env n.tenantRef cs).map VNode.name).foldl
        Registrar.withoutNode (tenants cs) := by
  induction nodes generalizing tenants with
  | nil => rfl
  | cons n nodes ih =>
      rw [List.foldl_cons, ih, dismissed]
      by_cases hreaches : Reaches env n.tenantRef cs <;> simp [hreaches]

theorem foldl_withoutNode (names : List String) (t : TenantCluster) :
    names.foldl Registrar.withoutNode t =
      { t with nodes := names.foldl Store.erase t.nodes
               leases := names.foldl Store.erase t.leases } := by
  induction names generalizing t with
  | nil => rfl
  | cons name names ih =>
      rw [List.foldl_cons, ih]
      rfl

/-- The names of the pool's virtual nodes in a tenant cluster. -/
def abandoned (env : Env) (cr : VNodePoolCR) (w : Cluster) (cs : Clientset) : List String :=
  ((w.poolVNodes cr.ns cr.name).filter
    fun v => Reaches env (NodeRepository.tenantOf v.annotations) cs).map VNodeCR.name

theorem mem_abandoned {cr : VNodePoolCR} {w : Cluster} {cs : Clientset} {name : String} :
    name ∈ ((listed env (crToPoolModel cr) w).working.reverse.filter
        fun n => Reaches env n.tenantRef cs).map VNode.name ↔ name ∈ abandoned env cr w cs := by
  have hperm := env.order_perm (w.poolVNodes cr.ns cr.name)
  simp only [abandoned, listed, List.mem_map, List.mem_filter, List.mem_reverse,
    decide_eq_true_eq]
  constructor
  · rintro ⟨n, ⟨⟨v, hv, rfl⟩, hreaches⟩, hname⟩
    exact ⟨v, ⟨hperm.mem_iff.mp hv, hreaches⟩, hname⟩
  · rintro ⟨v, ⟨hv, hreaches⟩, hname⟩
    exact ⟨NodeRepository.crToNode v, ⟨⟨v, hperm.mem_iff.mpr hv, rfl⟩, hreaches⟩, hname⟩

/-- The tenant cluster has lost the named nodes and their leases, and nothing else. -/
structure Cleared (names : List String) (t t' : TenantCluster) : Prop where
  frame : t' = { t with nodes := t'.nodes, leases := t'.leases }
  nodes : ∀ name, t'.nodes.get name = if name ∈ names then none else t.nodes.get name
  leases : ∀ name, t'.leases.get name = if name ∈ names then none else t.leases.get name

theorem cleared_of_removed {cr : VNodePoolCR} {w w₁ w' : Cluster}
    (hframe : w₁ = { w with pools := w₁.pools })
    (htenants : w'.tenants = ((listed env (crToPoolModel cr) w).working.reverse.foldl
      (removed (handle env)) w₁).tenants) (cs : Clientset) :
    Cleared (abandoned env cr w cs) (w.tenants cs) (w'.tenants cs) := by
  have hafter : w'.tenants cs = (((listed env (crToPoolModel cr) w).working.reverse.filter
      fun n => Reaches env n.tenantRef cs).map VNode.name).foldl Registrar.withoutNode
        (w.tenants cs) := by
    rw [htenants, tenants_foldl_removed, foldl_dismissed, hframe]
  rw [foldl_withoutNode] at hafter
  refine ⟨by rw [hafter], ?_, ?_⟩
  · intro name
    rw [hafter]
    simp only [Store.get_foldl_erase, mem_abandoned]
  · intro name
    rw [hafter]
    simp only [Store.get_foldl_erase, mem_abandoned]

/-- With tenants that answer, the deletion of a pool takes its nodes and their leases out of the
tenant clusters, and leaves the rest of them alone. -/
theorem tenants_cleared (env : Env) (cr : VNodePoolCR) (w : Cluster)
    (hcr : w.pools.get cr.key = some cr) (hdeleted : cr.deletionTimestamp.isSome)
    (hfinalizer : poolFinalizer ∈ cr.finalizers)
    (hsize : poolSize w (crToPoolModel cr) < 2 ^ 31) (cs : Clientset) :
    Cleared (abandoned env cr w cs) (w.tenants cs)
      (((VNodePool.reconcile cr.key).run (handle env) w).2.tenants cs) := by
  have hh := hostAnswers_handle env
  obtain ⟨w₁, w', hrun, _, hframe, htenants⟩ :=
    hh.run_handleDeletion hcr hdeleted hfinalizer hsize
  rw [hh.run_reconcile_deleted hcr hdeleted, hrun]
  exact cleared_of_removed hframe htenants cs

end

theorem leavingPool_tenant_cleared :
    (crowdedCluster.tenants ⟨"acme"⟩).nodes.get "vnode-web-1" ≠ none ∧
      (((VNodePool.reconcile leavingPool.key).run (handle Env.plain)
        crowdedCluster).2.tenants ⟨"acme"⟩).nodes.get "vnode-web-1" = none := by
  have hcleared := tenants_cleared Env.plain leavingPool crowdedCluster (by decide +kernel) rfl
    (by decide) (by decide +kernel) ⟨"acme"⟩
  have hmem : "vnode-web-1" ∈ abandoned Env.plain leavingPool crowdedCluster ⟨"acme"⟩ := by
    decide +kernel
  exact ⟨by decide +kernel, (hcleared.nodes _).trans (if_pos hmem)⟩

end VNodeOperator.Pools
