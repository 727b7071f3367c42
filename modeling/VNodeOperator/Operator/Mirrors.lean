import VNodeOperator.Operator.Noninterference
import VNodeOperator.Operator.Records

/-!
# VNodes say what their pools say

A VNode repeats what its pool asks for: the pool's name, twice, the resources of a node and
the tenant cluster to register with.  Save writes the tenant reference again and again, from
nodes read earlier or built from the pool, and the rest only once.  As long as no two pools
of a namespace are displayed alike, every VNode agrees with its pool all the time.
-/

namespace VNodeOperator.Operator

open Model Kube Ports Adapter ProofSupport Service Reconciler
open NodeRepository (tenantOf)
open Nodes (displayed nodeName_eq_iff)
open Reconciler.VNodePool (crToPoolModel)

/-- What the user asks of a pool, apart from its deletion. -/
def poolAsks (cr : VNodePoolCR) : VNodePoolCR :=
  { cr with
    resourceVersion := 0
    deletionTimestamp := none
    finalizers := []
    status := {} }

structure MirrorOf (pool : VNodePoolCR) (cr : VNodeCR) : Prop where
  label : cr.labels.lookup labelVNodePool = some pool.name
  poolRef : cr.poolRef = pool.name
  capacity : cr.capacity = pool.perNodeResources
  tenant : tenantOf cr.annotations = pool.tenantRef
  name : ∃ i, cr.name = NodeService.nodeName (crToPoolModel pool) i

structure NodeMirrors (pool : VNodePoolCR) (node : Model.VNode) : Prop where
  capacity : node.capacity = pool.perNodeResources
  tenant : node.tenantRef = pool.tenantRef
  name : ∃ i, node.name = NodeService.nodeName (crToPoolModel pool) i

def DisplayedApart (w : Cluster) : Prop :=
  ∀ p ∈ w.pools.items, ∀ q ∈ w.pools.items, p.ns = q.ns →
    displayed (crToPoolModel p) = displayed (crToPoolModel q) → p = q

/-- Everything stored agrees with the pools as they are in `w₀`. -/
def mirrors (w₀ : Cluster) : Records where
  mine _ := True
  vnode cr := ∃ pool, w₀.pools.get ⟨cr.ns, cr.poolRef⟩ = some pool ∧ MirrorOf pool cr
  pool cr := ∃ pool, w₀.pools.get cr.key = some pool ∧ poolAsks cr = poolAsks pool
  node n := ∃ pool, w₀.pools.get ⟨n.ns, n.poolName⟩ = some pool ∧ NodeMirrors pool n

variable {w₀ : Cluster}

theorem eq_of_poolAsks {p q : VNodePoolCR} (h : poolAsks p = poolAsks q) :
    p.name = q.name ∧ p.perNodeResources = q.perNodeResources ∧ p.tenantRef = q.tenantRef ∧
      displayed (crToPoolModel p) = displayed (crToPoolModel q) := by
  simp only [poolAsks, VNodePoolCR.mk.injEq, true_and, and_true] at h
  obtain ⟨hname, _, htenant, _, hresources, _, _, _, _, _, _, hdisplay⟩ := h
  refine ⟨hname, hresources, htenant, ?_⟩
  change (if p.displayName = "" then p.name else p.displayName) =
    if q.displayName = "" then q.name else q.displayName
  rw [hname, hdisplay]

theorem MirrorOf.congr {pool pool' : VNodePoolCR} {cr : VNodeCR} (h : MirrorOf pool cr)
    (hasks : poolAsks pool' = poolAsks pool) : MirrorOf pool' cr := by
  obtain ⟨hname, hresources, htenant, hdisplayed⟩ := eq_of_poolAsks hasks
  obtain ⟨i, hi⟩ := h.name
  exact ⟨hname ▸ h.label, hname ▸ h.poolRef, hresources ▸ h.capacity, htenant ▸ h.tenant, i,
    hi.trans (nodeName_eq_iff.mpr ⟨hdisplayed.symm, rfl⟩)⟩

theorem lawful_mirrors (hapart : DisplayedApart w₀) : (mirrors w₀).Lawful where
  vnodeStatus := by
    rintro cr _ _ _ _ ⟨pool, hget, h⟩
    exact ⟨pool, hget, h.label, h.poolRef, h.capacity, h.tenant, h.name⟩
  poolStatus _ _ _ _ _ hcr := hcr
  nodeStatus := by
    rintro node _ _ ⟨pool, hget, h⟩
    exact ⟨pool, hget, h.capacity, h.tenant, h.name⟩
  created := by
    rintro node ⟨pool, hget, h⟩
    have hkey : pool.key = ⟨node.ns, node.poolName⟩ := Store.key_of_get hget
    have hname : pool.name = node.poolName := congrArg ObjKey.name hkey
    refine ⟨pool, hget, ?_, hname.symm, h.capacity, ?_, h.name⟩
    · rw [hname]
      exact AList.lookup_insert _
    · rw [← h.tenant]
      exact NodeRepository.tenantOf_annotateTenant _ _
  annotated := by
    rintro node cr ⟨q, hq, hnode⟩ ⟨p, hp, hcr⟩ hkey
    -- one name, so one display name, so one pool
    obtain ⟨i, hi⟩ := hnode.name
    obtain ⟨j, hj⟩ := hcr.name
    have hname : cr.name = node.name := congrArg ObjKey.name hkey
    have hns : cr.ns = node.ns := congrArg ObjKey.ns hkey
    have hpns : p.ns = cr.ns := congrArg ObjKey.ns (Store.key_of_get hp)
    have hqns : q.ns = node.ns := congrArg ObjKey.ns (Store.key_of_get hq)
    have hsame : p = q := by
      refine hapart p (Store.mem_of_get hp) q (Store.mem_of_get hq) ?_ ?_
      · rw [hpns, hqns, hns]
      · exact (nodeName_eq_iff.mp (hj.symm.trans (hname.trans hi))).1
    refine ⟨p, hp, hcr.label, hcr.poolRef, hcr.capacity, ?_, hcr.name⟩
    rw [hsame, ← hnode.tenant]
    exact NodeRepository.tenantOf_annotateTenant _ _
  listed := by
    rintro cr ⟨pool, hget, h⟩
    exact ⟨pool, hget, h.capacity, h.tenant, h.name⟩
  reconciled := by
    rintro cr ⟨pool, hget, h⟩
    exact ⟨pool, hget, h.capacity, h.tenant, h.name⟩
  fresh := by
    rintro cr existing _ ⟨pool, hget, hasks⟩
    obtain ⟨_, hresources, htenant, hdisplayed⟩ := eq_of_poolAsks hasks
    exact ⟨pool, hget, hresources, htenant, existing + 1,
      nodeName_eq_iff.mpr ⟨hdisplayed, rfl⟩⟩

/-- Reconciles of all controllers take turns in any order, with any failures.  Every VNode
that is stored at any time agrees with its pool, as it was and, while it is there, as it
is. -/
theorem vnodes_mirror_pools {ι : Type} [DecidableEq ι] (env : Env) (translator : PodService)
    (jobs : ι → Job) (plans : ι → FaultPlan Err) (w : Cluster) (hapart : DisplayedApart w)
    (hstart : ∀ cr ∈ w.vnodes.items,
      ∃ pool, w.pools.get ⟨cr.ns, cr.poolRef⟩ = some pool ∧ MirrorOf pool cr)
    (t : Threads Request Request.Reply (fun _ : ι => Result × Option Err) Cluster)
    (hreach : Threads.Reaches (serve env) (fun _ _ => True)
      (operator env translator jobs plans w) t)
    (cr : VNodeCR) (hcr : cr ∈ t.shared.vnodes.items) :
    (∃ pool, w.pools.get ⟨cr.ns, cr.poolRef⟩ = some pool ∧ MirrorOf pool cr) ∧
      ∀ pool, t.shared.pools.get ⟨cr.ns, cr.poolRef⟩ = some pool → MirrorOf pool cr := by
  have hlawful := lawful_mirrors hapart
  have hholds : (mirrors w).Holds t.shared := by
    refine hreach.invariant_of_meets (K := (mirrors w).requestContract) (Q := fun _ _ => True)
      ?_ ?_ fun c s hc hs => Records.keeps_serve hlawful hc hs
    · intro i _
      apply Prog.Meets.struck
      · exact (Records.meets_job hlawful translator fun _ _ => trivial).expand
          fun _ hc => Records.meets_requests hlawful hc
      · exact Records.requestContract_error
    · exact ⟨hstart, fun pool hpool _ => ⟨pool, Store.get_of_mem hpool, rfl⟩⟩
  obtain ⟨pool, hget, hmirror⟩ := hholds.vnodes cr hcr
  refine ⟨⟨pool, hget, hmirror⟩, ?_⟩
  intro pool' hget'
  obtain ⟨pool₀, hget₀, hasks⟩ := hholds.pools pool' (Store.mem_of_get hget') trivial
  have hkey : pool'.key = ⟨cr.ns, cr.poolRef⟩ := Store.key_of_get hget'
  rw [hkey, hget, Option.some.injEq] at hget₀
  rw [← hget₀] at hasks
  exact hmirror.congr hasks

theorem town_mirrors :
    ∃ t, Threads.follow (serve Env.plain) townSchedule
        (operator Env.plain ⟨""⟩ townJobs townPlans townCluster) = some t ∧
      ∃ cr ∈ t.shared.vnodes.items, cr.ns = "north" ∧
        (∃ pool, townCluster.pools.get ⟨cr.ns, cr.poolRef⟩ = some pool ∧ MirrorOf pool cr) ∧
        ∀ pool, t.shared.pools.get ⟨cr.ns, cr.poolRef⟩ = some pool → MirrorOf pool cr := by
  have hrun : ∃ t, Threads.follow (serve Env.plain) townSchedule
        (operator Env.plain ⟨""⟩ townJobs townPlans townCluster) = some t ∧
      ∃ cr, t.shared.vnodes.get ⟨"north", "vnode-web-1"⟩ = some cr := ⟨_, rfl, _, rfl⟩
  obtain ⟨t, hfollow, cr, hget⟩ := hrun
  have hns : cr.ns = "north" := congrArg ObjKey.ns (Store.key_of_get hget)
  refine ⟨t, hfollow, cr, Store.mem_of_get hget, hns, ?_⟩
  refine vnodes_mirror_pools Env.plain ⟨""⟩ townJobs townPlans townCluster ?_ ?_ t
    (Threads.reaches_follow .start hfollow) cr (Store.mem_of_get hget)
  · unfold DisplayedApart
    decide
  · intro cr hcr
    exact absurd hcr List.not_mem_nil

end VNodeOperator.Operator
