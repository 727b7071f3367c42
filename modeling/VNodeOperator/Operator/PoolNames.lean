import VNodeOperator.Operator.Records

/-!
# The names of a pool's nodes

A pool names its nodes after its display name and finds them by their label.  Two pools
of a namespace may share a display name, and then one would take the other's nodes for
its own.  `PoolNamed` rules that out: a VNode under a name of the pool carries the pool's
label.  The pool controller keeps it, whatever its requests return.
-/

namespace VNodeOperator.Operator

open Model Kube Ports Adapter ProofSupport Service Reconciler

def InPool (k : ObjKey) (cr : VNodeCR) : Prop :=
  cr.ns = k.ns ∧ cr.labels.lookup labelVNodePool = some k.name

instance (k : ObjKey) (cr : VNodeCR) : Decidable (InPool k cr) :=
  inferInstanceAs (Decidable (_ ∧ _))

/-- The names a pool with display name `d` gives to its nodes. -/
def OwnName (k : ObjKey) (d name : String) : Prop :=
  ∃ i : Nat, name = "vnode-" ++ (if d = "" then k.name else d) ++ "-" ++ toString i

/-- A VNode under a name of the pool belongs to the pool. -/
def NamedCR (k : ObjKey) (d : String) (cr : VNodeCR) : Prop :=
  cr.ns = k.ns → OwnName k d cr.name → InPool k cr ∧ cr.poolRef = k.name

def NamedNode (k : ObjKey) (d : String) (node : Model.VNode) : Prop :=
  node.ns = k.ns → OwnName k d node.name → node.poolName = k.name

/-- The names of the pool are its own, and its display name is `d`. -/
structure PoolNamed (k : ObjKey) (d : String) (w : Cluster) : Prop where
  vnodes : ∀ key cr, w.vnodes.get key = some cr → NamedCR k d cr
  pool : ∀ cr, w.pools.get k = some cr → cr.displayName = d

def poolNames (k : ObjKey) (d : String) : Records where
  mine key := key = k
  vnode := NamedCR k d
  pool cr := cr.displayName = d
  node := NamedNode k d

variable {env : Env} {k : ObjKey} {d : String} {w : Cluster}

theorem holds_poolNames_iff : (poolNames k d).Holds w ↔ PoolNamed k d w := by
  constructor
  · intro h
    refine ⟨fun key cr hget => h.vnodes cr (Store.mem_of_get hget), ?_⟩
    intro cr hget
    exact h.pools cr (Store.mem_of_get hget) (Store.key_of_get hget)
  · intro h
    refine ⟨fun cr hmem => h.vnodes cr.key cr (Store.get_of_mem hmem), ?_⟩
    intro cr hmem hkey
    have hkey' : cr.key = k := hkey
    exact h.pool cr (hkey' ▸ Store.get_of_mem hmem)

theorem lawful_poolNames : (poolNames k d).Lawful where
  vnodeStatus _ _ _ _ _ hcr := hcr
  poolStatus _ _ _ _ _ hcr := hcr
  nodeStatus _ _ hnode := hnode
  created {node} hnode := by
    intro hns hname
    refine ⟨⟨hns, ?_⟩, hnode hns hname⟩
    rw [← hnode hns hname]
    exact AList.lookup_insert _
  annotated _ hcr _ := hcr
  listed hcr := fun hns hname => (hcr hns hname).2
  reconciled hcr := fun hns hname => (hcr hns hname).2
  fresh _ hmine _ := fun _ _ => congrArg ObjKey.name hmine

def PoolUnder (k : ObjKey) (pool : Model.VNodePool) : Prop :=
  pool.ns = k.ns ∧ pool.name = k.name

/-- The pool controller gives its names to nodes of the pool only. -/
theorem meets_names (env : Env) (k : ObjKey) (d : String) :
    Prog.Meets (poolNames k d).requestContract (fun _ => True)
      ((VNodePool.reconcile k).expand (requests env)) := by
  have hpool : Prog.Meets (poolNames k d).callContract (fun _ => True)
      ((Job.pool k).program ⟨""⟩) := by
    refine Records.meets_job lawful_poolNames _ ?_
    rintro _ ⟨⟩
    rfl
  exact hpool.expand fun _ hc => Records.meets_requests lawful_poolNames hc

end VNodeOperator.Operator
