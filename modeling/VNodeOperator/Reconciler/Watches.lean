import VNodeOperator.Reconciler.PodSync

/-!
# What wakes the controllers

`SetupWithManager` of the three reconcilers: which objects each of them watches,
which events pass its predicates, and the keys an event puts into its queue.  The
API server reports the difference between two states of a store; an update that
changes nothing is not written and not reported.
-/

namespace VNodeOperator.Kube

def VNodeCR.content (cr : VNodeCR) : VNodeCR := { cr with resourceVersion := 0 }

def VNodePoolCR.content (cr : VNodePoolCR) : VNodePoolCR := { cr with resourceVersion := 0 }

end VNodeOperator.Kube

namespace VNodeOperator.Reconciler

open Model Kube ProofSupport

inductive WatchEvent (α : Type) where
  | create (obj : α)
  | update (old new : α)
  | delete (obj : α)
  | generic (obj : α)

/-- The objects of an event; a map function is applied to each. -/
def WatchEvent.objects {α : Type} : WatchEvent α → List α
  | .create obj | .delete obj | .generic obj => [obj]
  | .update old new => [old, new]

section

variable {α : Type} [DecidableEq α] {key : α → ObjKey} {content : α → α}

def storeEvents (content : α → α) (s s' : Store key) : List (WatchEvent α) :=
  (s.items.filterMap fun old =>
    match s'.get (key old) with
    | none => some (.delete old)
    | some new => if content new = content old then none else some (.update old new)) ++
  (s'.items.filter fun new => (s.get (key new)).isNone).map .create

theorem delete_mem_storeEvents {s s' : Store key} {k : ObjKey} {old : α}
    (hold : s.get k = some old) (hnew : s'.get k = none) :
    .delete old ∈ storeEvents content s s' := by
  refine List.mem_append_left _ (List.mem_filterMap.mpr ⟨old, Store.mem_of_get hold, ?_⟩)
  rw [Store.key_of_get hold, hnew]

theorem update_mem_storeEvents {s s' : Store key} {k : ObjKey} {old new : α}
    (hold : s.get k = some old) (hnew : s'.get k = some new)
    (hne : content new ≠ content old) : .update old new ∈ storeEvents content s s' := by
  refine List.mem_append_left _ (List.mem_filterMap.mpr ⟨old, Store.mem_of_get hold, ?_⟩)
  rw [Store.key_of_get hold, hnew]
  exact if_neg hne

theorem create_mem_storeEvents {s s' : Store key} {k : ObjKey} {new : α}
    (hold : s.get k = none) (hnew : s'.get k = some new) :
    .create new ∈ storeEvents content s s' := by
  refine List.mem_append_right _ (List.mem_map.mpr ⟨new, ?_, rfl⟩)
  refine List.mem_filter.mpr ⟨Store.mem_of_get hnew, ?_⟩
  rw [Store.key_of_get hnew, hold]
  rfl

theorem exists_storeEvent {s s' : Store key} {k : ObjKey}
    (hne : (s'.get k).map content ≠ (s.get k).map content) :
    ∃ e ∈ storeEvents content s s', ∃ obj ∈ e.objects, key obj = k := by
  cases hold : s.get k with
  | none =>
      cases hnew : s'.get k with
      | none =>
          rw [hold, hnew] at hne
          exact absurd rfl hne
      | some new =>
          exact ⟨_, create_mem_storeEvents hold hnew, new, by simp [WatchEvent.objects],
            Store.key_of_get hnew⟩
  | some old =>
      cases hnew : s'.get k with
      | none =>
          exact ⟨_, delete_mem_storeEvents hold hnew, old, by simp [WatchEvent.objects],
            Store.key_of_get hold⟩
      | some new =>
          have hdiffer : content new ≠ content old := by
            intro hsame
            rw [hold, hnew, Option.map_some, Option.map_some, hsame] at hne
            exact hne rfl
          exact ⟨_, update_mem_storeEvents hold hnew hdiffer, new, by simp [WatchEvent.objects],
            Store.key_of_get hnew⟩

end

/-- What a reconcile returns puts its key back into the queue: an error, or a delay. -/
def comesAgain (r : Result × Option Err) : Bool := r.2.isSome || 0 < r.1.requeueAfter

/-- The keys queued by a watch without predicates on the objects themselves. -/
def forObject {α : Type} (key : α → ObjKey) (events : List (WatchEvent α)) : List ObjKey :=
  events.flatMap fun e => e.objects.map key

namespace PodSync

def enqueued (w w' : Cluster) : List ObjKey :=
  forObject VNodePoolCR.key (storeEvents VNodePoolCR.content w.pools w'.pools)

end PodSync

namespace VNode

def enqueued (w w' : Cluster) : List ObjKey :=
  forObject VNodeCR.key (storeEvents VNodeCR.content w.vnodes w'.vnodes)

end VNode

namespace VNodePool

/-- `GenerationChangedPredicate`: the generation counts the changes of the spec and the
deletion request, not those of the status or of other metadata. -/
def vnodePoolPredicates : WatchEvent VNodePoolCR → Bool
  | .update old new =>
      { old with resourceVersion := 0, finalizers := [], status := {} } ≠
        ({ new with resourceVersion := 0, finalizers := [], status := {} } : VNodePoolCR)
  | _ => true

def vnodeToPool (vnode : VNodeCR) : List ObjKey :=
  let poolName := vnode.labels.at labelVNodePool
  if poolName = "" then [] else [⟨vnode.ns, poolName⟩]

def vnodePhaseChangedPredicate : WatchEvent VNodeCR → Bool
  | .create _ => false
  | .delete _ => true
  | .update old new => old.phase ≠ new.phase
  | .generic _ => false

/-- `For(&v1alpha1.VNodePool{})` and `Watches(&v1alpha1.VNode{})`. -/
def enqueued (w w' : Cluster) : List ObjKey :=
  forObject VNodePoolCR.key
      ((storeEvents VNodePoolCR.content w.pools w'.pools).filter vnodePoolPredicates) ++
    ((storeEvents VNodeCR.content w.vnodes w'.vnodes).filter vnodePhaseChangedPredicate).flatMap
      fun e => e.objects.flatMap vnodeToPool

end VNodePool

/-! ## What a quiet change leaves alone -/

theorem mem_forObject {α : Type} {key : α → ObjKey} {events : List (WatchEvent α)}
    {e : WatchEvent α} {obj : α} (he : e ∈ events) (hobj : obj ∈ e.objects) :
    key obj ∈ forObject key events :=
  List.mem_flatMap.mpr ⟨e, he, List.mem_map.mpr ⟨obj, hobj, rfl⟩⟩

theorem get_of_notMem_forObject {α : Type} [DecidableEq α] {key : α → ObjKey} {content : α → α}
    {s s' : Store key} {k : ObjKey} (hk : k ∉ forObject key (storeEvents content s s')) :
    (s'.get k).map content = (s.get k).map content := by
  by_contra hne
  obtain ⟨e, he, obj, hobj, hkey⟩ := exists_storeEvent hne
  rw [← hkey] at hk
  exact hk (mem_forObject he hobj)

end VNodeOperator.Reconciler
