import Mathlib.Data.Set.Basic
import VNodeOperator.ProofSupport.FaultyThreads
import VNodeOperator.Reconciler.PodSync

/-!
# Deleting a pool

Two controllers share the cleanup of a pool that is being deleted.  The pool
controller removes the virtual nodes and takes the finalizer off; the pod
controller deletes the host pods, unless it finds the resource gone or invalid or
one of its calls fails.  The host pods are released before the pool is when the
finalizer goes only after a reconcile of the pod controller has returned and none
of its calls has failed.
-/

namespace VNodeOperator.Pools

open Model Kube Adapter Ports ProofSupport Service Reconciler
open PodExecution (ownerLabels)
open Reconciler.VNodePool (poolFinalizer crToPoolModel)

/-! ## The state of a deletion -/

/-- The pool's host pods whose deletion has not been requested. -/
def remaining (k : ObjKey) (w : Cluster) : Set ObjKey :=
  { key | ∃ p ∈ w.hostPods.items, p.key = key ∧ p.spec.ns = k.ns ∧
    matchesLabels (ownerLabels k.name) p.spec.labels = true ∧ p.spec.deleting = false }

/-- The pool has lost its finalizer, or is gone. -/
def FinalizerRemoved (k : ObjKey) (w : Cluster) : Prop :=
  ∀ cr, w.pools.get k = some cr → poolFinalizer ∉ cr.finalizers

def PodsReleased (k : ObjKey) (w : Cluster) : Prop :=
  FinalizerRemoved k w → remaining k w = ∅

def SameSpec (cr₀ cr : VNodePoolCR) : Prop :=
  cr = { cr₀ with
    resourceVersion := cr.resourceVersion
    finalizers := cr.finalizers
    status := cr.status }

section

variable {cr₀ cr : VNodePoolCR}

theorem SameSpec.key (h : SameSpec cr₀ cr) : cr.key = cr₀.key := by
  rw [h]
  rfl

theorem SameSpec.deletionTimestamp (h : SameSpec cr₀ cr) :
    cr.deletionTimestamp = cr₀.deletionTimestamp := by
  rw [h]

theorem SameSpec.validate (h : SameSpec cr₀ cr) :
    (crToPoolModel cr).validate = (crToPoolModel cr₀).validate := by
  rw [h]
  rfl

end

/-- What the reconciles of a pool under deletion do to the clusters: the pool
keeps its spec, a removed finalizer stays away, and no host pod appears. -/
def deletion (cr₀ : VNodePoolCR) : Interference Cluster where
  inv w := ∀ cr, w.pools.get cr₀.key = some cr → SameSpec cr₀ cr
  rel w w' :=
    ((∀ cr, w.pools.get cr₀.key = some cr → SameSpec cr₀ cr) →
        ∀ cr, w'.pools.get cr₀.key = some cr → SameSpec cr₀ cr) ∧
      (FinalizerRemoved cr₀.key w → FinalizerRemoved cr₀.key w') ∧
      remaining cr₀.key w' ⊆ remaining cr₀.key w
  refl _ := ⟨id, id, Set.Subset.refl _⟩
  trans h h' := ⟨h'.1 ∘ h.1, h'.2.1 ∘ h.2.1, h'.2.2.trans h.2.2⟩
  keeps hinv h := h.1 hinv

/-! ## Single calls -/

section

variable {env : Env} {cr₀ : VNodePoolCR} {w w' : Cluster}

theorem rel_of_eq (hpools : w'.pools = w.pools) (hpods : w'.hostPods = w.hostPods) :
    (deletion cr₀).rel w w' := by
  refine ⟨?_, ?_, ?_⟩
  · rw [hpools]
    exact id
  · unfold FinalizerRemoved
    rw [hpools]
    exact id
  · unfold remaining
    rw [hpods]

theorem rel_read {c : Call} (hc : c.isRead) : (deletion cr₀).rel w (handle env c w).2 := by
  rw [handle_read env w hc]
  exact (deletion cr₀).refl w

def onNodes : Call → Bool
  | .listByPool _ _ | .save _ | .delete _ | .register _ _ | .deregister _ _ => true
  | _ => false

theorem rel_onNodes {c : Call} (hc : onNodes c) : (deletion cr₀).rel w (handle env c w).2 := by
  cases c with
  | listByPool ns name => exact rel_read rfl
  | save node =>
      rw [handle_save]
      exact rel_of_eq rfl rfl
  | delete k =>
      simp only [handle, NodeRepository.run_delete]
      split <;> exact rel_of_eq rfl rfl
  | register node tenant =>
      rw [handle_registrar env w rfl]
      exact rel_of_eq rfl rfl
  | deregister node tenant =>
      rw [handle_registrar env w rfl]
      exact rel_of_eq rfl rfl
  | _ => cases hc

theorem rel_putPool {cr : VNodePoolCR} (hspec : SameSpec cr₀ cr)
    (hfinalizer : FinalizerRemoved cr₀.key w → poolFinalizer ∉ cr.finalizers) :
    (deletion cr₀).rel w (w.putPool cr) := by
  have hget : (w.putPool cr).pools.get cr₀.key = some cr := by
    rw [← hspec.key]
    exact Store.get_put_self w.pools cr
  refine ⟨?_, ?_, Set.Subset.refl _⟩
  · intro _ cr' hcr'
    rw [hget, Option.some.injEq] at hcr'
    rw [← hcr']
    exact hspec
  · intro hremoved cr' hcr'
    rw [hget, Option.some.injEq] at hcr'
    rw [← hcr']
    exact hfinalizer hremoved

theorem rel_patch (base status : VNodePoolStatus) (hinv : (deletion cr₀).inv w) :
    (deletion cr₀).rel w (handle env (.patchVNodePoolStatus cr₀.key base status) w).2 := by
  simp only [handle]
  split
  · exact (deletion cr₀).refl w
  · next old hold =>
      have hspec := hinv old hold
      apply rel_putPool
      · rw [SameSpec, hspec]
      · intro hremoved
        exact hremoved old hold

theorem rel_update {cr : VNodePoolCR} (hinv : (deletion cr₀).inv w) (hspec : SameSpec cr₀ cr)
    (hfinalizer : poolFinalizer ∉ cr.finalizers) :
    (deletion cr₀).rel w (handle env (.updateVNodePool cr) w).2 := by
  simp only [handle]
  split
  · exact (deletion cr₀).refl w
  · next old hold =>
      rw [hspec.key] at hold
      split
      · exact (deletion cr₀).refl w
      · unfold Cluster.updatePool
        split
        · rw [Store.key_of_get hold]
          have hnone := Store.get_erase_self w.pools cr₀.key
          refine ⟨?_, ?_, Set.Subset.refl _⟩
          · intro _ cr' hcr'
            rw [hnone] at hcr'
            cases hcr'
          · intro _ cr' hcr'
            rw [hnone] at hcr'
            cases hcr'
        · apply rel_putPool
          · have hdeletion := (hinv old hold).deletionTimestamp
            rw [SameSpec, hspec, hdeletion]
          · exact fun _ => hfinalizer

theorem remaining_removePod (env : Env) (k key : ObjKey) (w : Cluster) :
    remaining k (w.removePod env key) ⊆ remaining k w \ {key} := by
  rintro key' ⟨p, hp, hkey, hns, hlabels, hdeleting⟩
  have hget : (w.removePod env key).hostPods.get key' = some p := by
    rw [← hkey]
    exact Store.get_of_mem hp
  have hne : key' ≠ key := by
    intro heq
    rw [heq] at hget
    rw [Cluster.deleting_of_get_removePod env hget] at hdeleting
    cases hdeleting
  rw [Cluster.get_removePod_ne env w hne.symm] at hget
  exact ⟨⟨p, Store.mem_of_get hget, hkey, hns, hlabels, hdeleting⟩, hne⟩

theorem rel_deletePod (key : ObjKey) :
    (deletion cr₀).rel w (handle env (.deletePod key) w).2 := by
  rw [handle_deletePod]
  have hpools : (w.removePod env key).pools = w.pools := by
    rw [Cluster.removePod_eq]
  refine ⟨?_, ?_, ?_⟩
  · rw [hpools]
    exact id
  · unfold FinalizerRemoved
    rw [hpools]
    exact id
  · intro key' hkey'
    exact (remaining_removePod env cr₀.key key w hkey').1

end

/-! ## The calls of the pool service -/

theorem uses_scaleUpStep (i : Nat) (s : PoolService.Scaling) :
    Prog.Uses (fun c => onNodes c) (PoolService.scaleUpStep i s) := by
  refine Prog.Uses.bind (NodeService.uses_provision rfl (fun _ => rfl) (fun _ => rfl)
    (fun _ _ => rfl) (fun _ => rfl)) ?_
  intro ⟨node, err⟩
  cases err <;> exact Prog.Uses.pure _

theorem uses_scaleDownStep (i : Nat) (s : PoolService.Scaling) :
    Prog.Uses (fun c => onNodes c) (PoolService.scaleDownStep i s) := by
  unfold PoolService.scaleDownStep
  split
  · exact Prog.Uses.pure _
  · next node _ =>
      refine Prog.Uses.bind (NodeService.uses_deprovision rfl rfl rfl) ?_
      intro removed
      cases removed <;> exact Prog.Uses.pure _

theorem uses_reconcilePool (pool : Model.VNodePool) :
    Prog.Uses (fun c => onNodes c) (PoolService.reconcile pool) := by
  refine Prog.Uses.bind (Prog.Uses.perform rfl) ?_
  intro existing
  cases existing with
  | error err => exact Prog.Uses.pure _
  | ok existing =>
      refine Prog.Uses.bind (Prog.Uses.loop uses_scaleUpStep _ _) ?_
      intro up
      cases up with
      | exit outcome => exact Prog.Uses.pure _
      | next s =>
          refine Prog.Uses.bind (Prog.Uses.loop uses_scaleDownStep _ _) ?_
          intro down
          cases down <;> exact Prog.Uses.pure _

/-! ## What the reconciles call -/

def deletionCalls (cr₀ : VNodePoolCR) : Contract Call Call.Reply where
  may
    | .updateVNodePool cr => SameSpec cr₀ cr ∧ poolFinalizer ∉ cr.finalizers
    | .patchVNodePoolStatus k _ _ => k = cr₀.key
    | .deletePod _ => True
    | c => onNodes c ∨ c.isRead
  gets
    | .getVNodePool k, .ok cr => k = cr₀.key → SameSpec cr₀ cr
    | _, _ => True

theorem deletionCalls_within (env : Env) (cr₀ : VNodePoolCR) :
    (deletionCalls cr₀).Within (handle env) (deletion cr₀) where
  rel {c w} hc hinv := by
    cases c with
    | updateVNodePool cr => exact rel_update hinv hc.1 hc.2
    | patchVNodePoolStatus k base status =>
        obtain rfl : k = cr₀.key := hc
        exact rel_patch base status hinv
    | deletePod key => exact rel_deletePod key
    | _ => exact Or.elim hc rel_onNodes rel_read
  gets {c w} _ hinv := by
    cases c with
    | getVNodePool k =>
        cases hget : w.pools.get k with
        | none =>
            simp only [handle, find_none _ _ hget]
            trivial
        | some cr =>
            simp only [handle, find_some _ _ hget]
            rintro rfl
            exact hinv cr hget
    | _ => trivial
  error c _ := by
    cases c <;> trivial

section

variable {cr₀ cr : VNodePoolCR}

theorem meets_now : Prog.Meets (deletionCalls cr₀) (fun _ => True) now := by
  refine Prog.Meets.call (c := Call.now) (Or.inr rfl) ?_
  intro r _
  cases r <;> trivial

theorem meets_updatePoolStatus (mutate : Int → VNodePoolStatus → VNodePoolStatus) :
    Prog.Meets (deletionCalls cr₀) (fun _ => True)
      (VNodePool.updatePoolStatus cr₀.key mutate) := by
  apply meets_retryOnConflict
  refine Prog.Meets.call (c := Call.getVNodePool cr₀.key) (Or.inr rfl) ?_
  intro r _
  cases r with
  | error err => trivial
  | ok current =>
      apply Prog.Meets.bind meets_now
      intro time _
      dsimp only
      split
      · trivial
      · exact Prog.Meets.last (c := Call.patchVNodePoolStatus _ _ _) rfl

theorem meets_removeFinalizer :
    Prog.Meets (deletionCalls cr₀) (fun _ => True) (VNodePool.removeFinalizer cr₀.key) := by
  apply meets_retryOnConflict
  refine Prog.Meets.call (c := Call.getVNodePool cr₀.key) (Or.inr rfl) ?_
  intro r hr
  cases r with
  | error err => trivial
  | ok current =>
      have hspec : SameSpec cr₀ current := hr rfl
      refine Prog.Meets.last (c := Call.updateVNodePool _) ⟨?_, ?_⟩
      · rw [SameSpec, hspec]
      · simp

theorem meets_handleDeletion (hspec : SameSpec cr₀ cr) :
    Prog.Meets (deletionCalls cr₀) (fun _ => True) (VNodePool.handleDeletion cr) := by
  unfold VNodePool.handleDeletion
  rw [hspec.key]
  split
  · trivial
  · apply Prog.Meets.bind (meets_updatePoolStatus _)
    intro _ _
    apply Prog.Meets.bind (Prog.Meets.of_uses (uses_reconcilePool _) ?_)
    · rintro ⟨pool, err⟩ _
      cases err with
      | some err => trivial
      | none =>
          refine Prog.Meets.call (c := Call.listVNodes _ _) (Or.inr rfl) ?_
          intro listed _
          cases listed with
          | error err => trivial
          | ok listed =>
              dsimp only
              split
              · trivial
              · apply Prog.Meets.bind meets_removeFinalizer
                intro r _
                cases r <;> trivial
    · intro c hc
      cases c <;> first | exact Or.inl hc | cases hc

theorem meets_reconcilePool (hdeleting : cr₀.deletionTimestamp.isSome) :
    Prog.Meets (deletionCalls cr₀) (fun _ => True) (VNodePool.reconcile cr₀.key) := by
  refine Prog.Meets.call (c := Call.getVNodePool cr₀.key) (Or.inr rfl) ?_
  intro r hr
  cases r with
  | error err => trivial
  | ok cr =>
      have hspec : SameSpec cr₀ cr := hr rfl
      dsimp only
      rw [hspec.deletionTimestamp, if_pos hdeleting]
      exact meets_handleDeletion hspec

/-- A reconcile of the pod controller, which stops at the first call that fails. -/
theorem meets_reconcilePods (translator : PodService)
    (hdeleting : cr₀.deletionTimestamp.isSome) :
    Prog.Meets (deletionCalls cr₀) (fun _ => True) (PodSync.reconcile translator cr₀.key) := by
  refine Prog.Meets.call (c := Call.getVNodePool cr₀.key) (Or.inr rfl) ?_
  intro r hr
  cases r with
  | error err => trivial
  | ok cr =>
      have hspec : SameSpec cr₀ cr := hr rfl
      dsimp only
      rw [hspec.deletionTimestamp, if_pos hdeleting]
      split
      · trivial
      · apply Prog.Meets.bind (Q := fun _ => True)
        · refine Prog.Meets.call (c := Call.listPodsByLabels _ _) (Or.inr rfl) ?_
          intro listed _
          cases listed with
          | error err => trivial
          | ok pods =>
              apply Prog.Meets.bind (Prog.Meets.loop (fun _ => True) (fun _ => True) ?_ trivial)
              · intro r _
                cases r <;> trivial
              · intro pod _ deleted _
                refine Prog.Meets.call (c := Call.deletePod _) trivial ?_
                intro r _
                cases r <;> trivial
        · rintro ⟨deleted, err⟩ _
          cases err <;> trivial

end

/-! ## The cleanup under interference -/

section

variable {env : Env} {cr₀ : VNodePoolCR} {w : Cluster}

theorem under_getPool {α : Type} {f : Except Err VNodePoolCR → Svc α}
    {Q : α → Cluster → Prop}
    (hok : ∀ cr w, SameSpec cr₀ cr → Prog.Under (handle env) (deletion cr₀) (f (.ok cr)) Q w)
    (hmissing : ∀ w, FinalizerRemoved cr₀.key w → Prog.Under (handle env) (deletion cr₀)
      (f (.error (notFoundError "vnodepools.vnode.kroderdev.io" cr₀.key.name))) Q w) :
    Prog.Under (handle env) (deletion cr₀) (ask (.getVNodePool cr₀.key) >>= f) Q w := by
  intro w' hinv _
  refine ⟨rel_read rfl, ?_⟩
  cases hget : w'.pools.get cr₀.key with
  | some cr =>
      simp only [handle, find_some _ _ hget]
      exact hok cr w' (hinv cr hget)
  | none =>
      simp only [handle, find_none _ _ hget]
      apply hmissing
      intro cr hcr
      rw [hget] at hcr
      cases hcr

def keys (pods : List PodSpec) : Set ObjKey := { key | ∃ p ∈ pods, ⟨p.ns, p.name⟩ = key }

theorem remaining_subset_listed (k : ObjKey) (w : Cluster) :
    remaining k w ⊆ keys ((w.podsByLabels k.ns (ownerLabels k.name)).map HostPod.spec) := by
  rintro key ⟨p, hp, hkey, hns, hlabels, _⟩
  refine ⟨p.spec, List.mem_map_of_mem (List.mem_filter.mpr ⟨hp, ?_⟩), hkey⟩
  simp [hns, hlabels]

theorem under_cleanupPod (pod : PodSpec) (rest : List PodSpec) (deleted : Nat)
    (hlisted : remaining cr₀.key w ⊆ keys (pod :: rest)) :
    Prog.Under (handle env) (deletion cr₀) (PodExecution.cleanupPod pod deleted)
      (fun r w => r = .next (deleted + 1) ∧ remaining cr₀.key w ⊆ keys rest) w := by
  intro w' _ hrel
  refine ⟨rel_deletePod _, ?_⟩
  rw [handle_deletePod]
  refine ⟨rfl, ?_⟩
  intro key hkey
  obtain ⟨hbefore, hne⟩ := remaining_removePod env cr₀.key ⟨pod.ns, pod.name⟩ w' hkey
  obtain ⟨p, hp, hpkey⟩ := hlisted (hrel.2.2 hbefore)
  rcases List.mem_cons.mp hp with rfl | hp
  · exact absurd hpkey.symm hne
  · exact ⟨p, hp, hpkey⟩

theorem under_cleanupPoolPods {pool : Model.VNodePool} (hns : pool.ns = cr₀.ns)
    (hname : pool.name = cr₀.name) :
    Prog.Under (handle env) (deletion cr₀) (PodExecution.cleanupPoolPods pool)
      (fun r w => r.2 = none ∧ remaining cr₀.key w = ∅) w := by
  unfold PodExecution.cleanupPoolPods
  rw [hns, hname]
  intro w' _ _
  refine ⟨rel_read rfl, ?_⟩
  change Prog.Under _ _ (Prog.loop PodExecution.cleanupPod
    ((w'.podsByLabels cr₀.ns (ownerLabels cr₀.name)).map HostPod.spec) 0 >>= _) _ w'
  refine Prog.Under.bind (Q := fun r w => (∃ n, r = .next n) ∧ remaining cr₀.key w = ∅)
    (Prog.Under.loop (fun rest _ w => remaining cr₀.key w ⊆ keys rest) ?_ ?_ _ _
      (remaining_subset_listed cr₀.key w')) ?_
  · intro n w hlisted
    refine ⟨⟨n, rfl⟩, Set.eq_empty_of_forall_notMem ?_⟩
    intro key hkey
    obtain ⟨p, hp, _⟩ := hlisted hkey
    cases hp
  · intro pod rest n w hlisted
    refine (under_cleanupPod pod rest n hlisted).mono ?_
    rintro r w ⟨rfl, hrest⟩
    exact hrest
  · rintro r w ⟨⟨n, rfl⟩, hempty⟩
    exact ⟨rfl, hempty⟩

/-- What a reconcile of the pod controller has seen to when none of its calls fails. -/
def Cleaned (cr₀ : VNodePoolCR) (w : Cluster) : Prop :=
  (crToPoolModel cr₀).validate = .ok () →
    FinalizerRemoved cr₀.key w ∨ remaining cr₀.key w = ∅

theorem Cleaned.rel {w' : Cluster} (h : Cleaned cr₀ w) (hrel : (deletion cr₀).rel w w') :
    Cleaned cr₀ w' := by
  intro hvalid
  rcases h hvalid with hremoved | hempty
  · exact Or.inl (hrel.2.1 hremoved)
  · have hsubset := hrel.2.2
    rw [hempty] at hsubset
    exact Or.inr (Set.subset_empty_iff.mp hsubset)

theorem under_reconcilePods (translator : PodService)
    (hdeleting : cr₀.deletionTimestamp.isSome) :
    Prog.Under (handle env) (deletion cr₀) (PodSync.reconcile translator cr₀.key)
      (fun _ w => Cleaned cr₀ w) w := by
  refine under_getPool ?_ ?_
  · intro cr w hspec
    have hns : (crToPoolModel cr).ns = cr₀.ns := congrArg ObjKey.ns hspec.key
    have hname : (crToPoolModel cr).name = cr₀.name := congrArg ObjKey.name hspec.key
    dsimp only
    rw [hspec.validate, hspec.deletionTimestamp, if_pos hdeleting]
    split
    · next hinvalid =>
        intro hvalid
        rw [hvalid] at hinvalid
        cases hinvalid
    · refine Prog.Under.bind (under_cleanupPoolPods hns hname) ?_
      rintro ⟨n, err⟩ w ⟨rfl, hempty⟩
      exact fun _ => Or.inr hempty
  · intro w hremoved _
    exact Or.inl hremoved

end

/-! ## The interleaving -/

/-- Reconciles of the pool controller, on the left, and of the pod controller.  The plan
says which of their calls fail. -/
abbrev Controllers (ι κ : Type) : Type :=
  Threads Call Call.Reply (fun _ : ι ⊕ κ => Result × Option Err) (Cluster × FaultPlan Err)

def finalization (ι κ : Type) (translator : PodService) (k : ObjKey)
    (s : Cluster × FaultPlan Err) : Controllers ι κ where
  shared := s
  prog
    | .inl _ => VNodePool.reconcile k
    | .inr _ => PodSync.reconcile translator k

/-- The finalizer is taken off a valid pool only, and after a reconcile of the
pod controller has returned none of whose calls failed. -/
def CleansFirst {ι κ : Type} (env : Env) (cr₀ : VNodePoolCR)
    (log : List ((ι ⊕ κ) × Event Call (Cluster × FaultPlan Err))) (t : Controllers ι κ)
    (i : ι ⊕ κ) : Prop :=
  ∀ cr rest, t.prog i = .call (.updateVNodePool cr) rest → poolFinalizer ∉ cr.finalizers →
    (crToPoolModel cr₀).validate = .ok () ∧
      ∃ j, (t.prog (.inr j)).result.isSome ∧ Threads.Unfailing (handle env) log (.inr j)

theorem finalizerRemoved_putPool_iff {k : ObjKey} {cr : VNodePoolCR} {w : Cluster} :
    FinalizerRemoved k (w.putPool cr) ↔
      if cr.key = k then poolFinalizer ∉ cr.finalizers else FinalizerRemoved k w := by
  split
  · next hkey =>
      have hget : (w.putPool cr).pools.get k = some cr := by
        rw [← hkey]
        exact Store.get_put_self w.pools cr
      simp [FinalizerRemoved, hget]
  · next hkey =>
      have hget : (w.putPool cr).pools.get k = w.pools.get k := Store.get_put_ne w.pools hkey
      simp only [FinalizerRemoved, hget]

theorem finalizerRemoved_of_update {env : Env} {k : ObjKey} {cr : VNodePoolCR} {w : Cluster}
    (hmem : poolFinalizer ∈ cr.finalizers)
    (hafter : FinalizerRemoved k (handle env (.updateVNodePool cr) w).2) :
    FinalizerRemoved k w := by
  simp only [handle] at hafter
  split at hafter
  · exact hafter
  · split at hafter
    · exact hafter
    · unfold Cluster.updatePool at hafter
      split at hafter
      · next hempty =>
          rw [hempty.2] at hmem
          cases hmem
      · rw [finalizerRemoved_putPool_iff] at hafter
        split at hafter
        · exact absurd hmem hafter
        · exact hafter

theorem finalizerRemoved_of_patch {env : Env} {k key : ObjKey} {base status : VNodePoolStatus}
    {w : Cluster}
    (hafter : FinalizerRemoved k (handle env (.patchVNodePoolStatus key base status) w).2) :
    FinalizerRemoved k w := by
  simp only [handle] at hafter
  split at hafter
  · exact hafter
  · next old hold =>
      rw [finalizerRemoved_putPool_iff] at hafter
      split at hafter
      · next hkey =>
          intro cr hcr
          have hsame : key = k := (Store.key_of_get hold).symm.trans hkey
          rw [hsame, hcr, Option.some.injEq] at hold
          rw [hold]
          exact hafter
      · exact hafter

theorem update_of_finalizerRemoved {env : Env} {k : ObjKey} {c : Call} {w : Cluster}
    (hbefore : ¬ FinalizerRemoved k w) (hafter : FinalizerRemoved k (handle env c w).2) :
    ∃ cr, c = .updateVNodePool cr ∧ poolFinalizer ∉ cr.finalizers := by
  cases hc : c.writesPools with
  | false =>
      unfold FinalizerRemoved at hafter
      rw [handle_pools env w hc] at hafter
      exact absurd hafter hbefore
  | true =>
      cases c with
      | updateVNodePool cr =>
          exact ⟨cr, rfl, fun hmem => hbefore (finalizerRemoved_of_update hmem hafter)⟩
      | patchVNodePoolStatus key base status =>
          exact absurd (finalizerRemoved_of_patch hafter) hbefore
      | _ => cases hc

/-- A call that fails takes the finalizer off as well, if it has its effect. -/
theorem update_of_faulty {env : Env} {k : ObjKey} {c : Call} {s : Cluster × FaultPlan Err}
    (hbefore : ¬ FinalizerRemoved k s.1)
    (hafter : FinalizerRemoved k (withFaults (handle env) c s).2.1) :
    ∃ cr, c = .updateVNodePool cr ∧ poolFinalizer ∉ cr.finalizers := by
  rcases withFaults_state (handle env) c s with hstate | hstate
  · rw [hstate] at hafter
    exact update_of_finalizerRemoved hbefore hafter
  · rw [hstate] at hafter
    exact absurd hafter hbefore

section

variable {ι κ : Type} {env : Env} {translator : PodService} {cr₀ : VNodePoolCR} {w : Cluster}
  {plan : FaultPlan Err}
  {allowed : List ((ι ⊕ κ) × Event Call (Cluster × FaultPlan Err)) → Controllers ι κ →
    ι ⊕ κ → Prop}
  {log : List ((ι ⊕ κ) × Event Call (Cluster × FaultPlan Err))} {t : Controllers ι κ}

theorem inv_start (hcr : w.pools.get cr₀.key = some cr₀) : (deletion cr₀).inv w := by
  intro cr hget
  rw [hcr, Option.some.injEq] at hget
  rw [← hget]
  rfl

theorem meets_controllers (hdeleting : cr₀.deletionTimestamp.isSome) (i : ι ⊕ κ) :
    Prog.Meets (deletionCalls cr₀) (fun _ => True)
      ((finalization ι κ translator cr₀.key (w, plan)).prog i) := by
  cases i with
  | inl i => exact meets_reconcilePool hdeleting
  | inr j => exact meets_reconcilePods translator hdeleting

/-- When a reconcile of the pod controller has returned without a failed call, the host
pods are cleaned up. -/
theorem cleaned_of_returned [DecidableEq ι] [DecidableEq κ] (hcr : w.pools.get cr₀.key = some cr₀)
    (hdeleting : cr₀.deletionTimestamp.isSome)
    (hrun : Threads.Runs (withFaults (handle env)) allowed
      (finalization ι κ translator cr₀.key (w, plan)) log t) {j : κ}
    (hreturned : (t.prog (.inr j)).result.isSome)
    (hunfailing : Threads.Unfailing (handle env) log (.inr j)) : Cleaned cr₀ t.shared.1 := by
  have hunder := hrun.under (deletionCalls_within env cr₀) (meets_controllers hdeleting)
    (inv_start hcr) (fun _ _ _ => Cleaned.rel) (under_reconcilePods translator hdeleting)
    hunfailing
  cases hprog : t.prog (.inr j) with
  | ret a =>
      rw [hprog] at hunder
      exact hunder
  | call c k =>
      rw [hprog] at hreturned
      cases hreturned

end

/-- In every run that cleans up first, whichever calls fail, the pool is not released
before its host pods are. -/
theorem finalization_releases_pods {ι κ : Type} [DecidableEq ι] [DecidableEq κ] (env : Env)
    (translator : PodService) (cr₀ : VNodePoolCR) (w : Cluster) (plan : FaultPlan Err)
    (hcr : w.pools.get cr₀.key = some cr₀) (hdeleting : cr₀.deletionTimestamp.isSome)
    (hfinalizer : poolFinalizer ∈ cr₀.finalizers)
    (log : List ((ι ⊕ κ) × Event Call (Cluster × FaultPlan Err))) (t : Controllers ι κ)
    (hrun : Threads.Runs (withFaults (handle env)) (CleansFirst env cr₀)
      (finalization ι κ translator cr₀.key (w, plan)) log t) :
    PodsReleased cr₀.key t.shared.1 := by
  induction hrun with
  | start =>
      intro hremoved
      exact absurd hfinalizer (hremoved cr₀ hcr)
  | @step log t t' i c rest hrun hallowed hcall hstep ih =>
      obtain ⟨hinv, hmeets⟩ := hrun.within (deletionCalls_within env cr₀)
        (meets_controllers hdeleting) (inv_start hcr)
      have hrel := Threads.Runs.rel_of_step (deletionCalls_within env cr₀) hinv (hmeets i) hstep
      have hempty : FinalizerRemoved cr₀.key t'.shared.1 → remaining cr₀.key t.shared.1 = ∅ := by
        intro hafter
        by_cases hbefore : FinalizerRemoved cr₀.key t.shared.1
        · exact ih hbefore
        · rw [(Threads.step_call hcall hstep).1] at hafter
          obtain ⟨cr, rfl, hgone⟩ := update_of_faulty hbefore hafter
          obtain ⟨hvalid, j, hreturned, hunfailing⟩ := hallowed cr rest hcall hgone
          have hcleaned := cleaned_of_returned hcr hdeleting hrun hreturned hunfailing
          exact (hcleaned hvalid).resolve_left hbefore
      intro hremoved
      have hsubset := hrel.2.2
      rw [hempty hremoved] at hsubset
      exact Set.subset_empty_iff.mp hsubset

/-! ### A pool released in time, and one released too early -/

def leavingPool : VNodePoolCR where
  name := "web"
  ns := "host"
  deletionTimestamp := some 1
  finalizers := [poolFinalizer]
  tenantRef := { vclusterName := "acme", vclusterNamespace := "acme", kubeconfigSecret := "acme" }

def leavingCluster : Cluster where
  tenants _ := {}
  pools := Store.empty.put leavingPool
  hostPods := Store.empty.put
    { spec := { name := "vnode-web-1-prod-shop", ns := "host", labels := ownerLabels "web" }
      status := { phase := .running } }

def lateDeletion : FaultPlan Err := fun n =>
  if n = 2 then some ⟨⟨.deadlineExceeded, "context deadline exceeded"⟩, false⟩ else none

theorem leavingPool_releases_pods :
    ∃ log, ∃ t : Controllers Unit Bool,
      Threads.Runs (withFaults (handle Env.plain)) (CleansFirst Env.plain leavingPool)
        (finalization Unit Bool ⟨""⟩ leavingPool.key (leavingCluster, lateDeletion)) log t ∧
      t.shared.1.pools.get leavingPool.key = none ∧
      ¬ Threads.Unfailing (handle Env.plain) log (.inr false) ∧
      PodsReleased leavingPool.key t.shared.1 := by
  have hrun : ∃ log, ∃ t : Controllers Unit Bool,
      Threads.Runs (withFaults (handle Env.plain)) (CleansFirst Env.plain leavingPool)
        (finalization Unit Bool ⟨""⟩ leavingPool.key (leavingCluster, lateDeletion)) log t ∧
      t.shared.1.pools.get leavingPool.key = none ∧
      ¬ Threads.Unfailing (handle Env.plain) log (.inr false) := by
    refine ⟨_, _, .alone (i := .inl ()) (.step (i := .inr true) (.step (i := .inr true)
      (.step (i := .inr true) (.step (i := .inr false) (.step (i := .inr false)
        (.step (i := .inr false) .start ?_ rfl rfl) ?_ rfl rfl) ?_ rfl rfl) ?_ rfl rfl)
        ?_ rfl rfl) ?_ rfl rfl) ?_, ?_, ?_⟩
    -- no reconcile of the pod controller updates the pool
    iterate 6
      · intro cr rest hcall
        cases hcall
    · intro es s p cr rest _ _
      refine ⟨rfl, true, rfl, Threads.Unfailing.append ?_ (by decide) es⟩
      intro x hx hi
      simp only [List.nil_append, List.cons_append, List.mem_cons, List.not_mem_nil,
        or_false] at hx
      rcases hx with rfl | rfl | rfl | rfl | rfl | rfl
      iterate 3
        · cases hi
      iterate 3
        · exact ⟨_, rfl⟩
    · decide
    · intro hunfailing
      obtain ⟨v, hv⟩ := hunfailing _ (List.mem_append_left _ (List.mem_append_left _
        (List.mem_append_left _ (List.mem_append_left _ (List.mem_append_right _
          List.mem_cons_self))))) rfl
      cases hv
  obtain ⟨log, t, hrun, hgone, hfailed⟩ := hrun
  exact ⟨log, t, hrun, hgone, hfailed, finalization_releases_pods Env.plain ⟨""⟩ leavingPool
    leavingCluster lateDeletion (by decide) (by decide) (by decide) log t hrun⟩

/-- A reconcile of the pool controller alone releases a valid pool while its
host pod runs on, although no call fails. -/
theorem leavingPool_released_early :
    (crToPoolModel leavingPool).validate = .ok () ∧
      ∃ t, Threads.Reaches (withFaults (handle Env.plain)) (fun _ _ => True)
          (finalization Unit Unit ⟨""⟩ leavingPool.key (leavingCluster, fun _ => none)) t ∧
        t.shared.1.pools.get leavingPool.key = none ∧
        ∃ p ∈ t.shared.1.hostPods.items, p.spec.ns = leavingPool.ns ∧
          matchesLabels (ownerLabels leavingPool.name) p.spec.labels = true ∧
          p.spec.deleting = false := by
  have hrun : ∃ t, Threads.follow (withFaults (handle Env.plain)) (List.replicate 8 (.inl ()))
        (finalization Unit Unit ⟨""⟩ leavingPool.key (leavingCluster, fun _ => none)) = some t ∧
      t.shared.1.pools.get leavingPool.key = none ∧
      ∃ p ∈ t.shared.1.hostPods.items, p.spec.ns = leavingPool.ns ∧
        matchesLabels (ownerLabels leavingPool.name) p.spec.labels = true ∧
        p.spec.deleting = false :=
    ⟨_, rfl, by decide, by decide⟩
  obtain ⟨t, hfollow, hgone, hpod⟩ := hrun
  exact ⟨rfl, t, Threads.reaches_follow .start hfollow, hgone, hpod⟩

end VNodeOperator.Pools
