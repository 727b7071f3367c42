import VNodeOperator.Pass.Frame
import VNodeOperator.Pass.Rule

/-!
# What two passes reach

On a host that stores pods as they are created and deletes them at once, with
no terminal pods on either side and distinct translated names, the first pass
leaves only matching pods and no orphans, and the second one creates what is
missing.
-/

namespace VNodeOperator.Pass

open Model Kube Adapter Ports ProofSupport Service PodExecution

structure FaithfulHost (env : Env) : Prop where
  stores : ∀ pod, env.storePod pod = .ok pod
  deletes : ∀ hp, env.graceful hp = false

def Running (w : Cluster) : Prop :=
  ∀ hp ∈ w.hostPods.items, hp.spec.deleting = false ∧ isTerminalPhase hp.status.phase = false

structure Orderly (env : Env) (cs : Clientset) (pool : VNodePool) (w : Cluster) : Prop where
  live : ∀ p ∈ sourcePods env w cs pool, isTerminalPod p = false
  distinct : ((sourcePods env w cs pool).map (targetKey pool)).Nodup
  running : Running w

section

variable {env : Env} {translator : PodService} {cs : Clientset} {pool : VNodePool}
  {p : CorePod} {w w' : Cluster}

/-! ## Running host pods -/

theorem hostPods_removePod (hhost : FaithfulHost env) (hw : Running w) (k : ObjKey) :
    (w.removePod env k).hostPods = w.hostPods.erase k := by
  unfold Cluster.removePod
  split
  · next hnone => rw [Store.erase_of_none hnone]
  · next hp hhp =>
      have hdeleting := (hw hp (Store.mem_of_get hhp)).1
      simp only [hdeleting, hhost.deletes, Bool.false_eq_true, if_false]

theorem Running.removePod (hhost : FaithfulHost env) (hw : Running w) (k : ObjKey) :
    Running (w.removePod env k) := by
  intro hp hhp
  rw [hostPods_removePod hhost hw] at hhp
  exact hw hp (Store.mem_erase.mp hhp).1

theorem Running.podStep (hhost : FaithfulHost env) (hw : Running w)
    (hstep : PodStep env translator cs pool p w w') : Running w' := by
  intro hp hhp
  rcases hstep.hostPods with hsame | ⟨_, _, shown, hshown, hadded⟩ | ⟨_, hremoved⟩
  · rw [hsame] at hhp
    exact hw hp hhp
  · rw [hadded] at hhp
    rw [hhost.stores, Except.ok.injEq] at hshown
    rcases Store.mem_put.mp hhp with rfl | ⟨hold, _⟩
    · rw [← hshown]
      exact ⟨rfl, rfl⟩
    · exact hw hp hold
  · rw [hremoved] at hhp
    exact hw.removePod hhost _ hp hhp

/-! ## Orderly states -/

theorem targetKey_shape (pool : VNodePool) (p : CorePod) :
    targetKey pool (shape p) = targetKey pool p := rfl

theorem targetPod_shape (translator : PodService) (pool : VNodePool) (p : CorePod) :
    targetPod translator pool (shape p) = targetPod translator pool p := rfl

theorem Frame.targetKeys (h : Frame w w') (env : Env) (cs : Clientset) (pool : VNodePool) :
    (Pass.sourcePods env w' cs pool).map (targetKey pool) =
      (Pass.sourcePods env w cs pool).map (targetKey pool) := by
  have hshape : ∀ ps : List CorePod, ps.map (targetKey pool) =
      (ps.map shape).map (targetKey pool) := by
    intro ps
    rw [List.map_map]
    rfl
  rw [hshape, h.sourcePods, ← hshape]

theorem live_podStep (hw : Running w)
    (hlive : ∀ q ∈ sourcePods env w cs pool, isTerminalPod q = false)
    (hstep : PodStep env translator cs pool p w w') :
    ∀ q ∈ sourcePods env w' cs pool, isTerminalPod q = false := by
  intro q hq
  obtain ⟨hmem, hsource⟩ := List.mem_filter.mp hq
  rw [Cluster.poolVNodes, hstep.vnodes] at hsource
  have hold : q ∈ (w.tenants cs).pods.items → isTerminalPod q = false := fun hmem =>
    hlive q (List.mem_filter.mpr ⟨hmem, hsource⟩)
  rcases hstep.tenants with hsame | ⟨old, status, _, hmirrors, hput⟩
  · rw [hsame] at hmem
    exact hold hmem
  · rw [hput] at hmem
    simp only [Cluster.putTenantPod, Cluster.setTenant, Function.update_self] at hmem
    rcases Store.mem_put.mp hmem with rfl | ⟨hmem, _⟩
    · rcases hmirrors with ⟨hp, hhp, rfl⟩ | ⟨_, _, rfl⟩
      · exact (hw hp (Store.mem_of_get hhp)).2
      · rfl
    · exact hold hmem

theorem Orderly.podStep (hhost : FaithfulHost env) (hw : Orderly env cs pool w)
    (hstep : PodStep env translator cs pool p w w') : Orderly env cs pool w' := by
  refine ⟨live_podStep hw.running hw.live hstep, ?_, hw.running.podStep hhost hstep⟩
  rw [hstep.frame.targetKeys]
  exact hw.distinct

theorem Orderly.iterations (hhost : FaithfulHost env) (hw : Orderly env cs pool w)
    (ps : List CorePod) : Orderly env cs pool (iterations env translator cs pool ps w) := by
  induction ps generalizing w with
  | nil => exact hw
  | cons p ps ih => exact ih (hw.podStep hhost (podStep_iterated env translator cs pool p w))

/-! ## Host pods after a pass -/

/-- What an iteration over `p` makes of the host pod under its name: a missing one
is created, a drifted one deleted. -/
def settle (translator : PodService) (pool : VNodePool) (p : CorePod) :
    Option HostPod → Option HostPod
  | none => some ⟨targetPod translator pool p, { phase := .pending }⟩
  | some hp => if podSpecsEqual hp.spec (targetPod translator pool p) then some hp else none

theorem get_iterated_self (hhost : FaithfulHost env) (hw : Running w)
    (hlive : isTerminalPod p = false) :
    (iterated env translator cs pool p w).hostPods.get (targetKey pool p) =
      settle translator pool p (w.hostPods.get (targetKey pool p)) := by
  cases hget : w.hostPods.get (targetKey pool p) with
  | none =>
      have hshown := hhost.stores (targetPod translator pool p)
      rw [hostPods_iterated_created hlive hget hshown, get_addPod hshown]
      rfl
  | some hp =>
      by_cases hequal : podSpecsEqual hp.spec (targetPod translator pool p) = true
      · rw [hostPods_iterated_kept hlive hget hequal, hget]
        simp only [settle, hequal, if_true]
      · have hdeleting := (hw hp (Store.mem_of_get hget)).1
        have hdrifted : Drifted translator pool p w :=
          ⟨hp, hget, hdeleting, by simpa using hequal⟩
        rw [hostPods_iterated_removed (Or.inr hdrifted), hostPods_removePod hhost hw,
          Store.get_erase_self, settle, if_neg hequal]

theorem get_iterations_ne (ps : List CorePod) {k : ObjKey}
    (hk : ∀ p ∈ ps, targetKey pool p ≠ k) :
    (iterations env translator cs pool ps w).hostPods.get k = w.hostPods.get k := by
  induction ps generalizing w with
  | nil => rfl
  | cons p ps ih =>
      change (iterations env translator cs pool ps
        (iterated env translator cs pool p w)).hostPods.get k = _
      rw [ih fun q hq => hk q (List.mem_cons_of_mem p hq)]
      exact (podStep_iterated env translator cs pool p w).get_hostPods_ne (hk p List.mem_cons_self)

theorem get_iterations (hhost : FaithfulHost env) (hw : Running w) {ps : List CorePod}
    (hlive : ∀ p ∈ ps, isTerminalPod p = false) (hdistinct : (ps.map (targetKey pool)).Nodup) :
    ∀ p ∈ ps, (iterations env translator cs pool ps w).hostPods.get (targetKey pool p) =
      settle translator pool p (w.hostPods.get (targetKey pool p)) := by
  induction ps generalizing w with
  | nil => simp
  | cons q ps ih =>
      rw [List.map_cons, List.nodup_cons] at hdistinct
      obtain ⟨hnew, hdistinct⟩ := hdistinct
      have hstep := podStep_iterated env translator cs pool q w
      have hne : ∀ p ∈ ps, targetKey pool p ≠ targetKey pool q := by
        intro p hp hkey
        exact hnew (hkey ▸ List.mem_map_of_mem hp)
      intro p hp
      change (iterations env translator cs pool ps
        (iterated env translator cs pool q w)).hostPods.get (targetKey pool p) = _
      rcases List.mem_cons.mp hp with rfl | hp
      · rw [get_iterations_ne ps hne, get_iterated_self hhost hw (hlive p List.mem_cons_self)]
      · rw [ih (hw.podStep hhost hstep) (fun p hp => hlive p (List.mem_cons_of_mem q hp))
          hdistinct p hp, hstep.get_hostPods_ne (hne p hp).symm]

theorem get_cleaned (hhost : FaithfulHost env) (hw : Running w) (ps : List CorePod)
    (k : ObjKey) :
    (cleaned env pool ps w).hostPods.get k =
      if k ∈ (orphans pool ps w).map HostPod.key then none else w.hostPods.get k := by
  unfold cleaned
  generalize orphans pool ps w = hosts
  induction hosts generalizing w with
  | nil => simp
  | cons hp hosts ih =>
      rw [List.foldl_cons, ih (hw.removePod hhost hp.key), hostPods_removePod hhost hw,
        Store.get_erase, List.map_cons]
      by_cases hk : k ∈ hosts.map HostPod.key
      · rw [if_pos hk, if_pos (List.mem_cons_of_mem _ hk)]
      · rw [if_neg hk]
        by_cases hkey : k = hp.key
        · rw [hkey, if_pos rfl, if_pos List.mem_cons_self]
        · rw [if_neg (Ne.symm hkey), if_neg]
          intro hmem
          exact (List.mem_cons.mp hmem).elim hkey hk

theorem Orderly.cleaned (hhost : FaithfulHost env) (hw : Orderly env cs pool w)
    (ps : List CorePod) : Orderly env cs pool (cleaned env pool ps w) := by
  have hsource : sourcePods env (Pass.cleaned env pool ps w) cs pool =
      sourcePods env w cs pool := by
    rw [cleaned_eq]
    rfl
  refine ⟨?_, ?_, ?_⟩
  · rw [hsource]
    exact hw.live
  · rw [hsource]
    exact hw.distinct
  · intro hp hhp
    have hget := Store.get_of_mem hhp
    rw [get_cleaned hhost hw.running] at hget
    split at hget
    · cases hget
    · exact hw.running hp (Store.mem_of_get hget)

theorem Orderly.passed (hhost : FaithfulHost env) (hw : Orderly env cs pool w) :
    Orderly env cs pool (passed env translator cs pool w) :=
  (hw.iterations hhost _).cleaned hhost _

theorem mem_orphans {ps : List CorePod} {hp : HostPod} :
    hp ∈ orphans pool ps w ↔ hp ∈ w.hostPods.items ∧ Orphan pool (desiredKeys pool ps) hp := by
  unfold orphans Orphan
  simp only [List.mem_filter, mem_podsByLabels, decide_eq_true_eq, and_assoc]

theorem targetKey_not_orphan {ps : List CorePod} (hp : p ∈ ps) :
    targetKey pool p ∉ (orphans pool ps w).map HostPod.key := by
  intro hmem
  obtain ⟨orphan, horphan, hkey⟩ := List.mem_map.mp hmem
  obtain ⟨_, _, _, hundesired⟩ := mem_orphans.mp horphan
  rw [HostPod.key, targetKey, ObjKey.mk.injEq] at hkey
  apply hundesired
  rw [hkey.1, hkey.2]
  exact List.mem_map_of_mem hp

theorem get_passed (hhost : FaithfulHost env) (hw : Orderly env cs pool w)
    (hp : p ∈ sourcePods env w cs pool) :
    (passed env translator cs pool w).hostPods.get (targetKey pool p) =
      settle translator pool p (w.hostPods.get (targetKey pool p)) := by
  have hiterated : Orderly env cs pool
      (iterations env translator cs pool (sourcePods env w cs pool) w) := hw.iterations hhost _
  rw [passed, get_cleaned hhost hiterated.running, if_neg (targetKey_not_orphan hp),
    get_iterations hhost hw.running hw.live hw.distinct p hp]

/-! ## Two passes -/

/-- What one pass reaches: the host pods of source pods match them, and there are
no orphans. -/
structure Matching (env : Env) (translator : PodService) (cs : Clientset) (pool : VNodePool)
    (w : Cluster) : Prop where
  equal : ∀ p ∈ sourcePods env w cs pool, ∀ hp, w.hostPods.get (targetKey pool p) = some hp →
    podSpecsEqual hp.spec (targetPod translator pool p) = true
  noOrphans : ∀ hp ∈ w.hostPods.items,
    ¬ Orphan pool (desiredKeys pool (sourcePods env w cs pool)) hp

/-- What two passes reach: besides, no host pod is missing. -/
structure Settled (env : Env) (translator : PodService) (cs : Clientset) (pool : VNodePool)
    (w : Cluster) : Prop extends Matching env translator cs pool w where
  present : ∀ p ∈ sourcePods env w cs pool, w.hostPods.get (targetKey pool p) ≠ none

theorem settle_eq_some {o : Option HostPod} {hp : HostPod}
    (h : settle translator pool p o = some hp) :
    podSpecsEqual hp.spec (targetPod translator pool p) = true := by
  unfold settle at h
  split at h
  · cases h
    exact podSpecsEqual_refl _
  · split at h
    · next hequal =>
        cases h
        exact hequal
    · cases h

theorem settle_ne_none {o : Option HostPod}
    (h : ∀ hp, o = some hp → podSpecsEqual hp.spec (targetPod translator pool p) = true) :
    settle translator pool p o ≠ none := by
  cases o with
  | none => simp [settle]
  | some hp => simp [settle, h hp rfl]

theorem Frame.exists_sourcePod (h : Frame w w') {q : CorePod}
    (hq : q ∈ Pass.sourcePods env w' cs pool) :
    ∃ p ∈ Pass.sourcePods env w cs pool, shape p = shape q := by
  have hmem : shape q ∈ (Pass.sourcePods env w' cs pool).map shape := List.mem_map_of_mem hq
  rw [h.sourcePods] at hmem
  obtain ⟨p, hp, hshape⟩ := List.mem_map.mp hmem
  exact ⟨p, hp, hshape⟩

theorem get_passed_next (hhost : FaithfulHost env) (hw : Orderly env cs pool w) {q : CorePod}
    (hq : q ∈ sourcePods env (passed env translator cs pool w) cs pool) :
    ∃ p ∈ sourcePods env w cs pool, targetKey pool q = targetKey pool p ∧
      targetPod translator pool q = targetPod translator pool p ∧
      (passed env translator cs pool w).hostPods.get (targetKey pool q) =
        settle translator pool p (w.hostPods.get (targetKey pool p)) := by
  obtain ⟨p, hp, hshape⟩ := (frame_passed env translator cs pool w).exists_sourcePod hq
  have hkey : targetKey pool q = targetKey pool p := by
    rw [← targetKey_shape pool q, ← hshape, targetKey_shape]
  refine ⟨p, hp, hkey, ?_, ?_⟩
  · rw [← targetPod_shape translator pool q, ← hshape, targetPod_shape]
  · rw [hkey, get_passed hhost hw hp]

theorem noOrphans_passed (hhost : FaithfulHost env) (hw : Orderly env cs pool w) :
    ∀ hp ∈ (passed env translator cs pool w).hostPods.items, ¬ Orphan pool
      (desiredKeys pool (sourcePods env (passed env translator cs pool w) cs pool)) hp := by
  intro hp hhp horphan
  have hdesired : desiredKeys pool (sourcePods env (passed env translator cs pool w) cs pool) =
      desiredKeys pool (sourcePods env w cs pool) := by
    have hkeys := (frame_passed env translator cs pool w).targetKeys env cs pool
    have hkeyed : ∀ ps : List CorePod, desiredKeys pool ps =
        (ps.map (targetKey pool)).map (fun k => keyForPod pool.ns k.name) := by
      intro ps
      rw [List.map_map]
      rfl
    rw [hkeyed, hkeys, ← hkeyed]
  rw [hdesired] at horphan
  have hiterated : Orderly env cs pool
      (iterations env translator cs pool (sourcePods env w cs pool) w) := hw.iterations hhost _
  -- a pod that is left was there before the cleanup, which would have deleted it
  have hget := Store.get_of_mem hhp
  rw [passed, get_cleaned hhost hiterated.running] at hget
  split at hget
  · cases hget
  · next hkept =>
      apply hkept
      exact List.mem_map_of_mem (mem_orphans.mpr ⟨Store.mem_of_get hget, horphan⟩)

theorem passed_matching (hhost : FaithfulHost env) (hw : Orderly env cs pool w) :
    Matching env translator cs pool (passed env translator cs pool w) := by
  refine ⟨?_, noOrphans_passed hhost hw⟩
  intro q hq hp hget
  obtain ⟨p, _, _, htarget, hsettle⟩ := get_passed_next hhost hw hq
  rw [hsettle] at hget
  rw [htarget]
  exact settle_eq_some hget

theorem passed_settled (hhost : FaithfulHost env) (hw : Orderly env cs pool w)
    (hmatching : Matching env translator cs pool w) :
    Settled env translator cs pool (passed env translator cs pool w) := by
  refine ⟨passed_matching hhost hw, ?_⟩
  intro q hq
  obtain ⟨p, hp, _, _, hsettle⟩ := get_passed_next hhost hw hq
  rw [hsettle]
  exact settle_ne_none (hmatching.equal p hp)

end

end VNodeOperator.Pass
