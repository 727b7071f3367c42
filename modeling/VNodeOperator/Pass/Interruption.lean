import VNodeOperator.Pass.Rule
import VNodeOperator.Pass.Specification

/-!
# An interrupted pass

Any call of a pass may fail, with its effect or without, and most failures end the pass.
What it leaves is a part of what a complete pass does: each host pod and each tenant pod is
as it was before, or as the complete pass would have made it.
-/

namespace VNodeOperator.Pass

open Model Kube Adapter Ports ProofSupport Service NodeService PodExecution

structure PartialPass (env : Env) (translator : PodService) (cs : Clientset) (pool : VNodePool)
    (w w' : Cluster) : Prop where
  frame : Frame w w'
  tenants : w'.tenants =
    Function.update w.tenants cs { w.tenants cs with pods := (w'.tenants cs).pods }
  hostPod : ∀ p ∈ sourcePods env w cs pool,
    w'.hostPods.get (targetKey pool p) = w.hostPods.get (targetKey pool p) ∨
      w'.hostPods.get (targetKey pool p) =
        hostAfter env translator pool p (w.hostPods.get (targetKey pool p))
  otherHostPod : ∀ k, (∀ p ∈ sourcePods env w cs pool, targetKey pool p ≠ k) →
    w'.hostPods.get k = w.hostPods.get k ∨
      ∃ hp, w.hostPods.get k = some hp ∧ k.ns = pool.ns ∧ OwnedBy pool hp.spec.labels ∧
        w'.hostPods.get k = retired env hp
  tenantPod : ∀ p ∈ sourcePods env w cs pool, (w'.tenants cs).pods.get p.key = some p ∨
    ∃ status, Mirrors pool p w status ∧
      (w'.tenants cs).pods.get p.key = some (withPodStatus p status)
  otherTenantPod : ∀ k, (∀ p ∈ sourcePods env w cs pool, p.key ≠ k) →
    (w'.tenants cs).pods.get k = (w.tenants cs).pods.get k

section

variable {env : Env} {translator : PodService} {cs : Clientset} {pool : VNodePool}
  {p : CorePod} {w v v' : Cluster}

theorem PartialPass.refl (env : Env) (translator : PodService) (cs : Clientset)
    (pool : VNodePool) (w : Cluster) : PartialPass env translator cs pool w w where
  frame := Frame.refl w
  tenants := (Function.update_eq_self cs w.tenants).symm
  hostPod _ _ := Or.inl rfl
  otherHostPod _ _ := Or.inl rfl
  tenantPod _ hp := Or.inl (get_sourcePod hp)
  otherTenantPod _ _ := rfl

/-! ## One iteration -/

theorem hostAfter_eq_bind
    (h : isTerminalPod p = true ∨ Drifted translator pool p w) :
    hostAfter env translator pool p (w.hostPods.get (targetKey pool p)) =
      (w.hostPods.get (targetKey pool p)).bind (retired env) := by
  rcases h with hterminal | ⟨cur, hcur, hdeleting, hequal⟩
  · cases w.hostPods.get (targetKey pool p) <;> simp [hostAfter, hterminal]
  · rw [hcur]
    cases hterminal : isTerminalPod p <;> simp [hostAfter, hterminal, hdeleting, hequal]

theorem PodStep.hostPod (hstep : PodStep env translator cs pool p w v) :
    v.hostPods.get (targetKey pool p) = w.hostPods.get (targetKey pool p) ∨
      v.hostPods.get (targetKey pool p) =
        hostAfter env translator pool p (w.hostPods.get (targetKey pool p)) := by
  rcases hstep.hostPods with hsame | ⟨hlive, hnone, shown, hshown, hadded⟩ | ⟨hreason, hremoved⟩
  · exact Or.inl (by rw [hsame])
  · right
    rw [hadded, get_addPod hshown, hnone]
    simp [hostAfter, hlive, createdPod, hshown]
  · right
    rw [hremoved, get_removePod_self, hostAfter_eq_bind hreason]

theorem PodStep.tenantPod (hstep : PodStep env translator cs pool p w v)
    (hp : (w.tenants cs).pods.get p.key = some p) :
    (v.tenants cs).pods.get p.key = some p ∨
      ∃ status, Mirrors pool p w status ∧
        (v.tenants cs).pods.get p.key = some (withPodStatus p status) := by
  rcases hstep.tenants with hsame | ⟨old, status, hold, hmirrors, hput⟩
  · exact Or.inl (hsame ▸ hp)
  · right
    rw [hp, Option.some.injEq] at hold
    subst hold
    refine ⟨status, hmirrors, ?_⟩
    rw [hput]
    simp only [Cluster.putTenantPod, Cluster.setTenant, Function.update_self]
    exact Store.get_put_self _ (withPodStatus p status)

/-! ## The loop -/

/-- Where a pass from `w` has come to: the source pods of `rest` are still to be handled. -/
structure Midway (env : Env) (translator : PodService) (cs : Clientset) (pool : VNodePool)
    (w : Cluster) (rest : List CorePod) (desired : List String) (v : Cluster) : Prop where
  done : PartialPass env translator cs pool w v
  split : ∃ handled, sourcePods env w cs pool = handled ++ rest ∧
    ∀ p ∈ handled, keyForPod pool.ns (targetKey pool p).name ∈ desired
  ahead : ∀ p ∈ rest, podView cs pool p v = podView cs pool p w
  others : ∀ k, (∀ p ∈ sourcePods env w cs pool, targetKey pool p ≠ k) →
    v.hostPods.get k = w.hostPods.get k

theorem podsApart_of_mem {q : CorePod}
    (hdistinct : ((sourcePods env w cs pool).map (targetKey pool)).Nodup)
    (hp : p ∈ sourcePods env w cs pool) (hq : q ∈ sourcePods env w cs pool) (hne : p ≠ q) :
    PodsApart pool p q := by
  refine ⟨fun hkey => hne (List.inj_on_of_nodup_map hdistinct hp hq hkey), fun hkey => hne ?_⟩
  exact List.inj_on_of_nodup_map (w.tenants cs).pods.nodup (List.mem_filter.mp hp).1
    (List.mem_filter.mp hq).1 hkey

theorem PodStep.podView_apart {q : CorePod} (hstep : PodStep env translator cs pool p v v')
    (h : PodsApart pool p q) : podView cs pool q v' = podView cs pool q v := by
  rw [podView, hstep.get_hostPods_ne h.1, hstep.get_tenantPod_ne h.2, podView]

/-- The state of the others decides neither what an iteration does nor what it mirrors. -/
theorem Mirrors.congr {status : PodStatus}
    (hget : v.hostPods.get (targetKey pool p) = w.hostPods.get (targetKey pool p))
    (h : Mirrors pool p v status) : Mirrors pool p w status := by
  unfold Mirrors at h ⊢
  rwa [hget] at h

theorem PartialPass.step (hdistinct : ((sourcePods env w cs pool).map (targetKey pool)).Nodup)
    (h : PartialPass env translator cs pool w v) (hp : p ∈ sourcePods env w cs pool)
    (hahead : podView cs pool p v = podView cs pool p w)
    (hothers : ∀ k, (∀ p ∈ sourcePods env w cs pool, targetKey pool p ≠ k) →
      v.hostPods.get k = w.hostPods.get k)
    (hstep : PodStep env translator cs pool p v v') :
    PartialPass env translator cs pool w v' := by
  obtain ⟨hhost, htenant⟩ := Prod.mk.inj hahead
  refine ⟨h.frame.trans hstep.frame, ?_, ?_, ?_, ?_, ?_⟩
  · rw [hstep.tenants_eq]
    simp only [Function.update_self]
    rw [h.tenants]
    simp only [Function.update_idem, Function.update_self]
  · intro q hq
    by_cases hqp : p = q
    · subst hqp
      rw [← hhost]
      exact hstep.hostPod
    · rw [hstep.get_hostPods_ne (podsApart_of_mem hdistinct hp hq hqp).1]
      exact h.hostPod q hq
  · intro k hk
    left
    rw [hstep.get_hostPods_ne (hk p hp), hothers k hk]
  · intro q hq
    by_cases hqp : p = q
    · subst hqp
      rw [get_sourcePod hp] at htenant
      exact (hstep.tenantPod htenant).imp_right
        fun ⟨status, hmirrors, hget⟩ => ⟨status, hmirrors.congr hhost, hget⟩
    · rw [hstep.get_tenantPod_ne (podsApart_of_mem hdistinct hp hq hqp).2]
      exact h.tenantPod q hq
  · intro k hk
    rw [hstep.get_tenantPod_ne (hk p hp)]
    exact h.otherTenantPod k hk

theorem Midway.step {rest : List CorePod} {desired : List String}
    (hdistinct : ((sourcePods env w cs pool).map (targetKey pool)).Nodup)
    (h : Midway env translator cs pool w (p :: rest) desired v)
    (hstep : PodStep env translator cs pool p v v') :
    Midway env translator cs pool w rest
      (keyForPod pool.ns (targetKey pool p).name :: desired) v' := by
  obtain ⟨handled, hsplit, hdesired⟩ := h.split
  have hmem : ∀ q ∈ p :: rest, q ∈ sourcePods env w cs pool := by
    intro q hq
    rw [hsplit]
    exact List.mem_append_right _ hq
  have hnew : p ∉ rest := by
    have hnodup : (handled ++ p :: rest).Nodup := hsplit ▸ hdistinct.of_map _
    exact (List.nodup_cons.mp (List.nodup_append.mp hnodup).2.1).1
  refine ⟨h.done.step hdistinct (hmem p List.mem_cons_self) (h.ahead p List.mem_cons_self)
    h.others hstep, ⟨handled ++ [p], ?_, ?_⟩, ?_, ?_⟩
  · rw [hsplit, List.append_assoc]
    rfl
  · intro q hq
    rcases List.mem_append.mp hq with hq | hq
    · exact List.mem_cons_of_mem _ (hdesired q hq)
    · rw [List.mem_singleton.mp hq]
      exact List.mem_cons_self
  · intro q hq
    have hne : p ≠ q := fun heq => hnew (heq ▸ hq)
    rw [hstep.podView_apart (podsApart_of_mem hdistinct (hmem p List.mem_cons_self)
      (hmem q (List.mem_cons_of_mem p hq)) hne)]
    exact h.ahead q (List.mem_cons_of_mem p hq)
  · intro k hk
    rw [hstep.get_hostPods_ne (hk p (hmem p List.mem_cons_self))]
    exact h.others k hk

/-! ## The cleanup -/

/-- An orphan is a host pod of the pool that no source pod is translated to. -/
theorem Midway.orphan (hns : pool.ns ≠ "") {desired : List String} {hp : HostPod}
    (h : Midway env translator cs pool w [] desired v) (hhp : hp ∈ v.hostPods.items)
    (horphan : Orphan pool desired hp) :
    (∀ p ∈ sourcePods env w cs pool, targetKey pool p ≠ hp.key) ∧
      w.hostPods.get hp.key = some hp ∧ hp.key.ns = pool.ns ∧ OwnedBy pool hp.spec.labels := by
  obtain ⟨handled, hsplit, hdesired⟩ := h.split
  obtain ⟨hpns, howned, hundesired⟩ := horphan
  rw [List.append_nil] at hsplit
  have hoff : ∀ p ∈ sourcePods env w cs pool, targetKey pool p ≠ hp.key := by
    intro p hp' hkey
    rw [HostPod.key, targetKey, ObjKey.mk.injEq] at hkey
    apply hundesired
    rw [← hkey.1, ← hkey.2]
    exact hdesired p (hsplit ▸ hp')
  exact ⟨hoff, (h.others hp.key hoff).symm.trans (Store.get_of_mem hhp), hpns.resolve_left hns,
    howned⟩

theorem PartialPass.removePod {hp : HostPod} (h : PartialPass env translator cs pool w v)
    (hoff : ∀ p ∈ sourcePods env w cs pool, targetKey pool p ≠ hp.key)
    (hget : w.hostPods.get hp.key = some hp) (hns : hp.key.ns = pool.ns)
    (howned : OwnedBy pool hp.spec.labels) :
    PartialPass env translator cs pool w (v.removePod env hp.key) := by
  have hvnodes : (v.removePod env hp.key).vnodes = v.vnodes := by rw [Cluster.removePod_eq]
  have htenants : (v.removePod env hp.key).tenants = v.tenants := by rw [Cluster.removePod_eq]
  refine ⟨h.frame.trans (Frame.of_eq hvnodes htenants), ?_, ?_, ?_, ?_, ?_⟩
  · rw [htenants]
    exact h.tenants
  · intro p hp'
    rw [Cluster.get_removePod_ne env v (hoff p hp').symm]
    exact h.hostPod p hp'
  · intro k hk
    by_cases hkey : hp.key = k
    · subst hkey
      right
      refine ⟨hp, hget, hns, howned, ?_⟩
      rw [get_removePod_self]
      rcases h.otherHostPod hp.key hk with hsame | ⟨old, hold, _, _, hretired⟩
      · rw [hsame, hget, Option.bind_some]
      · rw [hget, Option.some.injEq] at hold
        subst hold
        have htwice := retired_bind_retired env (some hp)
        rw [Option.bind_some] at htwice
        rw [hretired, htwice]
    · rw [Cluster.get_removePod_ne env v hkey]
      exact h.otherHostPod k hk
  · rw [htenants]
    exact h.tenantPod
  · rw [htenants]
    exact h.otherTenantPod

theorem robust_partialPass (translator : PodService)
    (hconnect : env.connect pool.tenantRef = .ok cs) (hns : pool.ns ≠ "")
    (hdistinct : ((sourcePods env w cs pool).map (targetKey pool)).Nodup) :
    Robust (handle env) (fun _ => True) (reconcilePool translator pool)
      (fun _ w' => PartialPass env translator cs pool w w') w := by
  refine robust_reconcilePool (Midway env translator cs pool w)
    (PartialPass env translator cs pool w) (fun _ _ => trivial) (.refl env translator cs pool w)
    (fun _ _ _ h => h.done) ?_ ?_ ?_
  · intro cs' hcs'
    obtain rfl : cs = cs' := Except.ok.inj (hconnect.symm.trans hcs')
    exact ⟨.refl env translator cs pool w, ⟨[], rfl, fun _ h => absurd h List.not_mem_nil⟩,
      fun _ _ => rfl, fun _ _ => rfl⟩
  · intro cs' hcs' p rest desired v h
    obtain rfl : cs = cs' := Except.ok.inj (hconnect.symm.trans hcs')
    exact ⟨fun _ _ => trivial, fun v' hstep => h.step hdistinct hstep⟩
  · intro desired v h
    refine ⟨PartialPass env translator cs pool w, h.done, fun _ h => h, ?_⟩
    intro hp hhp horphan
    obtain ⟨hoff, hget, hkns, howned⟩ := h.orphan hns hhp horphan
    exact ⟨trivial, fun v' hv' => hv'.removePod hoff hget hkns howned⟩

end

/-- Whatever fails, a pass does to each host pod and each tenant pod what it is to do, or
nothing. -/
theorem interrupted_pass_does_no_harm (env : Env) (translator : PodService) (cs : Clientset)
    (pool : VNodePool) (w : Cluster) (hconnect : env.connect pool.tenantRef = .ok cs)
    (hns : pool.ns ≠ "")
    (hdistinct : ((sourcePods env w cs pool).map (targetKey pool)).Nodup)
    (plan : FaultPlan Err) :
    PartialPass env translator cs pool w
      ((reconcilePool translator pool).run (withFaults (handle env)) (w, plan)).2.1 :=
  (robust_partialPass translator hconnect hns hdistinct plan).2

/-- The fifth call, which deletes the drifted host pod, is lost after it took effect. -/
def lostReply : FaultPlan Err := fun n => if n = 4 then some ⟨⟨.other, "lost"⟩, true⟩ else none

theorem driftedCluster_interrupted :
    let w' := ((reconcilePool ⟨"kata"⟩ (acmePool 1)).run (withFaults (handle Env.plain))
      (driftedCluster, lostReply)).2.1
    w'.hostPods.items.length = 1 ∧
      PartialPass Env.plain ⟨"kata"⟩ ⟨"acme"⟩ (acmePool 1) driftedCluster w' :=
  ⟨by decide, interrupted_pass_does_no_harm Env.plain ⟨"kata"⟩ ⟨"acme"⟩ (acmePool 1)
    driftedCluster rfl (by decide) (by decide) lostReply⟩

end VNodeOperator.Pass
