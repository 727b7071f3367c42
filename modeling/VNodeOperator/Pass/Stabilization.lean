import VNodeOperator.Pass.Interruption

/-!
# The desired host pods, from any clusters

A host that deletes gracefully keeps a pod for a while after a pass has deleted
it, pods finish while passes go on, and passes are interrupted.  Whatever the
clusters were, the first complete pass leaves no host pod of the pool in place
that does not match an unfinished source pod.  From the second one on an
unfinished source pod runs as a matching host pod, unless its old one is still on
its way out, and the tenant is shown the status of that pod.
-/

namespace VNodeOperator.Pass

open Model Kube Adapter Ports ProofSupport Service NodeService PodExecution

/-- The host accepts the pods of the pool, and shows each as equal to what was
asked for. -/
def Accepting (env : Env) (translator : PodService) (pool : VNodePool) : Prop :=
  ∀ p, ∃ shown, env.storePod (targetPod translator pool p) = .ok shown ∧
    podSpecsEqual shown (targetPod translator pool p) = true ∧ shown.deleting = false

/-- What the host does on its own: it finishes some of the deletions and reports
any statuses. -/
structure HostStep (w w' : Cluster) : Prop where
  rest : w' = { w with hostPods := w'.hostPods }
  specs : ∀ k hp, w'.hostPods.get k = some hp →
    ∃ old, w.hostPods.get k = some old ∧ old.spec = hp.spec
  kept : ∀ k old, w.hostPods.get k = some old → old.spec.deleting = false →
    w'.hostPods.get k ≠ none

/-- Complete passes of a pool, counted, with steps of the host and interrupted passes
between them. -/
inductive HostedPasses (env : Env) (translator : PodService) (pool : VNodePool) :
    Nat → Cluster → Cluster → Prop where
  | start (w : Cluster) : HostedPasses env translator pool 0 w w
  | host {n : Nat} {w v v' : Cluster} : HostedPasses env translator pool n w v →
      HostStep v v' → HostedPasses env translator pool n w v'
  | interrupted {n : Nat} {w v : Cluster} (plan : FaultPlan Err) :
      HostedPasses env translator pool n w v → HostedPasses env translator pool n w
        ((reconcilePool translator pool).run (withFaults (handle env)) (v, plan)).2.1
  | pass {n : Nat} {w v : Cluster} : HostedPasses env translator pool n w v →
      HostedPasses env translator pool (n + 1) w
        ((reconcilePool translator pool).run (handle env) v).2

def Leaving (pool : VNodePool) (p : CorePod) (w : Cluster) : Prop :=
  ∃ hp, w.hostPods.get (targetKey pool p) = some hp ∧ hp.spec.deleting = true

structure Stabilized (env : Env) (translator : PodService) (cs : Clientset) (pool : VNodePool)
    (v w' : Cluster) : Prop where
  running : ∀ p ∈ sourcePods env v cs pool, isTerminalPod p = false → ¬ Leaving pool p v →
    ∃ hp, w'.hostPods.get (targetKey pool p) = some hp ∧ hp.spec.deleting = false ∧
      podSpecsEqual hp.spec (targetPod translator pool p) = true ∧
      (w'.tenants cs).pods.get p.key = some (withPodStatus p hp.status)
  finished : ∀ p ∈ sourcePods env v cs pool, isTerminalPod p = true →
    ∀ hp, w'.hostPods.get (targetKey pool p) = some hp → hp.spec.deleting = true
  nothingElse : ∀ hp ∈ w'.hostPods.items, hp.spec.ns = pool.ns →
    OwnedBy pool hp.spec.labels → hp.spec.deleting = false →
    ∃ p ∈ sourcePods env v cs pool, isTerminalPod p = false ∧ hp.key = targetKey pool p ∧
      podSpecsEqual hp.spec (targetPod translator pool p) = true

def Compared (env : Env) (translator : PodService) (cs : Clientset) (pool : VNodePool)
    (w : Cluster) : Prop :=
  ∀ p ∈ sourcePods env w cs pool, ∀ hp, w.hostPods.get (targetKey pool p) = some hp →
    hp.spec.deleting = true ∨ podSpecsEqual hp.spec (targetPod translator pool p) = true

section

variable {env : Env} {translator : PodService} {cs : Clientset} {pool : VNodePool}
  {p : CorePod} {w w' : Cluster}

/-! ## One host pod -/

theorem deleting_of_retired {hp hp' : HostPod} (h : retired env hp = some hp') :
    hp'.spec.deleting = true := by
  unfold retired at h
  split at h
  · next hdeleting =>
      cases h
      exact hdeleting
  · split at h
    · cases h
      rfl
    · cases h

theorem createdPod_eq (haccepts : Accepting env translator pool) (p : CorePod) :
    ∃ hp, createdPod env translator pool p = some hp ∧ hp.spec.deleting = false ∧
      podSpecsEqual hp.spec (targetPod translator pool p) = true := by
  obtain ⟨shown, hshown, hequal, hdeleting⟩ := haccepts p
  refine ⟨⟨shown, { phase := .pending }⟩, ?_, hdeleting, hequal⟩
  rw [createdPod, hshown]

/-- A host pod that a pass leaves in place runs an unfinished source pod. -/
theorem hostAfter_eq_some (haccepts : Accepting env translator pool) {o : Option HostPod}
    {hp : HostPod} (h : hostAfter env translator pool p o = some hp) :
    hp.spec.deleting = true ∨
      isTerminalPod p = false ∧ podSpecsEqual hp.spec (targetPod translator pool p) = true := by
  cases hterminal : isTerminalPod p with
  | true =>
      left
      cases o with
      | none => simp [hostAfter, hterminal] at h
      | some old =>
          simp only [hostAfter, hterminal, if_true] at h
          exact deleting_of_retired h
  | false =>
      cases o with
      | none =>
          obtain ⟨new, hnew, _, hequal⟩ := createdPod_eq haccepts p
          simp only [hostAfter, hterminal, Bool.false_eq_true, if_false, hnew,
            Option.some.injEq] at h
          subst h
          exact Or.inr ⟨rfl, hequal⟩
      | some old =>
          simp only [hostAfter, hterminal, Bool.false_eq_true, if_false] at h
          split at h
          · next hdeleting =>
              cases h
              exact Or.inl hdeleting
          · split at h
            · next hequal =>
                cases h
                exact Or.inr ⟨rfl, hequal⟩
            · exact Or.inl (deleting_of_retired h)

/-- Once the old host pod is gone or matches, a pass leaves a matching one and
reports it. -/
theorem hostAfter_running (haccepts : Accepting env translator pool)
    (hlive : isTerminalPod p = false) {o : Option HostPod}
    (ho : ∀ hp, o = some hp → hp.spec.deleting = false ∧
      podSpecsEqual hp.spec (targetPod translator pool p) = true) :
    ∃ hp, hostAfter env translator pool p o = some hp ∧ hp.spec.deleting = false ∧
      podSpecsEqual hp.spec (targetPod translator pool p) = true ∧
      reportedStatus env translator pool p o = some hp.status := by
  cases o with
  | none =>
      obtain ⟨new, hnew, hdeleting, hequal⟩ := createdPod_eq haccepts p
      refine ⟨new, ?_, hdeleting, hequal, ?_⟩
      · simp [hostAfter, hlive, hnew]
      · simp [reportedStatus, hlive, hnew]
  | some old =>
      obtain ⟨hdeleting, hequal⟩ := ho old rfl
      refine ⟨old, ?_, hdeleting, hequal, ?_⟩
      · simp [hostAfter, hlive, hdeleting, hequal]
      · simp [reportedStatus, hlive, hdeleting, hequal]

/-! ## One pass -/

theorem run_accepted (haccepts : Accepting env translator pool)
    (hconnect : env.connect pool.tenantRef = .ok cs) (w : Cluster) :
    ((reconcilePool translator pool).run (handle env) w).2 =
      passed env translator cs pool w := by
  rcases run_reconcilePool translator w hconnect with
    ⟨result, hrun⟩ | ⟨p, _, err, _, _, hrejects, _⟩
  · rw [hrun]
  · obtain ⟨shown, hshown, _⟩ := haccepts p
    rw [Rejects, hshown] at hrejects
    cases hrejects

theorem PassSpec.nothingElse (haccepts : Accepting env translator pool)
    (hpass : PassSpec env translator cs pool w w') {hp : HostPod} (hhp : hp ∈ w'.hostPods.items)
    (hns : hp.spec.ns = pool.ns) (howned : OwnedBy pool hp.spec.labels)
    (hstays : hp.spec.deleting = false) :
    ∃ p ∈ sourcePods env w cs pool, isTerminalPod p = false ∧ hp.key = targetKey pool p ∧
      podSpecsEqual hp.spec (targetPod translator pool p) = true := by
  have hget := Store.get_of_mem hhp
  by_cases hsource : ∃ p ∈ sourcePods env w cs pool, targetKey pool p = hp.key
  · obtain ⟨p, hp', hkey⟩ := hsource
    rw [← hkey, hpass.hostPod p hp'] at hget
    rcases hostAfter_eq_some haccepts hget with hdeleting | ⟨hlive, hequal⟩
    · rw [hstays] at hdeleting
      cases hdeleting
    · exact ⟨p, hp', hlive, hkey.symm, hequal⟩
  · push Not at hsource
    -- an owned pod away from the source pods was deleted, so it would not stay
    cases hold : w.hostPods.get hp.key with
    | none =>
        rw [hpass.otherHostPod hp.key hsource (fun old h => by rw [hold] at h; cases h), hold]
          at hget
        cases hget
    | some old =>
        by_cases howner : OwnedBy pool old.spec.labels
        · rw [hpass.orphan hp.key old hsource hold hns howner] at hget
          rw [deleting_of_retired hget] at hstays
          cases hstays
        · have hsame := hpass.otherHostPod hp.key hsource ?_
          · rw [hsame, hold, Option.some.injEq] at hget
            subst hget
            exact (howner howned).elim
          · rintro old' hold' ⟨_, howned'⟩
            rw [hold, Option.some.injEq] at hold'
            subst hold'
            exact howner howned'

theorem Frame.exists_sameTarget (h : Frame w w') {q : CorePod}
    (hq : q ∈ Pass.sourcePods env w' cs pool) :
    ∃ p ∈ Pass.sourcePods env w cs pool, targetKey pool q = targetKey pool p ∧
      targetPod translator pool q = targetPod translator pool p := by
  obtain ⟨p, hp, hshape⟩ := h.exists_sourcePod hq
  refine ⟨p, hp, ?_, ?_⟩
  · rw [← targetKey_shape pool q, ← hshape, targetKey_shape]
  · rw [← targetPod_shape translator pool q, ← hshape, targetPod_shape]

theorem PartialPass.compared (haccepts : Accepting env translator pool)
    (hpass : PartialPass env translator cs pool w w')
    (hw : Compared env translator cs pool w) : Compared env translator cs pool w' := by
  intro q hq hp hget
  obtain ⟨p, hp', hkey, htarget⟩ := hpass.frame.exists_sameTarget hq
  rw [hkey] at hget
  rw [htarget]
  rcases hpass.hostPod p hp' with hsame | hafter
  · exact hw p hp' hp (hsame ▸ hget)
  · exact (hostAfter_eq_some haccepts (hafter ▸ hget)).imp_right And.right

theorem compared_passed (haccepts : Accepting env translator pool) (hns : pool.ns ≠ "")
    (hdistinct : ((sourcePods env w cs pool).map (targetKey pool)).Nodup) :
    Compared env translator cs pool (passed env translator cs pool w) := by
  intro q hq hp hget
  obtain ⟨p, hp', hkey, htarget⟩ := (frame_passed env translator cs pool w).exists_sameTarget hq
  rw [hkey, (passSpec_passed env translator cs w hns hdistinct).hostPod p hp'] at hget
  rw [htarget]
  exact (hostAfter_eq_some haccepts hget).imp_right And.right

theorem stabilized_passed (haccepts : Accepting env translator pool) (hns : pool.ns ≠ "")
    (hdistinct : ((sourcePods env w cs pool).map (targetKey pool)).Nodup)
    (hcompared : Compared env translator cs pool w) :
    Stabilized env translator cs pool w (passed env translator cs pool w) := by
  have hpass := passSpec_passed env translator cs w hns hdistinct
  refine ⟨?_, ?_, fun hp hhp => hpass.nothingElse haccepts hhp⟩
  · intro p hp hlive hleaving
    have hold : ∀ hp, w.hostPods.get (targetKey pool p) = some hp → hp.spec.deleting = false ∧
        podSpecsEqual hp.spec (targetPod translator pool p) = true := by
      intro old hget
      cases hdeleting : old.spec.deleting with
      | true => exact (hleaving ⟨old, hget, hdeleting⟩).elim
      | false =>
          have hequal := hcompared p hp old hget
          rw [hdeleting] at hequal
          exact ⟨rfl, hequal.resolve_left Bool.false_ne_true⟩
    obtain ⟨new, hnew, hdeleting, hequal, hreported⟩ := hostAfter_running haccepts hlive hold
    refine ⟨new, ?_, hdeleting, hequal, ?_⟩
    · rw [hpass.hostPod p hp, hnew]
    · rw [hpass.tenantPod p hp, hreported]
      rfl
  · intro p hp hterminal new hget
    rw [hpass.hostPod p hp] at hget
    rcases hostAfter_eq_some haccepts hget with hdeleting | ⟨hlive, _⟩
    · exact hdeleting
    · rw [hterminal] at hlive
      cases hlive

/-! ## Runs -/

theorem HostStep.sourcePods (h : HostStep w w') (env : Env) (cs : Clientset)
    (pool : VNodePool) : Pass.sourcePods env w' cs pool = Pass.sourcePods env w cs pool := by
  rw [h.rest]
  rfl

theorem HostStep.compared (h : HostStep w w') (hw : Compared env translator cs pool w) :
    Compared env translator cs pool w' := by
  intro p hp hp' hget
  rw [h.sourcePods] at hp
  obtain ⟨old, hold, hspec⟩ := h.specs _ _ hget
  rw [← hspec]
  exact hw p hp old hold

theorem HostedPasses.distinct (haccepts : Accepting env translator pool)
    (hconnect : env.connect pool.tenantRef = .ok cs) (hns : pool.ns ≠ "") {n : Nat} {v : Cluster}
    (hrun : HostedPasses env translator pool n w v)
    (hdistinct : ((sourcePods env w cs pool).map (targetKey pool)).Nodup) :
    ((sourcePods env v cs pool).map (targetKey pool)).Nodup := by
  induction hrun with
  | start => exact hdistinct
  | host _ hstep ih =>
      rw [hstep.sourcePods]
      exact ih hdistinct
  | interrupted plan _ ih =>
      rw [(robust_partialPass translator hconnect hns (ih hdistinct) plan).2.frame.targetKeys]
      exact ih hdistinct
  | pass _ ih =>
      rw [run_accepted haccepts hconnect, (frame_passed env translator cs pool _).targetKeys]
      exact ih hdistinct

theorem HostedPasses.compared (haccepts : Accepting env translator pool)
    (hconnect : env.connect pool.tenantRef = .ok cs) (hns : pool.ns ≠ "") {n : Nat} {v : Cluster}
    (hrun : HostedPasses env translator pool n w v) (hn : 0 < n)
    (hdistinct : ((sourcePods env w cs pool).map (targetKey pool)).Nodup) :
    Compared env translator cs pool v := by
  induction hrun with
  | start => cases hn
  | host _ hstep ih => exact hstep.compared (ih hn hdistinct)
  | interrupted plan hrun ih =>
      have hdistinct' := hrun.distinct haccepts hconnect hns hdistinct
      exact (robust_partialPass translator hconnect hns hdistinct' plan).2.compared haccepts
        (ih hn hdistinct)
  | pass hrun _ =>
      rw [run_accepted haccepts hconnect]
      exact compared_passed haccepts hns (hrun.distinct haccepts hconnect hns hdistinct)

end

/-- From any clusters, each complete pass after the first leaves the pool's host pods
as they should be. -/
theorem passes_stabilize (env : Env) (translator : PodService) (cs : Clientset)
    (pool : VNodePool) (w v : Cluster) (n : Nat) (haccepts : Accepting env translator pool)
    (hconnect : env.connect pool.tenantRef = .ok cs) (hns : pool.ns ≠ "")
    (hdistinct : ((sourcePods env w cs pool).map (targetKey pool)).Nodup)
    (hrun : HostedPasses env translator pool n w v) (hn : 0 < n) :
    Stabilized env translator cs pool v
      ((reconcilePool translator pool).run (handle env) v).2 := by
  rw [run_accepted haccepts hconnect]
  exact stabilized_passed haccepts hns (hrun.distinct haccepts hconnect hns hdistinct)
    (hrun.compared haccepts hconnect hns hn hdistinct)

/-! ## A host that deletes gracefully -/

theorem HostStep.erase {w : Cluster} {k : ObjKey}
    (hleaving : ∃ hp ∈ w.hostPods.items, hp.key = k ∧ hp.spec.deleting = true) :
    HostStep w { w with hostPods := w.hostPods.erase k } := by
  obtain ⟨hp, hhp, rfl, hdeleting⟩ := hleaving
  have hget := Store.get_of_mem hhp
  refine ⟨rfl, ?_, ?_⟩
  · intro k' hp' hget'
    rw [Store.get_erase] at hget'
    split at hget'
    · cases hget'
    · exact ⟨hp', hget', rfl⟩
  · intro k' old hold hstays
    have hne : hp.key ≠ k' := by
      rintro rfl
      rw [hget, Option.some.injEq] at hold
      rw [hold, hstays] at hdeleting
      cases hdeleting
    rw [Store.get_erase_ne _ hne, hold]
    exact Option.some_ne_none old

def slowHost : Env := { Env.plain with graceful := fun _ => true }

def slowPass (w : Cluster) : Cluster :=
  ((reconcilePool ⟨"kata"⟩ (acmePool 1)).run (handle slowHost) w).2

def slowKey (name : String) : ObjKey := targetKey (acmePool 1) (boundPod name "")

def reapedCluster : Cluster :=
  let w := slowPass driftedCluster
  { w with hostPods := (w.hostPods.erase (slowKey "shop")).erase (slowKey "gone") }

theorem reapedCluster_stabilizes :
    Stabilized slowHost ⟨"kata"⟩ ⟨"acme"⟩ (acmePool 1) reapedCluster
        (slowPass reapedCluster) ∧
      ((slowPass reapedCluster).hostPods.get (slowKey "shop")).map (fun hp => hp.status.phase) =
        some .pending := by
  have haccepts : Accepting slowHost ⟨"kata"⟩ (acmePool 1) :=
    fun _ => ⟨_, rfl, podSpecsEqual_refl _, rfl⟩
  have hrun : HostedPasses slowHost ⟨"kata"⟩ (acmePool 1) 1 driftedCluster reapedCluster :=
    .host (.host (.pass (.start _)) (.erase (by decide))) (.erase (by decide))
  exact ⟨passes_stabilize slowHost ⟨"kata"⟩ ⟨"acme"⟩ (acmePool 1) _ _ 1 haccepts rfl (by decide)
    (by decide) hrun (by decide), by decide⟩

end VNodeOperator.Pass
