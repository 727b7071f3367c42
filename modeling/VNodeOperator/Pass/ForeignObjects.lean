import VNodeOperator.Pass.Rule
import VNodeOperator.Pass.SyncedObjects

/-!
# Objects of others on the host

A pass writes to names that derive from names the tenant chooses, without
looking at who owns what it finds there.  It leaves the objects that do not carry
the pool's labels alone exactly when no name it derives is the name of one of
them, except for pods it has no reason to delete.
-/

namespace VNodeOperator.Pass

open Model Kube Adapter Ports ProofSupport Service NodeService PodExecution

/-- The host objects without the pool's labels are as they were. -/
structure ForeignKept (pool : VNodePool) (w w' : Cluster) : Prop where
  pods : ∀ f ∈ w.hostPods.items, ¬ OwnedBy pool f.spec.labels →
    w'.hostPods.get f.key = some f
  configMaps : ∀ c ∈ w.hostConfigMaps.items, ¬ OwnedBy pool c.labels →
    w'.hostConfigMaps.get c.key = some c
  secrets : ∀ s ∈ w.hostSecrets.items, ¬ OwnedBy pool s.labels →
    w'.hostSecrets.get s.key = some s

/-- A host pod the pass would leave alone if it took it for the one of `p`. -/
def Tolerates (translator : PodService) (pool : VNodePool) (p : CorePod) (f : HostPod) : Prop :=
  f.spec.deleting = true ∨
    (isTerminalPod p = false ∧ podSpecsEqual f.spec (targetPod translator pool p) = true)

/-- No name the pass derives is that of a foreign object, except for pods it
tolerates. -/
structure KeepsOff (env : Env) (translator : PodService) (cs : Clientset) (pool : VNodePool)
    (w : Cluster) : Prop where
  pods : ∀ f ∈ w.hostPods.items, ¬ OwnedBy pool f.spec.labels →
    ∀ p ∈ sourcePods env w cs pool, targetKey pool p = f.key → Tolerates translator pool p f
  configMaps : ∀ c ∈ w.hostConfigMaps.items, ¬ OwnedBy pool c.labels →
    ∀ p ∈ sourcePods env w cs pool, ∀ cm ∈ configMapWrites (w.tenants cs) pool p,
      cm.key ≠ c.key
  secrets : ∀ s ∈ w.hostSecrets.items, ¬ OwnedBy pool s.labels →
    ∀ p ∈ sourcePods env w cs pool, ∀ t ∈ secretWrites (w.tenants cs) pool p, t.key ≠ s.key

section

variable {env : Env} {translator : PodService} {cs : Clientset} {pool : VNodePool}
  {p : CorePod} {w w' : Cluster} {f : HostPod}

/-! ## Keeping off is enough -/

theorem ForeignKept.refl (pool : VNodePool) (w : Cluster) : ForeignKept pool w w :=
  ⟨fun _ h _ => Store.get_of_mem h, fun _ h _ => Store.get_of_mem h,
    fun _ h _ => Store.get_of_mem h⟩

theorem Tolerates.podStep (htolerates : Tolerates translator pool p f)
    (hget : w.hostPods.get (targetKey pool p) = some f)
    (hstep : PodStep env translator cs pool p w w') :
    w'.hostPods.get (targetKey pool p) = some f := by
  rcases hstep.hostPods with hsame | ⟨_, hnone, _⟩ | ⟨hreason, hremoved⟩
  · rw [hsame]
    exact hget
  · rw [hget] at hnone
    cases hnone
  · rcases htolerates with hdeleting | ⟨hlive, hequal⟩
    · rw [hremoved]
      simp only [Cluster.removePod, hget, hdeleting, if_true]
    · rcases hreason with hterminal | ⟨cur, hcur, _, hdrift⟩
      · rw [hterminal] at hlive
        cases hlive
      · rw [hget, Option.some.injEq] at hcur
        rw [← hcur, hequal] at hdrift
        cases hdrift

theorem ForeignKept.podStep {w₀ : Cluster} (hoff : KeepsOff env translator cs pool w₀)
    (hp : p ∈ sourcePods env w₀ cs pool) (hframe : Frame w₀ w) (h : ForeignKept pool w₀ w)
    (hstep : PodStep env translator cs pool p w w') : ForeignKept pool w₀ w' := by
  refine ⟨?_, ?_, ?_⟩
  · intro f hf hforeign
    have hget := h.pods f hf hforeign
    by_cases hkey : targetKey pool p = f.key
    · rw [← hkey] at hget ⊢
      exact (hoff.pods f hf hforeign p hp hkey).podStep hget hstep
    · rw [hstep.get_hostPods_ne hkey]
      exact hget
  · intro c hc hforeign
    rw [hstep.configMaps]
    · exact h.configMaps c hc hforeign
    · rw [hframe.configMapWrites]
      exact hoff.configMaps c hc hforeign p hp
  · intro s hs hforeign
    rw [hstep.secrets]
    · exact h.secrets s hs hforeign
    · rw [hframe.secretWrites]
      exact hoff.secrets s hs hforeign p hp

/-- A pod without the pool's labels is never an orphan. -/
theorem ForeignKept.removePod {w₀ : Cluster} {k : ObjKey} (h : ForeignKept pool w₀ w)
    (hk : ∀ f ∈ w₀.hostPods.items, ¬ OwnedBy pool f.spec.labels → k ≠ f.key) :
    ForeignKept pool w₀ (w.removePod env k) := by
  rw [Cluster.removePod_eq]
  refine ⟨?_, h.configMaps, h.secrets⟩
  intro f hf hforeign
  rw [Cluster.get_removePod_ne env w (hk f hf hforeign)]
  exact h.pods f hf hforeign

theorem foreignKept_of_keepsOff (hoff : ∀ cs, env.connect pool.tenantRef = .ok cs →
      KeepsOff env translator cs pool w) :
    Robust (handle env) (fun _ => True) (reconcilePool translator pool)
      (fun _ w' => ForeignKept pool w w') w := by
  apply robust_reconcilePool
    (fun rest _ w' => ForeignKept pool w w' ∧ Frame w w' ∧ ∀ cs,
      env.connect pool.tenantRef = .ok cs → ∀ p ∈ rest, p ∈ sourcePods env w cs pool)
    (ForeignKept pool w) (fun _ _ => trivial) (ForeignKept.refl pool w)
  · intro rest desired w' hI
    exact hI.1
  · intro cs hconnect
    refine ⟨ForeignKept.refl pool w, Frame.refl w, ?_⟩
    intro cs' hconnect' p hp
    rw [hconnect, Except.ok.injEq] at hconnect'
    rwa [← hconnect']
  · intro cs hconnect p rest desired w' ⟨hkept, hframe, hrest⟩
    refine ⟨fun _ _ => trivial, ?_⟩
    intro w'' hstep
    refine ⟨hkept.podStep (hoff cs hconnect) (hrest cs hconnect p List.mem_cons_self) hframe hstep,
      hframe.trans hstep.frame, ?_⟩
    intro cs' hconnect' q hq
    exact hrest cs' hconnect' q (List.mem_cons_of_mem p hq)
  · intro desired w' ⟨hkept, _, _⟩
    refine ⟨ForeignKept pool w, hkept, fun _ h => h, ?_⟩
    intro hp hhp ⟨_, howned, _⟩
    refine ⟨trivial, fun w'' hw'' => hw''.removePod ?_⟩
    intro f hf hforeign hkey
    have hget := hkept.pods f hf hforeign
    have hhp' : w'.hostPods.get hp.key = some hp := Store.get_of_mem hhp
    rw [← hkey, hhp', Option.some.injEq] at hget
    rw [hget] at howned
    exact hforeign howned

/-! ## What a pass does otherwise -/

theorem foldl_put_ne_foreign {α : Type} {key : α → ObjKey} (labels : α → StringMap)
    {l : List α} (howned : ∀ a ∈ l, OwnedBy pool (labels a)) {a c : α} (ha : a ∈ l)
    (hkey : key a = key c) (hforeign : ¬ OwnedBy pool (labels c)) (s : Store key) :
    (l.foldl Store.put s).get (key c) ≠ some c := by
  obtain ⟨b, hb, _, hget⟩ := Store.get_foldl_put_of_mem ha s
  rw [hkey] at hget
  intro hc
  rw [hget, Option.some.injEq] at hc
  rw [← hc] at hforeign
  exact hforeign (howned b hb)

theorem ownedBy_configMapWrites (t : TenantCluster) (pool : VNodePool) (p : CorePod) :
    ∀ cm ∈ configMapWrites t pool p, OwnedBy pool cm.labels := by
  intro cm hcm
  obtain ⟨ref, _, hfor⟩ := List.mem_filterMap.mp hcm
  unfold configMapFor at hfor
  split at hfor
  · obtain ⟨_, _, rfl⟩ := Option.map_eq_some_iff.mp hfor
    exact ownedBy_ownerLabels pool
  · cases hfor

theorem ownedBy_secretWrites (t : TenantCluster) (pool : VNodePool) (p : CorePod) :
    ∀ s ∈ secretWrites t pool p, OwnedBy pool s.labels := by
  intro s hs
  obtain ⟨ref, _, hfor⟩ := List.mem_filterMap.mp hs
  unfold secretFor at hfor
  split at hfor
  · obtain ⟨_, _, rfl⟩ := Option.map_eq_some_iff.mp hfor
    exact ownedBy_ownerLabels pool
  · cases hfor

theorem removePod_ne_some {k : ObjKey} (hdeleting : f.spec.deleting = false)
    (h : w.hostPods.get f.key ≠ some f ∨ k = f.key) :
    (w.removePod env k).hostPods.get f.key ≠ some f := by
  intro hget
  by_cases hk : k = f.key
  · rw [hk] at hget
    rw [Cluster.deleting_of_get_removePod env hget] at hdeleting
    cases hdeleting
  · rw [Cluster.get_removePod_ne env w hk] at hget
    exact h.resolve_right hk hget

def Takes (env : Env) (translator : PodService) (pool : VNodePool) (p : CorePod) : Prop :=
  ∃ shown, env.storePod (targetPod translator pool p) = .ok shown ∧
    shown.labels = (targetPod translator pool p).labels

/-- A foreign pod that is gone does not come back: what the pass creates carries
the pool's labels. -/
theorem podStep_ne_some (htakes : Takes env translator pool p) (hdeleting : f.spec.deleting = false)
    (hforeign : ¬ OwnedBy pool f.spec.labels) (h : w.hostPods.get f.key ≠ some f)
    (hstep : PodStep env translator cs pool p w w') : w'.hostPods.get f.key ≠ some f := by
  rcases hstep.hostPods with hsame | ⟨_, _, shown, hshown, hadded⟩ | ⟨_, hremoved⟩
  · rw [hsame]
    exact h
  · by_cases hkey : targetKey pool p = f.key
    · obtain ⟨shown', hshown', hlabels⟩ := htakes
      rw [hshown, Except.ok.injEq] at hshown'
      rw [hadded, ← hkey, get_addPod hshown]
      intro hf
      rw [Option.some.injEq] at hf
      apply hforeign
      rw [← hf]
      change OwnedBy pool shown.labels
      rw [hshown', hlabels]
      exact ownedBy_targetPod translator pool p
    · rw [hstep.get_hostPods_ne hkey]
      exact h
  · rw [hremoved]
    exact removePod_ne_some hdeleting (Or.inl h)

theorem iterations_ne_some (hdeleting : f.spec.deleting = false)
    (hforeign : ¬ OwnedBy pool f.spec.labels) (ps : List CorePod)
    (htakes : ∀ p ∈ ps, Takes env translator pool p) (h : w.hostPods.get f.key ≠ some f) :
    (iterations env translator cs pool ps w).hostPods.get f.key ≠ some f := by
  induction ps generalizing w with
  | nil => exact h
  | cons p ps ih =>
      apply ih fun q hq => htakes q (List.mem_cons_of_mem p hq)
      exact podStep_ne_some (htakes p List.mem_cons_self) hdeleting hforeign h
        (podStep_iterated env translator cs pool p w)

/-- The iteration over a source pod deletes the pod it finds under its name if it
does not tolerate it. -/
theorem iterated_ne_some (htakes : Takes env translator pool p)
    (hforeign : ¬ OwnedBy pool f.spec.labels) (hkey : targetKey pool p = f.key)
    (h : ¬ Tolerates translator pool p f) :
    (iterated env translator cs pool p w).hostPods.get f.key ≠ some f := by
  have hdeleting : f.spec.deleting = false := by
    simpa using fun hd => h (Or.inl hd)
  by_cases hget : w.hostPods.get f.key = some f
  · have hreason : isTerminalPod p = true ∨ Drifted translator pool p w := by
      by_cases hterminal : isTerminalPod p = true
      · exact Or.inl hterminal
      · refine Or.inr ⟨f, ?_, hdeleting, ?_⟩
        · rw [hkey]
          exact hget
        · simpa using fun hequal => h (Or.inr ⟨by simpa using hterminal, hequal⟩)
    rw [hostPods_iterated_removed hreason]
    exact removePod_ne_some hdeleting (Or.inr hkey)
  · exact podStep_ne_some htakes hdeleting hforeign hget
      (podStep_iterated env translator cs pool p w)

theorem cleaned_ne_some (hdeleting : f.spec.deleting = false) (ps : List CorePod)
    (h : w.hostPods.get f.key ≠ some f) :
    (cleaned env pool ps w).hostPods.get f.key ≠ some f := by
  unfold cleaned
  generalize orphans pool ps w = hosts
  induction hosts generalizing w with
  | nil => exact h
  | cons hp hosts ih => exact ih (removePod_ne_some hdeleting (Or.inl h))

theorem tolerates_of_passed (htakes : ∀ p ∈ sourcePods env w cs pool, Takes env translator pool p)
    (hforeign : ¬ OwnedBy pool f.spec.labels) (hp : p ∈ sourcePods env w cs pool)
    (hkey : targetKey pool p = f.key)
    (hkept : (passed env translator cs pool w).hostPods.get f.key = some f) :
    Tolerates translator pool p f := by
  by_contra h
  have hdeleting : f.spec.deleting = false := by
    simpa using fun hd => h (Or.inl hd)
  -- from the iteration over `p` on, the pod is gone
  have htakesp := htakes p hp
  obtain ⟨before, rest, hps⟩ := List.append_of_mem hp
  have htakesRest : ∀ q ∈ rest, Takes env translator pool q := by
    intro q hq
    apply htakes
    rw [hps]
    exact List.mem_append_right before (List.mem_cons_of_mem p hq)
  apply cleaned_ne_some hdeleting (sourcePods env w cs pool) ?_ hkept
  rw [hps, iterations, List.foldl_append, List.foldl_cons]
  exact iterations_ne_some hdeleting hforeign rest htakesRest
    (iterated_ne_some htakesp hforeign hkey h)

theorem keepsOff_of_passed (htakes : ∀ p ∈ sourcePods env w cs pool, Takes env translator pool p)
    (h : ForeignKept pool w (passed env translator cs pool w)) :
    KeepsOff env translator cs pool w := by
  obtain ⟨hconfigMaps, hsecrets⟩ := passed_copies env translator cs pool w
  refine ⟨?_, ?_, ?_⟩
  · intro f hf hforeign p hp hkey
    exact tolerates_of_passed htakes hforeign hp hkey (h.pods f hf hforeign)
  · intro c hc hforeign p hp cm hcm hkey
    have hkept := h.configMaps c hc hforeign
    rw [hconfigMaps] at hkept
    refine foldl_put_ne_foreign ConfigMap.labels ?_
      (List.mem_flatMap.mpr ⟨p, hp, hcm⟩) hkey hforeign _ hkept
    intro b hb
    obtain ⟨q, _, hq⟩ := List.mem_flatMap.mp hb
    exact ownedBy_configMapWrites _ pool q b hq
  · intro s hs hforeign p hp t ht hkey
    have hkept := h.secrets s hs hforeign
    rw [hsecrets] at hkept
    refine foldl_put_ne_foreign Secret.labels ?_
      (List.mem_flatMap.mpr ⟨p, hp, ht⟩) hkey hforeign _ hkept
    intro b hb
    obtain ⟨q, _, hq⟩ := List.mem_flatMap.mp hb
    exact ownedBy_secretWrites _ pool q b hq

end

/-- A pass that keeps off the names of others leaves their objects on the host as they are,
whatever calls fail.  Where the tenant is reached and the host takes the translated pods,
only such a pass does. -/
theorem foreign_kept_iff_keepsOff (env : Env) (translator : PodService) (pool : VNodePool)
    (w : Cluster) :
    ((∀ cs, env.connect pool.tenantRef = .ok cs → KeepsOff env translator cs pool w) →
      ∀ plan, ForeignKept pool w (PassRun.after ⟨env, translator, pool, plan⟩ w)) ∧
    ∀ cs, env.connect pool.tenantRef = .ok cs →
      (∀ p ∈ sourcePods env w cs pool, Takes env translator pool p) →
      (∀ plan, ForeignKept pool w (PassRun.after ⟨env, translator, pool, plan⟩ w)) →
        KeepsOff env translator cs pool w := by
  constructor
  · intro hoff plan
    exact (foreignKept_of_keepsOff hoff plan).2
  · intro cs hconnect htakes h
    have hkept := h (fun _ => none)
    rw [PassRun.after, run_withFaults_none] at hkept
    rcases run_reconcilePool translator w hconnect with
      ⟨result, hrun⟩ | ⟨p, hp, err, _, _, hrejects, _⟩
    · rw [hrun] at hkept
      exact keepsOff_of_passed htakes hkept
    · obtain ⟨shown, hshown, _⟩ := htakes p hp
      rw [hrejects] at hshown
      cases hshown

/-! ### The kubeconfig of the pool -/

/-- The pool reaches its tenant with the Secret `acme-kubeconfig` of its own
namespace. -/
def kubeconfigPool : VNodePool :=
  { acmePool 1 with
    tenantRef :=
      { vclusterName := "acme"
        vclusterNamespace := "host"
        kubeconfigSecret := "acme-kubeconfig" } }

def kubeconfig : Secret where
  name := "acme-kubeconfig"
  ns := "host"
  data := AList.insert "config" [1] ∅

def kubeconfigCluster (mounted : String) : Cluster :=
  { acmeCluster {} with
    hostSecrets := Store.empty.put kubeconfig
    tenants := fun _ => {
      pods := Store.empty.put (mountingPod "acme" "x" mounted)
      secrets := (Store.empty.put { name := "token", ns := "acme" }).put
        { name := "kubeconfig", ns := "acme" } } }

theorem token_foreign_kept :
    KeepsOff Env.plain ⟨"kata"⟩ ⟨"acme-kubeconfig"⟩ kubeconfigPool (kubeconfigCluster "token") ∧
      ∀ plan, ForeignKept kubeconfigPool (kubeconfigCluster "token")
        (PassRun.after ⟨Env.plain, ⟨"kata"⟩, kubeconfigPool, plan⟩
          (kubeconfigCluster "token")) := by
  have hoff : KeepsOff Env.plain ⟨"kata"⟩ ⟨"acme-kubeconfig"⟩ kubeconfigPool
      (kubeconfigCluster "token") := by
    have hpods : (kubeconfigCluster "token").hostPods.items = [] := rfl
    have hconfigMaps : (kubeconfigCluster "token").hostConfigMaps.items = [] := rfl
    refine ⟨?_, ?_, by decide⟩
    · rw [hpods]
      exact List.forall_mem_nil _
    · rw [hconfigMaps]
      exact List.forall_mem_nil _
  refine ⟨hoff, ?_⟩
  apply (foreign_kept_iff_keepsOff Env.plain ⟨"kata"⟩ kubeconfigPool (kubeconfigCluster "token")).1
  rintro cs ⟨⟩
  exact hoff

/-- With the Secret `kubeconfig` mounted, a pass without any failing call writes
the tenant's content over the pool's kubeconfig. -/
theorem kubeconfig_overwritten :
    ¬ OwnedBy kubeconfigPool kubeconfig.labels ∧
      (kubeconfigCluster "kubeconfig").hostSecrets.get
          ⟨kubeconfigPool.ns, kubeconfigPool.tenantRef.kubeconfigSecret⟩ = some kubeconfig ∧
      ((reconcilePool ⟨"kata"⟩ kubeconfigPool).run (handle Env.plain)
          (kubeconfigCluster "kubeconfig")).2.hostSecrets.get
          ⟨kubeconfigPool.ns, kubeconfigPool.tenantRef.kubeconfigSecret⟩ ≠ some kubeconfig := by
  decide

end VNodeOperator.Pass
