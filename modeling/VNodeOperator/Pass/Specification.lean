import VNodeOperator.Pass.Convergence
import VNodeOperator.ProofSupport.Folds

/-!
# A pass as one update of the clusters

A pass takes one source pod after the other: it copies objects, creates, compares
and deletes a host pod, mirrors a status, and in the end removes the orphans.
With distinct translated names all this is one update, which says of each host
pod and each tenant pod what becomes of it, from the clusters before the pass.
-/

namespace VNodeOperator.Pass

open Model Kube Adapter Ports ProofSupport Service NodeService PodExecution

/-! ## What becomes of one pod -/

def retired (env : Env) (hp : HostPod) : Option HostPod :=
  if hp.spec.deleting then some hp
  else if env.graceful hp then some { hp with spec := { hp.spec with deleting := true } }
  else none

def createdPod (env : Env) (translator : PodService) (pool : VNodePool) (p : CorePod) :
    Option HostPod :=
  match env.storePod (targetPod translator pool p) with
  | .ok shown => some ⟨shown, { phase := .pending }⟩
  | .error _ => none

def hostAfter (env : Env) (translator : PodService) (pool : VNodePool) (p : CorePod) :
    Option HostPod → Option HostPod
  | none => if isTerminalPod p then none else createdPod env translator pool p
  | some hp =>
      if isTerminalPod p then retired env hp
      else if hp.spec.deleting then some hp
      else if podSpecsEqual hp.spec (targetPod translator pool p) then some hp
      else retired env hp

/-- The status that is mirrored to the tenant, if any.  A host pod on its way out
is reported for a finished source pod only. -/
def reportedStatus (env : Env) (translator : PodService) (pool : VNodePool) (p : CorePod) :
    Option HostPod → Option PodStatus
  | none =>
      if isTerminalPod p then none else (createdPod env translator pool p).map HostPod.status
  | some hp =>
      if isTerminalPod p then some hp.status
      else if hp.spec.deleting then none
      else if podSpecsEqual hp.spec (targetPod translator pool p) then some hp.status
      else none

def showing (old : CorePod) : Option PodStatus → CorePod
  | some status => withPodStatus old status
  | none => old

structure PassSpec (env : Env) (translator : PodService) (cs : Clientset) (pool : VNodePool)
    (w w' : Cluster) : Prop where
  rest : w' = { w with
    hostPods := w'.hostPods
    hostConfigMaps := w'.hostConfigMaps
    hostSecrets := w'.hostSecrets
    tenants := w'.tenants }
  tenants : w'.tenants =
    Function.update w.tenants cs { w.tenants cs with pods := (w'.tenants cs).pods }
  configMaps : w'.hostConfigMaps = ((sourcePods env w cs pool).flatMap
    (configMapWrites (w.tenants cs) pool)).foldl Store.put w.hostConfigMaps
  secrets : w'.hostSecrets = ((sourcePods env w cs pool).flatMap
    (secretWrites (w.tenants cs) pool)).foldl Store.put w.hostSecrets
  hostPod : ∀ p ∈ sourcePods env w cs pool, w'.hostPods.get (targetKey pool p) =
    hostAfter env translator pool p (w.hostPods.get (targetKey pool p))
  orphan : ∀ k hp, (∀ p ∈ sourcePods env w cs pool, targetKey pool p ≠ k) →
    w.hostPods.get k = some hp → k.ns = pool.ns → OwnedBy pool hp.spec.labels →
    w'.hostPods.get k = retired env hp
  otherHostPod : ∀ k, (∀ p ∈ sourcePods env w cs pool, targetKey pool p ≠ k) →
    (∀ hp, w.hostPods.get k = some hp → ¬ (k.ns = pool.ns ∧ OwnedBy pool hp.spec.labels)) →
    w'.hostPods.get k = w.hostPods.get k
  tenantPod : ∀ p ∈ sourcePods env w cs pool, (w'.tenants cs).pods.get p.key =
    some (showing p (reportedStatus env translator pool p (w.hostPods.get (targetKey pool p))))
  otherTenantPod : ∀ k, (∀ p ∈ sourcePods env w cs pool, p.key ≠ k) →
    (w'.tenants cs).pods.get k = (w.tenants cs).pods.get k

section

variable {env : Env} {translator : PodService} {cs : Clientset} {pool : VNodePool}
  {p q : CorePod} {w w' : Cluster}

/-! ## Deletions -/

theorem get_removePod_self (env : Env) (w : Cluster) (k : ObjKey) :
    (w.removePod env k).hostPods.get k = (w.hostPods.get k).bind (retired env) := by
  cases hget : w.hostPods.get k with
  | none =>
      simp only [Cluster.removePod, hget, Option.bind_none]
  | some hp =>
      have hkey : hp.key = k := Store.key_of_get hget
      simp only [Cluster.removePod, hget, Option.bind_some, retired]
      split
      · exact hget
      · split
        · rw [← hkey]
          exact Store.get_put_self w.hostPods
            { hp with spec := { hp.spec with deleting := true } }
        · exact Store.get_erase_self w.hostPods k

theorem retired_bind_retired (env : Env) (o : Option HostPod) :
    (o.bind (retired env)).bind (retired env) = o.bind (retired env) := by
  cases o with
  | none => rfl
  | some hp =>
      rw [Option.bind_some]
      by_cases hdeleting : hp.spec.deleting = true
      · simp [retired, hdeleting]
      · by_cases hgraceful : env.graceful hp = true <;> simp [retired, hdeleting, hgraceful]

theorem get_foldl_removePod (env : Env) (hosts : List HostPod) (w : Cluster) (k : ObjKey) :
    (hosts.foldl (fun w hp => w.removePod env hp.key) w).hostPods.get k =
      if k ∈ hosts.map HostPod.key then (w.hostPods.get k).bind (retired env)
      else w.hostPods.get k := by
  induction hosts generalizing w with
  | nil => simp
  | cons hp hosts ih =>
      rw [List.foldl_cons, ih, List.map_cons]
      by_cases hkey : hp.key = k
      · subst hkey
        rw [get_removePod_self, retired_bind_retired, ite_self, if_pos List.mem_cons_self]
      · rw [Cluster.get_removePod_ne env w hkey]
        simp only [List.mem_cons, Ne.symm hkey, false_or]

/-! ## One iteration -/

def podView (cs : Clientset) (pool : VNodePool) (p : CorePod) (w : Cluster) :
    Option HostPod × Option CorePod :=
  (w.hostPods.get (targetKey pool p), (w.tenants cs).pods.get p.key)

def podViewAfter (env : Env) (translator : PodService) (pool : VNodePool) (p : CorePod)
    (v : Option HostPod × Option CorePod) : Option HostPod × Option CorePod :=
  (hostAfter env translator pool p v.1,
    v.2.map fun old => showing old (reportedStatus env translator pool p v.1))

theorem get_mirrored_self (cs : Clientset) (pool : VNodePool) (p : CorePod) (w : Cluster) :
    ((mirrored cs pool p w).tenants cs).pods.get p.key =
      ((w.tenants cs).pods.get p.key).map fun old =>
        showing old ((w.hostPods.get (targetKey pool p)).map HostPod.status) := by
  unfold mirrored
  cases hhost : w.hostPods.get (targetKey pool p) with
  | none =>
      cases (w.tenants cs).pods.get p.key <;> rfl
  | some hp =>
      cases hold : (w.tenants cs).pods.get p.key with
      | none =>
          exact hold
      | some old =>
          have hold' : old.key = p.key := Store.key_of_get hold
          have hkey : (withPodStatus old hp.status).key = p.key := hold'
          simp only [Cluster.putTenantPod, Cluster.setTenant, Function.update_self, ← hkey,
            Store.get_put_self, Option.map_some, showing]

theorem podView_mirrored (cs : Clientset) (pool : VNodePool) (p : CorePod) (w : Cluster) :
    podView cs pool p (mirrored cs pool p w) = (w.hostPods.get (targetKey pool p),
      ((w.tenants cs).pods.get p.key).map fun old =>
        showing old ((w.hostPods.get (targetKey pool p)).map HostPod.status)) := by
  rw [podView, (mirrored_spec cs pool p w).hostPods, get_mirrored_self]

theorem podView_removePod (env : Env) (cs : Clientset) (pool : VNodePool) (p : CorePod)
    (w : Cluster) :
    podView cs pool p (w.removePod env (targetKey pool p)) =
      ((w.hostPods.get (targetKey pool p)).bind (retired env),
        (w.tenants cs).pods.get p.key) := by
  rw [podView, get_removePod_self, Cluster.removePod_eq]

theorem map_showing_none (o : Option CorePod) : o.map (fun old => showing old none) = o :=
  Option.map_id'

theorem podView_iterated_terminal (env : Env) (translator : PodService) (cs : Clientset)
    (pool : VNodePool) (w : Cluster) (hterminal : isTerminalPod p = true) :
    podView cs pool p (iterated env translator cs pool p w) =
      podViewAfter env translator pool p (podView cs pool p w) := by
  have hview := podView_mirrored cs pool p (copyRefs (w.tenants cs) pool (podRefs p) w)
  obtain ⟨hhost, htenant⟩ := Prod.mk.inj hview
  simp only [iterated, hterminal, if_true]
  rw [podView_removePod, hhost, htenant]
  unfold podViewAfter podView
  cases hget : w.hostPods.get (targetKey pool p) <;>
    simp [copyRefs, hget, hostAfter, reportedStatus, hterminal]

theorem podView_ensured (env : Env) (translator : PodService) (cs : Clientset)
    (pool : VNodePool) (w : Cluster) (hlive : isTerminalPod p = false) :
    podView cs pool p (ensured env translator cs pool p w) =
      podViewAfter env translator pool p (podView cs pool p w) := by
  cases hget : w.hostPods.get (targetKey pool p) with
  | none =>
      cases hshown : env.storePod (targetPod translator pool p) with
      | ok shown =>
          simp only [ensured, hget, hshown, podView_mirrored, get_addPod hshown]
          simp [podViewAfter, podView, hget, hostAfter, reportedStatus, createdPod, hlive, hshown,
            Cluster.addPod]
      | error err =>
          simp [ensured, podViewAfter, podView, hget, hostAfter, reportedStatus, createdPod,
            hlive, hshown, map_showing_none]
  | some hp =>
      simp only [ensured, hget]
      split
      · next hdeleting =>
          simp [podViewAfter, podView, hget, hostAfter, reportedStatus, hlive, hdeleting,
            map_showing_none]
      · next hdeleting =>
          split
          · next hequal =>
              rw [podView_mirrored]
              simp [podViewAfter, podView, hget, hostAfter, reportedStatus, hlive, hdeleting,
                hequal]
          · next hequal =>
              rw [podView_removePod]
              simp [podViewAfter, podView, hget, hostAfter, reportedStatus, hlive, hdeleting,
                hequal, map_showing_none]

theorem podView_iterated (env : Env) (translator : PodService) (cs : Clientset)
    (pool : VNodePool) (p : CorePod) (w : Cluster) :
    podView cs pool p (iterated env translator cs pool p w) =
      podViewAfter env translator pool p (podView cs pool p w) := by
  cases hterminal : isTerminalPod p with
  | true => exact podView_iterated_terminal env translator cs pool w hterminal
  | false =>
      rw [iterated, hterminal]
      exact podView_ensured env translator cs pool _ hterminal

def PodsApart (pool : VNodePool) (p q : CorePod) : Prop :=
  targetKey pool p ≠ targetKey pool q ∧ p.key ≠ q.key

theorem PodStep.get_tenantPod_ne (hstep : PodStep env translator cs pool p w w') {k : ObjKey}
    (hk : p.key ≠ k) : (w'.tenants cs).pods.get k = (w.tenants cs).pods.get k := by
  rcases hstep.tenants with hsame | ⟨old, status, hold, _, hput⟩
  · rw [hsame]
  · have hkey : old.key = p.key := Store.key_of_get hold
    rw [hput]
    simp only [Cluster.putTenantPod, Cluster.setTenant, Function.update_self]
    refine Store.get_put_ne _ ?_
    intro heq
    exact hk (hkey.symm.trans heq)

theorem PodStep.tenants_eq (hstep : PodStep env translator cs pool p w w') :
    w'.tenants =
      Function.update w.tenants cs { w.tenants cs with pods := (w'.tenants cs).pods } := by
  rcases hstep.tenants with hsame | ⟨old, status, _, _, hput⟩
  · rw [hsame]
    exact (Function.update_eq_self cs w.tenants).symm
  · rw [hput]
    simp only [Cluster.putTenantPod, Cluster.setTenant, Function.update_self]

theorem podView_iterated_apart (h : PodsApart pool p q) (w : Cluster) :
    podView cs pool q (iterated env translator cs pool p w) = podView cs pool q w := by
  have hstep := podStep_iterated env translator cs pool p w
  rw [podView, hstep.get_hostPods_ne h.1, hstep.get_tenantPod_ne h.2, podView]

/-! ## The loop -/

theorem pairwise_podsApart (hdistinct : ((sourcePods env w cs pool).map (targetKey pool)).Nodup) :
    (sourcePods env w cs pool).Pairwise (PodsApart pool) := by
  have hkeys : ((sourcePods env w cs pool).map CorePod.key).Nodup :=
    (w.tenants cs).pods.nodup.sublist (List.filter_sublist.map CorePod.key)
  exact (List.pairwise_map.mp hdistinct).and (List.pairwise_map.mp hkeys)

theorem podView_iterations (env : Env) (translator : PodService) {ps : List CorePod}
    (hapart : ps.Pairwise (PodsApart pool)) (hp : p ∈ ps) (w : Cluster) :
    podView cs pool p (iterations env translator cs pool ps w) =
      podViewAfter env translator pool p (podView cs pool p w) :=
  foldl_own (podView cs pool) w (fun _ _ h => ⟨h.1.symm, h.2.symm⟩)
    (podView_iterated env translator cs pool) (fun _ _ w h => podView_iterated_apart h w)
    hapart p hp

theorem get_tenantPod_iterations_ne (env : Env) (translator : PodService) (cs : Clientset)
    (pool : VNodePool) {ps : List CorePod} {k : ObjKey} (hk : ∀ p ∈ ps, p.key ≠ k)
    (w : Cluster) :
    ((iterations env translator cs pool ps w).tenants cs).pods.get k =
      (w.tenants cs).pods.get k :=
  foldl_kept (fun w : Cluster => (w.tenants cs).pods.get k) w
    fun p hp w => (podStep_iterated env translator cs pool p w).get_tenantPod_ne (hk p hp)

theorem tenants_iterations (env : Env) (translator : PodService) (cs : Clientset)
    (pool : VNodePool) (ps : List CorePod) (w : Cluster) :
    (iterations env translator cs pool ps w).tenants = Function.update w.tenants cs
      { w.tenants cs with pods := ((iterations env translator cs pool ps w).tenants cs).pods } := by
  induction ps generalizing w with
  | nil => exact (Function.update_eq_self cs w.tenants).symm
  | cons p ps ih =>
      have hstep := (podStep_iterated env translator cs pool p w).tenants_eq
      change (iterations env translator cs pool ps (iterated env translator cs pool p w)).tenants =
        Function.update w.tenants cs { w.tenants cs with pods := ((iterations env translator cs
          pool ps (iterated env translator cs pool p w)).tenants cs).pods }
      rw [ih]
      generalize ((iterations env translator cs pool ps
        (iterated env translator cs pool p w)).tenants cs).pods = pods
      rw [hstep]
      simp only [Function.update_idem, Function.update_self]

theorem iterations_rest (env : Env) (translator : PodService) (cs : Clientset)
    (pool : VNodePool) (ps : List CorePod) (w : Cluster) :
    iterations env translator cs pool ps w = { w with
      hostPods := (iterations env translator cs pool ps w).hostPods
      hostConfigMaps := (iterations env translator cs pool ps w).hostConfigMaps
      hostSecrets := (iterations env translator cs pool ps w).hostSecrets
      tenants := (iterations env translator cs pool ps w).tenants } := by
  have hkept : ∀ p ∈ ps, ∀ w, ((iterated env translator cs pool p w).vnodes,
      (iterated env translator cs pool p w).pools, (iterated env translator cs pool p w).clock) =
      (w.vnodes, w.pools, w.clock) := by
    intro p _ w
    rw [iterated_eq]
    rfl
  obtain ⟨hvnodes, hrest⟩ := Prod.mk.inj
    (foldl_kept (fun w : Cluster => (w.vnodes, w.pools, w.clock)) w hkept)
  obtain ⟨hpools, hclock⟩ := Prod.mk.inj hrest
  rw [← hvnodes, ← hpools, ← hclock]
  rfl

/-! ## The pass -/

theorem keyForPod_inj {ns a b : String} (h : keyForPod ns a = keyForPod ns b) : a = b := by
  simpa [keyForPod, String.append_assoc] using h

/-- In the pool's namespace the orphans are the host pods of the pool that no source
pod is translated to. -/
theorem mem_map_orphans (hns : pool.ns ≠ "") {ps : List CorePod} {k : ObjKey}
    (hk : ∀ p ∈ ps, targetKey pool p ≠ k) :
    k ∈ (orphans pool ps w).map HostPod.key ↔
      ∃ hp, w.hostPods.get k = some hp ∧ k.ns = pool.ns ∧ OwnedBy pool hp.spec.labels := by
  constructor
  · intro hmem
    obtain ⟨hp, horphan, rfl⟩ := List.mem_map.mp hmem
    obtain ⟨hmem, hpns, howned, _⟩ := mem_orphans.mp horphan
    exact ⟨hp, Store.get_of_mem hmem, hpns.resolve_left hns, howned⟩
  · rintro ⟨hp, hget, hkns, howned⟩
    have hkey : hp.key = k := Store.key_of_get hget
    subst hkey
    refine List.mem_map_of_mem (mem_orphans.mpr ⟨Store.mem_of_get hget, Or.inr hkns, howned, ?_⟩)
    intro hdesired
    obtain ⟨p, hp', hname⟩ := List.mem_map.mp hdesired
    have hspec : hp.spec.ns = pool.ns := hkns
    rw [hspec] at hname
    apply hk p hp'
    rw [HostPod.key, hspec, ← keyForPod_inj hname]
    rfl

theorem tenants_passed (env : Env) (translator : PodService) (cs : Clientset) (pool : VNodePool)
    (w : Cluster) : (passed env translator cs pool w).tenants =
      (iterations env translator cs pool (sourcePods env w cs pool) w).tenants := by
  rw [passed, cleaned_eq]

theorem passed_rest (env : Env) (translator : PodService) (cs : Clientset) (pool : VNodePool)
    (w : Cluster) :
    passed env translator cs pool w = { w with
      hostPods := (passed env translator cs pool w).hostPods
      hostConfigMaps := (passed env translator cs pool w).hostConfigMaps
      hostSecrets := (passed env translator cs pool w).hostSecrets
      tenants := (passed env translator cs pool w).tenants } := by
  rw [passed, cleaned_eq, iterations_rest]

theorem get_passed_off (hns : pool.ns ≠ "") {k : ObjKey}
    (hk : ∀ p ∈ sourcePods env w cs pool, targetKey pool p ≠ k) :
    ((∃ hp, w.hostPods.get k = some hp ∧ k.ns = pool.ns ∧ OwnedBy pool hp.spec.labels) →
      (passed env translator cs pool w).hostPods.get k =
        (w.hostPods.get k).bind (retired env)) ∧
    ((¬ ∃ hp, w.hostPods.get k = some hp ∧ k.ns = pool.ns ∧ OwnedBy pool hp.spec.labels) →
      (passed env translator cs pool w).hostPods.get k = w.hostPods.get k) := by
  have hsame : (iterations env translator cs pool (sourcePods env w cs pool) w).hostPods.get k =
      w.hostPods.get k := get_iterations_ne _ hk
  have horphans := mem_map_orphans
    (w := iterations env translator cs pool (sourcePods env w cs pool) w) hns hk
  rw [hsame] at horphans
  rw [passed, cleaned, get_foldl_removePod, hsame]
  exact ⟨fun h => if_pos (horphans.mpr h), fun h => if_neg (mt horphans.mp h)⟩

theorem passSpec_passed (env : Env) (translator : PodService) (cs : Clientset) {pool : VNodePool}
    (w : Cluster) (hns : pool.ns ≠ "")
    (hdistinct : ((sourcePods env w cs pool).map (targetKey pool)).Nodup) :
    PassSpec env translator cs pool w (passed env translator cs pool w) := by
  have hview : ∀ p ∈ sourcePods env w cs pool, podView cs pool p
      (iterations env translator cs pool (sourcePods env w cs pool) w) =
      podViewAfter env translator pool p (podView cs pool p w) :=
    fun p hp => podView_iterations env translator (pairwise_podsApart hdistinct) hp w
  obtain ⟨hconfigMaps, hsecrets⟩ := passed_copies env translator cs pool w
  refine ⟨passed_rest env translator cs pool w, ?_, hconfigMaps, hsecrets, ?_, ?_, ?_, ?_, ?_⟩
  · rw [tenants_passed]
    exact tenants_iterations env translator cs pool _ w
  · intro p hp
    rw [passed, cleaned, get_foldl_removePod, if_neg (targetKey_not_orphan hp)]
    exact congrArg Prod.fst (hview p hp)
  · intro k hp hk hget hkns howned
    rw [(get_passed_off hns hk).1 ⟨hp, hget, hkns, howned⟩, hget]
    rfl
  · intro k hk hforeign
    refine (get_passed_off hns hk).2 ?_
    rintro ⟨hp, hget, howned⟩
    exact hforeign hp hget howned
  · intro p hp
    have htenant := congrArg Prod.snd (hview p hp)
    rw [tenants_passed]
    refine htenant.trans ?_
    simp only [podViewAfter, podView, get_sourcePod hp, Option.map_some]
  · intro k hk
    rw [tenants_passed]
    exact get_tenantPod_iterations_ne env translator cs pool hk w

end

/-- With distinct translated names and a host that accepts the pods, a pass ends
without an error and is exactly the update of `PassSpec`. -/
theorem pass_meets_specification (env : Env) (translator : PodService) (cs : Clientset)
    (pool : VNodePool) (w : Cluster) (hconnect : env.connect pool.tenantRef = .ok cs)
    (hns : pool.ns ≠ "")
    (hdistinct : ((sourcePods env w cs pool).map (targetKey pool)).Nodup)
    (haccepts : ∀ p ∈ sourcePods env w cs pool, ∃ shown,
      env.storePod (targetPod translator pool p) = .ok shown) :
    ((reconcilePool translator pool).run (handle env) w).1.2 = none ∧
      PassSpec env translator cs pool w
        ((reconcilePool translator pool).run (handle env) w).2 := by
  rcases run_reconcilePool translator w hconnect with
    ⟨result, hrun⟩ | ⟨p, hp, err, _, _, hrejects, _⟩
  · rw [hrun]
    exact ⟨rfl, passSpec_passed env translator cs w hns hdistinct⟩
  · obtain ⟨shown, hshown⟩ := haccepts p hp
    rw [Rejects, hshown] at hrejects
    cases hrejects

theorem driftedCluster_meets_specification :
    (driftedCluster.hostPods.items.length = 2 ∧
      (driftedPass driftedCluster).hostPods.items.length = 1) ∧
    PassSpec Env.plain ⟨"kata"⟩ ⟨"acme"⟩ (acmePool 1) driftedCluster
      (driftedPass driftedCluster) :=
  ⟨by decide, (pass_meets_specification Env.plain ⟨"kata"⟩ ⟨"acme"⟩ (acmePool 1) driftedCluster
    rfl (by decide) (by decide) fun _ _ => ⟨_, rfl⟩).2⟩

end VNodeOperator.Pass
