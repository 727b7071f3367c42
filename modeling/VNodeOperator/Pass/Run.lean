import VNodeOperator.Pass.Calls

/-!
# A pass without failing calls

When every call is answered, a pass is a function of the clusters: each
iteration over a source pod is `iterated`, and the pass ends by removing the
orphans.
-/

namespace VNodeOperator.Pass

open Model Kube Adapter Ports ProofSupport Service PodExecution

/-! ## Copying ConfigMaps and Secrets -/

def copyRefs (t : TenantCluster) (pool : VNodePool) (refs : List VolumeResourceRef)
    (w : Cluster) : Cluster :=
  { w with
    hostConfigMaps := (refs.filterMap (configMapFor t pool)).foldl Store.put w.hostConfigMaps
    hostSecrets := (refs.filterMap (secretFor t pool)).foldl Store.put w.hostSecrets }

section

variable {env : Env} {translator : PodService} {cs : Clientset} {pool : VNodePool}
  {p : CorePod} {w : Cluster}

theorem run_syncResource (ref : VolumeResourceRef) :
    (syncResource cs pool ref ()).run (handle env) w =
      (.next (), copyRefs (w.tenants cs) pool [ref] w) := by
  unfold syncResource
  cases htype : ref.type with
  | configMap =>
      have hsecret : secretFor (w.tenants cs) pool ref = none := by simp [secretFor, htype]
      simp only [ask, Prog.run_bind, Prog.run_perform]
      cases hget : (w.tenants cs).configMaps.get ⟨ref.sourceNamespace, ref.sourceName⟩ with
      | none =>
          have hnone : configMapFor (w.tenants cs) pool ref = none := by
            simp [configMapFor, htype, hget]
          simp [handle, find_none _ _ hget, notFoundError, Err.isNotFound, copyRefs, hnone, hsecret]
      | some cm =>
          have hsome : configMapFor (w.tenants cs) pool ref = some (hostConfigMap pool ref cm) := by
            simp [configMapFor, htype, hget]
          have hcall : handle env
              (.getTenantConfigMap cs ⟨ref.sourceNamespace, ref.sourceName⟩) w = (.ok cm, w) := by
            simp only [handle, find_some _ _ hget]
          simp only [hcall, handle_ensureConfigMap, Prog.run_bind, Prog.run_perform,
            Prog.run_pure, copyRefs, List.filterMap_cons, hsome, hsecret]
          rfl
  | secret =>
      have hconfigMap : configMapFor (w.tenants cs) pool ref = none := by
        simp [configMapFor, htype]
      simp only [ask, Prog.run_bind, Prog.run_perform]
      cases hget : (w.tenants cs).secrets.get ⟨ref.sourceNamespace, ref.sourceName⟩ with
      | none =>
          have hnone : secretFor (w.tenants cs) pool ref = none := by
            simp [secretFor, htype, hget]
          simp [handle, find_none _ _ hget, notFoundError, Err.isNotFound, copyRefs, hnone,
            hconfigMap]
      | some s =>
          have hsome : secretFor (w.tenants cs) pool ref = some (hostSecret pool ref s) := by
            simp [secretFor, htype, hget]
          have hcall : handle env
              (.getTenantSecret cs ⟨ref.sourceNamespace, ref.sourceName⟩) w = (.ok s, w) := by
            simp only [handle, find_some _ _ hget]
          simp only [hcall, handle_ensureSecret, Prog.run_bind, Prog.run_perform,
            Prog.run_pure, copyRefs, List.filterMap_cons, hsome, hconfigMap]
          rfl
  | _ => simp [copyRefs, configMapFor, secretFor, htype]

theorem copyRefs_cons (t : TenantCluster) (pool : VNodePool) (ref : VolumeResourceRef)
    (refs : List VolumeResourceRef) (w : Cluster) :
    copyRefs t pool (ref :: refs) w = copyRefs t pool refs (copyRefs t pool [ref] w) := by
  have hsplit : ref :: refs = [ref] ++ refs := rfl
  rw [hsplit]
  simp only [copyRefs, List.filterMap_append, List.foldl_append]

theorem run_syncResources (refs : List VolumeResourceRef) :
    (Prog.loop (syncResource cs pool) refs ()).run (handle env) w =
      (.next (), copyRefs (w.tenants cs) pool refs w) := by
  induction refs generalizing w with
  | nil => rfl
  | cons ref refs ih =>
      rw [Prog.loop_cons, Prog.run_bind, run_syncResource, copyRefs_cons _ _ ref refs]
      exact ih

theorem run_syncPodResources :
    (syncPodResources cs (translation translator pool p) pool).run (handle env) w =
      (.ok (), copyRefs (w.tenants cs) pool (podRefs p) w) := by
  unfold syncPodResources
  rw [resourceRefs_translation, Prog.run_bind, run_syncResources]
  rfl

/-! ## One source pod -/

/-- The clusters after the status of the host pod, if there is one, was mirrored. -/
def mirrored (cs : Clientset) (pool : VNodePool) (p : CorePod) (w : Cluster) : Cluster :=
  match w.hostPods.get (targetKey pool p), (w.tenants cs).pods.get p.key with
  | some hp, some old => w.putTenantPod cs (withPodStatus old hp.status)
  | _, _ => w

def ensured (env : Env) (translator : PodService) (cs : Clientset) (pool : VNodePool)
    (p : CorePod) (w : Cluster) : Cluster :=
  match w.hostPods.get (targetKey pool p) with
  | some cur =>
      if cur.spec.deleting then w
      else if podSpecsEqual cur.spec (targetPod translator pool p) then mirrored cs pool p w
      else w.removePod env (targetKey pool p)
  | none =>
      match env.storePod (targetPod translator pool p) with
      | .ok shown => mirrored cs pool p (w.addPod shown)
      | .error _ => w

def iterated (env : Env) (translator : PodService) (cs : Clientset) (pool : VNodePool)
    (p : CorePod) (w : Cluster) : Cluster :=
  let w := copyRefs (w.tenants cs) pool (podRefs p) w
  if isTerminalPod p then (mirrored cs pool p w).removePod env (targetKey pool p)
  else ensured env translator cs pool p w

def GoesOn (desired : List String) : Prog.Flow Progress Outcome → Prop
  | .next acc => acc.desired = desired
  | .exit _ => False

theorem GoesOn.exists_next {desired : List String} {r : Prog.Flow Progress Outcome}
    (h : GoesOn desired r) : ∃ acc, r = .next acc ∧ acc.desired = desired := by
  cases r with
  | next acc => exact ⟨acc, rfl, h⟩
  | exit outcome => exact h.elim

section

variable (env : Env) (translator : PodService) (cs : Clientset) (pool : VNodePool)
  (p : CorePod) (acc : Progress) {w : Cluster}

theorem run_mirrorStatus (hold : (w.tenants cs).pods.get p.key ≠ none) :
    GoesOn acc.desired
        ((mirrorStatus translator cs p (targetKey pool p) acc).run (handle env) w).1 ∧
      ((mirrorStatus translator cs p (targetKey pool p) acc).run (handle env) w).2 =
        mirrored cs pool p w := by
  obtain ⟨old, hold⟩ := Option.ne_none_iff_exists'.mp hold
  unfold mirrorStatus
  simp only [ask, Prog.run_bind, Prog.run_perform]
  cases hget : w.hostPods.get (targetKey pool p) with
  | none =>
      have hcall : handle env (.getPodStatus (targetKey pool p)) w =
          (.error (notFoundError "pods" (targetKey pool p).name), w) := by
        simp only [handle, hget]
      simp only [hcall, Err.isNotFound, notFoundError, decide_true, if_true, Prog.run_pure,
        mirrored, hget, and_true]
      rfl
  | some hp =>
      have hcall : handle env (.getPodStatus (targetKey pool p)) w = (.ok hp.status, w) := by
        simp only [handle, hget]
      have hread : handle env (.getTenantPod cs p.key) w = (.ok old, w) := by
        simp only [handle, find_some _ _ hold]
      have hupdate : handle env (.updateTenantPod cs (withPodStatus old hp.status)) w =
          (.ok (), w.putTenantPod cs (withPodStatus old hp.status)) :=
        handle_updateTenantPod hold
      simp only [hcall, PodService.syncStatus, updateTenantPodStatus, ask, Prog.run_bind,
        Prog.run_perform, hread, hupdate, Prog.run_pure, mirrored, hget, hold, and_true]
      rfl

theorem run_reportPod (hold : (w.tenants cs).pods.get p.key ≠ none) :
    GoesOn acc.desired
        ((reportPod translator cs p (targetKey pool p) acc).run (handle env) w).1 ∧
      ((reportPod translator cs p (targetKey pool p) acc).run (handle env) w).2 =
        if isTerminalPod p then (mirrored cs pool p w).removePod env (targetKey pool p)
        else mirrored cs pool p w := by
  obtain ⟨hnext, hstate⟩ := run_mirrorStatus env translator cs pool p acc hold
  obtain ⟨acc', hflow, hdesired⟩ := hnext.exists_next
  unfold reportPod
  rw [Prog.run_bind, hstate, hflow]
  simp only [deleteFinished]
  split
  · simp only [ask, Prog.run_bind, Prog.run_perform, handle_deletePod, Prog.run_pure, and_true]
    exact hdesired
  · exact ⟨hdesired, rfl⟩

theorem run_ensureHostPod_none {shown : PodSpec}
    (hget : w.hostPods.get (targetKey pool p) = none)
    (hshown : env.storePod (targetPod translator pool p) = .ok shown) :
    (ensureHostPod (targetPod translator pool p)).run (handle env) w =
      ((true, false, none), w.addPod shown) := by
  have hread : handle env (.getPod (targetKey pool p)) w =
      (.error (notFoundError "pods" (targetKey pool p).name), w) := by
    simp only [handle, hget]
  have hcreate : handle env (.createPod (targetPod translator pool p)) w =
      (.ok (), w.addPod shown) := by
    simp only [handle, hshown, targetPod_key, hget]
  unfold ensureHostPod
  simp only [targetPod_key, ask, Prog.run_bind, Prog.run_perform, hread, Err.isNotFound,
    notFoundError, decide_true, if_true, hcreate, Prog.run_pure]
  rfl

theorem run_ensureHostPod_rejected {err : Err}
    (hget : w.hostPods.get (targetKey pool p) = none)
    (hshown : env.storePod (targetPod translator pool p) = .error err) :
    (ensureHostPod (targetPod translator pool p)).run (handle env) w =
      ((true, false, some err), w) := by
  have hread : handle env (.getPod (targetKey pool p)) w =
      (.error (notFoundError "pods" (targetKey pool p).name), w) := by
    simp only [handle, hget]
  have hcreate : handle env (.createPod (targetPod translator pool p)) w = (.error err, w) := by
    simp only [handle, hshown]
  unfold ensureHostPod
  simp only [targetPod_key, ask, Prog.run_bind, Prog.run_perform, hread, Err.isNotFound,
    notFoundError, decide_true, if_true, hcreate, Prog.run_pure]
  rfl

theorem run_ensureHostPod_some {cur : HostPod}
    (hget : w.hostPods.get (targetKey pool p) = some cur) :
    (ensureHostPod (targetPod translator pool p)).run (handle env) w =
      if cur.spec.deleting then ((false, false, some errPodTerminating), w)
      else if podSpecsEqual cur.spec (targetPod translator pool p) then ((false, false, none), w)
      else ((false, true, some errPodTerminating), w.removePod env (targetKey pool p)) := by
  have hread : handle env (.getPod (targetKey pool p)) w = (.ok cur.spec, w) := by
    simp only [handle, hget]
  unfold ensureHostPod
  simp only [targetPod_key, ask, Prog.run_bind, Prog.run_perform, hread]
  split
  · rfl
  · split
    · rfl
    · simp only [Prog.run_bind, Prog.run_perform, handle_deletePod, Prog.run_pure]

theorem run_afterEnsure (created deleted : Bool) (hlive : isTerminalPod p = false)
    (hold : (w.tenants cs).pods.get p.key ≠ none) :
    GoesOn acc.desired ((afterEnsure translator cs p (targetKey pool p) acc
        (created, deleted, none)).run (handle env) w).1 ∧
      ((afterEnsure translator cs p (targetKey pool p) acc
        (created, deleted, none)).run (handle env) w).2 = mirrored cs pool p w := by
  have h := run_reportPod env translator cs pool p (countPods acc created deleted) hold
  rw [hlive, if_neg Bool.false_ne_true] at h
  exact h

/-- The second half of an iteration over an unfinished source pod: it goes on, or
the host has rejected the pod. -/
theorem run_ensured (hlive : isTerminalPod p = false)
    (hold : (w.tenants cs).pods.get p.key ≠ none) :
    let rest := ensureHostPod (targetPod translator pool p) >>=
      afterEnsure translator cs p (targetKey pool p) acc
    (GoesOn acc.desired (rest.run (handle env) w).1 ∧
        (rest.run (handle env) w).2 = ensured env translator cs pool p w) ∨
      ∃ err reported, env.storePod (targetPod translator pool p) = .error err ∧
        (rest.run (handle env) w).1 = .exit (stop acc.result err reported) := by
  intro rest
  change (GoesOn acc.desired (Prog.run _ (_ >>= _) w).1 ∧ (Prog.run _ (_ >>= _) w).2 = _) ∨
    ∃ err reported, _ ∧ (Prog.run _ (_ >>= _) w).1 = _
  rw [Prog.run_bind]
  cases hget : w.hostPods.get (targetKey pool p) with
  | none =>
      cases hshown : env.storePod (targetPod translator pool p) with
      | ok shown =>
          left
          rw [run_ensureHostPod_none env translator pool p hget hshown]
          have h := run_afterEnsure env translator cs pool p acc true false hlive
            (w := w.addPod shown) hold
          simp only [ensured, hget, hshown]
          exact h
      | error err =>
          rw [run_ensureHostPod_rejected env translator pool p hget hshown]
          by_cases hkind : err.kind = .podTerminating
          · left
            simp only [ensured, hget, hshown, afterEnsure, if_pos hkind]
            exact ⟨rfl, rfl⟩
          · right
            refine ⟨err, err.wrap ("ensuring host pod for " ++ p.ns ++ "/" ++ p.name), rfl, ?_⟩
            simp only [afterEnsure, if_neg hkind]
            rfl
  | some cur =>
      left
      rw [run_ensureHostPod_some env translator pool p hget]
      simp only [ensured, hget]
      split
      · exact ⟨rfl, rfl⟩
      · split
        · exact run_afterEnsure env translator cs pool p acc false false hlive hold
        · exact ⟨rfl, rfl⟩

/-- An iteration leaves `iterated` and goes on, or the host has rejected the pod. -/
theorem run_reconcilePod (hold : (w.tenants cs).pods.get p.key ≠ none) :
    (GoesOn (keyForPod pool.ns (targetKey pool p).name :: acc.desired)
        ((reconcilePod translator cs pool p acc).run (handle env) w).1 ∧
      ((reconcilePod translator cs pool p acc).run (handle env) w).2 =
        iterated env translator cs pool p w) ∨
      ∃ err reported, env.storePod (targetPod translator pool p) = .error err ∧
        ((reconcilePod translator cs pool p acc).run (handle env) w).1 =
          .exit (stop acc.result err reported) := by
  let w₁ := copyRefs (w.tenants cs) pool (podRefs p) w
  let acc' : Progress := { acc with
    desired := keyForPod pool.ns (targetKey pool p).name :: acc.desired }
  have hsync : (syncPodResources cs (translation translator pool p) pool).run (handle env) w =
      (.ok (), w₁) := run_syncPodResources
  unfold reconcilePod
  rw [translate_eq]
  simp only [Prog.run_bind, hsync]
  cases hterminal : isTerminalPod p with
  | true =>
      left
      have hreport := run_reportPod env translator cs pool p acc' (w := w₁) hold
      rw [hterminal, if_pos rfl] at hreport
      rw [iterated, hterminal]
      exact hreport
  | false =>
      rw [iterated, hterminal]
      exact run_ensured env translator cs pool p acc' hterminal (w := w₁) hold

end

/-! ## What an iteration leaves -/

theorem mirrored_spec (cs : Clientset) (pool : VNodePool) (p : CorePod) (w : Cluster) :
    Mirrored cs pool p w (mirrored cs pool p w) := by
  unfold mirrored
  split
  · next hp old hhp hold => exact Or.inr ⟨hp, old, hhp, hold, rfl⟩
  · exact Or.inl rfl

theorem copied_copyRefs (cs : Clientset) (pool : VNodePool) (p : CorePod) (w : Cluster) :
    Copied (configMapWrites (w.tenants cs) pool p) (secretWrites (w.tenants cs) pool p) w
      (copyRefs (w.tenants cs) pool (podRefs p) w) :=
  ⟨rfl, fun _ h => Store.get_foldl_put_of_ne h _, fun _ h => Store.get_foldl_put_of_ne h _⟩

theorem podStep_iterated (env : Env) (translator : PodService) (cs : Clientset)
    (pool : VNodePool) (p : CorePod) (w : Cluster) :
    PodStep env translator cs pool p w (iterated env translator cs pool p w) := by
  have hcopied := copied_copyRefs cs pool p w
  have hself : PodStep env translator cs pool p w
      (copyRefs (w.tenants cs) pool (podRefs p) w) :=
    PodStep.of_mirrored hcopied (Or.inl rfl) (Or.inl rfl)
  have hmirrored : PodStep env translator cs pool p w
      (mirrored cs pool p (copyRefs (w.tenants cs) pool (podRefs p) w)) :=
    PodStep.of_mirrored hcopied (Or.inl rfl) (mirrored_spec cs pool p _)
  unfold iterated
  dsimp only
  split
  · next hterminal =>
      exact PodStep.removePod (Or.inl hterminal) hmirrored (mirrored_spec cs pool p _).hostPods
  · next hlive =>
      unfold ensured
      split
      · next cur hcur =>
          split
          · exact hself
          · next hdeleting =>
              split
              · exact hmirrored
              · next hequal =>
                  exact PodStep.removePod (Or.inr ⟨cur, hcur, by simpa using hdeleting,
                    by simpa using hequal⟩) hself rfl
      · next hnone =>
          split
          · next shown hshown =>
              exact PodStep.of_mirrored hcopied
                (Or.inr ⟨by simpa using hlive, hnone, shown, hshown, rfl⟩)
                (mirrored_spec cs pool p _)
          · exact hself

theorem iterated_eq (env : Env) (translator : PodService) (cs : Clientset) (pool : VNodePool)
    (p : CorePod) (w : Cluster) :
    iterated env translator cs pool p w =
      { copyRefs (w.tenants cs) pool (podRefs p) w with
        hostPods := (iterated env translator cs pool p w).hostPods
        tenants := (iterated env translator cs pool p w).tenants } := by
  have hmirrored : ∀ w', mirrored cs pool p w' =
      { w' with tenants := (mirrored cs pool p w').tenants } := by
    intro w'
    rcases mirrored_spec cs pool p w' with h | ⟨_, _, _, _, h⟩ <;> rw [h]
    rfl
  unfold iterated
  dsimp only
  split
  · rw [Cluster.removePod_eq, hmirrored]
  · unfold ensured
    split
    · split
      · rfl
      · split
        · rw [hmirrored]
        · rw [Cluster.removePod_eq]
    · split
      · rw [hmirrored]
        rfl
      · rfl

/-! ### Host pods after an iteration -/

theorem hostPods_iterated_removed (h : isTerminalPod p = true ∨ Drifted translator pool p w) :
    (iterated env translator cs pool p w).hostPods =
      (w.removePod env (targetKey pool p)).hostPods := by
  unfold iterated
  dsimp only
  split
  · exact Cluster.removePod_hostPods_congr env _ (mirrored_spec cs pool p _).hostPods
  · next hlive =>
      obtain ⟨cur, hcur, hdeleting, hequal⟩ := h.resolve_left hlive
      have hcopied : (copyRefs (w.tenants cs) pool (podRefs p) w).hostPods.get
          (targetKey pool p) = some cur := hcur
      simp only [ensured, hcopied, hdeleting, hequal, Bool.false_eq_true, if_false]
      exact Cluster.removePod_hostPods_congr env _ rfl

theorem hostPods_iterated_created {shown : PodSpec} (hlive : isTerminalPod p = false)
    (hnone : w.hostPods.get (targetKey pool p) = none)
    (hshown : env.storePod (targetPod translator pool p) = .ok shown) :
    (iterated env translator cs pool p w).hostPods = (w.addPod shown).hostPods := by
  have hcopied : (copyRefs (w.tenants cs) pool (podRefs p) w).hostPods.get
      (targetKey pool p) = none := hnone
  simp only [iterated, hlive, ensured, hcopied, hshown, Bool.false_eq_true, if_false]
  exact (mirrored_spec cs pool p _).hostPods

theorem hostPods_iterated_kept {cur : HostPod} (hlive : isTerminalPod p = false)
    (hcur : w.hostPods.get (targetKey pool p) = some cur)
    (hequal : podSpecsEqual cur.spec (targetPod translator pool p) = true) :
    (iterated env translator cs pool p w).hostPods = w.hostPods := by
  have hcopied : (copyRefs (w.tenants cs) pool (podRefs p) w).hostPods.get
      (targetKey pool p) = some cur := hcur
  simp only [iterated, hlive, ensured, hcopied, hequal, Bool.false_eq_true, if_false, if_true]
  split
  · rfl
  · exact (mirrored_spec cs pool p _).hostPods

/-! ## The pass -/

def iterations (env : Env) (translator : PodService) (cs : Clientset) (pool : VNodePool)
    (ps : List CorePod) (w : Cluster) : Cluster :=
  ps.foldl (fun w p => iterated env translator cs pool p w) w

def desiredKeys (pool : VNodePool) (ps : List CorePod) : List String :=
  ps.map fun p => keyForPod pool.ns (targetKey pool p).name

def orphans (pool : VNodePool) (ps : List CorePod) (w : Cluster) : List HostPod :=
  (w.podsByLabels pool.ns (ownerLabels pool.name)).filter fun hp =>
    keyForPod hp.spec.ns hp.spec.name ∉ desiredKeys pool ps

def cleaned (env : Env) (pool : VNodePool) (ps : List CorePod) (w : Cluster) : Cluster :=
  (orphans pool ps w).foldl (fun w hp => w.removePod env hp.key) w

theorem cleaned_eq (env : Env) (pool : VNodePool) (ps : List CorePod) (w : Cluster) :
    cleaned env pool ps w = { w with hostPods := (cleaned env pool ps w).hostPods } := by
  unfold cleaned
  generalize orphans pool ps w = hosts
  induction hosts generalizing w with
  | nil => rfl
  | cons hp hosts ih =>
      rw [List.foldl_cons, ih (w.removePod env hp.key), Cluster.removePod_eq]

def passed (env : Env) (translator : PodService) (cs : Clientset) (pool : VNodePool)
    (w : Cluster) : Cluster :=
  cleaned env pool (sourcePods env w cs pool)
    (iterations env translator cs pool (sourcePods env w cs pool) w)

def Rejects (env : Env) (translator : PodService) (pool : VNodePool) (p : CorePod)
    (err : Err) : Prop :=
  env.storePod (targetPod translator pool p) = .error err

theorem PodStep.tenantPod_ne_none {w' : Cluster} (hstep : PodStep env translator cs pool p w w')
    {k : ObjKey} (h : (w.tenants cs).pods.get k ≠ none) : (w'.tenants cs).pods.get k ≠ none := by
  rcases hstep.tenants with hsame | ⟨old, status, _, _, hput⟩
  · rw [hsame]
    exact h
  · rw [hput]
    simp only [Cluster.putTenantPod, Cluster.setTenant, Function.update_self]
    rw [Store.get_put]
    split
    · exact Option.some_ne_none _
    · exact h

theorem run_iterations (env : Env) (translator : PodService) (ps : List CorePod) (acc : Progress)
    (hold : ∀ p ∈ ps, (w.tenants cs).pods.get p.key ≠ none) :
    (∃ result, (Prog.loop (reconcilePod translator cs pool) ps acc).run (handle env) w =
        (.next ⟨result, (desiredKeys pool ps).reverse ++ acc.desired⟩,
          iterations env translator cs pool ps w)) ∨
      ∃ p ∈ ps, ∃ err result reported, Rejects env translator pool p err ∧
        ((Prog.loop (reconcilePod translator cs pool) ps acc).run (handle env) w).1 =
          .exit (stop result err reported) := by
  induction ps generalizing acc w with
  | nil => exact Or.inl ⟨acc.result, rfl⟩
  | cons p ps ih =>
      rw [Prog.loop_cons, Prog.run_bind]
      rcases run_reconcilePod env translator cs pool p acc (hold p List.mem_cons_self) with
        ⟨hnext, hstate⟩ | ⟨err, reported, hrejects, hexit⟩
      · obtain ⟨acc', hflow, hdesired⟩ := hnext.exists_next
        rw [hstate, hflow]
        have hold' : ∀ q ∈ ps, ((iterated env translator cs pool p w).tenants cs).pods.get
            q.key ≠ none := fun q hq =>
          (podStep_iterated env translator cs pool p w).tenantPod_ne_none
            (hold q (List.mem_cons_of_mem p hq))
        rcases ih acc' hold' with ⟨result, hrun⟩ | ⟨q, hq, err, result, reported, hrejects, hexit⟩
        · left
          refine ⟨result, ?_⟩
          dsimp only
          rw [hrun, hdesired]
          simp [desiredKeys, iterations]
        · exact Or.inr ⟨q, List.mem_cons_of_mem p hq, err, result, reported, hrejects, hexit⟩
      · refine Or.inr ⟨p, List.mem_cons_self, err, acc.result, reported, hrejects, ?_⟩
        rw [hexit]
        rfl

theorem run_deleteOrphans (env : Env) (desired : List String) (hosts : List HostPod)
    (result : PodExecutionResult) (w : Cluster) :
    ∃ result', (Prog.loop (deleteOrphan desired) (hosts.map HostPod.spec) result).run
        (handle env) w =
      (.next result', (hosts.filter fun hp => keyForPod hp.spec.ns hp.spec.name ∉ desired).foldl
        (fun w hp => w.removePod env hp.key) w) := by
  induction hosts generalizing result w with
  | nil => exact ⟨result, rfl⟩
  | cons hp hosts ih =>
      rw [List.map_cons, Prog.loop_cons, Prog.run_bind]
      unfold deleteOrphan
      by_cases hdesired : keyForPod hp.spec.ns hp.spec.name ∈ desired
      · rw [if_pos hdesired, List.filter_cons_of_neg (by simpa using hdesired)]
        exact ih result w
      · rw [if_neg hdesired, List.filter_cons_of_pos (by simpa using hdesired)]
        simp only [ask, Prog.run_bind, Prog.run_perform, handle_deletePod, Prog.run_pure,
          List.foldl_cons]
        exact ih _ _

theorem run_cleanupOrphans (env : Env) (ps : List CorePod) (result : PodExecutionResult)
    (w : Cluster) :
    ∃ result', (cleanupOrphans pool ⟨result, (desiredKeys pool ps).reverse⟩).run (handle env) w =
      ((result', none), cleaned env pool ps w) := by
  obtain ⟨result', hrun⟩ := run_deleteOrphans env (desiredKeys pool ps).reverse
    (w.podsByLabels pool.ns (ownerLabels pool.name)) result w
  refine ⟨result', ?_⟩
  have hlist : handle env (.listPodsByLabels pool.ns (ownerLabels pool.name)) w =
      (.ok ((w.podsByLabels pool.ns (ownerLabels pool.name)).map HostPod.spec), w) := rfl
  unfold cleanupOrphans
  simp only [ask, Prog.run_bind, Prog.run_perform, hlist, hrun, Prog.run_pure]
  simp only [List.mem_reverse, cleaned, orphans]

theorem run_listTenantPodsForNodes (ready : List String) :
    (listTenantPodsForNodes cs ready).run (handle env) w =
      (.ok ((w.tenants cs).pods.items.filter (isSourcePod ready)), w) := by
  unfold listTenantPodsForNodes
  split
  · next hready =>
      have hnil : ready = [] := List.eq_nil_of_length_eq_zero hready
      simp [hnil, isSourcePod]
  · rfl

/-- A pass leaves `passed` and reports no error, or the host has rejected a pod. -/
theorem run_reconcilePool (translator : PodService) (w : Cluster)
    (hconnect : env.connect pool.tenantRef = .ok cs) :
    (∃ result, (reconcilePool translator pool).run (handle env) w =
        ((result, none), passed env translator cs pool w)) ∨
      ∃ p ∈ sourcePods env w cs pool, ∃ err result reported, Rejects env translator pool p err ∧
        ((reconcilePool translator pool).run (handle env) w).1 = stop result err reported := by
  have hclient : handle env (.tenantClient pool.tenantRef) w = (.ok cs, w) := by
    simp only [handle, hconnect]
  have hpass : (reconcilePool translator pool).run (handle env) w =
      (reconcilePods translator cs pool (sourcePods env w cs pool)).run (handle env) w := by
    unfold reconcilePool
    simp only [ask, Prog.run_bind, Prog.run_perform, hclient, handle_listByPool,
      run_listTenantPodsForNodes]
    rfl
  rw [hpass]
  unfold reconcilePods
  rw [Prog.run_bind]
  rcases run_iterations env translator (sourcePods env w cs pool)
    ⟨{ sourcePods := (sourcePods env w cs pool).length }, []⟩ get_sourcePod_ne_none with
    ⟨result, hrun⟩ | ⟨p, hp, err, result, reported, hrejects, hexit⟩
  · obtain ⟨result', hcleanup⟩ := run_cleanupOrphans env (sourcePods env w cs pool)
      result (iterations env translator cs pool (sourcePods env w cs pool) w)
    left
    refine ⟨result', ?_⟩
    rw [hrun, List.append_nil]
    exact hcleanup
  · right
    refine ⟨p, hp, err, result, reported, hrejects, ?_⟩
    rw [hexit]
    rfl

end

end VNodeOperator.Pass
