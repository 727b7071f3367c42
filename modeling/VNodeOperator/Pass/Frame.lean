import VNodeOperator.Pass.Run

/-!
# What no pass changes

A pass writes host objects and the status of tenant pods.  The virtual nodes,
the rest of the tenant pods and the tenants' ConfigMaps and Secrets stay, so the
next pass handles the same source pods and copies the same objects.
-/

namespace VNodeOperator.Pass

open Model Kube Adapter Ports ProofSupport Service PodExecution

def shape (p : CorePod) : CorePod := { p with status := {} }

/-- The clusters agree on everything that decides what a pass handles. -/
structure Frame (w w' : Cluster) : Prop where
  vnodes : w'.vnodes = w.vnodes
  pods : ∀ cs, (w'.tenants cs).pods.items.map shape = (w.tenants cs).pods.items.map shape
  configMaps : ∀ cs, (w'.tenants cs).configMaps = (w.tenants cs).configMaps
  secrets : ∀ cs, (w'.tenants cs).secrets = (w.tenants cs).secrets

namespace Frame

variable {w w' w'' : Cluster}

theorem refl (w : Cluster) : Frame w w := ⟨rfl, fun _ => rfl, fun _ => rfl, fun _ => rfl⟩

theorem trans (h : Frame w w') (h' : Frame w' w'') : Frame w w'' where
  vnodes := h'.vnodes.trans h.vnodes
  pods cs := (h'.pods cs).trans (h.pods cs)
  configMaps cs := (h'.configMaps cs).trans (h.configMaps cs)
  secrets cs := (h'.secrets cs).trans (h.secrets cs)

theorem of_eq (hvnodes : w'.vnodes = w.vnodes) (htenants : w'.tenants = w.tenants) :
    Frame w w' := by
  refine ⟨hvnodes, ?_, ?_, ?_⟩ <;> intro cs <;> rw [htenants]

theorem putTenantPod {cs : Clientset} {old : CorePod} {k : ObjKey} (status : PodStatus)
    (hold : (w.tenants cs).pods.get k = some old) :
    Frame w (w.putTenantPod cs (withPodStatus old status)) := by
  have hkey : (w.tenants cs).pods.get (withPodStatus old status).key = some old := by
    have hsame : old.key = k := Store.key_of_get hold
    rw [← hsame] at hold
    exact hold
  refine ⟨rfl, ?_, ?_, ?_⟩ <;> intro cs' <;> by_cases hcs : cs' = cs
  · subst hcs
    simp only [Cluster.putTenantPod, Cluster.setTenant, Function.update_self]
    exact Store.map_put_of_some hkey rfl
  all_goals simp [Cluster.putTenantPod, Cluster.setTenant, hcs]

end Frame

section

variable {env : Env} {translator : PodService} {cs : Clientset} {pool : VNodePool}
  {p : CorePod} {w w' : Cluster}

theorem PodStep.frame (hstep : PodStep env translator cs pool p w w') : Frame w w' := by
  rcases hstep.tenants with hsame | ⟨old, status, hold, _, hput⟩
  · exact Frame.of_eq hstep.vnodes hsame
  · refine (Frame.putTenantPod status hold).trans (Frame.of_eq hstep.vnodes hput)

theorem frame_iterations (env : Env) (translator : PodService) (cs : Clientset)
    (pool : VNodePool) (ps : List CorePod) (w : Cluster) :
    Frame w (iterations env translator cs pool ps w) := by
  induction ps generalizing w with
  | nil => exact Frame.refl w
  | cons p ps ih => exact (podStep_iterated env translator cs pool p w).frame.trans (ih _)

theorem frame_cleaned (env : Env) (pool : VNodePool) (ps : List CorePod) (w : Cluster) :
    Frame w (cleaned env pool ps w) := by
  rw [cleaned_eq]
  exact Frame.of_eq rfl rfl

theorem frame_passed (env : Env) (translator : PodService) (cs : Clientset) (pool : VNodePool)
    (w : Cluster) : Frame w (passed env translator cs pool w) :=
  (frame_iterations env translator cs pool _ w).trans (frame_cleaned env pool _ _)

/-! ## Source pods -/

theorem shape_sourcePods (env : Env) (w : Cluster) (cs : Clientset) (pool : VNodePool) :
    (sourcePods env w cs pool).map shape = ((w.tenants cs).pods.items.map shape).filter
      (isSourcePod (readyNames ((env.order (w.poolVNodes pool.ns pool.name)).map
        NodeRepository.crToNode))) := by
  rw [sourcePods, List.filter_map]
  rfl

/-- The next pass handles the same source pods, up to their status. -/
theorem Frame.sourcePods (h : Frame w w') (env : Env) (cs : Clientset) (pool : VNodePool) :
    (Pass.sourcePods env w' cs pool).map shape = (Pass.sourcePods env w cs pool).map shape := by
  rw [shape_sourcePods, shape_sourcePods, h.pods, Cluster.poolVNodes, Cluster.poolVNodes, h.vnodes]

/-! ## Copies -/

theorem Frame.configMapWrites (h : Frame w w') (cs : Clientset) (pool : VNodePool)
    (p : CorePod) :
    Pass.configMapWrites (w'.tenants cs) pool p = Pass.configMapWrites (w.tenants cs) pool p := by
  unfold Pass.configMapWrites configMapFor
  rw [h.configMaps]

theorem Frame.secretWrites (h : Frame w w') (cs : Clientset) (pool : VNodePool) (p : CorePod) :
    Pass.secretWrites (w'.tenants cs) pool p = Pass.secretWrites (w.tenants cs) pool p := by
  unfold Pass.secretWrites secretFor
  rw [h.secrets]

theorem iterations_copies (ps : List CorePod) :
    (iterations env translator cs pool ps w).hostConfigMaps =
        (ps.flatMap (configMapWrites (w.tenants cs) pool)).foldl Store.put w.hostConfigMaps ∧
      (iterations env translator cs pool ps w).hostSecrets =
        (ps.flatMap (secretWrites (w.tenants cs) pool)).foldl Store.put w.hostSecrets := by
  induction ps generalizing w with
  | nil => exact ⟨rfl, rfl⟩
  | cons p ps ih =>
      have hframe := (podStep_iterated env translator cs pool p w).frame
      have hconfigMaps : (iterated env translator cs pool p w).hostConfigMaps =
          (configMapWrites (w.tenants cs) pool p).foldl Store.put w.hostConfigMaps := by
        rw [iterated_eq]
        rfl
      have hsecrets : (iterated env translator cs pool p w).hostSecrets =
          (secretWrites (w.tenants cs) pool p).foldl Store.put w.hostSecrets := by
        rw [iterated_eq]
        rfl
      obtain ⟨ihConfigMaps, ihSecrets⟩ := ih (w := iterated env translator cs pool p w)
      rw [List.flatMap_cons, List.flatMap_cons, List.foldl_append, List.foldl_append,
        ← hconfigMaps, ← hsecrets]
      have hw : configMapWrites ((iterated env translator cs pool p w).tenants cs) pool =
          configMapWrites (w.tenants cs) pool := funext (hframe.configMapWrites cs pool)
      have hw' : secretWrites ((iterated env translator cs pool p w).tenants cs) pool =
          secretWrites (w.tenants cs) pool := funext (hframe.secretWrites cs pool)
      rw [hw] at ihConfigMaps
      rw [hw'] at ihSecrets
      exact ⟨ihConfigMaps, ihSecrets⟩

theorem passed_copies (env : Env) (translator : PodService) (cs : Clientset)
    (pool : VNodePool) (w : Cluster) :
    (passed env translator cs pool w).hostConfigMaps =
        ((sourcePods env w cs pool).flatMap (configMapWrites (w.tenants cs) pool)).foldl
          Store.put w.hostConfigMaps ∧
      (passed env translator cs pool w).hostSecrets =
        ((sourcePods env w cs pool).flatMap (secretWrites (w.tenants cs) pool)).foldl
          Store.put w.hostSecrets := by
  rw [passed, cleaned_eq]
  exact iterations_copies _

end

end VNodeOperator.Pass
