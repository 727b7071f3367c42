import VNodeOperator.Pass.Frame
import VNodeOperator.Service.NodeService

/-!
# Copies of ConfigMaps and Secrets

The ConfigMaps and Secrets that source pods mount are copied to the pool's
namespace under `<namespace>-<name>`.  Objects of different tenant namespaces,
or of different tenants, may meet under one such name, and the last copy wins.
The pods find the content of their own objects exactly when objects that meet
have the same content.
-/

namespace VNodeOperator.Pass

open Model Kube Adapter Ports ProofSupport Service NodeService PodExecution

/-! ## Mounted objects -/

/-- The ConfigMaps a source pod mounts: the host object its translated volume
names, and the tenant's object. -/
def configMapMounts (t : TenantCluster) (pool : VNodePool) (p : CorePod) :
    List (ObjKey × ConfigMap) :=
  ((podFromCore p).volumes.filter (fun v => v.type = .configMap)).filterMap fun v =>
    (t.configMaps.get ⟨p.ns, v.source⟩).map fun cm =>
      (⟨pool.ns, (renameVolume p.ns v).source⟩, cm)

def secretMounts (t : TenantCluster) (pool : VNodePool) (p : CorePod) :
    List (ObjKey × Secret) :=
  ((podFromCore p).volumes.filter (fun v => v.type = .secret)).filterMap fun v =>
    (t.secrets.get ⟨p.ns, v.source⟩).map fun s =>
      (⟨pool.ns, (renameVolume p.ns v).source⟩, s)

/-- The translated pod has a volume for each one of the source pod that is not
projected, under the renamed source. -/
theorem renameVolume_mem (translator : PodService) (pool : VNodePool) {p : CorePod}
    {v : Volume} (hv : v ∈ (podFromCore p).volumes) (htype : v.type ≠ .projected) :
    renameVolume p.ns v ∈ (targetPod translator pool p).volumes := by
  apply List.mem_map_of_mem
  exact List.mem_filter.mpr ⟨hv, by simpa using htype⟩

def copyOfConfigMap (pool : VNodePool) (m : ObjKey × ConfigMap) : ConfigMap where
  name := m.1.name
  ns := m.1.ns
  labels := ownerLabels pool.name
  data := m.2.data
  binaryData := m.2.binaryData

def copyOfSecret (pool : VNodePool) (m : ObjKey × Secret) : Secret where
  name := m.1.name
  ns := m.1.ns
  labels := ownerLabels pool.name
  data := m.2.data

theorem configMapWrites_eq (t : TenantCluster) (pool : VNodePool) (p : CorePod) :
    configMapWrites t pool p = (configMapMounts t pool p).map (copyOfConfigMap pool) := by
  rw [configMapWrites, podRefs, configMapMounts, List.filterMap_map, List.filterMap_filter,
    List.filterMap_filter, List.map_filterMap]
  congr 1
  funext v
  by_cases htype : v.type = .configMap
  · simp only [htype, Function.comp_apply, configMapFor, renameVolume, decide_true, true_or,
      if_true, Option.map_map]
    rfl
  · by_cases hsecret : v.type = .secret <;> simp [htype, hsecret, configMapFor]

theorem secretWrites_eq (t : TenantCluster) (pool : VNodePool) (p : CorePod) :
    secretWrites t pool p = (secretMounts t pool p).map (copyOfSecret pool) := by
  rw [secretWrites, podRefs, secretMounts, List.filterMap_map, List.filterMap_filter,
    List.filterMap_filter, List.map_filterMap]
  congr 1
  funext v
  by_cases htype : v.type = .secret
  · simp only [htype, Function.comp_apply, secretFor, renameVolume, decide_true, or_true, if_true,
      Option.map_map]
    rfl
  · by_cases hconfigMap : v.type = .configMap <;> simp [htype, hconfigMap, secretFor]

/-! ## Several passes -/

/-- A pass of a pool whose tenant can be reached, on a host that rejects no pod
because of a shutdown. -/
structure SyncPass where
  env : Env
  translator : PodService
  pool : VNodePool
  cs : Clientset
  connect : env.connect pool.tenantRef = .ok cs
  rejection : ∀ pod err, env.storePod pod = .error err → isIgnorableShutdownError err = false

namespace SyncPass

variable (x : SyncPass) (w : Cluster)

def error : Option Err := ((reconcilePool x.translator x.pool).run (handle x.env) w).1.2

def after : Cluster := ((reconcilePool x.translator x.pool).run (handle x.env) w).2

def configMaps : List (ObjKey × ConfigMap) :=
  (sourcePods x.env w x.cs x.pool).flatMap (configMapMounts (w.tenants x.cs) x.pool)

def secrets : List (ObjKey × Secret) :=
  (sourcePods x.env w x.cs x.pool).flatMap (secretMounts (w.tenants x.cs) x.pool)

theorem after_eq {x : SyncPass} {w : Cluster} (h : x.error w = none) :
    x.after w = passed x.env x.translator x.cs x.pool w := by
  rcases run_reconcilePool x.translator w x.connect with
    ⟨result, hrun⟩ | ⟨p, _, err, result, reported, hrejects, hexit⟩
  · rw [after, hrun]
  · rw [error, hexit, stop, x.rejection _ _ hrejects] at h
    cases h

theorem mounts_frame {w w' : Cluster} (x : SyncPass) (h : Frame w w') :
    x.configMaps w' = x.configMaps w ∧ x.secrets w' = x.secrets w := by
  have hconfigMaps : ∀ v, x.configMaps v = ((sourcePods x.env v x.cs x.pool).map shape).flatMap
      (configMapMounts (v.tenants x.cs) x.pool) := by
    intro v
    rw [List.flatMap_map]
    rfl
  have hsecrets : ∀ v, x.secrets v = ((sourcePods x.env v x.cs x.pool).map shape).flatMap
      (secretMounts (v.tenants x.cs) x.pool) := by
    intro v
    rw [List.flatMap_map]
    rfl
  refine ⟨?_, ?_⟩
  · rw [hconfigMaps, hconfigMaps, h.sourcePods]
    unfold configMapMounts
    rw [h.configMaps]
  · rw [hsecrets, hsecrets, h.sourcePods]
    unfold secretMounts
    rw [h.secrets]

theorem after_copies {x : SyncPass} {w : Cluster} (h : x.error w = none) :
    (x.after w).hostConfigMaps =
        ((x.configMaps w).map (copyOfConfigMap x.pool)).foldl Store.put w.hostConfigMaps ∧
      (x.after w).hostSecrets =
        ((x.secrets w).map (copyOfSecret x.pool)).foldl Store.put w.hostSecrets := by
  have hconfigMaps : (sourcePods x.env w x.cs x.pool).flatMap
      (configMapWrites (w.tenants x.cs) x.pool) =
      (x.configMaps w).map (copyOfConfigMap x.pool) := by
    simp only [configMaps, List.map_flatMap, ← configMapWrites_eq]
  have hsecrets : (sourcePods x.env w x.cs x.pool).flatMap
      (secretWrites (w.tenants x.cs) x.pool) = (x.secrets w).map (copyOfSecret x.pool) := by
    simp only [secrets, List.map_flatMap, ← secretWrites_eq]
  rw [after_eq h, ← hconfigMaps, ← hsecrets]
  exact passed_copies x.env x.translator x.cs x.pool w

end SyncPass

def afterAll (xs : List SyncPass) (w : Cluster) : Cluster := xs.foldl (fun w x => x.after w) w

def NoErrors : List SyncPass → Cluster → Prop
  | [], _ => True
  | x :: xs, w => x.error w = none ∧ NoErrors xs (x.after w)

structure Synced (xs : List SyncPass) (w : Cluster) : Prop where
  configMaps : ∀ x ∈ xs, ∀ m ∈ x.configMaps w, ∃ copy,
    (afterAll xs w).hostConfigMaps.get m.1 = some copy ∧
      copy.data = m.2.data ∧ copy.binaryData = m.2.binaryData
  secrets : ∀ x ∈ xs, ∀ m ∈ x.secrets w, ∃ copy,
    (afterAll xs w).hostSecrets.get m.1 = some copy ∧ copy.data = m.2.data

structure MeetingsAgree (xs : List SyncPass) (w : Cluster) : Prop where
  configMaps : ∀ x ∈ xs, ∀ y ∈ xs, ∀ m ∈ x.configMaps w, ∀ n ∈ y.configMaps w, m.1 = n.1 →
    m.2.data = n.2.data ∧ m.2.binaryData = n.2.binaryData
  secrets : ∀ x ∈ xs, ∀ y ∈ xs, ∀ m ∈ x.secrets w, ∀ n ∈ y.secrets w, m.1 = n.1 →
    m.2.data = n.2.data

theorem afterAll_copies {xs : List SyncPass} {w : Cluster} (h : NoErrors xs w) :
    (afterAll xs w).hostConfigMaps =
        (xs.flatMap fun x => (x.configMaps w).map (copyOfConfigMap x.pool)).foldl Store.put
          w.hostConfigMaps ∧
      (afterAll xs w).hostSecrets =
        (xs.flatMap fun x => (x.secrets w).map (copyOfSecret x.pool)).foldl Store.put
          w.hostSecrets := by
  induction xs generalizing w with
  | nil => exact ⟨rfl, rfl⟩
  | cons x xs ih =>
      obtain ⟨hx, hxs⟩ := h
      have hframe : Frame w (x.after w) := by
        rw [SyncPass.after_eq hx]
        exact frame_passed _ _ _ _ w
      obtain ⟨hconfigMaps, hsecrets⟩ := SyncPass.after_copies hx
      obtain ⟨ihConfigMaps, ihSecrets⟩ := ih hxs
      simp only [(SyncPass.mounts_frame _ hframe).1] at ihConfigMaps
      simp only [(SyncPass.mounts_frame _ hframe).2] at ihSecrets
      rw [hconfigMaps] at ihConfigMaps
      rw [hsecrets] at ihSecrets
      rw [List.flatMap_cons, List.flatMap_cons, List.foldl_append, List.foldl_append]
      exact ⟨ihConfigMaps, ihSecrets⟩

theorem forall_mem_copies {α β γ : Type} {xs : List α} {f : α → List β} {g : α → β → γ}
    {P : γ → Prop} :
    (∀ c ∈ xs.flatMap fun x => (f x).map (g x), P c) ↔ ∀ x ∈ xs, ∀ m ∈ f x, P (g x m) := by
  simp only [List.mem_flatMap, List.mem_map]
  constructor
  · intro h x hx m hm
    exact h _ ⟨x, hx, m, hm, rfl⟩
  · rintro h c ⟨x, hx, m, hm, rfl⟩
    exact h x hx m hm

/-- After passes without errors every mounted object has its content on the host
exactly when objects that meet under one name have the same content. -/
theorem synced_iff_meetingsAgree (xs : List SyncPass) (w : Cluster) (hok : NoErrors xs w) :
    Synced xs w ↔ MeetingsAgree xs w := by
  obtain ⟨hconfigMaps, hsecrets⟩ := afterAll_copies hok
  have hcm := Store.foldl_put_keeps_iff (fun cm : ConfigMap => (cm.data, cm.binaryData))
    (xs.flatMap fun x => (x.configMaps w).map (copyOfConfigMap x.pool)) w.hostConfigMaps
  have hsec := Store.foldl_put_keeps_iff (fun s : Secret => s.data)
    (xs.flatMap fun x => (x.secrets w).map (copyOfSecret x.pool)) w.hostSecrets
  rw [← hconfigMaps] at hcm
  rw [← hsecrets] at hsec
  simp only [forall_mem_copies, Prod.mk.injEq] at hcm hsec
  constructor
  · intro h
    have hcm' := hcm.mp h.configMaps
    have hsec' := hsec.mp h.secrets
    exact ⟨fun x hx y hy m hm n hn => hcm' x hx m hm y hy n hn,
      fun x hx y hy m hm n hn => hsec' x hx m hm y hy n hn⟩
  · intro h
    exact ⟨hcm.mpr fun x hx m hm y hy n hn => h.configMaps x hx y hy m hm n hn,
      hsec.mpr fun x hx m hm y hy n hn => h.secrets x hx y hy m hm n hn⟩

/-! ### Secrets that meet -/

def mountPass : SyncPass where
  env := Env.plain
  translator := ⟨"kata"⟩
  pool := acmePool 1
  cs := ⟨"acme"⟩
  connect := rfl
  rejection _ _ h := nomatch h

def mountingPod (ns name secret : String) : CorePod where
  name := name
  ns := ns
  nodeName := "vnode-web-1"
  volumes := [{ name := "v", secret := some secret }]

/-- The Secret `b-c` of the namespace `a` and the Secret `c` of `a-b`. -/
def mountTenant (pods : List CorePod) : TenantCluster where
  pods := pods.foldl Store.put .empty
  secrets :=
    (Store.empty.put { name := "b-c", ns := "a", data := AList.insert "key" [1] ∅ }).put
      { name := "c", ns := "a-b", data := AList.insert "key" [2] ∅ }

def mountCluster (pods : List CorePod) : Cluster :=
  acmeCluster (mountTenant pods)

theorem mountingPod_synced :
    Synced [mountPass] (mountCluster [mountingPod "a" "x" "b-c"]) :=
  (synced_iff_meetingsAgree [mountPass] (mountCluster [mountingPod "a" "x" "b-c"])
    ⟨by decide, trivial⟩).mpr ⟨by decide, by decide⟩

def meetingPods : List CorePod := [mountingPod "a" "x" "b-c", mountingPod "a-b" "y" "c"]

/-- After one pass without an error the pod of `a` finds the Secret of `a-b`. -/
theorem meetingPods_not_synced :
    NoErrors [mountPass] (mountCluster meetingPods) ∧
      ∃ m ∈ mountPass.secrets (mountCluster meetingPods),
        ((afterAll [mountPass] (mountCluster meetingPods)).hostSecrets.get m.1).map Secret.data ≠
          some m.2.data := by
  refine ⟨⟨by decide, trivial⟩, ?_⟩
  decide

end VNodeOperator.Pass
