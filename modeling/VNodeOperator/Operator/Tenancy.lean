import VNodeOperator.Requests
import VNodeOperator.ProofSupport.Compartments
import VNodeOperator.ProofSupport.Parts

/-!
# What belongs to a namespace

The pools of a namespace, their virtual nodes and everything the operator keeps
for them on the host live in that namespace; their tenants' clusters are reached
through the tenant references stored there.  A request made on behalf of a
namespace sees and changes only what belongs to it, as long as no two namespaces
refer to the same tenant cluster.
-/

namespace VNodeOperator.Operator

open Model Kube Ports Adapter ProofSupport

variable (env : Env) (home : Clientset → String) (n : String)

/-! ## The part of the clusters that a namespace owns -/

def inNs (k : ObjKey) : Bool := k.ns = n

/-- The clusters as they would be without the other namespaces and the tenant clusters at
home there. -/
def within (w : Cluster) : Cluster where
  vnodes := w.vnodes.part (inNs n)
  pools := w.pools.part (inNs n)
  hostPods := w.hostPods.part (inNs n)
  hostConfigMaps := w.hostConfigMaps.part (inNs n)
  hostSecrets := w.hostSecrets.part (inNs n)
  tenants := fun cs => if home cs = n then w.tenants cs else {}
  clock := w.clock

/-- A tenant reference that leads, if anywhere, to a cluster at home in the namespace. -/
def Local (t : TenantRef) : Prop := ∀ cs, env.connect t = .ok cs → home cs = n

/-- The tenant references stored in a namespace lead to clusters at home there. -/
structure AtHome (w : Cluster) : Prop where
  vnodes : ∀ cr ∈ w.vnodes.items, Local env home cr.ns (NodeRepository.tenantOf cr.annotations)
  pools : ∀ cr ∈ w.pools.items, Local env home cr.ns cr.tenantRef

/-! ## Requests on behalf of a namespace -/

def apiMay : ApiCall → Prop
  | .getVNode k | .deleteVNode k | .getConfigMap k | .getSecret k | .deletePod k => k.ns = n
  | .createVNode cr | .updateVNode cr =>
      cr.ns = n ∧ Local env home n (NodeRepository.tenantOf cr.annotations)
  | .updateVNodeStatus cr => cr.ns = n
  | .listVNodes ns _ => ns = n
  | .getClient tenant => Local env home n tenant
  | .createConfigMap cm | .updateConfigMap cm => cm.ns = n
  | .createSecret s | .updateSecret s => s.ns = n
  | .getLeaseNamespace cs | .createLeaseNamespace cs | .getNode cs _ | .createNode cs _
  | .updateNode cs _ | .updateNodeStatus cs _ | .deleteNode cs _ | .getLease cs _
  | .createLease cs _ | .updateLease cs _ | .deleteLease cs _ => home cs = n

def apiGets : (c : ApiCall) → c.Value → Prop
  | .getVNode _, cr | .createVNode _, cr =>
      cr.ns = n ∧ Local env home n (NodeRepository.tenantOf cr.annotations)
  | .listVNodes _ _, crs =>
      ∀ cr ∈ crs, cr.ns = n ∧ Local env home n (NodeRepository.tenantOf cr.annotations)
  | .getClient _, cs => home cs = n
  | .getConfigMap _, cm => cm.ns = n
  | .getSecret _, s => s.ns = n
  | _, _ => True

/-- The ports used as a whole that stay in a namespace.  An empty namespace would ask for
the host pods of all of them. -/
def portMay : Call → Prop
  | .tenantClient tenant => Local env home n tenant
  | .listTenantPods cs | .getTenantPod cs _ | .updateTenantPod cs _
  | .getTenantConfigMap cs _ | .getTenantSecret cs _ => home cs = n
  | .getPod k | .getPodStatus k | .getVNodePool k | .patchVNodePoolStatus k _ _ => k.ns = n
  | .createPod pod => pod.ns = n
  | .listPodsByLabels ns _ => ns = n ∧ ns ≠ ""
  | .listVNodes ns _ => ns = n
  | .updateVNodePool cr => cr.ns = n ∧ Local env home n cr.tenantRef
  | .now => True
  | _ => False

def portGets : (c : Call) → c.Value → Prop
  | .tenantClient _, cs => home cs = n
  | .listPodsByLabels _ _, pods => ∀ p ∈ pods, p.ns = n
  | .getVNodePool _, cr => cr.ns = n ∧ Local env home n cr.tenantRef
  | _, _ => True

/-- What a reply has to be is asked of successful ones only. -/
def onOk {α : Type} (Q : α → Prop) : Except Err α → Prop
  | .ok a => Q a
  | .error _ => True

def requestContract : Contract Request Request.Reply where
  may
    | .api c => apiMay env home n c
    | .port c => portMay env home n c
  gets
    | .api c, r => onOk (apiGets env home n c) r
    | .port c, r => onOk (portGets env home n c) r

variable {env home n}

/-! ## Reading -/

variable {w : Cluster}

theorem inNs_iff {k : ObjKey} : inNs n k = true ↔ k.ns = n := by simp [inNs]

theorem inNs_eq_false_iff {k : ObjKey} : inNs n k = false ↔ k.ns ≠ n := by simp [inNs]

theorem find_part {α : Type} {key : α → ObjKey} {s : Store key} {k : ObjKey} (hk : k.ns = n)
    (resource name : String) :
    find (s.part (inNs n)) k resource name = find s k resource name := by
  rw [find, Store.get_part (inNs_iff.mpr hk), find]

theorem get_part {α : Type} {key : α → ObjKey} (s : Store key) {k : ObjKey} (hk : k.ns = n) :
    (s.part (inNs n)).get k = s.get k := Store.get_part (inNs_iff.mpr hk)

theorem tenants_within {cs : Clientset} (hcs : home cs = n) :
    (within home n w).tenants cs = w.tenants cs := if_pos hcs

theorem poolVNodes_within (ns poolName : String) (hns : ns = n) :
    (within home n w).poolVNodes ns poolName = w.poolVNodes ns poolName := by
  apply Store.filter_part
  intro cr hcr
  rw [decide_eq_true_eq] at hcr
  exact inNs_iff.mpr (hcr.1.trans hns)

theorem podsByLabels_within {ns : String} (labels : StringMap) (hns : ns = n) (hne : ns ≠ "") :
    (within home n w).podsByLabels ns labels = w.podsByLabels ns labels := by
  apply Store.filter_part
  intro p hp
  rw [decide_eq_true_eq] at hp
  rcases hp.1 with hempty | hsame
  · exact absurd hempty hne
  · exact inNs_iff.mpr (hsame.trans hns)

/-! ## Writing -/

theorem part_put {α : Type} {key : α → ObjKey} (s : Store key) {a : α} (ha : (key a).ns = n) :
    (s.put a).part (inNs n) = (s.part (inNs n)).put a := Store.part_put (inNs_iff.mpr ha)

theorem part_put_off {α : Type} {key : α → ObjKey} (s : Store key) {a : α}
    (ha : (key a).ns ≠ n) : (s.put a).part (inNs n) = s.part (inNs n) :=
  Store.part_put_off (inNs_eq_false_iff.mpr ha)

theorem part_erase_off {α : Type} {key : α → ObjKey} (s : Store key) {k : ObjKey}
    (hk : k.ns ≠ n) : (s.erase k).part (inNs n) = s.part (inNs n) :=
  Store.part_erase_off (inNs_eq_false_iff.mpr hk)

theorem within_setTenant {cs : Clientset} (t : TenantCluster) (h : home cs = n) :
    (within home n w).setTenant cs t = within home n (w.setTenant cs t) := by
  simp only [within, Cluster.setTenant, Cluster.mk.injEq, true_and, and_true]
  funext cs'
  by_cases hcs : cs' = cs
  · subst hcs
    simp [h]
  · simp [Function.update_of_ne hcs]

theorem within_setTenant_off {cs : Clientset} (t : TenantCluster) (h : home cs ≠ n) :
    within home n (w.setTenant cs t) = within home n w := by
  simp only [within, Cluster.setTenant, Cluster.mk.injEq, true_and, and_true]
  funext cs'
  by_cases hcs : cs' = cs
  · subst hcs
    simp [h]
  · simp [Function.update_of_ne hcs]

theorem within_removePod (env : Env) {k : ObjKey} (h : k.ns = n) :
    (within home n w).removePod env k = within home n (w.removePod env k) := by
  have hget : (within home n w).hostPods.get k = w.hostPods.get k := get_part w.hostPods h
  unfold Cluster.removePod
  rw [hget]
  cases hpod : w.hostPods.get k with
  | none => rfl
  | some p =>
      have hkey : p.key = k := Store.key_of_get hpod
      dsimp only
      split
      · rfl
      · split
        · have hput := part_put (n := n) w.hostPods
            (a := { p with spec := { p.spec with deleting := true } })
            (by rw [← h, ← hkey]; rfl)
          simp only [within, hput]
        · simp only [within, Store.part_erase]

theorem within_removePod_off (env : Env) {k : ObjKey} (h : k.ns ≠ n) :
    within home n (w.removePod env k) = within home n w := by
  unfold Cluster.removePod
  cases hpod : w.hostPods.get k with
  | none => rfl
  | some p =>
      have hkey : p.key = k := Store.key_of_get hpod
      dsimp only
      split
      · rfl
      · split
        · have hput := part_put_off (n := n) w.hostPods
            (a := { p with spec := { p.spec with deleting := true } })
            (by rw [← hkey] at h; exact h)
          simp only [within, hput]
        · simp only [within, part_erase_off w.hostPods h]

/-! ## A request sees its namespace only -/

theorem sees_api {c : ApiCall} (hc : apiMay env home n c) :
    api env c (within home n w) = ((api env c w).1, within home n (api env c w).2) := by
  have hvnodes : (within home n w).vnodes = w.vnodes.part (inNs n) := rfl
  have hconfigMaps : (within home n w).hostConfigMaps = w.hostConfigMaps.part (inNs n) := rfl
  have hsecrets : (within home n w).hostSecrets = w.hostSecrets.part (inNs n) := rfl
  have hpods : (within home n w).hostPods = w.hostPods.part (inNs n) := rfl
  cases c with
  | getVNode k => simp only [api, hvnodes, find_part hc]
  | createVNode cr =>
      simp only [api, hvnodes, get_part w.vnodes (k := cr.key) hc.1]
      cases w.vnodes.get cr.key with
      | some old => rfl
      | none =>
          simp only [within, Cluster.putVNode]
          rw [part_put _ hc.1]
  | updateVNode cr =>
      simp only [api, hvnodes, get_part w.vnodes (k := cr.key) hc.1]
      cases w.vnodes.get cr.key with
      | none => rfl
      | some old =>
          dsimp only
          split
          · rfl
          · simp only [within, Cluster.putVNode]
            rw [part_put _ hc.1]
  | updateVNodeStatus cr =>
      simp only [api, hvnodes, get_part w.vnodes (k := cr.key) hc]
      cases hold : w.vnodes.get cr.key with
      | none => rfl
      | some old =>
          have hns : old.ns = n := (congrArg ObjKey.ns (Store.key_of_get hold)).trans hc
          dsimp only
          split
          · rfl
          · simp only [within, Cluster.putVNode]
            rw [part_put _ hns]
  | deleteVNode k =>
      simp only [api, hvnodes, get_part w.vnodes hc]
      cases w.vnodes.get k with
      | none => rfl
      | some old => simp only [within, Store.part_erase]
  | listVNodes ns poolName => simp only [api, poolVNodes_within ns poolName hc]
  | getClient tenant => rfl
  | getConfigMap k => simp only [api, hconfigMaps, find_part hc]
  | createConfigMap cm =>
      simp only [api, hconfigMaps, get_part w.hostConfigMaps (k := cm.key) hc]
      cases w.hostConfigMaps.get cm.key with
      | some old => rfl
      | none =>
          simp only [within, Cluster.putConfigMap]
          rw [part_put w.hostConfigMaps (a := cm) hc]
  | updateConfigMap cm =>
      simp only [api, hconfigMaps, get_part w.hostConfigMaps (k := cm.key) hc]
      cases w.hostConfigMaps.get cm.key with
      | none => rfl
      | some old =>
          simp only [within, Cluster.putConfigMap]
          rw [part_put w.hostConfigMaps (a := cm) hc]
  | getSecret k => simp only [api, hsecrets, find_part hc]
  | createSecret secret =>
      simp only [api, hsecrets, get_part w.hostSecrets (k := secret.key) hc]
      cases w.hostSecrets.get secret.key with
      | some old => rfl
      | none =>
          simp only [within, Cluster.putSecret]
          rw [part_put w.hostSecrets (a := secret) hc]
  | updateSecret secret =>
      simp only [api, hsecrets, get_part w.hostSecrets (k := secret.key) hc]
      cases w.hostSecrets.get secret.key with
      | none => rfl
      | some old =>
          simp only [within, Cluster.putSecret]
          rw [part_put w.hostSecrets (a := secret) hc]
  | deletePod k =>
      simp only [api, hpods, get_part w.hostPods hc]
      cases w.hostPods.get k with
      | none => rfl
      | some p => simp only [within_removePod env hc]
  | _ =>
      -- the requests to a tenant cluster that is at home in the namespace
      simp only [api, Cluster.putNode, Cluster.putLease, tenants_within hc,
        within_setTenant _ hc]
      try split
      all_goals rfl

theorem sees_port {c : Call} (hc : portMay env home n c) :
    handle env c (within home n w) = ((handle env c w).1, within home n (handle env c w).2) := by
  have hpools : (within home n w).pools = w.pools.part (inNs n) := rfl
  have hpods : (within home n w).hostPods = w.hostPods.part (inNs n) := rfl
  cases c with
  | tenantClient tenant => rfl
  | listTenantPods cs => simp only [handle, tenants_within hc]
  | getTenantPod cs k => simp only [handle, tenants_within hc]
  | getTenantConfigMap cs k => simp only [handle, tenants_within hc]
  | getTenantSecret cs k => simp only [handle, tenants_within hc]
  | updateTenantPod cs pod =>
      simp only [handle, Cluster.putTenantPod, tenants_within hc, within_setTenant _ hc]
      split <;> rfl
  | getPod k =>
      simp only [handle, hpods, get_part w.hostPods hc]
      split <;> rfl
  | getPodStatus k =>
      simp only [handle, hpods, get_part w.hostPods hc]
      split <;> rfl
  | createPod pod =>
      simp only [handle, hpods, get_part w.hostPods (k := ⟨pod.ns, pod.name⟩) hc]
      cases hstore : env.storePod pod with
      | error err => rfl
      | ok shown =>
          have hns : shown.ns = n := ((env.storePod_key pod shown hstore).1).trans hc
          cases w.hostPods.get ⟨pod.ns, pod.name⟩ with
          | some old => rfl
          | none =>
              simp only [within, Cluster.addPod]
              rw [part_put w.hostPods (a := ⟨shown, { phase := .pending }⟩) hns]
  | listPodsByLabels ns labels => simp only [handle, podsByLabels_within labels hc.1 hc.2]
  | listVNodes ns poolName => simp only [handle, poolVNodes_within ns poolName hc]
  | getVNodePool k => simp only [handle, hpools, find_part hc]
  | updateVNodePool cr =>
      simp only [handle, hpools, get_part w.pools (k := cr.key) hc.1]
      cases hold : w.pools.get cr.key with
      | none => rfl
      | some old =>
          dsimp only
          split
          · rfl
          · unfold Cluster.updatePool
            split
            · simp only [within, Store.part_erase]
            · simp only [within, Cluster.putPool]
              rw [part_put _ hc.1]
  | patchVNodePoolStatus k base status =>
      simp only [handle, hpools, get_part w.pools hc]
      cases hold : w.pools.get k with
      | none => rfl
      | some old =>
          have hns : old.ns = n := (congrArg ObjKey.ns (Store.key_of_get hold)).trans hc
          simp only [within, Cluster.putPool]
          rw [part_put _ hns]
  | now => rfl
  | _ => exact hc.elim

/-! ## A request leaves the other namespaces alone -/

theorem frame_api {m : String} {c : ApiCall} (hne : n ≠ m) (hc : apiMay env home m c) :
    within home n (api env c w).2 = within home n w := by
  have hoff : ∀ {k : String}, k = m → k ≠ n := fun hk heq => hne (heq.symm.trans hk)
  cases c with
  | createVNode cr =>
      simp only [api]
      cases w.vnodes.get cr.key with
      | some old => rfl
      | none =>
          simp only [within, Cluster.putVNode]
          rw [part_put_off _ (hoff hc.1)]
  | updateVNode cr =>
      simp only [api]
      cases w.vnodes.get cr.key with
      | none => rfl
      | some old =>
          dsimp only
          split
          · rfl
          · simp only [within, Cluster.putVNode]
            rw [part_put_off _ (hoff hc.1)]
  | updateVNodeStatus cr =>
      simp only [api]
      cases hold : w.vnodes.get cr.key with
      | none => rfl
      | some old =>
          have hns : old.ns = m := (congrArg ObjKey.ns (Store.key_of_get hold)).trans hc
          dsimp only
          split
          · rfl
          · simp only [within, Cluster.putVNode]
            rw [part_put_off _ (hoff hns)]
  | deleteVNode k =>
      simp only [api]
      cases w.vnodes.get k with
      | none => rfl
      | some old => simp only [within, part_erase_off w.vnodes (hoff hc)]
  | createConfigMap cm =>
      simp only [api]
      cases w.hostConfigMaps.get cm.key with
      | some old => rfl
      | none =>
          simp only [within, Cluster.putConfigMap]
          rw [part_put_off w.hostConfigMaps (a := cm) (hoff hc)]
  | updateConfigMap cm =>
      simp only [api]
      cases w.hostConfigMaps.get cm.key with
      | none => rfl
      | some old =>
          simp only [within, Cluster.putConfigMap]
          rw [part_put_off w.hostConfigMaps (a := cm) (hoff hc)]
  | createSecret secret =>
      simp only [api]
      cases w.hostSecrets.get secret.key with
      | some old => rfl
      | none =>
          simp only [within, Cluster.putSecret]
          rw [part_put_off w.hostSecrets (a := secret) (hoff hc)]
  | updateSecret secret =>
      simp only [api]
      cases w.hostSecrets.get secret.key with
      | none => rfl
      | some old =>
          simp only [within, Cluster.putSecret]
          rw [part_put_off w.hostSecrets (a := secret) (hoff hc)]
  | deletePod k =>
      simp only [api]
      cases w.hostPods.get k with
      | none => rfl
      | some p => exact within_removePod_off env (hoff hc)
  | getVNode k => rfl
  | listVNodes ns poolName => rfl
  | getClient tenant => rfl
  | getConfigMap k => rfl
  | getSecret k => rfl
  | _ =>
      simp only [api, Cluster.putNode, Cluster.putLease]
      try split
      all_goals first | rfl | exact within_setTenant_off _ (hoff hc)

theorem frame_port {m : String} {c : Call} (hne : n ≠ m) (hc : portMay env home m c) :
    within home n (handle env c w).2 = within home n w := by
  have hoff : ∀ {k : String}, k = m → k ≠ n := fun hk heq => hne (heq.symm.trans hk)
  cases c with
  | updateTenantPod cs pod =>
      simp only [handle]
      split
      · rfl
      · exact within_setTenant_off _ (hoff hc)
  | createPod pod =>
      rcases handle_createPod_cases env w pod with ⟨err, h⟩ | ⟨_, shown, hstore, h⟩
      · rw [h]
      · have hns : shown.ns = m := ((env.storePod_key pod shown hstore).1).trans hc
        rw [h]
        simp only [within, Cluster.addPod]
        rw [part_put_off w.hostPods (a := ⟨shown, { phase := .pending }⟩) (hoff hns)]
  | updateVNodePool cr =>
      simp only [handle]
      cases hold : w.pools.get cr.key with
      | none => rfl
      | some old =>
          dsimp only
          split
          · rfl
          · unfold Cluster.updatePool
            split
            · have hkey : old.key.ns = m :=
                (congrArg ObjKey.ns (Store.key_of_get hold)).trans hc.1
              simp only [within, part_erase_off w.pools (hoff hkey)]
            · simp only [within, Cluster.putPool]
              rw [part_put_off _ (hoff hc.1)]
  | patchVNodePoolStatus k base status =>
      simp only [handle]
      cases hold : w.pools.get k with
      | none => rfl
      | some old =>
          have hns : old.ns = m := (congrArg ObjKey.ns (Store.key_of_get hold)).trans hc
          simp only [within, Cluster.putPool]
          rw [part_put_off _ (hoff hns)]
  | _ => first | rw [handle_read env w rfl] | exact hc.elim

/-! ## Tenant references stay at home -/

theorem AtHome.putVNode (h : AtHome env home w) {cr : VNodeCR}
    (hcr : Local env home cr.ns (NodeRepository.tenantOf cr.annotations))
    {w' : Cluster} (hvnodes : w'.vnodes = w.vnodes.put cr) (hpools : w'.pools = w.pools) :
    AtHome env home w' where
  vnodes := by
    rw [hvnodes]
    intro cr' hcr'
    rcases Store.mem_put.mp hcr' with rfl | ⟨hold, _⟩
    · exact hcr
    · exact h.vnodes cr' hold
  pools := by
    rw [hpools]
    exact h.pools

theorem AtHome.putPool (h : AtHome env home w) {cr : VNodePoolCR}
    (hcr : Local env home cr.ns cr.tenantRef) : AtHome env home (w.putPool cr) where
  vnodes := h.vnodes
  pools := by
    intro cr' hcr'
    rcases Store.mem_put.mp hcr' with rfl | ⟨hold, _⟩
    · exact hcr
    · exact h.pools cr' hold

theorem AtHome.of_subset (h : AtHome env home w) {w' : Cluster}
    (hvnodes : ∀ cr ∈ w'.vnodes.items, cr ∈ w.vnodes.items)
    (hpools : ∀ cr ∈ w'.pools.items, cr ∈ w.pools.items) : AtHome env home w' :=
  ⟨fun cr hcr => h.vnodes cr (hvnodes cr hcr), fun cr hcr => h.pools cr (hpools cr hcr)⟩

theorem keeps_api {c : ApiCall} (hc : apiMay env home n c) (hw : AtHome env home w) :
    AtHome env home (api env c w).2 := by
  have hpools : (api env c w).2.pools = w.pools := api_pools env c w
  cases vnodeStep_api env c w with
  | same h => exact hw.of_subset (by simp [h]) (by simp [hpools])
  | created cr clock hcall _ h =>
      subst hcall
      refine hw.putVNode ?_ h hpools
      rw [hc.1]
      exact hc.2
  | updated cr old hcall _ h =>
      subst hcall
      refine hw.putVNode ?_ h hpools
      rw [hc.1]
      exact hc.2
  | statusUpdated cr old _ hold h =>
      refine hw.putVNode ?_ h hpools
      exact hw.vnodes old (Store.mem_of_get hold)
  | deleted k _ h =>
      refine hw.of_subset ?_ (by simp [hpools])
      rw [h]
      exact fun cr hcr => (Store.mem_erase.mp hcr).1

theorem keeps_port {c : Call} (hc : portMay env home n c) (hw : AtHome env home w) :
    AtHome env home (handle env c w).2 := by
  cases c with
  | updateTenantPod cs pod =>
      simp only [handle]
      split
      · exact hw
      · exact hw.of_subset (fun _ h => h) (fun _ h => h)
  | createPod pod =>
      rcases handle_createPod_cases env w pod with ⟨err, h⟩ | ⟨_, shown, _, h⟩
      · rw [h]
        exact hw
      · rw [h]
        exact hw.of_subset (fun _ h => h) (fun _ h => h)
  | updateVNodePool cr =>
      simp only [handle]
      split
      · exact hw
      · split
        · exact hw
        · unfold Cluster.updatePool
          split
          · exact hw.of_subset (fun _ h => h) fun cr hcr => (Store.mem_erase.mp hcr).1
          · refine hw.putPool ?_
            rw [hc.1]
            exact hc.2
  | patchVNodePoolStatus k base status =>
      simp only [handle]
      split
      · exact hw
      · next old hold => exact hw.putPool (hw.pools old (Store.mem_of_get hold))
  | _ =>
      first
        | rw [handle_read env w rfl]; exact hw
        | exact hc.elim

theorem AtHome.get_vnode (hw : AtHome env home w) {k : ObjKey} {cr : VNodeCR} (hk : k.ns = n)
    (hget : w.vnodes.get k = some cr) :
    cr.ns = n ∧ Local env home n (NodeRepository.tenantOf cr.annotations) := by
  have hns : cr.ns = n := (congrArg ObjKey.ns (Store.key_of_get hget)).trans hk
  exact ⟨hns, hns ▸ hw.vnodes cr (Store.mem_of_get hget)⟩

theorem gets_api {c : ApiCall} (hc : apiMay env home n c) (hw : AtHome env home w) :
    onOk (apiGets env home n c) (api env c w).1 := by
  cases hreply : (api env c w).1 with
  | error err => trivial
  | ok v =>
      cases c with
      | getVNode k => exact hw.get_vnode hc (get_of_find hreply)
      | createVNode cr =>
          simp only [api] at hreply
          split at hreply
          · cases hreply
          · cases hreply
            exact hc
      | listVNodes ns poolName =>
          simp only [api, Except.ok.injEq] at hreply
          intro cr hcr
          rw [← hreply, (env.order_perm _).mem_iff, Cluster.poolVNodes, List.mem_filter,
            decide_eq_true_eq] at hcr
          have hns : cr.ns = n := hcr.2.1.trans hc
          exact ⟨hns, hns ▸ hw.vnodes cr hcr.1⟩
      | getClient tenant => exact hc v hreply
      | getConfigMap k =>
          exact (congrArg ObjKey.ns (Store.key_of_get (get_of_find hreply))).trans hc
      | getSecret k =>
          exact (congrArg ObjKey.ns (Store.key_of_get (get_of_find hreply))).trans hc
      | _ => trivial

theorem gets_port {c : Call} (hc : portMay env home n c) (hw : AtHome env home w) :
    onOk (portGets env home n c) (handle env c w).1 := by
  cases hreply : (handle env c w).1 with
  | error err => trivial
  | ok v =>
      cases c with
      | tenantClient tenant => exact hc v hreply
      | listPodsByLabels ns labels =>
          simp only [handle, Except.ok.injEq] at hreply
          intro p hp
          rw [← hreply, List.mem_map] at hp
          obtain ⟨pod, hpod, rfl⟩ := hp
          rw [Cluster.podsByLabels, List.mem_filter, decide_eq_true_eq] at hpod
          rcases hpod.2.1 with hempty | hsame
          · exact absurd hempty hc.2
          · exact hsame.trans hc.1
      | getVNodePool k =>
          have hget : w.pools.get k = some v := get_of_find hreply
          have hns : v.ns = n := (congrArg ObjKey.ns (Store.key_of_get hget)).trans hc
          exact ⟨hns, hns ▸ hw.pools v (Store.mem_of_get hget)⟩
      | _ => trivial

def namespaces (env : Env) (home : Clientset → String) : Compartments (serve env) String where
  contract := requestContract env home
  inv := AtHome env home
  view := within home
  keeps := by
    intro n r w hr hw
    cases r with
    | api c => exact keeps_api hr hw
    | port c => exact keeps_port hr hw
  gets := by
    intro n r w hr hw
    cases r with
    | api c => exact gets_api hr hw
    | port c => exact gets_port hr hw
  sees := by
    intro n r w hr
    cases r with
    | api c => exact sees_api hr
    | port c => exact sees_port hr
  frame := by
    intro n m r w hne hr
    cases r with
    | api c => exact frame_api hne hr
    | port c => exact frame_port hne hr

end VNodeOperator.Operator
