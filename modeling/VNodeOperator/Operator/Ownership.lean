import VNodeOperator.Operator.Confinement
import VNodeOperator.Pools.Finalization
import VNodeOperator.ProofSupport.Guarantee

/-!
# What belongs to the users

Users write the specs of their pools, tenants run their pods and keep their ConfigMaps and
Secrets, and the operator works next to them.  It sends whole pools back to the API server
when it puts its finalizer on them or takes it off, so that an edit made in the meantime
could be overwritten; the resource version keeps that from happening.
-/

namespace VNodeOperator.Operator

open Model Kube Ports Adapter ProofSupport Service Reconciler
open Reconciler.VNodePool (crToPoolModel poolFinalizer)

/-! ## What the operator respects -/

/-- A pool without what the operator writes: its finalizer and the status. -/
def requested (cr : VNodePoolCR) : VNodePoolCR :=
  { cr with
    resourceVersion := 0
    finalizers := cr.finalizers.filter (· ≠ poolFinalizer)
    status := {} }

def withoutStatus (pod : CorePod) : CorePod := { pod with status := {} }

/-- Nothing but what is the operator's to write has changed, and nothing has gone but what it
may remove: a pool goes once it is being deleted and nobody else holds it. -/
structure Respects (w w' : Cluster) : Prop where
  clock : w'.clock = w.clock
  tenantPods : ∀ cs k, ((w'.tenants cs).pods.get k).map withoutStatus =
    ((w.tenants cs).pods.get k).map withoutStatus
  tenantConfigMaps : ∀ cs, (w'.tenants cs).configMaps = (w.tenants cs).configMaps
  tenantSecrets : ∀ cs, (w'.tenants cs).secrets = (w.tenants cs).secrets
  hostConfigMaps : ∀ k, (w.hostConfigMaps.get k).isSome → (w'.hostConfigMaps.get k).isSome
  hostSecrets : ∀ k, (w.hostSecrets.get k).isSome → (w'.hostSecrets.get k).isSome
  pools : ∀ k cr', w'.pools.get k = some cr' → ∃ cr, w.pools.get k = some cr ∧
    requested cr' = requested cr ∧
    (cr.deletionTimestamp = none → poolFinalizer ∈ cr.finalizers →
      poolFinalizer ∈ cr'.finalizers)
  removed : ∀ k cr, w.pools.get k = some cr → w'.pools.get k = none →
    cr.deletionTimestamp.isSome ∧ (requested cr).finalizers = []

variable {env : Env} {w w' : Cluster}

theorem Respects.refl (w : Cluster) : Respects w w where
  clock := rfl
  tenantPods _ _ := rfl
  tenantConfigMaps _ := rfl
  tenantSecrets _ := rfl
  hostConfigMaps _ h := h
  hostSecrets _ h := h
  pools _ cr' h := ⟨cr', h, rfl, fun _ hon => hon⟩
  removed _ _ h hnone := by
    rw [h] at hnone
    cases hnone

theorem deletionTimestamp_of_requested {cr cr' : VNodePoolCR} (h : requested cr' = requested cr) :
    cr'.deletionTimestamp = cr.deletionTimestamp := by
  have h' := congrArg VNodePoolCR.deletionTimestamp h
  exact h'

theorem Respects.trans {w₁ w₂ w₃ : Cluster} (h : Respects w₁ w₂) (h' : Respects w₂ w₃) :
    Respects w₁ w₃ where
  clock := h'.clock.trans h.clock
  tenantPods cs k := (h'.tenantPods cs k).trans (h.tenantPods cs k)
  tenantConfigMaps cs := (h'.tenantConfigMaps cs).trans (h.tenantConfigMaps cs)
  tenantSecrets cs := (h'.tenantSecrets cs).trans (h.tenantSecrets cs)
  hostConfigMaps k hk := h'.hostConfigMaps k (h.hostConfigMaps k hk)
  hostSecrets k hk := h'.hostSecrets k (h.hostSecrets k hk)
  pools k cr₃ hcr₃ := by
    obtain ⟨cr₂, hcr₂, hsame₂, hon₂⟩ := h'.pools k cr₃ hcr₃
    obtain ⟨cr₁, hcr₁, hsame₁, hon₁⟩ := h.pools k cr₂ hcr₂
    refine ⟨cr₁, hcr₁, hsame₂.trans hsame₁, fun hlive hon => hon₂ ?_ (hon₁ hlive hon)⟩
    rw [deletionTimestamp_of_requested hsame₁]
    exact hlive
  removed k cr₁ hcr₁ hnone := by
    cases hcr₂ : w₂.pools.get k with
    | none => exact h.removed k cr₁ hcr₁ hcr₂
    | some cr₂ =>
        obtain ⟨cr, hcr, hsame, _⟩ := h.pools k cr₂ hcr₂
        rw [hcr₁, Option.some.injEq] at hcr
        obtain ⟨hdeleting, hfree⟩ := h'.removed k cr₂ hcr₂ hnone
        rw [hcr, ← hsame]
        exact ⟨deletionTimestamp_of_requested hsame ▸ hdeleting, hfree⟩

theorem respects_of_eq (hclock : w'.clock = w.clock) (hpools : w'.pools = w.pools)
    (hconfigMaps : w'.hostConfigMaps = w.hostConfigMaps)
    (hsecrets : w'.hostSecrets = w.hostSecrets)
    (htenants : ∀ cs, (w'.tenants cs).pods = (w.tenants cs).pods ∧
      (w'.tenants cs).configMaps = (w.tenants cs).configMaps ∧
      (w'.tenants cs).secrets = (w.tenants cs).secrets) : Respects w w' where
  clock := hclock
  tenantPods cs k := by rw [(htenants cs).1]
  tenantConfigMaps cs := (htenants cs).2.1
  tenantSecrets cs := (htenants cs).2.2
  hostConfigMaps k hk := by rwa [hconfigMaps]
  hostSecrets k hk := by rwa [hsecrets]
  pools k cr' hcr' := ⟨cr', hpools ▸ hcr', rfl, fun _ hon => hon⟩
  removed k cr hcr hnone := by
    rw [hpools, hcr] at hnone
    cases hnone

theorem isSome_get_put {κ α : Type} [DecidableEq κ] {key : α → κ} (s : Store key) (a : α) {k : κ}
    (hk : (s.get k).isSome) : ((s.put a).get k).isSome := by
  rw [Store.get_put]
  split
  · rfl
  · exact hk

theorem respects_putConfigMap (w : Cluster) (cm : ConfigMap) : Respects w (w.putConfigMap cm) :=
  { Respects.refl w with hostConfigMaps := fun _ hk => isSome_get_put _ _ hk }

theorem respects_putSecret (w : Cluster) (s : Secret) : Respects w (w.putSecret s) :=
  { Respects.refl w with hostSecrets := fun _ hk => isSome_get_put _ _ hk }

theorem respects_setTenant (w : Cluster) (cs : Clientset) {t : TenantCluster}
    (hpods : ∀ k, (t.pods.get k).map withoutStatus =
      ((w.tenants cs).pods.get k).map withoutStatus)
    (hconfigMaps : t.configMaps = (w.tenants cs).configMaps)
    (hsecrets : t.secrets = (w.tenants cs).secrets) : Respects w (w.setTenant cs t) where
  clock := rfl
  tenantPods cs' k := by
    rw [Cluster.setTenant_tenants]
    split
    · next hcs => rw [hcs, hpods k]
    · rfl
  tenantConfigMaps cs' := by
    rw [Cluster.setTenant_tenants]
    split
    · next hcs => rw [hcs, hconfigMaps]
    · rfl
  tenantSecrets cs' := by
    rw [Cluster.setTenant_tenants]
    split
    · next hcs => rw [hcs, hsecrets]
    · rfl
  hostConfigMaps _ h := h
  hostSecrets _ h := h
  pools := (Respects.refl w).pools
  removed := (Respects.refl w).removed

theorem respects_removePod (env : Env) (w : Cluster) (k : ObjKey) :
    Respects w (w.removePod env k) := by
  rw [Cluster.removePod_eq]
  exact respects_of_eq rfl rfl rfl rfl fun _ => ⟨rfl, rfl, rfl⟩

/-- No API request of the adapters touches what belongs to the users. -/
theorem respects_api (c : ApiCall) (w : Cluster) : Respects w (api env c w).2 := by
  cases c with
  | createConfigMap cm =>
      simp only [api]
      split
      · exact .refl w
      · exact respects_putConfigMap w cm
  | updateConfigMap cm =>
      simp only [api]
      split
      · exact .refl w
      · exact respects_putConfigMap w cm
  | createSecret s =>
      simp only [api]
      split
      · exact .refl w
      · exact respects_putSecret w s
  | updateSecret s =>
      simp only [api]
      split
      · exact .refl w
      · exact respects_putSecret w s
  | deletePod k =>
      simp only [api]
      split
      · exact .refl w
      · exact respects_removePod env w k
  | _ =>
      simp only [api]
      repeat' split
      all_goals first
        | exact .refl w
        | exact respects_of_eq rfl rfl rfl rfl fun _ => ⟨rfl, rfl, rfl⟩
        | exact respects_setTenant w _ (fun _ => rfl) rfl rfl

theorem respects_run {α : Type} (p : Api α) (w : Cluster) : Respects w (p.run (api env) w).2 :=
  (Prog.Uses.always p).invariant (I := Respects w)
    (fun c s _ hs => hs.trans (respects_api c s)) (.refl w)

def updatesPool : Call → Bool
  | .updateVNodePool _ => true
  | _ => false

theorem respects_handle {c : Call} (hc : updatesPool c = false) (w : Cluster) :
    Respects w (handle env c w).2 := by
  cases c with
  | updateVNodePool cr => cases hc
  | patchVNodePoolStatus k base status =>
      simp only [handle]
      split
      · exact .refl w
      · next old hold =>
          have hkey : old.key = k := Store.key_of_get hold
          refine { Respects.refl w with pools := ?_, removed := ?_ }
          · intro k' cr' hcr'
            rw [Cluster.putPool, Store.get_put] at hcr'
            split at hcr'
            · next hk' =>
                cases hcr'
                rw [← hk']
                exact ⟨old, hkey ▸ hold, rfl, fun _ hon => hon⟩
            · exact ⟨cr', hcr', rfl, fun _ hon => hon⟩
          · intro k' cr hcr hnone
            have hsome := isSome_get_put w.pools { old with
              resourceVersion := old.resourceVersion + 1
              status := mergeStatus base status old.status } (Option.isSome_of_eq_some hcr)
            rw [show (w.pools.put _).get k' = none from hnone] at hsome
            cases hsome
  | updateTenantPod cs pod =>
      simp only [handle]
      split
      · exact .refl w
      · next old hold =>
          have hkey : old.key = pod.key := Store.key_of_get hold
          refine respects_setTenant w cs ?_ rfl rfl
          intro k
          dsimp only
          rw [Store.get_put]
          split
          · next hk =>
              have hk' : old.key = k := hk
              rw [← hk', hkey, hold]
              rfl
          · rfl
  | createPod pod =>
      rcases handle_createPod_cases env w pod with ⟨err, h⟩ | ⟨_, shown, _, h⟩
      · rw [h]
        exact .refl w
      · rw [h]
        exact respects_of_eq rfl rfl rfl rfl fun _ => ⟨rfl, rfl, rfl⟩
  | save node => exact respects_run _ w
  | delete k => exact respects_run _ w
  | register node tenant => exact respects_run _ w
  | deregister node tenant => exact respects_run _ w
  | updateNodeStatus node tenant => exact respects_run _ w
  | deletePod k => exact respects_run _ w
  | ensureConfigMap cm => exact respects_run _ w
  | ensureSecret s => exact respects_run _ w
  | _ =>
      rw [handle_read env w rfl]
      exact .refl w

/-! ## What others do meanwhile -/

/-- Others do what they like, but of the pools that are being reconciled this is known: an
edit gets a new version, a deletion is not taken back, and a pool that has gone does not come
back under its name. -/
def Edits (keys : Set ObjKey) (w w' : Cluster) : Prop :=
  ∀ k ∈ keys, ∀ cr', w'.pools.get k = some cr' → ∃ cr, w.pools.get k = some cr ∧
    cr.resourceVersion ≤ cr'.resourceVersion ∧
    (cr'.resourceVersion = cr.resourceVersion → cr' = cr) ∧
    (cr.deletionTimestamp.isSome → cr'.deletionTimestamp.isSome)

variable {keys : Set ObjKey}

theorem edits_of_pools (hpools : w'.pools = w.pools) : Edits keys w w' :=
  fun _ _ cr' hcr' => ⟨cr', hpools ▸ hcr', le_rfl, fun _ => rfl, id⟩

theorem Edits.trans {w₁ w₂ w₃ : Cluster} (h : Edits keys w₁ w₂) (h' : Edits keys w₂ w₃) :
    Edits keys w₁ w₃ := by
  intro k hk cr₃ hcr₃
  obtain ⟨cr₂, hcr₂, hle', hsame', hleaves'⟩ := h' k hk cr₃ hcr₃
  obtain ⟨cr₁, hcr₁, hle, hsame, hleaves⟩ := h k hk cr₂ hcr₂
  refine ⟨cr₁, hcr₁, hle.trans hle', fun hversion => ?_, fun hdeleting =>
    hleaves' (hleaves hdeleting)⟩
  -- equal versions at both ends leave no room for an edit in between
  rw [hsame' (by omega), hsame (by omega)]

theorem edits_putPool {old cr : VNodePoolCR} (hold : w.pools.get cr.key = some old)
    (hversion : old.resourceVersion < cr.resourceVersion)
    (hdeleting : cr.deletionTimestamp = old.deletionTimestamp) :
    Edits keys w (w.putPool cr) := by
  intro k _ cr' hcr'
  rw [Cluster.putPool, Store.get_put] at hcr'
  split at hcr'
  · next hk =>
      cases hcr'
      rw [← hk]
      exact ⟨old, hold, hversion.le, fun heq => absurd heq (by omega), fun h => hdeleting ▸ h⟩
  · exact ⟨cr', hcr', le_rfl, fun _ => rfl, id⟩

/-- The operator's own calls are such edits. -/
theorem edits_handle (c : Call) (w : Cluster) : Edits keys w (handle env c w).2 := by
  cases hc : c.writesPools with
  | false => exact edits_of_pools (handle_pools env w hc)
  | true =>
      cases c with
      | patchVNodePoolStatus k base status =>
          simp only [handle]
          split
          · exact edits_of_pools rfl
          · next old hold =>
              have hkey : old.key = k := Store.key_of_get hold
              exact edits_putPool (hkey ▸ hold) (Nat.lt_succ_self _) rfl
      | updateVNodePool cr =>
          rcases handle_updateVNodePool_cases env w cr with ⟨err, hcall⟩ | ⟨old, hold, _, hcall⟩
          · rw [hcall]
            exact edits_of_pools rfl
          · rw [hcall]
            unfold Cluster.updatePool
            split
            · intro k _ cr' hcr'
              dsimp only at hcr'
              rw [Store.get_erase] at hcr'
              split at hcr'
              · cases hcr'
              · exact ⟨cr', hcr', le_rfl, fun _ => rfl, id⟩
            · exact edits_putPool hold (Nat.lt_succ_self _) rfl
      | _ => cases hc

theorem edits_serve (r : Request) (w : Cluster) : Edits keys w (serve env r w).2 := by
  cases r with
  | port c => exact edits_handle c w
  | api c => exact edits_of_pools (api_pools env c w)

/-- The operator relies on edits and promises respect. -/
def bounds (keys : Set ObjKey) : Bounds Cluster where
  rely := Edits keys
  guar w w' := Respects w w' ∧ Edits keys w w'
  refl _ := edits_of_pools rfl
  trans := Edits.trans
  still w := ⟨.refl w, edits_of_pools rfl⟩
  relies h := h.2

/-! ## Programs that write no pool as a whole -/

def respectful : Request → Prop
  | .api _ => True
  | .port c => updatesPool c = false

theorem guar_of_respectful {r : Request} (hr : respectful r) (w : Cluster) :
    (bounds keys).guar w (serve env r w).2 := by
  refine ⟨?_, edits_serve r w⟩
  cases r with
  | api c => exact respects_api c w
  | port c => exact respects_handle hr w

theorem uses_requests_respectful {c : Call} (hc : updatesPool c = false) :
    Prog.Uses respectful (requests env c) := by
  have hadapter : ∀ {α : Type} (p : Api α), Prog.Uses respectful (apiRequests p) :=
    fun p => uses_apiRequests ((Prog.Uses.always p).mono fun _ _ => trivial)
  cases c with
  | updateVNodePool cr => cases hc
  | getVNode k => exact Prog.Uses.perform trivial
  | _ => first | exact hadapter _ | exact Prog.Uses.perform hc

abbrev PoolGuards {α : Type} (env : Env) (keys : Set ObjKey) (p : Svc α)
    (Q : α → Cluster → Prop) (w : Cluster) : Prop :=
  Prog.Guards (serve env) (bounds keys) (p.expand (requests env)) Q w

theorem guards_of_uses {α : Type} {p : Svc α} (hp : Prog.Uses (fun c => updatesPool c = false) p)
    {P : Cluster → Prop} (hP : ∀ w w', P w → Edits keys w w' → P w') (hw : P w) :
    PoolGuards env keys p (fun _ => P) w :=
  Prog.Guards.of_uses (hp.expand fun _ hc => uses_requests_respectful hc)
    (fun _ w hr => guar_of_respectful hr w) hP hw

theorem guards_bind {α β : Type} {p : Svc α} {f : α → Svc β} {Q : α → Cluster → Prop}
    {Q' : β → Cluster → Prop} (hp : PoolGuards env keys p Q w)
    (hf : ∀ a w, Q a w → PoolGuards env keys (f a) Q' w) : PoolGuards env keys (p >>= f) Q' w := by
  unfold PoolGuards
  rw [Prog.expand_bind]
  exact hp.bind hf

theorem guards_getVNodePool {k : ObjKey} {Q : Except Err VNodePoolCR → Cluster → Prop}
    (hfound : ∀ w' cr, Edits keys w w' → w'.pools.get k = some cr → Q (.ok cr) w')
    (herror : ∀ w' e, Edits keys w w' → Q (.error e) w') :
    PoolGuards env keys (ask (.getVNodePool k)) Q w := by
  unfold PoolGuards
  rw [ask, Prog.expand_perform]
  refine Prog.Guards.perform (c := Request.port (.getVNodePool k)) ?_ ?_ ?_
  · intro w' _
    exact guar_of_respectful (r := .port (.getVNodePool k)) rfl w'
  · intro w' hedits
    cases hget : w'.pools.get k with
    | none =>
        simp only [serve, handle, find_none _ _ hget]
        exact herror w' _ hedits
    | some cr =>
        simp only [serve, handle, find_some _ _ hget]
        exact hfound w' cr hedits hget
  · intro w' e hedits
    exact ⟨herror w' e hedits, herror w' e hedits⟩

/-! ## Writing a pool that was read -/

/-- What a plain update changes of a pool, if the version is still the one that was read. -/
theorem respects_updatePool {old cr : VNodePoolCR} (hget : w.pools.get cr.key = some old)
    (hsame : requested { cr with deletionTimestamp := old.deletionTimestamp } = requested old)
    (hon : old.deletionTimestamp = none → poolFinalizer ∈ old.finalizers →
      poolFinalizer ∈ cr.finalizers) : Respects w (w.updatePool old cr) := by
  have hkey : old.key = cr.key := Store.key_of_get hget
  unfold Cluster.updatePool
  split
  · next hlast =>
      have hfree : (requested old).finalizers = [] := by
        rw [← hsame]
        simp only [requested, hlast.2, List.filter_nil]
      refine { Respects.refl w with pools := ?_, removed := ?_ }
      · intro k cr' hcr'
        dsimp only at hcr'
        rw [Store.get_erase] at hcr'
        split at hcr'
        · cases hcr'
        · exact ⟨cr', hcr', rfl, fun _ hon => hon⟩
      · intro k cr' hcr' hnone
        dsimp only at hnone
        rw [Store.get_erase] at hnone
        split at hnone
        · next hk =>
            rw [← hk, hkey, hget, Option.some.injEq] at hcr'
            rw [← hcr']
            exact ⟨hlast.1, hfree⟩
        · rw [hcr'] at hnone
          cases hnone
  · refine { Respects.refl w with pools := ?_, removed := ?_ }
    · intro k cr' hcr'
      rw [Cluster.putPool, Store.get_put] at hcr'
      split at hcr'
      · next hk =>
          cases hcr'
          rw [← hk]
          exact ⟨old, hget, hsame, hon⟩
      · exact ⟨cr', hcr', rfl, fun _ hon => hon⟩
    · intro k cr' hcr' hnone
      have hsome := isSome_get_put w.pools { cr with
        resourceVersion := old.resourceVersion + 1
        deletionTimestamp := old.deletionTimestamp
        status := old.status } (Option.isSome_of_eq_some hcr')
      rw [show (w.pools.put _).get k = none from hnone] at hsome
      cases hsome

def Stable (keys : Set ObjKey) (P : Cluster → Prop) : Prop :=
  ∀ w w', P w → Edits keys w w' → P w'

/-- A pool that was read, `current`, is written back with other finalizers. -/
theorem guards_updateVNodePool {k : ObjKey} {current : VNodePoolCR} {finalizers : List String}
    (hk : k ∈ keys) (hget : w.pools.get k = some current)
    (hforeign : finalizers.filter (· ≠ poolFinalizer) =
      current.finalizers.filter (· ≠ poolFinalizer))
    (hon : current.deletionTimestamp = none → poolFinalizer ∈ current.finalizers →
      poolFinalizer ∈ finalizers) {P : Cluster → Prop} (hP : Stable keys P) (hw : P w) :
    PoolGuards env keys (ask (.updateVNodePool { current with finalizers := finalizers }))
      (fun _ => P) w := by
  unfold PoolGuards
  rw [ask, Prog.expand_perform]
  have hafter : ∀ w', Edits keys w w' → P (serve env
      (.port (.updateVNodePool { current with finalizers := finalizers })) w').2 :=
    fun w' hedits => hP w' _ (hP w w' hw hedits) (edits_serve _ w')
  refine Prog.Guards.perform (c := Request.port (.updateVNodePool _)) ?_ hafter
    (fun w' _ hedits => ⟨hP w w' hw hedits, hafter w' hedits⟩)
  intro w' hedits
  refine ⟨?_, edits_handle _ w'⟩
  change Respects w' (handle env (.updateVNodePool { current with finalizers := finalizers }) w').2
  rcases handle_updateVNodePool_cases env w' { current with finalizers := finalizers } with
    ⟨err, hcall⟩ | ⟨old, hold, hversion, hcall⟩
  · rw [hcall]
    exact .refl w'
  · rw [hcall]
    have hkey : current.key = k := Store.key_of_get hget
    obtain ⟨cr, hcr, _, hunchanged, _⟩ := hedits k hk old (hkey ▸ hold)
    rw [hget, Option.some.injEq] at hcr
    subst hcr
    -- the version has not moved, so nobody has edited the pool since it was read
    obtain rfl := hunchanged hversion.symm
    refine respects_updatePool hold ?_ hon
    simp only [requested, hforeign]

theorem guards_retryOnConflict {fn : Svc (Except Err Unit)} {P : Cluster → Prop}
    (hfn : ∀ w, P w → PoolGuards env keys fn (fun _ => P) w) :
    ∀ n {w}, P w → PoolGuards env keys (retryOnConflict n fn) (fun _ => P) w
  | 0, w, hw => hfn w hw
  | n + 1, w, hw => by
      rw [retryOnConflict]
      refine guards_bind (hfn w hw) ?_
      intro r w' hw'
      cases r with
      | ok u => exact hw'
      | error err =>
          dsimp only
          split
          · exact guards_retryOnConflict hfn n hw'
          · exact hw'

/-! ## The controllers -/

theorem uses_updatePoolStatus (k : ObjKey) (mutate : Int → VNodePoolStatus → VNodePoolStatus) :
    Prog.Uses (fun c => updatesPool c = false) (VNodePool.updatePoolStatus k mutate) := by
  apply uses_retryOnConflict
  refine Prog.Uses.bind (Prog.Uses.perform rfl) ?_
  intro r
  cases r with
  | error err => exact Prog.Uses.pure _
  | ok current =>
      refine Prog.Uses.bind (Prog.Uses.bind (Prog.Uses.perform rfl) ?_) ?_
      · intro time
        cases time <;> exact Prog.Uses.pure _
      · intro time
        dsimp only
        split
        · exact Prog.Uses.pure _
        · exact Prog.Uses.perform rfl

theorem uses_scalePool (pool : Model.VNodePool) :
    Prog.Uses (fun c => updatesPool c = false) (PoolService.reconcile pool) := by
  refine (Pools.uses_reconcilePool pool).mono ?_
  intro c hc
  cases c <;> first | rfl | cases hc

theorem uses_reconcileLive (cr : VNodePoolCR) :
    Prog.Uses (fun c => updatesPool c = false) (VNodePool.reconcileLive cr) := by
  unfold VNodePool.reconcileLive
  dsimp only
  split
  · exact (uses_updatePoolStatus _ _).bind fun _ => Prog.Uses.pure _
  · refine (uses_scalePool _).bind ?_
    rintro ⟨result, err⟩
    cases err with
    | some err => exact (uses_updatePoolStatus _ _).bind fun _ => Prog.Uses.pure _
    | none =>
        refine (uses_updatePoolStatus _ _).bind ?_
        intro r
        cases r <;> exact Prog.Uses.pure _

def Leaving (k : ObjKey) (w : Cluster) : Prop :=
  ∀ cr, w.pools.get k = some cr → cr.deletionTimestamp.isSome

theorem stable_leaving {k : ObjKey} (hk : k ∈ keys) : Stable keys (Leaving k) := by
  intro w w' hleaving hedits cr' hcr'
  obtain ⟨cr, hcr, _, _, hstays⟩ := hedits k hk cr' hcr'
  exact hstays (hleaving cr hcr)

theorem stable_true : Stable keys fun _ => True := fun _ _ _ _ => trivial

theorem guards_removeFinalizer {k : ObjKey} (hk : k ∈ keys) (hw : Leaving k w) :
    PoolGuards env keys (VNodePool.removeFinalizer k) (fun _ => Leaving k) w := by
  refine guards_retryOnConflict ?_ _ hw
  intro w hw
  refine guards_bind (guards_getVNodePool (Q := fun r w' => Leaving k w' ∧
    ∀ cr, r = .ok cr → w'.pools.get k = some cr) ?_ ?_) ?_
  · intro w' cr hedits hget
    refine ⟨stable_leaving hk w w' hw hedits, ?_⟩
    rintro _ ⟨⟩
    exact hget
  · intro w' e hedits
    refine ⟨stable_leaving hk w w' hw hedits, ?_⟩
    rintro _ ⟨⟩
  · rintro r w' ⟨hw', hread⟩
    cases r with
    | error err => exact hw'
    | ok current =>
        have hget := hread current rfl
        refine guards_updateVNodePool hk hget ?_ ?_ (stable_leaving hk) hw'
        · rw [List.filter_filter]
          simp only [Bool.and_self]
        · intro hlive
          have hdeleting := hw' current hget
          rw [hlive] at hdeleting
          cases hdeleting

theorem guards_handleDeletion {cr : VNodePoolCR} (hk : cr.key ∈ keys) (hw : Leaving cr.key w) :
    PoolGuards env keys (VNodePool.handleDeletion cr) (fun _ _ => True) w := by
  unfold VNodePool.handleDeletion
  split
  · trivial
  · have hstable : Stable keys (Leaving cr.key) := stable_leaving hk
    refine guards_bind (guards_of_uses (uses_updatePoolStatus _ _) hstable hw) ?_
    intro _ w' hw'
    refine guards_bind (guards_of_uses (uses_scalePool _) hstable hw') ?_
    rintro ⟨result, err⟩ w' hw'
    cases err with
    | some err => trivial
    | none =>
        have hlist : Prog.Uses (fun c => updatesPool c = false)
            (ask (.listVNodes cr.ns cr.name)) := Prog.Uses.perform rfl
        refine guards_bind (guards_of_uses hlist hstable hw') ?_
        intro r w' hw'
        cases r with
        | error err => trivial
        | ok remaining =>
            dsimp only
            split
            · trivial
            · refine guards_bind (guards_removeFinalizer hk hw') ?_
              intro r _ _
              cases r <;> trivial

theorem guards_reconcilePool {k : ObjKey} (hk : k ∈ keys) :
    PoolGuards env keys (VNodePool.reconcile k) (fun _ _ => True) w := by
  refine guards_bind (guards_getVNodePool (Q := fun r w' =>
    ∀ cr, r = .ok cr → w'.pools.get k = some cr) ?_ ?_) ?_
  · rintro w' cr _ hget _ ⟨⟩
    exact hget
  · rintro w' e _ _ ⟨⟩
  · intro r w' hread
    cases r with
    | error err => trivial
    | ok cr =>
        have hget := hread cr rfl
        have hkey : cr.key = k := Store.key_of_get hget
        dsimp only
        split
        · next hdeleting =>
            refine guards_handleDeletion (hkey.symm ▸ hk) ?_
            intro cr' hcr'
            rw [hkey, hget, Option.some.injEq] at hcr'
            rw [← hcr']
            exact hdeleting
        · split
          · exact guards_of_uses (uses_reconcileLive cr) stable_true trivial
          · next hlive hoff =>
              refine guards_bind (guards_updateVNodePool hk hget ?_ ?_ stable_true trivial) ?_
              · rw [List.filter_append]
                simp
              · intro _ hon
                exact absurd hon hoff
              · intro r w'' _
                cases r with
                | error err => trivial
                | ok u => exact guards_of_uses (uses_reconcileLive _) stable_true trivial

theorem uses_reconcileVNode (k : ObjKey) :
    Prog.Uses (fun c => updatesPool c = false) (VNode.reconcile k) := by
  refine Prog.Uses.bind (Prog.Uses.perform rfl) ?_
  intro r
  cases r with
  | error err => exact Prog.Uses.pure _
  | ok cr =>
      exact VNode.uses_reconcileCR (NodeService.uses_updateStatus rfl rfl rfl (fun _ => rfl)
        (fun _ => rfl)) rfl

def reconciles {ι : Type} (env : Env) (translator : PodService) (jobs : ι → Job) (w : Cluster) :
    Threads Request Request.Reply (fun _ : ι => Result × Option Err) Cluster where
  shared := w
  prog i := ((jobs i).program translator).expand (requests env)

/-- Any number of reconciles run side by side while users edit their pools, and requests fail
with their effect or without.  Still no request of the operator changes the spec of a pool or
anybody else's finalizer, takes the operator's finalizer off a pool that is not being deleted,
lets a pool go that others hold, changes a tenant's pod but for its status or a tenant's
ConfigMap or Secret, or removes a ConfigMap or a Secret of the host. -/
theorem users_objects_respected {ι : Type} [DecidableEq ι] (env : Env) (translator : PodService)
    (jobs : ι → Job) (w : Cluster)
    (t t' : Threads Request Request.Reply (fun _ : ι => Result × Option Err) Cluster)
    (hreach : Threads.Among (serve env) (Edits { k | ∃ i, jobs i = .pool k })
      (reconciles env translator jobs w) t)
    (hmove : Threads.Moves (serve env) t t') : Respects t.shared t'.shared := by
  have hstart : Threads.Guarding (serve env) (bounds { k | ∃ i, jobs i = .pool k })
      (reconciles env translator jobs w) := by
    intro i
    change PoolGuards env _ ((jobs i).program translator) (fun _ _ => True) w
    cases hjob : jobs i with
    | pool k => exact guards_reconcilePool ⟨i, hjob⟩
    | vnode k => exact guards_of_uses (uses_reconcileVNode k) stable_true trivial
    | pods k =>
        refine guards_of_uses (uses_reconcilePods (A := fun c => updatesPool c = false) ?_
          (fun _ => rfl) rfl (fun _ _ _ => rfl) translator k) stable_true trivial
        intro c hc
        cases c <;> first | rfl | cases hc
  exact (Threads.Among.guar hstart hreach hmove).1

/-! ### An edit at the wrong moment -/

def freshPool : VNodePoolCR where
  name := "web"
  ns := "host"
  tenantRef := { vclusterName := "acme", vclusterNamespace := "acme", kubeconfigSecret := "acme" }
  nodeCount := 1

def grownPool : VNodePoolCR := { freshPool with resourceVersion := 1, nodeCount := 2 }

def freshCluster : Cluster where
  pools := Store.empty.put freshPool
  tenants _ := {}

theorem edits_grownPool (keys : Set ObjKey) :
    Edits keys freshCluster { freshCluster with pools := freshCluster.pools.put grownPool } := by
  have hold : freshCluster.pools.get grownPool.key = some freshPool := rfl
  exact edits_putPool hold (by decide) rfl

def freshJob (_ : Unit) : Job := .pool freshPool.key

theorem grownPool_respected :
    ∃ t t', Threads.Among (serve Env.plain) (Edits { k | ∃ i, freshJob i = .pool k })
        (reconciles Env.plain ⟨""⟩ freshJob freshCluster) t ∧
      Threads.Moves (serve Env.plain) t t' ∧
      t.shared.pools.get freshPool.key = some grownPool ∧
      ((t'.prog ()).result.map fun r => r.2.map Err.kind) = some (some .conflict) ∧
      Respects t.shared t'.shared := by
  have hrun : ∃ t t', Threads.Among (serve Env.plain) (Edits { k | ∃ i, freshJob i = .pool k })
        (reconciles Env.plain ⟨""⟩ freshJob freshCluster) t ∧
      Threads.Moves (serve Env.plain) t t' ∧
      t.shared.pools.get freshPool.key = some grownPool ∧
      ((t'.prog ()).result.map fun r => r.2.map Err.kind) = some (some .conflict) :=
    ⟨_, _, (Threads.Among.start.move (.call (i := ()) rfl)).others (edits_grownPool _),
      .call (i := ()) rfl, rfl, rfl⟩
  obtain ⟨t, t', hreach, hmove, hedited, hrefused⟩ := hrun
  exact ⟨t, t', hreach, hmove, hedited, hrefused,
    users_objects_respected Env.plain ⟨""⟩ freshJob freshCluster t t' hreach hmove⟩

end VNodeOperator.Operator
