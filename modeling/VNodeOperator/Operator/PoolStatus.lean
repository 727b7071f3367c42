import VNodeOperator.Operator.PoolNames
import VNodeOperator.Operator.Queues

/-!
# The status of a pool that is left alone

`VNodePoolReconciler` hears of its pool when the spec changes or the pool is deleted, and
of the pool's nodes when one of them goes or changes its phase.  It never asks to be run
again unless something failed.  Still, when nothing is queued, the pool has the nodes it
asks for and its status says how many of them are ready.
-/

namespace VNodeOperator.Operator

open Model Kube Ports Adapter ProofSupport Service Reconciler
open NodeRepository (keyOf applyNodeStatus)
open Reconciler.VNodePool (crToPoolModel poolFinalizer)

/-! ## What the controller looks at -/

def phaseIn (k : ObjKey) (w : Cluster) (key : ObjKey) : Option NodePhase :=
  (w.vnodes.get key).bind fun cr => if InPool k cr then some cr.phase else none

/-- What was asked of the pool, and whether the operator's finalizer is on it. -/
def specOf (cr : VNodePoolCR) : VNodePoolCR :=
  { cr with
    resourceVersion := 0
    finalizers := cr.finalizers.filter (· = poolFinalizer)
    status := {} }

def poolSpec (k : ObjKey) (w : Cluster) : Option VNodePoolCR := (w.pools.get k).map specOf

def progressOf (status : VNodePoolStatus) : PoolPhase × Int × Int :=
  (status.phase, status.readyNodes, status.totalNodes)

def progress (k : ObjKey) (w : Cluster) : Option (PoolPhase × Int × Int) :=
  (w.pools.get k).map fun cr => progressOf cr.status

/-- What everybody but the pool controller, the VNode controller included, may do: no node
joins the pool or leaves it but by being deleted, and neither what the status says of the
nodes nor the operator's finalizer changes. -/
structure PoolOthers (k : ObjKey) (d : String) (w w' : Cluster) : Prop where
  named : PoolNamed k d w → PoolNamed k d w'
  members : ∀ key cr', w'.vnodes.get key = some cr' → InPool k cr' →
    ∃ cr, w.vnodes.get key = some cr ∧ InPool k cr
  labels : ∀ key cr cr', w.vnodes.get key = some cr → w'.vnodes.get key = some cr' →
    InPool k cr → InPool k cr'
  status : ∀ p p', w.pools.get k = some p → w'.pools.get k = some p' →
    progressOf p'.status = progressOf p.status ∧
      p'.finalizers.filter (· = poolFinalizer) = p.finalizers.filter (· = poolFinalizer)

/-- While a reconcile runs the others change nothing it looks at, or it is woken. -/
def poolInterference (k : ObjKey) (d : String) : Interference Cluster where
  inv := PoolNamed k d
  rel w w' := (PoolNamed k d w → PoolNamed k d w') ∧ phaseIn k w' = phaseIn k w ∧
    poolSpec k w' = poolSpec k w ∧ progress k w' = progress k w
  refl _ := ⟨id, rfl, rfl, rfl⟩
  trans h h' := ⟨h'.1 ∘ h.1, h'.2.1.trans h.2.1, h'.2.2.1.trans h.2.2.1,
    h'.2.2.2.trans h.2.2.2⟩
  keeps hw hrel := hrel.1 hw

def poolController (env : Env) (k : ObjKey) (d : String) :
    Controller Request Request.Value Err (Result × Option Err) Cluster :=
  controller env (requests env) (VNodePool.reconcile k) VNodePool.enqueued k (PoolOthers k d)

variable {env : Env} {k : ObjKey} {d : String} {w w' : Cluster}

theorem phaseIn_of_get {key : ObjKey} {cr : VNodeCR} (hget : w.vnodes.get key = some cr)
    (hcr : InPool k cr) : phaseIn k w key = some cr.phase := by
  rw [phaseIn, hget, Option.bind_some, if_pos hcr]

theorem get_of_phaseIn {key : ObjKey} {phase : NodePhase} (h : phaseIn k w key = some phase) :
    ∃ cr, w.vnodes.get key = some cr ∧ InPool k cr ∧ cr.phase = phase := by
  unfold phaseIn at h
  cases hget : w.vnodes.get key with
  | none =>
      rw [hget] at h
      cases h
  | some cr =>
      rw [hget, Option.bind_some] at h
      split at h
      · next hcr =>
          cases h
          exact ⟨cr, rfl, hcr, rfl⟩
      · cases h

/-! ## What wakes the controller -/

theorem vnodeToPool_of_inPool (hk : k.name ≠ "") {cr : VNodeCR} (hcr : InPool k cr) :
    k ∈ VNodePool.vnodeToPool cr := by
  have hlabel : cr.labels.at labelVNodePool = k.name := by
    rw [StringMap.at, hcr.2]
    rfl
  rw [VNodePool.vnodeToPool, hlabel, if_neg hk, hcr.1]
  exact List.mem_singleton.mpr rfl

theorem mem_enqueued_of_vnode (hk : k.name ≠ "") {e : WatchEvent VNodeCR} {cr : VNodeCR}
    (he : e ∈ storeEvents VNodeCR.content w.vnodes w'.vnodes)
    (hpasses : VNodePool.vnodePhaseChangedPredicate e = true) (hcr : cr ∈ e.objects)
    (hin : InPool k cr) : k ∈ VNodePool.enqueued w w' :=
  List.mem_append_right _ (List.mem_flatMap.mpr ⟨e, List.mem_filter.mpr ⟨he, hpasses⟩,
    List.mem_flatMap.mpr ⟨cr, hcr, vnodeToPool_of_inPool hk hin⟩⟩)

theorem mem_enqueued_of_pool {e : WatchEvent VNodePoolCR} {cr : VNodePoolCR}
    (he : e ∈ storeEvents VNodePoolCR.content w.pools w'.pools)
    (hpasses : VNodePool.vnodePoolPredicates e = true) (hcr : cr ∈ e.objects)
    (hkey : cr.key = k) : k ∈ VNodePool.enqueued w w' := by
  refine List.mem_append_left _ ?_
  rw [← hkey]
  exact mem_forObject (List.mem_filter.mpr ⟨he, hpasses⟩) hcr

/-- A node of the pool that goes wakes the controller, and so does one whose phase changes. -/
theorem phase_of_quiet (hk : k.name ≠ "") (hquiet : k ∉ VNodePool.enqueued w w') {key : ObjKey}
    {cr : VNodeCR} (hget : w.vnodes.get key = some cr) (hcr : InPool k cr) :
    ∃ cr', w'.vnodes.get key = some cr' ∧ cr'.phase = cr.phase := by
  cases hget' : w'.vnodes.get key with
  | none =>
      exact absurd (mem_enqueued_of_vnode hk (delete_mem_storeEvents hget hget') rfl
        (List.mem_singleton.mpr rfl) hcr) hquiet
  | some cr' =>
      refine ⟨cr', rfl, ?_⟩
      by_contra hphase
      have hcontent : cr'.content ≠ cr.content := by
        intro hsame
        injection hsame with _ _ _ _ _ _ _ _ hsame
        exact hphase hsame
      refine absurd (mem_enqueued_of_vnode hk (update_mem_storeEvents hget hget' hcontent) ?_
        (List.mem_cons_self) hcr) hquiet
      exact decide_eq_true (Ne.symm hphase)

/-- A change of the pool's spec wakes the controller. -/
theorem generation_of_quiet (hquiet : k ∉ VNodePool.enqueued w w') :
    (w'.pools.get k).map (fun cr => { specOf cr with finalizers := [] }) =
      (w.pools.get k).map (fun cr => { specOf cr with finalizers := [] }) := by
  cases hget : w.pools.get k with
  | none =>
      cases hget' : w'.pools.get k with
      | none => rfl
      | some cr' =>
          exact absurd (mem_enqueued_of_pool (create_mem_storeEvents hget hget') rfl
            (List.mem_singleton.mpr rfl) (Store.key_of_get hget')) hquiet
  | some cr =>
      cases hget' : w'.pools.get k with
      | none =>
          exact absurd (mem_enqueued_of_pool (delete_mem_storeEvents hget hget') rfl
            (List.mem_singleton.mpr rfl) (Store.key_of_get hget)) hquiet
      | some cr' =>
          by_contra hdiffer
          have hspec : ({ cr with resourceVersion := 0, finalizers := [], status := {} } :
              VNodePoolCR) ≠ { cr' with resourceVersion := 0, finalizers := [], status := {} } :=
            fun hsame => hdiffer (congrArg some hsame.symm)
          have hcontent : cr'.content ≠ cr.content := by
            intro hsame
            exact hspec (congrArg (fun p : VNodePoolCR =>
              { p with resourceVersion := 0, finalizers := [], status := {} }) hsame.symm)
          refine absurd (mem_enqueued_of_pool (update_mem_storeEvents hget hget' hcontent) ?_
            (List.mem_cons_self) (Store.key_of_get hget)) hquiet
          exact decide_eq_true hspec

/-- Others who do not wake the controller change nothing it looks at. -/
theorem rel_of_quiet (hk : k.name ≠ "") (hothers : PoolOthers k d w w')
    (hquiet : k ∉ VNodePool.enqueued w w') : (poolInterference k d).rel w w' := by
  have hphase : phaseIn k w' = phaseIn k w := by
    funext key
    cases hphase : phaseIn k w key with
    | some phase =>
        obtain ⟨cr, hget, hcr, rfl⟩ := get_of_phaseIn hphase
        obtain ⟨cr', hget', hsame⟩ := phase_of_quiet hk hquiet hget hcr
        rw [phaseIn_of_get hget' (hothers.labels key cr cr' hget hget' hcr), hsame]
    | none =>
        cases hphase' : phaseIn k w' key with
        | none => rfl
        | some phase =>
            obtain ⟨cr', hget', hcr', _⟩ := get_of_phaseIn hphase'
            obtain ⟨cr, hget, hcr⟩ := hothers.members key cr' hget' hcr'
            rw [phaseIn_of_get hget hcr] at hphase
            cases hphase
  have hgeneration := generation_of_quiet hquiet
  refine ⟨hothers.named, hphase, ?_⟩
  cases hget : w.pools.get k with
  | none =>
      rw [hget, Option.map_none, Option.map_eq_none_iff] at hgeneration
      simp only [poolSpec, progress, hget, hgeneration, Option.map_none, and_self]
  | some p =>
      rw [hget, Option.map_some, Option.map_eq_some_iff] at hgeneration
      obtain ⟨p', hget', hspec⟩ := hgeneration
      obtain ⟨hstatus, hfinalizers⟩ := hothers.status p p' hget hget'
      have hsame : specOf p' = specOf p := by
        have h := congrArg (fun q : VNodePoolCR =>
          { q with finalizers := p'.finalizers.filter (· = poolFinalizer) }) hspec
        rw [specOf, specOf]
        rw [← hfinalizers]
        exact h
      simp only [poolSpec, progress, hget, hget', Option.map_some, hsame, hstatus, and_self]

/-! ## Nodes cannot be changed in silence -/

abbrev PoolUnwoken {α : Type} (env : Env) (k : ObjKey) (d : String) (p : Req α)
    (Q : α → Cluster → Prop) (w : Cluster) : Prop :=
  Unwoken env (requests env) (VNodePool.reconcile k) VNodePool.enqueued k (PoolOthers k d)
    (poolInterference k d) p Q w

section

variable {α : Type} {key : ObjKey} {ph : Option NodePhase}

def Ours (k : ObjKey) (d : String) (key : ObjKey) (ph : Option NodePhase) : Prop :=
  ∀ w, PoolNamed k d w → phaseIn k w key = ph → ∀ cr, w.vnodes.get key = some cr → InPool k cr

theorem ours_of_some (phase : NodePhase) : Ours k d key (some phase) := by
  intro w _ hphase cr hget
  obtain ⟨cr', hget', hcr', _⟩ := get_of_phaseIn hphase
  rw [hget, Option.some.injEq] at hget'
  exact hget' ▸ hcr'

theorem ours_of_ownName (hns : key.ns = k.ns) (hname : OwnName k d key.name) :
    Ours k d key ph := by
  intro w hw _ cr hget
  have hkey : cr.key = key := Store.key_of_get hget
  refine (hw.vnodes key cr hget ?_ ?_).1
  · rw [← hns, ← hkey]
    rfl
  · rw [← hkey] at hname
    exact hname

/-- One API request.  `ph` is the phase of the node it is about, which it cannot change
without waking the controller. -/
theorem poolUnwoken_request (key : ObjKey) {c : ApiCall} {f : c.Reply → Api α}
    {Q : α → Cluster → Prop} (hw : phaseIn k w key = ph)
    (hkeeps : ∀ w', PoolNamed k d w' → phaseIn k w' key = ph →
      k ∉ VNodePool.enqueued w' (api env c w').2 → phaseIn k (api env c w').2 key = ph)
    (hreply : ∀ w', PoolNamed k d w' → phaseIn k w' key = ph →
      k ∉ VNodePool.enqueued w' (api env c w').2 → phaseIn k (api env c w').2 key = ph →
      PoolUnwoken env k d (apiRequests (f (api env c w').1)) Q (api env c w').2)
    (hfails : ∀ w' e, phaseIn k w' key = ph → Outage e →
      PoolUnwoken env k d (apiRequests (f (.error e))) Q w') :
    PoolUnwoken env k d (apiRequests (request c >>= f)) Q w := by
  have hthere : ∀ w', (poolInterference k d).rel w w' → phaseIn k w' key = ph :=
    fun w' hrel => (congrFun hrel.2.1 key).trans hw
  refine unwoken_request ?_ ?_ ?_
  · intro w' hinv hrel hquiet
    exact hreply w' hinv (hthere w' hrel) hquiet (hkeeps w' hinv (hthere w' hrel) hquiet)
  · intro w' e _ hrel he
    exact hfails w' e (hthere w' hrel) he
  · intro w' e hinv hrel he hquiet
    exact hfails _ e (hkeeps w' hinv (hthere w' hrel) hquiet) he

theorem poolUnwoken_getVNode {f : Except Err VNodeCR → Api α} {Q : α → Cluster → Prop}
    (hours : Ours k d key ph) (hw : phaseIn k w key = ph)
    (hfound : ∀ w' cr, phaseIn k w' key = ph → cr.key = key → InPool k cr →
      PoolUnwoken env k d (apiRequests (f (.ok cr))) Q w')
    (hmissing : ∀ w' e, phaseIn k w' key = ph → ph = none → e.isNotFound = true →
      PoolUnwoken env k d (apiRequests (f (.error e))) Q w')
    (hfails : ∀ w' e, phaseIn k w' key = ph → Outage e →
      PoolUnwoken env k d (apiRequests (f (.error e))) Q w') :
    PoolUnwoken env k d (apiRequests (request (.getVNode key) >>= f)) Q w := by
  refine poolUnwoken_request key hw (fun _ _ h _ => h) ?_ hfails
  intro w' hinv hw' _ _
  cases hget : w'.vnodes.get key with
  | none =>
      have hnone : ph = none := by
        rw [← hw', phaseIn, hget]
        rfl
      simp only [api, find_none _ _ hget]
      exact hmissing w' _ hw' hnone rfl
  | some cr =>
      simp only [api, find_some _ _ hget]
      exact hfound w' cr hw' (Store.key_of_get hget) (hours w' hinv hw' cr hget)

theorem updateVNodeStatus_quiet (env : Env) (hk : k.name ≠ "") {cr : VNodeCR}
    (hours : ∀ old, w.vnodes.get cr.key = some old → InPool k old)
    (hquiet : k ∉ VNodePool.enqueued w (api env (.updateVNodeStatus cr) w).2) :
    phaseIn k (api env (.updateVNodeStatus cr) w).2 cr.key = phaseIn k w cr.key ∧
      ((api env (.updateVNodeStatus cr) w).1 = .ok () → phaseIn k w cr.key = some cr.phase) ∧
      ∀ e, (api env (.updateVNodeStatus cr) w).1 = .error e →
        NodeRepository.isIgnorableClientError e = false := by
  cases hget : w.vnodes.get cr.key with
  | none =>
      simp only [api, hget]
      refine ⟨trivial, ?_, ?_⟩
      · rintro ⟨⟩
      · rintro e ⟨⟩
        rfl
  | some old =>
      have hold : InPool k old := hours old hget
      by_cases hversion : cr.resourceVersion = old.resourceVersion
      · let written : VNodeCR := { old with
          resourceVersion := old.resourceVersion + 1
          phase := cr.phase
          conditions := cr.conditions }
        have hcall : api env (.updateVNodeStatus cr) w = (.ok (), w.putVNode written) := by
          simp only [api, hget, hversion, ne_eq, not_true_eq_false, if_false]
          rfl
        have holdKey : old.key = cr.key := Store.key_of_get hget
        have hkey : written.key = cr.key := holdKey
        have hput : (w.putVNode written).vnodes.get cr.key = some written := by
          rw [Cluster.putVNode, Store.get_put, if_pos hkey]
        rw [hcall] at hquiet ⊢
        -- the controller would hear of another phase
        obtain ⟨cr', hget', hphase⟩ := phase_of_quiet hk hquiet hget hold
        rw [hput, Option.some.injEq] at hget'
        subst hget'
        have hbefore : phaseIn k w cr.key = some cr.phase := by
          rw [phaseIn_of_get hget hold]
          exact congrArg some hphase.symm
        have hafter : phaseIn k (w.putVNode written) cr.key = some written.phase :=
          phaseIn_of_get hput hold
        refine ⟨?_, fun _ => hbefore, ?_⟩
        · rw [hbefore]
          exact hafter
        · rintro e ⟨⟩
      · have hcall : api env (.updateVNodeStatus cr) w =
            (.error (conflictError "vnodes.vnode.kroderdev.io" cr.name), w) := by
          simp only [api, hget, ne_eq, hversion, not_false_eq_true, if_true]
        rw [hcall]
        refine ⟨rfl, ?_, ?_⟩
        · rintro ⟨⟩
        · rintro e ⟨⟩
          rfl

theorem updateVNode_kept (env : Env) {cr : VNodeCR} (hcr : InPool k cr)
    (hours : ∀ old, w.vnodes.get cr.key = some old → InPool k old) :
    phaseIn k (api env (.updateVNode cr) w).2 cr.key = phaseIn k w cr.key ∧
      ∀ e, (api env (.updateVNode cr) w).1 = .error e →
        NodeRepository.isIgnorableClientError e = false := by
  cases hget : w.vnodes.get cr.key with
  | none =>
      simp only [api, hget]
      refine ⟨trivial, ?_⟩
      rintro e ⟨⟩
      rfl
  | some old =>
      by_cases hversion : cr.resourceVersion = old.resourceVersion
      · let written : VNodeCR := { cr with
          resourceVersion := old.resourceVersion + 1
          phase := old.phase
          conditions := old.conditions }
        have hcall : api env (.updateVNode cr) w = (.ok (), w.putVNode written) := by
          simp only [api, hget, hversion, ne_eq, not_true_eq_false, if_false]
          rfl
        have hput : (w.putVNode written).vnodes.get cr.key = some written :=
          Store.get_put_self w.vnodes written
        rw [hcall]
        refine ⟨?_, ?_⟩
        · rw [phaseIn_of_get hput hcr, phaseIn_of_get hget (hours old hget)]
        · rintro e ⟨⟩
      · have hcall : api env (.updateVNode cr) w =
            (.error (conflictError "vnodes.vnode.kroderdev.io" cr.name), w) := by
          simp only [api, hget, ne_eq, hversion, not_false_eq_true, if_true]
        rw [hcall]
        refine ⟨rfl, ?_⟩
        rintro e ⟨⟩
        rfl

theorem not_ignorable_of_isNotFound {e : Err} (he : e.isNotFound = true) :
    NodeRepository.isIgnorableClientError e = false := by
  have hkind : e.kind = .notFound := of_decide_eq_true he
  rw [NodeRepository.isIgnorableClientError, hkind]
  rfl

/-- A status can be written in silence only if it has the phase that is stored. -/
theorem poolUnwoken_writeStatus (hk : k.name ≠ "") {cr : VNodeCR} (hcr : cr.key = key)
    (hours : Ours k d key ph) (hw : phaseIn k w key = ph)
    {f : Except Err Unit → Api (Except Err Unit)} {Q : Except Err Unit → Cluster → Prop}
    (hok : ∀ w', phaseIn k w' key = ph → ph = some cr.phase →
      PoolUnwoken env k d (apiRequests (f (.ok ()))) Q w')
    (herror : ∀ w' e, phaseIn k w' key = ph →
      NodeRepository.isIgnorableClientError e = false →
      PoolUnwoken env k d (apiRequests (f (.error e))) Q w') :
    PoolUnwoken env k d (apiRequests (request (.updateVNodeStatus cr) >>= f)) Q w := by
  subst hcr
  have hquiet : ∀ w', PoolNamed k d w' → phaseIn k w' cr.key = ph →
      k ∉ VNodePool.enqueued w' (api env (.updateVNodeStatus cr) w').2 → _ :=
    fun w' hinv hw' => updateVNodeStatus_quiet env hk (hours w' hinv hw')
  refine poolUnwoken_request cr.key hw (fun w' hinv hw' h => (hquiet w' hinv hw' h).1.trans hw') ?_
    (fun w' e hw' he => herror w' e hw' he.shutdown)
  intro w' hinv hw' h hafter
  obtain ⟨_, hphase, hrefused⟩ := hquiet w' hinv hw' h
  cases hr : (api env (.updateVNodeStatus cr) w').1 with
  | error e => exact herror _ e hafter (hrefused e hr)
  | ok u => exact hok _ hafter (hw'.symm.trans (hphase hr))

theorem poolUnwoken_updateStatus (hk : k.name ≠ "") {node : Model.VNode}
    (hours : Ours k d (keyOf node) ph) (hw : phaseIn k w (keyOf node) = ph) :
    PoolUnwoken env k d (apiRequests (NodeRepository.updateStatus node))
      (fun r w' => phaseIn k w' (keyOf node) = ph ∧ (r = .ok () → ph = some node.phase)) w := by
  refine unwoken_retryOnConflict ?_ _ hw
  intro w hw
  have hstop : ∀ (w' : Cluster) (e : Err), phaseIn k w' (keyOf node) = ph →
      NodeRepository.isIgnorableClientError e = false →
      PoolUnwoken env k d (apiRequests (pure
        (if NodeRepository.isIgnorableClientError e then .ok () else .error e)))
        (fun (r : Except Err Unit) w' => phaseIn k w' (keyOf node) = ph ∧
          (r = .ok () → ph = some node.phase)) w' := by
    intro w' e hw' he
    rw [he]
    refine ⟨hw', ?_⟩
    rintro ⟨⟩
  refine poolUnwoken_getVNode hours hw ?_ ?_ (fun w' e hw' he => hstop w' e hw' he.shutdown)
  · intro w' cr hw' hcr _
    have hkey : (applyNodeStatus cr node).key = keyOf node := hcr
    refine poolUnwoken_writeStatus hk hkey hours hw' ?_ ?_
    · intro w'' hw'' hphase
      exact ⟨hw'', fun _ => hphase⟩
    · intro w'' e hw'' he
      exact hstop w'' e hw'' he
  · intro w' e hw' _ he
    exact hstop w' e hw' (not_ignorable_of_isNotFound he)

theorem poolUnwoken_updateAnnotations {node : Model.VNode} (hours : Ours k d (keyOf node) ph)
    (hw : phaseIn k w (keyOf node) = ph) :
    PoolUnwoken env k d (apiRequests (NodeRepository.updateAnnotations node))
      (fun r w' => phaseIn k w' (keyOf node) = ph ∧
        ∀ e, r = .error e → NodeRepository.isIgnorableClientError e = false) w := by
  refine unwoken_retryOnConflict ?_ _ hw
  intro w hw
  have hstop : ∀ (w' : Cluster) (e : Err), phaseIn k w' (keyOf node) = ph →
      NodeRepository.isIgnorableClientError e = false →
      PoolUnwoken env k d (apiRequests (pure (.error e)))
        (fun (r : Except Err Unit) w' => phaseIn k w' (keyOf node) = ph ∧
          ∀ e, r = .error e → NodeRepository.isIgnorableClientError e = false) w' := by
    intro w' e hw' he
    refine ⟨hw', ?_⟩
    rintro _ ⟨⟩
    exact he
  refine poolUnwoken_getVNode hours hw ?_
    (fun w' e hw' _ he => hstop w' e hw' (not_ignorable_of_isNotFound he))
    (fun w' e hw' he => hstop w' e hw' he.shutdown)
  intro w' cr hw' hcr hin
  let annotated : VNodeCR := { cr with
    annotations := NodeRepository.annotateTenant cr.annotations node.tenantRef }
  have hkey : annotated.key = keyOf node := hcr
  have hannotated : InPool k annotated := hin
  have hkept : ∀ w', PoolNamed k d w' → phaseIn k w' (keyOf node) = ph → _ := fun w' hinv hw' =>
    updateVNode_kept (w := w') env hannotated (hkey.symm ▸ hours w' hinv hw')
  refine poolUnwoken_request (f := pure) (keyOf node) hw' ?_ ?_
    (fun w' e hw' he => hstop w' e hw' he.shutdown)
  · intro w'' hinv hw'' _
    have h := (hkept w'' hinv hw'').1
    rw [hkey] at h
    exact h.trans hw''
  · intro w'' hinv hw'' _ hafter
    exact ⟨hafter, (hkept w'' hinv hw'').2⟩

/-- A node that was just created has no phase, and cannot get one in silence. -/
theorem poolUnwoken_saveCreated (hk : k.name ≠ "") {node : Model.VNode} {cr : VNodeCR}
    (hcr : cr.key = keyOf node) (hset : node.phase ≠ .unset)
    (hw : phaseIn k w (keyOf node) = some .unset) :
    PoolUnwoken env k d (apiRequests (do
        match ← request (.updateVNodeStatus (applyNodeStatus cr node)) with
        | .error err =>
            if err.isConflict || err.isNotFound then NodeRepository.updateStatus node
            else return .error err
        | .ok () => return .ok ()))
      (fun r _ => r ≠ .ok ()) w := by
  have hphase : some NodePhase.unset ≠ some node.phase := by
    intro h
    exact hset (Option.some.inj h).symm
  have hkey : (applyNodeStatus cr node).key = keyOf node := hcr
  refine poolUnwoken_writeStatus hk hkey (ours_of_some _) hw ?_ ?_
  · intro w' _ hsame
    exact absurd hsame hphase
  · intro w' e hw' _
    dsimp only
    split
    · apply (poolUnwoken_updateStatus hk (ours_of_some _) hw').mono
      exact fun _ _ h hok => hphase (h.2 hok)
    · rintro ⟨⟩

/-- A save goes unnoticed only if it finds the node with the phase it is to have. -/
theorem poolUnwoken_save (hk : k.name ≠ "") (node : Model.VNode)
    (hours : Ours k d (keyOf node) ph) (hnew : ph = none → node.ns = k.ns ∧ node.poolName = k.name)
    (hset : node.phase ≠ .unset) (hw : phaseIn k w (keyOf node) = ph) :
    PoolUnwoken env k d (requests env (.save node))
      (fun r w' => r = .ok () → ph = some node.phase ∧ phaseIn k w' (keyOf node) = ph) w := by
  change PoolUnwoken env k d (apiRequests (NodeRepository.save node)) _ w
  refine poolUnwoken_getVNode hours hw ?_ ?_ ?_
  · intro w' cr hw' _ _
    refine unwoken_apiBind (poolUnwoken_updateAnnotations hours hw') ?_
    rintro r w'' ⟨hw'', hr⟩
    cases r with
    | error e =>
        dsimp only
        rw [hr e rfl]
        rintro ⟨⟩
    | ok u =>
        apply (poolUnwoken_updateStatus hk hours hw'').mono
        exact fun _ _ h hok => ⟨h.2 hok, h.1⟩
  · intro w' e hw' hnone he
    dsimp only
    rw [if_pos he]
    obtain ⟨hns, hpool⟩ := hnew hnone
    have hcreated : InPool k (NodeRepository.newCR node) := by
      refine ⟨hns, ?_⟩
      rw [← hpool]
      exact AList.lookup_insert _
    refine unwoken_request ?_ ?_ ?_
    · intro w'' _ _ _
      cases hget : w''.vnodes.get (NodeRepository.newCR node).key with
      | some old =>
          simp only [api, hget]
          rintro ⟨⟩
      | none =>
          let created : VNodeCR := { NodeRepository.newCR node with
            resourceVersion := 1
            creationTimestamp := w''.clock }
          have hput : (w''.putVNode created).vnodes.get (keyOf node) = some created :=
            Store.get_put_self w''.vnodes created
          have hphase : phaseIn k (w''.putVNode created) (keyOf node) = some .unset :=
            phaseIn_of_get hput hcreated
          simp only [api, hget]
          apply (poolUnwoken_saveCreated hk rfl hset hphase).mono
          exact fun _ _ hne hok => absurd hok hne
    · intro w'' e _ _ _
      rintro ⟨⟩
    · intro w'' e _ _ _ _
      rintro ⟨⟩
  · intro w' e hw' he
    dsimp only
    rw [he.isNotFound]
    rintro ⟨⟩

theorem poolUnwoken_always (p : Req α) : PoolUnwoken env k d p (fun _ _ => True) w :=
  Controller.Unwoken.of_returns (Prog.Returns.always p)

theorem poolUnwoken_tenant {p : Api α}
    (hp : Prog.Uses (fun c => Registrar.onTenantNodes c = true) p)
    (hw : phaseIn k w key = ph) :
    PoolUnwoken env k d (apiRequests p) (fun _ w' => phaseIn k w' key = ph) w := by
  have huses : Prog.Uses (onApi fun c => Registrar.onTenantNodes c = true) (apiRequests p) :=
    uses_apiRequests hp
  refine Controller.Unwoken.of_uses huses ?_ ?_ hw
  · intro w₁ w₂ hw₁ hrel
    exact (congrFun hrel.2.1 key).trans hw₁
  · intro c w₁ hc hw₁ _
    cases c with
    | port c => exact hc.elim
    | api c =>
        have hvnodes : (api env c w₁).2.vnodes = w₁.vnodes := by
          rw [Registrar.api_onTenantNodes env hc w₁]
        change phaseIn k (api env c w₁).2 key = ph
        rw [phaseIn, hvnodes]
        exact hw₁

theorem poolUnwoken_delete (hk : k.name ≠ "") {phase : NodePhase}
    (hw : phaseIn k w key = some phase) :
    PoolUnwoken env k d (requests env (.delete key)) (fun r _ => r ≠ .ok ()) w := by
  have hgone : ∀ w', phaseIn k w' key = some phase →
      k ∈ VNodePool.enqueued w' (api env (.deleteVNode key) w').2 := by
    intro w' hw'
    obtain ⟨cr, hget, hcr, _⟩ := get_of_phaseIn hw'
    have hcall : api env (.deleteVNode key) w' =
        (.ok (), { w' with vnodes := w'.vnodes.erase key }) := by
      simp only [api, hget]
    by_contra hquiet
    rw [hcall] at hquiet
    obtain ⟨cr', hget', _⟩ := phase_of_quiet hk hquiet hget hcr
    rw [Store.get_erase_self] at hget'
    cases hget'
  refine poolUnwoken_request (f := pure) key hw ?_ ?_ ?_
  · intro w' _ hw' hquiet
    exact absurd (hgone w' hw') hquiet
  · intro w' _ hw' hquiet _
    exact absurd (hgone w' hw') hquiet
  · intro w' e _ _
    rintro ⟨⟩

end

/-! ## Nothing is scaled in silence -/

section

variable {pool : Model.VNodePool}

/-- A new node cannot become ready without the controller hearing of it. -/
theorem poolUnwoken_provision (hk : k.name ≠ "") (hpool : PoolUnder k pool)
    (hd : pool.displayName = d) :
    PoolUnwoken env k d ((NodeService.provision pool).expand (requests env))
      (fun r _ => r.2 ≠ none) w := by
  refine unwoken_ask (poolUnwoken_always _) ?_
  intro listed w _
  cases listed with
  | error err => rintro ⟨⟩
  | ok existing =>
      let node := NodeService.newNode pool existing.length
      have hown : OwnName k d (keyOf node).name := by
        refine ⟨existing.length + 1, ?_⟩
        rw [← hd, ← hpool.2]
        rfl
      have hours : Ours k d (keyOf node) (phaseIn k w (keyOf node)) :=
        ours_of_ownName hpool.1 hown
      refine unwoken_ask (poolUnwoken_save hk node hours (fun _ => hpool) (by rintro ⟨⟩) rfl) ?_
      intro r w' hr
      cases r with
      | error err => rintro ⟨⟩
      | ok u =>
          obtain ⟨hpending, hw'⟩ := hr rfl
          rw [hpending] at hw'
          refine unwoken_ask (poolUnwoken_tenant ((Registrar.uses_register env node
            pool.tenantRef).mono fun _ h => h.onTenantNodes) hw') ?_
          intro r w'' hw''
          cases r with
          | error err =>
              refine unwoken_ask (poolUnwoken_always _) ?_
              rintro _ _ _ ⟨⟩
          | ok u =>
              refine unwoken_ask (poolUnwoken_save hk (NodeService.asReady node)
                (ours_of_some _) (by rintro ⟨⟩) (by rintro ⟨⟩) hw'') ?_
              intro r _ hr
              cases r with
              | error err => rintro ⟨⟩
              | ok u =>
                  obtain ⟨hready, _⟩ := hr rfl
                  cases hready

/-- A node of the pool cannot be removed without the controller hearing of it. -/
theorem poolUnwoken_deprovision (hk : k.name ≠ "") {node : Model.VNode} {phase : NodePhase}
    (hw : phaseIn k w (keyOf node) = some phase) :
    PoolUnwoken env k d ((NodeService.deprovision node).expand (requests env))
      (fun r _ => r ≠ .ok ()) w := by
  refine unwoken_ask (poolUnwoken_save hk (NodeService.asTerminating node)
    (ours_of_some _) (by rintro ⟨⟩) (by rintro ⟨⟩) hw) ?_
  intro r w' hr
  cases r with
  | error err => rintro ⟨⟩
  | ok u =>
      obtain ⟨_, hw'⟩ := hr rfl
      refine unwoken_ask (poolUnwoken_tenant (Registrar.uses_deregister _ _) hw') ?_
      intro _ w'' hw''
      refine unwoken_ask (poolUnwoken_delete hk hw'') ?_
      intro r _ hr
      cases r with
      | error err => rintro ⟨⟩
      | ok u => exact absurd rfl hr

/-- The VNodes of the pool, and those that count as ready. -/
def total (k : ObjKey) (w : Cluster) : Nat := (w.poolVNodes k.ns k.name).length

def ready (k : ObjKey) (w : Cluster) : Nat :=
  (w.poolVNodes k.ns k.name).countP fun cr => cr.phase ≠ .notReady ∧ cr.phase ≠ .terminating

def Scaled (k : ObjKey) (pool result : Model.VNodePool) (w : Cluster) : Prop :=
  ∃ nodes : List Model.VNode, nodes.length = total k w ∧
    nodes.countP PoolService.countsAsReady = ready k w ∧
    (pool.desiredScaleActions (int32 nodes.length)).1.toNat = 0 ∧
    (pool.desiredScaleActions (int32 nodes.length)).2.toNat = 0 ∧
    result = PoolService.withReadiness ⟨pool, nodes⟩

theorem poolUnwoken_loop_fails {β : Type}
    {body : Nat → β → Svc (Prog.Flow β PoolService.Outcome)} {n : Nat} {b : β} (hn : n ≠ 0)
    (hbody : ∀ i, PoolUnwoken env k d ((body i b).expand (requests env))
      (fun r _ => ∃ outcome, r = .exit outcome ∧ outcome.2 ≠ none) w) :
    PoolUnwoken env k d ((Prog.loop body (List.range n) b).expand (requests env))
      (fun r _ => ∃ outcome, r = .exit outcome ∧ outcome.2 ≠ none) w := by
  obtain ⟨m, rfl⟩ := Nat.exists_eq_succ_of_ne_zero hn
  rw [List.range_succ_eq_map, Prog.loop_cons]
  refine unwoken_bind (hbody 0) ?_
  rintro r w' ⟨outcome, rfl, herr⟩
  exact ⟨outcome, rfl, herr⟩

theorem poolUnwoken_scaleUpStep (hk : k.name ≠ "") (hpool : PoolUnder k pool)
    (hd : pool.displayName = d) (i : Nat) (working : List Model.VNode) :
    PoolUnwoken env k d ((PoolService.scaleUpStep i ⟨pool, working⟩).expand (requests env))
      (fun r _ => ∃ outcome, r = .exit outcome ∧ outcome.2 ≠ none) w := by
  refine unwoken_bind (poolUnwoken_provision hk hpool hd) ?_
  rintro ⟨node, err⟩ w' herr
  cases err with
  | none => exact absurd rfl herr
  | some err =>
      refine ⟨_, rfl, ?_⟩
      rintro ⟨⟩

theorem poolUnwoken_scaleDownStep (hk : k.name ≠ "") (i : Nat) {working : List Model.VNode}
    (hne : working ≠ []) (hworking : ∀ node ∈ working, ∃ phase,
      phaseIn k w (keyOf node) = some phase) :
    PoolUnwoken env k d ((PoolService.scaleDownStep i ⟨pool, working⟩).expand (requests env))
      (fun r _ => ∃ outcome, r = .exit outcome ∧ outcome.2 ≠ none) w := by
  unfold PoolService.scaleDownStep
  split
  · next hlast => exact absurd (List.getLast?_eq_none_iff.mp hlast) hne
  · next node hlast =>
      obtain ⟨phase, hphase⟩ := hworking node (List.mem_of_getLast? hlast)
      refine unwoken_bind (poolUnwoken_deprovision hk hphase) ?_
      intro r w' hr
      cases r with
      | ok u => exact absurd rfl hr
      | error err =>
          refine ⟨_, rfl, ?_⟩
          rintro ⟨⟩

theorem ne_nil_of_toRemove (hcount : 0 ≤ pool.nodeCount) {nodes : List Model.VNode}
    (h : (pool.desiredScaleActions (int32 nodes.length)).2.toNat ≠ 0) : nodes ≠ [] := by
  rintro rfl
  have hzero : int32 (([] : List Model.VNode).length : Int) = 0 := rfl
  rw [hzero, VNodePool.desiredScaleActions] at h
  split at h
  · exact h rfl
  · rw [if_neg (by omega)] at h
    exact h rfl

structure Lists (k : ObjKey) (nodes : List Model.VNode) (w : Cluster) : Prop where
  length : nodes.length = total k w
  countP : nodes.countP PoolService.countsAsReady = ready k w
  phases : ∀ node ∈ nodes, ∃ phase, phaseIn k w (keyOf node) = some phase

theorem poolUnwoken_listByPool (ns name : String) (hns : ns = k.ns) (hname : name = k.name) :
    PoolUnwoken env k d (requests env (.listByPool ns name))
      (fun r w' => ∀ nodes, r = .ok nodes → Lists k nodes w') w := by
  subst hns hname
  change PoolUnwoken env k d (apiRequests (NodeRepository.listByPool k.ns k.name)) _ w
  refine unwoken_request ?_ ?_ ?_
  · rintro w' _ _ _ nodes ⟨⟩
    have hperm := env.order_perm (w'.poolVNodes k.ns k.name)
    refine ⟨?_, ?_, ?_⟩
    · rw [List.length_map, hperm.length_eq]
      rfl
    · rw [List.countP_map, hperm.countP_eq]
      rfl
    · intro node hnode
      obtain ⟨cr, hcr, rfl⟩ := List.mem_map.mp hnode
      have hmem := List.mem_filter.mp (hperm.mem_iff.mp hcr)
      exact ⟨cr.phase, phaseIn_of_get (Store.get_of_mem hmem.1) (of_decide_eq_true hmem.2)⟩
  · rintro w' e _ _ _ nodes ⟨⟩
  · rintro w' e _ _ _ _ nodes ⟨⟩

theorem poolUnwoken_scalePool (hk : k.name ≠ "") (hpool : PoolUnder k pool)
    (hd : pool.displayName = d) (hcount : 0 ≤ pool.nodeCount) :
    PoolUnwoken env k d ((PoolService.reconcile pool).expand (requests env))
      (fun r w' => r.2 = none → Scaled k pool r.1 w') w := by
  refine unwoken_ask (poolUnwoken_listByPool pool.ns pool.name hpool.1 hpool.2) ?_
  intro r w hr
  cases r with
  | error err => rintro ⟨⟩
  | ok nodes =>
      have hlists : Lists k nodes w := hr nodes rfl
      dsimp only
      unfold PoolService.scale
      by_cases hadd : (pool.desiredScaleActions (int32 nodes.length)).1.toNat = 0
      · by_cases hremove : (pool.desiredScaleActions (int32 nodes.length)).2.toNat = 0
        · rw [hadd, hremove]
          exact fun _ => ⟨nodes, hlists.length, hlists.countP, hadd, hremove, rfl⟩
        · have hne := ne_nil_of_toRemove hcount hremove
          have hup : PoolUnwoken env k d ((Prog.loop PoolService.scaleUpStep (List.range 0)
              ⟨pool, nodes⟩).expand (requests env))
              (fun r w' => r = .next ⟨pool, nodes⟩ ∧ w' = w) w := ⟨rfl, rfl⟩
          rw [hadd]
          refine unwoken_bind hup ?_
          rintro r w' ⟨rfl, rfl⟩
          refine unwoken_bind (poolUnwoken_loop_fails hremove fun i =>
            poolUnwoken_scaleDownStep hk i hne hlists.phases) ?_
          rintro r w' ⟨outcome, rfl, herr⟩ hnone
          exact absurd hnone herr
      · refine unwoken_bind (poolUnwoken_loop_fails hadd fun i =>
          poolUnwoken_scaleUpStep hk hpool hd i nodes) ?_
        rintro r w' ⟨outcome, rfl, herr⟩ hnone
        exact absurd hnone herr

end

/-! ## The pool itself -/

def scalingCalls : Contract Call Call.Reply where
  may
    | .save _ | .delete _ | .register _ _ | .deregister _ _ | .updateNodeStatus _ _ => True
    | c => c.isRead
  gets _ _ := True

theorem poolRules_scaling :
    PoolRules scalingCalls (fun _ => True) (fun _ => True) (fun _ => False) where
  status _ _ _ := trivial
  save _ := trivial
  register _ := trivial
  deregister _ := trivial
  updateNodeStatus _ := trivial
  delete _ := trivial
  now := rfl
  nodes _ _ := trivial
  list _ := rfl
  listed _ _ _ _ := trivial
  fresh _ _ := trivial
  live h := h.elim
  leaving h := h.elim
  finalizers _ h := h
  getPool h := h.elim
  gotPool h _ := h
  updatePool h := h.elim
  patch _ _ h := h.elim
  listVNodes h := h.elim

def leavesPool : Request → Prop
  | .api _ => True
  | .port c => c.isRead = true

theorem poolUnwoken_spec (pool : Model.VNodePool) {sp : Option VNodePoolCR}
    (hw : poolSpec k w = sp) :
    PoolUnwoken env k d ((PoolService.reconcile pool).expand (requests env))
      (fun _ w' => poolSpec k w' = sp) w := by
  have hcalls : Prog.Uses scalingCalls.may (PoolService.reconcile pool) :=
    (poolRules_scaling.meets_scalePool trivial).uses fun _ _ => trivial
  have hrequests : ∀ c, scalingCalls.may c → Prog.Uses leavesPool (requests env c) := by
    have hapi : ∀ {β : Type} (p : Api β), Prog.Uses leavesPool (apiRequests p) :=
      fun p => uses_apiRequests (Prog.Uses.always p)
    intro c hc
    cases c with
    | listByPool _ _ | save _ | delete _ | register _ _ | deregister _ _
    | updateNodeStatus _ _ => exact hapi _
    | deletePod _ | ensureConfigMap _ | ensureSecret _ => cases hc
    | getVNode key => exact Prog.Uses.perform (c := Request.api (.getVNode key)) trivial
    | _ => exact Prog.Uses.perform (c := Request.port _) hc
  refine Controller.Unwoken.of_uses (hcalls.expand hrequests) ?_ ?_ hw
  · intro w₁ w₂ hw₁ hrel
    exact hrel.2.2.1.trans hw₁
  · intro c w₁ hc hw₁ _
    cases c with
    | api c =>
        change (((api env c w₁).2.pools.get k).map specOf) = sp
        rw [api_pools]
        exact hw₁
    | port c =>
        change poolSpec k (handle env c w₁).2 = sp
        rw [handle_read env w₁ hc]
        exact hw₁

theorem counts_of_phaseIn (h : phaseIn k w' = phaseIn k w) :
    total k w' = total k w ∧ ready k w' = ready k w := by
  let phases (v : Cluster) : List (ObjKey × NodePhase) :=
    (v.poolVNodes k.ns k.name).map fun cr => (cr.key, cr.phase)
  have hmem : ∀ v (p : ObjKey × NodePhase), p ∈ phases v ↔ phaseIn k v p.1 = some p.2 := by
    intro v p
    constructor
    · intro hp
      obtain ⟨cr, hcr, rfl⟩ := List.mem_map.mp hp
      obtain ⟨hmem, hin⟩ := List.mem_filter.mp hcr
      exact phaseIn_of_get (Store.get_of_mem hmem) (of_decide_eq_true hin)
    · intro hp
      obtain ⟨cr, hget, hin, hphase⟩ := get_of_phaseIn hp
      refine List.mem_map.mpr ⟨cr, List.mem_filter.mpr ⟨Store.mem_of_get hget, ?_⟩, ?_⟩
      · exact decide_eq_true hin
      · rw [Store.key_of_get hget, hphase]
  have hnodup : ∀ v, (phases v).Nodup := by
    intro v
    apply List.Nodup.of_map Prod.fst
    rw [List.map_map]
    exact (v.vnodes.nodup.sublist (List.filter_sublist.map _))
  have hperm : (phases w').Perm (phases w) := by
    rw [List.perm_ext_iff_of_nodup (hnodup w') (hnodup w)]
    intro p
    rw [hmem, hmem, h]
  constructor
  · have hlength := hperm.length_eq
    rwa [List.length_map, List.length_map] at hlength
  · have hcount := hperm.countP_eq fun p => p.2 ≠ .notReady ∧ p.2 ≠ .terminating
    rwa [List.countP_map, List.countP_map] at hcount

theorem progressOf_merge {base status current : VNodePoolStatus}
    (h : progressOf current = progressOf base) :
    progressOf (mergeStatus base status current) = progressOf status := by
  simp only [progressOf, Prod.mk.injEq] at h
  obtain ⟨hphase, hready, htotal⟩ := h
  simp only [progressOf, mergeStatus, Prod.mk.injEq]
  refine ⟨?_, ?_, ?_⟩
  · split
    · next hsame => exact hphase.trans hsame
    · rfl
  · split
    · next hsame => exact hready.trans hsame
    · rfl
  · split
    · next hsame => exact htotal.trans hsame
    · rfl

theorem poolSpec_of_get {cr : VNodePoolCR} (hget : w.pools.get k = some cr) :
    poolSpec k w = some (specOf cr) := by
  rw [poolSpec, hget]
  rfl

theorem get_of_poolSpec {sp : VNodePoolCR} (h : poolSpec k w = some sp) :
    ∃ cr, w.pools.get k = some cr ∧ specOf cr = sp :=
  Option.map_eq_some_iff.mp h

/-- What a reconcile relies on while it writes the status: the phases of the nodes, and what
was asked of the pool. -/
structure Holds (k : ObjKey) (phases : ObjKey → Option NodePhase) (sp : VNodePoolCR)
    (w : Cluster) : Prop where
  phases : phaseIn k w = phases
  spec : poolSpec k w = some sp

section

variable {phases : ObjKey → Option NodePhase} {sp : VNodePoolCR}

theorem Holds.rel (h : Holds k phases sp w) (hrel : (poolInterference k d).rel w w') :
    Holds k phases sp w' :=
  ⟨hrel.2.1.trans h.phases, hrel.2.2.1.trans h.spec⟩

theorem Holds.putStatus (h : Holds k phases sp w) {old : VNodePoolCR}
    (hget : w.pools.get k = some old) (version : Nat) (status : VNodePoolStatus) :
    Holds k phases sp (w.putPool { old with resourceVersion := version, status := status }) ∧
      progress k (w.putPool { old with resourceVersion := version, status := status }) =
        some (progressOf status) := by
  let written : VNodePoolCR := { old with resourceVersion := version, status := status }
  have hold : old.key = k := Store.key_of_get hget
  have hkey : written.key = k := hold
  have hput : (w.putPool written).pools.get k = some written := by
    rw [Cluster.putPool, Store.get_put, if_pos hkey]
  have hspec := h.spec
  rw [poolSpec_of_get hget] at hspec
  refine ⟨⟨h.phases, ?_⟩, ?_⟩
  · rw [poolSpec_of_get hput]
    exact hspec
  · exact congrArg (Option.map fun cr : VNodePoolCR => progressOf cr.status) hput

theorem poolUnwoken_now {P : Cluster → Prop}
    (hrel : ∀ w w', P w → (poolInterference k d).rel w w' → P w') (hw : P w) :
    PoolUnwoken env k d (now.expand (requests env)) (fun _ => P) w := by
  have huses : Prog.Uses (fun r => r = Request.port .now) (now.expand (requests env)) := by
    refine Prog.Uses.expand (A := fun c => c = Call.now) ?_ ?_
    · refine Prog.Uses.bind (Prog.Uses.perform (c := Call.now) rfl) ?_
      intro r
      cases r <;> exact Prog.Uses.pure _
    · rintro c rfl
      exact Prog.Uses.perform rfl
  refine Controller.Unwoken.of_uses huses hrel ?_ hw
  rintro c w₁ rfl hw₁ _
  exact hw₁

theorem poolUnwoken_updatePoolStatus {mutate : Int → VNodePoolStatus → VNodePoolStatus}
    (G : PoolPhase × Int × Int → Prop)
    (hG : ∀ time status, G (progressOf (mutate time status))) (hw : Holds k phases sp w) :
    PoolUnwoken env k d ((VNodePool.updatePoolStatus k mutate).expand (requests env))
      (fun r w' => Holds k phases sp w' ∧ (r = .ok () → ∃ p, progress k w' = some p ∧ G p))
      w := by
  refine unwoken_retry ?_ _ hw
  intro w hw
  refine unwoken_ask (c := .getVNodePool k) (Q := fun r w' => Holds k phases sp w' ∧
    ∀ cr : VNodePoolCR, r = .ok cr → progress k w' = some (progressOf cr.status))
    (unwoken_getVNodePool ?_ ?_ ?_) ?_
  · intro w' cr _ hrel hget
    refine ⟨hw.rel hrel, ?_⟩
    rintro _ ⟨⟩
    rw [progress, hget]
    rfl
  · intro w' e _ hrel _ _
    refine ⟨hw.rel hrel, ?_⟩
    rintro _ ⟨⟩
  · intro w' e _ hrel _
    refine ⟨hw.rel hrel, ?_⟩
    rintro _ ⟨⟩
  · rintro r w' ⟨hw', hr⟩
    cases r with
    | error err =>
        refine ⟨hw', ?_⟩
        rintro ⟨⟩
    | ok current =>
        have hprogress := hr current rfl
        refine unwoken_bind (poolUnwoken_now (P := fun w' => Holds k phases sp w' ∧
          progress k w' = some (progressOf current.status)) ?_ ⟨hw', hprogress⟩) ?_
        · intro w₁ w₂ hw₁ hrel
          exact ⟨hw₁.1.rel hrel, hrel.2.2.2.trans hw₁.2⟩
        · rintro time w'' ⟨hw'', hprogress⟩
          dsimp only
          split
          · next hsame =>
              refine ⟨hw'', fun _ => ⟨_, hprogress, ?_⟩⟩
              rw [← hsame]
              exact hG time current.status
          · -- the fields the patch leaves out are those nobody has changed
            have hpatched : ∀ v, (poolInterference k d).rel w'' v →
                Holds k phases sp (handle env (.patchVNodePoolStatus k current.status
                  (mutate time current.status)) v).2 ∧
                progress k (handle env (.patchVNodePoolStatus k current.status
                  (mutate time current.status)) v).2 =
                  some (progressOf (mutate time current.status)) := by
              intro v hrel
              have hv := hw''.rel hrel
              obtain ⟨old, hget, _⟩ := get_of_poolSpec hv.spec
              have hold : progressOf old.status = progressOf current.status := by
                have hsame := hrel.2.2.2.trans hprogress
                rw [progress, hget, Option.map_some, Option.some.injEq] at hsame
                exact hsame
              simp only [handle, hget]
              rw [← progressOf_merge hold]
              exact hv.putStatus hget _ _
            rw [ask, Prog.expand_perform]
            refine unwoken_port ?_ ?_ ?_
            · intro v _ hrel _
              exact ⟨(hpatched v hrel).1, fun _ => ⟨_, (hpatched v hrel).2, hG _ _⟩⟩
            · intro v e _ hrel _
              refine ⟨hw''.rel hrel, ?_⟩
              rintro ⟨⟩
            · intro v e _ hrel _ _
              refine ⟨(hpatched v hrel).1, ?_⟩
              rintro ⟨⟩

/-- What an update of the pool does to it: nothing, or it goes with its last finalizer, or
it is written but for what is not the client's to write. -/
theorem updateVNodePool_cases (env : Env) {cr : VNodePoolCR} (hkey : cr.key = k) (w : Cluster) :
    (∃ e, handle env (.updateVNodePool cr) w = (.error e, w)) ∨
      ∃ old, w.pools.get k = some old ∧
        (handle env (.updateVNodePool cr) w).1 = .ok () ∧
        (handle env (.updateVNodePool cr) w).2.vnodes = w.vnodes ∧
        (old.deletionTimestamp.isSome ∧
            (handle env (.updateVNodePool cr) w).2.pools.get k = none ∨
          (handle env (.updateVNodePool cr) w).2.pools.get k = some { cr with
            resourceVersion := old.resourceVersion + 1
            deletionTimestamp := old.deletionTimestamp
            status := old.status }) := by
  rcases handle_updateVNodePool_cases env w cr with ⟨e, hcall⟩ | ⟨old, hget, _, hcall⟩
  · exact Or.inl ⟨e, hcall⟩
  · rw [hkey] at hget
    have hold : old.key = k := Store.key_of_get hget
    refine Or.inr ⟨old, hget, ?_⟩
    rw [hcall]
    unfold Cluster.updatePool
    split
    · next hlast =>
        refine ⟨rfl, rfl, Or.inl ⟨hlast.1, ?_⟩⟩
        rw [hold, Store.get_erase_self]
    · let written : VNodePoolCR := { cr with
        resourceVersion := old.resourceVersion + 1
        deletionTimestamp := old.deletionTimestamp
        status := old.status }
      have hwritten : written.key = k := hkey
      have hput : (w.pools.put written).get k = some written := by
        rw [Store.get_put, if_pos hwritten]
      exact ⟨rfl, rfl, Or.inr hput⟩

theorem poolUnwoken_removeFinalizer (hw : ∀ cr, w.pools.get k = some cr →
      cr.deletionTimestamp.isSome) :
    PoolUnwoken env k d ((VNodePool.removeFinalizer k).expand (requests env))
      (fun r w' => (∀ cr, w'.pools.get k = some cr → cr.deletionTimestamp.isSome) ∧
        (r = .ok () → ∀ cr, w'.pools.get k = some cr → poolFinalizer ∉ cr.finalizers)) w := by
  have hstays : ∀ w w', (∀ cr, w.pools.get k = some cr → cr.deletionTimestamp.isSome) →
      (poolInterference k d).rel w w' →
      ∀ cr, w'.pools.get k = some cr → cr.deletionTimestamp.isSome := by
    intro w w' hw hrel cr hget
    have hspec := hrel.2.2.1
    rw [poolSpec_of_get hget] at hspec
    obtain ⟨old, hold, hsame⟩ := get_of_poolSpec hspec.symm
    have htime : old.deletionTimestamp = cr.deletionTimestamp := by
      injection hsame
    exact htime ▸ hw old hold
  refine unwoken_retry ?_ _ hw
  intro w hw
  refine unwoken_ask (c := .getVNodePool k) (Q := fun r w' =>
    (∀ cr, w'.pools.get k = some cr → cr.deletionTimestamp.isSome) ∧
    match r with
    | .ok cr => cr.key = k
    | .error e => e.isNotFound = true → w'.pools.get k = none)
    (unwoken_getVNodePool ?_ ?_ ?_) ?_
  · intro w' cr _ hrel hget
    exact ⟨hstays w w' hw hrel, Store.key_of_get hget⟩
  · intro w' e _ hrel hnone _
    exact ⟨hstays w w' hw hrel, fun _ => hnone⟩
  · intro w' e _ hrel he
    refine ⟨hstays w w' hw hrel, fun hmissing => ?_⟩
    rw [he.isNotFound] at hmissing
    cases hmissing
  · rintro r w' ⟨hw', hr⟩
    cases r with
    | error e =>
        refine ⟨hw', ?_⟩
        cases hmissing : e.isNotFound with
        | false => rintro ⟨⟩
        | true =>
            intro _ cr hget
            rw [hr hmissing] at hget
            cases hget
    | ok current =>
        have hkey : current.key = k := hr
        let stripped : VNodePoolCR := { current with
          finalizers := current.finalizers.filter (· ≠ poolFinalizer) }
        have hstripped : stripped.key = k := hkey
        have hoff : poolFinalizer ∉ stripped.finalizers := by
          intro hmem
          simpa using (List.mem_filter.mp hmem).2
        have hupdated : ∀ v, (∀ cr, v.pools.get k = some cr → cr.deletionTimestamp.isSome) →
            (∀ cr, (handle env (.updateVNodePool stripped) v).2.pools.get k = some cr →
              cr.deletionTimestamp.isSome) ∧
            ((handle env (.updateVNodePool stripped) v).1 = .ok () →
              ∀ cr, (handle env (.updateVNodePool stripped) v).2.pools.get k = some cr →
                poolFinalizer ∉ cr.finalizers) := by
          intro v hv
          rcases updateVNodePool_cases env hstripped v with
            ⟨e, hcall⟩ | ⟨old, hget, _, _, ⟨_, hgone⟩ | hwritten⟩
          · rw [hcall]
            refine ⟨hv, ?_⟩
            rintro ⟨⟩
          · rw [hgone]
            refine ⟨?_, ?_⟩
            · rintro cr ⟨⟩
            · rintro _ cr ⟨⟩
          · rw [hwritten]
            refine ⟨?_, ?_⟩
            · rintro cr ⟨⟩
              exact hv old hget
            · rintro _ cr ⟨⟩
              exact hoff
        dsimp only
        rw [ask, Prog.expand_perform]
        refine unwoken_port ?_ ?_ ?_
        · intro v _ hrel _
          exact hupdated v (hstays w' v hw' hrel)
        · intro v e _ hrel _
          refine ⟨hstays w' v hw' hrel, ?_⟩
          rintro ⟨⟩
        · intro v e _ hrel _ _
          refine ⟨(hupdated v (hstays w' v hw' hrel)).1, ?_⟩
          rintro ⟨⟩

end

/-! ## The reconcile -/

structure StatusTrue (k : ObjKey) (sp : VNodePoolCR) (w : Cluster) : Prop where
  add : ((crToPoolModel sp).desiredScaleActions (int32 (total k w))).1.toNat = 0
  remove : ((crToPoolModel sp).desiredScaleActions (int32 (total k w))).2.toNat = 0
  status : progress k w = some
    (if int32 (ready k w) = sp.nodeCount then .ready else .scaling, int32 (ready k w),
      sp.nodeCount)

def PoolSettled (k : ObjKey) (w : Cluster) : Prop :=
  ∀ sp, poolSpec k w = some sp →
    (sp.deletionTimestamp.isSome → poolFinalizer ∉ sp.finalizers) ∧
    (sp.deletionTimestamp = none → poolFinalizer ∈ sp.finalizers ∧
      ((crToPoolModel sp).validate = .ok () → StatusTrue k sp w))

theorem PoolSettled.rel (h : PoolSettled k w) (hrel : (poolInterference k d).rel w w') :
    PoolSettled k w' := by
  intro sp hsp
  obtain ⟨_, hphases, hspec, hprogress⟩ := hrel
  rw [hspec] at hsp
  obtain ⟨hdeleting, hlive⟩ := h sp hsp
  refine ⟨hdeleting, fun htime => ⟨(hlive htime).1, fun hvalid => ?_⟩⟩
  obtain ⟨htotal, hready⟩ := counts_of_phaseIn hphases
  obtain ⟨hadd, hremove, hstatus⟩ := (hlive htime).2 hvalid
  refine ⟨?_, ?_, ?_⟩
  · rwa [htotal]
  · rwa [htotal]
  · rwa [hready, hprogress]

theorem mem_specOf_finalizers {cr : VNodePoolCR} :
    poolFinalizer ∈ (specOf cr).finalizers ↔ poolFinalizer ∈ cr.finalizers := by
  rw [specOf, List.mem_filter]
  simp

theorem deletionTimestamp_of_specOf {cr cr' : VNodePoolCR} (h : specOf cr' = specOf cr) :
    cr'.deletionTimestamp = cr.deletionTimestamp := by
  injection h

theorem progressOf_statusOf (result : Model.VNodePool) (time : Int) (status : VNodePoolStatus) :
    progressOf (VNodePool.statusOf result time status) =
      (result.phase, result.readyNodes, result.nodeCount) := rfl

theorem poolUnwoken_reconcileLive (hk : k.name ≠ "") {cr : VNodePoolCR} (hkey : cr.key = k)
    (hd : cr.displayName = d) (htime : cr.deletionTimestamp = none)
    (hfinalizer : poolFinalizer ∈ cr.finalizers) (hw : poolSpec k w = some (specOf cr)) :
    PoolUnwoken env k d ((VNodePool.reconcileLive cr).expand (requests env))
      (fun r w' => comesAgain r = false → PoolSettled k w') w := by
  have hpool : PoolUnder k (crToPoolModel cr) :=
    ⟨congrArg ObjKey.ns hkey, congrArg ObjKey.name hkey⟩
  have hsettled : ∀ w', poolSpec k w' = some (specOf cr) →
      ((crToPoolModel (specOf cr)).validate = .ok () → StatusTrue k (specOf cr) w') →
      PoolSettled k w' := by
    intro w' hspec hstatus sp hsp
    rw [hspec, Option.some.injEq] at hsp
    subst hsp
    refine ⟨fun hdeleting => ?_, fun _ => ⟨mem_specOf_finalizers.mpr hfinalizer, hstatus⟩⟩
    have hnone : (specOf cr).deletionTimestamp = none := htime
    rw [hnone] at hdeleting
    cases hdeleting
  unfold VNodePool.reconcileLive
  dsimp only
  rw [hkey]
  cases hvalidate : (crToPoolModel cr).validate with
  | error msg =>
      refine unwoken_bind (poolUnwoken_updatePoolStatus (fun _ => True) (fun _ _ => trivial)
        ⟨rfl, hw⟩) ?_
      rintro _ w' ⟨hw', _⟩ _
      refine hsettled w' hw'.spec fun hvalid => ?_
      have hsame : (crToPoolModel cr).validate = .ok () := hvalid
      rw [hsame] at hvalidate
      cases hvalidate
  | ok u =>
      refine unwoken_bind ((poolUnwoken_spec _ hw).and (poolUnwoken_scalePool hk hpool hd
        (VNodePool.of_validate hvalidate).2.2)) ?_
      rintro ⟨result, err⟩ w' ⟨hspec, hscaled⟩
      cases err with
      | some err =>
          refine unwoken_bind (poolUnwoken_always _) ?_
          rintro _ _ _ ⟨⟩
      | none =>
          obtain ⟨nodes, htotal, hready, hadd, hremove, rfl⟩ := hscaled rfl
          refine unwoken_bind (poolUnwoken_updatePoolStatus
            (fun p => p = (if int32 (ready k w') = cr.nodeCount then .ready else .scaling,
              int32 (ready k w'), cr.nodeCount)) ?_ ⟨rfl, hspec⟩) ?_
          · intro time status
            rw [progressOf_statusOf, ← hready]
            simp only [PoolService.withReadiness, crToPoolModel]
            congr 1
          · rintro r w'' ⟨hw'', hr⟩
            cases r with
            | error err => rintro ⟨⟩
            | ok u =>
                intro _
                obtain ⟨p, hprogress, rfl⟩ := hr rfl
                obtain ⟨htotal', hready'⟩ := counts_of_phaseIn hw''.phases
                refine hsettled w'' hw''.spec fun _ => ⟨?_, ?_, ?_⟩
                · rw [htotal', ← htotal]
                  exact hadd
                · rw [htotal', ← htotal]
                  exact hremove
                · rw [hready']
                  exact hprogress

theorem poolUnwoken_handleDeletion {cr : VNodePoolCR} (hkey : cr.key = k)
    (htime : cr.deletionTimestamp.isSome) (hw : poolSpec k w = some (specOf cr)) :
    PoolUnwoken env k d ((VNodePool.handleDeletion cr).expand (requests env))
      (fun r w' => comesAgain r = false → PoolSettled k w') w := by
  have hsettled : ∀ w', (∀ cr', w'.pools.get k = some cr' → cr'.deletionTimestamp.isSome ∧
      poolFinalizer ∉ cr'.finalizers) → PoolSettled k w' := by
    intro w' h sp hsp
    obtain ⟨cr', hget, rfl⟩ := get_of_poolSpec hsp
    obtain ⟨htime', hoff⟩ := h cr' hget
    refine ⟨fun _ => mt mem_specOf_finalizers.mp hoff, fun hnone => ?_⟩
    have hnone' : cr'.deletionTimestamp = none := hnone
    rw [hnone'] at htime'
    cases htime'
  unfold VNodePool.handleDeletion
  split
  · next hoff =>
      intro _
      refine hsettled w fun cr' hget => ?_
      have hsame : specOf cr' = specOf cr := by
        rw [poolSpec_of_get hget, Option.some.injEq] at hw
        exact hw
      rw [deletionTimestamp_of_specOf hsame]
      refine ⟨htime, fun hon => hoff ?_⟩
      rw [← mem_specOf_finalizers, ← hsame, mem_specOf_finalizers]
      exact hon
  · rw [hkey]
    refine unwoken_bind (poolUnwoken_updatePoolStatus (fun _ => True) (fun _ _ => trivial)
      ⟨rfl, hw⟩) ?_
    rintro _ w' ⟨hw', _⟩
    refine unwoken_bind (poolUnwoken_spec _ hw'.spec) ?_
    rintro ⟨result, err⟩ w' hspec
    cases err with
    | some err => rintro ⟨⟩
    | none =>
        have hleaving : ∀ v, poolSpec k v = some (specOf cr) →
            ∀ cr', v.pools.get k = some cr' → cr'.deletionTimestamp.isSome := by
          intro v hv cr' hget
          rw [poolSpec_of_get hget, Option.some.injEq] at hv
          rw [deletionTimestamp_of_specOf hv]
          exact htime
        refine unwoken_ask (unwoken_read rfl (Q := fun _ w' => poolSpec k w' = some (specOf cr))
          (fun _ _ hrel => hrel.2.2.1.trans hspec) (fun _ _ _ hrel _ => hrel.2.2.1.trans hspec)) ?_
        intro r w'' hspec'
        cases r with
        | error err => rintro ⟨⟩
        | ok remaining =>
            dsimp only
            split
            · rintro ⟨⟩
            · refine unwoken_bind (poolUnwoken_removeFinalizer (hleaving w'' hspec')) ?_
              rintro r v ⟨htimes, hoff⟩
              cases r with
              | error err => rintro ⟨⟩
              | ok u =>
                  exact fun _ => hsettled v fun cr' hget => ⟨htimes cr' hget, hoff rfl cr' hget⟩

theorem poolUnwoken_reconcile (hk : k.name ≠ "") :
    PoolUnwoken env k d ((VNodePool.reconcile k).expand (requests env))
      (fun r w' => comesAgain r = false → PoolSettled k w') w := by
  refine unwoken_ask (c := .getVNodePool k) (Q := fun r w' => match r with
    | .ok cr => w'.pools.get k = some cr ∧ cr.displayName = d
    | .error e => Outage e ∨ w'.pools.get k = none)
    (unwoken_getVNodePool (fun w' cr hinv _ hget => ⟨hget, hinv.pool cr hget⟩)
      (fun _ _ _ _ hnone _ => Or.inr hnone) (fun _ _ _ _ he => Or.inl he)) ?_
  intro r w' hr
  cases r with
  | error err =>
      intro hdone sp hsp
      rcases hr with houtage | hnone
      · rw [houtage.isNotFound] at hdone
        cases hdone
      · obtain ⟨cr, hget, _⟩ := get_of_poolSpec hsp
        rw [hnone] at hget
        cases hget
  | ok cr =>
      obtain ⟨hget, hd⟩ := hr
      have hkey : cr.key = k := Store.key_of_get hget
      have hspec : poolSpec k w' = some (specOf cr) := poolSpec_of_get hget
      dsimp only
      split
      · next htime => exact poolUnwoken_handleDeletion hkey htime hspec
      · next htime =>
          rw [Option.not_isSome_iff_eq_none] at htime
          split
          · next hon => exact poolUnwoken_reconcileLive hk hkey hd htime hon hspec
          · let marked : VNodePoolCR := { cr with finalizers := cr.finalizers ++ [poolFinalizer] }
            have hmarkedKey : marked.key = k := hkey
            have hon : poolFinalizer ∈ marked.finalizers :=
              List.mem_append_right _ (List.mem_singleton.mpr rfl)
            rw [ask, Prog.expand_bind, Prog.expand_perform]
            refine Controller.Unwoken.bind (Q := fun r w'' => r = .ok () →
              poolSpec k w'' = some (specOf marked)) (unwoken_port ?_ ?_ ?_) ?_
            · intro v _ hrel _ hok
              rcases updateVNodePool_cases env hmarkedKey v with
                ⟨e, hcall⟩ | ⟨old, hold, _, _, hafter⟩
              · rw [hcall] at hok
                cases hok
              · have hsame : specOf old = specOf cr := by
                  have h := hrel.2.2.1.trans hspec
                  rwa [poolSpec_of_get hold, Option.some.injEq] at h
                have hnone : old.deletionTimestamp = none :=
                  (deletionTimestamp_of_specOf hsame).trans htime
                rcases hafter with ⟨hdeleting, _⟩ | hwritten
                · rw [hnone] at hdeleting
                  cases hdeleting
                · rw [poolSpec_of_get hwritten, hnone, ← htime]
                  rfl
            · rintro v e _ _ _ ⟨⟩
            · rintro v e _ _ _ _ ⟨⟩
            · intro r w'' hr
              cases r with
              | error err => rintro ⟨⟩
              | ok u => exact poolUnwoken_reconcileLive hk hmarkedKey hd htime hon (hr rfl)

theorem settles_poolController (hk : k.name ≠ "") :
    Controller.Settles (poolController env k d) (poolInterference k d) (PoolSettled k) where
  contract := by
    refine ⟨(poolNames k d).requestContract, meets_names env k d,
      Records.requestContract_error, ?_⟩
    intro c w hc hw
    obtain ⟨hholds, hgets⟩ :=
      Records.keeps_serve lawful_poolNames hc (holds_poolNames_iff.mpr hw)
    exact ⟨holds_poolNames_iff.mp hholds, hgets⟩
  others hw hothers := hothers.named hw
  quiet _ hothers hquiet := rel_of_quiet hk hothers (of_decide_eq_false hquiet)
  reconcile _ _ := poolUnwoken_reconcile hk
  unlisted := by
    intro w hlisted sp hsp
    obtain ⟨cr, hget, _⟩ := get_of_poolSpec hsp
    exact absurd (mem_enqueued_of_pool (create_mem_storeEvents rfl hget) rfl
      (List.mem_singleton.mpr rfl) (Store.key_of_get hget)) (of_decide_eq_false hlisted)
  good := PoolSettled.rel

/-- With numbers that fit, nothing to scale means that the numbers agree. -/
theorem nodeCount_eq_of_actions (pool : Model.VNodePool) {n : Nat} (hcount : 0 ≤ pool.nodeCount)
    (hcount' : pool.nodeCount < 2 ^ 31) (hn : n < 2 ^ 31)
    (hadd : (pool.desiredScaleActions (int32 n)).1.toNat = 0)
    (hremove : (pool.desiredScaleActions (int32 n)).2.toNat = 0) : pool.nodeCount = n := by
  have hint : int32 (n : Int) = n := int32_of_lt (by omega) (by omega)
  rw [hint] at hadd hremove
  unfold VNodePool.desiredScaleActions at hadd hremove
  split at hadd
  · have hdiff : int32 (pool.nodeCount - n) = pool.nodeCount - n :=
      int32_of_lt (by omega) (by omega)
    dsimp only at hadd
    omega
  · next hle =>
      rw [if_neg hle] at hremove
      split at hremove
      · have hdiff : int32 (n - pool.nodeCount) = n - pool.nodeCount :=
          int32_of_lt (by omega) (by omega)
        dsimp only at hremove
        omega
      · omega

def webPool : VNodePoolCR where
  name := "web"
  ns := "host"
  finalizers := [poolFinalizer]
  tenantRef := { vclusterName := "acme", vclusterNamespace := "acme", kubeconfigSecret := "acme" }
  nodeCount := 1

def webCluster : Cluster where
  vnodes := Store.empty.put (NodeRepository.savedNew 0
    (NodeService.asReady (NodeService.newNode (crToPoolModel webPool) 0)))
  pools := Store.empty.put webPool
  tenants _ := {}

theorem poolNamed_webCluster : PoolNamed webPool.key "" webCluster where
  vnodes key cr hget := by
    have hmem := Store.mem_of_get hget
    rw [webCluster, Store.mem_put] at hmem
    rcases hmem with rfl | ⟨hempty, _⟩
    · exact fun _ _ => ⟨⟨rfl, rfl⟩, rfl⟩
    · cases hempty
  pool cr hget := by
    have hmem := Store.mem_of_get hget
    rw [webCluster, Store.mem_put] at hmem
    rcases hmem with rfl | ⟨hempty, _⟩
    · rfl
    · cases hempty

end VNodeOperator.Operator
