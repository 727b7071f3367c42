import VNodeOperator.Nodes.StatusWrites
import VNodeOperator.Reconciler.VNode

/-!
# From the outcome of a registrar call to the stored phase

`Provision` and the reconciles of a virtual node each read, make a registrar call
and save the phase that follows from its outcome.  For each of them, request by
request: what comes before the registrar call, and that a writer which is left alone
after it ends with the phase stored that it computed.
-/

namespace VNodeOperator.Nodes

open Model Kube Adapter Ports ProofSupport Service NodeService Reconciler

/-! ## The writers -/

inductive Writer where
  | provision (pool : VNodePool)
  | reconcile

def Writer.program (k : ObjKey) : Writer → Svc Unit
  | .provision pool => do
      let _ ← NodeService.provision pool
      return ()
  | .reconcile => do
      let _ ← VNode.reconcile k
      return ()

/-- The requests behind a call, with a registrar call as one request. -/
def grain (env : Env) : (c : Call) → Req c.Reply
  | .register node tenant => Prog.perform (Request.port (.register node tenant))
  | .deregister node tenant => Prog.perform (Request.port (.deregister node tenant))
  | .updateNodeStatus node tenant => Prog.perform (Request.port (.updateNodeStatus node tenant))
  | c => requests env c

def registrarOn (k : ObjKey) : Request → Bool
  | .port (.register node _) | .port (.updateNodeStatus node _) => NodeRepository.keyOf node = k
  | _ => false

theorem touches_of_registrarOn {k : ObjKey} {r : Request} (hr : registrarOn k r = true) :
    Touches k r := by
  unfold registrarOn at hr
  split at hr
  · have hkey := of_decide_eq_true hr
    exact hkey
  · have hkey := of_decide_eq_true hr
    exact hkey
  · cases hr

theorem registrarOn_of_not_touches {k : ObjKey} {r : Request} (hr : ¬ Touches k r) :
    registrarOn k r = false :=
  Bool.eq_false_iff.mpr fun hon => hr (touches_of_registrarOn hon)

theorem isRegistrar_of_registrarOn {k : ObjKey} {c : Call}
    (hc : registrarOn k (.port c) = true) : c.isRegistrar := by
  unfold registrarOn at hc
  split at hc
  · next heq => cases heq; rfl
  · next heq => cases heq; rfl
  · cases hc

/-- The phase a writer computes from the reply of its registrar call.  A reconcile
that was cancelled computes none. -/
def Writer.verdict {β : Type} : Writer → Except Err β → Option NodePhase
  | _, .ok _ => some .ready
  | .provision _, .error _ => some .notReady
  | .reconcile, .error err => if isIgnorableStatusError err then none else some .notReady

theorem verdict_provision_ne_none {β : Type} (pool : VNodePool) (reply : Except Err β) :
    (Writer.provision pool).verdict reply ≠ none := by
  cases reply <;> simp [Writer.verdict]

/-! ## From the registrar call on -/

section

variable {σ : Type} (env : Env) (h : Handler Request Request.Reply σ) (view : σ → Cluster)
  (k : ObjKey) {α β : Type}

/-- If nobody else writes the resource, the program ends with the phase `o`, or the
one that is stored if there is none; it makes no further registrar call. -/
structure Concludes (o : Option NodePhase) (p : Req α) (s : σ) : Prop where
  uses : Prog.Uses (fun r => registrarOn k r = false) p
  ends : Prog.Ends h (SameStored view k) p
    (fun _ s' => phaseAt k (view s') = o.or (phaseAt k (view s))) s

/-- The program is at its registrar call, and in states where `Pre` holds concludes
with what the writer computes from the reply. -/
def Asks (w : Writer) (Pre : σ → Prop) (p : Req α) : Prop :=
  ∃ c rest, p = .call (.port c) rest ∧ registrarOn k (.port c) = true ∧
    ∀ reply s, Pre s → Concludes h view k (w.verdict reply) (rest reply) s

/-- The program has nothing more to do with the virtual node. -/
def Off (p : Req α) : Prop := Prog.Issues h (fun r => ¬ Touches k r) p

variable {env h view k}

theorem ends_of_not_touches (hserved : StoreServed env h view) {p : Req α}
    (hp : Prog.Uses (fun r => ¬ Touches k r) p) (s : σ) :
    Prog.Ends h (SameStored view k) p
      (fun _ s' => phaseAt k (view s') = phaseAt k (view s)) s := by
  induction p generalizing s with
  | ret a => rfl
  | call r rest ih =>
      intro s' hsame
      apply (ih _ (hp.2 _) _).mono
      intro a s'' hphase
      have hstep : SameStored view k s (h r s').2 :=
        hsame.trans (sameStored_of_not_touches hserved hp.1 s')
      rw [hphase, phaseAt, phaseAt, hstep]

theorem Concludes.bind (hserved : StoreServed env h view) {o : Option NodePhase} {p : Req α}
    {s : σ} {f : α → Req β} (hp : Concludes h view k o p s)
    (hf : ∀ a, Prog.Uses (fun r => ¬ Touches k r) (f a)) :
    Concludes h view k o (p >>= f) s := by
  constructor
  · apply hp.uses.bind
    intro a
    exact (hf a).mono fun r hr => registrarOn_of_not_touches hr
  · apply hp.ends.bind
    intro a s' hphase
    apply (ends_of_not_touches hserved (hf a) s').mono
    intro b s'' hsame
    rw [hsame, hphase]

theorem Asks.bind (hserved : StoreServed env h view) {w : Writer} {Pre : σ → Prop} {p : Req α}
    {f : α → Req β} (hp : Asks h view k w Pre p)
    (hf : ∀ a, Prog.Uses (fun r => ¬ Touches k r) (f a)) : Asks h view k w Pre (p >>= f) := by
  obtain ⟨c, rest, rfl, hc, hrest⟩ := hp
  exact ⟨c, fun reply => rest reply >>= f, rfl, hc,
    fun reply s hs => (hrest reply s hs).bind hserved hf⟩

theorem uses_grain_save (node : VNode) :
    Prog.Uses (fun r => registrarOn k r = false) (grain env (.save node)) :=
  uses_apiRequests (NodeRepository.uses_save rfl rfl (fun _ => rfl) (fun _ => rfl))

theorem concludes_save (hserved : StoreServed env h view) (node : VNode)
    (hkey : NodeRepository.keyOf node = k) (s : σ) {f : Except Err Unit → Req α}
    (hf : ∀ r, ∃ a, f r = .ret a) :
    Concludes h view k (some node.phase) (grain env (.save node) >>= f) s := by
  constructor
  · apply (uses_grain_save node).bind
    intro r
    obtain ⟨a, ha⟩ := hf r
    rw [ha]
    trivial
  · apply Prog.Ends.bind (ends_save hserved hkey s)
    rintro r s' ⟨_, hphase⟩
    obtain ⟨a, ha⟩ := hf r
    rw [ha]
    exact hphase

theorem off_save (hserved : StoreServed env h view) (node : VNode)
    (hne : NodeRepository.keyOf node ≠ k) {f : Except Err Unit → Req α}
    (hf : ∀ r, ∃ a, f r = .ret a) : Off h k (grain env (.save node) >>= f) := by
  apply (issues_save hserved hne).bind
  intro r
  obtain ⟨a, ha⟩ := hf r
  rw [ha]
  trivial

theorem concludes_ret {a : α} {o : Option NodePhase} {s : σ}
    (ho : ∀ phase, o = some phase → phaseAt k (view s) = some phase) :
    Concludes h view k o (.ret a) s := by
  refine ⟨trivial, ?_⟩
  change phaseAt k (view s) = o.or (phaseAt k (view s))
  cases o with
  | none => rfl
  | some phase => exact ho phase rfl

section

variable {node : VNode} (hserved : StoreServed env h view)
  (hkey : NodeRepository.keyOf node = k)

include hserved hkey

theorem concludes_saveReady (s : σ) :
    Concludes h view k (some .ready) ((saveReady node).expand (grain env)) s := by
  refine concludes_save hserved (asReady node) hkey s ?_
  intro r
  cases r <;> exact ⟨_, rfl⟩

theorem asks_retryRegistration :
    Asks h view k .reconcile (fun s => phaseAt k (view s) = some node.phase)
      ((retryRegistration node).expand (grain env)) := by
  refine ⟨.register node node.tenantRef, _, rfl, by simp [registrarOn, hkey], ?_⟩
  intro reply s hphase
  cases reply with
  | ok u => exact concludes_saveReady hserved hkey s
  | error err =>
      change Concludes h view k (if isIgnorableStatusError err = true then none else some .notReady)
        (Prog.expand (grain env) (if isIgnorableStatusError err = true then _ else _)) s
      split
      · exact concludes_ret nofun
      · change Concludes h view k (some .notReady) (Prog.expand (grain env)
          (if node.phase ≠ .notReady ∨ (!hasRegisteredCondition node) = true then _ else _)) s
        split
        · refine concludes_save hserved
            (asNotReady node (registrationFailedConditions err)) hkey s ?_
          intro r
          cases r <;> exact ⟨_, rfl⟩
        · next hskip =>
            have hnotReady : node.phase = .notReady := by
              by_contra hne
              exact hskip (Or.inl hne)
            refine concludes_ret ?_
            rintro phase ⟨⟩
            rw [hphase, hnotReady]

theorem asks_syncNodeStatus :
    Asks h view k .reconcile (fun s => phaseAt k (view s) = some node.phase)
      ((syncNodeStatus node).expand (grain env)) := by
  refine ⟨.updateNodeStatus node node.tenantRef, _, rfl, by simp [registrarOn, hkey], ?_⟩
  intro reply s hphase
  cases reply with
  | ok u =>
      change Concludes h view k (some .ready) (Prog.expand (grain env)
        (if node.phase = .ready ∧ node.isReady = true then _ else _)) s
      split
      · next hready =>
          refine concludes_ret ?_
          rintro phase ⟨⟩
          rw [hphase, hready.1]
      · exact concludes_saveReady hserved hkey s
  | error err =>
      change Concludes h view k (if isIgnorableStatusError err = true then none else some .notReady)
        (Prog.expand (grain env) (if isIgnorableStatusError err = true then _ else _)) s
      split
      · exact concludes_ret nofun
      · refine concludes_save hserved (asNotReady node
          [ ⟨.ready, false, "StatusSyncFailed", err.msg⟩,
            ⟨.degraded, true, "StatusSyncFailed", err.msg⟩ ]) hkey s ?_
        intro r
        cases r <;> exact ⟨_, rfl⟩

theorem asks_updateStatus (hwritten : ¬ (node.phase = .unset ∧ node.conditions.length = 0)) :
    Asks h view k .reconcile (fun s => phaseAt k (view s) = some node.phase)
      ((updateStatus node).expand (grain env)) := by
  unfold updateStatus
  rw [if_neg hwritten]
  split
  · exact asks_retryRegistration hserved hkey
  · exact asks_syncNodeStatus hserved hkey

end

/-! ## Where the writers start -/

theorem uses_expand_now {p : Svc α} (hp : Prog.Uses (fun c => c = .now) p) :
    Prog.Uses (fun r => ¬ Touches k r) (p.expand (grain env)) := by
  apply hp.expand
  rintro c rfl
  exact Prog.Uses.perform fun htouches => htouches rfl

/-- What a reconcile does with a resource it has read: nothing, if its status was
never written, or a registrar call. -/
theorem reconcileCR_cases (hserved : StoreServed env h view) {cr : VNodeCR} (hkey : cr.key = k) :
    Off h k (Prog.expand (grain env) (do let _ ← VNode.reconcileCR cr; return ())) ∨
      Asks h view k .reconcile (fun s => phaseAt k (view s) = some cr.phase)
        (Prog.expand (grain env) (do let _ ← VNode.reconcileCR cr; return ())) := by
  obtain ⟨tail, htail, huses⟩ : ∃ tail : Except Err Unit → Svc Unit,
      (do let _ ← VNode.reconcileCR cr; return ()) = updateStatus (VNode.nodeOf cr) >>= tail ∧
        ∀ u, Prog.Uses (fun c => c = .now) (tail u) := by
    refine ⟨_, Prog.bind_assoc _ _ _, ?_⟩
    intro updated
    refine Prog.Uses.bind ?_ (fun _ => trivial)
    cases updated with
    | error err =>
        dsimp only
        split <;> trivial
    | ok u =>
        dsimp only
        split
        · refine ⟨rfl, ?_⟩
          intro time
          cases time <;> trivial
        · trivial
  have hnode : NodeRepository.keyOf (VNode.nodeOf cr) = k := hkey
  rw [htail, Prog.expand_bind]
  by_cases hwritten : (VNode.nodeOf cr).phase = .unset ∧ (VNode.nodeOf cr).conditions.length = 0
  · refine Or.inl ?_
    unfold updateStatus
    rw [if_pos hwritten]
    exact Prog.Issues.of_uses (uses_expand_now (huses (.ok ())))
  · exact Or.inr ((asks_updateStatus hserved hnode hwritten).bind hserved
      (fun u => uses_expand_now (huses u)))

/-- A reconcile starts by reading the resource. -/
theorem reconcile_expand (hserved : StoreServed env h view) :
    ∃ rest : Except Err VNodeCR → Req Unit,
      Prog.expand (grain env) (Writer.program k .reconcile) = .call (.api (.getVNode k)) rest ∧
      (∀ err, rest (.error err) = .ret ()) ∧
      ∀ cr, cr.key = k → Off h k (rest (.ok cr)) ∨
        Asks h view k .reconcile (fun s => phaseAt k (view s) = some cr.phase) (rest (.ok cr)) :=
  ⟨_, rfl, fun _ => rfl, fun _ hkey => reconcileCR_cases hserved hkey⟩

variable (h view k) in
def Announced (w : Writer) (p : Req Unit) : Prop :=
  (∃ pool, w = .provision pool) ∧ Asks h view k w (fun _ => True) p

theorem provisionNode_expand (hserved : StoreServed env h view) (pool : VNodePool)
    (node : VNode) :
    ∃ announce : Except Err Unit → Req Unit,
      Prog.expand (grain env) (do let _ ← provisionNode pool.tenantRef node; return ()) =
        grain env (.save node) >>= announce ∧
      (∀ err, announce (.error err) = .ret ()) ∧
      (NodeRepository.keyOf node = k → Announced h view k (.provision pool) (announce (.ok ()))) ∧
      (NodeRepository.keyOf node ≠ k → Off h k (announce (.ok ()))) := by
  refine ⟨_, rfl, fun _ => rfl, ?_, ?_⟩
  · intro hkey
    refine ⟨⟨pool, rfl⟩, .register node pool.tenantRef, _, rfl, by simp [registrarOn, hkey], ?_⟩
    intro reply s _
    cases reply with
    | error err =>
        exact concludes_save hserved (asNotReady node (registrationFailedConditions err)) hkey s
          (fun _ => ⟨(), rfl⟩)
    | ok u =>
        refine concludes_save hserved (asReady node) hkey s ?_
        intro r
        cases r <;> exact ⟨(), rfl⟩
  · intro hne
    refine ⟨hne, ?_⟩
    intro s
    cases (h (.port (.register node pool.tenantRef)) s).1 with
    | error err =>
        exact off_save hserved (asNotReady node (registrationFailedConditions err)) hne
          (fun _ => ⟨(), rfl⟩)
    | ok u =>
        refine off_save hserved (asReady node) hne ?_
        intro r
        cases r <;> exact ⟨(), rfl⟩

variable (h view k) in
/-- Where a thread is that has not made its registrar call yet, or will make none. -/
def Approaching (w : Writer) : Req Unit → Prop :=
  Until (fun p => Announced h view k w p ∨ Off h k p) (Announced h view k w)

theorem Off.approaching {w : Writer} {p : Req Unit} (hp : Off h k p) :
    Approaching h view k w p := by
  cases p with
  | ret a => trivial
  | call r rest => exact Or.inl (Or.inr hp)

theorem approaching_provisionNode (hserved : StoreServed env h view) (pool : VNodePool)
    (node : VNode) :
    Approaching h view k (.provision pool)
      (Prog.expand (grain env) (do let _ ← provisionNode pool.tenantRef node; return ())) := by
  obtain ⟨announce, heq, herror, hsame, hother⟩ :=
    provisionNode_expand (k := k) hserved pool node
  rw [heq]
  by_cases hkey : NodeRepository.keyOf node = k
  · refine (until_save node).bind ?_ ?_
    · intro r
      cases r with
      | error err =>
          rw [herror]
          trivial
      | ok u =>
          obtain ⟨_, c, rest, hprog, _⟩ := hsame hkey
          have hannounced := hsame hkey
          rw [hprog] at hannounced ⊢
          exact Or.inl (Or.inl hannounced)
    · rintro q rfl
      exact hsame hkey
  · apply Off.approaching
    apply (issues_save hserved hkey).bind
    intro r
    cases r with
    | error err =>
        rw [herror]
        trivial
    | ok u => exact hother hkey

theorem approaching_provision (hserved : StoreServed env h view) (pool : VNodePool) :
    Approaching h view k (.provision pool)
      (Prog.expand (grain env) (Writer.program k (.provision pool))) := by
  refine Or.inr ⟨?_, trivial⟩
  intro listed
  cases listed with
  | error err => trivial
  | ok crs => exact approaching_provisionNode hserved pool _

end

end VNodeOperator.Nodes
