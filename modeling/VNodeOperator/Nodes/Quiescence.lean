import VNodeOperator.Reconciler.VNode

/-!
# Reconciles do not feed themselves

Every `Save` of a virtual node wakes its controller again.  While the registrar
keeps giving the same kind of answer, the status goes through at most two writes:
a failed heartbeat is recorded first without and then with a `Registered`
condition, and after that, or once the node is ready, nothing is left to write.
-/

namespace VNodeOperator.Nodes

open Model Kube Adapter Ports ProofSupport Service NodeService Reconciler

/-! ## A registrar that does not change its mind -/

/-- The answers of a registrar that works, and of one that fails for another
reason than a shutdown. -/
def Answers : Bool → Except Err Unit → Prop
  | true, r => r = .ok ()
  | false, r => ∃ err, r = .error err ∧ isIgnorableStatusError err = false

/-- The clusters are served as usual, except that the registrar always works, or
always fails. -/
structure SteadyRegistrar {σ : Type} (env : Env) (h : Handler Call Call.Reply σ)
    (view : σ → Cluster) (works : Bool) : Prop where
  served : ∀ c s, c.isRegistrar = false →
    (h c s).1 = (handle env c (view s)).1 ∧ view (h c s).2 = (handle env c (view s)).2
  vnodes : ∀ c s, c.isRegistrar = true → (view (h c s).2).vnodes = (view s).vnodes
  register : ∀ node tenant s, Answers works (h (.register node tenant) s).1
  updateNodeStatus : ∀ node tenant s, Answers works (h (.updateNodeStatus node tenant) s).1

def isSave : Call → Bool
  | .save _ => true
  | _ => false

/-! ## How many saves are left -/

/-- The writes a node still goes through. -/
def savesLeft (works : Bool) (node : VNode) : Nat :=
  if node.phase = .unset ∧ node.conditions.length = 0 then 0
  else if works then
    if node.phase = .ready then 0 else 1
  else if shouldRetryRegistration node then
    if node.phase ≠ .notReady ∨ !hasRegisteredCondition node then 1 else 0
  else 2

theorem savesLeft_le (works : Bool) (node : VNode) : savesLeft works node ≤ 2 := by
  unfold savesLeft
  split_ifs <;> omega

theorem conditionFromCR_conditionToCR (c : NodeCondition) :
    NodeRepository.conditionFromCR (NodeRepository.conditionToCR c) = c := by
  obtain ⟨type, status, reason, message⟩ := c
  cases status <;> rfl

/-- A reconcile reads back what was saved. -/
theorem nodeOf_savedOver (cr : VNodeCR) (node : VNode) :
    (VNode.nodeOf (NodeRepository.savedOver cr node)).phase = node.phase ∧
      (VNode.nodeOf (NodeRepository.savedOver cr node)).conditions = node.conditions := by
  refine ⟨rfl, ?_⟩
  change (node.conditions.map NodeRepository.conditionToCR).map NodeRepository.conditionFromCR =
    node.conditions
  rw [List.map_map]
  exact List.map_id'' conditionFromCR_conditionToCR node.conditions

theorem savesLeft_congr {works : Bool} {node node' : VNode} (hphase : node.phase = node'.phase)
    (hconditions : node.conditions = node'.conditions) :
    savesLeft works node = savesLeft works node' := by
  unfold savesLeft shouldRetryRegistration hasRegisteredCondition
  rw [hphase, hconditions]

theorem savesLeft_savedOver (works : Bool) (cr : VNodeCR) (node : VNode) :
    savesLeft works (VNode.nodeOf (NodeRepository.savedOver cr node)) = savesLeft works node :=
  savesLeft_congr (nodeOf_savedOver cr node).1 (nodeOf_savedOver cr node).2

theorem savesLeft_asReady (node : VNode) : savesLeft true (asReady node) = 0 := by
  simp [savesLeft, asReady]

theorem savesLeft_registrationFailed (node : VNode) (err : Err) :
    savesLeft false (asNotReady node (registrationFailedConditions err)) = 0 := by
  simp [savesLeft, asNotReady, registrationFailedConditions, shouldRetryRegistration,
    hasRegisteredCondition]

theorem savesLeft_statusSyncFailed (node : VNode) (msg : String) :
    savesLeft false (asNotReady node [ ⟨.ready, false, "StatusSyncFailed", msg⟩,
      ⟨.degraded, true, "StatusSyncFailed", msg⟩ ]) = 1 := by
  simp [savesLeft, asNotReady, shouldRetryRegistration, hasRegisteredCondition]

/-- Only nodes that wait for their registration go through it again. -/
theorem phase_of_shouldRetry {node : VNode} (h : shouldRetryRegistration node = true) :
    node.phase = .pending ∨ node.phase = .notReady := by
  unfold shouldRetryRegistration at h
  split at h
  · cases h
  · next hphase => tauto

/-! ## What a program writes -/

section

variable {σ α β : Type} {env : Env} {h : Handler Call Call.Reply σ} {view : σ → Cluster}
  {works : Bool} {k : ObjKey} {s : σ}

/-- The program saves what `o` says, and nothing else under `k` changes. -/
structure Writes (h : Handler Call Call.Reply σ) (view : σ → Cluster) (k : ObjKey)
    (o : Option VNode) (p : Svc α) (s : σ) : Prop where
  saves : (p.calls h s).countP isSave = o.toList.length
  stored : (view (p.run h s).2).vnodes.get k =
    o.elim ((view s).vnodes.get k)
      (fun node => ((view s).vnodes.get k).map (NodeRepository.savedOver · node))

theorem Writes.pure (a : α) : Writes h view k none (Pure.pure a) s := ⟨rfl, rfl⟩

theorem Writes.bind {o : Option VNode} {p : Svc α} {f : α → Svc β} (hp : Writes h view k none p s)
    (hf : Writes h view k o (f (p.run h s).1) (p.run h s).2) : Writes h view k o (p >>= f) s := by
  constructor
  · rw [Prog.calls_bind, List.countP_append, hp.saves, hf.saves]
    exact Nat.zero_add _
  · rw [Prog.run_bind, hf.stored, hp.stored]
    rfl

theorem Writes.bind_quiet {o : Option VNode} {p : Svc α} {f : α → Svc β}
    (hp : Writes h view k o p s) (hf : ∀ a s, Writes h view k none (f a) s) :
    Writes h view k o (p >>= f) s := by
  constructor
  · rw [Prog.calls_bind, List.countP_append, hp.saves, (hf _ _).saves]
    rfl
  · rw [Prog.run_bind, (hf _ _).stored]
    exact hp.stored

section

variable (hsteady : SteadyRegistrar env h view works)

include hsteady

theorem writes_read {c : Call} (hread : c.isRead = true) : Writes h view k none (ask c) s := by
  have hnot : c.isRegistrar = false := by cases c <;> first | rfl | cases hread
  have hsave : isSave c = false := by cases c <;> first | rfl | cases hread
  constructor
  · simp [ask, hsave]
  · have hview := (hsteady.served c s hnot).2
    rw [handle_read env (view s) hread] at hview
    change (view (h c s).2).vnodes.get k = (view s).vnodes.get k
    rw [hview]

theorem writes_registrar {c : Call} (hc : c.isRegistrar = true) :
    Writes h view k none (ask c) s := by
  have hsave : isSave c = false := by cases c <;> first | rfl | cases hc
  constructor
  · simp [ask, hsave]
  · change (view (h c s).2).vnodes.get k = (view s).vnodes.get k
    rw [hsteady.vnodes c s hc]

theorem writes_now : Writes h view k none now s := by
  apply Writes.bind_quiet (writes_read hsteady rfl)
  intro time s'
  cases time <;> exact Writes.pure _

theorem writes_save (node : VNode) (hkey : NodeRepository.keyOf node = k) {cr : VNodeCR}
    (hcr : (view s).vnodes.get k = some cr) :
    Writes h view k (some node) (ask (.save node)) s ∧ (h (.save node) s).1 = .ok () := by
  obtain ⟨hreply, hview⟩ := hsteady.served (.save node) s rfl
  rw [handle_save] at hreply hview
  have hsaved : NodeRepository.saved (view s) node = NodeRepository.savedOver cr node := by
    unfold NodeRepository.saved
    rw [hkey, hcr]
  refine ⟨⟨rfl, ?_⟩, hreply⟩
  change (view (h (.save node) s).2).vnodes.get k = _
  rw [hview, hcr, hsaved]
  have hput := Store.get_put_self (view s).vnodes (NodeRepository.savedOver cr node)
  have hold : cr.key = k := Store.key_of_get hcr
  have hsame : (NodeRepository.savedOver cr node).key = k := hold
  rw [hsame] at hput
  exact hput

/-! ## One status update -/

/-- What is saved brings the node closer to its last write; if nothing is, there is
nothing left to write. -/
def Lowers (works : Bool) (node : VNode) : Option VNode → Prop
  | none => savesLeft works node = 0
  | some saved => savesLeft works saved < savesLeft works node

variable (node : VNode) (hkey : NodeRepository.keyOf node = k) {cr : VNodeCR}
  (hcr : (view s).vnodes.get k = some cr)

include hkey hcr

theorem writes_saveReady :
    Writes h view k (some (asReady node)) (saveReady node) s := by
  have hsave := (writes_save hsteady (asReady node) hkey hcr).1
  apply hsave.bind_quiet
  intro saved s'
  cases saved <;> exact Writes.pure _

theorem writes_failure {conditions : List NodeCondition}
    {f : Except Err Unit → Svc (Except Err Unit)} (hf : ∀ r, ∃ a, f r = Pure.pure a) :
    Writes h view k (some (asNotReady node conditions))
      (ask (.save (asNotReady node conditions)) >>= f) s := by
  have hsave := (writes_save hsteady (asNotReady node conditions) hkey hcr).1
  apply hsave.bind_quiet
  intro saved s'
  obtain ⟨a, ha⟩ := hf saved
  rw [ha]
  exact Writes.pure _

theorem writes_retryRegistration (hretry : shouldRetryRegistration node = true) :
    ∃ o, Writes h view k o (retryRegistration node) s ∧
      Lowers works node o := by
  have hwritten : ¬ (node.phase = .unset ∧ node.conditions.length = 0) := by
    rintro ⟨hphase, _⟩
    rcases phase_of_shouldRetry hretry with hp | hp <;> rw [hp] at hphase <;> cases hphase
  have hcr' : (view (Prog.run h (ask (.register node node.tenantRef)) s).2).vnodes.get k =
      some cr := by
    rw [ask, Prog.run_perform, hsteady.vnodes _ _ rfl]
    exact hcr
  have hanswer : Answers works (Prog.run h (ask (.register node node.tenantRef)) s).1 :=
    hsteady.register node node.tenantRef s
  have hcall : Writes h view k none (ask (.register node node.tenantRef)) s :=
    writes_registrar hsteady rfl
  cases works with
  | true =>
      have hleft : savesLeft true node = 1 := by
        have hphase : node.phase ≠ .ready := by
          rcases phase_of_shouldRetry hretry with hp | hp <;> rw [hp] <;> decide
        simp only [savesLeft, if_neg hwritten, if_true, if_neg hphase]
      refine ⟨some (asReady node), hcall.bind ?_, ?_⟩
      · rw [hanswer]
        exact writes_saveReady hsteady node hkey hcr'
      · rw [Lowers, savesLeft_asReady, hleft]
        exact Nat.one_pos
  | false =>
      obtain ⟨err, hreply, hreal⟩ := hanswer
      by_cases hsave : node.phase ≠ .notReady ∨ !hasRegisteredCondition node
      · refine ⟨some (asNotReady node (registrationFailedConditions err)), hcall.bind ?_, ?_⟩
        · rw [hreply]
          dsimp only
          rw [hreal, if_neg Bool.false_ne_true, if_pos hsave]
          apply writes_failure hsteady node hkey hcr'
          intro r
          cases r <;> exact ⟨_, rfl⟩
        · have hleft : savesLeft false node = 1 := by
            simp only [savesLeft, if_neg hwritten, Bool.false_eq_true, if_false, if_pos hretry,
              if_pos hsave]
          rw [Lowers, savesLeft_registrationFailed, hleft]
          exact Nat.one_pos
      · refine ⟨none, hcall.bind ?_, ?_⟩
        · rw [hreply]
          dsimp only
          rw [hreal, if_neg Bool.false_ne_true, if_neg hsave]
          exact Writes.pure _
        · simp only [Lowers, savesLeft, if_neg hwritten, Bool.false_eq_true, if_false,
            if_pos hretry, if_neg hsave]

theorem writes_syncNodeStatus (hretry : shouldRetryRegistration node = false)
    (hwritten : ¬ (node.phase = .unset ∧ node.conditions.length = 0)) :
    ∃ o, Writes h view k o (syncNodeStatus node) s ∧
      Lowers works node o := by
  have hcr' : (view (Prog.run h (ask (.updateNodeStatus node node.tenantRef)) s).2).vnodes.get k =
      some cr := by
    rw [ask, Prog.run_perform, hsteady.vnodes _ _ rfl]
    exact hcr
  have hanswer : Answers works (Prog.run h (ask (.updateNodeStatus node node.tenantRef)) s).1 :=
    hsteady.updateNodeStatus node node.tenantRef s
  have hcall : Writes h view k none (ask (.updateNodeStatus node node.tenantRef)) s :=
    writes_registrar hsteady rfl
  cases works with
  | true =>
      by_cases hready : node.phase = .ready
      · refine ⟨none, hcall.bind ?_, ?_⟩
        · have hisReady : node.isReady = true := by simp only [VNode.isReady, if_pos hready]
          rw [hanswer]
          dsimp only
          rw [if_pos ⟨hready, hisReady⟩]
          exact Writes.pure _
        · simp only [Lowers, savesLeft, if_neg hwritten, if_true, if_pos hready]
      · refine ⟨some (asReady node), hcall.bind ?_, ?_⟩
        · rw [hanswer]
          dsimp only
          rw [if_neg (fun h => hready h.1)]
          exact writes_saveReady hsteady node hkey hcr'
        · have hleft : savesLeft true node = 1 := by
            simp only [savesLeft, if_neg hwritten, if_true, if_neg hready]
          rw [Lowers, savesLeft_asReady, hleft]
          exact Nat.one_pos
  | false =>
      obtain ⟨err, hreply, hreal⟩ := hanswer
      refine ⟨some (asNotReady node [ ⟨.ready, false, "StatusSyncFailed", err.msg⟩,
        ⟨.degraded, true, "StatusSyncFailed", err.msg⟩ ]), hcall.bind ?_, ?_⟩
      · rw [hreply]
        dsimp only
        rw [hreal, if_neg Bool.false_ne_true]
        apply writes_failure hsteady node hkey hcr'
        intro r
        cases r <;> exact ⟨_, rfl⟩
      · have hleft : savesLeft false node = 2 := by
          simp only [savesLeft, if_neg hwritten, Bool.false_eq_true, if_false, hretry]
        rw [Lowers, savesLeft_statusSyncFailed, hleft]
        exact Nat.one_lt_two

theorem writes_updateStatus :
    ∃ o, Writes h view k o (updateStatus node) s ∧
      Lowers works node o := by
  unfold updateStatus
  split
  · next hunwritten =>
      refine ⟨none, Writes.pure _, ?_⟩
      simp only [Lowers, savesLeft, if_pos hunwritten]
  · next hwritten =>
      split
      · next hretry => exact writes_retryRegistration hsteady node hkey hcr hretry
      · next hretry =>
          exact writes_syncNodeStatus hsteady node hkey hcr (by simpa using hretry) hwritten

omit hkey in
theorem writes_reconcile :
    ∃ o, Writes h view k o (VNode.reconcile k) s ∧ Lowers works (VNode.nodeOf cr) o := by
  have hget : (Prog.run h (ask (.getVNode k)) s).1 = .ok cr := by
    have hreply := (hsteady.served (.getVNode k) s rfl).1
    rw [ask, Prog.run_perform, hreply]
    simp only [handle, find_some _ _ hcr]
  have hread : Writes h view k none (ask (.getVNode k)) s := writes_read hsteady rfl
  have hcr' : (view (Prog.run h (ask (.getVNode k)) s).2).vnodes.get k = some cr :=
    hread.stored.trans hcr
  have hkey : cr.key = k := Store.key_of_get hcr
  obtain ⟨o, hupdate, hlowers⟩ := writes_updateStatus hsteady (VNode.nodeOf cr) hkey hcr'
  refine ⟨o, hread.bind ?_, hlowers⟩
  rw [hget]
  apply hupdate.bind_quiet
  intro updated s'
  cases updated with
  | error err =>
      dsimp only
      split <;> exact Writes.pure _
  | ok u =>
      dsimp only
      split
      · exact (writes_now hsteady).bind_quiet fun _ _ => Writes.pure _
      · exact Writes.pure _

end

/-! ## Reconciles in a row -/

def storedLeft (works : Bool) (view : σ → Cluster) (k : ObjKey) (s : σ) : Nat :=
  (((view s).vnodes.get k).map fun cr => savesLeft works (VNode.nodeOf cr)).getD 0

def saves (h : Handler Call Call.Reply σ) (k : ObjKey) (s : σ) : Nat :=
  ((VNode.reconcile k).calls h s).countP isSave

def afterRounds (h : Handler Call Call.Reply σ) (k : ObjKey) : Nat → σ → σ
  | 0, s => s
  | n + 1, s => afterRounds h k n ((VNode.reconcile k).run h s).2

def savesOfRounds (h : Handler Call Call.Reply σ) (k : ObjKey) : Nat → σ → Nat
  | 0, _ => 0
  | n + 1, s => saves h k s + savesOfRounds h k n ((VNode.reconcile k).run h s).2

theorem storedLeft_le (works : Bool) (view : σ → Cluster) (k : ObjKey) (s : σ) :
    storedLeft works view k s ≤ 2 := by
  unfold storedLeft
  cases (view s).vnodes.get k with
  | none => exact Nat.zero_le 2
  | some cr => exact savesLeft_le works (VNode.nodeOf cr)

section

variable (hsteady : SteadyRegistrar env h view works)

include hsteady

theorem writes_reconcile_missing (hnone : (view s).vnodes.get k = none) :
    Writes h view k none (VNode.reconcile k) s := by
  apply (writes_read hsteady rfl).bind
  have hreply := (hsteady.served (.getVNode k) s rfl).1
  rw [ask, Prog.run_perform, hreply]
  simp only [handle, find_none _ _ hnone]
  exact Writes.pure _

/-- A reconcile saves if and only if there is something left to write, and then
less is left. -/
theorem saves_round :
    saves h k s = min 1 (storedLeft works view k s) ∧
      storedLeft works view k ((VNode.reconcile k).run h s).2 ≤ storedLeft works view k s - 1 := by
  cases hstored : (view s).vnodes.get k with
  | none =>
      have hwrites := writes_reconcile_missing hsteady hstored
      have hleft : storedLeft works view k s = 0 := by simp only [storedLeft, hstored]; rfl
      have hafter : storedLeft works view k ((VNode.reconcile k).run h s).2 = 0 := by
        simp only [storedLeft, hwrites.stored, Option.elim_none, hstored]
        rfl
      rw [hleft, hafter]
      exact ⟨hwrites.saves, Nat.le_refl 0⟩
  | some cr =>
      obtain ⟨o, hwrites, hlowers⟩ := writes_reconcile hsteady hstored
      have hleft : storedLeft works view k s = savesLeft works (VNode.nodeOf cr) := by
        simp only [storedLeft, hstored, Option.map_some, Option.getD_some]
      cases o with
      | none =>
          have hzero : savesLeft works (VNode.nodeOf cr) = 0 := hlowers
          have hafter : storedLeft works view k ((VNode.reconcile k).run h s).2 = 0 := by
            simp only [storedLeft, hwrites.stored, Option.elim_none, hstored, Option.map_some,
              Option.getD_some, hzero]
          rw [hleft, hafter, hzero]
          exact ⟨hwrites.saves, Nat.le_refl 0⟩
      | some node =>
          have hlower : savesLeft works node < savesLeft works (VNode.nodeOf cr) := hlowers
          have hsaves : saves h k s = 1 := hwrites.saves
          have hafter : storedLeft works view k ((VNode.reconcile k).run h s).2 =
              savesLeft works node := by
            simp only [storedLeft, hwrites.stored, Option.elim_some, hstored, Option.map_some,
              Option.getD_some, savesLeft_savedOver]
          rw [hleft, hafter, hsaves]
          omega

theorem savesOfRounds_le (n : Nat) : savesOfRounds h k n s ≤ storedLeft works view k s := by
  induction n generalizing s with
  | zero => exact Nat.zero_le _
  | succ n ih =>
      obtain ⟨hsaves, hless⟩ := saves_round hsteady (k := k) (s := s)
      have hrest := ih (s := ((VNode.reconcile k).run h s).2)
      rw [savesOfRounds, hsaves]
      omega

theorem storedLeft_afterRounds (n : Nat) :
    storedLeft works view k (afterRounds h k n s) ≤ storedLeft works view k s - n := by
  induction n generalizing s with
  | zero => exact Nat.le_refl _
  | succ n ih =>
      obtain ⟨_, hless⟩ := saves_round hsteady (k := k) (s := s)
      have hrest := ih (s := ((VNode.reconcile k).run h s).2)
      rw [afterRounds]
      omega

end

end

/-- Whatever status a node is stored with, reconciles in a row save it at most
twice while the registrar keeps working or keeps failing, and from the third one
on not at all. -/
theorem reconciles_settle {σ : Type} (env : Env) (h : Handler Call Call.Reply σ)
    (view : σ → Cluster) (works : Bool) (hsteady : SteadyRegistrar env h view works) (k : ObjKey)
    (s : σ) :
    (∀ n, savesOfRounds h k n s ≤ 2) ∧ ∀ n, 2 ≤ n → saves h k (afterRounds h k n s) = 0 := by
  have hbound := storedLeft_le works view k s
  constructor
  · intro n
    exact Nat.le_trans (savesOfRounds_le hsteady n) hbound
  · intro n hn
    have hleft := storedLeft_afterRounds hsteady (k := k) (s := s) n
    have hzero : storedLeft works view k (afterRounds h k n s) = 0 := by omega
    rw [(saves_round hsteady).1, hzero]
    rfl

def oneAnswer (env : Env) (answer : Except Err Unit) : Handler Call Call.Reply Cluster
  | .register _ _, w => (answer, w)
  | .updateNodeStatus _ _, w => (answer, w)
  | c, w => handle env c w

theorem steadyRegistrar_oneAnswer (env : Env) {answer : Except Err Unit} {works : Bool}
    (h : Answers works answer) : SteadyRegistrar env (oneAnswer env answer) id works where
  served := by
    intro c s hc
    cases c <;> first | exact ⟨rfl, rfl⟩ | cases hc
  vnodes := by
    intro c s hc
    cases c with
    | register _ _ => rfl
    | updateNodeStatus _ _ => rfl
    | deregister node tenant =>
        have hframe := handle_registrar env s (c := .deregister node tenant) rfl
        change (handle env (.deregister node tenant) s).2.vnodes = s.vnodes
        rw [hframe]
    | _ => cases hc
  register := fun _ _ _ => h
  updateNodeStatus := fun _ _ _ => h

theorem unreachableTenant_settles :
    savesOfRounds (oneAnswer Env.plain (.error ⟨.other, "connection refused"⟩))
        ⟨"host", "vnode-web-1"⟩ 2 (acmeCluster {}) = 2 ∧
      ∀ n, 2 ≤ n → saves (oneAnswer Env.plain (.error ⟨.other, "connection refused"⟩))
        ⟨"host", "vnode-web-1"⟩
        (afterRounds (oneAnswer Env.plain (.error ⟨.other, "connection refused"⟩))
          ⟨"host", "vnode-web-1"⟩ n (acmeCluster {})) = 0 :=
  ⟨by decide +kernel, (reconciles_settle Env.plain _ id false
    (steadyRegistrar_oneAnswer Env.plain ⟨_, rfl, rfl⟩) ⟨"host", "vnode-web-1"⟩
    (acmeCluster {})).2⟩

end VNodeOperator.Nodes
