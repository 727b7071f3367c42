import VNodeOperator.Pass.Completion

/-!
# The counters of a pass

A pass counts the `CreatePod` and `DeletePod` calls that return no error, on
every way it can end (`counted_reconcilePool`).
-/

namespace VNodeOperator.Pass

open Model Kube Ports ProofSupport Service PodExecution

variable {σ : Type} {h : Handler Call Call.Reply σ}

/-! ## What is counted -/

def createsPod : Call → Bool
  | .createPod _ => true
  | _ => false

def deletesPod : Call → Bool
  | .deletePod _ => true
  | _ => false

section

variable (h : Handler Call Call.Reply σ)

def created (e : Event Call σ) : Bool := createsPod e.call && (e.reply h).isOk

def deleted (e : Event Call σ) : Bool := deletesPod e.call && (e.reply h).isOk

/-- The counters have grown by the successful calls among the events. -/
structure Counts (es : List (Event Call σ)) (r r' : PodExecutionResult) : Prop where
  created : r'.createdHostPods = r.createdHostPods + es.countP (Pass.created h)
  deleted : r'.deletedHostPods = r.deletedHostPods + es.countP (Pass.deleted h)

end

variable {es es' : List (Event Call σ)} {r r' r'' : PodExecutionResult} {s : σ} {c : Call}

theorem Counts.append (hes : Counts h es r r') (hes' : Counts h es' r' r'') :
    Counts h (es ++ es') r r'' where
  created := by rw [List.countP_append, hes'.created, hes.created, Nat.add_assoc]
  deleted := by rw [List.countP_append, hes'.deleted, hes.deleted, Nat.add_assoc]

def Uncounted (c : Call) : Prop := createsPod c = false ∧ deletesPod c = false

theorem counts_uncounted (hes : ∀ e ∈ es, Uncounted e.call) : Counts h es r r where
  created := by
    rw [List.countP_eq_zero.mpr, Nat.add_zero]
    intro e he
    rw [Pass.created, (hes e he).1]
    exact Bool.false_ne_true
  deleted := by
    rw [List.countP_eq_zero.mpr, Nat.add_zero]
    intro e he
    rw [Pass.deleted, (hes e he).2]
    exact Bool.false_ne_true

theorem traced_uncounted {α : Type} {p : Svc α} (hp : Prog.Uses Uncounted p) (s : σ) :
    Prog.Traced h p (fun es _ _ => ∀ r, Counts h es r r) s :=
  fun _ => counts_uncounted (hp.event_calls s)

theorem counts_error {err : Err} (herr : (h c s).1 = .error err) : Counts h [⟨c, s⟩] r r := by
  have hreply : (Event.reply h ⟨c, s⟩).isOk = false := by
    rw [Event.reply, herr]
    rfl
  constructor <;>
    simp [Pass.created, Pass.deleted, hreply]

theorem counts_call (hc : Uncounted c) : Counts h [⟨c, s⟩] r r :=
  counts_uncounted fun _ he => (List.mem_singleton.mp he) ▸ hc

theorem counts_deletePod {k : ObjKey} {u : Unit} (hok : (h (.deletePod k) s).1 = .ok u)
    (hcreated : r'.createdHostPods = r.createdHostPods)
    (hdeleted : r'.deletedHostPods = r.deletedHostPods + 1) :
    Counts h [⟨.deletePod k, s⟩] r r' := by
  have hreply : (Event.reply h ⟨.deletePod k, s⟩).isOk = true := by
    rw [Event.reply, hok]
    rfl
  constructor
  · rw [hcreated]
    rfl
  · rw [hdeleted, List.countP_singleton, Pass.deleted, hreply]
    rfl

theorem counts_createPod {pod : PodSpec} {u : Unit} (hok : (h (.createPod pod) s).1 = .ok u)
    (hcreated : r'.createdHostPods = r.createdHostPods + 1)
    (hdeleted : r'.deletedHostPods = r.deletedHostPods) :
    Counts h [⟨.createPod pod, s⟩] r r' := by
  have hreply : (Event.reply h ⟨.createPod pod, s⟩).isOk = true := by
    rw [Event.reply, hok]
    rfl
  constructor
  · rw [hcreated, List.countP_singleton, Pass.created, hreply]
    rfl
  · rw [hdeleted]
    rfl

/-! ## The walk through a pass -/

variable {translator : PodService} {cs : Clientset} {pool : VNodePool}

theorem stop_result (result : PodExecutionResult) (err reported : Err) :
    (stop result err reported).1 = result := by
  unfold stop
  split <;> rfl

def Tallied (h : Handler Call Call.Reply σ) (r : PodExecutionResult) (es : List (Event Call σ)) :
    Prog.Flow Progress Outcome → Prop :=
  Prog.Flow.elim (fun acc => Counts h es r acc.result) fun outcome => Counts h es r outcome.1

theorem Tallied.after {flow : Prog.Flow Progress Outcome} (hflow : Tallied h r' es' flow)
    (hes : Counts h es r r') : Tallied h r (es ++ es') flow := by
  cases flow with
  | next acc => exact hes.append hflow
  | exit outcome => exact hes.append hflow

theorem tallied_stop {err reported : Err} (hes : Counts h es r r') :
    Tallied h r es (.exit (stop r' err reported)) := by
  change Counts h es r (stop r' err reported).1
  rw [stop_result]
  exact hes

theorem uncounted_of_leavesPods (c : Call) (hc : leavesPods c) : Uncounted c := by
  cases c <;> first | exact ⟨rfl, rfl⟩ | cases hc

theorem counted_mirrorStatus (p : CorePod) (target : ObjKey) (acc : Progress) (s : σ) :
    Prog.Traced h (mirrorStatus translator cs p target acc)
      (fun es flow _ => Tallied h acc.result es flow) s := by
  have hread : ∀ s r, Counts h [⟨.getPodStatus target, s⟩] r r := fun _ _ => counts_call ⟨rfl, rfl⟩
  apply traced_ask
  · intro status _
    apply Prog.Traced.bind
    have hupdate : Prog.Uses Uncounted (updateTenantPodStatus cs p.key status) :=
      uses_updateTenantPodStatus uncounted_of_leavesPods p.key status
    apply Prog.Traced.mono (traced_uncounted hupdate _)
    intro es r s' hes
    have hboth := (hread s acc.result).append (hes acc.result)
    cases r with
    | ok u =>
        apply Prog.Traced.pure
        rw [List.append_nil]
        exact ⟨hboth.created, hboth.deleted⟩
    | error err =>
        apply Prog.Traced.pure
        rw [List.append_nil]
        exact tallied_stop hboth
  · intro err _
    dsimp only
    split
    · exact hread s acc.result
    · exact tallied_stop (hread s acc.result)

theorem counted_deleteFinished (p : CorePod) (target : ObjKey) (acc : Progress) (s : σ) :
    Prog.Traced h (deleteFinished p target acc)
      (fun es flow _ => Tallied h acc.result es flow) s := by
  unfold deleteFinished
  split
  · apply traced_ask
    · intro u hu
      exact counts_deletePod hu rfl rfl
    · intro err herr
      exact tallied_stop (counts_error herr)
  · exact counts_uncounted fun _ he => (List.not_mem_nil he).elim

theorem counted_reportPod (p : CorePod) (target : ObjKey) (acc : Progress) (s : σ) :
    Prog.Traced h (reportPod translator cs p target acc)
      (fun es flow _ => Tallied h acc.result es flow) s := by
  apply Prog.Traced.bind
  apply Prog.Traced.mono (counted_mirrorStatus p target acc s)
  intro es flow s' hflow
  cases flow with
  | exit outcome =>
      apply Prog.Traced.pure
      rw [List.append_nil]
      exact hflow
  | next acc₁ =>
      apply Prog.Traced.mono (counted_deleteFinished p target acc₁ s')
      intro es' flow' _ hflow'
      exact hflow'.after hflow

/-- The flags of `ensureHostPod` say what was counted, unless a creation failed. -/
theorem counted_ensureHostPod (pod : PodSpec) (s : σ) :
    Prog.Traced h (ensureHostPod pod) (fun es r _ => ∀ acc : Progress,
      (r.2.2 = none → Counts h es acc.result (countPods acc r.1 r.2.1).result) ∧
      ∀ err, r.2.2 = some err →
        Counts h es acc.result (countPods acc false r.2.1).result ∧
          (err.kind ≠ .podTerminating → Counts h es acc.result acc.result)) s := by
  have hread : ∀ s r, Counts h [⟨.getPod ⟨pod.ns, pod.name⟩, s⟩] r r :=
    fun _ _ => counts_call ⟨rfl, rfl⟩
  apply traced_ask
  · intro current _
    dsimp only
    split
    · intro acc
      refine ⟨by rintro ⟨⟩, ?_⟩
      rintro err ⟨⟩
      exact ⟨hread s _, fun _ => hread s _⟩
    · split
      · intro acc
        exact ⟨fun _ => hread s _, by rintro err ⟨⟩⟩
      · apply traced_ask
        · intro u hu acc
          refine ⟨by rintro ⟨⟩, ?_⟩
          rintro err ⟨⟩
          refine ⟨?_, fun hkind => absurd rfl hkind⟩
          exact (hread s acc.result).append (counts_deletePod hu rfl rfl)
        · intro err herr acc
          refine ⟨by rintro ⟨⟩, ?_⟩
          rintro err ⟨⟩
          have hnone := (hread s acc.result).append (counts_error (r := acc.result) herr)
          exact ⟨hnone, fun _ => hnone⟩
  · intro err _
    dsimp only
    split
    · apply traced_ask
      · intro u hu acc
        refine ⟨fun _ => ?_, by rintro err ⟨⟩⟩
        exact (hread s acc.result).append (counts_createPod hu rfl rfl)
      · intro err herr acc
        refine ⟨by rintro ⟨⟩, ?_⟩
        rintro err ⟨⟩
        have hnone := (hread s acc.result).append (counts_error (r := acc.result) herr)
        exact ⟨hnone, fun _ => hnone⟩
    · intro acc
      refine ⟨by rintro ⟨⟩, ?_⟩
      rintro err ⟨⟩
      exact ⟨hread s _, fun _ => hread s _⟩

theorem counted_afterEnsure {p : CorePod} {target : ObjKey} {acc : Progress}
    {r : Bool × Bool × Option Err}
    (hnone : r.2.2 = none → Counts h es acc.result (countPods acc r.1 r.2.1).result)
    (hsome : ∀ err, r.2.2 = some err →
      Counts h es acc.result (countPods acc false r.2.1).result ∧
        (err.kind ≠ .podTerminating → Counts h es acc.result acc.result)) (s : σ) :
    Prog.Traced h (afterEnsure translator cs p target acc r)
      (fun es' flow _ => Tallied h acc.result (es ++ es') flow) s := by
  obtain ⟨created, deleted, err⟩ := r
  cases err with
  | none =>
      apply Prog.Traced.mono (counted_reportPod p target (countPods acc created deleted) s)
      intro es' flow _ hflow
      exact hflow.after (hnone rfl)
  | some err =>
      obtain ⟨hskipped, hstopped⟩ := hsome err rfl
      rw [afterEnsure]
      split
      · apply Prog.Traced.pure
        rw [List.append_nil]
        exact hskipped
      · next hkind =>
          apply Prog.Traced.pure
          rw [List.append_nil]
          exact tallied_stop (hstopped hkind)

theorem counted_reconcilePod (p : CorePod) (acc : Progress) (s : σ) :
    Prog.Traced h (reconcilePod translator cs pool p acc)
      (fun es flow _ => Tallied h acc.result es flow) s := by
  unfold reconcilePod
  rw [translate_eq]
  dsimp only
  apply Prog.Traced.bind
  apply Prog.Traced.mono (traced_uncounted (uses_syncPodResources uncounted_of_leavesPods _) s)
  intro es r s' hes
  cases r with
  | error err =>
      apply Prog.Traced.pure
      rw [List.append_nil]
      exact tallied_stop (hes acc.result)
  | ok u =>
      dsimp only
      split
      · apply Prog.Traced.mono (counted_reportPod p _ _ s')
        intro es' flow _ hflow
        exact hflow.after (hes acc.result)
      · apply Prog.Traced.bind
        apply Prog.Traced.mono (counted_ensureHostPod _ s')
        intro es' r s'' hensured
        apply Prog.Traced.mono (counted_afterEnsure (hensured _).1 (hensured _).2 s'')
        intro es'' flow _ hflow
        exact hflow.after (hes acc.result)

theorem counted_deleteOrphan (desired : List String) (q : PodSpec) (result : PodExecutionResult)
    (s : σ) : Prog.Traced h (deleteOrphan desired q result)
      (fun es flow _ => flow.elim (Counts h es result) fun outcome => Counts h es result outcome.1)
      s := by
  unfold deleteOrphan
  split
  · exact counts_uncounted fun _ he => (List.not_mem_nil he).elim
  · apply traced_ask
    · intro u hu
      exact counts_deletePod hu rfl rfl
    · intro err herr
      exact tallied_stop (counts_error herr)

theorem counted_cleanupOrphans (acc : Progress) (s : σ) :
    Prog.Traced h (cleanupOrphans pool acc)
      (fun es outcome _ => Counts h es acc.result outcome.1) s := by
  have hread : ∀ s r, Counts h [⟨.listPodsByLabels pool.ns (ownerLabels pool.name), s⟩] r r :=
    fun _ _ => counts_call ⟨rfl, rfl⟩
  apply traced_ask
  · intro hostPods _
    apply Prog.Traced.bind
    apply Prog.Traced.mono (Prog.Traced.loop (fun _ es result => Counts h es acc.result result)
      (fun es outcome => Counts h es acc.result outcome.1) ?_ hostPods [] [] acc.result _
      (counts_uncounted fun _ he => (List.not_mem_nil he).elim))
    · intro es flow s' hflow
      cases flow with
      | next result =>
          apply Prog.Traced.pure
          rw [List.append_nil]
          exact (hread s acc.result).append hflow
      | exit outcome =>
          apply Prog.Traced.pure
          rw [List.append_nil]
          exact (hread s acc.result).append hflow
    · intro q _ es result s hes
      apply Prog.Traced.mono (counted_deleteOrphan acc.desired q result s)
      intro es' flow _ hflow
      cases flow with
      | next result' => exact hes.append hflow
      | exit outcome => exact hes.append hflow
  · intro err herr
    change Counts h _ acc.result (stop acc.result err _).1
    rw [stop_result]
    exact hread s acc.result

theorem counted_reconcilePods (sources : List CorePod) (s : σ) :
    Prog.Traced h (reconcilePods translator cs pool sources)
      (fun es outcome _ => Counts h es {} outcome.1) s := by
  apply Prog.Traced.bind
  apply Prog.Traced.mono (Prog.Traced.loop (fun _ es acc => Counts h es {} acc.result)
    (fun es outcome => Counts h es {} outcome.1) ?_ sources [] [] _ s ⟨rfl, rfl⟩)
  · intro es flow s' hflow
    cases flow with
    | next acc =>
        apply Prog.Traced.mono (counted_cleanupOrphans acc s')
        intro es' outcome _ hout
        exact Counts.append hflow hout
    | exit outcome =>
        apply Prog.Traced.pure
        rw [List.append_nil]
        exact hflow
  · intro p _ es acc s hes
    apply Prog.Traced.mono (counted_reconcilePod p acc s)
    intro es' flow _ hflow
    exact hflow.after hes

/-- A pass returns the numbers of its successful creations and deletions. -/
theorem counted_reconcilePool (s : σ) :
    Prog.Traced h (reconcilePool translator pool)
      (fun es outcome _ => Counts h es {} outcome.1) s := by
  have hstop : ∀ {es : List (Event Call σ)} {err reported : Err}, Counts h es {} {} →
      Counts h es {} (stop {} err reported).1 := by
    intro es err reported hes
    rw [stop_result]
    exact hes
  have hclient : ∀ s, Counts h [⟨.tenantClient pool.tenantRef, s⟩] {} {} :=
    fun _ => counts_call ⟨rfl, rfl⟩
  have hnodes : ∀ s, Counts h [⟨.listByPool pool.ns pool.name, s⟩] {} {} :=
    fun _ => counts_call ⟨rfl, rfl⟩
  apply traced_ask
  · intro cs _
    apply traced_ask
    · intro nodes _
      have hread := (hclient s).append (hnodes (h (.tenantClient pool.tenantRef) s).2)
      have hlist : Prog.Uses Uncounted (listTenantPodsForNodes cs (readyNames nodes)) := by
        unfold listTenantPodsForNodes
        split
        · exact Prog.Uses.pure _
        · apply Prog.Uses.bind (Prog.Uses.perform ⟨rfl, rfl⟩)
          intro r
          cases r <;> exact Prog.Uses.pure _
      apply Prog.Traced.bind
      apply Prog.Traced.mono (traced_uncounted hlist _)
      intro es r s' hes
      cases r with
      | error err =>
          apply Prog.Traced.pure
          rw [List.append_nil]
          exact hstop (hread.append (hes {}))
      | ok sources =>
          apply Prog.Traced.mono (counted_reconcilePods sources s')
          intro es' outcome _ hout
          exact hread.append ((hes {}).append hout)
    · intro err _
      exact hstop ((hclient s).append (hnodes _))
  · intro err _
    exact hstop (hclient s)

end VNodeOperator.Pass
