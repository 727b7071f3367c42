import VNodeOperator.Pass.Target
import VNodeOperator.ProofSupport.Events

/-!
# Complete passes

`Completed` says from the calls of a pass and their replies that it went all the
way.  A pass that returns no error has done so, unless a cancellation or an
expired deadline was the last it saw (`traced_reconcilePool`).
-/

namespace VNodeOperator.Pass

open Model Kube Ports ProofSupport Service PodExecution

variable {σ : Type} {h : Handler Call Call.Reply σ}

/-! ## What the calls of a pass say -/

def shutDownReply {α : Type} : Except Err α → Bool
  | .error err => isIgnorableShutdownError err
  | .ok _ => false

section

variable (h : Handler Call Call.Reply σ)

def Succeeded (e : Event Call σ) (c : Call) (v : c.Value) : Prop :=
  e.call = c ∧ (h c e.before).1 = .ok v

def ShutDown (e : Event Call σ) : Prop := shutDownReply (e.reply h) = true

instance (e : Event Call σ) : Decidable (ShutDown h e) := inferInstanceAs (Decidable (_ = true))

inductive Listed (pool : VNodePool) : List (Event Call σ) → List CorePod → Prop
  -- Without a ready node there is nothing to ask for.
  | idle {e₁ e₂ : Event Call σ} {cs : Clientset} {nodes : List VNode}
      (hclient : Succeeded h e₁ (.tenantClient pool.tenantRef) cs)
      (hnodes : Succeeded h e₂ (.listByPool pool.ns pool.name) nodes)
      (hready : readyNames nodes = []) : Listed pool [e₁, e₂] []
  | asked {e₁ e₂ e₃ : Event Call σ} {cs : Clientset} {nodes : List VNode} {pods : List CorePod}
      (hclient : Succeeded h e₁ (.tenantClient pool.tenantRef) cs)
      (hnodes : Succeeded h e₂ (.listByPool pool.ns pool.name) nodes)
      (hpods : Succeeded h e₃ (.listTenantPods cs) pods) :
      Listed pool [e₁, e₂, e₃] (pods.filter (isSourcePod (readyNames nodes)))

/-- The host pod is there as it should be, or was created. -/
def InPlace (pod : PodSpec) (es : List (Event Call σ)) : Prop :=
  (∃ e ∈ es, Succeeded h e (.createPod pod) ()) ∨
    ∃ e ∈ es, ∃ current, Succeeded h e (.getPod ⟨pod.ns, pod.name⟩) current ∧
      current.deleting = false ∧ podSpecsEqual current pod = true

/-- The host pod is on its way out, or was sent there because it had drifted. -/
def Terminating (pod : PodSpec) (es : List (Event Call σ)) : Prop :=
  (∃ e ∈ es, ∃ current, Succeeded h e (.getPod ⟨pod.ns, pod.name⟩) current ∧
      current.deleting = true) ∨
    ∃ e ∈ es, Succeeded h e (.deletePod ⟨pod.ns, pod.name⟩) ()

/-- The source pod was ensured, skipped as terminating, or cleaned up as terminal. -/
def Handled (translator : PodService) (pool : VNodePool) (p : CorePod)
    (es : List (Event Call σ)) : Prop :=
  if isTerminalPod p then ∃ e ∈ es, Succeeded h e (.deletePod (targetKey pool p)) ()
  else InPlace h (targetPod translator pool p) es ∨ Terminating h (targetPod translator pool p) es

def OrphansDeleted (pool : VNodePool) (sources : List CorePod) (hostPods : List PodSpec)
    (es : List (Event Call σ)) : Prop :=
  List.Forall₂ (fun q e => Succeeded h e (.deletePod ⟨q.ns, q.name⟩) ())
    (hostPods.filter fun q => ∀ p ∈ sources, keyForPod (targetKey pool p).ns
      (targetKey pool p).name ≠ keyForPod q.ns q.name) es

def OrphansGone (pool : VNodePool) (sources : List CorePod) (es : List (Event Call σ)) : Prop :=
  ∃ e hostPods deletions, es = e :: deletions ∧
    Succeeded h e (.listPodsByLabels pool.ns (ownerLabels pool.name)) hostPods ∧
    OrphansDeleted h pool sources hostPods deletions

def Completed (translator : PodService) (pool : VNodePool) (es : List (Event Call σ)) : Prop :=
  ∃ listing sources handling cleanup, es = listing ++ List.flatten handling ++ cleanup ∧
    Listed h pool listing sources ∧
    List.Forall₂ (Handled h translator pool) sources handling ∧
    OrphansGone h pool sources cleanup

end

/-! ## A pass goes on, or a shutdown is the last it sees -/

section

variable (h : Handler Call Call.Reply σ)

def Undisturbed (es : List (Event Call σ)) : Prop := ∀ e ∈ es, ¬ ShutDown h e

def EndsInShutdown (es : List (Event Call σ)) : Prop :=
  ∃ before e, es = before ++ [e] ∧ ShutDown h e

end

variable {es es' : List (Event Call σ)} {e : Event Call σ} {s : σ} {c : Call}

theorem Undisturbed.nil : Undisturbed h [] := fun _ he => (List.not_mem_nil he).elim

theorem Undisturbed.append (hes : Undisturbed h es) (hes' : Undisturbed h es') :
    Undisturbed h (es ++ es') := by
  intro e he
  rcases List.mem_append.mp he with he | he
  · exact hes e he
  · exact hes' e he

theorem EndsInShutdown.append (hes : EndsInShutdown h es) (before : List (Event Call σ)) :
    EndsInShutdown h (before ++ es) := by
  obtain ⟨before', e, rfl, he⟩ := hes
  exact ⟨before ++ before', e, (List.append_assoc _ _ _).symm, he⟩

theorem undisturbed_ok {v : c.Value} (hv : (h c s).1 = .ok v) : Undisturbed h [⟨c, s⟩] := by
  intro e he hshut
  rw [List.mem_singleton.mp he, ShutDown, Event.reply, hv] at hshut
  cases hshut

theorem undisturbed_error {err : Err} (herr : (h c s).1 = .error err)
    (hkind : isIgnorableShutdownError err = false) : Undisturbed h [⟨c, s⟩] := by
  intro e he hshut
  rw [List.mem_singleton.mp he, ShutDown, Event.reply, herr, shutDownReply, hkind] at hshut
  cases hshut

theorem endsInShutdown_error {err : Err} (herr : (h c s).1 = .error err)
    (hkind : isIgnorableShutdownError err = true) : EndsInShutdown h [⟨c, s⟩] := by
  refine ⟨[], ⟨c, s⟩, rfl, ?_⟩
  rw [ShutDown, Event.reply, herr]
  exact hkind

theorem notFound_not_shutdown {err : Err} (herr : err.isNotFound = true) :
    isIgnorableShutdownError err = false := by
  have hkind : err.kind = .notFound := of_decide_eq_true herr
  rw [isIgnorableShutdownError, hkind]
  rfl

theorem stop_eq_none {result : PodExecutionResult} {err reported : Err}
    (hnone : (stop result err reported).2 = none) : isIgnorableShutdownError err = true := by
  unfold stop at hnone
  split at hnone
  · assumption
  · cases hnone

theorem traced_ask {β : Type} {f : c.Reply → Svc β} {Q : List (Event Call σ) → β → σ → Prop}
    (hok : ∀ v, (h c s).1 = .ok v →
      Prog.Traced h (f (.ok v)) (fun es b s' => Q (⟨c, s⟩ :: es) b s') (h c s).2)
    (herror : ∀ err, (h c s).1 = .error err →
      Prog.Traced h (f (.error err)) (fun es b s' => Q (⟨c, s⟩ :: es) b s') (h c s).2) :
    Prog.Traced h (ask c >>= f) Q s := by
  apply Prog.Traced.perform_bind
  cases hr : (h c s).1 with
  | ok v => exact hok v hr
  | error err => exact herror err hr

/-- How a part of the loop body ends.  It goes on undisturbed and establishes `N`; or it exits,
and unless it reports an error a shutdown was the last it saw. -/
def Continues (h : Handler Call Call.Reply σ) {β : Type} (N : List (Event Call σ) → β → Prop)
    (es : List (Event Call σ)) : Prog.Flow β Outcome → Prop :=
  Prog.Flow.elim (fun b => Undisturbed h es ∧ N es b)
    fun outcome => outcome.2 = none → EndsInShutdown h es

theorem Continues.after {β : Type} {N N' : List (Event Call σ) → β → Prop}
    {r : Prog.Flow β Outcome} (hr : Continues h N es' r) (hes : Undisturbed h es)
    (hN : ∀ b, N es' b → N' (es ++ es') b) : Continues h N' (es ++ es') r := by
  cases r with
  | next b => exact ⟨hes.append hr.1, hN b hr.2⟩
  | exit outcome => exact fun hnone => (hr hnone).append es

theorem endsInShutdown_stop {err reported : Err} {result : PodExecutionResult}
    (herr : (h c s).1 = .error err) (hnone : (stop result err reported).2 = none) :
    EndsInShutdown h [⟨c, s⟩] :=
  endsInShutdown_error herr (stop_eq_none hnone)

variable {translator : PodService} {cs : Clientset} {pool : VNodePool}

theorem traced_syncResource (ref : VolumeResourceRef) (s : σ) :
    Prog.Traced h (syncResource cs pool ref ()) (fun es r _ => r.elim (fun _ => Undisturbed h es)
      fun err => isIgnorableShutdownError err = true → EndsInShutdown h es) s := by
  unfold syncResource
  split
  · apply traced_ask
    · intro cm hcm
      apply traced_ask
      · intro u hu
        exact (undisturbed_ok hcm).append (undisturbed_ok hu)
      · intro err herr hkind
        exact (endsInShutdown_error herr hkind).append [_]
    · intro err herr
      dsimp only
      split
      · next hfound => exact undisturbed_error herr (notFound_not_shutdown hfound)
      · exact fun hkind => endsInShutdown_error herr hkind
  · apply traced_ask
    · intro secret hsecret
      apply traced_ask
      · intro u hu
        exact (undisturbed_ok hsecret).append (undisturbed_ok hu)
      · intro err herr hkind
        exact (endsInShutdown_error herr hkind).append [_]
    · intro err herr
      dsimp only
      split
      · next hfound => exact undisturbed_error herr (notFound_not_shutdown hfound)
      · exact fun hkind => endsInShutdown_error herr hkind
  · exact Undisturbed.nil

theorem traced_syncPodResources (translation : PodTranslation) (s : σ) :
    Prog.Traced h (syncPodResources cs translation pool) (fun es r _ =>
      (r = .ok () → Undisturbed h es) ∧
        ∀ err, r = .error err → isIgnorableShutdownError err = true → EndsInShutdown h es) s := by
  apply Prog.Traced.bind
  apply Prog.Traced.mono (Prog.Traced.loop (fun _ es _ => Undisturbed h es)
    (fun es err => isIgnorableShutdownError err = true → EndsInShutdown h es) ?_ _ [] [] () s
    Undisturbed.nil)
  · intro es r s' hr
    cases r with
    | next u =>
        apply Prog.Traced.pure
        rw [List.append_nil]
        exact ⟨fun _ => hr, by rintro err ⟨⟩⟩
    | exit err =>
        apply Prog.Traced.pure
        rw [List.append_nil]
        refine ⟨by rintro ⟨⟩, ?_⟩
        rintro err ⟨⟩ hkind
        exact hr hkind
  · intro ref done es u s hes
    apply Prog.Traced.mono (traced_syncResource ref s)
    intro es' r _ hr
    cases r with
    | next u => exact hes.append hr
    | exit err => exact fun hkind => (hr hkind).append es

def ensureCall : Call → Bool
  | .getPod _ | .createPod _ | .deletePod _ => true
  | _ => false

/-- Their errors are the API's, and not the service's own `errPodTerminating`. -/
def HostErrors (h : Handler Call Call.Reply σ) : Prop :=
  ∀ c s err, ensureCall c = true → (h c s).1 = .error err → err.kind ≠ .podTerminating

theorem traced_ensureHostPod (hhost : HostErrors h) (pod : PodSpec) (s : σ) :
    Prog.Traced h (ensureHostPod pod) (fun es r _ =>
      (r.2.2 = none → Undisturbed h es ∧ InPlace h pod es) ∧
        ∀ err, r.2.2 = some err →
          (err.kind = .podTerminating → Undisturbed h es ∧ Terminating h pod es) ∧
            (isIgnorableShutdownError err = true → EndsInShutdown h es)) s := by
  apply traced_ask
  · intro current hcurrent
    have hread := undisturbed_ok hcurrent
    dsimp only
    split
    · next hdeleting =>
        refine ⟨by rintro ⟨⟩, ?_⟩
        rintro err ⟨⟩
        refine ⟨fun _ => ⟨hread, Or.inl ?_⟩, by rintro ⟨⟩⟩
        exact ⟨_, List.mem_singleton_self _, current, ⟨rfl, hcurrent⟩, hdeleting⟩
    · next hdeleting =>
        rw [Bool.not_eq_true] at hdeleting
        split
        · next hequal =>
            refine ⟨fun _ => ⟨hread, Or.inr ?_⟩, by rintro err ⟨⟩⟩
            exact ⟨_, List.mem_singleton_self _, current, ⟨rfl, hcurrent⟩, hdeleting, hequal⟩
        · apply traced_ask
          · intro u hu
            refine ⟨by rintro ⟨⟩, ?_⟩
            rintro err ⟨⟩
            refine ⟨fun _ => ⟨hread.append (undisturbed_ok hu), Or.inr ?_⟩, by rintro ⟨⟩⟩
            exact ⟨_, List.mem_cons_of_mem _ (List.mem_singleton_self _), rfl, hu⟩
          · intro err herr
            refine ⟨by rintro ⟨⟩, ?_⟩
            rintro err ⟨⟩
            refine ⟨fun hkind => ?_, fun hkind => (endsInShutdown_error herr hkind).append [_]⟩
            exact absurd hkind (hhost _ _ _ rfl herr)
  · intro err herr
    dsimp only
    split
    · next hfound =>
        have hread := undisturbed_error herr (notFound_not_shutdown hfound)
        apply traced_ask
        · intro u hu
          refine ⟨fun _ => ⟨hread.append (undisturbed_ok hu), Or.inl ?_⟩, by rintro err ⟨⟩⟩
          exact ⟨_, List.mem_cons_of_mem _ (List.mem_singleton_self _), rfl, hu⟩
        · intro err' herr'
          refine ⟨by rintro ⟨⟩, ?_⟩
          rintro err ⟨⟩
          refine ⟨fun hkind => ?_, fun hkind => (endsInShutdown_error herr' hkind).append [_]⟩
          exact absurd hkind (hhost _ _ _ rfl herr')
    · refine ⟨by rintro ⟨⟩, ?_⟩
      rintro err ⟨⟩
      refine ⟨fun hkind => ?_, fun hkind => endsInShutdown_error herr hkind⟩
      exact absurd hkind (hhost _ _ _ rfl herr)

/-! ### One source pod -/

theorem traced_updateTenantPodStatus (k : ObjKey) (status : PodStatus) (s : σ) :
    Prog.Traced h (updateTenantPodStatus cs k status) (fun es r _ =>
      (r = .ok () → Undisturbed h es) ∧
        ∀ err, r = .error err → isIgnorableShutdownError err = true → EndsInShutdown h es) s := by
  apply traced_ask
  · intro current hcurrent
    change Prog.Traced h (ask _ >>= pure) _ _
    apply traced_ask
    · intro u hu
      exact ⟨fun _ => (undisturbed_ok hcurrent).append (undisturbed_ok hu), by rintro err ⟨⟩⟩
    · intro err herr
      refine ⟨by rintro ⟨⟩, ?_⟩
      rintro err ⟨⟩ hkind
      exact (endsInShutdown_error herr hkind).append [_]
  · intro err herr
    refine ⟨by rintro ⟨⟩, ?_⟩
    rintro err ⟨⟩ hkind
    exact endsInShutdown_error herr hkind

section

variable (p : CorePod) (target : ObjKey) (acc : Progress)

theorem traced_mirrorStatus (s : σ) :
    Prog.Traced h (mirrorStatus translator cs p target acc)
      (fun es r _ => Continues h (fun _ acc' => acc'.desired = acc.desired) es r) s := by
  apply traced_ask
  · intro status hstatus
    apply Prog.Traced.bind
    apply Prog.Traced.mono (traced_updateTenantPodStatus p.key status _)
    rintro es r s' ⟨hok, herror⟩
    cases r with
    | ok u =>
        apply Prog.Traced.pure
        rw [List.append_nil]
        exact ⟨(undisturbed_ok hstatus).append (hok rfl), rfl⟩
    | error err =>
        apply Prog.Traced.pure
        rw [List.append_nil]
        exact fun hnone => (herror err rfl (stop_eq_none hnone)).append [_]
  · intro err herr
    dsimp only
    split
    · next hfound => exact ⟨undisturbed_error herr (notFound_not_shutdown hfound), rfl⟩
    · exact fun hnone => endsInShutdown_stop herr hnone

def CleanedUp (es : List (Event Call σ)) (acc' : Progress) : Prop :=
  (isTerminalPod p = true → ∃ e ∈ es, Succeeded h e (.deletePod target) ()) ∧
    acc'.desired = acc.desired

theorem traced_deleteFinished (s : σ) :
    Prog.Traced h (deleteFinished p target acc)
      (fun es r _ => Continues h (CleanedUp (h := h) p target acc) es r) s := by
  unfold deleteFinished
  split
  · apply traced_ask
    · intro u hu
      refine ⟨undisturbed_ok hu, fun _ => ?_, rfl⟩
      exact ⟨_, List.mem_singleton_self _, rfl, hu⟩
    · intro err herr
      exact fun hnone => endsInShutdown_stop herr hnone
  · next hterminal => exact ⟨Undisturbed.nil, fun h => absurd h hterminal, rfl⟩

theorem traced_reportPod (s : σ) :
    Prog.Traced h (reportPod translator cs p target acc)
      (fun es r _ => Continues h (CleanedUp (h := h) p target acc) es r) s := by
  apply Prog.Traced.bind
  apply Prog.Traced.mono (traced_mirrorStatus p target acc s)
  intro es r s' hr
  cases r with
  | exit outcome =>
      apply Prog.Traced.pure
      rw [List.append_nil]
      exact hr
  | next acc₁ =>
      obtain ⟨hquiet, hdesired⟩ := hr
      apply Prog.Traced.mono (traced_deleteFinished p target acc₁ s')
      intro es' r' _ hr'
      apply hr'.after hquiet
      rintro acc₂ ⟨hgone, hdesired'⟩
      refine ⟨?_, hdesired'.trans hdesired⟩
      intro hterminal
      obtain ⟨e, he, hdeleted⟩ := hgone hterminal
      exact ⟨e, List.mem_append_right _ he, hdeleted⟩

end

theorem InPlace.mono {pod : PodSpec} (hes : InPlace h pod es) (hsub : es ⊆ es') :
    InPlace h pod es' :=
  hes.imp (Exists.imp fun _ he => ⟨hsub he.1, he.2⟩) (Exists.imp fun _ he => ⟨hsub he.1, he.2⟩)

theorem Terminating.mono {pod : PodSpec} (hes : Terminating h pod es) (hsub : es ⊆ es') :
    Terminating h pod es' :=
  hes.imp (Exists.imp fun _ he => ⟨hsub he.1, he.2⟩) (Exists.imp fun _ he => ⟨hsub he.1, he.2⟩)

theorem Handled.mono {p : CorePod} (hes : Handled h translator pool p es) (hsub : es ⊆ es') :
    Handled h translator pool p es' := by
  unfold Handled at hes ⊢
  split
  · next hterminal =>
      rw [if_pos hterminal] at hes
      exact hes.imp fun _ he => ⟨hsub he.1, he.2⟩
  · next hterminal =>
      rw [if_neg hterminal] at hes
      exact hes.imp (fun hes => hes.mono hsub) (fun hes => hes.mono hsub)

def Done (h : Handler Call Call.Reply σ) (translator : PodService) (pool : VNodePool)
    (p : CorePod) (acc : Progress) (es : List (Event Call σ)) (acc' : Progress) : Prop :=
  Handled h translator pool p es ∧
    acc'.desired = keyForPod (targetKey pool p).ns (targetKey pool p).name :: acc.desired

theorem traced_afterEnsure {p : CorePod} (hterminal : isTerminalPod p = false)
    {acc acc₁ : Progress} (hdesired : acc₁.desired =
      keyForPod (targetKey pool p).ns (targetKey pool p).name :: acc.desired)
    {r : Bool × Bool × Option Err}
    (hnone : r.2.2 = none → Undisturbed h es ∧ InPlace h (targetPod translator pool p) es)
    (hsome : ∀ err, r.2.2 = some err →
      (err.kind = .podTerminating → Undisturbed h es ∧
        Terminating h (targetPod translator pool p) es) ∧
      (isIgnorableShutdownError err = true → EndsInShutdown h es)) (s : σ) :
    Prog.Traced h (afterEnsure translator cs p (targetKey pool p) acc₁ r)
      (fun es' r _ => Continues h (Done h translator pool p acc) (es ++ es') r) s := by
  have hnot : ¬ isTerminalPod p = true := by rw [hterminal]; exact Bool.false_ne_true
  obtain ⟨created, deleted, err⟩ := r
  cases err with
  | some err =>
      obtain ⟨hskipped, hstopped⟩ := hsome err rfl
      rw [afterEnsure]
      split
      · next hkind =>
          obtain ⟨hquiet, hterminating⟩ := hskipped hkind
          apply Prog.Traced.pure
          rw [List.append_nil]
          refine ⟨hquiet, ?_, hdesired⟩
          rw [Handled, if_neg hnot]
          exact Or.inr hterminating
      · apply Prog.Traced.pure
        rw [List.append_nil]
        exact fun hnone => hstopped (stop_eq_none hnone)
  | none =>
      obtain ⟨hquiet, hplace⟩ := hnone rfl
      apply Prog.Traced.mono (traced_reportPod p (targetKey pool p)
        (countPods acc₁ created deleted) s)
      intro es' r _ hr
      apply hr.after hquiet
      rintro acc₂ ⟨_, hdesired'⟩
      refine ⟨?_, hdesired'.trans hdesired⟩
      rw [Handled, if_neg hnot]
      exact Or.inl (hplace.mono (List.subset_append_left _ _))

/-- An iteration that goes on has handled its pod. -/
theorem traced_reconcilePod (hhost : HostErrors h) (p : CorePod) (acc : Progress) (s : σ) :
    Prog.Traced h (reconcilePod translator cs pool p acc)
      (fun es r _ => Continues h (Done h translator pool p acc) es r) s := by
  unfold reconcilePod
  rw [translate_eq]
  dsimp only
  apply Prog.Traced.bind
  apply Prog.Traced.mono (traced_syncPodResources (translation translator pool p) s)
  rintro es r s' ⟨hok, herror⟩
  cases r with
  | error err =>
      apply Prog.Traced.pure
      rw [List.append_nil]
      exact fun hnone => herror err rfl (stop_eq_none hnone)
  | ok u =>
      have hquiet : Undisturbed h es := hok rfl
      dsimp only
      split
      · next hterminal =>
          apply Prog.Traced.mono (traced_reportPod p (targetKey pool p) _ s')
          intro es' r _ hr
          apply hr.after hquiet
          rintro acc' ⟨hgone, hdesired⟩
          refine ⟨?_, hdesired⟩
          obtain ⟨e, he, hdeleted⟩ := hgone hterminal
          rw [Handled, if_pos hterminal]
          exact ⟨e, List.mem_append_right _ he, hdeleted⟩
      · next hterminal =>
          rw [Bool.not_eq_true] at hterminal
          apply Prog.Traced.bind
          apply Prog.Traced.mono (traced_ensureHostPod hhost (targetPod translator pool p) s')
          rintro es' r s'' ⟨hnone, hsome⟩
          apply Prog.Traced.mono (traced_afterEnsure hterminal rfl hnone hsome s'')
          intro es'' r _ hr
          apply hr.after hquiet
          rintro acc' ⟨hhandled, hdesired⟩
          exact ⟨hhandled.mono (List.subset_append_right _ _), hdesired⟩

/-! ### The whole pass -/

/-- A pass, or the rest of one, that reports no error has done `N`, or a shutdown was the last
it saw. -/
def EndsWell (h : Handler Call Call.Reply σ) (N : List (Event Call σ) → Prop)
    (es : List (Event Call σ)) (outcome : Outcome) : Prop :=
  outcome.2 = none → (Undisturbed h es ∧ N es) ∨ EndsInShutdown h es

theorem EndsWell.after {N N' : List (Event Call σ) → Prop} {outcome : Outcome}
    (hout : EndsWell h N es' outcome) (hes : Undisturbed h es)
    (hN : N es' → N' (es ++ es')) : EndsWell h N' (es ++ es') outcome := by
  intro hnone
  rcases hout hnone with ⟨hquiet, hdone⟩ | hstopped
  · exact Or.inl ⟨hes.append hquiet, hN hdone⟩
  · exact Or.inr (hstopped.append es)

theorem endsWell_stop {N : List (Event Call σ) → Prop} {err reported : Err}
    {result : PodExecutionResult} (herr : (h c s).1 = .error err) :
    EndsWell h N [⟨c, s⟩] (stop result err reported) :=
  fun hnone => Or.inr (endsInShutdown_stop herr hnone)

def DesiredBy (pool : VNodePool) (sources : List CorePod) (desired : List String) : Prop :=
  ∀ k, k ∈ desired ↔
    ∃ p ∈ sources, keyForPod (targetKey pool p).ns (targetKey pool p).name = k

theorem DesiredBy.concat {sources : List CorePod} {desired : List String}
    (hdesired : DesiredBy pool sources desired) (p : CorePod) :
    DesiredBy pool (sources ++ [p])
      (keyForPod (targetKey pool p).ns (targetKey pool p).name :: desired) := by
  intro k
  rw [List.mem_cons, hdesired]
  constructor
  · rintro (rfl | ⟨q, hq, hk⟩)
    · exact ⟨p, List.mem_concat_self, rfl⟩
    · exact ⟨q, List.mem_append_left _ hq, hk⟩
  · rintro ⟨q, hq, hk⟩
    rcases List.mem_append.mp hq with hq | hq
    · exact Or.inr ⟨q, hq, hk⟩
    · rw [List.mem_singleton.mp hq] at hk
      exact Or.inl hk.symm

theorem traced_deleteOrphan {sources : List CorePod} {desired : List String}
    (hdesired : DesiredBy pool sources desired) (q : PodSpec) (done : List PodSpec)
    (result : PodExecutionResult) (hes : Undisturbed h es)
    (hdone : OrphansDeleted h pool sources done es) (s : σ) :
    Prog.Traced h (deleteOrphan desired q result) (fun es' r _ =>
      r.elim (fun _ => Undisturbed h (es ++ es') ∧
        OrphansDeleted h pool sources (done ++ [q]) (es ++ es'))
        fun outcome => outcome.2 = none → EndsInShutdown h (es ++ es')) s := by
  unfold deleteOrphan
  split
  · next hkept =>
      obtain ⟨p, hp, hk⟩ := (hdesired _).mp hkept
      apply Prog.Traced.pure
      rw [List.append_nil]
      refine ⟨hes, ?_⟩
      rw [OrphansDeleted, List.filter_append, List.filter_singleton,
        decide_eq_false (fun h => h p hp hk), cond_false, List.append_nil]
      exact hdone
  · next horphan =>
      have hnone : ∀ p ∈ sources, keyForPod (targetKey pool p).ns (targetKey pool p).name ≠
          keyForPod q.ns q.name := fun p hp hk => horphan ((hdesired _).mpr ⟨p, hp, hk⟩)
      apply traced_ask
      · intro u hu
        refine ⟨hes.append (undisturbed_ok hu), ?_⟩
        rw [OrphansDeleted, List.filter_append, List.filter_singleton, decide_eq_true hnone]
        exact List.rel_append hdone (.cons ⟨rfl, hu⟩ .nil)
      · intro err herr hnone
        exact (endsInShutdown_stop herr hnone).append es

theorem traced_cleanupOrphans {sources : List CorePod} {acc : Progress}
    (hdesired : DesiredBy pool sources acc.desired) (s : σ) :
    Prog.Traced h (cleanupOrphans pool acc)
      (fun es outcome _ => EndsWell h (OrphansGone h pool sources) es outcome) s := by
  apply traced_ask
  · intro hostPods hlisted
    apply Prog.Traced.bind
    apply Prog.Traced.mono (Prog.Traced.loop
      (fun done es _ => Undisturbed h es ∧ OrphansDeleted h pool sources done es)
      (fun es outcome => outcome.2 = none → EndsInShutdown h es) ?_ hostPods [] [] acc.result _
      ⟨Undisturbed.nil, .nil⟩)
    · intro es r s' hr
      cases r with
      | next result =>
          apply Prog.Traced.pure
          rw [List.append_nil]
          intro _
          exact Or.inl ⟨(undisturbed_ok hlisted).append hr.1,
            ⟨_, hostPods, es, rfl, ⟨rfl, hlisted⟩, hr.2⟩⟩
      | exit outcome =>
          apply Prog.Traced.pure
          rw [List.append_nil]
          exact fun hnone => Or.inr ((hr hnone).append [_])
    · rintro q done es result s ⟨hes, hdone⟩
      exact traced_deleteOrphan hdesired q done result hes hdone s
  · intro err herr
    exact endsWell_stop herr

def PodsDone (h : Handler Call Call.Reply σ) (translator : PodService) (pool : VNodePool)
    (sources : List CorePod) (es : List (Event Call σ)) : Prop :=
  ∃ handling cleanup, es = List.flatten handling ++ cleanup ∧
    List.Forall₂ (Handled h translator pool) sources handling ∧ OrphansGone h pool sources cleanup

theorem traced_reconcilePods (hhost : HostErrors h) (sources : List CorePod) (s : σ) :
    Prog.Traced h (reconcilePods translator cs pool sources)
      (fun es outcome _ => EndsWell h (PodsDone h translator pool sources) es outcome) s := by
  apply Prog.Traced.bind
  apply Prog.Traced.mono (Prog.Traced.loop
    (fun done es acc => Undisturbed h es ∧ DesiredBy pool done acc.desired ∧
      ∃ handling, es = List.flatten handling ∧
        List.Forall₂ (Handled h translator pool) done handling)
    (fun es outcome => outcome.2 = none → EndsInShutdown h es) ?_ sources [] [] _ s
    ⟨Undisturbed.nil, by simp [DesiredBy], [], rfl, .nil⟩)
  · intro es r s' hr
    cases r with
    | next acc =>
        obtain ⟨hquiet, hdesired, handling, hes, hhandled⟩ := hr
        apply Prog.Traced.mono (traced_cleanupOrphans hdesired s')
        intro es' outcome _ hout
        apply hout.after hquiet
        intro hgone
        exact ⟨handling, es', congrArg (· ++ es') hes, hhandled, hgone⟩
    | exit outcome =>
        apply Prog.Traced.pure
        rw [List.append_nil]
        exact fun hnone => Or.inr (hr hnone)
  · rintro p done es acc s ⟨hes, hdesired, handling, rfl, hhandled⟩
    apply Prog.Traced.mono (traced_reconcilePod hhost p acc s)
    intro es' r _ hr
    cases r with
    | next acc' =>
        obtain ⟨hquiet, hdone, hkeys⟩ := hr
        refine ⟨hes.append hquiet, ?_, handling ++ [es'], ?_, ?_⟩
        · rw [hkeys]
          exact hdesired.concat p
        · rw [List.flatten_concat]
        · exact List.rel_append hhandled (.cons hdone .nil)
    | exit outcome => exact fun hnone => (hr hnone).append _

/-- A pass that reports no error is complete, or a shutdown was the last it saw. -/
theorem traced_reconcilePool (hhost : HostErrors h) (s : σ) :
    Prog.Traced h (reconcilePool translator pool)
      (fun es outcome _ => EndsWell h (Completed h translator pool) es outcome) s := by
  apply traced_ask
  · intro cs hcs
    apply traced_ask
    · intro nodes hnodes
      have hread := (undisturbed_ok hcs).append (undisturbed_ok hnodes)
      apply Prog.Traced.bind
      unfold listTenantPodsForNodes
      split
      · next hready =>
          apply Prog.Traced.pure
          apply Prog.Traced.mono (traced_reconcilePods hhost [] _)
          intro es outcome _ hout
          apply hout.after hread
          rintro ⟨handling, cleanup, rfl, hhandled, hgone⟩
          refine ⟨[_, _], [], handling, cleanup, rfl, ?_, hhandled, hgone⟩
          exact .idle ⟨rfl, hcs⟩ ⟨rfl, hnodes⟩ (List.length_eq_zero_iff.mp hready)
      · apply traced_ask
        · intro pods hpods
          apply Prog.Traced.pure
          apply Prog.Traced.mono (traced_reconcilePods hhost _ _)
          intro es outcome _ hout
          apply hout.after (hread.append (undisturbed_ok hpods))
          rintro ⟨handling, cleanup, rfl, hhandled, hgone⟩
          refine ⟨[_, _, _], _, handling, cleanup, rfl, ?_, hhandled, hgone⟩
          exact .asked ⟨rfl, hcs⟩ ⟨rfl, hnodes⟩ ⟨rfl, hpods⟩
        · intro err herr
          apply Prog.Traced.pure
          intro hnone
          exact Or.inr ((endsInShutdown_error herr (stop_eq_none hnone)).append [_, _])
    · intro err herr
      exact (endsWell_stop (N := fun _ => False) herr).after (undisturbed_ok hcs) False.elim
  · intro err herr
    exact endsWell_stop herr

theorem Succeeded.not_shutDown {v : c.Value} (he : Succeeded h e c v) : ¬ ShutDown h e := by
  obtain ⟨c', s⟩ := e
  obtain ⟨rfl, hv⟩ := he
  exact undisturbed_ok hv _ (List.mem_singleton_self _)

theorem OrphansGone.undisturbed {sources : List CorePod} (hes : OrphansGone h pool sources es) :
    Undisturbed h es := by
  obtain ⟨e₀, hostPods, deletions, rfl, hlisted, hdeleted⟩ := hes
  unfold OrphansDeleted at hdeleted
  generalize hostPods.filter _ = orphans at hdeleted
  have hdeletions : Undisturbed h deletions := by
    induction hdeleted with
    | nil => exact Undisturbed.nil
    | cons hdeleted _ ih =>
        intro e he
        rcases List.mem_cons.mp he with rfl | he
        · exact hdeleted.not_shutDown
        · exact ih e he
  intro e he
  rcases List.mem_cons.mp he with rfl | he
  · exact hlisted.not_shutDown
  · exact hdeletions e he

/-- The last call of a complete pass was a success. -/
theorem Completed.not_endsInShutdown (hes : Completed h translator pool es) :
    ¬ EndsInShutdown h es := by
  obtain ⟨listing, sources, handling, cleanup, rfl, _, _, hgone⟩ := hes
  rintro ⟨before, e, hsplit, hshut⟩
  have hquiet := hgone.undisturbed
  obtain ⟨e₀, hostPods, deletions, rfl, _, _⟩ := hgone
  have hlast := congrArg List.getLast? hsplit
  rw [List.getLast?_append_cons, List.getLast?_concat] at hlast
  exact hquiet e (List.mem_of_getLast? hlast) hshut

end VNodeOperator.Pass
