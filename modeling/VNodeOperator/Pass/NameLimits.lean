import VNodeOperator.Pass.Completion
import VNodeOperator.Pass.HostPodNames
import VNodeOperator.Pass.Translation

/-!
# Lengths of names and label values

A host pod's name is put together from three names of the tenant and the pool,
and these names are its label values as well.  Names may be longer than label
values, so the host can turn down the pod of a valid source; a pass ends there.
-/

namespace VNodeOperator.Pass

open Model Kube Ports ProofSupport Service PodExecution

/-! ## Valid names and what the host accepts -/

def isSubdomainPart (part : List Char) : Bool :=
  part ≠ [] && part.head? ≠ some '-' && part.getLast? ≠ some '-' &&
    part.all fun c => c.isDigit || c.isLower || c = '-'

def isSubdomain (s : String) : Bool :=
  s.toList.length ≤ 253 && (s.toList.splitOn '.').all isSubdomainPart

def ValidNames (source : PodSpec) (opts : TranslateOpts) : Prop :=
  isLabel source.ns = true ∧ isSubdomain source.name = true ∧
    isSubdomain opts.vnodeName = true ∧ isSubdomain opts.poolName = true

instance (source : PodSpec) (opts : TranslateOpts) : Decidable (ValidNames source opts) :=
  inferInstanceAs (Decidable (_ ∧ _))

def systemLabelKeys : List String :=
  [labelManagedBy, labelVNodePool, labelVNodeName, labelSourcePodName, labelSourcePodNS]

/-- The pod keeps the limits of the host API: 253 characters for its name, and 63 for the value
of each system label. -/
def FitsHost (pod : PodSpec) : Prop :=
  pod.name.toList.length ≤ 253 ∧
    ∀ key ∈ systemLabelKeys, ∀ value ∈ pod.labels.lookup key, value.toList.length ≤ 63

instance (pod : PodSpec) : Decidable (FitsHost pod) :=
  inferInstanceAs (Decidable (_ ∧ ∀ key ∈ systemLabelKeys, ∀ value ∈ pod.labels.lookup key, _))

def NamesFit (source : PodSpec) (opts : TranslateOpts) : Prop :=
  opts.poolName.toList.length ≤ 63 ∧ opts.vnodeName.toList.length ≤ 63 ∧
    source.name.toList.length ≤ 63

instance (source : PodSpec) (opts : TranslateOpts) : Decidable (NamesFit source opts) :=
  inferInstanceAs (Decidable (_ ∧ _))

/-- The host turns a pod down for its limits, and for nothing else. -/
def EnforcesLimits (env : Env) : Prop :=
  ∀ pod, (∃ shown, env.storePod pod = .ok shown) ↔ FitsHost pod

/-! ## The translated pod -/

theorem length_of_isLabel {s : String} (h : isLabel s = true) : s.toList.length ≤ 63 := by
  simp only [isLabel, Bool.and_eq_true, decide_eq_true_eq] at h
  exact h.1.1.1.2

theorem length_hostPodName (vnodeName sourceNamespace sourceName : String) :
    (hostPodName vnodeName sourceNamespace sourceName).toList.length =
      vnodeName.toList.length + sourceNamespace.toList.length + sourceName.toList.length + 2 := by
  simp only [hostPodName, String.toList_append, List.length_append]
  have hdash : "-".toList.length = 1 := rfl
  omega

theorem systemLabelKeys_lookup (source : PodSpec) (opts : TranslateOpts) :
    systemLabelKeys.map (translatePod source opts).targetPod.labels.lookup =
      [some labelManagedByValue, some opts.poolName, some opts.vnodeName, some source.name,
        some source.ns] := by
  have hlookup : (translatePod source opts).targetPod.labels.lookup = fun key =>
      ((systemLabels source opts).lookup key).or (source.labels.lookup key) :=
    funext (lookup_translatePod_labels source opts)
  simp only [hlookup, lookup_systemLabels, systemLabelKeys, List.map_cons, List.map_nil]
  rfl

theorem systemLabels_fit_iff (source : PodSpec) (opts : TranslateOpts) :
    (∀ key ∈ systemLabelKeys, ∀ value ∈ (translatePod source opts).targetPod.labels.lookup key,
        value.toList.length ≤ 63) ↔
      NamesFit source opts ∧ source.ns.toList.length ≤ 63 := by
  have hmap := List.forall_mem_map (f := (translatePod source opts).targetPod.labels.lookup)
    (l := systemLabelKeys) (P := fun found => ∀ value ∈ found, value.toList.length ≤ 63)
  have hmanaged : labelManagedByValue.toList.length ≤ 63 := by decide
  rw [← hmap, systemLabelKeys_lookup]
  simp only [List.forall_mem_cons, List.not_mem_nil, Option.mem_some_iff, forall_eq', hmanaged,
    NamesFit, and_assoc, true_and, false_imp_iff, implies_true, and_true]

theorem fitsHost_translatePod_iff {source : PodSpec} {opts : TranslateOpts}
    (hvalid : ValidNames source opts) :
    FitsHost (translatePod source opts).targetPod ↔ NamesFit source opts := by
  have hns := length_of_isLabel hvalid.1
  unfold FitsHost
  rw [systemLabels_fit_iff]
  constructor
  · exact fun hfits => hfits.2.1
  · intro hfit
    refine ⟨?_, hfit, hns⟩
    have hname : (translatePod source opts).targetPod.name =
        hostPodName opts.vnodeName source.ns source.name := rfl
    rw [hname, length_hostPodName]
    obtain ⟨_, hvnode, hsource⟩ := hfit
    omega

theorem createPod_ok_iff {env : Env} {pod : PodSpec} {w : Cluster}
    (hfree : w.hostPods.get ⟨pod.ns, pod.name⟩ = none) :
    (handle env (.createPod pod) w).1 = .ok () ↔ ∃ shown, env.storePod pod = .ok shown := by
  cases hstore : env.storePod pod with
  | error err => simp [handle, hstore]
  | ok shown => simp [handle, hstore, hfree]

/-! ## A pass whose pod is turned down -/

section

variable {σ : Type} {h : Handler Call Call.Reply σ} {es es' : List (Event Call σ)}

def Rejected (h : Handler Call Call.Reply σ) (e : Event Call σ) : Prop :=
  ∃ pod err, e.call = .createPod pod ∧ (h (.createPod pod) e.before).1 = .error err ∧
    err.kind ≠ .podTerminating

def AllTaken (h : Handler Call Call.Reply σ) (es : List (Event Call σ)) : Prop :=
  ∀ e ∈ es, ¬ Rejected h e

def EndsRejected (h : Handler Call Call.Reply σ) (es : List (Event Call σ)) : Prop :=
  AllTaken h es.dropLast

theorem AllTaken.append (hes : AllTaken h es) (hes' : AllTaken h es') :
    AllTaken h (es ++ es') :=
  List.forall_mem_append.mpr ⟨hes, hes'⟩

theorem AllTaken.endsRejected (hes : AllTaken h es) : EndsRejected h es :=
  fun e he => hes e (List.dropLast_subset _ he)

theorem AllTaken.append_endsRejected (hes : AllTaken h es) (hes' : EndsRejected h es') :
    EndsRejected h (es ++ es') := by
  unfold EndsRejected
  rw [List.dropLast_append]
  split
  · exact hes.endsRejected
  · exact hes.append hes'

def notCreate (c : Call) : Prop := ∀ pod, c ≠ .createPod pod

theorem notCreate_of_leavesPods (c : Call) (hc : leavesPods c) : notCreate c := by
  rintro pod rfl
  cases hc

theorem notCreate_deletePod (k : ObjKey) : notCreate (.deletePod k) := by
  rintro pod ⟨⟩

theorem allTaken_of_uses {α : Type} {p : Svc α} (hp : Prog.Uses notCreate p) (s : σ) :
    Prog.Traced h p (fun es _ _ => AllTaken h es) s := by
  rintro e he ⟨pod, err, hcall, _⟩
  exact hp.event_calls s e he pod hcall

theorem allTaken_singleton {c : Call} (hc : notCreate c) (s : σ) :
    AllTaken h [⟨c, s⟩] :=
  allTaken_of_uses (Prog.Uses.perform hc) s

/-- How a part of the loop body ends: it goes on with all pods taken, or it exits. -/
def Proceeds (h : Handler Call Call.Reply σ) {β ρ : Type} (es : List (Event Call σ)) :
    Prog.Flow β ρ → Prop :=
  Prog.Flow.elim (fun _ => AllTaken h es) fun _ => EndsRejected h es

theorem AllTaken.proceeds {β ρ : Type} (hes : AllTaken h es) (r : Prog.Flow β ρ) :
    Proceeds h es r := by
  cases r with
  | next b => exact hes
  | exit r => exact hes.endsRejected

theorem Proceeds.after {β ρ : Type} {r : Prog.Flow β ρ} (hr : Proceeds h es' r)
    (hes : AllTaken h es) : Proceeds h (es ++ es') r := by
  cases r with
  | next b => exact hes.append hr
  | exit r => exact hes.append_endsRejected hr

theorem allTaken_createPod {pod : PodSpec} {s : σ}
    (hreply : ∀ err, (h (.createPod pod) s).1 = .error err → err.kind = .podTerminating) :
    AllTaken h [⟨.createPod pod, s⟩] := by
  intro e he
  rw [List.mem_singleton.mp he]
  rintro ⟨pod', err, ⟨⟩, herr, hkind⟩
  exact hkind (hreply err herr)

theorem endsRejected_ensureHostPod (pod : PodSpec) (s : σ) :
    Prog.Traced h (ensureHostPod pod) (fun es r _ => EndsRejected h es ∧
      ((∀ err, r.2.2 = some err → err.kind = .podTerminating) → AllTaken h es)) s := by
  have hread : AllTaken h [⟨.getPod ⟨pod.ns, pod.name⟩, s⟩] :=
    allTaken_singleton (notCreate_of_leavesPods _ rfl) s
  apply traced_ask
  · intro current _
    dsimp only
    split
    · exact ⟨hread.endsRejected, fun _ => hread⟩
    · split
      · exact ⟨hread.endsRejected, fun _ => hread⟩
      · have hdeletes := fun s' : σ =>
          hread.append (allTaken_singleton (notCreate_deletePod ⟨pod.ns, pod.name⟩) s')
        apply traced_ask
        · exact fun _ _ => ⟨(hdeletes _).endsRejected, fun _ => hdeletes _⟩
        · exact fun _ _ => ⟨(hdeletes _).endsRejected, fun _ => hdeletes _⟩
  · intro err _
    dsimp only
    split
    · apply traced_ask
      · intro u hu
        have htaken : AllTaken h [⟨.createPod pod, (h (.getPod ⟨pod.ns, pod.name⟩) s).2⟩] := by
          apply allTaken_createPod
          intro err herr
          rw [hu] at herr
          cases herr
        exact ⟨(hread.append htaken).endsRejected, fun _ => hread.append htaken⟩
      · intro err herr
        refine ⟨hread, fun hkind => hread.append (allTaken_createPod ?_)⟩
        intro err' herr'
        rw [herr] at herr'
        cases herr'
        exact hkind err rfl
    · exact ⟨hread.endsRejected, fun _ => hread⟩

variable {translator : PodService} {cs : Clientset} {pool : VNodePool}

theorem allTaken_reportPod (p : CorePod) (target : ObjKey) (acc : Progress) (s : σ) :
    Prog.Traced h (reportPod translator cs p target acc) (fun es _ _ => AllTaken h es) s :=
  allTaken_of_uses (uses_reportPod notCreate_of_leavesPods notCreate_deletePod p target acc) s

theorem proceeds_reconcilePod (p : CorePod) (acc : Progress) (s : σ) :
    Prog.Traced h (reconcilePod translator cs pool p acc) (fun es r _ => Proceeds h es r) s := by
  unfold reconcilePod
  rw [translate_eq]
  apply Prog.Traced.bind
  apply Prog.Traced.mono (allTaken_of_uses (uses_syncPodResources notCreate_of_leavesPods
    (translation translator pool p)) s)
  intro es r s' hes
  cases r with
  | error err =>
      apply Prog.Traced.pure
      rw [List.append_nil]
      exact hes.endsRejected
  | ok u =>
      dsimp only
      split
      · apply Prog.Traced.mono (allTaken_reportPod p _ _ s')
        exact fun es' r _ hes' => (hes.append hes').proceeds r
      · apply Prog.Traced.bind
        apply Prog.Traced.mono (endsRejected_ensureHostPod _ s')
        rintro es' ⟨created, deleted, err⟩ s'' ⟨hends, htaken⟩
        cases err with
        | none =>
            have hes' := hes.append (htaken (by rintro err ⟨⟩))
            apply Prog.Traced.mono (allTaken_reportPod p _ _ s'')
            intro es'' r _ hes''
            rw [← List.append_assoc]
            exact (hes'.append hes'').proceeds r
        | some err =>
            rw [afterEnsure]
            split
            · next hkind =>
                apply Prog.Traced.pure
                rw [List.append_nil]
                refine hes.append (htaken ?_)
                rintro err' ⟨⟩
                exact hkind
            · apply Prog.Traced.pure
              rw [List.append_nil]
              exact hes.append_endsRejected hends

theorem endsRejected_reconcilePods (sources : List CorePod) (s : σ) :
    Prog.Traced h (reconcilePods translator cs pool sources)
      (fun es _ _ => EndsRejected h es) s := by
  apply Prog.Traced.bind
  apply Prog.Traced.mono (Prog.Traced.loop (fun _ es _ => AllTaken h es)
    (fun es _ => EndsRejected h es) ?_ sources [] [] _ s (by rintro e ⟨⟩))
  · intro es r s' hr
    cases r with
    | next acc =>
        apply Prog.Traced.mono (allTaken_of_uses (uses_cleanupOrphans notCreate_of_leavesPods
          notCreate_deletePod acc) s')
        exact fun es' _ _ hes' => (AllTaken.append hr hes').endsRejected
    | exit outcome =>
        apply Prog.Traced.pure
        rw [List.append_nil]
        exact hr
  · intro p done es acc s hes
    apply Prog.Traced.mono (proceeds_reconcilePod p acc s)
    exact fun es' r _ hr => hr.after hes

/-- A pass ends where a pod is turned down. -/
theorem endsRejected_reconcilePool (translator : PodService) (pool : VNodePool) (s : σ) :
    Prog.Traced h (reconcilePool translator pool) (fun es _ _ => EndsRejected h es) s := by
  have hclient : AllTaken h [⟨.tenantClient pool.tenantRef, s⟩] :=
    allTaken_singleton (notCreate_of_leavesPods _ rfl) s
  apply traced_ask
  · intro cs _
    have hnodes := hclient.append (allTaken_singleton
      (notCreate_of_leavesPods (.listByPool pool.ns pool.name) rfl)
      (h (.tenantClient pool.tenantRef) s).2)
    apply traced_ask
    · intro nodes _
      apply Prog.Traced.bind
      apply Prog.Traced.mono (allTaken_of_uses (uses_listTenantPodsForNodes
        notCreate_of_leavesPods (readyNames nodes)) _)
      intro es r s' hes
      have hlisted := hnodes.append hes
      cases r with
      | error err =>
          apply Prog.Traced.pure
          rw [List.append_nil]
          exact hlisted.endsRejected
      | ok sources =>
          apply Prog.Traced.mono (endsRejected_reconcilePods sources s')
          exact fun es' _ _ hes' => hlisted.append_endsRejected hes'
    · exact fun _ _ => hnodes.endsRejected
  · exact fun _ _ => hclient.endsRejected

end

/-! ## Which pods the host takes -/

/-- With valid names, a translated pod keeps the limits of the host exactly when the names of
the pool, the node and the source pod have at most 63 characters.  A host that enforces the
limits creates exactly these pods; one it turns down is the last call of the pass. -/
theorem translatePod_fits_iff (source : PodSpec) (opts : TranslateOpts)
    (hvalid : ValidNames source opts) :
    (FitsHost (translatePod source opts).targetPod ↔ NamesFit source opts) ∧
      (∀ (env : Env) (w : Cluster), EnforcesLimits env →
        w.hostPods.get ⟨(translatePod source opts).targetPod.ns,
          (translatePod source opts).targetPod.name⟩ = none →
        ((handle env (.createPod (translatePod source opts).targetPod) w).1 = .ok () ↔
          NamesFit source opts)) ∧
      ∀ (translator : PodService) (pool : VNodePool) (σ : Type) (h : Handler Call Call.Reply σ)
        (s : σ), ∀ e ∈ ((reconcilePool translator pool).events h s).dropLast, ¬ Rejected h e := by
  have hfits := fitsHost_translatePod_iff hvalid
  refine ⟨hfits, ?_, ?_⟩
  · intro env w henv hfree
    rw [createPod_ok_iff hfree, henv, hfits]
  · intro translator pool σ h s
    exact endsRejected_reconcilePool translator pool s

/-! ### A pod with a long name -/

def strictEnv : Env :=
  { Env.plain with
    storePod := fun pod =>
      if FitsHost pod then .ok pod else .error ⟨.other, "is invalid: must be no more than"⟩
    storePod_key := by
      intro p q h
      split at h
      · cases h
        exact ⟨rfl, rfl⟩
      · cases h }

theorem strictEnv_enforces : EnforcesLimits strictEnv := by
  intro pod
  by_cases hfits : FitsHost pod <;> simp [strictEnv, hfits]

def longPod : CorePod where
  name := "aaaaaaaaaaaaaaaaaaaaaaaaaaaaaaaaaaaaaaaaaaaaaaaaaaaaaaaaaaaaaaaa"
  ns := "prod"
  nodeName := "vnode-web-1"

def shopPod : CorePod where
  name := "shop"
  ns := "prod"
  nodeName := "vnode-web-1"

def leftoverPod : HostPod :=
  ⟨targetPod ⟨"kata"⟩ (NodeService.acmePool 1) { shopPod with name := "gone" }, {}⟩

def longCluster : Cluster :=
  { NodeService.acmeCluster { pods := (Store.empty.put longPod).put shopPod } with
    hostPods := Store.empty.put leftoverPod }

def longPass : Outcome × Cluster :=
  (reconcilePool ⟨"kata"⟩ (NodeService.acmePool 1)).run (handle strictEnv) longCluster

theorem shopPod_fits :
    FitsHost (targetPod ⟨"kata"⟩ (NodeService.acmePool 1) shopPod) ∧
      (handle strictEnv (.createPod (targetPod ⟨"kata"⟩ (NodeService.acmePool 1) shopPod))
        longCluster).1 = .ok () := by
  have hvalid : ValidNames (podFromCore shopPod) (PodService.translateOpts ⟨"kata"⟩
      (NodeService.acmePool 1) shopPod.nodeName) := by
    decide +kernel
  have hfit : NamesFit (podFromCore shopPod) (PodService.translateOpts ⟨"kata"⟩
      (NodeService.acmePool 1) shopPod.nodeName) := by
    decide +kernel
  obtain ⟨hfits, hcreated, _⟩ := translatePod_fits_iff _ _ hvalid
  exact ⟨hfits.mpr hfit,
    (hcreated strictEnv longCluster strictEnv_enforces (by decide +kernel)).mpr hfit⟩

/-- The long pod is valid and is turned down; the pass reports it, creates nothing for the other
pod and leaves the leftover in place. -/
theorem longPod_blocks_pass :
    ValidNames (podFromCore longPod) (PodService.translateOpts ⟨"kata"⟩ (NodeService.acmePool 1)
        longPod.nodeName) ∧
      ¬ FitsHost (targetPod ⟨"kata"⟩ (NodeService.acmePool 1) longPod) ∧
      longPass.1.2.isSome = true ∧
      longPass.2.hostPods.get (targetKey (NodeService.acmePool 1) shopPod) = none ∧
      longPass.2.hostPods.get leftoverPod.key = some leftoverPod := by
  decide +kernel

end VNodeOperator.Pass
