import VNodeOperator.Nodes.TenantNodes
import VNodeOperator.Pass.Counters
import VNodeOperator.Pass.Rule

/-!
# What a pass deletes

A pass deletes the host pods of finished source pods, host pods that have drifted and
orphans.  Only a drifted pod is looked at first.  When the finished source pods have live
host pods and no orphan is on its way out, every deletion of the pass meets a live pod,
whichever requests fail (`deletions_meet_live`).
-/

namespace VNodeOperator.Pass

open Model Kube Ports ProofSupport Service PodExecution
open Nodes (unreliable run_apiRequests_withFaults)

variable {env : Env} {w : Cluster} {s : Cluster × FaultPlan Err} {c : Call}

def isLive (w : Cluster) (k : ObjKey) : Bool :=
  match w.hostPods.get k with
  | some p => !p.spec.deleting
  | none => false

theorem isLive_congr {w' : Cluster} {k : ObjKey} (h : w'.hostPods.get k = w.hostPods.get k) :
    isLive w' k = isLive w k := by
  unfold isLive
  rw [h]

/-! ## What a call does to the host's pods -/

theorem hostPods_apiRequests {α : Type} {p : Api α}
    (hp : Prog.Uses (fun c => ∀ k, c ≠ .deletePod k) p) :
    ((apiRequests p).run (withFaults (serve env)) s).2.1.hostPods = s.1.hostPods := by
  rw [run_apiRequests_withFaults]
  refine ((Robust.of_uses (h := api env) (I := fun w => w.hostPods = s.1.hostPods) hp ?_ rfl)
    s.2).2
  intro c w hc hw
  rw [api_hostPods env hc w, hw]

theorem hostPods_unreliable (env : Env) (s : Cluster × FaultPlan Err)
    (hc : leavesPods c = true) :
    (unreliable env c s).2.1.hostPods = s.1.hostPods := by
  have hport : ∀ c : Call, (handle env c s.1).2.hostPods = s.1.hostPods →
      (withFaults (serve env) (.port c) s).2.1.hostPods = s.1.hostPods := by
    intro c hc
    rcases withFaults_state (serve env) (.port c) s with hstate | hstate
    · rw [hstate]
      exact hc
    · rw [hstate]
  cases c with
  | listByPool ns poolName =>
      exact hostPods_apiRequests (Adapter.NodeRepository.uses_listByPool (by rintro k ⟨⟩))
  | ensureConfigMap cm =>
      exact hostPods_apiRequests (Adapter.PodClient.uses_getOrCreate
        (Prog.Uses.perform (by rintro k ⟨⟩)) (Prog.Uses.perform (by rintro k ⟨⟩))
        fun _ => Prog.Uses.perform (by rintro k ⟨⟩))
  | ensureSecret secret =>
      exact hostPods_apiRequests (Adapter.PodClient.uses_getOrCreate
        (Prog.Uses.perform (by rintro k ⟨⟩)) (Prog.Uses.perform (by rintro k ⟨⟩))
        fun _ => Prog.Uses.perform (by rintro k ⟨⟩))
  | updateTenantPod cs pod =>
      apply hport
      simp only [handle]
      split <;> rfl
  | tenantClient _ | listTenantPods _ | getTenantPod _ _ | getTenantConfigMap _ _
  | getTenantSecret _ _ | getPod _ | getPodStatus _ | listPodsByLabels _ _ =>
      apply hport
      rw [handle_read env s.1 rfl]
  | _ => cases hc

theorem unreliable_createPod (env : Env) (s : Cluster × FaultPlan Err) (pod : PodSpec) :
    (unreliable env (.createPod pod) s).2.1 = s.1 ∨
      (s.1.hostPods.get ⟨pod.ns, pod.name⟩ = none ∧ ∃ shown, env.storePod pod = .ok shown ∧
        (unreliable env (.createPod pod) s).2.1 = s.1.addPod shown) := by
  have hstate := withFaults_state (serve env) (.port (.createPod pod)) s
  rcases handle_createPod_cases env s.1 pod with ⟨err, hsame⟩ | ⟨hfree, shown, hstore, hadd⟩
  · left
    rcases hstate with hstate | hstate
    · exact hstate.trans (congrArg Prod.snd hsame)
    · exact hstate
  · rcases hstate with hstate | hstate
    · exact Or.inr ⟨hfree, shown, hstore, hstate.trans (congrArg Prod.snd hadd)⟩
    · exact Or.inl hstate

/-- A deletion does what the host does to the pod, or nothing. -/
theorem unreliable_deletePod (env : Env) (s : Cluster × FaultPlan Err) (k : ObjKey) :
    (unreliable env (.deletePod k) s).2.1 = s.1 ∨
      (unreliable env (.deletePod k) s).2.1 = s.1.removePod env k := by
  have happlied : (api env (.deletePod k) s.1).2 = s.1.removePod env k := by
    cases hget : s.1.hostPods.get k with
    | none => simp only [api, Cluster.removePod, hget]
    | some p => simp only [api, hget]
  have hrun : (unreliable env (.deletePod k) s).2 =
      (withFaults (api env) (.deletePod k) s).2 := by
    change ((apiRequests (Adapter.PodClient.deletePod k)).run _ s).2 = _
    rw [run_apiRequests_withFaults, Adapter.PodClient.deletePod, request, Prog.run_bind,
      Prog.run_perform]
    cases (withFaults (api env) (.deletePod k) s).1 <;> rfl
  rw [hrun, ← happlied]
  exact (withFaults_state (api env) (.deletePod k) s).symm

def OnlyPod (k : ObjKey) : Call → Prop
  | .createPod pod => (⟨pod.ns, pod.name⟩ : ObjKey) = k
  | .deletePod k' => k' = k
  | c => leavesPods c = true

theorem get_unreliable_ne {k k' : ObjKey} (hc : OnlyPod k c) (hne : k' ≠ k)
    (s : Cluster × FaultPlan Err) :
    (unreliable env c s).2.1.hostPods.get k' = s.1.hostPods.get k' := by
  cases c with
  | createPod pod =>
      rcases unreliable_createPod env s pod with hsame | ⟨_, shown, hstore, hadd⟩
      · rw [hsame]
      · obtain ⟨hns, hname⟩ := env.storePod_key pod shown hstore
        rw [hadd]
        apply Store.get_put_ne
        rw [HostPod.key, hns, hname]
        exact fun heq => hne (heq.symm.trans hc)
  | deletePod k'' =>
      obtain rfl : k'' = k := hc
      rcases unreliable_deletePod env s k'' with hsame | hremoved
      · rw [hsame]
      · rw [hremoved]
        exact Cluster.get_removePod_ne env s.1 hne.symm
  | _ => rw [hostPods_unreliable env s hc]

/-! ## What a read tells -/

theorem unreliable_isRead (env : Env) (hc : c.isRead) (s : Cluster × FaultPlan Err) :
    (unreliable env c s).2.1 = s.1 := by
  cases c with
  | listByPool ns poolName =>
      change ((apiRequests _).run _ s).2.1 = s.1
      rw [run_apiRequests_withFaults]
      refine ((Robust.of_uses (h := api env) (I := fun w => w = s.1)
        (Adapter.NodeRepository.uses_listByPool (A := fun c => c = .listVNodes ns poolName) rfl)
        ?_ rfl) s.2).2
      rintro c w rfl hw
      exact hw
  | getVNode k => exact Nodes.unreliable_read (r := .api (.getVNode k)) (fun _ => rfl) s
  | _ =>
      first
        | exact Nodes.unreliable_read (r := .port _) (fun w => handle_read env w hc) s
        | cases hc

theorem unreliable_port_ok {v : c.Value}
    (hport : requests env c = Prog.perform (Request.port c))
    (hok : (unreliable env c s).1 = .ok v) : (handle env c s.1).1 = .ok v := by
  have hrun : unreliable env c s = withFaults (serve env) (.port c) s := by
    rw [unreliable, Prog.via, hport]
    rfl
  rw [hrun] at hok
  rw [← hok, (withFaults_of_ok hok).1]
  rfl

theorem unreliable_getPod {k : ObjKey} {current : PodSpec}
    (hok : (unreliable env (.getPod k) s).1 = .ok current) :
    ∃ hp, s.1.hostPods.get k = some hp ∧ hp.spec = current := by
  have hhandle := unreliable_port_ok rfl hok
  cases hget : s.1.hostPods.get k with
  | none =>
      simp only [handle, hget] at hhandle
      cases hhandle
  | some hp =>
      simp only [handle, hget, Except.ok.injEq] at hhandle
      exact ⟨hp, rfl, hhandle⟩

theorem unreliable_listByPool {ns poolName : String} {nodes : List VNode}
    (hok : (unreliable env (.listByPool ns poolName) s).1 = .ok nodes) :
    nodes = (env.order (s.1.poolVNodes ns poolName)).map Adapter.NodeRepository.crToNode := by
  change ((apiRequests (Adapter.NodeRepository.listByPool ns poolName)).run
    (withFaults (serve env)) s).1 = .ok nodes at hok
  rw [run_apiRequests_withFaults, Adapter.NodeRepository.listByPool, request, Prog.run_bind,
    Prog.run_perform] at hok
  cases hreply : (withFaults (api env) (.listVNodes ns poolName) s).1 with
  | error err =>
      rw [hreply] at hok
      cases hok
  | ok crs =>
      rw [hreply] at hok
      rw [(withFaults_of_ok hreply).1] at hreply
      cases hreply
      cases hok
      rfl

/-! ## One source pod -/

def MeetsLive (e : Event Call (Cluster × FaultPlan Err)) : Prop :=
  ∀ k, e.call = .deletePod k → isLive e.before.1 k = true

def SameBut (k : ObjKey) (s s' : Cluster × FaultPlan Err) : Prop :=
  ∀ k', k' ≠ k → s'.1.hostPods.get k' = s.1.hostPods.get k'

variable {translator : PodService} {cs : Clientset} {pool : VNodePool} {p : CorePod}
  {k : ObjKey} {s₀ : Cluster × FaultPlan Err}

theorem SameBut.refl (k : ObjKey) (s : Cluster × FaultPlan Err) : SameBut k s s :=
  fun _ _ => rfl

theorem SameBut.of_eq {s' : Cluster × FaultPlan Err} (h : SameBut k s₀ s)
    (heq : s'.1.hostPods = s.1.hostPods) : SameBut k s₀ s' := by
  unfold SameBut
  rw [heq]
  exact h

theorem SameBut.call {c : Call} (h : SameBut k s₀ s) (hc : OnlyPod k c) :
    SameBut k s₀ (unreliable env c s).2 :=
  fun k' hne => (get_unreliable_ne hc hne s).trans (h k' hne)

theorem throughout_leavesPods {α : Type} {q : Svc α}
    (hq : Prog.Uses (fun c => leavesPods c = true) q) (s : Cluster × FaultPlan Err) :
    Prog.Throughout (unreliable env) MeetsLive q (fun _ s' => s'.1.hostPods = s.1.hostPods) s := by
  constructor
  · refine hq.events (I := fun _ => True) ?_ trivial
    intro c s hc _
    refine ⟨trivial, ?_⟩
    rintro k rfl
    cases hc
  · refine hq.invariant
      (I := fun s' : Cluster × FaultPlan Err => s'.1.hostPods = s.1.hostPods) ?_ rfl
    intro c s' hc hs'
    rw [hostPods_unreliable env s' hc, hs']

theorem throughout_deletePod (hsame : SameBut k s₀ s) (hlive : isLive s.1 k = true) :
    Prog.Throughout (unreliable env) MeetsLive (ask (.deletePod k))
      (fun _ s' => SameBut k s₀ s') s := by
  refine Prog.Throughout.perform ?_ (hsame.call rfl)
  rintro k' ⟨⟩
  exact hlive

theorem throughout_deleteFinished (hsame : SameBut k s₀ s)
    (hlive : isTerminalPod p = true → isLive s.1 k = true) (acc : Progress) :
    Prog.Throughout (unreliable env) MeetsLive (deleteFinished p k acc)
      (fun _ s' => SameBut k s₀ s') s := by
  unfold deleteFinished
  split
  · next hterminal =>
      apply Prog.Throughout.bind
      apply (throughout_deletePod hsame (hlive hterminal)).mono
      intro r s' hs'
      cases r <;> exact Prog.Throughout.pure hs'
  · exact Prog.Throughout.pure hsame

theorem throughout_reportPod (hsame : SameBut k s₀ s)
    (hlive : isTerminalPod p = true → isLive s.1 k = true) (acc : Progress) :
    Prog.Throughout (unreliable env) MeetsLive (reportPod translator cs p k acc)
      (fun _ s' => SameBut k s₀ s') s := by
  apply Prog.Throughout.bind
  apply (throughout_leavesPods (uses_mirrorStatus (fun _ h => h) p k acc) s).mono
  intro r s' hs'
  cases r with
  | exit outcome => exact Prog.Throughout.pure (hsame.of_eq hs')
  | next acc =>
      apply throughout_deleteFinished (hsame.of_eq hs')
      exact fun hterminal => (isLive_congr (by rw [hs'])).trans (hlive hterminal)

/-- A drifted pod is deleted only after it was found alive. -/
theorem throughout_ensureHostPod {pod : PodSpec} (hsame : SameBut ⟨pod.ns, pod.name⟩ s₀ s) :
    Prog.Throughout (unreliable env) MeetsLive (ensureHostPod pod)
      (fun _ s' => SameBut ⟨pod.ns, pod.name⟩ s₀ s') s := by
  apply Prog.Throughout.bind
  have hread := unreliable_isRead env (c := .getPod ⟨pod.ns, pod.name⟩) rfl s
  have hafter : SameBut ⟨pod.ns, pod.name⟩ s₀
      (unreliable env (.getPod ⟨pod.ns, pod.name⟩) s).2 := hsame.call rfl
  refine Prog.Throughout.perform (by rintro k ⟨⟩) ?_
  cases hreply : (unreliable env (.getPod ⟨pod.ns, pod.name⟩) s).1 with
  | error err =>
      dsimp only
      split
      · apply Prog.Throughout.bind
        exact Prog.Throughout.perform (by rintro k ⟨⟩) (Prog.Throughout.pure (hafter.call rfl))
      · exact Prog.Throughout.pure hafter
  | ok current =>
      dsimp only
      split
      · exact Prog.Throughout.pure hafter
      · next halive =>
          split
          · exact Prog.Throughout.pure hafter
          · obtain ⟨hp, hget, hspec⟩ := unreliable_getPod hreply
            apply Prog.Throughout.bind
            refine (throughout_deletePod hafter ?_).mono ?_
            · rw [hread, isLive, hget]
              simpa [hspec] using halive
            · intro r s' hs'
              cases r <;> exact Prog.Throughout.pure hs'

theorem throughout_reconcilePod (env : Env) (translator : PodService) (cs : Clientset)
    (hlive : isTerminalPod p = true → isLive s.1 (targetKey pool p) = true) (acc : Progress) :
    Prog.Throughout (unreliable env) MeetsLive (reconcilePod translator cs pool p acc)
      (fun _ s' => SameBut (targetKey pool p) s s') s := by
  unfold reconcilePod
  rw [translate_eq]
  apply Prog.Throughout.bind
  apply (throughout_leavesPods (uses_syncPodResources (fun _ h => h) _) s).mono
  intro synced s' hs'
  have hsame : SameBut (targetKey pool p) s s' := (SameBut.refl _ s).of_eq hs'
  cases synced with
  | error err => exact Prog.Throughout.pure hsame
  | ok u =>
      dsimp only
      split
      · next hterminal =>
          exact throughout_reportPod hsame
            (fun _ => (isLive_congr (by rw [hs'])).trans (hlive hterminal)) _
      · next halive =>
          apply Prog.Throughout.bind
          apply (throughout_ensureHostPod hsame).mono
          rintro ⟨created, deleted, err⟩ s'' hs''
          cases err with
          | none => exact throughout_reportPod hs'' (fun hterminal => absurd hterminal halive) _
          | some err =>
              rw [afterEnsure]
              split <;> exact Prog.Throughout.pure hs''

/-! ## Orphans -/

theorem throughout_deleteOrphans {desired : List String} (pods : List PodSpec)
    (hdistinct : (pods.map fun q => (⟨q.ns, q.name⟩ : ObjKey)).Nodup)
    (hlive : ∀ q ∈ pods, keyForPod q.ns q.name ∉ desired → isLive s.1 ⟨q.ns, q.name⟩ = true)
    (result : PodExecutionResult) :
    Prog.Throughout (unreliable env) MeetsLive (Prog.loop (deleteOrphan desired) pods result)
      (fun _ _ => True) s := by
  -- the pods still to come are other ones than those deleted so far
  refine (Prog.Throughout.loop
    (fun rest _ s => (rest.map fun q : PodSpec => (⟨q.ns, q.name⟩ : ObjKey)).Nodup ∧
      ∀ q ∈ rest, keyForPod q.ns q.name ∉ desired → isLive s.1 ⟨q.ns, q.name⟩ = true)
    (fun _ _ => True) ?_ pods result s ⟨hdistinct, hlive⟩).mono (fun _ _ _ => trivial)
  rintro q rest result s ⟨hdistinct, hlive⟩
  rw [List.map_cons, List.nodup_cons] at hdistinct
  have hrest := fun q' hq' => hlive q' (List.mem_cons_of_mem q hq')
  unfold deleteOrphan
  split
  · exact Prog.Throughout.pure ⟨hdistinct.2, hrest⟩
  · next hundesired =>
      apply Prog.Throughout.bind
      apply (throughout_deletePod (SameBut.refl _ s)
        (hlive q List.mem_cons_self hundesired)).mono
      intro r s' hs'
      cases r with
      | error err => exact Prog.Throughout.pure trivial
      | ok u =>
          refine Prog.Throughout.pure ⟨hdistinct.2, ?_⟩
          intro q' hq' hundesired'
          rw [isLive_congr (hs' _ ?_)]
          · exact hrest q' hq' hundesired'
          · intro heq
            exact hdistinct.1 (heq ▸ List.mem_map_of_mem hq')

theorem throughout_cleanupOrphans {acc : Progress}
    (hlive : ∀ hp ∈ s.1.hostPods.items, Orphan pool acc.desired hp → hp.spec.deleting = false) :
    Prog.Throughout (unreliable env) MeetsLive (cleanupOrphans pool acc) (fun _ _ => True) s := by
  apply Prog.Throughout.bind
  have hread := unreliable_isRead env
    (c := .listPodsByLabels pool.ns (ownerLabels pool.name)) rfl s
  refine Prog.Throughout.perform (by rintro k ⟨⟩) ?_
  cases hreply : (unreliable env (.listPodsByLabels pool.ns (ownerLabels pool.name)) s).1 with
  | error err => exact Prog.Throughout.pure trivial
  | ok pods =>
      have hlisted := unreliable_port_ok rfl hreply
      simp only [handle, Except.ok.injEq] at hlisted
      subst hlisted
      apply Prog.Throughout.bind
      refine (throughout_deleteOrphans _ ?_ ?_ acc.result).mono ?_
      · rw [List.map_map]
        exact (s.1.hostPods.nodup).sublist ((List.filter_sublist).map _)
      · intro q hq hundesired
        obtain ⟨hp, hhp, rfl⟩ := List.mem_map.mp hq
        obtain ⟨hmem, hns, howned⟩ := mem_podsByLabels.mp hhp
        have halive := hlive hp hmem ⟨hns, howned, hundesired⟩
        rw [hread, isLive, show s.1.hostPods.get ⟨hp.spec.ns, hp.spec.name⟩ = some hp from
          Store.get_of_mem hmem]
        simp [halive]
      · intro r s' _
        cases r <;> exact Prog.Throughout.pure trivial

/-! ## The pass -/

/-- No finished source pod is without a live host pod of its own, and no orphan is on its
way out. -/
structure DeletesLive (pool : VNodePool) (sources : List CorePod) (w : Cluster) : Prop where
  finished : ∀ p ∈ sources, isTerminalPod p = true → isLive w (targetKey pool p) = true
  ownName : sources.Pairwise fun q p =>
    isTerminalPod p = true → targetKey pool q ≠ targetKey pool p
  orphans : ∀ hp ∈ w.hostPods.items,
    Orphan pool (sources.map fun p => keyForPod pool.ns (targetKey pool p).name) hp →
    hp.spec.deleting = false

/-- What the loop over the source pods keeps: the host pods that the ones done so far do not
stand for are as they were, and those they stand for are marked as desired. -/
structure Processed (pool : VNodePool) (w : Cluster) (done : List CorePod)
    (desired : List String) (w' : Cluster) : Prop where
  others : ∀ k, (∀ q ∈ done, targetKey pool q ≠ k) → w'.hostPods.get k = w.hostPods.get k
  marked : ∀ q ∈ done, keyForPod pool.ns (targetKey pool q).name ∈ desired

theorem Processed.step {done : List CorePod} {desired : List String}
    {s' : Cluster × FaultPlan Err} (h : Processed pool w done desired s.1)
    (hsame : SameBut (targetKey pool p) s s') :
    Processed pool w (done ++ [p]) (keyForPod pool.ns (targetKey pool p).name :: desired)
      s'.1 where
  others k hk := by
    have hne : k ≠ targetKey pool p := fun heq => hk p (by simp) heq.symm
    rw [hsame k hne]
    exact h.others k fun q hq => hk q (List.mem_append_left _ hq)
  marked q hq := by
    rcases List.mem_append.mp hq with hq | hq
    · exact List.mem_cons_of_mem _ (h.marked q hq)
    · rw [List.mem_singleton.mp hq]
      exact List.mem_cons_self

/-- The host pod of a finished source pod is still alive when its turn comes. -/
theorem DeletesLive.next {done rest : List CorePod} {desired : List String}
    (h : DeletesLive pool (done ++ p :: rest) w) {w' : Cluster}
    (hdone : Processed pool w done desired w') (hterminal : isTerminalPod p = true) :
    isLive w' (targetKey pool p) = true := by
  rw [isLive_congr (hdone.others _ ?_)]
  · exact h.finished p (by simp) hterminal
  · intro q hq
    exact (List.pairwise_append.mp h.ownName).2.2 q hq p List.mem_cons_self hterminal

theorem DeletesLive.orphan {sources : List CorePod} {desired : List String}
    (h : DeletesLive pool sources w) {w' : Cluster} (hdone : Processed pool w sources desired w')
    {hp : HostPod} (hmem : hp ∈ w'.hostPods.items) (horphan : Orphan pool desired hp) :
    hp.spec.deleting = false := by
  have hget : w'.hostPods.get hp.key = some hp := Store.get_of_mem hmem
  have hnone : ∀ q ∈ sources, targetKey pool q ≠ hp.key := by
    intro q hq heq
    apply horphan.2.2
    have hmarked := hdone.marked q hq
    rw [heq, show pool.ns = hp.spec.ns from congrArg ObjKey.ns heq] at hmarked
    exact hmarked
  rw [hdone.others _ hnone] at hget
  refine h.orphans hp (Store.mem_of_get hget) ⟨horphan.1, horphan.2.1, ?_⟩
  intro hmarked
  obtain ⟨q, hq, hkey⟩ := List.mem_map.mp hmarked
  exact horphan.2.2 (hkey ▸ hdone.marked q hq)

theorem throughout_reconcilePods {sources : List CorePod} (h : DeletesLive pool sources s.1) :
    Prog.Throughout (unreliable env) MeetsLive (reconcilePods translator cs pool sources)
      (fun _ _ => True) s := by
  apply Prog.Throughout.bind
  refine (Prog.Throughout.loop
    (fun rest (acc : Progress) s' => ∃ done, sources = done ++ rest ∧
      Processed pool s.1 done acc.desired s'.1) (fun _ _ => True) ?_ sources _ s
    ⟨[], rfl, fun _ _ => rfl, by simp⟩).mono ?_
  · rintro p rest acc s' ⟨done, hsources, hdone⟩
    have hnext : isTerminalPod p = true → isLive s'.1 (targetKey pool p) = true := by
      rw [hsources] at h
      exact h.next hdone
    obtain ⟨hevents, hsame⟩ := throughout_reconcilePod env translator cs hnext acc
    have hdesires := (returns_reconcilePod translator cs pool p acc).run (unreliable env) s'
    refine ⟨hevents, ?_⟩
    cases hr : ((reconcilePod translator cs pool p acc).run (unreliable env) s').1 with
    | exit outcome => trivial
    | next acc' =>
        rw [hr] at hdesires
        have hacc : acc'.desired = _ := hdesires
        refine ⟨done ++ [p], by rw [hsources, List.append_assoc]; rfl, ?_⟩
        rw [hacc]
        exact hdone.step hsame
  · intro r s' hr
    cases r with
    | exit outcome => exact Prog.Throughout.pure trivial
    | next acc =>
        obtain ⟨done, hsources, hdone⟩ := hr
        rw [List.append_nil] at hsources
        rw [← hsources] at hdone
        exact throughout_cleanupOrphans fun hp hmem horphan => h.orphan hdone hmem horphan

theorem throughout_listTenantPodsForNodes (ready : List String)
    (s : Cluster × FaultPlan Err) :
    Prog.Throughout (unreliable env) MeetsLive (listTenantPodsForNodes cs ready)
      (fun r s' => s'.1 = s.1 ∧ ∀ sources, r = .ok sources →
        sources = (s.1.tenants cs).pods.items.filter (isSourcePod ready)) s := by
  unfold listTenantPodsForNodes
  split
  · next hready =>
      refine Prog.Throughout.pure ⟨rfl, ?_⟩
      rintro sources ⟨⟩
      simp [isSourcePod, List.eq_nil_of_length_eq_zero hready]
  · apply Prog.Throughout.bind
    have hread := unreliable_isRead env (c := .listTenantPods cs) rfl s
    refine Prog.Throughout.perform (by rintro k ⟨⟩) ?_
    cases hreply : (unreliable env (.listTenantPods cs) s).1 with
    | error err =>
        refine Prog.Throughout.pure ⟨hread, ?_⟩
        rintro sources ⟨⟩
    | ok pods =>
        have hpods := unreliable_port_ok rfl hreply
        simp only [handle, Except.ok.injEq] at hpods
        refine Prog.Throughout.pure ⟨hread, ?_⟩
        rintro sources ⟨⟩
        rw [hpods]

/-- Every deletion of the pass meets a live pod, whichever requests fail. -/
theorem deletions_meet_live (translator : PodService)
    (h : ∀ cs, env.connect pool.tenantRef = .ok cs →
      DeletesLive pool (sourcePods env s.1 cs pool) s.1) :
    ∀ e ∈ (reconcilePool translator pool).events (unreliable env) s, MeetsLive e := by
  suffices hwalk : Prog.Throughout (unreliable env) MeetsLive (reconcilePool translator pool)
      (fun _ _ => True) s from hwalk.1
  apply Prog.Throughout.bind
  refine Prog.Throughout.perform (by rintro k ⟨⟩) ?_
  have hclient := unreliable_isRead env (c := .tenantClient pool.tenantRef) rfl s
  cases hcs : (unreliable env (.tenantClient pool.tenantRef) s).1 with
  | error err => exact Prog.Throughout.pure trivial
  | ok cs =>
      have hconnect : env.connect pool.tenantRef = .ok cs := unreliable_port_ok rfl hcs
      generalize (unreliable env (.tenantClient pool.tenantRef) s).2 = s₁ at hclient
      apply Prog.Throughout.bind
      refine Prog.Throughout.perform (by rintro k ⟨⟩) ?_
      have hlist := unreliable_isRead env (c := .listByPool pool.ns pool.name) rfl s₁
      cases hnodes : (unreliable env (.listByPool pool.ns pool.name) s₁).1 with
      | error err => exact Prog.Throughout.pure trivial
      | ok nodes =>
          obtain rfl := unreliable_listByPool hnodes
          generalize (unreliable env (.listByPool pool.ns pool.name) s₁).2 = s₂ at hlist
          apply Prog.Throughout.bind
          apply (throughout_listTenantPodsForNodes _ s₂).mono
          rintro listed s₃ ⟨hsame, hsources⟩
          cases listed with
          | error err => exact Prog.Throughout.pure trivial
          | ok sources =>
              have hstate : s₃.1 = s.1 := hsame.trans (hlist.trans hclient)
              apply throughout_reconcilePods
              rw [hsources sources rfl, hstate, hlist, hclient]
              exact h cs hconnect

end VNodeOperator.Pass
