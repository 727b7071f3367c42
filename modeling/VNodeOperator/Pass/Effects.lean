import VNodeOperator.Pass.Deletions

/-!
# Counters and effects

What the host makes of the creations and deletions that a pass counts: deleting a
pod that is gone, or on its way out already, succeeds as well, and a response
that is lost hides what was done.  Where no response is lost, the counters are right
exactly when every deletion that succeeds meets a live pod.
-/

namespace VNodeOperator.Pass

open Model Kube Ports ProofSupport Service PodExecution

variable {c : Call}

def liveCount (w : Cluster) : Nat := w.hostPods.items.countP fun p => !p.spec.deleting

def stores (w w' : Cluster) : Call → Bool
  | .createPod pod =>
      (w.hostPods.get ⟨pod.ns, pod.name⟩).isNone && (w'.hostPods.get ⟨pod.ns, pod.name⟩).isSome
  | _ => false

def removes (w w' : Cluster) : Call → Bool
  | .deletePod k => isLive w k && !isLive w' k
  | _ => false

section

open Nodes (unreliable run_apiRequests_withFaults)

variable {env : Env} {w : Cluster} {s : Cluster × FaultPlan Err}

theorem isLive_removePod (k : ObjKey) : isLive (w.removePod env k) k = false := by
  unfold isLive
  split
  · next p hp => rw [Cluster.deleting_of_get_removePod env hp, Bool.not_true]
  · rfl

theorem liveCount_removePod (k : ObjKey) :
    liveCount (w.removePod env k) + (isLive w k).toNat = liveCount w := by
  cases hget : w.hostPods.get k with
  | none => simp [Cluster.removePod, isLive, hget]
  | some p =>
      cases hdeleting : p.spec.deleting with
      | true => simp [Cluster.removePod, isLive, hget, hdeleting]
      | false =>
          have hlive : (isLive w k).toNat = 1 := by
            simp [isLive, hget, hdeleting]
          rw [hlive]
          unfold Cluster.removePod liveCount
          simp only [hget, hdeleting, Bool.false_eq_true, if_false]
          split
          · let marked : HostPod := { p with spec := { p.spec with deleting := true } }
            have hmarked : w.hostPods.get marked.key = some p := by
              rw [← hget, ← (Store.key_of_get hget : p.key = k)]
              rfl
            have hcount := Store.countP_put_add (fun p : HostPod => !p.spec.deleting) hmarked
            simpa [marked, hdeleting] using hcount
          · have hcount := Store.countP_erase_add (fun p : HostPod => !p.spec.deleting) hget
            simpa [hdeleting] using hcount

theorem stores_addPod {pod shown : PodSpec} (hstore : env.storePod pod = .ok shown)
    (hfree : w.hostPods.get ⟨pod.ns, pod.name⟩ = none) :
    stores w (w.addPod shown) (.createPod pod) = true := by
  obtain ⟨hns, hname⟩ := env.storePod_key pod shown hstore
  have hget : (w.addPod shown).hostPods.get ⟨pod.ns, pod.name⟩ =
      some ⟨shown, { phase := .pending }⟩ := by
    rw [← hns, ← hname]
    exact Store.get_put_self w.hostPods _
  rw [stores, hfree, hget]
  rfl

theorem liveCount_addPod {shown : PodSpec} (hfree : w.hostPods.get ⟨shown.ns, shown.name⟩ = none) :
    liveCount (w.addPod shown) ≤ liveCount w + 1 := by
  have hcount := Store.countP_put_of_none (a := (⟨shown, { phase := .pending }⟩ : HostPod))
    (fun p : HostPod => !p.spec.deleting) hfree
  unfold liveCount
  rw [Cluster.addPod, hcount]
  split <;> omega

theorem leavesPods_of_uncounted (hc : onPods c = true) (huncounted : Uncounted c) :
    leavesPods c = true := by
  cases c with
  | createPod pod => cases huncounted.1
  | deletePod k => cases huncounted.2
  | _ => exact hc

/-- The live pods after a call, and those it sent on their way, were there before it or were
stored by it. -/
theorem liveCount_unreliable (env : Env) (s : Cluster × FaultPlan Err) (hc : onPods c = true) :
    liveCount (unreliable env c s).2.1 + (removes s.1 (unreliable env c s).2.1 c).toNat ≤
      liveCount s.1 + (stores s.1 (unreliable env c s).2.1 c).toNat := by
  cases c with
  | createPod pod =>
      rcases unreliable_createPod env s pod with hsame | ⟨hfree, shown, hstore, hadd⟩
      · rw [hsame]
        exact Nat.le_add_right _ _
      · obtain ⟨hns, hname⟩ := env.storePod_key pod shown hstore
        rw [hadd, stores_addPod hstore hfree]
        exact liveCount_addPod (by rw [hns, hname]; exact hfree)
  | deletePod k =>
      rcases unreliable_deletePod env s k with hsame | hremoved
      · rw [hsame, removes, Bool.and_not_self]
        exact Nat.le_add_right _ _
      · rw [hremoved, removes, isLive_removePod, Bool.not_false, Bool.and_true,
          liveCount_removePod]
        exact Nat.le_add_right _ _
  | _ =>
      have hsame := hostPods_unreliable env s (leavesPods_of_uncounted hc ⟨rfl, rfl⟩)
      rw [liveCount, hsame]
      exact Nat.le_refl _

/-! ## Counters and effects -/

def stored (env : Env) (e : Event Call (Cluster × FaultPlan Err)) : Bool :=
  stores e.before.1 (e.after (unreliable env)).1 e.call

def removed (env : Env) (e : Event Call (Cluster × FaultPlan Err)) : Bool :=
  removes e.before.1 (e.after (unreliable env)).1 e.call

theorem liveCount_run (env : Env) {α : Type} {p : Svc α}
    (hp : Prog.Uses (fun c => onPods c = true) p) (s : Cluster × FaultPlan Err) :
    liveCount (p.run (unreliable env) s).2.1 +
        (p.events (unreliable env) s).countP (removed env) ≤
      liveCount s.1 + (p.events (unreliable env) s).countP (stored env) := by
  induction p generalizing s with
  | ret a => exact Nat.le_refl _
  | call c k ih =>
      have hstep := liveCount_unreliable env s hp.1
      have hrest := ih (unreliable env c s).1 (hp.2 _) (unreliable env c s).2
      have hone : ∀ b : Bool, (if b = true then 1 else 0) = b.toNat := by decide
      rw [Prog.run, Prog.events, List.countP_cons, List.countP_cons, hone, hone, removed, stored]
      change _ + (_ + (removes s.1 (unreliable env c s).2.1 c).toNat) ≤
        _ + (_ + (stores s.1 (unreliable env c s).2.1 c).toNat)
      omega

theorem stored_of_created {e : Event Call (Cluster × FaultPlan Err)}
    (he : created (unreliable env) e = true) : stored env e = true := by
  obtain ⟨c, w, plan⟩ := e
  obtain ⟨hcall, hok⟩ := Bool.and_eq_true_iff.mp he
  cases c with
  | createPod pod =>
      change (withFaults (serve env) (.port (.createPod pod)) (w, plan)).1.isOk = true at hok
      change stores w (withFaults (serve env) (.port (.createPod pod)) (w, plan)).2.1 _ = true
      cases hplan : plan 0 with
      | some f =>
          rw [withFaults_of_some _ _ _ hplan] at hok
          cases hok
      | none =>
          rw [withFaults_of_none _ _ _ hplan] at hok ⊢
          change (handle env (.createPod pod) w).1.isOk = true at hok
          change stores w (handle env (.createPod pod) w).2 _ = true
          rcases handle_createPod_cases env w pod with
            ⟨err, hsame⟩ | ⟨hfree, shown, hstore, hadd⟩
          · rw [hsame] at hok
            cases hok
          · rw [hadd]
            exact stores_addPod hstore hfree
  | _ => cases hcall

/-! ## Honest replies -/

/-- A request that fails has no effect, and is not answered as if its object were missing. -/
def Honest (plan : FaultPlan Err) : Prop :=
  ∀ n f, plan n = some f → f.applied = false ∧ f.err.isNotFound = false

theorem Honest.unreliable (hs : Honest s.2) (c : Call) : Honest (unreliable env c s).2.2 :=
  plan_run (P := fun o => ∀ f : Fault Err, o = some f → f.applied = false ∧
    f.err.isNotFound = false) _ (requests env c) hs

theorem honest_events {α : Type} (p : Svc α) (hs : Honest s.2) :
    ∀ e ∈ p.events (unreliable env) s, Honest e.before.2 :=
  (Prog.Uses.always p).events (I := fun s => Honest s.2)
    (fun c _ _ hs => ⟨hs.unreliable c, hs⟩) hs

theorem created_of_stored {e : Event Call (Cluster × FaultPlan Err)} (hhonest : Honest e.before.2)
    (he : stored env e = true) : created (unreliable env) e = true := by
  obtain ⟨c, w, plan⟩ := e
  have hnone : ∀ c, stores w w c = true → False := by
    intro c hc
    cases c with
    | createPod pod =>
        obtain ⟨hfree, htaken⟩ := Bool.and_eq_true_iff.mp hc
        rw [Option.isNone_iff_eq_none.mp hfree] at htaken
        cases htaken
    | _ => cases hc
  cases c with
  | createPod pod =>
      change stores w (withFaults (serve env) (.port (.createPod pod)) (w, plan)).2.1 _ = true at he
      change (withFaults (serve env) (.port (.createPod pod)) (w, plan)).1.isOk = true
      cases hplan : plan 0 with
      | some f =>
          rw [withFaults_of_some _ _ _ hplan, (hhonest 0 f hplan).1] at he
          exact (hnone _ he).elim
      | none =>
          rw [withFaults_of_none _ _ _ hplan] at he ⊢
          change stores w (handle env (.createPod pod) w).2 _ = true at he
          change (handle env (.createPod pod) w).1.isOk = true
          rcases handle_createPod_cases env w pod with ⟨err, hsame⟩ | ⟨_, shown, _, hadd⟩
          · rw [hsame] at he
            exact (hnone _ he).elim
          · rw [hadd]
            rfl
  | _ => cases he

/-- An honest deletion succeeds and does what the host does to the pod, or it fails and does
nothing. -/
theorem honest_deletePod (hs : Honest s.2) (k : ObjKey) :
    ((unreliable env (.deletePod k) s).1 = .ok () ∧
        (unreliable env (.deletePod k) s).2.1 = s.1.removePod env k) ∨
      ((unreliable env (.deletePod k) s).1.isOk = false ∧
        (unreliable env (.deletePod k) s).2.1 = s.1) := by
  obtain ⟨w, plan⟩ := s
  have hrun : unreliable env (.deletePod k) (w, plan) =
      (Adapter.PodClient.deletePod k).run (withFaults (api env)) (w, plan) :=
    run_apiRequests_withFaults _ _
  rw [hrun, Adapter.PodClient.deletePod, request, Prog.run_bind, Prog.run_perform]
  cases hplan : plan 0 with
  | none =>
      left
      rw [withFaults_of_none _ _ _ hplan]
      cases hget : w.hostPods.get k with
      | none =>
          simp only [api, Cluster.removePod, hget]
          exact ⟨rfl, rfl⟩
      | some p =>
          simp only [api, hget]
          exact ⟨rfl, rfl⟩
  | some f =>
      right
      obtain ⟨hlost, hfound⟩ := hs 0 f hplan
      rw [withFaults_of_some _ _ _ hplan, hlost]
      simp only [hfound]
      exact ⟨rfl, rfl⟩

theorem removed_iff {e : Event Call (Cluster × FaultPlan Err)} (hhonest : Honest e.before.2) :
    removed env e = true ↔ deleted (unreliable env) e = true ∧ MeetsLive e := by
  obtain ⟨c, s⟩ := e
  cases c with
  | deletePod k =>
      have hlive : MeetsLive ⟨.deletePod k, s⟩ ↔ isLive s.1 k = true :=
        ⟨fun h => h k rfl, by rintro h k' ⟨⟩; exact h⟩
      rw [hlive]
      change (isLive s.1 k && !isLive (unreliable env (.deletePod k) s).2.1 k) = true ↔
        (unreliable env (.deletePod k) s).1.isOk = true ∧ _
      rcases honest_deletePod hhonest k with ⟨hok, hafter⟩ | ⟨hfailed, hafter⟩
      · rw [hok, hafter, isLive_removePod]
        simp [Except.isOk, Except.toBool]
      · rw [hfailed, hafter]
        simp
  | _ =>
      constructor
      · rintro ⟨⟩
      · rintro ⟨h, _⟩
        cases h

theorem countP_eq_countP_iff {α : Type} (p q : α → Bool) (l : List α) :
    l.countP p = l.countP q ↔
      l.countP (fun a => p a && !q a) = l.countP (fun a => q a && !p a) := by
  have hsum : l.countP p + l.countP (fun a => q a && !p a) =
      l.countP q + l.countP (fun a => p a && !q a) := by
    induction l with
    | nil => rfl
    | cons a l ih =>
        simp only [List.countP_cons]
        cases p a <;> cases q a <;> simp <;> omega
  omega

section

variable (env : Env) (translator : PodService) (pool : VNodePool) (s : Cluster × FaultPlan Err)

def passEvents : List (Event Call (Cluster × FaultPlan Err)) :=
  (reconcilePool translator pool).events (unreliable env) s

def passResult : PodExecutionResult :=
  ((reconcilePool translator pool).run (unreliable env) s).1.1

/-- The counters are the numbers of pods stored and sent on their way. -/
structure CountersMatch : Prop where
  created : (passResult env translator pool s).createdHostPods =
    (passEvents env translator pool s).countP (stored env)
  deleted : (passResult env translator pool s).deletedHostPods =
    (passEvents env translator pool s).countP (removed env)

/-- Where the replies are honest, the counters are right exactly when the deletions that
succeed meet live pods. -/
theorem countersMatch_iff (hs : Honest s.2) :
    CountersMatch env translator pool s ↔
      ∀ e ∈ passEvents env translator pool s, deleted (unreliable env) e = true →
        MeetsLive e := by
  have hhonest : ∀ e ∈ passEvents env translator pool s, Honest e.before.2 :=
    honest_events _ hs
  have hcounts : Counts (unreliable env) (passEvents env translator pool s) {}
      (passResult env translator pool s) := counted_reconcilePool s
  have hcreated : (passResult env translator pool s).createdHostPods =
      (passEvents env translator pool s).countP (created (unreliable env)) :=
    hcounts.created.trans (Nat.zero_add _)
  have hdeleted : (passResult env translator pool s).deletedHostPods =
      (passEvents env translator pool s).countP (deleted (unreliable env)) :=
    hcounts.deleted.trans (Nat.zero_add _)
  have hcreations : (passEvents env translator pool s).countP (created (unreliable env)) =
      (passEvents env translator pool s).countP (stored env) :=
    List.countP_congr fun e he => ⟨stored_of_created, created_of_stored (hhonest e he)⟩
  constructor
  · rintro ⟨_, hd⟩ e he hgone
    have hnone : (passEvents env translator pool s).countP
        (fun e => removed env e && !deleted (unreliable env) e) = 0 := by
      rw [List.countP_eq_zero]
      intro e he hboth
      obtain ⟨hremoved, hnot⟩ := Bool.and_eq_true_iff.mp hboth
      rw [((removed_iff (hhonest e he)).mp hremoved).1] at hnot
      cases hnot
    rw [hdeleted, countP_eq_countP_iff, hnone, List.countP_eq_zero] at hd
    have hremoved : removed env e = true := by
      have hboth := hd e he
      rw [hgone, Bool.true_and] at hboth
      simpa using hboth
    exact ((removed_iff (hhonest e he)).mp hremoved).2
  · intro hlive
    refine ⟨hcreated.trans hcreations, hdeleted.trans (List.countP_congr fun e he => ?_)⟩
    rw [removed_iff (hhonest e he)]
    exact ⟨fun hgone => ⟨hgone, hlive e he hgone⟩, fun h => h.1⟩

structure Countable : Prop where
  honest : Honest s.2
  live : ∀ cs, env.connect pool.tenantRef = .ok cs →
    DeletesLive pool (sourcePods env s.1 cs pool) s.1

theorem Countable.countersMatch (h : Countable env pool s) :
    CountersMatch env translator pool s :=
  (countersMatch_iff env translator pool s h.honest).mpr fun e he _ =>
    deletions_meet_live translator h.live e he

end

/-- Passes of any pools, one after the other, whose counters add up to `c` creations and `d`
deletions.  Between passes pods may finish or change, as long as no other live pod turns up. -/
inductive PassSeries (env : Env) : Cluster → Cluster → Nat → Nat → Prop
  | start (w : Cluster) : PassSeries env w w 0 0
  | pass {w₀ w : Cluster} {c d : Nat} (hrun : PassSeries env w₀ w c d) (translator : PodService)
      (pool : VNodePool) (plan : FaultPlan Err)
      (hcountable : Countable env pool (w, plan)) :
      PassSeries env w₀ ((reconcilePool translator pool).run (unreliable env) (w, plan)).2.1
        (c + (passResult env translator pool (w, plan)).createdHostPods)
        (d + (passResult env translator pool (w, plan)).deletedHostPods)
  | outside {w₀ w w' : Cluster} {c d : Nat} (hrun : PassSeries env w₀ w c d)
      (hlive : liveCount w' ≤ liveCount w) : PassSeries env w₀ w' c d

theorem PassSeries.balance {w₀ : Cluster} {a d : Nat} (hrun : PassSeries env w₀ w a d) :
    liveCount w + d ≤ liveCount w₀ + a := by
  induction hrun with
  | start => exact Nat.le_refl _
  | @pass w c d hrun translator pool plan hcountable ih =>
      have hmatch := hcountable.countersMatch env translator pool (w, plan)
      have hpass := liveCount_run env (uses_reconcilePool translator pool) (w, plan)
      rw [hmatch.created, hmatch.deleted]
      unfold passEvents
      dsimp only at hpass
      omega
  | outside hrun hlive ih => omega

def shopCluster (phase : PodPhase) : Cluster :=
  NodeService.acmeCluster
    { pods := Store.empty.put
        { name := "shop", ns := "prod", uid := "1", nodeName := "vnode-web-1"
          status := { phase := phase } } }

/-- The tenant's pod is finished.  The host runs one for it, and another nobody asked for. -/
def crowdedCluster : Cluster :=
  { shopCluster .succeeded with
    hostPods := (Store.empty.put
      { spec := { name := "vnode-web-1-prod-shop", ns := "host", labels := ownerLabels "web" }
        status := { phase := .running } }).put
      { spec := { name := "vnode-web-1-prod-old", ns := "host", labels := ownerLabels "web" }
        status := { phase := .running } } }

theorem countable_crowdedCluster :
    Countable Env.plain (NodeService.acmePool 1) (crowdedCluster, fun _ => none) where
  honest _ _ hf := by cases hf
  live cs hcs := by
    cases hcs
    refine ⟨by decide +kernel, by decide +kernel, fun hp hmem _ => ?_⟩
    have halive : ∀ hp ∈ crowdedCluster.hostPods.items,
        hp.spec.deleting = false := by decide +kernel
    exact halive hp hmem

end

end VNodeOperator.Pass
