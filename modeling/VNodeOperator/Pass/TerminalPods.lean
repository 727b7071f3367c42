import VNodeOperator.Pass.Rule
import VNodeOperator.Service.NodeService

/-!
# Finished tenant pods

A pass mirrors the status of the host pod to a finished source pod before it
deletes that host pod.  A source pod that the tenant itself has failed while its
host pod runs on is thereby revived, and gets a new host pod in the next pass.
Finished pods stay finished when their host pods have finished, too.
-/

namespace VNodeOperator.Pass

open Model Kube Adapter Ports ProofSupport Service NodeService PodExecution

/-- The tenant pod with the given key and uid, if it is still there, has
finished. -/
def TerminalAt (cs : Clientset) (k : ObjKey) (uid : String) (w : Cluster) : Prop :=
  ∀ p, (w.tenants cs).pods.get k = some p → p.uid = uid → isTerminalPod p = true

def HostTerminal (k : ObjKey) (w : Cluster) : Prop :=
  ∀ hp, w.hostPods.get k = some hp → isTerminalPhase hp.status.phase = true

/-- If the pass handles the tenant pod, its host pod is gone or has finished,
and no unfinished source pod shares its translated name. -/
def HostAgrees (env : Env) (pool : VNodePool) (cs : Clientset) (k : ObjKey) (uid : String)
    (w : Cluster) : Prop :=
  env.connect pool.tenantRef = .ok cs → ∀ p ∈ sourcePods env w cs pool, p.key = k →
    p.uid = uid → HostTerminal (targetKey pool p) w ∧
      ∀ q ∈ sourcePods env w cs pool, targetKey pool q = targetKey pool p →
        isTerminalPod q = true

def KeepsTerminal (env : Env) (pool : VNodePool) (cs : Clientset) (k : ObjKey) (uid : String)
    (w : Cluster) : Call → Prop
  | .updateTenantPod cs' pod =>
      cs' = cs → pod.key = k → pod.uid = uid → isTerminalPod pod = true
  | .createPod pod =>
      env.connect pool.tenantRef = .ok cs →
        (∃ p, (w.tenants cs).pods.get k = some p ∧ p.uid = uid) →
        ¬ (pod.labels.lookup labelSourcePodNS = some k.ns ∧
          pod.labels.lookup labelSourcePodName = some k.name)
  | _ => True

/-! ## Changes of the clusters -/

section

variable {env : Env} {translator : PodService} {cs : Clientset} {pool : VNodePool}
  {k : ObjKey} {uid : String} {q : CorePod} {w w' : Cluster}

theorem TerminalAt.of_tenants (h : TerminalAt cs k uid w) (htenants : w'.tenants = w.tenants) :
    TerminalAt cs k uid w' := by
  intro p hp
  rw [htenants] at hp
  exact h p hp

theorem get_putTenantPod (w : Cluster) (cs : Clientset) (pod : CorePod) (k : ObjKey) :
    ((w.putTenantPod cs pod).tenants cs).pods.get k =
      if pod.key = k then some pod else (w.tenants cs).pods.get k := by
  simp only [Cluster.putTenantPod, Cluster.setTenant, Function.update_self]
  exact Store.get_put _ _ _

theorem tenants_putTenantPod_ne {cs cs' : Clientset} (hcs : cs ≠ cs') (pod : CorePod) :
    (w.putTenantPod cs' pod).tenants cs = w.tenants cs := by
  simp only [Cluster.putTenantPod, Cluster.setTenant, Function.update_of_ne hcs]

theorem HostTerminal.removePod {key : ObjKey} (h : HostTerminal k w) :
    HostTerminal k (w.removePod env key) := by
  intro hp hget
  unfold Cluster.removePod at hget
  split at hget
  · exact h hp hget
  · next old hold =>
      split at hget
      · exact h hp hget
      · split at hget
        · have hkey := Store.key_of_get hold
          rw [Store.get_put] at hget
          split at hget
          · next hsame =>
              rw [Option.some.injEq] at hget
              have hk : key = k := hkey.symm.trans hsame
              rw [← hget]
              exact h old (hk ▸ hold)
          · exact h hp hget
        · rw [Store.get_erase] at hget
          split at hget
          · cases hget
          · exact h hp hget

/-! ## One pass -/

/-- What the loop keeps, from `w₀` on, of the tenant the pass works for: the
source pods to come are those of `w₀`, with their uids, and where one of them is
the finished pod its host pod has finished, too. -/
structure Agreement (pool : VNodePool) (cs : Clientset) (k : ObjKey) (uid : String)
    (w₀ : Cluster) (rest : List CorePod) (w : Cluster) : Prop where
  listed : ∀ q ∈ rest, (w₀.tenants cs).pods.get q.key = some q
  uids : ∀ q ∈ rest, ∀ old, (w.tenants cs).pods.get q.key = some old → old.uid = q.uid
  finished : ∀ q ∈ rest, q.key = k → q.uid = uid →
    HostTerminal (targetKey pool q) w ∧
      ∀ r ∈ rest, targetKey pool r = targetKey pool q → isTerminalPod r = true

theorem Agreement.call (env : Env) {w₀ : Cluster} {rest : List CorePod}
    (hI : Agreement pool cs k uid w₀ (q :: rest) w) (c : Call)
    (hc : PodCall translator cs pool q w c) : KeepsTerminal env pool cs k uid w₀ c := by
  have hq : q ∈ q :: rest := List.mem_cons_self
  cases c with
  | updateTenantPod cs' pod =>
      obtain ⟨rfl, old, status, hold, hmirrors, rfl⟩ := hc
      intro _ hkey huid
      have holdkey : old.key = q.key := Store.key_of_get hold
      have hsame : old.uid = q.uid := hI.uids q hq old hold
      obtain ⟨hhost, hterminal⟩ := hI.finished q hq (holdkey.symm.trans hkey)
        (hsame.symm.trans huid)
      rcases hmirrors with ⟨hp, hget, rfl⟩ | ⟨hlive, _⟩
      · exact hhost hp hget
      · rw [hterminal q hq rfl] at hlive
        cases hlive
  | createPod pod =>
      obtain ⟨hlive, rfl⟩ := hc
      rintro _ ⟨p, hp, huid⟩ ⟨hns, hname⟩
      rw [lookup_sourcePodNS, Option.some.injEq] at hns
      rw [lookup_sourcePodName, Option.some.injEq] at hname
      have hkey : q.key = k := by rw [CorePod.key, hns, hname]
      have hsame := hI.listed q hq
      rw [hkey, hp, Option.some.injEq] at hsame
      rw [hsame] at huid
      rw [(hI.finished q hq hkey huid).2 q hq rfl] at hlive
      cases hlive
  | _ => trivial

theorem HostTerminal.podStep {key : ObjKey} (h : HostTerminal key w)
    (hfree : targetKey pool q = key → isTerminalPod q = true)
    (hstep : PodStep env translator cs pool q w w') : HostTerminal key w' := by
  rcases hstep.hostPods with hsame | ⟨hlive, hnone, shown, hshown, hadded⟩ | ⟨_, hremoved⟩
  · unfold HostTerminal
    rw [hsame]
    exact h
  · have hne : targetKey pool q ≠ key := by
      intro heq
      rw [hfree heq] at hlive
      cases hlive
    intro hp hget
    rw [hstep.get_hostPods_ne hne] at hget
    exact h hp hget
  · unfold HostTerminal
    rw [hremoved]
    exact h.removePod

theorem Agreement.step {w₀ : Cluster} {rest : List CorePod}
    (hI : Agreement pool cs k uid w₀ (q :: rest) w)
    (hstep : PodStep env translator cs pool q w w') : Agreement pool cs k uid w₀ rest w' := by
  have htail : ∀ r ∈ rest, r ∈ q :: rest := fun r hr => List.mem_cons_of_mem q hr
  refine ⟨fun r hr => hI.listed r (htail r hr), ?_, ?_⟩
  · intro r hr old hold
    rcases hstep.tenants with hsame | ⟨before, status, hbefore, _, hput⟩
    · rw [hsame] at hold
      exact hI.uids r (htail r hr) old hold
    · rw [hput, get_putTenantPod] at hold
      split at hold
      · next hkey =>
          have hbeforekey : before.key = r.key := hkey
          rw [Store.key_of_get hbefore] at hbeforekey
          rw [hbeforekey] at hbefore
          rw [Option.some.injEq] at hold
          rw [← hold]
          exact hI.uids r (htail r hr) before hbefore
      · exact hI.uids r (htail r hr) old hold
  · intro r hr hkey huid
    obtain ⟨hhost, hterminal⟩ := hI.finished r (htail r hr) hkey huid
    exact ⟨hhost.podStep (hterminal q List.mem_cons_self) hstep,
      fun r' hr' => hterminal r' (htail r' hr')⟩

theorem TerminalAt.podStep {cs' : Clientset} (h : TerminalAt cs k uid w)
    (hcalls : ∀ old status, PodCall translator cs' pool q w
      (.updateTenantPod cs' (withPodStatus old status)) → cs' = cs → old.key = k →
      old.uid = uid → isTerminalPod (withPodStatus old status) = true)
    (hstep : PodStep env translator cs' pool q w w') : TerminalAt cs k uid w' := by
  rcases hstep.tenants with hsame | ⟨old, status, hold, hmirrors, hput⟩
  · exact h.of_tenants hsame
  · intro p hp huid
    rw [hput] at hp
    by_cases hcs : cs = cs'
    · subst hcs
      rw [get_putTenantPod] at hp
      split at hp
      · next hkey =>
          rw [Option.some.injEq] at hp
          subst hp
          exact hcalls old status ⟨rfl, old, status, hold, hmirrors, rfl⟩ rfl hkey huid
      · exact h p hp huid
    · rw [tenants_putTenantPod_ne hcs] at hp
      exact h p hp huid

theorem robust_keepsTerminal (translator : PodService) (hterminal : TerminalAt cs k uid w)
    (hagrees : HostAgrees env pool cs k uid w) :
    Robust (handle env) (KeepsTerminal env pool cs k uid w) (reconcilePool translator pool)
      (fun _ w' => TerminalAt cs k uid w') w := by
  refine robust_reconcilePool
    (fun rest _ w' => TerminalAt cs k uid w' ∧
      (env.connect pool.tenantRef = .ok cs → Agreement pool cs k uid w rest w'))
    (TerminalAt cs k uid) ?_ hterminal (fun _ _ _ h => h.1) ?_ ?_ ?_
  · intro c hc
    cases c <;> trivial
  · intro cs' hcs'
    refine ⟨hterminal, ?_⟩
    intro hcs
    have hsame : cs' = cs := Except.ok.inj (hcs'.symm.trans hcs)
    subst hsame
    refine ⟨fun q hq => get_sourcePod hq, ?_, fun q hq hkey huid => hagrees hcs q hq hkey huid⟩
    intro q hq old hold
    rw [get_sourcePod hq, Option.some.injEq] at hold
    rw [hold]
  · intro cs' hcs' q rest desired w' ⟨hterminal', hagreement⟩
    by_cases hcs : cs' = cs
    · subst hcs
      have hI := hagreement hcs'
      refine ⟨hI.call env, ?_⟩
      intro w'' hstep
      refine ⟨hterminal'.podStep ?_ hstep, fun _ => hI.step hstep⟩
      intro old status hcall hcs'' hkey huid
      exact hI.call env _ hcall hcs'' hkey huid
    · -- the pass works for another tenant
      have hother : env.connect pool.tenantRef ≠ .ok cs := by
        rw [hcs']
        intro heq
        exact hcs (Except.ok.inj heq)
      refine ⟨?_, ?_⟩
      · intro c hc
        cases c with
        | updateTenantPod cs'' pod =>
            intro hcs''
            exact absurd (hc.1.symm.trans hcs'') hcs
        | createPod pod => exact fun h => absurd h hother
        | _ => trivial
      · intro w'' hstep
        exact ⟨hterminal'.podStep (fun _ _ _ heq => absurd heq hcs) hstep,
          fun h => absurd h hother⟩
  · intro desired w' ⟨hterminal', _⟩
    refine ⟨TerminalAt cs k uid, hterminal', fun _ h => h, ?_⟩
    intro hp _ _
    refine ⟨trivial, ?_⟩
    intro w'' h
    apply h.of_tenants
    rw [Cluster.removePod_eq]

end

/-! ## Runs of passes -/

/-- The states reached by passes and by whatever else happens in the clusters.
Each pass meets `HostAgrees`; nothing else revives the pod. -/
inductive ReachedWith (cs : Clientset) (k : ObjKey) (uid : String) (w₀ : Cluster) :
    Cluster → Prop
  | start : ReachedWith cs k uid w₀ w₀
  | pass {w : Cluster} (h : ReachedWith cs k uid w₀ w) (x : PassRun)
      (hagrees : HostAgrees x.env x.pool cs k uid w) : ReachedWith cs k uid w₀ (x.after w)
  | other {w w' : Cluster} (h : ReachedWith cs k uid w₀ w)
      (hkeeps : TerminalAt cs k uid w → TerminalAt cs k uid w') : ReachedWith cs k uid w₀ w'

theorem terminalAt_of_reached {cs : Clientset} {k : ObjKey} {uid : String} {w₀ w : Cluster}
    (hreach : ReachedWith cs k uid w₀ w) (hstart : TerminalAt cs k uid w₀) :
    TerminalAt cs k uid w := by
  induction hreach with
  | start => exact hstart
  | pass _ x hagrees ih => exact (robust_keepsTerminal x.translator ih hagrees x.plan).2
  | other _ hkeeps ih => exact hkeeps ih

/-- In a run whose passes find the host pod of a finished tenant pod gone or
finished, no pass revives that pod or creates a host pod for it. -/
theorem terminal_pods_stay_terminal (cs : Clientset) (p : CorePod) (w₀ w : Cluster)
    (hp : (w₀.tenants cs).pods.get p.key = some p) (hterminal : isTerminalPod p = true)
    (hreach : ReachedWith cs p.key p.uid w₀ w) (x : PassRun)
    (hagrees : HostAgrees x.env x.pool cs p.key p.uid w) :
    ∀ c ∈ x.calls w, KeepsTerminal x.env x.pool cs p.key p.uid w c := by
  have hstart : TerminalAt cs p.key p.uid w₀ := by
    intro q hq _
    rw [hp, Option.some.injEq] at hq
    rw [← hq]
    exact hterminal
  have hnow := terminalAt_of_reached hreach hstart
  exact (robust_keepsTerminal x.translator hnow hagrees x.plan).1

/-! ### A finished pod, and one that is revived -/

def evictedPod : CorePod where
  name := "shop"
  ns := "prod"
  uid := "1"
  nodeName := "vnode-web-1"
  status := { phase := .failed }

def shopPass : PassRun := ⟨Env.plain, ⟨"kata"⟩, acmePool 1, fun _ => none⟩

def evictedCluster : Cluster :=
  acmeCluster { pods := Store.empty.put evictedPod }

def runningCluster : Cluster :=
  { evictedCluster with
    hostPods := Store.empty.put
      ⟨targetPod shopPass.translator (acmePool 1) evictedPod, { phase := .running }⟩ }

def failedCluster : Cluster :=
  { evictedCluster with
    hostPods := Store.empty.put
      ⟨targetPod shopPass.translator (acmePool 1) evictedPod, { phase := .failed }⟩ }

theorem evictedPod_stays_terminal :
    Call.deletePod (targetKey (acmePool 1) evictedPod) ∈ shopPass.calls failedCluster ∧
      ∀ c ∈ shopPass.calls failedCluster,
        KeepsTerminal Env.plain (acmePool 1) ⟨"acme"⟩ evictedPod.key "1" failedCluster c := by
  have hagrees : HostAgrees Env.plain (acmePool 1) ⟨"acme"⟩ evictedPod.key "1" failedCluster := by
    have hsources : ∀ q ∈ sourcePods Env.plain failedCluster ⟨"acme"⟩ (acmePool 1),
        isTerminalPod q = true := by decide
    have hhost : ∀ hp ∈ failedCluster.hostPods.items,
        isTerminalPhase hp.status.phase = true := by decide
    intro _ p _ _ _
    exact ⟨fun hp hget => hhost hp (Store.mem_of_get hget), fun q hq _ => hsources q hq⟩
  exact ⟨by decide, terminal_pods_stay_terminal ⟨"acme"⟩ evictedPod failedCluster failedCluster
    (by decide) rfl .start shopPass hagrees⟩

/-- One pass writes `Running` to the evicted pod; the next one creates a host pod
for it. -/
theorem evictedPod_revived :
    (runningCluster.tenants ⟨"acme"⟩).pods.get evictedPod.key = some evictedPod ∧
      isTerminalPod evictedPod = true ∧
      (∃ pod, Call.updateTenantPod ⟨"acme"⟩ pod ∈ shopPass.calls runningCluster ∧
        pod.key = evictedPod.key ∧ pod.uid = evictedPod.uid ∧ isTerminalPod pod = false) ∧
      Call.createPod (targetPod shopPass.translator (acmePool 1) evictedPod) ∈
        shopPass.calls (shopPass.after runningCluster) := by
  refine ⟨by decide, rfl, ⟨withPodStatus evictedPod { phase := .running }, ?_⟩, by decide⟩
  decide

end VNodeOperator.Pass
