import VNodeOperator.Pass.Rule
import VNodeOperator.Service.NodeService

/-!
# Names of host pods

The name of a host pod joins the names of the node, the tenant namespace and the
source pod by dashes, which each of them may contain.  What stands before the name of
the source pod is its stem.  Pods of two places, a place being a node and a namespace,
are kept apart whatever they are called exactly when neither stem begins the other;
otherwise an iteration over one pod works on the host pod of the other.
-/

namespace VNodeOperator.Pass

open Model Kube Ports ProofSupport Service NodeService PodExecution

/-! ## Stems -/

def stem (vnode ns : String) : List Char := (vnode ++ "-" ++ ns ++ "-").toList

theorem toList_hostPodName (vnode ns name : String) :
    (hostPodName vnode ns name).toList = stem vnode ns ++ name.toList := by
  simp [hostPodName, stem]

def identity (p : CorePod) : String × String × String := (p.nodeName, p.ns, p.name)

/-- Neither of two stems begins the other, unless they are of one place. -/
def PrefixFree (vnode ns vnode' ns' : String) : Prop :=
  stem vnode ns <+: stem vnode' ns' ∨ stem vnode' ns' <+: stem vnode ns →
    vnode = vnode' ∧ ns = ns'

instance (vnode ns vnode' ns' : String) : Decidable (PrefixFree vnode ns vnode' ns') :=
  inferInstanceAs (Decidable (_ → _))

theorem PrefixFree.identity_eq {p q : CorePod} (h : PrefixFree p.nodeName p.ns q.nodeName q.ns)
    (hname : hostPodName p.nodeName p.ns p.name = hostPodName q.nodeName q.ns q.name) :
    identity p = identity q := by
  have hlist : stem p.nodeName p.ns ++ p.name.toList = stem q.nodeName q.ns ++ q.name.toList := by
    rw [← toList_hostPodName, ← toList_hostPodName, hname]
  have hp : stem p.nodeName p.ns <+: stem p.nodeName p.ns ++ p.name.toList :=
    List.prefix_append _ _
  have hq : stem q.nodeName q.ns <+: stem p.nodeName p.ns ++ p.name.toList := by
    rw [hlist]
    exact List.prefix_append _ _
  obtain ⟨hnode, hns⟩ := h (List.prefix_or_prefix_of_prefix hp hq)
  rw [hnode, hns] at hlist
  have hrest : p.name = q.name := String.toList_injective (List.append_cancel_left hlist)
  rw [identity, identity, hnode, hns, hrest]

/-- A stem that begins another one, and what is left of it, make a name of the other place. -/
theorem hostPodName_of_prefix {vnode ns vnode' ns' : String}
    (h : stem vnode ns <+: stem vnode' ns') (name : String) :
    ∃ longer, hostPodName vnode ns longer = hostPodName vnode' ns' name := by
  obtain ⟨rest, hrest⟩ := h
  refine ⟨String.ofList (rest ++ name.toList), String.toList_injective ?_⟩
  rw [toList_hostPodName, toList_hostPodName, String.toList_ofList, ← hrest, List.append_assoc]

/-! ## Separate host pods -/

def onHostPod (k : ObjKey) : Call → Prop
  | .getPod k' | .getPodStatus k' | .deletePod k' => k' = k
  | .createPod pod => (⟨pod.ns, pod.name⟩ : ObjKey) = k
  | _ => False

/-- The host pods of `p` and `q` have different names, an iteration over `p`
keeps off the host pod of `q`, and so does the cleanup of a pass that handles
`q`. -/
structure Separate (pool : VNodePool) (p : CorePod) (pool' : VNodePool) (q : CorePod) :
    Prop where
  names : hostPodName p.nodeName p.ns p.name ≠ hostPodName q.nodeName q.ns q.name
  iteration : ∀ (env : Env) (translator : PodService) (cs : Clientset) (acc : Progress)
    (w : Cluster) (plan : FaultPlan Err),
    ∀ c ∈ (reconcilePod translator cs pool p acc).calls (withFaults (handle env)) (w, plan),
      ¬ onHostPod (targetKey pool' q) c
  cleanup : ∀ (env : Env) (acc : Progress) (w : Cluster) (plan : FaultPlan Err),
    keyForPod pool'.ns (targetKey pool' q).name ∈ acc.desired →
    Call.deletePod (targetKey pool' q) ∉
      (cleanupOrphans pool acc).calls (withFaults (handle env)) (w, plan)

theorem PodCall.not_onHostPod {translator : PodService} {cs : Clientset} {pool : VNodePool}
    {p : CorePod} {w : Cluster} {k : ObjKey} (hk : targetKey pool p ≠ k) {c : Call}
    (hc : PodCall translator cs pool p w c) : ¬ onHostPod k c := by
  intro hon
  cases c with
  | getPod k' => exact hk (Eq.trans (Eq.symm hc) hon)
  | getPodStatus k' => exact hk (Eq.trans (Eq.symm hc) hon)
  | deletePod k' => exact hk (hc.1.symm.trans hon)
  | createPod pod =>
      rw [hc.2] at hon
      exact hk hon
  | _ => exact hon

/-- What is marked as desired is not deleted as an orphan. -/
theorem cleanupOrphans_keeps {pool : VNodePool} {k : ObjKey} {acc : Progress}
    (hdesired : keyForPod k.ns k.name ∈ acc.desired) (env : Env) (w : Cluster) :
    Robust (handle env) (fun c => c ≠ .deletePod k) (cleanupOrphans pool acc)
      (fun _ _ => True) w := by
  refine robust_cleanupOrphans (K := fun _ => True) ?_ ?_ trivial
  · intro c hc heq
    rw [heq] at hc
    cases hc
  · intro hp _ horphan
    refine ⟨?_, fun _ _ => trivial⟩
    intro heq
    have hkey : hp.key = k := by simpa using heq
    apply horphan.2.2
    rw [← hkey] at hdesired
    exact hdesired

theorem separate_of_name_ne (pool pool' : VNodePool) {p q : CorePod}
    (hname : hostPodName p.nodeName p.ns p.name ≠ hostPodName q.nodeName q.ns q.name) :
    Separate pool p pool' q := by
  have hkey : targetKey pool p ≠ targetKey pool' q :=
    fun heq => hname (congrArg ObjKey.name heq)
  refine ⟨hname, ?_, ?_⟩
  · intro env translator cs acc w plan
    have hrobust : Robust (handle env) (fun c => ¬ onHostPod (targetKey pool' q) c)
        (reconcilePod translator cs pool p acc) _ w :=
      robust_reconcilePod fun c hc => hc.not_onHostPod hkey
    exact (hrobust plan).1
  · intro env acc w plan hdesired hcall
    exact (cleanupOrphans_keeps hdesired env w plan).1 _ hcall rfl

example : PrefixFree "vnode-web-1" "prod" "vnode-web-10" "prod" := by decide

/-! ### Two pods with one name -/

def isLabel (s : String) : Bool :=
  s ≠ "" && s.toList.length ≤ 63 && s.toList.head? ≠ some '-' && s.toList.getLast? ≠ some '-' &&
    s.toList.all fun c => c.isDigit || c.isLower || c = '-'

def podA : CorePod where
  name := "b-c"
  ns := "a"
  nodeName := nodeName (acmePool 1) 1

def podAB : CorePod where
  name := "c"
  ns := "a-b"
  nodeName := nodeName (acmePool 1) 1

def namesCluster : Cluster where
  tenants _ := { pods := (Store.empty.put podA).put podAB }
  hostPods := Store.empty.put ⟨targetPod ⟨"kata"⟩ (acmePool 1) podAB, { phase := .running }⟩

end VNodeOperator.Pass
