import Mathlib.Data.Finset.Card
import Mathlib.Data.Finset.Dedup
import VNodeOperator.Nodes.Lifecycle
import VNodeOperator.ProofSupport.Events
import VNodeOperator.Service.PoolLifecycle

/-!
# Approaching the requested size

A reconcile of a pool moves the number of its nodes towards the requested one
and never past it, whatever calls fail on the way.  The nodes are added and
removed by some `NodeLifecycle`, of which only its contract is known: what a call
that succeeds does to the set of the pool's nodes, and what one that fails may do.
-/

namespace VNodeOperator.Pools

open Model Kube Adapter ProofSupport Service PoolLifecycle
open NodeRepository (keyOf)
open PoolService (Scaling Outcome)

structure SamePool (pool p : VNodePool) : Prop where
  ns : p.ns = pool.ns
  name : p.name = pool.name
  nodeCount : p.nodeCount = pool.nodeCount

def keysOf (nodes : List VNode) : Finset ObjKey := (nodes.map keyOf).toFinset

/-- What is known of a repository and a lifecycle, where `keys` are the nodes the
pool has. -/
structure Contract {σ : Type} (h : Handler LifecycleCall LifecycleCall.Reply σ)
    (keys : σ → Finset ObjKey) (pool : VNodePool) : Prop where
  list : ∀ s, keys (h (.listByPool pool.ns pool.name) s).2 = keys s
  list_ok : ∀ s nodes, (h (.listByPool pool.ns pool.name) s).1 = .ok nodes →
    (nodes.map keyOf).Nodup ∧ keysOf nodes = keys s
  provision_ok : ∀ p s, SamePool pool p → (h (.provision p) s).1.2 = none →
    keyOf (h (.provision p) s).1.1 ∉ keys s ∧
      keys (h (.provision p) s).2 = insert (keyOf (h (.provision p) s).1.1) (keys s)
  provision_error : ∀ p s err, SamePool pool p → (h (.provision p) s).1.2 = some err →
    keys (h (.provision p) s).2 = keys s ∨
      ∃ k, k ∉ keys s ∧ keys (h (.provision p) s).2 = insert k (keys s)
  deprovision_ok : ∀ node s, keyOf node ∈ keys s → (h (.deprovision node) s).1 = .ok () →
    keys (h (.deprovision node) s).2 = (keys s).erase (keyOf node)
  deprovision_error : ∀ node s err, keyOf node ∈ keys s →
    (h (.deprovision node) s).1 = .error err → keys (h (.deprovision node) s).2 = keys s

section

variable {σ : Type} (h : Handler LifecycleCall LifecycleCall.Reply σ) (keys : σ → Finset ObjKey)
  (pool : VNodePool)

def Between (a b n : Int) : Prop := min a b ≤ n ∧ n ≤ max a b

structure Grows (s₀ : σ) (e : Event LifecycleCall σ) : Prop where
  before : keys s₀ ⊆ keys e.before ∧ ((keys e.before).card : Int) ≤ pool.nodeCount
  after : keys s₀ ⊆ keys (e.after h) ∧ ((keys (e.after h)).card : Int) ≤ pool.nodeCount
  call : ∀ node, e.call ≠ .deprovision node

/-- The pool has the first `n` of the listed nodes, and no fewer than requested. -/
structure HasFirst (listed : List VNode) (n : Nat) (s : σ) : Prop where
  keys : keys s = keysOf (listed.take n)
  size : n ≤ listed.length
  enough : pool.nodeCount ≤ n

structure Shrinks (listed : List VNode) (e : Event LifecycleCall σ) : Prop where
  before : ∃ n, HasFirst keys pool listed n e.before
  after : ∃ n, HasFirst keys pool listed n (e.after h)
  removes : ∀ node, e.call = .deprovision node →
    ∃ n, listed[n]? = some node ∧ HasFirst keys pool listed (n + 1) e.before
  call : ∀ p, e.call ≠ .provision p

variable {h} {keys} {pool}

def Stopped (outcome : Outcome) (_ : σ) : Prop := outcome.2 ≠ none

/-! ## Scaling up -/

structure Missing (keys : σ → Finset ObjKey) (pool : VNodePool) (s₀ : σ) (rest : Nat)
    (sc : Scaling) (s : σ) : Prop where
  same : SamePool pool sc.pool
  kept : keys s₀ ⊆ keys s
  count : ((keys s).card : Int) + rest = pool.nodeCount

theorem throughout_scaleUpStep (hc : Contract h keys pool) {s₀ s : σ} {sc : Scaling} {rest : Nat}
    (hmissing : Missing keys pool s₀ (rest + 1) sc s) (i : Nat) :
    Prog.Throughout h (Grows h keys pool s₀) (scaleUpStep i sc)
      (fun r s' => r.elim (Missing keys pool s₀ rest · s') (Stopped · s')) s := by
  obtain ⟨hpool, hkept, hcount⟩ := hmissing
  have hevent : keys s₀ ⊆ keys (h (.provision sc.pool) s).2 →
      ((keys (h (.provision sc.pool) s).2).card : Int) ≤ (keys s).card + 1 →
      Grows h keys pool s₀ ⟨.provision sc.pool, s⟩ := by
    intro hkept' hcard
    refine ⟨⟨hkept, ?_⟩, ⟨hkept', ?_⟩, fun _ => LifecycleCall.noConfusion⟩
    · change ((keys s).card : Int) ≤ pool.nodeCount
      omega
    · change ((keys (h (.provision sc.pool) s).2).card : Int) ≤ pool.nodeCount
      omega
  cases herr : (h (.provision sc.pool) s).1.2 with
  | none =>
      obtain ⟨hfresh, hkeys⟩ := hc.provision_ok sc.pool s hpool herr
      have hcard : (keys (h (.provision sc.pool) s).2).card = (keys s).card + 1 := by
        rw [hkeys]
        exact Finset.card_insert_of_notMem hfresh
      have hkept' : keys s₀ ⊆ keys (h (.provision sc.pool) s).2 := by
        rw [hkeys]
        exact hkept.trans (Finset.subset_insert _ _)
      have hreply : (h (.provision sc.pool) s).1 = ((h (.provision sc.pool) s).1.1, none) :=
        Prod.ext rfl herr
      apply Prog.Throughout.bind
      refine Prog.Throughout.perform (hevent hkept' (by omega)) ?_
      rw [hreply]
      exact Prog.Throughout.pure
        ⟨⟨hpool.ns, hpool.name, hpool.nodeCount⟩, hkept', by omega⟩
  | some err =>
      have hbound : keys s₀ ⊆ keys (h (.provision sc.pool) s).2 ∧
          (keys (h (.provision sc.pool) s).2).card ≤ (keys s).card + 1 := by
        rcases hc.provision_error sc.pool s err hpool herr with hkeys | ⟨k, hfresh, hkeys⟩
        · rw [hkeys]
          exact ⟨hkept, Nat.le_succ _⟩
        · rw [hkeys, Finset.card_insert_of_notMem hfresh]
          exact ⟨hkept.trans (Finset.subset_insert _ _), Nat.le_refl _⟩
      have hreply : (h (.provision sc.pool) s).1 =
          ((h (.provision sc.pool) s).1.1, some err) := Prod.ext rfl herr
      apply Prog.Throughout.bind
      refine Prog.Throughout.perform (hevent hbound.1 (by omega)) ?_
      rw [hreply]
      exact Prog.Throughout.pure (Option.some_ne_none _)

theorem throughout_scaleUp (hc : Contract h keys pool) {s₀ s : σ} {sc : Scaling} (is : List Nat)
    (hmissing : Missing keys pool s₀ is.length sc s) :
    Prog.Throughout h (Grows h keys pool s₀) (Prog.loop scaleUpStep is sc)
      (fun r s' => r.elim (Missing keys pool s₀ 0 · s') (Stopped · s')) s :=
  Prog.Throughout.loop (fun is sc s' => Missing keys pool s₀ is.length sc s') Stopped
    (fun i _ _ _ hmissing => throughout_scaleUpStep hc hmissing i) is sc s hmissing

/-! ## Scaling down -/

structure Excess (keys : σ → Finset ObjKey) (pool : VNodePool) (listed : List VNode) (rest : Nat)
    (sc : Scaling) (s : σ) : Prop where
  first : HasFirst keys pool listed sc.working.length s
  working : sc.working = listed.take sc.working.length
  count : (sc.working.length : Int) = pool.nodeCount + rest

theorem card_keysOf_take {listed : List VNode} (hnodup : (listed.map keyOf).Nodup) {n : Nat}
    (hn : n ≤ listed.length) : (keysOf (listed.take n)).card = n := by
  have hsub : ((listed.take n).map keyOf).Nodup :=
    hnodup.sublist ((List.take_sublist n listed).map keyOf)
  rw [keysOf, List.toFinset_card_of_nodup hsub, List.length_map, List.length_take, min_eq_left hn]

theorem take_succ_eq {listed : List VNode} {n : Nat} {node : VNode}
    (hnode : listed[n]? = some node) : listed.take (n + 1) = listed.take n ++ [node] := by
  rw [List.take_add_one, hnode]
  rfl

theorem keysOf_concat (nodes : List VNode) (node : VNode) :
    keysOf (nodes ++ [node]) = insert (keyOf node) (keysOf nodes) := by
  ext k
  simp [keysOf]

theorem notMem_keysOf {nodes : List VNode} {node : VNode}
    (hnodup : ((nodes ++ [node]).map keyOf).Nodup) : keyOf node ∉ keysOf nodes := by
  intro hmem
  rw [List.map_append, List.map_singleton] at hnodup
  have hdisjoint := (List.nodup_append.mp hnodup).2.2
  exact hdisjoint _ (List.mem_toFinset.mp hmem) _ List.mem_cons_self rfl

theorem keysOf_take_erase {listed : List VNode} (hnodup : (listed.map keyOf).Nodup) {n : Nat}
    {node : VNode} (hnode : listed[n]? = some node) :
    (keysOf (listed.take (n + 1))).erase (keyOf node) = keysOf (listed.take n) := by
  have hsub : ((listed.take (n + 1)).map keyOf).Nodup :=
    hnodup.sublist ((List.take_sublist (n + 1) listed).map keyOf)
  rw [take_succ_eq hnode] at hsub ⊢
  rw [keysOf_concat, Finset.erase_insert (notMem_keysOf hsub)]

theorem throughout_scaleDownStep (hc : Contract h keys pool) {s : σ} {listed : List VNode}
    (hnodup : (listed.map keyOf).Nodup) (h₀ : 0 ≤ pool.nodeCount) {sc : Scaling} {rest : Nat}
    (hexcess : Excess keys pool listed (rest + 1) sc s) (i : Nat) :
    Prog.Throughout h (Shrinks h keys pool listed) (scaleDownStep i sc)
      (fun r s' => r.elim (Excess keys pool listed rest · s') (Stopped · s')) s := by
  obtain ⟨hfirst, hworking, hcount⟩ := hexcess
  obtain ⟨n, hn⟩ : ∃ n, sc.working.length = n + 1 := ⟨sc.working.length - 1, by omega⟩
  rw [hn] at hfirst hworking hcount
  have hlt : n < listed.length := hfirst.size
  have hnode : listed[n]? = some listed[n] := List.getElem?_eq_getElem hlt
  have hsplit : sc.working = listed.take n ++ [listed[n]] := hworking.trans (take_succ_eq hnode)
  have hlast : sc.working.getLast? = some listed[n] := by
    rw [hsplit, List.getLast?_concat]
  have hmem : keyOf listed[n] ∈ keys s := by
    rw [hfirst.keys, take_succ_eq hnode]
    rw [keysOf_concat]
    exact Finset.mem_insert_self _ _
  have hevent : (∃ m, HasFirst keys pool listed m (h (.deprovision listed[n]) s).2) →
      Shrinks h keys pool listed ⟨.deprovision listed[n], s⟩ := by
    intro hafter
    refine ⟨⟨n + 1, hfirst⟩, hafter, ?_, fun _ => LifecycleCall.noConfusion⟩
    intro node hcall
    cases hcall
    exact ⟨n, hnode, hfirst⟩
  unfold scaleDownStep
  rw [hlast]
  cases hreply : (h (.deprovision listed[n]) s).1 with
  | error err =>
      have hkeys := hc.deprovision_error _ s err hmem hreply
      have hsame : HasFirst keys pool listed (n + 1) (h (.deprovision listed[n]) s).2 :=
        ⟨hkeys.trans hfirst.keys, hfirst.size, hfirst.enough⟩
      apply Prog.Throughout.bind
      refine Prog.Throughout.perform (hevent ⟨n + 1, hsame⟩) ?_
      rw [hreply]
      exact Prog.Throughout.pure (Option.some_ne_none _)
  | ok u =>
      have hkeys := hc.deprovision_ok _ s hmem hreply
      have hless : HasFirst keys pool listed n (h (.deprovision listed[n]) s).2 := by
        refine ⟨?_, Nat.le_of_lt hlt, by omega⟩
        rw [hkeys, hfirst.keys]
        exact keysOf_take_erase hnodup hnode
      apply Prog.Throughout.bind
      refine Prog.Throughout.perform (hevent ⟨n, hless⟩) ?_
      rw [hreply]
      have hdrop : sc.working.dropLast = listed.take n := by
        rw [hsplit, List.dropLast_concat]
      have hlength : sc.working.dropLast.length = n := by
        rw [List.length_dropLast, hn]
        rfl
      apply Prog.Throughout.pure
      change Excess keys pool listed rest { sc with working := sc.working.dropLast } _
      refine ⟨?_, ?_, ?_⟩
      · rw [hlength]
        exact hless
      · rw [hlength]
        exact hdrop
      · change (sc.working.dropLast.length : Int) = _
        rw [hlength]
        omega

theorem throughout_scaleDown (hc : Contract h keys pool) {s : σ} {listed : List VNode}
    (hnodup : (listed.map keyOf).Nodup) (h₀ : 0 ≤ pool.nodeCount) {sc : Scaling} (is : List Nat)
    (hexcess : Excess keys pool listed is.length sc s) :
    Prog.Throughout h (Shrinks h keys pool listed) (Prog.loop scaleDownStep is sc)
      (fun r s' => r.elim (Excess keys pool listed 0 · s') (Stopped · s')) s :=
  Prog.Throughout.loop (fun is sc s' => Excess keys pool listed is.length sc s') Stopped
    (fun i _ _ _ hexcess => throughout_scaleDownStep hc hnodup h₀ hexcess i) is sc s hexcess

/-! ## A whole reconcile -/

def OnTarget (keys : σ → Finset ObjKey) (pool : VNodePool) (outcome : Outcome) (s : σ) : Prop :=
  outcome.2 = none → ((keys s).card : Int) = pool.nodeCount

theorem throughout_scale_up (hc : Contract h keys pool) {s₀ s : σ} {sc : Scaling} {toAdd : Nat}
    (hmissing : Missing keys pool s₀ toAdd sc s) :
    Prog.Throughout h (Grows h keys pool s₀) (scale toAdd 0 sc) (OnTarget keys pool) s := by
  have hlength : (List.range toAdd).length = toAdd := List.length_range
  rw [← hlength] at hmissing
  apply Prog.Throughout.bind
  apply (throughout_scaleUp hc (List.range toAdd) hmissing).mono
  intro flow s' hflow
  cases flow with
  | exit outcome => exact Prog.Throughout.pure fun hnone => absurd hnone hflow
  | next sc' =>
      have hdone : Missing keys pool s₀ 0 sc' s' := hflow
      have hcount := hdone.count
      exact Prog.Throughout.pure fun _ => by omega

theorem throughout_scale_down (hc : Contract h keys pool) {s : σ} {listed : List VNode}
    (hnodup : (listed.map keyOf).Nodup) (h₀ : 0 ≤ pool.nodeCount) {sc : Scaling} {toRemove : Nat}
    (hexcess : Excess keys pool listed toRemove sc s) :
    Prog.Throughout h (Shrinks h keys pool listed) (scale 0 toRemove sc) (OnTarget keys pool)
      s := by
  have hlength : (List.range toRemove).length = toRemove := List.length_range
  rw [← hlength] at hexcess
  apply Prog.Throughout.bind
  apply Prog.Throughout.pure
  apply Prog.Throughout.bind
  apply (throughout_scaleDown hc hnodup h₀ (List.range toRemove) hexcess).mono
  intro flow s' hflow
  cases flow with
  | exit outcome => exact Prog.Throughout.pure fun hnone => absurd hnone hflow
  | next sc' =>
      have hdone : Excess keys pool listed 0 sc' s' := hflow
      have hcount := hdone.count
      have hcard : (keys s').card = sc'.working.length := by
        rw [hdone.first.keys]
        exact card_keysOf_take hnodup hdone.first.size
      apply Prog.Throughout.pure
      intro _
      rw [hcard]
      omega

theorem desiredScaleActions_of_lt {n : Nat} (h₀ : 0 ≤ pool.nodeCount)
    (h₁ : pool.nodeCount < 2 ^ 31) (hn : n < 2 ^ 31) :
    (pool.desiredScaleActions (int32 n)).1.toNat = (pool.nodeCount - n).toNat ∧
      (pool.desiredScaleActions (int32 n)).2.toNat = ((n : Int) - pool.nodeCount).toNat := by
  have hcurrent : int32 n = n := int32_of_lt (by omega) (by omega)
  rw [hcurrent]
  unfold VNodePool.desiredScaleActions
  split
  · rw [int32_of_lt (by omega) (by omega)]
    constructor
    · rfl
    · dsimp only
      omega
  · split
    · rw [int32_of_lt (by omega) (by omega)]
      constructor
      · dsimp only
        omega
      · rfl
    · constructor <;> (dsimp only; omega)

section

variable (hc : Contract h keys pool) {s : σ} (h₀ : 0 ≤ pool.nodeCount)
  (h₁ : pool.nodeCount < 2 ^ 31) (hsize : (keys s).card < 2 ^ 31)

include hc h₀ h₁ hsize

theorem throughout_reconcile_up (hup : ((keys s).card : Int) ≤ pool.nodeCount) :
    Prog.Throughout h (Grows h keys pool s) (reconcile pool) (OnTarget keys pool) s := by
  have hlisted : Grows h keys pool s ⟨.listByPool pool.ns pool.name, s⟩ := by
    refine ⟨⟨Finset.Subset.refl _, hup⟩, ?_, fun _ => LifecycleCall.noConfusion⟩
    change keys s ⊆ keys (h (.listByPool pool.ns pool.name) s).2 ∧
      ((keys (h (.listByPool pool.ns pool.name) s).2).card : Int) ≤ _
    rw [hc.list]
    exact ⟨Finset.Subset.refl _, hup⟩
  apply Prog.Throughout.bind
  refine Prog.Throughout.perform hlisted ?_
  cases hreply : (h (.listByPool pool.ns pool.name) s).1 with
  | error err => exact Prog.Throughout.pure fun hnone => absurd hnone (Option.some_ne_none _)
  | ok listed =>
      obtain ⟨hnodup, hkeys⟩ := hc.list_ok s listed hreply
      have hlength : listed.length = (keys s).card := by
        rw [← hkeys, keysOf, List.toFinset_card_of_nodup hnodup, List.length_map]
      obtain ⟨hadd, hremove⟩ := desiredScaleActions_of_lt h₀ h₁ (hlength ▸ hsize)
      dsimp only
      rw [hadd, hremove, hlength]
      have hzero : (((keys s).card : Int) - pool.nodeCount).toNat = 0 := by omega
      rw [hzero]
      apply throughout_scale_up hc
      refine ⟨⟨rfl, rfl, rfl⟩, ?_, ?_⟩
      · rw [hc.list]
      · rw [hc.list]
        omega

theorem throughout_reconcile_down (hdown : pool.nodeCount ≤ ((keys s).card : Int))
    {listed : List VNode} (hreply : (h (.listByPool pool.ns pool.name) s).1 = .ok listed) :
    Prog.Throughout h (Shrinks h keys pool listed) (reconcile pool) (OnTarget keys pool) s := by
  obtain ⟨hnodup, hkeys⟩ := hc.list_ok s listed hreply
  have hlength : listed.length = (keys s).card := by
    rw [← hkeys, keysOf, List.toFinset_card_of_nodup hnodup, List.length_map]
  have hall : HasFirst keys pool listed listed.length s := by
    refine ⟨?_, Nat.le_refl _, by omega⟩
    rw [List.take_length, hkeys]
  have hall' : HasFirst keys pool listed listed.length
      (h (.listByPool pool.ns pool.name) s).2 :=
    ⟨(hc.list s).trans hall.keys, hall.size, hall.enough⟩
  apply Prog.Throughout.bind
  refine Prog.Throughout.perform
    ⟨⟨_, hall⟩, ⟨_, hall'⟩, fun _ => LifecycleCall.noConfusion, fun _ => LifecycleCall.noConfusion⟩
    ?_
  rw [hreply]
  obtain ⟨hadd, hremove⟩ := desiredScaleActions_of_lt h₀ h₁ (hlength ▸ hsize)
  dsimp only
  rw [hadd, hremove]
  have hzero : (pool.nodeCount - (listed.length : Int)).toNat = 0 := by omega
  rw [hzero]
  apply throughout_scale_down hc hnodup h₀
  refine ⟨hall', List.take_length.symm, ?_⟩
  change (listed.length : Int) = _
  omega

theorem calls_reconcile_of_count (hcount : ((keys s).card : Int) = pool.nodeCount) :
    (reconcile pool).calls h s = [.listByPool pool.ns pool.name] := by
  unfold reconcile
  rw [Prog.calls_bind]
  change .listByPool pool.ns pool.name :: Prog.calls h _ _ = _
  congr 1
  have hlisted : Prog.run h (use (.listByPool pool.ns pool.name)) s =
      h (.listByPool pool.ns pool.name) s := rfl
  rw [hlisted]
  cases hreply : (h (.listByPool pool.ns pool.name) s).1 with
  | error err => rfl
  | ok listed =>
      obtain ⟨hnodup, hkeys⟩ := hc.list_ok s listed hreply
      have hlength : listed.length = (keys s).card := by
        rw [← hkeys, keysOf, List.toFinset_card_of_nodup hnodup, List.length_map]
      obtain ⟨hadd, hremove⟩ := desiredScaleActions_of_lt h₀ h₁ (hlength ▸ hsize)
      have hnone : (pool.nodeCount - (listed.length : Int)).toNat = 0 := by omega
      have hnone' : ((listed.length : Int) - pool.nodeCount).toNat = 0 := by omega
      dsimp only
      rw [hadd, hremove, hnone, hnone']
      rfl

end

/-- A lifecycle serves a pool whatever its status says. -/
theorem Contract.congr (hc : Contract h keys pool) {p : VNodePool} (hp : SamePool pool p) :
    Contract h keys p := by
  have hsame : ∀ q, SamePool p q → SamePool pool q := fun q hq =>
    ⟨hq.ns.trans hp.ns, hq.name.trans hp.name, hq.nodeCount.trans hp.nodeCount⟩
  refine ⟨?_, ?_, ?_, ?_, hc.deprovision_ok, hc.deprovision_error⟩
  · rw [hp.ns, hp.name]
    exact hc.list
  · rw [hp.ns, hp.name]
    exact hc.list_ok
  · exact fun q s hq => hc.provision_ok q s (hsame q hq)
  · exact fun q s err hq => hc.provision_error q s err (hsame q hq)

theorem HasFirst.bounds {listed : List VNode} (hnodup : (listed.map keyOf).Nodup) {s₀ s : σ}
    (hkeys : keysOf listed = keys s₀) {n : Nat} (hfirst : HasFirst keys pool listed n s) :
    keys s ⊆ keys s₀ ∧ pool.nodeCount ≤ ((keys s).card : Int) := by
  constructor
  · rw [hfirst.keys, ← hkeys]
    intro k hk
    obtain ⟨node, hnode, rfl⟩ := List.mem_map.mp (List.mem_toFinset.mp hk)
    exact List.mem_toFinset.mpr (List.mem_map_of_mem (List.mem_of_mem_take hnode))
  · rw [hfirst.keys, card_keysOf_take hnodup hfirst.size]
    exact hfirst.enough

end

structure Loses {σ : Type} (h : Handler LifecycleCall LifecycleCall.Reply σ)
    (keys : σ → Finset ObjKey) (pool : VNodePool) (s₀ : σ) (e : Event LifecycleCall σ) :
    Prop where
  before : keys e.before ⊆ keys s₀ ∧ pool.nodeCount ≤ ((keys e.before).card : Int)
  after : keys (e.after h) ⊆ keys s₀ ∧ pool.nodeCount ≤ ((keys (e.after h)).card : Int)

theorem throughout_reconcile_loses {σ : Type} {h : Handler LifecycleCall LifecycleCall.Reply σ}
    {keys : σ → Finset ObjKey} {pool : VNodePool} (hc : Contract h keys pool) {s : σ}
    (h₀ : 0 ≤ pool.nodeCount) (h₁ : pool.nodeCount < 2 ^ 31) (hsize : (keys s).card < 2 ^ 31)
    (hdown : pool.nodeCount ≤ ((keys s).card : Int)) :
    Prog.Throughout h (Loses h keys pool s) (reconcile pool) (OnTarget keys pool) s := by
  cases hreply : (h (.listByPool pool.ns pool.name) s).1 with
  | ok listed =>
      obtain ⟨hnodup, hkeys⟩ := hc.list_ok s listed hreply
      obtain ⟨hevents, hreached⟩ := throughout_reconcile_down hc h₀ h₁ hsize hdown hreply
      refine ⟨?_, hreached⟩
      intro e he
      obtain ⟨⟨n, hbefore⟩, ⟨m, hafter⟩, _, _⟩ := hevents e he
      exact ⟨hbefore.bounds hnodup hkeys, hafter.bounds hnodup hkeys⟩
  | error err =>
      have hsame : keys (h (.listByPool pool.ns pool.name) s).2 ⊆ keys s ∧
          pool.nodeCount ≤ ((keys (h (.listByPool pool.ns pool.name) s).2).card : Int) := by
        rw [hc.list]
        exact ⟨Finset.Subset.refl _, hdown⟩
      apply Prog.Throughout.bind
      refine Prog.Throughout.perform ⟨⟨Finset.Subset.refl _, hdown⟩, hsame⟩ ?_
      rw [hreply]
      exact Prog.Throughout.pure fun hnone => absurd hnone (Option.some_ne_none _)

structure Approaches {σ : Type} (h : Handler LifecycleCall LifecycleCall.Reply σ)
    (keys : σ → Finset ObjKey) (pool : VNodePool) (s : σ) : Prop where
  between : ∀ e ∈ (reconcile pool).events h s,
    Between (keys s).card pool.nodeCount (keys e.before).card ∧
      Between (keys s).card pool.nodeCount (keys (e.after h)).card
  up : ((keys s).card : Int) ≤ pool.nodeCount → ∀ e ∈ (reconcile pool).events h s,
    keys s ⊆ keys e.before ∧ keys s ⊆ keys (e.after h)
  down : pool.nodeCount ≤ ((keys s).card : Int) → ∀ e ∈ (reconcile pool).events h s,
    keys e.before ⊆ keys s ∧ keys (e.after h) ⊆ keys s
  order : pool.nodeCount ≤ ((keys s).card : Int) → ∀ listed,
    (h (.listByPool pool.ns pool.name) s).1 = .ok listed →
      ∀ e ∈ (reconcile pool).events h s, Shrinks h keys pool listed e
  reached : ((reconcile pool).run h s).1.2 = none →
    ((keys ((reconcile pool).run h s).2).card : Int) = pool.nodeCount
  settled : ((reconcile pool).run h s).1.2 = none → ∀ p, SamePool pool p →
    (reconcile p).calls h ((reconcile pool).run h s).2 = [.listByPool p.ns p.name]

theorem between_of_grown {a b n : Int} (hlow : a ≤ n) (hhigh : n ≤ b) : Between a b n :=
  ⟨(min_le_left a b).trans hlow, hhigh.trans (le_max_right a b)⟩

theorem between_of_lost {a b n : Int} (hlow : b ≤ n) (hhigh : n ≤ a) : Between a b n :=
  ⟨(min_le_right a b).trans hlow, hhigh.trans (le_max_left a b)⟩

/-- Whatever lifecycle the pool is given, whatever nodes it has and whatever calls
fail, a reconcile approaches the requested number of nodes step by step. -/
theorem reconcile_approaches {σ : Type} (h : Handler LifecycleCall LifecycleCall.Reply σ)
    (keys : σ → Finset ObjKey) (pool : VNodePool) (hc : Contract h keys pool)
    (h₀ : 0 ≤ pool.nodeCount) (h₁ : pool.nodeCount < 2 ^ 31) (s : σ)
    (hsize : (keys s).card < 2 ^ 31) : Approaches h keys pool s := by
  have hup := throughout_reconcile_up hc h₀ h₁ hsize
  have hdown := throughout_reconcile_loses hc h₀ h₁ hsize
  have hreached : OnTarget keys pool ((reconcile pool).run h s).1 ((reconcile pool).run h s).2 := by
    rcases le_total ((keys s).card : Int) pool.nodeCount with hle | hle
    · exact (hup hle).2
    · exact (hdown hle).2
  constructor
  · intro e he
    rcases le_total ((keys s).card : Int) pool.nodeCount with hle | hle
    · have hgrows := (hup hle).1 e he
      have hbefore := Finset.card_le_card hgrows.before.1
      have hafter := Finset.card_le_card hgrows.after.1
      exact ⟨between_of_grown (by omega) hgrows.before.2,
        between_of_grown (by omega) hgrows.after.2⟩
    · have hloses := (hdown hle).1 e he
      have hbefore := Finset.card_le_card hloses.before.1
      have hafter := Finset.card_le_card hloses.after.1
      exact ⟨between_of_lost hloses.before.2 (by omega),
        between_of_lost hloses.after.2 (by omega)⟩
  · intro hle e he
    exact ⟨((hup hle).1 e he).before.1, ((hup hle).1 e he).after.1⟩
  · intro hle e he
    exact ⟨((hdown hle).1 e he).before.1, ((hdown hle).1 e he).after.1⟩
  · intro hle listed hreply
    exact (throughout_reconcile_down hc h₀ h₁ hsize hle hreply).1
  · exact hreached
  · intro hnone p hp
    have hcount := hreached hnone
    apply calls_reconcile_of_count (hc.congr hp)
    · rw [hp.nodeCount]
      exact h₀
    · rw [hp.nodeCount]
      exact h₁
    · omega
    · rw [hp.nodeCount]
      exact hcount

/-! ### A lifecycle -/

/-- The nodes of a pool, numbered; a lifecycle over them that adds the next node and
removes the last one.  The fifth node is added, but with an error. -/
def numbered (pool : VNodePool) (n : Nat) : List VNode :=
  (List.range n).map (NodeService.newNode pool)

def numberedLifecycle (pool : VNodePool) : Handler LifecycleCall LifecycleCall.Reply Nat
  | .listByPool _ _, n => (.ok (numbered pool n), n)
  | .provision _, n =>
      ((NodeService.newNode pool n,
        if n = 4 then some ⟨.other, "quota exceeded"⟩ else none), n + 1)
  | .deprovision node, n =>
      if (numbered pool n).getLast? = some node then (.ok (), n - 1)
      else (.error ⟨.other, "not the last node"⟩, n)

theorem nodup_numbered (pool : VNodePool) (n : Nat) :
    ((numbered pool n).map keyOf).Nodup := by
  rw [numbered, List.map_map]
  apply List.Nodup.map _ List.nodup_range
  intro i j hij
  have hname : NodeService.nodeName pool (i + 1) = NodeService.nodeName pool (j + 1) :=
    congrArg ObjKey.name hij
  exact Nat.succ_injective (Nodes.nodeName_inj hname)

theorem numbered_succ (pool : VNodePool) (n : Nat) :
    numbered pool (n + 1) = numbered pool n ++ [NodeService.newNode pool n] := by
  rw [numbered, List.range_succ, List.map_append]
  rfl

theorem contract_numberedLifecycle (pool : VNodePool) :
    Contract (numberedLifecycle pool) (fun n => keysOf (numbered pool n)) pool := by
  have hfresh : ∀ n, keyOf (NodeService.newNode pool n) ∉ keysOf (numbered pool n) := by
    intro n
    have hnodup := nodup_numbered pool (n + 1)
    rw [numbered_succ] at hnodup
    exact notMem_keysOf hnodup
  have hnext : ∀ n, keysOf (numbered pool (n + 1)) =
      insert (keyOf (NodeService.newNode pool n)) (keysOf (numbered pool n)) := by
    intro n
    rw [numbered_succ, keysOf_concat]
  constructor
  · exact fun _ => rfl
  · intro n nodes hreply
    cases hreply
    exact ⟨nodup_numbered pool n, rfl⟩
  · exact fun _ n _ _ => ⟨hfresh n, hnext n⟩
  · exact fun _ n _ _ _ => Or.inr ⟨_, hfresh n, hnext n⟩
  · intro node n _ hreply
    simp only [numberedLifecycle] at hreply ⊢
    split at hreply
    · next hlast =>
        cases n with
        | zero => cases hlast
        | succ n =>
            rw [numbered_succ, List.getLast?_concat, Option.some.injEq] at hlast
            rw [if_pos (by rw [numbered_succ, List.getLast?_concat, hlast])]
            rw [hnext n, ← hlast, Finset.erase_insert (hfresh n)]
            rfl
    · cases hreply
  · intro node n err _ hreply
    simp only [numberedLifecycle] at hreply ⊢
    split at hreply
    · cases hreply
    · next hlast => rw [if_neg hlast]

/-- From two nodes towards six the fifth node ends the reconcile; from five towards
two it comes to its end. -/
theorem acmePool_approaches :
    (Approaches (numberedLifecycle (NodeService.acmePool 6))
        (fun n => keysOf (numbered (NodeService.acmePool 6) n)) (NodeService.acmePool 6) 2 ∧
      ((reconcile (NodeService.acmePool 6)).run
        (numberedLifecycle (NodeService.acmePool 6)) 2).2 = 5) ∧
    Approaches (numberedLifecycle (NodeService.acmePool 2))
        (fun n => keysOf (numbered (NodeService.acmePool 2) n)) (NodeService.acmePool 2) 5 ∧
      ((reconcile (NodeService.acmePool 2)).run
        (numberedLifecycle (NodeService.acmePool 2)) 5).2 = 2 :=
  ⟨⟨reconcile_approaches _ _ _ (contract_numberedLifecycle _) (by decide) (by decide) 2
      (by decide), by decide +kernel⟩,
    reconcile_approaches _ _ _ (contract_numberedLifecycle _) (by decide) (by decide) 5
      (by decide), by decide +kernel⟩

end VNodeOperator.Pools
