import VNodeOperator.ProofSupport.Events

/-!
# Interleaved programs

Several programs share one state and take turns, one call at a time.  A run is
built from single steps, each of them allowed by a condition on the
configuration and the thread that moves, so that a theorem about restricted
schedules is a theorem about `Reaches` with that condition.  `Runs` keeps the
calls of a run as well.
-/

namespace VNodeOperator.ProofSupport

variable {C : Type} {R : C → Type} {ι σ : Type} {α : ι → Type}

/-- The shared state and what each thread still has to do. -/
structure Threads (C : Type) (R : C → Type) {ι : Type} (α : ι → Type) (σ : Type) where
  shared : σ
  prog : (i : ι) → Prog C R (α i)

namespace Threads

variable [DecidableEq ι]

/-- Thread `i` issues its next call; a thread that has returned cannot move. -/
def step (h : Handler C R σ) (t : Threads C R α σ) (i : ι) : Option (Threads C R α σ) :=
  match t.prog i with
  | .ret _ => none
  | .call c k =>
      some ⟨(h c t.shared).2, Function.update t.prog i (k (h c t.shared).1)⟩

theorem step_call {h : Handler C R σ} {t t' : Threads C R α σ} {i : ι} {c : C}
    {k : R c → Prog C R (α i)} (hprog : t.prog i = .call c k) (hstep : t.step h i = some t') :
    t'.shared = (h c t.shared).2 ∧ t'.prog i = k (h c t.shared).1 ∧
      ∀ j, j ≠ i → t'.prog j = t.prog j := by
  unfold step at hstep
  rw [hprog] at hstep
  simp only [Option.some.injEq] at hstep
  subst hstep
  refine ⟨rfl, Function.update_self i _ t.prog, ?_⟩
  intro j hj
  exact Function.update_of_ne hj _ t.prog

theorem exists_call_of_step {h : Handler C R σ} {t t' : Threads C R α σ} {i : ι}
    (hstep : t.step h i = some t') : ∃ c k, t.prog i = .call c k := by
  unfold step at hstep
  cases hprog : t.prog i with
  | ret a =>
      rw [hprog] at hstep
      cases hstep
  | call c k => exact ⟨c, k, rfl⟩

/-- The configurations reached from `t₀` by steps that are all allowed. -/
inductive Reaches (h : Handler C R σ) (allowed : Threads C R α σ → ι → Prop)
    (t₀ : Threads C R α σ) : Threads C R α σ → Prop
  | start : Reaches h allowed t₀ t₀
  | step {t t' : Threads C R α σ} {i : ι} (hreach : Reaches h allowed t₀ t)
      (hallowed : allowed t i) (hstep : t.step h i = some t') : Reaches h allowed t₀ t'

def follow (h : Handler C R σ) : List ι → Threads C R α σ → Option (Threads C R α σ)
  | [], t => some t
  | i :: is, t => (t.step h i).bind (follow h is)

theorem reaches_follow {h : Handler C R σ} {t₀ t t' : Threads C R α σ} {is : List ι}
    (hreach : Reaches h (fun _ _ => True) t₀ t) (hfollow : follow h is t = some t') :
    Reaches h (fun _ _ => True) t₀ t' := by
  induction is generalizing t with
  | nil =>
      rw [follow, Option.some.injEq] at hfollow
      rw [← hfollow]
      exact hreach
  | cons i is ih =>
      obtain ⟨t₁, hstep, hrest⟩ := Option.bind_eq_some_iff.mp hfollow
      exact ih (hreach.step trivial hstep) hrest

/-- What holds at the start and is kept by every allowed step holds throughout. -/
theorem Reaches.invariant {h : Handler C R σ} {allowed : Threads C R α σ → ι → Prop}
    {t₀ t : Threads C R α σ} {I : Threads C R α σ → Prop} (hreach : Reaches h allowed t₀ t)
    (hstart : I t₀)
    (hstep : ∀ t t' i, I t → allowed t i → t.step h i = some t' → I t') : I t := by
  induction hreach with
  | start => exact hstart
  | step _ hallowed hs ih => exact hstep _ _ _ ih hallowed hs

/-- Threads confined to `A` keep every invariant that each call of `A` keeps. -/
theorem Reaches.invariant_of_uses {h : Handler C R σ} {allowed : Threads C R α σ → ι → Prop}
    {t₀ t : Threads C R α σ} {A : C → Prop} {I : σ → Prop} (hreach : Reaches h allowed t₀ t)
    (huses : ∀ i, Prog.Uses A (t₀.prog i)) (hstart : I t₀.shared)
    (hkeep : ∀ c s, A c → I s → I (h c s).2) : I t.shared := by
  have hinv : (∀ i, Prog.Uses A (t.prog i)) ∧ I t.shared := by
    refine hreach.invariant (I := fun t => (∀ i, Prog.Uses A (t.prog i)) ∧ I t.shared)
      ⟨huses, hstart⟩ ?_
    rintro t t' i ⟨huses, hshared⟩ _ hstep
    obtain ⟨c, k, hcall⟩ := exists_call_of_step hstep
    obtain ⟨hafter, hself, hothers⟩ := step_call hcall hstep
    have hi := huses i
    rw [hcall] at hi
    constructor
    · intro j
      by_cases hj : j = i
      · subst hj
        rw [hself]
        exact hi.2 _
      · rw [hothers j hj]
        exact huses j
    · rw [hafter]
      exact hkeep c t.shared hi.1 hshared
  exact hinv.2

/-! ## Runs with their calls -/

/-- A run from `t₀` by steps that are all allowed, and the calls it made, each next
to the thread that made it. -/
inductive Runs (h : Handler C R σ)
    (allowed : List (ι × Event C σ) → Threads C R α σ → ι → Prop) (t₀ : Threads C R α σ) :
    List (ι × Event C σ) → Threads C R α σ → Prop
  | start : Runs h allowed t₀ [] t₀
  | step {log : List (ι × Event C σ)} {t t' : Threads C R α σ} {i : ι} {c : C}
      {k : R c → Prog C R (α i)} (hrun : Runs h allowed t₀ log t) (hallowed : allowed log t i)
      (hprog : t.prog i = .call c k) (hstep : t.step h i = some t') :
      Runs h allowed t₀ (log ++ [(i, ⟨c, t.shared⟩)]) t'

namespace Runs

variable {h : Handler C R σ} {allowed : List (ι × Event C σ) → Threads C R α σ → ι → Prop}
  {t₀ t : Threads C R α σ} {log : List (ι × Event C σ)}

theorem invariant {I : List (ι × Event C σ) → Threads C R α σ → Prop}
    (hrun : Runs h allowed t₀ log t) (hstart : I [] t₀)
    (hstep : ∀ log t t' i c k, I log t → allowed log t i → t.prog i = .call c k →
      t.step h i = some t' → I (log ++ [(i, ⟨c, t.shared⟩)]) t') : I log t := by
  induction hrun with
  | start => exact hstart
  | step _ hallowed hprog hs ih => exact hstep _ _ _ _ _ _ ih hallowed hprog hs

/-- A thread that may move as long as the others stand still can run to its end. -/
theorem alone {i : ι} (hrun : Runs h allowed t₀ log t)
    (hallowed : ∀ (es : List (Event C σ)) s p,
      allowed (log ++ es.map (Prod.mk i)) ⟨s, Function.update t.prog i p⟩ i) :
    Runs h allowed t₀ (log ++ ((t.prog i).events h t.shared).map (Prod.mk i))
      ⟨((t.prog i).run h t.shared).2,
        Function.update t.prog i (.ret ((t.prog i).run h t.shared).1)⟩ := by
  generalize hp : t.prog i = p
  induction p generalizing log t with
  | ret a =>
      simp only [Prog.events, List.map_nil, List.append_nil]
      have hsame : (⟨t.shared, Function.update t.prog i (.ret a)⟩ : Threads C R α σ) = t := by
        rw [← hp, Function.update_eq_self]
      exact hsame.symm ▸ hrun
  | call c k ih =>
      let t' : Threads C R α σ :=
        ⟨(h c t.shared).2, Function.update t.prog i (k (h c t.shared).1)⟩
      have hstep : t.step h i = some t' := by
        unfold Threads.step
        rw [hp]
      have hself : t'.prog i = k (h c t.shared).1 := Function.update_self i _ t.prog
      have hfirst : allowed log t i := by
        have hnone := hallowed [] t.shared (t.prog i)
        rwa [List.map_nil, List.append_nil, Function.update_eq_self] at hnone
      have hlater : ∀ (es : List (Event C σ)) s p,
          allowed (log ++ [(i, ⟨c, t.shared⟩)] ++ es.map (Prod.mk i))
            ⟨s, Function.update t'.prog i p⟩ i := by
        intro es s p
        rw [List.append_assoc, Function.update_idem]
        exact hallowed (⟨c, t.shared⟩ :: es) s p
      have hrest := ih _ (hrun.step hfirst hp hstep) hlater hself
      rw [List.append_assoc] at hrest
      simp only [t', Function.update_idem] at hrest
      exact hrest

end Runs

end Threads

end VNodeOperator.ProofSupport
