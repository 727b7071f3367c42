import VNodeOperator.ProofSupport.Contracts
import VNodeOperator.ProofSupport.RelyGuarantee

/-!
# Threads whose calls fail

Threads take turns on one state, and any of their calls may fail, with its effect or
without.  What all of them keep to is a contract, since nothing is promised of an error
(`Runs.within`).  A thread none of whose calls has failed so far still meets what it was
shown to meet without failures (`Runs.under`).
-/

namespace VNodeOperator.ProofSupport

variable {C : Type} {V : C → Type} {ε σ ι : Type} {α : ι → Type}
  {h : Handler C (fun c => Except ε (V c)) σ} {I : Interference σ}

/-- The calls that a contract allows stay within an interference and are answered as it
promises, which is nothing for an error. -/
structure Contract.Within (K : Contract C (fun c => Except ε (V c)))
    (h : Handler C (fun c => Except ε (V c)) σ) (I : Interference σ) : Prop where
  rel : ∀ {c s}, K.may c → I.inv s → I.rel s (h c s).2
  gets : ∀ {c s}, K.may c → I.inv s → K.gets c (h c s).1
  error : ∀ c e, K.gets c (.error e)

theorem Contract.Within.withFaults {K : Contract C (fun c => Except ε (V c))}
    (hK : K.Within h I) {c : C} {s : σ × FaultPlan ε} (hc : K.may c) (hs : I.inv s.1) :
    I.rel s.1 (withFaults h c s).2.1 ∧ K.gets c (withFaults h c s).1 := by
  constructor
  · rcases withFaults_state h c s with hstate | hstate
    · rw [hstate]
      exact hK.rel hc hs
    · rw [hstate]
      exact I.refl s.1
  · cases hreply : (ProofSupport.withFaults h c s).1 with
    | error e => exact hK.error c e
    | ok v =>
        rw [← hreply, (withFaults_of_ok hreply).1]
        exact hK.gets hc hs

namespace Threads

/-- No call of the thread has failed so far. -/
def Unfailing (h : Handler C (fun c => Except ε (V c)) σ)
    (log : List (ι × Event C (σ × FaultPlan ε))) (i : ι) : Prop :=
  ∀ x ∈ log, x.1 = i → ∃ v, x.2.reply (withFaults h) = .ok v

theorem Unfailing.append {log : List (ι × Event C (σ × FaultPlan ε))} {i j : ι}
    (hlog : Unfailing h log i) (hne : j ≠ i) (es : List (Event C (σ × FaultPlan ε))) :
    Unfailing h (log ++ es.map (Prod.mk j)) i := by
  intro x hx hi
  rcases List.mem_append.mp hx with hx | hx
  · exact hlog x hx hi
  · obtain ⟨e, _, rfl⟩ := List.mem_map.mp hx
    exact absurd hi hne

namespace Runs

variable [DecidableEq ι] {K : Contract C (fun c => Except ε (V c))}
  {allowed : List (ι × Event C (σ × FaultPlan ε)) →
    Threads C (fun c => Except ε (V c)) α (σ × FaultPlan ε) → ι → Prop}
  {t₀ t : Threads C (fun c => Except ε (V c)) α (σ × FaultPlan ε)}
  {log : List (ι × Event C (σ × FaultPlan ε))}

/-- Threads that keep the contract keep the invariant, whatever fails. -/
theorem within {Q : (i : ι) → α i → Prop} (hrun : Runs (withFaults h) allowed t₀ log t)
    (hK : K.Within h I) (hmeets : ∀ i, Prog.Meets K (Q i) (t₀.prog i))
    (hinv : I.inv t₀.shared.1) :
    I.inv t.shared.1 ∧ ∀ i, Prog.Meets K (Q i) (t.prog i) := by
  refine hrun.invariant
    (I := fun _ t => I.inv t.shared.1 ∧ ∀ i, Prog.Meets K (Q i) (t.prog i)) ⟨hinv, hmeets⟩ ?_
  rintro log t t' i c k ⟨hinv, hmeets⟩ _ hprog hstep
  obtain ⟨hshared, hself, hothers⟩ := step_call hprog hstep
  have hi := hmeets i
  rw [hprog] at hi
  obtain ⟨hrel, hgets⟩ := hK.withFaults hi.1 hinv
  constructor
  · rw [hshared]
    exact I.keeps hinv hrel
  · intro j
    by_cases hj : j = i
    · subst hj
      rw [hself]
      exact hi.2 _ hgets
    · rw [hothers j hj]
      exact hmeets j

theorem rel_of_step {t' : Threads C (fun c => Except ε (V c)) α (σ × FaultPlan ε)} {i : ι}
    {Q : α i → Prop} (hK : K.Within h I) (hinv : I.inv t.shared.1)
    (hmeets : Prog.Meets K Q (t.prog i)) (hstep : t.step (withFaults h) i = some t') :
    I.rel t.shared.1 t'.shared.1 := by
  obtain ⟨c, k, hprog⟩ := exists_call_of_step hstep
  rw [hprog] at hmeets
  rw [(step_call hprog hstep).1]
  exact (hK.withFaults hmeets.1 hinv).1

/-- As long as no call of it fails, a thread meets its judgment. -/
theorem under {Q : (i : ι) → α i → Prop} {i : ι} {P : α i → σ → Prop}
    (hrun : Runs (withFaults h) allowed t₀ log t) (hK : K.Within h I)
    (hmeets : ∀ i, Prog.Meets K (Q i) (t₀.prog i)) (hinv : I.inv t₀.shared.1)
    (hP : ∀ a s s', P a s → I.rel s s' → P a s')
    (hstart : Prog.Under h I (t₀.prog i) P t₀.shared.1) (hunfailing : Unfailing h log i) :
    Prog.Under h I (t.prog i) P t.shared.1 := by
  induction hrun with
  | start => exact hstart
  | @step log t t' j c k hrun hallowed hprog hstep ih =>
      have hbefore := ih fun x hx => hunfailing x (List.mem_append_left _ hx)
      obtain ⟨hinv', hmeets'⟩ := hrun.within hK hmeets hinv
      obtain ⟨hshared, hself, hothers⟩ := step_call hprog hstep
      by_cases hj : i = j
      · subst hj
        obtain ⟨v, hv⟩ := hunfailing (i, ⟨c, t.shared⟩)
          (List.mem_append_right _ List.mem_cons_self) rfl
        obtain ⟨hreply, hstate⟩ := withFaults_of_ok hv
        rw [hprog] at hbefore
        rw [hself, hshared, hreply, hstate]
        exact (hbefore _ hinv' (I.refl _)).2
      · rw [hothers i hj]
        exact hbefore.rely hP (rel_of_step hK hinv' (hmeets' j) hstep)

end Runs

end Threads

end VNodeOperator.ProofSupport
