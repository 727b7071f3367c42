import VNodeOperator.ProofSupport.Contracts
import VNodeOperator.ProofSupport.Threads

/-!
# Compartments

A state is divided into compartments, and every call is made on behalf of one of
them.  A call of a compartment sees and changes its own part of the state only,
and leaves the parts of all the others as they are.  Then the threads of a
compartment do, in every interleaving, what they do in some run in which nobody
else moves, on a state in which nothing else exists (`Reaches.compartment`).
-/

namespace VNodeOperator.ProofSupport

/-- A division of the state behind a handler.  `view d s` is the part of `s` that
belongs to `d`, with everything else removed. -/
structure Compartments {C : Type} {R : C → Type} {σ : Type} (h : Handler C R σ) (δ : Type) where
  contract : δ → Contract C R
  inv : σ → Prop
  view : δ → σ → σ
  keeps : ∀ {d c s}, (contract d).may c → inv s → inv (h c s).2
  gets : ∀ {d c s}, (contract d).may c → inv s → (contract d).gets c (h c s).1
  sees : ∀ {d c s}, (contract d).may c → h c (view d s) = ((h c s).1, view d (h c s).2)
  frame : ∀ {d e c s}, d ≠ e → (contract e).may c → view d (h c s).2 = view d s

namespace Threads

variable {C : Type} {R : C → Type} {ι σ δ : Type} {α : ι → Type} [DecidableEq ι]
  {h : Handler C R σ}

/-- The threads of `t'` that belong to `d` are those of `t`, and the state is what
belongs to `d` of the state of `t`. -/
structure SameIn (K : Compartments h δ) (owner : ι → δ) (d : δ) (t t' : Threads C R α σ) :
    Prop where
  shared : t'.shared = K.view d t.shared
  prog : ∀ i, owner i = d → t'.prog i = t.prog i

structure Kept (K : Compartments h δ) (owner : ι → δ) (Q : (i : ι) → α i → Prop)
    (t : Threads C R α σ) : Prop where
  inv : K.inv t.shared
  meets : ∀ i, Prog.Meets (K.contract (owner i)) (Q i) (t.prog i)

variable {K : Compartments h δ} {owner : ι → δ} {Q : (i : ι) → α i → Prop}

theorem Kept.step {t t' : Threads C R α σ} {i : ι} (hkept : Kept K owner Q t)
    (hstep : t.step h i = some t') : Kept K owner Q t' := by
  obtain ⟨c, k, hcall⟩ := exists_call_of_step hstep
  obtain ⟨hshared, hself, hothers⟩ := step_call hcall hstep
  have hi := hkept.meets i
  rw [hcall] at hi
  refine ⟨?_, ?_⟩
  · rw [hshared]
    exact K.keeps hi.1 hkept.inv
  · intro j
    by_cases hj : j = i
    · subst hj
      rw [hself]
      exact hi.2 _ (K.gets hi.1 hkept.inv)
    · rw [hothers j hj]
      exact hkept.meets j

theorem SameIn.frame {d : δ} {t t' u : Threads C R α σ} {i : ι} (hsame : SameIn K owner d t u)
    (hkept : Kept K owner Q t) (hi : owner i ≠ d) (hstep : t.step h i = some t') :
    SameIn K owner d t' u := by
  obtain ⟨c, k, hcall⟩ := exists_call_of_step hstep
  obtain ⟨hshared, _, hothers⟩ := step_call hcall hstep
  have hmay := hkept.meets i
  rw [hcall] at hmay
  refine ⟨?_, ?_⟩
  · rw [hsame.shared, hshared]
    exact (K.frame hi.symm hmay.1).symm
  · intro j hj
    have hne : j ≠ i := by
      rintro rfl
      exact hi hj
    rw [hsame.prog j hj, hothers j hne]

theorem SameIn.step {d : δ} {t t' u : Threads C R α σ} {i : ι} (hsame : SameIn K owner d t u)
    (hkept : Kept K owner Q t) (hi : owner i = d) (hstep : t.step h i = some t') :
    ∃ u', u.step h i = some u' ∧ SameIn K owner d t' u' := by
  obtain ⟨c, k, hcall⟩ := exists_call_of_step hstep
  obtain ⟨hshared, hself, hothers⟩ := step_call hcall hstep
  have hmay := hkept.meets i
  rw [hcall, hi] at hmay
  have hu : u.prog i = .call c k := by rw [hsame.prog i hi, hcall]
  have hsees : h c u.shared = ((h c t.shared).1, K.view d (h c t.shared).2) := by
    rw [hsame.shared]
    exact K.sees hmay.1
  refine ⟨⟨(h c u.shared).2, Function.update u.prog i (k (h c u.shared).1)⟩, ?_, ?_, ?_⟩
  · unfold Threads.step
    rw [hu]
  · rw [hshared, hsees]
  · intro j hj
    rw [hsees]
    by_cases hji : j = i
    · subst hji
      rw [hself]
      exact Function.update_self j _ u.prog
    · rw [hothers j hji, ← hsame.prog j hj]
      exact Function.update_of_ne hji _ u.prog

/-- Whatever the others do, the threads of a compartment do what they do in a run in which
only they move, on the part of the state that is theirs. -/
theorem Reaches.compartment {t₀ t : Threads C R α σ} (hkept : Kept K owner Q t₀)
    (hreach : Reaches h (fun _ _ => True) t₀ t) (d : δ) :
    ∃ u, Reaches h (fun _ i => owner i = d) ⟨K.view d t₀.shared, t₀.prog⟩ u ∧
      SameIn K owner d t u := by
  have hboth : Kept K owner Q t ∧
      ∃ u, Reaches h (fun _ i => owner i = d) ⟨K.view d t₀.shared, t₀.prog⟩ u ∧
        SameIn K owner d t u := by
    induction hreach with
    | start => exact ⟨hkept, _, .start, rfl, fun _ _ => rfl⟩
    | @step t t' i _ _ hstep ih =>
        obtain ⟨hkept, u, hu, hsame⟩ := ih
        refine ⟨hkept.step hstep, ?_⟩
        by_cases hi : owner i = d
        · obtain ⟨u', hstep', hsame'⟩ := hsame.step hkept hi hstep
          exact ⟨u', hu.step hi hstep', hsame'⟩
        · exact ⟨u, hu, hsame.frame hkept hi hstep⟩
  exact hboth.2

/-- What a thread that moves alone has left to do leads where it would have led from the
start. -/
theorem Reaches.run_alone {i : ι} {allowed : Threads C R α σ → ι → Prop}
    (honly : ∀ t j, allowed t j → j = i) {t₀ t : Threads C R α σ}
    (hreach : Reaches h allowed t₀ t) :
    (t.prog i).run h t.shared = (t₀.prog i).run h t₀.shared := by
  induction hreach with
  | start => rfl
  | @step t t' j _ hallowed hstep ih =>
      obtain rfl := honly t j hallowed
      obtain ⟨c, k, hcall⟩ := exists_call_of_step hstep
      obtain ⟨hshared, hself, _⟩ := step_call hcall hstep
      rw [← ih, hself, hshared, hcall, Prog.run]

end Threads

end VNodeOperator.ProofSupport
