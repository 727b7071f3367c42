import Mathlib.Data.List.Basic

/-!
# Folds of steps that stay apart

Each step of a fold acts on what it sees of the state and leaves alone what the
steps apart from it see.  If the steps of a list are pairwise apart, the fold
acts on the view of each as that step alone would.
-/

namespace VNodeOperator.ProofSupport

variable {σ α β : Type} {step : σ → α → σ} {xs : List α}

theorem foldl_kept {γ : Type} (read : σ → γ) (s : σ)
    (hstep : ∀ a ∈ xs, ∀ s, read (step s a) = read s) : read (xs.foldl step s) = read s := by
  induction xs generalizing s with
  | nil => rfl
  | cons a xs ih =>
      rw [List.foldl_cons, ih (step s a) fun b hb => hstep b (List.mem_cons_of_mem a hb)]
      exact hstep a List.mem_cons_self s

/-- The fold acts on the view of each step as that step alone. -/
theorem foldl_own (view : α → σ → β) {effect : α → β → β} {Apart : α → α → Prop} (s : σ)
    (hsymm : ∀ a b, Apart a b → Apart b a)
    (hown : ∀ a s, view a (step s a) = effect a (view a s))
    (hapart : ∀ a b s, Apart a b → view b (step s a) = view b s)
    (hxs : xs.Pairwise Apart) : ∀ a ∈ xs, view a (xs.foldl step s) = effect a (view a s) := by
  induction xs generalizing s with
  | nil =>
      intro a ha
      cases ha
  | cons b xs ih =>
      obtain ⟨hb, hxs⟩ := List.pairwise_cons.mp hxs
      intro a ha
      rw [List.foldl_cons]
      rcases List.mem_cons.mp ha with rfl | ha
      · rw [foldl_kept (view a) (step s a) fun c hc s => hapart c a s (hsymm a c (hb c hc))]
        exact hown a s
      · rw [ih (step s b) hxs a ha, hapart b a s (hb a ha)]

end VNodeOperator.ProofSupport
