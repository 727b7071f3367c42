import VNodeOperator.ProofSupport.Threads

/-!
# Rely and guarantee

A thread of an interleaving sees the shared state change between its calls.  An
`Interference` says what such a change may be, and is what every thread relies
on and keeps to itself.  `Under` is the judgment about one thread; that all of
them meet it is an invariant of every run (`Threads.Reaches.under`).
-/

namespace VNodeOperator.ProofSupport

/-- An invariant of the shared state and the changes threads may make to it. -/
structure Interference (σ : Type) where
  inv : σ → Prop
  rel : σ → σ → Prop
  refl : ∀ s, rel s s
  trans : ∀ {s s' s''}, rel s s' → rel s' s'' → rel s s''
  keeps : ∀ {s s'}, inv s → rel s s' → inv s'

namespace Prog

variable {C : Type} {R : C → Type} {α β ρ σ : Type} {h : Handler C R σ} {I : Interference σ}

/-- Under interference from `s` on, each call of the program changes the state
within `I`, and it returns in `Q`. -/
def Under (h : Handler C R σ) (I : Interference σ) : Prog C R α → (α → σ → Prop) → σ → Prop
  | .ret a, Q, s => Q a s
  | .call c k, Q, s => ∀ s', I.inv s' → I.rel s s' →
      I.rel s' (h c s').2 ∧ Under h I (k (h c s').1) Q (h c s').2

namespace Under

variable {p : Prog C R α} {Q Q' : α → σ → Prop} {s s' : σ}

theorem bind {f : α → Prog C R β} {Q' : β → σ → Prop} (hp : Under h I p Q s)
    (hf : ∀ a s, Q a s → Under h I (f a) Q' s) : Under h I (p >>= f) Q' s := by
  induction p generalizing s with
  | ret a => exact hf a s hp
  | call c k ih =>
      intro s' hinv hrel
      obtain ⟨hstep, hrest⟩ := hp s' hinv hrel
      exact ⟨hstep, ih _ hrest⟩

theorem mono (hp : Under h I p Q s) (hQ : ∀ a s, Q a s → Q' a s) : Under h I p Q' s := by
  induction p generalizing s with
  | ret a => exact hQ a s hp
  | call c k ih =>
      intro s' hinv hrel
      obtain ⟨hstep, hrest⟩ := hp s' hinv hrel
      exact ⟨hstep, ih _ hrest⟩

theorem rely (hp : Under h I p Q s) (hQ : ∀ a s s', Q a s → I.rel s s' → Q a s')
    (hrel : I.rel s s') : Under h I p Q s' := by
  cases p with
  | ret a => exact hQ a s s' hp hrel
  | call c k =>
      intro s'' hinv hrel'
      exact hp s'' hinv (I.trans hrel hrel')

theorem of_uses {A : C → Prop} (hp : Uses A p)
    (hA : ∀ c s, A c → I.inv s → I.rel s (h c s).2) : Under h I p (fun _ _ => True) s := by
  induction p generalizing s with
  | ret a => trivial
  | call c k ih =>
      intro s' hinv _
      exact ⟨hA c s' hp.1 hinv, ih _ (hp.2 _)⟩

theorem loop {body : α → β → Prog C R (Flow β ρ)} {Q : Flow β ρ → σ → Prop}
    (J : List α → β → σ → Prop) (hnil : ∀ b s, J [] b s → Q (.next b) s)
    (hcons : ∀ x xs b s, J (x :: xs) b s → Under h I (body x b) (fun r s' =>
      match r with
      | .next b' => J xs b' s'
      | .exit e => Q (.exit e) s') s)
    (xs : List α) (b : β) (hJ : J xs b s) : Under h I (Prog.loop body xs b) Q s := by
  induction xs generalizing b s with
  | nil => exact hnil b s hJ
  | cons x xs ih =>
      rw [loop_cons]
      refine bind (hcons x xs b s hJ) ?_
      intro r s' hr
      cases r with
      | next b' => exact ih b' hr
      | exit e => exact hr

end Under

/-! ## One thread against the others

A thread whose own calls are not bound by what the others keep to. -/

/-- The program ends in `Q`, whatever the others do within `rel` between its
calls. -/
def Ends (h : Handler C R σ) (rel : σ → σ → Prop) : Prog C R α → (α → σ → Prop) → σ → Prop
  | .ret a, Q, s => Q a s
  | .call c k, Q, s => ∀ s', rel s s' → Ends h rel (k (h c s').1) Q (h c s').2

namespace Ends

variable {rel : σ → σ → Prop} {p : Prog C R α} {Q Q' : α → σ → Prop} {s s' : σ}

theorem bind {f : α → Prog C R β} {Q' : β → σ → Prop} (hp : Ends h rel p Q s)
    (hf : ∀ a s, Q a s → Ends h rel (f a) Q' s) : Ends h rel (p >>= f) Q' s := by
  induction p generalizing s with
  | ret a => exact hf a s hp
  | call c k ih => exact fun s' hrel => ih _ (hp s' hrel)

theorem mono (hp : Ends h rel p Q s) (hQ : ∀ a s, Q a s → Q' a s) : Ends h rel p Q' s := by
  induction p generalizing s with
  | ret a => exact hQ a s hp
  | call c k ih => exact fun s' hrel => ih _ (hp s' hrel)

theorem rely {c : C} {k : R c → Prog C R α} (htrans : ∀ {s s' s''}, rel s s' → rel s' s'' →
      rel s s'') (hp : Ends h rel (.call c k) Q s) (hrel : rel s s') :
    Ends h rel (.call c k) Q s' :=
  fun s'' hrel' => hp s'' (htrans hrel hrel')

end Ends

end Prog

namespace Threads

variable {C : Type} {R : C → Type} {ι σ : Type} {α : ι → Type} [DecidableEq ι]
  {h : Handler C R σ} {I : Interference σ}

theorem rel_of_step {t t' : Threads C R α σ} {i : ι} {Q : α i → σ → Prop}
    (hinv : I.inv t.shared) (hi : Prog.Under h I (t.prog i) Q t.shared)
    (hstep : t.step h i = some t') : I.rel t.shared t'.shared := by
  obtain ⟨c, k, hcall⟩ := exists_call_of_step hstep
  rw [hcall] at hi
  rw [(step_call hcall hstep).1]
  exact (hi _ hinv (I.refl _)).1

/-- If every thread meets its judgment at the start, the invariant holds in
every configuration reached and the threads still meet their judgments. -/
theorem Reaches.under {allowed : Threads C R α σ → ι → Prop} {t₀ t : Threads C R α σ}
    {Q : (i : ι) → α i → σ → Prop} (hreach : Reaches h allowed t₀ t)
    (hQ : ∀ i a s s', Q i a s → I.rel s s' → Q i a s') (hinv : I.inv t₀.shared)
    (hstart : ∀ i, Prog.Under h I (t₀.prog i) (Q i) t₀.shared) :
    I.inv t.shared ∧ ∀ i, Prog.Under h I (t.prog i) (Q i) t.shared := by
  refine hreach.invariant
    (I := fun t => I.inv t.shared ∧ ∀ i, Prog.Under h I (t.prog i) (Q i) t.shared)
    ⟨hinv, hstart⟩ ?_
  intro t t' i ⟨hinv, hunder⟩ _ hstep
  have hrel := rel_of_step hinv (hunder i) hstep
  obtain ⟨c, k, hcall⟩ := exists_call_of_step hstep
  obtain ⟨hshared, hself, hothers⟩ := step_call hcall hstep
  refine ⟨I.keeps hinv hrel, ?_⟩
  intro j
  by_cases hj : j = i
  · subst hj
    have hmoved := hunder j
    rw [hcall] at hmoved
    rw [hself, hshared]
    exact (hmoved _ hinv (I.refl _)).2
  · rw [hothers j hj]
    exact (hunder j).rely (hQ j) hrel

end Threads

end VNodeOperator.ProofSupport
