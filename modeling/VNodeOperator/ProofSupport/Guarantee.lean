import VNodeOperator.ProofSupport.Contracts

/-!
# Programs among others

Programs share their state with others, of whom it is only known what they do not do.
Each program relies on that bound and promises a narrower one of its own calls, any of
which may fail, with its effect or without.  `Guards` is the judgment about one program;
`Threads.Among.guar` turns it into a fact about every step of every run.
-/

namespace VNodeOperator.ProofSupport

/-- What a program relies on between its calls, and what it promises of each of them. -/
structure Bounds (σ : Type) where
  rely : σ → σ → Prop
  guar : σ → σ → Prop
  refl : ∀ s, rely s s
  trans : ∀ {s s' s''}, rely s s' → rely s' s'' → rely s s''
  still : ∀ s, guar s s
  relies : ∀ {s s'}, guar s s' → rely s s'

variable {C : Type} {V : C → Type} {ε σ α β ρ : Type}

namespace Prog

/-- Whatever the others do within the bounds and whatever fails, each call of the program
changes the state as promised, and the program ends in `Q`. -/
def Guards (h : Handler C (fun c => Except ε (V c)) σ) (B : Bounds σ) :
    Prog C (fun c => Except ε (V c)) α → (α → σ → Prop) → σ → Prop
  | .ret a, Q, s => Q a s
  | .call c k, Q, s => ∀ s', B.rely s s' →
      B.guar s' (h c s').2 ∧ Guards h B (k (h c s').1) Q (h c s').2 ∧
      ∀ e, Guards h B (k (.error e)) Q s' ∧ Guards h B (k (.error e)) Q (h c s').2

namespace Guards

variable {h : Handler C (fun c => Except ε (V c)) σ} {B : Bounds σ}
  {p : Prog C (fun c => Except ε (V c)) α} {Q : α → σ → Prop} {s s' : σ}

theorem perform {c : C} {Q : Except ε (V c) → σ → Prop}
    (hguar : ∀ s', B.rely s s' → B.guar s' (h c s').2)
    (hreply : ∀ s', B.rely s s' → Q (h c s').1 (h c s').2)
    (hfails : ∀ s' e, B.rely s s' → Q (.error e) s' ∧ Q (.error e) (h c s').2) :
    Guards h B (Prog.perform c) Q s :=
  fun s' hrely => ⟨hguar s' hrely, hreply s' hrely, fun e => hfails s' e hrely⟩

theorem bind {f : α → Prog C (fun c => Except ε (V c)) β} {Q' : β → σ → Prop}
    (hp : Guards h B p Q s) (hf : ∀ a s, Q a s → Guards h B (f a) Q' s) :
    Guards h B (p >>= f) Q' s := by
  induction p generalizing s with
  | ret a => exact hf a s hp
  | call c k ih =>
      intro s' hrely
      obtain ⟨hguar, hreply, hfails⟩ := hp s' hrely
      exact ⟨hguar, ih _ hreply, fun e => ⟨ih _ (hfails e).1, ih _ (hfails e).2⟩⟩

theorem rely (hp : Guards h B p Q s) (hQ : ∀ a s s', Q a s → B.rely s s' → Q a s')
    (hrely : B.rely s s') : Guards h B p Q s' := by
  cases p with
  | ret a => exact hQ a s s' hp hrely
  | call c k => exact fun s'' hrely' => hp s'' (B.trans hrely hrely')

/-- A program whose calls all keep the promise, by themselves.  What nobody within the
bounds takes away is there when it ends. -/
theorem of_uses {A : C → Prop} (hp : Uses A p) (hA : ∀ c s, A c → B.guar s (h c s).2)
    {P : σ → Prop} (hP : ∀ s s', P s → B.rely s s' → P s') (hs : P s) :
    Guards h B p (fun _ => P) s := by
  induction p generalizing s with
  | ret a => exact hs
  | call c k ih =>
      intro s' hrely
      have hbefore := hP s s' hs hrely
      have hafter := hP s' _ hbefore (B.relies (hA c s' hp.1))
      exact ⟨hA c s' hp.1, ih _ (hp.2 _) hafter,
        fun e => ⟨ih _ (hp.2 _) hbefore, ih _ (hp.2 _) hafter⟩⟩

end Guards

end Prog

namespace Threads

variable {ι : Type} {γ : ι → Type} [DecidableEq ι]
  {h : Handler C (fun c => Except ε (V c)) σ}

inductive Moves (h : Handler C (fun c => Except ε (V c)) σ) :
    Threads C (fun c => Except ε (V c)) γ σ → Threads C (fun c => Except ε (V c)) γ σ → Prop
  | call {t : Threads C (fun c => Except ε (V c)) γ σ} {i : ι} {c : C}
      {k : Except ε (V c) → Prog C (fun c => Except ε (V c)) (γ i)}
      (hprog : t.prog i = .call c k) :
      Moves h t ⟨(h c t.shared).2, Function.update t.prog i (k (h c t.shared).1)⟩
  | lost {t : Threads C (fun c => Except ε (V c)) γ σ} {i : ι} {c : C}
      {k : Except ε (V c) → Prog C (fun c => Except ε (V c)) (γ i)} (e : ε)
      (hprog : t.prog i = .call c k) :
      Moves h t ⟨t.shared, Function.update t.prog i (k (.error e))⟩
  | applied {t : Threads C (fun c => Except ε (V c)) γ σ} {i : ι} {c : C}
      {k : Except ε (V c) → Prog C (fun c => Except ε (V c)) (γ i)} (e : ε)
      (hprog : t.prog i = .call c k) :
      Moves h t ⟨(h c t.shared).2, Function.update t.prog i (k (.error e))⟩

/-- What is reached when threads and others take turns. -/
inductive Among (h : Handler C (fun c => Except ε (V c)) σ) (others : σ → σ → Prop)
    (t₀ : Threads C (fun c => Except ε (V c)) γ σ) :
    Threads C (fun c => Except ε (V c)) γ σ → Prop
  | start : Among h others t₀ t₀
  | move {t t' : Threads C (fun c => Except ε (V c)) γ σ} (hreach : Among h others t₀ t)
      (hmove : Moves h t t') : Among h others t₀ t'
  | others {t : Threads C (fun c => Except ε (V c)) γ σ} {s : σ}
      (hreach : Among h others t₀ t) (hothers : others t.shared s) :
      Among h others t₀ ⟨s, t.prog⟩

variable {B : Bounds σ} {t₀ t t' : Threads C (fun c => Except ε (V c)) γ σ}

def Guarding (h : Handler C (fun c => Except ε (V c)) σ) (B : Bounds σ)
    (t : Threads C (fun c => Except ε (V c)) γ σ) : Prop :=
  ∀ i, Prog.Guards h B (t.prog i) (fun _ _ => True) t.shared

omit [DecidableEq ι] in
theorem Guarding.rely (ht : Guarding h B t) {s : σ} (hrely : B.rely t.shared s) :
    Guarding h B ⟨s, t.prog⟩ :=
  fun i => (ht i).rely (fun _ _ _ _ _ => trivial) hrely

/-- After a move of one thread the others go on as before, within their bounds. -/
theorem Guarding.update (ht : Guarding h B t) {s : σ} (hrely : B.rely t.shared s) {i : ι}
    {p : Prog C (fun c => Except ε (V c)) (γ i)}
    (hp : Prog.Guards h B p (fun _ _ => True) s) :
    Guarding h B ⟨s, Function.update t.prog i p⟩ := by
  intro j
  change Prog.Guards h B (Function.update t.prog i p j) (fun _ _ => True) s
  by_cases hj : j = i
  · subst hj
    rw [Function.update_self]
    exact hp
  · rw [Function.update_of_ne hj]
    exact ht.rely hrely j

theorem Guarding.moves (ht : Guarding h B t) (hmove : Moves h t t') :
    B.guar t.shared t'.shared ∧ Guarding h B t' := by
  cases hmove with
  | @call i c k hprog =>
      have hi := ht i
      rw [hprog] at hi
      obtain ⟨hguar, hreply, _⟩ := hi t.shared (B.refl _)
      exact ⟨hguar, ht.update (B.relies hguar) hreply⟩
  | @lost i c k e hprog =>
      have hi := ht i
      rw [hprog] at hi
      obtain ⟨_, _, hfails⟩ := hi t.shared (B.refl _)
      exact ⟨B.still _, ht.update (B.refl _) (hfails e).1⟩
  | @applied i c k e hprog =>
      have hi := ht i
      rw [hprog] at hi
      obtain ⟨hguar, _, hfails⟩ := hi t.shared (B.refl _)
      exact ⟨hguar, ht.update (B.relies hguar) (hfails e).2⟩

/-- Every move of every run is as promised. -/
theorem Among.guar (hstart : Guarding h B t₀) (hreach : Among h B.rely t₀ t)
    (hmove : Moves h t t') : B.guar t.shared t'.shared := by
  have ht : Guarding h B t := by
    clear hmove
    induction hreach with
    | start => exact hstart
    | move _ hmove ih => exact (ih.moves hmove).2
    | others _ hothers ih => exact ih.rely hothers
  exact (ht.moves hmove).1

end Threads

end VNodeOperator.ProofSupport
