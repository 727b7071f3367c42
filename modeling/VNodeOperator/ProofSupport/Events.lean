import VNodeOperator.ProofSupport.Program

/-!
# The events of a run

A run seen call by call, each call with the state it met.  Statements about
"every successful call" or "every state after such a call" are statements about
this list.  `log` is the same for programs that run one after the other, and
`Linked` says that each event starts where the one before it ended.
-/

namespace VNodeOperator.ProofSupport

structure Event (C σ : Type) where
  call : C
  before : σ

variable {C : Type} {R : C → Type} {α β σ ι : Type} {h : Handler C R σ}

namespace Event

variable (h : Handler C R σ) (e : Event C σ)

def reply : R e.call := (h e.call e.before).1

def after : σ := (h e.call e.before).2

end Event

def Linked (h : Handler C R σ) : σ → List (Event C σ) → Prop
  | _, [] => True
  | s, e :: es => e.before = s ∧ Linked h (e.after h) es

namespace Linked

variable {s : σ} {A : C → Prop} {I : σ → Prop}

theorem invariant {es : List (Event C σ)} (hlinked : Linked h s es)
    (hstep : ∀ c s, A c → I s → I (h c s).2) (hcalls : ∀ e ∈ es, A e.call) (hs : I s) :
    ∀ e ∈ es, I e.before := by
  induction es generalizing s with
  | nil => exact fun _ he => (List.not_mem_nil he).elim
  | cons e es ih =>
      obtain ⟨hbefore, hrest⟩ := hlinked
      have hfirst : I e.before := by
        rw [hbefore]
        exact hs
      have hafter : I (e.after h) := hstep e.call e.before (hcalls e List.mem_cons_self) hfirst
      intro e' he'
      rcases List.mem_cons.mp he' with rfl | he'
      · exact hfirst
      · exact ih hrest (fun e he => hcalls e (List.mem_cons_of_mem _ he)) hafter e' he'

theorem drop {before later : List (Event C σ)} {e : Event C σ}
    (hlinked : Linked h s (before ++ e :: later)) : Linked h (e.after h) later := by
  induction before generalizing s with
  | nil => exact hlinked.2
  | cons e₀ before ih => exact ih hlinked.2

end Linked

namespace Prog

def events (h : Handler C R σ) : Prog C R α → σ → List (Event C σ)
  | .ret _, _ => []
  | .call c k, s => ⟨c, s⟩ :: events h (k (h c s).1) (h c s).2

theorem events_bind_perform {c : C} {s : σ} {r : R c} (hr : (h c s).1 = r)
    (f : R c → Prog C R α) :
    (perform c >>= f).events h s = ⟨c, s⟩ :: (f r).events h (h c s).2 := by
  subst hr
  rfl

/-- What each call of `A` establishes of its event, under an invariant that it
keeps, holds of every event of a program confined to `A`. -/
theorem Uses.events {A : C → Prop} {I : σ → Prop} {P : Event C σ → Prop} {p : Prog C R α}
    (hp : Uses A p) (hstep : ∀ c s, A c → I s → I (h c s).2 ∧ P ⟨c, s⟩) {s : σ} (hs : I s) :
    ∀ e ∈ p.events h s, P e := by
  induction p generalizing s with
  | ret a => exact fun _ he => (List.not_mem_nil he).elim
  | call c k ih =>
      obtain ⟨hinv, hevent⟩ := hstep c s hp.1 hs
      intro e he
      rcases List.mem_cons.mp he with rfl | he
      · exact hevent
      · exact ih _ (hp.2 _) hinv e he

theorem Uses.event_calls {A : C → Prop} {p : Prog C R α} (hp : Uses A p) (s : σ) :
    ∀ e ∈ p.events h s, A e.call :=
  hp.events (I := fun _ => True) (fun _ _ hc _ => ⟨trivial, hc⟩) trivial

theorem events_bind (p : Prog C R α) (f : α → Prog C R β) (s : σ) :
    (p >>= f).events h s = p.events h s ++ (f (p.run h s).1).events h (p.run h s).2 := by
  induction p generalizing s with
  | ret a => rfl
  | call c k ih => exact congrArg (_ :: ·) (ih _ _)

/-- `P` holds of every event of the run from `s`, which ends in `Q`. -/
def Throughout (h : Handler C R σ) (P : Event C σ → Prop) (p : Prog C R α) (Q : α → σ → Prop)
    (s : σ) : Prop :=
  (∀ e ∈ p.events h s, P e) ∧ Q (p.run h s).1 (p.run h s).2

namespace Throughout

variable {P : Event C σ → Prop} {Q : α → σ → Prop} {s : σ}

theorem pure {a : α} (hQ : Q a s) : Throughout h P (Pure.pure a) Q s :=
  ⟨fun _ he => (List.not_mem_nil he).elim, hQ⟩

theorem perform {c : C} {Q : R c → σ → Prop} (hP : P ⟨c, s⟩) (hQ : Q (h c s).1 (h c s).2) :
    Throughout h P (Prog.perform c) Q s := by
  refine ⟨?_, hQ⟩
  intro e he
  rw [List.mem_singleton.mp he]
  exact hP

theorem bind {p : Prog C R α} {f : α → Prog C R β} {Q : β → σ → Prop}
    (hp : Throughout h P p (fun a s => Throughout h P (f a) Q s) s) :
    Throughout h P (p >>= f) Q s := by
  obtain ⟨hevents, hrest, hQ⟩ := hp
  constructor
  · intro e he
    rw [events_bind] at he
    rcases List.mem_append.mp he with he | he
    · exact hevents e he
    · exact hrest e he
  · rw [run_bind]
    exact hQ

theorem mono {p : Prog C R α} {Q' : α → σ → Prop} (hp : Throughout h P p Q s)
    (hQ : ∀ a s, Q a s → Q' a s) : Throughout h P p Q' s :=
  ⟨hp.1, hQ _ _ hp.2⟩

/-- Loop rule.  The invariant `I` speaks of the elements still to come, the
accumulator and the state; an early exit establishes `E` instead. -/
theorem loop {ρ : Type} {body : α → β → Prog C R (Flow β ρ)} (I : List α → β → σ → Prop)
    (E : ρ → σ → Prop)
    (hbody : ∀ x xs b s, I (x :: xs) b s →
      Throughout h P (body x b) (fun r s => r.elim (I xs · s) (E · s)) s)
    (xs : List α) (b : β) (s : σ) (hI : I xs b s) :
    Throughout h P (Prog.loop body xs b) (fun r s => r.elim (I [] · s) (E · s)) s := by
  induction xs generalizing b s with
  | nil => exact pure hI
  | cons x xs ih =>
      rw [loop_cons]
      apply bind
      apply mono (hbody x xs b s hI)
      intro r s' hr
      cases r with
      | next b' => exact ih b' s' hr
      | exit r => exact pure hr

end Throughout

/-- The events of the run from `s`, its result and its last state are in `Q`. -/
def Traced (h : Handler C R σ) (p : Prog C R α) (Q : List (Event C σ) → α → σ → Prop)
    (s : σ) : Prop :=
  Q (p.events h s) (p.run h s).1 (p.run h s).2

namespace Traced

variable {p : Prog C R α} {Q : List (Event C σ) → α → σ → Prop} {s : σ}

theorem pure {a : α} (hQ : Q [] a s) : Traced h (Pure.pure a) Q s := hQ

theorem mono {Q' : List (Event C σ) → α → σ → Prop} (hp : Traced h p Q s)
    (hQ : ∀ es a s, Q es a s → Q' es a s) : Traced h p Q' s :=
  hQ _ _ _ hp

theorem bind {f : α → Prog C R β} {Q : List (Event C σ) → β → σ → Prop}
    (hp : Traced h p (fun es a s => Traced h (f a) (fun es' b s => Q (es ++ es') b s) s) s) :
    Traced h (p >>= f) Q s := by
  unfold Traced
  rw [events_bind, run_bind]
  exact hp

theorem perform_bind {c : C} {f : R c → Prog C R β} {Q : List (Event C σ) → β → σ → Prop}
    (hf : Traced h (f (h c s).1) (fun es b s' => Q (⟨c, s⟩ :: es) b s') (h c s).2) :
    Traced h (Prog.perform c >>= f) Q s := hf

/-- Loop rule.  The invariant `I` speaks of the elements done, the events so far and the
accumulator; an early exit establishes `E` instead. -/
theorem loop {ρ : Type} {body : α → β → Prog C R (Flow β ρ)}
    (I : List α → List (Event C σ) → β → Prop) (E : List (Event C σ) → ρ → Prop)
    (hbody : ∀ x done es b s, I done es b → Traced h (body x b)
      (fun es' r _ => r.elim (I (done ++ [x]) (es ++ es')) (E (es ++ es'))) s)
    (xs done : List α) (es : List (Event C σ)) (b : β) (s : σ) (hI : I done es b) :
    Traced h (Prog.loop body xs b)
      (fun es' r _ => r.elim (I (done ++ xs) (es ++ es')) (E (es ++ es'))) s := by
  induction xs generalizing done es b s with
  | nil =>
      apply pure
      rw [List.append_nil, List.append_nil]
      exact hI
  | cons x xs ih =>
      rw [loop_cons]
      apply bind
      apply mono (hbody x done es b s hI)
      intro es' r s' hr
      cases r with
      | next b' =>
          apply mono (ih (done ++ [x]) (es ++ es') b' s' hr)
          intro es'' r' _ hr'
          rw [List.append_assoc, List.append_assoc] at hr'
          exact hr'
      | exit r =>
          apply pure
          rw [List.append_nil]
          exact hr

end Traced

theorem linked_events_append (p : Prog C R α) (s : σ) {es : List (Event C σ)}
    (hrest : Linked h (p.run h s).2 es) : Linked h s (p.events h s ++ es) := by
  induction p generalizing s with
  | ret a => exact hrest
  | call c k ih => exact ⟨rfl, ih _ _ hrest⟩

/-! ## Several programs in a row -/

variable (program : ι → Prog C R α)

/-- The events of programs that run one after the other, each event next to the
program it belongs to. -/
def log (h : Handler C R σ) : List ι → σ → List (ι × Event C σ)
  | [], _ => []
  | i :: is, s =>
      ((program i).events h s).map (Prod.mk i) ++ log h is ((program i).run h s).2

theorem linked_log (is : List ι) (s : σ) : Linked h s ((log program h is s).map Prod.snd) := by
  induction is generalizing s with
  | nil => trivial
  | cons i is ih =>
      have hevents : (((program i).events h s).map (Prod.mk i)).map Prod.snd =
          (program i).events h s := by
        rw [List.map_map]
        exact List.map_id _
      rw [log, List.map_append, hevents]
      exact linked_events_append (program i) s (ih _)

theorem forall_log {I : σ → Prop} {P : ι → Event C σ → Prop}
    (hstep : ∀ i s, I s →
      I ((program i).run h s).2 ∧ ∀ e ∈ (program i).events h s, P i e)
    (is : List ι) {s : σ} (hs : I s) : ∀ x ∈ log program h is s, P x.1 x.2 := by
  induction is generalizing s with
  | nil => exact fun _ hx => (List.not_mem_nil hx).elim
  | cons i is ih =>
      obtain ⟨hinv, hevents⟩ := hstep i s hs
      intro x hx
      rcases List.mem_append.mp hx with hx | hx
      · obtain ⟨e, he, rfl⟩ := List.mem_map.mp hx
        exact hevents e he
      · exact ih hinv x hx

end Prog

end VNodeOperator.ProofSupport
