import VNodeOperator.ProofSupport.Contracts
import VNodeOperator.ProofSupport.RelyGuarantee

/-!
# One key of a work queue

A controller keeps a queue of keys.  A change of the state that it watches puts a
key into the queue; a worker takes the key out and runs its reconcile, at most one
at a time for a key; a reconcile that fails, or asks for it, puts the key back.
Between the calls of a reconcile others change the state, and a call may fail.

What matters is the state in which the key is idle: nothing queued, nothing
running.  `Unwoken` is the judgment about a reconcile during which the key is not
woken again, and `idle_of_reachable` turns it into a fact about every idle state
that can be reached, crashes and restarts of the controller included.
-/

namespace VNodeOperator.ProofSupport

structure Controller (C : Type) (V : C → Type) (ε ρ σ : Type) where
  /-- What answers the calls of a reconcile. -/
  handler : Handler C (fun c => Except ε (V c)) σ
  /-- The errors a call may end in instead, whether or not it took effect. -/
  fails : ε → Prop
  reconcile : Prog C (fun c => Except ε (V c)) ρ
  /-- Whether a change of the state puts the key into the queue. -/
  wakes : σ → σ → Bool
  /-- Whether a controller that starts finds the key and queues it. -/
  listed : σ → Bool
  /-- Whether a result puts the key back into the queue, at once or after a delay. -/
  again : ρ → Bool
  /-- The changes others make. -/
  others : σ → σ → Prop

namespace Controller

variable {C : Type} {V : C → Type} {ε ρ σ : Type}

/-- Where a key is: the state, whether the key is queued, and what is left of the
reconcile that is running. -/
structure Worker (C : Type) (V : C → Type) (ε ρ σ : Type) where
  state : σ
  queued : Bool
  running : Option (Prog C (fun c => Except ε (V c)) ρ)

inductive Step (K : Controller C V ε ρ σ) : Worker C V ε ρ σ → Worker C V ε ρ σ → Prop
  | others {s s' : σ} {queued : Bool} {running : Option (Prog C (fun c => Except ε (V c)) ρ)}
      (h : K.others s s') : Step K ⟨s, queued, running⟩ ⟨s', queued || K.wakes s s', running⟩
  | start {s : σ} : Step K ⟨s, true, none⟩ ⟨s, false, some K.reconcile⟩
  | call {s : σ} {queued : Bool} {c : C} {k : Except ε (V c) → Prog C _ ρ} :
      Step K ⟨s, queued, some (.call c k)⟩
        ⟨(K.handler c s).2, queued || K.wakes s (K.handler c s).2,
          some (k (K.handler c s).1)⟩
  | lost {s : σ} {queued : Bool} {c : C} {k : Except ε (V c) → Prog C _ ρ} {e : ε}
      (h : K.fails e) : Step K ⟨s, queued, some (.call c k)⟩ ⟨s, queued, some (k (.error e))⟩
  | applied {s : σ} {queued : Bool} {c : C} {k : Except ε (V c) → Prog C _ ρ} {e : ε}
      (h : K.fails e) : Step K ⟨s, queued, some (.call c k)⟩
        ⟨(K.handler c s).2, queued || K.wakes s (K.handler c s).2, some (k (.error e))⟩
  | finish {s : σ} {queued : Bool} {a : ρ} :
      Step K ⟨s, queued, some (.ret a)⟩ ⟨s, queued || K.again a, none⟩
  | restart {s : σ} {queued : Bool} {running : Option (Prog C (fun c => Except ε (V c)) ρ)} :
      Step K ⟨s, queued, running⟩ ⟨s, K.listed s, none⟩

inductive Reachable (K : Controller C V ε ρ σ) (s₀ : σ) : Worker C V ε ρ σ → Prop
  | start : Reachable K s₀ ⟨s₀, K.listed s₀, none⟩
  | step {x y : Worker C V ε ρ σ} (hx : Reachable K s₀ x) (h : Step K x y) : Reachable K s₀ y

/-! ## Reconciles that are not woken again -/

/-- The program runs from `s` on, others change the state within `I` between its calls, and
calls may fail.  Unless one of its own calls wakes the key, it ends in `Q`. -/
def Unwoken {α : Type} (K : Controller C V ε ρ σ) (I : Interference σ) :
    Prog C (fun c => Except ε (V c)) α → (α → σ → Prop) → σ → Prop
  | .ret a, Q, s => Q a s
  | .call c k, Q, s => ∀ s', I.inv s' → I.rel s s' →
      (K.wakes s' (K.handler c s').2 = false →
        Unwoken K I (k (K.handler c s').1) Q (K.handler c s').2) ∧
      ∀ e, K.fails e → Unwoken K I (k (.error e)) Q s' ∧
        (K.wakes s' (K.handler c s').2 = false →
          Unwoken K I (k (.error e)) Q (K.handler c s').2)

namespace Unwoken

variable {α β γ : Type} {K : Controller C V ε ρ σ} {I : Interference σ}
  {p : Prog C (fun c => Except ε (V c)) α} {Q Q' : α → σ → Prop} {s s' : σ}

theorem pure {a : α} (h : Q a s) : Unwoken K I (Pure.pure a) Q s := h

theorem perform {c : C} {Q : Except ε (V c) → σ → Prop}
    (hreply : ∀ s', I.inv s' → I.rel s s' → K.wakes s' (K.handler c s').2 = false →
      Q (K.handler c s').1 (K.handler c s').2)
    (hlost : ∀ s' e, I.inv s' → I.rel s s' → K.fails e → Q (.error e) s')
    (happlied : ∀ s' e, I.inv s' → I.rel s s' → K.fails e →
      K.wakes s' (K.handler c s').2 = false → Q (.error e) (K.handler c s').2) :
    Unwoken K I (Prog.perform c) Q s :=
  fun s' hinv hrel => ⟨hreply s' hinv hrel,
    fun e he => ⟨hlost s' e hinv hrel he, happlied s' e hinv hrel he⟩⟩

theorem read {c : C} {Q : Except ε (V c) → σ → Prop} (hread : ∀ s, (K.handler c s).2 = s)
    (hreply : ∀ s', I.inv s' → I.rel s s' → Q (K.handler c s').1 s')
    (hfails : ∀ s' e, I.inv s' → I.rel s s' → K.fails e → Q (.error e) s') :
    Unwoken K I (Prog.perform c) Q s := by
  refine perform ?_ hfails ?_
  · intro s' hinv hrel _
    rw [hread]
    exact hreply s' hinv hrel
  · intro s' e hinv hrel he _
    rw [hread]
    exact hfails s' e hinv hrel he

theorem bind {f : α → Prog C (fun c => Except ε (V c)) β} {Q' : β → σ → Prop}
    (hp : Unwoken K I p Q s) (hf : ∀ a s, Q a s → Unwoken K I (f a) Q' s) :
    Unwoken K I (p >>= f) Q' s := by
  induction p generalizing s with
  | ret a => exact hf a s hp
  | call c k ih =>
      intro s' hinv hrel
      obtain ⟨hreply, hfails⟩ := hp s' hinv hrel
      exact ⟨fun hw => ih _ (hreply hw),
        fun e he => ⟨ih _ (hfails e he).1, fun hw => ih _ ((hfails e he).2 hw)⟩⟩

theorem mono (hp : Unwoken K I p Q s) (hQ : ∀ a s, Q a s → Q' a s) : Unwoken K I p Q' s := by
  induction p generalizing s with
  | ret a => exact hQ a s hp
  | call c k ih =>
      intro s' hinv hrel
      obtain ⟨hreply, hfails⟩ := hp s' hinv hrel
      exact ⟨fun hw => ih _ (hreply hw),
        fun e he => ⟨ih _ (hfails e he).1, fun hw => ih _ ((hfails e he).2 hw)⟩⟩

theorem rely (hp : Unwoken K I p Q s) (hQ : ∀ a s s', Q a s → I.rel s s' → Q a s')
    (hrel : I.rel s s') : Unwoken K I p Q s' := by
  cases p with
  | ret a => exact hQ a s s' hp hrel
  | call c k => exact fun s'' hinv hrel' => hp s'' hinv (I.trans hrel hrel')

theorem and (hp : Unwoken K I p Q s) (hp' : Unwoken K I p Q' s) :
    Unwoken K I p (fun a s => Q a s ∧ Q' a s) s := by
  induction p generalizing s with
  | ret a => exact ⟨hp, hp'⟩
  | call c k ih =>
      intro s' hinv hrel
      obtain ⟨hreply, hfails⟩ := hp s' hinv hrel
      obtain ⟨hreply', hfails'⟩ := hp' s' hinv hrel
      exact ⟨fun hw => ih _ (hreply hw) (hreply' hw),
        fun e he => ⟨ih _ (hfails e he).1 (hfails' e he).1,
          fun hw => ih _ ((hfails e he).2 hw) ((hfails' e he).2 hw)⟩⟩

/-- What neither others nor the calls of the program change, unless they wake the key, stays
as it is. -/
theorem of_uses {A : C → Prop} (hp : Prog.Uses A p) {P : σ → Prop}
    (hrel : ∀ s s', P s → I.rel s s' → P s')
    (hquiet : ∀ c s, A c → P s → K.wakes s (K.handler c s).2 = false → P (K.handler c s).2)
    (h : P s) : Unwoken K I p (fun _ => P) s := by
  induction p generalizing s with
  | ret a => exact h
  | call c k ih =>
      intro s' _ hs
      have hP := hrel s s' h hs
      exact ⟨fun hw => ih _ (hp.2 _) (hquiet c s' hp.1 hP hw),
        fun e _ => ⟨ih _ (hp.2 _) hP, fun hw => ih _ (hp.2 _) (hquiet c s' hp.1 hP hw)⟩⟩

theorem kept {P : σ → Prop} (hrel : ∀ s s', P s → I.rel s s' → P s')
    (hquiet : ∀ c s, P s → K.wakes s (K.handler c s).2 = false → P (K.handler c s).2)
    (p : Prog C (fun c => Except ε (V c)) α) (h : P s) : Unwoken K I p (fun _ => P) s :=
  of_uses (Prog.Uses.always p) hrel (fun c s _ => hquiet c s) h

theorem of_returns {P : α → Prop} (hp : Prog.Returns P p) :
    Unwoken K I p (fun a _ => P a) s := by
  induction p generalizing s with
  | ret a => exact hp
  | call c k ih => exact fun s' _ _ => ⟨fun _ => ih _ (hp _),
      fun e _ => ⟨ih _ (hp _), fun _ => ih _ (hp _)⟩⟩

theorem loop {body : α → β → Prog C (fun c => Except ε (V c)) (Prog.Flow β γ)}
    (J : List α → β → σ → Prop) (E : γ → σ → Prop)
    (hcons : ∀ x xs b s, J (x :: xs) b s →
      Unwoken K I (body x b) (fun r s' => r.elim (J xs · s') (E · s')) s)
    (xs : List α) (b : β) (hJ : J xs b s) :
    Unwoken K I (Prog.loop body xs b) (fun r s' => r.elim (J [] · s') (E · s')) s := by
  induction xs generalizing b s with
  | nil => exact hJ
  | cons x xs ih =>
      rw [Prog.loop_cons]
      refine bind (hcons x xs b s hJ) ?_
      intro r s' hr
      cases r with
      | next b' => exact ih b' hr
      | exit e => exact hr

end Unwoken

/-! ## Idle states -/

/-- What a controller has to meet so that its idle states are in `Good`: the reconcile keeps
a contract that keeps the invariant, what others do keeps it too and stays within `I.rel`
unless it wakes the key, a reconcile that is not woken ends in `Good` or comes again, and a
key that is not found on a start is in `Good` as well. -/
structure Settles (K : Controller C V ε ρ σ) (I : Interference σ) (Good : σ → Prop) : Prop where
  contract : ∃ A : Contract C (fun c => Except ε (V c)),
    Prog.Meets A (fun _ => True) K.reconcile ∧
    (∀ c e, A.gets c (.error e)) ∧
    ∀ c s, A.may c → I.inv s → I.inv (K.handler c s).2 ∧ A.gets c (K.handler c s).1
  others : ∀ {s s'}, I.inv s → K.others s s' → I.inv s'
  quiet : ∀ {s s'}, I.inv s → K.others s s' → K.wakes s s' = false → I.rel s s'
  reconcile : ∀ s, I.inv s → Unwoken K I K.reconcile (fun a s => K.again a = false → Good s) s
  unlisted : ∀ {s}, K.listed s = false → Good s
  good : ∀ {s s'}, Good s → I.rel s s' → Good s'

/-- The invariant of a run: as long as the key is not queued, what is left of its reconcile
will do, and when nothing is left the state is good. -/
structure Sound (K : Controller C V ε ρ σ) (I : Interference σ) (Good : σ → Prop)
    (A : Contract C (fun c => Except ε (V c))) (x : Worker C V ε ρ σ) : Prop where
  inv : I.inv x.state
  meets : ∀ p, x.running = some p → Prog.Meets A (fun _ => True) p
  unwoken : ∀ p, x.running = some p → x.queued = false →
    Unwoken K I p (fun a s => K.again a = false → Good s) x.state
  idle : x.running = none → x.queued = false → Good x.state

variable {K : Controller C V ε ρ σ} {I : Interference σ} {Good : σ → Prop}
  {A : Contract C (fun c => Except ε (V c))}

theorem Sound.step (hK : Settles K I Good)
    (hprogram : Prog.Meets A (fun _ => True) K.reconcile)
    (herror : ∀ c e, A.gets c (.error e))
    (hkeeps : ∀ c s, A.may c → I.inv s → I.inv (K.handler c s).2 ∧ A.gets c (K.handler c s).1)
    {x y : Worker C V ε ρ σ} (hx : Sound K I Good A x) (hstep : Step K x y) :
    Sound K I Good A y := by
  have hstable : ∀ (a : ρ) (s s' : σ), (K.again a = false → Good s) → I.rel s s' →
      K.again a = false → Good s' := fun _ _ _ hgood hrel ha => hK.good (hgood ha) hrel
  cases hstep with
  | @others s s' queued running h =>
      refine ⟨hK.others hx.inv h, hx.meets, ?_, ?_⟩
      · intro p hp hquiet
        rw [Bool.or_eq_false_iff] at hquiet
        exact (hx.unwoken p hp hquiet.1).rely hstable (hK.quiet hx.inv h hquiet.2)
      · intro hp hquiet
        rw [Bool.or_eq_false_iff] at hquiet
        exact hK.good (hx.idle hp hquiet.1) (hK.quiet hx.inv h hquiet.2)
  | @start s =>
      refine ⟨hx.inv, ?_, ?_, ?_⟩
      · rintro p ⟨⟩
        exact hprogram
      · rintro p ⟨⟩ _
        exact hK.reconcile s hx.inv
      · rintro ⟨⟩
  | @call s queued c k =>
      have hmeets := hx.meets _ rfl
      obtain ⟨hinv, hgets⟩ := hkeeps c s hmeets.1 hx.inv
      refine ⟨hinv, ?_, ?_, ?_⟩
      · rintro p ⟨⟩
        exact hmeets.2 _ hgets
      · rintro p ⟨⟩ hquiet
        rw [Bool.or_eq_false_iff] at hquiet
        exact (hx.unwoken _ rfl hquiet.1 s hx.inv (I.refl s)).1 hquiet.2
      · rintro ⟨⟩
  | @lost s queued c k e h =>
      have hmeets := hx.meets _ rfl
      refine ⟨hx.inv, ?_, ?_, ?_⟩
      · rintro p ⟨⟩
        exact hmeets.2 _ (herror c e)
      · rintro p ⟨⟩ hquiet
        exact ((hx.unwoken _ rfl hquiet s hx.inv (I.refl s)).2 e h).1
      · rintro ⟨⟩
  | @applied s queued c k e h =>
      have hmeets := hx.meets _ rfl
      refine ⟨(hkeeps c s hmeets.1 hx.inv).1, ?_, ?_, ?_⟩
      · rintro p ⟨⟩
        exact hmeets.2 _ (herror c e)
      · rintro p ⟨⟩ hquiet
        rw [Bool.or_eq_false_iff] at hquiet
        exact ((hx.unwoken _ rfl hquiet.1 s hx.inv (I.refl s)).2 e h).2 hquiet.2
      · rintro ⟨⟩
  | @finish s queued a =>
      refine ⟨hx.inv, ?_, ?_, ?_⟩
      · rintro p ⟨⟩
      · rintro p ⟨⟩
      · intro _ hquiet
        rw [Bool.or_eq_false_iff] at hquiet
        exact hx.unwoken _ rfl hquiet.1 hquiet.2
  | restart =>
      refine ⟨hx.inv, ?_, ?_, fun _ => hK.unlisted⟩
      · rintro p ⟨⟩
      · rintro p ⟨⟩

/-- Whenever the key is idle, the state is good. -/
theorem idle_of_reachable (hK : Settles K I Good) {s₀ : σ} (hstart : I.inv s₀)
    {x : Worker C V ε ρ σ} (hx : Reachable K s₀ x) (hrunning : x.running = none)
    (hqueued : x.queued = false) : Good x.state := by
  obtain ⟨A, hprogram, herror, hkeeps⟩ := hK.contract
  have hsound : Sound K I Good A x := by
    clear hrunning hqueued
    induction hx with
    | start =>
        refine ⟨hstart, ?_, ?_, fun _ => hK.unlisted⟩
        · rintro p ⟨⟩
        · rintro p ⟨⟩
    | step _ hstep ih => exact ih.step hK hprogram herror hkeeps hstep
  exact hsound.idle hrunning hqueued

end Controller

end VNodeOperator.ProofSupport
