import VNodeOperator.ProofSupport.Program

/-!
# Calls that fail

`withFaults` lets any call of a run end in an error, chosen in advance by a
plan.  A failed call may have taken effect all the same, as a request does
whose response is lost.  `Robust` is the judgment over every plan.
-/

namespace VNodeOperator.ProofSupport

/-- A failed call: the error the caller sees, and whether the call took
effect. -/
structure Fault (ε : Type) where
  err : ε
  applied : Bool

abbrev FaultPlan (ε : Type) := Nat → Option (Fault ε)

variable {C : Type} {V : C → Type} {ε σ α β ρ : Type}

/-- Answer the next call as the plan has it, and advance the plan. -/
def withFaults (h : Handler C (fun c => Except ε (V c)) σ) :
    Handler C (fun c => Except ε (V c)) (σ × FaultPlan ε) := fun c s =>
  match s.2 0 with
  | none => ((h c s.1).1, (h c s.1).2, fun n => s.2 (n + 1))
  | some f => (.error f.err, if f.applied then (h c s.1).2 else s.1, fun n => s.2 (n + 1))

theorem withFaults_of_none (h : Handler C (fun c => Except ε (V c)) σ) (c : C) (s : σ)
    {plan : FaultPlan ε} (hplan : plan 0 = none) :
    withFaults h c (s, plan) = ((h c s).1, (h c s).2, fun n => plan (n + 1)) := by
  simp only [withFaults, hplan]

theorem withFaults_of_some (h : Handler C (fun c => Except ε (V c)) σ) (c : C) (s : σ)
    {plan : FaultPlan ε} {f : Fault ε} (hplan : plan 0 = some f) :
    withFaults h c (s, plan) =
      (.error f.err, if f.applied then (h c s).2 else s, fun n => plan (n + 1)) := by
  simp only [withFaults, hplan]

theorem withFaults_state (h : Handler C (fun c => Except ε (V c)) σ) (c : C)
    (s : σ × FaultPlan ε) :
    (withFaults h c s).2.1 = (h c s.1).2 ∨ (withFaults h c s).2.1 = s.1 := by
  obtain ⟨s, plan⟩ := s
  cases hplan : plan 0 with
  | none => exact Or.inl (by rw [withFaults_of_none h c s hplan])
  | some f =>
      rw [withFaults_of_some h c s hplan]
      by_cases hf : f.applied
      · exact Or.inl (if_pos hf)
      · exact Or.inr (if_neg hf)

theorem withFaults_of_ok {h : Handler C (fun c => Except ε (V c)) σ} {c : C}
    {s : σ × FaultPlan ε} {v : V c} (hok : (withFaults h c s).1 = .ok v) :
    (withFaults h c s).1 = (h c s.1).1 ∧ (withFaults h c s).2.1 = (h c s.1).2 := by
  obtain ⟨s, plan⟩ := s
  cases hplan : plan 0 with
  | none =>
      rw [withFaults_of_none h c s hplan]
      exact ⟨rfl, rfl⟩
  | some f =>
      rw [withFaults_of_some h c s hplan] at hok
      cases hok

/-- Under every plan, the calls `p` issues from `s` are in `A` and it ends in
`Q`. -/
def Robust (h : Handler C (fun c => Except ε (V c)) σ) (A : C → Prop)
    (p : Prog C (fun c => Except ε (V c)) α) (Q : α → σ → Prop) (s : σ) : Prop :=
  ∀ plan : FaultPlan ε,
    (∀ c ∈ p.calls (withFaults h) (s, plan), A c) ∧
      Q (p.run (withFaults h) (s, plan)).1 (p.run (withFaults h) (s, plan)).2.1

namespace Robust

variable {h : Handler C (fun c => Except ε (V c)) σ} {A : C → Prop} {s : σ}

theorem pure {a : α} {Q : α → σ → Prop} (hQ : Q a s) :
    Robust h A (Pure.pure a) Q s := by
  intro plan
  exact ⟨by simp, hQ⟩

theorem perform {c : C} {Q : Except ε (V c) → σ → Prop} (hc : A c)
    (hreply : Q (h c s).1 (h c s).2) (hlost : ∀ e, Q (.error e) s)
    (happlied : ∀ e, Q (.error e) (h c s).2) :
    Robust h A (Prog.perform c) Q s := by
  intro plan
  refine ⟨?_, ?_⟩
  · intro c' hc'
    rw [Prog.calls_perform, List.mem_singleton] at hc'
    rw [hc']
    exact hc
  · rw [Prog.run_perform]
    cases hplan : plan 0 with
    | none =>
        rw [withFaults_of_none h c s hplan]
        exact hreply
    | some f =>
        rw [withFaults_of_some h c s hplan]
        by_cases hf : f.applied
        · rw [if_pos hf]
          exact happlied f.err
        · rw [if_neg hf]
          exact hlost f.err

theorem perform_of_eq {c : C} {Q : Except ε (V c) → σ → Prop} {r : Except ε (V c)} {s' : σ}
    (hcall : h c s = (r, s')) (hc : A c) (hreply : Q r s') (hlost : ∀ e, Q (.error e) s)
    (happlied : ∀ e, Q (.error e) s') : Robust h A (Prog.perform c) Q s := by
  refine perform hc ?_ hlost ?_
  · rw [hcall]
    exact hreply
  · rw [hcall]
    exact happlied

/-- A call that reads: whether a failing one was applied makes no difference. -/
theorem read_of_eq {c : C} {Q : Except ε (V c) → σ → Prop} {r : Except ε (V c)}
    (hcall : h c s = (r, s)) (hc : A c) (hreply : Q r s) (herror : ∀ e, Q (.error e) s) :
    Robust h A (Prog.perform c) Q s :=
  perform_of_eq hcall hc hreply herror herror

theorem bind {p : Prog C (fun c => Except ε (V c)) α}
    {f : α → Prog C (fun c => Except ε (V c)) β} {Q : β → σ → Prop}
    (hp : Robust h A p (fun a s => Robust h A (f a) Q s) s) :
    Robust h A (p >>= f) Q s := by
  intro plan
  obtain ⟨hcalls, hrest⟩ := hp plan
  obtain ⟨hcalls', hQ⟩ := hrest (p.run (withFaults h) (s, plan)).2.2
  rw [Prog.calls_bind, Prog.run_bind]
  refine ⟨?_, hQ⟩
  intro c hc
  rcases List.mem_append.mp hc with hc | hc
  · exact hcalls c hc
  · exact hcalls' c hc

theorem mono {p : Prog C (fun c => Except ε (V c)) α} {Q Q' : α → σ → Prop}
    (hp : Robust h A p Q s) (hQ : ∀ a s, Q a s → Q' a s) : Robust h A p Q' s := by
  intro plan
  obtain ⟨hcalls, hpost⟩ := hp plan
  exact ⟨hcalls, hQ _ _ hpost⟩

theorem and {p : Prog C (fun c => Except ε (V c)) α} {Q Q' : α → σ → Prop}
    (hp : Robust h A p Q s) (hp' : Robust h A p Q' s) :
    Robust h A p (fun a s => Q a s ∧ Q' a s) s := by
  intro plan
  exact ⟨(hp plan).1, (hp plan).2, (hp' plan).2⟩

/-- Loop rule.  The invariant `I` speaks of the elements still to come, the
accumulator and the state; an early exit establishes `E` instead. -/
theorem loop {body : α → β → Prog C (fun c => Except ε (V c)) (Prog.Flow β ρ)}
    (I : List α → β → σ → Prop) (E : ρ → σ → Prop)
    (hbody : ∀ x xs b s, I (x :: xs) b s →
      Robust h A (body x b) (fun r s => r.elim (I xs · s) (E · s)) s)
    (xs : List α) (b : β) (s : σ) (hI : I xs b s) :
    Robust h A (Prog.loop body xs b) (fun r s => r.elim (I [] · s) (E · s)) s := by
  induction xs generalizing b s with
  | nil => exact pure hI
  | cons x xs ih =>
      rw [Prog.loop_cons]
      apply bind
      apply mono (hbody x xs b s hI)
      intro r s' hr
      cases r with
      | next b' => exact ih b' s' hr
      | exit r => exact pure hr

theorem of_uses {B : C → Prop} {I : σ → Prop} {p : Prog C (fun c => Except ε (V c)) α}
    (hp : Prog.Uses B p) (hstep : ∀ c s, B c → I s → I (h c s).2) (hs : I s) :
    Robust h (fun _ => True) p (fun _ s => I s) s := by
  intro plan
  refine ⟨fun _ _ => trivial, ?_⟩
  refine hp.invariant (h := withFaults h) (I := fun s => I s.1) ?_ hs
  intro c s hc hs
  rcases withFaults_state h c s with hstate | hstate
  · rw [hstate]
    exact hstep c s.1 hc hs
  · rw [hstate]
    exact hs

theorem of_returns {Q : α → Prop} {p : Prog C (fun c => Except ε (V c)) α}
    (hp : Prog.Returns Q p) : Robust h (fun _ => True) p (fun a _ => Q a) s :=
  fun _ => ⟨fun _ _ => trivial, hp.run _ _⟩

end Robust

theorem plan_run {P : Option (Fault ε) → Prop} (h : Handler C (fun c => Except ε (V c)) σ)
    (p : Prog C (fun c => Except ε (V c)) α) {s : σ × FaultPlan ε} (hs : ∀ n, P (s.2 n)) :
    ∀ n, P ((p.run (withFaults h) s).2.2 n) := by
  induction p generalizing s with
  | ret a => exact hs
  | call c k ih =>
      apply ih
      intro n
      unfold withFaults
      split <;> exact hs (n + 1)

theorem run_withFaults_none (h : Handler C (fun c => Except ε (V c)) σ)
    (p : Prog C (fun c => Except ε (V c)) α) (s : σ) :
    p.run (withFaults h) (s, fun _ => none) = ((p.run h s).1, (p.run h s).2, fun _ => none) := by
  induction p generalizing s with
  | ret a => rfl
  | call c k ih => exact ih (h c s).1 (h c s).2

end VNodeOperator.ProofSupport
