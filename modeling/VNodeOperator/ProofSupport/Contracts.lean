import VNodeOperator.ProofSupport.Faults
import VNodeOperator.ProofSupport.Layers
import VNodeOperator.ProofSupport.Threads

/-!
# Contracts

A contract says what a program may call and what it may count on in return.
`Meets` is the judgment that a program keeps its side as long as the replies
keep theirs; unlike `Uses` it lets a later call depend on what an earlier reply
is known to hold.  A contract carries over to the layer below (`Meets.expand`)
and to a program some of whose calls fail (`Meets.struck`); programs that keep one
take turns without leaving an invariant that its calls keep
(`Threads.Reaches.invariant_of_meets`).
-/

namespace VNodeOperator.ProofSupport

/-- The calls a program may make and the replies it may expect to them. -/
structure Contract (C : Type) (R : C → Type) where
  may : C → Prop
  gets : (c : C) → R c → Prop

namespace Prog

variable {C : Type} {R : C → Type} {α β ρ σ : Type}

/-- While the replies are what `K` promises, the calls are those it allows, and the
value returned is in `Q`. -/
def Meets (K : Contract C R) (Q : α → Prop) : Prog C R α → Prop
  | .ret a => Q a
  | .call c k => K.may c ∧ ∀ r, K.gets c r → Meets K Q (k r)

namespace Meets

variable {K : Contract C R} {Q : α → Prop} {p : Prog C R α}

theorem always (p : Prog C R α) : Meets ⟨fun _ => True, fun _ _ => True⟩ (fun _ => True) p := by
  induction p with
  | ret a => trivial
  | call c k ih => exact ⟨trivial, fun r _ => ih r⟩

theorem of_uses {A : C → Prop} (hp : Uses A p) (hA : ∀ c, A c → K.may c) :
    Meets K (fun _ => True) p := by
  induction p with
  | ret a => trivial
  | call c k ih => exact ⟨hA c hp.1, fun r _ => ih r (hp.2 r)⟩

theorem perform {c : C} (hc : K.may c) : Meets K (K.gets c) (Prog.perform c) :=
  ⟨hc, fun _ hr => hr⟩

theorem bind {f : α → Prog C R β} {Q' : β → Prop} (hp : Meets K Q p)
    (hf : ∀ a, Q a → Meets K Q' (f a)) : Meets K Q' (p >>= f) := by
  induction p with
  | ret a => exact hf a hp
  | call c k ih => exact ⟨hp.1, fun r hr => ih r (hp.2 r hr)⟩

theorem call {c : C} {f : R c → Prog C R β} {Q' : β → Prop} (hc : K.may c)
    (hf : ∀ r, K.gets c r → Meets K Q' (f r)) : Meets K Q' (Prog.perform c >>= f) :=
  bind (perform hc) hf

theorem mono {Q' : α → Prop} (hp : Meets K Q p) (hQ : ∀ a, Q a → Q' a) : Meets K Q' p := by
  induction p with
  | ret a => exact hQ a hp
  | call c k ih => exact ⟨hp.1, fun r hr => ih r (hp.2 r hr)⟩

theorem last {c : C} (hc : K.may c) : Meets K (fun _ => True) (Prog.perform c) :=
  (perform hc).mono fun _ _ => trivial

/-- Loop rule: the body keeps `J` of the accumulator for the elements of the list, and
exits early in `E`. -/
theorem loop {body : α → β → Prog C R (Flow β ρ)} (J : β → Prop) (E : ρ → Prop) {xs : List α}
    (hbody : ∀ x ∈ xs, ∀ b, J b → Meets K (Flow.elim J E) (body x b)) {b : β} (hb : J b) :
    Meets K (Flow.elim J E) (Prog.loop body xs b) := by
  induction xs generalizing b with
  | nil => exact hb
  | cons x xs ih =>
      rw [loop_cons]
      apply bind (hbody x List.mem_cons_self b hb)
      intro r hr
      cases r with
      | next b' => exact ih (fun y hy => hbody y (List.mem_cons_of_mem x hy)) hr
      | exit e => exact hr

/-- Each call of a layer keeps the contract of the layer below, and its result is what
the contract of the layer above promises. -/
theorem expand {C' : Type} {R' : C' → Type} {K' : Contract C' R'}
    {f : (c : C) → Prog C' R' (R c)} (hp : Meets K Q p)
    (hf : ∀ c, K.may c → Meets K' (K.gets c) (f c)) : Meets K' Q (p.expand f) := by
  induction p with
  | ret a => exact hp
  | call c k ih => exact bind (hf c hp.1) fun r hr => ih r (hp.2 r hr)

end Meets

theorem Uses.always (p : Prog C R α) : Uses (fun _ => True) p := by
  induction p with
  | ret a => trivial
  | call c k ih => exact ⟨trivial, ih⟩

theorem Meets.uses {K : Contract C R} {Q : α → Prop} {p : Prog C R α} (hp : Meets K Q p)
    (hgets : ∀ c r, K.gets c r) : Uses K.may p := by
  induction p with
  | ret a => trivial
  | call c k ih => exact ⟨hp.1, fun r => ih r (hp.2 r (hgets c r))⟩

theorem Returns.expand {C' : Type} {R' : C' → Type} {Q : α → Prop} {p : Prog C R α}
    (hp : Returns Q p) (f : (c : C) → Prog C' R' (R c)) : Returns Q (p.expand f) := by
  induction p with
  | ret a => exact hp
  | call c k ih => exact Returns.bind (Returns.always (f c)) fun r _ => ih r (hp r)

end Prog

/-! ## Failing calls as a part of the program -/

section

variable {C : Type} {V : C → Type} {ε σ α : Type}

/-- The program with its faults built in: a failed call is left out, or made and its
reply lost. -/
def Prog.struck : Prog C (fun c => Except ε (V c)) α → FaultPlan ε →
    Prog C (fun c => Except ε (V c)) α
  | .ret a, _ => .ret a
  | .call c k, plan =>
      match plan 0 with
      | none => .call c fun r => (k r).struck fun n => plan (n + 1)
      | some f =>
          if f.applied then .call c fun _ => (k (.error f.err)).struck fun n => plan (n + 1)
          else (k (.error f.err)).struck fun n => plan (n + 1)

/-- Building the faults in is the same as letting the handler make them. -/
theorem Prog.run_struck (h : Handler C (fun c => Except ε (V c)) σ)
    (p : Prog C (fun c => Except ε (V c)) α) (plan : FaultPlan ε) (s : σ) :
    (p.struck plan).run h s =
      ((p.run (withFaults h) (s, plan)).1, (p.run (withFaults h) (s, plan)).2.1) := by
  induction p generalizing plan s with
  | ret a => rfl
  | call c k ih =>
      rw [Prog.struck, Prog.run]
      cases hplan : plan 0 with
      | none =>
          rw [withFaults_of_none h c s hplan]
          exact ih _ _ _
      | some f =>
          rw [withFaults_of_some h c s hplan]
          by_cases hf : f.applied
          · simp only [hf, if_true]
            exact ih _ _ _
          · simp only [hf]
            exact ih _ _ _

/-- A contract that promises nothing of an error survives every fault. -/
theorem Prog.Meets.struck {K : Contract C (fun c => Except ε (V c))} {Q : α → Prop}
    {p : Prog C (fun c => Except ε (V c)) α} (hp : Prog.Meets K Q p)
    (herror : ∀ c e, K.gets c (.error e)) (plan : FaultPlan ε) :
    Prog.Meets K Q (p.struck plan) := by
  induction p generalizing plan with
  | ret a => exact hp
  | call c k ih =>
      have hfailed : ∀ f : Fault ε, Prog.Meets K Q
          ((k (.error f.err)).struck fun n => plan (n + 1)) :=
        fun f => ih _ (hp.2 _ (herror c f.err)) _
      rw [Prog.struck]
      split
      · exact ⟨hp.1, fun r hr => ih r (hp.2 r hr) _⟩
      · next f _ =>
          split
          · exact ⟨hp.1, fun _ _ => hfailed f⟩
          · exact hfailed f

end

/-! ## Programs that take turns -/

/-- If the threads that may move keep a contract, they keep the invariant that the calls it
allows keep, and under which the replies are what it promises. -/
theorem Threads.Reaches.invariant_of_meets {C : Type} {R : C → Type} {ι σ : Type} {α : ι → Type}
    [DecidableEq ι] {h : Handler C R σ} {allowed : Threads C R α σ → ι → Prop}
    {t₀ t : Threads C R α σ} {K : Contract C R} {Q : (i : ι) → α i → Prop} {I : σ → Prop}
    (hreach : Reaches h allowed t₀ t)
    (hmeets : ∀ i, (∃ t, allowed t i) → Prog.Meets K (Q i) (t₀.prog i)) (hstart : I t₀.shared)
    (hkeep : ∀ c s, K.may c → I s → I (h c s).2 ∧ K.gets c (h c s).1) : I t.shared := by
  have hinv : (∀ i, (∃ t, allowed t i) → Prog.Meets K (Q i) (t.prog i)) ∧ I t.shared := by
    refine hreach.invariant
      (I := fun t' => (∀ i, (∃ t, allowed t i) → Prog.Meets K (Q i) (t'.prog i)) ∧ I t'.shared)
      ⟨hmeets, hstart⟩ ?_
    rintro t t' i ⟨hmeets, hshared⟩ hallowed hstep
    obtain ⟨c, k, hcall⟩ := exists_call_of_step hstep
    obtain ⟨hafter, hself, hothers⟩ := step_call hcall hstep
    have hi := hmeets i ⟨t, hallowed⟩
    rw [hcall] at hi
    obtain ⟨hinv, hgets⟩ := hkeep c t.shared hi.1 hshared
    constructor
    · intro j hj'
      by_cases hj : j = i
      · subst hj
        rw [hself]
        exact hi.2 _ hgets
      · rw [hothers j hj]
        exact hmeets j hj'
    · rw [hafter]
      exact hinv
  exact hinv.2

end VNodeOperator.ProofSupport
