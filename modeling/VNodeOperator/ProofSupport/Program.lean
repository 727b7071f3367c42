import Mathlib.Data.List.Basic

/-!
# Programs as trees of calls

A controller issues calls and branches on their replies.  Keeping the program
as a tree, apart from whatever answers the calls, lets one definition be run
to completion against a state (`Prog.run`), have its calls listed in order
(`Prog.calls`), or be interleaved call by call with other programs.

`Uses A p` says what a program can call whatever the replies are; from it follow
the calls of every run and the invariants that those calls keep.
-/

namespace VNodeOperator.ProofSupport

/-- A program returning `α`, whose calls `c : C` are answered in `R c`. -/
inductive Prog (C : Type) (R : C → Type) (α : Type) where
  | ret (a : α) : Prog C R α
  | call (c : C) (k : R c → Prog C R α) : Prog C R α

/-- What answers the calls: a reply and the state after the call. -/
abbrev Handler (C : Type) (R : C → Type) (σ : Type) := (c : C) → σ → R c × σ

namespace Prog

variable {C : Type} {R : C → Type} {α β γ σ ρ : Type}

protected def bind (p : Prog C R α) (f : α → Prog C R β) : Prog C R β :=
  match p with
  | .ret a => f a
  | .call c k => .call c (fun r => (k r).bind f)

instance : Monad (Prog C R) where
  pure := .ret
  bind := Prog.bind

def perform (c : C) : Prog C R (R c) := .call c .ret

theorem bind_assoc (p : Prog C R α) (f : α → Prog C R β) (g : β → Prog C R γ) :
    (p >>= f) >>= g = p >>= fun a => f a >>= g := by
  induction p with
  | ret a => rfl
  | call c k ih => exact congrArg (Prog.call c) (funext ih)

/-! ## Running a program to completion -/

def run (h : Handler C R σ) : Prog C R α → σ → α × σ
  | .ret a, s => (a, s)
  | .call c k, s => run h (k (h c s).1) (h c s).2

def calls (h : Handler C R σ) : Prog C R α → σ → List C
  | .ret _, _ => []
  | .call c k, s => c :: calls h (k (h c s).1) (h c s).2

def result : Prog C R α → Option α
  | .ret a => some a
  | .call _ _ => none

theorem eq_ret_of_result {p : Prog C R α} {a : α} (h : p.result = some a) : p = .ret a := by
  cases p with
  | ret b =>
      rw [result, Option.some.injEq] at h
      rw [h]
  | call c k => cases h

variable (h : Handler C R σ)

@[simp] theorem run_pure (a : α) (s : σ) :
    run h (pure a : Prog C R α) s = (a, s) := rfl

@[simp] theorem run_perform (c : C) (s : σ) : run h (perform c) s = h c s := rfl

@[simp] theorem run_bind (p : Prog C R α) (f : α → Prog C R β) (s : σ) :
    run h (p >>= f) s = run h (f (run h p s).1) (run h p s).2 := by
  induction p generalizing s with
  | ret a => rfl
  | call c k ih => exact ih _ _

@[simp] theorem calls_pure (a : α) (s : σ) :
    calls h (pure a : Prog C R α) s = [] := rfl

@[simp] theorem calls_perform (c : C) (s : σ) : calls h (perform c) s = [c] := rfl

@[simp] theorem calls_bind (p : Prog C R α) (f : α → Prog C R β) (s : σ) :
    calls h (p >>= f) s =
      calls h p s ++ calls h (f (run h p s).1) (run h p s).2 := by
  induction p generalizing s with
  | ret a => rfl
  | call c k ih => exact congrArg (c :: ·) (ih _ _)

/-! ## Loops with an early exit -/

/-- How a loop body ends: with the accumulator for the next element, or with
the value the enclosing function returns at once. -/
inductive Flow (β ρ : Type) where
  | next (b : β)
  | exit (r : ρ)

def Flow.elim (f : β → γ) (g : ρ → γ) : Flow β ρ → γ
  | .next b => f b
  | .exit r => g r

/-- Run `body` over a list, threading the accumulator, until it is exhausted
or the body exits. -/
def loop (body : α → β → Prog C R (Flow β ρ)) : List α → β → Prog C R (Flow β ρ)
  | [], b => pure (.next b)
  | x :: xs, b => do
      match ← body x b with
      | .next b' => loop body xs b'
      | .exit r => pure (.exit r)

@[simp] theorem loop_nil (body : α → β → Prog C R (Flow β ρ)) (b : β) :
    loop body [] b = pure (.next b) := rfl

theorem loop_cons (body : α → β → Prog C R (Flow β ρ)) (x : α) (xs : List α) (b : β) :
    loop body (x :: xs) b = (body x b >>= fun r =>
      match r with
      | .next b' => loop body xs b'
      | .exit r => pure (.exit r)) := rfl

/-! ## Calls a program can make, whatever the replies -/

/-- Every call the program can reach, under any replies, is in `A`. -/
def Uses (A : C → Prop) : Prog C R α → Prop
  | .ret _ => True
  | .call c k => A c ∧ ∀ r, Uses A (k r)

namespace Uses

variable {A A' : C → Prop} {p : Prog C R α}

theorem pure (a : α) : Uses A (Pure.pure a : Prog C R α) := trivial

theorem perform {c : C} (hc : A c) : Uses A (Prog.perform c : Prog C R (R c)) :=
  ⟨hc, fun _ => trivial⟩

theorem bind {f : α → Prog C R β} (hp : Uses A p) (hf : ∀ a, Uses A (f a)) :
    Uses A (p >>= f) := by
  induction p with
  | ret a => exact hf a
  | call c k ih => exact ⟨hp.1, fun r => ih r (hp.2 r)⟩

theorem mono (hp : Uses A p) (h : ∀ c, A c → A' c) : Uses A' p := by
  induction p with
  | ret a => trivial
  | call c k ih => exact ⟨h c hp.1, fun r => ih r (hp.2 r)⟩

theorem and (hp : Uses A p) (hp' : Uses A' p) : Uses (fun c => A c ∧ A' c) p := by
  induction p with
  | ret a => trivial
  | call c k ih => exact ⟨⟨hp.1, hp'.1⟩, fun r => ih r (hp.2 r) (hp'.2 r)⟩

theorem loop_of_mem {body : α → β → Prog C R (Flow β ρ)} {xs : List α}
    (hbody : ∀ x ∈ xs, ∀ b, Uses A (body x b)) (b : β) : Uses A (Prog.loop body xs b) := by
  induction xs generalizing b with
  | nil => trivial
  | cons x xs ih =>
      rw [loop_cons]
      apply bind (hbody x List.mem_cons_self b)
      intro r
      cases r with
      | next b' => exact ih (fun y hy => hbody y (List.mem_cons_of_mem x hy)) b'
      | exit r => trivial

theorem loop {body : α → β → Prog C R (Flow β ρ)}
    (hbody : ∀ x b, Uses A (body x b)) (xs : List α) (b : β) :
    Uses A (Prog.loop body xs b) :=
  loop_of_mem (fun x _ => hbody x) b

theorem calls (hp : Uses A p) (h : Handler C R σ) (s : σ) : ∀ c ∈ p.calls h s, A c := by
  induction p generalizing s with
  | ret a => exact fun _ hc => (List.not_mem_nil hc).elim
  | call c k ih =>
      intro c' hc'
      rcases List.mem_cons.mp hc' with rfl | hc'
      · exact hp.1
      · exact ih _ (hp.2 _) _ c' hc'

/-- A program confined to `A` keeps every invariant that each call of `A` keeps. -/
theorem invariant {h : Handler C R σ} {I : σ → Prop} (hp : Uses A p)
    (hstep : ∀ c s, A c → I s → I (h c s).2) {s : σ} (hs : I s) : I (p.run h s).2 := by
  induction p generalizing s with
  | ret a => exact hs
  | call c k ih => exact ih _ (hp.2 _) (hstep c s hp.1 hs)

end Uses

/-- The calls the program issues are in `A`, whatever states they meet. -/
def Issues (h : Handler C R σ) (A : C → Prop) : Prog C R α → Prop
  | .ret _ => True
  | .call c k => A c ∧ ∀ s, Issues h A (k (h c s).1)

namespace Issues

variable {h : Handler C R σ} {A : C → Prop} {p : Prog C R α}

theorem of_uses (hp : Uses A p) : Issues h A p := by
  induction p with
  | ret a => trivial
  | call c k ih => exact ⟨hp.1, fun s => ih _ (hp.2 _)⟩

theorem bind {f : α → Prog C R β} (hp : Issues h A p) (hf : ∀ a, Issues h A (f a)) :
    Issues h A (p >>= f) := by
  induction p with
  | ret a => exact hf a
  | call c k ih => exact ⟨hp.1, fun s => ih _ (hp.2 s)⟩

end Issues

/-! ## Values a program can return, whatever the replies -/

/-- Every value the program can return, under any replies, is in `Q`. -/
def Returns (Q : α → Prop) : Prog C R α → Prop
  | .ret a => Q a
  | .call _ k => ∀ r, Returns Q (k r)

namespace Returns

variable {Q : α → Prop} {p : Prog C R α}

theorem always (p : Prog C R α) : Returns (fun _ => True) p := by
  induction p with
  | ret a => trivial
  | call c k ih => exact ih

theorem bind {Q' : β → Prop} {f : α → Prog C R β} (hp : Returns Q p)
    (hf : ∀ a, Q a → Returns Q' (f a)) : Returns Q' (p >>= f) := by
  induction p with
  | ret a => exact hf a hp
  | call c k ih => exact fun r => ih r (hp r)

theorem loop {body : α → β → Prog C R (Flow β ρ)} {E : ρ → Prop}
    (hbody : ∀ x b, Returns (Flow.elim (fun _ => True) E) (body x b)) (xs : List α) (b : β) :
    Returns (Flow.elim (fun _ => True) E) (Prog.loop body xs b) := by
  induction xs generalizing b with
  | nil => trivial
  | cons x xs ih =>
      rw [loop_cons]
      apply bind (hbody x b)
      intro r hr
      cases r with
      | next b' => exact ih b'
      | exit r => exact hr

theorem run (hp : Returns Q p) (h : Handler C R σ) (s : σ) : Q (p.run h s).1 := by
  induction p generalizing s with
  | ret a => exact hp
  | call c k ih => exact ih _ (hp _) _

end Returns

/-- Every value the program can return is in `Q` as long as the replies are in `G`. -/
def Yields (G : (c : C) → R c → Prop) (Q : α → Prop) : Prog C R α → Prop
  | .ret a => Q a
  | .call c k => ∀ r, G c r → Yields G Q (k r)

namespace Yields

variable {G : (c : C) → R c → Prop} {Q : α → Prop} {p : Prog C R α}

theorem perform {c : C} {Q : R c → Prop} (hQ : ∀ r, G c r → Q r) :
    Yields G Q (Prog.perform c : Prog C R (R c)) := hQ

theorem bind {Q' : β → Prop} {f : α → Prog C R β} (hp : Yields G Q p)
    (hf : ∀ a, Q a → Yields G Q' (f a)) : Yields G Q' (p >>= f) := by
  induction p with
  | ret a => exact hf a hp
  | call c k ih => exact fun r hr => ih r (hp r hr)

theorem run {h : Handler C R σ} {I : σ → Prop} (hp : Yields G Q p)
    (hstep : ∀ c s, I s → I (h c s).2 ∧ G c (h c s).1) {s : σ} (hs : I s) :
    Q (p.run h s).1 := by
  induction p generalizing s with
  | ret a => exact hp
  | call c k ih =>
      obtain ⟨hinv, hreply⟩ := hstep c s hs
      exact ih _ (hp _ hreply) hinv

end Yields

end Prog

end VNodeOperator.ProofSupport
