import VNodeOperator.ProofSupport.Program

/-!
# Calls made of smaller calls

A call of one layer is a program of the layer below.  `expand` replaces each
call by its program; running the expansion is running the original with every
call answered by a complete run of its program (`run_expand`).  What differs is
the grain: the expansion can fail, or be interleaved, in the middle of a call.
-/

namespace VNodeOperator.ProofSupport.Prog

variable {C C' : Type} {R : C → Type} {R' : C' → Type} {α β σ : Type}

/-- Replace every call by the program that implements it. -/
def expand (f : (c : C) → Prog C' R' (R c)) : Prog C R α → Prog C' R' α
  | .ret a => .ret a
  | .call c k => f c >>= fun r => (k r).expand f

/-- Answer a call by running the program that implements it. -/
def via (h : Handler C' R' σ) (f : (c : C) → Prog C' R' (R c)) : Handler C R σ :=
  fun c s => (f c).run h s

theorem run_expand (h : Handler C' R' σ) (f : (c : C) → Prog C' R' (R c)) (p : Prog C R α)
    (s : σ) : (p.expand f).run h s = p.run (via h f) s := by
  induction p generalizing s with
  | ret a => rfl
  | call c k ih =>
      rw [expand, run_bind, ih]
      rfl

theorem expand_bind (f : (c : C) → Prog C' R' (R c)) (p : Prog C R α) (g : α → Prog C R β) :
    (p >>= g).expand f = p.expand f >>= fun a => (g a).expand f := by
  induction p with
  | ret a => rfl
  | call c k ih =>
      change (f c >>= fun r => (k r >>= g).expand f) =
        (f c >>= fun r => (k r).expand f) >>= fun a => (g a).expand f
      rw [bind_assoc]
      congr 1
      funext r
      exact ih r

theorem expand_perform (f : (c : C) → Prog C' R' (R c)) (c : C) : (perform c).expand f = f c := by
  change (f c >>= fun r => .ret r) = f c
  induction f c with
  | ret a => rfl
  | call c k ih => exact congrArg (Prog.call c) (funext ih)

theorem expand_loop {ρ : Type} (f : (c : C) → Prog C' R' (R c))
    (body : α → β → Prog C R (Flow β ρ)) (xs : List α) (b : β) :
    (loop body xs b).expand f = loop (fun x b => (body x b).expand f) xs b := by
  induction xs generalizing b with
  | nil => rfl
  | cons x xs ih =>
      rw [loop_cons, loop_cons, expand_bind]
      congr 1
      funext r
      cases r with
      | next b' => exact ih b'
      | exit r => rfl

theorem Uses.expand {A : C → Prop} {B : C' → Prop} {f : (c : C) → Prog C' R' (R c)}
    {p : Prog C R α} (hp : Uses A p) (hf : ∀ c, A c → Uses B (f c)) : Uses B (p.expand f) := by
  induction p with
  | ret a => trivial
  | call c k ih => exact bind (hf c hp.1) (fun r => ih r (hp.2 r))

end VNodeOperator.ProofSupport.Prog
