import VNodeOperator.ProofSupport.WorkQueue
import VNodeOperator.Reconciler.Watches
import VNodeOperator.Requests

/-!
# The controllers and their queues

Each controller takes a key out of its queue, runs its reconcile request by request
while others change the clusters, and is woken by the events of its watches.
-/

namespace VNodeOperator.Operator

open Model Kube Ports ProofSupport Reconciler

/-- Requests fail, or are refused, for any reason but a missing object and a shutdown: the
operator takes those two for an answer. -/
def Outage (e : Err) : Prop :=
  e.kind ≠ .notFound ∧ e.kind ≠ .canceled ∧ e.kind ≠ .deadlineExceeded

/-- A controller of the operator, for one key.  `split` spells its calls out as requests.  A
watch begins with a create event for each object that is there. -/
def controller (env : Env) (split : (c : Call) → Req c.Reply) (program : Svc (Result × Option Err))
    (enqueued : Cluster → Cluster → List ObjKey) (k : ObjKey)
    (others : Cluster → Cluster → Prop) :
    Controller Request Request.Value Err (Result × Option Err) Cluster where
  handler := serve env
  fails := Outage
  reconcile := program.expand split
  wakes w w' := k ∈ enqueued w w'
  listed w := k ∈ enqueued { w with vnodes := .empty, pools := .empty } w
  again := comesAgain
  others := others

theorem Outage.isNotFound {e : Err} (h : Outage e) : e.isNotFound = false :=
  decide_eq_false h.1

theorem Outage.shutdown {e : Err} (h : Outage e) :
    (e.kind = .canceled || e.kind = .deadlineExceeded : Bool) = false := by
  simp [h.2.1, h.2.2]

section

variable {env : Env} {split : (c : Call) → Req c.Reply} {program : Svc (Result × Option Err)}
  {enqueued : Cluster → Cluster → List ObjKey} {k : ObjKey} {others : Cluster → Cluster → Prop}
  {I : Interference Cluster} {α : Type} {w : Cluster}

abbrev Unwoken {β : Type} (env : Env) (split : (c : Call) → Req c.Reply)
    (program : Svc (Result × Option Err)) (enqueued : Cluster → Cluster → List ObjKey)
    (k : ObjKey) (others : Cluster → Cluster → Prop) (I : Interference Cluster) (p : Req β)
    (Q : β → Cluster → Prop) (w : Cluster) : Prop :=
  Controller.Unwoken (controller env split program enqueued k others) I p Q w

theorem unwoken_bind {β : Type} {p : Svc β} {f : β → Svc α} {Q : β → Cluster → Prop}
    {Q' : α → Cluster → Prop}
    (hp : Unwoken env split program enqueued k others I (p.expand split) Q w)
    (hf : ∀ b w, Q b w →
      Unwoken env split program enqueued k others I ((f b).expand split) Q' w) :
    Unwoken env split program enqueued k others I ((p >>= f).expand split) Q' w := by
  rw [Prog.expand_bind]
  exact hp.bind hf

theorem unwoken_ask {c : Call} {f : c.Reply → Svc α} {Q : c.Reply → Cluster → Prop}
    {Q' : α → Cluster → Prop} (hc : Unwoken env split program enqueued k others I (split c) Q w)
    (hf : ∀ r w, Q r w →
      Unwoken env split program enqueued k others I ((f r).expand split) Q' w) :
    Unwoken env split program enqueued k others I ((ask c >>= f).expand split) Q' w := by
  refine unwoken_bind ?_ hf
  rw [ask, Prog.expand_perform]
  exact hc

/-- One API request of an adapter, and what follows it: the reply, or an error with the
effect or without. -/
theorem unwoken_request {c : ApiCall} {f : c.Reply → Api α} {Q : α → Cluster → Prop}
    (hreply : ∀ w', I.inv w' → I.rel w w' → k ∉ enqueued w' (api env c w').2 →
      Unwoken env split program enqueued k others I (apiRequests (f (api env c w').1)) Q
        (api env c w').2)
    (hlost : ∀ w' e, I.inv w' → I.rel w w' → Outage e →
      Unwoken env split program enqueued k others I (apiRequests (f (.error e))) Q w')
    (happlied : ∀ w' e, I.inv w' → I.rel w w' → Outage e → k ∉ enqueued w' (api env c w').2 →
      Unwoken env split program enqueued k others I (apiRequests (f (.error e))) Q
        (api env c w').2) :
    Unwoken env split program enqueued k others I (apiRequests (request c >>= f)) Q w :=
  fun w' hinv hrel => ⟨fun hw => hreply w' hinv hrel (of_decide_eq_false hw),
    fun e he => ⟨hlost w' e hinv hrel he,
      fun hw => happlied w' e hinv hrel he (of_decide_eq_false hw)⟩⟩

def onApi (A : ApiCall → Prop) : Request → Prop
  | .api c => A c
  | .port _ => False

theorem unwoken_apiBind {β : Type} {p : Api β} {f : β → Api α} {Q : β → Cluster → Prop}
    {Q' : α → Cluster → Prop}
    (hp : Unwoken env split program enqueued k others I (apiRequests p) Q w)
    (hf : ∀ b w, Q b w →
      Unwoken env split program enqueued k others I (apiRequests (f b)) Q' w) :
    Unwoken env split program enqueued k others I (apiRequests (p >>= f)) Q' w := by
  rw [apiRequests, Prog.expand_bind]
  exact hp.bind hf

/-- Repeating a write after conflicts ends in what one attempt ends in. -/
theorem unwoken_retry {C : Type} {R : C → Type} {spell : (c : C) → Req (R c)}
    {fn : Prog C R (Except Err Unit)} {P : Cluster → Prop} {Q : Except Err Unit → Cluster → Prop}
    (hfn : ∀ w, P w → Unwoken env split program enqueued k others I (fn.expand spell)
      (fun r w' => P w' ∧ Q r w') w) :
    ∀ n {w}, P w → Unwoken env split program enqueued k others I
      ((retryOnConflict n fn).expand spell) (fun r w' => P w' ∧ Q r w') w
  | 0, w, hw => hfn w hw
  | n + 1, w, hw => by
      rw [retryOnConflict, Prog.expand_bind]
      refine (hfn w hw).bind ?_
      rintro r w' ⟨hP, hQ⟩
      cases r with
      | ok u => exact ⟨hP, hQ⟩
      | error err =>
          dsimp only
          split
          · exact unwoken_retry hfn n hP
          · exact ⟨hP, hQ⟩

theorem unwoken_retryOnConflict {fn : Api (Except Err Unit)} {P : Cluster → Prop}
    {Q : Except Err Unit → Cluster → Prop}
    (hfn : ∀ w, P w → Unwoken env split program enqueued k others I (apiRequests fn)
      (fun r w' => P w' ∧ Q r w') w) (n : Nat) (hw : P w) :
    Unwoken env split program enqueued k others I (apiRequests (retryOnConflict n fn))
      (fun r w' => P w' ∧ Q r w') w :=
  unwoken_retry hfn n hw

theorem unwoken_port {c : Call} {Q : c.Reply → Cluster → Prop}
    (hreply : ∀ w', I.inv w' → I.rel w w' → k ∉ enqueued w' (handle env c w').2 →
      Q (handle env c w').1 (handle env c w').2)
    (hlost : ∀ w' e, I.inv w' → I.rel w w' → Outage e → Q (.error e) w')
    (happlied : ∀ w' e, I.inv w' → I.rel w w' → Outage e → k ∉ enqueued w' (handle env c w').2 →
      Q (.error e) (handle env c w').2) :
    Unwoken env split program enqueued k others I (Prog.perform (Request.port c)) Q w :=
  fun w' hinv hrel => ⟨fun hw => hreply w' hinv hrel (of_decide_eq_false hw),
    fun e he => ⟨hlost w' e hinv hrel he,
      fun hw => happlied w' e hinv hrel he (of_decide_eq_false hw)⟩⟩

theorem unwoken_read {c : Call} (hread : c.isRead = true) {Q : c.Reply → Cluster → Prop}
    (hreply : ∀ w', I.inv w' → I.rel w w' → Q (handle env c w').1 w')
    (hfails : ∀ w' e, I.inv w' → I.rel w w' → Outage e → Q (.error e) w') :
    Unwoken env split program enqueued k others I (Prog.perform (Request.port c)) Q w := by
  refine unwoken_port ?_ hfails ?_
  · intro w' hinv hrel _
    rw [handle_read env w' hread]
    exact hreply w' hinv hrel
  · intro w' e hinv hrel he _
    rw [handle_read env w' hread]
    exact hfails w' e hinv hrel he

theorem unwoken_getVNodePool {key : ObjKey} {Q : Except Err VNodePoolCR → Cluster → Prop}
    (hfound : ∀ w' cr, I.inv w' → I.rel w w' → w'.pools.get key = some cr → Q (.ok cr) w')
    (hmissing : ∀ w' e, I.inv w' → I.rel w w' → w'.pools.get key = none →
      e.isNotFound = true → Q (.error e) w')
    (hfails : ∀ w' e, I.inv w' → I.rel w w' → Outage e → Q (.error e) w') :
    Unwoken env split program enqueued k others I
      (Prog.perform (Request.port (.getVNodePool key))) Q w := by
  refine unwoken_read rfl ?_ hfails
  intro w' hinv hrel
  cases hget : w'.pools.get key with
  | none =>
      simp only [handle, find_none _ _ hget]
      exact hmissing w' _ hinv hrel hget rfl
  | some cr =>
      simp only [handle, find_some _ _ hget]
      exact hfound w' cr hinv hrel hget

end

end VNodeOperator.Operator
