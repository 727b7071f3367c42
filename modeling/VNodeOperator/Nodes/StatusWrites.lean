import VNodeOperator.ProofSupport.RelyGuarantee
import VNodeOperator.Requests

/-!
# Saving a virtual node while others run

`Save` reads the resource, writes its annotations and then its status, request by
request.  As long as nobody else writes the same resource in between, it succeeds
and leaves the phase it was given.  Its status write is its last request, so a
caller that gets an error has written no phase.
-/

namespace VNodeOperator.Nodes

open Model Kube Adapter Ports ProofSupport

def phaseAt (k : ObjKey) (w : Cluster) : Option NodePhase :=
  (w.vnodes.get k).map VNodeCR.phase

/-- The store works as the API server does, and whatever the registrar reports, it
leaves the virtual nodes alone. -/
structure StoreServed {σ : Type} (env : Env) (h : Handler Request Request.Reply σ)
    (view : σ → Cluster) : Prop where
  api : ∀ c s, (h (.api c) s).1 = (api env c (view s)).1 ∧
    view (h (.api c) s).2 = (api env c (view s)).2
  port : ∀ c s, (c.isRegistrar ∨ c = .now) → (view (h (.port c) s).2).vnodes = (view s).vnodes

def Touches (k : ObjKey) : Request → Prop
  | .api (.createVNode cr) | .api (.updateVNode cr) | .api (.updateVNodeStatus cr) => cr.key = k
  | .api (.deleteVNode k') => k' = k
  | .api _ => False
  | .port (.register node _) | .port (.deregister node _) | .port (.updateNodeStatus node _) =>
      NodeRepository.keyOf node = k
  | .port c => c ≠ .now

def SameStored {σ : Type} (view : σ → Cluster) (k : ObjKey) (s s' : σ) : Prop :=
  (view s').vnodes.get k = (view s).vnodes.get k

section

variable {σ : Type} {env : Env} {h : Handler Request Request.Reply σ} {view : σ → Cluster}
  {k : ObjKey} {s : σ}

theorem SameStored.trans {s s' s'' : σ} (h : SameStored view k s s')
    (h' : SameStored view k s' s'') : SameStored view k s s'' :=
  Eq.trans h' h

theorem sameStored_of_not_touches (hserved : StoreServed env h view) {r : Request}
    (hr : ¬ Touches k r) (s : σ) : SameStored view k s (h r s).2 := by
  unfold SameStored
  cases r with
  | api c =>
      rw [(hserved.api c s).2]
      cases vnodeStep_api env c (view s) with
      | same heq => rw [heq]
      | created cr clock hc hfree heq =>
          subst hc
          rw [heq]
          exact Store.get_put_ne _ hr
      | updated cr old hc hold heq =>
          subst hc
          rw [heq]
          exact Store.get_put_ne _ hr
      | statusUpdated cr old hc hold heq =>
          subst hc
          rw [heq]
          exact Store.get_put_ne _ (fun hkey => hr ((Store.key_of_get hold).symm.trans hkey))
      | deleted k' hc heq =>
          subst hc
          rw [heq]
          exact Store.get_erase_ne _ hr
  | port c =>
      rw [hserved.port c s]
      cases c with
      | now => exact Or.inr rfl
      | register node tenant => exact Or.inl rfl
      | deregister node tenant => exact Or.inl rfl
      | updateNodeStatus node tenant => exact Or.inl rfl
      | _ => exact absurd nofun hr

/-! ## Requests that nobody interferes with -/

theorem ends_request (hserved : StoreServed env h view) {c : ApiCall}
    {Q : Except Err c.Value → σ → Prop}
    (hQ : ∀ s' s'', SameStored view k s s' → view s'' = (api env c (view s')).2 →
      Q (api env c (view s')).1 s'') :
    Prog.Ends h (SameStored view k) (Prog.perform (Request.api c)) Q s := by
  intro s' hsame
  have hreply := (hserved.api c s').1
  have hview := (hserved.api c s').2
  have hend := hQ s' (h (.api c) s').2 hsame hview
  rw [← hreply] at hend
  exact hend

variable {cr old : VNodeCR}

theorem ends_getVNode (hserved : StoreServed env h view)
    {Q : Except Err VNodeCR → σ → Prop}
    (hfound : ∀ cr s', (view s).vnodes.get k = some cr → (view s').vnodes.get k = some cr →
      Q (.ok cr) s')
    (hmissing : ∀ err s', (view s).vnodes.get k = none → (view s').vnodes.get k = none →
      err.isNotFound = true → Q (.error err) s') :
    Prog.Ends h (SameStored view k) (Prog.perform (Request.api (.getVNode k))) Q s := by
  apply ends_request hserved
  intro s' s'' hsame hview
  rw [SameStored] at hsame
  simp only [api] at hview ⊢
  cases hget : (view s).vnodes.get k with
  | none =>
      rw [hget] at hsame
      simp only [find, hsame]
      exact hmissing _ s'' hget (by rw [hview, hsame]) rfl
  | some cr =>
      rw [hget] at hsame
      simp only [find, hsame]
      exact hfound cr s'' hget (by rw [hview, hsame])

theorem ends_updateVNode (hserved : StoreServed env h view) {Q : Except Err Unit → σ → Prop}
    (hold : (view s).vnodes.get k = some old) (hkey : cr.key = k)
    (hversion : cr.resourceVersion = old.resourceVersion)
    (hQ : ∀ s' cr', (view s').vnodes.get k = some cr' → Q (.ok ()) s') :
    Prog.Ends h (SameStored view k) (Prog.perform (Request.api (.updateVNode cr))) Q s := by
  apply ends_request hserved
  intro s' s'' hsame hview
  rw [SameStored, hold, ← hkey] at hsame
  simp only [api, hsame, hversion, ne_eq, not_true_eq_false, if_false] at hview ⊢
  apply hQ s''
  rw [hview, ← hkey]
  exact Store.get_put_self _ _

theorem ends_updateVNodeStatus (hserved : StoreServed env h view)
    {Q : Except Err Unit → σ → Prop} (hold : (view s).vnodes.get k = some old)
    (hkey : cr.key = k) (hversion : cr.resourceVersion = old.resourceVersion)
    (hQ : ∀ s', phaseAt k (view s') = some cr.phase → Q (.ok ()) s') :
    Prog.Ends h (SameStored view k) (Prog.perform (Request.api (.updateVNodeStatus cr))) Q s := by
  apply ends_request hserved
  intro s' s'' hsame hview
  rw [SameStored, hold, ← hkey] at hsame
  simp only [api, hsame, hversion, ne_eq, not_true_eq_false, if_false] at hview ⊢
  apply hQ s''
  have hold' : old.key = k := (Store.key_of_get hold)
  rw [phaseAt, hview, ← hold']
  exact congrArg (Option.map VNodeCR.phase) (Store.get_put_self _ _)

theorem ends_createVNode (hserved : StoreServed env h view)
    {Q : Except Err VNodeCR → σ → Prop} (hfree : (view s).vnodes.get k = none)
    (hkey : cr.key = k)
    (hQ : ∀ created s', created.key = k → (view s').vnodes.get k = some created →
      Q (.ok created) s') :
    Prog.Ends h (SameStored view k) (Prog.perform (Request.api (.createVNode cr))) Q s := by
  apply ends_request hserved
  intro s' s'' hsame hview
  rw [SameStored, hfree, ← hkey] at hsame
  simp only [api, hsame] at hview ⊢
  refine hQ _ s'' hkey ?_
  rw [hview, ← hkey]
  exact Store.get_put_self _ _

/-! ## The whole of `Save` -/

theorem apiRequests_retryOnConflict (fn : Api (Except Err Unit)) :
    ∀ n, apiRequests (retryOnConflict n fn) = retryOnConflict n (apiRequests fn)
  | 0 => rfl
  | n + 1 => by
      rw [retryOnConflict, retryOnConflict, apiRequests, Prog.expand_bind]
      congr 1
      funext r
      cases r with
      | ok u => rfl
      | error err =>
          dsimp only
          split
          · exact apiRequests_retryOnConflict fn n
          · rfl

theorem ends_retryOnConflict {P : σ → Prop} {fn : Req (Except Err Unit)}
    (hfn : Prog.Ends h (SameStored view k) fn (fun r s' => r = .ok () ∧ P s') s) :
    ∀ n, Prog.Ends h (SameStored view k) (retryOnConflict n fn) (fun r s' => r = .ok () ∧ P s') s
  | 0 => hfn
  | n + 1 => by
      rw [retryOnConflict]
      apply hfn.bind
      rintro r s' ⟨rfl, hP⟩
      exact ⟨rfl, hP⟩

variable {node : VNode}

theorem ends_updateStatus (hserved : StoreServed env h view)
    (hkey : NodeRepository.keyOf node = k) (hold : (view s).vnodes.get k = some old) :
    Prog.Ends h (SameStored view k) (apiRequests (NodeRepository.updateStatus node))
      (fun r s' => r = .ok () ∧ phaseAt k (view s') = some node.phase) s := by
  rw [NodeRepository.updateStatus, apiRequests_retryOnConflict]
  apply ends_retryOnConflict
  rw [hkey]
  refine Prog.Ends.bind (Q := fun r s' => ∃ cr, r = .ok cr ∧ (view s').vnodes.get k = some cr)
    (ends_getVNode hserved (fun cr s' _ hget => ⟨cr, rfl, hget⟩)
      (fun err s' hnone => absurd (hold.symm.trans hnone) nofun)) ?_
  rintro r s' ⟨cr, rfl, hget⟩
  have hcr : cr.key = k := Store.key_of_get hget
  refine Prog.Ends.bind (Q := fun r s' => r = .ok () ∧ phaseAt k (view s') = some node.phase)
    (ends_updateVNodeStatus hserved hget hcr rfl
      (fun s'' hphase => ⟨rfl, hphase⟩)) ?_
  rintro r s'' ⟨rfl, hphase⟩
  exact ⟨rfl, hphase⟩

theorem ends_updateAnnotations (hserved : StoreServed env h view)
    (hkey : NodeRepository.keyOf node = k) (hold : (view s).vnodes.get k = some old) :
    Prog.Ends h (SameStored view k) (apiRequests (NodeRepository.updateAnnotations node))
      (fun r s' => r = .ok () ∧ ∃ cr, (view s').vnodes.get k = some cr) s := by
  rw [NodeRepository.updateAnnotations, apiRequests_retryOnConflict]
  apply ends_retryOnConflict
  rw [hkey]
  refine Prog.Ends.bind (Q := fun r s' => ∃ cr, r = .ok cr ∧ (view s').vnodes.get k = some cr)
    (ends_getVNode hserved (fun cr s' _ hget => ⟨cr, rfl, hget⟩)
      (fun err s' hnone => absurd (hold.symm.trans hnone) nofun)) ?_
  rintro r s' ⟨cr, rfl, hget⟩
  have hcr : cr.key = k := Store.key_of_get hget
  exact ends_updateVNode hserved hget hcr rfl
    (fun s'' cr' hget' => ⟨rfl, cr', hget'⟩)

theorem ends_save (hserved : StoreServed env h view) (hkey : NodeRepository.keyOf node = k)
    (s : σ) :
    Prog.Ends h (SameStored view k) (apiRequests (NodeRepository.save node))
      (fun r s' => r = .ok () ∧ phaseAt k (view s') = some node.phase) s := by
  unfold NodeRepository.save
  rw [hkey]
  refine Prog.Ends.bind
    (Q := fun r s' => (∃ cr, r = .ok cr ∧ (view s').vnodes.get k = some cr) ∨
      ∃ err, r = .error err ∧ err.isNotFound = true ∧ (view s').vnodes.get k = none)
    (ends_getVNode hserved (fun cr s' _ hget => Or.inl ⟨cr, rfl, hget⟩)
      (fun err s' _ hnone herr => Or.inr ⟨err, rfl, herr, hnone⟩)) ?_
  rintro r s' (⟨cr, rfl, hget⟩ | ⟨err, rfl, herr, hnone⟩)
  · change Prog.Ends _ _ (apiRequests (NodeRepository.updateAnnotations node >>= _)) _ _
    rw [apiRequests, Prog.expand_bind]
    apply (ends_updateAnnotations hserved hkey hget).bind
    rintro r s'' ⟨rfl, cr', hget'⟩
    exact ends_updateStatus hserved hkey hget'
  · change Prog.Ends _ _ (apiRequests (if err.isNotFound = true then _ else _)) _ _
    rw [if_pos herr]
    refine Prog.Ends.bind
      (Q := fun r s' => ∃ cr, r = .ok cr ∧ cr.key = k ∧ (view s').vnodes.get k = some cr)
      (ends_createVNode hserved hnone hkey
        (fun created s' hcreated hget => ⟨created, rfl, hcreated, hget⟩)) ?_
    rintro r s'' ⟨created, rfl, hcreated, hget⟩
    refine Prog.Ends.bind (Q := fun r s' => r = .ok () ∧ phaseAt k (view s') = some node.phase)
      (ends_updateVNodeStatus hserved hget hcreated rfl (fun s'' hphase => ⟨rfl, hphase⟩)) ?_
    rintro r s₃ ⟨rfl, hphase⟩
    exact ⟨rfl, hphase⟩

end

/-! ## A save that others may disturb -/

/-- What a request has to do with the phase: after a status write that succeeds
the program goes on in `A`; nothing is deleted, and no port is used. -/
def Continues {α : Type} (A : Req α → Prop) : (r : Request) → (r.Reply → Req α) → Prop
  | .api (.updateVNodeStatus _), rest => A (rest (.ok ()))
  | .api (.deleteVNode _), _ => False
  | .api _, _ => True
  | .port _, _ => False

/-- Up to a program in `S` every request is such a one. -/
def Until {α : Type} (S A : Req α → Prop) : Req α → Prop
  | .ret _ => True
  | .call r rest =>
      S (.call r rest) ∨ (∀ reply, Until S A (rest reply)) ∧ Continues A r rest

section

variable {α β : Type} {A : Req α → Prop} {S' A' : Req β → Prop}

theorem Continues.bind {r : Request} {rest : r.Reply → Req α} (h : Continues A r rest)
    {f : α → Req β} (hA : ∀ q, A q → A' (q >>= f)) :
    Continues A' r (fun reply => rest reply >>= f) := by
  cases r with
  | port c => exact h
  | api c =>
      cases c with
      | updateVNodeStatus cr => exact hA _ h
      | _ => exact h

theorem Until.bind {p : Req α} (hp : Until (fun _ => False) A p) {f : α → Req β}
    (hf : ∀ a, Until S' A' (f a)) (hA : ∀ q, A q → A' (q >>= f)) : Until S' A' (p >>= f) := by
  induction p with
  | ret a => exact hf a
  | call r rest ih =>
      rcases hp with hstop | ⟨hrest, hcontinues⟩
      · exact hstop.elim
      · exact Or.inr ⟨fun reply => ih reply (hrest reply), hcontinues.bind hA⟩

def Succeeded (q : Req (Except Err Unit)) : Prop := q = .ret (.ok ())

theorem until_retryOnConflict {fn : Req (Except Err Unit)} {A : Req (Except Err Unit) → Prop}
    (hfn : Until (fun _ => False) A fn) (hA : ∀ q, A q → Succeeded q) :
    ∀ n, Until (fun _ => False) A (retryOnConflict n fn)
  | 0 => hfn
  | n + 1 => by
      rw [retryOnConflict]
      apply hfn.bind
      · intro r
        cases r with
        | ok u => trivial
        | error err =>
            dsimp only
            split
            · exact until_retryOnConflict hfn hA n
            · trivial
      · intro q hq
        cases hA q hq
        exact hq

theorem until_updateStatus (node : VNode) :
    Until (fun _ => False) Succeeded (apiRequests (NodeRepository.updateStatus node)) := by
  rw [NodeRepository.updateStatus, apiRequests_retryOnConflict]
  refine until_retryOnConflict ?_ (fun _ hq => hq) _
  refine Or.inr ⟨?_, trivial⟩
  intro current
  cases current with
  | error err => trivial
  | ok current =>
      refine Or.inr ⟨?_, rfl⟩
      intro written
      cases written <;> trivial

theorem until_updateAnnotations (node : VNode) :
    Until (fun _ => False) (fun _ => False)
      (apiRequests (NodeRepository.updateAnnotations node)) := by
  rw [NodeRepository.updateAnnotations, apiRequests_retryOnConflict]
  refine until_retryOnConflict ?_ (fun _ hq => hq.elim) _
  refine Or.inr ⟨?_, trivial⟩
  intro current
  cases current with
  | error err => trivial
  | ok current => exact Or.inr ⟨fun _ => trivial, trivial⟩

/-- A status write that succeeds ends the save. -/
theorem until_save (node : VNode) :
    Until (fun _ => False) Succeeded (apiRequests (NodeRepository.save node)) := by
  refine Or.inr ⟨?_, trivial⟩
  intro current
  cases current with
  | ok current =>
      change Until _ _ (apiRequests (NodeRepository.updateAnnotations node >>= _))
      rw [apiRequests, Prog.expand_bind]
      apply (until_updateAnnotations node).bind
      · intro annotated
        cases annotated with
        | error err => trivial
        | ok u => exact until_updateStatus node
      · exact fun _ hq => hq.elim
  | error err =>
      change Until _ _ (apiRequests (if err.isNotFound = true then _ else _))
      split
      · refine Or.inr ⟨?_, trivial⟩
        intro created
        cases created with
        | error err => trivial
        | ok cr =>
            refine Or.inr ⟨?_, rfl⟩
            intro written
            cases written with
            | ok u => trivial
            | error err =>
                change Until _ _ (apiRequests (if (err.isConflict || err.isNotFound) = true then _
                  else _))
                split
                · exact until_updateStatus node
                · trivial
      · trivial

variable {σ : Type} {env : Env} {h : Handler Request Request.Reply σ} {view : σ → Cluster}

/-- Short of a status write that succeeds, a stored phase stays what it is. -/
theorem Continues.phaseAt_eq (hserved : StoreServed env h view) {r : Request}
    {rest : r.Reply → Req α} (hr : Continues A r rest) (k : ObjKey) (s : σ) :
    phaseAt k (view (h r s).2) = phaseAt k (view s) ∨ phaseAt k (view s) = none ∨
      A (rest (h r s).1) := by
  cases r with
  | port c => exact hr.elim
  | api c =>
      obtain ⟨hreply, hview⟩ := hserved.api c s
      by_cases hstatus : ∃ cr, c = .updateVNodeStatus cr
      · obtain ⟨cr, rfl⟩ := hstatus
        rw [hreply, hview]
        simp only [api]
        split
        · exact Or.inl rfl
        · split
          · exact Or.inl rfl
          · exact Or.inr (Or.inr hr)
      · unfold phaseAt
        rw [hview]
        cases vnodeStep_api env c (view s) with
        | same heq => exact Or.inl (by rw [heq])
        | created cr clock hc hfree heq =>
            rw [heq, Store.get_put]
            split
            · next hkey => exact Or.inr (Or.inl (by rw [← hkey]; exact congrArg _ hfree))
            · exact Or.inl rfl
        | updated cr old hc hold heq =>
            rw [heq, Store.get_put]
            split
            · next hkey =>
                refine Or.inl ?_
                rw [← hkey]
                exact (congrArg (Option.map VNodeCR.phase) hold).symm
            · exact Or.inl rfl
        | statusUpdated cr old hc hold heq => exact absurd ⟨cr, hc⟩ hstatus
        | deleted k' hc heq =>
            subst hc
            exact hr.elim

end

/-! ## A save of another node -/

section

variable {σ : Type} {env : Env} {h : Handler Request Request.Reply σ} {view : σ → Cluster}
  {k : ObjKey} {node : VNode}

theorem get_of_reply_getVNode (hserved : StoreServed env h view) {k' : ObjKey} {s : σ}
    {cr : VNodeCR} (hreply : (h (.api (.getVNode k')) s).1 = .ok cr) :
    (view s).vnodes.get k' = some cr := by
  rw [(hserved.api _ s).1] at hreply
  simp only [api, find] at hreply
  split at hreply
  · next cr' hget =>
      cases hreply
      exact hget
  · cases hreply

theorem key_of_reply_getVNode (hserved : StoreServed env h view) {k' : ObjKey} {s : σ}
    {cr : VNodeCR} (hreply : (h (.api (.getVNode k')) s).1 = .ok cr) : cr.key = k' :=
  Store.key_of_get (get_of_reply_getVNode hserved hreply)

theorem key_of_reply_createVNode (hserved : StoreServed env h view) {cr created : VNodeCR} {s : σ}
    (hreply : (h (.api (.createVNode cr)) s).1 = .ok created) : created.key = cr.key := by
  rw [(hserved.api _ s).1] at hreply
  simp only [api] at hreply
  split at hreply
  · cases hreply
  · cases hreply
    rfl

theorem issues_retryOnConflict {A : Request → Prop} {fn : Req (Except Err Unit)}
    (hfn : Prog.Issues h A fn) : ∀ n, Prog.Issues h A (retryOnConflict n fn)
  | 0 => hfn
  | n + 1 => by
      rw [retryOnConflict]
      apply hfn.bind
      intro r
      cases r with
      | ok u => trivial
      | error err =>
          dsimp only
          split
          · exact issues_retryOnConflict hfn n
          · trivial

theorem issues_updateStatus (hserved : StoreServed env h view)
    (hne : NodeRepository.keyOf node ≠ k) :
    Prog.Issues h (fun r => ¬ Touches k r) (apiRequests (NodeRepository.updateStatus node)) := by
  rw [NodeRepository.updateStatus, apiRequests_retryOnConflict]
  apply issues_retryOnConflict
  refine ⟨id, ?_⟩
  intro s
  cases hreply : (h (.api (.getVNode (NodeRepository.keyOf node))) s).1 with
  | error err => trivial
  | ok current =>
      have hkey := key_of_reply_getVNode hserved hreply
      refine ⟨fun htouches => hne (hkey.symm.trans htouches), ?_⟩
      intro s'
      cases (h (.api (.updateVNodeStatus (NodeRepository.applyNodeStatus current node))) s').1 <;>
        trivial

theorem issues_updateAnnotations (hserved : StoreServed env h view)
    (hne : NodeRepository.keyOf node ≠ k) :
    Prog.Issues h (fun r => ¬ Touches k r)
      (apiRequests (NodeRepository.updateAnnotations node)) := by
  rw [NodeRepository.updateAnnotations, apiRequests_retryOnConflict]
  apply issues_retryOnConflict
  refine ⟨id, ?_⟩
  intro s
  cases hreply : (h (.api (.getVNode (NodeRepository.keyOf node))) s).1 with
  | error err => trivial
  | ok current =>
      have hkey := key_of_reply_getVNode hserved hreply
      exact ⟨fun htouches => hne (hkey.symm.trans htouches), fun _ => trivial⟩

theorem issues_save (hserved : StoreServed env h view) (hne : NodeRepository.keyOf node ≠ k) :
    Prog.Issues h (fun r => ¬ Touches k r) (apiRequests (NodeRepository.save node)) := by
  refine ⟨id, ?_⟩
  intro s
  cases (h (.api (.getVNode (NodeRepository.keyOf node))) s).1 with
  | ok current =>
      change Prog.Issues _ _ (apiRequests (NodeRepository.updateAnnotations node >>= _))
      rw [apiRequests, Prog.expand_bind]
      apply (issues_updateAnnotations hserved hne).bind
      intro annotated
      cases annotated with
      | error err => trivial
      | ok u => exact issues_updateStatus hserved hne
  | error err =>
      change Prog.Issues _ _ (apiRequests (if err.isNotFound = true then _ else _))
      split
      · refine ⟨hne, ?_⟩
        intro s'
        cases hreply : (h (.api (.createVNode (NodeRepository.newCR node))) s').1 with
        | error err => trivial
        | ok cr =>
            have hkey := key_of_reply_createVNode hserved hreply
            refine ⟨fun htouches => hne (hkey.symm.trans htouches), ?_⟩
            intro s''
            generalize (h (.api (.updateVNodeStatus (NodeRepository.applyNodeStatus cr node)))
              s'').1 = written
            cases written with
            | ok u => trivial
            | error err =>
                change Prog.Issues _ _ (apiRequests (if (err.isConflict || err.isNotFound) = true
                  then _ else _))
                split
                · exact issues_updateStatus hserved hne
                · trivial
      · trivial

end

end VNodeOperator.Nodes
