import VNodeOperator.Nodes.Outcomes
import VNodeOperator.ProofSupport.Faults

/-!
# Which outcome is stored last

Several writers of one virtual node take turns, request by request.  A save reads
the resource again and retries on conflict, so the version check orders single
writes and not the outcomes they carry: a writer that is slow to save stores its
outcome over a newer one.  If nobody disturbs a writer between its registrar call
and its end, the last outcome is the one that stays.
-/

namespace VNodeOperator.Nodes

open Model Kube Adapter Ports ProofSupport Service NodeService Reconciler

/-! ## Interleavings -/

section

variable {σ ι : Type} (env : Env) (h : Handler Request Request.Reply σ) (view : σ → Cluster)
  (k : ObjKey) (writers : ι → Writer)

def writing (s : σ) : Threads Request Request.Reply (fun _ : ι => Unit) σ where
  shared := s
  prog i := Prog.expand (grain env) ((writers i).program k)

def computed (x : ι × Event Request σ) : Option NodePhase :=
  if registrarOn k x.2.call then (writers x.1).verdict (x.2.reply h) else none

/-- The phase computed from the registrar call that completed last. -/
def lastComputed (log : List (ι × Event Request σ)) : Option NodePhase :=
  (log.filterMap (computed h k writers)).getLast?

/-- The thread has the outcome of its registrar call and is not done with it. -/
def Outstanding (log : List (ι × Event Request σ))
    (t : Threads Request Request.Reply (fun _ : ι => Unit) σ) (i : ι) : Prop :=
  (∃ e, (i, e) ∈ log ∧ registrarOn k e.call = true) ∧ (t.prog i).result = none

/-- Thread `i` writes the resource or asks the registrar only while nobody else has an
outcome to store, and a reconcile asks only if the phase it has read is still the
stored one. -/
structure Orderly (log : List (ι × Event Request σ))
    (t : Threads Request Request.Reply (fun _ : ι => Unit) σ) (i : ι) : Prop where
  alone : ∀ r rest, t.prog i = .call r rest → Touches k r →
    ∀ j, j ≠ i → ¬ Outstanding k log t j
  fresh : ∀ r rest, t.prog i = .call r rest → registrarOn k r = true → writers i = .reconcile →
    ∀ e, (i, e) ∈ log → e.call = .api (.getVNode k) →
      phaseAt k (view e.before) = phaseAt k (view t.shared)

inductive Place (log : List (ι × Event Request σ)) (i : ι) (p : Req Unit) : Prop
  | approaching (happroaching : Approaching h view k (writers i) p)
  | reading (hwriter : writers i = .reconcile)
      (hprog : p = Prog.expand (grain env) (Writer.program k .reconcile))
  | asking (hwriter : writers i = .reconcile) (e : Event Request σ) (he : (i, e) ∈ log)
      (hread : e.call = .api (.getVNode k))
      (hasks : Asks h view k .reconcile
        (fun s => phaseAt k (view s) = phaseAt k (view e.before)) p)

/-- The last outcome is stored, or some `Provision` is going to have another. -/
def Good (log : List (ι × Event Request σ)) (prog : ι → Req Unit) (s : σ) : Prop :=
  (∃ j, Announced h view k (writers j) (prog j)) ∨
    ∀ phase, lastComputed h k writers log = some phase → phaseAt k (view s) = some phase

/-- At most one thread has an outcome to store, and stores it if it is left alone. -/
inductive Tracked (log : List (ι × Event Request σ))
    (t : Threads Request Request.Reply (fun _ : ι => Unit) σ) : Prop
  | quiet (hplace : ∀ i, Place env h view k writers log i (t.prog i))
      (hgood : Good h view k writers log t.prog t.shared)
  | busy (i : ι) (hplace : ∀ j, j ≠ i → Place env h view k writers log j (t.prog j))
      (houtstanding : Outstanding k log t i)
      (huses : Prog.Uses (fun r => registrarOn k r = false) (t.prog i))
      (hends : Prog.Ends h (SameStored view k) (t.prog i)
        (fun _ s => Good h view k writers log t.prog s) t.shared)

variable {env h view k writers}
variable {log : List (ι × Event Request σ)}
  {t t' : Threads Request Request.Reply (fun _ : ι => Unit) σ} {i : ι} {r : Request}
  {rest : r.Reply → Req Unit}

theorem lastComputed_append (x : ι × Event Request σ) :
    lastComputed h k writers (log ++ [x]) =
      (computed h k writers x).or (lastComputed h k writers log) := by
  unfold lastComputed
  rw [List.filterMap_append, List.getLast?_append]
  cases hx : computed h k writers x <;> simp [hx]

theorem lastComputed_append_of_not_registrarOn {e : Event Request σ}
    (he : registrarOn k e.call = false) :
    lastComputed h k writers (log ++ [(i, e)]) = lastComputed h k writers log := by
  rw [lastComputed_append, computed, he]
  rfl

theorem Announced.registrarOn {w : Writer} (hp : Announced h view k w (.call r rest)) :
    registrarOn k r = true := by
  obtain ⟨_, c, rest', hprog, hon, _⟩ := hp
  cases hprog
  exact hon

theorem Place.mono {log' : List (ι × Event Request σ)} {p : Req Unit}
    (hp : Place env h view k writers log i p) (hlog : ∀ x ∈ log, x ∈ log') :
    Place env h view k writers log' i p := by
  cases hp with
  | approaching happroaching => exact .approaching happroaching
  | reading hwriter hprog => exact .reading hwriter hprog
  | asking hwriter e he hread hasks => exact .asking hwriter e (hlog _ he) hread hasks

/-- A request that leaves the node alone brings a thread no closer to an outcome than
its registrar call. -/
theorem Place.step (hserved : StoreServed env h view) {s : σ}
    (hp : Place env h view k writers log i (.call r rest)) (hr : ¬ Touches k r) :
    Place env h view k writers (log ++ [(i, ⟨r, s⟩)]) i (rest (h r s).1) := by
  have hoff := registrarOn_of_not_touches hr
  cases hp with
  | approaching happroaching =>
      refine .approaching ?_
      rcases happroaching with (hannounced | hissues) | ⟨hrest, _⟩
      · rw [hannounced.registrarOn] at hoff
        cases hoff
      · exact Off.approaching (hissues.2 s)
      · exact hrest _
  | reading hwriter hprog =>
      obtain ⟨rest', hstart, herror, hcases⟩ := reconcile_expand (k := k) hserved
      rw [hstart] at hprog
      cases hprog
      cases hreply : (h (.api (.getVNode k)) s).1 with
      | error err =>
          rw [herror]
          exact .approaching trivial
      | ok cr =>
          rcases hcases cr (key_of_reply_getVNode hserved hreply) with hissues | hasks
          · exact .approaching hissues.approaching
          · have hphase : phaseAt k (view s) = some cr.phase :=
              congrArg (Option.map VNodeCR.phase) (get_of_reply_getVNode hserved hreply)
            rw [← hphase] at hasks
            exact .asking hwriter _ (List.mem_append_right _ (List.mem_singleton_self _)) rfl hasks
  | asking hwriter e he hread hasks =>
      obtain ⟨c, rest', hprog, hon, _⟩ := hasks
      cases hprog
      rw [hon] at hoff
      cases hoff

theorem Good.step {prog prog' : ι → Req Unit} {log' : List (ι × Event Request σ)} {s s' : σ}
    (hgood : Good h view k writers log prog s) (hi : ¬ Announced h view k (writers i) (prog i))
    (hothers : ∀ j, j ≠ i → prog' j = prog j)
    (hlast : lastComputed h k writers log' = lastComputed h k writers log)
    (hphase : phaseAt k (view s') = phaseAt k (view s)) :
    Good h view k writers log' prog' s' := by
  rcases hgood with ⟨j, hannounced⟩ | hstored
  · refine Or.inl ⟨j, ?_⟩
    have hj : j ≠ i := by
      rintro rfl
      exact hi hannounced
    rw [hothers j hj]
    exact hannounced
  · refine Or.inr ?_
    intro phase hphase'
    rw [hlast] at hphase'
    rw [hphase]
    exact hstored phase hphase'

theorem Good.of_none {prog : ι → Req Unit} {s s' : σ} (hgood : Good h view k writers log prog s)
    (hnone : phaseAt k (view s) = none) : Good h view k writers log prog s' := by
  rcases hgood with hannounced | hstored
  · exact Or.inl hannounced
  · refine Or.inr ?_
    intro phase hlast
    have hphase := hstored phase hlast
    rw [hnone] at hphase
    cases hphase

/-- A thread that has asked the registrar is done, or the one that is busy. -/
theorem Tracked.of_ends (hplace : ∀ j, j ≠ i → Place env h view k writers log j (t.prog j))
    (hasked : ∃ e, (i, e) ∈ log ∧ registrarOn k e.call = true)
    (huses : Prog.Uses (fun r => registrarOn k r = false) (t.prog i))
    (hends : Prog.Ends h (SameStored view k) (t.prog i)
      (fun _ s => Good h view k writers log t.prog s) t.shared) :
    Tracked env h view k writers log t := by
  cases hprog : t.prog i with
  | ret a =>
      rw [hprog] at hends
      refine .quiet ?_ hends
      intro j
      by_cases hj : j = i
      · subst hj
        rw [hprog]
        exact .approaching trivial
      · exact hplace j hj
  | call r rest => exact .busy i hplace ⟨hasked, by rw [hprog]; rfl⟩ huses hends

section

variable [DecidableEq ι] (hserved : StoreServed env h view) (hprog : t.prog i = .call r rest)
  (hstep : t.step h i = some t')

include hprog hstep in
theorem place_others {x : ι × Event Request σ}
    (hplace : ∀ j, j ≠ i → Place env h view k writers log j (t.prog j)) :
    ∀ j, j ≠ i → Place env h view k writers (log ++ [x]) j (t'.prog j) := by
  intro j hj
  obtain ⟨_, _, hothers⟩ := Threads.step_call hprog hstep
  rw [hothers j hj]
  exact (hplace j hj).mono fun x hx => List.mem_append_left _ hx

include hserved hprog hstep in
theorem place_of_not_touches (hr : ¬ Touches k r) {P : ι → Prop}
    (hplace : ∀ j, P j → Place env h view k writers log j (t.prog j)) :
    ∀ j, P j → Place env h view k writers (log ++ [(i, ⟨r, t.shared⟩)]) j (t'.prog j) := by
  intro j hj
  obtain ⟨_, hself, hothers⟩ := Threads.step_call hprog hstep
  by_cases hji : j = i
  · subst hji
    rw [hself]
    have hmoved := hplace j hj
    rw [hprog] at hmoved
    exact hmoved.step hserved hr
  · rw [hothers j hji]
    exact (hplace j hj).mono fun x hx => List.mem_append_left _ hx

include hprog hstep in
theorem good_of_not_touches (hr : ¬ Touches k r) {s s' : σ} (hsame : SameStored view k s s')
    (hgood : Good h view k writers log t.prog s) :
    Good h view k writers (log ++ [(i, ⟨r, t.shared⟩)]) t'.prog s' := by
  obtain ⟨_, _, hothers⟩ := Threads.step_call hprog hstep
  refine hgood.step ?_ hothers
    (lastComputed_append_of_not_registrarOn (registrarOn_of_not_touches hr)) ?_
  · intro hannounced
    rw [hprog] at hannounced
    exact hr (touches_of_registrarOn hannounced.registrarOn)
  · rw [phaseAt, phaseAt, hsame]

include hserved hprog hstep

/-- On its way to the registrar a `Provision` keeps what is good, until it stores its
own pending phase. -/
theorem good_of_continues (hcontinues : Continues (Announced h view k (writers i)) r rest)
    (hgood : Good h view k writers log t.prog t.shared) :
    Good h view k writers (log ++ [(i, ⟨r, t.shared⟩)]) t'.prog t'.shared := by
  obtain ⟨hshared, hself, hothers⟩ := Threads.step_call hprog hstep
  have hoff : registrarOn k r = false := by
    cases r with
    | port c => exact hcontinues.elim
    | api c => rfl
  have hi : ¬ Announced h view k (writers i) (t.prog i) := by
    intro hannounced
    rw [hprog] at hannounced
    rw [hannounced.registrarOn] at hoff
    cases hoff
  have hlast : lastComputed h k writers (log ++ [(i, ⟨r, t.shared⟩)]) =
      lastComputed h k writers log := lastComputed_append_of_not_registrarOn hoff
  rcases hcontinues.phaseAt_eq hserved k t.shared with hsame | hnone | hannounced
  · rw [← hshared] at hsame
    exact hgood.step hi hothers hlast hsame
  · exact (hgood.of_none hnone).step hi hothers hlast rfl
  · rw [← hself] at hannounced
    exact Or.inl ⟨i, hannounced⟩

theorem tracked_of_asks {Pre : σ → Prop} (hplace : ∀ j, Place env h view k writers log j (t.prog j))
    (hgood : Good h view k writers log t.prog t.shared)
    (hasks : Asks h view k (writers i) Pre (t.prog i))
    (hpre : ∀ s, phaseAt k (view s) = phaseAt k (view t.shared) → Pre s) :
    Tracked env h view k writers (log ++ [(i, ⟨r, t.shared⟩)]) t' := by
  obtain ⟨hshared, hself, hothers⟩ := Threads.step_call hprog hstep
  obtain ⟨c, rest', hcall, hon, hconcludes⟩ := hasks
  rw [hprog] at hcall
  cases hcall
  have hphase : phaseAt k (view t'.shared) = phaseAt k (view t.shared) := by
    rw [hshared, phaseAt, phaseAt, hserved.port c _ (Or.inl (isRegistrar_of_registrarOn hon))]
  have hverdict : computed h k writers (i, ⟨.port c, t.shared⟩) =
      (writers i).verdict (h (.port c) t.shared).1 := by
    rw [computed, hon]
    rfl
  have hthread := hconcludes (h (.port c) t.shared).1 t'.shared (hpre _ hphase)
  rw [← hself] at hthread
  refine .of_ends (place_others hprog hstep fun j _ => hplace j)
    ⟨_, List.mem_append_right _ (List.mem_singleton_self _), hon⟩ hthread.uses
    (hthread.ends.mono ?_)
  intro u s hs
  rw [hphase] at hs
  cases ho : (writers i).verdict (h (.port c) t.shared).1 with
  | some phase =>
      refine Or.inr ?_
      intro phase' hlast
      rw [lastComputed_append, hverdict, ho] at hlast
      rw [hs, ho]
      exact hlast
  | none =>
      -- a cancelled reconcile: nothing is computed and nothing stored
      rw [ho] at hs
      refine hgood.step ?_ hothers ?_ hs
      · rintro ⟨⟨pool, hpool⟩, _⟩
        rw [hpool] at ho
        exact verdict_provision_ne_none pool _ ho
      · rw [lastComputed_append, hverdict, ho]
        rfl

theorem tracked_of_quiet (horderly : Orderly view k writers log t i)
    (hplace : ∀ j, Place env h view k writers log j (t.prog j))
    (hgood : Good h view k writers log t.prog t.shared) :
    Tracked env h view k writers (log ++ [(i, ⟨r, t.shared⟩)]) t' := by
  obtain ⟨hshared, hself, hothers⟩ := Threads.step_call hprog hstep
  by_cases hr : Touches k r
  · have hi := hplace i
    cases hi with
    | approaching happroaching =>
        rw [hprog] at happroaching
        rcases happroaching with (hannounced | hissues) | ⟨hrest, hcontinues⟩
        · rw [← hprog] at hannounced
          exact tracked_of_asks hserved hprog hstep hplace hgood hannounced.2 fun _ _ => trivial
        · exact absurd hr hissues.1
        · -- the first save of a `Provision`, which may store its pending phase
          refine .quiet ?_ ?_
          · intro j
            by_cases hj : j = i
            · subst hj
              rw [hself]
              exact .approaching (hrest _)
            · exact place_others hprog hstep (fun j _ => hplace j) j hj
          · exact good_of_continues hserved hprog hstep hcontinues hgood
    | reading hwriter hread =>
        obtain ⟨rest', hstart, _⟩ := reconcile_expand (k := k) hserved
        rw [hprog, hstart] at hread
        cases hread
        exact hr.elim
    | asking hwriter e he hread hasks =>
        have hon : registrarOn k r = true := by
          obtain ⟨c, rest', hcall, hon, _⟩ := hasks
          rw [hprog] at hcall
          cases hcall
          exact hon
        have hfresh := horderly.fresh r rest hprog hon hwriter e he hread
        rw [← hwriter] at hasks
        refine tracked_of_asks hserved hprog hstep hplace hgood hasks ?_
        intro s hs
        rw [hs, hfresh]
  · refine .quiet ?_ ?_
    · intro j
      exact place_of_not_touches (P := fun _ => True) hserved hprog hstep hr
        (fun j _ => hplace j) j trivial
    · refine good_of_not_touches hprog hstep hr ?_ hgood
      rw [hshared]
      exact sameStored_of_not_touches hserved hr t.shared

theorem tracked_of_busy (horderly : Orderly view k writers log t i) {j : ι}
    (hplace : ∀ j', j' ≠ j → Place env h view k writers log j' (t.prog j'))
    (houtstanding : Outstanding k log t j)
    (huses : Prog.Uses (fun r => registrarOn k r = false) (t.prog j))
    (hends : Prog.Ends h (SameStored view k) (t.prog j)
      (fun _ s => Good h view k writers log t.prog s) t.shared) :
    Tracked env h view k writers (log ++ [(i, ⟨r, t.shared⟩)]) t' := by
  obtain ⟨hshared, hself, hothers⟩ := Threads.step_call hprog hstep
  obtain ⟨⟨e, he, hon⟩, hnone⟩ := houtstanding
  have hasked : ∃ e, (j, e) ∈ log ++ [(i, ⟨r, t.shared⟩)] ∧ registrarOn k e.call = true :=
    ⟨e, List.mem_append_left _ he, hon⟩
  by_cases hij : i = j
  · -- the thread goes on storing its outcome, and may be done with it
    subst hij
    rw [hprog] at huses hends
    have hrest := hends t.shared rfl
    rw [← hself, ← hshared] at hrest
    have huses' := huses.2 (h r t.shared).1
    rw [← hself] at huses'
    refine .of_ends (place_others hprog hstep hplace) hasked huses' (hrest.mono ?_)
    intro u s hgood
    refine hgood.step ?_ hothers (lastComputed_append_of_not_registrarOn huses.1) rfl
    intro hannounced
    rw [hprog] at hannounced
    exact absurd hannounced.registrarOn (by rw [huses.1]; exact Bool.false_ne_true)
  · -- another thread moves, and so leaves the resource alone
    have hr : ¬ Touches k r := fun htouches =>
      horderly.alone r rest hprog htouches j (Ne.symm hij) ⟨⟨e, he, hon⟩, hnone⟩
    have hsame : SameStored view k t.shared t'.shared := by
      rw [hshared]
      exact sameStored_of_not_touches hserved hr t.shared
    have hj : t'.prog j = t.prog j := hothers j (Ne.symm hij)
    refine .busy j (place_of_not_touches hserved hprog hstep hr hplace) ⟨hasked, ?_⟩ ?_ ?_
    · rw [hj]
      exact hnone
    · rw [hj]
      exact huses
    · rw [hj]
      cases hcall : t.prog j with
      | ret a =>
          rw [hcall] at hnone
          cases hnone
      | call r' rest' =>
          rw [hcall] at hends
          refine (hends.rely (fun h h' => h.trans h') hsame).mono ?_
          intro u s hgood
          exact good_of_not_touches hprog hstep hr rfl hgood

end

variable [DecidableEq ι]

theorem tracked_of_runs (hserved : StoreServed env h view) {s₀ : σ}
    (hrun : Threads.Runs h (Orderly view k writers) (writing env k writers s₀) log t) :
    Tracked env h view k writers log t := by
  refine hrun.invariant (I := Tracked env h view k writers) ?_ ?_
  · refine .quiet ?_ (Or.inr nofun)
    intro i
    change Place _ _ _ _ _ _ _ (Prog.expand (grain env) ((writers i).program k))
    cases hwriter : writers i with
    | provision pool =>
        refine .approaching ?_
        rw [hwriter]
        exact approaching_provision hserved pool
    | reconcile => exact .reading hwriter rfl
  · intro log t t' i r rest htracked horderly hprog hstep
    cases htracked with
    | quiet hplace hgood => exact tracked_of_quiet hserved hprog hstep horderly hplace hgood
    | busy j hplace houtstanding huses hends =>
        exact tracked_of_busy hserved hprog hstep horderly hplace houtstanding huses hends

/-- In a run whose steps are all orderly the phase stored at the end is the one that
the last registrar call gave. -/
theorem last_outcome_stored (hserved : StoreServed env h view) {s₀ : σ} {phase : NodePhase}
    (hrun : Threads.Runs h (Orderly view k writers) (writing env k writers s₀) log t)
    (hdone : ∀ i, (t.prog i).result ≠ none)
    (hlast : lastComputed h k writers log = some phase) :
    phaseAt k (view t.shared) = some phase := by
  cases tracked_of_runs hserved hrun with
  | busy i _ houtstanding => exact absurd houtstanding.2 (hdone i)
  | quiet hplace hgood =>
      rcases hgood with ⟨j, _, c, rest, hprog, _⟩ | hstored
      · refine absurd ?_ (hdone j)
        rw [hprog]
        rfl
      · exact hstored phase hlast

end

/-! ## Two writers of one node -/

/-- The API server answers every request; registrar calls fail as the plan has it. -/
def registrarMayFail (env : Env) : Handler Request Request.Reply (Cluster × FaultPlan Err)
  | .api c, s => ((api env c s.1).1, (api env c s.1).2, s.2)
  | .port c, s =>
      if c.isRegistrar then withFaults (serve env) (.port c) s
      else ((handle env c s.1).1, (handle env c s.1).2, s.2)

theorem storeServed_registrarMayFail (env : Env) :
    StoreServed env (registrarMayFail env) Prod.fst := by
  refine ⟨fun _ _ => ⟨rfl, rfl⟩, ?_⟩
  rintro c s (hregistrar | rfl)
  · have hserve : (serve env (.port c) s.1).2.vnodes = s.1.vnodes := by
      change (handle env c s.1).2.vnodes = _
      rw [handle_registrar env s.1 hregistrar]
    rw [registrarMayFail, if_pos hregistrar]
    rcases withFaults_state (serve env) (.port c) s with hstate | hstate
    · rw [hstate, hserve]
    · rw [hstate]
  · rfl

inductive Rival where
  | provisioner
  | reconciler
  deriving DecidableEq

def Rival.writer : Rival → Writer
  | .provisioner => .provision (acmePool 1)
  | .reconciler => .reconcile

def rivalKey : ObjKey := NodeRepository.keyOf (newNode (acmePool 1) 0)

def rivals (plan : FaultPlan Err) :
    Threads Request Request.Reply (fun _ : Rival => Unit) (Cluster × FaultPlan Err) :=
  writing Env.plain rivalKey Rival.writer ({ tenants := fun _ => {} }, plan)

def firstCallFails : FaultPlan Err
  | 0 => some ⟨⟨.other, "connection refused"⟩, false⟩
  | _ => none

theorem orderly_provisioner (es : List (Event Request (Cluster × FaultPlan Err)))
    (t : Threads Request Request.Reply (fun _ : Rival => Unit) (Cluster × FaultPlan Err)) :
    Orderly Prod.fst rivalKey Rival.writer ([] ++ es.map (Prod.mk .provisioner)) t
      .provisioner := by
  refine ⟨?_, fun _ _ _ _ hwriter => nomatch hwriter⟩
  rintro _ _ _ _ j hj ⟨⟨e, he, _⟩, _⟩
  obtain ⟨_, _, heq⟩ := List.mem_map.mp he
  exact hj (Prod.ext_iff.mp heq).1.symm

theorem orderly_reconciler {log : List (Rival × Event Request (Cluster × FaultPlan Err))}
    {t : Threads Request Request.Reply (fun _ : Rival => Unit) (Cluster × FaultPlan Err)}
    (hdone : (t.prog .provisioner).result ≠ none)
    (hread : ∀ e, (Rival.reconciler, e) ∈ log →
      phaseAt rivalKey e.before.1 = phaseAt rivalKey t.shared.1) :
    Orderly Prod.fst rivalKey Rival.writer log t .reconciler := by
  refine ⟨?_, fun _ _ _ _ _ e he _ => hread e he⟩
  rintro _ _ _ _ (_ | _) hj ⟨_, hnone⟩
  · exact hdone hnone
  · exact hj rfl

theorem serial_outcome_stored :
    ∃ log t, Threads.Runs (registrarMayFail Env.plain) (Orderly Prod.fst rivalKey Rival.writer)
        (rivals fun _ => none) log t ∧
      lastComputed (registrarMayFail Env.plain) rivalKey Rival.writer log = some .ready ∧
      phaseAt rivalKey t.shared.1 = some .ready := by
  have hserial : ∃ log t, Threads.Runs (registrarMayFail Env.plain)
      (Orderly Prod.fst rivalKey Rival.writer) (rivals fun _ => none) log t ∧
      (∀ i, (t.prog i).result ≠ none) ∧
      lastComputed (registrarMayFail Env.plain) rivalKey Rival.writer log = some .ready := by
    refine ⟨_, _, .step (i := .reconciler) (.step (i := .reconciler)
      (.alone (i := .provisioner) .start fun es _ _ => orderly_provisioner es _) ?_ rfl rfl)
        ?_ rfl rfl, ?_, ?_⟩
    · refine orderly_reconciler (by decide) ?_
      intro e he
      obtain ⟨_, _, heq⟩ := List.mem_map.mp he
      cases heq
    · refine orderly_reconciler (by decide) ?_
      intro e he
      rcases List.mem_append.mp he with he | he
      · obtain ⟨_, _, heq⟩ := List.mem_map.mp he
        cases heq
      · cases List.mem_singleton.mp he
        rfl
    · rintro (_ | _) <;> decide
    · decide +kernel
  obtain ⟨log, t, hrun, hdone, hlast⟩ := hserial
  exact ⟨log, t, hrun, hlast,
    last_outcome_stored (storeServed_registrarMayFail Env.plain) hrun hdone hlast⟩

/-- The registration of the `Provision` fails, then that of the reconcile succeeds; the
`Provision` is the last to save, and the node stays unready. -/
theorem stale_outcome_wins :
    ∃ log t, Threads.Runs (registrarMayFail Env.plain) (fun _ _ _ => True)
        (rivals firstCallFails) log t ∧
      (∀ i, (t.prog i).result ≠ none) ∧
      lastComputed (registrarMayFail Env.plain) rivalKey Rival.writer log = some .ready ∧
      phaseAt rivalKey t.shared.1 = some .notReady := by
  -- the `Provision` up to its pending node, the read of the reconcile, then the two
  -- registrar calls; from there the reconcile runs to its end before the `Provision` does
  refine ⟨_, _, .alone (i := .provisioner) (.alone (i := .reconciler)
    (.step (i := .reconciler) (.step (i := .provisioner) (.step (i := .reconciler)
      (.step (i := .provisioner) (.step (i := .provisioner) (.step (i := .provisioner)
        (.step (i := .provisioner) .start trivial rfl rfl) trivial rfl rfl) trivial rfl rfl)
          trivial rfl rfl) trivial rfl rfl) trivial rfl rfl) trivial rfl rfl)
    (fun _ _ _ => trivial)) (fun _ _ _ => trivial), ?_, ?_, ?_⟩
  · rintro (_ | _) <;> decide
  · decide +kernel
  · decide +kernel

end VNodeOperator.Nodes
