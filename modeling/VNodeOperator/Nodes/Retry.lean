import VNodeOperator.Nodes.Registration
import VNodeOperator.Service.NodeService

/-!
# Registrations that are retried

A registration stops at the first request that fails, after some of its writes.
What it leaves is a node and a lease on the way to what the registration wants of
them: writing the rest gives what one registration gives from the start.
-/

namespace VNodeOperator.Nodes

open Model Kube Adapter Service ProofSupport

/-! ## What a registration makes of a node and a lease -/

section

variable (env : Env) (node : VNode) (cs : Clientset)

def parsedResources (r : ResourceList) : CoreResourceList :=
  match Registrar.buildResources env r with
  | .ok resources => resources
  | .error _ => {}

def written (n : TenantNode) : TenantNode :=
  { declared node n with
    capacity := parsedResources env node.capacity
    allocatable := parsedResources env node.allocatable
    conditions := Registrar.buildNodeConditions node
    kubeletVersion := "vnode/" ++ env.version }

def held (lease : Lease) : Lease :=
  { lease with
    holderIdentity := node.name
    leaseDurationSeconds := Registrar.leaseDuration }

def leaseAt (w : Cluster) : Lease :=
  ((w.tenants cs).leases.get node.name).getD
    { name := node.name
      holderIdentity := node.name
      leaseDurationSeconds := Registrar.leaseDuration }

/-- `w'` differs from `w` in what a registration of the node writes, and in nothing else of
any tenant's nodes and leases. -/
structure Midway (w w' : Cluster) : Prop where
  sameNode : written env node (nodeAt node cs w') = written env node (nodeAt node cs w)
  sameLease : held node (leaseAt node cs w') = held node (leaseAt node cs w)
  otherNodes : ∀ cs' name, ¬(cs' = cs ∧ name = node.name) →
    (w'.tenants cs').nodes.get name = (w.tenants cs').nodes.get name
  otherLeases : ∀ cs' name, ¬(cs' = cs ∧ name = node.name) →
    (w'.tenants cs').leases.get name = (w.tenants cs').leases.get name

/-- The node and the lease are as the registration wants them, given those of `w`. -/
structure Arrived (w w' : Cluster) : Prop where
  nodeWritten : (w'.tenants cs).nodes.get node.name = some (written env node (nodeAt node cs w))
  leaseHeld : (w'.tenants cs).leases.get node.name = some (held node (leaseAt node cs w))

end

variable {env : Env} {node : VNode} {cs : Clientset} {w w' : Cluster}

theorem Midway.refl (w : Cluster) : Midway env node cs w w :=
  ⟨rfl, rfl, fun _ _ _ => rfl, fun _ _ _ => rfl⟩

theorem Midway.trans {w₁ w₂ w₃ : Cluster} (h : Midway env node cs w₁ w₂)
    (h' : Midway env node cs w₂ w₃) : Midway env node cs w₁ w₃ where
  sameNode := h'.sameNode.trans h.sameNode
  sameLease := h'.sameLease.trans h.sameLease
  otherNodes := fun cs' name hne => (h'.otherNodes cs' name hne).trans (h.otherNodes cs' name hne)
  otherLeases := fun cs' name hne =>
    (h'.otherLeases cs' name hne).trans (h.otherLeases cs' name hne)

/-- Having arrived depends on the start only as far as a registration does not overwrite
it. -/
theorem Arrived.of_midway {w₁ w₂ w₃ : Cluster} (h : Midway env node cs w₁ w₂)
    (h' : Arrived env node cs w₂ w₃) : Arrived env node cs w₁ w₃ where
  nodeWritten := h.sameNode ▸ h'.nodeWritten
  leaseHeld := h.sameLease ▸ h'.leaseHeld

theorem leaseAt_of_get {lease : Lease}
    (h : (w.tenants cs).leases.get node.name = some lease) : leaseAt node cs w = lease := by
  rw [leaseAt, h, Option.getD_some]

theorem get_putLease_self (w : Cluster) {lease : Lease} (hname : lease.name = node.name) :
    ((w.putLease cs lease).tenants cs).leases.get node.name = some lease := by
  rw [Cluster.putLease, Cluster.setTenant_tenants, if_pos rfl, ← hname]
  exact Store.get_put_self _ _

theorem midway_putNode {n : TenantNode} (hname : n.name = node.name)
    (hn : written env node n = written env node (nodeAt node cs w)) :
    Midway env node cs w (w.putNode cs n) := by
  have hleases : ∀ cs', ((w.putNode cs n).tenants cs').leases = (w.tenants cs').leases := by
    intro cs'
    rw [Cluster.putNode, Cluster.setTenant_tenants]
    split
    · next hcs => rw [hcs]
    · rfl
  refine ⟨?_, ?_, ?_, fun cs' _ _ => by rw [hleases]⟩
  · rw [nodeAt_of_get (get_putNode_self w hname)]
    exact hn
  · rw [leaseAt, hleases, leaseAt]
  · intro cs' name hne
    rw [Cluster.putNode, Cluster.setTenant_tenants]
    split
    · next hcs =>
        rw [hcs]
        exact Store.get_put_ne _ (fun heq => hne ⟨hcs, heq.symm.trans hname⟩)
    · rfl

theorem midway_putLease {lease : Lease} (hname : lease.name = node.name)
    (hlease : held node lease = held node (leaseAt node cs w)) :
    Midway env node cs w (w.putLease cs lease) := by
  have hnodes : ∀ cs', ((w.putLease cs lease).tenants cs').nodes = (w.tenants cs').nodes := by
    intro cs'
    rw [Cluster.putLease, Cluster.setTenant_tenants]
    split
    · next hcs => rw [hcs]
    · rfl
  refine ⟨?_, ?_, fun cs' _ _ => by rw [hnodes], ?_⟩
  · rw [nodeAt, hnodes, nodeAt]
  · rw [leaseAt_of_get (get_putLease_self w hname)]
    exact hlease
  · intro cs' name hne
    rw [Cluster.putLease, Cluster.setTenant_tenants]
    split
    · next hcs =>
        rw [hcs]
        exact Store.get_put_ne _ (fun heq => hne ⟨hcs, heq.symm.trans hname⟩)
    · rfl

/-- The lease namespace is neither a node nor a lease. -/
theorem midway_createLeaseNamespace (cs' : Clientset) (w : Cluster) :
    Midway env node cs w (api env (.createLeaseNamespace cs') w).2 := by
  have hkept : ∀ cs'', ((api env (.createLeaseNamespace cs') w).2.tenants cs'').nodes =
      (w.tenants cs'').nodes ∧ ((api env (.createLeaseNamespace cs') w).2.tenants cs'').leases =
      (w.tenants cs'').leases := by
    intro cs''
    simp only [api]
    split
    · exact ⟨rfl, rfl⟩
    · dsimp only
      rw [Cluster.setTenant_tenants]
      split
      · next hcs =>
          rw [hcs]
          exact ⟨rfl, rfl⟩
      · exact ⟨rfl, rfl⟩
  refine ⟨?_, ?_, fun cs'' _ _ => by rw [(hkept cs'').1], fun cs'' _ _ => by rw [(hkept cs'').2]⟩
  · rw [nodeAt, (hkept cs).1, nodeAt]
  · rw [leaseAt, (hkept cs).2, leaseAt]

/-! ## One registration, request by request -/

theorem Wrote.midway {α : Type} {w wanted w' : Cluster} {r : Except Err α}
    (h : Wrote w wanted r w') (hmid : Midway env node cs w wanted) : Midway env node cs w w' := by
  rcases h.either with rfl | rfl
  · exact Midway.refl _
  · exact hmid

theorem midway_ensureLeaseNamespace (node : VNode) (w : Cluster) :
    Robust (api env) (fun _ => True) (Registrar.ensureLeaseNamespace cs)
      (fun _ w' => Midway env node cs w w') w := by
  have hread : (api env (.getLeaseNamespace cs) w).2 = w := by
    simp only [api]
    split <;> rfl
  apply Robust.bind
  refine Robust.mono (robust_step (I := fun w' => w' = w) rfl hread) ?_
  rintro r w' rfl
  cases r with
  | ok u => exact Robust.pure (Midway.refl w')
  | error err =>
      dsimp only
      split
      · apply Robust.bind
        apply Robust.mono (robust_step (Midway.refl w') (midway_createLeaseNamespace cs w'))
        intro r w'' hmid
        cases r <;> exact Robust.pure hmid
      · exact Robust.pure (Midway.refl w')

def Declares (node : VNode) (n : TenantNode) : Prop := declared node n = n

theorem midway_upsertNode (node : VNode) (w : Cluster) :
    Robust (api env) (fun _ => True) (Registrar.upsertNode cs node)
      (fun r w' => Midway env node cs w w' ∧
        (r = .ok () → NodeIs cs node.name (Declares node) w')) w := by
  have hname : (declared node (nodeAt node cs w)).name = node.name := nodeAt_name node cs w
  apply Robust.mono (wrote_upsertNode cs node w)
  intro r w' hr
  refine ⟨hr.midway (midway_putNode hname rfl), fun hok => ?_⟩
  rw [hr.full () hok]
  exact ⟨_, get_putNode_self w hname, rfl⟩

theorem withStatus_eq_written {current updated : TenantNode} (hcurrent : Declares node current)
    (h : Registrar.withStatus env current node = .ok updated) :
    updated = written env node current := by
  obtain ⟨⟨hcapacity, hallocatable⟩, hupdated⟩ := withStatus_eq_ok h
  have hdeclared : declared node current = current := hcurrent
  rw [hupdated]
  simp only [written, hdeclared, parsedResources, hcapacity, hallocatable]

theorem api_updateNodeStatus_written {current : TenantNode} (hdeclared : Declares node current)
    (hcurrent : (w.tenants cs).nodes.get node.name = some current) :
    api env (.updateNodeStatus cs (written env node current)) w =
      (.ok (), w.putNode cs (written env node current)) := by
  have hname : current.name = node.name := Store.key_of_get hcurrent
  have hstored : (w.tenants cs).nodes.get current.name = some current := hname ▸ hcurrent
  have hsame : declared node current = current := hdeclared
  simp only [api, written, hsame, hstored]

/-- Each try of the status write is midway from the start, and finds the node declared. -/
theorem midway_writeNodeStatus (hw : NodeIs cs node.name (Declares node) w) :
    Robust (api env) (fun _ => True) (Registrar.writeNodeStatus env cs node)
      (fun r w' => Midway env node cs w w' ∧
        (r = .ok () → NodeIs cs node.name (· = written env node (nodeAt node cs w)) w')) w := by
  refine Robust.mono (robust_retryOnConflict
    (J := fun w' => Midway env node cs w w' ∧ NodeIs cs node.name (Declares node) w')
    (Q := fun r w' => r = .ok () →
      NodeIs cs node.name (· = written env node (nodeAt node cs w)) w') ?_ defaultRetries
    ⟨Midway.refl w, hw⟩) (fun _ _ h => ⟨h.1.1, h.2⟩)
  rintro w₁ ⟨hmid, hdeclared⟩
  apply Robust.bind
  apply Robust.mono (robust_getNode cs node.name w₁)
  rintro r w₂ ⟨rfl, hget⟩
  cases r with
  | error err => exact Robust.pure ⟨⟨hmid, hdeclared⟩, by rintro ⟨⟩⟩
  | ok current =>
      have hcurrent := hget current rfl
      have hname : current.name = node.name := Store.key_of_get hcurrent
      obtain ⟨n, hn, hdeclares⟩ := hdeclared
      have hsame : current = n := Option.some.inj (hcurrent.symm.trans hn)
      subst hsame
      dsimp only
      split
      · exact Robust.pure ⟨⟨hmid, current, hn, hdeclares⟩, by rintro ⟨⟩⟩
      · next updated hupdated =>
          have hwritten := withStatus_eq_written hdeclares hupdated
          subst hwritten
          have hend : written env node current = written env node (nodeAt node cs w) := by
            rw [← hmid.sameNode, nodeAt_of_get hcurrent]
          have hput : Midway env node cs w₂ (w₂.putNode cs (written env node current)) :=
            midway_putNode hname (by rw [nodeAt_of_get hcurrent]; rfl)
          have hself : ((w₂.putNode cs (written env node current)).tenants cs).nodes.get
              node.name = some (written env node current) :=
            get_putNode_self w₂ hname
          have hdone := And.intro (hmid.trans hput)
            (⟨_, hself, rfl⟩ : NodeIs cs node.name (Declares node)
              (w₂.putNode cs (written env node current)))
          refine Robust.perform_of_eq (api_updateNodeStatus_written hdeclares hcurrent) trivial
            ⟨hdone, fun _ => ⟨_, hself, hend⟩⟩
            (fun _ => ⟨⟨hmid, current, hn, hdeclares⟩, ?_⟩) (fun _ => ⟨hdone, ?_⟩)
          · rintro ⟨⟩
          · rintro ⟨⟩

theorem robust_getLease (cs : Clientset) (name : String) (w : Cluster) :
    Robust (api env) (fun _ => True) (request (.getLease cs name))
      (fun r w' => w' = w ∧ ∀ l, r = .ok l → (w.tenants cs).leases.get name = some l) w := by
  have hcall : api env (.getLease cs name) w =
      (find (w.tenants cs).leases name "leases.coordination.k8s.io" name, w) := by
    simp only [api]
  refine Robust.read_of_eq hcall trivial ⟨rfl, ?_⟩ (fun _ => ⟨rfl, ?_⟩)
  · exact fun _ hl => get_of_find hl
  · rintro l ⟨⟩

theorem wrote_upsertLease (w : Cluster) :
    Robust (api env) (fun _ => True) (Registrar.upsertLease cs node.name)
      (fun r w' => Wrote w (w.putLease cs (held node (leaseAt node cs w))) r w') w := by
  apply Robust.bind
  apply Robust.mono (robust_getLease cs node.name w)
  rintro r w' ⟨rfl, hget⟩
  cases r with
  | ok current =>
      have hcurrent := hget current rfl
      have hstored : (w'.tenants cs).leases.get (held node current).name = some current := by
        have hname : current.name = node.name := Store.key_of_get hcurrent
        exact hname ▸ hcurrent
      have hcall : api env (.updateLease cs (held node current)) w' =
          (.ok (), w'.putLease cs (held node current)) := by
        simp only [api, hstored]
      rw [leaseAt_of_get hcurrent]
      apply Robust.bind
      apply Robust.mono (robust_wrote (Or.inl ⟨(), hcall⟩))
      intro r w'' hr
      cases r with
      | error err => exact Robust.pure (Wrote.error _ hr.either)
      | ok u => exact Robust.pure hr
  | error err =>
      dsimp only
      split
      · let fresh : Lease :=
          { name := node.name
            holderIdentity := node.name
            leaseDurationSeconds := Registrar.leaseDuration }
        have hcall : (∃ v, api env (.createLease cs fresh) w' =
              (.ok v, w'.putLease cs (held node (leaseAt node cs w')))) ∨
            ∃ err, api env (.createLease cs fresh) w' = (.error err, w') := by
          cases hfree : (w'.tenants cs).leases.get node.name with
          | none =>
              have hfresh : leaseAt node cs w' = fresh := by
                rw [leaseAt, hfree, Option.getD_none]
              exact Or.inl ⟨(), by simp only [api, fresh, hfree, hfresh, held]⟩
          | some old =>
              exact Or.inr ⟨alreadyExistsError "leases.coordination.k8s.io" node.name,
                by simp only [api, fresh, hfree]⟩
        apply Robust.bind
        apply Robust.mono (robust_wrote hcall)
        intro r w'' hr
        cases r with
        | error err => exact Robust.pure (Wrote.error _ hr.either)
        | ok u => exact Robust.pure hr
      · exact Robust.pure (Wrote.error _ (Or.inl rfl))

theorem leaseAt_name (w : Cluster) : (leaseAt node cs w).name = node.name := by
  cases hget : (w.tenants cs).leases.get node.name with
  | none => rw [leaseAt, hget, Option.getD_none]
  | some lease =>
      rw [leaseAt_of_get hget]
      exact Store.key_of_get hget

theorem midway_upsertLease (w : Cluster) :
    Robust (api env) (fun _ => True) (Registrar.upsertLease cs node.name)
      (fun r w' => Midway env node cs w w' ∧ (r = .ok () →
        (w'.tenants cs).leases.get node.name = some (held node (leaseAt node cs w)))) w := by
  have hname : (held node (leaseAt node cs w)).name = node.name := leaseAt_name w
  apply Robust.mono (wrote_upsertLease w)
  intro r w' hr
  refine ⟨hr.midway (midway_putLease hname rfl), fun hok => ?_⟩
  rw [hr.full () hok]
  exact get_putLease_self w hname

section

variable {tenant : TenantRef} (hcs : env.connect tenant = .ok cs)
include hcs

theorem midway_updateNodeStatus (hsecret : tenant.kubeconfigSecret ≠ "")
    (hw : NodeIs cs node.name (Declares node) w) :
    Robust (api env) (fun _ => True) (Registrar.updateNodeStatus env node tenant)
      (fun r w' => Midway env node cs w w' ∧ (r = .ok () → Arrived env node cs w w')) w := by
  unfold Registrar.updateNodeStatus
  rw [if_neg hsecret]
  apply Robust.bind
  apply Robust.mono (robust_getClient tenant w)
  rintro r w' ⟨rfl, hconnect⟩
  cases r with
  | error err => exact Robust.pure ⟨Midway.refl w', by rintro ⟨⟩⟩
  | ok cs' =>
      have hsame : cs = cs' := Except.ok.inj (hcs.symm.trans (hconnect cs' rfl))
      subst hsame
      apply Robust.bind
      apply Robust.mono (midway_writeNodeStatus hw)
      rintro r w₁ ⟨hmid, hwritten⟩
      cases r with
      | error err => exact Robust.pure ⟨hmid, by rintro ⟨⟩⟩
      | ok u =>
          apply Robust.mono ((midway_upsertLease w₁).and (robust_upsertLease (hwritten rfl)))
          rintro r w₂ ⟨⟨hmid', hheld⟩, n, hn, hend⟩
          refine ⟨hmid.trans hmid', fun hok => ⟨hend ▸ hn, ?_⟩⟩
          rw [hheld hok, hmid.sameLease]

/-- Whatever requests of it fail, a registration stays on the way, and one that reports
success has arrived. -/
theorem midway_register (hsecret : tenant.kubeconfigSecret ≠ "") (node : VNode) (w : Cluster) :
    Robust (api env) (fun _ => True) (Registrar.register env node tenant)
      (fun r w' => Midway env node cs w w' ∧ (r = .ok () → Arrived env node cs w w')) w := by
  apply Robust.bind
  apply Robust.mono (robust_getClient tenant w)
  rintro r w' ⟨rfl, hconnect⟩
  cases r with
  | error err => exact Robust.pure ⟨Midway.refl w', by rintro ⟨⟩⟩
  | ok cs' =>
      have hsame : cs = cs' := Except.ok.inj (hcs.symm.trans (hconnect cs' rfl))
      subst hsame
      apply Robust.bind
      apply Robust.mono (midway_ensureLeaseNamespace node w')
      intro r w₁ hmid
      cases r with
      | error err => exact Robust.pure ⟨hmid, by rintro ⟨⟩⟩
      | ok u =>
          apply Robust.bind
          apply Robust.mono (midway_upsertNode node w₁)
          rintro r w₂ ⟨hmid₁, hdeclared⟩
          cases r with
          | error err => exact Robust.pure ⟨hmid.trans hmid₁, by rintro ⟨⟩⟩
          | ok u =>
              have hmid₂ := hmid.trans hmid₁
              apply Robust.mono (midway_updateNodeStatus hcs hsecret (hdeclared rfl))
              rintro r w₃ ⟨hmid₃, harrived⟩
              exact ⟨hmid₂.trans hmid₃, fun hok => (harrived hok).of_midway hmid₂⟩

end

/-! ## A registration whose requests succeed -/

theorem run_upsertLease (cs : Clientset) (name : String) (w : Cluster) :
    ((Registrar.upsertLease cs name).run (api env) w).1 = .ok () := by
  unfold Registrar.upsertLease
  cases hget : (w.tenants cs).leases.get name with
  | none => simp [request, api, find, hget, notFoundError, Err.isNotFound]
  | some current =>
      have hname : current.name = name := Store.key_of_get hget
      simp [request, api, find, hget, hname]

theorem run_writeNodeStatus {shown : TenantNode} (hshows : Shows env node shown)
    {P : TenantNode → Prop} (hw : NodeIs cs node.name P w) :
    ((Registrar.writeNodeStatus env cs node).run (api env) w).1 = .ok () := by
  obtain ⟨current, hcurrent, _⟩ := hw
  have hname : current.name = node.name := Store.key_of_get hcurrent
  have hget : api env (.getNode cs node.name) w = (.ok current, w) := by
    simp only [api, find_some _ _ hcurrent]
  let updated : TenantNode :=
    { current with
      capacity := shown.capacity
      allocatable := shown.allocatable
      conditions := Registrar.buildNodeConditions node
      kubeletVersion := "vnode/" ++ env.version }
  have hupdated : Registrar.withStatus env current node = .ok updated := by
    simp only [Registrar.withStatus, hshows.1, hshows.2]
    rfl
  have hput : api env (.updateNodeStatus cs updated) w = (.ok (), w.putNode cs updated) := by
    have hstored : (w.tenants cs).nodes.get updated.name = some current := hname ▸ hcurrent
    simp only [api, hstored]
    rfl
  have hfirst : (Registrar.writeNodeStatus env cs node).run (api env) w =
      (.ok (), w.putNode cs updated) := by
    apply run_retryOnConflict_ok
    simp only [request, Prog.run_bind, Prog.run_perform, hget, hupdated, hput]
  rw [hfirst]

theorem run_register_ok {tenant : TenantRef} (hcs : env.connect tenant = .ok cs)
    {shown : TenantNode} (hshows : Shows env node shown) (w : Cluster) :
    ((Registrar.register env node tenant).run (api env) w).1 = .ok () := by
  obtain ⟨w', hnode, hrun⟩ := run_register hcs node w
  rw [hrun, Registrar.updateNodeStatus]
  split
  · rfl
  · simp only [request, Prog.run_bind, Prog.run_perform, api, hcs,
      run_writeNodeStatus hshows hnode]
    exact run_upsertLease cs node.name _

/-! ## Retrying -/

section

variable (env node) (tenant : TenantRef)

def attempt (plan : FaultPlan Err) (w : Cluster) : Except Err Unit × Cluster :=
  let r := (Registrar.register env node tenant).run (withFaults (api env)) (w, plan)
  (r.1, r.2.1)

def attempts (plans : List (FaultPlan Err)) (w : Cluster) : Cluster :=
  plans.foldl (fun w plan => (attempt env node tenant plan w).2) w

end

theorem midway_attempts {tenant : TenantRef} (hcs : env.connect tenant = .ok cs)
    (hsecret : tenant.kubeconfigSecret ≠ "") (node : VNode) (plans : List (FaultPlan Err))
    (w : Cluster) : Midway env node cs w (attempts env node tenant plans w) := by
  induction plans generalizing w with
  | nil => exact Midway.refl w
  | cons plan plans ih =>
      have hstep : Midway env node cs w (attempt env node tenant plan w).2 :=
        (midway_register hcs hsecret node w plan).2.1
      exact hstep.trans (ih _)

/-- A registration that succeeds after any attempts has written the node and the lease, as
one that succeeds from the start does, and left every other node and lease of any tenant
as it was.  One from the start, where all requests succeed, does succeed. -/
theorem register_retried (env : Env) (node : VNode) (tenant : TenantRef) (cs : Clientset)
    (hcs : env.connect tenant = .ok cs) (hsecret : tenant.kubeconfigSecret ≠ "") (w : Cluster)
    (plans : List (FaultPlan Err)) (last : FaultPlan Err)
    (hlast : (attempt env node tenant last (attempts env node tenant plans w)).1 = .ok ()) :
    let retried := (attempt env node tenant last (attempts env node tenant plans w)).2
    (attempt env node tenant (fun _ => none) w).1 = .ok () ∧
      Arrived env node cs w retried ∧
      (∀ once, (attempt env node tenant once w).1 = .ok () →
        (retried.tenants cs).nodes.get node.name =
          ((attempt env node tenant once w).2.tenants cs).nodes.get node.name ∧
        (retried.tenants cs).leases.get node.name =
          ((attempt env node tenant once w).2.tenants cs).leases.get node.name) ∧
      ∀ cs' name, ¬(cs' = cs ∧ name = node.name) →
        (retried.tenants cs').nodes.get name = (w.tenants cs').nodes.get name ∧
        (retried.tenants cs').leases.get name = (w.tenants cs').leases.get name := by
  intro retried
  have hmid := midway_attempts hcs hsecret node plans w
  have hlast' := (midway_register hcs hsecret node
    (attempts env node tenant plans w) last).2
  have harrived : Arrived env node cs w retried := (hlast'.2 hlast).of_midway hmid
  have hwhole : Midway env node cs w retried := hmid.trans hlast'.1
  refine ⟨?_, harrived, ?_, ?_⟩
  · -- the last attempt parsed the resources
    obtain ⟨cs', hcs', _, hshown⟩ :=
      (robust_register node tenant (attempts env node tenant plans w) last).2 hlast
    obtain ⟨shown, _, hshows⟩ := hshown hsecret
    rw [attempt, run_withFaults_none]
    exact run_register_ok hcs hshows w
  · intro once honce
    have hdirect : Arrived env node cs w (attempt env node tenant once w).2 :=
      (midway_register hcs hsecret node w once).2.2 honce
    exact ⟨harrived.nodeWritten.trans hdirect.nodeWritten.symm,
      harrived.leaseHeld.trans hdirect.leaseHeld.symm⟩
  · exact fun cs' name hne => ⟨hwhole.otherNodes cs' name hne, hwhole.otherLeases cs' name hne⟩

def cordonedCluster : Cluster where
  tenants _ :=
    { nodes := Store.empty.put
        { name := "vnode-web-1"
          taints := [⟨"maintenance", "", "NoSchedule"⟩]
          unschedulable := true } }

def webNode : VNode := NodeService.newNode (NodeService.acmePool 1) 0

/-- The first attempt loses the reply of its node update, the second fails to create the
lease. -/
def shakyPlans : List (FaultPlan Err) :=
  [fun n => if n = 4 then some ⟨⟨.other, "timeout"⟩, true⟩ else none,
    fun n => if n = 8 then some ⟨⟨.other, "timeout"⟩, false⟩ else none]

def shakenCluster : Cluster :=
  attempts Env.plain webNode webNode.tenantRef shakyPlans cordonedCluster

theorem webNode_retried :
    (attempt Env.plain webNode webNode.tenantRef (fun _ => none) shakenCluster).1 = .ok () ∧
      ((attempt Env.plain webNode webNode.tenantRef (fun _ => none)
          shakenCluster).2.tenants ⟨"acme"⟩).nodes.get webNode.name =
        ((attempt Env.plain webNode webNode.tenantRef (fun _ => none)
          cordonedCluster).2.tenants ⟨"acme"⟩).nodes.get webNode.name := by
  have hlast : (attempt Env.plain webNode webNode.tenantRef (fun _ => none)
      shakenCluster).1 = .ok () := by
    decide +kernel
  have hretried := register_retried Env.plain webNode webNode.tenantRef ⟨"acme"⟩ rfl
    (by decide) cordonedCluster shakyPlans (fun _ => none) hlast
  exact ⟨hlast, (hretried.2.2.1 (fun _ => none) hretried.1).1⟩

end VNodeOperator.Nodes
