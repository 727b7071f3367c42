import VNodeOperator.Nodes.Healing
import VNodeOperator.ProofSupport.Events

/-!
# Heartbeats and the lease

Every status update of a virtual node renews its lease in the tenant cluster,
for forty seconds.  Nothing but the next reconcile renews it again, so the delay
a reconcile asks for has to be shorter.  Here the requests are answered in any
way whatever; only the clock is given.
-/

namespace VNodeOperator.Nodes

open Model Kube Adapter Ports ProofSupport Service Reconciler
open NodeService (acmeCluster)

/-! ## The delay -/

theorem requeueBackoff_pos (age : Int) : 0 < VNode.requeueBackoff age := by
  simp only [VNode.requeueBackoff, VNode.backoffLoop, VNode.vnodeMinRequeue,
    VNode.vnodeMaxRequeue, second]
  split_ifs <;> omega

/-- The delays are 2, 4, 8, 16 and 32 seconds, one step for every half minute of
age, and then a minute. -/
theorem requeueBackoff_lt_lease_iff (age : Int) :
    VNode.requeueBackoff age < Registrar.leaseDuration * second ↔ age < 150 * second := by
  simp only [VNode.requeueBackoff, VNode.backoffLoop, VNode.vnodeMinRequeue,
    VNode.vnodeMaxRequeue, second, Registrar.leaseDuration]
  split_ifs <;> omega

/-! ## A reconcile, request by request -/

def writtenLease : Request → Option (Clientset × Lease)
  | .api (.createLease cs lease) => some (cs, lease)
  | .api (.updateLease cs lease) => some (cs, lease)
  | _ => none

def BeforeExpiry (r : Result) : Prop :=
  0 < r.requeueAfter ∧ r.requeueAfter < Registrar.leaseDuration * second

instance (r : Result) : Decidable (BeforeExpiry r) := inferInstanceAs (Decidable (_ ∧ _))

section

variable {σ : Type} (env : Env) (h : Handler Request Request.Reply σ)

def reconcileResult (k : ObjKey) (s : σ) : Result × Option Err :=
  (((VNode.reconcile k).expand (requests env)).run h s).1

def statusUpdate (cr : VNodeCR) : Req (Except Err Unit) :=
  (NodeService.updateStatus (VNode.nodeOf cr)).expand (requests env)

def afterRead (k : ObjKey) (s : σ) : σ := (h (.api (.getVNode k)) s).2

/-- A reconcile that returned without an error and whose status update wrote the
lease: a tenant cluster holds it after the request, be the response lost or not. -/
structure LeaseRenewed (holds : σ → Clientset × Lease → Bool) (k : ObjKey) (cr : VNodeCR)
    (s : σ) : Prop where
  noError : (reconcileResult env h k s).2 = none
  written : ∃ e ∈ (statusUpdate env cr).events h (afterRead h k s),
    ∃ lease ∈ writtenLease e.call, lease.2.name = cr.name ∧ holds (e.after h) lease

/-- The cases in which a reconcile comes back in time: the status update reported
no error, the node was waiting for its registration, and that for less than two
and a half minutes. -/
structure RetriedEarly (clock : σ → Int) (k : ObjKey) (cr : VNodeCR) (s : σ) : Prop where
  updated : ((statusUpdate env cr).run h (afterRead h k s)).1 = .ok ()
  waiting : cr.phase = .pending ∨ cr.phase = .notReady
  young : clock ((statusUpdate env cr).run h (afterRead h k s)).2 - cr.creationTimestamp <
    150 * second

variable {env} {h} {clock : σ → Int} {k : ObjKey} {cr : VNodeCR} {s : σ}

theorem shouldRequeueVNode_iff (node : VNode) :
    VNode.shouldRequeueVNode node = true ↔ node.phase = .pending ∨ node.phase = .notReady := by
  unfold VNode.shouldRequeueVNode
  cases node.phase <;> simp

/-- A status update that fails ends in no delay; one that succeeds, in a delay for
the nodes that are not ready yet. -/
theorem requeueAfter_reconcileResult (hclock : ∀ s, (h (.port .now) s).1 = .ok (clock s))
    (hread : (h (.api (.getVNode k)) s).1 = .ok cr) :
    (reconcileResult env h k s).1.requeueAfter =
      match ((statusUpdate env cr).run h (afterRead h k s)).1 with
      | .error _ => 0
      | .ok () =>
          if cr.phase = .pending ∨ cr.phase = .notReady then
            VNode.requeueBackoff (clock ((statusUpdate env cr).run h (afterRead h k s)).2 -
              cr.creationTimestamp)
          else 0 := by
  let ports := Prog.via h (requests env)
  have hget : Prog.run ports (ask (.getVNode k)) s = (.ok cr, afterRead h k s) :=
    Prod.ext hread rfl
  have hnow : ∀ s', (Prog.run ports now s').1 = clock s' := by
    intro s'
    have hask : (ports .now s').1 = .ok (clock s') := hclock s'
    simp only [now, ask, Prog.run_bind, Prog.run_perform, hask, Prog.run_pure]
  unfold reconcileResult statusUpdate VNode.reconcile
  rw [Prog.run_expand, Prog.run_expand, Prog.run_bind, hget]
  dsimp only
  unfold VNode.reconcileCR
  rw [Prog.run_bind]
  generalize Prog.run ports (NodeService.updateStatus (VNode.nodeOf cr)) (afterRead h k s) =
    updated
  obtain ⟨reply, s'⟩ := updated
  cases reply with
  | error err =>
      dsimp only
      split <;> rfl
  | ok u =>
      have hphase := shouldRequeueVNode_iff (VNode.nodeOf cr)
      by_cases hwaiting : cr.phase = .pending ∨ cr.phase = .notReady
      · simp only [if_pos (hphase.mpr hwaiting), Prog.run_bind, Prog.run_pure,
          if_pos hwaiting]
        exact congrArg (fun time => VNode.requeueBackoff (time - cr.creationTimestamp)) (hnow s')
      · simp only [if_neg (mt hphase.mp hwaiting), Prog.run_pure, if_neg hwaiting]

theorem beforeExpiry_reconcileResult_iff (hclock : ∀ s, (h (.port .now) s).1 = .ok (clock s))
    (hread : (h (.api (.getVNode k)) s).1 = .ok cr) :
    BeforeExpiry (reconcileResult env h k s).1 ↔ RetriedEarly env h clock k cr s := by
  have hdelay : (reconcileResult env h k s).1.requeueAfter = _ :=
    requeueAfter_reconcileResult hclock hread
  unfold BeforeExpiry
  constructor
  · rintro ⟨hpos, hlt⟩
    cases hupdated : ((statusUpdate env cr).run h (afterRead h k s)).1 with
    | error err =>
        rw [hupdated] at hdelay
        rw [hdelay] at hpos
        exact absurd hpos (Int.lt_irrefl 0)
    | ok u =>
        rw [hupdated] at hdelay
        dsimp only at hdelay
        by_cases hwaiting : cr.phase = .pending ∨ cr.phase = .notReady
        · rw [if_pos hwaiting] at hdelay
          rw [hdelay, requeueBackoff_lt_lease_iff] at hlt
          exact ⟨hupdated, hwaiting, hlt⟩
        · rw [if_neg hwaiting] at hdelay
          rw [hdelay] at hpos
          exact absurd hpos (Int.lt_irrefl 0)
  · intro hearly
    rw [hearly.updated] at hdelay
    dsimp only at hdelay
    rw [if_pos hearly.waiting] at hdelay
    rw [hdelay]
    exact ⟨requeueBackoff_pos _, (requeueBackoff_lt_lease_iff _).mpr hearly.young⟩

end

/-- A reconcile that renewed the lease comes back before it expires exactly if it
retried an early registration. -/
theorem heartbeat_beforeExpiry_iff {σ : Type} (env : Env) (h : Handler Request Request.Reply σ)
    (clock : σ → Int) (hclock : ∀ s, (h (.port .now) s).1 = .ok (clock s))
    (holds : σ → Clientset × Lease → Bool) (k : ObjKey) (cr : VNodeCR) (s : σ)
    (hread : (h (.api (.getVNode k)) s).1 = .ok cr) :
    (LeaseRenewed env h holds k cr s → BeforeExpiry (reconcileResult env h k s).1) ↔
      (LeaseRenewed env h holds k cr s → RetriedEarly env h clock k cr s) := by
  rw [beforeExpiry_reconcileResult_iff hclock hread]

def holdsLease (w : Cluster) (lease : Clientset × Lease) : Bool :=
  (w.tenants lease.1).leases.get lease.2.name = some lease.2

theorem pendingNode_beforeExpiry :
    BeforeExpiry
      (reconcileResult Env.plain (serve Env.plain) ⟨"host", "vnode-web-1"⟩ (provisionUntil 4)).1 :=
  (heartbeat_beforeExpiry_iff Env.plain (serve Env.plain) Cluster.clock (fun _ => rfl) holdsLease
    ⟨"host", "vnode-web-1"⟩ ((provisionUntil 4).vnodes.items.head (by decide)) (provisionUntil 4)
    (by decide)).mpr (fun _ => ⟨by decide +kernel, by decide +kernel, by decide +kernel⟩)
    ⟨by decide +kernel, by decide +kernel⟩

/-- A ready node renews its lease and is not queued again; one that has been
pending for three minutes is, after a minute. -/
theorem readyNode_lease_expires :
    (∃ cr, (acmeCluster {}).vnodes.items = [cr] ∧ cr.phase = .ready ∧
        LeaseRenewed Env.plain (serve Env.plain) holdsLease cr.key cr (acmeCluster {}) ∧
        ¬ BeforeExpiry (reconcileResult Env.plain (serve Env.plain) cr.key (acmeCluster {})).1) ∧
      ∃ cr, (provisionUntil 4).vnodes.items = [cr] ∧ cr.phase = .pending ∧
        LeaseRenewed Env.plain (serve Env.plain) holdsLease cr.key cr
          { provisionUntil 4 with clock := 180 * second } ∧
        ¬ BeforeExpiry (reconcileResult Env.plain (serve Env.plain) cr.key
          { provisionUntil 4 with clock := 180 * second }).1 := by
  refine ⟨⟨_, rfl, by decide +kernel, ⟨by decide +kernel, by decide +kernel⟩,
    by decide +kernel⟩, ?_⟩
  exact ⟨_, rfl, by decide +kernel, ⟨by decide +kernel, by decide +kernel⟩, by decide +kernel⟩

end VNodeOperator.Nodes
