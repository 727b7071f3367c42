import VNodeOperator.ProofSupport.RelyGuarantee
import VNodeOperator.Tenants.ClientCache

/-!
# The client cache in shared use

The reconcilers work side by side over one `TenantClientManager`.  While the
kubeconfig secrets stay as they are, every call answers as if there were no
cache.  When a secret changes, nothing notices: `Invalidate` is called by a
`Get` that has found no entry, so an entry that is there is the answer of every
`Get` to come.
-/

namespace VNodeOperator.Tenants

open Model Kube Adapter ProofSupport TenantClients

section

variable {Config Client ρ ι : Type} {b : Backend Config Client ρ} {r : ρ}

/-! ## Secrets that stay -/

def currentEntries (b : Backend Config Client ρ) (r : ρ) : Interference (Manager Client ρ) where
  inv := Current b r
  rel m m' := Current b r m → Current b r m'
  refl _ hm := hm
  trans h h' hm := h' (h hm)
  keeps hm h := h hm

def Job.answer (b : Backend Config Client ρ) (r : ρ) : Job → Option (Except Err Client)
  | .get tenant => some (connect b r tenant)
  | .invalidate _ => none

abbrev Connects (b : Backend Config Client ρ) (r : ρ) (tenant : TenantRef)
    (p : Steps Config Client (Option (Except Err Client))) (m : Manager Client ρ) : Prop :=
  Prog.Under (serve b) (currentEntries b r) p (fun a _ => a = some (connect b r tenant)) m

variable {tenant : TenantRef} {m : Manager Client ρ}

theorem connects_forgetting {err : Err} (herr : connect b r tenant = .error err) :
    Connects b r tenant (forgetting tenant err) m := by
  intro m' _ _
  refine ⟨fun hm => hm.erase (cacheKey tenant), ?_⟩
  rw [herr]
  rfl

theorem connects_storing (hb : SeparatorFree b) {client : Client}
    (hclient : connect b r tenant = .ok client) :
    Connects b r tenant (storing tenant client) m := by
  intro m' _ _
  refine ⟨fun hm => hm.insert hb hclient, ?_⟩
  rw [hclient]
  rfl

theorem connects_ask {c : ClientCall Config Client}
    {k : c.Reply → Steps Config Client (Option (Except Err Client))}
    (hsame : ∀ clients, (serve b c ⟨clients, r⟩).2 = ⟨clients, r⟩)
    (hk : ∀ clients, Current b r ⟨clients, r⟩ →
      Connects b r tenant (k (serve b c ⟨clients, r⟩).1) ⟨clients, r⟩) :
    Connects b r tenant (.call c k) m := by
  rintro ⟨clients, backend⟩ hm _
  obtain rfl : backend = r := hm.backend
  have hserved := hsame clients
  rw [hserved]
  exact ⟨fun h => h, hk clients hm⟩

theorem connects_afterLookup_none (hstable : Stable b r) (hb : SeparatorFree b) :
    Connects b r tenant (afterLookup tenant none) m := by
  refine connects_ask (fun clients => congrArg Prod.snd (hstable.serve_resolve clients _ _)) ?_
  intro clients _
  rw [hstable.serve_resolve]
  cases hresolve : (b.resolve tenant.vclusterNamespace tenant.kubeconfigSecret r).1 with
  | error err =>
      exact connects_forgetting (by simp only [connect, hresolve])
  | ok kubeconfig =>
      refine connects_ask
        (fun clients => congrArg Prod.snd (hstable.serve_restConfig clients _)) ?_
      intro clients _
      rw [hstable.serve_restConfig]
      cases hconfig : (b.restConfig kubeconfig r).1 with
      | error err =>
          exact connects_forgetting (by simp only [connect, hresolve, hconfig])
      | ok cfg =>
          refine connects_ask
            (fun clients => congrArg Prod.snd (hstable.serve_factory clients _)) ?_
          intro clients _
          rw [hstable.serve_factory]
          cases hfactory : (b.factory cfg r).1 with
          | error err =>
              exact connects_forgetting (by simp only [connect, hresolve, hconfig, hfactory])
          | ok client =>
              exact connects_storing hb (by simp only [connect, hresolve, hconfig, hfactory])

theorem connects_program_get (hstable : Stable b r) (hb : SeparatorFree b) (tenant : TenantRef) :
    Connects b r tenant (Job.get tenant).program m := by
  rw [program_get]
  refine connects_ask (fun _ => rfl) ?_
  intro clients hm
  change Connects b r tenant (afterLookup tenant (clients.lookup (cacheKey tenant))) ⟨clients, r⟩
  cases hlookup : clients.lookup (cacheKey tenant) with
  | some client =>
      obtain ⟨owner, hkey, hfree, hclient⟩ := hm.entries _ client hlookup
      obtain ⟨hns, hname⟩ := cacheKey_inj hfree hkey
      have hsame : connect b r tenant = .ok client := by
        rw [← hclient, connect, connect, hns, hname]
      exact congrArg some hsame.symm
  | none => exact connects_afterLookup_none hstable hb

theorem under_program (hstable : Stable b r) (hb : SeparatorFree b) (job : Job) :
    Prog.Under (serve b) (currentEntries b r) job.program (fun a _ => a = job.answer b r) m := by
  cases job with
  | get tenant => exact connects_program_get hstable hb tenant
  | invalidate tenant =>
      intro m' _ _
      exact ⟨fun hm => hm.erase (cacheKey tenant), rfl⟩

theorem under_of_reaches [DecidableEq ι] (hb : SeparatorFree b) (hstable : Stable b r)
    {jobs : ι → Job}
    {t : Threads (ClientCall Config Client) ClientCall.Reply
      (fun _ : ι => Option (Except Err Client)) (Manager Client ρ)}
    (hreach : Threads.Reaches (serve b) (fun _ _ => True) (start jobs r) t) :
    Current b r t.shared ∧ ∀ i, Prog.Under (serve b) (currentEntries b r) (t.prog i)
      (fun a _ => a = (jobs i).answer b r) t.shared := by
  have hempty : Current b r (newManager r : Manager Client ρ) := by
    refine ⟨rfl, ?_⟩
    intro key client hlookup
    cases hlookup
  exact hreach.under (Q := fun i a _ => a = (jobs i).answer b r) (fun _ _ _ _ h _ => h) hempty
    fun i => under_program hstable hb (jobs i)

/-! ## Secrets that change -/

def Spares (key : String) : ClientCall Config Client → Prop
  | .store key' _ | .forget key' => key' ≠ key
  | _ => True

def keptEntry (key : String) (client : Client) : Interference (Manager Client ρ) where
  inv m := m.clients.lookup key = some client
  rel m m' := m.clients.lookup key = some client → m'.clients.lookup key = some client
  refl _ hm := hm
  trans h h' hm := h' (h hm)
  keeps hm h := h hm

theorem lookup_serve_of_spares {key : String} {c : ClientCall Config Client}
    (hc : Spares key c) (m : Manager Client ρ) :
    (serve b c m).2.clients.lookup key = m.clients.lookup key := by
  cases c with
  | store key' client => exact AList.lookup_insert_ne hc.symm
  | forget key' => exact AList.lookup_erase_ne hc.symm
  | _ => rfl

theorem under_of_spares {key : String} {client : Client}
    {p : Steps Config Client (Option (Except Err Client))} (hp : Prog.Uses (Spares key) p) :
    Prog.Under (serve b) (keptEntry key client) p (fun _ _ => True) m :=
  Prog.Under.of_uses hp fun _ m hc _ hm => (lookup_serve_of_spares hc m).trans hm

theorem under_get_of_cached {client : Client} :
    Prog.Under (serve b) (keptEntry (cacheKey tenant) client) (Job.get tenant).program
      (fun a _ => a = some (.ok client)) m := by
  rw [program_get]
  intro m' hm' _
  refine ⟨fun hm => hm, ?_⟩
  change Prog.Under _ _ (afterLookup tenant (m'.clients.lookup (cacheKey tenant))) _ m'
  have hentry : m'.clients.lookup (cacheKey tenant) = some client := hm'
  rw [hentry]
  rfl

theorem spares_program_get {key : String} (hkey : cacheKey tenant ≠ key) :
    Prog.Uses (Spares key) ((Job.get tenant).program : Steps Config Client _) := by
  rw [program_get]
  refine ⟨trivial, ?_⟩
  intro found
  cases found with
  | some client => trivial
  | none =>
      refine ⟨trivial, ?_⟩
      intro resolved
      cases resolved with
      | error err => exact ⟨hkey, fun _ => trivial⟩
      | ok data =>
          refine ⟨trivial, ?_⟩
          intro configured
          cases configured with
          | error err => exact ⟨hkey, fun _ => trivial⟩
          | ok cfg =>
              refine ⟨trivial, ?_⟩
              intro built
              cases built with
              | error err => exact ⟨hkey, fun _ => trivial⟩
              | ok client => exact ⟨hkey, fun _ => trivial⟩

end

/-! ## The host's own secrets -/

section

variable {Config ι : Type} {env : Env} {restConfig : List UInt8 → Except Err Config}
  {factory : Config → Except Err Clientset} {host : { w : Cluster // ValidSecretNames w }}
  {tenant : TenantRef}

/-- Where a tenant reference leads is what the host's kubeconfig secret says. -/
def LedBySecret (env : Env) (restConfig : List UInt8 → Except Err Config)
    (factory : Config → Except Err Clientset) (host : { w : Cluster // ValidSecretNames w })
    (tenant : TenantRef) : Prop :=
  env.connect tenant = connect (clusterBackend env restConfig factory) host tenant

/-- While the host's secrets stay as they are, `Env.connect` is what every `Get` of the
operator returns. -/
theorem get_returns_connect [DecidableEq ι] {jobs : ι → Job}
    {t : Threads (ClientCall Config Clientset) ClientCall.Reply
      (fun _ : ι => Option (Except Err Clientset)) (Manager Clientset _)}
    (hled : LedBySecret env restConfig factory host tenant)
    (hreach : Threads.Reaches (serve (clusterBackend env restConfig factory)) (fun _ _ => True)
      (start jobs host) t)
    {i : ι} (hget : jobs i = .get tenant) {a : Option (Except Err Clientset)}
    (ha : (t.prog i).result = some a) :
    a = some (env.connect tenant) := by
  have hstable : Stable (clusterBackend env restConfig factory) host :=
    ⟨fun _ _ => rfl, fun _ => rfl, fun _ => rfl⟩
  have hi := (under_of_reaches (separatorFree_clusterBackend env restConfig factory) hstable
    hreach).2 i
  rw [Prog.eq_ret_of_result ha] at hi
  have hanswer : a = (jobs i).answer (clusterBackend env restConfig factory) host := hi
  rw [hanswer, hget, hled]
  rfl

structure NothingMissing (restConfig : List UInt8 → Except Err Config)
    (factory : Config → Except Err Clientset) : Prop where
  restConfig : ∀ data err, restConfig data = .error err → err.isNotFound = false
  factory : ∀ cfg err, factory cfg = .error err → err.isNotFound = false

theorem secret_missing_of_connect (hbuilders : NothingMissing restConfig factory) {err : Err}
    (herr : connect (clusterBackend env restConfig factory) host tenant = .error err)
    (hmissing : err.isNotFound = true) :
    host.1.hostSecrets.get ⟨tenant.vclusterNamespace, tenant.kubeconfigSecret⟩ = none := by
  simp only [connect, clusterBackend] at herr
  cases hresolve : ((resolve tenant.vclusterNamespace tenant.kubeconfigSecret).run (api env)
      host.1).1 with
  | error e =>
      rw [hresolve] at herr
      cases herr
      exact missing_of_resolve hresolve hmissing
  | ok data =>
      rw [hresolve] at herr
      cases hconfig : restConfig data with
      | error e =>
          simp only [hconfig] at herr
          cases herr
          have hfound := hbuilders.restConfig _ _ hconfig
          exact absurd (hfound.symm.trans hmissing) Bool.false_ne_true
      | ok cfg =>
          cases hfactory : factory cfg with
          | error e =>
              simp only [hconfig, hfactory] at herr
              cases herr
              have hfound := hbuilders.factory _ _ hfactory
              exact absurd (hfound.symm.trans hmissing) Bool.false_ne_true
          | ok client =>
              simp only [hconfig, hfactory] at herr
              cases herr

end

/-- While secrets and builders stay as they are, every call in every interleaving
returns what it would return without a cache. -/
theorem shared_cache_transparent {Config Client ρ ι : Type} [DecidableEq ι]
    (b : Backend Config Client ρ) (r : ρ) (hb : SeparatorFree b) (hstable : Stable b r)
    (jobs : ι → Job)
    (t : Threads (ClientCall Config Client) ClientCall.Reply
      (fun _ : ι => Option (Except Err Client)) (Manager Client ρ))
    (hreach : Threads.Reaches (serve b) (fun _ _ => True) (start jobs r) t) :
    Current b r t.shared ∧
      ∀ i a, (t.prog i).result = some a → a = (jobs i).answer b r := by
  obtain ⟨hcurrent, hunder⟩ := under_of_reaches hb hstable hreach
  refine ⟨hcurrent, ?_⟩
  intro i a hresult
  have hi := hunder i
  rw [Prog.eq_ret_of_result hresult] at hi
  exact hi

theorem stable_oneSecret : Stable oneSecret () := ⟨fun _ _ => rfl, fun _ => rfl, fun _ => rfl⟩

def acmeTenant : TenantRef := { vclusterNamespace := "acme", kubeconfigSecret := "kubeconfig" }

theorem turns_transparent :
    ∃ t, Threads.Reaches (serve oneSecret) (fun _ _ => True)
        (start (fun _ : Bool => .get acmeTenant) ()) t ∧
      (t.prog false).result = some (some (.ok [1])) ∧
      (t.prog true).result = some (some (.ok [1])) ∧
      Current oneSecret () t.shared := by
  have hreach : Threads.Reaches (serve oneSecret) (fun _ _ => True)
      (start (fun _ : Bool => .get acmeTenant) ()) _ :=
    Threads.reaches_follow .start (show Threads.follow _
      [false, true, false, true, false, true, false, true, false, true] _ = some _ from rfl)
  have htransparent := shared_cache_transparent oneSecret () separatorFree_oneSecret
    stable_oneSecret _ _ hreach
  exact ⟨_, hreach, rfl, rfl, htransparent.1⟩

/-- Once a tenant has an entry and none of its own calls is under way, that entry is
what every later `Get` of the tenant returns, whatever becomes of its secret and
whatever calls are made for other tenants. -/
theorem cached_client_outlives_secret {Config Client ρ ι : Type} [DecidableEq ι]
    (b : Backend Config Client ρ) (tenant : TenantRef) (client : Client)
    (t₀ t : Threads (ClientCall Config Client) ClientCall.Reply
      (fun _ : ι => Option (Except Err Client)) (Manager Client ρ))
    (hentry : t₀.shared.clients.lookup (cacheKey tenant) = some client)
    (hidle : ∀ i, t₀.prog i = (Job.get tenant).program ∨
      Prog.Uses (Spares (cacheKey tenant)) (t₀.prog i))
    (hreach : Threads.Reaches (serve b) (fun _ _ => True) t₀ t) :
    t.shared.clients.lookup (cacheKey tenant) = some client ∧
      ∀ i, t₀.prog i = (Job.get tenant).program →
        ∀ a, (t.prog i).result = some a → a = some (.ok client) := by
  let Q : ι → Option (Except Err Client) → Manager Client ρ → Prop :=
    fun i a _ => t₀.prog i = (Job.get tenant).program → a = some (.ok client)
  have hstart : ∀ i, Prog.Under (serve b) (keptEntry (cacheKey tenant) client) (t₀.prog i) (Q i)
      t₀.shared := by
    intro i
    by_cases hget : t₀.prog i = (Job.get tenant).program
    · rw [hget]
      exact under_get_of_cached.mono fun a _ ha _ => ha
    · exact (under_of_spares ((hidle i).resolve_left hget)).mono fun _ _ _ h => (hget h).elim
  obtain ⟨hkept, hunder⟩ := hreach.under (fun _ _ _ _ h _ => h) hentry hstart
  refine ⟨hkept, ?_⟩
  intro i hget a hresult
  have hi := hunder i
  rw [Prog.eq_ret_of_result hresult] at hi
  exact hi hget

/-- An entry for the tenant from before its secret was changed, and a call for each of
two tenants. -/
def rotatedSecret : Threads (ClientCall (List UInt8) (List UInt8)) ClientCall.Reply
    (fun _ : Bool => Option (Except Err (List UInt8))) (Manager (List UInt8) Unit) where
  shared := ⟨(∅ : AList fun _ : String => List UInt8).insert (cacheKey acmeTenant) [0], ()⟩
  prog
    | false => (Job.get acmeTenant).program
    | true => (Job.get { acmeTenant with kubeconfigSecret := "other" }).program

theorem rotatedSecret_unnoticed :
    connect oneSecret () acmeTenant = .ok [1] ∧
      ∃ t, Threads.Reaches (serve oneSecret) (fun _ _ => True) rotatedSecret t ∧
        (t.prog false).result = some (some (.ok [0])) ∧
        t.shared.clients.lookup (cacheKey acmeTenant) = some [0] := by
  have hreach : Threads.Reaches (serve oneSecret) (fun _ _ => True) rotatedSecret _ :=
    Threads.reaches_follow .start
      (show Threads.follow _ [true, true, true, false] _ = some _ from rfl)
  have hidle : ∀ i, rotatedSecret.prog i = (Job.get acmeTenant).program ∨
      Prog.Uses (Spares (cacheKey acmeTenant)) (rotatedSecret.prog i)
    | false => .inl rfl
    | true => .inr (spares_program_get (by decide))
  have houtlives := cached_client_outlives_secret oneSecret acmeTenant [0] _ _ (by decide) hidle
    hreach
  exact ⟨rfl, _, hreach, rfl, houtlives.1⟩

end VNodeOperator.Tenants
