import VNodeOperator.Adapter.TenantClients
import VNodeOperator.ProofSupport.Threads

/-!
# The client cache keeps tenants apart

Any number of `Get` and `Invalidate` calls run side by side, step by step.  The
key of an entry joins two names by a slash, and the names come from users; but a
client is stored only after its kubeconfig was resolved, and then the names are
those of a secret and contain no slash.  So every entry stands under a key that
belongs to one pair of names.
-/

namespace VNodeOperator.Tenants

open Model Kube Adapter ProofSupport TenantClients

inductive Job where
  | get (tenant : TenantRef)
  | invalidate (tenant : TenantRef)

section

variable {Config Client ρ ι : Type}

def Job.program : Job → Steps Config Client (Option (Except Err Client))
  | .get tenant => do return some (← TenantClients.get tenant)
  | .invalidate tenant => do
      TenantClients.invalidate tenant
      return none

def start (jobs : ι → Job) (backend : ρ) :
    Threads (ClientCall Config Client) ClientCall.Reply
      (fun _ : ι => Option (Except Err Client)) (Manager Client ρ) where
  shared := newManager backend
  prog i := (jobs i).program

abbrev CacheRun [DecidableEq ι] (b : Backend Config Client ρ) (jobs : ι → Job) (backend : ρ) :=
  Threads.Runs (serve b) (fun _ _ _ => True) (start jobs backend)

/-! ## Where a client comes from -/

section

variable (b : Backend Config Client ρ)
  (log : List (ι × Event (ClientCall Config Client) (Manager Client ρ))) (i : ι)
  (ns name : String)

def Resolved (data : List UInt8) : Prop :=
  ∃ m, (i, ⟨.resolve ns name, m⟩) ∈ log ∧ (b.resolve ns name m.backend).1 = .ok data

def Configured (cfg : Config) : Prop :=
  ∃ data m, Resolved b log i ns name data ∧ (i, ⟨.restConfig data, m⟩) ∈ log ∧
    (b.restConfig data m.backend).1 = .ok cfg

def Built (client : Client) : Prop :=
  ∃ cfg m, Configured b log i ns name cfg ∧ (i, ⟨.factory cfg, m⟩) ∈ log ∧
    (b.factory cfg m.backend).1 = .ok client

def BuiltFor (client : Client) : Prop := ∃ i, Built b log i ns name client

end

section

variable {b : Backend Config Client ρ}
  {log log' : List (ι × Event (ClientCall Config Client) (Manager Client ρ))} {i : ι}
  {ns name : String}

theorem Resolved.mono {data : List UInt8} (h : Resolved b log i ns name data)
    (hlog : log ⊆ log') : Resolved b log' i ns name data := by
  obtain ⟨m, hmem, hreply⟩ := h
  exact ⟨m, hlog hmem, hreply⟩

theorem Configured.mono {cfg : Config} (h : Configured b log i ns name cfg)
    (hlog : log ⊆ log') : Configured b log' i ns name cfg := by
  obtain ⟨data, m, hdata, hmem, hreply⟩ := h
  exact ⟨data, m, hdata.mono hlog, hlog hmem, hreply⟩

theorem Built.mono {client : Client} (h : Built b log i ns name client)
    (hlog : log ⊆ log') : Built b log' i ns name client := by
  obtain ⟨cfg, m, hcfg, hmem, hreply⟩ := h
  exact ⟨cfg, m, hcfg.mono hlog, hlog hmem, hreply⟩

theorem BuiltFor.mono {client : Client} (h : BuiltFor b log ns name client)
    (hlog : log ⊆ log') : BuiltFor b log' ns name client := by
  obtain ⟨i, hbuilt⟩ := h
  exact ⟨i, hbuilt.mono hlog⟩

theorem BuiltFor.slashFree {client : Client} (hb : SeparatorFree b)
    (h : BuiltFor b log ns name client) : SlashFree ns name := by
  obtain ⟨i, cfg, _, ⟨data, _, ⟨m, _, hresolved⟩, _⟩, _⟩ := h
  exact hb ns name m.backend data hresolved

end

/-! ## The steps of a call -/

section

variable (tenant : TenantRef)

def forgetting (err : Err) : Steps Config Client (Option (Except Err Client)) :=
  .call (.forget (cacheKey tenant)) fun _ => .ret (some (.error err))

def storing (client : Client) : Steps Config Client (Option (Except Err Client)) :=
  .call (.store (cacheKey tenant) client) fun _ => .ret (some (.ok client))

def afterFactory : Except Err Client → Steps Config Client (Option (Except Err Client))
  | .error err => forgetting tenant (err.wrap "building tenant clientset")
  | .ok client => storing tenant client

def afterConfig : Except Err Config → Steps Config Client (Option (Except Err Client))
  | .error err => forgetting tenant (err.wrap "building tenant rest config")
  | .ok cfg => .call (.factory cfg) (afterFactory tenant)

def afterResolve : Except Err (List UInt8) → Steps Config Client (Option (Except Err Client))
  | .error err => forgetting tenant (err.wrap "resolving tenant kubeconfig")
  | .ok data => .call (.restConfig data) (afterConfig tenant)

def afterLookup : Option Client → Steps Config Client (Option (Except Err Client))
  | some client => .ret (some (.ok client))
  | none => .call (.resolve tenant.vclusterNamespace tenant.kubeconfigSecret) (afterResolve tenant)

theorem program_get :
    (Job.get tenant).program = (.call (.cached (cacheKey tenant)) (afterLookup tenant) :
      Steps Config Client _) := by
  refine congrArg (Prog.call _) (funext fun found => ?_)
  cases found with
  | some client => rfl
  | none =>
      refine congrArg (Prog.call _) (funext fun resolved => ?_)
      cases resolved with
      | error err => rfl
      | ok data =>
          refine congrArg (Prog.call _) (funext fun configured => ?_)
          cases configured with
          | error err => rfl
          | ok cfg =>
              refine congrArg (Prog.call _) (funext fun built => ?_)
              cases built <;> rfl

end

/-! ## The invariant -/

/-- Every entry was built for the names its key is made of. -/
def Faithful (b : Backend Config Client ρ)
    (log : List (ι × Event (ClientCall Config Client) (Manager Client ρ)))
    (m : Manager Client ρ) : Prop :=
  ∀ key client, m.clients.lookup key = some client →
    ∃ tenant, cacheKey tenant = key ∧
      BuiltFor b log tenant.vclusterNamespace tenant.kubeconfigSecret client

/-- How far a call has come, with what that says about the steps taken so far. -/
inductive Place (b : Backend Config Client ρ)
    (log : List (ι × Event (ClientCall Config Client) (Manager Client ρ))) (i : ι) :
    Job → Steps Config Client (Option (Except Err Client)) → Prop
  | looking (tenant : TenantRef) :
      Place b log i (.get tenant) (.call (.cached (cacheKey tenant)) (afterLookup tenant))
  | resolving (tenant : TenantRef) :
      Place b log i (.get tenant) (.call
        (.resolve tenant.vclusterNamespace tenant.kubeconfigSecret) (afterResolve tenant))
  | configuring (tenant : TenantRef) (data : List UInt8)
      (h : Resolved b log i tenant.vclusterNamespace tenant.kubeconfigSecret data) :
      Place b log i (.get tenant) (.call (.restConfig data) (afterConfig tenant))
  | building (tenant : TenantRef) (cfg : Config)
      (h : Configured b log i tenant.vclusterNamespace tenant.kubeconfigSecret cfg) :
      Place b log i (.get tenant) (.call (.factory cfg) (afterFactory tenant))
  | storing (tenant : TenantRef) (client : Client)
      (h : Built b log i tenant.vclusterNamespace tenant.kubeconfigSecret client) :
      Place b log i (.get tenant) (storing tenant client)
  | forgetting (tenant : TenantRef) (err : Err) :
      Place b log i (.get tenant) (forgetting tenant err)
  | got (tenant : TenantRef) (client : Client)
      (h : BuiltFor b log tenant.vclusterNamespace tenant.kubeconfigSecret client) :
      Place b log i (.get tenant) (.ret (some (.ok client)))
  | failed (tenant : TenantRef) (err : Err) :
      Place b log i (.get tenant) (.ret (some (.error err)))
  | invalidating (tenant : TenantRef) :
      Place b log i (.invalidate tenant)
        (.call (.forget (cacheKey tenant)) fun _ => .ret none)
  | invalidated (tenant : TenantRef) : Place b log i (.invalidate tenant) (.ret none)

section

variable {b : Backend Config Client ρ}
  {log log' : List (ι × Event (ClientCall Config Client) (Manager Client ρ))} {i : ι}

theorem Faithful.mono {m : Manager Client ρ} (h : Faithful b log m) (hlog : log ⊆ log') :
    Faithful b log' m := by
  intro key client hlookup
  obtain ⟨tenant, hkey, hbuilt⟩ := h key client hlookup
  exact ⟨tenant, hkey, hbuilt.mono hlog⟩

theorem Place.mono {job : Job} {p : Steps Config Client (Option (Except Err Client))}
    (h : Place b log i job p) (hlog : log ⊆ log') : Place b log' i job p := by
  cases h with
  | looking tenant => exact .looking tenant
  | resolving tenant => exact .resolving tenant
  | configuring tenant data h => exact .configuring tenant data (h.mono hlog)
  | building tenant cfg h => exact .building tenant cfg (h.mono hlog)
  | storing tenant client h => exact .storing tenant client (h.mono hlog)
  | forgetting tenant err => exact .forgetting tenant err
  | got tenant client h => exact .got tenant client (h.mono hlog)
  | failed tenant err => exact .failed tenant err
  | invalidating tenant => exact .invalidating tenant
  | invalidated tenant => exact .invalidated tenant

theorem place_program (job : Job) : Place b log i job (job.program) := by
  cases job with
  | get tenant =>
      rw [program_get]
      exact .looking tenant
  | invalidate tenant => exact .invalidating tenant

/-- An entry found under a tenant's key was built for that tenant. -/
theorem Faithful.builtFor (hb : SeparatorFree b) {m : Manager Client ρ} (h : Faithful b log m)
    {tenant : TenantRef} {client : Client}
    (hlookup : m.clients.lookup (cacheKey tenant) = some client) :
    BuiltFor b log tenant.vclusterNamespace tenant.kubeconfigSecret client := by
  obtain ⟨owner, hkey, hbuilt⟩ := h _ client hlookup
  obtain ⟨hns, hname⟩ := cacheKey_inj (hbuilt.slashFree hb) hkey
  rw [hns, hname] at hbuilt
  exact hbuilt

def isStore : ClientCall Config Client → Bool
  | .store _ _ => true
  | _ => false

theorem lookup_of_not_store {c : ClientCall Config Client} (hc : isStore c = false)
    {m : Manager Client ρ} {key : String} {client : Client}
    (hafter : (serve b c m).2.clients.lookup key = some client) :
    m.clients.lookup key = some client := by
  cases c with
  | store key client => cases hc
  | forget key' =>
      have herase : (m.clients.erase key').lookup key = some client := hafter
      by_cases hkey : key = key'
      · rw [hkey, AList.lookup_erase] at herase
        cases herase
      · rw [AList.lookup_erase_ne hkey] at herase
        exact herase
  | _ => exact hafter

theorem Place.step (hb : SeparatorFree b) {job : Job} {c : ClientCall Config Client}
    {k : c.Reply → Steps Config Client (Option (Except Err Client))} {m : Manager Client ρ}
    (h : Place b log i job (.call c k)) (hm : Faithful b log m) :
    Place b (log ++ [(i, ⟨c, m⟩)]) i job (k (serve b c m).1) ∧
      Faithful b (log ++ [(i, ⟨c, m⟩)]) (serve b c m).2 ∧
      (isStore c = true → ∃ client, k (serve b c m).1 = .ret (some (.ok client))) := by
  have hlog : log ⊆ log ++ [(i, ⟨c, m⟩)] := List.subset_append_left _ _
  have hlast : (i, ⟨c, m⟩) ∈ log ++ [(i, ⟨c, m⟩)] := List.mem_append_right _ List.mem_cons_self
  -- a step that is not a store leaves a faithful map behind
  have hkept : isStore c = false → Faithful b (log ++ [(i, ⟨c, m⟩)]) (serve b c m).2 := by
    intro hc key client hlookup
    exact hm.mono hlog key client (lookup_of_not_store hc hlookup)
  have hother : isStore c = false → isStore c = true →
      ∃ client, k (serve b c m).1 = .ret (some (.ok client)) :=
    fun hc hc' => absurd (hc.symm.trans hc') Bool.false_ne_true
  cases h with
  | looking tenant =>
      refine ⟨?_, hkept rfl, hother rfl⟩
      change Place b _ i _ (afterLookup tenant (m.clients.lookup (cacheKey tenant)))
      cases hlookup : m.clients.lookup (cacheKey tenant) with
      | none => exact .resolving tenant
      | some client => exact .got tenant client ((hm.builtFor hb hlookup).mono hlog)
  | resolving tenant =>
      refine ⟨?_, hkept rfl, hother rfl⟩
      change Place b _ i _ (afterResolve tenant
        (b.resolve tenant.vclusterNamespace tenant.kubeconfigSecret m.backend).1)
      cases hreply : (b.resolve tenant.vclusterNamespace tenant.kubeconfigSecret m.backend).1 with
      | error err => exact .forgetting tenant _
      | ok data => exact .configuring tenant data ⟨m, hlast, hreply⟩
  | configuring tenant data hdata =>
      refine ⟨?_, hkept rfl, hother rfl⟩
      change Place b _ i _ (afterConfig tenant (b.restConfig data m.backend).1)
      cases hreply : (b.restConfig data m.backend).1 with
      | error err => exact .forgetting tenant _
      | ok cfg => exact .building tenant cfg ⟨data, m, hdata.mono hlog, hlast, hreply⟩
  | building tenant cfg hcfg =>
      refine ⟨?_, hkept rfl, hother rfl⟩
      change Place b _ i _ (afterFactory tenant (b.factory cfg m.backend).1)
      cases hreply : (b.factory cfg m.backend).1 with
      | error err => exact .forgetting tenant _
      | ok client => exact .storing tenant client ⟨cfg, m, hcfg.mono hlog, hlast, hreply⟩
  | storing tenant client hbuilt =>
      have hbuilt' := hbuilt.mono hlog
      refine ⟨.got tenant client ⟨i, hbuilt'⟩, ?_, fun _ => ⟨client, rfl⟩⟩
      intro key client' hlookup
      by_cases hkey : key = cacheKey tenant
      · have hself : (m.clients.insert (cacheKey tenant) client).lookup (cacheKey tenant) =
            some client := AList.lookup_insert m.clients
        rw [hkey] at hlookup ⊢
        have hsame : client = client' := Option.some.inj (hself.symm.trans hlookup)
        rw [← hsame]
        exact ⟨tenant, rfl, i, hbuilt'⟩
      · have hold : m.clients.lookup key = some client' :=
          (AList.lookup_insert_ne hkey).symm.trans hlookup
        exact hm.mono hlog key client' hold
  | forgetting tenant err => exact ⟨.failed tenant err, hkept rfl, hother rfl⟩
  | invalidating tenant => exact ⟨.invalidated tenant, hkept rfl, hother rfl⟩

end

structure Tracked (b : Backend Config Client ρ) (jobs : ι → Job)
    (log : List (ι × Event (ClientCall Config Client) (Manager Client ρ)))
    (t : Threads (ClientCall Config Client) ClientCall.Reply
      (fun _ : ι => Option (Except Err Client)) (Manager Client ρ)) : Prop where
  cache : Faithful b log t.shared
  place : ∀ i, Place b log i (jobs i) (t.prog i)
  stored : ∀ i e, (i, e) ∈ log → isStore e.call = true →
    ∃ client, t.prog i = .ret (some (.ok client))

variable [DecidableEq ι] {b : Backend Config Client ρ} {jobs : ι → Job} {backend : ρ}
  {log : List (ι × Event (ClientCall Config Client) (Manager Client ρ))}
  {t : Threads (ClientCall Config Client) ClientCall.Reply
    (fun _ : ι => Option (Except Err Client)) (Manager Client ρ)}

theorem tracked_of_run (hb : SeparatorFree b) (hrun : CacheRun b jobs backend log t) :
    Tracked b jobs log t := by
  refine hrun.invariant (I := Tracked b jobs) ?_ ?_
  · refine ⟨?_, fun i => place_program (jobs i), ?_⟩
    · intro key client hlookup
      cases hlookup
    · intro i e he
      cases he
  · intro log t t' i c k htracked _ hprog hstep
    obtain ⟨hshared, hself, hothers⟩ := Threads.step_call hprog hstep
    have hplace := htracked.place i
    rw [hprog] at hplace
    obtain ⟨hnext, hcache, hreturned⟩ := hplace.step hb htracked.cache
    rw [← hself] at hnext
    rw [← hshared] at hcache
    refine ⟨hcache, ?_, ?_⟩
    · intro j
      by_cases hj : j = i
      · rw [hj]
        exact hnext
      · rw [hothers j hj]
        exact (htracked.place j).mono (List.subset_append_left _ _)
    · intro j e he hstore
      rcases List.mem_append.mp he with he | he
      · obtain ⟨client, hret⟩ := htracked.stored j e he hstore
        by_cases hj : j = i
        · -- a call that has stored its client has nothing left to do
          rw [hj, hprog] at hret
          cases hret
        · rw [hothers j hj]
          exact ⟨client, hret⟩
      · cases List.mem_singleton.mp he
        rw [hself]
        exact hreturned hstore

end

/-- In any interleaving of `Get` and `Invalidate`, a `Get` returns a client that was
built from a kubeconfig of the secret it names, and a `Get` that fails has added
no entry. -/
theorem clients_never_cross {Config Client ρ ι : Type} [DecidableEq ι]
    (b : Backend Config Client ρ) (hb : SeparatorFree b) (jobs : ι → Job) (backend : ρ)
    (log : List (ι × Event (ClientCall Config Client) (Manager Client ρ)))
    (t : Threads (ClientCall Config Client) ClientCall.Reply
      (fun _ : ι => Option (Except Err Client)) (Manager Client ρ))
    (hrun : CacheRun b jobs backend log t) :
    (∀ i tenant client, jobs i = .get tenant → (t.prog i).result = some (some (.ok client)) →
      BuiltFor b log tenant.vclusterNamespace tenant.kubeconfigSecret client) ∧
    ∀ i tenant err, jobs i = .get tenant → (t.prog i).result = some (some (.error err)) →
      ∀ e, (i, e) ∈ log → ∀ key client,
        (e.after (serve b)).clients.lookup key = some client →
          e.before.clients.lookup key = some client := by
  have htracked := tracked_of_run hb hrun
  constructor
  · intro i tenant client hjob hresult
    have hplace := htracked.place i
    rw [hjob, Prog.eq_ret_of_result hresult] at hplace
    cases hplace with
    | got _ _ hbuilt => exact hbuilt
  · intro i tenant err hjob hresult e he key client hafter
    have hstore : isStore e.call = false := by
      cases hcall : isStore e.call with
      | false => rfl
      | true =>
          obtain ⟨client, hret⟩ := htracked.stored i e he hcall
          rw [hret] at hresult
          cases hresult
    exact lookup_of_not_store hstore hafter

/-! ## The cache is transparent -/

section

variable {Config Client ρ : Type} (b : Backend Config Client ρ) (r : ρ)

def connect (tenant : TenantRef) : Except Err Client :=
  match (b.resolve tenant.vclusterNamespace tenant.kubeconfigSecret r).1 with
  | .error err => .error (err.wrap "resolving tenant kubeconfig")
  | .ok kubeconfig =>
      match (b.restConfig kubeconfig r).1 with
      | .error err => .error (err.wrap "building tenant rest config")
      | .ok cfg =>
          match (b.factory cfg r).1 with
          | .error err => .error (err.wrap "building tenant clientset")
          | .ok clientset => .ok clientset

structure Stable : Prop where
  resolve : ∀ ns name, (b.resolve ns name r).2 = r
  restConfig : ∀ kubeconfig, (b.restConfig kubeconfig r).2 = r
  factory : ∀ cfg, (b.factory cfg r).2 = r

/-- The entries are what building them anew would give. -/
structure Current (m : Manager Client ρ) : Prop where
  backend : m.backend = r
  entries : ∀ key client, m.clients.lookup key = some client →
    ∃ tenant, cacheKey tenant = key ∧
      SlashFree tenant.vclusterNamespace tenant.kubeconfigSecret ∧
      connect b r tenant = .ok client

variable {b r}

theorem connect_slashFree (hb : SeparatorFree b) {tenant : TenantRef} {client : Client}
    (h : connect b r tenant = .ok client) :
    SlashFree tenant.vclusterNamespace tenant.kubeconfigSecret := by
  unfold connect at h
  cases hresolve : (b.resolve tenant.vclusterNamespace tenant.kubeconfigSecret r).1 with
  | error err =>
      rw [hresolve] at h
      cases h
  | ok kubeconfig => exact hb _ _ r kubeconfig hresolve

theorem Current.erase {m : Manager Client ρ} (hm : Current b r m) (key : String) :
    Current b r { m with clients := m.clients.erase key } := by
  refine ⟨hm.backend, ?_⟩
  intro key' client hlookup
  exact hm.entries key' client (lookup_of_not_store (b := b) (c := .forget key) rfl hlookup)

theorem Current.insert {m : Manager Client ρ} (hm : Current b r m) (hb : SeparatorFree b)
    {tenant : TenantRef} {client : Client} (hclient : connect b r tenant = .ok client) :
    Current b r { m with clients := m.clients.insert (cacheKey tenant) client } := by
  refine ⟨hm.backend, ?_⟩
  intro key client' hlookup
  by_cases hkey : key = cacheKey tenant
  · subst hkey
    have hsame : some client = some client' := (AList.lookup_insert m.clients).symm.trans hlookup
    cases hsame
    exact ⟨tenant, rfl, connect_slashFree hb hclient, hclient⟩
  · exact hm.entries key client' ((AList.lookup_insert_ne hkey).symm.trans hlookup)

section

variable (hstable : Stable b r) (clients : AList (fun _ : String => Client))

include hstable

theorem Stable.serve_resolve (ns name : String) :
    serve b (.resolve ns name) ⟨clients, r⟩ = ((b.resolve ns name r).1, ⟨clients, r⟩) :=
  Prod.ext rfl (congrArg (Manager.mk clients) (hstable.resolve ns name))

theorem Stable.serve_restConfig (kubeconfig : List UInt8) :
    serve b (.restConfig kubeconfig) ⟨clients, r⟩ =
      ((b.restConfig kubeconfig r).1, ⟨clients, r⟩) :=
  Prod.ext rfl (congrArg (Manager.mk clients) (hstable.restConfig kubeconfig))

theorem Stable.serve_factory (cfg : Config) :
    serve b (.factory cfg) ⟨clients, r⟩ = ((b.factory cfg r).1, ⟨clients, r⟩) :=
  Prod.ext rfl (congrArg (Manager.mk clients) (hstable.factory cfg))

end

end

/-! ### Two calls -/

/-- A resolver for the secret `kubeconfig` of namespace `acme`; a client is the bytes
it was built from. -/
def oneSecret : Backend (List UInt8) (List UInt8) Unit where
  resolve ns name r :=
    (if ns = "acme" ∧ name = "kubeconfig" then .ok [1]
      else .error (notFoundError "secrets" name), r)
  restConfig data r := (.ok data, r)
  factory cfg r := (.ok cfg, r)

theorem separatorFree_oneSecret : SeparatorFree oneSecret := by
  intro ns name r data h
  simp only [oneSecret] at h
  split at h
  · next hname =>
      rw [hname.1, hname.2]
      decide
  · cases h

/-- The second call is for a namespace with a slash in its name. -/
def twoGets : Bool → Job
  | false => .get { vclusterNamespace := "acme", kubeconfigSecret := "kubeconfig" }
  | true => .get { vclusterNamespace := "acme/kubeconfig", kubeconfigSecret := "" }

theorem twoGets_apart :
    ∃ log t, CacheRun oneSecret twoGets () log t ∧
      (t.prog false).result = some (some (.ok [1])) ∧
      BuiltFor oneSecret log "acme" "kubeconfig" [1] ∧
      (∃ err, (t.prog true).result = some (some (.error err))) ∧
      ∀ e, (true, e) ∈ log → ∀ key client,
        (e.after (serve oneSecret)).clients.lookup key = some client →
          e.before.clients.lookup key = some client := by
  have hfirst : CacheRun oneSecret twoGets () _ _ :=
    Threads.Runs.start.alone (i := false) (fun _ _ _ => trivial)
  have hrun : CacheRun oneSecret twoGets () _ _ := hfirst.alone (i := true) (fun _ _ _ => trivial)
  have hapart := clients_never_cross oneSecret separatorFree_oneSecret twoGets () _ _ hrun
  exact ⟨_, _, hrun, rfl, hapart.1 false _ _ rfl rfl, ⟨_, rfl⟩, hapart.2 true _ _ rfl rfl⟩

end VNodeOperator.Tenants
