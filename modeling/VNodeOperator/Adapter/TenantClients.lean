import VNodeOperator.Kube.Cluster
import VNodeOperator.ProofSupport.Events

/-!
# Tenant clients

`TenantClientManager` of `internal/adapter/outbound/virtualkubelet/registrar.go`,
which keeps one client per kubeconfig secret, and `SecretKubeconfigResolver` of
`internal/adapter/outbound/kubeclient/kubeconfig.go`.  The map is read and
written under a lock, so each of its uses is one call; what it takes to build a
client happens outside the lock, one call after the other.
-/

namespace VNodeOperator.Adapter.TenantClients

open Model Kube ProofSupport

/-! ## Kubeconfig secrets -/

/-- The common key names, in the order in which they are tried. -/
def kubeconfigKeys : List String := ["kubeconfig", "config", "value"]

def kubeconfigData (secret : Secret) : Option (List UInt8) :=
  (kubeconfigKeys.filterMap secret.data.lookup).find? fun data => data.length > 0

/-- `SecretKubeconfigResolver.Resolve`. -/
def resolve (secretNamespace secretName : String) : Api (Except Err (List UInt8)) := do
  match ← request (.getSecret ⟨secretNamespace, secretName⟩) with
  | .error err =>
      return .error (err.wrap
        ("getting kubeconfig secret " ++ secretNamespace ++ "/" ++ secretName))
  | .ok secret =>
      match kubeconfigData secret with
      | some data => return .ok data
      | none =>
          return .error ⟨.other, "kubeconfig secret " ++ secretNamespace ++ "/" ++ secretName ++
            " has no recognized kubeconfig key (tried: kubeconfig, config, value)"⟩

theorem get_of_resolve {env : Env} {w : Cluster} {ns name : String} {data : List UInt8}
    (h : ((resolve ns name).run (api env) w).1 = .ok data) :
    ∃ secret, w.hostSecrets.get ⟨ns, name⟩ = some secret := by
  cases hget : w.hostSecrets.get ⟨ns, name⟩ with
  | some secret => exact ⟨secret, rfl⟩
  | none =>
      have hcall : (api env (.getSecret ⟨ns, name⟩) w).1 =
          .error (notFoundError "secrets" name) := by
        simp only [api, find_none _ _ hget]
      simp only [resolve, request, Prog.run_bind, Prog.run_perform, hcall, Prog.run_pure] at h
      cases h

theorem missing_of_resolve {env : Env} {w : Cluster} {ns name : String} {err : Err}
    (h : ((resolve ns name).run (api env) w).1 = .error err) (hmissing : err.isNotFound = true) :
    w.hostSecrets.get ⟨ns, name⟩ = none := by
  cases hget : w.hostSecrets.get ⟨ns, name⟩ with
  | none => rfl
  | some secret =>
      have hcall : (api env (.getSecret ⟨ns, name⟩) w).1 = .ok secret := by
        simp only [api, find_some _ _ hget]
      simp only [resolve, request, Prog.run_bind, Prog.run_perform, hcall] at h
      cases hdata : kubeconfigData secret with
      | some data =>
          rw [hdata] at h
          cases h
      | none =>
          rw [hdata] at h
          cases h
          cases hmissing

/-! ## The manager -/

/-- One step of the manager: a use of the map, or a call it makes meanwhile. -/
inductive ClientCall (Config Client : Type) where
  | cached (key : String)
  | resolve (secretNamespace secretName : String)
  | restConfig (kubeconfig : List UInt8)
  | factory (cfg : Config)
  | store (key : String) (client : Client)
  | forget (key : String)

@[reducible] def ClientCall.Reply {Config Client : Type} : ClientCall Config Client → Type
  | .cached _ => Option Client
  | .resolve _ _ => Except Err (List UInt8)
  | .restConfig _ => Except Err Config
  | .factory _ => Except Err Client
  | .store _ _ | .forget _ => Unit

section

variable {Config Client : Type}

abbrev Steps (Config Client : Type) := Prog (ClientCall Config Client) ClientCall.Reply

def step (c : ClientCall Config Client) : Steps Config Client c.Reply := Prog.perform c

def cacheKey (tenant : TenantRef) : String :=
  tenant.vclusterNamespace ++ "/" ++ tenant.kubeconfigSecret

def invalidate (tenant : TenantRef) : Steps Config Client Unit :=
  step (.forget (cacheKey tenant))

def get (tenant : TenantRef) : Steps Config Client (Except Err Client) := do
  match ← step (.cached (cacheKey tenant)) with
  | some clientset => return .ok clientset
  | none =>
      match ← step (.resolve tenant.vclusterNamespace tenant.kubeconfigSecret) with
      | .error err =>
          invalidate tenant
          return .error (err.wrap "resolving tenant kubeconfig")
      | .ok kubeconfig =>
          match ← step (.restConfig kubeconfig) with
          | .error err =>
              invalidate tenant
              return .error (err.wrap "building tenant rest config")
          | .ok cfg =>
              match ← step (.factory cfg) with
              | .error err =>
                  invalidate tenant
                  return .error (err.wrap "building tenant clientset")
              | .ok clientset =>
                  step (.store (cacheKey tenant) clientset)
                  return .ok clientset

/-- What the manager is given: the resolver and the two builders, each of which
may answer differently every time. -/
structure Backend (Config Client ρ : Type) where
  resolve : String → String → ρ → Except Err (List UInt8) × ρ
  restConfig : List UInt8 → ρ → Except Err Config × ρ
  factory : Config → ρ → Except Err Client × ρ

structure Manager (Client ρ : Type) where
  clients : AList (fun _ : String => Client)
  backend : ρ

def serve {ρ : Type} (b : Backend Config Client ρ) :
    Handler (ClientCall Config Client) ClientCall.Reply (Manager Client ρ)
  | .cached key, m => (m.clients.lookup key, m)
  | .resolve ns name, m => ((b.resolve ns name m.backend).1,
      { m with backend := (b.resolve ns name m.backend).2 })
  | .restConfig kubeconfig, m => ((b.restConfig kubeconfig m.backend).1,
      { m with backend := (b.restConfig kubeconfig m.backend).2 })
  | .factory cfg, m => ((b.factory cfg m.backend).1,
      { m with backend := (b.factory cfg m.backend).2 })
  | .store key client, m => ((), { m with clients := m.clients.insert key client })
  | .forget key, m => ((), { m with clients := m.clients.erase key })

def newManager {ρ : Type} (backend : ρ) : Manager Client ρ := ⟨∅, backend⟩

end

/-! ## Keys -/

def SlashFree (ns name : String) : Prop := '/' ∉ ns.toList ∧ '/' ∉ name.toList

instance (ns name : String) : Decidable (SlashFree ns name) := inferInstanceAs (Decidable (_ ∧ _))

/-- A key with one slash is the key of one pair of names. -/
theorem cacheKey_inj {tenant tenant' : TenantRef}
    (hfree : SlashFree tenant.vclusterNamespace tenant.kubeconfigSecret)
    (hkey : cacheKey tenant = cacheKey tenant') :
    tenant.vclusterNamespace = tenant'.vclusterNamespace ∧
      tenant.kubeconfigSecret = tenant'.kubeconfigSecret := by
  have hlist : tenant.vclusterNamespace.toList ++ '/' :: tenant.kubeconfigSecret.toList =
      tenant'.vclusterNamespace.toList ++ '/' :: tenant'.kubeconfigSecret.toList := by
    have hchars := congrArg String.toList hkey
    simpa [cacheKey] using hchars
  obtain ⟨hns, _, hname⟩ := (List.append_cons_inj_of_notMem hfree.1 hfree.2).mp hlist
  exact ⟨String.toList_injective hns, String.toList_injective hname⟩

def SeparatorFree {Config Client ρ : Type} (b : Backend Config Client ρ) : Prop :=
  ∀ ns name r data, (b.resolve ns name r).1 = .ok data → SlashFree ns name

/-- A cluster whose secrets have valid names: the API server admits no others. -/
def ValidSecretNames (w : Cluster) : Prop :=
  ∀ ns name secret, w.hostSecrets.get ⟨ns, name⟩ = some secret → SlashFree ns name

def clusterBackend {Config Client : Type} (env : Env)
    (restConfig : List UInt8 → Except Err Config) (factory : Config → Except Err Client) :
    Backend Config Client { w : Cluster // ValidSecretNames w } where
  resolve ns name w := (((resolve ns name).run (api env) w.1).1, w)
  restConfig kubeconfig w := (restConfig kubeconfig, w)
  factory cfg w := (factory cfg, w)

theorem separatorFree_clusterBackend {Config Client : Type} (env : Env)
    (restConfig : List UInt8 → Except Err Config) (factory : Config → Except Err Client) :
    SeparatorFree (clusterBackend env restConfig factory) := by
  intro ns name w data hdata
  obtain ⟨secret, hsecret⟩ := get_of_resolve hdata
  exact w.2 ns name secret hsecret

end VNodeOperator.Adapter.TenantClients
