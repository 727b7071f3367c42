import VNodeOperator.Ports
import VNodeOperator.ProofSupport.Layers

/-!
# The ports, request by request

The adapters behind the node ports issue several API requests for one call.
`requests` spells a call out as those requests, and `serve` answers them.  Run
without interruption they do what `handle` says (`via_serve_requests`); with
failures or other writers in between, a call may be left half done.
-/

namespace VNodeOperator.Ports

open Model Kube Adapter ProofSupport

/-- One request to an API server, or a port that is used as a whole. -/
inductive Request where
  | api (c : ApiCall)
  | port (c : Call)

@[reducible] def Request.Value : Request → Type
  | .api c => c.Value
  | .port c => c.Value

abbrev Request.Reply (r : Request) : Type := Except Err r.Value

abbrev Req := Prog Request Request.Reply

def apiRequests {α : Type} (p : Api α) : Req α := p.expand fun c => Prog.perform (.api c)

def requests (env : Env) : (c : Call) → Req c.Reply
  | .listByPool ns poolName => apiRequests (NodeRepository.listByPool ns poolName)
  | .save node => apiRequests (NodeRepository.save node)
  | .delete k => apiRequests (NodeRepository.delete k)
  | .register node tenant => apiRequests (Registrar.register env node tenant)
  | .deregister node tenant => apiRequests (Registrar.deregister node tenant)
  | .updateNodeStatus node tenant => apiRequests (Registrar.updateNodeStatus env node tenant)
  | .deletePod k => apiRequests (PodClient.deletePod k)
  | .ensureConfigMap cm => apiRequests (PodClient.ensureConfigMap cm)
  | .ensureSecret s => apiRequests (PodClient.ensureSecret s)
  | .getVNode k => Prog.perform (Request.api (.getVNode k))
  | c => Prog.perform (Request.port c)

def serve (env : Env) : Handler Request Request.Reply Cluster
  | .api c, w => api env c w
  | .port c, w => handle env c w

theorem run_apiRequests (env : Env) {α : Type} (p : Api α) (w : Cluster) :
    (apiRequests p).run (serve env) w = p.run (api env) w :=
  Prog.run_expand (serve env) _ p w

/-- Request by request the ports do what they do as a whole. -/
theorem via_serve_requests (env : Env) : Prog.via (serve env) (requests env) = handle env := by
  funext c w
  cases c <;> first | exact run_apiRequests env _ w | rfl

theorem uses_apiRequests {A : Request → Prop} {α : Type} {p : Api α}
    (hp : Prog.Uses (fun c => A (.api c)) p) : Prog.Uses A (apiRequests p) :=
  hp.expand fun _ hc => Prog.Uses.perform hc

end VNodeOperator.Ports
