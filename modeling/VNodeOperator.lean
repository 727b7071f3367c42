import VNodeOperator.Adapter.NodeRepository
import VNodeOperator.Adapter.PodClient
import VNodeOperator.Adapter.Registrar
import VNodeOperator.Adapter.TenantClients
import VNodeOperator.Kube.Cluster
import VNodeOperator.Kube.Objects
import VNodeOperator.Model.Node
import VNodeOperator.Model.Pod
import VNodeOperator.Nodes.Consistency
import VNodeOperator.Nodes.Deprovision
import VNodeOperator.Nodes.Healing
import VNodeOperator.Nodes.Heartbeat
import VNodeOperator.Nodes.Lifecycle
import VNodeOperator.Nodes.Outcomes
import VNodeOperator.Nodes.Panics
import VNodeOperator.Nodes.Quiescence
import VNodeOperator.Nodes.Readiness
import VNodeOperator.Nodes.Registration
import VNodeOperator.Nodes.Retry
import VNodeOperator.Nodes.Scaling
import VNodeOperator.Nodes.StaleOutcome
import VNodeOperator.Nodes.StatusWrites
import VNodeOperator.Nodes.TenantNodes
import VNodeOperator.Operator.Abandonment
import VNodeOperator.Operator.Conduct
import VNodeOperator.Operator.Confinement
import VNodeOperator.Operator.Mirrors
import VNodeOperator.Operator.NodeRetries
import VNodeOperator.Operator.Noninterference
import VNodeOperator.Operator.Ownership
import VNodeOperator.Operator.PodPolling
import VNodeOperator.Operator.PoolNames
import VNodeOperator.Operator.PoolStatus
import VNodeOperator.Operator.Queues
import VNodeOperator.Operator.Records
import VNodeOperator.Operator.Tenancy
import VNodeOperator.Pass.Calls
import VNodeOperator.Pass.Completion
import VNodeOperator.Pass.Convergence
import VNodeOperator.Pass.Counters
import VNodeOperator.Pass.Deletions
import VNodeOperator.Pass.Effects
import VNodeOperator.Pass.ForeignObjects
import VNodeOperator.Pass.Frame
import VNodeOperator.Pass.HostPodNames
import VNodeOperator.Pass.Interruption
import VNodeOperator.Pass.LiveWorkload
import VNodeOperator.Pass.NameLimits
import VNodeOperator.Pass.Policy
import VNodeOperator.Pass.Report
import VNodeOperator.Pass.RoundTrip
import VNodeOperator.Pass.Rule
import VNodeOperator.Pass.Run
import VNodeOperator.Pass.Settling
import VNodeOperator.Pass.SharedCluster
import VNodeOperator.Pass.Specification
import VNodeOperator.Pass.Stabilization
import VNodeOperator.Pass.StatusMirror
import VNodeOperator.Pass.SyncedObjects
import VNodeOperator.Pass.Target
import VNodeOperator.Pass.TerminalPods
import VNodeOperator.Pass.Translation
import VNodeOperator.Pools.Approach
import VNodeOperator.Pools.BringUp
import VNodeOperator.Pools.ConditionMap
import VNodeOperator.Pools.Conditions
import VNodeOperator.Pools.Degraded
import VNodeOperator.Pools.Finalization
import VNodeOperator.Pools.Hosting
import VNodeOperator.Pools.InService
import VNodeOperator.Pools.Isolation
import VNodeOperator.Pools.StatusRace
import VNodeOperator.Pools.Teardown
import VNodeOperator.Ports
import VNodeOperator.ProofSupport.Compartments
import VNodeOperator.ProofSupport.Contracts
import VNodeOperator.ProofSupport.Events
import VNodeOperator.ProofSupport.Faults
import VNodeOperator.ProofSupport.FaultyThreads
import VNodeOperator.ProofSupport.Folds
import VNodeOperator.ProofSupport.Guarantee
import VNodeOperator.ProofSupport.Layers
import VNodeOperator.ProofSupport.Parts
import VNodeOperator.ProofSupport.Program
import VNodeOperator.ProofSupport.RelyGuarantee
import VNodeOperator.ProofSupport.Store
import VNodeOperator.ProofSupport.Threads
import VNodeOperator.ProofSupport.Upsert
import VNodeOperator.ProofSupport.WorkQueue
import VNodeOperator.Reconciler.PodSync
import VNodeOperator.Reconciler.VNode
import VNodeOperator.Reconciler.VNodePool
import VNodeOperator.Reconciler.Watches
import VNodeOperator.Requests
import VNodeOperator.Service.NodeService
import VNodeOperator.Service.PodExecution
import VNodeOperator.Service.PodService
import VNodeOperator.Service.PoolLifecycle
import VNodeOperator.Service.PoolService
import VNodeOperator.Tenants.ClientCache
import VNodeOperator.Tenants.SharedCache
