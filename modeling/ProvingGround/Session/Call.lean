import ProvingGround.Fault.Basic
import ProvingGround.Manifest.Logging
import ProvingGround.Network
import ProvingGround.Pool.Plan
import ProvingGround.Teardown.Task

/-!
# Calls

Everything that a run asks of the services around it: the cluster, the pools of machines, the queue
of teardown tasks and the timing service. Each call has a kind of answer of its own.
-/

namespace ProvingGround

inductive PoolStatus where
  | provisioning
  | running
  | failed (message : String)
  deriving DecidableEq, Repr

inductive Call where
  | listNamespaces
  | createNamespace (name : String)
  | create (ns : String) (object : Manifest)
  /-- The pods of a namespace with a label. -/
  | listPods (ns selector : String)
  /-- The log of a container up to now. -/
  | podLogs (ns pod container : String)
  | workloadStatus (ns : String) (workload : Workload)
  /-- The address at which a service is reached from outside. -/
  | serviceAddress (ns service : String)
  | createPool (request : PoolRequest)
  | poolStatus (name : String)
  /-- Hands a task over. -/
  | submit (queue : QueueAddress) (task : TeardownTask)
  | startTiming (ns : String) (pod : Pod) (body : String)
  deriving DecidableEq, Repr

namespace Call

/-- What a call is answered with when it does not fail. -/
abbrev Answer : Call → Type
  | listNamespaces => List String
  | createNamespace _ => Unit
  | create .. => Unit
  | listPods .. => List Pod
  | podLogs .. => String
  | workloadStatus .. => Option ReplicaCounts
  | serviceAddress .. => Option String
  | createPool _ => Unit
  | poolStatus _ => Option PoolStatus
  | submit .. => Unit
  | startTiming .. => String

end Call

/-- What comes back after a delay. -/
structure Reply (α : Type) where
  delay : Duration
  result : Except Fault α

/-- Services are a kind of world whose state answers calls, as the clock stands, and goes on. -/
class Services (σ : Type) where
  respond : σ → (now : Duration) → (c : Call) → Reply c.Answer × σ

end ProvingGround
