import ProvingGround.Api.Cluster
import ProvingGround.Api.Pools
import ProvingGround.Api.Queue
import ProvingGround.Api.Timing

/-!
# Remote services

The services of a run as they are reached over a transport: each call is one errand.
-/

namespace ProvingGround

open Http

/-- The services behind a transport. -/
structure Remote (τ : Type) where
  transport : τ
  pools : PoolApi
  queue : QueueApi

namespace Remote

def errand {τ : Type} (r : Remote τ) : (c : Call) → Errand c.Answer
  | .listNamespaces => ClusterApi.listNamespaces
  | .createNamespace name => ClusterApi.createNamespace name
  | .create ns object => ClusterApi.createObject ns object.kind object.toJson
  | .listPods ns selector => ClusterApi.listPods ns selector
  | .podLogs ns pod container => ClusterApi.podLogs ns pod container
  | .workloadStatus ns workload => ClusterApi.workloadStatus ns workload
  | .serviceAddress ns service => ClusterApi.serviceAddress ns service
  | .createPool request => r.pools.create request
  | .poolStatus name => r.pools.status name
  | .submit queue task => r.queue.submit queue task
  | .startTiming ns pod body => TimingApi.start ns pod body

def respond {τ : Type} [Transport τ] (r : Remote τ) (now : Duration) (c : Call) :
    Reply c.Answer × Remote τ :=
  let (reply, transport) := (r.errand c).run r.transport now
  (reply, { r with transport })

instance {τ : Type} [Transport τ] : Services (Remote τ) := ⟨respond⟩

/-- The services that settings name, at their usual addresses. -/
def ofSettings {τ : Type} (transport : τ) (c : CloudSettings) : Remote τ where
  transport
  pools := .atEndpoint PoolApi.usualEndpoint c
  queue := .atEndpoint QueueApi.usualEndpoint c.token

end Remote

end ProvingGround
