import ProvingGround.Manifest.Writing
import ProvingGround.Session.Basic

/-!
# Traces

A journal in short: one line for each call, with the times of the clock. Calls that repeat the one
before them share its line, unless the call carries something worth showing in full.
-/

namespace ProvingGround

/-! ### Calls in words -/

def Call.text : Call → String
  | listNamespaces => "list_namespaces"
  | createNamespace name => s!"create_namespace {name}"
  | create ns m => s!"create {ns} {m.workload.text}"
  | listPods ns selector => s!"list_pods {ns} {selector}"
  | podLogs ns pod container => s!"pod_logs {ns} {pod} {container}"
  | workloadStatus ns w => s!"workload_status {ns} {w.text}"
  | serviceAddress ns service => s!"service_address {ns} {service}"
  | createPool r => s!"create_pool {r.name}"
  | poolStatus name => s!"pool_status {name}"
  | submit .. => "submit"
  | startTiming ns pod _ => s!"initialize {ns} {pod.name}"

def Container.detail (c : Container) : Json :=
  .object
    [("name", .text c.name), ("image", .text c.image), ("args", .list (c.args.map .text))]

def deploymentDetail (replicas : Int) (pods : PodTemplate) : Json :=
  .object
    [("replicas", .int replicas), ("containers", .list (pods.containers.map (·.detail))),
     ("node_selector", (pods.pool.map nodeSelectorJson).getD .null)]

/-- What a call carries that is worth showing. -/
def Call.detail? : Call → Option Json
  | create _ m => m.deployment?.map fun (replicas, pods) => deploymentDetail replicas pods
  | createPool r => some (.object
    [("nodes", .int r.nodes), ("machine_type", .text r.machineType),
     ("disk_size_gb", .int r.diskSize)])
  | submit queue task => some (.object [("queue", queue.toJson), ("payload", task.toJson)])
  | startTiming _ pod body => some (.object [("ip", .text pod.address), ("body", .text body)])
  | _ => none

/-! ### Lines -/

structure TraceLine where
  /-- The clock at the first of the calls. -/
  first : Duration
  /-- The clock at the last of the calls. -/
  last : Duration
  count : Nat
  call : String
  detail : Option Json

namespace TraceLine

def ofExchange (e : Exchange) : TraceLine := ⟨e.start, e.start, 1, e.call.text, e.call.detail?⟩

def isRepeatedBy (l later : TraceLine) : Bool :=
  l.call == later.call && l.detail.isNone && later.detail.isNone

/-- Puts a line before the later lines, sharing the first of them when it repeats the call. -/
def prepend (l : TraceLine) : List TraceLine → List TraceLine
  | [] => [l]
  | m :: rest =>
    if l.isRepeatedBy m then { l with last := m.last, count := l.count + m.count } :: rest
    else l :: m :: rest

def toJson (l : TraceLine) : Json :=
  let millis (d : Duration) : Json := .int (d.nanos / Duration.millisecond : Nat)
  .objectOf [("at", some (millis l.first)), ("last", some (millis l.last)),
    ("count", some (.int l.count)), ("call", some (.text l.call)), ("detail", l.detail)]

end TraceLine

def traceOf : List Event → List TraceLine
  | [] => []
  | .exchanged e :: rest => (TraceLine.ofExchange e).prepend (traceOf rest)
  | .probed e :: rest => (TraceLine.ofExchange e).prepend (traceOf rest)
  | _ :: rest => traceOf rest

/-- What happened after a session that led to this one. -/
def Session.since {σ : Type} (s before : Session σ) : List Event :=
  (s.journal.take (s.journal.length - before.journal.length)).reverse

/-- The trace of what happened after a session that led to this one. -/
def Session.traceSince {σ : Type} (s before : Session σ) : Json :=
  .list ((traceOf (s.since before)).map (·.toJson))

end ProvingGround
