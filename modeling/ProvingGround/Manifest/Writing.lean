import ProvingGround.Blueprint.Writing
import ProvingGround.Manifest.Basic

/-!
# Writing objects

The JSON form in which the cluster takes objects. Fields that a run does not set are left out, and
so are empty lists and empty amounts.
-/

namespace ProvingGround

/-! ### Parts -/

def Json.listOf {α : Type} (write : α → Json) (items : List α) : Option Json :=
  if items.isEmpty then none else some (.list (items.map write))

def textMap (m : Keyed String) : Json := m.toJson .text

/-- Amounts, absent when empty. -/
def amountsJson? (m : Keyed String) : Option Json := if m.isEmpty then none else some (textMap m)

/-- The data about an object that belongs to a workload. -/
def objectMetaJson (name ns app : String) : Json :=
  .object [("name", .text name), ("namespace", .text ns), ("labels", textMap (standardLabels app))]

def templateMetaJson (app : String) : Json := .object [("labels", textMap (standardLabels app))]

def labelSelectorJson (app : String) : Json :=
  .object [("matchLabels", textMap (selectorLabels app))]

def Port.toJson (p : Port) : Json :=
  .object [("name", .text p.name), ("containerPort", .int p.number)]

def Variable.toJson (v : Variable) : Json :=
  .object [("name", .text v.name), ("value", .text v.value)]

def Mount.toJson (m : Mount) : Json :=
  .object [("name", .text m.volume), ("mountPath", .text m.path), ("readOnly", .bool m.readOnly)]

def ProbeAction.member : ProbeAction → String × Json
  | connect port => ("tcpSocket", .object [("port", .int port)])
  | page path port => ("httpGet", .object [("path", .text path), ("port", .int port)])

def Probe.toJson (p : Probe) : Json :=
  .object [p.action.member, ("initialDelaySeconds", .int p.initialDelay),
    ("periodSeconds", .int p.period)]

def Resources.amountsJson (r : Resources) : Json :=
  .objectOf [("requests", amountsJson? r.requests), ("limits", amountsJson? r.limits)]

def Container.toJson (c : Container) : Json :=
  .objectOf
    [("name", some (.text c.name)), ("image", some (.text c.image)),
     ("args", Json.listOf .text c.args), ("ports", Json.listOf (·.toJson) c.ports),
     ("env", Json.listOf (·.toJson) c.environment),
     ("resources", c.resources.map (·.amountsJson)),
     ("volumeMounts", Json.listOf (·.toJson) c.mounts),
     ("readinessProbe", c.probe.map (·.toJson))]

def Volume.toJson (v : Volume) : Json :=
  let source := match v.source with
    | .hostPath path => ("hostPath", Json.object [("path", .text path)])
    | .configMap name => ("configMap", Json.object [("name", .text name)])
  .object [("name", .text v.name), source]

/-- The machines that pods are pinned to. -/
def nodeSelectorJson (pool : String) : Json := .object [(poolLabel, .text pool)]

def PodTemplate.toJson (t : PodTemplate) (app : String) : Json :=
  .object
    [("metadata", templateMetaJson app),
     ("spec", .objectOf
       [("containers", some (.list (t.containers.map (·.toJson)))),
        ("nodeSelector", t.pool.map nodeSelectorJson),
        ("tolerations",
          if t.toleratesAll then some (.list [.object [("operator", .text "Exists")]]) else none),
        ("volumes", Json.listOf (·.toJson) t.volumes)])]

/-! ### Objects -/

def serviceJson (app : String) (port : Nat) : Json :=
  .object
    [("type", .text "LoadBalancer"), ("selector", textMap (selectorLabels app)),
     ("ports", .list [.object
       [("name", .text "http"), ("port", .int port), ("targetPort", .int port)]])]

def replicatedJson (app : String) (replicas : Int) (pods : PodTemplate)
    (more : List (String × Json)) :
    Json :=
  .object ([("replicas", .int replicas), ("selector", labelSelectorJson app),
    ("template", pods.toJson app)] ++ more)

/-- The part of an object that depends on its kind. -/
def ObjectSpec.member (name : String) : ObjectSpec → String × Json
  | configMap data => ("data", textMap data)
  | service port => ("spec", serviceJson name port)
  | statefulSet replicas pods =>
    ("spec", replicatedJson name replicas pods [("serviceName", .text name)])
  | deployment replicas pods => ("spec", replicatedJson name replicas pods [])
  | daemonSet pods =>
    ("spec", .object [("selector", labelSelectorJson name), ("template", pods.toJson name)])

/-- The version of the interface that knows objects of a kind. -/
def WorkloadKind.apiVersion : WorkloadKind → String
  | configMap | service => "v1"
  | statefulSet | deployment | daemonSet => "apps/v1"

def Manifest.toJson (m : Manifest) : Json :=
  .object
    [("apiVersion", .text m.kind.apiVersion), ("kind", .text m.kind.name),
     ("metadata", objectMetaJson m.name m.ns m.name), m.spec.member m.name]

end ProvingGround
