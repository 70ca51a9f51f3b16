import ProvingGround.Blueprint.Basic
import ProvingGround.Manifest.Label

/-!
# Objects of a cluster

The objects that a run creates in its namespace, with the fields that it sets, and what it sees of
the cluster afterwards: pods, and how many replicas of a workload are ready.
-/

namespace ProvingGround

/-! ### Workloads and pods -/

/-- The kinds of objects that a run creates or looks at. -/
inductive WorkloadKind where
  | configMap
  | service
  | statefulSet
  | deployment
  | daemonSet
  deriving DecidableEq, Repr

namespace WorkloadKind

def name : WorkloadKind → String
  | configMap => "ConfigMap"
  | service => "Service"
  | statefulSet => "StatefulSet"
  | deployment => "Deployment"
  | daemonSet => "DaemonSet"

def all : List WorkloadKind := [configMap, service, statefulSet, deployment, daemonSet]

def ofName? (s : String) : Option WorkloadKind := all.find? (·.name == s)

end WorkloadKind

/-- An object by kind and name. -/
structure Workload where
  kind : WorkloadKind
  name : String
  deriving DecidableEq, Repr

/-- The object in words. -/
def Workload.text (w : Workload) : String := w.kind.name ++ "/" ++ w.name

/-- How many replicas are wanted and how many are ready. -/
structure ReplicaCounts where
  desired : Int
  ready : Int
  deriving DecidableEq, Repr

/-- At least one replica is wanted, and all are ready. -/
def ReplicaCounts.isServing (c : ReplicaCounts) : Bool := 0 < c.desired && c.desired ≤ c.ready

structure Pod where
  name : String
  address : String
  ready : Bool
  deriving DecidableEq, Repr

def Pod.isReachable (p : Pod) : Bool := p.ready && !p.address.isEmpty

/-! ### Pods to be -/

structure Port where
  name : String
  number : Nat
  deriving DecidableEq, Repr

structure Variable where
  name : String
  value : String
  deriving DecidableEq, Repr

structure Mount where
  volume : String
  path : String
  readOnly : Bool
  deriving DecidableEq, Repr

/-- How a container is asked whether it is ready. -/
inductive ProbeAction where
  | connect (port : Nat)
  | page (path : String) (port : Nat)
  deriving DecidableEq, Repr

/-- When and how a container is asked whether it is ready. -/
structure Probe where
  action : ProbeAction
  initialDelay : Nat
  period : Nat
  deriving DecidableEq, Repr

structure Container where
  name : String
  image : String
  args : List String := []
  ports : List Port := []
  environment : List Variable := []
  resources : Option Resources := none
  mounts : List Mount := []
  probe : Option Probe := none
  deriving DecidableEq, Repr

/-- Where the content of a volume comes from. -/
inductive VolumeSource where
  /-- A directory of the machine. -/
  | hostPath (path : String)
  | configMap (name : String)
  deriving DecidableEq, Repr

structure Volume where
  name : String
  source : VolumeSource
  deriving DecidableEq, Repr

structure PodTemplate where
  containers : List Container
  /-- The pool whose machines the pods are pinned to. -/
  pool : Option String := none
  /-- The pods run on every machine, whatever it repels. -/
  toleratesAll : Bool := false
  volumes : List Volume := []
  deriving DecidableEq, Repr

/-! ### Objects -/

inductive ObjectSpec where
  /-- Named texts. -/
  | configMap (data : Keyed String)
  /-- A port of the workload, reachable from outside. -/
  | service (port : Nat)
  | statefulSet (replicas : Int) (pods : PodTemplate)
  | deployment (replicas : Int) (pods : PodTemplate)
  | daemonSet (pods : PodTemplate)
  deriving DecidableEq, Repr

def ObjectSpec.kind : ObjectSpec → WorkloadKind
  | configMap _ => .configMap
  | service _ => .service
  | statefulSet .. => .statefulSet
  | deployment .. => .deployment
  | daemonSet _ => .daemonSet

/-- An object to be created. Its labels carry its name. -/
structure Manifest where
  name : String
  ns : String
  spec : ObjectSpec
  deriving DecidableEq, Repr

namespace Manifest

def kind (m : Manifest) : WorkloadKind := m.spec.kind

def workload (m : Manifest) : Workload := ⟨m.kind, m.name⟩

def deployment? (m : Manifest) : Option (Int × PodTemplate) :=
  match m.spec with
  | .deployment replicas pods => some (replicas, pods)
  | _ => none

end Manifest

end ProvingGround
