import ProvingGround.Blueprint.Basic
import ProvingGround.Json.Value

/-!
# Writing a blueprint

The JSON form of a blueprint: fields in their order, optional fields left out when absent, the
second client group with its flag in front of its other fields, and arguments as they are.
-/

namespace ProvingGround

def ArgValue.toJson : ArgValue → Json
  | bool b => .bool b
  | int n => .int n
  | float x => if x.isFinite then .real x else .null
  | text s => .text s

/-- A map as an object. -/
def Keyed.toJson {α : Type} (value : α → Json) (m : Keyed α) : Json :=
  .object (m.toList.map fun (k, v) => (k, value v))

def Resources.toJson (r : Resources) : Json :=
  .object [("requests", r.requests.toJson .text), ("limits", r.limits.toJson .text)]

def NodeSpec.members (s : NodeSpec) : List (String × Json) :=
  [("image", .text s.image), ("replicas", .int s.replicas), ("resources", s.resources.toJson),
   ("args", s.args.toJson ArgValue.toJson)] ++
    (s.timingImage.map fun i => ("poet_image", Json.text i)).toList

def NodeSpec.toJson (s : NodeSpec) : Json := .object s.members

def SecondClients.toJson (c : SecondClients) : Json :=
  .object (("noreplace", .bool c.keepsImage) :: c.node.members)

def PoolSpec.toJson (p : PoolSpec) : Json :=
  .object [("machine_type", .text p.machineType), ("node_memory", .text p.nodeMemory),
    ("disk_size_gb", .int p.diskSize)]

def Blueprint.toJson (b : Blueprint) : Json :=
  .objectOf [("namespace", some (.text b.ns)), ("bootstrap", some b.bootstrap.toJson),
    ("client", some b.client.toJson), ("clientv2", b.clientv2.map (·.toJson)),
    ("genesis_delta", some (.int b.genesisDelta)),
    ("deployment_ready_time_out", some (.int b.readyTimeout)),
    ("node_pool", some b.pool.toJson)]

end ProvingGround
