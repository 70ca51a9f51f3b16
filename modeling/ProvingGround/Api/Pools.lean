import ProvingGround.Http.Exchange
import ProvingGround.Json.Record

/-!
# The pool API

Pools of machines are created and looked at over the web, below the address of their cluster. A pool
that the service does not know yet is no fault; a pool that failed, or is about to stop, is.
-/

namespace ProvingGround

open Http

structure PoolApi where
  /-- The address of the list of pools. -/
  base : String
  token : Option String
  deriving DecidableEq, Repr

namespace PoolApi

/-- The service as it is found on the web. -/
def usualEndpoint : String := "https://container.googleapis.com/v1"

def atEndpoint (endpoint : String) (c : CloudSettings) : PoolApi where
  base := s!"{trimSlashes endpoint}/projects/{c.project}/locations/{c.zone}" ++
    s!"/clusters/{c.cluster}/nodePools"
  token := c.token

/-! ### Creating -/

/-- What is asked for. -/
def createBody (r : PoolRequest) : Json :=
  .object [("nodePool", .object
    [("name", .text r.name), ("initialNodeCount", .int r.nodes),
     ("config", .object
       [("machineType", .text r.machineType), ("diskSizeGb", .int r.diskSize)])])]

def create (a : PoolApi) (r : PoolRequest) : Errand Unit where
  request := webRequest .post a.base a.token (some (createBody r))
  lost := .http (.unreachable a.base)
  read response := do
    let _ ← checkGranted "node pool create" a.base response
    pure ()

/-! ### Looking -/

/-- The status of a pool and what is said about it. -/
structure Resource where
  status : String
  message : String
  deriving DecidableEq, Repr

/-- A pool as its body tells of it. A text that is left out is empty. -/
def Resource.read? (body : String) : Option Resource := do
  let fields ← Json.readRecord? ["status", "statusMessage"] body
  some ⟨(fields.lookup "status").getD "", (fields.lookup "statusMessage").getD ""⟩

/-- The statuses of a pool that is of no use. -/
def failedStatuses : List String := ["ERROR", "RUNNING_WITH_ERROR", "STOPPING"]

def Resource.poolStatus (r : Resource) : PoolStatus :=
  if r.status = "RUNNING" then .running
  else if failedStatuses.contains r.status then
    .failed (if r.message.isEmpty then r.status else r.message)
  else .provisioning

def poolUrl (a : PoolApi) (name : String) : String := s!"{a.base}/{name}"

/-- What an answer says about a pool. -/
def readStatus (url : String) (r : Response) : Except Fault (Option PoolStatus) :=
  if r.status = 404 then .ok none
  else
    match checkGranted "node pool get" url r with
    | .error f => .error f
    | .ok r =>
      match Resource.read? r.body with
      | some resource => .ok (some resource.poolStatus)
      | none => .error (.http (.undecodable "no node pool"))

def status (a : PoolApi) (name : String) : Errand (Option PoolStatus) where
  request := webRequest .get (a.poolUrl name) a.token none
  lost := .http (.unreachable (a.poolUrl name))
  read := readStatus (a.poolUrl name)

end PoolApi

end ProvingGround
