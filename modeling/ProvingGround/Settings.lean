import ProvingGround.Fault.Config
import ProvingGround.Machine
import ProvingGround.Namespace.Name
import ProvingGround.Text.Blank
import ProvingGround.Text.Digit
import ProvingGround.Word

/-!
# Settings

What a run takes from the variables of its environment: the operator, credentials, the project and
its queues, the log store, and the limits of the waits. A variable with a blank value counts as
unset. The first variable that is missing or wrong stops the reading.
-/

namespace ProvingGround

open Text

/-! ### Parts -/

/-- Where access to the cluster comes from. -/
structure Credentials where
  /-- A file; without it the surrounding cluster is asked. -/
  kubeconfig : String
  /-- The context to use in place of the current one. -/
  context : Option String
  deriving DecidableEq, Repr, Inhabited

/-- The project that the cluster and its pools belong to. -/
structure CloudSettings where
  project : String
  cluster : String
  zone : String
  token : Option String
  deriving DecidableEq, Repr, Inhabited

/-- The queues that take the tasks at the end of a run. -/
structure QueueSettings where
  teardown : String
  teardownZone : String
  dump : String
  dumpZone : String
  deriving DecidableEq, Repr, Inhabited

/-- Access to the log store of a namespace, and the address of the lasting one. -/
structure StoreSettings where
  user : String
  password : String
  mainAddress : String
  deriving DecidableEq, Repr, Inhabited

structure WaitSettings where
  pollInterval : Duration
  loggingStack : Duration
  nodePool : Duration
  collector : Duration
  deriving DecidableEq, Repr, Inhabited

structure Settings where
  operator : String
  /-- The image that replaces those of the network, if not empty. -/
  imageOverride : String
  /-- A failure of setup is raised and nothing is torn down. -/
  debug : Bool
  credentials : Credentials
  cloud : CloudSettings
  queues : QueueSettings
  store : StoreSettings
  waits : WaitSettings
  deriving DecidableEq, Repr, Inhabited

namespace Settings

/-! ### Variables -/

/-- The value of a variable, if it is not blank. -/
def value? (vars : Variables) (name : String) : Option String :=
  (vars name).filter fun v => !isAllBlank v

def required (vars : Variables) (name : String) : Except ConfigCause String :=
  match value? vars name with
  | some v => .ok v
  | none => .error (.unsetVariable name)

/-- A number of seconds, if the variable is set. -/
def seconds (vars : Variables) (name : String) (usual : Nat) : Except ConfigCause Duration :=
  match value? vars name with
  | none => .ok (.ofSeconds usual)
  | some v =>
    match readNatural (Word.count 64) (trim v) with
    | some n => .ok (.ofSeconds n)
    | none => .error (.notSeconds name v)

/-- Words that switch something on. -/
def isTruthy (v : String) : Bool :=
  ["1", "true", "yes", "on"].any fun w => w.toList == lowerCaseList (trimList v.toList)

/-- The region of a zone: what precedes a last part of one byte. -/
def regionOf (zone : String) : String :=
  match zone.toList.reverse with
  | c :: '-' :: rest => if c.toNat < 0x80 ∧ c ≠ '-' then String.ofList rest.reverse else zone
  | _ => zone

def joinPath (directory file : String) : String :=
  if directory.endsWith "/" then directory ++ file else directory ++ "/" ++ file

/-- The file of credentials: the one named, or the usual one at home. -/
def kubeconfigPath (vars : Variables) : String :=
  match value? vars "KUBECONFIG", value? vars "HOME" with
  | some path, _ => path
  | none, some home => joinPath home ".kube/config"
  | none, none => "~/.kube/config"

/-- Whether the user is unknown, so that the usual operator stands in. -/
def lacksUser (vars : Variables) : Bool := (value? vars "USER").isNone

def readOperator (vars : Variables) : String :=
  ((value? vars "USER").map operatorOf).getD usualOperator

/-! ### Reading -/

def names : List String :=
  ["USER", "CLIENT_DOCKER_IMAGE", "HARNESS_DEBUG", "KUBECONFIG", "HOME", "KUBE_CONTEXT",
   "PROJECT_ID", "CLUSTER_NAME", "CLUSTER_ZONE", "GCP_ACCESS_TOKEN", "TD_QUEUE_NAME",
   "TD_QUEUE_ZONE", "DUMP_QUEUE_NAME", "DUMP_QUEUE_ZONE", "ES_USER_LOCAL", "ES_PASS_LOCAL",
   "MAIN_ES_IP", "HARNESS_POLL_INTERVAL_SECS", "LOGGING_STACK_TIMEOUT_SECS",
   "NODE_POOL_TIMEOUT_SECS", "DAEMON_TIMEOUT_SECS"]

def readWaits (vars : Variables) : Except ConfigCause WaitSettings := do
  let pollInterval ← seconds vars "HARNESS_POLL_INTERVAL_SECS" 5
  let loggingStack ← seconds vars "LOGGING_STACK_TIMEOUT_SECS" 600
  let nodePool ← seconds vars "NODE_POOL_TIMEOUT_SECS" 900
  let collector ← seconds vars "DAEMON_TIMEOUT_SECS" 60
  pure ⟨pollInterval, loggingStack, nodePool, collector⟩

/-- The queues, in the region of the zone where nothing else is said. -/
def readQueues (vars : Variables) (zone : String) : QueueSettings where
  teardown := (value? vars "TD_QUEUE_NAME").getD "teardown"
  teardownZone := (value? vars "TD_QUEUE_ZONE").getD (regionOf zone)
  dump := (value? vars "DUMP_QUEUE_NAME").getD "dump"
  dumpZone := (value? vars "DUMP_QUEUE_ZONE").getD (regionOf zone)

def read (vars : Variables) : Except ConfigCause Settings := do
  let zone ← required vars "CLUSTER_ZONE"
  let waits ← readWaits vars
  let project ← required vars "PROJECT_ID"
  let cluster ← required vars "CLUSTER_NAME"
  let password ← required vars "ES_PASS_LOCAL"
  let mainAddress ← required vars "MAIN_ES_IP"
  pure
    { operator := readOperator vars
      imageOverride := (value? vars "CLIENT_DOCKER_IMAGE").getD ""
      debug := ((value? vars "HARNESS_DEBUG").map isTruthy).getD false
      credentials := ⟨kubeconfigPath vars, value? vars "KUBE_CONTEXT"⟩
      cloud := ⟨project, cluster, zone, value? vars "GCP_ACCESS_TOKEN"⟩
      queues := readQueues vars zone
      store := ⟨(value? vars "ES_USER_LOCAL").getD "elastic", password, mainAddress⟩
      waits }

theorem value?_of_isAllBlank {vars : Variables} {name v : String} (h : vars name = some v)
    (hb : isAllBlank v = true) : value? vars name = none := by
  simp [value?, h, hb]

end Settings

end ProvingGround
