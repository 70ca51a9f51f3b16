import ProvingGround.Hint
import ProvingGround.Json.Value
import ProvingGround.Settings

/-!
# Teardown tasks

At the end of a run one task asks for the deletion of its namespace and its pool. After a run that
did not succeed the task first asks for a dump of the log store, and carries what is needed for it.
-/

namespace ProvingGround

/-! ### Tasks -/

structure QueueAddress where
  project : String
  name : String
  zone : String
  deriving DecidableEq, Repr

/-- What is needed to dump a log store. -/
structure DumpRequest where
  indexDate : String
  storeAddress : String
  storeUser : String
  storePassword : String
  /-- The lasting store, which the dump goes into. -/
  mainAddress : String
  queue : String
  queueZone : String
  deriving DecidableEq, Repr

structure TeardownTask where
  ns : String
  deletesNamespace : Bool
  dumpsLogs : Bool
  project : String
  pool : String
  cluster : String
  zone : String
  dump : Option DumpRequest
  deriving DecidableEq, Repr

/-! ### Building -/

structure RunOutcome where
  success : Bool
  ns : String
  indexDate : String
  deriving DecidableEq, Repr

/-- The queue that takes the task. -/
def teardownQueue (cloud : CloudSettings) (queues : QueueSettings) : QueueAddress :=
  ⟨cloud.project, queues.teardown, queues.teardownZone⟩

/-- What is needed to dump the log store at an address, after a run that did not succeed. -/
def dumpRequest? (queues : QueueSettings) (store : StoreSettings) (address : String)
    (o : RunOutcome) : Option DumpRequest :=
  if o.success then none
  else some ⟨o.indexDate, address, store.user, store.password, store.mainAddress, queues.dump,
    queues.dumpZone⟩

/-- The task after a run. -/
def teardownTask (cloud : CloudSettings) (queues : QueueSettings) (store : StoreSettings)
    (address : String) (o : RunOutcome) : TeardownTask where
  ns := o.ns
  deletesNamespace := true
  dumpsLogs := !o.success
  project := cloud.project
  pool := poolName o.ns
  cluster := cloud.cluster
  zone := cloud.zone
  dump := dumpRequest? queues store address o

theorem dump_teardownTask_isSome (cloud : CloudSettings) (queues : QueueSettings)
    (store : StoreSettings) (address : String) (o : RunOutcome) :
    (teardownTask cloud queues store address o).dump.isSome =
      (teardownTask cloud queues store address o).dumpsLogs := by
  cases h : o.success <;> simp [teardownTask, dumpRequest?, h]

/-! ### Written form -/

def QueueAddress.toJson (q : QueueAddress) : Json :=
  .object [("project_id", .text q.project), ("queue_name", .text q.name),
    ("queue_zone", .text q.zone)]

def DumpRequest.members (d : DumpRequest) : List (String × Json) :=
  [("index_date", .text d.indexDate), ("es_ip", .text d.storeAddress),
   ("es_user", .text d.storeUser), ("es_pass", .text d.storePassword),
   ("main_es_ip", .text d.mainAddress), ("dump_queue_name", .text d.queue),
   ("dump_queue_zone", .text d.queueZone)]

/-- A task; the fields of the dump stand beside its own. -/
def TeardownTask.toJson (t : TeardownTask) : Json :=
  .object
    ([("namespace", Json.text t.ns), ("is_delns", .bool t.deletesNamespace),
      ("is_dump", .bool t.dumpsLogs), ("project_id", .text t.project), ("pool_name", .text t.pool),
      ("cluster_name", .text t.cluster), ("node_pool_zone", .text t.zone)] ++
      (t.dump.map (·.members)).getD [])

end ProvingGround
