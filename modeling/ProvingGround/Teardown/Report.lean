import ProvingGround.Session.Basic

/-!
# Handing over the teardown task

The task after a run is handed over once; nothing is tried again.
-/

namespace ProvingGround

variable {σ : Type} [Services σ]

/-- The address of the log store of a namespace, its name inside the cluster if it has none. -/
def storeAddress (ns : String) : Act σ String := do
  match ← (Task.call (.serviceAddress ns indexerName)).attempt with
  | .ok (some address) => pure address
  | _ => pure (indexerHost ns)

/-- Hands over the task after a run. -/
def reportOutcome (cloud : CloudSettings) (queues : QueueSettings) (store : StoreSettings)
    (address : String) (o : RunOutcome) : Task σ TeardownTask := do
  let task := teardownTask cloud queues store address o
  Task.call (.submit (teardownQueue cloud queues) task)
  pure task

end ProvingGround
