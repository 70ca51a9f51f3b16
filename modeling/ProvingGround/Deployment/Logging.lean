import ProvingGround.Session.Poll

/-!
# Deploying the logging stack

All objects of the stack are created without waiting; then one poll waits until its workloads serve
in one and the same pass.
-/

namespace ProvingGround

variable {σ : Type} [Services σ]

def isServing (ns : String) (w : Workload) : Task σ Bool := do
  match ← Task.call (.workloadStatus ns w) with
  | some counts => pure counts.isServing
  | none => pure false

/-- One pass over workloads, up to the first that does not serve. -/
def checkServing (ns : String) : List Workload → Task σ (Option Unit)
  | [] => pure (some ())
  | w :: rest => do
    if ← isServing ns w then checkServing ns rest else pure none

def createAll (ns : String) : List Manifest → Task σ Unit
  | [] => pure ()
  | m :: rest => do
    Task.call (.create ns m)
    createAll ns rest

def deployLogging (ns : String) (store : StoreSettings) (limits : PollLimits) : Task σ Unit := do
  createAll ns (loggingStack ns store)
  poll "logging stack" limits (checkServing ns loggingWorkloads)

end ProvingGround
