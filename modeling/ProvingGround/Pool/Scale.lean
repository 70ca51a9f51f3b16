import ProvingGround.Session.Poll
import ProvingGround.Word

/-!
# Scaling the node pool

The pool of a run is created as planned. It is handed over when it runs and when the collector has
as many ready pods as the pool has machines, and none that is not ready.
-/

namespace ProvingGround

variable {σ : Type} [Services σ]

/-- The greatest number of ready pods that is waited for. -/
def coverageCap : Nat := Word.count 31 - 1

/-- Whether the pool runs; a failed pool is a fault. -/
def checkPool (name : String) : Task σ (Option Unit) := do
  match ← Task.call (.poolStatus name) with
  | some .running => pure (some ())
  | some (.failed message) => throw (.cloud s!"node pool {name} failed: {message}")
  | some .provisioning => pure none
  | none => pure none

/-- The counts of the collector tell that it covers so many machines. -/
def ReplicaCounts.covers (c : ReplicaCounts) (nodes : Nat) : Bool :=
  (min nodes coverageCap : Nat) ≤ c.ready && c.ready == c.desired

def checkCollector (ns : String) (nodes : Nat) : Task σ (Option Unit) := do
  match ← Task.call (.workloadStatus ns collectorWorkload) with
  | some counts => pure (if counts.covers nodes then some () else none)
  | none => pure none

def awaitPool (name : String) (w : WaitSettings) : Task σ Unit :=
  poll s!"node pool {name}" ⟨w.nodePool, w.pollInterval⟩ (checkPool name)

def awaitCollector (ns : String) (nodes : Nat) (w : WaitSettings) : Task σ Unit :=
  poll s!"{collectorWorkload.text} on new nodes" ⟨w.collector, w.pollInterval⟩
    (checkCollector ns nodes)

/-- Creates the pool for a network in a namespace and waits until it can be used. -/
def scalePool (ns : String) (b : Blueprint) (w : WaitSettings) : Task σ ScaledPool := do
  let request ← Task.ofConfig (b.planPool ns)
  Task.call (.createPool request)
  let started ← Task.clock
  awaitPool request.name w
  let elapsed := (← Task.clock).remaining started
  awaitCollector ns request.nodes w
  pure ⟨request.name, request.nodes, elapsed⟩

end ProvingGround
