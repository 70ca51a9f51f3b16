import ProvingGround.Lifecycle.Setup
import ProvingGround.Scenario.Basic

/-!
# Runs

A run of a suite sets the network up, runs the scenarios, and hands over the teardown task. A suite
in which no scenario would run touches nothing. Only a failure of setup in debug mode, or a run that
has started already, is raised; everything else is in the report.
-/

namespace ProvingGround

variable {σ : Type} [Services σ]

/-! ### Scenarios and teardown -/

def beginScenarios : Operation σ (Except Fault Unit) := Operation.fire .scenariosStarted

/-- Hands over the teardown task of a run that stands before it. -/
def handOver (success : Bool) : Operation σ (Except Fault (Option TeardownTask)) := do
  let l ← get
  set { l with reported := true }
  let s := l.settings
  let address ← Operation.act (storeAddress l.ownName)
  let submitted ← Operation.act
    (reportOutcome s.cloud s.queues s.store address ⟨success, l.ownName, l.indexDate⟩).attempt
  match ← Operation.fire .reported with
  | .error f => pure (.error f)
  | .ok () => pure (submitted.map some)

/-- Follows triggers up to the first refusal, and goes on. -/
def afterTriggers {α : Type} (next : Operation σ (Except Fault α)) :
    List Trigger → Operation σ (Except Fault α)
  | [] => next
  | t :: rest => do
    match ← Operation.fire t with
    | .ok () => afterTriggers next rest
    | .error f => pure (.error f)

/-- The triggers that lead from a phase to reporting; nothing is reported from other phases. -/
def reportingTriggers : Phase → Option (List Trigger)
  | .genesisSynced => some [.scenariosStarted, .scenariosFinished]
  | .running => some [.scenariosFinished]
  | .reporting => some []
  | _ => none

/-- Hands over the teardown task, at most once in a run. -/
def teardown (success : Bool) : Operation σ (Except Fault (Option TeardownTask)) := do
  let l ← get
  if l.reported then pure (.ok none)
  else
    match reportingTriggers l.phase with
    | none => pure (.ok none)
    | some triggers => afterTriggers (handOver success) triggers

/-! ### Reports -/

/-- Everything that happened in a run. -/
structure Report where
  suite : String
  ns : Option String
  skipped : Bool
  setupFailure : Option PhaseFailure
  scenarios : List ScenarioResult
  teardown : Option TeardownTask
  deriving DecidableEq, Repr

namespace Report

def ofSkipped (suite : String) : Report := ⟨suite, none, true, none, [], none⟩

/-- Setup did not fail, and no scenario did. -/
def success (r : Report) : Bool :=
  r.setupFailure.isNone && r.scenarios.all fun s => !s.outcome.isFailure

end Report

/-! ### Runs -/

def runScenarios (suite : Suite) (env : Environment) : Step σ Report := do
  match ← Step.lift beginScenarios with
  | .error f => Step.fail (← Step.record).phase f
  | .ok () =>
    let results ← Step.lift (Operation.act (executeAll env suite.scenarios))
    pure ⟨suite.name, some env.ns, false, none, results, none⟩

/-- Tears the run down and completes the report; a task that is refused is missing in it. -/
def concludeRun (r : Report) : Step σ Report := do
  match ← Step.lift (teardown r.success) with
  | .ok task => pure { r with teardown := task }
  | .error _ => pure { r with teardown := none }

/-- Sets up, runs every scenario of a suite, and tears down. -/
def runSuite (suite : Suite) : Step σ Report := do
  if suite.isSkipped then
    let _ ← setup true
    pure (.ofSkipped suite.name)
  else
    match ← setup false with
    | .ready env => concludeRun (← runScenarios suite env)
    | .failed failure =>
      concludeRun ⟨suite.name, (← Step.record).ns, false, some failure, [], none⟩
    | .skipped => pure (.ofSkipped suite.name)

end ProvingGround
