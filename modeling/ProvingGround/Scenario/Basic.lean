import ProvingGround.Session.Countdown
import ProvingGround.Text.Quoted

/-!
# Scenarios

A scenario looks at a network that runs: it waits, makes calls, and passes or fails. Scenarios of a
suite run one after the other on the same network; scenarios and whole suites can be marked as
skipped.
-/

namespace ProvingGround

open Text

/-! ### Bodies -/

inductive ScenarioFault where
  /-- Something about the network is not as it should be. -/
  | check (message : String)
  | fault (fault : Fault)
  deriving DecidableEq, Repr

def ScenarioFault.message : ScenarioFault → String
  | check message => s!"check failed: {message}"
  | fault f => f.message

/-- What a scenario does, step by step. -/
inductive Activity where
  /-- Passes or fails. -/
  | finish (result : Except ScenarioFault Unit)
  /-- Waits, and tells the time that is left after each step. -/
  | wait (total step : Duration) (rest : Activity)
  /-- Makes a call of its own and goes on with the answer. -/
  | ask (c : Call) (rest : Except Fault c.Answer → Activity)

namespace Activity

variable {σ : Type} [Services σ]

def pass : Activity := finish (.ok ())

def fail (f : ScenarioFault) : Activity := finish (.error f)

def listPods (ns group : String) (rest : Except Fault (List Pod) → Activity) : Activity :=
  ask (.listPods ns (podSelector group)) rest

def run : Activity → Act σ (Except ScenarioFault Unit)
  | finish result => pure result
  | wait total step rest => do
    let _ ← countdown total step
    rest.run
  | ask c rest => do
    let answer ← (Task.probe c).attempt
    (rest answer).run

end Activity

/-! ### Scenarios and suites -/

structure Scenario where
  name : String
  skip : Bool := false
  body : Environment → Activity

inductive ScenarioOutcome where
  | passed
  | failed (message : String)
  | skipped
  deriving DecidableEq, Repr

def ScenarioOutcome.isFailure : ScenarioOutcome → Bool
  | failed _ => true
  | _ => false

structure ScenarioResult where
  name : String
  outcome : ScenarioOutcome
  elapsed : Duration
  deriving DecidableEq, Repr

/-- Runs a scenario unless it is skipped. -/
def Scenario.execute {σ : Type} [Services σ] (s : Scenario) (env : Environment) :
    Act σ ScenarioResult := do
  if s.skip then pure ⟨s.name, .skipped, .zero⟩
  else
    let started ← Act.clock
    Act.note (.began s.name env started)
    let outcome := match ← (s.body env).run with
      | .ok () => ScenarioOutcome.passed
      | .error f => .failed f.message
    let elapsed := (← Act.clock).remaining started
    pure ⟨s.name, outcome, elapsed⟩

def executeAll {σ : Type} [Services σ] (env : Environment) :
    List Scenario → Act σ (List ScenarioResult)
  | [] => pure []
  | s :: rest => do
    let result ← s.execute env
    let later ← executeAll env rest
    pure (result :: later)

structure Suite where
  name : String
  skip : Bool := false
  scenarios : List Scenario

namespace Suite

/-- No scenario would run. -/
def isSkipped (s : Suite) : Bool := s.skip || s.scenarios.all (·.skip)

def scenarioText (s : Scenario) : String :=
  s!"Scenario \x7b name: {quoted s.name}, skip: {s.skip}, .. \x7d"

def text (s : Suite) : String :=
  let scenarios := ", ".intercalate (s.scenarios.map scenarioText)
  s!"ScenarioSuite \x7b name: {quoted s.name}, skip: {s.skip}, scenarios: [{scenarios}] \x7d"

theorem isSkipped_of_nil (name : String) (skip : Bool) : isSkipped ⟨name, skip, []⟩ = true := by
  simp [isSkipped]

end Suite

end ProvingGround
