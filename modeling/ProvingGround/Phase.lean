/-!
# Phases of a run

A run goes through setup phase by phase, then runs its scenarios and reports. A failure during setup
leads straight to reporting; a run without work is skipped before anything is touched. The edges are
given once, as a table of transitions, and everything else is read off the table.
-/

namespace ProvingGround

/-! ### Phases and triggers -/

/-- Where a run stands. -/
inductive Phase where
  | notStarted
  | provisioning
  | loggingReady
  | poolScaled
  | bootstrapReady
  | clientsReady
  | genesisSynced
  | running
  | reporting
  | done
  | skipped
  deriving DecidableEq, Repr, Inhabited

/-- What moves a run from one phase to the next. -/
inductive Trigger where
  /-- Nothing is to be run. -/
  | skipRequested
  | setupStarted
  | loggingStackReady
  /-- The pool runs and the log collector covers it. -/
  | poolReady
  | bootstrapDeployed
  | clientsDeployed
  /-- The genesis instant has come. -/
  | genesisReached
  | scenariosStarted
  /-- Scenarios are over, whatever their results. -/
  | scenariosFinished
  | setupFailed
  /-- The teardown task has been handed over. -/
  | reported
  deriving DecidableEq, Repr

namespace Phase

def name : Phase → String
  | notStarted => "NotStarted"
  | provisioning => "Provisioning"
  | loggingReady => "LoggingReady"
  | poolScaled => "PoolScaled"
  | bootstrapReady => "BootstrapReady"
  | clientsReady => "ClientsReady"
  | genesisSynced => "GenesisSynced"
  | running => "Running"
  | reporting => "Reporting"
  | done => "Done"
  | skipped => "Skipped"

def all : List Phase :=
  [notStarted, provisioning, loggingReady, poolScaled, bootstrapReady, clientsReady, genesisSynced,
   running, reporting, done, skipped]

theorem mem_all (p : Phase) : p ∈ all := by cases p <;> decide

def ofName? (s : String) : Option Phase := all.find? (·.name == s)

/-- The phases of setup: a failure in one of them is reported. -/
def isSetup (p : Phase) : Bool :=
  p matches provisioning | loggingReady | poolScaled | bootstrapReady | clientsReady | genesisSynced

/-- No trigger leads out of the phase. -/
def isTerminal (p : Phase) : Bool := p matches done | skipped

end Phase

namespace Trigger

def name : Trigger → String
  | skipRequested => "SkipRequested"
  | setupStarted => "SetupStarted"
  | loggingStackReady => "LoggingStackReady"
  | poolReady => "PoolReady"
  | bootstrapDeployed => "BootstrapDeployed"
  | clientsDeployed => "ClientsDeployed"
  | genesisReached => "GenesisReached"
  | scenariosStarted => "ScenariosStarted"
  | scenariosFinished => "ScenariosFinished"
  | setupFailed => "SetupFailed"
  | reported => "Reported"

def all : List Trigger :=
  [skipRequested, setupStarted, loggingStackReady, poolReady, bootstrapDeployed, clientsDeployed,
   genesisReached, scenariosStarted, scenariosFinished, setupFailed, reported]

theorem mem_all (t : Trigger) : t ∈ all := by cases t <;> decide

def ofName? (s : String) : Option Trigger := all.find? (·.name == s)

end Trigger

/-! ### Transitions -/

/-- One edge between phases. -/
structure Transition where
  source : Phase
  target : Phase
  trigger : Trigger
  description : String
  deriving DecidableEq, Repr

namespace Transition

/-- The edges of a run without failures, and the skipped run. -/
def regular : List Transition :=
  [⟨.notStarted, .skipped, .skipRequested, "Run skipped"⟩,
   ⟨.notStarted, .provisioning, .setupStarted, "Provisioning namespace"⟩,
   ⟨.provisioning, .loggingReady, .loggingStackReady, "Logging stack is serving"⟩,
   ⟨.loggingReady, .poolScaled, .poolReady, "Node pool is schedulable"⟩,
   ⟨.poolScaled, .bootstrapReady, .bootstrapDeployed,
    "Bootstrap node ready and timing service started"⟩,
   ⟨.bootstrapReady, .clientsReady, .clientsDeployed, "Client nodes ready"⟩,
   ⟨.clientsReady, .genesisSynced, .genesisReached, "Genesis instant reached"⟩,
   ⟨.genesisSynced, .running, .scenariosStarted, "Scenarios running"⟩,
   ⟨.running, .reporting, .scenariosFinished, "Scenarios finished, reporting result"⟩,
   ⟨.reporting, .done, .reported, "Teardown task submitted"⟩]

/-- Every phase of setup may fail into reporting. -/
def failures : List Transition :=
  (Phase.all.filter Phase.isSetup).map fun p =>
    ⟨p, .reporting, .setupFailed, "Setup failed, reporting failure"⟩

def table : List Transition := regular ++ failures

def find? (p : Phase) (t : Trigger) : Option Transition :=
  table.find? fun e => e.source = p && e.trigger = t

def allowed (p : Phase) (t : Trigger) : Bool := (find? p t).isSome

theorem find?_eq_some {p : Phase} {t : Trigger} {e : Transition} (h : find? p t = some e) :
    e ∈ table ∧ e.source = p ∧ e.trigger = t := by
  have hm := List.mem_of_find?_eq_some h
  have hp := List.find?_some h
  simp only [Bool.and_eq_true, decide_eq_true_eq] at hp
  exact ⟨hm, hp.1, hp.2⟩

theorem find?_of_isTerminal {p : Phase} (h : p.isTerminal = true) (t : Trigger) :
    find? p t = none := by
  revert h
  cases p <;> cases t <;> decide

end Transition

end ProvingGround
