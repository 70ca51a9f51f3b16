import ProvingGround.Access.Connect
import ProvingGround.Blueprint.Reading
import ProvingGround.CommandLine
import ProvingGround.Fault.Record
import ProvingGround.Lifecycle.Run
import ProvingGround.Scenario.Liveness

/-!
# The program

A run of the program reads its line, the description of the network and the settings, connects, and
runs the suite of the built-in scenario. On the way it says in a log what it has reached; it ends
with a code for its caller.
-/

namespace ProvingGround

/-! ### The log -/

/-- How grave a line of the log is. -/
inductive Level where
  | info
  | warning
  | fault
  deriving DecidableEq, Repr

def Level.name : Level → String
  | info => "INFO"
  | warning => "WARN"
  | fault => "ERROR"

/-- A line of the log. -/
structure LogLine where
  level : Level
  message : String
  deriving DecidableEq, Repr

def LogLine.toJson (l : LogLine) : Json :=
  .object [("level", .text l.level.name), ("message", .text l.message)]

/-! ### Endings -/

inductive Ending where
  /-- The line asked for a text. -/
  | told (text : String)
  | misused (m : Misuse)
  | finished (success : Bool)
  /-- The run could not go on, for a reason given as a record. -/
  | failed (record : String)
  /-- The run would never end. -/
  | halted (h : Halt)
  deriving DecidableEq, Repr

namespace Ending

def exitCode : Ending → Nat
  | told _ => 0
  | misused _ => 2
  | finished success => if success then 0 else 1
  | failed _ => 1
  | halted _ => 1

def output : Ending → Option String
  | told text => some text
  | _ => none

/-- What goes to the channel of faults. -/
def complaint : Ending → Option String
  | misused m => some s!"error: {m.text}"
  | failed record => some s!"Error: {record}"
  | _ => none

def ofFault (f : Fault) : Ending := failed f.record

end Ending

def aboutText : String :=
  "Provisions ephemeral Kubernetes test networks, runs scenarios against them, " ++
    "and schedules cleanup"

def versionText : String := "testnet-harness 0.1.0"

def LineEnd.ending : LineEnd → Ending
  | help => .told aboutText
  | version => .told versionText
  | misuse m => .misused m

/-! ### Parts of a run -/

/-- A part of a run: it may end the run, and it adds to the log, the latest line first. -/
abbrev Program := ExceptT Ending (StateM (List LogLine))

namespace Program

variable {α : Type}

def say (level : Level) (message : String) : Program Unit :=
  modify fun log => ⟨level, message⟩ :: log

/-- Ends the run where there is no result. -/
def orEnd {ε : Type} (ending : ε → Ending) (r : Except ε α) : Program α :=
  match r with
  | .ok a => pure a
  | .error e => throw (ending e)

/-- Ends the run where the configuration is wrong. -/
def orCause (r : Except ConfigCause α) : Program α := orEnd (fun c => .ofFault (.config c)) r

def loadBlueprint (m : Machine) (path : String) : Program Blueprint := do
  let b ← orCause (Blueprint.ofFile path (m.files path))
  say .info "Loaded network config"
  pure b

def loadSettings (m : Machine) (i : Invocation) : Program Settings := do
  if Settings.lacksUser m.vars then
    say .warning "USER not set, using 'harness' as namespace prefix"
  let s ← orCause (Settings.read m.vars)
  pure { s with debug := s.debug || i.debug }

/-- Says where access to the cluster comes from. -/
def sourceLine : AccessSource → String
  | .kubeconfig => "Loading kubeconfig"
  | .surroundingCluster => "Kubeconfig not found, loading in-cluster config"

def reach {τ : Type} [Http.Transport τ] (net : Net τ) (m : Machine) (s : Settings) :
    Program (Remote τ) := do
  say .info (sourceLine (accessSource m s.credentials))
  let remote ← orEnd .ofFault (connect net m s)
  say .info "Connected to Kubernetes cluster"
  say .info "Harness connected"
  pure remote

/-! ### The suite -/

def networkSuite (epochs : Nat) : Suite := ⟨"network", false, [networkLiveness epochs]⟩

def outcomeLine : ScenarioOutcome → LogLine
  | .passed => ⟨.info, "PASS"⟩
  | .skipped => ⟨.info, "SKIP"⟩
  | .failed _ => ⟨.fault, "FAIL"⟩

/-- Says what is in the report of a run. -/
def tell (r : Report) : Program Unit := do
  modify fun log => (r.scenarios.map fun s => outcomeLine s.outcome).reverse ++ log
  if r.setupFailure.isSome then say .fault "Setup failed"

/-- When and under which name a run takes place. -/
structure Occasion where
  calendar : Duration → Timestamp
  draws : SuffixDraws

/-- Runs the suite over a connection. -/
def runNetwork {τ : Type} [Http.Transport τ] (o : Occasion) (b : Blueprint) (s : Settings)
    (epochs : Nat) (remote : Remote τ) : Program Bool := do
  let lifecycle := Lifecycle.create b s o.draws (o.calendar .zero)
  let run : Step (Remote τ) Report := runSuite (networkSuite epochs)
  let (result, _) := run.exec lifecycle (.start remote o.calendar)
  match ← orEnd .halted result with
  | (.ok report, _) =>
    tell report
    pure report.success
  | (.error failure, _) =>
    say .fault "Setup failed in debug mode, namespace kept"
    throw (.failed failure.record)

/-! ### Runs -/

def perform {τ : Type} [Http.Transport τ] (net : Net τ) (m : Machine) (o : Occasion)
    (i : Invocation) : Program Bool := do
  say .info "Starting testnet-harness"
  let b ← loadBlueprint m i.config
  let s ← loadSettings m i
  if i.skip then
    say .info "Suite skipped, nothing created"
    pure true
  else
    runNetwork o b s i.epochs (← reach net m s)

/-- The ending and the log of a run of the program with the words of its line. -/
def run {τ : Type} [Http.Transport τ] (net : Net τ) (m : Machine) (o : Occasion)
    (words : List String) : Ending × List LogLine :=
  match CommandLine.read m.vars words with
  | .error e => (e.ending, [])
  | .ok i =>
    match StateT.run (ExceptT.run (perform net m o i)) [] with
    | (.ok success, log) => (.finished success, log.reverse)
    | (.error ending, log) => (ending, log.reverse)

/-! ### What a run looks at -/

def variableNames : List String :=
  [CommandLine.configVariable] ++ Settings.names ++ serviceVariables

def paths (vars : Variables) (words : List String) : List String :=
  let config := match CommandLine.read vars words with
    | .ok i => [i.config]
    | .error _ => []
  config ++ [Settings.kubeconfigPath vars, accountPath "token"]

end Program

end ProvingGround
