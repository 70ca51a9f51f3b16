import ProvingGround.Access.Connect
import ProvingGround.Access.Kubeconfig
import ProvingGround.Api.Cluster
import ProvingGround.Api.Pools
import ProvingGround.Api.Queue
import ProvingGround.Api.Remote
import ProvingGround.Api.Timing
import ProvingGround.Blueprint.Basic
import ProvingGround.Blueprint.Epoch
import ProvingGround.Blueprint.Reading
import ProvingGround.Blueprint.Writing
import ProvingGround.CommandLine
import ProvingGround.Decimal.Binary64
import ProvingGround.Decimal.Notation
import ProvingGround.Decimal.Reader
import ProvingGround.Decimal.Shortest
import ProvingGround.Deployment.Logging
import ProvingGround.Deployment.Nodes
import ProvingGround.Fault.Basic
import ProvingGround.Fault.Config
import ProvingGround.Fault.Record
import ProvingGround.Genesis.Schedule
import ProvingGround.Genesis.Wait
import ProvingGround.Hint
import ProvingGround.Http.Exchange
import ProvingGround.Http.Url
import ProvingGround.Json.Decoding
import ProvingGround.Json.Reader
import ProvingGround.Json.Record
import ProvingGround.Json.Value
import ProvingGround.Lifecycle.Basic
import ProvingGround.Lifecycle.Run
import ProvingGround.Lifecycle.Setup
import ProvingGround.Machine
import ProvingGround.Main
import ProvingGround.Manifest.Basic
import ProvingGround.Manifest.Label
import ProvingGround.Manifest.Logging
import ProvingGround.Manifest.Node
import ProvingGround.Manifest.Writing
import ProvingGround.MemorySize
import ProvingGround.Namespace.Claim
import ProvingGround.Namespace.Name
import ProvingGround.Network
import ProvingGround.Phase
import ProvingGround.Pool.Plan
import ProvingGround.Pool.Scale
import ProvingGround.Program
import ProvingGround.Proofs.Acceptance
import ProvingGround.Proofs.Arguments
import ProvingGround.Proofs.Attribution
import ProvingGround.Proofs.Bootstrap
import ProvingGround.Proofs.Bounds
import ProvingGround.Proofs.Calendar
import ProvingGround.Proofs.Countdowns
import ProvingGround.Proofs.Coverage
import ProvingGround.Proofs.Decimal.Notation
import ProvingGround.Proofs.Decimal.Numerals
import ProvingGround.Proofs.Decimal.Rounding
import ProvingGround.Proofs.Deletion
import ProvingGround.Proofs.Deployments
import ProvingGround.Proofs.Environments
import ProvingGround.Proofs.FailedSetup
import ProvingGround.Proofs.Faltering
import ProvingGround.Proofs.FieldBounds
import ProvingGround.Proofs.Gates
import ProvingGround.Proofs.Hosting
import ProvingGround.Proofs.Images
import ProvingGround.Proofs.Instants
import ProvingGround.Proofs.Intervals
import ProvingGround.Proofs.Json.Grammar
import ProvingGround.Proofs.Json.Records
import ProvingGround.Proofs.Json.Skipping
import ProvingGround.Proofs.JsonReading
import ProvingGround.Proofs.Labels
import ProvingGround.Proofs.Lifecycle.Exec
import ProvingGround.Proofs.Lifecycle.Executed
import ProvingGround.Proofs.Lifecycle.Genesis
import ProvingGround.Proofs.Lifecycle.History
import ProvingGround.Proofs.Lifecycle.Law
import ProvingGround.Proofs.Lifecycle.Requests
import ProvingGround.Proofs.Lifecycle.Standing
import ProvingGround.Proofs.Lifecycle.Suite
import ProvingGround.Proofs.Lifecycle.Teardown
import ProvingGround.Proofs.Liveness.Checks
import ProvingGround.Proofs.Liveness.Verdict
import ProvingGround.Proofs.Liveness.Wait
import ProvingGround.Proofs.MemorySizes
import ProvingGround.Proofs.Once
import ProvingGround.Proofs.Ownership
import ProvingGround.Proofs.Phases
import ProvingGround.Proofs.Polling
import ProvingGround.Proofs.PoolAnswers
import ProvingGround.Proofs.PoolSizes
import ProvingGround.Proofs.PoolWait
import ProvingGround.Proofs.Punctuality
import ProvingGround.Proofs.Refusals
import ProvingGround.Proofs.Report
import ProvingGround.Proofs.RoundTrip
import ProvingGround.Proofs.Setup.BringUp
import ProvingGround.Proofs.Setup.Causes
import ProvingGround.Proofs.Setup.Genesis
import ProvingGround.Proofs.Setup.Law
import ProvingGround.Proofs.Setup.Stages
import ProvingGround.Proofs.Setup.Tasks
import ProvingGround.Proofs.Synchrony
import ProvingGround.Proofs.TaskText
import ProvingGround.Proofs.Trace.Basic
import ProvingGround.Proofs.Trace.Checks
import ProvingGround.Proofs.Trace.Countdown
import ProvingGround.Proofs.Trace.Course
import ProvingGround.Proofs.Trace.Kinds
import ProvingGround.Proofs.Trace.Law
import ProvingGround.Proofs.Trace.Looks
import ProvingGround.Proofs.Trace.Poll
import ProvingGround.Proofs.Trace.Settling
import ProvingGround.Proofs.Trace.Sparing
import ProvingGround.Proofs.Trace.Step
import ProvingGround.Proofs.Trace.Time
import ProvingGround.Proofs.Variables
import ProvingGround.Proofs.Yaml.Ensured
import ProvingGround.Proofs.Yaml.Plain
import ProvingGround.Proofs.Yaml.Written
import ProvingGround.Rehearsal.Checks
import ProvingGround.Rehearsal.Reading
import ProvingGround.Rehearsal.Script
import ProvingGround.Rehearsal.Stage
import ProvingGround.Rehearsal.Trace
import ProvingGround.Scenario.Basic
import ProvingGround.Scenario.Liveness
import ProvingGround.Session.Basic
import ProvingGround.Session.Call
import ProvingGround.Session.Countdown
import ProvingGround.Session.Poll
import ProvingGround.Settings
import ProvingGround.Teardown.Reading
import ProvingGround.Teardown.Report
import ProvingGround.Teardown.Task
import ProvingGround.Text.Base64
import ProvingGround.Text.Blank
import ProvingGround.Text.Concealed
import ProvingGround.Text.Digit
import ProvingGround.Text.Infix
import ProvingGround.Text.Keyed
import ProvingGround.Text.LowerCase
import ProvingGround.Text.Quoted
import ProvingGround.Text.Radix
import ProvingGround.Text.Ranges
import ProvingGround.Time.Calendar
import ProvingGround.Time.Duration
import ProvingGround.Time.Timer
import ProvingGround.Time.Timestamp
import ProvingGround.Word
import ProvingGround.Yaml.Atom
import ProvingGround.Yaml.Cursor
import ProvingGround.Yaml.Event.Basic
import ProvingGround.Yaml.Event.Grammar
import ProvingGround.Yaml.Node.Basic
import ProvingGround.Yaml.Reading
import ProvingGround.Yaml.Token.Basic
import ProvingGround.Yaml.Token.Directive
import ProvingGround.Yaml.Token.Lexer
import ProvingGround.Yaml.Token.Scalar
import ProvingGround.Yaml.Value
