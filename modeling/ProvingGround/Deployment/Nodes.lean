import ProvingGround.Genesis.Schedule
import ProvingGround.Manifest.Node
import ProvingGround.Session.Poll
import ProvingGround.Text.Blank
import ProvingGround.Text.Infix

/-!
# Deploying the groups of a network

The bootstrap group comes first. When its pods can be reached and its timing service has logged that
it listens, the timing service is started once. Groups of clients follow, pointed at a bootstrap
pod, and have only to be reached.
-/

namespace ProvingGround

open Text

variable {σ : Type} [Services σ]

/-! ### What is waited for -/

/-- What the timing service logs when it listens. -/
def timingPhrase : String := "REST proxy start listening on 0.0.0.0:80"

/-- What the timing service is told to start. -/
def timingStart : String := "\x7b \"gatewayAddresses\": [\"127.0.0.1:9092\"] \x7d"

/-- A list of pods is the whole group: enough of them, and all can be reached. -/
def isWholeGroup (wanted : Nat) (pods : List Pod) : Bool :=
  wanted ≤ pods.length && pods.all Pod.isReachable

/-- The pods that a group of so many replicas has at least. -/
def wantedPods (replicas : Int) : Nat := max 1 replicas.toNat

def checkGroup (ns group : String) (wanted : Nat) : Task σ (Option (List Pod)) := do
  let pods ← Task.call (.listPods ns (podSelector group))
  pure (if isWholeGroup wanted pods then some pods else none)

def checkTiming (ns pod : String) : Task σ (Option Unit) := do
  let log ← Task.call (.podLogs ns pod timingContainer)
  pure (if holds log timingPhrase then some () else none)

def awaitGroup (ns group : String) (replicas : Int) (l : PollLimits) : Task σ NodeGroup := do
  let pods ← poll s!"{group} pods" l (checkGroup ns group (wantedPods replicas))
  pure ⟨group, ns, pods⟩

def awaitTiming (ns : String) (pod : Pod) (l : PollLimits) : Task σ Unit := do
  match ← Task.lift (poll "timing service log" l (checkTiming ns pod.name)).attempt with
  | .ok () => pure ()
  | .error (.readinessTimeout _ timeout) =>
    throw (.dependencyNotReady pod.name timingPhrase timeout)
  | .error f => throw f

def startTiming (ns : String) (pod : Pod) : Task σ Unit := do
  let response ← Task.call (.startTiming ns pod timingStart)
  if trim response = "\x7b\x7d" then pure () else throw (.initialization response)

/-! ### Groups -/

/-- How the groups of a run are deployed. -/
structure DeploymentPlan where
  ns : String
  pool : Option String
  schedule : GenesisSchedule
  interval : Duration
  deriving DecidableEq, Repr

namespace DeploymentPlan

/-- Where nodes run, and what they are told about time. -/
def placement (p : DeploymentPlan) : Placement := ⟨p.ns, p.pool, p.schedule.argument⟩

def deployBootstrap (p : DeploymentPlan) (s : NodeSpec) (timeout : Duration) :
    Task σ NodeGroup := do
  Task.call (.create p.ns (p.placement.bootstrap s))
  let group ← awaitGroup p.ns bootstrapGroup s.replicas ⟨timeout, p.interval⟩
  let pod ← Task.ofConfig group.firstPod
  awaitTiming p.ns pod ⟨timeout, p.interval⟩
  startTiming p.ns pod
  pure group

def deployClients (p : DeploymentPlan) (group : String) (s : NodeSpec) (bootstrap : Pod)
    (timeout : Duration) : Task σ NodeGroup := do
  Task.call (.create p.ns (p.placement.clients group s bootstrap))
  awaitGroup p.ns group s.replicas ⟨timeout, p.interval⟩

end DeploymentPlan

end ProvingGround
