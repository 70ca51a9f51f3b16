import ProvingGround.Lifecycle.Basic

/-!
# Setup

Setup claims the namespace, deploys the logging stack, scales the pool, deploys the groups of nodes
and waits for genesis. Each part is entered only when the one before it is done. A failure is kept
together with its phase; outside of debug mode the run goes on to reporting.
-/

namespace ProvingGround

variable {σ : Type} [Services σ]

/-! ### Parts of setup -/

def setupNamespace : Step σ String := do
  let ns := (← Step.record).targetNamespace
  Step.task .provisioning (claimNamespace ns)
  Step.update fun l => { l with ns := some ns }
  pure ns

def setupLogging (ns : String) : Step σ Unit := do
  let s := (← Step.record).settings
  Step.task .loggingReady
    (deployLogging ns s.store ⟨s.waits.loggingStack, s.waits.pollInterval⟩)
  Step.advance .loggingReady .loggingStackReady

def setupPool (ns : String) : Step σ ScaledPool := do
  let l ← Step.record
  let pool ← Step.task .poolScaled (scalePool ns l.blueprint l.settings.waits)
  Step.advance .poolScaled .poolReady
  pure pool

/-- Sets the schedule of genesis and deploys the bootstrap group. -/
def setupBootstrap (ns : String) (pool : ScaledPool) : Step σ (DeploymentPlan × NodeGroup) := do
  let l ← Step.record
  let schedule ← Step.task .bootstrapReady (GenesisSchedule.start l.blueprint.genesisSpan)
  let plan : DeploymentPlan := ⟨ns, some pool.name, schedule, l.settings.waits.pollInterval⟩
  let group ← Step.task .bootstrapReady
    (plan.deployBootstrap l.blueprint.bootstrap l.blueprint.readySpan)
  Step.advance .bootstrapReady .bootstrapDeployed
  pure (plan, group)

def setupClients (plan : DeploymentPlan) (bootstrap : NodeGroup) : Step σ Network := do
  let b := (← Step.record).blueprint
  let pod ← Step.task .clientsReady (Task.ofConfig bootstrap.firstPod)
  let clients ← Step.task .clientsReady
    (plan.deployClients clientGroup b.client pod b.readySpan)
  let second ← match b.clientv2 with
    | none => pure none
    | some v2 => do
      let group ← Step.task .clientsReady
        (plan.deployClients secondClientGroup v2.node pod b.readySpan)
      pure (some group)
  Step.advance .clientsReady .clientsDeployed
  pure ⟨plan.ns, bootstrap, clients, second⟩

def setupGenesis (schedule : GenesisSchedule) : Step σ Unit := do
  let _ ← Step.lift (Operation.act schedule.await)
  Step.advance .genesisSynced .genesisReached

def bringUp : Step σ Environment := do
  let ns ← setupNamespace
  setupLogging ns
  let pool ← setupPool ns
  let (plan, bootstrap) ← setupBootstrap ns pool
  let network ← setupClients plan bootstrap
  setupGenesis plan.schedule
  let l ← Step.record
  pure ⟨ns, l.blueprint, network, pool, plan.schedule.genesis, l.indexDate⟩

/-! ### Setup -/

inductive SetupResult where
  | ready (environment : Environment)
  | skipped
  /-- Setup failed; the run is torn down as failed. -/
  | failed (failure : PhaseFailure)

/-- Takes the date of the log indices and the image override into the record. -/
def prepareRun (now : Timestamp) (l : Lifecycle) : Lifecycle :=
  { l with
    indexDate := now.indexDate
    blueprint := l.blueprint.overrideImages l.settings.imageOverride }

/-- Goes on after a failure of setup: to reporting, or nowhere in debug mode. -/
def settleFailure (failure : PhaseFailure) : Step σ SetupResult := do
  if (← Step.record).settings.debug then throw failure
  else
    Step.advance failure.phase .setupFailed
    pure (.failed failure)

def setup (skip : Bool) : Step σ SetupResult := do
  let phase := (← Step.record).phase
  if skip then
    Step.advance phase .skipRequested
    pure .skipped
  else
    Step.advance phase .setupStarted
    let now ← Step.lift (Operation.act Act.today)
    Step.update (prepareRun now)
    match ← Step.lift (ExceptT.run bringUp) with
    | .ok environment => pure (.ready environment)
    | .error failure => settleFailure failure

end ProvingGround
