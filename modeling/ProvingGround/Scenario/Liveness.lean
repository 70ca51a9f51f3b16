import ProvingGround.Blueprint.Epoch
import ProvingGround.Scenario.Basic
import ProvingGround.Word

/-!
# Liveness

The built-in scenario lets the network run for some epochs, and then checks that every group still
has as many ready pods as it was handed over with.
-/

namespace ProvingGround

/-- The span of so many epochs; their number stops at the greatest of 32 bits. -/
def epochsSpan (epoch : Duration) (epochs : Nat) : Duration :=
  epoch.saturatingMul (min epochs (Word.count 32 - 1))

/-- The step in which the wait is told. -/
def livenessStep : Duration := .ofSeconds 60

/-- What is said of a group that has lost pods. -/
def lossText (group : NodeGroup) (ready epochs : Nat) : String :=
  s!"{group.name}: {ready} of {group.pods.length} pods ready after {epochs} epochs"

/-- Checks one group after the other. -/
def checkGroups (ns : String) (epochs : Nat) : List NodeGroup → Activity
  | [] => .pass
  | g :: rest =>
    .listPods ns g.name fun
      | .error f => .fail (.fault f)
      | .ok pods =>
        let ready := pods.countP (·.ready)
        if ready < g.pods.length then .fail (.check (lossText g ready epochs))
        else checkGroups ns epochs rest

/-- What the scenario does to a network. -/
def livenessBody (epochs : Nat) (env : Environment) : Activity :=
  match env.blueprint.client.epoch with
  | .error cause => .fail (.fault (.config cause))
  | .ok epoch =>
    .wait (epochsSpan epoch epochs) livenessStep (checkGroups env.ns epochs env.network.groups)

def networkLiveness (epochs : Nat) : Scenario where
  name := "network_liveness"
  body := livenessBody epochs

end ProvingGround
