import ProvingGround.Genesis.Schedule
import ProvingGround.Session.Basic

/-!
# Waiting for genesis

Groups of nodes come up at different times. When the last one is ready, the run sleeps for what is
left of the span to genesis, and not at all when genesis is over.
-/

namespace ProvingGround

variable {σ : Type}

/-- Sleeps for what is left of a span after a part of it, and gives the time slept. -/
def awaitGenesis (delta elapsed : Duration) : Act σ Duration := do
  let wait := delta.remaining elapsed
  if wait.nanos = 0 then pure wait
  else
    Act.sleep wait
    pure wait

def GenesisSchedule.await (s : GenesisSchedule) : Act σ Duration := do
  awaitGenesis s.delta (s.elapsed (← Act.clock))

/-- The schedule for genesis a span after now. -/
def GenesisSchedule.start (delta : Duration) : Task σ GenesisSchedule := do
  let clock ← Task.clock
  let now ← Task.lift Act.today
  Task.ofConfig (compute delta clock now)

end ProvingGround
