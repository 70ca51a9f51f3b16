import ProvingGround.Session.Basic

/-!
# Countdowns

A long wait is cut into steps, and the time that is left is announced before each of them, in whole
seconds. A step of no length stands for a single one.
-/

namespace ProvingGround

variable {σ : Type}

/-- Sleeps in steps until a deadline, at most `n` of them, and gives the announced seconds. -/
def countdownTo (deadline step : Duration) : (n : Nat) → Act σ (List Nat)
  | 0 => pure []
  | n + 1 => do
    let left := deadline.remaining (← Act.clock)
    if left.nanos = 0 then pure []
    else
      Act.sleep ⟨min step.nanos left.nanos⟩
      let later ← countdownTo deadline step n
      pure (left.seconds :: later)

def countdownStep (total step : Duration) : Duration := if step.nanos = 0 then total else step

/-- The most steps of a countdown. -/
def countdownSteps (total step : Duration) : Nat :=
  (total.nanos + (countdownStep total step).nanos - 1) / (countdownStep total step).nanos

/-- Sleeps a span in steps and gives the announced seconds. -/
def countdown (total step : Duration) : Act σ (List Nat) := do
  let now ← Act.clock
  let deadline : Duration := ⟨now.nanos + total.nanos⟩
  if Timer.isCountable deadline then
    countdownTo deadline (countdownStep total step) (countdownSteps total step)
  else Act.halt .beyondClock

end ProvingGround
