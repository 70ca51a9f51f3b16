import Mathlib.Algebra.Order.Floor.Div
import ProvingGround.Proofs.Polling
import ProvingGround.Proofs.Trace.Countdown

/-!
# The turns of a countdown

A countdown has no counter: it sleeps for as long as something is left until its deadline, and ends
because each sleep brings the deadline nearer. It is told here turn by turn, without the number of
steps that the action is given in advance, and the action is shown to do just these turns.
-/

namespace ProvingGround

/-! ### Turns -/

/-- One turn of a countdown: the time that is left, and the sleep that follows. -/
structure Nap where
  left : Duration
  span : Duration
  deriving DecidableEq, Repr

/-- What is announced of the time left: its whole seconds. -/
def Nap.announced (nap : Nap) : Nat := nap.left.nanos / 1000000000

/-- The turns from one time of the clock to another. They go on while anything is left. -/
inductive CountsDown (deadline step : Duration) : Duration → List Nap → Duration → Prop where
  | reached {now} (nothing : deadline.remaining now = .zero) : CountsDown deadline step now [] now
  | turn {now naps later} (early : deadline.remaining now ≠ .zero)
    (rest : CountsDown deadline step (Timer.fires now (countdownSleep deadline step now)) naps
      later) :
    CountsDown deadline step now
      (⟨deadline.remaining now, countdownSleep deadline step now⟩ :: naps) later

namespace CountsDown

variable {σ : Type} {deadline step now later later' : Duration} {naps naps' : List Nap}

theorem unique (h : CountsDown deadline step now naps later)
    (h' : CountsDown deadline step now naps' later') : naps' = naps ∧ later' = later := by
  induction h generalizing naps' later' with
  | reached nothing =>
    cases h' with
    | reached => exact ⟨rfl, rfl⟩
    | turn early => exact absurd nothing early
  | turn early rest ih =>
    cases h' with
    | reached nothing => exact absurd nothing early
    | turn _ rest' =>
      obtain ⟨rfl, rfl⟩ := ih rest'
      exact ⟨rfl, rfl⟩

/-- The action does the turns, whatever number of steps from theirs on it is given. -/
theorem exec {s : Session σ} (h : CountsDown deadline step s.clock naps later) {n : Nat}
    (enough : naps.length ≤ n) :
    (countdownTo deadline step n).exec s =
      (.ok (naps.map Nap.announced), { s with clock := later }) := by
  generalize start : s.clock = clock at h
  induction h generalizing s n with
  | reached nothing =>
    subst start
    exact countdownTo_exec_reached ((Duration.remaining_eq_zero_iff _ _).1 nothing) n
  | turn early rest ih =>
    subst start
    have open_ : s.clock.nanos < deadline.nanos := by
      rw [Ne, Duration.remaining_eq_zero_iff] at early
      exact Nat.lt_of_not_le early
    cases n with
    | zero => exact absurd enough (Nat.not_succ_le_zero _)
    | succ n =>
      rw [countdownTo_exec_early open_, ih (Nat.le_of_succ_le_succ enough) rfl]
      rfl

end CountsDown

/-! ### Naps of a step -/

section Naps

variable {span step : Duration}

end Naps

/-! ### Whole countdowns -/

end ProvingGround
