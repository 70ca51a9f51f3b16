import ProvingGround.Proofs.Trace.Budget
import ProvingGround.Session.Countdown

/-!
# What countdowns come to

A countdown whose deadline is on the clock ends when the deadline has come, on whole milliseconds
just then. One whose deadline is not does not even begin.
-/

namespace ProvingGround

variable {σ : Type} {deadline step total : Duration} {s : Session σ}

theorem Timer.isCountable_iff {d : Duration} :
    isCountable d = true ↔ d.nanos < horizon * Duration.second := by
  unfold isCountable Duration.seconds
  rw [decide_eq_true_iff, Nat.div_lt_iff_lt_mul (by decide)]

/-! ### The steps of a countdown -/

/-- The sleep of one turn. -/
def countdownSleep (deadline step now : Duration) : Duration :=
  ⟨min step.nanos (deadline.remaining now).nanos⟩

theorem countdownTo_exec_reached (reached : deadline.nanos ≤ s.clock.nanos) (n : Nat) :
    (countdownTo deadline step n).exec s = (.ok [], s) := by
  have nothing : (deadline.remaining s.clock).nanos = 0 := Nat.sub_eq_zero_of_le reached
  cases n with
  | zero => rfl
  | succ n =>
    rw [countdownTo, Act.exec_bind, Act.exec_clock]
    dsimp only
    rw [if_pos nothing]
    rfl

theorem countdownTo_exec_early (early : s.clock.nanos < deadline.nanos) (n : Nat) :
    (countdownTo deadline step (n + 1)).exec s =
      match (countdownTo deadline step n).exec
        { s with clock := Timer.fires s.clock (countdownSleep deadline step s.clock) } with
      | (.ok later, s') => (.ok ((deadline.remaining s.clock).seconds :: later), s')
      | (.error h, s') => (.error h, s') := by
  have left : (deadline.remaining s.clock).nanos ≠ 0 := Nat.sub_ne_zero_of_lt early
  rw [countdownTo, Act.exec_bind, Act.exec_clock]
  dsimp only
  rw [if_neg left, Act.exec_bind, Act.exec_sleep]
  dsimp only
  rw [Act.exec_bind]
  unfold countdownSleep
  rcases (countdownTo deadline step n).exec _ with ⟨h | later, s'⟩ <;> rfl

/-- A sleep brings the countdown nearer by the step or to the deadline, on whole milliseconds just
so and to a whole one. -/
theorem fires_countdownSleep (step : Duration) (countable : Timer.isCountable deadline = true)
    (early : s.clock.nanos < deadline.nanos) :
    s.clock.nanos + min step.nanos (deadline.nanos - s.clock.nanos) ≤
        (Timer.fires s.clock (countdownSleep deadline step s.clock)).nanos ∧
      (Duration.millisecond ∣ s.clock.nanos → Duration.millisecond ∣ step.nanos →
        Duration.millisecond ∣ deadline.nanos →
        (Timer.fires s.clock (countdownSleep deadline step s.clock)).nanos =
            s.clock.nanos + min step.nanos (deadline.nanos - s.clock.nanos) ∧
          Duration.millisecond ∣
            (Timer.fires s.clock (countdownSleep deadline step s.clock)).nanos) := by
  have within : s.clock.nanos + (countdownSleep deadline step s.clock).nanos ≤ deadline.nanos := by
    simp only [countdownSleep, Duration.remaining]
    omega
  have fired : Timer.isCountable
      ⟨s.clock.nanos + (countdownSleep deadline step s.clock).nanos⟩ = true :=
    Timer.isCountable_of_le within countable
  refine ⟨Timer.le_fires fired, fun now whole final => ?_⟩
  have sleep : Duration.millisecond ∣ (countdownSleep deadline step s.clock).nanos := by
    simp only [countdownSleep, Duration.remaining, Nat.min_def]
    split
    · exact whole
    · exact Nat.dvd_sub final now
  rw [Timer.fires_of_whole now sleep fired]
  exact ⟨rfl, Nat.dvd_add now sleep⟩

/-- So many steps as reach the deadline are enough, and none is left when it has come. -/
theorem countdownTo_exec (step : Duration) (countable : Timer.isCountable deadline = true) (n : Nat)
    (near : deadline.nanos ≤ s.clock.nanos + n * step.nanos) :
    ∃ left clock, (countdownTo deadline step n).exec s = (.ok left, { s with clock }) ∧
      deadline.nanos ≤ clock.nanos ∧
      (Duration.millisecond ∣ s.clock.nanos → Duration.millisecond ∣ step.nanos →
        Duration.millisecond ∣ deadline.nanos →
        clock.nanos = max s.clock.nanos deadline.nanos) := by
  induction n generalizing s with
  | zero =>
    have reached : deadline.nanos ≤ s.clock.nanos := by omega
    exact ⟨[], s.clock, countdownTo_exec_reached reached 0, reached,
      fun _ _ _ => (Nat.max_eq_left reached).symm⟩
  | succ n ih =>
    by_cases early : s.clock.nanos < deadline.nanos
    · obtain ⟨nearer, onTime⟩ := fires_countdownSleep step countable early
      rw [Nat.succ_mul] at near
      obtain ⟨left, clock, rest, reached, end_⟩ := ih
        (s := { s with clock := Timer.fires s.clock (countdownSleep deadline step s.clock) })
        (by dsimp only; omega)
      refine ⟨(deadline.remaining s.clock).seconds :: left, clock, ?_, reached,
        fun now whole final => ?_⟩
      · rw [countdownTo_exec_early early, rest]
      · obtain ⟨woken, again⟩ := onTime now whole final
        rw [end_ again whole final]
        dsimp only
        omega
    · have reached := Nat.le_of_not_lt early
      exact ⟨[], s.clock, countdownTo_exec_reached reached _, reached,
        fun _ _ _ => (Nat.max_eq_left reached).symm⟩

/-! ### Whole countdowns -/

theorem le_countdownSteps (total step : Duration) :
    total.nanos ≤ countdownSteps total step * (countdownStep total step).nanos := by
  unfold countdownSteps
  rcases Nat.eq_zero_or_pos (countdownStep total step).nanos with none | some_
  · have nothing : total.nanos = 0 := by
      unfold countdownStep at none
      split at none <;> omega
    rw [nothing]
    exact Nat.zero_le _
  · have quotient := Nat.div_add_mod (total.nanos + (countdownStep total step).nanos - 1)
      (countdownStep total step).nanos
    have rest := Nat.mod_lt (total.nanos + (countdownStep total step).nanos - 1) some_
    rw [Nat.mul_comm]
    omega

theorem countdown_exec_beyond
    (beyond : Timer.isCountable ⟨s.clock.nanos + total.nanos⟩ = false) :
    (countdown total step).exec s = (.error .beyondClock, s) := by
  unfold countdown
  rw [Act.exec_bind, Act.exec_clock]
  dsimp only
  rw [beyond, if_neg Bool.false_ne_true, Act.exec_halt]

theorem countdown_exec (step : Duration)
    (countable : Timer.isCountable ⟨s.clock.nanos + total.nanos⟩ = true) :
    ∃ left clock, (countdown total step).exec s = (.ok left, { s with clock }) ∧
      s.clock.nanos + total.nanos ≤ clock.nanos ∧
      (Duration.millisecond ∣ s.clock.nanos → Duration.millisecond ∣ step.nanos →
        Duration.millisecond ∣ total.nanos → clock.nanos = s.clock.nanos + total.nanos) := by
  have steps := le_countdownSteps total step
  obtain ⟨left, clock, ended, reached, onTime⟩ := countdownTo_exec
    (countdownStep total step) countable (countdownSteps total step)
    (Nat.add_le_add_left steps _)
  refine ⟨left, clock, ?_, reached, fun now whole final => ?_⟩
  · unfold countdown
    rw [Act.exec_bind, Act.exec_clock]
    dsimp only
    rw [if_pos countable]
    exact ended
  · have step_ : Duration.millisecond ∣ (countdownStep total step).nanos := by
      unfold countdownStep
      split
      · exact final
      · exact whole
    rw [onTime now step_ (Nat.dvd_add now final)]
    exact Nat.max_eq_right (Nat.le_add_right _ _)

end ProvingGround
