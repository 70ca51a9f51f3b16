import ProvingGround.Proofs.Trace.Course

/-!
# How polls end

Checks that may find anything and take any time are repeated until one of them settles the poll, or
until one of them is over at the limit. The limit is read when a check has ended: a check that is
under way at the limit is the last one, whatever has become true since it began.
-/

namespace ProvingGround

variable {σ α : Type}

namespace PollLimits

/-- The first multiple of the interval that is not before so much time. -/
def turn (l : PollLimits) (t : Nat) : Nat :=
  (t + l.interval.nanos - 1) / l.interval.nanos * l.interval.nanos

theorem le_turn {l : PollLimits} {t : Nat} (interval : 0 < l.interval.nanos) : t ≤ l.turn t := by
  have quotient := Nat.div_add_mod (t + l.interval.nanos - 1) l.interval.nanos
  have rest := Nat.mod_lt (t + l.interval.nanos - 1) interval
  unfold turn
  rw [Nat.mul_comm]
  omega

end PollLimits

section Polls

variable (what : String) {l : PollLimits} {check : Task σ (Option α)} {s s' : Session σ}
  {r : Except Fault α}

/-- A poll ends as its last check says. All the others leave it open and are over before the limit,
no check begins after the limit, and there are no more checks than intervals fit into it. -/
theorem poll_ends_with_last_check
    (answers : check.Answers fun now _ later => now.nanos ≤ later.nanos)
    (interval : 0 < l.interval.nanos) (exact : l.Exact s.clock (pollTrials what l check s)) :
    ∃ r s', (poll what l check).exec s = (.ok r, s') ∧
      (poll what l check.recorded).exec (s.recording []) =
        (.ok r, s'.recording (pollTrials what l check s)) ∧
      (pollTrials what l check s).length ≤
        (l.timeout.nanos + l.interval.nanos - 1) / l.interval.nanos + 1 ∧
      (∀ t ∈ pollTrials what l check s, t.start.nanos ≤ s.clock.nanos + l.timeout.nanos) ∧
      ∃ earlier last, pollTrials what l check s = earlier ++ [last] ∧
        (∀ t ∈ earlier, t.verdict = .notYet ∧
          t.finish.nanos < s.clock.nanos + l.timeout.nanos) ∧
        r = last.verdict.outcome what l.timeout ∧
        (last.verdict = .notYet → s.clock.nanos + l.timeout.nanos ≤ last.finish.nanos) := by
  obtain ⟨r, s', ended, recorded, course, forward, -⟩ :=
    poll_ends what answers (fun _ _ _ later => later) interval s
  have most := course.length_le_of_exact exact (Nat.le_refl _) forward
    (PollLimits.le_turn interval)
  have starts := course.start_le exact (Nat.le_refl _) forward (Nat.le_add_right _ _)
  exact ⟨r, s', ended, recorded, most, starts, course.ended rfl⟩

/-- A poll expires with a check that is over at the limit or later; it may have begun before. What
holds for the length of a check before the limit is never overlooked, what holds for less may be. -/
theorem expired_poll_checked_until_limit
    (answers : check.Answers fun now _ later => now.nanos ≤ later.nanos)
    (ended : (poll what l check).exec s = (.ok r, s')) :
    ((∀ t ∈ pollTrials what l check s, t.verdict = .notYet) →
      r = .error (.readinessTimeout what l.timeout) ∧
      ∃ earlier last, pollTrials what l check s = earlier ++ [last] ∧
        (∀ t ∈ earlier, t.finish.nanos < s.clock.nanos + l.timeout.nanos) ∧
        s.clock.nanos + l.timeout.nanos ≤ last.finish.nanos) ∧
    ∀ since longest, since + longest ≤ s.clock.nanos + l.timeout.nanos →
      (∀ t ∈ pollTrials what l check s, t.finish.nanos ≤ t.start.nanos + longest) →
      (∀ t ∈ pollTrials what l check s, since ≤ t.start.nanos → t.verdict ≠ .notYet) →
      ∃ last ∈ pollTrials what l check s, last.verdict ≠ .notYet ∧
        r = last.verdict.outcome what l.timeout := by
  obtain ⟨x, s₁, ended', -, course, -⟩ :=
    poll_course what (l := l) answers (fun _ _ _ later => later) s
  rw [ended] at ended'
  cases ended'
  obtain ⟨earlier, last, made, open_, outcome, expires⟩ := course.ended rfl
  have found : last ∈ pollTrials what l check s := made ▸ List.mem_concat_self
  constructor
  · intro waited
    have waits := waited last found
    rw [waits] at outcome
    exact ⟨outcome, earlier, last, made, fun t ht => (open_ t ht).2, expires waits⟩
  · intro since longest lasting short sees
    refine ⟨last, found, ?_, outcome⟩
    intro waits
    have late := expires waits
    have brief := short last found
    exact sees last found (by omega) waits

end Polls

/-! ### A time that comes -/

/-- Says, after a while, whether a time had come when it was asked. -/
def watch (since delay : Duration) : Task Unit (Option Unit) := do
  let now ← Task.clock
  Task.lift (Act.pass delay)
  pure (if since.nanos ≤ now.nanos then some () else none)

def idleSession : Session Unit := .start () fun _ => ⟨0⟩

section Watch

variable (since delay : Duration)

theorem exec_watch (s : Session Unit) : (watch since delay).exec s =
    (.ok (.ok (if since.nanos ≤ s.clock.nanos then some () else none)), s.pass delay) := rfl

theorem watch_answers : (watch since delay).Answers fun now _ later =>
    later.nanos = now.nanos + delay.nanos := by
  intro s
  exact ⟨_, _, exec_watch since delay s, rfl⟩

theorem watch_forward : (watch since delay).Answers fun now _ later =>
    now.nanos ≤ later.nanos := by
  apply (watch_answers since delay).mono
  intro now x later found
  omega

/-- Up to the horizon of the clock, a poll in whole seconds has exact pauses when its checks take
whole seconds. -/
theorem watch_exact (what : String) (timeout interval since delay : Nat)
    (countable : Timer.isCountable (.ofSeconds timeout) = true) :
    PollLimits.Exact ⟨.ofSeconds timeout, .ofSeconds interval⟩ .zero
      (pollTrials what ⟨.ofSeconds timeout, .ofSeconds interval⟩
        (watch (.ofSeconds since) (.ofSeconds delay)) idleSession) := by
  have unit (n : Nat) : Duration.millisecond ∣ (Duration.ofSeconds n).nanos :=
    Nat.dvd_mul_left_of_dvd (by decide) n
  apply PollLimits.exact_of_whole (s := idleSession) (watch_answers _ _)
  · intro now x later found
    omega
  · intro now x later found begun
    rw [found]
    exact Nat.dvd_add begun (unit delay)
  · exact Nat.dvd_zero _
  · exact unit timeout
  · exact unit interval
  · show Timer.isCountable ⟨0 + _⟩ = true
    rw [Nat.zero_add]
    exact countable

end Watch

def briefLimits : PollLimits := ⟨.ofSeconds 5, .ofSeconds 1⟩

/-- The second of its checks is under way at the limit. -/
def lateWatch : Task Unit (Option Unit) := watch (.ofSeconds 3) (.ofSeconds 3)

theorem poll_ends_with_last_check_late :
    0 < briefLimits.interval.nanos ∧
      briefLimits.Exact .zero (pollTrials "gate" briefLimits lateWatch idleSession) ∧
      ∃ s', (poll "gate" briefLimits lateWatch).exec idleSession = (.ok (.ok ()), s') ∧
        (pollTrials "gate" briefLimits lateWatch idleSession).length ≤ 6 ∧
        ∀ t ∈ pollTrials "gate" briefLimits lateWatch idleSession,
          t.start.nanos ≤ (Duration.ofSeconds 5).nanos := by
  have interval : 0 < briefLimits.interval.nanos := by decide
  have exact : briefLimits.Exact .zero (pollTrials "gate" briefLimits lateWatch idleSession) :=
    watch_exact "gate" 5 1 3 3 (by decide +kernel)
  obtain ⟨r, s', ended, -, most, starts, -⟩ :=
    poll_ends_with_last_check "gate" (s := idleSession) (watch_forward _ _) interval exact
  obtain ⟨later, ready⟩ := Task.exec_of_toOption (v := ()) (t := poll "gate" briefLimits lateWatch)
    (s := idleSession) (by decide +kernel)
  have limit : idleSession.clock.nanos + briefLimits.timeout.nanos =
      (Duration.ofSeconds 5).nanos := Nat.zero_add _
  cases ended.symm.trans ready
  rw [limit] at starts
  exact ⟨interval, exact, s', ended, Nat.le_trans most (by decide), starts⟩

/-- The first of its checks is under way at the limit. -/
def slowWatch : Task Unit (Option Unit) := watch (.ofSeconds 3) (.ofSeconds 30)

theorem slowWatch_trials : pollTrials "gate" briefLimits slowWatch idleSession =
    [⟨.zero, .ofSeconds 30, .ok none⟩] := by rfl

theorem expired_poll_checked_until_limit_slow :
    ∃ s', (poll "gate" briefLimits slowWatch).exec idleSession =
        (.ok (.error (.readinessTimeout "gate" (.ofSeconds 5))), s') ∧
      ∃ earlier last, pollTrials "gate" briefLimits slowWatch idleSession = earlier ++ [last] ∧
        (Duration.ofSeconds 5).nanos ≤ last.finish.nanos := by
  obtain ⟨r, s', ended, -⟩ := poll_ends "gate" (l := briefLimits)
    (watch_forward (.ofSeconds 3) (.ofSeconds 30)) (fun _ _ _ later => later) (by decide)
    idleSession
  obtain ⟨expired, -⟩ := expired_poll_checked_until_limit "gate" (watch_forward _ _) ended
  have waited : ∀ t ∈ pollTrials "gate" briefLimits slowWatch idleSession,
      t.verdict = .notYet := by
    rw [slowWatch_trials]
    exact List.forall_mem_singleton.2 rfl
  obtain ⟨rfl, earlier, last, made, -, late⟩ := expired waited
  exact ⟨s', ended, earlier, last, made, Nat.le_trans (Nat.le_add_left _ _) late⟩

/-- A time that came before the limit is overlooked by the only check, which began before it came
and was over after the limit. -/
theorem expired_poll_overlooks :
    ((poll "gate" briefLimits slowWatch).exec idleSession).1 =
        .ok (.error (.readinessTimeout "gate" (.ofSeconds 5))) ∧
      (pollTrials "gate" briefLimits slowWatch idleSession).map (·.start) = [.zero] ∧
      ∀ s : Session Unit, (Duration.ofSeconds 3).nanos ≤ s.clock.nanos →
        (slowWatch.exec s).1 = .ok (.ok (some ())) := by
  refine ⟨by rfl, by rw [slowWatch_trials]; rfl, ?_⟩
  intro s come
  unfold slowWatch
  rw [exec_watch, if_pos come]

end ProvingGround
