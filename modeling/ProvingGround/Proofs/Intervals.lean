import ProvingGround.Proofs.Polling
import ProvingGround.Settings

/-!
# Intervals that are accepted

The interval of a run's polls is taken from a variable as it stands. Polls come to an end with every
interval but one: where the variable names no time at all, checks that answer at once are repeated
while no time passes, and the limit is never reached.
-/

namespace ProvingGround

variable {σ α : Type}

/-! ### Settings -/

/-- The limits of a wait that may take so long. -/
def WaitSettings.limits (w : WaitSettings) (timeout : Duration) : PollLimits :=
  ⟨timeout, w.pollInterval⟩

theorem bind_eq_ok {ε α β : Type} {x : Except ε α} {k : α → Except ε β} {v : β}
    (h : x >>= k = .ok v) : ∃ a, x = .ok a ∧ k a = .ok v := by
  cases x with
  | error e => cases h
  | ok a => exact ⟨a, rfl, h⟩

namespace Settings

/-- The variable of the interval names no time at all. -/
def NamesNoInterval (vars : Variables) : Prop :=
  ∃ v, value? vars "HARNESS_POLL_INTERVAL_SECS" = some v ∧
    Text.readNatural (Word.count 64) (Text.trim v) = some 0

variable {vars : Variables} {st : Settings}

theorem seconds_pollInterval (accepted : read vars = .ok st) :
    seconds vars "HARNESS_POLL_INTERVAL_SECS" 5 = .ok st.waits.pollInterval := by
  obtain ⟨_, -, rest⟩ := bind_eq_ok accepted
  obtain ⟨w, waits, rest⟩ := bind_eq_ok rest
  obtain ⟨_, -, rest⟩ := bind_eq_ok rest
  obtain ⟨_, -, rest⟩ := bind_eq_ok rest
  obtain ⟨_, -, rest⟩ := bind_eq_ok rest
  obtain ⟨_, -, rest⟩ := bind_eq_ok rest
  cases rest
  obtain ⟨_, interval, rest⟩ := bind_eq_ok waits
  obtain ⟨_, -, rest⟩ := bind_eq_ok rest
  obtain ⟨_, -, rest⟩ := bind_eq_ok rest
  obtain ⟨_, -, rest⟩ := bind_eq_ok rest
  cases rest
  exact interval

theorem pollInterval_eq_zero_iff (accepted : read vars = .ok st) :
    st.waits.pollInterval.nanos = 0 ↔ NamesNoInterval vars := by
  have interval := seconds_pollInterval accepted
  unfold seconds at interval
  unfold NamesNoInterval
  cases set : value? vars "HARNESS_POLL_INTERVAL_SECS" with
  | none =>
    rw [set] at interval
    rw [← Except.ok.inj interval]
    constructor
    · intro none
      cases none
    · rintro ⟨v, ⟨⟩, -⟩
  | some v =>
    rw [set] at interval
    dsimp only at interval
    cases number : Text.readNatural (Word.count 64) (Text.trim v) with
    | none =>
      rw [number] at interval
      cases interval
    | some n =>
      rw [number] at interval
      rw [← Except.ok.inj interval]
      constructor
      · intro none
        have zero : n = 0 := by
          simp only [Duration.ofSeconds, Duration.second] at none
          omega
        exact ⟨v, rfl, by rw [number, zero]⟩
      · rintro ⟨w, ⟨⟩, zero⟩
        cases number.symm.trans zero
        rfl

end Settings

/-! ### Polls without an interval -/

namespace Course

variable {what : String} {l : PollLimits} {start now later : Duration} {made : List (Trial α)}
  {r : Task.Ending α}

theorem start_of_cons {t : Trial α} (h : Course what l start now (t :: made) r later) :
    t.start = now := by
  cases h with
  | last | again => rfl

/-- Without an interval no time passes between checks that take none. -/
theorem stands_still (h : Course what l start now made r later)
    (interval : l.interval.nanos = 0) (instant : ∀ t ∈ made, t.finish = t.start)
    (whole : Duration.millisecond ∣ now.nanos) (countable : Timer.isCountable now = true) :
    ∀ t ∈ made, t.finish = now := by
  induction h with
  | stalled =>
    intro t ht
    cases ht
  | last =>
    intro t ht
    rw [List.mem_singleton.1 ht]
    exact instant _ List.mem_cons_self
  | @again now middle later x made r waits early rest ih =>
    obtain ⟨first, others⟩ := List.forall_mem_cons.1 instant
    obtain rfl : middle = now := first
    have pause : l.pause (middle.remaining start) = ⟨0⟩ := by
      simp only [PollLimits.pause, interval, Nat.zero_min]
    have fires : Timer.fires middle (l.pause (middle.remaining start)) = middle := by
      rw [pause]
      exact Timer.fires_of_whole whole (Nat.dvd_zero _) countable
    rw [fires] at ih
    exact List.forall_mem_cons.2 ⟨rfl, ih others whole countable⟩

end Course

section Polls

variable (what : String) {l : PollLimits} {check : Task σ (Option α)} {s : Session σ}

/-- A poll without a limit makes one check, with or without an interval. -/
theorem poll_ends_at_once (instant : check.Answers fun now _ later => later = now)
    (limit : l.timeout.nanos = 0) (patience : 0 < l.checks s.patience) :
    ∃ r s', (poll what l check).exec s = (.ok r, s') := by
  obtain ⟨r, s', ended, -, course, founds, all⟩ := poll_course what (l := l) instant
    (fun _ _ _ => nanos_le_of_instant) s
  cases r with
  | ok r => exact ⟨r, s', ended⟩
  | error halt =>
    obtain ⟨rfl, open_⟩ := course.halted rfl
    rw [← all rfl] at patience
    obtain ⟨t, rest, made⟩ := List.exists_cons_of_length_pos patience
    rw [made] at course open_ founds
    have start := course.start_of_cons
    have finish := founds t List.mem_cons_self
    have early := (open_ t List.mem_cons_self).2
    rw [finish, start] at early
    omega

/-- Without an interval a poll ends just when one of its checks settles it. -/
theorem poll_without_interval (instant : check.Answers fun now _ later => later = now)
    (interval : l.interval.nanos = 0) (limit : 0 < l.timeout.nanos)
    (whole : Duration.millisecond ∣ s.clock.nanos) (countable : Timer.isCountable s.clock = true) :
    (∃ r s', (poll what l check).exec s = (.ok r, s')) ↔
      ∃ t ∈ pollTrials what l check s, t.verdict ≠ .notYet := by
  obtain ⟨r, s', ended, -, course, founds, -⟩ := poll_course what (l := l) instant
    (fun _ _ _ => nanos_le_of_instant) s
  constructor
  · rintro ⟨x, s₁, ended'⟩
    cases ended.symm.trans ended'
    obtain ⟨earlier, last, made, -, -, expires⟩ := course.ended rfl
    have found : last ∈ pollTrials what l check s := made ▸ List.mem_concat_self
    refine ⟨last, found, ?_⟩
    intro waits
    have late := expires waits
    rw [course.stands_still interval founds whole countable last found] at late
    omega
  · rintro ⟨t, found, settles⟩
    cases r with
    | ok r => exact ⟨r, s', ended⟩
    | error halt => exact absurd ((course.halted rfl).2 t found).1 settles

/-- Without an interval a poll that nothing settles makes all the checks that it may make. -/
theorem poll_stalls
    (waits : check.Answers fun now x later => later = now ∧ Verdict.of x = .notYet)
    (interval : l.interval.nanos = 0) (limit : 0 < l.timeout.nanos)
    (whole : Duration.millisecond ∣ s.clock.nanos) (countable : Timer.isCountable s.clock = true) :
    ((poll what l check).exec s).1 = .error .stalled ∧
      (pollTrials what l check s).length = s.patience := by
  obtain ⟨r, s', ended, -, course, founds, all⟩ := poll_course what (l := l) waits
    (fun _ _ _ found => nanos_le_of_instant found.1) s
  cases r with
  | error halt =>
    obtain ⟨rfl, -⟩ := course.halted rfl
    rw [ended]
    exact ⟨rfl, (all rfl).trans (if_pos interval)⟩
  | ok r =>
    obtain ⟨t, found, settles⟩ := (poll_without_interval what
      (waits.mono fun _ _ _ found => found.1) interval limit whole countable).1 ⟨r, s', ended⟩
    exact absurd (founds t found).2 settles

/-- With an interval that settings accept, a poll of checks that answer at once comes to an end,
whatever they find, unless the interval is none; without one, and with a limit, it takes a check
that settles the poll. -/
theorem accepted_poll_ends {vars : Variables} {st : Settings}
    (accepted : Settings.read vars = .ok st)
    (instant : check.Answers fun now _ later => later = now) (patience : 0 < s.patience)
    (timeout : Duration) :
    (¬ Settings.NamesNoInterval vars →
      ∃ r s', (poll what (st.waits.limits timeout) check).exec s = (.ok r, s') ∧
        (pollTrials what (st.waits.limits timeout) check s).length ≤
          (st.waits.limits timeout).checks s.patience) ∧
    (timeout.nanos = 0 →
      ∃ r s', (poll what (st.waits.limits timeout) check).exec s = (.ok r, s')) ∧
    (Settings.NamesNoInterval vars → 0 < timeout.nanos →
      Duration.millisecond ∣ s.clock.nanos → Timer.isCountable s.clock = true →
      ((∃ r s', (poll what (st.waits.limits timeout) check).exec s = (.ok r, s')) ↔
        ∃ t ∈ pollTrials what (st.waits.limits timeout) check s, t.verdict ≠ .notYet)) := by
  have none := Settings.pollInterval_eq_zero_iff accepted
  refine ⟨?_, ?_, ?_⟩
  · intro named
    have interval : 0 < (st.waits.limits timeout).interval.nanos :=
      Nat.pos_of_ne_zero fun zero => named (none.1 zero)
    obtain ⟨r, s', ended, -, -, -, most⟩ := poll_ends what instant
      (fun _ _ _ => nanos_le_of_instant) interval s
    exact ⟨r, s', ended, most⟩
  · intro limit
    exact poll_ends_at_once what instant limit (PollLimits.checks_pos _ patience)
  · intro unnamed limit
    exact poll_without_interval what instant (none.2 unnamed) limit

end Polls

/-! ### An interval of zero seconds -/

/-- The least that settings accept, with an interval. -/
def leastVariables (interval : String) : Variables
  | "CLUSTER_ZONE" => some "us-east1-b"
  | "PROJECT_ID" => some "testnets"
  | "CLUSTER_NAME" => some "ci"
  | "ES_PASS_LOCAL" => some "secret"
  | "MAIN_ES_IP" => some "10.0.0.9"
  | "HARNESS_POLL_INTERVAL_SECS" => some interval
  | _ => none

def isAccepted (vars : Variables) (interval : Duration) : Bool :=
  (Settings.read vars).toOption.any fun st => st.waits.pollInterval == interval

theorem exists_of_isAccepted {vars : Variables} {interval : Duration}
    (h : isAccepted vars interval = true) :
    ∃ st, Settings.read vars = .ok st ∧ st.waits.pollInterval = interval := by
  unfold isAccepted at h
  cases accepted : Settings.read vars with
  | error c =>
    rw [accepted] at h
    cases h
  | ok st =>
    rw [accepted] at h
    exact ⟨st, rfl, eq_of_beq h⟩

def neverFinds : Task Unit (Option Unit) := pure none

theorem neverFinds_waits :
    neverFinds.Answers fun now x later => later = now ∧ Verdict.of x = .notYet :=
  fun s => ⟨_, s, rfl, rfl, rfl⟩

theorem accepted_poll_ends_with_seconds :
    ∃ st, Settings.read (leastVariables "2") = .ok st ∧
      ¬ Settings.NamesNoInterval (leastVariables "2") ∧
      ∃ r s', (poll "gate" (st.waits.limits (.ofSeconds 5)) neverFinds).exec idleSession =
        (.ok r, s') := by
  have readable : isAccepted (leastVariables "2") (.ofSeconds 2) = true := by decide +kernel
  obtain ⟨st, accepted, interval⟩ := exists_of_isAccepted readable
  have named : ¬ Settings.NamesNoInterval (leastVariables "2") := by
    rw [← Settings.pollInterval_eq_zero_iff accepted, interval]
    decide
  obtain ⟨ends, -, -⟩ := accepted_poll_ends "gate" (s := idleSession) accepted
    (neverFinds_waits.mono fun _ _ _ found => found.1) (by decide +kernel) (.ofSeconds 5)
  obtain ⟨r, s', ended, -⟩ := ends named
  exact ⟨st, accepted, named, r, s', ended⟩

/-- Zero seconds are accepted; however many checks a poll with this interval may make, it makes all
of them and has not come to an end. -/
theorem accepted_poll_endless :
    ∃ st, Settings.read (leastVariables "0") = .ok st ∧
      ∀ patience,
        ((poll "gate" (st.waits.limits (.ofSeconds 5)) neverFinds).exec
          { idleSession with patience }).1 = .error .stalled ∧
        (pollTrials "gate" (st.waits.limits (.ofSeconds 5)) neverFinds
          { idleSession with patience }).length = patience := by
  have readable : isAccepted (leastVariables "0") .zero = true := by decide +kernel
  obtain ⟨st, accepted, none⟩ := exists_of_isAccepted readable
  have limit : 0 < (Duration.ofSeconds 5).nanos := by decide
  have countable : Timer.isCountable .zero = true := by decide +kernel
  refine ⟨st, accepted, fun patience => ?_⟩
  exact poll_stalls "gate" neverFinds_waits (congrArg Duration.nanos none) limit (Nat.dvd_zero _)
    countable

end ProvingGround
