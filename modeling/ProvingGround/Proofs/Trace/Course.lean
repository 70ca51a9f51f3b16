import ProvingGround.Proofs.Trace.Budget

/-!
# The course of a poll

A recorded check keeps beside the world when it began, when it ended and what it found. The record
of a whole poll tells how the poll ended, how often it checked and how late.
-/

namespace ProvingGround

variable {σ α : Type}

/-! ### Recorded checks -/

/-- A check that was made. -/
structure Trial (α : Type) where
  start : Duration
  finish : Duration
  finding : Except Fault (Option α)

def Trial.verdict (t : Trial α) : Verdict α := Verdict.of t.finding

namespace Session

/-- The session with trials beside its world. -/
def recording (s : Session σ) (made : List (Trial α)) : Session (σ × List (Trial α)) :=
  ⟨(s.world, made), s.clock, s.calendar, s.patience, s.journal⟩

def unrecorded (s : Session (σ × List (Trial α))) : Session σ :=
  ⟨s.world.1, s.clock, s.calendar, s.patience, s.journal⟩

end Session

namespace Task

/-- The check with a record of what it finds, and when. -/
def recorded (check : Task σ (Option α)) : Task (σ × List (Trial α)) (Option α) :=
  ExceptT.mk <| ExceptT.mk fun s =>
    match check.exec s.unrecorded with
    | (.ok x, later) => (.ok x, later.recording (s.world.2 ++ [⟨s.clock, later.clock, x⟩]))
    | (.error h, later) => (.error h, later.recording s.world.2)

/-- The check always answers; what it finds and when is said by a relation. -/
def Answers (check : Task σ (Option α))
    (C : Duration → Except Fault (Option α) → Duration → Prop) : Prop :=
  ∀ s, ∃ x s', check.exec s = (.ok x, s') ∧ C s.clock x s'.clock

theorem Answers.mono {check : Task σ (Option α)}
    {C D : Duration → Except Fault (Option α) → Duration → Prop} (h : check.Answers C)
    (weaken : ∀ now x later, C now x later → D now x later) : check.Answers D := by
  intro s
  obtain ⟨x, s', checked, found⟩ := h s
  exact ⟨x, s', checked, weaken _ _ _ found⟩

theorem exec_recorded {check : Task σ (Option α)} {s s' : Session σ}
    {x : Except Fault (Option α)} (h : check.exec s = (.ok x, s')) (made : List (Trial α)) :
    check.recorded.exec (s.recording made) =
      (.ok x, s'.recording (made ++ [⟨s.clock, s'.clock, x⟩])) := by
  have plain : check.exec (s.recording made).unrecorded = (.ok x, s') := h
  unfold Task.exec Act.exec Task.attempt Task.recorded
  simp only [ExceptT.run_mk]
  show (match check.exec (s.recording made).unrecorded with
    | (.ok x, later) => (Except.ok x, later.recording (made ++ [Trial.mk s.clock later.clock x]))
    | (.error h, later) => (Except.error h, later.recording made)) = _
  rw [plain]

end Task

/-- The checks that a poll makes, in order. -/
def pollTrials (what : String) (l : PollLimits) (check : Task σ (Option α)) (s : Session σ) :
    List (Trial α) :=
  ((poll what l check.recorded).exec (s.recording [])).2.world.2

/-! ### Courses -/

/-- The checks of a poll from some time on, how it ends and when. -/
inductive Course (what : String) (l : PollLimits) (start : Duration) :
    Duration → List (Trial α) → Task.Ending α → Duration → Prop where
  | stalled {now} : Course what l start now [] (.error .stalled) now
  | last {now later x}
    (expires : Verdict.of x = .notYet → start.nanos + l.timeout.nanos ≤ later.nanos) :
    Course what l start now [⟨now, later, x⟩] (.ok ((Verdict.of x).outcome what l.timeout)) later
  | again {now middle later x made r} (waits : Verdict.of x = .notYet)
    (early : middle.nanos < start.nanos + l.timeout.nanos)
    (rest : Course what l start (Timer.fires middle (l.pause (middle.remaining start))) made r
      later) : Course what l start now (⟨now, middle, x⟩ :: made) r later

section Polls

variable {what : String} {l : PollLimits} {start now later : Duration}
  {check : Task σ (Option α)} {C : Duration → Except Fault (Option α) → Duration → Prop}
  {made : List (Trial α)} {r : Task.Ending α}

variable (what) in
/-- A poll that may make `n` checks takes a course, recorded or not; it is given up only after all
of them. -/
theorem pollFrom_course (answers : check.Answers C)
    (forward : ∀ now x later, C now x later → now.nanos ≤ later.nanos) (n : Nat) (s : Session σ)
    (before : List (Trial α)) (after : start.nanos ≤ s.clock.nanos) :
    ∃ made r s', (pollFrom what l start check n).exec s = (r, s') ∧
      (pollFrom what l start check.recorded n).exec (s.recording before) =
        (r, s'.recording (before ++ made)) ∧
      Course what l start s.clock made r s'.clock ∧ (∀ t ∈ made, C t.start t.finding t.finish) ∧
      (r = .error .stalled → made.length = n) := by
  induction n generalizing s before with
  | zero =>
    refine ⟨[], _, s, rfl, ?_, .stalled, ?_, fun _ => rfl⟩
    · rw [List.append_nil]
      rfl
    · intro t ht
      cases ht
  | succ n ih =>
    obtain ⟨x, s₁, checked, found⟩ := answers s
    have recorded := Task.exec_recorded checked before
    have later := forward _ _ _ found
    by_cases going : Verdict.of x = .notYet ∧ s₁.clock.nanos - start.nanos < l.timeout.nanos
    · obtain ⟨waits, early⟩ := going
      have fires := Timer.le_fires_now s₁.clock (l.pause (s₁.clock.remaining start))
      obtain ⟨made, r, s₂, ended, ended', course, founds, all⟩ := ih
        { s₁ with clock := Timer.fires s₁.clock (l.pause (s₁.clock.remaining start)) }
        (before ++ [⟨s.clock, s₁.clock, x⟩]) (by dsimp only; omega)
      refine ⟨⟨s.clock, s₁.clock, x⟩ :: made, r, s₂, ?_, ?_, .again waits (by omega) course,
        List.forall_mem_cons.2 ⟨found, founds⟩, fun h => congrArg Nat.succ (all h)⟩
      · rw [pollFrom_exec_again checked waits early]
        exact ended
      · rw [List.append_cons]
        exact (pollFrom_exec_again recorded waits early n).trans ended'
    · have expires : Verdict.of x = .notYet → l.timeout.nanos ≤ s₁.clock.nanos - start.nanos := by
        intro waits
        exact Nat.le_of_not_lt fun early => going ⟨waits, early⟩
      refine ⟨[⟨s.clock, s₁.clock, x⟩], _, s₁, pollFrom_exec_last checked expires n,
        pollFrom_exec_last recorded expires n, .last ?_, ?_, fun h => nomatch h⟩
      · intro waits
        have late := expires waits
        omega
      · intro t ht
        rw [List.mem_singleton.1 ht]
        exact found

theorem nanos_le_of_instant (instant : later = now) : now.nanos ≤ later.nanos :=
  Nat.le_of_eq (congrArg Duration.nanos instant.symm)

variable (what) in
theorem poll_course (answers : check.Answers C)
    (forward : ∀ now x later, C now x later → now.nanos ≤ later.nanos) (s : Session σ) :
    ∃ r s', (poll what l check).exec s = (r, s') ∧
      (poll what l check.recorded).exec (s.recording []) =
        (r, s'.recording (pollTrials what l check s)) ∧
      Course what l s.clock s.clock (pollTrials what l check s) r s'.clock ∧
      (∀ t ∈ pollTrials what l check s, C t.start t.finding t.finish) ∧
      (r = .error .stalled → (pollTrials what l check s).length = l.checks s.patience) := by
  obtain ⟨made, r, s', ended, recorded, course, founds, all⟩ :=
    pollFrom_course what (l := l) answers forward (l.checks s.patience) s []
      (Nat.le_refl s.clock.nanos)
  have record : pollTrials what l check s = made := by
    unfold pollTrials
    rw [poll_exec]
    exact congrArg (fun p => p.2.world.2) recorded
  rw [record, poll_exec, poll_exec]
  exact ⟨r, s', ended, recorded, course, founds, all⟩

namespace Course

/-- All checks but the last one leave the poll open; the last one says how it ends. -/
theorem ended (h : Course what l start now made r later) {x : Except Fault α} (hr : r = .ok x) :
    ∃ earlier last, made = earlier ++ [last] ∧
      (∀ t ∈ earlier, t.verdict = .notYet ∧ t.finish.nanos < start.nanos + l.timeout.nanos) ∧
      x = last.verdict.outcome what l.timeout ∧
      (last.verdict = .notYet → start.nanos + l.timeout.nanos ≤ last.finish.nanos) := by
  induction h with
  | stalled => cases hr
  | last expires =>
    cases hr
    refine ⟨[], _, rfl, ?_, rfl, expires⟩
    intro t ht
    cases ht
  | again waits early _ ih =>
    obtain ⟨earlier, last, rfl, open_, outcome, expires⟩ := ih hr
    exact ⟨_ :: earlier, last, rfl, List.forall_mem_cons.2 ⟨⟨waits, early⟩, open_⟩, outcome,
      expires⟩

theorem halted (h : Course what l start now made r later) {halt : Halt} (hr : r = .error halt) :
    halt = .stalled ∧
      ∀ t ∈ made, t.verdict = .notYet ∧ t.finish.nanos < start.nanos + l.timeout.nanos := by
  induction h with
  | stalled =>
    cases hr
    refine ⟨rfl, ?_⟩
    intro t ht
    cases ht
  | last => cases hr
  | again waits early _ ih =>
    obtain ⟨stalled, open_⟩ := ih hr
    exact ⟨stalled, List.forall_mem_cons.2 ⟨⟨waits, early⟩, open_⟩⟩

/-- When each pause brings the poll nearer to its limit by a stride, or up to it, so many strides
bound the checks. -/
theorem length_le (stride n : Nat) (h : Course what l start now made r later)
    (after : start.nanos ≤ now.nanos) (forward : ∀ t ∈ made, t.start.nanos ≤ t.finish.nanos)
    (strides : ∀ t ∈ made, t.verdict = .notYet →
      t.finish.nanos < start.nanos + l.timeout.nanos → start.nanos ≤ t.finish.nanos →
      min l.timeout.nanos (t.finish.nanos - start.nanos + stride) ≤
        (Timer.fires t.finish (l.pause (t.finish.remaining start))).nanos - start.nanos)
    (near : l.timeout.nanos ≤ now.nanos - start.nanos + n * stride) :
    made.length ≤ n + 1 ∧ (r = .error .stalled → made.length ≤ n) := by
  induction h generalizing n with
  | stalled => exact ⟨Nat.zero_le _, fun _ => Nat.zero_le _⟩
  | last => exact ⟨Nat.succ_le_succ (Nat.zero_le _), fun h => nomatch h⟩
  | @again now middle later x made r waits early rest ih =>
    obtain ⟨first, others⟩ := List.forall_mem_cons.1 forward
    obtain ⟨pause, pauses⟩ := List.forall_mem_cons.1 strides
    have passed : now.nanos ≤ middle.nanos := first
    have paused := pause waits early (Nat.le_trans after passed)
    have fires := Timer.le_fires_now middle (l.pause (middle.remaining start))
    cases n with
    | zero => omega
    | succ n =>
      rw [Nat.succ_mul] at near
      dsimp only at paused
      obtain ⟨most, stalled⟩ := ih n (by omega) others pauses (by omega)
      exact ⟨Nat.succ_le_succ most, fun h => Nat.succ_le_succ (stalled h)⟩

end Course

variable (what) in
/-- With an interval a poll comes to an end, whatever its checks find and however long they take. -/
theorem poll_ends (answers : check.Answers C)
    (forward : ∀ now x later, C now x later → now.nanos ≤ later.nanos)
    (interval : 0 < l.interval.nanos) (s : Session σ) :
    ∃ r s', (poll what l check).exec s = (.ok r, s') ∧
      (poll what l check.recorded).exec (s.recording []) =
        (.ok r, s'.recording (pollTrials what l check s)) ∧
      Course what l s.clock s.clock (pollTrials what l check s) (.ok r) s'.clock ∧
      (∀ t ∈ pollTrials what l check s, C t.start t.finding t.finish) ∧
      (pollTrials what l check s).length ≤ l.checks s.patience := by
  obtain ⟨r, s', ended, recorded, course, founds, all⟩ :=
    poll_course what (l := l) answers forward s
  obtain ⟨n, fuel, -, near⟩ := PollLimits.checks_of_interval interval s.patience
  obtain ⟨most, stalled⟩ := course.length_le l.longestSleep n (Nat.le_refl _)
    (fun t ht => forward _ _ _ (founds t ht)) (fun _ _ _ _ after => PollLimits.elapsed_pause after)
    (by omega)
  rw [fuel] at all ⊢
  cases r with
  | ok r => exact ⟨r, s', ended, recorded, course, founds, most⟩
  | error halt =>
    obtain ⟨rfl, -⟩ := course.halted rfl
    have many := all rfl
    have few := stalled rfl
    omega

/-! ### Exact pauses -/

/-- Between the checks that were made, the poll sleeps just as long as it means to. -/
def PollLimits.Exact (l : PollLimits) (start : Duration) (made : List (Trial α)) : Prop :=
  ∀ t ∈ made, t.verdict = .notYet → t.finish.nanos < start.nanos + l.timeout.nanos →
    Timer.Exact t.finish (l.pause (t.finish.remaining start))

/-- An exact pause lasts for the interval, or up to the limit. -/
theorem PollLimits.fires_of_exact (exact : Timer.Exact now (l.pause (now.remaining start)))
    (after : start.nanos ≤ now.nanos) (early : now.nanos < start.nanos + l.timeout.nanos) :
    (Timer.fires now (l.pause (now.remaining start))).nanos =
      start.nanos + min (now.nanos - start.nanos + l.interval.nanos) l.timeout.nanos := by
  rw [exact]
  simp only [pause, Duration.remaining]
  omega

namespace Course

theorem start_le (h : Course what l start now made r later) (exact : l.Exact start made)
    (after : start.nanos ≤ now.nanos) (forward : ∀ t ∈ made, t.start.nanos ≤ t.finish.nanos)
    (within : now.nanos ≤ start.nanos + l.timeout.nanos) :
    ∀ t ∈ made, t.start.nanos ≤ start.nanos + l.timeout.nanos := by
  induction h with
  | stalled =>
    intro t ht
    cases ht
  | last =>
    intro t ht
    rw [List.mem_singleton.1 ht]
    exact within
  | @again now middle later x made r waits early rest ih =>
    obtain ⟨first, others⟩ := List.forall_mem_cons.1 forward
    obtain ⟨pause, pauses⟩ := List.forall_mem_cons.1 exact
    have passed : now.nanos ≤ middle.nanos := first
    have paused : Timer.Exact middle (l.pause (middle.remaining start)) := pause waits early
    have fires := PollLimits.fires_of_exact paused (Nat.le_trans after passed) early
    have later := ih pauses (by omega) others (by omega)
    exact List.forall_mem_cons.2 ⟨within, later⟩

/-- Exact pauses bound the checks by the intervals that fit into the limit. -/
theorem length_le_of_exact {n : Nat} (h : Course what l start now made r later)
    (exact : l.Exact start made) (after : start.nanos ≤ now.nanos)
    (forward : ∀ t ∈ made, t.start.nanos ≤ t.finish.nanos)
    (near : l.timeout.nanos ≤ n * l.interval.nanos) : made.length ≤ n + 1 := by
  refine (h.length_le l.interval.nanos n after forward ?_ (by omega)).1
  intro t ht waits early passed
  have fires := PollLimits.fires_of_exact (exact t ht waits early) passed early
  omega

/-- On whole milliseconds, up to the horizon of the clock, every pause is exact. -/
theorem exact_of_whole (h : Course what l start now made r later)
    (after : start.nanos ≤ now.nanos) (forward : ∀ t ∈ made, t.start.nanos ≤ t.finish.nanos)
    (checks : ∀ t ∈ made, Duration.millisecond ∣ t.start.nanos →
      Duration.millisecond ∣ t.finish.nanos)
    (begun : Duration.millisecond ∣ start.nanos) (whole : Duration.millisecond ∣ now.nanos)
    (timeout : Duration.millisecond ∣ l.timeout.nanos)
    (interval : Duration.millisecond ∣ l.interval.nanos)
    (countable : Timer.isCountable ⟨start.nanos + l.timeout.nanos⟩ = true) :
    l.Exact start made := by
  induction h with
  | stalled =>
    intro t ht
    cases ht
  | last expires =>
    intro t ht waits early
    rw [List.mem_singleton.1 ht] at waits early
    have late := expires waits
    dsimp only at early
    omega
  | @again now middle later x made r waits early rest ih =>
    obtain ⟨first, others⟩ := List.forall_mem_cons.1 forward
    obtain ⟨check, checks⟩ := List.forall_mem_cons.1 checks
    have passed : now.nanos ≤ middle.nanos := first
    have ended : Duration.millisecond ∣ middle.nanos := check whole
    have elapsed : Duration.millisecond ∣ (middle.remaining start).nanos :=
      Nat.dvd_sub ended begun
    have paused := PollLimits.dvd_pause timeout interval elapsed
    have short : middle.nanos + (l.pause (middle.remaining start)).nanos ≤
        start.nanos + l.timeout.nanos := by
      simp only [PollLimits.pause, Duration.remaining]
      omega
    have fires : Timer.Exact middle (l.pause (middle.remaining start)) :=
      Timer.fires_of_whole ended paused (Timer.isCountable_of_le short countable)
    have next : Duration.millisecond ∣
        (Timer.fires middle (l.pause (middle.remaining start))).nanos := by
      rw [fires]
      exact Nat.dvd_add ended paused
    have wakes := Timer.le_fires_now middle (l.pause (middle.remaining start))
    exact List.forall_mem_cons.2 ⟨fun _ _ => fires, ih (by omega) others checks next⟩

end Course

/-- A poll in whole milliseconds of checks that take whole milliseconds has exact pauses. -/
theorem PollLimits.exact_of_whole {s : Session σ} (answers : check.Answers C)
    (forward : ∀ now x later, C now x later → now.nanos ≤ later.nanos)
    (whole : ∀ now x later, C now x later → Duration.millisecond ∣ now.nanos →
      Duration.millisecond ∣ later.nanos)
    (begun : Duration.millisecond ∣ s.clock.nanos)
    (timeout : Duration.millisecond ∣ l.timeout.nanos)
    (interval : Duration.millisecond ∣ l.interval.nanos)
    (countable : Timer.isCountable ⟨s.clock.nanos + l.timeout.nanos⟩ = true) :
    l.Exact s.clock (pollTrials what l check s) := by
  obtain ⟨r, s', -, -, course, founds, -⟩ :=
    poll_course what (l := l) answers forward s
  exact course.exact_of_whole (Nat.le_refl _) (fun t ht => forward _ _ _ (founds t ht))
    (fun t ht => whole _ _ _ (founds t ht)) begun begun timeout interval countable

end Polls

end ProvingGround
