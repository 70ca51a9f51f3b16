import ProvingGround.Proofs.Polling

/-!
# When polls succeed

A condition that holds from an instant on is looked at whenever an interval has passed, and once
more at the limit. A poll of it succeeds at the first of these looks that is not too early, or
expires just at the limit.
-/

namespace ProvingGround

variable {σ α : Type}

/-! ### Turns -/

namespace PollLimits

variable {l : PollLimits} {t e : Nat}

theorem dvd_turn (l : PollLimits) (t : Nat) : l.interval.nanos ∣ l.turn t := Nat.dvd_mul_left _ _

/-- A turn that is not before so much time is not before its turn either. -/
theorem turn_le (interval : 0 < l.interval.nanos) (multiple : l.interval.nanos ∣ e) (le : t ≤ e) :
    l.turn t ≤ e := by
  obtain ⟨k, rfl⟩ := multiple
  have quotient : (t + l.interval.nanos - 1) / l.interval.nanos < k + 1 := by
    apply Nat.div_lt_of_lt_mul
    rw [Nat.mul_succ]
    omega
  have turns := Nat.mul_le_mul_right l.interval.nanos (Nat.le_of_lt_succ quotient)
  rw [Nat.mul_comm k] at turns
  exact turns

theorem add_le_turn (interval : 0 < l.interval.nanos) (multiple : l.interval.nanos ∣ e)
    (lt : e < t) : e + l.interval.nanos ≤ l.turn t := by
  have later := Nat.lt_of_lt_of_le lt (le_turn (l := l) interval)
  obtain ⟨m, turn⟩ := l.dvd_turn t
  obtain ⟨k, rfl⟩ := multiple
  rw [turn] at later ⊢
  have turns := Nat.mul_le_mul_left l.interval.nanos
    (Nat.succ_le_of_lt (Nat.lt_of_mul_lt_mul_left later))
  rw [Nat.mul_succ] at turns
  exact turns

/-- The times after the start at which a poll looks whose looks take no time. -/
def IsLook (l : PollLimits) (e : Nat) : Prop :=
  e ≤ l.timeout.nanos ∧ (l.interval.nanos ∣ e ∨ e = l.timeout.nanos)

namespace IsLook

theorem next (look : l.IsLook e) (early : e < l.timeout.nanos) :
    l.IsLook (min (e + l.interval.nanos) l.timeout.nanos) := by
  obtain ⟨-, multiple | limit⟩ := look
  · by_cases within : e + l.interval.nanos ≤ l.timeout.nanos
    · rw [Nat.min_eq_left within]
      exact ⟨within, .inl (Nat.dvd_add multiple (Nat.dvd_refl _))⟩
    · rw [Nat.min_eq_right (Nat.le_of_not_le within)]
      exact ⟨Nat.le_refl _, .inr rfl⟩
  · omega

/-- The look after one that was too early is not later than the turn. -/
theorem next_le_turn (look : l.IsLook e) (early : e < l.timeout.nanos)
    (interval : 0 < l.interval.nanos) (lt : e < t) :
    min (e + l.interval.nanos) l.timeout.nanos ≤ l.turn t := by
  obtain ⟨-, multiple | limit⟩ := look
  · have turn := add_le_turn interval multiple lt
    omega
  · omega

theorem eq_min (look : l.IsLook e) (interval : 0 < l.interval.nanos) (le : t ≤ e)
    (turn : e ≤ l.turn t) : e = min (l.turn t) l.timeout.nanos := by
  obtain ⟨within, multiple | limit⟩ := look
  · have least := turn_le interval multiple le
    omega
  · omega

end IsLook

end PollLimits

/-! ### Looks -/

/-- What a look at a condition finds that holds from so long after the start on, or never. A look
takes no time. -/
structure Sees (start : Duration) (since : Option Nat) (now : Duration)
    (x : Except Fault (Option α)) (later : Duration) : Prop where
  instant : later = now
  ready : ∀ t ∈ since, start.nanos + t ≤ now.nanos → ∃ v, x = .ok (some v)
  waits : (∀ t ∈ since, now.nanos < start.nanos + t) → Verdict.of x = .notYet

theorem Sees.holds_or_waits {start now later : Duration} {since : Option Nat}
    {x : Except Fault (Option α)} (sees : Sees start since now x later) :
    (∃ t ∈ since, start.nanos + t ≤ now.nanos ∧ ∃ v, Verdict.of x = .ready v) ∨
      (∀ t ∈ since, now.nanos < start.nanos + t) ∧ Verdict.of x = .notYet := by
  by_cases holds : ∃ t ∈ since, start.nanos + t ≤ now.nanos
  · obtain ⟨t, since, come⟩ := holds
    obtain ⟨v, rfl⟩ := sees.ready t since come
    exact .inl ⟨t, since, come, v, rfl⟩
  · have soon : ∀ t ∈ since, now.nanos < start.nanos + t :=
      fun t since => Nat.lt_of_not_le fun come => holds ⟨t, since, come⟩
    exact .inr ⟨soon, sees.waits soon⟩

namespace Course

variable {what : String} {l : PollLimits} {start now later : Duration} {made : List (Trial α)}
  {r : Task.Ending α} {since : Option Nat}

/-- From a look on that no look before has made needless, a poll succeeds on time or expires at the
limit. -/
theorem on_time (h : Course what l start now made r later) (interval : 0 < l.interval.nanos)
    (exact : l.Exact start made)
    (sees : ∀ t ∈ made, Sees start since t.start t.finding t.finish)
    (after : start.nanos ≤ now.nanos) (look : l.IsLook (now.nanos - start.nanos))
    (pending : ∀ t ∈ since, now.nanos - start.nanos ≤ l.turn t)
    {x : Except Fault α} (hr : r = .ok x) :
    (∃ t ∈ since, t ≤ l.timeout.nanos ∧ (∃ v, x = .ok v) ∧
      later.nanos = start.nanos + min (l.turn t) l.timeout.nanos) ∨
    (∀ t ∈ since, l.timeout.nanos < t) ∧ x = .error (.readinessTimeout what l.timeout) ∧
      later.nanos = start.nanos + l.timeout.nanos := by
  induction h with
  | stalled => cases hr
  | @last now later y expires =>
    cases hr
    have sees : Sees start since now y later := sees _ List.mem_cons_self
    obtain rfl := sees.instant
    have within := look.1
    obtain ⟨t, since, come, v, ready⟩ | ⟨soon, waits⟩ := sees.holds_or_waits
    · have elapsed := look.eq_min (t := t) interval (by omega) (pending t since)
      rw [ready]
      exact .inl ⟨t, since, by omega, ⟨v, rfl⟩, by omega⟩
    · have late := expires waits
      rw [waits]
      refine .inr ⟨?_, rfl, by omega⟩
      intro t since
      have soon := soon t since
      omega
  | @again now middle later y made r waits early rest ih =>
    obtain ⟨first, others⟩ := List.forall_mem_cons.1 sees
    obtain ⟨pause, pauses⟩ := List.forall_mem_cons.1 exact
    have sees : Sees start since now y middle := first
    have paused : Timer.Exact middle (l.pause (middle.remaining start)) := pause waits early
    obtain rfl := sees.instant
    obtain ⟨-, -, -, v, ready⟩ | ⟨soon, -⟩ := sees.holds_or_waits
    · rw [ready] at waits
      cases waits
    · have fires := PollLimits.fires_of_exact paused after early
      have elapsed : middle.nanos - start.nanos < l.timeout.nanos := by omega
      refine ih pauses others (by omega) ?_ ?_ hr
      · rw [fires, Nat.add_sub_cancel_left]
        exact look.next elapsed
      · intro t since
        have soon := soon t since
        rw [fires, Nat.add_sub_cancel_left]
        exact look.next_le_turn elapsed interval (by omega)

end Course

/-! ### Polls -/

/-- The task succeeds when so much time has passed. -/
def Task.SucceedsAfter (t : Task σ α) (s : Session σ) (d : Nat) : Prop :=
  ∃ v s', t.exec s = (.ok (.ok v), s') ∧ s'.clock.nanos = s.clock.nanos + d

section Polls

variable (what : String) {l m : PollLimits} {check : Task σ (Option α)} {s : Session σ}
  {since : Option Nat}

theorem poll_on_time (sees : check.Answers (Sees s.clock since)) (interval : 0 < l.interval.nanos)
    (exact : l.Exact s.clock (pollTrials what l check s)) :
    (∃ t ∈ since, t ≤ l.timeout.nanos ∧
      (poll what l check).SucceedsAfter s (min (l.turn t) l.timeout.nanos)) ∨
    (∀ t ∈ since, l.timeout.nanos < t) ∧
      ∃ s', (poll what l check).exec s =
          (.ok (.error (.readinessTimeout what l.timeout)), s') ∧
        s'.clock.nanos = s.clock.nanos + l.timeout.nanos := by
  obtain ⟨r, s', ended, -, course, founds, -⟩ := poll_ends what sees
    (fun _ _ _ found => nanos_le_of_instant found.instant) interval s
  have begun : s.clock.nanos - s.clock.nanos = 0 := Nat.sub_self _
  have look : l.IsLook (s.clock.nanos - s.clock.nanos) := by
    rw [begun]
    exact ⟨Nat.zero_le _, .inl (Nat.dvd_zero _)⟩
  obtain ⟨t, since, soon, ⟨v, rfl⟩, clock⟩ | ⟨never, rfl, clock⟩ := course.on_time interval exact
    founds (Nat.le_refl _) look (fun t _ => by omega) rfl
  · exact .inl ⟨t, since, soon, v, s', ended, clock⟩
  · exact .inr ⟨never, s', ended, clock⟩

theorem poll_succeedsAfter_iff (sees : check.Answers (Sees s.clock since))
    (interval : 0 < l.interval.nanos) (exact : l.Exact s.clock (pollTrials what l check s))
    (d : Nat) :
    (poll what l check).SucceedsAfter s d ↔
      ∃ t ∈ since, t ≤ l.timeout.nanos ∧ d = min (l.turn t) l.timeout.nanos := by
  constructor
  · rintro ⟨v, s', ended, clock⟩
    obtain ⟨t, since, soon, w, s₁, ended', clock'⟩ | ⟨-, s₁, ended', -⟩ :=
      poll_on_time what sees interval exact
    · cases ended.symm.trans ended'
      exact ⟨t, since, soon, by omega⟩
    · cases ended.symm.trans ended'
  · rintro ⟨t, holds, soon, rfl⟩
    obtain ⟨u, holds', -, succeeds⟩ | ⟨never, -⟩ := poll_on_time what sees interval exact
    · cases Option.mem_unique holds holds'
      exact succeeds
    · exact absurd soon (Nat.not_le.2 (never t holds))

/-- A poll of a condition that holds from an instant on succeeds just when that instant is not after
the limit, at the next turn or at the limit; else it expires at the limit. A later limit keeps a
success, no later than at the next turn, and so does a shorter interval, as long as pauses are
exact. -/
theorem poll_succeeds_on_time (sees : check.Answers (Sees s.clock since))
    (interval : 0 < l.interval.nanos) (exact : l.Exact s.clock (pollTrials what l check s))
    (interval' : 0 < m.interval.nanos) (exact' : m.Exact s.clock (pollTrials what m check s)) :
    (∀ d, (poll what l check).SucceedsAfter s d ↔
      ∃ t ∈ since, t ≤ l.timeout.nanos ∧ d = min (l.turn t) l.timeout.nanos) ∧
    ((∀ t ∈ since, l.timeout.nanos < t) →
      ∃ s', (poll what l check).exec s =
          (.ok (.error (.readinessTimeout what l.timeout)), s') ∧
        s'.clock.nanos = s.clock.nanos + l.timeout.nanos) ∧
    (m.interval = l.interval → l.timeout.nanos ≤ m.timeout.nanos →
      ∀ d, (poll what l check).SucceedsAfter s d →
        ∃ d', (poll what m check).SucceedsAfter s d' ∧ d' ≤ l.turn d) ∧
    (m.timeout = l.timeout → m.interval.nanos ≤ l.interval.nanos →
      ∀ d, (poll what l check).SucceedsAfter s d →
        ∃ d', (poll what m check).SucceedsAfter s d') := by
  have closed := poll_succeedsAfter_iff what sees interval exact
  have closed' := poll_succeedsAfter_iff what sees interval' exact'
  refine ⟨closed, ?_, ?_, ?_⟩
  · intro never
    obtain ⟨t, since, soon, -⟩ | ⟨-, expired⟩ := poll_on_time what sees interval exact
    · exact absurd soon (Nat.not_le.2 (never t since))
    · exact expired
  · intro same longer d succeeds
    obtain ⟨t, since, soon, rfl⟩ := (closed d).1 succeeds
    have turn : m.turn t = l.turn t := by
      unfold PollLimits.turn
      rw [same]
    have next := PollLimits.le_turn (t := t) interval
    have due : l.turn t ≤ l.turn (min (l.turn t) l.timeout.nanos) :=
      PollLimits.turn_le interval (l.dvd_turn _)
        (Nat.le_trans (Nat.le_min.2 ⟨next, soon⟩) (PollLimits.le_turn interval))
    refine ⟨_, (closed' _).2 ⟨t, since, Nat.le_trans soon longer, rfl⟩, ?_⟩
    rw [turn]
    exact Nat.le_trans (Nat.min_le_left _ _) due
  · intro same _ d succeeds
    obtain ⟨t, since, soon, -⟩ := (closed d).1 succeeds
    rw [← same] at soon
    exact ⟨_, (closed' _).2 ⟨t, since, soon, rfl⟩⟩

end Polls

/-! ### A time that comes at the limit -/

theorem watch_sees (since : Duration) :
    (watch since .zero).Answers (Sees .zero (some since.nanos)) := by
  intro s
  refine ⟨_, _, exec_watch since .zero s, rfl, ?_, ?_⟩
  · rintro t ⟨⟩ come
    rw [if_pos (Nat.le_trans (Nat.le_add_left _ _) come)]
    exact ⟨(), rfl⟩
  · intro soon
    have soon := soon _ rfl
    have early : ¬ since.nanos ≤ s.clock.nanos := by
      rw [← Nat.zero_add since.nanos]
      exact Nat.not_le.2 soon
    rw [if_neg early]
    rfl

def everyThird (timeout : Nat) : PollLimits := ⟨.ofSeconds timeout, .ofSeconds 3⟩

/-- Finds that ten seconds have passed. -/
def tenthWatch : Task Unit (Option Unit) := watch (.ofSeconds 10) .zero

/-- The time comes at a limit that lies between two turns; with a later limit it is seen at the
second of these. -/
theorem poll_succeeds_on_time_at_limit :
    tenthWatch.Answers (Sees .zero (some (Duration.ofSeconds 10).nanos)) ∧
      (everyThird 10).Exact .zero (pollTrials "gate" (everyThird 10) tenthWatch idleSession) ∧
      (everyThird 20).Exact .zero (pollTrials "gate" (everyThird 20) tenthWatch idleSession) ∧
      (poll "gate" (everyThird 10) tenthWatch).SucceedsAfter idleSession
        (Duration.ofSeconds 10).nanos ∧
      ∃ d, (poll "gate" (everyThird 20) tenthWatch).SucceedsAfter idleSession d ∧
        d ≤ (Duration.ofSeconds 12).nanos := by
  have sees : tenthWatch.Answers (Sees .zero (some (Duration.ofSeconds 10).nanos)) :=
    watch_sees _
  have near : (everyThird 10).Exact .zero
      (pollTrials "gate" (everyThird 10) tenthWatch idleSession) :=
    watch_exact "gate" 10 3 10 0 (by decide +kernel)
  have far : (everyThird 20).Exact .zero
      (pollTrials "gate" (everyThird 20) tenthWatch idleSession) :=
    watch_exact "gate" 20 3 10 0 (by decide +kernel)
  obtain ⟨closed, -, longer, -⟩ := poll_succeeds_on_time "gate" (l := everyThird 10)
    (m := everyThird 20) (s := idleSession) sees (by decide) near (by decide) far
  have succeeds := (closed (Duration.ofSeconds 10).nanos).2 ⟨_, rfl, Nat.le_refl _, by decide⟩
  obtain ⟨d, succeeds', next⟩ := longer rfl (by decide) _ succeeds
  exact ⟨sees, near, far, succeeds, d, succeeds', Nat.le_trans next (by decide)⟩

end ProvingGround
