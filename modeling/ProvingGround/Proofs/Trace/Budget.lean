import ProvingGround.Proofs.Trace.Time

/-!
# What tasks spend

Where services answer without delay, time passes in sleeps only. What a task spends are calls and
time. Its calls are bounded whatever timers do, and its time is when the timers that it sets are
exact; which timers these are is told by the history.
-/

namespace ProvingGround

variable {σ α β : Type}

/-- No answer takes any time. -/
def Prompt (σ : Type) [Services σ] : Prop :=
  ∀ (w : σ) (now : Duration) (c : Call), (Services.respond w now c).1.delay = .zero

/-! ### Timers of polls -/

theorem Timer.add_min_le_fires (now span : Duration) :
    now.nanos + min span.nanos farSpan.nanos ≤ (fires now span).nanos := by
  cases countable : isCountable ⟨now.nanos + span.nanos⟩ with
  | true =>
    have late := le_fires countable
    omega
  | false =>
    simp only [fires, countable, Bool.false_eq_true, if_false]
    omega

theorem Timer.isCountable_of_le {c d : Duration} (le : c.nanos ≤ d.nanos)
    (countable : isCountable d = true) : isCountable c = true := by
  have near : d.seconds < horizon := of_decide_eq_true countable
  exact decide_eq_true (Nat.lt_of_le_of_lt (Nat.div_le_div_right le) near)

namespace PollLimits

/-- The timers of such a poll are exact, wherever in the history it began and a check ended. -/
def Timely (l : PollLimits) (h : List Event) : Prop :=
  ∀ d ∈ h, ∀ e ∈ h, d.clock.nanos ≤ e.clock.nanos →
    e.clock.nanos < d.clock.nanos + l.timeout.nanos →
    Timer.Exact e.clock (l.pause (e.clock.remaining d.clock))

variable {l : PollLimits}

theorem Timely.earlier {h h' : List Event} (timely : l.Timely h') (before : h <+: h') :
    l.Timely h :=
  fun d hd e he => timely d (before.subset hd) e (before.subset he)

theorem longestSleep_pos (interval : 0 < l.interval.nanos) : 0 < l.longestSleep := by
  have far : 0 < Timer.farSpan.nanos := by decide
  unfold longestSleep
  omega

theorem dvd_pause {unit : Nat} {elapsed : Duration} (timeout : unit ∣ l.timeout.nanos)
    (interval : unit ∣ l.interval.nanos) (passed : unit ∣ elapsed.nanos) :
    unit ∣ (l.pause elapsed).nanos := by
  simp only [pause, Duration.remaining, Nat.min_def]
  split
  · exact interval
  · exact Nat.dvd_sub timeout passed

/-- With an interval the number of checks does not depend on patience, and sleeps between so many
reach the limit. -/
theorem checks_of_interval (interval : 0 < l.interval.nanos) (patience : Nat) :
    ∃ n, l.checks patience = n + 1 ∧ l.checks 0 = n + 1 ∧
      l.timeout.nanos ≤ n * l.longestSleep := by
  have sleep := longestSleep_pos interval
  refine ⟨(l.timeout.nanos + l.longestSleep - 1) / l.longestSleep, ?_, ?_, ?_⟩
  · unfold checks
    rw [if_neg (by omega)]
  · unfold checks
    rw [if_neg (by omega)]
  · have quotient := Nat.div_add_mod (l.timeout.nanos + l.longestSleep - 1) l.longestSleep
    have rest := Nat.mod_lt (l.timeout.nanos + l.longestSleep - 1) sleep
    rw [Nat.mul_comm]
    omega

/-- A pause brings a poll nearer to its limit by the longest sleep, or up to the limit. -/
theorem elapsed_pause {now start : Duration} (after : start.nanos ≤ now.nanos) :
    min l.timeout.nanos (now.nanos - start.nanos + l.longestSleep) ≤
      (Timer.fires now (l.pause (now.remaining start))).nanos - start.nanos := by
  have fires := Timer.add_min_le_fires now (l.pause (now.remaining start))
  have far : 0 < Timer.farSpan.nanos := by decide
  simp only [pause, Duration.remaining, longestSleep] at fires ⊢
  omega

end PollLimits

/-! ### Sessions -/

/-- An assumption about the history of a run, which holds of it up to any moment when it holds of it
in the end. -/
structure Proviso where
  met : List Event → Prop
  before {h h' : List Event} : h <+: h' → met h' → met h

namespace Session

variable {p : Proviso} {k d k' d' : Nat} {s s' s'' : Session σ}

/-- No time has passed, and not more than `k` calls have been made. -/
structure Stood (k : Nat) (s s' : Session σ) : Prop where
  clock : s'.clock = s.clock
  history : s.history <+: s'.history
  calls : s'.calls.length ≤ s.calls.length + k

/-- Not more than `k` calls have been made, and when the proviso is met, not more than `d`
nanoseconds have passed. -/
structure Spent (p : Proviso) (k d : Nat) (s s' : Session σ) : Prop where
  history : s.history <+: s'.history
  calls : s'.calls.length ≤ s.calls.length + k
  time : p.met s'.history → s'.clock.nanos ≤ s.clock.nanos + d

theorem Stood.refl (s : Session σ) : s.Stood 0 s := ⟨rfl, List.prefix_rfl, Nat.le_refl _⟩

theorem Stood.trans (h : s.Stood k s') (h' : s'.Stood k' s'') : s.Stood (k + k') s'' := by
  have calls := h.calls
  have calls' := h'.calls
  exact ⟨h'.clock.trans h.clock, h.history.trans h'.history, by omega⟩

theorem Stood.mono (h : s.Stood k s') (le : k ≤ k') : s.Stood k' s' :=
  ⟨h.clock, h.history, Nat.le_trans h.calls (Nat.add_le_add_left le _)⟩

theorem Stood.spent (h : s.Stood k s') : s.Spent p k 0 s' :=
  ⟨h.history, h.calls, fun _ => Nat.le_of_eq (congrArg Duration.nanos h.clock)⟩

theorem Stood.note {e : Event} (s : Session σ) (silent : e.call? = none) :
    s.Stood 0 (s.note e) := by
  refine ⟨rfl, ?_, ?_⟩
  · rw [history_note]
    exact List.prefix_append _ _
  · unfold Session.calls
    rw [history_note, List.filterMap_append, List.filterMap_cons_none silent, List.filterMap_nil,
      List.append_nil]
    exact Nat.le_refl _

theorem Stood.exchange [Services σ] (prompt : Prompt σ) (c : Call) (s : Session σ) :
    s.Stood 1 (Act.exchange .exchanged c s).2 ∧
      ∃ e ∈ (Act.exchange .exchanged c s).2.history, e.clock = s.clock := by
  have history : ∃ e : Event, (Act.exchange .exchanged c s).2.history = s.history ++ [e] ∧
      e.clock = s.clock := ⟨_, history_note _ _, rfl⟩
  obtain ⟨e, history, now⟩ := history
  refine ⟨⟨?_, ?_, ?_⟩, e, ?_, now⟩
  · have clock : (Act.exchange .exchanged c s).2.clock =
        ⟨s.clock.nanos + (Services.respond s.world s.clock c).1.delay.nanos⟩ := rfl
    rw [clock, prompt]
    rfl
  · rw [history]
    exact List.prefix_append _ _
  · have made := List.length_filterMap_le Event.call? [e]
    unfold Session.calls
    rw [history, List.filterMap_append, List.length_append]
    exact Nat.add_le_add_left made _
  · rw [history]
    exact List.mem_append_right _ List.mem_cons_self

theorem Spent.trans (h : s.Spent p k d s') (h' : s'.Spent p k' d' s'') :
    s.Spent p (k + k') (d + d') s'' := by
  have calls := h.calls
  have calls' := h'.calls
  refine ⟨h.history.trans h'.history, by omega, fun met => ?_⟩
  have time := h.time (p.before h'.history met)
  have time' := h'.time met
  omega

theorem Spent.mono (h : s.Spent p k d s') (calls : k ≤ k') (time : d ≤ d') :
    s.Spent p k' d' s' :=
  ⟨h.history, Nat.le_trans h.calls (Nat.add_le_add_left calls _),
    fun met => Nat.le_trans (h.time met) (Nat.add_le_add_left time _)⟩

end Session

/-! ### Tasks -/

namespace Task

variable {p : Proviso} {k d k' d' : Nat}

/-- The task comes to an end at once, after `k` calls at most. -/
def Instant (k : Nat) (t : Task σ α) : Prop :=
  ∀ s : Session σ, ∃ r s', t.exec s = (.ok r, s') ∧ s.Stood k s'

/-- The task comes to an end at once, after `k` calls at most; something has happened by then. -/
def Glances (k : Nat) (t : Task σ α) : Prop :=
  ∀ s : Session σ, ∃ r s', t.exec s = (.ok r, s') ∧ s.Stood k s' ∧
    ∃ e ∈ s'.history, e.clock = s.clock

/-- The task comes to an end, after `k` calls at most, and in `d` nanoseconds when the proviso is
met. -/
def Spends (p : Proviso) (k d : Nat) (t : Task σ α) : Prop :=
  ∀ s : Session σ, ∃ r s', t.exec s = (.ok r, s') ∧ s.Spent p k d s'

theorem instant_pure (v : α) : (pure v : Task σ α).Instant 0 := fun s => ⟨_, s, rfl, .refl s⟩

theorem instant_throw (f : Fault) : (throw f : Task σ α).Instant 0 := fun s => ⟨_, s, rfl, .refl s⟩

theorem instant_clock : (clock : Task σ Duration).Instant 0 := fun s => ⟨_, s, rfl, .refl s⟩

theorem instant_today : (lift Act.today : Task σ Timestamp).Instant 0 :=
  fun s => ⟨_, s, rfl, .refl s⟩

theorem instant_ofConfig (x : Except ConfigCause α) : (ofConfig x : Task σ α).Instant 0 := by
  cases x with
  | ok v => exact instant_pure v
  | error c => exact instant_throw _

theorem glances_call [Services σ] (prompt : Prompt σ) (c : Call) :
    (call c : Task σ c.Answer).Glances 1 := by
  intro s
  obtain ⟨stood, made⟩ := Session.Stood.exchange prompt c s
  exact ⟨_, _, exec_call c s, stood, made⟩

theorem Glances.instant {t : Task σ α} (h : t.Glances k) : t.Instant k := by
  intro s
  obtain ⟨r, s', ended, stood, -⟩ := h s
  exact ⟨r, s', ended, stood⟩

theorem Instant.mono {t : Task σ α} (h : t.Instant k) (le : k ≤ k') : t.Instant k' := by
  intro s
  obtain ⟨r, s', ended, stood⟩ := h s
  exact ⟨r, s', ended, stood.mono le⟩

theorem Instant.bind {t : Task σ α} {u : α → Task σ β} (ht : t.Instant k)
    (hu : ∀ v, (u v).Instant k') : (t >>= u).Instant (k + k') := by
  intro s
  obtain ⟨r, s₁, first, stood⟩ := ht s
  rw [exec_bind, first]
  cases r with
  | error f => exact ⟨_, s₁, rfl, stood.mono (Nat.le_add_right _ _)⟩
  | ok v =>
    obtain ⟨r', s₂, rest, stood'⟩ := hu v s₁
    exact ⟨r', s₂, rest, stood.trans stood'⟩

theorem Glances.bind {t : Task σ α} {u : α → Task σ β} (ht : t.Glances k)
    (hu : ∀ v, (u v).Instant k') : (t >>= u).Glances (k + k') := by
  intro s
  obtain ⟨r, s₁, first, stood, e, made, now⟩ := ht s
  rw [exec_bind, first]
  cases r with
  | error f => exact ⟨_, s₁, rfl, stood.mono (Nat.le_add_right _ _), e, made, now⟩
  | ok v =>
    obtain ⟨r', s₂, rest, stood'⟩ := hu v s₁
    exact ⟨r', s₂, rest, stood.trans stood', e, stood'.history.subset made, now⟩

theorem Instant.spends {t : Task σ α} (h : t.Instant k) : t.Spends p k 0 := by
  intro s
  obtain ⟨r, s', ended, stood⟩ := h s
  exact ⟨r, s', ended, stood.spent⟩

theorem Spends.mono {t : Task σ α} (h : t.Spends p k d) (calls : k ≤ k') (time : d ≤ d') :
    t.Spends p k' d' := by
  intro s
  obtain ⟨r, s', ended, spent⟩ := h s
  exact ⟨r, s', ended, spent.mono calls time⟩

theorem Spends.bind {t : Task σ α} {u : α → Task σ β} (ht : t.Spends p k d)
    (hu : ∀ v, (u v).Spends p k' d') : (t >>= u).Spends p (k + k') (d + d') := by
  intro s
  obtain ⟨r, s₁, first, spent⟩ := ht s
  rw [exec_bind, first]
  cases r with
  | error f => exact ⟨_, s₁, rfl, spent.mono (Nat.le_add_right _ _) (Nat.le_add_right _ _)⟩
  | ok v =>
    obtain ⟨r', s₂, rest, spent'⟩ := hu v s₁
    exact ⟨r', s₂, rest, spent.trans spent'⟩

theorem Instant.seq {t : Task σ α} {u : α → Task σ β} (ht : t.Instant k)
    (hu : ∀ v, (u v).Spends p k' d) : (t >>= u).Spends p (k + k') d :=
  (ht.spends.bind hu).mono (Nat.le_refl _) (Nat.le_of_eq (Nat.zero_add d))

/-! A task may be followed by what spends nothing. -/

theorem Instant.done {t : Task σ α} {u : α → Task σ β} (ht : t.Instant k)
    (hu : ∀ v, (u v).Instant 0) : (t >>= u).Instant k := ht.bind hu

theorem Glances.done {t : Task σ α} {u : α → Task σ β} (ht : t.Glances k)
    (hu : ∀ v, (u v).Instant 0) : (t >>= u).Glances k := ht.bind hu

theorem Spends.done {t : Task σ α} {u : α → Task σ β} (ht : t.Spends p k d)
    (hu : ∀ v, (u v).Instant 0) : (t >>= u).Spends p k d := ht.bind fun v => (hu v).spends

theorem Spends.lift_attempt {t : Task σ α} (h : t.Spends p k d) :
    (lift t.attempt).Spends p k d := by
  intro s
  obtain ⟨r, s', ended, spent⟩ := h s
  have attempt : t.attempt.exec s = (.ok r, s') := ended
  refine ⟨.ok r, s', ?_, spent⟩
  rw [exec_lift, attempt]
  rfl

end Task

/-! ### Polls -/

section Polls

variable {p : Proviso} {k : Nat} {l : PollLimits} {start : Duration}
  {check : Task σ (Option α)} {s : Session σ}

/-- A check ends the poll, or the poll goes on after a pause; the limit is not reached then. -/
theorem pollFrom_goes (checks : check.Glances k) (what : String) (l : PollLimits)
    (start : Duration) (s : Session σ) :
    ∃ s₁, s.Stood k s₁ ∧ (∃ e ∈ s₁.history, e.clock = s.clock) ∧
      ((∃ r, ∀ n, (pollFrom what l start check (n + 1)).exec s = (.ok r, s₁)) ∨
        s.clock.nanos - start.nanos < l.timeout.nanos ∧
          ∀ n, (pollFrom what l start check (n + 1)).exec s =
            (pollFrom what l start check n).exec
              { s₁ with clock := Timer.fires s.clock (l.pause (s.clock.remaining start)) }) := by
  obtain ⟨x, s₁, checked, stood, made⟩ := checks s
  refine ⟨s₁, stood, made, ?_⟩
  rw [← stood.clock]
  by_cases going : Verdict.of x = .notYet ∧ s₁.clock.nanos - start.nanos < l.timeout.nanos
  · exact .inr ⟨going.2, pollFrom_exec_again checked going.1 going.2⟩
  · have expires : Verdict.of x = .notYet → l.timeout.nanos ≤ s₁.clock.nanos - start.nanos :=
      fun waits => Nat.le_of_not_lt fun early => going ⟨waits, early⟩
    exact .inl ⟨_, pollFrom_exec_last checked expires⟩

/-- A poll that may make `n + 1` checks more, and whose limit is `n` of the longest sleeps away or
nearer, comes to an end; it does so at its limit or before. -/
theorem pollFrom_spends (what : String) (checks : check.Glances k)
    (timely : ∀ h, p.met h → l.Timely h) (n : Nat) (after : start.nanos ≤ s.clock.nanos)
    (begun : start = s.clock ∨ ∃ d ∈ s.history, d.clock = start)
    (near : l.timeout.nanos ≤ s.clock.nanos - start.nanos + n * l.longestSleep) :
    ∃ r s', (pollFrom what l start check (n + 1)).exec s = (.ok r, s') ∧
      s.history <+: s'.history ∧ s'.calls.length ≤ s.calls.length + (n + 1) * k ∧
      (p.met s'.history → s.clock.nanos ≤ start.nanos + l.timeout.nanos →
        s'.clock.nanos ≤ start.nanos + l.timeout.nanos) := by
  induction n generalizing s with
  | zero =>
    obtain ⟨s₁, stood, -, ⟨r, ended⟩ | ⟨open_, -⟩⟩ := pollFrom_goes checks what l start s
    · refine ⟨r, s₁, ended 0, stood.history, ?_, fun _ within => ?_⟩
      · rw [Nat.one_mul]
        exact stood.calls
      · rw [stood.clock]
        exact within
    · rw [Nat.zero_mul] at near
      omega
  | succ n ih =>
    obtain ⟨s₁, stood, ⟨e, made, now⟩, ⟨r, ended⟩ | ⟨open_, onwards⟩⟩ :=
      pollFrom_goes checks what l start s
    · refine ⟨r, s₁, ended _, stood.history, ?_, fun _ within => ?_⟩
      · have calls := stood.calls
        rw [Nat.succ_mul]
        omega
      · rw [stood.clock]
        exact within
    · have known : ∃ d ∈ s₁.history, d.clock = start := by
        rcases begun with rfl | ⟨d, earlier, rfl⟩
        · exact ⟨e, made, now⟩
        · exact ⟨d, stood.history.subset earlier, rfl⟩
      have paused := PollLimits.elapsed_pause (l := l) after
      have later := Timer.le_fires_now s.clock (l.pause (s.clock.remaining start))
      rw [Nat.succ_mul] at near
      obtain ⟨r, s', ended, history, calls, time⟩ := ih
        (s := { s₁ with clock := Timer.fires s.clock (l.pause (s.clock.remaining start)) })
        (Nat.le_trans after later) (.inr known) (by dsimp only; omega)
      have history : s₁.history <+: s'.history := history
      have calls : s'.calls.length ≤ s₁.calls.length + (n + 1) * k := calls
      refine ⟨r, s', (onwards _).trans ended, stood.history.trans history, ?_, fun met _ => ?_⟩
      · have before := stood.calls
        rw [Nat.succ_mul]
        omega
      · apply time met
        obtain ⟨d, earlier, rfl⟩ := known
        have exact := timely _ met d (history.subset earlier) e (history.subset made)
        rw [now] at exact
        have fires : Timer.fires s.clock (l.pause (s.clock.remaining d.clock)) = _ :=
          exact after (by omega)
        rw [fires]
        simp only [PollLimits.pause, Duration.remaining]
        omega

theorem poll_spends (what : String) (checks : check.Glances k) (interval : 0 < l.interval.nanos)
    (timely : ∀ h, p.met h → l.Timely h) :
    (poll what l check).Spends p (l.checks 0 * k) l.timeout.nanos := by
  intro s
  obtain ⟨n, fuel, most, near⟩ := PollLimits.checks_of_interval interval s.patience
  obtain ⟨r, s', ended, history, calls, time⟩ := pollFrom_spends what checks timely n
    (Nat.le_refl s.clock.nanos) (.inl rfl) (Nat.le_trans near (Nat.le_add_left _ _))
  refine ⟨r, s', ?_, history, ?_, fun met => time met (Nat.le_add_right _ _)⟩
  · rw [poll_exec, fuel]
    exact ended
  · rw [most]
    exact calls

end Polls

end ProvingGround
