import ProvingGround.Proofs.Faltering
import ProvingGround.Proofs.Setup.Budget

/-!
# How long setup takes

Services that answer at once may say not yet, or fail, as often as they like: setup comes to an end.
-/

namespace ProvingGround

/-! ### Timers on whole milliseconds -/

theorem Timer.exact_remaining {now goal : Duration} (ahead : now.nanos ≤ goal.nanos)
    (hn : Duration.millisecond ∣ now.nanos) (hg : Duration.millisecond ∣ goal.nanos)
    (countable : isCountable goal = true) : Exact now (goal.remaining now) := by
  have reached : now.nanos + (goal.remaining now).nanos = goal.nanos := Nat.add_sub_of_le ahead
  have whole : Duration.millisecond ∣ (goal.remaining now).nanos := Nat.dvd_sub hg hn
  apply fires_of_whole hn whole
  rw [reached]
  exact countable

/-- Between events at whole milliseconds, the timers of a poll in whole milliseconds are exact as
far as the clock goes. -/
theorem PollLimits.timely_of_whole {l : PollLimits} {h : List Event}
    (timeout : Duration.millisecond ∣ l.timeout.nanos)
    (interval : Duration.millisecond ∣ l.interval.nanos)
    (whole : ∀ e ∈ h, Duration.millisecond ∣ e.clock.nanos)
    (countable : ∀ e ∈ h, Timer.isCountable ⟨e.clock.nanos + l.timeout.nanos⟩ = true) :
    l.Timely h := by
  intro d hd e he after open_
  have elapsed : Duration.millisecond ∣ (e.clock.remaining d.clock).nanos :=
    Nat.dvd_sub (whole e he) (whole d hd)
  have paused := dvd_pause timeout interval elapsed
  have short : (l.pause (e.clock.remaining d.clock)).nanos ≤ l.timeout.nanos := by
    simp only [pause, Duration.remaining]
    omega
  apply Timer.fires_of_whole (whole e he) paused
  apply Timer.isCountable_of_le _ (countable e he)
  exact Nat.add_le_add_left short _

namespace Blueprint

variable {b : Blueprint} {w : WaitSettings}

theorem exactTimers_of_whole {h : List Event}
    (limits : ∀ l ∈ b.pollLimits w, Duration.millisecond ∣ l.timeout.nanos ∧
      Duration.millisecond ∣ l.interval.nanos)
    (whole : ∀ e ∈ h, Duration.millisecond ∣ e.clock.nanos)
    (countable : ∀ e ∈ h, Timer.isCountable ⟨e.clock.nanos + b.longestSetup w⟩ = true) :
    b.ExactTimers w h := by
  have reach : ∀ l ∈ b.pollLimits w, l.timeout.nanos ≤ b.longestSetup w := by
    have ready : b.readySpan.nanos ≤ b.readyWaits * b.readySpan.nanos := by
      apply Nat.le_mul_of_pos_left
      unfold readyWaits
      split <;> decide
    intro l hl
    unfold longestSetup
    simp only [pollLimits, List.mem_cons, List.not_mem_nil, or_false] at hl
    rcases hl with rfl | rfl | rfl | rfl <;> dsimp only <;> omega
  constructor
  · intro l hl
    obtain ⟨timeout, interval⟩ := limits l hl
    apply PollLimits.timely_of_whole timeout interval whole
    intro e he
    exact Timer.isCountable_of_le (Nat.add_le_add_left (reach l hl) _) (countable e he)
  · intro outset scaled ready found ahead
    have span : Duration.millisecond ∣ b.genesisSpan.nanos :=
      Nat.dvd_mul_left_of_dvd (by decide) b.genesisDelta
    have due : Duration.millisecond ∣ (b.due outset).nanos := Nat.dvd_add (whole _ scaled) span
    have genesis : b.genesisSpan.nanos ≤ b.longestSetup w :=
      Nat.le_trans (Nat.le_max_left _ _) (Nat.le_add_left _ _)
    apply Timer.exact_remaining (Nat.le_of_lt ahead) (whole _ found) due
    exact Timer.isCountable_of_le (Nat.add_le_add_left genesis _) (countable _ scaled)

/-! An override of images changes no limit. -/

variable {image : String}

theorem readyWaits_overrideImages : (b.overrideImages image).readyWaits = b.readyWaits := by
  unfold readyWaits
  rw [(b.reimaged_overrideImages image).clientv2]
  cases b.clientv2 <;> rfl

theorem ExactTimers.overrideImages {h : List Event} (exact : b.ExactTimers w h) :
    (b.overrideImages image).ExactTimers w h where
  polls := by
    unfold pollLimits
    rw [readySpan_overrideImages]
    exact exact.polls
  genesis := by
    rw [due_overrideImages]
    exact exact.genesis

theorem mostCalls_overrideImages : (b.overrideImages image).mostCalls w = b.mostCalls w := by
  unfold mostCalls
  rw [readySpan_overrideImages, readyWaits_overrideImages]

theorem longestSetup_overrideImages :
    (b.overrideImages image).longestSetup w = b.longestSetup w := by
  unfold longestSetup
  rw [readySpan_overrideImages, readyWaits_overrideImages, genesisSpan_overrideImages]

end Blueprint

/-! ### Setup -/

section Setup

variable {σ : Type} {b : Blueprint} {w : WaitSettings} {l : Lifecycle} {s : Session σ}

theorem settleFailure_spends (f : PhaseFailure) (runs : l.Runs b w) :
    (settleFailure f : Step σ SetupResult).Spends b w 0 0 l s := by
  apply Step.spends_record_bind
  split
  · exact Step.spends_throw f runs
  · apply (Step.spends_advance _ _ runs).done
    intro _ l' s' runs'
    exact Step.spends_pure _ runs'

variable [Services σ]

theorem setup_spends (prompt : Prompt σ) (interval : 0 < l.settings.waits.pollInterval.nanos)
    (start : l.phase = .notStarted)
    (image : b = l.blueprint.overrideImages l.settings.imageOverride) :
    (setup false : Step σ SetupResult).Spends b l.settings.waits (b.mostCalls l.settings.waits)
      (b.longestSetup l.settings.waits) l s := by
  have runs : (l.begun s.today).Runs b l.settings.waits := ⟨image.symm, rfl⟩
  have begun : s.Stood 0 s.begun := Session.Stood.note s rfl
  obtain ⟨r, l₁, s₁, ended, spent, runs₁⟩ :=
    (bringUp_spends prompt interval runs (s := s.begun)).since begun
  unfold Step.Spends Step.Within
  rw [exec_setup_begun start, ended]
  cases r with
  | error f => exact (settleFailure_spends f runs₁).still spent
  | ok env => exact ⟨_, l₁, s₁, rfl, spent, runs₁⟩

/-- Setup comes to an end when services answer without delay, whatever they answer. The calls are
bounded, and the time is when timers are exact; a network that is ready has waited for genesis. -/
theorem setup_bounded (prompt : Prompt σ) (b : Blueprint) (st : Settings)
    (interval : 0 < st.waits.pollInterval.nanos) (draws : SuffixDraws) (born : Timestamp)
    (world : σ) (clock : Duration) (calendar : Duration → Timestamp) (patience : Nat) :
    ∃ r l s, (setup false).exec (.create b st draws born) ⟨world, clock, calendar, patience, []⟩ =
        (.ok (r, l), s) ∧
      s.calls.length ≤ b.mostCalls st.waits ∧
      (b.ExactTimers st.waits s.history →
        s.clock.nanos ≤ clock.nanos + b.longestSetup st.waits ∧
        ∀ env, r = .ok (.ready env) → ∃ outset, .entered .poolScaled outset ∈ s.history ∧
          outset.nanos + b.genesisSpan.nanos ≤ s.clock.nanos) := by
  obtain ⟨r, l, s, ended, spent, -⟩ := setup_spends prompt (l := .create b st draws born)
    (s := ⟨world, clock, calendar, patience, []⟩) interval rfl rfl
  refine ⟨r, l, s, ended, ?_, fun exact => ⟨?_, ?_⟩⟩
  · have calls := spent.calls
    rw [Blueprint.mostCalls_overrideImages] at calls
    exact Nat.le_trans calls (Nat.le_of_eq (Nat.zero_add _))
  · have time := spent.time exact.overrideImages
    rw [Blueprint.longestSetup_overrideImages] at time
    exact time
  · rintro env rfl
    obtain ⟨outset, ready⟩ := (setup_leads false rfl rfl).result ended
    obtain ⟨scaled, -, found, -, -, synced⟩ := ready.synchronised _ ready.synced
    refine ⟨outset, scaled, ?_⟩
    rw [synced (exact.genesis outset scaled)]
    exact Nat.le_max_left _ _

end Setup

/-! ### A network that takes its time -/

theorem Hesitant.prompt : Prompt Hesitant := by
  rintro ⟨_ | n, excuse⟩ now c <;> cases c <;> rfl

def Blueprint.slow : Blueprint := { Blueprint.least with genesisDelta := 5, readyTimeout := 20 }

def Settings.patient : Settings :=
  { (default : Settings) with
    waits := ⟨.ofSeconds 1, .ofSeconds 10, .ofSeconds 10, .ofSeconds 10⟩ }

/-- Setup came to an end, with a network that is ready. -/
def isReadied : Except Halt (Except PhaseFailure SetupResult × Lifecycle) → Bool
  | .ok (.ok (.ready _), _) => true
  | _ => false

theorem eq_of_isReadied {r : Except PhaseFailure SetupResult} {l : Lifecycle}
    (h : isReadied (.ok (r, l)) = true) : ∃ env, r = .ok (.ready env) := by
  rcases r with f | env | _ | f
  · cases h
  · exact ⟨env, rfl⟩
  · cases h
  · cases h

theorem setup_bounded_slow :
    ∃ r l s, (setup false).exec (.create .slow .patient (.ofNat 0) ⟨0⟩) (Hesitant.slow 2).session =
        (.ok (r, l), s) ∧
      s.calls.length ≤ Blueprint.slow.mostCalls Settings.patient.waits ∧
      s.clock.nanos ≤ Blueprint.slow.longestSetup Settings.patient.waits ∧
      ∃ env outset, r = .ok (.ready env) ∧ .entered .poolScaled outset ∈ s.history ∧
        outset.nanos + Blueprint.slow.genesisSpan.nanos ≤ s.clock.nanos := by
  obtain ⟨r, l, s, ended, calls, bounded⟩ := setup_bounded Hesitant.prompt .slow .patient
    (by decide) (.ofNat 0) ⟨0⟩ (Hesitant.slow 2) .zero (fun _ => ⟨0⟩) 1
  have session : (⟨.slow 2, .zero, fun _ => ⟨0⟩, 1, []⟩ : Session Hesitant) =
    (Hesitant.slow 2).session := rfl
  rw [session] at ended
  have facts : isReadied ((setup false).exec (.create .slow .patient (.ofNat 0) ⟨0⟩)
        (Hesitant.slow 2).session).1 = true ∧
      ((setup false).exec (.create .slow .patient (.ofNat 0) ⟨0⟩)
        (Hesitant.slow 2).session).2.history.all (fun e =>
          e.clock.nanos % Duration.millisecond == 0 &&
            decide (e.clock.nanos ≤ Duration.second * 10)) = true := by
    decide +kernel
  rw [ended] at facts
  obtain ⟨readied, facts⟩ := facts
  obtain ⟨env, rfl⟩ := eq_of_isReadied readied
  have events : ∀ e ∈ s.history, Duration.millisecond ∣ e.clock.nanos ∧
      e.clock.nanos ≤ Duration.second * 10 := by
    intro e he
    have fact := List.all_eq_true.1 facts e he
    simp only [Bool.and_eq_true, beq_iff_eq, decide_eq_true_eq] at fact
    exact ⟨Nat.dvd_of_mod_eq_zero fact.1, fact.2⟩
  have far : Timer.isCountable
      ⟨Duration.second * 10 + Blueprint.slow.longestSetup Settings.patient.waits⟩ = true := by
    decide +kernel
  obtain ⟨time, waited⟩ := bounded (Blueprint.exactTimers_of_whole (by decide +kernel)
    (fun e he => (events e he).1)
    fun e he => Timer.isCountable_of_le (Nat.add_le_add_right (events e he).2 _) far)
  obtain ⟨outset, scaled, genesis⟩ := waited env rfl
  have longest := Nat.le_trans time (Nat.le_of_eq (Nat.zero_add _))
  exact ⟨_, l, s, ended, calls, longest, env, outset, rfl, scaled, genesis⟩

end ProvingGround
