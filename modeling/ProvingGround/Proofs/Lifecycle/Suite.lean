import ProvingGround.Proofs.Lifecycle.Teardown

/-!
# Scenarios and suites

Scenarios leave the record of the run alone, and what they call is not called by the run. A run of a
suite keeps to the law of the run from its setup to its teardown.
-/

namespace ProvingGround

variable {σ : Type} {law : List Deed → Deed → Prop} {t : List Deed} {l l₀ : Lifecycle} {p : Phase}

/-! ### Scenarios -/

section Among

variable {kind : Deed → Bool} {n : List Deed}

theorem countdownTo_among (deadline step : Duration) (n : Nat) :
    (countdownTo deadline step n : Act σ _).Traces fun _ n => Among kind n := by
  induction n with
  | zero => exact Act.traces_pure Among.nil
  | succ n ih =>
    apply Act.traces_among_bind (Act.traces_clock fun _ => Among.nil)
    intro now
    dsimp only
    split
    · exact Act.traces_pure Among.nil
    · apply Act.traces_among_bind (Act.traces_sleep Among.nil)
      intro _
      apply Act.traces_among_bind ih
      intro later
      exact Act.traces_pure Among.nil

theorem countdown_among (total step : Duration) :
    (countdown total step : Act σ _).Traces fun _ n => Among kind n := by
  apply Act.traces_among_bind (Act.traces_clock fun _ => Among.nil)
  intro now
  dsimp only
  split
  · exact countdownTo_among _ _ _
  · exact Act.traces_halt Among.nil

end Among

section Suite

variable [Services σ]

/-- A body only makes calls of its own. -/
theorem Activity.run_probes (a : Activity) :
    (a.run : Act σ _).Traces fun _ n => Among Deed.isProbe n := by
  induction a with
  | finish result => exact Act.traces_pure Among.nil
  | wait total step rest ih =>
    apply Act.traces_among_bind (countdown_among total step)
    intro _
    exact ih
  | ask c rest ih =>
    have probe : (Task.probe c : Task σ _).attempt.Traces fun _ n => Among Deed.isProbe n :=
      Task.traces_probe fun _ => Among.single rfl
    apply Act.traces_among_bind probe
    intro answer
    exact ih answer

theorem Scenario.execute_aside (s : Scenario) (env : Environment) :
    (s.execute env : Act σ _).Traces fun _ n => Among Deed.isAside n := by
  unfold Scenario.execute
  split
  · exact Act.traces_pure Among.nil
  · apply Act.traces_among_bind (Act.traces_clock fun _ => Among.nil)
    intro started
    apply Act.traces_among_bind (Act.traces_note (Among.single rfl))
    intro _
    have body := (Activity.run_probes (σ := σ) (s.body env)).mono fun _ _ => Among.aside
    apply Act.traces_among_bind body
    intro verdict
    apply Act.traces_among_bind (Act.traces_clock fun _ => Among.nil)
    intro finished
    exact Act.traces_pure Among.nil

theorem executeAll_aside (env : Environment) (scenarios : List Scenario) :
    (executeAll env scenarios : Act σ _).Traces fun _ n => Among Deed.isAside n := by
  induction scenarios with
  | nil => exact Act.traces_pure Among.nil
  | cons s rest ih =>
    apply Act.traces_among_bind (s.execute_aside env)
    intro result
    apply Act.traces_among_bind ih
    intro later
    exact Act.traces_pure Among.nil

/-! ### Suites -/

variable {J : Lifecycle → List Deed → Prop}

theorem Upkeep.runScenarios_obeys (u : Upkeep σ law J) (suite : Suite) (env : Environment)
    (h : Reaches l₀ .genesisSynced l t) (hJ : J l t) :
    (runScenarios suite env : Step σ Report).Obeys law t l
      (fun _ l' later => Reaches l₀ .running l' later ∧ J l' later) fun _ _ _ => False := by
  have edge : Transition.find? .genesisSynced .scenariosStarted =
      some ⟨.genesisSynced, .running, .scenariosStarted, "Scenarios running"⟩ := rfl
  have edge' := edge
  rw [← h.phase] at edge'
  have begin_ : (Step.lift beginScenarios : Step σ _).Obeys law t l
      (fun x l' later => x = .ok () ∧ l' = l.enter .running ∧ later = t ++ [.entered .running])
      fun _ _ _ => False :=
    Step.obeys_lift (Operation.obeys_fire_edge edge' (u.entered _ _))
  apply begin_.seq
  intro x l' n begun
  obtain ⟨rfl, rfl, hn⟩ := begun
  rw [hn]
  have running : Reaches l₀ .running (l.enter .running) (t ++ [.entered .running]) :=
    h.enter edge (by decide)
  have kept : J (l.enter .running) (t ++ [.entered .running]) :=
    u.enter hJ List.mem_cons_self edge'
  have execute : (executeAll env suite.scenarios : Act σ _).Obeys law (t ++ [.entered .running])
      fun _ later => Reaches l₀ .running (l.enter .running) later ∧
        J (l.enter .running) later := by
    apply Act.Traces.mono (executeAll_aside env suite.scenarios)
    intro r m aside
    obtain ⟨lawful, kept⟩ := u.aside kept rfl aside
    exact ⟨lawful, fun _ _ => ⟨running.grow (by decide) (by decide) aside.quiet, kept⟩⟩
  have lifted : (Step.lift (Operation.act (executeAll env suite.scenarios)) : Step σ _).Obeys
      law (t ++ [.entered .running]) (l.enter .running)
      (fun _ l₂ later => Reaches l₀ .running l₂ later ∧ J l₂ later) fun _ _ _ => False := by
    apply Step.obeys_lift
    apply (Operation.obeys_act execute).mono
    intro _ l₂ m executed
    obtain ⟨rfl, reached⟩ := executed
    exact reached
  apply lifted.seq
  intro results l₂ m reached
  exact Step.obeys_pure reached

/-- The task that stays in the report. -/
def handedTask : Except Fault (Option TeardownTask) → Option TeardownTask
  | .ok task => task
  | .error _ => none

theorem Upkeep.concludeRun_obeys (u : Upkeep σ law J) (r : Report) (h : Standing l t)
    (hJ : J l t) :
    (concludeRun r : Step σ Report).Obeys law t l
      (fun report l' later => (∃ z, report = { r with teardown := handedTask z } ∧
        TeardownEnds l t r.success z l' later) ∧ J l' later) fun _ _ _ => False := by
  have down : (Step.lift (teardown r.success) : Step σ _).Obeys law t l
      (fun z l' later => TeardownEnds l t r.success z l' later ∧ J l' later) fun _ _ _ => False :=
    Step.obeys_lift (u.teardown_obeys r.success h hJ)
  apply down.seq
  intro z l' n given
  obtain ⟨ends, kept⟩ := given
  cases z with
  | error f => exact Step.obeys_pure ⟨⟨.error f, rfl, ends⟩, kept⟩
  | ok task => exact Step.obeys_pure ⟨⟨.ok task, rfl, ends⟩, kept⟩

/-- Teardown of a run that stands before it hands the task over. -/
theorem TeardownEnds.closes {success : Bool} {z : Except Fault (Option TeardownTask)}
    {later : List Deed} {l' : Lifecycle} {ts : List Trigger}
    (ends : TeardownEnds l t success z l' later) (ready : reportingTriggers l.phase = some ts) :
    Reaches l .done l' later ∧ l'.ns = l.ns ∧ ∃ n x y,
      z = y.map (fun _ => some (l'.teardownTask success x)) ∧
      later = t ++ n ++ l'.closing success x y := by
  cases ends with
  | nothing unready =>
    rw [ready] at unready
    cases unready
  | handed reached own trace => exact ⟨reached, own, _, _, _, rfl, trace⟩

theorem Upkeep.concludeRun_reaches (u : Upkeep σ law J) (r : Report) {ts : List Trigger}
    (h : Reaches l₀ p l t) (hJ : J l t) (ready : reportingTriggers p = some ts) :
    (concludeRun r : Step σ Report).Obeys law t l
      (fun _ l' later => Reaches l₀ .done l' later ∧ J l' later) fun _ _ _ => False := by
  apply (u.concludeRun_obeys r h.standing hJ).imp
  intro _ l' n concluded
  obtain ⟨⟨z, -, ends⟩, kept⟩ := concluded
  rw [← h.phase] at ready
  exact ⟨h.trans (ends.closes ready).1, kept⟩

theorem Upkeep.runSuite_obeys (u : Upkeep σ law J) (suite : Suite) (h : Standing l₀ t)
    (hJ : J l₀ t) :
    (runSuite suite : Step σ Report).Obeys law t l₀
      (fun _ l' later => (∃ p, p.isTerminal = true ∧ Reaches l₀ p l' later) ∧ J l' later)
      fun f l' later => (∃ skip, SetupEnds l₀ t skip (.error f) l' later) ∧ J l' later := by
  unfold runSuite
  split
  · apply (u.setup_obeys true h hJ).bind _ fun _ _ _ hF => ⟨⟨true, hF.2⟩, hF.1⟩
    intro v l' n given
    obtain ⟨kept, ends⟩ := given
    cases ends with
    | skipped reached => exact Step.obeys_pure ⟨⟨.skipped, rfl, reached⟩, kept⟩
  · apply (u.setup_obeys false h hJ).bind _ fun _ _ _ hF => ⟨⟨false, hF.2⟩, hF.1⟩
    intro v l' n given
    obtain ⟨kept, ends⟩ := given
    cases ends with
    | @ready env _ _ reached =>
      apply (u.runScenarios_obeys suite env reached kept).bind _ fun _ _ _ hF => hF.elim
      intro report l₂ m given
      obtain ⟨running, kept⟩ := given
      apply (u.concludeRun_reaches report running kept rfl).mono _ fun _ _ _ hF => hF.elim
      intro _ _ _ done
      exact ⟨⟨.done, rfl, done.1⟩, done.2⟩
    | failed reached =>
      apply Step.obeys_record_bind
      apply (u.concludeRun_reaches _ reached kept rfl).mono _ fun _ _ _ hF => hF.elim
      intro _ _ _ done
      exact ⟨⟨.done, rfl, done.1⟩, done.2⟩

/-! ### The law of the run -/

theorem runScenarios_obeys (suite : Suite) (env : Environment)
    (h : Reaches l₀ .genesisSynced l t) :
    (runScenarios suite env : Step σ Report).Obeys (RunLaw l₀.runId) t l
      (fun _ l' later => Reaches l₀ .running l' later) fun _ _ _ => False :=
  ((runUpkeep l₀.runId).runScenarios_obeys suite env h h.runId).imp fun _ _ _ running => running.1

theorem concludeRun_obeys (r : Report) (h : Standing l t) :
    (concludeRun r : Step σ Report).Obeys (RunLaw l.runId) t l
      (fun report l' later => ∃ z, report = { r with teardown := handedTask z } ∧
        TeardownEnds l t r.success z l' later) fun _ _ _ => False :=
  ((runUpkeep l.runId).concludeRun_obeys r h rfl).imp fun _ _ _ ends => ends.1

end Suite

end ProvingGround
