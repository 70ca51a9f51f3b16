import ProvingGround.Proofs.Lifecycle.Executed
import ProvingGround.Proofs.Lifecycle.Requests

/-!
# Reports of runs

Outside of debug mode a run of a suite that comes to an end comes to a report. The report, the
scenarios that were executed and the task that was handed over tell the same of it.
-/

namespace ProvingGround

variable {σ : Type} [Services σ]

/-! ### Agreement -/

/-- The task tells how a run on a namespace ended, and where its log store is. -/
structure Payload (report : Report) (ns : String) (x : Except Fault (Option String))
    (task : TeardownTask) : Prop where
  ns_eq : task.ns = ns
  pool : task.pool = "pool-" ++ ns
  deletes : task.deletesNamespace = true
  dumps : task.dumpsLogs = !report.success
  /-- No logs are asked for just when setup did not fail and no scenario did. -/
  spared : task.dumpsLogs = false ↔ report.setupFailure = none ∧
    ∀ r ∈ report.scenarios, ∀ message, r.outcome ≠ .failed message
  parameters : task.dump.isSome = task.dumpsLogs
  address : ∀ d ∈ task.dump, d.storeAddress = answeredAddress ns x

/-- A run is done, and its task handed over as its report has it. -/
structure Closed (report : Report) (l : Lifecycle) (s : Session σ) : Prop where
  done : l.phase = .done
  submits : s.deeds.countP Deed.isSubmit = 1
  handed : ∃ (before : List Deed) (x : Except Fault (Option String)) (y : Except Fault Unit)
      (task : TeardownTask), s.deeds = before ++
      [.asked (.serviceAddress l.ownName indexerName) x,
        .asked (.submit l.teardownQueue task) y, .entered .done] ∧
    Payload report l.ownName x task ∧ report.teardown = y.toOption.map fun _ => task

/-- A report carries what came of setup, which ended in the session `s₁`. -/
inductive Carries (suite : Suite) (s₁ : Session σ) (report : Report) (s : Session σ) :
    SetupResult → Prop where
  | failed {f} (failure : report.setupFailure = some f) (unexecuted : report.scenarios = [])
    (idle : s.deeds.filterMap Deed.begun? = []) : Carries suite s₁ report s (.failed f)
  | ready {env middle} (failure : report.setupFailure = none)
    (executed : Executed env suite.scenarios (s₁.note (.entered .running s₁.clock))
      report.scenarios middle)
    (results : List.Forall₂ ResultOf suite.scenarios report.scenarios)
    (begun : s.deeds.filterMap Deed.begun? =
      (suite.scenarios.filter fun sc => !sc.skip).map fun sc => (sc.name, env)) :
    Carries suite s₁ report s (.ready env)

/-! ### Closing -/

section Closing

variable {l l' : Lifecycle} {t : List Deed} {s later : Session σ} {ts : List Trigger}

theorem Report.success_eq_true {report : Report} : report.success = true ↔
    report.setupFailure = none ∧
      ∀ r ∈ report.scenarios, ∀ message, r.outcome ≠ .failed message := by
  have passed (o : ScenarioOutcome) : (!o.isFailure) = true ↔ ∀ message, o ≠ .failed message := by
    cases o <;> simp [ScenarioOutcome.isFailure]
  unfold success
  simp only [Bool.and_eq_true, Option.isNone_iff_eq_none, List.all_eq_true, passed]

theorem payload_teardownTask (report : Report) (l : Lifecycle) (x : Except Fault (Option String)) :
    Payload report l.ownName x (l.teardownTask report.success x) where
  ns_eq := rfl
  pool := rfl
  deletes := rfl
  dumps := rfl
  spared := by
    have told : (!report.success) = false ↔ report.success = true := by simp
    exact told.trans Report.success_eq_true
  parameters := dump_teardownTask_isSome ..
  address := by
    intro d hd
    unfold Lifecycle.teardownTask teardownTask dumpRequest? at hd
    dsimp only at hd
    split at hd
    · cases hd
    · cases hd
      rfl

theorem TeardownEnds.begun {success : Bool} {z : Except Fault (Option TeardownTask)}
    {t' : List Deed} (ends : TeardownEnds l t success z l' t') :
    t'.filterMap Deed.begun? = t.filterMap Deed.begun? := by
  cases ends with
  | nothing => rfl
  | handed _ _ trace entries =>
    rw [trace, List.filterMap_append, List.filterMap_append, entries.begun_of_entries,
      List.append_nil]
    exact List.append_nil _

theorem concludeRun_closed {r : Report} {outcome : Except PhaseFailure Report}
    (h : Standing l s.deeds) (ready : reportingTriggers l.phase = some ts)
    (concluded : (concludeRun r).exec l s = (.ok (outcome, l'), later)) :
    ∃ task, outcome = .ok { r with teardown := task } ∧
      Closed { r with teardown := task } l' later ∧ l'.ns = l.ns ∧
      later.deeds.filterMap Deed.begun? = s.deeds.filterMap Deed.begun? := by
  obtain ⟨m, -, -, ends⟩ := Operation.Obeys.result (concludeRun_obeys r h) concluded
  cases outcome with
  | error f => exact ends.elim
  | ok report =>
    obtain ⟨z, rfl, ends⟩ := ends
    obtain ⟨reached, own, n, x, y, hz, trace⟩ := ends.closes ready
    have submits := reached.standing.submits
    rw [if_pos reached.phase] at submits
    refine ⟨_, rfl, ⟨reached.phase, submits, s.deeds ++ n, x, y, _, trace, ?_, ?_⟩, own, ends.begun⟩
    · exact payload_teardownTask { r with teardown := handedTask z } l' x
    · rw [hz]
      cases y <;> rfl

end Closing

/-! ### Runs -/

theorem exec_runScenarios {l : Lifecycle} (phase : l.phase = .genesisSynced) (suite : Suite)
    (env : Environment) (s : Session σ) :
    (runScenarios suite env).exec l s =
      match (executeAll env suite.scenarios).exec (s.note (.entered .running s.clock)) with
      | (.ok results, later) =>
        (.ok (.ok ⟨suite.name, some env.ns, false, none, results, none⟩, l.enter .running), later)
      | (.error h, later) => (.error h, later) := by
  have edge : Transition.find? l.phase .scenariosStarted =
      some ⟨.genesisSynced, .running, .scenariosStarted, "Scenarios running"⟩ := by
    rw [phase]
    rfl
  have begin_ : (Step.lift beginScenarios : Step σ _).exec l s =
      (.ok (.ok (.ok ()), l.enter .running), s.note (.entered .running s.clock)) := by
    unfold beginScenarios
    rw [Step.exec_lift, Operation.exec_fire_some edge]
  unfold runScenarios
  rw [Step.exec_bind, begin_]
  dsimp only
  rw [Step.exec_bind, Step.exec_lift, Operation.exec_act]
  rcases (executeAll env suite.scenarios).exec (s.note (.entered .running s.clock)) with
    ⟨h | results, later⟩ <;> rfl

theorem SetupEnds.of_lenient {l₀ l : Lifecycle} {t₀ t : List Deed}
    {x : Except PhaseFailure SetupResult} (ends : SetupEnds l₀ t₀ false x l t)
    (start : l₀.phase = .notStarted) (lenient : l₀.settings.debug = false) :
    (∃ env, x = .ok (.ready env) ∧ Reaches l₀ .genesisSynced l t ∧ l.ns = some env.ns) ∨
      ∃ f, x = .ok (.failed f) ∧ Reaches l₀ .reporting l t := by
  cases ends with
  | ready reached own => exact .inl ⟨_, rfl, reached, own⟩
  | failed reached => exact .inr ⟨_, rfl, reached⟩
  | aborted _ _ debug =>
    rw [lenient] at debug
    cases debug
  | refused started => exact absurd start started

theorem concluded_failed {suite : Suite} {f : PhaseFailure} {l₁ l : Lifecycle}
    {s₁ s : Session σ} {outcome : Except PhaseFailure Report} (h : Standing l₁ s₁.deeds)
    (phase : l₁.phase = .reporting) (idle : s₁.deeds.filterMap Deed.begun? = [])
    (ended : (do
      concludeRun ⟨suite.name, (← Step.record).ns, false, some f, [], none⟩ : Step σ Report).exec
        l₁ s₁ = (.ok (outcome, l), s)) :
    ∃ report, outcome = .ok report ∧ report.suite = suite.name ∧ report.ns = l.ns ∧
      report.skipped = false ∧ Closed report l s ∧ Carries suite s₁ report s (.failed f) := by
  rw [Step.exec_bind, Step.exec_record] at ended
  obtain ⟨task, rfl, closed, own, begun⟩ :=
    concludeRun_closed h (by rw [phase]; rfl) ended
  refine ⟨_, rfl, rfl, own.symm, rfl, closed, .failed rfl rfl ?_⟩
  rw [begun, idle]

theorem concluded_ready {suite : Suite} {env : Environment} {l₀ l₁ l : Lifecycle}
    {s₁ s : Session σ} {outcome : Except PhaseFailure Report}
    (h : Reaches l₀ .genesisSynced l₁ s₁.deeds) (own : l₁.ns = some env.ns)
    (idle : s₁.deeds.filterMap Deed.begun? = [])
    (ended : (do concludeRun (← runScenarios suite env) : Step σ Report).exec l₁ s₁ =
      (.ok (outcome, l), s)) :
    ∃ report, outcome = .ok report ∧ report.suite = suite.name ∧ report.ns = l.ns ∧
      report.skipped = false ∧ Closed report l s ∧ Carries suite s₁ report s (.ready env) := by
  have scenarios := exec_runScenarios h.phase suite env s₁
  rcases execute : (executeAll env suite.scenarios).exec (s₁.note (.entered .running s₁.clock))
    with ⟨halt | results, s₂⟩
  · rw [execute] at scenarios
    rw [Step.exec_bind, scenarios] at ended
    cases ended
  · rw [execute] at scenarios
    rw [Step.exec_bind, scenarios] at ended
    obtain ⟨n, -, -, running⟩ := Operation.Obeys.result (runScenarios_obeys suite env h) scenarios
    have ready : reportingTriggers (l₁.enter .running).phase = some [.scenariosFinished] := rfl
    obtain ⟨task, rfl, closed, ns_eq, begun⟩ := concludeRun_closed running.standing ready ended
    have executed := executeAll_executed execute
    refine ⟨_, rfl, rfl, (own.symm.trans ns_eq.symm), rfl, closed,
      .ready rfl executed executed.resultOf ?_⟩
    rw [begun, executed.begun, Session.deeds_note, List.filterMap_append, idle]
    rfl

/-- Outside of debug mode, a run of a suite that ends gives a report. A skipped suite touches
nothing; any other run is done, has handed its task over once, and its report, the executed
scenarios and the task agree. -/
theorem runSuite_reports (b : Blueprint) (st : Settings) (draws : SuffixDraws) (born : Timestamp)
    (world : σ) (clock : Duration) (calendar : Duration → Timestamp) (patience : Nat)
    (suite : Suite) {outcome : Except PhaseFailure Report} {l : Lifecycle} {s : Session σ}
    (lenient : st.debug = false)
    (ended : (runSuite suite).exec (.create b st draws born)
      ⟨world, clock, calendar, patience, []⟩ = (.ok (outcome, l), s)) :
    ∃ report, outcome = .ok report ∧ report.suite = suite.name ∧ report.ns = l.ns ∧
      report.skipped = suite.isSkipped ∧
      (suite.isSkipped = true → s.calls = [] ∧ l.phase = .skipped) ∧
      (suite.isSkipped = false → Closed report l s ∧ ∃ result l₁ s₁,
        (setup false).exec (.create b st draws born) ⟨world, clock, calendar, patience, []⟩ =
          (.ok (.ok result, l₁), s₁) ∧ Carries suite s₁ report s result) := by
  have fresh := Standing.create b st draws born
  unfold runSuite at ended
  cases skip : suite.isSkipped with
  | true =>
    rw [if_pos skip, Step.exec_bind, exec_setup_skip rfl] at ended
    cases ended
    refine ⟨_, rfl, rfl, rfl, rfl, fun _ => ⟨rfl, rfl⟩, fun h => ?_⟩
    cases h
  | false =>
    rw [if_neg (by rw [skip]; exact Bool.false_ne_true), Step.exec_bind] at ended
    rcases set : (setup false).exec (.create b st draws born)
      ⟨world, clock, calendar, patience, []⟩ with ⟨halt | ⟨result, l₁⟩, s₁⟩
    · rw [set] at ended
      cases ended
    · rw [set] at ended
      obtain ⟨n, trace, lawful, ends⟩ := Operation.Obeys.result
        (s := ⟨world, clock, calendar, patience, []⟩) (setup_obeys (σ := σ) false fresh) set
      have idle : s₁.deeds.filterMap Deed.begun? = [] := by
        rw [trace]
        exact begun_of_setupLaw lawful
      have ends' : SetupEnds (.create b st draws born) [] false result l₁ s₁.deeds := by
        cases result <;> exact ends
      rcases ends'.of_lenient rfl lenient with ⟨env, rfl, reached, own⟩ | ⟨f, rfl, reached⟩
      · obtain ⟨report, rfl, name, ns_eq, unskipped, closed, carries⟩ :=
          concluded_ready reached own idle ended
        refine ⟨report, rfl, name, ns_eq, unskipped, ?_, fun _ => ⟨closed, _, l₁, s₁, rfl, carries⟩⟩
        intro h
        cases h
      · obtain ⟨report, rfl, name, ns_eq, unskipped, closed, carries⟩ :=
          concluded_failed reached.standing reached.phase idle ended
        refine ⟨report, rfl, name, ns_eq, unskipped, ?_, fun _ => ⟨closed, _, l₁, s₁, rfl, carries⟩⟩
        intro h
        cases h

def Suite.mixed : Suite where
  name := "mixed"
  scenarios :=
    [{ name := "first", body := fun _ => .pass },
     { name := "second", skip := true, body := fun _ => .pass },
     { name := "third", body := fun _ => .fail (.check "third") }]

/-- Where every call is granted, the mixed suite comes to a report with all three outcomes. -/
theorem runSuite_reports_mixed :
    ∃ report l s, (runSuite .mixed).exec (.least false) Biased.willing.session =
        (.ok (.ok report, l), s) ∧
      report.scenarios.map (·.outcome) = [.passed, .skipped, .failed "check failed: third"] ∧
      Closed report l s := by
  have outcomes : ((runSuite .mixed).exec (.least false) Biased.willing.session).1.toOption.bind
      (fun r => r.1.toOption.map fun report => report.scenarios.map (·.outcome)) =
      some [.passed, .skipped, .failed "check failed: third"] := by
    decide +kernel
  rcases ended : (runSuite .mixed).exec (.least false) Biased.willing.session with
    ⟨halt | ⟨failure | report, l⟩, s⟩
  · rw [ended] at outcomes
    cases outcomes
  · rw [ended] at outcomes
    cases outcomes
  · rw [ended] at outcomes
    have unskipped : Suite.isSkipped .mixed = false := rfl
    obtain ⟨_, same, -, -, -, -, closed⟩ := runSuite_reports _ _ _ _ _ _ _ _ _ rfl ended
    cases same
    exact ⟨report, l, s, rfl, Option.some.inj outcomes, (closed unskipped).1⟩

end ProvingGround
