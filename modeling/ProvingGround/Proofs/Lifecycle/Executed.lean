import Mathlib.Data.List.Forall2
import ProvingGround.Proofs.Lifecycle.Suite

/-!
# Executed suites

What it is to execute the scenarios of a suite: those that are not skipped, one after the other,
each body once, each from the session that the one before it has left.
-/

namespace ProvingGround

variable {σ : Type} [Services σ]

/-! ### Execution -/

/-- The outcome of a scenario whose body has ended. -/
def ScenarioOutcome.of : Except ScenarioFault Unit → ScenarioOutcome
  | .ok () => passed
  | .error f => failed f.message

/-- Scenarios are executed on a network from one session to another, with results. -/
inductive Executed (env : Environment) :
    List Scenario → Session σ → List ScenarioResult → Session σ → Prop where
  | nil {s} : Executed env [] s [] s
  | skipped {sc rest s results later} (skip : sc.skip = true)
    (onwards : Executed env rest s results later) :
    Executed env (sc :: rest) s (⟨sc.name, .skipped, .zero⟩ :: results) later
  | ran {sc rest s middle verdict results later} (runs : sc.skip = false)
    (body : (sc.body env).run.exec (s.note (.began sc.name env s.clock)) = (.ok verdict, middle))
    (onwards : Executed env rest middle results later) :
    Executed env (sc :: rest) s
      (⟨sc.name, .of verdict, middle.clock.remaining s.clock⟩ :: results) later

variable {env : Environment} {scenarios : List Scenario} {s later : Session σ}
  {results : List ScenarioResult}

theorem exec_execute_skipped {sc : Scenario} (skip : sc.skip = true) (s : Session σ) :
    (sc.execute env).exec s = (.ok ⟨sc.name, .skipped, .zero⟩, s) := by
  unfold Scenario.execute
  rw [if_pos skip]
  rfl

theorem exec_execute_ran {sc : Scenario} (runs : sc.skip = false) (s : Session σ) :
    (sc.execute env).exec s =
      match (sc.body env).run.exec (s.note (.began sc.name env s.clock)) with
      | (.ok verdict, middle) =>
        (.ok ⟨sc.name, .of verdict, middle.clock.remaining s.clock⟩, middle)
      | (.error h, middle) => (.error h, middle) := by
  have hn : (Act.note (.began sc.name env s.clock) : Act σ Unit).exec s =
      (.ok (), s.note (.began sc.name env s.clock)) := rfl
  unfold Scenario.execute
  rw [if_neg (by rw [runs]; exact Bool.false_ne_true), Act.exec_bind, Act.exec_clock]
  dsimp only
  rw [Act.exec_bind, hn]
  dsimp only
  rw [Act.exec_bind]
  rcases (sc.body env).run.exec (s.note (.began sc.name env s.clock)) with ⟨h | verdict, middle⟩
  · rfl
  · rcases verdict with f | ⟨⟩ <;> rfl

theorem executeAll_executed
    (h : (executeAll env scenarios).exec s = (.ok results, later)) :
    Executed env scenarios s results later := by
  induction scenarios generalizing s results with
  | nil =>
    cases h
    exact .nil
  | cons sc rest ih =>
    obtain ⟨result, middle, first, onwards⟩ := Act.exec_bind_ok h
    obtain ⟨more, last, others, done⟩ := Act.exec_bind_ok onwards
    cases done
    cases skip : sc.skip with
    | true =>
      rw [exec_execute_skipped skip] at first
      cases first
      exact .skipped skip (ih others)
    | false =>
      rw [exec_execute_ran skip] at first
      rcases body : (sc.body env).run.exec (s.note (.began sc.name env s.clock)) with
        ⟨h | verdict, middle'⟩
      · rw [body] at first
        cases first
      · rw [body] at first
        cases first
        exact .ran skip body (ih others)

/-! ### Results -/

structure ResultOf (sc : Scenario) (r : ScenarioResult) : Prop where
  name : r.name = sc.name
  skipped : sc.skip = true → r.outcome = .skipped ∧ r.elapsed = .zero
  ran : sc.skip = false → r.outcome ≠ .skipped

theorem Executed.resultOf (h : Executed env scenarios s results later) :
    List.Forall₂ ResultOf scenarios results := by
  induction h with
  | nil => exact .nil
  | skipped skip _ ih =>
    refine .cons ⟨rfl, fun _ => ⟨rfl, rfl⟩, fun runs => ?_⟩ ih
    rw [skip] at runs
    cases runs
  | @ran _ _ _ _ verdict _ _ runs _ _ ih =>
    refine .cons ⟨rfl, fun skip => ?_, fun _ => ?_⟩ ih
    · rw [runs] at skip
      cases skip
    · rcases verdict with f | ⟨⟩ <;> exact ScenarioOutcome.noConfusion

/-! ### Beginnings -/

theorem Executed.begun (h : Executed env scenarios s results later) :
    later.deeds.filterMap Deed.begun? = s.deeds.filterMap Deed.begun? ++
      (scenarios.filter fun sc => !sc.skip).map fun sc => (sc.name, env) := by
  induction h with
  | nil => exact (List.append_nil _).symm
  | @skipped sc _ _ _ _ skip _ ih =>
    rw [ih, List.filter_cons_of_neg]
    rw [skip]
    exact Bool.false_ne_true
  | @ran sc _ s middle _ _ _ runs body _ ih =>
    obtain ⟨n, hn, probes⟩ := (sc.body env).run_probes (s.note (.began sc.name env s.clock))
    rw [body] at hn
    rw [Session.deeds_note] at hn
    have trace : middle.deeds = s.deeds ++ [.began sc.name env] ++ n := hn
    rw [ih, trace, List.filterMap_append, List.filterMap_append, probes.begun_of_probes,
      List.append_nil, List.filter_cons_of_pos (by rw [runs]; rfl), List.append_assoc]
    rfl

end ProvingGround
