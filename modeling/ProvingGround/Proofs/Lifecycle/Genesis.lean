import ProvingGround.Proofs.Lifecycle.Executed
import ProvingGround.Proofs.Setup.Genesis

/-!
# Genesis after setup

Whatever a run does after its setup, no group of nodes is created any more, and scenarios are handed
the network that setup has brought up.
-/

namespace ProvingGround

variable {σ : Type} {K : Event → Prop}

/-! ### Scenarios -/

/-- Nothing is told to nodes any more; scenarios begin on a network. -/
def Event.Follows (env : Environment) (e : Event) : Prop :=
  e.Heeds none ∨ ∃ scenario clock, e = .began scenario env clock

theorem countdownTo_keeps (deadline step : Duration) (n : Nat) :
    (countdownTo deadline step n : Act σ _).Keeps K := by
  induction n with
  | zero => exact Act.keeps_pure _
  | succ n ih =>
    apply Act.Keeps.bind Act.keeps_clock
    intro now
    dsimp only
    split
    · exact Act.keeps_pure _
    · apply Act.Keeps.bind (Act.keeps_sleep _)
      intro _
      apply Act.Keeps.bind ih
      intro later
      exact Act.keeps_pure _

theorem countdown_keeps (total step : Duration) : (countdown total step : Act σ _).Keeps K := by
  apply Act.Keeps.bind Act.keeps_clock
  intro now
  dsimp only
  split
  · exact countdownTo_keeps _ _ _
  · exact Act.keeps_halt _

section Runs

variable [Services σ]

theorem Activity.run_keeps (a : Activity) (h : ∀ x, K (.probed x)) :
    (a.run : Act σ _).Keeps K := by
  induction a with
  | finish result => exact Act.keeps_pure _
  | wait total step rest ih =>
    apply Act.Keeps.bind (countdown_keeps total step)
    intro _
    exact ih
  | ask c rest ih =>
    have probe : (Task.probe c : Task σ _).attempt.Keeps K := Task.keeps_probe fun x _ => h x
    apply Act.Keeps.bind probe
    intro answer
    exact ih answer

theorem Scenario.execute_follows (sc : Scenario) (env : Environment) :
    (sc.execute env : Act σ _).Keeps (Event.Follows env) := by
  intro s
  cases skip : sc.skip with
  | true =>
    rw [exec_execute_skipped skip]
    exact .refl s
  | false =>
    have begun : s.Later (Event.Follows env) (s.note (.began sc.name env s.clock)) :=
      .note (.inr ⟨sc.name, s.clock, rfl⟩) (Nat.le_refl _)
    have body := begun.trans ((sc.body env).run_keeps (fun _ => .inl trivial) _)
    rw [exec_execute_ran skip]
    rcases hb : (sc.body env).run.exec (s.note (.began sc.name env s.clock)) with
      ⟨h | verdict, later⟩ <;> rw [hb] at body <;> exact body

theorem executeAll_follows (env : Environment) (scenarios : List Scenario) :
    (executeAll env scenarios : Act σ _).Keeps (Event.Follows env) := by
  induction scenarios with
  | nil => exact Act.keeps_pure _
  | cons sc rest ih =>
    apply Act.Keeps.bind (sc.execute_follows env)
    intro result
    apply Act.Keeps.bind ih
    intro later
    exact Act.keeps_pure _

omit [Services σ] in
theorem beginScenarios_heeds :
    (beginScenarios : Operation σ _).Keeps (Event.Heeds none) :=
  Operation.keeps_fire (heeds_entered (by decide))

theorem runScenarios_follows (suite : Suite) (env : Environment) :
    (runScenarios suite env : Step σ Report).Keeps (Event.Follows env) := by
  apply Step.Keeps.bind (Step.keeps_lift (beginScenarios_heeds.mono fun _ => .inl))
  intro r
  cases r with
  | error f =>
    apply Step.Keeps.bind Step.keeps_record
    intro l
    exact Step.keeps_fail _ f
  | ok _ =>
    apply Step.Keeps.bind
      (Step.keeps_lift (Operation.keeps_act (executeAll_follows env suite.scenarios)))
    intro results
    exact Step.keeps_pure _

/-! ### Teardown -/

theorem storeAddress_heeds (ns : String) :
    (storeAddress ns : Act σ String).Keeps (Event.Heeds none) := by
  have ask : (Task.call (.serviceAddress ns indexerName) : Task σ _).attempt.Keeps
      (Event.Heeds none) :=
    keeps_heeding_call (by simp)
  apply Act.Keeps.bind ask
  intro x
  split <;> exact Act.keeps_pure _

theorem reportOutcome_heeds (cloud : CloudSettings) (queues : QueueSettings) (store : StoreSettings)
    (address : String) (o : RunOutcome) :
    (reportOutcome cloud queues store address o : Task σ TeardownTask).Keeps
      (Event.Heeds none) := by
  apply Task.Keeps.bind (keeps_heeding_call (by simp))
  intro _
  exact Task.keeps_pure _

theorem handOver_heeds (success : Bool) :
    (handOver success : Operation σ _).Keeps (Event.Heeds none) := by
  refine Operation.keeps_set_bind (fun _ => ⟨rfl, id⟩) ?_
  intro l
  apply Operation.Keeps.bind (Operation.keeps_act (storeAddress_heeds _))
  intro address
  apply Operation.Keeps.bind (Operation.keeps_act (reportOutcome_heeds _ _ _ _ _))
  intro submitted
  apply Operation.Keeps.bind (Operation.keeps_fire (heeds_entered (by decide)))
  intro r
  cases r <;> exact Operation.keeps_pure _

omit [Services σ] in
theorem afterTriggers_heeds {α : Type} {next : Operation σ (Except Fault α)} {ts : List Trigger}
    (h : next.Keeps (Event.Heeds none)) (onwards : ts ⊆ [.scenariosStarted, .scenariosFinished]) :
    (afterTriggers next ts).Keeps (Event.Heeds none) := by
  induction ts with
  | nil => exact h
  | cons tr rest ih =>
    have targets : ∀ tr ∈ [Trigger.scenariosStarted, .scenariosFinished],
        ∀ e ∈ Transition.table, e.trigger = tr →
          e.target ≠ .poolScaled ∧ e.target ≠ .genesisSynced := by
      decide
    apply Operation.Keeps.bind
      (Operation.keeps_fire (heeds_entered (targets tr (onwards List.mem_cons_self))))
    intro r
    cases r with
    | error f => exact Operation.keeps_pure _
    | ok _ => exact ih fun _ hr => onwards (List.mem_cons_of_mem tr hr)

theorem teardown_heeds (success : Bool) :
    (teardown success : Operation σ _).Keeps (Event.Heeds none) := by
  apply Operation.Keeps.bind Operation.keeps_get
  intro l
  split
  · exact Operation.keeps_pure _
  · split
    · exact Operation.keeps_pure _
    next ts some => exact afterTriggers_heeds (handOver_heeds success) (reportingTriggers_subset some)

theorem concludeRun_heeds (r : Report) :
    (concludeRun r : Step σ Report).Keeps (Event.Heeds none) := by
  apply Step.Keeps.bind (Step.keeps_lift (teardown_heeds _))
  intro z
  cases z <;> exact Step.keeps_pure _

end Runs

theorem settleFailure_leads (f : PhaseFailure) (l : Lifecycle) (s : Session σ) :
    (settleFailure f).Leads l s (fun r _ later => r = .failed f ∧ s.Later (Event.Heeds none) later)
      (s.Later (Event.Heeds none)) := by
  apply Step.leads_record_bind
  split
  · exact Session.Later.refl s
  · apply (Step.keeps_advance (heeds_entered (by decide))).leads.bind fun _ h => h
    rintro _ l' later ⟨settled, -⟩
    exact Step.leads_pure ⟨rfl, settled⟩

end ProvingGround
