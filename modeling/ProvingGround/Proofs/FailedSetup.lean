import ProvingGround.Proofs.Attribution
import ProvingGround.Proofs.Synchrony

/-!
# What is reported of a failed setup

A run whose setup has failed waits for its teardown, and nothing else that is asked of it has any
effect. The first teardown hands over the only task. Whether this task tells of a failure is up to
the flag that comes with the teardown: the failure of setup is not looked at.
-/

namespace ProvingGround

variable {σ : Type}

/-! ### Tasks and flags -/

/-- The tasks that were handed over, in order. -/
def submitted (t : List Deed) : List TeardownTask := t.filterMap Deed.task?

/-- What a teardown is told of the run. -/
def Request.flag? : Request → Option Bool
  | teardown success => some success
  | _ => none

/-- What a task tells of the run: whether the log store is to be dumped, and whether it carries what
is needed for it. -/
def TeardownTask.tells (task : TeardownTask) : Bool × Bool := (task.dumpsLogs, task.dump.isSome)

theorem tells_teardownTask (l : Lifecycle) (success : Bool) (x : Except Fault (Option String)) :
    (l.teardownTask success x).tells = (!success, !success) := by
  have carried := dump_teardownTask_isSome l.settings.cloud l.settings.queues l.settings.store
    (answeredAddress l.ownName x) ⟨success, l.ownName, l.indexDate⟩
  exact Prod.ext rfl carried

theorem submitted_closing (l : Lifecycle) (success : Bool) (x : Except Fault (Option String))
    (y : Except Fault Unit) :
    submitted (l.closing success x y) = [l.teardownTask success x] := rfl

variable [Services σ] {l : Lifecycle}

/-! ### Teardown of a run that waits for it -/

theorem exec_call_deeds (c : Call) (s : Session σ) :
    ∃ x s', (Task.call c).exec s = (.ok x, s') ∧ s'.deeds = s.deeds ++ [.asked c x] :=
  ⟨_, _, Task.exec_call c s, Session.deeds_note _ _⟩

theorem exec_storeAddress (ns : String) (s : Session σ) :
    ∃ x s', (storeAddress ns).exec s = (.ok (answeredAddress ns x), s') ∧
      s'.deeds = s.deeds ++ [.asked (.serviceAddress ns indexerName) x] := by
  obtain ⟨x, s', asked, deeds⟩ := exec_call_deeds (.serviceAddress ns indexerName) s
  have asked : (Task.call (.serviceAddress ns indexerName)).attempt.exec s = (.ok x, s') := asked
  refine ⟨x, s', ?_, deeds⟩
  unfold storeAddress
  rw [Act.exec_bind, asked]
  rcases x with f | _ | address <;> rfl

theorem exec_reportOutcome (cloud : CloudSettings) (queues : QueueSettings) (store : StoreSettings)
    (address : String) (o : RunOutcome) (s : Session σ) :
    ∃ y s', (reportOutcome cloud queues store address o).exec s =
        (.ok (y.map fun _ => teardownTask cloud queues store address o), s') ∧
      s'.deeds = s.deeds ++ [.asked (.submit (teardownQueue cloud queues)
        (teardownTask cloud queues store address o)) y] := by
  obtain ⟨y, s', handed, deeds⟩ := exec_call_deeds (.submit (teardownQueue cloud queues)
    (teardownTask cloud queues store address o)) s
  refine ⟨y, s', ?_, deeds⟩
  unfold reportOutcome
  rw [Task.exec_bind, handed]
  cases y <;> rfl

theorem exec_teardown_reporting (success : Bool) (phase : l.phase = .reporting)
    (open_ : l.reported = false) (s : Session σ) :
    ∃ x y s', (teardown success).exec l s =
        (.ok (y.map fun _ => some (l.teardownTask success x),
          { l with reported := true }.enter .done), s') ∧
      s'.deeds = s.deeds ++ l.closing success x y := by
  obtain ⟨x, s₁, asked, deeds₁⟩ := exec_storeAddress l.ownName s
  obtain ⟨y, s₂, handed, deeds₂⟩ := exec_reportOutcome l.settings.cloud l.settings.queues
    l.settings.store (answeredAddress l.ownName x) ⟨success, l.ownName, l.indexDate⟩ s₁
  have edge : Transition.find? ({ l with reported := true } : Lifecycle).phase .reported =
      some ⟨.reporting, .done, .reported, "Teardown task submitted"⟩ := by
    show Transition.find? l.phase _ = _
    rw [phase]
    rfl
  have direct : (teardown success).exec l s = (handOver success).exec l s := by
    have hg : (get : Operation σ Lifecycle).exec l s = (.ok (l, l), s) := rfl
    unfold teardown
    rw [Operation.exec_bind, hg]
    simp only [open_, phase, reportingTriggers]
    rfl
  have handed : (reportOutcome l.settings.cloud l.settings.queues l.settings.store
      (answeredAddress l.ownName x) ⟨success, l.ownName, l.indexDate⟩).attempt.exec s₁ = _ := handed
  refine ⟨x, y, s₂.note (.entered .done s₂.clock), ?_, ?_⟩
  · have hg : (get : Operation σ Lifecycle).exec l s = (.ok (l, l), s) := rfl
    have mark : (set { l with reported := true } : Operation σ PUnit).exec l s =
      (.ok ((), { l with reported := true }), s) := rfl
    rw [direct]
    unfold handOver
    rw [Operation.exec_bind, hg]
    dsimp only
    rw [Operation.exec_bind, mark]
    dsimp only
    rw [Operation.exec_bind, Operation.exec_act, asked]
    dsimp only
    rw [Operation.exec_bind, Operation.exec_act, handed]
    dsimp only
    rw [Operation.exec_bind, Operation.exec_fire_some edge]
    cases y <;> rfl
  · rw [Session.deeds_note, deeds₂, deeds₁, List.append_assoc, List.append_assoc]
    rfl

/-! ### Requests after a failed setup -/

/-- Teardown is the only request that has an effect on a run that waits for it. -/
theorem Request.perform_reporting {q : Request} (other : q.flag? = none)
    (phase : l.phase = .reporting) (s : Session σ) : ∃ x, q.perform.exec l s = (.ok (x, l), s) := by
  have started : l.phase ≠ .notStarted := by
    rw [phase]
    decide
  cases q with
  | setup skip =>
    obtain ⟨f, hf⟩ := exec_setup_of_started skip started s
    exact ⟨.setup (.error f), Operation.exec_answer Response.setup hf⟩
  | beginScenarios =>
    obtain ⟨f, hf⟩ := exec_beginScenarios_of_unready (by rw [phase]; decide) s
    exact ⟨.beginScenarios (.error f), Operation.exec_answer Response.beginScenarios hf⟩
  | teardown success => cases other
  | run suite =>
    obtain ⟨f, hf⟩ := exec_runSuite_of_started suite started s
    exact ⟨.run (.error f), Operation.exec_answer Response.run hf⟩

/-- The first teardown hands over the one task, with its own flag. -/
theorem performAll_reporting (after : List Request) (phase : l.phase = .reporting)
    (open_ : l.reported = false) (s : Session σ) :
    ∃ xs l' s' n, (performAll after).exec l s = (.ok (xs, l'), s') ∧ s'.deeds = s.deeds ++ n ∧
      (submitted n).map TeardownTask.tells =
        ((after.filterMap Request.flag?).head?.map fun success => (!success, !success)).toList := by
  induction after with
  | nil => exact ⟨[], l, s, [], rfl, (List.append_nil _).symm, rfl⟩
  | cons q rest ih =>
    cases flag : q.flag? with
    | none =>
      obtain ⟨x, performed⟩ := Request.perform_reporting flag phase s
      obtain ⟨xs, l', s', n, others, deeds, tells⟩ := ih
      refine ⟨x :: xs, l', s', n, ?_, deeds, ?_⟩
      · rw [exec_performAll_cons performed, others]
      · rw [List.filterMap_cons_none flag]
        exact tells
    | some success =>
      have teardown_ : q = .teardown success := by
        cases q <;> cases flag
        rfl
      obtain ⟨x, y, s₁, torn, deeds⟩ := exec_teardown_reporting success phase open_ s
      have performed := Operation.exec_answer Response.teardown torn
      obtain ⟨xs, still⟩ := performAll_still rest
        (l := { l with reported := true }.enter .done) rfl s₁
      have ended := (exec_performAll_cons (q := .teardown success) performed).trans (by rw [still])
      rw [teardown_]
      refine ⟨_, _, s₁, l.closing success x y, ended, deeds, ?_⟩
      rw [submitted_closing, List.map_singleton, tells_teardownTask]
      rfl

/-- When setup fails after any requests, the ones that follow it hand over one task at most: if a
teardown is among them, with the flag of the first one. It tells of a failure just when this flag
does. -/
theorem requests_flag_failure (b : Blueprint) (st : Settings) (draws : SuffixDraws)
    (born : Timestamp) (world : σ) (clock : Duration) (calendar : Duration → Timestamp)
    (patience : Nat) (before after : List Request) {responses : List Response} {l l₁ : Lifecycle}
    {s s₁ : Session σ} {f : PhaseFailure}
    (performed : (performAll before).exec (.create b st draws born)
      ⟨world, clock, calendar, patience, []⟩ = (.ok (responses, l), s))
    (failed : (setup false).exec l s = (.ok (.ok (.failed f), l₁), s₁)) :
    ∃ xs l₂ s₂ n, (performAll after).exec l₁ s₁ = (.ok (xs, l₂), s₂) ∧
      s₂.deeds = s₁.deeds ++ n ∧
      (submitted n).map TeardownTask.tells =
        ((after.filterMap Request.flag?).head?.map fun success => (!success, !success)).toList := by
  have obeys := performAll_obeys (σ := σ) before (Standing.create b st draws born)
  obtain ⟨-, -, -, p, stands⟩ := Operation.Obeys.result
    (s := ⟨world, clock, calendar, patience, []⟩) obeys performed
  obtain ⟨-, -, -, ends⟩ := Operation.Obeys.result (setup_obeys false stands.standing) failed
  have ends : SetupEnds l s.deeds false (.ok (.failed f)) l₁ s₁.deeds := ends
  cases ends with
  | failed reached =>
    apply performAll_reporting after reached.phase
    have unreported := reached.standing.reported
    rw [reached.phase] at unreported
    exact eq_false_of_ne_true fun reported => nomatch unreported.1 reported

/-- A world that creates no namespace. -/
def Picky.spaceless : Picky := ⟨fun c => c matches .createNamespace ..⟩

/-- Of three requests after a failed setup one hands over a task: the first teardown. -/
theorem requests_flag_failure_first :
    ∃ f l₁ s₁, (setup false).exec (.least false) Picky.spaceless.session =
        (.ok (.ok (.failed f), l₁), s₁) ∧
      ∃ xs l₂ s₂ n,
        (performAll [.beginScenarios, .teardown false, .teardown true]).exec l₁ s₁ =
          (.ok (xs, l₂), s₂) ∧
        s₂.deeds = s₁.deeds ++ n ∧ (submitted n).map TeardownTask.tells = [(true, true)] := by
  have start : (performAll []).exec (.least false) Picky.spaceless.session =
    (.ok ([], .least false), Picky.spaceless.session) := rfl
  obtain ⟨f, l₁, s₁, failed⟩ : ∃ f l₁ s₁, (setup false).exec (.least false)
    Picky.spaceless.session = (.ok (.ok (.failed f), l₁), s₁) := ⟨_, _, _, rfl⟩
  exact ⟨f, l₁, s₁, failed, requests_flag_failure _ _ _ _ _ _ _ _ []
    [.beginScenarios, .teardown false, .teardown true] start failed⟩

/-- A setup that failed is handed over as a success when teardown is told so. -/
theorem failed_setup_told_success :
    ∃ f l s task l' s',
      (setup false).exec (.least false) Picky.spaceless.session = (.ok (.ok (.failed f), l), s) ∧
      (teardown true).exec l s = (.ok (.ok (some task), l'), s') ∧
      task.dumpsLogs = false ∧ task.dump = none :=
  ⟨_, _, _, _, _, _, rfl, rfl, rfl, rfl⟩

end ProvingGround
