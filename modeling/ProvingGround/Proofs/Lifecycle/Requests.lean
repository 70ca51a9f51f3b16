import ProvingGround.Proofs.Lifecycle.Suite

/-!
# Requests to a run

A run is driven by requests, in any order and with anything in them. Each leaves the record standing
as the trace says, and keeps to the law of the run; so does every sequence of them.
-/

namespace ProvingGround

variable {σ : Type} [Services σ] {t : List Deed} {l : Lifecycle}

/-! ### Requests -/

/-- What a run can be asked to do. -/
inductive Request where
  | setup (skip : Bool)
  | beginScenarios
  | teardown (success : Bool)
  | run (suite : Suite)

/-- What comes of a request. -/
inductive Response where
  | setup (r : Except PhaseFailure SetupResult)
  | beginScenarios (r : Except Fault Unit)
  | teardown (r : Except Fault (Option TeardownTask))
  | run (r : Except PhaseFailure Report)

/-- Setup, alone or at the beginning of a run, has failed. -/
def Response.isSetupError : Response → Bool
  | setup (.error _) => true
  | run (.error _) => true
  | _ => false

def Request.perform : Request → Operation σ Response
  | setup skip => do return .setup (← ExceptT.run (ProvingGround.setup skip))
  | beginScenarios => do return .beginScenarios (← ProvingGround.beginScenarios)
  | teardown success => do return .teardown (← ProvingGround.teardown success)
  | run suite => do return .run (← ExceptT.run (runSuite suite))

def performAll : List Request → Operation σ (List Response)
  | [] => pure []
  | q :: rest => do
    let r ← q.perform
    let later ← performAll rest
    pure (r :: later)

/-! ### One request -/

/-- Nothing can be asked of a run any more: it is over, or its setup was given up. -/
def Phase.isStill (p : Phase) : Bool := p.isTerminal || p.isUnfinished

theorem SetupEnds.isStill {skip : Bool} {f : PhaseFailure} {l' : Lifecycle} {later : List Deed}
    (ends : SetupEnds l t skip (.error f) l' later) (start : l.phase = .notStarted) :
    l'.phase.isStill = true := by
  cases ends with
  | aborted unfinished reached =>
    unfold Phase.isStill
    rw [reached.phase, unfinished, Bool.or_true]
  | refused started => exact absurd start started

theorem TeardownEnds.reaches {success : Bool} {x : Except Fault (Option TeardownTask)}
    {l' : Lifecycle} {later : List Deed} (h : Standing l t)
    (ends : TeardownEnds l t success x l' later) : ∃ p, Reaches l p l' later := by
  cases ends with
  | nothing => exact ⟨_, .refl h⟩
  | handed reached => exact ⟨_, reached⟩

variable {law : List Deed → Deed → Prop} {J : Lifecycle → List Deed → Prop}

theorem Upkeep.beginScenarios_obeys (u : Upkeep σ law J) (h : Standing l t) (hJ : J l t) :
    (beginScenarios : Operation σ _).Obeys law t l
      fun _ l' later => (∃ p, Reaches l p l' later) ∧ J l' later := by
  apply Operation.obeys_fire
  · intro e he
    have open_ : e.target ≠ .done := by
      obtain ⟨mem, -, trigger⟩ := Transition.find?_eq_some he
      have targets : ∀ e ∈ Transition.table, e.trigger = .scenariosStarted → e.target ≠ .done := by
        decide
      exact targets e mem trigger
    exact ⟨u.entered _ _, ⟨e.target, (Reaches.refl h).enter he open_⟩,
      u.enter hJ List.mem_cons_self he⟩
  · intro _
    exact ⟨⟨_, .refl h⟩, hJ⟩

/-- Every request leaves the record standing, and a setup that fails leaves a run of which nothing
can be asked. -/
theorem Upkeep.perform_obeys (u : Upkeep σ law J) (q : Request) (h : Standing l t) (hJ : J l t) :
    (q.perform : Operation σ Response).Obeys law t l fun x l' later =>
      ((∃ p, Reaches l p l' later) ∧
        (l.phase = .notStarted → x.isSetupError = true → l'.phase.isStill = true)) ∧
      J l' later := by
  cases q with
  | setup skip =>
    apply Operation.obeys_answer (u.setup_obeys skip h hJ)
    intro r l' n given
    cases r with
    | error f =>
      obtain ⟨kept, ends⟩ := given
      exact ⟨⟨ends.reaches h, fun start _ => ends.isStill start⟩, kept⟩
    | ok v =>
      obtain ⟨kept, ends⟩ := given
      exact ⟨⟨ends.reaches h, fun _ => Bool.noConfusion⟩, kept⟩
  | beginScenarios =>
    apply Operation.obeys_answer (u.beginScenarios_obeys h hJ)
    intro r l' n given
    exact ⟨⟨given.1, fun _ => Bool.noConfusion⟩, given.2⟩
  | teardown success =>
    apply Operation.obeys_answer (u.teardown_obeys success h hJ)
    intro r l' n given
    exact ⟨⟨given.1.reaches h, fun _ => Bool.noConfusion⟩, given.2⟩
  | run suite =>
    apply Operation.obeys_answer (u.runSuite_obeys suite h hJ)
    intro r l' n given
    cases r with
    | error f =>
      obtain ⟨⟨skip, ends⟩, kept⟩ := given
      exact ⟨⟨ends.reaches h, fun start _ => ends.isStill start⟩, kept⟩
    | ok report =>
      obtain ⟨⟨p, -, reached⟩, kept⟩ := given
      exact ⟨⟨⟨p, reached⟩, fun _ => Bool.noConfusion⟩, kept⟩

theorem Request.perform_obeys (q : Request) (h : Standing l t) :
    (q.perform : Operation σ Response).Obeys (RunLaw l.runId) t l fun x l' later =>
      (∃ p, Reaches l p l' later) ∧
        (l.phase = .notStarted → x.isSetupError = true → l'.phase.isStill = true) :=
  ((runUpkeep l.runId).perform_obeys q h rfl).mono fun _ _ _ performed => performed.1

/-! ### Sequences of requests -/

theorem Upkeep.performAll_obeys (u : Upkeep σ law J) (qs : List Request) (h : Standing l t)
    (hJ : J l t) :
    (performAll qs : Operation σ _).Obeys law t l
      fun _ l' later => (∃ p, Reaches l p l' later) ∧ J l' later := by
  induction qs generalizing l t with
  | nil => exact Operation.obeys_pure ⟨⟨_, .refl h⟩, hJ⟩
  | cons q rest ih =>
    apply (u.perform_obeys q h hJ).bind
    intro r l' n performed
    obtain ⟨⟨⟨p, reached⟩, -⟩, kept⟩ := performed
    apply (ih reached.standing kept).bind
    intro rs l₂ m performed
    obtain ⟨⟨q, reached'⟩, kept⟩ := performed
    exact Operation.obeys_pure ⟨⟨q, reached.trans reached'⟩, kept⟩

theorem performAll_obeys (qs : List Request) (h : Standing l t) :
    (performAll qs : Operation σ _).Obeys (RunLaw l.runId) t l
      fun _ l' later => ∃ p, Reaches l p l' later :=
  ((runUpkeep l.runId).performAll_obeys qs h rfl).mono fun _ _ _ performed => performed.1

/-! ### Runs that are over -/

theorem Request.perform_still (q : Request) (still : l.phase.isStill = true) (s : Session σ) :
    ∃ x, q.perform.exec l s = (.ok (x, l), s) := by
  cases q with
  | setup skip =>
    have started : l.phase ≠ .notStarted := by
      intro h
      rw [h] at still
      cases still
    obtain ⟨f, hf⟩ := exec_setup_of_started skip started s
    exact ⟨.setup (.error f), Operation.exec_answer Response.setup hf⟩
  | beginScenarios =>
    have unready : l.phase ≠ .genesisSynced := by
      intro h
      rw [h] at still
      cases still
    obtain ⟨f, hf⟩ := exec_beginScenarios_of_unready unready s
    exact ⟨.beginScenarios (.error f), Operation.exec_answer Response.beginScenarios hf⟩
  | teardown success =>
    have nothing : reportingTriggers l.phase = none := by
      revert still
      cases l.phase <;> decide
    exact ⟨_, Operation.exec_answer Response.teardown (exec_teardown_of_nothing success nothing s)⟩
  | run suite =>
    have started : l.phase ≠ .notStarted := by
      intro h
      rw [h] at still
      cases still
    obtain ⟨f, hf⟩ := exec_runSuite_of_started suite started s
    exact ⟨.run (.error f), Operation.exec_answer Response.run hf⟩

theorem performAll_still (qs : List Request) (still : l.phase.isStill = true) (s : Session σ) :
    ∃ xs, (performAll qs).exec l s = (.ok (xs, l), s) := by
  induction qs with
  | nil => exact ⟨[], rfl⟩
  | cons q rest ih =>
    obtain ⟨x, hx⟩ := q.perform_still still s
    obtain ⟨xs, hxs⟩ := ih
    refine ⟨x :: xs, ?_⟩
    unfold performAll
    rw [Operation.exec_bind, hx]
    dsimp only
    rw [Operation.exec_bind, hxs]
    rfl

/-! ### Two worlds -/

/-- A world in which every call is refused, and one in which every call is granted. -/
inductive Biased where
  | refusing
  | willing

instance : Services Biased where
  respond w _ c :=
    let granted : Except Fault c.Answer :=
      match c with
      | .listNamespaces => .ok []
      | .createNamespace _ | .create .. | .createPool _ | .submit .. => .ok ()
      | .listPods .. => .ok [⟨"pod", "10.0.0.1", true⟩]
      | .podLogs .. => .ok timingPhrase
      | .workloadStatus .. => .ok (some ⟨coverageCap, coverageCap⟩)
      | .serviceAddress .. => .ok (some "35.0.0.1")
      | .poolStatus _ => .ok (some .running)
      | .startTiming .. => .ok "\x7b\x7d"
    match w with
    | .refusing => (⟨.zero, .error (.cloud "refused")⟩, .refusing)
    | .willing => (⟨.zero, granted⟩, .willing)

def Biased.session (w : Biased) : Session Biased := ⟨w, .zero, fun _ => ⟨0⟩, 1, []⟩

/-- A network of one node and one client. -/
def Blueprint.least : Blueprint where
  ns := ""
  bootstrap := { image := "node" }
  client := { image := "node" }
  genesisDelta := 0
  readyTimeout := 0

/-- A network whose first clients are configured with arguments of all kinds, one of them under a
name of the harness, and whose second clients keep their image. -/
def Blueprint.mixed : Blueprint where
  ns := ""
  bootstrap := { image := "node", resources := { requests := .ofList [("memory", "1G")] } }
  client :=
    { image := "node"
      args := .ofList [("bootstrap", .text "none"), ("seed", .int (-3)), ("accel", .bool true),
        ("rate", .float (.ofDecimal true 25 (-2)))] }
  clientv2 := some
    { keepsImage := true
      node := { image := "old", resources := { requests := .ofList [("memory", "20G")] } } }
  genesisDelta := 0
  readyTimeout := 0

def Lifecycle.least (debug : Bool) : Lifecycle :=
  .create .least { (default : Settings) with debug } (.ofNat 0) ⟨0⟩

end ProvingGround
