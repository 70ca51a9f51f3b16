import ProvingGround.Proofs.Acceptance
import ProvingGround.Proofs.Report

/-!
# Requests out of turn

A request that asks a run to take a step it cannot take is refused before it has any effect. A
service may tell of a transition that is refused as well; what comes of a request is then no refusal
by the run, and some answer shows it.
-/

namespace ProvingGround

variable {σ : Type}

/-! ### Refusals -/

/-- What a request has failed of, raised or kept in what comes of it. -/
def Response.fault? : Response → Option Fault
  | setup r => (failureOf r).map (·.fault)
  | beginScenarios (.error f) => some f
  | teardown (.error f) => some f
  | run (.error f) => some f.fault
  | run (.ok report) => report.setupFailure.map (·.fault)
  | _ => none

/-- Since the session `s` a call has been answered with the fault. -/
def Heard (s s' : Session σ) (f : Fault) : Prop :=
  ∃ n c, s'.deeds = s.deeds ++ n ∧ .asked c (.error f) ∈ n

/-- A request has come to a transition that is invalid, of which nothing was heard. -/
def Refused (s : Session σ) (x : Response) (s' : Session σ) : Prop :=
  ∃ p t, x.fault? = some (.invalidTransition p t) ∧ ¬ Heard s s' (.invalidTransition p t)

/-- The only phase from which a run can follow the request. Teardown has none: what it finds, it
takes. -/
def Request.start? : Request → Option Phase
  | setup _ => some .notStarted
  | run _ => some .notStarted
  | beginScenarios => some .genesisSynced
  | teardown _ => none

/-- The request asks for a step that cannot be taken from the phase. -/
def Request.IsOutOfTurn (q : Request) (p : Phase) : Prop :=
  ∃ start, q.start? = some start ∧ p ≠ start

theorem Heard.later {s s₁ s₂ : Session σ} {f : Fault} {m : List Deed} (h : Heard s s₁ f)
    (more : s₂.deeds = s₁.deeds ++ m) : Heard s s₂ f := by
  obtain ⟨n, c, trace, told⟩ := h
  refine ⟨n ++ m, c, ?_, List.mem_append_left m told⟩
  rw [more, trace, List.append_assoc]

theorem not_heard_still (s : Session σ) (f : Fault) : ¬ Heard s s f := by
  rintro ⟨n, c, trace, told⟩
  rw [List.self_eq_append_right.1 trace] at told
  cases told

section Requests

variable [Services σ] {l l' : Lifecycle} {s s' : Session σ}

/-- A request out of turn changes neither the run nor the session. -/
theorem Request.exec_of_isOutOfTurn {q : Request} (out : q.IsOutOfTurn l.phase) (s : Session σ) :
    ∃ x, q.perform.exec l s = (.ok (x, l), s) ∧ Refused s x s := by
  obtain ⟨start, asks, other⟩ := out
  cases q with
  | setup skip =>
    cases asks
    exact ⟨_, Operation.exec_answer Response.setup (exec_setup_refused skip other s), _, _, rfl,
      not_heard_still s _⟩
  | beginScenarios =>
    cases asks
    exact ⟨_, Operation.exec_answer Response.beginScenarios (exec_beginScenarios_refused other s),
      _, _, rfl, not_heard_still s _⟩
  | teardown success => cases asks
  | run suite =>
    cases asks
    exact ⟨_, Operation.exec_answer Response.run (exec_runSuite_refused suite other s), _, _, rfl,
      not_heard_still s _⟩

/-! ### Requests in turn -/

theorem mem_of_append_eq_concat {α : Type} {before pre n : List α} {d : α} (some_ : n ≠ [])
    (h : before ++ n = pre ++ [d]) : d ∈ n := by
  obtain ⟨m, e, rfl⟩ := (List.eq_nil_or_concat' n).resolve_left some_
  rw [← List.append_assoc] at h
  cases (List.append_inj' h rfl).2
  exact List.mem_append_right m List.mem_cons_self

/-- A setup that begins and fails of an invalid transition has been told of it. -/
theorem setup_heard {skip : Bool} {r : Except PhaseFailure SetupResult} {f : PhaseFailure}
    {p : Phase} {t : Trigger} (h : Standing l s.deeds) (start : l.phase = .notStarted)
    (ended : (setup skip).exec l s = (.ok (r, l'), s')) (failed : failureOf r = some f)
    (invalid : f.fault = .invalidTransition p t) : Heard s s' f.fault := by
  cases skip with
  | true =>
    rw [exec_setup_skip start] at ended
    cases ended
    cases failed
  | false =>
    have begun : s.begun.deeds = s.deeds ++ [.entered .provisioning] := Session.deeds_note _ _
    have clear : Clear [] s.begun.deeds := by
      rw [begun]
      exact (Clear.of_untouched (h.untouched (.inl start))).append (by simp [Deed.oneShot?])
    obtain ⟨l₁, s₁, -, ⟨n, trace⟩, attributed, m, history⟩ :=
      exec_setup_failed start clear ended failed
    have more : s'.deeds = s₁.deeds ++ m.map Event.deed :=
      (congrArg (List.map Event.deed) history).trans List.map_append
    -- the last deed has decided the failure; of its own accord setup fires nothing invalid
    obtain ⟨pre, d, last, decides⟩ := attributed.blamed.decided
    obtain ⟨c, rfl⟩ := decides.of_invalidTransition invalid
    rw [begun, List.append_assoc] at trace
    have answered : .asked c (.error f.fault) ∈ [.entered .provisioning] ++ n :=
      mem_of_append_eq_concat (List.cons_ne_nil _ _) (trace.symm.trans last)
    exact Heard.later ⟨_, c, trace, answered⟩ more

/-- The end of a run adds no fault of its own to the report. -/
theorem concludeRun_fault {r : Report} {outcome : Except PhaseFailure Report} {f : Fault}
    (h : Standing l s.deeds) (ended : (concludeRun r).exec l s = (.ok (outcome, l'), s'))
    (fault : (Response.run outcome).fault? = some f) :
    r.setupFailure.map (·.fault) = some f ∧ ∃ n, s'.deeds = s.deeds ++ n := by
  obtain ⟨n, trace, -, ends⟩ := Operation.Obeys.result (concludeRun_obeys r h) ended
  cases outcome with
  | error f => exact ends.elim
  | ok report =>
    obtain ⟨z, rfl, -⟩ := ends
    exact ⟨fault, n, trace⟩

theorem setup_not_refused {skip : Bool} {r : Except PhaseFailure SetupResult}
    (h : Standing l s.deeds) (start : l.phase = .notStarted)
    (ended : (setup skip).exec l s = (.ok (r, l'), s')) : ¬ Refused s (.setup r) s' := by
  rintro ⟨p, t, fault, unheard⟩
  obtain ⟨f, failed, invalid⟩ := Option.map_eq_some_iff.1 fault
  have heard := setup_heard h start ended failed invalid
  rw [invalid] at heard
  exact unheard heard

theorem runSuite_not_refused {suite : Suite} {r : Except PhaseFailure Report}
    (h : Standing l s.deeds) (start : l.phase = .notStarted)
    (ended : (runSuite suite).exec l s = (.ok (r, l'), s')) : ¬ Refused s (.run r) s' := by
  rintro ⟨p, t, fault, unheard⟩
  unfold runSuite at ended
  cases skip : suite.isSkipped with
  | true =>
    rw [if_pos skip, Step.exec_bind, exec_setup_skip start] at ended
    cases ended
    cases fault
  | false =>
    rw [if_neg (by rw [skip]; exact Bool.false_ne_true), Step.exec_bind] at ended
    rcases set : (setup false).exec l s with ⟨halt | ⟨x, l₁⟩, s₁⟩ <;> rw [set] at ended
    · cases ended
    obtain ⟨n, trace, -, ends⟩ := Operation.Obeys.result (setup_obeys (σ := σ) false h) set
    cases x with
    | error f =>
      cases ended
      exact setup_not_refused h start set ⟨p, t, fault, unheard⟩
    | ok result =>
      cases ends with
      | @ready env _ _ reached =>
        dsimp only at ended
        rw [Step.exec_bind] at ended
        have scenarios := exec_runScenarios reached.phase suite env s₁
        rcases execute : (executeAll env suite.scenarios).exec
          (s₁.note (.entered .running s₁.clock)) with ⟨halt | results, s₂⟩ <;>
          rw [execute] at scenarios <;> rw [scenarios] at ended
        · cases ended
        · obtain ⟨-, -, -, running⟩ := Operation.Obeys.result
            (runScenarios_obeys suite env reached) scenarios
          -- there was no failure of setup that the report could keep
          cases (concludeRun_fault running.standing ended fault).1
      | @failed f _ _ reached =>
        dsimp only at ended
        rw [Step.exec_bind, Step.exec_record] at ended
        obtain ⟨fault, m, more⟩ := concludeRun_fault reached.standing ended fault
        exact setup_not_refused h start set ⟨p, t, fault, fun heard => unheard (heard.later more)⟩

omit [Services σ] in
theorem beginScenarios_not_refused {r : Except Fault Unit} (ready : l.phase = .genesisSynced)
    (ended : (beginScenarios : Operation σ _).exec l s = (.ok (r, l'), s')) :
    ¬ Refused s (.beginScenarios r) s' := by
  have edge : Transition.find? l.phase .scenariosStarted =
      some ⟨.genesisSynced, .running, .scenariosStarted, "Scenarios running"⟩ := by
    rw [ready]
    rfl
  unfold beginScenarios at ended
  rw [Operation.exec_fire_some edge] at ended
  cases ended
  rintro ⟨p, t, fault, -⟩
  cases fault

theorem teardown_not_refused {success : Bool} {r : Except Fault (Option TeardownTask)}
    (h : Standing l s.deeds) (ended : (teardown success).exec l s = (.ok (r, l'), s')) :
    ¬ Refused s (.teardown r) s' := by
  rintro ⟨p, t, fault, unheard⟩
  obtain ⟨n, -, -, ends⟩ := Operation.Obeys.result (teardown_obeys success h) ended
  generalize deeds : s'.deeds = later at ends
  cases ends with
  | nothing => cases fault
  | @handed _ _ m x y reached own trace =>
    cases y with
    | ok u => cases fault
    | error f =>
      cases fault
      rw [List.append_assoc] at trace
      refine unheard ⟨_, .submit l'.teardownQueue (l'.teardownTask success x),
        deeds.trans trace, List.mem_append_right m ?_⟩
      exact List.mem_cons_of_mem _ List.mem_cons_self

/-- Where nothing is torn down, nothing changes. -/
theorem teardown_of_none {success : Bool} (h : Standing l s.deeds)
    (ended : (teardown success).exec l s = (.ok (.ok none, l'), s')) : l' = l ∧ s' = s := by
  obtain ⟨n, -, -, ends⟩ := Operation.Obeys.result (teardown_obeys success h) ended
  generalize none_ : (.ok none : Except Fault (Option TeardownTask)) = x at ends
  generalize s'.deeds = later at ends
  cases ends with
  | nothing unready =>
    rw [exec_teardown_of_nothing success unready] at ended
    cases ended
    exact ⟨rfl, rfl⟩
  | @handed _ _ m x y =>
    cases y <;> cases none_

/-- What comes of a request in turn is no refusal. -/
theorem Request.isOutOfTurn_of_refused {q : Request} {x : Response} (h : Standing l s.deeds)
    (ended : q.perform.exec l s = (.ok (x, l'), s')) (refused : Refused s x s') :
    q.IsOutOfTurn l.phase := by
  cases q with
  | setup skip =>
    obtain ⟨r, given, rfl⟩ := Operation.exec_answer_ok ended
    exact ⟨_, rfl, fun start => setup_not_refused h start given refused⟩
  | beginScenarios =>
    obtain ⟨r, given, rfl⟩ := Operation.exec_answer_ok ended
    exact ⟨_, rfl, fun ready => beginScenarios_not_refused ready given refused⟩
  | teardown success =>
    obtain ⟨r, given, rfl⟩ := Operation.exec_answer_ok ended
    exact absurd refused (teardown_not_refused h given)
  | run suite =>
    obtain ⟨r, given, rfl⟩ := Operation.exec_answer_ok ended
    exact ⟨_, rfl, fun start => runSuite_not_refused h start given refused⟩

end Requests

/-- Whatever has been asked of a run, in whatever order and in whatever world, a request is refused
just when it is out of turn. What is refused, or tears nothing down, leaves the record of the run
and the session as they were. -/
theorem requests_refused_idle [Services σ] (b : Blueprint) (st : Settings) (draws : SuffixDraws)
    (born : Timestamp) (world : σ) (clock : Duration) (calendar : Duration → Timestamp)
    (patience : Nat) (requests : List Request) {responses : List Response} {l : Lifecycle}
    {s : Session σ}
    (performed : (performAll requests).exec (.create b st draws born)
      ⟨world, clock, calendar, patience, []⟩ = (.ok (responses, l), s)) (q : Request) :
    (q.IsOutOfTurn l.phase ↔
      ∃ x l' s', q.perform.exec l s = (.ok (x, l'), s') ∧ Refused s x s') ∧
    ∀ x l' s', q.perform.exec l s = (.ok (x, l'), s') →
      Refused s x s' ∨ x = .teardown (.ok none) → l' = l ∧ s' = s := by
  obtain ⟨-, -, -, p, reached⟩ := Operation.Obeys.result (s := ⟨world, clock, calendar, patience, []⟩)
    (performAll_obeys (σ := σ) requests (.create b st draws born)) performed
  have stands := reached.standing
  constructor
  · constructor
    · intro out
      obtain ⟨x, ended, refused⟩ := Request.exec_of_isOutOfTurn out s
      exact ⟨x, l, s, ended, refused⟩
    · rintro ⟨x, l', s', ended, refused⟩
      exact Request.isOutOfTurn_of_refused stands ended refused
  · rintro x l' s' ended (refused | rfl)
    · have out := Request.isOutOfTurn_of_refused stands ended refused
      obtain ⟨y, same, -⟩ := Request.exec_of_isOutOfTurn out s
      rw [same] at ended
      cases ended
      exact ⟨rfl, rfl⟩
    · cases q with
      | teardown success =>
        obtain ⟨r, given, same⟩ := Operation.exec_answer_ok ended
        cases same
        exact teardown_of_none stands given
      | setup | beginScenarios | run =>
        obtain ⟨r, -, same⟩ := Operation.exec_answer_ok ended
        cases same

/-- Once a run has been set up, it is not set up again, and no suite is run. -/
theorem requests_refused_idle_second :
    ∃ responses l s,
      (performAll [.setup false, .teardown false]).exec (.least false) Biased.refusing.session =
        (.ok (responses, l), s) ∧
      ∃ x, (Request.setup false).perform.exec l s = (.ok (x, l), s) ∧ Refused s x s := by
  obtain ⟨responses, l, s, performed, done⟩ : ∃ responses l s,
      (performAll [.setup false, .teardown false]).exec (.least false) Biased.refusing.session =
        (.ok (responses, l), s) ∧ l.phase = .done := ⟨_, _, _, rfl, rfl⟩
  obtain ⟨refusals, idle⟩ := requests_refused_idle _ _ _ _ _ _ _ _ _ performed (.setup false)
  have out : (Request.setup false).IsOutOfTurn l.phase := ⟨_, rfl, by rw [done]; decide⟩
  obtain ⟨x, l', s', ended, refused⟩ := refusals.1 out
  obtain ⟨rfl, rfl⟩ := idle x l' s' ended (.inl refused)
  exact ⟨responses, l', s', performed, x, ended, refused⟩

end ProvingGround
