import ProvingGround.Proofs.Lifecycle.OnTime
import ProvingGround.Proofs.Lifecycle.Requests

/-!
# Genesis is the same for all

The nodes of a run are told one instant of genesis, a span after the phase of the bootstrap group
starts. Setup is done at genesis or when the last group is found ready, whichever is later, and no
scenario begins before.
-/

namespace ProvingGround

variable {σ : Type} [Services σ] {l : Lifecycle} {s : Session σ} {t : List Deed}

/-- The request starts a run that has not started. -/
def Request.starts : Request → Bool
  | setup _ => true
  | run _ => true
  | _ => false

/-- The network that setup has given. -/
def Response.environment? : Response → Option Environment
  | setup (.ok (.ready env)) => some env
  | _ => none

theorem SetupEnds.started {skip : Bool} {x : Except PhaseFailure SetupResult} {l' : Lifecycle}
    {later : List Deed} (ends : SetupEnds l t skip x l' later) : l'.phase ≠ .notStarted := by
  cases ends with
  | ready reached | skipped reached | failed reached =>
    rw [reached.phase]
    decide
  | aborted unfinished reached =>
    rw [reached.phase]
    rintro rfl
    cases unfinished
  | refused started => exact started

theorem Request.perform_starts {q : Request} (starts : q.starts = true) (h : Standing l t) :
    (q.perform : Operation σ Response).Obeys (RunLaw l.runId) t l
      fun _ l' _ => l'.phase ≠ .notStarted := by
  have u : Upkeep σ (RunLaw l.runId) fun l' _ => l'.runId = l.runId := runUpkeep l.runId
  cases q with
  | setup skip =>
    apply Operation.obeys_answer (u.setup_obeys skip h rfl)
    intro r l' n given
    cases r with
    | error f => exact given.2.started
    | ok v => exact given.2.started
  | run suite =>
    apply Operation.obeys_answer (u.runSuite_obeys suite h rfl)
    intro r l' n given
    cases r with
    | error f =>
      obtain ⟨⟨skip, ends⟩, -⟩ := given
      exact ends.started
    | ok report =>
      obtain ⟨⟨p, terminal, reached⟩, -⟩ := given
      rw [reached.phase]
      rintro rfl
      cases terminal
  | beginScenarios | teardown => cases starts

theorem Request.started {q : Request} {x : Response} {l' : Lifecycle} {s' : Session σ}
    (starts : q.starts = true) (h : Standing l t)
    (performed : q.perform.exec l s = (.ok (x, l'), s')) : l'.phase ≠ .notStarted := by
  obtain ⟨_, -, -, started⟩ := q.perform_starts starts h s
  exact started (x, l') (congrArg Prod.fst performed)

/-- What was asked of a run that has started tells nodes nothing, and gives no network. -/
theorem Request.perform_later (q : Request) (started : l.phase ≠ .notStarted) (s : Session σ) :
    s.Later (Event.Heeds none) (q.perform.exec l s).2 ∧
      ∀ x l', (q.perform.exec l s).1 = .ok (x, l') →
        l'.phase ≠ .notStarted ∧ x.environment? = none := by
  have answered : ∀ {α : Type} {o : Operation σ α} {f : α → Response},
      o.Keeps (Event.Heeds none) → (∀ v, (f v).environment? = none) →
      s.Later (Event.Heeds none) ((do return f (← o) : Operation σ Response).exec l s).2 ∧
        ∀ x l', ((do return f (← o) : Operation σ Response).exec l s).1 = .ok (x, l') →
          l'.phase ≠ .notStarted ∧ x.environment? = none := by
    intro α o f keeps none
    obtain ⟨later, onward⟩ := keeps l s
    rw [Operation.exec_bind]
    rcases ho : o.exec l s with ⟨halt | ⟨v, l₁⟩, s₁⟩ <;> rw [ho] at later onward
    · refine ⟨later, fun x l' hx => ?_⟩
      cases hx
    · refine ⟨later, fun x l' hx => ?_⟩
      cases hx
      exact ⟨(onward v l₁ rfl).started started, none v⟩
  cases q with
  | setup skip =>
    obtain ⟨f, hf⟩ := exec_setup_of_started skip started s
    have refused : (Request.setup skip).perform.exec l s = (.ok (.setup (.error f), l), s) :=
      Operation.exec_answer Response.setup hf
    rw [refused]
    refine ⟨.refl s, fun x l' hx => ?_⟩
    cases hx
    exact ⟨started, rfl⟩
  | run suite =>
    obtain ⟨f, hf⟩ := exec_runSuite_of_started suite started s
    have refused : (Request.run suite).perform.exec l s = (.ok (.run (.error f), l), s) :=
      Operation.exec_answer Response.run hf
    rw [refused]
    refine ⟨.refl s, fun x l' hx => ?_⟩
    cases hx
    exact ⟨started, rfl⟩
  | beginScenarios => exact answered beginScenarios_heeds fun _ => rfl
  | teardown success => exact answered (teardown_heeds success) fun _ => rfl

theorem exec_performAll_cons {q : Request} {rest : List Request} {x : Response} {l₁ : Lifecycle}
    {s₁ : Session σ} (performed : q.perform.exec l s = (.ok (x, l₁), s₁)) :
    (performAll (q :: rest)).exec l s =
      match (performAll rest).exec l₁ s₁ with
      | (.ok (ys, l₂), s₂) => (.ok (x :: ys, l₂), s₂)
      | (.error h, s₂) => (.error h, s₂) := by
  have step : (performAll (q :: rest) : Operation σ _) =
      q.perform >>= fun r => performAll rest >>= fun later => pure (r :: later) := rfl
  rw [step, Operation.exec_bind, performed]
  dsimp only
  rw [Operation.exec_bind]
  rcases (performAll rest).exec l₁ s₁ with ⟨halt | ⟨ys, l₂⟩, s₂⟩ <;> rfl

theorem exec_performAll_halt {q : Request} {rest : List Request} {halt : Halt} {s₁ : Session σ}
    (halted : q.perform.exec l s = (.error halt, s₁)) :
    (performAll (q :: rest)).exec l s = (.error halt, s₁) := by
  unfold performAll
  rw [Operation.exec_bind, halted]

theorem performAll_later (qs : List Request) (started : l.phase ≠ .notStarted) (s : Session σ) :
    s.Later (Event.Heeds none) ((performAll qs).exec l s).2 ∧
      ∀ xs l', ((performAll qs).exec l s).1 = .ok (xs, l') → ∀ x ∈ xs, x.environment? = none := by
  induction qs generalizing l s with
  | nil =>
    refine ⟨.refl s, fun xs l' hxs => ?_⟩
    cases hxs
    intro x hx
    cases hx
  | cons q rest ih =>
    obtain ⟨first, given⟩ := q.perform_later started s
    rcases performed : q.perform.exec l s with ⟨halt | ⟨x, l₁⟩, s₁⟩ <;>
      rw [performed] at first given
    · rw [exec_performAll_halt performed]
      refine ⟨first, fun xs l' hxs => ?_⟩
      cases hxs
    · obtain ⟨started, none⟩ := given x l₁ rfl
      obtain ⟨later, others⟩ := ih started s₁
      rw [exec_performAll_cons performed]
      rcases hr : (performAll rest).exec l₁ s₁ with ⟨halt | ⟨ys, l₂⟩, s₂⟩ <;>
        rw [hr] at later others
      · refine ⟨first.trans later, fun xs l' hxs => ?_⟩
        cases hxs
      · refine ⟨first.trans later, fun xs l' hxs => ?_⟩
        cases hxs
        intro y hy
        rcases List.mem_cons.1 hy with rfl | hy
        · exact none
        · exact others ys l₂ rfl y hy

/-- A network that setup has given agrees with genesis. -/
def Response.OnTime (b : Blueprint) (calendar : Duration → Timestamp) (outset : Duration)
    (h : List Event) (x : Response) : Prop :=
  ∀ env, x.environment? = some env → .entered .poolScaled outset ∈ h ∧
    env.genesis = b.genesis calendar outset ∧ ∃ clock, .entered .genesisSynced clock ∈ h

theorem Response.onTime_of_none {b : Blueprint} {calendar : Duration → Timestamp}
    {outset : Duration} {h : List Event} {x : Response} (none : x.environment? = none) :
    x.OnTime b calendar outset h := by
  intro env given
  rw [none] at given
  cases given

/-- Everything that has happened agrees with genesis, and so does what is given, if it is. -/
def RunSynchronised {α : Type} (b : Blueprint) (calendar : Duration → Timestamp)
    (given : α → List Response) (ended : Except Halt (α × Lifecycle) × Session σ) : Prop :=
  ∃ outset, Synchronised b calendar outset ended.2.history ∧
    ∀ v l, ended.1 = .ok (v, l) → ∀ x ∈ given v, x.OnTime b calendar outset ended.2.history

omit [Services σ] in
theorem Step.Leads.answered {α : Type} {t : Step σ α} {f : Except PhaseFailure α → Response}
    {b : Blueprint} {calendar : Duration → Timestamp}
    (h : t.Leads l s
      (fun v _ later => ∃ outset, Synchronised b calendar outset later.history ∧
        (f (.ok v)).OnTime b calendar outset later.history)
      fun later => ∃ outset, Synchronised b calendar outset later.history)
    (failed : ∀ e, (f (.error e)).environment? = none) :
    RunSynchronised b calendar (fun x => [x])
      ((do return f (← ExceptT.run t) : Operation σ Response).exec l s) := by
  have run : Operation.exec (ExceptT.run t) l s = t.exec l s := rfl
  rw [Operation.exec_bind, run]
  unfold Step.Leads at h
  rcases ended : t.exec l s with ⟨halt | ⟨e | v, l'⟩, later⟩ <;> rw [ended] at h
  · obtain ⟨outset, sync⟩ := h
    refine ⟨outset, sync, fun x l' hx => ?_⟩
    cases hx
  · obtain ⟨outset, sync⟩ := h
    refine ⟨outset, sync, fun x l' hx y hy => ?_⟩
    cases hx
    rw [List.mem_singleton.1 hy]
    exact Response.onTime_of_none (failed e)
  · obtain ⟨outset, sync, onTime⟩ := h
    refine ⟨outset, sync, fun x l' hx y hy => ?_⟩
    cases hx
    rw [List.mem_singleton.1 hy]
    exact onTime

theorem Request.perform_synchronised {q : Request} (starts : q.starts = true)
    (start : l.phase = .notStarted) (fresh : s.history = []) :
    RunSynchronised l.blueprint s.calendar (fun x => [x]) (q.perform.exec l s) := by
  cases q with
  | setup skip =>
    refine Step.Leads.answered (f := Response.setup) ?_ fun _ => rfl
    apply (setup_leads skip start fresh).mono _ fun _ h => h
    intro r l' later settled
    cases r with
    | ready env =>
      obtain ⟨outset, ready⟩ := settled
      refine ⟨outset, ready.synchronised, fun env' given => ?_⟩
      cases given
      exact ⟨ready.scaled, ready.genesis, _, ready.synced⟩
    | skipped =>
      obtain ⟨outset, sync⟩ := settled
      exact ⟨outset, sync, Response.onTime_of_none rfl⟩
    | failed f =>
      obtain ⟨outset, sync⟩ := settled
      exact ⟨outset, sync, Response.onTime_of_none rfl⟩
  | run suite =>
    refine Step.Leads.answered (f := Response.run) ?_ fun _ => rfl
    apply (runSuite_leads suite start fresh).mono _ fun _ h => h
    intro report l' later settled
    obtain ⟨outset, sync⟩ := settled
    exact ⟨outset, sync, Response.onTime_of_none rfl⟩
  | beginScenarios | teardown => cases starts

theorem Request.perform_idle {q : Request} (idle : q.starts = false) (start : l.phase = .notStarted)
    (s : Session σ) :
    ∃ x, q.perform.exec l s = (.ok (x, l), s) ∧ x.environment? = none := by
  cases q with
  | setup | run => cases idle
  | beginScenarios =>
    obtain ⟨f, hf⟩ := exec_beginScenarios_of_unready (l := l) (by simp [start]) s
    exact ⟨.beginScenarios (.error f), Operation.exec_answer Response.beginScenarios hf, rfl⟩
  | teardown success =>
    have nothing : reportingTriggers l.phase = none := by
      rw [start]
      rfl
    have none := exec_teardown_of_nothing success nothing s
    exact ⟨.teardown (.ok .none), Operation.exec_answer Response.teardown none, rfl⟩

omit [Services σ] in
theorem Response.OnTime.later {b : Blueprint} {calendar : Duration → Timestamp} {outset : Duration}
    {K : Event → Prop} {x : Response} {s' : Session σ}
    (onTime : x.OnTime b calendar outset s.history) (later : s.Later K s') :
    x.OnTime b calendar outset s'.history := by
  obtain ⟨n, hn, -⟩ := later.events
  intro env given
  obtain ⟨scaled, genesis, clock, synced⟩ := onTime env given
  rw [hn]
  exact ⟨List.mem_append_left n scaled, genesis, clock, List.mem_append_left n synced⟩

theorem performAll_cons_synchronised {b : Blueprint} {calendar : Duration → Timestamp}
    {outset : Duration} {q : Request} {rest : List Request} {x : Response} {l₁ : Lifecycle}
    {s₁ : Session σ} (performed : q.perform.exec l s = (.ok (x, l₁), s₁))
    (sync : Synchronised b calendar outset ((performAll rest).exec l₁ s₁).2.history)
    (first : x.OnTime b calendar outset ((performAll rest).exec l₁ s₁).2.history)
    (others : ∀ ys l₂, ((performAll rest).exec l₁ s₁).1 = .ok (ys, l₂) → ∀ y ∈ ys,
      y.OnTime b calendar outset ((performAll rest).exec l₁ s₁).2.history) :
    RunSynchronised b calendar id ((performAll (q :: rest)).exec l s) := by
  rw [exec_performAll_cons performed]
  rcases hr : (performAll rest).exec l₁ s₁ with ⟨halt | ⟨ys, l₂⟩, s₂⟩ <;>
    rw [hr] at sync first others
  · refine ⟨outset, sync, fun xs l' hxs => ?_⟩
    cases hxs
  · refine ⟨outset, sync, fun xs l' hxs y hy => ?_⟩
    cases hxs
    rcases List.mem_cons.1 hy with rfl | hy
    · exact first
    · exact others ys l₂ rfl y hy

theorem performAll_synchronised (qs : List Request) (h : Standing l t)
    (start : l.phase = .notStarted) (fresh : s.history = []) :
    RunSynchronised l.blueprint s.calendar id ((performAll qs).exec l s) := by
  -- Requests leave a fresh run as it is, up to one that starts it; the ones after that add nothing.
  induction qs with
  | nil =>
    refine ⟨.zero, ?_, fun xs l' hxs => ?_⟩
    · show Synchronised _ _ _ s.history
      rw [fresh]
      intro e he
      cases he
    · cases hxs
      intro x hx
      cases hx
  | cons q rest ih =>
    cases starts : q.starts with
    | false =>
      obtain ⟨x, performed, none⟩ := Request.perform_idle starts start s
      obtain ⟨outset, sync, given⟩ := ih
      exact performAll_cons_synchronised performed sync (Response.onTime_of_none none) given
    | true =>
      obtain ⟨outset, sync, given⟩ := q.perform_synchronised starts start fresh
      rcases performed : q.perform.exec l s with ⟨halt | ⟨x, l₁⟩, s₁⟩ <;>
        rw [performed] at sync given
      · rw [exec_performAll_halt performed]
        refine ⟨outset, sync, fun xs l' hxs => ?_⟩
        cases hxs
      · have started := Request.started starts h performed
        obtain ⟨later, none⟩ := performAll_later rest started s₁
        have onTime := given x l₁ rfl x List.mem_cons_self
        apply performAll_cons_synchronised performed (sync.idle later) (onTime.later later)
        intro ys l₂ hys y hy
        exact Response.onTime_of_none (none ys l₂ hys y hy)

/-- Whatever is asked of a run, in whatever order and in whatever world, there is one moment from
which genesis is counted, and everything agrees with it. -/
theorem requests_synchronised (b : Blueprint) (st : Settings) (draws : SuffixDraws)
    (born : Timestamp) (world : σ) (clock : Duration) (calendar : Duration → Timestamp)
    (patience : Nat) (requests : List Request) :
    RunSynchronised b calendar id ((performAll requests).exec (.create b st draws born)
      ⟨world, clock, calendar, patience, []⟩) :=
  performAll_synchronised requests (Standing.create b st draws born) rfl rfl

/-! ### A leap day -/

/-- A run that begins half a second before the end of the 28th of February 2024 and has a minute to
genesis. -/
def Lifecycle.minute : Lifecycle :=
  .create { Blueprint.least with genesisDelta := 60 } { (default : Settings) with debug := false }
    (.ofNat 0) ⟨0⟩

def leapEve (clock : Duration) : Timestamp := ⟨1709164799500000000 + clock.nanos⟩

/-- What the nodes of a run are told of genesis, in the order in which they are created. -/
def toldGenesis (h : List Event) : List String :=
  h.filterMap fun
    | .exchanged ⟨.create _ m, _, _, _⟩ => m.genesisArg?
    | _ => none

/-- With groups that are ready at once, setup is done just when genesis comes, of which both groups
have been told. -/
theorem requests_synchronised_leap_day :
    let ended := (performAll [.setup false]).exec .minute ⟨Biased.willing, .zero, leapEve, 1, []⟩
    RunSynchronised { Blueprint.least with genesisDelta := 60 } leapEve id ended ∧
      toldGenesis ended.2.history =
        ["--genesis-time=2024-02-29T00:00:59.5Z", "--genesis-time=2024-02-29T00:00:59.5Z"] ∧
      ended.1.toOption.map (·.2.phase) = some .genesisSynced ∧ ended.2.clock = .ofSeconds 60 :=
  ⟨requests_synchronised _ _ (.ofNat 0) ⟨0⟩ Biased.willing .zero leapEve 1 [.setup false],
    by decide +kernel, by decide +kernel, by decide +kernel⟩

end ProvingGround
