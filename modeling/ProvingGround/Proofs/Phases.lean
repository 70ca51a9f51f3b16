import ProvingGround.Proofs.Lifecycle.Requests

/-!
# Phases of a run

Whatever is asked of a run, in whatever order and in whatever world, its history follows the table,
its teardown task is handed over once, a skipped run has touched nothing, and a setup that was given
up is the last thing that happens.
-/

namespace ProvingGround

/-! ### Accounts -/

/-- The history of a run is regular, and accounts for what was called. -/
structure Accounted {σ : Type} (l : Lifecycle) (s : Session σ) : Prop where
  starts : l.history.head? = some .notStarted
  ends : l.history.getLast? = some l.phase
  edges : l.history.IsChain fun p q => ∃ e ∈ Transition.table, e.source = p ∧ e.target = q
  once : l.history.Nodup
  /-- The task is handed over exactly by a run that is done, whatever the queue answers. -/
  submits : s.deeds.countP Deed.isSubmit = if l.phase = .done then 1 else 0
  untouched : l.phase = .skipped → s.calls = []

theorem Standing.accounted {σ : Type} {l : Lifecycle} {s : Session σ} (h : Standing l s.deeds) :
    Accounted l s where
  starts := h.regular.starts
  ends := l.getLast?_history
  edges := h.regular.chain
  once := h.regular.nodup
  submits := h.submits
  untouched := by
    intro skipped
    rw [s.calls_eq]
    exact h.untouched (.inr skipped)

/-! ### Requests -/

/-- After every sequence of requests the run is accounted for. When a request then fails in setup,
no sequence of requests after it changes the run or the session any more. -/
theorem requests_accounted {σ : Type} [Services σ] (b : Blueprint) (st : Settings)
    (draws : SuffixDraws) (born : Timestamp) (world : σ) (clock : Duration)
    (calendar : Duration → Timestamp) (patience : Nat) (requests : List Request)
    {responses : List Response} {l : Lifecycle} {s : Session σ}
    (performed : (performAll requests).exec (.create b st draws born)
      ⟨world, clock, calendar, patience, []⟩ = (.ok (responses, l), s)) :
    Accounted l s ∧
      ∀ (q : Request) (x : Response) (l' : Lifecycle) (s' : Session σ),
        l.phase = .notStarted → q.perform.exec l s = (.ok (x, l'), s') → x.isSetupError = true →
        ∀ more, ∃ xs, (performAll more).exec l' s' = (.ok (xs, l'), s') := by
  have obeys := performAll_obeys (σ := σ) requests (Standing.create b st draws born)
  obtain ⟨n, -, -, p, reached⟩ := Operation.Obeys.result
    (s := ⟨world, clock, calendar, patience, []⟩) obeys performed
  refine ⟨reached.standing.accounted, ?_⟩
  intro q x l' s' start failed error more
  obtain ⟨m, -, -, -, still⟩ := (q.perform_obeys reached.standing).result failed
  exact performAll_still more (still start error) s'

/-- Where every call is refused, a run is done after setup and teardown, and in debug mode stays as
setup left it. -/
theorem requests_accounted_refused :
    (∃ responses l s, (performAll [.setup false, .teardown false]).exec (.least false)
      Biased.refusing.session = (.ok (responses, l), s) ∧ Accounted l s ∧ l.phase = .done) ∧
    ∃ f l s xs, (Request.setup false).perform.exec (.least true) Biased.refusing.session =
      (.ok (.setup (.error f), l), s) ∧
      (performAll [.teardown false]).exec l s = (.ok (xs, l), s) := by
  constructor
  · obtain ⟨responses, l, s, h, done⟩ : ∃ responses l s,
        (performAll [.setup false, .teardown false]).exec (.least false) Biased.refusing.session =
          (.ok (responses, l), s) ∧ l.phase = .done := ⟨_, _, _, rfl, rfl⟩
    exact ⟨responses, l, s, h, (requests_accounted _ _ _ _ _ _ _ _ _ h).1, done⟩
  · obtain ⟨f, l, s, h⟩ : ∃ f l s, (Request.setup false).perform.exec (.least true)
        Biased.refusing.session = (.ok (.setup (.error f), l), s) := ⟨_, _, _, rfl⟩
    have start : (performAll []).exec (.least true) Biased.refusing.session =
        (.ok ([], .least true), Biased.refusing.session) := rfl
    obtain ⟨-, still⟩ := requests_accounted _ _ _ _ _ _ _ _ _ start
    obtain ⟨xs, hxs⟩ := still _ _ _ _ rfl h rfl [.teardown false]
    exact ⟨f, l, s, xs, h, hxs⟩

end ProvingGround
