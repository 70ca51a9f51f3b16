import ProvingGround.Proofs.Lifecycle.Exec
import ProvingGround.Proofs.Lifecycle.Law
import ProvingGround.Proofs.Setup.BringUp

/-!
# Teardown

A run that stands before its teardown enters the phases up to reporting, asks for the address of its
log store and hands the task over, whatever the answers are. Any other run does nothing.
-/

namespace ProvingGround

variable {σ : Type} {law : List Deed → Deed → Prop} {t : List Deed} {l l₀ : Lifecycle} {p : Phase}

/-! ### Handing over -/

/-- The address of the log store, by the answer to the question for it. -/
def answeredAddress (ns : String) : Except Fault (Option String) → String
  | .ok (some address) => address
  | _ => indexerHost ns

/-- The task of a run when the question for the log store is answered by `x`. -/
def Lifecycle.teardownTask (l : Lifecycle) (success : Bool) (x : Except Fault (Option String)) :
    TeardownTask :=
  ProvingGround.teardownTask l.settings.cloud l.settings.queues l.settings.store
    (answeredAddress l.ownName x) ⟨success, l.ownName, l.indexDate⟩

def Lifecycle.teardownQueue (l : Lifecycle) : QueueAddress :=
  ProvingGround.teardownQueue l.settings.cloud l.settings.queues

/-- What handing over the task of a run adds, when the two calls are answered by `x` and `y`. -/
def Lifecycle.closing (l : Lifecycle) (success : Bool) (x : Except Fault (Option String))
    (y : Except Fault Unit) : List Deed :=
  [.asked (.serviceAddress l.ownName indexerName) x,
    .asked (.submit l.teardownQueue (l.teardownTask success x)) y, .entered .done]

section HandOver

variable [Services σ]

theorem storeAddress_obeys {ns : String}
    (lawful : ∀ x, law t (.asked (.serviceAddress ns indexerName) x)) :
    (storeAddress ns : Act σ String).Obeys law t fun address later =>
      ∃ x, address = answeredAddress ns x ∧
        later = t ++ [.asked (.serviceAddress ns indexerName) x] := by
  have ask : (Task.call (.serviceAddress ns indexerName) : Task σ _).attempt.Obeys law t
      fun x later => later = t ++ [.asked (.serviceAddress ns indexerName) x] := by
    apply Task.traces_call
    intro x
    refine ⟨.single (lawful x), fun y hy => ?_⟩
    cases hy
    rfl
  apply ask.bind
  intro x n hn
  split
  · exact Act.obeys_pure ⟨_, rfl, hn⟩
  next other =>
    have fallback : indexerHost ns = answeredAddress ns x := by
      unfold answeredAddress
      split
      · exact absurd rfl (other _)
      · rfl
    exact Act.obeys_pure ⟨x, fallback, hn⟩

theorem reportOutcome_obeys {cloud : CloudSettings} {queues : QueueSettings} {store : StoreSettings}
    {address : String} {o : RunOutcome}
    (lawful : ∀ y, law t (.asked (.submit (teardownQueue cloud queues)
      (teardownTask cloud queues store address o)) y)) :
    (reportOutcome cloud queues store address o : Task σ TeardownTask).attempt.Obeys law t
      fun x later => ∃ y, x = y.map (fun _ => teardownTask cloud queues store address o) ∧
        later = t ++ [.asked (.submit (teardownQueue cloud queues)
          (teardownTask cloud queues store address o)) y] := by
  show Task.Traces _ _
  apply Task.traces_call_bind
  · intro v
    apply Task.traces_pure
    refine ⟨.single (lawful _), fun x hx => ?_⟩
    cases hx
    exact ⟨.ok v, rfl, rfl⟩
  · intro f
    refine ⟨.single (lawful _), fun x hx => ?_⟩
    cases hx
    exact ⟨.error f, rfl, rfl⟩

theorem handOver_obeys (success : Bool) (phase : l.phase = .reporting)
    (address : ∀ x, law t (.asked (.serviceAddress l.ownName indexerName) x))
    (submit : ∀ x y, law (t ++ [.asked (.serviceAddress l.ownName indexerName) x])
      (.asked (.submit l.teardownQueue (l.teardownTask success x)) y))
    (entered : ∀ t' q, law t' (.entered q)) :
    (handOver success : Operation σ _).Obeys law t l fun z l' later =>
      l' = { l with reported := true }.enter .done ∧ ∃ x y,
        z = y.map (fun _ => some (l.teardownTask success x)) ∧
        later = t ++ l.closing success x y := by
  apply Operation.obeys_get_bind
  have mark : (set { l with reported := true } : Operation σ PUnit).Obeys law t l
      fun _ l' later => l' = { l with reported := true } ∧ later = t :=
    Operation.obeys_set ⟨rfl, rfl⟩
  apply mark.bind
  intro _ l₁ n marked
  obtain ⟨rfl, hn⟩ := marked
  rw [hn]
  apply (Operation.obeys_act (storeAddress_obeys address)).bind
  intro _ l₂ m asked
  obtain ⟨rfl, x, rfl, hm⟩ := asked
  rw [hm]
  apply (Operation.obeys_act (reportOutcome_obeys (submit x))).bind
  intro _ l₃ k submitted
  obtain ⟨rfl, y, rfl, hk⟩ := submitted
  rw [hk]
  have edge : Transition.find? ({ l with reported := true } : Lifecycle).phase .reported =
      some ⟨.reporting, .done, .reported, "Teardown task submitted"⟩ := by
    show Transition.find? l.phase _ = _
    rw [phase]
    rfl
  apply (Operation.obeys_fire_edge edge (entered _ _)).bind
  intro r l₄ i fired
  obtain ⟨rfl, rfl, hi⟩ := fired
  apply Operation.obeys_pure
  refine ⟨rfl, x, y, ?_, ?_⟩
  · cases y <;> rfl
  · rw [hi, List.append_assoc, List.append_assoc]
    rfl

end HandOver

/-! ### Before it -/

/-- The run `l₀` has come to a phase after the deeds `t₀` by entering phases alone. -/
structure Walks (l₀ : Lifecycle) (t₀ : List Deed) (p : Phase) (l : Lifecycle) (t : List Deed) :
    Prop extends Reaches l₀ p l t where
  ns_eq : l.ns = l₀.ns
  trace : ∃ n, t = t₀ ++ n ∧ Among Deed.isEntry n

namespace Walks

variable {t₀ : List Deed}

theorem refl (h : Standing l₀ t) : Walks l₀ t l₀.phase l₀ t :=
  ⟨.refl h, rfl, [], (List.append_nil t).symm, .nil⟩

theorem enter {e : Transition} {tr : Trigger} (h : Walks l₀ t₀ p l t)
    (edge : Transition.find? p tr = some e) (open_ : e.target ≠ .done) :
    Walks l₀ t₀ e.target (l.enter e.target) (t ++ [.entered e.target]) := by
  obtain ⟨n, hn, entries⟩ := h.trace
  refine ⟨h.toReaches.enter edge open_, h.ns_eq, n ++ [.entered e.target], ?_, ?_⟩
  · rw [hn, List.append_assoc]
  · exact entries.append (.single rfl)

end Walks

/-- The phase at the end of triggers that are all followed. -/
def Transition.follow (p : Phase) : List Trigger → Option Phase
  | [] => some p
  | tr :: rest => (find? p tr).bind fun e => follow e.target rest

theorem Transition.follow_done (ts : List Trigger) : follow .done ts ≠ some .reporting := by
  cases ts with
  | nil => decide
  | cons tr rest =>
    have none : find? .done tr = none := find?_of_isTerminal rfl tr
    unfold follow
    rw [none]
    intro h
    cases h

theorem reportingTriggers_follow {ts : List Trigger} (h : reportingTriggers p = some ts) :
    Transition.follow p ts = some .reporting := by
  cases p <;> cases h <;> rfl

theorem reportingTriggers_subset {ts : List Trigger} (h : reportingTriggers p = some ts) :
    ts ⊆ [.scenariosStarted, .scenariosFinished] := by
  cases p <;> cases h <;> simp

/-! ### Upkeep -/

/-- What a run does from scenarios on is lawful and keeps `J`, and so is setup. -/
structure Upkeep (σ : Type) [Services σ] (law : List Deed → Deed → Prop)
    (J : Lifecycle → List Deed → Prop) : Prop where
  entered : ∀ t q, law t (.entered q)
  setup : ∀ skip {l t}, Standing l t → J l t →
    (setup skip : Step σ SetupResult).Obeys law t l (fun _ => J) fun _ => J
  enter : ∀ {l t tr e}, J l t → tr ∈ [Trigger.scenariosStarted, .scenariosFinished] →
    Transition.find? l.phase tr = some e → J (l.enter e.target) (t ++ [.entered e.target])
  /-- What scenarios do themselves. -/
  aside : ∀ {l t n}, J l t → l.phase = .running → Among Deed.isAside n →
    Lawful law t n ∧ J l (t ++ n)
  address : ∀ {l t} x, Standing l t → J l t → l.phase = .reporting →
    law t (.asked (.serviceAddress l.ownName indexerName) x)
  submit : ∀ {l t} success x y, Standing l t → J l t → l.phase = .reporting →
    law (t ++ [.asked (.serviceAddress l.ownName indexerName) x])
      (.asked (.submit l.teardownQueue (l.teardownTask success x)) y)
  close : ∀ {l t} success x y, J l t → l.phase = .reporting →
    J ({ l with reported := true }.enter .done) (t ++ l.closing success x y)

variable [Services σ] {J : Lifecycle → List Deed → Prop}

theorem Upkeep.setup_obeys (u : Upkeep σ law J) (skip : Bool) (h : Standing l t) (hJ : J l t) :
    (ProvingGround.setup skip : Step σ SetupResult).Obeys law t l
      (fun v l' later => J l' later ∧ SetupEnds l t skip (.ok v) l' later)
      fun f l' later => J l' later ∧ SetupEnds l t skip (.error f) l' later :=
  (u.setup skip h hJ).and (ProvingGround.setup_obeys skip h)

theorem Upkeep.fire_obeys {t₀ : List Deed} {tr : Trigger} {e : Transition} (u : Upkeep σ law J)
    (h : Walks l₀ t₀ p l t) (hJ : J l t) (edge : Transition.find? p tr = some e)
    (onwards : tr ∈ [Trigger.scenariosStarted, .scenariosFinished]) (open_ : e.target ≠ .done) :
    (Operation.fire tr : Operation σ _).Obeys law t l fun x l' later =>
      x = .ok () ∧ Walks l₀ t₀ e.target l' later ∧ J l' later := by
  have edge' : Transition.find? l.phase tr = some e := by
    rw [h.phase]
    exact edge
  apply (Operation.obeys_fire_edge edge' (u.entered _ _)).mono
  intro x l' n fired
  obtain ⟨hx, rfl, hn⟩ := fired
  rw [hn]
  exact ⟨hx, h.enter edge open_, u.enter hJ onwards edge'⟩

theorem Upkeep.afterTriggers_obeys {α : Type} {t₀ : List Deed}
    {next : Operation σ (Except Fault α)} {P : Except Fault α → Lifecycle → List Deed → Prop}
    {ts : List Trigger} (u : Upkeep σ law J) (h : Walks l₀ t₀ p l t) (hJ : J l t)
    (along : Transition.follow p ts = some .reporting)
    (onwards : ts ⊆ [.scenariosStarted, .scenariosFinished])
    (last : ∀ l' t', Walks l₀ t₀ .reporting l' t' → J l' t' → next.Obeys law t' l' P) :
    (afterTriggers next ts).Obeys law t l P := by
  -- Every trigger on the way has its edge, so that the last operation is always come to.
  induction ts generalizing p l t with
  | nil =>
    cases along
    exact last l t h hJ
  | cons tr rest ih =>
    obtain ⟨e, edge, along⟩ := Option.bind_eq_some_iff.1 along
    have open_ : e.target ≠ .done := by
      intro done
      rw [done] at along
      exact Transition.follow_done rest along
    apply (u.fire_obeys h hJ edge (onwards List.mem_cons_self) open_).bind
    intro _ l' n fired
    obtain ⟨rfl, walks, hJ⟩ := fired
    exact ih walks hJ along fun _ hr => onwards (List.mem_cons_of_mem tr hr)

/-! ### Teardown -/

/-- How teardown of the run `l₀` can end, after the deeds `t₀`. -/
inductive TeardownEnds (l₀ : Lifecycle) (t₀ : List Deed) (success : Bool) :
    Except Fault (Option TeardownTask) → Lifecycle → List Deed → Prop where
  | nothing (unready : reportingTriggers l₀.phase = none) :
    TeardownEnds l₀ t₀ success (.ok none) l₀ t₀
  | handed {l t n x y} (reached : Reaches l₀ .done l t) (own : l.ns = l₀.ns)
    (trace : t = t₀ ++ n ++ l.closing success x y) (entries : Among Deed.isEntry n) :
    TeardownEnds l₀ t₀ success (y.map fun _ => some (l.teardownTask success x)) l t

theorem Standing.closed (success : Bool) (x : Except Fault (Option String)) (y : Except Fault Unit)
    (h : Standing l t) (phase : l.phase = .reporting) :
    Standing ({ l with reported := true }.enter .done) (t ++ l.closing success x y) := by
  have edge : Transition.find? .reporting .reported =
      some ⟨.reporting, .done, .reported, "Teardown task submitted"⟩ := rfl
  have leads : Phase.Leads .reporting .done := Phase.leads_of_find? edge
  have before : l.phase ≠ .done := by
    rw [phase]
    decide
  have regular : ({ l with reported := true } : Lifecycle).Regular :=
    ⟨h.regular.starts, h.regular.chain⟩
  constructor
  · apply regular.enter
    show l.phase.Leads .done
    rw [phase]
    exact leads
  · exact iff_of_true rfl rfl
  · rw [List.countP_append, h.submits, if_neg before]
    rfl
  · intro untouched
    rcases untouched with start | skip
    · cases start
    · cases skip
  · intro ns
    show l.ns = some ns ↔ _
    rw [h.owned ns]
    constructor
    · exact Claimed.grow
    · intro hm
      rcases List.mem_append.1 hm with hm | hm
      · exact hm
      · simp only [Lifecycle.closing, List.mem_cons, List.not_mem_nil, Deed.asked.injEq,
          reduceCtorEq, false_and, or_self] at hm

theorem Reaches.standsFor (h : Reaches l₀ p l t) : StandsFor l₀.runId t l.ownName := by
  unfold Lifecycle.ownName
  cases hn : l.ns with
  | some ns => exact .inl ((h.standing.owned ns).1 hn)
  | none =>
    refine .inr ⟨h.runId, fun other claimed => ?_⟩
    have some := (h.standing.owned other).2 claimed
    rw [hn] at some
    cases some

theorem Upkeep.handOver_obeys {t₀ : List Deed} (u : Upkeep σ law J) (success : Bool)
    (h : Walks l₀ t₀ .reporting l t) (hJ : J l t) :
    (handOver success : Operation σ _).Obeys law t l fun z l' later =>
      TeardownEnds l₀ t₀ success z l' later ∧ J l' later := by
  have hand : (handOver success : Operation σ _).Obeys law t l fun z l' later =>
      l' = { l with reported := true }.enter .done ∧ ∃ x y,
        z = y.map (fun _ => some (l.teardownTask success x)) ∧
        later = t ++ l.closing success x y :=
    ProvingGround.handOver_obeys success h.phase
      (fun x => u.address x h.standing hJ h.phase)
      (fun x y => u.submit success x y h.standing hJ h.phase) u.entered
  apply hand.mono
  intro z l' n handed
  obtain ⟨rfl, x, y, rfl, hn⟩ := handed
  rw [hn]
  obtain ⟨m, hm, entries⟩ := h.trace
  have reached : Reaches l₀ .done ({ l with reported := true }.enter .done)
      (t ++ l.closing success x y) :=
    ⟨h.standing.closed success x y h.phase, rfl, h.settings, h.runId⟩
  have trace : t ++ l.closing success x y = t₀ ++ m ++ l.closing success x y := by rw [hm]
  exact ⟨.handed reached h.ns_eq trace entries, u.close success x y hJ h.phase⟩

theorem Upkeep.teardown_obeys (u : Upkeep σ law J) (success : Bool) (h : Standing l₀ t)
    (hJ : J l₀ t) :
    (teardown success : Operation σ _).Obeys law t l₀ fun z l later =>
      TeardownEnds l₀ t success z l later ∧ J l later := by
  apply Operation.obeys_get_bind
  split
  next reported =>
    apply Operation.obeys_pure
    refine ⟨.nothing ?_, hJ⟩
    rw [h.reported.1 reported]
    rfl
  · split
    next unready => exact Operation.obeys_pure ⟨.nothing unready, hJ⟩
    next ts some =>
      apply u.afterTriggers_obeys (Walks.refl h) hJ (reportingTriggers_follow some)
        (reportingTriggers_subset some)
      intro l t' walks hJ
      exact u.handOver_obeys success walks hJ

/-! ### The law of the run -/

omit [Services σ] in
theorem Among.lawful {r : String} {n : List Deed} (h : Among Deed.isAside n) :
    Lawful (RunLaw r) t n := by
  induction n generalizing t with
  | nil => trivial
  | cons d n ih =>
    refine ⟨?_, ih fun e he => h e (List.mem_cons_of_mem d he)⟩
    have ha := h d List.mem_cons_self
    cases d with
    | probed | began => trivial
    | asked | entered => cases ha

theorem runUpkeep (r : String) : Upkeep σ (RunLaw r) fun l _ => l.runId = r where
  entered := fun _ _ => trivial
  setup := by
    rintro skip l t h rfl
    have law : ∀ t d, l.law t d → RunLaw l.runId t d := fun _ _ => runLaw_of_setupLaw
    apply ((setup_obeys skip h).weaken law).mono
    · intro _ _ _ ends
      exact (ends.reaches h).choose_spec.runId
    · intro _ _ _ ends
      exact (ends.reaches h).choose_spec.runId
  enter := fun hr _ _ => hr
  aside := fun hr _ aside => ⟨aside.lawful, hr⟩
  address := by
    rintro l t x h rfl phase
    exact (Reaches.refl h).standsFor
  submit := by
    rintro l t success x y h rfl phase
    have asked : Among Deed.isQuiet [.asked (.serviceAddress l.ownName indexerName) x] :=
      .single rfl
    have reached := Reaches.refl h
    rw [phase] at reached
    have grown := reached.grow (by decide) (by decide) asked
    exact ⟨grown.standsFor, rfl⟩
  close := fun _ _ _ hr _ => hr

theorem teardown_obeys (success : Bool) (h : Standing l₀ t) :
    (teardown success : Operation σ _).Obeys (RunLaw l₀.runId) t l₀
      (TeardownEnds l₀ t success) :=
  ((runUpkeep l₀.runId).teardown_obeys success h rfl).mono fun _ _ _ ends => ends.1

end ProvingGround
