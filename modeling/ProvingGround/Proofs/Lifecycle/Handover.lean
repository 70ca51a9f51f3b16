import ProvingGround.Proofs.Setup.Groups
import ProvingGround.Proofs.Synchrony

/-!
# What is handed over

A run hands an environment over to whoever asked for setup, or to its scenarios. What setup has
established of it, and nothing that closes a run takes back, is true of it for as long as the run
goes on.
-/

namespace ProvingGround

variable {σ : Type}

/-! ### Environments -/

/-- The environments that are handed over: the ones given, and the ones that scenarios begin on. -/
def handedOver (xs : List Response) (t : List Deed) : List Environment :=
  xs.filterMap Response.environment? ++ (t.filterMap Deed.begun?).map Prod.snd

/-- The deed takes nothing back of what was handed over, and tells this date to whoever dumps
logs. -/
def Deed.Closes (date : String) : Deed → Prop
  | asked (.serviceAddress ..) _ => True
  | asked (.submit _ task) _ => ∀ d ∈ task.dump, d.indexDate = date
  | asked _ _ => False
  | _ => True

theorem answersTo_of_closes {c : Call} {date : String} {n : List Deed}
    (open_ : ∀ x, ¬ Deed.Closes date (.asked c x)) (later : ∀ d ∈ n, d.Closes date) :
    answersTo c n = [] := by
  unfold answersTo
  rw [List.filterMap_eq_nil_iff]
  intro d hd
  cases d with
  | asked c' x =>
    apply Deed.answer?_other
    rintro rfl
    exact open_ x (later _ hd)
  | _ => rfl

/-- What setup establishes of an environment that it gives, and what is not taken back later. -/
structure Lasting (l : Lifecycle) (begun : Timestamp) (P : Environment → List Deed → Prop) :
    Prop where
  established : ∀ {env l' n t}, BroughtUp (l.begun begun) env l' n → workOf t = n →
    Reaches l .genesisSynced l' t → P env t
  kept : ∀ {env t n}, P env t → (∀ d ∈ n, d.Closes env.indexDate) → P env (t ++ n)

/-! ### What closes a run -/

theorem closes_of_aside {date : String} {t n : List Deed} (h : Among Deed.isAside n) :
    Lawful (fun _ d => d.Closes date) t n := by
  induction n generalizing t with
  | nil => trivial
  | cons d n ih =>
    refine ⟨?_, ih fun e he => h e (List.mem_cons_of_mem d he)⟩
    have aside := h d List.mem_cons_self
    cases d with
    | probed | began => trivial
    | asked | entered => cases aside

/-- Once a run has started, whatever it is asked to do closes it. -/
theorem closingUpkeep [Services σ] (date : String) :
    Upkeep σ (fun _ d => d.Closes date) fun l _ => l.phase ≠ .notStarted ∧ l.indexDate = date where
  entered := fun _ _ => trivial
  setup := fun skip _ _ _ kept =>
    Step.obeys_of_refused (fun s => exec_setup_of_started skip kept.1 s) fun _ => kept
  enter := by
    intro l t tr e kept _ edge
    obtain ⟨mem, -, -⟩ := Transition.find?_eq_some edge
    exact ⟨Transition.target_ne_notStarted mem, kept.2⟩
  aside := fun kept _ aside => ⟨closes_of_aside aside, kept⟩
  address := fun _ _ _ _ => trivial
  submit := by
    intro l t success x y _ kept _ d hd
    unfold Lifecycle.teardownTask teardownTask dumpRequest? at hd
    dsimp only at hd
    split at hd
    · cases hd
    · cases hd
      exact kept.2
  close := fun _ _ _ kept _ => ⟨nofun, kept.2⟩

/-! ### Executions -/

section Executions

variable {α : Type} {l : Lifecycle} {s : Session σ} {t : Step σ α}

theorem Step.Leads.and {P P' : α → Lifecycle → Session σ → Prop} {Q Q' : Session σ → Prop}
    (h : t.Leads l s P Q) (h' : t.Leads l s P' Q') :
    t.Leads l s (fun v l' later => P v l' later ∧ P' v l' later)
      fun later => Q later ∧ Q' later := by
  unfold Leads at h h' ⊢
  rcases ht : t.exec l s with ⟨halt | ⟨f | v, l'⟩, later⟩ <;> rw [ht] at h h' <;> exact ⟨h, h'⟩

theorem Step.Leads.failed {P : α → Lifecycle → Session σ → Prop} {Q : Session σ → Prop}
    {f : PhaseFailure} {l' : Lifecycle} {later : Session σ} (h : t.Leads l s P Q)
    (ended : t.exec l s = (.ok (.error f, l'), later)) : Q later := by
  unfold Leads at h
  rw [ended] at h
  exact h

theorem Step.Leads.halted {P : α → Lifecycle → Session σ → Prop} {Q : Session σ → Prop}
    {halt : Halt} {later : Session σ} (h : t.Leads l s P Q)
    (ended : t.exec l s = (.error halt, later)) : Q later := by
  unfold Leads at h
  rw [ended] at h
  exact h

/-- What fails has failed in its first part, or else in the rest. -/
theorem Step.exec_bind_error {β : Type} {u : α → Step σ β} {f : PhaseFailure} {l' : Lifecycle}
    {later : Session σ} (h : (t >>= u).exec l s = (.ok (.error f, l'), later)) :
    t.exec l s = (.ok (.error f, l'), later) ∨ ∃ v l₁ middle,
      t.exec l s = (.ok (.ok v, l₁), middle) ∧
        (u v).exec l₁ middle = (.ok (.error f, l'), later) := by
  rw [exec_bind] at h
  rcases ht : t.exec l s with ⟨halt | ⟨f | v, l₁⟩, middle⟩ <;> rw [ht] at h
  · cases h
  · cases h
    exact .inl rfl
  · exact .inr ⟨v, l₁, middle, rfl, h⟩

theorem Step.exec_answer_ok {β : Type} {f : Except PhaseFailure α → β} {x : β} {l' : Lifecycle}
    {later : Session σ}
    (h : (do return f (← ExceptT.run t) : Operation σ β).exec l s = (.ok (x, l'), later)) :
    ∃ r, t.exec l s = (.ok (r, l'), later) ∧ f r = x :=
  Operation.exec_answer_ok h

theorem Step.exec_answer_halt {β : Type} {f : Except PhaseFailure α → β} {halt : Halt}
    {later : Session σ}
    (h : (do return f (← ExceptT.run t) : Operation σ β).exec l s = (.error halt, later)) :
    t.exec l s = (.error halt, later) := by
  have run : Operation.exec (ExceptT.run t) l s = t.exec l s := rfl
  rw [Operation.exec_bind, run] at h
  rcases ht : t.exec l s with ⟨halt | ⟨r, l₁⟩, s₁⟩ <;> rw [ht] at h <;> cases h
  rfl

theorem Step.Obeys.leads {law : List Deed → Deed → Prop} {P : α → Lifecycle → List Deed → Prop}
    {F : PhaseFailure → Lifecycle → List Deed → Prop} (h : t.Obeys law s.deeds l P F) :
    t.Leads l s
      (fun v l' later => (∃ n, later.deeds = s.deeds ++ n ∧ Lawful law s.deeds n) ∧
        P v l' later.deeds)
      fun later => ∃ n, later.deeds = s.deeds ++ n ∧ Lawful law s.deeds n := by
  obtain ⟨n, hn, lawful, ends⟩ := h s
  have run : Act.exec (StateT.run (ExceptT.run t) l) s = t.exec l s := rfl
  rw [run] at hn ends
  unfold Leads
  rcases ht : t.exec l s with ⟨halt | ⟨f | v, l'⟩, later⟩ <;> rw [ht] at hn ends
  · exact ⟨n, hn, lawful⟩
  · exact ⟨n, hn, lawful⟩
  · have given : P v l' (s.deeds ++ n) := ends _ rfl
    rw [← hn] at given
    exact ⟨⟨n, hn, lawful⟩, given⟩

end Executions

section Runs

variable [Services σ] {l : Lifecycle} {s : Session σ} {t : List Deed}
  {P : Environment → List Deed → Prop}

/-- Setup that gives an environment has brought it up. -/
theorem setup_brings (skip : Bool) (start : l.phase = .notStarted) :
    (setup skip : Step σ SetupResult).Leads l s
      (fun r l' later => ∀ env, r = .ready env → ∃ n,
        workOf later.deeds = workOf s.begun.deeds ++ n ∧ BroughtUp (l.begun s.today) env l' n)
      fun _ => True := by
  cases skip with
  | true =>
    unfold Step.Leads
    rw [exec_setup_skip start]
    intro env ready
    cases ready
  | false =>
    unfold Step.Leads
    rw [exec_setup_begun start]
    rcases up : bringUp.exec (l.begun s.today) s.begun with ⟨halt | ⟨f | env, l'⟩, later⟩
    · trivial
    · apply (settleFailure_leads f l' later).mono _ fun _ _ => trivial
      rintro _ _ _ ⟨rfl, -⟩ env ready
      cases ready
    · rintro _ ⟨⟩
      exact bringUp_works _ env l' later up

/-- Setup begins no scenario, and establishes what lasts of the environment that it gives. -/
theorem setup_hands (lasting : Lasting l s.today P) (skip : Bool) (h : Standing l s.deeds)
    (start : l.phase = .notStarted) (fresh : s.deeds = []) :
    (setup skip : Step σ SetupResult).Leads l s
      (fun r l' later => later.deeds.filterMap Deed.begun? = [] ∧
        Standing l' later.deeds ∧ ∀ env, r = .ready env →
          Reaches l .genesisSynced l' later.deeds ∧ l'.indexDate = env.indexDate ∧
          P env later.deeds)
      fun later => later.deeds.filterMap Deed.begun? = [] := by
  have unopened : ∀ later : Session σ,
      (∃ n, later.deeds = s.deeds ++ n ∧ Lawful l.law s.deeds n) →
      later.deeds.filterMap Deed.begun? = [] := by
    rintro later ⟨n, hn, lawful⟩
    rw [hn, fresh]
    exact begun_of_setupLaw lawful
  apply ((setup_obeys skip h).leads.and (setup_brings skip start)).mono
  · rintro r l' later ⟨⟨lawful, ends⟩, brought⟩
    obtain ⟨p, reached⟩ := ends.reaches h
    refine ⟨unopened later lawful, reached.standing, ?_⟩
    rintro env rfl
    cases ends with
    | ready reached own =>
      obtain ⟨n, work, up⟩ := brought env rfl
      have idle : workOf s.begun.deeds = [] := by
        unfold Session.begun
        rw [Session.deeds_note, fresh]
        rfl
      rw [idle, List.nil_append] at work
      exact ⟨reached, up.indexDate.2.trans up.indexDate.1.symm,
        lasting.established up work reached⟩
  · rintro later ⟨lawful, -⟩
    exact unopened later lawful

/-- The session has gone on to the end of a run on an environment. -/
def Session.Plays (env : Environment) (s later : Session σ) : Prop :=
  ∃ n, later.deeds = s.deeds ++ n ∧ (∀ d ∈ n, d.Closes env.indexDate) ∧
    ∀ scenario e, .began scenario e ∈ n → e = env

omit [Services σ] in
theorem Session.plays_of_follows {env : Environment} {later : Session σ} {t : List Deed}
    (closes : ∃ n, later.deeds = s.deeds ++ n ∧
      Lawful (fun _ d => d.Closes env.indexDate) t n)
    (follows : s.Later (Event.Follows env) later) : s.Plays env later := by
  obtain ⟨n, hn, lawful⟩ := closes
  refine ⟨n, hn, ?_, ?_⟩
  · intro d hd
    obtain ⟨-, h⟩ := lawful.mem hd
    exact h
  · intro scenario e begun
    obtain ⟨m, hm, events⟩ := follows.events
    have trace : later.deeds = s.deeds ++ m.map Event.deed := by
      unfold Session.deeds
      rw [hm, List.map_append]
    rw [List.append_cancel_left (hn.symm.trans trace)] at begun
    obtain ⟨event, he, deed⟩ := List.mem_map.1 begun
    obtain ⟨heeds | ⟨name, clock, rfl⟩, -⟩ := events event he
    · cases event with
      | began => exact heeds.elim
      | _ => cases deed
    · cases deed
      rfl

theorem runScenarios_closes (suite : Suite) {env : Environment} {l₀ : Lifecycle}
    (h : Reaches l₀ .genesisSynced l s.deeds) (date : l.indexDate = env.indexDate) :
    (runScenarios suite env >>= concludeRun : Step σ Report).Obeys
      (fun _ d => d.Closes env.indexDate) s.deeds l
      (fun _ l' later => Reaches l₀ .done l' later ∧ l'.phase ≠ .notStarted ∧
        l'.indexDate = env.indexDate)
      fun _ _ _ => False := by
  have u := closingUpkeep (σ := σ) env.indexDate
  have started : l.phase ≠ .notStarted := by
    rw [h.phase]
    exact nofun
  apply (u.runScenarios_obeys suite env h ⟨started, date⟩).seq
  rintro report l' n ⟨running, kept⟩
  exact u.concludeRun_reaches report running kept rfl

/-- From scenarios on, a run plays on its environment to the end. -/
theorem runScenarios_plays (suite : Suite) {env : Environment} {l₀ : Lifecycle}
    (h : Reaches l₀ .genesisSynced l s.deeds) (date : l.indexDate = env.indexDate) :
    (runScenarios suite env >>= concludeRun : Step σ Report).Leads l s
      (fun _ l' later => s.Plays env later ∧ l'.indexDate = env.indexDate ∧
        Standing l' later.deeds)
      (s.Plays env) := by
  have follows : (runScenarios suite env >>= concludeRun : Step σ Report).Keeps
      (Event.Follows env) := by
    apply Step.Keeps.bind (runScenarios_follows suite env)
    intro report
    exact Operation.Keeps.mono (concludeRun_heeds report) fun _ => .inl
  apply ((runScenarios_closes suite h date).leads.and follows.leads).mono
  · rintro _ l' later ⟨⟨closes, reached, -, date⟩, follows, -⟩
    exact ⟨Session.plays_of_follows closes follows, date, reached.standing⟩
  · rintro later ⟨closes, follows⟩
    exact Session.plays_of_follows closes follows

/-! ### Suites -/

/-- Whatever is handed over is as `P` says. -/
def AllHanded (P : Environment → List Deed → Prop) (xs : List Response) (t : List Deed) : Prop :=
  ∀ env ∈ handedOver xs t, P env t

/-- The record is fit to close a run on what is handed over. -/
def Closable (l : Lifecycle) (xs : List Response) (t : List Deed) : Prop :=
  ∀ env ∈ handedOver xs t, l.indexDate = env.indexDate ∧ Standing l t

section Unopened

variable {xs : List Response} {t : List Deed}

omit [Services σ]

theorem handedOver_unopened (unopened : t.filterMap Deed.begun? = []) :
    handedOver xs t = xs.filterMap Response.environment? := by
  unfold handedOver
  rw [unopened, List.map_nil, List.append_nil]

theorem allHanded_nothing (nothing : handedOver xs t = []) : AllHanded P xs t := by
  intro env henv
  rw [nothing] at henv
  cases henv

theorem closable_nothing (nothing : handedOver xs t = []) : Closable l xs t := by
  intro env henv
  rw [nothing] at henv
  cases henv

end Unopened

omit [Services σ] in
theorem begun_of_heeds {later : Session σ} (h : s.Later (Event.Heeds none) later) :
    later.deeds.filterMap Deed.begun? = s.deeds.filterMap Deed.begun? := by
  obtain ⟨n, hn, events⟩ := h.events
  have none : (n.map Event.deed).filterMap Deed.begun? = [] := by
    rw [List.filterMap_eq_nil_iff]
    intro d hd
    obtain ⟨e, he, rfl⟩ := List.mem_map.1 hd
    cases e with
    | began => exact (events _ he).1.elim
    | _ => rfl
  unfold Session.deeds
  rw [hn, List.map_append, List.filterMap_append, none, List.append_nil]

omit [Services σ] in
/-- A run that plays on an environment hands over no other. -/
theorem Session.Plays.handed {begun : Timestamp} {env : Environment} {later : Session σ}
    (plays : s.Plays env later) (lasting : Lasting l begun P)
    (unopened : s.deeds.filterMap Deed.begun? = []) (ready : P env s.deeds) :
    ∀ e ∈ handedOver [] later.deeds, e = env ∧ P env later.deeds := by
  obtain ⟨n, hn, closes, own⟩ := plays
  intro e he
  rw [hn]
  refine ⟨?_, lasting.kept ready closes⟩
  unfold handedOver at he
  rw [hn, List.filterMap_append, unopened] at he
  obtain ⟨⟨scenario, e'⟩, hm, rfl⟩ := List.mem_map.1 he
  obtain ⟨d, hd, begun⟩ := List.mem_filterMap.1 hm
  cases d with
  | began =>
    cases begun
    exact own _ _ hd
  | _ => cases begun

theorem runSuite_hands (lasting : Lasting l s.today P) (suite : Suite) (h : Standing l s.deeds)
    (start : l.phase = .notStarted) (fresh : s.deeds = []) :
    (runSuite suite : Step σ Report).Leads l s
      (fun _ l' later => AllHanded P [] later.deeds ∧ Closable l' [] later.deeds)
      fun later => AllHanded P [] later.deeds := by
  have silent : ∀ later : Session σ, later.deeds.filterMap Deed.begun? = [] →
      AllHanded P [] later.deeds :=
    fun _ unopened => allHanded_nothing (handedOver_unopened unopened)
  have still : ∀ (l' : Lifecycle) (later : Session σ), later.deeds.filterMap Deed.begun? = [] →
      AllHanded P [] later.deeds ∧ Closable l' [] later.deeds :=
    fun _ later unopened => ⟨silent later unopened, closable_nothing (handedOver_unopened unopened)⟩
  unfold runSuite
  split
  · apply (setup_hands lasting true h start fresh).bind silent
    rintro r l' later ⟨unopened, -⟩
    exact Step.leads_pure (still l' later unopened)
  · apply (setup_hands lasting false h start fresh).bind silent
    rintro r l' later ⟨unopened, -, ready⟩
    cases r with
    | ready env =>
      obtain ⟨reached, date, holds⟩ := ready env rfl
      apply (runScenarios_plays suite reached date).mono
      · rintro _ l₂ last ⟨plays, date, standing⟩
        refine ⟨fun e he => ?_, fun e he => ?_⟩
        · obtain ⟨rfl, holds⟩ := plays.handed lasting unopened holds e he
          exact holds
        · obtain ⟨rfl, -⟩ := plays.handed lasting unopened holds e he
          exact ⟨date, standing⟩
      · intro last plays e he
        obtain ⟨rfl, holds⟩ := plays.handed lasting unopened holds e he
        exact holds
    | skipped => exact Step.leads_pure (still l' later unopened)
    | failed failure =>
      apply Step.leads_record_bind
      apply (concludeRun_heeds _).leads.mono
      · rintro _ l₂ last ⟨heeds, -⟩
        exact still l₂ last ((begun_of_heeds heeds).trans unopened)
      · intro last heeds
        exact silent last ((begun_of_heeds heeds).trans unopened)

/-- A run that fails has begun no scenario. -/
theorem runSuite_failed {suite : Suite} {f : PhaseFailure} {l' : Lifecycle} {later : Session σ}
    (h : Standing l s.deeds) (start : l.phase = .notStarted) (fresh : s.deeds = [])
    (ended : (runSuite suite).exec l s = (.ok (.error f, l'), later)) :
    later.deeds.filterMap Deed.begun? = [] := by
  have any : Lasting l s.today fun _ _ => True := ⟨fun _ _ _ => trivial, fun _ _ => trivial⟩
  unfold runSuite at ended
  split at ended
  · have hands := setup_hands any true h start fresh
    rcases Step.exec_bind_error ended with failed | ⟨r, l₁, s₁, -, rest⟩
    · exact hands.failed failed
    · cases rest
  · have hands := setup_hands any false h start fresh
    rcases Step.exec_bind_error ended with failed | ⟨r, l₁, s₁, done, rest⟩
    · exact hands.failed failed
    · obtain ⟨unopened, -, ready⟩ := hands.result done
      cases r with
      | ready env =>
        obtain ⟨reached, date, -⟩ := ready env rfl
        obtain ⟨_, -, -, never⟩ := runScenarios_closes suite reached date s₁
        exact (never (.error f, l') (congrArg Prod.fst rest)).elim
      | skipped => cases rest
      | failed failure =>
        rw [Step.exec_bind, Step.exec_record] at rest
        have heeds := (concludeRun_heeds _).leads.failed rest
        exact (begun_of_heeds heeds).trans unopened

/-! ### Requests -/

/-- The responses to requests, none if the run never ends. -/
def responsesOf : Except Halt (List Response × Lifecycle) → List Response
  | .ok (xs, _) => xs
  | .error _ => []

theorem Request.perform_hands {q : Request} {x : Response} {l' : Lifecycle} {later : Session σ}
    (lasting : Lasting l s.today P) (starts : q.starts = true) (h : Standing l s.deeds)
    (start : l.phase = .notStarted) (fresh : s.deeds = [])
    (performed : q.perform.exec l s = (.ok (x, l'), later)) :
    AllHanded P [x] later.deeds ∧ Closable l' [x] later.deeds := by
  cases q with
  | setup skip =>
    have hands := setup_hands lasting skip h start fresh
    obtain ⟨r, ran, rfl⟩ := Step.exec_answer_ok performed
    cases r with
    | error f =>
      have unopened := hands.failed ran
      have nothing : handedOver [Response.setup (.error f)] later.deeds = [] :=
        handedOver_unopened unopened
      exact ⟨allHanded_nothing nothing, closable_nothing nothing⟩
    | ok r =>
      obtain ⟨unopened, standing, ready⟩ := hands.result ran
      have given : ∀ env ∈ handedOver [Response.setup (.ok r)] later.deeds, r = .ready env := by
        intro env henv
        rw [handedOver_unopened unopened] at henv
        cases r with
        | ready e => rw [List.mem_singleton.1 henv]
        | skipped | failed => cases henv
      refine ⟨fun env henv => ?_, fun env henv => ?_⟩
      · exact (ready env (given env henv)).2.2
      · exact ⟨(ready env (given env henv)).2.1, standing⟩
  | run suite =>
    have hands := runSuite_hands lasting suite h start fresh
    obtain ⟨r, ran, rfl⟩ := Step.exec_answer_ok performed
    cases r with
    | error f =>
      have nothing : handedOver [Response.run (.error f)] later.deeds = [] :=
        handedOver_unopened (runSuite_failed h start fresh ran)
      exact ⟨allHanded_nothing nothing, closable_nothing nothing⟩
    | ok report => exact hands.result ran
  | beginScenarios | teardown => cases starts

theorem Request.perform_halted {q : Request} {halt : Halt} {later : Session σ}
    (lasting : Lasting l s.today P) (starts : q.starts = true) (h : Standing l s.deeds)
    (start : l.phase = .notStarted) (fresh : s.deeds = [])
    (performed : q.perform.exec l s = (.error halt, later)) :
    AllHanded P [] later.deeds := by
  cases q with
  | setup skip =>
    have hands := setup_hands lasting skip h start fresh
    have unopened := hands.halted (Step.exec_answer_halt performed)
    exact allHanded_nothing (handedOver_unopened unopened)
  | run suite =>
    exact (runSuite_hands lasting suite h start fresh).halted (Step.exec_answer_halt performed)
  | beginScenarios | teardown => cases starts

theorem responsesOf_cons {q : Request} (rest : List Request) {x : Response} {l₁ : Lifecycle}
    {s₁ : Session σ} (performed : q.perform.exec l s = (.ok (x, l₁), s₁)) :
    ((performAll (q :: rest)).exec l s).2 = ((performAll rest).exec l₁ s₁).2 ∧
      responsesOf ((performAll (q :: rest)).exec l s).1 ⊆
        x :: responsesOf ((performAll rest).exec l₁ s₁).1 := by
  rw [exec_performAll_cons performed]
  rcases (performAll rest).exec l₁ s₁ with ⟨halt | ⟨ys, l₂⟩, s₂⟩
  · exact ⟨rfl, List.nil_subset _⟩
  · exact ⟨rfl, List.Subset.refl _⟩

omit [Services σ] in
theorem handedOver_subset {xs ys : List Response} (h : ∀ x ∈ xs, ∀ env, x.environment? = some env →
    x ∈ ys) : handedOver xs t ⊆ handedOver ys t := by
  intro env henv
  rcases List.mem_append.1 henv with henv | henv
  · obtain ⟨x, hx, given⟩ := List.mem_filterMap.1 henv
    exact List.mem_append_left _ (List.mem_filterMap.2 ⟨x, h x hx env given, given⟩)
  · exact List.mem_append_right _ henv

/-- What lasts is true of everything that is handed over, whatever is asked of a fresh run. -/
theorem performAll_hands (lasting : Lasting l s.today P) (qs : List Request)
    (h : Standing l s.deeds) (start : l.phase = .notStarted) (fresh : s.deeds = []) :
    AllHanded P (responsesOf ((performAll qs).exec l s).1)
      ((performAll qs).exec l s).2.deeds := by
  -- Requests leave a fresh run as it is, up to one that starts it; the ones after that close it.
  induction qs with
  | nil =>
    have nothing : handedOver [] s.deeds = [] := by
      rw [fresh]
      rfl
    exact allHanded_nothing nothing
  | cons q rest ih =>
    cases starts : q.starts with
    | false =>
      obtain ⟨x, performed, none⟩ := Request.perform_idle starts start s
      obtain ⟨same, responses⟩ := responsesOf_cons rest performed
      rw [same]
      intro env henv
      apply ih env
      apply handedOver_subset _ henv
      intro y hy e given
      rcases List.mem_cons.1 (responses hy) with rfl | hy
      · rw [none] at given
        cases given
      · exact hy
    | true =>
      rcases performed : q.perform.exec l s with ⟨halt | ⟨x, l₁⟩, s₁⟩
      · rw [exec_performAll_halt performed]
        exact Request.perform_halted lasting starts h start fresh performed
      · obtain ⟨holds, closable⟩ := Request.perform_hands lasting starts h start fresh performed
        have started := Request.started starts h performed
        obtain ⟨later, none⟩ := performAll_later rest started s₁
        obtain ⟨same, responses⟩ := responsesOf_cons rest performed
        rw [same]
        intro env henv
        have before : env ∈ handedOver [x] s₁.deeds := by
          unfold handedOver at henv ⊢
          rw [begun_of_heeds later] at henv
          apply handedOver_subset _ henv
          intro y hy e given
          rcases List.mem_cons.1 (responses hy) with rfl | hy
          · exact List.mem_cons_self
          · rcases hr : ((performAll rest).exec l₁ s₁).1 with halt | ⟨ys, l₂⟩ <;> rw [hr] at hy
            · cases hy
            · rw [none ys l₂ hr y hy] at given
              cases given
        obtain ⟨date, standing⟩ := closable env before
        obtain ⟨n, hn, lawful, -⟩ :=
          (closingUpkeep env.indexDate).performAll_obeys rest standing ⟨started, date⟩ s₁
        have trace : ((performAll rest).exec l₁ s₁).2.deeds = s₁.deeds ++ n := hn
        rw [trace]
        apply lasting.kept (holds env before)
        intro d hd
        obtain ⟨-, closes⟩ := lawful.mem hd
        exact closes

/-- What lasts for a new run is true of each environment that comes of any requests to it. -/
theorem Lasting.handed {b : Blueprint} {st : Settings} {draws : SuffixDraws} {born : Timestamp}
    {world : σ} {clock : Duration} {calendar : Duration → Timestamp} {patience : Nat}
    {requests : List Request} {env : Environment}
    {ended : Except Halt (List Response × Lifecycle) × Session σ}
    (lasting : Lasting (.create b st draws born) (calendar clock) P)
    (run : (performAll requests).exec (.create b st draws born)
      ⟨world, clock, calendar, patience, []⟩ = ended)
    (given : env ∈ handedOver (responsesOf ended.1) ended.2.deeds) : P env ended.2.deeds := by
  subst run
  exact performAll_hands (s := ⟨world, clock, calendar, patience, []⟩) lasting requests
    (Standing.create b st draws born) rfl rfl env given

end Runs

end ProvingGround
