import ProvingGround.Lifecycle.Run

/-!
# What operations give

A trigger without an edge is refused: the run and the session stay as they are. So are setup once
the run has started, and everything else on a run that stands nowhere in between.
-/

namespace ProvingGround

variable {σ α : Type} {l : Lifecycle}

/-- What gives a result gives one up to each of its parts. -/
theorem Act.exec_bind_ok {β : Type} {a : Act σ α} {b : α → Act σ β} {s later : Session σ} {v : β}
    (h : (a >>= b).exec s = (.ok v, later)) :
    ∃ w middle, a.exec s = (.ok w, middle) ∧ (b w).exec middle = (.ok v, later) := by
  rw [exec_bind] at h
  rcases ha : a.exec s with ⟨halt | w, middle⟩
  · rw [ha] at h
    cases h
  · rw [ha] at h
    exact ⟨w, middle, rfl, h⟩

theorem Task.exec_bind_ok {β : Type} {t : Task σ α} {u : α → Task σ β} {s later : Session σ} {v : β}
    (h : (t >>= u).exec s = (.ok (.ok v), later)) :
    ∃ w middle, t.exec s = (.ok (.ok w), middle) ∧ (u w).exec middle = (.ok (.ok v), later) := by
  rw [exec_bind] at h
  rcases ht : t.exec s with ⟨halt | f | w, middle⟩ <;> rw [ht] at h
  · cases h
  · cases h
  · exact ⟨w, middle, rfl, h⟩

theorem Step.exec_bind_ok {β : Type} {t : Step σ α} {u : α → Step σ β} {s later : Session σ} {v : β}
    {l' : Lifecycle} (h : (t >>= u).exec l s = (.ok (.ok v, l'), later)) :
    ∃ w l₁ middle, t.exec l s = (.ok (.ok w, l₁), middle) ∧
      (u w).exec l₁ middle = (.ok (.ok v, l'), later) := by
  rw [exec_bind] at h
  rcases ht : t.exec l s with ⟨halt | ⟨f | w, l₁⟩, middle⟩ <;> rw [ht] at h
  · cases h
  · cases h
  · exact ⟨w, l₁, middle, rfl, h⟩

/-! ### Triggers -/

namespace Operation

theorem exec_fire_none {t : Trigger} (h : Transition.find? l.phase t = none) (s : Session σ) :
    (fire t : Operation σ _).exec l s = (.ok (.error (.invalidTransition l.phase t), l), s) := by
  have hg : (get : Operation σ Lifecycle).exec l s = (.ok (l, l), s) := rfl
  unfold fire
  rw [exec_bind, hg]
  dsimp only
  rw [h]
  rfl

theorem exec_fire_some {t : Trigger} {e : Transition} (h : Transition.find? l.phase t = some e)
    (s : Session σ) :
    (fire t : Operation σ _).exec l s =
      (.ok (.ok (), l.enter e.target), s.note (.entered e.target s.clock)) := by
  have hg : (get : Operation σ Lifecycle).exec l s = (.ok (l, l), s) := rfl
  unfold fire
  rw [exec_bind, hg]
  dsimp only
  rw [h]
  rfl

theorem exec_act (a : Act σ α) (l : Lifecycle) (s : Session σ) :
    (act a).exec l s =
      match a.exec s with
      | (.ok v, later) => (.ok (v, l), later)
      | (.error h, later) => (.error h, later) := by
  have hb := Act.exec_bind a (fun v => (pure (v, l) : Act σ (α × Lifecycle))) s
  refine Eq.trans ?_ (hb.trans ?_)
  · rfl
  · rcases a.exec s with ⟨_ | v, later⟩ <;> rfl

theorem exec_answer {β : Type} {o : Operation σ α} {s later : Session σ} {v : α} {run : Lifecycle}
    (f : α → β) (h : o.exec l s = (.ok (v, run), later)) :
    (do return f (← o) : Operation σ β).exec l s = (.ok (f v, run), later) := by
  rw [exec_bind, h]
  rfl

theorem exec_answer_ok {β : Type} {o : Operation σ α} {s later : Session σ} {f : α → β} {x : β}
    {run : Lifecycle} (h : (do return f (← o) : Operation σ β).exec l s = (.ok (x, run), later)) :
    ∃ v, o.exec l s = (.ok (v, run), later) ∧ f v = x := by
  rw [exec_bind] at h
  rcases ho : o.exec l s with ⟨halt | ⟨v, l₁⟩, s₁⟩ <;> rw [ho] at h <;> cases h
  exact ⟨v, rfl, rfl⟩

end Operation

namespace Step

theorem exec_record (l : Lifecycle) (s : Session σ) :
    (record : Step σ Lifecycle).exec l s = (.ok (.ok l, l), s) := rfl

theorem exec_lift (o : Operation σ α) (l : Lifecycle) (s : Session σ) :
    (lift o).exec l s =
      match o.exec l s with
      | (.ok (v, run), later) => (.ok (.ok v, run), later)
      | (.error h, later) => (.error h, later) := by
  unfold exec
  rw [show ExceptT.run (lift o) = Except.ok <$> o from ExceptT.run_lift o, map_eq_pure_bind,
    Operation.exec_bind]
  rcases o.exec l s with ⟨_ | ⟨v, run⟩, later⟩ <;> rfl

theorem exec_advance_none {p : Phase} {t : Trigger} (h : Transition.find? l.phase t = none)
    (s : Session σ) :
    (advance p t : Step σ Unit).exec l s =
      (.ok (.error ⟨p, .invalidTransition l.phase t⟩, l), s) := by
  unfold advance
  rw [exec_bind, exec_lift, Operation.exec_fire_none h]
  rfl

theorem exec_advance_some {p : Phase} {t : Trigger} {e : Transition}
    (h : Transition.find? l.phase t = some e) (s : Session σ) :
    (advance p t : Step σ Unit).exec l s =
      (.ok (.ok (), l.enter e.target), s.note (.entered e.target s.clock)) := by
  unfold advance
  rw [exec_bind, exec_lift, Operation.exec_fire_some h]
  rfl

end Step

/-! ### Setup -/

/-- The run when its network is about to be brought up. -/
def Lifecycle.begun (l : Lifecycle) (now : Timestamp) : Lifecycle :=
  prepareRun now (l.enter .provisioning)

def Session.begun (s : Session σ) : Session σ := s.note (.entered .provisioning s.clock)

theorem exec_settleFailure_debug {f : PhaseFailure} (debug : l.settings.debug = true)
    (s : Session σ) : (settleFailure f).exec l s = (.ok (.error f, l), s) := by
  unfold settleFailure
  rw [Step.exec_bind, Step.exec_record]
  dsimp only
  rw [if_pos debug]
  rfl

theorem exec_settleFailure_lenient {f : PhaseFailure} {e : Transition}
    (lenient : l.settings.debug = false) (edge : Transition.find? l.phase .setupFailed = some e)
    (s : Session σ) :
    (settleFailure f).exec l s =
      (.ok (.ok (.failed f), l.enter e.target), s.note (.entered e.target s.clock)) := by
  unfold settleFailure
  rw [Step.exec_bind, Step.exec_record]
  dsimp only
  rw [if_neg (by simp [lenient]), Step.exec_bind, Step.exec_advance_some edge]
  rfl

theorem exec_setup_begun [Services σ] (start : l.phase = .notStarted) (s : Session σ) :
    (setup false).exec l s =
      match bringUp.exec (l.begun s.today) s.begun with
      | (.ok (.ok env, l'), later) => (.ok (.ok (.ready env), l'), later)
      | (.ok (.error f, l'), later) => (settleFailure f).exec l' later
      | (.error h, later) => (.error h, later) := by
  have edge : Transition.find? l.phase .setupStarted =
      some ⟨.notStarted, .provisioning, .setupStarted, "Provisioning namespace"⟩ := by
    rw [start]
    rfl
  have today : (Step.lift (Operation.act Act.today)).exec (l.enter .provisioning) s.begun =
      (.ok (.ok s.today, l.enter .provisioning), s.begun) := rfl
  have prepare : (Step.update (prepareRun s.today)).exec (l.enter .provisioning) s.begun =
      (.ok (.ok (), l.begun s.today), s.begun) := rfl
  have up : Operation.exec (ExceptT.run bringUp) (l.begun s.today) s.begun =
      bringUp.exec (l.begun s.today) s.begun := rfl
  unfold setup
  rw [Step.exec_bind, Step.exec_record]
  dsimp only
  rw [if_neg Bool.false_ne_true, Step.exec_bind, Step.exec_advance_some edge]
  show ((Step.lift (Operation.act Act.today)) >>= _).exec (l.enter .provisioning) s.begun = _
  rw [Step.exec_bind, today]
  dsimp only
  rw [Step.exec_bind, prepare]
  dsimp only
  rw [Step.exec_bind, Step.exec_lift, up]
  rcases bringUp.exec (l.begun s.today) s.begun with ⟨h | ⟨f | env, l'⟩, later⟩ <;> rfl

/-! ### Refusals -/

section Refusals

variable [Services σ]

/-- The trigger that setup follows first. -/
def setupTrigger (skip : Bool) : Trigger := if skip then .skipRequested else .setupStarted

theorem exec_setup_refused (skip : Bool) (started : l.phase ≠ .notStarted) (s : Session σ) :
    (setup skip).exec l s =
      (.ok (.error ⟨l.phase, .invalidTransition l.phase (setupTrigger skip)⟩, l), s) := by
  have none : ∀ t, t = .skipRequested ∨ t = .setupStarted →
      Transition.find? l.phase t = .none := by
    rintro t (rfl | rfl) <;> revert started <;> cases l.phase <;> decide
  unfold setup
  rw [Step.exec_bind, Step.exec_record]
  dsimp only
  cases skip with
  | true =>
    rw [if_pos rfl, Step.exec_bind, Step.exec_advance_none (none _ (.inl rfl)), setupTrigger,
      if_pos rfl]
  | false =>
    rw [if_neg Bool.false_ne_true, Step.exec_bind, Step.exec_advance_none (none _ (.inr rfl)),
      setupTrigger, if_neg Bool.false_ne_true]

theorem exec_setup_of_started (skip : Bool) (started : l.phase ≠ .notStarted) (s : Session σ) :
    ∃ f, (setup skip).exec l s = (.ok (.error f, l), s) :=
  ⟨_, exec_setup_refused skip started s⟩

theorem exec_setup_skip (start : l.phase = .notStarted) (s : Session σ) :
    (setup true).exec l s =
      (.ok (.ok .skipped, l.enter .skipped), s.note (.entered .skipped s.clock)) := by
  have edge : Transition.find? l.phase .skipRequested =
      some ⟨.notStarted, .skipped, .skipRequested, "Run skipped"⟩ := by
    rw [start]
    rfl
  unfold setup
  rw [Step.exec_bind, Step.exec_record]
  dsimp only
  rw [if_pos rfl, Step.exec_bind, Step.exec_advance_some edge]
  rfl

theorem exec_runSuite_refused (suite : Suite) (started : l.phase ≠ .notStarted) (s : Session σ) :
    (runSuite suite).exec l s =
      (.ok (.error ⟨l.phase, .invalidTransition l.phase (setupTrigger suite.isSkipped)⟩, l),
        s) := by
  unfold runSuite
  cases suite.isSkipped with
  | true =>
    rw [if_pos rfl, Step.exec_bind, exec_setup_refused true started]
  | false =>
    rw [if_neg Bool.false_ne_true, Step.exec_bind, exec_setup_refused false started]

theorem exec_runSuite_of_started (suite : Suite) (started : l.phase ≠ .notStarted)
    (s : Session σ) : ∃ f, (runSuite suite).exec l s = (.ok (.error f, l), s) :=
  ⟨_, exec_runSuite_refused suite started s⟩

omit [Services σ] in
theorem exec_beginScenarios_refused (unready : l.phase ≠ .genesisSynced) (s : Session σ) :
    (beginScenarios : Operation σ _).exec l s =
      (.ok (.error (.invalidTransition l.phase .scenariosStarted), l), s) := by
  have none : Transition.find? l.phase .scenariosStarted = .none := by
    revert unready
    cases l.phase <;> decide
  exact Operation.exec_fire_none none s

omit [Services σ] in
theorem exec_beginScenarios_of_unready (unready : l.phase ≠ .genesisSynced) (s : Session σ) :
    ∃ f, (beginScenarios : Operation σ _).exec l s = (.ok (.error f, l), s) :=
  ⟨_, exec_beginScenarios_refused unready s⟩

theorem exec_teardown_of_nothing (success : Bool) (nothing : reportingTriggers l.phase = none)
    (s : Session σ) : (teardown success).exec l s = (.ok (.ok none, l), s) := by
  have hg : (get : Operation σ Lifecycle).exec l s = (.ok (l, l), s) := rfl
  unfold teardown
  rw [Operation.exec_bind, hg]
  dsimp only
  split
  · rfl
  · rw [nothing]
    rfl

end Refusals

end ProvingGround
