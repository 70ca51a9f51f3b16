import ProvingGround.Proofs.Trace.Basic
import ProvingGround.Session.Poll

/-!
# Two sessions in lockstep

Two sessions look alike when the same calls were made at the same times, whatever was answered. Two
executions are in lockstep when they keep it so and have one ending. A relation between the worlds
goes along, for it says what the next answers may be; after an ending without a value nothing more
is asked, and it is dropped.
-/

namespace ProvingGround

variable {σ τ α β : Type}

/-! ### Sessions that look alike -/

/-- What is seen of an event when answers are not. -/
inductive Outline where
  | exchanged (call : Call) (start finish : Duration)
  | probed (call : Call) (start finish : Duration)
  | entered (phase : Phase) (clock : Duration)
  | began (scenario : String) (environment : Environment) (clock : Duration)

def Event.outline : Event → Outline
  | exchanged e => .exchanged e.call e.start e.finish
  | probed e => .probed e.call e.start e.finish
  | entered phase clock => .entered phase clock
  | began scenario environment clock => .began scenario environment clock

/-- The same happened at the same times, as far as it is seen without the answers. -/
structure Session.Alike (s : Session σ) (s' : Session τ) : Prop where
  clock : s'.clock = s.clock
  calendar : s'.calendar = s.calendar
  patience : s'.patience = s.patience
  outlines : s'.history.map Event.outline = s.history.map Event.outline

namespace Session.Alike

variable {s : Session σ} {s' : Session τ}

theorem today (h : s.Alike s') : s'.today = s.today := by
  unfold Session.today
  rw [h.calendar, h.clock]

theorem wait (h : s.Alike s') (clock : Duration) :
    Session.Alike { s with clock } { s' with clock } :=
  ⟨rfl, h.calendar, h.patience, h.outlines⟩

theorem note {e e' : Event} (h : s.Alike s') (same : e'.outline = e.outline) :
    (s.note e).Alike (s'.note e') := by
  refine ⟨h.clock, h.calendar, h.patience, ?_⟩
  rw [history_note, history_note, List.map_append, List.map_append, h.outlines]
  simp only [List.map_cons, List.map_nil, same]

theorem exchange [Services σ] [Services τ] {c : Call} (h : s.Alike s')
    (delay : (Services.respond s'.world s.clock c).1.delay =
      (Services.respond s.world s.clock c).1.delay) :
    (Act.exchange .exchanged c s).2.Alike (Act.exchange .exchanged c s').2 := by
  have clock : (Act.exchange .exchanged c s').2.clock = (Act.exchange .exchanged c s).2.clock := by
    simp only [Act.exchange, Session.pass, Session.note, h.clock, delay]
  have made : ∀ x y,
      (Event.exchanged ⟨c, s'.clock, (Act.exchange .exchanged c s').2.clock, y⟩).outline =
      (Event.exchanged ⟨c, s.clock, (Act.exchange .exchanged c s).2.clock, x⟩).outline := by
    intro x y
    simp only [Event.outline, clock, h.clock]
  have before : Session.Alike { (Act.exchange .exchanged c s).2 with journal := s.journal }
      { (Act.exchange .exchanged c s').2 with journal := s'.journal } :=
    ⟨clock, h.calendar, h.patience, h.outlines⟩
  exact before.note (made _ _)

end Session.Alike

/-! ### Actions -/

/-- In worlds as `W` says, the actions keep sessions alike and have one ending; with a value they
lead to worlds as `W'` says. -/
def Act.Lockstep (W : σ → τ → Prop) (a : Act σ α) (a' : Act τ α) (W' : α → σ → τ → Prop) : Prop :=
  ∀ (s : Session σ) (s' : Session τ), s.Alike s' → W s.world s'.world →
    ∃ r m m', a.exec s = (r, m) ∧ a'.exec s' = (r, m') ∧ m.Alike m' ∧
      ∀ v, r = .ok v → W' v m.world m'.world

namespace Act

variable {W : σ → τ → Prop} {W' : α → σ → τ → Prop}

theorem lockstep_halt (h : Halt) :
    Lockstep W (halt h : Act σ α) (halt h : Act τ α) W' := by
  intro s s' alike _
  exact ⟨.error h, s, s', rfl, rfl, alike, fun _ hv => nomatch hv⟩

theorem lockstep_clock : Lockstep W (clock : Act σ _) (clock : Act τ _) fun _ => W := by
  intro s s' alike worlds
  refine ⟨.ok s.clock, s, s', rfl, ?_, alike, fun _ _ => worlds⟩
  rw [exec_clock, alike.clock]

theorem lockstep_today : Lockstep W (today : Act σ _) (today : Act τ _) fun _ => W := by
  intro s s' alike worlds
  refine ⟨.ok s.today, s, s', rfl, ?_, alike, fun _ _ => worlds⟩
  rw [← alike.today]
  rfl

theorem lockstep_patience : Lockstep W (patience : Act σ _) (patience : Act τ _) fun _ => W := by
  intro s s' alike worlds
  refine ⟨.ok s.patience, s, s', rfl, ?_, alike, fun _ _ => worlds⟩
  rw [← alike.patience]
  rfl

theorem lockstep_sleep (d : Duration) :
    Lockstep W (sleep d : Act σ _) (sleep d : Act τ _) fun _ => W := by
  intro s s' alike worlds
  refine ⟨.ok (), { s with clock := Timer.fires s.clock d },
    { s' with clock := Timer.fires s.clock d }, rfl, ?_, alike.wait _, fun _ _ => worlds⟩
  rw [exec_sleep, alike.clock]

end Act

/-! ### Tasks -/

namespace Task

/-- Two tasks in lockstep; a value of them leads to worlds as `W'` says. -/
def Lockstep (W : σ → τ → Prop) (t : Task σ α) (t' : Task τ α) (W' : α → σ → τ → Prop) : Prop :=
  Act.Lockstep W t.attempt t'.attempt fun x w w' => ∀ v, x = .ok v → W' v w w'

variable {W : σ → τ → Prop} {W' : α → σ → τ → Prop} {W'' : β → σ → τ → Prop}

theorem Lockstep.exec {t : Task σ α} {t' : Task τ α} {s : Session σ} {s' : Session τ}
    (h : Lockstep W t t' W') (alike : s.Alike s') (worlds : W s.world s'.world) :
    ∃ r m m', t.exec s = (r, m) ∧ t'.exec s' = (r, m') ∧ m.Alike m' ∧
      ∀ v, r = .ok (.ok v) → W' v m.world m'.world := by
  obtain ⟨r, m, m', ht, ht', alike, ended⟩ := h s s' alike worlds
  exact ⟨r, m, m', ht, ht', alike, fun v hv => ended (.ok v) hv v rfl⟩

theorem Lockstep.of_exec {t : Task σ α} {t' : Task τ α}
    (h : ∀ (s : Session σ) (s' : Session τ), s.Alike s' → W s.world s'.world →
      ∃ r m m', t.exec s = (r, m) ∧ t'.exec s' = (r, m') ∧ m.Alike m' ∧
        ∀ v, r = .ok (.ok v) → W' v m.world m'.world) : Lockstep W t t' W' := by
  intro s s' alike worlds
  obtain ⟨r, m, m', ht, ht', alike, ended⟩ := h s s' alike worlds
  refine ⟨r, m, m', ht, ht', alike, fun x hx v hv => ended v ?_⟩
  rw [hx, hv]

theorem Lockstep.bind {t : Task σ α} {t' : Task τ α} {k : α → Task σ β} {k' : α → Task τ β}
    (ht : Lockstep W t t' W') (hk : ∀ v, Lockstep (W' v) (k v) (k' v) W'') :
    Lockstep W (t >>= k) (t' >>= k') W'' := by
  apply Lockstep.of_exec
  intro s s' alike worlds
  obtain ⟨r, m, m', ht, ht', alike, ended⟩ := ht.exec alike worlds
  rw [exec_bind, exec_bind, ht, ht']
  match r with
  | .error halt => exact ⟨.error halt, m, m', rfl, rfl, alike, fun _ hv => nomatch hv⟩
  | .ok (.error f) => exact ⟨.ok (.error f), m, m', rfl, rfl, alike, fun _ hv => nomatch hv⟩
  | .ok (.ok v) => exact (hk v).exec alike (ended v rfl)

theorem lockstep_pure {v : α} {V : σ → τ → Prop} (keep : ∀ w w', V w w' → W' v w w') :
    Lockstep V (pure v : Task σ α) (pure v : Task τ α) W' := by
  apply Lockstep.of_exec
  intro s s' alike worlds
  refine ⟨.ok (.ok v), s, s', rfl, rfl, alike, fun x hx => ?_⟩
  cases hx
  exact keep _ _ worlds

theorem lockstep_throw (f : Fault) :
    Lockstep W (throw f : Task σ α) (throw f : Task τ α) W' := by
  apply Lockstep.of_exec
  intro s s' alike _
  exact ⟨.ok (.error f), s, s', rfl, rfl, alike, fun _ hv => nomatch hv⟩

theorem lockstep_ofConfig (x : Except ConfigCause α) :
    Lockstep W (ofConfig x : Task σ α) (ofConfig x : Task τ α) fun _ => W := by
  cases x with
  | ok v => exact lockstep_pure fun _ _ h => h
  | error c => exact lockstep_throw _

theorem lockstep_lift {a : Act σ α} {a' : Act τ α} (h : Act.Lockstep W a a' W') :
    Lockstep W (lift a) (lift a') W' := by
  apply Lockstep.of_exec
  intro s s' alike worlds
  obtain ⟨r, m, m', ha, ha', alike, ended⟩ := h s s' alike worlds
  refine ⟨r.map .ok, m, m', ?_, ?_, alike, fun v hv => ended v ?_⟩
  · rw [exec_lift, ha]
  · rw [exec_lift, ha']
  · cases r with
    | error halt => cases hv
    | ok w =>
      cases hv
      rfl

/-- The answers to a call are the same. -/
theorem lockstep_call [Services σ] [Services τ] {c : Call} {V : σ → τ → Prop}
    (answers : ∀ w w' now, W w w' →
      (Services.respond w' now c).1 = (Services.respond w now c).1 ∧
        V (Services.respond w now c).2 (Services.respond w' now c).2) :
    Lockstep W (call c : Task σ _) (call c : Task τ _) fun _ => V := by
  apply Lockstep.of_exec
  intro s s' alike worlds
  obtain ⟨same, next⟩ := answers _ _ s.clock worlds
  rw [exec_call, exec_call]
  refine ⟨.ok (Act.exchange .exchanged c s).1, _, _, rfl, ?_, alike.exchange (congrArg _ same),
    fun _ _ => ?_⟩
  · simp only [Act.exchange, alike.clock, same]
  · simp only [Act.exchange, alike.clock]
    exact next

/-! ### Polls -/

/-- A poll cannot tell the checks apart. -/
def Indistinct (W : σ → τ → Prop) (t : Task σ (Option α)) (t' : Task τ (Option α)) : Prop :=
  ∀ (s : Session σ) (s' : Session τ), s.Alike s' → W s.world s'.world →
    ∃ x y m m', t.exec s = (.ok x, m) ∧ t'.exec s' = (.ok y, m') ∧
      Verdict.of y = Verdict.of x ∧ m.Alike m' ∧ W m.world m'.world

theorem indistinct_pure (v : Option α) :
    Indistinct W (pure v : Task σ (Option α)) (pure v : Task τ (Option α)) := by
  intro s s' alike worlds
  exact ⟨.ok v, .ok v, s, s', rfl, rfl, rfl, alike, worlds⟩

theorem indistinct_throw (f : Fault) :
    Indistinct W (throw f : Task σ (Option α)) (throw f : Task τ (Option α)) := by
  intro s s' alike worlds
  exact ⟨.error f, .error f, s, s', rfl, rfl, rfl, alike, worlds⟩

theorem exec_lift_attempt {t : Task σ α} {x : Except Fault α} {s m : Session σ}
    (h : t.exec s = (.ok x, m)) : (lift t.attempt).exec s = (.ok (.ok x), m) := by
  rw [exec_lift, show t.attempt.exec s = (.ok x, m) from h]
  rfl

theorem Indistinct.bind {t : Task σ (Option α)} {t' : Task τ (Option α)}
    {k : Except Fault (Option α) → Task σ β} {k' : Except Fault (Option α) → Task τ β}
    (ht : Indistinct W t t')
    (hk : ∀ x y, Verdict.of y = Verdict.of x → Lockstep W (k x) (k' y) W'') :
    Lockstep W (lift t.attempt >>= k) (lift t'.attempt >>= k') W'' := by
  apply Lockstep.of_exec
  intro s s' alike worlds
  obtain ⟨x, y, m, m', hx, hy, same, alike, worlds⟩ := ht s s' alike worlds
  rw [exec_bind, exec_bind, exec_lift_attempt hx, exec_lift_attempt hy]
  exact (hk x y same).exec alike worlds

end Task

section Polls

variable {W : σ → τ → Prop} {what : String} {l : PollLimits} {start : Duration}
  {check : Task σ (Option α)} {check' : Task τ (Option α)}

theorem pollFrom_lockstep (h : Task.Indistinct W check check') (n : Nat) :
    Task.Lockstep W (pollFrom what l start check n) (pollFrom what l start check' n)
      fun _ => W := by
  induction n with
  | zero => exact Task.lockstep_lift (Act.lockstep_halt .stalled)
  | succ n ih =>
    unfold pollFrom
    apply h.bind
    intro x y same
    rw [same]
    cases Verdict.of x with
    | ready a => exact Task.lockstep_pure fun _ _ h => h
    | failed f => exact Task.lockstep_throw f
    | notYet =>
      apply (Task.lockstep_lift Act.lockstep_clock).bind
      intro now
      dsimp only
      split
      · exact Task.lockstep_throw _
      · apply (Task.lockstep_lift (Act.lockstep_sleep _)).bind
        intro _
        exact ih

theorem poll_lockstep (what : String) (l : PollLimits) (h : Task.Indistinct W check check') :
    Task.Lockstep W (poll what l check) (poll what l check') fun _ => W := by
  apply (Task.lockstep_lift Act.lockstep_clock).bind
  intro start
  apply (Task.lockstep_lift Act.lockstep_patience).bind
  intro patience
  exact pollFrom_lockstep h _

end Polls

end ProvingGround
