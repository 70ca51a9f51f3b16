import ProvingGround.Proofs.Lifecycle.Exec
import ProvingGround.Proofs.Trace.Poll

/-!
# The passing of time

Along an execution the clock never goes back, the calendar stays, and the history grows by events
that happen from then on. Which events these are is said by a kind of events that knows nothing of
what happened before.
-/

namespace ProvingGround

variable {σ α β : Type} {K L : Event → Prop} {s s' s'' : Session σ}

/-! ### Timers -/

/-- A timer set now for a span fires just at its end. -/
def Timer.Exact (now span : Duration) : Prop := Timer.fires now span = ⟨now.nanos + span.nanos⟩

theorem Timer.le_fires_now (now span : Duration) : now.nanos ≤ (Timer.fires now span).nanos := by
  simp only [Timer.fires]
  split <;> simp only [] <;> omega

/-! ### Later sessions -/

/-- When an event begins. -/
def Event.clock : Event → Duration
  | exchanged e => e.start
  | probed e => e.start
  | entered _ clock => clock
  | began _ _ clock => clock

/-- The session has become another one through events of a kind. -/
structure Session.Later (K : Event → Prop) (s s' : Session σ) : Prop where
  calendar : s'.calendar = s.calendar
  clock : s.clock.nanos ≤ s'.clock.nanos
  events : ∃ n, s'.history = s.history ++ n ∧ ∀ e ∈ n, K e ∧ s.clock.nanos ≤ e.clock.nanos

namespace Session.Later

theorem refl (s : Session σ) : s.Later K s :=
  ⟨rfl, Nat.le_refl _, [], (List.append_nil _).symm, fun _ he => nomatch he⟩

theorem trans (h : s.Later K s') (h' : s'.Later K s'') : s.Later K s'' := by
  obtain ⟨n, hn, kind⟩ := h.events
  obtain ⟨m, hm, kind'⟩ := h'.events
  refine ⟨h'.calendar.trans h.calendar, Nat.le_trans h.clock h'.clock, n ++ m, ?_, ?_⟩
  · rw [hm, hn, List.append_assoc]
  · intro e he
    rcases List.mem_append.1 he with he | he
    · exact kind e he
    · exact ⟨(kind' e he).1, Nat.le_trans h.clock (kind' e he).2⟩

theorem mono (h : s.Later K s') (weaken : ∀ e, K e → L e) : s.Later L s' := by
  obtain ⟨n, hn, kind⟩ := h.events
  exact ⟨h.calendar, h.clock, n, hn, fun e he => ⟨weaken e (kind e he).1, (kind e he).2⟩⟩

theorem note {e : Event} (h : K e) (now : s.clock.nanos ≤ e.clock.nanos) :
    s.Later K (s.note e) := by
  refine ⟨rfl, Nat.le_refl _, [e], s.history_note e, ?_⟩
  intro d hd
  rw [List.mem_singleton.1 hd]
  exact ⟨h, now⟩

theorem wait {clock : Duration} (h : s.clock.nanos ≤ clock.nanos) : s.Later K { s with clock } :=
  ⟨rfl, h, [], (List.append_nil _).symm, fun _ he => nomatch he⟩

theorem exchange [Services σ] {entry : Exchange → Event} {c : Call}
    (clock : ∀ x, (entry x).clock = x.start) (h : ∀ x : Exchange, x.call = c → K (entry x)) :
    s.Later K (Act.exchange entry c s).2 := by
  refine ⟨rfl, Nat.le_add_right _ _, [_], Session.history_note _ _, ?_⟩
  intro d hd
  rw [List.mem_singleton.1 hd]
  refine ⟨h _ rfl, Nat.le_of_eq ?_⟩
  rw [clock]

end Session.Later

/-! ### Actions -/

namespace Act

/-- From every session the action leads to a later one, through events of a kind. -/
def Keeps (K : Event → Prop) (a : Act σ α) : Prop := ∀ s : Session σ, s.Later K (a.exec s).2

theorem later_bind {a : Act σ α} {b : α → Act σ β} (first : s.Later K (a.exec s).2)
    (next : ∀ v s', a.exec s = (.ok v, s') → s'.Later K ((b v).exec s').2) :
    s.Later K ((a >>= b).exec s).2 := by
  rw [exec_bind]
  rcases ha : a.exec s with ⟨h | v, s'⟩
  · rw [ha] at first
    exact first
  · rw [ha] at first
    exact first.trans (next v s' ha)

theorem Keeps.bind {a : Act σ α} {b : α → Act σ β} (ha : a.Keeps K) (hb : ∀ v, (b v).Keeps K) :
    (a >>= b).Keeps K := by
  intro s
  exact later_bind (ha s) fun v s' _ => hb v s'

theorem keeps_pure (v : α) : (pure v : Act σ α).Keeps K := fun s => .refl s

theorem keeps_halt (h : Halt) : (halt h : Act σ α).Keeps K := fun s => .refl s

theorem keeps_clock : (clock : Act σ Duration).Keeps K := fun s => .refl s

theorem keeps_today : (today : Act σ Timestamp).Keeps K := fun s => .refl s

theorem keeps_patience : (patience : Act σ Nat).Keeps K := fun s => .refl s

theorem keeps_sleep (d : Duration) : (sleep d : Act σ Unit).Keeps K :=
  fun _ => .wait (Timer.le_fires_now _ d)

end Act

/-! ### Tasks -/

namespace Task

/-- From every session the task leads to a later one, through events of a kind. -/
def Keeps (K : Event → Prop) (t : Task σ α) : Prop := t.attempt.Keeps K

theorem Keeps.bind {t : Task σ α} {u : α → Task σ β} (ht : t.Keeps K) (hu : ∀ v, (u v).Keeps K) :
    (t >>= u).Keeps K := by
  intro s
  have first : s.Later K (t.exec s).2 := ht s
  show s.Later K ((t >>= u).exec s).2
  rw [exec_bind]
  rcases hr : t.exec s with ⟨h | f | v, s'⟩ <;> rw [hr] at first
  · exact first
  · exact first
  · exact first.trans (hu v s')

theorem keeps_pure (v : α) : (pure v : Task σ α).Keeps K := fun s => .refl s

theorem keeps_throw (f : Fault) : (throw f : Task σ α).Keeps K := fun s => .refl s

theorem keeps_lift {a : Act σ α} (h : a.Keeps K) : (lift a).Keeps K := by
  intro s
  exact Act.later_bind (h s) fun _ s' _ => .refl s'

theorem keeps_ofConfig (x : Except ConfigCause α) : (ofConfig x : Task σ α).Keeps K := by
  cases x with
  | ok v => exact keeps_pure v
  | error c => exact keeps_throw _

theorem keeps_call [Services σ] {c : Call} (h : ∀ x : Exchange, x.call = c → K (.exchanged x)) :
    (call c : Task σ c.Answer).Keeps K :=
  fun _ => .exchange (fun _ => rfl) h

theorem keeps_probe [Services σ] {c : Call} (h : ∀ x : Exchange, x.call = c → K (.probed x)) :
    (probe c : Task σ c.Answer).Keeps K :=
  fun _ => .exchange (fun _ => rfl) h

theorem exec_call_ok [Services σ] {c : Call} {later : Session σ} {v : c.Answer}
    (h : (call c).exec s = (.ok (.ok v), later)) :
    later.history = s.history ++ [.exchanged ⟨c, s.clock, later.clock, .ok v⟩] := by
  rw [exec_call] at h
  obtain ⟨answer, rfl⟩ := Prod.mk.inj h
  rw [← Except.ok.inj answer]
  exact Session.history_note _ _

theorem exec_lift_ok {a : Act σ α} {later : Session σ} {v : α}
    (h : (lift a).exec s = (.ok (.ok v), later)) : a.exec s = (.ok v, later) := by
  rw [exec_lift] at h
  rcases ha : a.exec s with ⟨halt | w, middle⟩ <;> rw [ha] at h <;> cases h
  rfl

theorem exec_of_toOption {t : Task σ α} {v : α}
    (h : (t.exec s).1.toOption.bind Except.toOption = some v) :
    ∃ later, t.exec s = (.ok (.ok v), later) := by
  rcases ended : t.exec s with ⟨_ | _ | w, later⟩ <;> rw [ended] at h
  · cases h
  · cases h
  · cases h
    exact ⟨later, rfl⟩

end Task

/-! ### Polls -/

section Polls

variable {what : String} {l : PollLimits} {start : Duration} {check : Task σ (Option α)}

theorem pollFrom_keeps (hc : check.Keeps K) (n : Nat) :
    (pollFrom what l start check n).Keeps K := by
  induction n with
  | zero => exact Task.keeps_lift (Act.keeps_halt _)
  | succ n ih =>
    apply Task.Keeps.bind (Task.keeps_lift hc)
    intro x
    cases Verdict.of x with
    | ready v => exact Task.keeps_pure v
    | failed f => exact Task.keeps_throw f
    | notYet =>
      apply Task.Keeps.bind (Task.keeps_lift Act.keeps_clock)
      intro now
      dsimp only
      split
      · exact Task.keeps_throw _
      · apply Task.Keeps.bind (Task.keeps_lift (Act.keeps_sleep _))
        intro _
        exact ih

/-- The check that yields the value is the last thing that a poll does. -/
theorem pollFrom_exec_ok {n : Nat} {later : Session σ} {v : α}
    (h : (pollFrom what l start check n).exec s = (.ok (.ok v), later)) :
    ∃ middle, check.exec middle = (.ok (.ok (some v)), later) := by
  induction n generalizing s with
  | zero => cases h
  | succ n ih =>
    obtain ⟨x, middle, checked, rest⟩ := Task.exec_bind_ok h
    have checked : check.exec s = (.ok x, middle) := Task.exec_lift_ok checked
    cases hx : Verdict.of x with
    | ready w =>
      rw [hx] at rest
      cases rest
      rw [Verdict.eq_of_ready hx] at checked
      exact ⟨s, checked⟩
    | failed f =>
      rw [hx] at rest
      cases rest
    | notYet =>
      rw [hx] at rest
      obtain ⟨now, _, -, rest⟩ := Task.exec_bind_ok rest
      dsimp only at rest
      split at rest
      · cases rest
      · obtain ⟨_, s₂, -, rest⟩ := Task.exec_bind_ok rest
        exact ih rest

theorem poll_exec_ok {later : Session σ} {v : α}
    (h : (poll what l check).exec s = (.ok (.ok v), later)) :
    ∃ middle, check.exec middle = (.ok (.ok (some v)), later) := by
  obtain ⟨start, s₁, -, rest⟩ := Task.exec_bind_ok h
  obtain ⟨patience, s₂, -, rest⟩ := Task.exec_bind_ok rest
  exact pollFrom_exec_ok rest

theorem poll_keeps (hc : check.Keeps K) : (poll what l check).Keeps K := by
  apply Task.Keeps.bind (Task.keeps_lift Act.keeps_clock)
  intro start
  apply Task.Keeps.bind (Task.keeps_lift Act.keeps_patience)
  intro patience
  exact pollFrom_keeps hc _

end Polls

end ProvingGround
