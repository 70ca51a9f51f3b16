import ProvingGround.Lifecycle.Run

/-!
# Traces

A trace is what happened in a session, the time aside: calls with their answers, phases that were
entered, scenarios that began. What an action can do is said by a relation between its ending and
the deeds that it adds to the trace. The relation speaks of no world, so that a law proved of it
holds whatever the services answer.
-/

namespace ProvingGround

variable {σ α β : Type}

/-! ### Deeds -/

inductive Deed where
  /-- A call of the run. -/
  | asked (c : Call) (r : Except Fault c.Answer)
  /-- A call that a scenario made on its own. -/
  | probed (c : Call) (r : Except Fault c.Answer)
  | entered (p : Phase)
  | began (scenario : String) (environment : Environment)

def Event.deed : Event → Deed
  | exchanged e => .asked e.call e.result
  | probed e => .probed e.call e.result
  | entered p _ => .entered p
  | began scenario environment _ => .began scenario environment

namespace Session

def deeds (s : Session σ) : List Deed := s.history.map Event.deed

theorem deeds_note (s : Session σ) (e : Event) : (s.note e).deeds = s.deeds ++ [e.deed] := by
  simp only [deeds, history_note, List.map_append, List.map_cons, List.map_nil]

end Session

/-! ### Actions -/

namespace Act

/-- From every session the action adds deeds that the relation allows for its ending. -/
def Traces (a : Act σ α) (R : Except Halt α → List Deed → Prop) : Prop :=
  ∀ s : Session σ, ∃ n, (a.exec s).2.deeds = s.deeds ++ n ∧ R (a.exec s).1 n

variable {a : Act σ α} {R S : Except Halt α → List Deed → Prop}

theorem Traces.mono (h : a.Traces R) (weaker : ∀ r n, R r n → S r n) : a.Traces S := by
  intro s
  obtain ⟨n, hn, hR⟩ := h s
  exact ⟨n, hn, weaker _ n hR⟩

theorem traces_pure {v : α} (h : R (.ok v) []) : (pure v : Act σ α).Traces R := by
  intro s
  exact ⟨[], (List.append_nil _).symm, h⟩

theorem traces_halt {h : Halt} (hR : R (.error h) []) : (halt h : Act σ α).Traces R := by
  intro s
  exact ⟨[], (List.append_nil _).symm, hR⟩

theorem traces_clock {R : Except Halt Duration → List Deed → Prop} (h : ∀ d, R (.ok d) []) :
    (clock : Act σ Duration).Traces R := by
  intro s
  exact ⟨[], (List.append_nil _).symm, h s.clock⟩

theorem traces_today {R : Except Halt Timestamp → List Deed → Prop} (h : ∀ t, R (.ok t) []) :
    (today : Act σ Timestamp).Traces R := by
  intro s
  exact ⟨[], (List.append_nil _).symm, h s.today⟩

theorem traces_patience {R : Except Halt Nat → List Deed → Prop} (h : ∀ n, R (.ok n) []) :
    (patience : Act σ Nat).Traces R := by
  intro s
  exact ⟨[], (List.append_nil _).symm, h s.patience⟩

theorem traces_sleep {R : Except Halt Unit → List Deed → Prop} {d : Duration} (h : R (.ok ()) []) :
    (sleep d : Act σ Unit).Traces R := by
  intro s
  exact ⟨[], (List.append_nil _).symm, h⟩

theorem traces_note {R : Except Halt Unit → List Deed → Prop} {e : Event}
    (h : R (.ok ()) [e.deed]) : (note e : Act σ Unit).Traces R := by
  intro s
  exact ⟨[e.deed], s.deeds_note e, h⟩

theorem Traces.bind {b : α → Act σ β} {T : Except Halt β → List Deed → Prop} (ha : a.Traces R)
    (next : ∀ v m, R (.ok v) m → (b v).Traces fun r n => T r (m ++ n))
    (halted : ∀ h m, R (.error h) m → T (.error h) m) : (a >>= b).Traces T := by
  intro s
  obtain ⟨m, hm, hR⟩ := ha s
  rw [exec_bind]
  rcases he : a.exec s with ⟨_ | v, later⟩
  · rw [he] at hm hR
    exact ⟨m, hm, halted _ m hR⟩
  · rw [he] at hm hR
    obtain ⟨n, hn, hT⟩ := next v m hR later
    refine ⟨m ++ n, ?_, hT⟩
    rw [hn, hm, List.append_assoc]

end Act

/-! ### Tasks -/

namespace Task

/-- The endings of a task: a result, a fault, or none at all. -/
abbrev Ending (α : Type) := Except Halt (Except Fault α)

/-- An ending without a result, be it of another kind. -/
inductive Stops : Ending α → Ending β → Prop where
  | fault (f : Fault) : Stops (.ok (.error f)) (.ok (.error f))
  | halt (h : Halt) : Stops (.error h) (.error h)

/-- From every session the task adds deeds that the relation allows for its ending. -/
def Traces (t : Task σ α) (R : Ending α → List Deed → Prop) : Prop := t.attempt.Traces R

variable {t : Task σ α} {R S : Ending α → List Deed → Prop}

theorem Traces.mono (h : t.Traces R) (weaker : ∀ r n, R r n → S r n) : t.Traces S :=
  Act.Traces.mono h weaker

theorem traces_pure {v : α} (h : R (.ok (.ok v)) []) : (pure v : Task σ α).Traces R := by
  intro s
  exact ⟨[], (List.append_nil _).symm, h⟩

theorem traces_throw {f : Fault} (h : R (.ok (.error f)) []) : (throw f : Task σ α).Traces R := by
  intro s
  exact ⟨[], (List.append_nil _).symm, h⟩

theorem traces_ofConfig {x : Except ConfigCause α} (ok : ∀ v, x = .ok v → R (.ok (.ok v)) [])
    (wrong : ∀ c, x = .error c → R (.ok (.error (.config c))) []) :
    (ofConfig x : Task σ α).Traces R := by
  cases x with
  | ok v => exact traces_pure (ok v rfl)
  | error c => exact traces_throw (wrong c rfl)

theorem exec_lift (a : Act σ α) (s : Session σ) :
    (lift a).exec s = ((a.exec s).1.map .ok, (a.exec s).2) := by
  have hb := Act.exec_bind a (fun v => pure (.ok v : Except Fault α)) s
  refine Eq.trans ?_ (hb.trans ?_)
  · rfl
  · rcases a.exec s with ⟨_ | v, later⟩ <;> rfl

theorem traces_lift {a : Act σ α} (h : a.Traces fun r n => R (r.map .ok) n) :
    (lift a).Traces R := by
  intro s
  obtain ⟨n, hn, hR⟩ := h s
  refine ⟨n, ?_, ?_⟩
  · exact (congrArg (fun p => p.2.deeds) (exec_lift a s)).trans hn
  · exact (congrArg Prod.fst (exec_lift a s)) ▸ hR

section Calls

variable [Services σ]

theorem traces_call {c : Call} {R : Ending c.Answer → List Deed → Prop}
    (h : ∀ x, R (.ok x) [.asked c x]) : (call c : Task σ c.Answer).Traces R := by
  intro s
  exact ⟨[.asked c (Act.exchange .exchanged c s).1], Session.deeds_note _ _, h _⟩

theorem traces_probe {c : Call} {R : Ending c.Answer → List Deed → Prop}
    (h : ∀ x, R (.ok x) [.probed c x]) : (probe c : Task σ c.Answer).Traces R := by
  intro s
  exact ⟨[.probed c (Act.exchange .probed c s).1], Session.deeds_note _ _, h _⟩

end Calls

theorem Traces.bind {u : α → Task σ β} {T : Ending β → List Deed → Prop} (ht : t.Traces R)
    (next : ∀ v m, R (.ok (.ok v)) m → (u v).Traces fun r n => T r (m ++ n))
    (stopped : ∀ r x m, R r m → Stops r x → T x m) : (t >>= u).Traces T := by
  intro s
  obtain ⟨m, hm, hR⟩ := ht s
  have he : (t >>= u).attempt.exec s = (t >>= u).exec s := rfl
  rw [he, exec_bind]
  have hx : t.attempt.exec s = t.exec s := rfl
  rw [hx] at hm hR
  rcases hr : t.exec s with ⟨_ | _ | v, later⟩ <;> rw [hr] at hm hR
  · exact ⟨m, hm, stopped _ _ m hR (.halt _)⟩
  · exact ⟨m, hm, stopped _ _ m hR (.fault _)⟩
  · obtain ⟨n, hn, hT⟩ := next v m hR later
    refine ⟨m ++ n, ?_, hT⟩
    exact hn.trans (by rw [hm, List.append_assoc])

theorem Traces.skip {u : α → Task σ β} {T : Ending β → List Deed → Prop}
    (ht : t.Traces fun r n => (∃ v, r = .ok (.ok v)) ∧ n = []) (next : ∀ v, (u v).Traces T) :
    (t >>= u).Traces T := by
  apply ht.bind
  · intro v m given
    obtain ⟨-, rfl⟩ := given
    exact next v
  · intro r x m given stop
    obtain ⟨⟨v, rfl⟩, -⟩ := given
    cases stop

theorem traces_clock :
    (clock : Task σ Duration).Traces fun r n => (∃ d, r = .ok (.ok d)) ∧ n = [] :=
  traces_lift (Act.traces_clock fun d => ⟨⟨d, rfl⟩, rfl⟩)

theorem traces_patience :
    (patience : Task σ Nat).Traces fun r n => (∃ k, r = .ok (.ok k)) ∧ n = [] :=
  traces_lift (Act.traces_patience fun k => ⟨⟨k, rfl⟩, rfl⟩)

theorem traces_sleep (d : Duration) :
    (sleep d : Task σ Unit).Traces fun r n => (∃ u, r = .ok (.ok u)) ∧ n = [] :=
  traces_lift (Act.traces_sleep ⟨⟨(), rfl⟩, rfl⟩)

theorem traces_call_bind [Services σ] {c : Call} {u : c.Answer → Task σ β}
    {T : Ending β → List Deed → Prop}
    (next : ∀ v, (u v).Traces fun r n => T r (.asked c (.ok v) :: n))
    (failed : ∀ f, T (.ok (.error f)) [.asked c (.error f)]) : (call c >>= u).Traces T := by
  have hc : (call c : Task σ c.Answer).Traces fun r n => ∃ x, r = .ok x ∧ n = [.asked c x] :=
    traces_call fun x => ⟨x, rfl, rfl⟩
  apply hc.bind
  · intro v m given
    obtain ⟨x, hx, rfl⟩ := given
    cases hx
    exact next v
  · intro r y m given stop
    obtain ⟨x, rfl, rfl⟩ := given
    cases stop
    exact failed _

end Task

end ProvingGround
