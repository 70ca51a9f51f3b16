import ProvingGround.Proofs.Trace.Time

/-!
# Operations and steps as time passes

An operation leads to a later session, through events of a kind, and its record goes on. Of a step
whose events depend on what happened before, it is said where one execution of it leads.
-/

namespace ProvingGround

variable {σ α β : Type} {K L : Event → Prop} {s : Session σ}

/-! ### Operations -/

/-- The record has gone on: for the same network, and not back to the beginning. -/
structure Lifecycle.Onward (l l' : Lifecycle) : Prop where
  blueprint : l'.blueprint = l.blueprint
  started : l.phase ≠ .notStarted → l'.phase ≠ .notStarted

namespace Lifecycle.Onward

variable {l l' l'' : Lifecycle}

theorem refl (l : Lifecycle) : l.Onward l := ⟨rfl, id⟩

theorem trans (h : l.Onward l') (h' : l'.Onward l'') : l.Onward l'' :=
  ⟨h'.blueprint.trans h.blueprint, h'.started ∘ h.started⟩

end Lifecycle.Onward

theorem Transition.target_ne_notStarted {e : Transition} (h : e ∈ table) :
    e.target ≠ .notStarted := by
  revert e
  decide

namespace Operation

/-- The operation leads to a later session through events of a kind, and the record goes on. -/
def Keeps (K : Event → Prop) (o : Operation σ α) : Prop :=
  ∀ (l : Lifecycle) (s : Session σ), s.Later K (o.exec l s).2 ∧
    ∀ v l', (o.exec l s).1 = .ok (v, l') → l.Onward l'

theorem Keeps.mono {o : Operation σ α} (h : o.Keeps K) (weaken : ∀ e, K e → L e) : o.Keeps L :=
  fun l s => ⟨(h l s).1.mono weaken, (h l s).2⟩

theorem Keeps.bind {o : Operation σ α} {u : α → Operation σ β} (ho : o.Keeps K)
    (hu : ∀ v, (u v).Keeps K) : (o >>= u).Keeps K := by
  intro l s
  obtain ⟨first, onward⟩ := ho l s
  rw [exec_bind]
  rcases ha : o.exec l s with ⟨h | ⟨v, l₁⟩, s₁⟩ <;> rw [ha] at first onward
  · refine ⟨first, fun v l' hv => ?_⟩
    cases hv
  · obtain ⟨rest, onward'⟩ := hu v l₁ s₁
    exact ⟨first.trans rest, fun w l' hw => (onward v l₁ rfl).trans (onward' w l' hw)⟩

theorem keeps_pure (v : α) : (pure v : Operation σ α).Keeps K := by
  intro l s
  refine ⟨.refl s, fun w l' hw => ?_⟩
  cases hw
  exact .refl l

theorem keeps_get : (get : Operation σ Lifecycle).Keeps K := by
  intro l s
  refine ⟨.refl s, fun w l' hw => ?_⟩
  cases hw
  exact .refl l

theorem keeps_modify {f : Lifecycle → Lifecycle} (h : ∀ l : Lifecycle, l.Onward (f l)) :
    (modify f : Operation σ PUnit).Keeps K := by
  intro l s
  refine ⟨.refl s, fun w l' hw => ?_⟩
  cases hw
  exact h l

/-- What is set in the record is taken from it. -/
theorem keeps_set_bind {f : Lifecycle → Lifecycle} {k : Lifecycle → Operation σ α}
    (hf : ∀ l : Lifecycle, l.Onward (f l)) (hk : ∀ l, (k l).Keeps K) :
    (do
      let l ← get
      set (f l)
      k l : Operation σ α).Keeps K := by
  intro l s
  obtain ⟨later, onward⟩ := hk l (f l) s
  exact ⟨later, fun v l' hv => (hf l).trans (onward v l' hv)⟩

theorem keeps_act {a : Act σ α} (h : a.Keeps K) : (act a).Keeps K := by
  intro l s
  have first := h s
  rw [exec_act]
  rcases ha : a.exec s with ⟨halt | v, s'⟩ <;> rw [ha] at first
  · refine ⟨first, fun w l' hw => ?_⟩
    cases hw
  · refine ⟨first, fun w l' hw => ?_⟩
    cases hw
    exact .refl l

theorem keeps_fire {tr : Trigger}
    (h : ∀ e ∈ Transition.table, e.trigger = tr → ∀ c, K (.entered e.target c)) :
    (fire tr : Operation σ _).Keeps K := by
  intro l s
  cases edge : Transition.find? l.phase tr with
  | none =>
    rw [exec_fire_none edge]
    refine ⟨.refl s, fun w l' hw => ?_⟩
    cases hw
    exact .refl l
  | some e =>
    obtain ⟨mem, -, trigger⟩ := Transition.find?_eq_some edge
    rw [exec_fire_some edge]
    refine ⟨.note (h e mem trigger _) (Nat.le_refl _), fun w l' hw => ?_⟩
    cases hw
    exact ⟨rfl, fun _ => Transition.target_ne_notStarted mem⟩

end Operation

/-! ### Steps -/

namespace Step

/-- The step leads to a later session through events of a kind, and the record goes on. -/
def Keeps (K : Event → Prop) (t : Step σ α) : Prop := Operation.Keeps K (ExceptT.run t)

theorem Keeps.bind {t : Step σ α} {u : α → Step σ β} (ht : t.Keeps K) (hu : ∀ v, (u v).Keeps K) :
    (t >>= u).Keeps K := by
  unfold Keeps
  rw [ExceptT.run_bind]
  apply Operation.Keeps.bind ht
  intro r
  cases r with
  | error f => exact Operation.keeps_pure _
  | ok v => exact hu v

theorem keeps_pure (v : α) : (pure v : Step σ α).Keeps K := Operation.keeps_pure _

theorem keeps_fail (p : Phase) (f : Fault) : (fail p f : Step σ α).Keeps K :=
  Operation.keeps_pure _

theorem keeps_lift {o : Operation σ α} (h : o.Keeps K) : (lift o).Keeps K := by
  unfold Keeps
  rw [show ExceptT.run (lift o) = Except.ok <$> o from ExceptT.run_lift o, map_eq_pure_bind]
  exact Operation.Keeps.bind h fun _ => Operation.keeps_pure _

theorem keeps_record : (record : Step σ Lifecycle).Keeps K := keeps_lift Operation.keeps_get

theorem keeps_update {f : Lifecycle → Lifecycle} (h : ∀ l : Lifecycle, l.Onward (f l)) :
    (update f : Step σ Unit).Keeps K :=
  keeps_lift (Operation.keeps_modify h)

theorem keeps_task {p : Phase} {a : Task σ α} (h : a.Keeps K) : (task p a).Keeps K := by
  apply Keeps.bind (keeps_lift (Operation.keeps_act h))
  intro r
  cases r with
  | error f => exact keeps_fail p f
  | ok v => exact keeps_pure v

theorem keeps_advance {p : Phase} {tr : Trigger}
    (h : ∀ e ∈ Transition.table, e.trigger = tr → ∀ c, K (.entered e.target c)) :
    (advance p tr : Step σ Unit).Keeps K := by
  apply Keeps.bind (keeps_lift (Operation.keeps_fire h))
  intro r
  cases r with
  | error f => exact keeps_fail p f
  | ok v => exact keeps_pure v

/-! ### One execution of a step -/

variable {l l' : Lifecycle} {P P' : α → Lifecycle → Session σ → Prop} {Q Q' : Session σ → Prop}

/-- The step gives a value as `P` says, or none and then the session is as `Q` says. -/
def Leads (t : Step σ α) (l : Lifecycle) (s : Session σ) (P : α → Lifecycle → Session σ → Prop)
    (Q : Session σ → Prop) : Prop :=
  match t.exec l s with
  | (.ok (.ok v, l'), later) => P v l' later
  | (_, later) => Q later

theorem Leads.result {t : Step σ α} {v : α} {later : Session σ} (h : t.Leads l s P Q)
    (ended : t.exec l s = (.ok (.ok v, l'), later)) : P v l' later := by
  unfold Leads at h
  rw [ended] at h
  exact h

theorem Leads.mono {t : Step σ α} (h : t.Leads l s P Q)
    (weaken : ∀ v l' later, P v l' later → P' v l' later)
    (weaken' : ∀ later, Q later → Q' later) : t.Leads l s P' Q' := by
  unfold Leads at h ⊢
  rcases ht : t.exec l s with ⟨halt | ⟨f | v, l'⟩, later⟩ <;> rw [ht] at h
  · exact weaken' later h
  · exact weaken' later h
  · exact weaken v l' later h

theorem Leads.bind {t : Step σ α} {u : α → Step σ β} {T : β → Lifecycle → Session σ → Prop}
    (ht : t.Leads l s P Q) (stopped : ∀ later, Q later → Q' later)
    (hu : ∀ v l' later, P v l' later → (u v).Leads l' later T Q') : (t >>= u).Leads l s T Q' := by
  unfold Leads at ht ⊢
  rw [exec_bind]
  rcases he : t.exec l s with ⟨halt | ⟨f | v, l'⟩, later⟩ <;> rw [he] at ht
  · exact stopped later ht
  · exact stopped later ht
  · exact hu v l' later ht

theorem leads_pure {v : α} (h : P v l s) : (pure v : Step σ α).Leads l s P Q := h

theorem leads_record_bind {u : Lifecycle → Step σ β} {T : β → Lifecycle → Session σ → Prop}
    (h : (u l).Leads l s T Q) : (record >>= u).Leads l s T Q := by
  have record : (record : Step σ Lifecycle).Leads l s (fun v l' later => v = l ∧ l' = l ∧ later = s)
      Q := ⟨rfl, rfl, rfl⟩
  apply record.bind fun _ h => h
  rintro v l' later ⟨rfl, rfl, rfl⟩
  exact h

theorem Keeps.leads {t : Step σ α} (h : t.Keeps K) :
    t.Leads l s (fun _ l' later => s.Later K later ∧ l.Onward l') (s.Later K) := by
  obtain ⟨later, onward⟩ := h l s
  have run : (ExceptT.run t).exec l s = t.exec l s := rfl
  rw [run] at later onward
  unfold Leads
  rcases ht : t.exec l s with ⟨halt | ⟨f | v, l'⟩, s'⟩ <;> rw [ht] at later onward
  · exact later
  · exact later
  · exact ⟨later, onward _ _ rfl⟩

theorem leads_task {p : Phase} {a : Task σ α} (h : a.Keeps K) :
    (task p a).Leads l s
      (fun v l' later => (s.Later K later ∧ l' = l) ∧ a.exec s = (.ok (.ok v), later))
      (s.Later K) := by
  have later : s.Later K (a.exec s).2 := h s
  have attempt : a.attempt.exec s = a.exec s := rfl
  unfold Leads task
  rw [exec_bind, exec_lift, Operation.exec_act, attempt]
  rcases ha : a.exec s with ⟨halt | f | v, s'⟩ <;> rw [ha] at later
  · exact later
  · exact later
  · exact ⟨⟨later, rfl⟩, rfl⟩

theorem leads_advance {p q : Phase} {tr : Trigger}
    (target : ∀ e ∈ Transition.table, e.trigger = tr → e.target = q) (h : Q s) :
    (advance p tr : Step σ Unit).Leads l s
      (fun _ l' later => l' = l.enter q ∧ later = s.note (.entered q s.clock)) Q := by
  unfold Leads
  cases edge : Transition.find? l.phase tr with
  | none =>
    rw [exec_advance_none edge]
    exact h
  | some e =>
    obtain ⟨mem, -, trigger⟩ := Transition.find?_eq_some edge
    rw [exec_advance_some edge, target e mem trigger]
    exact ⟨rfl, rfl⟩

end Step

end ProvingGround
