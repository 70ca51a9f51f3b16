import ProvingGround.Lifecycle.Basic
import ProvingGround.Proofs.Trace.Law

/-!
# Laws of operations and steps

An operation also changes the record of the run, and a step may fail in a phase. A rule for each way
of putting them together says how far they obey a law.
-/

namespace ProvingGround

variable {σ α β : Type} {law : List Deed → Deed → Prop} {t : List Deed} {l : Lifecycle}

/-! ### Operations -/

namespace Operation

/-- After the deeds `t`, on the run `l`, the operation adds lawful deeds, and a result of it is as
`P` says. -/
def Obeys (law : List Deed → Deed → Prop) (t : List Deed) (l : Lifecycle) (o : Operation σ α)
    (P : α → Lifecycle → List Deed → Prop) : Prop :=
  Act.Obeys law t (StateT.run o l) fun r later => P r.1 r.2 later

variable {o : Operation σ α} {P Q : α → Lifecycle → List Deed → Prop}

theorem Obeys.mono (h : o.Obeys law t l P) (weaken : ∀ v l' n, P v l' (t ++ n) → Q v l' (t ++ n)) :
    o.Obeys law t l Q :=
  Act.Obeys.mono h fun r n => weaken r.1 r.2 n

theorem Obeys.result {s later : Session σ} {v : α} {l' : Lifecycle} (h : o.Obeys law s.deeds l P)
    (he : o.exec l s = (.ok (v, l'), later)) :
    ∃ n, later.deeds = s.deeds ++ n ∧ Lawful law s.deeds n ∧ P v l' later.deeds := by
  obtain ⟨n, hn, lawful, hP⟩ := h s
  have deeds : (o.exec l s).2.deeds = later.deeds := by rw [he]
  have result : (o.exec l s).1 = .ok (v, l') := by rw [he]
  have trace : later.deeds = s.deeds ++ n := deeds.symm.trans hn
  refine ⟨n, trace, lawful, ?_⟩
  rw [trace]
  exact hP (v, l') result

theorem obeys_pure {v : α} (h : P v l t) : (pure v : Operation σ α).Obeys law t l P :=
  Act.obeys_pure h

theorem obeys_set {P : PUnit → Lifecycle → List Deed → Prop} {l' : Lifecycle} (h : P () l' t) :
    (set l' : Operation σ PUnit).Obeys law t l P :=
  Act.obeys_pure h

theorem Obeys.bind {u : α → Operation σ β} {T : β → Lifecycle → List Deed → Prop}
    (ho : o.Obeys law t l P)
    (next : ∀ v l' n, P v l' (t ++ n) → (u v).Obeys law (t ++ n) l' T) :
    (o >>= u).Obeys law t l T := by
  unfold Obeys
  rw [StateT.run_bind]
  apply Act.Obeys.bind ho
  intro r n hP
  exact next r.1 r.2 n hP

theorem obeys_answer {f : α → β} {T : β → Lifecycle → List Deed → Prop} (ho : o.Obeys law t l P)
    (h : ∀ v l' n, P v l' (t ++ n) → T (f v) l' (t ++ n)) :
    (do return f (← o) : Operation σ β).Obeys law t l T := by
  apply ho.bind
  intro v l' n hP
  exact obeys_pure (h v l' n hP)

theorem obeys_get_bind {u : Lifecycle → Operation σ β} {T : β → Lifecycle → List Deed → Prop}
    (next : (u l).Obeys law t l T) : (get >>= u : Operation σ β).Obeys law t l T := by
  unfold Obeys
  rw [StateT.run_bind]
  exact next

theorem obeys_act {a : Act σ α} {P : α → List Deed → Prop} (h : a.Obeys law t P) :
    (act a).Obeys law t l fun v l' later => l' = l ∧ P v later := by
  apply Act.Obeys.bind h
  intro v n hP
  apply Act.obeys_pure
  exact ⟨rfl, hP⟩

theorem obeys_fire {tr : Trigger} {P : Except Fault Unit → Lifecycle → List Deed → Prop}
    (edge : ∀ e, Transition.find? l.phase tr = some e → law t (.entered e.target) ∧
      P (.ok ()) (l.enter e.target) (t ++ [.entered e.target]))
    (none : Transition.find? l.phase tr = none → P (.error (.invalidTransition l.phase tr)) l t) :
    (fire tr : Operation σ _).Obeys law t l P := by
  apply obeys_get_bind
  split
  next e he =>
    obtain ⟨lawful, h⟩ := edge e he
    have hset : (set (l.enter e.target) : Operation σ PUnit).Obeys law t l
        fun _ l' later => l' = l.enter e.target ∧ later = t := obeys_set ⟨rfl, rfl⟩
    apply hset.bind
    intro _ _ n given
    obtain ⟨rfl, hn⟩ := given
    rw [hn]
    have hnote : (do Act.note (.entered e.target (← Act.clock)) : Act σ Unit).Obeys law t
        fun _ later => later = t ++ [.entered e.target] := by
      apply Act.Obeys.after_silent (Act.traces_clock fun _ => rfl)
      intro clock
      exact Act.obeys_note lawful rfl
    apply (obeys_act hnote).bind
    intro _ _ m given
    obtain ⟨rfl, hm⟩ := given
    rw [hm]
    exact obeys_pure h
  next hn => exact obeys_pure (none hn)

theorem obeys_fire_edge {tr : Trigger} {e : Transition}
    (edge : Transition.find? l.phase tr = some e) (lawful : law t (.entered e.target)) :
    (fire tr : Operation σ _).Obeys law t l fun x l' later =>
      x = .ok () ∧ l' = l.enter e.target ∧ later = t ++ [.entered e.target] := by
  apply obeys_fire
  · intro e' he
    rw [edge] at he
    cases he
    exact ⟨lawful, rfl, rfl, rfl⟩
  · intro none
    rw [edge] at none
    cases none

end Operation

/-! ### Steps -/

namespace Step

/-- A result of a step is as `P` says, a failure of it as `F` says. -/
def Ends (P : α → Lifecycle → List Deed → Prop) (F : PhaseFailure → Lifecycle → List Deed → Prop) :
    Except PhaseFailure α → Lifecycle → List Deed → Prop
  | .ok v => P v
  | .error f => F f

/-- After the deeds `t`, on the run `l`, the step adds lawful deeds, a result of it is as `P` says
and a failure of it as `F` says. -/
def Obeys (law : List Deed → Deed → Prop) (t : List Deed) (l : Lifecycle) (s : Step σ α)
    (P : α → Lifecycle → List Deed → Prop) (F : PhaseFailure → Lifecycle → List Deed → Prop) :
    Prop :=
  Operation.Obeys law t l (ExceptT.run s) (Ends P F)

variable {s : Step σ α} {P P' : α → Lifecycle → List Deed → Prop}
  {F F' : PhaseFailure → Lifecycle → List Deed → Prop}

theorem Obeys.mono (h : s.Obeys law t l P F) (weaken : ∀ v l' n, P v l' (t ++ n) → P' v l' (t ++ n))
    (failing : ∀ f l' n, F f l' (t ++ n) → F' f l' (t ++ n)) : s.Obeys law t l P' F' := by
  apply Operation.Obeys.mono h
  intro r l' n hr
  cases r with
  | error f => exact failing f l' n hr
  | ok v => exact weaken v l' n hr

theorem Obeys.imp (h : s.Obeys law t l P F) (weaken : ∀ v l' n, P v l' (t ++ n) → P' v l' (t ++ n)) :
    s.Obeys law t l P' F :=
  h.mono weaken fun _ _ _ hF => hF

theorem Obeys.weaken {law' : List Deed → Deed → Prop} (h : s.Obeys law t l P F)
    (hl : ∀ t d, law t d → law' t d) : s.Obeys law' t l P F :=
  Act.Obeys.weaken h hl

theorem Obeys.and {law' : List Deed → Deed → Prop} (h : s.Obeys law t l P F)
    (h' : s.Obeys law' t l P' F') :
    s.Obeys law t l (fun v l' later => P v l' later ∧ P' v l' later)
      fun f l' later => F f l' later ∧ F' f l' later := by
  apply (Act.Obeys.and h h').mono
  intro r n given
  obtain ⟨x, l'⟩ := r
  cases x with
  | error f => exact given
  | ok v => exact given

theorem obeys_pure {v : α} (h : P v l t) : (pure v : Step σ α).Obeys law t l P F :=
  Operation.obeys_pure (P := Ends P F) h

theorem obeys_throw {f : PhaseFailure} (h : F f l t) : (throw f : Step σ α).Obeys law t l P F :=
  Operation.obeys_pure (P := Ends P F) h

theorem obeys_of_refused (h : ∀ s', ∃ f, s.exec l s' = (.ok (.error f, l), s'))
    (failed : ∀ f, F f l t) : s.Obeys law t l P F := by
  intro s'
  obtain ⟨f, hf⟩ := h s'
  refine ⟨[], ?_, trivial, fun r hr => ?_⟩
  · have later : (s.exec l s').2.deeds = s'.deeds := by rw [hf]
    rw [List.append_nil]
    exact later
  · have result : (s.exec l s').1 = .ok (.error f, l) := by rw [hf]
    cases hr.symm.trans result
    rw [List.append_nil]
    exact failed f

theorem Obeys.bind {u : α → Step σ β} {T : β → Lifecycle → List Deed → Prop}
    (hs : s.Obeys law t l P F)
    (next : ∀ v l' n, P v l' (t ++ n) → (u v).Obeys law (t ++ n) l' T F')
    (failed : ∀ f l' n, F f l' (t ++ n) → F' f l' (t ++ n)) : (s >>= u).Obeys law t l T F' := by
  unfold Obeys
  rw [ExceptT.run_bind]
  apply Operation.Obeys.bind hs
  intro r l' n hr
  cases r with
  | error f => exact Operation.obeys_pure (P := Ends T F') (failed f l' n hr)
  | ok v => exact next v l' n hr

/-- Both steps fail in the same way. -/
theorem Obeys.seq {u : α → Step σ β} {T : β → Lifecycle → List Deed → Prop}
    (hs : s.Obeys law t l P F)
    (next : ∀ v l' n, P v l' (t ++ n) → (u v).Obeys law (t ++ n) l' T F) :
    (s >>= u).Obeys law t l T F :=
  hs.bind next fun _ _ _ hF => hF

theorem obeys_lift {o : Operation σ α} (h : o.Obeys law t l P) : (lift o).Obeys law t l P F := by
  unfold Obeys
  rw [show ExceptT.run (lift o) = Except.ok <$> o from ExceptT.run_lift o, map_eq_pure_bind]
  apply Operation.Obeys.bind h
  intro v l' n hP
  exact Operation.obeys_pure (P := Ends P F) hP

theorem obeys_record_bind {u : Lifecycle → Step σ β} {T : β → Lifecycle → List Deed → Prop}
    (next : (u l).Obeys law t l T F) : (record >>= u).Obeys law t l T F := by
  have h : (record : Step σ Lifecycle).Obeys law t l
      (fun v l' later => v = l ∧ l' = l ∧ later = t) F :=
    obeys_lift (Operation.obeys_pure (P := fun v l' later => v = l ∧ l' = l ∧ later = t)
      ⟨rfl, rfl, rfl⟩)
  apply h.seq
  intro v l' n given
  obtain ⟨rfl, rfl, hn⟩ := given
  rw [hn]
  exact next

theorem obeys_update {f : Lifecycle → Lifecycle} {P : Unit → Lifecycle → List Deed → Prop}
    (h : P () (f l) t) : (update f : Step σ Unit).Obeys law t l P F := by
  apply obeys_lift
  exact Act.obeys_pure h

theorem obeys_task {p : Phase} {a : Task σ α} {R : Except Fault α → List Deed → Prop}
    (h : a.attempt.Obeys law t R) (ok : ∀ v n, R (.ok v) (t ++ n) → P v l (t ++ n))
    (wrong : ∀ f n, R (.error f) (t ++ n) → F ⟨p, f⟩ l (t ++ n)) :
    (task p a).Obeys law t l P F := by
  have ha : (lift (Operation.act a.attempt)).Obeys law t l
      (fun r l' later => l' = l ∧ R r later) F := obeys_lift (Operation.obeys_act h)
  apply ha.seq
  intro r l' n given
  obtain ⟨rfl, hR⟩ := given
  cases r with
  | error f => exact obeys_throw (wrong f n hR)
  | ok v => exact obeys_pure (ok v n hR)

theorem obeys_advance {p : Phase} {tr : Trigger} {e : Transition}
    (edge : Transition.find? l.phase tr = some e) (lawful : law t (.entered e.target)) :
    (advance p tr : Step σ Unit).Obeys law t l
      (fun _ l' later => l' = l.enter e.target ∧ later = t ++ [.entered e.target]) F := by
  have hf : (lift (Operation.fire tr) : Step σ _).Obeys law t l
      (fun x l' later => x = .ok () ∧ l' = l.enter e.target ∧ later = t ++ [.entered e.target])
      F := obeys_lift (Operation.obeys_fire_edge edge lawful)
  apply hf.seq
  intro x l' n hx
  obtain ⟨rfl, entered⟩ := hx
  exact obeys_pure entered

end Step

end ProvingGround
