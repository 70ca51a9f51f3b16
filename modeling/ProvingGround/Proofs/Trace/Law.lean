import ProvingGround.Proofs.Trace.Basic

/-!
# Laws of traces

A law says whether a deed may come after what happened before. What obeys a law adds lawful deeds
to any trace that ends as given, also when it halts; what holds of a result is said of the whole
trace up to it.
-/

namespace ProvingGround

variable {σ α β : Type}

/-! ### Lawful deeds -/

/-- The deeds `n` are lawful, each after `t` and the ones before it. -/
def Lawful (law : List Deed → Deed → Prop) : (t n : List Deed) → Prop
  | _, [] => True
  | t, d :: n => law t d ∧ Lawful law (t ++ [d]) n

section Lawful

variable {law weaker : List Deed → Deed → Prop} {t m n : List Deed}

theorem Lawful.append (h : Lawful law t m) (h' : Lawful law (t ++ m) n) :
    Lawful law t (m ++ n) := by
  induction m generalizing t with
  | nil =>
    rw [List.append_nil] at h'
    exact h'
  | cons d m ih =>
    obtain ⟨hd, hm⟩ := h
    refine ⟨hd, ih hm ?_⟩
    rw [List.append_assoc]
    exact h'

theorem Lawful.after (h : Lawful law t (m ++ n)) : Lawful law (t ++ m) n := by
  induction m generalizing t with
  | nil =>
    rw [List.append_nil]
    exact h
  | cons d m ih =>
    have hm := ih h.2
    rw [List.append_assoc] at hm
    exact hm

theorem Lawful.split {pre post : List Deed} {d : Deed} (h : Lawful law t (pre ++ d :: post)) :
    law (t ++ pre) d := by
  induction pre generalizing t with
  | nil =>
    rw [List.append_nil]
    exact h.1
  | cons e pre ih =>
    have he := ih h.2
    rw [List.append_assoc] at he
    exact he

theorem Lawful.mono (h : Lawful law t n) (weaken : ∀ t d, law t d → weaker t d) :
    Lawful weaker t n := by
  induction n generalizing t with
  | nil => trivial
  | cons d n ih => exact ⟨weaken t d h.1, ih h.2⟩

theorem Lawful.mem {d : Deed} (h : Lawful law t n) (hd : d ∈ n) : ∃ pre, law (t ++ pre) d := by
  obtain ⟨pre, post, rfl⟩ := List.append_of_mem hd
  exact ⟨pre, h.split⟩

theorem Lawful.single {d : Deed} (h : law t d) : Lawful law t [d] := ⟨h, trivial⟩

end Lawful

/-! ### Actions -/

section Actions

variable {law : List Deed → Deed → Prop} {t : List Deed}

namespace Act

/-- After the deeds `t` the action adds lawful ones, and a result of it is as `P` says. -/
def Obeys (law : List Deed → Deed → Prop) (t : List Deed) (a : Act σ α)
    (P : α → List Deed → Prop) : Prop :=
  a.Traces fun r n => Lawful law t n ∧ ∀ v, r = .ok v → P v (t ++ n)

variable {a : Act σ α} {P Q : α → List Deed → Prop}

theorem Obeys.mono (h : a.Obeys law t P) (weaken : ∀ v n, P v (t ++ n) → Q v (t ++ n)) :
    a.Obeys law t Q := by
  apply Traces.mono h
  intro r n given
  obtain ⟨lawful, hP⟩ := given
  exact ⟨lawful, fun v hv => weaken v n (hP v hv)⟩

theorem Obeys.weaken {law' : List Deed → Deed → Prop} (h : a.Obeys law t P)
    (hl : ∀ t d, law t d → law' t d) : a.Obeys law' t P := by
  apply Traces.mono h
  intro r n given
  obtain ⟨lawful, hP⟩ := given
  exact ⟨lawful.mono hl, hP⟩

theorem Obeys.and {law' : List Deed → Deed → Prop} (h : a.Obeys law t P)
    (h' : a.Obeys law' t Q) : a.Obeys law t fun v later => P v later ∧ Q v later := by
  intro s
  obtain ⟨n, hn, lawful, hP⟩ := h s
  obtain ⟨m, hm, -, hQ⟩ := h' s
  have same : n = m := List.append_cancel_left (hn.symm.trans hm)
  rw [← same] at hQ
  exact ⟨n, hn, lawful, fun v hv => ⟨hP v hv, hQ v hv⟩⟩

theorem Obeys.lawful (h : a.Obeys law t P) :
    a.Obeys law t fun v later => P v later ∧ ∃ n, later = t ++ n ∧ Lawful law t n := by
  apply Traces.mono h
  intro r n given
  obtain ⟨lawful, hP⟩ := given
  exact ⟨lawful, fun v hv => ⟨hP v hv, n, rfl, lawful⟩⟩

theorem obeys_of_silent (h : a.Traces fun _ n => n = []) :
    a.Obeys law t fun _ later => later = t := by
  apply Traces.mono h
  intro r n same
  subst same
  exact ⟨trivial, fun _ _ => List.append_nil t⟩

theorem obeys_pure {v : α} (h : P v t) : (pure v : Act σ α).Obeys law t P := by
  apply traces_pure
  refine ⟨trivial, fun w hw => ?_⟩
  cases hw
  rw [List.append_nil]
  exact h

theorem obeys_note {P : Unit → List Deed → Prop} {e : Event} (lawful : law t e.deed)
    (h : P () (t ++ [e.deed])) : (note e : Act σ Unit).Obeys law t P :=
  traces_note ⟨.single lawful, fun _ _ => h⟩

theorem Obeys.bind {b : α → Act σ β} {T : β → List Deed → Prop} (ha : a.Obeys law t P)
    (next : ∀ v n, P v (t ++ n) → (b v).Obeys law (t ++ n) T) : (a >>= b).Obeys law t T := by
  apply Traces.bind ha
  · intro v m given
    obtain ⟨hm, hP⟩ := given
    apply Traces.mono (next v m (hP v rfl))
    intro r n given
    obtain ⟨hn, hT⟩ := given
    rw [List.append_assoc] at hT
    exact ⟨hm.append hn, hT⟩
  · intro h m given
    obtain ⟨hm, -⟩ := given
    refine ⟨hm, fun v hv => ?_⟩
    cases hv

theorem Obeys.after_silent {b : α → Act σ β} {T : β → List Deed → Prop}
    (ha : a.Traces fun _ n => n = []) (next : ∀ v, (b v).Obeys law t T) :
    (a >>= b).Obeys law t T := by
  apply (obeys_of_silent ha).bind
  intro v n hn
  rw [hn]
  exact next v

end Act

/-! ### Tasks -/

namespace Task

/-- After the deeds `t` the task adds lawful ones, and a result of it that is no fault is as `P`
says. -/
def Obeys (law : List Deed → Deed → Prop) (t : List Deed) (a : Task σ α)
    (P : α → List Deed → Prop) : Prop :=
  a.attempt.Obeys law t fun r later => ∀ v, r = .ok v → P v later

variable {a : Task σ α} {P Q : α → List Deed → Prop}

theorem obeys_of_traces {R : Ending α → List Deed → Prop} (h : a.Traces R)
    (lawful : ∀ r n, R r n → Lawful law t n)
    (result : ∀ v n, R (.ok (.ok v)) n → P v (t ++ n)) : a.Obeys law t P := by
  apply Traces.mono h
  intro r n hR
  refine ⟨lawful r n hR, fun x hx v hv => ?_⟩
  subst hx hv
  exact result v n hR

theorem Obeys.mono (h : a.Obeys law t P) (weaken : ∀ v n, P v (t ++ n) → Q v (t ++ n)) :
    a.Obeys law t Q :=
  Act.Obeys.mono h fun _ n hP v hv => weaken v n (hP v hv)

theorem obeys_pure {v : α} (h : P v t) : (pure v : Task σ α).Obeys law t P := by
  apply Act.obeys_pure
  intro w hw
  cases hw
  exact h

theorem obeys_throw {f : Fault} : (throw f : Task σ α).Obeys law t P := by
  apply Act.obeys_pure
  intro w hw
  cases hw

theorem obeys_call [Services σ] {c : Call} {P : c.Answer → List Deed → Prop}
    (lawful : ∀ x, law t (.asked c x)) (h : ∀ v, P v (t ++ [.asked c (.ok v)])) :
    (call c : Task σ c.Answer).Obeys law t P := by
  apply traces_call
  intro x
  refine ⟨.single (lawful x), fun y hy v hv => ?_⟩
  cases hy
  cases hv
  exact h v

theorem obeys_lift {a : Act σ α} (h : a.Obeys law t P) : (lift a).Obeys law t P := by
  apply traces_lift
  apply Act.Traces.mono h
  intro r n given
  obtain ⟨lawful, hP⟩ := given
  refine ⟨lawful, fun x hx v hv => ?_⟩
  cases r with
  | error h => cases hx
  | ok w =>
    cases hx
    cases hv
    exact hP v rfl

theorem Obeys.bind {u : α → Task σ β} {T : β → List Deed → Prop} (ha : a.Obeys law t P)
    (next : ∀ v n, P v (t ++ n) → (u v).Obeys law (t ++ n) T) : (a >>= u).Obeys law t T := by
  apply Traces.bind ha
  · intro v m given
    obtain ⟨hm, hP⟩ := given
    apply Traces.mono (next v m (hP _ rfl v rfl))
    intro r n given
    obtain ⟨hn, hT⟩ := given
    rw [List.append_assoc] at hT
    exact ⟨hm.append hn, hT⟩
  · intro r x m given stop
    obtain ⟨hm, -⟩ := given
    refine ⟨hm, fun y hy v hv => ?_⟩
    subst hy hv
    cases stop

theorem Obeys.after_silent {u : α → Task σ β} {T : β → List Deed → Prop}
    (ha : a.Traces fun _ n => n = []) (next : ∀ v, (u v).Obeys law t T) :
    (a >>= u).Obeys law t T := by
  have hs : a.Obeys law t fun _ later => later = t :=
    (Act.obeys_of_silent ha).mono fun _ _ h _ _ => h
  apply hs.bind
  intro v n hn
  rw [hn]
  exact next v

end Task

end Actions

end ProvingGround
