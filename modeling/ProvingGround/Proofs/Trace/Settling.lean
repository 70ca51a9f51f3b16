import ProvingGround.Proofs.Trace.Checks
import ProvingGround.Proofs.Trace.Sparing

/-!
# How tasks settle

A task settles with a result or with a fault, and of both something can be said from the trace up
to there. A poll of readings settles by its last reading: it is ready, or final, or too late.
-/

namespace ProvingGround

variable {σ α β : Type} {law : List Deed → Deed → Prop} {t : List Deed}

/-! ### Tasks -/

namespace Task

/-- A result is as `P` says, a fault as `D` says. -/
def Meets (P : α → List Deed → Prop) (D : Fault → List Deed → Prop) :
    Except Fault α → List Deed → Prop
  | .ok v => P v
  | .error f => D f

/-- After the deeds `t` the task adds lawful ones, a result of it is as `P` says and a fault of it
as `D` says. -/
def Settles (law : List Deed → Deed → Prop) (t : List Deed) (a : Task σ α)
    (P : α → List Deed → Prop) (D : Fault → List Deed → Prop) : Prop :=
  a.attempt.Obeys law t (Meets P D)

variable {a : Task σ α} {P Q : α → List Deed → Prop} {D D' : Fault → List Deed → Prop}

theorem settles_of_traces {R : Ending α → List Deed → Prop} (h : a.Traces R)
    (lawful : ∀ r n, R r n → Lawful law t n) (result : ∀ v n, R (.ok (.ok v)) n → P v (t ++ n))
    (fault : ∀ f n, R (.ok (.error f)) n → D f (t ++ n)) : a.Settles law t P D := by
  apply Traces.mono h
  intro r n hR
  refine ⟨lawful r n hR, fun x hx => ?_⟩
  subst hx
  cases x with
  | ok v => exact result v n hR
  | error f => exact fault f n hR

theorem Settles.mono (h : a.Settles law t P D) (weaken : ∀ v n, P v (t ++ n) → Q v (t ++ n))
    (failing : ∀ f n, D f (t ++ n) → D' f (t ++ n)) : a.Settles law t Q D' := by
  apply Act.Obeys.mono h
  intro r n hr
  cases r with
  | ok v => exact weaken v n hr
  | error f => exact failing f n hr

theorem settles_pure {v : α} (h : P v t) : (pure v : Task σ α).Settles law t P D :=
  Act.obeys_pure (P := Meets P D) h

theorem settles_throw {f : Fault} (h : D f t) : (throw f : Task σ α).Settles law t P D :=
  Act.obeys_pure (P := Meets P D) h

theorem Settles.bind {u : α → Task σ β} {T : β → List Deed → Prop} (ha : a.Settles law t P D)
    (next : ∀ v n, P v (t ++ n) → (u v).Settles law (t ++ n) T D')
    (failed : ∀ f n, D f (t ++ n) → D' f (t ++ n)) : (a >>= u).Settles law t T D' := by
  apply Traces.bind ha
  · intro v m given
    obtain ⟨hm, hP⟩ := given
    apply Traces.mono (next v m (hP _ rfl))
    intro r n given
    obtain ⟨hn, hT⟩ := given
    rw [List.append_assoc] at hT
    exact ⟨hm.append hn, hT⟩
  · intro r x m given stop
    obtain ⟨hm, hP⟩ := given
    refine ⟨hm, fun y hy => ?_⟩
    subst hy
    cases stop with
    | fault f => exact failed f m (hP _ rfl)

/-- Both tasks fail in the same way. -/
theorem Settles.seq {u : α → Task σ β} {T : β → List Deed → Prop} (ha : a.Settles law t P D)
    (next : ∀ v n, P v (t ++ n) → (u v).Settles law (t ++ n) T D) :
    (a >>= u).Settles law t T D :=
  ha.bind next fun _ _ hD => hD

theorem Settles.after_silent {u : α → Task σ β} {T : β → List Deed → Prop}
    (ha : a.Traces fun r n => (∃ v, r = .ok (.ok v)) ∧ n = [])
    (next : ∀ v, (u v).Settles law t T D) : (a >>= u).Settles law t T D := by
  have silent : a.Settles law t (fun _ later => later = t) fun _ _ => False := by
    apply settles_of_traces ha
    · intro r n given
      obtain ⟨-, rfl⟩ := given
      trivial
    · intro v n given
      rw [given.2, List.append_nil]
    · intro f n given
      obtain ⟨⟨v, hv⟩, -⟩ := given
      cases hv
  apply silent.bind
  · intro v n hn
    rw [hn]
    exact next v
  · intro _ _ hF
    exact hF.elim

theorem settles_call [Services σ] {c : Call} {P : c.Answer → List Deed → Prop}
    (lawful : ∀ x, law t (.asked c x)) (ok : ∀ v, P v (t ++ [.asked c (.ok v)]))
    (wrong : ∀ f, D f (t ++ [.asked c (.error f)])) : (call c : Task σ c.Answer).Settles law t P D := by
  apply traces_call
  intro x
  refine ⟨.single (lawful x), fun y hy => ?_⟩
  cases hy
  cases x with
  | ok v => exact ok v
  | error f => exact wrong f

theorem settles_lift {b : Act σ α} (h : b.Obeys law t P) : (lift b).Settles law t P D := by
  apply traces_lift
  apply Act.Traces.mono h
  intro r n given
  obtain ⟨lawful, hP⟩ := given
  refine ⟨lawful, fun x hx => ?_⟩
  cases r with
  | error h => cases hx
  | ok w =>
    cases hx
    exact hP w rfl

theorem settles_ofConfig {x : Except ConfigCause α} (ok : ∀ v, x = .ok v → P v t)
    (wrong : ∀ c, x = .error c → D (.config c) t) : (ofConfig x : Task σ α).Settles law t P D := by
  cases x with
  | ok v => exact settles_pure (ok v rfl)
  | error c => exact settles_throw (wrong c rfl)

end Task

/-! ### Checks that read -/

/-- The check makes readings, and the last of them tells what it yields. -/
def Reads (tells : Deed → Except Fault (Option α) → Prop) (r : Task.Ending (Option α))
    (n : List Deed) : Prop :=
  Among Deed.isReading n ∧ ∃ pre d y, n = pre ++ [d] ∧ r = .ok y ∧ tells d y

theorem Judged.reads {c : Call} {judge : Except Fault c.Answer → Except Fault (Option α)}
    {r : Task.Ending (Option α)} {n : List Deed} (h : Judged c judge r n)
    (reading : c.oneShot? = none) :
    Reads (fun d y => ∃ x, d = .asked c x ∧ y = judge x) r n := by
  obtain ⟨x, rfl, rfl⟩ := h
  have among : Among Deed.isReading [.asked c x] := by
    apply Among.single
    simp [Deed.isReading, reading]
  exact ⟨among, [], _, _, rfl, rfl, x, rfl, rfl⟩

theorem PassTrace.reads {ns : String} {ws : List Workload} {r : Task.Ending (Option Unit)}
    {n : List Deed} (h : PassTrace ns ws r n) (nonempty : ws ≠ []) :
    Reads (fun d y => ∃ w ∈ ws, ∃ x, d = .asked (.workloadStatus ns w) x ∧ y = servingVerdict x)
      r n := by
  induction h with
  | served => exact absurd rfl nonempty
  | failed w rest f =>
    exact ⟨.single rfl, [], _, _, rfl, rfl, w, List.mem_cons_self, .error f, rfl, rfl⟩
  | @idle w rest x unready =>
    have verdict : (.ok none : Except Fault (Option Unit)) = servingVerdict (.ok x) := by
      simp [servingVerdict, metVerdict, unready]
    exact ⟨.single rfl, [], _, _, rfl, rfl, w, List.mem_cons_self, .ok x, rfl, verdict⟩
  | @serves w rest c r n serving later ih =>
    cases later with
    | served =>
      have verdict : (.ok (some ()) : Except Fault (Option Unit)) =
          servingVerdict (.ok (some c)) := by
        simp [servingVerdict, metVerdict, serving]
      exact ⟨.single rfl, [], _, _, rfl, rfl, w, List.mem_cons_self, _, rfl, verdict⟩
    | failed | idle | serves =>
      obtain ⟨readings, pre, d, y, hn, hr, w', hw, told⟩ := ih (List.cons_ne_nil _ _)
      have first : Among Deed.isReading [.asked (.workloadStatus ns w) (.ok (some c))] :=
        .single rfl
      refine ⟨first.append readings, .asked (.workloadStatus ns w) (.ok (some c)) :: pre, d, y,
        ?_, hr, w', List.mem_cons_of_mem w hw, told⟩
      rw [hn]
      rfl

/-! ### Polls of readings -/

/-- How a poll ends after a check that yielded `y`. -/
inductive PollEnds (what : String) (timeout : Duration) :
    Except Fault (Option α) → Except Fault α → Prop where
  | ready (v : α) : PollEnds what timeout (.ok (some v)) (.ok v)
  | final {f : Fault} (lasting : f.isTransient = false) :
    PollEnds what timeout (.error f) (.error f)
  | late {y : Except Fault (Option α)} (unready : Verdict.of y = .notYet) :
    PollEnds what timeout y (.error (.readinessTimeout what timeout))

section Polls

variable {what : String} {timeout : Duration} {tells : Deed → Except Fault (Option α) → Prop}

theorem PollTrace.readings {r : Task.Ending α} {n : List Deed}
    (h : PollTrace what timeout (Reads tells) r n) : Among Deed.isReading n := by
  induction h with
  | stalled => exact .nil
  | halted check | ready check | failed check => exact check.1
  | expired check =>
    obtain ⟨x, reads, -⟩ := check
    exact reads.1
  | again check _ ih =>
    obtain ⟨x, reads, -⟩ := check
    exact reads.1.append ih

theorem PollTrace.ends {r : Task.Ending α} {n : List Deed}
    (h : PollTrace what timeout (Reads tells) r n) {z : Except Fault α} (hr : r = .ok z) :
    ∃ pre d y, n = pre ++ [d] ∧ tells d y ∧ PollEnds what timeout y z := by
  induction h with
  | stalled | halted => cases hr
  | ready check =>
    obtain ⟨-, pre, d, y, hn, hy, told⟩ := check
    cases hr
    cases hy
    exact ⟨pre, d, _, hn, told, .ready _⟩
  | failed check final =>
    obtain ⟨-, pre, d, y, hn, hy, told⟩ := check
    cases hr
    cases hy
    exact ⟨pre, d, _, hn, told, .final final⟩
  | expired check =>
    obtain ⟨x, ⟨-, pre, d, y, hn, hy, told⟩, unready⟩ := check
    cases hr
    cases hy
    exact ⟨pre, d, x, hn, told, .late unready⟩
  | @again m _ _ _ _ ih =>
    obtain ⟨pre, d, y, rfl, told, ends⟩ := ih hr
    exact ⟨m ++ pre, d, y, (List.append_assoc ..).symm, told, ends⟩

theorem lawful_readings {n : List Deed} (unhindered : ¬ Hindered t)
    (readings : Among Deed.isReading n) : Lawful AskingLaw t n := by
  induction n generalizing t with
  | nil => trivial
  | cons d n ih =>
    have hd := readings d List.mem_cons_self
    have rest : Among Deed.isReading n := fun e he => readings e (List.mem_cons_of_mem d he)
    cases d with
    | probed | entered | began => cases hd
    | asked c x =>
      have none : (Deed.asked c x).oneShot? = none := Deed.oneShot?_of_isReading hd
      refine ⟨.of_reading unhindered none, ih ?_ rest⟩
      intro hindered
      obtain ⟨e, he, refusal⟩ := hindered
      rcases List.mem_append.1 he with he | he
      · exact unhindered ⟨e, he, refusal⟩
      · rw [List.mem_singleton.1 he, Deed.isRefusal_of_oneShot? none] at refusal
        cases refusal

/-- A poll of readings leaves a clear trace clear, and its last reading decides how it ends. -/
theorem poll_settles {l : PollLimits} {check : Task σ (Option α)} {E : List OneShot}
    (clear : Clear E t) (hc : check.Traces (Reads tells)) :
    (poll what l check).Settles AskingLaw t
      (fun v later => Clear E later ∧
        ∃ pre d y, later = pre ++ [d] ∧ tells d y ∧ PollEnds what l.timeout y (.ok v))
      fun f later => Clear E later ∧
        ∃ pre d y, later = pre ++ [d] ∧ tells d y ∧ PollEnds what l.timeout y (.error f) := by
  have settled : ∀ {z : Except Fault α} {n : List Deed},
      PollTrace what l.timeout (Reads tells) (.ok z) n → Clear E (t ++ n) ∧
        ∃ pre d y, t ++ n = pre ++ [d] ∧ tells d y ∧ PollEnds what l.timeout y z := by
    intro z n h
    obtain ⟨pre, d, y, hn, told, ends⟩ := h.ends rfl
    refine ⟨clear.reading h.readings, t ++ pre, d, y, ?_, told, ends⟩
    rw [hn, List.append_assoc]
  apply Task.settles_of_traces (poll_traces hc)
  · intro r n h
    exact lawful_readings clear.unhindered h.readings
  · intro v n h
    exact settled h
  · intro f n h
    exact settled h

end Polls

end ProvingGround
