import ProvingGround.Proofs.Trace.Law
import ProvingGround.Session.Poll

/-!
# Traces of polls

A poll makes checks that say not yet, one after the other, and ends with one more: a check with a
value, a check with a fault that is not transient, or a check at the limit that says not yet.
-/

namespace ProvingGround

variable {σ α : Type}

/-! ### Verdicts -/

namespace Verdict

/-- What a poll makes of the verdict on its last check. -/
def outcome (what : String) (timeout : Duration) : Verdict α → Except Fault α
  | ready v => .ok v
  | failed f => .error f
  | notYet => .error (.readinessTimeout what timeout)

theorem eq_of_ready {x : Except Fault (Option α)} {v : α} (h : Verdict.of x = ready v) :
    x = .ok (some v) := by
  match x with
  | .ok (some w) =>
    simp only [Verdict.of, ready.injEq] at h
    rw [h]
  | .ok none => cases h
  | .error f =>
    simp only [Verdict.of] at h
    split at h <;> cases h

theorem eq_of_failed {x : Except Fault (Option α)} {f : Fault} (h : Verdict.of x = failed f) :
    x = .error f ∧ f.isTransient = false := by
  match x with
  | .ok (some _) => cases h
  | .ok none => cases h
  | .error g =>
    simp only [Verdict.of] at h
    split at h
    · cases h
    next hg =>
      cases h
      exact ⟨rfl, eq_false_of_ne_true hg⟩

end Verdict

/-! ### Polls -/

def NotYet (C : Task.Ending (Option α) → List Deed → Prop) (n : List Deed) : Prop :=
  ∃ x, C (.ok x) n ∧ Verdict.of x = .notYet

/-- What a poll of a check can do. -/
inductive PollTrace (what : String) (timeout : Duration)
    (C : Task.Ending (Option α) → List Deed → Prop) : Task.Ending α → List Deed → Prop where
  | stalled : PollTrace what timeout C (.error .stalled) []
  | halted {h n} (check : C (.error h) n) : PollTrace what timeout C (.error h) n
  | ready {v n} (check : C (.ok (.ok (some v))) n) : PollTrace what timeout C (.ok (.ok v)) n
  | failed {f n} (check : C (.ok (.error f)) n) (final : f.isTransient = false) :
    PollTrace what timeout C (.ok (.error f)) n
  | expired {n} (check : NotYet C n) :
    PollTrace what timeout C (.ok (.error (.readinessTimeout what timeout))) n
  | again {m r n} (check : NotYet C m) (rest : PollTrace what timeout C r n) :
    PollTrace what timeout C r (m ++ n)

section Polls

variable {what : String} {l : PollLimits} {start : Duration} {check : Task σ (Option α)}
  {C : Task.Ending (Option α) → List Deed → Prop}

/-- A check that comes to an end is judged; while it says not yet, the limit and a pause come
next. -/
theorem pollFrom_exec_succ {x : Except Fault (Option α)} {s s' : Session σ}
    (checked : check.exec s = (.ok x, s')) (n : Nat) :
    (pollFrom what l start check (n + 1)).exec s =
      match Verdict.of x with
      | .ready v => (.ok (.ok v), s')
      | .failed f => (.ok (.error f), s')
      | .notYet =>
        let elapsed := s'.clock.remaining start
        if l.timeout.nanos ≤ elapsed.nanos then
          (.ok (.error (.readinessTimeout what l.timeout)), s')
        else
          (pollFrom what l start check n).exec
            { s' with clock := Timer.fires s'.clock (l.pause elapsed) } := by
  have attempt : check.attempt.exec s = (.ok x, s') := checked
  have first : (Task.lift check.attempt).exec s = (.ok (.ok x), s') := by
    rw [Task.exec_lift, attempt]
    rfl
  have clock : (Task.clock : Task σ Duration).exec s' = (.ok (.ok s'.clock), s') := rfl
  rw [pollFrom, Task.exec_bind, first]
  dsimp only
  cases Verdict.of x with
  | ready | failed => rfl
  | notYet =>
    dsimp only
    rw [Task.exec_bind, clock]
    dsimp only
    split <;> rfl

section Turns

variable {x : Except Fault (Option α)} {s s' : Session σ}

theorem pollFrom_exec_last (checked : check.exec s = (.ok x, s'))
    (expires : Verdict.of x = .notYet → l.timeout.nanos ≤ s'.clock.nanos - start.nanos) (n : Nat) :
    (pollFrom what l start check (n + 1)).exec s =
      (.ok ((Verdict.of x).outcome what l.timeout), s') := by
  rw [pollFrom_exec_succ checked]
  cases verdict : Verdict.of x with
  | ready v => rfl
  | failed f => rfl
  | notYet =>
    have expired : l.timeout.nanos ≤ (s'.clock.remaining start).nanos := expires verdict
    dsimp only
    rw [if_pos expired]
    rfl

theorem pollFrom_exec_again (checked : check.exec s = (.ok x, s'))
    (waits : Verdict.of x = .notYet)
    (early : s'.clock.nanos - start.nanos < l.timeout.nanos) (n : Nat) :
    (pollFrom what l start check (n + 1)).exec s = (pollFrom what l start check n).exec
      { s' with clock := Timer.fires s'.clock (l.pause (s'.clock.remaining start)) } := by
  have open_ : ¬ l.timeout.nanos ≤ (s'.clock.remaining start).nanos := Nat.not_le.2 early
  rw [pollFrom_exec_succ checked, waits]
  dsimp only
  rw [if_neg open_]

end Turns

theorem poll_exec (s : Session σ) : (poll what l check).exec s =
    (pollFrom what l s.clock check (l.checks s.patience)).exec s := by
  have clock : (Task.clock : Task σ Duration).exec s = (.ok (.ok s.clock), s) := rfl
  have patience : (Task.patience : Task σ Nat).exec s = (.ok (.ok s.patience), s) := rfl
  unfold poll
  rw [Task.exec_bind, clock]
  dsimp only
  rw [Task.exec_bind, patience]

/-- The value of a poll is that of its last check. -/
theorem PollTrace.last_check {timeout : Duration} {r : Task.Ending α} {n : List Deed}
    (h : PollTrace what timeout C r n) {v : α} (hr : r = .ok (.ok v)) :
    ∃ m k, n = m ++ k ∧ C (.ok (.ok (some v))) k := by
  induction h with
  | stalled | halted | failed | expired => cases hr
  | @ready w k check =>
    cases hr
    exact ⟨[], k, rfl, check⟩
  | @again m _ _ _ _ ih =>
    obtain ⟨m', k, rfl, hC⟩ := ih hr
    exact ⟨m ++ m', k, (List.append_assoc ..).symm, hC⟩

/-- A poll is lawful when its checks are, however late they come. -/
theorem PollTrace.lawful {timeout : Duration} {r : Task.Ending α} {n t : List Deed}
    {law : List Deed → Deed → Prop} (h : PollTrace what timeout C r n)
    (checks : ∀ m x k, C x k → Lawful law (t ++ m) k) : Lawful law t n := by
  have first : ∀ x k, C x k → Lawful law t k := by
    intro x k hC
    have hk := checks [] x k hC
    rw [List.append_nil] at hk
    exact hk
  -- What follows a check that says not yet is a poll of its own, after a longer trace.
  induction h generalizing t with
  | stalled => trivial
  | halted check | ready check | failed check _ => exact first _ _ check
  | expired check =>
    obtain ⟨x, hC, -⟩ := check
    exact first _ _ hC
  | @again m _ n check _ ih =>
    obtain ⟨x, hC, -⟩ := check
    have later : ∀ m' x k, C x k → Lawful law (t ++ m ++ m') k := by
      intro m' x k hk
      rw [List.append_assoc]
      exact checks (m ++ m') x k hk
    refine (first _ _ hC).append (ih later ?_)
    exact checks m

theorem pollFrom_traces (hc : check.Traces C) (n : Nat) :
    (pollFrom what l start check n).Traces (PollTrace what l.timeout C) := by
  induction n with
  | zero => exact Task.traces_lift (Act.traces_halt .stalled)
  | succ n ih =>
    have hl : (Task.lift check.attempt).Traces fun r n => ∃ x, r = x.map .ok ∧ C x n :=
      Task.traces_lift (Act.Traces.mono hc fun r n h => ⟨r, rfl, h⟩)
    unfold pollFrom
    apply hl.bind
    · intro v m given
      obtain ⟨_ | x, hx, hC⟩ := given
      · cases hx
      cases hx
      cases hv : Verdict.of v with
      | ready a =>
        rw [Verdict.eq_of_ready hv] at hC
        apply Task.traces_pure
        rw [List.append_nil]
        exact .ready hC
      | failed f =>
        obtain ⟨rfl, final⟩ := Verdict.eq_of_failed hv
        apply Task.traces_throw
        rw [List.append_nil]
        exact .failed hC final
      | notYet =>
        have hn : NotYet C m := ⟨v, hC, hv⟩
        apply Task.traces_clock.skip
        intro d
        dsimp only
        split
        · apply Task.traces_throw
          rw [List.append_nil]
          exact .expired hn
        · apply (Task.traces_sleep _).skip
          intro _
          exact ih.mono fun r n h => .again hn h
    · intro r x m given stop
      obtain ⟨_ | y, rfl, hC⟩ := given
      · cases stop
        exact .halted hC
      · cases stop

theorem poll_traces (hc : check.Traces C) :
    (poll what l check).Traces (PollTrace what l.timeout C) := by
  apply Task.traces_clock.skip
  intro start
  apply Task.traces_patience.skip
  intro patience
  exact pollFrom_traces hc _

theorem poll_obeys {law : List Deed → Deed → Prop} {t : List Deed} (hc : check.Traces C)
    (checks : ∀ m x k, C x k → Lawful law (t ++ m) k) :
    (poll what l check).Obeys law t fun v later =>
      ∃ m k, later = t ++ m ++ k ∧ C (.ok (.ok (some v))) k := by
  apply Task.obeys_of_traces (poll_traces hc)
  · intro r n h
    exact h.lawful checks
  · intro v n h
    obtain ⟨m, k, rfl, hC⟩ := h.last_check rfl
    exact ⟨m, k, (List.append_assoc ..).symm, hC⟩

end Polls

end ProvingGround
