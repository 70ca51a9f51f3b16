import ProvingGround.Proofs.Trace.Checks

/-!
# Answers to a poll

A poll whose check makes one call asks the same thing again and again. The answers to it say not
yet, up to the one that yields the value; nothing is asked after that.
-/

namespace ProvingGround

variable {σ α β : Type}

/-! ### Waits that end -/

/-- The last of the answers yields the value, and all before it say not yet. -/
def EndsWait (judge : Except Fault β → Except Fault (Option α)) (v : α)
    (answers : List (Except Fault β)) : Prop :=
  ∃ earlier last, answers = earlier ++ [last] ∧
    (∀ x ∈ earlier, Verdict.of (judge x) = .notYet) ∧ judge last = .ok (some v)

section EndsWait

variable {judge : Except Fault β → Except Fault (Option α)} {v : α}
  {x : Except Fault β} {answers : List (Except Fault β)}

theorem EndsWait.single (h : judge x = .ok (some v)) : EndsWait judge v [x] :=
  ⟨[], x, rfl, fun _ hm => (nomatch hm), h⟩

theorem EndsWait.cons (h : Verdict.of (judge x) = .notYet) (rest : EndsWait judge v answers) :
    EndsWait judge v (x :: answers) := by
  obtain ⟨earlier, last, rfl, waiting, ends⟩ := rest
  refine ⟨x :: earlier, last, rfl, ?_, ends⟩
  intro y hy
  rcases List.mem_cons.1 hy with rfl | hy
  · exact h
  · exact waiting y hy

/-- An answer that has not met what is waited for is a transient fault or falls short of it. -/
theorem unmet_of_notYet {met : β → Bool} {f : β → α}
    (h : Verdict.of (metVerdict met f x) = .notYet) :
    (∀ a, x = .ok a → met a = false) ∧ ∀ g, x = .error g → g.isTransient = true := by
  constructor
  · rintro a rfl
    cases hm : met a with
    | false => rfl
    | true =>
      simp only [metVerdict, if_pos hm, Verdict.of] at h
      cases h
  · rintro g rfl
    by_contra final
    simp only [metVerdict, Verdict.of, if_neg final] at h
    cases h

end EndsWait

/-! ### Polls -/

/-- A poll that gives a value has been answered up to it. -/
theorem PollTrace.answers {what : String} {timeout : Duration} {c : Call}
    {judge : Except Fault c.Answer → Except Fault (Option α)} {r : Task.Ending α} {n : List Deed}
    (h : PollTrace what timeout (Judged c judge) r n) {v : α} (hr : r = .ok (.ok v)) :
    ∃ xs, n = xs.map (.asked c) ∧ EndsWait judge v xs := by
  induction h with
  | stalled | halted | failed | expired => cases hr
  | @ready w n check =>
    cases hr
    obtain ⟨x, rfl, judged⟩ := check
    exact ⟨[x], rfl, .single (Except.ok.inj judged).symm⟩
  | @again m r n check rest ih =>
    obtain ⟨y, ⟨x, rfl, judged⟩, waiting⟩ := check
    obtain ⟨xs, rfl, ends⟩ := ih hr
    rw [Except.ok.inj judged] at waiting
    exact ⟨x :: xs, rfl, ends.cons waiting⟩

/-! ### Answers in a trace -/

/-- The answer, if the run has made the call. -/
def Deed.answer? (c : Call) : Deed → Option (Except Fault c.Answer)
  | .asked c' x => if same : c' = c then some (same ▸ x) else none
  | _ => none

/-- All answers to a call of the run, in order. -/
def answersTo (c : Call) (t : List Deed) : List (Except Fault c.Answer) :=
  t.filterMap (Deed.answer? c)

theorem Deed.answer?_asked (c : Call) (x : Except Fault c.Answer) :
    Deed.answer? c (.asked c x) = some x := by
  simp only [Deed.answer?, dif_pos]

theorem Deed.answer?_other {c c' : Call} (x : Except Fault c'.Answer) (h : c' ≠ c) :
    Deed.answer? c (.asked c' x) = none := by
  simp only [Deed.answer?, dif_neg h]

theorem answersTo_append (c : Call) (t n : List Deed) :
    answersTo c (t ++ n) = answersTo c t ++ answersTo c n :=
  List.filterMap_append

theorem answersTo_same (c : Call) (xs : List (Except Fault c.Answer)) :
    answersTo c (xs.map (.asked c)) = xs := by
  induction xs with
  | nil => rfl
  | cons x xs ih =>
    unfold answersTo at ih ⊢
    rw [List.map_cons, List.filterMap_cons, Deed.answer?_asked, ih]

theorem answersTo_other {c c' : Call} (h : c' ≠ c) (xs : List (Except Fault c'.Answer)) :
    answersTo c (xs.map (.asked c')) = [] := by
  unfold answersTo
  rw [List.filterMap_eq_nil_iff]
  intro d hd
  obtain ⟨x, -, rfl⟩ := List.mem_map.1 hd
  exact Deed.answer?_other x h

/-- What does not answer the call may be left out. -/
theorem answersTo_filter {c : Call} {p : Deed → Bool}
    (h : ∀ x, p (.asked c x) = true) (t : List Deed) :
    answersTo c (t.filter p) = answersTo c t := by
  unfold answersTo
  rw [List.filterMap_filter]
  congr 1
  funext d
  split
  · rfl
  next other =>
    cases d with
    | asked c' x =>
      rw [Deed.answer?_other]
      rintro rfl
      exact other (h x)
    | _ => rfl

end ProvingGround
