import ProvingGround.Proofs.Trace.Answers
import ProvingGround.Proofs.Trace.Course

/-!
# Looks of a poll

A poll whose check makes one call looks at one thing again and again. Its looks say how it ended:
the last one saw what was waited for, or was over at the limit and had not seen it, or failed for
good; all the others left the wait open and were over before the limit.
-/

namespace ProvingGround

variable {σ α β : Type}

/-! ### Looks -/

/-- One look: when it began, when it was over, and what was seen. -/
structure Look (β : Type) where
  start : Duration
  finish : Duration
  answer : Except Fault β

namespace Look

/-- What a look at the answer to a call leaves in the history. -/
def event (c : Call) (l : Look c.Answer) : Event := .exchanged ⟨c, l.start, l.finish, l.answer⟩

/-- The look as a check that judges what was seen. -/
def trial (judge : Except Fault β → Except Fault (Option α)) (l : Look β) : Trial α :=
  ⟨l.start, l.finish, judge l.answer⟩

/-- The look neither sees what is waited for nor says that it will not come. -/
def LeavesOpen (met : β → Prop) (l : Look β) : Prop :=
  (∀ a, l.answer = .ok a → ¬ met a) ∧ ∀ f, l.answer = .error f → f.isTransient = true

end Look

/-! ### Ends of a wait -/

inductive WaitEnd (β : Type) where
  /-- What was waited for was seen, and the look was over then. -/
  | met (a : β) (clock : Duration)
  | expired
  | failed (f : Fault)

/-- What a poll makes of the end of its wait. -/
def WaitEnd.result (what : String) (timeout : Duration) (value : β → α) :
    WaitEnd β → Except Fault α
  | met a _ => .ok (value a)
  | expired => .error (.readinessTimeout what timeout)
  | failed f => .error f

/-- The look ends a wait with a limit. -/
def Look.Ends (met : β → Prop) (limit : Nat) (l : Look β) : WaitEnd β → Prop
  | .met a clock => l.answer = .ok a ∧ met a ∧ l.finish = clock
  | .expired => l.LeavesOpen met ∧ limit ≤ l.finish.nanos
  | .failed f => l.answer = .error f ∧ f.isTransient = false

/-- The wait ends with the last of the looks; the others left it open and were over before its
limit. -/
def WaitEnds (met : β → Prop) (limit : Nat) (looks : List (Look β)) (e : WaitEnd β) : Prop :=
  ∃ earlier last, looks = earlier ++ [last] ∧
    (∀ l ∈ earlier, l.LeavesOpen met ∧ l.finish.nanos < limit) ∧ last.Ends met limit e

section Ends

variable {met : β → Prop} {limit : Nat} {l : Look β} {looks : List (Look β)} {e e' : WaitEnd β}

theorem Look.Ends.unique (h : l.Ends met limit e) (h' : l.Ends met limit e') : e = e' := by
  cases e <;> cases e' <;> simp only [Look.Ends, Look.LeavesOpen] at h h' <;> grind

theorem WaitEnds.unique (h : WaitEnds met limit looks e) (h' : WaitEnds met limit looks e') :
    e = e' := by
  obtain ⟨earlier, last, split, -, ends⟩ := h
  obtain ⟨earlier', last', split', -, ends'⟩ := h'
  have same : last = last' := (List.concat_inj.1 (by simpa using split.symm.trans split')).2
  rw [← same] at ends'
  exact ends.unique ends'

theorem WaitEnds.holds {a : β} {clock : Duration} (h : WaitEnds met limit looks (.met a clock)) :
    met a := by
  obtain ⟨_, _, -, -, -, holds, -⟩ := h
  exact holds

end Ends

/-! ### Calls -/

section Calls

variable {c : Call} {s s' : Session σ}

/-- A session has become another one through a look at the answer to a call. -/
structure Session.Looks (s : Session σ) (c : Call) (look : Look c.Answer) (s' : Session σ) :
    Prop where
  history : s'.history = s.history ++ [look.event c]
  start : look.start = s.clock
  finish : look.finish = s'.clock
  forward : s.clock.nanos ≤ s'.clock.nanos

theorem Task.exec_call_look [Services σ] (c : Call) (s : Session σ) :
    ∃ look s', (call c).exec s = (.ok look.answer, s') ∧ s.Looks c look s' := by
  refine ⟨⟨s.clock, (Act.exchange .exchanged c s).2.clock, (Act.exchange .exchanged c s).1⟩, _,
    exec_call c s, Session.history_note _ _, rfl, rfl, Nat.le_add_right _ _⟩

/-- The check is one look, and judges what it saw. -/
def Task.Judges (check : Task σ (Option α)) (c : Call)
    (judge : Except Fault c.Answer → Except Fault (Option α)) : Prop :=
  ∀ s, ∃ look s', check.exec s = (.ok (judge look.answer), s') ∧ s.Looks c look s'

theorem Task.judges_call [Services σ] (c : Call) (met : c.Answer → Bool) (value : c.Answer → α) :
    (do let a ← call c; pure (if met a then some (value a) else none) : Task σ _).Judges c
      (metVerdict met value) := by
  intro s
  obtain ⟨look, s', called, looked⟩ := exec_call_look c s
  refine ⟨look, s', ?_, looked⟩
  rw [exec_bind, called]
  cases look.answer <;> rfl

end Calls

/-! ### Polls -/

section Polls

variable {what : String} {l : PollLimits} {start now later : Duration} {c : Call}
  {check : Task σ (Option α)} {judge : Except Fault c.Answer → Except Fault (Option α)}

/-- A poll is over when its last check is. -/
theorem Course.finish_last {made : List (Trial α)} {r : Task.Ending α} {last : Trial α}
    {x : Except Fault α} (h : Course what l start now made r later) (hr : r = .ok x)
    (found : made.getLast? = some last) : last.finish = later := by
  induction h with
  | stalled => cases hr
  | last =>
    cases found
    rfl
  | @again now middle later x made r waits early rest ih =>
    cases made with
    | nil =>
      cases rest
      cases hr
    | cons t made =>
      rw [List.getLast?_cons_cons] at found
      exact ih hr found

variable (what) in
/-- A poll leaves nothing but its looks in the history, and they take a course. -/
theorem pollFrom_looks (judges : check.Judges c judge) (n : Nat) (s : Session σ)
    (after : start.nanos ≤ s.clock.nanos) :
    ∃ (looks : List (Look c.Answer)) (r : Task.Ending α) (s' : Session σ),
      (pollFrom what l start check n).exec s = (r, s') ∧
      s'.history = s.history ++ looks.map (Look.event c) ∧
      Course what l start s.clock (looks.map (Look.trial judge)) r s'.clock ∧
      (∀ t ∈ looks.map (Look.trial judge), t.start.nanos ≤ t.finish.nanos) ∧
      (r = .error .stalled → looks.length = n) := by
  induction n generalizing s with
  | zero =>
    refine ⟨[], _, s, rfl, (List.append_nil _).symm, .stalled, ?_, fun _ => rfl⟩
    intro t ht
    cases ht
  | succ n ih =>
    obtain ⟨⟨_, _, answer⟩, s₁, checked, looked⟩ := judges s
    obtain ⟨noted, rfl, rfl, forward⟩ := looked
    dsimp only at checked
    by_cases going : Verdict.of (judge answer) = .notYet ∧
        s₁.clock.nanos - start.nanos < l.timeout.nanos
    · obtain ⟨waits, early⟩ := going
      have within : s₁.clock.nanos < start.nanos + l.timeout.nanos := by omega
      have fires := Timer.le_fires_now s₁.clock (l.pause (s₁.clock.remaining start))
      obtain ⟨looks, r, s₂, ended, grown, course, forwards, all⟩ := ih
        { s₁ with clock := Timer.fires s₁.clock (l.pause (s₁.clock.remaining start)) }
        (by dsimp only; omega)
      refine ⟨⟨s.clock, s₁.clock, answer⟩ :: looks, r, s₂, ?_, ?_, .again waits within course,
        List.forall_mem_cons.2 ⟨forward, forwards⟩, fun h => congrArg Nat.succ (all h)⟩
      · rw [pollFrom_exec_again checked waits early]
        exact ended
      · rw [grown, List.map_cons, List.append_cons, ← noted]
        rfl
    · have expires : Verdict.of (judge answer) = .notYet →
          l.timeout.nanos ≤ s₁.clock.nanos - start.nanos := by
        intro waits
        exact Nat.le_of_not_lt fun early => going ⟨waits, early⟩
      refine ⟨[⟨s.clock, s₁.clock, answer⟩], _, s₁, pollFrom_exec_last checked expires n, noted,
        .last ?_, List.forall_mem_singleton.2 forward, fun h => nomatch h⟩
      intro waits
      have late := expires waits
      show start.nanos + l.timeout.nanos ≤ s₁.clock.nanos
      omega

variable {met : c.Answer → Bool} {value : c.Answer → α}

theorem Look.leavesOpen_of_notYet {look : Look c.Answer}
    (waits : (look.trial (metVerdict met value)).verdict = .notYet) :
    look.LeavesOpen (met · = true) := by
  obtain ⟨unmet, transient⟩ := unmet_of_notYet waits
  refine ⟨?_, transient⟩
  intro a answered found
  rw [unmet a answered] at found
  cases found

variable (what) in
/-- What a look makes of a wait for an answer. -/
theorem Look.ends_of_verdict (look : Look c.Answer) (limit : Nat) (timeout : Duration)
    (expires : (look.trial (metVerdict met value)).verdict = .notYet →
      limit ≤ look.finish.nanos) :
    ∃ e, look.Ends (met · = true) limit e ∧
      (∀ a clock, e = .met a clock → clock = look.finish) ∧
      (look.trial (metVerdict met value)).verdict.outcome what timeout =
        e.result what timeout value := by
  cases verdict : (look.trial (metVerdict met value)).verdict with
  | ready v =>
    obtain ⟨a, answered, found, rfl⟩ := metVerdict_eq_some (Verdict.eq_of_ready verdict)
    refine ⟨.met a look.finish, ⟨answered, found, rfl⟩, ?_, rfl⟩
    intro _ _ h
    cases h
    rfl
  | failed f =>
    obtain ⟨failed, final⟩ := Verdict.eq_of_failed verdict
    refine ⟨.failed f, ⟨metVerdict_eq_error failed, final⟩, ?_, rfl⟩
    intro _ _ h
    cases h
  | notYet =>
    refine ⟨.expired, ⟨Look.leavesOpen_of_notYet verdict, expires verdict⟩, ?_, rfl⟩
    intro _ _ h
    cases h

variable (what) in
/-- With an interval, a poll for an answer ends as its looks say, whatever they see and however long
they take. -/
theorem poll_looks (judges : check.Judges c (metVerdict met value))
    (interval : 0 < l.interval.nanos) (s : Session σ) :
    ∃ looks e s', (poll what l check).exec s = (.ok (e.result what l.timeout value), s') ∧
      s'.history = s.history ++ looks.map (Look.event c) ∧
      WaitEnds (met · = true) (s.clock.nanos + l.timeout.nanos) looks e ∧
      ∀ a clock, e = .met a clock → clock = s'.clock := by
  obtain ⟨n, fuel, -, near⟩ := PollLimits.checks_of_interval interval s.patience
  obtain ⟨looks, r, s', ended, grown, course, forward, all⟩ :=
    pollFrom_looks what (l := l) judges (l.checks s.patience) s (Nat.le_refl s.clock.nanos)
  obtain ⟨-, stalled⟩ := course.length_le l.longestSleep n (Nat.le_refl _) forward
    (fun _ _ _ _ after => PollLimits.elapsed_pause after) (by omega)
  rw [List.length_map] at stalled
  cases r with
  | error halt =>
    obtain ⟨rfl, -⟩ := course.halted rfl
    have many := all rfl
    have few := stalled rfl
    omega
  | ok x =>
    obtain ⟨trials, trial, split, waiting, outcome, expires⟩ := course.ended rfl
    obtain ⟨earlier, rest, rfl, rfl, single⟩ := List.map_eq_append_iff.1 split
    obtain ⟨last, rfl, rfl⟩ := List.map_eq_singleton_iff.1 single
    have finished := course.finish_last rfl (by rw [split]; exact List.getLast?_concat)
    obtain ⟨e, ends, clock, result⟩ := last.ends_of_verdict what _ l.timeout expires
    refine ⟨earlier ++ [last], e, s', ?_, grown, ⟨earlier, last, rfl, ?_, ends⟩, ?_⟩
    · rw [poll_exec, ended, outcome, result]
    · intro look hl
      obtain ⟨waits, early⟩ := waiting _ (List.mem_map_of_mem hl)
      exact ⟨Look.leavesOpen_of_notYet waits, early⟩
    · intro a at_ h
      rw [clock a at_ h]
      exact finished

end Polls

end ProvingGround
