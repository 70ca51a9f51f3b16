import ProvingGround.Session.Basic
import ProvingGround.Word

/-!
# Polls

A poll repeats a check until it yields a value, with an interval between checks and a limit on the
whole. A check that fails with a transient fault counts as not yet; any other fault ends the poll.
The last check is made at the limit, so that one check is made even when the limit is zero.
-/

namespace ProvingGround

/-- The limit of a wait and the interval between checks. -/
structure PollLimits where
  timeout : Duration
  interval : Duration
  deriving DecidableEq, Repr

namespace PollLimits

/-- The longest sleep between two checks. -/
def longestSleep (l : PollLimits) : Nat := min l.interval.nanos Timer.farSpan.nanos

/-- The most checks of a poll. Without an interval nothing but the patience of the session bounds
them. -/
def checks (l : PollLimits) (patience : Nat) : Nat :=
  if l.interval.nanos = 0 then patience
  else (l.timeout.nanos + l.longestSleep - 1) / l.longestSleep + 1

theorem checks_pos (l : PollLimits) {patience : Nat} (h : 0 < patience) :
    0 < l.checks patience := by
  simp only [checks]
  split
  · exact h
  · exact Nat.succ_pos _

/-- The sleep after a check that ended so long after the start. -/
def pause (l : PollLimits) (elapsed : Duration) : Duration :=
  ⟨min l.interval.nanos (l.timeout.remaining elapsed).nanos⟩

end PollLimits

/-! ### Verdicts -/

/-- What a poll makes of a check. -/
inductive Verdict (α : Type) where
  | ready (a : α)
  | failed (f : Fault)
  | notYet

/-- A value is ready, a fault that is not transient is final, all else is not yet. -/
def Verdict.of {α : Type} : Except Fault (Option α) → Verdict α
  | .ok (some a) => ready a
  | .ok none => notYet
  | .error f => if f.isTransient then notYet else failed f

/-! ### Polling -/

variable {σ α : Type}

/-- Repeats a check at most `n` times, in a poll that began at `start`. -/
def pollFrom (what : String) (l : PollLimits) (start : Duration) (check : Task σ (Option α)) :
    (n : Nat) → Task σ α
  | 0 => Task.halt .stalled
  | n + 1 => do
    match Verdict.of (← Task.lift check.attempt) with
    | .ready a => pure a
    | .failed f => throw f
    | .notYet =>
      let elapsed := (← Task.clock).remaining start
      if l.timeout.nanos ≤ elapsed.nanos then throw (.readinessTimeout what l.timeout)
      else
        Task.sleep (l.pause elapsed)
        pollFrom what l start check n

/-- Repeats a check until it yields a value. -/
def poll (what : String) (l : PollLimits) (check : Task σ (Option α)) : Task σ α := do
  pollFrom what l (← Task.clock) check (l.checks (← Task.patience))

end ProvingGround
