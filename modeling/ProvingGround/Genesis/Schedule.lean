import ProvingGround.Fault.Config
import ProvingGround.Time.Timestamp

/-!
# The schedule of genesis

All nodes of a network are told the same instant of genesis. It is computed once, a span after the
moment at which the first group is about to be deployed, and the run later waits for what is left of
the span.
-/

namespace ProvingGround

structure GenesisSchedule where
  /-- The span from the computation to genesis. -/
  delta : Duration
  /-- The clock at the computation. -/
  computedAt : Duration
  genesis : Timestamp
  deriving DecidableEq, Repr

namespace GenesisSchedule

/-- The schedule for genesis a span after now, which the clock and the calendar tell. -/
def compute (delta clock : Duration) (now : Timestamp) : Except ConfigCause GenesisSchedule :=
  match now.after? delta with
  | some genesis => .ok ⟨delta, clock, genesis⟩
  | none => .error (.genesisOutOfRange delta)

def argument (s : GenesisSchedule) : String := s.genesis.text

def elapsed (s : GenesisSchedule) (clock : Duration) : Duration := clock.remaining s.computedAt

/-- What is left to wait for. -/
def left (s : GenesisSchedule) (clock : Duration) : Duration :=
  s.delta.remaining (s.elapsed clock)

theorem compute_genesis {delta clock : Duration} {now : Timestamp} {s : GenesisSchedule}
    (h : compute delta clock now = .ok s) : s.genesis = now.after delta := by
  simp only [compute] at h
  split at h
  · next g hg =>
    cases h
    exact Timestamp.after?_eq_some hg
  · cases h

end GenesisSchedule

end ProvingGround
