import ProvingGround.Rehearsal.Script
import ProvingGround.Session.Poll

/-!
# Scripted checks

A check that follows a list of cues, to rehearse a poll without any services. Each check takes the
next cue, the last cue stays, and a cue without a result is not ready. The starts of the checks are
kept.
-/

namespace ProvingGround

structure CheckScript (α : Type) where
  cues : List (Cue α)
  /-- The starts of the checks that were made, the latest first. -/
  starts : List Duration

namespace CheckScript

variable {α : Type}

/-- A script before the first check. -/
def ofCues (cues : List (Cue α)) : CheckScript α := ⟨cues, []⟩

def finding : Option (Except Fault α) → Except Fault (Option α)
  | some (.ok a) => .ok (some a)
  | some (.error f) => .error f
  | none => .ok none

/-- The session after a check and what the check finds. -/
def step (s : Session (CheckScript α)) : Except Fault (Option α) × Session (CheckScript α) :=
  let (cue, later) := Cue.next s.world.cues
  let next : Session (CheckScript α) := { s with world := ⟨later, s.clock :: s.world.starts⟩ }
  (finding cue.result, next.pass cue.delay)

def check : Task (CheckScript α) (Option α) := ExceptT.mk (modifyGet step)

end CheckScript

end ProvingGround
