import ProvingGround.Time.Calendar
import ProvingGround.Time.Duration
import ProvingGround.Word

/-!
# Timestamps

An instant of universal time in nanoseconds since the beginning of 1970. Instants that can be
written in every time zone with a year of at most four digits are in range; adding a duration stays
in range or fails. Two texts are written: RFC 3339 in UTC, and the date alone as log indices carry
it.
-/

namespace ProvingGround

/-- An instant of universal time. -/
structure Timestamp where
  nanos : Int
  deriving DecidableEq, Repr

namespace Timestamp

/-! ### Range and addition -/

def first : Timestamp := ⟨-377705023201 * 1000000000⟩

def last : Timestamp := ⟨253402207200 * 1000000000 + 999999999⟩

/-- From the first instant in range to the last. -/
def InRange (t : Timestamp) : Prop := first.nanos ≤ t.nanos ∧ t.nanos ≤ last.nanos

instance (t : Timestamp) : Decidable t.InRange := inferInstanceAs (Decidable (_ ∧ _))

/-- The instant a duration later. -/
def after (t : Timestamp) (d : Duration) : Timestamp := ⟨t.nanos + d.nanos⟩

/-- The instant a duration later, when it is in range and the duration's seconds fit 63 bits. -/
def after? (t : Timestamp) (d : Duration) : Option Timestamp :=
  if d.seconds < Word.count 63 ∧ (t.after d).InRange then some (t.after d) else none

theorem after?_eq_some {t u : Timestamp} {d : Duration} (h : t.after? d = some u) :
    u = t.after d := by
  simp only [after?] at h
  split at h
  · exact (Option.some.inj h).symm
  · cases h

/-! ### Parts -/

def date (t : Timestamp) : CivilDate := CivilDate.ofDay (t.nanos.fdiv (86400 * 1000000000))

/-- Seconds since midnight UTC. -/
def secondOfDay (t : Timestamp) : Nat :=
  ((t.nanos.fdiv 1000000000).fmod 86400).toNat

/-- Nanoseconds since the last full second. -/
def subsecond (t : Timestamp) : Nat := (t.nanos.fmod 1000000000).toNat

/-! ### Texts -/

/-- A number with zeros in front up to a width. -/
def padded (width n : Nat) : String :=
  let s := toString n
  String.ofList (List.replicate (width - s.length) '0') ++ s

/-- The year of an RFC 3339 text: four digits, or a minus sign and six digits. -/
def yearText (year : Int) : String :=
  if year < 0 then "-" ++ padded 6 year.natAbs else padded 4 year.natAbs

/-- The instant in RFC 3339 form, in UTC, with as many digits of the second as it needs. -/
def text (t : Timestamp) : String :=
  let d := t.date
  let s := t.secondOfDay
  let fraction :=
    if t.subsecond = 0 then ""
    else "." ++ String.ofList (Duration.fractionDigits 9 t.subsecond)
  yearText d.year ++ "-" ++ padded 2 d.month ++ "-" ++ padded 2 d.day ++ "T" ++
    padded 2 (s / 3600) ++ ":" ++ padded 2 (s / 60 % 60) ++ ":" ++ padded 2 (s % 60) ++
    fraction ++ "Z"

/-- The year of an index date: at least four characters, a minus sign included. -/
def indexYear (year : Int) : String :=
  if year < 0 then "-" ++ padded 3 year.natAbs else padded 4 year.natAbs

/-- The date of the log indices written at the instant, in UTC. -/
def indexDate (t : Timestamp) : String :=
  let d := t.date
  indexYear d.year ++ "." ++ padded 2 d.month ++ "." ++ padded 2 d.day

end Timestamp

end ProvingGround
