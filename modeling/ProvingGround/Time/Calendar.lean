/-!
# The civil calendar

Days are counted from the first of January 1970 in the proleptic Gregorian calendar, with negative
counts before it. A year of the computation begins in March, so that the leap day comes last; four
centuries have 146097 days.
-/

namespace ProvingGround

/-- A date of the civil calendar. -/
structure CivilDate where
  year : Int
  month : Nat
  day : Nat
  deriving DecidableEq, Repr

namespace CivilDate

/-- The day's place within its span of four centuries, and the number of that span; the first span
begins in March of the year 0. -/
def eraOfDay (n : Int) : Int × Nat :=
  let z := n + 719468
  (z.fdiv 146097, (z.fmod 146097).toNat)

/-- The date that is `n` days after the first of January 1970. -/
def ofDay (n : Int) : CivilDate :=
  let (era, doe) := eraOfDay n
  let yoe := (doe - doe / 1460 + doe / 36524 - doe / 146096) / 365
  let doy := doe - (365 * yoe + yoe / 4 - yoe / 100)
  let mp := (5 * doy + 2) / 153
  let month := if mp < 10 then mp + 3 else mp - 9
  let year : Int := yoe + era * 400
  ⟨if month ≤ 2 then year + 1 else year, month, doy - (153 * mp + 2) / 5 + 1⟩

end CivilDate

end ProvingGround
