import ProvingGround.Word

/-!
# Durations

A span of time in whole nanoseconds. Seconds of a span are counted in 64 bits where a span comes
from outside; sums and products stop at the greatest such span. The text of a span uses the largest
unit of which it has at least one, with the fraction that is left and no zeros at its end.
-/

namespace ProvingGround

/-- A span of time. -/
structure Duration where
  nanos : Nat
  deriving DecidableEq, Repr

namespace Duration

/-! ### Units -/

/-- Nanoseconds of a second. -/
def second : Nat := 1000000000

/-- Nanoseconds of a millisecond. -/
def millisecond : Nat := 1000000

/-- A whole number of seconds. -/
def ofSeconds (n : Nat) : Duration := ⟨n * second⟩

/-- A whole number of milliseconds. -/
def ofMilliseconds (n : Nat) : Duration := ⟨n * millisecond⟩

def zero : Duration := ⟨0⟩

instance : Inhabited Duration := ⟨zero⟩

def seconds (d : Duration) : Nat := d.nanos / second

/-- Nanoseconds beyond the whole seconds. -/
def subsecond (d : Duration) : Nat := d.nanos % second

theorem seconds_mul_add_subsecond (d : Duration) : d.seconds * second + d.subsecond = d.nanos := by
  simp only [seconds, subsecond, second]
  omega

/-- The longest span whose seconds fit 64 bits. -/
def longest : Duration := ⟨Word.count 64 * second - 1⟩

/-- A span repeated, at most the longest one. -/
def saturatingMul (d : Duration) (n : Nat) : Duration := ⟨min (d.nanos * n) longest.nanos⟩

/-- What is left of a span after a part of it, nothing when the part is longer. -/
def remaining (d part : Duration) : Duration := ⟨d.nanos - part.nanos⟩

theorem remaining_eq_zero_iff (d part : Duration) :
    d.remaining part = zero ↔ d.nanos ≤ part.nanos := by
  simp [remaining, zero, Nat.sub_eq_zero_iff_le]

/-! ### Text -/

/-- The digits of a fraction of `places` digits, without zeros at its end. -/
def fractionDigits (places n : Nat) : List Char :=
  let cs := Nat.toDigits 10 n
  let padded := List.replicate (places - cs.length) '0' ++ cs
  (padded.reverse.dropWhile (· == '0')).reverse

/-- A number of units with a fraction of `places` digits. -/
def decimalText (whole fraction places : Nat) (unit : String) : String :=
  let digits := if fraction = 0 then "" else "." ++ String.ofList (fractionDigits places fraction)
  toString whole ++ digits ++ unit

/-- The span in seconds, milliseconds, microseconds or nanoseconds. -/
def text (d : Duration) : String :=
  if d.nanos ≥ second then decimalText d.seconds d.subsecond 9 "s"
  else if d.nanos ≥ millisecond then
    decimalText (d.nanos / millisecond) (d.nanos % millisecond) 6 "ms"
  else if d.nanos ≥ 1000 then decimalText (d.nanos / 1000) (d.nanos % 1000) 3 "µs"
  else decimalText d.nanos 0 0 "ns"

end Duration

end ProvingGround
