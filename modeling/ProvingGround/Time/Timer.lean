import ProvingGround.Time.Duration
import ProvingGround.Word

/-!
# Timers

A timer fires on a whole millisecond, never early. A span whose end cannot be counted in 63 bits of
seconds is cut to thirty years of 365 days.
-/

namespace ProvingGround.Timer

/-- Seconds of an instant that can be counted. -/
def horizon : Nat := Word.count 63

/-- The span in place of one that ends beyond the horizon. -/
def farSpan : Duration := .ofSeconds 946080000

/-- Whole milliseconds of a span, rounded up. -/
def ceilMillis (d : Duration) : Nat := (d.nanos + Duration.millisecond - 1) / Duration.millisecond

/-- The instant is one of the clock. -/
def isCountable (d : Duration) : Bool := d.seconds < horizon

/-- The clock when a timer of a span fires that was set now. -/
def fires (now span : Duration) : Duration :=
  if isCountable ⟨now.nanos + span.nanos⟩ then
    ⟨now.nanos + (ceilMillis ⟨now.nanos + span.nanos⟩ - now.nanos / Duration.millisecond) *
      Duration.millisecond⟩
  else ⟨now.nanos + farSpan.nanos⟩

/-- On whole milliseconds a timer fires exactly at its end. -/
theorem fires_of_whole {now span : Duration} (hn : Duration.millisecond ∣ now.nanos)
    (hs : Duration.millisecond ∣ span.nanos) (hc : isCountable ⟨now.nanos + span.nanos⟩ = true) :
    fires now span = ⟨now.nanos + span.nanos⟩ := by
  obtain ⟨a, ha⟩ := hn
  obtain ⟨b, hb⟩ := hs
  simp only [fires, hc, if_true, ceilMillis, Duration.mk.injEq]
  simp only [Duration.millisecond] at *
  omega

/-- A timer whose end can be counted does not fire early. -/
theorem le_fires {now span : Duration} (hc : isCountable ⟨now.nanos + span.nanos⟩ = true) :
    now.nanos + span.nanos ≤ (fires now span).nanos := by
  simp only [fires, hc, if_true, ceilMillis, Duration.millisecond]
  omega

end ProvingGround.Timer
