import Mathlib.Algebra.GroupWithZero.Nat
import ProvingGround.Time.Calendar

/-!
# Dates and day numbers

The days of the Gregorian calendar are numbered by its own rules: years are leap years or not, and
months have their lengths. The date that is computed for a number of days is a date of the calendar,
and its number is the one it was computed for.
-/

namespace ProvingGround.CivilDate

/-! ### The rules of the calendar -/

def IsLeap (year : Int) : Prop := year % 4 = 0 ∧ (year % 100 ≠ 0 ∨ year % 400 = 0)

instance (year : Int) : Decidable (IsLeap year) := inferInstanceAs (Decidable (_ ∧ _))

/-- The days of a month, in a leap year or in another. -/
def monthLength (leap : Bool) (month : Nat) : Nat :=
  if month = 2 then if leap then 29 else 28
  else if month = 4 ∨ month = 6 ∨ month = 9 ∨ month = 11 then 30
  else 31

/-- The days of a year before a month of it. -/
def daysBefore (leap : Bool) (month : Nat) : Nat :=
  ((List.range' 1 (month - 1)).map (monthLength leap)).sum

/-- A date that is in the calendar. -/
structure IsValid (d : CivilDate) : Prop where
  month : 1 ≤ d.month ∧ d.month ≤ 12
  day : 1 ≤ d.day ∧ d.day ≤ monthLength (IsLeap d.year) d.month

/-- The leap years from the year 1 on, up to a year and with it. -/
def leapYears (year : Int) : Int := year / 4 - year / 100 + year / 400

/-- The days from the first of January 1970 to a date. -/
def dayNumber (d : CivilDate) : Int :=
  365 * (d.year - 1970) + (leapYears (d.year - 1) - leapYears 1969) +
    daysBefore (IsLeap d.year) d.month + (d.day - 1)

theorem leapYears_eq_of_leap {year : Int} (leap : IsLeap year) :
    leapYears year = leapYears (year - 1) + 1 := by
  unfold IsLeap at leap
  unfold leapYears
  omega

theorem leapYears_eq_of_not_leap {year : Int} (common : ¬ IsLeap year) :
    leapYears year = leapYears (year - 1) := by
  unfold IsLeap at common
  unfold leapYears
  omega

/-! ### Years of an era -/

/-- The year of an era of four centuries to which a day of it belongs. -/
def yearOfEra (day : Nat) : Nat := (day - day / 1460 + day / 36524 - day / 146096) / 365

/-- A day by its century, its span of four years in it, and its place in the span. -/
theorem yearOfEra_eq {century span place : Nat} (hc : century ≤ 3) (hs : span ≤ 24)
    (hp : place ≤ 1460) (last : span = 24 → place < 1460) :
    yearOfEra (36524 * century + 1461 * span + place) =
      100 * century + 4 * span + (if place = 1460 then 3 else place / 365) := by
  have short : 1461 * span + place < 36524 := by omega
  have centuries : (36524 * century + 1461 * span + place) / 36524 = century := by omega
  have eras : (36524 * century + 1461 * span + place) / 146096 = 0 := by omega
  -- Spans of 1460 days fall behind by a day in four years, which makes one span at most.
  obtain ⟨late, spans, behind⟩ : ∃ late, (36524 * century + 1461 * span + place) / 1460 =
      25 * century + span + late ∧ late = (24 * century + span + place) / 1460 := ⟨_, by omega, rfl⟩
  have few : late ≤ 1 ∧ (late = 0 → place < 1460) ∧ (late = 1 → 1364 ≤ place) := by omega
  have years : 36524 * century + 1461 * span + place - (25 * century + span + late) + century - 0 =
      365 * (100 * century + 4 * span) + (place - late) := by omega
  have within : (place - late) / 365 = if place = 1460 then 3 else place / 365 := by
    split <;> omega
  unfold yearOfEra
  rw [centuries, eras, spans, years, Nat.mul_add_div (by decide), within]

/-- The days of an era before a year of it. -/
def daysBeforeYear (year : Nat) : Nat := 365 * year + year / 4 - year / 100 + year / 400

theorem yearOfEra_spec {day : Nat} (h : day < 146097) :
    yearOfEra day < 400 ∧ daysBeforeYear (yearOfEra day) ≤ day ∧
      day < daysBeforeYear (yearOfEra day + 1) := by
  by_cases final : day = 146096
  · subst final
    decide
  obtain ⟨century, span, place, hc, hs, hp, last, rfl⟩ : ∃ century span place, century ≤ 3 ∧
      span ≤ 24 ∧ place ≤ 1460 ∧ (span = 24 → place < 1460) ∧
      day = 36524 * century + 1461 * span + place :=
    ⟨day / 36524, day % 36524 / 1461, day % 36524 % 1461, by omega, by omega, by omega, by omega,
      by omega⟩
  rw [yearOfEra_eq hc hs hp last]
  generalize year : (if place = 1460 then 3 else place / 365) = within
  have bounds : within ≤ 3 ∧ 365 * within ≤ place ∧ (within < 3 → place < 365 * (within + 1)) := by
    split at year <;> omega
  have quarters : (100 * century + 4 * span + within) / 4 = 25 * century + span := by omega
  have hundreds : (100 * century + 4 * span + within) / 100 = century := by omega
  have eras : (100 * century + 4 * span + within) / 400 = 0 := by omega
  unfold daysBeforeYear
  rw [quarters, hundreds, eras]
  refine ⟨by omega, by omega, ?_⟩
  by_cases early : within < 3
  · have quarters' : (100 * century + 4 * span + within + 1) / 4 = 25 * century + span := by omega
    have hundreds' : (100 * century + 4 * span + within + 1) / 100 = century := by omega
    omega
  · have quarters' : (100 * century + 4 * span + within + 1) / 4 = 25 * century + span + 1 := by
      omega
    by_cases full : span = 24
    · have hundreds' : (100 * century + 4 * span + within + 1) / 100 = century + 1 := by omega
      omega
    · have hundreds' : (100 * century + 4 * span + within + 1) / 100 = century := by omega
      omega

/-! ### Months -/

/-- A day of a year that begins in March, by its month and its day there. The last day of such a
year is there only if the next February has 29 days. -/
theorem month_spec : ∀ (leap : Bool) (day : Fin 366), (day.val = 365 → leap = true) →
    let place := (5 * day.val + 2) / 153
    let month := if place < 10 then place + 3 else place - 9
    let ofMonth := day.val - (153 * place + 2) / 5 + 1
    (1 ≤ month ∧ month ≤ 12) ∧ (1 ≤ ofMonth ∧ ofMonth ≤ monthLength leap month) ∧
      (place < 10 ↔ ¬ month ≤ 2) ∧
      daysBefore leap month + ofMonth + (if month ≤ 2 then 305 else 0) =
        day.val + (if month ≤ 2 then 0 else 60 + leap.toNat) := by
  decide +kernel

/-! ### Dates of days -/

theorem eraOfDay_spec (n : Int) :
    (eraOfDay n).2 < 146097 ∧ 146097 * (eraOfDay n).1 + (eraOfDay n).2 = n + 719468 := by
  unfold eraOfDay
  dsimp only
  rw [Int.fdiv_eq_ediv_of_nonneg _ (by decide), Int.fmod_eq_emod_of_nonneg _ (by decide)]
  omega

/-- The date of a day of a year that begins in March. -/
def ofMarchDay (year : Int) (day : Nat) : CivilDate :=
  let place := (5 * day + 2) / 153
  let month := if place < 10 then place + 3 else place - 9
  ⟨if month ≤ 2 then year + 1 else year, month, day - (153 * place + 2) / 5 + 1⟩

theorem ofMarchDay_spec {year : Int} {day : Nat} (short : day < 366)
    (last : day = 365 → IsLeap (year + 1)) :
    (ofMarchDay year day).IsValid ∧
      (ofMarchDay year day).dayNumber = 365 * year + leapYears year + day - 719468 := by
  have known : leapYears 1969 = 477 := rfl
  unfold ofMarchDay
  dsimp only
  by_cases place : (5 * day + 2) / 153 < 10
  · -- The month lies in the year that begins in March, and so does the leap day before it.
    have leap : day = 365 → decide (IsLeap year) = true := by
      rintro rfl
      exact absurd place (by decide)
    obtain ⟨inYear, inMonth, after, number⟩ := month_spec (IsLeap year) ⟨day, short⟩ leap
    have late := after.1 place
    simp only [if_neg late] at number ⊢
    refine ⟨⟨inYear, inMonth⟩, ?_⟩
    have count : leapYears year = leapYears (year - 1) + (decide (IsLeap year)).toNat := by
      by_cases leap : IsLeap year
      · simp [leapYears_eq_of_leap leap, leap]
      · simp [leapYears_eq_of_not_leap leap, leap]
    unfold dayNumber
    dsimp only
    omega
  · obtain ⟨inYear, inMonth, after, number⟩ :=
      month_spec (IsLeap (year + 1)) ⟨day, short⟩ fun h => decide_eq_true (last h)
    have early := Decidable.not_not.1 (mt after.2 place)
    simp only [if_pos early] at number ⊢
    refine ⟨⟨inYear, inMonth⟩, ?_⟩
    unfold dayNumber
    dsimp only
    rw [show year + 1 - 1 = year by omega]
    omega

theorem leapYears_era (year : Nat) (era : Int) :
    leapYears (year + era * 400) =
      (year / 4 : Nat) - (year / 100 : Nat) + (year / 400 : Nat) + 97 * era := by
  unfold leapYears
  omega

/-- The date of a day is in the calendar, and the day is its number. -/
theorem ofDay_spec (n : Int) : (ofDay n).IsValid ∧ (ofDay n).dayNumber = n := by
  obtain ⟨era, doe, here⟩ : ∃ era doe, eraOfDay n = (era, doe) := ⟨_, _, rfl⟩
  obtain ⟨within, whole⟩ := eraOfDay_spec n
  rw [here] at within whole
  dsimp only at within whole
  obtain ⟨short, since, until_⟩ := yearOfEra_spec within
  obtain ⟨yoe, hyoe⟩ : ∃ yoe, yoe = yearOfEra doe := ⟨_, rfl⟩
  rw [← hyoe] at short since until_
  have first : yoe / 400 = 0 := by omega
  have fewer : yoe / 100 ≤ yoe / 4 := by omega
  have leaps := leapYears_era yoe era
  have leaps' := leapYears_era (yoe + 1) era
  unfold daysBeforeYear at since until_
  obtain ⟨day, hday⟩ : ∃ day, day = doe - (365 * yoe + yoe / 4 - yoe / 100) := ⟨_, rfl⟩
  have date : ofDay n = ofMarchDay (yoe + era * 400) day := by
    rw [hday, hyoe]
    unfold ofDay
    rw [here]
    rfl
  have next : ((yoe + 1 : Nat) : Int) + era * 400 = yoe + era * 400 + 1 := by omega
  have grown : leapYears (yoe + era * 400 + 1) ≤ leapYears (yoe + era * 400) + 1 := by
    unfold leapYears
    omega
  rw [next] at leaps'
  have last : day = 365 → IsLeap (yoe + era * 400 + 1) := by
    intro last
    refine Decidable.byContradiction fun common => ?_
    have same := leapYears_eq_of_not_leap common
    rw [Int.add_sub_cancel] at same
    omega
  obtain ⟨valid, number⟩ := ofMarchDay_spec (by omega) last
  rw [date]
  refine ⟨valid, ?_⟩
  rw [number, leaps]
  omega

example : ofDay 11016 = ⟨2000, 2, 29⟩ := by decide

end ProvingGround.CivilDate
