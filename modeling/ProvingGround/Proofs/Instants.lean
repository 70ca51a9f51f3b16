import ProvingGround.Proofs.Calendar
import ProvingGround.Proofs.Decimal.Notation
import ProvingGround.Time.Timestamp

/-!
# Instants and what is written of them

The text of an instant is a date of the calendar and a time of the day, digit by digit. Read by the
rules of the calendar it is so many nanoseconds after the beginning of 1970, and these are those of
the instant. No text is that of two instants.
-/

namespace ProvingGround

open Text

/-! ### Texts of times -/

/-- So many digits, which say a number. -/
structure Field (width n : Nat) (s : String) : Prop where
  width : s.toList.length = width
  digits : AllDigits s.toList
  value : digitsValue s.toList = n

/-- A year of four characters at least, one of which may be a sign. -/
inductive YearField : Int → String → Prop where
  | from_ {width n s} (field : Field width n s) (wide : 4 ≤ width) : YearField n s
  | before {width n s} (field : Field width n s) (wide : 3 ≤ width) : YearField (-n) ("-" ++ s)

/-- Nanoseconds as the fraction of a second, of at most nine digits; none is nothing. -/
inductive FractionField : Nat → String → Prop where
  | none : FractionField 0 ""
  | some {width n s} (field : Field width n s) (few : 1 ≤ width ∧ width ≤ 9) :
    FractionField (n * 10 ^ (9 - width)) ("." ++ s)

/-- A date with a time of the day. -/
structure Moment where
  date : CivilDate
  hour : Nat
  minute : Nat
  second : Nat
  nano : Nat

namespace Moment

structure IsValid (m : Moment) : Prop where
  date : m.date.IsValid
  hour : m.hour < 24
  minute : m.minute < 60
  second : m.second < 60
  nano : m.nano < 1000000000

/-- The nanoseconds from the beginning of 1970. -/
def nanos (m : Moment) : Int :=
  (((m.date.dayNumber * 24 + m.hour) * 60 + m.minute) * 60 + m.second) * 1000000000 + m.nano

/-- The text in the form of RFC 3339, in universal time. -/
inductive Written (m : Moment) : String → Prop where
  | fields {year month day hour minute second fraction} (year_ : YearField m.date.year year)
    (month_ : Field 2 m.date.month month) (day_ : Field 2 m.date.day day)
    (hour_ : Field 2 m.hour hour) (minute_ : Field 2 m.minute minute)
    (second_ : Field 2 m.second second) (fraction_ : FractionField m.nano fraction) :
    Written m (year ++ "-" ++ month ++ "-" ++ day ++ "T" ++ hour ++ ":" ++ minute ++ ":" ++
      second ++ fraction ++ "Z")

/-- The date alone, with points. -/
inductive Dated (m : Moment) : String → Prop where
  | fields {year month day} (year_ : YearField m.date.year year)
    (month_ : Field 2 m.date.month month) (day_ : Field 2 m.date.day day) :
    Dated m (year ++ "." ++ month ++ "." ++ day)

end Moment

namespace Timestamp

/-- The text is that of an instant, in universal time. -/
def Denotes (t : Timestamp) (s : String) : Prop :=
  ∃ m : Moment, m.IsValid ∧ m.Written s ∧ m.nanos = t.nanos

/-- The text is that of the date of an instant, in universal time, as log indices carry it. -/
def DateDenotes (t : Timestamp) (s : String) : Prop :=
  ∃ m : Moment, m.IsValid ∧ m.Dated s ∧ m.nanos = t.nanos

end Timestamp

/-! ### One text, one instant -/

theorem Field.unique {width width' n m : Nat} {s : String} (a : Field width n s)
    (b : Field width' m s) : width = width' ∧ n = m :=
  ⟨a.width.symm.trans b.width, a.value.symm.trans b.value⟩

theorem Field.append_inj {width n m : Nat} {s t : String} {rest rest' : List Char}
    (a : Field width n s) (b : Field width m t)
    (same : s.toList ++ rest = t.toList ++ rest') : n = m ∧ rest = rest' := by
  obtain ⟨front, back⟩ := List.append_inj same (a.width.trans b.width.symm)
  rw [String.toList_inj.1 front] at a
  exact ⟨(a.unique b).2, back⟩

/-- Digits of any number end where something else follows. -/
theorem digits_append_inj {ds es rest rest' : List Char} (a : AllDigits ds) (b : AllDigits es)
    (stop : Binary64.Stops rest) (stop' : Binary64.Stops rest') (same : ds ++ rest = es ++ rest') :
    ds = es ∧ rest = rest' := by
  have front := congrArg (List.takeWhile isAsciiDigit) same
  have back := congrArg (List.dropWhile isAsciiDigit) same
  rw [Binary64.takeWhile_digits a stop, Binary64.takeWhile_digits b stop'] at front
  rw [Binary64.dropWhile_digits a stop, Binary64.dropWhile_digits b stop'] at back
  exact ⟨front, back⟩

theorem Field.not_cons_minus {width n : Nat} {s : String} (a : Field width n s) (wide : 4 ≤ width)
    {rest rest' : List Char} : s.toList ++ rest ≠ '-' :: rest' := by
  intro same
  have width := a.width
  have digits := a.digits
  cases text : s.toList with
  | nil =>
    rw [text, List.length_nil] at width
    omega
  | cons c cs =>
    rw [text] at same digits
    rw [(List.cons.inj same).1] at digits
    exact absurd (digits '-' List.mem_cons_self) (by decide)

theorem stops_minus (rest : List Char) : Binary64.Stops ('-' :: rest) := by
  rintro _ ⟨⟩
  rfl

theorem YearField.append_inj {y z : Int} {s t : String} {rest rest' : List Char}
    (a : YearField y s) (b : YearField z t)
    (same : s.toList ++ '-' :: rest = t.toList ++ '-' :: rest') : y = z ∧ rest = rest' := by
  have between {width width' n m : Nat} {s t : String} (a : Field width n s) (b : Field width' m t)
      (same : s.toList ++ '-' :: rest = t.toList ++ '-' :: rest') : n = m ∧ rest = rest' := by
    obtain ⟨front, back⟩ :=
      digits_append_inj a.digits b.digits (stops_minus _) (stops_minus _) same
    rw [String.toList_inj.1 front] at a
    exact ⟨(a.unique b).2, List.tail_eq_of_cons_eq back⟩
  cases a with
  | from_ a wide =>
    cases b with
    | from_ b _ =>
      obtain ⟨value, back⟩ := between a b same
      exact ⟨congrArg _ value, back⟩
    | before b _ =>
      rw [String.toList_append] at same
      exact absurd same (a.not_cons_minus wide)
  | before a _ =>
    cases b with
    | from_ b wide =>
      rw [String.toList_append] at same
      exact absurd same.symm (b.not_cons_minus wide)
    | before b _ =>
      rw [String.toList_append, String.toList_append] at same
      obtain ⟨value, back⟩ := between a b (List.tail_eq_of_cons_eq same)
      exact ⟨congrArg _ (congrArg _ value), back⟩

theorem FractionField.unique {n m : Nat} {s t : String} (a : FractionField n s)
    (b : FractionField m t) (same : s = t) : n = m := by
  have point (s : String) : "" ≠ "." ++ s := fun same => by
    have none := congrArg String.toList same
    rw [String.toList_append] at none
    exact List.cons_ne_nil _ _ none.symm
  cases a with
  | none =>
    cases b with
    | none => rfl
    | some => exact absurd same (point _)
  | some a _ =>
    cases b with
    | none => exact absurd same.symm (point _)
    | some b _ =>
      have text := congrArg String.toList same
      rw [String.toList_append, String.toList_append] at text
      rw [String.toList_inj.1 (List.append_cancel_left text)] at a
      obtain ⟨rfl, rfl⟩ := a.unique b
      rfl

namespace Moment

theorem Written.unique {m m' : Moment} {s s' : String} (a : m.Written s) (b : m'.Written s')
    (same : s = s') : m = m' := by
  obtain ⟨year, month, day, hour, minute, second, fraction⟩ := a
  obtain ⟨year', month', day', hour', minute', second', fraction'⟩ := b
  have text := congrArg String.toList same
  simp only [String.toList_append, List.append_assoc] at text
  obtain ⟨year_, text⟩ := year.append_inj year' text
  obtain ⟨month_, text⟩ := month.append_inj month' text
  obtain ⟨day_, text⟩ := day.append_inj day' (List.append_cancel_left text)
  obtain ⟨hour_, text⟩ := hour.append_inj hour' (List.append_cancel_left text)
  obtain ⟨minute_, text⟩ := minute.append_inj minute' (List.append_cancel_left text)
  obtain ⟨second_, text⟩ := second.append_inj second' (List.append_cancel_left text)
  have nano_ := fraction.unique fraction' (String.toList_inj.1 (List.append_cancel_right text))
  rcases m with ⟨⟨y, mo, d⟩, h, mi, sec, n⟩
  rcases m' with ⟨⟨y', mo', d'⟩, h', mi', sec', n'⟩
  dsimp only at year_ month_ day_ hour_ minute_ second_ nano_
  rw [year_, month_, day_, hour_, minute_, second_, nano_]

end Moment

/-- A text is that of one instant at most. -/
theorem Timestamp.Denotes.unique {t u : Timestamp} {s : String} (a : t.Denotes s)
    (b : u.Denotes s) : t = u := by
  obtain ⟨m, -, written, nanos⟩ := a
  obtain ⟨m', -, written', nanos'⟩ := b
  have one := written.unique written' rfl
  have same : t.nanos = u.nanos := by rw [← nanos, ← nanos', one]
  exact congrArg Timestamp.mk same

/-! ### Fields -/

namespace Timestamp

theorem toList_padded (width n : Nat) : (padded width n).toList =
    List.replicate (width - (Nat.toDigits 10 n).length) '0' ++ Nat.toDigits 10 n := by
  unfold padded
  have digits : (toString n).toList = Nat.toDigits 10 n := Nat.toList_repr
  have length : (toString n).length = (Nat.toDigits 10 n).length := by
    rw [← digits]
    rfl
  rw [String.toList_append, String.toList_ofList, digits, length]

theorem field_padded (width n : Nat) :
    Field (max width (Nat.toDigits 10 n).length) n (padded width n) where
  width := by
    rw [toList_padded, List.length_append, List.length_replicate]
    omega
  digits := by
    rw [toList_padded]
    exact allDigits_append.2 ⟨allDigits_zeros _, allDigits_toDigits n⟩
  value := by rw [toList_padded, digitsValue_zeros_append, digitsValue_toDigits]

theorem field_padded_two {n : Nat} (short : n < 100) : Field 2 n (padded 2 n) := by
  have field := field_padded 2 n
  have length := (Nat.length_toDigits_le_iff (b := 10) (k := 2) (by decide) (by decide)).2 short
  rwa [Nat.max_eq_left length] at field

theorem yearField_from {year : Int} (from_ : 0 ≤ year) :
    YearField year (padded 4 year.natAbs) := by
  have given := YearField.from_ (field_padded 4 year.natAbs) (Nat.le_max_left _ _)
  rwa [show (year.natAbs : Int) = year by omega] at given

theorem yearField_before {year : Int} {width : Nat} (before : year < 0) (wide : 3 ≤ width) :
    YearField year ("-" ++ padded width year.natAbs) := by
  have given := YearField.before (field_padded width year.natAbs)
    (Nat.le_trans wide (Nat.le_max_left _ _))
  rwa [show -(year.natAbs : Int) = year by omega] at given

theorem yearField_yearText (year : Int) : YearField year (yearText year) := by
  unfold yearText
  split
  next before =>
    exact yearField_before before (by decide)
  next from_ => exact yearField_from (by omega)

theorem yearField_indexYear (year : Int) : YearField year (indexYear year) := by
  unfold indexYear
  split
  next before => exact yearField_before before (by decide)
  next from_ => exact yearField_from (by omega)

/-- Of the nine digits of the nanoseconds, those that are left without zeros at the end. -/
theorem fractionField_fractionDigits {n : Nat} (some_ : n ≠ 0) (short : n < 1000000000) :
    FractionField n ("." ++ String.ofList (Duration.fractionDigits 9 n)) := by
  have nine := (field_padded 9 n).width
  have digits := (field_padded 9 n).digits
  have value := (field_padded 9 n).value
  have length := (Nat.length_toDigits_le_iff (b := 10) (k := 9) (by decide) (by decide)).2 short
  rw [Nat.max_eq_left length] at nine
  have kept : Duration.fractionDigits 9 n = Binary64.trimZeros (padded 9 n).toList := by
    rw [toList_padded]
    rfl
  obtain ⟨k, whole⟩ := Binary64.exists_trimZeros (padded 9 n).toList
  rw [kept]
  generalize Binary64.trimZeros (padded 9 n).toList = ds at whole
  rw [whole, List.length_append, List.length_replicate] at nine
  rw [whole] at digits
  rw [whole, digitsValue_append_zeros] at value
  have some_ds : 1 ≤ ds.length := by
    refine List.length_pos_iff.2 fun none => some_ ?_
    rw [← value, none]
    exact Nat.zero_mul _
  have field : Field ds.length (digitsValue ds) (String.ofList ds) := by
    refine ⟨?_, ?_, ?_⟩ <;> rw [String.toList_ofList]
    exact (allDigits_append.1 digits).1
  have given := FractionField.some field ⟨some_ds, by omega⟩
  rwa [show 9 - ds.length = k by omega, value] at given

/-! ### Instants -/

/-- The date and the time of the day of an instant. -/
def moment (t : Timestamp) : Moment where
  date := t.date
  hour := t.secondOfDay / 3600
  minute := t.secondOfDay / 60 % 60
  second := t.secondOfDay % 60
  nano := t.subsecond

theorem secondOfDay_lt (t : Timestamp) : t.secondOfDay < 86400 := by
  unfold secondOfDay
  rw [Int.fmod_eq_emod_of_nonneg _ (by decide)]
  omega

theorem subsecond_lt (t : Timestamp) : t.subsecond < 1000000000 := by
  unfold subsecond
  rw [Int.fmod_eq_emod_of_nonneg _ (by decide)]
  omega

theorem moment_isValid (t : Timestamp) : t.moment.IsValid where
  date := (CivilDate.ofDay_spec _).1
  hour := Nat.div_lt_of_lt_mul t.secondOfDay_lt
  minute := Nat.mod_lt _ (by decide)
  second := Nat.mod_lt _ (by decide)
  nano := t.subsecond_lt

theorem nanos_moment (t : Timestamp) : t.moment.nanos = t.nanos := by
  have day : t.date.dayNumber = t.nanos / (86400 * 1000000000) := by
    unfold date
    rw [(CivilDate.ofDay_spec _).2, Int.fdiv_eq_ediv_of_nonneg _ (by decide)]
  have time : (t.secondOfDay : Int) = t.nanos / 1000000000 % 86400 := by
    unfold secondOfDay
    rw [Int.fdiv_eq_ediv_of_nonneg _ (by decide), Int.fmod_eq_emod_of_nonneg _ (by decide)]
    omega
  have beyond : (t.subsecond : Int) = t.nanos % 1000000000 := by
    unfold subsecond
    rw [Int.fmod_eq_emod_of_nonneg _ (by decide)]
    omega
  show (((t.date.dayNumber * 24 + (t.secondOfDay / 3600 : Nat)) * 60 +
    (t.secondOfDay / 60 % 60 : Nat)) * 60 + (t.secondOfDay % 60 : Nat)) * 1000000000 +
      (t.subsecond : Int) = t.nanos
  omega

theorem date_written (t : Timestamp) :
    Field 2 t.date.month (padded 2 t.date.month) ∧ Field 2 t.date.day (padded 2 t.date.day) := by
  obtain ⟨month, day⟩ := t.moment_isValid.date
  have long : CivilDate.monthLength (CivilDate.IsLeap t.date.year) t.date.month ≤ 31 := by
    unfold CivilDate.monthLength
    repeat' split
    all_goals decide
  have early : t.date.month < 100 := Nat.lt_of_le_of_lt month.2 (by decide)
  have short : t.date.day < 100 :=
    Nat.lt_of_le_of_lt (Nat.le_trans day.2 long) (by decide)
  exact ⟨field_padded_two early, field_padded_two short⟩

theorem text_written (t : Timestamp) : t.moment.Written t.text := by
  have valid := t.moment_isValid
  obtain ⟨month, day⟩ := t.date_written
  have hour := field_padded_two (Nat.lt_trans valid.hour (by decide))
  have minute := field_padded_two (Nat.lt_trans valid.minute (by decide))
  have second := field_padded_two (Nat.lt_trans valid.second (by decide))
  refine .fields (yearField_yearText _) month day hour minute second ?_
  split
  next whole =>
    have none : t.moment.nano = 0 := whole
    rw [none]
    exact .none
  next some_ => exact fractionField_fractionDigits some_ t.subsecond_lt

/-- What is written of an instant says it. -/
theorem denotes_text (t : Timestamp) : t.Denotes t.text :=
  ⟨t.moment, t.moment_isValid, t.text_written, t.nanos_moment⟩

theorem dateDenotes_indexDate (t : Timestamp) : t.DateDenotes t.indexDate := by
  obtain ⟨month, day⟩ := t.date_written
  exact ⟨t.moment, t.moment_isValid, .fields (yearField_indexYear _) month day, t.nanos_moment⟩

end Timestamp

end ProvingGround
