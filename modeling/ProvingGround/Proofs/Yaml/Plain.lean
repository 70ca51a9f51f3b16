import ProvingGround.Proofs.Decimal.Notation
import ProvingGround.Yaml.Atom

/-!
# Plain scalars of numbers

A whole number written in decimal digits stands for itself and not for a number with a fraction, and
the JSON notation of a finite number stands for this number and not for a whole one, also where its
value is whole.
-/

namespace ProvingGround.Yaml.Atom

open Text

/-! ### Texts of numbers -/

/-- Characters that begin with a digit. -/
def DigitLed (cs : List Char) : Prop := ∃ c rest, cs = c :: rest ∧ isAsciiDigit c = true

/-- A text begins as a number does, with a digit behind at most a minus sign. -/
def beginsNumber : List Char → Bool
  | '-' :: c :: _ => isAsciiDigit c
  | c :: _ => isAsciiDigit c
  | [] => false

section Signed

variable {negative : Bool} {body : List Char}

theorem toList_signed : (Binary64.signed negative body).toList =
    if negative then '-' :: body else body := String.toList_ofList

theorem beginsNumber_signed (led : DigitLed body) :
    beginsNumber (Binary64.signed negative body).toList = true := by
  obtain ⟨c, rest, rfl, digit⟩ := led
  rw [toList_signed]
  cases negative with
  | true => exact digit
  | false =>
    simp only [Bool.false_eq_true, if_false]
    unfold beginsNumber
    split
    · next minus =>
      cases minus
      cases digit
    · next same =>
      cases same
      exact digit
    · next none => cases none

/-- A number is none of the words that stand for something else. -/
theorem signed_ne (led : DigitLed body) {word : String}
    (other : beginsNumber word.toList = false) : Binary64.signed negative body ≠ word := by
  rintro rfl
  rw [beginsNumber_signed led] at other
  cases other

theorem isEmpty_signed (led : DigitLed body) : (Binary64.signed negative body).isEmpty = false := by
  have some_ : Binary64.signed negative body ≠ "" := signed_ne led (by decide)
  exact Bool.eq_false_iff.2 fun none => some_ (String.isEmpty_iff.1 none)

theorem isNull_signed (led : DigitLed body) : isNull (Binary64.signed negative body) = false := by
  have small : Binary64.signed negative body ≠ "null" := signed_ne led (by decide)
  have titled : Binary64.signed negative body ≠ "Null" := signed_ne led (by decide)
  have capital : Binary64.signed negative body ≠ "NULL" := signed_ne led (by decide)
  have tilde : Binary64.signed negative body ≠ "~" := signed_ne led (by decide)
  simp [isNull, small, titled, capital, tilde]

theorem readBool_signed (led : DigitLed body) :
    readBool (Binary64.signed negative body) = none := by
  unfold readBool
  split
  all_goals first | rfl | (next word => exact absurd word (signed_ne led (by decide)))

variable (negative) in
theorem isZeroLed_signed (led : DigitLed body)
    (number : ∀ rest, body = '0' :: rest → rest = [] ∨ ∃ c ∈ rest, isAsciiDigit c = false) :
    isZeroLed (Binary64.signed negative body).toList = false := by
  obtain ⟨c, rest, rfl, digit⟩ := led
  have minus : isZeroLed ('-' :: c :: rest) = false := by
    unfold isZeroLed
    dsimp only
    split
    · next zero =>
      rcases number _ zero with rfl | ⟨d, inside, other⟩
      · rfl
      · rw [List.all_eq_false.2 ⟨d, inside, by simp [other]⟩, Bool.and_false]
    · rfl
  rw [toList_signed]
  cases negative with
  | true => exact minus
  | false =>
    have plain : isZeroLed (c :: rest) = isZeroLed ('-' :: c :: rest) := by
      unfold isZeroLed
      split
      · next sign =>
        cases sign
        cases digit
      · next sign =>
        cases sign
        cases digit
      · rfl
    exact plain.trans minus

end Signed

/-! ### Whole numbers -/

theorem digitIn?_digit {c : Char} (digit : isAsciiDigit c = true) :
    digitIn? 10 c = some (digitValue c) := by
  simp only [isAsciiDigit, Bool.and_eq_true, decide_eq_true_eq] at digit
  have value : hexValue? c = some (digitValue c) := by
    rw [hexValue?, if_pos digit]
    rfl
  have below : digitValue c < 10 := by
    unfold digitValue
    omega
  rw [digitIn?, value, Option.filter_some_pos (by simpa using below)]

theorem mapM_digitIn?_digits {cs : List Char} (digits : AllDigits cs) :
    cs.mapM (digitIn? 10) = some (cs.map digitValue) := by
  induction cs with
  | nil => rfl
  | cons c cs ih =>
    obtain ⟨first, rest⟩ := allDigits_cons.1 digits
    rw [List.mapM_cons, digitIn?_digit first, ih rest]
    rfl

theorem readBase_toDigits (n : Nat) : readBase 10 (Nat.toDigits 10 n) = some n := by
  have some_ : (Nat.toDigits 10 n).isEmpty = false :=
    List.isEmpty_eq_false_iff.2 Nat.toDigits_ne_nil
  have value : (Nat.toDigits 10 n).foldl (fun n c => n * 10 + digitValue c) 0 = n := by
    have turned : (fun n c => n * 10 + digitValue c) = fun n c => 10 * n + digitValue c := by
      funext n c
      rw [Nat.mul_comm]
    rw [turned]
    exact digitsValue_toDigits n
  simp only [readBase, some_, mapM_digitIn?_digits (allDigits_toDigits n), Option.map_some,
    List.foldl_map, value]
  rfl

theorem splitBase_toDigits (n : Nat) : splitBase (Nat.toDigits 10 n) = none := by
  unfold splitBase
  split
  all_goals
    first
    | rfl
    | (next digits => exact absurd (toDigits_eq_zero_cons digits).2 (List.cons_ne_nil _ _))

theorem readMagnitude_toDigits (n : Nat) : readMagnitude (Nat.toDigits 10 n) = some n := by
  rw [readMagnitude, splitBase_toDigits]
  exact readBase_toDigits n

theorem digitIn?_eq_none {c : Char} (other : c = '-' ∨ c = '.' ∨ c = 'e') :
    digitIn? 10 c = none := by
  rcases other with rfl | rfl | rfl <;> rfl

/-- A character that is no digit spoils a run of digits. -/
theorem readMagnitude_eq_none {cs : List Char} (based : splitBase cs = none) {c : Char}
    (inside : c ∈ cs) (other : digitIn? 10 c = none) : readMagnitude cs = none := by
  have spoilt : cs.mapM (digitIn? 10) = none := by
    clear based
    induction cs with
    | nil => cases inside
    | cons d cs ih =>
      rw [List.mapM_cons]
      rcases List.mem_cons.1 inside with rfl | inside
      · rw [other]
        rfl
      · rw [ih inside]
        cases digitIn? 10 d <;> rfl
  simp only [readMagnitude, based, readBase, spoilt]
  split <;> rfl

/-! ### Signed whole numbers -/

section Magnitudes

variable {body : List Char} (led : DigitLed body)
  (number : ∀ rest, body = '0' :: rest → rest = [] ∨ ∃ c ∈ rest, isAsciiDigit c = false)
include led number

theorem readUnsigned_plus (limit : Nat) :
    readUnsigned limit (Binary64.signed false body) = (readMagnitude body).filter (· < limit) := by
  have zero := isZeroLed_signed false led number
  obtain ⟨c, rest, rfl, digit⟩ := led
  have list : (Binary64.signed false (c :: rest)).toList = c :: rest := toList_signed
  rw [list] at zero
  simp only [readUnsigned, list, zero, Bool.false_eq_true, if_false]
  split
  · next plus =>
    cases plus
    cases digit
  · rfl

omit led number in
theorem readUnsigned_minus (limit : Nat) :
    readUnsigned limit (Binary64.signed true body) = none := by
  have list : (Binary64.signed true body).toList = '-' :: body := toList_signed
  have none_ : readMagnitude ('-' :: body) = none :=
    readMagnitude_eq_none rfl List.mem_cons_self (digitIn?_eq_none (.inl rfl))
  simp only [readUnsigned, list]
  split
  · rfl
  · show (readMagnitude ('-' :: body)).filter _ = none
    rw [none_, Option.filter_none]

omit number in
theorem readNegative_plus (limit : Nat) :
    readNegative limit (Binary64.signed false body) = none := by
  obtain ⟨c, rest, rfl, digit⟩ := led
  have list : (Binary64.signed false (c :: rest)).toList = c :: rest := toList_signed
  simp only [readNegative, list]
  split
  · next minus =>
    cases minus
    cases digit
  · rfl

theorem readNegative_minus (limit : Nat) : readNegative limit (Binary64.signed true body) =
    ((readMagnitude body).filter (· ≤ limit)).map fun n => -(n : Int) := by
  have zero := isZeroLed_signed true led number
  have list : (Binary64.signed true body).toList = '-' :: body := toList_signed
  rw [list] at zero
  simp only [readNegative, list, zero, Bool.false_eq_true, if_false]

end Magnitudes

/-! ### Written whole numbers -/

theorem toString_int (n : Int) :
    toString n = Binary64.signed (n < 0) (Nat.toDigits 10 n.natAbs) := by
  refine String.toList_inj.1 ?_
  rw [toList_signed]
  by_cases minus : n < 0
  · obtain ⟨k, rfl⟩ : ∃ k : Nat, n = -(k : Int) := ⟨n.natAbs, by omega⟩
    rw [toList_toString_neg (by omega), Int.natAbs_neg, Int.natAbs_natCast,
      if_pos (decide_eq_true minus)]
  · obtain ⟨k, rfl⟩ := Int.eq_ofNat_of_zero_le (Int.not_lt.1 minus)
    rw [toList_toString_natCast, Int.natAbs_natCast, if_neg (by simp)]

theorem toDigits_zero_cons (n : Nat) (rest : List Char) (h : Nat.toDigits 10 n = '0' :: rest) :
    rest = [] ∨ ∃ c ∈ rest, isAsciiDigit c = false := .inl (toDigits_eq_zero_cons h).2

theorem readUnsigned_natural {n limit : Nat} (below : n < limit) :
    readUnsigned limit (toString (n : Int)) = some n := by
  have plus : decide ((n : Int) < 0) = false := by simp
  rw [toString_int, plus, Int.natAbs_natCast,
    readUnsigned_plus (exists_toDigits_cons n) (toDigits_zero_cons n), readMagnitude_toDigits,
    Option.filter_some_pos (by simpa using below)]

section Negative

variable {n limit : Nat} (positive : 0 < n)
include positive

theorem toString_negative : toString (-(n : Int)) = Binary64.signed true (Nat.toDigits 10 n) := by
  have minus : decide (-(n : Int) < 0) = true := decide_eq_true (by omega)
  rw [toString_int, minus, Int.natAbs_neg, Int.natAbs_natCast]

theorem readUnsigned_negative (limit : Nat) :
    readUnsigned limit (toString (-(n : Int))) = none := by
  rw [toString_negative positive, readUnsigned_minus]

theorem readNegative_negative (within : n ≤ limit) :
    readNegative limit (toString (-(n : Int))) = some (-(n : Int)) := by
  rw [toString_negative positive,
    readNegative_minus (exists_toDigits_cons n) (toDigits_zero_cons n), readMagnitude_toDigits,
    Option.filter_some_pos (by simpa using within)]
  rfl

end Negative

/-- The meaning of a whole number of 64 bits. -/
def whole (n : Int) : Atom := if n < 0 then signed n else unsigned n.toNat

theorem readInteger_toString {n : Int} (low : -(Word.count 63 : Int) ≤ n)
    (high : n < Word.count 64) : readInteger (toString n) = some (whole n) := by
  by_cases minus : n < 0
  · obtain ⟨k, rfl⟩ : ∃ k : Nat, n = -(k : Int) := ⟨n.natAbs, by omega⟩
    rw [readInteger, readUnsigned_negative (by omega), readNegative_negative (by omega) (by omega),
      whole, if_pos minus]
    rfl
  · obtain ⟨k, rfl⟩ := Int.eq_ofNat_of_zero_le (Int.not_lt.1 minus)
    rw [readInteger, readUnsigned_natural (by omega), whole, if_neg minus]
    rfl

/-- A whole number with or without a sign stands for itself. -/
theorem ofPlain_toString {n : Int} (low : -(Word.count 63 : Int) ≤ n) (high : n < Word.count 64) :
    ofPlain (toString n) = whole n := by
  have led := exists_toDigits_cons n.natAbs
  have integer := readInteger_toString low high
  rw [toString_int] at integer ⊢
  simp only [ofPlain, isEmpty_signed led, isNull_signed led, readBool_signed led, integer]
  rfl

theorem readSigned_toString {n : Int} (word : Word.Signed 64 n) :
    readSigned (toString n) = some n := by
  obtain ⟨low, high⟩ : -(Word.count 63 : Int) ≤ n ∧ n < Word.count 63 := word
  by_cases minus : n < 0
  · obtain ⟨k, rfl⟩ : ∃ k : Nat, n = -(k : Int) := ⟨n.natAbs, by omega⟩
    rw [readSigned, readUnsigned_negative (by omega), readNegative_negative (by omega) (by omega)]
    rfl
  · obtain ⟨k, rfl⟩ := Int.eq_ofNat_of_zero_le (Int.not_lt.1 minus)
    rw [readSigned, readUnsigned_natural (by omega)]
    rfl

/-! ### Numbers with a point or an exponent -/

section Fractions

open Binary64 (Fractional)

variable {negative : Bool} {body : List Char} (fractional : Fractional body)
include fractional

theorem digitLed_fractional : DigitLed body := by
  obtain ⟨ds, c, rest, some_, digits, -, rfl⟩ := fractional
  obtain ⟨d, ds, rfl⟩ := List.exists_cons_of_ne_nil some_
  exact ⟨d, ds ++ c :: rest, rfl, digits d List.mem_cons_self⟩

theorem fractional_zero_cons (rest : List Char) (h : body = '0' :: rest) :
    rest = [] ∨ ∃ c ∈ rest, isAsciiDigit c = false := by
  obtain ⟨ds, c, tail, some_, -, sort, rfl⟩ := fractional
  obtain ⟨d, ds, rfl⟩ := List.exists_cons_of_ne_nil some_
  injection h with _ rest_
  refine .inr ⟨c, rest_ ▸ List.mem_append_right ds List.mem_cons_self, ?_⟩
  rcases sort with rfl | rfl <;> rfl

/-- No letter that announces a base stands behind a zero at the beginning. -/
theorem splitBase_fractional : splitBase body = none := by
  obtain ⟨ds, c, tail, some_, digits, sort, rfl⟩ := fractional
  obtain ⟨d, ds, rfl⟩ := List.exists_cons_of_ne_nil some_
  have second : ∃ e rest, ds ++ c :: tail = e :: rest ∧
      (isAsciiDigit e = true ∨ e = '.' ∨ e = 'e') := by
    cases ds with
    | nil => exact ⟨c, tail, rfl, .inr sort⟩
    | cons e ds =>
      exact ⟨e, ds ++ c :: tail, rfl,
        .inl (digits e (List.mem_cons_of_mem d List.mem_cons_self))⟩
  obtain ⟨e, rest, next_, kind⟩ := second
  rw [List.cons_append, next_]
  unfold splitBase
  split
  all_goals
    first
    | rfl
    | (next letter =>
        injection letter with _ letter
        injection letter with letter _
        subst letter
        rcases kind with digit | point | power
        · cases digit
        · cases point
        · cases power)

theorem readMagnitude_fractional : readMagnitude body = none := by
  have based := splitBase_fractional fractional
  obtain ⟨ds, c, tail, -, -, sort, rfl⟩ := fractional
  exact readMagnitude_eq_none based (List.mem_append_right ds List.mem_cons_self)
    (digitIn?_eq_none (.inr sort))

theorem readInteger_fractional : readInteger (Binary64.signed negative body) = none := by
  have led := digitLed_fractional fractional
  have number := fractional_zero_cons fractional
  have magnitude := readMagnitude_fractional fractional
  cases negative with
  | false =>
    simp only [readInteger, readUnsigned_plus led number, readNegative_plus led, magnitude]
    rfl
  | true =>
    simp only [readInteger, readUnsigned_minus, readNegative_minus led number, magnitude]
    rfl

theorem readFloat_fractional {x : Binary64}
    (value : Binary64.readUnsigned negative body = some x) (finite : x.isFinite = true) :
    readFloat (Binary64.signed negative body) = some x := by
  have read := Binary64.read?_signed negative fractional
  have led := digitLed_fractional fractional
  obtain ⟨c, rest, list, solid⟩ : ∃ c rest,
      (Binary64.signed negative body).toList = c :: rest ∧ c ≠ '+' := by
    rw [toList_signed]
    obtain ⟨c, rest, rfl, digit⟩ := led
    cases negative with
    | true => exact ⟨'-', c :: rest, rfl, by decide⟩
    | false =>
      refine ⟨c, rest, rfl, ?_⟩
      rintro rfl
      cases digit
  unfold readFloat
  rw [list]
  split
  · next plus => exact absurd (List.cons.inj plus).1 solid
  · next plus => exact absurd (List.cons.inj plus).1 solid
  · next plus => exact absurd (List.cons.inj plus).1 solid
  · -- no spelling of an infinity or of NaN begins as a number does
    have word (a b c : String) (small : beginsNumber a.toList = false)
        (titled : beginsNumber b.toList = false) (capital : beginsNumber c.toList = false) :
        (Binary64.signed negative body == a || Binary64.signed negative body == b ||
          Binary64.signed negative body == c) = false := by
      rw [beq_eq_false_iff_ne.2 (signed_ne led small), beq_eq_false_iff_ne.2 (signed_ne led titled),
        beq_eq_false_iff_ne.2 (signed_ne led capital)]
      rfl
    have infinity := word ".inf" ".Inf" ".INF" (by decide) (by decide) (by decide)
    have minus := word "-.inf" "-.Inf" "-.INF" (by decide) (by decide) (by decide)
    have nan := word ".nan" ".NaN" ".NAN" (by decide) (by decide) (by decide)
    simp only [infinity, minus, nan, Bool.false_eq_true, if_false, read, value]
    exact Option.filter_some_pos finite

end Fractions

/-- The JSON notation of a finite number stands for the number. -/
theorem ofPlain_json? {x : Binary64} {s : String} (written : x.json? = some s) :
    ofPlain s = float x := by
  cases x with
  | nan => cases written
  | infinite negative => cases written
  | finite negative index =>
    obtain ⟨body, form, fractional, value⟩ := Binary64.json?_finite negative index
    rw [form] at written
    cases written
    have led := digitLed_fractional fractional
    have zero := isZeroLed_signed negative led (fractional_zero_cons fractional)
    have float_ := readFloat_fractional fractional value rfl
    simp only [ofPlain, isEmpty_signed led, isNull_signed led, readBool_signed led,
      readInteger_fractional fractional, zero, float_]
    rfl

end ProvingGround.Yaml.Atom
