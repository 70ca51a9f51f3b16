import Mathlib.Data.List.Basic
import Mathlib.Data.List.TakeWhile
import ProvingGround.Decimal.Notation
import ProvingGround.Proofs.Decimal.Numerals
import ProvingGround.Proofs.Decimal.Rounding

/-!
# Written numbers are read back

Both ways to write digits, with the point among them and with an exponent, are read as the same
decimal number. The notation of JSON documents writes the shortest digits in one of them, so that
each finite number is read back from it. The plain notation is always the first of the two.
-/

namespace ProvingGround.Binary64

open Text

/-! ### Parts of a number -/

/-- What stops a run of digits. -/
def Stops (rest : List Char) : Prop := ∀ c ∈ rest.head?, isAsciiDigit c = false

theorem takeWhile_digits {ds rest : List Char} (digits : AllDigits ds) (stop : Stops rest) :
    (ds ++ rest).takeWhile isAsciiDigit = ds := by
  rw [List.takeWhile_append_of_pos digits]
  cases rest with
  | nil => exact List.append_nil ds
  | cons c rest =>
    rw [List.takeWhile_cons_of_neg (by simp [stop c rfl]), List.append_nil]

theorem dropWhile_digits {ds rest : List Char} (digits : AllDigits ds) (stop : Stops rest) :
    (ds ++ rest).dropWhile isAsciiDigit = rest := by
  rw [List.dropWhile_append_of_pos digits]
  cases rest with
  | nil => rfl
  | cons c rest => exact List.dropWhile_cons_of_neg (by simp [stop c rfl])

theorem splitPoint_pointed {whole fraction rest : List Char} (before : AllDigits whole)
    (behind : AllDigits fraction) (stop : Stops rest) :
    splitPoint (whole ++ '.' :: (fraction ++ rest)) = (whole, fraction, rest) := by
  have point : Stops ('.' :: (fraction ++ rest)) := by
    rintro _ ⟨⟩
    rfl
  simp only [splitPoint, takeWhile_digits before point, dropWhile_digits before point,
    takeWhile_digits behind stop, dropWhile_digits behind stop]

theorem splitPoint_power {whole : List Char} (before : AllDigits whole) (rest : List Char) :
    splitPoint (whole ++ 'e' :: rest) = (whole, [], 'e' :: rest) := by
  have power : Stops ('e' :: rest) := by
    rintro _ ⟨⟩
    rfl
  simp only [splitPoint, takeWhile_digits before power, dropWhile_digits before power]
  rfl

theorem splitSign_digit {cs : List Char} (some_ : cs ≠ []) (digits : AllDigits cs)
    (rest : List Char) :
    splitSign (cs ++ rest) = (false, cs ++ rest) := by
  obtain ⟨c, cs, rfl⟩ := List.exists_cons_of_ne_nil some_
  have digit := digits c List.mem_cons_self
  rw [List.cons_append]
  unfold splitSign
  split
  · next minus =>
    injection minus with first _
    rw [first] at digit
    cases digit
  · next plus =>
    injection plus with first _
    rw [first] at digit
    cases digit
  · rfl

theorem readExponent_power (n : Int) : readExponent ('e' :: (toString n).toList) = some n := by
  have sign : (('e' : Char) == 'e' || ('e' : Char) == 'E') = true := rfl
  obtain ⟨k, rfl | rfl⟩ := n.eq_nat_or_neg
  · have some_ : Nat.toDigits 10 k ≠ [] := Nat.toDigits_ne_nil
    have plain := splitSign_digit some_ (allDigits_toDigits k) []
    rw [List.append_nil] at plain
    simp only [readExponent, sign, if_true, toList_toString_natCast, plain, readDigits_toDigits]
    rfl
  · by_cases zero : k = 0
    · subst zero
      rfl
    · have minus := toList_toString_neg (Nat.pos_of_ne_zero zero)
      simp only [readExponent, sign, if_true, minus, splitSign, readDigits_toDigits]
      rfl

/-! ### Where the point lies -/

/-- The digits on both sides of the point, at a place that may lie outside the given ones. -/
structure Positional (cs : List Char) (point : Int) (whole fraction : List Char) : Prop where
  text : ∀ tail, positional cs point tail =
    whole ++ if fraction = [] then tail else '.' :: fraction
  some_ : whole ≠ []
  before : AllDigits whole
  behind : AllDigits fraction
  value : ∀ negative, ofDecimal negative (digitsValue (whole ++ fraction)) (0 - fraction.length) =
    ofDecimal negative (digitsValue cs) (point - cs.length)
  /-- No zero is added in front but the one of a number below one. -/
  lean : cs.head? ≠ some '0' → whole.head? = some '0' → whole = ['0']
  /-- No zero is added at the end of a fraction. -/
  tight : cs.getLast? ≠ some '0' → fraction.getLast? ≠ some '0'

namespace Positional

variable {cs : List Char} {point : Int}

/-- The digits stand behind the point and zeros. -/
theorem below (some_ : cs ≠ []) (digits : AllDigits cs) (below : point ≤ 0) :
    Positional cs point ['0'] (List.replicate (-point).toNat '0' ++ cs) where
  text tail := by
    have behind : List.replicate (-point).toNat '0' ++ cs ≠ [] :=
      List.append_ne_nil_of_right_ne_nil _ some_
    unfold positional
    rw [if_neg behind, if_pos below]
    rfl
  some_ := List.cons_ne_nil _ _
  before := allDigits_zeros 1
  behind := allDigits_append.2 ⟨allDigits_zeros _, digits⟩
  value negative := by
    have value :
        digitsValue (['0'] ++ (List.replicate (-point).toNat '0' ++ cs)) = digitsValue cs :=
      digitsValue_zeros_append cs ((-point).toNat + 1)
    have place : (0 : Int) - (List.replicate (-point).toNat '0' ++ cs).length =
        point - cs.length := by
      rw [List.length_append, List.length_replicate]
      omega
    rw [value, place]
  lean _ _ := rfl
  tight tight := by rwa [List.getLast?_append_of_ne_nil _ some_]

/-- Zeros stand between the digits and the point. -/
theorem beyond (some_ : cs ≠ []) (digits : AllDigits cs) (more : Nat) :
    Positional cs (cs.length + more) (cs ++ List.replicate more '0') [] where
  text tail := by
    have length := List.length_pos_iff.2 some_
    have difference : ((cs.length : Int) + more - cs.length).toNat = more := by omega
    unfold positional
    rw [if_neg (by omega), if_pos (by omega), if_pos rfl, zeros, difference]
  some_ := List.append_ne_nil_of_left_ne_nil some_ _
  before := allDigits_append.2 ⟨digits, allDigits_zeros more⟩
  behind := allDigits_zeros 0
  value negative := by
    have place : (0 : Int) - ([] : List Char).length + more = cs.length + more - cs.length := by
      rw [List.length_nil]
      omega
    rw [List.append_nil, digitsValue_append_zeros, ofDecimal_mul_pow, place]
  lean lean first := by
    rw [List.head?_append_of_ne_nil _ some_] at first
    exact absurd first lean
  tight _ none := nomatch none

/-- The point stands among the digits. -/
theorem among (digits : AllDigits cs) (behind : 0 < point) (short : point < cs.length) :
    Positional cs point (cs.take point.toNat) (cs.drop point.toNat) := by
  have some_ : cs ≠ [] := by
    rintro rfl
    rw [List.length_nil] at short
    omega
  have front : cs.take point.toNat ≠ [] := by
    rw [Ne, List.take_eq_nil_iff, not_or]
    exact ⟨by omega, some_⟩
  have back : cs.drop point.toNat ≠ [] := by
    rw [Ne, List.drop_eq_nil_iff]
    omega
  have parts := List.take_append_drop point.toNat cs
  have sides : AllDigits (cs.take point.toNat) ∧ AllDigits (cs.drop point.toNat) := by
    rwa [← allDigits_append, parts]
  refine ⟨?_, front, sides.1, sides.2, ?_, ?_, ?_⟩
  · intro tail
    unfold positional
    rw [if_neg (by omega), if_neg (by omega), if_neg back]
  · intro negative
    have place : (0 : Int) - (cs.drop point.toNat).length = point - cs.length := by
      rw [List.length_drop]
      omega
    rw [parts, place]
  · intro lean first
    rw [← List.head?_append_of_ne_nil _ front, parts] at first
    exact absurd first lean
  · intro tight
    rwa [← List.getLast?_append_of_ne_nil (cs.take point.toNat) back, parts]

end Positional

theorem exists_positional {cs : List Char} (point : Int) (some_ : cs ≠ [])
    (digits : AllDigits cs) : ∃ whole fraction, Positional cs point whole fraction := by
  by_cases below : point ≤ 0
  · exact ⟨_, _, .below some_ digits below⟩
  by_cases beyond : point ≥ cs.length
  · obtain ⟨more, rfl⟩ : ∃ more : Nat, point = cs.length + more :=
      ⟨(point - cs.length).toNat, by omega⟩
    exact ⟨_, _, .beyond some_ digits more⟩
  · exact ⟨_, _, .among digits (by omega) (by omega)⟩

/-! ### Notations -/

section Notations

variable (negative : Bool) {cs : List Char} {point : Int}

theorem readUnsigned_pointed {whole fraction rest : List Char} {power : Int} (some_ : whole ≠ [])
    (before : AllDigits whole) (behind : AllDigits fraction) (stop : Stops rest)
    (exponent : readExponent rest = some power) :
    readUnsigned negative (whole ++ '.' :: (fraction ++ rest)) =
      some (ofDecimal negative (digitsValue (whole ++ fraction)) (power - fraction.length)) := by
  have present : (whole.isEmpty && fraction.isEmpty) = false := by
    rw [List.isEmpty_eq_false_iff.2 some_, Bool.false_and]
  simp only [readUnsigned, splitPoint_pointed before behind stop, present, exponent]
  rfl

theorem readUnsigned_point {whole fraction : List Char} (some_ : whole ≠ [])
    (before : AllDigits whole) (behind : AllDigits fraction) :
    readUnsigned negative (whole ++ '.' :: fraction) =
      some (ofDecimal negative (digitsValue (whole ++ fraction)) (0 - fraction.length)) := by
  have ends : Stops [] := by
    rintro _ ⟨⟩
  have read := readUnsigned_pointed negative some_ before behind ends rfl
  rwa [List.append_nil] at read

/-- Wherever the point lies, the digits count and so does the place of the point. -/
theorem readUnsigned_positional (some_ : cs ≠ []) (digits : AllDigits cs) :
    readUnsigned negative (positional cs point ['.', '0']) =
      some (ofDecimal negative (digitsValue cs) (point - cs.length)) := by
  obtain ⟨whole, fraction, parts⟩ := exists_positional point some_ digits
  rw [parts.text, ← parts.value negative]
  by_cases none : fraction = []
  · subst none
    have read := readUnsigned_point negative parts.some_ parts.before (allDigits_zeros 1)
    have value : digitsValue (whole ++ ['0']) = digitsValue whole * 10 ^ 1 :=
      digitsValue_append_zeros whole 1
    have scaled : ofDecimal negative (digitsValue (whole ++ ['0'])) (0 - 1) =
        ofDecimal negative (digitsValue whole) 0 := by
      rw [value]
      exact ofDecimal_mul_pow negative (digitsValue whole) 1 (0 - 1)
    rw [List.append_nil, if_pos rfl]
    exact read.trans (congrArg some scaled)
  · rw [if_neg none]
    exact readUnsigned_point negative parts.some_ parts.before parts.behind

theorem readUnsigned_scientific (some_ : cs ≠ []) (digits : AllDigits cs) :
    readUnsigned negative (scientific cs point) =
      some (ofDecimal negative (digitsValue cs) (point - cs.length)) := by
  obtain ⟨c, rest, rfl⟩ := List.exists_cons_of_ne_nil some_
  obtain ⟨first, others⟩ := allDigits_cons.1 digits
  have leading : AllDigits [c] := allDigits_cons.2 ⟨first, fun _ h => absurd h List.not_mem_nil⟩
  have exponent := readExponent_power (point - 1)
  cases rest with
  | nil =>
    have split := splitPoint_power leading (toString (point - 1)).toList
    show readUnsigned negative ([c] ++ 'e' :: (toString (point - 1)).toList) = _
    simp only [readUnsigned, split, exponent]
    show some (ofDecimal negative (digitsValue [c]) (point - 1 - 0)) = _
    rw [Int.sub_zero]
    rfl
  | cons d rest =>
    have power : Stops ('e' :: (toString (point - 1)).toList) := by
      rintro _ ⟨⟩
      rfl
    have one : [c] ≠ [] := List.cons_ne_nil _ _
    have place : point - 1 - (d :: rest).length = point - (c :: d :: rest).length := by
      rw [List.length_cons (a := c)]
      omega
    rw [← place]
    exact readUnsigned_pointed negative one leading others power exponent

end Notations

/-! ### Trimmed digits -/

theorem exists_trimZeros (cs : List Char) : ∃ k, cs = trimZeros cs ++ List.replicate k '0' := by
  have parts : cs.reverse.takeWhile (· == '0') ++ cs.reverse.dropWhile (· == '0') = cs.reverse :=
    List.takeWhile_append_dropWhile
  have each : ∀ c ∈ cs.reverse.takeWhile (· == '0'), c = '0' := fun c hc =>
    eq_of_beq (List.mem_takeWhile_imp (p := (· == '0')) hc)
  obtain ⟨k, same⟩ : ∃ k, cs.reverse.takeWhile (· == '0') = List.replicate k '0' :=
    ⟨_, List.eq_replicate_of_mem each⟩
  refine ⟨k, ?_⟩
  rw [same] at parts
  have whole := congrArg List.reverse parts
  rw [List.reverse_append, List.reverse_reverse, List.reverse_replicate] at whole
  exact whole.symm

theorem getLast?_trimZeros (cs : List Char) : (trimZeros cs).getLast? ≠ some '0' := by
  unfold trimZeros
  rw [List.getLast?_reverse]
  intro zero
  have kept := List.head?_dropWhile_not (· == '0') cs.reverse
  rw [zero] at kept
  cases kept

/-- The digits that are left and the place of the point say the number. -/
theorem ofDecimal_placed (negative : Bool) {x : Digits} (some_ : x.digits ≠ 0) :
    (placed x).1 ≠ [] ∧ AllDigits (placed x).1 ∧
      ofDecimal negative (digitsValue (placed x).1) ((placed x).2 - (placed x).1.length) =
        ofDecimal negative x.digits x.exponent := by
  obtain ⟨k, whole⟩ := exists_trimZeros (Nat.toDigits 10 x.digits)
  have value := digitsValue_toDigits x.digits
  have digits := allDigits_toDigits x.digits
  have length := congrArg List.length whole
  rw [whole, digitsValue_append_zeros] at value
  rw [whole, allDigits_append] at digits
  rw [List.length_append, List.length_replicate] at length
  refine ⟨fun none => ?_, digits.1, ?_⟩
  · have trimmed : trimZeros (Nat.toDigits 10 x.digits) = [] := none
    rw [trimmed] at value
    exact some_ (by rw [← value]; exact Nat.zero_mul _)
  · have place : ((Nat.toDigits 10 x.digits).length : Int) + x.exponent -
        (trimZeros (Nat.toDigits 10 x.digits)).length = x.exponent + k := by omega
    show ofDecimal negative (digitsValue (trimZeros (Nat.toDigits 10 x.digits)))
      (((Nat.toDigits 10 x.digits).length : Int) + x.exponent -
        (trimZeros (Nat.toDigits 10 x.digits)).length) = _
    rw [place, ← ofDecimal_mul_pow, value]

/-- The first of the digits of a positive number is left when zeros at the end go, and it is not a
zero. -/
theorem head?_placed {x : Digits} (some_ : x.digits ≠ 0) : (placed x).1.head? ≠ some '0' := by
  intro first
  obtain ⟨k, whole⟩ := exists_trimZeros (Nat.toDigits 10 x.digits)
  obtain ⟨rest, digits⟩ := List.head?_eq_some_iff.1 first
  have digits : trimZeros (Nat.toDigits 10 x.digits) = '0' :: rest := digits
  rw [digits, List.cons_append] at whole
  exact some_ (toDigits_eq_zero_cons whole).1

theorem shortestDigits_ne_zero {index : Fin count} (positive : 0 < index.val) :
    (shortestDigits index.val).digits ≠ 0 := by
  intro none
  have back := ofDecimal_shortestDigits false positive index.2
  rw [none, ofDecimal_zero] at back
  injection back with _ same
  exact Nat.ne_of_lt positive (congrArg Fin.val same)

/-- The shortest digits of a positive number, with the place of the point, say it. -/
theorem placed_shortestDigits (negative : Bool) {index : Fin count} (positive : 0 < index.val) :
    (placed (shortestDigits index.val)).1 ≠ [] ∧ AllDigits (placed (shortestDigits index.val)).1 ∧
      ofDecimal negative (digitsValue (placed (shortestDigits index.val)).1)
        ((placed (shortestDigits index.val)).2 - (placed (shortestDigits index.val)).1.length) =
          .finite negative index := by
  have back := ofDecimal_shortestDigits negative positive index.2
  rw [← back]
  exact ofDecimal_placed negative (shortestDigits_ne_zero positive)

/-! ### The notation of JSON documents -/

/-- A text that begins with digits and a point or an exponent. -/
def Fractional (cs : List Char) : Prop :=
  ∃ ds c rest, ds ≠ [] ∧ AllDigits ds ∧ (c = '.' ∨ c = 'e') ∧ cs = ds ++ c :: rest

theorem fractional_positional {cs : List Char} (point : Int) (some_ : cs ≠ [])
    (digits : AllDigits cs) : Fractional (positional cs point ['.', '0']) := by
  obtain ⟨whole, fraction, parts⟩ := exists_positional point some_ digits
  rw [parts.text]
  split
  · exact ⟨whole, '.', ['0'], parts.some_, parts.before, .inl rfl, rfl⟩
  · exact ⟨whole, '.', fraction, parts.some_, parts.before, .inl rfl, rfl⟩

theorem fractional_scientific {cs : List Char} (point : Int) (some_ : cs ≠ [])
    (digits : AllDigits cs) : Fractional (scientific cs point) := by
  obtain ⟨c, rest, rfl⟩ := List.exists_cons_of_ne_nil some_
  have one : [c] ≠ [] := List.cons_ne_nil _ _
  have leading : AllDigits [c] := fun d hd => digits d (by simp_all)
  cases rest with
  | nil => exact ⟨[c], 'e', _, one, leading, .inr rfl, rfl⟩
  | cons d rest => exact ⟨[c], '.', _, one, leading, .inl rfl, rfl⟩

/-- A finite number has a written form; behind the sign it is a text with a point or an exponent
that is read as the number. -/
theorem json?_finite (negative : Bool) (index : Fin count) :
    ∃ body, json? (.finite negative index) = some (signed negative body) ∧ Fractional body ∧
      readUnsigned negative body = some (.finite negative index) := by
  by_cases zero : index.val = 0
  · have zero_ : ['0'] ≠ [] := List.cons_ne_nil _ _
    have same : index = ⟨0, by decide⟩ := Fin.ext zero
    refine ⟨['0', '.', '0'], by simp only [json?, if_pos zero]; rfl,
      ⟨['0'], '.', ['0'], zero_, allDigits_zeros 1, .inl rfl, rfl⟩, ?_⟩
    rw [same]
    exact readUnsigned_point negative zero_ (allDigits_zeros 1) (allDigits_zeros 1)
  obtain ⟨front, digits, value⟩ := placed_shortestDigits negative (Nat.pos_of_ne_zero zero)
  simp only [json?, if_neg zero]
  by_cases near :
    -5 < (placed (shortestDigits index.val)).2 ∧ (placed (shortestDigits index.val)).2 ≤ 16
  · refine ⟨_, by rw [if_pos near], fractional_positional _ front digits, ?_⟩
    rw [readUnsigned_positional negative front digits, value]
  · refine ⟨_, by rw [if_neg near], fractional_scientific _ front digits, ?_⟩
    rw [readUnsigned_scientific negative front digits, value]

theorem read?_signed (negative : Bool) {body : List Char} (fractional : Fractional body) :
    read? (signed negative body) = readUnsigned negative body := by
  obtain ⟨ds, c, rest, some_, digits, -, rfl⟩ := fractional
  unfold read? signed
  rw [String.toList_ofList]
  cases negative with
  | false =>
    have plain := splitSign_digit some_ digits (c :: rest)
    simp only [Bool.false_eq_true, if_false, plain]
  | true => rfl

/-! ### The plain notation -/

/-- Digits without a needless zero in front. -/
structure Numeral (cs : List Char) : Prop where
  some_ : cs ≠ []
  digits : AllDigits cs
  lean : cs.head? = some '0' → cs = ['0']

theorem numeral_toDigits (n : Nat) : Numeral (Nat.toDigits 10 n) where
  some_ := Nat.toDigits_ne_nil
  digits := allDigits_toDigits n
  lean first := by
    obtain ⟨rest, digits⟩ := List.head?_eq_some_iff.1 first
    rw [digits, (toDigits_eq_zero_cons digits).2]

/-- A finite number is written with as many digits in front of the point and behind it as it
needs. -/
theorem plain_finite (negative : Bool) (index : Fin count) : ∃ whole fraction,
    plain (.finite negative index) =
      signed negative (whole ++ if fraction = [] then [] else '.' :: fraction) ∧
    Numeral whole ∧ AllDigits fraction ∧ fraction.getLast? ≠ some '0' ∧
    ofDecimal negative (digitsValue (whole ++ fraction)) (0 - fraction.length) =
      .finite negative index := by
  by_cases zero : index.val = 0
  · have same : index = ⟨0, by decide⟩ := Fin.ext zero
    refine ⟨['0'], [], by simp only [plain, if_pos zero]; rfl, numeral_toDigits 0,
      allDigits_zeros 0, (fun h => nomatch h), ?_⟩
    rw [same]
    exact ofDecimal_zero negative _
  have positive := Nat.pos_of_ne_zero zero
  obtain ⟨front, digits, value⟩ := placed_shortestDigits negative positive
  have first := head?_placed (shortestDigits_ne_zero positive)
  obtain ⟨whole, fraction, parts⟩ :=
    exists_positional (placed (shortestDigits index.val)).2 front digits
  refine ⟨whole, fraction, ?_, ⟨parts.some_, parts.before, parts.lean first⟩, parts.behind,
    parts.tight (getLast?_trimZeros _), ?_⟩
  · rw [← parts.text]
    simp only [plain, if_neg zero]
  · rw [parts.value, value]

end ProvingGround.Binary64
