import Mathlib.Data.Nat.Log
import Mathlib.Tactic.Ring
import ProvingGround.Decimal.Shortest

/-!
# Rounding to binary64

Rounding sees the value of a quotient alone: a common factor changes nothing, and a power of ten may
stand among the digits or in the exponent. A quotient that is a value exactly is rounded to it. So
the exact digits of a value are read back as this value, and with them the shortest ones, which are
searched among candidates that end in the exact digits.
-/

namespace ProvingGround.Binary64

variable {index num den factor : Nat}

theorem fractionCount_eq : fractionCount = 2 ^ 52 := rfl

/-! ### Common factors -/

theorem roundHalfEven_mul_right (num den : Nat) (positive : 0 < factor) :
    roundHalfEven (num * factor) (den * factor) = roundHalfEven num den := by
  have below : 2 * (num % den * factor) < den * factor ↔ 2 * (num % den) < den := by
    rw [← Nat.mul_assoc, Nat.mul_lt_mul_right positive]
  have above : den * factor < 2 * (num % den * factor) ↔ den < 2 * (num % den) := by
    rw [← Nat.mul_assoc, Nat.mul_lt_mul_right positive]
  simp only [roundHalfEven, Nat.mul_div_mul_right _ _ positive, Nat.mul_mod_mul_right, below, above]

theorem nearestIndex_mul_right (num den : Nat) (positive : 0 < factor) :
    nearestIndex (num * factor) (den * factor) = nearestIndex num den := by
  unfold nearestIndex
  generalize Nat.pow 2 1074 = unit
  have scaled : num * factor * unit = num * unit * factor := Nat.mul_right_comm ..
  simp only [scaled, Nat.mul_div_mul_right _ _ positive]
  rw [Nat.mul_right_comm den factor, roundHalfEven_mul_right _ _ positive]

theorem ofRatio_mul_right (negative : Bool) (num den : Nat) (positive : 0 < factor) :
    ofRatio negative (num * factor) (den * factor) = ofRatio negative num den := by
  simp only [ofRatio, nearestIndex_mul_right num den positive]

/-- Equal quotients are rounded to the same number. -/
theorem ofRatio_congr (negative : Bool) {num' den' : Nat} (positive : 0 < den)
    (positive' : 0 < den') (same : num * den' = num' * den) :
    ofRatio negative num den = ofRatio negative num' den' :=
  calc ofRatio negative num den = ofRatio negative (num * den') (den * den') :=
        (ofRatio_mul_right negative num den positive').symm
    _ = ofRatio negative (num' * den) (den' * den) := by rw [same, Nat.mul_comm den]
    _ = ofRatio negative num' den' := ofRatio_mul_right negative num' den' positive

/-! ### Exact quotients -/

theorem significand_of_le (normal : fractionCount ≤ index) :
    significand index = index % fractionCount + fractionCount :=
  if_neg (Nat.not_lt.2 normal)

theorem doublings_of_le (normal : fractionCount ≤ index) :
    index = doublings index * fractionCount + significand index := by
  have division := Nat.div_add_mod index fractionCount
  have quotient : 1 ≤ index / fractionCount :=
    (Nat.one_le_div_iff (Word.count_pos 52)).2 normal
  have split : index / fractionCount = doublings index + 1 := (Nat.sub_add_cancel quotient).symm
  rw [significand_of_le normal]
  rw [split, Nat.mul_add, Nat.mul_one, Nat.mul_comm] at division
  omega

theorem significand_pos (positive : 0 < index) : 0 < significand index := by
  have count := Word.count_pos 52
  unfold significand fractionCount
  split <;> omega

/-- The number of halvings that rounding makes before it cuts off is that of the doublings of the
value. -/
theorem log2_multiple (normal : fractionCount ≤ index) :
    (multiple index).log2 = 52 + doublings index := by
  have low : fractionCount ≤ significand index := by
    rw [significand_of_le normal]
    exact Nat.le_add_left ..
  have high := significand_lt index
  have power : 0 < 2 ^ doublings index := Nat.pow_pos (by decide)
  rw [fractionCount_eq] at low high
  have nonzero : multiple index ≠ 0 :=
    Nat.mul_ne_zero (by omega) power.ne'
  refine (Nat.log2_eq_iff nonzero).2 ⟨?_, ?_⟩
  · rw [Nat.pow_add]
    exact Nat.mul_le_mul_right _ low
  · rw [Nat.add_right_comm, Nat.pow_add, Nat.pow_succ, Nat.mul_comm (2 ^ 52) 2]
    exact Nat.mul_lt_mul_of_pos_right high power

theorem nearestIndex_of_exact (positive : 0 < den)
    (exact_ : num * Nat.pow 2 1074 = multiple index * den) : nearestIndex num den = index := by
  simp only [nearestIndex, exact_, Nat.mul_div_cancel _ positive]
  by_cases small : index < fractionCount
  · have value := multiple_of_lt small
    have shift : index.log2 - 52 = 0 := by
      by_cases zero : index = 0
      · rw [zero]
        rfl
      · have length := (Nat.log2_lt zero).2 small
        omega
    simp only [value, shift]
    show 0 * _ + roundHalfEven (index * den) (den * 1) = index
    rw [Nat.zero_mul, Nat.zero_add, Nat.mul_one, roundHalfEven_mul _ _ positive]
  · have normal := Nat.le_of_not_lt small
    have shift : (multiple index).log2 - 52 = doublings index := by
      rw [log2_multiple normal]
      omega
    have scale : multiple index * den =
        significand index * (den * Nat.pow 2 (doublings index)) := by
      unfold multiple
      ring
    have divisor : 0 < den * Nat.pow 2 (doublings index) :=
      Nat.mul_pos positive (Nat.pow_pos (by decide))
    simp only [shift]
    rw [scale, roundHalfEven_mul _ _ divisor]
    exact (doublings_of_le normal).symm

theorem ofRatio_of_exact (negative : Bool) (finite : index < count) (positive : 0 < den)
    (exact_ : num * Nat.pow 2 1074 = multiple index * den) :
    ofRatio negative num den = .finite negative ⟨index, finite⟩ := by
  have nearest := nearestIndex_of_exact positive exact_
  simp only [ofRatio, nearest, dif_pos finite]

/-! ### Large quotients -/

theorem count_le_nearestIndex (positive : 0 < den) (bits : Nat) (many : 1025 ≤ bits)
    (large : den * 2 ^ bits ≤ num) : count ≤ nearestIndex num den := by
  have quotient (unit : Nat) : 2 ^ (bits + unit) ≤ num * Nat.pow 2 unit / den := by
    refine (Nat.le_div_iff_mul_le positive).2 ?_
    rw [Nat.pow_add, Nat.mul_right_comm, Nat.mul_comm (2 ^ bits)]
    exact Nat.mul_le_mul_right _ large
  have length {q size : Nat} (long : 2 ^ size ≤ q) : size ≤ q.log2 :=
    (Nat.le_log2 (Nat.lt_of_lt_of_le (Nat.pow_pos (by decide)) long).ne').2 long
  have shift {unit : Nat} (least : 1074 ≤ unit) :
      2047 ≤ (num * Nat.pow 2 unit / den).log2 - 52 := by
    have enough := length (quotient unit)
    omega
  exact Nat.le_trans (Nat.mul_le_mul_right fractionCount (shift (Nat.le_refl 1074)))
    (Nat.le_add_right ..)

theorem ofRatio_of_large (negative : Bool) (positive : 0 < den) (zeros : Nat) (many : 401 ≤ zeros)
    (large : den * 10 ^ zeros ≤ num) : ofRatio negative num den = .infinite negative := by
  have power : 2 ^ (3 * zeros) ≤ 10 ^ zeros := by
    rw [Nat.pow_mul]
    exact Nat.pow_le_pow_left (by decide) zeros
  have beyond := count_le_nearestIndex positive (3 * zeros) (by omega)
    (Nat.le_trans (Nat.mul_le_mul_left den power) large)
  simp only [ofRatio, dif_neg (Nat.not_lt.2 beyond)]

/-! ### Powers of ten -/

theorem lt_ten_pow_length (n : Nat) : n < 10 ^ (Nat.toDigits 10 n).length :=
  (Nat.length_toDigits_le_iff (by decide) Nat.length_toDigits_pos).1 (Nat.le_refl _)

theorem lt_length_toDigits {n k : Nat} (h : 10 ^ k ≤ n) : k < (Nat.toDigits 10 n).length := by
  by_contra short
  have below := lt_ten_pow_length n
  have order := Nat.pow_le_pow_right (n := 10) (by decide) (Nat.le_of_not_lt short)
  omega

theorem length_toDigits_mul_pow (positive : 0 < num) (zeros : Nat) :
    (Nat.toDigits 10 (num * 10 ^ zeros)).length = (Nat.toDigits 10 num).length + zeros := by
  induction zeros with
  | zero => rw [Nat.pow_zero, Nat.mul_one, Nat.add_zero]
  | succ zeros ih =>
    have whole : num * 10 ^ (zeros + 1) = 10 * (num * 10 ^ zeros) + 0 := by
      rw [Nat.pow_succ]
      ring
    rw [whole, ← Nat.toDigits_append_toDigits (by decide)
      (Nat.mul_pos positive (Nat.pow_pos (by decide))) (by decide), List.length_append, ih]
    rfl

theorem ofDecimal_zero (negative : Bool) (exponent : Int) :
    ofDecimal negative 0 exponent = .finite negative ⟨0, by decide⟩ := rfl

theorem ofDecimal_of_large (negative : Bool) {digits : Nat} {exponent : Int} (some_ : digits ≠ 0)
    (large : exponent > 400) : ofDecimal negative digits exponent = .infinite negative := by
  rw [ofDecimal, if_neg some_, if_pos large]

theorem ofDecimal_of_tiny (negative : Bool) {digits : Nat} {exponent : Int} (some_ : digits ≠ 0)
    (high : ¬exponent > 400) (tiny : exponent + (Nat.toDigits 10 digits).length < -400) :
    ofDecimal negative digits exponent = .finite negative ⟨0, by decide⟩ := by
  rw [ofDecimal, if_neg some_, if_neg high, if_pos tiny]

/-- An exponent in range is computed out, into the numerator or into the denominator. -/
theorem ofDecimal_eq_ofRatio (negative : Bool) {digits : Nat} {exponent : Int}
    (some_ : digits ≠ 0) (high : exponent ≤ 400)
    (low : -400 ≤ exponent + (Nat.toDigits 10 digits).length) :
    ofDecimal negative digits exponent =
      ofRatio negative (digits * 10 ^ exponent.toNat) (10 ^ (-exponent).toNat) := by
  rw [ofDecimal, if_neg some_, if_neg (by omega), if_neg (by omega)]
  by_cases whole : exponent ≥ 0
  · have none : (-exponent).toNat = 0 := by omega
    rw [if_pos whole, none]
    rfl
  · have none : exponent.toNat = 0 := by omega
    rw [if_neg whole, none, Nat.pow_zero, Nat.mul_one]
    rfl

/-- Zeros behind the digits count as much as the exponent. -/
theorem ofDecimal_mul_pow (negative : Bool) (digits zeros : Nat) (exponent : Int) :
    ofDecimal negative (digits * 10 ^ zeros) exponent =
      ofDecimal negative digits (exponent + zeros) := by
  by_cases zero : digits = 0
  · rw [zero, Nat.zero_mul, ofDecimal_zero, ofDecimal_zero]
  have positive : 0 < digits := Nat.pos_of_ne_zero zero
  have tens (k : Nat) : 0 < 10 ^ k := Nat.pow_pos (by decide)
  have product : digits * 10 ^ zeros ≠ 0 := (Nat.mul_pos positive (tens zeros)).ne'
  have length := length_toDigits_mul_pow positive zeros
  have some_ : 0 < (Nat.toDigits 10 digits).length := Nat.length_toDigits_pos
  by_cases huge : exponent > 400
  · rw [ofDecimal_of_large negative product huge, ofDecimal_of_large negative zero (by omega)]
  by_cases tiny : exponent + zeros + (Nat.toDigits 10 digits).length < -400
  · rw [ofDecimal_of_tiny negative product huge (by omega),
      ofDecimal_of_tiny negative zero (by omega) tiny]
  rw [ofDecimal_eq_ofRatio negative product (by omega) (by omega)]
  by_cases large : exponent + zeros > 400
  · -- the zeros alone make the quotient too large for a finite value
    rw [ofDecimal_of_large negative zero large]
    refine ofRatio_of_large negative (tens _) (exponent + zeros).toNat (by omega) ?_
    have sum : (-exponent).toNat + (exponent + zeros).toNat = zeros + exponent.toNat := by omega
    rw [← Nat.pow_add, sum, Nat.pow_add, Nat.mul_assoc]
    exact Nat.le_mul_of_pos_left _ positive
  · rw [ofDecimal_eq_ofRatio negative zero (by omega) (by omega)]
    refine ofRatio_congr negative (tens _) (tens _) ?_
    have sum : zeros + (exponent.toNat + (-(exponent + zeros)).toNat) =
        (exponent + zeros).toNat + (-exponent).toNat := by omega
    rw [Nat.mul_assoc, Nat.mul_assoc, Nat.mul_assoc, ← Nat.pow_add, ← Nat.pow_add, sum,
      Nat.pow_add]

/-! ### Exact and shortest digits -/

/-- The exact digits of the least values are long enough for their exponent. -/
theorem ten_pow_sub_le_five_pow {places cut : Nat} (bound : places ≤ 3 * cut) :
    10 ^ (places - cut) ≤ 5 ^ places := by
  by_cases few : places ≤ cut
  · rw [Nat.sub_eq_zero_of_le few]
    exact Nat.pow_pos (by decide)
  obtain ⟨more, rfl⟩ := Nat.exists_eq_add_of_le (Nat.le_of_not_le few)
  have twos : 2 ^ more ≤ 5 ^ cut :=
    calc 2 ^ more ≤ 2 ^ (2 * cut) := Nat.pow_le_pow_right (by decide) (by omega)
      _ = 4 ^ cut := Nat.pow_mul ..
      _ ≤ 5 ^ cut := Nat.pow_le_pow_left (by decide) cut
  rw [Nat.add_sub_cancel_left, Nat.pow_add, show 10 = 2 * 5 from rfl, Nat.mul_pow]
  exact Nat.mul_le_mul_right _ twos

theorem exactDigits_of_whole (whole : 1074 ≤ doublings index) :
    exactDigits index = ⟨significand index * Nat.pow 2 (doublings index - 1074), 0⟩ :=
  if_pos whole

theorem exactDigits_of_fraction {places : Nat} (sum : doublings index + places = 1074)
    (positive : 0 < places) :
    exactDigits index = ⟨significand index * Nat.pow 5 places, -(places : Int)⟩ := by
  have difference : 1074 - doublings index = places := by omega
  have exponent : (doublings index : Int) - 1074 = -(places : Int) := by omega
  unfold exactDigits
  rw [if_neg (by omega), difference, exponent]

theorem ofDecimal_exactDigits (negative : Bool) (positive : 0 < index) (finite : index < count) :
    ofDecimal negative (exactDigits index).digits (exactDigits index).exponent =
      .finite negative ⟨index, finite⟩ := by
  have factor := significand_pos positive
  by_cases whole : 1074 ≤ doublings index
  · have digits : significand index * Nat.pow 2 (doublings index - 1074) ≠ 0 :=
      (Nat.mul_pos factor (Nat.pow_pos (by decide))).ne'
    have value {unit : Nat} (h : unit ≤ doublings index) :
        significand index * Nat.pow 2 (doublings index - unit) * 10 ^ 0 * Nat.pow 2 unit =
          multiple index * 10 ^ 0 := by
      show significand index * 2 ^ (doublings index - unit) * 10 ^ 0 * 2 ^ unit =
        significand index * 2 ^ doublings index * 10 ^ 0
      rw [Nat.mul_right_comm, Nat.mul_assoc (significand index), ← Nat.pow_add,
        Nat.sub_add_cancel h]
    have product := value whole
    rw [exactDigits_of_whole whole]
    show ofDecimal negative _ 0 = _
    rw [ofDecimal_eq_ofRatio negative digits (by decide) (by omega)]
    exact ofRatio_of_exact negative finite Nat.one_pos product
  · obtain ⟨places, sum⟩ : ∃ places, doublings index + places = 1074 :=
      ⟨1074 - doublings index, by omega⟩
    have digits : significand index * Nat.pow 5 places ≠ 0 :=
      (Nat.mul_pos factor (Nat.pow_pos (by decide))).ne'
    have long : places - 401 < (Nat.toDigits 10 (significand index * Nat.pow 5 places)).length :=
      lt_length_toDigits (Nat.le_trans (ten_pow_sub_le_five_pow (by omega))
        (Nat.le_mul_of_pos_left _ factor))
    have value {unit : Nat} (h : doublings index + places = unit) :
        significand index * Nat.pow 5 places * 10 ^ (-(places : Int)).toNat * Nat.pow 2 unit =
          multiple index * 10 ^ (- -(places : Int)).toNat := by
      have none : (-(places : Int)).toNat = 0 := by omega
      rw [none, Int.neg_neg, Int.toNat_natCast, ← h]
      show significand index * 5 ^ places * 10 ^ 0 * 2 ^ (doublings index + places) =
        significand index * 2 ^ doublings index * (2 * 5) ^ places
      rw [Nat.pow_add, Nat.mul_pow]
      ring
    rw [exactDigits_of_fraction sum (by omega)]
    show ofDecimal negative _ (-(places : Int)) = _
    rw [ofDecimal_eq_ofRatio negative digits (by omega) (by omega)]
    exact ofRatio_of_exact negative finite (Nat.pow_pos (by decide)) (value sum)

theorem ofRatio_sign {negative negative' : Bool} {i : Fin count}
    (h : ofRatio negative num den = .finite negative' i) (sign : Bool) :
    ofRatio sign num den = .finite sign i := by
  simp only [ofRatio] at h ⊢
  split at h
  · next finite =>
    rw [dif_pos finite]
    cases h
    rfl
  · cases h

/-- The sign takes no part in rounding. -/
theorem ofDecimal_sign {negative negative' : Bool} {i : Fin count} {digits : Nat} {exponent : Int}
    (h : ofDecimal negative digits exponent = .finite negative' i) (sign : Bool) :
    ofDecimal sign digits exponent = .finite sign i := by
  unfold ofDecimal at h ⊢
  split_ifs at h ⊢
  · cases h
    rfl
  · cases h
    rfl
  · exact ofRatio_sign h sign
  · exact ofRatio_sign h sign

theorem readsBack_iff {x : Digits} : readsBack index x = true ↔
    ∃ finite negative, ofDecimal false x.digits x.exponent = .finite negative ⟨index, finite⟩ := by
  unfold readsBack
  cases ofDecimal false x.digits x.exponent with
  | finite negative i =>
    constructor
    · intro same
      cases beq_iff_eq.1 same
      exact ⟨i.2, negative, rfl⟩
    · rintro ⟨finite, _, same⟩
      cases same
      exact beq_self_eq_true index
  | _ => simp

/-- The shortest digits of a value are read back as this value, with either sign. -/
theorem ofDecimal_shortestDigits (sign : Bool) (positive : 0 < index) (finite : index < count) :
    ofDecimal sign (shortestDigits index).digits (shortestDigits index).exponent =
      .finite sign ⟨index, finite⟩ := by
  have last : readsBack index (exactDigits index) = true :=
    readsBack_iff.2 ⟨finite, false, ofDecimal_exactDigits false positive finite⟩
  have found : ((candidates index).find? (readsBack index)).isSome = true :=
    List.find?_isSome.2 ⟨exactDigits index, List.mem_append_right _ List.mem_cons_self, last⟩
  obtain ⟨x, hx⟩ := Option.isSome_iff_exists.1 found
  have chosen : shortestDigits index = x := by
    rw [shortestDigits, if_neg positive.ne', hx]
    rfl
  obtain ⟨_, _, back⟩ := readsBack_iff.1 (List.find?_some hx)
  rw [chosen]
  exact ofDecimal_sign back sign

end ProvingGround.Binary64
