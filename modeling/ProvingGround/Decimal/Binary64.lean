import ProvingGround.Word

/-!
# Binary64 numbers

The finite non-negative binary64 numbers in increasing order are numbered from zero; the number of a
value is the value's exponent and fraction fields side by side. A value is `significand * 2 ^ scale`
exactly, and a quotient of naturals is rounded to the nearest value, half-way cases to the even one.
All of it is exact arithmetic on naturals.
-/

namespace ProvingGround

/-- How many fractions there are for each exponent. -/
def Binary64.fractionCount : Nat := Word.count 52

/-- How many finite non-negative values there are. -/
def Binary64.count : Nat := 0x7FF * Binary64.fractionCount

/-- An IEEE 754 binary64 number. All NaNs count as one. -/
inductive Binary64 where
  /-- A finite value by its sign and the index of its magnitude. -/
  | finite (negative : Bool) (index : Fin Binary64.count)
  | infinite (negative : Bool)
  | nan
  deriving DecidableEq, Repr

namespace Binary64

/-! ### The value of an index -/

/-- The integer factor of the value. -/
def significand (index : Nat) : Nat :=
  if index < fractionCount then index else index % fractionCount + fractionCount

/-- How many doublings the least positive value is away from the unit of the significand. -/
def doublings (index : Nat) : Nat := index / fractionCount - 1

/-- The value as a multiple of `2 ^ -1074`. -/
def multiple (index : Nat) : Nat := significand index * Nat.pow 2 (doublings index)

/-- Numerator and denominator of the value of an index. -/
def ratio (index : Nat) : Nat × Nat := (multiple index, Nat.pow 2 1074)

theorem multiple_of_lt {index : Nat} (h : index < fractionCount) : multiple index = index := by
  have h0 : index / fractionCount = 0 := Nat.div_eq_of_lt h
  unfold multiple significand doublings
  rw [if_pos h, h0, Nat.zero_sub]
  exact Nat.mul_one index

theorem significand_lt (index : Nat) : significand index < 2 * fractionCount := by
  have hr : index % fractionCount < fractionCount := Nat.mod_lt _ (Word.count_pos 52)
  unfold significand
  split <;> omega

/-! ### Rounding -/

/-- A quotient rounded to the nearest integer, half-way cases to the even one. -/
def roundHalfEven (num den : Nat) : Nat :=
  let q := num / den
  let r := num % den
  if 2 * r < den then q else if den < 2 * r then q + 1 else if q % 2 = 0 then q else q + 1

theorem roundHalfEven_mul (q den : Nat) (h : 0 < den) : roundHalfEven (q * den) den = q := by
  simp [roundHalfEven, Nat.mul_div_cancel q h, h]

/-- The index of the value nearest to `num / den`; `count` or more when that is beyond the finite
values. -/
def nearestIndex (num den : Nat) : Nat :=
  let scaled := num * Nat.pow 2 1074
  let shift := (scaled / den).log2 - 52
  shift * fractionCount + roundHalfEven scaled (den * Nat.pow 2 shift)

/-- The number nearest to the quotient with the given sign. -/
def ofRatio (negative : Bool) (num den : Nat) : Binary64 :=
  let index := nearestIndex num den
  if h : index < count then .finite negative ⟨index, h⟩ else .infinite negative

/-! ### Decimal numbers -/

/-- The number nearest to `digits * 10 ^ exponent`. An exponent far outside the range of finite
values is not computed out. -/
def ofDecimal (negative : Bool) (digits : Nat) (exponent : Int) : Binary64 :=
  if digits = 0 then .finite negative ⟨0, by decide⟩
  else if exponent > 400 then .infinite negative
  else if exponent + (Nat.toDigits 10 digits).length < -400 then .finite negative ⟨0, by decide⟩
  else if exponent ≥ 0 then ofRatio negative (digits * Nat.pow 10 exponent.toNat) 1
  else ofRatio negative digits (Nat.pow 10 (-exponent).toNat)

def ofInt (n : Int) : Binary64 := ofRatio (n < 0) n.natAbs 1

def isFinite : Binary64 → Bool
  | finite .. => true
  | _ => false

end Binary64

end ProvingGround
