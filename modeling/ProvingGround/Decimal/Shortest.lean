import ProvingGround.Decimal.Binary64

/-!
# The fewest digits that read back

The decimal digits that stand for a finite number are the fewest that are read back as that number,
and among those the nearest to it. The search goes through the grids of one digit, two digits, and
so on, and tests the two neighbours of the value on each grid. Every finite value has an exact
decimal expansion; it stands last, so the digits found always read back.
-/

namespace ProvingGround.Binary64

/-- Digits and the power of ten they are counted in. -/
structure Digits where
  digits : Nat
  exponent : Int
  deriving DecidableEq, Repr

/-- The exact value of an index: a binary fraction is a decimal fraction. -/
def exactDigits (index : Nat) : Digits :=
  let m := significand index
  let d := doublings index
  if d ≥ 1074 then ⟨m * Nat.pow 2 (d - 1074), 0⟩
  else ⟨m * Nat.pow 5 (1074 - d), (d : Int) - 1074⟩

/-- The least `j ≤ bound` with `den ≤ num * 10 ^ j`, counted from `j`. -/
def leadingZeros (den : Nat) : (bound num j : Nat) → Nat
  | 0, _, j => j
  | bound + 1, num, j => if den ≤ num then j else leadingZeros den bound (10 * num) (j + 1)

/-- The exponent of the first digit of a positive quotient: the quotient lies between that power of
ten and the next. -/
def leadingExponent (num den : Nat) : Int :=
  if den ≤ num then ((Nat.toDigits 10 (num / den)).length : Int) - 1
  else -(leadingZeros den 400 num 0 : Int)

/-- The two neighbours of a quotient among the multiples of `10 ^ exponent`, the nearer one first
and the even one first when both are as near. -/
def neighbours (num den : Nat) (exponent : Int) : List Digits :=
  let n := if exponent ≥ 0 then num else num * Nat.pow 10 (-exponent).toNat
  let d := if exponent ≥ 0 then den * Nat.pow 10 exponent.toNat else den
  let low := n / d
  let r := n % d
  let lower : Digits := ⟨low, exponent⟩
  let upper : Digits := ⟨low + 1, exponent⟩
  if 2 * r < d ∨ (2 * r = d ∧ low % 2 = 0) then [lower, upper] else [upper, lower]

def readsBack (index : Nat) (x : Digits) : Bool :=
  match ofDecimal false x.digits x.exponent with
  | .finite _ i => i.val == index
  | _ => false

/-- The neighbours of the value on the grids of one to seventeen digits, the coarsest grid first,
and last the value itself. -/
def candidates (index : Nat) : List Digits :=
  let (num, den) := ratio index
  let leading := leadingExponent num den
  ((List.range 17).flatMap fun (n : Nat) => neighbours num den (leading - (n : Int)))
    ++ [exactDigits index]

/-- The fewest digits that read back, the nearest of them. -/
def shortestDigits (index : Nat) : Digits :=
  if index = 0 then ⟨0, 0⟩
  else ((candidates index).find? (readsBack index)).getD (exactDigits index)

end ProvingGround.Binary64
