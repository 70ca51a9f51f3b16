import ProvingGround.Decimal.Shortest

/-!
# How a number is written

Two notations over the same shortest digits. The plain one never uses an exponent and writes a whole
number without a point. The one of JSON documents keeps a point in whole numbers and turns to an
exponent outside `10 ^ -5` to `10 ^ 16`.
-/

namespace ProvingGround.Binary64

/-- The digits without zeros at the end, the last digit first. -/
def trimZeros (cs : List Char) : List Char := (cs.reverse.dropWhile (· == '0')).reverse

/-- Significant digits and the place of the point counted from the first of them. -/
def placed (x : Digits) : List Char × Int :=
  let cs := Nat.toDigits 10 x.digits
  (trimZeros cs, (cs.length : Int) + x.exponent)

def zeros (n : Int) : List Char := List.replicate n.toNat '0'

/-- Digits with the point at a place that may lie outside them; `fraction` stands for a missing
fraction. -/
def positional (cs : List Char) (point : Int) (fraction : List Char) : List Char :=
  if point ≤ 0 then '0' :: '.' :: zeros (-point) ++ cs
  else if point ≥ cs.length then cs ++ zeros (point - cs.length) ++ fraction
  else cs.take point.toNat ++ '.' :: cs.drop point.toNat

/-- One digit, the others behind a point, and the exponent. -/
def scientific (cs : List Char) (point : Int) : List Char :=
  let power := (toString (point - 1)).toList
  match cs with
  | [] => '0' :: 'e' :: power
  | [c] => c :: 'e' :: power
  | c :: rest => c :: '.' :: rest ++ 'e' :: power

/-- A sign in front of a magnitude. -/
def signed (negative : Bool) (cs : List Char) : String :=
  String.ofList (if negative then '-' :: cs else cs)

/-- The plain notation: no exponent, no fraction in whole numbers. -/
def plain : Binary64 → String
  | nan => "NaN"
  | infinite negative => signed negative "inf".toList
  | finite negative index =>
    if index.val = 0 then signed negative ['0']
    else
      let (cs, point) := placed (shortestDigits index.val)
      signed negative (positional cs point [])

/-- The notation of JSON documents, which have none for infinities and NaN. -/
def json? : Binary64 → Option String
  | nan => none
  | infinite _ => none
  | finite negative index =>
    if index.val = 0 then some (signed negative "0.0".toList)
    else
      let (cs, point) := placed (shortestDigits index.val)
      some (signed negative
        (if -5 < point ∧ point ≤ 16 then positional cs point ['.', '0'] else scientific cs point))

end ProvingGround.Binary64
