import ProvingGround.Decimal.Binary64
import ProvingGround.Text.Digit

/-!
# Reading a decimal number

A decimal number has an optional sign, digits with at most one point among or around them, and an
optional exponent. At least one digit stands before the exponent, and the exponent has at least one.
The number is rounded once, from its exact value.
-/

namespace ProvingGround.Binary64

open Text

def splitSign : List Char → Bool × List Char
  | '-' :: rest => (true, rest)
  | '+' :: rest => (false, rest)
  | cs => (false, cs)

/-- The exponent behind the digits: absent, or `e` and a signed run of digits up to the end. -/
def readExponent : List Char → Option Int
  | [] => some 0
  | c :: rest =>
    if c == 'e' || c == 'E' then
      let (negative, ds) := splitSign rest
      (readDigits ds).map fun n => if negative then -(n : Int) else (n : Int)
    else none

/-- The digits before and behind the point, and what follows them. -/
def splitPoint (cs : List Char) : List Char × List Char × List Char :=
  let whole := cs.takeWhile isAsciiDigit
  match cs.dropWhile isAsciiDigit with
  | '.' :: rest => (whole, rest.takeWhile isAsciiDigit, rest.dropWhile isAsciiDigit)
  | rest => (whole, [], rest)

def readUnsigned (negative : Bool) (cs : List Char) : Option Binary64 :=
  let (whole, fraction, rest) := splitPoint cs
  if whole.isEmpty && fraction.isEmpty then none
  else (readExponent rest).map fun e =>
    ofDecimal negative (digitsValue (whole ++ fraction)) (e - (fraction.length : Int))

def read? (s : String) : Option Binary64 :=
  let (negative, cs) := splitSign s.toList
  readUnsigned negative cs

end ProvingGround.Binary64
