import ProvingGround.Decimal.Notation
import ProvingGround.Decimal.Reader
import ProvingGround.Text.Quoted
import ProvingGround.Text.Radix
import ProvingGround.Word
import ProvingGround.Yaml.Event.Basic

/-!
# What a scalar stands for

A plain scalar stands for nothing, a truth value, a whole number, a number with a fraction, or its
own text, whichever form fits first. Whole numbers may be written in base two, eight or sixteen;
digits behind a zero are text. A tag of the core schema asks for one of the forms.
-/

namespace ProvingGround.Yaml

open Text

/-- The meaning of a scalar. -/
inductive Atom where
  | null
  | bool (b : Bool)
  /-- A whole number below `2 ^ 64`. -/
  | unsigned (n : Nat)
  /-- A negative whole number of 64 bits, or minus zero. -/
  | signed (n : Int)
  /-- A whole number below `2 ^ 128`. -/
  | wideUnsigned (n : Nat)
  /-- A negative whole number of 128 bits. -/
  | wideSigned (n : Int)
  | float (x : Binary64)
  | text (s : String)
  deriving DecidableEq, Repr

namespace Atom

/-! ### Forms of plain text -/

def readBool : String → Option Bool
  | "true" | "True" | "TRUE" => some true
  | "false" | "False" | "FALSE" => some false
  | _ => none

def isNull (s : String) : Bool := s == "null" || s == "Null" || s == "NULL" || s == "~"

/-- Digits behind a zero, with or without a sign: not a number but a text. -/
def isZeroLed (cs : List Char) : Bool :=
  let body := match cs with
    | '-' :: rest => rest
    | '+' :: rest => rest
    | _ => cs
  match body with
  | '0' :: rest => !rest.isEmpty && rest.all isAsciiDigit
  | _ => false

/-- The base that a prefix announces, and the digits behind it. -/
def splitBase : List Char → Option (Nat × List Char)
  | '0' :: 'x' :: rest => some (16, rest)
  | '0' :: 'o' :: rest => some (8, rest)
  | '0' :: 'b' :: rest => some (2, rest)
  | _ => none

/-- Digits in the base that their prefix announces, or decimal digits. -/
def readMagnitude (cs : List Char) : Option Nat :=
  match splitBase cs with
  | some (base, rest) => readBase base rest
  | none => readBase 10 cs

/-- A whole number without minus sign, below a limit. -/
def readUnsigned (limit : Nat) (s : String) : Option Nat :=
  let cs := s.toList
  let body := match cs with
    | '+' :: rest => rest
    | _ => cs
  if isZeroLed cs then none else (readMagnitude body).filter (· < limit)

/-- A whole number with minus sign, down to the negated limit. -/
def readNegative (limit : Nat) (s : String) : Option Int :=
  match s.toList with
  | '-' :: rest =>
    if isZeroLed s.toList then none
    else ((readMagnitude rest).filter (· ≤ limit)).map fun n => -(n : Int)
  | _ => none

/-- A whole number of 64 bits with or without a sign. -/
def readSigned (s : String) : Option Int :=
  ((readUnsigned (Word.count 63) s).map Int.ofNat).or (readNegative (Word.count 63) s)

/-- A whole number of up to 128 bits. -/
def readInteger (s : String) : Option Atom :=
  ((readUnsigned (Word.count 64) s).map unsigned).or <|
    ((readNegative (Word.count 63) s).map signed).or <|
      ((readUnsigned (Word.count 128) s).map wideUnsigned).or <|
        (readNegative (Word.count 127) s).map wideSigned

/-- A number with a fraction or an exponent, an infinity or NaN in their YAML spelling. -/
def readFloat (s : String) : Option Binary64 :=
  let unsigned? := match s.toList with
    | '+' :: '+' :: _ => none
    | '+' :: '-' :: _ => none
    | '+' :: rest => some (String.ofList rest)
    | _ => some s
  match unsigned? with
  | none => none
  | some body =>
    if body == ".inf" || body == ".Inf" || body == ".INF" then some (.infinite false)
    else if s == "-.inf" || s == "-.Inf" || s == "-.INF" then some (.infinite true)
    else if s == ".nan" || s == ".NaN" || s == ".NAN" then some .nan
    else (Binary64.read? body).filter (·.isFinite)

/-- The meaning of a plain text. -/
def ofPlain (s : String) : Atom :=
  if s.isEmpty || isNull s then null
  else
    match readBool s, readInteger s with
    | some b, _ => bool b
    | none, some n => n
    | none, none =>
      if isZeroLed s.toList then text s
      else
        match readFloat s with
        | some x => float x
        | none => text s

/-! ### Tags -/

def coreTag (name : String) : String := "tag:yaml.org,2002:" ++ name

/-- The words for a text that does not have the form its tag asks for. -/
def mismatch (s expected : String) : String :=
  s!"invalid value: string {quoted s}, expected {expected}"

/-- The meaning of a scalar, or what is wrong with it. -/
def ofScalar (s : Scalar) : Except String Atom :=
  match s.tag with
  | none => .ok (if s.style = .plain then ofPlain s.text else text s.text)
  | some tag =>
    if tag = coreTag "bool" then
      match readBool s.text with
      | some b => .ok (bool b)
      | none => .error (mismatch s.text "a boolean")
    else if tag = coreTag "int" then
      match readInteger s.text with
      | some n => .ok n
      | none => .error (mismatch s.text "an integer")
    else if tag = coreTag "float" then
      match readFloat s.text with
      | some x => .ok (float x)
      | none => .error (mismatch s.text "a float")
    else if tag = coreTag "null" then
      if isNull s.text then .ok null else .error (mismatch s.text "null")
    else if tag.startsWith "!" && s.style = .plain then .ok (ofPlain s.text)
    else .ok (text s.text)

/-- A tag of the document's own. -/
def isLocalTag (tag : Option String) : Bool := tag.any (·.startsWith "!")

/-! ### Words -/

def pointed (x : Binary64) : String :=
  let s := x.plain
  if x.isFinite && !s.toList.contains '.' then s ++ ".0" else s

def describe : Atom → String
  | null => "unit value"
  | bool b => s!"boolean `{b}`"
  | unsigned n => s!"integer `{n}`"
  | signed n => s!"integer `{n}`"
  | wideUnsigned n => s!"integer `{n}` as u128"
  | wideSigned n => s!"integer `{n}` as i128"
  | float x => s!"floating point `{pointed x}`"
  | text s => s!"string {quoted s}"

end Atom

end ProvingGround.Yaml
