import ProvingGround.Decimal.Reader
import ProvingGround.Json.Value
import ProvingGround.Text.Radix
import ProvingGround.Word

/-!
# Reading JSON

A text is read as one JSON value with blanks around it. Values may be nested to a limit. A whole
number that fits 64 bits, with or without sign, is read exactly, any other number as the nearest
binary64, and a number beyond the finite ones is refused.
-/

namespace ProvingGround.Json

open Text Binary64

/-! ### Blanks and words -/

/-- A blank of the JSON grammar. -/
def isSpace (c : Char) : Bool := c == ' ' || c == '\n' || c == '\t' || c == '\r'

/-- What follows the blanks. -/
def skipSpace (cs : List Char) : List Char := cs.dropWhile isSpace

/-- What follows a word at the front. -/
def dropWord? : List Char → List Char → Option (List Char)
  | [], cs => some cs
  | w :: ws, c :: cs => if w == c then dropWord? ws cs else none
  | _ :: _, [] => none

/-! ### Texts -/

/-- Four hexadecimal digits. -/
def readUnit : List Char → Option (Nat × List Char)
  | a :: b :: c :: d :: rest => do
    let a ← hexValue? a
    let b ← hexValue? b
    let c ← hexValue? c
    let d ← hexValue? d
    some (((a * 16 + b) * 16 + c) * 16 + d, rest)
  | _ => none

/-- The character of a numeric escape; two units of a surrogate pair make one character. -/
def readEscapedUnit (cs : List Char) : Option (Char × List Char) := do
  let (high, rest) ← readUnit cs
  if 0xD800 ≤ high ∧ high < 0xDC00 then
    match rest with
    | '\\' :: 'u' :: rest =>
      let (low, rest) ← readUnit rest
      if 0xDC00 ≤ low ∧ low < 0xE000 then
        some (Char.ofNat (0x10000 + (high - 0xD800) * 0x400 + (low - 0xDC00)), rest)
      else none
    | _ => none
  else if 0xDC00 ≤ high ∧ high < 0xE000 then none
  else some (Char.ofNat high, rest)

def readEscape : List Char → Option (Char × List Char)
  | '"' :: rest => some ('"', rest)
  | '\\' :: rest => some ('\\', rest)
  | '/' :: rest => some ('/', rest)
  | 'b' :: rest => some ('\x08', rest)
  | 'f' :: rest => some ('\x0c', rest)
  | 'n' :: rest => some ('\n', rest)
  | 'r' :: rest => some ('\r', rest)
  | 't' :: rest => some ('\t', rest)
  | 'u' :: rest => readEscapedUnit rest
  | _ => none

/-- The rest of a text up to its closing quote. Every step takes at least one of the characters that
`fuel` counts. -/
def readText : (fuel : Nat) → List Char → (acc : List Char) → Option (String × List Char)
  | 0, _, _ => none
  | fuel + 1, cs, acc =>
    match cs with
    | [] => none
    | '"' :: rest => some (String.ofList acc.reverse, rest)
    | '\\' :: rest =>
      match readEscape rest with
      | none => none
      | some (c, rest) => readText fuel rest (c :: acc)
    | c :: rest => if c.toNat < 0x20 then none else readText fuel rest (c :: acc)

/-! ### Numbers -/

/-- A character that may stand in a number. -/
def isNumberChar (c : Char) : Bool :=
  isAsciiDigit c || c == '-' || c == '+' || c == '.' || c == 'e' || c == 'E'

/-- The digits before the point: a zero alone, or digits that do not begin with one. -/
def wellFormedWhole (whole : List Char) : Bool :=
  match whole with
  | [] => false
  | ['0'] => true
  | c :: _ => c != '0'

/-- The fraction and exponent: a point has digits behind it, and so has an exponent. -/
def wellFormedTail (cs : List Char) : Bool :=
  let afterPoint :=
    match cs with
    | '.' :: rest => if (rest.takeWhile isAsciiDigit).isEmpty then none
      else some (rest.dropWhile isAsciiDigit)
    | _ => some cs
  match afterPoint with
  | none => false
  | some rest => (readExponent rest).isSome

def readNumber (cs : List Char) : Option Json := do
  let (negative, body) := match cs with
    | '-' :: rest => (true, rest)
    | _ => (false, cs)
  let whole := body.takeWhile isAsciiDigit
  let tail := body.dropWhile isAsciiDigit
  if !wellFormedWhole whole || !wellFormedTail tail then none
  let n := digitsValue whole
  let fits : Bool := if negative then n ≤ Word.count 63 else n < Word.count 64
  if tail.isEmpty && !(negative && n == 0) && fits then
    some (.int (if negative then -(n : Int) else (n : Int)))
  else
    match ← readUnsigned negative body with
    | x@(.finite ..) => some (.real x)
    | _ => none

/-! ### Values -/

mutual

/-- One value at the front. `depth` bounds the nesting, `fuel` counts characters. -/
def readValue (depth : Nat) : (fuel : Nat) → List Char → Option (Json × List Char)
  | 0, _ => none
  | fuel + 1, cs =>
    match skipSpace cs with
    | [] => none
    | '"' :: rest => (readText (rest.length + 1) rest []).map fun (s, rest) => (.text s, rest)
    | '[' :: rest =>
      match depth with
      | 0 => none
      | depth + 1 =>
        match skipSpace rest with
        | ']' :: rest => some (.list [], rest)
        | rest => (readItems depth fuel rest []).map fun (items, rest) => (.list items, rest)
    | '\x7b' :: rest =>
      match depth with
      | 0 => none
      | depth + 1 =>
        match skipSpace rest with
        | '\x7d' :: rest => some (.object [], rest)
        | rest => (readMembers depth fuel rest []).map fun (ms, rest) => (.object ms, rest)
    | 't' :: rest => (dropWord? "rue".toList rest).map fun rest => (.bool true, rest)
    | 'f' :: rest => (dropWord? "alse".toList rest).map fun rest => (.bool false, rest)
    | 'n' :: rest => (dropWord? "ull".toList rest).map fun rest => (.null, rest)
    | cs =>
      (readNumber (cs.takeWhile isNumberChar)).map fun v => (v, cs.dropWhile isNumberChar)

/-- The items of a list up to its end. -/
def readItems (depth : Nat) :
    (fuel : Nat) → List Char → (acc : List Json) → Option (List Json × List Char)
  | 0, _, _ => none
  | fuel + 1, cs, acc =>
    match readValue depth fuel cs with
    | none => none
    | some (v, rest) =>
      match skipSpace rest with
      | ',' :: rest => readItems depth fuel rest (v :: acc)
      | ']' :: rest => some ((v :: acc).reverse, rest)
      | _ => none

/-- The members of an object up to its end. -/
def readMembers (depth : Nat) :
    (fuel : Nat) → List Char → (acc : List (String × Json)) →
      Option (List (String × Json) × List Char)
  | 0, _, _ => none
  | fuel + 1, cs, acc =>
    match skipSpace cs with
    | '"' :: rest =>
      match readText (rest.length + 1) rest [] with
      | none => none
      | some (key, rest) =>
        match skipSpace rest with
        | ':' :: rest =>
          match readValue depth fuel rest with
          | none => none
          | some (v, rest) =>
            match skipSpace rest with
            | ',' :: rest => readMembers depth fuel rest ((key, v) :: acc)
            | '\x7d' :: rest => some (((key, v) :: acc).reverse, rest)
            | _ => none
        | _ => none
    | _ => none

end

/-- How deep lists and objects may be nested. -/
def depthLimit : Nat := 127

def read? (s : String) : Option Json :=
  let cs := s.toList
  match readValue depthLimit (2 * cs.length + 2) cs with
  | some (v, rest) => if (skipSpace rest).isEmpty then some v else none
  | none => none

end ProvingGround.Json
