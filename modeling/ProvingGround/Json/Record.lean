import ProvingGround.Json.Reader

/-!
# Reading records

A record of texts is read from one JSON value with blanks around it. The value is an object, in
which each known key stands at most once and names a text, or a list of texts in the order of the
keys.
Whatever an object has under other keys is skipped. What is skipped has to follow the grammar, and
nothing more: it may be nested to any depth, its numbers may be of any size, and the digits of a
numeric escape need not stand for a character.
-/

namespace ProvingGround.Json

open Text

/-! ### Marks -/

/-- What follows a mark, with blanks before it or without. -/
def expect? (mark : Char) (cs : List Char) : Option (List Char) :=
  match skipSpace cs with
  | [] => none
  | c :: rest => if c == mark then some rest else none

/-- A text between quotes. -/
def readQuoted (cs : List Char) : Option (String × List Char) :=
  match expect? '"' cs with
  | none => none
  | some rest => readText (rest.length + 1) rest []

/-! ### Skipping -/

def isHexDigit (c : Char) : Bool := (hexValue? c).isSome

/-- The characters that make an escape by themselves. -/
def escapable : List Char := ['"', '\\', '/', 'b', 'f', 'n', 'r', 't']

/-- What follows the closing quote of a text. -/
def skipText : List Char → Option (List Char)
  | [] => none
  | '"' :: rest => some rest
  | '\\' :: 'u' :: a :: b :: c :: d :: rest =>
    if [a, b, c, d].all isHexDigit then skipText rest else none
  | '\\' :: c :: rest => if escapable.contains c then skipText rest else none
  | c :: rest => if c.toNat < 0x20 then none else skipText rest

def skipQuoted (cs : List Char) : Option (List Char) :=
  match expect? '"' cs with
  | none => none
  | some rest => skipText rest

/-- A number of the grammar. -/
def isNumber (cs : List Char) : Bool :=
  let body := match cs with
    | '-' :: rest => rest
    | _ => cs
  wellFormedWhole (body.takeWhile isAsciiDigit) && wellFormedTail (body.dropWhile isAsciiDigit)

/-- What follows a number, which goes as far as its characters do. -/
def skipNumber (cs : List Char) : Option (List Char) :=
  if isNumber (cs.takeWhile isNumberChar) then some (cs.dropWhile isNumberChar) else none

mutual

/-- What follows one value at the front. `fuel` counts characters. -/
def skipValue : (fuel : Nat) → List Char → Option (List Char)
  | 0, _ => none
  | fuel + 1, cs =>
    match skipSpace cs with
    | '"' :: rest => skipText rest
    | '[' :: rest =>
      match expect? ']' rest with
      | some rest => some rest
      | none => skipItems fuel rest
    | '\x7b' :: rest =>
      match expect? '\x7d' rest with
      | some rest => some rest
      | none => skipMembers fuel rest
    | 't' :: rest => dropWord? "rue".toList rest
    | 'f' :: rest => dropWord? "alse".toList rest
    | 'n' :: rest => dropWord? "ull".toList rest
    | cs => skipNumber cs

/-- What follows the items of a list and its end. -/
def skipItems : (fuel : Nat) → List Char → Option (List Char)
  | 0, _ => none
  | fuel + 1, cs =>
    match skipValue fuel cs with
    | none => none
    | some rest =>
      match expect? ',' rest with
      | some rest => skipItems fuel rest
      | none => expect? ']' rest

/-- What follows the members of an object and its end. -/
def skipMembers : (fuel : Nat) → List Char → Option (List Char)
  | 0, _ => none
  | fuel + 1, cs =>
    match (skipQuoted cs).bind (expect? ':') with
    | none => none
    | some rest =>
      match skipValue fuel rest with
      | none => none
      | some rest =>
        match expect? ',' rest with
        | some rest => skipMembers fuel rest
        | none => expect? '\x7d' rest

end

/-! ### Records -/

/-- The value of a member: a text under a known key, anything under another. -/
def readField (keys : List String) (key : String) (cs : List Char) :
    Option (List (String × String) × List Char) :=
  if keys.contains key then (readQuoted cs).map fun (s, rest) => ([(key, s)], rest)
  else (skipValue (cs.length + 1) cs).map fun rest => ([], rest)

/-- The members of an object up to its end, as far as their keys are known. -/
def readFields (keys : List String) :
    (fuel : Nat) → List Char → Option (List (String × String) × List Char)
  | 0, _ => none
  | fuel + 1, cs => do
    let (key, cs) ← readQuoted cs
    let cs ← expect? ':' cs
    let (field, cs) ← readField keys key cs
    match expect? ',' cs with
    | some cs =>
      let (fields, cs) ← readFields keys fuel cs
      some (field ++ fields, cs)
    | none =>
      let cs ← expect? '\x7d' cs
      some (field, cs)

/-- The texts of a list up to its end. -/
def readTexts : (fuel : Nat) → List Char → Option (List String × List Char)
  | 0, _ => none
  | fuel + 1, cs => do
    let (s, cs) ← readQuoted cs
    match expect? ',' cs with
    | some cs =>
      let (later, cs) ← readTexts fuel cs
      some (s :: later, cs)
    | none =>
      let cs ← expect? ']' cs
      some ([s], cs)

/-- The rest of an object. No known key stands in it twice. -/
def readObject (keys : List String) (cs : List Char) :
    Option (List (String × String) × List Char) :=
  match expect? '\x7d' cs with
  | some cs => some ([], cs)
  | none =>
    (readFields keys (cs.length + 1) cs).filter fun (fields, _) => (fields.map Prod.fst).Nodup

/-- The rest of a list, in which there are no more texts than keys. -/
def readList (keys : List String) (cs : List Char) : Option (List (String × String) × List Char) :=
  match expect? ']' cs with
  | some cs => some ([], cs)
  | none => do
    let (texts, cs) ← readTexts (cs.length + 1) cs
    if keys.length < texts.length then none else some (keys.zip texts, cs)

/-- The record at the front. -/
def readEnclosed (keys : List String) (cs : List Char) :
    Option (List (String × String) × List Char) :=
  match expect? '\x7b' cs with
  | some cs => readObject keys cs
  | none => (expect? '[' cs).bind (readList keys)

/-- The texts that a record has under the known keys. -/
def readRecord? (keys : List String) (s : String) : Option (List (String × String)) := do
  let (fields, rest) ← readEnclosed keys s.toList
  if (skipSpace rest).isEmpty then some fields else none

end ProvingGround.Json
