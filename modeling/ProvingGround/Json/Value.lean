import ProvingGround.Decimal.Notation

/-!
# JSON values

A JSON value, with the members of an object in written order. Whole numbers are kept exactly; other
numbers are binary64. The written form has no blanks and escapes only what it must: quotes,
backslashes and control characters.
-/

namespace ProvingGround

inductive Json where
  | null
  | bool (b : Bool)
  | int (n : Int)
  | real (x : Binary64)
  | text (s : String)
  | list (items : List Json)
  | object (members : List (String × Json))
  deriving Inhabited, Repr

namespace Json

/-! ### Access -/

/-- The value of a member of an object; of several the first. -/
def get? (key : String) : Json → Option Json
  | object members => members.lookup key
  | _ => none

def members? : Json → Option (List (String × Json))
  | object members => some members
  | _ => none

def items? : Json → Option (List Json)
  | list items => some items
  | _ => none

def text? : Json → Option String
  | text s => some s
  | _ => none

def bool? : Json → Option Bool
  | bool b => some b
  | _ => none

def int? : Json → Option Int
  | int n => some n
  | _ => none

def nat? : Json → Option Nat
  | int n => if n < 0 then none else some n.toNat
  | _ => none

/-- An object without the members whose value is absent. -/
def objectOf (members : List (String × Option Json)) : Json :=
  object (members.filterMap fun (key, value) => value.map fun v => (key, v))

/-! ### Written form -/

/-- A hexadecimal digit in lower case. -/
def hexDigit (n : Nat) : Char := "0123456789abcdef".toList.getD n '0'

def escape (c : Char) : List Char :=
  match c with
  | '"' => ['\\', '"']
  | '\\' => ['\\', '\\']
  | '\n' => ['\\', 'n']
  | '\r' => ['\\', 'r']
  | '\t' => ['\\', 't']
  | '\x08' => ['\\', 'b']
  | '\x0c' => ['\\', 'f']
  | c =>
    if c.toNat < 0x20 then
      ['\\', 'u', '0', '0', hexDigit (c.toNat / 16), hexDigit (c.toNat % 16)]
    else [c]

def quote (s : String) : String :=
  "\"" ++ String.ofList (s.toList.flatMap escape) ++ "\""

mutual

def render : Json → String
  | null => "null"
  | bool b => if b then "true" else "false"
  | int n => toString n
  | real x => (x.json?).getD "null"
  | text s => quote s
  | list items => "[" ++ String.intercalate "," (renderItems items) ++ "]"
  | object members => "\x7b" ++ String.intercalate "," (renderMembers members) ++ "\x7d"

def renderItems : List Json → List String
  | [] => []
  | v :: rest => render v :: renderItems rest

def renderMembers : List (String × Json) → List String
  | [] => []
  | (key, v) :: rest => (quote key ++ ":" ++ render v) :: renderMembers rest

end

theorem render_text (s : String) : render (text s) = quote s := by simp [render]

end Json

end ProvingGround
