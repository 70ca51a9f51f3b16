import ProvingGround.Text.Concealed

/-!
# Quoted text

A quoted text stands between double quotes. A quote, a backslash and the usual controls are written
with a backslash and a letter, a concealed character as a backslash, `u` and its code point in
hexadecimal between braces; every other character stands for itself.
-/

namespace ProvingGround.Text

/-- The hexadecimal digits of a number, in lower case and without leading zeros. -/
def hexadecimal (n : Nat) : String := String.ofList (Nat.toDigits 16 n)

def escape (c : Char) : String :=
  match c with
  | '\x00' => "\\0"
  | '\t' => "\\t"
  | '\n' => "\\n"
  | '\r' => "\\r"
  | '"' => "\\\""
  | '\\' => "\\\\"
  | c => if isConcealed c then "\\u\x7b" ++ hexadecimal c.toNat ++ "\x7d" else c.toString

def quoted (s : String) : String :=
  "\"" ++ String.join (s.toList.map escape) ++ "\""

end ProvingGround.Text
