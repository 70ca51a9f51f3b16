import ProvingGround.Text.LowerCase

/-!
# Names of namespaces

A generated namespace is named by the operator, a hyphen and eight random letters or digits. The
operator is brought into a form in which the whole is a label of at most 63 characters: lower case,
hyphens for all other characters, and no hyphen at either end.
-/

namespace ProvingGround

open Text

/-! ### Characters -/

/-- The letters and digits of a label. -/
def isLabelChar (c : Char) : Bool :=
  (0x61 ≤ c.toNat && c.toNat ≤ 0x7A) || (0x30 ≤ c.toNat && c.toNat ≤ 0x39)

def suffixAlphabet : Vector Char 36 :=
  #v['a', 'b', 'c', 'd', 'e', 'f', 'g', 'h', 'i', 'j', 'k', 'l', 'm', 'n', 'o', 'p', 'q', 'r', 's',
    't', 'u', 'v', 'w', 'x', 'y', 'z', '0', '1', '2', '3', '4', '5', '6', '7', '8', '9']

theorem isLabelChar_suffixAlphabet (d : Fin 36) : isLabelChar suffixAlphabet[d] = true := by
  revert d
  decide

/-! ### Operators -/

/-- The characters of a suffix. -/
def suffixLength : Nat := 8

/-- The most characters of a label. -/
def labelLength : Nat := 63

/-- The most characters of an operator. -/
def operatorLength : Nat := labelLength - 1 - suffixLength

/-- The operator of a user without a usable name. -/
def usualOperator : String := "harness"

/-- The characters of a user's name as a label may hold them, cut to the length of an operator. -/
def labelChars (user : List Char) : List Char :=
  ((lowerCaseList user).map fun c => if isLabelChar c then c else '-').take operatorLength

/-- The characters without hyphens at either end. -/
def trimHyphens (cs : List Char) : List Char :=
  ((cs.dropWhile (· == '-')).reverse.dropWhile (· == '-')).reverse

def operatorOf (user : String) : String :=
  let cs := trimHyphens (labelChars user.toList)
  if cs.isEmpty then usualOperator else String.ofList cs

theorem length_labelChars (user : List Char) : (labelChars user).length ≤ operatorLength := by
  simp only [labelChars, List.length_take]
  omega

/-! ### Generated names -/

/-- Eight draws from the alphabet. -/
abbrev SuffixDraws := Vector (Fin 36) suffixLength

/-- The draws that a number stands for, digit by digit. -/
def SuffixDraws.ofNat (n : Nat) : SuffixDraws :=
  Vector.ofFn fun i => Fin.ofNat 36 (n / Nat.pow 36 i.1)

def SuffixDraws.text (draws : SuffixDraws) : String :=
  String.ofList (draws.toList.map fun d => suffixAlphabet[d])

def generatedName (operator : String) (draws : SuffixDraws) : String :=
  operator ++ "-" ++ draws.text

/-- A name is an operator, a hyphen and eight letters or digits. -/
def isGeneratedFor (operator name : String) : Bool :=
  let cs := name.toList
  let head := operator.toList ++ ['-']
  head.isPrefixOf cs && (cs.drop head.length).length == suffixLength &&
    (cs.drop head.length).all isLabelChar

end ProvingGround
