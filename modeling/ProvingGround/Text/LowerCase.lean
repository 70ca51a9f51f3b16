/-!
# Lower case

Two characters beyond ASCII have a lower case that holds an ASCII letter: the Kelvin sign, and the
capital I with a dot, which becomes an `i` and a combining dot. Where only ASCII letters are kept
afterwards, no other character needs a table.
-/

namespace ProvingGround.Text

/-- The lower case of a character, exact as far as it holds ASCII letters. -/
def lowerCase (c : Char) : List Char :=
  if c = '\u212A' then ['k']
  else if c = '\u0130' then ['i', '\u0307']
  else [c.toLower]

/-- The lower case of a text, exact as far as it holds ASCII letters. -/
def lowerCaseList (cs : List Char) : List Char := cs.flatMap lowerCase

theorem lowerCaseList_append (cs ds : List Char) :
    lowerCaseList (cs ++ ds) = lowerCaseList cs ++ lowerCaseList ds := by
  simp [lowerCaseList]

end ProvingGround.Text
