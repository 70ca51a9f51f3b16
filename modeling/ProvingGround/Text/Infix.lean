/-!
# Texts within texts

Whether one text stands somewhere in another.
-/

namespace ProvingGround.Text

/-- One text stands somewhere in another. -/
def occursIn (part : List Char) : List Char → Bool
  | [] => part.isEmpty
  | c :: cs => part.isPrefixOf (c :: cs) || occursIn part cs

theorem occursIn_iff (part cs : List Char) : occursIn part cs = true ↔ part <:+: cs := by
  induction cs with
  | nil => simp [occursIn, List.isEmpty_iff]
  | cons c cs ih => simp [occursIn, ih, List.infix_cons_iff, List.isPrefixOf_iff_prefix]

/-- The text holds another. -/
def holds (s part : String) : Bool := occursIn part.toList s.toList

end ProvingGround.Text
