/-!
# Character classes as ranges of code points

A class of characters is given by the inclusive ranges of code points that it covers, in increasing
order. The tables of the other modules of this folder are values of this type.
-/

namespace ProvingGround.Text

/-- Inclusive ranges of code points, in increasing order. -/
abbrev Ranges := List (Nat × Nat)

/-- Membership of a code point in one of the ranges. -/
def Ranges.contains (rs : Ranges) (n : Nat) : Bool :=
  rs.any fun (lo, hi) => lo ≤ n && n ≤ hi

theorem Ranges.contains_iff (rs : Ranges) (n : Nat) :
    rs.contains n = true ↔ ∃ r ∈ rs, r.1 ≤ n ∧ n ≤ r.2 := by
  simp [Ranges.contains]

theorem Ranges.contains_append (rs ss : Ranges) (n : Nat) :
    Ranges.contains (rs ++ ss) n = (rs.contains n || ss.contains n) := by
  simp [Ranges.contains, List.any_append]

end ProvingGround.Text
