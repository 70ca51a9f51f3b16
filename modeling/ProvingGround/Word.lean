/-!
# Words

Whole numbers of a fixed number of bits. A limit of a word is said by its bits, so that it reads as
the width that it stands for.
-/

namespace ProvingGround

/-- How many words of so many bits there are. -/
def Word.count (bits : Nat) : Nat := Nat.pow 2 bits

namespace Word

theorem count_zero : count 0 = 1 := rfl

theorem count_succ (bits : Nat) : count (bits + 1) = 2 * count bits := by
  unfold count
  rw [Nat.pow_eq, Nat.pow_eq, Nat.pow_succ, Nat.mul_comm]

theorem count_pos (bits : Nat) : 0 < count bits := Nat.pow_pos (by decide)

theorem count_64 : count 64 = 18446744073709551616 := by decide +kernel

end Word

end ProvingGround
