import Mathlib.Algebra.Group.Nat.Defs
import ProvingGround.Decimal.Reader

/-!
# Numerals of whole numbers

The digits that a whole number is written with are ASCII digits and have the number as their value.
Zeros in front of digits change nothing, and each zero behind them makes ten times the value.
-/

namespace ProvingGround

/-- A whole number with sign that a word of so many bits holds. -/
def Word.Signed (bits : Nat) (n : Int) : Prop :=
  -(Word.count (bits - 1) : Int) ≤ n ∧ n < Word.count (bits - 1)

instance (bits : Nat) (n : Int) : Decidable (Word.Signed bits n) :=
  inferInstanceAs (Decidable (_ ∧ _))

namespace Text

/-- ASCII digits. -/
def AllDigits (cs : List Char) : Prop := ∀ c ∈ cs, isAsciiDigit c = true

theorem allDigits_append {cs ds : List Char} :
    AllDigits (cs ++ ds) ↔ AllDigits cs ∧ AllDigits ds := List.forall_mem_append

theorem allDigits_cons {c : Char} {cs : List Char} :
    AllDigits (c :: cs) ↔ isAsciiDigit c = true ∧ AllDigits cs := List.forall_mem_cons

theorem allDigits_zeros (k : Nat) : AllDigits (List.replicate k '0') := fun c hc => by
  rw [List.eq_of_mem_replicate hc]
  rfl

theorem isAsciiDigit_of_isDigit {c : Char} (h : c.isDigit = true) : isAsciiDigit c = true := by
  simp only [Char.isDigit, Bool.and_eq_true, decide_eq_true_eq] at h
  simp only [isAsciiDigit, Bool.and_eq_true, decide_eq_true_eq]
  exact h

theorem allDigits_toDigits (n : Nat) : AllDigits (Nat.toDigits 10 n) := fun _ hc =>
  isAsciiDigit_of_isDigit (Nat.isDigit_of_mem_toDigits (by decide) (by decide) hc)

theorem digitsValue_eq_ofDigitChars (cs : List Char) :
    digitsValue cs = Nat.ofDigitChars 10 cs 0 := rfl

theorem digitsValue_toDigits (n : Nat) : digitsValue (Nat.toDigits 10 n) = n :=
  Nat.ofDigitChars_ten_toDigits

theorem digitsValue_append_zeros (cs : List Char) (k : Nat) :
    digitsValue (cs ++ List.replicate k '0') = digitsValue cs * 10 ^ k := by
  rw [digitsValue_eq_ofDigitChars, Nat.ofDigitChars_append, Nat.ofDigitChars_replicate_zero,
    Nat.mul_comm, digitsValue_eq_ofDigitChars]

theorem digitsValue_zeros_append (cs : List Char) (k : Nat) :
    digitsValue (List.replicate k '0' ++ cs) = digitsValue cs := by
  rw [digitsValue_eq_ofDigitChars, Nat.ofDigitChars_append, Nat.ofDigitChars_replicate_zero,
    Nat.mul_zero, digitsValue_eq_ofDigitChars]

theorem readDigits_toDigits (n : Nat) : readDigits (Nat.toDigits 10 n) = some n := by
  have some_ : (Nat.toDigits 10 n).isEmpty = false :=
    List.isEmpty_eq_false_iff.2 Nat.toDigits_ne_nil
  have ascii : (Nat.toDigits 10 n).all isAsciiDigit = true :=
    List.all_eq_true.2 (allDigits_toDigits n)
  simp only [readDigits, some_, ascii, digitsValue_toDigits]
  rfl

/-- Digits that begin with a zero are the zero alone. -/
theorem toDigits_eq_zero_cons {n : Nat} {cs : List Char} (h : Nat.toDigits 10 n = '0' :: cs) :
    n = 0 ∧ cs = [] := by
  induction n using Nat.strongRecOn generalizing cs with
  | ind n ih =>
    by_cases short : n < 10
    · rw [Nat.toDigits_of_lt_base short] at h
      injection h with first rest
      exact ⟨Nat.digitChar_eq_zero.1 first, rest.symm⟩
    · rw [Nat.toDigits_of_base_le (by decide) (Nat.le_of_not_lt short)] at h
      have some_ : Nat.toDigits 10 (n / 10) ≠ [] := Nat.toDigits_ne_nil
      obtain ⟨c, front, digits⟩ := List.exists_cons_of_ne_nil some_
      rw [digits, List.cons_append] at h
      injection h with first rest
      have zero := (ih (n / 10) (by omega) (first ▸ digits)).1
      omega

/-- The digits of a whole number begin with a digit. -/
theorem exists_toDigits_cons (n : Nat) :
    ∃ c rest, Nat.toDigits 10 n = c :: rest ∧ isAsciiDigit c = true := by
  have some_ : Nat.toDigits 10 n ≠ [] := Nat.toDigits_ne_nil
  obtain ⟨c, rest, digits⟩ := List.exists_cons_of_ne_nil some_
  exact ⟨c, rest, digits, allDigits_toDigits n c (digits ▸ List.mem_cons_self)⟩

/-! ### Signs -/

theorem toList_toString_natCast (n : Nat) : (toString (n : Int)).toList = Nat.toDigits 10 n := by
  show n.repr.toList = _
  exact Nat.toList_repr

theorem toList_toString_neg {n : Nat} (positive : 0 < n) :
    (toString (-(n : Int))).toList = '-' :: Nat.toDigits 10 n := by
  obtain ⟨m, rfl⟩ := Nat.exists_eq_add_one_of_ne_zero (Nat.ne_of_gt positive)
  show ("-" ++ (m + 1).repr).toList = _
  rw [String.toList_append, Nat.toList_repr]
  rfl

end Text

end ProvingGround
