import ProvingGround.Blueprint.Basic
import ProvingGround.Proofs.Decimal.Notation

/-!
# Arguments as they are written

What a command line carries of the value of an argument depends on its kind: a word for a truth
value, digits for a number, the text itself for a text. Numbers are written without needless digits,
and a floating-point number is written as a decimal fraction that is read as the number.
-/

namespace ProvingGround

open Text Binary64

/-- The sign of a number that may be negative. -/
def sign (negative : Bool) : String := if negative then "-" else ""

/-- The text is what a command line carries of the value. -/
inductive ArgValue.Shown : ArgValue → String → Prop where
  | yes : Shown (.bool true) "true"
  | no : Shown (.bool false) "false"
  | natural {n ds} (lean : Numeral ds) (value : digitsValue ds = n) :
    Shown (.int n) (String.ofList ds)
  | negative {n ds} (below : 0 < n) (lean : Numeral ds) (value : digitsValue ds = n) :
    Shown (.int (-n)) ("-" ++ String.ofList ds)
  | undefined : Shown (.float .nan) "NaN"
  | infinite {negative} : Shown (.float (.infinite negative)) (sign negative ++ "inf")
  | whole {negative index ds} (lean : Numeral ds)
    (value : ofDecimal negative (digitsValue ds) 0 = .finite negative index) :
    Shown (.float (.finite negative index)) (sign negative ++ String.ofList ds)
  | fraction {negative index ds es} (lean : Numeral ds) (digits : AllDigits es) (some_ : es ≠ [])
    (tight : es.getLast? ≠ some '0')
    (value : ofDecimal negative (digitsValue (ds ++ es)) (-es.length) = .finite negative index) :
    Shown (.float (.finite negative index))
      (sign negative ++ String.ofList ds ++ "." ++ String.ofList es)
  | text {s} : Shown (.text s) s

theorem signed_eq (negative : Bool) (cs : List Char) :
    signed negative cs = sign negative ++ String.ofList cs := by
  rw [← String.toList_inj, String.toList_append, String.toList_ofList]
  unfold signed
  rw [String.toList_ofList]
  cases negative <;> rfl

theorem ArgValue.shown_int (n : Int) : (ArgValue.int n).Shown (toString n) := by
  obtain ⟨k, rfl | rfl⟩ := n.eq_nat_or_neg
  · have text : toString (k : Int) = String.ofList (Nat.toDigits 10 k) := by
      rw [← String.toList_inj, toList_toString_natCast, String.toList_ofList]
    rw [text]
    exact .natural (numeral_toDigits k) (digitsValue_toDigits k)
  · by_cases zero : k = 0
    · subst zero
      exact .natural (numeral_toDigits 0) rfl
    · have below := Nat.pos_of_ne_zero zero
      have text : toString (-(k : Int)) = "-" ++ String.ofList (Nat.toDigits 10 k) := by
        rw [← String.toList_inj, toList_toString_neg below, String.toList_append,
          @String.toList_ofList (Nat.toDigits 10 k)]
        rfl
      rw [text]
      exact .negative below (numeral_toDigits k) (digitsValue_toDigits k)

theorem ArgValue.shown_float (x : Binary64) : (ArgValue.float x).Shown x.plain := by
  cases x with
  | nan => exact .undefined
  | infinite negative =>
    have text : plain (.infinite negative) = sign negative ++ "inf" := signed_eq negative _
    rw [text]
    exact .infinite
  | finite negative index =>
    obtain ⟨ds, es, text, lean, digits, tight, value⟩ := plain_finite negative index
    rw [text, signed_eq]
    rw [Int.zero_sub] at value
    by_cases none : es = []
    · subst none
      rw [if_pos rfl, List.append_nil]
      rw [List.append_nil] at value
      exact .whole lean value
    · have parts : sign negative ++ String.ofList (ds ++ '.' :: es) =
          sign negative ++ String.ofList ds ++ "." ++ String.ofList es := by
        simp only [← String.toList_inj, String.toList_append, String.toList_ofList,
          List.append_assoc]
        rfl
      rw [if_neg none, parts]
      exact .fraction lean digits none tight value

/-- Every value is shown as its kind wants it. -/
theorem ArgValue.shown_show (v : ArgValue) : v.Shown v.show := by
  cases v with
  | bool b =>
    cases b with
    | false => exact .no
    | true => exact .yes
  | int n => exact shown_int n
  | float x => exact shown_float x
  | text s => exact .text

end ProvingGround
