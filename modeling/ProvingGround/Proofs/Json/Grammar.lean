import Mathlib.Data.List.TakeWhile
import ProvingGround.Json.Record
import ProvingGround.Proofs.JsonReading

/-!
# The grammar of JSON

The texts and values of JSON are told by what they are made of, piece by piece. A text is what its
characters and escapes stand for. A value need not stand for anything: its numbers are of any size,
and the escapes in it are judged by their form alone. What skips values is shown to follow this
grammar, and to pass over everything that does.
-/

namespace ProvingGround.Json

open Text

/-! ### Blanks -/

/-- Nothing but blanks. -/
def Blank (cs : List Char) : Prop := ∀ c ∈ cs, c = ' ' ∨ c = '\n' ∨ c = '\t' ∨ c = '\r'

theorem isSpace_iff {c : Char} :
    isSpace c = true ↔ c = ' ' ∨ c = '\n' ∨ c = '\t' ∨ c = '\r' := by
  simp only [isSpace, Bool.or_eq_true, beq_iff_eq, or_assoc]

theorem blank_takeWhile (cs : List Char) : Blank (cs.takeWhile isSpace) := fun _ hc =>
  isSpace_iff.1 (List.mem_takeWhile_imp hc)

theorem skipSpace_blank {b : List Char} (blank : Blank b) (cs : List Char) :
    skipSpace (b ++ cs) = skipSpace cs :=
  List.dropWhile_append_of_pos fun c hc => isSpace_iff.2 (blank c hc)

theorem skipSpace_eq_nil_iff {cs : List Char} : skipSpace cs = [] ↔ Blank cs := by
  unfold skipSpace Blank
  rw [List.dropWhile_eq_nil_iff]
  simp only [isSpace_iff]

theorem skipSpace_eq_cons {cs rest : List Char} {c : Char} (h : skipSpace cs = c :: rest) :
    ∃ b, Blank b ∧ cs = b ++ c :: rest := by
  refine ⟨cs.takeWhile isSpace, blank_takeWhile cs, ?_⟩
  rw [← h]
  exact List.takeWhile_append_dropWhile.symm

/-! ### Marks -/

section Marks

variable {mark : Char} {cs rest : List Char}

theorem expect?_blank {b : List Char} (blank : Blank b) (mark : Char) (cs : List Char) :
    expect? mark (b ++ cs) = expect? mark cs := by
  unfold expect?
  rw [skipSpace_blank blank]

theorem expect?_cons {c : Char} (solid : isSpace c = false) (mark : Char) (cs : List Char) :
    expect? mark (c :: cs) = if c = mark then some cs else none := by
  unfold expect?
  rw [skipSpace_cons solid]
  simp only [beq_iff_eq]

/-- A mark stands behind blanks. -/
theorem expect?_eq_some_iff (solid : isSpace mark = false) :
    expect? mark cs = some rest ↔ ∃ b, Blank b ∧ cs = b ++ mark :: rest := by
  constructor
  · intro h
    unfold expect? at h
    split at h
    · cases h
    next c later found =>
      split at h
      next same =>
        obtain rfl := beq_iff_eq.1 same
        cases h
        exact skipSpace_eq_cons found
      · cases h
  · rintro ⟨b, blank, rfl⟩
    rw [expect?_blank blank, expect?_cons solid, if_pos rfl]

end Marks

/-! ### Texts -/

/-- A hexadecimal digit and its value. -/
def HexDigit (c : Char) (n : Nat) : Prop :=
  n < 10 ∧ c.toNat = 48 + n ∨ 10 ≤ n ∧ n < 16 ∧ (c.toNat = 55 + n ∨ c.toNat = 87 + n)

/-- Four hexadecimal digits and their value. -/
inductive HexUnit : List Char → Nat → Prop where
  | digits {a b c d w x y z} (first : HexDigit a w) (second : HexDigit b x) (third : HexDigit c y)
    (fourth : HexDigit d z) : HexUnit [a, b, c, d] (4096 * w + 256 * x + 16 * y + z)

/-- What a single character stands for behind a backslash. -/
def shortEscapes : List (Char × Char) :=
  [('"', '"'), ('\\', '\\'), ('/', '/'), ('b', '\x08'), ('f', '\x0c'), ('n', '\n'), ('r', '\r'),
    ('t', '\t')]

/-- What stands for a character behind a backslash. A character beyond the first 65536 takes the two
units of a surrogate pair, and no unit of such a pair stands for anything by itself. -/
inductive Escape : List Char → Char → Prop where
  | short {c d} (known : (c, d) ∈ shortEscapes) : Escape [c] d
  | unit {ds n} (digits : HexUnit ds n) (single : n < 0xD800 ∨ 0xE000 ≤ n) :
    Escape ('u' :: ds) (Char.ofNat n)
  | pair {ds es high low} (first : HexUnit ds high) (second : HexUnit es low)
    (leads : 0xD800 ≤ high ∧ high < 0xDC00) (trails : 0xDC00 ≤ low ∧ low < 0xE000) :
    Escape ('u' :: ds ++ '\\' :: 'u' :: es)
      (Char.ofNat (0x10000 + (high - 0xD800) * 0x400 + (low - 0xDC00)))

/-- A character that stands for itself between quotes. -/
def Plain (c : Char) : Prop := 0x20 ≤ c.toNat ∧ c ≠ '"' ∧ c ≠ '\\'

/-- The characters between the quotes of a text, and the text. -/
inductive Spells : List Char → List Char → Prop where
  | nil : Spells [] []
  | plain {c w s} (plain : Plain c) (more : Spells w s) : Spells (c :: w) (c :: s)
  | escape {e c w s} (escape : Escape e c) (more : Spells w s) : Spells ('\\' :: e ++ w) (c :: s)

/-- Characters between quotes that are in form. -/
inductive Quotable : List Char → Prop where
  | nil : Quotable []
  | plain {c w} (plain : Plain c) (more : Quotable w) : Quotable (c :: w)
  | short {c d w} (known : (c, d) ∈ shortEscapes) (more : Quotable w) : Quotable ('\\' :: c :: w)
  | unit {ds n w} (digits : HexUnit ds n) (more : Quotable w) : Quotable ('\\' :: 'u' :: ds ++ w)

/-- Something between quotes, with blanks around them. -/
def InQuotes (p : List Char → Prop) (cs : List Char) : Prop :=
  ∃ b w b', Blank b ∧ p w ∧ Blank b' ∧ cs = b ++ '"' :: (w ++ '"' :: b')

/-- A text between quotes, with blanks around them. -/
def Quoted (cs : List Char) (s : String) : Prop := InQuotes (Spells · s.toList) cs

/-! ### Numbers -/

/-- Decimal digits, one at least. -/
def Digits (cs : List Char) : Prop := cs ≠ [] ∧ ∀ c ∈ cs, '0'.toNat ≤ c.toNat ∧ c.toNat ≤ '9'.toNat

/-- The whole part of a number, without needless zeros. -/
def Whole (cs : List Char) : Prop := cs = ['0'] ∨ Digits cs ∧ cs.head? ≠ some '0'

/-- The fraction of a number, or none. -/
def Fraction (cs : List Char) : Prop := cs = [] ∨ ∃ ds, Digits ds ∧ cs = '.' :: ds

/-- The exponent of a number, or none. -/
def Exponent (cs : List Char) : Prop :=
  cs = [] ∨ ∃ e s ds, (e = 'e' ∨ e = 'E') ∧ (s = [] ∨ s = ['+'] ∨ s = ['-']) ∧ Digits ds ∧
    cs = e :: (s ++ ds)

/-- A number of any size. -/
inductive Numeral : List Char → Prop where
  | parts {sign whole fraction exponent} (signed : sign = [] ∨ sign = ['-']) (form : Whole whole)
    (fractional : Fraction fraction) (power : Exponent exponent) :
    Numeral (sign ++ (whole ++ (fraction ++ exponent)))

/-! ### Values -/

/-- The parts of which values are made. An item is a value with blanks around it, a member an item
behind a key. -/
inductive Part where
  | value
  | item
  | items
  | member
  | members

/-- The characters make a part. -/
inductive Follows : Part → List Char → Prop where
  | word {w} (known : w = "null".toList ∨ w = "true".toList ∨ w = "false".toList) :
    Follows .value w
  | number {w} (numeral : Numeral w) : Follows .value w
  | text {w} (quotable : Quotable w) : Follows .value ('"' :: (w ++ ['"']))
  | emptyList {b} (blank : Blank b) : Follows .value ('[' :: (b ++ [']']))
  | list {w} (items : Follows .items w) : Follows .value ('[' :: (w ++ [']']))
  | emptyObject {b} (blank : Blank b) : Follows .value ('\x7b' :: (b ++ ['\x7d']))
  | object {w} (members : Follows .members w) : Follows .value ('\x7b' :: (w ++ ['\x7d']))
  | item {b v b'} (before : Blank b) (value : Follows .value v) (behind : Blank b') :
    Follows .item (b ++ (v ++ b'))
  | lastItem {w} (item : Follows .item w) : Follows .items w
  | moreItems {w w'} (item : Follows .item w) (more : Follows .items w') :
    Follows .items (w ++ ',' :: w')
  | member {k w} (key : InQuotes Quotable k) (item : Follows .item w) :
    Follows .member (k ++ ':' :: w)
  | lastMember {w} (member : Follows .member w) : Follows .members w
  | moreMembers {w w'} (member : Follows .member w) (more : Follows .members w') :
    Follows .members (w ++ ',' :: w')

end ProvingGround.Json
