import Mathlib.Algebra.Order.Floor.Div
import Mathlib.Data.List.TakeWhile
import Mathlib.Data.Nat.Digits.Defs
import ProvingGround.MemorySize

/-!
# How memory sizes are written

A spelling is a text taken apart by the grammar of memory sizes. What is read is what some spelling
with ASCII digits means; what has no spelling at all, with digits of any script, is malformed, and
the rest is out of range.
-/

namespace ProvingGround

namespace Text

/-! ### Classes of characters -/

theorem Ranges.contains_eq_false {rs ss : Ranges} {n : Nat} (h : rs.contains n = true)
    (apart : ∀ r ∈ rs, ∀ s ∈ ss, r.2 < s.1 ∨ s.2 < r.1) : ss.contains n = false := by
  obtain ⟨r, hr, low, high⟩ := (rs.contains_iff n).1 h
  by_contra other
  obtain ⟨s, hs, low', high'⟩ := (ss.contains_iff n).1 (eq_true_of_ne_false other)
  have apart := apart r hr s hs
  omega

theorem isDecimalDigit_of_isBlank {c : Char} (h : isBlank c = true) : isDecimalDigit c = false :=
  Ranges.contains_eq_false h (by decide +kernel)

/-! ### Trimming -/

section Trimming

variable {before core after : List Char}

theorem trimStartList_append (front : ∀ c ∈ before, isBlank c = true)
    (first : ∀ c ∈ core.head?, isBlank c = false) : trimStartList (before ++ core) = core := by
  unfold trimStartList
  rw [List.dropWhile_append_of_pos front]
  cases core with
  | nil => rfl
  | cons c rest =>
    have bare : ¬ isBlank c = true := by simp [first c rfl]
    exact List.dropWhile_cons_of_neg bare

theorem trimList_append (front : ∀ c ∈ before, isBlank c = true)
    (back : ∀ c ∈ after, isBlank c = true) (nonempty : core ≠ [])
    (first : ∀ c ∈ core.head?, isBlank c = false)
    (last : ∀ c ∈ core.getLast?, isBlank c = false) :
    trimList (before ++ core ++ after) = core := by
  have start : trimStartList (before ++ (core ++ after)) = core ++ after := by
    apply trimStartList_append front
    rwa [List.head?_append_of_ne_nil core nonempty]
  have finish : trimStartList (after.reverse ++ core.reverse) = core.reverse := by
    apply trimStartList_append
    · simpa using back
    · rwa [List.head?_reverse]
  unfold trimList
  rw [List.append_assoc, start, List.reverse_append, finish, List.reverse_reverse]

/-- Only white space is trimmed. -/
theorem exists_trimList (cs : List Char) : ∃ before after,
    cs = before ++ trimList cs ++ after ∧ (∀ c ∈ before ++ after, isBlank c = true) := by
  have front : cs.takeWhile isBlank ++ trimStartList cs = cs := List.takeWhile_append_dropWhile
  have back : (trimStartList cs).reverse.takeWhile isBlank ++
      trimStartList (trimStartList cs).reverse = (trimStartList cs).reverse :=
    List.takeWhile_append_dropWhile
  refine ⟨cs.takeWhile isBlank, ((trimStartList cs).reverse.takeWhile isBlank).reverse, ?_, ?_⟩
  · have rest := congrArg List.reverse back
    rw [List.reverse_append, List.reverse_reverse] at rest
    unfold trimList
    rw [List.append_assoc, rest, front]
  · intro c hc
    rcases List.mem_append.1 hc with hc | hc
    · exact List.mem_takeWhile_imp hc
    · exact List.mem_takeWhile_imp (List.mem_reverse.1 hc)

end Trimming

/-! ### Numbers -/

theorem digitsValue_eq_ofDigits (cs : List Char) :
    digitsValue cs = Nat.ofDigits 10 (cs.reverse.map digitValue) := by
  induction cs using List.reverseRecOn with
  | nil => rfl
  | append_singleton cs c ih =>
    rw [digitsValue_append, ih, List.reverse_concat, List.map_cons, Nat.ofDigits_cons]
    omega

theorem readDigits_eq_some {cs : List Char} {n : Nat} : readDigits cs = some n ↔
    cs ≠ [] ∧ (∀ c ∈ cs, isAsciiDigit c = true) ∧ digitsValue cs = n := by
  rw [← List.all_eq_true]
  unfold readDigits
  by_cases none : cs = []
  · simp [none]
  · by_cases ascii : cs.all isAsciiDigit = true <;> simp [none, ascii]

end Text

namespace MemorySize

open Text

/-! ### Spellings -/

/-- A memory size as it is written, with digits of a class. -/
structure Spelling (isDigit : Char → Bool) where
  before : List Char
  digits : List Char
  between : List Char
  letter : Char
  i : Option Char
  b : Option Char
  after : List Char
  blank : ∀ c ∈ before ++ between ++ after, isBlank c = true
  digits_ne_nil : digits ≠ []
  digits_all : ∀ c ∈ digits, isDigit c = true
  letter_mem : letter ∈ ['K', 'k', 'M', 'm', 'G', 'g']
  i_eq : ∀ c ∈ i, c = 'i'
  b_eq : ∀ c ∈ b, c = 'b' ∨ c = 'B'

namespace Spelling

variable {isDigit : Char → Bool}

def suffix (w : Spelling isDigit) : List Char := w.i.toList ++ w.b.toList

/-- What is left when white space is trimmed. -/
def core (w : Spelling isDigit) : List Char :=
  w.digits ++ (w.between ++ w.letter :: w.suffix)

def text (w : Spelling isDigit) : String := String.ofList (w.before ++ w.core ++ w.after)

/-- The number that the digits write in base ten. -/
def amount (w : Spelling isDigit) : Nat :=
  Nat.ofDigits 10 (w.digits.reverse.map fun c => c.toNat - '0'.toNat)

/-- The size that is written is so many megabytes; its amount and they have 64 bits. -/
inductive Means (w : Spelling isDigit) : Nat → Prop where
  | kilo (letter : w.letter = 'K' ∨ w.letter = 'k') (fits : w.amount < Word.count 64) :
    Means w (w.amount ⌈/⌉ 1024)
  | mega (letter : w.letter = 'M' ∨ w.letter = 'm') (fits : w.amount < Word.count 64) :
    Means w w.amount
  | giga (letter : w.letter = 'G' ∨ w.letter = 'g') (fits : w.amount < Word.count 64)
    (result : w.amount * 1024 < Word.count 64) : Means w (w.amount * 1024)

section Classes

variable (w : Spelling isDigit)

theorem letter_isPlain : isBlank w.letter = false ∧ isDecimalDigit w.letter = false := by
  have plain : ['K', 'k', 'M', 'm', 'G', 'g'].all
      (fun c => !isBlank c && !isDecimalDigit c) = true := by decide +kernel
  simpa using List.all_eq_true.1 plain w.letter w.letter_mem

theorem exists_unit : ∃ u, MemoryUnit.ofChar? w.letter = some u := by
  have units : ['K', 'k', 'M', 'm', 'G', 'g'].all
      (fun c => (MemoryUnit.ofChar? c).isSome) = true := by decide
  exact Option.isSome_iff_exists.1 (List.all_eq_true.1 units w.letter w.letter_mem)

theorem suffix_mem :
    w.suffix ∈ [[], ['i'], ['b'], ['B'], ['i', 'b'], ['i', 'B']] := by
  unfold suffix
  cases hi : w.i with
  | none =>
    cases hb : w.b with
    | none => simp
    | some b => rcases w.b_eq b hb with rfl | rfl <;> simp
  | some i =>
    have hi := w.i_eq i hi
    subst hi
    cases hb : w.b with
    | none => simp
    | some b => rcases w.b_eq b hb with rfl | rfl <;> simp

theorem isSuffix_suffix : isSuffix w.suffix = true := by
  have optional : ∀ cs ∈ [[], ['i'], ['b'], ['B'], ['i', 'b'], ['i', 'B']],
      isSuffix cs = true := by decide
  exact optional w.suffix w.suffix_mem

theorem last_isPlain : ∀ c ∈ (w.letter :: w.suffix).getLast?, isBlank c = false := by
  have plain : [[], ['i'], ['b'], ['B'], ['i', 'b'], ['i', 'B']].all
      (fun cs => cs.getLast?.all (!isBlank ·)) = true := by decide +kernel
  cases suffix : w.suffix with
  | nil =>
    intro c hc
    cases hc
    exact w.letter_isPlain.1
  | cons d rest =>
    rw [List.getLast?_cons_cons]
    have member := w.suffix_mem
    rw [suffix] at member
    intro c hc
    simpa using (Option.all_eq_true _ _).1 (List.all_eq_true.1 plain _ member) c hc

end Classes

/-! ### Spellings are taken apart -/

section Reading

variable (w : Spelling isDigit) (decimal : ∀ c, isDigit c = true → isDecimalDigit c = true)

include decimal

theorem trimList_text : trimList w.text.toList = w.core := by
  unfold text
  rw [String.toList_ofList]
  have blank := w.blank
  simp only [List.mem_append] at blank
  obtain ⟨d, rest, digits⟩ := List.exists_cons_of_ne_nil w.digits_ne_nil
  have first : isBlank d = false := by
    have digit := decimal d (w.digits_all d (by simp [digits]))
    by_contra other
    have bare := isDecimalDigit_of_isBlank (eq_true_of_ne_false other)
    simp [digit] at bare
  refine trimList_append (fun c hc => blank c (by simp [hc])) (fun c hc => blank c (by simp [hc]))
    ?_ ?_ ?_
  · simp [core, digits]
  · simp [core, digits, first]
  · have last := w.last_isPlain
    unfold core
    rwa [List.getLast?_append_of_ne_nil _ (by simp), List.getLast?_append_of_ne_nil _ (by simp)]

theorem split?_core : split? w.core = (MemoryUnit.ofChar? w.letter).map fun u => (w.digits, u) := by
  have blank := w.blank
  simp only [List.mem_append] at blank
  have digits : ∀ c ∈ w.digits, isDecimalDigit c = true := fun c hc => decimal c (w.digits_all c hc)
  have between : ∀ c ∈ w.between, isBlank c = true := fun c hc => blank c (by simp [hc])
  obtain ⟨letter, other⟩ := w.letter_isPlain
  have stop : (w.between ++ w.letter :: w.suffix).takeWhile isDecimalDigit = [] := by
    cases hb : w.between with
    | nil => simp [other]
    | cons c rest => simp [isDecimalDigit_of_isBlank (between c (by simp [hb]))]
  have stay : (w.between ++ w.letter :: w.suffix).dropWhile isDecimalDigit =
      w.between ++ w.letter :: w.suffix := by
    have whole := List.takeWhile_append_dropWhile (p := isDecimalDigit)
      (l := w.between ++ w.letter :: w.suffix)
    rwa [stop, List.nil_append] at whole
  have tail : (w.between ++ w.letter :: w.suffix).dropWhile isBlank = w.letter :: w.suffix := by
    rw [List.dropWhile_append_of_pos between, List.dropWhile_cons_of_neg (by simp [letter])]
  have taken : w.core.takeWhile isDecimalDigit = w.digits := by
    rw [core, List.takeWhile_append_of_pos digits, stop, List.append_nil]
  have dropped : w.core.dropWhile isDecimalDigit = w.between ++ w.letter :: w.suffix := by
    rw [core, List.dropWhile_append_of_pos digits, stay]
  have some_ : w.digits.isEmpty = false := by simp [w.digits_ne_nil]
  simp only [split?, taken, dropped, tail, some_, unit?, w.isSuffix_suffix, if_true,
    Bool.false_eq_true, if_false]

end Reading

end Spelling

/-! ### What can be taken apart is spelled -/

theorem mem_of_ofChar? {c : Char} {u : MemoryUnit} (h : MemoryUnit.ofChar? c = some u) :
    c ∈ ['K', 'k', 'M', 'm', 'G', 'g'] := by
  unfold MemoryUnit.ofChar? at h
  split at h
  case h_7 => cases h
  all_goals simp

theorem exists_of_isSuffix {cs : List Char} (h : isSuffix cs = true) : ∃ i b : Option Char,
    cs = i.toList ++ b.toList ∧ (∀ c ∈ i, c = 'i') ∧ ∀ c ∈ b, c = 'b' ∨ c = 'B' := by
  unfold isSuffix at h
  split at h
  · exact ⟨none, none, by simp⟩
  · exact ⟨some 'i', none, by simp⟩
  · exact ⟨none, some 'b', by simp⟩
  · exact ⟨none, some 'B', by simp⟩
  · exact ⟨some 'i', some 'b', by simp⟩
  · exact ⟨some 'i', some 'B', by simp⟩
  · cases h

theorem split?_eq_some {cs ds : List Char} {u : MemoryUnit} (h : split? cs = some (ds, u)) :
    ds ≠ [] ∧ (∀ c ∈ ds, isDecimalDigit c = true) ∧ ∃ between c suffix,
      cs = ds ++ (between ++ c :: suffix) ∧ (∀ c ∈ between, isBlank c = true) ∧
      MemoryUnit.ofChar? c = some u ∧ isSuffix suffix = true := by
  unfold split? at h
  dsimp only at h
  split at h
  · cases h
  next nonempty =>
    obtain ⟨u', unit, same⟩ := Option.map_eq_some_iff.1 h
    cases same
    refine ⟨by simpa using nonempty, fun c hc => List.mem_takeWhile_imp hc, ?_⟩
    have digits := List.takeWhile_append_dropWhile (p := isDecimalDigit) (l := cs)
    have blanks := List.takeWhile_append_dropWhile (p := isBlank)
      (l := cs.dropWhile isDecimalDigit)
    cases tail : (cs.dropWhile isDecimalDigit).dropWhile isBlank with
    | nil =>
      rw [tail] at unit
      cases unit
    | cons c suffix =>
      rw [tail] at unit blanks
      by_cases optional : isSuffix suffix = true
      · simp only [unit?, if_pos optional] at unit
        refine ⟨(cs.dropWhile isDecimalDigit).takeWhile isBlank, c, suffix, ?_,
          fun c hc => List.mem_takeWhile_imp hc, unit, optional⟩
        rw [blanks, digits]
      · simp only [unit?, if_neg optional] at unit
        cases unit

/-- A text that can be taken apart has a spelling with the same digits. -/
theorem exists_spelling {isDigit : Char → Bool} {s : String} {ds : List Char} {u : MemoryUnit}
    (h : split? (trimList s.toList) = some (ds, u)) (digits : ∀ c ∈ ds, isDigit c = true) :
    ∃ w : Spelling isDigit, w.text = s ∧ w.digits = ds ∧ MemoryUnit.ofChar? w.letter = some u := by
  obtain ⟨nonempty, -, between, letter, suffix, core, blanks, unit, optional⟩ := split?_eq_some h
  obtain ⟨i, b, rfl, hi, hb⟩ := exists_of_isSuffix optional
  obtain ⟨before, after, whole, trimmed⟩ := exists_trimList s.toList
  have blank : ∀ c ∈ before ++ between ++ after, isBlank c = true := by
    intro c hc
    simp only [List.mem_append] at hc trimmed
    rcases hc with (hc | hc) | hc
    · exact trimmed c (.inl hc)
    · exact blanks c hc
    · exact trimmed c (.inr hc)
  refine ⟨⟨before, ds, between, letter, i, b, after, blank, nonempty, digits, mem_of_ofChar? unit,
    hi, hb⟩, ?_, rfl, unit⟩
  rw [← String.toList_inj, Spelling.text, String.toList_ofList, whole, core]
  rfl

/-! ### Amounts -/

section Amounts

variable {isDigit : Char → Bool} {w : Spelling isDigit} {u : MemoryUnit}

theorem Spelling.digitsValue_eq (w : Spelling isDigit) : digitsValue w.digits = w.amount :=
  digitsValue_eq_ofDigits w.digits

theorem Spelling.means_iff (unit : MemoryUnit.ofChar? w.letter = some u) (m : Nat) :
    w.Means m ↔ w.amount < limit ∧ u.megabytes w.amount < limit ∧ u.megabytes w.amount = m := by
  have rounded : MemoryUnit.kilo.megabytes w.amount = w.amount ⌈/⌉ 1024 := rfl
  have less : MemoryUnit.kilo.megabytes w.amount ≤ w.amount := by
    show (w.amount + 1023) / 1024 ≤ w.amount
    omega
  unfold limit
  constructor
  · intro means
    cases means with
    | kilo letter fits =>
      have kilo : u = .kilo := by rcases letter with h | h <;> rw [h] at unit <;> cases unit <;> rfl
      subst kilo
      exact ⟨fits, Nat.lt_of_le_of_lt less fits, rounded⟩
    | mega letter fits =>
      have mega : u = .mega := by rcases letter with h | h <;> rw [h] at unit <;> cases unit <;> rfl
      subst mega
      exact ⟨fits, fits, rfl⟩
    | giga letter fits result =>
      have giga : u = .giga := by rcases letter with h | h <;> rw [h] at unit <;> cases unit <;> rfl
      subst giga
      exact ⟨fits, result, rfl⟩
  · rintro ⟨fits, result, rfl⟩
    have letter := w.letter_mem
    simp only [List.mem_cons, List.not_mem_nil, or_false] at letter
    rcases letter with h | h | h | h | h | h <;> rw [h] at unit <;> cases unit
    · rw [rounded]
      exact .kilo (.inl h) fits
    · rw [rounded]
      exact .kilo (.inr h) fits
    · exact .mega (.inl h) fits
    · exact .mega (.inr h) fits
    · exact .giga (.inl h) fits result
    · exact .giga (.inr h) fits result

theorem amount?_eq_some {ds : List Char} {m : Nat} : amount? ds u = some m ↔
    ∃ n, readDigits ds = some n ∧ n < limit ∧ u.megabytes n < limit ∧ u.megabytes n = m := by
  unfold amount?
  cases readDigits ds with
  | none => simp
  | some n => simp [and_assoc]

end Amounts

/-! ### Reading -/

theorem parse_of_split? {s : String} {ds : List Char} {u : MemoryUnit}
    (h : split? (trimList s.toList) = some (ds, u)) :
    parse s = match amount? ds u with
      | none => .error (.memoryOutOfRange s)
      | some n => .ok n := by
  cases amount : amount? ds u <;> simp [parse, h, amount]

/-- What has no spelling with digits of any script is malformed. -/
theorem parse_eq_malformed_iff (s : String) : parse s = .error (.malformedMemory s) ↔
    ∀ w : Spelling isDecimalDigit, w.text ≠ s := by
  constructor
  · rintro malformed w rfl
    obtain ⟨u, unit⟩ := w.exists_unit
    have parts : split? (trimList w.text.toList) = some (w.digits, u) := by
      rw [w.trimList_text fun _ h => h, w.split?_core fun _ h => h, unit]
      rfl
    rw [parse_of_split? parts] at malformed
    split at malformed <;> cases malformed
  · intro unspelled
    cases parts : split? (trimList s.toList) with
    | none =>
      unfold parse
      rw [parts]
    | some found =>
      obtain ⟨ds, u⟩ := found
      obtain ⟨w, text, -⟩ := exists_spelling parts (split?_eq_some parts).2.1
      exact absurd text (unspelled w)

theorem parse_eq_ok_iff (s : String) (m : Nat) : parse s = .ok m ↔
    ∃ w : Spelling isAsciiDigit, w.text = s ∧ w.Means m := by
  constructor
  · intro read
    cases parts : split? (trimList s.toList) with
    | none =>
      unfold parse at read
      rw [parts] at read
      cases read
    | some found =>
      obtain ⟨ds, u⟩ := found
      rw [parse_of_split? parts] at read
      split at read
      · cases read
      next n amount =>
        cases read
        obtain ⟨_, digits, value⟩ := amount?_eq_some.1 amount
        obtain ⟨-, ascii, rfl⟩ := readDigits_eq_some.1 digits
        obtain ⟨w, text, rfl, unit⟩ := exists_spelling parts ascii
        rw [w.digitsValue_eq] at value
        exact ⟨w, text, (Spelling.means_iff unit _).2 value⟩
  · rintro ⟨w, rfl, means⟩
    obtain ⟨u, unit⟩ := w.exists_unit
    have parts : split? (trimList w.text.toList) = some (w.digits, u) := by
      rw [w.trimList_text isDecimalDigit_of_isAsciiDigit,
        w.split?_core isDecimalDigit_of_isAsciiDigit, unit]
      rfl
    have value := (Spelling.means_iff unit m).1 means
    rw [← w.digitsValue_eq] at value
    have digits := readDigits_eq_some.2 ⟨w.digits_ne_nil, w.digits_all, rfl⟩
    have amount : amount? w.digits u = some m := amount?_eq_some.2 ⟨_, digits, value⟩
    rw [parse_of_split? parts, amount]

theorem eq_of_parse_error {s : String} {cause : ConfigCause} (h : parse s = .error cause) :
    cause = .malformedMemory s ∨ cause = .memoryOutOfRange s := by
  unfold parse at h
  split at h
  · cases h
    exact .inl rfl
  · split at h
    · cases h
      exact .inr rfl
    · cases h

/-- A text is read as a number of megabytes just when it is a spelling with ASCII digits that means
that number. Any other text is a fault of the configuration: malformed when it has no spelling
whatever digits are allowed, and out of range when it has one. -/
theorem reads_just_what_is_spelled (s : String) :
    (∀ m, parse s = .ok m ↔ ∃ w : Spelling isAsciiDigit, w.text = s ∧ w.Means m) ∧
      ((¬ ∃ m, ∃ w : Spelling isAsciiDigit, w.text = s ∧ w.Means m) →
        (parse s = .error (.malformedMemory s) ∧ ¬ ∃ w : Spelling isDecimalDigit, w.text = s) ∨
          (parse s = .error (.memoryOutOfRange s) ∧
            ∃ w : Spelling isDecimalDigit, w.text = s)) := by
  refine ⟨parse_eq_ok_iff s, fun unmeant => ?_⟩
  have malformed := parse_eq_malformed_iff s
  cases read : parse s with
  | ok m => exact absurd ⟨m, (parse_eq_ok_iff s m).1 read⟩ unmeant
  | error cause =>
    rw [read] at malformed
    obtain rfl | rfl := eq_of_parse_error read
    · left
      exact ⟨rfl, not_exists.2 (malformed.1 rfl)⟩
    · right
      refine ⟨rfl, ?_⟩
      by_contra unspelled
      cases malformed.2 (not_exists.1 unspelled)

/-- Digits of other scripts are digits, but write no number. -/
example : parse " ٣ G" = .error (.memoryOutOfRange " ٣ G") := by decide +kernel

end MemorySize

end ProvingGround
