import ProvingGround.Proofs.Decimal.Notation
import ProvingGround.Proofs.Json.Grammar

/-!
# Skipped values follow the grammar

What skips a text, a number or a value passes over just what the grammar takes for one. Texts end at
their closing quote and numbers with their last character, so each part ends in one place only.
-/

namespace ProvingGround.Json

open Text Binary64

/-! ### Texts -/

theorem hexValue?_eq_some_iff {c : Char} {n : Nat} : hexValue? c = some n ↔ HexDigit c n := by
  unfold hexValue? HexDigit
  dsimp only
  split
  · rw [Option.some.injEq]
    omega
  · split
    · rw [Option.some.injEq]
      omega
    · split
      · rw [Option.some.injEq]
        omega
      · constructor
        · rintro ⟨⟩
        · omega

theorem all_isHexDigit_iff {a b c d : Char} :
    [a, b, c, d].all isHexDigit = true ↔ ∃ n, HexUnit [a, b, c, d] n := by
  simp only [List.all_cons, List.all_nil, Bool.and_true, Bool.and_eq_true, isHexDigit,
    Option.isSome_iff_exists, hexValue?_eq_some_iff]
  constructor
  · rintro ⟨⟨w, first⟩, ⟨x, second⟩, ⟨y, third⟩, ⟨z, fourth⟩⟩
    exact ⟨_, .digits first second third fourth⟩
  · rintro ⟨_, first, second, third, fourth⟩
    exact ⟨⟨_, first⟩, ⟨_, second⟩, ⟨_, third⟩, ⟨_, fourth⟩⟩

theorem escapable_contains_iff {c : Char} :
    escapable.contains c = true ↔ ∃ d, (c, d) ∈ shortEscapes := by
  rw [List.contains_iff_mem, show escapable = shortEscapes.map Prod.fst from rfl, List.mem_map]
  constructor
  · rintro ⟨⟨_, d⟩, known, rfl⟩
    exact ⟨d, known⟩
  · rintro ⟨d, known⟩
    exact ⟨(c, d), known, rfl⟩

theorem not_u_of_short {c d : Char} (known : (c, d) ∈ shortEscapes) : c ≠ 'u' := by
  rintro rfl
  simp [shortEscapes] at known

theorem skipText_quotable {w : List Char} (quotable : Quotable w) (rest : List Char) :
    skipText (w ++ '"' :: rest) = some rest := by
  induction quotable with
  | nil => rw [List.nil_append, skipText]
  | @plain c w plain more ih =>
    obtain ⟨visible, quote, backslash⟩ := plain
    rw [List.cons_append, skipText, if_neg (Nat.not_lt.2 visible), ih]
    · exact quote
    · exact fun _ _ _ _ _ same _ => backslash same
    · exact fun _ _ same _ => backslash same
  | @short c d w known more ih =>
    rw [List.cons_append, List.cons_append, skipText, if_pos (escapable_contains_iff.2 ⟨d, known⟩),
      ih]
    exact fun _ _ _ _ _ same _ => not_u_of_short known same
  | @unit ds n w digits more ih =>
    have hex := digits
    cases digits
    simp only [List.cons_append, List.nil_append]
    rw [skipText, if_pos (all_isHexDigit_iff.2 ⟨_, hex⟩), ih]

theorem quotable_of_skipText {cs rest : List Char} (h : skipText cs = some rest) :
    ∃ w, Quotable w ∧ cs = w ++ '"' :: rest := by
  fun_induction skipText cs with
  | case1 => cases h
  | case2 rest' =>
    cases h
    exact ⟨[], .nil, rfl⟩
  | case3 a b c d cs hex ih =>
    obtain ⟨w, quotable, rfl⟩ := ih h
    obtain ⟨n, digits⟩ := all_isHexDigit_iff.1 hex
    exact ⟨_, .unit digits quotable, rfl⟩
  | case4 => cases h
  | case5 c cs _ short ih =>
    obtain ⟨w, quotable, rfl⟩ := ih h
    obtain ⟨d, known⟩ := escapable_contains_iff.1 short
    exact ⟨_, .short known quotable, rfl⟩
  | case6 => cases h
  | case7 => cases h
  | case8 c cs quote _ escaped visible ih =>
    have backslash : c ≠ '\\' := by
      rintro rfl
      cases cs with
      | nil => cases h
      | cons d cs => exact escaped d cs rfl rfl
    obtain ⟨w, quotable, rfl⟩ := ih h
    exact ⟨_, .plain ⟨Nat.le_of_not_lt visible, quote, backslash⟩ quotable, rfl⟩

/-! ### Numbers -/

theorem digits_iff {cs : List Char} : Digits cs ↔ cs ≠ [] ∧ AllDigits cs := by
  simp only [Digits, AllDigits, isAsciiDigit, Bool.and_eq_true, decide_eq_true_eq]
  rfl

theorem allDigits_takeWhile (cs : List Char) : AllDigits (cs.takeWhile isAsciiDigit) := fun _ hc =>
  List.mem_takeWhile_imp hc

theorem wellFormedWhole_iff {whole : List Char} (digits : AllDigits whole) :
    wellFormedWhole whole = true ↔ Whole whole := by
  unfold Whole wellFormedWhole
  rw [digits_iff]
  split
  · simp
  · simp
  next c rest alone =>
    rw [bne_iff_ne]
    constructor
    · intro first
      refine .inr ⟨⟨List.cons_ne_nil _ _, digits⟩, ?_⟩
      rintro ⟨⟩
      exact first rfl
    · rintro (zero | ⟨-, first⟩)
      · injection zero with digit end_
        exact (alone digit end_).elim
      · rintro rfl
        exact first rfl

theorem digits_of_whole {whole : List Char} (h : Whole whole) : whole ≠ [] ∧ AllDigits whole := by
  rcases h with rfl | ⟨digits, -⟩
  · exact ⟨List.cons_ne_nil _ _, allDigits_zeros 1⟩
  · exact digits_iff.1 digits

theorem readDigits_isSome_iff {cs : List Char} : (readDigits cs).isSome = true ↔ Digits cs := by
  have digits : (cs.isEmpty || !cs.all isAsciiDigit) = false ↔ Digits cs := by
    rw [digits_iff, Bool.or_eq_false_iff, Bool.not_eq_false', List.all_eq_true,
      List.isEmpty_eq_false_iff]
    rfl
  unfold readDigits
  rw [← digits]
  cases cs.isEmpty || !cs.all isAsciiDigit with
  | true => simp
  | false => simp

theorem splitSign_of_digits {ds : List Char} (digits : Digits ds) : (splitSign ds).2 = ds := by
  obtain ⟨some_, digits⟩ := digits_iff.1 digits
  have plain := splitSign_digit some_ digits []
  rw [List.append_nil] at plain
  rw [plain]

theorem splitSign_signed (cs : List Char) :
    ∃ s, (s = [] ∨ s = ['+'] ∨ s = ['-']) ∧ cs = s ++ (splitSign cs).2 := by
  unfold splitSign
  split
  · exact ⟨['-'], .inr (.inr rfl), rfl⟩
  · exact ⟨['+'], .inr (.inl rfl), rfl⟩
  · exact ⟨[], .inl rfl, rfl⟩

theorem readExponent_cons_isSome_iff {e : Char} {rest : List Char} :
    (readExponent (e :: rest)).isSome = true ↔
      (e = 'e' ∨ e = 'E') ∧ Digits (splitSign rest).2 := by
  have mark : (e == 'e' || e == 'E') = true ↔ e = 'e' ∨ e = 'E' := by
    rw [Bool.or_eq_true, beq_iff_eq, beq_iff_eq]
  rw [← mark, ← readDigits_isSome_iff]
  simp only [readExponent]
  cases e == 'e' || e == 'E' with
  | true => cases readDigits (splitSign rest).2 <;> simp
  | false => simp

theorem readExponent_isSome_iff {cs : List Char} :
    (readExponent cs).isSome = true ↔ Exponent cs := by
  cases cs with
  | nil => exact ⟨fun _ => .inl rfl, fun _ => rfl⟩
  | cons e rest =>
    rw [readExponent_cons_isSome_iff]
    constructor
    · rintro ⟨mark, digits⟩
      obtain ⟨s, signed, same⟩ := splitSign_signed rest
      exact .inr ⟨e, s, _, mark, signed, digits, congrArg (e :: ·) same⟩
    · rintro (absent | ⟨_, s, ds, mark, signed, digits, same⟩)
      · cases absent
      cases same
      refine ⟨mark, ?_⟩
      rcases signed with rfl | rfl | rfl
      · rw [List.nil_append, splitSign_of_digits digits]
        exact digits
      · exact digits
      · exact digits

theorem stops_exponent {cs : List Char} (h : Exponent cs) : Stops cs := by
  rcases h with rfl | ⟨e, s, ds, rfl | rfl, -, -, rfl⟩
  · rintro _ ⟨⟩
  · rintro _ ⟨⟩
    rfl
  · rintro _ ⟨⟩
    rfl

theorem stops_tail {fraction exponent : List Char} (h : Fraction fraction)
    (h' : Exponent exponent) : Stops (fraction ++ exponent) := by
  rcases h with rfl | ⟨ds, -, rfl⟩
  · exact stops_exponent h'
  · rintro _ ⟨⟩
    rfl

theorem wellFormedTail_point {rest : List Char} : wellFormedTail ('.' :: rest) = true ↔
    Digits (rest.takeWhile isAsciiDigit) ∧ Exponent (rest.dropWhile isAsciiDigit) := by
  rw [← readExponent_isSome_iff, digits_iff, and_iff_left (allDigits_takeWhile rest)]
  simp only [wellFormedTail]
  cases rest.takeWhile isAsciiDigit <;> simp

theorem wellFormedTail_exponent {cs : List Char} (pointless : ∀ rest, cs ≠ '.' :: rest) :
    wellFormedTail cs = true ↔ Exponent cs := by
  rw [← readExponent_isSome_iff]
  unfold wellFormedTail
  split
  next rest => exact absurd rfl (pointless rest)
  · rfl

theorem wellFormedTail_iff {cs : List Char} :
    wellFormedTail cs = true ↔
      ∃ fraction exponent, Fraction fraction ∧ Exponent exponent ∧ cs = fraction ++ exponent := by
  constructor
  · intro h
    by_cases point : ∃ rest, cs = '.' :: rest
    · obtain ⟨rest, rfl⟩ := point
      obtain ⟨digits, power⟩ := wellFormedTail_point.1 h
      refine ⟨_, _, .inr ⟨_, digits, rfl⟩, power, ?_⟩
      rw [List.cons_append, List.takeWhile_append_dropWhile]
    · rw [not_exists] at point
      exact ⟨[], cs, .inl rfl, (wellFormedTail_exponent point).1 h, rfl⟩
  · rintro ⟨_, exponent, rfl | ⟨ds, digits, rfl⟩, power, rfl⟩
    · refine (wellFormedTail_exponent ?_).2 power
      rintro rest same
      rcases power with rfl | ⟨e, s, ds, rfl | rfl, -, -, rfl⟩ <;> cases same
    · have stop := stops_exponent power
      have all := (digits_iff.1 digits).2
      rw [List.cons_append, wellFormedTail_point, takeWhile_digits all stop,
        dropWhile_digits all stop]
      exact ⟨digits, power⟩

/-- The part of a number behind its sign. -/
theorem unsigned_iff {body : List Char} :
    (wellFormedWhole (body.takeWhile isAsciiDigit) &&
        wellFormedTail (body.dropWhile isAsciiDigit)) = true ↔
      ∃ whole fraction exponent, Whole whole ∧ Fraction fraction ∧ Exponent exponent ∧
        body = whole ++ (fraction ++ exponent) := by
  rw [Bool.and_eq_true, wellFormedWhole_iff (allDigits_takeWhile body), wellFormedTail_iff]
  constructor
  · rintro ⟨whole, fraction, exponent, fractional, power, rest⟩
    refine ⟨_, fraction, exponent, whole, fractional, power, ?_⟩
    rw [← rest, List.takeWhile_append_dropWhile]
  · rintro ⟨whole, fraction, exponent, form, fractional, power, rfl⟩
    have digits := (digits_of_whole form).2
    have stop := stops_tail fractional power
    rw [takeWhile_digits digits stop, dropWhile_digits digits stop]
    exact ⟨form, fraction, exponent, fractional, power, rfl⟩

theorem isNumber_iff {cs : List Char} : isNumber cs = true ↔ Numeral cs := by
  unfold isNumber
  constructor
  · intro h
    split at h
    · obtain ⟨whole, fraction, exponent, form, fractional, power, rfl⟩ := unsigned_iff.1 h
      exact .parts (.inr rfl) form fractional power
    · obtain ⟨whole, fraction, exponent, form, fractional, power, rfl⟩ := unsigned_iff.1 h
      exact .parts (.inl rfl) form fractional power
  · rintro ⟨rfl | rfl, form, fractional, power⟩
    · have body := unsigned_iff.2 ⟨_, _, _, form, fractional, power, rfl⟩
      split
      next rest negative =>
        -- A whole part does not begin with a sign.
        obtain ⟨some_, all⟩ := digits_of_whole form
        obtain ⟨c, cs, rfl⟩ := List.exists_cons_of_ne_nil some_
        injection negative with first
        have digit := all c List.mem_cons_self
        rw [first] at digit
        cases digit
      · exact body
    · exact unsigned_iff.2 ⟨_, _, _, form, fractional, power, rfl⟩

/-- Characters that may stand in a number. -/
def Numeric (cs : List Char) : Prop := ∀ c ∈ cs, isNumberChar c = true

/-- What stops a number. -/
def StopsNumber (rest : List Char) : Prop := ∀ c ∈ rest.head?, isNumberChar c = false

theorem Numeric.append {cs ds : List Char} (h : Numeric cs) (h' : Numeric ds) :
    Numeric (cs ++ ds) := List.forall_mem_append.2 ⟨h, h'⟩

theorem Numeric.cons {c : Char} {cs : List Char} (h : isNumberChar c = true) (h' : Numeric cs) :
    Numeric (c :: cs) := List.forall_mem_cons.2 ⟨h, h'⟩

theorem numeric_of_digits {cs : List Char} (digits : AllDigits cs) : Numeric cs := by
  intro c hc
  unfold isNumberChar
  rw [digits c hc]
  rfl

theorem Exponent.numeric {cs : List Char} (h : Exponent cs) : Numeric cs := by
  have nothing : Numeric [] := fun _ hc => nomatch hc
  rcases h with rfl | ⟨e, s, ds, mark, signed, digits, rfl⟩
  · exact nothing
  · have sign : Numeric s := by
      rcases signed with rfl | rfl | rfl
      · exact nothing
      · exact .cons rfl nothing
      · exact .cons rfl nothing
    have more := sign.append (numeric_of_digits (digits_iff.1 digits).2)
    rcases mark with rfl | rfl
    · exact .cons rfl more
    · exact .cons rfl more

theorem Numeral.numeric {cs : List Char} (h : Numeral cs) : Numeric cs := by
  obtain ⟨signed, form, fractional, power⟩ := h
  have nothing : Numeric [] := fun _ hc => nomatch hc
  refine .append ?_ ((numeric_of_digits (digits_of_whole form).2).append (.append ?_ power.numeric))
  · rcases signed with rfl | rfl
    · exact nothing
    · exact .cons rfl nothing
  · rcases fractional with rfl | ⟨ds, digits, rfl⟩
    · exact nothing
    · exact .cons rfl (numeric_of_digits (digits_iff.1 digits).2)

theorem skipNumber_numeral {w rest : List Char} (numeral : Numeral w) (stop : StopsNumber rest) :
    skipNumber (w ++ rest) = some rest := by
  have front : rest.takeWhile isNumberChar = [] ∧ rest.dropWhile isNumberChar = rest := by
    cases rest with
    | nil => exact ⟨rfl, rfl⟩
    | cons c rest =>
      have other := stop c rfl
      exact ⟨List.takeWhile_cons_of_neg (by simp [other]),
        List.dropWhile_cons_of_neg (by simp [other])⟩
  unfold skipNumber
  rw [List.takeWhile_append_of_pos numeral.numeric, List.dropWhile_append_of_pos numeral.numeric,
    front.1, front.2, List.append_nil, if_pos (isNumber_iff.2 numeral)]

theorem numeral_of_skipNumber {cs rest : List Char} (h : skipNumber cs = some rest) :
    ∃ w, Numeral w ∧ cs = w ++ rest := by
  unfold skipNumber at h
  split at h
  next form =>
    cases h
    exact ⟨_, isNumber_iff.1 form, List.takeWhile_append_dropWhile.symm⟩
  · cases h

/-! ### Keys -/

section Keys

variable {mark : Char} {cs rest : List Char}

/-- What is found between quotes and before a mark. -/
theorem inQuotes_iff {p : List Char → Prop} (solid : isSpace mark = false) :
    (∃ b w middle, Blank b ∧ p w ∧ cs = b ++ '"' :: (w ++ '"' :: middle) ∧
        expect? mark middle = some rest) ↔
      ∃ k, InQuotes p k ∧ cs = k ++ mark :: rest := by
  simp only [expect?_eq_some_iff solid]
  constructor
  · rintro ⟨b, w, _, before, hw, rfl, b', behind, rfl⟩
    refine ⟨_, ⟨b, w, b', before, hw, behind, rfl⟩, ?_⟩
    simp only [List.append_assoc, List.cons_append]
  · rintro ⟨_, ⟨b, w, b', before, hw, behind, rfl⟩, rfl⟩
    refine ⟨b, w, b' ++ mark :: rest, before, hw, ?_, b', behind, rfl⟩
    simp only [List.append_assoc, List.cons_append]

theorem skipQuoted_eq_some_iff : skipQuoted cs = some rest ↔
    ∃ b w, Blank b ∧ Quotable w ∧ cs = b ++ '"' :: (w ++ '"' :: rest) := by
  unfold skipQuoted
  constructor
  · intro h
    split at h
    · cases h
    next behind quote =>
      obtain ⟨b, blank, rfl⟩ := (expect?_eq_some_iff rfl).1 quote
      obtain ⟨w, quotable, rfl⟩ := quotable_of_skipText h
      exact ⟨b, w, blank, quotable, rfl⟩
  · rintro ⟨b, w, blank, quotable, rfl⟩
    rw [(expect?_eq_some_iff rfl).2 ⟨b, blank, rfl⟩]
    exact skipText_quotable quotable rest

theorem skipKey_eq_some_iff (solid : isSpace mark = false) :
    (skipQuoted cs).bind (expect? mark) = some rest ↔
      ∃ k, InQuotes Quotable k ∧ cs = k ++ mark :: rest := by
  rw [← inQuotes_iff solid, Option.bind_eq_some_iff]
  simp only [skipQuoted_eq_some_iff]
  constructor
  · rintro ⟨middle, ⟨b, w, blank, quotable, same⟩, found⟩
    exact ⟨b, w, middle, blank, quotable, same, found⟩
  · rintro ⟨b, w, middle, blank, quotable, same, found⟩
    exact ⟨middle, ⟨b, w, blank, quotable, same⟩, found⟩

end Keys

/-! ### Values that are passed over -/

theorem skipValue_blank {b : List Char} (blank : Blank b) (fuel : Nat) (cs : List Char) :
    skipValue fuel (b ++ cs) = skipValue fuel cs := by
  cases fuel with
  | zero => rfl
  | succ fuel => simp only [skipValue, skipSpace_blank blank]

theorem solid_of_numeric {c : Char} (numeric : isNumberChar c = true) : isSpace c = false := by
  by_contra blank
  rw [Bool.not_eq_false, isSpace_iff] at blank
  rcases blank with rfl | rfl | rfl | rfl <;> cases numeric

theorem Numeral.cons {w : List Char} (h : Numeral w) :
    ∃ c cs, w = c :: cs ∧ isNumberChar c = true := by
  have some_ : w ≠ [] := by
    obtain ⟨_, form, _, _⟩ := h
    simp [(digits_of_whole form).1]
  obtain ⟨c, cs, rfl⟩ := List.exists_cons_of_ne_nil some_
  exact ⟨c, cs, rfl, h.numeric c List.mem_cons_self⟩

theorem skipValue_numeric {c : Char} (numeric : isNumberChar c = true) (fuel : Nat)
    (cs : List Char) : skipValue (fuel + 1) (c :: cs) = skipNumber (c :: cs) := by
  rw [skipValue, skipSpace_cons (solid_of_numeric numeric)]
  split
  all_goals first
    | rfl
    | next same =>
      injection same with first
      rw [first] at numeric
      cases numeric

/-- A value begins with a character that is neither blank nor the end of a list. -/
theorem Follows.value_cons {v : List Char} (h : Follows .value v) :
    ∃ c cs, v = c :: cs ∧ isSpace c = false ∧ c ≠ ']' := by
  cases h with
  | word known =>
    rcases known with rfl | rfl | rfl
    · exact ⟨_, _, rfl, rfl, by decide⟩
    · exact ⟨_, _, rfl, rfl, by decide⟩
    · exact ⟨_, _, rfl, rfl, by decide⟩
  | number numeral =>
    obtain ⟨c, cs, rfl, numeric⟩ := numeral.cons
    refine ⟨c, cs, rfl, solid_of_numeric numeric, ?_⟩
    rintro rfl
    cases numeric
  | text => exact ⟨_, _, rfl, rfl, by decide⟩
  | emptyList => exact ⟨_, _, rfl, rfl, by decide⟩
  | list => exact ⟨_, _, rfl, rfl, by decide⟩
  | emptyObject => exact ⟨_, _, rfl, rfl, by decide⟩
  | object => exact ⟨_, _, rfl, rfl, by decide⟩

theorem Follows.item_not_end {w : List Char} (h : Follows .item w) (rest : List Char) :
    expect? ']' (w ++ rest) = none := by
  cases h with
  | item before value behind =>
    obtain ⟨c, cs, rfl, solid, other⟩ := value.value_cons
    rw [List.append_assoc, expect?_blank before]
    exact (expect?_cons solid ']' _).trans (if_neg other)

theorem Follows.items_not_end {w : List Char} (h : Follows .items w) (rest : List Char) :
    expect? ']' (w ++ rest) = none := by
  cases h with
  | lastItem item => exact item.item_not_end rest
  | moreItems item more =>
    rw [List.append_assoc]
    exact item.item_not_end _

theorem InQuotes.expect?_eq_none {p : List Char → Prop} {k : List Char} (h : InQuotes p k)
    {mark : Char} (other : '"' ≠ mark) (rest : List Char) : expect? mark (k ++ rest) = none := by
  obtain ⟨b, w, b', before, -, -, rfl⟩ := h
  rw [List.append_assoc, expect?_blank before]
  exact (expect?_cons rfl mark _).trans (if_neg other)

theorem Follows.members_not_end {w : List Char} (h : Follows .members w) (rest : List Char) :
    expect? '\x7d' (w ++ rest) = none := by
  cases h with
  | lastMember member =>
    cases member with
    | member key item =>
      rw [List.append_assoc]
      exact key.expect?_eq_none (by decide) _
  | moreMembers member more =>
    cases member with
    | member key item =>
      rw [List.append_assoc, List.append_assoc]
      exact key.expect?_eq_none (by decide) _

theorem stopsNumber_behind {b : List Char} {mark : Char} (blank : Blank b)
    (other : isNumberChar mark = false) (rest : List Char) : StopsNumber (b ++ mark :: rest) := by
  intro c hc
  cases b with
  | nil =>
    cases hc
    exact other
  | cons d b =>
    obtain rfl : d = c := Option.some.inj hc
    rcases blank d List.mem_cons_self with rfl | rfl | rfl | rfl <;> rfl

/-- What skips a part passes over these characters. -/
def Skips : Part → List Char → Prop
  | .value, w => ∀ fuel rest, w.length ≤ fuel → StopsNumber rest →
    skipValue fuel (w ++ rest) = some rest
  | .item, w => ∀ fuel mark rest, w.length ≤ fuel → isNumberChar mark = false →
    ∃ b, Blank b ∧ skipValue fuel (w ++ mark :: rest) = some (b ++ mark :: rest)
  | .items, w => ∀ fuel rest, w.length < fuel → skipItems fuel (w ++ ']' :: rest) = some rest
  | .member, w => ∀ fuel mark rest, w.length ≤ fuel → isNumberChar mark = false →
    ∃ b middle, Blank b ∧ (skipQuoted (w ++ mark :: rest)).bind (expect? ':') = some middle ∧
      skipValue fuel middle = some (b ++ mark :: rest)
  | .members, w => ∀ fuel rest, w.length < fuel →
    skipMembers fuel (w ++ '\x7d' :: rest) = some rest

theorem skipValue_list (fuel : Nat) (cs : List Char) :
    skipValue (fuel + 1) ('[' :: cs) =
      match expect? ']' cs with
      | some rest => some rest
      | none => skipItems fuel cs := rfl

theorem skipValue_object (fuel : Nat) (cs : List Char) :
    skipValue (fuel + 1) ('\x7b' :: cs) =
      match expect? '\x7d' cs with
      | some rest => some rest
      | none => skipMembers fuel cs := rfl

namespace Skips

variable {b w w' : List Char}

theorem word (known : w = "null".toList ∨ w = "true".toList ∨ w = "false".toList) :
    Skips .value w := by
  intro fuel rest enough _
  rcases known with rfl | rfl | rfl
  all_goals
    obtain ⟨fuel, rfl⟩ := Nat.exists_eq_add_one_of_ne_zero (Nat.ne_zero_of_lt enough)
    rfl

theorem number (numeral : Numeral w) : Skips .value w := by
  intro fuel rest enough stop
  obtain ⟨c, cs, rfl, numeric⟩ := numeral.cons
  obtain ⟨fuel, rfl⟩ := Nat.exists_eq_add_one_of_ne_zero (Nat.ne_zero_of_lt enough)
  rw [List.cons_append, skipValue_numeric numeric, ← List.cons_append]
  exact skipNumber_numeral numeral stop

theorem text (quotable : Quotable w) : Skips .value ('"' :: (w ++ ['"'])) := by
  intro fuel rest enough _
  obtain ⟨fuel, rfl⟩ := Nat.exists_eq_add_one_of_ne_zero (Nat.ne_zero_of_lt enough)
  rw [List.cons_append, List.append_assoc]
  exact skipText_quotable quotable rest

theorem emptyList (blank : Blank b) : Skips .value ('[' :: (b ++ [']'])) := by
  intro fuel rest enough _
  obtain ⟨fuel, rfl⟩ := Nat.exists_eq_add_one_of_ne_zero (Nat.ne_zero_of_lt enough)
  rw [List.cons_append, List.append_assoc, skipValue_list, expect?_blank blank]
  rfl

theorem list (items : Follows .items w) (h : Skips .items w) :
    Skips .value ('[' :: (w ++ [']'])) := by
  intro fuel rest enough _
  obtain ⟨fuel, rfl⟩ := Nat.exists_eq_add_one_of_ne_zero (Nat.ne_zero_of_lt enough)
  simp only [List.length_cons, List.length_append, List.length_nil] at enough
  rw [List.cons_append, List.append_assoc, skipValue_list, items.items_not_end]
  exact h fuel rest (by omega)

theorem emptyObject (blank : Blank b) : Skips .value ('\x7b' :: (b ++ ['\x7d'])) := by
  intro fuel rest enough _
  obtain ⟨fuel, rfl⟩ := Nat.exists_eq_add_one_of_ne_zero (Nat.ne_zero_of_lt enough)
  rw [List.cons_append, List.append_assoc, skipValue_object, expect?_blank blank]
  rfl

theorem object (members : Follows .members w) (h : Skips .members w) :
    Skips .value ('\x7b' :: (w ++ ['\x7d'])) := by
  intro fuel rest enough _
  obtain ⟨fuel, rfl⟩ := Nat.exists_eq_add_one_of_ne_zero (Nat.ne_zero_of_lt enough)
  simp only [List.length_cons, List.length_append, List.length_nil] at enough
  rw [List.cons_append, List.append_assoc, skipValue_object, members.members_not_end]
  exact h fuel rest (by omega)

theorem item {v b' : List Char} (before : Blank b) (behind : Blank b') (h : Skips .value v) :
    Skips .item (b ++ (v ++ b')) := by
  intro fuel mark rest enough other
  refine ⟨b', behind, ?_⟩
  rw [List.append_assoc, List.append_assoc, skipValue_blank before]
  simp only [List.length_append] at enough
  exact h fuel _ (by omega) (stopsNumber_behind behind other rest)

theorem lastItem (h : Skips .item w) : Skips .items w := by
  intro fuel rest enough
  obtain ⟨fuel, rfl⟩ := Nat.exists_eq_add_one_of_ne_zero (Nat.ne_zero_of_lt enough)
  obtain ⟨b, behind, skipped⟩ := h fuel ']' rest (Nat.le_of_lt_succ enough) rfl
  simp only [skipItems, skipped, expect?_blank behind]
  rfl

theorem moreItems (h : Skips .item w) (h' : Skips .items w') : Skips .items (w ++ ',' :: w') := by
  intro fuel rest enough
  obtain ⟨fuel, rfl⟩ := Nat.exists_eq_add_one_of_ne_zero (Nat.ne_zero_of_lt enough)
  simp only [List.length_append, List.length_cons] at enough
  rw [List.append_assoc, List.cons_append]
  obtain ⟨b, behind, skipped⟩ := h fuel ',' (w' ++ ']' :: rest) (by omega) rfl
  simp only [skipItems, skipped, expect?_blank behind]
  exact h' fuel rest (by omega)

theorem member {k : List Char} (key : InQuotes Quotable k) (h : Skips .item w) :
    Skips .member (k ++ ':' :: w) := by
  intro fuel mark rest enough other
  simp only [List.length_append, List.length_cons] at enough
  obtain ⟨b, behind, skipped⟩ := h fuel mark rest (by omega) other
  refine ⟨b, _, behind, (skipKey_eq_some_iff rfl).2 ⟨k, key, ?_⟩, skipped⟩
  rw [List.append_assoc, List.cons_append]

theorem lastMember (h : Skips .member w) : Skips .members w := by
  intro fuel rest enough
  obtain ⟨fuel, rfl⟩ := Nat.exists_eq_add_one_of_ne_zero (Nat.ne_zero_of_lt enough)
  obtain ⟨b, middle, behind, key, skipped⟩ := h fuel '\x7d' rest (Nat.le_of_lt_succ enough) rfl
  simp only [skipMembers, key, skipped, expect?_blank behind]
  rfl

theorem moreMembers (h : Skips .member w) (h' : Skips .members w') :
    Skips .members (w ++ ',' :: w') := by
  intro fuel rest enough
  obtain ⟨fuel, rfl⟩ := Nat.exists_eq_add_one_of_ne_zero (Nat.ne_zero_of_lt enough)
  simp only [List.length_append, List.length_cons] at enough
  rw [List.append_assoc, List.cons_append]
  obtain ⟨b, middle, behind, key, skipped⟩ := h fuel ',' (w' ++ '\x7d' :: rest) (by omega) rfl
  simp only [skipMembers, key, skipped, expect?_blank behind]
  exact h' fuel rest (by omega)

end Skips

/-- What follows the grammar is passed over. -/
theorem Follows.skips {p : Part} {w : List Char} (h : Follows p w) : Skips p w := by
  induction h with
  | word known => exact .word known
  | number numeral => exact .number numeral
  | text quotable => exact .text quotable
  | emptyList blank => exact .emptyList blank
  | list items ih => exact .list items ih
  | emptyObject blank => exact .emptyObject blank
  | object members ih => exact .object members ih
  | item before _ behind ih => exact .item before behind ih
  | lastItem _ ih => exact .lastItem ih
  | moreItems _ _ ih ih' => exact .moreItems ih ih'
  | member key _ ih => exact .member key ih
  | lastMember _ ih => exact .lastMember ih
  | moreMembers _ _ ih ih' => exact .moreMembers ih ih'

/-! ### What is passed over -/

theorem dropWord?_eq_some {w cs rest : List Char} (h : dropWord? w cs = some rest) :
    cs = w ++ rest := by
  induction w generalizing cs with
  | nil =>
    cases h
    rfl
  | cons c w ih =>
    cases cs with
    | nil => cases h
    | cons d cs =>
      rw [dropWord?] at h
      split at h
      next same =>
        rw [beq_iff_eq.1 same, ih h]
        rfl
      · cases h

/-- What is skipped with so much fuel as a value is one, perhaps behind blanks. -/
def PassesValues (fuel : Nat) : Prop :=
  ∀ {cs rest}, skipValue fuel cs = some rest →
    ∃ b v, Blank b ∧ Follows .value v ∧ cs = b ++ (v ++ rest)

def PassesItems (fuel : Nat) : Prop :=
  ∀ {cs rest}, skipItems fuel cs = some rest → ∃ w, Follows .items w ∧ cs = w ++ ']' :: rest

def PassesMembers (fuel : Nat) : Prop :=
  ∀ {cs rest}, skipMembers fuel cs = some rest →
    ∃ w, Follows .members w ∧ cs = w ++ '\x7d' :: rest

section Passing

variable {fuel : Nat}

theorem passesValues_succ (items : PassesItems fuel) (members : PassesMembers fuel) :
    PassesValues (fuel + 1) := by
  intro cs rest h
  rw [skipValue] at h
  split at h
  next behind found =>
    obtain ⟨b, blank, rfl⟩ := skipSpace_eq_cons found
    obtain ⟨w, quotable, rfl⟩ := quotable_of_skipText h
    exact ⟨b, _, blank, .text quotable, by simp⟩
  next behind found =>
    obtain ⟨b, blank, rfl⟩ := skipSpace_eq_cons found
    split at h
    next ended =>
      cases h
      obtain ⟨b', inner, rfl⟩ := (expect?_eq_some_iff rfl).1 ended
      exact ⟨b, _, blank, .emptyList inner, by simp⟩
    · obtain ⟨w, inner, rfl⟩ := items h
      exact ⟨b, _, blank, .list inner, by simp⟩
  next behind found =>
    obtain ⟨b, blank, rfl⟩ := skipSpace_eq_cons found
    split at h
    next ended =>
      cases h
      obtain ⟨b', inner, rfl⟩ := (expect?_eq_some_iff rfl).1 ended
      exact ⟨b, _, blank, .emptyObject inner, by simp⟩
    · obtain ⟨w, inner, rfl⟩ := members h
      exact ⟨b, _, blank, .object inner, by simp⟩
  next behind found =>
    obtain ⟨b, blank, rfl⟩ := skipSpace_eq_cons found
    rw [dropWord?_eq_some h]
    exact ⟨b, "true".toList, blank, .word (.inr (.inl rfl)), rfl⟩
  next behind found =>
    obtain ⟨b, blank, rfl⟩ := skipSpace_eq_cons found
    rw [dropWord?_eq_some h]
    exact ⟨b, "false".toList, blank, .word (.inr (.inr rfl)), rfl⟩
  next behind found =>
    obtain ⟨b, blank, rfl⟩ := skipSpace_eq_cons found
    rw [dropWord?_eq_some h]
    exact ⟨b, "null".toList, blank, .word (.inl rfl), rfl⟩
  · obtain ⟨w, numeral, same⟩ := numeral_of_skipNumber h
    refine ⟨cs.takeWhile isSpace, w, blank_takeWhile cs, .number numeral, ?_⟩
    rw [← same]
    exact List.takeWhile_append_dropWhile.symm

theorem passesItems_succ (values : PassesValues fuel) (items : PassesItems fuel) :
    PassesItems (fuel + 1) := by
  intro cs rest h
  rw [skipItems] at h
  split at h
  · cases h
  next behind skipped =>
    obtain ⟨b, v, before, value, rfl⟩ := values skipped
    split at h
    next more =>
      obtain ⟨b', behind, rfl⟩ := (expect?_eq_some_iff rfl).1 more
      obtain ⟨w, later, rfl⟩ := items h
      exact ⟨_, .moreItems (.item before value behind) later, by simp⟩
    · obtain ⟨b', behind, rfl⟩ := (expect?_eq_some_iff rfl).1 h
      exact ⟨_, .lastItem (.item before value behind), by simp⟩

theorem passesMembers_succ (values : PassesValues fuel) (members : PassesMembers fuel) :
    PassesMembers (fuel + 1) := by
  intro cs rest h
  rw [skipMembers] at h
  split at h
  · cases h
  next named =>
    obtain ⟨k, key, rfl⟩ := (skipKey_eq_some_iff rfl).1 named
    split at h
    · cases h
    next behind skipped =>
      obtain ⟨b, v, before, value, rfl⟩ := values skipped
      split at h
      next more =>
        obtain ⟨b', behind, rfl⟩ := (expect?_eq_some_iff rfl).1 more
        obtain ⟨w, later, rfl⟩ := members h
        exact ⟨_, .moreMembers (.member key (.item before value behind)) later, by simp⟩
      · obtain ⟨b', behind, rfl⟩ := (expect?_eq_some_iff rfl).1 h
        exact ⟨_, .lastMember (.member key (.item before value behind)), by simp⟩

theorem passes_all (fuel : Nat) : PassesValues fuel ∧ PassesItems fuel ∧ PassesMembers fuel := by
  induction fuel with
  | zero => refine ⟨?_, ?_, ?_⟩ <;> rintro cs rest ⟨⟩
  | succ fuel ih =>
    obtain ⟨values, items, members⟩ := ih
    exact ⟨passesValues_succ items members, passesItems_succ values items,
      passesMembers_succ values members⟩

end Passing

/-- Items are what is skipped before a mark that no number contains. -/
theorem skipItem_iff {mark : Char} (solid : isSpace mark = false)
    (other : isNumberChar mark = false) {cs rest : List Char} :
    (skipValue (cs.length + 1) cs).bind (expect? mark) = some rest ↔
      ∃ w, Follows .item w ∧ cs = w ++ mark :: rest := by
  rw [Option.bind_eq_some_iff]
  constructor
  · rintro ⟨behind, skipped, found⟩
    obtain ⟨b, v, before, value, rfl⟩ := (passes_all _).1 skipped
    obtain ⟨b', behind, rfl⟩ := (expect?_eq_some_iff solid).1 found
    exact ⟨_, .item before value behind, by simp⟩
  · rintro ⟨w, item, rfl⟩
    have enough : w.length ≤ (w ++ mark :: rest).length + 1 := by
      rw [List.length_append]
      omega
    obtain ⟨b, behind, skipped⟩ := item.skips _ mark rest enough other
    exact ⟨_, skipped, (expect?_eq_some_iff solid).2 ⟨b, behind, rfl⟩⟩

end ProvingGround.Json
