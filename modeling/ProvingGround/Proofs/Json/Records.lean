import Mathlib.Data.List.Forall2
import Mathlib.Data.List.Nodup
import ProvingGround.Proofs.Json.Skipping

/-!
# What records say

A record is read from an object or a list that follows the grammar. Of an object it takes the texts
of the known keys, none of which stands twice, and of a list the texts in their order.
-/

namespace ProvingGround.Json

open Text

/-! ### Objects and lists of texts -/

/-- The characters make the members of an object: their keys, and their values as they are written.
-/
inductive Members : List Char → List (String × List Char) → Prop where
  | last {k key v} (named : Quoted k key) (item : Follows .item v) :
    Members (k ++ ':' :: v) [(key, v)]
  | more {k key v w ms} (named : Quoted k key) (item : Follows .item v) (more : Members w ms) :
    Members (k ++ ':' :: (v ++ ',' :: w)) ((key, v) :: ms)

/-- The characters are an object with these members, and blanks around it. -/
def IsObject (cs : List Char) (ms : List (String × List Char)) : Prop :=
  ∃ b w b', Blank b ∧ (Blank w ∧ ms = [] ∨ Members w ms) ∧ Blank b' ∧
    cs = b ++ '\x7b' :: (w ++ '\x7d' :: b')

/-- The text that members have under a key: that of the only one with the key, or none. -/
def HasText (ms : List (String × List Char)) (key s : String) : Prop :=
  (ms.filter fun m => m.1 = key) = [] ∧ s = "" ∨
    ∃ v, (ms.filter fun m => m.1 = key) = [(key, v)] ∧ Quoted v s

/-- The characters make the items of a list of texts. -/
inductive Texts : List Char → List String → Prop where
  | last {w s} (text : Quoted w s) : Texts w [s]
  | more {w w' s ss} (text : Quoted w s) (more : Texts w' ss) : Texts (w ++ ',' :: w') (s :: ss)

/-- The characters are a list of these texts, and blanks around it. -/
def IsTexts (cs : List Char) (ss : List String) : Prop :=
  ∃ b w b', Blank b ∧ (Blank w ∧ ss = [] ∨ Texts w ss) ∧ Blank b' ∧
    cs = b ++ '[' :: (w ++ ']' :: b')

/-- What a record takes of members: the texts of the known keys. -/
def Taken (keys : List String) (ms : List (String × List Char))
    (fields : List (String × String)) : Prop :=
  List.Forall₂ (fun m f => m.1 = f.1 ∧ Quoted m.2 f.2) (ms.filter fun m => m.1 ∈ keys) fields

/-! ### Texts that are read -/

theorem readUnit_eq_some_iff {cs rest : List Char} {n : Nat} :
    readUnit cs = some (n, rest) ↔ ∃ ds, HexUnit ds n ∧ cs = ds ++ rest := by
  constructor
  · intro h
    unfold readUnit at h
    split at h
    next a b c d rest' =>
      simp only [Option.bind_eq_bind, Option.bind_eq_some_iff, Option.some.injEq,
        Prod.mk.injEq, hexValue?_eq_some_iff] at h
      obtain ⟨w, first, x, second, y, third, z, fourth, rfl, rfl⟩ := h
      have value : ((w * 16 + x) * 16 + y) * 16 + z = 4096 * w + 256 * x + 16 * y + z := by omega
      rw [value]
      exact ⟨_, .digits first second third fourth, rfl⟩
    · cases h
  · rintro ⟨_, ⟨first, second, third, fourth⟩, rfl⟩
    next w x y z =>
      have value : ((w * 16 + x) * 16 + y) * 16 + z = 4096 * w + 256 * x + 16 * y + z := by omega
      simp only [List.cons_append, List.nil_append, readUnit, hexValue?_eq_some_iff.2 first,
        hexValue?_eq_some_iff.2 second, hexValue?_eq_some_iff.2 third,
        hexValue?_eq_some_iff.2 fourth, Option.bind_eq_bind, Option.bind_some, value]

theorem readEscapedUnit_sound {cs rest : List Char} {c : Char}
    (h : readEscapedUnit cs = some (c, rest)) :
    ∃ e, Escape ('u' :: e) c ∧ cs = e ++ rest := by
  unfold readEscapedUnit at h
  rw [Option.bind_eq_bind, Option.bind_eq_some_iff] at h
  obtain ⟨⟨high, behind⟩, read, h⟩ := h
  obtain ⟨ds, first, rfl⟩ := readUnit_eq_some_iff.1 read
  dsimp only at h
  split at h
  next leads =>
    split at h
    next later =>
      rw [Option.bind_eq_some_iff] at h
      obtain ⟨⟨low, behind⟩, read, h⟩ := h
      obtain ⟨es, second, rfl⟩ := readUnit_eq_some_iff.1 read
      dsimp only at h
      split at h
      next trails =>
        rw [Option.some.injEq, Prod.mk.injEq] at h
        obtain ⟨rfl, rfl⟩ := h
        exact ⟨_, .pair first second leads trails, by simp⟩
      · cases h
    · cases h
  next single =>
    split at h
    · cases h
    next single' =>
      rw [Option.some.injEq, Prod.mk.injEq] at h
      obtain ⟨rfl, rfl⟩ := h
      exact ⟨_, .unit first (by omega), rfl⟩

theorem readEscape_eq_some_iff {cs rest : List Char} {c : Char} :
    readEscape cs = some (c, rest) ↔ ∃ e, Escape e c ∧ cs = e ++ rest := by
  constructor
  · intro h
    unfold readEscape at h
    split at h
    · cases h
      exact ⟨['"'], .short (by decide), rfl⟩
    · cases h
      exact ⟨['\\'], .short (by decide), rfl⟩
    · cases h
      exact ⟨['/'], .short (by decide), rfl⟩
    · cases h
      exact ⟨['b'], .short (by decide), rfl⟩
    · cases h
      exact ⟨['f'], .short (by decide), rfl⟩
    · cases h
      exact ⟨['n'], .short (by decide), rfl⟩
    · cases h
      exact ⟨['r'], .short (by decide), rfl⟩
    · cases h
      exact ⟨['t'], .short (by decide), rfl⟩
    · obtain ⟨e, escape, rfl⟩ := readEscapedUnit_sound h
      exact ⟨_, escape, rfl⟩
    · cases h
  · rintro ⟨e, escape, rfl⟩
    cases escape with
    | short known =>
      simp only [shortEscapes, List.mem_cons, Prod.mk.injEq, List.not_mem_nil, or_false] at known
      rcases known with ⟨rfl, rfl⟩ | ⟨rfl, rfl⟩ | ⟨rfl, rfl⟩ | ⟨rfl, rfl⟩ | ⟨rfl, rfl⟩ |
        ⟨rfl, rfl⟩ | ⟨rfl, rfl⟩ | ⟨rfl, rfl⟩ <;> rfl
    | unit digits single =>
      rw [List.cons_append, readEscape, readEscapedUnit, readUnit_eq_some_iff.2 ⟨_, digits, rfl⟩]
      simp only [Option.bind_eq_bind, Option.bind_some]
      rw [if_neg (by omega), if_neg (by omega)]
    | @pair ds es high low first second leads trails =>
      have lead : readUnit (ds ++ '\\' :: 'u' :: (es ++ rest)) =
          some (high, '\\' :: 'u' :: (es ++ rest)) := readUnit_eq_some_iff.2 ⟨_, first, rfl⟩
      have trail : readUnit (es ++ rest) = some (low, rest) :=
        readUnit_eq_some_iff.2 ⟨_, second, rfl⟩
      simp only [List.cons_append, List.append_assoc, readEscape, readEscapedUnit, lead, trail,
        Option.bind_eq_bind, Option.bind_some, if_pos leads, if_pos trails]

theorem readText_spelled {w t : List Char} (spelled : Spells w t) {fuel : Nat}
    (enough : w.length < fuel) (rest acc : List Char) :
    readText fuel (w ++ '"' :: rest) acc = some (String.ofList (acc.reverse ++ t), rest) := by
  induction spelled generalizing fuel acc with
  | nil =>
    obtain ⟨fuel, rfl⟩ := Nat.exists_eq_add_one_of_ne_zero (Nat.ne_zero_of_lt enough)
    rw [List.append_nil]
    rfl
  | @plain c w t plain more ih =>
    obtain ⟨fuel, rfl⟩ := Nat.exists_eq_add_one_of_ne_zero (Nat.ne_zero_of_lt enough)
    obtain ⟨visible, quote, backslash⟩ := plain
    rw [List.cons_append, readText]
    · rw [if_neg (Nat.not_lt.2 visible), ih (Nat.lt_of_succ_lt_succ enough), List.reverse_cons,
        List.append_assoc]
      rfl
    · exact quote
    · exact backslash
  | @escape e c w t escape more ih =>
    obtain ⟨fuel, rfl⟩ := Nat.exists_eq_add_one_of_ne_zero (Nat.ne_zero_of_lt enough)
    simp only [List.length_append, List.length_cons] at enough
    simp only [List.cons_append, List.append_assoc, readText,
      readEscape_eq_some_iff.2 ⟨e, escape, rfl⟩]
    rw [ih (by omega), List.reverse_cons, List.append_assoc]
    rfl

theorem spelled_of_readText {fuel : Nat} {cs rest acc : List Char} {s : String}
    (h : readText fuel cs acc = some (s, rest)) :
    ∃ w t, Spells w t ∧ cs = w ++ '"' :: rest ∧ s = String.ofList (acc.reverse ++ t) := by
  induction fuel generalizing cs acc with
  | zero => cases h
  | succ fuel ih =>
    unfold readText at h
    split at h
    · cases h
    next rest' =>
      cases h
      exact ⟨[], [], .nil, rfl, by rw [List.append_nil]⟩
    next behind =>
      split at h
      · cases h
      next c behind escaped =>
        obtain ⟨e, escape, rfl⟩ := readEscape_eq_some_iff.1 escaped
        obtain ⟨w, t, spelled, rfl, rfl⟩ := ih h
        exact ⟨_, _, .escape escape spelled, by simp, by simp⟩
    next c behind quote backslash =>
      split at h
      · cases h
      next visible =>
        obtain ⟨w, t, spelled, rfl, rfl⟩ := ih h
        exact ⟨_, _, .plain ⟨Nat.le_of_not_lt visible, quote, backslash⟩ spelled, rfl, by simp⟩

section Keys

variable {cs rest : List Char} {s : String}

theorem readQuoted_eq_some_iff : readQuoted cs = some (s, rest) ↔
    ∃ b w, Blank b ∧ Spells w s.toList ∧ cs = b ++ '"' :: (w ++ '"' :: rest) := by
  unfold readQuoted
  constructor
  · intro h
    split at h
    · cases h
    next behind quote =>
      obtain ⟨b, blank, rfl⟩ := (expect?_eq_some_iff rfl).1 quote
      obtain ⟨w, t, spelled, rfl, rfl⟩ := spelled_of_readText h
      refine ⟨b, w, blank, ?_, rfl⟩
      rwa [List.reverse_nil, List.nil_append, String.toList_ofList]
  · rintro ⟨b, w, blank, spelled, rfl⟩
    rw [(expect?_eq_some_iff rfl).2 ⟨b, blank, rfl⟩]
    have enough : w.length < (w ++ '"' :: rest).length + 1 := by
      rw [List.length_append]
      omega
    dsimp only
    rw [readText_spelled spelled enough, List.reverse_nil, List.nil_append, String.ofList_toList]

/-- A text is what is read before a mark. -/
theorem readMarked_iff {mark : Char} (solid : isSpace mark = false) :
    (∃ behind, readQuoted cs = some (s, behind) ∧ expect? mark behind = some rest) ↔
      ∃ k, Quoted k s ∧ cs = k ++ mark :: rest := by
  unfold Quoted
  rw [← inQuotes_iff solid]
  simp only [readQuoted_eq_some_iff]
  constructor
  · rintro ⟨behind, ⟨b, w, blank, spelled, same⟩, found⟩
    exact ⟨b, w, behind, blank, spelled, same, found⟩
  · rintro ⟨b, w, behind, blank, spelled, same, found⟩
    exact ⟨behind, ⟨b, w, blank, spelled, same⟩, found⟩

theorem Quoted.read {k : List Char} (quoted : Quoted k s) (mark : Char)
    (solid : isSpace mark = false) (rest : List Char) :
    ∃ behind, readQuoted (k ++ mark :: rest) = some (s, behind) ∧
      expect? mark behind = some rest := (readMarked_iff solid).2 ⟨k, quoted, rfl⟩

end Keys

/-! ### Members that are read -/

theorem Spells.quotable {w t : List Char} (h : Spells w t) : Quotable w := by
  induction h with
  | nil => exact .nil
  | plain plain more ih => exact .plain plain ih
  | escape escape more ih =>
    cases escape with
    | short known => exact .short known ih
    | unit digits single => exact .unit digits ih
    | pair first second leads trails =>
      have both := Quotable.unit first (.unit second ih)
      simpa only [List.cons_append, List.append_assoc] using both

theorem Quoted.item {v : List Char} {s : String} (h : Quoted v s) : Follows .item v := by
  obtain ⟨b, w, b', before, spelled, behind, rfl⟩ := h
  have item := Follows.item before (.text spelled.quotable) behind
  simpa only [List.cons_append, List.append_assoc, List.nil_append] using item

/-- Where one mark is found there is no other. -/
theorem expect?_other {mark : Char} {cs rest : List Char} (found : expect? mark cs = some rest)
    {other : Char} (differs : mark ≠ other) : expect? other cs = none := by
  unfold expect? at found ⊢
  split at found
  · rfl
  next c behind first =>
    split at found
    next same =>
      rw [beq_iff_eq.1 same, if_neg (by simpa using differs)]
    · cases found

section Fields

variable {keys : List String}

theorem taken_known {key : String} {v : List Char} {field : List (String × String)}
    (known : key ∈ keys) :
    Taken keys [(key, v)] field ↔ ∃ s, Quoted v s ∧ field = [(key, s)] := by
  unfold Taken
  rw [List.filter_cons_of_pos (by simpa using known), List.filter_nil]
  constructor
  · intro h
    cases h with
    | @cons _ f _ _ taken rest =>
      cases rest
      obtain ⟨rfl, quoted⟩ := taken
      exact ⟨f.2, quoted, rfl⟩
  · rintro ⟨s, quoted, rfl⟩
    exact .cons ⟨rfl, quoted⟩ .nil

theorem taken_other {key : String} {v : List Char} {field : List (String × String)}
    (other : key ∉ keys) : Taken keys [(key, v)] field ↔ field = [] := by
  unfold Taken
  rw [List.filter_cons_of_neg (by simpa using other), List.filter_nil, List.forall₂_nil_left_iff]

/-- What is taken of members is taken of each of them in turn. -/
theorem taken_cons {m : String × List Char} {ms : List (String × List Char)}
    {fields : List (String × String)} :
    Taken keys (m :: ms) fields ↔
      ∃ field later, Taken keys [m] field ∧ Taken keys ms later ∧ fields = field ++ later := by
  obtain ⟨key, v⟩ := m
  by_cases known : key ∈ keys
  · simp only [taken_known known]
    unfold Taken
    rw [List.filter_cons_of_pos (by simpa using known), List.forall₂_cons_left_iff]
    constructor
    · rintro ⟨⟨_, s⟩, later, ⟨rfl, quoted⟩, rest, rfl⟩
      exact ⟨_, later, ⟨s, quoted, rfl⟩, rest, rfl⟩
    · rintro ⟨_, later, ⟨s, quoted, rfl⟩, rest, rfl⟩
      exact ⟨(key, s), later, ⟨rfl, quoted⟩, rest, rfl⟩
  · simp only [taken_other known]
    unfold Taken
    rw [List.filter_cons_of_neg (by simpa using known)]
    constructor
    · intro rest
      exact ⟨[], fields, rfl, rest, rfl⟩
    · rintro ⟨_, later, rfl, rest, rfl⟩
      exact rest

theorem readField_iff {key : String} {mark : Char} {cs rest : List Char}
    {field : List (String × String)} (solid : isSpace mark = false)
    (numberless : isNumberChar mark = false) :
    (∃ behind, readField keys key cs = some (field, behind) ∧
        expect? mark behind = some rest) ↔
      ∃ v, Follows .item v ∧ Taken keys [(key, v)] field ∧ cs = v ++ mark :: rest := by
  unfold readField
  by_cases known : key ∈ keys
  · simp only [List.contains_iff_mem.2 known, if_true, taken_known known, Option.map_eq_some_iff,
      Prod.mk.injEq, Prod.exists]
    constructor
    · rintro ⟨behind, ⟨s, _, read, rfl, rfl⟩, found⟩
      obtain ⟨v, quoted, rfl⟩ := (readMarked_iff solid).1 ⟨_, read, found⟩
      exact ⟨v, quoted.item, ⟨s, quoted, rfl⟩, rfl⟩
    · rintro ⟨v, -, ⟨s, quoted, rfl⟩, rfl⟩
      obtain ⟨behind, read, found⟩ := (readMarked_iff solid).2 ⟨v, quoted, rfl⟩
      exact ⟨behind, ⟨s, behind, read, rfl, rfl⟩, found⟩
  · have other : keys.contains key = false := by simpa using known
    simp only [other, Bool.false_eq_true, if_false, taken_other known, Option.map_eq_some_iff,
      Prod.mk.injEq]
    constructor
    · rintro ⟨behind, ⟨_, skipped, rfl, rfl⟩, found⟩
      obtain ⟨v, item, rfl⟩ := (skipItem_iff solid numberless).1
        (Option.bind_eq_some_iff.2 ⟨_, skipped, found⟩)
      exact ⟨v, item, rfl, rfl⟩
    · rintro ⟨v, item, rfl, rfl⟩
      obtain ⟨behind, skipped, found⟩ := Option.bind_eq_some_iff.1
        ((skipItem_iff solid numberless).2 ⟨v, item, rfl⟩)
      exact ⟨behind, ⟨behind, skipped, rfl, rfl⟩, found⟩

theorem Taken.read {key : String} {v : List Char} {field : List (String × String)}
    (taken : Taken keys [(key, v)] field) (item : Follows .item v) (mark : Char)
    (solid : isSpace mark = false) (numberless : isNumberChar mark = false) (rest : List Char) :
    ∃ behind, readField keys key (v ++ mark :: rest) = some (field, behind) ∧
      expect? mark behind = some rest := (readField_iff solid numberless).2 ⟨v, item, taken, rfl⟩

theorem readFields_sound {fuel : Nat} {cs rest : List Char} {fields : List (String × String)}
    (h : readFields keys fuel cs = some (fields, rest)) :
    ∃ w ms, Members w ms ∧ Taken keys ms fields ∧ cs = w ++ '\x7d' :: rest := by
  induction fuel generalizing cs fields with
  | zero => cases h
  | succ fuel ih =>
    simp only [readFields, Option.bind_eq_bind, Option.bind_eq_some_iff, Prod.exists] at h
    obtain ⟨key, middle, read, behind, colon, field, last, value, h⟩ := h
    obtain ⟨k, named, rfl⟩ := (readMarked_iff rfl).1 ⟨_, read, colon⟩
    split at h
    next more =>
      obtain ⟨v, item, taken, rfl⟩ := (readField_iff rfl rfl).1 ⟨_, value, more⟩
      rw [Option.bind_eq_some_iff] at h
      obtain ⟨⟨later, behind⟩, rest', h⟩ := h
      cases h
      obtain ⟨w, ms, members, takes, rfl⟩ := ih rest'
      exact ⟨_, _, .more named item members, taken_cons.2 ⟨_, _, taken, takes, rfl⟩, by simp⟩
    · rw [Option.bind_eq_some_iff] at h
      obtain ⟨behind, ended, h⟩ := h
      cases h
      obtain ⟨v, item, taken, rfl⟩ := (readField_iff rfl rfl).1 ⟨_, value, ended⟩
      exact ⟨_, _, .last named item, taken, by simp⟩

theorem readFields_complete {w : List Char} {ms : List (String × List Char)}
    (members : Members w ms) {fields : List (String × String)} (taken : Taken keys ms fields)
    {fuel : Nat} (enough : w.length < fuel) (rest : List Char) :
    readFields keys fuel (w ++ '\x7d' :: rest) = some (fields, rest) := by
  induction members generalizing fields fuel with
  | @last k key v named item =>
    obtain ⟨fuel, rfl⟩ := Nat.exists_eq_add_one_of_ne_zero (Nat.ne_zero_of_lt enough)
    rw [List.append_assoc, List.cons_append]
    obtain ⟨middle, read, colon⟩ := named.read ':' rfl (v ++ '\x7d' :: rest)
    obtain ⟨behind, value, ended⟩ := taken.read item '\x7d' rfl rfl rest
    have last : expect? ',' behind = none := expect?_other ended (by decide)
    simp only [readFields, read, colon, value, last, ended, Option.bind_eq_bind, Option.bind_some]
  | @more k key v w ms named item more ih =>
    obtain ⟨fuel, rfl⟩ := Nat.exists_eq_add_one_of_ne_zero (Nat.ne_zero_of_lt enough)
    simp only [List.length_append, List.length_cons] at enough
    obtain ⟨field, later, first, takes, rfl⟩ := taken_cons.1 taken
    simp only [List.append_assoc, List.cons_append]
    obtain ⟨middle, read, colon⟩ := named.read ':' rfl (v ++ ',' :: (w ++ '\x7d' :: rest))
    obtain ⟨behind, value, next⟩ := first.read item ',' rfl rfl (w ++ '\x7d' :: rest)
    have later := ih takes (show w.length < fuel by omega)
    simp only [readFields, read, colon, value, next, later, Option.bind_eq_bind, Option.bind_some]

end Fields

/-! ### Texts of a list -/

theorem readTexts_sound {fuel : Nat} {cs rest : List Char} {ss : List String}
    (h : readTexts fuel cs = some (ss, rest)) : ∃ w, Texts w ss ∧ cs = w ++ ']' :: rest := by
  induction fuel generalizing cs ss with
  | zero => cases h
  | succ fuel ih =>
    simp only [readTexts, Option.bind_eq_bind, Option.bind_eq_some_iff, Prod.exists] at h
    obtain ⟨s, behind, read, h⟩ := h
    split at h
    next more =>
      obtain ⟨k, quoted, rfl⟩ := (readMarked_iff rfl).1 ⟨_, read, more⟩
      rw [Option.bind_eq_some_iff] at h
      obtain ⟨⟨later, behind⟩, rest', h⟩ := h
      cases h
      obtain ⟨w, texts, rfl⟩ := ih rest'
      exact ⟨_, .more quoted texts, by simp⟩
    · rw [Option.bind_eq_some_iff] at h
      obtain ⟨behind, ended, h⟩ := h
      cases h
      obtain ⟨k, quoted, rfl⟩ := (readMarked_iff rfl).1 ⟨_, read, ended⟩
      exact ⟨_, .last quoted, rfl⟩

theorem readTexts_complete {w : List Char} {ss : List String} (texts : Texts w ss) {fuel : Nat}
    (enough : w.length < fuel) (rest : List Char) :
    readTexts fuel (w ++ ']' :: rest) = some (ss, rest) := by
  induction texts generalizing fuel with
  | @last w s quoted =>
    obtain ⟨fuel, rfl⟩ := Nat.exists_eq_add_one_of_ne_zero (Nat.ne_zero_of_lt enough)
    obtain ⟨behind, read, ended⟩ := quoted.read ']' rfl rest
    have last : expect? ',' behind = none := expect?_other ended (by decide)
    simp only [readTexts, read, last, ended, Option.bind_eq_bind, Option.bind_some]
  | @more w w' s ss quoted more ih =>
    obtain ⟨fuel, rfl⟩ := Nat.exists_eq_add_one_of_ne_zero (Nat.ne_zero_of_lt enough)
    simp only [List.length_append, List.length_cons] at enough
    rw [List.append_assoc, List.cons_append]
    obtain ⟨behind, read, next⟩ := quoted.read ',' rfl (w' ++ ']' :: rest)
    have later := ih (show w'.length < fuel by omega)
    simp only [readTexts, read, next, later, Option.bind_eq_bind, Option.bind_some]

/-! ### Records -/

section Records

variable {keys : List String} {cs rest : List Char} {fields : List (String × String)}

theorem Members.expect?_eq_none {w : List Char} {ms : List (String × List Char)}
    (h : Members w ms) (rest : List Char) : expect? '\x7d' (w ++ rest) = none := by
  cases h with
  | last named item =>
    rw [List.append_assoc]
    exact named.expect?_eq_none (by decide) _
  | more named item more =>
    rw [List.append_assoc]
    exact named.expect?_eq_none (by decide) _

theorem Texts.expect?_eq_none {w : List Char} {ss : List String} (h : Texts w ss)
    (rest : List Char) : expect? ']' (w ++ rest) = none := by
  cases h with
  | last text => exact text.expect?_eq_none (by decide) _
  | more text more =>
    rw [List.append_assoc]
    exact text.expect?_eq_none (by decide) _

theorem readObject_eq_some_iff : readObject keys cs = some (fields, rest) ↔
    ∃ w ms, (Blank w ∧ ms = [] ∨ Members w ms) ∧ Taken keys ms fields ∧
      (fields.map Prod.fst).Nodup ∧ cs = w ++ '\x7d' :: rest := by
  unfold readObject
  constructor
  · intro h
    split at h
    next ended =>
      cases h
      obtain ⟨w, blank, rfl⟩ := (expect?_eq_some_iff rfl).1 ended
      exact ⟨w, [], .inl ⟨blank, rfl⟩, .nil, .nil, rfl⟩
    · rw [Option.filter_eq_some_iff, decide_eq_true_iff] at h
      obtain ⟨read, once⟩ := h
      obtain ⟨w, ms, members, taken, rfl⟩ := readFields_sound read
      exact ⟨w, ms, .inr members, taken, once, rfl⟩
  · rintro ⟨w, ms, ⟨blank, rfl⟩ | members, taken, once, rfl⟩
    · rw [(expect?_eq_some_iff rfl).2 ⟨w, blank, rfl⟩]
      cases taken
      rfl
    · rw [members.expect?_eq_none]
      have enough : w.length < (w ++ '\x7d' :: rest).length + 1 := by
        rw [List.length_append]
        omega
      dsimp only
      rw [readFields_complete members taken enough, Option.filter_eq_some_iff]
      exact ⟨rfl, decide_eq_true once⟩

theorem readList_eq_some_iff : readList keys cs = some (fields, rest) ↔
    ∃ w ss, (Blank w ∧ ss = [] ∨ Texts w ss) ∧ ss.length ≤ keys.length ∧ fields = keys.zip ss ∧
      cs = w ++ ']' :: rest := by
  unfold readList
  constructor
  · intro h
    split at h
    next ended =>
      cases h
      obtain ⟨w, blank, rfl⟩ := (expect?_eq_some_iff rfl).1 ended
      exact ⟨w, [], .inl ⟨blank, rfl⟩, Nat.zero_le _, List.zip_nil_right.symm, rfl⟩
    · rw [Option.bind_eq_bind, Option.bind_eq_some_iff] at h
      obtain ⟨⟨ss, behind⟩, read, h⟩ := h
      obtain ⟨w, texts, rfl⟩ := readTexts_sound read
      dsimp only at h
      split at h
      · cases h
      next fits =>
        cases h
        exact ⟨w, ss, .inr texts, Nat.le_of_not_lt fits, rfl, rfl⟩
  · rintro ⟨w, ss, ⟨blank, rfl⟩ | texts, fits, rfl, rfl⟩
    · rw [(expect?_eq_some_iff rfl).2 ⟨w, blank, rfl⟩, List.zip_nil_right]
    · rw [texts.expect?_eq_none]
      have enough : w.length < (w ++ ']' :: rest).length + 1 := by
        rw [List.length_append]
        omega
      simp only [readTexts_complete texts enough, Option.bind_eq_bind, Option.bind_some,
        if_neg (Nat.not_lt.2 fits)]

/-- A record is read of an object, from the texts under the known keys if no such key stands twice,
or of a list with no more texts than there are keys. -/
theorem readRecord?_eq_some_iff {s : String} : readRecord? keys s = some fields ↔
    (∃ ms, IsObject s.toList ms ∧ Taken keys ms fields ∧ (fields.map Prod.fst).Nodup) ∨
      ∃ ss, IsTexts s.toList ss ∧ ss.length ≤ keys.length ∧ fields = keys.zip ss := by
  unfold readRecord?
  rw [Option.bind_eq_bind, Option.bind_eq_some_iff]
  constructor
  · rintro ⟨⟨taken, rest⟩, read, h⟩
    dsimp only at h
    split at h
    next ended =>
      cases h
      have behind := skipSpace_eq_nil_iff.1 (List.isEmpty_iff.1 ended)
      unfold readEnclosed at read
      split at read
      next inner opened =>
        obtain ⟨b, before, same⟩ := (expect?_eq_some_iff rfl).1 opened
        obtain ⟨w, ms, members, taken, once, rfl⟩ := readObject_eq_some_iff.1 read
        exact .inl ⟨ms, ⟨b, w, rest, before, members, behind, same⟩, taken, once⟩
      · obtain ⟨inner, opened, read⟩ := Option.bind_eq_some_iff.1 read
        obtain ⟨b, before, same⟩ := (expect?_eq_some_iff rfl).1 opened
        obtain ⟨w, ss, texts, fits, rfl, rfl⟩ := readList_eq_some_iff.1 read
        exact .inr ⟨ss, ⟨b, w, rest, before, texts, behind, same⟩, fits, rfl⟩
    · cases h
  · rintro (⟨ms, ⟨b, w, b', before, members, behind, same⟩, taken, once⟩ |
      ⟨ss, ⟨b, w, b', before, texts, behind, same⟩, fits, rfl⟩)
    · have opened : expect? '\x7b' s.toList = some (w ++ '\x7d' :: b') :=
        (expect?_eq_some_iff rfl).2 ⟨b, before, same⟩
      refine ⟨(fields, b'), ?_, ?_⟩
      · rw [readEnclosed, opened]
        exact readObject_eq_some_iff.2 ⟨w, ms, members, taken, once, rfl⟩
      · simp only [skipSpace_eq_nil_iff.2 behind, List.isEmpty_nil, if_true]
    · have opened : expect? '[' s.toList = some (w ++ ']' :: b') :=
        (expect?_eq_some_iff rfl).2 ⟨b, before, same⟩
      have none_ : expect? '\x7b' s.toList = none := expect?_other opened (by decide)
      refine ⟨(keys.zip ss, b'), ?_, ?_⟩
      · rw [readEnclosed, none_, opened]
        exact readList_eq_some_iff.2 ⟨w, ss, texts, fits, rfl, rfl⟩
      · simp only [skipSpace_eq_nil_iff.2 behind, List.isEmpty_nil, if_true]

end Records

/-! ### What is said under a key -/

section Saying

variable {keys : List String} {key : String} {ms : List (String × List Char)}
  {fields : List (String × String)}

theorem hasText_known {s : String} (known : key ∈ keys) :
    HasText (ms.filter fun m => m.1 ∈ keys) key s ↔ HasText ms key s := by
  have same : ((ms.filter fun m => m.1 ∈ keys).filter fun m => m.1 = key) =
      ms.filter fun m => m.1 = key := by
    rw [List.filter_filter]
    apply List.filter_congr
    intro m _
    by_cases h : m.1 = key
    · simp [h, known]
    · simp [h]
  unfold HasText
  rw [same]

theorem keys_of_forall₂
    (taken : List.Forall₂ (fun m f => m.1 = f.1 ∧ Quoted m.2 f.2) ms fields) :
    ms.map Prod.fst = fields.map Prod.fst := by
  induction taken with
  | nil => rfl
  | cons same rest ih => rw [List.map_cons, List.map_cons, same.1, ih]

theorem hasText_of_forall₂
    (taken : List.Forall₂ (fun m f => m.1 = f.1 ∧ Quoted m.2 f.2) ms fields)
    (once : (fields.map Prod.fst).Nodup) (key : String) :
    HasText ms key ((fields.lookup key).getD "") := by
  induction taken with
  | nil => exact .inl ⟨rfl, rfl⟩
  | @cons m f ms fields same rest ih =>
    obtain ⟨named, quoted⟩ := same
    rw [List.map_cons, List.nodup_cons] at once
    obtain ⟨k, v⟩ := m
    obtain ⟨k, s⟩ := f
    obtain rfl : _ = k := named
    unfold HasText
    by_cases here : k = key
    · subst here
      have alone : (ms.filter fun m => m.1 = k) = [] := by
        rw [List.filter_eq_nil_iff]
        intro m hm again
        have later : m.1 ∈ fields.map Prod.fst := keys_of_forall₂ rest ▸ List.mem_map_of_mem hm
        rw [of_decide_eq_true again] at later
        exact once.1 later
      rw [List.filter_cons_of_pos (by simp), alone, List.lookup_cons, beq_self_eq_true]
      exact .inr ⟨v, rfl, quoted⟩
    · have differs : (key == k) = false := beq_eq_false_iff_ne.2 (Ne.symm here)
      rw [List.filter_cons_of_neg (by simpa using here), List.lookup_cons, differs]
      exact ih once.2

theorem lookup_map_pairs (ks : List String) (text : String → String) (key : String) :
    (ks.map fun k => (k, text k)).lookup key = if key ∈ ks then some (text key) else none := by
  induction ks with
  | nil => rfl
  | cons k ks ih =>
    rw [List.map_cons, List.lookup_cons, ih]
    by_cases here : key = k
    · subst here
      simp
    · simp [here, beq_eq_false_iff_ne.2 here]

theorem count_key (ms : List (String × List Char)) (key : String) :
    (ms.map Prod.fst).count key = (ms.filter fun m => m.1 = key).length := by
  rw [List.count, List.countP_map, List.countP_eq_length_filter]
  rfl

theorem HasText.count_le_one {s : String} (h : HasText ms key s) :
    (ms.map Prod.fst).count key ≤ 1 := by
  rw [count_key]
  obtain ⟨none_, -⟩ | ⟨v, one, -⟩ := h
  · rw [none_]
    exact Nat.zero_le 1
  · rw [one]
    exact Nat.le_refl 1

/-- Members that have one text at most under each known key make a record. -/
theorem exists_taken {text : String → String}
    (told : ∀ key ∈ keys, HasText ms key (text key)) :
    ∃ fields, Taken keys ms fields ∧ (fields.map Prod.fst).Nodup ∧
      ∀ key ∈ keys, (fields.lookup key).getD "" = text key := by
  let known := (ms.filter fun m => m.1 ∈ keys).map Prod.fst
  refine ⟨known.map fun k => (k, text k), ?_, ?_, ?_⟩
  · unfold Taken
    rw [List.map_map, List.forall₂_map_right_iff, List.forall₂_same]
    rintro ⟨key, v⟩ hm
    obtain ⟨hm, named⟩ := List.mem_filter.1 hm
    have member : (key, v) ∈ ms.filter fun m => m.1 = key := List.mem_filter.2 ⟨hm, by simp⟩
    obtain ⟨none_, -⟩ | ⟨v', one, quoted⟩ := told key (of_decide_eq_true named)
    · rw [none_] at member
      cases member
    · rw [one] at member
      cases List.mem_singleton.1 member
      exact ⟨rfl, quoted⟩
  · rw [List.map_map, show (Prod.fst ∘ fun k => (k, text k)) = id from rfl, List.map_id,
      List.nodup_iff_count_le_one]
    intro key
    by_cases named : key ∈ keys
    · have part : known.Sublist (ms.map Prod.fst) := List.filter_sublist.map Prod.fst
      exact Nat.le_trans (part.count_le key) (told key named).count_le_one
    · have absent : key ∉ known := by
        intro hk
        obtain ⟨m, hm, rfl⟩ := List.mem_map.1 hk
        exact named (of_decide_eq_true (List.mem_filter.1 hm).2)
      rw [List.count_eq_zero_of_not_mem absent]
      exact Nat.zero_le 1
  · intro key named
    rw [lookup_map_pairs]
    split
    · rfl
    next absent =>
      obtain ⟨-, none_⟩ | ⟨v, one, -⟩ := told key named
      · exact none_.symm
      · have member : (key, v) ∈ ms.filter fun m => m.1 = key := one ▸ List.mem_singleton_self _
        have inKnown : (key, v) ∈ ms.filter fun m => m.1 ∈ keys :=
          List.mem_filter.2 ⟨(List.mem_filter.1 member).1, decide_eq_true named⟩
        exact absurd (List.mem_map_of_mem inKnown) absent

end Saying

end ProvingGround.Json
