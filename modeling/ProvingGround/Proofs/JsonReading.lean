import ProvingGround.Json.Reader

/-!
# Written JSON is read back

A value of words and texts, in lists and objects, is read back from its written form with whatever
follows it left over. Texts may hold any characters. Numbers are left out: nothing that a run hands
over carries one.
-/

namespace ProvingGround.Json

open Text

/-! ### Texts -/

theorem hexValue?_hexDigit {n : Nat} (h : n < 16) : hexValue? (hexDigit n) = some n := by
  have all : ∀ k : Fin 16, hexValue? (hexDigit k) = some k.1 := by decide +kernel
  exact all ⟨n, h⟩

/-- The numeric escape of a control character. -/
theorem readEscapedUnit_control {c : Char} (control : c.toNat < 0x20) (rest : List Char) :
    readEscapedUnit ('0' :: '0' :: hexDigit (c.toNat / 16) :: hexDigit (c.toNat % 16) :: rest) =
      some (c, rest) := by
  have zero : hexValue? '0' = some 0 := by decide
  have unit : readUnit
      ('0' :: '0' :: hexDigit (c.toNat / 16) :: hexDigit (c.toNat % 16) :: rest) =
      some (c.toNat, rest) := by
    have value : ((0 * 16 + 0) * 16 + c.toNat / 16) * 16 + c.toNat % 16 = c.toNat := by omega
    simp only [readUnit, zero, hexValue?_hexDigit (n := c.toNat / 16) (by omega),
      hexValue?_hexDigit (n := c.toNat % 16) (by omega), Option.bind_eq_bind, Option.bind_some, value]
  unfold readEscapedUnit
  rw [unit]
  simp only [Option.bind_eq_bind, Option.bind_some]
  rw [if_neg (by omega), if_neg (by omega), Char.ofNat_toNat]

/-- An escaped character is read back in one step. -/
theorem readText_escape (c : Char) (fuel : Nat) (rest acc : List Char) :
    readText (fuel + 1) (escape c ++ rest) acc = readText fuel rest (c :: acc) := by
  unfold escape
  split
  · rfl
  · rfl
  · rfl
  · rfl
  · rfl
  · rfl
  · rfl
  next quote backslash _ _ _ _ _ =>
    split
    next control =>
      have unit := readEscapedUnit_control control rest
      simp only [List.cons_append, List.nil_append, readText, readEscape, unit]
    next plain =>
      rw [List.singleton_append, readText]
      · rw [if_neg plain]
      · exact quote
      · exact backslash

theorem readText_flatMap_escape (cs : List Char) {fuel : Nat} (enough : cs.length < fuel)
    (rest acc : List Char) :
    readText fuel (cs.flatMap escape ++ '"' :: rest) acc =
      some (String.ofList (acc.reverse ++ cs), rest) := by
  induction cs generalizing fuel acc with
  | nil =>
    obtain ⟨fuel, rfl⟩ := Nat.exists_eq_add_one_of_ne_zero (Nat.ne_zero_of_lt enough)
    rw [List.append_nil]
    rfl
  | cons c cs ih =>
    obtain ⟨fuel, rfl⟩ := Nat.exists_eq_add_one_of_ne_zero (Nat.ne_zero_of_lt enough)
    rw [List.flatMap_cons, List.append_assoc, readText_escape,
      ih (Nat.lt_of_succ_lt_succ enough), List.reverse_cons, List.append_assoc]
    rfl

theorem length_le_flatMap_escape (cs : List Char) : cs.length ≤ (cs.flatMap escape).length := by
  induction cs with
  | nil => exact Nat.le_refl 0
  | cons c cs ih =>
    have some_ : 0 < (escape c).length := by
      unfold escape
      split <;> first | exact Nat.succ_pos _ | (split <;> exact Nat.succ_pos _)
    rw [List.flatMap_cons, List.length_append, List.length_cons]
    omega

theorem toList_quote (s : String) :
    (quote s).toList = '"' :: (s.toList.flatMap escape ++ ['"']) := by
  simp only [quote, String.toList_append, String.toList_ofList, List.append_assoc]
  rfl

/-- A quoted text behind its opening quote. -/
theorem readText_quoted (s : String) (rest : List Char) :
    readText ((s.toList.flatMap escape ++ '"' :: rest).length + 1)
        (s.toList.flatMap escape ++ '"' :: rest) [] = some (s, rest) := by
  have length := length_le_flatMap_escape s.toList
  rw [readText_flatMap_escape s.toList (by rw [List.length_append]; omega), List.reverse_nil,
    List.nil_append, String.ofList_toList]

/-! ### Values -/

theorem skipSpace_cons {c : Char} (solid : isSpace c = false) (cs : List Char) :
    skipSpace (c :: cs) = c :: cs :=
  List.dropWhile_cons_of_neg (by simp [solid])

/-- A value without numbers, nested to a depth at most. -/
inductive Worded : (depth : Nat) → Json → Prop where
  | null {depth : Nat} : Worded depth null
  | bool {depth : Nat} (b : Bool) : Worded depth (bool b)
  | text {depth : Nat} (s : String) : Worded depth (text s)
  | list {depth : Nat} {items : List Json} (each : ∀ v ∈ items, Worded depth v) :
      Worded (depth + 1) (list items)
  | object {depth : Nat} {members : List (String × Json)} (each : ∀ m ∈ members, Worded depth m.2) :
      Worded (depth + 1) (object members)

@[simp] theorem worded_bool {depth : Nat} {b : Bool} : Worded depth (Json.bool b) := .bool b

@[simp] theorem worded_text {depth : Nat} {s : String} : Worded depth (Json.text s) := .text s

@[simp] theorem worded_object_iff {depth : Nat} {members : List (String × Json)} :
    Worded (depth + 1) (object members) ↔ ∀ m ∈ members, Worded depth m.2 :=
  ⟨fun | .object each => each, .object⟩

/-- The characters of a value in its written form. -/
def chars (j : Json) : List Char := j.render.toList

def memberChars (m : String × Json) : List Char := (quote m.1).toList ++ ':' :: m.2.chars

/-- The characters of parts in a row, up to the closing one. -/
def sequence (parts : List (List Char)) : List Char := [','].intercalate parts

theorem renderItems_eq_map (items : List Json) : renderItems items = items.map render := by
  induction items with
  | nil => rw [renderItems, List.map_nil]
  | cons v rest ih => rw [renderItems, ih, List.map_cons]

theorem renderMembers_eq_map (members : List (String × Json)) :
    renderMembers members = members.map fun m => quote m.1 ++ ":" ++ m.2.render := by
  induction members with
  | nil => rw [renderMembers, List.map_nil]
  | cons m rest ih => rw [renderMembers, ih, List.map_cons]

theorem chars_text (s : String) : (text s).chars = (quote s).toList := by
  rw [chars, render]

theorem chars_list (items : List Json) :
    (list items).chars = '[' :: (sequence (items.map chars) ++ [']']) := by
  simp only [chars, render, renderItems_eq_map, String.toList_append, String.toList_intercalate,
    List.map_map, List.append_assoc]
  rfl

theorem chars_object (members : List (String × Json)) :
    (object members).chars = '\x7b' :: (sequence (members.map memberChars) ++ ['\x7d']) := by
  have member : ∀ m : String × Json, (quote m.1 ++ ":" ++ m.2.render).toList = memberChars m := by
    intro m
    simp only [memberChars, chars, String.toList_append, List.append_assoc]
    rfl
  simp only [chars, render, renderMembers_eq_map, String.toList_append, String.toList_intercalate,
    List.map_map, List.append_assoc, Function.comp_def, member]
  rfl

theorem sequence_singleton (part : List Char) : sequence [part] = part :=
  List.intercalate_singleton

theorem sequence_cons_cons (part next : List Char) (parts : List (List Char)) :
    sequence (part :: next :: parts) = part ++ ',' :: sequence (next :: parts) := by
  unfold sequence
  rw [List.intercalate_cons_cons, List.append_assoc]
  rfl

theorem exists_sequence_cons (c : Char) (cs : List Char) (parts : List (List Char)) :
    ∃ tail, sequence ((c :: cs) :: parts) = c :: tail := by
  cases parts with
  | nil => exact ⟨cs, sequence_singleton _⟩
  | cons next parts => exact ⟨_, sequence_cons_cons _ _ _⟩

/-- A value begins with a character of its own. -/
theorem Worded.head_chars {depth : Nat} {j : Json} (h : Worded depth j) :
    ∃ c cs, j.chars = c :: cs ∧ isSpace c = false ∧ c ≠ ']' := by
  cases h with
  | null => exact ⟨'n', _, by rw [chars, render]; rfl, rfl, by decide⟩
  | bool b =>
    cases b with
    | true => exact ⟨'t', _, by rw [chars, render]; rfl, rfl, by decide⟩
    | false => exact ⟨'f', _, by rw [chars, render]; rfl, rfl, by decide⟩
  | text s => exact ⟨'"', _, by rw [chars_text, toList_quote], rfl, by decide⟩
  | list each => exact ⟨'[', _, chars_list _, rfl, by decide⟩
  | object each => exact ⟨'\x7b', _, chars_object _, rfl, by decide⟩

/-- The value is read back, with whatever follows it left over. -/
def ReadsBack (depth : Nat) (j : Json) : Prop :=
  ∀ fuel rest, j.chars.length ≤ fuel → readValue depth fuel (j.chars ++ rest) = some (j, rest)

section Sequences

variable {α : Type} {read : Nat → List Char → List α → Option (List α × List Char)}
  {part : α → List Char} {closing : Char}

/-- The reader takes one part from the front, and goes on behind a comma or ends behind the closing
character. -/
structure ReadsPart (read : Nat → List Char → List α → Option (List α × List Char))
    (part : α → List Char) (closing : Char) (a : α) : Prop where
  next : ∀ fuel rest acc, (part a).length ≤ fuel →
    read (fuel + 1) (part a ++ ',' :: rest) acc = read fuel rest (a :: acc)
  last : ∀ fuel rest acc, (part a).length ≤ fuel →
    read (fuel + 1) (part a ++ closing :: rest) acc = some ((a :: acc).reverse, rest)

/-- What reads each of its parts reads the sequence. -/
theorem reads_sequence {a : α} {others : List α}
    (each : ∀ b ∈ a :: others, ReadsPart read part closing b) {fuel : Nat}
    (enough : (sequence ((a :: others).map part)).length < fuel) (rest : List Char)
    (acc : List α) :
    read fuel (sequence ((a :: others).map part) ++ closing :: rest) acc =
      some (acc.reverse ++ a :: others, rest) := by
  induction others generalizing a fuel acc with
  | nil =>
    obtain ⟨fuel, rfl⟩ := Nat.exists_eq_add_one_of_ne_zero (Nat.ne_zero_of_lt enough)
    rw [List.map_cons, List.map_nil, sequence_singleton] at enough ⊢
    rw [(each a List.mem_cons_self).last fuel rest acc (Nat.le_of_lt_succ enough),
      List.reverse_cons]
  | cons b others ih =>
    obtain ⟨fuel, rfl⟩ := Nat.exists_eq_add_one_of_ne_zero (Nat.ne_zero_of_lt enough)
    rw [List.map_cons, List.map_cons, sequence_cons_cons, ← List.map_cons] at enough ⊢
    rw [List.length_append, List.length_cons] at enough
    have fewer : (sequence ((b :: others).map part)).length < fuel := by omega
    have behind := ih (fun c hc => each c (List.mem_cons_of_mem a hc)) fewer (a :: acc)
    rw [List.append_assoc, List.cons_append,
      (each a List.mem_cons_self).next fuel _ acc (by omega), behind, List.reverse_cons,
      List.append_assoc]
    rfl

end Sequences

theorem ReadsBack.item {depth : Nat} {v : Json} (h : ReadsBack depth v) :
    ReadsPart (readItems depth) chars ']' v where
  next fuel rest acc enough := by
    rw [readItems, h fuel (',' :: rest) enough]
    rfl
  last fuel rest acc enough := by
    rw [readItems, h fuel (']' :: rest) enough]
    rfl

theorem memberChars_append (m : String × Json) (rest : List Char) :
    memberChars m ++ rest =
      '"' :: (m.1.toList.flatMap escape ++ '"' :: ':' :: (m.2.chars ++ rest)) := by
  rw [memberChars, toList_quote, List.append_assoc, List.cons_append, List.append_assoc,
    List.singleton_append, List.cons_append]

theorem ReadsBack.member {depth : Nat} {m : String × Json} (h : ReadsBack depth m.2) :
    ReadsPart (readMembers depth) memberChars '\x7d' m := by
  have value : ∀ fuel rest, (memberChars m).length ≤ fuel →
      readValue depth fuel (m.2.chars ++ rest) = some (m.2, rest) := by
    intro fuel rest enough
    apply h
    simp only [memberChars, List.length_append, List.length_cons] at enough
    omega
  have opening := skipSpace_cons (c := '"') rfl
  have colon := skipSpace_cons (c := ':') rfl
  constructor
  · intro fuel rest acc enough
    rw [memberChars_append, readMembers]
    simp only [opening, readText_quoted, colon, value fuel (',' :: rest) enough]
    rfl
  · intro fuel rest acc enough
    rw [memberChars_append, readMembers]
    simp only [opening, readText_quoted, colon, value fuel ('\x7d' :: rest) enough]
    rfl

/-! ### Reading back -/

theorem readsBack_text (depth : Nat) (s : String) : ReadsBack depth (text s) := by
  intro fuel rest enough
  rw [chars_text, toList_quote] at enough ⊢
  obtain ⟨fuel, rfl⟩ := Nat.exists_eq_add_one_of_ne_zero (Nat.ne_zero_of_lt enough)
  have opening := skipSpace_cons (c := '"') rfl
  rw [List.cons_append, List.append_assoc, List.singleton_append, readValue]
  simp only [opening, readText_quoted, Option.map_some]

/-- The fuel of a list or an object is enough for what it encloses. -/
theorem length_lt_of_enclosed {inner : List Char} {opening closing : Char} {fuel : Nat}
    (enough : (opening :: (inner ++ [closing])).length ≤ fuel + 1) : inner.length < fuel := by
  rw [List.length_cons, List.length_append, List.length_singleton] at enough
  omega

theorem readsBack_list {depth : Nat} {items : List Json}
    (heads : ∀ v ∈ items, ∃ c cs, v.chars = c :: cs ∧ isSpace c = false ∧ c ≠ ']')
    (each : ∀ v ∈ items, ReadsBack depth v) : ReadsBack (depth + 1) (list items) := by
  intro fuel rest enough
  have opening := skipSpace_cons (c := '[') rfl
  rw [chars_list] at enough ⊢
  obtain ⟨fuel, rfl⟩ := Nat.exists_eq_add_one_of_ne_zero (Nat.ne_zero_of_lt enough)
  rw [List.cons_append, List.append_assoc, List.singleton_append, readValue]
  simp only [opening]
  cases items with
  | nil => rfl
  | cons v items =>
    have parts := reads_sequence (fun w hw => (each w hw).item)
      (length_lt_of_enclosed enough) rest []
    obtain ⟨c, cs, head, space, other⟩ := heads v List.mem_cons_self
    obtain ⟨tail, whole⟩ := exists_sequence_cons c cs (items.map chars)
    rw [List.map_cons, head, whole, List.cons_append] at parts ⊢
    rw [skipSpace_cons space]
    split
    · next closed =>
      cases closed
      exact absurd rfl other
    · rw [parts]
      rfl

theorem readsBack_object {depth : Nat} {members : List (String × Json)}
    (each : ∀ m ∈ members, ReadsBack depth m.2) : ReadsBack (depth + 1) (object members) := by
  intro fuel rest enough
  have opening := skipSpace_cons (c := '\x7b') rfl
  rw [chars_object] at enough ⊢
  obtain ⟨fuel, rfl⟩ := Nat.exists_eq_add_one_of_ne_zero (Nat.ne_zero_of_lt enough)
  rw [List.cons_append, List.append_assoc, List.singleton_append, readValue]
  simp only [opening]
  cases members with
  | nil => rfl
  | cons m members =>
    have parts := reads_sequence (fun n hn => (each n hn).member)
      (length_lt_of_enclosed enough) rest []
    obtain ⟨tail, whole⟩ := exists_sequence_cons '"' (m.1.toList.flatMap escape ++
      '"' :: ':' :: m.2.chars) (members.map memberChars)
    have head := memberChars_append m []
    rw [List.append_nil, List.append_nil] at head
    rw [List.map_cons, head, whole, List.cons_append] at parts ⊢
    rw [skipSpace_cons rfl]
    show Option.map _ (readMembers depth fuel ('"' :: (tail ++ '\x7d' :: rest)) []) = _
    rw [parts]
    rfl

/-- A word is read back by its letters. -/
theorem readsBack_word {depth : Nat} {j : Json} {c : Char} {cs : List Char} (word : j.chars = c :: cs)
    (reads : ∀ fuel rest, readValue depth (fuel + 1) (c :: (cs ++ rest)) = some (j, rest)) :
    ReadsBack depth j := by
  intro fuel rest enough
  rw [word] at enough ⊢
  obtain ⟨fuel, rfl⟩ := Nat.exists_eq_add_one_of_ne_zero (Nat.ne_zero_of_lt enough)
  exact reads fuel rest

/-- A value without numbers is read back from its written form. -/
theorem Worded.readsBack {depth : Nat} {j : Json} (h : Worded depth j) : ReadsBack depth j := by
  induction h with
  | null =>
    have word : Json.null.chars = ['n', 'u', 'l', 'l'] := by rw [chars, render]; rfl
    exact readsBack_word word fun fuel rest => by rw [readValue]; rfl
  | bool b =>
    cases b with
    | true =>
      have word : (Json.bool true).chars = ['t', 'r', 'u', 'e'] := by rw [chars, render]; rfl
      exact readsBack_word word fun fuel rest => by rw [readValue]; rfl
    | false =>
      have word : (Json.bool false).chars = ['f', 'a', 'l', 's', 'e'] := by rw [chars, render]; rfl
      exact readsBack_word word fun fuel rest => by rw [readValue]; rfl
  | text s => exact readsBack_text _ s
  | list each ih => exact readsBack_list (fun v hv => (each v hv).head_chars) ih
  | object each ih => exact readsBack_object ih

theorem read?_render {j : Json} (h : Worded depthLimit j) : read? j.render = some j := by
  have back := h.readsBack (2 * j.chars.length + 2) [] (by omega)
  rw [List.append_nil] at back
  unfold chars at back
  unfold read?
  dsimp only
  rw [back]
  rfl

end ProvingGround.Json
