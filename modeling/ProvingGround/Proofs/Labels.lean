import Mathlib.Data.List.DropRight
import ProvingGround.Proofs.Intervals

/-!
# Generated names are labels

Whoever the user is, the operator of a run is a short label, and the name that is generated from it
is a label that a namespace may have. An operator is in its final form: deriving one from it gives
it back.
-/

namespace ProvingGround

open Text

/-! ### Labels -/

/-- The character may stand in a label. -/
def isLabelPart (c : Char) : Bool := isLabelChar c || c == '-'

/-- A text of letters, digits and hyphens with a letter or digit at either end, of one character at
least and of so many at most. -/
structure IsLabel (limit : Nat) (cs : List Char) : Prop where
  nonempty : cs ≠ []
  length : cs.length ≤ limit
  parts : ∀ c ∈ cs, isLabelPart c = true
  first : ∀ c ∈ cs.head?, isLabelChar c = true
  last : ∀ c ∈ cs.getLast?, isLabelChar c = true

theorem isLabelChar_of_isLabelPart {c : Char} (h : isLabelPart c = true) (hyphen : c ≠ '-') :
    isLabelChar c = true := by
  unfold isLabelPart at h
  rcases Bool.or_eq_true_iff.1 h with h | h
  · exact h
  · exact absurd (eq_of_beq h) hyphen

theorem ne_hyphen_of_isLabelChar {c : Char} (h : isLabelChar c = true) : c ≠ '-' := by
  rintro rfl
  exact absurd h (by decide)

/-- A character of a label is in lower case. -/
theorem lowerCase_of_isLabelPart {c : Char} (h : isLabelPart c = true) : lowerCase c = [c] := by
  have code : c.toNat < 0x41 ∨ 0x5A < c.toNat ∧ c.toNat < 0x80 := by
    simp only [isLabelPart, isLabelChar, Bool.or_eq_true, Bool.and_eq_true, decide_eq_true_eq,
      beq_iff_eq] at h
    rcases h with h | rfl
    · omega
    · decide
  have kelvin : c ≠ '\u212A' := by
    rintro rfl
    exact absurd code (by decide)
  have dotted : c ≠ '\u0130' := by
    rintro rfl
    exact absurd code (by decide)
  have lower : ¬ (c.val ≥ 'A'.val ∧ c.val ≤ 'Z'.val) := by
    rintro ⟨low, high⟩
    have low : 0x41 ≤ c.toNat := low
    have high : c.toNat ≤ 0x5A := high
    omega
  unfold lowerCase Char.toLower
  rw [if_neg kelvin, if_neg dotted, dif_neg lower]

/-! ### Trimming hyphens -/

section Trimming

variable {cs : List Char} {limit : Nat}

theorem ne_hyphen_of_head?_dropWhile {c : Char} (h : c ∈ (cs.dropWhile (· == '-')).head?) :
    c ≠ '-' := by
  have stop := List.head?_dropWhile_not (· == '-') cs
  rw [Option.mem_def.1 h] at stop
  simpa using stop

theorem prefix_trimHyphens (cs : List Char) : trimHyphens cs <+: cs.dropWhile (· == '-') :=
  List.rdropWhile_prefix (· == '-') (cs.dropWhile (· == '-'))

theorem ne_hyphen_of_head?_trimHyphens {c : Char} (h : c ∈ (trimHyphens cs).head?) : c ≠ '-' := by
  obtain ⟨rest, trimmed⟩ := List.head?_eq_some_iff.1 h
  obtain ⟨after, whole⟩ := prefix_trimHyphens cs
  have first : c ∈ (cs.dropWhile (· == '-')).head? := by
    rw [← whole, trimmed]
    rfl
  exact ne_hyphen_of_head?_dropWhile first

theorem ne_hyphen_of_getLast?_trimHyphens {c : Char} (h : c ∈ (trimHyphens cs).getLast?) :
    c ≠ '-' := by
  unfold trimHyphens at h
  rw [List.getLast?_reverse] at h
  exact ne_hyphen_of_head?_dropWhile h

/-- What is left without hyphens at the ends is a label. -/
theorem isLabel_trimHyphens (length : cs.length ≤ limit) (parts : ∀ c ∈ cs, isLabelPart c = true)
    (nonempty : trimHyphens cs ≠ []) : IsLabel limit (trimHyphens cs) := by
  have kept : (trimHyphens cs).Sublist cs :=
    (prefix_trimHyphens cs).sublist.trans (List.dropWhile_sublist _)
  have parts : ∀ c ∈ trimHyphens cs, isLabelPart c = true := fun c hc => parts c (kept.subset hc)
  refine ⟨nonempty, Nat.le_trans kept.length_le length, parts, ?_, ?_⟩
  · intro c hc
    exact isLabelChar_of_isLabelPart (parts c (List.mem_of_mem_head? hc))
      (ne_hyphen_of_head?_trimHyphens hc)
  · intro c hc
    exact isLabelChar_of_isLabelPart (parts c (List.mem_of_mem_getLast? hc))
      (ne_hyphen_of_getLast?_trimHyphens hc)

theorem IsLabel.trimHyphens_eq (h : IsLabel limit cs) : trimHyphens cs = cs := by
  have front : cs.dropWhile (· == '-') = cs := by
    obtain ⟨c, rest, rfl⟩ := List.exists_cons_of_ne_nil h.nonempty
    have first := ne_hyphen_of_isLabelChar (h.first c rfl)
    exact List.dropWhile_cons_of_neg (by simpa using first)
  have back : cs.rdropWhile (· == '-') = cs := by
    rw [List.rdropWhile_eq_self_iff]
    intro some_
    have last := ne_hyphen_of_isLabelChar (h.last _ (List.getLast?_eq_getLast_of_ne_nil some_))
    simpa using last
  show (cs.dropWhile (· == '-')).rdropWhile (· == '-') = cs
  rw [front, back]

end Trimming

/-! ### Operators -/

theorem isLabelPart_of_mem_labelChars {user : List Char} {c : Char} (h : c ∈ labelChars user) :
    isLabelPart c = true := by
  obtain ⟨d, -, rfl⟩ := List.mem_map.1 (List.mem_of_mem_take h)
  by_cases keeps : isLabelChar d = true
  · simp [isLabelPart, keeps]
  · simp [isLabelPart, keeps]

theorem IsLabel.labelChars_eq {cs : List Char} (h : IsLabel operatorLength cs) :
    labelChars cs = cs := by
  have lower : lowerCaseList cs = cs := by
    unfold lowerCaseList
    rw [List.flatMap_congr fun c hc => lowerCase_of_isLabelPart (h.parts c hc)]
    simp
  have kept : cs.map (fun c => if isLabelChar c then c else '-') = cs.map id := by
    apply List.map_congr_left
    intro c hc
    by_cases keeps : isLabelChar c = true
    · rw [if_pos keeps, id_eq]
    · rw [if_neg keeps]
      by_contra other
      exact keeps (isLabelChar_of_isLabelPart (h.parts c hc) (Ne.symm other))
  unfold labelChars
  rw [lower, kept, List.map_id, List.take_of_length_le h.length]

theorem operatorOf_eq_self {operator : String} (h : IsLabel operatorLength operator.toList) :
    operatorOf operator = operator := by
  have nonempty : operator.toList.isEmpty ≠ true := by simpa using h.nonempty
  unfold operatorOf
  simp only [h.labelChars_eq, h.trimHyphens_eq]
  rw [if_neg nonempty, String.ofList_toList]

theorem isLabel_usualOperator : IsLabel operatorLength usualOperator.toList where
  nonempty := by decide
  length := by decide
  parts := List.all_eq_true.1 (by decide)
  first c h := by
    cases h
    rfl
  last c h := by
    cases h
    rfl

theorem isLabel_operatorOf (user : String) : IsLabel operatorLength (operatorOf user).toList := by
  unfold operatorOf
  dsimp only
  split
  · exact isLabel_usualOperator
  · next some_ =>
    rw [String.toList_ofList]
    exact isLabel_trimHyphens (length_labelChars user.toList)
      (fun _ => isLabelPart_of_mem_labelChars) (by simpa using some_)

theorem operatorOf_operatorOf (user : String) : operatorOf (operatorOf user) = operatorOf user :=
  operatorOf_eq_self (isLabel_operatorOf user)

/-! ### Generated names -/

theorem isLabelChar_of_mem_text {draws : SuffixDraws} {c : Char} (h : c ∈ draws.text.toList) :
    isLabelChar c = true := by
  unfold SuffixDraws.text at h
  rw [String.toList_ofList] at h
  obtain ⟨d, -, rfl⟩ := List.mem_map.1 h
  exact isLabelChar_suffixAlphabet d

theorem SuffixDraws.length_text (draws : SuffixDraws) : draws.text.toList.length = suffixLength := by
  unfold text
  rw [String.toList_ofList, List.length_map, Vector.length_toList]

theorem toList_generatedName (operator : String) (draws : SuffixDraws) :
    (generatedName operator draws).toList = operator.toList ++ '-' :: draws.text.toList := by
  unfold generatedName
  rw [String.toList_append, String.toList_append, List.append_assoc]
  rfl

theorem isLabel_generatedName {operator : String} (h : IsLabel operatorLength operator.toList)
    (draws : SuffixDraws) : IsLabel labelLength (generatedName operator draws).toList := by
  have suffix : draws.text.toList ≠ [] := by
    rw [← List.length_pos_iff, draws.length_text]
    decide
  rw [toList_generatedName]
  refine ⟨by simp, ?_, ?_, ?_, ?_⟩
  · have operator_ := h.length
    have text := draws.length_text
    have fits : operatorLength + (suffixLength + 1) = labelLength := by decide
    simp only [List.length_append, List.length_cons]
    omega
  · intro c hc
    rcases List.mem_append.1 hc with hc | hc
    · exact h.parts c hc
    · rcases List.mem_cons.1 hc with rfl | hc
      · rfl
      · simp [isLabelPart, isLabelChar_of_mem_text hc]
  · rw [List.head?_append_of_ne_nil _ h.nonempty]
    exact h.first
  · rw [List.getLast?_append_of_ne_nil _ (by simp), List.getLast?_cons_of_ne_nil suffix]
    intro c hc
    exact isLabelChar_of_mem_text (List.mem_of_mem_getLast? hc)

/-! ### Settings -/

namespace Settings

variable {vars : Variables} {st : Settings}

theorem operator_eq (accepted : read vars = .ok st) : st.operator = readOperator vars := by
  obtain ⟨_, -, rest⟩ := bind_eq_ok accepted
  obtain ⟨_, -, rest⟩ := bind_eq_ok rest
  obtain ⟨_, -, rest⟩ := bind_eq_ok rest
  obtain ⟨_, -, rest⟩ := bind_eq_ok rest
  obtain ⟨_, -, rest⟩ := bind_eq_ok rest
  obtain ⟨_, -, rest⟩ := bind_eq_ok rest
  cases rest
  rfl

theorem isLabel_readOperator (vars : Variables) :
    IsLabel operatorLength (readOperator vars).toList := by
  unfold readOperator
  cases value? vars "USER" with
  | none => exact isLabel_usualOperator
  | some user => exact isLabel_operatorOf user

end Settings

/-- Whatever the user is called, the operator of the settings is a label of at most 54 characters
that is its own operator, and each name that is generated from it is a label of at most 63: the
operator, a hyphen and eight letters or digits. -/
theorem settings_generate_labels {vars : Variables} {st : Settings}
    (accepted : Settings.read vars = .ok st) :
    IsLabel 54 st.operator.toList ∧ operatorOf st.operator = st.operator ∧
      (∀ user, operatorOf (operatorOf user) = operatorOf user) ∧
      ∀ draws, IsLabel 63 (generatedName st.operator draws).toList ∧
        ∃ suffix : List Char,
          (generatedName st.operator draws).toList = st.operator.toList ++ '-' :: suffix ∧
          suffix.length = 8 ∧ ∀ c ∈ suffix, isLabelChar c = true := by
  have operator : IsLabel operatorLength st.operator.toList := by
    rw [Settings.operator_eq accepted]
    exact Settings.isLabel_readOperator vars
  refine ⟨operator, operatorOf_eq_self operator, operatorOf_operatorOf, fun draws => ?_⟩
  exact ⟨isLabel_generatedName operator draws, draws.text.toList,
    toList_generatedName st.operator draws, draws.length_text, fun _ => isLabelChar_of_mem_text⟩

/-- The least that settings accept, with a user. -/
def userVariables (user : String) : Variables
  | "USER" => some user
  | name => leastVariables "5" name

/-- Two letters of the name are letters of a label in lower case only, and the last one brings a mark
with it that is cut off again. -/
theorem settings_generate_labels_beyond_ascii :
    ∃ st, Settings.read (userVariables "\u212Aelvin_\u0130.") = .ok st ∧
      st.operator = "kelvin-i" ∧ operatorOf st.operator = "kelvin-i" ∧
      IsLabel 63 (generatedName st.operator (.ofNat 35)).toList := by
  have readable : ((Settings.read (userVariables "\u212Aelvin_\u0130.")).toOption.any
      fun st => st.operator == "kelvin-i") = true := by decide +kernel
  obtain ⟨st, given, operator⟩ := (Option.any_eq_true _ _).1 readable
  have accepted : Settings.read (userVariables "\u212Aelvin_\u0130.") = .ok st := by
    cases read : Settings.read (userVariables "\u212Aelvin_\u0130.") with
    | error cause =>
      rw [read] at given
      cases given
    | ok settings =>
      rw [read] at given
      cases given
      rfl
  obtain ⟨-, settled, -, named⟩ := settings_generate_labels accepted
  have operator := eq_of_beq operator
  exact ⟨st, accepted, operator, settled.trans operator, (named (.ofNat 35)).1⟩

end ProvingGround
