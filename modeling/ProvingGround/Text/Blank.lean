import ProvingGround.Text.Ranges

/-!
# White space and trimming

White space is the Unicode property of that name. Trimming removes it at both ends of a text; a text
is blank when nothing is left.
-/

namespace ProvingGround.Text

/-! ### The class -/

/-- Code points with the Unicode property `White_Space`. -/
def blankRanges : Ranges :=
  [(0x9, 0xD), (0x20, 0x20), (0x85, 0x85), (0xA0, 0xA0), (0x1680, 0x1680), (0x2000, 0x200A),
   (0x2028, 0x2029), (0x202F, 0x202F), (0x205F, 0x205F), (0x3000, 0x3000)]

def isBlank (c : Char) : Bool := blankRanges.contains c.toNat

theorem isBlank_of_isWhitespace (c : Char) (h : c.isWhitespace = true) : isBlank c = true := by
  simp only [Char.isWhitespace, Bool.or_eq_true, decide_eq_true_eq] at h
  rcases h with ((h | h) | h) | h <;> subst h <;> decide

/-! ### Trimming -/

/-- The characters without white space at the front. -/
def trimStartList (cs : List Char) : List Char := cs.dropWhile isBlank

/-- The characters without white space at either end. -/
def trimList (cs : List Char) : List Char :=
  (trimStartList (trimStartList cs).reverse).reverse

def trim (s : String) : String := String.ofList (trimList s.toList)

def isAllBlank (s : String) : Bool := s.toList.all isBlank

theorem trimList_nil : trimList [] = [] := rfl

theorem toList_trim (s : String) : (trim s).toList = trimList s.toList := by
  simp [trim]

theorem dropWhile_eq_nil_iff_all {α : Type} (p : α → Bool) (l : List α) :
    l.dropWhile p = [] ↔ l.all p = true := by
  induction l with
  | nil => simp
  | cons a l ih => by_cases h : p a = true <;> simp [h, ih]

theorem dropWhile_head_not {α : Type} (p : α → Bool) (l : List α) (a : α) (r : List α)
    (h : l.dropWhile p = a :: r) : p a = false := by
  induction l with
  | nil => simp at h
  | cons b l ih =>
    rw [List.dropWhile_cons] at h
    split at h
    · exact ih h
    · next hb =>
      simp only [List.cons.injEq] at h
      rw [← h.1]
      simpa using hb

/-- A text trims to nothing exactly when it is blank. -/
theorem trimList_eq_nil_iff (cs : List Char) : trimList cs = [] ↔ cs.all isBlank = true := by
  constructor
  · intro h
    simp only [trimList, trimStartList, List.reverse_eq_nil_iff, dropWhile_eq_nil_iff_all,
      List.all_reverse] at h
    cases hd : cs.dropWhile isBlank with
    | nil => exact (dropWhile_eq_nil_iff_all _ _).1 hd
    | cons a r =>
      rw [hd] at h
      have ha := dropWhile_head_not _ _ _ _ hd
      simp [ha] at h
  · intro h
    simp [trimList, trimStartList, (dropWhile_eq_nil_iff_all _ _).2 h]

theorem trim_eq_empty_iff (s : String) : trim s = "" ↔ isAllBlank s = true := by
  rw [← String.toList_inj, toList_trim, isAllBlank]
  exact trimList_eq_nil_iff s.toList

end ProvingGround.Text
