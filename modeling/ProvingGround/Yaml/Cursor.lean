/-!
# Reading positions in a YAML document

A mark says where a character of a document stands; lines and columns are counted from zero and
shown from one. A cursor is a mark together with the characters that follow it. What can be wrong
with the form of a document is a problem with a mark, often within a context that began at an
earlier mark.
-/

namespace ProvingGround.Yaml

/-! ### Marks and problems -/

structure Mark where
  /-- Characters before it. -/
  index : Nat
  line : Nat
  column : Nat
  deriving DecidableEq, Repr, Inhabited

namespace Mark

def start : Mark := ⟨0, 0, 0⟩

/-- Anywhere but at the beginning of the first line. -/
def isInside (m : Mark) : Bool := m.line ≠ 0 || m.column ≠ 0

def text (m : Mark) : String := s!"line {m.line + 1} column {m.column + 1}"

end Mark

structure Problem where
  what : String
  mark : Mark
  /-- What was being read, and where it began. -/
  context : Option (String × Mark) := none
  deriving DecidableEq, Repr

namespace Problem

/-- A place in words, empty for the beginning of a document. -/
def place (m : Mark) : String := if m.isInside then " at " ++ m.text else ""

/-- The context in words, with its place when that is another line or column. -/
def contextText (p : Problem) : String :=
  match p.context with
  | none => ""
  | some (what, m) =>
    if m.line = p.mark.line ∧ m.column = p.mark.column then ", " ++ what
    else ", " ++ what ++ place m

def text (p : Problem) : String := p.what ++ place p.mark ++ p.contextText

end Problem

/-! ### Character classes -/

def isBreak (c : Char) : Bool :=
  c == '\n' || c == '\r' || c == '\u0085' || c == '\u2028' || c == '\u2029'

def isGap (c : Char) : Bool := c == ' ' || c == '\t'

/-- A letter, digit, hyphen or underscore. -/
def isWordChar (c : Char) : Bool := c.isAlphanum || c == '-' || c == '_'

/-! ### Cursors -/

/-- A mark and what follows it. -/
structure Cursor where
  mark : Mark
  rest : List Char

namespace Cursor

def ofString (s : String) : Cursor := ⟨.start, s.toList⟩

/-- The character some places ahead. -/
def peek? (c : Cursor) (n : Nat) : Option Char := c.rest[n]?

/-- The character some places ahead is the given one. -/
def sees (c : Cursor) (ch : Char) (n : Nat) : Bool := c.peek? n == some ch

def next (c : Cursor) (p : Char → Bool) : Bool := c.rest.head?.any p

/-- Nothing is left. -/
def atEnd (c : Cursor) : Bool := c.rest.isEmpty

/-- The character some places ahead is a blank or break, or the document ends there. -/
def blankOrEnd (c : Cursor) (n : Nat) : Bool :=
  match c.peek? n with
  | none => true
  | some ch => isGap ch || isBreak ch

def lineEnds (c : Cursor) : Bool := c.atEnd || c.next isBreak

/-- Past a number of characters of the line. -/
def skip (c : Cursor) (n : Nat) : Cursor :=
  ⟨⟨c.mark.index + n, c.mark.line, c.mark.column + n⟩, c.rest.drop n⟩

def skipBreak (c : Cursor) : Cursor :=
  match c.rest with
  | '\r' :: '\n' :: rest => ⟨⟨c.mark.index + 2, c.mark.line + 1, 0⟩, rest⟩
  | ch :: rest => if isBreak ch then ⟨⟨c.mark.index + 1, c.mark.line + 1, 0⟩, rest⟩ else c
  | [] => c

/-- The break that a document's text keeps: the usual ones become a newline. -/
def breakText (c : Cursor) : List Char :=
  match c.rest with
  | ch :: _ =>
    if ch == '\u2028' || ch == '\u2029' then [ch] else if isBreak ch then ['\n'] else []
  | [] => []

/-- The characters of a class at the front of the line, and the cursor past them. -/
def span (c : Cursor) (p : Char → Bool) : List Char × Cursor :=
  let taken := c.rest.takeWhile p
  (taken, c.skip taken.length)

/-- Past the characters of a class. -/
def skipWhile (c : Cursor) (p : Char → Bool) : Cursor := (c.span p).2

def skipLine (c : Cursor) : Cursor := c.skipWhile fun ch => !isBreak ch

def skipBlanksAndComment (c : Cursor) : Cursor :=
  let c := c.skipWhile isGap
  if c.sees '#' 0 then c.skipLine else c

/-- The three characters of a document marker stand at the beginning of the line, on their own. -/
def atMarker (c : Cursor) (ch : Char) : Bool :=
  c.mark.column == 0 && c.sees ch 0 && c.sees ch 1 && c.sees ch 2 && c.blankOrEnd 3

/-- The beginning or end of a document is marked here. -/
def atDocumentMarker (c : Cursor) : Bool := c.atMarker '-' || c.atMarker '.'

def problem (c : Cursor) (what context : String) (start : Mark) : Problem :=
  ⟨what, c.mark, some (context, start)⟩

/-- A problem at the cursor without context. -/
def bareProblem (c : Cursor) (what : String) : Problem := ⟨what, c.mark, none⟩

theorem length_rest_skip (c : Cursor) (n : Nat) :
    (c.skip n).rest.length = c.rest.length - n := by
  simp [skip]

end Cursor

/-! ### Loops over a cursor -/

/-- What a step of a loop leaves: more to do, or the result. -/
inductive Progress (σ α : Type) where
  | more (state : σ)
  | done (result : α)

/-- Repeats a step until it has a result. The loops of this folder take at least one character in
each step, so the count of characters left is fuel enough. -/
def iterate {σ α : Type} (step : σ → Except Problem (Progress σ α)) :
    (fuel : Nat) → σ → Except Problem α
  | 0, _ => .error ⟨"input not understood", .start, none⟩
  | fuel + 1, state =>
    match step state with
    | .error p => .error p
    | .ok (.done result) => .ok result
    | .ok (.more state) => iterate step fuel state

end ProvingGround.Yaml
