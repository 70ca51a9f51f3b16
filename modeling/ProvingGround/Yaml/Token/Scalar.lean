import ProvingGround.Text.Radix
import ProvingGround.Yaml.Token.Basic

/-!
# Scalars in a YAML document

The three ways to write a scalar: plain, between quotes, and as a block of lines. Lines of plain and
quoted scalars are folded: one break between them becomes a space, further breaks stay.
-/

namespace ProvingGround.Yaml

open Text

/-! ### Folding of lines -/

/-- Breaks and blanks between two parts of a scalar, in the order read. -/
structure Fold where
  /-- A break has been read. -/
  broken : Bool := false
  blanks : List Char := []
  first : List Char := []
  further : List Char := []

def Fold.breaks (f : Fold) : List Char :=
  match f.first with
  | '\n' :: _ => if f.further.isEmpty then [' '] else f.further
  | first => first ++ f.further

def Fold.text (f : Fold) : List Char := if f.broken then f.breaks else f.blanks

/-- The fold with the next blank or break. -/
def Fold.push (f : Fold) (c : Cursor) : Fold × Cursor :=
  if c.next isGap then
    let blank := c.rest.take 1
    (if f.broken then f else { f with blanks := f.blanks ++ blank }, c.skip 1)
  else if f.broken then ({ f with further := f.further ++ c.breakText }, c.skipBreak)
  else ({ f with broken := true, blanks := [], first := c.breakText }, c.skipBreak)

/-! ### Quoted scalars -/

def escapedChar? : Char → Option Char
  | '0' => some '\x00'
  | 'a' => some '\x07'
  | 'b' => some '\x08'
  | 't' => some '\t'
  | '\t' => some '\t'
  | 'n' => some '\n'
  | 'v' => some '\x0b'
  | 'f' => some '\x0c'
  | 'r' => some '\r'
  | 'e' => some '\x1b'
  | ' ' => some ' '
  | '"' => some '"'
  | '/' => some '/'
  | '\\' => some '\\'
  | 'N' => some '\u0085'
  | '_' => some '\u00a0'
  | 'L' => some '\u2028'
  | 'P' => some '\u2029'
  | _ => none

/-- How many hexadecimal digits follow the letter of a numeric escape. -/
def escapeWidth? : Char → Option Nat
  | 'x' => some 2
  | 'u' => some 4
  | 'U' => some 8
  | _ => none

def quotedContext : String := "while scanning a quoted scalar"

def escapeContext : String := "while parsing a quoted scalar"

def readCode (start : Mark) (c : Cursor) (width : Nat) : Except Problem Nat := do
  let digits := (c.rest.take width).filterMap hexValue?
  if digits.length < width then
    .error (c.problem "did not find expected hexdecimal number" escapeContext start)
  else
    let code := digits.foldl (fun n d => n * 16 + d) 0
    if (0xD800 ≤ code ∧ code ≤ 0xDFFF) ∨ code > 0x10FFFF then
      .error (c.problem "found invalid Unicode character escape code" escapeContext start)
    else .ok code

/-- The character of an escape that does not end the line. -/
def readEscape (start : Mark) (c : Cursor) : Except Problem (Char × Cursor) :=
  let unknown : Problem := c.problem "found unknown escape character" escapeContext start
  match c.peek? 1 with
  | none => .error unknown
  | some ch =>
    match escapedChar? ch, escapeWidth? ch with
    | some e, _ => .ok (e, c.skip 2)
    | none, some width => do
      let code ← readCode start (c.skip 2) width
      .ok (Char.ofNat code, c.skip (2 + width))
    | none, none => .error unknown

/-- What is known of a quoted scalar so far, the last character first. -/
structure QuotedState where
  cursor : Cursor
  text : List Char
  fold : Fold
  /-- Blanks or breaks have begun since the last character. -/
  folding : Bool

/-- Takes one character, escape, blank or break of a quoted scalar, or finds its end. -/
def quotedStep (single : Bool) (start : Mark) (s : QuotedState) :
    Except Problem (Progress QuotedState (List Char × Cursor)) :=
  let c := s.cursor
  let quote := if single then '\x27' else '"'
  if s.folding && c.next fun ch => isGap ch || isBreak ch then
    let (fold, c) := s.fold.push c
    .ok (.more { s with cursor := c, fold := fold })
  else
    let text := if s.folding then s.fold.text.reverse ++ s.text else s.text
    let settled : QuotedState := ⟨c, text, {}, false⟩
    if s.folding && c.atDocumentMarker then
      .error (c.problem "found unexpected document indicator" quotedContext start)
    else if c.atEnd then
      .error (c.problem "found unexpected end of stream" quotedContext start)
    else if c.next fun ch => isGap ch || isBreak ch then
      .ok (.more { settled with folding := true })
    else if single && c.sees '\x27' 0 && c.sees '\x27' 1 then
      .ok (.more { settled with cursor := c.skip 2, text := '\x27' :: text })
    else if c.sees quote 0 then .ok (.done (text, c.skip 1))
    else if !single && c.sees '\\' 0 && (c.peek? 1).any isBreak then
      .ok (.more ⟨(c.skip 1).skipBreak, text, { broken := true }, true⟩)
    else if !single && c.sees '\\' 0 then do
      let (ch, c) ← readEscape start c
      .ok (.more { settled with cursor := c, text := ch :: text })
    else .ok (.more { settled with cursor := c.skip 1, text := c.rest.take 1 ++ text })

def readQuoted (single : Bool) (c : Cursor) : Except Problem (Token × Cursor) := do
  let first : QuotedState := ⟨c.skip 1, [], {}, true⟩
  let (text, stop) ← iterate (quotedStep single c.mark) (2 * c.rest.length + 4) first
  let style := if single then .singleQuoted else .doubleQuoted
  .ok (⟨.scalar (String.ofList text.reverse) style, c.mark, stop.mark⟩, stop)

/-! ### Plain scalars -/

/-- A character that ends a plain scalar inside a flow collection. -/
def isFlowIndicator (ch : Char) : Bool := ",[]\x7b\x7d".toList.contains ch

/-- What is known of a plain scalar so far, the last character first. -/
structure PlainState where
  cursor : Cursor
  text : List Char
  fold : Fold
  stop : Mark
  folding : Bool

/-- The token of a plain scalar, the cursor behind it, and whether a line break came last. -/
abbrev PlainResult := Token × Cursor × Bool

def plainContext : String := "while scanning a plain scalar"

/-- Takes one character, blank or break of a plain scalar, or finds its end. -/
def plainStep (inFlow : Bool) (indent : Int) (start : Mark) (s : PlainState) :
    Except Problem (Progress PlainState PlainResult) :=
  let c := s.cursor
  let done : Except Problem (Progress PlainState PlainResult) :=
    .ok (.done (⟨.scalar (String.ofList s.text.reverse) .plain, start, s.stop⟩, c, s.fold.broken))
  if s.folding && c.next fun ch => isGap ch || isBreak ch then
    if s.fold.broken && (c.mark.column : Int) < indent && c.sees '\t' 0 then
      .error (c.problem "found a tab character that violates indentation" plainContext start)
    else
      let (fold, c) := s.fold.push c
      .ok (.more { s with cursor := c, fold := fold })
  else if s.folding && !s.text.isEmpty && !inFlow && (c.mark.column : Int) < indent then done
  else if s.folding && (c.atDocumentMarker || c.sees '#' 0) then done
  else if c.atEnd then done
  else if c.next fun ch => isGap ch || isBreak ch then
    .ok (.more { s with fold := {}, folding := true })
  else if inFlow && c.sees ':' 0 &&
      ((c.peek? 1).any fun ch => ch == '?' || isFlowIndicator ch) then
    .error (c.problem "found unexpected ':'" plainContext start)
  else if (c.sees ':' 0 && c.blankOrEnd 1) || (inFlow && c.next isFlowIndicator) then done
  else
    let text := if s.folding then s.fold.text.reverse ++ s.text else s.text
    let next := c.skip 1
    .ok (.more ⟨next, c.rest.take 1 ++ text, {}, next.mark, false⟩)

def readPlain (inFlow : Bool) (indent : Int) (c : Cursor) : Except Problem PlainResult :=
  iterate (plainStep inFlow (indent + 1) c.mark) (2 * c.rest.length + 4) ⟨c, [], {}, c.mark, false⟩

/-! ### Block scalars -/

/-- What happens to the breaks at the end of a block. -/
inductive Chomping where
  | strip
  | clip
  | keep
  deriving DecidableEq, Repr

def blockContext : String := "while scanning a block scalar"

def readChomping (c : Cursor) : Chomping × Cursor :=
  if c.sees '+' 0 then (.keep, c.skip 1)
  else if c.sees '-' 0 then (.strip, c.skip 1)
  else (.clip, c)

/-- The indentation indicator; zero when there is none. -/
def readIndentation (start : Mark) (c : Cursor) : Except Problem (Nat × Cursor) :=
  match c.rest with
  | ch :: _ =>
    if ch == '0' then
      .error (c.problem "found an indentation indicator equal to 0" blockContext start)
    else if ch.isDigit then .ok (ch.toNat - 0x30, c.skip 1)
    else .ok (0, c)
  | [] => .ok (0, c)

/-- The indicators of a block scalar in either order. -/
def readBlockHeader (start : Mark) (c : Cursor) : Except Problem (Chomping × Nat × Cursor) := do
  if c.next fun ch => ch == '+' || ch == '-' then
    let (chomping, c) := readChomping c
    let (increment, c) ← readIndentation start c
    .ok (chomping, increment, c)
  else
    let (increment, c) ← readIndentation start c
    if increment = 0 then .ok (.clip, 0, c)
    else
      let (chomping, c) := readChomping c
      .ok (chomping, increment, c)

/-- Empty lines of a block: the cursor, the breaks, the widest indentation, the end of the last. -/
structure GapState where
  cursor : Cursor
  breaks : List Char
  widest : Nat
  stop : Mark

/-- Takes the indentation of one line and its break, if the line is empty. -/
def gapStep (indent : Nat) (start : Mark) (s : GapState) :
    Except Problem (Progress GapState GapState) :=
  let room := if indent = 0 then s.cursor.rest.length else indent - s.cursor.mark.column
  let spaces := (s.cursor.rest.take room).takeWhile (· == ' ')
  let c := s.cursor.skip spaces.length
  let widest := max s.widest c.mark.column
  if (indent = 0 ∨ c.mark.column < indent) ∧ c.sees '\t' 0 = true then
    .error (c.problem "found a tab character where an indentation space is expected" blockContext
      start)
  else if c.next isBreak then
    let after := c.skipBreak
    .ok (.more ⟨after, s.breaks ++ c.breakText, widest, after.mark⟩)
  else .ok (.done { s with cursor := c, widest := widest })

def readGap (indent : Nat) (start : Mark) (c : Cursor) : Except Problem GapState :=
  iterate (gapStep indent start) (c.rest.length + 2) ⟨c, [], 0, c.mark⟩

/-- What is known of a block so far, the last character first. -/
structure BlockState where
  gap : GapState
  text : List Char
  lineBreak : List Char
  /-- The last line began with a blank. -/
  indented : Bool

/-- Takes one line of a block, or finds its end. -/
def blockStep (folded : Bool) (indent : Nat) (start : Mark) (s : BlockState) :
    Except Problem (Progress BlockState BlockState) :=
  let c := s.gap.cursor
  if c.mark.column ≠ indent ∨ c.atEnd = true then .ok (.done s)
  else do
    let blank := c.next isGap
    let joint :=
      if folded && s.lineBreak.head? == some '\n' && !s.indented && !blank then
        if s.gap.breaks.isEmpty then [' '] else []
      else s.lineBreak
    let (line, rest) := c.span fun ch => !isBreak ch
    let text := line.reverse ++ (joint ++ s.gap.breaks).reverse ++ s.text
    let gap ← readGap indent start rest.skipBreak
    .ok (.more ⟨gap, text, rest.breakText, blank⟩)

def readBlock (folded : Bool) (parentIndent : Int) (c : Cursor) :
    Except Problem (Token × Cursor) := do
  let start := c.mark
  let (chomping, increment, header) ← readBlockHeader start (c.skip 1)
  let tail := header.skipBlanksAndComment
  if !tail.lineEnds then
    .error (tail.problem "did not find expected comment or line break" blockContext start)
  else
    let body := tail.skipBreak
    let given := if increment = 0 then 0
      else if parentIndent ≥ 0 then parentIndent.toNat + increment else increment
    let gap ← readGap given start body
    let indent := if given ≠ 0 then given
      else max (max gap.widest (parentIndent + 1).toNat) 1
    let s ← iterate (blockStep folded indent start) (body.rest.length + 2) ⟨gap, [], [], false⟩
    let ending := match chomping with
      | .strip => []
      | .clip => s.lineBreak
      | .keep => s.lineBreak ++ s.gap.breaks
    let style := if folded then .folded else .literal
    .ok (⟨.scalar (String.ofList (s.text.reverse ++ ending)) style, start, s.gap.stop⟩,
      s.gap.cursor)

end ProvingGround.Yaml
