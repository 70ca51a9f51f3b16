import ProvingGround.Yaml.Token.Directive
import ProvingGround.Yaml.Token.Scalar

/-!
# From a text to its tokens

A key of a mapping need not be marked in front: only the colon behind it tells that it was one. So a
place where such a key may have begun is remembered, and the tokens for the key, and for the block
mapping that it may open, are inserted there when the colon comes. A key must end on its line and
within 1024 characters.

Tokens are handed on as soon as nothing can be inserted before them any more, and only then is the
next one read. Where the text breaks off with a problem, the tokens that were not handed on by then
are lost.
-/

namespace ProvingGround.Yaml

/-! ### State -/

structure KeyPlace where
  /-- The key must be there, because the block it stands in has no other way to go on. -/
  required : Bool
  /-- How many tokens stand before it. -/
  position : Nat
  mark : Mark

/-- How far a text has been taken apart. -/
structure Lexer where
  cursor : Cursor
  tokens : Array Token := #[]
  /-- How many flow collections are open. -/
  flowLevel : Nat := 0
  /-- The column of the innermost block collection. -/
  indent : Int := -1
  /-- The columns of the block collections around it. -/
  outer : List Int := []
  /-- A key may begin here. -/
  keyAllowed : Bool := true
  /-- The possible key of each open flow collection, the innermost first, and of the block. -/
  keys : List (Option KeyPlace) := [none]

/-- What a step gives: the next state, or a problem. -/
abbrev LexResult := Except Problem Lexer

namespace Lexer

def inFlow (s : Lexer) : Bool := s.flowLevel ≠ 0

def push (s : Lexer) (t : Token) : Lexer := { s with tokens := s.tokens.push t }

/-- A token put before the tokens from a position on. -/
def insertAt (s : Lexer) (position : Nat) (t : Token) : Lexer :=
  { s with
    tokens := s.tokens.extract 0 position ++ #[t] ++ s.tokens.extract position s.tokens.size }

/-- The problem of a required key without its colon. -/
def missingColon (s : Lexer) (k : KeyPlace) : LexResult :=
  .error (s.cursor.problem "could not find expected ':'" "while scanning a simple key" k.mark)

/-! ### Possible keys -/

/-- The key cannot begin at the place any more: its line is over, or it would be too long. -/
def isStale (s : Lexer) (k : KeyPlace) : Bool :=
  k.mark.line < s.cursor.mark.line || k.mark.index + 1024 < s.cursor.mark.index

/-- Forgets the places that are over. -/
def dropStaleKeys (s : Lexer) : LexResult :=
  match s.keys.reverse.find? fun k => k.any fun k => s.isStale k && k.required with
  | some (some k) => s.missingColon k
  | _ => .ok { s with keys := s.keys.map fun k => k.filter fun k => !s.isStale k }

/-- Forgets the place of the innermost level. -/
def dropKey (s : Lexer) : LexResult :=
  match s.keys with
  | some k :: rest => if k.required then s.missingColon k else .ok { s with keys := none :: rest }
  | _ => .ok s

/-- Remembers that a key may begin here. -/
def saveKey (s : Lexer) : LexResult :=
  if s.keyAllowed then do
    let required := !s.inFlow && s.indent == (s.cursor.mark.column : Int)
    let place : KeyPlace := ⟨required, s.tokens.size, s.cursor.mark⟩
    let s ← s.dropKey
    .ok { s with keys := some place :: s.keys.drop 1 }
  else .ok s

/-- How many tokens are handed on: those before the first place where a key may begin. -/
def settled (s : Lexer) : Nat :=
  (s.keys.filterMap id).foldl (fun n k => min n k.position) s.tokens.size

/-! ### Block collections -/

/-- Opens a block collection at a column, unless one is open there; its token goes to a position. -/
def openBlock (s : Lexer) (column position : Nat) (lexeme : Lexeme) (mark : Mark) : Lexer :=
  if s.inFlow || (column : Int) ≤ s.indent then s
  else
    let s := { s with outer := s.indent :: s.outer, indent := column }
    s.insertAt position ⟨lexeme, mark, mark⟩

/-- The columns left when the block collections beyond a column are closed, and how many are. -/
def unwind (column : Int) : Int → List Int → Int × List Int × Nat
  | indent, [] => (indent, [], 0)
  | indent, outer :: rest =>
    if column < indent then
      let (i, o, n) := unwind column outer rest
      (i, o, n + 1)
    else (indent, outer :: rest, 0)

def closeBlocks (s : Lexer) (column : Int) : Lexer :=
  if s.inFlow then s
  else
    let (indent, outer, n) := unwind column s.indent s.outer
    let mark := s.cursor.mark
    { s with
      indent := indent, outer := outer,
      tokens := s.tokens ++ Array.replicate n ⟨.blockEnd, mark, mark⟩ }

/-! ### Tokens -/

/-- A token of the next characters. -/
def pushIndicator (s : Lexer) (lexeme : Lexeme) (width : Nat) : Lexer :=
  let stop := s.cursor.skip width
  { s.push ⟨lexeme, s.cursor.mark, stop.mark⟩ with cursor := stop }

/-- Takes over what a reader of one token found. -/
def accept (s : Lexer) (r : Except Problem (Token × Cursor)) : LexResult :=
  match r with
  | .error p => .error p
  | .ok (t, stop) => .ok { s.push t with cursor := stop }

def readEnd (s : Lexer) : LexResult := do
  let m := s.cursor.mark
  let mark : Mark := if m.column ≠ 0 then ⟨m.index, m.line + 1, 0⟩ else m
  let s := { s with cursor := ⟨mark, []⟩ }.closeBlocks (-1)
  let s ← s.dropKey
  .ok ({ s with keyAllowed := false }.push ⟨.streamEnd, mark, mark⟩)

def readDirective (s : Lexer) : LexResult := do
  let s ← (s.closeBlocks (-1)).dropKey
  accept { s with keyAllowed := false } (Yaml.readDirective s.cursor)

def readMarker (s : Lexer) (lexeme : Lexeme) : LexResult := do
  let s ← (s.closeBlocks (-1)).dropKey
  .ok ({ s with keyAllowed := false }.pushIndicator lexeme 3)

def openFlow (s : Lexer) (lexeme : Lexeme) : LexResult := do
  let s ← s.saveKey
  let inner := { s with
    keys := none :: s.keys, flowLevel := s.flowLevel + 1, keyAllowed := true }
  .ok (inner.pushIndicator lexeme 1)

def closeFlow (s : Lexer) (lexeme : Lexeme) : LexResult := do
  let s ← s.dropKey
  let s := if s.inFlow then { s with flowLevel := s.flowLevel - 1, keys := s.keys.drop 1 } else s
  .ok ({ s with keyAllowed := false }.pushIndicator lexeme 1)

def readFlowEntry (s : Lexer) : LexResult := do
  let s ← s.dropKey
  .ok ({ s with keyAllowed := true }.pushIndicator .flowEntry 1)

def readBlockEntry (s : Lexer) : LexResult := do
  if !s.inFlow && !s.keyAllowed then
    .error (s.cursor.bareProblem "block sequence entries are not allowed in this context")
  else
    let mark := s.cursor.mark
    let s ← (s.openBlock mark.column s.tokens.size .blockSequenceStart mark).dropKey
    .ok ({ s with keyAllowed := true }.pushIndicator .blockEntry 1)

def readKey (s : Lexer) : LexResult := do
  if !s.inFlow && !s.keyAllowed then
    .error (s.cursor.bareProblem "mapping keys are not allowed in this context")
  else
    let mark := s.cursor.mark
    let s ← (s.openBlock mark.column s.tokens.size .blockMappingStart mark).dropKey
    .ok ({ s with keyAllowed := !s.inFlow }.pushIndicator .key 1)

/-- A colon: what stands before it was a key if one may have begun there. -/
def readValue (s : Lexer) : LexResult :=
  match s.keys with
  | some k :: rest =>
    let s := s.insertAt k.position ⟨.key, k.mark, k.mark⟩
    let s := s.openBlock k.mark.column k.position .blockMappingStart k.mark
    .ok ({ s with keys := none :: rest, keyAllowed := false }.pushIndicator .value 1)
  | _ =>
    if !s.inFlow && !s.keyAllowed then
      .error (s.cursor.bareProblem "mapping values are not allowed in this context")
    else
      let mark := s.cursor.mark
      let s := s.openBlock mark.column s.tokens.size .blockMappingStart mark
      .ok ({ s with keyAllowed := !s.inFlow }.pushIndicator .value 1)

/-- A token that may begin a key, after which none may begin. -/
def readKeyLike (s : Lexer) (r : Cursor → Except Problem (Token × Cursor)) : LexResult := do
  let s ← s.saveKey
  accept { s with keyAllowed := false } (r s.cursor)

def readBlockScalar (s : Lexer) (folded : Bool) : LexResult := do
  let s ← s.dropKey
  accept { s with keyAllowed := true } (readBlock folded s.indent s.cursor)

/-- A plain scalar; a key may begin behind it when its last line is over. -/
def readPlainScalar (s : Lexer) : LexResult := do
  let s ← s.saveKey
  match readPlain s.inFlow s.indent s.cursor with
  | .error p => .error p
  | .ok (t, stop, broken) => .ok { s.push t with cursor := stop, keyAllowed := broken }

/-! ### Between tokens -/

/-- Past blanks, comments and empty lines. A tab counts as a blank only where no key may begin. -/
def skipGap (inFlow : Bool) : (fuel : Nat) → Cursor → Bool → Cursor × Bool
  | 0, c, allowed => (c, allowed)
  | fuel + 1, c, allowed =>
    let c := if c.mark.column = 0 ∧ c.sees '\ufeff' 0 = true then c.skip 1 else c
    let c := c.skipWhile fun ch => ch == ' ' || ((inFlow || !allowed) && ch == '\t')
    let c := if c.sees '#' 0 then c.skipLine else c
    if c.next isBreak then skipGap inFlow fuel c.skipBreak (allowed || !inFlow) else (c, allowed)

/-- A character that cannot begin a plain scalar on its own. -/
def isIndicator (ch : Char) : Bool := "-?:,[]\x7b\x7d#&*!|>'\"%@\x60".toList.contains ch

def beginsPlain (s : Lexer) : Bool :=
  let c := s.cursor
  !(c.blankOrEnd 0 || c.next isIndicator) ||
    (c.sees '-' 0 && !(c.peek? 1).any isGap) ||
    (!s.inFlow && (c.sees '?' 0 || c.sees ':' 0) && !c.blankOrEnd 1)

def readToken (s : Lexer) : LexResult :=
  let c := s.cursor
  let spaced := s.inFlow || c.blankOrEnd 1
  match c.rest.head? with
  | none => s.readEnd
  | some ch =>
    if c.mark.column = 0 ∧ ch = '%' then s.readDirective
    else if c.atMarker '-' then s.readMarker .documentStart
    else if c.atMarker '.' then s.readMarker .documentEnd
    else if ch = '[' then s.openFlow .flowSequenceStart
    else if ch = '\x7b' then s.openFlow .flowMappingStart
    else if ch = ']' then s.closeFlow .flowSequenceEnd
    else if ch = '\x7d' then s.closeFlow .flowMappingEnd
    else if ch = ',' then s.readFlowEntry
    else if ch = '-' ∧ c.blankOrEnd 1 = true then s.readBlockEntry
    else if ch = '?' ∧ spaced = true then s.readKey
    else if ch = ':' ∧ spaced = true then s.readValue
    else if ch = '*' then s.readKeyLike readAlias
    else if ch = '&' then s.readKeyLike readAnchor
    else if ch = '!' then s.readKeyLike (readTag s.inFlow)
    else if ch = '|' ∧ s.flowLevel = 0 then s.readBlockScalar false
    else if ch = '>' ∧ s.flowLevel = 0 then s.readBlockScalar true
    else if ch = '\x27' then s.readKeyLike (readQuoted true)
    else if ch = '"' then s.readKeyLike (readQuoted false)
    else if s.beginsPlain then s.readPlainScalar
    else
      .error (c.problem "found character that cannot start any token"
        "while scanning for the next token" c.mark)

/-- The next token, with what closes before it. -/
def step (s : Lexer) : LexResult := do
  let (c, allowed) := skipGap s.inFlow (s.cursor.rest.length + 1) s.cursor s.keyAllowed
  let s ← { s with cursor := c, keyAllowed := allowed }.dropStaleKeys
  (s.closeBlocks c.mark.column).readToken

/-- The last token has been read. -/
def isDone (s : Lexer) : Bool := s.tokens.back?.any (·.lexeme = .streamEnd)

/-- All tokens up to the end or the first problem; `handed` of them have been handed on. Every step
takes a character or ends the text. -/
def run : (fuel : Nat) → (handed : Nat) → Lexer → List Token × Option Problem
  | 0, _, s => (s.tokens.toList, none)
  | fuel + 1, handed, s =>
    match if handed < s.tokens.size then s.dropStaleKeys else .ok s with
    | .error p => (s.tokens.toList.take handed, some p)
    | .ok s =>
      if s.isDone then (s.tokens.toList, none)
      else
        match s.step with
        | .error p => (s.tokens.toList.take s.settled, some p)
        | .ok next => run fuel s.settled next

end Lexer

def Token.scan (text : String) : List Token × Option Problem :=
  let c := Cursor.ofString text
  Lexer.run (c.rest.length + 3) 0 { cursor := c, tokens := #[⟨.streamStart, .start, .start⟩] }

end ProvingGround.Yaml
