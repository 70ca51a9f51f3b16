import ProvingGround.Text.Digit
import ProvingGround.Text.Radix
import ProvingGround.Yaml.Token.Basic

/-!
# Directives, anchors and tags

The parts of a document that name things: `%YAML` and `%TAG` lines, anchors and aliases, and tags
with their handles. Octets that a tag writes with a percent sign are UTF-8.
-/

namespace ProvingGround.Yaml

open Text

/-! ### Percent-encoded octets -/

/-- Where tag text is being read, for the words of a problem. -/
structure TagContext where
  /-- Within a `%TAG` line. -/
  directive : Bool
  start : Mark

/-- The words while text is scanned. -/
def TagContext.scanning (t : TagContext) : String :=
  if t.directive then "while scanning a %TAG directive" else "while scanning a tag"

def TagContext.parsing (t : TagContext) : String :=
  if t.directive then "while parsing a %TAG directive" else "while parsing a tag"

def readOctet (t : TagContext) (c : Cursor) : Except Problem Nat :=
  match c.rest with
  | '%' :: a :: b :: _ =>
    match hexValue? a, hexValue? b with
    | some a, some b => .ok (a * 16 + b)
    | _, _ => .error (c.problem "did not find URI escaped octet" t.parsing t.start)
  | _ => .error (c.problem "did not find URI escaped octet" t.parsing t.start)

/-- How many octets follow a leading one, and the bits that it contributes. -/
def octetWidth? (octet : Nat) : Option (Nat × Nat) :=
  if octet < 0x80 then some (0, octet)
  else if 0xC0 ≤ octet ∧ octet < 0xE0 then some (1, octet % 0x20)
  else if 0xE0 ≤ octet ∧ octet < 0xF0 then some (2, octet % 0x10)
  else if 0xF0 ≤ octet ∧ octet < 0xF8 then some (3, octet % 0x08)
  else none

/-- The octets after the leading one of a character. -/
def readTrailingOctets (t : TagContext) : Nat → Nat → Cursor → Except Problem (Nat × Cursor)
  | 0, value, c => .ok (value, c)
  | n + 1, value, c => do
    let octet ← readOctet t c
    if octet / 0x40 ≠ 2 then
      .error (c.problem "found an incorrect trailing UTF-8 octet" t.parsing t.start)
    else readTrailingOctets t n (value * 0x40 + octet % 0x40) (c.skip 3)

/-- One character written as percent-encoded octets. -/
def readEscapedChar (t : TagContext) (c : Cursor) : Except Problem (Char × Cursor) := do
  let octet ← readOctet t c
  match octetWidth? octet with
  | none => .error (c.problem "found an incorrect leading UTF-8 octet" t.parsing t.start)
  | some (width, bits) => do
    let (value, c) ← readTrailingOctets t width bits (c.skip 3)
    .ok (Char.ofNat value, c)

/-! ### Tags -/

/-- A character that a tag may hold; `wide` allows the flow indicators too. -/
def isTagChar (wide : Bool) (ch : Char) : Bool :=
  isWordChar ch || ";/?:@&=+$.%!~*'()".toList.contains ch || (wide && ",[]".toList.contains ch)

/-- The text of a tag behind `head`, which counts without its first character. -/
def readTagText (t : TagContext) (wide : Bool) (head : List Char) (c : Cursor) :
    Except Problem (String × Cursor) :=
  let step : List Char × Cursor → Except Problem (Progress (List Char × Cursor) _) :=
    fun (acc, c) =>
      match c.rest with
      | [] => .ok (.done (acc, c))
      | ch :: _ =>
        if !isTagChar wide ch then .ok (.done (acc, c))
        else if ch == '%' then do
          let (escaped, c) ← readEscapedChar t c
          .ok (.more (escaped :: acc, c))
        else .ok (.more (ch :: acc, c.skip 1))
  do
    let (acc, stop) ← iterate step (c.rest.length + 1) ([], c)
    if head.isEmpty && acc.isEmpty then
      .error (stop.problem "did not find expected tag URI" t.parsing t.start)
    else .ok (String.ofList (head.drop 1 ++ acc.reverse), stop)

/-- A tag handle: an exclamation mark, or one at either end of a word. A tag that only begins with
an exclamation mark gives what stands before its text. -/
def readHandle (t : TagContext) (c : Cursor) : Except Problem (List Char × Cursor) :=
  if !c.sees '!' 0 then
    .error (c.problem "did not find expected '!'" t.scanning t.start)
  else
    let (word, c) := (c.skip 1).span isWordChar
    if c.sees '!' 0 then .ok ('!' :: word ++ ['!'], c.skip 1)
    else if t.directive && !word.isEmpty then
      .error (c.problem "did not find expected '!'" t.parsing t.start)
    else .ok ('!' :: word, c)

/-- The handle and suffix of a tag that is not written in full. -/
def readShorthand (t : TagContext) (c : Cursor) : Except Problem (Lexeme × Cursor) := do
  let (handle, c) ← readHandle t c
  if 2 ≤ handle.length ∧ handle.getLast? = some '!' then
    let (suffix, c) ← readTagText t false [] c
    .ok (.tag (String.ofList handle) suffix, c)
  else
    let (suffix, c) ← readTagText t false handle c
    .ok (if suffix.isEmpty then .tag "" "!" else .tag "!" suffix, c)

/-- A tag that is written in full between angle brackets. -/
def readVerbatim (t : TagContext) (c : Cursor) : Except Problem (Lexeme × Cursor) := do
  let (suffix, c) ← readTagText t true [] (c.skip 2)
  if c.sees '>' 0 then .ok (.tag "" suffix, c.skip 1)
  else .error (c.problem "did not find the expected '>'" t.scanning t.start)

def readTag (inFlow : Bool) (c : Cursor) : Except Problem (Token × Cursor) := do
  let t : TagContext := ⟨false, c.mark⟩
  let (lexeme, stop) ← if c.sees '<' 1 then readVerbatim t c else readShorthand t c
  if stop.blankOrEnd 0 || (inFlow && stop.sees ',' 0) then
    .ok (⟨lexeme, c.mark, stop.mark⟩, stop)
  else .error (stop.problem "did not find expected whitespace or line break" t.scanning t.start)

/-! ### Anchors and aliases -/

/-- The name behind an anchor or alias indicator. -/
def readName (context : String) (c : Cursor) : Except Problem (String × Cursor) :=
  let (name, stop) := (c.skip 1).span isWordChar
  let ends := stop.blankOrEnd 0 || stop.next fun ch => "?:,]\x7d%@\x60".toList.contains ch
  if !name.isEmpty && ends then
    .ok (String.ofList name, stop)
  else
    .error (stop.problem "did not find expected alphabetic or numeric character" context c.mark)

def readAnchor (c : Cursor) : Except Problem (Token × Cursor) := do
  let (name, stop) ← readName "while scanning an anchor" c
  .ok (⟨.anchor name, c.mark, stop.mark⟩, stop)

def readAlias (c : Cursor) : Except Problem (Token × Cursor) := do
  let (name, stop) ← readName "while scanning an alias" c
  .ok (⟨.reference name, c.mark, stop.mark⟩, stop)

/-! ### Directives -/

def readVersionPart (start : Mark) (c : Cursor) : Except Problem (Nat × Cursor) :=
  let context := "while scanning a %YAML directive"
  let (digits, stop) := c.span Text.isAsciiDigit
  if digits.isEmpty then
    .error (c.problem "did not find expected version number" context start)
  else if digits.length > 9 then
    .error ((c.skip 9).problem "found extremely long version number" context start)
  else .ok (Text.digitsValue digits, stop)

def readVersion (start : Mark) (c : Cursor) : Except Problem (Lexeme × Cursor) := do
  let (major, c) ← readVersionPart start (c.skipWhile isGap)
  if !c.sees '.' 0 then
    .error (c.problem "did not find expected digit or '.' character"
      "while scanning a %YAML directive" start)
  else
    let (minor, c) ← readVersionPart start (c.skip 1)
    .ok (.version major minor, c)

def readTagDirective (start : Mark) (c : Cursor) : Except Problem (Lexeme × Cursor) := do
  let t : TagContext := ⟨true, start⟩
  let (handle, c) ← readHandle t (c.skipWhile isGap)
  if !c.next isGap then
    .error (c.problem "did not find expected whitespace" t.scanning start)
  else
    let (uri, c) ← readTagText t true [] (c.skipWhile isGap)
    if c.blankOrEnd 0 then .ok (.tagDirective (String.ofList handle) uri, c)
    else .error (c.problem "did not find expected whitespace or line break" t.scanning start)

def readDirective (c : Cursor) : Except Problem (Token × Cursor) := do
  let start := c.mark
  let context := "while scanning a directive"
  let (name, stop) := (c.skip 1).span isWordChar
  if name.isEmpty then
    .error (stop.problem "could not find expected directive name" context start)
  else if !stop.blankOrEnd 0 then
    .error (stop.problem "found unexpected non-alphabetical character" context start)
  else
    let (lexeme, stop) ←
      if name = "YAML".toList then readVersion start stop
      else if name = "TAG".toList then readTagDirective start stop
      else .error (stop.problem "found unknown directive name" context start)
    let tail := stop.skipBlanksAndComment
    if tail.lineEnds then .ok (⟨lexeme, start, stop.mark⟩, tail.skipBreak)
    else .error (tail.problem "did not find expected comment or line break" context start)

end ProvingGround.Yaml
