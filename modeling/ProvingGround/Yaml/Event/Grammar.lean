import ProvingGround.Yaml.Event.Basic
import ProvingGround.Yaml.Token.Lexer

/-!
# From tokens to events

The grammar of a stream as a machine with a stack: the state says what may come next, the stack what
follows the node that is being read, and every step gives one event. A problem names the collection
or node within which it was met.
-/

namespace ProvingGround.Yaml

/-! ### State -/

/-- What may come next. -/
inductive Expectation where
  | stream
  | implicitDocument
  | document
  | documentContent
  | documentEnd
  | blockNode
  | blockSequenceFirst
  | blockSequenceEntry
  | indentlessEntry
  | blockMappingFirst
  | blockMappingKey
  | blockMappingValue
  | flowSequenceFirst
  | flowSequenceEntry
  | flowPairKey
  | flowPairValue
  | flowPairEnd
  | flowMappingFirst
  | flowMappingKey
  | flowMappingValue
  | flowMappingNoValue
  | finished
  deriving DecidableEq, Repr

/-- How far a stream has been understood. -/
structure Grammar where
  tokens : List Token
  /-- The problem where the tokens break off. -/
  failure : Option Problem
  state : Expectation := .stream
  /-- What follows the nodes being read, the innermost first. -/
  stack : List Expectation := []
  /-- Where the collections being read began, the innermost first. -/
  marks : List Mark := []
  /-- Tag handles and what they stand for. -/
  handles : List (String × String) := []

/-- A step of the grammar. -/
abbrev GrammarStep := Except Problem (Event × Grammar)

namespace Grammar

def peek (g : Grammar) : Except Problem Token :=
  match g.tokens, g.failure with
  | t :: _, _ => .ok t
  | [], some p => .error p
  | [], none => .ok ⟨.streamEnd, .start, .start⟩

def advance (g : Grammar) : Grammar := { g with tokens := g.tokens.drop 1 }

def goto (g : Grammar) (state : Expectation) : Grammar := { g with state := state }

/-- Remembers what follows the next node. -/
def pushState (g : Grammar) (state : Expectation) : Grammar :=
  { g with stack := state :: g.stack }

/-- On to what was remembered last. -/
def popState (g : Grammar) : Grammar :=
  { g with state := g.stack.headD .finished, stack := g.stack.drop 1 }

/-- Remembers where a collection begins. -/
def pushMark (g : Grammar) (m : Mark) : Grammar := { g with marks := m :: g.marks }

/-- Forgets where the innermost collection began. -/
def popMark (g : Grammar) : Grammar := { g with marks := g.marks.drop 1 }

def collectionProblem (g : Grammar) (what context : String) (t : Token) : Problem :=
  ⟨what, t.start, some (context, g.marks.headD .start)⟩

def give (g : Grammar) (h : Happening) (m : Mark) : GrammarStep := .ok (⟨h, m⟩, g)

/-- The empty scalar that stands for nothing. -/
def giveEmpty (g : Grammar) (m : Mark) : GrammarStep :=
  g.give (.scalar none ⟨"", .plain, none⟩) m

/-! ### Documents -/

/-- The handles that every document knows. -/
def standardHandles : List (String × String) :=
  [("!", "!"), ("!!", "tag:yaml.org,2002:")]

/-- The directives in front of a document. -/
def readDirectives (hasVersion : Bool) (handles : List (String × String)) :
    List Token → Option Problem → Except Problem (List (String × String) × List Token)
  | [], some p => .error p
  | [], none => .ok (handles, [])
  | t :: rest, failure =>
    match t.lexeme with
    | .version major minor =>
      if hasVersion then .error ⟨"found duplicate %YAML directive", t.start, none⟩
      else if major ≠ 1 ∨ (minor ≠ 1 ∧ minor ≠ 2) then
        .error ⟨"found incompatible YAML document", t.start, none⟩
      else readDirectives true handles rest failure
    | .tagDirective handle uri =>
      if handles.any (·.1 = handle) then
        .error ⟨"found duplicate %TAG directive", t.start, none⟩
      else readDirectives hasVersion ((handle, uri) :: handles) rest failure
    | _ => .ok (handles, t :: rest)

def skipDocumentEnds (g : Grammar) : Grammar :=
  { g with tokens := g.tokens.dropWhile (·.lexeme = .documentEnd) }

def explicitDocument (g : Grammar) (start : Mark) : GrammarStep := do
  let (handles, rest) ← readDirectives false [] g.tokens g.failure
  let g := { g with tokens := rest, handles := handles ++ standardHandles }
  let t ← g.peek
  if t.lexeme ≠ .documentStart then
    .error ⟨"did not find expected <document start>", t.start, none⟩
  else ((g.pushState .documentEnd).goto .documentContent).advance.give .documentStart start

/-- The next document, or the end of the stream. -/
def documentStep (g : Grammar) (implicit : Bool) : GrammarStep := do
  let g := if implicit then g else g.skipDocumentEnds
  let t ← g.peek
  match t.lexeme with
  | .streamEnd => (g.goto .finished).advance.give .streamEnd t.start
  | .version .. => g.explicitDocument t.start
  | .tagDirective .. => g.explicitDocument t.start
  | .documentStart => g.explicitDocument t.start
  | _ =>
    if implicit then
      let g := { g with handles := standardHandles }
      ((g.pushState .documentEnd).goto .blockNode).give .documentStart t.start
    else g.explicitDocument t.start

def documentEndStep (g : Grammar) : GrammarStep := do
  let t ← g.peek
  let g := if t.lexeme = .documentEnd then g.advance else g
  { g with handles := [] }.goto .document |>.give .documentEnd t.start

/-! ### Nodes -/

/-- What stands in front of a node. -/
structure Properties where
  anchor : Option String := none
  /-- Handle, suffix and mark of the tag. -/
  tag : Option (String × String × Mark) := none
  start : Mark

/-- Anchor and tag of a node in either order. -/
def readProperties (g : Grammar) (t : Token) : Except Problem (Properties × Token × Grammar) := do
  match t.lexeme with
  | .anchor name => do
    let g := g.advance
    let u ← g.peek
    match u.lexeme with
    | .tag handle suffix =>
      let g := g.advance
      .ok (⟨some name, some (handle, suffix, u.start), t.start⟩, ← g.peek, g)
    | _ => .ok (⟨some name, none, t.start⟩, u, g)
  | .tag handle suffix => do
    let g := g.advance
    let u ← g.peek
    match u.lexeme with
    | .anchor name =>
      let g := g.advance
      .ok (⟨some name, some (handle, suffix, t.start), t.start⟩, ← g.peek, g)
    | _ => .ok (⟨none, some (handle, suffix, t.start), t.start⟩, u, g)
  | _ => .ok (⟨none, none, t.start⟩, t, g)

/-- The tag of a node in full. -/
def resolveTag (g : Grammar) (p : Properties) : Except Problem (Option String) :=
  match p.tag with
  | none => .ok none
  | some (handle, suffix, m) =>
    if handle.isEmpty then .ok (some suffix)
    else
      match g.handles.lookup handle with
      | some uri => .ok (some (uri ++ suffix))
      | none =>
        .error ⟨"found undefined tag handle", m, some ("while parsing a node", p.start)⟩

/-- A node. In a block, collections may be shown by indentation; where `indentless` is allowed, a
sequence may even stand at the indentation of the mapping around it. -/
def nodeStep (g : Grammar) (block indentless : Bool) : GrammarStep := do
  let t ← g.peek
  match t.lexeme with
  | .reference name => g.popState.advance.give (.reference name) t.start
  | _ => do
    let (p, t, g) ← g.readProperties t
    let tag ← g.resolveTag p
    let sequence := Happening.sequenceStart p.anchor tag
    let mapping := Happening.mappingStart p.anchor tag
    match t.lexeme, block, indentless with
    | .blockEntry, _, true => (g.goto .indentlessEntry).give sequence p.start
    | .scalar text style, _, _ =>
      let tag := if tag = some "!" then none else tag
      g.popState.advance.give (.scalar p.anchor ⟨text, style, tag⟩) p.start
    | .flowSequenceStart, _, _ => (g.goto .flowSequenceFirst).give sequence p.start
    | .flowMappingStart, _, _ => (g.goto .flowMappingFirst).give mapping p.start
    | .blockSequenceStart, true, _ => (g.goto .blockSequenceFirst).give sequence p.start
    | .blockMappingStart, true, _ => (g.goto .blockMappingFirst).give mapping p.start
    | _, _, _ =>
      if p.anchor.isSome || p.tag.isSome then
        g.popState.give (.scalar p.anchor ⟨"", .plain, tag⟩) p.start
      else
        let context := if block then "while parsing a block node" else "while parsing a flow node"
        .error ⟨"did not find expected node content", t.start, some (context, p.start)⟩

def documentContentStep (g : Grammar) : GrammarStep := do
  let t ← g.peek
  match t.lexeme with
  | .version .. => g.popState.giveEmpty t.start
  | .tagDirective .. => g.popState.giveEmpty t.start
  | .documentStart => g.popState.giveEmpty t.start
  | .documentEnd => g.popState.giveEmpty t.start
  | .streamEnd => g.popState.giveEmpty t.start
  | _ => g.nodeStep true false

/-! ### Block collections -/

/-- Past the token that begins a collection. -/
def enter (g : Grammar) : Except Problem Grammar := do
  let t ← g.peek
  .ok (g.pushMark t.start).advance

def leave (g : Grammar) (h : Happening) (t : Token) : GrammarStep :=
  g.popState.popMark.advance.give h t.start

/-- The node behind an indicator, or nothing when a token of `enders` follows it. -/
def nodeAfter (g : Grammar) (indicator : Token) (next : Expectation) (enders : List Lexeme)
    (indentless : Bool) : GrammarStep := do
  let g := g.advance
  let t ← g.peek
  if enders.contains t.lexeme then (g.goto next).giveEmpty indicator.stop
  else (g.pushState next).nodeStep true indentless

def blockSequenceStep (g : Grammar) : GrammarStep := do
  let t ← g.peek
  match t.lexeme with
  | .blockEntry => g.nodeAfter t .blockSequenceEntry [.blockEntry, .blockEnd] false
  | .blockEnd => g.leave .sequenceEnd t
  | _ =>
    .error (g.collectionProblem "did not find expected '-' indicator"
      "while parsing a block collection" t)

def indentlessStep (g : Grammar) : GrammarStep := do
  let t ← g.peek
  match t.lexeme with
  | .blockEntry => g.nodeAfter t .indentlessEntry [.blockEntry, .key, .value, .blockEnd] false
  | _ => g.popState.give .sequenceEnd t.start

def blockKeyStep (g : Grammar) : GrammarStep := do
  let t ← g.peek
  match t.lexeme with
  | .key => g.nodeAfter t .blockMappingValue [.key, .value, .blockEnd] true
  | .blockEnd => g.leave .mappingEnd t
  | _ =>
    .error (g.collectionProblem "did not find expected key" "while parsing a block mapping" t)

def blockValueStep (g : Grammar) : GrammarStep := do
  let t ← g.peek
  match t.lexeme with
  | .value => g.nodeAfter t .blockMappingKey [.key, .value, .blockEnd] true
  | _ => (g.goto .blockMappingKey).giveEmpty t.start

/-! ### Flow collections -/

/-- Past the comma between the entries of a flow collection. -/
def passComma (g : Grammar) (what context : String) : Except Problem Grammar := do
  let t ← g.peek
  if t.lexeme = .flowEntry then .ok g.advance
  else .error (g.collectionProblem what context t)

/-- An entry of a flow sequence; an entry with a key is a mapping of one pair. -/
def flowSequenceStep (g : Grammar) (first : Bool) : GrammarStep := do
  let t ← g.peek
  if t.lexeme = .flowSequenceEnd then g.leave .sequenceEnd t
  else
    let g ← if first then .ok g
      else g.passComma "did not find expected ',' or ']'" "while parsing a flow sequence"
    let t ← g.peek
    match t.lexeme with
    | .key => (g.goto .flowPairKey).advance.give (.mappingStart none none) t.start
    | .flowSequenceEnd => g.leave .sequenceEnd t
    | _ => (g.pushState .flowSequenceEntry).nodeStep false false

/-- The key of a pair in a flow sequence. The token behind an absent key is passed over. -/
def flowPairKeyStep (g : Grammar) : GrammarStep := do
  let t ← g.peek
  if [.value, .flowEntry, .flowSequenceEnd].contains t.lexeme then
    (g.goto .flowPairValue).advance.giveEmpty t.stop
  else (g.pushState .flowPairValue).nodeStep false false

def flowPairValueStep (g : Grammar) : GrammarStep := do
  let t ← g.peek
  if t.lexeme = .value then
    let g := g.advance
    let t ← g.peek
    if [.flowEntry, .flowSequenceEnd].contains t.lexeme then
      (g.goto .flowPairEnd).giveEmpty t.start
    else (g.pushState .flowPairEnd).nodeStep false false
  else (g.goto .flowPairEnd).giveEmpty t.start

def flowKeyStep (g : Grammar) (first : Bool) : GrammarStep := do
  let t ← g.peek
  if t.lexeme = .flowMappingEnd then g.leave .mappingEnd t
  else
    let g ← if first then .ok g
      else g.passComma "did not find expected ',' or '\x7d'" "while parsing a flow mapping"
    let t ← g.peek
    match t.lexeme with
    | .key =>
      let g := g.advance
      let t ← g.peek
      if [.value, .flowEntry, .flowMappingEnd].contains t.lexeme then
        (g.goto .flowMappingValue).giveEmpty t.start
      else (g.pushState .flowMappingValue).nodeStep false false
    | .flowMappingEnd => g.leave .mappingEnd t
    | _ => (g.pushState .flowMappingNoValue).nodeStep false false

def flowValueStep (g : Grammar) : GrammarStep := do
  let t ← g.peek
  if t.lexeme = .value then
    let g := g.advance
    let t ← g.peek
    if [.flowEntry, .flowMappingEnd].contains t.lexeme then
      (g.goto .flowMappingKey).giveEmpty t.start
    else (g.pushState .flowMappingKey).nodeStep false false
  else (g.goto .flowMappingKey).giveEmpty t.start

/-! ### Runs -/

def step (g : Grammar) : GrammarStep :=
  match g.state with
  | .stream => do
    let t ← g.peek
    (g.goto .implicitDocument).advance.give .streamStart t.start
  | .implicitDocument => g.documentStep true
  | .document => g.documentStep false
  | .documentContent => g.documentContentStep
  | .documentEnd => g.documentEndStep
  | .blockNode => g.nodeStep true false
  | .blockSequenceFirst => do (← g.enter).blockSequenceStep
  | .blockSequenceEntry => g.blockSequenceStep
  | .indentlessEntry => g.indentlessStep
  | .blockMappingFirst => do (← g.enter).blockKeyStep
  | .blockMappingKey => g.blockKeyStep
  | .blockMappingValue => g.blockValueStep
  | .flowSequenceFirst => do (← g.enter).flowSequenceStep true
  | .flowSequenceEntry => g.flowSequenceStep false
  | .flowPairKey => g.flowPairKeyStep
  | .flowPairValue => g.flowPairValueStep
  | .flowPairEnd => do
    let t ← g.peek
    (g.goto .flowSequenceEntry).give .mappingEnd t.start
  | .flowMappingFirst => do (← g.enter).flowKeyStep true
  | .flowMappingKey => g.flowKeyStep false
  | .flowMappingValue => g.flowValueStep
  | .flowMappingNoValue => do
    let t ← g.peek
    (g.goto .flowMappingKey).giveEmpty t.start
  | .finished => g.give .streamEnd .start

/-- The events up to the end of the stream or the first problem. Between two tokens stand at most a
few events. -/
def run : (fuel : Nat) → Grammar → List Event × Option Problem
  | 0, _ => ([], none)
  | fuel + 1, g =>
    match g.step with
    | .error p => ([], some p)
    | .ok (e, g) =>
      if g.state = .finished then ([e], none)
      else
        let (events, failure) := run fuel g
        (e :: events, failure)

end Grammar

/-! ### Characters of a document -/

/-- A character that a document may hold. -/
def isDocumentChar (c : Char) : Bool :=
  let n := c.toNat
  n == 0x9 || n == 0xA || n == 0xD || (0x20 ≤ n && n ≤ 0x7E) || n == 0x85 ||
    (0xA0 ≤ n && n ≤ 0xD7FF) || (0xE000 ≤ n && n ≤ 0xFFFD) || 0x10000 ≤ n

/-- How many bytes stand before the first character that a document may not hold. -/
def foreignOffset? (text : String) : Option Nat :=
  let allowed := text.toList.takeWhile isDocumentChar
  if allowed.length = text.toList.length then none
  else some ((allowed.map Char.utf8Size).foldl (· + ·) 0)

/-- What is wrong with the form of a stream. -/
inductive FormFault where
  /-- A character that no document may hold, behind so many bytes. -/
  | foreignChar (offset : Nat)
  | problem (p : Problem)
  /-- An alias before its anchor. -/
  | unknownAnchor (mark : Mark)
  deriving DecidableEq, Repr

def FormFault.text : FormFault → String
  | foreignChar offset =>
    "control characters are not allowed" ++ if offset = 0 then "" else s!" at position {offset}"
  | problem p => p.text
  | unknownAnchor m => "unknown anchor" ++ Problem.place m

/-- The events of a text, and the fault where they break off. -/
def Event.read (text : String) : List Event × Option FormFault :=
  match foreignOffset? text with
  | some offset => ([], some (.foreignChar offset))
  | none =>
    let (tokens, failure) := Token.scan text
    let (events, failure) := Grammar.run (8 * tokens.length + 16) { tokens, failure }
    (events, failure.map .problem)

end ProvingGround.Yaml
