import ProvingGround.Word
import ProvingGround.Yaml.Atom
import ProvingGround.Yaml.Node.Basic

/-!
# Reading values out of a document

A reading walks a document from a node and gives a value or says what is wrong, with the path to the
place and its mark. The innermost place that knows of a fault names it. Aliases are followed, at
most a hundred times for each event of the document, and collections may be nested 128 deep.

Text fields take the text of any scalar; fields of other kinds look at plain scalars. A value whose
kind is not known in advance is read as a tree of its own, with the meaning of each scalar.
-/

namespace ProvingGround.Yaml

open Text

/-! ### Faults -/

/-- Why no value could be read. -/
inductive DecodeFault where
  /-- The text is no document. -/
  | form (fault : FormFault)
  /-- A value of the wrong shape; the path is empty at the root. -/
  | shape (message : String) (place : Option (Mark × String))
  | tooDeep (mark : Mark)
  | tooManyAliases
  /-- More than one document. -/
  | severalDocuments
  deriving DecidableEq, Repr

def DecodeFault.text : DecodeFault → String
  | form fault => fault.text
  | shape message none => message
  | shape message (some (m, path)) =>
    (if path.isEmpty then "" else path ++ ": ") ++ message ++ Problem.place m
  | tooDeep m => "recursion limit exceeded" ++ Problem.place m
  | tooManyAliases => "repetition limit exceeded"
  | severalDocuments =>
    "deserializing from YAML containing more than one document is not supported"

/-- A reading of a value; the state counts the aliases followed. -/
abbrev Reading := ReaderT Document (StateT Nat (Except DecodeFault))

namespace Reading

variable {α : Type}

/-- A value of the wrong shape, at a place still to be named. -/
def mismatch (message : String) : Reading α := throw (.shape message none)

/-- Something else than what was expected. -/
def unexpected (found expected : String) : Reading α :=
  mismatch s!"invalid type: {found}, expected {expected}"

def outOfBounds (n : Int) (expected : String) : Reading α :=
  mismatch s!"invalid value: integer `{n}`, expected {expected}"

/-- Names the place of a fault that has none yet. -/
def locate (path : String) (m : Mark) (r : Reading α) : Reading α := fun doc count =>
  match r doc count with
  | .error (.shape message none) => .error (.shape message (some (m, path)))
  | result => result

/-! ### Paths -/

def under (path : String) (key : Node) : String :=
  let name := match key with
    | .scalar _ s => s.text
    | _ => "?"
  if path.isEmpty then name else path ++ "." ++ name

def item (path : String) (i : Nat) : String :=
  (if path.isEmpty then "." else path) ++ s!"[{i}]"

/-! ### Walking -/

def follow (number : Nat) : Reading Node := fun doc count =>
  if count + 1 > doc.size * 100 then .error .tooManyAliases
  else
    match doc.anchors.lookup number with
    | some n => .ok (n, count + 1)
    | none => .error .tooManyAliases

def atNode (path : String) (n : Node) (read : Node → Reading α) : Reading α :=
  match n with
  | .broken f => throw (.form f)
  | .reference m number => locate path m do
    let target ← follow number
    locate path target.mark (read target)
  | n => locate path n.mark (read n)

def ignore (n : Node) : Reading Unit :=
  match n.fault? with
  | some f => throw (.form f)
  | none => pure ()

def wrongKind (n : Node) (expected : String) : Reading α :=
  match n with
  | .scalar _ s =>
    match Atom.ofScalar s with
    | .ok a => unexpected a.describe expected
    | .error message => mismatch message
  | .sequence .. => unexpected "sequence" expected
  | .mapping .. => unexpected "map" expected
  | _ => mismatch "EOF while parsing a value"

/-- The next level of nesting. -/
def deeper (depth : Nat) (m : Mark) (read : Nat → Reading α) : Reading α :=
  match depth with
  | 0 => throw (.tooDeep m)
  | d + 1 => read d

/-! ### Scalars -/

def textAs (expected path : String) (n : Node) : Reading String :=
  atNode path n fun
    | .scalar _ s => pure s.text
    | n => wrongKind n expected

def text (path : String) (n : Node) : Reading String := textAs "a string" path n

def fieldName (path : String) (n : Node) : Reading String := textAs "field identifier" path n

/-- A scalar that may stand for something else than its text: a plain one, or a literal block with
the tag of the kind asked for. -/
def isOpen (tag : String) (s : Scalar) : Bool :=
  s.style = .plain || (s.style = .literal && s.tag = some (Atom.coreTag tag))

/-- A scalar of a kind given by its tag and a reader of its text. -/
def scalarOf (tag expected : String) (read : String → Option α) (path : String) (n : Node)
    (check : α → Reading α) : Reading α :=
  atNode path n fun
    | .scalar m s =>
      match if isOpen tag s then read s.text else none with
      | some a => check a
      | none => wrongKind (.scalar m s) expected
    | n => wrongKind n expected

def bool (path : String) (n : Node) : Reading Bool :=
  scalarOf "bool" "a boolean" Atom.readBool path n pure

def natural (limit : Nat) (expected path : String) (n : Node) : Reading Nat :=
  scalarOf "int" expected (Atom.readUnsigned (Word.count 64)) path n fun v =>
    if v < limit then pure v else outOfBounds v expected

/-- A whole number with sign, of so many bits. -/
def integer (bits : Nat) (expected path : String) (n : Node) : Reading Int :=
  scalarOf "int" expected Atom.readSigned path n fun v =>
    if -(Word.count (bits - 1) : Int) ≤ v ∧ v < Word.count (bits - 1) then pure v
    else outOfBounds v expected

/-! ### Collections -/

/-- Nothing was written: the content of an empty stream, or an empty plain scalar. -/
def isAbsent : Node → Bool
  | .nothing _ => true
  | .scalar _ s => s.text.isEmpty && s.style = .plain
  | _ => false

/-- The entries of a mapping, none if nothing was written. -/
def entries (expected path : String) (depth : Nat) (n : Node)
    (read : Nat → List (Node × Node) → Reading α) : Reading α :=
  atNode path n fun
    | .mapping m _ es => deeper depth m fun d => read d es
    | n => if isAbsent n then read depth [] else wrongKind n expected

/-- A value that may be left out by writing nothing or null. -/
def optional (n : Node) (read : Node → Reading α) : Reading (Option α) := do
  let n ← match n with
    | .reference _ number => follow number
    | n => pure n
  match n with
  | .broken f => throw (.form f)
  | .nothing _ => pure none
  | .scalar m s =>
    if s.style ≠ .plain then some <$> read (.scalar m s)
    else if s.tag = some (Atom.coreTag "null") then
      if Atom.isNull s.text then pure none else mismatch (Atom.mismatch s.text "null")
    else if s.tag.isNone && (s.text.isEmpty || Atom.isNull s.text) then pure none
    else some <$> read (.scalar m s)
  | n => some <$> read n

/-- Reads a field once. -/
def once (name : String) (old : Option α) (read : Reading α) : Reading (Option α) :=
  match old with
  | some _ => mismatch s!"duplicate field `{name}`"
  | none => some <$> read

/-- The value of a field that must be there. -/
def required (name : String) (value : Option α) : Reading α :=
  match value with
  | some a => pure a
  | none => mismatch s!"missing field `{name}`"

end Reading

def readDocument {α : Type} (text : String) (read : Node → Reading α) : Except DecodeFault α :=
  let doc := Document.read text
  match (read doc.root).run doc 0 with
  | .error fault => .error fault
  | .ok (value, _) =>
    match doc.fault with
    | some fault => .error (.form fault)
    | none => if doc.hasMore then .error .severalDocuments else .ok value

/-- How deep collections may be nested. -/
def depthLimit : Nat := 128

end ProvingGround.Yaml
