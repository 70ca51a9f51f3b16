import ProvingGround.Word
import ProvingGround.Yaml.Reading

/-!
# Values of any kind

Where the kind of a value is not known in advance it is read as a tree with the meaning of each
scalar, and typed afterwards. Typing such a tree is stricter than reading a field at once: a text
field takes texts alone. Keys of a typed tree may name a field by its position.
-/

namespace ProvingGround.Yaml

open Reading

inductive Value where
  | null
  | bool (b : Bool)
  | int (n : Int)
  | float (x : Binary64)
  | text (s : String)
  | list (items : List Value)
  | map (entries : List (Value × Value))
  deriving Repr, Inhabited

namespace Value

/-! ### Reading -/

/-- The value of a scalar's meaning; numbers of more than 64 bits are not values. -/
def ofAtom : Atom → Reading Value
  | .null => pure null
  | .bool b => pure (bool b)
  | .unsigned n => pure (int n)
  | .signed n => pure (int n)
  | .float x => pure (float x)
  | .text s => pure (text s)
  | a => unexpected a.describe "any value"

/-- Refuses a tag of the document's own. -/
def refuseLocalTag (tag : Option String) : Reading Unit :=
  if Atom.isLocalTag tag then
    mismatch "untagged and internally tagged enums do not support enum input"
  else pure ()

def read : (depth : Nat) → (path : String) → Node → Reading Value
  | depth, path, n =>
    atNode path n fun
      | .scalar _ s => do
        refuseLocalTag s.tag
        match Atom.ofScalar s with
        | .ok a => ofAtom a
        | .error message => mismatch message
      | .sequence m tag items => do
        refuseLocalTag tag
        match depth with
        | 0 => throw (.tooDeep m)
        | d + 1 =>
          list <$> items.zipIdx.mapM fun (n, i) => read d (item path i) n
      | .mapping m tag entries => do
        refuseLocalTag tag
        match depth with
        | 0 => throw (.tooDeep m)
        | d + 1 =>
          map <$> entries.mapM fun (k, v) => do
            let key ← read d path k
            let value ← read d (under path k) v
            pure (key, value)
      | _ => pure null

/-! ### Typing -/

def describe : Value → String
  | null => Atom.null.describe
  | bool b => (Atom.bool b).describe
  | int n => (Atom.signed n).describe
  | float x => (Atom.float x).describe
  | text s => (Atom.text s).describe
  | list _ => "sequence"
  | map _ => "map"

def asText : Value → Reading String
  | text s => pure s
  | v => unexpected v.describe "a string"

/-- A whole number with sign, of so many bits. -/
def asInteger (bits : Nat) (expected : String) : Value → Reading Int
  | int n =>
    if -(Word.count (bits - 1) : Int) ≤ n ∧ n < Word.count (bits - 1) then pure n
    else outOfBounds n expected
  | v => unexpected v.describe expected

/-- A value that null leaves out. -/
def asOptional {α : Type} (typed : Value → Reading α) : Value → Reading (Option α)
  | null => pure none
  | v => some <$> typed v

def asEntries (expected : String) : Value → Reading (List (Value × Value))
  | map entries => pure entries
  | v => unexpected v.describe expected

/-- The field that a key names: by a text, or by its position among the fields. -/
def asField (fields : List String) : Value → Reading (Option String)
  | text s => pure (some s)
  | int n => if n < 0 then unexpected (int n).describe "field identifier" else pure fields[n.toNat]?
  | v => unexpected v.describe "field identifier"

end Value

end ProvingGround.Yaml
