import ProvingGround.Yaml.Token.Basic

/-!
# Events of a YAML stream

The structure of a stream as a flat sequence: documents, the collections in them, scalars and
aliases. Tags are in full and whatever the text leaves out stands as an empty plain scalar.
-/

namespace ProvingGround.Yaml

structure Scalar where
  text : String
  style : Style
  tag : Option String := none
  deriving DecidableEq, Repr

/-- A piece of the structure of a stream. -/
inductive Happening where
  | streamStart
  | streamEnd
  | documentStart
  | documentEnd
  | reference (name : String)
  | scalar (anchor : Option String) (scalar : Scalar)
  | sequenceStart (anchor tag : Option String)
  | sequenceEnd
  | mappingStart (anchor tag : Option String)
  | mappingEnd
  deriving DecidableEq, Repr

/-- A piece of the structure with the mark where it begins. -/
structure Event where
  happening : Happening
  mark : Mark
  deriving DecidableEq, Repr

end ProvingGround.Yaml
