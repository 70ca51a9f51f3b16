import ProvingGround.Yaml.Cursor

/-!
# Tokens of a YAML document

The pieces that a document is made of, in the order of the text, with the marks where each begins
and ends. The beginnings and ends of block collections, which the text shows by indentation alone,
are tokens too.
-/

namespace ProvingGround.Yaml

inductive Style where
  | plain
  | singleQuoted
  | doubleQuoted
  | literal
  | folded
  deriving DecidableEq, Repr

inductive Lexeme where
  | streamStart
  | streamEnd
  | version (major minor : Nat)
  | tagDirective (handle uri : String)
  | documentStart
  | documentEnd
  | blockSequenceStart
  | blockMappingStart
  | blockEnd
  | flowSequenceStart
  | flowSequenceEnd
  | flowMappingStart
  | flowMappingEnd
  | blockEntry
  | flowEntry
  | key
  | value
  | reference (name : String)
  | anchor (name : String)
  | tag (handle suffix : String)
  | scalar (text : String) (style : Style)
  deriving DecidableEq, Repr

structure Token where
  lexeme : Lexeme
  start : Mark
  stop : Mark
  deriving DecidableEq, Repr

end ProvingGround.Yaml
