/-
  DropFlow/Yaml/Token.lean
  ========================
  The lexical tokens of YAML.  Block structure is made explicit here: the lexer
  turns indentation into start and end tokens, so that a reader of tokens needs
  no columns.
-/
import DropFlow.Yaml.Cursor

namespace DropFlow.Yaml

/-- How a scalar was written. -/
inductive Style where
  | plain
  | singleQuoted
  | doubleQuoted
  | literal
  | folded
  deriving DecidableEq, Repr, Inhabited

/-- What a token is. -/
inductive Token.Kind where
  | streamEnd
  | versionDirective (major minor : Nat)
  | tagDirective (handle shorthand : String)
  | documentStart
  | documentEnd
  | blockSequenceStart
  | blockMappingStart
  | blockEnd
  | flowSequenceStart
  | flowSequenceEnd
  | flowMappingStart
  | flowMappingEnd
  | blockEntry
  | flowEntry
  | key
  | value
  | reference (name : String)
  | anchor (name : String)
  | tag (handle suffix : String)
  | scalar (style : Style) (text : String)
  deriving DecidableEq, Repr, Inhabited

/-- A token with the marks of its first character and of the character after it. -/
structure Token where
  kind : Token.Kind
  start : Mark
  stop : Mark
  deriving DecidableEq, Repr, Inhabited

/-- The tokens of a text up to its end, or up to the place where it stops being readable. -/
structure Tokens where
  toks : Array Token
  readable : Bool
  deriving Repr, Inhabited

end DropFlow.Yaml
