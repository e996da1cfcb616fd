/-
  DropFlow/Pattern.lean
  =====================
  Patterns for the names of callees.

  A pattern is a regular expression that may match any part of a name.  A text that is
  no regular expression stands for the one name that is equal to it, and an empty text
  for no name at all.
-/
import DropFlow.Pattern.Syntax

namespace DropFlow

/-- A pattern, by its text. -/
structure CalleePattern where
  text : String
  deriving DecidableEq, Repr, Inhabited

def CalleePattern.isMatch (p : CalleePattern) (name : String) : Bool :=
  if p.text = "" then false
  else
    match Pattern.Expression.parse? p.text with
    | some e => e.occursIn name
    | none => p.text = name

def anyMatch (ps : List CalleePattern) (name : String) : Bool := ps.any (·.isMatch name)

end DropFlow
