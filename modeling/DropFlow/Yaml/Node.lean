/-
  DropFlow/Yaml/Node.lean
  =======================
  The trees of YAML documents: those that are read, and those that are written.

  A scalar that is read carries its text, the tag that it shows and its meaning, if the
  two agree.  A reference names the anchored node by its place in the table of the
  document, so that a node may refer to a node around it.

  A tree that is written says only what it holds; how its scalars are quoted and where
  its nodes stand is left to the text.
-/
import DropFlow.Yaml.Scalar

namespace DropFlow.Yaml

/-! ### 1. Documents -/

/-- A node of a document, with the line on which it starts (counted from one).  A collection may
    have an explicit tag. -/
inductive Node where
  /-- A scalar has no meaning if its tag contradicts its text. -/
  | scalar (line : Nat) (tag text : String) (meaning : Option Scalar)
  | sequence (line : Nat) (tag : Option String) (items : List Node)
  | mapping (line : Nat) (tag : Option String) (entries : List (Node × Node))
  | reference (line : Nat) (name : String) (target : Nat)
  deriving Repr, Inhabited

/-- A document: its root, the anchored nodes in the order in which their anchors appear, and
    the number of tokens it was read from. -/
structure Document where
  root : Node
  anchors : Array Node := #[]
  extent : Nat := 0
  deriving Repr, Inhabited

namespace Node

def line : Node → Nat
  | .scalar l .. => l
  | .sequence l .. => l
  | .mapping l .. => l
  | .reference l .. => l

/-- The node of a scalar that is written in a style, maybe with an explicit tag. -/
def ofScalar (line : Nat) (tag : Option String) (style : Style) (text : String) : Node :=
  .scalar line (scalarTag tag style text) text (Scalar.read? tag style text)

end Node

/-- The node itself, or the anchored node that it refers to. -/
def Document.resolve (anchors : Array Node) : Node → Node
  | .reference l name target => anchors.getD target (.reference l name target)
  | n => n

/-! ### 2. Trees to be written -/

/-- What a document is to hold; the keys of a mapping are texts. -/
inductive Tree where
  | text (s : String)
  | int (i : Int)
  | bool (b : Bool)
  | list (items : List Tree)
  | fields (entries : List (String × Tree))
  deriving Repr, Inhabited

end DropFlow.Yaml
