/-
  DropFlow/Yaml/Library.lean
  ==========================
  What is asked of a library for YAML texts.

  Which text is which document, what its scalars say, and how a tree is laid out as a
  text is the business of a library.  All that reads or writes documents is told which
  one to use, and uses the library of this project unless it is told another.
-/
import DropFlow.Yaml.Node.Printer
import DropFlow.Yaml.Node.Reader

namespace DropFlow.Yaml

/-- A library that reads and prints YAML texts. -/
structure Library where
  /-- The first document of a text.  The outer option refuses a malformed text, the inner one
      tells a text without any document. -/
  read? : String → Option (Option Document)
  /-- The text of a tree, indented by the given number of columns for each level. -/
  print : Nat → Tree → String

/-- The library of this project. -/
def Library.own : Library where
  read? := Document.read?
  print := Tree.render

end DropFlow.Yaml
