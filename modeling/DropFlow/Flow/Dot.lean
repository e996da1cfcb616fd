/-
  DropFlow/Flow/Dot.lean
  ======================
  The pointer flow graph as text: a listing of its cells, and a drawing for graph
  layout programs.

  Both name a cell by its function, its place, the calling block and the variable.  In
  a drawing this is put between double quotes, so that quotes and backslashes in it are
  escaped.
-/
import DropFlow.Flow.Graph

namespace DropFlow.Flow

open DropFlow.Text

/-! ### 1. Labels -/

/-- Puts a backslash in front of every backslash and double quote. -/
def escapeLabelChars : List Char → List Char
  | [] => []
  | c :: rest =>
    if c = '\\' ∨ c = '"' then '\\' :: c :: escapeLabelChars rest
    else c :: escapeLabelChars rest

/-- A text as the inside of a label between double quotes. -/
def escapeLabel (s : String) : String := String.ofList (escapeLabelChars s.toList)

/-- How a cell is named, where `name` gives the names of the functions. -/
def Cell.label (name : Int → String) (c : Cell) : String :=
  let here := name c.activation.function ++ " " ++ c.place.text
  let from' := match c.activation.context with
    | .entry => ""
    | .call caller block => " @" ++ name caller ++ ":bb" ++ decimal block
  let variable' := if c.name = "" then "" else " (" ++ c.name ++ ")"
  here ++ from' ++ variable'

def objectList (s : IdSet) : String :=
  ", ".intercalate (s.toList.map fun x => "n" ++ decimal x)

def boolText (b : Bool) : String := if b then "true" else "false"

namespace Graph

/-! ### 2. The listing -/

def edgeLine (e : Edge) : String :=
  "\t-> n" ++ decimal e.target ++
  (if e.isDeref then " [deref " ++ boolText e.sourceDeref ++ "/" ++ boolText e.targetDeref ++ "]"
   else "") ++
  " at " ++ e.site.text ++ "\n"

/-- The lines of a cell: its name, its objects, its drop sites and its edges. -/
def cellLines (g : Graph) (name : Int → String) (id : Int) (c : Cell) : String :=
  "n" ++ decimal id ++ ": " ++ c.label name ++ "\n" ++
  "\tpts: \x7b" ++ objectList c.objects ++ "\x7d\n" ++
  String.join (c.drops.map fun site => "\tdropped at " ++ site.text ++ "\n") ++
  String.join ((g.edgesFrom id).map edgeLine)

/-- The listing of a graph. -/
def listing (g : Graph) (name : Int → String) : String :=
  let multi := g.multiDrop.toList
  String.join (g.numbered.map fun (id, c) => g.cellLines name id c) ++
  (if multi.isEmpty then ""
   else "multi-drop: [" ++ " ".intercalate (multi.map decimal) ++ "]\n")

/-! ### 3. The drawing -/

def cellDrawing (g : Graph) (name : Int → String) (id : Int) (c : Cell) : String :=
  let borders := if c.isObject then " peripheries=2" else ""
  let color := if id ∈ g.multiDrop then " color=red" else ""
  let objects := if c.objects.isEmpty then "" else "\\n\x7b" ++ objectList c.objects ++ "\x7d"
  decimal id ++ " [label=\"n" ++ decimal id ++ ": " ++ escapeLabel (c.label name) ++ objects ++
    "\" shape=rect" ++ borders ++ color ++ "];\n"

def clusterDrawing (g : Graph) (name : Int → String) (index : Nat) (a : Activation) : String :=
  "subgraph cluster_" ++ decimal index ++ " \x7b\nlabel=\"" ++ escapeLabel a.text ++ "\";\n" ++
  String.join ((g.cellsOf a).map fun (id, c) => g.cellDrawing name id c) ++
  "\x7d // subgraph\n"

/-- The line of an edge in a drawing; uses of memory are dashed. -/
def edgeDrawing (e : Edge) : String :=
  decimal e.source ++ " -> " ++ decimal e.target ++
    (if e.isDeref then " [style=dashed]" else "") ++ ";\n"

/-- The drawing of a graph. -/
def drawing (g : Graph) (label : String) (name : Int → String) : String :=
  "digraph \x7b // start of digraph\nrankdir = LR;\n" ++
  "graph[label=\"" ++ escapeLabel label ++ "\"];\n" ++
  String.join (g.activations.zipIdx.map fun (a, i) => g.clusterDrawing name i a) ++
  String.join (g.allEdges.map edgeDrawing) ++
  "\x7d // end of digraph\n"

end Graph

end DropFlow.Flow
