/-
  DropFlow/Entries.lean
  =====================
  The functions that a check starts from.

  Entries are named by the ends of their names, segment by segment.  When none is
  named, they are the functions that no other function calls; if every function is
  called by another one, the least function of each group of mutually recursive
  functions that is not called from outside takes their place.
-/
import DropFlow.CallGraph
import DropFlow.Digraph.Cycle
import DropFlow.Program
import DropFlow.Text.Emphasis

namespace DropFlow

open DropFlow.Text

/-! ### 1. Names of entries -/

/-- The segments of a name, which dots and colons divide. -/
def segments (name : String) : List String :=
  ((split '.' name).flatMap (split ':')).filter (· ≠ "")

/-- Whether the last segments of a name are the segments of an entry. -/
def matchesEntry (name entry : String) : Bool :=
  !(segments entry).isEmpty && (segments entry).isSuffixOf (segments name)

/-! ### 2. Finding the entries -/

inductive EntryError where
  | unmatched (entries : List String)
  | noneFound
  deriving DecidableEq, Repr

def EntryError.message : EntryError → String
  | .unmatched entries => "no function matches the entries " ++ bracketed entries
  | .noneFound => "could not find any entry point"

/-- The functions with a body that an entry names. -/
def entryMatches (p : Program) (entry : String) : List Int :=
  p.defined.filter fun id => matchesEntry (p.name id) entry

/-- The functions with a body that one of some entries names, in increasing order, with a
    warning for each entry that names none. -/
def namedEntries (p : Program) (entries : List String) :
    Except EntryError (List Int) × List Notice :=
  let notices := (entries.filter fun e => (entryMatches p e).isEmpty).map fun e =>
    Notice.warning fun _ => "entry " ++ quoted e ++ " does not match any function with a body\n"
  match (IdSet.ofList (entries.flatMap (entryMatches p))).toList with
  | [] => (.error (.unmatched entries), notices)
  | ids => (.ok ids, notices)

/-- The functions of a graph of calls that no other function calls, or else the least function of
    each of its source components, in increasing order. -/
def rootFunctions (g : Digraph) : List Int :=
  match g.keys.filter fun f => g.inDegree f = 0 with
  | [] => (IdSet.ofList (g.sources.filterMap List.min?)).toList
  | uncalled => (IdSet.ofList uncalled).toList

/-- What is announced of the cycles of a graph of calls. -/
def cycleNotice (g : Digraph) : Notice :=
  ⟨.topic "callgraph", fun _ => (g.cycles?.getD []).map fun cycle =>
    "recursive cycle: " ++ " -> ".intercalate (cycle.map g.label) ++ "\n"⟩

/-- The entries of a program that names none. -/
def detectedEntries (p : Program) (calls : CallGraph) :
    Except EntryError (List Int) × List Notice :=
  let g := calls.toDigraph p.size p.name
  match rootFunctions g with
  | [] => (.error .noneFound, [cycleNotice g])
  | ids =>
    (.ok ids, cycleNotice g :: ids.map fun id =>
      Notice.debug fun _ => "Entry point: " ++ p.name id ++ "\n")

/-- The entries of a program: those that are named, if any name is given. -/
def findEntries (p : Program) (calls : CallGraph) (named : List String) :
    Except EntryError (List Int) × List Notice :=
  if named.isEmpty then detectedEntries p calls else namedEntries p named

end DropFlow
