/-
  DropFlow/Digraph/Component.lean
  ===============================
  Strongly connected components by depth-first search with low points.

  The search keeps the nodes met so far with their numbers, the stack of those whose
  component is not yet closed, and the closed components.  Visiting a node gives its
  low point: the least number of a stacked node that the visit has seen an arc to.  A
  node whose low point is its own number closes the component that lies above it on
  the stack.  A component is closed after all components that it leads to, so that
  successors come first.

  The search works on any successor function, and need not end.  Its argument `bound`
  limits the depth of the visits; there is no result if a visit would be deeper.  A bound
  that is at least the number of reachable nodes is never met.
-/
import DropFlow.Digraph

namespace DropFlow.Digraph

variable {α : Type} [DecidableEq α]

/-! ### 1. The search -/

structure Search (α : Type) where
  /-- The nodes met so far with their numbers, the latest first. -/
  numbers : List (α × Nat) := []
  /-- The nodes whose component is still open, the latest first. -/
  stack : List α := []
  /-- The closed components, in the order in which they were closed. -/
  closed : List (List α) := []
  deriving Repr

namespace Search

def number? (s : Search α) (v : α) : Option Nat := s.numbers.lookup v

/-- Meets a node: it gets the next number and goes on the stack. -/
def enter (s : Search α) (v : α) : Search α :=
  { s with numbers := (v, s.numbers.length) :: s.numbers, stack := v :: s.stack }

/-- Closes the component of a node: the stack down to the node. -/
def close (s : Search α) (v : α) : Search α :=
  { s with
    stack := (s.stack.dropWhile (· ≠ v)).drop 1
    closed := s.closed ++ [s.stack.takeWhile (· ≠ v) ++ [v]] }

/-- Looks at a successor of a node that is being visited, and lowers the low point of the node. -/
def look? (visitNext? : α → Search α → Option (Nat × Search α)) (acc : Nat × Search α) (w : α) :
    Option (Nat × Search α) :=
  match acc.2.number? w with
  | none => (visitNext? w acc.2).map fun r => (min acc.1 r.1, r.2)
  -- an arc into a component that is closed says nothing about the present one
  | some k => some (if acc.2.stack.contains w then (min acc.1 k, acc.2) else acc)

/-- Ends the visit of a node, given its number and its low point. -/
def leave (v : α) (number : Nat) (acc : Nat × Search α) : Nat × Search α :=
  -- nothing from `v` upwards leads below `v`: it is the lowest node of its component
  (acc.1, if acc.1 = number then acc.2.close v else acc.2)

/-- Visits a node that has not been met, and gives its low point. -/
def visit? (successors : α → List α) : Nat → α → Search α → Option (Nat × Search α)
  | 0, _, _ => none
  | fuel + 1, v, s =>
    ((successors v).foldlM (look? (visit? successors fuel)) (s.numbers.length, s.enter v)).map
      (leave v s.numbers.length)

/-- Visits a node unless it has been met. -/
def visitNew? (successors : α → List α) (bound : Nat) (s : Search α) (v : α) :
    Option (Search α) :=
  match s.number? v with
  | some _ => some s
  | none => (visit? successors bound v s).map (·.2)

end Search

/-! ### 2. Components -/

/-- The strongly connected components of the nodes reachable from `nodes`, successors first;
    nothing if the bound is met. -/
def components? (bound : Nat) (nodes : List α) (successors : α → List α) :
    Option (List (List α)) :=
  (nodes.foldlM (Search.visitNew? successors bound) {}).map (·.closed)

/-- The components under a bound that is large enough. -/
def components (bound : Nat) (nodes : List α) (successors : α → List α) : List (List α) :=
  (components? bound nodes successors).getD []

/-- Whether an arc enters a component from another one. -/
def isEntered (successors : α → List α) (all : List (List α)) (c : List α) : Bool :=
  all.any fun d => d ≠ c && d.any fun x => (successors x).any fun y => c.contains y

/-- The components that no arc enters from another one, predecessors first; nothing if the bound
    is met. -/
def sourceComponents? (bound : Nat) (nodes : List α) (successors : α → List α) :
    Option (List (List α)) :=
  (components? bound nodes successors).map fun all =>
    all.reverse.filter fun c => !isEntered successors all c

/-- The source components under a bound that is large enough. -/
def sourceComponents (bound : Nat) (nodes : List α) (successors : α → List α) : List (List α) :=
  (sourceComponents? bound nodes successors).getD []

/-- The successors of a node in a list of arcs, as they are listed. -/
def listedSuccessors (arcs : List (α × α)) (v : α) : List α :=
  (arcs.filter fun a => a.1 = v).map (·.2)

/-- A bound for the searches from `nodes` along a list of arcs. -/
def listedBound (nodes : List α) (arcs : List (α × α)) : Nat := nodes.length + arcs.length

/-- The components of a graph. -/
def strongComponents (g : Digraph) : List (List Int) :=
  components g.keys.length g.keys g.successors

/-- The components of a graph that no arc enters from another one. -/
def sources (g : Digraph) : List (List Int) :=
  sourceComponents g.keys.length g.keys g.successors

end DropFlow.Digraph
