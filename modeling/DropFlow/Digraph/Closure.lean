/-
  DropFlow/Digraph/Closure.lean
  =============================
  What can be reached from a node.

  The search keeps the nodes that are still to be looked at and the nodes met.  Every
  round takes one node from the first list; the argument `bound` limits the rounds.
  Since a node is expanded only once, one round for each start node and each arc is
  enough.
-/
import DropFlow.Digraph

namespace DropFlow.Digraph

variable {α : Type} [DecidableEq α]

/-- The nodes met from the nodes of a list, added to those met before. -/
def reachFrom (successors : α → List α) : Nat → List α → List α → List α
  | 0, _, met => met
  | _, [], met => met
  | bound + 1, x :: rest, met =>
    if met.contains x then reachFrom successors bound rest met
    else reachFrom successors bound (successors x ++ rest) (x :: met)

/-- The nodes of a graph that can be reached from a node, itself included. -/
def reachable (g : Digraph) (v : Int) : List Int :=
  reachFrom g.successors (1 + g.arcs.length) [v] []

end DropFlow.Digraph
