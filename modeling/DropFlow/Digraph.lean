/-
  DropFlow/Digraph.lean
  =====================
  Finite directed graphs over integer nodes, with their successors as rows.

  A graph is made from a list of nodes and a list of arcs; arcs that leave the nodes
  are left out.  The nodes are kept in increasing order (a node that is listed twice
  stays twice) and so are the successors of each node, once each.  The order of a
  graph is the size of the range `0, 1, …, order − 1` of identifiers that it was made
  for; it is carried along to the parts of the graph.
-/
import DropFlow.IdSet

namespace DropFlow

structure Digraph where
  order : Int
  /-- The nodes, in increasing order. -/
  keys : List Int
  /-- The successors of each node, in increasing order. -/
  rows : List (Int × List Int)
  /-- Printable names of nodes. -/
  labels : List (Int × String)
  deriving DecidableEq, Repr

namespace Digraph

/-- The graph of nodes and arcs; an arc needs both its ends among the nodes. -/
def make (order : Int) (nodes : List Int) (arcs : List (Int × Int))
    (labels : List (Int × String)) : Digraph :=
  let row (k : Int) : Int × List Int :=
    (k, (IdSet.ofList ((arcs.filter fun a => a.1 == k && nodes.contains a.2).map (·.2))).toList)
  let keys := nodes.mergeSort (fun a b => decide (a ≤ b))
  { order, keys, rows := keys.map row, labels }

/-- The successors of a node, in increasing order; a node outside the graph has none. -/
def successors (g : Digraph) (v : Int) : List Int := (g.rows.lookup v).getD []

def arcs (g : Digraph) : List (Int × Int) :=
  g.rows.flatMap fun (v, ws) => ws.map fun w => (v, w)

/-- The part of a graph on some nodes. -/
def subgraph (g : Digraph) (nodes : List Int) : Digraph :=
  make g.order nodes g.arcs g.labels

/-- A graph without the arcs from a node to itself. -/
def withoutLoops (g : Digraph) : Digraph :=
  { g with rows := g.rows.map fun (v, ws) => (v, ws.filter (· != v)) }

/-- The printable name of a node; empty if it has none. -/
def label (g : Digraph) (v : Int) : String := (g.labels.lookup v).getD ""

/-- The number of arcs that enter a node from another node. -/
def inDegree (g : Digraph) (v : Int) : Nat :=
  g.keys.countP fun k => k != v && (g.successors k).contains v

end Digraph

end DropFlow
