/-
  DropFlow/Digraph/Cycle.lean
  ===========================
  All elementary cycles of a graph, each once and starting at its least node.

  The loops of single nodes come first.  Then the least node that lies on a longer
  cycle is taken, the cycles through it are listed by a search with blocking, and the
  rest of the graph, from the next node on, is treated alike.  A node is blocked while
  it is on the path, and stays blocked after a search in vain until one of its
  successors is released.

  The components, which tell where the longer cycles are, are found by a function that
  the search is given.  Its bounds are never met on a graph of distinct nodes in its range.
-/
import DropFlow.Digraph.Component

namespace DropFlow.Digraph

/-! ### 1. The search for the cycles through one node -/

structure CycleSearch where
  /-- The nodes that are not to be entered. -/
  blocked : List Int := []
  /-- Pairs of a node and a node to release with it. -/
  waiting : List (Int × Int) := []
  /-- The cycles found, in order. -/
  found : List (List Int) := []
  deriving Repr

namespace CycleSearch

/-- A node without its block, and with nothing that waits for it. -/
def clear (s : CycleSearch) (u : Int) : CycleSearch :=
  { s with
    blocked := s.blocked.filter (· != u)
    waiting := s.waiting.filter (·.1 != u) }

/-- The nodes to release with a node. -/
def waitersOf (s : CycleSearch) (u : Int) : List Int := (s.waiting.filter (·.1 == u)).map (·.2)

/-- Releases a node unless it is free. -/
def wake? (releaseNext? : Int → CycleSearch → Option CycleSearch) (s : CycleSearch) (w : Int) :
    Option CycleSearch :=
  if s.blocked.contains w then releaseNext? w s else some s

/-- Releases a node and all that waits for it. -/
def release? : Nat → Int → CycleSearch → Option CycleSearch
  | 0, _, _ => none
  | fuel + 1, u, s => (s.waitersOf u).foldlM (wake? (release? fuel)) (s.clear u)

def block (s : CycleSearch) (v : Int) : CycleSearch := { s with blocked := v :: s.blocked }

/-- Lets a node wait for each of its successors. -/
def park (s : CycleSearch) (v : Int) (successors : List Int) : CycleSearch :=
  { s with waiting := s.waiting ++
      (successors.filter fun w => !s.waiting.contains (w, v)).map fun w => (w, v) }

/-- Tries one successor of the last node of a path; the flag tells whether a cycle closes. -/
def attempt? (start : Int) (path : List Int)
    (next? : Int → CycleSearch → Option (Bool × CycleSearch)) (s : CycleSearch) (w : Int) :
    Option (Bool × CycleSearch) :=
  if w = start then some (true, { s with found := s.found ++ [path ++ [w]] })
  else if s.blocked.contains w then some (false, s)
  else next? w s

def look? (start : Int) (path : List Int)
    (next? : Int → CycleSearch → Option (Bool × CycleSearch)) (acc : Bool × CycleSearch)
    (w : Int) : Option (Bool × CycleSearch) :=
  (attempt? start path next? acc.2 w).map fun r => (acc.1 || r.1, r.2)

/-- Ends the extension by a node. -/
def leave? (g : Digraph) (v : Int) (r : Bool × CycleSearch) : Option (Bool × CycleSearch) :=
  if r.1 then (release? (g.keys.length + 1) v r.2).map fun s => (true, s)
  -- after a search in vain the node stays blocked until one of its successors is released
  else some (false, park r.2 v (g.successors v))

/-- Extends a path by a node and lists the cycles that close at `start`; the flag tells whether
    there is one. -/
def circuit? (g : Digraph) (start : Int) :
    Nat → List Int → Int → CycleSearch → Option (Bool × CycleSearch)
  | 0, _, _, _ => none
  | fuel + 1, path, v, s =>
    ((g.successors v).foldlM (look? start (path ++ [v]) (circuit? g start fuel (path ++ [v])))
      (false, s.block v)).bind (leave? g v)

end CycleSearch

/-! ### 2. All cycles -/

def inRange (g : Digraph) (v : Int) : Bool := 0 ≤ v && v < g.order

/-- Whether every arc that starts in the range of a graph also ends in it. -/
def rangeClosed (g : Digraph) : Bool :=
  0 ≤ g.order && g.keys.all fun v => !g.inRange v || (g.successors v).all g.inRange

/-- The components of all of the range of a graph. -/
def rangeComponents (g : Digraph) : List (List Int) :=
  components g.order.toNat ((List.range g.order.toNat).map Int.ofNat) g.successors

/-- The least node in a component of two or more nodes. -/
def leastLarge? (cs : List (List Int)) : Option Int :=
  (cs.filter fun c => 1 < c.length).flatten.min?

/-- The part of a graph from a position on, without loops. -/
def partFrom (g : Digraph) (start : Nat) : Digraph := (g.subgraph (g.keys.drop start)).withoutLoops

/-- The cycles of two or more nodes whose least node is at the position `start` or later. -/
def cyclesFrom? (g : Digraph) (strong : Digraph → List (List Int)) :
    Nat → Nat → Option (List (List Int))
  | 0, _ => none
  | fuel + 1, start =>
    if g.keys.length ≤ start then some []
    else
      -- the cycles through the nodes before `start` and the loops are listed already
      let part := g.partFrom start
      if !part.rangeClosed then none
      else
        match leastLarge? (strong part) with
        | none => some []
        | some least => do
          let (_, s) ← CycleSearch.circuit? part least (part.keys.length + 1) [] least {}
          let rest ← cyclesFrom? g strong fuel (g.keys.idxOf least + 1)
          return s.found ++ rest

/-- All elementary cycles of a graph, loops first, where `strong` finds the components of its
    parts; nothing if an arc leaves the range of the graph, or if a bound is met. -/
def cycles? (g : Digraph) (strong : Digraph → List (List Int) := rangeComponents) :
    Option (List (List Int)) :=
  let loops := (g.keys.filter fun k => (g.successors k).contains k).map fun k => [k, k]
  (cyclesFrom? g strong (g.keys.length + 1) 0).map (loops ++ ·)

end DropFlow.Digraph
