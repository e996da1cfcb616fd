/-
  DropFlow/CallGraph.lean
  =======================
  Which functions the call at the end of a block may invoke.

  Calls are kept in the order in which they were recorded, each once, together with
  the functions that are known as callers even when none of their calls is resolved.
-/
import DropFlow.Digraph
import DropFlow.Location

namespace DropFlow

structure CallGraph where
  /-- The functions that were registered or call another one. -/
  callers : IdSet := ∅
  /-- The calling block and the function called, in the order of recording. -/
  calls : List (BlockRef × Int) := []
  deriving DecidableEq, Repr

namespace CallGraph

def register (g : CallGraph) (caller : Int) : CallGraph :=
  { g with callers := g.callers.insert caller }

/-- Records a call; a call that is already recorded stays where it is. -/
def add (g : CallGraph) (site : BlockRef) (callee : Int) : CallGraph :=
  { callers := g.callers.insert site.function
    calls := if g.calls.contains (site, callee) then g.calls else g.calls ++ [(site, callee)] }

/-- The functions that the call of a block may invoke. -/
def callees (g : CallGraph) (site : BlockRef) : List Int :=
  (g.calls.filter (·.1 = site)).map (·.2)

/-- The blocks of a function that hold a resolved call, in increasing order. -/
def callBlocks (g : CallGraph) (caller : Int) : List Int :=
  (IdSet.ofList ((g.calls.filter (·.1.function = caller)).map (·.1.block))).toList

/-- The functions of the graph, as callers or as callees, in increasing order. -/
def functions (g : CallGraph) : List Int :=
  (g.callers.union (IdSet.ofList (g.calls.map (·.2)))).toList

/-- Every call block of every function with its callees. -/
def table (g : CallGraph) : List (Int × Int × List Int) :=
  g.functions.flatMap fun f => (g.callBlocks f).map fun b => (f, b, g.callees ⟨f, b⟩)

/-- The graph of the functions; `order` is the number of functions of the program. -/
def toDigraph (g : CallGraph) (order : Int) (name : Int → String) : Digraph :=
  let fs := g.functions
  Digraph.make order fs (g.calls.map fun c => (c.1.function, c.2)) (fs.map fun f => (f, name f))

end CallGraph

end DropFlow
