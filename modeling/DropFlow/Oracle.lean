/-
  DropFlow/Oracle.lean
  ====================
  Whether one block can be executed after another one.

  Within a function this follows the successors of blocks; every block reaches itself.
  Across functions it follows calls into the entry block of a callee, and does not
  follow the return.  The answer is found by a search over the blocks where functions
  are entered: a function that cannot call its way to the wanted one is not searched,
  and no block is searched twice.

  What has been found out about a block or a function is kept, and so is the graph of
  the blocks of a function.  How the two graphs, that of the blocks and that of the calls,
  are traversed is left to functions that the oracle is given.
-/
import DropFlow.Digraph.Closure
import DropFlow.Resolution

namespace DropFlow

open DropFlow.Text

/-! ### 1. Traversals -/

/-- The traversals of an oracle.  Each gives the nodes that it meets from a node of a graph, the
    node itself included. -/
structure Traversals where
  /-- Through the blocks of a function. -/
  depthFirst : Digraph → Int → List Int
  /-- Through the functions and their calls. -/
  breadthFirst : Digraph → Int → List Int

/-- One search for both. -/
def Traversals.own : Traversals := ⟨Digraph.reachable, Digraph.reachable⟩

/-- The blocks of a body and their successors, without the arc from a block to itself. -/
def Body.controlFlow (f : Body) : Digraph :=
  Digraph.make f.blocks.length (f.blocks.map (·.id))
    (f.blocks.flatMap fun b => (b.successors.filter (· ≠ b.id)).map fun s => (b.id, s)) []

/-! ### 2. What is known -/

/-- An oracle over the calls of a program, with what it has found out. -/
structure Oracle where
  program : Program
  calls : CallGraph
  /-- The functions and the calls between them. -/
  graph : Digraph
  walks : Traversals
  /-- The blocks of the functions looked at; none if there is no usable body. -/
  flows : List (Int × Option Digraph) := []
  /-- The blocks of its function that a block reaches. -/
  blocks : List (BlockRef × IdSet) := []
  /-- The functions that a function reaches by one or more calls. -/
  functions : List (Int × IdSet) := []
  notices : Array Notice := #[]

namespace Oracle

/-- The oracle that knows nothing yet. -/
def make (p : Program) (calls : CallGraph) (walks : Traversals := Traversals.own) : Oracle :=
  { program := p, calls, graph := calls.toDigraph p.size p.name, walks }

/-- Asks the program for a body. -/
def fetch (o : Oracle) (f : Int) : Oracle × Except Program.BodyError Body :=
  let got := o.program.fetch f
  ({ o with program := got.program, notices := o.notices ++ got.notices }, got.body)

/-- The blocks of a function with a usable body. -/
def controlFlow (o : Oracle) (f : Int) : Oracle × Option Digraph :=
  match o.flows.lookup f with
  | some g => (o, g)
  | none =>
    let (o, result) := o.fetch f
    let g := result.toOption.map (·.controlFlow)
    ({ o with flows := (f, g) :: o.flows }, g)

/-- The blocks of its function that a block reaches. -/
def blocksFrom (o : Oracle) (a : BlockRef) : Oracle × IdSet :=
  match o.blocks.lookup a with
  | some set => (o, set)
  | none =>
    let (o, flow) := o.controlFlow a.function
    let met := match flow with
      | some g => if g.keys.contains a.block then o.walks.depthFirst g a.block else []
      | none => []
    -- a block reaches itself, also where there is nothing to traverse
    let set := IdSet.ofList (a.block :: met)
    ({ o with blocks := (a, set) :: o.blocks }, set)

/-- The functions that a function reaches by calls; nothing if a call leaves the functions of
    the program. -/
def functionsFrom (o : Oracle) (f : Int) : Oracle × Option IdSet :=
  match o.functions.lookup f with
  | some set => (o, some set)
  | none =>
    if o.graph.keys.contains f then
      let met := o.walks.breadthFirst o.graph f
      if met.all fun v => 0 ≤ v && v < o.graph.order then
        -- `f` itself is left out, although it may call its way back: nobody asks for it here
        let set := IdSet.ofList (met.filter (· ≠ f))
        ({ o with functions := (f, set) :: o.functions }, some set)
      else (o, none)
    else ({ o with functions := (f, ∅) :: o.functions }, some ∅)

/-- Whether a function reaches another one by calls, or is that function. -/
def reachesFunction (o : Oracle) (f g : Int) : Oracle × Option Bool :=
  if f = g then (o, some true)
  else
    let (o, set) := o.functionsFrom f
    (o, set.map fun s => decide (g ∈ s))

/-! ### 3. The search -/

/-- A call on the way: the block where its function was entered, and the function called. -/
abbrev Pursuit := BlockRef × Int

/-- What the look at one block gives. -/
inductive Look where
  /-- The wanted block is reached. -/
  | found
  /-- The calls to follow. -/
  | follow (calls : List Pursuit)
  /-- A call leaves the functions of the program. -/
  | lost

/-- Looks at a block: whether it reaches the wanted one in its function, and else which calls
    may lead there. -/
def look (o : Oracle) (a b : BlockRef) : Oracle × Look :=
  let (o, here) :=
    if a.function = b.function then
      let (o, set) := o.blocksFrom a
      (o, decide (b.block ∈ set))
    else (o, false)
  if here then (o, .found)
  else
    match o.reachesFunction a.function b.function with
    | (o, none) => (o, .lost)
    | (o, some false) => (o, .follow [])
    | (o, some true) =>
      match o.calls.callBlocks a.function with
      | [] => (o, .follow [])
      | sites =>
        -- a call counts only if its block is reached from `a`
        let (o, set) := o.blocksFrom a
        (o, .follow ((sites.filter fun s => decide (s ∈ set)).flatMap fun s =>
          (o.calls.callees ⟨a.function, s⟩).map fun callee => (a, callee)))

/-- Follows calls, depth first, until the wanted block is reached. -/
def search (b : BlockRef) : Nat → Oracle → List BlockRef → List Pursuit → Oracle × Option Bool
  | 0, o, _, _ => (o, some false)
  | _, o, _, [] => (o, some false)
  | fuel + 1, o, visited, (from', callee) :: rest =>
    match o.fetch callee with
    | (o, .error e) =>
      let warning := Notice.warning fun _ =>
        "callee " ++ o.program.name callee ++ " of " ++ from'.text ++ " is not analyzable: " ++
          e.message ++ "\n"
      search b fuel { o with notices := o.notices.push warning } visited rest
    | (o, .ok f) =>
      -- a callee is followed from its entry block, whatever block calls it
      let a : BlockRef := ⟨callee, f.entry⟩
      if visited.contains a then search b fuel o visited rest
      else
        match o.look a b with
        | (o, .found) => (o, some true)
        | (o, .lost) => (o, none)
        | (o, .follow calls) => search b fuel o (a :: visited) (calls ++ rest)

/-- A bound for the search: each recorded call is followed at most once from each block where a
    function is entered. -/
def searchBound (o : Oracle) : Nat := (o.calls.calls.length + 1) * (o.calls.calls.length + 1) + 1

/-- Whether `b` can be executed after `a`; nothing if a call leaves the functions of the
    program. -/
def canReach (o : Oracle) (a b : BlockRef) : Oracle × Option Bool :=
  let (o, answer) := match o.look a b with
    | (o, .found) => (o, some true)
    | (o, .lost) => (o, none)
    | (o, .follow calls) => search b o.searchBound o [a] calls
  match answer with
  | none => (o, none)
  | some r =>
    let notice := Notice.onTopic "reachable" fun _ =>
      a.text ++ " -> " ++ b.text ++ ": " ++ (if r then "true" else "false") ++ "\n"
    ({ o with notices := o.notices.push notice }, some r)

end Oracle

end DropFlow
