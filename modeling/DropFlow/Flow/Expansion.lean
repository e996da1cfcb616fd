/-
  DropFlow/Flow/Expansion.lean
  ============================
  The flow graph that a program induces, from one entry on.

  Every activation that is reached contributes a list of effects: cells, flows, drops
  and calls, in the order of its blocks.  The effects are a function of the program
  alone; carrying them out builds the graph, schedules the objects, records the calls
  and reaches further activations.  An effect may also end the analysis, because the
  program has a shape that it cannot handle.
-/
import DropFlow.Flow.Graph
import DropFlow.Resolution

namespace DropFlow

open DropFlow.Text

/-! ### 1. Causes of an abort -/

inductive AnalysisError where
  | entryWithoutBody (name : String)
  | unusableBody (name : String) (e : Program.BodyError)
  | undeclaredDestination (place : Place) (callee function : String)
  deriving DecidableEq, Repr

def AnalysisError.message : AnalysisError → String
  | .entryWithoutBody name =>
    "analysis invariant violated: entry function " ++ name ++ " has no body"
  | .unusableBody name e =>
    "analysis invariant violated: reachable function " ++ name ++ " has no usable body: " ++
      e.message
  | .undeclaredDestination p callee f =>
    "analysis invariant violated: destination " ++ p.text ++ " of call to " ++ callee ++ " in " ++
      f ++ " is not declared"

namespace Flow

/-! ### 2. Effects -/

/-- The address and the name of a cell. -/
structure CellRef where
  activation : Activation
  place : Place
  name : String
  deriving DecidableEq, Repr

/-- What an activation contributes. -/
inductive Effect where
  | note (n : Notice)
  /-- The body of a function is needed. -/
  | load (function : Int)
  /-- A cell exists. -/
  | touch (c : CellRef)
  /-- The source flows into the target; the notice is given if the edge is new. -/
  | link (source target : CellRef) (site : Site) (passing : Graph.Passing) (news : Option Notice)
  /-- A cell is destroyed. -/
  | drop (c : CellRef) (site : Site)
  /-- A block calls a function. -/
  | call (site : BlockRef) (callee : Int)
  /-- The analysis ends. -/
  | abort (e : AnalysisError)

/-- The cell of a place in an activation of a body. -/
def cellOf (a : Activation) (f : Body) (p : Place) : CellRef := ⟨a, p, f.varName p⟩

def assignmentEffects (a : Activation) (f : Body) (b : Block) (s : Assignment) : List Effect :=
  let written (_ : Unit) : String := s.left.text ++ " = " ++ s.kind.text ++ " " ++ s.right.text
  let start (_ : Unit) : String := f.name ++ " bb" ++ decimal b.id ++ ": "
  if !s.createsAlias then
    [.note (.onTopic "assign" fun _ =>
      start () ++ "skip " ++ written () ++ " (not a pointer)\n")]
  else
    [.link (cellOf a f s.right) (cellOf a f s.left) ⟨a.function, b.id, s.location⟩ .value
      (some (.onTopic "assign" fun _ =>
        start () ++ written () ++ " in " ++ a.context.text ++ "\n"))]

/-- Where the result of a call goes, if it has a value: a destination has to be declared, and
    a whole slot of the unit type takes no value. -/
def valueDestination (f : Body) (c : Call) : Except AnalysisError (Option Place) :=
  match c.destination with
  | none => .ok none
  | some p =>
    match f.slot? p.slot with
    | none => .error (.undeclaredDestination p c.callee f.name)
    | some d => .ok (if 0 < p.depth ∨ !d.type.isUnit then some p else none)

/-- The effects of passing the arguments, counted from `index`, to the parameters of a callee. -/
def argumentEffects (a callee : Activation) (f g : Body) (site : Site) :
    Nat → List Argument → List Effect
  | _, [] => []
  | index, arg :: rest =>
    -- slot 0 of the callee is its result
    let slot : Int := index + 1
    let here : List Effect :=
      if !arg.createsAlias then []
      else if (g.slot? slot).isNone then
        [.note (.debug fun _ => g.name ++ " has no parameter " ++ decimal slot ++ " for " ++
          "argument " ++ arg.text ++ " of call in " ++ f.name ++ "\n")]
      else [.link (cellOf a f arg.place) (cellOf callee g ⟨slot, []⟩) site .argument none]
    here ++ argumentEffects a callee f g site (index + 1) rest

def resultEffects (a callee : Activation) (f g : Body) (c : Call) (site : Site) : List Effect :=
  match valueDestination f c with
  | .error e => [.abort e]
  | .ok none => []
  | .ok (some p) =>
    [.link (cellOf callee g ⟨resultSlot, []⟩) (cellOf a f p) site .value none]

def targetEffects (p : Program) (a : Activation) (f : Body) (block : Int) (c : Call)
    (target : Int) : List Effect :=
  let site : Site := ⟨a.function, block, c.location⟩
  let callee : Activation := ⟨target, .call a.function block⟩
  .call ⟨a.function, block⟩ target :: .load target ::
    match p.body target with
    -- the load before ends the analysis
    | .error _ => []
    | .ok g => argumentEffects a callee f g site 0 c.arguments ++ resultEffects a callee f g c site

/-- The effects of a call to an unknown function: the arguments flow into the result. -/
def externalEffects (a : Activation) (f : Body) (block : Int) (c : Call) : List Effect :=
  let site : Site := ⟨a.function, block, c.location⟩
  match valueDestination f c with
  | .error e => [.abort e]
  | .ok none => []
  | .ok (some p) =>
    .touch (cellOf a f p) :: (c.arguments.filter Argument.createsAlias).map fun arg =>
      .link (cellOf a f arg.place) (cellOf a f p) site .value none

def callEffects (p : Program) (config : Config) (a : Activation) (f : Body) (block : Int)
    (c : Call) : List Effect :=
  let (targets, kind) := resolve p config c.callee c.candidates
  .note (.onTopic "callgraph" fun _ =>
      f.name ++ " bb" ++ decimal block ++ ": call " ++ c.callee ++ " is " ++ kind.name ++ " [" ++
        " ".intercalate (targets.map decimal) ++ "]\n") ::
    match kind with
    | .resolved => targets.flatMap (targetEffects p a f block c)
    | .external => externalEffects a f block c
    | .passthrough => []
    | .ignored => []

/-- The effects of a block: its assignments, and then its drop or its call. -/
def blockEffects (p : Program) (config : Config) (a : Activation) (f : Body) (b : Block) :
    List Effect :=
  b.assignments.flatMap (assignmentEffects a f b) ++
    match b.terminator with
    | .plain => []
    | .drop place location => [.drop (cellOf a f place) ⟨a.function, b.id, location⟩]
    | .call c => callEffects p config a f b.id c

def bodyEffects (p : Program) (config : Config) (a : Activation) (f : Body) : List Effect :=
  f.blocks.flatMap (blockEffects p config a f)

/-! ### 3. Carrying effects out -/

structure State where
  program : Program
  graph : Graph := {}
  pending : List WorkItem := []
  calls : CallGraph := {}
  /-- The activations reached so far, in the order of discovery. -/
  reached : List Activation := []
  /-- How many of them have been expanded. -/
  expanded : Nat := 0
  notices : Array Notice := #[]

namespace State

def announce (s : State) (ns : List Notice) : State := { s with notices := s.notices ++ ns }

/-- Reaches an activation, unless it has been reached. -/
def reach (s : State) (a : Activation) : State :=
  if s.reached.contains a then s else { s with reached := s.reached ++ [a] }

/-- The cell of an address, which is created if it does not exist. -/
def ensure (s : State) (c : CellRef) : State × Int :=
  let (g, id) := s.graph.ensure c.activation c.place c.name
  ({ s with graph := g }, id)

/-- Asks for the body of a function. -/
def load (s : State) (function : Int) : State × Except AnalysisError Body :=
  let got := s.program.fetch function
  let s := { s with program := got.program }.announce got.notices
  (s, got.body.mapError (.unusableBody (s.program.name function)))

/-- Lets a cell flow into another one. -/
def link (s : State) (source target : CellRef) (site : Site) (passing : Graph.Passing)
    (news : Option Notice) : State :=
  let (s, x) := s.ensure source
  let (s, y) := s.ensure target
  let isNew := !s.graph.hasEdge x y
  let (g, work) := s.graph.connect x y site passing
  let s := { s with graph := g, pending := s.pending ++ work }
  if isNew then s.announce news.toList else s

/-- Adds a drop site to a cell; the first one makes the cell an object that it holds itself. -/
def drop (s : State) (c : CellRef) (site : Site) : State :=
  let (s, id) := s.ensure c
  let isFirst := (s.graph.dropsOf id).isEmpty
  { s with
    graph := s.graph.addDrop id site
    pending := if isFirst then s.pending ++ [⟨id, .singleton id⟩] else s.pending }

def apply (s : State) : Effect → State × Option AnalysisError
  | .note n => (s.announce [n], none)
  | .load f =>
    match s.load f with
    | (s, .ok _) => (s, none)
    | (s, .error e) => (s, some e)
  | .touch c => ((s.ensure c).1, none)
  | .link source target site passing news => (s.link source target site passing news, none)
  | .drop c site => (s.drop c site, none)
  | .call site callee =>
    ({ s with calls := s.calls.add site callee }.reach
      ⟨callee, .call site.function site.block⟩, none)
  | .abort e => (s, some e)

/-- Carries effects out in order, up to the first one that ends the analysis. -/
def applyAll (s : State) : List Effect → State × Option AnalysisError
  | [] => (s, none)
  | e :: rest =>
    match s.apply e with
    | (s, none) => applyAll s rest
    | (s, some error) => (s, some error)

def expandOne (config : Config) (s : State) (a : Activation) : State × Option AnalysisError :=
  match s.load a.function with
  | (s, .error e) => (s, some e)
  | (s, .ok f) => s.applyAll (bodyEffects s.program config a f)

/-- Expands the activations that are reached, in the order of discovery. -/
def expand (config : Config) : Nat → State → State × Option AnalysisError
  | 0, s => (s, none)
  | fuel + 1, s =>
    match s.reached[s.expanded]? with
    | none => (s, none)
    | some a =>
      match expandOne config { s with expanded := s.expanded + 1 } a with
      | (s, none) => expand config fuel s
      | (s, some e) => (s, some e)

end State

/-- A bound for the number of activations: the entry, and each function called from each block. -/
def activationBound (p : Program) : Nat :=
  let blocks := (p.entries.toList.flatMap fun e => e.source.blocks).length
  1 + p.size * blocks

end Flow

end DropFlow
