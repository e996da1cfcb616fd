/-
  DropFlow/Flow/Tables.lean
  =========================
  The pointer flow graph as it is kept in memory.

  Asking a graph for the cell of a place, for the cells of a slot, for an edge or for the
  edges that leave a cell must not go through all of it.  So each of these has a table of
  its own: the rows of the cells by their numbers, the numbers by activation and spelling
  of the place, the numbers by slot, the edges by their ends, the targets in the row of
  their source, and the list of the edges that use memory.  Every operation writes to each
  table that it concerns.

  An operation on a row that does not exist has no result.
-/
import DropFlow.Flow.Graph
import Std.Data.HashMap

namespace DropFlow

deriving instance Hashable for Context, Activation

namespace Flow

/-! ### 1. The tables -/

/-- A cell with its number and the targets of the edges that leave it, in the order of
    insertion. -/
structure Row where
  id : Int
  cell : Cell
  targets : List Int := []
  deriving DecidableEq, Repr

structure Tables where
  rows : Array Row := #[]
  /-- The numbers of the cells, by activation and by the spelling of the place. -/
  index : Std.HashMap (Activation × String) Int := {}
  /-- The numbers of the cells of a slot, in the order of creation. -/
  slots : Std.HashMap (Activation × Int) (List Int) := {}
  /-- The edges by source and target. -/
  edges : Std.HashMap (Int × Int) Edge := {}
  /-- The edges that use memory, in the order of insertion. -/
  derefEdges : List Edge := []
  multiDrop : IdSet := ∅

namespace Tables

/-! ### 2. Looking up -/

def size (t : Tables) : Nat := t.rows.size

def row? (t : Tables) (id : Int) : Option Row :=
  if 0 ≤ id then t.rows[id.toNat]? else none

def lookup (t : Tables) (a : Activation) (p : Place) : Option Int := t.index[(a, p.key)]?

def slotIds (t : Tables) (a : Activation) (slot : Int) : List Int := t.slots[(a, slot)]?.getD []

def edge? (t : Tables) (source target : Int) : Option Edge := t.edges[(source, target)]?

def hasEdge (t : Tables) (source target : Int) : Bool := (t.edge? source target).isSome

def successors? (t : Tables) (source : Int) : Option (List Int) := (t.row? source).map (·.targets)

/-- What the table of edges has for the targets in the rows, row by row. -/
def allEdges (t : Tables) : List (Option Edge) :=
  t.rows.toList.flatMap fun r => r.targets.map fun target => t.edge? r.id target

/-- The abstract objects, in increasing order. -/
def objects (t : Tables) : List Int := (t.rows.toList.filter fun r => r.cell.isObject).map (·.id)

/-! ### 3. Operations -/

/-- The number of the cell of a place, which is created if it does not exist; the flag tells
    whether it has been. -/
def create (t : Tables) (a : Activation) (p : Place) (name : String) : Tables × Int × Bool :=
  match t.lookup a p with
  | some id => (t, id, false)
  | none =>
    let id : Int := t.size
    ({ t with
        rows := t.rows.push { id, cell := { activation := a, place := p, name } }
        index := t.index.insert (a, p.key) id
        slots := t.slots.insert (a, p.slot) (t.slotIds a p.slot ++ [id]) }, id, true)

/-- Changes the row with a number. -/
def modifyRow (t : Tables) (id : Int) (f : Row → Row) : Tables :=
  { t with rows := t.rows.modify id.toNat f }

/-- Adds a drop site to a cell; the flag tells whether it is the first one. -/
def addDrop? (t : Tables) (id : Int) (site : Site) : Option (Tables × Bool) := do
  let r ← t.row? id
  let dropped (r : Row) : Row := { r with cell := { r.cell with drops := r.cell.drops ++ [site] } }
  return (t.modifyRow id dropped, (r.cell.drops ++ [site]).length == 1)

/-- Adds an edge unless there is one between its ends, together with the work that it brings;
    the flag tells whether it has been added. -/
def addEdge? (t : Tables) (e : Edge) : Option (Tables × Bool × List WorkItem) :=
  match t.edge? e.source e.target with
  | some _ => some (t, false, [])
  | none => do
    let r ← t.row? e.source
    let linked := t.modifyRow e.source fun r => { r with targets := r.targets ++ [e.target] }
    let known := r.cell.objects
    return ({ linked with
        edges := t.edges.insert (e.source, e.target) e
        derefEdges := if e.isDeref then t.derefEdges ++ [e] else t.derefEdges },
      true, if known.isEmpty then [] else [⟨e.target, known⟩])

/-- Adds the edge that a flow between two cells brings. -/
def connect? (t : Tables) (source target : Int) (site : Site) :
    Graph.Passing → Option (Tables × Bool × List WorkItem)
  | .value => do
    let s ← t.row? source
    let r ← t.row? target
    t.addEdge? ⟨source, target, site, s.cell.place.hasDeref, r.cell.place.hasDeref⟩
  | .argument => t.addEdge? ⟨source, target, site, true, true⟩

/-- Adds objects to what a cell points to, and gives those that are new to it. -/
def union? (t : Tables) (id : Int) (set : IdSet) : Option (Tables × IdSet) := do
  let r ← t.row? id
  let delta := set.diff r.cell.objects
  return (t.modifyRow id fun r =>
    { r with cell := { r.cell with objects := r.cell.objects.union delta } }, delta)

/-- Records that an object may hold another one. -/
def markMultiDrop (t : Tables) (id : Int) : Tables :=
  { t with multiDrop := t.multiDrop.insert id }

end Tables

end Flow

end DropFlow
