/-
  DropFlow/Flow/Propagation.lean
  ==============================
  One step of the propagation of objects.

  Objects that arrive at a cell and are new to it are handed on in three ways: along
  the edges that leave the cell, to the deeper places of the same slot, and, for each
  place that the cell is a part of, to the same part of everything that place flows
  into.  The cell of such a part is created when it does not exist, unless its place
  would be deeper than the limit; a new cell starts with the objects of the places that
  it is a part of.
-/
import DropFlow.Flow.Graph
import DropFlow.Log

namespace DropFlow.Flow

open DropFlow.Text

/-- What the propagation has to know besides the graph. -/
structure Rules where
  /-- The greatest depth of a place that is created. -/
  limit : Nat
  /-- The source name of the slot of a place in a function. -/
  name : Int → Place → String

/-- What one step leaves behind: the graph, the work that it brings, and what it announces. -/
structure Progress where
  graph : Graph
  work : List WorkItem := []
  notices : List Notice := []

/-! ### 1. Where objects go -/

/-- The deeper places of the slot of a cell. -/
def deeperCells (g : Graph) (c : Cell) : List Int :=
  ((g.slotCells c.activation c.place.slot).filter fun (_, o) => c.place.strictlyCovers o.place).map
    (·.1)

/-- The same part of everything that a place around the cell flows into. -/
def sameParts (g : Graph) (c : Cell) : List (Activation × Place) :=
  ((g.slotCells c.activation c.place.slot).filter fun (_, o) =>
      o.place.strictlyCovers c.place).flatMap fun (id, o) =>
    (g.successors id).filterMap fun target =>
      (g.cell? target).map fun t => (t.activation, t.place.append (o.place.stepsTo c.place))

/-! ### 2. Cells on demand -/

/-- The objects of the places around a place, as work for its cell. -/
def inherited (g : Graph) (a : Activation) (p : Place) (id : Int) : List WorkItem :=
  ((g.slotCells a p.slot).filter fun (_, o) =>
    o.place.strictlyCovers p && !o.objects.isEmpty).map fun (_, o) => ⟨id, o.objects⟩

/-- Hands objects to the cell of a place, which is created if it does not exist. -/
def offer (r : Rules) (g : Graph) (delta : IdSet) (a : Activation) (p : Place) :
    Graph × List WorkItem :=
  match g.find? a p with
  | some id => (g, [⟨id, delta⟩])
  | none =>
    let (g, id) := g.ensure a p (r.name a.function p)
    (g, inherited g a p id ++ [⟨id, delta⟩])

/-- Hands objects to the cells of places, except those that are too deep. -/
def offerAll (r : Rules) (delta : IdSet) : List (Activation × Place) → Graph → Progress
  | [], g => { graph := g }
  | (a, p) :: rest, g =>
    if r.limit < p.depth then
      -- what would be handed to the place is lost, and only the trace tells of it
      let next := offerAll r delta rest g
      { next with notices :=
          Notice.trace (fun _ => a.text ++ ": path " ++ p.text ++ " exceeds the maximum depth\n") ::
            next.notices }
    else
      let (g, work) := offer r g delta a p
      let next := offerAll r delta rest g
      { next with work := work ++ next.work }

/-! ### 3. The step -/

/-- Adds new objects to a cell, and records when an object may now hold another one. -/
def absorb (g : Graph) (id : Int) (delta : IdSet) : Graph :=
  let g := g.addObjects id delta
  match g.cell? id with
  -- a dropped cell holds itself, so that a second object is another one
  | some c => if c.isObject && 1 < c.objects.size then g.markMultiDrop id else g
  | none => g

/-- Hands new objects of a cell on. -/
def handOn (r : Rules) (g : Graph) (id : Int) (c : Cell) (delta : IdSet) : Progress :=
  let next := offerAll r delta (sameParts g c) g
  { graph := next.graph
    work := (g.successors id ++ deeperCells g c).map (fun t => ⟨t, delta⟩) ++ next.work
    notices := Notice.onTopic "worklist" (fun _ => c.text id ++ " += " ++ delta.text ++ "\n") ::
      next.notices }

def propagate (r : Rules) (g : Graph) (item : WorkItem) : Progress :=
  let delta := g.missing item.cell item.objects
  if delta.isEmpty then { graph := g }
  else
    let g := absorb g item.cell delta
    match g.cell? item.cell with
    | none => { graph := g }
    | some c => handOn r g item.cell c delta

end DropFlow.Flow
