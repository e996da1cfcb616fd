/-
  DropFlow/Flow/Graph.lean
  ========================
  The pointer flow graph of one entry point.

  A cell is a place in an activation: a function together with the call through which
  it was reached.  Edges say that what the source may hold flows into the target.  A
  cell that is dropped somewhere is an abstract object, named by the number of the
  cell; a cell holds the set of objects that it may point to.

  Cells are numbered in the order of their creation.  Cells, edges and drop sites are
  only ever added, and the sets of objects only grow.  What is usually kept as an
  index (the cells of a slot, the edges that leave a cell, the edges that use memory)
  is here a view of the two tables.
-/
import DropFlow.IdSet
import DropFlow.Location
import DropFlow.Place

namespace DropFlow

open DropFlow.Text

/-! ### 1. Activations -/

/-- How a function was reached: as an entry, or by the call at the end of a block. -/
inductive Context where
  | entry
  | call (caller block : Int)
  deriving DecidableEq, Repr, Inhabited

/-- The context of a calling block; the block −1 of the function −1 stands for no call. -/
def Context.ofBlock (caller block : Int) : Context :=
  if caller = -1 ∧ block = -1 then .entry else .call caller block

def Context.text : Context → String
  | .entry => "entry"
  | .call caller block => (BlockRef.mk caller block).text

/-- A function in a calling context. -/
structure Activation where
  function : Int
  context : Context := .entry
  deriving DecidableEq, Repr, Inhabited

def Activation.text (a : Activation) : String :=
  "f" ++ decimal a.function ++ "@" ++ a.context.text

namespace Flow

/-! ### 2. Cells and edges -/

/-- A place in an activation, with what is known of it. -/
structure Cell where
  activation : Activation
  place : Place
  /-- The source name of the slot, if known. -/
  name : String := ""
  /-- The sites where the place is destroyed. -/
  drops : List Site := []
  /-- The objects that the place may point to. -/
  objects : IdSet := ∅
  deriving DecidableEq, Repr, Inhabited

/-- What tells a cell from all others: its activation and its place. -/
def Cell.address (c : Cell) : Activation × Place := (c.activation, c.place)

/-- Whether a cell is an abstract object. -/
def Cell.isObject (c : Cell) : Bool := !c.drops.isEmpty

def Cell.text (c : Cell) (id : Int) : String :=
  "n" ++ decimal id ++ "[" ++ c.activation.text ++ " " ++ c.place.text ++ "]"

/-- The objects of the source flow into the target.  The flags tell which end is accessed
    through a pointer. -/
structure Edge where
  source : Int
  target : Int
  site : Site
  sourceDeref : Bool
  targetDeref : Bool
  deriving DecidableEq, Repr

/-- Whether an edge uses the memory behind one of its ends. -/
def Edge.isDeref (e : Edge) : Bool := e.sourceDeref || e.targetDeref

/-- Objects that wait to be added to a cell. -/
structure WorkItem where
  cell : Int
  objects : IdSet
  deriving DecidableEq, Repr

/-! ### 3. The graph -/

/-- The pointer flow graph.  No two cells have the same address. -/
structure Graph where
  cells : Array Cell := #[]
  /-- The edges in the order of insertion. -/
  edges : Array Edge := #[]
  /-- The objects that may hold another object. -/
  multiDrop : IdSet := ∅
  distinct : (cells.toList.map Cell.address).Nodup := by simp
  deriving DecidableEq, Repr

namespace Graph

def size (g : Graph) : Nat := g.cells.size

def cell? (g : Graph) (id : Int) : Option Cell :=
  if 0 ≤ id then g.cells[id.toNat]? else none

/-- The cells with their numbers. -/
def numbered (g : Graph) : List (Int × Cell) :=
  g.cells.toList.zipIdx.map fun (c, i) => ((i : Int), c)

/-- The number of the cell of a place. -/
def find? (g : Graph) (a : Activation) (p : Place) : Option Int :=
  (g.cells.findIdx? fun c => c.address = (a, p)).map fun (i : Nat) => (i : Int)

theorem address_notMem_of_find?_eq_none {g : Graph} {a : Activation} {p : Place}
    (h : g.find? a p = none) : (a, p) ∉ g.cells.toList.map Cell.address := by
  intro hm
  obtain ⟨c, hc, hcp⟩ := List.mem_map.mp hm
  have hnone : (g.cells.findIdx? fun c => decide (c.address = (a, p))) = none := by
    unfold find? at h
    exact Option.map_eq_none_iff.mp h
  have := (Array.findIdx?_eq_none_iff.mp hnone) c (Array.mem_toList_iff.mp hc)
  simp [hcp] at this

/-- Adds the cell of a place that has none. -/
def addCell (g : Graph) (c : Cell) (h : c.address ∉ g.cells.toList.map Cell.address) : Graph :=
  { g with
    cells := g.cells.push c
    distinct := by
      rw [Array.toList_push, List.map_append, List.nodup_append]
      refine ⟨g.distinct, by simp, ?_⟩
      intro x hx y hy
      simp only [List.map_cons, List.map_nil, List.mem_singleton] at hy
      subst hy
      exact fun e => h (e ▸ hx) }

/-- The number of the cell of a place, which is created if it does not exist. -/
def ensure (g : Graph) (a : Activation) (p : Place) (name : String) : Graph × Int :=
  match h : g.find? a p with
  | some id => (g, id)
  | none =>
    (g.addCell { activation := a, place := p, name } (address_notMem_of_find?_eq_none h), g.size)

theorem map_address_modify (cells : Array Cell) (i : Nat) (f : Cell → Cell)
    (hf : ∀ c, (f c).address = c.address) :
    (cells.modify i f).toList.map Cell.address = cells.toList.map Cell.address := by
  rw [Array.toList_modify]
  generalize cells.toList = l
  induction l generalizing i with
  | nil => simp
  | cons c rest ih =>
    cases i with
    | zero => simp [hf]
    | succ i => simp [ih]

/-- Changes the cell with a number, but not its address. -/
def modifyCell (g : Graph) (id : Int) (f : Cell → Cell) (hf : ∀ c, (f c).address = c.address) :
    Graph :=
  if 0 ≤ id then
    { g with
      cells := g.cells.modify id.toNat f
      distinct := by rw [map_address_modify _ _ _ hf]; exact g.distinct }
  else g

/-- The cells of a slot of an activation, in the order of creation. -/
def slotCells (g : Graph) (a : Activation) (slot : Int) : List (Int × Cell) :=
  g.numbered.filter fun (_, c) => c.activation = a && c.place.slot = slot

/-- The cells of an activation, in the order of their keys. -/
def cellsOf (g : Graph) (a : Activation) : List (Int × Cell) :=
  (g.numbered.filter fun (_, c) => c.activation = a).mergeSort
    fun x y => decide (x.2.place.key ≤ y.2.place.key)

/-- The activations of the cells, in the order of their first cells. -/
def activations (g : Graph) : List Activation :=
  g.cells.foldl (fun seen c =>
    if seen.contains c.activation then seen else seen ++ [c.activation]) []

/-- The abstract objects, in increasing order. -/
def objects (g : Graph) : List Int :=
  (g.numbered.filter fun (_, c) => c.isObject).map (·.1)

def pointsTo (g : Graph) (id : Int) : IdSet :=
  match g.cell? id with
  | some c => c.objects
  | none => ∅

def dropsOf (g : Graph) (id : Int) : List Site :=
  match g.cell? id with
  | some c => c.drops
  | none => []

def nameOf (g : Graph) (id : Int) : String :=
  match g.cell? id with
  | some c => c.name
  | none => ""

def cellText (g : Graph) (id : Int) : String :=
  match g.cell? id with
  | some c => c.text id
  | none => ""

/-! ### 4. Edges -/

def edge? (g : Graph) (source target : Int) : Option Edge :=
  g.edges.find? fun e => e.source = source && e.target = target

def hasEdge (g : Graph) (source target : Int) : Bool :=
  g.edges.any fun e => e.source = source && e.target = target

/-- The edges that leave a cell, in the order of insertion. -/
def edgesFrom (g : Graph) (source : Int) : List Edge :=
  g.edges.toList.filter fun e => e.source = source

/-- The targets of the edges that leave a cell, in the order of insertion. -/
def successors (g : Graph) (source : Int) : List Int := (g.edgesFrom source).map (·.target)

/-- All edges, by source and then in the order of insertion. -/
def allEdges (g : Graph) : List Edge :=
  (List.range g.size).flatMap fun (i : Nat) => g.edgesFrom (i : Int)

/-- The edges that use memory, in the order of insertion. -/
def derefEdges (g : Graph) : List Edge := g.edges.toList.filter Edge.isDeref

/-- How a flow comes about. -/
inductive Passing where
  /-- An assignment or a result: an end is a use of memory if its place follows a pointer. -/
  | value
  /-- An argument: handing an object over is a use of it, on both ends. -/
  | argument
  deriving DecidableEq, Repr

/-- Whether the place of a cell follows a pointer. -/
def derefAt (g : Graph) (id : Int) : Bool :=
  match g.cell? id with
  | some c => c.place.hasDeref
  | none => false

/-- Adds an edge unless there is one between the two cells, together with the work that it
    brings: what the source already points to is scheduled for the target. -/
def connect (g : Graph) (source target : Int) (site : Site) (passing : Passing) :
    Graph × List WorkItem :=
  if g.hasEdge source target then (g, [])
  else
    let edge : Edge := match passing with
      | .value => ⟨source, target, site, g.derefAt source, g.derefAt target⟩
      | .argument => ⟨source, target, site, true, true⟩
    let known := g.pointsTo source
    ({ g with edges := g.edges.push edge },
      if known.isEmpty then [] else [⟨target, known⟩])

/-- Adds an edge between cells that have to exist: the source, and for a value the target. -/
def connect? (g : Graph) (source target : Int) (site : Site) (passing : Passing) :
    Option (Graph × List WorkItem) := do
  let _ ← g.cell? source
  match passing with
  | .value =>
    let _ ← g.cell? target
    return g.connect source target site passing
  | .argument => return g.connect source target site passing

/-! ### 5. Drops and objects -/

def addDrop (g : Graph) (id : Int) (site : Site) : Graph :=
  g.modifyCell id (fun c => { c with drops := c.drops ++ [site] }) fun _ => rfl

/-- The objects of a set that a cell does not yet point to. -/
def missing (g : Graph) (id : Int) (set : IdSet) : IdSet := set.diff (g.pointsTo id)

/-- Adds objects to what a cell points to. -/
def addObjects (g : Graph) (id : Int) (set : IdSet) : Graph :=
  g.modifyCell id (fun c => { c with objects := c.objects.union set }) fun _ => rfl

/-- Records that an object may hold another one. -/
def markMultiDrop (g : Graph) (id : Int) : Graph :=
  { g with multiDrop := g.multiDrop.insert id }

end Graph

end Flow

end DropFlow
