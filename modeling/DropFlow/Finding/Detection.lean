/-
  DropFlow/Finding/Detection.lean
  ===============================
  Findings in a flow graph whose objects have been propagated.

  An edge that uses memory is suspect for every object that its dereferenced end may
  point to and every site where that object is dropped.  Two objects are suspect when
  one of them, being dropped itself, may hold the other: then the drops of either may
  come after the drops of the other.  A suspicion is confirmed when the second block
  can be executed after the first; a pair within one block is not reported.
-/
import DropFlow.Finding
import DropFlow.Flow.Graph
import DropFlow.Log
import DropFlow.Oracle

namespace DropFlow

open DropFlow.Text DropFlow.Flow

/-! ### 1. Suspicions -/

/-- A cell dropped at one site, and a cell touched at another. -/
structure Suspicion where
  first : Int
  firstSite : Site
  second : Int
  secondSite : Site
  deriving DecidableEq, Repr

/-- Whether the two sites are in different blocks. -/
def Suspicion.isApart (s : Suspicion) : Bool := s.firstSite.blockRef ≠ s.secondSite.blockRef

/-- The uses of a cell at a site after each drop of each object it may point to. -/
def useSuspicions (g : Graph) (cell : Int) (site : Site) : List Suspicion :=
  ((g.pointsTo cell).toList.flatMap fun object =>
    (g.dropsOf object).map fun drop => ⟨object, drop, cell, site⟩).filter Suspicion.isApart

def edgeSuspicions (g : Graph) (e : Edge) : List Suspicion :=
  (if e.sourceDeref then useSuspicions g e.source e.site else []) ++
  (if e.targetDeref then useSuspicions g e.target e.site else [])

/-- All uses that may come after a drop. -/
def allUses (g : Graph) : List Suspicion := g.derefEdges.flatMap (edgeSuspicions g)

/-- The drops of two objects, each pair in both orders. -/
def dropPairs (g : Graph) (first then' : Int) : List Suspicion :=
  (g.dropsOf first).flatMap fun s => (g.dropsOf then').flatMap fun t =>
    [⟨first, s, then', t⟩, ⟨then', t, first, s⟩].filter Suspicion.isApart

/-- All drops that may come after a drop of the same memory. -/
def allDrops (g : Graph) : List Suspicion :=
  g.multiDrop.toList.flatMap fun first =>
    ((g.pointsTo first).toList.filter (· ≠ first)).flatMap (dropPairs g first)

/-! ### 2. Confirmation -/

/-- The suspicions whose second block can be executed after the first, in order; nothing if the
    oracle has no answer. -/
def confirm (o : Oracle) : List Suspicion → Oracle × Option (List Suspicion)
  | [] => (o, some [])
  | s :: rest =>
    match o.canReach s.firstSite.blockRef s.secondSite.blockRef with
    | (o, none) => (o, none)
    | (o, some yes) =>
      match confirm o rest with
      | (o, none) => (o, none)
      | (o, some confirmed) => (o, some (if yes then s :: confirmed else confirmed))

/-- The confirmed suspicions of a graph. -/
structure Detected where
  uses : List Suspicion
  drops : List Suspicion
  deriving DecidableEq, Repr

def Detected.notices (g : Graph) (d : Detected) : List Notice :=
  [⟨.topic "check", fun _ =>
    (d.uses.map fun s => "uaf: " ++ g.cellText s.first ++ " dropped at " ++ s.firstSite.text ++
      ", used by " ++ g.cellText s.second ++ " at " ++ s.secondSite.text ++ "\n") ++
    (d.drops.map fun s => "df: " ++ g.cellText s.first ++ " dropped at " ++ s.firstSite.text ++
      ", then " ++ g.cellText s.second ++ " dropped at " ++ s.secondSite.text ++ "\n")⟩]

/-- Finds the uses and drops after a drop. -/
def detect (g : Graph) (o : Oracle) : Oracle × Option Detected :=
  match confirm o (allUses g) with
  | (o, none) => (o, none)
  | (o, some uses) =>
    match confirm o (allDrops g) with
    | (o, none) => (o, none)
    | (o, some drops) =>
      let d : Detected := ⟨uses, drops⟩
      ({ o with notices := o.notices ++ d.notices g }, some d)

/-- The finding of a suspicion, with the names of the variables. -/
def Suspicion.finding (g : Graph) (s : Suspicion) : Finding :=
  ⟨s.firstSite.location, g.nameOf s.first, s.secondSite.location, g.nameOf s.second⟩

/-- Merges what was detected in a graph. -/
def Merger.addDetected (m : Merger) (g : Graph) (d : Detected) : Merger :=
  m.addAll (d.uses.map (·.finding g)) (d.drops.map (·.finding g))

end DropFlow
