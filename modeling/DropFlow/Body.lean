/-
  DropFlow/Body.lean
  ==================
  Function bodies as the analysis sees them: every statement is reduced to
  assignments from one place to another, and a block ends with at most one call or
  drop.

  An assignment matters to the analysis when it creates an alias.  Moves, borrows and
  raw addresses always do.  A copy does when what is copied is a pointer, or when it
  is reached through one.  The same rule holds for the arguments of a call.
-/
import DropFlow.Source

namespace DropFlow

open DropFlow.Text

/-! ### 1. Assignments -/

/-- How the right-hand place of an assignment is used. -/
inductive AssignKind where
  | copy
  | move
  | ref
  /-- A raw pointer to the place. -/
  | addressOf
  deriving DecidableEq, Repr, Inhabited

def AssignKind.text : AssignKind → String
  | .copy => "copy"
  | .move => "move"
  | .ref => "&"
  | .addressOf => "&raw"

structure Assignment where
  left : Place
  right : Place
  type : PlaceType
  kind : AssignKind
  location : Location
  deriving DecidableEq, Repr, Inhabited

/-- Whether the left place may afterwards reach the object of the right place. -/
def Assignment.createsAlias (a : Assignment) : Bool :=
  a.kind ≠ .copy || a.type.isPointer || a.right.hasDeref

/-- An assignment makes no alias only if it copies what is no pointer and is not behind one. -/
theorem Assignment.createsAlias_iff {a : Assignment} : a.createsAlias = true ↔
    a.kind ≠ .copy ∨ (a.type.kind = .rawPointer ∨ a.type.kind = .reference) ∨
      .deref ∈ a.right.steps := by
  rw [createsAlias, Bool.or_eq_true, Bool.or_eq_true, decide_eq_true_eq, PlaceType.isPointer_iff,
    Place.hasDeref_iff, or_assoc]

/-! ### 2. Calls and drops -/

inductive Argument where
  | copy (place : Place) (type : PlaceType)
  | move (place : Place) (type : PlaceType)
  | constant
  deriving DecidableEq, Repr, Inhabited

namespace Argument

/-- The place of an argument; a constant stands in for the result slot. -/
def place : Argument → Place
  | .copy p _ => p
  | .move p _ => p
  | .constant => ⟨resultSlot, []⟩

def type : Argument → PlaceType
  | .copy _ t => t
  | .move _ t => t
  | .constant => {}

/-- Whether passing the argument links its place to the parameter. -/
def createsAlias : Argument → Bool
  | .copy p t => t.isPointer || p.hasDeref
  | .move .. => true
  | .constant => false

/-- The rule of assignments: a moved argument makes an alias, and a copied one does if it is a
    pointer or behind one. -/
theorem createsAlias_iff {arg : Argument} : arg.createsAlias = true ↔
    (∃ p t, arg = .move p t) ∨ ∃ p t, arg = .copy p t ∧
      ((t.kind = .rawPointer ∨ t.kind = .reference) ∨ .deref ∈ p.steps) := by
  cases arg with
  | copy p t =>
    rw [createsAlias, Bool.or_eq_true, PlaceType.isPointer_iff, Place.hasDeref_iff]
    simp [and_assoc]
  | move p t => simp [createsAlias]
  | constant => simp [createsAlias]

def text : Argument → String
  | .copy p _ => "copy " ++ p.text
  | .move p _ => "move " ++ p.text
  | .constant => "const"

end Argument

structure Call where
  callee : String
  candidates : List String
  arguments : List Argument
  /-- Where the result goes, if the call returns a value. -/
  destination : Option Place
  location : Location
  deriving DecidableEq, Repr, Inhabited

/-- How a block ends, apart from its successors. -/
inductive Terminator where
  | plain
  | call (c : Call)
  | drop (place : Place) (location : Location)
  deriving DecidableEq, Repr, Inhabited

/-! ### 3. Blocks and bodies -/

structure Block where
  id : Int
  successors : List Int
  assignments : List Assignment
  terminator : Terminator
  /-- Whether the block is only executed during unwinding. -/
  cleanup : Bool
  deriving DecidableEq, Repr, Inhabited

def Block.call? (b : Block) : Option Call :=
  match b.terminator with
  | .call c => some c
  | _ => none

structure Body where
  id : Int
  name : String
  entry : Int
  slots : List SlotDecl
  blocks : List Block
  deriving DecidableEq, Repr, Inhabited

namespace Body

def slot? (f : Body) (slot : Int) : Option SlotDecl := f.slots.find? (·.slot = slot)

/-- The source name of the slot of a place; empty if it has none. -/
def varName (f : Body) (p : Place) : String :=
  match f.slot? p.slot with
  | some d => d.name
  | none => ""

def block? (f : Body) (id : Int) : Option Block := f.blocks.find? (·.id = id)

/-- The successors of a block; an unknown block has none. -/
def successors (f : Body) (id : Int) : List Int :=
  match f.block? id with
  | some b => b.successors
  | none => []

/-! ### 4. The listing -/

def terminatorLines : Terminator → String
  | .plain => ""
  | .call c =>
    let destination := match c.destination with
      | some p => p.text
      | none => "_"
    "    " ++ destination ++ " = call " ++ c.callee ++ "(" ++
      ", ".intercalate (c.arguments.map Argument.text) ++ ")\n"
  | .drop p _ => "    drop(" ++ p.text ++ ")\n"

def blockLines (b : Block) : String :=
  "  bb" ++ decimal b.id ++ (if b.cleanup then " (cleanup)" else "") ++ ":\n" ++
  String.join (b.assignments.map fun a =>
    "    " ++ a.left.text ++ " = " ++ a.kind.text ++ " " ++ a.right.text ++ "\n") ++
  terminatorLines b.terminator ++
  (if b.successors.isEmpty then ""
   else "    -> " ++ ", ".intercalate (b.successors.map fun s => "bb" ++ decimal s) ++ "\n")

def listing (f : Body) : String :=
  "fn " ++ f.name ++ " (f" ++ decimal f.id ++ ") entry bb" ++ decimal f.entry ++ "\n" ++
  String.join (f.blocks.map blockLines)

end Body

end DropFlow
