/-
  DropFlow/Source.lean
  ====================
  Programs as a front end writes them: functions as graphs of basic blocks over typed
  slots, with their statements and terminators still in the words of the front end.

  Kinds of right-hand sides and of operands are text here; what they mean, and whether
  they mean anything, is decided when a function is lowered.
-/
import DropFlow.Finding
import DropFlow.Place

namespace DropFlow

/-! ### 1. Types of places -/

/-- The kinds of static types that aliasing distinguishes. -/
inductive TypeKind where
  /-- Neither unit nor a pointer. -/
  | plain
  /-- The empty tuple. -/
  | unit
  | rawPointer
  | reference
  deriving DecidableEq, Repr, Inhabited

def TypeKind.name : TypeKind → String
  | .plain => "opaque"
  | .unit => "unit"
  | .rawPointer => "raw-pointer"
  | .reference => "reference"

/-- The static type of a place. -/
structure PlaceType where
  kind : TypeKind := .plain
  name : String := ""
  deriving DecidableEq, Repr, Inhabited

def PlaceType.isPointer (t : PlaceType) : Bool := t.kind = .rawPointer || t.kind = .reference

theorem PlaceType.isPointer_iff {t : PlaceType} :
    t.isPointer = true ↔ t.kind = .rawPointer ∨ t.kind = .reference := by
  simp [isPointer]

def PlaceType.isUnit (t : PlaceType) : Bool := t.kind = .unit

structure SlotDecl where
  slot : Int := 0
  type : PlaceType := {}
  needsDrop : Bool := false
  name : String := ""
  deriving DecidableEq, Repr, Inhabited

namespace Source

/-! ### 2. Statements and terminators -/

/-- An operand: a copied or moved place, or a constant. -/
structure Operand where
  kind : String := ""
  place : Option Place := none
  type : PlaceType := {}
  deriving DecidableEq, Repr, Inhabited

/-- The right-hand side of a statement. -/
structure Rvalue where
  kind : String := ""
  place : Option Place := none
  type : PlaceType := {}
  operand : Option Operand := none
  operands : List Operand := []
  deriving DecidableEq, Repr, Inhabited

structure Statement where
  left : Place := ⟨0, []⟩
  rvalue : Rvalue := {}
  location : Location := {}
  deriving DecidableEq, Repr, Inhabited

/-- A call, with the possible targets of a dynamic dispatch. -/
structure Call where
  callee : String := ""
  candidates : List String := []
  arguments : List Operand := []
  destination : Option Place := none
  location : Location := {}
  deriving DecidableEq, Repr, Inhabited

/-- A destructor. -/
structure Drop where
  place : Place := ⟨0, []⟩
  location : Location := {}
  deriving DecidableEq, Repr, Inhabited

/-! ### 3. Blocks, functions and files -/

structure Block where
  id : Int := 0
  successors : List Int := []
  cleanup : Bool := false
  statements : List Statement := []
  call : Option Call := none
  drop : Option Drop := none
  deriving DecidableEq, Repr, Inhabited

/-- A function; without blocks it is only declared. -/
structure Function where
  name : String := ""
  entry : Int := 0
  slots : List SlotDecl := []
  blocks : List Block := []
  deriving DecidableEq, Repr, Inhabited

/-- Whether a function is defined and not only declared. -/
def Function.isDefined (f : Function) : Bool := !f.blocks.isEmpty

structure File where
  functions : List Function := []
  suppressions : List Suppression := []
  deriving DecidableEq, Repr, Inhabited

end Source

end DropFlow
