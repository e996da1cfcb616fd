/-
  DropFlow/Place.lean
  ===================
  Places: a slot of a function, followed by the steps that lead from the slot to a
  part of what it holds.

  A step follows a pointer, selects a field, selects an element (all elements are
  one abstract element) or selects a variant.  Steps have a textual form of their
  own, read leniently (white space around it, two spellings for two of them, signs
  and leading zeros in an index) and written in one canonical way.

  A place has two printed forms.  The *key* lists the steps after the slot and is
  what places are sorted by; the *text* is the compact notation of messages and
  drawings, in which a step may wrap what stands before it: `(*_1).0`.
-/
import DropFlow.Text.Decimal
import DropFlow.Text.Quoted
import DropFlow.Text.Space

namespace DropFlow

open DropFlow.Text

/-! ### 1. Steps -/

/-- One step from a place to a part of it. -/
inductive Projection where
  /-- Follows a pointer. -/
  | deref
  /-- Selects the field with an index. -/
  | field (index : Nat)
  /-- Selects an element of an array or a slice. -/
  | index
  /-- Selects the variant with an index. -/
  | downcast (index : Nat)
  deriving DecidableEq, Repr, Inhabited

namespace Projection

/-- The characters of a step in its canonical spelling. -/
def chars : Projection → List Char
  | .deref => "deref".toList
  | .field i => "field:".toList ++ digits i
  | .index => "index".toList
  | .downcast i => "downcast:".toList ++ digits i

/-- A step in its canonical spelling. -/
def text (p : Projection) : String := String.ofList p.chars

/-- Why a text is no step; each cause carries the text as it was given. -/
inductive ParseError where
  | unknown (text : String)
  | indexMissing (text : String)
  | indexInvalid (text : String)
  | indexUnexpected (text : String)
  deriving DecidableEq, Repr

def ParseError.message : ParseError → String
  | .unknown s => "unknown projection " ++ quoted s
  | .indexMissing s => "projection " ++ quoted s ++ " needs an index"
  | .indexInvalid s => "invalid index in projection " ++ quoted s
  | .indexUnexpected s => "projection " ++ quoted s ++ " does not take an index"

/-- A step without an index: nothing may follow its name. -/
def bare (s : String) (p : Projection) : Option (List Char) → Except ParseError Projection
  | none => .ok p
  | some _ => .error (.indexUnexpected s)

/-- A step with an index: a number that is not negative has to follow its name. -/
def indexed (s : String) (make : Nat → Projection) :
    Option (List Char) → Except ParseError Projection
  | none => .error (.indexMissing s)
  | some cs =>
    match readWord? cs with
    | some (.ofNat i) => .ok (make i)
    | _ => .error (.indexInvalid s)

/-- Reads a step: a name, and for two of the four names a colon and an index.  White space
    around the whole is skipped. -/
def parse (s : String) : Except ParseError Projection :=
  let (name, argument) := cutChars ':' (trimChars s.toList)
  if name = "deref".toList ∨ name = "*".toList then bare s .deref argument
  else if name = "field".toList then indexed s .field argument
  else if name = "index".toList ∨ name = "[]".toList then bare s .index argument
  else if name = "downcast".toList then indexed s .downcast argument
  else .error (.unknown s)

end Projection

/-! ### 2. Places -/

/-- A slot of a function and the steps from it; slot 0 holds the result of the function and
    slots 1, 2, … its parameters. -/
structure Place where
  slot : Int
  steps : List Projection := []
  deriving DecidableEq, Repr, Inhabited

/-- The slot that holds the result of a function. -/
def resultSlot : Int := 0

def slotText (slot : Int) : String := "_" ++ decimal slot

namespace Place

def depth (p : Place) : Nat := p.steps.length

/-- Whether a step follows a pointer. -/
def hasDeref (p : Place) : Bool := p.steps.contains .deref

theorem hasDeref_iff {p : Place} : p.hasDeref = true ↔ .deref ∈ p.steps :=
  List.contains_iff_mem

/-- The place that further steps lead to. -/
def append (p : Place) (suffix : List Projection) : Place :=
  { p with steps := p.steps ++ suffix }

/-- Whether `q` is `p` or a part of it: the same slot, and the steps of `p` come first. -/
def covers (p q : Place) : Bool := p.slot == q.slot && p.steps.isPrefixOf q.steps

/-- Whether `q` is a part of `p` and not `p` itself. -/
def strictlyCovers (p q : Place) : Bool := p.depth < q.depth && p.covers q

/-- `p` is a strict prefix of `q`: the same slot, the steps of `p` come first, and the two
    places are not the same. -/
def StrictPrefix (p q : Place) : Prop := p.slot = q.slot ∧ p.steps <+: q.steps ∧ p ≠ q

theorem strictlyCovers_iff {p q : Place} : p.strictlyCovers q = true ↔ p.StrictPrefix q := by
  rw [strictlyCovers, covers, Bool.and_eq_true, Bool.and_eq_true, decide_eq_true_eq, beq_iff_eq,
    List.isPrefixOf_iff_prefix]
  constructor
  · rintro ⟨hlt, hslot, hprefix⟩
    refine ⟨hslot, hprefix, ?_⟩
    rintro rfl
    exact Nat.lt_irrefl _ hlt
  · rintro ⟨hslot, hprefix, hne⟩
    refine ⟨Nat.lt_of_not_le fun hle => hne ?_, hslot, hprefix⟩
    -- a prefix that is no shorter is the whole
    have hsteps : p.steps = q.steps := hprefix.eq_of_length_le hle
    cases p
    cases q
    cases hslot
    cases hsteps
    rfl

/-- The steps that lead from `p` to `q`, if `p` covers `q`. -/
def stepsTo (p q : Place) : List Projection := q.steps.drop p.depth

def keyChars (p : Place) : List Char :=
  decimalChars p.slot ++ p.steps.flatMap fun s => '.' :: s.chars

/-- The slot and the canonical spelling of each step, divided by points. -/
def key (p : Place) : String := String.ofList p.keyChars

/-- The notation of a place after one more step. -/
def wrap (inner : List Char) : Projection → List Char
  | .deref => "(*".toList ++ inner ++ [')']
  | .field i => inner ++ '.' :: digits i
  | .index => inner ++ "[_]".toList
  | .downcast i => '(' :: inner ++ " as ".toList ++ digits i ++ [')']

/-- The characters of the compact notation. -/
def textChars (p : Place) : List Char := p.steps.foldl wrap ('_' :: decimalChars p.slot)

def text (p : Place) : String := String.ofList p.textChars

end Place

end DropFlow
