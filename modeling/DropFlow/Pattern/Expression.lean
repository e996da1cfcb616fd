/-
  DropFlow/Pattern/Expression.lean
  ================================
  Regular expressions over characters, and their matching.

  An expression takes positions of a text to positions of the text: those where a
  match that starts at one of the given positions may end.  Matching works on whole
  sets of positions, so that no expression is slow, and a repetition is followed until
  it leads to no new position, which takes at most as many rounds as the text has
  positions.
-/
import DropFlow.Text.Folding

namespace DropFlow.Pattern

open DropFlow.Text

/-! ### 1. Classes of characters -/

/-- A set of code points: intervals, possibly regardless of case, possibly complemented. -/
structure CharSet where
  negated : Bool := false
  folded : Bool := false
  ranges : List (Nat × Nat)
  deriving DecidableEq, Repr

def inRanges (ranges : List (Nat × Nat)) (n : Nat) : Bool :=
  ranges.any fun (lo, hi) => lo ≤ n && n ≤ hi

def CharSet.contains (s : CharSet) (c : Char) : Bool :=
  let inside := if s.folded then (caseVariants c.toNat).any (inRanges s.ranges)
    else inRanges s.ranges c.toNat
  inside != s.negated

/-- A class of characters: a union of sets, possibly complemented. -/
structure CharClass where
  negated : Bool := false
  parts : List CharSet
  deriving DecidableEq, Repr

def CharClass.contains (k : CharClass) (c : Char) : Bool :=
  (k.parts.any fun s => s.contains c) != k.negated

/-! ### 2. Expressions -/

/-- A condition on a position. -/
inductive Anchor where
  | textStart
  | textEnd
  | lineStart
  | lineEnd
  | wordBoundary
  | noWordBoundary
  deriving DecidableEq, Repr

inductive Expression where
  /-- Matches the empty text. -/
  | empty
  /-- Matches one character of a class. -/
  | one (k : CharClass)
  /-- Matches the empty text at certain positions. -/
  | anchor (a : Anchor)
  | sequence (e f : Expression)
  | either (e f : Expression)
  /-- Any number of matches in a row. -/
  | star (e : Expression)
  /-- So many matches in a row, at least and, if there is a limit, at most. -/
  | counted (least : Nat) (most : Option Nat) (e : Expression)
  deriving Repr, Inhabited

namespace Expression

def sequenceAll : List Expression → Expression
  | [] => .empty
  | [e] => e
  | e :: rest => .sequence e (sequenceAll rest)

def eitherAll : List Expression → Expression
  | [] => .empty
  | [e] => e
  | e :: rest => .either e (eitherAll rest)

/-- Whether the repetitions of an expression multiply to at most `limit`. -/
def repeatsWithin (limit : Nat) : Expression → Bool
  | .counted least most e =>
    match most with
    | some 0 => true
    | some m => m ≤ limit && e.repeatsWithin (limit / m)
    | none =>
      if least = 0 then e.repeatsWithin limit
      else least ≤ limit && e.repeatsWithin (limit / least)
  | .sequence e f => e.repeatsWithin limit && f.repeatsWithin limit
  | .either e f => e.repeatsWithin limit && f.repeatsWithin limit
  | .star e => e.repeatsWithin limit
  | _ => true

end Expression

/-! ### 3. Matching -/

def isWordChar (c : Char) : Bool := c.isAlphanum || c == '_'

/-- Whether a condition holds between two characters of a text. -/
def Anchor.holds (before after : Option Char) : Anchor → Bool
  | .textStart => before.isNone
  | .textEnd => after.isNone
  | .lineStart => before.isNone || before == some '\n'
  | .lineEnd => after.isNone || after == some '\n'
  | .wordBoundary => before.any isWordChar != after.any isWordChar
  | .noWordBoundary => before.any isWordChar == after.any isWordChar

/-- Positions of a text, without repetition. -/
abbrev Positions := List Nat

/-- The positions of either list, without repetition. -/
def addPositions (ps qs : Positions) : Positions :=
  qs.foldl (fun acc q => if acc.contains q then acc else acc ++ [q]) ps

/-- Applies `step` to the newest positions until nothing new is reached. -/
def closure (step : Positions → Positions) : Nat → Positions → Positions → Positions
  | 0, reached, _ => reached
  | rounds + 1, reached, newest =>
    let next := (step newest).filter fun q => !reached.contains q
    if next.isEmpty then reached else closure step rounds (addPositions reached next) next

/-- Applies `step` a number of times. -/
def iterate (step : Positions → Positions) : Nat → Positions → Positions
  | 0, ps => ps
  | n + 1, ps => if ps.isEmpty then ps else iterate step n (step ps)

/-- Applies `step` up to a number of times, and keeps all positions on the way. -/
def iterateUpTo (step : Positions → Positions) : Nat → Positions → Positions
  | 0, ps => ps
  | n + 1, ps => if ps.isEmpty then ps else addPositions ps (iterateUpTo step n (step ps))

/-- The positions where a match of an expression may end, from given start positions. -/
def Expression.advance (text : Array Char) : Expression → Positions → Positions
  | .empty, ps => ps
  | .one k, ps =>
    ps.filterMap fun p =>
      match text[p]? with
      | some c => if k.contains c then some (p + 1) else none
      | none => none
  | .anchor a, ps =>
    ps.filter fun p => a.holds (if p = 0 then none else text[p - 1]?) text[p]?
  | .sequence e f, ps => f.advance text (e.advance text ps)
  | .either e f, ps => addPositions (e.advance text ps) (f.advance text ps)
  -- every round but the last finds a new position
  | .star e, ps => closure (e.advance text) (text.size + 1) ps ps
  | .counted least most e, ps =>
    let start := iterate (e.advance text) least ps
    match most with
    | none => closure (e.advance text) (text.size + 1) start start
    | some m => iterateUpTo (e.advance text) (m - least) start

/-- Whether an expression matches some part of a text. -/
def Expression.occursIn (e : Expression) (s : String) : Bool :=
  let text := s.toList.toArray
  !(e.advance text (List.range (text.size + 1))).isEmpty

end DropFlow.Pattern
