/-
  DropFlow/Text/Property.lean
  ===========================
  Properties of characters: the general category and the script of every code point.

  A property is written down as the list of its runs.  A run is the number of code
  points that it extends over and their common value; the runs follow each other from
  the first code point to the last.
-/
import DropFlow.Text.Real
import DropFlow.Text.Space

namespace DropFlow.Text

/-- A run: its first and its last code point, and their common value. -/
abbrev Run := Nat × Nat × String

/-- Reads lines of runs, which blanks divide. -/
def readRuns (table : List String) : List Run :=
  let add (state : Nat × Array Run) (item : String) : Nat × Array Run :=
    let (length, value) := spanDigits item.toList
    let next := state.1 + digitsValue length
    (next, state.2.push (state.1, next - 1, String.ofList value))
  ((table.flatMap (split ' ')).foldl add (0, #[])).2.toList

/-- The intervals of the runs whose value satisfies a test. -/
def rangesOf (table : List String) (test : String → Bool) : List (Nat × Nat) :=
  (readRuns table).filterMap fun (first, last, value) =>
    if test value then some (first, last) else none

end DropFlow.Text
